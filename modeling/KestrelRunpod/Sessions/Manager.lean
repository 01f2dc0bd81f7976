import KestrelRunpod.Interleave.System
import Mathlib.Algebra.Ring.Int.Defs

/-!
# The session manager

The calls to one manager interleave at their awaits.  A section under the manager's lock that
awaits nothing is one operation, which waits for the lock; `start_session` alone holds the lock
across a call to its provider.  A session is named by its place among all that there were, as
`self._session is session` compares identities.

What the provider answers, when a call is cancelled and what the host writes into a session is as
it may be.
-/

namespace KestrelRunpod.Sessions

open Interleave Interleave.Program

/-! ## Sessions -/

/-- `PodStatus`. -/
inductive PodStatus
  | offline
  | provisioning
  | loading
  | ready
  | terminating
  | error
  deriving DecidableEq, Repr

/-- `GPUProfile`, as far as a session is made of it. -/
structure GpuProfile where
  id : String
  defaultModel : Option String
  podType : Option String
  deriving DecidableEq, Repr

/-- `RunPodSession`, less its prices and its endpoints. -/
structure Session where
  podId : String
  profile : GpuProfile
  taskProfile : String
  modelName : String
  podType : Option String
  status : PodStatus
  ttlSeconds : Int
  startedAt : Int
  expiresAt : Int
  backendBaseUrl : Option String
  gpuTypeId : Option String
  companionId : Option String
  userId : Option String
  trainingCleanupToken : Option String
  deriving DecidableEq, Repr

/-- `RunPodSession.is_active`. -/
def Session.isActive (session : Session) : Bool :=
  session.status != .offline && session.status != .terminating && session.status != .error

/-- An optional text that is true in a condition. -/
def given : Option String → Option String
  | some text => if text = "" then none else some text
  | none => none

/-- The arguments of the metering callback; the provider is always `"runpod"`. -/
structure Usage where
  companionId : String
  userId : String
  resourceType : String
  duration : Int
  operationId : String
  deriving DecidableEq, Repr

/-- The usage that is metered of a session, if it has a metering context. -/
def Session.usage (session : Session) (now : Int) : Option Usage := do
  let companionId ← given session.companionId
  let userId ← given session.userId
  some ⟨companionId, userId, (given session.gpuTypeId).getD "unknown", now - session.startedAt,
    session.podId⟩

/-! ## Operations -/

/-- What is raised. -/
inductive Failure
  | manager (message : String)
  | ambiguous (message : String)
  | other (className : String)
  | cancelled
  deriving DecidableEq, Repr

/-- `_kestrel_placement` of a response. -/
inductive Placement
  | absent
  | invalid
  | decided (gpuId : String)
  deriving DecidableEq, Repr

/-- What `start_pod` returns. -/
structure Response where
  id : Option String
  podId : Option String
  placement : Placement
  gpuId : Option String
  deriving DecidableEq, Repr

/-- What `_update_session_from_runtime` makes of a Pod; nothing, if there is none. -/
abbrev Observation : Type := Option (PodStatus × Option String)

/-- The operations of the calls.  `capture`, `readUrl`, `clear` and `clearPod` are whole sections
under the lock, `enter` takes it, and `publish` and `leave` release it. -/
inductive Op
  | capture
  | enter
  | startPod (profileId : String)
  | now
  | publish (session : Session)
  | leave
  | getStatus (podId : String)
  | update (s : ℕ) (seen : Observation)
  | read (s : ℕ)
  | readUrl (s : ℕ)
  | beforeDeadline
  | sleep
  | releaseTraining (token : String)
  | stopPod (s : ℕ) (podId : String)
  | terminatePod (podId : String)
  | setStatus (s : ℕ) (status : PodStatus)
  | clear (s : ℕ)
  | clearPod (podId : String)
  | usage (s : ℕ)
  | meter (s : ℕ) (usage : Usage)
  deriving DecidableEq

@[reducible] def Reply : Op → Type
  | .capture => Except Failure (Option (ℕ × Session))
  | .enter => Except Failure Bool
  | .startPod _ => Except Failure Response
  | .now => Int
  | .getStatus _ => Except Failure Observation
  | .read _ => Session
  | .readUrl _ => Except Failure (Option String)
  | .beforeDeadline => Bool
  | .sleep => Except Failure Unit
  | .releaseTraining _ => Except Failure String
  | .stopPod _ _ => Except Failure Unit
  | .terminatePod _ => Except Failure Unit
  | .clear _ => Except Failure Unit
  | .clearPod _ => Except Failure Unit
  | .usage _ => Option Usage
  | .meter _ _ => Except Failure Unit
  | _ => Unit

abbrev Calls : Signature := ⟨Op, Reply⟩

abbrev Past : Type := History Calls

/-- A call. -/
abbrev Task : Type → Type := Program Calls Failure

/-- Perform one operation. -/
def perform (op : Op) : Task (Reply op) := ask (S := Calls) op

/-- Go on with the value of a reply, or raise its failure. -/
def attempt {α : Type} (p : Task (Except Failure α)) : Task α := do
  let reply ← p
  ofExcept reply

/-! ## The world -/

/-- All the sessions there were, the current one, the lock, the metering callback and the
clock. -/
structure World where
  sessions : List Session
  current : Option ℕ
  locked : Bool
  metering : Bool
  clock : Int

def World.initial : World := ⟨[], none, false, false, 0⟩

namespace World

/-- `self._session`. -/
def session (w : World) : Option (ℕ × Session) := do
  let s ← w.current
  let session ← w.sessions[s]?
  some (s, session)

/-- Write to the attributes of a session. -/
def write (w : World) (s : ℕ) (change : Session → Session) : World :=
  { w with sessions := w.sessions.modify s change }

/-- Make another session the current one. -/
def adopt (w : World) (session : Session) : World :=
  { w with sessions := w.sessions ++ [session], current := some w.sessions.length }

/-- The session is not the current one any more. -/
def dismiss (w : World) (s : ℕ) : World :=
  { w with current := if w.current = some s then none else w.current }

/-- The usage of a session, while a callback is set. -/
def usage (w : World) (s : ℕ) : Option Usage :=
  if w.metering then (w.sessions[s]?).bind fun session => session.usage w.clock else none

/-- `_update_session_from_runtime`. -/
def update (w : World) (s : ℕ) : Observation → World
  | none => w
  | some (status, url) => w.write s fun session =>
      { session with status := status, backendBaseUrl := url }

/-- One operation of a call; `none` where it cannot happen with this reply. -/
def perform (w : World) : Event Calls → Option World
  | ⟨.capture, .ok found⟩ =>
      if w.locked = false ∧ w.session = found then some w else none
  | ⟨.enter, .ok active⟩ =>
      if w.locked = false ∧ (w.session.any fun found => found.2.isActive) = active then
        some { w with locked := true }
      else none
  | ⟨.now, time⟩ => if w.clock = time then some w else none
  | ⟨.publish session, _⟩ => some { w.adopt session with locked := false }
  | ⟨.leave, _⟩ => some { w with locked := false }
  | ⟨.update s seen, _⟩ => some (w.update s seen)
  | ⟨.read s, session⟩ => if w.sessions[s]? = some session then some w else none
  | ⟨.readUrl s, .ok url⟩ =>
      if w.locked = false ∧ (w.sessions[s]?).bind Session.backendBaseUrl = url then some w
      else none
  | ⟨.setStatus s status, _⟩ => some (w.write s fun session => { session with status := status })
  | ⟨.clear s, .ok _⟩ => if w.locked = false then some (w.dismiss s) else none
  | ⟨.clearPod podId, .ok _⟩ =>
      if w.locked then none
      else
        match w.session with
        | some (s, session) =>
            if session.podId = podId then
              some ((w.write s fun session => { session with status := .offline }).dismiss s)
            else some w
        | none => some w
  | ⟨.usage s, usage⟩ => if w.usage s = usage then some w else none
  | _ => some w

/-- What changes the manager besides the calls: the clock, the host, which sets the callback and
writes the metering context of a session, and the other methods that make a session current
(`resume_stopped_pod`, `_record_training_session`) or dismiss it (`release_training_pod`). -/
inductive Drift
  | tick (clock : Int)
  | setMeteringCallback (set : Bool)
  | assign (s : ℕ) (companionId userId : Option String)
  | adopt (session : Session)
  | dismiss

def drift (w : World) : Drift → Option World
  | .tick clock => some { w with clock := clock }
  | .setMeteringCallback set => some { w with metering := set }
  | .assign s companionId userId => some (w.write s fun session =>
      { session with companionId := companionId, userId := userId })
  | .adopt session => if w.locked then none else some (w.adopt session)
  | .dismiss => if w.locked then none else some { w with current := none }

end World

/-- The runtime of one manager. -/
def runtime : Runtime Calls World World.Drift := ⟨World.perform, World.drift⟩

/-! ## Calls -/

/-- `RunPodManager`, as it is configured: `shown` is the text of a list of profile names. -/
structure Manager where
  profiles : List (String × GpuProfile)
  shown : List String → String
  defaultTtlSeconds : Int
  maxTtlSeconds : Int
  terminates : Bool
  releasesTraining : Bool

/-- The arguments of `start_session`, less the metadata that only the provider reads. -/
structure Start where
  taskProfile : String
  modelName : Option String
  ttlSeconds : Option Int
  podType : Option String

/-- What the calls return; of a session that is its name, whether it is active, and its status. -/
inductive Payload
  | offline
  | session (s : ℕ) (active : Bool) (status : PodStatus)
  | released (s : ℕ) (cleanupState : String)

section

variable (m : Manager)

/-- `_select_profile`. -/
def selectProfile (taskProfile : String) : Except Failure GpuProfile :=
  match (m.profiles.find? fun entry => entry.1 = taskProfile).map Prod.snd with
  | some profile => .ok profile
  | none => .error (.manager ("Unknown task_profile '" ++ taskProfile ++ "'. Available: " ++
      m.shown (m.profiles.map Prod.fst)))

/-- `_validate_ttl`; no seconds are the default, and so are none at all. -/
def validateTtl (ttlSeconds : Option Int) : Except Failure Int :=
  let ttl := match ttlSeconds with
    | some seconds => if seconds = 0 then m.defaultTtlSeconds else seconds
    | none => m.defaultTtlSeconds
  if m.maxTtlSeconds < ttl then
    .error (.manager ("TTL " ++ toString ttl ++ "s exceeds max allowed " ++
      toString m.maxTtlSeconds ++ "s"))
  else .ok ttl

/-- `get_status`, with a refresh. -/
def getStatus : Task Payload := do
  let found ← attempt (perform .capture)
  match found with
  | none => .pure .offline
  | some (s, session) => do
      let seen ← attempt (perform (.getStatus session.podId))
      perform (.update s seen)
      let session ← perform (.read s)
      .pure (.session s session.isActive session.status)

/-- The first loop of `_wait_until_ready`, for as many turns. -/
def awaitReady : ℕ → Task Unit
  | 0 => .stall
  | turns + 1 => do
      let before ← perform .beforeDeadline
      if before then do
        let status ← getStatus
        match status with
        | .session _ _ .ready => .pure ()
        | _ => do
            attempt (perform .sleep)
            awaitReady turns
      else .throw (.manager "RunPod pod did not become ready before timeout")

/-- The second loop of `_wait_until_ready`, for as many turns. -/
def awaitUrl (s : ℕ) : ℕ → Task Unit
  | 0 => .stall
  | turns + 1 => do
      let before ← perform .beforeDeadline
      if before then do
        let url ← attempt (perform (.readUrl s))
        match given url with
        | some _ => .pure ()
        | none => do
            let _ ← getStatus
            attempt (perform .sleep)
            awaitUrl s turns
      else .pure ()

/-- `_wait_until_ready`. -/
def waitUntilReady (turns : ℕ) : Task Unit := do
  let found ← attempt (perform .capture)
  match found with
  | none => .pure ()
  | some (s, _) => do
      awaitReady turns
      awaitUrl s turns

/-- The end of `start_session` under the lock, where it raises. -/
def leaveWith (x : Failure) : Task Unit := do
  perform .leave
  .throw x

/-- `start_session` under the lock, after the Pod was started; times are in microseconds. -/
def recordSession (args : Start) (profile : GpuProfile) (ttl : Int) (model : String)
    (response : Response) : Task Unit :=
  match (given response.id).or (given response.podId) with
  | none => leaveWith (.manager "RunPod did not return a pod id")
  | some podId =>
      if response.placement = .invalid then
        leaveWith (.manager "Runpod provider returned invalid placement metadata")
      else do
        let startedAt ← perform .now
        perform (.publish
          { podId := podId
            profile := profile
            taskProfile := args.taskProfile
            modelName := model
            podType := (given args.podType).or profile.podType
            status := .provisioning
            ttlSeconds := ttl
            startedAt := startedAt
            expiresAt := startedAt + ttl * 1000000
            backendBaseUrl := none
            gpuTypeId := match response.placement with
              | .decided gpuId => some gpuId
              | _ => response.gpuId
            companionId := none
            userId := none
            trainingCleanupToken := none })

/-- `start_session` under the lock. -/
def createSession (args : Start) (profile : GpuProfile) (ttl : Int) (model : String) :
    Task Unit := do
  let active ← attempt (perform .enter)
  if active then leaveWith (.manager "A RunPod session is already active")
  else do
    let response ← perform (.startPod profile.id)
    match response with
    | .error (.manager message) => leaveWith (.manager ("Failed to create Pod: " ++ message))
    | .error x => leaveWith x
    | .ok response => recordSession args profile ttl model response

/-- `start_session`. -/
def startSession (args : Start) (turns : ℕ) : Task Payload := do
  let profile ← ofExcept (selectProfile m args.taskProfile)
  let ttl ← ofExcept (validateTtl m args.ttlSeconds)
  match (given args.modelName).or (given profile.defaultModel) with
  | none => .throw (.manager
      "Model name is required when profile has no default_model configured")
  | some model => do
      createSession args profile ttl model
      waitUntilReady turns
      getStatus

/-- The metering of a stopped session: what the callback raises is logged, but a cancellation
is raised. -/
def recordUsage (s : ℕ) : Task Unit := do
  let usage ← perform (.usage s)
  match usage with
  | none => .pure ()
  | some usage => do
      let outcome ← perform (.meter s usage)
      match outcome with
      | .error .cancelled => .throw .cancelled
      | _ => .pure ()

/-- `stop_session`. -/
def stopSession : Task Payload := do
  let found ← attempt (perform .capture)
  match found with
  | none => .pure .offline
  | some (s, session) =>
      match given session.trainingCleanupToken with
      | some token =>
          if m.releasesTraining = false then .throw (.manager
            "Training session has no durable lifecycle release implementation")
          else do
            let cleanupState ← attempt (perform (.releaseTraining token))
            perform (.setStatus s .offline)
            attempt (perform (.clear s))
            .pure (.released s cleanupState)
      | none => do
          attempt (perform (.stopPod s session.podId))
          perform (.setStatus s .terminating)
          attempt (perform (.clear s))
          recordUsage s
          let session ← perform (.read s)
          .pure (.session s false session.status)

/-- `terminate_session`. -/
def terminateSession : Option ℕ → Task Unit
  | none => .pure ()
  | some s => do
      let session ← perform (.read s)
      if session.podId = "" then .pure ()
      else if m.terminates = false then .throw (.manager
        "Configured provider does not support Pod termination")
      else do
        attempt (perform (.terminatePod session.podId))
        perform (.setStatus s .offline)
        attempt (perform (.clear s))

/-- `terminate_pod`. -/
def terminatePod (podId : String) : Task Unit :=
  if m.terminates = false then .throw (.manager
    "Configured provider does not support Pod termination")
  else do
    attempt (perform (.terminatePod podId))
    attempt (perform (.clearPod podId))

end

/-- The calls to a manager. -/
inductive Call (m : Manager) : Task Unit → Prop
  | startSession (args : Start) (turns : ℕ) : Call m (startSession m args turns).void
  | stopSession : Call m (stopSession m).void
  | terminateSession (session : Option ℕ) : Call m (terminateSession m session)
  | terminatePod (podId : String) : Call m (terminatePod m podId)
  | getStatus : Call m getStatus.void

/-- A run of the manager to `c`, whose operations are restricted by `K`. -/
def ManagerRun (m : Manager) (K : Restriction Calls World) (c : Config Calls Failure World) :
    Prop :=
  Run runtime (Call m) K (.initial Calls Failure World.initial) c

end KestrelRunpod.Sessions
