import KestrelRunpod.Interleave.Ensures
import KestrelRunpod.Supervisor.Runtime

/-!
# Exact readiness

The bootstrap marks ready only after an inventory that shows the pinned model, and after the
configured preload; a readiness path is answered 200 only on a snapshot and an inventory of the
request's own.  Both are contracts on what a goroutine has performed itself, and the world only
adds that a snapshot is ready after a mark.
-/

namespace KestrelRunpod.Supervisor

open Interleave Interleave.Program

/-- The paths that Runpod and the lease service probe for readiness. -/
def probesReadiness (path : String) : Prop := path = "/ping" ∨ path = "/health/ready"

/-- The newest inventory that the goroutine has read, and what it performed since. -/
def LastListed (pin : ModelPin) (since h : Past) : Prop :=
  (∃ listing before, h = since ++ ⟨.listModels, .ok listing⟩ :: before ∧ listing.Shows pin) ∧
    ∀ e ∈ since, e.op ≠ .listModels

/-- The newest inventory shows the pinned model, and the configured preload succeeded since. -/
def Bootstrapped (config : RuntimeConfig) (h : Past) : Prop :=
  ∃ since, LastListed config.requiredModel since h ∧
    (config.preloadModel = true → ∃ statusCode, succeeded statusCode = true ∧
      ⟨.call (.generate config.requiredModel.name), .ok statusCode⟩ ∈ since)

/-- What a goroutine has performed when it answers that the runtime is ready: it took a snapshot
of a running, bootstrapped process without a terminal error, read a time before the expiry, and
then read an inventory that shows the pinned model. -/
structure ReadyOn (config : RuntimeConfig) (h : Past) (taken : Telemetry) : Prop where
  performed : ∃ listing now, listing.Shows config.requiredModel ∧
    now < config.bearerTokenExpires ∧
    h = [⟨.listModels, .ok listing⟩, ⟨.now, now⟩, ⟨.snapshot, taken⟩, ⟨.begin, ()⟩]
  running : taken.ollamaProcessRunning = true
  unfailed : taken.terminalError = ""
  ready : taken.ready = true

/-- What the goroutines promise of their own operations. -/
def permits (config : RuntimeConfig) (h : Past) : Op → Prop
  | .mark .ready => Bootstrapped config h
  | .respond request status _ =>
      status = 200 → probesReadiness request.path → ∃ taken, ReadyOn config h taken
  | _ => True

def readinessContract (config : RuntimeConfig) : Contract Calls := ⟨permits config, fun _ => True⟩

section

variable {config : RuntimeConfig} {parse : Bytes → Option Document} {request : HttpRequest}
  {h : Past} {α : Type} {p : Go α}

/-- A goroutine keeps the promises, and its value meets `done`. -/
abbrev Keeps (config : RuntimeConfig) (done : Past → α → Prop) (p : Go α) (h : Past) : Prop :=
  p.Ensures (readinessContract config) done h

theorem keeps_perform {op : Op} (permitted : permits config h op) :
    Keeps config (fun h' reply => h' = ⟨op, reply⟩ :: h) (perform op) h :=
  ⟨permitted, fun _ _ => rfl⟩

/-- One operation, and what follows it. -/
theorem keeps_then {op : Op} {f : Reply op → Go α} {done : Past → α → Prop}
    (permitted : permits config h op)
    (next : ∀ reply, Keeps config done (f reply) (⟨op, reply⟩ :: h)) :
    Keeps config done (perform op >>= f) h :=
  ⟨permitted, fun reply _ => next reply⟩

/-! ## The bootstrap -/

theorem keeps_milestone {milestone : Milestone}
    (permitted : permits config h (.mark milestone)) :
    Keeps config (fun h' _ => ∃ now, h' = ⟨.mark milestone, now⟩ :: h)
      (perform (.mark milestone)).void h :=
  ⟨permitted, fun now _ => ensures_pure _ ⟨now, rfl⟩⟩

theorem keeps_waitForOllama (turns : ℕ) :
    Keeps config (fun _ _ => True) (waitForOllama turns) h := by
  induction turns generalizing h with
  | zero => exact ensures_stall
  | succ turns ih =>
      have tick : ∀ h, Keeps config (fun _ _ => True) (awaitTick (waitForOllama turns)) h := by
        intro h
        refine keeps_then trivial fun woken => ?_
        cases woken with
        | none => exact ih
        | some err => exact ensures_throw _
      refine keeps_then trivial fun response => ?_
      cases response with
      | error err => exact tick _
      | ok statusCode =>
          dsimp only
          split
          · exact Ensures.forget (keeps_milestone trivial)
          · exact tick _

/-- `exactModelReady` reads one inventory, and answers `true` only where that shows the model. -/
theorem keeps_exactModelReady (pin : ModelPin) :
    Keeps config (fun h' present => ∃ answer, h' = ⟨.listModels, answer⟩ :: h ∧
      (present = true → ∃ listing, answer = .ok listing ∧ listing.Shows pin))
      (exactModelReady pin) h := by
  refine keeps_then trivial fun answer => ?_
  refine ensures_ofExcept fun present judged => ⟨answer, rfl, fun yes => ?_⟩
  rw [yes] at judged
  exact judge_ready.mp judged

/-- The same where the error is taken for `false`. -/
theorem keeps_exactModelReady_handled (pin : ModelPin) :
    Keeps config (fun h' present => present = true →
      ∃ listing, h' = ⟨.listModels, .ok listing⟩ :: h ∧ listing.Shows pin)
      ((exactModelReady pin).handle fun _ => .pure false) h := by
  refine Ensures.handle ((keeps_exactModelReady pin).mono ?_) fun _ _ _ => ensures_pure _ nofun
  rintro h' present _ ⟨answer, is, shows⟩ yes
  obtain ⟨listing, rfl, shown⟩ := shows yes
  exact ⟨listing, is, shown⟩

theorem keeps_ollamaJSON (call : Call) :
    Keeps config (fun h' _ => ∃ statusCode, succeeded statusCode = true ∧
      h' = ⟨.call call, .ok statusCode⟩ :: h) (ollamaJSON call) h := by
  refine keeps_then trivial fun response => ?_
  cases response with
  | error err => exact ensures_throw _
  | ok statusCode =>
      dsimp only
      split
      · rename_i success
        exact ensures_pure _ ⟨statusCode, success, rfl⟩
      · exact ensures_throw _

theorem keeps_wrapped {done : Past → α → Prop} (text : String) (keeps : Keeps config done p h) :
    Keeps config done (wrapped text p) h :=
  Ensures.handle keeps fun _ _ _ => ensures_throw _

theorem keeps_obtainModel :
    Keeps config (fun h' _ => ∃ since, LastListed config.requiredModel since h')
      (obtainModel config) h := by
  refine (keeps_exactModelReady _).bind fun h₁ present _ first => ?_
  split
  · rename_i yes
    obtain ⟨_, is, shows⟩ := first
    obtain ⟨listing, rfl, shown⟩ := shows yes
    refine Ensures.mono (keeps_perform trivial) fun h₂ _ _ is' => ?_
    refine ⟨[⟨.setStrategy "cache_hit" true, ()⟩], ⟨listing, h, ?_, shown⟩, ?_⟩
    · rw [is', is]
      rfl
    · intro e member
      rw [List.mem_singleton.mp member]
      exact nofun
  · refine keeps_then trivial fun _ => ?_
    refine Ensures.andThen (keeps_milestone trivial) fun h₃ _ _ _ => ?_
    refine (keeps_wrapped _ (keeps_ollamaJSON _)).bind fun h₄ _ _ _ => ?_
    refine Ensures.andThen (keeps_milestone trivial) fun h₅ _ _ _ => ?_
    refine (keeps_exactModelReady _).bind fun h₆ present _ again => ?_
    split
    · rename_i yes
      obtain ⟨_, is, shows⟩ := again
      obtain ⟨listing, rfl, shown⟩ := shows yes
      exact ensures_pure _ ⟨[], ⟨listing, h₅, is, shown⟩, fun e member => (nomatch member)⟩
    · exact ensures_throw _

/-- Further operations keep the newest inventory, unless they read one. -/
theorem LastListed.cons {pin : ModelPin} {since : Past} (listed : LastListed pin since h)
    {e : Event Calls} (other : e.op ≠ .listModels) : LastListed pin (e :: since) (e :: h) := by
  obtain ⟨⟨listing, before, rfl, shown⟩, quiet⟩ := listed
  refine ⟨⟨listing, before, rfl, shown⟩, ?_⟩
  rw [List.forall_mem_cons]
  exact ⟨other, quiet⟩

theorem keeps_preloadModel {since : Past} (listed : LastListed config.requiredModel since h) :
    Keeps config (fun h' _ => Bootstrapped config h') (preloadModel config) h := by
  unfold preloadModel
  split
  · refine Ensures.andThen (keeps_milestone trivial) fun h₁ _ _ marked => ?_
    obtain ⟨now, rfl⟩ := marked
    refine (keeps_wrapped _ (keeps_ollamaJSON _)).mono fun h₂ _ _ loaded => ?_
    obtain ⟨statusCode, success, rfl⟩ := loaded
    have marked : LastListed config.requiredModel (⟨.mark .loadStarted, now⟩ :: since) _ :=
      listed.cons nofun
    exact ⟨_, marked.cons nofun, fun _ => ⟨statusCode, success, List.mem_cons_self⟩⟩
  · rename_i off
    exact ensures_pure _ ⟨since, listed, fun on => absurd on off⟩

theorem keeps_bootstrap (turns : ℕ) :
    Keeps config (fun _ _ => True) (bootstrap config turns) h := by
  refine (keeps_waitForOllama turns).next fun h₁ _ _ => ?_
  refine keeps_obtainModel.bind fun h₂ _ _ obtained => ?_
  obtain ⟨since, listed⟩ := obtained
  refine (keeps_preloadModel listed).bind fun h₃ _ _ bootstrapped => ?_
  refine Ensures.andThen (keeps_milestone bootstrapped) fun h₄ _ _ _ => ?_
  exact keeps_then trivial fun _ => ensures_pure _ trivial

/-! ## Requests -/

theorem keeps_answer {status : Int} {payload : Payload}
    (permitted : permits config h (.respond request status payload)) :
    Keeps config (fun _ _ => True) (answer request status payload) h :=
  (keeps_perform permitted).forget

/-- Another answer than 200 promises nothing. -/
theorem keeps_unready {status : Int} {payload : Payload} (other : status ≠ 200) :
    Keeps config (fun _ _ => True) (answer request status payload) h :=
  keeps_answer fun is => absurd is other

theorem keeps_serveHealth :
    Keeps config (fun _ _ => True) (serveHealth config request) [⟨.begin, ()⟩] := by
  unfold serveHealth
  split
  · exact keeps_unready (by decide)
  refine keeps_then trivial fun snapshot => ?_
  split
  · rename_i live
    split
    · refine keeps_answer fun _ probes => ?_
      rcases probes with is | is <;> exact absurd (live.symm.trans is) (by decide)
    · exact keeps_unready (by decide)
  split
  · exact keeps_unready (by decide)
  rename_i healthy
  rw [not_or, not_not, Bool.not_eq_false] at healthy
  split
  · rename_i ready
    refine keeps_then trivial fun now => ?_
    split
    · exact keeps_unready (by decide)
    rename_i unexpired
    refine (keeps_exactModelReady_handled _).bind fun h₃ present _ shows => ?_
    split
    · rename_i yes
      obtain ⟨listing, rfl, shown⟩ := shows yes
      refine keeps_answer fun _ _ => ⟨snapshot, ⟨listing, now, shown, ?_, rfl⟩, healthy.2,
        healthy.1, ready⟩
      exact Int.not_le.mp unexpired
    · exact keeps_unready (by decide)
  · exact keeps_unready (by decide)

/-- Off the health paths every answer is permitted. -/
theorem keeps_elsewhere (elsewhere : isHealthPath request.path = false) {status : Int}
    {payload : Payload} : Keeps config (fun _ _ => True) (answer request status payload) h := by
  refine keeps_answer fun _ probes => ?_
  unfold isHealthPath at elsewhere
  rcases probes with is | is <;> simp [is] at elsewhere

theorem keeps_forwarded : Keeps config (fun _ _ => True) (forwarded request) h :=
  keeps_then trivial fun _ => Ensures.forget (keeps_perform trivial)

theorem keeps_serveAuthorized (elsewhere : isHealthPath request.path = false) :
    Keeps config (fun _ _ => True) (serveAuthorized config parse request) h := by
  unfold serveAuthorized
  split
  · split
    · exact keeps_elsewhere elsewhere
    · exact keeps_then trivial fun _ => keeps_elsewhere elsewhere
  split
  · exact keeps_elsewhere elsewhere
  split
  · exact keeps_elsewhere elsewhere
  split
  · split
    · exact keeps_elsewhere elsewhere
    · split
      · exact keeps_forwarded
      · exact keeps_elsewhere elsewhere
  · exact keeps_forwarded

theorem keeps_serving : Keeps config (fun _ _ => True) (serving config parse request) [] := by
  refine keeps_then trivial fun _ => ?_
  unfold serveHTTP
  split
  · exact keeps_serveHealth
  · rename_i elsewhere
    rw [Bool.not_eq_true] at elsewhere
    refine keeps_then trivial fun now => ?_
    split
    · exact keeps_serveAuthorized elsewhere
    · exact keeps_elsewhere elsewhere

/-! ## The process -/

theorem keeps_exited (exit : Exit) : Keeps config (fun _ _ => True) (exited exit) h := by
  cases exit with
  | done => exact ensures_pure _ trivial
  | server err closed =>
      rw [exited]
      split
      · exact ensures_pure _ trivial
      · exact ensures_throw _
  | child err => exact keeps_then trivial fun _ => ensures_throw _
  | startup err => exact ensures_pure _ trivial

theorem keeps_run : Keeps config (fun _ _ => True) run h := by
  refine keeps_then trivial fun started => ?_
  cases started with
  | error err => exact ensures_throw _
  | ok now =>
      refine keeps_then trivial fun exit => ?_
      cases exit with
      | done => exact keeps_exited .done
      | server err closed => exact keeps_exited (.server err closed)
      | child err => exact keeps_exited (.child err)
      | startup err =>
          cases err with
          | none => exact keeps_then trivial fun exit => keeps_exited exit
          | some err => exact keeps_then trivial fun _ => ensures_throw _

theorem keeps_bootstrapping (turns : ℕ) :
    Keeps config (fun _ _ => True) (bootstrapping config turns) h := by
  refine keeps_then trivial fun _ => ?_
  refine Ensures.next (α := Option String) ?_ fun _ err _ => Ensures.forget (keeps_perform trivial)
  refine Ensures.handle ?_ fun _ _ _ => ensures_pure _ trivial
  exact (keeps_bootstrap turns).bind fun _ _ _ _ => ensures_pure _ trivial

theorem Goroutine.safe {p : Go Unit} (goroutine : Goroutine config parse p) :
    p.Safe (readinessContract config) [] := by
  cases goroutine with
  | main => exact keeps_run.safe
  | bootstrap turns => exact (keeps_bootstrapping turns).safe
  | request request => exact keeps_serving.safe

end

/-! ## Along a run -/

section

variable {config : RuntimeConfig} {parse : Bytes → Option Document}
  {m m' : Moment Calls World} {c : Config Calls String World}

abbrev ProcessTrail (config : RuntimeConfig) (m : Moment Calls World) : Prop :=
  Trail (runtime config) (readinessContract config) anyMove ⟨World.initial, []⟩ m

theorem ProcessRun.trail (run : ProcessRun config parse c) : ProcessTrail config c.moment :=
  (Run.trail (fun _ goroutine => goroutine.safe) (fun _ _ _ _ => trivial)
    (Config.initial_lawful _) run).2

/-- A state that is ready was marked so. -/
def MarkedReady (m : Moment Calls World) : Prop :=
  m.world.state.readyAt.isSome = true → ∃ j now, (j, ⟨.mark .ready, now⟩) ∈ m.log

/-- An operation leaves the ready time alone, or it marks the process ready. -/
theorem World.perform_ready {w w' : World} {e : Event Calls}
    (performed : w.perform config e = some w') :
    w'.state.readyAt = w.state.readyAt ∨ ∃ now, e = ⟨.mark .ready, now⟩ := by
  obtain ⟨op, reply⟩ := e
  cases op with
  | mark milestone =>
      cases performed
      cases milestone with
      | ready => exact .inr ⟨reply, rfl⟩
      | _ => exact .inl rfl
  | startOllama =>
      cases reply <;> (cases performed; exact .inl rfl)
  | select startup =>
      cases reply with
      | startup err =>
          simp only [World.perform, Option.ite_none_right_eq_some, Option.some.injEq] at performed
          obtain ⟨_, rfl⟩ := performed
          exact .inl rfl
      | _ => cases performed; exact .inl rfl
  | begin =>
      simp only [World.perform, Option.ite_none_right_eq_some, Option.some.injEq] at performed
      obtain ⟨_, rfl⟩ := performed
      exact .inl rfl
  | snapshot =>
      simp only [World.perform, Option.ite_none_right_eq_some, Option.some.injEq] at performed
      obtain ⟨_, rfl⟩ := performed
      exact .inl rfl
  | _ => cases performed; exact .inl rfl

theorem Move.markedReady (move : Move (runtime config) (readinessContract config) anyMove m m')
    (marked : MarkedReady m) : MarkedReady m' := by
  intro ready
  cases move with
  | drift nothing _ => exact nothing.elim
  | act i e permitted promised performed _ =>
      rcases World.perform_ready performed with same | ⟨now, rfl⟩
      · rw [same] at ready
        obtain ⟨j, now, member⟩ := marked ready
        exact ⟨j, now, List.mem_cons_of_mem _ member⟩
      · exact ⟨i, now, List.mem_cons_self⟩

theorem ProcessTrail.markedReady (trail : ProcessTrail config m) : MarkedReady m :=
  Trail.invariant trail (fun _ _ marked move => Move.markedReady move marked) nofun

/-- A snapshot is of the state that it was taken of. -/
theorem ProcessTrail.snapshot (trail : ProcessTrail config m) {later earlier : Log Calls} {i : ℕ}
    {taken : Telemetry} (split : m.log = later ++ (i, ⟨.snapshot, taken⟩) :: earlier) :
    ∃ w, ProcessTrail config ⟨w, earlier⟩ ∧ taken = w.state.snapshot config := by
  obtain ⟨before, _, walked, log, _, _, performed, _⟩ := trail.act_of_mem split List.nil_suffix
  obtain ⟨w, log'⟩ := before
  cases log
  refine ⟨w, walked, ?_⟩
  change (if w.state.snapshot config = taken then some w else none) = _ at performed
  split at performed
  · rename_i same
    exact same.symm
  · cases performed

/-- Readiness is exact.  In every run of the process, a readiness path is answered 200 only by a
goroutine that took a snapshot of a running process without a terminal error whose bootstrap had
marked it ready, then read a time before the expiry, and then an inventory that shows the
pinned model; and a mark was made only after such an inventory and the configured preload. -/
theorem readiness_is_exact (run : ProcessRun config parse c) :
    (∀ (later earlier : Log Calls) i request payload,
      c.log = later ++ (i, ⟨.respond request 200 payload, ()⟩) :: earlier →
      probesReadiness request.path →
      ∃ taken, ReadyOn config (earlier.of i) taken ∧
        ∃ (since before : Log Calls), earlier = since ++ (i, ⟨.snapshot, taken⟩) :: before ∧
          ∃ j now, (j, ⟨.mark .ready, now⟩) ∈ before) ∧
    ∀ (later earlier : Log Calls) j now,
      c.log = later ++ (j, ⟨.mark .ready, now⟩) :: earlier →
      Bootstrapped config (earlier.of j) := by
  have trail := run.trail
  constructor
  · intro later earlier i request payload split probes
    obtain ⟨before, _, walked, logged, permitted, _⟩ := trail.act_of_mem split List.nil_suffix
    obtain ⟨taken, ready⟩ := permitted rfl probes
    obtain ⟨listing, now, _, _, history⟩ := ready.performed
    have snapshotted : earlier.of i = [⟨Op.listModels, .ok listing⟩, ⟨Op.now, now⟩] ++
        ⟨Op.snapshot, taken⟩ :: [⟨Op.begin, ()⟩] := history
    obtain ⟨since, rest, is, _, _⟩ := Log.exists_split snapshotted
    refine ⟨taken, ready, since, rest, is, ?_⟩
    obtain ⟨w, reached, same⟩ := ProcessTrail.snapshot walked (logged.trans is)
    have isReady : w.state.readyAt.isSome = true := by
      have shown := ready.ready
      rw [same] at shown
      exact shown
    exact reached.markedReady isReady
  · intro later earlier j now split
    obtain ⟨_, _, _, _, permitted, _⟩ := trail.act_of_mem split List.nil_suffix
    exact permitted

end

/-! ### A process that becomes ready -/

namespace Sample

def digest : String := .ofList (List.replicate 64 'a')

def config : RuntimeConfig where
  bearerToken := "0123456789abcdef0123456789abcdef"
  bearerTokenExpires := 1000
  requiredModel := ⟨"registry.example/team/model:v1", "sha256:" ++ digest⟩
  allowedModels := [⟨"registry.example/team/model:v1", "sha256:" ++ digest⟩]
  preloadModel := true
  provisionRequested := none
  containerStartedAt := 0

def ping : HttpRequest := ⟨"GET", "/ping", [], .read []⟩

def parse (_ : Bytes) : Option Document := none

/-- Ollama is healthy and lists the pinned model; nothing exits. -/
def answers (w : World) : (op : Op) → Option (Reply op)
  | .begin => some ()
  | .startOllama => some (.ok 1)
  | .mark _ => some 2
  | .snapshot => some (w.state.snapshot config)
  | .now => some 3
  | .call _ => some (.ok 200)
  | .listModels => some (.ok ⟨200, some [⟨"registry.example/team/model:v1", "", digest,
      ["completion", "tools"]⟩]⟩)
  | .setStrategy _ _ => some ()
  | .exitStartup _ => some ()
  | .respond _ _ _ => some ()
  | _ => none

def operator : Operator (runtime config) := .answering _ answers

/-- Ollama starts, the bootstrap runs to its end, and a probe is answered. -/
def becomesReady : List (Cue (runtime config) (Goroutine config parse)) :=
  [.spawn 0 _ .main, .runOn 0 operator 1, .spawn 1 _ (.bootstrap 1), .runOn 1 operator 10,
    .spawn 2 _ (.request ping), .runOn 2 operator 5]

/-- The newest event answers the probe with 200. -/
def answered (c : Config Calls String World) : Bool :=
  match c.log with
  | (2, ⟨.respond request 200 (.status "ready"), _⟩) :: _ => request = ping
  | _ => false

end Sample

/-- A probe is answered 200 by a bootstrapped process. -/
theorem readiness_is_exact_ping : ∃ c, ProcessRun Sample.config Sample.parse c ∧
    ∃ earlier : Log Calls,
      c.log = (2, ⟨.respond Sample.ping 200 (.status "ready"), ()⟩) :: earlier ∧
      ∃ taken, ReadyOn Sample.config (earlier.of 2) taken := by
  obtain ⟨c, run, answered⟩ : ∃ c, ProcessRun Sample.config Sample.parse c ∧
      Sample.answered c = true := Config.exhibits Sample.becomesReady _ (by decide +kernel)
  refine ⟨c, run, ?_⟩
  unfold Sample.answered at answered
  split at answered
  · rename_i request _ earlier log
    have same : request = Sample.ping := of_decide_eq_true answered
    subst same
    refine ⟨earlier, log, ?_⟩
    obtain ⟨taken, ready, _⟩ := (readiness_is_exact run).1 [] earlier 2 Sample.ping _ log (.inl rfl)
    exact ⟨taken, ready⟩
  · cases answered

end KestrelRunpod.Supervisor
