import KestrelRunpod.Interleave.System
import KestrelRunpod.Supervisor.Policy
import Mathlib.Algebra.Ring.Int.Defs

/-!
# The runtime process

The goroutines of the runtime share its startup state, which a lock guards, so every access is
one operation.  The main goroutine starts Ollama and then waits for the first exit; the
bootstrap goroutine and one goroutine for each request run beside it, and begin only after Ollama
was started.  Every reading of the clock, every answer of Ollama and every exit is as it may be.
-/

namespace KestrelRunpod.Supervisor

open Interleave Interleave.Program

/-! ## The startup state -/

/-- `startupState`. -/
structure StartupState where
  ollamaProcessStartedAt : Option Time
  ollamaHealthyAt : Option Time
  modelPullStartedAt : Option Time
  modelPullCompletedAt : Option Time
  modelLoadStartedAt : Option Time
  modelReadyAt : Option Time
  readyAt : Option Time
  cacheHit : Bool
  strategy : String
  terminalError : String
  ollamaProcessRunning : Bool
  deriving DecidableEq, Repr

/-- `&startupState{strategy: "initializing"}`. -/
def StartupState.initializing : StartupState :=
  ⟨none, none, none, none, none, none, none, false, "initializing", "", false⟩

/-- What the bootstrap marks with the current time. -/
inductive Milestone
  | ollamaHealthy
  | pullStarted
  | pullCompleted
  | loadStarted
  | ready
  deriving DecidableEq, Repr

def StartupState.mark (state : StartupState) (now : Time) : Milestone → StartupState
  | .ollamaHealthy => { state with ollamaHealthyAt := some now }
  | .pullStarted => { state with modelPullStartedAt := some now }
  | .pullCompleted => { state with modelPullCompletedAt := some now }
  | .loadStarted => { state with modelLoadStartedAt := some now }
  | .ready => { state with modelReadyAt := some now, readyAt := some now }

/-- The largest `time.Duration`. -/
def maxDuration : Int := 2 ^ 63 - 1

def elapsedMilliseconds : Option Time → Option Time → Option Int
  | some start, some stop =>
      if stop < start then none else some (min (stop - start) maxDuration / 10 ^ 6)
  | _, _ => none

/-- `telemetry`, less the two versions that the build fixes. -/
structure Telemetry where
  provisionRequestedAt : Option Time
  containerStartedAt : Time
  ollamaProcessStartedAt : Option Time
  ollamaHealthyAt : Option Time
  modelPullStartedAt : Option Time
  modelPullCompletedAt : Option Time
  modelLoadStartedAt : Option Time
  modelReadyAt : Option Time
  readyAt : Option Time
  placementAndImagePullMilliseconds : Option Int
  ollamaBootMilliseconds : Option Int
  modelPullMilliseconds : Option Int
  modelLoadMilliseconds : Option Int
  totalColdStartMilliseconds : Option Int
  cacheHit : Bool
  startupStrategy : String
  ready : Bool
  ollamaProcessRunning : Bool
  terminalError : String
  deriving DecidableEq, Repr

def StartupState.snapshot (state : StartupState) (config : RuntimeConfig) : Telemetry where
  provisionRequestedAt := config.provisionRequested
  containerStartedAt := config.containerStartedAt
  ollamaProcessStartedAt := state.ollamaProcessStartedAt
  ollamaHealthyAt := state.ollamaHealthyAt
  modelPullStartedAt := state.modelPullStartedAt
  modelPullCompletedAt := state.modelPullCompletedAt
  modelLoadStartedAt := state.modelLoadStartedAt
  modelReadyAt := state.modelReadyAt
  readyAt := state.readyAt
  placementAndImagePullMilliseconds :=
    elapsedMilliseconds config.provisionRequested (some config.containerStartedAt)
  ollamaBootMilliseconds := elapsedMilliseconds state.ollamaProcessStartedAt state.ollamaHealthyAt
  modelPullMilliseconds := elapsedMilliseconds state.modelPullStartedAt state.modelPullCompletedAt
  modelLoadMilliseconds := elapsedMilliseconds state.modelLoadStartedAt state.modelReadyAt
  totalColdStartMilliseconds := elapsedMilliseconds config.provisionRequested state.readyAt
  cacheHit := state.cacheHit
  startupStrategy := state.strategy
  ready := state.readyAt.isSome
  ollamaProcessRunning := state.ollamaProcessRunning
  terminalError := state.terminalError

/-! ## Operations -/

/-- What the main goroutine can be woken by. -/
inductive Exit
  | done
  | server (err : String) (closed : Bool)
  | child (err : Option String)
  | startup (err : Option String)
  deriving DecidableEq, Repr

/-- A call to Ollama of which only the status is read. -/
inductive Call
  | version
  | pull (name : String)
  | generate (model : String)
  deriving DecidableEq, Repr

/-- A request that the reverse proxy sends upstream. -/
structure Outgoing where
  method : String
  path : String
  header : Header
  body : Body
  deriving DecidableEq, Repr

/-- What `writeJSON` encodes; `telemetry` is the snapshot. -/
inductive Payload
  | nothing
  | status (text : String)
  | error (text : String)
  | telemetry (taken : Telemetry)
  deriving DecidableEq, Repr

/-- The operations of the goroutines.  `wait` replies `none` at a tick and the error of a
context that is done; a call replies the status of its answer, or the error of `client.Do`. -/
inductive Op
  | begin
  | startOllama
  | select (startup : Bool)
  | setProcessRunning (running : Bool)
  | setTerminalError (message : String)
  | setStrategy (strategy : String) (cacheHit : Bool)
  | mark (milestone : Milestone)
  | exitStartup (err : Option String)
  | snapshot
  | now
  | wait
  | call (call : Call)
  | listModels
  | prepare (request : HttpRequest)
  | forward (outgoing : Outgoing)
  | respond (request : HttpRequest) (status : Int) (payload : Payload)
  deriving DecidableEq

@[reducible] def Reply : Op → Type
  | .startOllama => Except String Time
  | .select _ => Exit
  | .mark _ => Time
  | .snapshot => Telemetry
  | .now => Time
  | .wait => Option String
  | .call _ => Except String Int
  | .listModels => Except String Listing
  | .prepare _ => Header
  | _ => Unit

abbrev Calls : Signature := ⟨Op, Reply⟩

abbrev Past : Type := History Calls

/-- A goroutine, with the errors of Go. -/
abbrev Go : Type → Type := Program Calls String

/-- Perform one operation. -/
def perform (op : Op) : Go (Reply op) := ask (S := Calls) op

/-! ## The world -/

/-- The state, whether Ollama was started, and the channel of the bootstrap's exit. -/
structure World where
  state : StartupState
  launched : Bool
  startupExit : Option (Option String)

def World.initial : World := ⟨.initializing, false, none⟩

/-- One operation of a goroutine; `none` where it cannot happen with this reply. -/
def World.perform (config : RuntimeConfig) (w : World) : Event Calls → Option World
  | ⟨.begin, _⟩ => if w.launched = true then some w else none
  | ⟨.startOllama, .error _⟩ => some w
  | ⟨.startOllama, .ok now⟩ => some { w with
      state := { w.state with ollamaProcessStartedAt := some now, ollamaProcessRunning := true }
      launched := true }
  | ⟨.select startup, .startup err⟩ =>
      if startup = true ∧ w.startupExit = some err then some { w with startupExit := none }
      else none
  | ⟨.select _, _⟩ => some w
  | ⟨.setProcessRunning running, _⟩ =>
      some { w with state := { w.state with ollamaProcessRunning := running } }
  | ⟨.setTerminalError message, _⟩ =>
      some { w with state := { w.state with terminalError := message } }
  | ⟨.setStrategy strategy cacheHit, _⟩ =>
      some { w with state := { w.state with strategy := strategy, cacheHit := cacheHit } }
  | ⟨.mark milestone, now⟩ => some { w with state := w.state.mark now milestone }
  | ⟨.exitStartup err, _⟩ => some { w with startupExit := some err }
  | ⟨.snapshot, taken⟩ => if w.state.snapshot config = taken then some w else none
  | _ => some w

/-- The runtime of one configuration; nothing changes but through a goroutine. -/
def runtime (config : RuntimeConfig) : Runtime Calls World Empty :=
  ⟨World.perform config, fun _ nothing => nothing.elim⟩

end KestrelRunpod.Supervisor
