import KestrelRunpod.Supervisor.Process

/-!
# The goroutines of the runtime

`run` starts Ollama and waits, `bootstrap` prepares the required model, and `serveHTTP` answers one
request.  The loop of `waitForOllama` is a recursion on a budget; a goroutine whose budget is
used up is never scheduled again.
-/

namespace KestrelRunpod.Supervisor

open Interleave Interleave.Program

/-! ## Starting and waiting -/

/-- The first bytes of a text; a character that is cut becomes one replacement for each byte. -/
def clip : ℕ → List Char → List Char
  | _, [] => []
  | room, c :: rest =>
      if c.utf8Size ≤ room then c :: clip (room - c.utf8Size) rest
      else List.replicate room (Char.ofNat 0xfffd)

/-- `safeError`, of an error with this text. -/
def safeError (message : String) : String :=
  .ofList ((clip 240 message.toList).map fun c =>
    if c.toNat < 0x20 ∨ c.toNat = 0x7f then ' ' else c)

def ollamaExitError : Option String → String
  | none => "Ollama exited unexpectedly"
  | some err => "Ollama exited: " ++ err

/-- The cases of both `select` statements that end the process without the bootstrap. -/
def exited : Exit → Go Unit
  | .done => .pure ()
  | .server err closed => if closed then .pure () else .throw ("proxy server failed: " ++ err)
  | .child err => do
      perform (.setProcessRunning false)
      .throw (ollamaExitError err)
  | .startup _ => .pure ()

/-- `run`, from the start of Ollama to the shutdown. -/
def run : Go Unit := do
  let started ← perform .startOllama
  match started with
  | .error err => .throw ("start Ollama: " ++ err)
  | .ok _ =>
      let exit ← perform (.select true)
      match exit with
      | .startup none =>
          let exit ← perform (.select false)
          exited exit
      | .startup (some err) =>
          perform (.setTerminalError (safeError err))
          .throw ("runtime initialization failed: " ++ err)
      | exit => exited exit

/-! ## Bootstrap -/

def markOllamaHealthy : Go Unit := (perform (.mark .ollamaHealthy)).void

def markPullStarted : Go Unit := (perform (.mark .pullStarted)).void

def markPullCompleted : Go Unit := (perform (.mark .pullCompleted)).void

def markLoadStarted : Go Unit := (perform (.mark .loadStarted)).void

def markReady : Go Unit := (perform (.mark .ready)).void

/-- The `select` at the end of a turn of `waitForOllama`. -/
def awaitTick (next : Go Unit) : Go Unit := do
  let woken ← perform .wait
  match woken with
  | some err => .throw ("wait for Ollama: " ++ err)
  | none => next

/-- `waitForOllama`, for as many turns of its loop. -/
def waitForOllama : ℕ → Go Unit
  | 0 => .stall
  | turns + 1 => do
      let response ← perform (.call .version)
      match response with
      | .ok statusCode =>
          if succeeded statusCode then markOllamaHealthy else awaitTick (waitForOllama turns)
      | .error _ => awaitTick (waitForOllama turns)

def exactModelReady (pin : ModelPin) : Go Bool := do
  let answer ← perform .listModels
  ofExcept (judge pin answer)

def ollamaJSON (call : Call) : Go Unit := do
  let response ← perform (.call call)
  match response with
  | .error err => .throw err
  | .ok statusCode =>
      if succeeded statusCode then .pure ()
      else .throw ("Ollama returned HTTP " ++ toString statusCode)

/-- `fmt.Errorf("...: %w", err)`. -/
def wrapped {α : Type} (text : String) (p : Go α) : Go α := p.handle fun err => .throw (text ++ err)

/-- The part of `bootstrap` that makes sure of the model. -/
def obtainModel (config : RuntimeConfig) : Go Unit := do
  let present ← exactModelReady config.requiredModel
  if present then perform (.setStrategy "cache_hit" true)
  else do
    perform (.setStrategy "pulled" false)
    markPullStarted
    wrapped "pull pinned model: " (ollamaJSON (.pull config.requiredModel.name))
    markPullCompleted
    let present ← exactModelReady config.requiredModel
    if present then .pure ()
    else .throw "pulled model digest does not match its configured pin"

/-- The part of `bootstrap` that loads the model. -/
def preloadModel (config : RuntimeConfig) : Go Unit :=
  if config.preloadModel then do
    markLoadStarted
    wrapped "preload pinned model: " (ollamaJSON (.generate config.requiredModel.name))
  else .pure ()

/-- `bootstrap`; its log line takes a snapshot. -/
def bootstrap (config : RuntimeConfig) (turns : ℕ) : Go Unit := do
  waitForOllama turns
  obtainModel config
  preloadModel config
  markReady
  (perform .snapshot).void

/-- The bootstrap goroutine, which sends what it ends with. -/
def bootstrapping (config : RuntimeConfig) (turns : ℕ) : Go Unit := do
  perform .begin
  let err ← ((bootstrap config turns).bind fun _ => .pure none).handle fun err => .pure (some err)
  perform (.exitStartup err)

/-! ## Requests -/

section

variable (config : RuntimeConfig) (parse : Bytes → Option Document) (request : HttpRequest)

/-- `writeJSON`. -/
def answer (status : Int) (payload : Payload) : Go Unit :=
  perform (.respond request status payload)

def serveHealth : Go Unit := do
  if reading request.method = false then answer request 405 (.error "method not allowed")
  else do
    let snapshot ← perform .snapshot
    if request.path = "/health/live" then
      if snapshot.ollamaProcessRunning then answer request 200 (.status "live")
      else answer request 503 (.status "unavailable")
    else if snapshot.terminalError ≠ "" ∨
        snapshot.ollamaProcessRunning = false then
      answer request 503 (.status "failed")
    else if snapshot.ready then do
      let now ← perform .now
      if config.bearerTokenExpires ≤ now then answer request 503 (.status "expired")
      else do
        let present ← (exactModelReady config.requiredModel).handle fun _ => .pure false
        if present then answer request 200 (.status "ready")
        else answer request 503 (.status "unavailable")
    else answer request 204 .nothing

/-- The reverse proxy: what it prepares of the header is rewritten before it is sent. -/
def forwarded : Go Unit := do
  let header ← perform (.prepare request)
  perform (.forward ⟨request.method, request.path, rewrite header, request.body⟩)

/-- `ServeHTTP` after `authorized`. -/
def serveAuthorized : Go Unit :=
  if request.path = "/kestrel/telemetry" then
    if reading request.method = false then answer request 405 (.error "method not allowed")
    else do
      let snapshot ← perform .snapshot
      answer request 200 (.telemetry snapshot)
  else if isForbiddenManagementPath request.path then
    answer request 403 (.error "model mutation is disabled")
  else if allowedRoute request.path request.method = false then
    answer request 404 (.error "route is not exposed")
  else if requiresModelPolicy request.path request.method then
    match inspectModelRequest parse request.body with
    | .error (status, message) => answer request status (.error message)
    | .ok model =>
        if model ∈ config.allowedModels.map ModelPin.name then forwarded request
        else answer request 403 (.error "model is not allowlisted")
  else forwarded request

def serveHTTP : Go Unit := do
  if isHealthPath request.path then serveHealth config request
  else do
    let now ← perform .now
    if authorized config request now then serveAuthorized config parse request
    else answer request 401 (.error "unauthorized")

/-- The goroutine of one request. -/
def serving : Go Unit := do
  perform .begin
  serveHTTP config parse request

end

/-! ## The process -/

/-- The goroutines of one process: the main one, its bootstrap, and one for each request. -/
inductive Goroutine (config : RuntimeConfig) (parse : Bytes → Option Document) : Go Unit → Prop
  | main : Goroutine config parse run
  | bootstrap (turns : ℕ) : Goroutine config parse (bootstrapping config turns)
  | request (request : HttpRequest) : Goroutine config parse (serving config parse request)

/-- A run of the process to `c`. -/
def ProcessRun (config : RuntimeConfig) (parse : Bytes → Option Document)
    (c : Config Calls String World) : Prop :=
  Run (runtime config) (Goroutine config parse) anyMove (.initial Calls String World.initial) c

end KestrelRunpod.Supervisor
