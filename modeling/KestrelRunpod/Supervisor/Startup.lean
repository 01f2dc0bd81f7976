import KestrelRunpod.Numeric.Int64
import KestrelRunpod.Supervisor.Policy
import KestrelRunpod.Numeric.Traverse

/-!
# The configuration of the runtime

`loadConfig` reads the environment once, at the start.  Two of its settings are durations: the
time that `bootstrap` may take and the interval at which `waitForOllama` polls.  Each is the
product of an integer and a unit in words of 64 bits, and only the integer is checked: the
product wraps where it does not fit, so it can be negative or zero.
-/

namespace KestrelRunpod.Supervisor

open Numeric
open Traverse (except_bind_ok)

/-! ## Durations -/

/-- `time.Duration`, in nanoseconds. -/
abbrev Duration : Type := Int64

def second : Duration := 1000000000

def millisecond : Duration := 1000000

def defaultStartupTimeout : Duration := 30 * 60 * second

def defaultPollInterval : Duration := 500 * millisecond

def positiveDuration (raw : String) (fallback unit : Duration) : Except String Duration :=
  if raw = "" then .ok fallback
  else
    match parseInt raw with
    | none => .error "value must be a positive integer"
    | some value =>
        if value < 1 then .error "value must be a positive integer" else .ok (value * unit)

def durationFromSeconds (raw : String) (fallback : Duration) : Except String Duration :=
  positiveDuration raw fallback second

def durationFromMilliseconds (raw : String) (fallback : Duration) : Except String Duration :=
  positiveDuration raw fallback millisecond

/-- The duration is positive, and it is the integer of the text times the unit, exactly; for an
empty text it is the default. -/
structure Exactly (raw : String) (fallback unit d : Duration) : Prop where
  positive : 0 < d.toInt
  product : raw ≠ "" →
    ∃ value, signedNumeral raw.toList = some value ∧ d.toInt = value * unit.toInt
  default : raw = "" → d = fallback

/-- Where the integer of the text is accepted, its product with the unit is a word. -/
def Fits (raw : String) (unit : Duration) : Prop :=
  ∀ value, signedNumeral raw.toList = some value → 1 ≤ value → value < 2 ^ 63 →
    value * unit.toInt < 2 ^ 63

section

variable {raw : String} {fallback unit d : Duration}

theorem positiveDuration_ok : positiveDuration raw fallback unit = .ok d ↔
    raw = "" ∧ d = fallback ∨
      raw ≠ "" ∧ ∃ value, parseInt raw = some value ∧ 1 ≤ value.toInt ∧ d = value * unit := by
  unfold positiveDuration
  by_cases empty : raw = ""
  · simp [empty, eq_comm]
  rw [if_neg empty]
  cases read : parseInt raw with
  | none => simp [empty]
  | some value =>
      have small : value < 1 ↔ ¬ 1 ≤ value.toInt := by
        have one : (1 : Int64).toInt = 1 := rfl
        rw [Int64.lt_iff_toInt_lt, one]
        omega
      dsimp only
      by_cases positive : 1 ≤ value.toInt
      · rw [if_neg fun less => small.mp less positive]
        simp [empty, positive, eq_comm]
      · rw [if_pos (small.mpr positive)]
        simp [empty, positive]

/-- A duration that is returned is exact just where the product fits. -/
theorem exactly_iff (ready : 0 < fallback.toInt) (positive : 0 < unit.toInt)
    (ok : positiveDuration raw fallback unit = .ok d) :
    Exactly raw fallback unit d ↔ Fits raw unit := by
  rcases positiveDuration_ok.mp ok with ⟨empty, is⟩ | ⟨written, value, read, least, is⟩
  · subst empty
    subst is
    constructor
    · intro _ value numeral
      cases numeral
    · intro _
      exact ⟨ready, fun other => absurd rfl other, fun _ => rfl⟩
  have numeral := parseInt_eq_some.mp read
  have high := value.toInt_lt
  have above : 0 < value.toInt * unit.toInt := mul_pos (by omega) positive
  constructor
  · intro exactly other numeral' _ _
    obtain ⟨integer, numeral'', product⟩ := exactly.product written
    rw [numeral] at numeral' numeral''
    cases numeral'
    cases numeral''
    rw [is] at product
    exact ((toInt_mul_iff value unit).mp product).2
  · intro fits
    have below := fits value.toInt numeral least high
    have product : d.toInt = value.toInt * unit.toInt := by
      rw [is]
      exact (toInt_mul_iff value unit).mpr ⟨by omega, below⟩
    exact ⟨by omega, fun _ => ⟨value.toInt, numeral, product⟩, fun empty => absurd empty written⟩

/-- Whatever is returned is exact, just where the product fits. -/
theorem returned_exactly_iff (ready : 0 < fallback.toInt) (positive : 0 < unit.toInt) :
    (∀ d, positiveDuration raw fallback unit = .ok d → Exactly raw fallback unit d) ↔
      Fits raw unit := by
  cases outcome : positiveDuration raw fallback unit with
  | ok d =>
      have same := exactly_iff ready positive outcome
      constructor
      · intro exactly
        exact same.mp (exactly d rfl)
      · intro fits other is
        cases is
        exact same.mpr fits
  | error message =>
      constructor
      · intro _ value numeral least high
        -- an accepted integer is never an error
        have word_is : word value = some (.ofInt value) := if_pos ⟨by omega, high⟩
        have integer := word_eq_some.mp word_is
        have read : parseInt raw = some (.ofInt value) := by
          rw [parseInt_eq_some, numeral, integer]
        have written : raw ≠ "" := by
          intro empty
          rw [empty] at numeral
          cases numeral
        have ok : positiveDuration raw fallback unit = .ok (.ofInt value * unit) :=
          positiveDuration_ok.mpr (.inr ⟨written, _, read, by omega, rfl⟩)
        rw [outcome] at ok
        cases ok
      · intro _ d is
        cases is

end

/-! ## Texts -/

/-- `unicode.IsSpace`. -/
def isSpace (c : Char) : Bool :=
  9 ≤ c.toNat && c.toNat ≤ 13 || 0x2000 ≤ c.toNat && c.toNat ≤ 0x200a ||
    c.toNat ∈ [0x20, 0x85, 0xa0, 0x1680, 0x2028, 0x2029, 0x202f, 0x205f, 0x3000]

/-- `strings.TrimSpace`. -/
def trimSpace (value : String) : String :=
  .ofList ((value.toList.dropWhile isSpace).reverse.dropWhile isSpace).reverse

/-- `[a-z0-9]`. -/
def isLowerAlphanumeric (c : Char) : Bool := 'a' ≤ c && c ≤ 'z' || c.isDigit

/-- A first character of `[a-z0-9]`, and then of `[a-z0-9]` or these. -/
def isNameOf (others : List Char) : List Char → Bool
  | [] => false
  | first :: rest =>
      isLowerAlphanumeric first && rest.all fun c => isLowerAlphanumeric c || c ∈ others

/-- `pinnedModelRE`, with the name and the digits that it captures.  No name has an `@`, and no
part of it a `:`. -/
def matchPinnedModel (item : List Char) : Option (String × String) :=
  let name := item.takeWhile (· ≠ '@')
  let repository := name.takeWhile (· ≠ ':')
  let tag := name.drop (repository.length + 1)
  let digest := item.drop name.length
  let digits := digest.drop "@sha256:".length
  if isNameOf ['.', '_', '/', '-'] repository ∧ repository.length < name.length ∧
      isNameOf ['.', '_', '-'] tag ∧ "@sha256:".toList <+: digest ∧ digits.length = 64 ∧
      digits.all (fun c => c.isDigit || 'a' ≤ c && c ≤ 'f') = true then
    some (.ofList name, .ofList digits)
  else none

/-- The names of a path without empty and dot names; `out` is what stands before, reversed. -/
def cleanNames : List (List Char) → List (List Char) → List (List Char)
  | out, [] => out.reverse
  | out, name :: rest =>
      if name = [] ∨ name = ['.'] then cleanNames out rest
      else if name = ['.', '.'] then cleanNames out.tail rest
      else cleanNames (name :: out) rest

/-- `path.Clean`, of an absolute path. -/
def cleanAbsolute (path : String) : String :=
  .ofList ('/' :: ['/'].intercalate (cleanNames [] (path.toList.splitOn '/')))

/-- `strconv.ParseBool`. -/
def parseBool (text : String) : Option Bool :=
  if text ∈ ["1", "t", "T", "TRUE", "true", "True"] then some true
  else if text ∈ ["0", "f", "F", "FALSE", "false", "False"] then some false
  else none

/-! ## The environment -/

/-- `runtimeConfig`, less the upstream, which is constant. -/
structure StartConfig extends RuntimeConfig where
  listenAddress : String
  mode : String
  modelStoragePath : String
  startupTimeout : Duration
  pollInterval : Duration

/-- `errors.New`, where the condition holds. -/
def refuse (bad : Prop) [Decidable bad] (message : String) : Except String Unit :=
  if bad then .error message else .ok ()

def storageRoots (mode : String) : List String :=
  if mode = "serverless_load_balancer" then ["/models", "/runpod-volume"]
  else ["/models", "/workspace"]

def validateModelStoragePath (storagePath mode : String) : Except String String :=
  if hasPrefix storagePath "/" = false ∨ cleanAbsolute storagePath ≠ storagePath then
    .error "KESTREL_OLLAMA_MODEL_STORAGE_PATH must be normalized and absolute"
  else if (storageRoots mode).any (fun root =>
      storagePath = root || hasPrefix storagePath (root ++ "/")) = true then .ok storagePath
  else .error ("KESTREL_OLLAMA_MODEL_STORAGE_PATH is invalid for " ++ mode)

section

/- `time.Parse`, with its layout, and the `%q` of a format. -/
variable (timeParse : String → String → Option Time) (quote : String → String)

/-- One turn of the loop of `parseAllowedModels`. -/
def allowModel (result : List ModelPin) (item : List Char) : Except String (List ModelPin) :=
  let item := trimSpace (.ofList item)
  if item = "" then .ok result
  else
    match matchPinnedModel item.toList with
    | none =>
        .error ("invalid pinned model " ++ quote item ++
          "; expected name:tag@sha256:<64 lowercase hex>")
    | some (name, digits) =>
        if name ∈ result.map ModelPin.name then
          .error ("duplicate model " ++ quote name ++ " in KESTREL_OLLAMA_ALLOWED_MODELS")
        else .ok (result ++ [⟨name, "sha256:" ++ digits⟩])

def parseAllowedModels (raw : String) : Except String (List ModelPin) := do
  let result ← (raw.toList.splitOn ',').foldlM (allowModel quote) []
  refuse (result = [])
    "KESTREL_OLLAMA_ALLOWED_MODELS must contain at least one digest-pinned model"
  .ok result

/-- `PORT`, as a listener. -/
def listenOn (port : String) : Except String String :=
  let address :=
    if port = "" then "0.0.0.0:11434"
    else if (parseInt port).isSome then "0.0.0.0:" ++ port else port
  if hasPrefix address "0.0.0.0:" = true then .ok address
  else .error "PORT must be a numeric port or an explicit 0.0.0.0 listener"

/-- `fmt.Errorf("invalid ...: %w", err)`. -/
def invalid {α : Type} (name : String) : Except String α → Except String α :=
  Except.mapError fun err => "invalid " ++ name ++ ": " ++ err

/-- The part of `loadConfig` that reads the expiry of the bearer. -/
def bearerExpiry (raw : String) (startedAt : Time) : Except String Time :=
  match timeParse "2006-01-02T15:04:05Z07:00" raw with
  | some expiresAt =>
      if startedAt < expiresAt then .ok expiresAt
      else .error "KESTREL_OLLAMA_BEARER_TOKEN_EXPIRES_AT must be a future RFC3339 timestamp"
  | none => .error "KESTREL_OLLAMA_BEARER_TOKEN_EXPIRES_AT must be a future RFC3339 timestamp"

/-- The part of `loadConfig` that looks up the required model. -/
def requiredModel (allowed : List ModelPin) (name : String) : Except String ModelPin :=
  match allowed.find? fun pin => pin.name = name with
  | some required => .ok required
  | none =>
      .error "KESTREL_OLLAMA_REQUIRED_MODEL must exactly match an operator-pinned allowlist entry"

/-- The part of `loadConfig` that reads the preload. -/
def preloadSetting (raw : String) : Except String Bool :=
  if raw = "" then .ok true
  else
    match parseBool raw with
    | some preload => .ok preload
    | none => .error "KESTREL_OLLAMA_PRELOAD_MODEL must be true or false"

/-- The part of `loadConfig` that reads when the provision was requested. -/
def provisionTime (raw : String) (startedAt : Time) : Except String (Option Time) :=
  if raw = "" then .ok none
  else
    match timeParse "2006-01-02T15:04:05.999999999Z07:00" raw with
    | some parsed =>
        if startedAt < parsed then
          .error "KESTREL_OLLAMA_PROVISION_REQUESTED_AT must be a non-future RFC3339 timestamp"
        else .ok (some parsed)
    | none =>
        .error "KESTREL_OLLAMA_PROVISION_REQUESTED_AT must be a non-future RFC3339 timestamp"

def loadConfig (getenv : String → String) (startedAt : Time) : Except String StartConfig := do
  let token := getenv "KESTREL_OLLAMA_BEARER_TOKEN"
  refuse (token.utf8ByteSize < 32 ∨ trimSpace token ≠ token ∨
      token.toList.any (fun c => c = '\r' || c = '\n') = true)
    "KESTREL_OLLAMA_BEARER_TOKEN must be at least 32 non-whitespace characters"
  let expiresAt ← bearerExpiry timeParse (getenv "KESTREL_OLLAMA_BEARER_TOKEN_EXPIRES_AT") startedAt
  let allowed ← parseAllowedModels quote (getenv "KESTREL_OLLAMA_ALLOWED_MODELS")
  let required ← requiredModel allowed (trimSpace (getenv "KESTREL_OLLAMA_REQUIRED_MODEL"))
  let mode := getenv "KESTREL_OLLAMA_MODE"
  refuse (mode ≠ "dedicated_pod" ∧ mode ≠ "serverless_load_balancer")
    "KESTREL_OLLAMA_MODE must select dedicated_pod or serverless_load_balancer"
  let storagePath ← validateModelStoragePath (getenv "KESTREL_OLLAMA_MODEL_STORAGE_PATH") mode
  let listenAddress ← listenOn (getenv "PORT")
  let startupTimeout ← invalid "KESTREL_OLLAMA_STARTUP_TIMEOUT_SECONDS"
    (durationFromSeconds (getenv "KESTREL_OLLAMA_STARTUP_TIMEOUT_SECONDS") defaultStartupTimeout)
  let pollInterval ← invalid "KESTREL_OLLAMA_POLL_INTERVAL_MS"
    (durationFromMilliseconds (getenv "KESTREL_OLLAMA_POLL_INTERVAL_MS") defaultPollInterval)
  let preload ← preloadSetting (getenv "KESTREL_OLLAMA_PRELOAD_MODEL")
  let provisionRequested ←
    provisionTime timeParse (getenv "KESTREL_OLLAMA_PROVISION_REQUESTED_AT") startedAt
  .ok {
    listenAddress := listenAddress
    bearerToken := token
    bearerTokenExpires := expiresAt
    requiredModel := required
    allowedModels := allowed
    mode := mode
    modelStoragePath := storagePath
    startupTimeout := startupTimeout
    pollInterval := pollInterval
    preloadModel := preload
    provisionRequested := provisionRequested
    containerStartedAt := startedAt }

end

/-! ## What is loaded -/

theorem invalid_ok {α : Type} {name : String} {e : Except String α} {a : α} :
    invalid name e = .ok a ↔ e = .ok a := by
  cases e with
  | error err => simp [invalid, Except.mapError]
  | ok b => simp [invalid, Except.mapError]

/-- What holds of every configuration that was loaded. -/
structure Loaded (getenv : String → String) (startedAt : Time) (config : StartConfig) : Prop where
  started : config.containerStartedAt = startedAt
  unexpired : startedAt < config.bearerTokenExpires
  required : config.requiredModel ∈ config.allowedModels
  stored : validateModelStoragePath (getenv "KESTREL_OLLAMA_MODEL_STORAGE_PATH") config.mode =
    .ok config.modelStoragePath
  timeout : durationFromSeconds (getenv "KESTREL_OLLAMA_STARTUP_TIMEOUT_SECONDS")
    defaultStartupTimeout = .ok config.startupTimeout
  interval : durationFromMilliseconds (getenv "KESTREL_OLLAMA_POLL_INTERVAL_MS")
    defaultPollInterval = .ok config.pollInterval

section

variable {timeParse : String → String → Option Time} {quote : String → String}
  {getenv : String → String} {startedAt now : Time} {config : StartConfig}

theorem loadConfig_ok (ok : loadConfig timeParse quote getenv startedAt = .ok config) :
    Loaded getenv startedAt config := by
  unfold loadConfig at ok
  dsimp only at ok
  obtain ⟨_, _, ok⟩ := except_bind_ok.mp ok
  obtain ⟨expiresAt, expires, ok⟩ := except_bind_ok.mp ok
  obtain ⟨allowed, _, ok⟩ := except_bind_ok.mp ok
  obtain ⟨required, found, ok⟩ := except_bind_ok.mp ok
  obtain ⟨_, _, ok⟩ := except_bind_ok.mp ok
  obtain ⟨storagePath, stored, ok⟩ := except_bind_ok.mp ok
  obtain ⟨listenAddress, _, ok⟩ := except_bind_ok.mp ok
  obtain ⟨startupTimeout, timeout, ok⟩ := except_bind_ok.mp ok
  obtain ⟨pollInterval, interval, ok⟩ := except_bind_ok.mp ok
  obtain ⟨preload, _, ok⟩ := except_bind_ok.mp ok
  obtain ⟨provisionRequested, _, ok⟩ := except_bind_ok.mp ok
  cases ok
  have unexpired : startedAt < expiresAt := by
    unfold bearerExpiry at expires
    split at expires
    · split at expires
      · rename_i later
        cases expires
        exact later
      · cases expires
    · cases expires
  have member : required ∈ allowed := by
    unfold requiredModel at found
    split at found
    · rename_i pin is
      cases found
      exact List.mem_of_find?_eq_some is
    · cases found
  exact ⟨rfl, unexpired, member, stored, invalid_ok.mp timeout, invalid_ok.mp interval⟩

/-! ## The timers of the bootstrap -/

/-- The interval of `time.NewTicker`; `none` is its panic. -/
def newTicker (d : Duration) : Option Duration := if d ≤ 0 then none else some d

/-- The deadline of `context.WithTimeout`, at this reading of the clock. -/
def withTimeout (now : Time) (timeout : Duration) : Time := now + timeout.toInt

/-- `bootstrap` up to the loop of `waitForOllama`: its deadline and its ticker. -/
def beginBootstrap (config : StartConfig) (now : Time) : Option (Time × Duration) :=
  let deadline := withTimeout now config.startupTimeout
  (newTicker config.pollInterval).map fun ticker => (deadline, ticker)

/-- Both settings are exact, and the bootstrap has a ticker and time before its deadline. -/
structure KeepsTime (getenv : String → String) (config : StartConfig) (now : Time) : Prop where
  timeout : Exactly (getenv "KESTREL_OLLAMA_STARTUP_TIMEOUT_SECONDS") defaultStartupTimeout second
    config.startupTimeout
  interval : Exactly (getenv "KESTREL_OLLAMA_POLL_INTERVAL_MS") defaultPollInterval millisecond
    config.pollInterval
  begins : ∃ deadline, beginBootstrap config now = some (deadline, config.pollInterval) ∧
    now < deadline

/-- Positive settings start the bootstrap. -/
theorem beginBootstrap_of_positive (timeout : 0 < config.startupTimeout.toInt)
    (interval : 0 < config.pollInterval.toInt) :
    ∃ deadline, beginBootstrap config now = some (deadline, config.pollInterval) ∧
      now < deadline := by
  have ticks : newTicker config.pollInterval = some config.pollInterval := by
    apply if_neg
    rw [Int64.le_iff_toInt_le]
    exact not_le.mpr interval
  have later : now < withTimeout now config.startupTimeout := Int.lt_add_of_pos_right now timeout
  unfold beginBootstrap
  rw [ticks]
  exact ⟨_, rfl, later⟩

/-- The settings of a configuration that was loaded are exact just where both products fit. -/
theorem Loaded.keepsTime_iff (loaded : Loaded getenv startedAt config) :
    KeepsTime getenv config now ↔
      Fits (getenv "KESTREL_OLLAMA_STARTUP_TIMEOUT_SECONDS") second ∧
        Fits (getenv "KESTREL_OLLAMA_POLL_INTERVAL_MS") millisecond := by
  have timeout := exactly_iff (by decide) (by decide) loaded.timeout
  have interval := exactly_iff (by decide) (by decide) loaded.interval
  rw [← timeout, ← interval]
  constructor
  · intro keeps
    exact ⟨keeps.timeout, keeps.interval⟩
  · intro both
    exact ⟨both.1, both.2, beginBootstrap_of_positive both.1.positive both.2.positive⟩

end

/-- A duration is exact whenever one is returned, and the bootstrap that is configured with two
of them keeps time, just where the accepted integers fit their units. -/
theorem durations_exact_iff (raw : String) (fallback unit : Duration)
    (timeParse : String → String → Option Time) (quote getenv : String → String)
    (startedAt now : Time) (config : StartConfig) :
    (0 < fallback.toInt → 0 < unit.toInt →
      ((∀ d, positiveDuration raw fallback unit = .ok d → Exactly raw fallback unit d) ↔
        Fits raw unit)) ∧
    (loadConfig timeParse quote getenv startedAt = .ok config →
      (KeepsTime getenv config now ↔
        Fits (getenv "KESTREL_OLLAMA_STARTUP_TIMEOUT_SECONDS") second ∧
          Fits (getenv "KESTREL_OLLAMA_POLL_INTERVAL_MS") millisecond)) := by
  constructor
  · intro ready positive
    exact returned_exactly_iff ready positive
  · intro ok
    exact (loadConfig_ok ok).keepsTime_iff

/-! ### A configuration, and a timeout that wraps -/

namespace Sample

def pinned : ModelPin := ⟨"model:v1", "sha256:" ++ .ofList (List.replicate 64 'a')⟩

def environment (name : String) : String :=
  if name = "KESTREL_OLLAMA_BEARER_TOKEN" then "0123456789abcdef0123456789abcdef"
  else if name = "KESTREL_OLLAMA_BEARER_TOKEN_EXPIRES_AT" then "2026-08-02T00:00:00Z"
  else if name = "KESTREL_OLLAMA_ALLOWED_MODELS" then
    "model:v1@sha256:" ++ .ofList (List.replicate 64 'a')
  else if name = "KESTREL_OLLAMA_REQUIRED_MODEL" then "model:v1"
  else if name = "KESTREL_OLLAMA_MODE" then "dedicated_pod"
  else if name = "KESTREL_OLLAMA_MODEL_STORAGE_PATH" then "/models"
  else if name = "KESTREL_OLLAMA_STARTUP_TIMEOUT_SECONDS" then "1800"
  else ""

/-- The clock of the sample starts with its only timestamp's day. -/
def timeParse (_layout value : String) : Option Time :=
  if value = "2026-08-02T00:00:00Z" then some 86400000000000 else none

def configured : StartConfig where
  listenAddress := "0.0.0.0:11434"
  bearerToken := "0123456789abcdef0123456789abcdef"
  bearerTokenExpires := 86400000000000
  requiredModel := pinned
  allowedModels := [pinned]
  mode := "dedicated_pod"
  modelStoragePath := "/models"
  startupTimeout := 1800 * second
  pollInterval := 500 * millisecond
  preloadModel := true
  provisionRequested := none
  containerStartedAt := 0

theorem loads : loadConfig timeParse id environment 0 = .ok configured := by rfl

end Sample

/-- Half an hour keeps time. -/
theorem durations_exact_half_hour :
    (∀ d, positiveDuration "1800" defaultStartupTimeout second = .ok d →
      Exactly "1800" defaultStartupTimeout second d) ∧
    KeepsTime Sample.environment Sample.configured 0 := by
  have seconds : Fits "1800" second := by
    intro value numeral _ _
    have is : signedNumeral "1800".toList = some 1800 := by decide
    rw [is] at numeral
    cases numeral
    decide
  have unset : Fits "" millisecond := by
    intro value numeral
    cases numeral
  obtain ⟨returned, keeps⟩ := durations_exact_iff "1800" defaultStartupTimeout second
    Sample.timeParse id Sample.environment 0 0 Sample.configured
  exact ⟨(returned (by decide) (by decide)).mpr seconds,
    (keeps Sample.loads).mpr ⟨seconds, unset⟩⟩

/-- The largest word of seconds is a duration of one second less than nothing. -/
theorem timeout_wraps :
    ¬ ∀ raw d, durationFromSeconds raw defaultStartupTimeout = .ok d →
      Exactly raw defaultStartupTimeout second d := by
  intro exactly
  have returned : durationFromSeconds "9223372036854775807" defaultStartupTimeout =
      .ok (-1000000000) := by
    decide +kernel
  have positive := (exactly _ _ returned).positive
  exact absurd positive (by decide)

example : durationFromMilliseconds "288230376151711744" defaultPollInterval = .ok 0 ∧
    newTicker 0 = none := by decide +kernel

end KestrelRunpod.Supervisor
