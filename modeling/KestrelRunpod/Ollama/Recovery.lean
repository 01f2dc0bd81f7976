import KestrelRunpod.Ollama.Service
import KestrelRunpod.Numeric.Traverse
import KestrelRunpod.Serverless.Billing

/-!
# Recovering a request

`insert_request` stores a request in the columns of a lease, and `request_from_lease` rebuilds it
after a restart.  The columns keep no `requested_at`, keep the readiness timeout only as a
deadline, and keep a cost as a `REAL`; constraints are stored as JSON, and their hourly rate is
read back as a `float`.
-/

namespace KestrelRunpod.Ollama

open Numeric Traverse
open Serverless (Json calendarMin calendarMax)

/-! ## Requests -/

/-- A finite `int` or `float`, which `json.dumps` writes differently even when they are equal. -/
inductive PyNumber
  | int (n : Int)
  | float (x : ℚ)
  deriving DecidableEq, Repr

namespace PyNumber

def value : PyNumber → ℚ
  | .int n => n
  | .float x => x

def json : PyNumber → Json
  | .int n => .int n
  | .float x => .float (.finite x)

/-- `math.isfinite(value) and value > 0`; an `int` beyond the floats raises. -/
def positive (number : PyNumber) (message : String) : Except Exn Unit :=
  match number with
  | .int n =>
      if (binary64 n).isFinite = false then .error (.other "OverflowError")
      else if n ≤ 0 then .error (.valueError message)
      else .ok ()
  | .float x => if x ≤ 0 then .error (.valueError message) else .ok ()

end PyNumber

/-- `OllamaResourceConstraints`, as it is passed to the constructor. -/
structure ConstraintRecord where
  minVramGb : Int
  gpuCount : Int
  cloud : CloudType
  minCudaVersion : Option String
  allowedGpuIds : List String
  allowedGpuPools : List String
  allowedDataCenterIds : List String
  maxHourlyRate : Option PyNumber
  deriving DecidableEq

/-- `OllamaResourceConstraints.__post_init__`. -/
def ConstraintRecord.check (c : ConstraintRecord) : Except Exn Unit :=
  if c.minVramGb < 1 ∨ c.gpuCount < 1 then
    .error (.valueError "Ollama GPU memory and count must be positive")
  else
    match c.maxHourlyRate with
    | some rate => rate.positive "Ollama max_hourly_rate must be positive"
    | none => .ok ()

/-- What the fingerprint of a request digests: every field of it except the lease id. -/
structure FingerprintPayload where
  ownerId : String
  workloadId : String
  model : String
  constraints : ConstraintRecord
  expectedSessionSeconds : Int
  expectedActiveSeconds : Int
  serverlessInitializationSeconds : Int
  serverlessIdleTailSeconds : Int
  idleTimeoutSeconds : Int
  readinessTimeoutSeconds : Int
  hardDeadline : Instant
  maxAuthorizedCost : PyNumber
  mode : LeaseMode
  requestedAt : Option Instant
  deriving DecidableEq

/-- `OllamaLeaseRequest`, as it is passed to the constructor. -/
structure RequestRecord extends FingerprintPayload where
  leaseId : String
  deriving DecidableEq

/-- `OllamaLeaseRequest.__post_init__`. -/
def RequestRecord.check (r : RequestRecord) : Except Exn Unit :=
  if Pod.isBlank r.leaseId = true then .error (.valueError "Ollama lease_id cannot be empty")
  else if Pod.isBlank r.ownerId = true then .error (.valueError "Ollama owner_id cannot be empty")
  else if Pod.isBlank r.workloadId = true then
    .error (.valueError "Ollama workload_id cannot be empty")
  else if Pod.isBlank r.model = true then .error (.valueError "Ollama model cannot be empty")
  else if r.expectedSessionSeconds ≤ 0 ∨ r.expectedActiveSeconds ≤ 0 ∨
      r.idleTimeoutSeconds ≤ 0 ∨ r.readinessTimeoutSeconds ≤ 0 then
    .error (.valueError "Ollama duration fields must be positive integers")
  else if r.serverlessInitializationSeconds < 0 ∨ r.serverlessIdleTailSeconds < 0 then
    .error (.valueError "Ollama initialization/idle-tail fields must be integers")
  else if r.expectedSessionSeconds < r.expectedActiveSeconds then
    .error (.valueError "expected active time cannot exceed session time")
  else
    match r.maxAuthorizedCost.positive "max_authorized_cost must be positive" with
    | .error x => .error x
    | .ok () =>
        if r.requestedAt.any (fun t => r.hardDeadline ≤ t) = true then
          .error (.valueError "Ollama requested_at must precede hard_deadline")
        else .ok ()

/-- A request that its constructors let through. -/
structure ValidRequest extends RequestRecord where
  constraints_checked : constraints.check = .ok ()
  checked : toRequestRecord.check = .ok ()

/-- The fingerprint of a request and SHA-256 in hexadecimal. -/
structure RequestDigests where
  fingerprint : FingerprintPayload → String
  sha256 : String → String

/-- `provision_attempt_id`. -/
def RequestRecord.attemptId (digests : RequestDigests) (r : RequestRecord) : String :=
  "ollama-attempt-" ++ String.ofList ((digests.sha256
    (r.leaseId ++ ":" ++ digests.fingerprint r.toFingerprintPayload)).toList.take 24)

/-! ## The row -/

/-- The columns of a requested lease that its recovery reads. -/
structure RequestRow where
  leaseId : String
  ownerId : String
  workloadId : String
  requestFingerprint : String
  model : String
  constraintsJson : Json
  mode : LeaseMode
  state : LeaseState
  createdAt : Instant
  idleDeadline : Instant
  hardDeadline : Instant
  readinessDeadline : Instant
  expectedSessionSeconds : Int
  expectedActiveSeconds : Int
  serverlessInitializationSeconds : Int
  serverlessIdleTailSeconds : Int
  idleTimeoutSeconds : Int
  maxAuthorizedCost : ℚ

/-- A time that `datetime` can hold. -/
def utc (t : Instant) : Except Exn Instant :=
  if calendarMin ≤ t ∧ t ≤ calendarMax then .ok t else .error (.other "OverflowError")

/-- An `INTEGER` column. -/
def integerColumn (n : Int) : Except Exn Int :=
  if -2 ^ 63 ≤ n ∧ n < 2 ^ 63 then .ok n else .error (.other "OverflowError")

/-- A `REAL` column: an `int` becomes the nearest double. -/
def realColumn : PyNumber → Except Exn ℚ
  | .int n =>
      match integerColumn n, binary64 n with
      | .ok _, .finite x => .ok x
      | .ok _, _ => .error (.other "OverflowError")
      | .error x, _ => .error x
  | .float x => .ok x

/-- A list of texts. -/
def jsonTexts (texts : List String) : Json := .arr (texts.map .str)

/-- `CloudType.value`. -/
def CloudType.text : CloudType → String
  | .secure => "SECURE"
  | .community => "COMMUNITY"

/-- `asdict(constraints)`, with the cloud's value. -/
def ConstraintRecord.stored (c : ConstraintRecord) : List (String × Json) :=
  [("min_vram_gb", .int c.minVramGb), ("gpu_count", .int c.gpuCount),
    ("cloud", .str c.cloud.text),
    ("min_cuda_version", (c.minCudaVersion.map Json.str).getD .null),
    ("allowed_gpu_ids", jsonTexts c.allowedGpuIds),
    ("allowed_gpu_pools", jsonTexts c.allowedGpuPools),
    ("allowed_data_center_ids", jsonTexts c.allowedDataCenterIds),
    ("max_hourly_rate", (c.maxHourlyRate.map PyNumber.json).getD .null)]

/-- The row that `insert_request` stores. -/
def requestRow (digests : RequestDigests) (r : RequestRecord) (now : Instant) :
    Except Exn RequestRow := do
  let createdAt ← utc now
  let idleAt ← utc (now + r.idleTimeoutSeconds * 1000000)
  let hardDeadline ← utc r.hardDeadline
  let readyAt ← utc (r.requestedAt.getD now + r.readinessTimeoutSeconds * 1000000)
  let expectedSessionSeconds ← integerColumn r.expectedSessionSeconds
  let expectedActiveSeconds ← integerColumn r.expectedActiveSeconds
  let serverlessInitializationSeconds ← integerColumn r.serverlessInitializationSeconds
  let serverlessIdleTailSeconds ← integerColumn r.serverlessIdleTailSeconds
  let idleTimeoutSeconds ← integerColumn r.idleTimeoutSeconds
  let maxAuthorizedCost ← realColumn r.maxAuthorizedCost
  return {
    leaseId := r.leaseId
    ownerId := r.ownerId
    workloadId := r.workloadId
    requestFingerprint := digests.fingerprint r.toFingerprintPayload
    model := r.model
    constraintsJson := .obj r.constraints.stored
    mode := r.mode
    state := .requested
    createdAt := createdAt
    idleDeadline := min idleAt hardDeadline
    hardDeadline := hardDeadline
    readinessDeadline := min readyAt hardDeadline
    expectedSessionSeconds := expectedSessionSeconds
    expectedActiveSeconds := expectedActiveSeconds
    serverlessInitializationSeconds := serverlessInitializationSeconds
    serverlessIdleTailSeconds := serverlessIdleTailSeconds
    idleTimeoutSeconds := idleTimeoutSeconds
    maxAuthorizedCost := maxAuthorizedCost }

/-! ## The way back -/

/-- `_required_stored_int`. -/
def requiredStoredInt (value : Json) : Except Exn Int :=
  match value with
  | .int n => .ok n
  | _ => .error (.other "TypeError")

/-- `CloudType(_required_stored_string(...))`. -/
def storedCloud (value : Json) : Except Exn CloudType :=
  match value with
  | .str s =>
      if s = "SECURE" then .ok .secure
      else if s = "COMMUNITY" then .ok .community
      else .error (.valueError "Stored Ollama cloud must be a string")
  | _ => .error (.other "TypeError")

/-- `_optional_stored_string`. -/
def optionalStoredString (value : Json) : Except Exn (Option String) :=
  match value with
  | .null => .ok none
  | .str s => .ok (some s)
  | _ => .error (.other "TypeError")

/-- `_optional_stored_float`. -/
def optionalStoredFloat (value : Json) : Except Exn (Option ℚ) :=
  match value with
  | .null => .ok none
  | .int n =>
      match binary64 n with
      | .finite x => .ok (some x)
      | _ => .error (.other "OverflowError")
  | .float (.finite x) => .ok (some x)
  | .float _ => .error (.valueError "Stored Ollama rate must be a finite number or null")
  | _ => .error (.other "TypeError")

/-- One item of `_string_tuple`. -/
def storedText (item : Json) : Except Exn String :=
  match item with
  | .str s =>
      if s = "" then .error (.valueError "Stored Ollama list must be a string list") else .ok s
  | _ => .error (.other "TypeError")

/-- `_string_tuple`. -/
def storedTexts (value : Json) : Except Exn (List String) :=
  match value with
  | .arr items => items.mapM storedText
  | _ => .error (.other "TypeError")

/-- The constraints that `request_from_lease` reads. -/
def recoveredConstraints (fields : List (String × Json)) : Except Exn ConstraintRecord := do
  let minVramGb ← requiredStoredInt (Json.get fields "min_vram_gb")
  let gpuCount ← requiredStoredInt (Json.get fields "gpu_count")
  let cloud ← storedCloud (Json.get fields "cloud")
  let minCudaVersion ← optionalStoredString (Json.get fields "min_cuda_version")
  let allowedGpuIds ← storedTexts (Json.get fields "allowed_gpu_ids")
  let allowedGpuPools ← storedTexts (Json.get fields "allowed_gpu_pools")
  let allowedDataCenterIds ← storedTexts (Json.get fields "allowed_data_center_ids")
  let maxHourlyRate ← optionalStoredFloat (Json.get fields "max_hourly_rate")
  let constraints : ConstraintRecord := {
    minVramGb := minVramGb
    gpuCount := gpuCount
    cloud := cloud
    minCudaVersion := minCudaVersion
    allowedGpuIds := allowedGpuIds
    allowedGpuPools := allowedGpuPools
    allowedDataCenterIds := allowedDataCenterIds
    maxHourlyRate := maxHourlyRate.map PyNumber.float }
  constraints.check
  return constraints

/-- `KeyError`, `TypeError` and `ValueError` become the report of corrupt constraints. -/
def corruptConstraints (leaseId : String) (x : Exn) : Exn :=
  match x with
  | .valueError _ | .other "TypeError" =>
      .manager ("Ollama lease '" ++ leaseId ++ "' has corrupt constraints")
  | x => x

/-- `request_from_lease`. -/
def requestFromRow (row : RequestRow) : Except Exn RequestRecord := do
  if row.state ≠ .requested then
    .error (.manager ("Ollama lease '" ++ row.leaseId ++ "' is not a recoverable request"))
  else
    match row.constraintsJson with
    | .obj fields => do
        let constraints ←
          (recoveredConstraints fields).mapError (corruptConstraints row.leaseId)
        let request : RequestRecord := {
          leaseId := row.leaseId
          ownerId := row.ownerId
          workloadId := row.workloadId
          model := row.model
          constraints := constraints
          expectedSessionSeconds := row.expectedSessionSeconds
          expectedActiveSeconds := row.expectedActiveSeconds
          serverlessInitializationSeconds := row.serverlessInitializationSeconds
          serverlessIdleTailSeconds := row.serverlessIdleTailSeconds
          idleTimeoutSeconds := row.idleTimeoutSeconds
          readinessTimeoutSeconds :=
            max 1 (ceilSeconds (row.readinessDeadline - row.createdAt))
          hardDeadline := row.hardDeadline
          maxAuthorizedCost := .float row.maxAuthorizedCost
          mode := row.mode
          requestedAt := none }
        request.check
        return request
    | _ =>
        .error (.manager ("Ollama lease '" ++ row.leaseId ++ "' has corrupt constraints"))

/-! ## When a request is recovered -/

/-- The readiness deadline that the request gives when it is stored at `now`. -/
def RequestRecord.readinessDeadline (r : RequestRecord) (now : Instant) : Instant :=
  min (r.requestedAt.getD now + r.readinessTimeoutSeconds * 1000000) r.hardDeadline

/-- The request that is rebuilt from the row has the fingerprint, the attempt identity, the
deadlines and the fields of the request that was stored. -/
structure Recovers (digests : RequestDigests) (request : RequestRecord) (row : RequestRow)
    (rebuilt : RequestRecord) : Prop where
  fingerprint : digests.fingerprint rebuilt.toFingerprintPayload =
    digests.fingerprint request.toFingerprintPayload
  attemptId : rebuilt.attemptId digests = request.attemptId digests
  readiness : rebuilt.readinessDeadline row.createdAt = row.readinessDeadline
  hard : rebuilt.hardDeadline = request.hardDeadline
  leaseId : rebuilt.leaseId = request.leaseId
  payload : rebuilt.toFingerprintPayload = request.toFingerprintPayload

/-- No text of the list is empty. -/
def Named (texts : List String) : Prop := ∀ text ∈ texts, text ≠ ""

/-- A request that has no anchor of its own, whose readiness timeout is read back from its
deadline, whose numbers are floats, and whose lists hold no empty text. -/
structure Recoverable (r : RequestRecord) (now : Instant) : Prop where
  unanchored : r.requestedAt = none
  timeout : max 1 (ceilSeconds (r.readinessDeadline now - now)) = r.readinessTimeoutSeconds
  cost : ∃ x, r.maxAuthorizedCost = .float x
  rate : ∀ n, r.constraints.maxHourlyRate ≠ some (.int n)
  gpuIds : Named r.constraints.allowedGpuIds
  gpuPools : Named r.constraints.allowedGpuPools
  dataCenterIds : Named r.constraints.allowedDataCenterIds

theorem storedText_ok {text back : String} :
    storedText (.str text) = .ok back ↔ back = text ∧ text ≠ "" := by
  unfold storedText
  dsimp only
  by_cases empty : text = ""
  · rw [if_pos empty]
    exact iff_of_false (fun ok => nomatch ok) fun both => both.2 empty
  · rw [if_neg empty, Except.ok.injEq]
    exact ⟨fun same => ⟨same.symm, empty⟩, fun both => both.1.symm⟩

theorem storedTexts_ok {texts back : List String} :
    storedTexts (jsonTexts texts) = .ok back ↔ back = texts ∧ Named texts := by
  unfold storedTexts jsonTexts Named
  rw [mapM_ok_iff, List.forall₂_map_left_iff]
  constructor
  · intro each
    induction each with
    | nil => exact ⟨rfl, fun text member => nomatch member⟩
    | cons is _ ih =>
        obtain ⟨rfl, nonempty⟩ := storedText_ok.mp is
        obtain ⟨rfl, named⟩ := ih
        refine ⟨rfl, fun text member => ?_⟩
        rcases List.mem_cons.mp member with rfl | later
        · exact nonempty
        · exact named text later
  · rintro ⟨rfl, named⟩
    induction back with
    | nil => exact .nil
    | cons text rest ih =>
        refine .cons ?_ (ih fun t member => named t (List.mem_cons_of_mem text member))
        exact storedText_ok.mpr ⟨rfl, named text List.mem_cons_self⟩

theorem storedCloud_text (cloud : CloudType) : storedCloud (.str cloud.text) = .ok cloud := by
  cases cloud <;> rfl

theorem optionalStoredString_json (value : Option String) :
    optionalStoredString ((value.map Json.str).getD .null) = .ok value := by
  cases value <;> rfl

/-- A rate comes back as the float it was, or as the nearest one. -/
theorem optionalStoredFloat_json {value : Option PyNumber} {back : Option ℚ}
    (ok : optionalStoredFloat ((value.map PyNumber.json).getD .null) = .ok back) :
    back.map PyNumber.float = value ↔ ∀ n, value ≠ some (.int n) := by
  cases value with
  | none =>
      cases ok
      exact iff_of_true rfl fun n same => nomatch same
  | some rate =>
      cases rate with
      | int n =>
          constructor
          · intro same
            cases back <;> cases same
          · intro none_
            exact absurd rfl (none_ n)
      | float x =>
          cases ok
          exact iff_of_true rfl fun n same => nomatch same

theorem optionalStoredFloat_int {n : Int} {x : ℚ} (double : binary64 n = .finite x) :
    optionalStoredFloat (.int n) = .ok (some x) := by
  unfold optionalStoredFloat
  dsimp only
  rw [double]

theorem optionalStoredFloat_total {c : ConstraintRecord} (checked : c.check = .ok ()) :
    ∃ back, optionalStoredFloat ((c.maxHourlyRate.map PyNumber.json).getD .null) = .ok back := by
  unfold ConstraintRecord.check at checked
  split at checked
  · cases checked
  · cases rate : c.maxHourlyRate with
    | none => exact ⟨none, rfl⟩
    | some number =>
        rw [rate] at checked
        cases number with
        | float x => exact ⟨some x, rfl⟩
        | int n =>
            cases double : binary64 n with
            | finite x => exact ⟨some x, optionalStoredFloat_int double⟩
            | infinite negative =>
                unfold PyNumber.positive at checked
                dsimp only at checked
                rw [double] at checked
                cases checked
            | nan =>
                unfold PyNumber.positive at checked
                dsimp only at checked
                rw [double] at checked
                cases checked

/-- Stored constraints are read back as they were when their rate is no `int` and their lists
hold no empty text. -/
theorem recoveredConstraints_iff {c : ConstraintRecord} (checked : c.check = .ok ()) :
    recoveredConstraints c.stored = .ok c ↔ Named c.allowedGpuIds ∧ Named c.allowedGpuPools ∧
      Named c.allowedDataCenterIds ∧ ∀ n, c.maxHourlyRate ≠ some (.int n) := by
  have reads : recoveredConstraints c.stored = (do
      let gpuIds ← storedTexts (jsonTexts c.allowedGpuIds)
      let gpuPools ← storedTexts (jsonTexts c.allowedGpuPools)
      let dataCenterIds ← storedTexts (jsonTexts c.allowedDataCenterIds)
      let rate ← optionalStoredFloat ((c.maxHourlyRate.map PyNumber.json).getD .null)
      let back : ConstraintRecord := { c with
        allowedGpuIds := gpuIds
        allowedGpuPools := gpuPools
        allowedDataCenterIds := dataCenterIds
        maxHourlyRate := rate.map PyNumber.float }
      back.check
      return back) := by
    unfold recoveredConstraints
    have cloud : storedCloud (Json.get c.stored "cloud") = .ok c.cloud := storedCloud_text c.cloud
    have cuda : optionalStoredString (Json.get c.stored "min_cuda_version") =
        .ok c.minCudaVersion := optionalStoredString_json c.minCudaVersion
    rw [cloud, cuda]
    rfl
  rw [reads]
  constructor
  · intro ok
    obtain ⟨gpuIds, ids, ok⟩ := except_bind_ok.mp ok
    obtain ⟨gpuPools, pools, ok⟩ := except_bind_ok.mp ok
    obtain ⟨dataCenterIds, centers, ok⟩ := except_bind_ok.mp ok
    obtain ⟨rate, rated, ok⟩ := except_bind_ok.mp ok
    obtain ⟨_, ok⟩ := check_bind_ok.mp ok
    have same := Except.ok.inj ok
    refine ⟨(storedTexts_ok.mp ids).2, (storedTexts_ok.mp pools).2, (storedTexts_ok.mp centers).2,
      (optionalStoredFloat_json rated).mp (congrArg ConstraintRecord.maxHourlyRate same)⟩
  · rintro ⟨ids, pools, centers, floats⟩
    obtain ⟨rate, rated⟩ := optionalStoredFloat_total checked
    have same := (optionalStoredFloat_json rated).mpr floats
    refine except_bind_ok.mpr ⟨_, storedTexts_ok.mpr ⟨rfl, ids⟩, except_bind_ok.mpr ⟨_,
      storedTexts_ok.mpr ⟨rfl, pools⟩, except_bind_ok.mpr ⟨_, storedTexts_ok.mpr ⟨rfl, centers⟩,
        except_bind_ok.mpr ⟨rate, rated, ?_⟩⟩⟩⟩
    rw [same]
    exact check_bind_ok.mpr ⟨checked, rfl⟩

theorem utc_ok {t u : Instant} (ok : utc t = .ok u) : u = t := by
  unfold utc at ok
  split at ok
  · cases ok
    rfl
  · cases ok

theorem integerColumn_ok {n m : Int} (ok : integerColumn n = .ok m) : m = n := by
  unfold integerColumn at ok
  split at ok
  · cases ok
    rfl
  · cases ok

/-- What the row repeats of its request. -/
structure Stores (digests : RequestDigests) (r : RequestRecord) (now : Instant)
    (row : RequestRow) : Prop where
  cost : realColumn r.maxAuthorizedCost = .ok row.maxAuthorizedCost
  same : ∃ idleDeadline, row = {
    leaseId := r.leaseId
    ownerId := r.ownerId
    workloadId := r.workloadId
    requestFingerprint := digests.fingerprint r.toFingerprintPayload
    model := r.model
    constraintsJson := .obj r.constraints.stored
    mode := r.mode
    state := .requested
    createdAt := now
    idleDeadline := idleDeadline
    hardDeadline := r.hardDeadline
    readinessDeadline := r.readinessDeadline now
    expectedSessionSeconds := r.expectedSessionSeconds
    expectedActiveSeconds := r.expectedActiveSeconds
    serverlessInitializationSeconds := r.serverlessInitializationSeconds
    serverlessIdleTailSeconds := r.serverlessIdleTailSeconds
    idleTimeoutSeconds := r.idleTimeoutSeconds
    maxAuthorizedCost := row.maxAuthorizedCost }

theorem requestRow_stores {digests : RequestDigests} {r : RequestRecord} {now : Instant}
    {row : RequestRow} (ok : requestRow digests r now = .ok row) : Stores digests r now row := by
  unfold requestRow at ok
  obtain ⟨_, created, ok⟩ := except_bind_ok.mp ok
  obtain ⟨_, _, ok⟩ := except_bind_ok.mp ok
  obtain ⟨_, hard, ok⟩ := except_bind_ok.mp ok
  obtain ⟨_, ready, ok⟩ := except_bind_ok.mp ok
  obtain ⟨_, session, ok⟩ := except_bind_ok.mp ok
  obtain ⟨_, active, ok⟩ := except_bind_ok.mp ok
  obtain ⟨_, initialization, ok⟩ := except_bind_ok.mp ok
  obtain ⟨_, tail, ok⟩ := except_bind_ok.mp ok
  obtain ⟨_, idle, ok⟩ := except_bind_ok.mp ok
  obtain ⟨_, cost, ok⟩ := except_bind_ok.mp ok
  have is := Except.ok.inj ok
  rw [utc_ok created, utc_ok hard, utc_ok ready, integerColumn_ok session,
    integerColumn_ok active, integerColumn_ok initialization, integerColumn_ok tail,
    integerColumn_ok idle] at is
  subst is
  exact ⟨cost, _, rfl⟩

/-- The request that the row gives back, for the constraints that were read. -/
def RequestRow.rebuilt (row : RequestRow) (constraints : ConstraintRecord) : RequestRecord where
  leaseId := row.leaseId
  ownerId := row.ownerId
  workloadId := row.workloadId
  model := row.model
  constraints := constraints
  expectedSessionSeconds := row.expectedSessionSeconds
  expectedActiveSeconds := row.expectedActiveSeconds
  serverlessInitializationSeconds := row.serverlessInitializationSeconds
  serverlessIdleTailSeconds := row.serverlessIdleTailSeconds
  idleTimeoutSeconds := row.idleTimeoutSeconds
  readinessTimeoutSeconds := max 1 (ceilSeconds (row.readinessDeadline - row.createdAt))
  hardDeadline := row.hardDeadline
  maxAuthorizedCost := .float row.maxAuthorizedCost
  mode := row.mode
  requestedAt := none

theorem mapError_ok {α : Type} {f : Exn → Exn} {result : Except Exn α} {a : α} :
    result.mapError f = .ok a ↔ result = .ok a := by
  cases result with
  | ok b => exact Iff.rfl
  | error x => exact iff_of_false (fun ok => nomatch ok) fun ok => nomatch ok

theorem requestFromRow_ok {row : RequestRow} {fields : List (String × Json)}
    {rebuilt : RequestRecord} (requested : row.state = .requested)
    (json : row.constraintsJson = .obj fields) :
    requestFromRow row = .ok rebuilt ↔ ∃ constraints,
      recoveredConstraints fields = .ok constraints ∧
        (row.rebuilt constraints).check = .ok () ∧ rebuilt = row.rebuilt constraints := by
  unfold requestFromRow
  rw [if_neg (not_not.mpr requested), json]
  dsimp only
  rw [except_bind_ok]
  constructor
  · rintro ⟨constraints, read, ok⟩
    obtain ⟨checked, ok⟩ := check_bind_ok.mp ok
    exact ⟨constraints, mapError_ok.mp read, checked, (Except.ok.inj ok).symm⟩
  · rintro ⟨constraints, read, checked, rfl⟩
    exact ⟨constraints, mapError_ok.mpr read, check_bind_ok.mpr ⟨checked, rfl⟩⟩

/-- A valid request that was stored is recovered if and only if it is recoverable. -/
theorem request_recovers_iff (digests : RequestDigests) (request : ValidRequest) (now : Instant)
    (row : RequestRow) (stored : requestRow digests request.toRequestRecord now = .ok row) :
    (∃ rebuilt, requestFromRow row = .ok rebuilt ∧
      Recovers digests request.toRequestRecord row rebuilt) ↔
      Recoverable request.toRequestRecord now := by
  obtain ⟨cost, idleDeadline, is⟩ := requestRow_stores stored
  have requested : row.state = .requested := by rw [is]
  have json : row.constraintsJson = .obj request.constraints.stored := by rw [is]
  constructor
  · rintro ⟨rebuilt, ok, recovers⟩
    obtain ⟨constraints, read, _, rfl⟩ := (requestFromRow_ok requested json).mp ok
    have same := recovers.payload
    have sameConstraints : constraints = request.constraints :=
      congrArg FingerprintPayload.constraints same
    rw [sameConstraints] at read
    obtain ⟨ids, pools, centers, floats⟩ :=
      (recoveredConstraints_iff request.constraints_checked).mp read
    refine ⟨(congrArg FingerprintPayload.requestedAt same).symm, ?_,
      ⟨row.maxAuthorizedCost, (congrArg FingerprintPayload.maxAuthorizedCost same).symm⟩, floats,
      ids, pools, centers⟩
    have timeout := congrArg FingerprintPayload.readinessTimeoutSeconds same
    rw [is] at timeout
    exact timeout
  · intro recoverable
    obtain ⟨x, float⟩ := recoverable.cost
    have read := (recoveredConstraints_iff request.constraints_checked).mpr
      ⟨recoverable.gpuIds, recoverable.gpuPools, recoverable.dataCenterIds, recoverable.rate⟩
    have value : row.maxAuthorizedCost = x := by
      rw [float] at cost
      exact (Except.ok.inj cost).symm
    have same : row.rebuilt request.constraints = request.toRequestRecord := by
      rw [is]
      unfold RequestRow.rebuilt
      dsimp only
      rw [recoverable.timeout, value, ← float, ← recoverable.unanchored]
    refine ⟨_, (requestFromRow_ok requested json).mpr ⟨_, read, ?_, rfl⟩, ?_⟩
    · rw [same]
      exact request.checked
    · rw [same]
      refine ⟨rfl, rfl, ?_, rfl, rfl, rfl⟩
      rw [is]

/-! ### A sample request -/

namespace Recovery

def digests : RequestDigests where
  fingerprint payload := payload.ownerId ++ ":" ++ payload.workloadId ++ ":" ++
    toString payload.requestedAt.isSome
  sha256 text := text

def constraints : ConstraintRecord where
  minVramGb := 16
  gpuCount := 1
  cloud := .secure
  minCudaVersion := none
  allowedGpuIds := ["NVIDIA L4"]
  allowedGpuPools := []
  allowedDataCenterIds := []
  maxHourlyRate := some (.float (1 / 2))

/-- A request for ten minutes, with an hour until its hard deadline. -/
def request (requestedAt : Option Instant) : RequestRecord where
  leaseId := "lease"
  ownerId := "owner"
  workloadId := "workload"
  model := "llama3.2:1b"
  constraints := constraints
  expectedSessionSeconds := 600
  expectedActiveSeconds := 300
  serverlessInitializationSeconds := 30
  serverlessIdleTailSeconds := 30
  idleTimeoutSeconds := 300
  readinessTimeoutSeconds := 120
  hardDeadline := 3600000000
  maxAuthorizedCost := .float 2
  mode := .auto
  requestedAt := requestedAt

def unanchored : ValidRequest where
  toRequestRecord := request none
  constraints_checked := by decide +kernel
  checked := by decide +kernel

/-- The request as it arrives with the time it was made. -/
def anchored : ValidRequest where
  toRequestRecord := request (some 0)
  constraints_checked := by decide +kernel
  checked := by decide +kernel

/-- The row that both requests give. -/
def row (requestedAt : Option Instant) : RequestRow where
  leaseId := "lease"
  ownerId := "owner"
  workloadId := "workload"
  requestFingerprint := digests.fingerprint (request requestedAt).toFingerprintPayload
  model := "llama3.2:1b"
  constraintsJson := .obj constraints.stored
  mode := .auto
  state := .requested
  createdAt := 0
  idleDeadline := 300000000
  hardDeadline := 3600000000
  readinessDeadline := 120000000
  expectedSessionSeconds := 600
  expectedActiveSeconds := 300
  serverlessInitializationSeconds := 30
  serverlessIdleTailSeconds := 30
  idleTimeoutSeconds := 300
  maxAuthorizedCost := 2

theorem stored (requestedAt : Option Instant) (anchor : requestedAt.getD 0 = 0) :
    requestRow digests (request requestedAt) 0 = .ok (row requestedAt) := by
  unfold requestRow
  dsimp only [request]
  rw [anchor]
  rfl

end Recovery

/-- A request for ten minutes that was made at no stated time is recovered. -/
theorem request_recovers_unanchored :
    Recoverable Recovery.unanchored.toRequestRecord 0 ∧
      ∃ rebuilt, requestFromRow (Recovery.row none) = .ok rebuilt ∧
        Recovers Recovery.digests Recovery.unanchored.toRequestRecord (Recovery.row none)
          rebuilt := by
  have recoverable : Recoverable Recovery.unanchored.toRequestRecord 0 := by
    refine ⟨rfl, ?_, ⟨2, rfl⟩, ?_, ?_, ?_, ?_⟩
    · decide +kernel
    · intro n same
      cases same
    · intro text member
      rcases List.mem_singleton.mp member with rfl
      decide
    · intro text member
      cases member
    · intro text member
      cases member
  have stored := Recovery.stored none rfl
  exact ⟨recoverable, (request_recovers_iff Recovery.digests Recovery.unanchored 0
    (Recovery.row none) stored).mpr recoverable⟩

/-- The same request with the time it was made is rebuilt with another fingerprint and another
attempt identity. -/
theorem anchored_request_changes :
    requestRow Recovery.digests Recovery.anchored.toRequestRecord 0 =
        .ok (Recovery.row (some 0)) ∧
      ∃ rebuilt, requestFromRow (Recovery.row (some 0)) = .ok rebuilt ∧
        Recovery.digests.fingerprint rebuilt.toFingerprintPayload ≠
          Recovery.digests.fingerprint Recovery.anchored.toFingerprintPayload ∧
        rebuilt.attemptId Recovery.digests ≠
          Recovery.anchored.toRequestRecord.attemptId Recovery.digests ∧
        rebuilt.requestedAt = none ∧ Recovery.anchored.requestedAt = some 0 := by
  have stored := Recovery.stored (some 0) rfl
  have read : recoveredConstraints Recovery.constraints.stored = .ok Recovery.constraints := by
    refine (recoveredConstraints_iff (by decide +kernel)).mpr ⟨?_, ?_, ?_, ?_⟩
    · exact fun text member => List.mem_singleton.mp member ▸ by decide
    · exact fun text member => nomatch member
    · exact fun text member => nomatch member
    · exact fun n same => nomatch same
  have timeout : max 1 (ceilSeconds 120000000) = 120 := by decide +kernel
  have recovered : requestFromRow (Recovery.row (some 0)) = .ok (Recovery.request none) := by
    refine (requestFromRow_ok rfl rfl).mpr ⟨Recovery.constraints, read, ?_, ?_⟩
    · decide +kernel
    · unfold RequestRow.rebuilt
      change _ = { Recovery.request none with
        readinessTimeoutSeconds := max 1 (ceilSeconds 120000000) }
      rw [timeout]
      rfl
  refine ⟨stored, Recovery.request none, recovered, ?_, ?_, rfl, rfl⟩
  · decide +kernel
  · decide +kernel

end KestrelRunpod.Ollama
