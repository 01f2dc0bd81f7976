import KestrelRunpod.Catalog
import KestrelRunpod.Numeric.Decimal
import KestrelRunpod.Numeric.Traverse

/-!
# Serverless capacity contracts

The records of a planned Serverless endpoint, from its specification to its quote, with the
checks their constructors make.  A digest is a function of the record that is digested:
`json.dumps` with sorted keys writes equal records, and only those, as equal texts.
-/

namespace KestrelRunpod.Serverless

open Numeric Catalog

/-! ## Exceptions -/

/-- An exception, by class and by the data its handlers read. -/
inductive Exn
  | cancelled
  | valueError (message : String)
  | other (className : String)
  | manager (message : String)
  | api (statusCode : Option Nat)
  | ambiguous (statusCode : Option Nat)
  | activation (message endpointName : String) (observedEndpointIds : List String)
  | cleanup (message endpointName endpointId : String)
  deriving DecidableEq, Repr

namespace Exn

/-- Instances of `RunPodManagerError`. -/
def isManager : Exn → Bool
  | .cancelled | .valueError _ | .other _ => false
  | _ => true

/-- Instances of `RunPodAmbiguousResultError`. -/
def isAmbiguous : Exn → Bool
  | .ambiguous _ => true
  | _ => false

/-- A `RunPodAPIError` with status 404. -/
def isNotFound : Exn → Bool
  | .api status | .ambiguous status => status = some 404
  | _ => false

/-- Instances of `ValueError`. -/
def isValueError : Exn → Bool
  | .valueError _ => true
  | _ => false

/-- An exception that the catalog code raises. -/
def ofFault : Fault → Exn
  | .valueError message => .valueError message
  | .manager message => .manager message

end Exn

/-- Call catalog code. -/
def catalog {α : Type} : Except Fault α → Except Exn α := Except.mapError Exn.ofFault

/-! ## Field checks -/

/-- Raise `x` when `bad` holds. -/
def refuse (bad : Prop) [Decidable bad] (x : Exn) : Except Exn Unit :=
  if bad then .error x else .ok ()

section

variable {bad : Prop} [Decidable bad] {x y : Exn} {α : Type}

@[simp] theorem refuse_ok : refuse bad x = .ok () ↔ ¬ bad := by
  unfold refuse
  split <;> simp_all

@[simp] theorem refuse_error : refuse bad x = .error y ↔ bad ∧ x = y := by
  unfold refuse
  split <;> simp_all

@[simp] theorem refuse_bind_ok {k : Unit → Except Exn α} {a : α} :
    (refuse bad x >>= k) = .ok a ↔ ¬ bad ∧ k () = .ok a := by
  rw [Traverse.check_bind_ok, refuse_ok]

theorem refuse_bind_error {k : Unit → Except Exn α} :
    (refuse bad x >>= k) = .error y ↔ (bad ∧ x = y) ∨ ¬ bad ∧ k () = .error y := by
  unfold refuse
  split
  · rename_i holds
    simp [bind, Except.bind, holds]
  · rename_i fails
    simp [bind, Except.bind, fails]

end

/-- `[A-Za-z0-9][A-Za-z0-9._:-]{0,254}` on characters. -/
def identifierChars : List Char → Bool
  | [] => false
  | first :: rest =>
      Pod.isAlphanumeric first && rest.length ≤ 254 &&
        rest.all fun c => Pod.isAlphanumeric c || c = '.' || c = '_' || c = ':' || c = '-'

/-- `_IDENTIFIER_RE.fullmatch`. -/
def isIdentifier (value : String) : Bool := identifierChars value.toList

/-- `[^\s]+@sha256:[0-9a-f]{64}` on characters. -/
def immutableReferenceChars (chars : List Char) : Bool :=
  let stem := chars.take (chars.length - 72)
  stem ≠ [] && stem.all (fun c => !Pod.isSpace c) &&
    (chars.drop (chars.length - 72)).take 8 = "@sha256:".toList &&
    (chars.drop (chars.length - 64)).all Pod.isHexDigit

/-- `_IMMUTABLE_REFERENCE_RE.fullmatch`. -/
def isImmutableReference (value : String) : Bool := immutableReferenceChars value.toList

/-- `needle in value`. -/
def occurs (needle chars : List Char) : Bool := chars.tails.any fun rest => needle.isPrefixOf rest

instance (value : String) : Decidable (isIdentifier value = false) :=
  Pod.decideOnChars value fun chars => identifierChars chars = false

instance (value : String) : Decidable (isImmutableReference value = false) :=
  Pod.decideOnChars value fun chars => immutableReferenceChars chars = false

/-- A hexadecimal digit may stand in an identifier. -/
theorem isAlphanumeric_of_isHexDigit {c : Char} (digit : Pod.isHexDigit c = true) :
    Pod.isAlphanumeric c = true := by
  simp only [Pod.isHexDigit, Bool.or_eq_true, Bool.and_eq_true, decide_eq_true_eq] at digit
  simp only [Pod.isAlphanumeric, Bool.or_eq_true, Bool.and_eq_true, decide_eq_true_eq]
  rcases digit with number | letter
  · exact .inr number
  · exact .inl (.inr ⟨letter.1, Char.le_trans letter.2 (by decide)⟩)

/-- A digest after an identifier that leaves it room makes an identifier. -/
theorem isIdentifier_append_sha256 {stem digest : String} (safe : isIdentifier stem = true)
    (short : stem.toList.length ≤ 64) (hex : Pod.isSha256 digest = true) :
    isIdentifier (stem ++ digest) = true := by
  unfold isIdentifier at safe ⊢
  simp only [Pod.isSha256, Bool.and_eq_true, decide_eq_true_eq] at hex
  rw [String.toList_append]
  cases chars : stem.toList with
  | nil => simp [chars, identifierChars] at safe
  | cons first rest =>
      simp only [chars, identifierChars, Bool.and_eq_true, decide_eq_true_eq, List.length_cons]
        at safe short
      simp only [List.cons_append, identifierChars, List.length_append, List.all_append,
        Bool.and_eq_true, decide_eq_true_eq, hex.1]
      refine ⟨⟨safe.1.1, by omega⟩, safe.2, ?_⟩
      rw [List.all_eq_true] at hex ⊢
      intro c held
      simp [isAlphanumeric_of_isHexDigit (hex.2 c held)]

/-- `_safe_identifier`. -/
def safeIdentifier (value name : String) : Except Exn Unit :=
  refuse (isIdentifier value = false)
    (.valueError ("Serverless capacity " ++ name ++ " is not a safe identifier"))

/-- `_safe_display_name`. -/
def safeDisplayName (value name : String) : Except Exn Unit :=
  refuse (Pod.isBlank value = true ∨ 255 < value.toList.length ∨
      value.toList.any (fun c => c.toNat < 32) = true ∨
      occurs "http://".toList (value.toList.map Char.toLower) = true ∨
      occurs "https://".toList (value.toList.map Char.toLower) = true)
    (.valueError ("Serverless capacity " ++ name ++ " is invalid"))

/-- `_sha256`. -/
def sha256Digest (value name : String) : Except Exn Unit :=
  refuse (Pod.isSha256 value = false)
    (.valueError ("Serverless capacity " ++ name ++ " must be a SHA-256 digest"))

/-- `_identifiers`. -/
def identifiers (values : List String) (name reason : String) : Except Exn Unit := do
  refuse (values = [] ∨ ¬ values.Nodup)
    (.valueError ("Serverless capacity " ++ name ++ ": " ++ reason))
  values.forM fun value => safeIdentifier value name

/-- `_positive_int`. -/
def positiveInt (value : Int) (name : String) : Except Exn Unit :=
  refuse (value < 1)
    (.valueError ("Serverless capacity " ++ name ++ " must be a positive integer"))

/-- `_nonnegative_int`. -/
def nonnegativeInt (value : Int) (name : String) : Except Exn Unit :=
  refuse (value < 0)
    (.valueError ("Serverless capacity " ++ name ++ " must be a nonnegative integer"))

/-- `_positive_decimal`. -/
def positiveDecimal (value : Decimal) (name : String) : Except Exn Unit :=
  refuse (value.coefficient ≤ 0)
    (.valueError ("Serverless capacity " ++ name ++ " must be finite and positive"))

/-- `_nonnegative_decimal`. -/
def nonnegativeDecimal (value : Decimal) (name : String) : Except Exn Unit :=
  refuse (value.coefficient < 0)
    (.valueError ("Serverless capacity " ++ name ++ " must be finite and nonnegative"))

/-- The checks on a schema and a contract version. -/
def supported (schemaVersion : Int) (contractVersion what : String) : Except Exn Unit := do
  refuse (schemaVersion ≠ 1) (.valueError (what ++ " schema is unsupported"))
  refuse (contractVersion ≠ "serverless-capacity-v1")
    (.valueError (what ++ " contract is unsupported"))

/-- `SERVERLESS_CAPACITY_SCHEMA_VERSION`. -/
def schemaVersion : Int := 1

/-- `SERVERLESS_CAPACITY_CONTRACT_VERSION`. -/
def contractVersion : String := "serverless-capacity-v1"

/-! ## Endpoint specifications -/

/-- `FlashBoot`. -/
inductive FlashBoot
  | off
  | flashboot
  | priorityFlashboot
  deriving DecidableEq, Repr

/-- The enumeration's value. -/
def FlashBoot.text : FlashBoot → String
  | .off => "OFF"
  | .flashboot => "FLASHBOOT"
  | .priorityFlashboot => "PRIORITY_FLASHBOOT"

/-- `EndpointResourceVersion`. -/
inductive ResourceVersion
  | legacy
  | ga
  deriving DecidableEq, Repr

structure ConstraintFields where
  minVramGb : Int
  gpuCount : Int := 1
  cloud : CloudType := .secure
  minCudaVersion : Option String := none
  allowedGpuPools : List String := []
  allowedDataCenterIds : List String := []
  maxHourlyWorkerRateUsd : Option Decimal := none
  minimumAvailability : Availability := .low
  benchmarkId : String := "catalog-selfie"
  deriving DecidableEq

/-- `ServerlessCapacityConstraints.__post_init__`. -/
def ConstraintFields.check (c : ConstraintFields) : Except Exn Unit := do
  positiveInt c.minVramGb "min_vram_gb"
  positiveInt c.gpuCount "gpu_count"
  let _ ← catalog (normalizeCudaFloor c.minCudaVersion)
  identifiers c.allowedGpuPools "allowed_gpu_pools"
    "at least one allowed endpoint pool is required"
  identifiers c.allowedDataCenterIds "allowed_data_center_ids"
    "at least one allowed endpoint data center is required"
  safeIdentifier c.benchmarkId "benchmark_id"
  (match c.maxHourlyWorkerRateUsd with
    | some limit => positiveDecimal limit "max_hourly_worker_rate_usd"
    | none => pure ())

/-- `ServerlessCapacityConstraints`. -/
structure CapacityConstraints extends ConstraintFields where
  checked : toConstraintFields.check = .ok ()
  deriving DecidableEq

/-- `placement_requirements`. -/
def CapacityConstraints.placementRequirements (c : CapacityConstraints) :
    Except Exn PlacementRequirements := do
  let maximumRate := c.maxHourlyWorkerRateUsd.map fun limit => binary64 limit.value
  refuse (maximumRate.any (fun rate => !rate.isFinite) = true)
    (.valueError "Serverless capacity hourly-rate limit is too large")
  catalog (PlacementRequirements.build {
    product := .serverless
    minVramGb := c.minVramGb
    gpuCount := c.gpuCount
    cloud := c.cloud
    minCudaVersion := c.minCudaVersion
    maxCostPerHr := maximumRate
    allowedGpuIds := []
    allowedGpuPools := c.allowedGpuPools
    allowedDataCenterIds := c.allowedDataCenterIds
    minimumAvailability := c.minimumAvailability
    benchmarkId := some c.benchmarkId })

structure SpecFields where
  workerReference : String
  constraints : CapacityConstraints
  workersMin : Int
  workersMax : Int
  idleTailSeconds : Int
  scalingType : String
  scalingValue : Decimal
  executionTimeoutMs : Int
  flashboot : FlashBoot
  diskGb : Int
  registryId : Option String := none
  networkVolumeIds : List String := []
  resourceSchemaVersion : ResourceVersion := .ga
  deriving DecidableEq

/-- `_MAX_SERVERLESS_POLICY_MS`. -/
def maxPolicyMs : Int := 604800000

/-- `ServerlessEndpointSpec.__post_init__`. -/
def SpecFields.check (s : SpecFields) : Except Exn Unit := do
  refuse (isImmutableReference s.workerReference = false)
    (.valueError "Serverless worker reference must be pinned by a SHA-256 digest")
  refuse (occurs "://".toList s.workerReference.toList = true)
    (.valueError "Serverless worker reference cannot be a URL")
  nonnegativeInt s.workersMin "workers_min"
  positiveInt s.workersMax "workers_max"
  refuse (s.workersMin ≠ 0 ∨ s.workersMax ≠ 1)
    (.valueError ("Authoritative per-attempt billing requires a scale-to-zero, " ++
      "single-worker endpoint"))
  positiveInt s.idleTailSeconds "idle_tail_seconds"
  refuse (3600 < s.idleTailSeconds)
    (.valueError "Serverless endpoint idle_tail_seconds exceeds v2 maximum")
  refuse (s.scalingType ≠ "QUEUE_DELAY")
    (.valueError ("Finite Serverless billing requires QUEUE_DELAY scaling with an " ++
      "observable idle tail"))
  positiveDecimal s.scalingValue "scaling_value"
  refuse (s.scalingValue.value < 1 / 2)
    (.valueError "Serverless QUEUE_DELAY target must be at least 0.5")
  positiveInt s.executionTimeoutMs "execution_timeout_ms"
  refuse (¬ (5000 ≤ s.executionTimeoutMs ∧ s.executionTimeoutMs ≤ maxPolicyMs))
    (.valueError ("Serverless endpoint execution_timeout_ms must be between " ++
      "5 seconds and 7 days"))
  positiveInt s.diskGb "disk_gb"
  (match s.registryId with
    | some registry => safeIdentifier registry "registry_id"
    | none => pure ())
  refuse (s.networkVolumeIds ≠ [])
    (.valueError ("Finite Serverless billing cannot attribute persistent network " ++
      "volume cost to one attempt"))

/-- `ServerlessEndpointSpec`. -/
structure EndpointSpec extends SpecFields where
  checked : toSpecFields.check = .ok ()
  deriving DecidableEq

/-- The body of `POST /serverless` that `to_payload` writes.  Ports, environment and arguments
are always empty. -/
structure CreatePayload where
  name : String
  image : String
  endpointType : String
  gpuPools : List String
  gpuCount : Int
  minCudaVersion : Option String
  workersMin : Int
  workersMax : Int
  idleTimeoutSeconds : Int
  scalingType : String
  queueDelay : Number
  diskGb : Int
  registryId : Option String
  dataCenterIds : List String
  networkVolumeIds : List String
  mounts : Option (List String)
  executionTimeoutMs : Int
  flashboot : FlashBoot
  deriving DecidableEq

/-- `EndpointCreateRequest`, as `create_request` builds it. -/
structure CreateRequest where
  name : String
  image : String
  gpuPools : List String
  endpointType : String
  scalingType : String
  queueDelay : Number
  gpuCount : Int
  workersMin : Int
  workersMax : Int
  idleTimeoutSeconds : Int
  diskGb : Int
  registryId : Option String
  dataCenterIds : List String
  networkVolumeIds : List String
  executionTimeoutMs : Int
  flashboot : FlashBoot
  minCudaVersion : Option String
  resourceSchemaVersion : ResourceVersion
  deriving DecidableEq

/-- `EndpointCreateRequest.__post_init__`, on the values that `create_request` passes. -/
def CreateRequest.check (r : CreateRequest) : Except Exn Unit := do
  refuse (r.name = "" ∨ r.image = "" ∨ r.gpuPools = [])
    (.valueError "Endpoint name, image, and at least one GPU pool are required")
  refuse (r.endpointType ≠ "QUEUE" ∧ r.endpointType ≠ "LOAD_BALANCER")
    (.valueError "endpoint_type must be QUEUE or LOAD_BALANCER")
  refuse (r.scalingType ≠ "QUEUE_DELAY" ∧ r.scalingType ≠ "REQUEST_COUNT")
    (.valueError "scaling.type must be QUEUE_DELAY or REQUEST_COUNT")
  refuse (r.endpointType = "LOAD_BALANCER" ∧ r.scalingType ≠ "REQUEST_COUNT")
    (.valueError "LOAD_BALANCER endpoints require REQUEST_COUNT scaling")
  refuse (r.endpointType = "QUEUE" ∧ r.scalingType = "REQUEST_COUNT")
    (.valueError "QUEUE endpoints using REQUEST_COUNT must omit idle_timeout_seconds")
  refuse (r.gpuCount < 1 ∨ r.workersMin < 0 ∨ r.workersMax < r.workersMin)
    (.valueError "Endpoint GPU and worker counts are invalid")
  let _ ← catalog (normalizeCudaFloor r.minCudaVersion)

/-- `to_payload`. -/
def CreateRequest.toPayload (r : CreateRequest) : Except Exn CreatePayload := do
  let floor ← (match r.resourceSchemaVersion with
    | .ga => catalog (normalizeCudaFloor r.minCudaVersion)
    | .legacy => pure none)
  return {
    name := r.name
    image := r.image
    endpointType := r.endpointType
    gpuPools := r.gpuPools
    gpuCount := r.gpuCount
    minCudaVersion := floor
    workersMin := r.workersMin
    workersMax := r.workersMax
    idleTimeoutSeconds := r.idleTimeoutSeconds
    scalingType := r.scalingType
    queueDelay := r.queueDelay
    diskGb := r.diskGb
    registryId := r.registryId
    dataCenterIds := r.dataCenterIds
    networkVolumeIds := r.networkVolumeIds
    mounts := if r.resourceSchemaVersion = .ga then some r.networkVolumeIds else none
    executionTimeoutMs := r.executionTimeoutMs
    flashboot := r.flashboot }

/-- `create_request`. -/
def EndpointSpec.createRequest (s : EndpointSpec) (endpointName gpuPool dataCenterId : String) :
    Except Exn CreateRequest := do
  safeIdentifier endpointName "endpoint_name"
  refuse (gpuPool ∉ s.constraints.allowedGpuPools)
    (.valueError "Selected Serverless GPU pool is outside the endpoint spec")
  refuse (dataCenterId ∉ s.constraints.allowedDataCenterIds)
    (.valueError "Selected Serverless data center is outside the endpoint spec")
  let request : CreateRequest := {
    name := endpointName
    resourceSchemaVersion := s.resourceSchemaVersion
    image := s.workerReference
    gpuPools := [gpuPool]
    endpointType := "QUEUE"
    scalingType := s.scalingType
    queueDelay := binary64 s.scalingValue.value
    gpuCount := s.constraints.gpuCount
    minCudaVersion := s.constraints.minCudaVersion
    workersMin := s.workersMin
    workersMax := s.workersMax
    idleTimeoutSeconds := s.idleTailSeconds
    diskGb := s.diskGb
    registryId := s.registryId
    dataCenterIds := [dataCenterId]
    networkVolumeIds := s.networkVolumeIds
    executionTimeoutMs := s.executionTimeoutMs
    flashboot := s.flashboot }
  request.check
  return request

structure PlanFields where
  planId : String
  endpointName : String
  spec : EndpointSpec
  deriving DecidableEq

/-- `PlannedServerlessEndpoint.__post_init__`. -/
def PlanFields.check (p : PlanFields) : Except Exn Unit := do
  safeIdentifier p.planId "plan_id"
  safeIdentifier p.endpointName "endpoint_name"

/-- `PlannedServerlessEndpoint`. -/
structure PlannedEndpoint extends PlanFields where
  checked : toPlanFields.check = .ok ()
  deriving DecidableEq

end KestrelRunpod.Serverless
