import KestrelRunpod.Placement
import KestrelRunpod.Numeric.Decimal

/-!
# Quoting a Pod

The whole of the Pod capacity quote, of which the lease service reads the part in its own
contracts: the constraints, the request, the cost of a runtime, and the quote that the provider
makes of the catalog.  Sizes and times are integers, so a constructor's check on the sign of
one is a branch here too.
-/

namespace KestrelRunpod.Pod

open Numeric
open Catalog (ComputeProduct GPUOffer PlacementRequirements PlacementDecision selectGpu)

/-- An exception of the catalog, as the Pod code sees it. -/
def Exn.ofFault : Catalog.Fault → Exn
  | .valueError message => .valueError message
  | .manager message => .manager message

/-- Call catalog code. -/
def placing {α : Type} : Except Catalog.Fault α → Except Exn α := Except.mapError Exn.ofFault

/-! ## Constraints -/

/-- `PodCapacityConstraints`, as it is passed to the constructor. -/
structure ConstraintFields where
  minVramGb : Int
  gpuCount : Int
  cloud : Catalog.CloudType
  minCudaVersion : Option String
  allowedGpuIds : List String
  allowedDataCenterIds : List String
  maxHourlyRateUsd : Option Decimal
  benchmarkId : String
  allowedProducts : List ComputeProduct
  deriving DecidableEq

/-- `PodCapacityConstraints.__post_init__`. -/
def ConstraintFields.check (c : ConstraintFields) : Except Exn Unit := do
  refuse (c.minVramGb < 1) (.valueError "Pod capacity min_vram_gb must be a positive integer")
  refuse (c.gpuCount < 1) (.valueError "Pod capacity gpu_count must be a positive integer")
  refuse (c.allowedProducts ≠ [.pod])
    (.valueError "Pod capacity leases support only the POD product")
  refuse (isBlank c.benchmarkId = true)
    (.valueError "Pod capacity benchmark_id must be non-empty")
  refuse (c.maxHourlyRateUsd.any (fun rate => rate.coefficient ≤ 0) = true)
    (.valueError "Pod capacity hourly-rate limit must be positive")

structure PodCapacityConstraints extends ConstraintFields where
  checked : toConstraintFields.check = .ok ()
  deriving DecidableEq

/-- `placement_requirements`. -/
def ConstraintFields.placementRequirements (c : ConstraintFields) :
    Except Exn PlacementRequirements :=
  placing (PlacementRequirements.build {
    product := .pod
    minVramGb := c.minVramGb
    gpuCount := c.gpuCount
    cloud := c.cloud
    minCudaVersion := c.minCudaVersion
    maxCostPerHr := c.maxHourlyRateUsd.map fun rate => binary64 rate.value
    allowedGpuIds := c.allowedGpuIds
    allowedGpuPools := []
    allowedDataCenterIds := c.allowedDataCenterIds
    minimumAvailability := .low
    benchmarkId := some c.benchmarkId })

/-! ## Requests -/

/-- `PodCapacityQuoteRequest`, as it is passed to the constructor. -/
structure OfferRequestFields where
  constraints : PodCapacityConstraints
  workloadKind : String
  parametersSha256 : String
  estimatedStartupSeconds : Int
  estimatedExecutionSeconds : Int
  maximumRuntimeSeconds : Int
  quoteTtlSeconds : Int := 60
  deriving DecidableEq

/-- A number of seconds that the request allows. -/
def quotedSeconds (what : String) (value : Int) (least : Int) (name : String) : Except Exn Unit :=
  refuse (value < least) (.valueError (what ++ " " ++ name ++ " is invalid"))

/-- `PodCapacityQuoteRequest.__post_init__`. -/
def OfferRequestFields.check (r : OfferRequestFields) : Except Exn Unit := do
  safeIdentifier r.workloadKind "workload_kind"
  sha256Digest r.parametersSha256 "parameters_sha256"
  quotedSeconds "Pod quote" r.estimatedStartupSeconds 0 "estimated_startup_seconds"
  quotedSeconds "Pod quote" r.estimatedExecutionSeconds 1 "estimated_execution_seconds"
  quotedSeconds "Pod quote" r.maximumRuntimeSeconds 1 "maximum_runtime_seconds"
  quotedSeconds "Pod quote" r.quoteTtlSeconds 1 "quote_ttl_seconds"
  refuse (r.maximumRuntimeSeconds < r.estimatedStartupSeconds + r.estimatedExecutionSeconds)
    (.valueError "Pod quote estimate exceeds maximum runtime")

structure PodCapacityQuoteRequest extends OfferRequestFields where
  checked : toOfferRequestFields.check = .ok ()
  deriving DecidableEq

/-! ## Costs -/

/-- `pod_cost_usd`: each product and the quotient are kept to the digits of the context. -/
def podCostUsd (hourlyCostUsd : Decimal) (billedSeconds gpuCount : Int) : Except Exn Decimal := do
  refuse (hourlyCostUsd.coefficient ≤ 0 ∨ billedSeconds < 0 ∨ gpuCount < 1)
    (.valueError "Pod cost inputs are invalid")
  let value := context (context (context (hourlyCostUsd.value * billedSeconds) * gpuCount) / 3600)
  match Decimal.quantizeCeiling value (-6) with
  | some amount => .ok amount
  | none => .error (.other "InvalidOperation")

/-! ## Quotes -/

/-- `PodCapacityQuote`, as it is passed to the constructor. -/
structure OfferFields where
  schemaVersion : Int
  capabilityVersion : String
  providerQuoteId : String
  workloadKind : String
  parametersSha256 : String
  constraints : PodCapacityConstraints
  gpuTypeId : String
  gpuDisplayName : String
  hourlyCostUsd : Decimal
  estimatedCostUsd : Decimal
  costCeilingUsd : Decimal
  estimatedStartupSeconds : Int
  estimatedExecutionSeconds : Int
  maximumRuntimeSeconds : Int
  observedAt : Instant
  expiresAt : Instant
  placement : PlacementDecision

/-- A text that a quote names. -/
def quotedText (value name : String) : Except Exn Unit :=
  refuse (isBlank value = true)
    (.valueError ("Pod capacity quote " ++ name ++ " must be non-empty"))

/-- An amount of a quote. -/
def quotedAmount (value : Decimal) (name : String) : Except Exn Unit :=
  refuse (value.coefficient ≤ 0)
    (.valueError ("Pod capacity quote " ++ name ++ " must be positive"))

/-- `Decimal(str(rate))` has the value of `hourly`. -/
def sameRate (rate : Number) (hourly : Decimal) : Bool :=
  match rate with
  | .finite x => (Decimal.ofFloat x).value = hourly.value
  | _ => false

/-- `PodCapacityQuote.__post_init__`. -/
def OfferFields.check (q : OfferFields) : Except Exn Unit := do
  refuse (q.schemaVersion ≠ 3) (.valueError "Pod capacity quote must negotiate schema 3")
  quotedText q.capabilityVersion "capability_version"
  quotedText q.providerQuoteId "provider_quote_id"
  quotedText q.workloadKind "workload_kind"
  quotedText q.gpuTypeId "gpu_type_id"
  quotedText q.gpuDisplayName "gpu_display_name"
  sha256Digest q.parametersSha256 "parameters_sha256"
  quotedAmount q.hourlyCostUsd "hourly_cost_usd"
  quotedAmount q.estimatedCostUsd "estimated_cost_usd"
  quotedAmount q.costCeilingUsd "cost_ceiling_usd"
  refuse (q.costCeilingUsd.value < q.estimatedCostUsd.value)
    (.valueError "Pod capacity estimated cost exceeds its ceiling")
  quotedSeconds "Pod capacity quote" q.estimatedStartupSeconds 0 "estimated_startup_seconds"
  quotedSeconds "Pod capacity quote" q.estimatedExecutionSeconds 1 "estimated_execution_seconds"
  quotedSeconds "Pod capacity quote" q.maximumRuntimeSeconds 1 "maximum_runtime_seconds"
  let estimatedSeconds := q.estimatedStartupSeconds + q.estimatedExecutionSeconds
  refuse (q.maximumRuntimeSeconds < estimatedSeconds)
    (.valueError "Pod capacity quote estimate exceeds maximum runtime")
  refuse (q.placement.gpuCount ≠ q.constraints.gpuCount)
    (.valueError "Pod capacity quote GPU count is inconsistent")
  let expectedEstimate ← podCostUsd q.hourlyCostUsd estimatedSeconds q.placement.gpuCount
  let expectedCeiling ← podCostUsd q.hourlyCostUsd q.maximumRuntimeSeconds q.placement.gpuCount
  refuse (q.estimatedCostUsd.value ≠ expectedEstimate.value ∨
      q.costCeilingUsd.value ≠ expectedCeiling.value)
    (.valueError "Pod capacity quote cost does not match its rate/timing")
  refuse (q.expiresAt ≤ q.observedAt) (.valueError "Pod capacity quote expiry is invalid")
  refuse (q.placement.gpuId ≠ q.gpuTypeId)
    (.valueError "Pod capacity quote GPU identity is inconsistent")
  refuse (sameRate q.placement.offeredCostPerHr q.hourlyCostUsd = false)
    (.valueError "Pod capacity quote hourly rate is inconsistent")

structure PodCapacityQuote extends OfferFields where
  checked : toOfferFields.check = .ok ()

/-- Construct a quote, or fail as `__post_init__` does. -/
def PodCapacityQuote.build (q : OfferFields) : Except Exn PodCapacityQuote :=
  match checked : q.check with
  | .ok () => .ok ⟨q, checked⟩
  | .error x => .error x

theorem PodCapacityQuote.build_ok {q : OfferFields} {quote : PodCapacityQuote} :
    PodCapacityQuote.build q = .ok quote ↔ quote.toOfferFields = q := by
  unfold PodCapacityQuote.build
  split
  · rename_i checked
    constructor
    · intro ok
      cases ok
      rfl
    · intro same
      obtain ⟨fields, _⟩ := quote
      cases same
      rfl
  · rename_i x failed
    constructor
    · intro ok
      cases ok
    · intro same
      have passed := quote.checked
      rw [same, failed] at passed
      cases passed

/-- What `provider_quote_id` digests. -/
structure OfferIdentity where
  capabilityVersion : String
  workloadKind : String
  parametersSha256 : String
  gpuTypeId : String
  gpuDisplayName : String
  hourlyCostUsd : Decimal
  estimatedCostUsd : Decimal
  costCeilingUsd : Decimal
  estimatedStartupSeconds : Int
  estimatedExecutionSeconds : Int
  maximumRuntimeSeconds : Int
  observedAt : Instant
  constraints : ConstraintFields
  deriving DecidableEq

/-- `Decimal(str(rate))` of the rate of a placement, which is finite. -/
def hourlyDecimal : Number → Decimal
  | .finite x => Decimal.ofFloat x
  | _ => ⟨0, 0⟩

/-- `RunpodPodCapacityProvider.quote`: what it makes of the offers read at `observedAt`. -/
def quote (digest : OfferIdentity → String) (request : PodCapacityQuoteRequest)
    (offers : List GPUOffer) (observedAt : Instant) : Except Exn PodCapacityQuote := do
  let requirements ← request.constraints.placementRequirements
  let placement ← placing (selectGpu offers requirements observedAt)
  let hourly := hourlyDecimal placement.offeredCostPerHr
  let estimatedSeconds := request.estimatedStartupSeconds + request.estimatedExecutionSeconds
  let estimated ← podCostUsd hourly estimatedSeconds placement.gpuCount
  let ceiling ← podCostUsd hourly request.maximumRuntimeSeconds placement.gpuCount
  let identity : OfferIdentity := {
    capabilityVersion := "runpod-pod-capacity-v1"
    workloadKind := request.workloadKind
    parametersSha256 := request.parametersSha256
    gpuTypeId := placement.gpuId
    gpuDisplayName := placement.gpuName
    hourlyCostUsd := hourly
    estimatedCostUsd := estimated
    costCeilingUsd := ceiling
    estimatedStartupSeconds := request.estimatedStartupSeconds
    estimatedExecutionSeconds := request.estimatedExecutionSeconds
    maximumRuntimeSeconds := request.maximumRuntimeSeconds
    observedAt := observedAt
    constraints := request.constraints.toConstraintFields }
  PodCapacityQuote.build {
    schemaVersion := 3
    capabilityVersion := "runpod-pod-capacity-v1"
    providerQuoteId := "runpod-pod:" ++ digest identity
    workloadKind := request.workloadKind
    parametersSha256 := request.parametersSha256
    constraints := request.constraints
    gpuTypeId := placement.gpuId
    gpuDisplayName := placement.gpuName
    hourlyCostUsd := hourly
    estimatedCostUsd := estimated
    costCeilingUsd := ceiling
    estimatedStartupSeconds := request.estimatedStartupSeconds
    estimatedExecutionSeconds := request.estimatedExecutionSeconds
    maximumRuntimeSeconds := request.maximumRuntimeSeconds
    observedAt := observedAt
    expiresAt := observedAt + 1000000 * request.quoteTtlSeconds
    placement := placement }

end KestrelRunpod.Pod
