import KestrelRunpod.Numeric.Binary64
import KestrelRunpod.Pod.Errors

/-!
# Private-Ollama lease contracts

The enumerations and records of a private-Ollama lease, and its cost policy.  A `float` or a
`Decimal` is a `Number`; money is rated in decimal and stored as the nearest double.
-/

namespace KestrelRunpod.Ollama

open Numeric

/-! ## Exceptions -/

/-- An exception, by class. -/
inductive Exn
  | cancelled
  | valueError (message : String)
  | other (className : String)
  | manager (message : String)
  | conflict (message : String)
  | authorization (message : String)
  | readiness (message : String)
  | teardown (message : String)
  deriving DecidableEq, Repr

namespace Exn

/-- Instances of `RunPodManagerError`. -/
def isManager : Exn → Bool
  | .cancelled | .valueError _ | .other _ => false
  | _ => true

/-- Instances of `OllamaLeaseConflictError`. -/
def isConflict : Exn → Bool
  | .conflict _ => true
  | _ => false

/-- Instances of `OllamaLeaseTeardownError`. -/
def isTeardown : Exn → Bool
  | .teardown _ => true
  | _ => false

/-- `str(error)`. -/
def message : Exn → String
  | .cancelled => ""
  | .valueError m | .other m | .manager m | .conflict m | .authorization m | .readiness m
  | .teardown m => m

end Exn

/-! ## Enumerations -/

/-- `OllamaLeaseMode`. -/
inductive LeaseMode
  | auto
  | serverlessLoadBalancer
  | dedicatedPod
  deriving DecidableEq, Repr

/-- `OllamaResourceType`. -/
inductive ResourceType
  | serverlessEndpoint
  | pod
  deriving DecidableEq, Repr

/-- `OllamaLeaseState`. -/
inductive LeaseState
  | requested
  | provisioning
  | reconcileRequired
  | waitingForModel
  | ready
  | releasing
  | terminated
  | failed
  deriving DecidableEq, Repr

/-- `OllamaTeardownState`. -/
inductive TeardownState
  | notRequested
  | pending
  | retryableFailure
  | complete
  deriving DecidableEq, Repr

/-- `OllamaNonComputeCostComponent`. -/
inductive NonComputeCostComponent
  | containerDisk
  | networkVolume
  | modelTransfer
  | retryAllowance
  deriving DecidableEq, Repr

inductive CloudType
  | secure
  | community
  deriving DecidableEq, Repr

inductive ComputeProduct
  | pod
  | serverless
  deriving DecidableEq, Repr

/-! ## Requests and plans -/

/-- `OllamaResourceConstraints`. -/
structure ResourceConstraints where
  minVramGb : Nat
  gpuCount : Nat
  cloud : CloudType
  minCudaVersion : Option String
  allowedGpuIds : List String
  allowedGpuPools : List String
  allowedDataCenterIds : List String
  maxHourlyRate : Option Number
  deriving DecidableEq

/-- `OllamaLeaseRequest`. -/
structure LeaseRequest where
  leaseId : String
  ownerId : String
  workloadId : String
  model : String
  constraints : ResourceConstraints
  expectedSessionSeconds : Nat
  expectedActiveSeconds : Nat
  serverlessInitializationSeconds : Nat
  serverlessIdleTailSeconds : Nat
  idleTimeoutSeconds : Nat
  readinessTimeoutSeconds : Nat
  hardDeadline : Instant
  maxAuthorizedCost : Number
  mode : LeaseMode
  requestedAt : Option Instant
  deriving DecidableEq

/-- The part of a `PlacementDecision` that a lease records or checks. -/
structure PlacementDecision where
  product : ComputeProduct
  gpuId : String
  gpuPool : Option String
  gpuName : String
  gpuCount : Nat
  offeredCostPerHr : Number
  catalogObservedAt : Instant
  deriving DecidableEq

/-- `OllamaPlacementPlan`. -/
structure PlacementPlan where
  mode : LeaseMode
  resourceType : ResourceType
  placement : PlacementDecision
  estimatedComputeCost : Number
  maximumComputeCost : Number
  estimatedNonComputeCost : Number
  maximumNonComputeCost : Number
  estimatedCost : Number
  costCeiling : Number
  estimatedBillableSeconds : Nat
  maximumBillableSeconds : Nat
  maximumConcurrentWorkers : Nat
  nonComputeComponents : List NonComputeCostComponent
  maximumServerlessColdStarts : Nat
  deriving DecidableEq

/-- `ProvisionedOllamaResource`. -/
structure ProvisionedResource where
  resourceType : ResourceType
  providerResourceId : String
  resourceName : String
  deriving DecidableEq, Repr

/-- `OllamaReadinessObservation`. -/
structure ReadinessObservation where
  providerReady : Bool
  routeUrl : Option String
  providerHealthUrl : Option String
  modelNames : List String
  deriving DecidableEq

/-! ## Leases -/

/-- `OllamaLease`, without its route: `route_url` and `provider_health_url` exist only in host
memory.  The columns that the provisioning write takes from the plan are kept together, for
they are set together. -/
structure Lease where
  leaseId : String
  ownerId : String
  workloadId : String
  requestFingerprint : String
  model : String
  constraints : ResourceConstraints
  mode : LeaseMode
  resourceType : Option ResourceType
  providerResourceId : Option String
  resourceName : Option String
  creationUncertain : Bool
  provisionAttemptId : Option String
  provisionAttempts : Nat
  state : LeaseState
  teardownState : TeardownState
  createdAt : Instant
  provisioningStartedAt : Option Instant
  readyAt : Option Instant
  lastUsedAt : Instant
  idleDeadline : Instant
  hardDeadline : Instant
  readinessDeadline : Instant
  modelPullStartedAt : Option Instant
  modelPullAttempts : Nat
  modelReadyAt : Option Instant
  expectedSessionSeconds : Nat
  expectedActiveSeconds : Nat
  serverlessInitializationSeconds : Nat
  serverlessIdleTailSeconds : Nat
  idleTimeoutSeconds : Nat
  plan : Option PlacementPlan
  accruedEstimatedCost : Number
  maxAuthorizedCost : Number
  coldStartSeconds : Option Number
  lastProviderError : Option String
  terminationReason : Option String
  teardownAttempts : Nat
  revision : Nat
  deriving DecidableEq

/-- A lease as the host returns it, with the route it observed. -/
structure RoutedLease where
  lease : Lease
  routeUrl : Option String
  providerHealthUrl : Option String

/-- `bool(value)` of an optional string. -/
def truthy (value : Option String) : Bool := value.any fun text => text ≠ ""

@[simp] theorem truthy_none : truthy none = false := rfl

@[simp] theorem truthy_some {text : String} : truthy (some text) = decide (text ≠ "") := rfl

/-- `timedelta.total_seconds`. -/
def totalSeconds (microseconds : Int) : Number := binary64 ((microseconds : ℚ) / 1000000)

/-- `_cost_sum`: the decimals of both texts, added and rounded to a double. -/
def costSum (x y : Number) : Number :=
  (((Number.finite 0).add x.toDecimal).add y.toDecimal).toFloat

/-- `Decimal(str(rate)) * Decimal(seconds) * n * m / Decimal(3600)` as a double. -/
def rate (hourly seconds : Number) (n m : Nat) : Number :=
  match hourly.toDecimal, seconds.toDecimal with
  | .finite r, .finite s =>
      (Number.finite (context (context (context (context (r * s) * n) * m) / 3600))).toFloat
  | _, _ => .nan

/-- `accrued_cost`. -/
def accruedCost (lease : Lease) (now : Instant) : Number :=
  match lease.plan, lease.provisioningStartedAt with
  | some plan, some startedAt =>
      if plan.maximumConcurrentWorkers < 1 then lease.maxAuthorizedCost
      else
        rate plan.placement.offeredCostPerHr
          (totalSeconds (max 0 (min now lease.hardDeadline - startedAt)))
          plan.maximumConcurrentWorkers plan.placement.gpuCount
  | _, _ => lease.accruedEstimatedCost

/-- `authorized_cost_exposure`. -/
def authorizedCostExposure (lease : Lease) (now : Instant) : Number :=
  match lease.plan with
  | none => lease.maxAuthorizedCost
  | some plan => costSum (accruedCost lease now) plan.maximumNonComputeCost

/-- `over_authorized_cost`. -/
def overAuthorizedCost (lease : Lease) (now : Instant) : Bool :=
  lease.maxAuthorizedCost.le (authorizedCostExposure lease now)

/-- `resource_from_lease`. -/
def resourceFromLease (lease : Lease) : Except Exn ProvisionedResource :=
  match lease.resourceType, lease.providerResourceId, lease.resourceName with
  | some resourceType, some id, some name =>
      if id = "" ∨ name = "" then
        .error (.manager ("Ollama lease '" ++ lease.leaseId ++
          "' has no attributable provider resource"))
      else .ok ⟨resourceType, id, name⟩
  | _, _, _ =>
      .error (.manager ("Ollama lease '" ++ lease.leaseId ++
        "' has no attributable provider resource"))

/-- What a lease is attributed to. -/
theorem resourceFromLease_ok {lease : Lease} {resource : ProvisionedResource} :
    resourceFromLease lease = .ok resource ↔
      lease.resourceType = some resource.resourceType ∧
        lease.providerResourceId = some resource.providerResourceId ∧
        lease.resourceName = some resource.resourceName ∧
        resource.providerResourceId ≠ "" ∧ resource.resourceName ≠ "" := by
  obtain ⟨kind, id, name⟩ := resource
  unfold resourceFromLease
  split
  · rename_i kind' id' name' hasKind hasId hasName
    rw [hasKind, hasId, hasName]
    split
    · rename_i missing
      simp only [reduceCtorEq, Option.some.injEq, false_iff]
      rintro ⟨-, rfl, rfl, id, name⟩
      exact missing.elim id name
    · rename_i present
      rw [not_or] at present
      simp only [Except.ok.injEq, ProvisionedResource.mk.injEq, Option.some.injEq]
      constructor
      · rintro ⟨rfl, rfl, rfl⟩
        exact ⟨rfl, rfl, rfl, present⟩
      · rintro ⟨rfl, rfl, rfl, _⟩
        exact ⟨rfl, rfl, rfl⟩
  · rename_i missing
    simp only [reduceCtorEq, false_iff]
    rintro ⟨hasKind, hasId, hasName, _⟩
    exact missing _ _ _ hasKind hasId hasName

/-! ## Names and digests -/

/-- What the service computes from texts and requests: SHA-256 in hexadecimal, the
fingerprint of a request, `str.lower`, and the redaction of a provider error. -/
structure Texts where
  sha256 : String → String
  fingerprint : LeaseRequest → String
  lower : String → String
  redact : String → String

namespace Texts

variable (texts : Texts)

/-- `resource_name`. -/
def resourceName (leaseId : String) : String :=
  "kestrel-ollama-" ++ String.ofList ((texts.sha256 leaseId).toList.take 20)

/-- `provision_attempt_id`. -/
def provisionAttemptId (request : LeaseRequest) : String :=
  "ollama-attempt-" ++ String.ofList
    ((texts.sha256 (request.leaseId ++ ":" ++ texts.fingerprint request)).toList.take 24)

/-- `canonical_model_name`. -/
def canonicalModelName (value : String) : String :=
  let normalized := texts.lower (Pod.strip value)
  if ':' ∈ normalized.toList then normalized else normalized ++ ":latest"

/-- `has_model`. -/
def hasModel (observation : ReadinessObservation) (requestedModel : String) : Bool :=
  observation.modelNames.any fun name =>
    texts.canonicalModelName name = texts.canonicalModelName requestedModel

/-- `sanitize_provider_error`. -/
def sanitizeProviderError (error : Exn) : String :=
  String.ofList ((texts.redact error.message).toList.take 1000)

theorem resourceName_ne_empty (leaseId : String) : texts.resourceName leaseId ≠ "" := by
  intro empty
  have chars := congrArg String.toList empty
  rw [resourceName, String.toList_append] at chars
  simp at chars

end Texts

end KestrelRunpod.Ollama
