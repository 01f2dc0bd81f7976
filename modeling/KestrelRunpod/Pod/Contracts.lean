import KestrelRunpod.Pod.Errors

/-!
# Pod capacity contracts

The enumerations, receipts, evidence and requests of the durable Pod capacity lifecycle.
Each frozen dataclass is a record of fields with the check its constructor makes, and a
structure whose values have passed that check.  Money is rational, as the decimals of the
source are exact in the sums made here.

Digests of canonical JSON are a parameter (`Digests`): the code only compares them and
relies on their being lowercase hexadecimal.
-/

namespace KestrelRunpod.Pod

/-! ## Enumerations -/

/-- How a training Pod entered the durable lifecycle. -/
inductive Source
  | configuredPersistent
  | stoppedReuse
  | created
  deriving DecidableEq, Repr

/-- Whether this lease may stop the Pod when its work cannot continue. -/
inductive Ownership
  | provisional
  | owned
  | preexistingRunning
  deriving DecidableEq, Repr

/-- Restart-safe training capacity and workload states. -/
inductive PodState
  | requested
  | starting
  | ready
  | jobSubmitted
  | jobCompleted
  | resultRetrieved
  | cancelRequested
  | reconcileRequired
  | releasing
  | released
  deriving DecidableEq, Repr

/-- The stored text of a state. -/
def PodState.value : PodState → String
  | .requested => "requested"
  | .starting => "starting"
  | .ready => "ready"
  | .jobSubmitted => "job_submitted"
  | .jobCompleted => "job_completed"
  | .resultRetrieved => "result_retrieved"
  | .cancelRequested => "cancel_requested"
  | .reconcileRequired => "reconcile_required"
  | .releasing => "releasing"
  | .released => "released"

/-- Whether the provider has supplied final authoritative Pod billing. -/
inductive BillingState
  | notApplicable
  | pending
  | authoritative
  | unresolved
  deriving DecidableEq, Repr

/-- Content-free observation of the disposable worker process. -/
inductive WorkloadState
  | notSubmitted
  | idle
  | running
  | cancelRequested
  | succeeded
  | awaitingAck
  | acknowledged
  | failed
  | cancelled
  deriving DecidableEq, Repr

inductive CloudType
  | secure
  | community
  deriving DecidableEq, Repr

/-! ## JSON -/

/-- JSON values as the SDK sees opaque host payloads.  A float keeps its text and whether it
is finite, which is all that canonicalization looks at. -/
inductive Json
  | null
  | bool (b : Bool)
  | int (n : Int)
  | float (finite : Bool) (text : String)
  | str (s : String)
  | arr (items : List Json)
  | obj (fields : List (String × Json))
  deriving Repr

namespace Json

/-- `Mapping.get` on an object. -/
def get (fields : List (String × Json)) (name : String) : Option Json :=
  (fields.find? fun field => field.1 = name).map Prod.snd

/-- `payload.get(name) == value` for a text `value`. -/
def hasText (fields : List (String × Json)) (name value : String) : Bool :=
  match get fields name with
  | some (.str s) => s = value
  | _ => false

mutual

/-- No float in the value is infinite or not a number. -/
def finite : Json → Bool
  | .float ok _ => ok
  | .arr items => finiteItems items
  | .obj fields => finiteFields fields
  | _ => true

def finiteItems : List Json → Bool
  | [] => true
  | item :: items => item.finite && finiteItems items

def finiteFields : List (String × Json) → Bool
  | [] => true
  | field :: fields => field.2.finite && finiteFields fields

end

end Json

/-! ## Quotes and requests -/

/-- The constraints of a quote that the lease service reads. -/
structure Constraints where
  gpuCount : Nat
  cloud : CloudType
  allowedDataCenterIds : List String
  deriving DecidableEq, Repr

/-- The fields of a quote that the lease service and the request constructor read. -/
structure QuoteFields where
  providerQuoteId : String
  workloadKind : String
  parametersSha256 : String
  constraints : Constraints
  gpuTypeId : String
  gpuDisplayName : String
  hourlyCostUsd : ℚ
  costCeilingUsd : ℚ
  maximumRuntimeSeconds : Nat
  observedAt : Instant
  expiresAt : Instant
  deriving DecidableEq, Repr

/-- The part of `PodCapacityQuote.__post_init__` about these fields. -/
def QuoteFields.check (q : QuoteFields) : Except Exn Unit := do
  refuse (q.constraints.gpuCount < 1)
    (.valueError "Pod capacity gpu_count must be a positive integer")
  refuse (isBlank q.providerQuoteId = true)
    (.valueError "Pod capacity quote provider_quote_id must be non-empty")
  refuse (isBlank q.gpuTypeId = true)
    (.valueError "Pod capacity quote gpu_type_id must be non-empty")
  refuse (isBlank q.gpuDisplayName = true)
    (.valueError "Pod capacity quote gpu_display_name must be non-empty")
  sha256Digest q.parametersSha256 "parameters_sha256"
  refuse (q.hourlyCostUsd ≤ 0)
    (.valueError "Pod capacity quote hourly_cost_usd must be positive")
  refuse (q.costCeilingUsd ≤ 0)
    (.valueError "Pod capacity quote cost_ceiling_usd must be positive")
  refuse (q.maximumRuntimeSeconds < 1)
    (.valueError "Pod capacity quote maximum_runtime_seconds is invalid")
  refuse (q.expiresAt ≤ q.observedAt) (.valueError "Pod capacity quote expiry is invalid")

/-- Exact live offer and bounded cost evidence. -/
structure Quote extends QuoteFields where
  checked : toQuoteFields.check = .ok ()
  deriving DecidableEq

/-- The quoted hourly price of the whole Pod. -/
def QuoteFields.podHourlyUsd (q : QuoteFields) : ℚ := q.hourlyCostUsd * q.constraints.gpuCount

structure CapacityRequestFields where
  capacityId : String
  cleanupFamilyId : String
  ownerId : String
  workloadId : String
  attemptId : String
  idempotencyKey : String
  requestSha256 : String
  workloadKind : String
  parametersSha256 : String
  imageRepository : String
  imageDigest : String
  profileId : String
  quote : Quote
  acceptedMaxCostUsd : ℚ
  createdAt : Instant
  readinessDeadline : Instant
  hardDeadline : Instant
  bearerExpiresAt : Instant
  idleTimeoutSeconds : Nat
  cleanupGraceSeconds : Nat
  attemptEnvironmentKeys : List String
  artifactHandoffProtocolVersion : Option Nat
  deriving DecidableEq

/-- `CatalogPodCapacityRequest.__post_init__`.  The image reference is its two sides of the
last `@`; the environment's values are not part of the stored request. -/
def CapacityRequestFields.check (r : CapacityRequestFields) : Except Exn Unit := do
  refuse (r.artifactHandoffProtocolVersion ≠ none ∧ r.artifactHandoffProtocolVersion ≠ some 1)
    (.valueError "Catalog Pod artifact handoff protocol must be 1 or legacy null")
  safeIdentifier r.capacityId "capacity_id"
  safeIdentifier r.cleanupFamilyId "cleanup_family_id"
  safeIdentifier r.ownerId "owner_id"
  safeIdentifier r.workloadId "workload_id"
  safeIdentifier r.attemptId "attempt_id"
  safeIdentifier r.idempotencyKey "idempotency_key"
  safeIdentifier r.workloadKind "workload_kind"
  safeIdentifier r.profileId "profile_id"
  sha256Digest r.requestSha256 "request_sha256"
  sha256Digest r.parametersSha256 "parameters_sha256"
  refuse (r.parametersSha256 ≠ r.quote.parametersSha256)
    (.valueError "Catalog Pod parameters do not match the accepted quote")
  refuse (r.workloadKind ≠ r.quote.workloadKind)
    (.valueError "Catalog Pod workload kind does not match the quote")
  refuse (r.acceptedMaxCostUsd ≠ r.quote.costCeilingUsd)
    (.valueError "Catalog Pod accepted maximum must equal the quote cost ceiling")
  refuse (r.imageRepository.toList = [] ∨
      r.imageRepository.toList.any isSpace = true ∨
      Pod.imageDigest r.imageDigest ≠ .ok ())
    (.valueError "Catalog Pod worker image must be pinned by digest")
  refuse (r.quote.expiresAt ≤ r.createdAt) (.valueError "Catalog Pod quote has expired")
  refuse (¬ (r.createdAt < r.readinessDeadline ∧ r.readinessDeadline < r.hardDeadline ∧
      r.hardDeadline < r.bearerExpiresAt))
    (.valueError "Catalog Pod deadlines or bearer expiry are invalid")
  refuse (r.createdAt + seconds (24 * 3600) < r.bearerExpiresAt)
    (.valueError "Catalog Pod bearer expiry cannot exceed 24 hours")
  refuse (r.idleTimeoutSeconds < 1)
    (.valueError "Catalog Pod idle_timeout_seconds must be positive")
  refuse (r.cleanupGraceSeconds < 1)
    (.valueError "Catalog Pod cleanup_grace_seconds must be positive")
  refuse (r.bearerExpiresAt < r.hardDeadline + seconds r.cleanupGraceSeconds)
    (.valueError "Catalog Pod bearer does not cover the cleanup grace period")
  refuse (r.createdAt + seconds r.quote.maximumRuntimeSeconds < r.hardDeadline)
    (.valueError "Catalog Pod hard deadline exceeds quoted maximum runtime")

/-- Secret-free, idempotent request for one catalog attempt Pod. -/
structure CapacityRequest extends CapacityRequestFields where
  checked : toCapacityRequestFields.check = .ok ()
  deriving DecidableEq

/-- The artifact handoff protocol is 1 or absent. -/
theorem CapacityRequest.protocol (r : CapacityRequest) :
    r.artifactHandoffProtocolVersion = none ∨ r.artifactHandoffProtocolVersion = some 1 := by
  have passed := r.checked
  rw [CapacityRequestFields.check, refuse_bind_ok, not_and_or, not_not, not_not] at passed
  exact passed.1

structure CapacitySpecFields where
  request : CapacityRequest
  capabilitySecretId : String
  capabilityTokenSha256 : String
  capabilityExpiresAt : Instant
  attemptEnvironmentSha256 : String
  deriving DecidableEq

/-- `PodCapacitySpec.__post_init__`. -/
def CapacitySpecFields.check (s : CapacitySpecFields) : Except Exn Unit := do
  safeIdentifier s.capabilitySecretId "capability_secret_id"
  sha256Digest s.capabilityTokenSha256 "capability_token_sha256"
  sha256Digest s.attemptEnvironmentSha256 "attempt_environment_sha256"
  refuse (s.capabilityExpiresAt ≠ s.request.bearerExpiresAt)
    (.valueError "Persisted capability expiry does not match the request")

/-- Persisted generic identity, quote, policy and non-secret capability data. -/
structure CapacitySpec extends CapacitySpecFields where
  checked : toCapacitySpecFields.check = .ok ()
  deriving DecidableEq

def CapacitySpec.build (fields : CapacitySpecFields) : Except Exn CapacitySpec :=
  match passed : fields.check with
  | .ok () => .ok ⟨fields, passed⟩
  | .error x => .error x

structure PodRequestFields where
  cleanupToken : String
  companionId : String
  profileId : String
  source : Source
  resourceName : String
  providerPodId : Option String
  createdAt : Instant
  readinessDeadline : Instant
  hardDeadline : Instant
  rootCleanupToken : String
  capacitySpec : Option CapacitySpec
  deriving DecidableEq

/-- `TrainingPodRequest.__post_init__`, with the root token already defaulted.  The resource
name of a catalog request is compared where the name is computed. -/
def PodRequestFields.check (r : PodRequestFields) : Except Exn Unit := do
  refuse (isBlank r.companionId = true)
    (.valueError "Training Pod companion_id must be a non-empty string")
  refuse (isBlank r.profileId = true)
    (.valueError "Training Pod profile_id must be a non-empty string")
  refuse (isBlank r.resourceName = true)
    (.valueError "Training Pod resource_name must be a non-empty string")
  refuse (identifierFrom 7 r.cleanupToken = false)
    (.valueError "Training Pod cleanup_token has an invalid format")
  refuse (identifierFrom 7 r.rootCleanupToken = false)
    (.valueError "Training Pod root_cleanup_token has an invalid format")
  refuse ((r.providerPodId.map isBlank).getD false = true)
    (.valueError "Training Pod provider_pod_id cannot be empty")
  refuse (r.readinessDeadline ≤ r.createdAt)
    (.valueError "Training Pod readiness deadline must be in the future")
  refuse (r.hardDeadline ≤ r.readinessDeadline)
    (.valueError "Training Pod hard deadline must follow readiness deadline")
  refuse (r.source = .created ∧ r.providerPodId ≠ none)
    (.valueError "A create request cannot know its provider Pod ID in advance")
  refuse (r.source ≠ .created ∧ r.providerPodId = none)
    (.valueError "A persistent/reused request requires a provider Pod ID")
  match r.capacitySpec with
  | none => .ok ()
  | some spec => do
      let catalog := spec.request
      refuse (r.source ≠ .created)
        (.valueError "Catalog Pod capacity must create isolated capacity")
      refuse (r.cleanupToken ≠ catalog.capacityId ∨
          r.rootCleanupToken ≠ catalog.cleanupFamilyId ∨
          r.companionId ≠ catalog.ownerId ∨ r.profileId ≠ catalog.profileId ∨
          r.createdAt ≠ catalog.createdAt ∨
          r.readinessDeadline ≠ catalog.readinessDeadline ∨
          r.hardDeadline ≠ catalog.hardDeadline)
        (.valueError "Catalog Pod capacity identity is inconsistent")

/-- Stable, secret-free request persisted before provider I/O. -/
structure PodRequest extends PodRequestFields where
  checked : toPodRequestFields.check = .ok ()
  deriving DecidableEq

def PodRequest.build (fields : PodRequestFields) : Except Exn PodRequest :=
  match passed : fields.check with
  | .ok () => .ok ⟨fields, passed⟩
  | .error x => .error x

/-- What the constructor guarantees of the Pod of a request: it is known exactly when the Pod
exists before the lease, and catalog capacity is always created. -/
theorem PodRequest.provenance (r : PodRequest) :
    (r.source = .created ↔ r.providerPodId = none) ∧
      (r.capacitySpec ≠ none → r.source = .created) := by
  have passed := r.checked
  simp only [PodRequestFields.check, refuse_bind_ok] at passed
  obtain ⟨_, _, _, _, _, _, _, _, unknown, known, catalog⟩ := passed
  refine ⟨⟨fun created => ?_, fun absent => ?_⟩, fun some_ => ?_⟩
  · exact not_not.mp fun present => unknown ⟨created, present⟩
  · exact not_not.mp fun reused => known ⟨reused, absent⟩
  · split at catalog
    · rename_i missing
      exact absurd missing some_
    · rw [refuse_bind_ok, not_not] at catalog
      exact catalog.1

/-- The request of catalog capacity has the identity of its lease. -/
theorem PodRequest.catalogIdentity (r : PodRequest) {spec : CapacitySpec}
    (has : r.capacitySpec = some spec) :
    r.cleanupToken = spec.request.capacityId ∧ r.createdAt = spec.request.createdAt := by
  have passed := r.checked
  simp only [PodRequestFields.check, refuse_bind_ok, has, refuse_ok, not_or, not_not] at passed
  tauto

/-- SHA-256 of the canonical texts the code digests. -/
structure Digests where
  text : String → String
  capacityRequest : CapacityRequest → String
  podRequest : PodRequest → String
  environment : List (String × String) → String
  acknowledgement : List (String × Json) → String
  text_hex : ∀ s, isSha256 (text s) = true
  acknowledgement_hex : ∀ payload, isSha256 (acknowledgement payload) = true

end KestrelRunpod.Pod
