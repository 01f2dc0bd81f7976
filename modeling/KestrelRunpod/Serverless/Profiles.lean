import KestrelRunpod.Serverless.Ambiguous
import KestrelRunpod.Serverless.Placement

/-!
# Quotes of endpoint profiles

An endpoint that already exists is quoted from its profile, by the same catalog selection and
amounts as a planned one.  Of the quote, the fields that billing reads are kept.  The times that
either quote may state are bounded by its request (`QuoteIssued`).
-/

namespace KestrelRunpod.Serverless

open Numeric Catalog
open Traverse (except_bind_ok check_bind_ok)

/-! ## Profiles -/

structure ProfileFields where
  profileId : String
  endpointId : String
  endpointName : String
  spec : EndpointSpec
  deriving DecidableEq

/-- `ServerlessEndpointProfile.__post_init__`. -/
def ProfileFields.check (p : ProfileFields) : Except Exn Unit := do
  safeIdentifier p.profileId "profile_id"
  safeIdentifier p.endpointId "endpoint_id"
  safeIdentifier p.endpointName "endpoint_name"

/-- `ServerlessEndpointProfile`. -/
structure EndpointProfile extends ProfileFields where
  checked : toProfileFields.check = .ok ()
  deriving DecidableEq

/-- `_validate_capacity_request`. -/
def validateCapacityRequest (request : Envelope) (workloadKind parametersSha256 : String)
    (quoteTtlSeconds : Int) (spec : EndpointSpec) : Except Exn Unit := do
  safeIdentifier workloadKind "workload_kind"
  sha256Digest parametersSha256 "parameters_sha256"
  (match request.estimatedQueueDelaySeconds with
    | some delay => nonnegativeInt delay "estimated_queue_delay_seconds"
    | none => pure ())
  nonnegativeInt request.estimatedWorkerStartSeconds "estimated_worker_start_seconds"
  positiveInt request.estimatedExecutionSeconds "estimated_execution_seconds"
  positiveInt request.maximumQueueDelaySeconds "maximum_queue_delay_seconds"
  positiveInt request.maximumWorkerStartSeconds "maximum_worker_start_seconds"
  positiveInt request.maximumExecutionSeconds "maximum_execution_seconds"
  positiveInt request.maximumBillableSeconds "maximum_billable_seconds"
  positiveInt request.jobExecutionTimeoutMs "job_execution_timeout_ms"
  positiveInt request.jobTtlMs "job_ttl_ms"
  refuse (¬ (5000 ≤ request.jobExecutionTimeoutMs ∧ request.jobExecutionTimeoutMs ≤ maxPolicyMs))
    (.valueError "Serverless job_execution_timeout_ms must be between 5 seconds and 7 days")
  refuse (¬ (10000 ≤ request.jobTtlMs ∧ request.jobTtlMs ≤ maxPolicyMs))
    (.valueError "Serverless job_ttl_ms must be between 10 seconds and 7 days")
  nonnegativeDecimal request.estimatedNonWorkerCostUsd "estimated_non_worker_cost_usd"
  positiveDecimal request.maximumNonWorkerCostUsd "maximum_non_worker_cost_usd"
  positiveInt quoteTtlSeconds "quote_ttl_seconds"
  refuse (300 < quoteTtlSeconds)
    (.valueError "Serverless quote TTL cannot exceed five minutes")
  refuse (request.estimatedQueueDelaySeconds.any
      (fun d => request.maximumQueueDelaySeconds < d) = true)
    (.valueError "Serverless estimated queue delay exceeds its maximum")
  refuse (request.maximumWorkerStartSeconds < request.estimatedWorkerStartSeconds)
    (.valueError "Serverless estimated worker start exceeds its maximum")
  refuse (request.maximumExecutionSeconds < request.estimatedExecutionSeconds)
    (.valueError "Serverless estimated execution exceeds its maximum")
  let tail := spec.idleTailSeconds
  let estimated := request.estimatedWorkerStartSeconds + request.estimatedExecutionSeconds + tail
  let maximum := request.maximumWorkerStartSeconds + request.maximumExecutionSeconds + tail
  refuse (request.maximumBillableSeconds ≠ maximum)
    (.valueError "Serverless maximum billable time is inconsistent")
  refuse (maximum < estimated)
    (.valueError "Serverless estimated billable time exceeds its maximum")
  refuse (spec.executionTimeoutMs < request.jobExecutionTimeoutMs)
    (.valueError "Serverless job execution timeout exceeds the endpoint timeout")
  refuse (request.jobExecutionTimeoutMs < request.maximumExecutionSeconds * 1000)
    (.valueError "Serverless maximum execution exceeds the job execution timeout")
  refuse (request.jobTtlMs < (request.maximumQueueDelaySeconds +
      request.maximumWorkerStartSeconds + request.maximumExecutionSeconds) * 1000)
    (.valueError "Serverless maximum job lifespan exceeds the job TTL")
  refuse (request.maximumNonWorkerCostUsd.value < request.estimatedNonWorkerCostUsd.value)
    (.valueError "Serverless estimated non-worker cost exceeds its maximum")

/-- A planned request is checked against the specification of its endpoint. -/
theorem RequestFields.check_eq (r : RequestFields) : r.check =
    validateCapacityRequest r.toEnvelope r.workloadKind r.parametersSha256 r.quoteTtlSeconds
      r.endpoint.spec := rfl

structure ProfileRequestFields extends Envelope where
  profile : EndpointProfile
  workloadKind : String
  parametersSha256 : String
  quoteTtlSeconds : Int := 60
  deriving DecidableEq

/-- `ServerlessCapacityQuoteRequest.__post_init__`. -/
def ProfileRequestFields.check (r : ProfileRequestFields) : Except Exn Unit :=
  validateCapacityRequest r.toEnvelope r.workloadKind r.parametersSha256 r.quoteTtlSeconds
    r.profile.spec

/-- `ServerlessCapacityQuoteRequest`. -/
structure ProfileRequest extends ProfileRequestFields where
  checked : toProfileRequestFields.check = .ok ()
  deriving DecidableEq

/-! ## Quotes -/

/-- What `profile_sha256` digests. -/
structure ProfileIdentity where
  profileId : String
  endpointId : String
  endpointName : String
  endpointSpecSha256 : String
  deriving DecidableEq

/-- What the id of a profile's quote digests, besides the contract version. -/
structure ProfileQuoteIdentity extends Placed, Envelope where
  workloadKind : String
  parametersSha256 : String
  profileId : String
  endpointProfileSha256 : String
  endpointId : String
  catalogObservationSha256 : String
  hourlyWorkerRateUsd : Decimal
  idleTailSeconds : Int
  catalogObservedAt : Instant
  expiresAt : Instant
  deriving DecidableEq

/-- `json_sha256` on the records of a profile's quote. -/
structure ProfileDigests extends QuoteDigests where
  profile : ProfileIdentity → String
  profileQuote : ProfileQuoteIdentity → String
  profile_hex : ∀ p, Pod.isSha256 (profile p) = true
  profileQuote_hex : ∀ q, Pod.isSha256 (profileQuote q) = true

/-- `profile_sha256`. -/
def EndpointProfile.profileSha256 (d : ProfileDigests) (p : EndpointProfile) : String :=
  d.profile ⟨p.profileId, p.endpointId, p.endpointName, d.spec p.spec⟩

/-- Construct a quote, or fail as `__post_init__` does. -/
def WindowQuote.build (q : WindowQuoteFields) : Except Exn WindowQuote :=
  match checked : q.check with
  | .ok () => .ok ⟨q, checked⟩
  | .error x => .error x

/-- `_observe_quote`, for offers read at `observedAt` and an endpoint that is bound to the
profile. -/
def observeQuote (d : ProfileDigests) (request : ProfileRequest) (offers : List GPUOffer)
    (observedAt : Instant) : Except Exn WindowQuote := do
  let profile := request.profile
  let spec := profile.spec
  let (selection, amounts) ←
    quoteCatalog d.toQuoteDigests spec request.toEnvelope observedAt offers
  let expiresAt := selection.observedAt + 1000000 * request.quoteTtlSeconds
  let identity : ProfileQuoteIdentity := {
    toEnvelope := request.toEnvelope
    workloadKind := request.workloadKind
    parametersSha256 := request.parametersSha256
    profileId := profile.profileId
    endpointProfileSha256 := profile.profileSha256 d
    endpointId := profile.endpointId
    catalogObservationSha256 := selection.observationSha256
    gpuId := selection.gpuId
    gpuPool := selection.gpuPool
    vramGb := selection.vramGb
    dataCenterId := selection.dataCenterId
    cloud := spec.constraints.cloud
    gpuCount := spec.constraints.gpuCount
    minCudaVersion := spec.constraints.minCudaVersion
    availability := selection.availability
    benchmarkId := spec.constraints.benchmarkId
    hourlyWorkerRateUsd := selection.hourlyWorkerRateUsd
    idleTailSeconds := spec.idleTailSeconds
    catalogObservedAt := selection.observedAt
    expiresAt := expiresAt }
  WindowQuote.build {
    providerQuoteId := "runpod-serverless:" ++ d.profileQuote identity
    hourlyWorkerRateUsd := selection.hourlyWorkerRateUsd
    idleTailSeconds := spec.idleTailSeconds
    maximumQueueDelaySeconds := request.maximumQueueDelaySeconds
    maximumWorkerStartSeconds := request.maximumWorkerStartSeconds
    maximumExecutionSeconds := request.maximumExecutionSeconds
    endpointProfileSha256 := profile.profileSha256 d
    endpointId := profile.endpointId
    catalogObservedAt := selection.observedAt
    expiresAt := expiresAt
    costCeilingUsd := amounts.costCeilingUsd }

/-! ## Issued times -/

/-- The times that a quote of the provider states: at most five minutes to accept it, seven days
for its job, and an hour for the worker to idle. -/
structure QuoteIssued (terms : BillingTerms) (observedAt expiresAt : Instant) : Prop where
  opens : observedAt < expiresAt
  ttl : expiresAt - observedAt ≤ 300 * 1000000
  queue : 1 ≤ terms.maximumQueueDelaySeconds
  start : 1 ≤ terms.maximumWorkerStartSeconds
  execution : 1 ≤ terms.maximumExecutionSeconds
  lifespan : terms.maximumElapsed ≤ 604800
  idleTail : 1 ≤ terms.idleTailSeconds
  tailBound : terms.idleTailSeconds ≤ 3600

theorem EndpointSpec.idleTail_bounds (spec : EndpointSpec) :
    1 ≤ spec.idleTailSeconds ∧ spec.idleTailSeconds ≤ 3600 := by
  have passed := spec.checked
  unfold SpecFields.check at passed
  simp only [check_bind_ok, refuse_ok, positiveInt, not_lt] at passed
  obtain ⟨_, _, _, _, _, low, high, _⟩ := passed
  exact ⟨low, high⟩

/-- What a request that is checked promises of the times of its quote. -/
theorem issued_of_request {request : Envelope} {workloadKind parametersSha256 : String}
    {quoteTtlSeconds : Int} {spec : EndpointSpec} {terms : BillingTerms} {observedAt : Instant}
    (passed : validateCapacityRequest request workloadKind parametersSha256 quoteTtlSeconds spec =
      .ok ())
    (queue : terms.maximumQueueDelaySeconds = request.maximumQueueDelaySeconds)
    (start : terms.maximumWorkerStartSeconds = request.maximumWorkerStartSeconds)
    (execution : terms.maximumExecutionSeconds = request.maximumExecutionSeconds)
    (idleTail : terms.idleTailSeconds = spec.idleTailSeconds) :
    QuoteIssued terms observedAt (observedAt + 1000000 * quoteTtlSeconds) := by
  obtain ⟨low, high⟩ := spec.idleTail_bounds
  unfold validateCapacityRequest at passed
  simp only [check_bind_ok, refuse_ok, positiveInt, not_lt] at passed
  obtain ⟨_, _, _, _, _, someQueue, someStart, someExecution, _, _, _, _, ttlMs, _, _, someTtl,
    shortTtl, _, _, _, _, _, _, _, lifespan, _⟩ := passed
  have policy := (not_not.mp ttlMs).2
  unfold maxPolicyMs at policy
  constructor
  · exact Int.lt_add_of_pos_right _ (by omega)
  · have length : observedAt + 1000000 * quoteTtlSeconds - observedAt =
        1000000 * quoteTtlSeconds := add_sub_cancel_left _ _
    rw [length]
    unfold Instant
    omega
  · rwa [queue]
  · rwa [start]
  · rwa [execution]
  · unfold BillingTerms.maximumElapsed
    omega
  · rwa [idleTail]
  · rwa [idleTail]

theorem selectCatalog_observedAt {d : QuoteDigests} {spec : EndpointSpec}
    {requirements : PlacementRequirements} {offers : List GPUOffer} {observedAt : Instant}
    {selection : CatalogSelection}
    (ok : selectCatalog d spec requirements offers observedAt = .ok selection) :
    selection.observedAt = observedAt := by
  unfold selectCatalog at ok
  obtain ⟨placement, _, ok⟩ := except_bind_ok.mp ok
  split at ok
  · split at ok
    · cases ok
    · obtain ⟨_, _, ok⟩ := except_bind_ok.mp ok
      obtain ⟨_, _, ok⟩ := except_bind_ok.mp ok
      cases ok
      rfl
  · cases ok

theorem WindowQuote.build_fields {q : WindowQuoteFields} {quote : WindowQuote}
    (ok : WindowQuote.build q = .ok quote) : quote.toWindowQuoteFields = q := by
  unfold WindowQuote.build at ok
  split at ok
  · cases ok
    rfl
  · cases ok

/-- The times of a profile's quote. -/
theorem observeQuote_issued {d : ProfileDigests} {request : ProfileRequest}
    {offers : List GPUOffer} {observedAt : Instant} {quote : WindowQuote}
    (ok : observeQuote d request offers observedAt = .ok quote) :
    quote.catalogObservedAt = observedAt ∧
      QuoteIssued quote.toBillingTerms quote.catalogObservedAt quote.expiresAt := by
  unfold observeQuote at ok
  obtain ⟨⟨selection, amounts⟩, chosen, ok⟩ := except_bind_ok.mp ok
  have fields := WindowQuote.build_fields ok
  unfold quoteCatalog at chosen
  obtain ⟨_, chosen⟩ := refuse_bind_ok.mp chosen
  obtain ⟨_, _, chosen⟩ := except_bind_ok.mp chosen
  obtain ⟨_, chosen⟩ := check_bind_ok.mp chosen
  obtain ⟨_, selected, chosen⟩ := except_bind_ok.mp chosen
  obtain ⟨_, _, chosen⟩ := except_bind_ok.mp chosen
  cases chosen
  rw [fields]
  exact ⟨selectCatalog_observedAt selected, issued_of_request request.checked rfl rfl rfl rfl⟩

/-- The times of a planned quote. -/
theorem currentQuote_issued {d : Digests} {request : QuoteRequest} {offers : List GPUOffer}
    {observedAt : Instant} {quote : CapacityQuote}
    (ok : currentQuote (d := d) request offers observedAt = .ok quote) :
    quote.catalogObservedAt = observedAt ∧
      QuoteIssued quote.terms quote.catalogObservedAt quote.expiresAt := by
  unfold currentQuote at ok
  obtain ⟨_, ok⟩ := check_bind_ok.mp ok
  obtain ⟨_, _, ok⟩ := except_bind_ok.mp ok
  obtain ⟨_, ok⟩ := check_bind_ok.mp ok
  obtain ⟨selection, selected, ok⟩ := except_bind_ok.mp ok
  unfold plannedQuote at ok
  obtain ⟨_, _, ok⟩ := except_bind_ok.mp ok
  obtain ⟨_, _, ok⟩ := except_bind_ok.mp ok
  obtain ⟨_, _, ok⟩ := except_bind_ok.mp ok
  obtain ⟨_, _, ok⟩ := except_bind_ok.mp ok
  have fields := CapacityQuote.build_ok.mp ok
  unfold CapacityQuote.terms
  rw [fields]
  exact ⟨selectCatalog_observedAt selected,
    issued_of_request ((RequestFields.check_eq _).symm.trans request.checked) rfl rfl rfl rfl⟩

end KestrelRunpod.Serverless
