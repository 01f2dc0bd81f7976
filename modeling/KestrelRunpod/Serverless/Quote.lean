import KestrelRunpod.Serverless.Contracts

/-!
# Planned Serverless quotes

The request for a quote on a planned endpoint, the quote, and the checks that bind the two.
The fields that a request, a quote and the identity of a quote share are kept in records of
their own.
-/

namespace KestrelRunpod.Serverless

open Numeric Catalog

/-! ## Requests -/

/-- The finite-job envelope that a request fixes and its quote repeats. -/
structure Envelope where
  estimatedQueueDelaySeconds : Option Int
  estimatedWorkerStartSeconds : Int
  estimatedExecutionSeconds : Int
  maximumQueueDelaySeconds : Int
  maximumWorkerStartSeconds : Int
  maximumExecutionSeconds : Int
  maximumBillableSeconds : Int
  jobExecutionTimeoutMs : Int
  jobTtlMs : Int
  estimatedNonWorkerCostUsd : Decimal
  maximumNonWorkerCostUsd : Decimal
  deriving DecidableEq

structure RequestFields extends Envelope where
  endpoint : PlannedEndpoint
  workloadKind : String
  parametersSha256 : String
  quoteTtlSeconds : Int := 60
  deriving DecidableEq

/-- `_validate_capacity_request`. -/
def RequestFields.check (r : RequestFields) : Except Exn Unit := do
  safeIdentifier r.workloadKind "workload_kind"
  sha256Digest r.parametersSha256 "parameters_sha256"
  (match r.estimatedQueueDelaySeconds with
    | some delay => nonnegativeInt delay "estimated_queue_delay_seconds"
    | none => pure ())
  nonnegativeInt r.estimatedWorkerStartSeconds "estimated_worker_start_seconds"
  positiveInt r.estimatedExecutionSeconds "estimated_execution_seconds"
  positiveInt r.maximumQueueDelaySeconds "maximum_queue_delay_seconds"
  positiveInt r.maximumWorkerStartSeconds "maximum_worker_start_seconds"
  positiveInt r.maximumExecutionSeconds "maximum_execution_seconds"
  positiveInt r.maximumBillableSeconds "maximum_billable_seconds"
  positiveInt r.jobExecutionTimeoutMs "job_execution_timeout_ms"
  positiveInt r.jobTtlMs "job_ttl_ms"
  refuse (¬ (5000 ≤ r.jobExecutionTimeoutMs ∧ r.jobExecutionTimeoutMs ≤ maxPolicyMs))
    (.valueError "Serverless job_execution_timeout_ms must be between 5 seconds and 7 days")
  refuse (¬ (10000 ≤ r.jobTtlMs ∧ r.jobTtlMs ≤ maxPolicyMs))
    (.valueError "Serverless job_ttl_ms must be between 10 seconds and 7 days")
  nonnegativeDecimal r.estimatedNonWorkerCostUsd "estimated_non_worker_cost_usd"
  positiveDecimal r.maximumNonWorkerCostUsd "maximum_non_worker_cost_usd"
  positiveInt r.quoteTtlSeconds "quote_ttl_seconds"
  refuse (300 < r.quoteTtlSeconds)
    (.valueError "Serverless quote TTL cannot exceed five minutes")
  refuse (r.estimatedQueueDelaySeconds.any (fun d => r.maximumQueueDelaySeconds < d) = true)
    (.valueError "Serverless estimated queue delay exceeds its maximum")
  refuse (r.maximumWorkerStartSeconds < r.estimatedWorkerStartSeconds)
    (.valueError "Serverless estimated worker start exceeds its maximum")
  refuse (r.maximumExecutionSeconds < r.estimatedExecutionSeconds)
    (.valueError "Serverless estimated execution exceeds its maximum")
  let tail := r.endpoint.spec.idleTailSeconds
  let estimated := r.estimatedWorkerStartSeconds + r.estimatedExecutionSeconds + tail
  let maximum := r.maximumWorkerStartSeconds + r.maximumExecutionSeconds + tail
  refuse (r.maximumBillableSeconds ≠ maximum)
    (.valueError "Serverless maximum billable time is inconsistent")
  refuse (maximum < estimated)
    (.valueError "Serverless estimated billable time exceeds its maximum")
  refuse (r.endpoint.spec.executionTimeoutMs < r.jobExecutionTimeoutMs)
    (.valueError "Serverless job execution timeout exceeds the endpoint timeout")
  refuse (r.jobExecutionTimeoutMs < r.maximumExecutionSeconds * 1000)
    (.valueError "Serverless maximum execution exceeds the job execution timeout")
  refuse (r.jobTtlMs < (r.maximumQueueDelaySeconds + r.maximumWorkerStartSeconds +
      r.maximumExecutionSeconds) * 1000)
    (.valueError "Serverless maximum job lifespan exceeds the job TTL")
  refuse (r.maximumNonWorkerCostUsd.value < r.estimatedNonWorkerCostUsd.value)
    (.valueError "Serverless estimated non-worker cost exceeds its maximum")

/-- `PlannedServerlessCapacityQuoteRequest`. -/
structure QuoteRequest extends RequestFields where
  checked : toRequestFields.check = .ok ()
  deriving DecidableEq

/-! ## Quotes -/

/-- The plan and the create operation that a quote is about. -/
structure PlanBinding where
  workloadKind : String
  parametersSha256 : String
  planId : String
  planSha256 : String
  endpointName : String
  endpointSpecSha256 : String
  operationDigest : String
  workerReference : String
  deriving DecidableEq, Repr

/-- Where the catalog places the endpoint. -/
structure Placed where
  gpuId : String
  gpuPool : String
  vramGb : Int
  dataCenterId : String
  cloud : CloudType
  gpuCount : Int
  minCudaVersion : Option String
  availability : Availability
  benchmarkId : String
  deriving DecidableEq, Repr

/-- What `provider_quote_id` digests, besides the contract version. -/
structure QuoteIdentity extends PlanBinding, Placed, Envelope where
  catalogObservationSha256 : String
  hourlyWorkerRateUsd : Decimal
  idleTailSeconds : Int
  catalogObservedAt : Instant
  expiresAt : Instant
  deriving DecidableEq

structure QuoteFields extends QuoteIdentity where
  schemaVersion : Int
  contractVersion : String
  providerQuoteId : String
  gpuName : String
  estimatedBillableSeconds : Int
  estimatedWorkerCostUsd : Decimal
  maximumWorkerCostUsd : Decimal
  estimatedCostUsd : Decimal
  costCeilingUsd : Decimal
  deriving DecidableEq

/-- `serverless_worker_cost_usd`. -/
def serverlessWorkerCostUsd (hourlyRateUsd : Decimal) (gpuCount seconds : Int) :
    Except Exn Decimal := do
  positiveDecimal hourlyRateUsd "hourly_rate_usd"
  positiveInt gpuCount "gpu_count"
  positiveInt seconds "seconds"
  let cost := context (context (context (hourlyRateUsd.value * gpuCount) * seconds) / 3600)
  match Decimal.quantizeCeiling cost (-6) with
  | some amount => .ok amount
  | none => .error (.other "InvalidOperation")

/-- `PlannedServerlessCapacityQuote.__post_init__`. -/
def QuoteFields.check (q : QuoteFields) : Except Exn Unit := do
  supported q.schemaVersion q.contractVersion "Planned Serverless quote"
  safeIdentifier q.providerQuoteId "provider_quote_id"
  safeIdentifier q.workloadKind "workload_kind"
  safeIdentifier q.planId "plan_id"
  safeIdentifier q.endpointName "endpoint_name"
  safeIdentifier q.gpuId "gpu_id"
  safeIdentifier q.gpuPool "gpu_pool"
  safeIdentifier q.dataCenterId "data_center_id"
  safeIdentifier q.benchmarkId "benchmark_id"
  safeDisplayName q.gpuName "gpu_name"
  sha256Digest q.parametersSha256 "parameters_sha256"
  sha256Digest q.planSha256 "plan_sha256"
  sha256Digest q.endpointSpecSha256 "endpoint_spec_sha256"
  sha256Digest q.operationDigest "operation_digest"
  sha256Digest q.catalogObservationSha256 "catalog_observation_sha256"
  refuse (isImmutableReference q.workerReference = false)
    (.valueError "Planned Serverless worker reference must be pinned by SHA-256")
  refuse (occurs "://".toList q.workerReference.toList = true)
    (.valueError "Planned Serverless worker reference cannot be a URL")
  refuse (q.availability = .none)
    (.valueError "Planned Serverless quote cannot bind unavailable capacity")
  positiveInt q.gpuCount "gpu_count"
  positiveInt q.vramGb "vram_gb"
  let _ ← catalog (normalizeCudaFloor q.minCudaVersion)
  positiveDecimal q.hourlyWorkerRateUsd "hourly_worker_rate_usd"
  positiveDecimal q.estimatedWorkerCostUsd "estimated_worker_cost_usd"
  positiveDecimal q.maximumWorkerCostUsd "maximum_worker_cost_usd"
  positiveDecimal q.estimatedCostUsd "estimated_cost_usd"
  positiveDecimal q.costCeilingUsd "cost_ceiling_usd"
  nonnegativeDecimal q.estimatedNonWorkerCostUsd "estimated_non_worker_cost_usd"
  positiveDecimal q.maximumNonWorkerCostUsd "maximum_non_worker_cost_usd"
  (match q.estimatedQueueDelaySeconds with
    | some delay => nonnegativeInt delay "estimated_queue_delay_seconds"
    | none => pure ())
  nonnegativeInt q.estimatedWorkerStartSeconds "estimated_worker_start_seconds"
  positiveInt q.estimatedExecutionSeconds "estimated_execution_seconds"
  positiveInt q.idleTailSeconds "idle_tail_seconds"
  positiveInt q.maximumQueueDelaySeconds "maximum_queue_delay_seconds"
  positiveInt q.maximumWorkerStartSeconds "maximum_worker_start_seconds"
  positiveInt q.maximumExecutionSeconds "maximum_execution_seconds"
  positiveInt q.jobExecutionTimeoutMs "job_execution_timeout_ms"
  positiveInt q.jobTtlMs "job_ttl_ms"
  positiveInt q.estimatedBillableSeconds "estimated_billable_seconds"
  positiveInt q.maximumBillableSeconds "maximum_billable_seconds"
  refuse (q.estimatedBillableSeconds ≠
      q.estimatedWorkerStartSeconds + q.estimatedExecutionSeconds + q.idleTailSeconds)
    (.valueError "Planned Serverless estimated billable time is inconsistent")
  refuse (q.maximumBillableSeconds ≠
      q.maximumWorkerStartSeconds + q.maximumExecutionSeconds + q.idleTailSeconds)
    (.valueError "Planned Serverless maximum billable time is inconsistent")
  refuse (q.maximumBillableSeconds < q.estimatedBillableSeconds)
    (.valueError "Planned Serverless estimated billable time exceeds its maximum")
  refuse (q.maximumWorkerStartSeconds < q.estimatedWorkerStartSeconds)
    (.valueError "Planned Serverless estimated worker start exceeds its maximum")
  refuse (q.maximumExecutionSeconds < q.estimatedExecutionSeconds)
    (.valueError "Planned Serverless estimated execution exceeds its maximum")
  refuse (q.estimatedQueueDelaySeconds.any (fun d => q.maximumQueueDelaySeconds < d) = true)
    (.valueError "Planned Serverless estimated queue delay exceeds its maximum")
  refuse (¬ (5000 ≤ q.jobExecutionTimeoutMs ∧ q.jobExecutionTimeoutMs ≤ maxPolicyMs))
    (.valueError "Planned Serverless job execution timeout is invalid")
  refuse (¬ (10000 ≤ q.jobTtlMs ∧ q.jobTtlMs ≤ maxPolicyMs))
    (.valueError "Planned Serverless job TTL is invalid")
  refuse (q.jobExecutionTimeoutMs < q.maximumExecutionSeconds * 1000)
    (.valueError "Planned Serverless maximum execution exceeds the job timeout")
  refuse (q.jobTtlMs < (q.maximumQueueDelaySeconds + q.maximumWorkerStartSeconds +
      q.maximumExecutionSeconds) * 1000)
    (.valueError "Planned Serverless maximum job lifespan exceeds its TTL")
  refuse (q.maximumNonWorkerCostUsd.value < q.estimatedNonWorkerCostUsd.value)
    (.valueError "Planned Serverless estimated non-worker cost exceeds its maximum")
  let expectedWorker ←
    serverlessWorkerCostUsd q.hourlyWorkerRateUsd q.gpuCount q.estimatedBillableSeconds
  let maximumWorker ←
    serverlessWorkerCostUsd q.hourlyWorkerRateUsd q.gpuCount q.maximumBillableSeconds
  refuse (q.estimatedWorkerCostUsd.value ≠ expectedWorker.value ∨
      q.maximumWorkerCostUsd.value ≠ maximumWorker.value ∨
      q.estimatedCostUsd.value ≠ (expectedWorker.add q.estimatedNonWorkerCostUsd).value ∨
      q.costCeilingUsd.value ≠ (maximumWorker.add q.maximumNonWorkerCostUsd).value)
    (.valueError "Planned Serverless quote cost is inconsistent")
  refuse (q.costCeilingUsd.value < q.estimatedCostUsd.value)
    (.valueError "Planned Serverless estimated cost exceeds its ceiling")
  refuse (q.expiresAt ≤ q.catalogObservedAt)
    (.valueError "Planned Serverless quote expiry is invalid")
  refuse (seconds 300 < q.expiresAt - q.catalogObservedAt)
    (.valueError "Planned Serverless quote TTL exceeds five minutes")

/-- `PlannedServerlessCapacityQuote`. -/
structure CapacityQuote extends QuoteFields where
  checked : toQuoteFields.check = .ok ()
  deriving DecidableEq

/-- Construct a quote, or fail as `__post_init__` does. -/
def CapacityQuote.build (q : QuoteFields) : Except Exn CapacityQuote :=
  match checked : q.check with
  | .ok () => .ok ⟨q, checked⟩
  | .error x => .error x

theorem CapacityQuote.build_ok {q : QuoteFields} {quote : CapacityQuote} :
    CapacityQuote.build q = .ok quote ↔ quote.toQuoteFields = q := by
  unfold CapacityQuote.build
  split
  · rename_i checked
    constructor
    · intro ok
      cases ok
      rfl
    · intro same
      obtain ⟨fields, _⟩ := quote
      cases same
      rfl
  · rename_i x failed
    constructor
    · intro ok
      cases ok
    · intro same
      have passed := quote.checked
      rw [same, failed] at passed
      cases passed

/-- `assert_fresh`. -/
def CapacityQuote.assertFresh (q : CapacityQuote) (now : Instant) (acceptedCostCeilingUsd : Decimal) :
    Except Exn Unit := do
  positiveDecimal acceptedCostCeilingUsd "accepted_cost_ceiling_usd"
  refuse (¬ (q.catalogObservedAt ≤ now ∧ now < q.expiresAt))
    (.manager "Planned Serverless capacity quote has expired")
  refuse (acceptedCostCeilingUsd.value ≠ q.costCeilingUsd.value)
    (.manager "Accepted Serverless cost ceiling does not match the planned quote")

/-! ## Digests -/

/-- What `plan_sha256` digests. -/
structure PlanIdentity where
  planId : String
  endpointName : String
  endpointSpecSha256 : String
  deriving DecidableEq

/-- What `_catalog_observation_sha256` digests. -/
structure CatalogObservation where
  gpuId : String
  gpuPool : Option String
  gpuName : String
  manufacturer : String
  vramGb : Int
  cloud : CloudType
  gpuCount : Int
  hourlyWorkerRateUsd : Decimal
  availability : Option Availability
  dataCenterId : String
  dataCenterAvailability : Option String
  minCudaVersion : Option String
  deriving DecidableEq

/-- `json_sha256` on the records of a quote. -/
structure QuoteDigests where
  spec : EndpointSpec → String
  operation : CreatePayload → String
  plan : PlanIdentity → String
  observation : CatalogObservation → String
  identity : QuoteIdentity → String
  quote : CapacityQuote → String
  spec_hex : ∀ s, Pod.isSha256 (spec s) = true
  operation_hex : ∀ p, Pod.isSha256 (operation p) = true
  plan_hex : ∀ p, Pod.isSha256 (plan p) = true
  observation_hex : ∀ o, Pod.isSha256 (observation o) = true
  identity_hex : ∀ i, Pod.isSha256 (identity i) = true
  quote_hex : ∀ q, Pod.isSha256 (quote q) = true

variable (d : QuoteDigests)

/-- `operation_digest`. -/
def EndpointSpec.operationDigest (s : EndpointSpec) (endpointName gpuPool dataCenterId : String) :
    Except Exn String := do
  let request ← s.createRequest endpointName gpuPool dataCenterId
  let payload ← request.toPayload
  return d.operation payload

/-- `PlannedServerlessEndpoint.plan_sha256`. -/
def PlannedEndpoint.planSha256 (p : PlannedEndpoint) : String :=
  d.plan ⟨p.planId, p.endpointName, d.spec p.spec⟩

/-- The fields of the request's envelope that its quote must repeat. -/
def Envelope.sameAs (r q : Envelope) : Prop :=
  r.estimatedQueueDelaySeconds = q.estimatedQueueDelaySeconds ∧
    r.estimatedWorkerStartSeconds = q.estimatedWorkerStartSeconds ∧
    r.estimatedExecutionSeconds = q.estimatedExecutionSeconds ∧
    r.maximumQueueDelaySeconds = q.maximumQueueDelaySeconds ∧
    r.maximumWorkerStartSeconds = q.maximumWorkerStartSeconds ∧
    r.maximumExecutionSeconds = q.maximumExecutionSeconds ∧
    r.jobExecutionTimeoutMs = q.jobExecutionTimeoutMs ∧ r.jobTtlMs = q.jobTtlMs ∧
    r.maximumBillableSeconds = q.maximumBillableSeconds ∧
    r.estimatedNonWorkerCostUsd.value = q.estimatedNonWorkerCostUsd.value ∧
    r.maximumNonWorkerCostUsd.value = q.maximumNonWorkerCostUsd.value

instance (r q : Envelope) : Decidable (r.sameAs q) := by
  unfold Envelope.sameAs
  infer_instance

/-- `_validate_planned_request_binding`. -/
def validatePlannedRequestBinding (request : QuoteRequest) (quote : CapacityQuote) :
    Except Exn Unit := do
  let endpoint := request.endpoint
  let spec := endpoint.spec
  let mismatch : Exn :=
    .manager "Planned Serverless quote does not match its workload or endpoint plan"
  refuse (request.workloadKind ≠ quote.workloadKind ∨
      request.parametersSha256 ≠ quote.parametersSha256 ∨
      endpoint.planId ≠ quote.planId ∨ endpoint.planSha256 d ≠ quote.planSha256 ∨
      endpoint.endpointName ≠ quote.endpointName ∨ d.spec spec ≠ quote.endpointSpecSha256 ∨
      spec.workerReference ≠ quote.workerReference) mismatch
  -- the operation digest is computed only when the tests before it pass
  let digest ← spec.operationDigest d endpoint.endpointName quote.gpuPool quote.dataCenterId
  refuse (digest ≠ quote.operationDigest ∨
      spec.constraints.gpuCount ≠ quote.gpuCount ∨ spec.constraints.cloud ≠ quote.cloud ∨
      spec.constraints.minCudaVersion ≠ quote.minCudaVersion ∨
      quote.gpuPool ∉ spec.constraints.allowedGpuPools ∨
      quote.dataCenterId ∉ spec.constraints.allowedDataCenterIds ∨
      spec.constraints.benchmarkId ≠ quote.benchmarkId ∨
      spec.idleTailSeconds ≠ quote.idleTailSeconds ∨
      ¬ request.toEnvelope.sameAs quote.toEnvelope) mismatch

/-- `_validate_planned_quote_drift`. -/
def validatePlannedQuoteDrift (current accepted : CapacityQuote)
    (acceptedCostCeilingUsd : Decimal) : Except Exn Unit := do
  refuse (current.toPlanBinding ≠ accepted.toPlanBinding ∨
      current.toPlaced ≠ accepted.toPlaced)
    (.manager "Planned Serverless placement or create configuration drifted")
  refuse (accepted.hourlyWorkerRateUsd.value < current.hourlyWorkerRateUsd.value)
    (.manager "Planned Serverless worker rate increased after quote acceptance")
  refuse (acceptedCostCeilingUsd.value < current.costCeilingUsd.value)
    (.manager "Current planned Serverless cost exceeds the accepted ceiling")

/-! ## Building a quote from the catalog -/

/-- `_CatalogSelection`. -/
structure CatalogSelection where
  observedAt : Instant
  gpuId : String
  gpuPool : String
  gpuName : String
  vramGb : Int
  dataCenterId : String
  availability : Availability
  hourlyWorkerRateUsd : Decimal
  observationSha256 : String

/-- `_validate_catalog_numbers`. -/
def validateCatalogNumbers (offers : List GPUOffer) : Except Exn Unit :=
  offers.forM fun offer => do
    let unsafeRate := fun rate : Number => !rate.isFinite || rate.lt (.finite 0)
    refuse (unsafeRate offer.securePricePerHr = true ∨
        unsafeRate offer.communityPricePerHr = true ∨
        offer.serverlessPricePerHr.any unsafeRate = true)
      (.manager "Serverless catalog contained an unsafe GPU rate")
    refuse (offer.memoryGb < 0 ∨ offer.secureMaxCount < 0 ∨ offer.communityMaxCount < 0)
      (.manager "Serverless catalog contained an unsafe GPU value")

/-- The id and the rank of a data center that `_select_data_center` keeps. -/
def rankedDataCenter (spec : EndpointSpec) (item : DataCenter) :
    Except Exn (Option (String × Nat)) :=
  match item.id with
  | none => .ok none
  | some id =>
      if id ∉ spec.constraints.allowedDataCenterIds then .ok none
      else
        match item.availability.bind Availability.ofText with
        | none =>
            .error (.manager "Serverless catalog data-center availability is invalid")
        | some availability =>
            .ok (if spec.constraints.minimumAvailability.rank ≤ availability.rank then
              some (id, availability.rank) else none)

/-- `_select_data_center`. -/
def selectDataCenter (offer : GPUOffer) (spec : EndpointSpec) : Except Exn String := do
  let ranked ← offer.dataCenters.mapM (rankedDataCenter spec)
  let order := fun a b : String × Nat => b.2 < a.2 || a.2 = b.2 && a.1 ≤ b.1
  match (ranked.filterMap id).mergeSort order with
  | [] =>
      .error (.manager
        "Serverless catalog returned no allowed data center at required availability")
  | best :: _ => .ok best.1

/-- `Decimal(str(rate))` of a price that the catalog checks let through. -/
def rateDecimal (rate : Number) : Decimal :=
  match rate with
  | .finite x => Decimal.ofFloat x
  | _ => ⟨0, 0⟩

/-- `_catalog_observation_sha256`. -/
def catalogObservationSha256 (offer : GPUOffer) (spec : EndpointSpec) (dataCenterId : String) :
    Except Exn String := do
  let price ← catalog (offer.priceFor spec.constraints.cloud .serverless)
  return d.observation {
    gpuId := offer.id
    gpuPool := offer.pool
    gpuName := offer.name
    manufacturer := offer.manufacturer
    vramGb := offer.memoryGb
    cloud := spec.constraints.cloud
    gpuCount := spec.constraints.gpuCount
    hourlyWorkerRateUsd := rateDecimal price
    availability := offer.availability
    dataCenterId := dataCenterId
    dataCenterAvailability :=
      (offer.dataCenters.find? fun item => item.id = some dataCenterId).bind (·.availability)
    minCudaVersion := offer.availabilityMinCudaVersion }

/-- What `_observe_catalog` makes of the offers it read at `observedAt`. -/
def selectCatalog (spec : EndpointSpec) (requirements : PlacementRequirements)
    (offers : List GPUOffer) (observedAt : Instant) : Except Exn CatalogSelection := do
  let placement ← catalog (selectGpu offers requirements observedAt)
  match placement.gpuPool, placement.availability with
  | some gpuPool, some availability =>
      match offers.find? fun offer => offer.pool = some gpuPool with
      | none => .error (.other "IndexError")
      | some offer =>
          let dataCenterId ← selectDataCenter offer spec
          let observation ← catalogObservationSha256 d offer spec dataCenterId
          return {
            observedAt := observedAt
            gpuId := placement.gpuId
            gpuPool := gpuPool
            gpuName := placement.gpuName
            vramGb := placement.memoryGb
            dataCenterId := dataCenterId
            availability := availability
            hourlyWorkerRateUsd := rateDecimal placement.offeredCostPerHr
            observationSha256 := observation }
  | _, _ =>
      .error (.manager "Serverless catalog selection omitted pool or availability")

/-- What `_observe_planned_quote` makes of a catalog selection. -/
def plannedQuote (request : QuoteRequest) (selection : CatalogSelection) :
    Except Exn CapacityQuote := do
  let planned := request.endpoint
  let spec := planned.spec
  let _ ← spec.constraints.placementRequirements
  let operationDigest ←
    spec.operationDigest d planned.endpointName selection.gpuPool selection.dataCenterId
  let estimatedBillable := request.estimatedWorkerStartSeconds +
    request.estimatedExecutionSeconds + spec.idleTailSeconds
  let estimatedWorker ← serverlessWorkerCostUsd selection.hourlyWorkerRateUsd
    spec.constraints.gpuCount estimatedBillable
  let maximumWorker ← serverlessWorkerCostUsd selection.hourlyWorkerRateUsd
    spec.constraints.gpuCount request.maximumBillableSeconds
  let identity : QuoteIdentity := {
    toEnvelope := request.toEnvelope
    workloadKind := request.workloadKind
    parametersSha256 := request.parametersSha256
    planId := planned.planId
    planSha256 := planned.planSha256 d
    endpointName := planned.endpointName
    endpointSpecSha256 := d.spec spec
    operationDigest := operationDigest
    workerReference := spec.workerReference
    catalogObservationSha256 := selection.observationSha256
    gpuId := selection.gpuId
    gpuPool := selection.gpuPool
    vramGb := selection.vramGb
    dataCenterId := selection.dataCenterId
    cloud := spec.constraints.cloud
    gpuCount := spec.constraints.gpuCount
    minCudaVersion := spec.constraints.minCudaVersion
    availability := selection.availability
    benchmarkId := spec.constraints.benchmarkId
    hourlyWorkerRateUsd := selection.hourlyWorkerRateUsd
    idleTailSeconds := spec.idleTailSeconds
    catalogObservedAt := selection.observedAt
    expiresAt := selection.observedAt + 1000000 * request.quoteTtlSeconds }
  CapacityQuote.build {
    toQuoteIdentity := identity
    schemaVersion := schemaVersion
    contractVersion := contractVersion
    providerQuoteId := "runpod-serverless-plan:" ++ d.identity identity
    gpuName := selection.gpuName
    estimatedBillableSeconds := estimatedBillable
    estimatedWorkerCostUsd := estimatedWorker
    maximumWorkerCostUsd := maximumWorker
    estimatedCostUsd := estimatedWorker.add request.estimatedNonWorkerCostUsd
    costCeilingUsd := maximumWorker.add request.maximumNonWorkerCostUsd }

end KestrelRunpod.Serverless
