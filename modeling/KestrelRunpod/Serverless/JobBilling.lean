import KestrelRunpod.Serverless.Hours

/-!
# Billing of one job

The externally owned attempt of a job, the quotes it is settled against, and the billing
receipt of the endpoint hours that the attempt was given.  An endpoint's job is settled through
`finalBilling` on the quote of its profile, and the job of an activated endpoint through
`finalActivatedBilling` on its planned quote; both read the job's status and one billing page.
-/

namespace KestrelRunpod.Serverless

open Numeric

/-! ## Instants -/

/-- `value + timedelta`, which stays inside the calendar. -/
def shift (value : Instant) (delta : Int) : Except Exn Instant := astimezone (value + delta)

/-- `timedelta.total_seconds`. -/
def totalSeconds (microseconds : Int) : Number := binary64 ((microseconds : ℚ) / 1000000)

/-- `_MAX_BILLABLE_COVERAGE_SECONDS`. -/
def maxBillableCoverageSeconds : Int := 7 * 24 * 60 * 60 + 3600

/-- `_MAX_EXCLUSIVE_BILLING_HOURS`. -/
def maxExclusiveBillingHours : Nat := 171

/-- `serverless_billing_hour_starts`. -/
def serverlessBillingHourStarts (attemptStartedAt billableCoverageUntil : Instant) :
    Except Exn (List Instant) := do
  let window ← billingHourBounds attemptStartedAt billableCoverageUntil
  let windowUntil ← astimezone window.2
  refuse ((Number.finite maxBillableCoverageSeconds).lt
      (totalSeconds (billableCoverageUntil - attemptStartedAt)) = true)
    (.valueError "Serverless billable coverage interval exceeds policy bounds")
  return (List.range ((windowUntil - window.1) / hour).toNat).map fun (n : Nat) =>
    window.1 + (n : Int) * hour

/-- `_normalized_exclusive_hours`, from a previous hour on. -/
def contiguousHours : Option Instant → List Instant → Except Exn Unit
  | _, [] => .ok ()
  | previous, item :: rest => do
      let broken : Exn := .valueError
        "Serverless exclusive billing allocation must contain contiguous UTC hour starts"
      refuse (item % hour ≠ 0) broken
      (match previous with
        | none => .ok ()
        | some previous => do
            let next ← shift previous hour
            refuse (item ≠ next) broken)
      contiguousHours (some item) rest

/-- `_normalized_exclusive_hours`. -/
def normalizedExclusiveHours (values : List Instant) : Except Exn (List Instant) := do
  refuse (values = [])
    (.valueError "Serverless exclusive billing allocation must contain hour buckets")
  refuse (maxExclusiveBillingHours < values.length)
    (.valueError "Serverless exclusive billing allocation exceeds policy bounds")
  contiguousHours none values
  return values

/-- `_ordered_hours_cover`. -/
def orderedHoursCover (actual required : List Instant) : Bool :=
  match actual.head?, actual.getLast?, required.head?, required.getLast? with
  | some actualFrom, some actualLast, some requiredFrom, some requiredLast =>
      actualFrom ≤ requiredFrom && requiredLast ≤ actualLast
  | _, _, _, _ => false

/-! ## Quotes and attempts -/

/-- What billing reads of a quote, planned or not. -/
structure BillingTerms where
  providerQuoteId : String
  hourlyWorkerRateUsd : Decimal
  idleTailSeconds : Int
  maximumQueueDelaySeconds : Int
  maximumWorkerStartSeconds : Int
  maximumExecutionSeconds : Int
  deriving DecidableEq

/-- The longest that a job may take, from its submission on. -/
def BillingTerms.maximumElapsed (terms : BillingTerms) : Int :=
  terms.maximumQueueDelaySeconds + terms.maximumWorkerStartSeconds +
    terms.maximumExecutionSeconds

/-- What billing reads of a `ServerlessCapacityQuote`. -/
structure ProfileQuoteFields extends BillingTerms where
  endpointProfileSha256 : String
  endpointId : String
  catalogObservedAt : Instant
  expiresAt : Instant
  deriving DecidableEq

/-- `ServerlessCapacityQuote.__post_init__`, on these fields. -/
def ProfileQuoteFields.check (q : ProfileQuoteFields) : Except Exn Unit := do
  safeIdentifier q.providerQuoteId "provider_quote_id"
  safeIdentifier q.endpointId "endpoint_id"
  sha256Digest q.endpointProfileSha256 "endpoint_profile_sha256"
  positiveDecimal q.hourlyWorkerRateUsd "hourly_worker_rate_usd"
  positiveInt q.idleTailSeconds "idle_tail_seconds"
  positiveInt q.maximumQueueDelaySeconds "maximum_queue_delay_seconds"
  positiveInt q.maximumWorkerStartSeconds "maximum_worker_start_seconds"
  positiveInt q.maximumExecutionSeconds "maximum_execution_seconds"
  refuse (q.expiresAt ≤ q.catalogObservedAt)
    (.valueError "Serverless capacity quote expiry is invalid")

/-- `ServerlessCapacityQuote`. -/
structure ProfileQuote extends ProfileQuoteFields where
  checked : toProfileQuoteFields.check = .ok ()

/-- The terms of a planned quote. -/
def CapacityQuote.terms (quote : CapacityQuote) : BillingTerms where
  providerQuoteId := quote.providerQuoteId
  hourlyWorkerRateUsd := quote.hourlyWorkerRateUsd
  idleTailSeconds := quote.idleTailSeconds
  maximumQueueDelaySeconds := quote.maximumQueueDelaySeconds
  maximumWorkerStartSeconds := quote.maximumWorkerStartSeconds
  maximumExecutionSeconds := quote.maximumExecutionSeconds

structure AttemptFields where
  attemptId : String
  jobId : String
  endpointId : String
  providerQuoteId : String
  exclusiveWindowSha256 : String
  exclusiveBillingHourStarts : List Instant
  submittedAt : Instant
  completedAt : Instant
  deriving DecidableEq

/-- `ServerlessBillingAttempt.__post_init__`. -/
def AttemptFields.check (a : AttemptFields) : Except Exn Unit := do
  safeIdentifier a.attemptId "attempt_id"
  safeIdentifier a.jobId "job_id"
  safeIdentifier a.endpointId "endpoint_id"
  safeIdentifier a.providerQuoteId "provider_quote_id"
  sha256Digest a.exclusiveWindowSha256 "exclusive_window_sha256"
  let _ ← normalizedExclusiveHours a.exclusiveBillingHourStarts
  refuse (a.completedAt ≤ a.submittedAt)
    (.valueError "Serverless billing attempt interval is invalid")

/-- `ServerlessBillingAttempt`. -/
structure BillingAttempt extends AttemptFields where
  checked : toAttemptFields.check = .ok ()

/-- The attempt took longer than its quote allows. -/
def BillingAttempt.exceeds (a : BillingAttempt) (terms : BillingTerms) : Bool :=
  (Number.finite terms.maximumElapsed).lt (totalSeconds (a.completedAt - a.submittedAt))

/-- `ServerlessBillingAttempt.validate_quote`. -/
def BillingAttempt.validateQuote (a : BillingAttempt) (quote : ProfileQuote) :
    Except Exn Unit := do
  refuse (a.endpointId ≠ quote.endpointId)
    (.manager "Serverless billing endpoint does not match quote")
  refuse (a.providerQuoteId ≠ quote.providerQuoteId)
    (.manager "Serverless billing quote identity does not match")
  refuse (¬ (quote.catalogObservedAt ≤ a.submittedAt ∧ a.submittedAt < quote.expiresAt))
    (.manager "Serverless job submission falls outside the accepted quote interval")
  refuse (a.exceeds quote.toBillingTerms = true)
    (.manager "Serverless attempt exceeds the accepted maximum interval")
  let coverageUntil ← shift a.completedAt (quote.idleTailSeconds * 1000000)
  let expectedHours ← serverlessBillingHourStarts a.submittedAt coverageUntil
  refuse (orderedHoursCover a.exclusiveBillingHourStarts expectedHours = false)
    (.manager ("Serverless exclusive billing allocation does not cover every " ++
      "accepted endpoint-hour bucket"))

/-- What `ServerlessActivatedSubmission.validate` and its settlement read. -/
structure ActivatedSubmission where
  providerQuoteId : String
  quoteSha256 : String
  providerActivationId : String
  endpointName : String
  endpointId : String
  endpointSpecSha256 : String
  operationDigest : String
  exclusiveWindowSha256 : String
  authorizedAt : Instant
  expiresAt : Instant
  deriving DecidableEq

/-- `ServerlessActivatedSubmission.validate`. -/
def ActivatedSubmission.validate {d : Digests} (s : ActivatedSubmission) (quote : CapacityQuote)
    (activation : ActivationReceipt d) : Except Exn Unit := do
  activation.validateQuote quote
  refuse (s.providerQuoteId ≠ quote.providerQuoteId ∨ s.quoteSha256 ≠ d.quote quote ∨
      s.providerActivationId ≠ activation.providerActivationId ∨
      s.endpointName ≠ activation.endpointName ∨ s.endpointId ≠ activation.endpointId ∨
      s.endpointSpecSha256 ≠ activation.endpointSpecSha256 ∨
      s.operationDigest ≠ activation.operationDigest ∨
      ¬ (quote.catalogObservedAt ≤ s.authorizedAt ∧ s.authorizedAt < quote.expiresAt) ∨
      s.expiresAt ≠ quote.expiresAt)
    (.manager "Serverless submission is not the activated child of its quote")

/-! ## Receipts -/

/-- What a billing receipt says of its attempt, its window and its costs. -/
structure JobBasis extends HourAmounts where
  providerQuoteId : String
  endpointProfileSha256 : String
  endpointId : String
  jobId : String
  attemptId : String
  exclusiveWindowSha256 : String
  exclusiveBillingHourStarts : List Instant
  attemptStartedAt : Instant
  attemptCompletedAt : Instant
  billableCoverageUntil : Instant
  billingWindowFrom : Instant
  billingWindowUntil : Instant
  hourlyWorkerRateUsd : Decimal
  preExecutionDelayMs : Option Int
  workerStartupMs : Option Int
  executionMs : Option Int
  acceptedIdleTailMs : Int
  idleTailMs : Option Int
  deriving DecidableEq

structure JobReceiptFields extends JobBasis where
  schemaVersion : Int
  contractVersion : String
  providerBillingId : String
  reconciledAt : Instant
  deriving DecidableEq

/-- `int((completed_at - started_at).total_seconds() * 1_000)`. -/
def attemptMs (startedAt completedAt : Instant) : Except Exn Int :=
  match totalSeconds (completedAt - startedAt) with
  | .finite elapsed =>
      match binary64 (elapsed * 1000) with
      | .finite ms => .ok (if ms < 0 then ⌈ms⌉ else ⌊ms⌋)
      | _ => .error (.other "OverflowError")
  | _ => .error (.other "OverflowError")

/-- The time that a job's status accounts for. -/
def observedJobMs (preExecutionDelayMs executionMs : Option Int) : Int :=
  preExecutionDelayMs.getD 0 + executionMs.getD 0

/-- `_nonnegative_int` on a value that may be `None`. -/
def nonnegativeOptional (value : Option Int) (name : String) : Except Exn Unit :=
  match value with
  | some n => nonnegativeInt n name
  | none => .ok ()

/-- `ServerlessBillingReceipt.__post_init__`, up to its last check. -/
def JobReceiptFields.checkRecord (r : JobReceiptFields) : Except Exn Unit := do
  supported r.schemaVersion r.contractVersion "Serverless billing receipt"
  safeIdentifier r.providerBillingId "provider_billing_id"
  safeIdentifier r.providerQuoteId "provider_quote_id"
  safeIdentifier r.endpointId "endpoint_id"
  safeIdentifier r.jobId "job_id"
  safeIdentifier r.attemptId "attempt_id"
  sha256Digest r.endpointProfileSha256 "endpoint_profile_sha256"
  sha256Digest r.exclusiveWindowSha256 "exclusive_window_sha256"
  refuse (¬ (r.billingWindowFrom ≤ r.attemptStartedAt ∧
      r.attemptStartedAt < r.attemptCompletedAt ∧
      r.attemptCompletedAt < r.billableCoverageUntil ∧
      r.billableCoverageUntil ≤ r.billingWindowUntil ∧
      r.billingWindowUntil ≤ r.reconciledAt))
    (.valueError "Serverless billing receipt intervals are inconsistent")
  positiveInt r.acceptedIdleTailMs "accepted_idle_tail_ms"
  let expectedCoverageUntil ← shift r.attemptCompletedAt (r.acceptedIdleTailMs * 1000)
  refuse (r.billableCoverageUntil ≠ expectedCoverageUntil)
    (.valueError "Serverless billing coverage does not equal the accepted idle tail")
  let requiredHours ← serverlessBillingHourStarts r.attemptStartedAt r.billableCoverageUntil
  let actualHours ← normalizedExclusiveHours r.exclusiveBillingHourStarts
  refuse (orderedHoursCover actualHours requiredHours = false)
    (.valueError ("Serverless receipt allocation does not cover every attempted " ++
      "endpoint-hour bucket"))
  let mismatch : Exn :=
    .valueError "Serverless billing receipt window does not match its hour allocation"
  refuse (some r.billingWindowFrom ≠ actualHours.head?) mismatch
  let lastUntil ← shift (actualHours.getLast?.getD 0) hour
  refuse (r.billingWindowUntil ≠ lastUntil) mismatch
  positiveDecimal r.hourlyWorkerRateUsd "hourly_worker_rate_usd"
  nonnegativeOptional r.preExecutionDelayMs "pre_execution_delay_ms"
  nonnegativeOptional r.workerStartupMs "worker_startup_ms"
  nonnegativeOptional r.executionMs "execution_ms"
  nonnegativeOptional r.idleTailMs "idle_tail_ms"
  nonnegativeDecimal r.gpuCostUsd "gpu_cost_usd"
  nonnegativeDecimal r.cpuCostUsd "cpu_cost_usd"
  nonnegativeDecimal r.diskCostUsd "disk_cost_usd"
  nonnegativeDecimal r.feeCostUsd "fee_cost_usd"
  nonnegativeDecimal r.actualCostUsd "actual_cost_usd"
  refuse (r.actualCostUsd.value ≠
      (Decimal.exactSum [r.gpuCostUsd, r.cpuCostUsd, r.diskCostUsd, r.feeCostUsd]).value)
    (.valueError "Serverless billing components do not equal total cost")

/-- `ServerlessBillingReceipt.__post_init__`. -/
def JobReceiptFields.check (r : JobReceiptFields) : Except Exn Unit := do
  r.checkRecord
  let recorded ← attemptMs r.attemptStartedAt r.attemptCompletedAt
  refuse (recorded < observedJobMs r.preExecutionDelayMs r.executionMs)
    (.valueError "Serverless job timing exceeds the recorded attempt interval")

/-- `ServerlessBillingReceipt`. -/
structure JobReceipt extends JobReceiptFields where
  checked : toJobReceiptFields.check = .ok ()

/-- Construct a billing receipt, or fail as `__post_init__` does. -/
def JobReceipt.build (r : JobReceiptFields) : Except Exn JobReceipt :=
  match checked : r.check with
  | .ok () => .ok ⟨r, checked⟩
  | .error x => .error x

/-! ## Settlement -/

/-- What billing reads of a `ServerlessJob`. -/
structure ServerlessJob where
  id : String
  status : String
  delayTimeMs : Option Int
  executionTimeMs : Option Int
  deriving DecidableEq

/-- `str.upper` on the characters whose capitals are among `A` to `Z`. -/
def upperChars (c : Char) : List Char :=
  match c with
  | 'ß' => ['S', 'S']
  | 'ı' => ['I']
  | 'ſ' => ['S']
  | 'ﬀ' => ['F', 'F']
  | 'ﬁ' => ['F', 'I']
  | 'ﬂ' => ['F', 'L']
  | 'ﬃ' => ['F', 'F', 'I']
  | 'ﬄ' => ['F', 'F', 'L']
  | 'ﬅ' => ['S', 'T']
  | 'ﬆ' => ['S', 'T']
  | c => [c.toUpper]

/-- `_TERMINAL_JOB_STATES`. -/
def terminalJobStates : List String := ["COMPLETED", "FAILED", "CANCELLED", "TIMED_OUT"]

/-- `job.status.upper() in _TERMINAL_JOB_STATES`. -/
def isTerminalState (status : String) : Bool :=
  terminalJobStates.any fun state => state.toList = status.toList.flatMap upperChars

/-- `_validate_terminal_job`. -/
def validateTerminalJob (job : ServerlessJob) (attempt : BillingAttempt) : Except Exn Unit := do
  refuse (job.id ≠ attempt.jobId) (.manager "Runpod returned a mismatched Serverless job")
  refuse (isTerminalState job.status = false)
    (.manager "Serverless job is not terminal for billing")
  refuse (job.delayTimeMs.any (fun ms => ms < 0) = true)
    (.manager "Serverless job delayTime is unsafe")
  refuse (job.executionTimeMs.any (fun ms => ms < 0) = true)
    (.manager "Serverless job executionTime is unsafe")

/-- The texts and digests that a job's billing reads and writes. -/
structure JobBillingTexts extends BillingTexts where
  identity : String × JobBasis → String
  identity_hex : ∀ i, Pod.isSha256 (identity i) = true

variable (texts : JobBillingTexts)

/-- What a settlement is asked, and what it is answered: whether there is a restricted job
client, the time, the job's status, and the page for the attempt's hours. -/
structure Settlement where
  restricted : Bool
  readAt : Instant
  job : ServerlessJob
  page : BillingPage

/-- The checks that `_final_billing_bound` makes before it reads the bill. -/
def admitJob (s : Settlement) (attempt : BillingAttempt) (terms : BillingTerms) :
    Except Exn Unit := do
  refuse (s.restricted = false)
    (.manager "Serverless billing requires a restricted job-status client")
  refuse (s.readAt < attempt.completedAt)
    (.manager "Serverless billing cannot be reconciled before attempt completion")
  validateTerminalJob s.job attempt
  refuse (s.job.delayTimeMs.any (fun ms =>
      (terms.maximumQueueDelaySeconds + terms.maximumWorkerStartSeconds) * 1000 < ms) = true)
    (.manager "Serverless job pre-execution delay exceeds the accepted maximum")
  refuse (s.job.executionTimeMs.any (fun ms => terms.maximumExecutionSeconds * 1000 < ms) = true)
    (.manager "Serverless job execution exceeds the accepted maximum")

/-- The fields of the receipt of an attempt whose hours cost `costs`. -/
def receiptFields (s : Settlement) (attempt : BillingAttempt)
    (terms : BillingTerms) (endpointProfileSha256 : String)
    (coverageUntil windowFrom windowUntil : Instant) (costs : List HourCost) :
    JobReceiptFields :=
  let basis : JobBasis := {
    toHourAmounts := hourCostTotals costs
    providerQuoteId := terms.providerQuoteId
    endpointProfileSha256 := endpointProfileSha256
    endpointId := attempt.endpointId
    jobId := attempt.jobId
    attemptId := attempt.attemptId
    exclusiveWindowSha256 := attempt.exclusiveWindowSha256
    exclusiveBillingHourStarts := attempt.exclusiveBillingHourStarts
    attemptStartedAt := attempt.submittedAt
    attemptCompletedAt := attempt.completedAt
    billableCoverageUntil := coverageUntil
    billingWindowFrom := windowFrom
    billingWindowUntil := windowUntil
    hourlyWorkerRateUsd := terms.hourlyWorkerRateUsd
    preExecutionDelayMs := s.job.delayTimeMs
    workerStartupMs := none
    executionMs := s.job.executionTimeMs
    acceptedIdleTailMs := terms.idleTailSeconds * 1000
    idleTailMs := none }
  { toJobBasis := basis
    schemaVersion := schemaVersion
    contractVersion := contractVersion
    providerBillingId := "runpod-serverless-billing:" ++ texts.identity (contractVersion, basis)
    reconciledAt := s.readAt }

/-- The end of `_final_billing_bound`: the page for the attempt's hours, once they have
closed. -/
def settlePage (s : Settlement) (attempt : BillingAttempt) (terms : BillingTerms)
    (endpointProfileSha256 : String) (coverageUntil windowFrom windowUntil : Instant) :
    Except Exn (Option JobReceipt) := do
  if s.readAt < windowUntil then return none
  match ← authoritativeHourCosts texts.toBillingTexts s.page attempt.endpointId windowFrom
      windowUntil with
  | none => return none
  | some costs => do
      let receipt ← JobReceipt.build (receiptFields texts s attempt terms endpointProfileSha256
        coverageUntil windowFrom windowUntil costs)
      return some receipt

/-- `_final_billing_bound`. -/
def finalBillingBound (s : Settlement) (attempt : BillingAttempt) (terms : BillingTerms)
    (endpointProfileSha256 : String) : Except Exn (Option JobReceipt) := do
  admitJob s attempt terms
  let coverageUntil ← shift attempt.completedAt (terms.idleTailSeconds * 1000000)
  match attempt.exclusiveBillingHourStarts.head?, attempt.exclusiveBillingHourStarts.getLast? with
  | some windowFrom, some lastHour => do
      let windowUntil ← shift lastHour hour
      settlePage texts s attempt terms endpointProfileSha256 coverageUntil windowFrom windowUntil
  | _, _ => .error (.other "IndexError")

/-- `final_billing`. -/
def finalBilling (s : Settlement) (attempt : BillingAttempt) (quote : ProfileQuote) :
    Except Exn (Option JobReceipt) := do
  attempt.validateQuote quote
  finalBillingBound texts s attempt quote.toBillingTerms quote.endpointProfileSha256

/-- The checks of `final_activated_billing`. -/
def bindActivated {d : Digests} (attempt : BillingAttempt) (quote : CapacityQuote)
    (activation : ActivationReceipt d) (submission : ActivatedSubmission) : Except Exn Unit := do
  submission.validate quote activation
  refuse (attempt.endpointId ≠ activation.endpointId ∨
      attempt.providerQuoteId ≠ quote.providerQuoteId ∨
      attempt.exclusiveWindowSha256 ≠ submission.exclusiveWindowSha256)
    (.manager "Serverless billing attempt is not bound to the activated submission")
  refuse (¬ (submission.authorizedAt ≤ attempt.submittedAt ∧
      attempt.submittedAt < submission.expiresAt))
    (.manager "Serverless activated submission falls outside its authorization")
  refuse (attempt.exceeds quote.terms = true)
    (.manager "Serverless activated attempt exceeds the accepted maximum interval")
  let coverageUntil ← shift attempt.completedAt (quote.idleTailSeconds * 1000000)
  let requiredHours ← serverlessBillingHourStarts attempt.submittedAt coverageUntil
  refuse (orderedHoursCover attempt.exclusiveBillingHourStarts requiredHours = false)
    (.manager "Serverless activated billing allocation does not cover its window")

/-- `final_activated_billing`. -/
def finalActivatedBilling {d : Digests} (s : Settlement) (attempt : BillingAttempt)
    (quote : CapacityQuote) (activation : ActivationReceipt d)
    (submission : ActivatedSubmission) : Except Exn (Option JobReceipt) := do
  bindActivated attempt quote activation submission
  finalBillingBound texts s attempt quote.terms quote.endpointSpecSha256

end KestrelRunpod.Serverless
