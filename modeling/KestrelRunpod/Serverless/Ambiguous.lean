import KestrelRunpod.Numeric.DecimalText
import KestrelRunpod.Serverless.Settlement

/-!
# Billing of an ambiguous window

A submission whose acceptance is not known may have used every endpoint hour that its quote
allows.  The exclusive hours of its window are billed without a job: what they cost is charged up
to the accepted ceiling, and the rest is the operator's loss.
-/

namespace KestrelRunpod.Serverless

open Numeric

/-! ## Windows -/

structure WindowFields where
  attemptId : String
  endpointId : String
  providerQuoteId : String
  exclusiveWindowSha256 : String
  exclusiveBillingHourStarts : List Instant
  attemptedAt : Instant
  billableCoverageUntil : Instant
  acceptedCostCeilingUsd : Decimal
  deriving DecidableEq

/-- `ServerlessAmbiguousBillingWindow.__post_init__`. -/
def WindowFields.check (w : WindowFields) : Except Exn Unit := do
  safeIdentifier w.attemptId "attempt_id"
  safeIdentifier w.endpointId "endpoint_id"
  safeIdentifier w.providerQuoteId "provider_quote_id"
  sha256Digest w.exclusiveWindowSha256 "exclusive_window_sha256"
  let requiredHours ← serverlessBillingHourStarts w.attemptedAt w.billableCoverageUntil
  let actualHours ← normalizedExclusiveHours w.exclusiveBillingHourStarts
  refuse (orderedHoursCover actualHours requiredHours = false)
    (.valueError ("Serverless ambiguous allocation does not cover every attempted " ++
      "endpoint-hour bucket"))
  positiveDecimal w.acceptedCostCeilingUsd "accepted_cost_ceiling_usd"

/-- `ServerlessAmbiguousBillingWindow`, of times that UTC can name. -/
structure AmbiguousWindow extends WindowFields where
  dated : ∀ t ∈ attemptedAt :: billableCoverageUntil :: exclusiveBillingHourStarts, InCalendar t
  checked : toWindowFields.check = .ok ()

/-- What the billing of a window reads of a `ServerlessCapacityQuote`. -/
structure WindowQuoteFields extends ProfileQuoteFields where
  costCeilingUsd : Decimal
  deriving DecidableEq

/-- `ServerlessCapacityQuote.__post_init__`, on these fields. -/
def WindowQuoteFields.check (q : WindowQuoteFields) : Except Exn Unit := do
  q.toProfileQuoteFields.check
  positiveDecimal q.costCeilingUsd "cost_ceiling_usd"

/-- `ServerlessCapacityQuote`. -/
structure WindowQuote extends WindowQuoteFields where
  checked : toWindowQuoteFields.check = .ok ()

/-- The longest that a submission may be billed, from its attempt on. -/
def BillingTerms.maximumBillable (terms : BillingTerms) : Int :=
  terms.maximumElapsed + terms.idleTailSeconds

/-- `ServerlessAmbiguousBillingWindow.validate_quote`. -/
def AmbiguousWindow.validateQuote (w : AmbiguousWindow) (quote : WindowQuote) :
    Except Exn Unit := do
  refuse (w.endpointId ≠ quote.endpointId)
    (.manager "Serverless ambiguous billing endpoint does not match quote")
  refuse (w.providerQuoteId ≠ quote.providerQuoteId)
    (.manager "Serverless ambiguous billing quote identity does not match")
  refuse (w.acceptedCostCeilingUsd.value ≠ quote.costCeilingUsd.value)
    (.manager "Serverless ambiguous billing ceiling does not match quote")
  refuse (¬ (quote.catalogObservedAt ≤ w.attemptedAt ∧ w.attemptedAt < quote.expiresAt))
    (.manager "Serverless ambiguous submission falls outside the accepted quote")
  let expectedCoverageUntil ←
    shift w.attemptedAt (quote.toBillingTerms.maximumBillable * 1000000)
  refuse (w.billableCoverageUntil ≠ expectedCoverageUntil)
    (.manager ("Serverless ambiguous allocation does not cover the accepted " ++
      "worst-case billable interval"))

/-- `ServerlessAmbiguousBillingWindow.validate_activated_submission`. -/
def AmbiguousWindow.validateActivatedSubmission {d : Digests} (w : AmbiguousWindow)
    (quote : CapacityQuote) (activation : ActivationReceipt d) (submission : ActivatedSubmission) :
    Except Exn Unit := do
  submission.validate quote activation
  refuse (w.endpointId ≠ activation.endpointId ∨ w.providerQuoteId ≠ quote.providerQuoteId ∨
      w.exclusiveWindowSha256 ≠ submission.exclusiveWindowSha256)
    (.manager ("Serverless ambiguous billing window is not bound to the " ++
      "activated submission"))
  refuse (w.acceptedCostCeilingUsd.value ≠ quote.costCeilingUsd.value)
    (.manager "Serverless ambiguous billing ceiling does not match planned quote")
  refuse (¬ (submission.authorizedAt ≤ w.attemptedAt ∧ w.attemptedAt < submission.expiresAt))
    (.manager "Serverless ambiguous submission falls outside its authorization")
  let expectedCoverageUntil ← shift w.attemptedAt (quote.terms.maximumBillable * 1000000)
  refuse (w.billableCoverageUntil ≠ expectedCoverageUntil)
    (.manager ("Serverless ambiguous allocation does not cover the accepted " ++
      "planned worst-case billable interval"))

/-! ## Receipts -/

/-- What `provider_billing_id` digests, besides the contract version. -/
structure WindowBasis extends HourAmounts where
  providerQuoteId : String
  endpointProfileSha256 : String
  endpointId : String
  attemptId : String
  exclusiveWindowSha256 : String
  exclusiveBillingHourStarts : List Instant
  attemptedAt : Instant
  billableCoverageUntil : Instant
  billingWindowFrom : Instant
  billingWindowUntil : Instant
  acceptedCostCeilingUsd : Decimal
  endpointHourCosts : List HourCost
  cappedCostUsd : Decimal
  operatorLossUsd : Decimal
  deriving DecidableEq

structure WindowReceiptFields extends WindowBasis where
  schemaVersion : Int
  contractVersion : String
  providerBillingId : String
  reconciledAt : Instant
  deriving DecidableEq

/-- The loop over the hour costs of a receipt. -/
def observeHours (endpointId : String) : List String → List HourCost → Except Exn Unit
  | _, [] => .ok ()
  | observed, item :: rest => do
      refuse (item.endpointId ≠ endpointId)
        (.valueError "Serverless endpoint-hour cost does not match receipt endpoint")
      refuse (item.providerObservationId ∈ observed)
        (.valueError "Serverless endpoint-hour provider observation ID is duplicated")
      observeHours endpointId (item.providerObservationId :: observed) rest

/-- `min`: the first of two equal decimals. -/
def lesser (x y : Decimal) : Decimal := if y.value < x.value then y else x

/-- `ServerlessAmbiguousWindowBillingReceipt.__post_init__`. -/
def WindowReceiptFields.check (r : WindowReceiptFields) : Except Exn Unit := do
  supported r.schemaVersion r.contractVersion "Serverless ambiguous billing receipt"
  safeIdentifier r.providerBillingId "provider_billing_id"
  safeIdentifier r.providerQuoteId "provider_quote_id"
  safeIdentifier r.endpointId "endpoint_id"
  safeIdentifier r.attemptId "attempt_id"
  sha256Digest r.endpointProfileSha256 "endpoint_profile_sha256"
  sha256Digest r.exclusiveWindowSha256 "exclusive_window_sha256"
  refuse (¬ (r.billingWindowFrom ≤ r.attemptedAt ∧ r.attemptedAt < r.billableCoverageUntil ∧
      r.billableCoverageUntil ≤ r.billingWindowUntil ∧ r.billingWindowUntil ≤ r.reconciledAt))
    (.valueError "Serverless ambiguous billing receipt intervals are inconsistent")
  let requiredHours ← serverlessBillingHourStarts r.attemptedAt r.billableCoverageUntil
  let actualHours ← normalizedExclusiveHours r.exclusiveBillingHourStarts
  refuse (orderedHoursCover actualHours requiredHours = false)
    (.valueError ("Serverless ambiguous receipt allocation does not cover every " ++
      "attempted endpoint-hour bucket"))
  let mismatch : Exn :=
    .valueError "Serverless ambiguous receipt window does not match its allocation"
  refuse (some r.billingWindowFrom ≠ actualHours.head?) mismatch
  let lastUntil ← shift (actualHours.getLast?.getD 0) hour
  refuse (r.billingWindowUntil ≠ lastUntil) mismatch
  refuse (r.endpointHourCosts = [])
    (.valueError "Serverless ambiguous receipt must contain endpoint-hour costs")
  observeHours r.endpointId [] r.endpointHourCosts
  refuse (r.endpointHourCosts.map (fun item => item.utcHourStart) ≠ actualHours)
    (.valueError "Serverless endpoint-hour costs do not match the ordered allocation")
  positiveDecimal r.acceptedCostCeilingUsd "accepted_cost_ceiling_usd"
  nonnegativeDecimal r.gpuCostUsd "gpu_cost_usd"
  nonnegativeDecimal r.cpuCostUsd "cpu_cost_usd"
  nonnegativeDecimal r.diskCostUsd "disk_cost_usd"
  nonnegativeDecimal r.feeCostUsd "fee_cost_usd"
  nonnegativeDecimal r.actualCostUsd "actual_cost_usd"
  nonnegativeDecimal r.cappedCostUsd "capped_cost_usd"
  nonnegativeDecimal r.operatorLossUsd "operator_loss_usd"
  refuse (r.actualCostUsd.value ≠
      (Decimal.exactSum [r.gpuCostUsd, r.cpuCostUsd, r.diskCostUsd, r.feeCostUsd]).value)
    (.valueError "Serverless ambiguous billing components do not equal total cost")
  refuse (r.toHourAmounts.sameAs (hourCostTotals r.endpointHourCosts) = false)
    (.valueError "Serverless ambiguous aggregate costs do not equal endpoint-hour costs")
  refuse (r.cappedCostUsd.value ≠ (lesser r.actualCostUsd r.acceptedCostCeilingUsd).value)
    (.valueError "Serverless ambiguous capped cost is inconsistent")
  refuse (r.operatorLossUsd.value ≠
      (Decimal.exactSum [r.actualCostUsd, r.cappedCostUsd.negated]).value)
    (.valueError "Serverless ambiguous operator loss is inconsistent")

/-- `ServerlessAmbiguousWindowBillingReceipt`. -/
structure WindowReceipt extends WindowReceiptFields where
  checked : toWindowReceiptFields.check = .ok ()

/-- Construct a receipt, or fail as `__post_init__` does. -/
def WindowReceipt.build (r : WindowReceiptFields) : Except Exn WindowReceipt :=
  match checked : r.check with
  | .ok () => .ok ⟨r, checked⟩
  | .error x => .error x

/-! ## Settlement -/

/-- The texts and digests that a window's billing reads and writes; `isoformat` writes what
`fromisoformat` reads back. -/
structure WindowTexts extends BillingTexts where
  identity : String × WindowBasis → String
  identity_hex : ∀ i, Pod.isSha256 (identity i) = true
  isoFormat : Instant → String
  isoFormat_some : ∀ t, isoFormat t ≠ ""
  isoFormat_reads : ∀ t, InCalendar t → fromIsoFormat (isoFormat t) = .aware t

variable (texts : WindowTexts)

/-- What the settlement of a window is answered: the time, and the page for its hours. -/
structure WindowSettlement where
  readAt : Instant
  page : BillingPage
  dated : InCalendar readAt

/-- The fields of the receipt of a window whose hours cost `costs`. -/
def windowReceiptFields (s : WindowSettlement) (window : AmbiguousWindow)
    (providerQuoteId endpointProfileSha256 : String) (windowFrom windowUntil : Instant)
    (costs : List HourCost) : WindowReceiptFields :=
  let amounts := hourCostTotals costs
  let cappedCost := lesser amounts.actualCostUsd window.acceptedCostCeilingUsd
  let basis : WindowBasis := {
    toHourAmounts := amounts
    providerQuoteId := providerQuoteId
    endpointProfileSha256 := endpointProfileSha256
    endpointId := window.endpointId
    attemptId := window.attemptId
    exclusiveWindowSha256 := window.exclusiveWindowSha256
    exclusiveBillingHourStarts := window.exclusiveBillingHourStarts
    attemptedAt := window.attemptedAt
    billableCoverageUntil := window.billableCoverageUntil
    billingWindowFrom := windowFrom
    billingWindowUntil := windowUntil
    acceptedCostCeilingUsd := window.acceptedCostCeilingUsd
    endpointHourCosts := costs
    cappedCostUsd := cappedCost
    operatorLossUsd := Decimal.exactSum [amounts.actualCostUsd, cappedCost.negated] }
  { toWindowBasis := basis
    schemaVersion := schemaVersion
    contractVersion := contractVersion
    providerBillingId :=
      "runpod-serverless-ambiguous-billing:" ++ texts.identity (contractVersion, basis)
    reconciledAt := s.readAt }

/-- The end of `_final_ambiguous_window_billing_bound`: the page for the window's hours, once
they have closed. -/
def settleWindowPage (s : WindowSettlement) (window : AmbiguousWindow)
    (providerQuoteId endpointProfileSha256 : String) (windowFrom windowUntil : Instant) :
    Except Exn (Option WindowReceipt) := do
  if s.readAt < windowUntil then return none
  match ← authoritativeHourCosts texts.toBillingTexts s.page window.endpointId windowFrom
      windowUntil with
  | none => return none
  | some costs => do
      let receipt ← WindowReceipt.build (windowReceiptFields texts s window providerQuoteId
        endpointProfileSha256 windowFrom windowUntil costs)
      return some receipt

/-- `_final_ambiguous_window_billing_bound`. -/
def finalAmbiguousWindowBillingBound (s : WindowSettlement) (window : AmbiguousWindow)
    (providerQuoteId endpointProfileSha256 : String) : Except Exn (Option WindowReceipt) :=
  match window.exclusiveBillingHourStarts.head?, window.exclusiveBillingHourStarts.getLast? with
  | some windowFrom, some lastHour => do
      let windowUntil ← shift lastHour hour
      settleWindowPage texts s window providerQuoteId endpointProfileSha256 windowFrom windowUntil
  | _, _ => .error (.other "IndexError")

/-- `final_ambiguous_window_billing`. -/
def finalAmbiguousWindowBilling (s : WindowSettlement) (window : AmbiguousWindow)
    (quote : WindowQuote) : Except Exn (Option WindowReceipt) := do
  window.validateQuote quote
  finalAmbiguousWindowBillingBound texts s window quote.providerQuoteId
    quote.endpointProfileSha256

/-- `final_activated_ambiguous_window_billing`. -/
def finalActivatedAmbiguousWindowBilling {d : Digests} (s : WindowSettlement)
    (window : AmbiguousWindow) (quote : CapacityQuote) (activation : ActivationReceipt d)
    (submission : ActivatedSubmission) : Except Exn (Option WindowReceipt) := do
  window.validateActivatedSubmission quote activation submission
  finalAmbiguousWindowBillingBound texts s window quote.providerQuoteId quote.endpointSpecSha256

/-! ## Stored receipts -/

/-- The fields that `HourAmounts.toDict` writes. -/
def HourAmounts.toDict (a : HourAmounts) : List (String × Json) :=
  [("gpu_cost_usd", .str a.gpuCostUsd.fixed), ("cpu_cost_usd", .str a.cpuCostUsd.fixed),
    ("disk_cost_usd", .str a.diskCostUsd.fixed), ("fee_cost_usd", .str a.feeCostUsd.fixed),
    ("actual_cost_usd", .str a.actualCostUsd.fixed)]

/-- `ServerlessEndpointHourCost.to_dict`. -/
def HourCostFields.toDict (c : HourCostFields) : List (String × Json) :=
  [("provider_observation_id", .str c.providerObservationId),
    ("endpoint_id", .str c.endpointId),
    ("utc_hour_start", .str (texts.isoFormat c.utcHourStart)),
    ("utc_hour_end", .str (texts.isoFormat c.utcHourEnd))] ++ c.toHourAmounts.toDict

/-- `ServerlessAmbiguousWindowBillingReceipt.to_dict`. -/
def WindowReceiptFields.toDict (r : WindowReceiptFields) : List (String × Json) :=
  [("schema_version", .int r.schemaVersion),
    ("contract_version", .str r.contractVersion),
    ("provider_billing_id", .str r.providerBillingId),
    ("provider_quote_id", .str r.providerQuoteId),
    ("endpoint_profile_sha256", .str r.endpointProfileSha256),
    ("endpoint_id", .str r.endpointId),
    ("attempt_id", .str r.attemptId),
    ("exclusive_window_sha256", .str r.exclusiveWindowSha256),
    ("exclusive_billing_hour_starts",
      .arr (r.exclusiveBillingHourStarts.map fun t => .str (texts.isoFormat t))),
    ("attempted_at", .str (texts.isoFormat r.attemptedAt)),
    ("billable_coverage_until", .str (texts.isoFormat r.billableCoverageUntil)),
    ("billing_window_from", .str (texts.isoFormat r.billingWindowFrom)),
    ("billing_window_until", .str (texts.isoFormat r.billingWindowUntil)),
    ("accepted_cost_ceiling_usd", .str r.acceptedCostCeilingUsd.fixed),
    ("endpoint_hour_costs",
      .arr (r.endpointHourCosts.map fun item => .obj (item.toHourCostFields.toDict texts)))] ++
  r.toHourAmounts.toDict ++
  [("capped_cost_usd", .str r.cappedCostUsd.fixed),
    ("operator_loss_usd", .str r.operatorLossUsd.fixed),
    ("reconciled_at", .str (texts.isoFormat r.reconciledAt))]

/-- `_exact_keys` of a stored record. -/
def storedKeys (fields : List (String × Json)) (keys : List String) (name : String) :
    Except Exn Unit :=
  refuse (Json.hasKeys fields keys = false)
    (.manager (name ++ " contains missing or unsupported fields"))

/-- `_required_string`. -/
def requiredString (fields : List (String × Json)) (key : String) : Except Exn String :=
  let invalid : Exn := .manager ("Stored Serverless " ++ key ++ " must be a string")
  match Json.get fields key with
  | .str s => if s = "" then .error invalid else .ok s
  | _ => .error invalid

/-- `_required_int`. -/
def requiredInt (fields : List (String × Json)) (key : String) : Except Exn Int :=
  match Json.get fields key with
  | .int n => .ok n
  | _ => .error (.manager ("Stored Serverless " ++ key ++ " must be an integer"))

/-- `parse_datetime(_required_string(...))`. -/
def requiredDatetime (fields : List (String × Json)) (key : String) : Except Exn Instant := do
  let text ← requiredString fields key
  parseDatetime texts.toBillingTexts text

/-- `_required_datetime_tuple`. -/
def requiredDatetimes (fields : List (String × Json)) (key : String) :
    Except Exn (List Instant) :=
  let nonempty : Exn :=
    .manager ("Stored Serverless " ++ key ++ " must be a nonempty timestamp list")
  match Json.get fields key with
  | .arr items => do
      refuse (items.isEmpty = true) nonempty
      items.mapM fun item => match item with
        | .str text => parseDatetime texts.toBillingTexts text
        | _ =>
            .error (.manager ("Stored Serverless " ++ key ++ " must contain timestamp strings"))
  | _ => .error nonempty

/-- `_required_decimal`, of a finite decimal. -/
def requiredDecimal (fields : List (String × Json)) (key : String) : Except Exn Decimal :=
  match Json.get fields key with
  | .str text =>
      match Decimal.ofNumeral ((Pod.strip text).toList.filter fun c => c ≠ '_') with
      | some amount => .ok amount
      | none => .error (.manager ("Stored Serverless " ++ key ++ " is invalid"))
  | _ => .error (.manager ("Stored Serverless " ++ key ++ " must be a decimal string"))

/-- The amounts of a stored record. -/
def requiredAmounts (fields : List (String × Json)) : Except Exn HourAmounts := do
  let gpuCostUsd ← requiredDecimal fields "gpu_cost_usd"
  let cpuCostUsd ← requiredDecimal fields "cpu_cost_usd"
  let diskCostUsd ← requiredDecimal fields "disk_cost_usd"
  let feeCostUsd ← requiredDecimal fields "fee_cost_usd"
  let actualCostUsd ← requiredDecimal fields "actual_cost_usd"
  return ⟨gpuCostUsd, cpuCostUsd, diskCostUsd, feeCostUsd, actualCostUsd⟩

/-- `ServerlessEndpointHourCost.from_dict`. -/
def HourCost.fromDict (fields : List (String × Json)) : Except Exn HourCost := do
  storedKeys fields ["provider_observation_id", "endpoint_id", "utc_hour_start", "utc_hour_end",
    "gpu_cost_usd", "cpu_cost_usd", "disk_cost_usd", "fee_cost_usd", "actual_cost_usd"]
    "Serverless endpoint-hour cost"
  let providerObservationId ← requiredString fields "provider_observation_id"
  let endpointId ← requiredString fields "endpoint_id"
  let utcHourStart ← requiredDatetime texts fields "utc_hour_start"
  let utcHourEnd ← requiredDatetime texts fields "utc_hour_end"
  let amounts ← requiredAmounts fields
  HourCost.build ⟨amounts, providerObservationId, endpointId, utcHourStart, utcHourEnd⟩

/-- `_required_endpoint_hour_costs`. -/
def requiredHourCosts (fields : List (String × Json)) (key : String) :
    Except Exn (List HourCost) :=
  let nonempty : Exn :=
    .manager ("Stored Serverless " ++ key ++ " must be a nonempty object list")
  match Json.get fields key with
  | .arr items => do
      refuse (items.isEmpty = true) nonempty
      items.mapM fun item => match item with
        | .obj fields => HourCost.fromDict texts fields
        | _ => .error (.manager ("Stored Serverless " ++ key ++ " must contain objects"))
  | _ => .error nonempty

/-- `_AMBIGUOUS_RECEIPT_FIELDS`. -/
def ambiguousReceiptKeys : List String :=
  ["schema_version", "contract_version", "provider_billing_id", "provider_quote_id",
    "endpoint_profile_sha256", "endpoint_id", "attempt_id", "exclusive_window_sha256",
    "exclusive_billing_hour_starts", "attempted_at", "billable_coverage_until",
    "billing_window_from", "billing_window_until", "accepted_cost_ceiling_usd",
    "endpoint_hour_costs", "gpu_cost_usd", "cpu_cost_usd", "disk_cost_usd", "fee_cost_usd",
    "actual_cost_usd", "capped_cost_usd", "operator_loss_usd", "reconciled_at"]

/-- `ServerlessAmbiguousWindowBillingReceipt.from_dict`. -/
def WindowReceipt.fromDict (fields : List (String × Json)) : Except Exn WindowReceipt := do
  storedKeys fields ambiguousReceiptKeys "Serverless ambiguous billing receipt"
  let schemaVersion ← requiredInt fields "schema_version"
  let contractVersion ← requiredString fields "contract_version"
  let providerBillingId ← requiredString fields "provider_billing_id"
  let providerQuoteId ← requiredString fields "provider_quote_id"
  let endpointProfileSha256 ← requiredString fields "endpoint_profile_sha256"
  let endpointId ← requiredString fields "endpoint_id"
  let attemptId ← requiredString fields "attempt_id"
  let exclusiveWindowSha256 ← requiredString fields "exclusive_window_sha256"
  let exclusiveBillingHourStarts ←
    requiredDatetimes texts fields "exclusive_billing_hour_starts"
  let attemptedAt ← requiredDatetime texts fields "attempted_at"
  let billableCoverageUntil ← requiredDatetime texts fields "billable_coverage_until"
  let billingWindowFrom ← requiredDatetime texts fields "billing_window_from"
  let billingWindowUntil ← requiredDatetime texts fields "billing_window_until"
  let acceptedCostCeilingUsd ← requiredDecimal fields "accepted_cost_ceiling_usd"
  let endpointHourCosts ← requiredHourCosts texts fields "endpoint_hour_costs"
  let amounts ← requiredAmounts fields
  let cappedCostUsd ← requiredDecimal fields "capped_cost_usd"
  let operatorLossUsd ← requiredDecimal fields "operator_loss_usd"
  let reconciledAt ← requiredDatetime texts fields "reconciled_at"
  WindowReceipt.build {
    toHourAmounts := amounts
    providerQuoteId := providerQuoteId
    endpointProfileSha256 := endpointProfileSha256
    endpointId := endpointId
    attemptId := attemptId
    exclusiveWindowSha256 := exclusiveWindowSha256
    exclusiveBillingHourStarts := exclusiveBillingHourStarts
    attemptedAt := attemptedAt
    billableCoverageUntil := billableCoverageUntil
    billingWindowFrom := billingWindowFrom
    billingWindowUntil := billingWindowUntil
    acceptedCostCeilingUsd := acceptedCostCeilingUsd
    endpointHourCosts := endpointHourCosts
    cappedCostUsd := cappedCostUsd
    operatorLossUsd := operatorLossUsd
    schemaVersion := schemaVersion
    contractVersion := contractVersion
    providerBillingId := providerBillingId
    reconciledAt := reconciledAt }

/-- `==` of two hour costs. -/
def HourCost.sameAs (a b : HourCost) : Bool :=
  a.toHourAmounts.sameAs b.toHourAmounts &&
    a.providerObservationId = b.providerObservationId && a.endpointId = b.endpointId &&
    a.utcHourStart = b.utcHourStart && a.utcHourEnd = b.utcHourEnd

/-- `==` of two receipts. -/
def WindowReceipt.sameAs (a b : WindowReceipt) : Bool :=
  a.toHourAmounts.sameAs b.toHourAmounts && a.schemaVersion = b.schemaVersion &&
    a.contractVersion = b.contractVersion && a.providerBillingId = b.providerBillingId &&
    a.providerQuoteId = b.providerQuoteId &&
    a.endpointProfileSha256 = b.endpointProfileSha256 && a.endpointId = b.endpointId &&
    a.attemptId = b.attemptId && a.exclusiveWindowSha256 = b.exclusiveWindowSha256 &&
    a.exclusiveBillingHourStarts = b.exclusiveBillingHourStarts &&
    a.attemptedAt = b.attemptedAt && a.billableCoverageUntil = b.billableCoverageUntil &&
    a.billingWindowFrom = b.billingWindowFrom && a.billingWindowUntil = b.billingWindowUntil &&
    a.acceptedCostCeilingUsd.value = b.acceptedCostCeilingUsd.value &&
    a.endpointHourCosts.isEqv b.endpointHourCosts HourCost.sameAs &&
    a.cappedCostUsd.value = b.cappedCostUsd.value &&
    a.operatorLossUsd.value = b.operatorLossUsd.value && a.reconciledAt = b.reconciledAt

end KestrelRunpod.Serverless
