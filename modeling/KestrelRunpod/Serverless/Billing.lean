import KestrelRunpod.Numeric.Tiling
import KestrelRunpod.Serverless.Receipts

/-!
# Serverless endpoint billing

The whole UTC hours that an endpoint's life touches, the provider's hourly billing records,
and the receipt of a retired endpoint.  `parseDatetime` rests on `datetime.fromisoformat`,
which is a parameter.
-/

namespace KestrelRunpod.Serverless

open Numeric Tiling

/-! ## Hours -/

/-- One hour of the service clock. -/
def hour : Int := seconds 3600

/-- The start of the UTC hour that contains `t`. -/
def hourStart (t : Instant) : Instant := t - t % hour

/-- The first UTC hour boundary that is not before `t`. -/
def hourEnd (t : Instant) : Instant := if t = hourStart t then t else hourStart t + hour

/-- `billing_hour_bounds`. -/
def billingHourBounds (startedAt coverageUntil : Instant) : Except Exn (Instant × Instant) :=
  if coverageUntil ≤ startedAt then .error (.valueError "Billing coverage interval is invalid")
  else .ok (hourStart startedAt, hourEnd coverageUntil)

/-- The whole UTC hours of a window. -/
structure HourWindow (first windowUntil : Instant) : Prop where
  start : first % hour = 0
  stop : windowUntil % hour = 0
  open_ : first < windowUntil

theorem hour_pos : 0 < hour := by decide

theorem hourStart_le (t : Instant) : hourStart t ≤ t := by
  have nonneg : 0 ≤ t % hour := Int.emod_nonneg t (by decide)
  unfold hourStart
  unfold Instant at *
  omega

theorem hourStart_mono {s t : Instant} (le : s ≤ t) : hourStart s ≤ hourStart t := by
  unfold hourStart hour seconds
  unfold Instant at *
  omega

theorem le_hourEnd (t : Instant) : t ≤ hourEnd t := by
  unfold hourEnd hourStart hour seconds
  unfold Instant at *
  split <;> omega

theorem hourStart_eq_iff (t : Instant) : t = hourStart t ↔ t % hour = 0 := by
  unfold hourStart
  generalize t % hour = rest
  constructor <;> intro is <;> (unfold Instant at *; omega)

variable {first windowUntil : Instant}

theorem HourWindow.grid (window : HourWindow first windowUntil) {t : Instant} :
    Grid hour first windowUntil t ↔ first ≤ t ∧ t < windowUntil ∧ t % hour = 0 := by
  have start := Int.dvd_of_emod_eq_zero window.start
  refine and_congr_right fun _ => and_congr_right fun _ => ?_
  rw [← Int.dvd_iff_emod_eq_zero]
  constructor
  · intro apart
    have whole := Int.dvd_add apart start
    rwa [Int.sub_add_cancel] at whole
  · intro whole
    exact Int.dvd_sub whole start

/-- Different hours of the window are one apart. -/
theorem hours_apart {s t : Instant} (alignedS : s % hour = 0) (alignedT : t % hour = 0)
    (less : s < t) : s + hour ≤ t :=
  step_le hour_pos less
    (Int.dvd_sub (Int.dvd_of_emod_eq_zero alignedT) (Int.dvd_of_emod_eq_zero alignedS))

/-- The window of a lifecycle is whole hours. -/
theorem billingHourBounds_window {startedAt coverageUntil : Instant}
    (life : startedAt < coverageUntil) :
    HourWindow (hourStart startedAt) (hourEnd coverageUntil) := by
  unfold hourEnd hourStart hour seconds
  constructor
  · unfold hour seconds
    unfold Instant at *
    omega
  · unfold hour seconds
    unfold Instant at *
    split <;> omega
  · unfold Instant at *
    split <;> omega

/-! ## Hour costs -/

/-- What `provider_observation_id` digests. -/
structure HourObservation where
  startTime : Instant
  endTime : Instant
  serverlessId : String
  totalAmount : Decimal
  gpuAmount : Decimal
  cpuAmount : Decimal
  diskAmount : Decimal
  feeAmount : Decimal
  deriving DecidableEq

/-- The amounts of one billing record. -/
structure HourAmounts where
  gpuCostUsd : Decimal
  cpuCostUsd : Decimal
  diskCostUsd : Decimal
  feeCostUsd : Decimal
  actualCostUsd : Decimal
  deriving DecidableEq

structure HourCostFields extends HourAmounts where
  providerObservationId : String
  endpointId : String
  utcHourStart : Instant
  utcHourEnd : Instant
  deriving DecidableEq

/-- `ServerlessEndpointHourCost.__post_init__`. -/
def HourCostFields.check (c : HourCostFields) : Except Exn Unit := do
  safeIdentifier c.providerObservationId "provider_observation_id"
  safeIdentifier c.endpointId "endpoint_id"
  refuse (c.utcHourStart % hour ≠ 0 ∨ c.utcHourEnd ≠ c.utcHourStart + hour)
    (.valueError "Serverless endpoint-hour cost must cover exactly one UTC hour")
  nonnegativeDecimal c.gpuCostUsd "gpu_cost_usd"
  nonnegativeDecimal c.cpuCostUsd "cpu_cost_usd"
  nonnegativeDecimal c.diskCostUsd "disk_cost_usd"
  nonnegativeDecimal c.feeCostUsd "fee_cost_usd"
  nonnegativeDecimal c.actualCostUsd "actual_cost_usd"
  refuse (c.actualCostUsd.value ≠
      (Decimal.exactSum [c.gpuCostUsd, c.cpuCostUsd, c.diskCostUsd, c.feeCostUsd]).value)
    (.valueError "Serverless endpoint-hour cost components do not equal total")

/-- `ServerlessEndpointHourCost`. -/
structure HourCost extends HourCostFields where
  checked : toHourCostFields.check = .ok ()
  deriving DecidableEq

/-- Construct an hour cost, or fail as `__post_init__` does. -/
def HourCost.build (c : HourCostFields) : Except Exn HourCost :=
  match checked : c.check with
  | .ok () => .ok ⟨c, checked⟩
  | .error x => .error x

/-- `serverless_endpoint_hour_cost_totals`. -/
def hourCostTotals (costs : List HourCost) : HourAmounts where
  gpuCostUsd := Decimal.exactSum (costs.map fun c => c.gpuCostUsd)
  cpuCostUsd := Decimal.exactSum (costs.map fun c => c.cpuCostUsd)
  diskCostUsd := Decimal.exactSum (costs.map fun c => c.diskCostUsd)
  feeCostUsd := Decimal.exactSum (costs.map fun c => c.feeCostUsd)
  actualCostUsd := Decimal.exactSum (costs.map fun c => c.actualCostUsd)

/-! ## Retired endpoints -/

variable {d : Digests}

structure RetiredFields (d : Digests) where
  schemaVersion : Int
  contractVersion : String
  activation : ActivationReceipt d
  cleanup : CleanupReceipt d
  endpointHourCosts : List HourCost
  reconciledAt : Instant

/-- `billing_window`. -/
def RetiredFields.billingWindow (r : RetiredFields d) : Except Exn (Instant × Instant) :=
  billingHourBounds r.activation.createStartedAt r.cleanup.verifiedAbsentAt

/-- The loop of the retired receipt's `__post_init__`: the hours follow one another from
`cursor`, and no observation is repeated. -/
def chainHours (endpointId : String) : Instant → List String → List HourCost → Except Exn Instant
  | cursor, _, [] => .ok cursor
  | cursor, observed, item :: rest =>
      if item.endpointId ≠ endpointId ∨ item.utcHourStart ≠ cursor ∨
          item.providerObservationId ∈ observed then
        .error (.valueError "Retired Serverless billing hours are inconsistent")
      else chainHours endpointId item.utcHourEnd (item.providerObservationId :: observed) rest

/-- `ServerlessRetiredEndpointBillingReceipt.__post_init__`. -/
def RetiredFields.check (r : RetiredFields d) : Except Exn Unit := do
  supported r.schemaVersion r.contractVersion "Retired Serverless billing"
  r.cleanup.validateActivation r.activation
  refuse (r.cleanup.workersZeroObservedAt < r.activation.readbackAt)
    (.valueError "Serverless cleanup precedes activation readback")
  let window ← r.billingWindow
  refuse (r.reconciledAt < window.2)
    (.valueError "Retired Serverless billing window is still open")
  refuse (r.endpointHourCosts.isEmpty = true)
    (.valueError "Retired Serverless billing requires endpoint-hour costs")
  let cursor ← chainHours r.activation.endpointId window.1 [] r.endpointHourCosts
  refuse (cursor ≠ window.2)
    (.valueError "Retired Serverless billing does not cover its lifecycle")

/-- `ServerlessRetiredEndpointBillingReceipt`. -/
structure RetiredReceipt (d : Digests) extends RetiredFields d where
  checked : toRetiredFields.check = .ok ()

/-- Construct a retired-endpoint receipt, or fail as `__post_init__` does. -/
def RetiredReceipt.build (r : RetiredFields d) : Except Exn (RetiredReceipt d) :=
  match checked : r.check with
  | .ok () => .ok ⟨r, checked⟩
  | .error x => .error x

/-- `actual_cost_usd`. -/
def RetiredReceipt.actualCostUsd (r : RetiredReceipt d) : Decimal :=
  (hourCostTotals r.endpointHourCosts).actualCostUsd

/-! ## Provider billing pages -/

/-- What `datetime.fromisoformat` makes of a text; an aware time may denote an instant that no
UTC `datetime` does. -/
inductive ParsedTime
  | aware (t : Instant)
  | naive
  | invalid
  deriving DecidableEq

/-- `datetime.min` and `datetime.max`, in UTC. -/
def calendarMin : Instant := -62135596800 * 1000000

def calendarMax : Instant := 253402300800 * 1000000 - 1

/-- `value.astimezone(UTC)`. -/
def astimezone (t : Instant) : Except Exn Instant :=
  if calendarMin ≤ t ∧ t ≤ calendarMax then .ok t else .error (.other "OverflowError")

/-- The texts and digests that billing reads and writes. -/
structure BillingTexts where
  fromIsoFormat : String → ParsedTime
  observation : HourObservation → String
  observation_hex : ∀ o, Pod.isSha256 (observation o) = true

/-- `BillingPage`. -/
structure BillingPage where
  records : List (List (String × Json))
  metadata : List (String × Json)

variable (texts : BillingTexts)

/-- `parse_datetime`. -/
def parseDatetime (value : String) : Except Exn Instant :=
  match texts.fromIsoFormat value with
  | .aware t => astimezone t
  | .naive =>
      .error (.valueError "Serverless capacity stored timestamp must be timezone-aware")
  | .invalid => .error (.manager "Stored Serverless timestamp is invalid")

/-- `_string`. -/
def Json.text (value : Json) (context : String) : Except Exn String :=
  match value with
  | .str s => if s = "" then .error (.manager ("Invalid Runpod " ++ context)) else .ok s
  | _ => .error (.manager ("Invalid Runpod " ++ context))

/-- `_exact_keys`. -/
def exactKeys (fields : List (String × Json)) (keys : List String) (context : String) :
    Except Exn Unit :=
  refuse (Json.hasKeys fields keys = false)
    (.manager ("Runpod " ++ context ++ " contains missing or unsupported fields"))

/-- `Decimal(billing_identity_amount(amount))`. -/
def canonicalAmount (amount : Decimal) : Decimal :=
  if amount.coefficient = 0 then ⟨0, 0⟩
  else if 0 ≤ amount.exponent then ⟨amount.scaledTo 0, 0⟩
  else Decimal.stripped (-amount.exponent).toNat amount

/-- One amount of `billing_amounts`. -/
def billingAmount (fields : List (String × Json)) (context name : String) : Except Exn Decimal :=
  (Json.get fields name).decimal (context ++ "." ++ name) |>.map canonicalAmount

theorem canonicalAmount_nonneg {amount : Decimal} (nonneg : 0 ≤ amount.coefficient) :
    0 ≤ (canonicalAmount amount).coefficient := by
  unfold canonicalAmount
  split
  · exact le_refl 0
  · split
    · exact Decimal.scaledTo_nonneg nonneg
    · exact Decimal.stripped_nonneg nonneg

theorem billingAmount_nonneg {fields : List (String × Json)} {context name : String}
    {amount : Decimal} (ok : billingAmount fields context name = .ok amount) :
    0 ≤ amount.value := by
  have read : ∀ {value : Json} {context : String} {amount : Decimal},
      value.decimal context = .ok amount → 0 ≤ amount.coefficient := by
    intro value context amount ok
    unfold Json.decimal at ok
    split at ok
    · split at ok
      · cases ok
      · cases ok
        rename_i n negative
        exact not_lt.mp negative
    · split at ok
      · cases ok
      · cases ok
        rename_i x negative
        exact Decimal.ofFloat_nonneg (not_lt.mp negative)
    · cases ok
  unfold billingAmount at ok
  cases plain : (Json.get fields name).decimal (context ++ "." ++ name) with
  | error x =>
      rw [plain] at ok
      cases ok
  | ok amount' =>
      rw [plain] at ok
      cases ok
      exact Decimal.nonneg_of_coefficient (canonicalAmount_nonneg (read plain))

/-- `_amounts_from_mapping`. -/
def amountsFromMapping (fields : List (String × Json)) (context : String) :
    Except Exn HourAmounts := do
  let total ← billingAmount fields context "totalAmount"
  let gpu ← billingAmount fields context "gpuAmount"
  let cpu ← billingAmount fields context "cpuAmount"
  let disk ← billingAmount fields context "diskAmount"
  let fee ← billingAmount fields context "feeAmount"
  refuse (total.value ≠ (Decimal.exactSum [gpu, cpu, disk, fee]).value)
    (.manager ("Runpod " ++ context ++ " components do not equal total cost"))
  return ⟨gpu, cpu, disk, fee, total⟩

/-- One record of a billing page. -/
structure BillingRecord where
  recordFrom : Instant
  recordUntil : Instant
  amounts : HourAmounts
  deriving DecidableEq

/-- `_BILLING_RECORD_KEYS`. -/
def billingRecordKeys : List String :=
  ["startTime", "endTime", "serverlessId", "totalAmount", "gpuAmount", "cpuAmount", "diskAmount",
    "feeAmount"]

/-- The record loop of `_authoritative_hour_costs`. -/
def parseRecord (endpointId : String) (fields : List (String × Json)) :
    Except Exn BillingRecord := do
  exactKeys fields billingRecordKeys "billing record"
  refuse (Json.isText endpointId (Json.get fields "serverlessId") = false)
    (.manager "Runpod billing record endpoint is mismatched")
  let startText ← (Json.get fields "startTime").text "billing record start"
  let recordFrom ← parseDatetime texts startText
  let endText ← (Json.get fields "endTime").text "billing record end"
  let recordUntil ← parseDatetime texts endText
  let amounts ← amountsFromMapping fields "billing record"
  return ⟨recordFrom, recordUntil, amounts⟩

/-- The hour cost of one record. -/
def recordHourCost (endpointId : String) (record : BillingRecord) : Except Exn HourCost :=
  let observation : HourObservation := {
    startTime := record.recordFrom
    endTime := record.recordUntil
    serverlessId := endpointId
    totalAmount := record.amounts.actualCostUsd
    gpuAmount := record.amounts.gpuCostUsd
    cpuAmount := record.amounts.cpuCostUsd
    diskAmount := record.amounts.diskCostUsd
    feeAmount := record.amounts.feeCostUsd }
  match HourCost.build {
      toHourAmounts := record.amounts
      providerObservationId := "runpod-serverless-hour:" ++ texts.observation observation
      endpointId := endpointId
      utcHourStart := record.recordFrom
      utcHourEnd := record.recordUntil } with
  | .error (.valueError _) =>
      .error (.manager "Runpod billing record is not an exact UTC hour")
  | outcome => outcome

/-- The cursor loop of `_authoritative_hour_costs`; `none` is an incomplete history. -/
def hourCostsFrom (endpointId : String) (windowUntil : Instant) :
    Instant → List BillingRecord → Except Exn (Option (List HourCost))
  | cursor, [] => .ok (if cursor < windowUntil then none else some [])
  | cursor, record :: rest => do
      refuse (record.recordUntil ≤ record.recordFrom)
        (.manager "Runpod billing record interval is invalid")
      if cursor < record.recordFrom ∧ record.recordFrom < windowUntil then return none
      refuse (record.recordFrom ≠ cursor)
        (.manager "Runpod billing records overlap or escape the window")
      refuse (windowUntil < record.recordUntil)
        (.manager "Runpod billing record exceeds the requested window")
      if record.recordUntil < record.recordFrom + hour then return none
      refuse (record.recordUntil ≠ record.recordFrom + hour)
        (.manager "Runpod hourly billing record does not cover exactly one hour")
      let cost ← recordHourCost texts endpointId record
      let others ← hourCostsFrom endpointId windowUntil record.recordUntil rest
      return others.map (cost :: ·)

/-- The two sets of amounts have equal values. -/
def HourAmounts.sameAs (a b : HourAmounts) : Bool :=
  a.gpuCostUsd.value = b.gpuCostUsd.value && a.cpuCostUsd.value = b.cpuCostUsd.value &&
    a.diskCostUsd.value = b.diskCostUsd.value && a.feeCostUsd.value = b.feeCostUsd.value &&
    a.actualCostUsd.value = b.actualCostUsd.value

/-- `_authoritative_hour_costs`. -/
def authoritativeHourCosts (page : BillingPage) (endpointId : String)
    (windowFrom windowUntil : Instant) : Except Exn (Option (List HourCost)) := do
  exactKeys page.metadata ["query", "recordCount", "uniqueServerlessCount", "totals"]
    "billing metadata"
  let query ← (Json.get page.metadata "query").mapping "billing metadata.query"
  let totals ← (Json.get page.metadata "totals").mapping "billing metadata.totals"
  exactKeys query ["startTime", "endTime", "bucketSize", "serverlessId"] "billing query"
  exactKeys totals ["totalAmount", "gpuAmount", "cpuAmount", "diskAmount", "feeAmount"]
    "billing totals"
  let mismatch : Exn := .manager "Runpod billing query echo does not match attempt"
  refuse (Json.isText endpointId (Json.get query "serverlessId") = false ∨
    Json.isText "hour" (Json.get query "bucketSize") = false) mismatch
  let startText ← (Json.get query "startTime").text "billing query start"
  let queryFrom ← parseDatetime texts startText
  refuse (queryFrom ≠ windowFrom) mismatch
  let endText ← (Json.get query "endTime").text "billing query end"
  let queryUntil ← parseDatetime texts endText
  refuse (queryUntil ≠ windowUntil) mismatch
  let recordCount ← (Json.get page.metadata "recordCount").integer "billing recordCount"
  let uniqueCount ← (Json.get page.metadata "uniqueServerlessCount").integer
    "billing uniqueServerlessCount"
  refuse (recordCount ≠ page.records.length)
    (.manager "Runpod billing record count is inconsistent")
  if page.records.isEmpty then
    refuse (uniqueCount ≠ 0 ∧ uniqueCount ≠ 1)
      (.manager "Runpod empty billing endpoint count is invalid")
    return none
  refuse (uniqueCount ≠ 1) (.manager "Runpod billing spans multiple Serverless endpoints")
  let parsed ← page.records.mapM (parseRecord texts endpointId)
  let ordered := parsed.mergeSort fun a b => a.recordFrom ≤ b.recordFrom
  match ← hourCostsFrom texts endpointId windowUntil windowFrom ordered with
  | none => return none
  | some costs =>
      let expectedTotals ← amountsFromMapping totals "billing totals"
      refuse ((hourCostTotals costs).sameAs expectedTotals = false)
        (.manager "Runpod billing totals do not equal its records")
      return some costs

end KestrelRunpod.Serverless
