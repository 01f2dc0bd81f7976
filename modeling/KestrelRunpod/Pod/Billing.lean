import KestrelRunpod.Serverless.Billing
import KestrelRunpod.Pod.Evidence

/-!
# Exact Pod billing

A Pod is billed from a page of provider records, one for each UTC hour that its life touches.
The reader waits for the last of these hours to close, and it makes a receipt only of a page
that answers the very query, speaks of this Pod alone, adds up, and has a whole record for
every hour (`ExactHours`).
-/

namespace KestrelRunpod.Pod

open Numeric
open Serverless (billingHourBounds hourStart hourEnd hour BillingPage ParsedTime)

/-! ## The page -/

/-- The same exception, raised by code that both kinds of capacity share. -/
def Exn.ofShared : Serverless.Exn → Exn
  | .cancelled => .cancelled
  | .valueError message => .valueError message
  | .manager message => .manager message
  | .other name => .other name
  | _ => .other "RunPodManagerError"

/-- Call shared billing code. -/
def shared {α : Type} : Except Serverless.Exn α → Except Exn α := Except.mapError Exn.ofShared

/-- `_keys`. -/
def billingKeys (value : Serverless.Json) (expected : List String) (context : String) :
    Except Exn (List (String × Serverless.Json)) :=
  match value with
  | .obj fields =>
      if Serverless.Json.hasKeys fields expected then .ok fields
      else .error (.manager ("Runpod " ++ context ++ " contains missing or unsupported fields"))
  | _ => .error (.manager ("Runpod " ++ context ++ " contains missing or unsupported fields"))

/-- `_timestamp`. -/
def billingTimestamp (fromIsoFormat : String → ParsedTime) (value : Serverless.Json) :
    Except Exn Instant :=
  match value with
  | .str text =>
      match fromIsoFormat text with
      | .aware t => shared (Serverless.astimezone t)
      | .naive => .error (.manager "Runpod Pod billing timestamp must include a timezone")
      | .invalid => .error (.manager "Runpod Pod billing timestamp is invalid")
  | _ => .error (.manager "Runpod Pod billing timestamp is missing")

/-- The amounts of a Pod billing record. -/
structure PodAmounts where
  totalAmount : Decimal
  gpuAmount : Decimal
  cpuAmount : Decimal
  diskAmount : Decimal
  deriving DecidableEq

/-- `billing_amounts`. -/
def podAmounts (fields : List (String × Serverless.Json)) (context : String) :
    Except Exn PodAmounts := do
  let total ← shared (Serverless.billingAmount fields context "totalAmount")
  let gpu ← shared (Serverless.billingAmount fields context "gpuAmount")
  let cpu ← shared (Serverless.billingAmount fields context "cpuAmount")
  let disk ← shared (Serverless.billingAmount fields context "diskAmount")
  refuse (total.value ≠ (Decimal.exactSum [gpu, cpu, disk]).value)
    (.manager ("Runpod " ++ context ++ " components do not equal total cost"))
  return ⟨total, gpu, cpu, disk⟩

/-- One record of the page. -/
structure PodHour where
  hourFrom : Instant
  hourUntil : Instant
  amounts : PodAmounts
  deriving DecidableEq

/-- The record loop of `_exact_hours`. -/
def parsePodHour (fromIsoFormat : String → ParsedTime) (podId : String)
    (row : List (String × Serverless.Json)) : Except Exn PodHour := do
  let row ← billingKeys (.obj row)
    ["podId", "startTime", "endTime", "totalAmount", "gpuAmount", "cpuAmount", "diskAmount"]
    "Pod billing record"
  refuse (Serverless.Json.isText podId (Serverless.Json.get row "podId") = false)
    (.manager "Runpod Pod billing record identity mismatch")
  let hourFrom ← billingTimestamp fromIsoFormat (Serverless.Json.get row "startTime")
  let hourUntil ← billingTimestamp fromIsoFormat (Serverless.Json.get row "endTime")
  let amounts ← podAmounts row "Pod billing record"
  return ⟨hourFrom, hourUntil, amounts⟩

/-- The totals that the records add up to. -/
def podHourTotals (hours : List PodHour) : PodAmounts where
  totalAmount := Decimal.exactSum (hours.map fun h => h.amounts.totalAmount)
  gpuAmount := Decimal.exactSum (hours.map fun h => h.amounts.gpuAmount)
  cpuAmount := Decimal.exactSum (hours.map fun h => h.amounts.cpuAmount)
  diskAmount := Decimal.exactSum (hours.map fun h => h.amounts.diskAmount)

/-- The two sets of amounts have equal values. -/
def PodAmounts.sameAs (a b : PodAmounts) : Bool :=
  a.totalAmount.value = b.totalAmount.value && a.gpuAmount.value = b.gpuAmount.value &&
    a.cpuAmount.value = b.cpuAmount.value && a.diskAmount.value = b.diskAmount.value

/-- The cursor loop of `_exact_hours`, with its flag of an incomplete history. -/
def closeHours (first windowUntil : Instant) : Instant → Bool → List PodHour → Except Exn Bool
  | cursor, incomplete, [] => .ok (incomplete || decide (cursor < windowUntil))
  | cursor, incomplete, item :: rest => do
      refuse (item.hourFrom < cursor ∨ item.hourFrom < first ∨ item.hourUntil ≤ item.hourFrom ∨
          windowUntil < item.hourUntil)
        (.manager "Runpod Pod billing hours overlap or escape coverage")
      refuse (item.hourFrom ≠ hourStart item.hourFrom)
        (.manager "Runpod Pod billing record is not an exact UTC hour")
      let short := decide (cursor < item.hourFrom ∨ item.hourUntil < item.hourFrom + hour)
      refuse (item.hourFrom + hour < item.hourUntil)
        (.manager "Runpod Pod billing record exceeds one hour")
      closeHours first windowUntil item.hourUntil (incomplete || short) rest

/-- `_exact_hours`; `none` is an incomplete history. -/
def exactHours (fromIsoFormat : String → ParsedTime) (page : BillingPage) (podId : String)
    (first windowUntil : Instant) : Except Exn (Option (List PodHour)) := do
  let metadata ← billingKeys (.obj page.metadata)
    ["query", "recordCount", "uniquePodCount", "totals"] "billing metadata"
  let query ← billingKeys (Serverless.Json.get metadata "query")
    ["startTime", "endTime", "bucketSize", "podId"] "billing query"
  let totals ← billingKeys (Serverless.Json.get metadata "totals")
    ["totalAmount", "gpuAmount", "cpuAmount", "diskAmount"] "billing totals"
  let mismatch : Exn :=
    .manager "Runpod Pod billing query echo differs from requested coverage"
  refuse (Serverless.Json.isText podId (Serverless.Json.get query "podId") = false ∨
    Serverless.Json.isText "hour" (Serverless.Json.get query "bucketSize") = false) mismatch
  let queryFrom ← billingTimestamp fromIsoFormat (Serverless.Json.get query "startTime")
  refuse (queryFrom ≠ first) mismatch
  let queryUntil ← billingTimestamp fromIsoFormat (Serverless.Json.get query "endTime")
  refuse (queryUntil ≠ windowUntil) mismatch
  countIs (Serverless.Json.get metadata "recordCount") page.records.length
    "Runpod Pod billing record count is inconsistent"
  countIs (Serverless.Json.get metadata "uniquePodCount")
    (if page.records.isEmpty then 0 else 1)
    "Runpod Pod billing unique Pod count is inconsistent"
  let expectedTotals ← podAmounts totals "billing totals"
  let parsed ← page.records.mapM (parsePodHour fromIsoFormat podId)
  refuse ((podHourTotals parsed).sameAs expectedTotals = false)
    (.manager "Runpod Pod billing totals do not equal its records")
  let ordered := parsed.mergeSort fun a b => a.hourFrom ≤ b.hourFrom
  let incomplete ← closeHours first windowUntil first parsed.isEmpty ordered
  return if incomplete then none else some ordered
where
  /-- `type(value) is int and value == n`. -/
  countIs (value : Serverless.Json) (n : Nat) (message : String) : Except Exn Unit :=
    match value with
    | .int m => if m = n then .ok () else .error (.manager message)
    | _ => .error (.manager message)

/-! ## The reader -/

/-- What `provider_billing_id` digests. -/
structure PodBillingIdentity where
  podId : String
  hourlyPriceUsd : ℚ
  hours : List PodHour

/-- The texts and digests that Pod billing reads and writes. -/
structure PodBillingTexts where
  fromIsoFormat : String → ParsedTime
  identity : PodBillingIdentity → String
  identity_hex : ∀ i, isSha256 (identity i) = true

variable (texts : PodBillingTexts)

theorem BillingReceipt.build_ok {fields : BillingReceiptFields} {receipt : BillingReceipt}
    (built : BillingReceipt.build fields = .ok receipt) :
    receipt.toBillingReceiptFields = fields := by
  unfold BillingReceipt.build at built
  split at built
  · cases built
    rfl
  · cases built

/-- The receipt of the hours. -/
def hoursReceipt (podId : String) (windowFrom windowUntil : Instant) (hourlyRateUsd : ℚ)
    (hours : List PodHour) (reconciledAt : Instant) : Except Exn BillingReceipt :=
  BillingReceipt.build {
    providerBillingId := "runpod-billing:" ++ texts.identity ⟨podId, hourlyRateUsd, hours⟩
    providerPodId := some podId
    billedFrom := windowFrom
    billedUntil := windowUntil
    billedSeconds := (windowUntil - windowFrom) / 1000000
    hourlyPriceUsd := hourlyRateUsd
    actualCostUsd := (Decimal.exactSum (hours.map fun h => h.amounts.totalAmount)).value
    reconciledAt := reconciledAt }

/-- `read_exact_pod_billing`, where the clock shows `observedAt` before the page is requested
and `reconciledAt` after it was read. -/
def readExactPodBilling (podId : String) (createdAt terminatedAt : Instant)
    (realizedHourlyRateUsd : ℚ) (observedAt : Instant) (response : Except Exn BillingPage)
    (reconciledAt : Instant) : Except Exn (Option BillingReceipt) := do
  safeIdentifier podId "billing pod_id"
  refuse (realizedHourlyRateUsd < 0)
    (.valueError "Pod billing realized hourly rate must be finite and nonnegative")
  let (windowFrom, windowUntil) ← shared (billingHourBounds createdAt terminatedAt)
  if observedAt < windowUntil then return none
  let page ← response
  match ← exactHours texts.fromIsoFormat page podId windowFrom windowUntil with
  | none => return none
  | some hours => do
      let receipt ← hoursReceipt texts podId windowFrom windowUntil realizedHourlyRateUsd hours
        reconciledAt
      return some receipt

end KestrelRunpod.Pod
