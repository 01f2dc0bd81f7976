import KestrelRunpod.Serverless.Expiry
import KestrelRunpod.Serverless.Cleanup

/-!
# Billing of an endpoint's whole life

The billing window of a retired endpoint starts at the receipt's `createStartedAt`.  An
activation reads it right before its create; an adoption reads it when it has found the endpoint.
-/

namespace KestrelRunpod.Serverless

open Interleave Catalog Numeric
open Traverse (except_bind_ok)

variable {d : Digests} {h : Past d}

/-! ## Hours -/

theorem billingHourBounds_ok {startedAt coverageUntil : Instant} {window : Instant × Instant}
    (ok : billingHourBounds startedAt coverageUntil = .ok window) :
    window = (hourStart startedAt, hourEnd coverageUntil) := by
  unfold billingHourBounds at ok
  split at ok
  · cases ok
  · cases ok
    rfl

/-- A chain of hours has every hour between its ends. -/
theorem chainHours_covers {endpointId : String} {items : List HourCost} {cursor last : Instant}
    {seen : List String} (chain : chainHours endpointId cursor seen items = .ok last)
    (aligned : cursor % hour = 0) {u : Instant} (whole : u % hour = 0) (after : cursor ≤ u)
    (before : u < last) : ∃ item ∈ items, item.utcHourStart = u := by
  induction items generalizing cursor seen with
  | nil =>
      cases chain
      exact absurd before (not_lt.mpr after)
  | cons item items ih =>
      unfold chainHours at chain
      split at chain
      · cases chain
      · rename_i follows
        simp only [ne_eq, not_or, not_not] at follows
        have checked := item.checked
        unfold HourCostFields.check at checked
        simp only [↓refuse_bind_ok, except_bind_ok, not_or, ne_eq, not_not] at checked
        obtain ⟨-, -, -, -, ⟨-, ends⟩, -⟩ := checked
        rw [follows.2.1] at ends
        rcases after.lt_or_eq with later | same
        · have onward : item.utcHourEnd % hour = 0 := by
            rw [ends]
            unfold hour seconds at *
            unfold Instant at *
            omega
          have next : item.utcHourEnd ≤ u := by
            rw [ends]
            unfold hour seconds at *
            unfold Instant at *
            omega
          obtain ⟨found, held, is⟩ := ih chain onward next
          exact ⟨found, List.mem_cons_of_mem _ held, is⟩
        · exact ⟨item, List.mem_cons_self, follows.2.1.trans same⟩

/-! ## Lives -/

/-- The endpoint came into being at `t`, after its create had gone out. -/
def CreatedIn (h : Past d) (t : Instant) : Prop :=
  ∃ earlier createRequest, ⟨.send (.createEndpoint createRequest), ()⟩ :: earlier <:+ h ∧
    ∀ s, ⟨.now, s⟩ ∈ earlier → s ≤ t

/-- How an endpoint that came into being at `createdAt` got its activation receipt: from the
activation itself, or from an adoption, at the instant stated, after an activation that was
interrupted once its create had gone out. -/
inductive Activated (request : QuoteRequest) (quote : CapacityQuote) (createdAt : Instant) :
    Option Instant → ActivationReceipt d → Prop
  | activated {acceptedCostCeilingUsd : Decimal} {history : Past d}
      {receipt : ActivationReceipt d}
      (ends : (activatePlannedEndpoint request quote acceptedCostCeilingUsd none).Ends []
        history (.ok receipt))
      (created : CreatedIn history createdAt) : Activated request quote createdAt none receipt
  | adopted {acceptedCostCeilingUsd : Decimal} {partly history : Past d}
      {rest : Co d (ActivationReceipt d)} {adoptedAt : Instant} {receipt : ActivationReceipt d}
      (reach : (activatePlannedEndpoint request quote acceptedCostCeilingUsd none).Reaches []
        partly rest)
      (created : CreatedIn partly createdAt)
      (ends : (adoptPlannedEndpoint request quote).Ends [] history (.ok receipt))
      (read : lastClock history = some adoptedAt) (later : createdAt ≤ adoptedAt) :
      Activated request quote createdAt (some adoptedAt) receipt

/-- The billing of the retired endpoint covers its life: the window starts no later than the
hour in which it was created and ends no earlier than its absence was verified, and the
receipt has a cost for every hour of that life. -/
def CoversLife (retired : RetiredReceipt d) (createdAt : Instant) : Prop :=
  ∃ window, retired.billingWindow = .ok window ∧ window.1 ≤ hourStart createdAt ∧
    retired.cleanup.verifiedAbsentAt ≤ window.2 ∧
    ∀ u, u % hour = 0 → hourStart createdAt ≤ u → u < retired.cleanup.verifiedAbsentAt →
      ∃ item ∈ retired.endpointHourCosts, item.utcHourStart = u

section

variable {request : QuoteRequest} {quote : CapacityQuote} {createdAt : Instant}

/-- The receipt states the activation's own start, or the instant of the adoption. -/
theorem Activated.started {adopted : Option Instant} {receipt : ActivationReceipt d}
    (life : Activated request quote createdAt adopted receipt) :
    (adopted = none → receipt.createStartedAt ≤ createdAt) ∧
      ∀ t, adopted = some t → receipt.createStartedAt = t ∧ createdAt ≤ t := by
  cases life with
  | @activated ceiling history receipt ends created =>
      refine ⟨fun _ => ?_, fun t is => (by cases is)⟩
      have walk := activatePlannedEndpoint_ensures (d := d) request quote ceiling none
      obtain ⟨before, first, stamp⟩ :=
        ((ends.obeys (fun _ _ => trivial) walk).1 receipt rfl).2 rfl
      obtain ⟨earlier, second, sent, reads⟩ := created
      -- each create of the history has the same seven events before it
      have length : ∀ older r, ⟨.send (.createEndpoint r), ()⟩ :: older <:+ history →
          older.length = 7 := by
        rintro older r ⟨later, split⟩
        obtain ⟨-, _, _, _, _, _, _, rfl, -⟩ := ends.reaches.permitted (fun _ _ => trivial)
          walk.safe split.symm List.nil_suffix
        rfl
      have one := length _ _ stamp
      have other := length _ _ sent
      have same := List.suffix_of_suffix_length_le stamp sent (by simp [one, other])
      have is := same.eq_of_length (by simp [one, other])
      rw [List.cons.injEq] at is
      exact reads _ (by rw [← is.2]; exact List.mem_cons_self)
  | @adopted ceiling partly history rest adoptedAt receipt reach created ends read later =>
      refine ⟨fun is => (by cases is), fun t is => ?_⟩
      cases is
      have walk := adoptPlannedEndpoint_ensures (d := d) request quote
      have stamp := ((ends.obeys (fun _ _ => trivial) walk).1 receipt rfl).2
      cases history with
      | nil => cases stamp
      | cons e older =>
          cases stamp
          cases read
          exact ⟨rfl, later⟩

/-- What a retired receipt's hours are. -/
theorem RetiredReceipt.hours (retired : RetiredReceipt d) :
    ∃ window, retired.billingWindow = .ok window ∧
      window = (hourStart retired.activation.createStartedAt,
        hourEnd retired.cleanup.verifiedAbsentAt) ∧
      chainHours retired.activation.endpointId window.1 [] retired.endpointHourCosts =
        .ok window.2 := by
  have checked := retired.checked
  unfold RetiredFields.check at checked
  simp only [↓refuse_bind_ok, except_bind_ok, refuse_ok, ne_eq, not_not] at checked
  obtain ⟨_, -, _, -, -, window, bounds, -, -, cursor, chain, rfl⟩ := checked
  exact ⟨window, bounds, billingHourBounds_ok bounds, chain⟩

/-- A retired receipt covers what comes after the start that its activation states. -/
theorem RetiredReceipt.covers (retired : RetiredReceipt d) :
    CoversLife retired createdAt ↔
      hourStart retired.activation.createStartedAt ≤ hourStart createdAt := by
  obtain ⟨window, bounds, rfl, chain⟩ := retired.hours
  constructor
  · rintro ⟨other, again, starts, -⟩
    rw [bounds] at again
    cases again
    exact starts
  · intro starts
    refine ⟨_, bounds, starts, le_hourEnd _, fun u whole after before => ?_⟩
    have aligned : hourStart retired.activation.createStartedAt % hour = 0 := by
      unfold hourStart hour seconds
      unfold Instant at *
      omega
    exact chainHours_covers chain aligned whole (starts.trans after)
      (lt_of_lt_of_le before (le_hourEnd _))

theorem RetiredReceipt.build_fields {r : RetiredFields d} {retired : RetiredReceipt d}
    (ok : RetiredReceipt.build r = .ok retired) : retired.toRetiredFields = r := by
  unfold RetiredReceipt.build at ok
  split at ok
  · cases ok
    rfl
  · cases ok

/-- The billing of a retired endpoint is about the activation and the cleanup it was given. -/
theorem retiredEndpointBilling_ends {texts : BillingTexts} {batchHours : Nat}
    {activation : ActivationReceipt d} {cleanup : CleanupReceipt d} {h h' : Past d}
    {retired : RetiredReceipt d}
    (ends : (retiredEndpointBilling texts batchHours request quote activation cleanup).Ends h h'
      (.ok (some retired))) :
    retired.activation = activation ∧ retired.cleanup = cleanup := by
  unfold retiredEndpointBilling at ends
  rcases Program.ends_bind.mp ends with ⟨_, _, -, ends⟩ | ⟨_, -, is⟩
  swap
  · cases is
  rcases Program.ends_bind.mp ends with ⟨_, _, -, ends⟩ | ⟨_, -, is⟩
  swap
  · cases is
  rcases Program.ends_bind.mp ends with ⟨_, _, -, ends⟩ | ⟨_, -, is⟩
  swap
  · cases is
  rcases Program.ends_bind.mp ends with ⟨_, _, -, ends⟩ | ⟨_, -, is⟩
  swap
  · cases is
  rcases Program.ends_bind.mp ends with ⟨_, costs, -, ends⟩ | ⟨_, -, is⟩
  swap
  · cases is
  cases costs with
  | none => cases ends
  | some costs =>
      rcases Program.ends_bind.mp ends with ⟨_, reconciledAt, -, ends⟩ | ⟨_, -, is⟩
      swap
      · cases is
      rcases Program.ends_bind.mp ends with ⟨_, receipt, made, ends⟩ | ⟨_, -, is⟩
      swap
      · cases is
      cases ends
      have fields := RetiredReceipt.build_fields (Program.ends_ofExcept.mp made).2.symm
      rw [fields]
      exact ⟨rfl, rfl⟩

/-- **Retired billing can miss the first hours.**  The billing of a retired endpoint covers its
whole life exactly when its activation receipt is the activation's own, or the adoption took
place in the hour in which the endpoint was created: an adoption states its own instant as the
start. -/
theorem retired_billing_covers_life {adopted : Option Instant} {activation : ActivationReceipt d}
    (life : Activated request quote createdAt adopted activation) (cleanup : CleanupReceipt d)
    (texts : BillingTexts) (batchHours : Nat) {history : Past d} {retired : RetiredReceipt d}
    (bills : (retiredEndpointBilling texts batchHours request quote activation cleanup).Ends []
      history (.ok (some retired))) :
    CoversLife retired createdAt ↔ ∀ t, adopted = some t → hourStart t = hourStart createdAt := by
  obtain ⟨own, adopts⟩ := life.started
  rw [RetiredReceipt.covers, (retiredEndpointBilling_ends bills).1]
  cases adopted with
  | none =>
      have starts := hourStart_mono (own rfl)
      exact ⟨fun _ t is => (by cases is), fun _ => starts⟩
  | some t =>
      obtain ⟨started, later⟩ := adopts t rfl
      rw [started]
      constructor
      · intro covers other is
        cases is
        exact le_antisymm covers (hourStart_mono later)
      · intro same
        exact le_of_eq (same t rfl)

end

/-! ### Sample lives -/

namespace Sample

/-- The hours of the sample, as the provider writes them. -/
def hourTexts : List (Instant × String) :=
  [(0, "1970-01-01T00:00:00+00:00"), (hour, "1970-01-01T01:00:00+00:00"),
    (2 * hour, "1970-01-01T02:00:00+00:00"), (3 * hour, "1970-01-01T03:00:00+00:00")]

def texts : BillingTexts where
  fromIsoFormat value :=
    ((hourTexts.find? fun entry => entry.2 = value).map fun entry => .aware entry.1).getD .invalid
  observation _ := hex 'c'
  observation_hex _ := by decide +kernel

/-- One dollar of GPU time. -/
def amounts : List (String × Json) :=
  [("totalAmount", .int 1), ("gpuAmount", .int 1), ("cpuAmount", .int 0), ("diskAmount", .int 0),
    ("feeAmount", .int 0)]

/-- A page with the record of the one hour that is asked for. -/
def page (startTime endTime : Instant) : BillingPage :=
  let text := fun t : Instant =>
    Json.str (((hourTexts.find? fun entry => entry.1 = t).map Prod.snd).getD "")
  let span := [("startTime", text startTime), ("endTime", text endTime),
    ("serverlessId", .str "id-1")]
  { records := [span ++ amounts]
    metadata := [("query", .obj (("bucketSize", .str "hour") :: span)), ("recordCount", .int 1),
      ("uniqueServerlessCount", .int 1), ("totals", .obj amounts)] }

/-- A provider with the endpoint, until it is deleted. -/
def provides (c : Instant) (h : Past digests) : (op : Op digests) → op.Reply
  | .recv .listEndpoints => .ok (if h.any fun e => match e.op with
      | .send (.deleteEndpoint _) => true
      | _ => false then [] else [endpoint])
  | .recv (.getEndpoint id) => retires (!h.any fun e => match e.op with
      | .send (.deleteEndpoint _) => true
      | _ => false) c h (.recv (.getEndpoint id))
  | .recv (.serverlessBilling startTime endTime _) => .ok (page startTime endTime)
  | op => retires true c h op

/-- The sample activation, up to its create. -/
def creating : Past digests × Co digests (ActivationReceipt digests) :=
  Program.play losesAnswer 8 (activatePlannedEndpoint request quote quote.costCeilingUsd none) []

/-- The endpoint of the sample is created seven microseconds into the first hour. -/
theorem created : CreatedIn creating.1 7 := by
  have evaluated : creates creating.1 ≠ [] ∧ Ascending 0 creating.1 ∧ latest 0 creating.1 ≤ 7 := by
    decide +kernel
  obtain ⟨sent, ascending, before⟩ := evaluated
  obtain ⟨createRequest, held⟩ := List.exists_mem_of_ne_nil _ sent
  obtain ⟨later, earlier, split⟩ := List.append_of_mem (mem_creates held)
  refine ⟨earlier, createRequest, ⟨later, split.symm⟩, fun s read => ?_⟩
  have within : ⟨.now, s⟩ ∈ creating.1 := by
    rw [split]
    exact List.mem_append_right _ (List.mem_cons_of_mem _ read)
  exact (latest_mem ascending within).trans before

/-- The adoption of its endpoint, from the clock `c` on. -/
def adopting (c : Instant) : Past digests × Co digests (ActivationReceipt digests) :=
  Program.play (provides c) 20 (adoptPlannedEndpoint request quote) []

/-- The cleanup of the adopted endpoint. -/
def cleaning (c : Instant) (activation : ActivationReceipt digests) :
    Past digests × Co digests (CleanupReceipt digests) :=
  Program.play (provides (c + 100)) 40 (cleanupPlannedEndpoint request quote activation none none
    true) []

/-- Its billing, once the last hour has passed. -/
def billing (activation : ActivationReceipt digests) (cleanup : CleanupReceipt digests) :
    Past digests × Co digests (Option (RetiredReceipt digests)) :=
  Program.play (provides (3 * hour)) 40 (retiredEndpointBilling texts 24 request quote activation
    cleanup) []

/-- The receipt at the end of a life that was adopted from the clock `c` on. -/
def retiring (c : Instant) : Option (RetiredReceipt digests) := do
  let activation ← (adopting c).2.value
  let cleanup ← (cleaning c activation).2.value
  let retired ← (billing activation cleanup).2.value
  retired

theorem retires_adopted {c t : Instant} {retired : RetiredReceipt digests}
    (is : retiring c = some retired) (read : lastClock (adopting c).1 = some t) (later : 7 ≤ t) :
    ∃ activation cleanup history, Activated request quote 7 (some t) activation ∧
      (retiredEndpointBilling texts 24 request quote activation cleanup).Ends [] history
        (.ok (some retired)) := by
  obtain ⟨activation, adopts, is⟩ := Option.bind_eq_some_iff.mp is
  obtain ⟨cleanup, cleans, is⟩ := Option.bind_eq_some_iff.mp is
  obtain ⟨billed, bills, rfl⟩ := Option.bind_eq_some_iff.mp is
  have reach := Program.play_reaches losesAnswer 8
    (activatePlannedEndpoint request quote quote.costCeilingUsd none) []
  exact ⟨activation, cleanup, _,
    .adopted reach created (Program.play_ends adopts) read later, Program.play_ends bills⟩

end Sample

open Sample in
/-- A life that was adopted within its first hour. -/
theorem retired_billing_covers_life_adopted :
    ∃ (activation : ActivationReceipt digests) (retired : RetiredReceipt digests) (t : Instant),
      Activated request quote 7 (some t) activation ∧ CoversLife retired 7 := by
  have evaluated : (retiring 100).isSome = true ∧ lastClock (adopting 100).1 = some 104 := by
    decide +kernel
  obtain ⟨issued, read⟩ := evaluated
  obtain ⟨retired, is⟩ := Option.isSome_iff_exists.mp issued
  obtain ⟨activation, cleanup, history, life, bills⟩ := retires_adopted is read (by decide)
  refine ⟨activation, retired, 104, life, ?_⟩
  refine (retired_billing_covers_life life cleanup texts 24 bills).mpr fun t same => ?_
  cases same
  decide +kernel

open Sample in
/-- A life that was adopted two hours after its start is billed for its last hour only. -/
theorem adopted_life_uncovered :
    ∃ (activation : ActivationReceipt digests) (cleanup : CleanupReceipt digests) (t : Instant)
      (history : Past digests) (retired : RetiredReceipt digests),
      Activated request quote 7 (some t) activation ∧
      (retiredEndpointBilling texts 24 request quote activation cleanup).Ends [] history
        (.ok (some retired)) ∧ ¬ CoversLife retired 7 := by
  have evaluated : (retiring (2 * hour)).isSome = true ∧
      lastClock (adopting (2 * hour)).1 = some (2 * hour + 4) := by decide +kernel
  obtain ⟨issued, read⟩ := evaluated
  obtain ⟨retired, is⟩ := Option.isSome_iff_exists.mp issued
  obtain ⟨activation, cleanup, history, life, bills⟩ :=
    retires_adopted is read (by decide +kernel)
  refine ⟨activation, cleanup, _, history, retired, life, bills, ?_⟩
  rw [RetiredReceipt.covers, (retiredEndpointBilling_ends bills).1,
    (life.started.2 _ rfl).1]
  decide +kernel

end KestrelRunpod.Serverless
