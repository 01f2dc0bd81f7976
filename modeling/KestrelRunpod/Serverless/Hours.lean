import Mathlib.Algebra.Order.BigOperators.Group.List
import KestrelRunpod.Numeric.Traverse
import KestrelRunpod.Serverless.Billing

/-!
# The hours of an endpoint bill

The reader of a billing page returns the hour costs exactly when the records are one whole
record for each hour of the window and the totals of the page are their sums, whatever order
they come in.  An incomplete history is another matter: the records are sorted by start only,
and the first of several records with one start decides.  Where one of them stops short and
another does not, the page is pending in one order and refused in another.

`Unanimous` says that no such group is reached; it is exactly the condition under which the
order of the records decides nothing and a pending page has an hour that no record covers
(`exactHours_iff`).
-/

namespace KestrelRunpod.Serverless

open Numeric Tiling Traverse

variable {texts : BillingTexts} {endpointId : String} {first windowUntil cursor c s : Instant}
  {r : BillingRecord} {records : List BillingRecord} {costs : List HourCost}

/-! ## The cost of a record -/

/-- A record that the record loop has read. -/
def Sound (texts : BillingTexts) (endpointId : String) (r : BillingRecord) : Prop :=
  ∃ fields, parseRecord texts endpointId fields = .ok r

/-- The record is one whole hour from `c` on. -/
def WholeHour (c : Instant) (r : BillingRecord) : Prop :=
  r.recordFrom = c ∧ r.recordUntil = c + hour

/-- The amounts of a mapping are not negative and add up. -/
theorem amountsFromMapping_ok {fields : List (String × Json)} {context : String}
    {amounts : HourAmounts} (ok : amountsFromMapping fields context = .ok amounts) :
    0 ≤ amounts.gpuCostUsd.coefficient ∧ 0 ≤ amounts.cpuCostUsd.coefficient ∧
      0 ≤ amounts.diskCostUsd.coefficient ∧ 0 ≤ amounts.feeCostUsd.coefficient ∧
      0 ≤ amounts.actualCostUsd.coefficient ∧
      amounts.actualCostUsd.value = (Decimal.exactSum [amounts.gpuCostUsd,
        amounts.cpuCostUsd, amounts.diskCostUsd, amounts.feeCostUsd]).value := by
  have nonneg : ∀ {name : String} {amount : Decimal},
      billingAmount fields context name = .ok amount → 0 ≤ amount.coefficient :=
    fun read => Decimal.coefficient_nonneg (billingAmount_nonneg read)
  unfold amountsFromMapping at ok
  obtain ⟨total, totalRead, ok⟩ := except_bind_ok.mp ok
  obtain ⟨gpu, gpuRead, ok⟩ := except_bind_ok.mp ok
  obtain ⟨cpu, cpuRead, ok⟩ := except_bind_ok.mp ok
  obtain ⟨disk, diskRead, ok⟩ := except_bind_ok.mp ok
  obtain ⟨fee, feeRead, ok⟩ := except_bind_ok.mp ok
  obtain ⟨sums, ok⟩ := refuse_bind_ok.mp ok
  cases ok
  exact ⟨nonneg gpuRead, nonneg cpuRead, nonneg diskRead, nonneg feeRead, nonneg totalRead,
    not_not.mp sums⟩

theorem Sound.amounts (sound : Sound texts endpointId r) :
    ∃ fields, amountsFromMapping fields "billing record" = .ok r.amounts := by
  obtain ⟨fields, ok⟩ := sound
  unfold parseRecord at ok
  obtain ⟨_, _, ok⟩ := except_bind_ok.mp ok
  obtain ⟨_, _, ok⟩ := except_bind_ok.mp ok
  obtain ⟨_, _, ok⟩ := except_bind_ok.mp ok
  obtain ⟨_, _, ok⟩ := except_bind_ok.mp ok
  obtain ⟨_, _, ok⟩ := except_bind_ok.mp ok
  obtain ⟨_, _, ok⟩ := except_bind_ok.mp ok
  obtain ⟨amounts, read, ok⟩ := except_bind_ok.mp ok
  cases ok
  exact ⟨fields, read⟩

theorem HourCost.build_of_check {fields : HourCostFields} (passed : fields.check = .ok ()) :
    HourCost.build fields = .ok ⟨fields, passed⟩ := by
  unfold HourCost.build
  split
  · rfl
  · rename_i x failed
    rw [passed] at failed
    cases failed

/-- A whole hour has a cost. -/
theorem Sound.cost (sound : Sound texts endpointId r)
    (safe : safeIdentifier endpointId "endpoint_id" = .ok ()) (aligned : c % hour = 0)
    (whole : WholeHour c r) :
    ∃ cost, recordHourCost texts endpointId r = .ok cost ∧
      cost.utcHourStart = c ∧ cost.utcHourEnd = c + hour ∧ cost.endpointId = endpointId ∧
      cost.toHourAmounts = r.amounts := by
  obtain ⟨fields, read⟩ := sound.amounts
  obtain ⟨gpu, cpu, disk, fee, total, sums⟩ := amountsFromMapping_ok read
  obtain ⟨starts, ends⟩ := whole
  have own : isIdentifier endpointId = true := by
    unfold safeIdentifier at safe
    rw [refuse_ok] at safe
    simpa using safe
  have stem : isIdentifier "runpod-serverless-hour:" = true := by decide +kernel
  have named : ∀ o, isIdentifier ("runpod-serverless-hour:" ++ texts.observation o) = true :=
    fun o => isIdentifier_append_sha256 stem (by decide +kernel) (texts.observation_hex o)
  have passed : ∀ o, HourCostFields.check {
      toHourAmounts := r.amounts
      providerObservationId := "runpod-serverless-hour:" ++ texts.observation o
      endpointId := endpointId
      utcHourStart := r.recordFrom
      utcHourEnd := r.recordUntil } = .ok () := by
    intro o
    have exact_ : ¬ (r.recordFrom % hour ≠ 0 ∨ r.recordUntil ≠ r.recordFrom + hour) := by
      rw [starts, ends]
      exact not_or.mpr ⟨not_not.mpr aligned, not_not.mpr rfl⟩
    unfold HourCostFields.check safeIdentifier nonnegativeDecimal
    simp only [refuse_bind_ok, refuse_ok, named, own, exact_, not_lt.mpr gpu, not_lt.mpr cpu,
      not_lt.mpr disk, not_lt.mpr fee, not_lt.mpr total, sums, ne_eq, not_true_eq_false,
      Bool.true_eq_false, not_false_eq_true, and_self]
  unfold recordHourCost
  dsimp only
  rw [HourCost.build_of_check (passed _)]
  exact ⟨_, rfl, starts, ends, rfl, rfl⟩

/-! ## The cursor -/

/-- The record ends the loop with an incomplete history: it starts beyond the cursor, or stops
short of a whole hour. -/
def Pends (windowUntil c : Instant) (r : BillingRecord) : Prop :=
  r.recordFrom < r.recordUntil ∧
    (c < r.recordFrom ∧ r.recordFrom < windowUntil ∨
      r.recordFrom = c ∧ r.recordUntil ≤ windowUntil ∧ r.recordUntil < c + hour)

/-- The loop takes a whole hour at the cursor, ends at a record that pends, and fails at any
other. -/
theorem hourCostsFrom_cons {verdict : Option (List HourCost)} :
    hourCostsFrom texts endpointId windowUntil c (r :: records) = .ok verdict ↔
      Pends windowUntil c r ∧ verdict = none ∨
        (WholeHour c r ∧ c + hour ≤ windowUntil) ∧ ∃ cost others,
          recordHourCost texts endpointId r = .ok cost ∧
            hourCostsFrom texts endpointId windowUntil (c + hour) records = .ok others ∧
            verdict = others.map (cost :: ·) := by
  have positive := hour_pos
  rw [hourCostsFrom, refuse_bind_ok, not_le]
  unfold Pends WholeHour
  split
  · -- Beyond the cursor.
    rename_i beyond
    simp only [pure, Except.pure, Except.ok.injEq]
    constructor
    · rintro ⟨length, rfl⟩
      exact .inl ⟨⟨length, .inl beyond⟩, rfl⟩
    · rintro (⟨⟨length, _⟩, rfl⟩ | ⟨⟨⟨starts, _⟩, _⟩, _⟩)
      · exact ⟨length, rfl⟩
      · exact absurd starts (ne_of_gt beyond.1)
  · rename_i near
    rw [refuse_bind_ok, refuse_bind_ok, not_not, not_lt]
    split
    · -- Short of a whole hour.
      rename_i short
      simp only [pure, Except.pure, Except.ok.injEq]
      constructor
      · rintro ⟨length, starts, inside, rfl⟩
        rw [starts] at short
        exact .inl ⟨⟨length, .inr ⟨starts, inside, short⟩⟩, rfl⟩
      · rintro (⟨⟨length, beyond | ⟨starts, inside, _⟩⟩, rfl⟩ | ⟨⟨⟨starts, ends⟩, _⟩, _⟩)
        · exact absurd beyond near
        · exact ⟨length, starts, inside, rfl⟩
        · rw [starts, ends] at short
          exact absurd short (lt_irrefl _)
    · rename_i long
      rw [refuse_bind_ok, not_not]
      constructor
      · rintro ⟨length, starts, inside, ends, ok⟩
        rw [starts] at ends
        obtain ⟨cost, costed, ok⟩ := except_bind_ok.mp ok
        obtain ⟨others, onward, ok⟩ := except_bind_ok.mp ok
        rw [ends] at onward inside
        cases ok
        exact .inr ⟨⟨⟨starts, ends⟩, inside⟩, cost, others, costed, onward, rfl⟩
      · rintro (⟨⟨length, beyond | ⟨starts, _, short⟩⟩, rfl⟩ |
          ⟨⟨⟨starts, ends⟩, inside⟩, cost, others, costed, onward, rfl⟩)
        · exact absurd beyond near
        · rw [← starts] at short
          exact absurd short long
        · rw [starts, ends]
          refine ⟨Int.lt_add_of_pos_right c positive, rfl, inside, rfl, ?_⟩
          exact except_bind_ok.mpr ⟨cost, costed, except_bind_ok.mpr ⟨others, onward, rfl⟩⟩

/-- The loop meets an incomplete history. -/
def Halts (windowUntil : Instant) : Instant → List BillingRecord → Prop
  | c, [] => c < windowUntil
  | c, r :: rest => Pends windowUntil c r ∨
      (WholeHour c r ∧ c + hour ≤ windowUntil) ∧ Halts windowUntil (c + hour) rest

/-- The records tile what is left of the window. -/
abbrev RecordsTile (windowUntil cursor : Instant) (records : List BillingRecord) : Prop :=
  Tiles BillingRecord.recordFrom BillingRecord.recordUntil hour windowUntil cursor records

theorem next_aligned (aligned : c % hour = 0) : (c + hour) % hour = 0 := by
  rw [Int.add_emod_right, aligned]

/-- The loop returns the costs of records that tile the window. -/
theorem hourCostsFrom_some (span : c ≤ windowUntil) :
    hourCostsFrom texts endpointId windowUntil c records = .ok (some costs) ↔
      RecordsTile windowUntil c records ∧
        records.mapM (recordHourCost texts endpointId) = .ok costs := by
  induction records generalizing c costs with
  | nil =>
      unfold hourCostsFrom
      constructor
      · intro ok
        split at ok
        · cases ok
        · rename_i reached
          cases ok
          exact ⟨le_antisymm span (not_lt.mp reached), rfl⟩
      · rintro ⟨rfl, ok⟩
        cases ok
        rw [if_neg (lt_irrefl _)]
        rfl
  | cons r rest ih =>
      rw [hourCostsFrom_cons, mapM_cons_eq, except_bind_ok]
      constructor
      · rintro (⟨_, absurd_⟩ | ⟨⟨⟨starts, ends⟩, inside⟩, cost, others, costed, onward, is⟩)
        · cases absurd_
        · cases others with
          | none => cases is
          | some others =>
              cases is
              obtain ⟨tiles, each⟩ := (ih inside).mp onward
              refine ⟨⟨starts, ends, tiles⟩, cost, costed, ?_⟩
              exact except_bind_ok.mpr ⟨others, each, rfl⟩
      · rintro ⟨⟨starts, ends, tiles⟩, cost, costed, ok⟩
        obtain ⟨others, each, ok⟩ := except_bind_ok.mp ok
        cases ok
        have inside := Tiles.le hour_pos tiles
        exact .inr ⟨⟨⟨starts, ends⟩, inside⟩, cost, some others, costed,
          (ih inside).mpr ⟨tiles, each⟩, rfl⟩

/-- The loop is incomplete where it halts. -/
theorem hourCostsFrom_none (safe : safeIdentifier endpointId "endpoint_id" = .ok ())
    (sound : ∀ r ∈ records, Sound texts endpointId r) (aligned : c % hour = 0) :
    hourCostsFrom texts endpointId windowUntil c records = .ok none ↔
      Halts windowUntil c records := by
  induction records generalizing c with
  | nil =>
      unfold hourCostsFrom Halts
      split <;> simp_all
  | cons r rest ih =>
      have onward := ih (fun r member => sound r (List.mem_cons_of_mem _ member))
        (next_aligned aligned)
      rw [hourCostsFrom_cons, Halts]
      constructor
      · rintro (⟨pends, _⟩ | ⟨whole, cost, others, costed, ok, is⟩)
        · exact .inl pends
        · cases others with
          | none => exact .inr ⟨whole, onward.mp ok⟩
          | some others => cases is
      · rintro (pends | ⟨whole, halts⟩)
        · exact .inl ⟨pends, rfl⟩
        · obtain ⟨cost, costed, _⟩ := (sound r List.mem_cons_self).cost safe aligned whole.1
          exact .inr ⟨whole, cost, none, costed, onward.mpr halts, rfl⟩

theorem WholeHour.not_pends (whole : WholeHour c r) : ¬ Pends windowUntil c r := by
  obtain ⟨starts, ends⟩ := whole
  rintro ⟨_, ⟨beyond, _⟩ | ⟨_, _, short⟩⟩
  · exact absurd starts (ne_of_gt beyond)
  · rw [ends] at short
    exact absurd short (lt_irrefl _)

theorem Pends.before (pends : Pends windowUntil c r) : c < windowUntil ∧ c ≤ r.recordFrom := by
  obtain ⟨length, ⟨beyond, inside⟩ | ⟨rfl, inside, _⟩⟩ := pends
  · exact ⟨beyond.trans inside, le_of_lt beyond⟩
  · exact ⟨length.trans_le inside, le_refl _⟩

theorem Halts.before (halts : Halts windowUntil c records) : c < windowUntil := by
  cases records with
  | nil => exact halts
  | cons r rest =>
      rcases halts with pends | ⟨⟨_, inside⟩, _⟩
      · exact pends.before.1
      · exact (Int.lt_add_of_pos_right c hour_pos).trans_le inside

/-- The loop passes over records that tile the way to `c`. -/
theorem halts_append {before rest : List BillingRecord} (tiles : RecordsTile c cursor before) :
    Halts windowUntil cursor (before ++ rest) ↔ Halts windowUntil c rest := by
  induction before generalizing cursor with
  | nil =>
      have same : cursor = c := tiles
      rw [same, List.nil_append]
  | cons r before ih =>
      obtain ⟨starts, ends, onward⟩ := tiles
      have whole : WholeHour cursor r := ⟨starts, ends⟩
      rw [List.cons_append, Halts, ih onward]
      constructor
      · rintro (pends | ⟨_, halts⟩)
        · exact absurd pends whole.not_pends
        · exact halts
      · intro halts
        have inside := (Tiles.le hour_pos onward).trans (le_of_lt halts.before)
        exact .inr ⟨⟨whole, inside⟩, halts⟩

/-- Where the loop halts, the records before tile the way there. -/
theorem Halts.split (halts : Halts windowUntil cursor records) :
    ∃ before rest c, records = before ++ rest ∧ RecordsTile c cursor before ∧
      (rest = [] ∧ c < windowUntil ∨ ∃ r later, rest = r :: later ∧ Pends windowUntil c r) := by
  induction records generalizing cursor with
  | nil => exact ⟨[], [], cursor, rfl, rfl, .inl ⟨rfl, halts⟩⟩
  | cons r rest ih =>
      rcases halts with pends | ⟨⟨⟨starts, ends⟩, _⟩, halts⟩
      · exact ⟨[], r :: rest, cursor, rfl, rfl, .inr ⟨r, rest, rfl, pends⟩⟩
      · obtain ⟨before, rest, c, rfl, tiles, ended⟩ := ih halts
        exact ⟨r :: before, rest, c, rfl, ⟨starts, ends, tiles⟩, ended⟩

/-! ## Records in any order -/

/-- The records are exactly one whole hour for each hour of the window. -/
abbrev CoversRecords (first windowUntil : Instant) (records : List BillingRecord) : Prop :=
  Covers BillingRecord.recordFrom BillingRecord.recordUntil hour first windowUntil records

/-- The records by start, those with one start in the order of the page. -/
abbrev inOrder (records : List BillingRecord) : List BillingRecord :=
  records.mergeSort fun a b => a.recordFrom ≤ b.recordFrom

/-- The records that start before `s` bring the cursor from the window's start to `c`. -/
structure Leads (first c s : Instant) (records : List BillingRecord) : Prop where
  span : first ≤ c
  aligned : c % hour = 0
  covers : CoversRecords first c (records.filter fun r => r.recordFrom < s)

/-- Of the records that start together where the cursor meets them, either all pend or none
does. -/
def Unanimous (first windowUntil : Instant) (records : List BillingRecord) : Prop :=
  ∀ r ∈ records, ∀ r' ∈ records, r.recordFrom = r'.recordFrom →
    ∀ c, Leads first c r.recordFrom records → Pends windowUntil c r → Pends windowUntil c r'

/-- The records stop before the end of the window, or the cursor meets one that pends. -/
def Pending (first windowUntil : Instant) (records : List BillingRecord) : Prop :=
  (∃ c, first ≤ c ∧ c % hour = 0 ∧ c < windowUntil ∧ CoversRecords first c records) ∨
    ∃ r ∈ records, ∃ c, Leads first c r.recordFrom records ∧ Pends windowUntil c r

/-- Some hour of the window is no record. -/
def HourMissing (first windowUntil : Instant) (records : List BillingRecord) : Prop :=
  ∃ t, Grid hour first windowUntil t ∧ ∀ r ∈ records, ¬ WholeHour t r

section

variable {others : List BillingRecord}

theorem Leads.perm (leads : Leads first c s records) (same : others.Perm records) :
    Leads first c s others :=
  ⟨leads.span, leads.aligned, leads.covers.perm (same.filter _)⟩

theorem Unanimous.perm (unanimous : Unanimous first windowUntil records)
    (same : others.Perm records) : Unanimous first windowUntil others := by
  intro r member r' member' together c leads pends
  exact unanimous r (same.subset member) r' (same.subset member') together c
    (leads.perm same.symm) pends

theorem Pending.perm (pending : Pending first windowUntil records) (same : others.Perm records) :
    Pending first windowUntil others := by
  rcases pending with ⟨c, span, aligned, before, covers⟩ | ⟨r, member, c, leads, pends⟩
  · exact .inl ⟨c, span, aligned, before, covers.perm same⟩
  · exact .inr ⟨r, same.symm.subset member, c, leads.perm same, pends⟩

theorem inOrder_perm (records : List BillingRecord) : (inOrder records).Perm records :=
  List.mergeSort_perm records _

theorem whole_hours {a b : Instant} (alignedA : a % hour = 0) (alignedB : b % hour = 0) :
    hour ∣ b - a :=
  Int.dvd_sub (Int.dvd_of_emod_eq_zero alignedB) (Int.dvd_of_emod_eq_zero alignedA)

theorem aligned_of_dvd {a b : Instant} (alignedA : a % hour = 0) (whole : hour ∣ b - a) :
    b % hour = 0 := by
  have sum := Int.dvd_add whole (Int.dvd_of_emod_eq_zero alignedA)
  rw [Int.sub_add_cancel] at sum
  exact Int.emod_eq_zero_of_dvd sum

/-- The records before a given start, in order, tile the way to the cursor they lead to. -/
theorem Leads.tiles (leads : Leads first c s records) (start : first % hour = 0)
    (ordered : Ordered BillingRecord.recordFrom records) :
    RecordsTile c first (records.filter fun r => r.recordFrom < s) :=
  Covers.tiles hour_pos leads.covers (ordered.filter _) leads.span
    (whole_hours start leads.aligned)

/-- Whatever halts the loop is pending. -/
theorem Halts.pending (window : HourWindow first windowUntil)
    (halts : Halts windowUntil first (inOrder records)) : Pending first windowUntil records := by
  have same := inOrder_perm records
  have ordered : Ordered BillingRecord.recordFrom (inOrder records) := ordered_mergeSort records
  obtain ⟨before, rest, c, split, tiles, ended⟩ := halts.split
  have covers := Tiles.covers hour_pos tiles
  have span := Tiles.le hour_pos tiles
  have aligned := aligned_of_dvd window.start (Tiles.dvd tiles)
  rcases ended with ⟨rfl, stops⟩ | ⟨r, later, rfl, pends⟩
  · rw [List.append_nil] at split
    rw [← split] at covers
    exact .inl ⟨c, span, aligned, stops, covers.perm same.symm⟩
  · have member : r ∈ inOrder records := by
      rw [split]
      exact List.mem_append_right before List.mem_cons_self
    refine .inr ⟨r, same.subset member, c, ?_, pends⟩
    have prior : (inOrder records).filter (fun b => b.recordFrom < r.recordFrom) = before := by
      rw [split] at ordered ⊢
      exact ordered.filter_before fun b member =>
        (covers.inside b member).2.1.trans_le pends.before.2
    have leads : Leads first c r.recordFrom (inOrder records) :=
      ⟨span, aligned, prior.symm ▸ covers⟩
    exact leads.perm same.symm

/-- What is pending halts the loop, when those that start together agree. -/
theorem Pending.halts (window : HourWindow first windowUntil)
    (unanimous : Unanimous first windowUntil records)
    (pending : Pending first windowUntil records) : Halts windowUntil first (inOrder records) := by
  have same := inOrder_perm records
  have ordered : Ordered BillingRecord.recordFrom (inOrder records) := ordered_mergeSort records
  rcases pending with ⟨c, span, aligned, before, covers⟩ | ⟨r, member, c, leads, pends⟩
  · have tiles := Covers.tiles hour_pos (covers.perm same) ordered span
      (whole_hours window.start aligned)
    have halts : Halts windowUntil first (inOrder records ++ []) := (halts_append tiles).mpr before
    rwa [List.append_nil] at halts
  · have tiles := (leads.perm same).tiles window.start ordered
    have split := ordered.split r.recordFrom
    have after : r ∈ (inOrder records).filter fun b => r.recordFrom ≤ b.recordFrom :=
      List.mem_filter.mpr ⟨same.symm.subset member, decide_eq_true (le_refl _)⟩
    rw [split, halts_append tiles]
    cases rest : (inOrder records).filter fun b => r.recordFrom ≤ b.recordFrom with
    | nil =>
        rw [rest] at after
        cases after
    | cons head later =>
        have there : head ∈ (inOrder records).filter fun b => r.recordFrom ≤ b.recordFrom := by
          rw [rest]
          exact List.mem_cons_self
        obtain ⟨inRecords, least⟩ := List.mem_filter.mp there
        have sorted := ordered.filter fun b => decide (r.recordFrom ≤ b.recordFrom)
        rw [rest] at sorted after
        have together : r.recordFrom = head.recordFrom := by
          refine le_antisymm (of_decide_eq_true least) ?_
          rcases List.mem_cons.mp after with rfl | after
          · exact le_refl _
          · exact (List.pairwise_cons.mp sorted).1 r after
        exact .inl (unanimous r member head (same.subset inRecords) together c leads pends)

/-- A pending page has an hour that is no record. -/
theorem Pending.missing (window : HourWindow first windowUntil)
    (unanimous : Unanimous first windowUntil records)
    (pending : Pending first windowUntil records) : HourMissing first windowUntil records := by
  rcases pending with ⟨c, span, aligned, before, covers⟩ | ⟨r, member, c, leads, pends⟩
  · refine ⟨c, window.grid.mpr ⟨span, before, aligned⟩, fun r member whole => ?_⟩
    have inside := (covers.inside r member).2.1
    rw [whole.1] at inside
    exact absurd inside (lt_irrefl c)
  · have reach := pends.before
    refine ⟨c, window.grid.mpr ⟨leads.span, reach.1, leads.aligned⟩, fun r' there whole => ?_⟩
    by_cases earlier : r'.recordFrom < r.recordFrom
    · have inside := (leads.covers.inside r'
        (List.mem_filter.mpr ⟨there, decide_eq_true earlier⟩)).2.1
      rw [whole.1] at inside
      exact absurd inside (lt_irrefl c)
    · have together : r.recordFrom = r'.recordFrom := by
        refine le_antisymm (not_lt.mp earlier) ?_
        rw [whole.1]
        exact reach.2
      exact whole.not_pends (unanimous r member r' there together c leads pends)

/-- The first of several records with one start is the one that the cursor meets. -/
theorem inOrder_cons (start : first % hour = 0)
    (leads : Leads first c r.recordFrom (r :: records)) :
    ∃ before later, inOrder (r :: records) = before ++ r :: later ∧
      RecordsTile c first before ∧
      ∀ r' ∈ records, r'.recordFrom = r.recordFrom → r' ∈ later := by
  have ordered : Ordered BillingRecord.recordFrom (inOrder (r :: records)) :=
    ordered_mergeSort (r :: records)
  obtain ⟨before, later, split, others, ahead⟩ := @List.mergeSort_cons BillingRecord
    (fun a b => decide (a.recordFrom ≤ b.recordFrom))
    (fun a b c ab bc => decide_eq_true ((of_decide_eq_true ab).trans (of_decide_eq_true bc)))
    (fun a b => by simpa using Int.le_total a.recordFrom b.recordFrom) r records
  have earlier : ∀ b ∈ before, b.recordFrom < r.recordFrom := by
    intro b member
    have less := ahead b member
    simpa using less
  refine ⟨before, later, split, ?_, fun r' member together => ?_⟩
  · have tiles := (leads.perm (inOrder_perm _)).tiles start ordered
    change inOrder (r :: records) = before ++ r :: later at split
    rw [split] at ordered tiles
    rwa [ordered.filter_before earlier] at tiles
  · have there : r' ∈ before ++ later := by
      rw [← others]
      exact (inOrder_perm records).symm.subset member
    rcases List.mem_append.mp there with inBefore | inLater
    · have less := earlier r' inBefore
      rw [together] at less
      exact absurd less (lt_irrefl _)
    · exact inLater

/-- Where the order of the records decides nothing, those that start together agree. -/
theorem unanimous_of_order (start : first % hour = 0)
    (decides : ∀ others : List BillingRecord, others.Perm records →
      (Halts windowUntil first (inOrder others) ↔ Halts windowUntil first (inOrder records))) :
    Unanimous first windowUntil records := by
  intro r member r' member' together c leads pends
  by_contra not_pends
  have leading : ∀ {q : BillingRecord}, q ∈ records → q.recordFrom = r.recordFrom →
      ∃ rest, (q :: rest).Perm records ∧ Leads first c q.recordFrom (q :: rest) := by
    intro q there same
    obtain ⟨before, after, rfl⟩ := List.append_of_mem there
    have perm : (q :: (before ++ after)).Perm (before ++ q :: after) := List.perm_middle.symm
    exact ⟨before ++ after, perm, same.symm ▸ leads.perm perm⟩
  -- With the pending record in front the loop halts.
  obtain ⟨rest, perm, leads₁⟩ := leading member rfl
  obtain ⟨before, later, split, tiles, _⟩ := inOrder_cons start leads₁
  have halts : Halts windowUntil first (inOrder (r :: rest)) := by
    rw [split, halts_append tiles]
    exact .inl pends
  -- With the other in front it does not.
  obtain ⟨rest', perm', leads₂⟩ := leading member' together.symm
  obtain ⟨before', later', split', tiles', onward⟩ := inOrder_cons start leads₂
  have halts' := (decides _ perm').mpr ((decides _ perm).mp halts)
  have inRest : r ∈ rest' := by
    rcases List.mem_cons.mp (perm'.symm.subset member) with rfl | inRest
    · exact absurd pends not_pends
    · exact inRest
  have inLater := onward r inRest together
  have ordered : Ordered BillingRecord.recordFrom (inOrder (r' :: rest')) :=
    ordered_mergeSort (r' :: rest')
  rw [split'] at ordered halts'
  rw [halts_append tiles'] at halts'
  rcases halts' with pends' | ⟨⟨whole, _⟩, halts'⟩
  · exact not_pends pends'
  · obtain ⟨after, sorted⟩ := List.pairwise_cons.mp (List.pairwise_append.mp ordered).2.1
    have bound : ∀ b ∈ later', c ≤ b.recordFrom := by
      intro b there
      rw [← whole.1]
      exact after b there
    cases later' with
    | nil => cases inLater
    | cons head more =>
        have reached : head.recordFrom ≤ c := by
          rw [← whole.1, ← together]
          rcases List.mem_cons.mp inLater with rfl | inMore
          · exact le_refl _
          · exact (List.pairwise_cons.mp sorted).1 r inMore
        have short : head.recordFrom < c + hour :=
          reached.trans_lt (Int.lt_add_of_pos_right c hour_pos)
        rcases halts' with pends' | ⟨⟨⟨starts, _⟩, _⟩, _⟩
        · exact absurd pends'.before.2 (not_le.mpr short)
        · exact absurd starts (ne_of_lt short)

end

/-! ## Pages -/

variable {page : BillingPage}

/-- The query echo of the page is that of the request, and its counts are those of its
records. -/
structure PageAnswers (texts : BillingTexts) (page : BillingPage) (endpointId : String)
    (first windowUntil : Instant) : Prop where
  metadata : Json.hasKeys page.metadata
    ["query", "recordCount", "uniqueServerlessCount", "totals"] = true
  query : ∃ query startText endText, Json.get page.metadata "query" = .obj query ∧
    Json.hasKeys query ["startTime", "endTime", "bucketSize", "serverlessId"] = true ∧
    Json.isText endpointId (Json.get query "serverlessId") = true ∧
    Json.isText "hour" (Json.get query "bucketSize") = true ∧
    Json.get query "startTime" = .str startText ∧ startText ≠ "" ∧
    parseDatetime texts startText = .ok first ∧
    Json.get query "endTime" = .str endText ∧ endText ≠ "" ∧
    parseDatetime texts endText = .ok windowUntil
  recordCount : Json.get page.metadata "recordCount" = .int page.records.length
  uniqueServerlessCount : ∃ n, Json.get page.metadata "uniqueServerlessCount" = .int n ∧
    (n = 1 ∨ page.records = [] ∧ n = 0)

/-- The fields of the page's totals. -/
def TotalFields (page : BillingPage) (fields : List (String × Json)) : Prop :=
  Json.get page.metadata "totals" = .obj fields ∧
    Json.hasKeys fields ["totalAmount", "gpuAmount", "cpuAmount", "diskAmount", "feeAmount"] = true

/-- The exact sums of the records' components. -/
def recordTotals (records : List BillingRecord) : HourAmounts where
  gpuCostUsd := Decimal.exactSum (records.map fun r => r.amounts.gpuCostUsd)
  cpuCostUsd := Decimal.exactSum (records.map fun r => r.amounts.cpuCostUsd)
  diskCostUsd := Decimal.exactSum (records.map fun r => r.amounts.diskCostUsd)
  feeCostUsd := Decimal.exactSum (records.map fun r => r.amounts.feeCostUsd)
  actualCostUsd := Decimal.exactSum (records.map fun r => r.amounts.actualCostUsd)

/-- The totals of the page are `sums`. -/
def TotalsAre (page : BillingPage) (sums : HourAmounts) : Prop :=
  ∃ fields expected, TotalFields page fields ∧
    amountsFromMapping fields "billing totals" = .ok expected ∧ sums.sameAs expected = true

/-- The records, read in their order, and then judged in the order of their starts. -/
def judgeHourCosts (texts : BillingTexts) (endpointId : String) (first windowUntil : Instant)
    (records : List (List (String × Json))) : Except Exn (Option (List HourCost)) := do
  let parsed ← records.mapM (parseRecord texts endpointId)
  hourCostsFrom texts endpointId windowUntil first (inOrder parsed)

/-- The totals of a page are read only when its records are complete. -/
def agreeTotals (fields : List (String × Json)) :
    Option (List HourCost) → Except Exn (Option (List HourCost))
  | none => .ok none
  | some costs => do
      let expectedTotals ← amountsFromMapping fields "billing totals"
      refuse ((hourCostTotals costs).sameAs expectedTotals = false)
        (.manager "Runpod billing totals do not equal its records")
      return some costs

theorem shaped_of_ok {verdict : Option (List HourCost)}
    (ok : authoritativeHourCosts texts page endpointId first windowUntil = .ok verdict) :
    ∃ fields, TotalFields page fields := by
  unfold authoritativeHourCosts at ok
  obtain ⟨_, _, ok⟩ := except_bind_ok.mp ok
  obtain ⟨_, _, ok⟩ := except_bind_ok.mp ok
  obtain ⟨fields, totals, ok⟩ := except_bind_ok.mp ok
  obtain ⟨_, _, ok⟩ := except_bind_ok.mp ok
  obtain ⟨_, keys, _⟩ := except_bind_ok.mp ok
  unfold Json.mapping at totals
  split at totals
  · rename_i is
    cases totals
    unfold exactKeys at keys
    rw [refuse_ok, Bool.not_eq_false] at keys
    exact ⟨fields, is, keys⟩
  · cases totals

/-- A page that answers the request is judged by its records, and then by its totals. -/
theorem PageAnswers.costs_eq (answers : PageAnswers texts page endpointId first windowUntil)
    (open_ : first < windowUntil) {fields : List (String × Json)}
    (totals : TotalFields page fields) :
    authoritativeHourCosts texts page endpointId first windowUntil = (do
      let verdict ← judgeHourCosts texts endpointId first windowUntil page.records
      agreeTotals fields verdict) := by
  obtain ⟨query, startText, endText, isQuery, queryKeys, own, hourly, starts, startSome, startAt,
    ends, endSome, endAt⟩ := answers.query
  obtain ⟨n, unique, count⟩ := answers.uniqueServerlessCount
  obtain ⟨isTotals, totalKeys⟩ := totals
  have counted : ¬ (page.records.length : Int) < 0 := not_lt.mpr (Int.natCast_nonneg _)
  have uniqueCounted : ¬ n < 0 := by rcases count with rfl | ⟨_, rfl⟩ <;> decide
  have passed : ∀ {x : Exn}, refuse (true = false) x = .ok () := by
    intro x
    exact refuse_ok.mpr (by decide)
  have echoed : ∀ {x : Exn}, refuse (true = false ∨ true = false) x = .ok () := by
    intro x
    exact refuse_ok.mpr (by decide)
  have same : ∀ {t : Int} {x : Exn}, refuse (t ≠ t) x = .ok () := by
    intro t x
    exact refuse_ok.mpr (not_not.mpr rfl)
  unfold authoritativeHourCosts judgeHourCosts exactKeys
  simp only [answers.metadata, isQuery, queryKeys, isTotals, totalKeys, own, hourly, starts, ends,
    startAt, endAt, answers.recordCount, unique, Json.mapping, Json.text, Json.integer, startSome,
    endSome, counted, uniqueCounted, if_false, passed, echoed, same, bind, Except.bind]
  cases records : page.records with
  | nil =>
      have few : ∀ {x : Exn}, refuse (n ≠ 0 ∧ n ≠ 1) x = .ok () := by
        intro x
        refine refuse_ok.mpr fun apart => ?_
        rcases count with is | ⟨_, is⟩
        · exact apart.2 is
        · exact apart.1 is
      have nothing : hourCostsFrom texts endpointId windowUntil first (inOrder []) = .ok none := by
        rw [inOrder, List.mergeSort_nil, hourCostsFrom, if_pos open_]
      simp only [List.isEmpty_nil, if_true, few, List.mapM_nil, pure, Except.pure, nothing,
        agreeTotals]
  | cons row rest =>
      have one : n = 1 := by
        rcases count with is | ⟨none, _⟩
        · exact is
        · rw [records] at none
          cases none
      rw [one]
      simp only [List.isEmpty_cons, Bool.false_eq_true, if_false, same]
      cases parsed : (row :: rest).mapM (parseRecord texts endpointId) with
      | error x => rfl
      | ok hours =>
          dsimp only
          cases judged : hourCostsFrom texts endpointId windowUntil first (inOrder hours) with
          | error x => rfl
          | ok verdict =>
              cases verdict with
              | none => rfl
              | some costs => rfl

/-! ## The verdict -/

variable {rows others : List (List (String × Json))}

/-- The records are one whole hour of the endpoint for each hour of the window. -/
def Complete (texts : BillingTexts) (endpointId : String) (first windowUntil : Instant)
    (rows : List (List (String × Json))) (parsed : List BillingRecord) : Prop :=
  rows.mapM (parseRecord texts endpointId) = .ok parsed ∧ CoversRecords first windowUntil parsed

theorem sound_of_parsed (parsed : rows.mapM (parseRecord texts endpointId) = .ok records) :
    ∀ r ∈ records, Sound texts endpointId r := by
  intro r member
  obtain ⟨fields, _, ok⟩ := mapM_ok_mem parsed member
  exact ⟨fields, ok⟩

theorem judgeHourCosts_some (window : HourWindow first windowUntil) :
    judgeHourCosts texts endpointId first windowUntil rows = .ok (some costs) ↔
      ∃ parsed, Complete texts endpointId first windowUntil rows parsed ∧
        (inOrder parsed).mapM (recordHourCost texts endpointId) = .ok costs := by
  have span := le_of_lt window.open_
  unfold judgeHourCosts Complete
  rw [except_bind_ok]
  refine exists_congr fun parsed => ?_
  rw [and_assoc, hourCostsFrom_some span]
  have same := inOrder_perm parsed
  have sorted : Ordered BillingRecord.recordFrom (inOrder parsed) := ordered_mergeSort parsed
  rw [RecordsTile, tiles_iff_covers hour_pos sorted span (whole_hours window.start window.stop)]
  exact and_congr_right fun _ => and_congr_left fun _ =>
    ⟨fun covers => covers.perm same.symm, fun covers => covers.perm same⟩

theorem judgeHourCosts_none (window : HourWindow first windowUntil)
    (safe : safeIdentifier endpointId "endpoint_id" = .ok ()) :
    judgeHourCosts texts endpointId first windowUntil rows = .ok none ↔
      ∃ parsed, rows.mapM (parseRecord texts endpointId) = .ok parsed ∧
        Halts windowUntil first (inOrder parsed) := by
  unfold judgeHourCosts
  rw [except_bind_ok]
  refine exists_congr fun parsed => and_congr_right fun ok => ?_
  exact hourCostsFrom_none safe
    (fun r member => sound_of_parsed ok r ((inOrder_perm parsed).subset member)) window.start

/-- Whole hours in order have costs, which tile the same window. -/
theorem costs_of_tiles (safe : safeIdentifier endpointId "endpoint_id" = .ok ())
    (sound : ∀ r ∈ records, Sound texts endpointId r) (aligned : c % hour = 0)
    (tiles : RecordsTile windowUntil c records) :
    ∃ costs, records.mapM (recordHourCost texts endpointId) = .ok costs ∧
      Tiles (fun cost : HourCost => cost.utcHourStart) (fun cost => cost.utcHourEnd) hour
        windowUntil c costs ∧
      (∀ cost ∈ costs, cost.endpointId = endpointId) ∧
      costs.map (fun cost => cost.toHourAmounts) = records.map fun r => r.amounts := by
  induction records generalizing c with
  | nil => exact ⟨[], rfl, tiles, by simp, rfl⟩
  | cons r rest ih =>
      obtain ⟨starts, ends, onward⟩ := tiles
      obtain ⟨cost, costed, costStarts, costEnds, own, amounts⟩ :=
        (sound r List.mem_cons_self).cost safe aligned ⟨starts, ends⟩
      obtain ⟨costs, others, tile, owned, same⟩ :=
        ih (fun q member => sound q (List.mem_cons_of_mem r member)) (next_aligned aligned) onward
      refine ⟨cost :: costs, ?_, ⟨costStarts, costEnds, tile⟩, ?_, ?_⟩
      · rw [mapM_cons_eq, costed, others]
        rfl
      · intro other member
        rcases List.mem_cons.mp member with rfl | member
        · exact own
        · exact owned other member
      · rw [List.map_cons, List.map_cons, amounts, same]

/-- A complete page has costs: the sums of its records are theirs. -/
theorem Complete.hours (window : HourWindow first windowUntil)
    (safe : safeIdentifier endpointId "endpoint_id" = .ok ())
    (complete : Complete texts endpointId first windowUntil rows records) :
    ∃ costs, (inOrder records).mapM (recordHourCost texts endpointId) = .ok costs ∧
      Tiles (fun cost : HourCost => cost.utcHourStart) (fun cost => cost.utcHourEnd) hour
        windowUntil first costs ∧
      (∀ cost ∈ costs, cost.endpointId = endpointId) ∧
      costs.map (fun cost => cost.toHourAmounts) = (inOrder records).map fun r => r.amounts := by
  have sorted : Ordered BillingRecord.recordFrom (inOrder records) := ordered_mergeSort records
  have covers := complete.2.perm (inOrder_perm records)
  have tiles := Covers.tiles hour_pos covers sorted (le_of_lt window.open_)
    (whole_hours window.start window.stop)
  exact costs_of_tiles safe
    (fun r member => sound_of_parsed complete.1 r ((inOrder_perm records).subset member))
    window.start tiles

theorem sameAs_perm {some_ other : List BillingRecord} {expected : HourAmounts}
    (same : some_.Perm other) :
    (recordTotals some_).sameAs expected = (recordTotals other).sameAs expected := by
  have sums : ∀ f : BillingRecord → Decimal,
      (Decimal.exactSum (some_.map f)).value = (Decimal.exactSum (other.map f)).value := by
    intro f
    rw [Decimal.exactSum_value, Decimal.exactSum_value]
    exact ((same.map f).map Decimal.value).sum_eq
  unfold HourAmounts.sameAs recordTotals
  simp only [sums]

theorem hourCostTotals_eq
    (same : costs.map (fun cost => cost.toHourAmounts) = records.map fun r => r.amounts) :
    hourCostTotals costs = recordTotals records := by
  have component : ∀ f : HourAmounts → Decimal,
      costs.map (fun cost => f cost.toHourAmounts) = records.map fun r => f r.amounts := by
    intro f
    have mapped := congrArg (List.map f) same
    rwa [List.map_map, List.map_map] at mapped
  unfold hourCostTotals recordTotals
  rw [component HourAmounts.gpuCostUsd, component HourAmounts.cpuCostUsd,
    component HourAmounts.diskCostUsd, component HourAmounts.feeCostUsd,
    component HourAmounts.actualCostUsd]

/-- The page with its records in another order. -/
def reordered (page : BillingPage) (records : List (List (String × Json))) : BillingPage where
  records := records
  metadata := page.metadata

theorem PageAnswers.perm (answers : PageAnswers texts page endpointId first windowUntil)
    (same : others.Perm page.records) :
    PageAnswers texts (reordered page others) endpointId first windowUntil := by
  refine ⟨answers.metadata, answers.query, ?_, ?_⟩
  · rw [reordered, same.length_eq]
    exact answers.recordCount
  · obtain ⟨n, is, one | ⟨none, zero⟩⟩ := answers.uniqueServerlessCount
    · exact ⟨n, is, .inl one⟩
    · rw [none] at same
      exact ⟨n, is, .inr ⟨same.eq_nil, zero⟩⟩

/-- The page has costs exactly when it is complete and its totals are their sums. -/
theorem PageAnswers.some_iff (answers : PageAnswers texts page endpointId first windowUntil)
    (window : HourWindow first windowUntil) :
    authoritativeHourCosts texts page endpointId first windowUntil = .ok (some costs) ↔
      ∃ parsed, Complete texts endpointId first windowUntil page.records parsed ∧
        (inOrder parsed).mapM (recordHourCost texts endpointId) = .ok costs ∧
        TotalsAre page (hourCostTotals costs) := by
  have shared : ∀ {fields : List (String × Json)}, TotalFields page fields →
      (authoritativeHourCosts texts page endpointId first windowUntil = .ok (some costs) ↔
        judgeHourCosts texts endpointId first windowUntil page.records = .ok (some costs) ∧
          ∃ expected, amountsFromMapping fields "billing totals" = .ok expected ∧
            (hourCostTotals costs).sameAs expected = true) := by
    intro fields totals
    rw [answers.costs_eq window.open_ totals, except_bind_ok]
    constructor
    · rintro ⟨verdict, judged, agreed⟩
      cases verdict with
      | none => cases agreed
      | some found =>
          unfold agreeTotals at agreed
          obtain ⟨expected, read, agreed⟩ := except_bind_ok.mp agreed
          obtain ⟨equal, agreed⟩ := refuse_bind_ok.mp agreed
          cases agreed
          exact ⟨judged, expected, read, by simpa using equal⟩
    · rintro ⟨judged, expected, read, equal⟩
      refine ⟨some costs, judged, except_bind_ok.mpr ⟨expected, read, ?_⟩⟩
      exact refuse_bind_ok.mpr ⟨by simp [equal], rfl⟩
  constructor
  · intro ok
    obtain ⟨fields, totals⟩ := shaped_of_ok ok
    obtain ⟨judged, expected, read, equal⟩ := (shared totals).mp ok
    obtain ⟨parsed, complete, costed⟩ := (judgeHourCosts_some window).mp judged
    exact ⟨parsed, complete, costed, fields, expected, totals, read, equal⟩
  · rintro ⟨parsed, complete, costed, fields, expected, totals, read, equal⟩
    exact (shared totals).mpr
      ⟨(judgeHourCosts_some window).mpr ⟨parsed, complete, costed⟩, expected, read, equal⟩

/-- A page has costs exactly when it is complete and its totals are the sums of its records. -/
theorem PageAnswers.costs_iff (answers : PageAnswers texts page endpointId first windowUntil)
    (window : HourWindow first windowUntil)
    (safe : safeIdentifier endpointId "endpoint_id" = .ok ()) :
    (∃ costs, authoritativeHourCosts texts page endpointId first windowUntil = .ok (some costs)) ↔
      ∃ parsed, Complete texts endpointId first windowUntil page.records parsed ∧
        TotalsAre page (recordTotals parsed) := by
  constructor
  · rintro ⟨costs, ok⟩
    obtain ⟨parsed, complete, costed, totals⟩ := (answers.some_iff window).mp ok
    obtain ⟨costs', costed', _, _, amounts⟩ := complete.hours window safe
    rw [costed] at costed'
    cases costed'
    rw [hourCostTotals_eq amounts] at totals
    obtain ⟨fields, expected, shaped, read, equal⟩ := totals
    rw [sameAs_perm (inOrder_perm parsed)] at equal
    exact ⟨parsed, complete, fields, expected, shaped, read, equal⟩
  · rintro ⟨parsed, complete, fields, expected, shaped, read, equal⟩
    obtain ⟨costs, costed, _, _, amounts⟩ := complete.hours window safe
    refine ⟨costs, (answers.some_iff window).mpr ⟨parsed, complete, costed, fields, expected,
      shaped, read, ?_⟩⟩
    rw [hourCostTotals_eq amounts, sameAs_perm (inOrder_perm parsed)]
    exact equal

/-- The page is pending exactly where the loop halts on its records. -/
theorem PageAnswers.none_iff (answers : PageAnswers texts page endpointId first windowUntil)
    (window : HourWindow first windowUntil)
    (safe : safeIdentifier endpointId "endpoint_id" = .ok ()) :
    authoritativeHourCosts texts page endpointId first windowUntil = .ok none ↔
      (∃ fields, TotalFields page fields) ∧
        ∃ parsed, page.records.mapM (parseRecord texts endpointId) = .ok parsed ∧
          Halts windowUntil first (inOrder parsed) := by
  rw [← judgeHourCosts_none window safe]
  have shared : ∀ {fields : List (String × Json)}, TotalFields page fields →
      (authoritativeHourCosts texts page endpointId first windowUntil = .ok none ↔
        judgeHourCosts texts endpointId first windowUntil page.records = .ok none) := by
    intro fields totals
    rw [answers.costs_eq window.open_ totals, except_bind_ok]
    constructor
    · rintro ⟨verdict, judged, agreed⟩
      cases verdict with
      | none => exact judged
      | some found =>
          unfold agreeTotals at agreed
          obtain ⟨_, _, agreed⟩ := except_bind_ok.mp agreed
          cases (refuse_bind_ok.mp agreed).2
    · exact fun judged => ⟨none, judged, rfl⟩
  constructor
  · intro ok
    obtain ⟨fields, totals⟩ := shaped_of_ok ok
    exact ⟨⟨fields, totals⟩, (shared totals).mp ok⟩
  · rintro ⟨⟨fields, totals⟩, judged⟩
    exact (shared totals).mpr judged

/-- The verdict on a page is exact: costs for a complete page whose totals are the sums of its
records, and for no other; pending only when some hour of the window is no record; and the
same for every order of the records. -/
structure ExactHours (texts : BillingTexts) (page : BillingPage) (endpointId : String)
    (first windowUntil : Instant) : Prop where
  exact_ : (∃ costs, authoritativeHourCosts texts page endpointId first windowUntil =
      .ok (some costs)) ↔
    ∃ parsed, Complete texts endpointId first windowUntil page.records parsed ∧
      TotalsAre page (recordTotals parsed)
  hours : ∀ costs, authoritativeHourCosts texts page endpointId first windowUntil =
      .ok (some costs) →
    Tiles (fun cost : HourCost => cost.utcHourStart) (fun cost => cost.utcHourEnd) hour
      windowUntil first costs ∧ ∀ cost ∈ costs, cost.endpointId = endpointId
  pending : authoritativeHourCosts texts page endpointId first windowUntil = .ok none →
    ∃ parsed, page.records.mapM (parseRecord texts endpointId) = .ok parsed ∧
      HourMissing first windowUntil parsed
  order : ∀ others : List (List (String × Json)), others.Perm page.records →
    (authoritativeHourCosts texts (reordered page others) endpointId first windowUntil).toOption =
      (authoritativeHourCosts texts page endpointId first windowUntil).toOption

theorem toOption_congr {α ε : Type} {a b : Except ε α}
    (same : ∀ v, a = .ok v ↔ b = .ok v) : a.toOption = b.toOption := by
  cases a with
  | ok v =>
      rw [(same v).mp rfl]
  | error x =>
      cases b with
      | ok v => cases (same v).mpr rfl
      | error y => rfl

theorem toOption_ok {α ε : Type} {a b : Except ε α} {v : α} (same : a.toOption = b.toOption) :
    a = .ok v ↔ b = .ok v := by
  cases a <;> cases b <;> simp_all [Except.toOption]

/-- The costs do not depend on the order of the records. -/
theorem Complete.perm (complete : Complete texts endpointId first windowUntil rows records)
    (same : others.Perm rows) :
    ∃ parsed, Complete texts endpointId first windowUntil others parsed ∧
      parsed.Perm records ∧ inOrder parsed = inOrder records := by
  obtain ⟨parsed, ok, perm⟩ := mapM_perm complete.1 same
  have both := (inOrder_perm parsed).trans (perm.trans (inOrder_perm records).symm)
  have equal := Covers.unique (complete.2.perm (inOrder_perm records))
    (ordered_mergeSort records) (ordered_mergeSort parsed) both.symm
  exact ⟨parsed, ⟨ok, complete.2.perm perm⟩, perm, equal.symm⟩

theorem PageAnswers.some_perm (answers : PageAnswers texts page endpointId first windowUntil)
    (window : HourWindow first windowUntil) (same : others.Perm page.records)
    (ok : authoritativeHourCosts texts page endpointId first windowUntil = .ok (some costs)) :
    authoritativeHourCosts texts (reordered page others) endpointId first windowUntil =
      .ok (some costs) := by
  obtain ⟨parsed, complete, costed, totals⟩ := (answers.some_iff window).mp ok
  obtain ⟨parsed', complete', _, equal⟩ := complete.perm same
  refine ((answers.perm same).some_iff window).mpr ⟨parsed', complete', ?_, totals⟩
  rw [equal]
  exact costed

theorem PageAnswers.none_perm (answers : PageAnswers texts page endpointId first windowUntil)
    (window : HourWindow first windowUntil)
    (safe : safeIdentifier endpointId "endpoint_id" = .ok ())
    (unanimous : ∀ parsed, page.records.mapM (parseRecord texts endpointId) = .ok parsed →
      Unanimous first windowUntil parsed)
    (same : others.Perm page.records)
    (ok : authoritativeHourCosts texts page endpointId first windowUntil = .ok none) :
    authoritativeHourCosts texts (reordered page others) endpointId first windowUntil =
      .ok none := by
  obtain ⟨shaped, parsed, read, halts⟩ := (answers.none_iff window safe).mp ok
  obtain ⟨parsed', read', perm⟩ := mapM_perm read same
  have agree := (unanimous parsed read).perm perm
  have halts' := Pending.halts window agree ((Halts.pending window halts).perm perm)
  exact ((answers.perm same).none_iff window safe).mpr ⟨shaped, parsed', read', halts'⟩

/-- Where the verdict is exact, records that start together agree. -/
theorem ExactHours.unanimous (exact_ : ExactHours texts page endpointId first windowUntil)
    (window : HourWindow first windowUntil)
    (safe : safeIdentifier endpointId "endpoint_id" = .ok ())
    (answers : PageAnswers texts page endpointId first windowUntil)
    (shaped : ∃ fields, TotalFields page fields)
    (read : page.records.mapM (parseRecord texts endpointId) = .ok records) :
    Unanimous first windowUntil records := by
  refine unanimous_of_order window.start fun others perm => ?_
  -- An order of the records is an order of the rows they were read from.
  obtain ⟨rows, same, read'⟩ := mapM_perm_results read perm
  have pends : ∀ {page : BillingPage} {parsed : List BillingRecord},
      PageAnswers texts page endpointId first windowUntil →
      (∃ fields, TotalFields page fields) →
      page.records.mapM (parseRecord texts endpointId) = .ok parsed →
      (authoritativeHourCosts texts page endpointId first windowUntil = .ok none ↔
        Halts windowUntil first (inOrder parsed)) := by
    intro page parsed answers shaped read
    rw [answers.none_iff window safe]
    constructor
    · rintro ⟨_, parsed', read', halts⟩
      rw [read] at read'
      cases read'
      exact halts
    · exact fun halts => ⟨shaped, parsed, read, halts⟩
  rw [← pends (answers.perm same) shaped read', ← pends answers shaped read]
  exact toOption_ok (exact_.order rows same)

/-- The verdict on a page that answers the request is exact if and only if, of its records that
start together where the cursor meets them, either all pend or none does. -/
theorem exactHours_iff (window : HourWindow first windowUntil)
    (safe : safeIdentifier endpointId "endpoint_id" = .ok ())
    (answers : PageAnswers texts page endpointId first windowUntil) :
    ExactHours texts page endpointId first windowUntil ↔
      ((∃ fields, TotalFields page fields) →
        ∀ parsed, page.records.mapM (parseRecord texts endpointId) = .ok parsed →
          Unanimous first windowUntil parsed) := by
  constructor
  · intro exact_ shaped parsed read
    exact exact_.unanimous window safe answers shaped read
  · intro unanimous
    refine ⟨?_, ?_, ?_, ?_⟩
    · exact answers.costs_iff window safe
    · intro costs ok
      obtain ⟨parsed, complete, costed, _⟩ := (answers.some_iff window).mp ok
      obtain ⟨costs', costed', tiles, own, _⟩ := complete.hours window safe
      rw [costed] at costed'
      cases costed'
      exact ⟨tiles, own⟩
    · intro ok
      obtain ⟨shaped, parsed, read, halts⟩ := (answers.none_iff window safe).mp ok
      exact ⟨parsed, read,
        Pending.missing window (unanimous shaped parsed read) (Halts.pending window halts)⟩
    · intro others same
      refine toOption_congr fun verdict => ?_
      cases verdict with
      | some costs =>
          exact ⟨fun ok => (answers.perm same).some_perm window same.symm ok,
            fun ok => answers.some_perm window same ok⟩
      | none =>
          constructor
          · intro ok
            obtain ⟨fields, totals⟩ := shaped_of_ok ok
            have shaped : ∃ fields, TotalFields page fields := ⟨fields, totals⟩
            have agreed : ∀ parsed, others.mapM (parseRecord texts endpointId) = .ok parsed →
                Unanimous first windowUntil parsed := by
              intro parsed read
              obtain ⟨parsed', read', perm⟩ := mapM_perm read same.symm
              exact (unanimous shaped parsed' read').perm perm.symm
            exact (answers.perm same).none_perm window safe agreed same.symm ok
          · intro ok
            exact answers.none_perm window safe (unanimous (shaped_of_ok ok)) same ok

section

/-- The first half hours of 2024. -/
def halfHours : BillingTexts where
  fromIsoFormat text :=
    if text = "2024-01-01T00:00:00+00:00" then .aware (seconds 1704067200)
    else if text = "2024-01-01T00:30:00+00:00" then .aware (seconds 1704069000)
    else if text = "2024-01-01T01:00:00+00:00" then .aware (seconds 1704070800)
    else .invalid
  observation _ := "0000000000000000000000000000000000000000000000000000000000000000"
  observation_hex _ := by decide +kernel

/-- A record of the first hour, up to `endTime`. -/
def recordUpTo (endTime : String) : List (String × Json) :=
  [("startTime", .str "2024-01-01T00:00:00+00:00"), ("endTime", .str endTime),
    ("serverlessId", .str "endpoint-1"), ("totalAmount", .int 3), ("gpuAmount", .int 2),
    ("cpuAmount", .int 0), ("diskAmount", .int 1), ("feeAmount", .int 0)]

/-- A page for the first hour. -/
def pageOf (records : List (List (String × Json))) : BillingPage where
  records := records
  metadata := [
    ("query", .obj [("startTime", .str "2024-01-01T00:00:00+00:00"),
      ("endTime", .str "2024-01-01T01:00:00+00:00"), ("bucketSize", .str "hour"),
      ("serverlessId", .str "endpoint-1")]),
    ("recordCount", .int records.length),
    ("uniqueServerlessCount", .int 1),
    ("totals", .obj [("totalAmount", .int 3), ("gpuAmount", .int 2), ("cpuAmount", .int 0),
      ("diskAmount", .int 1), ("feeAmount", .int 0)])]

theorem firstOf2024 : HourWindow (seconds 1704067200) (seconds 1704070800) where
  start := by decide
  stop := by decide
  open_ := by decide

theorem pageOf_answers (records : List (List (String × Json))) :
    PageAnswers halfHours (pageOf records) "endpoint-1" (seconds 1704067200)
      (seconds 1704070800) where
  metadata := by
    have keys : ∀ n : Int, Json.hasKeys [("query", .null), ("recordCount", .int n),
        ("uniqueServerlessCount", .int 1), ("totals", .null)]
        ["query", "recordCount", "uniqueServerlessCount", "totals"] = true := by
      intro n
      rfl
    exact keys records.length
  query := ⟨_, _, _, rfl, by decide +kernel, by decide +kernel, by decide +kernel, rfl,
    by decide +kernel, by decide +kernel, rfl, by decide +kernel, by decide +kernel⟩
  recordCount := rfl
  uniqueServerlessCount := ⟨1, rfl, .inl rfl⟩

/-- Half an hour and the whole hour, in this order, are pending, and refused in the other. -/
theorem first_record_decides :
    PageAnswers halfHours (pageOf [recordUpTo "2024-01-01T00:30:00+00:00",
        recordUpTo "2024-01-01T01:00:00+00:00"]) "endpoint-1" (seconds 1704067200)
        (seconds 1704070800) ∧
      ¬ ExactHours halfHours (pageOf [recordUpTo "2024-01-01T00:30:00+00:00",
        recordUpTo "2024-01-01T01:00:00+00:00"]) "endpoint-1" (seconds 1704067200)
        (seconds 1704070800) := by
  refine ⟨pageOf_answers _, fun exact_ => ?_⟩
  have read : [recordUpTo "2024-01-01T00:30:00+00:00",
      recordUpTo "2024-01-01T01:00:00+00:00"].mapM (parseRecord halfHours "endpoint-1") =
      .ok [⟨seconds 1704067200, seconds 1704069000, ⟨⟨2, 0⟩, ⟨0, 0⟩, ⟨1, 0⟩, ⟨0, 0⟩, ⟨3, 0⟩⟩⟩,
        ⟨seconds 1704067200, seconds 1704070800, ⟨⟨2, 0⟩, ⟨0, 0⟩, ⟨1, 0⟩, ⟨0, 0⟩, ⟨3, 0⟩⟩⟩] := by
    decide +kernel
  have unanimous := exact_.unanimous firstOf2024 (by decide +kernel) (pageOf_answers _)
    ⟨_, rfl, by decide +kernel⟩ read
  have leads : Leads (seconds 1704067200) (seconds 1704067200) (seconds 1704067200)
      [⟨seconds 1704067200, seconds 1704069000, ⟨⟨2, 0⟩, ⟨0, 0⟩, ⟨1, 0⟩, ⟨0, 0⟩, ⟨3, 0⟩⟩⟩,
        ⟨seconds 1704067200, seconds 1704070800, ⟨⟨2, 0⟩, ⟨0, 0⟩, ⟨1, 0⟩, ⟨0, 0⟩, ⟨3, 0⟩⟩⟩] :=
    ⟨le_refl _, by decide, Tiles.covers hour_pos rfl⟩
  have pends := unanimous _ List.mem_cons_self _
    (List.mem_cons_of_mem _ List.mem_cons_self) rfl _ leads ⟨by decide, .inr ⟨rfl, by decide,
      by decide⟩⟩
  exact WholeHour.not_pends ⟨rfl, by decide⟩ pends

/-- A page with a whole record for its one hour has an exact verdict. -/
theorem exactHours_hour : ExactHours halfHours (pageOf [recordUpTo "2024-01-01T01:00:00+00:00"])
    "endpoint-1" (seconds 1704067200) (seconds 1704070800) := by
  refine (exactHours_iff firstOf2024 (by decide +kernel) (pageOf_answers _)).mpr ?_
  intro shaped parsed read r member r' member' together c leads pends
  have one : parsed.length = 1 := (mapM_ok_iff.mp read).length_eq.symm
  obtain ⟨only, rfl⟩ := List.length_eq_one_iff.mp one
  rw [List.mem_singleton.mp member'] at *
  rwa [List.mem_singleton.mp member] at pends

end

end KestrelRunpod.Serverless
