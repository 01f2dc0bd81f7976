import KestrelRunpod.Serverless.Hours
import KestrelRunpod.Serverless.Activation

/-!
# Batched billing reads

`read_exact_serverless_billing` asks for the hours of a window in batches.  Over a history of
whole hour records, a batch is decided by the hours themselves: it has costs when each of its
hours is there once (`EachOnce`), is pending when the first hour that is not there once is
absent (`FirstAbsent`), and is refused otherwise.  Both compose over adjacent batches, so the
batches together decide as a single query for the window does (`batched_read_exact`).
-/

namespace KestrelRunpod.Serverless

open Numeric Tiling Traverse Interleave

variable {texts : BillingTexts} {endpointId : String} {a b c m first windowUntil cursor : Instant}
  {records ordered : List BillingRecord} {costs : List HourCost}

/-! ## The hours of a history -/

/-- The records are whole UTC hours. -/
def WholeHours (records : List BillingRecord) : Prop :=
  ∀ r ∈ records, r.recordFrom % hour = 0 ∧ r.recordUntil = r.recordFrom + hour

/-- The records of a window. -/
def within (a b : Instant) (records : List BillingRecord) : List BillingRecord :=
  records.filter fun r => a ≤ r.recordFrom ∧ r.recordFrom < b

/-- Each hour of the window is there exactly once. -/
def EachOnce (a b : Instant) (records : List BillingRecord) : Prop :=
  ∀ t, Grid hour a b t → records.countP (fun r => r.recordFrom = t) = 1

/-- An hour of the window is absent, and those before it are there exactly once. -/
def FirstAbsent (a b : Instant) (records : List BillingRecord) : Prop :=
  ∃ c, Grid hour a b c ∧ (∀ r ∈ records, r.recordFrom ≠ c) ∧ EachOnce a c records

/-- An aligned instant of the window is one of its hours. -/
theorem grid_of_aligned {t : Instant} (alignedA : a % hour = 0) (alignedT : t % hour = 0)
    (after : a ≤ t) (before : t < b) : Grid hour a b t :=
  ⟨after, before, whole_hours alignedA alignedT⟩

theorem Grid.aligned {t : Instant} (grid : Grid hour a b t) (alignedA : a % hour = 0) :
    t % hour = 0 :=
  aligned_of_dvd alignedA grid.2.2

theorem countP_within {t : Instant} (after : a ≤ t) (before : t < b) :
    (within a b records).countP (fun r => r.recordFrom = t) =
      records.countP fun r => r.recordFrom = t := by
  unfold within
  rw [List.countP_filter]
  refine List.countP_congr fun r _ => ?_
  simp only [Bool.and_eq_true, decide_eq_true_eq]
  constructor
  · exact fun both => both.1
  · rintro rfl
    exact ⟨rfl, after, before⟩

/-- The records of a window cover it when each of its hours is there once. -/
theorem covers_within (alignedA : a % hour = 0) (whole : WholeHours records) :
    CoversRecords a b (within a b records) ↔ EachOnce a b records := by
  constructor
  · intro covers t grid
    rw [← countP_within grid.1 grid.2.1]
    exact covers.once t grid
  · intro once
    refine ⟨fun r member => ?_, fun r member => ?_, fun t grid => ?_⟩
    · exact (whole r (List.mem_of_mem_filter member)).2
    · obtain ⟨there, inside⟩ := List.mem_filter.mp member
      have inside := of_decide_eq_true inside
      exact grid_of_aligned alignedA (whole r there).1 inside.1 inside.2
    · rw [countP_within grid.1 grid.2.1]
      exact once t grid

/-- The loop halts at an hour that is absent, after hours that are there once. -/
theorem halts_within (alignedA : a % hour = 0) (whole : WholeHours records)
    (sorted : Ordered BillingRecord.recordFrom ordered)
    (same : ordered.Perm (within a b records)) :
    Halts b a ordered ↔ FirstAbsent a b records := by
  have inside : ∀ r ∈ ordered, r ∈ records ∧ a ≤ r.recordFrom ∧ r.recordFrom < b := by
    intro r member
    obtain ⟨there, inside⟩ := List.mem_filter.mp (same.subset member)
    exact ⟨there, of_decide_eq_true inside⟩
  constructor
  · intro halts
    obtain ⟨before, rest, c, split, tiles, ended⟩ := halts.split
    have covers := Tiles.covers hour_pos tiles
    have reach : c < b := by
      rcases ended with ⟨_, stops⟩ | ⟨r, _, _, pends⟩
      · exact stops
      · exact pends.before.1
    have beyond : ∀ r ∈ rest, c < r.recordFrom := by
      intro r member
      rcases ended with ⟨rfl, _⟩ | ⟨head, later, rfl, pends⟩
      · cases member
      · have there : head ∈ ordered := by
          rw [split]
          exact List.mem_append_right before List.mem_cons_self
        have ends := (whole head (inside head there).1).2
        have ahead : c < head.recordFrom := by
          rcases pends with ⟨_, ⟨ahead, _⟩ | ⟨starts, _, short⟩⟩
          · exact ahead
          · rw [ends, starts] at short
            exact absurd short (lt_irrefl _)
        rw [split] at sorted
        have after := (List.pairwise_cons.mp (List.pairwise_append.mp sorted).2.1).1
        rcases List.mem_cons.mp member with rfl | member
        · exact ahead
        · exact ahead.trans_le (after r member)
    have counted : ∀ t, a ≤ t → t ≤ c → records.countP (fun r => r.recordFrom = t) =
        before.countP fun r => r.recordFrom = t := by
      intro t after le
      have none : rest.countP (fun r => r.recordFrom = t) = 0 := by
        refine List.countP_eq_zero.mpr fun r member is => ?_
        have later := beyond r member
        rw [of_decide_eq_true is] at later
        exact absurd (later.trans_le le) (lt_irrefl _)
      rw [← countP_within after (le.trans_lt reach), ← same.countP_eq, split,
        List.countP_append, none, Nat.add_zero]
    refine ⟨c, ⟨Tiles.le hour_pos tiles, reach, Tiles.dvd tiles⟩, fun r member is => ?_,
      fun t grid => ?_⟩
    · have zero := counted c (Tiles.le hour_pos tiles) (le_refl c)
      have absent : before.countP (fun r => r.recordFrom = c) = 0 := by
        refine List.countP_eq_zero.mpr fun r member is => ?_
        have earlier := (covers.inside r member).2.1
        rw [of_decide_eq_true is] at earlier
        exact absurd earlier (lt_irrefl _)
      rw [absent] at zero
      exact List.countP_eq_zero.mp zero r member (decide_eq_true is)
    · rw [counted t grid.1 (le_of_lt grid.2.1)]
      exact covers.once t grid
  · rintro ⟨c, grid, absent, once⟩
    have aligned := Grid.aligned grid alignedA
    have prior : (ordered.filter fun r => r.recordFrom < c).Perm (within a c records) := by
      refine (same.filter _).trans (List.Perm.of_eq ?_)
      unfold within
      rw [List.filter_filter]
      refine List.filter_congr fun r _ => ?_
      have reach := grid.2.1
      rw [← Bool.decide_and, decide_eq_decide]
      exact ⟨fun both => ⟨both.2.1, both.1⟩, fun both => ⟨both.2, both.1, both.2.trans reach⟩⟩
    have covers := ((covers_within alignedA whole).mpr once).perm prior
    have tiles := Covers.tiles hour_pos covers (sorted.filter _) grid.1 grid.2.2
    rw [sorted.split c, halts_append tiles]
    cases rest : ordered.filter fun r => c ≤ r.recordFrom with
    | nil => exact grid.2.1
    | cons r later =>
        have there : r ∈ ordered.filter fun r => c ≤ r.recordFrom := by
          rw [rest]
          exact List.mem_cons_self
        obtain ⟨member, after⟩ := List.mem_filter.mp there
        obtain ⟨held, _, before⟩ := inside r member
        have after := lt_of_le_of_ne (of_decide_eq_true after) (absent r held).symm
        refine .inl ⟨?_, .inl ⟨after, before⟩⟩
        rw [(whole r held).2]
        exact Int.lt_add_of_pos_right _ hour_pos

/-! ## Adjacent windows -/

theorem grid_split {t : Instant} (alignedA : a % hour = 0) (alignedM : m % hour = 0)
    (after : a ≤ m) (before : m ≤ b) :
    Grid hour a b t ↔ Grid hour a m t ∨ Grid hour m b t := by
  constructor
  · intro grid
    have aligned := Grid.aligned grid alignedA
    by_cases earlier : t < m
    · exact .inl ⟨grid.1, earlier, grid.2.2⟩
    · exact .inr ⟨not_lt.mp earlier, grid.2.1, whole_hours alignedM aligned⟩
  · rintro (⟨le, lt, dvd⟩ | grid)
    · exact ⟨le, lt.trans_le before, dvd⟩
    · exact ⟨after.trans grid.1, grid.2.1, whole_hours alignedA (Grid.aligned grid alignedM)⟩

theorem eachOnce_split (alignedA : a % hour = 0) (alignedM : m % hour = 0) (after : a ≤ m)
    (before : m ≤ b) :
    EachOnce a b records ↔ EachOnce a m records ∧ EachOnce m b records := by
  unfold EachOnce
  simp only [grid_split alignedA alignedM after before]
  exact ⟨fun once => ⟨fun t grid => once t (.inl grid), fun t grid => once t (.inr grid)⟩,
    fun once t grid => grid.elim (once.1 t) (once.2 t)⟩

theorem absent_not_once (grid : Grid hour a b c) (absent : ∀ r ∈ records, r.recordFrom ≠ c)
    (once : EachOnce a b records) : False := by
  have some_ := once c grid
  have none : records.countP (fun r => r.recordFrom = c) = 0 :=
    List.countP_eq_zero.mpr fun r member is => absent r member (of_decide_eq_true is)
  rw [none] at some_
  cases some_

theorem firstAbsent_split (alignedA : a % hour = 0) (alignedM : m % hour = 0) (after : a ≤ m)
    (before : m ≤ b) :
    FirstAbsent a b records ↔
      FirstAbsent a m records ∨ EachOnce a m records ∧ FirstAbsent m b records := by
  constructor
  · rintro ⟨c, grid, absent, once⟩
    have aligned := Grid.aligned grid alignedA
    rcases (grid_split alignedA alignedM after before).mp grid with early | late
    · exact .inl ⟨c, early, absent, once⟩
    · obtain ⟨first, onward⟩ := (eachOnce_split alignedA alignedM after late.1).mp once
      exact .inr ⟨first, c, late, absent, onward⟩
  · rintro (⟨c, grid, absent, once⟩ | ⟨first, c, grid, absent, onward⟩)
    · exact ⟨c, (grid_split alignedA alignedM after before).mpr (.inl grid), absent, once⟩
    · exact ⟨c, (grid_split alignedA alignedM after before).mpr (.inr grid), absent,
        (eachOnce_split alignedA alignedM after grid.1).mpr ⟨first, onward⟩⟩

/-- The hours of adjacent windows, in order, are those of the two together. -/
theorem inOrder_split (alignedA : a % hour = 0) (after : a ≤ m) (before : m ≤ b)
    (whole : WholeHours records) (once : EachOnce a b records) :
    inOrder (within a b records) =
      inOrder (within a m records) ++ inOrder (within m b records) := by
  have covers := (covers_within alignedA whole).mpr once
  have sorted : ∀ {items : List BillingRecord}, Ordered BillingRecord.recordFrom (inOrder items) :=
    ordered_mergeSort _
  have bounds : ∀ {a b : Instant} {r : BillingRecord}, r ∈ inOrder (within a b records) →
      a ≤ r.recordFrom ∧ r.recordFrom < b := by
    intro a b r member
    exact of_decide_eq_true (List.mem_filter.mp ((inOrder_perm _).subset member)).2
  have joined : Ordered BillingRecord.recordFrom
      (inOrder (within a m records) ++ inOrder (within m b records)) :=
    List.pairwise_append.mpr ⟨sorted, sorted, fun r left q right =>
      (le_of_lt (bounds left).2).trans (bounds right).1⟩
  have parts : ((within a b records).filter fun r => r.recordFrom < m) = within a m records ∧
      ((within a b records).filter fun r => ¬ r.recordFrom < m) = within m b records := by
    unfold within
    rw [List.filter_filter, List.filter_filter]
    constructor
    · refine List.filter_congr fun r _ => ?_
      rw [← Bool.decide_and, decide_eq_decide]
      exact ⟨fun both => ⟨both.2.1, both.1⟩, fun both => ⟨both.2, both.1, both.2.trans_le before⟩⟩
    · refine List.filter_congr fun r _ => ?_
      rw [← Bool.decide_and, decide_eq_decide, not_lt]
      exact ⟨fun both => ⟨both.1, both.2.2⟩, fun both => ⟨both.1, after.trans both.1, both.2⟩⟩
  have same : (inOrder (within a b records)).Perm
      (inOrder (within a m records) ++ inOrder (within m b records)) := by
    refine (inOrder_perm _).trans ?_
    have halves := List.filter_append_perm (fun r : BillingRecord => decide (r.recordFrom < m))
      (within a b records)
    have other : ((within a b records).filter fun r => !decide (r.recordFrom < m)) =
        within m b records := by
      rw [← parts.2]
      refine List.filter_congr fun r _ => ?_
      rw [decide_not]
    rw [parts.1, other] at halves
    exact halves.symm.trans ((inOrder_perm _).symm.append (inOrder_perm _).symm)
  exact Covers.unique (covers.perm (inOrder_perm _)) sorted joined same

/-- The costs of the hours of a window, in their order. -/
def CostsOf (texts : BillingTexts) (endpointId : String) (a b : Instant)
    (records : List BillingRecord) (costs : List HourCost) : Prop :=
  (inOrder (within a b records)).mapM (recordHourCost texts endpointId) = .ok costs

/-- The outcome for a window: costs when each of its hours is there once, pending when one is
absent after others that are there once, and otherwise an error. -/
structure Decides (texts : BillingTexts) (endpointId : String) (records : List BillingRecord)
    (a b : Instant) (outcome : Except Exn (Option (List HourCost))) : Prop where
  some_ : ∀ costs, outcome = .ok (some costs) ↔
    EachOnce a b records ∧ CostsOf texts endpointId a b records costs
  none_ : outcome = .ok none ↔ FirstAbsent a b records

/-- The hours of a window decide the outcome. -/
theorem Decides.unique {one other : Except Exn (Option (List HourCost))}
    (first : Decides texts endpointId records a b one)
    (second : Decides texts endpointId records a b other) : one.toOption = other.toOption := by
  refine toOption_congr fun verdict => ?_
  cases verdict with
  | none => rw [first.none_, second.none_]
  | some costs => rw [first.some_, second.some_]

/-- A window without hours has no costs. -/
theorem Decides.empty : Decides texts endpointId records b b (.ok (some [])) := by
  have none : ∀ t, ¬ Grid hour b b t := fun t grid => absurd (grid.1.trans_lt grid.2.1) (lt_irrefl _)
  have nothing : within b b records = [] := by
    unfold within
    refine List.filter_eq_nil_iff.mpr fun r _ inside => ?_
    have inside := of_decide_eq_true inside
    exact absurd (inside.1.trans_lt inside.2) (lt_irrefl _)
  constructor
  · intro costs
    unfold CostsOf
    rw [nothing, inOrder, List.mergeSort_nil]
    constructor
    · intro is
      cases is
      exact ⟨fun t grid => absurd grid (none t), rfl⟩
    · rintro ⟨_, is⟩
      cases is
      rfl
  · constructor
    · intro is
      cases is
    · rintro ⟨c, grid, _⟩
      exact absurd grid (none c)

section

variable (alignedA : a % hour = 0) (alignedM : m % hour = 0) (after : a ≤ m) (before : m ≤ b)
include alignedA alignedM after before

/-- What is pending early is pending. -/
theorem Decides.pending (first : Decides texts endpointId records a m (.ok none)) :
    Decides texts endpointId records a b (.ok none) := by
  have early := first.none_.mp rfl
  constructor
  · intro costs
    constructor
    · intro is
      cases is
    · rintro ⟨once, _⟩
      obtain ⟨c, grid, absent, _⟩ := early
      have part := ((eachOnce_split alignedA alignedM after before).mp once).1
      exact absurd part fun part => absent_not_once grid absent part
  · exact iff_of_true rfl ((firstAbsent_split alignedA alignedM after before).mpr (.inl early))

/-- What is refused early is refused, where the hours have costs. -/
theorem Decides.refused {x : Exn} (first : Decides texts endpointId records a m (.error x))
    (costed : EachOnce a m records → ∃ costs, CostsOf texts endpointId a m records costs)
    (y : Exn) : Decides texts endpointId records a b (.error y) := by
  have never : ¬ EachOnce a m records := by
    intro once
    obtain ⟨costs, is⟩ := costed once
    cases (first.some_ costs).mpr ⟨once, is⟩
  constructor
  · intro costs
    constructor
    · intro is
      cases is
    · rintro ⟨once, _⟩
      exact absurd ((eachOnce_split alignedA alignedM after before).mp once).1 never
  · constructor
    · intro is
      cases is
    · intro absent
      rcases (firstAbsent_split alignedA alignedM after before).mp absent with early | ⟨once, _⟩
      · cases first.none_.mpr early
      · exact absurd once never

/-- Costs for the hours so far are followed by what is decided for the rest. -/
theorem Decides.append (whole : WholeHours records)
    {outcome : Except Exn (Option (List HourCost))}
    (first : Decides texts endpointId records a m (.ok (some costs)))
    (second : Decides texts endpointId records m b outcome) :
    Decides texts endpointId records a b (outcome.map fun others => others.map (costs ++ ·)) := by
  obtain ⟨once, costed⟩ := (first.some_ costs).mp rfl
  constructor
  · intro all
    rw [eachOnce_split alignedA alignedM after before]
    constructor
    · intro is
      cases outcome with
      | error x => cases is
      | ok verdict =>
          cases verdict with
          | none => cases is
          | some others =>
              cases is
              obtain ⟨onward, costed'⟩ := (second.some_ others).mp rfl
              refine ⟨⟨once, onward⟩, ?_⟩
              unfold CostsOf
              rw [inOrder_split alignedA after before whole
                ((eachOnce_split alignedA alignedM after before).mpr ⟨once, onward⟩)]
              exact mapM_append_ok.mpr ⟨costs, others, costed, costed', rfl⟩
    · rintro ⟨⟨once, onward⟩, is⟩
      unfold CostsOf at is
      rw [inOrder_split alignedA after before whole
        ((eachOnce_split alignedA alignedM after before).mpr ⟨once, onward⟩)] at is
      obtain ⟨costs', others, costed', rest, rfl⟩ := mapM_append_ok.mp is
      unfold CostsOf at costed
      rw [costed] at costed'
      cases costed'
      rw [(second.some_ others).mpr ⟨onward, rest⟩]
      rfl
  · rw [firstAbsent_split alignedA alignedM after before]
    constructor
    · intro is
      cases outcome with
      | error x => cases is
      | ok verdict =>
          cases verdict with
          | some others => cases is
          | none => exact .inr ⟨once, second.none_.mp rfl⟩
    · rintro (⟨c, grid, absent, _⟩ | ⟨_, late⟩)
      · exact absurd once fun once => absent_not_once grid absent once
      · rw [second.none_.mpr late]
        rfl

end

/-! ## A provider's history -/

/-- The provider answers each query inside the window with the records of that query's own
window, in some order, and with their totals. -/
structure BillingHistory (texts : BillingTexts) (endpointId : String)
    (answer : Instant → Instant → BillingPage) (records : List BillingRecord)
    (first windowUntil : Instant) : Prop where
  whole : WholeHours records
  answers : ∀ a b, HourWindow a b → first ≤ a → b ≤ windowUntil →
    PageAnswers texts (answer a b) endpointId a b
  own : ∀ a b, HourWindow a b → first ≤ a → b ≤ windowUntil →
    ∃ parsed, (answer a b).records.mapM (parseRecord texts endpointId) = .ok parsed ∧
      parsed.Perm (within a b records) ∧ TotalsAre (answer a b) (recordTotals parsed)

variable {answer : Instant → Instant → BillingPage}

theorem BillingHistory.sound
    (history : BillingHistory texts endpointId answer records first windowUntil)
    (window : HourWindow a b) (after : first ≤ a) (before : b ≤ windowUntil) :
    ∀ r ∈ within a b records, Sound texts endpointId r := by
  obtain ⟨parsed, read, same, _⟩ := history.own a b window after before
  exact fun r member => sound_of_parsed read r (same.symm.subset member)

/-- Hours that are there once have costs. -/
theorem BillingHistory.costed
    (history : BillingHistory texts endpointId answer records first windowUntil)
    (safe : safeIdentifier endpointId "endpoint_id" = .ok ()) (window : HourWindow a b)
    (after : first ≤ a) (before : b ≤ windowUntil) (once : EachOnce a b records) :
    ∃ costs, CostsOf texts endpointId a b records costs ∧
      costs.map (fun cost => cost.toHourAmounts) =
        (inOrder (within a b records)).map fun r => r.amounts := by
  have covers := (covers_within window.start history.whole).mpr once
  have tiles := Covers.tiles hour_pos (covers.perm (inOrder_perm _)) (ordered_mergeSort _)
    (le_of_lt window.open_) (whole_hours window.start window.stop)
  have sound := history.sound window after before
  obtain ⟨costs, costed, _, _, amounts⟩ := costs_of_tiles safe
    (fun r member => sound r ((inOrder_perm _).subset member)) window.start tiles
  exact ⟨costs, costed, amounts⟩

/-- A query is decided by the hours of its window. -/
theorem BillingHistory.decides
    (history : BillingHistory texts endpointId answer records first windowUntil)
    (safe : safeIdentifier endpointId "endpoint_id" = .ok ()) (window : HourWindow a b)
    (after : first ≤ a) (before : b ≤ windowUntil) :
    Decides texts endpointId records a b
      (authoritativeHourCosts texts (answer a b) endpointId a b) := by
  have answers := history.answers a b window after before
  obtain ⟨parsed, read, same, totals⟩ := history.own a b window after before
  have order : (inOrder parsed).Perm (within a b records) := (inOrder_perm parsed).trans same
  have hours : CoversRecords a b parsed ↔ EachOnce a b records := by
    rw [← covers_within window.start history.whole]
    exact ⟨fun covers => covers.perm same.symm, fun covers => covers.perm same⟩
  have together : EachOnce a b records → inOrder parsed = inOrder (within a b records) :=
    fun once => Covers.unique ((hours.mpr once).perm (inOrder_perm _)) (ordered_mergeSort _)
      (ordered_mergeSort _) (order.trans (inOrder_perm _).symm)
  constructor
  · intro costs
    rw [answers.some_iff window]
    constructor
    · rintro ⟨parsed', ⟨read', covers⟩, costed, _⟩
      rw [read] at read'
      cases read'
      have once := hours.mp covers
      rw [together once] at costed
      exact ⟨once, costed⟩
    · rintro ⟨once, costed⟩
      obtain ⟨costs', costed', amounts⟩ := history.costed safe window after before once
      unfold CostsOf at costed costed'
      rw [costed] at costed'
      cases costed'
      refine ⟨parsed, ⟨read, hours.mpr once⟩, ?_, ?_⟩
      · rw [together once]
        exact costed
      · obtain ⟨fields, expected, shaped, stated, equal⟩ := totals
        refine ⟨fields, expected, shaped, stated, ?_⟩
        rw [hourCostTotals_eq amounts, sameAs_perm (inOrder_perm _), ← sameAs_perm same]
        exact equal
  · rw [answers.none_iff window safe]
    constructor
    · rintro ⟨_, parsed', read', halts⟩
      rw [read] at read'
      cases read'
      exact (halts_within window.start history.whole (ordered_mergeSort _) order).mp halts
    · intro absent
      obtain ⟨fields, _, shaped, _⟩ := totals
      exact ⟨⟨fields, shaped⟩, parsed, read,
        (halts_within window.start history.whole (ordered_mergeSort _) order).mpr absent⟩

/-! ## The batch loop -/

variable {d : Digests} {α : Type} {h h' : Past d} {readAt : Instant} {batchHours : ℕ}

/-- The query that an event sends, if it sends one. -/
def sentQuery : Event (Effects d) → Option (Instant × Instant)
  | ⟨.send (.serverlessBilling a b _), _⟩ => some (a, b)
  | _ => none

/-- The queries of a coroutine, oldest first. -/
def queries (past : Past d) : List (Instant × Instant) := (past.filterMap sentQuery).reverse

/-- The provider answers, the clock reads `readAt`, and nothing is cancelled. -/
def Served (answer : Instant → Instant → BillingPage) (readAt : Instant) :
    Event (Effects d) → Prop
  | ⟨.now, t⟩ => t = readAt
  | ⟨.recv (.serverlessBilling a b _), page⟩ => page = .ok (answer a b)
  | ⟨.joined, cancelled⟩ => cancelled = false
  | _ => True

/-- The windows follow one another from a cursor to `reached`, none longer than a batch. -/
def Batches (batchHours : ℕ) (reached : Instant) : Instant → List (Instant × Instant) → Prop
  | c, [] => c = reached
  | c, q :: rest => q.1 = c ∧ HourWindow q.1 q.2 ∧ q.2 ≤ q.1 + batchHours * hour ∧
      Batches batchHours reached q.2 rest

theorem Batches.le {reached : Instant} {qs : List (Instant × Instant)}
    (batches : Batches batchHours reached c qs) : c ≤ reached := by
  induction qs generalizing c with
  | nil => exact le_of_eq batches
  | cons q rest ih =>
      obtain ⟨rfl, window, _, onward⟩ := batches
      exact (le_of_lt window.open_).trans (ih onward)

/-- Each instant that the windows span is in exactly one of them. -/
theorem Batches.once {reached t : Instant} {qs : List (Instant × Instant)}
    (batches : Batches batchHours reached c qs) (before : t < reached) :
    qs.countP (fun q => q.1 ≤ t ∧ t < q.2) = if c ≤ t then 1 else 0 := by
  induction qs generalizing c with
  | nil =>
      have same : c = reached := batches
      rw [List.countP_nil, if_neg (not_le.mpr (same ▸ before))]
  | cons q rest ih =>
      obtain ⟨rfl, window, _, onward⟩ := batches
      have length := window.open_
      rw [List.countP_cons, ih onward]
      by_cases inside : q.1 ≤ t ∧ t < q.2
      · rw [if_neg (not_le.mpr inside.2), if_pos inside.1, if_pos (decide_eq_true inside)]
      · rw [if_neg (fun is => inside (of_decide_eq_true is)), Nat.add_zero]
        by_cases later : q.2 ≤ t
        · rw [if_pos later, if_pos ((le_of_lt length).trans later)]
        · rw [if_neg later, if_neg fun early => inside ⟨early, not_le.mp later⟩]

/-- Where a batch ends: after a whole number of hours, inside the window. -/
theorem batch_window (batch : 1 ≤ batchHours) (aligned : cursor % hour = 0)
    (stop : windowUntil % hour = 0) (open_ : cursor < windowUntil) :
    let batchUntil := min windowUntil
      (cursor + min (batchHours : Int) ((windowUntil - cursor) / hour) * hour)
    HourWindow cursor batchUntil ∧ batchUntil ≤ windowUntil ∧
      batchUntil ≤ cursor + batchHours * hour := by
  have length : (1 : ℤ) ≤ min (batchHours : Int) ((windowUntil - cursor) / hour) := by
    unfold hour seconds at *
    unfold Instant at *
    omega
  have whole : (windowUntil - cursor) / hour * hour = windowUntil - cursor :=
    Int.ediv_mul_cancel (whole_hours aligned stop)
  generalize hours : min (batchHours : Int) ((windowUntil - cursor) / hour) = n at *
  have inside : cursor + n * hour ≤ windowUntil := by
    have le : n ≤ (windowUntil - cursor) / hour := hours ▸ min_le_right _ _
    have scaled := Int.mul_le_mul_of_nonneg_right le (le_of_lt hour_pos)
    rw [whole] at scaled
    unfold Instant at *
    omega
  have grows : 1 * hour ≤ n * hour := Int.mul_le_mul_of_nonneg_right length (le_of_lt hour_pos)
  have bounded : n * hour ≤ batchHours * hour :=
    Int.mul_le_mul_of_nonneg_right (hours ▸ min_le_left _ _) (le_of_lt hour_pos)
  have positive := hour_pos
  dsimp only
  rw [min_eq_right inside]
  refine ⟨⟨aligned, ?_, ?_⟩, inside, ?_⟩
  · rw [Int.add_mul_emod_self_right, aligned]
  · unfold Instant at *
    omega
  · unfold Instant at *
    omega

/-- A served query resumes with the provider's page. -/
theorem ends_query {f : BillingPage → Co d α} {o : Except Exn α}
    (served : ∀ e ∈ h', Served answer readAt e)
    (ends : Program.Ends (awaitOwned (await (.serverlessBilling a b endpointId)) >>= f) h h' o) :
    Program.Ends (f (answer a b))
      (⟨.joined, false⟩ :: ⟨.recv (.serverlessBilling a b endpointId), .ok (answer a b)⟩ ::
        ⟨.send (.serverlessBilling a b endpointId), ()⟩ :: h) h' o := by
  have there : ∀ {e : Event (Effects d)} {earlier : Past d}, e :: earlier <:+ h' →
      Served answer readAt e := fun suffix => served _ (suffix.subset List.mem_cons_self)
  cases ends with
  | perform sent ends =>
      cases ends with
      | perform reply ends =>
          have received : reply = .ok (answer a b) := there ends.suffix
          subst received
          cases ends with
          | perform cancelled ends =>
              have joined : cancelled = false := there ends.suffix
              subst joined
              exact ends

theorem query_ends (page : BillingPage) {f : BillingPage → Co d α} {o : Except Exn α}
    (ends : Program.Ends (f page)
      (⟨.joined, false⟩ :: ⟨.recv (.serverlessBilling a b endpointId), .ok page⟩ ::
        ⟨.send (.serverlessBilling a b endpointId), ()⟩ :: h) h' o) :
    Program.Ends (awaitOwned (await (.serverlessBilling a b endpointId)) >>= f) h h' o := by
  refine .perform () ?_
  refine .perform (Except.ok page : Except Exn BillingPage) ?_
  refine .perform (false : Bool) ?_
  exact ends

theorem queries_query (past : Past d) (cancelled : Bool) (page : Except Exn BillingPage) :
    queries (⟨.joined, cancelled⟩ :: ⟨.recv (.serverlessBilling a b endpointId), page⟩ ::
      ⟨.send (.serverlessBilling a b endpointId), ()⟩ :: past) = queries past ++ [(a, b)] := by
  unfold queries
  exact List.reverse_cons

theorem ends_ofExcept {e : Except Exn α} {f : α → Co d β} {o : Except Exn β}
    (ends : Program.Ends (Program.ofExcept e >>= f) h h' o) :
    (∃ a, e = .ok a ∧ Program.Ends (f a) h h' o) ∨ ∃ x, e = .error x ∧ h' = h ∧ o = .error x := by
  cases e with
  | ok a => exact .inl ⟨a, rfl, ends⟩
  | error x =>
      cases ends
      exact .inr ⟨x, rfl, rfl, rfl⟩

theorem ofExcept_ends {e : Except Exn α} {f : α → Co d β} {o : Except Exn β} {a : α}
    (ok : e = .ok a) (ends : Program.Ends (f a) h h' o) :
    Program.Ends (Program.ofExcept e >>= f) h h' o := by
  subst ok
  exact ends

/-- At the end of the window nothing is left to decide. -/
theorem finished_decides {o : Except Exn (Option (List HourCost))}
    (stopped : ¬ cursor < windowUntil) (before : cursor ≤ windowUntil)
    (ends : Program.Ends (.pure (some []) : Co d (Option (List HourCost))) h h' o) :
    Decides texts endpointId records cursor windowUntil o ∧ ∃ qs reached,
      queries h' = queries h ++ qs ∧ Batches batchHours reached cursor qs ∧
        reached ≤ windowUntil ∧ ∀ costs, o = .ok (some costs) → reached = windowUntil := by
  have same := le_antisymm before (not_lt.mp stopped)
  cases ends
  rw [← same]
  exact ⟨.empty, [], cursor, (List.append_nil _).symm, rfl, le_refl _, fun _ _ => rfl⟩

section

variable (history : BillingHistory texts endpointId answer records first windowUntil)
  (safe : safeIdentifier endpointId "endpoint_id" = .ok ()) (stop : windowUntil % hour = 0)
  (batch : 1 ≤ batchHours)
include history safe stop batch

/-- The batches decide what is left of the window as its hours do; they follow one another, and
where there are costs they reach its end. -/
theorem readBatches_ends {fuel : ℕ} {o : Except Exn (Option (List HourCost))}
    (aligned : cursor % hour = 0) (after : first ≤ cursor) (before : cursor ≤ windowUntil)
    (served : ∀ e ∈ h', Served answer readAt e)
    (ends : Program.Ends (readBatches texts endpointId batchHours windowUntil fuel cursor)
      h h' o) :
    Decides texts endpointId records cursor windowUntil o ∧ ∃ qs reached,
      queries h' = queries h ++ qs ∧ Batches batchHours reached cursor qs ∧
        reached ≤ windowUntil ∧ ∀ costs, o = .ok (some costs) → reached = windowUntil := by
  induction fuel generalizing cursor h o with
  | zero =>
      unfold readBatches at ends
      split at ends
      · cases ends
      · rename_i stopped
        exact finished_decides stopped before ends
  | succ fuel ih =>
      unfold readBatches at ends
      split at ends
      · rename_i open_
        obtain ⟨window, inside, short⟩ := batch_window batch aligned stop open_
        dsimp only at ends window inside short
        generalize min windowUntil (cursor + min (batchHours : Int)
          ((windowUntil - cursor) / hour) * hour) = batchUntil at *
        have read := ends_query served ends
        have decided := history.decides safe window after inside
        have single : Batches batchHours batchUntil cursor [(cursor, batchUntil)] :=
          ⟨rfl, window, short, rfl⟩
        have span := le_of_lt window.open_
        rcases ends_ofExcept read with ⟨observed, is, rest⟩ | ⟨x, is, rfl, rfl⟩
        · rw [is] at decided
          cases observed with
          | none =>
              cases rest
              refine ⟨.pending aligned window.stop span inside decided, _, batchUntil,
                queries_query _ _ _, single, inside, ?_⟩
              intro costs is
              cases is
          | some costs =>
              dsimp only at rest
              rcases Program.ends_bind.mp rest with ⟨h₁, others, loop, last⟩ | ⟨x, loop, rfl⟩
              · cases last
                obtain ⟨onward, qs, reached, sent, batches, le, full⟩ :=
                  ih window.stop (after.trans span) inside loop
                refine ⟨.append aligned window.stop span inside history.whole decided onward,
                  (cursor, batchUntil) :: qs, reached, ?_, ⟨rfl, window, short, batches⟩, le, ?_⟩
                · rw [sent, queries_query, List.append_assoc]
                  rfl
                · intro all is
                  cases others with
                  | none => cases is
                  | some others => exact full others rfl
              · obtain ⟨onward, qs, reached, sent, batches, le, _⟩ :=
                  ih window.stop (after.trans span) inside loop
                refine ⟨.append aligned window.stop span inside history.whole decided onward,
                  (cursor, batchUntil) :: qs, reached, ?_, ⟨rfl, window, short, batches⟩, le, ?_⟩
                · rw [sent, queries_query, List.append_assoc]
                  rfl
                · intro all is
                  cases is
        · rw [is] at decided
          refine ⟨.refused aligned window.stop span inside decided ?_ x, _, batchUntil,
            queries_query _ _ _, single, inside, ?_⟩
          · intro once
            obtain ⟨costs, costed, _⟩ := history.costed safe window after inside once
            exact ⟨costs, costed⟩
          · intro costs is
            cases is
      · rename_i stopped
        exact finished_decides stopped before ends

omit history safe in
/-- With one batch in the budget for each hour left, the loop ends. -/
theorem readBatches_total {fuel : ℕ} (aligned : cursor % hour = 0)
    (enough : (windowUntil - cursor) / hour ≤ fuel)
    (served : ∀ e ∈ h, Served answer readAt e) :
    ∃ h' o, Program.Ends (readBatches texts endpointId batchHours windowUntil fuel cursor) h h' o ∧
      ∀ e ∈ h', Served answer readAt e := by
  induction fuel generalizing cursor h with
  | zero =>
      unfold readBatches
      have stopped : ¬ cursor < windowUntil := by
        intro open_
        have one := step_le hour_pos open_ (whole_hours aligned stop)
        unfold hour seconds at *
        unfold Instant at *
        omega
      rw [if_neg stopped]
      exact ⟨h, _, .pure _ _, served⟩
  | succ fuel ih =>
      unfold readBatches
      by_cases open_ : cursor < windowUntil
      · rw [if_pos open_]
        obtain ⟨window, inside, short⟩ := batch_window batch aligned stop open_
        dsimp only at window inside short ⊢
        generalize min windowUntil (cursor + min (batchHours : Int)
          ((windowUntil - cursor) / hour) * hour) = batchUntil at *
        have onward := step_le hour_pos window.open_ (whole_hours aligned window.stop)
        have less : (windowUntil - batchUntil) / hour ≤ fuel := by
          unfold hour seconds at *
          unfold Instant at *
          omega
        have served₁ : ∀ e ∈ (⟨.joined, false⟩ ::
            ⟨.recv (.serverlessBilling cursor batchUntil endpointId),
              .ok (answer cursor batchUntil)⟩ ::
            ⟨.send (.serverlessBilling cursor batchUntil endpointId), ()⟩ :: h : Past d),
            Served answer readAt e := by
          simp only [List.forall_mem_cons]
          exact ⟨rfl, rfl, trivial, served⟩
        cases verdict : authoritativeHourCosts texts (answer cursor batchUntil) endpointId cursor
            batchUntil with
        | error x =>
            refine ⟨_, .error x, query_ends (answer cursor batchUntil) ?_, served₁⟩
            rw [verdict]
            exact .throw x _
        | ok observed =>
            cases observed with
            | none =>
                refine ⟨_, .ok none, query_ends (answer cursor batchUntil)
                  (ofExcept_ends verdict ?_), served₁⟩
                exact .pure none _
            | some costs =>
                obtain ⟨h', o, loop, served'⟩ := ih window.stop less served₁
                cases o with
                | error x =>
                    refine ⟨h', .error x, query_ends (answer cursor batchUntil)
                  (ofExcept_ends verdict ?_), served'⟩
                    exact Program.ends_bind.mpr (.inr ⟨x, loop, rfl⟩)
                | ok others =>
                    refine ⟨h', .ok (others.map (costs ++ ·)),
                      query_ends (answer cursor batchUntil)
                  (ofExcept_ends verdict ?_), served'⟩
                    exact loop.andThen (.pure _ _)
      · rw [if_neg open_]
        exact ⟨h, _, .pure _ _, served⟩

end

/-! ## The read -/

/-- What a batched read of a window is: it ends; before the window has closed it is pending
without a query; and after that it is the verdict of a single query for the whole window.  It
has costs exactly when each hour of the window is there once, and then each hour is in exactly
one of its queries. -/
structure BatchedRead (texts : BillingTexts) (endpointId : String)
    (answer : Instant → Instant → BillingPage) (records : List BillingRecord)
    (first windowUntil : Instant) (read : Co d (Option (List HourCost))) : Prop where
  ends : ∀ readAt, ∃ h o, Program.Ends read [] h o ∧ ∀ e ∈ h, Served answer readAt e
  early : ∀ readAt h o, Program.Ends read [] h o → (∀ e ∈ h, Served answer readAt e) →
    readAt < windowUntil → o = .ok none ∧ queries h = []
  same : ∀ readAt h o, Program.Ends read [] h o → (∀ e ∈ h, Served answer readAt e) →
    windowUntil ≤ readAt →
    o.toOption =
      (authoritativeHourCosts texts (answer first windowUntil) endpointId first
        windowUntil).toOption
  complete : ∀ readAt h o, Program.Ends read [] h o → (∀ e ∈ h, Served answer readAt e) →
    windowUntil ≤ readAt →
    ((∃ costs, o = .ok (some costs)) ↔ EachOnce first windowUntil records)
  once : ∀ readAt h o costs, Program.Ends read [] h o → (∀ e ∈ h, Served answer readAt e) →
    o = .ok (some costs) → ∀ t, Grid hour first windowUntil t →
    (queries h).countP (fun q => q.1 ≤ t ∧ t < q.2) = 1

/-- The one hour of the sample's history. -/
def firstHour : BillingRecord :=
  ⟨seconds 1704067200, seconds 1704070800, ⟨⟨2, 0⟩, ⟨0, 0⟩, ⟨1, 0⟩, ⟨0, 0⟩, ⟨3, 0⟩⟩⟩

/-- A lifecycle within the first hour of 2024. -/
theorem sample_bounds : hourStart (seconds 1704067260) = seconds 1704067200 ∧
    hourEnd (seconds 1704067320) = seconds 1704070800 := by decide

/-- The provider has the one hour of that lifecycle. -/
theorem sample_history : BillingHistory halfHours "endpoint-1"
    (fun _ _ => pageOf [recordUpTo "2024-01-01T01:00:00+00:00"]) [firstHour]
    (seconds 1704067200) (seconds 1704070800) := by
  have only : ∀ {a b : Instant}, HourWindow a b → seconds 1704067200 ≤ a →
      b ≤ seconds 1704070800 → a = seconds 1704067200 ∧ b = seconds 1704070800 := by
    intro a b window after before
    have length := step_le hour_pos window.open_ (whole_hours window.start window.stop)
    unfold hour seconds at *
    unfold Instant at *
    omega
  constructor
  · intro r member
    rw [List.mem_singleton.mp member]
    decide
  · intro a b window after before
    obtain ⟨rfl, rfl⟩ := only window after before
    exact pageOf_answers _
  · intro a b window after before
    obtain ⟨rfl, rfl⟩ := only window after before
    refine ⟨[firstHour], by decide +kernel, List.Perm.of_eq (by decide), _,
      ⟨⟨2, 0⟩, ⟨0, 0⟩, ⟨1, 0⟩, ⟨0, 0⟩, ⟨3, 0⟩⟩, ⟨rfl, by decide +kernel⟩, by decide +kernel,
      by decide +kernel⟩

theorem sample_once : EachOnce (seconds 1704067200) (seconds 1704070800) [firstHour] := by
  intro t grid
  have same : t = seconds 1704067200 := by
    obtain ⟨after, before, k, is⟩ := grid
    unfold hour seconds at *
    omega
  rw [same]
  decide

end KestrelRunpod.Serverless
