import Mathlib.Data.List.Count
import Mathlib.Data.List.Sort
import Mathlib.Data.List.Nodup

/-!
# Tilings of a span

Items with a start and an end tile a span in steps when they follow one another from its lower
to its upper end, each one step long.  Stated without an order (`Covers`), each step of the
span is exactly one item, and there are no others; a list sorted by start tiles a span if and
only if it covers it (`tiles_iff_covers`).
-/

namespace Tiling

variable {α : Type} (start stop : α → ℤ) (step : ℤ)

/-- The items follow one another from `lo` to `hi`, one step each. -/
def Tiles (hi : ℤ) : ℤ → List α → Prop
  | lo, [] => lo = hi
  | lo, a :: rest => start a = lo ∧ stop a = lo + step ∧ Tiles hi (lo + step) rest

/-- The steps of the span from `lo` to `hi`. -/
def Grid (lo hi t : ℤ) : Prop := lo ≤ t ∧ t < hi ∧ step ∣ t - lo

/-- Every item is a step of the span, and every step of it is exactly one item. -/
structure Covers (lo hi : ℤ) (items : List α) : Prop where
  whole : ∀ a ∈ items, stop a = start a + step
  inside : ∀ a ∈ items, Grid step lo hi (start a)
  once : ∀ t, Grid step lo hi t → items.countP (fun a => start a = t) = 1

/-- Sorted by start. -/
def Ordered (items : List α) : Prop := items.Pairwise fun a b => start a ≤ start b

variable {start stop step} {lo hi t : ℤ} {items : List α}

theorem Covers.perm {others : List α} (covers : Covers start stop step lo hi items)
    (same : others.Perm items) : Covers start stop step lo hi others where
  whole a member := covers.whole a (same.subset member)
  inside a member := covers.inside a (same.subset member)
  once t grid := by rw [same.countP_eq, covers.once t grid]

/-- Two items of a covering that start together are the same one. -/
theorem Covers.nodup_starts (covers : Covers start stop step lo hi items) :
    (items.map start).Nodup := by
  rw [List.nodup_iff_count_le_one]
  intro t
  rw [List.count, List.countP_map]
  by_cases starts : t ∈ items.map start
  · obtain ⟨a, member, rfl⟩ := List.mem_map.mp starts
    have once := covers.once (start a) (covers.inside a member)
    have same : (fun x => x == start a) ∘ start = fun b => decide (start b = start a) := by
      funext b
      simp only [Function.comp_apply, beq_eq_decide]
    rw [same, once]
  · refine le_of_eq_of_le (List.countP_eq_zero.mpr fun a member => ?_) (Nat.zero_le 1)
    simp only [Function.comp_apply, beq_iff_eq]
    rintro rfl
    exact starts (List.mem_map_of_mem member)

theorem Tiles.dvd (tiles : Tiles start stop step hi lo items) : step ∣ hi - lo := by
  induction items generalizing lo with
  | nil =>
      have same : lo = hi := tiles
      rw [same, Int.sub_self]
      exact Int.dvd_zero step
  | cons a rest ih =>
      have onward := ih tiles.2.2
      have split : hi - lo = (hi - (lo + step)) + step := by omega
      rw [split]
      exact Int.dvd_add onward (Int.dvd_refl step)

theorem ordered_mergeSort (items : List α) :
    Ordered start (items.mergeSort fun a b => start a ≤ start b) := by
  have sorted := @List.pairwise_mergeSort α (fun a b => decide (start a ≤ start b))
    (fun a b c ab bc => by simp_all; omega) (fun a b => by simp; omega) items
  exact sorted.imp fun le => of_decide_eq_true le

/-- A list sorted by start is what starts before `t`, and then the rest. -/
theorem Ordered.split (ordered : Ordered start items) (t : ℤ) :
    items = items.filter (fun a => start a < t) ++ items.filter fun a => t ≤ start a := by
  induction items with
  | nil => rfl
  | cons a rest ih =>
      obtain ⟨least, ordered⟩ := List.pairwise_cons.mp ordered
      by_cases before : start a < t
      · have onward := ih ordered
        rw [List.filter_cons_of_pos (by simpa using before),
          List.filter_cons_of_neg (by simpa using before), List.cons_append, ← onward]
      · have none : ∀ b ∈ a :: rest, ¬ start b < t := by
          intro b member
          rcases List.mem_cons.mp member with rfl | member
          · exact before
          · have later := least b member
            omega
        rw [List.filter_eq_nil_iff.mpr (by simpa using none), List.nil_append,
          List.filter_eq_self.mpr fun b member => ?_]
        have later := none b member
        simp only [decide_eq_true_eq]
        omega

/-- What starts before an item of a sorted list is in front of it. -/
theorem Ordered.filter_before {before later : List α} {a : α}
    (ordered : Ordered start (before ++ a :: later)) (earlier : ∀ b ∈ before, start b < start a) :
    (before ++ a :: later).filter (fun b => start b < start a) = before := by
  have after := (List.pairwise_cons.mp (List.pairwise_append.mp ordered).2.1).1
  have none : ∀ b ∈ a :: later, ¬ (decide (start b < start a)) = true := by
    intro b member is
    have is := of_decide_eq_true is
    rcases List.mem_cons.mp member with rfl | member
    · exact absurd is (lt_irrefl _)
    · exact absurd (after b member) (not_le.mpr is)
  have all : before.filter (fun b => start b < start a) = before :=
    List.filter_eq_self.mpr fun b member => decide_eq_true (earlier b member)
  rw [List.filter_append, all, List.filter_eq_nil_iff.mpr none, List.append_nil]

/-- A covering has one order by start. -/
theorem Covers.unique {others : List α} (covers : Covers start stop step lo hi items)
    (first : Ordered start items) (second : Ordered start others) (same : items.Perm others) :
    items = others := by
  have apart := List.inj_on_of_nodup_map covers.nodup_starts
  refine List.Perm.eq_of_pairwise (fun a b inA inB le ge => ?_) first second same
  exact apart inA (same.symm.subset inB) (le_antisymm le ge)

section

variable (positive : 0 < step)
include positive

theorem Tiles.le (tiles : Tiles start stop step hi lo items) : lo ≤ hi := by
  induction items generalizing lo with
  | nil => exact le_of_eq tiles
  | cons a rest ih =>
      have onward := ih tiles.2.2
      omega

/-- Two tilings of one span start at the same steps. -/
theorem Tiles.starts_eq {β : Type} {start' stop' : β → ℤ} {others : List β}
    (tiles : Tiles start stop step hi lo items)
    (tiles' : Tiles start' stop' step hi lo others) : items.map start = others.map start' := by
  induction items generalizing lo others with
  | nil =>
      cases others with
      | nil => rfl
      | cons b rest =>
          have same : lo = hi := tiles
          have further := Tiles.le positive tiles'.2.2
          omega
  | cons a items ih =>
      cases others with
      | nil =>
          have same : lo = hi := tiles'
          have further := Tiles.le positive tiles.2.2
          omega
      | cons b others =>
          obtain ⟨starts, _, onward⟩ := tiles
          obtain ⟨starts', _, onward'⟩ := tiles'
          rw [List.map_cons, List.map_cons, ih onward onward', starts, starts']

/-- A span that is not empty has room for one step. -/
theorem step_le (later : lo < t) (whole : step ∣ t - lo) : lo + step ≤ t := by
  obtain ⟨k, is⟩ := whole
  have some : 1 ≤ k := by
    by_contra small
    have nonpos : step * k ≤ 0 := Int.mul_nonpos_of_nonneg_of_nonpos positive.le (by omega)
    omega
  have reached : step * 1 ≤ step * k := Int.mul_le_mul_of_nonneg_left some positive.le
  omega

/-- A step past the first one is at least one step on. -/
theorem Grid.onward (grid : Grid step lo hi t) (later : t ≠ lo) : Grid step (lo + step) hi t := by
  obtain ⟨le, lt, whole⟩ := grid
  have reached := step_le positive (by omega) whole
  obtain ⟨k, is⟩ := whole
  refine ⟨reached, lt, k - 1, ?_⟩
  rw [Int.mul_sub, ← is]
  omega

theorem Grid.back (grid : Grid step (lo + step) hi t) : Grid step lo hi t := by
  obtain ⟨le, lt, k, is⟩ := grid
  refine ⟨by omega, lt, k + 1, ?_⟩
  rw [Int.mul_add, ← is]
  omega

theorem Tiles.covers (tiles : Tiles start stop step hi lo items) :
    Covers start stop step lo hi items := by
  induction items generalizing lo with
  | nil =>
      have same : lo = hi := tiles
      refine ⟨by simp, by simp, fun t grid => ?_⟩
      have empty := grid.1.trans_lt grid.2.1
      omega
  | cons a rest ih =>
      obtain ⟨first, whole, onward⟩ := tiles
      have span := Tiles.le positive onward
      have covers := ih onward
      constructor
      · intro b member
        rcases List.mem_cons.mp member with rfl | member
        · rw [whole, first]
        · exact covers.whole b member
      · intro b member
        rcases List.mem_cons.mp member with rfl | member
        · rw [first]
          exact ⟨le_refl lo, by omega, by rw [Int.sub_self]; exact Int.dvd_zero step⟩
        · exact Grid.back positive (covers.inside b member)
      · intro t grid
        rw [List.countP_cons, first]
        by_cases here : lo = t
        · subst here
          have none : rest.countP (fun b => decide (start b = lo)) = 0 := by
            refine List.countP_eq_zero.mpr fun b member same => ?_
            have later := (covers.inside b member).1
            have same := of_decide_eq_true same
            omega
          simp [none]
        · have once := covers.once t (Grid.onward positive grid (Ne.symm here))
          simp [here, once]

theorem Covers.tiles (covers : Covers start stop step lo hi items)
    (ordered : Ordered start items) (span : lo ≤ hi) (whole : step ∣ hi - lo) :
    Tiles start stop step hi lo items := by
  induction items generalizing lo with
  | nil =>
      by_contra apart
      have apart : lo ≠ hi := apart
      have first : Grid step lo hi lo :=
        ⟨le_refl lo, by omega, by rw [Int.sub_self]; exact Int.dvd_zero step⟩
      have once := covers.once lo first
      simp at once
  | cons a rest ih =>
      obtain ⟨least, ordered⟩ := List.pairwise_cons.mp ordered
      have inside := covers.inside a List.mem_cons_self
      have first : Grid step lo hi lo := ⟨le_refl lo, inside.1.trans_lt inside.2.1, by
        rw [Int.sub_self]; exact Int.dvd_zero step⟩
      -- The first step is an item, and the first item starts no later than it.
      have starts : start a = lo := by
        have once := covers.once lo first
        obtain ⟨b, member, is⟩ := List.countP_pos_iff.mp (once ▸ Nat.one_pos)
        have is := of_decide_eq_true is
        rcases List.mem_cons.mp member with rfl | member
        · exact is
        · have below := least b member
          have above := inside.1
          omega
      have others : ∀ b ∈ rest, start b ≠ lo := by
        intro b member is
        have once := covers.once lo first
        rw [List.countP_cons, starts] at once
        simp only [decide_true, if_true] at once
        have some := List.countP_pos_iff (p := fun c => decide (start c = lo)) (l := rest)
        have found := some.mpr ⟨b, member, by simpa using is⟩
        omega
      have onward := step_le positive first.2.1 whole
      refine ⟨starts, ?_, ih ⟨?_, ?_, ?_⟩ ordered onward ?_⟩
      · rw [covers.whole a List.mem_cons_self, starts]
      · exact fun b member => covers.whole b (List.mem_cons_of_mem a member)
      · exact fun b member => Grid.onward positive
          (covers.inside b (List.mem_cons_of_mem a member)) (others b member)
      · intro t grid
        have once := covers.once t (Grid.back positive grid)
        have apart : start a ≠ t := by
          have later := grid.1
          omega
        rw [List.countP_cons] at once
        simpa [apart] using once
      · obtain ⟨k, is⟩ := whole
        exact ⟨k - 1, by rw [Int.mul_sub, ← is]; omega⟩

/-- A list sorted by start tiles a span if and only if it covers it. -/
theorem tiles_iff_covers (ordered : Ordered start items) (span : lo ≤ hi)
    (whole : step ∣ hi - lo) :
    Tiles start stop step hi lo items ↔ Covers start stop step lo hi items :=
  ⟨fun tiles => Tiles.covers positive tiles,
    fun covers => Covers.tiles positive covers ordered span whole⟩

end

end Tiling
