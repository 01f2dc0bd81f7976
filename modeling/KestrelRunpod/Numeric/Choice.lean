import Mathlib.Data.List.Basic
import Mathlib.Order.Basic

/-!
# The least of a list

The least item of a list that has a property, in an order that ranks the items; the head of a
sorted list; and two properties that have the same least item.
-/

namespace Choice

variable {α : Type} {le : α → α → Bool} {among p q : α → Prop} {items others : List α} {a b : α}

/-- `le` is a linear order of the items `among` all. -/
structure Ranks (le : α → α → Bool) (among : α → Prop) : Prop where
  total : ∀ a b, among a → among b → le a b = true ∨ le b a = true
  trans : ∀ a b c, among a → among b → among c → le a b = true → le b c = true → le a c = true
  antisymm : ∀ a b, among a → among b → le a b = true → le b a = true → a = b

/-- `a` is the first of the items that have the property. -/
structure Least (le : α → α → Bool) (items : List α) (p : α → Prop) (a : α) : Prop where
  mem : a ∈ items
  holds : p a
  first : ∀ b ∈ items, p b → le a b = true

theorem Least.perm (least : Least le items p a) (same : others.Perm items) :
    Least le others p a where
  mem := same.mem_iff.mpr least.mem
  holds := least.holds
  first b member := least.first b (same.mem_iff.mp member)

theorem Ranks.unique (ranks : Ranks le among) (inside : ∀ c ∈ items, p c → among c)
    (left : Least le items p a) (right : Least le items p b) : a = b :=
  ranks.antisymm a b (inside a left.mem left.holds) (inside b right.mem right.holds)
    (left.first b right.mem right.holds) (right.first a left.mem left.holds)

/-- The head of a sorted list is its first item. -/
theorem Ranks.head (ranks : Ranks le among) {rest : List α} (inside : ∀ c ∈ items, among c)
    (sorted : items.mergeSort le = a :: rest) : Least le items (fun _ => True) a := by
  have member : ∀ {c}, c ∈ a :: rest ↔ c ∈ items := by
    intro c
    rw [← sorted]
    exact List.mem_mergeSort
  let sub : {c // c ∈ items} → {c // c ∈ items} → Bool := fun c d => le c.1 d.1
  have lifted : (items.attach.mergeSort sub).map Subtype.val = a :: rest := by
    rw [List.map_mergeSort (s := le) (fun c _ d _ => rfl), List.attach_map_subtype_val, sorted]
  have pairwise : (items.attach.mergeSort sub).Pairwise fun c d => sub c d = true := by
    refine List.pairwise_mergeSort ?_ ?_ _
    · intro c d e
      exact ranks.trans c.1 d.1 e.1 (inside _ c.2) (inside _ d.2) (inside _ e.2)
    · intro c d
      rw [Bool.or_eq_true]
      exact ranks.total c.1 d.1 (inside _ c.2) (inside _ d.2)
  have ordered : (a :: rest).Pairwise fun c d => le c d = true := by
    rw [← lifted, List.pairwise_map]
    exact pairwise
  refine ⟨member.mp List.mem_cons_self, trivial, fun c inItems _ => ?_⟩
  rcases List.mem_cons.mp (member.mpr inItems) with rfl | later
  · exact (ranks.total c c (inside c inItems) (inside c inItems)).elim id id
  · exact (List.pairwise_cons.mp ordered).1 c later

/-- What is first among the items that a test keeps. -/
theorem least_filter {f : α → Bool} :
    Least le (items.filter f) (fun _ => True) a ↔ Least le items (fun c => f c = true) a := by
  constructor
  · intro least
    have kept := List.mem_filter.mp least.mem
    exact ⟨kept.1, kept.2, fun b member holds =>
      least.first b (List.mem_filter.mpr ⟨member, holds⟩) trivial⟩
  · intro least
    refine ⟨List.mem_filter.mpr ⟨least.mem, least.holds⟩, trivial, fun b member _ => ?_⟩
    have kept := List.mem_filter.mp member
    exact least.first b kept.1 kept.2

theorem Ranks.exists_least (ranks : Ranks le among) (inside : ∀ c ∈ items, p c → among c)
    (some_ : ∃ c ∈ items, p c) : ∃ c, Least le items p c := by
  classical
  obtain ⟨c, member, holds⟩ := some_
  have kept : c ∈ items.filter fun c => decide (p c) :=
    List.mem_filter.mpr ⟨member, decide_eq_true holds⟩
  cases sorted : (items.filter fun c => decide (p c)).mergeSort le with
  | nil =>
      have gone : c ∈ (items.filter fun c => decide (p c)).mergeSort le :=
        List.mem_mergeSort.mpr kept
      rw [sorted] at gone
      cases gone
  | cons first rest =>
      have least := ranks.head (fun d member => inside d (List.mem_filter.mp member).1
        (of_decide_eq_true (List.mem_filter.mp member).2)) sorted
      have least := least_filter.mp least
      exact ⟨first, least.mem, of_decide_eq_true least.holds, fun d member holds =>
        least.first d member (decide_eq_true holds)⟩

/-- Two properties have the same first item where every item on which they differ comes after
one that has both. -/
theorem Ranks.agree_iff (ranks : Ranks le among) (left : ∀ c ∈ items, p c → among c)
    (right : ∀ c ∈ items, q c → among c) :
    (∀ c, Least le items p c ↔ Least le items q c) ↔
      ∀ c ∈ items, ¬ (p c ↔ q c) → ∃ d ∈ items, p d ∧ q d ∧ le d c = true := by
  constructor
  · intro agree c member differ
    by_cases holds : p c
    · obtain ⟨d, least⟩ := ranks.exists_least left ⟨c, member, holds⟩
      exact ⟨d, least.mem, least.holds, ((agree d).mp least).holds, least.first c member holds⟩
    · have other : q c := by
        by_contra fails
        exact differ ⟨fun holds' => absurd holds' holds, fun holds' => absurd holds' fails⟩
      obtain ⟨d, least⟩ := ranks.exists_least right ⟨c, member, other⟩
      exact ⟨d, least.mem, ((agree d).mpr least).holds, least.holds, least.first c member other⟩
  · intro beaten
    -- a first item of either property has the other one too, and so has each rival of it
    have half : ∀ {p q : α → Prop}, (∀ c ∈ items, p c → among c) → (∀ c ∈ items, q c → among c) →
        (∀ c ∈ items, ¬ (p c ↔ q c) → ∃ d ∈ items, p d ∧ q d ∧ le d c = true) →
        ∀ c, Least le items p c → Least le items q c := by
      intro p q left right beaten c least
      have both : q c := by
        by_contra fails
        obtain ⟨d, member, holds, other, before⟩ :=
          beaten c least.mem (fun same => fails (same.mp least.holds))
        have same := ranks.antisymm d c (left d member holds) (left c least.mem least.holds)
          before (least.first d member holds)
        exact fails (same ▸ other)
      refine ⟨least.mem, both, fun b member holds => ?_⟩
      by_cases common : p b
      · exact least.first b member common
      · obtain ⟨d, inItems, shared, other, before⟩ :=
          beaten b member (fun same => common (same.mpr holds))
        exact ranks.trans c d b (left c least.mem least.holds) (left d inItems shared)
          (right b member holds) (least.first d inItems shared) before
    intro c
    refine ⟨half left right beaten c, half right left (fun c member differ => ?_) c⟩
    obtain ⟨d, inItems, shared, other, before⟩ :=
      beaten c member (fun same => differ same.symm)
    exact ⟨d, inItems, other, shared, before⟩

end Choice
