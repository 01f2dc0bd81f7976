import Mathlib.Data.List.Perm.Basic
import Mathlib.Data.List.Forall2

/-!
# Checked traversals

A traversal that may fail succeeds when every item does, in whatever order the items are
visited, and a failed one fails at one of its items.
-/

namespace Traverse

/-! ## Sequences -/

section

variable {ε β γ : Type}

/-- Two computations in sequence succeed when both do. -/
theorem except_bind_ok {first : Except ε β} {k : β → Except ε γ} {c : γ} :
    (first >>= k) = .ok c ↔ ∃ b, first = .ok b ∧ k b = .ok c := by
  cases first with
  | ok b => simp [bind, Except.bind]
  | error x => simp [bind, Except.bind]

theorem check_bind_ok {first : Except ε Unit} {k : Unit → Except ε γ} {c : γ} :
    (first >>= k) = .ok c ↔ first = .ok () ∧ k () = .ok c := by
  cases first with
  | ok u => simp [bind, Except.bind]
  | error x => simp [bind, Except.bind]

/-- Two computations in sequence fail where the first does, or the second after it. -/
theorem except_bind_error {first : Except ε β} {k : β → Except ε γ} {x : ε} :
    (first >>= k) = .error x ↔ first = .error x ∨ ∃ b, first = .ok b ∧ k b = .error x := by
  cases first with
  | ok b => simp [bind, Except.bind]
  | error x => simp [bind, Except.bind]

end

/-! ## Traversals -/

variable {α β ε : Type} {f : α → Except ε β} {as others : List α} {bs : List β} {x : ε}

theorem mapM_cons_eq {a : α} : (a :: as).mapM f = (do
    let b ← f a
    let bs ← as.mapM f
    return b :: bs) := by
  simp [List.mapM_cons]

/-- Every item succeeds with the result in its place. -/
theorem mapM_ok_iff : as.mapM f = .ok bs ↔ List.Forall₂ (fun a b => f a = .ok b) as bs := by
  induction as generalizing bs with
  | nil =>
      constructor
      · intro ok
        cases ok
        exact .nil
      · intro each
        cases each
        rfl
  | cons a rest ih =>
      rw [mapM_cons_eq]
      constructor
      · intro ok
        cases first : f a with
        | error x => simp [first, bind, Except.bind] at ok
        | ok b =>
            cases others : rest.mapM f with
            | error x => simp [first, others, bind, Except.bind] at ok
            | ok bs' =>
                simp only [first, others, bind, Except.bind, pure, Except.pure,
                  Except.ok.injEq] at ok
                subst ok
                exact .cons first (ih.mp others)
      · intro each
        cases each with
        | cons first others =>
            simp [first, ih.mpr others, bind, Except.bind, pure, Except.pure]

theorem mapM_append_ok :
    (as ++ others).mapM f = .ok bs ↔
      ∃ first second, as.mapM f = .ok first ∧ others.mapM f = .ok second ∧ bs = first ++ second := by
  simp only [mapM_ok_iff]
  constructor
  · intro each
    have lengths := each.length_eq
    refine ⟨bs.take as.length, bs.drop as.length, ?_, ?_, (List.take_append_drop _ _).symm⟩
    · have taken := List.forall₂_take as.length each
      rwa [List.take_left' rfl] at taken
    · have dropped := List.forall₂_drop as.length each
      rwa [List.drop_left' rfl] at dropped
  · rintro ⟨first, second, left, right, rfl⟩
    exact List.rel_append left right

/-- Every result comes from an item. -/
theorem mapM_ok_mem {b : β} (ok : as.mapM f = .ok bs) (member : b ∈ bs) :
    ∃ a ∈ as, f a = .ok b := by
  have each := mapM_ok_iff.mp ok
  clear ok
  induction each with
  | nil => cases member
  | cons first others ih =>
      rcases List.mem_cons.mp member with rfl | member
      · exact ⟨_, List.mem_cons_self, first⟩
      · obtain ⟨a, there, is⟩ := ih member
        exact ⟨a, List.mem_cons_of_mem _ there, is⟩

theorem mapM_ok_each {a : α} (ok : as.mapM f = .ok bs) (member : a ∈ as) :
    ∃ b ∈ bs, f a = .ok b := by
  have each := mapM_ok_iff.mp ok
  clear ok
  induction each with
  | nil => cases member
  | cons is _ ih =>
      rcases List.mem_cons.mp member with rfl | later
      · exact ⟨_, List.mem_cons_self, is⟩
      · obtain ⟨b, held, is⟩ := ih later
        exact ⟨b, List.mem_cons_of_mem _ held, is⟩

/-- A traversal succeeds when every item does. -/
theorem mapM_total (each : ∀ a ∈ as, ∃ b, f a = .ok b) : ∃ bs, as.mapM f = .ok bs := by
  induction as with
  | nil => exact ⟨[], rfl⟩
  | cons a rest ih =>
      obtain ⟨b, first⟩ := each a List.mem_cons_self
      obtain ⟨bs, others⟩ := ih fun c member => each c (List.mem_cons_of_mem a member)
      refine ⟨b :: bs, ?_⟩
      rw [mapM_cons_eq, first, others]
      rfl

/-- A traversal in another order has the same results, in another order. -/
theorem mapM_perm (ok : as.mapM f = .ok bs) (same : others.Perm as) :
    ∃ bs', others.mapM f = .ok bs' ∧ bs'.Perm bs := by
  obtain ⟨bs', each, perm⟩ := List.perm_comp_forall₂ same (mapM_ok_iff.mp ok)
  exact ⟨bs', mapM_ok_iff.mpr each, perm⟩

/-- Another order of the results is that of another order of the items. -/
theorem mapM_perm_results {bs' : List β} (ok : as.mapM f = .ok bs) (same : bs'.Perm bs) :
    ∃ others : List α, others.Perm as ∧ others.mapM f = .ok bs' := by
  have each : Relation.Comp (List.Forall₂ fun a b => f a = .ok b) List.Perm as bs' :=
    ⟨bs, mapM_ok_iff.mp ok, same.symm⟩
  rw [List.forall₂_comp_perm_eq_perm_comp_forall₂] at each
  obtain ⟨others, perm, each⟩ := each
  exact ⟨others, perm.symm, mapM_ok_iff.mpr each⟩

/-- A failed traversal fails as one of its items does. -/
theorem mapM_error (failed : as.mapM f = .error x) : ∃ a ∈ as, f a = .error x := by
  induction as with
  | nil => cases failed
  | cons a rest ih =>
      rw [mapM_cons_eq] at failed
      cases first : f a with
      | error y =>
          simp only [first, bind, Except.bind, Except.error.injEq] at failed
          exact ⟨a, List.mem_cons_self, by rw [first, failed]⟩
      | ok b =>
          cases others : rest.mapM f with
          | error y =>
              simp only [first, others, bind, Except.bind, Except.error.injEq] at failed
              obtain ⟨c, member, fails⟩ := ih (by rw [others, failed])
              exact ⟨c, List.mem_cons_of_mem a member, fails⟩
          | ok bs' => simp [first, others, bind, Except.bind, pure, Except.pure] at failed

/-- A traversal fails where its first item does. -/
theorem mapM_cons_error {a : α} (failed : f a = .error x) : (a :: as).mapM f = .error x := by
  rw [mapM_cons_eq, failed]
  rfl

/-- A check of every item passes where each of them does. -/
theorem forM_ok_iff {check : α → Except ε Unit} :
    as.forM check = .ok () ↔ ∀ a ∈ as, check a = .ok () := by
  induction as with
  | nil =>
      constructor
      · intro _ a member
        cases member
      · intro _
        rfl
  | cons a rest ih =>
      cases first : check a with
      | error x => simp [first, List.forM, bind, Except.bind]
      | ok u => simpa [first, List.forM, bind, Except.bind] using ih

/-- A check of every item fails where one of them does. -/
theorem forM_error {check : α → Except ε Unit} (failed : as.forM check = .error x) :
    ∃ a ∈ as, check a = .error x := by
  induction as with
  | nil => cases failed
  | cons a rest ih =>
      cases first : check a with
      | error y =>
          simp only [List.forM, first, bind, Except.bind, Except.error.injEq] at failed
          exact ⟨a, List.mem_cons_self, by rw [first, failed]⟩
      | ok u =>
          simp only [List.forM, first, bind, Except.bind] at failed
          obtain ⟨b, member, fails⟩ := ih failed
          exact ⟨b, List.mem_cons_of_mem a member, fails⟩

/-- A filter whose test never fails keeps what a pure one does. -/
theorem filterM_total {test : α → Except ε Bool} {keeps : α → Bool}
    (each : ∀ a, test a = .ok (keeps a)) : as.filterM test = .ok (as.filter keeps) := by
  have aux : ∀ kept, as.filterAuxM test kept = .ok ((as.filter keeps).reverse ++ kept) := by
    induction as with
    | nil => exact fun kept => rfl
    | cons a rest ih =>
        intro kept
        simp only [List.filterAuxM, each, bind, Except.bind, ih]
        cases holds : keeps a <;> simp [holds]
  simp only [List.filterM, aux, bind, Except.bind, pure, Except.pure, List.append_nil,
    List.reverse_reverse]

/-! ## Failures of one kind -/

section

variable {ε β γ : Type} {P : ε → Prop}

/-- Whatever the computation fails with has the property. -/
def Raises (P : ε → Prop) (e : Except ε β) : Prop := ∀ x, e = .error x → P x

theorem raises_ok (b : β) : Raises P (.ok b) := by
  intro x failed
  cases failed

theorem raises_error {x : ε} (raised : P x) : Raises P (.error x : Except ε β) := by
  intro y failed
  cases failed
  exact raised

theorem raises_bind {e : Except ε β} {f : β → Except ε γ} (first : Raises P e)
    (second : ∀ b, Raises P (f b)) : Raises P (e >>= f) := by
  intro x failed
  rcases except_bind_error.mp failed with raised | ⟨b, -, raised⟩
  · exact first x raised
  · exact second b x raised

theorem raises_mapM {f : β → Except ε γ} (each : ∀ b, Raises P (f b)) (bs : List β) :
    Raises P (bs.mapM f) := by
  induction bs with
  | nil => exact raises_ok []
  | cons b bs ih =>
      rw [List.mapM_cons]
      exact raises_bind (each b) fun c => raises_bind ih fun cs => raises_ok (c :: cs)

end

end Traverse
