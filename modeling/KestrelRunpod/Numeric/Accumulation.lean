import KestrelRunpod.Numeric.Rounding

/-!
# Sums rounded at every step

A running total that is rounded to an integer after each item, a tie going to the even
neighbour.  Off ties the total moves by the rounded item; at a tie it becomes even, whatever it
was.  `settles_iff` says when the order of the items does not matter and nothing is lost.
-/

namespace Numeric

/-- Half way between two integers. -/
def IsTie (x : ℚ) : Prop := x - ⌊x⌋ = 1 / 2

/-- The total of `items`, rounded after each. -/
def accumulate (start : ℤ) (items : List ℚ) : ℤ :=
  items.foldl (fun total item => roundEven (total + item)) start

/-- The rounded items have the sum of the items, and no tie is met by an odd total. -/
structure Settles (items : List ℚ) : Prop where
  sum : (((items.map roundEven).sum : ℤ) : ℚ) = items.sum
  order : (∀ x ∈ items, ¬ IsTie x) ∨ ∀ x ∈ items, roundEven x % 2 = 0

/-! ## One step -/

variable {x : ℚ} {t : ℤ} {items : List ℚ}

theorem roundEven_small (nonneg : 0 ≤ x) (small : x < 1 / 2) : roundEven x = 0 := by
  have floor : ⌊x⌋ = 0 := Int.floor_eq_zero_iff.mpr ⟨nonneg, by linarith⟩
  unfold roundEven
  rw [floor, if_pos (by simpa using small)]

theorem roundEven_add_untied (t : ℤ) (untied : ¬ IsTie x) :
    roundEven (t + x) = t + roundEven x := by
  have floor : ⌊(t : ℚ) + x⌋ = t + ⌊x⌋ := Int.floor_intCast_add t x
  have fraction : (t : ℚ) + x - ⌊(t : ℚ) + x⌋ = x - ⌊x⌋ := by
    rw [floor]
    push_cast
    ring
  unfold roundEven
  rw [fraction, floor]
  by_cases low : x - ⌊x⌋ < 1 / 2
  · rw [if_pos low, if_pos low]
  · have high : 1 / 2 < x - ⌊x⌋ := lt_of_le_of_ne (not_lt.mp low) (Ne.symm untied)
    rw [if_neg low, if_neg low, if_pos high, if_pos high, add_assoc]

theorem roundEven_tie (tie : IsTie x) : roundEven x % 2 = 0 := by
  unfold IsTie at tie
  unfold roundEven
  rw [tie, if_neg (lt_irrefl _), if_neg (lt_irrefl _)]
  split <;> omega

theorem IsTie.add (tie : IsTie x) (t : ℤ) : IsTie (t + x) := by
  unfold IsTie at tie ⊢
  rw [Int.floor_intCast_add]
  push_cast
  linarith

theorem roundEven_add_even (x : ℚ) (even : t % 2 = 0) : roundEven (t + x) = t + roundEven x := by
  by_cases tie : IsTie x
  · have floor : ⌊(t : ℚ) + x⌋ = t + ⌊x⌋ := Int.floor_intCast_add t x
    have shifted := tie.add t
    unfold IsTie at tie shifted
    unfold roundEven
    rw [tie, shifted, floor]
    simp only [lt_irrefl, if_false]
    split_ifs <;> omega
  · exact roundEven_add_untied t tie

/-! ## Runs -/

@[simp] theorem accumulate_nil : accumulate t [] = t := rfl

@[simp] theorem accumulate_cons :
    accumulate t (x :: items) = accumulate (roundEven (t + x)) items := rfl

theorem accumulate_append (others : List ℚ) :
    accumulate t (items ++ others) = accumulate (accumulate t items) others :=
  List.foldl_append

theorem accumulate_untied (untied : ∀ x ∈ items, ¬ IsTie x) (t : ℤ) :
    accumulate t items = t + (items.map roundEven).sum := by
  induction items generalizing t with
  | nil => simp
  | cons x items ih =>
      have rest := ih (fun y member => untied y (List.mem_cons_of_mem x member))
      rw [accumulate_cons, roundEven_add_untied t (untied x List.mem_cons_self), rest,
        List.map_cons, List.sum_cons, add_assoc]

theorem accumulate_even (even : ∀ x ∈ items, roundEven x % 2 = 0) (start : t % 2 = 0) :
    accumulate t items = t + (items.map roundEven).sum := by
  induction items generalizing t with
  | nil => simp
  | cons x items ih =>
      have first := even x List.mem_cons_self
      have rest := ih (t := t + roundEven x)
        (fun y member => even y (List.mem_cons_of_mem x member)) (by omega)
      rw [accumulate_cons, roundEven_add_even x start, rest, List.map_cons, List.sum_cons,
        add_assoc]

theorem Settles.accumulate (settles : Settles items) :
    ((accumulate 0 items : ℤ) : ℚ) = items.sum := by
  have total : Numeric.accumulate 0 items = 0 + (items.map roundEven).sum := by
    rcases settles.order with untied | even
    · exact accumulate_untied untied 0
    · exact accumulate_even even rfl
  rw [total, zero_add]
  exact settles.sum

theorem Settles.perm {others : List ℚ} (settles : Settles items) (same : others.Perm items) :
    Settles others where
  sum := by
    rw [(same.map roundEven).sum_eq, same.sum_eq]
    exact settles.sum
  order := by
    rcases settles.order with untied | even
    · exact .inl fun x member => untied x (same.mem_iff.mp member)
    · exact .inr fun x member => even x (same.mem_iff.mp member)

/-- The total is even after a tie. -/
theorem accumulate_after_tie {last : ℚ} (tie : IsTie last) (t : ℤ) (items : List ℚ) :
    accumulate t (items ++ [last]) % 2 = 0 := by
  rw [accumulate_append, accumulate_cons, accumulate_nil]
  exact roundEven_tie (tie.add _)

/-- The total is the sum in every order of the items just where these settle: with a tie among
them, that one last makes the total even, and another item after it must keep it so. -/
theorem settles_iff :
    (∀ order : List ℚ, order.Perm items → ((accumulate 0 order : ℤ) : ℚ) = items.sum) ↔
      Settles items := by
  constructor
  · intro agree
    by_cases untied : ∀ x ∈ items, ¬ IsTie x
    · have total := agree items (List.Perm.refl items)
      rw [accumulate_untied untied, zero_add] at total
      exact ⟨total, .inl untied⟩
    · obtain ⟨x, member, tie⟩ : ∃ x ∈ items, IsTie x := by
        by_contra absent
        exact untied fun x member tie => absent ⟨x, member, tie⟩
      have moved := List.perm_cons_erase member
      have last : (items.erase x ++ [x]).Perm items :=
        (List.perm_append_singleton x _).trans moved.symm
      have even_total := accumulate_after_tie tie 0 (items.erase x)
      have even : ∀ y ∈ items, roundEven y % 2 = 0 := by
        intro y member'
        by_cases tie' : IsTie y
        · exact roundEven_tie tie'
        · have other : y ≠ x := fun same => tie' (same ▸ tie)
          have left : y ∈ items.erase x := (List.mem_erase_of_ne other).mpr member'
          have moved' := List.perm_cons_erase left
          have order : (((items.erase x).erase y ++ [x]) ++ [y]).Perm items := by
            have swapped : (((items.erase x).erase y ++ [x]) ++ [y]).Perm
                (x :: y :: (items.erase x).erase y) :=
              ((List.perm_append_singleton y _).trans
                ((List.perm_append_singleton x _).cons y)).trans (List.Perm.swap x y _)
            exact swapped.trans ((moved'.symm.cons x).trans moved.symm)
          have same : accumulate 0 (((items.erase x).erase y ++ [x]) ++ [y]) =
              accumulate 0 (items.erase x ++ [x]) := by
            have totals := (agree _ order).trans (agree _ last).symm
            exact_mod_cast totals
          have before := accumulate_after_tie tie 0 ((items.erase x).erase y)
          rw [accumulate_append, accumulate_cons, accumulate_nil, roundEven_add_untied _ tie']
            at same
          omega
      have total := agree items (List.Perm.refl items)
      rw [accumulate_even even rfl, zero_add] at total
      exact ⟨total, .inr even⟩
  · intro settles order same
    rw [(settles.perm same).accumulate, same.sum_eq]

end Numeric
