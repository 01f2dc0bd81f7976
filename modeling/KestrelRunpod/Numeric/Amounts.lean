import KestrelRunpod.Numeric.Rounding

/-!
# Amounts of money

A nonnegative `float` is printed by `str` as a decimal, calculated with in the decimal context,
and turned into a `float` again.  Each of these steps is monotone.
-/

namespace Numeric

namespace Number

/-- A number that is not below zero. -/
def Nonneg : Number → Prop
  | .finite x => 0 ≤ x
  | .infinite negative => negative = false
  | .nan => False

/-- A `float`: a finite one is its own nearest double. -/
def IsDouble : Number → Prop
  | .finite x => binary64 x = .finite x
  | _ => True

variable {x y z x' y' : Number}

theorem Nonneg.le_self (nonneg : x.Nonneg) : x.le x = true := by
  cases x with
  | finite q => exact decide_eq_true le_rfl
  | infinite negative => cases nonneg; rfl
  | nan => cases nonneg

theorem Nonneg.of_le (nonneg : x.Nonneg) (le : x.le y = true) : y.Nonneg := by
  cases x with
  | finite q =>
      have nonneg : 0 ≤ q := nonneg
      cases y with
      | finite r => exact nonneg.trans (of_decide_eq_true le)
      | infinite negative =>
          cases negative with
          | false => rfl
          | true => cases le
      | nan => cases le
  | infinite negative =>
      cases nonneg
      cases y with
      | finite r => cases le
      | infinite negative =>
          cases negative with
          | false => rfl
          | true => cases le
      | nan => cases le
  | nan => cases nonneg

theorem Nonneg.le_infinite (nonneg : x.Nonneg) : x.le (.infinite false) = true := by
  cases x with
  | finite q => rfl
  | infinite negative => cases nonneg; rfl
  | nan => cases nonneg

/-- A nonnegative number that is finite. -/
theorem Nonneg.finite (nonneg : x.Nonneg) (finite : x.isFinite = true) :
    ∃ q, x = .finite q ∧ 0 ≤ q := by
  cases x with
  | finite q => exact ⟨q, rfl, nonneg⟩
  | infinite negative => cases finite
  | nan => cases finite

/-- What is at or below a number at or below a third one. -/
theorem Nonneg.le_trans (nonneg : x.Nonneg) (xy : x.le y = true) (yz : y.le z = true) :
    x.le z = true := by
  have positive := nonneg.of_le xy
  have positive' := positive.of_le yz
  cases z with
  | nan => cases positive'
  | infinite negative =>
      cases positive'
      cases x with
      | finite a => rfl
      | infinite negative => cases nonneg; rfl
      | nan => cases nonneg
  | finite c =>
      cases y with
      | nan => cases positive
      | infinite negative => cases positive; cases yz
      | finite b =>
          cases x with
          | nan => cases nonneg
          | infinite negative => cases nonneg; cases xy
          | finite a =>
              have ab := of_decide_eq_true xy
              have bc := of_decide_eq_true yz
              exact decide_eq_true (ab.trans bc)

end Number

/-! ## Doubles -/

section Doubles

variable {x y : ℚ}

theorem binary64_nonneg (nonneg : 0 ≤ x) : (binary64 x).Nonneg := by
  rw [binary64_eq]
  split
  · exact decide_eq_false (not_lt.mpr nonneg)
  · exact double_nonneg nonneg

theorem binary64_isDouble (nonneg : 0 ≤ x) : (binary64 x).IsDouble := by
  rw [binary64_eq]
  split
  · trivial
  · rename_i small
    exact binary64_finite.mpr ⟨double_idem nonneg, by rw [double_idem nonneg]; exact not_le.mp small⟩

theorem binary64_le (nonneg : 0 ≤ x) (le : x ≤ y) : (binary64 x).le (binary64 y) = true := by
  have doubles := double_mono nonneg le
  have below := double_nonneg nonneg
  rw [binary64_eq, binary64_eq, abs_of_nonneg below, abs_of_nonneg (below.trans doubles)]
  by_cases large : 2 ^ 1024 ≤ double x
  · have large' := large.trans doubles
    rw [if_pos large, if_pos large', decide_eq_false (not_lt.mpr nonneg),
      decide_eq_false (not_lt.mpr (nonneg.trans le))]
    rfl
  · rw [if_neg large]
    split
    · rw [decide_eq_false (not_lt.mpr (nonneg.trans le))]
      rfl
    · exact decide_eq_true doubles

/-- The text of a double reads back as the double. -/
theorem binary64_shortest (is_double : binary64 x = .finite x) :
    binary64 (shortest x) = .finite x := by
  unfold shortest
  cases found : ((List.range' 1 17).flatMap fun digits => neighbours digits x).find?
      (fun decimal => binary64 decimal = .finite x) with
  | none => exact is_double
  | some decimal =>
      have reads := List.find?_some found
      exact of_decide_eq_true reads

/-- Two doubles have different texts, in their order. -/
theorem shortest_mono (nonneg : 0 ≤ x) (first : binary64 x = .finite x)
    (second : binary64 y = .finite y) (le : x ≤ y) : shortest x ≤ shortest y := by
  by_contra above
  have reads := binary64_finite.mp (binary64_shortest first)
  have reads' := binary64_finite.mp (binary64_shortest second)
  have doubles := double_mono (shortest_nonneg (nonneg.trans le)) (not_le.mp above).le
  rw [reads.1, reads'.1] at doubles
  rw [le_antisymm le doubles] at above
  exact above le_rfl

/-- With a place after the point, the first neighbour of an integer is the integer. -/
theorem neighbours_of_fraction {digits n : ℕ} (fraction : lastPlace 10 digits (n : ℚ) < 0) :
    ∃ other, neighbours digits (n : ℚ) = [(n : ℚ), other] := by
  obtain ⟨k, is⟩ : ∃ k : ℕ, lastPlace 10 digits (n : ℚ) = -k :=
    ⟨(-lastPlace 10 digits (n : ℚ)).toNat, by omega⟩
  have unit : (0 : ℚ) < 10 ^ (-(k : ℤ)) := zpow_pos (by norm_num) _
  have multiple : (n : ℚ) / 10 ^ (-(k : ℤ)) = ((n * 10 ^ k : ℕ) : ℚ) := by
    rw [zpow_neg, zpow_natCast, div_inv_eq_mul]
    push_cast
    ring
  have below : (⌊(n : ℚ) / 10 ^ (-(k : ℤ))⌋ : ℚ) * 10 ^ (-(k : ℤ)) = n := by
    rw [multiple, Int.floor_natCast, Int.cast_natCast, ← multiple, div_mul_cancel₀ _ unit.ne']
  refine ⟨n + 10 ^ (-(k : ℤ)), ?_⟩
  unfold neighbours
  rw [is]
  dsimp only
  rw [below, sub_self, if_pos (by linarith)]

/-- With no place after the point, the neighbours of an integer are integers. -/
theorem neighbours_of_whole {digits n : ℕ} (whole : 0 ≤ lastPlace 10 digits (n : ℚ)) :
    ∀ decimal ∈ neighbours digits (n : ℚ), ∃ m : ℤ, decimal = m := by
  obtain ⟨k, is⟩ := Int.eq_ofNat_of_zero_le whole
  intro decimal member
  unfold neighbours at member
  rw [is] at member
  dsimp only at member
  rw [zpow_natCast] at member
  have below : decimal = (⌊(n : ℚ) / 10 ^ k⌋ : ℚ) * 10 ^ k ∨
      decimal = (⌊(n : ℚ) / 10 ^ k⌋ : ℚ) * 10 ^ k + 10 ^ k := by
    split at member
    · exact List.mem_pair.mp member
    · exact (List.mem_pair.mp member).symm
  rcases below with is | is
  · exact ⟨⌊(n : ℚ) / 10 ^ k⌋ * 10 ^ k, by rw [is]; push_cast; ring⟩
  · exact ⟨⌊(n : ℚ) / 10 ^ k⌋ * 10 ^ k + 10 ^ k, by rw [is]; push_cast; ring⟩

/-- The text of an integer of fewer than 53 bits is not above it: a text of fewer digits is another
integer, and one of more digits is tried after the integer itself. -/
theorem shortest_int_le {n : ℕ} (small : n + 1 < 2 ^ 53) : shortest n ≤ n := by
  have itself : double n = n := double_int (by omega)
  have next : double ((n + 1 : ℕ) : ℚ) = ((n + 1 : ℕ) : ℚ) := double_int small
  have finite : binary64 n = .finite n := by
    refine binary64_finite.mpr ⟨itself, ?_⟩
    rw [itself, abs_of_nonneg (Nat.cast_nonneg n)]
    have bound : (n : ℚ) < 2 ^ 53 := by exact_mod_cast Nat.lt_of_succ_lt small
    exact bound.trans_le (pow_le_pow_right₀ (by norm_num) (by norm_num))
  unfold shortest
  rw [List.find?_flatMap]
  cases found : (List.range' 1 17).findSome? (fun digits =>
      (neighbours digits (n : ℚ)).find? fun decimal => binary64 decimal = .finite (n : ℚ)) with
  | none => exact le_rfl
  | some decimal =>
      dsimp only [Option.getD_some]
      obtain ⟨digits, _, read⟩ := List.exists_of_findSome?_eq_some found
      by_contra above
      have above := not_le.mp above
      have same := List.find?_some read
      have same : double decimal = n := (binary64_finite.mp (of_decide_eq_true same)).1
      rcases lt_or_ge (lastPlace 10 digits (n : ℚ)) 0 with fraction | whole
      · obtain ⟨other, is⟩ := neighbours_of_fraction fraction
        rw [is, List.find?_cons_of_pos (by simpa using finite)] at read
        cases read
        exact above.ne rfl
      · obtain ⟨m, rfl⟩ := neighbours_of_whole whole decimal (List.mem_of_find?_eq_some read)
        have greater : (n : ℤ) + 1 ≤ m := by exact_mod_cast above
        have rounded := double_mono (x := ((n + 1 : ℕ) : ℚ)) (y := (m : ℚ)) (Nat.cast_nonneg _)
          (by exact_mod_cast greater)
        rw [next, same] at rounded
        push_cast at rounded
        linarith

/-- The text of a double is near it. -/
theorem abs_sub_shortest (nonneg : 0 ≤ x) (is_double : binary64 x = .finite x) :
    |x - shortest x| ≤ max 1 (shortest x) / 2 ^ 53 := by
  have reads := binary64_finite.mp (binary64_shortest is_double)
  have error := abs_double_sub (shortest_nonneg nonneg)
  rw [reads.1] at error
  exact error

end Doubles

/-! ## Steps of a calculation -/

namespace Number

variable {x y x' y' : Number}

theorem toDecimal_nonneg (nonneg : x.Nonneg) : x.toDecimal.Nonneg := by
  cases x with
  | finite q => exact shortest_nonneg nonneg
  | infinite negative => exact nonneg
  | nan => exact nonneg

theorem toDecimal_le (nonneg : x.Nonneg) (first : x.IsDouble) (second : y.IsDouble)
    (le : x.le y = true) : x.toDecimal.le y.toDecimal = true := by
  cases x with
  | nan => cases nonneg
  | infinite negative =>
      cases y with
      | finite r => cases nonneg; cases le
      | infinite negative' => exact le
      | nan => exact le
  | finite q =>
      cases y with
      | finite r => exact decide_eq_true (shortest_mono nonneg first second (of_decide_eq_true le))
      | infinite negative' => exact le
      | nan => exact le

theorem toFloat_nonneg (nonneg : x.Nonneg) : x.toFloat.Nonneg := by
  cases x with
  | finite q => exact binary64_nonneg nonneg
  | infinite negative => exact nonneg
  | nan => exact nonneg

theorem toFloat_isDouble (nonneg : x.Nonneg) : x.toFloat.IsDouble := by
  cases x with
  | finite q => exact binary64_isDouble nonneg
  | infinite negative => trivial
  | nan => trivial

theorem toFloat_le (nonneg : x.Nonneg) (le : x.le y = true) : x.toFloat.le y.toFloat = true := by
  have positive := nonneg.of_le le
  cases y with
  | nan => cases positive
  | infinite negative =>
      cases positive
      exact (toFloat_nonneg nonneg).le_infinite
  | finite r =>
      cases x with
      | finite q => exact binary64_le nonneg (of_decide_eq_true le)
      | infinite negative => cases nonneg; cases le
      | nan => cases nonneg

theorem add_nonneg (first : x.Nonneg) (second : y.Nonneg) : (x.add y).Nonneg := by
  cases x with
  | nan => cases first
  | infinite negative =>
      cases first
      cases y with
      | finite r => rfl
      | infinite negative' => rfl
      | nan => cases second
  | finite q =>
      have first : 0 ≤ q := first
      cases y with
      | finite r =>
          have second : 0 ≤ r := second
          exact context_nonneg (by linarith)
      | infinite negative' => exact second
      | nan => cases second

/-- A sum grows with its terms. -/
theorem add_le (first : x.Nonneg) (second : y.Nonneg) (le : x.le x' = true)
    (le' : y.le y' = true) : (x.add y).le (x'.add y') = true := by
  have total := add_nonneg first second
  have first' := first.of_le le
  have second' := second.of_le le'
  cases x' with
  | nan => cases first'
  | infinite negative =>
      cases first'
      have top : (Number.infinite false).add y' = .infinite false := by
        cases y' with
        | finite r' => rfl
        | infinite negative => rfl
        | nan => cases second'
      rw [top]
      exact total.le_infinite
  | finite q' =>
      cases y' with
      | nan => cases second'
      | infinite negative =>
          cases second'
          exact total.le_infinite
      | finite r' =>
          cases x with
          | nan => cases first
          | infinite negative => cases first; cases le
          | finite q =>
              cases y with
              | nan => cases second
              | infinite negative => cases second; cases le'
              | finite r =>
                  have first : 0 ≤ q := first
                  have second : 0 ≤ r := second
                  have le : q ≤ q' := of_decide_eq_true le
                  have le' : r ≤ r' := of_decide_eq_true le'
                  exact decide_eq_true (context_mono (by linarith) (by linarith))

/-! ## Comparison of sums -/

/-- `x + y` of two `float`s. -/
def plus : Number → Number → Number
  | .finite x, .finite y => binary64 (x + y)
  | .infinite negative, .infinite negative' =>
      if negative = negative' then .infinite negative else .nan
  | .nan, _ => .nan
  | _, .nan => .nan
  | .infinite negative, _ => .infinite negative
  | _, .infinite negative => .infinite negative

/-- `math.isclose(x, y, rel_tol=relTol, abs_tol=absTol)` of two `float`s. -/
def isClose (relTol absTol : ℚ) : Number → Number → Bool
  | .finite x, .finite y =>
      x = y || (binary64 |y - x|).le (binary64 |relTol * y|) ||
        (binary64 |y - x|).le (binary64 |relTol * x|) || (binary64 |y - x|).le (.finite absTol)
  | .infinite negative, .infinite negative' => negative = negative'
  | _, _ => false

@[simp] theorem isClose_self {relTol absTol q : ℚ} :
    isClose relTol absTol (.finite q) (.finite q) = true := by
  unfold isClose
  dsimp only
  rw [decide_eq_true (rfl : q = q)]
  rfl

/-- A difference far within both tolerances is within them after rounding. -/
theorem isClose_of_near {relTol absTol q r : ℚ} (relative : 1 / 2 ^ 48 ≤ relTol)
    (absolute : 1 / 2 ^ 48 ≤ absTol) (is_double : binary64 absTol = .finite absTol)
    (nonneg : 0 ≤ r) (near : |q - r| ≤ max 1 r / 2 ^ 48) :
    isClose relTol absTol (.finite q) (.finite r) = true := by
  have positive : 0 ≤ relTol := le_trans (by positivity) relative
  rw [abs_sub_comm] at near
  unfold isClose
  simp only [Bool.or_eq_true]
  rcases max_cases 1 r with ⟨is, _⟩ | ⟨is, _⟩
  · refine .inr ?_
    rw [is] at near
    have within := binary64_le (abs_nonneg (r - q)) (near.trans absolute)
    rw [is_double] at within
    exact within
  · refine .inl (.inl (.inr ?_))
    have within : |r - q| ≤ |relTol * r| := by
      rw [abs_of_nonneg (mul_nonneg positive nonneg)]
      have scaled := mul_le_mul_of_nonneg_right relative nonneg
      rw [is] at near
      linarith
    exact binary64_le (abs_nonneg (r - q)) within

/-- The decimal sum of the texts of two doubles is near their binary sum. -/
theorem near_of_sums {a b c f : ℚ} (first : 0 ≤ a) (second : 0 ≤ b)
    (double_a : binary64 a = .finite a) (double_b : binary64 b = .finite b)
    (decimal : binary64 (context (context (0 + shortest a) + shortest b)) = .finite c)
    (binary : binary64 (a + b) = .finite f) : |c - f| ≤ max 1 f / 2 ^ 48 := by
  have text_a := shortest_nonneg first
  have text_b := shortest_nonneg second
  have head := context_nonneg (x := 0 + shortest a) (by linarith)
  have total := context_nonneg (x := context (0 + shortest a) + shortest b) (by linarith)
  have error_a := abs_le.mp (abs_sub_shortest first double_a)
  have error_b := abs_le.mp (abs_sub_shortest second double_b)
  have error_head := abs_le.mp (abs_context_sub (x := 0 + shortest a) (by linarith))
  have error_total := abs_le.mp
    (abs_context_sub (x := context (0 + shortest a) + shortest b) (by linarith))
  have error_c := abs_le.mp (abs_double_sub total)
  have error_f := abs_le.mp (abs_double_sub (x := a + b) (by linarith))
  rw [(binary64_finite.mp decimal).1] at error_c
  rw [(binary64_finite.mp binary).1] at error_f
  -- every error is measured against one more than the number it is about
  have plus_one : ∀ {q : ℚ}, 0 ≤ q → max 1 q ≤ 1 + q := fun nonneg =>
    max_le (by linarith) (by linarith)
  have one_a := plus_one text_a
  have one_b := plus_one text_b
  have one_total := plus_one total
  have one_sum := plus_one (q := a + b) (by linarith)
  have one := le_max_left 1 f
  have large := le_max_right 1 f
  rw [abs_le]
  constructor <;> linarith

end Number

end Numeric
