import KestrelRunpod.Numeric.Decimal
import KestrelRunpod.Numeric.Rounding

/-!
# Rounding up what was rounded

A number that was rounded to 28 digits and is then rounded up to a multiple of a unit is a
ceiling of the exact number as long as no multiple of the unit lies between the two.  A quotient
of small integers keeps its side of every multiple: it is further from the next one below than
28 digits can lose.
-/

namespace Numeric

variable {x y : ℚ} {e : ℤ}

/-- The numbers are above the same multiples of `10 ^ e`. -/
def SameMultiples (e : ℤ) (x y : ℚ) : Prop :=
  ∀ w : ℤ, (w : ℚ) * 10 ^ e < x ↔ (w : ℚ) * 10 ^ e < y

theorem power_pos (e : ℤ) : (0 : ℚ) < 10 ^ e := zpow_pos (by norm_num) e

theorem sameMultiples_iff_ceil :
    SameMultiples e x y ↔ ⌈x / 10 ^ e⌉ = ⌈y / 10 ^ e⌉ := by
  have scaled : ∀ (w : ℤ) (z : ℚ), (w : ℚ) * 10 ^ e < z ↔ w < ⌈z / 10 ^ e⌉ := by
    intro w z
    rw [Int.lt_ceil, lt_div_iff₀ (power_pos e)]
  constructor
  · intro same
    refine le_antisymm ?_ ?_
    · by_contra less
      have above := (scaled _ x).mpr (not_le.mp less)
      exact absurd ((scaled _ y).mp ((same _).mp above)) (lt_irrefl _)
    · by_contra less
      have above := (scaled _ y).mpr (not_le.mp less)
      exact absurd ((scaled _ x).mp ((same _).mpr above)) (lt_irrefl _)
  · intro same w
    rw [scaled, scaled, same]

/-! ## Quantizing upwards -/

theorem quantizeCeiling_value {d : Decimal} (rounded : Decimal.quantizeCeiling y e = some d) :
    d.value = ⌈y / 10 ^ e⌉ * 10 ^ e := by
  unfold Decimal.quantizeCeiling at rounded
  dsimp only at rounded
  split at rounded
  · cases rounded
    rfl
  · cases rounded

/-- What was rounded up is a ceiling of the exact number, and less than a unit above it, exactly
if no multiple of the unit lies between the exact number and the one rounded up. -/
theorem quantizeCeiling_bounds_iff {d : Decimal}
    (rounded : Decimal.quantizeCeiling y e = some d) :
    x ≤ d.value ∧ d.value < x + 10 ^ e ↔ SameMultiples e x y := by
  have unit := power_pos e
  have above : x ≤ d.value ↔ ⌈x / 10 ^ e⌉ ≤ ⌈y / 10 ^ e⌉ := by
    rw [quantizeCeiling_value rounded, ← div_le_iff₀ unit, Int.ceil_le]
  have below : d.value < x + 10 ^ e ↔ ⌈y / 10 ^ e⌉ ≤ ⌈x / 10 ^ e⌉ := by
    have shifted : x + 10 ^ e = (x / 10 ^ e + 1) * 10 ^ e := by
      rw [add_mul, div_mul_cancel₀ _ unit.ne', one_mul]
    rw [quantizeCeiling_value rounded, shifted, mul_lt_mul_iff_of_pos_right unit,
      ← sub_lt_iff_lt_add, ← Int.cast_one, ← Int.cast_sub, ← Int.lt_ceil]
    omega
  rw [above, below, sameMultiples_iff_ceil, le_antisymm_iff]

theorem quantizeCeiling_mono {c d : Decimal} (le : x ≤ y)
    (first : Decimal.quantizeCeiling x e = some c)
    (second : Decimal.quantizeCeiling y e = some d) : c.value ≤ d.value := by
  rw [quantizeCeiling_value first, quantizeCeiling_value second]
  have unit := power_pos e
  have quotients : x / 10 ^ e ≤ y / 10 ^ e := div_le_div_of_nonneg_right le unit.le
  have ceilings : (⌈x / 10 ^ e⌉ : ℚ) ≤ ⌈y / 10 ^ e⌉ := by
    exact_mod_cast Int.ceil_le_ceil quotients
  exact mul_le_mul_of_nonneg_right ceilings unit.le

theorem quantizeCeiling_nonneg {d : Decimal} (nonneg : 0 ≤ y)
    (rounded : Decimal.quantizeCeiling y e = some d) : 0 ≤ d.coefficient := by
  have ceiled : 0 ≤ ⌈y / 10 ^ e⌉ := Int.ceil_nonneg (div_nonneg nonneg (power_pos e).le)
  unfold Decimal.quantizeCeiling at rounded
  dsimp only at rounded
  split at rounded
  · cases rounded
    exact ceiled
  · cases rounded

/-! ## Scaling -/

/-- A power of ten shifts the leading digit. -/
theorem log_scale (positive : 0 < x) (k : ℤ) :
    Int.log 10 (x * 10 ^ k) = Int.log 10 x + k := by
  have base : 1 < 10 := by norm_num
  have unit := power_pos k
  have scaled : 0 < x * 10 ^ k := mul_pos positive unit
  have ten : ((10 : ℕ) : ℚ) = 10 := by norm_num
  have low : ((10 : ℕ) : ℚ) ^ (Int.log 10 x + k) ≤ x * 10 ^ k := by
    rw [ten, zpow_add₀ (by norm_num : (10 : ℚ) ≠ 0)]
    have fits := Int.zpow_log_le_self (b := 10) base positive
    rw [ten] at fits
    exact mul_le_mul_of_nonneg_right fits unit.le
  have high : x * 10 ^ k < ((10 : ℕ) : ℚ) ^ (Int.log 10 x + k + 1) := by
    have next := Int.lt_zpow_succ_log_self (b := 10) base x
    rw [ten] at next ⊢
    rw [show Int.log 10 x + k + 1 = (Int.log 10 x + 1) + k from by ring,
      zpow_add₀ (by norm_num : (10 : ℚ) ≠ 0)]
    exact mul_lt_mul_of_pos_right next unit
  have atLeast := (Int.zpow_le_iff_le_log base scaled).mp low
  have atMost := (Int.lt_zpow_iff_log_lt base scaled).mp high
  omega

/-- Twenty-eight digits do not depend on the unit. -/
theorem context_scale (nonneg : 0 ≤ x) (k : ℤ) : context (x * 10 ^ k) = context x * 10 ^ k := by
  rcases nonneg.eq_or_lt with rfl | positive
  · rw [zero_mul, context_eq, roundFrom_zero, zero_mul]
  · have scaled : 0 < x * 10 ^ k := mul_pos positive (power_pos k)
    have place : lastPlace 10 28 (x * 10 ^ k) = lastPlace 10 28 x + k := by
      unfold lastPlace
      rw [abs_of_pos scaled, abs_of_pos positive, log_scale positive]
      ring
    unfold context roundAt
    rw [place]
    push_cast
    rw [zpow_add₀ (by norm_num : (10 : ℚ) ≠ 0), mul_div_mul_right _ _ (power_pos k).ne', mul_assoc]

theorem SameMultiples.scale (k : ℤ) (same : SameMultiples e x y) :
    SameMultiples (e + k) (x * 10 ^ k) (y * 10 ^ k) := by
  intro w
  rw [zpow_add₀ (by norm_num : (10 : ℚ) ≠ 0), ← mul_assoc,
    mul_lt_mul_iff_of_pos_right (power_pos k), mul_lt_mul_iff_of_pos_right (power_pos k)]
  exact same w

/-! ## Numbers that 28 digits keep -/

/-- A coefficient of at most 28 digits is kept. -/
theorem context_of_coefficient {n : ℤ} (nonneg : 0 ≤ n) (short : n ≤ 10 ^ 28) :
    context (n * 10 ^ e) = n * 10 ^ e := by
  rcases nonneg.eq_or_lt with rfl | positive
  · rw [Int.cast_zero, zero_mul, context_eq, roundFrom_zero]
  · have whole : context n = n := by
      rcases short.eq_or_lt with rfl | less
      · have power : (((10 : ℤ) ^ 28 : ℤ) : ℚ) = ((1 : ℤ) : ℚ) * ((10 : ℕ) : ℚ) ^ (28 : ℤ) := by
          norm_num
        have top : Int.log 10 |((1 : ℤ) : ℚ) * ((10 : ℕ) : ℚ) ^ (28 : ℤ)| = 28 := by
          rw [Int.cast_one, one_mul, abs_of_pos (by positivity)]
          exact Int.log_zpow (by norm_num) 28
        rw [context_eq, power]
        exact roundFrom_mul (by norm_num) 1 (by rw [top]; decide)
      · have positive' : (0 : ℚ) < n := by exact_mod_cast positive
        have leading : Int.log 10 (n : ℚ) < 28 := by
          rw [← Int.lt_zpow_iff_log_lt (by norm_num) positive']
          have less' : (n : ℚ) < 10 ^ 28 := by exact_mod_cast less
          simpa using less'
        have unit : (n : ℚ) = n * ((10 : ℕ) : ℚ) ^ (0 : ℤ) := by rw [zpow_zero, mul_one]
        have fine : contextPlaces (Int.log 10 |(n : ℚ) * ((10 : ℕ) : ℚ) ^ (0 : ℤ)|) ≤ 0 := by
          rw [← unit, abs_of_pos positive']
          unfold contextPlaces
          omega
        rw [context_eq]
        conv_lhs => rw [unit]
        rw [roundFrom_mul (by norm_num) n fine, ← unit]
    rw [context_scale (by exact_mod_cast nonneg), whole]

/-- The last of 28 digits is small beside the number. -/
theorem abs_context_sub_lt (positive : 0 < x) : |context x - x| ≤ x / (2 * 10 ^ 27) := by
  have error : |context x - x| ≤ ((10 : ℕ) : ℚ) ^ contextPlaces (Int.log 10 |x|) / 2 := by
    rw [context_eq]
    exact abs_roundFrom_sub (by norm_num)
  rw [abs_of_pos positive] at error
  have unit : ((10 : ℕ) : ℚ) ^ (Int.log 10 x - 27) ≤ x / ((10 : ℕ) : ℚ) ^ (27 : ℤ) :=
    unit_le (by norm_num) positive
  have place : contextPlaces (Int.log 10 x) = Int.log 10 x - 27 := rfl
  have power : ((10 : ℕ) : ℚ) ^ (27 : ℤ) = 10 ^ 27 := by norm_num
  rw [power] at unit
  rw [place] at error
  calc |context x - x| ≤ ((10 : ℕ) : ℚ) ^ (Int.log 10 x - 27) / 2 := error
    _ ≤ x / 10 ^ 27 / 2 := by linarith
    _ = x / (2 * 10 ^ 27) := by ring

/-- A rounding to 28 digits never passes a whole number upwards. -/
theorem context_le_of_le {w : ℤ} (nonneg : 0 ≤ x) (short : x ≤ 10 ^ 28) (le : x ≤ w) :
    context x ≤ w := by
  have kept : ∀ {n : ℤ}, 0 ≤ n → n ≤ 10 ^ 28 → context (n : ℚ) = n := by
    intro n nonneg' short'
    have same := context_of_coefficient (e := 0) nonneg' short'
    rwa [zpow_zero, mul_one] at same
  rcases le_or_gt w (10 ^ 28) with small | large
  · have nonneg' : 0 ≤ w := by exact_mod_cast nonneg.trans le
    rw [← kept nonneg' small]
    exact context_mono nonneg le
  · have power : ((10 ^ 28 : ℤ) : ℚ) = 10 ^ 28 := by push_cast; rfl
    have same : context ((10 ^ 28 : ℤ) : ℚ) = ((10 ^ 28 : ℤ) : ℚ) := kept (by norm_num) le_rfl
    rw [← power] at short
    calc context x ≤ context ((10 ^ 28 : ℤ) : ℚ) := context_mono nonneg short
      _ = ((10 ^ 28 : ℤ) : ℚ) := same
      _ ≤ w := by exact_mod_cast large.le

/-- The quotient of two integers, the first below `2 * 10 ^ 27`, stays above the same whole
numbers. -/
theorem sameMultiples_quotient {a b : ℤ} (nonneg : 0 ≤ a) (divisor : 0 < b)
    (small : a < 2 * 10 ^ 27) :
    SameMultiples 0 ((a : ℚ) / b) (context ((a : ℚ) / b)) := by
  have divisor' : (0 : ℚ) < b := by exact_mod_cast divisor
  have nonneg' : (0 : ℚ) ≤ (a : ℚ) / b := div_nonneg (by exact_mod_cast nonneg) divisor'.le
  intro w
  rw [zpow_zero, mul_one]
  constructor
  · intro below
    have positive : 0 < (a : ℚ) / b ∨ (a : ℚ) / b = 0 := nonneg'.lt_or_eq.imp_right Eq.symm
    rcases positive with positive | zero
    · -- the quotient is at least `1 / b` above the whole number, and loses less than that
      have gap : (w : ℚ) + 1 / b ≤ (a : ℚ) / b := by
        rw [lt_div_iff₀ divisor'] at below
        have step : w * b + 1 ≤ a := by exact_mod_cast below
        have step' : (w : ℚ) * b + 1 ≤ a := by exact_mod_cast step
        rw [le_div_iff₀ divisor', add_mul, one_div_mul_cancel divisor'.ne']
        exact step'
      have error := abs_context_sub_lt positive
      have lost : (a : ℚ) / b / (2 * 10 ^ 27) < 1 / b := by
        rw [div_div, div_lt_div_iff₀ (by positivity) divisor', one_mul]
        have small' : (a : ℚ) < 2 * 10 ^ 27 := by exact_mod_cast small
        have scaled := mul_lt_mul_of_pos_right small' divisor'
        linarith
      have under := (abs_le.mp error).1
      linarith
    · rw [zero] at below ⊢
      rw [context_eq, roundFrom_zero]
      exact below
  · intro below
    by_contra above
    rw [not_lt] at above
    have bounded : (a : ℚ) / b ≤ 10 ^ 28 := by
      have one_le : (1 : ℚ) ≤ b := by exact_mod_cast divisor
      have small' : (a : ℚ) < 2 * 10 ^ 27 := by exact_mod_cast small
      rw [div_le_iff₀ divisor']
      nlinarith
    exact absurd below (not_lt.mpr (context_le_of_le nonneg' bounded above))

/-! ## Sums -/

namespace Decimal

theorem digits_le_iff {n : ℤ} {k : ℕ} (nonneg : 0 ≤ n) (some_ : 0 < k) :
    digits n ≤ k ↔ n < 10 ^ k := by
  obtain ⟨m, rfl⟩ := Int.eq_ofNat_of_zero_le nonneg
  unfold digits
  rw [Int.natAbs_natCast, Nat.add_one_le_iff]
  rcases Nat.eq_zero_or_pos m with rfl | positive
  · simp [some_]
  · rw [Nat.log_lt_iff_lt_pow (by norm_num) positive.ne']
    exact_mod_cast Iff.rfl

/-- Fitting a decimal to 28 digits rounds its value to 28 digits. -/
theorem fit_value {d : Decimal} (nonneg : 0 ≤ d.coefficient) :
    d.fit.value = context d.value := by
  have nonneg' : (0 : ℚ) ≤ d.coefficient := by exact_mod_cast nonneg
  unfold fit
  split
  · rename_i short
    rw [digits_le_iff nonneg (by norm_num)] at short
    exact (context_of_coefficient nonneg short.le).symm
  · rename_i long
    have large : (10 : ℤ) ^ 28 ≤ d.coefficient :=
      not_lt.mp fun less => long ((digits_le_iff nonneg (by norm_num)).mpr less)
    have positive : (0 : ℚ) < d.coefficient := by
      exact_mod_cast (show (0 : ℤ) < 10 ^ 28 by norm_num).trans_le large
    have leading : Int.log 10 (d.coefficient : ℚ) = (digits d.coefficient : ℤ) - 1 := by
      obtain ⟨m, is⟩ := Int.eq_ofNat_of_zero_le nonneg
      unfold digits
      rw [is, Int.cast_natCast, Int.natAbs_natCast, Int.log_natCast]
      push_cast
      ring
    have rounded : context (d.coefficient : ℚ) =
        roundEven (d.coefficient / 10 ^ (digits d.coefficient - 28)) *
          10 ^ (digits d.coefficient - 28) := by
      have place : lastPlace 10 28 (d.coefficient : ℚ) =
          ((digits d.coefficient - 28 : ℕ) : ℤ) := by
        unfold lastPlace
        rw [abs_of_pos positive, leading]
        omega
      unfold context roundAt
      rw [place, zpow_natCast]
      norm_num
    have value_is : context d.value =
        (roundEven (d.coefficient / 10 ^ (digits d.coefficient - 28)) : ℚ) *
          10 ^ (d.exponent + (digits d.coefficient - 28 : ℕ)) := by
      unfold value
      rw [context_scale nonneg', rounded, zpow_add₀ (by norm_num : (10 : ℚ) ≠ 0), zpow_natCast]
      ring
    have quotient : (d.coefficient : ℚ) / 10 ^ (digits d.coefficient - 28) ≤ (10 ^ 28 : ℤ) := by
      have below : d.coefficient < 10 ^ digits d.coefficient :=
        (digits_le_iff nonneg (by omega)).mp le_rfl
      have split_ : (10 : ℤ) ^ digits d.coefficient =
          10 ^ 28 * 10 ^ (digits d.coefficient - 28) := by
        rw [← pow_add]
        congr 1
        omega
      rw [div_le_iff₀ (by positivity)]
      exact_mod_cast (below.trans_eq split_).le
    have atMost : roundEven ((d.coefficient : ℚ) / 10 ^ (digits d.coefficient - 28)) ≤ 10 ^ 28 := by
      have mono := roundEven_mono quotient
      rwa [roundEven_int] at mono
    have atLeast : 0 ≤ roundEven ((d.coefficient : ℚ) / 10 ^ (digits d.coefficient - 28)) := by
      have mono := roundEven_mono (x := ((0 : ℤ) : ℚ))
        (y := (d.coefficient : ℚ) / 10 ^ (digits d.coefficient - 28)) (by positivity)
      rwa [roundEven_int] at mono
    rw [value_is]
    dsimp only
    generalize roundEven ((d.coefficient : ℚ) / 10 ^ (digits d.coefficient - 28)) = m at *
    split
    · rfl
    · rename_i carried
      have top : m = 10 ^ 28 := le_antisymm atMost
        (not_lt.mp fun less => carried ((digits_le_iff atLeast (by norm_num)).mpr less))
      unfold value
      dsimp only
      rw [top, zpow_add_one₀ (by norm_num : (10 : ℚ) ≠ 0)]
      norm_num
      ring

theorem add_value {x y : Decimal} (first : 0 ≤ x.coefficient) (second : 0 ≤ y.coefficient) :
    (x.add y).value = context (x.value + y.value) := by
  have exact_ : (⟨x.scaledTo (min x.exponent y.exponent) + y.scaledTo (min x.exponent y.exponent),
      min x.exponent y.exponent⟩ : Decimal).value = x.value + y.value := by
    unfold value
    dsimp only
    push_cast
    rw [add_mul, scaledTo_value (min_le_left _ _), scaledTo_value (min_le_right _ _)]
    rfl
  unfold add
  dsimp only
  rw [fit_value (add_nonneg (scaledTo_nonneg first) (scaledTo_nonneg second)), exact_]

theorem add_mono {x y x' y' : Decimal} (first : 0 ≤ x.coefficient) (second : 0 ≤ y.coefficient)
    (first' : x.value ≤ x'.value) (second' : y.value ≤ y'.value) :
    (x.add y).value ≤ (x'.add y').value := by
  have sum := add_nonneg (nonneg_of_coefficient first) (nonneg_of_coefficient second)
  have others : 0 ≤ x'.coefficient ∧ 0 ≤ y'.coefficient :=
    ⟨coefficient_nonneg ((nonneg_of_coefficient first).trans first'),
      coefficient_nonneg ((nonneg_of_coefficient second).trans second')⟩
  rw [add_value first second, add_value others.1 others.2]
  exact context_mono sum (add_le_add first' second')

end Decimal

/-! ## Numbers that 28 digits swallow -/

/-- What the number has above a whole number is lost with the digits after the 28th: it is less
than half a unit of that digit, or half a unit above an even multiple of it. -/
def Swallowed (x : ℚ) : Prop :=
  (⌊x⌋ : ℚ) < x ∧
    (x - ⌊x⌋ < 10 ^ (Int.log 10 x - 27) / 2 ∨
      x - ⌊x⌋ = 10 ^ (Int.log 10 x - 27) / 2 ∧
        Even (⌊x⌋ * 10 ^ (27 - Int.log 10 x).toNat))

/-- To the nearest integer, a number that is not below `n` becomes `n` or less only from within
half a unit. -/
theorem roundEven_le_iff {n : ℤ} (le : (n : ℚ) ≤ x) :
    roundEven x ≤ n ↔ x - n < 1 / 2 ∨ x - n = 1 / 2 ∧ Even n := by
  have floor : n ≤ ⌊x⌋ := Int.le_floor.mpr le
  rcases floor.lt_or_eq with less | same
  · have next : ((n + 1 : ℤ) : ℚ) ≤ x := Int.le_floor.mp less
    push_cast at next
    have above : n < roundEven x := by rcases roundEven_cases x with is | is <;> omega
    constructor
    · intro is
      omega
    · rintro (near | ⟨half, _⟩) <;> linarith
  · unfold roundEven
    rw [← same]
    split_ifs with low high even
    · exact ⟨fun _ => .inl low, fun _ => le_rfl⟩
    · constructor
      · intro is
        omega
      · rintro (near | ⟨half, _⟩) <;> linarith
    · have half : x - n = 1 / 2 := le_antisymm (not_lt.mp high) (not_lt.mp low)
      exact ⟨fun _ => .inr ⟨half, Int.even_iff.mpr even⟩, fun _ => le_rfl⟩
    · constructor
      · intro is
        omega
      · rintro (near | ⟨_, even'⟩)
        · exact absurd near low
        · exact absurd (Int.even_iff.mp even') even

theorem context_le_floor_iff (positive : 0 < x) (short : x < 10 ^ 28) :
    context x ≤ ⌊x⌋ ↔ x - ⌊x⌋ < 10 ^ (Int.log 10 x - 27) / 2 ∨
      x - ⌊x⌋ = 10 ^ (Int.log 10 x - 27) / 2 ∧
        Even (⌊x⌋ * 10 ^ (27 - Int.log 10 x).toNat) := by
  have leading : Int.log 10 x < 28 := by
    rw [← Int.lt_zpow_iff_log_lt (by norm_num) positive]
    simpa using short
  have unit := power_pos (Int.log 10 x - 27)
  -- in units of the last place the floor is an integer
  have units : ((⌊x⌋ * 10 ^ (27 - Int.log 10 x).toNat : ℤ) : ℚ) * 10 ^ (Int.log 10 x - 27) =
      ⌊x⌋ := by
    have shift : ((27 - Int.log 10 x).toNat : ℤ) + (Int.log 10 x - 27) = 0 := by omega
    push_cast
    rw [mul_assoc, ← zpow_natCast, ← zpow_add₀ (by norm_num : (10 : ℚ) ≠ 0), shift, zpow_zero,
      mul_one]
  generalize ⌊x⌋ * 10 ^ (27 - Int.log 10 x).toNat = n at units
  have below : (n : ℚ) ≤ x / 10 ^ (Int.log 10 x - 27) := by
    rw [le_div_iff₀ unit, units]
    exact Int.floor_le x
  have rounded : context x = roundEven (x / 10 ^ (Int.log 10 x - 27)) * 10 ^ (Int.log 10 x - 27) := by
    unfold context roundAt lastPlace
    rw [abs_of_pos positive]
    norm_num
  have excess : x / 10 ^ (Int.log 10 x - 27) - n = (x - ⌊x⌋) / 10 ^ (Int.log 10 x - 27) := by
    rw [sub_div, ← units, mul_div_cancel_right₀ _ unit.ne']
  have whole : context x ≤ ⌊x⌋ ↔ roundEven (x / 10 ^ (Int.log 10 x - 27)) ≤ n := by
    rw [rounded, ← units, mul_le_mul_iff_of_pos_right unit]
    exact_mod_cast Iff.rfl
  rw [whole, roundEven_le_iff below, excess, div_lt_iff₀ unit, div_eq_iff unit.ne']
  have half : (1 : ℚ) / 2 * 10 ^ (Int.log 10 x - 27) = 10 ^ (Int.log 10 x - 27) / 2 := by ring
  rw [half]

/-- A number of at most 28 digits before the point stays above the same whole numbers unless
its excess is swallowed. -/
theorem sameMultiples_iff_not_swallowed (nonneg : 0 ≤ x) (short : x < 10 ^ 28) :
    SameMultiples 0 x (context x) ↔ ¬ Swallowed x := by
  rcases nonneg.eq_or_lt with rfl | positive
  · rw [context_eq, roundFrom_zero]
    have whole : ¬ Swallowed 0 := fun is => by
      have less := is.1
      rw [Int.floor_zero] at less
      exact absurd less (by norm_num)
    exact ⟨fun _ => whole, fun _ _ => Iff.rfl⟩
  · unfold Swallowed
    rw [← context_le_floor_iff positive short, not_and, not_le]
    constructor
    · intro same above
      have kept := (same ⌊x⌋).mp
      rw [zpow_zero, mul_one] at kept
      exact kept above
    · intro kept w
      rw [zpow_zero, mul_one]
      constructor
      · intro below
        rcases (Int.floor_le x).lt_or_eq with above | whole
        · have next : (w : ℚ) ≤ ⌊x⌋ := by exact_mod_cast Int.le_floor.mpr below.le
          exact next.trans_lt (kept above)
        · have same : context x = x := by
            have fixed := context_of_coefficient (e := 0) (Int.floor_nonneg.mpr nonneg)
              (Int.floor_le_floor short.le |>.trans (by norm_num))
            rwa [zpow_zero, mul_one, whole] at fixed
          rwa [same]
      · intro below
        by_contra above
        exact absurd below (not_lt.mpr (context_le_of_le nonneg short.le (not_lt.mp above)))

end Numeric
