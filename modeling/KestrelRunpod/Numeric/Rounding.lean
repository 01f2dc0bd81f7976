import KestrelRunpod.Numeric.Binary64
import Mathlib.Tactic.Positivity
import Mathlib.Tactic.Ring
import Mathlib.Tactic.FieldSimp

/-!
# Rounding to a number of digits

Rounding to the nearest multiple of a power of the base, with the power taken from the leading
digit, is monotone on nonnegative numbers, fixes what it has rounded, and errs by at most half a
unit of the last place.  `context` and `binary64` are the two instances.
-/

namespace Numeric

/-! ## The nearest integer -/

theorem roundEven_cases (x : ℚ) : roundEven x = ⌊x⌋ ∨ roundEven x = ⌊x⌋ + 1 := by
  unfold roundEven
  split_ifs
  · exact .inl rfl
  · exact .inr rfl
  · exact .inl rfl
  · exact .inr rfl

@[simp] theorem roundEven_int (n : ℤ) : roundEven n = n := by
  unfold roundEven
  rw [Int.floor_intCast, sub_self, if_pos (by norm_num)]

theorem roundEven_mono {x y : ℚ} (le : x ≤ y) : roundEven x ≤ roundEven y := by
  rcases (Int.floor_le_floor le).lt_or_eq with less | same
  · have above : roundEven x ≤ ⌊x⌋ + 1 := by rcases roundEven_cases x with is | is <;> omega
    have below : ⌊y⌋ ≤ roundEven y := by rcases roundEven_cases y with is | is <;> omega
    omega
  · unfold roundEven
    rw [same]
    have fraction : x - ⌊y⌋ ≤ y - ⌊y⌋ := by linarith
    split_ifs <;> first | omega | (exfalso; linarith)

theorem abs_roundEven_sub (x : ℚ) : |(roundEven x : ℚ) - x| ≤ 1 / 2 := by
  have floor := Int.floor_le x
  have next := Int.lt_floor_add_one x
  unfold roundEven
  rw [abs_le]
  split_ifs with low high even
  · constructor <;> linarith
  · push_cast
    constructor <;> linarith
  · constructor <;> linarith
  · push_cast
    constructor <;> linarith

/-! ## The nearest multiple of a power -/

section Places

variable {b : ℕ} {place : ℤ} {x y : ℚ}

theorem unit_pos (base : 1 < b) (place : ℤ) : (0 : ℚ) < (b : ℚ) ^ place := by
  have positive : (0 : ℚ) < b := by exact_mod_cast (zero_lt_one.trans base)
  exact zpow_pos positive place

theorem roundAt_mono (base : 1 < b) (le : x ≤ y) : roundAt b place x ≤ roundAt b place y := by
  have unit := unit_pos base place
  have quotients : x / (b : ℚ) ^ place ≤ y / (b : ℚ) ^ place :=
    div_le_div_of_nonneg_right le unit.le
  have rounded := roundEven_mono quotients
  exact mul_le_mul_of_nonneg_right (by exact_mod_cast rounded) unit.le

theorem roundAt_zero : roundAt b place 0 = 0 := by
  unfold roundAt
  rw [zero_div, show roundEven 0 = 0 from roundEven_int 0, Int.cast_zero, zero_mul]

/-- A multiple of the unit is left as it is. -/
theorem roundAt_mul (base : 1 < b) (n : ℤ) {e : ℤ} (fine : place ≤ e) :
    roundAt b place (n * (b : ℚ) ^ e) = n * (b : ℚ) ^ e := by
  have positive := unit_pos base place
  have nonzero : (b : ℚ) ≠ 0 := by
    have : (0 : ℚ) < b := by exact_mod_cast (zero_lt_one.trans base)
    exact this.ne'
  obtain ⟨k, shift⟩ : ∃ k : ℕ, e = k + place := ⟨(e - place).toNat, by omega⟩
  have split_ : (n : ℚ) * (b : ℚ) ^ e = ((n * (b : ℤ) ^ k : ℤ) : ℚ) * (b : ℚ) ^ place := by
    rw [shift, zpow_add₀ nonzero, zpow_natCast]
    push_cast
    ring
  unfold roundAt
  rw [split_, mul_div_cancel_right₀ _ positive.ne', roundEven_int]

theorem abs_roundAt_sub (base : 1 < b) : |roundAt b place x - x| ≤ (b : ℚ) ^ place / 2 := by
  have unit := unit_pos base place
  have error := abs_roundEven_sub (x / (b : ℚ) ^ place)
  have scaled : roundAt b place x - x =
      ((roundEven (x / (b : ℚ) ^ place) : ℚ) - x / (b : ℚ) ^ place) * (b : ℚ) ^ place := by
    unfold roundAt
    rw [sub_mul, div_mul_cancel₀ _ unit.ne']
  rw [scaled, abs_mul, abs_of_pos unit]
  have bounded := mul_le_mul_of_nonneg_right error unit.le
  linarith

/-! ## Rounding from the leading digit -/

/-- Rounded at the place that `places` gives for the leading digit. -/
def roundFrom (b : ℕ) (places : ℤ → ℤ) (x : ℚ) : ℚ := roundAt b (places (Int.log b |x|)) x

/-- The last place does not fall when the leading digit rises, and a place that moved is not
above its leading digit. -/
structure LastPlaces (places : ℤ → ℤ) : Prop where
  mono : ∀ {e e' : ℤ}, e ≤ e' → places e ≤ places e'
  fine : ∀ {e e' : ℤ}, e < e' → places e ≠ places e' → places e' ≤ e'

variable {places : ℤ → ℤ}

@[simp] theorem roundFrom_zero : roundFrom b places 0 = 0 := roundAt_zero

theorem roundFrom_nonneg (base : 1 < b) (nonneg : 0 ≤ x) : 0 ≤ roundFrom b places x := by
  have rounded : roundAt b (places (Int.log b |x|)) 0 ≤ roundFrom b places x :=
    roundAt_mono base nonneg
  rw [roundAt_zero] at rounded
  exact rounded

theorem roundFrom_nonpos (base : 1 < b) (nonpos : x ≤ 0) : roundFrom b places x ≤ 0 := by
  have rounded : roundFrom b places x ≤ roundAt b (places (Int.log b |x|)) 0 :=
    roundAt_mono base nonpos
  rw [roundAt_zero] at rounded
  exact rounded

/-- A multiple of a power at or above the last place is left as it is. -/
theorem roundFrom_mul (base : 1 < b) (n : ℤ) {e : ℤ}
    (fine : places (Int.log b |n * (b : ℚ) ^ e|) ≤ e) :
    roundFrom b places (n * (b : ℚ) ^ e) = n * (b : ℚ) ^ e := roundAt_mul base n fine

theorem abs_roundFrom_sub (base : 1 < b) :
    |roundFrom b places x - x| ≤ (b : ℚ) ^ places (Int.log b |x|) / 2 := abs_roundAt_sub base

/-- Between two leading digits the power of the larger one is fixed by both roundings. -/
theorem roundFrom_mono (base : 1 < b) (last : LastPlaces places) (nonneg : 0 ≤ x) (le : x ≤ y) :
    roundFrom b places x ≤ roundFrom b places y := by
  rcases nonneg.eq_or_lt with rfl | positive
  · rw [roundFrom_zero]
    exact roundFrom_nonneg base le
  have positive' := positive.trans_le le
  unfold roundFrom
  rw [abs_of_pos positive, abs_of_pos positive']
  have logs : Int.log b x ≤ Int.log b y := Int.log_mono_right positive le
  by_cases same : places (Int.log b x) = places (Int.log b y)
  · rw [same]
    exact roundAt_mono base le
  · have less : Int.log b x < Int.log b y := lt_of_le_of_ne logs fun is => same (by rw [is])
    have fine := last.fine less same
    have fine' := (last.mono logs).trans fine
    have below : x ≤ (b : ℚ) ^ Int.log b y := by
      have upper : x < (b : ℚ) ^ (Int.log b x + 1) := Int.lt_zpow_succ_log_self base x
      have one : (1 : ℚ) ≤ b := by exact_mod_cast base.le
      exact upper.le.trans (zpow_le_zpow_right₀ one (by omega))
    have above : (b : ℚ) ^ Int.log b y ≤ y := Int.zpow_log_le_self base positive'
    have power : ∀ place, place ≤ Int.log b y →
        roundAt b place ((b : ℚ) ^ Int.log b y) = (b : ℚ) ^ Int.log b y := by
      intro place fine
      have fixed := roundAt_mul base 1 fine
      rw [Int.cast_one, one_mul] at fixed
      exact fixed
    calc roundAt b (places (Int.log b x)) x
        ≤ roundAt b (places (Int.log b x)) ((b : ℚ) ^ Int.log b y) := roundAt_mono base below
      _ = (b : ℚ) ^ Int.log b y := power _ fine'
      _ = roundAt b (places (Int.log b y)) ((b : ℚ) ^ Int.log b y) := (power _ fine).symm
      _ ≤ roundAt b (places (Int.log b y)) y := roundAt_mono base above

/-- Rounding again changes nothing: a carry out of the first digit leaves a power. -/
theorem roundFrom_idem (base : 1 < b) (last : LastPlaces places) (nonneg : 0 ≤ x) :
    roundFrom b places (roundFrom b places x) = roundFrom b places x := by
  rcases nonneg.eq_or_lt with rfl | positive
  · rw [roundFrom_zero, roundFrom_zero]
  obtain ⟨r, is⟩ : ∃ r, roundFrom b places x = r := ⟨_, rfl⟩
  rcases (roundFrom_nonneg base nonneg).eq_or_lt with zero | rounded
  · rw [← zero, roundFrom_zero]
  have multiple : r =
      roundEven (x / (b : ℚ) ^ places (Int.log b x)) * (b : ℚ) ^ places (Int.log b x) := by
    rw [← is]
    unfold roundFrom roundAt
    rw [abs_of_pos positive]
  rw [is] at rounded ⊢
  by_cases carried : places (Int.log b r) ≤ places (Int.log b x)
  · have fine : places (Int.log b |(roundEven (x / (b : ℚ) ^ places (Int.log b x)) : ℚ) *
        (b : ℚ) ^ places (Int.log b x)|) ≤ places (Int.log b x) := by
      rw [← multiple, abs_of_pos rounded]
      exact carried
    have fixed := roundFrom_mul base _ fine
    rw [← multiple] at fixed
    exact fixed
  · have greater : Int.log b x < Int.log b r := by
      by_contra not_greater
      exact carried (last.mono (not_lt.mp not_greater))
    have fine : places (Int.log b r) ≤ Int.log b r :=
      last.fine greater fun same => carried same.ge
    have lower : (b : ℚ) ^ Int.log b r ≤ r := Int.zpow_log_le_self base rounded
    have upper : r ≤ (b : ℚ) ^ Int.log b r := by
      have one : (1 : ℚ) ≤ b := by exact_mod_cast base.le
      have below : x ≤ (b : ℚ) ^ Int.log b r :=
        (Int.lt_zpow_succ_log_self base x).le.trans (zpow_le_zpow_right₀ one (by omega))
      have fixed := roundAt_mul base 1
        ((not_le.mp carried).le.trans fine)
      rw [Int.cast_one, one_mul] at fixed
      calc r = roundAt b (places (Int.log b x)) x := by
            rw [← is]
            unfold roundFrom
            rw [abs_of_pos positive]
        _ ≤ roundAt b (places (Int.log b x)) ((b : ℚ) ^ Int.log b r) := roundAt_mono base below
        _ = (b : ℚ) ^ Int.log b r := fixed
    have power : (b : ℚ) ^ Int.log b r = r := le_antisymm lower upper
    have fine' : places (Int.log b |((1 : ℤ) : ℚ) * (b : ℚ) ^ Int.log b r|) ≤ Int.log b r := by
      rw [Int.cast_one, one_mul, power, abs_of_pos rounded]
      exact fine
    have fixed := roundFrom_mul base 1 fine'
    rw [Int.cast_one, one_mul, power] at fixed
    exact fixed

/-- The unit of the last of `precision` digits is small beside the number. -/
theorem unit_le {precision : ℤ} (base : 1 < b) (positive : 0 < x) :
    (b : ℚ) ^ (Int.log b x - precision) ≤ x / (b : ℚ) ^ precision := by
  have nonzero : (b : ℚ) ≠ 0 := by
    have : (0 : ℚ) < b := by exact_mod_cast (zero_lt_one.trans base)
    exact this.ne'
  rw [zpow_sub₀ nonzero]
  exact div_le_div_of_nonneg_right (Int.zpow_log_le_self base positive)
    (unit_pos base precision).le

end Places

/-! ## Twenty-eight decimal digits -/

section Context

variable {x y : ℚ}

/-- The last of 28 digits. -/
def contextPlaces (leading : ℤ) : ℤ := leading - ((28 : ℕ) - 1)

theorem contextPlaces_last : LastPlaces contextPlaces where
  mono := fun le => sub_le_sub_right le _
  fine := by
    intro e e' _ _
    unfold contextPlaces
    omega

theorem context_eq (x : ℚ) : context x = roundFrom 10 contextPlaces x := rfl

theorem context_mono (nonneg : 0 ≤ x) (le : x ≤ y) : context x ≤ context y := by
  rw [context_eq, context_eq]
  exact roundFrom_mono (by norm_num) contextPlaces_last nonneg le

theorem context_nonneg (nonneg : 0 ≤ x) : 0 ≤ context x := by
  rw [context_eq]
  exact roundFrom_nonneg (by norm_num) nonneg

theorem context_idem (nonneg : 0 ≤ x) : context (context x) = context x := by
  rw [context_eq x, context_eq]
  exact roundFrom_idem (by norm_num) contextPlaces_last nonneg

theorem abs_context_sub (nonneg : 0 ≤ x) : |context x - x| ≤ x / 2 ^ 53 := by
  rcases nonneg.eq_or_lt with rfl | positive
  · rw [context_eq, roundFrom_zero, sub_zero, abs_zero, zero_div]
  · have error : |context x - x| ≤ ((10 : ℕ) : ℚ) ^ contextPlaces (Int.log 10 |x|) / 2 := by
      rw [context_eq]
      exact abs_roundFrom_sub (by norm_num)
    rw [abs_of_pos positive] at error
    have unit : ((10 : ℕ) : ℚ) ^ (Int.log 10 x - 27) ≤ x / ((10 : ℕ) : ℚ) ^ (27 : ℤ) :=
      unit_le (by norm_num) positive
    have place : contextPlaces (Int.log 10 x) = Int.log 10 x - 27 := rfl
    have digits : x / ((10 : ℕ) : ℚ) ^ (27 : ℤ) ≤ x / 2 ^ 53 := by
      apply div_le_div_of_nonneg_left positive.le (by positivity)
      norm_num
    rw [place] at error
    have small := unit_pos (b := 10) (by norm_num) (Int.log 10 x - 27)
    linarith

end Context

/-! ## Doubles -/

section Doubles

variable {x y : ℚ}

/-- The last of 53 binary digits, and no digit below the subnormals. -/
def doublePlaces (leading : ℤ) : ℤ := max (leading - ((53 : ℕ) - 1)) (-1074)

theorem doublePlaces_last : LastPlaces doublePlaces where
  mono := fun le => max_le_max_right _ (sub_le_sub_right le _)
  fine := by
    intro e e' less moved
    unfold doublePlaces at moved ⊢
    omega

/-- The nearest double when there is no bound on the exponent. -/
def double (x : ℚ) : ℚ := roundFrom 2 doublePlaces x

theorem binary64_eq (x : ℚ) :
    binary64 x =
      if 2 ^ 1024 ≤ |double x| then .infinite (decide (x < 0)) else .finite (double x) := rfl

theorem double_mono (nonneg : 0 ≤ x) (le : x ≤ y) : double x ≤ double y := by
  unfold double
  exact roundFrom_mono (by norm_num) doublePlaces_last nonneg le

theorem double_nonneg (nonneg : 0 ≤ x) : 0 ≤ double x := by
  unfold double
  exact roundFrom_nonneg (by norm_num) nonneg

theorem double_nonpos (nonpos : x ≤ 0) : double x ≤ 0 := by
  unfold double
  exact roundFrom_nonpos (by norm_num) nonpos

theorem double_idem (nonneg : 0 ≤ x) : double (double x) = double x := by
  unfold double
  exact roundFrom_idem (by norm_num) doublePlaces_last nonneg

/-- Rounding to a double errs by at most one part in 2^53, or by less than 2^-53 below one. -/
theorem abs_double_sub (nonneg : 0 ≤ x) : |double x - x| ≤ max 1 x / 2 ^ 53 := by
  rcases nonneg.eq_or_lt with rfl | positive
  · have zero : double 0 = 0 := roundFrom_zero
    rw [zero, sub_zero, abs_zero]
    positivity
  · have error : |double x - x| ≤ ((2 : ℕ) : ℚ) ^ doublePlaces (Int.log 2 |x|) / 2 := by
      unfold double
      exact abs_roundFrom_sub (by norm_num)
    rw [abs_of_pos positive] at error
    have unit : ((2 : ℕ) : ℚ) ^ (Int.log 2 x - 52) ≤ x / ((2 : ℕ) : ℚ) ^ (52 : ℤ) :=
      unit_le (by norm_num) positive
    have large : x / 2 ^ 53 ≤ max 1 x / 2 ^ 53 := by
      exact div_le_div_of_nonneg_right (le_max_right 1 x) (by positivity)
    have one : 1 / 2 ^ 53 ≤ max 1 x / 2 ^ 53 := by
      exact div_le_div_of_nonneg_right (le_max_left 1 x) (by positivity)
    have halves : x / ((2 : ℕ) : ℚ) ^ (52 : ℤ) / 2 = x / 2 ^ 53 := by
      norm_num
      ring
    rcases max_cases (Int.log 2 x - 52) (-1074) with ⟨place, _⟩ | ⟨place, _⟩
    · have is : doublePlaces (Int.log 2 x) = Int.log 2 x - 52 := place
      rw [is] at error
      linarith
    · have is : doublePlaces (Int.log 2 x) = -1074 := place
      rw [is] at error
      have tiny : ((2 : ℕ) : ℚ) ^ (-1074 : ℤ) / 2 ≤ 1 / 2 ^ 53 := by
        have power : ((2 : ℕ) : ℚ) ^ (-1074 : ℤ) ≤ ((2 : ℕ) : ℚ) ^ (-52 : ℤ) :=
          zpow_le_zpow_right₀ (by norm_num) (by norm_num)
        calc ((2 : ℕ) : ℚ) ^ (-1074 : ℤ) / 2 ≤ ((2 : ℕ) : ℚ) ^ (-52 : ℤ) / 2 :=
              div_le_div_of_nonneg_right power (by norm_num)
          _ = 1 / 2 ^ 53 := by norm_num
      exact error.trans (tiny.trans one)

/-- An integer of at most 53 bits is a double. -/
theorem double_int {n : ℕ} (small : n < 2 ^ 53) : double n = n := by
  rcases Nat.eq_zero_or_pos n with rfl | positive
  · rw [Nat.cast_zero]
    exact roundFrom_zero
  · have log : Int.log 2 (n : ℚ) < 53 := by
      rw [Int.log_natCast]
      have bits : Nat.log 2 n < 53 := Nat.log_lt_of_lt_pow positive.ne' small
      exact_mod_cast bits
    have fine : doublePlaces (Int.log 2 |((n : ℤ) : ℚ) * ((2 : ℕ) : ℚ) ^ (0 : ℤ)|) ≤ 0 := by
      rw [zpow_zero, mul_one, Int.cast_natCast, abs_of_nonneg (by positivity)]
      unfold doublePlaces
      omega
    have fixed := roundFrom_mul (by norm_num) (n : ℤ) fine
    rw [zpow_zero, mul_one, Int.cast_natCast] at fixed
    exact fixed

theorem binary64_finite {r : ℚ} :
    binary64 x = .finite r ↔ double x = r ∧ |double x| < 2 ^ 1024 := by
  rw [binary64_eq]
  by_cases large : 2 ^ 1024 ≤ |double x|
  · rw [if_pos large]
    exact iff_of_false (fun same => nomatch same) fun both => absurd both.2 (not_lt.mpr large)
  · rw [if_neg large, Number.finite.injEq]
    exact ⟨fun same => ⟨same, not_le.mp large⟩, fun both => both.1⟩

end Doubles

end Numeric
