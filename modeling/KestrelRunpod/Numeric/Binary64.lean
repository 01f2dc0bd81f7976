import Mathlib.Data.Int.Log
import Mathlib.Data.Rat.Floor
import Mathlib.Tactic.Linarith

/-!
# Binary64 numbers and context decimals

A finite `float` and a finite `Decimal` are both exact rationals; an operation of either kind
is the exact operation, rounded.  `binary64` rounds to the nearest double, `context` to the
28 digits of the default decimal context, both with ties to even, and `shortest` is the
number that `str` prints: the decimal of fewest digits that reads back as the double.
-/

namespace Numeric

/-! ## Rounding -/

/-- The nearest integer, a tie going to the even one. -/
def roundEven (x : ℚ) : ℤ :=
  if x - ⌊x⌋ < 1 / 2 then ⌊x⌋
  else if 1 / 2 < x - ⌊x⌋ then ⌊x⌋ + 1
  else if ⌊x⌋ % 2 = 0 then ⌊x⌋ else ⌊x⌋ + 1

/-- The exponent of the last of `precision` digits of `x` in base `b`. -/
def lastPlace (b precision : ℕ) (x : ℚ) : ℤ := Int.log b |x| - ((precision : ℤ) - 1)

/-- The nearest multiple of `b ^ place`. -/
def roundAt (b : ℕ) (place : ℤ) (x : ℚ) : ℚ := roundEven (x / (b : ℚ) ^ place) * (b : ℚ) ^ place

/-! ## Numbers -/

/-- A `float` or a `Decimal`. -/
inductive Number
  | finite (value : ℚ)
  | infinite (negative : Bool)
  | nan
  deriving DecidableEq, Repr

/-- The double nearest to `x`. -/
def binary64 (x : ℚ) : Number :=
  let rounded := roundAt 2 (max (lastPlace 2 53 x) (-1074)) x
  if 2 ^ 1024 ≤ |rounded| then .infinite (decide (x < 0)) else .finite rounded

/-- The two decimals of `digits` digits around `x`, the nearer one first. -/
def neighbours (digits : ℕ) (x : ℚ) : List ℚ :=
  let unit : ℚ := 10 ^ lastPlace 10 digits x
  let below := ⌊x / unit⌋ * unit
  if x - below ≤ below + unit - x then [below, below + unit] else [below + unit, below]

/-- The first decimal of at most 17 digits that reads back as the double `x`. -/
def shortest (x : ℚ) : ℚ :=
  ((List.range' 1 17).flatMap fun digits => neighbours digits x).find?
    (fun decimal => binary64 decimal = .finite x) |>.getD x

theorem neighbours_nonneg {digits : ℕ} {x : ℚ} (nonneg : 0 ≤ x) :
    ∀ decimal ∈ neighbours digits x, 0 ≤ decimal := by
  have unit : (0 : ℚ) < 10 ^ lastPlace 10 digits x := zpow_pos (by norm_num) _
  have below : 0 ≤ (⌊x / 10 ^ lastPlace 10 digits x⌋ : ℚ) * 10 ^ lastPlace 10 digits x := by
    have floor : 0 ≤ ⌊x / 10 ^ lastPlace 10 digits x⌋ :=
      Int.floor_nonneg.mpr (div_nonneg nonneg unit.le)
    exact mul_nonneg (by exact_mod_cast floor) unit.le
  intro decimal member
  unfold neighbours at member
  dsimp only at member
  split at member <;> rcases List.mem_pair.mp member with rfl | rfl <;> linarith

theorem shortest_nonneg {x : ℚ} (nonneg : 0 ≤ x) : 0 ≤ shortest x := by
  unfold shortest
  cases found : ((List.range' 1 17).flatMap fun digits => neighbours digits x).find?
      (fun decimal => binary64 decimal = .finite x) with
  | none => exact nonneg
  | some decimal =>
      obtain ⟨digits, _, member⟩ := List.mem_flatMap.mp (List.mem_of_find?_eq_some found)
      exact neighbours_nonneg nonneg decimal member

/-- `x` to the 28 digits of the decimal context. -/
def context (x : ℚ) : ℚ := roundAt 10 (lastPlace 10 28 x) x

namespace Number

/-- `math.isfinite`. -/
def isFinite : Number → Bool
  | .finite _ => true
  | _ => false

/-- `x <= y`; false when one of them is not a number. -/
def le : Number → Number → Bool
  | .finite x, .finite y => x ≤ y
  | .infinite negative, .finite _ => negative
  | .finite _, .infinite negative => !negative
  | .infinite x, .infinite y => x || !y
  | .nan, _ => false
  | _, .nan => false

/-- `x < y`; false when one of them is not a number. -/
def lt : Number → Number → Bool
  | .finite x, .finite y => x < y
  | .infinite negative, .finite _ => negative
  | .finite _, .infinite negative => !negative
  | .infinite x, .infinite y => x && !y
  | .nan, _ => false
  | _, .nan => false

/-- `Decimal(str(x))` of a `float`. -/
def toDecimal : Number → Number
  | .finite x => .finite (shortest x)
  | x => x

/-- `float(x)` of a `Decimal`. -/
def toFloat : Number → Number
  | .finite x => binary64 x
  | x => x

/-- `x + y` of decimals that are not infinite with opposite signs. -/
def add : Number → Number → Number
  | .finite x, .finite y => .finite (context (x + y))
  | .nan, _ => .nan
  | _, .nan => .nan
  | .infinite negative, _ => .infinite negative
  | _, .infinite negative => .infinite negative

/-- `x * y` of a decimal and an integer that is not zero. -/
def scale : Number → ℤ → Number
  | .finite x, n => .finite (context (x * n))
  | .infinite negative, n => .infinite (negative != decide (n < 0))
  | .nan, _ => .nan

end Number

end Numeric
