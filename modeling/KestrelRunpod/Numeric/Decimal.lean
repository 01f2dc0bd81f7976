import KestrelRunpod.Numeric.Binary64

/-!
# Finite decimals

A finite `Decimal` is a coefficient and an exponent: its text keeps both, its comparisons see
only the value.  Sums are exact and then fitted to the 28 digits of the default context;
`quantizeCeiling` rounds up to a fixed exponent.  A decimal has no negative zero here.
-/

namespace Numeric

/-- A finite `Decimal`. -/
structure Decimal where
  coefficient : ℤ
  exponent : ℤ
  deriving DecidableEq, Repr

namespace Decimal

/-- The number that the decimal denotes. -/
def value (d : Decimal) : ℚ := d.coefficient * 10 ^ d.exponent

/-- The digits of a coefficient. -/
def digits (coefficient : ℤ) : ℕ := Nat.log 10 coefficient.natAbs + 1

/-- The coefficient of `d` at an exponent that is not above its own. -/
def scaledTo (d : Decimal) (exponent : ℤ) : ℤ :=
  d.coefficient * 10 ^ (d.exponent - exponent).toNat

/-- Rounded to 28 digits, where it has more. -/
def fit (d : Decimal) : Decimal :=
  if digits d.coefficient ≤ 28 then d
  else
    let excess := digits d.coefficient - 28
    let rounded := roundEven (d.coefficient / 10 ^ excess)
    -- a carry out of the first digit leaves one digit too many
    if digits rounded ≤ 28 then ⟨rounded, d.exponent + excess⟩
    else ⟨rounded / 10, d.exponent + excess + 1⟩

/-- `x + y`. -/
def add (x y : Decimal) : Decimal :=
  let exponent := min x.exponent y.exponent
  fit ⟨x.scaledTo exponent + y.scaledTo exponent, exponent⟩

/-- `sum(items, start=Decimal(0))` with enough digits for every item. -/
def exactSum (items : List Decimal) : Decimal :=
  let exponent := items.foldl (fun least item => min least item.exponent) 0
  ⟨(items.map fun item => item.scaledTo exponent).sum, exponent⟩

/-- `x.quantize(Decimal(10) ** exponent, rounding=ROUND_CEILING)`; `none` is
`InvalidOperation`. -/
def quantizeCeiling (x : ℚ) (exponent : ℤ) : Option Decimal :=
  let coefficient := ⌈x / 10 ^ exponent⌉
  if digits coefficient ≤ 28 then some ⟨coefficient, exponent⟩ else none

/-- Move trailing zeros of the coefficient into the exponent. -/
def stripped : ℕ → Decimal → Decimal
  | 0, d => d
  | fuel + 1, d =>
      if d.coefficient % 10 = 0 then stripped fuel ⟨d.coefficient / 10, d.exponent + 1⟩ else d

/-- The decimal in `str(x)` of a finite `float`: its fewest digits, written with a fraction
unless it takes an exponent. -/
def ofFloat (x : ℚ) : Decimal :=
  if x = 0 then ⟨0, -1⟩
  else
    let place := lastPlace 10 17 x
    let shortestDigits := stripped 17 ⟨⌊shortest x / 10 ^ place⌋, place⟩
    if 1 / 10000 ≤ |x| ∧ |x| < 10 ^ 16 ∧ 0 ≤ shortestDigits.exponent then
      ⟨shortestDigits.scaledTo (-1), -1⟩
    else shortestDigits

/-! ## Signs -/

theorem nonneg_of_coefficient {d : Decimal} (nonneg : 0 ≤ d.coefficient) : 0 ≤ d.value := by
  have coefficient : (0 : ℚ) ≤ d.coefficient := by exact_mod_cast nonneg
  exact mul_nonneg coefficient (zpow_nonneg (by norm_num) _)

theorem coefficient_nonneg {d : Decimal} (nonneg : 0 ≤ d.value) : 0 ≤ d.coefficient := by
  unfold value at nonneg
  have scale : (0 : ℚ) < 10 ^ d.exponent := zpow_pos (by norm_num) _
  exact_mod_cast nonneg_of_mul_nonneg_left nonneg scale

theorem stripped_nonneg {fuel : ℕ} {d : Decimal} (nonneg : 0 ≤ d.coefficient) :
    0 ≤ (stripped fuel d).coefficient := by
  induction fuel generalizing d with
  | zero => exact nonneg
  | succ fuel ih =>
      unfold stripped
      split
      · exact ih (Int.ediv_nonneg nonneg (by norm_num))
      · exact nonneg

theorem scaledTo_nonneg {d : Decimal} {exponent : ℤ} (nonneg : 0 ≤ d.coefficient) :
    0 ≤ d.scaledTo exponent := by
  exact mul_nonneg nonneg (pow_nonneg (by norm_num) _)

theorem ofFloat_nonneg {x : ℚ} (nonneg : 0 ≤ x) : 0 ≤ (ofFloat x).coefficient := by
  unfold ofFloat
  split
  · exact le_refl 0
  · have digits : 0 ≤ ⌊shortest x / 10 ^ lastPlace 10 17 x⌋ :=
      Int.floor_nonneg.mpr (div_nonneg (shortest_nonneg nonneg) (zpow_nonneg (by norm_num) _))
    have short : 0 ≤ (stripped 17 ⟨⌊shortest x / 10 ^ lastPlace 10 17 x⌋,
        lastPlace 10 17 x⟩).coefficient := stripped_nonneg digits
    dsimp only
    split
    · exact scaledTo_nonneg short
    · exact short

/-! ## Exact sums -/

theorem scaledTo_value {d : Decimal} {exponent : ℤ} (le : exponent ≤ d.exponent) :
    (d.scaledTo exponent : ℚ) * 10 ^ exponent = d.value := by
  have shift : ((d.exponent - exponent).toNat : ℤ) + exponent = d.exponent := by omega
  unfold scaledTo value
  push_cast
  rw [mul_assoc, ← zpow_natCast, ← zpow_add₀ (by norm_num : (10 : ℚ) ≠ 0), shift]

theorem least_exponent (items : List Decimal) (least : ℤ) :
    items.foldl (fun least item => min least item.exponent) least ≤ least ∧
      ∀ item ∈ items,
        items.foldl (fun least item => min least item.exponent) least ≤ item.exponent := by
  induction items generalizing least with
  | nil => simp
  | cons item rest ih =>
      obtain ⟨below, others⟩ := ih (min least item.exponent)
      rw [List.foldl_cons]
      refine ⟨below.trans (min_le_left _ _), fun other member => ?_⟩
      rcases List.mem_cons.mp member with rfl | member
      · exact below.trans (min_le_right _ _)
      · exact others other member

/-- An exact sum has the sum of the values. -/
theorem exactSum_value (items : List Decimal) :
    (exactSum items).value = (items.map value).sum := by
  have scaled : ∀ {exponent : ℤ} {items : List Decimal},
      (∀ item ∈ items, exponent ≤ item.exponent) →
      (((items.map fun item => item.scaledTo exponent).sum : ℤ) : ℚ) * 10 ^ exponent =
        (items.map value).sum := by
    intro exponent items below
    induction items with
    | nil => simp
    | cons item rest ih =>
        have first := scaledTo_value (below item List.mem_cons_self)
        have others := ih fun other member => below other (List.mem_cons_of_mem item member)
        rw [List.map_cons, List.map_cons, List.sum_cons, List.sum_cons, ← first, ← others]
        push_cast
        ring
  exact scaled (least_exponent items 0).2

end Decimal

end Numeric
