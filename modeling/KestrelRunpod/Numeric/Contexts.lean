import KestrelRunpod.Numeric.Decimal
import Mathlib.Algebra.Order.BigOperators.Group.List
import Mathlib.Tactic.Positivity

/-!
# Decimal contexts

A decimal context keeps a number of digits and a range of exponents.  A sum in a context is the
exact sum where the context holds it; otherwise the context signals, and what comes of that
depends on its traps and its rounding.
-/

namespace Numeric

theorem Decimal.abs_lt_digits (m : ℤ) : |m| < 10 ^ Decimal.digits m := by
  have below := Nat.lt_pow_succ_log_self (b := 10) (by norm_num) m.natAbs
  rw [Int.abs_eq_natAbs]
  unfold Decimal.digits
  exact_mod_cast below

theorem Decimal.abs_scaledTo_lt {d : Decimal} {e : ℤ} {n : ℕ} (above : e ≤ d.exponent)
    (room : Decimal.digits d.coefficient + d.exponent - e ≤ n) : |d.scaledTo e| < 10 ^ n := by
  unfold Decimal.scaledTo
  have unit : (0 : ℤ) < 10 ^ (d.exponent - e).toNat := by positivity
  have fits : Decimal.digits d.coefficient + (d.exponent - e).toNat ≤ n := by omega
  calc |d.coefficient * 10 ^ (d.exponent - e).toNat|
      = |d.coefficient| * 10 ^ (d.exponent - e).toNat := by rw [abs_mul, abs_of_pos unit]
    _ < 10 ^ Decimal.digits d.coefficient * 10 ^ (d.exponent - e).toNat :=
        mul_lt_mul_of_pos_right (Decimal.abs_lt_digits _) unit
    _ = 10 ^ (Decimal.digits d.coefficient + (d.exponent - e).toNat) := (pow_add _ _ _).symm
    _ ≤ 10 ^ n := pow_le_pow_right₀ (by norm_num) fits

/-- The precision and the exponent range of a decimal context. -/
structure DecimalContext where
  precision : ℕ
  emin : ℤ
  emax : ℤ
  positive : 1 ≤ precision

namespace DecimalContext

/-- The context holds the number as it is. -/
def holds (c : DecimalContext) (x : ℚ) : Bool :=
  let leading := Int.log 10 |x|
  let place := max leading c.emin - ((c.precision : ℤ) - 1)
  x = 0 || ((x / 10 ^ place).isInt && leading ≤ c.emax)

/-- `x + y`; `none` is a signal. -/
def add (c : DecimalContext) (x y : ℚ) : Option ℚ :=
  if c.holds (x + y) then some (x + y) else none

/-- The context with at least the needed precision. -/
def widened (c : DecimalContext) (needed : ℕ) : DecimalContext :=
  { c with precision := max c.precision needed, positive := le_max_of_le_left c.positive }

@[simp] theorem widened_emin (c : DecimalContext) (needed : ℕ) :
    (c.widened needed).emin = c.emin := rfl

@[simp] theorem widened_emax (c : DecimalContext) (needed : ℕ) :
    (c.widened needed).emax = c.emax := rfl

theorem le_widened (c : DecimalContext) (needed : ℕ) : needed ≤ (c.widened needed).precision :=
  le_max_right _ _

/-- `sum(items, start=Decimal(0))`. -/
def sum (c : DecimalContext) (items : List ℚ) : Option ℚ :=
  items.foldlM (fun total item => c.add total item) 0

variable {c : DecimalContext} {m e : ℤ} {n : ℕ}

/-- The leading digit of a coefficient of at most `n` digits at exponent `e`. -/
theorem leading_lt (nonzero : m ≠ 0) (short : |m| < 10 ^ n) :
    Int.log 10 |(m : ℚ) * 10 ^ e| < e + n := by
  have unit : (0 : ℚ) < 10 ^ e := zpow_pos (by norm_num) e
  have size : |(m : ℚ) * 10 ^ e| = |(m : ℚ)| * 10 ^ e := by
    rw [abs_mul, abs_of_pos unit]
  have positive : 0 < |(m : ℚ) * 10 ^ e| := by
    rw [size]
    exact mul_pos (abs_pos.mpr (Int.cast_ne_zero.mpr nonzero)) unit
  have digits : |(m : ℚ)| < 10 ^ n := by exact_mod_cast short
  have below : |(m : ℚ) * 10 ^ e| < 10 ^ (e + n) := by
    rw [size, zpow_add₀ (by norm_num : (10 : ℚ) ≠ 0), mul_comm, zpow_natCast]
    exact mul_lt_mul_of_pos_left digits unit
  exact (Int.lt_zpow_iff_log_lt (by norm_num) positive).mp (by exact_mod_cast below)

/-- A coefficient within the precision is held, at an exponent whose digits reach into the
range. -/
theorem holds_of_digits (short : |m| < 10 ^ n) (within : n ≤ c.precision)
    (above : c.emin < e + c.precision) (below : e + n ≤ c.emax + 1) :
    c.holds (m * 10 ^ e) = true := by
  by_cases zero : m = 0
  · simp [holds, zero]
  have leading := leading_lt (e := e) zero short
  have positive := c.positive
  generalize place_is : max (Int.log 10 |(m : ℚ) * 10 ^ e|) c.emin - ((c.precision : ℤ) - 1) =
    place
  have fine : place ≤ e := by omega
  obtain ⟨k, is⟩ := Int.le.dest fine
  have quotient : (m : ℚ) * 10 ^ e / 10 ^ place = ((m * 10 ^ k : ℤ) : ℚ) := by
    rw [← is, zpow_add₀ (by norm_num : (10 : ℚ) ≠ 0), zpow_natCast]
    have unit : (10 : ℚ) ^ place ≠ 0 := zpow_ne_zero _ (by norm_num)
    push_cast
    rw [mul_comm ((10 : ℚ) ^ place), ← mul_assoc, mul_div_assoc, div_self unit, mul_one]
  have whole : ((m : ℚ) * 10 ^ e / 10 ^ place).isInt = true := by
    unfold Rat.isInt
    rw [quotient, Rat.den_intCast]
    rfl
  have range : Int.log 10 |(m : ℚ) * 10 ^ e| ≤ c.emax := by omega
  unfold holds
  dsimp only
  rw [place_is, whole, decide_eq_true range]
  simp

theorem add_of_digits {total item : ℤ} (short : |total + item| < 10 ^ n)
    (within : n ≤ c.precision) (above : c.emin < e + c.precision)
    (below : e + n ≤ c.emax + 1) :
    c.add (total * 10 ^ e) (item * 10 ^ e) = some (((total + item : ℤ) : ℚ) * 10 ^ e) := by
  have sum_is : (total : ℚ) * 10 ^ e + item * 10 ^ e = ((total + item : ℤ) : ℚ) * 10 ^ e := by
    push_cast
    rw [add_mul]
  have held := holds_of_digits (e := e) short within above below
  unfold add
  rw [sum_is, if_pos held]

/-- Items whose absolute values add up to at most `n` digits are summed exactly. -/
theorem foldlM_of_digits {items : List ℤ} {total : ℤ}
    (short : |total| + (items.map fun item => |item|).sum < 10 ^ n) (within : n ≤ c.precision)
    (above : c.emin < e + c.precision) (below : e + n ≤ c.emax + 1) :
    (items.map fun item : ℤ => (item : ℚ) * 10 ^ e).foldlM (fun total item => c.add total item)
        ((total : ℚ) * 10 ^ e) = some (((total + items.sum : ℤ) : ℚ) * 10 ^ e) := by
  induction items generalizing total with
  | nil => simp
  | cons item items ih =>
      rw [List.map_cons, List.sum_cons] at short
      have rest : 0 ≤ (items.map fun item => |item|).sum :=
        List.sum_nonneg fun a member => by
          obtain ⟨b, _, rfl⟩ := List.mem_map.mp member
          exact abs_nonneg b
      have first : |total + item| ≤ |total| + |item| := abs_add_le total item
      have added : c.add ((total : ℚ) * 10 ^ e) ((item : ℚ) * 10 ^ e) =
          some (((total + item : ℤ) : ℚ) * 10 ^ e) :=
        add_of_digits (by omega) within above below
      rw [List.map_cons, List.foldlM_cons, added, List.sum_cons, ← add_assoc]
      exact ih (by omega)

/-- Decimals in the unit of an exponent that is not above theirs. -/
theorem map_value {items : List Decimal} (above : ∀ item ∈ items, e ≤ item.exponent) :
    items.map Decimal.value =
      (items.map fun item => item.scaledTo e).map fun item : ℤ => (item : ℚ) * 10 ^ e := by
  rw [List.map_map]
  refine List.map_congr_left fun item member => ?_
  exact (Decimal.scaledTo_value (above item member)).symm

theorem sum_abs_le {items : List Decimal} {digits : ℕ}
    (small : ∀ item ∈ items, |item.scaledTo e| < 10 ^ digits) :
    ((items.map fun item => item.scaledTo e).map fun item => |item|).sum ≤
      items.length * 10 ^ digits := by
  induction items with
  | nil => simp
  | cons item items ih =>
      have first := small item List.mem_cons_self
      have rest := ih fun other member => small other (List.mem_cons_of_mem _ member)
      rw [List.map_cons, List.map_cons, List.sum_cons, List.length_cons]
      push_cast
      rw [add_mul, one_mul]
      omega

/-- A sum of decimals in a context whose precision covers their digits and their number. -/
theorem sum_of_decimals {items : List Decimal} {digits count : ℕ}
    (each : ∀ item ∈ items, e ≤ item.exponent ∧ |item.scaledTo e| < 10 ^ digits)
    (few : items.length < 10 ^ count) (within : digits + count ≤ c.precision)
    (above : c.emin < e + c.precision) (below : e + (digits + count : ℕ) ≤ c.emax + 1) :
    c.sum (items.map Decimal.value) = some (items.map Decimal.value).sum := by
  have values := map_value fun item member => (each item member).1
  have size := sum_abs_le fun item member => (each item member).2
  have unit : (0 : ℤ) < 10 ^ digits := by positivity
  have short : |(0 : ℤ)| + ((items.map fun item => item.scaledTo e).map fun item => |item|).sum <
      10 ^ (digits + count) := by
    have scaled : (items.length : ℤ) * 10 ^ digits < 10 ^ count * 10 ^ digits :=
      mul_lt_mul_of_pos_right (by exact_mod_cast few) unit
    rw [abs_zero, zero_add, pow_add, mul_comm (10 ^ digits : ℤ)]
    exact size.trans_lt scaled
  have folded := foldlM_of_digits (c := c) (e := e) short within above below
  have total : (items.map Decimal.value).sum =
      ((items.map fun item => item.scaledTo e).sum : ℤ) * (10 : ℚ) ^ e := by
    rw [values]
    generalize items.map (fun item => item.scaledTo e) = coefficients
    induction coefficients with
    | nil => simp
    | cons a rest ih =>
        rw [List.map_cons, List.sum_cons, List.sum_cons, ih]
        push_cast
        rw [add_mul]
  rw [total]
  unfold sum
  rw [values]
  simpa using folded

/-! ### Sums of decimals -/

/-- The sum of decimals in the context, with enough digits for their digits and their number. -/
def widenedSum (c : DecimalContext) : List Decimal → Option ℚ
  | [] => some 0
  | first :: rest =>
      let exponent := rest.foldl (fun least item => min least item.exponent) first.exponent
      let digits := (first :: rest).foldl
        (fun most item => max most (Decimal.digits item.coefficient + item.exponent - exponent).toNat)
        0
      let needed := digits + (Nat.repr (rest.length + 1)).length + 1
      (c.widened needed).sum ((first :: rest).map Decimal.value)

/-- The exponent range of the context reaches to the first digits of the items, and of their
sum. -/
structure Admits (c : DecimalContext) (items : List Decimal) : Prop where
  above : items ≠ [] → ∃ item ∈ items, c.emin ≤ item.exponent + Decimal.digits item.coefficient
  below : ∀ item ∈ items, item.exponent + Decimal.digits item.coefficient +
    (Nat.repr items.length).length ≤ c.emax + 1

/-- The widest item bounds them all, and is one of them or the start. -/
theorem foldl_max {f : Decimal → ℕ} (items : List Decimal) (most : ℕ) :
    (∀ item ∈ items, f item ≤ items.foldl (fun most item => max most (f item)) most) ∧
      (items.foldl (fun most item => max most (f item)) most = most ∨
        ∃ item ∈ items, items.foldl (fun most item => max most (f item)) most = f item) := by
  induction items generalizing most with
  | nil => simp
  | cons item rest ih =>
      have grows : ∀ {most : ℕ} {items : List Decimal},
          most ≤ items.foldl (fun most item => max most (f item)) most := by
        intro most items
        induction items generalizing most with
        | nil => exact le_rfl
        | cons item rest ih =>
            rw [List.foldl_cons]
            exact (le_max_left _ _).trans ih
      obtain ⟨others, attained⟩ := ih (max most (f item))
      rw [List.foldl_cons]
      constructor
      · intro other member
        rcases List.mem_cons.mp member with rfl | member
        · exact (le_max_right _ _).trans grows
        · exact others other member
      · rcases attained with is | ⟨other, member, is⟩
        · rcases max_choice most (f item) with left | right
          · exact .inl (is.trans left)
          · exact .inr ⟨item, List.mem_cons_self, is.trans right⟩
        · exact .inr ⟨other, List.mem_cons_of_mem item member, is⟩

/-- The sum of decimals that the range of the context admits is exact, whatever its
precision. -/
theorem widenedSum_eq {items : List Decimal} (admits : c.Admits items) :
    c.widenedSum items = some (items.map Decimal.value).sum := by
  cases items with
  | nil => rfl
  | cons first rest =>
      obtain ⟨low, each_least⟩ := Decimal.least_exponent rest first.exponent
      unfold widenedSum
      dsimp only
      generalize rest.foldl (fun least item => min least item.exponent) first.exponent = least
        at low each_least ⊢
      have least_le : ∀ item ∈ first :: rest, least ≤ item.exponent := by
        intro item member
        rcases List.mem_cons.mp member with rfl | member
        · exact low
        · exact each_least item member
      obtain ⟨widest, attained⟩ := foldl_max
        (f := fun item => (Decimal.digits item.coefficient + item.exponent - least).toNat)
        (first :: rest) 0
      generalize (first :: rest).foldl (fun most item => max most
        (Decimal.digits item.coefficient + item.exponent - least).toNat) 0 = digits
        at widest attained ⊢
      have each : ∀ item ∈ first :: rest,
          least ≤ item.exponent ∧ |item.scaledTo least| < 10 ^ digits := by
        intro item member
        have fits := widest item member
        exact ⟨least_le item member, Decimal.abs_scaledTo_lt (least_le item member) (by omega)⟩
      obtain ⟨tallest, held, reaches⟩ := admits.above (List.cons_ne_nil first rest)
      have tall := widest tallest held
      have precise := c.le_widened (digits + (Nat.repr (rest.length + 1)).length + 1)
      have top : least + digits + (Nat.repr (rest.length + 1)).length ≤ c.emax + 1 := by
        rcases attained with is | ⟨item, member, is⟩
        · have positive : 1 ≤ Decimal.digits tallest.coefficient := Nat.le_add_left 1 _
          have above := least_le tallest held
          omega
        · have below := admits.below item member
          have above := least_le item member
          rw [List.length_cons] at below
          omega
      have few : (first :: rest).length < 10 ^ (Nat.repr (rest.length + 1)).length := by
        exact (Nat.length_repr_le_iff Nat.length_repr_pos).mp le_rfl
      refine sum_of_decimals each few ?_ ?_ ?_
      · omega
      · rw [widened_emin]
        omega
      · rw [widened_emax]
        omega

end DecimalContext

/-- The ceiling of a quotient, from its floor and its remainder. -/
theorem ceil_divmod (n : ℤ) {k : ℤ} (positive : 0 < k) :
    ⌈(n : ℚ) / k⌉ = n / k + if n % k = 0 then 0 else 1 := by
  have unit : (0 : ℚ) < k := Int.cast_pos.mpr positive
  have division := Int.mul_ediv_add_emod n k
  have nonneg := Int.emod_nonneg n positive.ne'
  have below := Int.emod_lt_of_pos n positive
  have bounds : ∀ z : ℤ, (z - 1) * k < n → n ≤ z * k → ⌈(n : ℚ) / k⌉ = z := by
    intro z low high
    have low' : ((z : ℚ) - 1) * k < n := by exact_mod_cast low
    have high' : (n : ℚ) ≤ z * k := by exact_mod_cast high
    exact Int.ceil_eq_iff.mpr ⟨(lt_div_iff₀ unit).mpr low', (div_le_iff₀ unit).mpr high'⟩
  split
  · rename_i whole
    refine bounds _ ?_ ?_
    · rw [add_zero, sub_mul, one_mul, mul_comm]
      omega
    · rw [add_zero, mul_comm]
      omega
  · rename_i part
    refine bounds _ ?_ ?_
    · rw [add_sub_cancel_right, mul_comm]
      omega
    · rw [add_mul, one_mul, mul_comm]
      omega

end Numeric
