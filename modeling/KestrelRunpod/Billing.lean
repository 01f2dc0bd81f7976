import KestrelRunpod.Cpu.Environment
import KestrelRunpod.Numeric.Canonical
import KestrelRunpod.Numeric.ContextSums
import KestrelRunpod.Serverless.Billing

/-!
# Exact amounts

`exact_decimal_sum` widens the precision of the ambient context to the digits of the items and
to their number.  The rest of the context stays: its range of exponents, the rounding of a tie to
the even neighbour, and the traps, of which only the one for an overflow stops a sum.
`Balanced` says of the items what that leaves to chance.

`billing_identity_amount` writes an amount in full and trims it.
-/

namespace KestrelRunpod.Billing

open Numeric

/-! ## Amounts -/

/-- A finite `Decimal`.  A zero has a sign, too. -/
structure Finite where
  negative : Bool
  coefficient : ℕ
  exponent : ℤ
  deriving DecidableEq, Repr

namespace Finite

/-- The decimal without the sign of a zero. -/
def decimal (d : Finite) : Decimal :=
  ⟨if d.negative then -(d.coefficient : ℤ) else d.coefficient, d.exponent⟩

/-- The number that the decimal denotes. -/
def value (d : Finite) : ℚ := d.decimal.value

/-- `len(item.as_tuple().digits)`. -/
def digits (d : Finite) : ℕ := Decimal.digits d.decimal.coefficient

@[simp] theorem decimal_exponent (d : Finite) : d.decimal.exponent = d.exponent := rfl

theorem decimal_eq_zero {d : Finite} : d.decimal.coefficient = 0 ↔ d.coefficient = 0 := by
  unfold decimal
  cases d.negative with
  | false => exact Int.natCast_eq_zero
  | true => exact Int.neg_eq_zero.trans Int.natCast_eq_zero

end Finite

/-- A `Decimal`. -/
inductive Amount
  | finite (d : Finite)
  | infinite (negative : Bool)
  | nan

/-- A finite one. -/
def Amount.finite? : Amount → Option Finite
  | .finite d => some d
  | _ => none

/-- What is raised. -/
inductive Fault
  | valueError (message : String)
  | overflow

/-! ## Sums -/

/-- `MAX_PREC`. -/
def maxPrec : ℕ := 999999999999999999

/-- An ambient context of `decimal`. -/
structure Ambient extends DecimalContext where
  precise : precision ≤ maxPrec
  low : emin ≤ 0
  high : 0 ≤ emax

/-- `min(item.as_tuple().exponent for item in items)`. -/
def leastExponent (items : List Finite) : ℤ := (items.map Finite.exponent).min?.getD 0

/-- `max(len(item.as_tuple().digits) + item.as_tuple().exponent - exponent for item in items)`. -/
def mostDigits (items : List Finite) : ℕ :=
  (items.map fun item => (item.digits + item.exponent - leastExponent items).toNat).max?.getD 0

/-- `digits + len(str(len(items))) + 1`. -/
def needed (items : List Finite) : ℕ := mostDigits items + (Nat.repr items.length).length + 1

/-- `exact_decimal_sum`. -/
def exactDecimalSum (context : Ambient) (values : List Amount) : Except Fault ℚ :=
  match values.mapM Amount.finite? with
  | none => .error (.valueError "Billing amounts must be finite Decimals")
  | some items =>
      if items.isEmpty then .ok 0
      else if maxPrec < max context.precision (needed items) then
        .error (.valueError "valid range for prec is [1, MAX_PREC]")
      else
        match (context.widened (needed items)).fittedSum 0 (items.map Finite.value) with
        | some total => .ok total
        | none => .error .overflow

/-- The precision that is needed exists, the positive and the negative items do not reach above
the range, and what is lost below the last place cancels, whatever the order. -/
structure Balanced (context : Ambient) (items : List Finite) : Prop where
  precise : needed items ≤ maxPrec
  range : context.InRange (items.map Finite.value)
  settles : Settles ((context.widened (needed items)).inPlaces (items.map Finite.value))

/-! ### The widened precision -/

section

variable {items order : List Finite}

theorem min?_perm {xs ys : List ℤ} (same : xs.Perm ys) : xs.min? = ys.min? := by
  cases least : ys.min? with
  | none =>
      rw [List.min?_eq_none_iff] at least ⊢
      rw [least] at same
      exact same.eq_nil
  | some a =>
      rw [List.min?_eq_some_iff] at least ⊢
      exact ⟨same.mem_iff.mpr least.1, fun b member => least.2 b (same.mem_iff.mp member)⟩

theorem max?_perm {xs ys : List ℕ} (same : xs.Perm ys) : xs.max? = ys.max? := by
  cases most : ys.max? with
  | none =>
      rw [List.max?_eq_none_iff] at most ⊢
      rw [most] at same
      exact same.eq_nil
  | some a =>
      rw [List.max?_eq_some_iff] at most ⊢
      exact ⟨same.mem_iff.mpr most.1, fun b member => most.2 b (same.mem_iff.mp member)⟩

theorem leastExponent_perm (same : order.Perm items) :
    leastExponent order = leastExponent items := by
  unfold leastExponent
  rw [min?_perm (same.map _)]

/-- The precision does not depend on the order. -/
theorem needed_perm (same : order.Perm items) : needed order = needed items := by
  unfold needed mostDigits
  rw [leastExponent_perm same, same.length_eq, max?_perm (same.map _)]

theorem leastExponent_le {item : Finite} (member : item ∈ items) :
    leastExponent items ≤ item.exponent := by
  have held : item.exponent ∈ items.map Finite.exponent := List.mem_map_of_mem member
  unfold leastExponent
  cases least : (items.map Finite.exponent).min? with
  | none =>
      rw [List.min?_eq_none_iff] at least
      rw [least] at held
      cases held
  | some a => exact (List.min?_eq_some_iff.mp least).2 _ held

theorem leastExponent_mem (nonempty : items ≠ []) :
    ∃ item ∈ items, item.exponent = leastExponent items := by
  unfold leastExponent
  cases least : (items.map Finite.exponent).min? with
  | none =>
      rw [List.min?_eq_none_iff, List.map_eq_nil_iff] at least
      exact absurd least nonempty
  | some a =>
      obtain ⟨item, member, is⟩ := List.mem_map.mp (List.min?_eq_some_iff.mp least).1
      exact ⟨item, member, is⟩

theorem le_mostDigits {item : Finite} (member : item ∈ items) :
    item.digits + item.exponent - leastExponent items ≤ mostDigits items := by
  have held : (item.digits + item.exponent - leastExponent items).toNat ∈
      items.map fun item => (item.digits + item.exponent - leastExponent items).toNat :=
    List.mem_map_of_mem member
  unfold mostDigits
  cases most : (items.map fun item =>
      (item.digits + item.exponent - leastExponent items).toNat).max? with
  | none =>
      rw [List.max?_eq_none_iff] at most
      rw [most] at held
      cases held
  | some a =>
      have le := (List.max?_eq_some_iff.mp most).2 _ held
      rw [Option.getD_some]
      omega

/-- The coefficient of an item in the unit of the least exponent. -/
def coefficient (least : ℤ) (item : Finite) : ℤ := item.decimal.scaledTo least

theorem map_value (items : List Finite) : items.map Finite.value =
    DecimalContext.scaled (leastExponent items) (items.map (coefficient (leastExponent items))) := by
  unfold DecimalContext.scaled
  rw [List.map_map]
  refine List.map_congr_left fun item member => ?_
  exact (Decimal.scaledTo_value (leastExponent_le member)).symm

/-- The widened precision has a digit to spare over the sum of the items. -/
theorem covers_items (context : DecimalContext) (items : List Finite) :
    (context.widened (needed items)).Covers (items.map (coefficient (leastExponent items))) := by
  have few : items.length < 10 ^ (Nat.repr items.length).length :=
    (Nat.length_repr_le_iff Nat.length_repr_pos).mp le_rfl
  have precise := context.le_widened (needed items)
  have room : needed items - 1 = mostDigits items + (Nat.repr items.length).length := rfl
  have size : ((items.map (coefficient (leastExponent items))).map fun m => |m|).sum ≤
      items.length * 10 ^ mostDigits items := by
    have small : ∀ d ∈ items.map Finite.decimal,
        |d.scaledTo (leastExponent items)| < 10 ^ mostDigits items := by
      intro d member
      obtain ⟨item, held, rfl⟩ := List.mem_map.mp member
      exact Decimal.abs_scaledTo_lt (leastExponent_le held) (le_mostDigits held)
    have bounded := DecimalContext.sum_abs_le small
    simp only [List.map_map, List.length_map] at bounded ⊢
    exact bounded
  constructor
  · have scaled : (items.length : ℤ) * 10 ^ mostDigits items <
        10 ^ (Nat.repr items.length).length * 10 ^ mostDigits items :=
      mul_lt_mul_of_pos_right (by exact_mod_cast few) (by positivity)
    calc ((items.map (coefficient (leastExponent items))).map fun m => |m|).sum
        < 10 ^ (Nat.repr items.length).length * 10 ^ mostDigits items := size.trans_lt scaled
      _ = 10 ^ (needed items - 1) := by rw [room, pow_add, mul_comm]
      _ ≤ 10 ^ ((context.widened (needed items)).precision - 1) :=
          pow_le_pow_right₀ (by norm_num) (by omega)
  · rw [List.length_map]
    exact few.le.trans (Nat.pow_le_pow_right (by norm_num) (by omega))

end

/-! ### Every order -/

theorem mapM_finite (items : List Finite) :
    (items.map Amount.finite).mapM Amount.finite? = some items := by
  induction items with
  | nil => rfl
  | cons item items ih =>
      rw [List.map_cons, List.mapM_cons, ih]
      rfl

/-- Sums of finite decimals. -/
theorem exactDecimalSum_finite (context : Ambient) {items : List Finite} (nonempty : items ≠ []) :
    exactDecimalSum context (items.map .finite) =
      if maxPrec < needed items then .error (.valueError "valid range for prec is [1, MAX_PREC]")
      else
        match (context.widened (needed items)).fittedSum 0 (items.map Finite.value) with
        | some total => .ok total
        | none => .error .overflow := by
  have limit : maxPrec < max context.precision (needed items) ↔ maxPrec < needed items := by
    have precise := context.precise
    omega
  have some_items : items.isEmpty = false := by
    rw [List.isEmpty_eq_false_iff]
    exact nonempty
  unfold exactDecimalSum
  rw [mapM_finite]
  simp only [some_items, Bool.false_eq_true, if_false, limit]

theorem balanced_nil (context : Ambient) : Balanced context [] where
  precise := by decide
  range := by
    have top : (0 : ℚ) < 10 ^ (context.emax + 1) := zpow_pos (by norm_num) _
    simp [DecimalContext.InRange, DecimalContext.positives, DecimalContext.negatives, top]
  settles := ⟨by simp [DecimalContext.inPlaces], .inl fun _ member => by
    simp [DecimalContext.inPlaces] at member⟩

/-- The sums are exact in every order just where the items are balanced. -/
theorem exactDecimalSum_exact_iff (context : Ambient) (items : List Finite) :
    (∀ order : List Finite, order.Perm items →
      exactDecimalSum context (order.map .finite) = .ok (items.map Finite.value).sum) ↔
      Balanced context items := by
  by_cases empty : items = []
  · rw [empty]
    refine iff_of_true (fun order same => ?_) (balanced_nil context)
    rw [same.eq_nil]
    rfl
  by_cases precise : needed items ≤ maxPrec
  · have range : context.emin ≤ context.emax := context.low.trans context.high
    have exact_iff := DecimalContext.sum_exact_iff (c := context.widened (needed items))
      (leastExponent items) range (covers_items context.toDecimalContext items)
    rw [← map_value] at exact_iff
    have returned : ∀ order : List Finite, order.Perm items →
        (exactDecimalSum context (order.map .finite) = .ok (items.map Finite.value).sum ↔
          (context.widened (needed items)).fittedSum 0 (DecimalContext.scaled (leastExponent items)
            (order.map (coefficient (leastExponent items)))) =
              some (items.map Finite.value).sum) := by
      intro order same
      have nonempty : order ≠ [] := fun nil => empty (by rw [nil] at same; exact same.symm.eq_nil)
      rw [exactDecimalSum_finite context nonempty, needed_perm same, if_neg (not_lt.mpr precise),
        map_value order, leastExponent_perm same]
      cases (context.widened (needed items)).fittedSum 0 (DecimalContext.scaled
        (leastExponent items) (order.map (coefficient (leastExponent items)))) with
      | none => exact iff_of_false (fun is => nomatch is) fun is => nomatch is
      | some total => exact ⟨fun is => congrArg some (Except.ok.inj is),
          fun is => congrArg Except.ok (Option.some.inj is)⟩
    constructor
    · intro agree
      obtain ⟨inRange, settles⟩ := exact_iff.mp fun coefficients same => by
        obtain ⟨order, same_order, rfl⟩ := DecimalContext.exists_order same
        exact (returned order same_order).mp (agree order same_order)
      exact ⟨precise, inRange, settles⟩
    · intro balanced order same
      have summed := exact_iff.mpr ⟨balanced.range, balanced.settles⟩
      exact (returned order same).mpr (summed _ (same.map _))
  · refine iff_of_false (fun agree => ?_) fun balanced => precise balanced.precise
    have refused := agree items (List.Perm.refl items)
    rw [exactDecimalSum_finite context empty, if_pos (not_le.mp precise)] at refused
    cases refused

/-- Items down to the last place that is needed are summed exactly in every order, whatever the
precision of the ambient context. -/
theorem Balanced.of_places {context : Ambient} {items : List Finite}
    (precise : needed items ≤ maxPrec) (range : context.InRange (items.map Finite.value))
    (places : ∀ item ∈ items, context.emin < item.exponent + needed items) :
    Balanced context items := by
  refine ⟨precise, range, ?_⟩
  rw [map_value]
  by_cases empty : items = []
  · rw [empty]
    exact (balanced_nil context).settles
  · apply DecimalContext.settles_fine
    obtain ⟨item, member, is⟩ := leastExponent_mem empty
    have wide := places item member
    have precision := context.le_widened (needed items)
    unfold DecimalContext.tiny
    rw [DecimalContext.widened_emin]
    omega

/-! ### The sums of the other modules -/

theorem leastExponent_cons (first : Finite) (rest : List Finite) :
    leastExponent (first :: rest) =
      (rest.map Finite.decimal).foldl (fun least item => min least item.exponent)
        first.decimal.exponent := by
  unfold leastExponent
  rw [List.foldl_map, List.map_cons, List.min?_cons', Option.getD_some, List.foldl_map]
  rfl

theorem needed_cons (first : Finite) (rest : List Finite) :
    needed (first :: rest) =
      ((first :: rest).map Finite.decimal).foldl (fun most item => max most
        (Decimal.digits item.coefficient + item.exponent -
          leastExponent (first :: rest)).toNat) 0 +
        (Nat.repr (rest.length + 1)).length + 1 := by
  unfold needed mostDigits
  rw [List.foldl_map, List.foldl_cons, List.map_cons, List.max?_cons', Option.getD_some,
    List.foldl_map, Nat.zero_max]
  rfl

/-- Where the sum of a CPU environment is returned, it is the sum. -/
theorem exactDecimalSum_of_cpu {context : Ambient} {items : List Finite} {total : ℚ}
    (precise : needed items ≤ maxPrec)
    (returned : Cpu.exactDecimalSum context.toDecimalContext (items.map Finite.decimal) =
      .ok total) :
    exactDecimalSum context (items.map .finite) = .ok total := by
  cases items with
  | nil =>
      cases returned
      rfl
  | cons first rest =>
      rw [exactDecimalSum_finite context (List.cons_ne_nil first rest),
        if_neg (not_lt.mpr precise)]
      unfold Cpu.exactDecimalSum at returned
      rw [List.map_cons] at returned
      dsimp only at returned
      rw [← leastExponent_cons, List.length_map, ← List.map_cons, ← needed_cons, List.map_map]
        at returned
      split at returned
      · rename_i sum summed
        cases returned
        have kept := DecimalContext.fittedSum_of_sum summed
        have values : (first :: rest).map Finite.value =
            (first :: rest).map (Decimal.value ∘ Finite.decimal) := rfl
        rw [values, kept]
      · cases returned

/-! ## Identities -/

/-- `format(value, "f")`. -/
def format (d : Finite) : List Char :=
  if d.negative then '-' :: Decimal.magnitude d.coefficient d.exponent
  else Decimal.magnitude d.coefficient d.exponent

/-- `billing_identity_amount`. -/
def billingIdentityAmount : Amount → Except Fault String
  | .finite d =>
      if d.coefficient = 0 then .ok "0" else .ok (String.ofList (Decimal.trimmed (format d)))
  | _ => .error (.valueError "Billing identity amount must be a finite Decimal")

/-- The identity of an amount is the text of its canonical decimal. -/
theorem billingIdentityAmount_finite (d : Finite) :
    billingIdentityAmount (.finite d) = .ok d.decimal.canonical.fixed := by
  unfold billingIdentityAmount
  dsimp only
  by_cases zero : d.coefficient = 0
  · have canonical : d.decimal.canonical = ⟨0, 0⟩ := if_pos (Finite.decimal_eq_zero.mpr zero)
    rw [if_pos zero, canonical]
    rfl
  · have nonzero : d.decimal.coefficient ≠ 0 := fun is => zero (Finite.decimal_eq_zero.mp is)
    have text : format d = Decimal.fixedChars d.decimal := by
      unfold format Decimal.fixedChars Finite.decimal
      cases d.negative with
      | false =>
          have sign : ¬ ((d.coefficient : ℤ) < 0) := by omega
          simp only [Bool.false_eq_true, if_false, sign, Int.natAbs_natCast]
      | true =>
          have sign : -(d.coefficient : ℤ) < 0 := by omega
          simp only [if_true, sign, Int.natAbs_neg, Int.natAbs_natCast]
    rw [if_neg zero, text, Decimal.trimmed_fixedChars nonzero]
    rfl

/-- Two amounts have one identity just where they are equal. -/
theorem billingIdentityAmount_eq_iff (d e : Finite) :
    billingIdentityAmount (.finite d) = billingIdentityAmount (.finite e) ↔
      d.value = e.value := by
  rw [billingIdentityAmount_finite, billingIdentityAmount_finite, Except.ok.injEq]
  obtain ⟨canonical, -⟩ := Decimal.canonical_spec d.decimal
  obtain ⟨canonical', -⟩ := Decimal.canonical_spec e.decimal
  unfold Finite.value
  rw [← Decimal.canonical_eq_iff]
  constructor
  · intro same
    have read := canonical.ofNumeral
    rw [String.ofList_injective same, canonical'.ofNumeral] at read
    exact (Option.some.inj read).symm
  · intro same
    rw [same]

/-- What is read from the identity of an amount is the amount that a bill is normalized to. -/
theorem ofNumeral_identity (d : Finite) :
    ∃ text, billingIdentityAmount (.finite d) = .ok text ∧
      Decimal.ofNumeral text.toList = some (Serverless.canonicalAmount d.decimal) := by
  obtain ⟨canonical, -⟩ := Decimal.canonical_spec d.decimal
  refine ⟨d.decimal.canonical.fixed, billingIdentityAmount_finite d, ?_⟩
  unfold Decimal.fixed
  rw [String.toList_ofList, canonical.ofNumeral]
  rfl

/-! ## Sums and identities -/

/-- Sums are exact in every order just where the items are balanced; and two amounts have one
identity just where they are equal. -/
theorem amounts_exact_iff (context : Ambient) (items : List Finite) (d e : Finite) :
    ((∀ order : List Finite, order.Perm items →
      exactDecimalSum context (order.map .finite) = .ok (items.map Finite.value).sum) ↔
      Balanced context items) ∧
    (billingIdentityAmount (.finite d) = billingIdentityAmount (.finite e) ↔ d.value = e.value) :=
  ⟨exactDecimalSum_exact_iff context items, billingIdentityAmount_eq_iff d e⟩

/-- `decimal.DefaultContext`. -/
def defaultContext : Ambient where
  precision := 28
  emin := -999999
  emax := 999999
  positive := Nat.succ_pos 27
  precise := Nat.le_of_ble_eq_true rfl
  low := Int.neg_nonpos_of_nonneg (Int.natCast_nonneg 999999)
  high := Int.natCast_nonneg 999999

/-- An amount far below the last place of the default context is lost. -/
theorem tiny_amount_lost :
    ¬ ∀ (context : Ambient) (items order : List Finite), order.Perm items →
      exactDecimalSum context (order.map .finite) = .ok (items.map Finite.value).sum := by
  intro always
  have returned := always defaultContext [⟨false, 1, -2000000⟩] _ (List.Perm.refl _)
  have few : needed [⟨false, 1, -2000000⟩] = 3 := by decide
  have value_is : Finite.value ⟨false, 1, -2000000⟩ = (10 : ℚ) ^ (-2000000 : ℤ) := by
    unfold Finite.value Finite.decimal Decimal.value
    simp only [Bool.false_eq_true, if_false, Nat.cast_one, Int.cast_one, one_mul]
  have positive : (0 : ℚ) < 10 ^ (-2000000 : ℤ) := zpow_pos (by norm_num) _
  generalize context_is : defaultContext.widened (needed [⟨false, 1, -2000000⟩]) = c
  have bottom : c.emin = -999999 := by rw [← context_is]; rfl
  have last : c.tiny = -1000026 := by
    rw [← context_is, few]
    decide
  -- the amount is less than half of the last place
  have small : (10 : ℚ) ^ (-2000000 : ℤ) / 10 ^ (-1000026 : ℤ) < 1 / 2 := by
    rw [← zpow_sub₀ (by norm_num : (10 : ℚ) ≠ 0)]
    calc (10 : ℚ) ^ (-2000000 - -1000026 : ℤ) ≤ 10 ^ (-1 : ℤ) :=
          zpow_le_zpow_right₀ (by norm_num) (by norm_num)
      _ < 1 / 2 := by norm_num
  have lost : roundAt 10 c.tiny ((10 : ℚ) ^ (-2000000 : ℤ)) = 0 := by
    have nonneg : (0 : ℚ) ≤ 10 ^ (-2000000 : ℤ) / 10 ^ (-1000026 : ℤ) :=
      div_nonneg positive.le (zpow_nonneg (by norm_num) _)
    unfold roundAt
    rw [last, Nat.cast_ofNat, roundEven_small nonneg small, Int.cast_zero, zero_mul]
  have low : |(10 : ℚ) ^ (-2000000 : ℤ)| < 2 * 10 ^ c.emin := by
    have less : (10 : ℚ) ^ (-2000000 : ℤ) < 10 ^ (-999999 : ℤ) :=
      zpow_lt_zpow_right₀ (by norm_num) (by norm_num)
    rw [abs_of_pos positive, bottom]
    linarith
  have range : c.emin ≤ c.emax := by
    rw [← context_is]
    decide
  have kept := DecimalContext.fit_low range low
  rw [lost] at kept
  rw [exactDecimalSum_finite defaultContext (List.cons_ne_nil _ _), few, if_neg (by decide), ← few,
    context_is, List.map_singleton, value_is, List.sum_singleton,
    DecimalContext.fittedSum_cons (r := 0) (by rw [zero_add]; exact kept)] at returned
  exact positive.ne (Except.ok.inj returned)

end KestrelRunpod.Billing
