import KestrelRunpod.Numeric.DecimalText
import Mathlib.Data.List.DropRight

/-!
# One text for each value

A decimal that is written in full, without the zeros at the end of its fraction, is the text of a
canonical decimal: one with no positive exponent, and with a last digit above zero if it has a
fraction.  There is one canonical decimal of each value.
-/

namespace Numeric.Decimal

/-- The decimal of the same value with the shortest fraction. -/
def canonical (d : Decimal) : Decimal :=
  if d.coefficient = 0 then ⟨0, 0⟩
  else if 0 ≤ d.exponent then ⟨d.scaledTo 0, 0⟩
  else stripped (-d.exponent).toNat d

/-- `text.rstrip(c)`. -/
def rstrip (c : Char) (text : List Char) : List Char := text.rdropWhile (· = c)

/-- `text.rstrip("0").rstrip(".") if "." in text else text`. -/
def trimmed (text : List Char) : List Char :=
  if '.' ∈ text then rstrip '.' (rstrip '0' text) else text

/-- No positive exponent, and no zero at the end of a fraction. -/
structure IsCanonical (d : Decimal) : Prop where
  places : d.exponent ≤ 0
  last : d.exponent < 0 → d.coefficient % 10 ≠ 0

/-! ## Canonical decimals -/

/-- A zero moved into the exponent leaves the value. -/
theorem value_shift {d : Decimal} (zero : d.coefficient % 10 = 0) :
    (⟨d.coefficient / 10, d.exponent + 1⟩ : Decimal).value = d.value := by
  have tens : d.coefficient = d.coefficient / 10 * 10 := by omega
  have cast : (d.coefficient : ℚ) = ((d.coefficient / 10 : ℤ) : ℚ) * 10 := by exact_mod_cast tens
  unfold value
  dsimp only
  rw [cast, zpow_add_one₀ (by norm_num : (10 : ℚ) ≠ 0)]
  ring

theorem stripped_canonical (fuel : ℕ) {d : Decimal} (places : d.exponent + fuel = 0) :
    (stripped fuel d).IsCanonical ∧ (stripped fuel d).value = d.value := by
  induction fuel generalizing d with
  | zero =>
      have none : d.exponent = 0 := by omega
      exact ⟨⟨none.le, fun below => by rw [stripped, none] at below; omega⟩, rfl⟩
  | succ fuel ih =>
      unfold stripped
      by_cases zero : d.coefficient % 10 = 0
      · rw [if_pos zero]
        obtain ⟨canonical, same⟩ := ih (d := ⟨d.coefficient / 10, d.exponent + 1⟩)
          (by dsimp only; omega)
        exact ⟨canonical, same.trans (value_shift zero)⟩
      · rw [if_neg zero]
        exact ⟨⟨by omega, fun _ => zero⟩, rfl⟩

theorem canonical_spec (d : Decimal) : d.canonical.IsCanonical ∧ d.canonical.value = d.value := by
  unfold canonical
  by_cases zero : d.coefficient = 0
  · rw [if_pos zero]
    refine ⟨⟨le_rfl, fun below => absurd below (lt_irrefl 0)⟩, ?_⟩
    unfold value
    rw [zero]
    simp
  · rw [if_neg zero]
    by_cases whole : 0 ≤ d.exponent
    · rw [if_pos whole]
      have same := scaledTo_value whole
      exact ⟨⟨le_rfl, fun below => absurd below (lt_irrefl 0)⟩, same⟩
    · rw [if_neg whole]
      exact stripped_canonical _ (by omega)

/-- There is one canonical decimal of a value: with fewer places, it would be the other one with
zeros at the end of its fraction. -/
theorem IsCanonical.eq_of_value {d e : Decimal} (canonical : d.IsCanonical)
    (canonical' : e.IsCanonical) (same : d.value = e.value) : d = e := by
  have fewer : ∀ {d e : Decimal}, d.IsCanonical → e.IsCanonical → d.value = e.value →
      d.exponent ≤ e.exponent → d = e := by
    intro d e canonical canonical' same le
    have shared := scaledTo_value le
    have unit : (10 : ℚ) ^ d.exponent ≠ 0 := zpow_ne_zero _ (by norm_num)
    have coefficients : d.coefficient = e.scaledTo d.exponent := by
      have product : (d.coefficient : ℚ) * 10 ^ d.exponent =
          (e.scaledTo d.exponent : ℚ) * 10 ^ d.exponent := by
        rw [shared, ← same]
        rfl
      exact_mod_cast mul_right_cancel₀ unit product
    unfold scaledTo at coefficients
    have exponents : d.exponent = e.exponent := by
      by_contra differ
      obtain ⟨k, is⟩ : ∃ k, (e.exponent - d.exponent).toNat = k + 1 :=
        ⟨(e.exponent - d.exponent).toNat - 1, by omega⟩
      have fraction := canonical.last (by have := canonical'.places; omega)
      rw [is, pow_succ, ← mul_assoc] at coefficients
      omega
    rw [exponents, sub_self, Int.toNat_zero, pow_zero, mul_one] at coefficients
    obtain ⟨c, x⟩ := d
    obtain ⟨c', x'⟩ := e
    exact Decimal.mk.injEq c x c' x' ▸ ⟨coefficients, exponents⟩
  rcases le_total d.exponent e.exponent with le | le
  · exact fewer canonical canonical' same le
  · exact (fewer canonical' canonical same.symm le).symm

theorem canonical_eq_iff {d e : Decimal} : d.canonical = e.canonical ↔ d.value = e.value := by
  obtain ⟨canonical, same⟩ := canonical_spec d
  obtain ⟨canonical', same'⟩ := canonical_spec e
  constructor
  · intro is
    rw [← same, ← same', is]
  · intro is
    exact canonical.eq_of_value canonical' (same.trans (is.trans same'.symm))

theorem IsCanonical.plain {d : Decimal} (canonical : d.IsCanonical) : d.plain = d := by
  have places := canonical.places
  unfold Decimal.plain
  split
  · rename_i whole
    have none : d.exponent = 0 := le_antisymm places whole
    unfold scaledTo
    rw [none, sub_self, Int.toNat_zero, pow_zero, mul_one, ← none]
  · rfl

/-- A canonical decimal is read back from its text. -/
theorem IsCanonical.ofNumeral {d : Decimal} (canonical : d.IsCanonical) :
    Decimal.ofNumeral (fixedChars d) = some d := by
  rw [ofNumeral_fixedChars, canonical.plain]

/-! ## Trimmed texts -/

theorem toDigits_concat (n : ℕ) :
    ∃ front, Nat.toDigits 10 n = front ++ [Nat.digitChar (n % 10)] := by
  by_cases short : n < 10
  · refine ⟨[], ?_⟩
    rw [Nat.toDigits_of_lt_base short, Nat.mod_eq_of_lt short, List.nil_append]
  · exact ⟨_, Nat.toDigits_of_base_le (by norm_num) (not_lt.mp short)⟩

theorem toDigits_ten {m : ℕ} (positive : 0 < m) :
    Nat.toDigits 10 (10 * m) = Nat.toDigits 10 m ++ ['0'] := by
  rw [Nat.toDigits_of_base_le (by norm_num) (by omega), Nat.mul_div_cancel_left m (by norm_num),
    Nat.mul_mod_right]
  rfl

theorem padded_ten {m : ℕ} (width : ℕ) (positive : 0 < m) :
    padded (width + 1) (10 * m) = padded width m ++ ['0'] := by
  unfold padded
  rw [toDigits_ten positive, List.length_append, List.length_singleton, Nat.add_sub_add_right,
    List.append_assoc]

/-- Ten times a number, at one place more. -/
theorem pointed_ten {m : ℕ} (places : ℕ) (positive : 0 < m) :
    pointed (places + 1) (10 * m) = pointed places m ++ ['0'] := by
  have long := le_length_padded (places + 1) m
  unfold pointed
  rw [padded_ten (places + 1) positive]
  generalize padded (places + 1) m = digits at long ⊢
  dsimp only
  have cut : (digits ++ ['0']).length - (places + 1) = digits.length - places := by
    rw [List.length_append, List.length_singleton]
    omega
  rw [cut, List.take_append_of_le_length (by omega), List.drop_append_of_le_length (by omega),
    List.append_assoc, List.cons_append]

theorem pointed_zero (n : ℕ) : pointed 0 n = Nat.toDigits 10 n ++ ['.'] := by
  have nonempty : 1 ≤ (Nat.toDigits 10 n).length := Nat.length_toDigits_pos
  have bare : padded 1 n = Nat.toDigits 10 n := by
    unfold padded
    rw [Nat.sub_eq_zero_of_le nonempty, List.replicate_zero, List.nil_append]
  unfold pointed
  rw [zero_add, bare]
  dsimp only
  rw [Nat.sub_zero, List.take_length, List.drop_length]

/-- A fraction ends with the last digit of the number. -/
theorem pointed_concat (places n : ℕ) :
    ∃ front, pointed (places + 1) n = front ++ [Nat.digitChar (n % 10)] := by
  have long := le_length_padded (places + 1 + 1) n
  obtain ⟨front, digits_are⟩ : ∃ front,
      padded (places + 1 + 1) n = front ++ [Nat.digitChar (n % 10)] := by
    obtain ⟨front, is⟩ := toDigits_concat n
    refine ⟨List.replicate (places + 1 + 1 - (Nat.toDigits 10 n).length) '0' ++ front, ?_⟩
    unfold padded
    rw [List.append_assoc, ← is]
  rw [digits_are, List.length_append, List.length_singleton] at long
  unfold pointed
  rw [digits_are]
  dsimp only
  rw [List.length_append, List.length_singleton]
  refine ⟨(front ++ [Nat.digitChar (n % 10)]).take (front.length + 1 - (places + 1)) ++
    '.' :: front.drop (front.length + 1 - (places + 1)), ?_⟩
  rw [List.drop_append_of_le_length (by omega), List.append_assoc, List.cons_append]

theorem rstrip_concat_pos (c : Char) (front : List Char) : rstrip c (front ++ [c]) = rstrip c front :=
  List.rdropWhile_concat_pos _ _ _ (by simp)

theorem rstrip_concat_neg {c last : Char} (front : List Char) (other : last ≠ c) :
    rstrip c (front ++ [last]) = front ++ [last] :=
  List.rdropWhile_concat_neg _ _ _ (by simpa using other)

theorem digitChar_not_point {k : ℕ} (digit : k < 10) : Nat.digitChar k ≠ '.' := by
  have each : ∀ k < 10, Nat.digitChar k ≠ '.' := by decide
  exact each k digit

theorem digitChar_not_zero {k : ℕ} (digit : k < 10) (nonzero : k ≠ 0) :
    Nat.digitChar k ≠ '0' := by
  have each : ∀ k < 10, k ≠ 0 → Nat.digitChar k ≠ '0' := by decide
  exact each k digit nonzero

/-- The zeros of a fraction are trimmed as they are moved into the exponent. -/
theorem rstrip_pointed {d : Decimal} (places : ℕ) (nonzero : d.coefficient ≠ 0)
    (exponent : d.exponent + places = 0) :
    rstrip '.' (rstrip '0' (pointed places d.coefficient.natAbs)) =
        magnitude (stripped places d).coefficient.natAbs (stripped places d).exponent ∧
      ((stripped places d).coefficient < 0 ↔ d.coefficient < 0) := by
  induction places generalizing d with
  | zero =>
      have none : d.exponent = 0 := by omega
      obtain ⟨front, digits_are⟩ := toDigits_concat d.coefficient.natAbs
      have digit : d.coefficient.natAbs % 10 < 10 := Nat.mod_lt _ (by norm_num)
      rw [pointed_zero, rstrip_concat_neg _ (by decide : '.' ≠ '0'), rstrip_concat_pos, digits_are,
        rstrip_concat_neg front (digitChar_not_point digit), ← digits_are]
      unfold stripped magnitude
      rw [none, if_pos le_rfl, Int.toNat_zero, pow_zero, mul_one]
      exact ⟨rfl, Iff.rfl⟩
  | succ places ih =>
      unfold stripped
      by_cases zero : d.coefficient % 10 = 0
      · rw [if_pos zero]
        have tens : d.coefficient.natAbs = 10 * (d.coefficient / 10).natAbs := by omega
        obtain ⟨text, sign⟩ := ih (d := ⟨d.coefficient / 10, d.exponent + 1⟩)
          (by dsimp only; omega) (by dsimp only; omega)
        rw [tens, pointed_ten places (by omega), rstrip_concat_pos]
        refine ⟨text, sign.trans ?_⟩
        dsimp only
        omega
      · rw [if_neg zero]
        obtain ⟨front, is⟩ := pointed_concat places d.coefficient.natAbs
        have digit : d.coefficient.natAbs % 10 < 10 := Nat.mod_lt _ (by norm_num)
        have last : d.coefficient.natAbs % 10 ≠ 0 := by omega
        have negative : ¬ 0 ≤ d.exponent := by omega
        have count : (-d.exponent).toNat = places + 1 := by omega
        rw [is, rstrip_concat_neg front (digitChar_not_zero digit last),
          rstrip_concat_neg front (digitChar_not_point digit), ← is]
        unfold magnitude
        rw [if_neg negative, count]
        exact ⟨rfl, Iff.rfl⟩

theorem rstrip_cons {c first : Char} (other : first ≠ c) (text : List Char) :
    rstrip c (first :: text) = first :: rstrip c text := by
  induction text using List.reverseRecOn with
  | nil => exact rstrip_concat_neg [] other
  | append_singleton text last ih =>
      rw [← List.cons_append]
      by_cases same : last = c
      · rw [same, rstrip_concat_pos, rstrip_concat_pos, ih]
      · rw [rstrip_concat_neg _ same, rstrip_concat_neg _ same, List.cons_append]

theorem point_mem_fixedChars (d : Decimal) : '.' ∈ fixedChars d ↔ d.exponent < 0 := by
  have unsigned : ∀ n : ℕ, '.' ∈ magnitude n d.exponent ↔ d.exponent < 0 := by
    intro n
    unfold magnitude
    by_cases whole : 0 ≤ d.exponent
    · rw [if_pos whole]
      refine iff_of_false (fun point => ?_) (not_lt.mpr whole)
      exact absurd (toDigits_digits _ '.' point) (by decide)
    · rw [if_neg whole]
      refine iff_of_true ?_ (not_le.mp whole)
      unfold pointed
      exact List.mem_append_right _ List.mem_cons_self
  unfold fixedChars
  split
  · rw [List.mem_cons, unsigned]
    exact ⟨fun either => either.resolve_left (by decide), .inr⟩
  · exact unsigned _

/-- The trimmed text of a decimal that is not zero is the text of the canonical one. -/
theorem trimmed_fixedChars {d : Decimal} (nonzero : d.coefficient ≠ 0) :
    trimmed (fixedChars d) = fixedChars d.canonical := by
  unfold trimmed canonical
  rw [if_neg nonzero]
  by_cases whole : 0 ≤ d.exponent
  · have pointless : ¬ '.' ∈ fixedChars d := by
      rw [point_mem_fixedChars]
      exact not_lt.mpr whole
    have plain_is : d.plain = ⟨d.scaledTo 0, 0⟩ := if_pos whole
    rw [if_neg pointless, if_pos whole, ← plain_is]
    exact (String.ofList_injective (fixed_plain d)).symm
  · have has_point : '.' ∈ fixedChars d := (point_mem_fixedChars d).mpr (not_le.mp whole)
    have count : d.exponent + (-d.exponent).toNat = 0 := by omega
    obtain ⟨text, sign⟩ := rstrip_pointed (-d.exponent).toNat nonzero count
    have fraction : magnitude d.coefficient.natAbs d.exponent =
        pointed (-d.exponent).toNat d.coefficient.natAbs := if_neg whole
    rw [if_pos has_point, if_neg whole]
    unfold fixedChars
    rw [fraction]
    by_cases negative : d.coefficient < 0
    · rw [if_pos negative, if_pos (sign.mpr negative), rstrip_cons (by decide),
        rstrip_cons (by decide), text]
    · rw [if_neg negative, if_neg fun below => negative (sign.mp below), text]

end Numeric.Decimal
