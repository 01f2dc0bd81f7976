import KestrelRunpod.Numeric.Decimal

/-!
# Texts of decimals

`format(d, "f")` writes a decimal in full, without an exponent; `Decimal(text)` reads a numeral
with or without one.  What is written reads back with its value, and with its exponent unless
that is positive.  Numerals are of ASCII digits, and what is not a finite number is not read.
-/

namespace Numeric.Decimal

/-! ## Writing -/

/-- The digits of a number, at least `width` of them. -/
def padded (width n : ℕ) : List Char :=
  List.replicate (width - (Nat.toDigits 10 n).length) '0' ++ Nat.toDigits 10 n

/-- The digits of a magnitude, with a point before its last `places`. -/
def pointed (places n : ℕ) : List Char :=
  let digits := padded (places + 1) n
  digits.take (digits.length - places) ++ '.' :: digits.drop (digits.length - places)

/-- A magnitude at an exponent, written in full. -/
def magnitude (n : ℕ) (exponent : ℤ) : List Char :=
  if 0 ≤ exponent then Nat.toDigits 10 (n * 10 ^ exponent.toNat)
  else pointed (-exponent).toNat n

/-- The characters of `format(d, "f")`. -/
def fixedChars (d : Decimal) : List Char :=
  if d.coefficient < 0 then '-' :: magnitude d.coefficient.natAbs d.exponent
  else magnitude d.coefficient.natAbs d.exponent

/-- `format(d, "f")`. -/
def fixed (d : Decimal) : String := String.ofList (fixedChars d)

/-! ## Reading -/

/-- A number in digits. -/
def naturalChars (chars : List Char) : Option ℕ :=
  if chars ≠ [] ∧ chars.all Char.isDigit = true then some (Nat.ofDigitChars 10 chars 0) else none

/-- What follows the digits of a numeral: nothing, or an exponent. -/
def exponentChars : List Char → Option ℤ
  | [] => some 0
  | mark :: rest =>
      if mark = 'e' ∨ mark = 'E' then
        match rest with
        | '-' :: digits => (naturalChars digits).map fun n => -(n : ℤ)
        | '+' :: digits => (naturalChars digits).map fun n => (n : ℤ)
        | digits => (naturalChars digits).map fun n => (n : ℤ)
      else none

/-- A numeral without a sign: digits around an optional point, and an optional exponent. -/
def unsignedNumeral (chars : List Char) : Option Decimal :=
  let whole := chars.takeWhile Char.isDigit
  match chars.dropWhile Char.isDigit with
  | '.' :: rest =>
      let fraction := rest.takeWhile Char.isDigit
      if whole ++ fraction = [] then none
      else (exponentChars (rest.dropWhile Char.isDigit)).map fun exponent =>
        ⟨Nat.ofDigitChars 10 (whole ++ fraction) 0, exponent - fraction.length⟩
  | rest =>
      if whole = [] then none
      else (exponentChars rest).map fun exponent => ⟨Nat.ofDigitChars 10 whole 0, exponent⟩

/-- The decimal of the other sign. -/
def negated (d : Decimal) : Decimal := ⟨-d.coefficient, d.exponent⟩

/-- A numeral, as `Decimal` reads it. -/
def ofNumeral : List Char → Option Decimal
  | '-' :: rest => (unsignedNumeral rest).map negated
  | '+' :: rest => unsignedNumeral rest
  | chars => unsignedNumeral chars

/-! ## What is written reads back -/

/-- The decimal without a positive exponent. -/
def plain (d : Decimal) : Decimal := if 0 ≤ d.exponent then ⟨d.scaledTo 0, 0⟩ else d

@[simp] theorem negated_value (d : Decimal) : d.negated.value = -d.value := by
  unfold negated value
  push_cast
  ring

theorem plain_value (d : Decimal) : d.plain.value = d.value := by
  unfold plain
  split
  · rename_i nonneg
    have scaled := scaledTo_value nonneg
    unfold value
    exact scaled
  · rfl

theorem toDigits_digits (n : ℕ) : ∀ c ∈ Nat.toDigits 10 n, c.isDigit = true :=
  fun _ member => Nat.isDigit_of_mem_toDigits (by decide) (by decide) member

theorem padded_digits (width n : ℕ) : ∀ c ∈ padded width n, c.isDigit = true := by
  intro c member
  rcases List.mem_append.mp member with zero | digit
  · rw [List.eq_of_mem_replicate zero]
    rfl
  · exact toDigits_digits n c digit

theorem le_length_padded (width n : ℕ) : width ≤ (padded width n).length := by
  unfold padded
  rw [List.length_append, List.length_replicate]
  omega

theorem padded_reads (width n : ℕ) : Nat.ofDigitChars 10 (padded width n) 0 = n := by
  unfold padded
  rw [Nat.ofDigitChars_append, Nat.ofDigitChars_replicate_zero, Nat.mul_zero,
    Nat.ofDigitChars_ten_toDigits]

/-- Digits before something else are all that is taken as digits. -/
theorem takeWhile_digits (rest : List Char) {digits : List Char} (each : ∀ c ∈ digits, c.isDigit = true)
    (ends : ∀ c ∈ rest.head?, c.isDigit = false) :
    (digits ++ rest).takeWhile Char.isDigit = digits ∧
      (digits ++ rest).dropWhile Char.isDigit = rest := by
  have stops : rest.takeWhile Char.isDigit = [] ∧ rest.dropWhile Char.isDigit = rest := by
    cases rest with
    | nil => exact ⟨rfl, rfl⟩
    | cons c rest =>
        have other := ends c rfl
        simp [other]
  rw [List.takeWhile_append_of_pos each, List.dropWhile_append_of_pos each, stops.1, stops.2]
  exact ⟨List.append_nil digits, rfl⟩

theorem ofNumeral_unsigned {chars : List Char} (minus : chars.head? ≠ some '-')
    (plus : chars.head? ≠ some '+') : ofNumeral chars = unsignedNumeral chars := by
  unfold ofNumeral
  split
  · exact absurd rfl minus
  · exact absurd rfl plus
  · rfl

theorem unsignedNumeral_toDigits (n : ℕ) :
    unsignedNumeral (Nat.toDigits 10 n) = some ⟨n, 0⟩ := by
  obtain ⟨taken, left⟩ := takeWhile_digits [] (toDigits_digits n) (by simp)
  rw [List.append_nil] at taken left
  unfold unsignedNumeral
  rw [taken, left]
  simp [Nat.toDigits_ne_nil, exponentChars, Nat.ofDigitChars_ten_toDigits]

theorem unsignedNumeral_pointed (places n : ℕ) :
    unsignedNumeral (pointed places n) = some ⟨n, -(places : ℤ)⟩ := by
  have long := le_length_padded (places + 1) n
  have digits := padded_digits (places + 1) n
  have reads := padded_reads (places + 1) n
  unfold pointed
  generalize padded (places + 1) n = all at long digits reads
  dsimp only
  generalize whole_is : all.take (all.length - places) = whole
  generalize fraction_is : all.drop (all.length - places) = fraction
  have split : whole ++ fraction = all := by
    rw [← whole_is, ← fraction_is, List.take_append_drop]
  have count : fraction.length = places := by
    rw [← fraction_is, List.length_drop]
    omega
  have first : ∀ c ∈ whole, c.isDigit = true := fun c member =>
    digits c (split ▸ List.mem_append_left fraction member)
  have second : ∀ c ∈ fraction, c.isDigit = true := fun c member =>
    digits c (split ▸ List.mem_append_right whole member)
  have some_ : all ≠ [] := by
    intro nil
    rw [nil] at long
    simp at long
  obtain ⟨taken, left⟩ := takeWhile_digits ('.' :: fraction) first (by simp)
  obtain ⟨taken', left'⟩ := takeWhile_digits [] second (by simp)
  rw [List.append_nil] at taken' left'
  unfold unsignedNumeral
  rw [taken, left]
  simp only [taken', left', split, if_neg some_, reads, count, exponentChars, Option.map_some,
    zero_sub]

theorem unsignedNumeral_magnitude (n : ℕ) (exponent : ℤ) :
    unsignedNumeral (magnitude n exponent) = some (plain ⟨n, exponent⟩) := by
  unfold magnitude plain scaledTo
  split
  · rw [unsignedNumeral_toDigits]
    simp
  · rename_i negative
    rw [unsignedNumeral_pointed]
    have back : -((-exponent).toNat : ℤ) = exponent := by omega
    rw [back]

theorem magnitude_chars (n : ℕ) (exponent : ℤ) :
    ∀ c ∈ magnitude n exponent, c.isDigit = true ∨ c = '.' := by
  intro c member
  unfold magnitude at member
  split at member
  · exact .inl (toDigits_digits _ c member)
  · unfold pointed at member
    rcases List.mem_append.mp member with whole | rest
    · exact .inl (padded_digits _ _ c (List.mem_of_mem_take whole))
    · rcases List.mem_cons.mp rest with point | fraction
      · exact .inr point
      · exact .inl (padded_digits _ _ c (List.mem_of_mem_drop fraction))

/-- A decimal written in full reads back without a positive exponent. -/
theorem ofNumeral_fixedChars (d : Decimal) : ofNumeral (fixedChars d) = some d.plain := by
  obtain ⟨coefficient, exponent⟩ := d
  have unsigned : ∀ n : ℕ, ∀ c ∈ (magnitude n exponent).head?, c ≠ '-' ∧ c ≠ '+' := by
    intro n c first
    rcases magnitude_chars n exponent c (List.mem_of_mem_head? first) with digit | point
    · constructor
      · rintro rfl
        exact absurd digit (by decide)
      · rintro rfl
        exact absurd digit (by decide)
    · rw [point]
      decide
  unfold fixedChars
  dsimp only
  split
  · rename_i negative
    have back : -((coefficient.natAbs : ℕ) : ℤ) = coefficient := by omega
    simp only [ofNumeral, unsignedNumeral_magnitude, Option.map_some]
    unfold negated plain scaledTo
    dsimp only
    split
    · dsimp only
      rw [← Int.neg_mul, back]
    · dsimp only
      rw [back]
  · rename_i nonneg
    have back : ((coefficient.natAbs : ℕ) : ℤ) = coefficient := by omega
    rw [ofNumeral_unsigned, unsignedNumeral_magnitude, back]
    · exact fun is => (unsigned _ '-' is).1 rfl
    · exact fun is => (unsigned _ '+' is).2 rfl

theorem fixedChars_chars (d : Decimal) :
    ∀ c ∈ fixedChars d, c.isDigit = true ∨ c = '.' ∨ c = '-' := by
  intro c member
  unfold fixedChars at member
  have unsigned := magnitude_chars d.coefficient.natAbs d.exponent c
  split at member
  · rcases List.mem_cons.mp member with sign | rest
    · exact .inr (.inr sign)
    · rcases unsigned rest with digit | point
      · exact .inl digit
      · exact .inr (.inl point)
  · rcases unsigned member with digit | point
    · exact .inl digit
    · exact .inr (.inl point)

/-- What reads back is written as before. -/
theorem fixed_plain (d : Decimal) : d.plain.fixed = d.fixed := by
  obtain ⟨coefficient, exponent⟩ := d
  unfold plain
  split
  · rename_i nonneg
    unfold fixed fixedChars magnitude scaledTo
    have unit : (0 : ℤ) < 10 ^ (exponent - 0).toNat := by positivity
    have sign : coefficient * 10 ^ (exponent - 0).toNat < 0 ↔ coefficient < 0 := by
      constructor
      · exact fun less => by
          by_contra above
          exact absurd less (not_lt.mpr (mul_nonneg (not_lt.mp above) unit.le))
      · exact fun less => mul_neg_of_neg_of_pos less unit
    have size : (coefficient * 10 ^ (exponent - 0).toNat).natAbs =
        coefficient.natAbs * 10 ^ exponent.toNat := by
      rw [Int.natAbs_mul, Int.natAbs_pow, Int.sub_zero]
      rfl
    simp only [sign, size, le_refl, if_true, nonneg, Int.toNat_zero, pow_zero, mul_one]
  · rfl

end Numeric.Decimal
