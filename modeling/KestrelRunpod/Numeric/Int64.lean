import KestrelRunpod.Numeric.DecimalText

/-!
# Signed words

A word of 64 bits stands for an integer of its range.  A product of words wraps, so it is exact
just where the product of the integers stays in the range.  `parseInt` reads the word that a
signed numeral writes.
-/

namespace Numeric

/-- The integers of 64-bit words. -/
def InWord (n : ℤ) : Prop := -2 ^ 63 ≤ n ∧ n < 2 ^ 63

instance (n : ℤ) : Decidable (InWord n) := inferInstanceAs (Decidable (_ ∧ _))

/-! ## Words -/

theorem inWord_toInt (w : Int64) : InWord w.toInt := ⟨w.le_toInt, w.toInt_lt⟩

/-- A wrapping product is exact just where it need not wrap. -/
theorem toInt_mul_iff (a b : Int64) :
    (a * b).toInt = a.toInt * b.toInt ↔ InWord (a.toInt * b.toInt) := by
  constructor
  · intro exact_
    rw [← exact_]
    exact inWord_toInt (a * b)
  · intro within
    have low := within.1
    have high := within.2
    rw [Int64.toInt_mul]
    apply Int.bmod_eq_of_le
    · omega
    · omega

/-- The word of an integer, where there is one. -/
def word (n : ℤ) : Option Int64 := if InWord n then some (.ofInt n) else none

theorem word_eq_some {n : ℤ} {w : Int64} : word n = some w ↔ w.toInt = n := by
  unfold word
  split
  · rename_i within
    have back : (Int64.ofInt n).toInt = n := Int64.toInt_ofInt_of_le within.1 within.2
    rw [Option.some.injEq, ← Int64.toInt_inj, back]
    exact eq_comm
  · rename_i outside
    constructor
    · intro is
      cases is
    · intro is
      rw [← is] at outside
      exact absurd (inWord_toInt w) outside

/-! ## Numerals -/

/-- The integer that a numeral writes, with or without a sign. -/
def signedNumeral : List Char → Option ℤ
  | '-' :: digits => (Decimal.naturalChars digits).map fun n => -(n : ℤ)
  | '+' :: digits => (Decimal.naturalChars digits).map fun n => (n : ℤ)
  | digits => (Decimal.naturalChars digits).map fun n => (n : ℤ)

/-- A numeral of a word, in base ten. -/
def parseInt (text : String) : Option Int64 := (signedNumeral text.toList).bind word

theorem parseInt_eq_some {text : String} {w : Int64} :
    parseInt text = some w ↔ signedNumeral text.toList = some w.toInt := by
  unfold parseInt
  rw [Option.bind_eq_some_iff]
  constructor
  · intro read
    obtain ⟨n, written, is⟩ := read
    rw [written, word_eq_some.mp is]
  · intro written
    exact ⟨w.toInt, written, word_eq_some.mpr rfl⟩

end Numeric
