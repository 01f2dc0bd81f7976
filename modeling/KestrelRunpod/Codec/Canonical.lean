import KestrelRunpod.Codec.Json
import Mathlib.Data.List.Lex
import Mathlib.Data.List.Sort

/-!
# Canonical JSON

`json.dumps` with sorted keys, no spaces, ASCII only and no NaN.  `Json.write` writes the
entries of an object as they stand and `Json.sorted` orders them, so `dumps` is one after the
other.  What is written is read back (`loads_write`), whatever text follows it, so two values
with the same canonical text are the same up to the order of their entries (`dumps_eq_iff`).

A string is read back when it has no surrogate pair: the writer makes the same escapes of a pair
of surrogates and of the code point that they stand for.
-/

namespace Codec

/-! ## Writing -/

/-- A digit of `'{:04x}'`. -/
def hexChar (n : ℕ) : Char := if n < 10 then .ofNat (48 + n) else .ofNat (87 + n)

/-- `'\\u{0:04x}'`. -/
def unitText (unit : ℕ) : Text :=
  ['\\', 'u', hexChar (unit / 4096), hexChar (unit / 256 % 16), hexChar (unit / 16 % 16),
    hexChar (unit % 16)]

/-- `ESCAPE_ASCII` and `ESCAPE_DCT`. -/
def escapePoint (p : ℕ) : Text :=
  if p = 34 then ['\\', '"']
  else if p = 92 then ['\\', '\\']
  else if p = 10 then ['\\', 'n']
  else if p = 13 then ['\\', 'r']
  else if p = 9 then ['\\', 't']
  else if p = 12 then ['\\', 'f']
  else if p = 8 then ['\\', 'b']
  else if 32 ≤ p ∧ p ≤ 126 then [.ofNat p]
  else if p < 0x10000 then unitText p
  else unitText (0xD800 + (p - 0x10000) / 0x400) ++ unitText (0xDC00 + (p - 0x10000) % 0x400)

/-- `py_encode_basestring_ascii`, after the quotation mark. -/
def stringText (points : List ℕ) : Text := points.flatMap escapePoint ++ ['"']

mutual

/-- A value as it stands. -/
def Json.write : Json → Text
  | .null => ['n', 'u', 'l', 'l']
  | .bool true => ['t', 'r', 'u', 'e']
  | .bool false => ['f', 'a', 'l', 's', 'e']
  | .number literal => literal
  | .string points => '"' :: stringText points
  | .array items => '[' :: Json.writeItems items
  | .object entries => '{' :: Json.writeEntries entries

/-- The items of an array, and its end. -/
def Json.writeItems : List Json → Text
  | [] => [']']
  | [value] => value.write ++ [']']
  | value :: next :: rest => value.write ++ ',' :: Json.writeItems (next :: rest)

/-- The entries of an object, and its end. -/
def Json.writeEntries : List (List ℕ × Json) → Text
  | [] => ['}']
  | [(key, value)] => '"' :: stringText key ++ ':' :: value.write ++ ['}']
  | (key, value) :: next :: rest =>
      '"' :: stringText key ++ ':' :: value.write ++ ',' :: Json.writeEntries (next :: rest)

end

/-- The order of the keys. -/
def entryLe (a b : List ℕ × Json) : Bool := decide (a.1 ≤ b.1)

mutual

/-- `sort_keys`, at every depth. -/
def Json.sorted : Json → Json
  | .array items => .array (Json.sortedItems items)
  | .object entries => .object ((Json.sortedEntries entries).mergeSort entryLe)
  | value => value

def Json.sortedItems : List Json → List Json
  | [] => []
  | value :: rest => value.sorted :: Json.sortedItems rest

def Json.sortedEntries : List (List ℕ × Json) → List (List ℕ × Json)
  | [] => []
  | (key, value) :: rest => (key, value.sorted) :: Json.sortedEntries rest

end

/-- `json.dumps(value, sort_keys=True, separators=(",", ":"), ensure_ascii=True)`. -/
def dumps (value : Json) : Text := value.sorted.write

mutual

/-- `allow_nan=False` refuses nothing in the value. -/
def Json.isFinite : Json → Bool
  | .number literal =>
      literal ≠ ['N', 'a', 'N'] && literal ≠ ['I', 'n', 'f', 'i', 'n', 'i', 't', 'y'] &&
        literal ≠ ['-', 'I', 'n', 'f', 'i', 'n', 'i', 't', 'y']
  | .array items => Json.finiteItems items
  | .object entries => Json.finiteEntries entries
  | _ => true

def Json.finiteItems : List Json → Bool
  | [] => true
  | value :: rest => value.isFinite && Json.finiteItems rest

def Json.finiteEntries : List (List ℕ × Json) → Bool
  | [] => true
  | (_, value) :: rest => value.isFinite && Json.finiteEntries rest

end

/-! ## Integers and entries -/

/-- The text of an integer. -/
def intText : ℤ → Text
  | .ofNat n => Nat.toDigits 10 n
  | .negSucc n => '-' :: Nat.toDigits 10 (n + 1)

/-- An integer, where the number is one. -/
def readInt : Text → Option ℤ
  | '-' :: digits =>
      if digits ≠ [] ∧ digits.all isDigit = true then some (-(Nat.ofDigitChars 10 digits 0 : ℤ))
      else none
  | digits =>
      if digits ≠ [] ∧ digits.all isDigit = true then some (Nat.ofDigitChars 10 digits 0 : ℤ)
      else none

/-- The value of a key. -/
def valueOf (entries : List (List ℕ × Json)) (key : List ℕ) : Option Json :=
  (entries.find? fun entry => entry.1 = key).map Prod.snd

/-! ## What is read back -/

/-- No high surrogate is followed by a low one. -/
def Unpaired : List ℕ → Prop
  | first :: second :: rest =>
      ¬ (0xD800 ≤ first ∧ first ≤ 0xDBFF ∧ 0xDC00 ≤ second ∧ second ≤ 0xDFFF) ∧
        Unpaired (second :: rest)
  | _ => True

/-- A Python string without surrogate pairs. -/
structure Readable (points : List ℕ) : Prop where
  within : ∀ p ∈ points, p ≤ 0x10FFFF
  unpaired : Unpaired points

/-- A number that the scanner reads as a whole. -/
def Literal (text : Text) : Prop := scanNumber text = some (text, [])

mutual

/-- Strings, keys and numbers are read back, and an object has each key once. -/
def Json.Plain : Json → Prop
  | .number literal => Literal literal
  | .string points => Readable points
  | .array items => Json.PlainItems items
  | .object entries => (entries.map Prod.fst).Nodup ∧ Json.PlainEntries entries
  | _ => True

def Json.PlainItems : List Json → Prop
  | [] => True
  | value :: rest => value.Plain ∧ Json.PlainItems rest

def Json.PlainEntries : List (List ℕ × Json) → Prop
  | [] => True
  | (key, value) :: rest => (Readable key ∧ value.Plain) ∧ Json.PlainEntries rest

end

/-- The text ends here, or another item, entry or end follows. -/
def Closed (rest : Text) : Prop := ∀ c ∈ rest.head?, c = ',' ∨ c = ']' ∨ c = '}'

section

variable {text rest : Text} {c : Char}

theorem closed_nil : Closed [] := fun c is => by cases is

theorem closed_cons (ends : c = ',' ∨ c = ']' ∨ c = '}') : Closed (c :: rest) := by
  intro other is
  cases is
  exact ends

/-! ### Strings -/

theorem hexDigit_hexChar : ∀ n < 16, hexDigit (hexChar n) = some n := by decide

theorem toNat_ofNat_ascii : ∀ n < 128, (Char.ofNat n).toNat = n := by decide

theorem escapePoint_surrogates {p : ℕ} (wide : 0x10000 ≤ p) :
    escapePoint p =
      unitText (0xD800 + (p - 0x10000) / 0x400) ++ unitText (0xDC00 + (p - 0x10000) % 0x400) := by
  unfold escapePoint
  repeat rw [if_neg (by omega)]

/-- A written unit is read. -/
theorem scanString_unit {unit : ℕ} (small : unit < 0x10000) :
    scanString (unitText unit ++ text) =
      (scanString text).map fun scanned => (addUnit unit scanned.1, scanned.2) := by
  unfold unitText
  simp only [List.cons_append, List.nil_append]
  rw [scanString, hexDigit_hexChar _ (by omega), hexDigit_hexChar _ (by omega),
    hexDigit_hexChar _ (by omega), hexDigit_hexChar _ (by omega)]
  have same : ((unit / 4096 * 16 + unit / 256 % 16) * 16 + unit / 16 % 16) * 16 + unit % 16 =
      unit := by omega
  simp only [Option.bind_eq_bind, Option.bind_some, same]
  cases scanString text <;> rfl

/-- A character that needs no escape is read. -/
theorem scanString_char (quote : c ≠ '"') (escape : c ≠ '\\') (printed : 32 ≤ c.toNat) :
    scanString (c :: text) =
      (scanString text).map fun scanned => (c.toNat :: scanned.1, scanned.2) := by
  have goes : (decide (c = '\\') || decide (c.toNat < 32)) = false := by
    simp only [Bool.or_eq_false_iff, decide_eq_false_iff_not]
    exact ⟨escape, by omega⟩
  rw [scanString.eq_def]
  split
  · contradiction
  · rename_i same
    cases same
    contradiction
  · rename_i same
    cases same
    contradiction
  · rename_i same
    cases same
    contradiction
  · rename_i same
    cases same
    rw [goes]
    cases scanString text <;> rfl

theorem addUnit_alone {unit : ℕ} {points : List ℕ} (unpaired : Unpaired (unit :: points)) :
    addUnit unit points = unit :: points := by
  cases points with
  | nil => rfl
  | cons second points => exact if_neg unpaired.1

theorem addUnit_low {unit : ℕ} {points : List ℕ} (low : 0xDC00 ≤ unit) :
    addUnit unit points = unit :: points := by
  cases points with
  | nil => rfl
  | cons second points => exact if_neg (by omega)

theorem addUnit_pair {p : ℕ} {points : List ℕ} (wide : 0x10000 ≤ p) (within : p ≤ 0x10FFFF) :
    addUnit (0xD800 + (p - 0x10000) / 0x400) ((0xDC00 + (p - 0x10000) % 0x400) :: points) =
      p :: points := by
  have pair : 0x10000 + (0xD800 + (p - 0x10000) / 0x400 - 0xD800) * 0x400 +
      (0xDC00 + (p - 0x10000) % 0x400 - 0xDC00) = p := by omega
  have whole : addUnit (0xD800 + (p - 0x10000) / 0x400)
      ((0xDC00 + (p - 0x10000) % 0x400) :: points) =
        (0x10000 + (0xD800 + (p - 0x10000) / 0x400 - 0xD800) * 0x400 +
          (0xDC00 + (p - 0x10000) % 0x400 - 0xDC00)) :: points := if_pos (by omega)
  rw [whole, pair]

/-- The escapes of two characters. -/
theorem scanString_short {p : ℕ} {points : List ℕ} (known : unescape c = some p) (wide : c ≠ 'u')
    (scanned : scanString text = some (points, rest)) :
    scanString ('\\' :: c :: text) = some (p :: points, rest) := by
  rw [scanString, known, scanned]
  · rfl
  · intro p q r s rest same
    exact absurd same wide

/-- A written point is read, as long as it is not half of a pair. -/
theorem scanString_escape {p : ℕ} (within : p ≤ 0x10FFFF) {points : List ℕ}
    (unpaired : Unpaired (p :: points)) (scanned : scanString text = some (points, rest)) :
    scanString (escapePoint p ++ text) = some (p :: points, rest) := by
  by_cases wide : 0x10000 ≤ p
  · have low : addUnit (0xDC00 + (p - 0x10000) % 0x400) points =
        (0xDC00 + (p - 0x10000) % 0x400) :: points := addUnit_low (by omega)
    rw [escapePoint_surrogates wide, List.append_assoc, scanString_unit (by omega),
      scanString_unit (by omega), scanned, Option.map_some, Option.map_some, low,
      addUnit_pair wide within]
  · unfold escapePoint
    iterate 7
      split
      · subst p
        exact scanString_short rfl (by decide) scanned
    split
    · rename_i quote escape _ _ _ _ _ printable
      have code : (Char.ofNat p).toNat = p := toNat_ofNat_ascii p (by omega)
      have other : ∀ d : Char, p ≠ d.toNat → Char.ofNat p ≠ d := by
        intro d differs same
        rw [same] at code
        exact differs code.symm
      rw [List.singleton_append, scanString_char (other '"' quote) (other '\\' escape) (by omega),
        scanned, Option.map_some, code]
    · rw [if_pos (by omega), scanString_unit (by omega), scanned, Option.map_some,
        addUnit_alone unpaired]

theorem Readable.tail {p : ℕ} {points : List ℕ} (readable : Readable (p :: points)) :
    Readable points where
  within q member := readable.within q (List.mem_cons_of_mem _ member)
  unpaired := by
    cases points with
    | nil => trivial
    | cons second points => exact readable.unpaired.2

/-- A written string is read. -/
theorem scanString_stringText {points : List ℕ} (readable : Readable points) :
    scanString (stringText points ++ rest) = some (points, rest) := by
  induction points with
  | nil => rfl
  | cons p points ih =>
      have split : stringText (p :: points) ++ rest =
          escapePoint p ++ (stringText points ++ rest) := by
        simp only [stringText, List.flatMap_cons, List.append_assoc]
      rw [split]
      exact scanString_escape (readable.within p List.mem_cons_self) readable.unpaired
        (ih readable.tail)

theorem readable_of_ascii {points : List ℕ} (ascii : ∀ p ∈ points, p < 128) : Readable points where
  within p member := (ascii p member).le.trans (by decide)
  unpaired := by
    induction points with
    | nil => trivial
    | cons p points ih =>
        cases points with
        | nil => trivial
        | cons q points =>
            refine ⟨fun pair => ?_, ih fun r member => ascii r (List.mem_cons_of_mem _ member)⟩
            have small := ascii p List.mem_cons_self
            omega

/-! ### Numbers -/

/-- What a scanner of numbers takes, and what it leaves, when more text follows. -/
def further (rest : Text) (scanned : Text × Text) : Text × Text := (scanned.1, scanned.2 ++ rest)

/-- No number goes on with `c`. -/
theorem not_numeral (ends : c = ',' ∨ c = ']' ∨ c = '}') :
    isDigit c = false ∧ c ≠ '.' ∧ c ≠ '+' ∧ c ≠ '-' ∧ c ≠ 'e' ∧ c ≠ 'E' := by
  rcases ends with rfl | rfl | rfl <;> decide

theorem digits_cons (digit : isDigit c = true) :
    digits (c :: text) = (c :: (digits text).1, (digits text).2) := by
  simp only [digits, List.takeWhile_cons_of_pos digit, List.dropWhile_cons_of_pos digit]

theorem digits_foreign (foreign : isDigit c = false) : digits (c :: text) = ([], c :: text) := by
  have not_digit : ¬ isDigit c = true := by rw [foreign]; exact Bool.false_ne_true
  simp only [digits, List.takeWhile_cons_of_neg not_digit, List.dropWhile_cons_of_neg not_digit]

theorem digits_closed (closed : Closed rest) : digits rest = ([], rest) := by
  cases rest with
  | nil => rfl
  | cons c rest => exact digits_foreign (not_numeral (closed c rfl)).1

theorem digits_append (closed : Closed rest) (text : Text) :
    digits (text ++ rest) = further rest (digits text) := by
  induction text with
  | nil => exact digits_closed closed
  | cons c text ih =>
      rw [List.cons_append]
      cases digit : isDigit c with
      | true =>
          rw [digits_cons digit, digits_cons digit, ih]
          rfl
      | false =>
          rw [digits_foreign digit, digits_foreign digit]
          rfl

theorem scanInteger_cons (zero : c ≠ '0') :
    scanInteger (c :: text) = if isDigit c then some (digits (c :: text)) else none := by
  rw [scanInteger]
  intro same
  exact absurd same zero

theorem scanInteger_append (closed : Closed rest) (text : Text) :
    scanInteger (text ++ rest) = (scanInteger text).map (further rest) := by
  cases text with
  | nil =>
      cases rest with
      | nil => rfl
      | cons c rest =>
          obtain ⟨foreign, _⟩ := not_numeral (closed c rfl)
          have zero : c ≠ '0' := by
            rintro rfl
            cases foreign
          rw [List.nil_append, scanInteger_cons zero, foreign]
          rfl
  | cons c text =>
      by_cases zero : c = '0'
      · subst c
        rfl
      · rw [List.cons_append, scanInteger_cons zero, scanInteger_cons zero, ← List.cons_append,
          digits_append closed]
        cases isDigit c <;> rfl

theorem scanFraction_other (point : c ≠ '.') : scanFraction (c :: text) = ([], c :: text) := by
  rw [scanFraction]
  intro rest same
  exact absurd (List.cons.inj same).1 point

theorem scanFraction_append (closed : Closed rest) (text : Text) :
    scanFraction (text ++ rest) = further rest (scanFraction text) := by
  cases text with
  | nil =>
      cases rest with
      | nil => rfl
      | cons c rest => exact scanFraction_other (not_numeral (closed c rfl)).2.1
  | cons c text =>
      by_cases point : c = '.'
      · subst c
        rw [List.cons_append, scanFraction, scanFraction, digits_append closed]
        by_cases bare : (digits text).1 = []
        · have bare' : (further rest (digits text)).1 = [] := bare
          rw [if_pos bare, if_pos bare']
          rfl
        · have bare' : (further rest (digits text)).1 ≠ [] := bare
          rw [if_neg bare, if_neg bare']
          rfl
      · rw [List.cons_append, scanFraction_other point, scanFraction_other point]
        rfl

theorem scanSign_other (plus : c ≠ '+') (minus : c ≠ '-') :
    scanSign (c :: text) = ([], c :: text) := by
  rw [scanSign]
  · intro rest same
    exact absurd (List.cons.inj same).1 plus
  · intro rest same
    exact absurd (List.cons.inj same).1 minus

theorem scanSign_append (closed : Closed rest) (text : Text) :
    scanSign (text ++ rest) = further rest (scanSign text) := by
  cases text with
  | nil =>
      cases rest with
      | nil => rfl
      | cons c rest =>
          obtain ⟨_, _, plus, minus, _⟩ := not_numeral (closed c rfl)
          exact scanSign_other plus minus
  | cons c text =>
      by_cases plus : c = '+'
      · subst c
        rfl
      by_cases minus : c = '-'
      · subst c
        rfl
      rw [List.cons_append, scanSign_other plus minus, scanSign_other plus minus]
      rfl

theorem scanExponent_append (closed : Closed rest) (text : Text) :
    scanExponent (text ++ rest) = further rest (scanExponent text) := by
  cases text with
  | nil =>
      cases rest with
      | nil => rfl
      | cons c rest =>
          obtain ⟨_, _, _, _, small, big⟩ := not_numeral (closed c rfl)
          have none_ : ((c = 'e' || c = 'E') && (digits (scanSign rest).2).1 ≠ []) = false := by
            simp [small, big]
          rw [List.nil_append, scanExponent, none_]
          rfl
  | cons c text =>
      rw [List.cons_append, scanExponent, scanExponent, scanSign_append closed]
      simp only [further, digits_append closed]
      split <;> rfl

/-- A number after its sign. -/
def scanUnsigned (sign text : Text) : Option (Text × Text) :=
  (scanInteger text).map fun scanned =>
    (sign ++ scanned.1 ++ (scanFraction scanned.2).1 ++ (scanExponent (scanFraction scanned.2).2).1,
      (scanExponent (scanFraction scanned.2).2).2)

theorem scanUnsigned_append (closed : Closed rest) (sign text : Text) :
    scanUnsigned sign (text ++ rest) = (scanUnsigned sign text).map (further rest) := by
  unfold scanUnsigned
  rw [scanInteger_append closed]
  cases scanInteger text with
  | none => rfl
  | some scanned =>
      simp only [Option.map_some, further, scanFraction_append closed, scanExponent_append closed]

theorem scanNumber_signed : scanNumber ('-' :: text) = scanUnsigned ['-'] text := by
  cases scanned : scanInteger text <;> simp [scanNumber, scanUnsigned, scanned]

theorem scanNumber_unsigned (minus : c ≠ '-') :
    scanNumber (c :: text) = scanUnsigned [] (c :: text) := by
  cases scanned : scanInteger (c :: text) <;> simp [scanNumber, scanUnsigned, minus, scanned]

/-- A number is scanned as it is alone. -/
theorem scanNumber_append (closed : Closed rest) (text : Text) :
    scanNumber (text ++ rest) = (scanNumber text).map (further rest) := by
  cases text with
  | nil =>
      cases rest with
      | nil => rfl
      | cons c rest =>
          obtain ⟨_, _, _, minus, _⟩ := not_numeral (closed c rfl)
          rw [List.nil_append, scanNumber_unsigned minus, ← List.nil_append (c :: rest),
            scanUnsigned_append closed]
          rfl
  | cons c text =>
      rw [List.cons_append]
      by_cases minus : c = '-'
      · subst c
        rw [scanNumber_signed, scanNumber_signed, scanUnsigned_append closed]
      · rw [scanNumber_unsigned minus, scanNumber_unsigned minus, ← List.cons_append,
          scanUnsigned_append closed]

/-- A number starts with its sign or with a digit. -/
theorem Literal.starts (literal : Literal text) :
    ∃ c rest, text = c :: rest ∧
      (isDigit c = true ∨ c = '-' ∧ ∃ d rest', rest = d :: rest' ∧ isDigit d = true) := by
  have digit : ∀ {text a : Text} {sign}, scanUnsigned sign text = some (a, []) →
      ∃ c rest, text = c :: rest ∧ isDigit c = true := by
    intro text a sign scanned
    cases text with
    | nil => cases scanned
    | cons c text =>
        refine ⟨c, text, rfl, ?_⟩
        by_cases zero : c = '0'
        · subst c
          rfl
        · unfold scanUnsigned at scanned
          rw [scanInteger_cons zero] at scanned
          cases digit : isDigit c with
          | true => rfl
          | false =>
              rw [digit] at scanned
              cases scanned
  cases text with
  | nil => cases literal
  | cons c text =>
      refine ⟨c, text, rfl, ?_⟩
      by_cases minus : c = '-'
      · subst c
        refine .inr ⟨rfl, ?_⟩
        exact digit (scanNumber_signed.symm.trans literal)
      · obtain ⟨d, rest, same, is⟩ := digit ((scanNumber_unsigned minus).symm.trans literal)
        cases same
        exact .inl is

/-- A number is none of the constants. -/
theorem scanScalar_number (literal : Literal text) (closed : Closed rest) :
    scanScalar (text ++ rest) = some (.number text, rest) := by
  have scanned : scanNumber (text ++ rest) = some (text, rest) := by
    rw [scanNumber_append closed, literal]
    rfl
  obtain ⟨c, tail, rfl, start⟩ := literal.starts
  rw [List.cons_append] at scanned ⊢
  have fallen : scanScalar (c :: (tail ++ rest)) =
      (scanNumber (c :: (tail ++ rest))).map fun scanned => (.number scanned.1, scanned.2) := by
    rw [scanScalar.eq_def]
    rcases start with digit | ⟨rfl, d, rest', rfl, digit⟩
    · split
      all_goals first
        | rfl
        | (rename_i same
           cases (List.cons.inj same).1
           cases digit)
    · split
      all_goals first
        | rfl
        | (rename_i same
           cases (List.cons.inj same).1
           done)
        | (rename_i same
           cases (List.cons.inj (List.cons.inj same).2).1
           cases digit)
  rw [fallen, scanned]
  rfl

/-! ### Integers -/

theorem isDigit_eq (c : Char) : isDigit c = c.isDigit := by
  unfold isDigit Char.isDigit
  rfl

theorem digits_all {text : Text} (each : ∀ c ∈ text, isDigit c = true) :
    digits text = (text, []) := by
  unfold digits
  rw [List.takeWhile_eq_self_iff.mpr each, List.dropWhile_eq_nil_iff.mpr each]

theorem toDigits_isDigit (n : ℕ) : ∀ c ∈ Nat.toDigits 10 n, isDigit c = true := by
  intro c member
  rw [isDigit_eq]
  exact Nat.isDigit_of_mem_toDigits (by decide) (by decide) member

/-- The digits of a positive number do not start with a zero. -/
theorem toDigits_head {n : ℕ} (positive : 0 < n) :
    ∃ c rest, Nat.toDigits 10 n = c :: rest ∧ c ≠ '0' := by
  induction n using Nat.strongRecOn with
  | ind n ih =>
      by_cases short : n < 10
      · refine ⟨Nat.digitChar n, [], Nat.toDigits_of_lt_base short, ?_⟩
        have all : ∀ m < 10, 0 < m → Nat.digitChar m ≠ '0' := by decide
        exact all n short positive
      · obtain ⟨c, rest, same, first⟩ := ih (n / 10) (by omega) (by omega)
        refine ⟨c, rest ++ [Nat.digitChar (n % 10)], ?_, first⟩
        rw [Nat.toDigits_of_base_le (by decide) (not_lt.mp short), same, List.cons_append]

theorem scanUnsigned_toDigits (sign : Text) (n : ℕ) :
    scanUnsigned sign (Nat.toDigits 10 n) = some (sign ++ Nat.toDigits 10 n, []) := by
  have scanned : scanInteger (Nat.toDigits 10 n) = some (Nat.toDigits 10 n, []) := by
    rcases Nat.eq_zero_or_pos n with rfl | positive
    · rfl
    · obtain ⟨c, rest, same, first⟩ := toDigits_head positive
      have each := toDigits_isDigit n
      rw [same] at each ⊢
      rw [scanInteger_cons first, each c List.mem_cons_self, digits_all each]
      rfl
  unfold scanUnsigned
  rw [scanned]
  simp [scanFraction, scanExponent]

theorem literal_intText (n : ℤ) : Literal (intText n) := by
  unfold Literal
  cases n with
  | ofNat n =>
      have digit := toDigits_isDigit n
      have scanned := scanUnsigned_toDigits [] n
      rw [intText]
      cases same : Nat.toDigits 10 n with
      | nil => exact absurd same Nat.toDigits_ne_nil
      | cons c rest =>
          rw [same] at digit scanned
          have minus : c ≠ '-' := by
            rintro rfl
            cases digit _ List.mem_cons_self
          rw [scanNumber_unsigned minus]
          exact scanned
  | negSucc n => exact scanNumber_signed.trans (scanUnsigned_toDigits ['-'] (n + 1))

theorem isDigit_ascii {c : Char} (digit : isDigit c = true) : c.toNat < 128 := by
  simp only [isDigit, Bool.and_eq_true, decide_eq_true_eq, Char.le_def,
    UInt32.le_iff_toNat_le] at digit
  exact digit.2.trans_lt (by decide)

theorem intText_ascii (n : ℤ) : ∀ c ∈ intText n, c.toNat < 128 := by
  cases n with
  | ofNat n => exact fun c member => isDigit_ascii (toDigits_isDigit n c member)
  | negSucc n =>
      rw [intText, List.forall_mem_cons]
      exact ⟨by decide, fun c member => isDigit_ascii (toDigits_isDigit (n + 1) c member)⟩

theorem readInt_intText (n : ℤ) : readInt (intText n) = some n := by
  have whole : ∀ m, Nat.toDigits 10 m ≠ [] ∧ (Nat.toDigits 10 m).all isDigit = true := fun m =>
    ⟨Nat.toDigits_ne_nil, List.all_eq_true.mpr (toDigits_isDigit m)⟩
  cases n with
  | ofNat n =>
      have digit := toDigits_isDigit n
      rw [intText, readInt]
      · rw [if_pos (whole n), Nat.ofDigitChars_ten_toDigits]
        rfl
      · intro rest same
        rw [same] at digit
        cases digit _ List.mem_cons_self
  | negSucc n =>
      rw [intText, readInt, if_pos (whole (n + 1)), Nat.ofDigitChars_ten_toDigits]
      rfl

/-! ### Values -/

theorem skip_cons (shown : isSpace c = false) : skip (c :: text) = c :: text := by
  refine List.dropWhile_cons_of_neg ?_
  rw [shown]
  exact Bool.false_ne_true

theorem isSpace_numeral (numeral : isDigit c = true ∨ c = '-') : isSpace c = false := by
  rw [Bool.eq_false_iff]
  intro space
  simp only [isSpace, Bool.or_eq_true, decide_eq_true_eq] at space
  rcases numeral with digit | rfl
  · rcases space with ((rfl | rfl) | rfl) | rfl <;> cases digit
  · rcases space with ((space | space) | space) | space <;> cases space

theorem scanOnce_scalar {turns : ℕ} (string : c ≠ '"') (object : c ≠ '{') (array : c ≠ '[') :
    scanOnce (turns + 1) (c :: text) = scanScalar (c :: text) := by
  rw [scanOnce]
  · intro rest same
    exact string (List.cons.inj same).1
  · intro rest same
    exact object (List.cons.inj same).1
  · intro rest same
    exact array (List.cons.inj same).1

/-- What follows an item. -/
def itemsEnd : List Json → Text
  | [] => [']']
  | value :: rest => ',' :: Json.writeItems (value :: rest)

/-- What follows an entry. -/
def entriesEnd : List (List ℕ × Json) → Text
  | [] => ['}']
  | entry :: rest => ',' :: Json.writeEntries (entry :: rest)

/-- The entries of an object from the first key on. -/
def entriesText (key : List ℕ) (value : Json) (entries : List (List ℕ × Json)) : Text :=
  stringText key ++ ':' :: (value.write ++ entriesEnd entries)

theorem writeItems_cons (value : Json) (items : List Json) :
    Json.writeItems (value :: items) = value.write ++ itemsEnd items := by
  cases items with
  | nil => rw [Json.writeItems, itemsEnd]
  | cons next rest => rw [Json.writeItems, itemsEnd]

theorem writeEntries_cons (key : List ℕ) (value : Json) (entries : List (List ℕ × Json)) :
    Json.writeEntries ((key, value) :: entries) = '"' :: entriesText key value entries := by
  cases entries with
  | nil => simp [Json.writeEntries, entriesText, entriesEnd]
  | cons next rest => simp [Json.writeEntries, entriesText, entriesEnd]

theorem itemsEnd_pos (items : List Json) : 0 < (itemsEnd items).length := by
  cases items <;> exact Nat.succ_pos _

theorem closed_itemsEnd (items : List Json) : Closed (itemsEnd items ++ rest) := by
  cases items with
  | nil => exact closed_cons (.inr (.inl rfl))
  | cons value items => exact closed_cons (.inl rfl)

theorem closed_entriesEnd (entries : List (List ℕ × Json)) :
    Closed (entriesEnd entries ++ rest) := by
  cases entries with
  | nil => exact closed_cons (.inr (.inr rfl))
  | cons entry entries => exact closed_cons (.inl rfl)

/-- The text of a value starts where it is not skipped, and not with the end of an array. -/
theorem Json.write_starts {value : Json} (plain : value.Plain) :
    ∃ c rest, value.write = c :: rest ∧ isSpace c = false ∧ c ≠ ']' := by
  cases value with
  | null => exact ⟨'n', _, by rw [Json.write], rfl, by decide⟩
  | bool b =>
      cases b with
      | true => exact ⟨'t', _, by rw [Json.write], rfl, by decide⟩
      | false => exact ⟨'f', _, by rw [Json.write], rfl, by decide⟩
  | number literal =>
      rw [Json.Plain] at plain
      obtain ⟨c, rest, same, start⟩ := plain.starts
      refine ⟨c, rest, by rw [Json.write, same], ?_, ?_⟩
      · exact isSpace_numeral (start.imp_right And.left)
      · rintro rfl
        rcases start with digit | ⟨minus, _⟩
        · cases digit
        · cases minus
  | string points => exact ⟨'"', _, by rw [Json.write], rfl, by decide⟩
  | array items => exact ⟨'[', _, by rw [Json.write], rfl, by decide⟩
  | object entries => exact ⟨'{', _, by rw [Json.write], rfl, by decide⟩

theorem skip_write {value : Json} (plain : value.Plain) :
    skip (value.write ++ rest) = value.write ++ rest := by
  obtain ⟨c, tail, same, shown, _⟩ := value.write_starts plain
  rw [same, List.cons_append, skip_cons shown]

theorem skip_writeItems {value : Json} {items : List Json} (plain : value.Plain) :
    skip (Json.writeItems (value :: items) ++ rest) = Json.writeItems (value :: items) ++ rest := by
  rw [writeItems_cons, List.append_assoc, skip_write plain]

theorem skip_closed (closed : Closed rest) : skip rest = rest := by
  cases rest with
  | nil => rfl
  | cons c rest =>
      refine skip_cons ?_
      rcases closed c rfl with rfl | rfl | rfl <;> rfl

/-- Assigned one after the other, entries with different keys stay as they are. -/
theorem foldl_assign (entries : List (List ℕ × Json)) (done : List (List ℕ × Json))
    (nodup : ((done ++ entries).map Prod.fst).Nodup) :
    entries.foldl assign done = done ++ entries := by
  induction entries generalizing done with
  | nil => exact (List.append_nil done).symm
  | cons entry entries ih =>
      have fresh : (done.any fun other => decide (other.1 = entry.1)) = false := by
        rw [List.any_eq_false]
        intro other member
        rw [decide_eq_true_eq]
        intro same
        rw [List.map_append, List.nodup_append] at nodup
        exact nodup.2.2 _ (List.mem_map_of_mem member) _
          (List.mem_map_of_mem List.mem_cons_self) same
      have assigned : assign done entry = done ++ [entry] := by
        unfold assign
        rw [fresh]
        rfl
      have grouped : done ++ entry :: entries = done ++ [entry] ++ entries := by
        rw [List.append_assoc, List.singleton_append]
      rw [List.foldl_cons, assigned, grouped]
      rw [grouped] at nodup
      exact ih (done ++ [entry]) nodup

/-- What is written is scanned, with two turns for a character.  The induction is on the turns:
each of the three scanners spends one. -/
theorem scans_written (turns : ℕ) :
    (∀ (value : Json) (rest : Text), value.Plain → Closed rest →
      2 * value.write.length ≤ turns → scanOnce turns (value.write ++ rest) = some (value, rest)) ∧
    (∀ (value : Json) (items : List Json) (rest : Text), Json.PlainItems (value :: items) →
      2 * (Json.writeItems (value :: items)).length ≤ turns →
      scanItems turns (Json.writeItems (value :: items) ++ rest) = some (value :: items, rest)) ∧
    (∀ (key : List ℕ) (value : Json) (entries : List (List ℕ × Json)) (rest : Text),
      Json.PlainEntries ((key, value) :: entries) →
      2 * (entriesText key value entries).length ≤ turns →
      scanEntries turns (entriesText key value entries ++ rest) =
        some ((key, value) :: entries, rest)) := by
  induction turns with
  | zero =>
      refine ⟨?_, ?_, ?_⟩
      · intro value rest plain _ enough
        obtain ⟨c, tail, same, _⟩ := value.write_starts plain
        rw [same, List.length_cons] at enough
        omega
      · intro value items rest plain enough
        rw [Json.PlainItems] at plain
        obtain ⟨c, tail, same, _⟩ := value.write_starts plain.1
        rw [writeItems_cons, same, List.cons_append, List.length_cons] at enough
        omega
      · intro key value entries rest _ enough
        rw [entriesText, List.length_append, List.length_cons] at enough
        omega
  | succ turns ih =>
      obtain ⟨once, items_, entries_⟩ := ih
      refine ⟨?_, ?_, ?_⟩
      · intro value rest plain closed enough
        cases value with
        | null => rfl
        | bool b => cases b <;> rfl
        | number literal =>
            rw [Json.Plain] at plain
            rw [Json.write]
            obtain ⟨c, tail, rfl, start⟩ := plain.starts
            have scalar := scanScalar_number plain closed
            rw [List.cons_append] at scalar ⊢
            rw [← scalar]
            refine scanOnce_scalar ?_ ?_ ?_
            all_goals
              rintro rfl
              rcases start with digit | ⟨minus, _⟩
              · cases digit
              · cases minus
        | string points =>
            rw [Json.Plain] at plain
            rw [Json.write, List.cons_append, scanOnce, scanString_stringText plain]
            rfl
        | array items =>
            rw [Json.Plain] at plain
            rw [Json.write, List.length_cons] at enough
            rw [Json.write, List.cons_append]
            cases items with
            | nil => rfl
            | cons value items =>
                have scanned := items_ value items rest plain (by omega)
                rw [Json.PlainItems] at plain
                obtain ⟨c, tail, same, shown, last⟩ := value.write_starts plain.1
                rw [writeItems_cons, same, List.cons_append, List.cons_append] at scanned ⊢
                rw [scanOnce, skip_cons shown]
                split
                · rename_i other
                  exact absurd (List.cons.inj other).1 last
                · rw [scanned]
                  rfl
        | object entries =>
            rw [Json.Plain] at plain
            rw [Json.write, List.length_cons] at enough
            rw [Json.write, List.cons_append]
            cases entries with
            | nil => rfl
            | cons entry entries =>
                obtain ⟨key, value⟩ := entry
                rw [writeEntries_cons, List.length_cons] at enough
                have scanned := entries_ key value entries rest plain.2 (by omega)
                rw [writeEntries_cons, List.cons_append, scanOnce, skip_cons rfl]
                have kept := foldl_assign ((key, value) :: entries) [] plain.1
                simp only [scanned, Option.bind_eq_bind, Option.bind_some, kept, List.nil_append]
      · intro value items rest plain enough
        rw [Json.PlainItems] at plain
        rw [writeItems_cons, List.length_append] at enough
        have some_ := itemsEnd_pos items
        rw [writeItems_cons, List.append_assoc, scanItems,
          once value _ plain.1 (closed_itemsEnd items) (by omega)]
        simp only [Option.bind_eq_bind, Option.bind_some, skip_closed (closed_itemsEnd items)]
        cases items with
        | nil => rfl
        | cons next items =>
            have follows : itemsEnd (next :: items) ++ rest =
                ',' :: (Json.writeItems (next :: items) ++ rest) := rfl
            rw [itemsEnd, List.length_cons] at enough
            have scanned := items_ next items rest plain.2 (by omega)
            rw [Json.PlainItems] at plain
            rw [follows]
            simp only [skip_writeItems plain.2.1, scanned, Option.bind_some]
      · intro key value entries rest plain enough
        rw [Json.PlainEntries] at plain
        rw [entriesText, List.length_append, List.length_cons, List.length_append] at enough
        rw [entriesText, List.append_assoc, List.cons_append, List.append_assoc, scanEntries,
          scanString_stringText plain.1.1]
        simp only [Option.bind_eq_bind, Option.bind_some, skip_cons (show isSpace ':' = false from rfl),
          skip_write plain.1.2]
        rw [once value _ plain.1.2 (closed_entriesEnd entries) (by omega)]
        simp only [Option.bind_some, skip_closed (closed_entriesEnd entries)]
        cases entries with
        | nil => rfl
        | cons entry entries =>
            obtain ⟨next, value'⟩ := entry
            have follows : entriesEnd ((next, value') :: entries) =
                ',' :: '"' :: entriesText next value' entries := by
              rw [entriesEnd, writeEntries_cons]
            rw [follows, List.length_cons, List.length_cons] at enough
            have scanned := entries_ next value' entries rest plain.2 (by omega)
            rw [follows, List.cons_append, List.cons_append]
            simp only [skip_cons (show isSpace '"' = false from rfl), scanned, Option.bind_some]

/-- What is written is read back. -/
theorem loads_write {value : Json} (plain : value.Plain) : loads value.write = some value := by
  have skipped : skip value.write = value.write := by
    have after : skip (value.write ++ []) = value.write ++ [] := skip_write plain
    rwa [List.append_nil] at after
  have scanned :=
    (scans_written (2 * value.write.length + 1)).1 value [] plain closed_nil (by omega)
  rw [List.append_nil] at scanned
  rw [loads, loadsWithin, skipped, scanned]
  rfl

/-! ### Sorting -/

theorem plainEntries_iff {entries : List (List ℕ × Json)} :
    Json.PlainEntries entries ↔ ∀ e ∈ entries, Readable e.1 ∧ e.2.Plain := by
  induction entries with
  | nil =>
      rw [Json.PlainEntries]
      exact ⟨fun _ e member => absurd member List.not_mem_nil, fun _ => trivial⟩
  | cons entry entries ih =>
      obtain ⟨key, value⟩ := entry
      rw [Json.PlainEntries, ih, List.forall_mem_cons]

theorem sortedEntries_eq_map (entries : List (List ℕ × Json)) :
    Json.sortedEntries entries = entries.map fun e => (e.1, e.2.sorted) := by
  induction entries with
  | nil => rw [Json.sortedEntries, List.map_nil]
  | cons entry entries ih =>
      obtain ⟨key, value⟩ := entry
      rw [Json.sortedEntries, List.map_cons, ih]

theorem sortedEntries_keys (entries : List (List ℕ × Json)) :
    (Json.sortedEntries entries).map Prod.fst = entries.map Prod.fst := by
  rw [sortedEntries_eq_map, List.map_map]
  rfl

theorem sorted_entries (entries : List (List ℕ × Json)) :
    (Json.sortedEntries entries).mergeSort entryLe |>.Perm (Json.sortedEntries entries) :=
  List.mergeSort_perm _ _

mutual

/-- Sorting keeps what is read back. -/
theorem Json.Plain.sorted {value : Json} (plain : value.Plain) : value.sorted.Plain := by
  cases value with
  | null => exact plain
  | bool b => exact plain
  | number literal => exact plain
  | string points => exact plain
  | array items =>
      rw [Json.Plain] at plain
      rw [Json.sorted, Json.Plain]
      exact Json.PlainItems.sorted plain
  | object entries =>
      rw [Json.Plain] at plain
      rw [Json.sorted, Json.Plain]
      have perm := sorted_entries entries
      refine ⟨?_, plainEntries_iff.mpr fun e member => ?_⟩
      · rw [(perm.map Prod.fst).nodup_iff, sortedEntries_keys]
        exact plain.1
      · exact plainEntries_iff.mp (Json.PlainEntries.sorted plain.2) e (perm.mem_iff.mp member)

theorem Json.PlainItems.sorted {items : List Json} (plain : Json.PlainItems items) :
    Json.PlainItems (Json.sortedItems items) := by
  cases items with
  | nil => exact plain
  | cons value items =>
      rw [Json.PlainItems] at plain
      rw [Json.sortedItems, Json.PlainItems]
      exact ⟨Json.Plain.sorted plain.1, Json.PlainItems.sorted plain.2⟩

theorem Json.PlainEntries.sorted {entries : List (List ℕ × Json)}
    (plain : Json.PlainEntries entries) : Json.PlainEntries (Json.sortedEntries entries) := by
  cases entries with
  | nil => exact plain
  | cons entry entries =>
      obtain ⟨key, value⟩ := entry
      rw [Json.PlainEntries] at plain
      rw [Json.sortedEntries, Json.PlainEntries]
      exact ⟨⟨plain.1.1, Json.Plain.sorted plain.1.2⟩, Json.PlainEntries.sorted plain.2⟩

end

theorem entryLe_trans (a b c : List ℕ × Json) (first : entryLe a b = true)
    (second : entryLe b c = true) : entryLe a c = true := by
  rw [entryLe, decide_eq_true_eq] at first second ⊢
  exact first.trans second

theorem entryLe_total (a b : List ℕ × Json) : (entryLe a b || entryLe b a) = true := by
  rw [Bool.or_eq_true, entryLe, entryLe, decide_eq_true_eq, decide_eq_true_eq]
  exact le_total a.1 b.1

mutual

/-- Sorting once is enough. -/
theorem Json.sorted_sorted (value : Json) : value.sorted.sorted = value.sorted := by
  cases value with
  | null => rfl
  | bool b => rfl
  | number literal => rfl
  | string points => rfl
  | array items => rw [Json.sorted, Json.sorted, Json.sortedItems_sorted items]
  | object entries =>
      have each := Json.sortedValues_sorted entries
      have kept : ∀ e ∈ (Json.sortedEntries entries).mergeSort entryLe, (e.1, e.2.sorted) = e := by
        intro e member
        rw [List.mem_mergeSort, sortedEntries_eq_map] at member
        obtain ⟨old, inside, rfl⟩ := List.mem_map.mp member
        rw [each old inside]
      have same : Json.sortedEntries ((Json.sortedEntries entries).mergeSort entryLe) =
          (Json.sortedEntries entries).mergeSort entryLe := by
        rw [sortedEntries_eq_map ((Json.sortedEntries entries).mergeSort entryLe),
          List.map_congr_left kept, List.map_id']
      rw [Json.sorted, Json.sorted, same,
        List.mergeSort_of_pairwise (List.pairwise_mergeSort entryLe_trans entryLe_total _)]

theorem Json.sortedItems_sorted (items : List Json) :
    Json.sortedItems (Json.sortedItems items) = Json.sortedItems items := by
  cases items with
  | nil => rfl
  | cons value items =>
      rw [Json.sortedItems, Json.sortedItems, Json.sorted_sorted value,
        Json.sortedItems_sorted items]

theorem Json.sortedValues_sorted (entries : List (List ℕ × Json)) :
    ∀ e ∈ entries, e.2.sorted.sorted = e.2.sorted := by
  cases entries with
  | nil => exact fun e member => absurd member List.not_mem_nil
  | cons entry entries =>
      obtain ⟨key, value⟩ := entry
      rw [List.forall_mem_cons]
      exact ⟨Json.sorted_sorted value, Json.sortedValues_sorted entries⟩

end

mutual

/-- What is read back is written. -/
theorem Json.Plain.isFinite {value : Json} (plain : value.Plain) : value.isFinite = true := by
  cases value with
  | null => rfl
  | bool b => rfl
  | number literal =>
      rw [Json.Plain] at plain
      rw [Json.isFinite]
      simp only [Bool.and_eq_true, decide_eq_true_eq]
      refine ⟨⟨?_, ?_⟩, ?_⟩
      · rintro rfl
        cases plain
      · rintro rfl
        cases plain
      · rintro rfl
        cases plain
  | string points => rfl
  | array items =>
      rw [Json.Plain] at plain
      rw [Json.isFinite]
      exact Json.PlainItems.isFinite plain
  | object entries =>
      rw [Json.Plain] at plain
      rw [Json.isFinite]
      exact Json.PlainEntries.isFinite plain.2

theorem Json.PlainItems.isFinite {items : List Json} (plain : Json.PlainItems items) :
    Json.finiteItems items = true := by
  cases items with
  | nil => rfl
  | cons value items =>
      rw [Json.PlainItems] at plain
      rw [Json.finiteItems, Json.Plain.isFinite plain.1, Json.PlainItems.isFinite plain.2]
      rfl

theorem Json.PlainEntries.isFinite {entries : List (List ℕ × Json)}
    (plain : Json.PlainEntries entries) : Json.finiteEntries entries = true := by
  cases entries with
  | nil => rfl
  | cons entry entries =>
      obtain ⟨key, value⟩ := entry
      rw [Json.PlainEntries] at plain
      rw [Json.finiteEntries, Json.Plain.isFinite plain.1.2, Json.PlainEntries.isFinite plain.2]
      rfl

end

/-- The canonical text is read as the sorted value. -/
theorem loads_dumps {value : Json} (plain : value.Plain) :
    loads (dumps value) = some value.sorted :=
  loads_write plain.sorted

/-- Two values have one canonical text just where they are the same when sorted. -/
theorem dumps_eq_iff {a b : Json} (plain : a.Plain) (plain' : b.Plain) :
    dumps a = dumps b ↔ a.sorted = b.sorted := by
  constructor
  · intro same
    have read := loads_dumps plain
    rw [same, loads_dumps plain'] at read
    exact (Option.some.inj read).symm
  · intro same
    rw [dumps, same, dumps]

/-! ### Entries -/

section

variable {entries others : List (List ℕ × Json)} {key : List ℕ} {value : Json}

theorem valueOf_eq_some (nodup : (entries.map Prod.fst).Nodup) :
    valueOf entries key = some value ↔ (key, value) ∈ entries := by
  induction entries with
  | nil =>
      constructor
      · intro found
        cases found
      · intro member
        cases member
  | cons entry entries ih =>
      rw [List.map_cons, List.nodup_cons] at nodup
      unfold valueOf at ih ⊢
      rw [List.find?_cons]
      by_cases same : entry.1 = key
      · have fresh : (key, value) ∉ entries := by
          intro member
          rw [same] at nodup
          exact nodup.1 (List.mem_map_of_mem member)
        rw [decide_eq_true same, List.mem_cons]
        constructor
        · intro found
          cases found
          exact .inl (by rw [← same])
        · rintro (rfl | member)
          · rfl
          · exact absurd member fresh
      · have other : (key, value) ≠ entry := by
          rintro rfl
          exact same rfl
        rw [decide_eq_false same, List.mem_cons]
        simp only [other, false_or]
        exact ih nodup.2

theorem mem_sortedEntries (entries : List (List ℕ × Json)) (key : List ℕ) (value : Json) :
    (key, value) ∈ Json.sortedEntries entries ↔
      ∃ old, (key, old) ∈ entries ∧ old.sorted = value := by
  rw [sortedEntries_eq_map, List.mem_map]
  constructor
  · rintro ⟨⟨key', old⟩, member, same⟩
    cases same
    exact ⟨old, member, rfl⟩
  · rintro ⟨old, member, rfl⟩
    exact ⟨(key, old), member, rfl⟩

/-- Objects with one canonical text have the same values, up to the order in them. -/
theorem valueOf_of_dumps (plain : (Json.object entries).Plain) (plain' : (Json.object others).Plain)
    (same : dumps (.object entries) = dumps (.object others))
    (found : valueOf entries key = some value) :
    ∃ value', valueOf others key = some value' ∧ value'.sorted = value.sorted := by
  have sorted := (dumps_eq_iff plain plain').mp same
  rw [Json.Plain] at plain plain'
  rw [Json.sorted, Json.sorted, Json.object.injEq] at sorted
  have member : (key, value.sorted) ∈ Json.sortedEntries entries :=
    (mem_sortedEntries ..).mpr ⟨value, (valueOf_eq_some plain.1).mp found, rfl⟩
  rw [← (sorted_entries entries).mem_iff, sorted, (sorted_entries others).mem_iff] at member
  obtain ⟨value', member, same⟩ := (mem_sortedEntries ..).mp member
  exact ⟨value', (valueOf_eq_some plain'.1).mpr member, same⟩

end

end

end Codec
