import KestrelRunpod.Codec.EventStream
import Mathlib.Data.List.TakeWhile

/-!
# JSON texts

`json.loads` with its defaults, less its limits: the number of digits of an integer and the depth
of a value.  Numbers keep their literal, and strings are code points, as an escape may denote half
of a surrogate pair.

What is needed of an accepted text is its shape: it leaves every string it enters, a string holds
no control character, and outside of strings there are only ASCII characters (`Lexical`).  A line
feed thus stands between strings, and a character that is not ASCII within one.
-/

namespace Codec

/-! ## The shape of a text -/

/-- Where a character stands: outside of strings, in one, or after its escape character. -/
inductive Mode
  | outside
  | inside
  | escaped
  deriving DecidableEq

/-- White space and the printable characters of ASCII. -/
def isAscii (c : Char) : Bool :=
  c = '\t' || c = '\n' || c = '\r' || (32 ≤ c.toNat && c.toNat < 127)

/-- The characters that follow an escape character. -/
def isEscape (c : Char) : Bool :=
  c = '"' || c = '\\' || c = '/' || c = 'b' || c = 'f' || c = 'n' || c = 'r' || c = 't' || c = 'u'

def Mode.next : Mode → Char → Option Mode
  | .outside, c => if c = '"' then some .inside else if isAscii c then some .outside else none
  | .inside, c =>
      if c = '"' then some .outside
      else if c = '\\' then some .escaped
      else if c.toNat < 32 then none
      else some .inside
  | .escaped, c => if isEscape c then some .inside else none

def Mode.after (m : Mode) : Text → Option Mode
  | [] => some m
  | c :: rest => (m.next c).bind fun m => m.after rest

/-- The shape of a JSON text. -/
def Lexical (text : Text) : Prop := Mode.outside.after text = some .outside

section

variable {m m' : Mode} {c : Char} {a b text rest : Text} {values : List Text}

@[simp] theorem after_nil : m.after [] = some m := rfl

theorem after_cons : m.after (c :: text) = (m.next c).bind fun m => m.after text := rfl

theorem after_append : m.after (a ++ b) = (m.after a).bind fun m => m.after b := by
  induction a generalizing m with
  | nil => rfl
  | cons c a ih =>
      rw [List.cons_append, after_cons, after_cons]
      cases m.next c with
      | none => rfl
      | some m => exact ih

/-- A line feed stands outside of strings. -/
theorem next_newline (next : m.next '\n' = some m') : m = .outside ∧ m' = .outside := by
  cases m with
  | outside =>
      cases next
      exact ⟨rfl, rfl⟩
  | inside => cases next
  | escaped => cases next

/-- What is not ASCII stands inside of a string. -/
theorem next_foreign (foreign : isAscii c = false) (next : m.next c = some m') : m = .inside := by
  cases m with
  | outside =>
      have quote : c ≠ '"' := by
        rintro rfl
        cases foreign
      simp [Mode.next, quote, foreign] at next
  | inside => rfl
  | escaped =>
      have escape : isEscape c = true := by
        by_contra not
        rw [Mode.next, if_neg not] at next
        cases next
      simp only [isEscape, Bool.or_eq_true, decide_eq_true_eq] at escape
      rcases escape with (((((((rfl | rfl) | rfl) | rfl) | rfl) | rfl) | rfl) | rfl) | rfl <;>
        cases foreign

/-- Each line of a text has the shape of a text. -/
theorem Lexical.line (lexical : Lexical (['\n'].intercalate values)) :
    ∀ value ∈ values, Lexical value := by
  induction values with
  | nil => exact fun _ member => absurd member List.not_mem_nil
  | cons value values ih =>
      cases values with
      | nil =>
          intro v member
          rw [List.intercalate_singleton] at lexical
          rw [List.mem_singleton.mp member]
          exact lexical
      | cons second values =>
          have split : ['\n'].intercalate (value :: second :: values) =
              value ++ '\n' :: ['\n'].intercalate (second :: values) := by
            rw [List.intercalate_cons_cons, List.append_assoc]
            rfl
          unfold Lexical at lexical
          rw [split, after_append] at lexical
          obtain ⟨m, first, rest⟩ := Option.bind_eq_some_iff.mp lexical
          obtain ⟨m', next, rest⟩ := Option.bind_eq_some_iff.mp rest
          obtain ⟨rfl, rfl⟩ := next_newline next
          intro v member
          rcases List.mem_cons.mp member with rfl | member
          · exact first
          · exact ih rest v member

/-- A text that is broken off before a character that is not ASCII has lost its shape. -/
theorem Lexical.broken (lexical : Lexical (a ++ c :: b)) (foreign : isAscii c = false) :
    ¬ Lexical a := by
  intro whole
  unfold Lexical at lexical
  rw [after_append, whole, Option.bind_some, after_cons] at lexical
  obtain ⟨m, next, _⟩ := Option.bind_eq_some_iff.mp lexical
  cases next_foreign foreign next

end

/-! ## Decoding -/

inductive Json
  | null
  | bool (b : Bool)
  | number (literal : Text)
  | string (points : List ℕ)
  | array (items : List Json)
  | object (entries : List (List ℕ × Json))

def isSpace (c : Char) : Bool := c = ' ' || c = '\t' || c = '\n' || c = '\r'

def skip (text : Text) : Text := text.dropWhile isSpace

def isDigit (c : Char) : Bool := '0' ≤ c && c ≤ '9'

/-- The digits that a text starts with, and what follows them. -/
def digits (text : Text) : Text × Text := (text.takeWhile isDigit, text.dropWhile isDigit)

def scanInteger : Text → Option (Text × Text)
  | '0' :: rest => some (['0'], rest)
  | c :: rest => if isDigit c then some (digits (c :: rest)) else none
  | [] => none

def scanFraction : Text → Text × Text
  | '.' :: rest => if (digits rest).1 = [] then ([], '.' :: rest)
      else ('.' :: (digits rest).1, (digits rest).2)
  | text => ([], text)

def scanSign : Text → Text × Text
  | '+' :: rest => (['+'], rest)
  | '-' :: rest => (['-'], rest)
  | text => ([], text)

def scanExponent : Text → Text × Text
  | c :: rest =>
      if (c = 'e' || c = 'E') && (digits (scanSign rest).2).1 ≠ [] then
        (c :: (scanSign rest).1 ++ (digits (scanSign rest).2).1, (digits (scanSign rest).2).2)
      else ([], c :: rest)
  | [] => ([], [])

/-- `NUMBER_RE`. -/
def scanNumber (text : Text) : Option (Text × Text) := do
  let (sign, rest) := match text with
    | '-' :: rest => (['-'], rest)
    | text => ([], text)
  let (integer, rest) ← scanInteger rest
  let (fraction, rest) := scanFraction rest
  let (exponent, rest) := scanExponent rest
  some (sign ++ integer ++ fraction ++ exponent, rest)

def hexDigit (c : Char) : Option ℕ :=
  if isDigit c then some (c.toNat - '0'.toNat)
  else if 'a' ≤ c && c ≤ 'f' then some (c.toNat - 'a'.toNat + 10)
  else if 'A' ≤ c && c ≤ 'F' then some (c.toNat - 'A'.toNat + 10)
  else none

def unescape (c : Char) : Option ℕ :=
  if c = '"' || c = '\\' || c = '/' then some c.toNat
  else if c = 'b' then some 8
  else if c = 'f' then some 12
  else if c = 'n' then some 10
  else if c = 'r' then some 13
  else if c = 't' then some 9
  else none

/-- A code unit before code points; a surrogate pair is one code point. -/
def addUnit (unit : ℕ) : List ℕ → List ℕ
  | second :: points =>
      if 0xD800 ≤ unit ∧ unit ≤ 0xDBFF ∧ 0xDC00 ≤ second ∧ second ≤ 0xDFFF then
        (0x10000 + (unit - 0xD800) * 0x400 + (second - 0xDC00)) :: points
      else unit :: second :: points
  | [] => [unit]

/-- `py_scanstring`, after the quotation mark. -/
def scanString : Text → Option (List ℕ × Text)
  | [] => none
  | '"' :: rest => some ([], rest)
  | '\\' :: 'u' :: p :: q :: r :: s :: rest => do
      let p ← hexDigit p
      let q ← hexDigit q
      let r ← hexDigit r
      let s ← hexDigit s
      let (points, rest) ← scanString rest
      some (addUnit (((p * 16 + q) * 16 + r) * 16 + s) points, rest)
  | '\\' :: c :: rest => do
      let point ← unescape c
      let (points, rest) ← scanString rest
      some (point :: points, rest)
  | c :: rest =>
      if c = '\\' || c.toNat < 32 then none
      else do
        let (points, rest) ← scanString rest
        some (c.toNat :: points, rest)

/-- A dict has the last value of a key at the place of its first. -/
def assign (entries : List (List ℕ × Json)) (entry : List ℕ × Json) : List (List ℕ × Json) :=
  if entries.any fun other => other.1 = entry.1 then
    entries.map fun other => if other.1 = entry.1 then entry else other
  else entries ++ [entry]

/-- The constants and the numbers of `scan_once`. -/
def scanScalar : Text → Option (Json × Text)
  | 'n' :: 'u' :: 'l' :: 'l' :: rest => some (.null, rest)
  | 't' :: 'r' :: 'u' :: 'e' :: rest => some (.bool true, rest)
  | 'f' :: 'a' :: 'l' :: 's' :: 'e' :: rest => some (.bool false, rest)
  | 'N' :: 'a' :: 'N' :: rest => some (.number ['N', 'a', 'N'], rest)
  | 'I' :: 'n' :: 'f' :: 'i' :: 'n' :: 'i' :: 't' :: 'y' :: rest =>
      some (.number ['I', 'n', 'f', 'i', 'n', 'i', 't', 'y'], rest)
  | '-' :: 'I' :: 'n' :: 'f' :: 'i' :: 'n' :: 'i' :: 't' :: 'y' :: rest =>
      some (.number ['-', 'I', 'n', 'f', 'i', 'n', 'i', 't', 'y'], rest)
  | text => (scanNumber text).map fun scanned => (.number scanned.1, scanned.2)

mutual

/-- `scan_once`; two turns take a character of the text. -/
def scanOnce : ℕ → Text → Option (Json × Text)
  | 0, _ => none
  | turns + 1, text =>
      match text with
      | '"' :: rest => do
          let (points, rest) ← scanString rest
          some (.string points, rest)
      | '{' :: rest =>
          match skip rest with
          | '}' :: rest => some (.object [], rest)
          | '"' :: rest => do
              let (entries, rest) ← scanEntries turns rest
              some (.object (entries.foldl assign []), rest)
          | _ => none
      | '[' :: rest =>
          match skip rest with
          | ']' :: rest => some (.array [], rest)
          | rest => do
              let (items, rest) ← scanItems turns rest
              some (.array items, rest)
      | text => scanScalar text

/-- The loop of `JSONObject`, after the quotation mark of a key. -/
def scanEntries : ℕ → Text → Option (List (List ℕ × Json) × Text)
  | 0, _ => none
  | turns + 1, text => do
      let (key, rest) ← scanString text
      match skip rest with
      | ':' :: rest => do
          let (value, rest) ← scanOnce turns (skip rest)
          match skip rest with
          | '}' :: rest => some ([(key, value)], rest)
          | ',' :: rest =>
              match skip rest with
              | '"' :: rest => do
                  let (entries, rest) ← scanEntries turns rest
                  some ((key, value) :: entries, rest)
              | _ => none
          | _ => none
      | _ => none

/-- The loop of `JSONArray`. -/
def scanItems : ℕ → Text → Option (List Json × Text)
  | 0, _ => none
  | turns + 1, text => do
      let (value, rest) ← scanOnce turns text
      match skip rest with
      | ']' :: rest => some ([value], rest)
      | ',' :: rest => do
          let (items, rest) ← scanItems turns (skip rest)
          some (value :: items, rest)
      | _ => none

end

/-- `json.loads` with as many turns. -/
def loadsWithin (turns : ℕ) (text : Text) : Option Json := do
  let (value, rest) ← scanOnce turns (skip text)
  if skip rest = [] then some value else none

/-- `json.loads`; nothing is a `JSONDecodeError`. -/
def loads (text : Text) : Option Json := loadsWithin (2 * text.length + 1) text

/-! ## The shape of a decoded text -/

/-- `text` leads from one mode to another, with `rest` left. -/
def Reads (m : Mode) (text : Text) (m' : Mode) (rest : Text) : Prop :=
  ∃ used, text = used ++ rest ∧ m.after used = some m'

section

variable {m m₁ m₂ : Mode} {c : Char} {a text text₁ text₂ rest : Text} {points : List ℕ}

theorem Reads.refl : Reads m text m text := ⟨[], rfl, rfl⟩

theorem Reads.cons (next : m.next c = some m₁) (reads : Reads m₁ text m₂ rest) :
    Reads m (c :: text) m₂ rest := by
  obtain ⟨used, rfl, after⟩ := reads
  refine ⟨c :: used, rfl, ?_⟩
  rw [after_cons, next]
  exact after

theorem Reads.trans (first : Reads m text m₁ text₁) (second : Reads m₁ text₁ m₂ text₂) :
    Reads m text m₂ text₂ := by
  obtain ⟨used, rfl, after⟩ := first
  obtain ⟨used', rfl, after'⟩ := second
  refine ⟨used ++ used', (List.append_assoc ..).symm, ?_⟩
  rw [after_append, after]
  exact after'

/-- Characters outside of strings. -/
theorem Reads.plain (all : ∀ c ∈ a, Mode.outside.next c = some .outside) :
    Reads .outside (a ++ rest) .outside rest := by
  induction a with
  | nil => exact .refl
  | cons c a ih =>
      exact .cons (all c List.mem_cons_self)
        (ih fun c member => all c (List.mem_cons_of_mem _ member))

theorem le_toNat {d : Char} (le : d ≤ c) : d.toNat ≤ c.toNat := UInt32.le_iff_toNat_le.mp le

theorem skip_reads (text : Text) : Reads .outside text .outside (skip text) := by
  have split : text = text.takeWhile isSpace ++ skip text := List.takeWhile_append_dropWhile.symm
  have reads : Reads .outside (text.takeWhile isSpace ++ skip text) .outside (skip text) := by
    refine .plain fun c member => ?_
    have space : isSpace c = true := List.mem_takeWhile_imp member
    simp only [isSpace, Bool.or_eq_true, decide_eq_true_eq] at space
    rcases space with ((rfl | rfl) | rfl) | rfl <;> rfl
  rwa [← split] at reads

theorem next_digit (digit : isDigit c = true) : Mode.outside.next c = some .outside := by
  simp only [isDigit, Bool.and_eq_true, decide_eq_true_eq] at digit
  have low : 48 ≤ c.toNat := le_toNat digit.1
  have high : c.toNat ≤ 57 := le_toNat digit.2
  have quote : c ≠ '"' := by
    rintro rfl
    exact absurd low (by decide)
  have ascii : isAscii c = true := by
    simp only [isAscii, Bool.or_eq_true, Bool.and_eq_true, decide_eq_true_eq]
    omega
  rw [Mode.next, if_neg quote, if_pos ascii]

theorem digits_reads (text : Text) : Reads .outside text .outside (digits text).2 := by
  have split : text = (digits text).1 ++ (digits text).2 := List.takeWhile_append_dropWhile.symm
  have reads : Reads .outside ((digits text).1 ++ (digits text).2) .outside (digits text).2 :=
    .plain fun c member => next_digit (List.mem_takeWhile_imp member)
  rwa [← split] at reads

theorem scanInteger_reads (scanned : scanInteger text = some (a, rest)) :
    Reads .outside text .outside rest := by
  unfold scanInteger at scanned
  split at scanned
  · cases scanned
    exact .cons rfl .refl
  · split at scanned
    · cases scanned
      exact digits_reads _
    · cases scanned
  · cases scanned

theorem scanFraction_reads (text : Text) : Reads .outside text .outside (scanFraction text).2 := by
  unfold scanFraction
  split
  · split
    · exact .refl
    · exact .cons rfl (digits_reads _)
  · exact .refl

theorem scanSign_reads (text : Text) : Reads .outside text .outside (scanSign text).2 := by
  unfold scanSign
  split
  · exact .cons rfl .refl
  · exact .cons rfl .refl
  · exact .refl

theorem scanExponent_reads (text : Text) : Reads .outside text .outside (scanExponent text).2 := by
  unfold scanExponent
  split
  · rename_i c rest
    split
    · rename_i exponent
      simp only [Bool.and_eq_true, Bool.or_eq_true, decide_eq_true_eq] at exponent
      have next : Mode.outside.next c = some .outside := by
        rcases exponent.1 with rfl | rfl <;> rfl
      exact .cons next ((scanSign_reads rest).trans (digits_reads _))
    · exact .refl
  · exact .refl

theorem scanNumber_reads (scanned : scanNumber text = some (a, rest)) :
    Reads .outside text .outside rest := by
  unfold scanNumber at scanned
  obtain ⟨⟨integer, rest'⟩, whole, scanned⟩ := Option.bind_eq_some_iff.mp scanned
  cases scanned
  have number : Reads .outside _ .outside (scanExponent (scanFraction rest').2).2 :=
    (scanInteger_reads whole).trans ((scanFraction_reads rest').trans (scanExponent_reads _))
  split at number
  · exact .cons rfl number
  · exact number

/-- A character in a string. -/
theorem next_inside (quote : c ≠ '"') (escape : c ≠ '\\') (printable : 32 ≤ c.toNat) :
    Mode.inside.next c = some .inside := by
  rw [Mode.next, if_neg quote, if_neg escape, if_neg (by omega)]

theorem next_hexDigit {n : ℕ} (digit : hexDigit c = some n) :
    Mode.inside.next c = some .inside := by
  have low : 48 ≤ c.toNat := by
    unfold hexDigit at digit
    split at digit
    · rename_i decimal
      simp only [isDigit, Bool.and_eq_true, decide_eq_true_eq] at decimal
      exact le_toNat decimal.1
    · split at digit
      · rename_i lower
        simp only [Bool.and_eq_true, decide_eq_true_eq] at lower
        have bound : 97 ≤ c.toNat := le_toNat lower.1
        omega
      · split at digit
        · rename_i upper
          simp only [Bool.and_eq_true, decide_eq_true_eq] at upper
          have bound : 65 ≤ c.toNat := le_toNat upper.1
          omega
        · cases digit
  refine next_inside ?_ ?_ (by omega)
  · rintro rfl
    exact absurd low (by decide)
  · rintro rfl
    cases digit

theorem next_unescape {n : ℕ} (escape : unescape c = some n) :
    Mode.escaped.next c = some .inside := by
  have known : isEscape c = true := by
    by_contra unknown
    simp only [isEscape, Bool.or_eq_true, decide_eq_true_eq, not_or] at unknown
    obtain ⟨⟨⟨⟨⟨⟨⟨⟨quote, back⟩, slash⟩, b⟩, f⟩, n⟩, r⟩, t⟩, u⟩ := unknown
    simp [unescape, quote, back, slash, b, f, n, r, t] at escape
  rw [Mode.next, if_pos known]

theorem scanString_reads (scanned : scanString text = some (points, rest)) :
    Reads .inside text .outside rest := by
  induction text using scanString.induct generalizing points with
  | case1 => cases scanned
  | case2 rest' =>
      cases scanned
      exact .cons rfl .refl
  | case3 p q r s rest' ih =>
      rw [scanString] at scanned
      obtain ⟨_, first, scanned⟩ := Option.bind_eq_some_iff.mp scanned
      obtain ⟨_, second, scanned⟩ := Option.bind_eq_some_iff.mp scanned
      obtain ⟨_, third, scanned⟩ := Option.bind_eq_some_iff.mp scanned
      obtain ⟨_, fourth, scanned⟩ := Option.bind_eq_some_iff.mp scanned
      obtain ⟨⟨others, rest''⟩, string, scanned⟩ := Option.bind_eq_some_iff.mp scanned
      cases scanned
      have reads := ih string
      refine .cons rfl (.cons rfl ?_)
      exact .cons (next_hexDigit first) (.cons (next_hexDigit second)
        (.cons (next_hexDigit third) (.cons (next_hexDigit fourth) reads)))
  | case4 c rest' short ih =>
      rw [scanString] at scanned
      · obtain ⟨_, escape, scanned⟩ := Option.bind_eq_some_iff.mp scanned
        obtain ⟨⟨others, rest''⟩, string, scanned⟩ := Option.bind_eq_some_iff.mp scanned
        cases scanned
        exact .cons rfl (.cons (next_unescape escape) (ih string))
      · exact short
  | case5 c rest' quote long escape control =>
      rw [scanString, if_pos control] at scanned
      · cases scanned
      · exact quote
      · exact long
      · exact escape
  | case6 c rest' quote long escape fine ih =>
      rw [scanString, if_neg fine] at scanned
      · obtain ⟨⟨others, rest''⟩, string, scanned⟩ := Option.bind_eq_some_iff.mp scanned
        cases scanned
        simp only [Bool.or_eq_true, decide_eq_true_eq, not_or] at fine
        exact .cons (next_inside quote fine.1 (by omega)) (ih string)
      · exact quote
      · exact long
      · exact escape

/-- The characters of a constant. -/
theorem constant_reads (word : Text)
    (plain : (word.all fun c => Mode.outside.next c = some .outside) = true) :
    Reads .outside (word ++ rest) .outside rest := by
  refine .plain fun c member => ?_
  exact of_decide_eq_true (List.all_eq_true.mp plain c member)

theorem scanScalar_reads {value : Json} (scanned : scanScalar text = some (value, rest)) :
    Reads .outside text .outside rest := by
  unfold scanScalar at scanned
  split at scanned
  · cases scanned
    exact constant_reads ['n', 'u', 'l', 'l'] rfl
  · cases scanned
    exact constant_reads ['t', 'r', 'u', 'e'] rfl
  · cases scanned
    exact constant_reads ['f', 'a', 'l', 's', 'e'] rfl
  · cases scanned
    exact constant_reads ['N', 'a', 'N'] rfl
  · cases scanned
    exact constant_reads ['I', 'n', 'f', 'i', 'n', 'i', 't', 'y'] rfl
  · cases scanned
    exact constant_reads ['-', 'I', 'n', 'f', 'i', 'n', 'i', 't', 'y'] rfl
  · obtain ⟨⟨literal, rest'⟩, number, is⟩ := Option.map_eq_some_iff.mp scanned
    cases is
    exact scanNumber_reads number

/-- The scanners of values, entries and items, with as many turns. -/
structure Scans (turns : ℕ) : Prop where
  once : ∀ text value rest, scanOnce turns text = some (value, rest) →
    Reads .outside text .outside rest
  entries : ∀ text entries rest, scanEntries turns text = some (entries, rest) →
    Reads .inside text .outside rest
  items : ∀ text items rest, scanItems turns text = some (items, rest) →
    Reads .outside text .outside rest

theorem Scans.scanItems {turns : ℕ} (scans : Scans turns) {items : List Json}
    (scanned : scanItems (turns + 1) text = some (items, rest)) :
    Reads .outside text .outside rest := by
  rw [Codec.scanItems] at scanned
  obtain ⟨⟨value, rest₁⟩, first, scanned⟩ := Option.bind_eq_some_iff.mp scanned
  have reads := (scans.once _ _ _ first).trans (skip_reads rest₁)
  dsimp only at scanned
  split at scanned
  · rename_i rest₂ is
    cases scanned
    rw [is] at reads
    exact reads.trans (.cons rfl .refl)
  · rename_i rest₂ is
    obtain ⟨⟨more, rest₃⟩, later, scanned⟩ := Option.bind_eq_some_iff.mp scanned
    cases scanned
    rw [is] at reads
    exact reads.trans (.cons rfl ((skip_reads rest₂).trans (scans.items _ _ _ later)))
  · cases scanned

theorem Scans.scanEntries {turns : ℕ} (scans : Scans turns) {entries : List (List ℕ × Json)}
    (scanned : scanEntries (turns + 1) text = some (entries, rest)) :
    Reads .inside text .outside rest := by
  rw [Codec.scanEntries] at scanned
  obtain ⟨⟨key, rest₁⟩, name, scanned⟩ := Option.bind_eq_some_iff.mp scanned
  have named := (scanString_reads name).trans (skip_reads rest₁)
  dsimp only at scanned
  split at scanned
  · rename_i rest₂ colon
    obtain ⟨⟨value, rest₃⟩, first, scanned⟩ := Option.bind_eq_some_iff.mp scanned
    rw [colon] at named
    have reads := (named.trans (.cons rfl (skip_reads rest₂))).trans
      ((scans.once _ _ _ first).trans (skip_reads rest₃))
    dsimp only at scanned
    split at scanned
    · rename_i rest₄ is
      cases scanned
      rw [is] at reads
      exact reads.trans (.cons rfl .refl)
    · rename_i rest₄ is
      rw [is] at reads
      have next := reads.trans (.cons rfl (skip_reads rest₄))
      split at scanned
      · rename_i rest₅ quote
        obtain ⟨⟨more, rest₆⟩, later, scanned⟩ := Option.bind_eq_some_iff.mp scanned
        cases scanned
        rw [quote] at next
        exact next.trans (.cons rfl (scans.entries _ _ _ later))
      · cases scanned
    · cases scanned
  · cases scanned

theorem Scans.scanOnce {turns : ℕ} (scans : Scans turns) {value : Json}
    (scanned : scanOnce (turns + 1) text = some (value, rest)) :
    Reads .outside text .outside rest := by
  unfold Codec.scanOnce at scanned
  split at scanned
  · obtain ⟨⟨points, rest₁⟩, string, scanned⟩ := Option.bind_eq_some_iff.mp scanned
    cases scanned
    exact .cons rfl (scanString_reads string)
  · rename_i rest₁
    have opened : Reads .outside ('{' :: rest₁) .outside (skip rest₁) :=
      .cons rfl (skip_reads rest₁)
    split at scanned
    · rename_i rest₂ is
      cases scanned
      rw [is] at opened
      exact opened.trans (.cons rfl .refl)
    · rename_i rest₂ is
      obtain ⟨⟨found, rest₃⟩, entries, scanned⟩ := Option.bind_eq_some_iff.mp scanned
      cases scanned
      rw [is] at opened
      exact opened.trans (.cons rfl (scans.entries _ _ _ entries))
    · cases scanned
  · rename_i rest₁
    have opened : Reads .outside ('[' :: rest₁) .outside (skip rest₁) :=
      .cons rfl (skip_reads rest₁)
    split at scanned
    · rename_i rest₂ is
      cases scanned
      rw [is] at opened
      exact opened.trans (.cons rfl .refl)
    · obtain ⟨⟨found, rest₃⟩, items, scanned⟩ := Option.bind_eq_some_iff.mp scanned
      cases scanned
      exact opened.trans (scans.items _ _ _ items)
  · exact scanScalar_reads scanned

theorem scans (turns : ℕ) : Scans turns := by
  induction turns with
  | zero => exact ⟨nofun, nofun, nofun⟩
  | succ turns ih =>
      exact ⟨fun _ _ _ scanned => ih.scanOnce scanned, fun _ _ _ scanned => ih.scanEntries scanned,
        fun _ _ _ scanned => ih.scanItems scanned⟩

/-- A text that can be decoded has the shape of a JSON text. -/
theorem loads_lexical {value : Json} (loaded : loads text = some value) : Lexical text := by
  unfold loads loadsWithin at loaded
  obtain ⟨⟨found, rest⟩, scanned, loaded⟩ := Option.bind_eq_some_iff.mp loaded
  have reads := (skip_reads text).trans
    (((scans _).once _ _ _ scanned).trans (skip_reads rest))
  dsimp only at loaded
  split at loaded
  · rename_i done
    rw [done] at reads
    obtain ⟨used, is, after⟩ := reads
    rw [is, List.append_nil]
    exact after
  · cases loaded

/-! ## Turns -/

theorem Reads.length_le (reads : Reads m₁ text m₂ rest) : rest.length ≤ text.length := by
  obtain ⟨used, rfl, _⟩ := reads
  rw [List.length_append]
  omega

theorem length_skip_le (text : Text) : (skip text).length ≤ text.length :=
  (skip_reads text).length_le

/-- One more turn changes nothing where there are enough for the text. -/
structure Settled (turns : ℕ) : Prop where
  once : ∀ text, 2 * text.length < turns → scanOnce (turns + 1) text = scanOnce turns text
  entries : ∀ text, 2 * text.length < turns →
    scanEntries (turns + 1) text = scanEntries turns text
  items : ∀ text, 2 * text.length + 1 < turns → scanItems (turns + 1) text = scanItems turns text

namespace Settled

variable {turns : ℕ}

theorem scanItems (settled : Settled turns) (enough : 2 * text.length + 1 < turns + 1) :
    scanItems (turns + 2) text = scanItems (turns + 1) text := by
  rw [Codec.scanItems, Codec.scanItems, settled.once text (by omega)]
  refine Option.bind_congr fun found first => ?_
  obtain ⟨value, rest⟩ := found
  have left := ((scans turns).once _ _ _ first).length_le
  have skipped := length_skip_le rest
  dsimp only
  split
  · rfl
  · rename_i rest' is
    rw [is, List.length_cons] at skipped
    have skipped' := length_skip_le rest'
    rw [settled.items _ (by omega)]
  · rfl

theorem scanEntries (settled : Settled turns) (enough : 2 * text.length < turns + 1) :
    scanEntries (turns + 2) text = scanEntries (turns + 1) text := by
  rw [Codec.scanEntries, Codec.scanEntries]
  refine Option.bind_congr fun found name => ?_
  obtain ⟨key, rest⟩ := found
  have left := (scanString_reads name).length_le
  have skipped := length_skip_le rest
  dsimp only
  split
  · rename_i rest₁ colon
    rw [colon, List.length_cons] at skipped
    have skipped₁ := length_skip_le rest₁
    rw [settled.once _ (by omega)]
    refine Option.bind_congr fun found first => ?_
    obtain ⟨value, rest₂⟩ := found
    have left₂ := ((scans turns).once _ _ _ first).length_le
    have skipped₂ := length_skip_le rest₂
    dsimp only
    split
    · rfl
    · rename_i rest₃ comma
      rw [comma, List.length_cons] at skipped₂
      have skipped₃ := length_skip_le rest₃
      split
      · rename_i rest₄ quote
        rw [quote, List.length_cons] at skipped₃
        rw [settled.entries _ (by omega)]
      · rfl
    · rfl
  · rfl

theorem scanOnce (settled : Settled turns) (enough : 2 * text.length < turns + 1) :
    scanOnce (turns + 2) text = scanOnce (turns + 1) text := by
  unfold Codec.scanOnce
  split
  · rfl
  · rename_i rest
    have skipped := length_skip_le rest
    rw [List.length_cons] at enough
    split
    · rfl
    · rename_i rest₁ quote
      rw [quote, List.length_cons] at skipped
      rw [settled.entries _ (by omega)]
    · rfl
  · rename_i rest
    have skipped := length_skip_le rest
    rw [List.length_cons] at enough
    split
    · rfl
    · rw [settled.items _ (by omega)]
  · rfl

end Settled

theorem settled (turns : ℕ) : Settled turns := by
  induction turns with
  | zero => exact ⟨nofun, nofun, nofun⟩
  | succ turns ih =>
      exact ⟨fun _ enough => ih.scanOnce enough, fun _ enough => ih.scanEntries enough,
        fun _ enough => ih.scanItems enough⟩

/-- `loads` does not run out of turns: with more of them it decodes the same. -/
theorem loadsWithin_eq {turns : ℕ} (enough : 2 * text.length < turns) :
    loadsWithin turns text = loads text := by
  induction turns with
  | zero => cases enough
  | succ turns ih =>
      by_cases same : turns = 2 * text.length
      · rw [same, loads]
      · have less : 2 * text.length < turns := by omega
        have skipped := length_skip_le text
        rw [← ih less, loadsWithin, loadsWithin,
          (settled turns).once _ (by omega)]

end

end Codec
