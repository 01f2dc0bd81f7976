import Mathlib.Data.List.Basic
import Mathlib.Tactic.Ring

/-!
# Base64

Bytes as sextets and back, three to four.  Where the last group is short, its last sextet has
bits that no byte takes: the encoder clears them and a lenient decoder does not look at them.

`pack` and `unpack` are the two directions on sextets, and `spareBits` are the bits in question.
The rest is text: the characters of the URL-safe alphabet, and a decoder that skips what is
outside its alphabet and stops at the padding.
-/

namespace Codec

/-! ## Sextets -/

/-- The sextets of bytes. -/
def pack : List UInt8 → List ℕ
  | [] => []
  | [a] => [a.toNat / 4, a.toNat % 4 * 16]
  | [a, b] => [a.toNat / 4, a.toNat % 4 * 16 + b.toNat / 16, b.toNat % 16 * 4]
  | a :: b :: c :: rest =>
      a.toNat / 4 :: (a.toNat % 4 * 16 + b.toNat / 16) :: (b.toNat % 16 * 4 + c.toNat / 64) ::
        c.toNat % 64 :: pack rest

/-- The bytes of sextets; a single one has too few bits. -/
def unpack : List ℕ → Option (List UInt8)
  | [] => some []
  | [_] => none
  | [p, q] => some [.ofNat (p * 4 + q / 16)]
  | [p, q, r] => some [.ofNat (p * 4 + q / 16), .ofNat (q % 16 * 16 + r / 4)]
  | p :: q :: r :: s :: rest =>
      (unpack rest).map fun bytes =>
        .ofNat (p * 4 + q / 16) :: .ofNat (q % 16 * 16 + r / 4) :: .ofNat (r % 4 * 64 + s) :: bytes

/-- The bits of the last sextet that no byte takes. -/
def spareBits (sextets : List ℕ) : ℕ :=
  if sextets.length % 4 = 2 then sextets.getLast?.getD 0 % 16
  else if sextets.length % 4 = 3 then sextets.getLast?.getD 0 % 4
  else 0

theorem spareBits_group {p q r s : ℕ} {rest : List ℕ} :
    spareBits (p :: q :: r :: s :: rest) = spareBits rest := by
  have length : (p :: q :: r :: s :: rest).length % 4 = rest.length % 4 := by
    simp only [List.length_cons]
    omega
  unfold spareBits
  rw [length]
  cases rest with
  | nil => rfl
  | cons t rest => simp [List.getLast?_cons_cons]

theorem ofNat_toNat {n : ℕ} (small : n < 256) : (UInt8.ofNat n).toNat = n :=
  UInt8.toNat_ofNat_of_lt' small

theorem pack_lt (bytes : List UInt8) : ∀ n ∈ pack bytes, n < 64 := by
  induction bytes using pack.induct with
  | case1 => simp [pack]
  | case2 a =>
      have := a.toNat_lt
      simp only [pack, List.mem_cons, List.not_mem_nil, or_false]
      intro n member
      omega
  | case3 a b =>
      have := a.toNat_lt
      have := b.toNat_lt
      simp only [pack, List.mem_cons, List.not_mem_nil, or_false]
      intro n member
      omega
  | case4 a b c rest ih =>
      have := a.toNat_lt
      have := b.toNat_lt
      have := c.toNat_lt
      simp only [pack, List.mem_cons]
      intro n member
      rcases member with is | is | is | is | member
      · omega
      · omega
      · omega
      · omega
      · exact ih n member

/-- What is packed unpacks. -/
theorem unpack_pack (bytes : List UInt8) : unpack (pack bytes) = some bytes := by
  induction bytes using pack.induct with
  | case1 => rfl
  | case2 a =>
      have first : a.toNat / 4 * 4 + a.toNat % 4 * 16 / 16 = a.toNat := by omega
      simp only [pack, unpack, first, UInt8.ofNat_toNat]
  | case3 a b =>
      have := b.toNat_lt
      have first : a.toNat / 4 * 4 + (a.toNat % 4 * 16 + b.toNat / 16) / 16 = a.toNat := by omega
      have second : (a.toNat % 4 * 16 + b.toNat / 16) % 16 * 16 + b.toNat % 16 * 4 / 4 =
          b.toNat := by omega
      simp only [pack, unpack, first, second, UInt8.ofNat_toNat]
  | case4 a b c rest ih =>
      have := b.toNat_lt
      have := c.toNat_lt
      have first : a.toNat / 4 * 4 + (a.toNat % 4 * 16 + b.toNat / 16) / 16 = a.toNat := by omega
      have second : (a.toNat % 4 * 16 + b.toNat / 16) % 16 * 16 +
          (b.toNat % 16 * 4 + c.toNat / 64) / 4 = b.toNat := by omega
      have third : (b.toNat % 16 * 4 + c.toNat / 64) % 4 * 64 + c.toNat % 64 = c.toNat := by omega
      simp only [pack, unpack, first, second, third, UInt8.ofNat_toNat, ih, Option.map_some]

/-- What unpacks is packed again just where its spare bits are clear. -/
theorem pack_eq_iff {sextets : List ℕ} {bytes : List UInt8} (small : ∀ n ∈ sextets, n < 64)
    (unpacks : unpack sextets = some bytes) : pack bytes = sextets ↔ spareBits sextets = 0 := by
  induction sextets using unpack.induct generalizing bytes with
  | case1 =>
      cases unpacks
      simp [pack, spareBits]
  | case2 p => cases unpacks
  | case3 p q =>
      cases unpacks
      have := small p (by simp)
      have := small q (by simp)
      have first := ofNat_toNat (n := p * 4 + q / 16) (by omega)
      simp only [pack, first, spareBits, List.cons.injEq, and_true, List.length_cons,
        List.length_nil, List.getLast?_cons_cons, List.getLast?_singleton, Option.getD_some]
      simp only [Nat.zero_add, Nat.reduceAdd, Nat.reduceMod, if_true]
      omega
  | case4 p q r =>
      cases unpacks
      have := small p (by simp)
      have := small q (by simp)
      have := small r (by simp)
      have first := ofNat_toNat (n := p * 4 + q / 16) (by omega)
      have second := ofNat_toNat (n := q % 16 * 16 + r / 4) (by omega)
      simp only [pack, first, second, spareBits, List.cons.injEq, and_true, List.length_cons,
        List.length_nil, List.getLast?_cons_cons, List.getLast?_singleton, Option.getD_some]
      simp only [Nat.zero_add, Nat.reduceAdd, Nat.reduceMod, Nat.reduceEqDiff, if_false, if_true]
      omega
  | case5 p q r s rest ih =>
      have := small p (by simp)
      have := small q (by simp)
      have := small r (by simp)
      have := small s (by simp)
      rw [unpack, Option.map_eq_some_iff] at unpacks
      obtain ⟨others, unpacks, is⟩ := unpacks
      subst is
      have first := ofNat_toNat (n := p * 4 + q / 16) (by omega)
      have second := ofNat_toNat (n := q % 16 * 16 + r / 4) (by omega)
      have third := ofNat_toNat (n := r % 4 * 64 + s) (by omega)
      rw [spareBits_group, ← ih (fun n member => small n (by simp [member])) unpacks]
      simp only [pack, first, second, third, List.cons.injEq]
      constructor
      · intro all
        exact all.2.2.2.2
      · intro same
        exact ⟨by omega, by omega, by omega, by omega, same⟩

theorem unpack_length {sextets : List ℕ} {bytes : List UInt8}
    (unpacks : unpack sextets = some bytes) : bytes.length = sextets.length * 3 / 4 := by
  induction sextets using unpack.induct generalizing bytes with
  | case1 => cases unpacks; rfl
  | case2 p => cases unpacks
  | case3 p q => cases unpacks; simp
  | case4 p q r => cases unpacks; simp
  | case5 p q r s rest ih =>
      rw [unpack, Option.map_eq_some_iff] at unpacks
      obtain ⟨others, unpacks, is⟩ := unpacks
      subst is
      have length := ih unpacks
      simp only [List.length_cons]
      omega

/-- Too few bits are left only of a single sextet. -/
theorem unpack_eq_none {sextets : List ℕ} : unpack sextets = none ↔ sextets.length % 4 = 1 := by
  induction sextets using unpack.induct with
  | case1 => simp [unpack]
  | case2 p => simp [unpack]
  | case3 p q => simp [unpack]
  | case4 p q r => simp [unpack]
  | case5 p q r s rest ih =>
      rw [unpack, Option.map_eq_none_iff, ih]
      simp only [List.length_cons]
      omega

/-- A short last group has other sextets of the same bytes. -/
theorem exists_other {sextets : List ℕ} {bytes : List UInt8} (small : ∀ n ∈ sextets, n < 64)
    (unpacks : unpack sextets = some bytes) (short : sextets.length % 4 ≠ 0) :
    ∃ others, others ≠ sextets ∧ (∀ n ∈ others, n < 64) ∧ unpack others = some bytes := by
  -- the lowest bit of the last sextet is spare
  have flip : ∀ n < 64, ∃ m < 64, m ≠ n ∧ m / 4 = n / 4 ∧ m / 16 = n / 16 := by
    intro n small
    by_cases even : n % 2 = 0
    · exact ⟨n + 1, by omega, by omega, by omega, by omega⟩
    · exact ⟨n - 1, by omega, by omega, by omega, by omega⟩
  induction sextets using unpack.induct generalizing bytes with
  | case1 => exact absurd rfl short
  | case2 p => cases unpacks
  | case3 p q =>
      have first := small p (by simp)
      obtain ⟨m, below, other, _, same⟩ := flip q (small q (by simp))
      cases unpacks
      have differ : [p, m] ≠ [p, q] := by simp [other]
      have bound : ∀ n ∈ [p, m], n < 64 := by simp [first, below]
      exact ⟨[p, m], differ, bound, by rw [unpack, same]⟩
  | case4 p q r =>
      have first := small p (by simp)
      have second := small q (by simp)
      obtain ⟨m, below, other, same, _⟩ := flip r (small r (by simp))
      cases unpacks
      have differ : [p, q, m] ≠ [p, q, r] := by simp [other]
      have bound : ∀ n ∈ [p, q, m], n < 64 := by simp [first, second, below]
      exact ⟨[p, q, m], differ, bound, by rw [unpack, same]⟩
  | case5 p q r s rest ih =>
      have head : p < 64 ∧ q < 64 ∧ r < 64 ∧ s < 64 :=
        ⟨small p (by simp), small q (by simp), small r (by simp), small s (by simp)⟩
      rw [unpack, Option.map_eq_some_iff] at unpacks
      obtain ⟨bytes, unpacks, is⟩ := unpacks
      subst is
      simp only [List.length_cons] at short
      obtain ⟨others, other, bound, unpacks'⟩ :=
        ih (fun n member => small n (by simp [member])) unpacks (by omega)
      have bound' : ∀ n ∈ p :: q :: r :: s :: others, n < 64 := by
        simp only [List.mem_cons]
        intro n member
        rcases member with is | is | is | is | member
        · omega
        · omega
        · omega
        · omega
        · exact bound n member
      exact ⟨p :: q :: r :: s :: others, by simp [other], bound', by rw [unpack, unpacks']; rfl⟩

/-- Sextets are the only ones of their bytes just where the last group is full. -/
theorem sole_iff {sextets : List ℕ} {bytes : List UInt8} (small : ∀ n ∈ sextets, n < 64)
    (unpacks : unpack sextets = some bytes) :
    (∀ others, (∀ n ∈ others, n < 64) → unpack others = some bytes → others = sextets) ↔
      sextets.length % 4 = 0 := by
  constructor
  · intro sole
    by_contra short
    obtain ⟨others, other, bound, unpacks'⟩ := exists_other small unpacks short
    exact other (sole others bound unpacks')
  · intro full others bound unpacks'
    have length := unpack_length unpacks
    have length' := unpack_length unpacks'
    have full' : others.length % 4 = 0 := by
      have some_ : unpack others ≠ none := by simp [unpacks']
      have several := mt unpack_eq_none.mpr some_
      omega
    have clear : ∀ {sextets : List ℕ}, sextets.length % 4 = 0 → spareBits sextets = 0 := by
      intro sextets full
      simp [spareBits, full]
    rw [← (pack_eq_iff bound unpacks').mpr (clear full'),
      (pack_eq_iff small unpacks).mpr (clear full)]

/-! ## Text -/

def alphabet : List Char :=
  "ABCDEFGHIJKLMNOPQRSTUVWXYZabcdefghijklmnopqrstuvwxyz0123456789+/".toList

/-- The character of a sextet. -/
def character (n : ℕ) : Char := alphabet.getD n '='

/-- The number of `=` that fill the last group of so many characters. -/
def padding (length : ℕ) : ℕ := (4 - length % 4) % 4

def b64encode (bytes : List UInt8) : List Char :=
  let characters := (pack bytes).map character
  characters ++ List.replicate (padding characters.length) '='

/-- A decoder that skips what is outside the alphabet, with the sextets of the last group that
it has read, the padding after them, and the bits that are left of them. -/
def a2bBase64 (position : Fin 4) (pads left : ℕ) : List Char → Option (List UInt8)
  | [] => if position = 0 then some [] else none
  | c :: rest =>
      if c = '=' then
        if 2 ≤ position.val then
          if 4 ≤ position.val + (pads + 1) then some []
          else a2bBase64 position (pads + 1) left rest
        else a2bBase64 position pads left rest
      else
        match alphabet.idxOf? c with
        | none => a2bBase64 position pads left rest
        | some n =>
            match position with
            | 0 => a2bBase64 1 0 n rest
            | 1 => (a2bBase64 2 0 (n % 16) rest).map (.ofNat (left * 4 + n / 16) :: ·)
            | 2 => (a2bBase64 3 0 (n % 4) rest).map (.ofNat (left * 16 + n / 4) :: ·)
            | 3 => (a2bBase64 0 0 0 rest).map (.ofNat (left * 64 + n) :: ·)

/-- The URL-safe form of a character. -/
def urlsafe (c : Char) : Char := if c = '+' then '-' else if c = '/' then '_' else c

/-- The standard form of a character that may be URL-safe. -/
def standard (c : Char) : Char := if c = '-' then '+' else if c = '_' then '/' else c

def urlsafeB64encode (bytes : List UInt8) : List Char := (b64encode bytes).map urlsafe

/-- A text outside ASCII is no base64. -/
def urlsafeB64decode (text : List Char) : Option (List UInt8) :=
  if text.all (fun c => c.toNat < 128) = true then a2bBase64 0 0 0 (text.map standard) else none

/-- The URL-safe alphabet. -/
def urlAlphabet : List Char := alphabet.map urlsafe

/-- The sextet of a character of the URL-safe alphabet. -/
def sextet (c : Char) : ℕ := (alphabet.idxOf? (standard c)).getD 0

theorem sextet_spec : ∀ c ∈ urlAlphabet, sextet c < 64 ∧ urlsafe (character (sextet c)) = c ∧
    standard c = character (sextet c) ∧ c ≠ '=' ∧ c.toNat < 128 := by
  have all : urlAlphabet.all (fun c => decide (sextet c < 64 ∧
      urlsafe (character (sextet c)) = c ∧ standard c = character (sextet c) ∧ c ≠ '=' ∧
      c.toNat < 128)) = true := by decide +kernel
  exact fun c member => of_decide_eq_true (List.all_eq_true.mp all c member)

theorem character_spec : ∀ n < 64, urlsafe (character n) ∈ urlAlphabet ∧
    sextet (urlsafe (character n)) = n ∧ alphabet.idxOf? (character n) = some n ∧
    character n ≠ '=' := by
  decide +kernel

/-! ### The decoder on the alphabet -/

section

variable {position : Fin 4} {pads left n : ℕ} {rest : List Char}

theorem a2bBase64_character (small : n < 64) :
    a2bBase64 position pads left (character n :: rest) =
      match position with
      | 0 => a2bBase64 1 0 n rest
      | 1 => (a2bBase64 2 0 (n % 16) rest).map (.ofNat (left * 4 + n / 16) :: ·)
      | 2 => (a2bBase64 3 0 (n % 4) rest).map (.ofNat (left * 16 + n / 4) :: ·)
      | 3 => (a2bBase64 0 0 0 rest).map (.ofNat (left * 64 + n) :: ·) := by
  obtain ⟨_, _, index, other⟩ := character_spec n small
  rw [a2bBase64, if_neg other, index]

/-- On characters of the alphabet and the padding that fills them up, the decoder unpacks. -/
theorem a2bBase64_padded {sextets : List ℕ} (small : ∀ n ∈ sextets, n < 64) :
    a2bBase64 0 0 0
        (sextets.map character ++ List.replicate (padding sextets.length) '=') =
      unpack sextets := by
  induction sextets using unpack.induct with
  | case1 => rfl
  | case2 p =>
      simp only [List.map_cons, List.map_nil, List.cons_append, List.nil_append]
      rw [a2bBase64_character (small p (by simp))]
      rfl
  | case3 p q =>
      simp only [List.map_cons, List.map_nil, List.cons_append, List.nil_append]
      rw [a2bBase64_character (small p (by simp))]
      dsimp only
      rw [a2bBase64_character (small q (by simp))]
      rfl
  | case4 p q r =>
      simp only [List.map_cons, List.map_nil, List.cons_append, List.nil_append]
      rw [a2bBase64_character (small p (by simp))]
      dsimp only
      rw [a2bBase64_character (small q (by simp))]
      dsimp only
      rw [a2bBase64_character (small r (by simp))]
      rfl
  | case5 p q r s rest ih =>
      have fill : padding (p :: q :: r :: s :: rest).length = padding rest.length := by
        unfold padding
        simp only [List.length_cons]
        omega
      simp only [List.map_cons, List.cons_append, fill]
      rw [a2bBase64_character (small p (by simp))]
      dsimp only
      rw [a2bBase64_character (small q (by simp))]
      dsimp only
      rw [a2bBase64_character (small r (by simp))]
      dsimp only
      rw [a2bBase64_character (small s (by simp))]
      dsimp only
      rw [ih fun n member => small n (by simp [member]), unpack, Option.map_map, Option.map_map]
      rfl

end

/-! ### Texts of the URL-safe alphabet -/

section

variable {text : List Char} {bytes : List UInt8}

theorem sextets_lt (within : ∀ c ∈ text, c ∈ urlAlphabet) : ∀ n ∈ text.map sextet, n < 64 := by
  intro n member
  obtain ⟨c, inside, is⟩ := List.mem_map.mp member
  subst is
  exact (sextet_spec c (within c inside)).1

/-- The text of sextets. -/
def urlText (sextets : List ℕ) : List Char := sextets.map fun n => urlsafe (character n)

theorem urlText_within {sextets : List ℕ} (small : ∀ n ∈ sextets, n < 64) :
    ∀ c ∈ urlText sextets, c ∈ urlAlphabet := by
  intro c member
  obtain ⟨n, inside, is⟩ := List.mem_map.mp member
  subst is
  exact (character_spec n (small n inside)).1

theorem sextets_urlText {sextets : List ℕ} (small : ∀ n ∈ sextets, n < 64) :
    (urlText sextets).map sextet = sextets := by
  unfold urlText
  rw [List.map_map]
  exact (List.map_congr_left fun n member => (character_spec n (small n member)).2.1).trans
    (List.map_id sextets)

theorem urlText_sextets (within : ∀ c ∈ text, c ∈ urlAlphabet) :
    urlText (text.map sextet) = text := by
  unfold urlText
  rw [List.map_map]
  exact (List.map_congr_left fun c member => (sextet_spec c (within c member)).2.1).trans
    (List.map_id text)

/-- A text of the alphabet that is padded decodes as its sextets unpack. -/
theorem urlsafeB64decode_padded (within : ∀ c ∈ text, c ∈ urlAlphabet) :
    urlsafeB64decode (text ++ List.replicate (padding text.length) '=') =
      unpack (text.map sextet) := by
  have ascii : (text ++ List.replicate (padding text.length) '=').all
      (fun c => c.toNat < 128) = true := by
    rw [List.all_eq_true]
    intro c member
    rcases List.mem_append.mp member with inside | fill
    · exact decide_eq_true (sextet_spec c (within c inside)).2.2.2.2
    · rw [List.eq_of_mem_replicate fill]
      rfl
  have characters : text.map standard = (text.map sextet).map character := by
    rw [List.map_map]
    exact List.map_congr_left fun c member => (sextet_spec c (within c member)).2.2.1
  have fill : (List.replicate (padding text.length) '=').map standard =
      List.replicate (padding (text.map sextet).length) '=' := by
    rw [List.map_replicate, List.length_map]
    rfl
  unfold urlsafeB64decode
  rw [if_pos ascii, List.map_append, characters, fill]
  exact a2bBase64_padded (sextets_lt within)

/-- The encoded text is that of the sextets, and its padding. -/
theorem urlsafeB64encode_eq : urlsafeB64encode bytes =
    urlText (pack bytes) ++ List.replicate (padding (pack bytes).length) '=' := by
  unfold urlsafeB64encode b64encode urlText
  rw [List.map_append, List.map_map, List.map_replicate, List.length_map]
  rfl

end

end Codec
