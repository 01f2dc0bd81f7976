import KestrelRunpod.Codec.Base64

/-!
# The encoding of signatures

`base64url_encode` and `base64url_decode` are unpadded URL-safe base64 over the lenient decoder
of the standard library.  The alphabet and the padding leave one spelling of every full group; a
short last group has spare bits, and nothing looks at those.  A signature has 64 bytes, so its
last group is short, and the receipt that carries it has other spellings.
-/

namespace KestrelRunpod.Invocations

open Codec

abbrev Bytes : Type := List UInt8

/-! ## The codec -/

/-- `[A-Za-z0-9_-]`. -/
def isBase64url (c : Char) : Bool :=
  'A' ≤ c && c ≤ 'Z' || 'a' ≤ c && c ≤ 'z' || '0' ≤ c && c ≤ '9' || c = '_' || c = '-'

/-- `base64url_encode`, of bytes; `rstrip` takes the padding off. -/
def base64urlEncode (value : Bytes) : String :=
  .ofList ((urlsafeB64encode value).reverse.dropWhile (· = '=')).reverse

/-- `base64url_decode`, of a string. -/
def base64urlDecode (value name : String) : Except String Bytes :=
  if value.toList = [] ∨ value.toList.all isBase64url = false ∨ '=' ∈ value.toList then
    .error (name ++ " must be unpadded base64url")
  else
    match urlsafeB64decode
        (value.toList ++ List.replicate (padding value.toList.length) '=') with
    | some bytes => .ok bytes
    | none => .error (name ++ " is not valid base64url")

/-- The spare bits of the last character are clear. -/
def Clear (value : String) : Prop := spareBits (value.toList.map sextet) = 0

instance (value : String) : Decidable (Clear value) := inferInstanceAs (Decidable (_ = _))

section

variable {value name : String} {bytes : Bytes}

theorem isBase64url_iff {c : Char} : isBase64url c = true ↔ c ∈ urlAlphabet := by
  have listed : ∀ n < 128, isBase64url (.ofNat n) = true → Char.ofNat n ∈ urlAlphabet := by
    decide +kernel
  have all : urlAlphabet.all isBase64url = true := by decide +kernel
  have matched : ∀ c ∈ urlAlphabet, isBase64url c = true := List.all_eq_true.mp all
  constructor
  · intro fits
    have ascii : c.toNat < 128 := by
      simp only [isBase64url, Bool.or_eq_true, Bool.and_eq_true, decide_eq_true_eq, Char.le_def,
        UInt32.le_iff_toNat_le] at fits
      rcases fits with (((upper | lower) | digit) | line) | dash
      · exact upper.2.trans_lt (by decide)
      · exact lower.2.trans_lt (by decide)
      · exact digit.2.trans_lt (by decide)
      · rw [line]
        decide
      · rw [dash]
        decide
    have same : Char.ofNat c.toNat = c := Char.ofNat_toNat c
    rw [← same] at fits ⊢
    exact listed c.toNat ascii fits
  · exact matched c

/-- What is decoded are the bytes of the sextets of a text in the alphabet. -/
theorem base64urlDecode_ok : base64urlDecode value name = .ok bytes ↔
    value.toList ≠ [] ∧ (∀ c ∈ value.toList, c ∈ urlAlphabet) ∧
      unpack (value.toList.map sextet) = some bytes := by
  unfold base64urlDecode
  by_cases within : ∀ c ∈ value.toList, c ∈ urlAlphabet
  · have all : value.toList.all isBase64url = true := by
      rw [List.all_eq_true]
      intro c member
      exact isBase64url_iff.mpr (within c member)
    have unpadded : '=' ∉ value.toList := by
      intro member
      exact (sextet_spec '=' (within '=' member)).2.2.2.1 rfl
    rw [urlsafeB64decode_padded within]
    by_cases empty : value.toList = []
    · simp [empty]
    · rw [if_neg (by simp [empty, all, unpadded])]
      cases unpack (value.toList.map sextet) with
      | none => simp
      | some bytes' =>
          rw [Except.ok.injEq, Option.some.injEq]
          exact ⟨fun same => ⟨empty, within, same⟩, fun all => all.2.2⟩
  · have other : value.toList.all isBase64url = false := by
      rw [Bool.eq_false_iff]
      intro all
      rw [List.all_eq_true] at all
      exact within fun c member => isBase64url_iff.mp (all c member)
    rw [if_pos (.inr (.inl other))]
    simp [within]

/-- The encoded text, without its padding. -/
theorem base64urlEncode_toList : (base64urlEncode bytes).toList = urlText (pack bytes) := by
  have bare : ∀ c ∈ (urlText (pack bytes)).reverse.head?, decide (c = '=') = false := by
    intro c first
    have member : c ∈ urlText (pack bytes) := List.mem_reverse.mp (List.mem_of_mem_head? first)
    exact decide_eq_false (sextet_spec c (urlText_within (pack_lt bytes) c member)).2.2.2.1
  have kept : (urlText (pack bytes)).reverse.dropWhile (fun c => decide (c = '=')) =
      (urlText (pack bytes)).reverse := by
    cases reversed : (urlText (pack bytes)).reverse with
    | nil => rfl
    | cons c rest =>
        rw [reversed] at bare
        exact List.dropWhile_cons_of_neg (by simp [bare c rfl])
  have fill : ∀ c ∈ List.replicate (padding (pack bytes).length) '=',
      decide (c = '=') = true := by
    intro c member
    rw [List.eq_of_mem_replicate member]
    rfl
  unfold base64urlEncode
  rw [String.toList_ofList, urlsafeB64encode_eq, List.reverse_append, List.reverse_replicate,
    List.dropWhile_append_of_pos fill, kept, List.reverse_reverse]

/-- The encoding of bytes is this text just where it packs to its sextets. -/
theorem base64urlEncode_eq_iff (within : ∀ c ∈ value.toList, c ∈ urlAlphabet) :
    base64urlEncode bytes = value ↔ pack bytes = value.toList.map sextet := by
  rw [← String.toList_inj, base64urlEncode_toList]
  constructor
  · intro same
    rw [← same, sextets_urlText (pack_lt bytes)]
  · intro same
    rw [same, urlText_sextets within]

/-- What is encoded decodes. -/
theorem base64urlDecode_encode (some_ : bytes ≠ []) :
    base64urlDecode (base64urlEncode bytes) name = .ok bytes := by
  rw [base64urlDecode_ok, base64urlEncode_toList, sextets_urlText (pack_lt bytes)]
  have written : urlText (pack bytes) ≠ [] := by
    intro empty
    have packed : pack bytes = [] := List.map_eq_nil_iff.mp empty
    have unpacks := unpack_pack bytes
    rw [packed] at unpacks
    cases unpacks
    exact some_ rfl
  exact ⟨written, urlText_within (pack_lt bytes), unpack_pack bytes⟩

/-- What is decoded is encoded again just where its spare bits are clear. -/
theorem encode_decoded_iff (decoded : base64urlDecode value name = .ok bytes) :
    base64urlEncode bytes = value ↔ Clear value := by
  obtain ⟨_, within, unpacks⟩ := base64urlDecode_ok.mp decoded
  rw [base64urlEncode_eq_iff within]
  exact pack_eq_iff (sextets_lt within) unpacks

/-- A text is the only one of its bytes just where its last group is full. -/
theorem sole_text_iff (decoded : base64urlDecode value name = .ok bytes) :
    (∀ other, base64urlDecode other name = .ok bytes → other = value) ↔
      value.toList.length % 4 = 0 := by
  obtain ⟨written, within, unpacks⟩ := base64urlDecode_ok.mp decoded
  have full := sole_iff (sextets_lt within) unpacks
  rw [List.length_map] at full
  rw [← full]
  constructor
  · intro sole others small unpacks'
    have text : (String.ofList (urlText others)).toList = urlText others := String.toList_ofList
    have named : urlText others ≠ [] := by
      intro empty
      have none_ : others = [] := List.map_eq_nil_iff.mp empty
      have length := unpack_length unpacks
      have length' := unpack_length unpacks'
      have several := List.length_pos_iff.mpr written
      have readable : (value.toList.map sextet).length % 4 ≠ 1 := by
        intro single
        have missing := unpack_eq_none.mpr single
        rw [unpacks] at missing
        cases missing
      rw [none_, List.length_nil] at length'
      rw [List.length_map] at length readable
      omega
    have decoded' : base64urlDecode (.ofList (urlText others)) name = .ok bytes := by
      rw [base64urlDecode_ok, text, sextets_urlText small]
      exact ⟨named, urlText_within small, unpacks'⟩
    have same := sole _ decoded'
    rw [← same, text, sextets_urlText small]
  · intro sole other decoded'
    obtain ⟨_, within', unpacks'⟩ := base64urlDecode_ok.mp decoded'
    have same := sole _ (sextets_lt within') unpacks'
    rw [← String.toList_inj, ← urlText_sextets within, ← urlText_sextets within', same]

end

/-! ## Receipts -/

/-- The part of `ServerInvokeReceipt.__post_init__` that reads the signature. -/
def receiptSignature (signatureB64 : String) : Except String Bytes := do
  let signature ← base64urlDecode signatureB64 "invocation receipt signature"
  if signature.length ≠ 64 then .error "invocation receipt signature must contain 64 bytes"
  else .ok signature

/-- What `load_der_public_key` makes of bytes. -/
inductive DerKey (K : Type)
  | ed25519 (key : K)
  | other
  | raised (text : String)

section

variable {K : Type} (load : Bytes → DerKey K) (valid : K → Bytes → Bytes → Bool)
  (publicKeySpkiB64 : String) (message : Bytes)

/-- The part of `verify` that checks the signature of the message. -/
def verifySignature (signatureB64 : String) : Except String Unit := do
  let encodedKey ← base64urlDecode publicKeySpkiB64 "receipt trust public key"
  match load encodedKey with
  | .raised text => .error text
  | .other => .error "pinned receipt key is not Ed25519"
  | .ed25519 key =>
      let signature ← base64urlDecode signatureB64 "invocation receipt signature"
      if valid key signature message then .ok ()
      else .error "invocation receipt signature is invalid"

/-- A receipt of the message with this signature is built, and verified under the key. -/
def Verified (signatureB64 : String) : Prop :=
  (receiptSignature signatureB64).isOk = true ∧
    (verifySignature load valid publicKeySpkiB64 message signatureB64).isOk = true

end

/-- A signature that is accepted has another text. -/
theorem receiptSignature_other {signatureB64 : String} {signature : Bytes}
    (accepted : receiptSignature signatureB64 = .ok signature) :
    ∃ other, other ≠ signatureB64 ∧
      base64urlDecode signatureB64 "invocation receipt signature" = .ok signature ∧
      base64urlDecode other "invocation receipt signature" = .ok signature := by
  unfold receiptSignature at accepted
  cases decoded : base64urlDecode signatureB64 "invocation receipt signature" with
  | error text =>
      rw [decoded] at accepted
      cases accepted
  | ok bytes =>
      rw [decoded] at accepted
      simp only [bind, Except.bind] at accepted
      split at accepted
      · cases accepted
      rename_i long
      cases accepted
      obtain ⟨_, _, unpacks⟩ := base64urlDecode_ok.mp decoded
      have length := unpack_length unpacks
      rw [List.length_map] at length
      have short : ¬ signatureB64.toList.length % 4 = 0 := by omega
      rw [← sole_text_iff decoded] at short
      push Not at short
      obtain ⟨other, decoded', differs⟩ := short
      exact ⟨other, differs, rfl, decoded'⟩

/-- A receipt that is verified is verified with another signature text too. -/
theorem Verified.other {K : Type} {load : Bytes → DerKey K} {valid : K → Bytes → Bytes → Bool}
    {publicKeySpkiB64 signatureB64 : String} {message : Bytes}
    (verified : Verified load valid publicKeySpkiB64 message signatureB64) :
    ∃ other, other ≠ signatureB64 ∧ Verified load valid publicKeySpkiB64 message other := by
  obtain ⟨built, checked⟩ := verified
  cases accepted : receiptSignature signatureB64 with
  | error text =>
      rw [accepted] at built
      cases built
  | ok signature =>
      obtain ⟨other, differs, decoded, decoded'⟩ := receiptSignature_other accepted
      have built' : receiptSignature other = receiptSignature signatureB64 := by
        unfold receiptSignature
        rw [decoded, decoded']
      have checked' : verifySignature load valid publicKeySpkiB64 message other =
          verifySignature load valid publicKeySpkiB64 message signatureB64 := by
        unfold verifySignature
        rw [decoded, decoded']
      exact ⟨other, differs, by rw [built', accepted]; rfl, by rw [checked']; exact checked⟩

/-- Bytes are read back from their text.  An accepted text is the text of its bytes just where its
spare bits are clear, and the only one of them just where its last group is full; a receipt that
is verified never has the only one. -/
theorem base64url_canonical_iff (value name : String) (bytes : Bytes) :
    (bytes ≠ [] → base64urlDecode (base64urlEncode bytes) name = .ok bytes) ∧
    (base64urlDecode value name = .ok bytes →
      (base64urlEncode bytes = value ↔ Clear value) ∧
      ((∀ other, base64urlDecode other name = .ok bytes → other = value) ↔
        value.toList.length % 4 = 0)) ∧
    ∀ (K : Type) (load : Bytes → DerKey K) valid publicKeySpkiB64 message,
      Verified load valid publicKeySpkiB64 message value →
      ∃ other, other ≠ value ∧ Verified load valid publicKeySpkiB64 message other := by
  refine ⟨fun present => base64urlDecode_encode present, fun decoded => ?_, ?_⟩
  · exact ⟨encode_decoded_iff decoded, sole_text_iff decoded⟩
  · intro K load valid publicKeySpkiB64 message verified
    exact verified.other

/-- One byte, a text of it with spare bits, and a signature of zeros. -/
theorem base64url_canonical_iff_zero :
    base64urlDecode (base64urlEncode [0]) "signed value" = .ok [0] ∧
    (base64urlEncode [0] = "AB" ↔ Clear "AB") ∧
    ((∀ other, base64urlDecode other "signed value" = .ok [0, 0, 0] → other = "AAAA") ↔
      "AAAA".toList.length % 4 = 0) ∧
    ∃ other, other ≠ .ofList (List.replicate 86 'A') ∧
      Verified (fun _ => .ed25519 ()) (fun _ _ _ => true) "AAAA" [] other := by
  have decoded : base64urlDecode "AB" "signed value" = .ok [0] := by decide +kernel
  have decoded' : base64urlDecode "AAAA" "signed value" = .ok [0, 0, 0] := by decide +kernel
  have verified : Verified (fun _ => .ed25519 ()) (fun _ _ _ => true) "AAAA" []
      (.ofList (List.replicate 86 'A')) := by
    constructor
    · decide +kernel
    · decide +kernel
  obtain ⟨encoded, canonical, _⟩ := base64url_canonical_iff "AB" "signed value" [0]
  obtain ⟨_, canonical', _⟩ := base64url_canonical_iff "AAAA" "signed value" [0, 0, 0]
  obtain ⟨_, _, receipts⟩ := base64url_canonical_iff (.ofList (List.replicate 86 'A')) "" []
  exact ⟨encoded (by decide), (canonical decoded).1, (canonical' decoded').2,
    receipts Unit _ _ _ _ verified⟩

/-- A text with spare bits is accepted, and is not the text of its bytes. -/
theorem spare_bits_accepted :
    ¬ ∀ value name bytes, base64urlDecode value name = .ok bytes →
      base64urlEncode bytes = value := by
  intro canonical
  have decoded : base64urlDecode "AB" "signed value" = .ok [0] := by decide +kernel
  exact absurd (canonical _ _ _ decoded) (by decide +kernel)

end KestrelRunpod.Invocations
