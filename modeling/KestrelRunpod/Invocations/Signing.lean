import KestrelRunpod.Invocations.Receipts

/-!
# Signing and verifying

`InvokeReceiptSigner.sign` and `InvokeReceiptVerifier.verify` over the canonical text of the
signed payload.  Ed25519 with its key encodings is a parameter (`Ed25519`), with what its
documentation says of it.

What a signer makes is read back and verified (`signed_receipts_verify`); what is verified was
issued with all of its signed fields, under the one pinned trust that it matches
(`verified_receipts_were_issued`).
-/

namespace KestrelRunpod.Invocations

open Codec
open Serverless (ParsedTime calendarMin calendarMax)
open Traverse (check_bind_ok except_bind_ok forM_ok_iff)

/-! ## Bytes -/

/-- `canonical_json`. -/
def canonicalJson (value : Json) : Except String Text :=
  if value.isFinite then .ok (dumps value) else .error "signed value is not canonical JSON"

/-- `encode`, of characters. -/
def encode (text : Text) : Bytes := (String.ofList text).toUTF8.data.toList

/-- A code point that a character has. -/
def isScalar (p : ℕ) : Bool := p < 0xD800 || 0xDFFF < p && p < 0x110000

/-- `encode`, of a string. -/
def utf8 (value : Str) : Except String Bytes :=
  if value.all isScalar then .ok (encode (value.map Char.ofNat))
  else .error "signed text must be encodable UTF-8"

/-- `utf8_sha256`. -/
def utf8Sha256 (texts : ReceiptTexts) (value : Str) : Except String Str :=
  (utf8 value).map texts.sha256

/-- What is signed. -/
def SignedFields.message (texts : ReceiptTexts) (f : SignedFields) : Except String Bytes := do
  let payload ← f.signedPayload texts
  let text ← canonicalJson payload
  .ok (encode text)

/-! ## Keys -/

/-- The signature scheme, and what is read of the encodings of its keys. -/
structure Ed25519 (S K : Type) where
  publicKey : S → K
  publicDer : K → Bytes
  loadPublic : Bytes → DerKey K
  loadPrivate : Bytes → DerKey S
  sign : S → Bytes → Bytes
  valid : K → Bytes → Bytes → Bool
  sign_length : ∀ key message, (sign key message).length = 64
  publicDer_some : ∀ key, publicDer key ≠ []
  loadPublic_publicDer : ∀ key, loadPublic (publicDer key) = .ed25519 key
  valid_sign : ∀ key message, valid (publicKey key) (sign key message) message = true

/-- `public_key_spki_b64` and the identity that it is pinned to. -/
structure TrustFields where
  target : Str
  route : Str
  keyId : Str
  publicKeySpkiB64 : Str
  publicKeySha256 : Str
  ownerBindingSha256 : Str
  companionId : Str
  agentId : Str
  deriving DecidableEq

section

variable {S K : Type} (texts : ReceiptTexts) (ed : Ed25519 S K)

/-- `ReceiptTrust.__post_init__`. -/
def TrustFields.check (t : TrustFields) : Except String Unit := do
  safeIdentifier "receipt trust target" t.target
  relativeRoute "receipt trust route" t.route
  [("key_id", t.keyId), ("companion_id", t.companionId), ("agent_id", t.agentId)].forM
    fun named => safeIdentifier ("receipt trust " ++ named.1) named.2
  [("public_key_sha256", t.publicKeySha256),
    ("owner_binding_sha256", t.ownerBindingSha256)].forM
    fun named => sha256Digest ("receipt trust " ++ named.1) named.2
  let encoded ← base64urlDecode t.publicKeySpkiB64.text "receipt trust public key"
  refuse (texts.sha256 encoded ≠ t.publicKeySha256) "receipt trust public key digest differs"
  match ed.loadPublic encoded with
  | .raised _ => .error "receipt trust public key is invalid DER"
  | .other => .error "receipt trust key must be Ed25519"
  | .ed25519 _ => .ok ()

/-- `ReceiptTrust`. -/
structure ReceiptTrust extends TrustFields where
  checked : toTrustFields.check texts ed = .ok ()

/-- `InvokeReceiptVerifier`. -/
structure Verifier where
  trusts : List (ReceiptTrust texts ed)
  present : trusts ≠ []
  distinct : (trusts.map fun trust => trust.target).Nodup

/-- `InvokeReceiptVerifier.__init__`. -/
def Verifier.build (trusts : List (ReceiptTrust texts ed)) : Except String (Verifier texts ed) :=
  if present : trusts = [] then .error "receipt verifier trust set is invalid"
  else if distinct : (trusts.map fun trust => trust.target).Nodup then
    .ok ⟨trusts, present, distinct⟩
  else .error "receipt verifier targets must be unique"

/-- What a caller of `verify` knows of the run. -/
structure Bindings where
  runId : Str
  phase : Str
  requestId : Str
  inputText : Str
  operationDigest : Option Str
  quoteDigest : Option Str
  resourcePlanDigest : Option Str

variable {texts ed}

/-- The receipt names the route, the identities and the key of the trust. -/
def Receipt.isOf (r : Receipt texts) (trust : ReceiptTrust texts ed) : Bool :=
  r.route = trust.route && r.ownerBindingSha256 = trust.ownerBindingSha256 &&
    r.companionId = trust.companionId && r.agentId = trust.agentId && r.keyId = trust.keyId &&
    r.publicKeySha256 = trust.publicKeySha256

/-- `verify`, from the trust that the receipt matches on. -/
def Receipt.verifyUnder (r : Receipt texts) (b : Bindings) (trust : ReceiptTrust texts ed) :
    Except String Str := do
  [("run_id", b.runId), ("phase", b.phase), ("request_id", b.requestId)].forM fun named =>
    safeIdentifier ("invocation verification " ++ named.1) named.2
  refuse (r.runId ≠ b.runId ∨ r.phase ≠ b.phase ∨ r.requestId ≠ b.requestId)
    "invocation receipt is not bound to the exact run, route, or request"
  let inputSha256 ← utf8Sha256 texts b.inputText
  refuse (r.inputSha256 ≠ inputSha256 ∨ r.operationDigest ≠ b.operationDigest ∨
      r.quoteDigest ≠ b.quoteDigest ∨ r.resourcePlanDigest ≠ b.resourcePlanDigest)
    "invocation receipt is not bound to the exact run, route, or request"
  let message ← r.message texts
  verifySignature ed.loadPublic ed.valid trust.publicKeySpkiB64.text message r.signatureB64.text
  .ok trust.target

/-- `verify`. -/
def Verifier.verify (v : Verifier texts ed) (r : Receipt texts) (b : Bindings) :
    Except String Str :=
  match v.trusts.filter r.isOf with
  | [trust] => r.verifyUnder b trust
  | _ => .error "invocation receipt does not identify one pinned execution target"

variable (texts ed)

/-- `InvokeReceiptSigner`. -/
structure Signer where
  key : S
  keyId : Str
  safe : isSafeIdentifier keyId = true

/-- `InvokeReceiptSigner.__init__`. -/
def Signer.build (privateKeyPkcs8B64 keyId : Str) : Except String (Signer (S := S)) :=
  if safe : isSafeIdentifier keyId = true then do
    let encoded ←
      base64urlDecode privateKeyPkcs8B64.text "invocation receipt signer private key"
    match ed.loadPrivate encoded with
    | .raised _ => .error "invocation receipt signer private key is invalid DER"
    | .other => .error "invocation receipt signer key must be Ed25519"
    | .ed25519 key => .ok ⟨key, keyId, safe⟩
  else .error "invocation receipt signer key_id must be a safe identifier"

/-- `public_key_sha256` of a signer. -/
def Signer.publicKeySha256 (s : Signer (S := S)) : Str :=
  texts.sha256 (ed.publicDer (ed.publicKey s.key))

/-- `sign`. -/
def Signer.sign (s : Signer (S := S)) : Json → Except String (Receipt texts)
  | .object entries => do
      let unsigned ← Receipt.fromPayload texts (envelope invocationReceiptContract
        (.object entries) invocationReceiptSignatureAlgorithm s.keyId
        (s.publicKeySha256 texts ed) (str (base64urlEncode (List.replicate 64 0))))
      let normalized ← unsigned.signedPayload texts
      let text ← canonicalJson normalized
      let signature := base64urlEncode (ed.sign s.key (encode text))
      Receipt.fromPayload texts (envelope invocationReceiptContract normalized
        invocationReceiptSignatureAlgorithm s.keyId (s.publicKeySha256 texts ed) (str signature))
  | _ => .error "invocation receipt payload must be a mapping"

end

/-! ## The message -/

section

variable {texts : ReceiptTexts} {r other : Receipt texts} {text : Text} {message : Bytes}

theorem encode_injective {a b : Text} (same : encode a = encode b) : a = b := by
  unfold encode at same
  have bytes : (String.ofList a).toByteArray = (String.ofList b).toByteArray :=
    ByteArray.ext (Array.toList_inj.mp same)
  exact String.ofList_injective (String.toByteArray_inj.mp bytes)

theorem Receipt.statement_plain (r : Receipt texts) : (Json.object r.statement).Plain :=
  r.sound.plain

theorem Receipt.message_eq (r : Receipt texts) :
    r.message texts = .ok (encode (dumps (.object r.statement))) := by
  unfold SignedFields.message canonicalJson
  rw [r.signedPayload_eq]
  exact congrArg (Except.map encode) (if_pos r.statement_plain.isFinite)

theorem optionalJson_sorted (value : Option Str) :
    (optionalJson value).sorted = optionalJson value := by
  cases value with
  | none => rw [optionalJson, Json.sorted] <;> simp
  | some value => rw [optionalJson, Json.sorted] <;> simp

theorem optionalJson_injective {a b : Option Str} (same : optionalJson a = optionalJson b) :
    a = b := by
  cases a <;> cases b <;> simp_all [optionalJson]

theorem intText_injective {a b : ℤ} (same : intText a = intText b) : a = b := by
  have read := readInt_intText a
  rw [same, readInt_intText] at read
  exact (Option.some.inj read).symm

theorem isoFormat_injective {a b : Instant} (dated : calendarMin ≤ a ∧ a ≤ calendarMax)
    (dated' : calendarMin ≤ b ∧ b ≤ calendarMax) (same : texts.isoFormat a = texts.isoFormat b) :
    a = b := by
  have read := texts.isoFormat_reads a dated.1 dated.2
  rw [same, texts.isoFormat_reads b dated'.1 dated'.2] at read
  exact (ParsedTime.aware.inj read).symm

theorem sorted_string (points : Str) : (Json.string points).sorted = .string points := by
  rw [Json.sorted] <;> simp

theorem sorted_number (literal : Text) : (Json.number literal).sorted = .number literal := by
  rw [Json.sorted] <;> simp

/-- Receipts with one message have the same value of every key. -/
theorem lookup_of_message (same : r.message texts = other.message texts) (key : String)
    {value value' : Json} (found : lookup r.statement key = some value)
    (found' : lookup other.statement key = some value') : value.sorted = value'.sorted := by
  rw [r.message_eq, other.message_eq, Except.ok.injEq] at same
  obtain ⟨value'', is, alike⟩ :=
    valueOf_of_dumps r.statement_plain other.statement_plain (encode_injective same) found
  have once : value'' = value' := Option.some.inj (is.symm.trans found')
  rw [← alike, once]

/-- Receipts have one message just where they agree in every signed field. -/
theorem message_eq_iff : r.message texts = other.message texts ↔
    r.toSignedFields = other.toSignedFields := by
  constructor
  · intro same
    have text : ∀ (key : String) {a b : Str}, lookup r.statement key = some (.string a) →
        lookup other.statement key = some (.string b) → a = b := by
      intro key a b found found'
      have alike := lookup_of_message same key found found'
      rw [sorted_string, sorted_string, Json.string.injEq] at alike
      exact alike
    have option : ∀ (key : String) {a b : Option Str},
        lookup r.statement key = some (optionalJson a) →
        lookup other.statement key = some (optionalJson b) → a = b := by
      intro key a b found found'
      have alike := lookup_of_message same key found found'
      rw [optionalJson_sorted, optionalJson_sorted] at alike
      exact optionalJson_injective alike
    have number : r.elapsedMs = other.elapsedMs := by
      have alike := lookup_of_message same "elapsed_ms" rfl rfl
      rw [sorted_number, sorted_number, Json.number.injEq] at alike
      exact intText_injective alike
    have dated := r.sound.dated
    have dated' := other.sound.dated
    simp only [List.forall_mem_cons] at dated dated'
    obtain ⟨started, completed, issued, -⟩ := dated
    obtain ⟨started', completed', issued', -⟩ := dated'
    apply SignedFields.ext
    · exact text "receipt_id" rfl rfl
    · exact text "run_id" rfl rfl
    · exact text "phase" rfl rfl
    · exact text "route" rfl rfl
    · exact text "request_id" rfl rfl
    · exact text "owner_binding_sha256" rfl rfl
    · exact text "companion_id" rfl rfl
    · exact text "agent_id" rfl rfl
    · exact text "input_sha256" rfl rfl
    · exact text "response_sha256" rfl rfl
    · exact text "transport" rfl rfl
    · exact option "model" rfl rfl
    · exact option "provider" rfl rfl
    · exact option "session_id" rfl rfl
    · exact option "operation_digest" rfl rfl
    · exact option "quote_digest" rfl rfl
    · exact option "resource_plan_digest" rfl rfl
    · exact text "evidence_digest" rfl rfl
    · exact isoFormat_injective started started' (text "started_at" rfl rfl)
    · exact isoFormat_injective completed completed' (text "completed_at" rfl rfl)
    · exact number
    · exact isoFormat_injective issued issued' (text "issued_at" rfl rfl)
  · intro same
    rw [same]

end

/-! ## What is signed -/

section

variable {S K : Type} {texts : ReceiptTexts} {ed : Ed25519 S K} {s : Signer (S := S)}
  {r : Receipt texts} {payload : Json}

/-- Characters are read off their code points. -/
theorem map_ofNat_toNat (text : Text) : (text.map Char.toNat).map Char.ofNat = text := by
  have same : (Char.ofNat ∘ Char.toNat) = id := by
    funext c
    exact Char.ofNat_toNat c
  rw [List.map_map, same, List.map_id]

/-- The characters of a literal. -/
theorem text_str (text : String) : (str text).text = text := by
  unfold Str.text str
  rw [map_ofNat_toNat, String.ofList_toList]

/-- A receipt that is signed names the signer, and carries its signature of the message. -/
theorem sign_ok (signed : s.sign texts ed payload = .ok r) :
    r.keyId = s.keyId ∧ r.publicKeySha256 = s.publicKeySha256 texts ed ∧
      ∃ message, r.message texts = .ok message ∧
        r.signatureB64 = str (base64urlEncode (ed.sign s.key message)) := by
  unfold Signer.sign at signed
  split at signed
  · rename_i entries
    obtain ⟨unsigned, -, signed⟩ := except_bind_ok.mp signed
    obtain ⟨normalized, paid, signed⟩ := except_bind_ok.mp signed
    obtain ⟨text, written, signed⟩ := except_bind_ok.mp signed
    have statement := unsigned.signedPayload_eq
    rw [statement] at paid
    cases paid
    have message := unsigned.message_eq
    rw [canonicalJson, if_pos unsigned.statement_plain.isFinite] at written
    cases written
    have fields := fromPayload_statement signed
    refine ⟨by rw [fields], by rw [fields], encode (dumps (.object unsigned.statement)), ?_,
      by rw [fields]⟩
    rw [fields]
    exact message
  · cases signed

end

/-! ## What is verified -/

section

variable {S K : Type} {texts : ReceiptTexts} {ed : Ed25519 S K} {s : Signer (S := S)}
  {r : Receipt texts} {b : Bindings} {trust : ReceiptTrust texts ed} {v : Verifier texts ed}
  {payload : Json} {target : Str}

/-- A signature that is valid under the key of an encoding. -/
theorem verifySignature_ok {load : Bytes → DerKey K} {valid : K → Bytes → Bytes → Bool}
    {publicKeySpkiB64 signatureB64 : String} {message : Bytes} :
    verifySignature load valid publicKeySpkiB64 message signatureB64 = .ok () ↔
      ∃ encoded key signature,
        base64urlDecode publicKeySpkiB64 "receipt trust public key" = .ok encoded ∧
        load encoded = .ed25519 key ∧
        base64urlDecode signatureB64 "invocation receipt signature" = .ok signature ∧
        valid key signature message = true := by
  unfold verifySignature
  constructor
  · intro verified
    obtain ⟨encoded, decoded, verified⟩ := except_bind_ok.mp verified
    split at verified
    · cases verified
    · cases verified
    · rename_i key loaded
      obtain ⟨signature, decoded', verified⟩ := except_bind_ok.mp verified
      split at verified
      · rename_i holds
        exact ⟨encoded, key, signature, decoded, loaded, decoded', holds⟩
      · cases verified
  · rintro ⟨encoded, key, signature, decoded, loaded, decoded', holds⟩
    rw [decoded]
    refine except_bind_ok.mpr ⟨encoded, rfl, ?_⟩
    simp only [loaded, decoded']
    exact if_pos holds

/-- The receipt is of the caller's run, phase, request, input and digests. -/
structure Receipt.BoundTo (r : Receipt texts) (b : Bindings) : Prop where
  runId : r.runId = b.runId
  phase : r.phase = b.phase
  requestId : r.requestId = b.requestId
  input : utf8Sha256 texts b.inputText = .ok r.inputSha256
  operationDigest : r.operationDigest = b.operationDigest
  quoteDigest : r.quoteDigest = b.quoteDigest
  resourcePlanDigest : r.resourcePlanDigest = b.resourcePlanDigest

/-- The receipt carries a signature of its message under the pinned key. -/
def Receipt.SignedUnder (r : Receipt texts) (trust : ReceiptTrust texts ed) : Prop :=
  ∃ message, r.message texts = .ok message ∧
    verifySignature ed.loadPublic ed.valid trust.publicKeySpkiB64.text message
      r.signatureB64.text = .ok ()

theorem verifyUnder_ok : r.verifyUnder b trust = .ok target ↔
    r.BoundTo b ∧ r.SignedUnder trust ∧ trust.target = target := by
  unfold Receipt.verifyUnder
  constructor
  · intro verified
    obtain ⟨-, verified⟩ := check_bind_ok.mp verified
    obtain ⟨named, verified⟩ := check_bind_ok.mp verified
    obtain ⟨inputSha256, input, verified⟩ := except_bind_ok.mp verified
    obtain ⟨digests, verified⟩ := check_bind_ok.mp verified
    obtain ⟨message, is, verified⟩ := except_bind_ok.mp verified
    obtain ⟨signed, verified⟩ := check_bind_ok.mp verified
    rw [refuse_ok] at named digests
    push Not at named digests
    obtain ⟨runId, phase, requestId⟩ := named
    obtain ⟨same, operation, quote, plan⟩ := digests
    rw [← same] at input
    exact ⟨⟨runId, phase, requestId, input, operation, quote, plan⟩, ⟨message, is, signed⟩,
      Except.ok.inj verified⟩
  · rintro ⟨bound, ⟨message, is, signed⟩, rfl⟩
    have identifiers := r.sound.identifiers
    simp only [List.forall_mem_cons] at identifiers
    obtain ⟨-, runId, phase, requestId, -⟩ := identifiers
    rw [bound.runId] at runId
    rw [bound.phase] at phase
    rw [bound.requestId] at requestId
    refine check_bind_ok.mpr ⟨?_, check_bind_ok.mpr ⟨?_, except_bind_ok.mpr
      ⟨r.inputSha256, bound.input, check_bind_ok.mpr ⟨?_, except_bind_ok.mpr
        ⟨message, is, check_bind_ok.mpr ⟨signed, rfl⟩⟩⟩⟩⟩⟩
    · rw [forM_ok_iff]
      simp only [List.forall_mem_cons, safeIdentifier_ok]
      exact ⟨runId, phase, requestId, fun _ member => absurd member List.not_mem_nil⟩
    · rw [refuse_ok]
      push Not
      exact ⟨bound.runId, bound.phase, bound.requestId⟩
    · rw [refuse_ok]
      push Not
      exact ⟨rfl, bound.operationDigest, bound.quoteDigest, bound.resourcePlanDigest⟩

/-- What is verified is of exactly one pinned trust, and bound and signed under it. -/
theorem verify_ok : v.verify r b = .ok target ↔ ∃ trust, v.trusts.filter r.isOf = [trust] ∧
    r.BoundTo b ∧ r.SignedUnder trust ∧ trust.target = target := by
  unfold Verifier.verify
  constructor
  · intro verified
    split at verified
    · rename_i trust sole
      exact ⟨trust, sole, verifyUnder_ok.mp verified⟩
    · cases verified
  · rintro ⟨trust, sole, verified⟩
    rw [sole]
    exact verifyUnder_ok.mpr verified

/-- The key that a trust pins. -/
theorem ReceiptTrust.pinned (trust : ReceiptTrust texts ed) : ∃ encoded key,
    base64urlDecode trust.publicKeySpkiB64.text "receipt trust public key" = .ok encoded ∧
      ed.loadPublic encoded = .ed25519 key ∧ texts.sha256 encoded = trust.publicKeySha256 := by
  have checked := trust.checked
  unfold TrustFields.check at checked
  obtain ⟨-, checked⟩ := check_bind_ok.mp checked
  obtain ⟨-, checked⟩ := check_bind_ok.mp checked
  obtain ⟨-, checked⟩ := check_bind_ok.mp checked
  obtain ⟨-, checked⟩ := check_bind_ok.mp checked
  obtain ⟨encoded, decoded, checked⟩ := except_bind_ok.mp checked
  obtain ⟨digest, checked⟩ := check_bind_ok.mp checked
  rw [refuse_ok, not_not] at digest
  split at checked
  · cases checked
  · cases checked
  · rename_i key loaded
    exact ⟨encoded, key, decoded, loaded, digest⟩

theorem Receipt.isOf_key (of : r.isOf trust = true) :
    r.publicKeySha256 = trust.publicKeySha256 := by
  simp only [Receipt.isOf, Bool.and_eq_true, decide_eq_true_eq] at of
  exact of.2

theorem isOf_sole (sole : v.trusts.filter r.isOf = [trust]) :
    trust ∈ v.trusts ∧ r.isOf trust = true :=
  List.mem_filter.mp (sole ▸ List.mem_singleton_self trust)

/-- No two of the encodings have one SHA-256. -/
def Uncollided (texts : ReceiptTexts) (a b : Bytes) : Prop :=
  texts.hexdigest a = texts.hexdigest b → a = b

theorem sha256_injective {a b : Bytes} (apart : Uncollided texts a b)
    (same : texts.sha256 a = texts.sha256 b) : a = b :=
  apart (List.append_cancel_left same)

/-- What a signer signs is signed under a trust that pins its key. -/
theorem signedUnder_of_sign (signed : s.sign texts ed payload = .ok r)
    (of : r.isOf trust = true)
    (apart : ∀ encoded,
      base64urlDecode trust.publicKeySpkiB64.text "receipt trust public key" = .ok encoded →
        Uncollided texts encoded (ed.publicDer (ed.publicKey s.key))) :
    r.SignedUnder trust := by
  obtain ⟨-, named, message, is, signature⟩ := sign_ok signed
  obtain ⟨encoded, key, decoded, loaded, digest⟩ := trust.pinned
  have same : encoded = ed.publicDer (ed.publicKey s.key) := by
    refine sha256_injective (apart encoded decoded) ?_
    rw [digest, ← Receipt.isOf_key of, named]
    rfl
  have own : key = ed.publicKey s.key := by
    rw [same, ed.loadPublic_publicDer] at loaded
    exact (DerKey.ed25519.inj loaded).symm
  have some_ : ed.sign s.key message ≠ [] := by
    intro none_
    have length := ed.sign_length s.key message
    rw [none_] at length
    cases length
  refine ⟨message, is, verifySignature_ok.mpr ⟨encoded, key, ed.sign s.key message, decoded, loaded,
    ?_, ?_⟩⟩
  · rw [signature, text_str]
    exact base64urlDecode_encode some_
  · rw [own]
    exact ed.valid_sign s.key message

/-- A signed receipt is read back from its payload, and verified as its one pinned target, whatever
else is pinned. -/
theorem signed_receipts_verify (signed : s.sign texts ed payload = .ok r) :
    (∃ written, r.toPayload = .ok written ∧ Receipt.fromPayload texts written = .ok r) ∧
    ∀ (v : Verifier texts ed) trust b, v.trusts.filter r.isOf = [trust] → r.BoundTo b →
      (∀ encoded,
        base64urlDecode trust.publicKeySpkiB64.text "receipt trust public key" = .ok encoded →
          Uncollided texts encoded (ed.publicDer (ed.publicKey s.key))) →
      v.verify r b = .ok trust.target := by
  refine ⟨r.round_trip, fun v trust b sole bound apart => ?_⟩
  exact verify_ok.mpr ⟨trust, sole, bound, signedUnder_of_sign signed (isOf_sole sole).2 apart, rfl⟩

end

/-! ### A sample receipt -/

namespace Sample

/-- The SHA-256 of the public key. -/
def keyHex : Str := str "06e3fd8fda29bb60ab59557de61edb0aecdb231134be30e75b455f8e1b792fa9"

/-- The SHA-256 of `hello`. -/
def helloHex : Str := str "2cf24dba5fb0a30e26e83b2ac5b9e29e1b161e5c1fa7425e73043362938b9824"

/-- The SHA-256 of `hi`. -/
def hiHex : Str := str "8f434346648f6b96df89dda901c5176b10a6d83961dd3c1ac88b59b2dc327aa4"

def evidenceEntries : List (Str × Json) := [(str "phase", .string (str "invoke"))]

/-- The SHA-256 of the evidence's text. -/
def evidenceHex : Str := str "3d65ae22cd4319fd65d6a7d91f2f565177774665a37c25ac0fafeb692b66a5ce"

def publicDer : Bytes :=
  [48, 42, 48, 5, 6, 3, 43, 101, 112, 3, 33, 0, 215, 90, 152, 1, 130, 177, 10, 183, 213, 75, 254,
    211, 201, 100, 7, 58, 14, 225, 114, 243, 218, 166, 35, 37, 175, 2, 26, 104, 247, 7, 81, 26]

/-- The signature of the sample's message. -/
def signature : Bytes :=
  [221, 11, 138, 104, 184, 129, 149, 102, 255, 83, 78, 55, 161, 91, 26, 73, 107, 238, 189, 148, 169,
    227, 7, 11, 194, 42, 83, 166, 91, 163, 180, 235, 45, 226, 63, 198, 184, 254, 132, 241, 189, 70,
    190, 23, 57, 249, 9, 221, 112, 8, 191, 15, 22, 217, 209, 145, 97, 34, 92, 146, 164, 90, 212, 10]

def startedAt : Instant := 1767225600 * 1000000

def completedAt : Instant := 1767225601 * 1000000

def startedText : Str := str "2026-01-01T00:00:00Z"

def completedText : Str := str "2026-01-01T00:00:01Z"

/-- Other instants stand as their numbers. -/
def isoFormat (t : Instant) : Str :=
  if t = startedAt then startedText else if t = completedAt then completedText
  else (intText t).map Char.toNat

def fromIsoFormat (value : Str) : ParsedTime :=
  if value = startedText then .aware startedAt
  else if value = completedText then .aware completedAt
  else
    match readInt (value.map Char.ofNat) with
    | some t => .aware t
    | none => .invalid

theorem number_reads (t : Instant) :
    readInt (((intText t).map Char.toNat).map Char.ofNat) = some t := by
  rw [map_ofNat_toNat, readInt_intText]

theorem isoFormat_reads (t : Instant) : fromIsoFormat (isoFormat t) = .aware t := by
  unfold isoFormat
  split
  · rename_i first
    rw [first]
    rfl
  · split
    · rename_i last
      rw [last]
      decide +kernel
    · have number := number_reads t
      have started : (intText t).map Char.toNat ≠ startedText := by
        intro same
        rw [same, show readInt (startedText.map Char.ofNat) = none by decide +kernel] at number
        cases number
      have completed : (intText t).map Char.toNat ≠ completedText := by
        intro same
        rw [same, show readInt (completedText.map Char.ofNat) = none by decide +kernel] at number
        cases number
      unfold fromIsoFormat
      rw [if_neg started, if_neg completed, number]

theorem isoFormat_ascii (t : Instant) : ∀ p ∈ isoFormat t, p < 128 := by
  unfold isoFormat
  split
  · decide +kernel
  · split
    · decide +kernel
    · intro p member
      obtain ⟨c, within, rfl⟩ := List.mem_map.mp member
      exact intText_ascii t c within

def hexdigest (bytes : Bytes) : Str :=
  if bytes = publicDer then keyHex
  else if bytes = encode ['h', 'i'] then hiHex
  else if bytes = encode (dumps (.object evidenceEntries)) then evidenceHex
  else helloHex

theorem hexdigest_hex (bytes : Bytes) :
    (hexdigest bytes).length = 64 ∧ (hexdigest bytes).all isHexPoint = true := by
  unfold hexdigest
  split
  · decide +kernel
  split
  · decide +kernel
  split
  · decide +kernel
  · decide +kernel

def texts : ReceiptTexts where
  hexdigest := hexdigest
  hexdigest_hex := hexdigest_hex
  isoFormat := isoFormat
  fromIsoFormat := fromIsoFormat
  isoFormat_reads t _ _ := isoFormat_reads t
  isoFormat_ascii := isoFormat_ascii

/-- One key, and the signature that it makes. -/
def ed : Ed25519 Unit Unit where
  publicKey _ := ()
  publicDer _ := publicDer
  loadPublic encoded := if encoded = publicDer then .ed25519 () else .raised "invalid DER"
  loadPrivate _ := .ed25519 ()
  sign _ _ := signature
  valid _ value _ := value = signature
  sign_length _ _ := rfl
  publicDer_some _ := nofun
  loadPublic_publicDer _ := if_pos rfl
  valid_sign _ _ := decide_eq_true rfl

def signer : Signer (S := Unit) := ⟨(), str "key-1", by decide +kernel⟩

def trust : ReceiptTrust texts ed where
  target := str "server-1"
  route := str "/invoke"
  keyId := str "key-1"
  publicKeySpkiB64 := str "MCowBQYDK2VwAyEA11qYAYKxCrfVS_7TyWQHOg7hcvPapiMlrwIaaPcHURo"
  publicKeySha256 := str "sha256:" ++ keyHex
  ownerBindingSha256 := str "sha256:" ++ List.replicate 64 'a'.toNat
  companionId := str "companion-1"
  agentId := str "agent-1"
  checked := by decide +kernel

def verifier : Verifier texts ed := ⟨[trust], nofun, by decide +kernel⟩

def signed : SignedFields where
  receiptId := str "receipt-1"
  runId := str "run-1"
  phase := str "invoke"
  route := trust.route
  requestId := str "request-1"
  ownerBindingSha256 := trust.ownerBindingSha256
  companionId := trust.companionId
  agentId := trust.agentId
  inputSha256 := str "sha256:" ++ helloHex
  responseSha256 := str "sha256:" ++ hiHex
  transport := frinzAuthenticatedHttpTransport
  model := none
  provider := none
  sessionId := none
  operationDigest := none
  quoteDigest := none
  resourcePlanDigest := none
  evidenceDigest := str "sha256:" ++ evidenceHex
  startedAt := startedAt
  completedAt := completedAt
  elapsedMs := 1000
  issuedAt := completedAt

def payload : Json := .object (signed.entries startedText completedText completedText)

/-- The receipt with a text of its signature. -/
def fields (signatureB64 : Str) : ReceiptFields where
  toSignedFields := signed
  keyId := trust.keyId
  publicKeySha256 := trust.publicKeySha256
  signatureB64 := signatureB64
  contract := invocationReceiptContract
  signatureAlgorithm := invocationReceiptSignatureAlgorithm

theorem signs : ∃ r, signer.sign texts ed payload = .ok r ∧
    r.toReceiptFields = fields (str (base64urlEncode signature)) := by
  have read : (signer.sign texts ed payload).map Receipt.toReceiptFields =
      .ok (fields (str (base64urlEncode signature))) := by
    decide +kernel
  exact map_ok.mp read

def bindings : Bindings where
  runId := str "run-1"
  phase := str "invoke"
  requestId := str "request-1"
  inputText := str "hello"
  operationDigest := none
  quoteDigest := none
  resourcePlanDigest := none

theorem decoded : base64urlDecode trust.publicKeySpkiB64.text "receipt trust public key" =
    .ok publicDer := by
  decide +kernel

section

variable {r : Receipt texts} {signatureB64 : Str}

theorem sole (is : r.toReceiptFields = fields signatureB64) :
    verifier.trusts.filter r.isOf = [trust] := by
  have of : r.isOf trust = true := by
    simp only [Receipt.isOf, is, fields, signed, decide_true, Bool.and_self]
  exact List.filter_cons_of_pos of

theorem signed_of_fields (is : r.toReceiptFields = fields signatureB64) :
    r.toSignedFields = signed :=
  congrArg ReceiptFields.toSignedFields is

theorem bound (is : r.toReceiptFields = fields signatureB64) : r.BoundTo bindings := by
  have same := signed_of_fields is
  have input : utf8Sha256 texts bindings.inputText = .ok signed.inputSha256 := by decide +kernel
  refine ⟨congrArg SignedFields.runId same, congrArg SignedFields.phase same,
    congrArg SignedFields.requestId same, ?_, congrArg SignedFields.operationDigest same,
    congrArg SignedFields.quoteDigest same, congrArg SignedFields.resourcePlanDigest same⟩
  rw [same]
  exact input

end

end Sample

open Sample in
/-- A receipt that is signed for one request, and verified with the one key that is pinned. -/
theorem signed_receipts_verify_server : ∃ r, signer.sign texts ed payload = .ok r ∧
    verifier.verify r bindings = .ok (str "server-1") := by
  obtain ⟨r, made, is⟩ := signs
  refine ⟨r, made, (signed_receipts_verify made).2 verifier trust bindings (sole is) (bound is) ?_⟩
  intro encoded opened _
  rw [decoded] at opened
  exact (Except.ok.inj opened).symm

section

variable {S K : Type} {texts : ReceiptTexts} {ed : Ed25519 S K}

/-- The signature that the receipt carries is no forgery: if it is valid under the pinned key, then
the holder of the key has signed the message for one of the receipts that were issued. -/
def Unforged (issued : List (Signer (S := S) × Receipt texts)) (r : Receipt texts)
    (trust : ReceiptTrust texts ed) : Prop :=
  r.SignedUnder trust → ∃ s original, (s, original) ∈ issued ∧
    (∃ payload, s.sign texts ed payload = .ok original) ∧
    (∀ encoded,
      base64urlDecode trust.publicKeySpkiB64.text "receipt trust public key" = .ok encoded →
        ed.loadPublic encoded = .ed25519 (ed.publicKey s.key)) ∧
    original.message texts = r.message texts

/-- A receipt is verified just where one pinned trust matches it, it is bound to the caller's run
and request, and its signature is valid; and then, unless the signature is forged, the holder of
the pinned key has issued a receipt with the same value of every signed field. -/
theorem verified_receipts_were_issued (v : Verifier texts ed) (r : Receipt texts) (b : Bindings)
    (target : Str) :
    (v.verify r b = .ok target ↔ ∃ trust, v.trusts.filter r.isOf = [trust] ∧ r.BoundTo b ∧
      r.SignedUnder trust ∧ trust.target = target) ∧
    ∀ issued, v.verify r b = .ok target → (∀ trust ∈ v.trusts, Unforged issued r trust) →
      ∃ trust ∈ v.trusts, trust.target = target ∧ (∀ other ∈ v.trusts, r.isOf other = true →
          other = trust) ∧
        ∃ s original, (s, original) ∈ issued ∧ original.toSignedFields = r.toSignedFields ∧
          original.publicKeySha256 = s.publicKeySha256 texts ed := by
  refine ⟨verify_ok, fun issued verified unforged => ?_⟩
  obtain ⟨trust, sole, -, signed, rfl⟩ := verify_ok.mp verified
  obtain ⟨pinned, -⟩ := isOf_sole sole
  obtain ⟨s, original, member, ⟨payload, made⟩, -, same⟩ := unforged trust pinned signed
  obtain ⟨-, named, -⟩ := sign_ok made
  refine ⟨trust, pinned, rfl, fun other inside of => ?_, s, original, member,
    message_eq_iff.mp same, named⟩
  have listed : other ∈ v.trusts.filter r.isOf := List.mem_filter.mpr ⟨inside, of⟩
  rw [sole] at listed
  exact List.mem_singleton.mp listed

end

namespace Sample

/-- The signature with its last character changed. -/
def respelled : Str :=
  str "3QuKaLiBlWb_U043oVsaSWvuvZSp4wcLwipTplujtOst4j_GuP6E8b1Gvhc5-QndcAi_DxbZ0ZFhIlySpFrUCh"

def receipt : Receipt texts := ⟨fields respelled, by decide +kernel⟩

theorem verify_receipt : verifier.verify receipt bindings = .ok (str "server-1") := by
  have opened : base64urlDecode respelled.text "invocation receipt signature" = .ok signature := by
    decide +kernel
  have signed : receipt.SignedUnder trust :=
    ⟨_, receipt.message_eq,
      verifySignature_ok.mpr ⟨publicDer, (), signature, decoded, rfl, opened, rfl⟩⟩
  exact verify_ok.mpr ⟨trust, sole rfl, bound rfl, signed, rfl⟩

theorem unforged {original : Receipt texts} {signatureB64 : Str}
    (made : signer.sign texts ed payload = .ok original)
    (is : original.toReceiptFields = fields signatureB64) :
    ∀ pinned ∈ verifier.trusts, Unforged [(signer, original)] receipt pinned := by
  have message : original.message texts = receipt.message texts :=
    message_eq_iff.mpr ((signed_of_fields is).trans (signed_of_fields rfl).symm)
  intro pinned member _
  rw [List.mem_singleton.mp member]
  refine ⟨signer, original, List.mem_singleton_self _, ⟨payload, made⟩, ?_, message⟩
  intro encoded opened
  rw [decoded] at opened
  cases opened
  rfl

end Sample

open Sample in
/-- A receipt whose signature is spelled in another way is verified, and its fields were issued. -/
theorem verified_receipts_were_issued_respelled : ∃ original : Receipt texts,
    receipt.signatureB64 ≠ original.signatureB64 ∧
      verifier.verify receipt bindings = .ok (str "server-1") ∧
      ∃ s issued, (s, issued) ∈ [(signer, original)] ∧
        issued.toSignedFields = receipt.toSignedFields := by
  obtain ⟨original, made, is⟩ := signs
  obtain ⟨_, _, _, _, s, issued, member, same, _⟩ :=
    (verified_receipts_were_issued verifier receipt bindings (str "server-1")).2 _ verify_receipt
      (unforged made is)
  refine ⟨original, ?_, verify_receipt, s, issued, member, same⟩
  rw [is]
  decide +kernel

end KestrelRunpod.Invocations
