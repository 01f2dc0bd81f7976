import KestrelRunpod.Invocations.Signing

/-!
# Attested responses

`AttestedInvokeResponse` holds an answer, the evidence of its phase and the receipt that signs
the digests of both.  A response is read back from its payload (`responses_are_read_back`); an
answer whose receipt is verified is the answer that was given (`verified_answers_were_given`).

Evidence is compared by its canonical text, and the class keeps what that text is read as.
-/

namespace KestrelRunpod.Invocations

open Codec
open Traverse (check_bind_ok except_bind_ok forM_ok_iff)

/-! ## Evidence -/

/-- `_MAX_JSON_DEPTH`. -/
def maxJsonDepth : ℕ := 64

mutual

/-- `_require_exact_json_values`. -/
def requireExactJsonValues (name : String) (depth : ℕ) (value : Json) : Except String Unit :=
  if maxJsonDepth < depth then .error (name ++ " nests deeper than " ++ toString maxJsonDepth)
  else
    match value with
    | .array items => requireExactItems name depth 0 items
    | .object entries => requireExactEntries name depth entries
    | value => (canonicalJson value).map fun _ => ()

/-- The items of a list, from `index` on. -/
def requireExactItems (name : String) (depth index : ℕ) : List Json → Except String Unit
  | [] => .ok ()
  | item :: rest => do
      requireExactJsonValues (name ++ "[" ++ toString index ++ "]") (depth + 1) item
      requireExactItems name depth (index + 1) rest

/-- The items of a mapping. -/
def requireExactEntries (name : String) (depth : ℕ) : List (Str × Json) → Except String Unit
  | [] => .ok ()
  | (key, item) :: rest => do
      requireExactJsonValues (name ++ "." ++ key.text) (depth + 1) item
      requireExactEntries name depth rest

end

/-- `_canonical_json_object`. -/
def canonicalJsonObject (value : Json) (name : String) : Except String (List (Str × Json)) :=
  match value with
  | .object entries => do
      requireExactJsonValues name 0 (.object entries)
      let text ← canonicalJson (.object entries)
      match loads text with
      | some (.object normalized) => .ok normalized
      | _ => .error (name ++ " must be a JSON object")
  | _ => .error (name ++ " must be a JSON object with string keys")

section

variable (texts : ReceiptTexts)

/-- `canonical_sha256`. -/
def canonicalSha256 (value : Json) : Except String Str :=
  (canonicalJson value).map fun text => texts.sha256 (encode text)

/-- `normalized.get("phase") == phase`. -/
def bindsPhase (normalized : List (Str × Json)) (phase : Str) : Bool :=
  match lookup normalized "phase" with
  | some (.string found) => found = phase
  | _ => false

/-- `phase_evidence_sha256`. -/
def phaseEvidenceSha256 (phase : Str) (evidence : Json) : Except String Str := do
  safeIdentifier "phase evidence phase" phase
  let normalized ← canonicalJsonObject evidence "phase evidence"
  refuse (bindsPhase normalized phase = false)
    "phase evidence does not bind the exact invocation phase"
  canonicalSha256 texts (.object normalized)

/-- `verify_phase_evidence`. -/
def Receipt.verifyPhaseEvidence {texts : ReceiptTexts} (r : Receipt texts) (evidence : Json) :
    Except String Unit := do
  let digest ← phaseEvidenceSha256 texts r.phase evidence
  refuse (r.evidenceDigest ≠ digest) "invocation receipt did not bind the exact phase evidence"

/-! ## The response -/

/-- What a response says, apart from its evidence. -/
@[ext]
structure Answer where
  response : Str
  model : Option Str
  provider : Option Str
  sessionId : Option Str
  deriving DecidableEq

/-- `AttestedInvokeResponse.__post_init__`, which returns the evidence that is kept. -/
def Answer.check {texts : ReceiptTexts} (a : Answer) (receipt : Receipt texts) (evidence : Json) :
    Except String (List (Str × Json)) := do
  [("model", a.model), ("provider", a.provider), ("session_id", a.sessionId)].forM fun named =>
    optional safeIdentifier ("attested response " ++ named.1) named.2
  let responseSha256 ← utf8Sha256 texts a.response
  refuse (receipt.responseSha256 ≠ responseSha256 ∨ receipt.model ≠ a.model ∨
      receipt.provider ≠ a.provider ∨ receipt.sessionId ≠ a.sessionId)
    "attested response differs from its signed invocation result"
  let normalized ← canonicalJsonObject evidence "attested phase evidence"
  let digest ← phaseEvidenceSha256 texts receipt.phase (.object normalized)
  refuse (receipt.evidenceDigest ≠ digest)
    "attested response differs from its signed phase evidence"
  .ok normalized

/-- `AttestedInvokeResponse`, with the evidence that the constructor keeps. -/
structure Response extends Answer where
  phaseEvidence : List (Str × Json)
  invocationReceipt : Receipt texts
  checked : ∃ given, toAnswer.check invocationReceipt given = .ok phaseEvidence

/-- Construct a response, or fail as `__post_init__` does. -/
def Response.build (a : Answer) (receipt : Receipt texts) (evidence : Json) :
    Except String (Response texts) :=
  match checked : a.check receipt evidence with
  | .ok normalized => .ok ⟨a, normalized, receipt, evidence, checked⟩
  | .error text => .error text

/-- The entries of a response's payload. -/
def Answer.entries (a : Answer) (evidence receipt : Json) : List (Str × Json) :=
  [(str "response", .string a.response),
    (str "model", optionalJson a.model),
    (str "provider", optionalJson a.provider),
    (str "session_id", optionalJson a.sessionId),
    (str "phase_evidence", evidence),
    (str "invocation_receipt", receipt)]

/-- `to_payload`. -/
def Response.toPayload {texts : ReceiptTexts} (r : Response texts) : Except String Json := do
  let receipt ← r.invocationReceipt.toPayload
  .ok (.object (r.entries (.object r.phaseEvidence) receipt))

def responseFields : List String :=
  ["response", "model", "provider", "session_id", "phase_evidence", "invocation_receipt"]

/-- `from_payload`. -/
def Response.fromPayload : Json → Except String (Response texts)
  | .object entries =>
      if hasFields entries responseFields then
        match lookup entries "phase_evidence" with
        | some (.object evidence) =>
            match lookup entries "response" with
            | some (.string response) => do
                let model ← optionalPayloadString (lookup entries "model") "response.model"
                let provider ←
                  optionalPayloadString (lookup entries "provider") "response.provider"
                let sessionId ←
                  optionalPayloadString (lookup entries "session_id") "response.session_id"
                let receipt ← Receipt.fromPayload texts
                  ((lookup entries "invocation_receipt").getD .null)
                Response.build texts ⟨response, model, provider, sessionId⟩ receipt
                  (.object evidence)
            | _ => .error "attested response payload must be a string"
        | _ => .error "attested phase evidence must be an object"
      else .error "attested invoke response fields differ"
  | _ => .error "attested invoke response fields differ"

end

/-! ## What the checks say -/

mutual

/-- What is exact is exact under every name. -/
theorem requireExactJsonValues_name {name other : String} {depth : ℕ} {value : Json}
    (passed : requireExactJsonValues name depth value = .ok ()) :
    requireExactJsonValues other depth value = .ok () := by
  rw [requireExactJsonValues.eq_def] at passed ⊢
  split at passed
  · cases passed
  · rename_i within
    rw [if_neg within]
    cases value with
    | array items => exact requireExactItems_name passed
    | object entries => exact requireExactEntries_name passed
    | null => exact passed
    | bool b => exact passed
    | number literal => exact passed
    | string points => exact passed

theorem requireExactItems_name {name other : String} {depth index : ℕ} {items : List Json}
    (passed : requireExactItems name depth index items = .ok ()) :
    requireExactItems other depth index items = .ok () := by
  cases items with
  | nil => rw [requireExactItems]
  | cons item items =>
      rw [requireExactItems] at passed ⊢
      obtain ⟨first, rest⟩ := check_bind_ok.mp passed
      exact check_bind_ok.mpr
        ⟨requireExactJsonValues_name first, requireExactItems_name rest⟩

theorem requireExactEntries_name {name other : String} {depth : ℕ}
    {entries : List (Str × Json)}
    (passed : requireExactEntries name depth entries = .ok ()) :
    requireExactEntries other depth entries = .ok () := by
  cases entries with
  | nil => rw [requireExactEntries]
  | cons entry entries =>
      obtain ⟨key, item⟩ := entry
      rw [requireExactEntries] at passed ⊢
      obtain ⟨first, rest⟩ := check_bind_ok.mp passed
      exact check_bind_ok.mpr
        ⟨requireExactJsonValues_name first, requireExactEntries_name rest⟩

end

/-- A plain object is kept as it is sorted. -/
theorem canonicalJsonObject_ok {name : String} {value : Json} {normalized : List (Str × Json)}
    (plain : value.Plain) : canonicalJsonObject value name = .ok normalized ↔
      requireExactJsonValues name 0 value = .ok () ∧ value.sorted = .object normalized := by
  have written : canonicalJson value = .ok (dumps value) := if_pos plain.isFinite
  have read := loads_dumps plain
  unfold canonicalJsonObject
  cases value with
  | object entries =>
      constructor
      · intro is
        obtain ⟨passed, is⟩ := check_bind_ok.mp is
        obtain ⟨text, same, is⟩ := except_bind_ok.mp is
        cases same.symm.trans written
        rw [read] at is
        split at is
        · rename_i sorted
          cases is
          exact ⟨passed, Option.some.inj sorted⟩
        · cases is
      · rintro ⟨passed, sorted⟩
        refine check_bind_ok.mpr ⟨passed, except_bind_ok.mpr ⟨_, written, ?_⟩⟩
        rw [read, sorted]
  | array items =>
      rw [Json.sorted]
      constructor
      · intro is
        cases is
      · rintro ⟨_, sorted⟩
        cases sorted
  | null => exact ⟨nofun, fun both => by cases both.2⟩
  | bool b => exact ⟨nofun, fun both => by cases both.2⟩
  | number literal => exact ⟨nofun, fun both => by cases both.2⟩
  | string points => exact ⟨nofun, fun both => by cases both.2⟩

section

variable {texts : ReceiptTexts} {receipt : Receipt texts} {a : Answer} {evidence : Json}
  {normalized : List (Str × Json)}

theorem phaseEvidenceSha256_ok {phase digest : Str} :
    phaseEvidenceSha256 texts phase evidence = .ok digest ↔ isSafeIdentifier phase = true ∧
      ∃ normalized, canonicalJsonObject evidence "phase evidence" = .ok normalized ∧
        bindsPhase normalized phase = true ∧
        canonicalSha256 texts (.object normalized) = .ok digest := by
  unfold phaseEvidenceSha256
  constructor
  · intro made
    obtain ⟨safe, made⟩ := check_bind_ok.mp made
    obtain ⟨normalized, canonical, made⟩ := except_bind_ok.mp made
    obtain ⟨binds, made⟩ := check_bind_ok.mp made
    rw [refuse_ok, Bool.not_eq_false] at binds
    exact ⟨safeIdentifier_ok.mp safe, normalized, canonical, binds, made⟩
  · rintro ⟨safe, normalized, canonical, binds, made⟩
    have bound : refuse (bindsPhase normalized phase = false)
        "phase evidence does not bind the exact invocation phase" = .ok () := by
      rw [refuse_ok, Bool.not_eq_false]
      exact binds
    exact check_bind_ok.mpr ⟨safeIdentifier_ok.mpr safe,
      except_bind_ok.mpr ⟨normalized, canonical, check_bind_ok.mpr ⟨bound, made⟩⟩⟩

/-- The receipt signs the answer and the evidence that is kept. -/
structure Answer.SignedBy (a : Answer) (receipt : Receipt texts)
    (normalized : List (Str × Json)) : Prop where
  identifiers : ∀ value ∈ [a.model, a.provider, a.sessionId],
    ∀ present ∈ value, isSafeIdentifier present = true
  response : utf8Sha256 texts a.response = .ok receipt.responseSha256
  model : receipt.model = a.model
  provider : receipt.provider = a.provider
  sessionId : receipt.sessionId = a.sessionId
  evidence : phaseEvidenceSha256 texts receipt.phase (.object normalized) =
    .ok receipt.evidenceDigest

theorem Answer.check_ok : a.check receipt evidence = .ok normalized ↔
    canonicalJsonObject evidence "attested phase evidence" = .ok normalized ∧
      a.SignedBy receipt normalized := by
  unfold Answer.check
  constructor
  · intro checked
    obtain ⟨identifiers, checked⟩ := check_bind_ok.mp checked
    obtain ⟨responseSha256, response, checked⟩ := except_bind_ok.mp checked
    obtain ⟨result, checked⟩ := check_bind_ok.mp checked
    obtain ⟨kept, canonical, checked⟩ := except_bind_ok.mp checked
    obtain ⟨digest, phase, checked⟩ := except_bind_ok.mp checked
    obtain ⟨same, checked⟩ := check_bind_ok.mp checked
    cases checked
    rw [forM_ok_iff] at identifiers
    rw [refuse_ok] at result same
    push Not at result same
    obtain ⟨same', model, provider, sessionId⟩ := result
    rw [← same'] at response
    rw [← same] at phase
    refine ⟨canonical, ?_, response, model, provider, sessionId, phase⟩
    simpa [optional_ok, safeIdentifier_ok] using identifiers
  · rintro ⟨canonical, signed⟩
    refine check_bind_ok.mpr ⟨?_, except_bind_ok.mpr ⟨_, signed.response, check_bind_ok.mpr
      ⟨?_, except_bind_ok.mpr ⟨_, canonical, except_bind_ok.mpr ⟨_, signed.evidence,
        check_bind_ok.mpr ⟨?_, rfl⟩⟩⟩⟩⟩⟩
    · rw [forM_ok_iff]
      simpa [optional_ok, safeIdentifier_ok] using signed.identifiers
    · rw [refuse_ok]
      push Not
      exact ⟨rfl, signed.model, signed.provider, signed.sessionId⟩
    · rw [refuse_ok, not_not]

/-- The evidence of the response came as a value that a JSON text is read as. -/
def Response.OfPlain (r : Response texts) : Prop :=
  ∃ given : Json, given.Plain ∧ r.check r.invocationReceipt given = .ok r.phaseEvidence

variable {r o : Response texts}

/-- The evidence that is kept is plain, and sorted. -/
theorem Response.OfPlain.kept (plain : r.OfPlain) : (Json.object r.phaseEvidence).Plain ∧
    (Json.object r.phaseEvidence).sorted = .object r.phaseEvidence ∧
      requireExactJsonValues "attested phase evidence" 0 (.object r.phaseEvidence) = .ok () := by
  obtain ⟨given, plain, checked⟩ := plain
  obtain ⟨canonical, signed⟩ := Answer.check_ok.mp checked
  obtain ⟨-, sorted⟩ := (canonicalJsonObject_ok plain).mp canonical
  have kept : (Json.object r.phaseEvidence).Plain := by
    rw [← sorted]
    exact plain.sorted
  obtain ⟨-, again, canonical', -, -⟩ := phaseEvidenceSha256_ok.mp signed.evidence
  obtain ⟨passed, -⟩ := (canonicalJsonObject_ok kept).mp canonical'
  refine ⟨kept, ?_, requireExactJsonValues_name passed⟩
  rw [← sorted, Json.sorted_sorted]

theorem Response.signedBy (r : Response texts) :
    r.SignedBy r.invocationReceipt r.phaseEvidence := by
  obtain ⟨given, checked⟩ := r.checked
  exact (Answer.check_ok.mp checked).2

theorem Response.build_of_check
    (checked : r.check r.invocationReceipt evidence = .ok r.phaseEvidence) :
    Response.build texts r.toAnswer r.invocationReceipt evidence = .ok r := by
  unfold Response.build
  split
  · rename_i normalized' checked'
    cases checked.symm.trans checked'
    rfl
  · rename_i failed
    cases checked.symm.trans failed

/-! ## Round trip -/

/-- The lookups of `from_payload` in a payload. -/
theorem Answer.entries_lookup (receipt : Json) :
    lookup (a.entries evidence receipt) "response" = some (.string a.response) ∧
    lookup (a.entries evidence receipt) "model" = some (optionalJson a.model) ∧
    lookup (a.entries evidence receipt) "provider" = some (optionalJson a.provider) ∧
    lookup (a.entries evidence receipt) "session_id" = some (optionalJson a.sessionId) ∧
    lookup (a.entries evidence receipt) "phase_evidence" = some evidence ∧
    lookup (a.entries evidence receipt) "invocation_receipt" = some receipt :=
  ⟨rfl, rfl, rfl, rfl, rfl, rfl⟩

theorem Answer.entries_fields (receipt : Json) :
    hasFields (a.entries evidence receipt) responseFields = true :=
  rfl

/-- A response is read back from its payload, with the evidence that it keeps. -/
theorem responses_are_read_back (r : Response texts) (plain : r.OfPlain) :
    ∃ payload, r.toPayload = .ok payload ∧ Response.fromPayload texts payload = .ok r := by
  obtain ⟨written, paid, read⟩ := r.invocationReceipt.round_trip
  refine ⟨.object (r.entries (.object r.phaseEvidence) written), ?_, ?_⟩
  · unfold Response.toPayload
    rw [paid]
    rfl
  · obtain ⟨kept, sorted, passed⟩ := plain.kept
    have canonical : canonicalJsonObject (.object r.phaseEvidence) "attested phase evidence" =
        .ok r.phaseEvidence := (canonicalJsonObject_ok kept).mpr ⟨passed, sorted⟩
    have built := Response.build_of_check (Answer.check_ok.mpr ⟨canonical, r.signedBy⟩)
    unfold Response.fromPayload
    simp only [Answer.entries_fields, Answer.entries_lookup, optionalPayloadString_json, if_true,
      Option.getD_some, read]
    exact built

end

/-! ### A sample response -/

namespace Sample

def answer : Answer := ⟨str "hi", none, none, none⟩

theorem evidence_plain : (Json.object evidenceEntries).Plain := by
  rw [Json.Plain]
  refine ⟨by decide, plainEntries_iff.mpr ?_⟩
  have ascii : ∀ p ∈ str "phase" ++ str "invoke", p < 128 := by decide
  intro e member
  rw [List.mem_singleton.mp member, Json.Plain]
  exact ⟨readable_of_ascii fun p inside => ascii p (List.mem_append_left _ inside),
    readable_of_ascii fun p inside => ascii p (List.mem_append_right _ inside)⟩

section

variable {r : Receipt texts} {signatureB64 : Str}

theorem answered (is : r.toReceiptFields = fields signatureB64) :
    answer.check r (.object evidenceEntries) = .ok evidenceEntries := by
  have sorted : (Json.object evidenceEntries).sorted = .object evidenceEntries :=
    congrArg Json.object (List.mergeSort_singleton _)
  have hi : utf8Sha256 texts answer.response = .ok signed.responseSha256 := by decide +kernel
  have phase : phaseEvidenceSha256 texts signed.phase (.object evidenceEntries) =
      .ok signed.evidenceDigest := by decide +kernel
  have same := signed_of_fields is
  refine Answer.check_ok.mpr ⟨(canonicalJsonObject_ok evidence_plain).mpr
    ⟨by decide +kernel, sorted⟩, ?_, ?_, ?_, ?_, ?_, ?_⟩
  · simp [answer]
  · rw [same]
    exact hi
  · rw [same]
    rfl
  · rw [same]
    rfl
  · rw [same]
    rfl
  · rw [same]
    exact phase

def response (r : Receipt texts) (is : r.toReceiptFields = fields signatureB64) : Response texts :=
  ⟨answer, evidenceEntries, r, .object evidenceEntries, answered is⟩

theorem response_plain (is : r.toReceiptFields = fields signatureB64) : (response r is).OfPlain :=
  ⟨.object evidenceEntries, evidence_plain, answered is⟩

end

end Sample

open Sample in
/-- The response to one request. -/
theorem responses_are_read_back_hi : ∃ payload, (response receipt rfl).toPayload = .ok payload ∧
    Response.fromPayload texts payload = .ok (response receipt rfl) :=
  responses_are_read_back _ (response_plain rfl)

section

variable {texts : ReceiptTexts} {r o : Response texts}

/-! ## What a receipt leaves open -/

theorem utf8_ok {value : Str} {bytes : Bytes} : utf8 value = .ok bytes ↔
    value.all isScalar = true ∧ bytes = encode (value.map Char.ofNat) := by
  unfold utf8
  split
  · rename_i scalars
    rw [Except.ok.injEq]
    exact ⟨fun same => ⟨scalars, same.symm⟩, fun both => both.2.symm⟩
  · rename_i surrogate
    constructor
    · intro is
      cases is
    · intro both
      exact absurd both.1 surrogate

theorem map_toNat_ofNat {value : Str} (scalars : value.all isScalar = true) :
    (value.map Char.ofNat).map Char.toNat = value := by
  rw [List.map_map]
  rw [List.all_eq_true] at scalars
  have same : ∀ p ∈ value, (Char.toNat ∘ Char.ofNat) p = p := by
    intro p member
    have valid : p.isValidChar := by
      have scalar := scalars p member
      simp only [isScalar, Bool.or_eq_true, Bool.and_eq_true, decide_eq_true_eq] at scalar
      exact scalar
    rw [Function.comp_apply, Char.ofNat, dif_pos valid]
    rfl
  rw [List.map_congr_left same, List.map_id']

/-- The texts whose digests the receipt signs. -/
def Response.hashed (r : Response texts) : List Bytes :=
  [encode (r.response.map Char.ofNat), encode (dumps (.object r.phaseEvidence))]

theorem Response.response_digest (r : Response texts) : r.response.all isScalar = true ∧
    r.invocationReceipt.responseSha256 = texts.sha256 (encode (r.response.map Char.ofNat)) := by
  obtain ⟨bytes, encoded, digest⟩ := map_ok.mp r.signedBy.response
  obtain ⟨scalars, same⟩ := utf8_ok.mp encoded
  exact ⟨scalars, by rw [← digest, same]⟩

theorem Response.evidence_digest (plain : r.OfPlain) : r.invocationReceipt.evidenceDigest =
    texts.sha256 (encode (dumps (.object r.phaseEvidence))) := by
  obtain ⟨kept, sorted, -⟩ := plain.kept
  obtain ⟨-, again, canonical, -, digest⟩ := phaseEvidenceSha256_ok.mp r.signedBy.evidence
  obtain ⟨-, same⟩ := (canonicalJsonObject_ok kept).mp canonical
  rw [← same, sorted] at digest
  obtain ⟨text, written, digest⟩ := map_ok.mp digest
  cases written.symm.trans (if_pos kept.isFinite)
  exact digest.symm

/-- Responses whose receipts sign the same fields say the same. -/
theorem Response.sole_of_signed (plain : r.OfPlain) (plain' : o.OfPlain)
    (same : r.invocationReceipt.toSignedFields = o.invocationReceipt.toSignedFields)
    (apart : ∀ x ∈ r.hashed, ∀ y ∈ o.hashed, Uncollided texts x y) :
    r.toAnswer = o.toAnswer ∧ r.phaseEvidence = o.phaseEvidence := by
  obtain ⟨scalars, digest⟩ := r.response_digest
  obtain ⟨scalars', digest'⟩ := o.response_digest
  have response : r.response = o.response := by
    have alike : encode (r.response.map Char.ofNat) = encode (o.response.map Char.ofNat) := by
      refine sha256_injective (apart _ (by simp [Response.hashed]) _ (by simp [Response.hashed])) ?_
      rw [← digest, ← digest', same]
    rw [← map_toNat_ofNat scalars, encode_injective alike, map_toNat_ofNat scalars']
  have evidence : Json.object r.phaseEvidence = .object o.phaseEvidence := by
    have alike : encode (dumps (.object r.phaseEvidence)) =
        encode (dumps (.object o.phaseEvidence)) := by
      refine sha256_injective (apart _ (by simp [Response.hashed]) _ (by simp [Response.hashed])) ?_
      rw [← r.evidence_digest plain, ← o.evidence_digest plain', same]
    obtain ⟨kept, sorted, -⟩ := plain.kept
    obtain ⟨kept', sorted', -⟩ := plain'.kept
    rw [← sorted, ← sorted']
    exact (dumps_eq_iff kept kept').mp (encode_injective alike)
  have signed := r.signedBy
  have signed' := o.signedBy
  have model : r.model = o.model := by rw [← signed.model, same, signed'.model]
  have provider : r.provider = o.provider := by rw [← signed.provider, same, signed'.provider]
  have sessionId : r.sessionId = o.sessionId := by
    rw [← signed.sessionId, same, signed'.sessionId]
  exact ⟨Answer.ext response model provider sessionId, Json.object.inj evidence⟩

end

section

variable {S K : Type} {texts : ReceiptTexts} {ed : Ed25519 S K}

/-- An answer whose receipt is verified is, unless the signature is forged or digests collide, one
that was given: with the same text and evidence, to the same run, phase, request and input. -/
theorem verified_answers_were_given {v : Verifier texts ed} {r : Response texts} {b : Bindings}
    {target : Str} {issued : List (Signer (S := S) × Response texts)}
    (verified : v.verify r.invocationReceipt b = .ok target)
    (unforged : ∀ trust ∈ v.trusts, Unforged
      (issued.map fun given => (given.1, given.2.invocationReceipt)) r.invocationReceipt trust)
    (plain : ∀ given ∈ issued, given.2.OfPlain) (plain' : r.OfPlain)
    (apart : ∀ given ∈ issued, ∀ x ∈ r.hashed, ∀ y ∈ given.2.hashed, Uncollided texts x y) :
    ∃ s given, (s, given) ∈ issued ∧ r.toAnswer = given.toAnswer ∧
      r.phaseEvidence = given.phaseEvidence ∧ given.invocationReceipt.BoundTo b ∧
      given.invocationReceipt.verifyPhaseEvidence (.object r.phaseEvidence) = .ok () := by
  obtain ⟨trust, sole, bound, signed, -⟩ := verify_ok.mp verified
  obtain ⟨s, original, member, -, -, alike⟩ := unforged trust (isOf_sole sole).1 signed
  obtain ⟨⟨s', given⟩, inside, same⟩ := List.mem_map.mp member
  cases same
  have fields := message_eq_iff.mp alike
  obtain ⟨answer, evidence⟩ :=
    Response.sole_of_signed plain' (plain _ inside) fields.symm (apart _ inside)
  refine ⟨s', given, inside, answer, evidence, ?_, ?_⟩
  · constructor
    · rw [fields, bound.runId]
    · rw [fields, bound.phase]
    · rw [fields, bound.requestId]
    · rw [fields, bound.input]
    · rw [fields, bound.operationDigest]
    · rw [fields, bound.quoteDigest]
    · rw [fields, bound.resourcePlanDigest]
  · unfold Receipt.verifyPhaseEvidence
    rw [evidence]
    refine except_bind_ok.mpr ⟨_, given.signedBy.evidence, ?_⟩
    rw [refuse_ok, not_not]

end

open Sample in
/-- A response with a receipt whose signature is spelled in another way. -/
theorem verified_answers_were_given_hi : ∃ original : Response texts,
    original.invocationReceipt ≠ receipt ∧
      ∃ s given, (s, given) ∈ [(signer, original)] ∧ answer = given.toAnswer ∧
        evidenceEntries = given.phaseEvidence := by
  obtain ⟨original, made, is⟩ := signs
  have plain : ∀ given ∈ [(signer, response original is)], given.2.OfPlain := by
    intro given member
    rw [List.mem_singleton.mp member]
    exact response_plain is
  have apart : ∀ given ∈ [(signer, response original is)], ∀ x ∈ (response receipt rfl).hashed,
      ∀ y ∈ given.2.hashed, Uncollided texts x y := by
    have texts_apart : ∀ x ∈ (response receipt rfl).hashed, ∀ y ∈ (response receipt rfl).hashed,
        texts.hexdigest x = texts.hexdigest y → x = y := by
      decide +kernel
    intro given member
    rw [List.mem_singleton.mp member]
    exact texts_apart
  obtain ⟨s, given, member, said, evidence, -⟩ :=
    verified_answers_were_given verify_receipt (unforged made is) plain (response_plain rfl) apart
  refine ⟨response original is, ?_, s, given, member, said, evidence⟩
  have other : original.signatureB64 ≠ receipt.signatureB64 := by
    rw [is]
    decide +kernel
  exact fun same => other (congrArg (fun r : Receipt texts => r.signatureB64) same)

end KestrelRunpod.Invocations
