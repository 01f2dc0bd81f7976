import KestrelRunpod.Codec.Canonical
import KestrelRunpod.Invocations.Encoding
import KestrelRunpod.Numeric.Traverse
import KestrelRunpod.Serverless.Billing

/-!
# Invocation receipts

`ServerInvokeReceipt` with its checks, its signed payload and its codec.  A Python string is the
list of its code points, so that a text from the wire may hold a lone surrogate; a JSON value
stands for the Python value of it, a number for the number that is written so.  The contract
boundary turns every exception into one type, so an error is its message.

Times are instants.  The text of an instant and what `fromisoformat` reads are parameters
(`ReceiptTexts`), as are digests.
-/

namespace KestrelRunpod.Invocations

open Codec Numeric
open Serverless (ParsedTime calendarMin calendarMax)
open Traverse (check_bind_ok except_bind_ok forM_ok_iff)

/-- A Python string: its code points. -/
abbrev Str : Type := List ℕ

def str (text : String) : Str := text.toList.map Char.toNat

/-- The characters of a string; one that is none fits no pattern. -/
def Str.text (value : Str) : String := .ofList (value.map Char.ofNat)

def refuse (wrong : Prop) [Decidable wrong] (text : String) : Except String Unit :=
  if wrong then .error text else .ok ()

/-! ## Checks -/

def isWithin (low high : Char) (p : ℕ) : Bool := low.toNat ≤ p && p ≤ high.toNat

def isAlphanumeric (p : ℕ) : Bool :=
  isWithin 'A' 'Z' p || isWithin 'a' 'z' p || isWithin '0' '9' p

/-- `_SAFE_IDENTIFIER`. -/
def isSafeIdentifier : Str → Bool
  | first :: rest =>
      isAlphanumeric first && rest.length ≤ 254 &&
        rest.all fun p => isAlphanumeric p || (str "._:@+-").contains p
  | [] => false

def isHexPoint (p : ℕ) : Bool := isWithin '0' '9' p || isWithin 'a' 'f' p

/-- `_SHA256`. -/
def isSha256 (value : Str) : Bool :=
  value.take 7 = str "sha256:" && value.length = 71 && (value.drop 7).all isHexPoint

/-- `_RELATIVE_ROUTE`. -/
def isRelativeRoute : Str → Bool
  | first :: rest =>
      first = '/'.toNat && 1 ≤ rest.length && rest.length ≤ 511 &&
        rest.all fun p => isAlphanumeric p || (str "._~!$&'()*+,;=:@/-").contains p
  | [] => false

/-- `part in value`. -/
def occurs (part : Str) : Str → Bool
  | [] => part.isEmpty
  | p :: rest => part.isPrefixOf (p :: rest) || occurs part rest

/-- `_safe_identifier`. -/
def safeIdentifier (name : String) (value : Str) : Except String Unit :=
  refuse (isSafeIdentifier value = false) (name ++ " must be a safe identifier")

/-- `_sha256`. -/
def sha256Digest (name : String) (value : Str) : Except String Unit :=
  refuse (isSha256 value = false) (name ++ " must be a prefixed SHA-256 digest")

/-- `_relative_route`. -/
def relativeRoute (name : String) (value : Str) : Except String Unit :=
  refuse (isRelativeRoute value = false ∨ occurs (str "//") value = true ∨
      occurs (str "/../") (value ++ str "/") = true ∨ occurs (str "/./") (value ++ str "/") = true)
    (name ++ " must be a strict relative HTTP route")

/-- A check of a value that may be `None`. -/
def optional (check : String → Str → Except String Unit) (name : String) :
    Option Str → Except String Unit
  | some value => check name value
  | none => .ok ()

/-- The digests and the texts of instants that receipts carry. -/
structure ReceiptTexts where
  hexdigest : Bytes → Str
  hexdigest_hex : ∀ bytes, (hexdigest bytes).length = 64 ∧ (hexdigest bytes).all isHexPoint = true
  isoFormat : Instant → Str
  fromIsoFormat : Str → ParsedTime
  isoFormat_reads : ∀ t, calendarMin ≤ t → t ≤ calendarMax →
    fromIsoFormat (isoFormat t) = .aware t
  isoFormat_ascii : ∀ t, ∀ p ∈ isoFormat t, p < 128

section

variable (texts : ReceiptTexts)

/-- `"sha256:" + hashlib.sha256(value).hexdigest()`. -/
def ReceiptTexts.sha256 (bytes : Bytes) : Str := str "sha256:" ++ texts.hexdigest bytes

/-- `_iso`. -/
def iso (t : Instant) : Except String Str :=
  if calendarMin ≤ t ∧ t ≤ calendarMax then .ok (texts.isoFormat t)
  else .error "signed timestamp is out of representable range"

/-- `_parse_time`, of a string. -/
def parseTime (value : Str) (name : String) : Except String Instant :=
  match texts.fromIsoFormat value with
  | .invalid => .error (name ++ " must be an ISO-8601 timestamp")
  | .naive => .error (name ++ " must include a timezone")
  | .aware t =>
      if calendarMin ≤ t ∧ t ≤ calendarMax then .ok t
      else .error (name ++ " is out of representable range")

end

/-! ## The receipt -/

/-- What a receipt's signature covers. -/
@[ext]
structure SignedFields where
  receiptId : Str
  runId : Str
  phase : Str
  route : Str
  requestId : Str
  ownerBindingSha256 : Str
  companionId : Str
  agentId : Str
  inputSha256 : Str
  responseSha256 : Str
  transport : Str
  model : Option Str
  provider : Option Str
  sessionId : Option Str
  operationDigest : Option Str
  quoteDigest : Option Str
  resourcePlanDigest : Option Str
  evidenceDigest : Str
  startedAt : Instant
  completedAt : Instant
  elapsedMs : Int
  issuedAt : Instant
  deriving DecidableEq

structure ReceiptFields extends SignedFields where
  keyId : Str
  publicKeySha256 : Str
  signatureB64 : Str
  contract : Str
  signatureAlgorithm : Str
  deriving DecidableEq

/-- `INVOCATION_RECEIPT_CONTRACT`. -/
def invocationReceiptContract : Str := str "frinz-agent-invocation-receipt-v1"

/-- `INVOCATION_RECEIPT_SIGNATURE_ALGORITHM`. -/
def invocationReceiptSignatureAlgorithm : Str := str "Ed25519"

/-- `FRINZ_AUTHENTICATED_HTTP_TRANSPORT`. -/
def frinzAuthenticatedHttpTransport : Str := str "frinz_authenticated_http"

/-- `timedelta.total_seconds()`. -/
def totalSeconds (microseconds : Int) : Number := binary64 ((microseconds : ℚ) / 1000000)

/-- `round((completed_at - started_at).total_seconds() * 1000)`. -/
def expectedElapsedMs (startedAt completedAt : Instant) : Except String Int :=
  match totalSeconds (completedAt - startedAt) with
  | .finite elapsed =>
      match binary64 (elapsed * 1000) with
      | .finite ms => .ok (roundEven ms)
      | _ => .error "cannot convert float infinity to integer"
  | _ => .error "cannot convert float infinity to integer"

/-- `ServerInvokeReceipt.__post_init__`. -/
def ReceiptFields.check (texts : ReceiptTexts) (r : ReceiptFields) : Except String Unit := do
  refuse (r.contract ≠ invocationReceiptContract) "invocation receipt contract differs"
  refuse (r.signatureAlgorithm ≠ invocationReceiptSignatureAlgorithm)
    "invocation receipt signature algorithm differs"
  [("receipt_id", r.receiptId), ("run_id", r.runId), ("phase", r.phase),
    ("request_id", r.requestId), ("companion_id", r.companionId), ("agent_id", r.agentId),
    ("transport", r.transport), ("key_id", r.keyId)].forM fun named =>
      safeIdentifier ("invocation receipt " ++ named.1) named.2
  refuse (r.transport ≠ frinzAuthenticatedHttpTransport)
    "invocation receipt transport is not authenticated Frinz HTTP"
  relativeRoute "invocation receipt route" r.route
  [("owner_binding_sha256", r.ownerBindingSha256), ("input_sha256", r.inputSha256),
    ("response_sha256", r.responseSha256), ("evidence_digest", r.evidenceDigest),
    ("public_key_sha256", r.publicKeySha256)].forM fun named =>
      sha256Digest ("invocation receipt " ++ named.1) named.2
  [("operation_digest", r.operationDigest), ("quote_digest", r.quoteDigest),
    ("resource_plan_digest", r.resourcePlanDigest)].forM fun named =>
      optional sha256Digest ("invocation receipt " ++ named.1) named.2
  [("model", r.model), ("provider", r.provider), ("session_id", r.sessionId)].forM fun named =>
    optional safeIdentifier ("invocation receipt " ++ named.1) named.2
  [r.startedAt, r.completedAt, r.issuedAt].forM fun t => (iso texts t).map fun _ => ()
  refuse (¬ (r.startedAt ≤ r.completedAt ∧ r.completedAt ≤ r.issuedAt))
    "invocation receipt timestamps are misordered"
  refuse (r.elapsedMs < 0) "invocation receipt elapsed time is invalid"
  let elapsed ← expectedElapsedMs r.startedAt r.completedAt
  refuse (r.elapsedMs ≠ elapsed) "invocation receipt elapsed time differs from its timestamps"
  (receiptSignature r.signatureB64.text).map fun _ => ()

/-- `ServerInvokeReceipt`. -/
structure Receipt (texts : ReceiptTexts) extends ReceiptFields where
  checked : toReceiptFields.check texts = .ok ()

/-- Construct a receipt, or fail as `__post_init__` does. -/
def Receipt.build (texts : ReceiptTexts) (r : ReceiptFields) : Except String (Receipt texts) :=
  match checked : r.check texts with
  | .ok () => .ok ⟨r, checked⟩
  | .error text => .error text

/-! ## Payloads -/

/-- The value under a literal key. -/
def lookup (entries : List (Str × Json)) (key : String) : Option Json := valueOf entries (str key)

/-- `set(value) == names`. -/
def hasFields (entries : List (Str × Json)) (names : List String) : Bool :=
  (entries.all fun entry => (names.map str).contains entry.1) &&
    names.all fun name => entries.any fun entry => entry.1 = str name

def optionalJson : Option Str → Json
  | some value => .string value
  | none => .null

/-- The entries of the signed payload, with the texts of its times. -/
def SignedFields.entries (r : SignedFields) (startedAt completedAt issuedAt : Str) :
    List (Str × Json) :=
  [(str "run_id", .string r.runId),
    (str "phase", .string r.phase),
    (str "route", .string r.route),
    (str "request_id", .string r.requestId),
    (str "owner_binding_sha256", .string r.ownerBindingSha256),
    (str "companion_id", .string r.companionId),
    (str "agent_id", .string r.agentId),
    (str "input_sha256", .string r.inputSha256),
    (str "response_sha256", .string r.responseSha256),
    (str "transport", .string r.transport),
    (str "model", optionalJson r.model),
    (str "provider", optionalJson r.provider),
    (str "session_id", optionalJson r.sessionId),
    (str "operation_digest", optionalJson r.operationDigest),
    (str "quote_digest", optionalJson r.quoteDigest),
    (str "resource_plan_digest", optionalJson r.resourcePlanDigest),
    (str "evidence_digest", .string r.evidenceDigest),
    (str "started_at", .string startedAt),
    (str "completed_at", .string completedAt),
    (str "elapsed_ms", .number (intText r.elapsedMs)),
    (str "issued_at", .string issuedAt),
    (str "receipt_id", .string r.receiptId)]

/-- `signed_payload`. -/
def SignedFields.signedPayload (texts : ReceiptTexts) (r : SignedFields) : Except String Json := do
  let startedAt ← iso texts r.startedAt
  let completedAt ← iso texts r.completedAt
  let issuedAt ← iso texts r.issuedAt
  .ok (.object (r.entries startedAt completedAt issuedAt))

/-- The entries of a payload's signature. -/
def signatureEntries (algorithm keyId publicKeySha256 value : Str) : List (Str × Json) :=
  [(str "algorithm", .string algorithm), (str "key_id", .string keyId),
    (str "public_key_sha256", .string publicKeySha256), (str "value", .string value)]

/-- The envelope of a payload and its signature. -/
def envelope (contract : Str) (payload : Json) (algorithm keyId publicKeySha256 value : Str) :
    Json :=
  .object [(str "contract", .string contract), (str "payload", payload),
    (str "signature", .object (signatureEntries algorithm keyId publicKeySha256 value))]

/-- `to_payload`. -/
def Receipt.toPayload {texts : ReceiptTexts} (r : Receipt texts) : Except String Json := do
  let payload ← r.signedPayload texts
  .ok (envelope r.contract payload r.signatureAlgorithm r.keyId r.publicKeySha256 r.signatureB64)

/-- `_required_payload_string`. -/
def requiredPayloadString (value : Option Json) (name : String) : Except String Str :=
  match value with
  | some (.string points) => .ok points
  | _ => .error (name ++ " must be a string")

/-- `_optional_payload_string`. -/
def optionalPayloadString (value : Option Json) (name : String) : Except String (Option Str) :=
  match value with
  | some .null => .ok none
  | some (.string points) => .ok (some points)
  | _ => .error (name ++ " must be a string or null")

/-- `_optional_sha256`, of a payload's value. -/
def optionalPayloadSha256 (name : String) (value : Option Json) : Except String (Option Str) :=
  match value with
  | some .null => .ok none
  | some (.string points) => do
      sha256Digest name points
      .ok (some points)
  | _ => .error (name ++ " must be a prefixed SHA-256 digest")

/-- `_parse_time`, of a payload's value. -/
def payloadTime (texts : ReceiptTexts) (value : Option Json) (name : String) :
    Except String Instant :=
  match value with
  | some (.string points) => parseTime texts points name
  | _ => .error (name ++ " must be an ISO-8601 timestamp")

/-- `_strict_int`. -/
def strictInt (value : Option Json) (name : String) : Except String Int :=
  match value with
  | some (.number literal) =>
      match readInt literal with
      | some n => .ok n
      | none => .error (name ++ " must be an integer")
  | _ => .error (name ++ " must be an integer")

def payloadFields : List String :=
  ["run_id", "phase", "route", "request_id", "owner_binding_sha256", "companion_id", "agent_id",
    "input_sha256", "response_sha256", "transport", "model", "provider", "session_id",
    "operation_digest", "quote_digest", "resource_plan_digest", "evidence_digest", "started_at",
    "completed_at", "elapsed_ms", "issued_at", "receipt_id"]

def signatureFields : List String := ["algorithm", "key_id", "public_key_sha256", "value"]

/-- The fields of `from_payload`, in the order in which they are read. -/
def receiptFields (texts : ReceiptTexts) (contract : Option Json)
    (payload signature : List (Str × Json)) : Except String ReceiptFields := do
  let contract ← requiredPayloadString contract "receipt.contract"
  let receiptId ← requiredPayloadString (lookup payload "receipt_id") "receipt.receipt_id"
  let runId ← requiredPayloadString (lookup payload "run_id") "receipt.run_id"
  let phase ← requiredPayloadString (lookup payload "phase") "receipt.phase"
  let route ← requiredPayloadString (lookup payload "route") "receipt.route"
  let requestId ← requiredPayloadString (lookup payload "request_id") "receipt.request_id"
  let ownerBindingSha256 ←
    requiredPayloadString (lookup payload "owner_binding_sha256") "receipt.owner_binding_sha256"
  let companionId ← requiredPayloadString (lookup payload "companion_id") "receipt.companion_id"
  let agentId ← requiredPayloadString (lookup payload "agent_id") "receipt.agent_id"
  let inputSha256 ← requiredPayloadString (lookup payload "input_sha256") "receipt.input_sha256"
  let responseSha256 ←
    requiredPayloadString (lookup payload "response_sha256") "receipt.response_sha256"
  let transport ← requiredPayloadString (lookup payload "transport") "receipt.transport"
  let model ← optionalPayloadString (lookup payload "model") "receipt.model"
  let provider ← optionalPayloadString (lookup payload "provider") "receipt.provider"
  let sessionId ← optionalPayloadString (lookup payload "session_id") "receipt.session_id"
  let operationDigest ←
    optionalPayloadSha256 "receipt.operation_digest" (lookup payload "operation_digest")
  let quoteDigest ← optionalPayloadSha256 "receipt.quote_digest" (lookup payload "quote_digest")
  let resourcePlanDigest ←
    optionalPayloadSha256 "receipt.resource_plan_digest" (lookup payload "resource_plan_digest")
  let evidenceDigest ←
    requiredPayloadString (lookup payload "evidence_digest") "receipt.evidence_digest"
  let startedAt ← payloadTime texts (lookup payload "started_at") "receipt.started_at"
  let completedAt ← payloadTime texts (lookup payload "completed_at") "receipt.completed_at"
  let elapsedMs ← strictInt (lookup payload "elapsed_ms") "receipt.elapsed_ms"
  let issuedAt ← payloadTime texts (lookup payload "issued_at") "receipt.issued_at"
  let keyId ← requiredPayloadString (lookup signature "key_id") "receipt.signature.key_id"
  let publicKeySha256 ← requiredPayloadString (lookup signature "public_key_sha256")
    "receipt.signature.public_key_sha256"
  let signatureB64 ← requiredPayloadString (lookup signature "value") "receipt.signature.value"
  let signatureAlgorithm ←
    requiredPayloadString (lookup signature "algorithm") "receipt.signature.algorithm"
  .ok { receiptId, runId, phase, route, requestId, ownerBindingSha256, companionId, agentId
        inputSha256, responseSha256, transport, model, provider, sessionId, operationDigest
        quoteDigest, resourcePlanDigest, evidenceDigest, startedAt, completedAt, elapsedMs
        issuedAt, keyId, publicKeySha256, signatureB64, contract, signatureAlgorithm }

/-- `from_payload`. -/
def Receipt.fromPayload (texts : ReceiptTexts) : Json → Except String (Receipt texts)
  | .object entries =>
      if hasFields entries ["contract", "payload", "signature"] then
        match lookup entries "payload", lookup entries "signature" with
        | some (.object payload), some (.object signature) =>
            if hasFields payload payloadFields && hasFields signature signatureFields then do
              let fields ← receiptFields texts (lookup entries "contract") payload signature
              Receipt.build texts fields
            else .error "invocation receipt payload fields differ"
        | _, _ => .error "invocation receipt payload fields differ"
      else .error "invocation receipt envelope fields differ"
  | _ => .error "invocation receipt envelope fields differ"

/-! ## What the checks say -/

section

variable {texts : ReceiptTexts} {r : ReceiptFields} {wrong : Prop} [Decidable wrong] {text : String}

theorem refuse_ok : refuse wrong text = .ok () ↔ ¬ wrong := by
  unfold refuse
  split <;> simp_all

theorem iso_ok {t : Instant} {written : Str} : iso texts t = .ok written ↔
    (calendarMin ≤ t ∧ t ≤ calendarMax) ∧ written = texts.isoFormat t := by
  unfold iso
  split
  · rename_i dated
    rw [Except.ok.injEq]
    exact ⟨fun same => ⟨dated, same.symm⟩, fun all => all.2.symm⟩
  · rename_i undated
    constructor
    · intro ok
      cases ok
    · intro all
      exact absurd all.1 undated

theorem safeIdentifier_ok {name : String} {value : Str} :
    safeIdentifier name value = .ok () ↔ isSafeIdentifier value = true := by
  rw [safeIdentifier, refuse_ok, Bool.not_eq_false]

theorem sha256Digest_ok {name : String} {value : Str} :
    sha256Digest name value = .ok () ↔ isSha256 value = true := by
  rw [sha256Digest, refuse_ok, Bool.not_eq_false]

theorem optional_ok {check : String → Str → Except String Unit} {name : String}
    {value : Option Str} :
    optional check name value = .ok () ↔ ∀ present ∈ value, check name present = .ok () := by
  cases value with
  | none =>
      constructor
      · intro _ present member
        cases member
      · intro _
        rfl
  | some value =>
      constructor
      · intro ok present member
        cases member
        exact ok
      · intro each
        exact each value rfl

theorem map_ok {ε α β : Type} {e : Except ε α} {f : α → β} {b : β} :
    e.map f = .ok b ↔ ∃ a, e = .ok a ∧ f a = b := by
  cases e with
  | ok a => simp [Except.map]
  | error x => simp [Except.map]

/-- What the constructor has checked. -/
structure ReceiptFields.Sound (r : ReceiptFields) : Prop where
  contract : r.contract = invocationReceiptContract
  algorithm : r.signatureAlgorithm = invocationReceiptSignatureAlgorithm
  identifiers : ∀ value ∈ [r.receiptId, r.runId, r.phase, r.requestId, r.companionId, r.agentId,
    r.transport, r.keyId], isSafeIdentifier value = true
  route : isRelativeRoute r.route = true
  digests : ∀ value ∈ [r.ownerBindingSha256, r.inputSha256, r.responseSha256, r.evidenceDigest,
    r.publicKeySha256], isSha256 value = true
  optionalDigests : ∀ value ∈ [r.operationDigest, r.quoteDigest, r.resourcePlanDigest],
    ∀ present ∈ value, isSha256 present = true
  optionalIdentifiers : ∀ value ∈ [r.model, r.provider, r.sessionId],
    ∀ present ∈ value, isSafeIdentifier present = true
  dated : ∀ t ∈ [r.startedAt, r.completedAt, r.issuedAt], calendarMin ≤ t ∧ t ≤ calendarMax
  elapsed : 0 ≤ r.elapsedMs
  signature : ∃ bytes, receiptSignature r.signatureB64.text = .ok bytes

theorem ReceiptFields.sound_of_check (checked : r.check texts = .ok ()) : r.Sound := by
  unfold ReceiptFields.check at checked
  obtain ⟨contract, checked⟩ := check_bind_ok.mp checked
  obtain ⟨algorithm, checked⟩ := check_bind_ok.mp checked
  obtain ⟨identifiers, checked⟩ := check_bind_ok.mp checked
  obtain ⟨-, checked⟩ := check_bind_ok.mp checked
  obtain ⟨route, checked⟩ := check_bind_ok.mp checked
  obtain ⟨digests, checked⟩ := check_bind_ok.mp checked
  obtain ⟨optionalDigests, checked⟩ := check_bind_ok.mp checked
  obtain ⟨optionalIdentifiers, checked⟩ := check_bind_ok.mp checked
  obtain ⟨dated, checked⟩ := check_bind_ok.mp checked
  obtain ⟨-, checked⟩ := check_bind_ok.mp checked
  obtain ⟨elapsed, checked⟩ := check_bind_ok.mp checked
  obtain ⟨_, -, checked⟩ := except_bind_ok.mp checked
  obtain ⟨-, signed⟩ := check_bind_ok.mp checked
  obtain ⟨bytes, signature, -⟩ := map_ok.mp signed
  rw [refuse_ok] at contract algorithm elapsed
  unfold relativeRoute at route
  rw [refuse_ok] at route
  rw [forM_ok_iff] at identifiers digests optionalDigests optionalIdentifiers dated
  constructor
  · exact not_not.mp contract
  · exact not_not.mp algorithm
  · simpa [safeIdentifier_ok] using identifiers
  · simp only [not_or, Bool.not_eq_false] at route
    exact route.1
  · simpa [sha256Digest_ok] using digests
  · simpa [optional_ok, sha256Digest_ok] using optionalDigests
  · simpa [optional_ok, safeIdentifier_ok] using optionalIdentifiers
  · intro t member
    obtain ⟨_, written, -⟩ := map_ok.mp (dated t member)
    exact (iso_ok.mp written).1
  · omega
  · exact ⟨bytes, signature⟩

theorem Receipt.sound (r : Receipt texts) : r.toReceiptFields.Sound :=
  ReceiptFields.sound_of_check r.checked

theorem Receipt.build_of_check (checked : r.check texts = .ok ()) :
    Receipt.build texts r = .ok ⟨r, checked⟩ := by
  unfold Receipt.build
  split
  · rfl
  · rename_i failed
    rw [checked] at failed
    cases failed

theorem Receipt.build_ok {built : Receipt texts} :
    Receipt.build texts r = .ok built ↔ built.toReceiptFields = r := by
  constructor
  · unfold Receipt.build
    split
    · intro ok
      cases ok
      rfl
    · intro ok
      cases ok
  · rintro rfl
    exact Receipt.build_of_check built.checked

/-- The entries of a receipt's signed payload. -/
def Receipt.statement (r : Receipt texts) : List (Str × Json) :=
  r.entries (texts.isoFormat r.startedAt) (texts.isoFormat r.completedAt)
    (texts.isoFormat r.issuedAt)

/-- The times of a receipt have texts. -/
theorem Receipt.signedPayload_eq (r : Receipt texts) :
    r.signedPayload texts = .ok (.object r.statement) := by
  have dated := r.sound.dated
  simp only [List.forall_mem_cons] at dated
  obtain ⟨started, completed, issued, -⟩ := dated
  unfold SignedFields.signedPayload
  rw [iso_ok.mpr ⟨started, rfl⟩, iso_ok.mpr ⟨completed, rfl⟩, iso_ok.mpr ⟨issued, rfl⟩]
  rfl

/-! ### Round trip -/

theorem parseTime_isoFormat {t : Instant} {name : String}
    (dated : calendarMin ≤ t ∧ t ≤ calendarMax) :
    parseTime texts (texts.isoFormat t) name = .ok t := by
  unfold parseTime
  rw [texts.isoFormat_reads t dated.1 dated.2]
  exact if_pos dated

theorem optionalPayloadString_json {value : Option Str} {name : String} :
    optionalPayloadString (some (optionalJson value)) name = .ok value := by
  cases value <;> rfl

theorem optionalPayloadSha256_json {value : Option Str} {name : String}
    (digest : ∀ present ∈ value, isSha256 present = true) :
    optionalPayloadSha256 name (some (optionalJson value)) = .ok value := by
  cases value with
  | none => rfl
  | some present =>
      simp only [optionalPayloadSha256, optionalJson, sha256Digest_ok.mpr (digest present rfl)]
      rfl

theorem strictInt_intText {n : Int} {name : String} :
    strictInt (some (.number (intText n))) name = .ok n := by
  simp only [strictInt, readInt_intText]

section

variable (f : SignedFields) (a b c algorithm keyId publicKeySha256 value : Str)

/-- The lookups of `from_payload` in a payload. -/
theorem SignedFields.entries_texts :
    lookup (f.entries a b c) "receipt_id" = some (.string f.receiptId) ∧
    lookup (f.entries a b c) "run_id" = some (.string f.runId) ∧
    lookup (f.entries a b c) "phase" = some (.string f.phase) ∧
    lookup (f.entries a b c) "route" = some (.string f.route) ∧
    lookup (f.entries a b c) "request_id" = some (.string f.requestId) ∧
    lookup (f.entries a b c) "owner_binding_sha256" = some (.string f.ownerBindingSha256) ∧
    lookup (f.entries a b c) "companion_id" = some (.string f.companionId) ∧
    lookup (f.entries a b c) "agent_id" = some (.string f.agentId) ∧
    lookup (f.entries a b c) "input_sha256" = some (.string f.inputSha256) ∧
    lookup (f.entries a b c) "response_sha256" = some (.string f.responseSha256) ∧
    lookup (f.entries a b c) "transport" = some (.string f.transport) ∧
    lookup (f.entries a b c) "evidence_digest" = some (.string f.evidenceDigest) :=
  ⟨rfl, rfl, rfl, rfl, rfl, rfl, rfl, rfl, rfl, rfl, rfl, rfl⟩

theorem SignedFields.entries_optional :
    lookup (f.entries a b c) "model" = some (optionalJson f.model) ∧
    lookup (f.entries a b c) "provider" = some (optionalJson f.provider) ∧
    lookup (f.entries a b c) "session_id" = some (optionalJson f.sessionId) ∧
    lookup (f.entries a b c) "operation_digest" = some (optionalJson f.operationDigest) ∧
    lookup (f.entries a b c) "quote_digest" = some (optionalJson f.quoteDigest) ∧
    lookup (f.entries a b c) "resource_plan_digest" = some (optionalJson f.resourcePlanDigest) :=
  ⟨rfl, rfl, rfl, rfl, rfl, rfl⟩

theorem SignedFields.entries_times :
    lookup (f.entries a b c) "started_at" = some (.string a) ∧
    lookup (f.entries a b c) "completed_at" = some (.string b) ∧
    lookup (f.entries a b c) "elapsed_ms" = some (.number (intText f.elapsedMs)) ∧
    lookup (f.entries a b c) "issued_at" = some (.string c) :=
  ⟨rfl, rfl, rfl, rfl⟩

theorem signatureEntries_texts :
    lookup (signatureEntries algorithm keyId publicKeySha256 value) "key_id" =
      some (.string keyId) ∧
    lookup (signatureEntries algorithm keyId publicKeySha256 value) "public_key_sha256" =
      some (.string publicKeySha256) ∧
    lookup (signatureEntries algorithm keyId publicKeySha256 value) "value" =
      some (.string value) ∧
    lookup (signatureEntries algorithm keyId publicKeySha256 value) "algorithm" =
      some (.string algorithm) :=
  ⟨rfl, rfl, rfl, rfl⟩

end

/-- The entries of a payload with its signature are read as the fields. -/
theorem receiptFields_entries
    (dated : ∀ t ∈ [r.startedAt, r.completedAt, r.issuedAt], calendarMin ≤ t ∧ t ≤ calendarMax)
    (digests : ∀ value ∈ [r.operationDigest, r.quoteDigest, r.resourcePlanDigest],
      ∀ present ∈ value, isSha256 present = true) :
    receiptFields texts (some (.string r.contract))
      (r.entries (texts.isoFormat r.startedAt) (texts.isoFormat r.completedAt)
        (texts.isoFormat r.issuedAt))
      (signatureEntries r.signatureAlgorithm r.keyId r.publicKeySha256 r.signatureB64) = .ok r := by
  simp only [List.forall_mem_cons] at dated digests
  obtain ⟨started, completed, issued, -⟩ := dated
  obtain ⟨operation, quote, plan, -⟩ := digests
  unfold receiptFields
  simp only [SignedFields.entries_texts, SignedFields.entries_optional, SignedFields.entries_times,
    signatureEntries_texts, requiredPayloadString, optionalPayloadString_json,
    optionalPayloadSha256_json operation, optionalPayloadSha256_json quote,
    optionalPayloadSha256_json plan, payloadTime, parseTime_isoFormat started,
    parseTime_isoFormat completed, parseTime_isoFormat issued, strictInt_intText]
  rfl

/-- The envelope of a payload has the fields that are read. -/
theorem fromPayload_envelope {f : SignedFields}
    {contract algorithm keyId publicKeySha256 value a b c : Str} :
    Receipt.fromPayload texts
        (envelope contract (.object (f.entries a b c)) algorithm keyId publicKeySha256 value) =
      (receiptFields texts (some (.string contract)) (f.entries a b c)
        (signatureEntries algorithm keyId publicKeySha256 value)).bind (Receipt.build texts) :=
  rfl

/-- A receipt has a payload, and is read back from it. -/
theorem Receipt.round_trip (r : Receipt texts) :
    ∃ payload, r.toPayload = .ok payload ∧ Receipt.fromPayload texts payload = .ok r := by
  refine ⟨envelope r.contract (.object r.statement) r.signatureAlgorithm r.keyId r.publicKeySha256
    r.signatureB64, ?_, ?_⟩
  · unfold Receipt.toPayload
    rw [r.signedPayload_eq]
    rfl
  · unfold Receipt.statement
    rw [fromPayload_envelope, receiptFields_entries r.sound.dated r.sound.optionalDigests]
    exact Receipt.build_of_check r.checked

/-- The envelope of a receipt's payload is read as its signed fields, with the other signature. -/
theorem fromPayload_statement {u made : Receipt texts}
    {contract algorithm keyId publicKeySha256 value : Str}
    (read : Receipt.fromPayload texts
      (envelope contract (.object u.statement) algorithm keyId publicKeySha256 value) = .ok made) :
    made.toReceiptFields =
      ⟨u.toSignedFields, keyId, publicKeySha256, value, contract, algorithm⟩ := by
  let fields : ReceiptFields :=
    ⟨u.toSignedFields, keyId, publicKeySha256, value, contract, algorithm⟩
  have entries : receiptFields texts (some (.string contract)) u.statement
      (signatureEntries algorithm keyId publicKeySha256 value) = .ok fields :=
    receiptFields_entries (r := fields) u.sound.dated u.sound.optionalDigests
  unfold Receipt.statement at read entries
  rw [fromPayload_envelope, entries] at read
  exact Receipt.build_ok.mp read

/-! ### What is signed is plain -/

theorem ascii_of_alphanumeric {p : ℕ} (is : isAlphanumeric p = true) : p < 128 := by
  simp only [isAlphanumeric, isWithin, Bool.or_eq_true, Bool.and_eq_true, decide_eq_true_eq] at is
  have z : 'z'.toNat = 122 := rfl
  have Z : 'Z'.toNat = 90 := rfl
  have nine : '9'.toNat = 57 := rfl
  omega

theorem ascii_of_contains {characters : Str} {p : ℕ} (small : ∀ q ∈ characters, q < 128)
    (is : characters.contains p = true) : p < 128 :=
  small p (List.contains_iff_mem.mp is)

theorem ascii_of_hexPoint {p : ℕ} (is : isHexPoint p = true) : p < 128 := by
  simp only [isHexPoint, isWithin, Bool.or_eq_true, Bool.and_eq_true, decide_eq_true_eq] at is
  have f : 'f'.toNat = 102 := rfl
  have nine : '9'.toNat = 57 := rfl
  omega

theorem readable_of_identifier {value : Str} (safe : isSafeIdentifier value = true) :
    Readable value := by
  refine readable_of_ascii ?_
  cases value with
  | nil => cases safe
  | cons first rest =>
      simp only [isSafeIdentifier, Bool.and_eq_true, List.all_eq_true, Bool.or_eq_true] at safe
      obtain ⟨⟨start, -⟩, each⟩ := safe
      intro p member
      rcases List.mem_cons.mp member with rfl | member
      · exact ascii_of_alphanumeric start
      · rcases each p member with letter | sign
        · exact ascii_of_alphanumeric letter
        · exact ascii_of_contains (by decide) sign

theorem readable_of_digest {value : Str} (digest : isSha256 value = true) : Readable value := by
  refine readable_of_ascii ?_
  simp only [isSha256, Bool.and_eq_true, decide_eq_true_eq, List.all_eq_true] at digest
  obtain ⟨⟨named, -⟩, each⟩ := digest
  have small : ∀ q ∈ str "sha256:", q < 128 := by decide
  intro p member
  rw [← List.take_append_drop 7 value, List.mem_append, named] at member
  rcases member with start | hex
  · exact small p start
  · exact ascii_of_hexPoint (each p hex)

theorem readable_of_route {value : Str} (route : isRelativeRoute value = true) :
    Readable value := by
  refine readable_of_ascii ?_
  cases value with
  | nil => cases route
  | cons first rest =>
      simp only [isRelativeRoute, Bool.and_eq_true, List.all_eq_true, Bool.or_eq_true,
        decide_eq_true_eq] at route
      obtain ⟨⟨⟨start, -⟩, -⟩, each⟩ := route
      intro p member
      rcases List.mem_cons.mp member with rfl | member
      · rw [start]
        decide
      · rcases each p member with letter | sign
        · exact ascii_of_alphanumeric letter
        · exact ascii_of_contains (by decide) sign

theorem plain_optionalJson {value : Option Str} (readable : ∀ present ∈ value, Readable present) :
    (optionalJson value).Plain := by
  cases value with
  | none => rw [optionalJson, Json.Plain] <;> simp
  | some present =>
      rw [optionalJson, Json.Plain]
      exact readable present rfl

/-- The signed payload of a receipt is read back from its canonical text. -/
theorem ReceiptFields.Sound.plain (sound : r.Sound) :
    (Json.object (r.entries (texts.isoFormat r.startedAt) (texts.isoFormat r.completedAt)
      (texts.isoFormat r.issuedAt))).Plain := by
  rw [Json.Plain]
  refine ⟨?_, plainEntries_iff.mpr ?_⟩
  · have distinct : (payloadFields.map str).Nodup := by decide
    exact distinct
  · have identifiers := sound.identifiers
    have digests := sound.digests
    have optionalDigests := sound.optionalDigests
    have optionalIdentifiers := sound.optionalIdentifiers
    simp only [List.forall_mem_cons] at identifiers digests optionalDigests optionalIdentifiers
    obtain ⟨receiptId, runId, phase, requestId, companionId, agentId, transport, -⟩ := identifiers
    obtain ⟨owner, input, response, evidence, -⟩ := digests
    obtain ⟨operation, quote, plan, -⟩ := optionalDigests
    obtain ⟨model, provider, session, -⟩ := optionalIdentifiers
    have time : ∀ t, Readable (texts.isoFormat t) := fun t =>
      readable_of_ascii (texts.isoFormat_ascii t)
    have keys : ∀ key ∈ payloadFields.map str, Readable key := by
      have ascii : ∀ key ∈ payloadFields.map str, ∀ p ∈ key, p < 128 := by decide
      exact fun key member => readable_of_ascii (ascii key member)
    have values : ∀ e ∈ r.entries (texts.isoFormat r.startedAt) (texts.isoFormat r.completedAt)
        (texts.isoFormat r.issuedAt), e.2.Plain := by
      simp only [SignedFields.entries, List.forall_mem_cons, Json.Plain]
      exact ⟨readable_of_identifier runId, readable_of_identifier phase,
        readable_of_route sound.route, readable_of_identifier requestId, readable_of_digest owner,
        readable_of_identifier companionId, readable_of_identifier agentId,
        readable_of_digest input, readable_of_digest response, readable_of_identifier transport,
        plain_optionalJson fun d is => readable_of_identifier (model d is),
        plain_optionalJson fun d is => readable_of_identifier (provider d is),
        plain_optionalJson fun d is => readable_of_identifier (session d is),
        plain_optionalJson fun d is => readable_of_digest (operation d is),
        plain_optionalJson fun d is => readable_of_digest (quote d is),
        plain_optionalJson fun d is => readable_of_digest (plan d is),
        readable_of_digest evidence, time _, time _, literal_intText _, time _,
        readable_of_identifier receiptId, fun _ member => absurd member List.not_mem_nil⟩
    exact fun e member => ⟨keys e.1 (List.mem_map_of_mem member), values e member⟩

end

end KestrelRunpod.Invocations
