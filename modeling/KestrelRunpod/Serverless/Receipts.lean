import KestrelRunpod.Serverless.Quote
import KestrelRunpod.Serverless.Readback

/-!
# Serverless custody receipts

The receipt of an activation, the intent and the receipt of a cleanup.  A receipt carries the
digest of its own identity, and its constructor recomputes it; the identity of a receipt is
the record that is digested.
-/

namespace KestrelRunpod.Serverless

/-! ## Activation -/

/-- What `provider_activation_id` digests. -/
structure ActivationIdentity where
  contractVersion : String
  providerQuoteId : String
  quoteSha256 : String
  planId : String
  planSha256 : String
  endpointName : String
  endpointId : String
  endpointSpecSha256 : String
  operationDigest : String
  endpointReadbackSha256 : String
  createStartedAt : Instant
  activatedAt : Instant
  readbackAt : Instant
  reconciledAfterAmbiguousCreate : Bool
  deriving DecidableEq, Repr

structure ActivationFields extends ActivationIdentity where
  schemaVersion : Int
  providerActivationId : String
  deriving DecidableEq, Repr

/-! ## Cleanup -/

/-- What a cleanup receipt repeats of its activation. -/
structure CleanupBinding where
  contractVersion : String
  providerQuoteId : String
  quoteSha256 : String
  providerActivationId : String
  endpointName : String
  endpointId : String
  endpointSpecSha256 : String
  operationDigest : String
  endpointReadbackSha256 : String
  deriving DecidableEq, Repr

/-- What `provider_cleanup_id` digests; evidence version 1 digests no basis. -/
structure CleanupIdentity extends CleanupBinding where
  workersZeroObservedAt : Instant
  deleteStartedAt : Instant
  verifiedAbsentAt : Instant
  reconciledAfterDeleteError : Bool
  evidence : Option (Int × Option String)
  deriving DecidableEq, Repr

structure CleanupFields extends CleanupBinding where
  schemaVersion : Int
  providerCleanupId : String
  workersZeroObservedAt : Instant
  deleteStartedAt : Instant
  verifiedAbsentAt : Instant
  reconciledAfterDeleteError : Bool
  cleanupEvidenceVersion : Int := 1
  cleanupBasis : Option String := none
  deriving DecidableEq, Repr

/-- `json_sha256` on the records of a quote and of its custody. -/
structure Digests extends QuoteDigests where
  activation : ActivationIdentity → String
  cleanup : CleanupIdentity → String
  readback : ReadbackIdentity → String
  activation_hex : ∀ i, Pod.isSha256 (activation i) = true
  cleanup_hex : ∀ i, Pod.isSha256 (cleanup i) = true
  readback_hex : ∀ i, Pod.isSha256 (readback i) = true

section

variable (d : Digests)

/-- `ServerlessEndpointActivationReceipt.__post_init__`. -/
def ActivationFields.check (a : ActivationFields) : Except Exn Unit := do
  supported a.schemaVersion a.contractVersion "Serverless activation"
  safeIdentifier a.providerActivationId "provider_activation_id"
  safeIdentifier a.providerQuoteId "provider_quote_id"
  safeIdentifier a.planId "plan_id"
  safeIdentifier a.endpointName "endpoint_name"
  safeIdentifier a.endpointId "endpoint_id"
  sha256Digest a.quoteSha256 "quote_sha256"
  sha256Digest a.planSha256 "plan_sha256"
  sha256Digest a.endpointSpecSha256 "endpoint_spec_sha256"
  sha256Digest a.operationDigest "operation_digest"
  sha256Digest a.endpointReadbackSha256 "endpoint_readback_sha256"
  refuse (¬ (a.createStartedAt ≤ a.activatedAt ∧ a.activatedAt ≤ a.readbackAt))
    (.valueError "Serverless activation timestamps are inconsistent")
  refuse (a.providerActivationId ≠
      "runpod-serverless-activation:" ++ d.activation a.toActivationIdentity)
    (.valueError "Serverless activation identity digest is inconsistent")

/-- `ServerlessEndpointActivationReceipt`. -/
structure ActivationReceipt extends ActivationFields where
  checked : toActivationFields.check d = .ok ()
  deriving DecidableEq

/-- Construct an activation receipt, or fail as `__post_init__` does. -/
def ActivationReceipt.build (a : ActivationFields) : Except Exn (ActivationReceipt d) :=
  match checked : a.check d with
  | .ok () => .ok ⟨a, checked⟩
  | .error x => .error x

end

variable {d : Digests}

theorem ActivationReceipt.build_ok {a : ActivationFields} {receipt : ActivationReceipt d} :
    ActivationReceipt.build d a = .ok receipt ↔ receipt.toActivationFields = a := by
  unfold ActivationReceipt.build
  split
  · rename_i checked
    constructor
    · intro ok
      cases ok
      rfl
    · intro same
      obtain ⟨fields, _⟩ := receipt
      cases same
      rfl
  · rename_i x failed
    constructor
    · intro ok
      cases ok
    · intro same
      have passed := receipt.checked
      rw [same, failed] at passed
      cases passed

/-- `ServerlessEndpointActivationReceipt.validate_quote`. -/
def ActivationReceipt.validateQuote (a : ActivationReceipt d) (quote : CapacityQuote) :
    Except Exn Unit :=
  refuse (a.providerQuoteId ≠ quote.providerQuoteId ∨ a.quoteSha256 ≠ d.quote quote ∨
      a.planId ≠ quote.planId ∨ a.planSha256 ≠ quote.planSha256 ∨
      a.endpointName ≠ quote.endpointName ∨
      a.endpointSpecSha256 ≠ quote.endpointSpecSha256 ∨
      a.operationDigest ≠ quote.operationDigest)
    (.manager "Serverless activation does not match the accepted planned quote")

/-- The part of an activation that its cleanup repeats. -/
def ActivationReceipt.cleanupBinding (a : ActivationReceipt d) : CleanupBinding where
  contractVersion := a.contractVersion
  providerQuoteId := a.providerQuoteId
  quoteSha256 := a.quoteSha256
  providerActivationId := a.providerActivationId
  endpointName := a.endpointName
  endpointId := a.endpointId
  endpointSpecSha256 := a.endpointSpecSha256
  operationDigest := a.operationDigest
  endpointReadbackSha256 := a.endpointReadbackSha256

/-! ### Intents -/

structure IntentFields (d : Digests) where
  schemaVersion : Int
  contractVersion : String
  activation : ActivationReceipt d
  workersZeroObservedAt : Instant
  deleteStartedAt : Instant
  deriving DecidableEq

/-- `ServerlessEndpointCleanupIntent.__post_init__`. -/
def IntentFields.check (i : IntentFields d) : Except Exn Unit := do
  supported i.schemaVersion i.contractVersion "Serverless cleanup intent"
  refuse (¬ (i.activation.readbackAt ≤ i.workersZeroObservedAt ∧
      i.workersZeroObservedAt ≤ i.deleteStartedAt))
    (.valueError "Serverless cleanup intent timestamps are inconsistent")

/-- `ServerlessEndpointCleanupIntent`. -/
structure CleanupIntent (d : Digests) extends IntentFields d where
  checked : toIntentFields.check = .ok ()
  deriving DecidableEq

/-- Construct a cleanup intent, or fail as `__post_init__` does. -/
def CleanupIntent.build (i : IntentFields d) : Except Exn (CleanupIntent d) :=
  match checked : i.check with
  | .ok () => .ok ⟨i, checked⟩
  | .error x => .error x

/-- `ServerlessEndpointCleanupIntent.validate_activation`. -/
def CleanupIntent.validateActivation (i : CleanupIntent d) (activation : ActivationReceipt d) :
    Except Exn Unit :=
  refuse (i.activation ≠ activation)
    (.manager "Serverless cleanup intent does not match its original activation")

/-! ### Receipts -/

/-- `_cleanup_identity`. -/
def CleanupFields.identity (c : CleanupFields) : CleanupIdentity where
  toCleanupBinding := c.toCleanupBinding
  workersZeroObservedAt := c.workersZeroObservedAt
  deleteStartedAt := c.deleteStartedAt
  verifiedAbsentAt := c.verifiedAbsentAt
  reconciledAfterDeleteError := c.reconciledAfterDeleteError
  evidence := if c.cleanupEvidenceVersion = 2 then some (2, c.cleanupBasis) else none

/-- `ServerlessEndpointCleanupReceipt.__post_init__`. -/
def CleanupFields.check (d : Digests) (c : CleanupFields) : Except Exn Unit := do
  supported c.schemaVersion c.contractVersion "Serverless cleanup"
  safeIdentifier c.providerCleanupId "provider_cleanup_id"
  safeIdentifier c.providerQuoteId "provider_quote_id"
  safeIdentifier c.providerActivationId "provider_activation_id"
  safeIdentifier c.endpointName "endpoint_name"
  safeIdentifier c.endpointId "endpoint_id"
  sha256Digest c.quoteSha256 "quote_sha256"
  sha256Digest c.endpointSpecSha256 "endpoint_spec_sha256"
  sha256Digest c.operationDigest "operation_digest"
  sha256Digest c.endpointReadbackSha256 "endpoint_readback_sha256"
  refuse (¬ (c.workersZeroObservedAt ≤ c.deleteStartedAt ∧
      c.deleteStartedAt ≤ c.verifiedAbsentAt))
    (.valueError "Serverless cleanup timestamps are inconsistent")
  refuse (c.cleanupEvidenceVersion ≠ 1 ∧ c.cleanupEvidenceVersion ≠ 2)
    (.valueError "Serverless cleanup evidence version is unsupported")
  (if c.cleanupEvidenceVersion = 1 then
    refuse (c.cleanupBasis ≠ none)
      (.valueError "Legacy Serverless cleanup cannot claim a new evidence basis")
  else
    refuse ((c.cleanupBasis, c.reconciledAfterDeleteError) ∉
        [(some "delete_acknowledged", false), (some "ambiguous_delete_verified_absent", true),
          (some "interrupted_intent_verified_absent", false)])
      (.valueError "Serverless cleanup evidence basis is inconsistent"))
  refuse (c.providerCleanupId ≠ "runpod-serverless-cleanup:" ++ d.cleanup c.identity)
    (.valueError "Serverless cleanup identity digest is inconsistent")

/-- `ServerlessEndpointCleanupReceipt`. -/
structure CleanupReceipt (d : Digests) extends CleanupFields where
  checked : toCleanupFields.check d = .ok ()
  deriving DecidableEq

/-- Construct a cleanup receipt, or fail as `__post_init__` does. -/
def CleanupReceipt.build (d : Digests) (c : CleanupFields) : Except Exn (CleanupReceipt d) :=
  match checked : c.check d with
  | .ok () => .ok ⟨c, checked⟩
  | .error x => .error x

/-- `ServerlessEndpointCleanupReceipt.validate_activation`. -/
def CleanupReceipt.validateActivation (c : CleanupReceipt d) (activation : ActivationReceipt d) :
    Except Exn Unit :=
  refuse (c.providerQuoteId ≠ activation.providerQuoteId ∨
      c.quoteSha256 ≠ activation.quoteSha256 ∨
      c.providerActivationId ≠ activation.providerActivationId ∨
      c.endpointName ≠ activation.endpointName ∨ c.endpointId ≠ activation.endpointId ∨
      c.endpointSpecSha256 ≠ activation.endpointSpecSha256 ∨
      c.operationDigest ≠ activation.operationDigest ∨
      c.endpointReadbackSha256 ≠ activation.endpointReadbackSha256)
    (.manager "Serverless cleanup does not match its endpoint activation")

/-- How a cleanup came to its end. -/
inductive CleanupBasis
  | deleteAcknowledged
  | ambiguousDeleteVerifiedAbsent
  | interruptedIntentVerifiedAbsent
  deriving DecidableEq, Repr

/-- The basis as a receipt states it. -/
def CleanupBasis.text : CleanupBasis → String
  | .deleteAcknowledged => "delete_acknowledged"
  | .ambiguousDeleteVerifiedAbsent => "ambiguous_delete_verified_absent"
  | .interruptedIntentVerifiedAbsent => "interrupted_intent_verified_absent"

/-- `_cleanup_receipt`. -/
def cleanupReceipt (intent : CleanupIntent d) (verifiedAbsentAt : Instant)
    (basis : CleanupBasis) : Except Exn (CleanupReceipt d) :=
  let binding := intent.activation.cleanupBinding
  let reconciled := decide (basis = .ambiguousDeleteVerifiedAbsent)
  let identity : CleanupIdentity := {
    toCleanupBinding := binding
    workersZeroObservedAt := intent.workersZeroObservedAt
    deleteStartedAt := intent.deleteStartedAt
    verifiedAbsentAt := verifiedAbsentAt
    reconciledAfterDeleteError := reconciled
    evidence := some (2, some basis.text) }
  CleanupReceipt.build d {
    toCleanupBinding := binding
    schemaVersion := schemaVersion
    providerCleanupId := "runpod-serverless-cleanup:" ++ d.cleanup identity
    workersZeroObservedAt := intent.workersZeroObservedAt
    deleteStartedAt := intent.deleteStartedAt
    verifiedAbsentAt := verifiedAbsentAt
    reconciledAfterDeleteError := reconciled
    cleanupEvidenceVersion := 2
    cleanupBasis := some basis.text }

end KestrelRunpod.Serverless
