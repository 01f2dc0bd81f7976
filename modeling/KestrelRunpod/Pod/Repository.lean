import KestrelRunpod.Pod.Evidence

/-!
# Durable lease rows

`TrainingPodLease` and the transactional store: reservation with the uniqueness of active
rows, and compare-and-set on the revision.  A row is a plain record; that every stored row
passes the lease constructor's own checks is proved of the whole system
(`KestrelRunpod.Pod.Custody`), not assumed here.  `updated_at` is never read and is left out.
-/

namespace KestrelRunpod.Pod

/-- Durable ownership, workload, and teardown state for one Pod use. -/
structure Lease where
  cleanupToken : String
  rootCleanupToken : String
  requestFingerprint : String
  companionId : String
  profileId : String
  source : Source
  resourceName : String
  providerPodId : Option String
  ownership : Ownership
  state : PodState
  cleanupState : CleanupState
  familyReleaseRequested : Bool
  familyReleaseComplete : Bool
  creationUncertain : Bool
  backendBaseUrl : Option String
  providerJobId : Option String
  createdAt : Instant
  lastHeartbeatAt : Instant
  readinessDeadline : Instant
  hardDeadline : Instant
  lastProviderError : Option String
  stopAttempts : Nat
  revision : Nat
  capacitySpec : Option CapacitySpec
  workloadState : WorkloadState
  workloadErrorType : Option String
  billingState : BillingState
  billingReceipt : Option BillingReceipt
  terminatedAt : Option Instant
  evidence : Option PodCapacityEvidence
  artifactHandoff : Option Handoff
  deriving DecidableEq

namespace Lease

def isTerminal (lease : Lease) : Bool := lease.state = .released

def isCatalogAttempt (lease : Lease) : Bool := lease.capacitySpec.isSome

/-- `settlement_ready`. -/
def settlementReady (lease : Lease) : Bool :=
  lease.isTerminal && decide (lease.billingState = .authoritative) &&
    lease.billingReceipt.isSome

/-- The workload's part of `terminal_success_evidence_complete`. -/
def workloadSucceeded (lease : Lease) : Bool :=
  match lease.capacitySpec.bind fun spec => spec.request.artifactHandoffProtocolVersion with
  | none => decide (lease.workloadState = .succeeded)
  | some _ => decide (lease.workloadState = .acknowledged) &&
      lease.artifactHandoff.any fun handoff =>
        handoff.remoteAckObservedAt.isSome && handoff.hostConfirmationDeclaredAt.isSome

/-- `terminal_success_evidence_complete`: success is proven only after teardown and
authoritative full billing. -/
def terminalSuccessEvidenceComplete (lease : Lease) : Bool :=
  lease.workloadSucceeded && lease.settlementReady &&
    lease.evidence.any fun evidence => evidence.isComplete

/-- `TrainingPodLease.__post_init__`. -/
def check (lease : Lease) : Except Exn Unit := do
  match lease.artifactHandoff with
  | none => pure ()
  | some handoff =>
      match lease.capacitySpec with
      | none =>
          .error (.valueError "Artifact handoff evidence requires an explicit protocol-1 lease")
      | some spec => do
          refuse (spec.request.artifactHandoffProtocolVersion ≠ some 1)
            (.valueError "Artifact handoff evidence requires an explicit protocol-1 lease")
          refuse (handoff.attemptId ≠ spec.request.attemptId ∨
              handoff.requestSha256 ≠ spec.request.requestSha256)
            (.valueError "Artifact handoff evidence does not match the stored lease")
  refuse ((lease.workloadState = .awaitingAck ∨ lease.workloadState = .acknowledged) ∧
      lease.artifactHandoff = none)
    (.valueError "Catalog handoff phase requires persisted artifact evidence")
  refuse (lease.workloadState = .acknowledged ∧
      (lease.artifactHandoff.bind fun handoff => handoff.remoteAckObservedAt) = none)
    (.valueError "Catalog acknowledged phase requires observed remote proof")

/-- What the constructor asks of the handoff of a row. -/
theorem check_ok {lease : Lease} :
    lease.check = .ok () ↔
      (∀ handoff, lease.artifactHandoff = some handoff → ∃ spec, lease.capacitySpec = some spec ∧
        spec.request.artifactHandoffProtocolVersion = some 1 ∧
        handoff.attemptId = spec.request.attemptId ∧
        handoff.requestSha256 = spec.request.requestSha256) ∧
      (lease.workloadState = .awaitingAck ∨ lease.workloadState = .acknowledged →
        lease.artifactHandoff ≠ none) ∧
      (lease.workloadState = .acknowledged →
        ∃ handoff, lease.artifactHandoff = some handoff ∧
          handoff.remoteAckObservedAt ≠ none) := by
  unfold check
  cases lease.artifactHandoff with
  | none =>
      simp only [refuse_bind_ok, refuse_ok]
      simp
  | some handoff =>
      cases lease.capacitySpec with
      | none => simp [bind, Except.bind]
      | some spec =>
          simp only [refuse_bind_ok, refuse_ok]
          simp [and_assoc]

end Lease

/-! ## Updates -/

/-- The columns an update may set; a column that is not mentioned is kept. -/
structure Changes where
  providerPodId : Option String := none
  ownership : Option Ownership := none
  state : Option PodState := none
  cleanupState : Option CleanupState := none
  familyReleaseRequested : Option Bool := none
  familyReleaseComplete : Option Bool := none
  creationUncertain : Option Bool := none
  backendBaseUrl : Option (Option String) := none
  providerJobId : Option String := none
  lastHeartbeatAt : Option Instant := none
  lastProviderError : Option (Option String) := none
  stopAttempts : Option Nat := none
  workloadState : Option WorkloadState := none
  workloadErrorType : Option (Option String) := none
  billingState : Option BillingState := none
  billingReceipt : Option BillingReceipt := none
  terminatedAt : Option Instant := none
  evidence : Option PodCapacityEvidence := none
  artifactHandoff : Option Handoff := none
  deriving DecidableEq

/-- The row after an update, one revision later. -/
def Lease.apply (lease : Lease) (changes : Changes) : Lease :=
  { lease with
    providerPodId := changes.providerPodId.or lease.providerPodId
    ownership := changes.ownership.getD lease.ownership
    state := changes.state.getD lease.state
    cleanupState := changes.cleanupState.getD lease.cleanupState
    familyReleaseRequested := changes.familyReleaseRequested.getD lease.familyReleaseRequested
    familyReleaseComplete := changes.familyReleaseComplete.getD lease.familyReleaseComplete
    creationUncertain := changes.creationUncertain.getD lease.creationUncertain
    backendBaseUrl := changes.backendBaseUrl.getD lease.backendBaseUrl
    providerJobId := changes.providerJobId.or lease.providerJobId
    lastHeartbeatAt := changes.lastHeartbeatAt.getD lease.lastHeartbeatAt
    lastProviderError := changes.lastProviderError.getD lease.lastProviderError
    stopAttempts := changes.stopAttempts.getD lease.stopAttempts
    workloadState := changes.workloadState.getD lease.workloadState
    workloadErrorType := changes.workloadErrorType.getD lease.workloadErrorType
    billingState := changes.billingState.getD lease.billingState
    billingReceipt := changes.billingReceipt.or lease.billingReceipt
    terminatedAt := changes.terminatedAt.or lease.terminatedAt
    evidence := changes.evidence.or lease.evidence
    artifactHandoff := changes.artifactHandoff.or lease.artifactHandoff
    revision := lease.revision + 1 }

section

variable (lease : Lease) (changes : Changes)

@[simp] theorem Lease.apply_cleanupToken :
    (lease.apply changes).cleanupToken = lease.cleanupToken := rfl
@[simp] theorem Lease.apply_rootCleanupToken :
    (lease.apply changes).rootCleanupToken = lease.rootCleanupToken := rfl
@[simp] theorem Lease.apply_requestFingerprint :
    (lease.apply changes).requestFingerprint = lease.requestFingerprint := rfl
@[simp] theorem Lease.apply_profileId :
    (lease.apply changes).profileId = lease.profileId := rfl
@[simp] theorem Lease.apply_source : (lease.apply changes).source = lease.source := rfl
@[simp] theorem Lease.apply_resourceName :
    (lease.apply changes).resourceName = lease.resourceName := rfl
@[simp] theorem Lease.apply_capacitySpec :
    (lease.apply changes).capacitySpec = lease.capacitySpec := rfl
@[simp] theorem Lease.apply_createdAt : (lease.apply changes).createdAt = lease.createdAt := rfl
@[simp] theorem Lease.apply_hardDeadline :
    (lease.apply changes).hardDeadline = lease.hardDeadline := rfl
@[simp] theorem Lease.apply_readinessDeadline :
    (lease.apply changes).readinessDeadline = lease.readinessDeadline := rfl
@[simp] theorem Lease.apply_revision :
    (lease.apply changes).revision = lease.revision + 1 := rfl
@[simp] theorem Lease.apply_isCatalogAttempt :
    (lease.apply changes).isCatalogAttempt = lease.isCatalogAttempt := rfl
@[simp] theorem Lease.apply_providerPodId :
    (lease.apply changes).providerPodId = changes.providerPodId.or lease.providerPodId := rfl
@[simp] theorem Lease.apply_ownership :
    (lease.apply changes).ownership = changes.ownership.getD lease.ownership := rfl
@[simp] theorem Lease.apply_state :
    (lease.apply changes).state = changes.state.getD lease.state := rfl
@[simp] theorem Lease.apply_creationUncertain :
    (lease.apply changes).creationUncertain =
      changes.creationUncertain.getD lease.creationUncertain := rfl
@[simp] theorem Lease.apply_workloadState :
    (lease.apply changes).workloadState = changes.workloadState.getD lease.workloadState := rfl
@[simp] theorem Lease.apply_billingState :
    (lease.apply changes).billingState = changes.billingState.getD lease.billingState := rfl
@[simp] theorem Lease.apply_billingReceipt :
    (lease.apply changes).billingReceipt =
      changes.billingReceipt.or lease.billingReceipt := rfl
@[simp] theorem Lease.apply_terminatedAt :
    (lease.apply changes).terminatedAt = changes.terminatedAt.or lease.terminatedAt := rfl
@[simp] theorem Lease.apply_evidence :
    (lease.apply changes).evidence = changes.evidence.or lease.evidence := rfl
@[simp] theorem Lease.apply_artifactHandoff :
    (lease.apply changes).artifactHandoff =
      changes.artifactHandoff.or lease.artifactHandoff := rfl

end

/-! ## The store -/

/-- The rows of `pod_capacity_leases`, in order of insertion. -/
abbrev Rows : Type := List Lease

namespace Rows

def get (rows : Rows) (token : String) : Option Lease :=
  rows.find? fun row => row.cleanupToken = token

/-- Two active rows that the unique indexes keep apart. -/
def clash (a b : Lease) : Prop :=
  a.cleanupToken ≠ b.cleanupToken ∧ a.isTerminal = false ∧ b.isTerminal = false ∧
    (a.resourceName = b.resourceName ∨
      (a.providerPodId ≠ none ∧ a.providerPodId = b.providerPodId) ∨
      a.rootCleanupToken = b.rootCleanupToken)

instance (a b : Lease) : Decidable (clash a b) := by
  unfold clash
  infer_instance

/-- The row with the token of `row` replaced by `row`. -/
def put (rows : Rows) (row : Lease) : Rows :=
  rows.map fun old => if old.cleanupToken = row.cleanupToken then row else old

/-- `compare_and_set`: the row is updated when its revision is the one that was read. -/
def compareAndSet (rows : Rows) (lease : Lease) (changes : Changes) :
    Rows × Except Exn Lease :=
  match rows.get lease.cleanupToken with
  | none =>
      (rows, .error (.conflict ("Training cleanup token '" ++ lease.cleanupToken ++
        "' changed concurrently; reconcile it")))
  | some current =>
      if current.revision ≠ lease.revision then
        (rows, .error (.conflict ("Training cleanup token '" ++ lease.cleanupToken ++
          "' changed concurrently; reconcile it")))
      else
        let updated := current.apply changes
        if ∃ other ∈ rows, clash updated other then
          (rows, .error (.conflict
            "The provider Pod is already claimed by another active training lease"))
        else (rows.put updated, .ok updated)

/-- The row that `reserve` inserts. -/
def reserved (d : Digests) (request : PodRequest) (evidence : Option PodCapacityEvidence) :
    Lease where
  cleanupToken := request.cleanupToken
  rootCleanupToken := request.rootCleanupToken
  requestFingerprint := d.podRequest request
  companionId := request.companionId
  profileId := request.profileId
  source := request.source
  resourceName := request.resourceName
  providerPodId := request.providerPodId
  ownership := .provisional
  state := .requested
  cleanupState := .notRequested
  familyReleaseRequested := false
  familyReleaseComplete := false
  creationUncertain := false
  backendBaseUrl := none
  providerJobId := none
  createdAt := request.createdAt
  lastHeartbeatAt := request.createdAt
  readinessDeadline := request.readinessDeadline
  hardDeadline := request.hardDeadline
  lastProviderError := none
  stopAttempts := 0
  revision := 0
  capacitySpec := request.capacitySpec
  workloadState := .notSubmitted
  workloadErrorType := none
  billingState := if request.capacitySpec.isSome then .pending else .notApplicable
  billingReceipt := none
  terminatedAt := none
  evidence := evidence
  artifactHandoff := none

/-- `reserve`: persist an acquisition claim, or return the claim that is already there. -/
def reserve (d : Digests) (rows : Rows) (request : PodRequest) :
    Rows × Except Exn (Lease × Bool) :=
  match request.capacitySpec.mapM (PodCapacityEvidence.fromSpec request.resourceName) with
  | .error x => (rows, .error x)
  | .ok evidence =>
      let row := reserved d request evidence
      let root := rows.find? fun other =>
        other.cleanupToken = request.rootCleanupToken ∧
          other.rootCleanupToken = other.cleanupToken
      if request.rootCleanupToken ≠ request.cleanupToken ∧ root = none then
        (rows, .error (.conflict
          "A fallback training attempt requires its persisted root cleanup token"))
      else if request.rootCleanupToken ≠ request.cleanupToken ∧
          (root.map (·.familyReleaseRequested)).getD false = true then
        (rows, .error (.conflict ("Training cleanup family '" ++ request.rootCleanupToken ++
          "' is already releasing")))
      else
        match rows.get request.cleanupToken with
        | some existing =>
            if existing.requestFingerprint ≠ d.podRequest request then
              (rows, .error (.conflict ("Training cleanup token '" ++ request.cleanupToken ++
                "' already represents a different request")))
            else (rows, .ok (existing, false))
        | none =>
            if ∃ other ∈ rows, clash row other then
              (rows, .error (.conflict
                "The requested training Pod is already claimed by another active cleanup token"))
            else (rows ++ [row], .ok (row, true))

/-- `ORDER BY created_at, cleanup_token`. -/
def ordered (rows : Rows) : List Lease :=
  rows.mergeSort fun a b =>
    a.createdAt < b.createdAt || (a.createdAt = b.createdAt && a.cleanupToken ≤ b.cleanupToken)

/-- `list_cleanup_family`. -/
def listCleanupFamily (rows : Rows) (root : String) (legacyTokens : List String) : List Lease :=
  ordered (rows.filter fun row =>
    row.rootCleanupToken = root ∨ row.cleanupToken = root ∨ row.cleanupToken ∈ legacyTokens)

/-- `list_incomplete_family_releases`. -/
def listIncompleteFamilyReleases (rows : Rows) : List Lease :=
  ordered (rows.filter fun row =>
    row.cleanupToken = row.rootCleanupToken ∧ row.familyReleaseRequested = true ∧
      row.familyReleaseComplete = false)

/-- `list_for_reconciliation`. -/
def listForReconciliation (rows : Rows) : List Lease :=
  (rows.filter fun row =>
    row.isTerminal = false ∨ row.billingState = .pending ∨ row.billingState = .unresolved).mergeSort
      fun a b => a.createdAt ≤ b.createdAt

end Rows

end KestrelRunpod.Pod
