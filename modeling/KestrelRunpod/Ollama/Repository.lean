import KestrelRunpod.Ollama.Contracts

/-!
# Durable Ollama lease rows

`SQLiteOllamaLeaseRepository`: a row is inserted once for each lease id, and updated only at
the revision that was read.  `updated_at` is never read and is left out.
-/

namespace KestrelRunpod.Ollama

/-- The columns an update may set; a column that is not mentioned is kept. -/
structure Changes where
  mode : Option LeaseMode := none
  resourceType : Option ResourceType := none
  providerResourceId : Option String := none
  resourceName : Option String := none
  creationUncertain : Option Bool := none
  provisionAttemptId : Option String := none
  provisionAttempts : Option Nat := none
  state : Option LeaseState := none
  teardownState : Option TeardownState := none
  provisioningStartedAt : Option Instant := none
  readyAt : Option Instant := none
  lastUsedAt : Option Instant := none
  idleDeadline : Option Instant := none
  modelPullStartedAt : Option Instant := none
  modelPullAttempts : Option Nat := none
  modelReadyAt : Option Instant := none
  plan : Option PlacementPlan := none
  accruedEstimatedCost : Option Numeric.Number := none
  coldStartSeconds : Option Numeric.Number := none
  lastProviderError : Option (Option String) := none
  terminationReason : Option String := none
  teardownAttempts : Option Nat := none
  deriving DecidableEq

/-- The row after an update, one revision later. -/
def Lease.apply (lease : Lease) (changes : Changes) : Lease :=
  { lease with
    mode := changes.mode.getD lease.mode
    resourceType := changes.resourceType.or lease.resourceType
    providerResourceId := changes.providerResourceId.or lease.providerResourceId
    resourceName := changes.resourceName.or lease.resourceName
    creationUncertain := changes.creationUncertain.getD lease.creationUncertain
    provisionAttemptId := changes.provisionAttemptId.or lease.provisionAttemptId
    provisionAttempts := changes.provisionAttempts.getD lease.provisionAttempts
    state := changes.state.getD lease.state
    teardownState := changes.teardownState.getD lease.teardownState
    provisioningStartedAt := changes.provisioningStartedAt.or lease.provisioningStartedAt
    readyAt := changes.readyAt.or lease.readyAt
    lastUsedAt := changes.lastUsedAt.getD lease.lastUsedAt
    idleDeadline := changes.idleDeadline.getD lease.idleDeadline
    modelPullStartedAt := changes.modelPullStartedAt.or lease.modelPullStartedAt
    modelPullAttempts := changes.modelPullAttempts.getD lease.modelPullAttempts
    modelReadyAt := changes.modelReadyAt.or lease.modelReadyAt
    plan := changes.plan.or lease.plan
    accruedEstimatedCost := changes.accruedEstimatedCost.getD lease.accruedEstimatedCost
    coldStartSeconds := changes.coldStartSeconds.or lease.coldStartSeconds
    lastProviderError := changes.lastProviderError.getD lease.lastProviderError
    terminationReason := changes.terminationReason.or lease.terminationReason
    teardownAttempts := changes.teardownAttempts.getD lease.teardownAttempts
    revision := lease.revision + 1 }

section

variable (lease : Lease) (changes : Changes)

@[simp] theorem Lease.apply_leaseId : (lease.apply changes).leaseId = lease.leaseId := rfl
@[simp] theorem Lease.apply_revision :
    (lease.apply changes).revision = lease.revision + 1 := rfl
@[simp] theorem Lease.apply_resourceType :
    (lease.apply changes).resourceType = changes.resourceType.or lease.resourceType := rfl
@[simp] theorem Lease.apply_providerResourceId :
    (lease.apply changes).providerResourceId =
      changes.providerResourceId.or lease.providerResourceId := rfl
@[simp] theorem Lease.apply_resourceName :
    (lease.apply changes).resourceName = changes.resourceName.or lease.resourceName := rfl
@[simp] theorem Lease.apply_creationUncertain :
    (lease.apply changes).creationUncertain =
      changes.creationUncertain.getD lease.creationUncertain := rfl
@[simp] theorem Lease.apply_state :
    (lease.apply changes).state = changes.state.getD lease.state := rfl

end

/-! ## The store -/

/-- The rows of `ollama_leases`, in order of insertion. -/
abbrev Rows : Type := List Lease

namespace Rows

def get (rows : Rows) (leaseId : String) : Option Lease :=
  rows.find? fun row => row.leaseId = leaseId

/-- The row with the id of `row` replaced by `row`. -/
def put (rows : Rows) (row : Lease) : Rows :=
  rows.map fun old => if old.leaseId = row.leaseId then row else old

/-- The row that `insert_request` inserts. -/
def requested (texts : Texts) (request : LeaseRequest) (now : Instant) : Lease where
  leaseId := request.leaseId
  ownerId := request.ownerId
  workloadId := request.workloadId
  requestFingerprint := texts.fingerprint request
  model := request.model
  constraints := request.constraints
  mode := request.mode
  resourceType := none
  providerResourceId := none
  resourceName := none
  creationUncertain := false
  provisionAttemptId := none
  provisionAttempts := 0
  state := .requested
  teardownState := .notRequested
  createdAt := now
  provisioningStartedAt := none
  readyAt := none
  lastUsedAt := now
  idleDeadline := min (now + seconds request.idleTimeoutSeconds) request.hardDeadline
  hardDeadline := request.hardDeadline
  readinessDeadline := min
    (request.requestedAt.getD now + seconds request.readinessTimeoutSeconds)
    request.hardDeadline
  modelPullStartedAt := none
  modelPullAttempts := 0
  modelReadyAt := none
  expectedSessionSeconds := request.expectedSessionSeconds
  expectedActiveSeconds := request.expectedActiveSeconds
  serverlessInitializationSeconds := request.serverlessInitializationSeconds
  serverlessIdleTailSeconds := request.serverlessIdleTailSeconds
  idleTimeoutSeconds := request.idleTimeoutSeconds
  plan := none
  accruedEstimatedCost := .finite 0
  maxAuthorizedCost := request.maxAuthorizedCost
  coldStartSeconds := none
  lastProviderError := none
  terminationReason := none
  teardownAttempts := 0
  revision := 0

/-- `insert_request`: insert the row, or return the row that is already there. -/
def insertRequest (texts : Texts) (rows : Rows) (request : LeaseRequest) (now : Instant) :
    Rows × Except Exn (Lease × Bool) :=
  match rows.get request.leaseId with
  | none => (rows ++ [requested texts request now], .ok (requested texts request now, true))
  | some existing =>
      if existing.requestFingerprint ≠ texts.fingerprint request then
        (rows, .error (.conflict ("Lease '" ++ request.leaseId ++
          "' already represents a different request")))
      else (rows, .ok (existing, false))

/-- `compare_and_set`: the row is updated when its revision is the one that was read. -/
def compareAndSet (rows : Rows) (lease : Lease) (changes : Changes) :
    Rows × Except Exn Lease :=
  match rows.get lease.leaseId with
  | none =>
      (rows, .error (.conflict ("Lease '" ++ lease.leaseId ++
        "' changed concurrently; reconcile it")))
  | some current =>
      if current.revision = lease.revision then
        (rows.put (current.apply changes), .ok (current.apply changes))
      else
        (rows, .error (.conflict ("Lease '" ++ lease.leaseId ++
          "' changed concurrently; reconcile it")))

/-- `list_for_reconciliation`. -/
def listForReconciliation (rows : Rows) : List Lease :=
  (rows.filter fun row => row.state ≠ .terminated).mergeSort
    fun a b => a.createdAt ≤ b.createdAt

/-! ### Lookup -/

variable {rows : Rows} {row old : Lease} {leaseId : String}

theorem mem_of_get (found : rows.get leaseId = some row) : row ∈ rows :=
  List.mem_of_find?_eq_some found

theorem leaseId_of_get (found : rows.get leaseId = some row) : row.leaseId = leaseId := by
  have named := List.find?_some found
  simpa using named

theorem get_put_self (row : Lease) (found : rows.get row.leaseId = some old) :
    (rows.put row).get row.leaseId = some row := by
  unfold get put at *
  induction rows with
  | nil => cases found
  | cons first rows ih =>
      rw [List.map_cons]
      by_cases same : first.leaseId = row.leaseId
      · simp [same]
      · rw [List.find?_cons_of_neg (by simpa using same)] at found
        rw [if_neg same, List.find?_cons_of_neg (by simpa using same)]
        exact ih found

theorem get_put_ne (other : leaseId ≠ row.leaseId) :
    (rows.put row).get leaseId = rows.get leaseId := by
  unfold get put
  induction rows with
  | nil => rfl
  | cons first rows ih =>
      rw [List.map_cons]
      by_cases same : first.leaseId = row.leaseId
      · rw [if_pos same, List.find?_cons_of_neg (by simpa using Ne.symm other),
          List.find?_cons_of_neg (by simpa [same] using Ne.symm other)]
        exact ih
      · rw [if_neg same]
        by_cases here : first.leaseId = leaseId
        · rw [List.find?_cons_of_pos (by simpa using here),
            List.find?_cons_of_pos (by simpa using here)]
        · rw [List.find?_cons_of_neg (by simpa using here),
            List.find?_cons_of_neg (by simpa using here)]
          exact ih

theorem get_append_new (row : Lease) (fresh : rows.get row.leaseId = none) :
    (rows ++ [row]).get row.leaseId = some row := by
  unfold get at *
  rw [List.find?_append, fresh]
  simp

theorem get_append_ne (other : leaseId ≠ row.leaseId) :
    (rows ++ [row]).get leaseId = rows.get leaseId := by
  unfold get
  rw [List.find?_append]
  cases rows.find? fun row => row.leaseId = leaseId with
  | some found => rfl
  | none => simp [Ne.symm other]

end Rows

end KestrelRunpod.Ollama
