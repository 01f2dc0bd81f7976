import KestrelRunpod.Pod.Contracts
import Mathlib.Data.List.Pairwise
import Mathlib.Algebra.Order.Ring.Rat
import Mathlib.Tactic.Linarith

/-!
# Receipts and evidence

The durable proof a catalog lease accumulates: the billing receipt, the realized placement,
the first-observation instants of the lifecycle, the worker's own evidence and the handoff
binding.  Every type is a record of fields together with the passed check of its
constructor.

`PodCapacityEvidence.merge` is the merge of the service's evidence transition: a phase that
has an instant keeps it, an observation that was recorded may only be recorded again
equally, and the result has to pass the constructors.
-/

namespace KestrelRunpod.Pod

open Traverse (check_bind_ok)

/-! ## Billing receipt -/

structure BillingReceiptFields where
  providerBillingId : String
  providerPodId : Option String
  billedFrom : Instant
  billedUntil : Instant
  billedSeconds : Int
  hourlyPriceUsd : ℚ
  actualCostUsd : ℚ
  reconciledAt : Instant
  deriving DecidableEq, Repr

/-- `PodBillingReceipt.__post_init__`. -/
def BillingReceiptFields.check (r : BillingReceiptFields) : Except Exn Unit := do
  safeIdentifier r.providerBillingId "provider_billing_id"
  match r.providerPodId with
  | none => pure ()
  | some podId => safeIdentifier podId "provider_pod_id"
  refuse (r.billedSeconds < 0 ∨ r.billedUntil < r.billedFrom)
    (.valueError "Pod billing interval is invalid")
  refuse (r.billedSeconds ≠ (r.billedUntil - r.billedFrom) / 1000000)
    (.valueError "Pod billed seconds must equal the truncated billing interval")
  refuse (r.reconciledAt < r.billedUntil)
    (.valueError "Pod billing cannot be reconciled before its interval ends")
  refuse (r.hourlyPriceUsd < 0 ∨ r.actualCostUsd < 0)
    (.valueError "Pod billing amount is invalid")
  refuse (0 < r.actualCostUsd ∧ r.providerPodId = none)
    (.valueError "Nonzero Pod cost requires a provider Pod identity")
  refuse (r.providerPodId = none ∧
      (r.billedFrom ≠ r.billedUntil ∨ r.billedSeconds ≠ 0 ∨ r.actualCostUsd ≠ 0))
    (.valueError "Missing provider Pod identity is valid only before billable capacity")

/-- Content-free provider cost observation for one exact Pod. -/
structure BillingReceipt extends BillingReceiptFields where
  checked : toBillingReceiptFields.check = .ok ()
  deriving DecidableEq

def BillingReceipt.build (fields : BillingReceiptFields) : Except Exn BillingReceipt :=
  match passed : fields.check with
  | .ok () => .ok ⟨fields, passed⟩
  | .error x => .error x

theorem BillingReceipt.build_of_check {fields : BillingReceiptFields}
    (passed : fields.check = .ok ()) : BillingReceipt.build fields = .ok ⟨fields, passed⟩ := by
  unfold BillingReceipt.build
  split
  · rfl
  · rename_i x failed
    rw [passed] at failed
    cases failed

/-! ## Realized placement -/

structure RealizedPlacementFields where
  providerPodId : String
  gpuTypeId : String
  gpuDisplayName : String
  gpuCount : Nat
  cloud : CloudType
  dataCenterId : String
  hourlyRateUsd : ℚ
  observedAt : Instant
  deriving DecidableEq, Repr

/-- `PodRealizedPlacement.__post_init__`. -/
def RealizedPlacementFields.check (p : RealizedPlacementFields) : Except Exn Unit := do
  safeIdentifier p.providerPodId "provider_pod_id"
  providerIdentifier p.dataCenterId "data_center_id"
  displayName p.gpuTypeId "gpu_type_id"
  displayName p.gpuDisplayName "gpu_display_name"
  refuse (p.gpuCount < 1) (.valueError "Realized Pod GPU count must be positive")
  refuse (p.hourlyRateUsd < 0) (.valueError "Realized Pod hourly rate must be nonnegative")

/-- Realized placement with the catalog name bound by exact GPU identity. -/
structure RealizedPlacement extends RealizedPlacementFields where
  checked : toRealizedPlacementFields.check = .ok ()
  deriving DecidableEq

/-- `PodRealizedPlacement.validate_against`. -/
def RealizedPlacementFields.validateAgainst (p : RealizedPlacementFields) (q : QuoteFields) :
    Except Exn Unit :=
  refuse (p.gpuTypeId ≠ q.gpuTypeId ∨ p.gpuDisplayName ≠ q.gpuDisplayName ∨
      p.gpuCount ≠ q.constraints.gpuCount ∨ p.cloud ≠ q.constraints.cloud ∨
      q.podHourlyUsd < p.hourlyRateUsd ∨
      (q.constraints.allowedDataCenterIds ≠ [] ∧
        p.dataCenterId ∉ q.constraints.allowedDataCenterIds))
    (.valueError "Realized Pod placement does not match accepted quote")

/-! ## Worker evidence -/

/-- `_WORKER_TIMING_FIELDS`. -/
structure WorkerTimings where
  imagePullAndContainerBoot : Option ℚ
  imagePull : Option ℚ
  containerBoot : Option ℚ
  modelLoad : Option ℚ
  execution : Option ℚ
  training : Option ℚ
  artifactUpload : Option ℚ
  deriving DecidableEq, Repr

/-- `_WORKER_METRIC_FIELDS`. -/
structure WorkerMetrics where
  peakVramBytes : Option Nat
  peakHostRamBytes : Option Nat
  gpuSeconds : Option ℚ
  idleSeconds : Option ℚ
  deriving DecidableEq, Repr

structure WorkerEvidenceFields where
  schemaVersion : Nat
  attemptId : String
  requestSha256 : String
  imageDigest : String
  containerProcessStartedAt : Option Instant
  timings : WorkerTimings
  metrics : WorkerMetrics
  deriving DecidableEq, Repr

/-- `value is not None and value < 0`. -/
def negative (value : Option ℚ) : Prop := ∃ x, value = some x ∧ x < 0

instance (value : Option ℚ) : Decidable (negative value) :=
  match value with
  | none => .isFalse (by simp [negative])
  | some x => decidable_of_iff (x < 0) (by simp [negative])

/-- `CatalogWorkerEvidence.__post_init__`. -/
def WorkerEvidenceFields.check (w : WorkerEvidenceFields) : Except Exn Unit := do
  refuse (w.schemaVersion ≠ 1) (.valueError "Catalog worker evidence must use schema 1")
  safeIdentifier w.attemptId "worker evidence attempt_id"
  sha256Digest w.requestSha256 "worker evidence request_sha256"
  Pod.imageDigest w.imageDigest
  refuse (negative w.timings.imagePullAndContainerBoot ∨ negative w.timings.imagePull ∨
      negative w.timings.containerBoot ∨ negative w.timings.modelLoad ∨
      negative w.timings.execution ∨ negative w.timings.training ∨
      negative w.timings.artifactUpload)
    (.valueError "Catalog worker timing must be finite and nonnegative")
  refuse (negative w.metrics.gpuSeconds ∨ negative w.metrics.idleSeconds)
    (.valueError "Catalog worker metric must be finite and nonnegative")
  refuse (w.timings.imagePull.isNone ≠ w.timings.containerBoot.isNone)
    (.valueError "Catalog worker image-pull and container-boot split must be complete")
  match w.timings.imagePull, w.timings.containerBoot with
  | some pull, some boot => do
      refuse (w.timings.imagePullAndContainerBoot = none)
        (.valueError "Catalog worker combined startup timing is required with a split")
      refuse (w.timings.imagePullAndContainerBoot ≠ some (pull + boot))
        (.valueError "Catalog worker combined startup timing contradicts its split")
  | _, _ => pure ()

/-- Strict content-free telemetry attested by one exact catalog worker. -/
structure WorkerEvidence extends WorkerEvidenceFields where
  checked : toWorkerEvidenceFields.check = .ok ()
  deriving DecidableEq

/-! ## Lifecycle instants -/

/-- The first-observation instants after the reservation. -/
structure Phases where
  providerCreateAcceptedAt : Option Instant := none
  providerAdoptedAt : Option Instant := none
  firstRunningObservedAt : Option Instant := none
  workerReadyAt : Option Instant := none
  workloadSubmittedAt : Option Instant := none
  workloadRunningAt : Option Instant := none
  workloadTerminalAt : Option Instant := none
  stopConfirmedAt : Option Instant := none
  billingReconciledAt : Option Instant := none
  deriving DecidableEq, Repr

/-- A recorded instant is kept; a phase without one takes the new value. -/
def Phases.firstWins (recorded new : Phases) : Phases where
  providerCreateAcceptedAt := recorded.providerCreateAcceptedAt.or new.providerCreateAcceptedAt
  providerAdoptedAt := recorded.providerAdoptedAt.or new.providerAdoptedAt
  firstRunningObservedAt := recorded.firstRunningObservedAt.or new.firstRunningObservedAt
  workerReadyAt := recorded.workerReadyAt.or new.workerReadyAt
  workloadSubmittedAt := recorded.workloadSubmittedAt.or new.workloadSubmittedAt
  workloadRunningAt := recorded.workloadRunningAt.or new.workloadRunningAt
  workloadTerminalAt := recorded.workloadTerminalAt.or new.workloadTerminalAt
  stopConfirmedAt := recorded.stopConfirmedAt.or new.stopConfirmedAt
  billingReconciledAt := recorded.billingReconciledAt.or new.billingReconciledAt

structure LifecycleFields where
  reservationAt : Instant
  phases : Phases
  deriving DecidableEq, Repr

/-- The instants in lifecycle order, missing phases left out of account. -/
def LifecycleFields.ordered (l : LifecycleFields) : List (Option Instant) :=
  [some l.reservationAt, l.phases.providerCreateAcceptedAt.or l.phases.providerAdoptedAt,
    l.phases.firstRunningObservedAt, l.phases.workerReadyAt, l.phases.workloadSubmittedAt,
    l.phases.workloadRunningAt, l.phases.workloadTerminalAt, l.phases.stopConfirmedAt,
    l.phases.billingReconciledAt]

/-- Some instant is later than the next one. -/
def runsBackwards : List Instant → Bool
  | earlier :: later :: rest => later < earlier || runsBackwards (later :: rest)
  | _ => false

/-- `PodCapacityLifecycleEvidence.__post_init__`. -/
def LifecycleFields.check (l : LifecycleFields) : Except Exn Unit := do
  refuse (runsBackwards (l.ordered.filterMap id) = true)
    (.valueError "Pod capacity host lifecycle timestamps must be monotonic")
  refuse (l.phases.providerCreateAcceptedAt ≠ none ∧ l.phases.providerAdoptedAt ≠ none)
    (.valueError "Pod capacity cannot be both create-accepted and recovery-adopted")

/-- First-observation timestamps; unavailable phases remain explicit nulls. -/
structure Lifecycle extends LifecycleFields where
  checked : toLifecycleFields.check = .ok ()
  deriving DecidableEq

def Lifecycle.build (fields : LifecycleFields) : Except Exn Lifecycle :=
  match passed : fields.check with
  | .ok () => .ok ⟨fields, passed⟩
  | .error x => .error x

theorem Lifecycle.build_ok {fields : LifecycleFields} {lifecycle : Lifecycle} :
    Lifecycle.build fields = .ok lifecycle ↔ lifecycle.toLifecycleFields = fields := by
  unfold Lifecycle.build
  split
  · rename_i passed
    constructor
    · rintro ⟨⟩
      rfl
    · rintro rfl
      rfl
  · rename_i x failed
    constructor
    · rintro ⟨⟩
    · rintro rfl
      rw [lifecycle.checked] at failed
      cases failed

/-- The host's instants never run backwards exactly when they are pairwise ordered. -/
theorem runsBackwards_eq_false {instants : List Instant} :
    runsBackwards instants = false ↔ instants.Pairwise (· ≤ ·) := by
  induction instants with
  | nil => simp [runsBackwards]
  | cons earlier rest ih =>
      cases rest with
      | nil => simp [runsBackwards]
      | cons later rest =>
          rw [runsBackwards, Bool.or_eq_false_iff, ih, List.pairwise_cons]
          simp only [decide_eq_false_iff_not, not_lt, List.mem_cons, forall_eq_or_imp,
            List.pairwise_cons]
          constructor
          · rintro ⟨first, second, tail⟩
            exact ⟨⟨first, fun x member => first.trans (second x member)⟩, second, tail⟩
          · rintro ⟨⟨first, _⟩, second, tail⟩
            exact ⟨first, second, tail⟩

/-- What the constructor guarantees: phases in order, and one provenance of the Pod. -/
theorem LifecycleFields.check_ok {l : LifecycleFields} :
    l.check = .ok () ↔
      l.ordered.Pairwise (fun a b => ∀ x ∈ a, ∀ y ∈ b, x ≤ y) ∧
        (l.phases.providerCreateAcceptedAt = none ∨ l.phases.providerAdoptedAt = none) := by
  rw [LifecycleFields.check, refuse_bind_ok, refuse_ok, Bool.not_eq_true,
    runsBackwards_eq_false, List.pairwise_filterMap]
  simp only [id, ne_eq, not_and, Option.mem_def, Classical.not_not]
  refine and_congr Iff.rfl ⟨fun provenance => ?_, fun provenance created => ?_⟩
  · by_cases created : l.phases.providerCreateAcceptedAt = none
    · exact .inl created
    · exact .inr (provenance created)
  · exact provenance.resolve_left created

/-! ## Evidence of one attempt -/

structure EvidenceFields where
  capacityId : String
  resourceName : String
  providerQuoteId : String
  catalogObservedAt : Instant
  attemptId : String
  requestSha256 : String
  imageDigest : String
  acceptedGpuTypeId : String
  acceptedGpuDisplayName : String
  acceptedGpuCount : Nat
  acceptedCloud : CloudType
  acceptedHourlyRateUsd : ℚ
  lifecycle : Lifecycle
  realizedPlacement : Option RealizedPlacement := none
  worker : Option WorkerEvidence := none
  billing : Option BillingReceipt := none
  deriving DecidableEq

/-- The placement contradicts the accepted quote. -/
def EvidenceFields.contradicts (e : EvidenceFields) (p : RealizedPlacement) : Prop :=
  p.gpuTypeId ≠ e.acceptedGpuTypeId ∨ p.gpuDisplayName ≠ e.acceptedGpuDisplayName ∨
    p.gpuCount ≠ e.acceptedGpuCount ∨ p.cloud ≠ e.acceptedCloud ∨
    e.acceptedHourlyRateUsd < p.hourlyRateUsd

instance (e : EvidenceFields) (p : RealizedPlacement) : Decidable (e.contradicts p) := by
  unfold EvidenceFields.contradicts
  infer_instance

/-- `PodCapacityEvidence.__post_init__`, with the schema version fixed at 1. -/
def EvidenceFields.check (e : EvidenceFields) : Except Exn Unit := do
  safeIdentifier e.capacityId "capacity_id"
  safeIdentifier e.resourceName "resource_name"
  safeIdentifier e.providerQuoteId "provider_quote_id"
  safeIdentifier e.attemptId "attempt_id"
  displayName e.acceptedGpuTypeId "accepted_gpu_type_id"
  displayName e.acceptedGpuDisplayName "accepted_gpu_display_name"
  sha256Digest e.requestSha256 "evidence request_sha256"
  Pod.imageDigest e.imageDigest
  refuse (e.acceptedGpuCount < 1) (.valueError "Accepted GPU count must be positive")
  refuse (e.acceptedHourlyRateUsd ≤ 0)
    (.valueError "Accepted Pod hourly rate must be positive")
  refuse (e.lifecycle.reservationAt < e.catalogObservedAt)
    (.valueError "Accepted catalog observation cannot follow reservation")
  match e.realizedPlacement with
  | none => pure ()
  | some realized =>
      refuse (e.contradicts realized)
        (.valueError "Persisted realized placement contradicts the accepted quote")
  match e.worker with
  | none => pure ()
  | some worker =>
      refuse (worker.attemptId ≠ e.attemptId ∨ worker.requestSha256 ≠ e.requestSha256 ∨
          worker.imageDigest ≠ e.imageDigest)
        (.valueError "Persisted worker evidence binding is inconsistent")
  match e.billing with
  | none => pure ()
  | some billing => do
      match e.realizedPlacement with
      | none => pure ()
      | some realized =>
          refuse (billing.providerPodId ≠ some realized.providerPodId ∨
              billing.hourlyPriceUsd ≠ realized.hourlyRateUsd)
            (.valueError "Persisted billing evidence binding is inconsistent")
      match e.lifecycle.phases.billingReconciledAt with
      | none => pure ()
      | some reconciledAt =>
          refuse (reconciledAt ≠ billing.reconciledAt)
            (.valueError "Persisted billing reconciliation timestamp is inconsistent")

/-- Immutable, content-free proof for one disposable Pod attempt. -/
structure PodCapacityEvidence extends EvidenceFields where
  checked : toEvidenceFields.check = .ok ()
  deriving DecidableEq

def PodCapacityEvidence.build (fields : EvidenceFields) : Except Exn PodCapacityEvidence :=
  match passed : fields.check with
  | .ok () => .ok ⟨fields, passed⟩
  | .error x => .error x

theorem PodCapacityEvidence.build_ok {fields : EvidenceFields} {e : PodCapacityEvidence} :
    PodCapacityEvidence.build fields = .ok e ↔ e.toEvidenceFields = fields := by
  unfold PodCapacityEvidence.build
  split
  · rename_i passed
    constructor
    · rintro ⟨⟩
      rfl
    · rintro rfl
      rfl
  · rename_i x failed
    constructor
    · rintro ⟨⟩
    · rintro rfl
      rw [e.checked] at failed
      cases failed

/-- `PodCapacityEvidence.from_spec`. -/
def PodCapacityEvidence.fromSpec (resourceName : String) (spec : CapacitySpec) :
    Except Exn PodCapacityEvidence := do
  let request := spec.request
  let lifecycle ← Lifecycle.build ⟨request.createdAt, {}⟩
  PodCapacityEvidence.build
    { capacityId := request.capacityId
      resourceName := resourceName
      providerQuoteId := request.quote.providerQuoteId
      catalogObservedAt := request.quote.observedAt
      attemptId := request.attemptId
      requestSha256 := request.requestSha256
      imageDigest := request.imageDigest
      acceptedGpuTypeId := request.quote.gpuTypeId
      acceptedGpuDisplayName := request.quote.gpuDisplayName
      acceptedGpuCount := request.quote.constraints.gpuCount
      acceptedCloud := request.quote.constraints.cloud
      acceptedHourlyRateUsd := request.quote.podHourlyUsd
      lifecycle := lifecycle }

/-- The evidence is of the attempt that the spec requests. -/
structure EvidenceFields.Binds (e : EvidenceFields) (spec : CapacitySpec) : Prop where
  attemptId : e.attemptId = spec.request.attemptId
  requestSha256 : e.requestSha256 = spec.request.requestSha256
  imageDigest : e.imageDigest = spec.request.imageDigest

/-- Fresh evidence starts at the reservation of its attempt, and has observed nothing. -/
structure PodCapacityEvidence.Fresh (e : PodCapacityEvidence) (spec : CapacitySpec) : Prop where
  binds : e.Binds spec
  reservationAt : e.lifecycle.reservationAt = spec.request.createdAt
  phases : e.lifecycle.phases = {}
  realizedPlacement : e.realizedPlacement = none
  worker : e.worker = none
  billing : e.billing = none

theorem PodCapacityEvidence.fromSpec_ok {resourceName : String} {spec : CapacitySpec}
    {e : PodCapacityEvidence} (ok : fromSpec resourceName spec = .ok e) : e.Fresh spec := by
  unfold fromSpec at ok
  simp only [bind, Except.bind] at ok
  split at ok
  · cases ok
  rename_i lifecycle begun
  rw [build_ok] at ok
  rw [Lifecycle.build_ok] at begun
  constructor <;> rw [ok]
  · exact ⟨rfl, rfl, rfl⟩
  · exact congrArg LifecycleFields.reservationAt begun
  · exact congrArg LifecycleFields.phases begun

/-- `is_complete`. -/
def EvidenceFields.isComplete (e : EvidenceFields) : Bool :=
  let phases := e.lifecycle.phases
  e.realizedPlacement.isSome && e.worker.isSome &&
    (phases.providerCreateAcceptedAt.isSome || phases.providerAdoptedAt.isSome) &&
    phases.firstRunningObservedAt.isSome && phases.workerReadyAt.isSome &&
    phases.workloadSubmittedAt.isSome && phases.workloadRunningAt.isSome &&
    phases.workloadTerminalAt.isSome && phases.billingReconciledAt.isSome &&
    phases.stopConfirmedAt.any fun stopConfirmedAt =>
      e.billing.any fun billing => stopConfirmedAt ≤ billing.billedUntil

/-- What complete evidence says of the worker, the stop and the receipt. -/
theorem EvidenceFields.isComplete_ok {e : EvidenceFields} (complete : e.isComplete = true) :
    (∃ placement, e.realizedPlacement = some placement) ∧ (∃ worker, e.worker = some worker) ∧
      ∃ stopped billing, e.lifecycle.phases.stopConfirmedAt = some stopped ∧
        e.billing = some billing ∧ stopped ≤ billing.billedUntil := by
  simp only [isComplete, Bool.and_eq_true, and_assoc, Option.any_eq_true,
    decide_eq_true_eq] at complete
  obtain ⟨placed, attested, _, _, _, _, _, _, _, stopped, at_, billing, billed, covers⟩ := complete
  exact ⟨Option.isSome_iff_exists.mp placed, Option.isSome_iff_exists.mp attested, stopped,
    billing, at_, billed, covers⟩

/-- What the constructor guarantees of the parts of the evidence: the worker's evidence is of
the same attempt, and a receipt is for the Pod that was placed. -/
theorem PodCapacityEvidence.bindings (e : PodCapacityEvidence) :
    (∀ worker, e.worker = some worker → worker.attemptId = e.attemptId ∧
      worker.requestSha256 = e.requestSha256 ∧ worker.imageDigest = e.imageDigest) ∧
    ∀ placement billing, e.realizedPlacement = some placement → e.billing = some billing →
      billing.providerPodId = some placement.providerPodId := by
  have passed := e.checked
  simp only [EvidenceFields.check, check_bind_ok] at passed
  obtain ⟨_, _, _, _, _, _, _, _, _, _, _, parts⟩ := passed
  cases placed : e.realizedPlacement with
  | none =>
      refine ⟨fun worker has => ?_, fun placement billing is => by cases is⟩
      rw [placed, has] at parts
      simp only [refuse_bind_ok, not_or, not_not] at parts
      exact parts.1
  | some placement =>
      rw [placed] at parts
      simp only [refuse_bind_ok] at parts
      refine ⟨fun worker has => ?_, ?_⟩
      · rw [has] at parts
        simp only [refuse_bind_ok, not_or, not_not] at parts
        exact parts.2.1
      · intro placement' billing same billed
        cases same
        rw [billed] at parts
        cases worked : e.worker with
        | none =>
            rw [worked] at parts
            simp only [refuse_bind_ok, not_or, not_not] at parts
            exact parts.2.1.1
        | some worker =>
            rw [worked] at parts
            simp only [refuse_bind_ok, not_or, not_not] at parts
            exact parts.2.2.1.1

/-! ## Merging observations -/

/-- What one transition adds to the evidence. -/
structure EvidenceUpdate where
  lifecycle : Phases := {}
  realizedPlacement : Option (Option RealizedPlacement) := none
  worker : Option WorkerEvidence := none
  billing : Option BillingReceipt := none
  deriving DecidableEq

/-- A recorded observation may only be recorded again equally. -/
def recordOnce {α : Type} [DecidableEq α] (recorded new : Option α) (message : String) :
    Except Exn (Option α) :=
  match recorded, new with
  | some old, some value => if old = value then .ok (some old) else .error (.conflict message)
  | some old, none => .ok (some old)
  | none, value => .ok value

/-- A placement, where the transition names one. -/
def recordPlacement (recorded : Option RealizedPlacement) :
    Option (Option RealizedPlacement) → Except Exn (Option RealizedPlacement)
  | none => .ok recorded
  | some none => .error (.manager "Catalog Pod realized placement cannot be absent")
  | some (some placement) =>
      recordOnce recorded (some placement)
        "Catalog Pod realized placement evidence already differs"

/-- The evidence merge of `_transition_with_evidence`. -/
def PodCapacityEvidence.merge (e : PodCapacityEvidence) (u : EvidenceUpdate) :
    Except Exn PodCapacityEvidence := do
  let lifecycle ←
    Lifecycle.build ⟨e.lifecycle.reservationAt, e.lifecycle.phases.firstWins u.lifecycle⟩
  let realized ← recordPlacement e.realizedPlacement u.realizedPlacement
  let worker ←
    recordOnce e.worker u.worker "Catalog worker evidence was already recorded differently"
  let billing ←
    recordOnce e.billing u.billing "Catalog billing evidence was already recorded differently"
  PodCapacityEvidence.build
    { e.toEvidenceFields with
      lifecycle := lifecycle, realizedPlacement := realized, worker := worker,
      billing := billing }

theorem recordOnce_ok {α : Type} [DecidableEq α] {recorded new result : Option α}
    {message : String} :
    recordOnce recorded new message = .ok result ↔
      (∀ old ∈ recorded, ∀ value ∈ new, old = value) ∧ result = recorded.or new := by
  cases recorded with
  | none => cases new <;> simp [recordOnce, eq_comm]
  | some old =>
      cases new with
      | none => simp [recordOnce, eq_comm]
      | some value =>
          by_cases same : old = value
          · simp [recordOnce, same, eq_comm]
          · simp [recordOnce, same]

/-- What a successful merge records. -/
structure PodCapacityEvidence.Merged (e : PodCapacityEvidence) (u : EvidenceUpdate)
    (merged : PodCapacityEvidence) : Prop where
  reservationAt : merged.lifecycle.reservationAt = e.lifecycle.reservationAt
  phases : merged.lifecycle.phases = e.lifecycle.phases.firstWins u.lifecycle
  realizedPlacement : merged.realizedPlacement = e.realizedPlacement.or u.realizedPlacement.join
  worker : merged.worker = e.worker.or u.worker
  billing : merged.billing = e.billing.or u.billing
  sameBilling : ∀ old ∈ e.billing, ∀ new ∈ u.billing, old = new
  accepted : merged.toEvidenceFields =
    { e.toEvidenceFields with
      lifecycle := merged.lifecycle, realizedPlacement := merged.realizedPlacement,
      worker := merged.worker, billing := merged.billing }

theorem PodCapacityEvidence.merge_ok {e merged : PodCapacityEvidence} {u : EvidenceUpdate}
    (ok : e.merge u = .ok merged) : e.Merged u merged := by
  unfold PodCapacityEvidence.merge at ok
  simp only [bind, Except.bind] at ok
  split at ok
  · cases ok
  rename_i lifecycle built
  split at ok
  · cases ok
  rename_i realized placed
  split at ok
  · cases ok
  rename_i worker worked
  split at ok
  · cases ok
  rename_i billing billed
  rw [build_ok] at ok
  rw [Lifecycle.build_ok] at built
  rw [recordOnce_ok] at worked billed
  have placement : realized = e.realizedPlacement.or u.realizedPlacement.join := by
    unfold recordPlacement at placed
    split at placed
    · rename_i absent
      cases placed
      simp [absent]
    · cases placed
    · rename_i value given
      rw [recordOnce_ok] at placed
      simp [placed.2, given]
  refine ⟨?_, ?_, ?_, ?_, ?_, billed.1, ?_⟩
  · rw [ok]
    have at_ := congrArg LifecycleFields.reservationAt built
    exact at_
  · rw [ok]
    have phases := congrArg LifecycleFields.phases built
    exact phases
  · rw [ok]
    exact placement
  · rw [ok]
    exact worked.2
  · rw [ok]
    exact billed.2
  · rw [ok]

/-- The constructor of the evidence looks at its lifecycle only for the reservation and the
reconciliation of billing. -/
theorem EvidenceFields.check_lifecycle {e : EvidenceFields} {l : Lifecycle}
    (reserved : l.reservationAt = e.lifecycle.reservationAt)
    (billed : l.phases.billingReconciledAt = e.lifecycle.phases.billingReconciledAt) :
    ({ e with lifecycle := l } : EvidenceFields).check = e.check := by
  unfold EvidenceFields.check
  simp only [reserved, billed, EvidenceFields.contradicts]

/-- A merge of instants alone, with no reconciliation of billing among them, comes down to the
constructor of the lifecycle. -/
theorem PodCapacityEvidence.merge_lifecycle {e : PodCapacityEvidence} {p : Phases}
    (unbilled : (e.lifecycle.phases.firstWins p).billingReconciledAt =
      e.lifecycle.phases.billingReconciledAt) :
    (∃ merged, e.merge { lifecycle := p } = .ok merged) ↔
      (⟨e.lifecycle.reservationAt, e.lifecycle.phases.firstWins p⟩ : LifecycleFields).check =
        .ok () := by
  constructor
  · rintro ⟨merged, ok⟩
    have records := merge_ok ok
    rw [← records.phases, ← records.reservationAt]
    exact merged.lifecycle.checked
  · intro passes
    let lifecycle : Lifecycle := ⟨_, passes⟩
    have built : Lifecycle.build ⟨e.lifecycle.reservationAt,
        e.lifecycle.phases.firstWins p⟩ = .ok lifecycle := Lifecycle.build_ok.mpr rfl
    have kept : ∀ {α : Type} [DecidableEq α] (recorded : Option α) (message : String),
        recordOnce recorded none message = .ok recorded := by
      intro α _ recorded message
      rw [recordOnce_ok]
      simp
    have passed : ({ e.toEvidenceFields with lifecycle := lifecycle } : EvidenceFields).check =
        .ok () := by
      rw [EvidenceFields.check_lifecycle (l := lifecycle) rfl unbilled]
      exact e.checked
    refine ⟨⟨{ e.toEvidenceFields with lifecycle := lifecycle }, passed⟩, ?_⟩
    unfold PodCapacityEvidence.merge
    simp only [Bind.bind, Except.bind, built, recordPlacement, kept]
    rw [build_ok]

/-! ## Artifact handoff -/

structure HandoffFields where
  attemptId : String
  requestSha256 : String
  resultSha256 : String
  receiptSha256 : String
  acknowledgementSha256 : Option String := none
  acknowledgementPayloadSha256 : Option String := none
  remoteAckObservedAt : Option Instant := none
  hostConfirmationDeclaredAt : Option Instant := none
  deriving DecidableEq, Repr

/-- `_sha256` on an optional digest that is required. -/
def requiredSha256 (value : Option String) (name : String) : Except Exn Unit :=
  match value with
  | none => .error (.valueError ("Pod capacity " ++ name ++ " must be a lowercase SHA-256 digest"))
  | some digest => sha256Digest digest name

/-- `CatalogArtifactHandoffEvidence.__post_init__`. -/
def HandoffFields.check (f : HandoffFields) : Except Exn Unit := do
  safeIdentifier f.attemptId "handoff attempt_id"
  sha256Digest f.requestSha256 "handoff request_sha256"
  sha256Digest f.resultSha256 "handoff result_sha256"
  sha256Digest f.receiptSha256 "handoff receipt_sha256"
  (if f.acknowledgementSha256.isSome ∨ f.acknowledgementPayloadSha256.isSome then do
    requiredSha256 f.acknowledgementSha256 "handoff acknowledgement digest"
    requiredSha256 f.acknowledgementPayloadSha256 "handoff acknowledgement digest"
  else pure ())
  refuse (f.remoteAckObservedAt ≠ none ∧ f.acknowledgementSha256 = none)
    (.valueError "Remote acknowledgement requires persisted ACK intent")
  refuse (f.hostConfirmationDeclaredAt ≠ none ∧ f.remoteAckObservedAt = none)
    (.valueError "Host confirmation requires observed remote acknowledgement")

/-- Content-free transport binding, never a private receipt or signature. -/
structure Handoff extends HandoffFields where
  checked : toHandoffFields.check = .ok ()
  deriving DecidableEq

def Handoff.build (fields : HandoffFields) : Except Exn Handoff :=
  match passed : fields.check with
  | .ok () => .ok ⟨fields, passed⟩
  | .error x => .error x

theorem Handoff.build_ok {fields : HandoffFields} {handoff : Handoff} :
    Handoff.build fields = .ok handoff ↔ handoff.toHandoffFields = fields := by
  unfold Handoff.build
  split
  · rename_i passed
    constructor
    · rintro ⟨⟩
      rfl
    · rintro rfl
      rfl
  · rename_i x failed
    constructor
    · rintro ⟨⟩
    · rintro rfl
      rw [handoff.checked] at failed
      cases failed

/-- A remote acknowledgement rests on a persisted intent. -/
theorem Handoff.intent_of_remoteAck (handoff : Handoff)
    (proven : handoff.remoteAckObservedAt ≠ none) : handoff.acknowledgementSha256 ≠ none := by
  intro missing
  have passed := handoff.checked
  rw [HandoffFields.check, check_bind_ok, check_bind_ok, check_bind_ok, check_bind_ok,
    check_bind_ok, refuse_bind_ok] at passed
  exact passed.2.2.2.2.2.1 ⟨proven, missing⟩

/-- A host confirmation rests on an observed remote acknowledgement. -/
theorem Handoff.remoteAck_of_hostConfirmation (handoff : Handoff)
    (declared : handoff.hostConfirmationDeclaredAt ≠ none) :
    handoff.remoteAckObservedAt ≠ none := by
  intro missing
  have passed := handoff.checked
  rw [HandoffFields.check, check_bind_ok, check_bind_ok, check_bind_ok, check_bind_ok,
    check_bind_ok, refuse_bind_ok, refuse_ok] at passed
  exact passed.2.2.2.2.2.2 ⟨declared, missing⟩

/-- An intent names both of its digests. -/
theorem Handoff.intent_complete (handoff : Handoff) :
    handoff.acknowledgementSha256 = none ↔ handoff.acknowledgementPayloadSha256 = none := by
  have passed := handoff.checked
  rw [HandoffFields.check, check_bind_ok, check_bind_ok, check_bind_ok, check_bind_ok,
    check_bind_ok] at passed
  have digests := passed.2.2.2.2.1
  cases ack : handoff.acknowledgementSha256 with
  | none =>
      cases payload : handoff.acknowledgementPayloadSha256 with
      | none => simp
      | some digest => simp [ack, payload, requiredSha256, bind, Except.bind] at digests
  | some digest =>
      cases payload : handoff.acknowledgementPayloadSha256 with
      | some other => simp
      | none =>
          rw [ack, payload] at digests
          simp only [Option.isSome_some, Option.isSome_none, Bool.false_eq_true, or_false,
            if_true] at digests
          rw [check_bind_ok] at digests
          simp [requiredSha256] at digests

/-- `canonical_catalog_acknowledgement`, up to the canonical text itself. -/
def canonicalAcknowledgement (payload : List (String × Json)) :
    Except Exn (List (String × Json)) :=
  if Json.finiteFields payload then .ok payload
  else .error (.valueError "Catalog acknowledgement must be canonicalizable JSON")

/-- `bind_acknowledgement`: bind the opaque payload by digest. -/
def Handoff.bindAcknowledgement (d : Digests) (f : Handoff) (payload : List (String × Json)) :
    Except Exn Handoff := do
  refuse (¬ (Json.hasText payload "attempt_id" f.attemptId = true ∧
      Json.hasText payload "request_sha256" f.requestSha256 = true ∧
      Json.hasText payload "result_sha256" f.resultSha256 = true ∧
      Json.hasText payload "receipt_sha256" f.receiptSha256 = true))
    (.valueError "Catalog acknowledgement binding does not match")
  let ackSha ←
    match Json.get payload "acknowledgement_sha256" with
    | some (.str digest) => do
        sha256Digest digest "handoff acknowledgement_sha256"
        pure digest
    | _ => .error (.valueError
        "Pod capacity handoff acknowledgement_sha256 must be a lowercase SHA-256 digest")
  let canonical ← canonicalAcknowledgement payload
  let payloadSha := d.acknowledgement canonical
  refuse (f.acknowledgementSha256 ≠ none ∧
      (some ackSha ≠ f.acknowledgementSha256 ∨
        some payloadSha ≠ f.acknowledgementPayloadSha256))
    (.valueError "Catalog acknowledgement intent was already bound differently")
  Handoff.build
    { attemptId := f.attemptId
      requestSha256 := f.requestSha256
      resultSha256 := f.resultSha256
      receiptSha256 := f.receiptSha256
      acknowledgementSha256 := some ackSha
      acknowledgementPayloadSha256 := some payloadSha
      remoteAckObservedAt := f.remoteAckObservedAt
      hostConfirmationDeclaredAt := f.hostConfirmationDeclaredAt }

/-- The payload names the acknowledgement digest of the intent that it binds. -/
structure Handoff.Binds (d : Digests) (payload : List (String × Json)) (digest : String)
    (f intent : Handoff) : Prop where
  attempt : Json.hasText payload "attempt_id" f.attemptId = true
  request : Json.hasText payload "request_sha256" f.requestSha256 = true
  result : Json.hasText payload "result_sha256" f.resultSha256 = true
  receipt : Json.hasText payload "receipt_sha256" f.receiptSha256 = true
  named : Json.get payload "acknowledgement_sha256" = some (.str digest)
  finite : Json.finiteFields payload = true
  agrees : f.acknowledgementSha256 ≠ none →
    f.acknowledgementSha256 = some digest ∧
      f.acknowledgementPayloadSha256 = some (d.acknowledgement payload)
  intent : intent.toHandoffFields =
    { f.toHandoffFields with
      acknowledgementSha256 := some digest
      acknowledgementPayloadSha256 := some (d.acknowledgement payload) }

theorem Handoff.bindAcknowledgement_ok {d : Digests} {payload : List (String × Json)}
    {f intent : Handoff} (ok : f.bindAcknowledgement d payload = .ok intent) :
    ∃ digest, Binds d payload digest f intent := by
  unfold bindAcknowledgement at ok
  rw [refuse_bind_ok, not_not] at ok
  obtain ⟨⟨attempt, request, result, receipt⟩, ok⟩ := ok
  split at ok
  · rename_i digest named
    simp only [bind, Except.bind, pure, Except.pure] at ok
    split at ok
    · cases ok
    split at ok
    · cases ok
    rename_i canonical finite
    split at ok
    · cases ok
    rename_i agrees
    have same : canonical = payload ∧ Json.finiteFields payload = true := by
      unfold canonicalAcknowledgement at finite
      split at finite
      · rename_i numbers
        cases finite
        exact ⟨rfl, numbers⟩
      · cases finite
    obtain ⟨rfl, numbers⟩ := same
    rw [build_ok] at ok
    rw [refuse_ok] at agrees
    refine ⟨digest, attempt, request, result, receipt, named, numbers, fun bound => ?_, ok⟩
    have equal := not_and.mp agrees bound
    rw [not_or, not_not, not_not] at equal
    exact ⟨equal.1.symm, equal.2.symm⟩
  · cases ok

/-- The payload is the acknowledgement that the handoff already records. -/
structure Handoff.Records (d : Digests) (f : Handoff) (payload : List (String × Json)) :
    Prop where
  attempt : Json.hasText payload "attempt_id" f.attemptId = true
  request : Json.hasText payload "request_sha256" f.requestSha256 = true
  result : Json.hasText payload "result_sha256" f.resultSha256 = true
  receipt : Json.hasText payload "receipt_sha256" f.receiptSha256 = true
  finite : Json.finiteFields payload = true
  named : ∃ digest, f.acknowledgementSha256 = some digest ∧
    Json.get payload "acknowledgement_sha256" = some (.str digest)
  digested : f.acknowledgementPayloadSha256 = some (d.acknowledgement payload)

/-- The acknowledgement digest on record is a digest. -/
theorem Handoff.acknowledgement_checked {f : Handoff} {digest : String}
    (bound : f.acknowledgementSha256 = some digest) (name : String) :
    sha256Digest digest name = .ok () := by
  have passed := f.checked
  rw [HandoffFields.check, check_bind_ok, check_bind_ok, check_bind_ok, check_bind_ok,
    check_bind_ok] at passed
  have digests := passed.2.2.2.2.1
  rw [bound, if_pos (.inl rfl), check_bind_ok] at digests
  have own := digests.1
  unfold requiredSha256 sha256Digest at own
  unfold sha256Digest
  rw [refuse_ok] at own ⊢
  exact own

/-- Once an intent is on record, exactly the same acknowledgement can be bound again, and
binding it changes nothing. -/
theorem Handoff.bindAcknowledgement_recorded {d : Digests} {payload : List (String × Json)}
    {f : Handoff} (bound : f.acknowledgementSha256 ≠ none) (intent : Handoff) :
    f.bindAcknowledgement d payload = .ok intent ↔ f.Records d payload ∧ intent = f := by
  constructor
  · intro ok
    obtain ⟨digest, binds⟩ := bindAcknowledgement_ok ok
    obtain ⟨named, digested⟩ := binds.agrees bound
    refine ⟨⟨binds.attempt, binds.request, binds.result, binds.receipt, binds.finite,
      ⟨digest, named, binds.named⟩, digested⟩, ?_⟩
    have same : intent.toHandoffFields = f.toHandoffFields := by
      rw [binds.intent, ← named, ← digested]
    cases intent
    cases f
    simp_all
  · rintro ⟨records, rfl⟩
    obtain ⟨digest, named, payloadNames⟩ := records.named
    unfold bindAcknowledgement
    rw [refuse_bind_ok, not_not]
    refine ⟨⟨records.attempt, records.request, records.result, records.receipt⟩, ?_⟩
    have built : Handoff.build
        { intent.toHandoffFields with
          acknowledgementSha256 := some digest
          acknowledgementPayloadSha256 := some (d.acknowledgement payload) } = .ok intent := by
      rw [build_ok, ← named, ← records.digested]
    simp only [payloadNames, acknowledgement_checked named, canonicalAcknowledgement,
      records.finite, if_true, named, records.digested, bind, Except.bind, pure, Except.pure]
    rw [refuse, if_neg (by simp)]
    exact built

/-! ## Workload observation -/

structure ObservationFields where
  attemptId : String
  requestSha256 : Option String
  state : WorkloadState
  errorType : Option String
  resultAvailable : Bool
  resultSha256 : Option String := none
  receiptSha256 : Option String := none
  acknowledgementSha256 : Option String := none
  deriving DecidableEq, Repr

/-- `CatalogPodWorkloadObservation.__post_init__`. -/
def ObservationFields.check (o : ObservationFields) : Except Exn Unit := do
  refuse ((o.resultSha256.map isSha256).getD true = false ∨
      (o.receiptSha256.map isSha256).getD true = false ∨
      (o.acknowledgementSha256.map isSha256).getD true = false)
    (.transport "Catalog Pod status digest is invalid")
  refuse ((o.state = .awaitingAck ∨ o.state = .acknowledged) ∧
      (o.resultAvailable = false ∨ o.requestSha256 = none ∨ o.resultSha256 = none ∨
        o.receiptSha256 = none))
    (.transport "Catalog Pod handoff status is missing result/receipt evidence")
  refuse (o.state = .acknowledged ∧ o.acknowledgementSha256 = none)
    (.transport "Catalog Pod acknowledged status is missing ACK evidence")

/-- Content-free status from the single-attempt worker. -/
structure Observation extends ObservationFields where
  checked : toObservationFields.check = .ok ()
  deriving DecidableEq

end KestrelRunpod.Pod
