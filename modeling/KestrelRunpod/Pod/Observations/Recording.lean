import KestrelRunpod.Pod.System.Invariants
import KestrelRunpod.Pod.System.Solo

/-!
# Recording a worker observation

What `_record_catalog_observation` makes of an active row that nobody else writes
(`Lease.record`).  An answer about the attempt on record does one of three things
(`Lease.Recorded`): it is refused, it proves its handoff at most, or it moves the workload.

Which one is decided by the rank of its phase and by its instant: an answer that would date a
phase after a following one that is already dated is refused as a whole (`Lease.displaced`).
-/

namespace KestrelRunpod.Pod

open Interleave Program
open Traverse (check_bind_ok)

/-! ## Recording one answer -/

/-- One answer of the worker as it is recorded: whether it answers a submission, and when the
service read its clock. -/
structure Delivery where
  observation : Observation
  submitted : Bool
  readAt : Instant
  deriving DecidableEq

/-- The instants an answer stands for. -/
def Delivery.phases (δ : Delivery) : Phases :=
  (observedProgress δ.observation δ.submitted δ.readAt {}).2

/-- `_record_catalog_observation` on an active row that nobody else writes. -/
def Lease.recording (lease : Lease) (δ : Delivery) : Except Exn Lease :=
  match lease.capacitySpec with
  | none => .error (.manager "Pod lease is not a catalog capacity attempt")
  | some spec => do
      refuse (δ.observation.attemptId ≠ spec.request.attemptId ∨
          δ.observation.requestSha256 ≠ some spec.request.requestSha256)
        (.conflict "Catalog workload observation does not match the exact attempt binding")
      let (changes, lifecycle) ←
        catalogObservationChanges lease spec δ.observation δ.submitted δ.readAt
      if changes = {} then pure lease
      else do
        let persisted ← lease.persisted changes { lifecycle := lifecycle }
        pure (lease.apply persisted)

/-- The row after an answer: as recorded, or as it was when the answer is refused. -/
def Lease.record (lease : Lease) (δ : Delivery) : Lease :=
  match lease.recording δ with
  | .ok recorded => recorded
  | .error _ => lease

/-- The row after a sequence of answers. -/
def Lease.recordAll (lease : Lease) (deliveries : List Delivery) : Lease :=
  deliveries.foldl Lease.record lease

theorem Lease.recordAll_append {lease : Lease} {before after : List Delivery} :
    lease.recordAll (before ++ after) = (lease.recordAll before).recordAll after :=
  List.foldl_append

/-- A merge of instants alone is never refused as a conflict. -/
theorem PodCapacityEvidence.merge_lifecycle_error {e : PodCapacityEvidence} {p : Phases}
    {x : Exn} (unbilled : (e.lifecycle.phases.firstWins p).billingReconciledAt =
      e.lifecycle.phases.billingReconciledAt)
    (failed : e.merge { lifecycle := p } = .error x) : x.isConflict = false := by
  cases passes : (⟨e.lifecycle.reservationAt,
      e.lifecycle.phases.firstWins p⟩ : LifecycleFields).check with
  | ok done =>
      obtain ⟨merged, ok⟩ := (merge_lifecycle unbilled).mpr passes
      rw [failed] at ok
      cases ok
  | error y =>
      have built : Lifecycle.build ⟨e.lifecycle.reservationAt,
          e.lifecycle.phases.firstWins p⟩ = .error y := by
        unfold Lifecycle.build
        split
        · rename_i passed
          rw [passes] at passed
          cases passed
        · rename_i z is
          rw [passes] at is
          cases is
          rfl
      unfold PodCapacityEvidence.merge at failed
      simp only [Bind.bind, Except.bind, built] at failed
      cases failed
      unfold LifecycleFields.check refuse at passes
      simp only [Bind.bind, Except.bind] at passes
      split at passes
      · rename_i is
        split at is <;> cases is
        cases passes
        rfl
      · split at passes <;> cases passes
        rfl

/-! ## Instants in order -/

/-- A phase without an instant would get one that is later than that of a following phase. -/
def late (recorded new : Option Instant) (following : List (Option Instant)) : Bool :=
  recorded.isNone && new.any fun t => following.any fun next => next.any fun x => x < t

theorem late_eq_true {recorded new : Option Instant} {following : List (Option Instant)} :
    late recorded new following = true ↔
      recorded = none ∧ ∃ t ∈ new, ∃ next ∈ following, ∃ x ∈ next, x < t := by
  simp only [late, Bool.and_eq_true, Option.isNone_iff_eq_none, Option.any_eq_true,
    List.any_eq_true, decide_eq_true_eq, Option.mem_def]

/-- Filling in an instant that is not late keeps a list of instants in order. -/
theorem pairwise_fill (before : List (Option Instant)) {after : List (Option Instant)}
    {recorded new : Option Instant}
    (ordered : (before ++ recorded :: after).Pairwise fun a b => ∀ x ∈ a, ∀ y ∈ b, x ≤ y)
    (dated : ∀ a ∈ before, ∀ x ∈ a, ∀ t ∈ new, x ≤ t)
    (timely : late recorded new after = false) :
    (before ++ recorded.or new :: after).Pairwise fun a b => ∀ x ∈ a, ∀ y ∈ b, x ≤ y := by
  cases recorded with
  | some old => exact ordered
  | none =>
      rw [List.pairwise_append, List.pairwise_cons] at ordered ⊢
      obtain ⟨first, ⟨_, rest⟩, across⟩ := ordered
      refine ⟨first, ⟨fun next member t has x recorded => ?_, rest⟩, fun a member b later => ?_⟩
      · have has : t ∈ new := has
        by_contra earlier
        have is := late_eq_true.mpr ⟨rfl, t, has, next, member, x, recorded, not_le.mp earlier⟩
        rw [timely] at is
        cases is
      · rcases List.mem_cons.mp later with rfl | later
        · intro x has t is
          exact dated a member x has t is
        · exact across a member b (List.mem_cons_of_mem _ later)

/-- The answer would date a phase after one that is recorded to follow it. -/
def Lease.displaced (lease : Lease) (δ : Delivery) : Bool :=
  lease.evidence.any fun evidence =>
    let recorded := evidence.lifecycle.phases
    late recorded.workloadSubmittedAt δ.phases.workloadSubmittedAt
        [recorded.workloadRunningAt, recorded.workloadTerminalAt, recorded.stopConfirmedAt,
          recorded.billingReconciledAt] ||
      late recorded.workloadRunningAt δ.phases.workloadRunningAt
        [recorded.workloadTerminalAt, recorded.stopConfirmedAt, recorded.billingReconciledAt] ||
      late recorded.workloadTerminalAt δ.phases.workloadTerminalAt
        [recorded.stopConfirmedAt, recorded.billingReconciledAt]

/-- The instants an answer stands for are its own clock read. -/
theorem Delivery.phases_eq (δ : Delivery) :
    ∃ submittedAt runningAt terminalAt, δ.phases =
        { workloadSubmittedAt := submittedAt
          workloadRunningAt := runningAt
          workloadTerminalAt := terminalAt } ∧
      (∀ t ∈ submittedAt, t = δ.readAt) ∧ (∀ t ∈ runningAt, t = δ.readAt) ∧
      (∀ t ∈ terminalAt, t = δ.readAt) := by
  unfold phases observedProgress
  cases δ.submitted <;> cases δ.observation.state <;>
    exact ⟨_, _, _, rfl, by simp, by simp, by simp⟩

theorem Delivery.phases_dated (δ : Delivery) : δ.phases.WorkingBy δ.readAt := by
  obtain ⟨submittedAt, runningAt, terminalAt, is, submits, runs, ends⟩ := δ.phases_eq
  rw [is]
  simp only [Phases.WorkingBy, Phases.working, List.mem_cons, List.not_mem_nil, or_false,
    forall_eq_or_imp, forall_eq]
  exact ⟨by simp, by simp, by simp, by simp, fun x has => (submits x has).le,
    fun x has => (runs x has).le, fun x has => (ends x has).le⟩

/-- The instants of an answer that displaces none can be merged. -/
theorem PodCapacityEvidence.merge_delivery {lease : Lease} {e : PodCapacityEvidence}
    {δ : Delivery} (recorded : lease.evidence = some e)
    (reserved : e.lifecycle.reservationAt ≤ δ.readAt)
    (dated : e.lifecycle.phases.WorkingBy δ.readAt) (timely : lease.displaced δ = false) :
    ∃ merged, e.merge { lifecycle := δ.phases } = .ok merged := by
  obtain ⟨submittedAt, runningAt, terminalAt, phases, submits, runs, ends⟩ := δ.phases_eq
  have checked := LifecycleFields.check_ok.mp e.lifecycle.checked
  obtain ⟨ordered, provenance⟩ := checked
  simp only [Lease.displaced, recorded, Option.any_some, Bool.or_eq_false_iff, phases] at timely
  obtain ⟨⟨first, second⟩, third⟩ := timely
  have before := LifecycleFields.beforeStop_le reserved dated
  simp only [LifecycleFields.beforeStop, List.mem_cons, List.not_mem_nil, or_false,
    forall_eq_or_imp, forall_eq] at before
  obtain ⟨reservation, created, running, ready, submitted, ran, terminal⟩ := before
  have filled : ∀ {recorded new : Option Instant}, (∀ x ∈ recorded, x ≤ δ.readAt) →
      (∀ t ∈ new, t = δ.readAt) → ∀ x ∈ recorded.or new, x ≤ δ.readAt := by
    intro recorded new old is x has
    cases recorded with
    | some y => exact old x has
    | none => exact (is x has).le
  have meets : ∀ {a new : Option Instant}, (∀ x ∈ a, x ≤ δ.readAt) →
      (∀ t ∈ new, t = δ.readAt) → ∀ x ∈ a, ∀ t ∈ new, x ≤ t := by
    intro a new old is x has t given
    rw [is t given]
    exact old x has
  -- The instants are filled in one after the other, in the order of the phases.
  have ordered₁ := pairwise_fill [_, _, _, _] ordered
    (by simp only [List.mem_cons, List.not_mem_nil, or_false, forall_eq_or_imp, forall_eq]
        exact ⟨meets reservation submits, meets created submits, meets running submits,
          meets ready submits⟩) first
  have ordered₂ := pairwise_fill [_, _, _, _, _] ordered₁
    (by simp only [List.mem_cons, List.not_mem_nil, or_false, forall_eq_or_imp, forall_eq]
        exact ⟨meets reservation runs, meets created runs, meets running runs,
          meets ready runs, meets (filled submitted submits) runs⟩) second
  have ordered₃ := pairwise_fill [_, _, _, _, _, _] ordered₂
    (by simp only [List.mem_cons, List.not_mem_nil, or_false, forall_eq_or_imp, forall_eq]
        exact ⟨meets reservation ends, meets created ends, meets running ends,
          meets ready ends, meets (filled submitted submits) ends,
          meets (filled ran runs) ends⟩) third
  have merged : e.lifecycle.phases.firstWins δ.phases =
      { e.lifecycle.phases with
        workloadSubmittedAt := e.lifecycle.phases.workloadSubmittedAt.or submittedAt
        workloadRunningAt := e.lifecycle.phases.workloadRunningAt.or runningAt
        workloadTerminalAt := e.lifecycle.phases.workloadTerminalAt.or terminalAt } := by
    rw [phases]
    simp only [Phases.firstWins, Option.or_none]
  rw [merge_lifecycle (by rw [merged]), merged, LifecycleFields.check_ok]
  exact ⟨ordered₃, provenance⟩

/-- An answer that would date a phase after a following one cannot be merged. -/
theorem PodCapacityEvidence.merge_displaced {lease : Lease} {e merged : PodCapacityEvidence}
    {δ : Delivery} (recorded : lease.evidence = some e)
    (ok : e.merge { lifecycle := δ.phases } = .ok merged) : lease.displaced δ = false := by
  obtain ⟨submittedAt, runningAt, terminalAt, phases, _⟩ := δ.phases_eq
  obtain ⟨ordered, _⟩ := LifecycleFields.check_ok.mp merged.lifecycle.checked
  have records := (merge_ok ok).phases
  simp only [LifecycleFields.ordered, records, phases, Phases.firstWins, Option.or_none,
    List.pairwise_cons] at ordered
  obtain ⟨_, _, _, _, first, second, third, _⟩ := ordered
  -- What follows a phase once the answer is merged is what followed it before.
  have untimely : ∀ {old new : Option Instant} {following following' : List (Option Instant)},
      (∀ next ∈ following', ∀ t ∈ old.or new, ∀ x ∈ next, t ≤ x) →
      (∀ next ∈ following, ∀ x ∈ next, ∃ next' ∈ following', x ∈ next') →
      late old new following = false := by
    intro old new following following' inOrder kept
    rw [Bool.eq_false_iff]
    intro is
    obtain ⟨rfl, t, has, next, member, x, recorded, earlier⟩ := late_eq_true.mp is
    obtain ⟨next', member', recorded'⟩ := kept next member x recorded
    exact absurd (inOrder next' member' t has x recorded') (not_le.mpr earlier)
  have stays : ∀ {old new : Option Instant}, ∀ x ∈ old, x ∈ old.or new := by
    rintro old new x ⟨⟩
    rfl
  simp only [Lease.displaced, recorded, Option.any_some, Bool.or_eq_false_iff, phases]
  refine ⟨⟨untimely first ?_, untimely second ?_⟩, untimely third ?_⟩
  · simp only [List.mem_cons, List.not_mem_nil, or_false, forall_eq_or_imp, forall_eq,
      exists_eq_or_imp, exists_eq_left]
    exact ⟨fun x has => .inl (stays x has), fun x has => .inr (.inl (stays x has)),
      fun x has => .inr (.inr (.inl has)), fun x has => .inr (.inr (.inr has))⟩
  · simp only [List.mem_cons, List.not_mem_nil, or_false, forall_eq_or_imp, forall_eq,
      exists_eq_or_imp, exists_eq_left]
    exact ⟨fun x has => .inl (stays x has), fun x has => .inr (.inl has),
      fun x has => .inr (.inr has)⟩
  · exact fun next member x has => ⟨next, member, has⟩

/-! ## The handoff of an answer -/

/-- The handoff with the remote acknowledgement observed, at `t` unless it was before. -/
def HandoffFields.proved (f : HandoffFields) (t : Instant) : HandoffFields :=
  { f with remoteAckObservedAt := f.remoteAckObservedAt.or (some t) }

/-- The binding of a handoff is a handoff. -/
theorem Handoff.binding_checked (handoff : Handoff) :
    ({ attemptId := handoff.attemptId
       requestSha256 := handoff.requestSha256
       resultSha256 := handoff.resultSha256
       receiptSha256 := handoff.receiptSha256 } : HandoffFields).check = .ok () := by
  have passed := handoff.checked
  rw [HandoffFields.check, check_bind_ok, check_bind_ok, check_bind_ok, check_bind_ok] at passed
  obtain ⟨attempt, request, result, receipt, _⟩ := passed
  rw [HandoffFields.check, check_bind_ok, check_bind_ok, check_bind_ok, check_bind_ok]
  exact ⟨attempt, request, result, receipt, rfl⟩

/-- Proof of a persisted intent can be recorded. -/
theorem Handoff.proved_checked (handoff : Handoff) (t : Instant)
    (intended : handoff.acknowledgementSha256 ≠ none) :
    (handoff.proved t).check = .ok () := by
  have passed := handoff.checked
  rw [HandoffFields.check, check_bind_ok, check_bind_ok, check_bind_ok, check_bind_ok,
    check_bind_ok] at passed
  obtain ⟨attempt, request, result, receipt, digests, _⟩ := passed
  rw [HandoffFields.check, check_bind_ok, check_bind_ok, check_bind_ok, check_bind_ok,
    check_bind_ok, refuse_bind_ok, refuse_ok]
  refine ⟨attempt, request, result, receipt, digests, fun missing => intended missing.2, ?_⟩
  rintro ⟨_, missing⟩
  unfold HandoffFields.proved at missing
  cases observed : handoff.remoteAckObservedAt <;> simp [observed] at missing

/-- An answer about the attempt of the intent, with its digests. -/
structure Observation.Authentic (o : Observation) (intent : Handoff) : Prop where
  attempt : o.attemptId = intent.attemptId
  request : o.requestSha256 = some intent.requestSha256
  result : o.state = .awaitingAck ∨ o.state = .acknowledged →
    o.resultSha256 = some intent.resultSha256
  receipt : o.state = .awaitingAck ∨ o.state = .acknowledged →
    o.receiptSha256 = some intent.receiptSha256
  acknowledgement : o.state = .acknowledged →
    o.acknowledgementSha256 = intent.acknowledgementSha256

/-- The row of the intent's attempt, with the intent on record and its instants by `t`. -/
structure Lease.Intends (row : Lease) (spec : CapacitySpec) (intent : Handoff) (t : Instant) :
    Prop where
  bound : row.capacitySpec = some spec
  protocolOne : spec.request.artifactHandoffProtocolVersion = some 1
  attempt : intent.attemptId = spec.request.attemptId
  request : intent.requestSha256 = spec.request.requestSha256
  intended : intent.acknowledgementSha256 ≠ none
  active : row.isTerminal = false
  handoff : ∃ handoff remote, row.artifactHandoff = some handoff ∧
    handoff.toHandoffFields = { intent.toHandoffFields with remoteAckObservedAt := remote }
  evidence : ∃ e, row.evidence = some e ∧ e.lifecycle.reservationAt ≤ t ∧
    e.lifecycle.phases.WorkingBy t

/-- What an authentic answer makes of the handoff. -/
theorem observedHandoff_authentic {spec : CapacitySpec} {intent handoff : Handoff} {row : Lease}
    {o : Observation} {t u : Instant} (intends : row.Intends spec intent u)
    (authentic : o.Authentic intent) (recorded : row.artifactHandoff = some handoff) :
    ∃ after, observedHandoff spec row o t = .ok (some after) ∧ after.toHandoffFields =
      if o.state = .acknowledged then handoff.proved t else handoff.toHandoffFields := by
  obtain ⟨here, remote, is, fields⟩ := intends.handoff
  rw [recorded] at is
  cases is
  have attempt : handoff.attemptId = intent.attemptId := by rw [fields]
  have request : handoff.requestSha256 = intent.requestSha256 := by rw [fields]
  have result : handoff.resultSha256 = intent.resultSha256 := by rw [fields]
  have receipt : handoff.receiptSha256 = intent.receiptSha256 := by rw [fields]
  have digest : handoff.acknowledgementSha256 = intent.acknowledgementSha256 := by rw [fields]
  have intended : handoff.acknowledgementSha256 ≠ none := digest ▸ intends.intended
  unfold observedHandoff
  by_cases phase : o.state = .awaitingAck ∨ o.state = .acknowledged
  · have built : Handoff.build
        { attemptId := o.attemptId
          requestSha256 := spec.request.requestSha256
          resultSha256 := o.resultSha256.getD ""
          receiptSha256 := o.receiptSha256.getD "" } = .ok ⟨_, handoff.binding_checked⟩ := by
      rw [Handoff.build_ok, authentic.attempt, authentic.result phase, authentic.receipt phase,
        ← intends.request, ← attempt, ← request, ← result, ← receipt]
      rfl
    have agrees : ¬ ((row.artifactHandoff.any fun known =>
        known.resultSha256 ≠ handoff.resultSha256 ∨
          known.receiptSha256 ≠ handoff.receiptSha256) = true) := by
      rw [recorded]
      simp
    rw [if_pos phase]
    simp only [Bind.bind, Except.bind, built, refuse]
    rw [if_neg agrees, recorded]
    dsimp only [Option.getD_some]
    by_cases acked : o.state = .acknowledged
    · have matching : ¬ (handoff.acknowledgementSha256 = none ∨
          handoff.acknowledgementSha256 ≠ o.acknowledgementSha256) := by
        rw [authentic.acknowledgement acked, digest]
        rintro (missing | differs)
        · exact intends.intended missing
        · exact differs rfl
      have proved : Handoff.build (handoff.proved t) =
          .ok ⟨_, handoff.proved_checked t intended⟩ := Handoff.build_ok.mpr rfl
      unfold HandoffFields.proved at proved
      rw [if_pos acked, if_neg matching]
      dsimp only
      rw [proved, if_pos acked]
      exact ⟨_, rfl, rfl⟩
    · rw [if_neg acked, if_neg acked]
      exact ⟨handoff, rfl, rfl⟩
  · rw [if_neg phase, recorded, if_neg fun acked => phase (.inr acked)]
    exact ⟨handoff, rfl, rfl⟩

/-! ## One step -/

/-- The row takes progress, and the answer is not behind it. -/
def Lease.takes (row : Lease) (o : Observation) : Bool :=
  !row.refusesProgress && !regresses row o

/-- The state of a lease whose workload is observed in this state. -/
def WorkloadState.leads (observed : WorkloadState) (state : PodState) : PodState :=
  match observed with
  | .running => .jobSubmitted
  | .succeeded | .awaitingAck | .acknowledged => .jobCompleted
  | .failed | .cancelled | .cancelRequested => .cancelRequested
  | .notSubmitted | .idle => state

/-- The instants a row has recorded. -/
def Lease.phases (row : Lease) : Phases :=
  (row.evidence.map fun e => e.lifecycle.phases).getD {}

/-- The handoff of the row after an answer. -/
def Lease.HandoffAfter (row : Lease) (δ : Delivery) (now : Lease) : Prop :=
  ∀ handoff, row.artifactHandoff = some handoff → ∃ after, now.artifactHandoff = some after ∧
    after.toHandoffFields = if δ.observation.state = .acknowledged then
      handoff.proved δ.readAt else handoff.toHandoffFields

/-- What recording an authentic answer can do to a row. -/
inductive Lease.Recorded (row : Lease) (δ : Delivery) : Lease → Prop
  | refused : δ.observation.state = .succeeded ∨
      (row.takes δ.observation = true ∧ row.displaced δ = true) → Recorded row δ row
  | proof (now : Lease) : row.takes δ.observation = false → row.HandoffAfter δ now →
      now.workloadState = row.workloadState → now.state = row.state →
      now.phases = row.phases → Recorded row δ now
  | progress (now : Lease) : δ.observation.state ≠ .succeeded →
      row.takes δ.observation = true → row.displaced δ = false → row.HandoffAfter δ now → now.workloadState = δ.observation.state →
      now.state = δ.observation.state.leads row.state →
      now.phases = row.phases.firstWins δ.phases → Recorded row δ now

section

variable {row : Lease} {spec : CapacitySpec} {intent handoff after : Handoff} {t : Instant}
  {δ : Delivery}

/-- The columns of a handoff that differs from the one on record. -/
def Lease.proofChanges (row : Lease) (after : Handoff) : Changes :=
  if some after ≠ row.artifactHandoff then { artifactHandoff := some after } else {}

/-- Recording an authentic answer, with the checks that it passes left out. -/
theorem Lease.recording_authentic (intends : row.Intends spec intent t)
    (authentic : δ.observation.Authentic intent)
    (reports : observedHandoff spec row δ.observation δ.readAt = .ok (some after))
    (unfinished : δ.observation.state ≠ .succeeded) :
    row.recording δ =
      if row.takes δ.observation = true then
        (row.persisted (observedProgress δ.observation δ.submitted δ.readAt
          (row.proofChanges after)).1 { lifecycle := δ.phases }).map row.apply
      else if row.proofChanges after = {} then .ok row
      else (row.persisted (row.proofChanges after) {}).map row.apply := by
  have binding : ¬ (δ.observation.attemptId ≠ spec.request.attemptId ∨
      δ.observation.requestSha256 ≠ some spec.request.requestSha256) := by
    rw [authentic.attempt, authentic.request, intends.attempt, intends.request]
    simp
  have current : ¬ (spec.request.artifactHandoffProtocolVersion = none ∧
      (δ.observation.state = .awaitingAck ∨ δ.observation.state = .acknowledged)) := by
    rw [intends.protocolOne]
    simp
  have successless : ¬ (spec.request.artifactHandoffProtocolVersion = some 1 ∧
      δ.observation.state = .succeeded) := fun both => unfinished both.2
  have phases : (observedProgress δ.observation δ.submitted δ.readAt
      (row.proofChanges after)).2 = δ.phases := by
    unfold Delivery.phases observedProgress
    cases δ.observation.state <;> rfl
  have changed : (observedProgress δ.observation δ.submitted δ.readAt
      (row.proofChanges after)).1 ≠ {} := by
    intro is
    have workload := congrArg Changes.workloadState is
    unfold observedProgress at workload
    cases state : δ.observation.state <;> simp [state] at workload
  unfold recording catalogObservationChanges
  rw [intends.bound]
  dsimp only
  rw [refuse, if_neg binding, refuse, if_neg successless, refuse, if_neg current, reports]
  simp only [Bind.bind, Except.bind, Pure.pure, Except.pure]
  have proof : (if some after ≠ row.artifactHandoff then { artifactHandoff := some after }
      else {} : Changes) = row.proofChanges after := rfl
  rw [proof, ← phases]
  cases refuses : row.refusesProgress with
  | true =>
      have idle : row.takes δ.observation = false := by simp only [takes, refuses, Bool.not_true,
        Bool.false_and]
      rw [if_pos rfl, idle, if_neg (by simp)]
      dsimp only
      cases row.persisted (row.proofChanges after) {} <;> rfl
  | false =>
      rw [if_neg (by simp)]
      cases behind : regresses row δ.observation with
      | true =>
          have idle : row.takes δ.observation = false := by simp only [takes, behind, Bool.not_true,
            Bool.and_false]
          rw [if_pos rfl, idle, if_neg (by simp)]
          dsimp only
          cases row.persisted (row.proofChanges after) {} <;> rfl
      | false =>
          have onward : row.takes δ.observation = true := by simp only [takes, refuses, behind,
            Bool.not_false, Bool.and_self]
          rw [if_neg (by simp), onward, if_pos rfl]
          dsimp only
          rw [if_neg changed]
          cases row.persisted _ { lifecycle := _ } <;> rfl

/-- A merge of nothing records nothing. -/
theorem PodCapacityEvidence.merge_nothing (e : PodCapacityEvidence) :
    ∃ merged, e.merge {} = .ok merged := by
  have same : e.lifecycle.phases.firstWins {} = e.lifecycle.phases := by
    simp only [Phases.firstWins, Option.or_none]
  have passes := merge_lifecycle (e := e) (p := {}) (by rw [same])
  rw [same] at passes
  exact passes.mpr e.lifecycle.checked

/-- The columns of a proof leave the handoff on the row. -/
theorem Lease.proofChanges_handoff (row : Lease) (after : Handoff) :
    (row.proofChanges after).artifactHandoff.or row.artifactHandoff = some after := by
  unfold proofChanges
  split
  · rfl
  · rename_i same
    rw [not_not] at same
    exact same.symm

/-- The columns of a proof are the handoff alone. -/
theorem Lease.proofChanges_others (row : Lease) (after : Handoff) :
    (row.proofChanges after).state = none ∧ (row.proofChanges after).workloadState = none := by
  unfold proofChanges
  split <;> exact ⟨rfl, rfl⟩

/-- What an answer sets, whatever else it stands for. -/
theorem observedProgress_columns (o : Observation) (submitted : Bool) (t : Instant)
    (proof : Changes) (state : PodState) (unset : proof.state = none) :
    (observedProgress o submitted t proof).1.artifactHandoff = proof.artifactHandoff ∧
      (observedProgress o submitted t proof).1.workloadState = some o.state ∧
      (observedProgress o submitted t proof).1.state.getD state = o.state.leads state := by
  unfold observedProgress WorkloadState.leads
  cases o.state <;> simp [unset]

/-- A protocol-1 job does not succeed without a handoff. -/
theorem Lease.recording_succeeded (intends : row.Intends spec intent t)
    (authentic : δ.observation.Authentic intent) (finished : δ.observation.state = .succeeded) :
    ∃ x, row.recording δ = .error x := by
  unfold recording catalogObservationChanges
  rw [intends.bound]
  dsimp only
  rw [refuse, if_neg (by simp [authentic.attempt, authentic.request, intends.attempt,
    intends.request]), refuse, if_pos ⟨intends.protocolOne, finished⟩]
  exact ⟨_, rfl⟩

/-- The job is kept by an update of its handoff and its evidence. -/
theorem Lease.Intends.apply {changes : Changes} {merged : PodCapacityEvidence} {u : Instant}
    (intends : row.Intends spec intent t)
    (active : changes.state.getD row.state ≠ .released)
    (handoff : changes.artifactHandoff.or row.artifactHandoff = some after)
    (binding : ∃ remote, after.toHandoffFields =
      { intent.toHandoffFields with remoteAckObservedAt := remote })
    (evidence : changes.evidence = some merged)
    (reserved : merged.lifecycle.reservationAt ≤ u)
    (dated : merged.lifecycle.phases.WorkingBy u) :
    (row.apply changes).Intends spec intent u := by
  obtain ⟨remote, fields⟩ := binding
  refine { intends with active := ?_, handoff := ⟨after, remote, handoff, fields⟩, evidence := ?_ }
  · rw [isTerminal, Lease.apply_state]
    exact decide_eq_false active
  · exact ⟨merged, by rw [Lease.apply_evidence, evidence, Option.some_or], reserved, dated⟩

/-- Recording an authentic answer keeps the job, and does one of three things to it. -/
theorem Lease.record_authentic (intends : row.Intends spec intent t)
    (authentic : δ.observation.Authentic intent) (later : t ≤ δ.readAt) :
    row.Recorded δ (row.record δ) ∧ (row.record δ).Intends spec intent δ.readAt := by
  obtain ⟨handoff, remote, recorded, fields⟩ := intends.handoff
  obtain ⟨e, has, reserved, dated⟩ := intends.evidence
  obtain ⟨after, reports, is⟩ :=
    observedHandoff_authentic (t := δ.readAt) intends authentic recorded
  have active : row.state ≠ .released := of_decide_eq_false intends.active
  have kept : row.Intends spec intent δ.readAt :=
    { intends with evidence := ⟨e, has, reserved.trans later, dated.mono later⟩ }
  have binding : ∃ remote, after.toHandoffFields =
      { intent.toHandoffFields with remoteAckObservedAt := remote } := by
    rw [is]
    split
    · exact ⟨_, by rw [HandoffFields.proved, fields]⟩
    · exact ⟨remote, fields⟩
  have proves : ∀ now : Lease, now.artifactHandoff = some after → row.HandoffAfter δ now := by
    intro now has known old
    rw [recorded] at old
    cases old
    exact ⟨after, has, is⟩
  have phases : row.phases = e.lifecycle.phases := by rw [Lease.phases, has]; rfl
  by_cases finished : δ.observation.state = .succeeded
  · obtain ⟨x, failed⟩ := recording_succeeded intends authentic finished
    rw [record, failed]
    exact ⟨.refused (.inl finished), kept⟩
  have recording := recording_authentic intends authentic reports finished
  obtain ⟨unset, idle⟩ := row.proofChanges_others after
  cases takes : row.takes δ.observation with
  | true =>
      rw [if_pos takes] at recording
      obtain ⟨handoffs, workload, state⟩ := observedProgress_columns δ.observation δ.submitted
        δ.readAt (row.proofChanges after) row.state unset
      cases displaced : row.displaced δ with
      | true =>
          cases merges : e.merge { lifecycle := δ.phases } with
          | ok merged =>
              rw [PodCapacityEvidence.merge_displaced has merges] at displaced
              cases displaced
          | error x =>
              rw [Lease.persisted, has] at recording
              dsimp only at recording
              rw [merges] at recording
              rw [record, recording]
              exact ⟨.refused (.inr ⟨takes, displaced⟩), kept⟩
      | false =>
          obtain ⟨merged, merges⟩ := PodCapacityEvidence.merge_delivery has
            (reserved.trans later) (dated.mono later) displaced
          have records := PodCapacityEvidence.merge_ok merges
          rw [Lease.persisted, has] at recording
          dsimp only at recording
          rw [merges] at recording
          rw [record, recording]
          dsimp only [Except.map]
          have stays : δ.observation.state.leads row.state ≠ .released := by
            cases δ.observation.state <;> simp [WorkloadState.leads, active]
          have recorded' : (observedProgress δ.observation δ.submitted δ.readAt
              (row.proofChanges after)).1.artifactHandoff.or row.artifactHandoff = some after := by
            rw [handoffs]
            exact row.proofChanges_handoff after
          refine ⟨.progress _ finished takes displaced (proves _ recorded') ?_ state ?_, ?_⟩
          · rw [Lease.apply_workloadState, workload]
            rfl
          · rw [phases]
            exact records.phases
          · refine intends.apply ?_ recorded' binding rfl ?_ ?_
            · rw [state]
              exact stays
            · rw [records.reservationAt]
              exact reserved.trans later
            · rw [records.phases]
              exact (dated.mono later).firstWins δ.phases_dated
  | false =>
      rw [takes, if_neg (by simp)] at recording
      by_cases nothing : row.proofChanges after = {}
      · rw [if_pos nothing] at recording
        rw [record, recording]
        have same := row.proofChanges_handoff after
        rw [nothing] at same
        exact ⟨.proof row takes (proves row same) rfl rfl rfl, kept⟩
      · obtain ⟨merged, merges⟩ := e.merge_nothing
        have records := PodCapacityEvidence.merge_ok merges
        have same : merged.lifecycle.phases = e.lifecycle.phases := by
          rw [records.phases]
          simp only [Phases.firstWins, Option.or_none]
        rw [if_neg nothing, Lease.persisted, has] at recording
        dsimp only at recording
        rw [merges] at recording
        rw [record, recording]
        dsimp only [Except.map]
        refine ⟨.proof _ takes (proves _ (row.proofChanges_handoff after)) ?_ ?_ ?_, ?_⟩
        · rw [Lease.apply_workloadState, idle]
          rfl
        · rw [Lease.apply_state, unset]
          rfl
        · rw [phases]
          exact same
        · refine intends.apply ?_ (row.proofChanges_handoff after) binding rfl ?_ ?_
          · rw [unset]
            exact active
          · rw [records.reservationAt]
            exact reserved.trans later
          · rw [same]
            exact dated.mono later

end

end KestrelRunpod.Pod
