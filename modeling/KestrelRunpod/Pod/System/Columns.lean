import KestrelRunpod.Pod.System.Store

/-!
# What each column of a row owes to the writes

One inversion lemma per column: which of the writes set it, and to what.  Later proofs split
on these lemmas and never on the list of all writes.
-/

namespace KestrelRunpod.Pod

open Interleave

variable {d : Digests} {callers : Callers} {K : Restriction Effects World} {clock : Instant}
  {write : Write} {cur : Lease} {changes : Changes}

/-- A write sets the columns of its base, and at most the evidence besides. -/
theorem Write.Makes.columns (makes : write.Makes cur changes) :
    ∃ evidence, changes = { write.base with evidence := evidence } := by
  unfold Write.Makes at makes
  split at makes
  · obtain ⟨_, merged, _, _, rfl⟩ := makes
    exact ⟨some merged, rfl⟩
  · subst makes
    exact ⟨write.base.evidence, rfl⟩

/-! ## Identity -/

/-- The columns that no write touches. -/
structure Lease.SameIdentity (a b : Lease) : Prop where
  capacitySpec : a.capacitySpec = b.capacitySpec
  source : a.source = b.source
  resourceName : a.resourceName = b.resourceName
  createdAt : a.createdAt = b.createdAt

namespace Lease.SameIdentity

variable {a b : Lease}

theorem isCatalogAttempt (same : a.SameIdentity b) :
    a.isCatalogAttempt = b.isCatalogAttempt := by
  rw [Lease.isCatalogAttempt, same.capacitySpec, Lease.isCatalogAttempt]

theorem protocolOne (same : a.SameIdentity b) : a.protocolOne = b.protocolOne := by
  rw [Lease.protocolOne, same.capacitySpec, Lease.protocolOne]

end Lease.SameIdentity

/-- Every version of a lease has the identity of the current row. -/
theorem LeaseTrail.identity {m : Moment Effects World} (trail : LeaseTrail d callers K clock m) :
    Since Lease.SameIdentity m := by
  refine trail.since (fun row => ⟨rfl, rfl, rfl, rfl⟩) (fun a b c ab bc => ?_)
    fun _ _ _ cur _ changes _ _ _ _ _ _ => ⟨rfl, rfl, rfl, rfl⟩
  exact ⟨ab.capacitySpec.trans bc.capacitySpec, ab.source.trans bc.source,
    ab.resourceName.trans bc.resourceName, ab.createdAt.trans bc.createdAt⟩

/-! ## One lemma per column -/

namespace Write

theorem base_artifactHandoff {handoff : Handoff}
    (sets : write.base.artifactHandoff = some handoff) :
    (∃ observation submitted t changes phases,
        write = .observed observation submitted t changes phases ∧
          changes.artifactHandoff = some handoff) ∨
      write = .bindIntent handoff ∨ ∃ t, write = .hostConfirmed (some handoff) t := by
  cases write <;> simp_all [base, claimCreateChanges, foundStoppedChanges, unownedChanges,
    zeroChanges, rejectedChanges, noCapacityChanges, expiredChanges]

theorem base_workloadState {state : WorkloadState}
    (sets : write.base.workloadState = some state) :
    (∃ observation submitted t changes phases,
        write = .observed observation submitted t changes phases ∧
          changes.workloadState = some state) ∨
      ∃ t, write = .cancelRequested true t ∧ state = .cancelRequested := by
  cases write <;> simp_all [base, claimCreateChanges, foundStoppedChanges, unownedChanges,
    zeroChanges, rejectedChanges, noCapacityChanges, expiredChanges, eq_comm]

end Write

/-- The states a stop leaves a lease in. -/
def PodState.isStop : PodState → Bool
  | .cancelRequested | .reconcileRequired | .releasing | .released => true
  | _ => false

theorem statusState_some {status : String} {state : PodState}
    (is : statusState status = some state) : state = .jobCompleted ∨ state = .cancelRequested := by
  unfold statusState at is
  dsimp only at is
  split at is
  · cases is
    exact .inl rfl
  · split at is
    · cases is
      exact .inr rfl
    · cases is

/-- The writes that move a lease onward, and where to. -/
inductive Write.Onward : Write → PodState → Prop
  | foundRunning (url : Option String) (t : Instant) : Onward (.foundRunning url t) .starting
  | foundStopped (t : Instant) : Onward (.foundStopped t) .starting
  | claimCreate (t : Instant) : Onward (.claimCreate t) .starting
  | workerReady (t : Instant) : Onward (.workerReady t) .ready
  | recordJob (id : String) (t : Instant) : Onward (.recordJob id t) .jobSubmitted
  | recordStatus (status : String) (t : Instant) : Onward (.recordStatus status t) .jobCompleted
  | resultRetrieved (t : Instant) : Onward (.resultRetrieved t) .resultRetrieved
  | hostConfirmed (confirmation : Option Handoff) (t : Instant) :
      Onward (.hostConfirmed confirmation t) .resultRetrieved
  | observed (observation : Observation) (submitted : Bool) (t : Instant) (changes : Changes)
      (phases : Phases) (state : PodState) : changes.state = some state →
      Onward (.observed observation submitted t changes phases) state

theorem Write.base_state {state : PodState} (sets : write.base.state = some state) :
    state.isStop = true ∨ write.Onward state := by
  cases write with
  | observed observation submitted t changes phases => exact .inr (.observed _ _ _ _ _ _ sets)
  | recordStatus status t =>
      rcases statusState_some sets with rfl | rfl
      · exact .inr (.recordStatus _ _)
      · exact .inl rfl
  | foundRunning url t => cases sets; exact .inr (.foundRunning _ _)
  | foundStopped t => cases sets; exact .inr (.foundStopped _)
  | claimCreate t => cases sets; exact .inr (.claimCreate _)
  | workerReady t => cases sets; exact .inr (.workerReady _)
  | recordJob id t => cases sets; exact .inr (.recordJob _ _)
  | resultRetrieved t => cases sets; exact .inr (.resultRetrieved _)
  | hostConfirmed confirmation t => cases sets; exact .inr (.hostConfirmed _ _)
  | _ => cases sets <;> exact .inl rfl

/-! ## Observations -/

/-- What an observation makes of the handoff on record. -/
inductive HandoffProgress (recorded : Option Handoff) (t : Instant) : Option Handoff → Prop
  | kept : HandoffProgress recorded t recorded
  | bound (handoff : Handoff) : recorded = none → handoff.acknowledgementSha256 = none →
      handoff.remoteAckObservedAt = none → HandoffProgress recorded t (some handoff)
  | proven (handoff acknowledged : Handoff) : recorded = some handoff →
      handoff.acknowledgementSha256 ≠ none →
      acknowledged.toHandoffFields =
        { handoff.toHandoffFields with
          remoteAckObservedAt := handoff.remoteAckObservedAt.or (some t) } →
      HandoffProgress recorded t (some acknowledged)

theorem observedHandoff_ok {spec : CapacitySpec} {lease : Lease} {observation : Observation}
    {t : Instant} {result : Option Handoff}
    (ok : observedHandoff spec lease observation t = .ok result) :
    HandoffProgress lease.artifactHandoff t result ∧
      (observation.state = .awaitingAck → result ≠ none) ∧
      (observation.state = .acknowledged →
        ∃ handoff, result = some handoff ∧ handoff.remoteAckObservedAt ≠ none) ∧
      ∀ handoff, lease.artifactHandoff = none → result = some handoff →
        handoff.attemptId = observation.attemptId ∧
          handoff.requestSha256 = spec.request.requestSha256 ∧
          (observation.state = .awaitingAck ∨ observation.state = .acknowledged) := by
  unfold observedHandoff at ok
  split at ok
  · rename_i phase
    simp only [bind, Except.bind, pure, Except.pure] at ok
    split at ok
    · cases ok
    rename_i binding built
    split at ok
    · cases ok
    rename_i agrees
    have fresh : binding.acknowledgementSha256 = none ∧ binding.remoteAckObservedAt = none := by
      rw [Handoff.build_ok] at built
      rw [built]
      exact ⟨rfl, rfl⟩
    split at ok
    · rename_i acked
      split at ok
      · cases ok
      rename_i matches_
      split at ok
      · cases ok
      rename_i acknowledged rebuilt
      cases ok
      rw [Handoff.build_ok] at rebuilt
      rw [refuse_ok, not_or, not_not] at matches_
      cases recorded : lease.artifactHandoff with
      | none =>
          rw [recorded] at matches_
          exact absurd fresh.1 matches_.1
      | some handoff =>
          rw [recorded] at rebuilt matches_
          refine ⟨.proven handoff acknowledged rfl matches_.1 rebuilt, by simp, fun _ =>
            ⟨acknowledged, rfl, ?_⟩, by simp⟩
          rw [rebuilt]
          cases handoff.remoteAckObservedAt <;> simp
    · rename_i waiting
      cases ok
      refine ⟨?_, by simp, fun acked => absurd acked waiting, fun handoff missing is => ?_⟩
      · cases recorded : lease.artifactHandoff with
        | none => exact .bound binding rfl fresh.1 fresh.2
        | some handoff => exact .kept
      · rw [missing, Option.getD_none] at is
        cases is
        rw [Handoff.build_ok] at built
        exact ⟨by rw [built], by rw [built], phase⟩
  · rename_i other
    rw [not_or] at other
    cases ok
    refine ⟨.kept, fun waiting => absurd waiting other.1, fun acked => absurd acked other.2,
      fun handoff missing is => ?_⟩
    rw [missing] at is
    cases is

/-- What an observation sets: the handoff it reports and, where the row still takes progress
and the observation is not late, the workload's progress. -/
structure ObservedChanges (spec : CapacitySpec) (lease : Lease) (observation : Observation)
    (submitted : Bool) (t : Instant) (changes : Changes) (phases : Phases)
    (handoff : Option Handoff) : Prop where
  protocolOne : spec.request.artifactHandoffProtocolVersion = some 1 →
    observation.state ≠ .succeeded
  historical : spec.request.artifactHandoffProtocolVersion = none →
    observation.state ≠ .awaitingAck ∧ observation.state ≠ .acknowledged
  reports : observedHandoff spec lease observation t = .ok handoff
  proof : changes.artifactHandoff.or lease.artifactHandoff = handoff
  progress : (changes.state = none ∧ changes.workloadState = none ∧ phases = {}) ∨
    (lease.refusesProgress = false ∧ regresses lease observation = false ∧
      changes.workloadState = some observation.state ∧
      ∃ plain, (changes, phases) = observedProgress observation submitted t plain ∧
        plain.state = none)
  others : changes.providerPodId = none ∧ changes.ownership = none ∧
    changes.creationUncertain = none ∧ changes.billingState = none ∧
    changes.billingReceipt = none ∧ changes.terminatedAt = none ∧ changes.evidence = none

/-- The state that an observation leads to. -/
theorem ObservedChanges.state {spec : CapacitySpec} {lease : Lease} {observation : Observation}
    {submitted : Bool} {t : Instant} {phases : Phases} {handoff : Option Handoff}
    {state : PodState}
    (observed : ObservedChanges spec lease observation submitted t changes phases handoff)
    (sets : changes.state = some state) :
    lease.refusesProgress = false ∧
      (state = .jobSubmitted ∨ state = .jobCompleted ∨ state = .cancelRequested) := by
  rcases observed.progress with ⟨none, _⟩ | ⟨takes, _, _, plain, is, unset⟩
  · rw [none] at sets
    cases sets
  · refine ⟨takes, ?_⟩
    unfold observedProgress at is
    dsimp only at is
    split at is <;> (cases is; simp_all)

/-- An observed cancellation moves the lease to its stop. -/
theorem ObservedChanges.cancelled {spec : CapacitySpec} {lease : Lease}
    {observation : Observation} {submitted : Bool} {t : Instant} {phases : Phases}
    {handoff : Option Handoff}
    (observed : ObservedChanges spec lease observation submitted t changes phases handoff)
    (sets : changes.workloadState = some .cancelRequested) :
    changes.state = some .cancelRequested := by
  rcases observed.progress with ⟨_, none, _⟩ | ⟨_, _, workload, plain, is, _⟩
  · rw [none] at sets
    cases sets
  · rw [workload, Option.some.injEq] at sets
    unfold observedProgress at is
    rw [sets] at is
    cases is
    rfl

theorem catalogObservationChanges_ok {spec : CapacitySpec} {lease : Lease}
    {observation : Observation} {submitted : Bool} {t : Instant} {phases : Phases}
    (ok : catalogObservationChanges lease spec observation submitted t = .ok (changes, phases)) :
    ∃ handoff, ObservedChanges spec lease observation submitted t changes phases handoff := by
  unfold catalogObservationChanges at ok
  dsimp only at ok
  rw [refuse_bind_ok, refuse_bind_ok] at ok
  obtain ⟨protocolOne, historical, ok⟩ := ok
  simp only [bind, Except.bind, pure, Except.pure] at ok
  split at ok
  · cases ok
  rename_i handoff reports
  have progress := (observedHandoff_ok reports).1
  -- The proof part of the changes leaves the reported handoff on the row.
  generalize plainIs : (if handoff ≠ lease.artifactHandoff then { artifactHandoff := handoff }
    else {} : Changes) = plain at ok
  have proof : plain.artifactHandoff.or lease.artifactHandoff = handoff := by
    subst plainIs
    split
    · rename_i differs
      cases progress with
      | kept => exact absurd rfl differs
      | bound handoff _ _ _ => rfl
      | proven handoff acknowledged _ _ _ => rfl
    · rename_i same
      rw [not_not] at same
      simp [same]
  have quiet : plain.state = none ∧ plain.workloadState = none ∧ plain.providerPodId = none ∧
      plain.ownership = none ∧ plain.creationUncertain = none ∧ plain.billingState = none ∧
      plain.billingReceipt = none ∧ plain.terminatedAt = none ∧ plain.evidence = none := by
    subst plainIs
    split <;> simp
  obtain ⟨state, workloadState, others⟩ := quiet
  rw [not_and] at protocolOne historical
  have historical' : spec.request.artifactHandoffProtocolVersion = none →
      observation.state ≠ .awaitingAck ∧ observation.state ≠ .acknowledged :=
    fun missing => not_or.mp (historical missing)
  refine ⟨handoff, ?_⟩
  split at ok
  · cases ok
    exact ⟨protocolOne, historical', reports, proof, .inl ⟨state, workloadState, rfl⟩, others⟩
  · rename_i takes
    split at ok
    · cases ok
      exact ⟨protocolOne, historical', reports, proof, .inl ⟨state, workloadState, rfl⟩, others⟩
    · rename_i onward
      rw [Bool.not_eq_true] at takes onward
      have is := (Except.ok.inj ok).symm
      have columns : changes.artifactHandoff = plain.artifactHandoff ∧
          changes.workloadState = some observation.state ∧
          changes.providerPodId = plain.providerPodId ∧ changes.ownership = plain.ownership ∧
          changes.creationUncertain = plain.creationUncertain ∧
          changes.billingState = plain.billingState ∧
          changes.billingReceipt = plain.billingReceipt ∧
          changes.terminatedAt = plain.terminatedAt ∧ changes.evidence = plain.evidence := by
        unfold observedProgress at is
        dsimp only at is
        split at is <;> (cases is; simp_all)
      obtain ⟨sameHandoff, workload, rest⟩ := columns
      refine ⟨protocolOne, historical', reports, by rw [sameHandoff]; exact proof,
        .inr ⟨takes, onward, workload, plain, is, state⟩, ?_⟩
      rcases rest with ⟨h₁, h₂, h₃, h₄, h₅, h₆, h₇⟩
      rw [h₁, h₂, h₃, h₄, h₅, h₆, h₇]
      exact others

/-- An observation leaves the cleanup state alone. -/
theorem catalogObservationChanges_cleanupState {spec : CapacitySpec} {lease : Lease}
    {observation : Observation} {submitted : Bool} {t : Instant} {phases : Phases}
    (ok : catalogObservationChanges lease spec observation submitted t = .ok (changes, phases)) :
    changes.cleanupState = none := by
  unfold catalogObservationChanges at ok
  dsimp only at ok
  rw [refuse_bind_ok, refuse_bind_ok] at ok
  obtain ⟨_, _, ok⟩ := ok
  simp only [bind, Except.bind, pure, Except.pure] at ok
  split at ok
  · cases ok
  rename_i handoff _
  have quiet : (if handoff ≠ lease.artifactHandoff then { artifactHandoff := handoff }
      else {} : Changes).cleanupState = none := by
    split <;> rfl
  split at ok
  · cases ok
    exact quiet
  · split at ok
    · cases ok
      exact quiet
    · have is := (Except.ok.inj ok).symm
      unfold observedProgress at is
      dsimp only at is
      split at is <;> (cases is; exact quiet)

end KestrelRunpod.Pod
