import KestrelRunpod.Pod.System.Calls

/-!
# Invariants of the stored rows

What every version of a lease satisfies along a trail: evidence belongs to catalog attempts, a
recorded Pod has an id, a created lease is never taken for a running Pod of somebody else, an
unclaimed lease has no Pod, and a complete cleanup was either confirmed or settled.
-/

namespace KestrelRunpod.Pod

open Interleave

variable {d : Digests} {callers : Callers} {K : Restriction Effects World} {clock : Instant}
  {write : Write} {cur : Lease} {changes : Changes} {m : Moment Effects World}

/-- A lease has evidence exactly when it is a catalog attempt. -/
theorem LeaseTrail.evidence_isSome (trail : LeaseTrail d callers K clock m) :
    ∀ row, Committed m.log row → row.evidence.isSome = row.isCatalogAttempt := by
  refine trail.always (P := fun _ row => row.evidence.isSome = row.isCatalogAttempt)
    (fun _ _ _ _ _ => id) (fun m m' i request evidence _ _ built _ => ?_) ?_
  · show evidence.isSome = request.capacitySpec.isSome
    cases spec : request.capacitySpec with
    | none =>
        rw [spec] at built
        cases built
        rfl
    | some s =>
        rw [spec, Option.mapM_some] at built
        cases evidence with
        | some e => rfl
        | none =>
            simp only [Functor.map, Except.map] at built
            split at built <;> cases built
  · intro m m' i cur write changes _ _ _ guarded makes _ known
    rw [Lease.apply_evidence, Lease.apply_isCatalogAttempt, ← known]
    unfold Write.Makes at makes
    split at makes
    · rename_i merging
      obtain ⟨_, merged, _, _, rfl⟩ := makes
      rw [merging.2.2]
      rfl
    · subst makes
      have none : write.base.evidence = none := by
        cases write with
        | observed observation submitted t changes phases =>
            obtain ⟨_, spec, _, _, _, ok, _⟩ := guarded
            obtain ⟨handoff, observed⟩ := catalogObservationChanges_ok ok
            exact observed.others.2.2.2.2.2.2
        | _ => rfl
      rw [none, Option.none_or]

/-- A recorded Pod has an id. -/
theorem LeaseTrail.podId_nonempty (trail : LeaseTrail d callers K clock m) :
    ∀ row, Committed m.log row → ∀ pod, row.providerPodId = some pod → pod ≠ "" := by
  refine trail.always (P := fun _ row => ∀ pod, row.providerPodId = some pod → pod ≠ "")
    (fun _ _ _ _ _ => id) (fun _ _ _ request _ _ _ _ _ pod has => ?_) ?_
  · have passed := request.checked
    simp only [PodRequestFields.check, refuse_bind_ok] at passed
    obtain ⟨_, _, _, _, _, named, _⟩ := passed
    have has : request.providerPodId = some pod := has
    rw [has] at named
    rintro rfl
    exact named rfl
  · intro m m' i cur write changes before _ _ guarded makes _ known pod has
    obtain ⟨evidence, rfl⟩ := makes.columns
    rw [Lease.apply_providerPodId] at has
    dsimp only at has
    cases sets : write.base.providerPodId with
    | none =>
        rw [sets, Option.none_or] at has
        exact known pod has
    | some pod' =>
        rw [sets, Option.some_or] at has
        cases has
        exact before.pod_named ((Write.base_providerPodId guarded sets).createdFor before guarded)

/-! ## Created leases -/

theorem Write.base_ownership (sets : write.base.ownership = some .preexistingRunning)
    {i : Nat} (guarded : write.Guard d callers (m.log.of i) cur) :
    (∃ row, Shown (m.log.of i) row ∧ row.cleanupToken = cur.cleanupToken ∧
      row.source ≠ .created) := by
  have inserted : ∀ {row : Lease}, Inserted (m.log.of i) row → Shown (m.log.of i) row := by
    rintro row ⟨request, member⟩
    exact ⟨_, member, true, rfl⟩
  cases write with
  | abandonClaim error t =>
      obtain ⟨_, _, row, own, same, source⟩ := guarded
      exact ⟨row, inserted own, same, source⟩
  | expireClaim t =>
      obtain ⟨_, row, shown, same, _, source⟩ := guarded
      exact ⟨row, shown, same, source⟩
  | foundRunning url t => exact ⟨cur, inserted guarded.1, rfl, guarded.2.1⟩
  | observed observation submitted t changes phases =>
      obtain ⟨_, spec, _, _, _, ok, _⟩ := guarded
      obtain ⟨handoff, observed⟩ := catalogObservationChanges_ok ok
      have none := observed.others.2.1
      have sets : changes.ownership = some .preexistingRunning := sets
      rw [none] at sets
      cases sets
  | _ => cases sets

/-- A created lease is never taken for somebody else's running Pod. -/
theorem LeaseTrail.created_owned (trail : LeaseTrail d callers K clock m) :
    ∀ row, Committed m.log row → row.source = .created → row.ownership ≠ .preexistingRunning := by
  refine trail.always (P := fun _ row => row.source = .created →
      row.ownership ≠ .preexistingRunning)
    (fun _ _ _ _ _ => id) (fun _ _ _ _ _ _ _ _ _ _ => by simp [Rows.reserved]) ?_
  intro m m' i cur write changes before _ member guarded makes _ known created
  obtain ⟨evidence, rfl⟩ := makes.columns
  rw [Lease.apply_source] at created
  rw [Lease.apply_ownership]
  dsimp only
  intro running
  cases sets : write.base.ownership with
  | none =>
      rw [sets, Option.getD_none] at running
      exact known created running
  | some ownership =>
      rw [sets, Option.getD_some] at running
      subst running
      obtain ⟨row, shown, same, source⟩ := Write.base_ownership sets guarded
      have committed := before.consistent.committed shown
      have identity := before.identity row committed cur member same.symm
      exact source (identity.source.trans created)

/-- Catalog capacity is created. -/
theorem LeaseTrail.catalog_created (trail : LeaseTrail d callers K clock m) :
    ∀ row, Committed m.log row → row.isCatalogAttempt = true → row.source = .created := by
  refine trail.always (P := fun _ row => row.isCatalogAttempt = true → row.source = .created)
    (fun _ _ _ _ _ => id) (fun _ _ _ request _ _ _ _ _ catalog => ?_)
    fun _ _ _ _ _ _ _ _ _ _ _ _ known => known
  have has : request.capacitySpec.isSome = true := catalog
  exact request.provenance.2 (by intro none; rw [none] at has; cases has)

/-! ## Claims -/

/-- No write takes a lease back to its claim. -/
theorem Write.base_requested {i : Nat} (guarded : write.Guard d callers (m.log.of i) cur) :
    write.base.state ≠ some .requested := by
  intro sets
  rcases Write.base_state sets with stop | onward
  · cases stop
  · cases onward with
    | observed observation submitted t changes phases state sets =>
        obtain ⟨_, spec, _, _, _, ok, _⟩ := guarded
        obtain ⟨handoff, observed⟩ := catalogObservationChanges_ok ok
        rcases (observed.state sets).2 with is | is | is <;> cases is

/-- A lease that was claimed stays claimed. -/
theorem LeaseTrail.stays_claimed (trail : LeaseTrail d callers K clock m) :
    Since (fun old now => old.state ≠ .requested → now.state ≠ .requested) m := by
  refine trail.since (fun _ => id) (fun a b c ab bc claimed => bc (ab claimed)) ?_
  intro m m' i cur write changes before move member guarded makes log claimed
  obtain ⟨evidence, rfl⟩ := makes.columns
  rw [Lease.apply_state]
  dsimp only
  cases sets : write.base.state with
  | none => exact claimed
  | some state =>
      rw [Option.getD_some]
      rintro rfl
      exact Write.base_requested guarded sets

/-- The lease whose create claim a task wrote is claimed. -/
theorem LeaseTrail.claimed (trail : LeaseTrail d callers K clock m) {i : Nat}
    (member : cur ∈ m.world.rows) (claimed : CreateClaimed (m.log.of i) cur.cleanupToken) :
    cur.state ≠ .requested := by
  obtain ⟨lease, t, row, same, logged⟩ := claimed
  have promised := Trail.promised trail (by simp) _ (Log.mem_of.mp logged)
  obtain ⟨current, token, _, is⟩ := promised row rfl
  have committed : Committed m.log row := ⟨i, _, Log.mem_of.mp logged, rfl⟩
  have own : cur.cleanupToken = row.cleanupToken := by
    rw [is, Lease.apply_cleanupToken, token, same]
  refine trail.stays_claimed row committed cur member own ?_
  rw [is]
  simp [claimCreateChanges]

/-- A created lease that was not claimed has no Pod. -/
theorem LeaseTrail.requested_podless (trail : LeaseTrail d callers K clock m) :
    ∀ row, Committed m.log row → row.source = .created → row.state = .requested →
      row.providerPodId = none := by
  refine trail.always (P := fun _ row => row.source = .created → row.state = .requested →
      row.providerPodId = none)
    (fun _ _ _ _ _ => id) (fun _ _ _ request _ _ _ _ _ created _ => ?_) ?_
  · exact request.provenance.1.mp created
  · intro m m' i cur write changes before _ member guarded makes _ known created requested
    obtain ⟨evidence, rfl⟩ := makes.columns
    rw [Lease.apply_state] at requested
    rw [Lease.apply_providerPodId]
    dsimp only at requested ⊢
    have kept : write.base.state = none := by
      cases sets : write.base.state with
      | none => rfl
      | some state =>
          rw [sets, Option.getD_some] at requested
          subst requested
          exact absurd sets (Write.base_requested guarded)
    rw [kept, Option.getD_none] at requested
    rw [known created requested, Option.or_none]
    cases sets : write.base.providerPodId with
    | none => rfl
    | some pod =>
        cases Write.base_providerPodId guarded sets with
        | createMismatch pod t => exact absurd requested (before.claimed member guarded.2.1)
        | createAccepted created t => exact absurd requested (before.claimed member guarded.2.1)
        | adopted pod placement catalog t => cases kept

/-! ## Evidence -/

/-- A write merges its observation into the evidence of an active catalog row, and leaves any
other evidence alone. -/
theorem Write.Makes.evidence (makes : write.Makes cur changes) {i : Nat}
    (guarded : write.Guard d callers (m.log.of i) cur) :
    (∃ evidence merged, cur.evidence = some evidence ∧
      evidence.merge write.update = .ok merged ∧
      (cur.apply changes).evidence = some merged) ∨
    ((cur.apply changes).evidence = cur.evidence ∧
      ¬(write.merges = true ∧ cur.isTerminal = false ∧ cur.evidence.isSome = true)) := by
  unfold Write.Makes at makes
  split at makes
  · obtain ⟨evidence, merged, has, ok, rfl⟩ := makes
    exact .inl ⟨evidence, merged, has, ok, rfl⟩
  · rename_i apart
    subst makes
    have none : write.base.evidence = none := by
      cases write with
      | observed observation submitted t changes phases =>
          obtain ⟨_, spec, _, _, _, ok, _⟩ := guarded
          obtain ⟨handoff, observed⟩ := catalogObservationChanges_ok ok
          exact observed.others.2.2.2.2.2.2
      | _ => rfl
    exact .inr ⟨by rw [Lease.apply_evidence, none, Option.none_or], apart⟩

/-- When the stop of the lease's Pod was confirmed. -/
def Lease.stopConfirmedAt (lease : Lease) : Option Instant :=
  lease.evidence.bind fun evidence => evidence.lifecycle.phases.stopConfirmedAt

/-- A stop stays confirmed. -/
theorem Write.Makes.stopConfirmed (makes : write.Makes cur changes) {i : Nat}
    (guarded : write.Guard d callers (m.log.of i) cur) (confirmed : cur.stopConfirmedAt ≠ none) :
    (cur.apply changes).stopConfirmedAt ≠ none := by
  unfold Lease.stopConfirmedAt at confirmed ⊢
  rcases makes.evidence guarded with ⟨evidence, merged, has, ok, is⟩ | ⟨is, _⟩
  · have phases := (PodCapacityEvidence.merge_ok ok).phases
    rw [has, Option.bind_some] at confirmed
    rw [is, Option.bind_some, phases]
    intro none
    simp only [Phases.firstWins, Option.or_eq_none_iff] at none
    exact confirmed none.1
  · rw [is]
    exact confirmed

/-- A write that observes the stop of an active catalog lease confirms it. -/
theorem Write.Makes.confirms (makes : write.Makes cur changes) {i : Nat}
    (guarded : write.Guard d callers (m.log.of i) cur) (merges : write.merges = true)
    (active : cur.isTerminal = false) (has : cur.evidence.isSome = true)
    (observes : write.update.lifecycle.stopConfirmedAt ≠ none) :
    (cur.apply changes).stopConfirmedAt ≠ none := by
  unfold Lease.stopConfirmedAt
  rcases makes.evidence guarded with ⟨evidence, merged, _, ok, is⟩ | ⟨_, apart⟩
  · have phases := (PodCapacityEvidence.merge_ok ok).phases
    rw [is, Option.bind_some, phases]
    intro none
    simp only [Phases.firstWins, Option.or_eq_none_iff] at none
    exact observes none.2
  · exact absurd ⟨merges, active, has⟩ apart

/-! ## Complete cleanups -/

/-- A lease some version of which is no catalog attempt is none. -/
theorem LeaseTrail.legacy_shown (trail : LeaseTrail d callers K clock m) {i : Nat} {row : Lease}
    (member : cur ∈ m.world.rows) (shown : Shown (m.log.of i) row)
    (same : row.cleanupToken = cur.cleanupToken) (legacy : row.isCatalogAttempt = false) :
    cur.isCatalogAttempt = false := by
  have committed := trail.consistent.committed shown
  have identity := trail.identity row committed cur member same.symm
  rw [← identity.isCatalogAttempt]
  exact legacy

/-- A write that completes the cleanup of a catalog lease settles it or observes its stop. -/
theorem Write.base_complete (trail : LeaseTrail d callers K clock m) {i : Nat}
    (member : cur ∈ m.world.rows) (guarded : write.Guard d callers (m.log.of i) cur)
    (catalog : cur.isCatalogAttempt = true)
    (sets : write.base.cleanupState = some .complete) :
    write.base.billingState = some .authoritative ∨
      (write.merges = true ∧ cur.isTerminal = false ∧
        write.update.lifecycle.stopConfirmedAt ≠ none) := by
  have impossible : ∀ {row : Lease}, Shown (m.log.of i) row →
      row.cleanupToken = cur.cleanupToken → row.isCatalogAttempt = false → False := by
    intro row shown same legacy
    have own := trail.legacy_shown member shown same legacy
    rw [catalog] at own
    cases own
  cases write with
  | createRejected x t =>
      obtain ⟨_, _, _, row, shown, same, legacy⟩ := guarded
      exact (impossible shown same legacy).elim
  | createRejectedZero x t receipt at_ => exact .inl rfl
  | noCapacity t =>
      obtain ⟨_, row, shown, same, legacy, _⟩ := guarded
      exact (impossible shown same legacy).elim
  | noCapacityZero t receipt => exact .inl rfl
  | stopConfirmed t =>
      obtain ⟨_, row, pod, shown, same, legacy, _⟩ := guarded
      exact (impossible shown same legacy).elim
  | terminateConfirmed t => exact .inr ⟨rfl, guarded.1, by simp [Write.update]⟩
  | expired =>
      obtain ⟨_, row, shown, same, _, _, legacy⟩ := guarded
      exact (impossible shown same legacy).elim
  | expiredZero t receipt => exact .inl rfl
  | observedStopped =>
      obtain ⟨_, row, pod, observation, shown, same, legacy, _⟩ := guarded
      exact (impossible shown same legacy).elim
  | observedTerminated t => exact .inr ⟨rfl, guarded.1, by simp [Write.update]⟩
  | giveUp =>
      obtain ⟨_, t, later, earlier, is, row, shown, same, legacy, _⟩ := guarded
      refine (impossible ?_ same legacy).elim
      obtain ⟨e, member, here⟩ := shown
      exact ⟨e, by rw [is]; simp [member], here⟩
  | observed observation submitted t changes phases =>
      obtain ⟨_, spec, _, _, _, ok, _⟩ := guarded
      have kept : changes.cleanupState = none := catalogObservationChanges_cleanupState ok
      have sets : changes.cleanupState = some .complete := sets
      rw [kept] at sets
      cases sets
  | _ => cases sets

/-- A write that leaves a complete cleanup alone does not unsettle it: it keeps the billing
state, settles it, or reads one that was not settled. -/
theorem Write.base_billing {i : Nat} (guarded : write.Guard d callers (m.log.of i) cur)
    (kept : write.base.cleanupState = none) :
    write.base.billingState = none ∨ write.base.billingState = some .authoritative ∨
      cur.billingState ≠ .authoritative := by
  cases write with
  | observed observation submitted t changes phases =>
      obtain ⟨_, spec, _, _, _, ok, _⟩ := guarded
      obtain ⟨handoff, observed⟩ := catalogObservationChanges_ok ok
      exact .inl observed.others.2.2.2.1
  | billingUnresolved message => exact .inr (.inr guarded.2)
  | billingPending => exact .inr (.inr guarded.2.1)
  | billingSettled receipt => exact .inr (.inl rfl)
  | _ => first | exact .inl rfl | cases kept

/-- A complete cleanup of a catalog lease was settled, or its stop was confirmed. -/
theorem LeaseTrail.cleaned_settled (trail : LeaseTrail d callers K clock m) :
    ∀ row, Committed m.log row → row.isCatalogAttempt = true → row.cleanupState = .complete →
      row.billingState = .authoritative ∨ row.stopConfirmedAt ≠ none := by
  refine trail.always (P := fun _ row => row.isCatalogAttempt = true →
      row.cleanupState = .complete → row.billingState = .authoritative ∨
        row.stopConfirmedAt ≠ none)
    (fun _ _ _ _ _ => id) (fun _ _ _ _ _ _ _ _ _ _ complete => ?_) ?_
  · cases complete
  · intro m m' i cur write changes before _ member guarded makes _ known catalog complete
    have version := before.consistent.current cur member
    have has : cur.evidence.isSome = true := by
      rw [before.evidence_isSome cur version]
      exact catalog
    have columns := makes
    obtain ⟨evidence, is⟩ := makes.columns
    have cleanup : (cur.apply changes).cleanupState =
        write.base.cleanupState.getD cur.cleanupState := by rw [is]; rfl
    have billing : (cur.apply changes).billingState =
        write.base.billingState.getD cur.billingState := by rw [is]; rfl
    rw [cleanup] at complete
    rw [billing]
    by_cases confirmed : cur.stopConfirmedAt = none
    · cases sets : write.base.cleanupState with
      | none =>
          rw [sets, Option.getD_none] at complete
          have settled : cur.billingState = .authoritative :=
            (known catalog complete).resolve_right fun differs => differs confirmed
          rcases Write.base_billing guarded sets with kept | settles | unsettled
          · exact .inl (by rw [kept]; exact settled)
          · exact .inl (by rw [settles]; rfl)
          · exact absurd settled unsettled
      | some state =>
          rw [sets, Option.getD_some] at complete
          subst complete
          rcases Write.base_complete before member guarded catalog sets with
            settles | ⟨merges, active, observes⟩
          · exact .inl (by rw [settles]; rfl)
          · exact .inr (makes.confirms guarded merges active has observes)
    · exact .inr (makes.stopConfirmed guarded confirmed)

/-! ## Instants -/

/-- The evidence of a reservation is fresh. -/
theorem reserved_evidence {request : PodRequest} {e : PodCapacityEvidence}
    (built : request.capacitySpec.mapM (PodCapacityEvidence.fromSpec request.resourceName) =
      .ok (some e)) :
    ∃ spec, request.capacitySpec = some spec ∧ e.Fresh spec := by
  cases has : request.capacitySpec with
  | none =>
      rw [has] at built
      cases built
  | some spec =>
      rw [has, Option.mapM_some] at built
      cases from_ : PodCapacityEvidence.fromSpec request.resourceName spec with
      | error x =>
          rw [from_] at built
          cases built
      | ok e' =>
          rw [from_] at built
          cases built
          exact ⟨spec, rfl, PodCapacityEvidence.fromSpec_ok from_⟩

/-- The evidence of a lease starts at its reservation, before its hard deadline. -/
theorem LeaseTrail.reserved_before (trail : LeaseTrail d callers K clock m) :
    ∀ row, Committed m.log row → ∀ evidence, row.evidence = some evidence →
      evidence.lifecycle.reservationAt ≤ row.hardDeadline := by
  refine trail.always (P := fun _ row => ∀ evidence, row.evidence = some evidence →
      evidence.lifecycle.reservationAt ≤ row.hardDeadline)
    (fun _ _ _ _ _ => id) (fun _ _ _ request evidence _ _ built _ e has => ?_) ?_
  · have has : evidence = some e := has
    show e.lifecycle.reservationAt ≤ request.hardDeadline
    obtain ⟨spec, requested, fresh⟩ := reserved_evidence (has ▸ built)
    rw [fresh.reservationAt, ← (request.catalogIdentity requested).2]
    have passed := request.checked
    simp only [PodRequestFields.check, refuse_bind_ok, not_le] at passed
    obtain ⟨_, _, _, _, _, _, ready, hard, _⟩ := passed
    exact (ready.trans hard).le
  · intro m m' i cur write changes _ _ _ guarded makes _ known evidence has
    rw [Lease.apply_hardDeadline]
    rcases makes.evidence guarded with ⟨old, merged, recorded, ok, is⟩ | ⟨is, _⟩
    · rw [is] at has
      cases has
      rw [(PodCapacityEvidence.merge_ok ok).reservationAt]
      exact known old recorded
    · rw [is] at has
      exact known evidence has

/-- The instants recorded before the stop. -/
def Phases.working (phases : Phases) : List (Option Instant) :=
  [phases.providerCreateAcceptedAt, phases.providerAdoptedAt, phases.firstRunningObservedAt,
    phases.workerReadyAt, phases.workloadSubmittedAt, phases.workloadRunningAt,
    phases.workloadTerminalAt]

/-- The recorded instants of the phases before the stop are not after `t`. -/
def Phases.WorkingBy (phases : Phases) (t : Instant) : Prop :=
  ∀ recorded ∈ phases.working, ∀ x ∈ recorded, x ≤ t

theorem Phases.WorkingBy.mono {phases : Phases} {t u : Instant} (by_ : phases.WorkingBy t)
    (later : t ≤ u) : phases.WorkingBy u :=
  fun recorded member x has => (by_ recorded member x has).trans later

theorem Phases.WorkingBy.firstWins {recorded new : Phases} {t : Instant}
    (old : recorded.WorkingBy t) (by_ : new.WorkingBy t) :
    (recorded.firstWins new).WorkingBy t := by
  have either : ∀ {a b : Option Instant}, (∀ x ∈ a, x ≤ t) → (∀ x ∈ b, x ≤ t) →
      ∀ x ∈ a.or b, x ≤ t := by
    intro a b first second x has
    cases a with
    | none => exact second x has
    | some y => exact first x has
  simp only [WorkingBy, working, List.mem_cons, List.not_mem_nil, or_false, forall_eq_or_imp,
    forall_eq] at old by_ ⊢
  obtain ⟨a₁, a₂, a₃, a₄, a₅, a₆, a₇⟩ := old
  obtain ⟨b₁, b₂, b₃, b₄, b₅, b₆, b₇⟩ := by_
  exact ⟨either a₁ b₁, either a₂ b₂, either a₃ b₃, either a₄ b₄, either a₅ b₅, either a₆ b₆,
    either a₇ b₇⟩

/-- The instants of a lifecycle up to the stop. -/
def LifecycleFields.beforeStop (l : LifecycleFields) : List (Option Instant) :=
  [some l.reservationAt, l.phases.providerCreateAcceptedAt.or l.phases.providerAdoptedAt,
    l.phases.firstRunningObservedAt, l.phases.workerReadyAt, l.phases.workloadSubmittedAt,
    l.phases.workloadRunningAt, l.phases.workloadTerminalAt]

theorem LifecycleFields.ordered_eq (l : LifecycleFields) :
    l.ordered = l.beforeStop ++ [l.phases.stopConfirmedAt, l.phases.billingReconciledAt] := rfl

/-- The instants up to the stop, when all of them are dated by `t`. -/
theorem LifecycleFields.beforeStop_le {l : LifecycleFields} {t : Instant}
    (reserved : l.reservationAt ≤ t) (working : l.phases.WorkingBy t) :
    ∀ recorded ∈ l.beforeStop, ∀ x ∈ recorded, x ≤ t := by
  simp only [Phases.WorkingBy, Phases.working, List.mem_cons, List.not_mem_nil, or_false,
    forall_eq_or_imp, forall_eq] at working
  obtain ⟨created, adopted, rest⟩ := working
  simp only [beforeStop, List.mem_cons, List.not_mem_nil, or_false, forall_eq_or_imp, forall_eq]
  refine ⟨fun x is => ?_, fun x is => ?_, rest⟩
  · cases is
    exact reserved
  · cases accepted : l.phases.providerCreateAcceptedAt with
    | none =>
        rw [accepted, Option.none_or] at is
        exact adopted x is
    | some y =>
        rw [accepted] at is
        exact created x (accepted ▸ is)

/-- An operation never sets the clock back. -/
theorem perform_clock {w w' : World} {e : Event Effects} (performed : perform d w e = some w') :
    w.clock ≤ w'.clock := by
  obtain ⟨op, reply⟩ := e
  cases op with
  | now =>
      obtain ⟨order, rfl⟩ := perform_now.mp performed
      exact order
  | reserve request =>
      obtain ⟨_, _, rfl⟩ := perform_reserve.mp performed
      exact le_rfl
  | compareAndSet lease changes =>
      obtain ⟨_, _, rfl⟩ := perform_compareAndSet.mp performed
      exact le_rfl
  | send token call => rw [(perform_send.mp performed).2]
  | get token => rw [(perform_get.mp performed).2]
  | listCleanupFamily root legacy => rw [(perform_listCleanupFamily.mp performed).2]
  | listIncompleteFamilyReleases => rw [(perform_listIncompleteFamilyReleases.mp performed).2]
  | listForReconciliation => rw [(perform_listForReconciliation.mp performed).2]
  | mergeEvidence evidence update => rw [(perform_mergeEvidence.mp performed).2]
  | recv id call =>
      obtain ⟨_, _, _, is⟩ := perform_recv.mp performed
      rw [is]
  | joined => rw [perform_joined.mp performed]

/-- The clock never goes back. -/
theorem Move.clock_le {m' : Moment Effects World} (move : LeaseMove d callers K m m') :
    m.world.clock ≤ m'.world.clock := by
  cases move with
  | drift change drifted =>
      rcases drift_some drifted with ⟨amount, rfl⟩ | ⟨_, _, _, _, _, rfl⟩
      · exact Int.le_add_of_nonneg_right (Int.natCast_nonneg amount)
      · exact le_rfl
  | act i e permitted promised performed kept => exact perform_clock performed

/-- A clock read of the log is not after the clock. -/
theorem LeaseTrail.clock_read (trail : LeaseTrail d callers K clock m) {i : Nat} {t : Instant}
    (logged : (i, (⟨.now, t⟩ : Event Effects)) ∈ m.log) : t ≤ m.world.clock := by
  obtain ⟨later, earlier, split⟩ := List.append_of_mem logged
  obtain ⟨before, w', _, _, _, performed, _, rest⟩ := trail.act_of_mem split
  have at_ : w'.clock = t := by rw [(perform_now.mp performed).2]
  have onward : ∀ m' : Moment Effects World,
      Trail (runtime d) (leaseContract d callers) K ⟨w', (i, ⟨.now, t⟩) :: earlier⟩ m' →
      t ≤ m'.world.clock := by
    intro m' walked
    induction walked with
    | refl => exact at_.ge
    | tail _ move ih => exact ih.trans (Move.clock_le move)
  exact onward m rest

/-- An instant that a task read after some row is not after the clock. -/
theorem LeaseTrail.read_by (trail : LeaseTrail d callers K clock m) {i : Nat} {t : Instant}
    {token : String} {P : Lease → Prop} (read : ReadAfter (m.log.of i) t token P) :
    t ≤ m.world.clock := by
  obtain ⟨later, earlier, is, _⟩ := read
  exact trail.clock_read (Log.mem_of.mp (by rw [is]; simp))

/-- A write dates the phases before the stop by the clock. -/
theorem Write.update_working (trail : LeaseTrail d callers K clock m) {i : Nat}
    (guarded : write.Guard d callers (m.log.of i) cur) :
    write.update.lifecycle.WorkingBy m.world.clock := by
  have nothing : ∀ t, ({} : Phases).WorkingBy t := by
    intro t recorded member x has
    simp only [Phases.working, List.mem_cons, List.not_mem_nil, or_false, or_self] at member
    subst member
    cases has
  cases write with
  | createMismatch pod t =>
      have read := trail.read_by guarded.2.2.2
      simp [Phases.WorkingBy, Phases.working, Write.update, read]
  | createAccepted created t =>
      have read := trail.read_by guarded.2.2.2.2
      simp [Phases.WorkingBy, Phases.working, Write.update, read]
  | readinessObserved observation t =>
      cases running : observation.isRunning with
      | false => simp [Phases.WorkingBy, Phases.working, Write.update, running]
      | true =>
          have read := trail.read_by (guarded.2 running)
          simp [Phases.WorkingBy, Phases.working, Write.update, running, read]
  | workerReady t =>
      have read := trail.read_by guarded.2
      simp [Phases.WorkingBy, Phases.working, Write.update, read]
  | adopted pod placement catalog t =>
      have read := trail.read_by guarded.2.2
      cases catalog <;> simp [Phases.WorkingBy, Phases.working, Write.update, read]
  | observed observation submitted t changes phases =>
      obtain ⟨_, spec, _, _, _, ok, reads⟩ := guarded
      have read := trail.read_by reads
      obtain ⟨handoff, observed⟩ := catalogObservationChanges_ok ok
      show phases.WorkingBy m.world.clock
      rcases observed.progress with ⟨_, _, rfl⟩ | ⟨_, _, _, plain, is, _⟩
      · exact nothing _
      · unfold observedProgress at is
        dsimp only at is
        split at is <;> (cases is; split <;> simp [Phases.WorkingBy, Phases.working, read])
  | _ => simp [Phases.WorkingBy, Phases.working, Write.update]

/-- The recorded instants of the phases before the stop are not after the clock. -/
theorem LeaseTrail.dated (trail : LeaseTrail d callers K clock m) :
    ∀ row, Committed m.log row → ∀ evidence, row.evidence = some evidence →
      evidence.lifecycle.phases.WorkingBy m.world.clock := by
  refine trail.always (P := fun m row => ∀ evidence, row.evidence = some evidence →
      evidence.lifecycle.phases.WorkingBy m.world.clock)
    (fun m m' row _ move known evidence has => (known evidence has).mono (Move.clock_le move))
    (fun _ _ _ request evidence _ _ built _ e has => ?_) ?_
  · have has : evidence = some e := has
    obtain ⟨spec, _, fresh⟩ := reserved_evidence (has ▸ built)
    intro recorded member x is
    rw [fresh.phases] at member
    simp only [Phases.working, List.mem_cons, List.not_mem_nil, or_false, or_self] at member
    subst member
    cases is
  · intro m m' i cur write changes before move _ guarded makes _ known evidence has
    refine Phases.WorkingBy.mono (t := m.world.clock) ?_ (Move.clock_le move)
    rcases makes.evidence guarded with ⟨old, merged, recorded, ok, is⟩ | ⟨is, _⟩
    · rw [is] at has
      cases has
      rw [(PodCapacityEvidence.merge_ok ok).phases]
      exact (known old recorded).firstWins (write.update_working before guarded)
    · rw [is] at has
      exact known evidence has

end KestrelRunpod.Pod
