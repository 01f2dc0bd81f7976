import KestrelRunpod.Pod.Retry

/-!
# The hard deadline

A pass over an open catalog lease that has a Pod, at or after its hard deadline, terminates the
Pod whatever the states of the lease are (`reconcileOne_terminates`).  Whether a confirmed
termination completes the cleanup depends on the evidence alone: the instant of the stop must
not follow one at which billing was already reconciled (`PodCapacityEvidence.merge_stop`).

That a Pod is open while its billing is reconciled is not excluded: a settlement without cost
may be written over a row that has meanwhile recorded its Pod (`settled_before_stop`).
-/

namespace KestrelRunpod.Pod

open Interleave Program

variable {d : Digests} {callers : Callers} {K : Restriction Effects World} {clock : Instant}
  {m : Moment Effects World}

/-! ## Merging the instant of a stop -/

/-- The instant of a stop can be merged exactly when billing was not reconciled before it. -/
theorem PodCapacityEvidence.merge_stop {e : PodCapacityEvidence} {t : Instant}
    (unstopped : e.lifecycle.phases.stopConfirmedAt = none)
    (reserved : e.lifecycle.reservationAt ≤ t) (working : e.lifecycle.phases.WorkingBy t) :
    (∃ merged, e.merge { lifecycle := { stopConfirmedAt := some t } } = .ok merged) ↔
      ∀ b ∈ e.lifecycle.phases.billingReconciledAt, t ≤ b := by
  have checked := LifecycleFields.check_ok.mp e.lifecycle.checked
  rw [LifecycleFields.ordered_eq, List.pairwise_append] at checked
  obtain ⟨⟨before, _, ordered⟩, provenance⟩ := checked
  have phases : e.lifecycle.phases.firstWins { stopConfirmedAt := some t } =
      { e.lifecycle.phases with stopConfirmedAt := some t } := by
    simp [Phases.firstWins, unstopped]
  -- The new lifecycle passes its check exactly when the stop does not follow the billing.
  rw [merge_lifecycle (by rw [phases]), phases, LifecycleFields.check_ok,
    LifecycleFields.ordered_eq, List.pairwise_append]
  constructor
  · rintro ⟨⟨_, late, _⟩, _⟩ b has
    rw [List.pairwise_pair] at late
    exact late t rfl b has
  · intro unbilled
    refine ⟨⟨before, ?_, fun a member c after => ?_⟩, provenance⟩
    · rw [List.pairwise_pair]
      rintro x ⟨⟩ b has
      exact unbilled b has
    · simp only [List.mem_cons, List.not_mem_nil, or_false] at after
      rcases after with rfl | rfl
      · rintro x has y ⟨⟩
        exact LifecycleFields.beforeStop_le reserved working a member x has
      · exact ordered a member _ (by simp)

/-! ## A pass over an open lease -/

section

variable {w : World} {h : Past} {row : Lease} {svc : Service} {exit : Past → Prop}
  {P : World → Past → Prop}

/-- The lease as its release finds it when the provider is asked to end the capacity. -/
structure Lease.Releasing (row now : Lease) : Prop where
  token : now.cleanupToken = row.cleanupToken
  pod : now.providerPodId = row.providerPodId
  catalog : now.isCatalogAttempt = row.isCatalogAttempt
  evidence : now.evidence = row.evidence
  active : now.isTerminal = false
  cleanup : now.cleanupState = .complete ↔
    row.state = .releasing ∧ row.cleanupState = .complete

/-- The release of an open lease with a Pod comes to its stop, unless only final billing is
left of it. -/
theorem releaseOne_stops {reason : String} (fuel : 0 < svc.fuel) (holds : w.Holds row)
    (active : row.isTerminal = false) (owned : row.ownership ≠ .preexistingRunning)
    (has : row.providerPodId ≠ none)
    (unbilled : ¬(row.isCatalogAttempt = true ∧ row.cleanupState = .complete ∧
      row.terminatedAt ≠ none ∧
      (row.billingState = .pending ∨ row.billingState = .unresolved)))
    (stop : ∀ w' h' now, w'.Holds now → row.Releasing now → w.clock ≤ w'.clock →
      (stopCapacity svc row.cleanupToken reason now).Alone (runtime d) exit
        (fun w h _ => P w h) w' h') :
    (releaseOne svc row.cleanupToken reason).Alone (runtime d) exit (fun w h _ => P w h) w h := by
  unfold releaseOne
  rw [alone_do]
  refine alone_required holds fun w₁ later => ?_
  have holds₁ := holds.later later
  dsimp only
  rw [if_neg (by simp [active]), if_neg unbilled, if_neg owned, alone_do]
  unfold decideCreation
  rw [if_neg fun undecided => has undecided.1]
  refine alone_pure row ?_
  dsimp only
  rw [if_neg has]
  unfold releaseWithPod
  rw [alone_do]
  unfold beginReleasing
  split
  · rename_i onward
    rw [alone_do]
    refine alone_now fun w₂ t later₂ _ => ?_
    refine transitionNonterminal_alone fuel (holds₁.later later₂) active rfl
      fun w₃ holds₃ clock => ?_
    refine stop w₃ _ _ holds₃ ⟨rfl, rfl, rfl, rfl, rfl, ?_⟩
      (later.clock.trans (later₂.clock.trans clock))
    constructor
    · rintro ⟨⟩
    · rintro ⟨releasing, _⟩
      exact absurd releasing onward
  · rename_i releasing
    rw [not_not] at releasing
    refine alone_pure row (stop w₁ _ row holds₁ ⟨rfl, rfl, rfl, rfl, active, ?_⟩ later.clock)
    exact ⟨fun complete => ⟨releasing, complete⟩, fun both => both.2⟩

/-- A pass over an open lease with a Pod, at or after its hard deadline, releases the lease. -/
theorem reconcileOne_releases (holds : w.Holds row) (active : row.isTerminal = false)
    (begun : row.state ≠ .requested) (has : row.providerPodId ≠ none)
    (due : row.hardDeadline ≤ w.clock)
    (release : ∀ w' h' reason, w.Later w' →
      (releaseOne svc row.cleanupToken reason).Alone (runtime d) exit (fun w h _ => P w h)
        w' h') :
    (reconcileOne svc row.cleanupToken).Alone (runtime d) exit (fun w h _ => P w h) w h := by
  unfold reconcileOne
  rw [alone_do]
  refine alone_getLease fun w₁ later => ?_
  rw [holds.get]
  dsimp only
  rw [if_neg (by simp [active])]
  refine Alone.result ?_
  unfold reconcileActive
  rw [alone_do]
  refine alone_now fun w₂ t later₂ is => ?_
  have onward : row.hardDeadline ≤ t := is ▸ due.trans (later.clock.trans later₂.clock)
  dsimp only
  rw [if_neg fun requested => begun requested.1, if_neg begun,
    if_neg fun undecided => has undecided.1]
  split
  · exact release w₂ _ "retry teardown" (later.trans later₂)
  · exact release w₂ _ "hard deadline" (later.trans later₂)

/-- A termination of the lease's Pod was dispatched. -/
def TerminateSent (token pod : String) (h : Past) : Prop :=
  ∃ id : Nat, (⟨.send token (.terminate pod), id⟩ : Event Effects) ∈ h

/-- A termination of the Pod was answered with anything but its confirmation. -/
def Unconfirmed (pod : String) (h : Past) : Prop :=
  ∃ (id : Nat) (outcome : Except Exn Bool), outcome ≠ .ok true ∧
    (⟨.recv id (.terminate pod), outcome⟩ : Event Effects) ∈ h

/-- The clock was read as `t` when the termination of the Pod had just been confirmed. -/
def ConfirmedAt (pod : String) (t : Instant) (h : Past) : Prop :=
  ∃ (id : Nat) (earlier : Past),
    ((⟨.now, t⟩ : Event Effects) ::
      (⟨.recv id (.terminate pod), .ok true⟩ : Event Effects) :: earlier) <:+ h

theorem World.Holds.cleaned_iff (holds : w.Holds row) :
    w.Cleaned row.cleanupToken ↔ row.cleanupState = .complete := by
  constructor
  · rintro ⟨other, there, same, complete⟩
    rw [holds.tidy.unique row holds.member other there.member same.symm]
    exact complete
  · exact fun complete => ⟨row, holds, rfl, complete⟩

/-- The termination of an open catalog lease's Pod is dispatched. -/
theorem stopCapacity_terminates {pod reason token : String} (fuel : 0 < svc.fuel)
    (holds : w.Holds row) (active : row.isTerminal = false)
    (catalog : row.isCatalogAttempt = true) (has : row.providerPodId = some pod)
    (named : pod ≠ "") :
    (stopCapacity svc token reason row).Alone (runtime d)
      (TerminateSent row.cleanupToken pod) (fun _ _ _ => False) w h := by
  unfold stopCapacity
  rw [alone_do]
  refine countStopAttempt_alone fuel holds active fun w' changes h' holds' _ is _ => ?_
  subst is
  have still : (row.apply { stopAttempts := some (row.stopAttempts + 1) }).isTerminal = false :=
    active
  dsimp only
  rw [if_neg (by simp [still]), alone_do]
  refine alone_except ?_
  rw [alone_bind]
  unfold endCapacity
  rw [alone_do]
  refine alone_podId has named ?_
  dsimp only
  rw [if_pos (by exact catalog)]
  exact alone_await fun id => .inl ⟨id, List.mem_cons_self⟩

/-- What a confirmed termination leaves: the cleanup is complete exactly when it already was,
or billing was not reconciled before the confirmation. -/
def World.CleanedUnlessBilled (w : World) (row : Lease) (evidence : PodCapacityEvidence)
    (pod : String) (h : Past) : Prop :=
  ∃ t, ConfirmedAt pod t h ∧
    (w.Cleaned row.cleanupToken ↔ row.cleanupState = .complete ∨
      ∀ b ∈ evidence.lifecycle.phases.billingReconciledAt, t ≤ b)

/-- What the release does with a confirmed termination. -/
theorem confirmStopped_cleans {pod : String} {evidence : PodCapacityEvidence} {id : Nat}
    (fuel : 0 < svc.fuel) (holds : w.Holds row) (active : row.isTerminal = false)
    (recorded : row.evidence = some evidence) (catalog : row.isCatalogAttempt = true)
    (unstopped : evidence.lifecycle.phases.stopConfirmedAt = none)
    (reserved : evidence.lifecycle.reservationAt ≤ w.clock)
    (working : evidence.lifecycle.phases.WorkingBy w.clock) :
    (confirmStopped svc row).Alone (runtime d) exit
      (fun w h _ => w.CleanedUnlessBilled row evidence pod h) w
      ((⟨.recv id (.terminate pod), .ok true⟩ : Event Effects) :: h) := by
  unfold confirmStopped
  rw [alone_do]
  refine alone_now fun w₁ t later is => ?_
  have onward : w.clock ≤ t := is ▸ later.clock
  have merges := PodCapacityEvidence.merge_stop unstopped (reserved.trans onward)
    (working.mono onward)
  have update : ({ lifecycle := if row.isCatalogAttempt = true then
      { stopConfirmedAt := some t } else {} } : EvidenceUpdate) =
      { lifecycle := { stopConfirmedAt := some t } } := by rw [if_pos catalog]
  dsimp only
  rw [alone_do, update]
  refine transitionWithEvidence_alone fuel (holds.later later) active rfl
    (fun w₂ h₂ x failed later₂ suffix => ?_) fun w₂ h₂ changes ok holds₂ _ suffix => ?_
  · have refused : ¬ ∀ b ∈ evidence.lifecycle.phases.billingReconciledAt, t ≤ b := by
      rw [← merges]
      rintro ⟨merged, ok⟩
      unfold Lease.persisted at failed
      rw [recorded] at failed
      dsimp only at failed
      rw [ok] at failed
      cases failed
    refine ⟨t, ⟨id, h, suffix⟩, ?_⟩
    rw [((holds.later later).later later₂).cleaned_iff]
    exact (or_iff_left refused).symm
  · have accepted : ∀ b ∈ evidence.lifecycle.phases.billingReconciledAt, t ≤ b := by
      rw [← merges]
      unfold Lease.persisted at ok
      rw [recorded] at ok
      dsimp only at ok
      cases merges : evidence.merge { lifecycle := { stopConfirmedAt := some t } } with
      | ok merged => exact ⟨merged, rfl⟩
      | error x =>
          rw [merges] at ok
          cases ok
    obtain ⟨evidence', columns⟩ := Lease.persisted_ok ok
    have active' : (row.apply changes).isTerminal = false := by
      rw [columns]
      simp [Lease.isTerminal, catalog]
    have complete : (row.apply changes).cleanupState = .complete := by rw [columns]; rfl
    have settles : (reconcileBilling svc (row.apply changes)).Alone (runtime d) exit
        (fun w _ _ => w.Cleaned row.cleanupToken) w₂ h₂ :=
      reconcileBilling_cleaned fuel holds₂ active' complete
    dsimp only
    rw [if_pos (by exact catalog)]
    refine settles.extending.mono fun w₃ h₃ o met => ?_
    exact ⟨t, ⟨id, h, suffix.trans met.1⟩, iff_of_true met.2 (.inr accepted)⟩

/-- The stop of an open catalog lease, up to an answer that confirms nothing. -/
theorem stopCapacity_cleans {pod reason token : String} {evidence : PodCapacityEvidence}
    (fuel : 0 < svc.fuel) (holds : w.Holds row) (active : row.isTerminal = false)
    (recorded : row.evidence = some evidence) (catalog : row.isCatalogAttempt = true)
    (has : row.providerPodId = some pod) (named : pod ≠ "")
    (unstopped : evidence.lifecycle.phases.stopConfirmedAt = none)
    (reserved : evidence.lifecycle.reservationAt ≤ w.clock)
    (working : evidence.lifecycle.phases.WorkingBy w.clock) :
    (stopCapacity svc token reason row).Alone (runtime d) (Unconfirmed pod)
      (fun w h _ => w.CleanedUnlessBilled row evidence pod h) w h := by
  unfold stopCapacity
  rw [alone_do]
  refine countStopAttempt_alone fuel holds active fun w₁ changes h₁ holds₁ clock is _ => ?_
  subst is
  have still : (row.apply { stopAttempts := some (row.stopAttempts + 1) }).isTerminal = false :=
    active
  dsimp only
  rw [if_neg (by simp [still]), alone_do]
  refine alone_except ?_
  rw [alone_bind]
  unfold endCapacity
  rw [alone_do]
  refine alone_podId has named ?_
  dsimp only
  rw [if_pos (by exact catalog)]
  refine alone_await_or fun id => .inr fun w₂ outcome later => ?_
  by_cases confirms : outcome = .ok true
  · subst confirms
    have onward := clock.trans later.clock
    refine .inr (alone_pure _ ?_)
    exact confirmStopped_cleans fuel (holds₁.later later) still recorded catalog unstopped
      (reserved.trans onward) (working.mono onward)
  · exact .inl ⟨id, outcome, confirms, List.mem_cons_self⟩

/-- What is known of an open catalog lease with a Pod, at or after its hard deadline. -/
structure World.Overdue (w : World) (row : Lease) (pod : String)
    (evidence : PodCapacityEvidence) : Prop where
  holds : w.Holds row
  active : row.isTerminal = false
  catalog : row.isCatalogAttempt = true
  has : row.providerPodId = some pod
  recorded : row.evidence = some evidence
  unstopped : evidence.lifecycle.phases.stopConfirmedAt = none
  due : row.hardDeadline ≤ w.clock
  named : pod ≠ ""
  begun : row.state ≠ .requested
  owned : row.ownership ≠ .preexistingRunning
  settled : row.cleanupState = .complete → row.billingState = .authoritative
  reserved : evidence.lifecycle.reservationAt ≤ w.clock
  working : evidence.lifecycle.phases.WorkingBy w.clock

/-- Nothing is left to bill of an overdue lease before its Pod is stopped. -/
theorem World.Overdue.unbilled {pod : String} {evidence : PodCapacityEvidence}
    (overdue : w.Overdue row pod evidence) :
    ¬(row.isCatalogAttempt = true ∧ row.cleanupState = .complete ∧ row.terminatedAt ≠ none ∧
      (row.billingState = .pending ∨ row.billingState = .unresolved)) := by
  rintro ⟨_, complete, _, billing⟩
  have settled := overdue.settled complete
  rcases billing with is | is <;> (rw [settled] at is; cases is)

/-- A pass over an overdue lease terminates its Pod. -/
theorem reconcileOne_terminates {pod : String} {evidence : PodCapacityEvidence}
    (fuel : 0 < svc.fuel) (overdue : w.Overdue row pod evidence) :
    (reconcileOne svc row.cleanupToken).Alone (runtime d) (TerminateSent row.cleanupToken pod)
      (fun _ _ _ => False) w h := by
  have present : row.providerPodId ≠ none := by simp [overdue.has]
  refine reconcileOne_releases overdue.holds overdue.active overdue.begun present overdue.due
    fun w₁ h₁ reason later => ?_
  refine releaseOne_stops fuel (overdue.holds.later later) overdue.active overdue.owned present
    overdue.unbilled fun w₂ h₂ now holds₂ releasing _ => ?_
  rw [← releasing.token]
  exact stopCapacity_terminates fuel holds₂ releasing.active
    (releasing.catalog.trans overdue.catalog) (releasing.pod.trans overdue.has) overdue.named

/-- A confirmed termination of an overdue lease's Pod completes the cleanup, unless billing was
reconciled before it. -/
theorem reconcileOne_cleans {pod : String} {evidence : PodCapacityEvidence}
    (fuel : 0 < svc.fuel) (overdue : w.Overdue row pod evidence) :
    (reconcileOne svc row.cleanupToken).Alone (runtime d) (Unconfirmed pod)
      (fun w h _ => ∃ t, ConfirmedAt pod t h ∧ (w.Cleaned row.cleanupToken ↔
        (row.state = .releasing ∧ row.cleanupState = .complete) ∨
          ∀ b ∈ evidence.lifecycle.phases.billingReconciledAt, t ≤ b)) w h := by
  have present : row.providerPodId ≠ none := by simp [overdue.has]
  refine reconcileOne_releases overdue.holds overdue.active overdue.begun present overdue.due
    fun w₁ h₁ reason later => ?_
  refine releaseOne_stops fuel (overdue.holds.later later) overdue.active overdue.owned present
    overdue.unbilled fun w₂ h₂ now holds₂ releasing clock => ?_
  have onward := later.clock.trans clock
  refine (stopCapacity_cleans fuel holds₂ releasing.active
    (releasing.evidence.trans overdue.recorded) (releasing.catalog.trans overdue.catalog)
    (releasing.pod.trans overdue.has) overdue.named overdue.unstopped
    (overdue.reserved.trans onward) (overdue.working.mono onward)).mono
      fun w₃ h₃ o met => ?_
  obtain ⟨t, confirmed, cleaned⟩ := met
  rw [releasing.token, releasing.cleanup] at cleaned
  exact ⟨t, confirmed, cleaned⟩

end

/-! ## Reachable leases -/

/-- What every trail knows of an open catalog lease with a Pod at its hard deadline. -/
theorem LeaseTrail.overdue (trail : LeaseTrail d callers K clock m) {row : Lease} {pod : String}
    {evidence : PodCapacityEvidence} (member : row ∈ m.world.rows)
    (active : row.isTerminal = false) (catalog : row.isCatalogAttempt = true)
    (has : row.providerPodId = some pod) (recorded : row.evidence = some evidence)
    (unstopped : evidence.lifecycle.phases.stopConfirmedAt = none)
    (due : row.hardDeadline ≤ m.world.clock) : m.world.Overdue row pod evidence := by
  have version := trail.consistent.current row member
  have created := trail.catalog_created row version catalog
  refine ⟨⟨trail.tidy, member⟩, active, catalog, has, recorded, unstopped, due,
    trail.podId_nonempty row version pod has, fun requested => ?_,
    trail.created_owned row version created, fun complete => ?_,
    (trail.reserved_before row version evidence recorded).trans due,
    trail.dated row version evidence recorded⟩
  · have podless := trail.requested_podless row version created requested
    rw [has] at podless
    cases podless
  · refine (trail.cleaned_settled row version catalog complete).resolve_right fun stopped => ?_
    rw [Lease.stopConfirmedAt, recorded, Option.bind_some] at stopped
    exact stopped unstopped

section

open Sample

/-- A capacity whose Pod is recorded when its hard deadline passes. -/
def outlives : Schedule digests agreed :=
  bringUp.take 6 ++ [runs 0 4, .drift (.tick 8000000000)]

/-- An open catalog lease with a Pod whose stop is not confirmed, at its hard deadline. -/
def Lease.isOverdue (clock : Instant) (row : Lease) : Bool :=
  !row.isTerminal && row.isCatalogAttempt && row.providerPodId.isSome &&
    row.evidence.any (fun evidence => evidence.lifecycle.phases.stopConfirmedAt.isNone) &&
    decide (row.hardDeadline ≤ clock)

theorem Lease.isOverdue_eq_true {row : Lease} {clock : Instant}
    (overdue : row.isOverdue clock = true) :
    row.isTerminal = false ∧ row.isCatalogAttempt = true ∧
      (∃ pod, row.providerPodId = some pod) ∧
      (∃ evidence, row.evidence = some evidence ∧
        evidence.lifecycle.phases.stopConfirmedAt = none) ∧ row.hardDeadline ≤ clock := by
  simp only [isOverdue, Bool.and_eq_true, Bool.not_eq_true', decide_eq_true_eq,
    Option.any_eq_true, Option.isSome_iff_exists, Option.isNone_iff_eq_none] at overdue
  obtain ⟨⟨⟨⟨active, catalog⟩, pod⟩, evidence⟩, due⟩ := overdue
  exact ⟨active, catalog, pod, evidence, due⟩

/-- The capacity is settled as unused by a pass that had read its claim; meanwhile its create
was answered with a Pod that is not the requested one.  A first termination stays pending. -/
def settledFirst : Schedule digests agreed :=
  [.spawn 0 _ acquires,
    runs 0 3, gets 0 mismatched, runs 0 2, .drift (.tick 300000000),
    .spawn 1 _ (.reconcile service configured), runs 1 6,
    runs 0 9, .drift (.accept 1 "pod-00001"), gets 0 mismatched, runs 0 3, runs 1 20,
    runs 0 20, gets 0 mismatched, runs 0 20, .drift (.tick 8000000000), .drift (.stops 1)]
where
  /-- Responses of a provider that brings up another Pod and is slow to end it. -/
  mismatched : (call : Call) → Option (Except Exn call.Value)
    | .loadOrCreate _ _ => some (.ok capability)
    | .create _ _ => some (.error (.createdMismatch "pod-00001"))
    | .terminate _ => some (.ok false)
    | _ => none

/-- The pass at the hard deadline, with the termination confirmed. -/
def deadlinePass : Schedule digests agreed :=
  [.spawn 4 _ (.reconcile service configured), runs 4 40, gets 4 confirmed, runs 4 40]
where
  /-- The provider confirms the termination. -/
  confirmed : (call : Call) → Option (Except Exn call.Value)
    | .terminate _ => some (.ok true)
    | _ => none

/-- The last to act was task `i`: it had the termination of a Pod confirmed, and it is over. -/
def passedConfirmed (i : Nat) (c : Config Effects Exn World) : Bool :=
  (match c.tasks i with
    | some (.pure _) => true
    | some (.throw _) => true
    | _ => false) &&
  (c.log.take (c.log.of i).length).all (fun entry => entry.1 = i) &&
  (c.log.of i).any fun e => match e with
    | ⟨.recv _ (.terminate _), .ok true⟩ => true
    | _ => false

end

end KestrelRunpod.Pod
