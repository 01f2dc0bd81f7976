import KestrelRunpod.Pod.System.Invariants
import KestrelRunpod.Pod.System.Solo
import KestrelRunpod.Pod.Stop

/-!
# Teardown is retried

A stopped lease of a training job stays in a state of its stop, as long as no completed status
is recorded over the stop (`noLateCompletion`), and a pass over a stopped lease tries to end
its capacity, well before the hard deadline (`reconcileOne_retries`).

Nothing in `record_status` asks for the missing condition: a completion that is reported late
takes a stopped lease to `job_completed`, where no pass retries anything
(`completed_after_stop`).
-/

namespace KestrelRunpod.Pod

open Interleave Program

variable {d : Digests} {callers : Callers} {K : Restriction Effects World} {clock : Instant}
  {write : Write} {cur : Lease} {changes : Changes} {m : Moment Effects World}

/-! ## The states of a stop, without a late completion -/

/-- No update records a completed job over a stopped lease. -/
def noLateCompletion : Restriction Effects World := fun _ _ _ e =>
  match e with
  | ⟨.compareAndSet lease changes, .ok _⟩ =>
      changes.state = some .jobCompleted → lease.state.isStop = false
  | _ => True

/-- Without a late completion, the current row of a lease that was stopped is in a state of
its stop, whatever its protocol. -/
theorem LeaseTrail.stays_stopped (trail : LeaseTrail d callers noLateCompletion clock m) :
    Since (fun old now => old.state.isStop = true → now.state.isStop = true) m := by
  refine trail.since (fun _ => id) (fun a b c ab bc stopped => bc (ab stopped)) ?_
  intro m m' i cur write changes before move member guarded makes log stopped
  rcases write.stop_or_completed before member guarded makes stopped with stop | ⟨late, _⟩
  · exact stop
  · have kept := (Move.act_of_log move log).2.2 late
    rw [stopped] at kept
    cases kept

/-! ## What a pass asks of the provider -/

/-- The calls that end capacity, or look for capacity that may have to be ended. -/
def Call.endsCapacity : Call → Bool
  | .stop _ | .terminate _ | .findByName _ | .findExact _ _ => true
  | _ => false

/-- The task has tried to end the capacity of the lease. -/
def TriedTeardown (token : String) (h : Past) : Prop :=
  ∃ (call : Call) (id : Nat), call.endsCapacity = true ∧
    (⟨.send token call, id⟩ : Event Effects) ∈ h

/-- The lease is released. -/
def World.Released (w : World) (token : String) : Prop :=
  ∃ row ∈ w.rows, row.cleanupToken = token ∧ row.isTerminal = true

/-- The creation of the lease's Pod was dispatched and is not decided. -/
def Lease.undecided (lease : Lease) : Prop :=
  lease.providerPodId = none ∧ lease.creationUncertain = true

instance (lease : Lease) : Decidable lease.undecided := by
  unfold Lease.undecided
  infer_instance

section

variable {w : World} {h : Past} {row : Lease} {svc : Service}

/-- A call that ends capacity is what is asked for, whatever becomes of it. -/
theorem alone_await_ends {token : String} {call : Call}
    {post : World → Past → Except Exn call.Value → Prop} (ends : call.endsCapacity = true) :
    (await token call).Alone (runtime d) (TriedTeardown token) post w h :=
  alone_await fun id => .inl ⟨call, id, ends, List.mem_cons_self⟩

/-- An uncertain creation is looked up. -/
theorem resolveUncertainCreation_tries {reason : String}
    {post : World → Past → Except Exn Lease → Prop} :
    (resolveUncertainCreation svc row reason).Alone (runtime d) (TriedTeardown row.cleanupToken)
      post w h := by
  unfold resolveUncertainCreation
  rw [alone_do]
  refine alone_except ?_
  rw [alone_bind]
  unfold findRecovered
  split
  · rw [alone_do]
    exact alone_await_ends rfl
  · rw [alone_do]
    exact alone_await_ends rfl

/-- The mutation that ends the capacity of a recorded Pod is dispatched. -/
theorem endCapacity_tries {pod : String} {post : World → Past → Except Exn Bool → Prop}
    (has : row.providerPodId = some pod) (named : pod ≠ "") :
    (endCapacity row).Alone (runtime d) (TriedTeardown row.cleanupToken) post w h := by
  unfold endCapacity
  rw [alone_do]
  refine alone_podId has named ?_
  dsimp only
  split
  · exact alone_await_ends rfl
  · exact alone_await_ends rfl

/-- The stop of a recorded Pod is requested. -/
theorem stopCapacity_tries {pod reason : String} {post : World → Past → Except Exn Lease → Prop}
    (fuel : 0 < svc.fuel) (holds : w.Holds row) (active : row.isTerminal = false)
    (has : row.providerPodId = some pod) (named : pod ≠ "") {token : String} :
    (stopCapacity svc token reason row).Alone (runtime d) (TriedTeardown row.cleanupToken)
      post w h := by
  unfold stopCapacity
  rw [alone_do]
  refine countStopAttempt_alone fuel holds active fun w' changes h' holds' _ is _ => ?_
  subst is
  have still : (row.apply { stopAttempts := some (row.stopAttempts + 1) }).isTerminal = false :=
    active
  dsimp only
  rw [if_neg (by simp [still]), alone_do]
  refine alone_except ?_
  rw [alone_bind]
  exact endCapacity_tries has named

/-- The current row of the lease has its cleanup complete. -/
def World.Cleaned (w : World) (token : String) : Prop :=
  ∃ row, w.Holds row ∧ row.cleanupToken = token ∧ row.cleanupState = .complete

theorem World.Cleaned.later {w w' : World} {token : String} (cleaned : w.Cleaned token)
    (later : w.Later w') : w'.Cleaned token := by
  obtain ⟨row, holds, same, complete⟩ := cleaned
  exact ⟨row, holds.later later, same, complete⟩

/-- An update that does not touch the cleanup state leaves the cleanup complete. -/
theorem World.Holds.cleaned {w : World} (holds : w.Holds (row.apply changes))
    (complete : row.cleanupState = .complete) (kept : changes.cleanupState = none) :
    w.Cleaned row.cleanupToken := by
  refine ⟨row.apply changes, holds, rfl, ?_⟩
  show changes.cleanupState.getD row.cleanupState = _
  rw [kept]
  exact complete

/-- The columns of an evidence transition are those it was given, the evidence apart. -/
theorem Lease.persisted_ok {update : EvidenceUpdate} {persisted : Changes}
    (ok : row.persisted changes update = .ok persisted) :
    ∃ evidence, persisted = { changes with evidence := evidence } := by
  unfold Lease.persisted at ok
  split at ok
  · cases ok
    exact ⟨changes.evidence, rfl⟩
  · rename_i evidence _
    cases merges : evidence.merge update with
    | error x =>
        rw [merges] at ok
        cases ok
    | ok merged =>
        rw [merges] at ok
        cases ok
        exact ⟨some merged, rfl⟩

section

variable {exit : Past → Prop}

/-- Revocation keeps the cleanup complete, whatever it ends with. -/
theorem revokeAndRelease_cleaned (holds : w.Holds row) (active : row.isTerminal = false)
    (complete : row.cleanupState = .complete) :
    (revokeAndRelease svc row).Alone (runtime d) exit (fun w _ _ => w.Cleaned row.cleanupToken)
      w h := by
  have cleaned : ∀ w', w.Later w' → w'.Cleaned row.cleanupToken :=
    fun w' later => ⟨row, holds.later later, rfl, complete⟩
  unfold revokeAndRelease
  split
  · exact alone_throw _ (cleaned w (.refl w))
  · rw [alone_do]
    unfold requireCapabilityStore
    split
    · refine alone_pure () ?_
      dsimp only
      rw [alone_do]
      unfold capacitySpec
      split
      · refine alone_pure _ ?_
        dsimp only
        rw [alone_do]
        refine alone_await fun id => .inr fun w₁ outcome later => ?_
        cases outcome with
        | error x => exact cleaned w₁ later
        | ok revoked =>
            dsimp only
            rw [alone_do]
            refine alone_required (holds.later later) fun w₂ later₂ => ?_
            dsimp only
            rw [if_neg (by simp [active]), alone_do]
            refine alone_now fun w₃ t later₃ _ => ?_
            refine alone_compareAndSet (holds.later (later.trans (later₂.trans later₃))) active
              rfl fun w₄ holds₄ _ => ?_
            exact holds₄.cleaned complete rfl
      · exact alone_throw _ (cleaned w (.refl w))
    · exact alone_throw _ (cleaned w (.refl w))

/-- The settlement of final billing keeps the cleanup complete, whatever it ends with. -/
theorem settleBilling_cleaned {receipt : BillingReceipt} (fuel : 0 < svc.fuel)
    (holds : w.Holds row) (active : row.isTerminal = false)
    (complete : row.cleanupState = .complete) :
    (settleBilling svc row receipt).Alone (runtime d) exit
      (fun w _ _ => w.Cleaned row.cleanupToken) w h := by
  unfold settleBilling
  rw [alone_do]
  refine alone_except (transitionWithEvidence_alone fuel holds active rfl
    (fun w' h' x _ later _ => ?_) fun w' h' changes ok holds' _ _ => ?_)
  · have cleaned : w'.Cleaned row.cleanupToken := ⟨row, holds.later later, rfl, complete⟩
    dsimp only
    split
    · rw [alone_do]
      refine alone_required (holds.later later) fun w₂ later₂ => ?_
      dsimp only
      split
      · exact alone_throw x (cleaned.later later₂)
      · refine alone_pure row ?_
        exact revokeAndRelease_cleaned (holds.later (later.trans later₂)) active complete
    · exact cleaned
  · obtain ⟨evidence, rfl⟩ := Lease.persisted_ok ok
    exact revokeAndRelease_cleaned holds' active complete

/-- Final billing keeps the cleanup complete, whatever it ends with. -/
theorem reconcileBilling_cleaned (fuel : 0 < svc.fuel) (holds : w.Holds row)
    (active : row.isTerminal = false) (complete : row.cleanupState = .complete) :
    (reconcileBilling svc row).Alone (runtime d) exit (fun w _ _ => w.Cleaned row.cleanupToken)
      w h := by
  have cleaned : ∀ w', w.Later w' → w'.Cleaned row.cleanupToken :=
    fun w' later => ⟨row, holds.later later, rfl, complete⟩
  have writes : ∀ w₁ h₁ (changes : Changes), w.Later w₁ → changes.providerPodId = none →
      changes.cleanupState = none → (compareAndSet row changes).Alone (runtime d) exit
        (fun w _ _ => w.Cleaned row.cleanupToken) w₁ h₁ := by
    intro w₁ h₁ changes later pod kept
    exact alone_compareAndSet (holds.later later) active pod
      fun w₂ holds₂ _ => holds₂.cleaned complete kept
  unfold reconcileBilling
  split
  · exact alone_pure row (cleaned w (.refl w))
  · split
    · exact revokeAndRelease_cleaned holds active complete
    · split
      · split
        · exact writes w h _ (.refl w) rfl rfl
        · rw [alone_do]
          unfold zeroCostReceipt
          rw [alone_do]
          unfold capacitySpec
          split
          · refine alone_pure _ ?_
            dsimp only
            rw [alone_do]
            refine alone_now fun w₁ t later _ => ?_
            refine alone_ofExcept ?_
            split
            · exact settleBilling_cleaned fuel (holds.later later) active complete
            · exact cleaned w₁ later
          · exact alone_throw _ (cleaned w (.refl w))
      · split
        · exact alone_throw _ (cleaned w (.refl w))
        · split
          · exact writes w h _ (.refl w) rfl rfl
          · split
            · exact writes w h _ (.refl w) rfl rfl
            · rw [alone_do]
              refine alone_await fun id => .inr fun w₁ outcome later => ?_
              cases outcome with
              | error x => exact cleaned w₁ later
              | ok billed =>
                  dsimp only
                  split
                  · split
                    · exact alone_pure row (cleaned w₁ later)
                    · exact writes w₁ _ _ later rfl rfl
                  · split
                    · exact alone_throw _ (cleaned w₁ later)
                    · split
                      · exact alone_throw _ (cleaned w₁ later)
                      · split
                        · exact alone_throw _ (cleaned w₁ later)
                        · exact settleBilling_cleaned fuel (holds.later later) active complete

end

/-- A catalog lease that has no Pod and will not have one. -/
def Lease.bare (lease : Lease) : Prop :=
  lease.isCatalogAttempt = true ∧ lease.providerPodId = none ∧ lease.creationUncertain = false

/-- What a retry leaves when it asked nothing of the provider: the lease is released, or it is
a catalog lease of which only the settlement is left. -/
def World.Settled (w : World) (row : Lease) : Prop := w.Released row.cleanupToken ∨ row.bare

/-- The release of a lease without a Pod ends, and releases the row unless the lease still has
to be settled. -/
theorem releaseWithoutPod_settles {exit : Past → Prop} (fuel : 0 < svc.fuel)
    (holds : w.Holds row) (active : row.isTerminal = false)
    (none_ : row.providerPodId = none) (decided : row.creationUncertain = false)
    (unmerged : row.evidence.isSome = row.isCatalogAttempt) :
    (releaseWithoutPod svc row).Alone (runtime d) exit (fun w _ _ => w.Settled row) w h := by
  unfold releaseWithoutPod
  rw [alone_do]
  refine alone_now fun w₁ t later _ => ?_
  have holds₁ := holds.later later
  dsimp only
  cases catalog : row.isCatalogAttempt with
  | true =>
      have bare : row.bare := ⟨catalog, none_, decided⟩
      have settled : ∀ w' : World, w'.Settled row := fun _ => .inr bare
      rw [if_pos rfl, alone_do]
      unfold zeroCostReceipt
      rw [alone_do]
      unfold capacitySpec
      split
      · refine alone_pure _ ?_
        dsimp only
        rw [alone_do]
        refine alone_now fun w₂ t₂ later₂ _ => ?_
        refine alone_ofExcept ?_
        split
        · unfold settleZero
          rw [alone_do]
          refine transitionWithEvidence_alone fuel (holds₁.later later₂) active rfl
            (fun w' _ _ _ _ _ => settled w') fun w₃ h₃ changes ok holds₃ _ _ => ?_
          obtain ⟨evidence, rfl⟩ := Lease.persisted_ok ok
          dsimp only
          split
          · exact (revokeAndRelease_cleaned holds₃ rfl rfl).mono fun w' _ _ _ => settled w'
          · exact alone_pure _ (settled w₃)
        · exact settled w₂
      · exact alone_throw _ (settled w₁)
  | false =>
      rw [catalog, Option.isSome_eq_false_iff, Option.isNone_iff_eq_none] at unmerged
      rw [if_neg (by simp), alone_do]
      refine transitionWithEvidence_alone fuel holds₁ active rfl
        (fun _ _ x failed => ?_) fun w₂ h₂ changes ok holds₂ _ _ => ?_
      · rw [Lease.persisted, unmerged] at failed
        cases failed
      · rw [Lease.persisted, unmerged] at ok
        cases ok
        dsimp only
        rw [if_neg (by simp [catalog])]
        exact alone_pure _ (.inl ⟨_, holds₂.member, rfl, rfl⟩)

/-- The release of a lease whose cleanup is not complete tries to end its capacity, or leaves
it settled. -/
theorem releaseOne_tries {reason : String} (fuel : 0 < svc.fuel) (holds : w.Holds row)
    (active : row.isTerminal = false) (open_ : row.cleanupState ≠ .complete)
    (named : ∀ pod, row.providerPodId = some pod → pod ≠ "")
    (unmerged : row.evidence.isSome = row.isCatalogAttempt) :
    (releaseOne svc row.cleanupToken reason).Alone (runtime d) (TriedTeardown row.cleanupToken)
      (fun w _ _ => w.Settled row) w h := by
  unfold releaseOne
  rw [alone_do]
  refine alone_required holds fun w₁ later => ?_
  have holds₁ := holds.later later
  dsimp only
  rw [if_neg (by simp [active]), if_neg fun billed => open_ billed.2.1]
  by_cases running : row.ownership = .preexistingRunning
  · rw [if_pos running, alone_do]
    refine alone_now fun w₂ t later₂ _ => ?_
    refine transitionNonterminal_alone fuel (holds₁.later later₂) active rfl
      fun w₃ holds₃ _ => ?_
    exact .inl ⟨_, holds₃.member, rfl, rfl⟩
  · rw [if_neg running, alone_do]
    unfold decideCreation
    by_cases undecided : row.providerPodId = none ∧ row.creationUncertain = true
    · rw [if_pos undecided, alone_do]
      exact resolveUncertainCreation_tries
    · rw [if_neg undecided]
      refine alone_pure row ?_
      dsimp only
      cases has : row.providerPodId with
      | none =>
          have decided : row.creationUncertain = false := by
            by_contra uncertain
            exact undecided ⟨has, by simpa using uncertain⟩
          rw [if_pos rfl]
          exact releaseWithoutPod_settles fuel holds₁ active has decided unmerged
      | some pod =>
          rw [if_neg (by simp)]
          unfold releaseWithPod
          rw [alone_do]
          unfold beginReleasing
          split
          · rw [alone_do]
            refine alone_now fun w₂ t later₂ _ => ?_
            refine transitionNonterminal_alone fuel (holds₁.later later₂) active rfl
              fun w₃ holds₃ _ => ?_
            exact stopCapacity_tries fuel holds₃ rfl has (named pod has)
          · exact alone_pure row (stopCapacity_tries fuel holds₁ active has (named pod has))

/-- The heartbeat of the lease has run out. -/
def Lease.stale (svc : Service) (lease : Lease) (at_ : Instant) : Prop :=
  lease.lastHeartbeatAt + idleTimeout svc lease ≤ at_

/-- A pass over a stopped lease whose cleanup is not complete tries to end its capacity, or
leaves it settled.  Only an undecided creation is left to its task, for as long as that task
may still be at work. -/
theorem reconcileOne_retries (fuel : 0 < svc.fuel) (holds : w.Holds row)
    (stopped : row.state.isStop = true) (active : row.isTerminal = false)
    (open_ : row.cleanupState ≠ .complete)
    (due : row.undecided → row.stale svc w.clock ∨ row.hardDeadline ≤ w.clock)
    (named : ∀ pod, row.providerPodId = some pod → pod ≠ "")
    (unmerged : row.evidence.isSome = row.isCatalogAttempt) :
    (reconcileOne svc row.cleanupToken).Alone (runtime d) (TriedTeardown row.cleanupToken)
      (fun w _ _ => w.Settled row) w h := by
  have retries : row.state = .releasing ∨ row.state = .cancelRequested ∨
      row.state = .reconcileRequired ∨ row.state = .resultRetrieved := by
    cases is : row.state <;> simp_all [PodState.isStop, Lease.isTerminal]
  have begun : row.state ≠ .requested := by
    rintro is
    rw [is] at stopped
    cases stopped
  unfold reconcileOne
  rw [alone_do]
  refine alone_getLease fun w₁ later => ?_
  rw [holds.get]
  dsimp only
  rw [if_neg (by simp [active]), alone_do]
  unfold reconcileActive
  rw [alone_do]
  refine alone_now fun w₂ t later₂ is => ?_
  have holds₂ := holds.later (later.trans later₂)
  have onward : w.clock ≤ t := is ▸ later.clock.trans later₂.clock
  dsimp only
  rw [if_neg fun requested => begun requested.1, if_neg begun]
  by_cases undecided : row.providerPodId = none ∧ row.creationUncertain = true
  · rw [if_pos undecided]
    have overdue : ¬(decide (row.lastHeartbeatAt + idleTimeout svc row ≤ t) = false ∧
        t < row.hardDeadline) := by
      rintro ⟨fresh, early⟩
      rw [decide_eq_false_iff_not] at fresh
      rcases due undecided with stale | late
      · exact fresh (le_trans stale onward)
      · exact absurd (late.trans onward) (not_le.mpr early)
    rw [if_neg overdue, alone_do]
    exact resolveUncertainCreation_tries
  · rw [if_neg undecided, if_pos retries]
    refine (releaseOne_tries fuel holds₂ active open_ named unmerged).mono ?_
    intro w₃ h₃ o settled
    cases o with
    | ok released => exact alone_pure _ settled
    | error x => exact settled

end

section

open Sample

instance (w : World) (log : Log Effects) (i : Nat) (e : Event Effects) :
    Decidable (noLateCompletion w log i e) :=
  match e with
  | ⟨.compareAndSet _ _, .ok _⟩ => instDecidableForall
  | ⟨.compareAndSet _ _, .error _⟩ => .isTrue trivial
  | ⟨.reserve _, _⟩ | ⟨.get _, _⟩ | ⟨.listCleanupFamily .., _⟩
  | ⟨.listIncompleteFamilyReleases, _⟩ | ⟨.listForReconciliation, _⟩ | ⟨.now, _⟩
  | ⟨.mergeEvidence .., _⟩ | ⟨.send .., _⟩ | ⟨.recv .., _⟩ | ⟨.joined, _⟩ => .isTrue trivial

def trainingRequest : PodRequest where
  cleanupToken := "training-1"
  companionId := "companion-1"
  profileId := "profile-1"
  source := .created
  resourceName := "training-1"
  providerPodId := none
  createdAt := seconds 200
  readinessDeadline := seconds 2000
  hardDeadline := seconds 8000
  rootCleanupToken := "training-1"
  capacitySpec := none
  checked := by decide +kernel

theorem trainingRequest_named :
    trainingRequest.resourceName = agreed.names trainingRequest.cleanupToken := by
  decide +kernel

/-- Bring a training Pod up, submit its job and cancel it. -/
def cancelTraining : Schedule digests agreed :=
  [.spawn 0 _ (.acquire service trainingRequest configured trainingRequest_named),
    runs 0 9, .drift (.accept 0 "pod-00001"), gets 0 comesUp, runs 0 20, gets 0 comesUp,
    runs 0 20, .spawn 1 _ (.recordJob "training-1" "job-1"), runs 1 20,
    .spawn 2 _ (.requestCancellation "training-1"), runs 2 20]

/-- The states in which a pass retries the teardown. -/
def PodState.retries (state : PodState) : Bool := state.isStop || state = .resultRetrieved

/-- The cancelled job is reported completed, and a pass is made. -/
def lateCompletion : Schedule digests agreed :=
  cancelTraining ++
    [.spawn 3 _ (.recordStatus service "training-1" "completed" configured), runs 3 20,
      .spawn 4 _ (.reconcile service configured), runs 4 40]

/-- The pass of task `i` is over, and it called nobody. -/
def passedQuietly (i : Nat) (c : Config Effects Exn World) : Bool :=
  (match c.tasks i with
    | some (.pure _) => true
    | _ => false) &&
  (c.log.of i).all fun e => match e with
    | ⟨.send _ _, _⟩ => false
    | _ => true

/-- The event commits a stopped version of a training lease. -/
def commitsStop (token : String) : Event Effects → Bool
  | ⟨.compareAndSet _ _, .ok old⟩ =>
      old.state.isStop && (token = old.cleanupToken) && !old.protocolOne
  | _ => false

theorem commitsStop_eq_true {token : String} {e : Event Effects}
    (stops : commitsStop token e = true) :
    ∃ old, commits old e ∧ old.state.isStop = true ∧ token = old.cleanupToken ∧
      old.protocolOne = false := by
  unfold commitsStop at stops
  split at stops
  · rename_i lease changes old
    simp only [Bool.and_eq_true, decide_eq_true_eq, Bool.not_eq_true'] at stops
    exact ⟨old, rfl, stops.1.1, stops.1.2, stops.2⟩
  · cases stops

end

end KestrelRunpod.Pod
