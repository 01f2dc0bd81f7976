import KestrelRunpod.Interleave.Avoids
import KestrelRunpod.Pod.Stop

/-!
# Readiness probes that fail late

Any number of tasks may probe one lease for readiness.  A probe that fails after the lease has
moved on to its work is no concern of the lease any more, and `_observe_readiness` reads the
row again before it acts on a probe that succeeded, on one that shows a failed Pod, and on a
worker that is not healthy yet.

Its handlers for every other failure do not, so there the lease is torn down
(`late_probe_ends_work`).  As long as no late failure is one of those, a task does nothing
after a late failure but read the row (`late_probe_spares_lease`): the task keeps a contract
over its own past (`watching`), and what the reads show it follows from the run.
-/

namespace KestrelRunpod.Pod

open Interleave Program

/-! ## Failing probes -/

/-- The calls of a readiness probe. -/
def Call.probes : Call → Bool
  | .observe _ => true
  | .health _ => true
  | _ => false

/-- The operation receives the answer to a probe. -/
def Op.probed : Op → Prop
  | .recv _ call => call.probes = true
  | _ => False

/-- The exceptions that `_observe_readiness` handles as a failure of the capacity. -/
def Exn.failsReadiness (x : Exn) : Bool := x = .cancelled || (x.isManager && !x.isLifecycle)

/-- The probe failed: it raised, or it shows a Pod that has failed or stopped. -/
def failedProbe : (call : Call) → Except Exn call.Value → Prop
  | .observe _, .ok observation =>
      (observation : PodObservation).isFailed = true ∨
        (observation : PodObservation).isStopped = true
  | .observe _, .error _ => True
  | .health _, .error _ => True
  | _, _ => False

/-- The failure does not reach the handlers that tear the lease down: it shows the Pod, it is
a worker that is not healthy yet, or it is raised onwards. -/
def passes : (call : Call) → Except Exn call.Value → Prop
  | .observe _, .error x => x.failsReadiness = false
  | .health _, .error x => x.isTransport = true ∨ x.failsReadiness = false
  | _, _ => True

instance (call : Call) (outcome : Except Exn call.Value) : Decidable (failedProbe call outcome) :=
  match call, outcome with
  | .observe _, .ok _ => instDecidableOr
  | .observe _, .error _ | .health _, .error _ => .isTrue trivial
  | .health _, .ok _ => .isFalse id
  | .start .., _ | .create .., _ | .findByName _, _ | .findExact .., _ | .stop _, _
  | .terminate _, _ | .finalBilling .., _ | .loadOrCreate .., _ | .load _, _ | .revoke _, _
  | .submit .., _ | .status .., _ | .result .., _ | .acknowledge .., _ | .recoverHandoff .., _
  | .cancel .., _ | .workloadStatus, _ | .sleep, _ => .isFalse id

instance (call : Call) (outcome : Except Exn call.Value) : Decidable (passes call outcome) :=
  match call, outcome with
  | .observe _, .error _ => instDecidableEqBool _ _
  | .health _, .error _ => instDecidableOr
  | .observe _, .ok _ | .health _, .ok _ => .isTrue trivial
  | .start .., _ | .create .., _ | .findByName _, _ | .findExact .., _ | .stop _, _
  | .terminate _, _ | .finalBilling .., _ | .loadOrCreate .., _ | .load _, _ | .revoke _, _
  | .submit .., _ | .status .., _ | .result .., _ | .acknowledge .., _ | .recoverHandoff .., _
  | .cancel .., _ | .workloadStatus, _ | .sleep, _ => .isTrue trivial

/-- The event is a read that shows no lease, or one that is starting. -/
def readsStarting : Event Effects → Prop
  | ⟨.get _, reply⟩ => ∀ row : Lease, reply = some row → row.state = .starting
  | _ => False

/-- The event is a read that shows this lease starting. -/
def showsStarting (token : String) : Event Effects → Prop
  | ⟨.get other, reply⟩ =>
      other = token ∧ (reply : Option Lease).any (fun row => row.state = .starting) = true
  | _ => False

/-- A readiness probe is made by a task that has read the lease starting.  One failed and
passed, and the task has not read a starting lease since. -/
def PassedOver (h : Past) (token : String) : Prop :=
  ∃ newer id call outcome older,
    h = newer ++ (⟨.recv id call, outcome⟩ : Event Effects) ::
      (⟨.send token call, id⟩ : Event Effects) :: older ∧
    (∃ e ∈ older, showsStarting token e) ∧ failedProbe call outcome ∧ passes call outcome ∧
    ∀ e ∈ newer, ¬ readsStarting e

/-- After a failure that passed, the task only reads the lease; and it receives the answer to a
probe right after it made it. -/
def watching : Contract Effects where
  permits h op :=
    (∀ token, PassedOver h token → op = .get token) ∧
      ∀ id call, op = .recv id call → call.probes = true →
        ∃ token older, h = (⟨.send token call, id⟩ : Event Effects) :: older
  promises _ := True

/-- No failure was passed over. -/
def Attentive (h : Past) : Prop := ∀ token, ¬ PassedOver h token

/-- The task has not read a starting lease yet. -/
def Unread (h : Past) : Prop := ∀ token, ∀ e ∈ h, ¬ showsStarting token e

theorem Unread.attentive {h : Past} (unread : Unread h) : Attentive h := by
  rintro token ⟨newer, id, call, outcome, older, rfl, ⟨e, member, shows⟩, _⟩
  refine unread token e ?_ shows
  exact List.mem_append_right _ (List.mem_cons_of_mem _ (List.mem_cons_of_mem _ member))

theorem Unread.cons {h : Past} {e : Event Effects} (unread : Unread h)
    (hidden : ∀ token, ¬ showsStarting token e) : Unread (e :: h) := by
  intro token other member
  rcases List.mem_cons.mp member with rfl | member
  · exact hidden token
  · exact unread token other member

theorem Unread.cons_other {h : Past} {op : Op} {reply : op.Reply} (unread : Unread h)
    (other : ∀ token, op ≠ .get token) : Unread ((⟨op, reply⟩ : Event Effects) :: h) := by
  refine unread.cons fun token shows => ?_
  cases op with
  | get token => exact other token rfl
  | _ => exact shows

/-- Only the answer to a probe can be passed over. -/
theorem Attentive.cons {h : Past} {e : Event Effects} (attentive : Attentive h)
    (kept : ∀ id call outcome, e = ⟨.recv id call, outcome⟩ → failedProbe call outcome →
      ¬ passes call outcome) : Attentive (e :: h) := by
  rintro token ⟨newer, id, call, outcome, older, is, read, failed, passed, unseen⟩
  cases newer with
  | nil =>
      cases is
      exact kept id call outcome rfl failed passed
  | cons first newer =>
      have rest := (List.cons.inj is).2
      exact attentive token ⟨newer, id, call, outcome, older, rest, read, failed, passed,
        fun e member => unseen e (List.mem_cons_of_mem _ member)⟩

theorem failedProbe_probes {call : Call} {outcome : Except Exn call.Value}
    (failed : failedProbe call outcome) : call.probes = true := by
  cases call <;> cases outcome <;> first | rfl | exact failed.elim

theorem Attentive.cons_other {h : Past} {op : Op} {reply : op.Reply} (attentive : Attentive h)
    (other : ¬ op.probed) : Attentive ((⟨op, reply⟩ : Event Effects) :: h) := by
  refine attentive.cons fun id call outcome is failed => ?_
  cases is
  exact absurd (failedProbe_probes failed) other

/-- A lease that is starting has the attention of the task again. -/
theorem attentive_of_starting {h : Past} {e : Event Effects} (starting : readsStarting e) :
    Attentive (e :: h) := by
  rintro token ⟨newer, id, call, outcome, older, is, _, _, _, unseen⟩
  cases newer with
  | nil =>
      cases is
      exact starting
  | cons first newer =>
      obtain ⟨rfl, _⟩ := List.cons.inj is
      exact unseen e List.mem_cons_self starting

/-- An attentive task may do anything but receive an answer it has not just asked for. -/
theorem Attentive.permits {h : Past} {op : Op} (attentive : Attentive h) (other : ¬ op.probed) :
    watching.permits h op := by
  refine ⟨fun token passed => absurd passed (attentive token), ?_⟩
  rintro id call rfl probes
  exact absurd probes other

/-! ## Tasks without a probe -/

/-- The task never receives the answer to a probe. -/
abbrev Unprobing {α : Type} (p : Co α) : Prop := p.Avoids Op.probed

theorem Unprobing.obeys {α : Type} {p : Co α} (avoids : Unprobing p) {h : Past}
    (attentive : Attentive h) :
    p.Obeys watching (fun h' _ => Attentive h') (fun h' _ => Attentive h') h :=
  Avoids.obeys avoids
    (fun _ _ kept other => ⟨kept.permits other, fun _ => kept.cons_other other⟩) attentive

/-- A task goes on attentively after a part that makes no probe. -/
theorem Unprobing.followed {α β : Type} {p : Co α} {f : α → Co β} {h : Past}
    {done : Past → β → Prop} {failed : Past → Exn → Prop} (avoids : Unprobing p)
    (attentive : Attentive h) (next : ∀ h' a, Attentive h' → (f a).Obeys watching done failed h')
    (raised : ∀ h' x, Attentive h' → failed h' x) : (p.bind f).Obeys watching done failed h :=
  obeys_bind.mpr ((avoids.obeys attentive).weaken (fun h' a _ kept => next h' a kept)
    fun h' x _ kept => raised h' x kept)

section

variable {α : Type} {svc : Service}

theorem raise_unprobing (x : Exn) : Unprobing (raise x : Co α) := trivial

theorem now_unprobing : Unprobing now := ⟨id, fun _ => trivial⟩

theorem except_unprobing {body : Co α} {caught : Exn → Bool} {handler : Exn → Co α}
    (first : Unprobing body) (second : ∀ x, Unprobing (handler x)) :
    Unprobing (except body caught handler) := by
  refine Avoids.handle first fun x => ?_
  split
  · exact second x
  · trivial

theorem await_unprobing {token : String} {call : Call} (other : call.probes = false) :
    Unprobing (await token call) := by
  refine ⟨id, fun id => ⟨fun probes => ?_, fun outcome => avoids_ofExcept _⟩⟩
  have probes : call.probes = true := probes
  rw [other] at probes
  cases probes

theorem getLease_unprobing (token : String) : Unprobing (getLease token) :=
  ⟨id, fun _ => trivial⟩

theorem compareAndSet_unprobing (lease : Lease) (changes : Changes) :
    Unprobing (compareAndSet lease changes) := ⟨id, fun _ => avoids_ofExcept _⟩

theorem required_unprobing (token : String) : Unprobing (required token) := by
  refine (getLease_unprobing token).bind fun found => ?_
  split <;> trivial

theorem capacitySpec_unprobing (lease : Lease) : Unprobing (capacitySpec lease) := by
  unfold capacitySpec
  split <;> trivial

theorem podId_unprobing (lease : Lease) : Unprobing (podId lease) := by
  unfold podId
  split
  · split <;> trivial
  · trivial

theorem profile_unprobing (profileId : String) : Unprobing (profile svc profileId) := by
  unfold profile
  split <;> trivial

theorem requireCapabilityStore_unprobing : Unprobing (requireCapabilityStore svc) := by
  unfold requireCapabilityStore
  split <;> trivial

theorem requireWorkloadTransport_unprobing : Unprobing (requireWorkloadTransport svc) := by
  unfold requireWorkloadTransport
  split <;> trivial

theorem awaitOwned_unprobing {effect : Co α} (owned : Unprobing effect) :
    Unprobing (awaitOwned effect) := by
  refine owned.bind fun a => ⟨id, fun cancelled => ?_⟩
  cases cancelled <;> trivial

theorem transitionNonterminal_unprobing (token : String) (changes : Changes) (fuel : Nat)
    (lease : Lease) : Unprobing (transitionNonterminal token changes fuel lease) := by
  induction fuel generalizing lease with
  | zero => trivial
  | succ fuel ih =>
      unfold transitionNonterminal
      split
      · trivial
      · refine except_unprobing (compareAndSet_unprobing _ _) fun _ => ?_
        exact (required_unprobing _).bind fun lease => ih lease

theorem persistedChanges_unprobing (lease : Lease) (changes : Changes) (update : EvidenceUpdate) :
    Unprobing (persistedChanges lease changes update) := by
  unfold persistedChanges
  split
  · trivial
  · refine ⟨id, fun merged => ?_⟩
    exact (avoids_ofExcept _).bind fun _ => trivial

theorem transitionWithEvidence_unprobing (token : String) (changes : Changes)
    (update : EvidenceUpdate) (expected : Option (List PodState)) (retry : Bool) (fuel : Nat)
    (lease : Lease) :
    Unprobing (transitionWithEvidence token changes update expected retry fuel lease) := by
  induction fuel generalizing lease with
  | zero => trivial
  | succ fuel ih =>
      unfold transitionWithEvidence
      split
      · trivial
      · split
        · trivial
        · refine (persistedChanges_unprobing _ _ _).bind fun persisted => ?_
          refine except_unprobing (compareAndSet_unprobing _ _) fun _ => ?_
          exact (required_unprobing _).bind fun lease => ih lease

theorem recordRetryableFailure_unprobing (lease : Lease) (x : Exn) (uncertain : Option Bool) :
    Unprobing (recordRetryableFailure svc lease x uncertain) := by
  refine (required_unprobing _).bind fun current => ?_
  split
  · trivial
  · exact now_unprobing.bind fun t => transitionNonterminal_unprobing _ _ _ _

theorem zeroCostReceipt_unprobing (lease : Lease) (reason : String) :
    Unprobing (zeroCostReceipt svc lease reason) := by
  refine (capacitySpec_unprobing _).bind fun spec => ?_
  exact now_unprobing.bind fun t => avoids_ofExcept _

theorem revokeAndRelease_unprobing (lease : Lease) : Unprobing (revokeAndRelease svc lease) := by
  unfold revokeAndRelease
  split
  · trivial
  · refine requireCapabilityStore_unprobing.bind fun _ => ?_
    refine (capacitySpec_unprobing _).bind fun spec => ?_
    refine (await_unprobing rfl).bind fun _ => ?_
    refine (required_unprobing _).bind fun current => ?_
    split
    · trivial
    · exact now_unprobing.bind fun t => compareAndSet_unprobing _ _

theorem settleZero_unprobing (lease : Lease) (changes : Changes) (receipt : BillingReceipt)
    (t : Instant) : Unprobing (settleZero svc lease changes receipt t) := by
  refine (transitionWithEvidence_unprobing _ _ _ _ _ _ _).bind fun released => ?_
  split
  · exact revokeAndRelease_unprobing _
  · trivial

theorem settleBilling_unprobing (lease : Lease) (receipt : BillingReceipt) :
    Unprobing (settleBilling svc lease receipt) := by
  refine Avoids.bind ?_ fun reconciled => revokeAndRelease_unprobing _
  refine except_unprobing (transitionWithEvidence_unprobing _ _ _ _ _ _ _) fun x => ?_
  refine (required_unprobing _).bind fun current => ?_
  split <;> trivial

theorem reconcileBilling_unprobing (lease : Lease) :
    Unprobing (reconcileBilling svc lease) := by
  unfold reconcileBilling
  split
  · trivial
  · split
    · exact revokeAndRelease_unprobing _
    · split
      · split
        · exact compareAndSet_unprobing _ _
        · exact (zeroCostReceipt_unprobing _ _).bind fun receipt => settleBilling_unprobing _ _
      · split
        · trivial
        · split
          · exact compareAndSet_unprobing _ _
          · split
            · exact compareAndSet_unprobing _ _
            · refine (await_unprobing rfl).bind fun billed => ?_
              split
              · split
                · trivial
                · exact compareAndSet_unprobing _ _
              · split
                · trivial
                · split
                  · trivial
                  · split
                    · trivial
                    · exact settleBilling_unprobing _ _

theorem resolveUncertainCreation_unprobing (lease : Lease) (reason : String) :
    Unprobing (resolveUncertainCreation svc lease reason) := by
  have recovered : Unprobing (findRecovered lease) := by
    unfold findRecovered
    split <;> exact (await_unprobing rfl).bind fun found => trivial
  refine Avoids.bind (except_unprobing (recovered.bind fun _ => trivial) fun _ => trivial) ?_
  intro found
  split
  · exact recordRetryableFailure_unprobing _ _ _
  · unfold resolveFound
    split
    · exact now_unprobing.bind fun t => transitionWithEvidence_unprobing _ _ _ _ _ _ _
    · refine now_unprobing.bind fun t => ?_
      split <;> exact transitionNonterminal_unprobing _ _ _ _

theorem countStopAttempt_unprobing (token : String) (fuel : Nat) (lease : Lease) :
    Unprobing (countStopAttempt token fuel lease) := by
  induction fuel generalizing lease with
  | zero => trivial
  | succ fuel ih =>
      unfold countStopAttempt
      split
      · trivial
      · refine except_unprobing (compareAndSet_unprobing _ _) fun _ => ?_
        exact (required_unprobing _).bind fun lease => ih lease

theorem stopCapacity_unprobing (token reason : String) (lease : Lease) :
    Unprobing (stopCapacity svc token reason lease) := by
  have ends : ∀ lease, Unprobing (endCapacity lease) := by
    intro lease
    refine (podId_unprobing _).bind fun pod => ?_
    split <;> exact await_unprobing rfl
  refine (countStopAttempt_unprobing _ _ _).bind fun counted => ?_
  split
  · trivial
  · refine Avoids.bind (except_unprobing ((ends _).bind fun _ => trivial) fun x => ?_) ?_
    · refine (recordRetryableFailure_unprobing _ _ _).bind fun failed => ?_
      split <;> trivial
    · intro confirmed
      split
      · trivial
      · refine now_unprobing.bind fun t => ?_
        refine (transitionWithEvidence_unprobing _ _ _ _ _ _ _).bind fun released => ?_
        split
        · exact reconcileBilling_unprobing _
        · trivial
      · refine now_unprobing.bind fun t => ?_
        refine (transitionNonterminal_unprobing _ _ _ _).bind fun pending => ?_
        split <;> trivial

theorem releaseOne_unprobing (token reason : String) : Unprobing (releaseOne svc token reason) := by
  refine (required_unprobing _).bind fun lease => ?_
  split
  · trivial
  · split
    · exact reconcileBilling_unprobing _
    · split
      · exact now_unprobing.bind fun t => transitionNonterminal_unprobing _ _ _ _
      · have decided : Unprobing (decideCreation svc lease reason) := by
          unfold decideCreation
          split
          · refine (resolveUncertainCreation_unprobing _ _).bind fun resolved => ?_
            split <;> trivial
          · trivial
        refine decided.bind fun lease => ?_
        split
        · refine now_unprobing.bind fun t => ?_
          split
          · refine (zeroCostReceipt_unprobing _ _).bind fun receipt => ?_
            exact settleZero_unprobing _ _ _ _
          · refine (transitionWithEvidence_unprobing _ _ _ _ _ _ _).bind fun released => ?_
            split
            · exact revokeAndRelease_unprobing _
            · trivial
        · refine Avoids.bind ?_ fun lease => stopCapacity_unprobing _ _ _
          unfold beginReleasing
          split
          · exact now_unprobing.bind fun t => transitionNonterminal_unprobing _ _ _ _
          · trivial

theorem raiseAfterCleanup_unprobing (lease : Lease) (operation : String) :
    Unprobing (raiseAfterCleanup svc lease operation : Co α) :=
  (releaseOne_unprobing _ _).bind fun _ => trivial

theorem cleanupCancelledAcquisition_unprobing (token operation : String) :
    Unprobing (cleanupCancelledAcquisition svc token operation : Co α) :=
  (awaitOwned_unprobing (releaseOne_unprobing _ _)).bind fun _ => trivial

theorem heartbeat_unprobing (token : String) : Unprobing (heartbeat token) := by
  refine (required_unprobing _).bind fun lease => ?_
  split
  · trivial
  · exact now_unprobing.bind fun t => compareAndSet_unprobing _ _

theorem enforceReadinessDeadline_unprobing (lease : Lease) :
    Unprobing (enforceReadinessDeadline svc lease) := by
  refine now_unprobing.bind fun t => ?_
  split
  · trivial
  · exact raiseAfterCleanup_unprobing _ _

theorem acquireCreated_unprobing (lease : Lease) : Unprobing (acquireCreated svc lease) := by
  refine now_unprobing.bind fun t => ?_
  refine (compareAndSet_unprobing _ _).bind fun claimed => ?_
  refine Avoids.bind (except_unprobing ?_ fun x => ?_) fun created => ?_
  · refine (await_unprobing rfl).bind fun created => ?_
    split <;> trivial
  · unfold createFailed
    split
    · refine (required_unprobing _).bind fun current => ?_
      exact cleanupCancelledAcquisition_unprobing _ _
    · refine now_unprobing.bind fun t => (required_unprobing _).bind fun current => ?_
      refine (transitionWithEvidence_unprobing _ _ _ _ _ _ _).bind fun lease => ?_
      exact (releaseOne_unprobing _ _).bind fun _ => trivial
    · refine (recordRetryableFailure_unprobing _ _ _).bind fun lease => ?_
      split
      · trivial
      · refine (releaseOne_unprobing _ _).bind fun _ => ?_
        exact (required_unprobing _).bind fun _ => trivial
    · refine now_unprobing.bind fun t => Avoids.bind ?_ fun released => trivial
      unfold releaseRejected
      split
      · refine (zeroCostReceipt_unprobing _ _).bind fun receipt => ?_
        exact now_unprobing.bind fun t => settleZero_unprobing _ _ _ _
      · refine (transitionWithEvidence_unprobing _ _ _ _ _ _ _).bind fun released => ?_
        split
        · exact revokeAndRelease_unprobing _
        · trivial
  · refine now_unprobing.bind fun t => (required_unprobing _).bind fun current => ?_
    exact transitionWithEvidence_unprobing _ _ _ _ _ _ _

end

/-! ## Probing tasks -/

/-- Only a probe of this lease may have been passed over. -/
def PassedOnly (h : Past) (token : String) : Prop := ∀ other, PassedOver h other → other = token

theorem Attentive.passedOnly {h : Past} (attentive : Attentive h) (token : String) :
    PassedOnly h token := fun other passed => absurd passed (attentive other)

/-- The answer to a probe of an attentive task. -/
theorem Attentive.answered {h : Past} {token : String} {id : Nat} {call : Call}
    (attentive : Attentive h) (outcome : Except Exn call.Value) :
    PassedOnly ((⟨.recv id call, outcome⟩ : Event Effects) ::
      (⟨.send token call, id⟩ : Event Effects) :: h) token := by
  rintro other ⟨newer, id', call', outcome', older, is, read, failed, passed, unseen⟩
  cases newer with
  | nil =>
      cases is
      rfl
  | cons first newer =>
      have rest := (List.cons.inj is).2
      have asked : Attentive ((⟨.send token call, id⟩ : Event Effects) :: h) :=
        attentive.cons_other fun probed => probed
      exact absurd ⟨newer, id', call', outcome', older, rest, read, failed, passed,
        fun e member => unseen e (List.mem_cons_of_mem _ member)⟩ (asked other)

/-- A task makes a probe and receives its answer. -/
theorem await_watching {h : Past} {token : String} {call : Call} {done : Past → call.Value → Prop}
    {failed : Past → Exn → Prop} (attentive : Attentive h)
    (normal : ∀ id value, done ((⟨.recv id call, .ok value⟩ : Event Effects) ::
      (⟨.send token call, id⟩ : Event Effects) :: h) value)
    (raised : ∀ id x, failed ((⟨.recv id call, .error x⟩ : Event Effects) ::
      (⟨.send token call, id⟩ : Event Effects) :: h) x) :
    (await token call).Obeys watching done failed h := by
  refine ⟨attentive.permits fun probed => probed, fun id _ => ?_⟩
  have asked : Attentive ((⟨.send token call, id⟩ : Event Effects) :: h) :=
    attentive.cons_other fun probed => probed
  refine ⟨⟨fun other passed => absurd passed (asked other), ?_⟩, fun outcome _ => ?_⟩
  · rintro id' call' is probes
    cases is
    exact ⟨token, h, rfl⟩
  · cases outcome with
    | ok value => exact normal id value
    | error x => exact raised id x

/-- The read after a probe of the lease. -/
theorem required_watching {h : Past} {token : String} {done : Past → Lease → Prop}
    {failed : Past → Exn → Prop} (only : PassedOnly h token)
    (attentive : ∀ h' row, Attentive h' → row.state = .starting → done h' row)
    (left : ∀ h' row, row.state ≠ .starting → done h' row)
    (missing : ∀ h' x, Attentive h' → failed h' x) :
    (required token).Obeys watching done failed h := by
  have permitted : watching.permits h (.get token) := by
    refine ⟨fun other passed => by rw [only other passed], ?_⟩
    intro id call is
    cases is
  refine ⟨permitted, fun found _ => ?_⟩
  cases found with
  | none =>
      refine missing _ _ (attentive_of_starting ?_)
      intro row is
      cases is
  | some row =>
      by_cases starting : row.state = .starting
      · refine attentive _ row (attentive_of_starting ?_) starting
        intro other is
        cases is
        exact starting
      · exact left _ row starting

/-- How a probe leaves the task: attentive, or settled on a lease that has left STARTING. -/
def Readiness.Safe (h : Past) (readiness : Readiness) : Prop :=
  Attentive h ∨ ∃ lease, readiness = .settled lease ∧ lease.state ≠ .starting

/-- How a probe raises: attentive, or with an exception that is no failure of readiness. -/
def Exn.Safe (h : Past) (x : Exn) : Prop := Attentive h ∨ x.failsReadiness = false

/-- The answer to a failed probe is passed over, or handled by an attentive task. -/
theorem Attentive.raised {h : Past} {token : String} {id : Nat} {call : Call} {x : Exn}
    (attentive : Attentive h)
    (handled : x.failsReadiness = true → ¬ passes call (.error x)) :
    Exn.Safe ((⟨.recv id call, .error x⟩ : Event Effects) ::
      (⟨.send token call, id⟩ : Event Effects) :: h) x := by
  cases fails : x.failsReadiness with
  | false => exact .inr fails
  | true =>
      refine .inl (Attentive.cons (attentive.cons_other fun probed => probed)
        fun id' call' outcome is failed passed => ?_)
      cases is
      exact handled fails passed

section

variable {svc : Service} {h : Past}

/-- The ends of a task that makes no probe. -/
theorem Unprobing.settles {p : Co Readiness} (avoids : Unprobing p) (attentive : Attentive h) :
    p.Obeys watching Readiness.Safe Exn.Safe h :=
  (avoids.obeys attentive).weaken (fun _ _ _ kept => .inl kept) fun _ _ _ kept => .inl kept

theorem probeWorker_watching (lease : Lease) (url : String) (attentive : Attentive h) :
    (probeWorker svc lease url).Obeys watching Readiness.Safe Exn.Safe h := by
  refine obeys_except.mpr ?_
  rw [bind_eq, obeys_bind]
  unfold requireWorkloadTransport
  split
  · rw [obeys_pure, bind_eq, obeys_bind]
    refine await_watching attentive (fun id value => ?_) fun id x => ⟨fun caught => ?_, ?_⟩
    · have asked : Attentive ((⟨.send lease.cleanupToken (.health url), id⟩ : Event Effects) :: h) :=
        attentive.cons_other fun probed => probed
      refine .inl (asked.cons fun id' call outcome is failed => ?_)
      cases is
      exact failed.elim
    · rw [bind_eq, obeys_bind]
      refine required_watching (attentive.answered _) (fun h' row kept starting => ?_)
        (fun h' row left => ?_) fun h' x kept => .inl kept
      · rw [if_neg (not_not.mpr starting)]
        refine Unprobing.settles ?_ kept
        refine now_unprobing.bind fun heartbeatAt => ?_
        exact (transitionWithEvidence_unprobing _ _ _ _ _ _ _).bind fun _ => trivial
      · rw [if_pos left]
        exact .inr ⟨row, rfl, left⟩
    · intro uncaught
      refine attentive.raised fun fails passed => ?_
      rcases passed with transport | other
      · rw [uncaught] at transport
        cases transport
      · rw [fails] at other
        cases other
  · refine ⟨fun caught => ?_, fun _ => .inl attentive⟩
    cases caught

theorem pollReadiness_watching (lease : Lease) (attentive : Attentive h) :
    (pollReadiness svc lease).Obeys watching Readiness.Safe Exn.Safe h := by
  refine (podId_unprobing lease).followed attentive (fun h pod attentive => ?_)
    fun _ _ kept => .inl kept
  rw [bind_eq, obeys_bind]
  refine await_watching attentive (fun id observation => ?_) fun id x => ?_
  · rw [bind_eq, obeys_bind]
    refine required_watching (attentive.answered _) (fun h row attentive starting => ?_)
      (fun h row left => ?_) fun _ _ kept => .inl kept
    · rw [if_neg (not_not.mpr starting)]
      refine now_unprobing.followed attentive (fun h t attentive => ?_) fun _ _ kept => .inl kept
      refine (transitionWithEvidence_unprobing _ _ _ _ _ _ _).followed attentive
        (fun h lease attentive => ?_) fun _ _ kept => .inl kept
      split
      · exact .inl attentive
      · split
        · exact (raiseAfterCleanup_unprobing _ _).settles attentive
        · split
          · split
            · exact .inl attentive
            · split
              · exact probeWorker_watching _ _ attentive
              · exact .inl attentive
          · exact .inl attentive
    · rw [if_pos left]
      exact .inr ⟨row, rfl, left⟩
  · refine attentive.raised fun fails passed => ?_
    have passed : x.failsReadiness = false := passed
    rw [fails] at passed
    cases passed

/-- The handlers run attentively, or not at all. -/
theorem readinessFailed_watching (token : String) {x : Exn} (safe : x.Safe h)
    (caught : (x = .cancelled || x.isManager) = true) :
    (readinessFailed svc token x).Obeys watching Readiness.Safe (fun _ _ => True) h := by
  rcases safe with attentive | other
  · refine Obeys.weaken (Unprobing.settles (p := readinessFailed svc token x) ?_ attentive)
      (fun _ _ _ kept => kept) fun _ _ _ _ => trivial
    unfold readinessFailed
    split
    · exact cleanupCancelledAcquisition_unprobing _ _
    · split
      · trivial
      · refine (required_unprobing _).bind fun current => ?_
        refine (recordRetryableFailure_unprobing _ _ _).bind fun lease => ?_
        exact raiseAfterCleanup_unprobing _ _
  · have lifecycle : x.isLifecycle = true := by
      cases x <;> simp_all [Exn.failsReadiness, Exn.isManager, Exn.isLifecycle]
    have uncancelled : x ≠ .cancelled := by
      rintro rfl
      cases lifecycle
    unfold readinessFailed
    rw [if_neg uncancelled, if_pos lifecycle]
    trivial

/-- How an observation ends: attentive, or with a lease that has left STARTING. -/
def Observed (h : Past) (lease : Lease) : Prop := Attentive h ∨ lease.state ≠ .starting

theorem observeReadiness_watching (token : String) (attentive : Attentive h) :
    (observeReadiness svc token).Obeys watching Observed (fun _ _ => True) h := by
  refine (required_unprobing token).followed attentive (fun h lease attentive => ?_)
    fun _ _ _ => trivial
  split
  · exact .inl attentive
  · refine (enforceReadinessDeadline_unprobing lease).followed attentive
      (fun h lease attentive => ?_) fun _ _ _ => trivial
    have guarded : (except (pollReadiness svc lease) (fun x => x = .cancelled || x.isManager)
        (readinessFailed svc token)).Obeys watching Readiness.Safe (fun _ _ => True) h :=
      obeys_except.mpr ((pollReadiness_watching lease attentive).weaken
        (fun _ _ _ safe => safe) fun h x _ safe =>
          ⟨fun caught => readinessFailed_watching token safe caught, fun _ => trivial⟩)
    rw [bind_eq, obeys_bind]
    refine guarded.weaken (fun h readiness _ safe => ?_) fun _ _ _ _ => trivial
    cases readiness with
    | settled lease =>
        rcases safe with attentive | ⟨_, is, left⟩
        · exact .inl attentive
        · cases is
          exact .inr left
    | routeReady lease =>
        rcases safe with attentive | ⟨_, is, _⟩
        · refine (required_unprobing token).followed attentive (fun h current attentive => ?_)
            fun _ _ _ => trivial
          split
          · exact .inl attentive
          · refine (enforceReadinessDeadline_unprobing current).followed attentive
              (fun h current attentive => ?_) fun _ _ _ => trivial
            refine now_unprobing.followed attentive (fun h t attentive => ?_) fun _ _ _ => trivial
            exact ((transitionWithEvidence_unprobing _ _ _ _ _ _ _).obeys attentive).weaken
              (fun _ _ _ kept => .inl kept) fun _ _ _ _ => trivial
        · cases is

theorem waitReady_watching (fuel : Nat) (lease : Lease) (attentive : Attentive h) :
    (waitReady svc fuel lease).Obeys watching (fun _ _ => True) (fun _ _ => True) h := by
  induction fuel generalizing lease h with
  | zero => trivial
  | succ fuel ih =>
      unfold waitReady
      rw [bind_eq, obeys_bind]
      refine (observeReadiness_watching _ attentive).weaken (fun h lease _ observed => ?_)
        fun _ _ _ _ => trivial
      split
      · trivial
      next starting =>
        have attentive : Attentive h := observed.resolve_right starting
        refine Unprobing.followed ?_ attentive (fun h _ attentive => ih lease attentive)
          fun _ _ _ => trivial
        exact except_unprobing (await_unprobing rfl) fun _ =>
          cleanupCancelledAcquisition_unprobing _ _

/-- A task that has not read the lease yet makes no readiness probe of it. -/
theorem Unread.asked {token : String} {call : Call} (unread : Unread h) :
    (await token call).Obeys watching (fun h' _ => Attentive h') (fun h' _ => Attentive h') h := by
  have asked : ∀ id, Unread ((⟨.send token call, id⟩ : Event Effects) :: h) := fun id =>
    unread.cons_other fun _ is => by cases is
  have answered : ∀ id outcome, Attentive ((⟨.recv id call, outcome⟩ : Event Effects) ::
      (⟨.send token call, id⟩ : Event Effects) :: h) := fun id outcome =>
    ((asked id).cons_other fun _ is => by cases is).attentive
  exact await_watching unread.attentive (fun id value => answered id (.ok value)) fun id x =>
    answered id (.error x)

/-- The task neither probes nor reads a lease. -/
abbrev Unreading {α : Type} (p : Co α) : Prop :=
  p.Avoids fun op : Op => op.probed ∨ ∃ token, op = .get token

theorem Unreading.followed {α β : Type} {p : Co α} {f : α → Co β} {done : Past → β → Prop}
    (unreading : Unreading p) (unread : Unread h)
    (next : ∀ h' a, Unread h' → (f a).Obeys watching done (fun _ _ => True) h') :
    (p.bind f).Obeys watching done (fun _ _ => True) h := by
  have kept : p.Obeys watching (fun h' _ => Unread h') (fun h' _ => Unread h') h := by
    refine Avoids.obeys unreading (fun h op unread other => ⟨?_, fun reply => ?_⟩) unread
    · exact unread.attentive.permits fun probed => other (.inl probed)
    · exact unread.cons_other fun token is => other (.inr ⟨token, is⟩)
  exact obeys_bind.mpr (kept.weaken (fun h' a _ unread => next h' a unread) fun _ _ _ _ => trivial)

theorem podId_unreading (lease : Lease) : Unreading (podId lease) := by
  unfold podId
  split
  · split <;> trivial
  · trivial

theorem profile_unreading (profileId : String) : Unreading (profile svc profileId) := by
  unfold profile
  split <;> trivial

theorem requireWorkloadTransport_unreading : Unreading (requireWorkloadTransport svc) := by
  unfold requireWorkloadTransport
  split <;> trivial

theorem requireCapabilityStore_unreading : Unreading (requireCapabilityStore svc) := by
  unfold requireCapabilityStore
  split <;> trivial

theorem validateCapability_unreading (request : CapacityRequest) (capability : Capability) :
    Unreading (validateCapability request capability) := by
  unfold validateCapability
  split <;> trivial

theorem await_unreading {token : String} {call : Call} (other : call.probes = false) :
    Unreading (await token call) := by
  refine ⟨?_, fun id => ⟨?_, fun outcome => avoids_ofExcept _⟩⟩
  · rintro (probed | ⟨other, is⟩)
    · exact probed
    · cases is
  · rintro (probes | ⟨other, is⟩)
    · have probes : call.probes = true := probes
      rw [other] at probes
      cases probes
    · cases is

theorem now_unreading : Unreading now := by
  refine ⟨?_, fun _ => trivial⟩
  rintro (probed | ⟨token, is⟩)
  · exact probed
  · cases is

theorem releaseUnownedClaim_unprobing (lease : Lease) (error : Option Exn) :
    Unprobing (releaseUnownedClaim svc lease error) :=
  now_unprobing.bind fun _ => transitionNonterminal_unprobing _ _ _ _

theorem startExisting_unprobing (lease : Lease) (pod : String) (gpuCount : Nat) :
    Unprobing (startExisting svc lease pod gpuCount) := by
  refine except_unprobing (await_unprobing rfl) fun x => ?_
  split
  · exact cleanupCancelledAcquisition_unprobing _ _
  · refine (recordRetryableFailure_unprobing _ _ _).bind fun lease => ?_
    refine (releaseOne_unprobing _ _).bind fun _ => ?_
    exact (required_unprobing _).bind fun _ => trivial

theorem discoverExisting_watching (lease : Lease) (pod : String) (unread : Unread h) :
    (discoverExisting svc lease pod).Obeys watching (fun h' _ => Attentive h')
      (fun _ _ => True) h := by
  refine obeys_except.mpr (unread.asked.weaken (fun _ _ _ kept => kept)
    fun h x _ attentive => ⟨fun caught => ?_, fun _ => trivial⟩)
  refine Obeys.weaken (Unprobing.obeys ?_ attentive) (fun _ _ _ kept => kept) fun _ _ _ _ => trivial
  split
  · exact (releaseUnownedClaim_unprobing _ _).bind fun _ => trivial
  · exact (releaseUnownedClaim_unprobing _ _).bind fun _ => trivial

theorem acquireExisting_watching (lease : Lease) (gpuCount : Nat) (unread : Unread h) :
    (acquireExisting svc lease gpuCount).Obeys watching (fun h' _ => Attentive h')
      (fun _ _ => True) h := by
  refine (podId_unreading lease).followed unread fun h pod unread => ?_
  rw [bind_eq, obeys_bind]
  refine (discoverExisting_watching lease pod unread).weaken (fun h observation _ attentive => ?_)
    fun _ _ _ _ => trivial
  refine Obeys.weaken (Unprobing.obeys ?_ attentive) (fun _ _ _ kept => kept) fun _ _ _ _ => trivial
  split
  · exact now_unprobing.bind fun _ => compareAndSet_unprobing _ _
  · split
    · refine now_unprobing.bind fun _ => (compareAndSet_unprobing _ _).bind fun lease => ?_
      refine (startExisting_unprobing _ _ _).bind fun _ => ?_
      refine (required_unprobing _).bind fun current => ?_
      exact now_unprobing.bind fun _ => compareAndSet_unprobing _ _
    · exact (releaseUnownedClaim_unprobing _ _).bind fun _ => trivial

/-- An acquisition of any kind, whether or not it waits for its Pod. -/
theorem acquireLease_watching (request : PodRequest) (waits : Bool) (unread : Unread h) :
    (acquireLease svc request waits).Obeys watching (fun _ _ => True) (fun _ _ => True) h := by
  unfold acquireLease
  split
  · trivial
  · refine ⟨unread.attentive.permits fun probed => probed, fun reply _ => ?_⟩
    have unread : Unread ((⟨.reserve request, reply⟩ : Event Effects) :: h) :=
      unread.cons_other fun _ is => by cases is
    refine (Unreading.followed (avoids_ofExcept reply) unread fun h claim unread => ?_)
    obtain ⟨lease, inserted⟩ := claim
    dsimp only
    split
    · refine Obeys.weaken (Unprobing.obeys ?_ unread.attentive) (fun _ _ _ _ => trivial)
        fun _ _ _ _ => trivial
      split
      · exact heartbeat_unprobing _
      · trivial
    · refine (profile_unreading _).followed unread fun h gpuCount unread => ?_
      have acquired : (acquirePod svc request.source lease gpuCount).Obeys watching
          (fun h' _ => Attentive h') (fun _ _ => True) h := by
        unfold acquirePod
        split
        · exact ((acquireCreated_unprobing _).obeys unread.attentive).weaken
            (fun _ _ _ kept => kept) fun _ _ _ _ => trivial
        · exact acquireExisting_watching _ _ unread
      rw [bind_eq, obeys_bind]
      refine acquired.weaken (fun h lease _ attentive => ?_) fun _ _ _ _ => trivial
      split
      · exact waitReady_watching _ _ attentive
      · trivial

theorem replayCatalog_unprobing (request : CapacityRequest)
    (environment : List (String × String)) (waits : Bool) (existing : Lease) :
    Unprobing (replayCatalog svc request environment waits existing) := by
  refine (capacitySpec_unprobing _).bind fun spec => ?_
  split
  · trivial
  · split
    · exact heartbeat_unprobing _
    · trivial

theorem acquireCatalog_watching (request : CapacityRequest) (environment : List (String × String))
    (waits : Bool) (unread : Unread h) :
    (acquireCatalog svc request environment waits).Obeys watching (fun _ _ => True)
      (fun _ _ => True) h := by
  refine requireWorkloadTransport_unreading.followed unread fun h _ unread => ?_
  split
  · trivial
  · refine ⟨unread.attentive.permits fun probed => probed, fun existing _ => ?_⟩
    cases existing with
    | some existing =>
        refine Obeys.weaken (Unprobing.obeys (replayCatalog_unprobing _ _ _ _)
          (unread.attentive.cons_other fun probed => probed)) (fun _ _ _ _ => trivial)
          fun _ _ _ _ => trivial
    | none =>
        have unread : Unread ((⟨.get request.capacityId, none⟩ : Event Effects) :: h) := by
          refine unread.cons fun token shows => ?_
          cases shows.2
        refine now_unreading.followed unread fun h readAt unread => ?_
        split
        · trivial
        · split
          · trivial
          · refine requireCapabilityStore_unreading.followed unread fun h _ unread => ?_
            refine (await_unreading rfl).followed unread fun h capability unread => ?_
            refine (validateCapability_unreading _ _).followed unread fun h _ unread => ?_
            refine now_unreading.followed unread fun h admittedAt unread => ?_
            split
            · trivial
            · refine Unreading.followed (avoids_ofExcept _) unread fun h spec unread => ?_
              refine Unreading.followed (avoids_ofExcept _) unread fun h internal unread => ?_
              exact acquireLease_watching _ _ unread

theorem pollCatalogReadiness_watching (capacityId ownerId workloadId : String)
    (attentive : Attentive h) :
    (pollCatalogReadiness svc capacityId ownerId workloadId).Obeys watching (fun _ _ => True)
      (fun _ _ => True) h := by
  have located : Unprobing (catalogLease capacityId ownerId workloadId) := by
    refine (getLease_unprobing _).bind fun found => ?_
    split
    · trivial
    · refine (capacitySpec_unprobing _).bind fun spec => ?_
      split <;> trivial
  refine located.followed attentive (fun h lease attentive => ?_) fun _ _ _ => trivial
  split
  · trivial
  · split
    · trivial
    · refine (heartbeat_unprobing _).followed attentive (fun h lease attentive => ?_)
        fun _ _ _ => trivial
      refine (profile_unprobing _).followed attentive (fun h _ attentive => ?_)
        fun _ _ _ => trivial
      exact (observeReadiness_watching _ attentive).weaken (fun _ _ _ _ => trivial)
        fun _ _ _ _ => trivial

end

/-! ## Late failures in a run -/

/-- The lease is ready or at work. -/
def PodState.isLive : PodState → Bool
  | .ready | .jobSubmitted | .jobCompleted => true
  | _ => false

/-- A task that observes the readiness of a lease. -/
inductive Polls (svc : Service) : Co Unit → Prop
  | poll (capacityId ownerId workloadId : String) :
      Polls svc (pollCatalogReadiness svc capacityId ownerId workloadId).void
  | acquireCatalog (request : CapacityRequest) (environment : List (String × String))
      (waits : Bool) : Polls svc (acquireCatalog svc request environment waits).void
  | acquire (request : PodRequest) : Polls svc (acquire svc request).void

theorem Polls.watching {svc : Service} {p : Co Unit} (polls : Polls svc p) :
    p.Obeys watching (fun _ _ => True) (fun _ _ => True) [] := by
  have unread : Unread [] := fun _ _ member => by cases member
  cases polls with
  | poll capacityId ownerId workloadId =>
      exact (pollCatalogReadiness_watching _ _ _ unread.attentive).void.weaken
        (fun _ _ _ _ => trivial) fun _ _ _ _ => trivial
  | acquireCatalog request environment waits =>
      exact (acquireCatalog_watching _ _ _ unread).void.weaken (fun _ _ _ _ => trivial)
        fun _ _ _ _ => trivial
  | acquire request =>
      exact (acquireLease_watching _ _ unread).void.weaken (fun _ _ _ _ => trivial)
        fun _ _ _ _ => trivial

/-- The lease that the last request of a task was about. -/
def asks : Past → Option String
  | ⟨.send token _, _⟩ :: _ => some token
  | _ => none

/-- The event is the failure of a probe. -/
def failure : Event Effects → Prop
  | ⟨.recv _ call, outcome⟩ => failedProbe call outcome
  | _ => False

/-- The event is no failure of a probe that the handlers of `_observe_readiness` act on. -/
def passing : Event Effects → Prop
  | ⟨.recv _ call, outcome⟩ => passes call outcome
  | _ => True

/-- A readiness probe of the lease fails late: the lease is live. -/
def FailsLate (w : World) (past : Past) (token : String) (e : Event Effects) : Prop :=
  asks past = some token ∧ (∃ e ∈ past, showsStarting token e) ∧ failure e ∧
    ∃ row ∈ w.rows, row.cleanupToken = token ∧ row.state.isLive = true

/-- The event tears the lease down, or ends its Pod. -/
def tearsDown (token : String) : Event Effects → Prop
  | ⟨.compareAndSet _ _, reply⟩ => (reply : Except Exn Lease).toOption.any
      (fun row => row.cleanupToken = token && row.state.isStop) = true
  | ⟨.send other (.stop _), _⟩ => other = token
  | ⟨.send other (.terminate _), _⟩ => other = token
  | _ => False

instance (token : String) (e : Event Effects) : Decidable (showsStarting token e) := by
  obtain ⟨op, reply⟩ := e
  cases op <;> (unfold showsStarting; infer_instance)

instance (e : Event Effects) : Decidable (failure e) := by
  obtain ⟨op, reply⟩ := e
  cases op <;> first | exact isFalse id | exact inferInstanceAs (Decidable (failedProbe _ _))

instance (e : Event Effects) : Decidable (passing e) := by
  obtain ⟨op, reply⟩ := e
  cases op <;> first | exact isTrue trivial | exact inferInstanceAs (Decidable (passes _ _))

instance (token : String) (e : Event Effects) : Decidable (tearsDown token e) :=
  match e with
  | ⟨.compareAndSet _ _, _⟩ => instDecidableEqBool _ _
  | ⟨.send other (.stop _), _⟩ | ⟨.send other (.terminate _), _⟩ =>
      inferInstanceAs (Decidable (other = token))
  | ⟨.send _ (.observe _), _⟩ | ⟨.send _ (.start ..), _⟩ | ⟨.send _ (.create ..), _⟩
  | ⟨.send _ (.findByName _), _⟩ | ⟨.send _ (.findExact ..), _⟩
  | ⟨.send _ (.finalBilling ..), _⟩ | ⟨.send _ (.loadOrCreate ..), _⟩ | ⟨.send _ (.load _), _⟩
  | ⟨.send _ (.revoke _), _⟩ | ⟨.send _ (.health _), _⟩ | ⟨.send _ (.submit ..), _⟩
  | ⟨.send _ (.status ..), _⟩ | ⟨.send _ (.result ..), _⟩ | ⟨.send _ (.acknowledge ..), _⟩
  | ⟨.send _ (.recoverHandoff ..), _⟩ | ⟨.send _ (.cancel ..), _⟩
  | ⟨.send _ .workloadStatus, _⟩ | ⟨.send _ .sleep, _⟩ => .isFalse id
  | ⟨.reserve _, _⟩ | ⟨.get _, _⟩ | ⟨.listCleanupFamily .., _⟩
  | ⟨.listIncompleteFamilyReleases, _⟩ | ⟨.listForReconciliation, _⟩ | ⟨.now, _⟩
  | ⟨.mergeEvidence .., _⟩ | ⟨.recv .., _⟩ | ⟨.joined, _⟩ => .isFalse id

instance (w : World) (past : Past) (token : String) (e : Event Effects) :
    Decidable (FailsLate w past token e) := by
  unfold FailsLate
  infer_instance

/-- Late failures of task `i` do not reach the handlers. -/
def passingLate (i : Nat) : Restriction Effects World := fun w log j e =>
  j = i → ∀ token ∈ asks (log.of i), FailsLate w (log.of i) token e → passing e

instance (i : Nat) (w : World) (log : Log Effects) (j : Nat) (e : Event Effects) :
    Decidable (passingLate i w log j e) := by
  unfold passingLate
  infer_instance

/-- Late failures are spared, in the runs under a restriction for the probing task: whatever
else goes on, a task does not tear a lease down after a probe of it that failed late. -/
def LateFailuresSpare (d : Digests) (callers : Callers) (svc : Service)
    (K : Nat → Restriction Effects World) (clock : Instant) : Prop :=
  ∀ (start before after c : Config Effects Exn World) i p token e later,
    ServiceRun d callers anyMove clock start → start.tasks i = some p → Polls svc p →
    start.log.of i = [] →
    Run (runtime d) (Admits d callers) (K i) start before →
    Step (runtime d) (Admits d callers) (K i) before after →
    after.log = (i, e) :: before.log → FailsLate before.world (before.log.of i) token e →
    Run (runtime d) (Admits d callers) (K i) after c →
    c.log.of i = later ++ after.log.of i → ∀ e ∈ later, ¬ tearsDown token e

variable {d : Digests} {callers : Callers} {K : Restriction Effects World} {clock : Instant}
  {m : Moment Effects World} {svc : Service}

/-- The lease has been claimed and started. -/
def PodState.isBegun (state : PodState) : Prop := state ≠ .requested ∧ state ≠ .starting

theorem isBegun_of_isLive {state : PodState} (live : state.isLive = true) : state.isBegun := by
  cases state <;> simp_all [PodState.isLive, PodState.isBegun]

theorem isBegun_of_isStop {state : PodState} (stop : state.isStop = true) : state.isBegun := by
  cases state <;> simp_all [PodState.isStop, PodState.isBegun]

/-- No write takes a lease back to STARTING. -/
theorem LeaseTrail.stays_begun (trail : LeaseTrail d callers K clock m) :
    Since (fun old now => old.state.isBegun → now.state.isBegun) m := by
  refine trail.since (fun _ => id) (fun a b c ab bc begun => bc (ab begun)) ?_
  intro m m' i cur write changes before move member guarded makes log begun
  obtain ⟨evidence, rfl⟩ := makes.columns
  rw [Lease.apply_state]
  dsimp only
  cases sets : write.base.state with
  | none => exact begun
  | some state =>
      rw [Option.getD_some]
      rcases Write.base_state sets with stop | onward
      · exact isBegun_of_isStop stop
      -- The writes that start a lease have just inserted it.
      · have claimed : ∀ {i : Nat}, Inserted (m.log.of i) cur → state.isBegun := by
          intro i inserted
          obtain ⟨request, evidence', is⟩ := LeaseTrail.inserted_reserved before inserted
          rw [is] at begun
          exact absurd rfl begun.1
        cases onward with
        | foundRunning url t => exact claimed guarded.1
        | foundStopped t => exact claimed guarded.1
        | claimCreate t => exact claimed guarded.1
        | observed observation submitted t changes phases state sets =>
            obtain ⟨_, spec, _, _, _, ok, _⟩ := guarded
            obtain ⟨handoff, observed⟩ := catalogObservationChanges_ok ok
            rcases (observed.state sets).2 with rfl | rfl | rfl <;> exact ⟨nofun, nofun⟩
        | _ => exact ⟨nofun, nofun⟩

/-- A read of a lease that was once begun does not show it starting. -/
theorem LeaseTrail.unseen (trail : LeaseTrail d callers K clock m) {token : String}
    {reply : Option Lease} {w : World} {row : Lease} (committed : Committed m.log row)
    (own : row.cleanupToken = token) (begun : row.state.isBegun)
    (performed : perform d m.world ⟨.get token, reply⟩ = some w) :
    ¬ readsStarting ⟨.get token, reply⟩ := by
  intro starting
  have starting : ∀ row : Lease, reply = some row → row.state = .starting := starting
  obtain ⟨now, found⟩ := trail.consistent.shows_current committed
  rw [own, (perform_get.mp performed).1] at found
  obtain ⟨member, same⟩ := Rows.get_some ((perform_get.mp performed).1.trans found)
  have kept := trail.stays_begun row committed now member (same.trans own.symm) begun
  exact kept.2 (starting now found)

/-- What a task does after a late failure that was passed over: it reads the lease, which does
not show it starting. -/
def OnlyReads (token : String) (e : Event Effects) : Prop :=
  e.op = .get token ∧ ¬ readsStarting e

theorem PassedOver.cons {h : Past} {token : String} {e : Event Effects}
    (passed : PassedOver h token) (unseen : ¬ readsStarting e) : PassedOver (e :: h) token := by
  obtain ⟨newer, id, call, outcome, older, rfl, read, failed, passes, rest⟩ := passed
  refine ⟨e :: newer, id, call, outcome, older, rfl, read, failed, passes, fun e' member => ?_⟩
  rcases List.mem_cons.mp member with rfl | member
  · exact unseen
  · exact rest e' member

/-- The failure of a probe that the task just made is passed over, if it passes. -/
theorem passedOver_of_failsLate {w : World} {past : Past} {token : String} {e : Event Effects}
    (permitted : watching.permits past e.op) (late : FailsLate w past token e)
    (passes : passing e) : PassedOver (e :: past) token := by
  obtain ⟨asked, ⟨shown, member, shows⟩, failed, _⟩ := late
  obtain ⟨op, outcome⟩ := e
  cases op with
  | recv id call =>
      obtain ⟨other, older, rfl⟩ := permitted.2 id call rfl (failedProbe_probes failed)
      cases asked
      refine ⟨[], id, call, outcome, older, rfl, ⟨shown, ?_, shows⟩, failed, passes, by simp⟩
      rcases List.mem_cons.mp member with rfl | member
      · exact shows.elim
      · exact member
  | _ => exact failed.elim

/-- Along the rest of the run the task only reads. -/
theorem ServiceRun.only_reads {K : Restriction Effects World}
    {start after c : Config Effects Exn World} {i : Nat} {p : Co Unit} {token : String}
    {row : Lease} (run : ServiceRun d callers K clock start) (task : start.tasks i = some p)
    (polls : Polls svc p) (fresh : start.log.of i = [])
    (onward : Run (runtime d) (Admits d callers) K start after)
    (committed : Committed after.log row) (own : row.cleanupToken = token)
    (begun : row.state.isBegun) (passed : PassedOver (after.log.of i) token)
    (rest : Run (runtime d) (Admits d callers) K after c) :
    ∃ later, c.log.of i = later ++ after.log.of i ∧ (∀ e ∈ later, OnlyReads token e) ∧
      PassedOver (c.log.of i) token := by
  induction rest with
  | refl => exact ⟨[], rfl, by simp, passed⟩
  | @tail mid last walked step ih =>
      obtain ⟨later, split, reads, passed⟩ := ih
      have before : Run (runtime d) (Admits d callers) K start mid := onward.trans walked
      rcases step.logged with same | ⟨j, e, log, performed, _⟩
      · exact ⟨later, by rw [same, split], reads, by rwa [same]⟩
      · by_cases own' : j = i
        · subst own'
          have permitted := Run.permits before task fresh polls.watching step log
            fun _ _ => trivial
          have gets : e.op = .get token := permitted.1 token passed
          have unseen : ¬ readsStarting e := by
            obtain ⟨op, reply⟩ := e
            cases gets
            exact LeaseTrail.unseen (ServiceRun.trail (run.trans before))
              (committed.mono (Run.log_suffix walked)) own begun performed
          rw [log, Log.of_cons_self]
          refine ⟨e :: later, by rw [split, List.cons_append], fun e' member => ?_,
            passed.cons unseen⟩
          rcases List.mem_cons.mp member with rfl | member
          · exact ⟨gets, unseen⟩
          · exact reads e' member
        · rw [log, Log.of_cons_ne own']
          exact ⟨later, split, reads, passed⟩

/-- Late failures that do not reach the handlers of `_observe_readiness` are spared.  In every
run, however the tasks interleave: as long as the late failures of a probing task show the Pod,
are raised by a worker that is not healthy yet, or are raised onwards, the task does not tear
the lease down after one. -/
theorem late_probe_spares_lease (d : Digests) (callers : Callers) (svc : Service)
    (clock : Instant) : LateFailuresSpare d callers svc passingLate clock := by
  intro start before after c i p token e later run task polls fresh onward step log late rest
    split e' member teardown
  have relaxed : ∀ {a b}, Run (runtime d) (Admits d callers) (passingLate i) a b →
      Run (runtime d) (Admits d callers) anyMove a b := fun walked =>
    Run.relax (fun _ _ _ _ _ => trivial) walked
  have passes : passing e := (step.act_of_log log).2 rfl token late.1 late
  have permitted := Run.permits onward task fresh polls.watching step log fun _ _ => trivial
  have passed := passedOver_of_failsLate permitted late passes
  obtain ⟨_, _, _, row, there, own, live⟩ := late
  have trail := ServiceRun.trail (run.trans (relaxed onward))
  have committed : Committed after.log row := by
    rw [log, Committed.cons]
    exact .inr (trail.consistent.current row there)
  rw [← Log.of_cons_self (i := i) (e := e), ← log] at passed
  obtain ⟨later', split', reads, _⟩ := ServiceRun.only_reads run task polls fresh
    (relaxed (onward.tail step)) committed own (isBegun_of_isLive live) passed (relaxed rest)
  rw [List.append_cancel_right (split.symm.trans split')] at member
  obtain ⟨op, reply⟩ := e'
  obtain ⟨gets, _⟩ := reads _ member
  cases gets
  exact teardown

/-! ### A late failure -/

/-- A run with a probing task: it starts after the first schedule, receives an answer after the
second, and goes on as in the last. -/
theorem exhibits_probe (first second last : Schedule d callers) (i : Nat) (p : Co Unit)
    (admitted : Admits d callers p) (answer : (call : Call) → Option (Except Exn call.Value))
    (K : Restriction Effects World) [∀ w log j e, Decidable (K w log j e)] (clock : Instant)
    (check : Config Effects Exn World → Config Effects Exn World → Config Effects Exn World → Bool)
    (evaluated : ((first.outcome anyMove clock).any fun c =>
      (c.tasks i).isNone && (c.log.of i).isEmpty &&
      (Config.execute K { c with tasks := Function.update c.tasks i (some p) } second).any
        fun before =>
          (before.act K i (.answering (runtime d) (respond answer))).any fun after =>
            (after.execute K last).any (check before after)) = true) :
    ∃ start before after c e later, ServiceRun d callers anyMove clock start ∧
      start.tasks i = some p ∧ start.log.of i = [] ∧
      Run (runtime d) (Admits d callers) K start before ∧
      Step (runtime d) (Admits d callers) K before after ∧ after.log = (i, e) :: before.log ∧
      Run (runtime d) (Admits d callers) K after c ∧ c.log.of i = later ++ after.log.of i ∧
      check before after c = true := by
  obtain ⟨c₀, run, started⟩ := exhibits first anyMove clock _ evaluated
  rw [Bool.and_eq_true, Bool.and_eq_true] at started
  obtain ⟨⟨free, fresh⟩, probed⟩ := started
  obtain ⟨before, onward, answered⟩ := Config.exhibits _ _ probed
  obtain ⟨after, acted, went⟩ := (Option.any_eq_true _ _).mp answered
  obtain ⟨c, rest, checked⟩ := Config.exhibits _ _ went
  obtain ⟨e, log⟩ := Config.act_log acted
  obtain ⟨later, split⟩ := Log.of_suffix (i := i) (Run.log_suffix rest)
  have spawned : ServiceRun d callers anyMove clock
      { c₀ with tasks := Function.update c₀.tasks i (some p) } :=
    run.tail (.spawn i p (Option.isNone_iff_eq_none.mp free) admitted)
  exact ⟨_, before, after, c, e, later, spawned, Function.update_self _ _ _,
    List.isEmpty_iff.mp fresh, onward, Config.act_step acted, log, rest, split.symm, checked⟩

section

open Sample

/-- Acquire the capacity without waiting for its worker. -/
def started : Schedule digests agreed :=
  [.spawn 0 _ acquires,
    runs 0 9, gets 0 comesUp, runs 0 9, .drift (.accept 1 "pod-00001"),
    gets 0 comesUp, runs 0 20]

/-- The poll of the sample capacity. -/
def poll : Co Unit := (pollCatalogReadiness service "capacity-1" "owner-0001" "workload-1").void

theorem poll_admitted : Admits digests agreed poll :=
  .pollCatalogReadiness service "capacity-1" "owner-0001" "workload-1" configured

/-- A second poll makes the lease ready, and a job is submitted. -/
def overtaken : Schedule digests agreed :=
  [.spawn 2 _ poll_admitted, runs 2 20, gets 2 comesUp, runs 2 20, gets 2 comesUp, runs 2 20,
    .spawn 3 _ (.submitCatalogWorkload service "capacity-1" "owner-0001" "workload-1" configured),
    runs 3 20, gets 3 comesUp, runs 3 20, gets 3 lateResponse.accepts, runs 3 20]

/-- The provider cannot be reached, and the worker is not healthy. -/
def unreachable : (call : Call) → Option (Except Exn call.Value)
  | .observe _ => some (.error (.manager "GET pods failed"))
  | .health _ => some (.error (.transport "health failed"))
  | _ => none

/-- Late failures are not spared in every run: an observation that fails when the job has been
submitted makes the task release the lease and terminate its Pod. -/
theorem late_probe_ends_work :
    ¬ LateFailuresSpare digests agreed service (fun _ => oneLoop) (seconds 250) := by
  intro spared
  obtain ⟨start, before, after, c, e, later, run, task, fresh, onward, step, log, rest, split,
      checked⟩ :=
    exhibits_probe started (runs 1 20 :: overtaken) [runs 1 20] 1 poll poll_admitted unreachable
      oneLoop (seconds 250) (fun before after c =>
        after.log.head?.any (fun entry =>
          FailsLate before.world (before.log.of 1) "capacity-1" entry.2) &&
        (after.log.of 1).all (fun e => ¬ tearsDown "capacity-1" e) &&
        (c.log.of 1).any fun e => tearsDown "capacity-1" e) (by decide +kernel)
  simp only [Bool.and_eq_true, List.all_eq_true, List.any_eq_true, decide_eq_true_eq] at checked
  obtain ⟨⟨late, quiet⟩, torn, member, teardown⟩ := checked
  rw [log, List.head?_cons, Option.any_some, decide_eq_true_eq] at late
  rw [split] at member
  rcases List.mem_append.mp member with member | member
  · exact spared start before after c 1 poll "capacity-1" e later run task (.poll _ _ _) fresh
      onward step log late rest split torn member teardown
  · exact quiet torn member teardown

/-- A health probe that fails when the job has been submitted is spared. -/
theorem late_probe_spares_lease_unhealthy :
    ∃ start before after c e later, ServiceRun digests agreed anyMove (seconds 250) start ∧
      start.tasks 1 = some poll ∧ start.log.of 1 = [] ∧
      Run (runtime digests) (Admits digests agreed) (passingLate 1) start before ∧
      Step (runtime digests) (Admits digests agreed) (passingLate 1) before after ∧
      after.log = (1, e) :: before.log ∧
      FailsLate before.world (before.log.of 1) "capacity-1" e ∧
      Run (runtime digests) (Admits digests agreed) (passingLate 1) after c ∧
      c.log.of 1 = later ++ after.log.of 1 ∧ ∀ e ∈ later, ¬ tearsDown "capacity-1" e := by
  obtain ⟨start, before, after, c, e, later, run, task, fresh, onward, step, log, rest, split,
      late⟩ :=
    exhibits_probe started ([runs 1 20, gets 1 comesUp, runs 1 20] ++ overtaken) [runs 1 20] 1
      poll poll_admitted unreachable (passingLate 1) (seconds 250) (fun before after _ =>
        after.log.head?.any fun entry =>
          FailsLate before.world (before.log.of 1) "capacity-1" entry.2) (by decide +kernel)
  rw [log, List.head?_cons, Option.any_some, decide_eq_true_eq] at late
  exact ⟨start, before, after, c, e, later, run, task, fresh, onward, step, log, late, rest, split,
    late_probe_spares_lease digests agreed service (seconds 250) start before after c 1 poll
      "capacity-1" e later run task (.poll _ _ _) fresh onward step log late rest split⟩

end

end KestrelRunpod.Pod
