import KestrelRunpod.Pod.Conformance.Teardown

/-!
# Conformance of acquisition

The acquisition paths keep the contract from a history in which the task has not written a
row and has dispatched neither a create nor a start.  That is what makes the claim of the
reserved row, and the one create or start that follows it, the task's own.
-/

namespace KestrelRunpod.Pod

open Interleave Program

variable {d : Digests} {callers : Callers} {svc : Service} {h : Past}
  {token reason operation : String} {lease : Lease} {done : Past → Lease → Prop}
  {failed : Past → Exn → Prop}

/-- The task has neither written a row nor dispatched a create or a start. -/
def Idle (h : Past) : Prop :=
  (∀ lease changes reply, (⟨.compareAndSet lease changes, reply⟩ : Event Effects) ∉ h) ∧
    (∀ token name spec (id : Nat), (⟨.send token (.create name spec), id⟩ : Event Effects) ∉ h) ∧
    ∀ token pod count (id : Nat), (⟨.send token (.start pod count), id⟩ : Event Effects) ∉ h

theorem Idle.nil : Idle [] := ⟨by simp, by simp, by simp⟩

theorem Idle.unwritten (idle : Idle h) : Unwritten h token :=
  fun _ _ _ member => absurd member (idle.1 _ _ _)

/-- An event that is neither a write nor the dispatch of a create or a start. -/
theorem Idle.cons {e : Event Effects} (idle : Idle h)
    (write : ∀ lease changes reply, (⟨.compareAndSet lease changes, reply⟩ : Event Effects) ≠ e)
    (create : ∀ token name spec (id : Nat),
      (⟨.send token (.create name spec), id⟩ : Event Effects) ≠ e)
    (start : ∀ token pod count (id : Nat),
      (⟨.send token (.start pod count), id⟩ : Event Effects) ≠ e) : Idle (e :: h) :=
  ⟨fun _ _ _ member => (List.mem_cons.mp member).elim (write _ _ _) (idle.1 _ _ _),
    fun _ _ _ _ member => (List.mem_cons.mp member).elim (create _ _ _ _) (idle.2.1 _ _ _ _),
    fun _ _ _ _ member => (List.mem_cons.mp member).elim (start _ _ _ _) (idle.2.2 _ _ _ _)⟩

theorem Idle.read {t : Instant} (idle : Idle h) : Idle ((⟨.now, t⟩ : Event Effects) :: h) :=
  idle.cons (by simp) (by simp) (by simp)

/-! ## Shared steps -/

theorem raiseAfterCleanup_obeys {α : Type} {done : Past → α → Prop}
    (raised : ∀ h' x, h <:+ h' → failed h' x) :
    (raiseAfterCleanup svc lease operation : Co α).Obeys (leaseContract d callers) done failed
      h := by
  unfold raiseAfterCleanup
  rw [bind_eq, obeys_bind]
  exact releaseOne_obeys (fun h₁ row g₁ _ _ => raised h₁ _ g₁) raised

theorem cleanupCancelledAcquisition_obeys {α : Type} {done : Past → α → Prop}
    (raised : ∀ h' x, h <:+ h' → failed h' x) :
    (cleanupCancelledAcquisition svc token operation : Co α).Obeys (leaseContract d callers) done
      failed h := by
  unfold cleanupCancelledAcquisition
  rw [bind_eq, obeys_bind, obeys_awaitOwned]
  exact releaseOne_obeys (fun h₁ row g₁ _ _ =>
    ⟨raised _ _ (grows _ g₁), raised _ _ (grows _ g₁)⟩) raised

theorem heartbeat_obeys (normal : ∀ h' row, h <:+ h' → Shown h' row → row.cleanupToken = token → done h' row)
    (raised : ∀ h' x, h <:+ h' → failed h' x) :
    (heartbeat token).Obeys (leaseContract d callers) done failed h := by
  unfold heartbeat
  rw [bind_eq, obeys_bind]
  refine required_obeys (fun h₁ lease g₁ shown₁ same₁ => ?_) raised
  split
  · exact raised h₁ _ g₁
  · rename_i active
    rw [Bool.not_eq_true] at active
    rw [bind_eq, obeys_bind]
    refine now_obeys fun h₂ t g₂ _ => ?_
    exact compareAndSet_obeys (.heartbeat t) (shown₁.mono g₂) active (Write.makes_base rfl)
      (fun h' current g shown _ same _ => normal h' _ ((g₁.trans g₂).trans g) shown
        (by simp [same, same₁])) fun h' x g => raised h' x ((g₁.trans g₂).trans g)

theorem enforceReadinessDeadline_obeys (normal : ∀ h', h <:+ h' → done h' lease)
    (raised : ∀ h' x, h <:+ h' → failed h' x) :
    (enforceReadinessDeadline svc lease).Obeys (leaseContract d callers) done failed h := by
  unfold enforceReadinessDeadline
  rw [bind_eq, obeys_bind]
  refine now_obeys fun h₁ t g₁ _ => ?_
  split
  · exact normal h₁ g₁
  · exact raiseAfterCleanup_obeys fun h' x g => raised h' x (g₁.trans g)

/-! ## Existing Pods -/

/-- Releasing a claim that the task itself reserved and never wrote. -/
theorem abandonClaim_obeys {error : Option Exn} {done : Past → Lease → Prop}
    (inserted : Inserted h lease) (reused : lease.source ≠ .created)
    (unwritten : Unwritten h lease.cleanupToken)
    (normal : ∀ h' row, h <:+ h' → Shown h' row → done h' row)
    (raised : ∀ h' x, h <:+ h' → failed h' x) :
    (releaseUnownedClaim svc lease error).Obeys (leaseContract d callers) done failed h := by
  unfold releaseUnownedClaim
  rw [bind_eq, obeys_bind, obeys_now]
  intro t
  have g₁ : h <:+ _ := List.suffix_cons (⟨.now, t⟩ : Event Effects) h
  have unwritten₁ : Unwritten ((⟨.now, t⟩ : Event Effects) :: h) lease.cleanupToken :=
    fun lease' changes row member => unwritten lease' changes row (by simpa using member)
  refine transitionNonterminal_obeys (.abandonClaim error t) rfl
    (fun h' cur g writeless _ same active => ⟨active, ?_, lease, inserted.mono (g₁.trans g),
      same.symm, reused⟩) (fun h' row g shown _ _ => normal h' row (g₁.trans g) shown)
    (fun h' x g => raised h' x (g₁.trans g)) svc.fuel (inserted.shown.mono g₁) rfl
  rw [same]
  exact writeless.unwritten unwritten₁

theorem startExisting_obeys (lease : Lease) {done : Past → Unit → Prop} {pod : String}
    {count : Nat}
    (claimed : StartClaimed h lease.cleanupToken)
    (target : Known h lease.cleanupToken fun row =>
      row.providerPodId = some pod ∧ row.source ≠ .created)
    (first : ∀ pod' count' (id : Nat),
      (⟨.send lease.cleanupToken (.start pod' count'), id⟩ : Event Effects) ∉ h)
    (starting : Known h lease.cleanupToken fun row =>
      row.state ≠ .requested ∨ row.creationUncertain = true)
    (normal : ∀ h' , h <:+ h' → Replied h' lease.cleanupToken (.start pod count) (.ok ()) →
      done h' ())
    (raised : ∀ h' x, h <:+ h' → failed h' x) :
    (startExisting svc lease pod count).Obeys (leaseContract d callers) done failed h := by
  unfold startExisting
  rw [obeys_except]
  refine await_obeys ⟨claimed, target, first⟩ (fun h₁ _ g₁ replied => normal h₁ g₁ replied)
    fun h₁ x g₁ _ => ⟨fun _ => ?_, fun _ => raised h₁ x g₁⟩
  split
  · exact cleanupCancelledAcquisition_obeys fun h' x g => raised h' x (g₁.trans g)
  · rw [bind_eq, obeys_bind]
    refine recordRetryableFailure_obeys (starting.mono g₁) (.inl rfl) rfl
      (fun h₂ row g₂ _ _ => ?_) fun h' x g => raised h' x (g₁.trans g)
    rw [bind_eq, obeys_bind]
    refine releaseOne_obeys (fun h₃ _ g₃ _ _ => ?_)
      fun h' x g => raised h' x ((g₁.trans g₂).trans g)
    rw [bind_eq, obeys_bind]
    exact required_obeys (fun h₄ _ g₄ _ _ => raised h₄ _ (((g₁.trans g₂).trans g₃).trans g₄))
      fun h' x g => raised h' x (((g₁.trans g₂).trans g₃).trans g)

theorem acquireExisting_obeys {count : Nat} (idle : Idle h)
    (inserted : Inserted h lease) (reused : lease.source ≠ .created)
    (normal : ∀ h' row, h <:+ h' → Shown h' row → row.cleanupToken = lease.cleanupToken →
      done h' row)
    (raised : ∀ h' x, h <:+ h' → failed h' x) :
    (acquireExisting svc lease count).Obeys (leaseContract d callers) done failed h := by
  unfold acquireExisting
  rw [bind_eq, obeys_bind]
  refine obeys_podId (fun pod hasPod => ?_) fun x => raised _ _ (List.suffix_refl h)
  rw [bind_eq, obeys_bind, discoverExisting, obeys_except, obeys_await]
  refine ⟨⟨lease, inserted.shown, rfl, hasPod⟩, fun id => ⟨fun observation => ?_,
    fun x => ⟨fun _ => ?_, fun _ => ?_⟩⟩⟩
  · -- The Pod was observed: the claim is still unwritten.
    have g₁ : h <:+ _ := grows
      (⟨.recv id (.observe pod), .ok observation⟩ : Event Effects)
      (List.suffix_cons (⟨.send lease.cleanupToken (.observe pod), id⟩ : Event Effects) h)
    have idle₁ : Idle ((⟨.recv id (.observe pod), .ok observation⟩ : Event Effects) ::
        (⟨.send lease.cleanupToken (.observe pod), id⟩ : Event Effects) :: h) :=
      (idle.cons (by simp) (by simp) (by simp)).cons (by simp) (by simp) (by simp)
    have replied : Replied ((⟨.recv id (.observe pod), .ok observation⟩ : Event Effects) ::
        (⟨.send lease.cleanupToken (.observe pod), id⟩ : Event Effects) :: h)
        lease.cleanupToken (.observe pod) (.ok observation) := .here
    split
    · rename_i running
      rw [bind_eq, obeys_bind]
      refine now_obeys fun h₂ t g₂ _ => ?_
      have grown := g₁.trans g₂
      exact compareAndSet_obeys (.foundRunning observation.backendBaseUrl t)
        (inserted.shown.mono grown)
        ⟨inserted.mono grown, reused, pod, observation, hasPod, replied.mono g₂, running⟩
        (Write.makes_base rfl)
        (fun h' current g shown _ same _ => normal h' _ (grown.trans g) shown (by simp [same]))
        fun h' x g => raised h' x (grown.trans g)
    · split
      · rename_i stopped
        rw [bind_eq, obeys_bind, obeys_now]
        intro t
        have g₂ := grows (⟨.now, t⟩ : Event Effects) g₁
        have idle₂ := idle₁.read (t := t)
        rw [bind_eq, obeys_bind, obeys_compareAndSet]
        refine ⟨⟨inserted.shown.mono g₂, .foundStopped t, ⟨inserted.mono g₂, reused, pod,
          observation, hasPod, replied.mono (List.suffix_cons _ _), stopped⟩,
          Write.makes_base rfl⟩, fun current same _ => ?_, fun x => raised _ _ (grows _ g₂)⟩
        have g₃ := grows (⟨.compareAndSet lease (foundStoppedChanges t),
          .ok (current.apply (foundStoppedChanges t))⟩ : Event Effects) g₂
        rw [bind_eq, obeys_bind]
        refine startExisting_obeys (current.apply (foundStoppedChanges t)) ?_ ?_ ?_ ?_
          (fun h₄ g₄ started => ?_) fun h' x g => raised h' x (g₃.trans g)
        · rw [Lease.apply_cleanupToken, same]
          exact .head
        · rw [Lease.apply_cleanupToken, same]
          exact (inserted.shown.mono g₃).known rfl ⟨hasPod, reused⟩
        · intro pod' count' id' member
          have dispatched := idle₂.2.2
          simp only [List.mem_cons] at member
          rcases member with is | member
          · simp at is
          · exact dispatched _ _ _ _ (by simpa using member)
        · exact Shown.written.known (by simp) (.inl (by simp))
        · have grown := g₃.trans g₄
          rw [bind_eq, obeys_bind]
          refine required_obeys (fun h₅ row g₅ shown₅ same₅ => ?_)
            fun h' x g => raised h' x (grown.trans g)
          rw [bind_eq, obeys_bind]
          refine now_obeys fun h₆ confirmedAt g₆ _ => ?_
          have grown₆ := (grown.trans g₅).trans g₆
          have sameRow : row.cleanupToken = lease.cleanupToken := by
            rw [same₅, Lease.apply_cleanupToken, same]
          refine compareAndSet_obeys (.startConfirmed confirmedAt) (shown₅.mono g₆)
            ⟨?_, pod, count, ?_⟩ (Write.makes_base rfl)
            (fun h' current g shown _ same' _ => normal h' _ (grown₆.trans g) shown
              (by simp [same', sameRow])) fun h' x g => raised h' x (grown₆.trans g)
          · rw [sameRow]
            exact StartClaimed.head.mono ((g₄.trans g₅).trans g₆)
          · rw [same₅]
            exact started.mono (g₅.trans g₆)
      · rw [bind_eq, obeys_bind]
        exact abandonClaim_obeys (inserted.mono g₁) reused idle₁.unwritten
          (fun h₂ row g₂ _ => raised h₂ _ (g₁.trans g₂)) fun h' x g => raised h' x (g₁.trans g)
  · have g₁ : h <:+ _ := grows
      (⟨.recv id (.observe pod), .error x⟩ : Event Effects)
      (List.suffix_cons (⟨.send lease.cleanupToken (.observe pod), id⟩ : Event Effects) h)
    have idle₁ : Idle ((⟨.recv id (.observe pod), .error x⟩ : Event Effects) ::
        (⟨.send lease.cleanupToken (.observe pod), id⟩ : Event Effects) :: h) :=
      (idle.cons (by simp) (by simp) (by simp)).cons (by simp) (by simp) (by simp)
    split
    · rw [bind_eq, obeys_bind]
      exact abandonClaim_obeys (inserted.mono g₁) reused idle₁.unwritten
        (fun h₂ row g₂ _ => raised h₂ _ (g₁.trans g₂)) fun h' x g => raised h' x (g₁.trans g)
    · rw [bind_eq, obeys_bind]
      exact abandonClaim_obeys (inserted.mono g₁) reused idle₁.unwritten
        (fun h₂ row g₂ _ => raised h₂ _ (g₁.trans g₂)) fun h' x g => raised h' x (g₁.trans g)
  · exact raised _ _ (grows _ (List.suffix_cons _ _))

/-! ## New Pods -/

/-- What the task knows once it has claimed the create of `lease`. -/
structure Creating (h : Past) (lease : Lease) : Prop where
  shown : Shown h lease
  claimed : CreateClaimed h lease.cleanupToken
  starting : lease.state = .starting
  created : Known h lease.cleanupToken fun row => row.source = .created

theorem Creating.mono {h' : Past} (creating : Creating h lease) (grown : h <:+ h') :
    Creating h' lease :=
  ⟨creating.shown.mono grown, creating.claimed.mono grown, creating.starting,
    creating.created.mono grown⟩

theorem createPod_obeys {done : Past → CreatedPod → Prop} (creating : Creating h lease)
    (first : ∀ name spec (id : Nat),
      (⟨.send lease.cleanupToken (.create name spec), id⟩ : Event Effects) ∉ h)
    (normal : ∀ h' created, h <:+ h' →
      Replied h' lease.cleanupToken (.create lease.resourceName lease.capacitySpec)
        (.ok created) →
      (lease.isCatalogAttempt = true → created.realizedPlacement ≠ none) → done h' created)
    (mismatched : ∀ h' pod, h <:+ h' → CreateAnswered h' lease.cleanupToken pod →
      failed h' (.createdMismatch pod))
    (raised : ∀ h' x, h <:+ h' →
      Replied h' lease.cleanupToken (.create lease.resourceName lease.capacitySpec) (.error x) →
      failed h' x) :
    (createPod lease).Obeys (leaseContract d callers) done failed h := by
  unfold createPod
  rw [bind_eq, obeys_bind]
  refine await_obeys ⟨creating.claimed, creating.shown.known rfl ⟨rfl, rfl⟩, creating.created,
    first⟩ (fun h₁ created g₁ replied => ?_) raised
  split
  · exact mismatched h₁ _ g₁ ⟨_, _, _, replied, .inr ⟨created, rfl, rfl⟩⟩
  · rename_i reported
    exact normal h₁ created g₁ replied fun catalog missing => reported ⟨catalog, missing⟩

theorem createMismatched_obeys {α : Type} {done : Past → α → Prop} {pod : String}
    (creating : Creating h lease) (answered : CreateAnswered h lease.cleanupToken pod)
    (raised : ∀ h' x, h <:+ h' → failed h' x) :
    (createMismatched svc lease pod : Co α).Obeys (leaseContract d callers) done failed h := by
  unfold createMismatched
  rw [bind_eq, obeys_bind]
  refine now_obeys fun h₁ t g₁ read => ?_
  rw [bind_eq, obeys_bind]
  refine required_obeys (fun h₂ current g₂ shown₂ same₂ => ?_)
    fun h' x g => raised h' x (g₁.trans g)
  have grown := g₁.trans g₂
  rw [bind_eq, obeys_bind]
  refine transitionWithEvidence_obeys (.createMismatch pod t) rfl
    (fun h' cur g _ same active _ => ?_) (fun h₃ row g₃ _ _ _ => ?_)
    (fun h' x g => raised h' x (grown.trans g)) svc.fuel shown₂ same₂
  · rw [Write.Guard, same]
    exact ⟨active, creating.claimed.mono (grown.trans g), answered.mono (grown.trans g),
      (read _ _ (creating.shown.known rfl trivial)).mono (g₂.trans g)⟩
  · rw [bind_eq, obeys_bind]
    exact releaseOne_obeys (fun h₄ _ g₄ _ _ => raised h₄ _ ((grown.trans g₃).trans g₄))
      fun h' x g => raised h' x ((grown.trans g₃).trans g)

theorem createAmbiguous_obeys {α : Type} {done : Past → α → Prop} {x : Exn}
    (creating : Creating h lease) (raised : ∀ h' x, h <:+ h' → failed h' x) :
    (createAmbiguous svc lease x : Co α).Obeys (leaseContract d callers) done failed h := by
  unfold createAmbiguous
  rw [bind_eq, obeys_bind]
  refine recordRetryableFailure_obeys
    (creating.shown.known rfl (.inl (by simp [creating.starting])))
    (.inr ⟨rfl, creating.created.weaken fun _ is => .inl is⟩) rfl (fun h₁ row g₁ _ _ => ?_) raised
  split
  · exact raised h₁ _ g₁
  · rw [bind_eq, obeys_bind]
    refine releaseOne_obeys (fun h₂ _ g₂ _ _ => ?_) fun h' x g => raised h' x (g₁.trans g)
    rw [bind_eq, obeys_bind]
    exact required_obeys (fun h₃ _ g₃ _ _ => raised h₃ _ ((g₁.trans g₂).trans g₃))
      fun h' x g => raised h' x ((g₁.trans g₂).trans g)

theorem createRejected_obeys {α : Type} {done : Past → α → Prop} {x : Exn}
    (creating : Creating h lease) (rejected : CreateRejected h lease.cleanupToken x)
    (raised : ∀ h' x, h <:+ h' → failed h' x) :
    (createRejected svc lease x : Co α).Obeys (leaseContract d callers) done failed h := by
  unfold createRejected
  rw [bind_eq, obeys_bind]
  refine now_obeys fun h₁ t g₁ read => ?_
  rw [bind_eq, obeys_bind, releaseRejected]
  split
  · rename_i catalog
    rw [bind_eq, obeys_bind]
    refine zeroCostReceipt_obeys (fun h₂ receipt g₂ zero => ?_)
      fun h' x g => raised h' x (g₁.trans g)
    rw [bind_eq, obeys_bind]
    refine now_obeys fun h₃ at_ g₃ read₃ => ?_
    have grown := (g₁.trans g₂).trans g₃
    refine settleZero_obeys (.createRejectedZero x t receipt at_) rfl rfl rfl
      (creating.shown.mono grown) (fun h' cur g _ same active => ?_)
      (fun h' row g _ _ => raised h' _ (grown.trans g)) fun h' x g => raised h' x (grown.trans g)
    rw [Write.Guard, same]
    exact ⟨active, creating.claimed.mono (grown.trans g), rejected.mono (grown.trans g), zero,
      (creating.shown.mono (grown.trans g)).known rfl catalog,
      (read₃ _ _ ((creating.shown.mono (g₁.trans g₂)).known rfl trivial)).mono g⟩
  · rename_i training
    rw [Bool.not_eq_true] at training
    rw [bind_eq, obeys_bind]
    refine transitionWithEvidence_obeys (.createRejected x t) rfl
      (fun h' cur g _ same active _ => ?_) (fun h₂ row g₂ shown₂ _ _ => ?_)
      (fun h' x g => raised h' x (g₁.trans g)) svc.fuel (creating.shown.mono g₁) rfl
    · rw [Write.Guard, same]
      exact ⟨active, creating.claimed.mono (g₁.trans g), rejected.mono (g₁.trans g),
        (creating.shown.mono (g₁.trans g)).known rfl training⟩
    · split
      · exact revokeAndRelease_obeys shown₂
          (fun h' row g _ _ => raised h' _ ((g₁.trans g₂).trans g))
          fun h' x g => raised h' x ((g₁.trans g₂).trans g)
      · exact raised h₂ _ (g₁.trans g₂)

theorem createFailed_obeys {α : Type} {done : Past → α → Prop} {x : Exn}
    (creating : Creating h lease)
    (answered : ∀ pod, x = .createdMismatch pod → CreateAnswered h lease.cleanupToken pod)
    (rejected : x.isDefinite = true → CreateRejected h lease.cleanupToken x)
    (caught : x = .cancelled ∨ x.isManager = true)
    (raised : ∀ h' x, h <:+ h' → failed h' x) :
    (createFailed svc lease x : Co α).Obeys (leaseContract d callers) done failed h := by
  unfold createFailed
  split
  · rw [bind_eq, obeys_bind]
    exact required_obeys (fun h₁ current g₁ _ _ => cleanupCancelledAcquisition_obeys
      fun h' x g => raised h' x (g₁.trans g)) raised
  · exact createMismatched_obeys creating (answered _ rfl) raised
  · exact createAmbiguous_obeys creating raised
  · rename_i notCancelled notMismatch notAmbiguous
    refine createRejected_obeys creating (rejected ?_) raised
    have manager := caught.resolve_left notCancelled
    cases x <;> simp_all [Exn.isDefinite]

theorem acquireCreated_obeys (idle : Idle h) (inserted : Inserted h lease)
    (created : lease.source = .created)
    (normal : ∀ h' row, h <:+ h' → Shown h' row → row.cleanupToken = lease.cleanupToken →
      done h' row)
    (raised : ∀ h' x, h <:+ h' → failed h' x) :
    (acquireCreated svc lease).Obeys (leaseContract d callers) done failed h := by
  unfold acquireCreated
  rw [bind_eq, obeys_bind, obeys_now]
  intro t
  have g₁ : h <:+ _ := List.suffix_cons (⟨.now, t⟩ : Event Effects) h
  rw [bind_eq, obeys_bind, obeys_compareAndSet]
  refine ⟨⟨inserted.shown.mono g₁, .claimCreate t, ⟨inserted.mono g₁, created⟩,
    Write.makes_base rfl⟩, fun current same _ => ?_, fun x => raised _ x (grows _ g₁)⟩
  have g₂ := grows (⟨.compareAndSet lease (claimCreateChanges t),
    .ok (current.apply (claimCreateChanges t))⟩ : Event Effects) g₁
  have creating : Creating ((⟨.compareAndSet lease (claimCreateChanges t),
      .ok (current.apply (claimCreateChanges t))⟩ : Event Effects) ::
      (⟨.now, t⟩ : Event Effects) :: h) (current.apply (claimCreateChanges t)) := by
    refine ⟨.written, ?_, rfl, ?_⟩
    · rw [Lease.apply_cleanupToken, same]
      exact .head
    · rw [Lease.apply_cleanupToken, same]
      exact (inserted.shown.mono g₂).known rfl created
  rw [bind_eq, obeys_bind, obeys_except]
  refine createPod_obeys creating (fun name spec id member => ?_)
    (fun h₃ pod g₃ replied placed => ?_) (fun h₃ pod g₃ answered => ⟨fun _ => ?_, fun _ => ?_⟩)
    fun h₃ x g₃ replied => ⟨fun caught => ?_, fun _ => raised h₃ x (g₂.trans g₃)⟩
  · exact idle.2.1 _ name spec id (by simpa using member)
  · have grown := g₂.trans g₃
    rw [bind_eq, obeys_bind]
    refine now_obeys fun h₄ acceptedAt g₄ read => ?_
    rw [bind_eq, obeys_bind]
    refine required_obeys (fun h₅ row g₅ shown₅ same₅ => ?_)
      fun h' x g => raised h' x ((grown.trans g₄).trans g)
    have grown₅ := (grown.trans g₄).trans g₅
    refine transitionWithEvidence_obeys (.createAccepted pod acceptedAt) rfl
      (fun h' cur g _ sameCur active _ => ?_)
      (fun h' row' g shown sameRow _ => normal h' row' (grown₅.trans g) shown ?_)
      (fun h' x g => raised h' x (grown₅.trans g)) svc.fuel shown₅ same₅
    · have onward := (g₄.trans g₅).trans g
      have creating' := creating.mono (g₃.trans onward)
      rw [Write.Guard, sameCur]
      exact ⟨active, creating'.claimed, ⟨_, _, replied.mono onward⟩,
        creating'.shown.known rfl placed,
        (read _ _ ((creating.shown.mono g₃).known rfl trivial)).mono (g₅.trans g)⟩
    · rw [sameRow, Lease.apply_cleanupToken, same]
  · exact createFailed_obeys (creating.mono g₃) (fun pod' is => by cases is; exact answered)
      (fun definite => by simp [Exn.isDefinite] at definite) (.inr rfl)
      fun h' x g => raised h' x ((g₂.trans g₃).trans g)
  · exact raised h₃ _ (g₂.trans g₃)
  · refine createFailed_obeys (creating.mono g₃)
      (fun pod is => ⟨_, _, _, replied, .inl (by rw [is])⟩)
      (fun definite => ⟨_, _, replied, definite⟩) (by simpa using caught)
      fun h' x g => raised h' x ((g₂.trans g₃).trans g)

/-! ## Readiness -/

/-- The task has been shown that the first running observation of `token` is on record, or
that the lease keeps no evidence. -/
def RunningRecorded (h : Past) (token : String) : Prop :=
  Known h token fun row => row.evidence = none ∨ ∃ evidence,
    row.evidence = some evidence ∧ evidence.lifecycle.phases.firstRunningObservedAt ≠ none

/-- A readiness observation of a running Pod is recorded. -/
theorem Write.Left.runningRecorded {row : Lease} {observation : PodObservation} {t : Instant}
    (left : (Write.readinessObserved observation t).Left h row) (shown : Shown h row)
    (running : observation.isRunning = true) : RunningRecorded h row.cleanupToken := by
  obtain ⟨seen, current, changes, shownSeen, same, active, makes, rfl⟩ := left
  cases has : seen.evidence with
  | none => exact shownSeen.known same (.inl has)
  | some evidence =>
      rw [Write.Makes, if_pos ⟨rfl, active, by simp [has]⟩] at makes
      obtain ⟨evidence', merged, _, ok, rfl⟩ := makes
      refine shown.known rfl (.inr ⟨merged, rfl, ?_⟩)
      rw [(PodCapacityEvidence.merge_ok ok).phases]
      simp [Write.update, running, Phases.firstWins]

/-- What each way out of the guarded part of `_observe_readiness` has established. -/
def Readiness.Established (h : Past) (token : String) : Readiness → Prop
  | .settled row => Shown h row ∧ row.cleanupToken = token
  | .routeReady row => row.cleanupToken = token ∧ RunningRecorded h token

theorem probeWorker_obeys {done : Past → Readiness → Prop} {url : String}
    (recorded : RunningRecorded h lease.cleanupToken)
    (normal : ∀ h' readiness, h <:+ h' → readiness.Established h' lease.cleanupToken →
      done h' readiness)
    (raised : ∀ h' x, h <:+ h' → failed h' x) :
    (probeWorker svc lease url).Obeys (leaseContract d callers) done failed h := by
  have unhealthy : ∀ h₁ x, h <:+ h₁ →
      ((do
        let current ← required lease.cleanupToken
        if current.state ≠ .starting then .pure (.settled current)
        else do
          let heartbeatAt ← now
          let unready ← transitionWithEvidence current.cleanupToken
            { lastProviderError := some (some (Exn.sanitized x))
              lastHeartbeatAt := some heartbeatAt }
            {} (some [.starting]) true svc.fuel current
          .pure (.settled unready)) : Co Readiness).Obeys (leaseContract d callers) done failed
        h₁ := by
    intro h₁ x g₁
    rw [bind_eq, obeys_bind]
    refine required_obeys (fun h₂ current g₂ shown₂ same₂ => ?_)
      fun h' x g => raised h' x (g₁.trans g)
    have grown := g₁.trans g₂
    split
    · exact normal h₂ _ grown ⟨shown₂, same₂⟩
    · rw [bind_eq, obeys_bind]
      refine now_obeys fun h₃ t g₃ _ => ?_
      rw [bind_eq, obeys_bind]
      refine transitionWithEvidence_obeys (.readinessUnhealthy x t) rfl
        (fun h' cur _ _ _ _ admitted => List.mem_singleton.mp (admitted [.starting] rfl))
        (fun h₄ row g₄ shown₄ same₄ _ => ?_)
        (fun h' x g => raised h' x ((grown.trans g₃).trans g)) svc.fuel (shown₂.mono g₃) rfl
      exact normal h₄ _ ((grown.trans g₃).trans g₄) ⟨shown₄, same₄.trans same₂⟩
  unfold probeWorker
  rw [obeys_except, bind_eq, obeys_bind]
  refine obeys_requireWorkloadTransport ?_ fun x =>
    ⟨fun _ => unhealthy _ x (List.suffix_refl h), fun _ => raised _ x (List.suffix_refl h)⟩
  rw [bind_eq, obeys_bind]
  exact await_obeys trivial
    (fun h₁ _ g₁ _ => normal h₁ _ g₁ ⟨rfl, recorded.mono g₁⟩)
    fun h₁ x g₁ _ => ⟨fun _ => unhealthy h₁ x g₁, fun _ => raised h₁ x g₁⟩

theorem pollReadiness_obeys {done : Past → Readiness → Prop} (shown : Shown h lease)
    (normal : ∀ h' readiness, h <:+ h' → readiness.Established h' lease.cleanupToken →
      done h' readiness)
    (raised : ∀ h' x, h <:+ h' → failed h' x) :
    (pollReadiness svc lease).Obeys (leaseContract d callers) done failed h := by
  unfold pollReadiness
  rw [bind_eq, obeys_bind]
  refine obeys_podId (fun pod hasPod => ?_) fun x => raised _ _ (List.suffix_refl h)
  rw [bind_eq, obeys_bind]
  refine await_obeys ⟨lease, shown, rfl, hasPod⟩ (fun h₁ observation g₁ replied => ?_)
    fun h₁ x g₁ _ => raised h₁ x g₁
  rw [bind_eq, obeys_bind]
  refine required_obeys (fun h₂ current g₂ shown₂ same₂ => ?_)
    fun h' x g => raised h' x (g₁.trans g)
  have grown₂ := g₁.trans g₂
  split
  · exact normal h₂ _ grown₂ ⟨shown₂, same₂⟩
  · rw [bind_eq, obeys_bind]
    refine now_obeys fun h₃ t g₃ read => ?_
    have grown₃ := grown₂.trans g₃
    rw [bind_eq, obeys_bind]
    refine transitionWithEvidence_obeys (.readinessObserved observation t) rfl
      (fun h' cur g _ same _ admitted => ⟨List.mem_singleton.mp (admitted [.starting] rfl), fun _ => ?_⟩)
      (fun h₄ row g₄ shown₄ same₄ stage => ?_)
      (fun h' x g => raised h' x (grown₃.trans g)) svc.fuel (shown₂.mono g₃) rfl
    · rw [same, same₂]
      exact (read _ _ ((shown.mono grown₂).known rfl (by simp [hasPod]))).mono g
    · have grown₄ := grown₃.trans g₄
      have sameRow := same₄.trans same₂
      have settled : done h₄ (.settled row) := normal h₄ _ grown₄ ⟨shown₄, sameRow⟩
      split
      · exact settled
      · rename_i starting
        rw [ne_eq, Classical.not_not] at starting
        split
        · exact raiseAfterCleanup_obeys fun h' x g => raised h' x (grown₄.trans g)
        · split
          · rename_i url running route
            have recorded : RunningRecorded h₄ row.cleanupToken := by
              rcases stage with terminal | excluded | left
              · simp [Lease.isTerminal, starting] at terminal
              · exact absurd (fun states is => by cases is; simp [starting]) excluded
              · exact left.runningRecorded shown₄ running
            split
            · exact settled
            · split
              · exact probeWorker_obeys recorded
                  (fun h' readiness g established =>
                    normal h' readiness (grown₄.trans g) (by rwa [← sameRow]))
                  fun h' x g => raised h' x (grown₄.trans g)
              · exact normal h₄ _ grown₄ ⟨sameRow, by rwa [← sameRow]⟩
          · exact settled

theorem readinessFailed_obeys {done : Past → Readiness → Prop} {x : Exn}
    (observed : Known h token fun row =>
      row.state ≠ .requested ∨ row.creationUncertain = true)
    (raised : ∀ h' x, h <:+ h' → failed h' x) :
    (readinessFailed svc token x).Obeys (leaseContract d callers) done failed h := by
  unfold readinessFailed
  split
  · exact cleanupCancelledAcquisition_obeys raised
  · split
    · exact raised _ _ (List.suffix_refl h)
    · rw [bind_eq, obeys_bind]
      refine required_obeys (fun h₁ current g₁ shown₁ same₁ => ?_) raised
      rw [bind_eq, obeys_bind]
      exact recordRetryableFailure_obeys (observed.mono g₁) (.inl rfl) same₁
        (fun h₂ row g₂ _ _ => raiseAfterCleanup_obeys
          fun h' x g => raised h' x ((g₁.trans g₂).trans g))
        fun h' x g => raised h' x (g₁.trans g)

theorem observeReadiness_obeys
    (normal : ∀ h' row, h <:+ h' → Shown h' row → row.cleanupToken = token → done h' row)
    (raised : ∀ h' x, h <:+ h' → failed h' x) :
    (observeReadiness svc token).Obeys (leaseContract d callers) done failed h := by
  unfold observeReadiness
  rw [bind_eq, obeys_bind]
  refine required_obeys (fun h₁ lease g₁ shown₁ same₁ => ?_) raised
  split
  · exact normal h₁ lease g₁ shown₁ same₁
  · rename_i starting
    rw [ne_eq, Classical.not_not] at starting
    rw [bind_eq, obeys_bind]
    refine enforceReadinessDeadline_obeys (fun h₂ g₂ => ?_)
      fun h' x g => raised h' x (g₁.trans g)
    have grown₂ := g₁.trans g₂
    have observed : Known h₁ token fun row =>
        row.state ≠ .requested ∨ row.creationUncertain = true :=
      shown₁.known same₁ (.inl (by simp [starting]))
    rw [bind_eq, obeys_bind, obeys_except]
    refine pollReadiness_obeys (shown₁.mono g₂) (fun h₃ readiness g₃ established => ?_)
      fun h₃ x g₃ => ⟨fun _ => readinessFailed_obeys (observed.mono (g₂.trans g₃))
        fun h' x g => raised h' x ((grown₂.trans g₃).trans g),
        fun _ => raised h₃ x (grown₂.trans g₃)⟩
    have grown₃ := grown₂.trans g₃
    cases readiness with
    | settled row => exact normal h₃ row grown₃ established.1 (established.2.trans same₁)
    | routeReady row =>
        dsimp only
        rw [bind_eq, obeys_bind]
        refine required_obeys (fun h₄ current g₄ shown₄ same₄ => ?_)
          fun h' x g => raised h' x (grown₃.trans g)
        have grown₄ := grown₃.trans g₄
        split
        · exact normal h₄ current grown₄ shown₄ same₄
        · rw [bind_eq, obeys_bind]
          refine enforceReadinessDeadline_obeys (fun h₅ g₅ => ?_)
            fun h' x g => raised h' x (grown₄.trans g)
          rw [bind_eq, obeys_bind]
          refine now_obeys fun h₆ t g₆ read => ?_
          have grown₆ := (grown₄.trans g₅).trans g₆
          refine transitionWithEvidence_obeys (.workerReady t) rfl
            (fun h' cur g _ same _ admitted => ⟨List.mem_singleton.mp (admitted [.starting] rfl), ?_⟩)
            (fun h' row g shown same _ => normal h' row (grown₆.trans g) shown
              (same.trans same₄))
            (fun h' x g => raised h' x (grown₆.trans g)) svc.fuel
            (shown₄.mono (g₅.trans g₆)) rfl
          rw [same, same₄, ← same₁]
          exact (read _ _ (established.2.mono (g₄.trans g₅))).mono g

theorem waitReady_obeys
    (normal : ∀ h' row, h <:+ h' → Shown h' row → row.cleanupToken = lease.cleanupToken →
      done h' row)
    (raised : ∀ h' x, h <:+ h' → failed h' x) (fuel : Nat) :
    (waitReady svc fuel lease).Obeys (leaseContract d callers) done failed h := by
  induction fuel generalizing h lease with
  | zero => trivial
  | succ fuel ih =>
      unfold waitReady
      rw [bind_eq, obeys_bind]
      refine observeReadiness_obeys (fun h₁ row g₁ shown₁ same₁ => ?_) raised
      split
      · exact normal h₁ row g₁ shown₁ same₁
      · rw [bind_eq, obeys_bind, obeys_except]
        refine await_obeys trivial (fun h₂ _ g₂ _ => ?_) fun h₂ x g₂ _ =>
          ⟨fun _ => cleanupCancelledAcquisition_obeys
            fun h' x g => raised h' x ((g₁.trans g₂).trans g), fun _ => raised h₂ x (g₁.trans g₂)⟩
        exact ih (fun h' row' g shown same => normal h' row' ((g₁.trans g₂).trans g) shown
          (same.trans same₁)) fun h' x g => raised h' x ((g₁.trans g₂).trans g)

/-! ## Entry points -/

theorem acquirePod_obeys {source : Source} {count : Nat} (idle : Idle h)
    (inserted : Inserted h lease) (same : lease.source = source)
    (normal : ∀ h' row, h <:+ h' → Shown h' row → row.cleanupToken = lease.cleanupToken →
      done h' row)
    (raised : ∀ h' x, h <:+ h' → failed h' x) :
    (acquirePod svc source lease count).Obeys (leaseContract d callers) done failed h := by
  unfold acquirePod
  split
  · rename_i created
    exact acquireCreated_obeys idle inserted (same.trans created) normal raised
  · rename_i reused
    exact acquireExisting_obeys idle inserted (fun is => reused (same.symm.trans is)) normal
      raised

theorem acquireLease_obeys {request : PodRequest} {waitForReady : Bool} (idle : Idle h)
    (named : request.resourceName = callers.names request.cleanupToken)
    (normal : ∀ h' row, h <:+ h' → Shown h' row → done h' row)
    (raised : ∀ h' x, h <:+ h' → failed h' x) :
    (acquireLease svc request waitForReady).Obeys (leaseContract d callers) done failed h := by
  unfold acquireLease
  split
  · exact raised _ _ (List.suffix_refl h)
  · refine ⟨named, fun reply promised => ?_⟩
    have g₁ : h <:+ _ := List.suffix_cons (⟨.reserve request, reply⟩ : Event Effects) h
    have idle₁ : Idle ((⟨.reserve request, reply⟩ : Event Effects) :: h) :=
      idle.cons (by simp) (by simp) (by simp)
    dsimp only
    rw [bind_eq, obeys_bind, obeys_ofExcept]
    refine ⟨fun answer is => ?_, fun x _ => raised _ x g₁⟩
    subst is
    obtain ⟨lease, insertedNow⟩ := answer
    dsimp only
    split
    · split
      · exact heartbeat_obeys (fun h' row g shown _ => normal h' row (g₁.trans g) shown)
          fun h' x g => raised h' x (g₁.trans g)
      · exact raised _ _ g₁
    · rename_i fresh
      rw [Bool.not_eq_false] at fresh
      subst fresh
      obtain ⟨evidence, reserved⟩ := (promised lease true rfl).2 rfl
      rw [bind_eq, obeys_bind]
      refine obeys_profile (fun count => ?_) fun x => raised _ x g₁
      rw [bind_eq, obeys_bind]
      refine acquirePod_obeys idle₁ ⟨request, List.mem_cons_self⟩ (by rw [reserved]; rfl)
        (fun h₂ row g₂ shown₂ _ => ?_) fun h' x g => raised h' x (g₁.trans g)
      split
      · exact waitReady_obeys (fun h' row' g shown _ =>
          normal h' row' ((g₁.trans g₂).trans g) shown)
          (fun h' x g => raised h' x ((g₁.trans g₂).trans g)) svc.fuel
      · exact normal h₂ row (g₁.trans g₂) shown₂

theorem replayCatalog_obeys {request : CapacityRequest} {environment : List (String × String)}
    {waitForReady : Bool}
    (normal : ∀ h' row, h <:+ h' → Shown h' row → done h' row)
    (raised : ∀ h' x, h <:+ h' → failed h' x) :
    (replayCatalog svc request environment waitForReady lease).Obeys (leaseContract d callers)
      done failed h := by
  have here := List.suffix_refl h
  unfold replayCatalog
  rw [bind_eq, obeys_bind]
  refine obeys_capacitySpec (fun spec _ => ?_) fun x => raised _ x here
  split
  · exact raised _ _ here
  · split
    · exact heartbeat_obeys (fun h' row g shown _ => normal h' row g shown) raised
    · exact raised _ _ here

/-- A training request keeps the fields it was built from. -/
theorem PodRequest.build_ok {fields : PodRequestFields} {request : PodRequest}
    (built : PodRequest.build fields = .ok request) : request.toPodRequestFields = fields := by
  unfold PodRequest.build at built
  split at built
  · cases built
    rfl
  · cases built

theorem acquireCatalog_obeys {request : CapacityRequest}
    {environment : List (String × String)} {waitForReady : Bool} (idle : Idle h)
    (named : request.resourceName svc.digests = callers.names request.capacityId)
    (normal : ∀ h' row, h <:+ h' → Shown h' row → done h' row)
    (raised : ∀ h' x, h <:+ h' → failed h' x) :
    (acquireCatalog svc request environment waitForReady).Obeys (leaseContract d callers) done
      failed h := by
  have here := List.suffix_refl h
  unfold acquireCatalog
  rw [bind_eq, obeys_bind]
  refine obeys_requireWorkloadTransport ?_ fun x => raised _ x here
  split
  · exact raised _ _ here
  · rw [bind_eq, obeys_bind, obeys_getLease]
    intro found _
    have g₁ := grows (⟨.get request.capacityId, found⟩ : Event Effects) here
    have idle₁ : Idle ((⟨.get request.capacityId, found⟩ : Event Effects) :: h) :=
      idle.cons (by simp) (by simp) (by simp)
    cases found with
    | some existing =>
        exact replayCatalog_obeys (fun h' row g shown => normal h' row (g₁.trans g) shown)
          fun h' x g => raised h' x (g₁.trans g)
    | none =>
        dsimp only
        rw [bind_eq, obeys_bind, obeys_now]
        intro readAt
        have g₂ := grows (⟨.now, readAt⟩ : Event Effects) g₁
        have idle₂ := idle₁.read (t := readAt)
        split
        · exact raised _ _ g₂
        · split
          · exact raised _ _ g₂
          · rw [bind_eq, obeys_bind]
            refine obeys_requireCapabilityStore ?_ fun x => raised _ x g₂
            rw [bind_eq, obeys_bind, obeys_await]
            refine ⟨trivial, fun id => ⟨fun capability => ?_, fun x =>
              raised _ x (grows _ (grows _ g₂))⟩⟩
            have g₃ := grows (⟨.recv id (.loadOrCreate request.attemptId
              request.bearerExpiresAt), .ok capability⟩ : Event Effects)
              (grows (⟨.send request.capacityId (.loadOrCreate request.attemptId
                request.bearerExpiresAt), id⟩ : Event Effects) g₂)
            have idle₃ : Idle ((⟨.recv id (.loadOrCreate request.attemptId
                request.bearerExpiresAt), .ok capability⟩ : Event Effects) ::
                (⟨.send request.capacityId (.loadOrCreate request.attemptId
                  request.bearerExpiresAt), id⟩ : Event Effects) ::
                (⟨.now, readAt⟩ : Event Effects) ::
                (⟨.get request.capacityId, none⟩ : Event Effects) :: h) :=
              (idle₂.cons (by simp) (by simp) (by simp)).cons (by simp) (by simp) (by simp)
            rw [bind_eq, obeys_bind]
            refine obeys_validateCapability ?_ fun x => raised _ x g₃
            rw [bind_eq, obeys_bind, obeys_now]
            intro admittedAt
            have g₄ := grows (⟨.now, admittedAt⟩ : Event Effects) g₃
            split
            · exact raised _ _ g₄
            · rw [bind_eq, obeys_bind, obeys_ofExcept]
              refine ⟨fun spec _ => ?_, fun x _ => raised _ x g₄⟩
              rw [bind_eq, obeys_bind, obeys_ofExcept]
              refine ⟨fun internal built => ?_, fun x _ => raised _ x g₄⟩
              have fields := PodRequest.build_ok built
              refine acquireLease_obeys idle₃.read ?_
                (fun h' row g shown => normal h' row (g₄.trans g) shown)
                fun h' x g => raised h' x (g₄.trans g)
              rw [fields]
              exact named

theorem catalogLease_obeys {capacityId ownerId workloadId : String}
    (normal : ∀ h' row spec, h <:+ h' → Shown h' row → row.cleanupToken = capacityId →
      row.capacitySpec = some spec → spec.request.ownerId = ownerId →
      spec.request.workloadId = workloadId → done h' row)
    (raised : ∀ h' x, h <:+ h' → failed h' x) :
    (catalogLease capacityId ownerId workloadId).Obeys (leaseContract d callers) done failed
      h := by
  unfold catalogLease
  rw [bind_eq, obeys_bind]
  refine getLease_obeys (fun h₁ row g₁ shown₁ same₁ => ?_) fun h₁ g₁ => raised h₁ _ g₁
  dsimp only
  rw [bind_eq, obeys_bind]
  refine obeys_capacitySpec (fun spec has => ?_) fun x => raised h₁ x g₁
  split
  · exact raised h₁ _ g₁
  · rename_i identity
    rw [not_or, ne_eq, ne_eq, Classical.not_not, Classical.not_not] at identity
    exact normal h₁ row spec g₁ shown₁ same₁ has identity.1 identity.2

theorem pollCatalogReadiness_obeys {capacityId ownerId workloadId : String}
    (normal : ∀ h' row, h <:+ h' → Shown h' row → done h' row)
    (raised : ∀ h' x, h <:+ h' → failed h' x) :
    (pollCatalogReadiness svc capacityId ownerId workloadId).Obeys (leaseContract d callers) done
      failed h := by
  unfold pollCatalogReadiness
  rw [bind_eq, obeys_bind]
  refine catalogLease_obeys (fun h₁ lease _ g₁ shown₁ _ _ _ _ => ?_) raised
  split
  · exact normal h₁ lease g₁ shown₁
  · split
    · exact raised h₁ _ g₁
    · rw [bind_eq, obeys_bind]
      refine heartbeat_obeys (fun h₂ row g₂ _ _ => ?_) fun h' x g => raised h' x (g₁.trans g)
      have grown := g₁.trans g₂
      rw [bind_eq, obeys_bind]
      refine obeys_profile (fun _ => ?_) fun x => raised h₂ x grown
      exact observeReadiness_obeys (fun h' row g shown _ => normal h' row (grown.trans g) shown)
        fun h' x g => raised h' x (grown.trans g)

end KestrelRunpod.Pod
