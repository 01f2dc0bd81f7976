import KestrelRunpod.Pod.Conformance.Workload

/-!
# Conformance of reconciliation

With it, every operation of the service keeps the contract (`Admits.safe`), so every run of
any number of its tasks is a trail of the contract.
-/

namespace KestrelRunpod.Pod

open Interleave Program

variable {d : Digests} {callers : Callers} {svc : Service} {h : Past} {token : String}
  {lease : Lease} {done : Past → Lease → Prop} {failed : Past → Exn → Prop}

/-! ## One lease -/

theorem recordReconcileError_obeys {done : Past → Option Lease → Prop} {error : Exn}
    (normal : ∀ h' result, h <:+ h' → done h' result)
    (raised : ∀ h' x, h <:+ h' → failed h' x) :
    (recordReconcileError token error).Obeys (leaseContract d callers) done failed h := by
  unfold recordReconcileError
  rw [bind_eq, obeys_bind]
  refine getLease_obeys (fun h₁ row g₁ shown₁ _ => ?_) fun h₁ g₁ => normal h₁ none g₁
  dsimp only
  split
  · exact normal h₁ _ g₁
  · rw [obeys_except, obeys_bind]
    refine compareAndSet_obeys (.reconcileError error) shown₁ trivial (Write.makes_base rfl)
      (fun h₂ _ g₂ _ _ _ _ => normal h₂ _ (g₁.trans g₂))
      fun h₂ x g₂ => ⟨fun _ => ?_, fun _ => raised h₂ x (g₁.trans g₂)⟩
    exact getLease_obeys (fun h' _ g _ _ => normal h' _ ((g₁.trans g₂).trans g))
      fun h' g => normal h' none ((g₁.trans g₂).trans g)

theorem expireRequested_obeys {t : Instant} (shown : Shown h lease)
    (requested : lease.state = .requested)
    (normal : ∀ h' row, h <:+ h' → Shown h' row → done h' row)
    (raised : ∀ h' x, h <:+ h' → failed h' x) :
    (expireRequested svc lease t).Obeys (leaseContract d callers) done failed h := by
  unfold expireRequested
  split
  · rename_i reused
    unfold releaseUnownedClaim
    rw [bind_eq, obeys_bind]
    refine now_obeys fun h₁ t g₁ _ => ?_
    exact transitionNonterminal_obeys (.expireClaim t) rfl
      (fun h' cur g _ _ same active =>
        ⟨active, lease, shown.mono (g₁.trans g), same.symm, requested, reused⟩)
      (fun h' row g shown _ _ => normal h' row (g₁.trans g) shown)
      (fun h' x g => raised h' x (g₁.trans g)) svc.fuel (shown.mono g₁) rfl
  · rename_i created
    rw [ne_eq, Classical.not_not] at created
    dsimp only
    split
    · rename_i catalog
      rw [bind_eq, obeys_bind]
      refine zeroCostReceipt_obeys (fun h₁ receipt g₁ zero => ?_) raised
      exact settleZero_obeys (.expiredZero t receipt) rfl rfl rfl (shown.mono g₁)
        (fun h' cur g _ same active => ⟨active, zero, lease, shown.mono (g₁.trans g), same.symm,
          requested, catalog⟩)
        (fun h' row g shown' _ => normal h' row (g₁.trans g) shown')
        fun h' x g => raised h' x (g₁.trans g)
    · rename_i training
      rw [Bool.not_eq_true] at training
      rw [bind_eq, obeys_bind]
      refine transitionWithEvidence_obeys .expired rfl
        (fun h' cur g _ same active _ => ⟨active, lease, shown.mono g, same.symm, requested,
          created, training⟩) (fun h₁ row g₁ shown₁ _ _ => ?_) raised svc.fuel shown rfl
      split
      · exact revokeAndRelease_obeys shown₁
          (fun h' row' g shown' _ => normal h' row' (g₁.trans g) shown')
          fun h' x g => raised h' x (g₁.trans g)
      · exact normal h₁ row g₁ shown₁

/-- The columns of an observed stop, of a catalog attempt or not. -/
theorem reconcileObserved_obeys {pod : String} {t : Instant} (shown : Shown h lease)
    (stage : lease.state = .starting ∨ lease.state = .ready)
    (hasPod : lease.providerPodId = some pod)
    (normal : ∀ h' row, h <:+ h' → Shown h' row → done h' row)
    (raised : ∀ h' x, h <:+ h' → failed h' x) :
    (reconcileObserved svc lease pod t).Obeys (leaseContract d callers) done failed h := by
  unfold reconcileObserved
  rw [bind_eq, obeys_bind]
  refine obeys_profile (fun _ => ?_) fun x => raised h x (List.suffix_refl h)
  rw [bind_eq, obeys_bind]
  refine await_obeys ⟨lease, shown, rfl, hasPod⟩ (fun h₁ observation g₁ replied => ?_)
    fun h₁ x g₁ _ => raised h₁ x g₁
  dsimp only
  split
  · rename_i stopped
    have billed : ∀ h₂ row, h₁ <:+ h₂ → Shown h₂ row →
        (if row.isCatalogAttempt = true then reconcileBilling svc row else .pure row).Obeys
          (leaseContract d callers) done failed h₂ := by
      intro h₂ row g₂ shown₂
      split
      · exact reconcileBilling_obeys shown₂
          (fun h' row' g shown' _ => normal h' row' ((g₁.trans g₂).trans g) shown')
          fun h' x g => raised h' x ((g₁.trans g₂).trans g)
      · exact normal h₂ row (g₁.trans g₂) shown₂
    cases catalog : lease.isCatalogAttempt with
    | true =>
        simp only [if_true]
        rw [bind_eq, obeys_bind]
        refine transitionWithEvidence_obeys (.observedTerminated t) rfl
          (fun h' cur g _ same active _ => ⟨active, lease, pod, observation,
            shown.mono (g₁.trans g), same.symm, catalog, hasPod, ?_, stopped⟩)
          (fun h₂ row g₂ shown₂ _ _ => billed h₂ row g₂ shown₂)
          (fun h' x g => raised h' x (g₁.trans g)) svc.fuel (shown.mono g₁) rfl
        rw [same]
        exact replied.mono g
    | false =>
        simp only [Bool.false_eq_true, if_false]
        rw [bind_eq, obeys_bind]
        refine transitionWithEvidence_obeys .observedStopped rfl
          (fun h' cur g _ same active _ => ⟨active, lease, pod, observation,
            shown.mono (g₁.trans g), same.symm, catalog, hasPod, ?_, stopped⟩)
          (fun h₂ row g₂ shown₂ _ _ => billed h₂ row g₂ shown₂)
          (fun h' x g => raised h' x (g₁.trans g)) svc.fuel (shown.mono g₁) rfl
        rw [same]
        exact replied.mono g
  · exact compareAndSet_obeys (.reconcileObserved _) (shown.mono g₁) stage
      (Write.makes_base rfl)
      (fun h' _ g shown' _ _ _ => normal h' _ (g₁.trans g) shown')
      fun h' x g => raised h' x (g₁.trans g)

theorem reconcileStarted_obeys {t : Instant} {stale : Bool} (shown : Shown h lease)
    (normal : ∀ h' row, h <:+ h' → Shown h' row → done h' row)
    (raised : ∀ h' x, h <:+ h' → failed h' x) :
    (reconcileStarted svc token lease t stale).Obeys (leaseContract d callers) done failed h := by
  have unchanged : done h lease := normal h lease (List.suffix_refl h) shown
  unfold reconcileStarted
  split
  · exact releaseOne_obeys (fun h' row g shown _ => normal h' row g shown) raised
  · split
    · rename_i stage
      split
      · exact unchanged
      · rename_i pod hasPod
        split
        · exact unchanged
        · split
          · exact unchanged
          · exact reconcileObserved_obeys shown stage hasPod normal raised
    · exact unchanged

theorem reconcileJob_obeys {done : Past → Option Lease → Prop}
    (normal : ∀ h' row, h <:+ h' → Shown h' row → done h' (some row))
    (goesOn : ∀ h', h <:+ h' → done h' none) (raised : ∀ h' x, h <:+ h' → failed h' x) :
    (reconcileJob svc token lease).Obeys (leaseContract d callers) done failed h := by
  unfold reconcileJob
  split
  · rw [bind_eq, obeys_bind, obeys_except, obeys_bind]
    refine await_obeys trivial (fun h₁ status g₁ _ => ?_)
      fun h₁ x g₁ _ => ⟨fun _ => ?_, fun _ => raised h₁ x g₁⟩
    · simp only [obeys_pure]
      split
      · rename_i failure
        cases failure
      · exact goesOn h₁ g₁
      · rw [bind_eq, obeys_bind]
        refine recordStatus_obeys (fun h₂ row g₂ shown₂ => ?_)
          fun h' x g => raised h' x (g₁.trans g)
        have grown := g₁.trans g₂
        split
        · rw [bind_eq, obeys_bind]
          exact releaseOne_obeys (fun h' row g shown _ => normal h' row (grown.trans g) shown)
            fun h' x g => raised h' x (grown.trans g)
        · exact normal h₂ row grown shown₂
    · rw [bind_eq, obeys_bind]
      exact recordOperationError_obeys (fun h' row g shown => normal h' row (g₁.trans g) shown)
        fun h' x g => raised h' x (g₁.trans g)
  · exact goesOn h (List.suffix_refl h)

theorem reconcileActive_obeys (shown : Shown h lease)
    (normal : ∀ h' row, h <:+ h' → Shown h' row → done h' row)
    (raised : ∀ h' x, h <:+ h' → failed h' x) :
    (reconcileActive svc token lease).Obeys (leaseContract d callers) done failed h := by
  unfold reconcileActive
  rw [bind_eq, obeys_bind]
  refine now_obeys fun h₁ t g₁ _ => ?_
  have shown₁ := shown.mono g₁
  have unchanged : done h₁ lease := normal h₁ lease g₁ shown₁
  have normal₁ : ∀ h' row, h₁ <:+ h' → Shown h' row → done h' row :=
    fun h' row g => normal h' row (g₁.trans g)
  have raised₁ : ∀ h' x, h₁ <:+ h' → failed h' x := fun h' x g => raised h' x (g₁.trans g)
  have released : ∀ h₂ reason, h₁ <:+ h₂ →
      (releaseOne svc token reason).Obeys (leaseContract d callers) done failed h₂ :=
    fun h₂ reason g₂ => releaseOne_obeys (fun h' row g shown _ => normal₁ h' row (g₂.trans g)
      shown) fun h' x g => raised₁ h' x (g₂.trans g)
  dsimp only
  split
  · rename_i expired
    exact expireRequested_obeys shown₁ expired.1 normal₁ raised₁
  · split
    · exact unchanged
    · split
      · rename_i uncertain
        split
        · exact unchanged
        · rw [bind_eq, obeys_bind]
          refine resolveUncertainCreation_obeys shown₁ uncertain.2 uncertain.1
            (fun h₂ row g₂ shown₂ _ => ?_) raised₁
          split
          · exact released h₂ _ g₂
          · exact normal₁ h₂ row g₂ shown₂
      · split
        · exact released h₁ _ (List.suffix_refl h₁)
        · split
          · exact released h₁ _ (List.suffix_refl h₁)
          · split
            · split
              · rw [bind_eq, obeys_bind]
                refine observeCatalogWorkload_obeys (fun h₂ g₂ => ?_) raised₁
                exact required_obeys
                  (fun h' row g shown _ => normal₁ h' row (g₂.trans g) shown)
                  fun h' x g => raised₁ h' x (g₂.trans g)
              · exact reconcileStarted_obeys shown₁ normal₁ raised₁
            · rw [bind_eq, obeys_bind]
              refine reconcileJob_obeys (fun h₂ row g₂ shown₂ => normal₁ h₂ row g₂ shown₂)
                (fun h₂ g₂ => ?_) raised₁
              exact reconcileStarted_obeys (shown₁.mono g₂)
                (fun h' row g => normal₁ h' row (g₂.trans g))
                fun h' x g => raised₁ h' x (g₂.trans g)

theorem reconcileOne_obeys {done : Past → Option Lease → Prop}
    (normal : ∀ h' result, h <:+ h' → done h' result)
    (raised : ∀ h' x, h <:+ h' → failed h' x) :
    (reconcileOne svc token).Obeys (leaseContract d callers) done failed h := by
  unfold reconcileOne
  rw [bind_eq, obeys_bind]
  refine getLease_obeys (fun h₁ row g₁ shown₁ _ => ?_) fun h₁ g₁ => normal h₁ none g₁
  dsimp only
  split
  · split
    · rw [bind_eq, obeys_bind]
      exact reconcileBilling_obeys shown₁ (fun h' _ g _ _ => normal h' _ (g₁.trans g))
        fun h' x g => raised h' x (g₁.trans g)
    · exact normal h₁ _ g₁
  · rw [bind_eq, obeys_bind]
    exact reconcileActive_obeys shown₁ (fun h' _ g _ => normal h' _ (g₁.trans g))
      fun h' x g => raised h' x (g₁.trans g)

/-! ## One pass -/

theorem reconcileEach_obeys {done : Past → List Lease → Prop}
    {attempt : String → Co (Option Lease)}
    (each : ∀ h₁ token, h <:+ h₁ → ∀ (after : Past → Option Lease → Prop) (or : Past → Exn → Prop),
      (∀ h' result, h₁ <:+ h' → after h' result) → (∀ h' x, h₁ <:+ h' → or h' x) →
      (attempt token).Obeys (leaseContract d callers) after or h₁)
    (normal : ∀ h' results, h <:+ h' → done h' results)
    (raised : ∀ h' x, h <:+ h' → failed h' x) (initials : List Lease) :
    (reconcileEach attempt initials).Obeys (leaseContract d callers) done failed h := by
  induction initials generalizing h done with
  | nil => exact normal h [] (List.suffix_refl h)
  | cons initial rest ih =>
      have onward : ∀ h₁ result, h <:+ h₁ →
          ((do
            let results ← reconcileEach attempt rest
            .pure (Option.toList result ++ results)) : Co (List Lease)).Obeys
              (leaseContract d callers) done failed h₁ := by
        intro h₁ result g₁
        rw [bind_eq, obeys_bind]
        exact ih (fun h₂ token g₂ => each h₂ token (g₁.trans g₂))
          (fun h' results g => normal h' _ (g₁.trans g))
          fun h' x g => raised h' x (g₁.trans g)
      unfold reconcileEach
      rw [bind_eq, obeys_bind, guardedAttempt, obeys_except]
      refine each h _ (List.suffix_refl h) _ _ onward
        fun h₁ x g₁ => ⟨fun _ => ?_, fun _ => raised h₁ x g₁⟩
      exact recordReconcileError_obeys (fun h' result g => onward h' result (g₁.trans g))
        fun h' x g => raised h' x (g₁.trans g)

theorem reconcile_obeys {done : Past → List Lease → Prop}
    (normal : ∀ h' results, h <:+ h' → done h' results)
    (raised : ∀ h' x, h <:+ h' → failed h' x) :
    (reconcile svc).Obeys (leaseContract d callers) done failed h := by
  unfold reconcile
  refine ⟨trivial, fun roots _ => ?_⟩
  have g₁ := grows (⟨.listIncompleteFamilyReleases, roots⟩ : Event Effects) (List.suffix_refl h)
  dsimp only
  rw [bind_eq, obeys_bind]
  refine reconcileEach_obeys (fun h₂ token _ after or normal' raised' => ?_)
    (fun h₂ families g₂ => ?_) (fun h' x g => raised h' x (g₁.trans g)) roots
  · rw [reconcileFamily, bind_eq, obeys_bind]
    exact release_obeys (fun h' row g _ => normal' h' _ g) raised'
  · have grown₂ := g₁.trans g₂
    refine ⟨trivial, fun rows _ => ?_⟩
    have g₃ := grows (⟨.listForReconciliation, rows⟩ : Event Effects) grown₂
    dsimp only
    rw [bind_eq, obeys_bind]
    exact reconcileEach_obeys
      (fun h₄ token _ after or normal' raised' => reconcileOne_obeys normal' raised')
      (fun h' leases g => normal h' _ (g₃.trans g)) (fun h' x g => raised h' x (g₃.trans g)) rows

/-! ## The whole service -/

/-- The tasks of the system: the public operations of a service with these digests, on any
arguments.  An acquisition uses the resource name that belongs to its cleanup token, and a
host confirms only digests that hosts confirm. -/
inductive Admits (d : Digests) (callers : Callers) : Co Unit → Prop
  | acquire (svc : Service) (request : PodRequest) :
      svc.digests = d → request.resourceName = callers.names request.cleanupToken →
      Admits d callers (acquire svc request).void
  | acquireCatalog (svc : Service) (request : CapacityRequest)
      (environment : List (String × String)) (waitForReady : Bool) :
      svc.digests = d → request.resourceName d = callers.names request.capacityId →
      Admits d callers (acquireCatalog svc request environment waitForReady).void
  | pollCatalogReadiness (svc : Service) (capacityId ownerId workloadId : String) :
      svc.digests = d →
      Admits d callers (pollCatalogReadiness svc capacityId ownerId workloadId).void
  | heartbeat (token : String) : Admits d callers (heartbeat token).void
  | recordJob (token jobId : String) : Admits d callers (recordJob token jobId).void
  | recordOperationError (svc : Service) (token : String) (error : Exn) :
      svc.digests = d → Admits d callers (recordOperationError svc token error).void
  | recordStatus (svc : Service) (token status : String) :
      svc.digests = d → Admits d callers (recordStatus svc token status).void
  | recordResultRetrieved (token : String) :
      Admits d callers (recordResultRetrieved token).void
  | requestCancellation (token : String) : Admits d callers (requestCancellation token).void
  | release (svc : Service) (token reason : String) :
      svc.digests = d → Admits d callers (release svc token reason).void
  | submitCatalogWorkload (svc : Service) (capacityId ownerId workloadId : String) :
      svc.digests = d →
      Admits d callers (submitCatalogWorkload svc capacityId ownerId workloadId).void
  | observeCatalogWorkload (svc : Service) (capacityId ownerId workloadId : String) :
      svc.digests = d →
      Admits d callers (observeCatalogWorkload svc capacityId ownerId workloadId)
  | retrieveCatalogResult (svc : Service) (capacityId ownerId workloadId : String) :
      svc.digests = d →
      Admits d callers (retrieveCatalogResult svc capacityId ownerId workloadId).void
  | recordCatalogWorkerEvidence (svc : Service) (capacityId ownerId workloadId : String)
      (envelope : Except Exn WorkerEvidence) :
      svc.digests = d →
      Admits d callers
        (recordCatalogWorkerEvidence svc capacityId ownerId workloadId envelope).void
  | acknowledgeCatalogResult (svc : Service) (capacityId ownerId workloadId : String)
      (acknowledgement : Option (List (String × Json))) :
      svc.digests = d →
      Admits d callers
        (acknowledgeCatalogResult svc capacityId ownerId workloadId acknowledgement).void
  | recoverCatalogResult (svc : Service) (capacityId ownerId workloadId : String)
      (recovery : List (String × Json)) :
      svc.digests = d →
      Admits d callers (recoverCatalogResult svc capacityId ownerId workloadId recovery).void
  | releaseCatalogResult (svc : Service) (capacityId ownerId workloadId : String)
      (hostConfirmed : Option String) :
      svc.digests = d → (∀ digest, hostConfirmed = some digest → callers.confirms digest) →
      Admits d callers (releaseCatalogResult svc capacityId ownerId workloadId hostConfirmed).void
  | cancelCatalogWorkload (svc : Service) (capacityId ownerId workloadId : String) :
      svc.digests = d →
      Admits d callers (cancelCatalogWorkload svc capacityId ownerId workloadId).void
  | reconcile (svc : Service) : svc.digests = d → Admits d callers (reconcile svc).void

/-- Every task of the system keeps the contract. -/
theorem Admits.safe {p : Co Unit} (admits : Admits d callers p) :
    p.Safe (leaseContract d callers) [] := by
  have drop : ∀ {α : Type} {q : Co α}, q.Safe (leaseContract d callers) [] →
      q.void.Safe (leaseContract d callers) [] := by
    intro α q safe
    rw [Safe, void, obeys_bind]
    exact safe
  cases admits with
  | acquire svc request _ named =>
      exact drop (acquireLease_obeys .nil named (by simp) (by simp))
  | acquireCatalog svc request environment waitForReady configured named =>
      exact drop (acquireCatalog_obeys .nil (by rw [configured]; exact named) (by simp)
        (by simp))
  | pollCatalogReadiness => exact drop (pollCatalogReadiness_obeys (by simp) (by simp))
  | heartbeat => exact drop (heartbeat_obeys (by simp) (by simp))
  | recordJob => exact drop (recordJob_obeys (by simp) (by simp))
  | recordOperationError => exact drop (recordOperationError_obeys (by simp) (by simp))
  | recordStatus => exact drop (recordStatus_obeys (by simp) (by simp))
  | recordResultRetrieved => exact drop (recordResultRetrieved_obeys (by simp) (by simp))
  | requestCancellation => exact drop (requestCancellation_obeys (by simp) (by simp))
  | release => exact drop (release_obeys (by simp) (by simp))
  | submitCatalogWorkload => exact drop (submitCatalogWorkload_obeys (by simp) (by simp))
  | observeCatalogWorkload => exact observeCatalogWorkload_obeys (by simp) (by simp)
  | retrieveCatalogResult => exact drop (retrieveCatalogResult_obeys (by simp) (by simp))
  | recordCatalogWorkerEvidence =>
      exact drop (recordCatalogWorkerEvidence_obeys (by simp) (by simp))
  | acknowledgeCatalogResult svc _ _ _ _ configured =>
      exact drop (acknowledgeCatalogResult_obeys configured (by simp) (by simp))
  | recoverCatalogResult svc _ _ _ _ configured =>
      exact drop (recoverCatalogResult_obeys configured (by simp) (by simp))
  | releaseCatalogResult svc _ _ _ _ _ confirms =>
      exact drop (releaseCatalogResult_obeys confirms (by simp) (by simp))
  | cancelCatalogWorkload => exact drop (cancelCatalogWorkload_obeys (by simp) (by simp))
  | reconcile => exact drop (reconcile_obeys (by simp) (by simp))

end KestrelRunpod.Pod
