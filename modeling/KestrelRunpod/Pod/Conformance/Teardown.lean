import KestrelRunpod.Pod.Conformance.Transitions

/-!
# Conformance of settlement and teardown

`_release_one` and everything below it keeps the contract from any history: what a write
needs to know is read from the row the function was given, or learned on the way.
-/

namespace KestrelRunpod.Pod

open Interleave Program

variable {d : Digests} {callers : Callers} {svc : Service} {h : Past}
  {token reason : String} {lease : Lease} {done : Past → Lease → Prop}
  {failed : Past → Exn → Prop}

/-! ## Retryable failures -/

theorem recordRetryableFailure_obeys {x : Exn} {uncertain : Option Bool}
    (warranted : Known h token fun row =>
      row.state ≠ .requested ∨ row.creationUncertain = true)
    (doubt : uncertain = none ∨ uncertain = some true ∧ Known h token fun row =>
      row.source = .created ∨ row.creationUncertain = true)
    (same : lease.cleanupToken = token)
    (normal : ∀ h' row, h <:+ h' → Shown h' row → row.cleanupToken = token → done h' row)
    (raised : ∀ h' x, h <:+ h' → failed h' x) :
    (recordRetryableFailure svc lease x uncertain).Obeys (leaseContract d callers) done failed
      h := by
  subst same
  unfold recordRetryableFailure
  rw [bind_eq, obeys_bind]
  refine required_obeys (fun h₁ row g₁ shown₁ same₁ => ?_) raised
  split
  · exact normal h₁ row g₁ shown₁ same₁
  · rw [bind_eq, obeys_bind]
    refine now_obeys fun h₂ t g₂ _ => ?_
    have grown := g₁.trans g₂
    refine transitionNonterminal_obeys (.retryable x t uncertain) rfl
      (fun h' cur g _ shown sameCur active => ?_)
      (fun h' row' g shown same _ => normal h' row' (grown.trans g) shown (same.trans same₁))
      (fun h' x g => raised h' x (grown.trans g)) svc.fuel (shown₁.mono g₂) rfl
    rw [Write.Guard, sameCur, same₁]
    refine ⟨active, warranted.mono (grown.trans g), ?_⟩
    rcases doubt with none | ⟨some, known⟩
    · exact .inl none
    · exact .inr ⟨some, known.mono (grown.trans g)⟩

/-! ## Settlement -/

theorem zeroCostReceipt_obeys {done : Past → BillingReceipt → Prop}
    (normal : ∀ h' receipt, h <:+ h' → receipt.isZero → done h' receipt)
    (raised : ∀ h' x, h <:+ h' → failed h' x) :
    (zeroCostReceipt svc lease reason).Obeys (leaseContract d callers) done failed h := by
  unfold zeroCostReceipt
  rw [bind_eq, obeys_bind]
  refine obeys_capacitySpec (fun spec _ => ?_) fun x => raised _ _ (List.suffix_refl _)
  rw [bind_eq, obeys_bind, obeys_now]
  intro t
  rw [obeys_ofExcept]
  refine ⟨fun receipt built => normal _ receipt (List.suffix_cons _ _) ?_,
    fun x _ => raised _ _ (List.suffix_cons _ _)⟩
  unfold BillingReceipt.build at built
  split at built
  · cases built
    exact ⟨rfl, rfl⟩
  · cases built

theorem revokeAndRelease_obeys (shown : Shown h lease)
    (normal : ∀ h' row, h <:+ h' → Shown h' row → row.cleanupToken = lease.cleanupToken →
      done h' row)
    (raised : ∀ h' x, h <:+ h' → failed h' x) :
    (revokeAndRelease svc lease).Obeys (leaseContract d callers) done failed h := by
  unfold revokeAndRelease
  split
  · exact raised _ _ (List.suffix_refl _)
  · rename_i settled
    rw [ne_eq, Classical.not_not] at settled
    rw [bind_eq, obeys_bind]
    refine obeys_requireCapabilityStore ?_ fun x => raised _ _ (List.suffix_refl _)
    rw [bind_eq, obeys_bind]
    refine obeys_capacitySpec (fun spec has => ?_) fun x => raised _ _ (List.suffix_refl _)
    rw [bind_eq, obeys_bind]
    refine await_obeys trivial (fun h₁ _ g₁ replied => ?_) fun h₁ x g₁ _ => raised h₁ x g₁
    rw [bind_eq, obeys_bind]
    refine required_obeys (fun h₂ row g₂ shown₂ same₂ => ?_)
      fun h' x g => raised h' x (g₁.trans g)
    have grown₂ := g₁.trans g₂
    split
    · exact normal h₂ row grown₂ shown₂ same₂
    · rename_i active
      rw [Bool.not_eq_true] at active
      rw [bind_eq, obeys_bind]
      refine now_obeys fun h₃ t g₃ _ => ?_
      have grown₃ := grown₂.trans g₃
      refine compareAndSet_obeys (.revoked t) (shown₂.mono g₃)
        ⟨active, lease, spec, shown.mono grown₃, same₂.symm, settled, has, ?_⟩
        (Write.makes_base rfl)
        (fun h' current g shown _ same _ => normal h' _ (grown₃.trans g) shown
          (by simp [same, same₂]))
        fun h' x g => raised h' x (grown₃.trans g)
      rw [same₂]
      exact replied.mono (g₂.trans g₃)

/-- Settlement without capacity, through any write of that shape. -/
theorem settleZero_obeys {changes : Changes} {receipt : BillingReceipt} {t : Instant}
    (write : Write) (merging : write.merges = true)
    (base : write.base = zeroChanges changes receipt t)
    (update : write.update =
      { lifecycle := { billingReconciledAt := some t }, billing := some receipt })
    (shown : Shown h lease)
    (warranted : ∀ h' cur, h <:+ h' → Shown h' cur → cur.cleanupToken = lease.cleanupToken →
      cur.isTerminal = false → write.Guard d callers h' cur)
    (normal : ∀ h' row, h <:+ h' → Shown h' row → row.cleanupToken = lease.cleanupToken →
      done h' row)
    (raised : ∀ h' x, h <:+ h' → failed h' x) :
    (settleZero svc lease changes receipt t).Obeys (leaseContract d callers) done failed h := by
  unfold settleZero
  rw [bind_eq, obeys_bind, show ({ changes with
    state := some .releasing, billingState := some .authoritative,
    billingReceipt := some receipt, terminatedAt := some t } : Changes) = write.base from
    base.symm, ← update]
  refine transitionWithEvidence_obeys write merging
    (fun h' cur g shown same active _ => warranted h' cur g shown same active)
    (fun h₁ row g₁ shown₁ same₁ _ => ?_) raised svc.fuel shown rfl
  split
  · exact revokeAndRelease_obeys shown₁
      (fun h' row' g shown' same' => normal h' row' (g₁.trans g) shown' (same'.trans same₁))
      fun h' x g => raised h' x (g₁.trans g)
  · exact normal h₁ row g₁ shown₁ same₁

theorem settleBilling_obeys {receipt : BillingReceipt} (shown : Shown h lease)
    (warranted : ∀ h' cur, h <:+ h' → Shown h' cur → cur.cleanupToken = lease.cleanupToken →
      cur.isTerminal = false → (Write.billingSettled receipt).Guard d callers h' cur)
    (normal : ∀ h' row, h <:+ h' → Shown h' row → row.cleanupToken = lease.cleanupToken →
      done h' row)
    (raised : ∀ h' x, h <:+ h' → failed h' x) :
    (settleBilling svc lease receipt).Obeys (leaseContract d callers) done failed h := by
  have revoke : ∀ h₁ row, h <:+ h₁ → Shown h₁ row → row.cleanupToken = lease.cleanupToken →
      (revokeAndRelease svc row).Obeys (leaseContract d callers) done failed h₁ :=
    fun h₁ row g₁ shown₁ same₁ => revokeAndRelease_obeys shown₁
      (fun h' row' g shown' same' => normal h' row' (g₁.trans g) shown' (same'.trans same₁))
      fun h' x g => raised h' x (g₁.trans g)
  unfold settleBilling
  rw [bind_eq, obeys_bind, obeys_except]
  refine transitionWithEvidence_obeys (.billingSettled receipt) rfl
    (fun h' cur g shown same active _ => warranted h' cur g shown same active)
    (fun h₁ row g₁ shown₁ same₁ _ => revoke h₁ row g₁ shown₁ same₁)
    (fun h₁ x g₁ => ⟨fun _ => ?_, fun _ => raised h₁ x g₁⟩) svc.fuel shown rfl
  rw [bind_eq, obeys_bind]
  refine required_obeys (fun h₂ row g₂ shown₂ same₂ => ?_)
    fun h' x g => raised h' x (g₁.trans g)
  split
  · exact raised h₂ x (g₁.trans g₂)
  · exact revoke h₂ row (g₁.trans g₂) shown₂ same₂

theorem reconcileBilling_obeys (shown : Shown h lease)
    (normal : ∀ h' row, h <:+ h' → Shown h' row → row.cleanupToken = lease.cleanupToken →
      done h' row)
    (raised : ∀ h' x, h <:+ h' → failed h' x) :
    (reconcileBilling svc lease).Obeys (leaseContract d callers) done failed h := by
  have here : h <:+ h := List.suffix_refl h
  unfold reconcileBilling
  split
  · exact normal h lease here shown rfl
  · rename_i spec hasSpec
    have catalog : lease.isCatalogAttempt = true := by simp [Lease.isCatalogAttempt, hasSpec]
    split
    · exact revokeAndRelease_obeys shown normal raised
    · rename_i unsettled
      -- Every plain billing update of this function is over the row it was given.
      have plain : ∀ (write : Write) (h₁ : Past), h <:+ h₁ → write.merges = false →
          write.Guard d callers h₁ lease →
          (compareAndSet lease write.base).Obeys (leaseContract d callers) done failed h₁ :=
        fun write h₁ g₁ plain guarded => compareAndSet_obeys write (shown.mono g₁) guarded
          (Write.makes_base plain)
          (fun h' current g shown' _ same _ => normal h' _ (g₁.trans g) shown' (by simp [same]))
          fun h' x g => raised h' x (g₁.trans g)
      split
      · rename_i noPod
        split
        · exact plain (.billingUnresolved "AmbiguousCreateBillingUnresolved") h here rfl
            ⟨catalog, unsettled⟩
        · rename_i certain
          rw [Bool.not_eq_true] at certain
          rw [bind_eq, obeys_bind]
          refine zeroCostReceipt_obeys (fun h₁ receipt g₁ zero => ?_) raised
          refine settleBilling_obeys (shown.mono g₁)
            (fun h' cur g _ same active => ⟨active, .inl ⟨zero, lease,
              shown.mono (g₁.trans g), same.symm, catalog, noPod, certain, unsettled⟩⟩)
            (fun h' row g => normal h' row (g₁.trans g)) fun h' x g => raised h' x (g₁.trans g)
      · rename_i pod hasPod
        split
        · exact raised _ _ here
        · rename_i terminatedAt terminated
          split
          · exact plain (.billingUnresolved "RealizedPlacementBillingUnresolved") h here rfl
              ⟨catalog, unsettled⟩
          · rename_i realized found
            obtain ⟨evidence, hasEvidence, hasPlacement⟩ := Option.bind_eq_some_iff.mp found
            split
            · exact plain (.billingUnresolved "RealizedPlacementBillingUnresolved") h here rfl
                ⟨catalog, unsettled⟩
            · rename_i samePod
              rw [ne_eq, Classical.not_not] at samePod
              rw [bind_eq, obeys_bind, obeys_await]
              refine ⟨trivial, fun id => ⟨fun billed => ?_, fun x =>
                raised _ x (grows _ (grows _ here))⟩⟩
              have grown := grows (⟨.recv id (.finalBilling pod lease.createdAt terminatedAt
                realized.hourlyRateUsd), .ok billed⟩ : Event Effects)
                (grows (⟨.send lease.cleanupToken (.finalBilling pod lease.createdAt
                  terminatedAt realized.hourlyRateUsd), id⟩ : Event Effects) here)
              split
              · split
                · exact normal _ lease grown (shown.mono grown) rfl
                · exact plain .billingPending _ grown rfl
                    ⟨catalog, unsettled, by simp [hasPod], by simp [terminated]⟩
              · rename_i receipt
                split
                · exact raised _ _ grown
                · rename_i receiptPod
                  rw [ne_eq, Classical.not_not] at receiptPod
                  split
                  · exact raised _ _ grown
                  · rename_i covers
                    split
                    · exact raised _ _ grown
                    · rename_i rate
                      rw [ne_eq, Classical.not_not] at rate
                      refine settleBilling_obeys (shown.mono grown)
                        (fun h' cur g _ same active => ⟨active, .inr (.mono g ?_)⟩)
                        (fun h' row g => normal h' row (grown.trans g))
                        fun h' x g => raised h' x (grown.trans g)
                      rw [same]
                      exact ⟨lease, pod, terminatedAt, evidence, realized, shown.mono grown,
                        rfl, catalog, unsettled, hasPod, terminated, hasEvidence, hasPlacement,
                        samePod, ⟨id, [_], h, rfl, shown, List.mem_cons_self⟩, receiptPod,
                        not_lt.mp covers, rate⟩

/-! ## Uncertain creation -/

theorem findRecovered_obeys {done : Past → Option (String × Option RealizedPlacement) → Prop}
    (shown : Shown h lease)
    (normal : ∀ h' found, h <:+ h' → (∀ pod placement, found = some (pod, placement) →
      Recovered h' lease.cleanupToken pod placement lease.isCatalogAttempt) → done h' found)
    (raised : ∀ h' x, h <:+ h' → failed h' x) :
    (findRecovered lease).Obeys (leaseContract d callers) done failed h := by
  unfold findRecovered
  split
  · rename_i spec hasSpec
    rw [bind_eq, obeys_bind]
    refine await_obeys trivial (fun h₁ found g₁ replied => ?_) fun h₁ x g₁ _ => raised h₁ x g₁
    refine normal h₁ _ g₁ fun pod placement is => ?_
    obtain ⟨created, rfl, pair⟩ := Option.map_eq_some_iff.mp is
    cases pair
    exact ⟨lease, shown.mono g₁, rfl, rfl, .inl ⟨spec, hasSpec, replied⟩⟩
  · rename_i noSpec
    rw [bind_eq, obeys_bind]
    refine await_obeys trivial (fun h₁ found g₁ replied => ?_) fun h₁ x g₁ _ => raised h₁ x g₁
    refine normal h₁ _ g₁ fun pod placement is => ?_
    obtain ⟨id, rfl, pair⟩ := Option.map_eq_some_iff.mp is
    cases pair
    exact ⟨lease, shown.mono g₁, rfl, rfl, .inr ⟨noSpec, rfl, replied⟩⟩

theorem resolveFound_obeys {found : Option (String × Option RealizedPlacement)}
    (shown : Shown h lease) (uncertain : lease.creationUncertain = true)
    (noPod : lease.providerPodId = none)
    (recovered : ∀ pod placement, found = some (pod, placement) →
      Recovered h lease.cleanupToken pod placement lease.isCatalogAttempt)
    (normal : ∀ h' row, h <:+ h' → Shown h' row → row.cleanupToken = lease.cleanupToken →
      done h' row)
    (raised : ∀ h' x, h <:+ h' → failed h' x) :
    (resolveFound svc lease reason found).Obeys (leaseContract d callers) done failed h := by
  cases found with
  | some pair =>
      obtain ⟨pod, placement⟩ := pair
      rw [resolveFound, bind_eq, obeys_bind]
      refine now_obeys fun h₁ t g₁ read => ?_
      refine transitionWithEvidence_obeys
        (.adopted pod placement lease.isCatalogAttempt t) rfl
        (fun h' cur g _ same active _ => ⟨active, ?_, ?_⟩)
        (fun h' row g shown same _ => normal h' row (g₁.trans g) shown same)
        (fun h' x g => raised h' x (g₁.trans g)) svc.fuel (shown.mono g₁) rfl
      · rw [same]
        exact (recovered pod placement rfl).mono (g₁.trans g)
      · rw [same]
        exact (read _ _ (shown.known rfl uncertain)).mono g
  | none =>
      rw [resolveFound, bind_eq, obeys_bind]
      refine now_obeys fun h₁ t g₁ read => ?_
      split
      · refine transitionNonterminal_obeys (.awaitingCreate reason
          (if lease.isCatalogAttempt then .unresolved else lease.billingState)) rfl
          (fun h' cur g _ _ same active => ⟨active, ?_⟩)
          (fun h' row g shown same _ => normal h' row (g₁.trans g) shown same)
          (fun h' x g => raised h' x (g₁.trans g)) svc.fuel (shown.mono g₁) rfl
        exact ⟨lease, shown.mono (g₁.trans g), same.symm, uncertain, noPod, rfl⟩
      · rename_i late
        rw [not_or, not_lt, Bool.not_eq_true] at late
        refine transitionNonterminal_obeys .giveUp rfl
          (fun h' cur g _ _ same active => ⟨active, t, ?_⟩)
          (fun h' row g shown same _ => normal h' row (g₁.trans g) shown same)
          (fun h' x g => raised h' x (g₁.trans g)) svc.fuel (shown.mono g₁) rfl
        rw [same]
        exact (read _ _ (shown.known rfl ⟨late.2, uncertain, noPod, late.1⟩)).mono g

theorem resolveUncertainCreation_obeys (shown : Shown h lease)
    (uncertain : lease.creationUncertain = true) (noPod : lease.providerPodId = none)
    (normal : ∀ h' row, h <:+ h' → Shown h' row → row.cleanupToken = lease.cleanupToken →
      done h' row)
    (raised : ∀ h' x, h <:+ h' → failed h' x) :
    (resolveUncertainCreation svc lease reason).Obeys (leaseContract d callers) done failed
      h := by
  unfold resolveUncertainCreation
  rw [bind_eq, obeys_bind, obeys_except, obeys_bind]
  refine findRecovered_obeys shown (fun h₁ found g₁ recovered => ?_)
    fun h₁ x g₁ => ⟨fun _ => ?_, fun _ => raised h₁ x g₁⟩
  · exact resolveFound_obeys (shown.mono g₁) uncertain noPod recovered
      (fun h' row g => normal h' row (g₁.trans g)) fun h' x g => raised h' x (g₁.trans g)
  · exact recordRetryableFailure_obeys ((shown.mono g₁).known rfl (.inr uncertain))
      (.inr ⟨rfl, (shown.mono g₁).known rfl (.inr uncertain)⟩) rfl
      (fun h' row g => normal h' row (g₁.trans g)) fun h' x g => raised h' x (g₁.trans g)

/-! ## Release of one attempt -/

theorem countStopAttempt_obeys
    (normal : ∀ h' row, h <:+ h' → Shown h' row → row.cleanupToken = token → done h' row)
    (raised : ∀ h' x, h <:+ h' → failed h' x) (fuel : Nat) (shown : Shown h lease)
    (same : lease.cleanupToken = token) :
    (countStopAttempt token fuel lease).Obeys (leaseContract d callers) done failed h := by
  induction fuel generalizing h lease with
  | zero => trivial
  | succ fuel ih =>
      unfold countStopAttempt
      split
      · exact normal h lease (List.suffix_refl h) shown same
      · rename_i active
        rw [Bool.not_eq_true] at active
        rw [obeys_except]
        refine compareAndSet_obeys (.stopAttempt (lease.stopAttempts + 1)) shown ⟨active, rfl⟩
          (Write.makes_base rfl)
          (fun h' current g shown' _ same' _ => normal h' _ g shown' (by simp [same', same]))
          fun h₁ x g₁ => ⟨fun _ => ?_, fun _ => raised h₁ x g₁⟩
        rw [bind_eq, obeys_bind]
        refine required_obeys (fun h₂ row g₂ shown₂ same₂ => ?_)
          fun h' x g => raised h' x (g₁.trans g)
        exact ih (fun h' row g => normal h' row ((g₁.trans g₂).trans g))
          (fun h' x g => raised h' x ((g₁.trans g₂).trans g)) shown₂ same₂

/-- The stop of a lease is confirmed: by termination for a catalog attempt. -/
def StopReplied (h : Past) (lease : Lease) (confirmed : Bool) : Prop :=
  ∃ pod, lease.providerPodId = some pod ∧
    ((lease.isCatalogAttempt = true ∧
        Replied h lease.cleanupToken (.terminate pod) (.ok confirmed)) ∨
      (lease.isCatalogAttempt = false ∧
        Replied h lease.cleanupToken (.stop pod) (.ok confirmed)))

theorem endCapacity_obeys {done : Past → Bool → Prop} (shown : Shown h lease)
    (stopping : Known h lease.cleanupToken fun row => row.state = .releasing)
    (normal : ∀ h' confirmed, h <:+ h' → StopReplied h' lease confirmed → done h' confirmed)
    (raised : ∀ h' x, h <:+ h' → failed h' x) :
    (endCapacity lease).Obeys (leaseContract d callers) done failed h := by
  unfold endCapacity
  rw [bind_eq, obeys_bind]
  refine obeys_podId (fun pod has => ?_) fun x => raised h x (List.suffix_refl h)
  split
  · rename_i catalog
    exact await_obeys ⟨stopping, shown.known rfl ⟨catalog, has⟩⟩
      (fun h₁ confirmed g₁ replied => normal h₁ confirmed g₁
        ⟨pod, has, .inl ⟨catalog, replied⟩⟩) fun h₁ x g₁ _ => raised h₁ x g₁
  · rename_i training
    rw [Bool.not_eq_true] at training
    exact await_obeys ⟨stopping, shown.known rfl ⟨training, has⟩⟩
      (fun h₁ confirmed g₁ replied => normal h₁ confirmed g₁
        ⟨pod, has, .inr ⟨training, replied⟩⟩) fun h₁ x g₁ _ => raised h₁ x g₁

theorem confirmStopped_obeys (shown : Shown h lease)
    (stopping : Known h lease.cleanupToken fun row => row.state = .releasing)
    (stopped : StopReplied h lease true)
    (normal : ∀ h' row, h <:+ h' → Shown h' row → row.cleanupToken = lease.cleanupToken →
      done h' row)
    (raised : ∀ h' x, h <:+ h' → failed h' x) :
    (confirmStopped svc lease).Obeys (leaseContract d callers) done failed h := by
  unfold confirmStopped
  rw [bind_eq, obeys_bind]
  refine now_obeys fun h₁ t g₁ read => ?_
  have billed : ∀ h₂ row, h₁ <:+ h₂ → Shown h₂ row → row.cleanupToken = lease.cleanupToken →
      (if row.isCatalogAttempt = true then reconcileBilling svc row else .pure row).Obeys
        (leaseContract d callers) done failed h₂ := by
    intro h₂ row g₂ shown₂ same₂
    have grown := g₁.trans g₂
    split
    · exact reconcileBilling_obeys shown₂
        (fun h' row' g shown' same' => normal h' row' (grown.trans g) shown'
          (same'.trans same₂)) fun h' x g => raised h' x (grown.trans g)
    · exact normal h₂ row grown shown₂ same₂
  obtain ⟨pod, has, ⟨catalog, replied⟩ | ⟨training, replied⟩⟩ := stopped
  · simp only [catalog, if_true]
    rw [bind_eq, obeys_bind]
    refine transitionWithEvidence_obeys (.terminateConfirmed t) rfl
      (fun h' cur g _ same active _ => ⟨active, ⟨lease, pod, shown.mono (g₁.trans g),
        same.symm, catalog, has, ?_⟩, ?_⟩)
      (fun h₂ row g₂ shown₂ same₂ _ => billed h₂ row g₂ shown₂ same₂)
      (fun h' x g => raised h' x (g₁.trans g)) svc.fuel (shown.mono g₁) rfl
    · rw [same]
      exact replied.mono (g₁.trans g)
    · rw [same]
      exact (read _ _ stopping).mono g
  · simp only [training]
    rw [bind_eq, obeys_bind]
    refine transitionWithEvidence_obeys (.stopConfirmed t) rfl
      (fun h' cur g _ same active _ => ⟨active, lease, pod, shown.mono (g₁.trans g),
        same.symm, training, has, ?_⟩)
      (fun h₂ row g₂ shown₂ same₂ _ => billed h₂ row g₂ shown₂ same₂)
      (fun h' x g => raised h' x (g₁.trans g)) svc.fuel (shown.mono g₁) rfl
    rw [same]
    exact replied.mono (g₁.trans g)

theorem stopCapacity_obeys (shown : Shown h lease) (same : lease.cleanupToken = token)
    (stopping : Known h token fun row => row.state = .releasing)
    (normal : ∀ h' row, h <:+ h' → Shown h' row → row.cleanupToken = token → done h' row)
    (raised : ∀ h' x, h <:+ h' → failed h' x) :
    (stopCapacity svc token reason lease).Obeys (leaseContract d callers) done failed h := by
  unfold stopCapacity
  rw [bind_eq, obeys_bind]
  refine countStopAttempt_obeys (fun h₁ row g₁ shown₁ same₁ => ?_) raised svc.fuel shown same
  split
  · exact normal h₁ row g₁ shown₁ same₁
  · subst same₁
    have stopping₁ := stopping.mono g₁
    have nonRequested : Known h₁ row.cleanupToken fun row =>
        row.state ≠ .requested ∨ row.creationUncertain = true :=
      stopping₁.weaken fun row is => .inl (by simp [is])
    rw [bind_eq, obeys_bind, obeys_except, obeys_bind]
    refine endCapacity_obeys shown₁ stopping₁ (fun h₂ confirmed g₂ replied => ?_)
      fun h₂ x g₂ => ⟨fun _ => ?_, fun _ => raised h₂ x (g₁.trans g₂)⟩
    · have grown := g₁.trans g₂
      cases confirmed with
      | true =>
          exact confirmStopped_obeys (shown₁.mono g₂) (stopping₁.mono g₂) replied
            (fun h' row' g => normal h' row' (grown.trans g))
            fun h' x g => raised h' x (grown.trans g)
      | false =>
          simp only [obeys_pure]
          rw [bind_eq, obeys_bind]
          refine now_obeys fun h₃ t g₃ _ => ?_
          have grown₃ := grown.trans g₃
          rw [bind_eq, obeys_bind]
          refine transitionNonterminal_obeys (.stopPending t) rfl
            (fun h' cur _ _ _ _ active => active) (fun h₄ row' g₄ shown₄ same₄ _ => ?_)
            (fun h' x g => raised h' x (grown₃.trans g)) svc.fuel (shown₁.mono (g₂.trans g₃)) rfl
          split
          · exact normal h₄ row' (grown₃.trans g₄) shown₄ same₄
          · exact raised h₄ _ (grown₃.trans g₄)
    · rw [bind_eq, obeys_bind]
      refine recordRetryableFailure_obeys (nonRequested.mono g₂) (.inl rfl) rfl
        (fun h₃ row' g₃ shown₃ same₃ => ?_) fun h' x g => raised h' x ((g₁.trans g₂).trans g)
      split
      · exact normal h₃ row' ((g₁.trans g₂).trans g₃) shown₃ same₃
      · exact raised h₃ _ ((g₁.trans g₂).trans g₃)

theorem beginReleasing_obeys (shown : Shown h lease) (hasPod : lease.providerPodId ≠ none)
    (normal : ∀ h' row, h <:+ h' → Shown h' row → row.cleanupToken = lease.cleanupToken →
      (row.isTerminal = true ∨ row.state = .releasing) → done h' row)
    (raised : ∀ h' x, h <:+ h' → failed h' x) :
    (beginReleasing svc lease).Obeys (leaseContract d callers) done failed h := by
  unfold beginReleasing
  split
  · rw [bind_eq, obeys_bind]
    refine now_obeys fun h₁ t g₁ _ => ?_
    refine transitionNonterminal_obeys (.releasing t) rfl
      (fun h' cur g _ _ same active =>
        ⟨active, lease, shown.mono (g₁.trans g), same.symm, hasPod⟩)
      (fun h₂ row g₂ shown₂ same₂ left => ?_) (fun h' x g => raised h' x (g₁.trans g)) svc.fuel
      (shown.mono g₁) rfl
    refine normal h₂ row (g₁.trans g₂) shown₂ same₂ (left.imp_right ?_)
    rintro ⟨seen, current, changes, _, _, _, makes, rfl⟩
    rw [Write.Makes, if_neg (by simp [Write.merges])] at makes
    subst makes
    rfl
  · rename_i stopping
    rw [ne_eq, Classical.not_not] at stopping
    exact normal h lease (List.suffix_refl h) shown rfl (.inr stopping)

theorem releaseWithPod_obeys (shown : Shown h lease) (same : lease.cleanupToken = token)
    (hasPod : lease.providerPodId ≠ none)
    (normal : ∀ h' row, h <:+ h' → Shown h' row → row.cleanupToken = token → done h' row)
    (raised : ∀ h' x, h <:+ h' → failed h' x) :
    (releaseWithPod svc token reason lease).Obeys (leaseContract d callers) done failed h := by
  subst same
  unfold releaseWithPod
  rw [bind_eq, obeys_bind]
  refine beginReleasing_obeys shown hasPod (fun h₁ row g₁ shown₁ same₁ stage => ?_) raised
  rcases stage with terminal | stopping
  · -- The attempt counter returns a terminal row as it is.
    unfold stopCapacity
    rw [bind_eq, obeys_bind]
    cases svc.fuel with
    | zero => trivial
    | succ fuel =>
        rw [countStopAttempt, if_pos terminal, obeys_pure, if_pos terminal]
        exact normal h₁ row g₁ shown₁ same₁
  · exact stopCapacity_obeys shown₁ same₁ (shown₁.known same₁ stopping)
      (fun h' row' g => normal h' row' (g₁.trans g)) fun h' x g => raised h' x (g₁.trans g)

theorem decideCreation_obeys (shown : Shown h lease)
    (normal : ∀ h' row, h <:+ h' → Shown h' row → row.cleanupToken = lease.cleanupToken →
      ¬ (row.providerPodId = none ∧ row.creationUncertain = true) → done h' row)
    (raised : ∀ h' x, h <:+ h' → failed h' x) :
    (decideCreation svc lease reason).Obeys (leaseContract d callers) done failed h := by
  unfold decideCreation
  split
  · rename_i uncertain
    rw [bind_eq, obeys_bind]
    refine resolveUncertainCreation_obeys shown uncertain.2 uncertain.1
      (fun h₁ row g₁ shown₁ same₁ => ?_) raised
    split
    · exact raised h₁ _ g₁
    · rename_i decided
      exact normal h₁ row g₁ shown₁ same₁ decided
  · rename_i decided
    exact normal h lease (List.suffix_refl h) shown rfl decided

theorem releaseWithoutPod_obeys (shown : Shown h lease) (noPod : lease.providerPodId = none)
    (certain : lease.creationUncertain = false)
    (normal : ∀ h' row, h <:+ h' → Shown h' row → row.cleanupToken = lease.cleanupToken →
      done h' row)
    (raised : ∀ h' x, h <:+ h' → failed h' x) :
    (releaseWithoutPod svc lease).Obeys (leaseContract d callers) done failed h := by
  unfold releaseWithoutPod
  rw [bind_eq, obeys_bind]
  refine now_obeys fun h₁ t g₁ _ => ?_
  split
  · rename_i catalog
    rw [bind_eq, obeys_bind]
    refine zeroCostReceipt_obeys (fun h₂ receipt g₂ zero => ?_)
      fun h' x g => raised h' x (g₁.trans g)
    have grown := g₁.trans g₂
    exact settleZero_obeys (.noCapacityZero t receipt) rfl rfl rfl (shown.mono grown)
      (fun h' cur g _ same active => ⟨active, zero, lease, shown.mono (grown.trans g), same.symm,
        catalog, noPod, certain⟩)
      (fun h' row g => normal h' row (grown.trans g)) fun h' x g => raised h' x (grown.trans g)
  · rename_i training
    rw [Bool.not_eq_true] at training
    rw [bind_eq, obeys_bind]
    refine transitionWithEvidence_obeys (.noCapacity t) rfl
      (fun h' cur g _ same active _ => ⟨active, lease, shown.mono (g₁.trans g), same.symm,
        training, noPod, certain⟩) (fun h₂ row g₂ shown₂ same₂ _ => ?_)
      (fun h' x g => raised h' x (g₁.trans g)) svc.fuel (shown.mono g₁) rfl
    have grown := g₁.trans g₂
    split
    · exact revokeAndRelease_obeys shown₂
        (fun h' row' g shown' same' => normal h' row' (grown.trans g) shown'
          (same'.trans same₂)) fun h' x g => raised h' x (grown.trans g)
    · exact normal h₂ row grown shown₂ same₂

theorem releaseOne_obeys
    (normal : ∀ h' row, h <:+ h' → Shown h' row → row.cleanupToken = token → done h' row)
    (raised : ∀ h' x, h <:+ h' → failed h' x) :
    (releaseOne svc token reason).Obeys (leaseContract d callers) done failed h := by
  unfold releaseOne
  rw [bind_eq, obeys_bind]
  refine required_obeys (fun h₁ lease g₁ shown same => ?_) raised
  subst same
  have normal₁ : ∀ h' row, h₁ <:+ h' → Shown h' row → row.cleanupToken = lease.cleanupToken →
      done h' row := fun h' row g => normal h' row (g₁.trans g)
  have raised₁ : ∀ h' x, h₁ <:+ h' → failed h' x := fun h' x g => raised h' x (g₁.trans g)
  split
  · exact normal h₁ lease g₁ shown rfl
  · split
    · exact reconcileBilling_obeys shown normal₁ raised₁
    · split
      · rename_i preexisting
        rw [bind_eq, obeys_bind]
        refine now_obeys fun h₂ t g₂ _ => ?_
        refine transitionNonterminal_obeys (.preexistingReleased t) rfl
          (fun h' cur g _ _ same active => ⟨active, lease, shown.mono (g₂.trans g), same.symm,
            preexisting⟩) (fun h' row g shown same _ => normal₁ h' row (g₂.trans g) shown same)
          (fun h' x g => raised₁ h' x (g₂.trans g)) svc.fuel (shown.mono g₂) rfl
      · rw [bind_eq, obeys_bind]
        refine decideCreation_obeys shown (fun h₂ row g₂ shown₂ same₂ decided => ?_) raised₁
        split
        · rename_i noPod
          rw [not_and, Bool.not_eq_true] at decided
          exact releaseWithoutPod_obeys shown₂ noPod (decided noPod)
            (fun h' row' g shown' same' => normal₁ h' row' (g₂.trans g) shown'
              (same'.trans same₂)) fun h' x g => raised₁ h' x (g₂.trans g)
        · rename_i hasPod
          exact releaseWithPod_obeys shown₂ same₂ hasPod
            (fun h' row' g => normal₁ h' row' (g₂.trans g))
            fun h' x g => raised₁ h' x (g₂.trans g)

/-! ## Release of a cleanup family -/

theorem markFamilyReleaseRequested_obeys
    (normal : ∀ h' row, h <:+ h' → Shown h' row → row.cleanupToken = token → done h' row)
    (raised : ∀ h' x, h <:+ h' → failed h' x) (fuel : Nat) (shown : Shown h lease)
    (same : lease.cleanupToken = token) :
    (markFamilyReleaseRequested token fuel lease).Obeys (leaseContract d callers) done failed
      h := by
  induction fuel generalizing h lease with
  | zero => trivial
  | succ fuel ih =>
      unfold markFamilyReleaseRequested
      split
      · exact normal h lease (List.suffix_refl h) shown same
      · rw [bind_eq, obeys_bind]
        refine now_obeys fun h₁ t g₁ _ => ?_
        rw [obeys_except]
        refine compareAndSet_obeys (.familyRequested t) (shown.mono g₁) trivial
          (Write.makes_base rfl)
          (fun h' current g shown' _ same' _ => normal h' _ (g₁.trans g) shown'
            (by simp [same', same]))
          fun h₂ x g₂ => ⟨fun _ => ?_, fun _ => raised h₂ x (g₁.trans g₂)⟩
        rw [bind_eq, obeys_bind]
        refine required_obeys (fun h₃ row g₃ shown₃ same₃ => ?_)
          fun h' x g => raised h' x ((g₁.trans g₂).trans g)
        exact ih (fun h' row g => normal h' row (((g₁.trans g₂).trans g₃).trans g))
          (fun h' x g => raised h' x (((g₁.trans g₂).trans g₃).trans g)) shown₃ same₃

theorem markFamilyReleaseComplete_obeys
    (normal : ∀ h' row, h <:+ h' → Shown h' row → row.cleanupToken = token → done h' row)
    (raised : ∀ h' x, h <:+ h' → failed h' x) (fuel : Nat) (shown : Shown h lease)
    (same : lease.cleanupToken = token) :
    (markFamilyReleaseComplete token fuel lease).Obeys (leaseContract d callers) done failed
      h := by
  induction fuel generalizing h lease with
  | zero => trivial
  | succ fuel ih =>
      unfold markFamilyReleaseComplete
      split
      · exact normal h lease (List.suffix_refl h) shown same
      · rw [bind_eq, obeys_bind]
        refine now_obeys fun h₁ t g₁ _ => ?_
        rw [obeys_except]
        refine compareAndSet_obeys (.familyComplete t) (shown.mono g₁) trivial
          (Write.makes_base rfl)
          (fun h' current g shown' _ same' _ => normal h' _ (g₁.trans g) shown'
            (by simp [same', same]))
          fun h₂ x g₂ => ⟨fun _ => ?_, fun _ => raised h₂ x (g₁.trans g₂)⟩
        rw [bind_eq, obeys_bind]
        refine required_obeys (fun h₃ row g₃ shown₃ same₃ => ?_)
          fun h' x g => raised h' x ((g₁.trans g₂).trans g)
        exact ih (fun h' row g => normal h' row (((g₁.trans g₂).trans g₃).trans g))
          (fun h' x g => raised h' x (((g₁.trans g₂).trans g₃).trans g)) shown₃ same₃

theorem releaseMembers_obeys {done : Past → Option (Option String × CleanupState) → Prop}
    (normal : ∀ h' failure, h <:+ h' → done h' failure)
    (raised : ∀ h' x, h <:+ h' → failed h' x) (members : List Lease)
    (failure : Option (Option String × CleanupState)) :
    (releaseMembers svc reason members failure).Obeys (leaseContract d callers) done failed
      h := by
  induction members generalizing h failure with
  | nil => exact normal h failure (List.suffix_refl h)
  | cons member members ih =>
      have rest : ∀ h₁ failure', h <:+ h₁ →
          (releaseMembers svc reason members failure').Obeys (leaseContract d callers) done failed
            h₁ := fun h₁ failure' g₁ =>
        ih (fun h' failure g => normal h' failure (g₁.trans g))
          (fun h' x g => raised h' x (g₁.trans g)) failure'
      unfold releaseMembers
      split
      · exact rest h failure (List.suffix_refl h)
      · rw [bind_eq, obeys_bind, obeys_except, obeys_bind]
        refine releaseOne_obeys (fun h₁ _ g₁ _ _ => rest h₁ failure g₁)
          fun h₁ x g₁ => ⟨fun _ => ?_, fun _ => raised h₁ x g₁⟩
        split
        · exact rest h₁ _ g₁
        · rw [bind_eq, obeys_bind]
          exact required_obeys (fun h₂ row g₂ _ _ => rest h₂ _ (g₁.trans g₂))
            fun h' x g => raised h' x (g₁.trans g)

theorem release_obeys
    (normal : ∀ h' row, h <:+ h' → Shown h' row → done h' row)
    (raised : ∀ h' x, h <:+ h' → failed h' x) :
    (release svc token reason).Obeys (leaseContract d callers) done failed h := by
  unfold release
  rw [bind_eq, obeys_bind]
  refine required_obeys (fun h₁ exact_ g₁ _ _ => ?_) raised
  split
  · exact releaseOne_obeys (fun h' row g shown _ => normal h' row (g₁.trans g) shown)
      fun h' x g => raised h' x (g₁.trans g)
  · rw [bind_eq, obeys_bind]
    refine required_obeys (fun h₂ current g₂ shown₂ same₂ => ?_)
      fun h' x g => raised h' x (g₁.trans g)
    have grown₂ := g₁.trans g₂
    rw [bind_eq, obeys_bind]
    refine markFamilyReleaseRequested_obeys (fun h₃ root g₃ _ _ => ?_)
      (fun h' x g => raised h' x (grown₂.trans g)) svc.fuel shown₂ same₂
    have grown₃ := grown₂.trans g₃
    rw [bind_eq, obeys_bind]
    refine ⟨trivial, fun members _ => ?_⟩
    have grown₄ := grows (⟨.listCleanupFamily token _, members⟩ : Event Effects) grown₃
    simp only [obeys_pure]
    rw [bind_eq, obeys_bind]
    refine releaseMembers_obeys (fun h₅ failure g₅ => ?_)
      (fun h' x g => raised h' x (grown₄.trans g)) members none
    have grown₅ := grown₄.trans g₅
    split
    · exact raised h₅ _ grown₅
    · rw [bind_eq, obeys_bind]
      refine required_obeys (fun h₆ row g₆ shown₆ same₆ => ?_)
        fun h' x g => raised h' x (grown₅.trans g)
      exact markFamilyReleaseComplete_obeys
        (fun h' row' g shown' _ => normal h' row' ((grown₅.trans g₆).trans g) shown')
        (fun h' x g => raised h' x ((grown₅.trans g₆).trans g)) svc.fuel shown₆ same₆

end KestrelRunpod.Pod
