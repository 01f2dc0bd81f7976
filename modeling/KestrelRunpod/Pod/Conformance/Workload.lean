import KestrelRunpod.Pod.Conformance.Acquisition

/-!
# Conformance of the workload operations

A submission and an acknowledgement are dispatched in the same turn in which the task last
read its row, so their proofs carry the read (`JustRead`) through the checks in between.
-/

namespace KestrelRunpod.Pod

open Interleave Program

variable {d : Digests} {callers : Callers} {svc : Service} {h : Past}
  {token capacityId ownerId workloadId : String} {lease : Lease}
  {done : Past → Lease → Prop} {failed : Past → Exn → Prop}

/-! ## Training leases -/

theorem obeys_requireLegacyTrainingMutation {done : Past → Unit → Prop}
    (present : lease.protocolOne = false → done h ()) (absent : ∀ x, failed h x) :
    (requireLegacyTrainingMutation lease).Obeys (leaseContract d callers) done failed h := by
  unfold requireLegacyTrainingMutation
  split
  · exact absent _
  · rename_i legacy
    exact present (by simpa [Lease.protocolOne] using legacy)

theorem recordJob_obeys {jobId : String}
    (normal : ∀ h' row, h <:+ h' → Shown h' row → done h' row)
    (raised : ∀ h' x, h <:+ h' → failed h' x) :
    (recordJob token jobId).Obeys (leaseContract d callers) done failed h := by
  unfold recordJob
  split
  · exact raised _ _ (List.suffix_refl h)
  · rw [bind_eq, obeys_bind]
    refine required_obeys (fun h₁ lease g₁ shown₁ _ => ?_) raised
    rw [bind_eq, obeys_bind]
    refine obeys_requireLegacyTrainingMutation (fun legacy => ?_) fun x => raised h₁ x g₁
    split
    · exact raised h₁ _ g₁
    · rename_i stage
      split
      · exact raised h₁ _ g₁
      · rw [bind_eq, obeys_bind]
        refine now_obeys fun h₂ t g₂ _ => ?_
        exact compareAndSet_obeys (.recordJob jobId t) (shown₁.mono g₂)
          ⟨legacy, by tauto⟩ (Write.makes_base rfl)
          (fun h' current g shown _ _ _ => normal h' _ ((g₁.trans g₂).trans g) shown)
          fun h' x g => raised h' x ((g₁.trans g₂).trans g)

theorem recordOperationError_obeys {error : Exn}
    (normal : ∀ h' row, h <:+ h' → Shown h' row → done h' row)
    (raised : ∀ h' x, h <:+ h' → failed h' x) :
    (recordOperationError svc token error).Obeys (leaseContract d callers) done failed h := by
  unfold recordOperationError
  rw [bind_eq, obeys_bind]
  refine required_obeys (fun h₁ lease g₁ shown₁ _ => ?_) raised
  split
  · exact normal h₁ lease g₁ shown₁
  · rw [bind_eq, obeys_bind]
    refine now_obeys fun h₂ t g₂ _ => ?_
    exact transitionNonterminal_obeys (.operationError error t) rfl
      (fun _ _ _ _ _ _ active => active)
      (fun h' row g shown _ _ => normal h' row ((g₁.trans g₂).trans g) shown)
      (fun h' x g => raised h' x ((g₁.trans g₂).trans g)) svc.fuel (shown₁.mono g₂) rfl

theorem recordStatus_obeys {status : String}
    (normal : ∀ h' row, h <:+ h' → Shown h' row → done h' row)
    (raised : ∀ h' x, h <:+ h' → failed h' x) :
    (recordStatus svc token status).Obeys (leaseContract d callers) done failed h := by
  unfold recordStatus
  rw [bind_eq, obeys_bind]
  refine required_obeys (fun h₁ lease g₁ shown₁ _ => ?_) raised
  rw [bind_eq, obeys_bind]
  refine obeys_requireLegacyTrainingMutation (fun legacy => ?_) fun x => raised h₁ x g₁
  split
  · exact normal h₁ lease g₁ shown₁
  · rw [bind_eq, obeys_bind]
    refine now_obeys fun h₂ t g₂ _ => ?_
    exact transitionNonterminal_obeys (.recordStatus status t) rfl
      (fun h' cur g _ _ same active =>
        ⟨active, lease, shown₁.mono (g₂.trans g), same.symm, legacy⟩)
      (fun h' row g shown _ _ => normal h' row ((g₁.trans g₂).trans g) shown)
      (fun h' x g => raised h' x ((g₁.trans g₂).trans g)) svc.fuel (shown₁.mono g₂) rfl

theorem recordResultRetrieved_obeys
    (normal : ∀ h' row, h <:+ h' → Shown h' row → done h' row)
    (raised : ∀ h' x, h <:+ h' → failed h' x) :
    (recordResultRetrieved token).Obeys (leaseContract d callers) done failed h := by
  unfold recordResultRetrieved
  rw [bind_eq, obeys_bind]
  refine required_obeys (fun h₁ lease g₁ shown₁ _ => ?_) raised
  rw [bind_eq, obeys_bind]
  refine obeys_requireLegacyTrainingMutation (fun legacy => ?_) fun x => raised h₁ x g₁
  split
  · exact raised h₁ _ g₁
  · rename_i stage
    rw [bind_eq, obeys_bind]
    refine now_obeys fun h₂ t g₂ _ => ?_
    exact compareAndSet_obeys (.resultRetrieved t) (shown₁.mono g₂) ⟨legacy, by tauto⟩
      (Write.makes_base rfl)
      (fun h' current g shown _ _ _ => normal h' _ ((g₁.trans g₂).trans g) shown)
      fun h' x g => raised h' x ((g₁.trans g₂).trans g)

theorem requestCancellation_obeys
    (normal : ∀ h' row, h <:+ h' → Shown h' row → done h' row)
    (raised : ∀ h' x, h <:+ h' → failed h' x) :
    (requestCancellation token).Obeys (leaseContract d callers) done failed h := by
  unfold requestCancellation
  rw [bind_eq, obeys_bind]
  refine required_obeys (fun h₁ lease g₁ shown₁ _ => ?_) raised
  split
  · exact normal h₁ lease g₁ shown₁
  · rename_i active
    rw [Bool.not_eq_true] at active
    rw [bind_eq, obeys_bind]
    refine now_obeys fun h₂ t g₂ _ => ?_
    exact compareAndSet_obeys (.cancelRequested lease.isCatalogAttempt t) (shown₁.mono g₂)
      ⟨active, rfl⟩ (Write.makes_base rfl)
      (fun h' current g shown _ _ _ => normal h' _ ((g₁.trans g₂).trans g) shown)
      fun h' x g => raised h' x ((g₁.trans g₂).trans g)

/-! ## Observations of a catalog workload -/

theorem writeObservation_obeys {done : Past → Recorded → Prop} (observation : Observation)
    (submitted : Bool) (t : Instant) {changes : Changes} {phases : Phases}
    (shown : Shown h lease)
    (warranted : ∀ h', h <:+ h' →
      (Write.observed observation submitted t changes phases).Guard d callers h' lease)
    (written : ∀ h' row, h <:+ h' → Shown h' row → row.cleanupToken = lease.cleanupToken →
      done h' (.done row))
    (conflict : ∀ h', h <:+ h' → done h' .again)
    (raised : ∀ h' x, h <:+ h' → failed h' x) :
    (writeObservation svc lease changes phases).Obeys (leaseContract d callers) done failed
      h := by
  unfold writeObservation
  rw [obeys_except, obeys_bind]
  split
  · rename_i terminal
    refine compareAndSet_obeys (.observed observation submitted t changes phases) shown
      (warranted h (List.suffix_refl h)) (by rw [Write.Makes, if_neg (by simp [terminal])]; rfl)
      (fun h' current g shown' _ same _ => written h' _ g shown' (by simp [same]))
      fun h' x g => ⟨fun _ => conflict h' g, fun _ => raised h' x g⟩
  · exact transitionFrom_obeys
      (.observed observation submitted t changes phases) rfl
      (fun h' cur g _ _ _ _ given => by rw [given rfl]; exact warranted h' g)
      (fun h' row g shown' same _ => written h' row g shown' same)
      (fun h' x g => ⟨fun _ => conflict h' g, fun _ => raised h' x g⟩) svc.fuel shown rfl

theorem recordCatalogObservation_obeys {observation : Observation} {submitted : Bool}
    (replied : WorkerReplied h capacityId observation submitted)
    (normal : ∀ h' row, h <:+ h' → Shown h' row → row.cleanupToken = capacityId → done h' row)
    (raised : ∀ h' x, h <:+ h' → failed h' x) (fuel : Nat) :
    (recordCatalogObservation svc capacityId observation submitted fuel).Obeys
      (leaseContract d callers) done failed h := by
  induction fuel generalizing h with
  | zero => trivial
  | succ fuel ih =>
      unfold recordCatalogObservation
      rw [bind_eq, obeys_bind]
      refine required_obeys (fun h₁ lease g₁ shown₁ same₁ => ?_) raised
      rw [bind_eq, obeys_bind]
      refine obeys_capacitySpec (fun spec has => ?_) fun x => raised h₁ x g₁
      split
      · exact raised h₁ _ g₁
      · rename_i binding
        rw [not_or, ne_eq, ne_eq, Classical.not_not, Classical.not_not] at binding
        rw [bind_eq, obeys_bind]
        refine now_obeys fun h₂ t g₂ read => ?_
        have grown₂ := g₁.trans g₂
        rw [bind_eq, obeys_bind, obeys_ofExcept]
        refine ⟨fun outcome found => ?_, fun x _ => raised h₂ x grown₂⟩
        obtain ⟨changes, phases⟩ := outcome
        dsimp only
        split
        · exact normal h₂ lease grown₂ (shown₁.mono g₂) same₁
        · rw [bind_eq, obeys_bind]
          refine writeObservation_obeys observation submitted t (shown₁.mono g₂) (fun h' g => ⟨?_, spec, has, binding.1, binding.2, found,
              (read _ (fun row => row = lease) (shown₁.known rfl rfl)).mono g⟩)
            (fun h₃ row g₃ shown₃ same₃ => ?_) (fun h₃ g₃ => ?_)
            fun h' x g => raised h' x (grown₂.trans g)
          · rw [same₁]
            exact replied.mono (grown₂.trans g)
          · exact normal h₃ row (grown₂.trans g₃) shown₃ (same₃.trans same₁)
          · exact ih (replied.mono (grown₂.trans g₃))
              (fun h' row g => normal h' row ((grown₂.trans g₃).trans g))
              fun h' x g => raised h' x ((grown₂.trans g₃).trans g)

/-! ## Submission and observation -/

/-- What was just read is still just read after a clock read. -/
theorem JustRead.clock {P : Lease → Prop} {t : Instant} (read : JustRead h token P) :
    JustRead ((⟨.now, t⟩ : Event Effects) :: h) token P := by
  obtain ⟨later, earlier, row, rfl, quiet, same, holds⟩ := read
  refine ⟨⟨.now, t⟩ :: later, earlier, row, rfl, ?_, same, holds⟩
  intro e member
  rcases List.mem_cons.mp member with rfl | member
  · rfl
  · exact quiet e member

/-- `_catalog_lease` has just read the row it returns. -/
theorem catalogLease_reads
    (normal : ∀ h' row spec, h <:+ h' → JustRead h' capacityId (· = row) →
      row.cleanupToken = capacityId → row.capacitySpec = some spec → done h' row)
    (raised : ∀ h' x, h <:+ h' → failed h' x) :
    (catalogLease capacityId ownerId workloadId).Obeys (leaseContract d callers) done failed
      h := by
  unfold catalogLease
  rw [bind_eq, obeys_bind, obeys_getLease]
  intro found promised
  have g₁ := grows (⟨.get capacityId, found⟩ : Event Effects) (List.suffix_refl h)
  cases found with
  | none => exact raised _ _ g₁
  | some row =>
      dsimp only
      have same := promised row rfl
      rw [bind_eq, obeys_bind]
      refine obeys_capacitySpec (fun spec has => ?_) fun x => raised _ x g₁
      split
      · exact raised _ _ g₁
      · exact normal _ row spec g₁ ⟨[], h, row, rfl, by simp, same, rfl⟩ same has

theorem loadCapability_obeys {done : Past → Unit → Prop} {spec : CapacitySpec}
    (normal : ∀ h', h <:+ h' → done h' ()) (raised : ∀ h' x, h <:+ h' → failed h' x) :
    (loadCapability svc token spec).Obeys (leaseContract d callers) done failed h := by
  unfold loadCapability
  rw [bind_eq, obeys_bind]
  refine obeys_requireCapabilityStore ?_ fun x => raised _ x (List.suffix_refl h)
  rw [bind_eq, obeys_bind]
  refine await_obeys trivial (fun h₁ loaded g₁ _ => ?_) fun h₁ x g₁ _ => raised h₁ x g₁
  split
  · exact raised h₁ _ g₁
  · rw [bind_eq, obeys_bind]
    refine obeys_validateCapability ?_ fun x => raised h₁ x g₁
    split
    · exact raised h₁ _ g₁
    · rw [bind_eq, obeys_bind]
      refine now_obeys fun h₂ t g₂ _ => ?_
      split
      · exact raised h₂ _ (g₁.trans g₂)
      · exact normal h₂ (g₁.trans g₂)

theorem submissionLease_obeys
    (normal : ∀ h' row spec, h <:+ h' → JustRead h' capacityId (· = row) →
      row.cleanupToken = capacityId → row.capacitySpec = some spec → row.protocolOne = true →
      (row.state = .ready ∨ row.state = .jobSubmitted) → done h' row)
    (raised : ∀ h' x, h <:+ h' → failed h' x) :
    (submissionLease capacityId ownerId workloadId).Obeys (leaseContract d callers) done failed
      h := by
  unfold submissionLease
  rw [bind_eq, obeys_bind]
  refine catalogLease_reads (fun h₁ row spec g₁ read same has => ?_) raised
  rw [bind_eq, obeys_bind]
  refine obeys_capacitySpec (fun spec' has' => ?_) fun x => raised h₁ x g₁
  split
  · exact raised h₁ _ g₁
  · rename_i protocol
    rw [ne_eq, Classical.not_not] at protocol
    split
    · exact raised h₁ _ g₁
    · rename_i stage
      rw [bind_eq, obeys_bind, obeys_now]
      intro t
      have g₂ := grows (⟨.now, t⟩ : Event Effects) g₁
      split
      · exact raised _ _ g₂
      · exact normal _ row spec' g₂ read.clock same has'
          (by simp [Lease.protocolOne, has', protocol]) (by tauto)

theorem submitCatalogWorkload_obeys {done : Past → Observation → Prop}
    (normal : ∀ h' observation, h <:+ h' → done h' observation)
    (raised : ∀ h' x, h <:+ h' → failed h' x) :
    (submitCatalogWorkload svc capacityId ownerId workloadId).Obeys (leaseContract d callers) done
      failed h := by
  unfold submitCatalogWorkload
  rw [bind_eq, obeys_bind]
  refine submissionLease_obeys (fun h₁ first spec₁ g₁ _ _ _ _ _ => ?_) raised
  rw [bind_eq, obeys_bind]
  refine obeys_capacitySpec (fun spec _ => ?_) fun x => raised h₁ x g₁
  rw [bind_eq, obeys_bind]
  refine loadCapability_obeys (fun h₂ g₂ => ?_) fun h' x g => raised h' x (g₁.trans g)
  have grown₂ := g₁.trans g₂
  rw [bind_eq, obeys_bind]
  refine submissionLease_obeys (fun h₃ row _ g₃ read same _ protocol stage => ?_)
    fun h' x g => raised h' x (grown₂.trans g)
  have grown₃ := grown₂.trans g₃
  rw [bind_eq, obeys_bind]
  refine obeys_requireWorkloadTransport ?_ fun x => raised h₃ x grown₃
  rw [bind_eq, obeys_bind]
  refine obeys_route (fun url => ?_) fun x => raised h₃ x grown₃
  rw [bind_eq, obeys_bind]
  refine await_obeys ?_ (fun h₄ observation g₄ replied => ?_)
    fun h₄ x g₄ _ => raised h₄ x (grown₃.trans g₄)
  · obtain ⟨later, earlier, seen, split, quiet, sameSeen, rfl⟩ := read
    exact ⟨later, earlier, seen, by rw [split, same], quiet, rfl, protocol, stage⟩
  · rw [bind_eq, obeys_bind]
    exact recordCatalogObservation_obeys (.inl ⟨rfl, _, _, _, replied⟩)
      (fun h₅ _ g₅ _ _ => normal h₅ _ ((grown₃.trans g₄).trans g₅))
      (fun h' x g => raised h' x ((grown₃.trans g₄).trans g)) svc.fuel

theorem observeCatalogWorkload_obeys {done : Past → Unit → Prop}
    (normal : ∀ h', h <:+ h' → done h' ()) (raised : ∀ h' x, h <:+ h' → failed h' x) :
    (observeCatalogWorkload svc capacityId ownerId workloadId).Obeys (leaseContract d callers)
      done failed h := by
  unfold observeCatalogWorkload
  rw [bind_eq, obeys_bind]
  refine catalogLease_obeys (fun h₁ lease _ g₁ _ same₁ _ _ _ => ?_) raised
  rw [bind_eq, obeys_bind]
  refine obeys_capacitySpec (fun spec _ => ?_) fun x => raised h₁ x g₁
  rw [bind_eq, obeys_bind]
  refine loadCapability_obeys (fun h₂ g₂ => ?_) fun h' x g => raised h' x (g₁.trans g)
  have grown₂ := g₁.trans g₂
  rw [bind_eq, obeys_bind]
  refine obeys_requireWorkloadTransport ?_ fun x => raised h₂ x grown₂
  rw [bind_eq, obeys_bind]
  refine obeys_route (fun url => ?_) fun x => raised h₂ x grown₂
  rw [bind_eq, obeys_bind]
  refine await_obeys trivial (fun h₃ observation g₃ replied => ?_)
    fun h₃ x g₃ _ => raised h₃ x (grown₂.trans g₃)
  have grown₃ := grown₂.trans g₃
  rw [bind_eq, obeys_bind]
  refine recordCatalogObservation_obeys (.inr ⟨rfl, _, _, _, .inl (by rwa [← same₁])⟩)
    (fun h₄ updated g₄ _ _ => ?_) (fun h' x g => raised h' x (grown₃.trans g)) svc.fuel
  have grown₄ := grown₃.trans g₄
  have released : ∀ reason, ((release svc capacityId reason).bind fun _ =>
      (Program.pure () : Co Unit)).Obeys (leaseContract d callers) done failed h₄ := by
    intro reason
    rw [obeys_bind]
    exact release_obeys (fun h' _ g _ => normal h' (grown₄.trans g))
      fun h' x g => raised h' x (grown₄.trans g)
  split
  · exact released _
  · split
    · exact released _
    · exact normal h₄ grown₄

theorem retrieveCatalogResult_obeys {done : Past → List (String × Json) → Prop}
    (normal : ∀ h' payload, h <:+ h' → done h' payload)
    (raised : ∀ h' x, h <:+ h' → failed h' x) :
    (retrieveCatalogResult svc capacityId ownerId workloadId).Obeys (leaseContract d callers) done
      failed h := by
  unfold retrieveCatalogResult
  rw [bind_eq, obeys_bind]
  refine catalogLease_obeys (fun h₁ lease _ g₁ _ _ _ _ _ => ?_) raised
  rw [bind_eq, obeys_bind]
  refine obeys_capacitySpec (fun spec _ => ?_) fun x => raised h₁ x g₁
  split
  · exact raised h₁ _ g₁
  · rw [bind_eq, obeys_bind]
    refine loadCapability_obeys (fun h₂ g₂ => ?_) fun h' x g => raised h' x (g₁.trans g)
    have grown₂ := g₁.trans g₂
    rw [bind_eq, obeys_bind]
    refine heartbeat_obeys (fun h₃ row g₃ _ _ => ?_) fun h' x g => raised h' x (grown₂.trans g)
    have grown₃ := grown₂.trans g₃
    rw [bind_eq, obeys_bind]
    refine obeys_requireWorkloadTransport ?_ fun x => raised h₃ x grown₃
    rw [bind_eq, obeys_bind]
    refine obeys_route (fun url => ?_) fun x => raised h₃ x grown₃
    rw [bind_eq, obeys_bind]
    refine await_obeys trivial (fun h₄ payload g₄ _ => ?_)
      fun h₄ x g₄ _ => raised h₄ x (grown₃.trans g₄)
    have grown₄ := grown₃.trans g₄
    rw [bind_eq, obeys_bind]
    refine required_obeys (fun h₅ current g₅ _ _ => ?_)
      fun h' x g => raised h' x (grown₄.trans g)
    have grown₅ := grown₄.trans g₅
    split
    · rw [bind_eq, obeys_bind]
      exact release_obeys (fun h' _ g _ => raised h' _ (grown₅.trans g))
        fun h' x g => raised h' x (grown₅.trans g)
    · split
      · split
        · split
          · exact normal h₅ payload grown₅
          · exact raised h₅ _ grown₅
        · exact raised h₅ _ grown₅
      · exact normal h₅ payload grown₅

theorem startsInFuture_obeys {done : Past → Bool → Prop} {worker : WorkerEvidence}
    (normal : ∀ h' premature, h <:+ h' → done h' premature) :
    (startsInFuture worker).Obeys (leaseContract d callers) done failed h := by
  unfold startsInFuture
  split
  · exact normal h _ (List.suffix_refl h)
  · rw [bind_eq, obeys_bind]
    exact now_obeys fun h₁ t g₁ _ => normal h₁ _ g₁

theorem recordCatalogWorkerEvidence_obeys {envelope : Except Exn WorkerEvidence}
    (normal : ∀ h' row, h <:+ h' → Shown h' row → done h' row)
    (raised : ∀ h' x, h <:+ h' → failed h' x) :
    (recordCatalogWorkerEvidence svc capacityId ownerId workloadId envelope).Obeys
      (leaseContract d callers) done failed h := by
  unfold recordCatalogWorkerEvidence
  rw [bind_eq, obeys_bind]
  refine catalogLease_obeys (fun h₁ lease _ g₁ shown₁ _ _ _ _ => ?_) raised
  rw [bind_eq, obeys_bind]
  refine obeys_capacitySpec (fun spec has => ?_) fun x => raised h₁ x g₁
  split
  · exact raised h₁ _ g₁
  · rw [bind_eq, obeys_bind, obeys_ofExcept]
    refine ⟨fun worker _ => ?_, fun x _ => raised h₁ x g₁⟩
    split
    · exact raised h₁ _ g₁
    · rename_i binding
      simp only [not_or, ne_eq, Classical.not_not] at binding
      split
      · exact raised h₁ _ g₁
      · rename_i ready
        rw [Bool.not_eq_false] at ready
        rw [bind_eq, obeys_bind]
        refine startsInFuture_obeys fun h₂ premature g₂ => ?_
        have grown₂ := g₁.trans g₂
        split
        · exact raised h₂ _ grown₂
        · split
          · split
            · exact raised h₂ _ grown₂
            · exact normal h₂ lease grown₂ (shown₁.mono g₂)
          · split
            · exact raised h₂ _ grown₂
            · rw [bind_eq, obeys_bind]
              refine now_obeys fun h₃ t g₃ _ => ?_
              have grown₃ := grown₂.trans g₃
              refine transitionWithEvidence_obeys (.workerEvidence worker t) rfl
                (fun h' cur g _ same active _ => ⟨active, lease, spec,
                  shown₁.mono ((g₂.trans g₃).trans g), same.symm, has, binding.1, binding.2.1,
                  binding.2.2, ready⟩)
                (fun h' row g shown _ _ => normal h' row (grown₃.trans g) shown)
                (fun h' x g => raised h' x (grown₃.trans g)) svc.fuel
                (shown₁.mono (g₂.trans g₃)) rfl

/-! ## Artifact handoff -/

theorem requireCatalogAckAdmission_obeys {done : Past → Unit → Prop} {before : Bool}
    (normal : ∀ t, lease.state = .jobCompleted →
      done ((⟨.now, t⟩ : Event Effects) :: h) ())
    (raised : ∀ h' x, h <:+ h' → failed h' x) :
    (requireCatalogAckAdmission lease before).Obeys (leaseContract d callers) done failed h := by
  unfold requireCatalogAckAdmission
  rw [bind_eq, obeys_bind]
  refine obeys_capacitySpec (fun spec _ => ?_) fun x => raised _ x (List.suffix_refl h)
  split
  · exact raised _ _ (List.suffix_refl h)
  · rename_i admitted
    rw [bind_eq, obeys_bind, obeys_now]
    intro t
    split
    · exact raised _ _ (List.suffix_cons _ _)
    · exact normal t (by tauto)

/-- A row that is not terminal because its job is complete. -/
theorem active_of_jobCompleted (completed : lease.state = .jobCompleted) :
    lease.isTerminal = false := by simp [Lease.isTerminal, completed]

theorem persistIntent_obeys {payload : List (String × Json)}
    {done : Past → Lease × Bool → Prop} (configured : svc.digests = d)
    (normal : ∀ h' row proven, h <:+ h' → Shown h' row → row.cleanupToken = capacityId →
      done h' (row, proven))
    (raised : ∀ h' x, h <:+ h' → failed h' x) (fuel : Nat) :
    (persistIntent svc capacityId ownerId workloadId payload fuel).Obeys (leaseContract d callers)
      done failed h := by
  induction fuel generalizing h with
  | zero => trivial
  | succ fuel ih =>
      unfold persistIntent
      rw [bind_eq, obeys_bind]
      refine catalogLease_obeys (fun h₁ lease _ g₁ shown₁ same₁ _ _ _ => ?_) raised
      split
      · exact raised h₁ _ g₁
      · rename_i handoff hasHandoff
        split
        · exact raised h₁ _ g₁
        · rename_i intent bound
          rw [configured] at bound
          split
          · exact normal h₁ lease true g₁ shown₁ same₁
          · rename_i unacknowledged
            rw [ne_eq, Classical.not_not] at unacknowledged
            rw [bind_eq, obeys_bind]
            refine requireCatalogAckAdmission_obeys (fun t completed => ?_)
              fun h' x g => raised h' x (g₁.trans g)
            have g₂ := grows (⟨.now, t⟩ : Event Effects) g₁
            rw [bind_eq, obeys_bind, obeys_except, obeys_bind]
            refine compareAndSet_obeys (.bindIntent intent) (shown₁.mono (List.suffix_cons _ _))
              ⟨active_of_jobCompleted completed, completed, unacknowledged, handoff, payload,
                hasHandoff, bound⟩ (Write.makes_base rfl)
              (fun h₃ current g₃ shown₃ _ same₃ _ => ?_)
              fun h₃ x g₃ => ⟨fun _ => ?_, fun _ => raised h₃ x (g₂.trans g₃)⟩
            · exact normal h₃ _ false (g₂.trans g₃) shown₃ (by simp [same₃, same₁])
            · exact ih (fun h' row proven g => normal h' row proven ((g₂.trans g₃).trans g))
                fun h' x g => raised h' x ((g₂.trans g₃).trans g)

theorem acknowledgeHandoff_obeys {payload : List (String × Json)}
    {recovery : Option (List (String × Json))} (configured : svc.digests = d)
    (normal : ∀ h' row, h <:+ h' → Shown h' row → done h' row)
    (raised : ∀ h' x, h <:+ h' → failed h' x) :
    (acknowledgeHandoff svc capacityId ownerId workloadId payload recovery).Obeys
      (leaseContract d callers) done failed h := by
  unfold acknowledgeHandoff
  rw [bind_eq, obeys_bind]
  refine persistIntent_obeys configured (fun h₁ lease proven g₁ shown₁ _ => ?_) raised svc.fuel
  dsimp only
  split
  · exact normal h₁ lease g₁ shown₁
  · rw [bind_eq, obeys_bind]
    refine obeys_capacitySpec (fun spec _ => ?_) fun x => raised h₁ x g₁
    rw [bind_eq, obeys_bind]
    refine loadCapability_obeys (fun h₂ g₂ => ?_) fun h' x g => raised h' x (g₁.trans g)
    have grown₂ := g₁.trans g₂
    rw [bind_eq, obeys_bind]
    refine catalogLease_reads (fun h₃ current _ g₃ read same₃ _ => ?_)
      fun h' x g => raised h' x (grown₂.trans g)
    have grown₃ := grown₂.trans g₃
    rw [bind_eq, obeys_bind]
    refine requireCatalogAckAdmission_obeys (fun t completed => ?_)
      fun h' x g => raised h' x (grown₃.trans g)
    have grown₄ := grows (⟨.now, t⟩ : Event Effects) grown₃
    rw [bind_eq, obeys_bind]
    refine obeys_requireWorkloadTransport ?_ fun x => raised _ x grown₄
    rw [bind_eq, obeys_bind]
    refine obeys_route (fun url => ?_) fun x => raised _ x grown₄
    have justRead : JustRead ((⟨.now, t⟩ : Event Effects) :: h₃) current.cleanupToken
        fun row => row.state = .jobCompleted := by
      obtain ⟨later, earlier, seen, split, quiet, sameSeen, rfl⟩ := read.clock (t := t)
      exact ⟨later, earlier, seen, by rw [split, same₃], quiet, rfl, completed⟩
    -- Whichever request delivers the acknowledgement, its answer is recorded.
    have recorded : ∀ h₅ (observation : Observation), h <:+ h₅ →
        WorkerReplied h₅ capacityId observation false →
        (if observation.state ≠ .acknowledged then
            raise (.conflict "Catalog Pod did not acknowledge the exact host intent")
          else recordCatalogObservation svc capacityId observation false svc.fuel).Obeys
            (leaseContract d callers) done failed h₅ := by
      intro h₅ observation g₅ replied
      split
      · exact raised h₅ _ g₅
      · exact recordCatalogObservation_obeys replied
          (fun h' row g shown _ => normal h' row (g₅.trans g) shown)
          (fun h' x g => raised h' x (g₅.trans g)) svc.fuel
    rw [bind_eq, obeys_bind]
    cases recovery with
    | none =>
        refine await_obeys justRead (fun h₅ observation g₅ replied => ?_)
          fun h₅ x g₅ _ => raised h₅ x (grown₄.trans g₅)
        exact recorded h₅ observation (grown₄.trans g₅)
          (.inr ⟨rfl, _, _, _, .inr ⟨_, .inl (by rwa [← same₃])⟩⟩)
    | some envelope =>
        refine await_obeys justRead (fun h₅ observation g₅ replied => ?_)
          fun h₅ x g₅ _ => raised h₅ x (grown₄.trans g₅)
        exact recorded h₅ observation (grown₄.trans g₅)
          (.inr ⟨rfl, _, _, _, .inr ⟨_, .inr (by rwa [← same₃])⟩⟩)

theorem confirmHandoff_obeys {done : Past → Handoff → Prop} {handoff : Handoff}
    (normal : ∀ h' declaredAt confirmed, h <:+ h' →
      (handoff.hostConfirmationDeclaredAt = none ∨
        handoff.hostConfirmationDeclaredAt = some declaredAt) →
      Handoff.build { handoff.toHandoffFields with
        hostConfirmationDeclaredAt := some declaredAt } = .ok confirmed → done h' confirmed)
    (raised : ∀ h' x, h <:+ h' → failed h' x) :
    (confirmHandoff handoff).Obeys (leaseContract d callers) done failed h := by
  unfold confirmHandoff
  rw [bind_eq, obeys_bind, declarationInstant]
  split
  · rename_i declaredAt declared
    rw [obeys_pure, obeys_ofExcept]
    exact ⟨fun confirmed built => normal h declaredAt confirmed (List.suffix_refl h)
      (.inr declared) built, fun x _ => raised h x (List.suffix_refl h)⟩
  · rename_i undeclared
    refine now_obeys fun h₁ t g₁ _ => ?_
    rw [obeys_ofExcept]
    exact ⟨fun confirmed built => normal h₁ t confirmed g₁ (.inl undeclared) built,
      fun x _ => raised h₁ x g₁⟩

theorem releaseCatalogResult_obeys {hostConfirmed : Option String}
    (confirms : ∀ digest, hostConfirmed = some digest → callers.confirms digest)
    (normal : ∀ h' row, h <:+ h' → Shown h' row → done h' row)
    (raised : ∀ h' x, h <:+ h' → failed h' x) :
    (releaseCatalogResult svc capacityId ownerId workloadId hostConfirmed).Obeys
      (leaseContract d callers) done failed h := by
  unfold releaseCatalogResult
  rw [bind_eq, obeys_bind]
  refine catalogLease_obeys (fun h₁ lease _ g₁ shown₁ same₁ _ _ _ => ?_) raised
  have released : ∀ h₂ reason, h <:+ h₂ →
      (release svc capacityId reason).Obeys (leaseContract d callers) done failed h₂ :=
    fun h₂ reason g₂ => release_obeys (fun h' row g shown => normal h' row (g₂.trans g) shown)
      fun h' x g => raised h' x (g₂.trans g)
  rw [bind_eq, obeys_bind]
  refine obeys_capacitySpec (fun spec has => ?_) fun x => raised h₁ x g₁
  dsimp only
  split
  · exact raised h₁ _ g₁
  · rename_i bound
    split
    · exact raised h₁ _ g₁
    · split
      · exact raised h₁ _ g₁
      · rename_i ready
        rw [Bool.not_eq_false] at ready
        split
        · split
          · exact raised h₁ _ g₁
          · exact normal h₁ lease g₁ shown₁
        · split
          · rename_i completed
            -- The write, once the confirmation is at hand.
            have declare : ∀ h₂ confirmation, h₁ <:+ h₂ →
                (spec.request.artifactHandoffProtocolVersion = some 1 →
                  ∃ handoff digest declaredAt confirmed,
                    lease.artifactHandoff = some handoff ∧ handoff.remoteAckObservedAt ≠ none ∧
                    handoff.acknowledgementSha256 = some digest ∧ callers.confirms digest ∧
                    (handoff.hostConfirmationDeclaredAt = none ∨
                      handoff.hostConfirmationDeclaredAt = some declaredAt) ∧
                    Handoff.build { handoff.toHandoffFields with
                      hostConfirmationDeclaredAt := some declaredAt } = .ok confirmed ∧
                    confirmation = some confirmed) →
                (spec.request.artifactHandoffProtocolVersion ≠ some 1 →
                  confirmation = none) →
                ((do
                  let heartbeatAt ← now
                  let _ ← compareAndSet lease
                    { artifactHandoff := confirmation
                      state := some .resultRetrieved
                      lastHeartbeatAt := some heartbeatAt
                      lastProviderError := some none }
                  release svc capacityId "catalog result durably confirmed by host") :
                  Co Lease).Obeys (leaseContract d callers) done failed h₂ := by
              intro h₂ confirmation g₂ protocolOne historical
              rw [bind_eq, obeys_bind]
              refine now_obeys fun h₃ t g₃ _ => ?_
              rw [bind_eq, obeys_bind]
              refine compareAndSet_obeys (.hostConfirmed confirmation t)
                (shown₁.mono (g₂.trans g₃))
                ⟨completed, spec, has, ready, protocolOne, historical⟩
                (Write.makes_base rfl)
                (fun h₄ _ g₄ _ _ _ _ => released h₄ _ (((g₁.trans g₂).trans g₃).trans g₄))
                fun h' x g => raised h' x (((g₁.trans g₂).trans g₃).trans g)
            rw [bind_eq, obeys_bind, hostConfirmation]
            split
            · rename_i missing
              refine declare h₁ none (List.suffix_refl h₁) (fun protocol => ?_) fun _ => rfl
              exact absurd ⟨protocol, by simp [missing]⟩ bound
            · rename_i handoff hasHandoff
              split
              · rename_i protocol
                have exact_ : ¬ (handoff.remoteAckObservedAt = none ∨
                    hostConfirmed ≠ handoff.acknowledgementSha256) := fun differs =>
                  bound ⟨protocol, by simpa [hasHandoff] using differs⟩
                rw [not_or, ne_eq, Classical.not_not] at exact_
                obtain ⟨digest, intent⟩ :=
                  Option.ne_none_iff_exists'.mp (handoff.intent_of_remoteAck exact_.1)
                rw [bind_eq, obeys_bind]
                refine confirmHandoff_obeys (fun h₂ declaredAt confirmed g₂ first built => ?_)
                  fun h' x g => raised h' x (g₁.trans g)
                exact declare h₂ (some confirmed) g₂ (fun _ => ⟨handoff, digest, declaredAt,
                  confirmed, hasHandoff, exact_.1, intent,
                  confirms digest (exact_.2.trans intent), first, built, rfl⟩)
                  fun other => absurd protocol other
              · rename_i protocol
                exact declare h₁ none (List.suffix_refl h₁) (fun is => absurd is protocol)
                  fun _ => rfl
          · split
            · exact raised h₁ _ g₁
            · split
              · exact raised h₁ _ g₁
              · exact released h₁ _ g₁

theorem acknowledgeCatalogResult_obeys {acknowledgement : Option (List (String × Json))}
    (configured : svc.digests = d)
    (normal : ∀ h' row, h <:+ h' → Shown h' row → done h' row)
    (raised : ∀ h' x, h <:+ h' → failed h' x) :
    (acknowledgeCatalogResult svc capacityId ownerId workloadId acknowledgement).Obeys
      (leaseContract d callers) done failed h := by
  unfold acknowledgeCatalogResult
  rw [bind_eq, obeys_bind]
  refine catalogLease_obeys (fun h₁ lease _ g₁ _ _ _ _ _ => ?_) raised
  rw [bind_eq, obeys_bind]
  refine obeys_capacitySpec (fun spec _ => ?_) fun x => raised h₁ x g₁
  split
  · split
    · exact raised h₁ _ g₁
    · exact releaseCatalogResult_obeys (by simp)
        (fun h' row g shown => normal h' row (g₁.trans g) shown)
        fun h' x g => raised h' x (g₁.trans g)
  · split
    · exact raised h₁ _ g₁
    · rw [bind_eq, obeys_bind, obeys_ofExcept]
      refine ⟨fun payload _ => ?_, fun x _ => raised h₁ x g₁⟩
      rw [obeys_awaitOwned]
      exact acknowledgeHandoff_obeys configured
        (fun h' row g shown => ⟨normal _ row (grows _ (g₁.trans g))
          (shown.mono (List.suffix_cons _ _)), raised _ _ (grows _ (g₁.trans g))⟩)
        fun h' x g => raised h' x (g₁.trans g)

theorem recoverCatalogResult_obeys {recovery : List (String × Json)}
    (configured : svc.digests = d)
    (normal : ∀ h' row, h <:+ h' → Shown h' row → done h' row)
    (raised : ∀ h' x, h <:+ h' → failed h' x) :
    (recoverCatalogResult svc capacityId ownerId workloadId recovery).Obeys
      (leaseContract d callers) done failed h := by
  unfold recoverCatalogResult
  rw [bind_eq, obeys_bind]
  refine catalogLease_obeys (fun h₁ lease _ g₁ _ _ _ _ _ => ?_) raised
  rw [bind_eq, obeys_bind]
  refine obeys_capacitySpec (fun spec _ => ?_) fun x => raised h₁ x g₁
  split
  · exact raised h₁ _ g₁
  · rw [bind_eq, obeys_bind, obeys_ofExcept]
    refine ⟨fun acknowledgement _ => ?_, fun x _ => raised h₁ x g₁⟩
    rw [obeys_awaitOwned]
    exact acknowledgeHandoff_obeys configured
      (fun h' row g shown => ⟨normal _ row (grows _ (g₁.trans g))
        (shown.mono (List.suffix_cons _ _)), raised _ _ (grows _ (g₁.trans g))⟩)
      fun h' x g => raised h' x (g₁.trans g)

/-! ## Cancellation of a catalog attempt -/

theorem dispatchCancel_obeys {done : Past → Unit → Prop}
    (normal : ∀ h', h <:+ h' → done h' ()) (raised : ∀ h' x, h <:+ h' → failed h' x) :
    (dispatchCancel svc capacityId lease).Obeys (leaseContract d callers) done failed h := by
  have noted : ∀ h₁ x, h <:+ h₁ →
      ((do
        let _ ← recordOperationError svc capacityId x
        .pure ()) : Co Unit).Obeys (leaseContract d callers) done failed h₁ := by
    intro h₁ x g₁
    rw [bind_eq, obeys_bind]
    exact recordOperationError_obeys (fun h' _ g _ => normal h' (g₁.trans g))
      fun h' x g => raised h' x (g₁.trans g)
  have failing : ∀ h₁ x, h <:+ h₁ →
      (Exn.isManager x = true →
        ((do
          let _ ← recordOperationError svc capacityId x
          .pure ()) : Co Unit).Obeys (leaseContract d callers) done failed h₁) ∧
        (Exn.isManager x = false → failed h₁ x) :=
    fun h₁ x g₁ => ⟨fun _ => noted h₁ x g₁, fun _ => raised h₁ x g₁⟩
  unfold dispatchCancel
  split
  · exact normal h (List.suffix_refl h)
  · rw [obeys_except, bind_eq, obeys_bind]
    refine obeys_capacitySpec (fun spec _ => ?_) fun x => failing h x (List.suffix_refl h)
    rw [bind_eq, obeys_bind]
    refine loadCapability_obeys (fun h₁ g₁ => ?_) failing
    rw [bind_eq, obeys_bind]
    refine obeys_requireWorkloadTransport ?_ fun x => failing h₁ x g₁
    rw [bind_eq, obeys_bind]
    exact await_obeys trivial (fun h₂ _ g₂ _ => normal h₂ (g₁.trans g₂))
      fun h₂ x g₂ _ => failing h₂ x (g₁.trans g₂)

theorem cancelCatalogWorkload_obeys
    (normal : ∀ h' row, h <:+ h' → Shown h' row → done h' row)
    (raised : ∀ h' x, h <:+ h' → failed h' x) :
    (cancelCatalogWorkload svc capacityId ownerId workloadId).Obeys (leaseContract d callers) done
      failed h := by
  unfold cancelCatalogWorkload
  rw [bind_eq, obeys_bind]
  refine catalogLease_obeys (fun h₁ lease spec g₁ shown₁ _ has _ _ => ?_) raised
  split
  · exact normal h₁ lease g₁ shown₁
  · rename_i active
    rw [Bool.not_eq_true] at active
    rw [bind_eq, obeys_bind]
    refine now_obeys fun h₂ t g₂ _ => ?_
    have grown₂ := g₁.trans g₂
    rw [bind_eq, obeys_bind]
    refine compareAndSet_obeys (.cancelRequested true t) (shown₁.mono g₂)
      ⟨active, by simp [Lease.isCatalogAttempt, has]⟩ (Write.makes_base rfl)
      (fun h₃ current g₃ shown₃ _ _ _ => ?_) fun h' x g => raised h' x (grown₂.trans g)
    have grown₃ := grown₂.trans g₃
    rw [bind_eq, obeys_bind]
    refine dispatchCancel_obeys (fun h₄ g₄ => ?_) fun h' x g => raised h' x (grown₃.trans g)
    have grown₄ := grown₃.trans g₄
    exact release_obeys (fun h' row g shown => normal h' row (grown₄.trans g) shown)
      fun h' x g => raised h' x (grown₄.trans g)

end KestrelRunpod.Pod
