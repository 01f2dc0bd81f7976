import KestrelRunpod.Ollama.Writes

/-!
# Conformance of the Ollama lease service

Every coroutine of the service keeps the contract.  What a task knows only grows, and the
exceptions of the service carry no knowledge, so each function has one specification: it
ends with a lease the task has seen, under the id it was asked about.
-/

namespace KestrelRunpod.Ollama

open Interleave Program

variable {texts : Texts} {svc : Service} {h h' : Past} {lease : Lease} {leaseId reason : String}
  {α β : Type}

/-! ## Knowledge grows -/

theorem Shown.mono {row : Lease} (grown : h <:+ h') (shown : Shown h row) : Shown h' row := by
  obtain ⟨e, member, here⟩ := shown
  exact ⟨e, grown.mem member, here⟩

theorem Shown.head {row : Lease} {e : Event Effects} (here : shows row e) :
    Shown (e :: h) row := ⟨e, List.mem_cons_self, here⟩

theorem Replied.mono {call : Call} {outcome : Except Exn call.Value} (grown : h <:+ h')
    (replied : Replied h leaseId call outcome) : Replied h' leaseId call outcome := by
  obtain ⟨id, sent, received⟩ := replied
  exact ⟨id, grown.mem sent, grown.mem received⟩

theorem Reported.mono {id : String} (grown : h <:+ h') (reported : Reported h lease id) :
    Reported h' lease id := by
  rcases reported with ⟨request, plan, name, resource, replied, same⟩ |
    ⟨kind, name, resource, hasKind, hasName, replied, same⟩
  · exact .inl ⟨request, plan, name, resource, replied.mono grown, same⟩
  · exact .inr ⟨kind, name, resource, hasKind, hasName, replied.mono grown, same⟩

/-! ## Warrants -/

/-- A write that neither moves the lease nor touches what identifies its resource. -/
theorem Warranted.note {changes : Changes} (state : changes.state = none)
    (uncertain : changes.creationUncertain = none) (id : changes.providerResourceId = none)
    (kind : changes.resourceType = none) (name : changes.resourceName = none) :
    Warranted texts h lease changes where
  allowed target moves := by rw [state] at moves; cases moves
  admission admits := by
    rcases admits with is | is | is | is <;> simp_all
  record records := by
    rcases records with is | is <;> simp_all
  termination terminates := by rw [state] at terminates; cases terminates

/-- A write that moves the lease, and touches nothing that identifies its resource. -/
theorem Warranted.move {changes : Changes} {target : LeaseState}
    (allowed : target = lease.state ∨ target ∈ lease.state.allowedTransitions)
    (onward : target ≠ .provisioning)
    (ends : target = .terminated → Ended h lease)
    (uncertain : changes.creationUncertain = none) (id : changes.providerResourceId = none)
    (kind : changes.resourceType = none) (name : changes.resourceName = none) :
    Warranted texts h lease { changes with state := some target } where
  allowed target' moves := by
    have same : target = target' := by simpa using moves
    rw [← same]
    exact allowed
  admission admits := by
    rcases admits with is | is | is | is <;> simp_all
  record records := by
    rcases records with is | is <;> simp_all
  termination terminates := ends (by simpa using terminates)

/-! ## Elementary coroutines -/

abbrev Keeps (texts : Texts) (done : Past → α → Prop) (p : Co α) (h : Past) : Prop :=
  p.Ensures (leaseContract texts) done h

variable {done : Past → α → Prop}

theorem keeps_raise {x : Exn} : Keeps texts done (raise x) h := trivial

theorem keeps_now : Keeps texts (fun _ _ => True) now h :=
  ensures_perform trivial fun _ _ => ensures_pure _ trivial

theorem keeps_getLease :
    Keeps texts (fun h' found => ∀ row ∈ found, Shown h' row ∧ row.leaseId = leaseId)
      (getLease leaseId) h := by
  refine ensures_perform trivial fun (found : Option Lease) promised => ensures_pure _ ?_
  intro row is
  cases is
  exact ⟨.head rfl, promised⟩

theorem keeps_required :
    Keeps texts (fun h' row => Shown h' row ∧ row.leaseId = leaseId) (required leaseId) h := by
  refine keeps_getLease.bind fun h' found _ seen => ?_
  cases found with
  | none => exact keeps_raise
  | some row => exact ensures_pure _ (seen row rfl)

theorem keeps_authorize {ownerId workloadId : String} :
    Keeps texts (fun _ _ => True) (authorize lease ownerId workloadId) h := by
  unfold authorize
  split
  · exact keeps_raise
  · exact ensures_pure _ trivial

theorem keeps_insertRequest {request : LeaseRequest} {t : Instant} :
    Keeps texts (fun h' found => Shown h' found.1 ∧ found.1.leaseId = request.leaseId)
      (insertRequest request t) h := by
  refine ensures_perform trivial fun (reply : Except Exn (Lease × Bool)) promised => ?_
  refine ensures_ofExcept fun found is => ?_
  subst is
  exact ⟨.head rfl, promised⟩

theorem keeps_validateRuntimeRequest {request : LeaseRequest} :
    Keeps texts (fun _ _ => True) (validateRuntimeRequest request) h :=
  ensures_perform trivial fun _ _ => ensures_ofExcept fun _ _ => trivial

theorem keeps_listForReconciliation :
    Keeps texts (fun _ _ => True) listForReconciliation h :=
  ensures_perform trivial fun _ _ => ensures_pure _ trivial

theorem keeps_ofExcept {e : Except Exn α} :
    Keeps texts (fun _ a => e = .ok a) (.ofExcept e) h := ensures_ofExcept fun _ is => is

/-- A write on a lease the task has seen. -/
theorem keeps_compareAndSet {changes : Changes} (shown : Shown h lease)
    (warranted : Warranted texts h lease changes) :
    Keeps texts (fun h' row => (Shown h' row ∧ row.leaseId = lease.leaseId) ∧
        ∀ target ∈ changes.state, row.state = target) (compareAndSet lease changes) h := by
  refine ensures_perform ⟨shown, warranted⟩ fun (reply : Except Exn Lease) promised => ?_
  refine ensures_ofExcept fun row is => ?_
  subst is
  exact ⟨⟨.head rfl, promised.1⟩, promised.2.1⟩

/-- A move of a lease the task has seen, when it is one of the allowed transitions. -/
theorem keeps_transition {target : LeaseState} {changes : Changes} (shown : Shown h lease)
    (warranted : target = lease.state ∨ target ∈ lease.state.allowedTransitions →
      Warranted texts h lease { changes with state := some target }) :
    Keeps texts (fun h' row => (Shown h' row ∧ row.leaseId = lease.leaseId) ∧
        row.state = target) (transition lease target changes) h := by
  unfold transition
  split
  · exact keeps_raise
  · rename_i valid
    rw [not_and_or, not_not, not_not] at valid
    exact (keeps_compareAndSet shown (warranted valid)).mono
      fun _ _ _ seen => ⟨seen.1, seen.2 target rfl⟩

/-- The outcome of a call that a task may make at any time. -/
theorem keeps_await {call : Call} (permitted : Permits texts h (.send leaseId call)) :
    Keeps texts (fun h' value => Replied h' leaseId call (.ok value) ∧
      ∃ id : Nat, Promises ⟨.recv id call, .ok value⟩) (await leaseId call) h := by
  refine ensures_perform permitted fun (id : Nat) _ => ?_
  refine ensures_perform ⟨leaseId, List.mem_cons_self⟩ fun outcome promised => ?_
  refine ensures_ofExcept fun value is => ?_
  subst is
  exact ⟨⟨id, by simp, by simp⟩, id, promised⟩

theorem keeps_awaitOwned {effect : Co α} (kept : Keeps texts done effect h)
    (stays : ∀ h' e a, done h' a → done (e :: h') a) :
    Keeps texts done (awaitOwned effect) h := by
  refine kept.bind fun h' a _ met => ?_
  refine ensures_perform trivial fun (cancelled : Bool) _ => ?_
  split
  · exact keeps_raise
  · exact ensures_pure _ (stays h' _ a met)

theorem keeps_except {body : Co α} {caught : Exn → Bool} {handler : Exn → Co α}
    (kept : Keeps texts done body h)
    (handled : ∀ h' x, h <:+ h' → Keeps texts done (handler x) h') :
    Keeps texts done (except body caught handler) h := by
  refine kept.handle fun h' x grown => ?_
  split
  · exact handled h' x grown
  · exact keeps_raise

/-- A lease the task has seen, under the given id. -/
def Held (leaseId : String) (h : Past) (row : Lease) : Prop :=
  Shown h row ∧ row.leaseId = leaseId

theorem Held.mono {row : Lease} (grown : h <:+ h') (held : Held leaseId h row) :
    Held leaseId h' row := ⟨held.1.mono grown, held.2⟩

/-- The routed lease is one the task has seen. -/
def HeldRouted (leaseId : String) (h : Past) (routed : RoutedLease) : Prop :=
  Held leaseId h routed.lease

/-- A note on a lease the task holds. -/
theorem keeps_note {changes : Changes} (held : Held leaseId h lease)
    (state : changes.state = none) (uncertain : changes.creationUncertain = none)
    (id : changes.providerResourceId = none) (kind : changes.resourceType = none)
    (name : changes.resourceName = none) :
    Keeps texts (Held leaseId) (compareAndSet lease changes) h :=
  (keeps_compareAndSet held.1 (.note state uncertain id kind name)).mono
    fun _ _ _ seen => ⟨seen.1.1, seen.1.2.trans held.2⟩

/-- A move of a lease the task holds that does not end it. -/
theorem keeps_move {target : LeaseState} {changes : Changes} (held : Held leaseId h lease)
    (onward : target ≠ .provisioning) (open' : target ≠ .terminated)
    (uncertain : changes.creationUncertain = none) (id : changes.providerResourceId = none)
    (kind : changes.resourceType = none) (name : changes.resourceName = none) :
    Keeps texts (fun h' row => Held leaseId h' row ∧ row.state = target)
      (transition lease target changes) h :=
  (keeps_transition held.1 fun allowed =>
    .move allowed onward (fun ends => absurd ends open') uncertain id kind name).mono
    fun _ _ _ seen => ⟨⟨seen.1.1, seen.1.2.trans held.2⟩, seen.2⟩

/-- The termination of a lease the task holds. -/
theorem keeps_terminate {changes : Changes} (held : Held leaseId h lease)
    (ends : Ended h lease)
    (uncertain : changes.creationUncertain = none) (id : changes.providerResourceId = none)
    (kind : changes.resourceType = none) (name : changes.resourceName = none) :
    Keeps texts (Held leaseId) (transition lease .terminated changes) h :=
  (keeps_transition held.1 fun allowed =>
    .move allowed (by decide) (fun _ => ends) uncertain id kind name).mono
    fun _ _ _ seen => ⟨seen.1.1, seen.1.2.trans held.2⟩

/-- The write that records a resource the provider reported for a lease that waits for it. -/
theorem Warranted.created {changes : Changes} {id : String}
    (waiting : lease.state = .provisioning ∨ lease.state = .reconcileRequired)
    (certain : changes.creationUncertain = some false)
    (sets : changes.providerResourceId = some id) (kind : changes.resourceType = none)
    (name : changes.resourceName = none) (nonempty : id ≠ "") (reported : Reported h lease id) :
    Warranted texts h lease { changes with state := some .waitingForModel } where
  allowed target moves := by
    have same : LeaseState.waitingForModel = target := by simpa using moves
    rw [← same]
    rcases waiting with is | is <;> (rw [is]; exact .inr (by decide))
  admission admits := by
    rcases admits with is | is | is | is <;> simp_all
  record _ := ⟨certain, ⟨id, sets, nonempty, reported⟩, .inl ⟨waiting, rfl⟩⟩
  termination terminates := by simp at terminates

/-- The write that records a resource the provider reported for a lease being released. -/
theorem Warranted.recovered {changes : Changes} {id : String}
    (releasing : lease.state = .releasing) (uncertain : lease.creationUncertain = true)
    (state : changes.state = none) (certain : changes.creationUncertain = some false)
    (sets : changes.providerResourceId = some id) (kind : changes.resourceType = none)
    (name : changes.resourceName = none) (nonempty : id ≠ "") (reported : Reported h lease id) :
    Warranted texts h lease changes where
  allowed target moves := by rw [state] at moves; cases moves
  admission admits := by
    rcases admits with is | is | is | is <;> simp_all
  record _ := ⟨certain, ⟨id, sets, nonempty, reported⟩, .inr ⟨releasing, uncertain, state⟩⟩
  termination terminates := by rw [state] at terminates; cases terminates

/-- A resource found under the lease's type and name. -/
theorem Reported.found {kind : ResourceType} {name : String} {resource : ProvisionedResource}
    (hasKind : lease.resourceType = some kind) (hasName : lease.resourceName = some name)
    (replied : Replied h lease.leaseId (.findResource kind name) (.ok (some resource))) :
    Reported h lease resource.providerResourceId :=
  .inr ⟨kind, name, resource, hasKind, hasName, replied, rfl⟩

/-! ## Creation -/

theorem checkedPlan_keeps {request : LeaseRequest} {plan : Option PlacementPlan} :
    Keeps texts (fun _ _ => True) (checkedPlan request plan) h := by
  unfold checkedPlan
  refine Ensures.next ?planned fun h₁ plan _ => ?_
  case planned =>
    cases plan with
    | some plan => exact ensures_pure _ trivial
    | none => exact (keeps_await (by exact trivial)).forget
  refine keeps_ofExcept.andThen fun h₂ _ _ _ => ?_
  exact keeps_validateRuntimeRequest.andThen fun h₃ _ _ _ => ensures_pure _ trivial

theorem provisionEffect_keeps {request : LeaseRequest} {plan : PlacementPlan}
    (held : Held leaseId h lease) (waiting : lease.state = .provisioning)
    (admitted : JustAdmitted texts h lease.leaseId) (name : String) (named : name = texts.resourceName lease.leaseId) :
    Keeps texts (Held leaseId) (provisionEffect svc lease request plan name) h := by
  unfold provisionEffect
  have answered : Keeps texts (fun h' resource =>
      Replied h' lease.leaseId (.provision request plan name) (.ok resource) ∧
        (resource : ProvisionedResource).providerResourceId ≠ "")
      (except (await lease.leaseId (.provision request plan name)) Exn.isManager fun x => do
        let _ ← transition lease .reconcileRequired
          { lastProviderError := some (some (svc.texts.sanitizeProviderError x)) }
        raise x) h := by
    have permitted : Permits texts h (.send lease.leaseId (.provision request plan name)) :=
      ⟨admitted, named⟩
    refine keeps_except ((keeps_await permitted).mono fun h' resource _ reply => ?_)
      fun h' x grown => ?_
    · obtain ⟨replied, _, promised⟩ := reply
      exact ⟨replied, promised⟩
    · exact (keeps_move (held.mono grown) (by decide) (by decide) rfl rfl rfl rfl).andThen
        fun _ _ _ _ => keeps_raise
  refine answered.andThen fun h₁ resource grown reply => ?_
  have seen := held.mono grown
  refine (keeps_transition seen.1 fun _ => ?_).mono
    fun _ _ _ row => ⟨row.1.1, row.1.2.trans held.2⟩
  exact .created (.inl waiting) rfl rfl rfl rfl reply.2
    (.inl ⟨request, plan, name, resource, reply.1, rfl⟩)

theorem provisionRequested_keeps {request : LeaseRequest} {plan : Option PlacementPlan}
    (held : Held leaseId h lease) (same : request.leaseId = lease.leaseId)
    (texts_eq : svc.texts = texts) :
    Keeps texts (Held leaseId) (provisionRequested svc lease request plan) h := by
  subst texts_eq
  unfold provisionRequested
  split
  · exact keeps_raise
  · rename_i waiting
    rw [ne_eq, not_not] at waiting
    have planned : Keeps svc.texts (fun _ _ => True)
        (except (checkedPlan request plan) Exn.isManager fun x => do
          let _ ← transition lease .failed
            { lastProviderError := some (some (svc.texts.sanitizeProviderError x)) }
          raise x) h := by
      refine keeps_except checkedPlan_keeps fun h' x grown => ?_
      exact (keeps_move (held.mono grown) (by decide) (by decide) rfl rfl rfl rfl).andThen
        fun _ _ _ _ => keeps_raise
    refine planned.andThen fun h₁ plan g₁ _ => ?_
    refine keeps_now.andThen fun h₂ t g₂ _ => ?_
    have seen := held.mono (g₁.trans g₂)
    -- The admission and the dispatch are consecutive, so the write is followed by hand.
    unfold transition
    split
    · exact keeps_raise
    · have warranted : Warranted svc.texts h₂ lease
          (admissionChanges svc.texts lease request plan t) :=
        { allowed := fun target moves => by
            have is : LeaseState.provisioning = target := by simpa [admissionChanges] using moves
            rw [← is, waiting]
            exact .inr (by decide)
          admission := fun _ => ⟨waiting, request, plan, t, same, rfl⟩
          record := fun records => by
            rcases records with is | is <;> simp [admissionChanges, provisioningChanges] at is
          termination := fun ends => by simp [admissionChanges] at ends }
      refine ensures_perform ⟨seen.1, warranted⟩ fun (reply : Except Exn Lease) promised => ?_
      cases reply with
      | error x => exact ensures_throw x
      | ok row =>
          obtain ⟨row_same, state, _⟩ : row.leaseId = lease.leaseId ∧
              (∀ target ∈ some LeaseState.provisioning, row.state = target) ∧
              ∀ flag ∈ some true, row.creationUncertain = flag := promised
          refine keeps_awaitOwned ?_ fun h' e row held => held.mono (List.suffix_cons _ _)
          refine provisionEffect_keeps
            ⟨⟨_, List.mem_cons_self, by exact rfl⟩, row_same.trans held.2⟩ (state _ rfl)
            ⟨lease, request, plan, t, row, h₂, row_same.symm, rfl⟩ _ ?_
          rw [same, row_same]

theorem reconcileCreation_keeps (held : Held leaseId h lease)
    (waiting : lease.state = .provisioning ∨ lease.state = .reconcileRequired) :
    Keeps texts (Held leaseId) (reconcileCreation svc lease) h := by
  unfold reconcileCreation
  split
  · exact (keeps_move held (by decide) (by decide) rfl rfl rfl rfl).mono
      fun _ _ _ seen => seen.1
  · split
    · rename_i kind name hasKind hasName
      have found : Keeps texts (fun h' found => match found with
            | .inl found => Replied h' lease.leaseId (.findResource kind name) (.ok found) ∧
                ∀ resource ∈ found, (resource : ProvisionedResource).providerResourceId ≠ ""
            | .inr updated => Held leaseId h' updated)
          (except ((await lease.leaseId (.findResource kind name)).bind
              fun found => .pure (.inl found)) Exn.isManager fun x => do
            let updated ← compareAndSet lease
              { lastProviderError := some (some (svc.texts.sanitizeProviderError x)) }
            .pure (.inr updated) : Co (Option ProvisionedResource ⊕ Lease)) h := by
        refine keeps_except ((keeps_await (by exact trivial)).bind fun h' found _ reply => ?_)
          fun h' x grown => ?_
        · obtain ⟨replied, _, promised⟩ := reply
          refine ensures_pure _ ⟨replied, fun resource is => ?_⟩
          cases is
          exact promised
        · exact (keeps_note (held.mono grown) rfl rfl rfl rfl rfl).andThen
            fun h'' updated _ seen => ensures_pure _ seen
      refine found.andThen fun h₁ found grown met => ?_
      cases found with
      | inr updated => exact ensures_pure _ met
      | inl found =>
          cases found with
          | none => exact ensures_pure _ (held.mono grown)
          | some resource =>
              refine (keeps_transition (held.mono grown).1 fun _ => ?_).mono
                fun _ _ _ row => ⟨row.1.1, row.1.2.trans held.2⟩
              exact .created waiting rfl rfl rfl rfl (met.2 resource rfl)
                (.found hasKind hasName met.1)
    · exact ensures_pure _ held

/-! ## Release -/

theorem teardownEffect_keeps (held : Held leaseId h lease) :
    Keeps texts (Held leaseId) (teardownEffect svc lease reason) h := by
  unfold teardownEffect
  have tornDown : Keeps texts (fun h' _ => ∃ resource,
      resourceFromLease lease = .ok resource ∧ TornDown h' lease.leaseId resource)
      (except
        (do
          let resource ← .ofExcept (resourceFromLease lease)
          await lease.leaseId (.teardown resource))
        Exn.isManager fun x => do
          let t ← now
          let _ ← compareAndSet lease
            { teardownState := some .retryableFailure
              lastProviderError :=
                some (some (reason ++ ": " ++ svc.texts.sanitizeProviderError x))
              accruedEstimatedCost := some (accruedCost lease t) }
          raise (.teardown ("Ollama lease '" ++ lease.leaseId ++
            "' teardown remains retryable"))) h := by
    refine keeps_except (keeps_ofExcept.andThen fun h₁ resource _ is => ?_)
      fun h' x grown => ?_
    · exact (keeps_await (by exact trivial)).mono fun _ _ _ reply =>
        ⟨resource, is, reply.1⟩
    · refine keeps_now.andThen fun h₁ t g₁ _ => ?_
      exact (keeps_note (held.mono (grown.trans g₁)) rfl rfl rfl rfl rfl).andThen
        fun _ _ _ _ => keeps_raise
  refine tornDown.andThen fun h₁ _ g₁ confirmed => ?_
  refine keeps_now.andThen fun h₂ t g₂ _ => ?_
  obtain ⟨resource, is, replied⟩ := confirmed
  exact keeps_terminate (held.mono (g₁.trans g₂))
    (.inr (.inr ⟨resource, is, replied.mono g₂⟩)) rfl rfl rfl rfl

theorem resolveUncertainRelease_keeps (held : Held leaseId h lease)
    (releasing : lease.state = .releasing) (uncertain : lease.creationUncertain = true) :
    Keeps texts (Held leaseId) (resolveUncertainRelease svc lease reason) h := by
  unfold resolveUncertainRelease
  split
  · rename_i kind name hasKind hasName
    have found : Keeps texts (fun h' found => match found with
          | .inl found => Replied h' lease.leaseId (.findResource kind name) (.ok found) ∧
              ∀ resource ∈ found, (resource : ProvisionedResource).providerResourceId ≠ ""
          | .inr updated => Held leaseId h' updated)
        (except ((await lease.leaseId (.findResource kind name)).bind
            fun found => .pure (.inl found)) Exn.isManager fun x => do
          let updated ← compareAndSet lease
            { teardownState := some .retryableFailure
              lastProviderError :=
                some (some (reason ++ ": " ++ svc.texts.sanitizeProviderError x)) }
          .pure (.inr updated) : Co (Option ProvisionedResource ⊕ Lease)) h := by
      refine keeps_except ((keeps_await (by exact trivial)).bind fun h' found _ reply => ?_)
        fun h' x grown => ?_
      · obtain ⟨replied, _, promised⟩ := reply
        refine ensures_pure _ ⟨replied, fun resource is => ?_⟩
        cases is
        exact promised
      · exact (keeps_note (held.mono grown) rfl rfl rfl rfl rfl).andThen
          fun h'' updated _ seen => ensures_pure _ seen
    refine found.andThen fun h₁ found grown met => ?_
    cases found with
    | inr updated => exact ensures_pure _ met
    | inl found =>
        cases found with
        | none => exact keeps_note (held.mono grown) rfl rfl rfl rfl rfl
        | some resource =>
            refine (keeps_compareAndSet (held.mono grown).1 ?_).mono
              fun _ _ _ row => ⟨row.1.1, row.1.2.trans held.2⟩
            exact .recovered releasing uncertain rfl rfl rfl rfl rfl (met.2 resource rfl)
              (.found hasKind hasName met.1)
  · exact keeps_note held rfl rfl rfl rfl rfl

theorem teardown_keeps (held : Held leaseId h lease) :
    Keeps texts (Held leaseId) (do
      let lease ← compareAndSet lease
        { teardownAttempts := some (lease.teardownAttempts + 1) }
      awaitOwned (teardownEffect svc lease reason)) h := by
  refine (keeps_note held rfl rfl rfl rfl rfl).andThen fun h₁ updated _ seen => ?_
  exact keeps_awaitOwned (teardownEffect_keeps seen)
    fun h' e row held => held.mono (List.suffix_cons _ _)

theorem releaseResource_keeps (held : Held leaseId h lease)
    (releasing : lease.state = .releasing) :
    Keeps texts (Held leaseId) (releaseResource svc lease reason) h := by
  unfold releaseResource
  split
  · exact teardown_keeps held
  · rename_i absent
    rw [Bool.not_eq_true] at absent
    split
    · rename_i uncertain
      refine (resolveUncertainRelease_keeps held releasing uncertain).andThen fun h₁ resolved _ seen => ?_
      split
      · exact keeps_raise
      · rename_i certain
        rw [Bool.not_eq_true] at certain
        split
        · exact teardown_keeps seen
        · rename_i absent
          rw [Bool.not_eq_true] at absent
          exact keeps_terminate seen (.inr (.inl ⟨absent, certain⟩)) rfl rfl rfl rfl
    · rename_i certain
      rw [Bool.not_eq_true] at certain
      exact keeps_terminate held (.inr (.inl ⟨absent, certain⟩)) rfl rfl rfl rfl

theorem release_keeps (held : Held leaseId h lease) :
    Keeps texts (Held leaseId) (release svc lease reason) h := by
  unfold release
  split
  · exact ensures_pure _ held
  · refine keeps_now.andThen fun h₁ t g₁ _ => ?_
    split
    · rename_i requested
      exact keeps_terminate (held.mono g₁) (.inl requested.1) rfl rfl rfl rfl
    · split
      · exact (keeps_move (held.mono g₁) (by decide) (by decide) rfl rfl rfl rfl).andThen
          fun h₂ row _ seen => releaseResource_keeps seen.1 seen.2
      · rename_i releasing
        rw [ne_eq, not_not] at releasing
        exact releaseResource_keeps (held.mono g₁) releasing

theorem releaseRouted_keeps (held : Held leaseId h lease) :
    Keeps texts (HeldRouted leaseId) (do
      let released ← release svc lease reason
      .pure released.unrouted) h :=
  (release_keeps held).andThen fun _ _ _ seen => ensures_pure _ seen

/-! ## Readiness -/

theorem checkReadinessOnce_keeps (held : Held leaseId h lease) :
    Keeps texts (HeldRouted leaseId) (checkReadinessOnce svc lease) h := by
  unfold checkReadinessOnce
  refine keeps_ofExcept.andThen fun h₀ resource g₀ _ => ?_
  refine keeps_now.andThen fun h₁ t g₁ _ => ?_
  have held₁ := held.mono (g₀.trans g₁)
  have observed : Keeps texts (fun h' observed => match observed with
        | .inl _ => True
        | .inr updated => Held leaseId h' updated)
      (except ((await lease.leaseId (.observe resource)).bind fun found => .pure (.inl found))
        Exn.isManager fun x => do
          let updated ← compareAndSet lease
            { lastProviderError := some (some (svc.texts.sanitizeProviderError x))
              accruedEstimatedCost := some (accruedCost lease t) }
          .pure (.inr updated) : Co (ReadinessObservation ⊕ Lease)) h₁ := by
    refine keeps_except ((keeps_await (by exact trivial)).bind fun h' found _ _ =>
        ensures_pure _ trivial) fun h' x grown => ?_
    exact (keeps_note (held₁.mono grown) rfl rfl rfl rfl rfl).andThen
      fun h'' updated _ seen => ensures_pure _ seen
  refine observed.andThen fun h₂ observed g₂ met => ?_
  cases observed with
  | inr updated => exact ensures_pure _ met
  | inl observation =>
      refine (keeps_note (held₁.mono g₂) rfl rfl rfl rfl rfl).andThen
        fun h₃ accrued g₃ seen => ?_
      split
      · exact releaseRouted_keeps seen
      · split
        · exact ensures_pure _ seen
        · split
          · exact ensures_pure _ seen
          · split
            · refine (keeps_note seen rfl rfl rfl rfl rfl).andThen
                fun h₄ pulling g₄ seen => ?_
              refine keeps_except ((keeps_await (by exact trivial)).andThen
                fun h₅ _ g₅ _ => ensures_pure _ (seen.mono g₅)) fun h' x grown => ?_
              exact (keeps_note (seen.mono grown) rfl rfl rfl rfl rfl).andThen
                fun h'' updated _ seen => ensures_pure _ seen
            · exact (keeps_move seen (by decide) (by decide) rfl rfl rfl rfl).andThen
                fun h₄ ready _ seen => ensures_pure _ seen.1

theorem readyWithRoute_keeps (held : Held leaseId h lease) :
    Keeps texts (HeldRouted leaseId) (readyWithRoute svc lease) h := by
  unfold readyWithRoute
  refine keeps_now.andThen fun h₁ t g₁ _ => ?_
  have held₁ := held.mono g₁
  dsimp only
  split
  · exact releaseRouted_keeps held₁
  · refine Ensures.next ?_ fun h₂ observation g₂ => ?_
    · refine keeps_except (keeps_ofExcept.andThen fun h₂ resource _ _ => ?_)
        fun h' x grown => ?_
      · exact (keeps_await (by exact trivial)).forget
      · exact (keeps_note (held₁.mono grown) rfl rfl rfl rfl rfl).andThen
          fun _ _ _ _ => keeps_raise
    · split
      · exact (keeps_note (held₁.mono g₂) rfl rfl rfl rfl rfl).andThen
          fun _ _ _ _ => keeps_raise
      · exact (keeps_note (held₁.mono g₂) rfl rfl rfl rfl rfl).andThen
          fun _ _ _ seen => ensures_pure _ seen

theorem waitUntilReady_keeps (fuel : Nat) (held : Held leaseId h lease) :
    Keeps texts (HeldRouted leaseId) (waitUntilReady svc fuel lease) h := by
  induction fuel generalizing lease h with
  | zero => exact ensures_stall
  | succ fuel ih =>
      unfold waitUntilReady
      split
      · exact ensures_pure _ held
      · refine (checkReadinessOnce_keeps held).andThen fun h₁ checked g₁ seen => ?_
        dsimp only
        split
        · exact ensures_pure _ seen
        · refine keeps_now.andThen fun h₂ t g₂ _ => ?_
          have seen₂ : Held leaseId h₂ checked.lease := Held.mono g₂ seen
          split
          · exact releaseRouted_keeps seen₂
          · split
            · refine Ensures.next ?_ fun _ _ _ => keeps_raise
              exact keeps_except ((release_keeps seen₂).bind fun _ _ _ _ =>
                ensures_pure _ trivial) fun _ _ _ => ensures_pure _ trivial
            · exact (keeps_await (by exact trivial)).andThen
                fun h₃ _ g₃ _ => ih (seen₂.mono g₃)

/-! ## Entry points -/

theorem acquire_keeps {request : LeaseRequest} {wait : Bool} {plan : Option PlacementPlan}
    (texts_eq : svc.texts = texts) :
    Keeps texts (HeldRouted request.leaseId) (acquire svc request wait plan) h := by
  unfold acquire
  refine keeps_now.andThen fun h₁ t _ _ => ?_
  refine keeps_getLease.andThen fun h₂ existing _ _ => ?_
  refine keeps_ofExcept.andThen fun h₃ _ _ _ => ?_
  refine keeps_insertRequest.andThen fun h₄ inserted _ seen => ?_
  obtain ⟨lease, new⟩ := inserted
  have held : Held request.leaseId h₄ lease := seen
  have authorized : Keeps texts (fun _ _ => True)
      (if new then .pure () else authorize lease request.ownerId request.workloadId : Co Unit)
      h₄ := by
    split
    · exact ensures_pure _ trivial
    · exact keeps_authorize
  refine authorized.andThen fun h₅ _ g₅ _ => ?_
  have held₅ := held.mono g₅
  split
  · exact readyWithRoute_keeps held₅
  · split
    · exact releaseRouted_keeps held₅
    · have created : Keeps texts (Held request.leaseId)
          (if lease.state = .requested then provisionRequested svc lease request plan
          else if lease.state = .provisioning ∨ lease.state = .reconcileRequired then
            reconcileCreation svc lease
          else .pure lease : Co Lease) h₅ := by
        split
        · exact provisionRequested_keeps held₅ held₅.2.symm texts_eq
        · split
          · rename_i waiting
            exact reconcileCreation_keeps held₅ waiting
          · exact ensures_pure _ held₅
      refine created.andThen fun h₆ row _ seen => ?_
      split
      · exact waitUntilReady_keeps _ seen
      · exact ensures_pure _ seen

theorem get_keeps {ownerId workloadId : String} :
    Keeps texts (HeldRouted leaseId) (get svc leaseId ownerId workloadId) h := by
  unfold get
  refine keeps_required.andThen fun h₁ lease _ held => ?_
  refine keeps_authorize.andThen fun h₂ _ g₂ _ => ?_
  split
  · exact readyWithRoute_keeps (Held.mono g₂ held)
  · exact ensures_pure _ (Held.mono g₂ held)

theorem touch_keeps {ownerId workloadId : String} :
    Keeps texts (HeldRouted leaseId) (touch svc leaseId ownerId workloadId) h := by
  unfold touch
  refine keeps_required.andThen fun h₁ lease _ held => ?_
  refine keeps_authorize.andThen fun h₂ _ g₂ _ => ?_
  have held₂ : Held leaseId h₂ lease := Held.mono g₂ held
  split
  · exact ensures_pure _ held₂
  · split
    · exact keeps_raise
    · refine (readyWithRoute_keeps held₂).andThen fun h₃ routed _ seen => ?_
      dsimp only
      split
      · exact ensures_pure _ seen
      · refine keeps_now.andThen fun h₄ t g₄ _ => ?_
        have held₄ : Held leaseId h₄ routed.lease := Held.mono g₄ seen
        split
        · exact releaseRouted_keeps held₄
        · exact (keeps_note held₄ rfl rfl rfl rfl rfl).andThen
            fun _ _ _ seen => ensures_pure _ seen

theorem callerRelease_keeps {ownerId workloadId : String} :
    Keeps texts (Held leaseId) (callerRelease svc leaseId ownerId workloadId) h := by
  unfold callerRelease
  refine keeps_required.andThen fun h₁ lease _ held => ?_
  exact keeps_authorize.andThen fun h₂ _ g₂ _ => release_keeps (Held.mono g₂ held)

/-! ## Reconciliation -/

theorem reconcileCreated_keeps {t : Instant} (held : Held leaseId h lease) :
    Keeps texts (HeldRouted leaseId) (reconcileCreated svc lease t) h := by
  unfold reconcileCreated
  split
  · refine keeps_except ((release_keeps held).bind fun _ _ _ seen => ensures_pure _ seen)
      fun h' x grown => ?_
    refine keeps_required.bind fun h'' found _ seen => ensures_pure _ ?_
    exact ⟨seen.1, seen.2.trans held.2⟩
  · split
    · exact checkReadinessOnce_keeps held
    · split
      · exact readyWithRoute_keeps held
      · exact ensures_pure _ held

/-- A request that is read back from a lease is a request for it. -/
theorem requestFromLease_leaseId {request : LeaseRequest}
    (read : requestFromLease lease = .ok request) : request.leaseId = lease.leaseId := by
  unfold requestFromLease at read
  split at read
  · cases read
  · cases read
    rfl

theorem reconcileOne_keeps (texts_eq : svc.texts = texts) :
    Keeps texts (fun _ _ => True) (reconcileOne svc leaseId) h := by
  unfold reconcileOne
  refine keeps_getLease.andThen fun h₁ found _ seen => ?_
  cases found with
  | none => exact ensures_pure _ trivial
  | some lease =>
      have held : Held leaseId h₁ lease := seen lease rfl
      dsimp only
      split
      · exact ensures_pure _ trivial
      · refine keeps_now.andThen fun h₂ t g₂ _ => ?_
        have held₂ := held.mono g₂
        split
        · refine keeps_except ((release_keeps held₂).bind fun _ _ _ _ =>
            ensures_pure _ trivial) fun h' x _ => ?_
          exact keeps_required.bind fun _ _ _ _ => ensures_pure _ trivial
        · split
          · exact (release_keeps held₂).andThen fun _ _ _ _ => ensures_pure _ trivial
          · have provisioned : Keeps texts (Held leaseId)
                (if lease.state = .requested then do
                  let request ← .ofExcept (requestFromLease lease)
                  provisionRequested svc lease request none
                else .pure lease : Co Lease) h₂ := by
              split
              · refine keeps_ofExcept.andThen fun h₃ request g₃ is => ?_
                exact provisionRequested_keeps (held₂.mono g₃) (requestFromLease_leaseId is)
                  texts_eq
              · exact ensures_pure _ held₂
            refine provisioned.andThen fun h₃ lease g₃ held₃ => ?_
            have found : Keeps texts (Held leaseId)
                (if lease.state = .provisioning ∨ lease.state = .reconcileRequired then
                  reconcileCreation svc lease
                else .pure lease : Co Lease) h₃ := by
              split
              · rename_i waiting
                exact reconcileCreation_keeps held₃ waiting
              · exact ensures_pure _ held₃
            refine found.andThen fun h₄ lease g₄ held₄ => ?_
            exact (reconcileCreated_keeps held₄).andThen fun _ _ _ _ => ensures_pure _ trivial

theorem recordReconcileError_keeps {x : Exn} :
    Keeps texts (fun _ _ => True) (recordReconcileError svc leaseId x) h := by
  unfold recordReconcileError
  refine keeps_getLease.andThen fun h₁ found _ seen => ?_
  cases found with
  | none => exact ensures_pure _ trivial
  | some lease =>
      have held : Held leaseId h₁ lease := seen lease rfl
      dsimp only
      split
      · exact ensures_pure _ trivial
      · refine keeps_except ((keeps_note held rfl rfl rfl rfl rfl).andThen
          fun _ _ _ _ => ensures_pure _ trivial) fun h' x _ => ?_
        exact keeps_getLease.andThen fun _ _ _ _ => ensures_pure _ trivial

theorem reconcileAll_keeps (texts_eq : svc.texts = texts) (listed : List Lease) :
    Keeps texts (fun _ _ => True) (reconcileAll svc listed) h := by
  induction listed generalizing h with
  | nil => exact ensures_pure _ trivial
  | cons initial rest ih =>
      unfold reconcileAll
      refine (keeps_except (reconcileOne_keeps texts_eq) fun _ _ _ =>
        recordReconcileError_keeps).andThen fun h₁ _ _ _ => ?_
      exact ih.andThen fun _ _ _ _ => ensures_pure _ trivial

theorem reconcile_keeps (texts_eq : svc.texts = texts) :
    Keeps texts (fun _ _ => True) (reconcile svc) h :=
  keeps_listForReconciliation.andThen fun _ listed _ _ => reconcileAll_keeps texts_eq listed

theorem reconcileLease_keeps {ownerId workloadId : String} (texts_eq : svc.texts = texts) :
    Keeps texts (fun _ _ => True) (reconcileLease svc leaseId ownerId workloadId) h := by
  unfold reconcileLease
  refine keeps_required.andThen fun h₁ lease _ _ => ?_
  refine keeps_authorize.andThen fun h₂ _ _ _ => ?_
  refine Ensures.next ?_ fun h₃ reconciled _ => ?_
  · refine keeps_except ((reconcileOne_keeps texts_eq).bind fun h₃ reconciled _ _ => ?_)
      fun h' x _ => ?_
    · cases reconciled with
      | some lease => exact ensures_pure _ trivial
      | none => exact ensures_pure _ trivial
    · refine recordReconcileError_keeps.andThen fun h₃ recorded _ _ => ?_
      cases recorded with
      | some lease => exact ensures_pure _ trivial
      | none => exact keeps_raise
  · cases reconciled with
    | inl lease => exact ensures_pure _ trivial
    | inr absent => exact keeps_raise

/-- Every task of the service keeps the contract. -/
theorem admits_safe {program : Co Unit} (admitted : admits texts program) :
    program.Safe (leaseContract texts) [] := by
  obtain ⟨fuel, task, rfl⟩ := admitted
  have void : ∀ {α : Type} {p : Co α} {done : Past → α → Prop}, Keeps texts done p [] →
      p.void.Safe (leaseContract texts) [] := fun kept => by
    have ends : Keeps texts (fun _ _ => True) (void _) [] :=
      kept.bind fun _ _ _ _ => ensures_pure () trivial
    exact ends.safe
  cases task with
  | acquire request wait plan => exact void (acquire_keeps rfl)
  | get leaseId ownerId workloadId => exact void get_keeps
  | touch leaseId ownerId workloadId => exact void touch_keeps
  | release leaseId ownerId workloadId => exact void callerRelease_keeps
  | reconcile => exact void (reconcile_keeps rfl)
  | reconcileLease leaseId ownerId workloadId => exact void (reconcileLease_keeps rfl)

end KestrelRunpod.Ollama
