import KestrelRunpod.Interleave.Compose
import KestrelRunpod.Ollama.Custody

/-!
# Renewal of an Ollama lease

Two writes of the service set an idle deadline: the one that makes a lease `READY`, and
`touch`.  Each follows an observation of the exact model by the same call, made after a clock
read that the deadlines admit, and a last check of the hard deadline and of the cost.  A route
is returned on the same observation.

`renewalContract` says so for one task.  The tasks keep it together with `leaseContract`, and
over the consistent store of a run it becomes a statement about the current row.
-/

namespace KestrelRunpod.Ollama

open Interleave Program

variable {texts : Texts} {svc : Service} {h h' : Past} {lease row : Lease}
  {leaseId reason : String} {α β : Type}

/-! ## Observations -/

/-- With the row in hand, the task read the clock as `t` and then observed its resource. -/
def Observed (h : Past) (row : Lease) (t : Instant) (observation : ReadinessObservation) :
    Prop :=
  ∃ (resource : ProvisionedResource) (id : Nat) (earlier : Past),
    resourceFromLease row = .ok resource ∧ Shown earlier row ∧
      (⟨.recv id (.observe resource), .ok observation⟩ : Event Effects) ::
        (⟨.send row.leaseId (.observe resource), id⟩ : Event Effects) ::
          (⟨.now, t⟩ : Event Effects) :: earlier <:+ h

/-- The observation finds the provider ready, with a route and the exact model. -/
structure Exact (texts : Texts) (observation : ReadinessObservation) (model : String) : Prop where
  ready : observation.providerReady = true
  routed : truthy observation.routeUrl = true
  served : texts.hasModel observation model = true

/-- The task's write over `row`, which moves it nowhere or to `READY`, came back as `next`. -/
def Led (h : Past) (row next : Lease) : Prop :=
  ∃ changes : Changes, (⟨.compareAndSet row changes, .ok next⟩ : Event Effects) ∈ h ∧
    (changes.state = none ∨ changes.state = some .ready)

/-- The task's note on `row` came back as `next`. -/
def Noted (h : Past) (row next : Lease) : Prop :=
  ∃ note : Changes, (⟨.compareAndSet row note, .ok next⟩ : Event Effects) ∈ h ∧
    note.state = none ∧ note.idleDeadline = none

theorem Observed.mono {t : Instant} {observation : ReadinessObservation} (grown : h <:+ h')
    (observed : Observed h row t observation) : Observed h' row t observation := by
  obtain ⟨resource, id, earlier, attributed, shown, within⟩ := observed
  exact ⟨resource, id, earlier, attributed, shown, within.trans grown⟩

theorem Noted.mono {next : Lease} (grown : h <:+ h') (noted : Noted h row next) :
    Noted h' row next := by
  obtain ⟨note, member, state, idle⟩ := noted
  exact ⟨note, grown.mem member, state, idle⟩

theorem Noted.led {next : Lease} (noted : Noted h row next) : Led h row next := by
  obtain ⟨note, member, state, _⟩ := noted
  exact ⟨note, member, .inl state⟩

theorem Led.mono {next : Lease} (grown : h <:+ h') (led : Led h row next) : Led h' row next := by
  obtain ⟨changes, member, state⟩ := led
  exact ⟨changes, grown.mem member, state⟩

/-! ## The contract -/

/-- The write sets an idle deadline. -/
def renews : Op → Prop
  | .compareAndSet _ changes => changes.idleDeadline ≠ none
  | _ => False

/-- The idle deadline that a use at `t` gives the lease. -/
def Lease.renewed (lease : Lease) (t : Instant) : Instant :=
  min (t + seconds lease.idleTimeoutSeconds) lease.hardDeadline

/-- What the task has checked when it sets the idle deadline of `lease`. -/
inductive Renewal (texts : Texts) (h : Past) (lease : Lease) (changes : Changes) : Prop
  | activated {row : Lease} {t : Instant} {observation : ReadinessObservation}
      (observed : Observed h row t observation) (waiting : row.state = .waitingForModel)
      (noted : Noted h row lease) (exact : Exact texts observation lease.model)
      (within : t < lease.hardDeadline) (affordable : overAuthorizedCost lease t = false)
      (state : changes.state = some .ready)
      (sets : changes.idleDeadline = some (lease.renewed t))
  | touched {row : Lease} {t₀ t : Instant} {observation : ReadinessObservation} {earlier : Past}
      (observed : Observed earlier row t₀ observation) (exact : Exact texts observation row.model)
      (admitted : t₀ < row.hardDeadline ∧ t₀ < row.idleDeadline)
      (noted : Noted earlier row lease) (ready : lease.state = .ready)
      (read : h = (⟨.now, t⟩ : Event Effects) :: earlier)
      (within : t < lease.hardDeadline) (affordable : overAuthorizedCost lease t = false)
      (state : changes.state = none) (sets : changes.idleDeadline = some (lease.renewed t))

/-- A write that sets an idle deadline is a renewal. -/
def PermitsRenewal (texts : Texts) (h : Past) : Op → Prop
  | .compareAndSet lease changes => changes.idleDeadline ≠ none → Renewal texts h lease changes
  | _ => True

def renewalContract (texts : Texts) : Contract Effects :=
  ⟨PermitsRenewal texts, fun _ => True⟩

/-- Both contracts of the lease service's tasks. -/
abbrev Renews (texts : Texts) (done : Past → α → Prop) (p : Co α) (h : Past) : Prop :=
  p.Ensures ((leaseContract texts).both (renewalContract texts)) done h

variable {done : Past → α → Prop}

theorem permits_of_avoids {op : Op} (avoids : ¬ renews op) : PermitsRenewal texts h op := by
  cases op with
  | compareAndSet lease changes => exact fun sets => absurd sets avoids
  | _ => trivial

/-- A task that sets no idle deadline keeps both contracts when it keeps the first. -/
theorem renews_of_keeps {p : Co α} (kept : Keeps texts done p h) (avoids : p.Avoids renews) :
    Renews texts done p h := by
  have quiet : p.Obeys (renewalContract texts) (fun _ _ => True) (fun _ _ => True) h :=
    avoids.obeys (C := renewalContract texts)
      (fun _ _ _ good => ⟨permits_of_avoids good, fun _ => trivial⟩) trivial
  exact (Obeys.both (fun _ _ => trivial) kept quiet).weaken (fun _ _ _ met => met.1)
    fun _ _ _ _ => trivial

/-! ## Tasks that set no idle deadline -/

theorem avoids_raise {x : Exn} : (raise x : Co α).Avoids renews := trivial

theorem avoids_now : now.Avoids renews := ⟨not_false, fun _ => trivial⟩

theorem avoids_getLease : (getLease leaseId).Avoids renews := ⟨not_false, fun _ => trivial⟩

theorem avoids_required : (required leaseId).Avoids renews := by
  refine avoids_getLease.bind fun found => ?_
  cases found <;> trivial

theorem avoids_authorize {ownerId workloadId : String} :
    (authorize lease ownerId workloadId).Avoids renews := by
  unfold authorize
  split <;> trivial

theorem avoids_insertRequest {request : LeaseRequest} {t : Instant} :
    (insertRequest request t).Avoids renews := ⟨not_false, fun _ => avoids_ofExcept _⟩

theorem avoids_listForReconciliation : listForReconciliation.Avoids renews :=
  ⟨not_false, fun _ => trivial⟩

theorem avoids_validateRuntimeRequest {request : LeaseRequest} :
    (validateRuntimeRequest request).Avoids renews := ⟨not_false, fun _ => avoids_ofExcept _⟩

theorem avoids_await {call : Call} : (await leaseId call).Avoids renews :=
  ⟨not_false, fun _ => ⟨not_false, fun _ => avoids_ofExcept _⟩⟩

theorem avoids_awaitOwned {effect : Co α} (avoids : effect.Avoids renews) :
    (awaitOwned effect).Avoids renews := by
  refine avoids.bind fun a => ⟨not_false, fun (cancelled : Bool) => ?_⟩
  cases cancelled <;> trivial

theorem avoids_except {body : Co α} {caught : Exn → Bool} {handler : Exn → Co α}
    (avoids : body.Avoids renews) (handled : ∀ x, (handler x).Avoids renews) :
    (except body caught handler).Avoids renews := by
  refine avoids.handle fun x => ?_
  split
  · exact handled x
  · trivial

theorem avoids_compareAndSet {changes : Changes} (kept : changes.idleDeadline = none) :
    (compareAndSet lease changes).Avoids renews :=
  ⟨fun sets => sets kept, fun _ => avoids_ofExcept _⟩

theorem avoids_transition {target : LeaseState} {changes : Changes}
    (kept : changes.idleDeadline = none) : (transition lease target changes).Avoids renews := by
  unfold transition
  split
  · trivial
  · exact avoids_compareAndSet kept

theorem checkedPlan_avoids {request : LeaseRequest} {plan : Option PlacementPlan} :
    (checkedPlan request plan).Avoids renews := by
  unfold checkedPlan
  refine Avoids.andThen ?_ fun plan => (avoids_ofExcept _).andThen fun _ =>
    avoids_validateRuntimeRequest.andThen fun _ => avoids_pure _
  cases plan with
  | some plan => trivial
  | none => exact avoids_await

theorem provisionEffect_avoids {request : LeaseRequest} {plan : PlacementPlan} {name : String} :
    (provisionEffect svc lease request plan name).Avoids renews := by
  unfold provisionEffect
  refine Avoids.andThen ?_ fun _ => avoids_transition rfl
  exact avoids_except avoids_await fun x => (avoids_transition rfl).andThen fun _ => avoids_raise

theorem provisionRequested_avoids {request : LeaseRequest} {plan : Option PlacementPlan} :
    (provisionRequested svc lease request plan).Avoids renews := by
  unfold provisionRequested
  split
  · trivial
  · refine Avoids.andThen ?_ fun plan => avoids_now.andThen fun t =>
      (avoids_transition rfl).andThen fun lease => avoids_awaitOwned provisionEffect_avoids
    exact avoids_except checkedPlan_avoids fun x =>
      (avoids_transition rfl).andThen fun _ => avoids_raise

theorem reconcileCreation_avoids : (reconcileCreation svc lease).Avoids renews := by
  unfold reconcileCreation
  split
  · exact avoids_transition rfl
  · split
    · refine Avoids.andThen ?_ fun found => ?_
      · exact avoids_except (avoids_await.bind fun _ => trivial) fun x =>
          (avoids_compareAndSet rfl).andThen fun _ => avoids_pure _
      · rcases found with (_ | resource) | updated
        · trivial
        · exact avoids_transition rfl
        · trivial
    · trivial

theorem teardownEffect_avoids : (teardownEffect svc lease reason).Avoids renews := by
  unfold teardownEffect
  refine Avoids.andThen ?_ fun _ => avoids_now.andThen fun t => avoids_transition rfl
  refine avoids_except ((avoids_ofExcept _).andThen fun _ => avoids_await) fun x => ?_
  exact avoids_now.andThen fun t => (avoids_compareAndSet rfl).andThen fun _ => avoids_raise

theorem resolveUncertainRelease_avoids :
    (resolveUncertainRelease svc lease reason).Avoids renews := by
  unfold resolveUncertainRelease
  split
  · refine Avoids.andThen ?_ fun found => ?_
    · exact avoids_except (avoids_await.bind fun _ => trivial) fun x =>
        (avoids_compareAndSet rfl).andThen fun _ => avoids_pure _
    · rcases found with (_ | resource) | updated
      · exact avoids_compareAndSet rfl
      · exact avoids_compareAndSet rfl
      · trivial
  · exact avoids_compareAndSet rfl

theorem releaseResource_avoids : (releaseResource svc lease reason).Avoids renews := by
  have tearDown : ∀ lease : Lease, (do
      let lease ← compareAndSet lease { teardownAttempts := some (lease.teardownAttempts + 1) }
      awaitOwned (teardownEffect svc lease reason) : Co Lease).Avoids renews := fun lease =>
    (avoids_compareAndSet rfl).andThen fun _ => avoids_awaitOwned teardownEffect_avoids
  unfold releaseResource
  split
  · exact tearDown lease
  · split
    · refine resolveUncertainRelease_avoids.andThen fun resolved => ?_
      split
      · trivial
      · split
        · exact tearDown resolved
        · exact avoids_transition rfl
    · exact avoids_transition rfl

theorem release_avoids : (release svc lease reason).Avoids renews := by
  unfold release
  split
  · trivial
  · refine avoids_now.andThen fun t => ?_
    split
    · exact avoids_transition rfl
    · split
      · exact (avoids_transition rfl).andThen fun _ => releaseResource_avoids
      · exact releaseResource_avoids

theorem recordReconcileError_avoids {x : Exn} :
    (recordReconcileError svc leaseId x).Avoids renews := by
  unfold recordReconcileError
  refine avoids_getLease.andThen fun found => ?_
  cases found with
  | none => trivial
  | some lease =>
      dsimp only
      split
      · trivial
      · exact avoids_except ((avoids_compareAndSet rfl).andThen fun _ => avoids_pure _) fun x =>
          avoids_getLease.andThen fun _ => avoids_pure _

/-! ## A release that ends normally -/

theorem trusting_free (p : Co α) :
    p.Ensures (leaseContract texts).trusting (fun _ _ => True) h :=
  safe_of_free (fun _ _ => trivial) p h

theorem transition_target {target : LeaseState} {changes : Changes} :
    (transition lease target changes).Ensures (leaseContract texts).trusting
      (fun _ row => row.state = target) h := by
  unfold transition
  split
  · trivial
  · refine ensures_perform trivial fun (reply : Except Exn Lease) promised => ?_
    refine ensures_ofExcept fun row is => ?_
    subst is
    exact promised.2.1 target rfl

theorem awaitOwned_ensures {C : Contract Effects} {P : α → Prop} {effect : Co α}
    (permitted : ∀ h, C.permits h .joined) (ends : effect.Ensures C (fun _ a => P a) h) :
    (awaitOwned effect).Ensures C (fun _ a => P a) h := by
  refine ends.bind fun h' a _ met => ?_
  refine ensures_perform (permitted h') fun (cancelled : Bool) _ => ?_
  split
  · trivial
  · exact ensures_pure _ met

/-- A teardown that ends normally leaves the lease terminated. -/
theorem tearDown_terminated : (do
    let lease ← compareAndSet lease { teardownAttempts := some (lease.teardownAttempts + 1) }
    awaitOwned (teardownEffect svc lease reason) : Co Lease).Ensures
      (leaseContract texts).trusting (fun _ row => row.state = .terminated) h := by
  refine (trusting_free _).andThen fun h₁ lease _ _ => ?_
  refine awaitOwned_ensures (fun _ => trivial) ?_
  unfold teardownEffect
  exact (trusting_free _).andThen fun h₂ _ _ _ => (trusting_free _).andThen fun h₃ t _ _ =>
    transition_target

theorem release_terminated :
    (release svc lease reason).Ensures (leaseContract texts).trusting
      (fun _ row => row.state = .terminated) h := by
  have resource : ∀ lease : Lease, ∀ h, (releaseResource svc lease reason).Ensures
      (leaseContract texts).trusting (fun _ row => row.state = .terminated) h := fun lease h => by
    unfold releaseResource
    split
    · exact tearDown_terminated
    · split
      · refine (trusting_free _).andThen fun h₁ resolved _ _ => ?_
        split
        · trivial
        · split
          · exact tearDown_terminated
          · exact transition_target
      · exact transition_target
  unfold release
  split
  · rename_i terminated
    exact ensures_pure _ terminated
  · refine (trusting_free _).andThen fun h₁ t _ _ => ?_
    split
    · exact transition_target
    · split
      · exact (trusting_free _).andThen fun h₂ lease _ _ => resource lease h₂
      · exact resource lease h₁

/-! ## Routes -/

/-- What the task has checked when it returns `url` with the lease. -/
structure Warrants (texts : Texts) (h : Past) (row seen lease : Lease) (t : Instant)
    (observation : ReadinessObservation) (url : String) : Prop where
  observed : Observed h row t observation
  exact : Exact texts observation seen.model
  route : observation.routeUrl = some url
  within : t < seen.hardDeadline
  affordable : overAuthorizedCost seen t = false
  led : Relation.ReflTransGen (Led h) row seen
  onward : Relation.ReflTransGen (Led h) seen lease
  ready : row.state = .ready ∨ lease.state = .ready

/-- A routed lease the task has seen, whose route it has observed. -/
def Routes (texts : Texts) (leaseId : String) (h : Past) (routed : RoutedLease) : Prop :=
  HeldRouted leaseId h routed ∧ ∀ url, routed.routeUrl = some url →
    ∃ row seen t observation, Warrants texts h row seen routed.lease t observation url

theorem Held.unrouted (held : Held leaseId h lease) :
    Routes texts leaseId h lease.unrouted :=
  ⟨held, fun url routed => by cases routed⟩

/-- The lease was found ready at `t`, which its deadlines and its cost admit. -/
structure FoundReady (texts : Texts) (h : Past) (lease : Lease) (routed : RoutedLease)
    (t : Instant) (observation : ReadinessObservation) : Prop where
  observed : Observed h lease t observation
  exact : Exact texts observation lease.model
  admitted : t < lease.hardDeadline ∧ t < lease.idleDeadline
  affordable : overAuthorizedCost lease t = false
  noted : Noted h lease routed.lease
  route : routed.routeUrl = observation.routeUrl

theorem FoundReady.warrants {routed : RoutedLease} {t : Instant} {url : String}
    {observation : ReadinessObservation} (ready : lease.state = .ready)
    (found : FoundReady texts h lease routed t observation) (is : routed.routeUrl = some url) :
    Warrants texts h lease lease routed.lease t observation url where
  observed := found.observed
  exact := found.exact
  route := found.route.symm.trans is
  within := found.admitted.1
  affordable := found.affordable
  led := .refl
  onward := .single found.noted.led
  ready := .inl ready

theorem renews_now : Renews texts (fun h' t => h' = (⟨.now, t⟩ : Event Effects) :: h) now h :=
  ensures_perform ⟨trivial, trivial⟩ fun _ _ => ensures_pure _ rfl

theorem renews_await {call : Call} (permitted : Permits texts h (.send leaseId call)) :
    Renews texts (fun h' value => ∃ id : Nat, h' =
      (⟨.recv id call, .ok value⟩ : Event Effects) ::
        (⟨.send leaseId call, id⟩ : Event Effects) :: h) (await leaseId call) h := by
  refine ensures_perform ⟨permitted, trivial⟩ fun (id : Nat) _ => ?_
  refine ensures_perform ⟨⟨leaseId, List.mem_cons_self⟩, trivial⟩ fun outcome _ => ?_
  refine ensures_ofExcept fun value is => ?_
  subst is
  exact ⟨id, rfl⟩

theorem renews_attributed :
    Renews texts (fun h' resource => h' = h ∧ resourceFromLease lease = .ok resource)
      (.ofExcept (resourceFromLease lease)) h :=
  ensures_ofExcept fun _ is => ⟨rfl, is⟩

/-- A write over a lease the task holds, which moves it nowhere. -/
theorem renews_note {changes : Changes} (held : Held leaseId h lease)
    (renewal : changes.idleDeadline ≠ none → Renewal texts h lease changes)
    (state : changes.state = none) (uncertain : changes.creationUncertain = none)
    (id : changes.providerResourceId = none) (kind : changes.resourceType = none)
    (name : changes.resourceName = none) :
    Renews texts (fun h' row => Held leaseId h' row ∧ Led h' lease row ∧
        (changes.idleDeadline = none → Noted h' lease row))
      (compareAndSet lease changes) h := by
  refine ensures_perform ⟨⟨held.1, .note state uncertain id kind name⟩, renewal⟩
    fun (reply : Except Exn Lease) promised => ?_
  refine ensures_ofExcept fun row is => ?_
  subst is
  have logged : (⟨.compareAndSet lease changes, .ok row⟩ : Event Effects) ∈
      (⟨.compareAndSet lease changes, .ok row⟩ : Event Effects) :: h := List.mem_cons_self
  exact ⟨⟨.head rfl, promised.1.trans held.2⟩, ⟨changes, logged, .inl state⟩,
    fun idle => ⟨changes, logged, state, idle⟩⟩

/-- The write that makes a lease the task holds ready. -/
theorem renews_ready {changes : Changes} (held : Held leaseId h lease)
    (renewal : Renewal texts h lease { changes with state := some .ready })
    (uncertain : changes.creationUncertain = none) (id : changes.providerResourceId = none)
    (kind : changes.resourceType = none) (name : changes.resourceName = none) :
    Renews texts (fun h' row => Held leaseId h' row ∧ Led h' lease row ∧ row.state = .ready)
      (transition lease .ready changes) h := by
  unfold transition
  split
  · exact ensures_throw _
  · rename_i valid
    rw [not_and_or, not_not, not_not] at valid
    refine ensures_perform ⟨⟨held.1, .move valid (by decide) (fun ends => by cases ends)
      uncertain id kind name⟩, fun _ => renewal⟩ fun (reply : Except Exn Lease) promised => ?_
    refine ensures_ofExcept fun row is => ?_
    subst is
    exact ⟨⟨.head rfl, promised.1.trans held.2⟩, ⟨_, List.mem_cons_self, .inr rfl⟩,
      promised.2.1 .ready rfl⟩

theorem renews_except {body : Co α} {caught : Exn → Bool} {handler : Exn → Co α}
    (kept : Renews texts done body h)
    (handled : ∀ h' x, h <:+ h' → Renews texts done (handler x) h') :
    Renews texts done (except body caught handler) h := by
  refine kept.handle fun h' x grown => ?_
  split
  · exact handled h' x grown
  · exact ensures_throw x

theorem release_renews (held : Held leaseId h lease) :
    Renews texts (fun h' row => Held leaseId h' row ∧ row.state = .terminated)
      (release svc lease reason) h := by
  have renewed : Renews texts (Held leaseId) (release svc lease reason) h :=
    renews_of_keeps (release_keeps held) release_avoids
  have terminated : (release svc lease reason).Ensures (leaseContract texts).trusting
      (fun _ row => row.state = .terminated) h := release_terminated
  exact (Obeys.trusting renewed terminated).weaken (fun _ _ _ met => met)
    fun _ _ _ _ => trivial

/-- A release returns no route. -/
theorem releaseRouted_renews (held : Held leaseId h lease) :
    Renews texts (Routes texts leaseId) (do
      let released ← release svc lease reason
      .pure released.unrouted) h :=
  (release_renews held).andThen fun _ _ _ seen => ensures_pure _ seen.1.unrouted

/-! ## Readiness -/

theorem checkReadinessOnce_renews (held : Held leaseId h lease)
    (waiting : lease.state = .waitingForModel) :
    Renews svc.texts (Routes svc.texts leaseId) (checkReadinessOnce svc lease) h := by
  unfold checkReadinessOnce
  refine renews_attributed.andThen fun h₀ resource g₀ attributed => ?_
  obtain ⟨rfl, attributed⟩ := attributed
  refine renews_now.andThen fun h₁ t g₁ read => ?_
  subst read
  have held₁ := held.mono g₁
  have observed : Renews svc.texts (fun h' => Sum.elim (Observed h' lease t) (Held leaseId h'))
      (except ((await lease.leaseId (.observe resource)).bind fun found => .pure (.inl found))
        Exn.isManager fun x => do
          let updated ← compareAndSet lease
            { lastProviderError := some (some (svc.texts.sanitizeProviderError x))
              accruedEstimatedCost := some (accruedCost lease t) }
          .pure (.inr updated) : Co (ReadinessObservation ⊕ Lease))
      ((⟨.now, t⟩ : Event Effects) :: h₀) := by
    refine renews_except ((renews_await (by exact trivial)).bind fun h' found _ answered =>
        ensures_pure _ ?_) fun h' x grown => ?_
    · obtain ⟨id, rfl⟩ := answered
      exact ⟨resource, id, _, attributed, held.1, List.suffix_refl _⟩
    · exact (renews_note (held₁.mono grown) (fun sets => absurd rfl sets) rfl rfl rfl rfl
        rfl).andThen fun h'' updated _ seen => ensures_pure _ seen.1
  refine observed.andThen fun h₂ observed g₂ met => ?_
  cases observed with
  | inr updated => exact ensures_pure _ (Held.unrouted met)
  | inl observation =>
      have met : Observed h₂ lease t observation := met
      refine (renews_note (held₁.mono g₂) (fun sets => absurd rfl sets) rfl rfl rfl rfl
        rfl).andThen fun h₃ accrued g₃ seen => ?_
      obtain ⟨held₃, led, noted⟩ := seen
      split
      · exact releaseRouted_renews held₃
      · rename_i admitted
        rw [not_or, not_le, Bool.not_eq_true] at admitted
        split
        · exact ensures_pure _ held₃.unrouted
        · rename_i routeUrl routed
          split
          · exact ensures_pure _ held₃.unrouted
          · rename_i ready
            rw [not_or, Bool.not_eq_false] at ready
            split
            · refine (renews_note held₃ (fun sets => absurd rfl sets) rfl rfl rfl rfl
                rfl).andThen fun h₄ pulling g₄ seen => ?_
              refine renews_except ((renews_await (by exact trivial)).andThen
                fun h₅ _ g₅ _ => ensures_pure _ (seen.1.mono g₅).unrouted) fun h' x grown => ?_
              exact (renews_note (seen.1.mono grown) (fun sets => absurd rfl sets) rfl rfl rfl
                rfl rfl).andThen fun h'' updated _ noted => ensures_pure _ noted.1.unrouted
            · rename_i served
              rw [Bool.not_eq_false] at served
              have exact : Exact svc.texts observation accrued.model :=
                ⟨ready.1, by rw [routed, truthy_some]; exact decide_eq_true ready.2, served⟩
              have renewal : ∀ changes : Changes, changes.state = some .ready →
                  changes.idleDeadline = some (accrued.renewed t) →
                  Renewal svc.texts h₃ accrued changes := fun changes state sets =>
                .activated (met.mono g₃) waiting (noted rfl) exact admitted.1 admitted.2 state
                  sets
              refine (renews_ready held₃ (renewal _ rfl rfl) rfl rfl rfl rfl).andThen
                fun h₄ ready g₄ seen => ensures_pure _ ?_
              refine ⟨seen.1, fun url is => ?_⟩
              refine ⟨lease, accrued, t, observation, (met.mono g₃).mono g₄, exact,
                routed.trans is, admitted.1, admitted.2, .single (led.mono g₄),
                .single seen.2.1, .inr seen.2.2⟩

/-- A ready lease is released, or found ready with its route. -/
theorem readyWithRoute_found (held : Held leaseId h lease) :
    Renews svc.texts (fun h' routed => HeldRouted leaseId h' routed ∧
        ((routed.routeUrl = none ∧ routed.lease.state = .terminated) ∨
          ∃ t observation, FoundReady svc.texts h' lease routed t observation))
      (readyWithRoute svc lease) h := by
  unfold readyWithRoute
  refine renews_now.andThen fun h₁ t g₁ read => ?_
  subst read
  have held₁ := held.mono g₁
  dsimp only
  split
  · exact (release_renews held₁).andThen fun _ _ _ seen =>
      ensures_pure _ ⟨seen.1, .inl ⟨rfl, seen.2⟩⟩
  · rename_i admitted
    rw [not_or, not_or, not_le, not_le, Bool.not_eq_true] at admitted
    have watched : Renews svc.texts (fun h' observation => Observed h' lease t observation)
        (except
          (do
            let resource ← .ofExcept (resourceFromLease lease)
            await lease.leaseId (.observe resource))
          Exn.isManager fun x => do
            let _ ← compareAndSet lease
              { lastProviderError := some (some (svc.texts.sanitizeProviderError x))
                accruedEstimatedCost := some (accruedCost lease t) }
            raise (.readiness ("Ollama lease '" ++ lease.leaseId ++
              "' ready route could not be observed")))
        ((⟨.now, t⟩ : Event Effects) :: h) := by
      refine renews_except (renews_attributed.andThen fun h₂ resource _ attributed => ?_)
        fun h' x grown => ?_
      · obtain ⟨rfl, attributed⟩ := attributed
        refine (renews_await (by exact trivial)).mono fun h' observation _ answered => ?_
        obtain ⟨id, rfl⟩ := answered
        exact ⟨resource, id, _, attributed, held.1, List.suffix_refl _⟩
      · exact (renews_note (held₁.mono grown) (fun sets => absurd rfl sets) rfl rfl rfl rfl
          rfl).andThen fun _ _ _ _ => ensures_throw _
    refine watched.andThen fun h₂ observation g₂ observed => ?_
    split
    · exact (renews_note (held₁.mono g₂) (fun sets => absurd rfl sets) rfl rfl rfl rfl
        rfl).andThen fun _ _ _ _ => ensures_throw _
    · rename_i ready
      rw [not_or, not_or, Bool.not_eq_false, Bool.not_eq_false, Bool.not_eq_false] at ready
      refine (renews_note (held₁.mono g₂) (fun sets => absurd rfl sets) rfl rfl rfl rfl
        rfl).andThen fun h₃ durable g₃ seen => ensures_pure _ ⟨seen.1, .inr ⟨t, observation, ?_⟩⟩
      exact
        { observed := observed.mono g₃
          exact := ⟨ready.1, ready.2.1, ready.2.2⟩
          admitted := ⟨admitted.1, admitted.2.1⟩
          affordable := admitted.2.2
          noted := seen.2.2 rfl
          route := rfl }

theorem readyWithRoute_renews (held : Held leaseId h lease) (ready : lease.state = .ready) :
    Renews svc.texts (Routes svc.texts leaseId) (readyWithRoute svc lease) h := by
  refine (readyWithRoute_found held).mono fun h' routed _ seen => ⟨seen.1, fun url is => ?_⟩
  rcases seen.2 with ⟨none, _⟩ | ⟨t, observation, found⟩
  · rw [none] at is
    cases is
  · exact ⟨lease, lease, t, observation, found.warrants ready is⟩

theorem waitUntilReady_renews (fuel : Nat) (held : Held leaseId h lease) :
    Renews svc.texts (Routes svc.texts leaseId) (waitUntilReady svc fuel lease) h := by
  induction fuel generalizing lease h with
  | zero => exact ensures_stall
  | succ fuel ih =>
      unfold waitUntilReady
      split
      · exact ensures_pure _ held.unrouted
      · rename_i waiting
        rw [ne_eq, not_not] at waiting
        refine (checkReadinessOnce_renews held waiting).andThen fun h₁ checked g₁ seen => ?_
        dsimp only
        split
        · exact ensures_pure _ seen
        · refine renews_now.andThen fun h₂ t g₂ _ => ?_
          have seen₂ : Held leaseId h₂ checked.lease := Held.mono g₂ seen.1
          split
          · exact releaseRouted_renews seen₂
          · split
            · refine Ensures.next ?_ fun _ _ _ => ensures_throw _
              exact renews_except ((release_renews seen₂).bind fun _ _ _ _ =>
                ensures_pure _ trivial) fun _ _ _ => ensures_pure _ trivial
            · exact (renews_await (by exact trivial)).andThen
                fun h₃ _ g₃ _ => ih (seen₂.mono g₃)

/-! ## Entry points -/

theorem provisionRequested_renews {request : LeaseRequest} {plan : Option PlacementPlan}
    (held : Held leaseId h lease) (same : request.leaseId = lease.leaseId) :
    Renews svc.texts (Held leaseId) (provisionRequested svc lease request plan) h :=
  renews_of_keeps (provisionRequested_keeps held same rfl) provisionRequested_avoids

theorem reconcileCreation_renews (held : Held leaseId h lease)
    (waiting : lease.state = .provisioning ∨ lease.state = .reconcileRequired) :
    Renews svc.texts (Held leaseId) (reconcileCreation svc lease) h :=
  renews_of_keeps (reconcileCreation_keeps held waiting) reconcileCreation_avoids

theorem acquire_renews {request : LeaseRequest} {wait : Bool} {plan : Option PlacementPlan} :
    Renews svc.texts (Routes svc.texts request.leaseId) (acquire svc request wait plan) h := by
  unfold acquire
  refine renews_now.andThen fun h₁ t _ _ => ?_
  refine (renews_of_keeps keeps_getLease avoids_getLease).andThen fun h₂ existing _ _ => ?_
  refine (renews_of_keeps keeps_ofExcept (avoids_ofExcept _)).andThen fun h₃ _ _ _ => ?_
  refine (renews_of_keeps keeps_insertRequest avoids_insertRequest).andThen
    fun h₄ inserted _ seen => ?_
  obtain ⟨lease, new⟩ := inserted
  have held : Held request.leaseId h₄ lease := seen
  have authorized : Renews svc.texts (fun _ _ => True)
      (if new then .pure () else authorize lease request.ownerId request.workloadId : Co Unit)
      h₄ := by
    split
    · exact ensures_pure _ trivial
    · exact renews_of_keeps keeps_authorize avoids_authorize
  refine authorized.andThen fun h₅ _ g₅ _ => ?_
  have held₅ := held.mono g₅
  split
  · rename_i ready
    exact readyWithRoute_renews held₅ ready
  · split
    · exact releaseRouted_renews held₅
    · have created : Renews svc.texts (Held request.leaseId)
          (if lease.state = .requested then provisionRequested svc lease request plan
          else if lease.state = .provisioning ∨ lease.state = .reconcileRequired then
            reconcileCreation svc lease
          else .pure lease : Co Lease) h₅ := by
        split
        · exact provisionRequested_renews held₅ held₅.2.symm
        · split
          · rename_i waiting
            exact reconcileCreation_renews held₅ waiting
          · exact ensures_pure _ held₅
      refine created.andThen fun h₆ row _ seen => ?_
      split
      · exact waitUntilReady_renews _ seen
      · exact ensures_pure _ seen.unrouted

/-- A lease that the task looked up on behalf of its owner. -/
theorem authorized_renews {β : Type} {done : Past → β → Prop} {ownerId workloadId : String}
    {body : Lease → Co β}
    (rest : ∀ h' lease, Held leaseId h' lease → Renews texts done (body lease) h') :
    Renews texts done (do
      let lease ← required leaseId
      authorize lease ownerId workloadId
      body lease) h := by
  refine (renews_of_keeps keeps_required avoids_required).andThen fun h₁ lease _ held => ?_
  refine (renews_of_keeps keeps_authorize avoids_authorize).andThen fun h₂ _ g₂ _ => ?_
  exact rest h₂ lease (Held.mono g₂ held)

theorem get_renews {ownerId workloadId : String} :
    Renews svc.texts (Routes svc.texts leaseId) (get svc leaseId ownerId workloadId) h := by
  refine authorized_renews fun h₁ lease held => ?_
  split
  · rename_i ready
    exact readyWithRoute_renews held ready
  · exact ensures_pure _ held.unrouted

theorem touch_renews {ownerId workloadId : String} :
    Renews svc.texts (Routes svc.texts leaseId) (touch svc leaseId ownerId workloadId) h := by
  refine authorized_renews fun h₁ lease held => ?_
  split
  · exact ensures_pure _ held.unrouted
  · split
    · exact ensures_throw _
    · rename_i ready
      rw [ne_eq, not_not] at ready
      refine (readyWithRoute_found held).andThen fun h₂ routed _ seen => ?_
      dsimp only
      split
      · refine ensures_pure _ ⟨seen.1, fun url is => ?_⟩
        rcases seen.2 with ⟨none, _⟩ | ⟨t, observation, found⟩
        · rw [none] at is
          cases is
        · exact ⟨lease, lease, t, observation, found.warrants ready is⟩
      · rename_i current
        rw [ne_eq, not_not] at current
        -- Only a lease that was found ready is still ready here.
        rcases seen.2 with ⟨_, terminated⟩ | ⟨t₀, observation, found⟩
        · rw [terminated] at current
          cases current
        · refine renews_now.andThen fun h₃ t g₃ read => ?_
          subst read
          have held₃ : Held leaseId _ routed.lease := Held.mono g₃ seen.1
          split
          · exact releaseRouted_renews held₃
          · rename_i admitted
            rw [not_or, not_le, Bool.not_eq_true] at admitted
            refine (renews_note held₃ (fun _ => .touched found.observed found.exact
              found.admitted found.noted current rfl admitted.1 admitted.2 rfl rfl) rfl rfl rfl
              rfl rfl).andThen fun h₄ touched g₄ seen => ensures_pure _ ?_
            refine ⟨seen.1, fun url is => ⟨lease, lease, t₀, observation, ?_⟩⟩
            have warranted := found.warrants ready is
            exact
              { observed := (warranted.observed.mono g₃).mono g₄
                exact := warranted.exact
                route := warranted.route
                within := warranted.within
                affordable := warranted.affordable
                led := .refl
                onward := .tail (.single ((found.noted.led.mono g₃).mono g₄)) seen.2.1
                ready := .inl ready }

theorem callerRelease_renews {ownerId workloadId : String} :
    Renews svc.texts (Held leaseId) (callerRelease svc leaseId ownerId workloadId) h :=
  authorized_renews fun _ _ held => (release_renews held).mono fun _ _ _ seen => seen.1

/-! ## Reconciliation -/

/-- What a reconciliation found, if anything, is routed as the task has observed. -/
def RoutesAny (texts : Texts) (leaseId : String) (h : Past) (found : Option RoutedLease) : Prop :=
  ∀ routed ∈ found, Routes texts leaseId h routed

theorem routesAny_some {routed : RoutedLease} (routes : Routes texts leaseId h routed) :
    RoutesAny texts leaseId h (some routed) := by
  intro other is
  cases is
  exact routes

theorem reconcileCreated_renews {t : Instant} (held : Held leaseId h lease) :
    Renews svc.texts (Routes svc.texts leaseId) (reconcileCreated svc lease t) h := by
  unfold reconcileCreated
  split
  · refine renews_except ((release_renews held).bind fun _ _ _ seen =>
      ensures_pure _ seen.1.unrouted) fun h' x grown => ?_
    refine (renews_of_keeps keeps_required avoids_required).bind fun h'' found _ seen =>
      ensures_pure _ ?_
    have again : Held leaseId h'' found := ⟨seen.1, seen.2.trans held.2⟩
    exact again.unrouted
  · split
    · rename_i waiting
      exact checkReadinessOnce_renews held waiting
    · split
      · rename_i ready
        exact readyWithRoute_renews held ready
      · exact ensures_pure _ held.unrouted

theorem reconcileOne_renews :
    Renews svc.texts (RoutesAny svc.texts leaseId) (reconcileOne svc leaseId) h := by
  unfold reconcileOne
  refine (renews_of_keeps keeps_getLease avoids_getLease).andThen fun h₁ found _ seen => ?_
  cases found with
  | none => exact ensures_pure _ fun _ is => by cases is
  | some lease =>
      have held : Held leaseId h₁ lease := seen lease rfl
      dsimp only
      split
      · exact ensures_pure _ (routesAny_some held.unrouted)
      · refine renews_now.andThen fun h₂ t g₂ _ => ?_
        have held₂ := held.mono g₂
        split
        · refine renews_except ((release_renews held₂).bind fun _ _ _ seen =>
            ensures_pure _ (routesAny_some seen.1.unrouted)) fun h' x _ => ?_
          refine (renews_of_keeps keeps_required avoids_required).bind fun h'' found _ seen =>
            ensures_pure _ (routesAny_some ?_)
          have again : Held leaseId h'' found := ⟨seen.1, seen.2.trans held.2⟩
          exact again.unrouted
        · split
          · exact (release_renews held₂).andThen fun _ _ _ seen =>
              ensures_pure _ (routesAny_some seen.1.unrouted)
          · have provisioned : Renews svc.texts (Held leaseId)
                (if lease.state = .requested then do
                  let request ← .ofExcept (requestFromLease lease)
                  provisionRequested svc lease request none
                else .pure lease : Co Lease) h₂ := by
              split
              · refine (renews_of_keeps keeps_ofExcept (avoids_ofExcept _)).andThen
                  fun h₃ request g₃ is => ?_
                exact provisionRequested_renews (held₂.mono g₃) (requestFromLease_leaseId is)
              · exact ensures_pure _ held₂
            refine provisioned.andThen fun h₃ lease g₃ held₃ => ?_
            have found : Renews svc.texts (Held leaseId)
                (if lease.state = .provisioning ∨ lease.state = .reconcileRequired then
                  reconcileCreation svc lease
                else .pure lease : Co Lease) h₃ := by
              split
              · rename_i waiting
                exact reconcileCreation_renews held₃ waiting
              · exact ensures_pure _ held₃
            refine found.andThen fun h₄ lease g₄ held₄ => ?_
            exact (reconcileCreated_renews held₄).andThen fun _ _ _ routes =>
              ensures_pure _ (routesAny_some routes)

theorem recordReconcileError_renews {x : Exn} :
    Renews svc.texts (RoutesAny svc.texts leaseId) (recordReconcileError svc leaseId x) h := by
  unfold recordReconcileError
  refine (renews_of_keeps keeps_getLease avoids_getLease).andThen fun h₁ found _ seen => ?_
  cases found with
  | none => exact ensures_pure _ fun _ is => by cases is
  | some lease =>
      have held : Held leaseId h₁ lease := seen lease rfl
      dsimp only
      split
      · exact ensures_pure _ (routesAny_some held.unrouted)
      · refine renews_except ((renews_note held (fun sets => absurd rfl sets) rfl rfl rfl rfl
          rfl).andThen fun _ _ _ noted => ensures_pure _ (routesAny_some noted.1.unrouted))
          fun h' x _ => ?_
        refine (renews_of_keeps keeps_getLease avoids_getLease).andThen fun h₂ current _ seen =>
          ensures_pure _ fun routed is => ?_
        obtain ⟨row, there, rfl⟩ := Option.map_eq_some_iff.mp is
        exact Held.unrouted (seen row there)

theorem reconcileAll_renews (listed : List Lease) :
    Renews svc.texts (fun _ _ => True) (reconcileAll svc listed) h := by
  induction listed generalizing h with
  | nil => exact ensures_pure _ trivial
  | cons initial rest ih =>
      unfold reconcileAll
      refine (renews_except reconcileOne_renews fun _ _ _ =>
        recordReconcileError_renews).andThen fun h₁ _ _ _ => ?_
      exact ih.andThen fun _ _ _ _ => ensures_pure _ trivial

theorem reconcile_renews : Renews svc.texts (fun _ _ => True) (reconcile svc) h :=
  (renews_of_keeps keeps_listForReconciliation avoids_listForReconciliation).andThen
    fun _ listed _ _ => reconcileAll_renews listed

theorem reconcileLease_renews {ownerId workloadId : String} :
    Renews svc.texts (Routes svc.texts leaseId)
      (reconcileLease svc leaseId ownerId workloadId) h := by
  refine authorized_renews fun h₁ lease _ => ?_
  refine Ensures.andThen (?attempted : Renews svc.texts
    (fun h' => Sum.elim (Routes svc.texts leaseId h') fun _ => True) _ h₁)
    fun h₂ reconciled _ met => ?_
  case attempted =>
    refine renews_except (reconcileOne_renews.bind fun h₂ reconciled _ found => ?_)
      fun h' x _ => ?_
    · cases reconciled with
      | some routed => exact ensures_pure _ (found routed rfl)
      | none => exact ensures_pure _ trivial
    · refine recordReconcileError_renews.andThen fun h₂ recorded _ found => ?_
      cases recorded with
      | some routed => exact ensures_pure _ (found routed rfl)
      | none => exact ensures_throw _
  cases reconciled with
  | inl routed => exact ensures_pure _ met
  | inr absent => exact ensures_throw _

/-- Every task of the service keeps both contracts. -/
theorem admits_renews {program : Co Unit} (admitted : admits texts program) :
    program.Safe ((leaseContract texts).both (renewalContract texts)) [] := by
  obtain ⟨fuel, task, rfl⟩ := admitted
  have safe : ∀ svc : Service, (task.program svc).Safe
      ((leaseContract svc.texts).both (renewalContract svc.texts)) [] := fun svc => by
    cases task with
    | acquire request wait plan => exact (Obeys.void acquire_renews).safe
    | get leaseId ownerId workloadId => exact (Obeys.void get_renews).safe
    | touch leaseId ownerId workloadId => exact (Obeys.void touch_renews).safe
    | release leaseId ownerId workloadId => exact (Obeys.void callerRelease_renews).safe
    | reconcile => exact (Obeys.void reconcile_renews).safe
    | reconcileLease leaseId ownerId workloadId => exact (Obeys.void reconcileLease_renews).safe
  exact safe ⟨texts, fuel⟩

end KestrelRunpod.Ollama
