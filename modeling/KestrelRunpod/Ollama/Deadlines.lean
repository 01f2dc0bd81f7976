import KestrelRunpod.Ollama.Renewal

/-!
# Deadlines and routes along a run

Over a consistent store, what a task has checked for a renewal is true of the current row
(`renewals_are_admitted`): the idle deadline of a lease never passes its hard deadline, it is
only moved while the lease is waiting for its model or ready, by a call that read the clock
before both deadlines and then observed the exact model, and a lease that is being released
stays released.  A call that returns a route returns it with a ready lease and on an
observation of its own (`routes_are_observed`).
-/

namespace KestrelRunpod.Ollama

open Interleave Program

variable {texts : Texts} {K : Restriction Effects World} {clock : Instant}
  {m m' : Moment Effects World} {lease row : Lease} {changes : Changes}

/-! ## Trails of both contracts -/

/-- Trails of both contracts over an empty store. -/
abbrev RenewalTrail (texts : Texts) (K : Restriction Effects World) (clock : Instant)
    (m : Moment Effects World) : Prop :=
  Trail (runtime texts) ((leaseContract texts).both (renewalContract texts)) K
    ⟨World.empty clock, []⟩ m

theorem ServiceRun.renewals {c : Config Effects Exn World} (run : ServiceRun texts K clock c) :
    RenewalTrail texts K clock c.moment :=
  (Run.trail (fun _ admitted => admits_renews admitted)
    (fun _ _ _ performed => perform_promises performed) (Config.initial_lawful _) run).2

theorem RenewalTrail.consistent (trail : RenewalTrail texts K clock m) : Consistent m :=
  LeaseTrail.consistent (Trail.first trail)

/-- A write that was answered was made on the current row. -/
theorem RenewalTrail.applied (trail : RenewalTrail texts K clock m) {i : Nat}
    (logged : (⟨.compareAndSet lease changes, .ok row⟩ : Event Effects) ∈ m.log.of i) :
    row = lease.apply changes := by
  obtain ⟨later, earlier, split⟩ := List.append_of_mem (Log.mem_of.mp logged)
  obtain ⟨before, w', walked, log, permitted, _, performed, _, _⟩ :=
    Trail.act_of_mem trail split List.nil_suffix
  have performed : perform texts before.world ⟨.compareAndSet lease changes, .ok row⟩ =
      some w' := performed
  obtain ⟨rows, attempt, _⟩ := perform_compareAndSet.mp performed
  have shown : Shown (before.log.of i) lease := log ▸ permitted.1.1
  exact (RenewalTrail.consistent walked).current shown attempt |>.2.1

/-- No operation turns the clock back. -/
theorem perform_clock {w w' : World} {e : Event Effects}
    (performed : perform texts w e = some w') : w.clock ≤ w'.clock := by
  obtain ⟨op, reply⟩ := e
  cases op with
  | insertRequest request t =>
      obtain ⟨rows, _, rfl⟩ := perform_insertRequest.mp performed
      exact Int.le_refl _
  | compareAndSet lease changes =>
      obtain ⟨rows, _, rfl⟩ := perform_compareAndSet.mp performed
      exact Int.le_refl _
  | now =>
      obtain ⟨onward, rfl⟩ := perform_now.mp performed
      exact onward
  | get leaseId => rw [(perform_get.mp performed).2]
  | listForReconciliation => rw [(perform_listForReconciliation.mp performed).2]
  | validateRuntimeRequest request =>
      cases performed
      exact Int.le_refl _
  | send leaseId call => rw [(perform_send.mp performed).2]
  | recv id call =>
      obtain ⟨_, _, _, is⟩ := perform_recv.mp performed
      rw [is]
  | joined =>
      cases performed
      exact Int.le_refl _

/-- No clock read is later than the clock. -/
theorem RenewalTrail.read_le (trail : RenewalTrail texts K clock m) {i : Nat} {t : Instant}
    (read : (i, (⟨.now, t⟩ : Event Effects)) ∈ m.log) : t ≤ m.world.clock := by
  suffices ahead : ∀ entry ∈ m.log, ∀ t, entry.2 = (⟨.now, t⟩ : Event Effects) →
      t ≤ m.world.clock from ahead _ read t rfl
  refine Trail.invariant (P := fun m => ∀ entry ∈ m.log, ∀ t,
    entry.2 = (⟨.now, t⟩ : Event Effects) → t ≤ m.world.clock) trail
    (fun m m' known move => ?_) fun entry member => by cases member
  cases move with
  | drift change drifted =>
      intro entry member t is
      have before := known entry member t is
      rcases drift_some drifted with ⟨amount, rfl⟩ | ⟨id, record, fate, _, _, rfl⟩
      · exact before.trans (Int.le_add_of_nonneg_right (Int.natCast_nonneg amount))
      · exact before
  | @act w' i e permitted promised performed kept =>
      have onward : m.world.clock ≤ w'.clock := perform_clock performed
      intro entry member t is
      rcases List.mem_cons.mp member with rfl | member
      · subst is
        have performed : perform texts m.world ⟨.now, t⟩ = some w' := performed
        rw [(perform_now.mp performed).2]
      · exact (known entry member t is).trans onward

/-! ## Renewals -/

/-- What a task's writes keep of a lease. -/
theorem Led.kept (trail : RenewalTrail texts K clock m) {i : Nat} {next : Lease}
    (led : Led (m.log.of i) row next) :
    next.leaseId = row.leaseId ∧ next.model = row.model ∧
      next.hardDeadline = row.hardDeadline ∧ (row.state = .ready → next.state = .ready) := by
  obtain ⟨changes, logged, state⟩ := led
  rw [RenewalTrail.applied trail logged]
  refine ⟨rfl, rfl, rfl, fun ready => ?_⟩
  rw [Lease.apply_state]
  rcases state with none | some
  · rw [none]
    exact ready
  · rw [some]
    rfl

theorem Noted.kept (trail : RenewalTrail texts K clock m) {i : Nat} {next : Lease}
    (noted : Noted (m.log.of i) row next) :
    next.state = row.state ∧ next.idleDeadline = row.idleDeadline := by
  obtain ⟨note, logged, state, idle⟩ := noted
  rw [RenewalTrail.applied trail logged, Lease.apply_state, state]
  refine ⟨rfl, ?_⟩
  unfold Lease.apply
  rw [idle]
  rfl

theorem Observed.read {h : Past} {t : Instant} {observation : ReadinessObservation}
    (observed : Observed h row t observation) : (⟨.now, t⟩ : Event Effects) ∈ h := by
  obtain ⟨resource, id, earlier, _, _, within⟩ := observed
  exact within.mem (.tail _ (.tail _ (.head _)))

/-- What a task has checked when it renews `lease`: it read the clock as `t₀`, before both
deadlines, with a version of the lease in hand, observed the exact model of that version, and
read the clock again as `t`. -/
structure Renewed (texts : Texts) (h : Past) (lease version : Lease) (t₀ t : Instant)
    (observation : ReadinessObservation) : Prop where
  same : version.leaseId = lease.leaseId
  observed : Observed h version t₀ observation
  exact : Exact texts observation lease.model
  admitted : t₀ < lease.hardDeadline
  idle : lease.state = .ready → t₀ < lease.idleDeadline
  onward : t₀ ≤ t
  read : (⟨.now, t⟩ : Event Effects) ∈ h
  within : t < lease.hardDeadline
  affordable : overAuthorizedCost lease t = false

/-- A task's checks for a renewal are true of the lease that it writes over. -/
theorem Renewal.renewed (trail : RenewalTrail texts K clock m) {i : Nat}
    (renewal : Renewal texts (m.log.of i) lease changes) :
    (lease.state = .ready ∨ lease.state = .waitingForModel) ∧
      (lease.apply changes).state = .ready ∧ ∃ version t₀ t observation,
        Renewed texts (m.log.of i) lease version t₀ t observation ∧
          changes.idleDeadline = some (lease.renewed t) := by
  cases renewal with
  | @activated version t observation observed waiting noted exact within affordable state sets =>
      obtain ⟨same, _, hard, _⟩ := noted.led.kept trail
      obtain ⟨kept, _⟩ := noted.kept trail
      have waits : lease.state = .waitingForModel := kept.trans waiting
      refine ⟨.inr waits, by rw [Lease.apply_state, state]; rfl, version, t, t, observation, ?_,
        sets⟩
      exact
        { same := same.symm
          observed := observed
          exact := exact
          admitted := within
          idle := fun ready => by rw [waits] at ready; cases ready
          onward := Int.le_refl t
          read := observed.read
          within := within
          affordable := affordable }
  | @touched version t₀ t observation earlier observed exact admitted noted ready read within
      affordable state sets =>
      have grown : earlier <:+ m.log.of i := read ▸ List.suffix_cons _ _
      obtain ⟨same, model, hard, _⟩ := (noted.mono grown).led.kept trail
      obtain ⟨_, idle⟩ := (noted.mono grown).kept trail
      refine ⟨.inl ready, by rw [Lease.apply_state, state]; exact ready, version, t₀, t,
        observation, ?_, sets⟩
      have onward : t₀ ≤ t := by
        have split : m.log.of i = [] ++ (⟨.now, t⟩ : Event Effects) :: earlier := read
        obtain ⟨later, older, split, _, is⟩ := Log.exists_split split
        obtain ⟨before, w', walked, log, _, _, performed, _⟩ :=
          Trail.act_of_mem trail split List.nil_suffix
        have performed : perform texts before.world ⟨.now, t⟩ = some w' := performed
        have first : (i, (⟨.now, t₀⟩ : Event Effects)) ∈ before.log :=
          Log.mem_of.mp (log ▸ is ▸ observed.read)
        exact (RenewalTrail.read_le walked first).trans (perform_now.mp performed).1
      exact
        { same := same.symm
          observed := observed.mono grown
          exact := model ▸ exact
          admitted := hard ▸ admitted.1
          idle := fun _ => idle ▸ admitted.2
          onward := onward
          read := read ▸ List.mem_cons_self
          within := within
          affordable := affordable }

/-- A move that writes an idle deadline is a renewal. -/
theorem Move.renewal
    (move : Move (runtime texts) ((leaseContract texts).both (renewalContract texts)) K m m')
    {i : Nat} {row : Lease}
    (log : m'.log = (i, (⟨.compareAndSet lease changes, .ok row⟩ : Event Effects)) :: m.log) :
    changes.idleDeadline ≠ none → Renewal texts (m.log.of i) lease changes :=
  (move.act_of_log log).1.2

theorem Lease.renewed_le (lease : Lease) (t : Instant) : lease.renewed t ≤ lease.hardDeadline :=
  min_le_right _ _

/-- The idle deadline of a lease never passes its hard deadline. -/
theorem RenewalTrail.idle_le (trail : RenewalTrail texts K clock m) :
    ∀ leaseId row, m.world.rows.get leaseId = some row → row.idleDeadline ≤ row.hardDeadline := by
  refine Trail.invariant_along (P := fun m => ∀ leaseId row,
    m.world.rows.get leaseId = some row → row.idleDeadline ≤ row.hardDeadline) trail
    (fun _ walked => walked) (fun m m' walked _ known move leaseId row found => ?_)
    fun _ _ found => by cases found
  cases Move.change (RenewalTrail.consistent walked) move.first leaseId with
  | kept rows _ => exact known leaseId row (rows ▸ found)
  | inserted i request t absent named rows log =>
      rw [found] at rows
      cases rows
      exact min_le_right _ _
  | written i lease changes named current warranted rows log =>
      rw [found] at rows
      cases rows
      have before := known leaseId lease current
      cases sets : changes.idleDeadline with
      | none =>
          show changes.idleDeadline.getD lease.idleDeadline ≤ lease.hardDeadline
          rw [sets]
          exact before
      | some deadline =>
          have renewal := Move.renewal move log (by rw [sets]; simp)
          obtain ⟨_, _, _, _, t, _, _, is⟩ := renewal.renewed walked
          show changes.idleDeadline.getD lease.idleDeadline ≤ lease.hardDeadline
          rw [is]
          exact lease.renewed_le t

/-- The lease is being released, or is terminated. -/
def LeaseState.Released (state : LeaseState) : Prop := state = .releasing ∨ state = .terminated

theorem Warranted.released {h : Past} (warranted : Warranted texts h lease changes)
    (released : lease.state.Released) : (lease.apply changes).state.Released := by
  rw [Lease.apply_state]
  cases moves : changes.state with
  | none => exact released
  | some target =>
      rcases warranted.allowed target moves with same | allowed
      · rw [same]
        exact released
      · rcases released with is | is
        · rw [is] at allowed
          exact .inr (List.mem_singleton.mp allowed)
        · rw [is] at allowed
          cases allowed

/-- A lease that was seen being released is released for good. -/
theorem RenewalTrail.stays_released (trail : RenewalTrail texts K clock m) :
    ∀ old, Committed m.log old → old.state.Released → ∀ row,
      m.world.rows.get old.leaseId = some row → row.state.Released := by
  refine Trail.invariant_along (P := fun m => ∀ old, Committed m.log old →
    old.state.Released → ∀ row, m.world.rows.get old.leaseId = some row → row.state.Released)
    trail (fun _ walked => walked)
    (fun m m' walked walked' known move old committed released row found => ?_)
    fun old committed => by
      obtain ⟨entry, member, _⟩ := committed
      cases member
  by_cases earlier : Committed m.log old
  · cases Move.change (RenewalTrail.consistent walked) move.first old.leaseId with
    | kept rows _ => exact known old earlier released row (rows ▸ found)
    | inserted i request t absent named rows log =>
        obtain ⟨current, there, _⟩ := RenewalTrail.consistent walked old earlier
        rw [absent] at there
        cases there
    | written i lease changes named current warranted rows log =>
        rw [found] at rows
        cases rows
        exact warranted.released (known old earlier released lease current)
  · -- The move itself shows the row, which is current after it.
    cases move with
    | drift change drifted => exact absurd committed earlier
    | act i e permitted promised performed kept =>
        obtain ⟨entry, member, shown⟩ := committed
        rcases List.mem_cons.mp member with is | member
        · subst is
          rw [shows_current performed shown] at found
          cases found
          exact released
        · exact absurd ⟨entry, member, shown⟩ earlier

/-- In every run the idle deadline of a lease is at most its hard deadline.  It is only set over
the latest version of the lease, waiting for its model or ready, which it leaves ready; by a task
that read the clock before the hard deadline and, for a ready lease, before the idle deadline,
then observed the exact model, and read the clock before the hard deadline and within the
authorized cost when it wrote.  And a lease that was seen being released or terminated is so for
good. -/
theorem renewals_are_admitted {c : Config Effects Exn World}
    (run : ServiceRun texts anyMove clock c) :
    (∀ leaseId row, c.world.rows.get leaseId = some row →
      row.idleDeadline ≤ row.hardDeadline) ∧
    (∀ (later earlier : Log Effects) i lease changes row deadline,
      c.log = later ++ (i, (⟨.compareAndSet lease changes, .ok row⟩ : Event Effects)) :: earlier →
      changes.idleDeadline = some deadline →
      (lease.state = .ready ∨ lease.state = .waitingForModel) ∧ row.state = .ready ∧
        row.hardDeadline = lease.hardDeadline ∧ row.idleDeadline = deadline ∧
        (∀ old, Committed earlier old → old.leaseId = lease.leaseId →
          old.revision ≤ lease.revision) ∧
        ∃ version t₀ t observation,
          Renewed texts (earlier.of i) lease version t₀ t observation ∧
            deadline = lease.renewed t) ∧
    ∀ old, Committed c.log old → old.state.Released → ∀ row,
      c.world.rows.get old.leaseId = some row → row.state.Released := by
  have trail := run.renewals
  refine ⟨RenewalTrail.idle_le trail, fun later earlier i lease changes row deadline split sets => ?_,
    RenewalTrail.stays_released trail⟩
  obtain ⟨before, w', walked, log, permitted, _, performed, _, _⟩ :=
    Trail.act_of_mem trail split List.nil_suffix
  have performed : perform texts before.world ⟨.compareAndSet lease changes, .ok row⟩ =
      some w' := performed
  obtain ⟨rows, attempt, _⟩ := perform_compareAndSet.mp performed
  rw [← log] at permitted ⊢
  have consistent := RenewalTrail.consistent walked
  obtain ⟨current, rfl, _⟩ := consistent.current permitted.1.1 attempt
  have renewal : Renewal texts (before.log.of i) lease changes :=
    permitted.2 (by rw [sets]; simp)
  obtain ⟨state, ready, version, t₀, t, observation, renewed, is⟩ := renewal.renewed walked
  rw [sets, Option.some.injEq] at is
  refine ⟨state, ready, rfl, ?_, fun old committed same => ?_, version, t₀, t, observation,
    renewed, is⟩
  · show changes.idleDeadline.getD lease.idleDeadline = deadline
    rw [sets]
    rfl
  · obtain ⟨latest, there, older, _⟩ := consistent old committed
    rw [same, current] at there
    cases there
    exact older

/-! ## Routes -/

/-- The calls of the service that return a lease with its route. -/
inductive Routing
  | acquire (request : LeaseRequest) (wait : Bool) (plan : Option PlacementPlan)
  | get (leaseId ownerId workloadId : String)
  | touch (leaseId ownerId workloadId : String)
  | reconcileLease (leaseId ownerId workloadId : String)

namespace Routing

def leaseId : Routing → String
  | acquire request _ _ => request.leaseId
  | get leaseId _ _ => leaseId
  | touch leaseId _ _ => leaseId
  | reconcileLease leaseId _ _ => leaseId

def program (svc : Service) : Routing → Co RoutedLease
  | acquire request wait plan => Ollama.acquire svc request wait plan
  | get leaseId ownerId workloadId => Ollama.get svc leaseId ownerId workloadId
  | touch leaseId ownerId workloadId => Ollama.touch svc leaseId ownerId workloadId
  | reconcileLease leaseId ownerId workloadId =>
      Ollama.reconcileLease svc leaseId ownerId workloadId

def task : Routing → Task
  | acquire request wait plan => .acquire request wait plan
  | get leaseId ownerId workloadId => .get leaseId ownerId workloadId
  | touch leaseId ownerId workloadId => .touch leaseId ownerId workloadId
  | reconcileLease leaseId ownerId workloadId => .reconcileLease leaseId ownerId workloadId

variable {svc : Service}

theorem task_program (call : Routing) : call.task.program svc = (call.program svc).void := by
  cases call <;> rfl

theorem renews (call : Routing) :
    Renews svc.texts (Routes svc.texts call.leaseId) (call.program svc) [] := by
  cases call with
  | acquire request wait plan => exact acquire_renews
  | get leaseId ownerId workloadId => exact get_renews
  | touch leaseId ownerId workloadId => exact touch_renews
  | reconcileLease leaseId ownerId workloadId => exact reconcileLease_renews

/-- The configuration in which task `i` starts the call. -/
def starts (svc : Service) (call : Routing) (i : Nat) (c : Config Effects Exn World) :
    Config Effects Exn World :=
  { c with tasks := Function.update c.tasks i (some (call.program svc).void) }

end Routing

theorem leads_kept (trail : RenewalTrail texts K clock m) {i : Nat} {next : Lease}
    (leads : Relation.ReflTransGen (Led (m.log.of i)) row next) :
    next.leaseId = row.leaseId ∧ next.model = row.model ∧
      next.hardDeadline = row.hardDeadline ∧ (row.state = .ready → next.state = .ready) := by
  induction leads with
  | refl => exact ⟨rfl, rfl, rfl, id⟩
  | tail _ led ih =>
      obtain ⟨same, model, hard, ready⟩ := led.kept trail
      exact ⟨same.trans ih.1, model.trans ih.2.1, hard.trans ih.2.2.1,
        fun is => ready (ih.2.2.2 is)⟩

/-- What the task has checked when it returns a route is true of the lease it returns. -/
theorem Warrants.sound (trail : RenewalTrail texts K clock m) {i : Nat} {seen : Lease}
    {t : Instant} {observation : ReadinessObservation} {url : String}
    (warrants : Warrants texts (m.log.of i) row seen lease t observation url) :
    lease.state = .ready ∧ row.leaseId = lease.leaseId ∧
      Exact texts observation lease.model ∧ t < lease.hardDeadline := by
  obtain ⟨same, _, _, ready⟩ := leads_kept trail warrants.led
  obtain ⟨same', model, hard, ready'⟩ := leads_kept trail warrants.onward
  refine ⟨?_, (same'.trans same).symm, model ▸ warrants.exact, hard ▸ warrants.within⟩
  rcases warrants.ready with found | made
  · exact ready' (ready found)
  · exact made

/-! ## A renewal comes with its route -/

/-- The task has set no idle deadline. -/
def Quiet (h : Past) : Prop :=
  ∀ lease changes row, (⟨.compareAndSet lease changes, .ok row⟩ : Event Effects) ∈ h →
    changes.idleDeadline = none

/-- The task has set no idle deadline, or it returns the route of a ready lease. -/
def Told (h : Past) (routed : RoutedLease) : Prop :=
  Quiet h ∨ (routed.routeUrl ≠ none ∧ routed.lease.state = .ready)

/-- A task that sets no idle deadline without returning a route. -/
abbrev Tells (texts : Texts) {α : Type} (done : Past → α → Prop) (p : Co α) (h : Past) : Prop :=
  p.Obeys (leaseContract texts).trusting done (fun h' _ => Quiet h') h

section

variable {svc : Service} {h : Past} {reason leaseId : String} {α β : Type}

theorem Quiet.cons {e : Event Effects} (quiet : Quiet h) (avoids : ¬ Ollama.renews e.op) :
    Quiet (e :: h) := by
  intro lease changes row member
  rcases List.mem_cons.mp member with rfl | member
  · by_contra sets
    exact avoids sets
  · exact quiet lease changes row member

theorem tells_avoiding {p : Co α} (avoids : p.Avoids Ollama.renews) (quiet : Quiet h) :
    Tells texts (fun h' _ => Quiet h') p h :=
  avoids.obeys (fun _ _ kept good => ⟨trivial, fun _ => kept.cons good⟩) quiet

/-- A part that sets no idle deadline, and what follows it. -/
theorem tells_next {p : Co α} {f : α → Co β} {done : Past → β → Prop}
    (avoids : p.Avoids Ollama.renews) (quiet : Quiet h)
    (rest : ∀ h' a, Quiet h' → Tells texts done (f a) h') : Tells texts done (p >>= f) h :=
  obeys_bind.mpr ((tells_avoiding avoids quiet).weaken (fun h' a _ kept => rest h' a kept)
    fun _ _ _ kept => kept)

theorem tells_quiet {p : Co RoutedLease} (avoids : p.Avoids Ollama.renews) (quiet : Quiet h) :
    Tells texts Told p h :=
  (tells_avoiding avoids quiet).weaken (fun _ _ _ kept => .inl kept) fun _ _ _ kept => kept

theorem releaseRouted_avoids : (do
    let released ← release svc lease reason
    .pure released.unrouted : Co RoutedLease).Avoids Ollama.renews :=
  release_avoids.andThen fun _ => avoids_pure _

/-- The write that makes a lease ready, whose route is returned with it. -/
theorem ready_tells {changes : Changes} {routed : Lease → RoutedLease} (quiet : Quiet h)
    (route : ∀ row, (routed row).routeUrl ≠ none) (same : ∀ row, (routed row).lease = row) :
    Tells texts Told (do
      let ready ← transition lease .ready changes
      .pure (routed ready)) h := by
  rw [bind_eq]
  unfold Tells
  rw [obeys_bind]
  unfold transition
  split
  · exact quiet
  · refine ⟨trivial, fun (reply : Except Exn Lease) promised => ?_⟩
    cases reply with
    | error x =>
        intro lease' changes' row' member
        rcases List.mem_cons.mp member with is | member
        · cases is
        · exact quiet lease' changes' row' member
    | ok row =>
        refine .inr ⟨route row, ?_⟩
        rw [same row]
        exact promised.2.1 .ready rfl

theorem checkReadinessOnce_tells (quiet : Quiet h) :
    Tells texts Told (checkReadinessOnce svc lease) h := by
  unfold checkReadinessOnce
  refine tells_next (avoids_ofExcept _) quiet fun h₁ resource quiet => ?_
  refine tells_next avoids_now quiet fun h₂ t quiet => ?_
  refine tells_next (avoids_except (avoids_await.bind fun _ => avoids_pure _) fun _ =>
    (avoids_compareAndSet rfl).andThen fun _ => avoids_pure _) quiet fun h₃ observed quiet => ?_
  cases observed with
  | inr updated => exact .inl quiet
  | inl observation =>
      refine tells_next (avoids_compareAndSet rfl) quiet fun h₄ accrued quiet => ?_
      split
      · exact tells_quiet releaseRouted_avoids quiet
      · split
        · exact .inl quiet
        · split
          · exact .inl quiet
          · split
            · refine tells_quiet ?_ quiet
              exact (avoids_compareAndSet rfl).andThen fun _ => avoids_except
                (avoids_await.andThen fun _ => avoids_pure _) fun _ =>
                (avoids_compareAndSet rfl).andThen fun _ => avoids_pure _
            · exact ready_tells quiet (fun _ => by simp) fun _ => rfl

theorem readyWithRoute_avoids : (readyWithRoute svc lease).Avoids Ollama.renews := by
  unfold readyWithRoute
  refine avoids_now.andThen fun t => ?_
  dsimp only
  split
  · exact releaseRouted_avoids
  · refine Avoids.andThen ?_ fun observation => ?_
    · exact avoids_except ((avoids_ofExcept _).andThen fun _ => avoids_await) fun _ =>
        (avoids_compareAndSet rfl).andThen fun _ => avoids_raise
    · split
      · exact (avoids_compareAndSet rfl).andThen fun _ => avoids_raise
      · exact (avoids_compareAndSet rfl).andThen fun _ => avoids_pure _

theorem waitUntilReady_tells (fuel : Nat) (quiet : Quiet h) :
    Tells texts Told (waitUntilReady svc fuel lease) h := by
  induction fuel generalizing lease h with
  | zero => trivial
  | succ fuel ih =>
      unfold waitUntilReady
      split
      · exact .inl quiet
      · unfold Tells
        rw [bind_eq, obeys_bind]
        refine (checkReadinessOnce_tells quiet).weaken (fun h₁ checked _ told => ?_)
          fun _ _ _ kept => kept
        dsimp only
        split
        · exact told
        · rename_i unready
          have quiet : Quiet h₁ := told.resolve_right fun routed => unready routed.2
          refine tells_next avoids_now quiet fun h₂ t quiet => ?_
          split
          · exact tells_quiet releaseRouted_avoids quiet
          · split
            · exact tells_next (avoids_except (release_avoids.bind fun _ => avoids_pure _)
                fun _ => avoids_pure _) quiet fun _ _ quiet => quiet
            · exact tells_next avoids_await quiet fun h₃ _ quiet => ih quiet

theorem acquire_tells {request : LeaseRequest} {wait : Bool} {plan : Option PlacementPlan}
    (quiet : Quiet h) : Tells texts Told (acquire svc request wait plan) h := by
  unfold acquire
  refine tells_next avoids_now quiet fun _ t quiet => ?_
  refine tells_next avoids_getLease quiet fun _ existing quiet => ?_
  refine tells_next (avoids_ofExcept _) quiet fun _ _ quiet => ?_
  refine tells_next avoids_insertRequest quiet fun _ inserted quiet => ?_
  obtain ⟨lease, new⟩ := inserted
  refine tells_next ?_ quiet fun _ _ quiet => ?_
  · split
    · trivial
    · exact avoids_authorize
  · split
    · exact tells_quiet readyWithRoute_avoids quiet
    · split
      · exact tells_quiet releaseRouted_avoids quiet
      · refine tells_next ?_ quiet fun _ row quiet => ?_
        · split
          · exact provisionRequested_avoids
          · split
            · exact reconcileCreation_avoids
            · trivial
        · split
          · exact waitUntilReady_tells _ quiet
          · exact .inl quiet

/-- The lookup of a lease on behalf of its owner. -/
theorem authorized_tells {done : Past → β → Prop} {ownerId workloadId : String}
    {body : Lease → Co β} (quiet : Quiet h)
    (rest : ∀ h' lease, Quiet h' → Tells texts done (body lease) h') :
    Tells texts done (do
      let lease ← required leaseId
      authorize lease ownerId workloadId
      body lease) h :=
  tells_next avoids_required quiet fun _ lease quiet =>
    tells_next avoids_authorize quiet fun h' _ quiet => rest h' lease quiet

/-- The task set no idle deadline, unless it returns a route. -/
def Silent (h : Past) (routed : RoutedLease) : Prop := routed.routeUrl = none → Quiet h

theorem Told.silent {routed : RoutedLease} (told : Told h routed) : Silent h routed :=
  fun none => told.resolve_right fun routed => routed.1 none

theorem get_tells {ownerId workloadId : String} (quiet : Quiet h) :
    Tells texts Told (get svc leaseId ownerId workloadId) h := by
  refine authorized_tells quiet fun h' lease quiet => ?_
  split
  · exact tells_quiet readyWithRoute_avoids quiet
  · exact .inl quiet

/-- A ready lease comes back with its route, or it was released. -/
theorem readyWithRoute_routed :
    (readyWithRoute svc lease).Ensures (leaseContract texts).trusting
      (fun _ routed => routed.lease.state = .ready → routed.routeUrl ≠ none) h := by
  unfold readyWithRoute
  refine (trusting_free _).andThen fun h₁ t _ _ => ?_
  dsimp only
  split
  · refine release_terminated.andThen fun h₂ released _ terminated => ensures_pure _ fun ready => ?_
    have ready : released.state = .ready := ready
    rw [terminated] at ready
    cases ready
  · refine (trusting_free _).andThen fun h₂ observation _ _ => ?_
    split
    · exact (trusting_free _).andThen fun _ _ _ _ => ensures_throw _
    · rename_i observed
      rw [not_or, not_or, Bool.not_eq_false] at observed
      refine (trusting_free _).andThen fun h₃ durable _ _ => ensures_pure _ fun _ absent => ?_
      have absent : observation.routeUrl = none := absent
      rw [absent] at observed
      exact observed.2.1 rfl

theorem touch_tells {ownerId workloadId : String} (quiet : Quiet h) :
    Tells texts Silent (touch svc leaseId ownerId workloadId) h := by
  refine authorized_tells quiet fun h₁ lease quiet => ?_
  split
  · exact fun _ => quiet
  · split
    · exact quiet
    · have routed : (readyWithRoute svc lease).Ensures (leaseContract texts).trusting
          (fun _ routed => routed.lease.state = .ready → routed.routeUrl ≠ none) h₁ :=
        readyWithRoute_routed
      have routes : Tells texts
          (fun h' routed => Quiet h' ∧ (routed.lease.state = .ready → routed.routeUrl ≠ none))
          (readyWithRoute svc lease) h₁ :=
        (Obeys.trusting (tells_avoiding readyWithRoute_avoids quiet) routed).weaken (fun _ _ _ met => met) fun _ _ _ met => met.1
      refine obeys_bind.mpr (routes.weaken (fun h₂ routed _ met => ?_) fun _ _ _ kept => kept)
      obtain ⟨quiet, route⟩ := met
      dsimp only
      split
      · exact fun _ => quiet
      · rename_i ready
        rw [ne_eq, not_not] at ready
        refine tells_next avoids_now quiet fun h₃ t quiet => ?_
        split
        · exact (tells_quiet releaseRouted_avoids quiet).weaken (fun _ _ _ told => told.silent)
            fun _ _ _ kept => kept
        · refine ⟨trivial, fun (reply : Except Exn Lease) _ => ?_⟩
          cases reply with
          | error x =>
              intro lease' changes' row' member
              rcases List.mem_cons.mp member with is | member
              · cases is
              · exact quiet lease' changes' row' member
          | ok row => exact fun none => absurd none (route ready)

theorem reconcileCreated_tells {t : Instant} (quiet : Quiet h) :
    Tells texts Told (reconcileCreated svc lease t) h := by
  unfold reconcileCreated
  split
  · refine tells_quiet ?_ quiet
    exact avoids_except (release_avoids.bind fun _ => avoids_pure _) fun _ =>
      avoids_required.bind fun _ => avoids_pure _
  · split
    · exact checkReadinessOnce_tells quiet
    · split
      · exact tells_quiet readyWithRoute_avoids quiet
      · exact .inl quiet

/-- What a reconciliation found comes with its renewal. -/
def ToldAny (h : Past) (found : Option RoutedLease) : Prop :=
  Quiet h ∨ ∃ routed, found = some routed ∧ Told h routed

theorem reconcileOne_tells (quiet : Quiet h) :
    Tells texts ToldAny (reconcileOne svc leaseId) h := by
  unfold reconcileOne
  refine tells_next avoids_getLease quiet fun h₁ found quiet => ?_
  cases found with
  | none => exact .inl quiet
  | some lease =>
      dsimp only
      split
      · exact .inl quiet
      · refine tells_next avoids_now quiet fun h₂ t quiet => ?_
        split
        · refine (tells_avoiding ?_ quiet).weaken (fun _ _ _ kept => .inl kept)
            fun _ _ _ kept => kept
          exact avoids_except (release_avoids.bind fun _ => avoids_pure _) fun _ =>
            avoids_required.bind fun _ => avoids_pure _
        · split
          · exact tells_next release_avoids quiet fun _ _ quiet => .inl quiet
          · refine tells_next ?_ quiet fun h₃ lease quiet => ?_
            · split
              · exact (avoids_ofExcept _).andThen fun _ => provisionRequested_avoids
              · trivial
            · refine tells_next ?_ quiet fun h₄ lease quiet => ?_
              · split
                · exact reconcileCreation_avoids
                · trivial
              · refine obeys_bind.mpr (Obeys.weaken (reconcileCreated_tells quiet)
                  (fun h₅ routed _ told => .inr ⟨routed, rfl, told⟩) fun _ _ _ kept => kept)

theorem reconcileLease_tells {ownerId workloadId : String} (quiet : Quiet h) :
    Tells texts Told (reconcileLease svc leaseId ownerId workloadId) h := by
  refine authorized_tells quiet fun h₁ lease quiet => ?_
  refine obeys_bind.mpr (Obeys.weaken (?attempted : Tells texts
    (fun h' => Sum.elim (Told h') fun _ => Quiet h') _ h₁) (fun h₂ reconciled _ met => ?_)
    fun _ _ _ kept => kept)
  case attempted =>
    refine obeys_handle.mpr (Obeys.weaken (?tried : Tells texts
      (fun h' => Sum.elim (Told h') fun _ => Quiet h') _ h₁) (fun _ _ _ met => met)
      fun h₂ x _ quiet => ?_)
    case tried =>
      refine obeys_bind.mpr (Obeys.weaken (reconcileOne_tells quiet)
        (fun h₂ reconciled _ told => ?_) fun _ _ _ kept => kept)
      cases reconciled with
      | none =>
          rcases told with quiet | ⟨_, is, _⟩
          · exact quiet
          · cases is
      | some routed =>
          rcases told with quiet | ⟨_, is, told⟩
          · exact .inl quiet
          · cases is
            exact told
    · split
      · refine tells_next recordReconcileError_avoids quiet fun h₃ recorded quiet => ?_
        cases recorded with
        | none => exact quiet
        | some routed => exact .inl quiet
      · exact quiet
  cases reconciled with
  | inl routed => exact met
  | inr absent => exact met

theorem Routing.tells (call : Routing) :
    Tells texts Silent (call.program svc) [] := by
  have quiet : Quiet [] := fun _ _ _ member => by cases member
  cases call with
  | acquire request wait plan =>
      exact (acquire_tells quiet).weaken (fun _ _ _ told => told.silent) fun _ _ _ kept => kept
  | get leaseId ownerId workloadId =>
      exact (get_tells quiet).weaken (fun _ _ _ told => told.silent) fun _ _ _ kept => kept
  | touch leaseId ownerId workloadId => exact touch_tells quiet
  | reconcileLease leaseId ownerId workloadId =>
      exact (reconcileLease_tells quiet).weaken (fun _ _ _ told => told.silent)
        fun _ _ _ kept => kept

end

/-- In every run, a call that ended normally returned the lease it was made for, and a route
only with a ready lease: with a version of it in hand the call itself read the clock, before the
hard deadline, and then observed the exact model at that route.  A call that returned no route
has set no idle deadline. -/
theorem routes_are_observed {svc : Service} {call : Routing} {i : Nat}
    {before after : Config Effects Exn World} (run : ServiceRun texts anyMove clock before)
    (configured : svc.texts = texts) (free : before.tasks i = none)
    (onward : Run (runtime texts) (admits texts) anyMove (call.starts svc i before) after)
    (ended : after.tasks i = some (.pure ())) :
    ∃ routed, (call.program svc).Ends [] (after.log.of i) (.ok routed) ∧
      Shown (after.log.of i) routed.lease ∧ routed.lease.leaseId = call.leaseId ∧
      (∀ url, routed.routeUrl = some url → routed.lease.state = .ready ∧
        ∃ version t observation, Observed (after.log.of i) version t observation ∧
          version.leaseId = call.leaseId ∧ Exact texts observation routed.lease.model ∧
          observation.routeUrl = some url ∧ t < routed.lease.hardDeadline) ∧
      (routed.routeUrl = none → Quiet (after.log.of i)) := by
  subst configured
  have started : Step (runtime svc.texts) (admits svc.texts) anyMove before
      (call.starts svc i before) :=
    .spawn i _ free ⟨svc.fuel, call.task, (call.task_program).symm⟩
  have whole : ServiceRun svc.texts anyMove clock after := (run.tail started).trans onward
  have task : (call.starts svc i before).tasks i = some (call.program svc).void := by
    simp [Routing.starts]
  obtain ⟨routed, ends⟩ := Run.executed onward task ended
  have fresh : before.log.of i = [] := Run.fresh run free
  have here : (call.starts svc i before).log.of i = [] := fresh
  rw [here] at ends
  have trail := whole.renewals
  have promised : ∀ e ∈ after.log.of i, Promises e := fun e member =>
    Trail.promised trail (fun _ none => by cases none) _ (Log.mem_of.mp member)
  have renews : Renews svc.texts (Routes svc.texts call.leaseId) (call.program svc) [] :=
    call.renews
  have tells : Tells svc.texts Silent (call.program svc) [] := call.tells
  obtain ⟨held, routes⟩ := (ends.obeys promised renews).1 routed rfl
  have silent := (ends.obeys promised tells).1 routed rfl
  refine ⟨routed, ends, held.1, held.2, fun url is => ?_, silent⟩
  obtain ⟨version, seen, t, observation, warrants⟩ := routes url is
  obtain ⟨ready, same, exact, within⟩ := warrants.sound trail
  exact ⟨ready, version, t, observation, warrants.observed, same.trans held.2, exact,
    warrants.route, within⟩

/-! ### A lease that is touched -/

namespace Sample

/-- The Pod is ready, and serves the model under its full name. -/
def readiness : ReadinessObservation where
  providerReady := true
  modelNames := ["llama3:latest"]
  routeUrl := some "http://pod-00001:11434"
  providerHealthUrl := none

def observes : (call : Call) → Option (Except Exn call.Value)
  | .provision _ _ name => some (.ok ⟨.pod, "pod-00001", name⟩)
  | .observe _ => some (.ok readiness)
  | _ => none

def service : Service := ⟨hashes, 1⟩

/-- A lease is acquired, and its Pod is found ready. -/
def readied : List (Cue (runtime hashes) (admits hashes)) :=
  [.spawn 0 _ ⟨1, .acquire request true (some plan), rfl⟩, .runOn 0 (serving hashes) 9,
    .drift (.accept 0 "pod-00001"), .act 0 (.answering _ (respond observes)),
    .runOn 0 (serving hashes) 9, .act 0 (.answering _ (respond observes)),
    .runOn 0 (serving hashes) 9, .drift (.tick 60000000)]

/-- Another task observes it and renews it. -/
def touches : List (Cue (runtime hashes) (admits hashes)) :=
  [.runOn 1 (serving hashes) 9, .act 1 (.answering _ (respond observes)),
    .runOn 1 (serving hashes) 9]

def touch : Routing := .touch "lease-1" "owner-1" "workload-1"

/-- The event sets an idle deadline. -/
def renewal : Event Effects → Bool
  | ⟨.compareAndSet _ changes, .ok _⟩ => changes.idleDeadline.isSome
  | _ => false

theorem renewal_eq_true {e : Event Effects} (is : renewal e = true) :
    ∃ lease changes row deadline, e = ⟨.compareAndSet lease changes, .ok row⟩ ∧
      changes.idleDeadline = some deadline := by
  obtain ⟨op, reply⟩ := e
  cases op with
  | compareAndSet lease changes =>
      cases reply with
      | error x => cases is
      | ok row =>
          obtain ⟨deadline, sets⟩ := Option.isSome_iff_exists.mp is
          exact ⟨lease, changes, row, deadline, rfl, sets⟩
  | _ => cases is

/-- The task has ended and renewed the lease. -/
def renewedBy (after : Config Effects Exn World) : Bool :=
  (match after.tasks 1 with
    | some (.pure ()) => true
    | _ => false) && (after.log.of 1).any renewal

theorem touched : ∃ before after : Config Effects Exn World,
    ServiceRun hashes anyMove (seconds 100) before ∧ before.tasks 1 = none ∧
      Run (runtime hashes) (admits hashes) anyMove (touch.starts service 1 before) after ∧
      after.tasks 1 = some (.pure ()) ∧ ∃ e ∈ after.log.of 1, renewal e = true := by
  obtain ⟨before, run, checked⟩ : ∃ before, ServiceRun hashes anyMove (seconds 100) before ∧
      ((before.tasks 1).isNone && ((touch.starts service 1 before).execute anyMove
        touches).any renewedBy) = true :=
    Config.exhibits readied _ (by decide +kernel)
  simp only [Bool.and_eq_true, Option.isNone_iff_eq_none] at checked
  obtain ⟨free, ends⟩ := checked
  obtain ⟨after, reached, ended⟩ := (Option.any_eq_true _ _).mp ends
  simp only [renewedBy, Bool.and_eq_true, List.any_eq_true] at ended
  obtain ⟨ended, renewed⟩ := ended
  refine ⟨before, after, run, free, Config.execute_run reached, ?_, renewed⟩
  split at ended
  · rename_i task
    exact task
  · cases ended

end Sample

/-- The touch of the sample renews the lease over its latest version. -/
theorem renewals_are_admitted_touched :
    ∃ (c : Config Effects Exn World) (earlier : Log Effects) (i : Nat) (lease row : Lease),
      ServiceRun Sample.hashes anyMove (seconds 100) c ∧ row.state = .ready ∧
        ∃ version t₀ t observation,
          Renewed Sample.hashes (earlier.of i) lease version t₀ t observation ∧
            row.idleDeadline = lease.renewed t := by
  obtain ⟨before, after, run, free, onward, _, e, logged, is⟩ := Sample.touched
  have started : Step (runtime Sample.hashes) (admits Sample.hashes) anyMove before
      (Sample.touch.starts Sample.service 1 before) := .spawn 1 _ free ⟨1, Sample.touch.task, rfl⟩
  have whole : ServiceRun Sample.hashes anyMove (seconds 100) after :=
    (run.tail started).trans onward
  obtain ⟨lease, changes, row, deadline, rfl, sets⟩ := Sample.renewal_eq_true is
  obtain ⟨later, earlier, split⟩ := List.append_of_mem (Log.mem_of.mp logged)
  obtain ⟨_, renewals, _⟩ := renewals_are_admitted whole
  obtain ⟨_, ready, _, idle, _, version, t₀, t, observation, renewed, at_⟩ :=
    renewals later earlier 1 lease changes row deadline split sets
  exact ⟨after, earlier, 1, lease, row, whole, ready, version, t₀, t, observation, renewed,
    idle.trans at_⟩

/-- The touch of the sample returns the route of the ready lease. -/
theorem routes_are_observed_touched :
    ∃ (after : Config Effects Exn World) (routed : RoutedLease) (url : String),
      (Sample.touch.program Sample.service).Ends [] (after.log.of 1) (.ok routed) ∧
        routed.routeUrl = some url ∧ routed.lease.state = .ready ∧
        routed.lease.leaseId = "lease-1" := by
  obtain ⟨before, after, run, free, onward, ended, e, logged, is⟩ := Sample.touched
  obtain ⟨routed, ends, _, same, routes, silent⟩ :=
    routes_are_observed run rfl free onward ended
  obtain ⟨lease, changes, row, deadline, rfl, sets⟩ := Sample.renewal_eq_true is
  have found : routed.routeUrl ≠ none := fun absent => by
    rw [silent absent lease changes row logged] at sets
    cases sets
  obtain ⟨url, there⟩ := Option.ne_none_iff_exists'.mp found
  exact ⟨after, routed, url, ends, there, (routes url there).1, same⟩

end KestrelRunpod.Ollama
