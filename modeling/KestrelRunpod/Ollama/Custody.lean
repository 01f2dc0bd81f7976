import KestrelRunpod.Ollama.Conformance

/-!
# Create and teardown custody of an Ollama lease

Along a run each lease has one current row, and a write that succeeds has read it
(`LeaseTrail.consistent`), so a move leaves the lease alone, inserts it, or applies one
warranted write to its current row (`Change`).  `Custody` ties the row to the log: which
creates were admitted and dispatched for it, and what is known of their resource.
-/

namespace KestrelRunpod.Ollama

open Interleave

variable {texts : Texts} {K : Restriction Effects World} {clock : Instant}
  {m m' : Moment Effects World} {leaseId : String} {lease row : Lease} {changes : Changes}

/-! ## The store along a run -/

/-- The reply to a compare-and-set that succeeds. -/
theorem Rows.compareAndSet_ok {rows rows' : Rows}
    (ok : rows.compareAndSet lease changes = (rows', .ok row)) :
    ∃ current, rows.get lease.leaseId = some current ∧ current.revision = lease.revision ∧
      row = current.apply changes ∧ rows' = rows.put row := by
  unfold compareAndSet at ok
  split at ok
  · cases ok
  · rename_i current found
    split at ok
    · rename_i revision
      cases ok
      exact ⟨current, found, revision, rfl, rfl⟩
    · cases ok

theorem Rows.compareAndSet_error {rows rows' : Rows} {x : Exn}
    (failed : rows.compareAndSet lease changes = (rows', .error x)) : rows' = rows := by
  unfold compareAndSet at failed
  split at failed
  · cases failed
    rfl
  · split at failed
    · cases failed
    · cases failed
      rfl

/-- The reply to an insertion: the row was new, or it is the stored row. -/
theorem Rows.insertRequest_cases {rows rows' : Rows} {request : LeaseRequest} {t : Instant}
    {reply : Except Exn (Lease × Bool)}
    (done : rows.insertRequest texts request t = (rows', reply)) :
    (rows.get request.leaseId = none ∧ rows' = rows ++ [requested texts request t] ∧
        reply = .ok (requested texts request t, true)) ∨
      (rows' = rows ∧ ∀ row new, reply = .ok (row, new) →
        rows.get request.leaseId = some row) := by
  unfold insertRequest at done
  split at done
  · rename_i absent
    cases done
    exact .inl ⟨absent, rfl, rfl⟩
  · rename_i existing found
    split at done
    · cases done
      exact .inr ⟨rfl, by simp⟩
    · cases done
      refine .inr ⟨rfl, fun row new is => ?_⟩
      cases is
      exact found

/-- The world keeps what a task may rely on in a reply. -/
theorem perform_promises {w w' : World} {e : Event Effects}
    (performed : perform texts w e = some w') : Promises e := by
  obtain ⟨op, reply⟩ := e
  cases op with
  | insertRequest request t =>
      obtain ⟨rows, attempt, _⟩ := perform_insertRequest.mp performed
      cases reply with
      | error x => trivial
      | ok found =>
          obtain ⟨row, new⟩ := found
          rcases Rows.insertRequest_cases attempt with ⟨_, _, is⟩ | ⟨_, existing⟩
          · cases is
            rfl
          · exact Rows.leaseId_of_get (existing row new rfl)
  | get leaseId =>
      cases reply with
      | none => trivial
      | some row => exact Rows.leaseId_of_get (perform_get.mp performed).1
  | compareAndSet lease changes =>
      obtain ⟨rows, attempt, _⟩ := perform_compareAndSet.mp performed
      cases reply with
      | error x => trivial
      | ok row =>
          obtain ⟨current, found, _, is, _⟩ := Rows.compareAndSet_ok attempt
          have same : current.leaseId = lease.leaseId := Rows.leaseId_of_get found
          subst is
          refine ⟨same, fun target sets => ?_, fun flag sets => ?_⟩
          · rw [Lease.apply_state, sets]
            rfl
          · rw [Lease.apply_creationUncertain, sets]
            rfl
  | recv id call =>
      obtain ⟨record, _, fair, _⟩ := perform_recv.mp performed
      cases reply with
      | error x => cases call <;> trivial
      | ok value =>
          cases call with
          | provision request plan name => exact fair.2
          | findResource kind name =>
              cases value with
              | none => trivial
              | some resource => exact fair resource rfl
          | _ => trivial
  | listForReconciliation => trivial
  | now => trivial
  | validateRuntimeRequest request => trivial
  | send leaseId call => trivial
  | joined => trivial

/-- Runs of any number of tasks of the service over an empty store. -/
abbrev ServiceRun (texts : Texts) (K : Restriction Effects World) (clock : Instant)
    (c : Config Effects Exn World) : Prop :=
  Run (runtime texts) (admits texts) K (Config.initial Effects Exn (World.empty clock)) c

/-- Trails of the contract over an empty store. -/
abbrev LeaseTrail (texts : Texts) (K : Restriction Effects World) (clock : Instant)
    (m : Moment Effects World) : Prop :=
  Trail (runtime texts) (leaseContract texts) K ⟨World.empty clock, []⟩ m

theorem ServiceRun.lawful {c : Config Effects Exn World} (run : ServiceRun texts K clock c) :
    c.Lawful (leaseContract texts) ∧ LeaseTrail texts K clock c.moment :=
  Run.trail (fun _ admitted => admits_safe admitted)
    (fun _ _ _ performed => perform_promises performed) (Config.initial_lawful _) run

/-- Some task has seen the row. -/
def Committed (log : Log Effects) (row : Lease) : Prop := ∃ entry ∈ log, shows row entry.2

/-- Every row that a task has seen is the current row, or an earlier version of it. -/
def Consistent (m : Moment Effects World) : Prop :=
  ∀ row, Committed m.log row → ∃ current, m.world.rows.get row.leaseId = some current ∧
    row.revision ≤ current.revision ∧ (row.revision = current.revision → row = current)

/-- A write by a task that has seen the lease succeeds only on the current row. -/
theorem Consistent.current {rows : Rows} {i : Nat} (consistent : Consistent m)
    (shown : Shown (m.log.of i) lease)
    (ok : m.world.rows.compareAndSet lease changes = (rows, .ok row)) :
    m.world.rows.get lease.leaseId = some lease ∧ row = lease.apply changes ∧
      rows = m.world.rows.put row := by
  obtain ⟨current, found, revision, is, put⟩ := Rows.compareAndSet_ok ok
  obtain ⟨e, member, here⟩ := shown
  obtain ⟨current', found', _, latest⟩ := consistent lease ⟨(i, e), Log.mem_of.mp member, here⟩
  rw [found] at found'
  cases found'
  have same : lease = current := latest revision.symm
  subst same
  exact ⟨found, is, put⟩

/-- What a move does to one lease: nothing, its insertion, or one warranted write. -/
inductive Change (texts : Texts) (m m' : Moment Effects World) (leaseId : String) : Prop
  | kept (rows : m'.world.rows.get leaseId = m.world.rows.get leaseId)
      (log : m'.log = m.log ∨ ∃ i e, m'.log = (i, e) :: m.log ∧ Permits texts (m.log.of i) e.op ∧
        ∀ lease changes row, e = ⟨.compareAndSet lease changes, .ok row⟩ →
          lease.leaseId ≠ leaseId)
  | inserted (i : Nat) (request : LeaseRequest) (t : Instant)
      (absent : m.world.rows.get leaseId = none) (named : request.leaseId = leaseId)
      (rows : m'.world.rows.get leaseId = some (Rows.requested texts request t))
      (log : m'.log = (i, ⟨.insertRequest request t,
        .ok (Rows.requested texts request t, true)⟩) :: m.log)
  | written (i : Nat) (lease : Lease) (changes : Changes) (named : lease.leaseId = leaseId)
      (current : m.world.rows.get leaseId = some lease)
      (warranted : Warranted texts (m.log.of i) lease changes)
      (rows : m'.world.rows.get leaseId = some (lease.apply changes))
      (log : m'.log = (i, ⟨.compareAndSet lease changes, .ok (lease.apply changes)⟩) :: m.log)

theorem Move.change (consistent : Consistent m)
    (move : Move (runtime texts) (leaseContract texts) K m m') (leaseId : String) :
    Change texts m m' leaseId := by
  cases move with
  | drift change drifted =>
      rcases drift_some drifted with ⟨amount, is⟩ | ⟨id, record, fate, _, _, is⟩
      · exact .kept (by rw [is]) (.inl rfl)
      · exact .kept (by rw [is]; rfl) (.inl rfl)
  | @act w' i e permitted promised performed kept =>
      have steady : w'.rows = m.world.rows → (∀ lease changes row,
          e ≠ ⟨.compareAndSet lease changes, .ok row⟩) →
          Change texts m ⟨w', (i, e) :: m.log⟩ leaseId := fun same quiet =>
        .kept (by rw [same]) (.inr ⟨i, e, rfl, permitted, fun lease changes row is =>
          absurd is (quiet lease changes row)⟩)
      obtain ⟨op, reply⟩ := e
      have performed : perform texts m.world ⟨op, reply⟩ = some w' := performed
      cases op with
      | insertRequest request t =>
          obtain ⟨rows, attempt, is⟩ := perform_insertRequest.mp performed
          subst is
          rcases Rows.insertRequest_cases attempt with ⟨absent, is, replied⟩ | ⟨is, _⟩
          · subst is replied
            by_cases named : request.leaseId = leaseId
            · subst named
              exact .inserted i request t absent rfl
                (Rows.get_append_new (Rows.requested texts request t) absent) rfl
            · refine .kept (Rows.get_append_ne fun same => named same.symm)
                (.inr ⟨i, _, rfl, permitted, fun lease changes row is => ?_⟩)
              cases is
          · exact steady is fun lease changes row is => by cases is
      | compareAndSet lease changes =>
          obtain ⟨rows, attempt, is⟩ := perform_compareAndSet.mp performed
          subst is
          cases reply with
          | error x =>
              exact steady (Rows.compareAndSet_error attempt) fun lease changes row is => by
                cases is
          | ok row =>
              obtain ⟨current, is, put⟩ := consistent.current permitted.1 attempt
              subst is put
              by_cases named : lease.leaseId = leaseId
              · subst named
                exact .written i lease changes rfl current permitted.2
                  (Rows.get_put_self (lease.apply changes) current) rfl
              · refine .kept (Rows.get_put_ne fun same => named same.symm)
                  (.inr ⟨i, _, rfl, permitted, fun lease' changes' row' is => ?_⟩)
                cases is
                exact named
      | get id =>
          exact steady (by rw [(perform_get.mp performed).2]) fun _ _ _ is => by cases is
      | listForReconciliation =>
          exact steady (by rw [(perform_listForReconciliation.mp performed).2])
            fun _ _ _ is => by cases is
      | now =>
          exact steady (by rw [(perform_now.mp performed).2]) fun _ _ _ is => by cases is
      | validateRuntimeRequest request =>
          cases performed
          exact steady rfl fun _ _ _ is => by cases is
      | send id call =>
          exact steady (by rw [(perform_send.mp performed).2]) fun _ _ _ is => by cases is
      | recv id call =>
          obtain ⟨record, _, _, is⟩ := perform_recv.mp performed
          exact steady (by rw [is]) fun _ _ _ is => by cases is
      | joined =>
          cases performed
          exact steady rfl fun _ _ _ is => by cases is

/-- A row that an operation shows is current after it. -/
theorem shows_current {w w' : World} {e : Event Effects}
    (performed : perform texts w e = some w') (shown : shows row e) :
    w'.rows.get row.leaseId = some row := by
  obtain ⟨op, reply⟩ := e
  cases op with
  | insertRequest request t =>
      obtain ⟨rows, attempt, is⟩ := perform_insertRequest.mp performed
      subst is
      cases reply with
      | error x => cases shown
      | ok found =>
          obtain ⟨found, new⟩ := found
          cases shown
          rcases Rows.insertRequest_cases attempt with ⟨absent, is, replied⟩ | ⟨is, existing⟩
          · cases replied
            subst is
            exact Rows.get_append_new (Rows.requested texts request t) absent
          · have found := existing _ new rfl
            rw [is, Rows.leaseId_of_get found]
            exact found
  | get leaseId =>
      obtain ⟨found, is⟩ := perform_get.mp performed
      cases reply with
      | none => cases shown
      | some stored =>
          cases shown
          rw [is, Rows.leaseId_of_get found]
          exact found
  | compareAndSet lease changes =>
      obtain ⟨rows, attempt, is⟩ := perform_compareAndSet.mp performed
      subst is
      cases reply with
      | error x => cases shown
      | ok updated =>
          cases shown
          obtain ⟨current, found, _, is, put⟩ := Rows.compareAndSet_ok attempt
          subst is put
          have same : current.leaseId = lease.leaseId := Rows.leaseId_of_get found
          refine Rows.get_put_self (current.apply changes) (?_ : _ = some current)
          rw [Lease.apply_leaseId, same]
          exact found
  | listForReconciliation => cases shown
  | now => cases shown
  | validateRuntimeRequest request => cases shown
  | send leaseId call => cases shown
  | recv id call => cases shown
  | joined => cases shown

theorem Move.consistent (consistent : Consistent m)
    (move : Move (runtime texts) (leaseContract texts) K m m') : Consistent m' := by
  -- A row seen before the move is a version of what the move leaves of its lease.
  have before : ∀ row, Committed m.log row → ∃ current,
      m'.world.rows.get row.leaseId = some current ∧ row.revision ≤ current.revision ∧
        (row.revision = current.revision → row = current) := by
    intro row committed
    obtain ⟨current, found, older, latest⟩ := consistent row committed
    cases Move.change consistent move row.leaseId with
    | kept rows log => exact ⟨current, rows.trans found, older, latest⟩
    | inserted i request t absent named rows log =>
        rw [found] at absent
        cases absent
    | written i lease changes named stored warranted rows log =>
        rw [found] at stored
        cases stored
        refine ⟨_, rows, ?_, fun same => ?_⟩
        · rw [Lease.apply_revision]
          omega
        · rw [Lease.apply_revision] at same
          omega
  cases move with
  | drift change drifted => exact before
  | act i e permitted promised performed kept =>
      intro row committed
      obtain ⟨entry, member, shown⟩ := committed
      rcases List.mem_cons.mp member with is | member
      · subst is
        exact ⟨row, shows_current performed shown, Nat.le_refl _, fun _ => rfl⟩
      · exact before row ⟨entry, member, shown⟩

theorem LeaseTrail.consistent (trail : LeaseTrail texts K clock m) : Consistent m :=
  Trail.invariant trail (fun _ _ consistent move => Move.consistent consistent move)
    fun row committed => by
      obtain ⟨entry, member, _⟩ := committed
      cases member

/-! ## Kinds of writes -/

/-- The write leaves alone what identifies the resource of the lease. -/
structure Changes.Plain (changes : Changes) : Prop where
  uncertain : changes.creationUncertain = none
  id : changes.providerResourceId = none
  kind : changes.resourceType = none
  name : changes.resourceName = none
  onward : changes.state ≠ some .provisioning

/-- The write records the resource of a lease whose creation is uncertain. -/
structure Changes.Records (lease : Lease) (changes : Changes) (id : String) : Prop where
  certain : changes.creationUncertain = some false
  sets : changes.providerResourceId = some id
  nonempty : id ≠ ""
  kind : changes.resourceType = none
  name : changes.resourceName = none
  moves : (lease.state = .provisioning ∨ lease.state = .reconcileRequired) ∧
      changes.state = some .waitingForModel ∨
    lease.state = .releasing ∧ lease.creationUncertain = true ∧ changes.state = none

/-- A warranted write admits a create, records a resource, or does neither. -/
theorem Warranted.kinds {h : Past} (warranted : Warranted texts h lease changes) :
    (lease.state = .requested ∧ ∃ request plan t, (request : LeaseRequest).leaseId =
      lease.leaseId ∧ changes = admissionChanges texts lease request plan t) ∨
    (∃ id, changes.Records lease id ∧ Reported h lease id) ∨ changes.Plain := by
  by_cases admits : changes.admits
  · exact .inl (warranted.admission admits)
  · have still := admits
    simp only [Changes.admits, not_or, not_not] at still
    obtain ⟨certain, onward, kind, name⟩ := still
    by_cases records : changes.creationUncertain = some false ∨ changes.providerResourceId ≠ none
    · obtain ⟨clears, ⟨id, sets, nonempty, reported⟩, moves⟩ := warranted.record records
      exact .inr (.inl ⟨id, ⟨clears, sets, nonempty, kind, name, moves⟩, reported⟩)
    · rw [not_or, not_not] at records
      refine .inr (.inr ⟨?_, records.2, kind, name, onward⟩)
      cases is : changes.creationUncertain with
      | none => rfl
      | some value => cases value <;> simp_all

theorem Changes.Plain.creationUncertain (plain : changes.Plain) :
    (lease.apply changes).creationUncertain = lease.creationUncertain := by
  rw [Lease.apply_creationUncertain, plain.uncertain]
  rfl

theorem Changes.Plain.providerResourceId (plain : changes.Plain) :
    (lease.apply changes).providerResourceId = lease.providerResourceId := by
  rw [Lease.apply_providerResourceId, plain.id]
  rfl

/-- A plain write keeps the resource of the lease. -/
theorem Changes.Plain.resource (plain : changes.Plain) {resource : ProvisionedResource}
    (is : resourceFromLease lease = .ok resource) :
    resourceFromLease (lease.apply changes) = .ok resource := by
  rw [resourceFromLease_ok] at is ⊢
  rw [Lease.apply_resourceType, Lease.apply_providerResourceId, Lease.apply_resourceName,
    plain.kind, plain.id, plain.name]
  exact is

/-! ## Admissions and creates in the log -/

/-- The write that admits a create for the lease. -/
def admitsCreate (leaseId : String) : Event Effects → Bool
  | ⟨.compareAndSet lease changes, .ok _⟩ =>
      lease.leaseId = leaseId && changes.state = some .provisioning
  | _ => false

/-- The dispatch of a create for the lease. -/
def dispatchesCreate (leaseId : String) : Event Effects → Bool
  | ⟨.send id (.provision _ _ _), _⟩ => id = leaseId
  | _ => false

/-- How many creates were admitted for the lease. -/
def admissions (log : Log Effects) (leaseId : String) : Nat :=
  log.countP fun entry => admitsCreate leaseId entry.2

/-- How many creates were dispatched for the lease. -/
def creates (log : Log Effects) (leaseId : String) : Nat :=
  log.countP fun entry => dispatchesCreate leaseId entry.2

theorem admissions_cons (i : Nat) (e : Event Effects) (log : Log Effects) :
    admissions ((i, e) :: log) leaseId =
      admissions log leaseId + if admitsCreate leaseId e then 1 else 0 := by
  rw [admissions, List.countP_cons]
  rfl

theorem creates_cons (i : Nat) (e : Event Effects) (log : Log Effects) :
    creates ((i, e) :: log) leaseId =
      creates log leaseId + if dispatchesCreate leaseId e then 1 else 0 := by
  rw [creates, List.countP_cons]
  rfl

/-- Where at most one create was admitted, two admissions are the same entry. -/
theorem admission_unique {log : Log Effects} {a b : Nat × Event Effects}
    (single : admissions log leaseId ≤ 1) (inA : a ∈ log) (inB : b ∈ log)
    (admitsA : admitsCreate leaseId a.2 = true) (admitsB : admitsCreate leaseId b.2 = true) :
    a = b := by
  rw [admissions, List.countP_eq_length_filter] at single
  have memA : a ∈ log.filter fun entry => admitsCreate leaseId entry.2 :=
    List.mem_filter.mpr ⟨inA, admitsA⟩
  have memB : b ∈ log.filter fun entry => admitsCreate leaseId entry.2 :=
    List.mem_filter.mpr ⟨inB, admitsB⟩
  rcases filtered : log.filter fun entry => admitsCreate leaseId entry.2 with _ | ⟨x, _ | ⟨y, l⟩⟩
  · rw [filtered] at memA
    cases memA
  · rw [filtered, List.mem_singleton] at memA memB
    rw [memA, memB]
  · rw [filtered] at single
    simp at single

/-- A task that has just admitted a create has logged the admission. -/
theorem JustAdmitted.entry {log : Log Effects} {i : Nat}
    (just : JustAdmitted texts (log.of i) leaseId) :
    ∃ e, (i, e) ∈ log ∧ admitsCreate leaseId e = true ∧ (log.of i).head? = some e := by
  obtain ⟨lease, request, plan, t, row, earlier, named, is⟩ := just
  refine ⟨_, Log.mem_of.mp (is ▸ List.mem_cons_self), ?_, by rw [is]; rfl⟩
  simp [admitsCreate, admissionChanges, named]

/-! ## Custody -/

/-- The teardown of exactly this resource was requested and confirmed. -/
def Confirmed (log : Log Effects) (leaseId : String) (resource : ProvisionedResource) : Prop :=
  ∃ i, TornDown (log.of i) leaseId resource

/-- What the current row of a lease says about the creates in the log. -/
structure RowCustody (log : Log Effects) (row : Lease) : Prop where
  requested : row.state = .requested → admissions log row.leaseId = 0 ∧
    row.creationUncertain = false ∧ row.providerResourceId = none
  waiting : row.state = .provisioning ∨ row.state = .reconcileRequired →
    row.creationUncertain = true
  uncertain : row.creationUncertain = true → row.providerResourceId = none
  reported : ∀ id, row.providerResourceId = some id → ∃ i, Reported (log.of i) row id
  traced : 0 < admissions log row.leaseId →
    row.creationUncertain = true ∨ truthy row.providerResourceId = true
  ended : row.state = .terminated → admissions log row.leaseId = 0 ∨
    ∃ resource, resourceFromLease row = .ok resource ∧ Confirmed log row.leaseId resource

/-- What the log and the store say about the creates of one lease. -/
structure Custody (texts : Texts) (m : Moment Effects World) (leaseId : String) : Prop where
  unknown : m.world.rows.get leaseId = none → admissions m.log leaseId = 0
  row : ∀ row, m.world.rows.get leaseId = some row → RowCustody m.log row
  single : admissions m.log leaseId ≤ 1
  dispatched : creates m.log leaseId ≤ admissions m.log leaseId
  fresh : ∀ i, JustAdmitted texts (m.log.of i) leaseId → creates m.log leaseId = 0

theorem Confirmed.mono {log log' : Log Effects} {resource : ProvisionedResource}
    (grown : log <:+ log') (confirmed : Confirmed log leaseId resource) :
    Confirmed log' leaseId resource := by
  obtain ⟨i, tornDown⟩ := confirmed
  exact ⟨i, Replied.mono (Log.of_suffix grown) tornDown⟩

/-- The custody of a row depends on the log through its admissions alone. -/
theorem RowCustody.log {log log' : Log Effects} (custody : RowCustody log row)
    (grown : log <:+ log') (same : admissions log' row.leaseId = admissions log row.leaseId) :
    RowCustody log' row where
  requested := same ▸ custody.requested
  waiting := custody.waiting
  uncertain := custody.uncertain
  reported id is := (custody.reported id is).imp fun _ reported =>
    reported.mono (Log.of_suffix grown)
  traced := same ▸ custody.traced
  ended terminated := (custody.ended terminated).imp (fun none => same ▸ none)
    fun ⟨resource, is, confirmed⟩ => ⟨resource, is, confirmed.mono grown⟩

theorem RowCustody.admitted {log : Log Effects} {request : LeaseRequest} {plan : PlacementPlan}
    {t : Instant} (blank : lease.providerResourceId = none) :
    RowCustody log (lease.apply (admissionChanges texts lease request plan t)) where
  requested is := by cases is
  waiting _ := rfl
  uncertain _ := blank
  reported id is := by
    have same : lease.providerResourceId = some id := is
    rw [blank] at same
    cases same
  traced _ := .inl rfl
  ended is := by cases is

/-- A report for the lease is one for every row of it with the same type and name. -/
theorem Reported.apply {h : Past} {id : String} (reported : Reported h lease id)
    (kind : changes.resourceType = none) (name : changes.resourceName = none) :
    Reported h (lease.apply changes) id := by
  rcases reported with created | ⟨kind', name', resource, hasKind, hasName, found⟩
  · exact .inl created
  · refine .inr ⟨kind', name', resource, ?_, ?_, found⟩
    · rw [Lease.apply_resourceType, kind]
      exact hasKind
    · rw [Lease.apply_resourceName, name]
      exact hasName

theorem RowCustody.recorded {log : Log Effects} {id : String} {i : Nat}
    (records : changes.Records lease id) (reported : Reported (log.of i) lease id) :
    RowCustody log (lease.apply changes) := by
  have certain : (lease.apply changes).creationUncertain = false := by
    rw [Lease.apply_creationUncertain, records.certain]
    rfl
  have settled : (lease.apply changes).state = .waitingForModel ∨
      (lease.apply changes).state = .releasing := by
    rw [Lease.apply_state]
    rcases records.moves with ⟨_, is⟩ | ⟨releasing, _, is⟩
    · rw [is]
      exact .inl rfl
    · rw [is, releasing]
      exact .inr rfl
  refine ⟨fun is => ?_, fun is => ?_, fun is => ?_, fun id' is => ⟨i, ?_⟩, fun _ => .inr ?_,
    fun is => ?_⟩
  · rcases settled with state | state <;> (rw [state] at is; cases is)
  · rcases settled with state | state <;> (rw [state] at is; rcases is with is | is <;> cases is)
  · rw [certain] at is
    cases is
  · rw [Lease.apply_providerResourceId, records.sets] at is
    cases is
    exact reported.apply records.kind records.name
  · rw [Lease.apply_providerResourceId, records.sets]
    simp [truthy, records.nonempty]
  · rcases settled with state | state <;> (rw [state] at is; cases is)

/-- Nothing is left of a lease that ends. -/
theorem RowCustody.nothingLeft {log : Log Effects} {i : Nat} (custody : RowCustody log lease)
    (ended : Ended (log.of i) lease) : admissions log lease.leaseId = 0 ∨
      ∃ resource, resourceFromLease lease = .ok resource ∧
        Confirmed log lease.leaseId resource := by
  rcases ended with requested | ⟨absent, certain⟩ | ⟨resource, is, tornDown⟩
  · exact .inl (custody.requested requested).1
  · refine .inl (Nat.eq_zero_of_not_pos fun admitted => ?_)
    rcases custody.traced admitted with uncertain | present
    · rw [uncertain] at certain
      cases certain
    · rw [present] at absent
      cases absent
  · exact .inr ⟨resource, is, i, tornDown⟩

theorem RowCustody.plain {log : Log Effects} {i : Nat} (custody : RowCustody log lease)
    (warranted : Warranted texts (log.of i) lease changes) (plain : changes.Plain) :
    RowCustody log (lease.apply changes) := by
  have moved : (changes.state = none ∧ (lease.apply changes).state = lease.state) ∨
      ∃ target, changes.state = some target ∧ (lease.apply changes).state = target := by
    rw [Lease.apply_state]
    cases is : changes.state with
    | none => exact .inl ⟨rfl, rfl⟩
    | some target => exact .inr ⟨target, rfl, rfl⟩
  refine ⟨fun is => ?_, fun is => ?_, fun is => ?_, fun id is => ?_, fun admitted => ?_,
    fun is => ?_⟩
  · have before : lease.state = .requested := by
      rcases moved with ⟨_, same⟩ | ⟨target, moves, same⟩
      · rw [← same]
        exact is
      · rw [same] at is
        subst is
        rcases warranted.allowed _ moves with same | allowed
        · exact same.symm
        · cases state : lease.state <;> rw [state] at allowed <;> revert allowed <;> decide
    rw [plain.creationUncertain, plain.providerResourceId]
    exact custody.requested before
  · rw [plain.creationUncertain]
    refine custody.waiting ?_
    rcases moved with ⟨_, same⟩ | ⟨target, moves, same⟩
    · rw [← same]
      exact is
    · rw [same] at is
      rcases is with is | is
      · subst is
        exact absurd moves plain.onward
      · subst is
        rcases warranted.allowed _ moves with same | allowed
        · exact .inr same.symm
        · cases state : lease.state <;> rw [state] at allowed <;> revert allowed <;> decide
  · rw [plain.creationUncertain] at is
    rw [plain.providerResourceId]
    exact custody.uncertain is
  · rw [plain.providerResourceId] at is
    exact (custody.reported id is).imp fun _ reported => reported.apply plain.kind plain.name
  · rw [plain.creationUncertain, plain.providerResourceId]
    exact custody.traced admitted
  · have left : admissions log lease.leaseId = 0 ∨
        ∃ resource, resourceFromLease lease = .ok resource ∧
          Confirmed log lease.leaseId resource := by
      rcases moved with ⟨_, same⟩ | ⟨target, moves, same⟩
      · exact custody.ended (same ▸ is)
      · rw [same] at is
        subst is
        exact custody.nothingLeft (warranted.termination moves)
    exact left.imp_right fun ⟨resource, is, confirmed⟩ =>
      ⟨resource, plain.resource is, confirmed⟩

/-- An operation that is no successful write on the lease leaves its custody in place. -/
theorem Custody.kept {i : Nat} {e : Event Effects} (custody : Custody texts m leaseId)
    (rows : m'.world.rows.get leaseId = m.world.rows.get leaseId)
    (log : m'.log = (i, e) :: m.log) (permitted : Permits texts (m.log.of i) e.op)
    (other : ∀ lease changes row, e = ⟨.compareAndSet lease changes, .ok row⟩ →
      lease.leaseId ≠ leaseId) : Custody texts m' leaseId := by
  have quiet : admitsCreate leaseId e = false := by
    obtain ⟨op, reply⟩ := e
    cases op with
    | compareAndSet lease changes =>
        cases reply with
        | error x => rfl
        | ok row => simp [admitsCreate, other lease changes row rfl]
    | _ => rfl
  have admitted : admissions m'.log leaseId = admissions m.log leaseId := by
    rw [log, admissions_cons, quiet]
    rfl
  -- A dispatch follows the one admission at once, so it is the first and the last.
  have dispatch : dispatchesCreate leaseId e = true →
      JustAdmitted texts (m.log.of i) leaseId := by
    intro dispatches
    obtain ⟨op, reply⟩ := e
    cases op with
    | send id call =>
        cases call with
        | provision request plan name =>
            have same : id = leaseId := by simpa [dispatchesCreate] using dispatches
            exact same ▸ permitted.1
        | _ => cases dispatches
    | _ => cases dispatches
  refine ⟨fun absent => ?_, fun row found => ?_, by rw [admitted]; exact custody.single, ?_,
    fun j just => ?_⟩
  · rw [admitted]
    exact custody.unknown (rows ▸ absent)
  · rw [rows] at found
    have same := Rows.leaseId_of_get found
    exact (custody.row row found).log (log ▸ List.suffix_cons _ _) (by rw [same]; exact admitted)
  · rw [admitted, log, creates_cons]
    by_cases dispatches : dispatchesCreate leaseId e = true
    · have none := custody.fresh i (dispatch dispatches)
      obtain ⟨first, member, admits, _⟩ := (dispatch dispatches).entry
      have some : 0 < admissions m.log leaseId :=
        List.countP_pos_iff.mpr ⟨(i, first), member, admits⟩
      rw [none, if_pos dispatches]
      omega
    · rw [if_neg dispatches]
      exact custody.dispatched
  · rw [log] at just
    by_cases same : j = i
    · subst same
      rw [Log.of_cons_self] at just
      obtain ⟨lease, request, plan, t, row, earlier, named, is⟩ := just
      have head : e = ⟨.compareAndSet lease (admissionChanges texts lease request plan t),
        .ok row⟩ := (List.cons.inj is).1
      exact absurd named (other _ _ _ head)
    · rw [Log.of_cons_ne (Ne.symm same)] at just
      have none := custody.fresh j just
      rw [log, creates_cons, none]
      by_cases dispatches : dispatchesCreate leaseId e = true
      · obtain ⟨first, member, admits, _⟩ := (dispatch dispatches).entry
        obtain ⟨second, member', admits', _⟩ := just.entry
        have unique := admission_unique custody.single member member' admits admits'
        exact absurd (congrArg Prod.fst unique).symm same
      · rw [if_neg dispatches]

/-- What one move passes on of a lease's custody. -/
theorem Move.custody (consistent : Consistent m) (custody : Custody texts m leaseId)
    (move : Move (runtime texts) (leaseContract texts) K m m') : Custody texts m' leaseId := by
  cases Move.change consistent move leaseId with
  | kept rows log =>
      rcases log with same | ⟨i, e, log, permitted, other⟩
      · refine ⟨fun absent => ?_, fun row found => ?_, ?_, ?_, fun i just => ?_⟩
        · rw [same]
          exact custody.unknown (rows ▸ absent)
        · rw [same]
          exact custody.row row (rows ▸ found)
        · rw [same]
          exact custody.single
        · rw [same]
          exact custody.dispatched
        · rw [same] at just ⊢
          exact custody.fresh i just
      · exact custody.kept rows log permitted other
  | inserted i request t absent named rows log =>
      have none := custody.unknown absent
      have admitted : admissions m'.log leaseId = 0 := by
        rw [log, admissions_cons, none]
        rfl
      have created : creates m'.log leaseId = 0 := by
        have bound := custody.dispatched
        rw [none] at bound
        rw [log, creates_cons]
        exact Nat.le_zero.mp bound
      refine ⟨fun _ => admitted, fun row found => ?_, by omega, by omega, fun _ _ => created⟩
      rw [rows] at found
      cases found
      refine ⟨fun _ => ⟨by rw [← named] at admitted; exact admitted, rfl, rfl⟩, fun is => ?_,
        fun is => ?_, fun id is => ?_, fun some => ?_, fun is => ?_⟩
      · rcases is with is | is <;> cases is
      · cases is
      · cases is
      · rw [← named] at admitted
        have zero : admissions m'.log (Rows.requested texts request t).leaseId = 0 := admitted
        omega
      · cases is
  | written i lease changes named current warranted rows log =>
      subst named
      have before := custody.row lease current
      have grown : m.log <:+ m'.log := log ▸ List.suffix_cons _ _
      have created : creates m'.log lease.leaseId = creates m.log lease.leaseId := by
        rw [log, creates_cons]
        rfl
      rcases warranted.kinds with ⟨waiting, request, plan, t, _, is⟩ | rest
      · subst is
        obtain ⟨none, _, blank⟩ := before.requested waiting
        have bound := custody.dispatched
        have admitted : admissions m'.log lease.leaseId = 1 := by
          rw [log, admissions_cons, none]
          simp [admitsCreate, admissionChanges]
        refine ⟨fun absent => ?_, fun row found => ?_, by omega, by omega, fun _ _ => by omega⟩
        · rw [rows] at absent
          cases absent
        · rw [rows] at found
          cases found
          exact .admitted blank
      · -- Any other write leaves the admissions and the dispatches as they were.
        have quiet : changes.state ≠ some .provisioning := by
          rcases rest with ⟨id, records, _⟩ | plain
          · rcases records.moves with ⟨_, is⟩ | ⟨_, _, is⟩ <;> (rw [is]; simp)
          · exact plain.onward
        have admitted : admissions m'.log lease.leaseId = admissions m.log lease.leaseId := by
          rw [log, admissions_cons]
          simp [admitsCreate, quiet]
        refine ⟨fun absent => ?_, fun row found => ?_, by rw [admitted]; exact custody.single,
          by rw [admitted, created]; exact custody.dispatched, fun j just => ?_⟩
        · rw [rows] at absent
          cases absent
        · rw [rows] at found
          cases found
          rcases rest with ⟨id, records, reported⟩ | plain
          · exact .recorded records (reported.mono (Log.of_suffix grown))
          · exact (before.plain warranted plain).log grown admitted
        · rw [created]
          refine custody.fresh j ?_
          rw [log] at just
          by_cases same : j = i
          · subst same
            rw [Log.of_cons_self] at just
            obtain ⟨lease', request, plan, t, row, earlier, _, is⟩ := just
            have head := (List.cons.inj is).1
            cases head
            exact absurd rfl quiet
          · rw [Log.of_cons_ne (Ne.symm same)] at just
            exact just

/-! ## The history of a row -/

/-- What one write may make of a row. -/
structure Lease.Evolves (old new : Lease) : Prop where
  transition : new.state = old.state ∨ new.state ∈ old.state.allowedTransitions
  cleared : old.creationUncertain = true → new.creationUncertain = false →
    old.providerResourceId = none ∧ truthy new.providerResourceId = true
  resource : ∀ id, old.providerResourceId = some id → new.providerResourceId = some id
  absorbing : old.state = .terminated → new.state = .terminated

theorem Lease.Evolves.refl : lease.Evolves lease where
  transition := .inl rfl
  cleared uncertain certain := by rw [uncertain] at certain; cases certain
  resource _ is := is
  absorbing is := is

/-- The stored row of a lease before and after a move: a new row is `REQUESTED`. -/
def Follows : Option Lease → Option Lease → Prop
  | none, none => True
  | none, some new =>
      new.state = .requested ∧ new.creationUncertain = false ∧ new.providerResourceId = none
  | some old, some new => old.Evolves new
  | some _, none => False

theorem Follows.refl (row : Option Lease) : Follows row row := by
  cases row with
  | none => trivial
  | some lease => exact Lease.Evolves.refl

/-- A warranted write makes of the current row what it may. -/
theorem RowCustody.evolves {h : Past} {log : Log Effects} (custody : RowCustody log lease)
    (warranted : Warranted texts h lease changes) : lease.Evolves (lease.apply changes) := by
  have transition : (lease.apply changes).state = lease.state ∨
      (lease.apply changes).state ∈ lease.state.allowedTransitions := by
    rw [Lease.apply_state]
    cases moves : changes.state with
    | none => exact .inl rfl
    | some target => exact warranted.allowed target moves
  have absorbing : lease.state = .terminated → (lease.apply changes).state = .terminated := by
    intro terminated
    rcases transition with same | allowed
    · exact same.trans terminated
    · rw [terminated] at allowed
      cases allowed
  refine ⟨transition, fun uncertain certain => ?_, fun id is => ?_, absorbing⟩
  · refine ⟨custody.uncertain uncertain, ?_⟩
    rcases warranted.kinds with ⟨_, request, plan, t, _, is⟩ | ⟨id, records, _⟩ | plain
    · subst is
      cases certain
    · rw [Lease.apply_providerResourceId, records.sets]
      simp [truthy, records.nonempty]
    · rw [plain.creationUncertain, uncertain] at certain
      cases certain
  · rcases warranted.kinds with ⟨waiting, request, plan, t, _, same⟩ | ⟨id', records, _⟩ | plain
    · have blank := (custody.requested waiting).2.2
      rw [blank] at is
      cases is
    · have uncertain : lease.creationUncertain = true := by
        rcases records.moves with ⟨waiting, _⟩ | ⟨_, uncertain, _⟩
        · exact custody.waiting waiting
        · exact uncertain
      rw [custody.uncertain uncertain] at is
      cases is
    · rw [plain.providerResourceId]
      exact is

theorem Move.follows (consistent : Consistent m) (custody : Custody texts m leaseId)
    (move : Move (runtime texts) (leaseContract texts) K m m') :
    Follows (m.world.rows.get leaseId) (m'.world.rows.get leaseId) := by
  cases Move.change consistent move leaseId with
  | kept rows log =>
      rw [rows]
      exact .refl _
  | inserted i request t absent named rows log =>
      rw [absent, rows]
      exact ⟨rfl, rfl, rfl⟩
  | written i lease changes named current warranted rows log =>
      rw [current, rows]
      exact (custody.row lease current).evolves warranted

theorem LeaseTrail.custody (trail : LeaseTrail texts K clock m) (leaseId : String) :
    Custody texts m leaseId := by
  refine Trail.invariant_along (P := fun m => Custody texts m leaseId) trail
    (fun _ walked => LeaseTrail.consistent walked)
    (fun _ _ consistent _ custody move => Move.custody consistent custody move) ?_
  refine ⟨fun _ => rfl, fun row found => ?_, Nat.zero_le _, Nat.le_refl _, fun _ _ => rfl⟩
  cases found

/-- A create is dispatched after its admission is on record: the dispatching task committed the
lease as `PROVISIONING` with its creation uncertain. -/
theorem LeaseTrail.admitted_first (trail : LeaseTrail texts K clock m) {i n : Nat}
    {request : LeaseRequest} {plan : PlacementPlan} {name : String}
    {later earlier : Log Effects}
    (split : m.log = later ++ (i, ⟨.send leaseId (.provision request plan name), n⟩) :: earlier) :
    ∃ lease changes row, (i, ⟨.compareAndSet lease changes, .ok row⟩) ∈ earlier ∧
      row.leaseId = leaseId ∧ row.state = .provisioning ∧ row.creationUncertain = true := by
  obtain ⟨before, w', walked, log, permitted, _, _, _, _⟩ :=
    Trail.act_of_mem trail split (List.nil_suffix)
  obtain ⟨⟨lease, request', plan', t, row, past, named, is⟩, _⟩ := permitted
  have member : (i, (⟨.compareAndSet lease (admissionChanges texts lease request' plan' t),
      .ok row⟩ : Event Effects)) ∈ earlier := Log.mem_of.mp (is ▸ List.mem_cons_self)
  have promised := Trail.promised walked (fun entry none => by cases none) _ (log ▸ member)
  exact ⟨lease, _, row, member, promised.1.trans named, promised.2.1 _ rfl, promised.2.2 _ rfl⟩

/-- The reply to an operation that waits for nobody, and the world after it: the clock stands
still, and the caller of an owned effect is not cancelled. -/
def World.serve (texts : Texts) (w : World) : (op : Op) → Option (op.Reply × World)
  | .insertRequest request t =>
      let (rows, reply) := w.rows.insertRequest texts request t
      some (reply, { w with rows := rows })
  | .get leaseId => some (w.rows.get leaseId, w)
  | .compareAndSet lease changes =>
      let (rows, reply) := w.rows.compareAndSet lease changes
      some (reply, { w with rows := rows })
  | .listForReconciliation => some (w.rows.listForReconciliation, w)
  | .now => some (w.clock, w)
  | .validateRuntimeRequest _ => some (.ok (), w)
  | .send leaseId call =>
      some (w.calls.length, { w with calls := w.calls ++ [⟨leaseId, call, .pending⟩] })
  | .recv _ _ => none
  | .joined => some (false, w)

/-- The reply is possible, and leads to that world. -/
theorem World.serve_possible {w w' : World} {op : Op} {reply : op.Reply}
    (served : w.serve texts op = some (reply, w')) : perform texts w ⟨op, reply⟩ = some w' := by
  cases op with
  | recv id call => cases served
  | insertRequest request t =>
      simp only [serve, Option.some.injEq, Prod.mk.injEq] at served
      obtain ⟨rfl, rfl⟩ := served
      exact perform_insertRequest.mpr ⟨_, rfl, rfl⟩
  | compareAndSet lease changes =>
      simp only [serve, Option.some.injEq, Prod.mk.injEq] at served
      obtain ⟨rfl, rfl⟩ := served
      exact perform_compareAndSet.mpr ⟨_, rfl, rfl⟩
  | now =>
      simp only [serve, Option.some.injEq, Prod.mk.injEq] at served
      obtain ⟨rfl, rfl⟩ := served
      exact perform_now.mpr ⟨Int.le_refl _, rfl⟩
  | _ =>
      simp only [serve, Option.some.injEq, Prod.mk.injEq] at served
      obtain ⟨rfl, rfl⟩ := served
      simp [perform]

/-- Serve every operation that waits for nobody. -/
def serving (texts : Texts) : Operator (runtime texts) :=
  ⟨World.serve texts, World.serve_possible⟩

/-- The reply to a task that waits for a response. -/
def respond (answer : (call : Call) → Option (Except Exn call.Value)) (_ : World) :
    (op : Op) → Option op.Reply
  | .recv _ call => answer call
  | _ => none

namespace Sample

def hashes : Texts where
  sha256 _ := "0123456789abcdef0123456789abcdef"
  fingerprint request := request.model
  lower text := text
  redact text := text

def request : LeaseRequest where
  leaseId := "lease-1"
  ownerId := "owner-1"
  workloadId := "workload-1"
  model := "llama3"
  constraints := ⟨24, 1, .secure, none, [], [], [], none⟩
  expectedSessionSeconds := 3600
  expectedActiveSeconds := 600
  serverlessInitializationSeconds := 60
  serverlessIdleTailSeconds := 60
  idleTimeoutSeconds := 300
  readinessTimeoutSeconds := 900
  hardDeadline := seconds 9000
  maxAuthorizedCost := .finite 8
  mode := .dedicatedPod
  requestedAt := none

def plan : PlacementPlan where
  mode := .dedicatedPod
  resourceType := .pod
  placement := ⟨.pod, "NVIDIA A100", none, "A100", 1, .finite 2, seconds 90⟩
  estimatedComputeCost := .finite 2
  maximumComputeCost := .finite 4
  estimatedNonComputeCost := .finite 0
  maximumNonComputeCost := .finite 0
  estimatedCost := .finite 2
  costCeiling := .finite 4
  estimatedBillableSeconds := 3600
  maximumBillableSeconds := 7200
  maximumConcurrentWorkers := 1
  nonComputeComponents := [.containerDisk]
  maximumServerlessColdStarts := 0

/-- The provider brings up one Pod, and later confirms its teardown. -/
def answers : (call : Call) → Option (Except Exn call.Value)
  | .provision _ _ name => some (.ok ⟨.pod, "pod-00001", name⟩)
  | .teardown _ => some (.ok ())
  | _ => none

/-- A lease is acquired while another task gives up on it; its Pod is found and torn down. -/
def acquiredAndReleased : List (Cue (runtime hashes) (admits hashes)) :=
  [.spawn 0 _ ⟨1, .acquire request false (some plan), rfl⟩, .runOn 0 (serving hashes) 9,
    .drift (.accept 0 "pod-00001"), .act 0 (.answering _ (respond answers)), .runOn 0 (serving hashes) 9,
    .spawn 1 _ ⟨1, .release "lease-1" "owner-1" "workload-1", rfl⟩,
    .runOn 1 (serving hashes) 9, .drift (.vanish 0), .act 1 (.answering _ (respond answers)),
    .runOn 1 (serving hashes) 9]

end Sample

end KestrelRunpod.Ollama
