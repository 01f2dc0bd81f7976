import KestrelRunpod.Pod.System.Columns

/-!
# Calls along a run

Every dispatched call has one record in the world, and its fate only moves forward
(`CallRecord.Becomes`).  A reply that a task received was honest about the record at that
moment (`LeaseTrail.answered`), so what the reply settled is still settled
(`LeaseTrail.replied`).

From there a Pod that a row of a created lease records was accepted for that very lease
(`LeaseTrail.pod_created`): resource names tell the leases apart, so a Pod that is found by
name is one the lease had created.
-/

namespace KestrelRunpod.Pod

open Interleave

variable {d : Digests} {callers : Callers} {K : Restriction Effects World} {clock : Instant}
  {m m' : Moment Effects World}

/-! ## Fates -/

/-- The same call at a later moment. -/
structure CallRecord.Becomes (a b : CallRecord) : Prop where
  token : b.token = a.token
  call : b.call = a.call
  sentAt : b.sentAt = a.sentAt
  decided : a.fate ≠ .pending → b.fate ≠ .pending
  refused : a.fate = .refused ↔ b.fate = .refused ∧ a.fate ≠ .pending
  accepted : ∀ pod, a.fate.accepted pod = true → b.fate.accepted pod = true
  ended : ∀ pod, a.fate = .ended pod → b.fate = .ended pod

theorem CallRecord.Becomes.refl (a : CallRecord) : a.Becomes a where
  token := rfl
  call := rfl
  sentAt := rfl
  decided := id
  refused := ⟨fun is => ⟨is, by simp [is]⟩, fun both => both.1⟩
  accepted := fun _ => id
  ended := fun _ => id

theorem CallRecord.Becomes.trans {a b c : CallRecord} (first : a.Becomes b)
    (second : b.Becomes c) : a.Becomes c where
  token := second.token.trans first.token
  call := second.call.trans first.call
  sentAt := second.sentAt.trans first.sentAt
  decided := fun undecided => second.decided (first.decided undecided)
  refused := by
    constructor
    · intro refused
      have at_ := first.refused.mp refused
      exact ⟨(second.refused.mp at_.1).1, at_.2⟩
    · rintro ⟨refused, decided⟩
      exact first.refused.mpr ⟨second.refused.mpr ⟨refused, first.decided decided⟩, decided⟩
  accepted := fun pod accepted => second.accepted pod (first.accepted pod accepted)
  ended := fun pod ended => second.ended pod (first.ended pod ended)

/-- One move of its fate is a later moment of the call. -/
theorem CallRecord.Next.becomes {record : CallRecord} {fate : Fate} (next : record.Next fate) :
    record.Becomes { record with fate := fate } := by
  cases next with
  | refused pending _ => constructor <;> simp_all [Fate.accepted]
  | accepted pod pending _ => constructor <;> simp_all [Fate.accepted]
  | ended pod live => constructor <;> simp_all [Fate.accepted]

/-! ## Records -/

/-- What an operation does to the calls: a dispatch adds one, and nothing else touches them. -/
theorem perform_calls {w w' : World} {e : Event Effects} (performed : perform d w e = some w') :
    (∃ token call, ∃ id : Nat, e = ⟨.send token call, id⟩ ∧ id = w.calls.length ∧
      w'.calls = w.calls ++ [⟨token, call, w.clock, .pending⟩]) ∨
    ((∀ token call (id : Nat), e ≠ ⟨.send token call, id⟩) ∧ w'.calls = w.calls) := by
  obtain ⟨op, reply⟩ := e
  cases op with
  | send token call =>
      obtain ⟨is, rfl⟩ := perform_send.mp performed
      exact .inl ⟨token, call, reply, rfl, is, rfl⟩
  | reserve request =>
      obtain ⟨_, _, rfl⟩ := perform_reserve.mp performed
      exact .inr ⟨by simp, rfl⟩
  | compareAndSet lease changes =>
      obtain ⟨_, _, rfl⟩ := perform_compareAndSet.mp performed
      exact .inr ⟨by simp, rfl⟩
  | get token => exact .inr ⟨by simp, by rw [(perform_get.mp performed).2]⟩
  | listCleanupFamily root legacy =>
      exact .inr ⟨by simp, by rw [(perform_listCleanupFamily.mp performed).2]⟩
  | listIncompleteFamilyReleases =>
      exact .inr ⟨by simp, by rw [(perform_listIncompleteFamilyReleases.mp performed).2]⟩
  | listForReconciliation =>
      exact .inr ⟨by simp, by rw [(perform_listForReconciliation.mp performed).2]⟩
  | now => exact .inr ⟨by simp, by rw [(perform_now.mp performed).2]⟩
  | mergeEvidence evidence update =>
      exact .inr ⟨by simp, by rw [(perform_mergeEvidence.mp performed).2]⟩
  | recv id call =>
      obtain ⟨_, _, _, is⟩ := perform_recv.mp performed
      exact .inr ⟨by simp, by rw [is]⟩
  | joined => exact .inr ⟨by simp, by rw [perform_joined.mp performed]⟩

/-- A dispatched call keeps its record. -/
theorem Move.becomes {id : Nat} {record : CallRecord} (move : LeaseMove d callers K m m')
    (found : m.world.calls[id]? = some record) :
    ∃ record', m'.world.calls[id]? = some record' ∧ record.Becomes record' := by
  cases move with
  | act i e permitted promised performed kept =>
      rcases perform_calls performed with ⟨_, _, _, _, _, calls⟩ | ⟨_, calls⟩
      · refine ⟨record, ?_, .refl record⟩
        dsimp only
        rw [calls, List.getElem?_append_left (List.getElem?_eq_some_iff.mp found).1]
        exact found
      · exact ⟨record, by dsimp only; rw [calls]; exact found, .refl record⟩
  | drift change drifted =>
      rcases drift_some drifted with ⟨amount, rfl⟩ | ⟨other, old, fate, there, next, rfl⟩
      · exact ⟨record, found, .refl record⟩
      · by_cases same : other = id
        · subst same
          rw [there] at found
          cases found
          refine ⟨{ record with fate := fate }, ?_, next.becomes⟩
          exact List.getElem?_set_self (List.getElem?_eq_some_iff.mp there).1
        · refine ⟨record, ?_, .refl record⟩
          show (m.world.calls.set other { old with fate := fate })[id]? = some record
          rw [List.getElem?_set_ne same]
          exact found

theorem Trail.becomes {id : Nat} {record : CallRecord}
    (trail : Trail (runtime d) (leaseContract d callers) K m m')
    (found : m.world.calls[id]? = some record) :
    ∃ record', m'.world.calls[id]? = some record' ∧ record.Becomes record' := by
  induction trail with
  | refl => exact ⟨record, found, .refl record⟩
  | tail _ move ih =>
      obtain ⟨mid, there, first⟩ := ih
      obtain ⟨last, here, second⟩ := Move.becomes move there
      exact ⟨last, here, first.trans second⟩

/-- The log dispatches the call under this number. -/
def Dispatched (log : Log Effects) (token : String) (call : Call) (id : Nat) : Prop :=
  ∃ i, (i, ⟨.send token call, id⟩) ∈ log

/-- Every dispatched call has its record. -/
theorem LeaseTrail.dispatched (trail : LeaseTrail d callers K clock m) {token : String}
    {call : Call} {id : Nat} (sent : Dispatched m.log token call id) :
    ∃ record, m.world.calls[id]? = some record ∧ record.token = token ∧ record.call = call := by
  obtain ⟨i, logged⟩ := sent
  obtain ⟨later, earlier, split⟩ := List.append_of_mem logged
  obtain ⟨before, w', _, _, _, performed, _, rest⟩ := trail.act_of_mem split
  obtain ⟨is, rfl⟩ := perform_send.mp performed
  have here : (before.world.calls ++ [⟨token, call, before.world.clock, .pending⟩])[id]? =
      some ⟨token, call, before.world.clock, .pending⟩ := by
    rw [is]
    simp
  obtain ⟨record, found, becomes⟩ := Trail.becomes rest here
  exact ⟨record, found, becomes.token, becomes.call⟩

/-- Every record is of a dispatched call. -/
theorem LeaseTrail.recorded (trail : LeaseTrail d callers K clock m) {id : Nat}
    {record : CallRecord} (found : m.world.calls[id]? = some record) :
    Dispatched m.log record.token record.call id := by
  refine Trail.invariant (P := fun m => ∀ id record, m.world.calls[id]? = some record →
    Dispatched m.log record.token record.call id) trail (fun m m' known move => ?_)
    (by simp [World.empty]) id record found
  intro id record found
  cases move with
  | act i e permitted promised performed kept =>
      rcases perform_calls performed with ⟨token, call, number, rfl, is, calls⟩ | ⟨_, calls⟩
      · dsimp only at found
        rw [calls] at found
        by_cases old : id < m.world.calls.length
        · rw [List.getElem?_append_left old] at found
          obtain ⟨j, logged⟩ := known id record found
          exact ⟨j, List.mem_cons_of_mem _ logged⟩
        · have last : id = m.world.calls.length := by
            have bound := (List.getElem?_eq_some_iff.mp found).1
            rw [List.length_append, List.length_singleton] at bound
            omega
          rw [last] at found
          simp only [List.getElem?_concat_length, Option.some.injEq] at found
          subst found
          exact ⟨i, by rw [last, ← is]; exact List.mem_cons_self⟩
      · dsimp only at found
        rw [calls] at found
        obtain ⟨j, logged⟩ := known id record found
        exact ⟨j, List.mem_cons_of_mem _ logged⟩
  | drift change drifted =>
      rcases drift_some drifted with ⟨amount, rfl⟩ | ⟨other, old, fate, there, next, rfl⟩
      · exact known id record found
      · have found : (m.world.calls.set other { old with fate := fate })[id]? = some record :=
          found
        by_cases same : other = id
        · subst same
          rw [List.getElem?_set_self (List.getElem?_eq_some_iff.mp there).1] at found
          cases found
          exact known other old there
        · rw [List.getElem?_set_ne same] at found
          exact known id record found

/-! ## Replies -/

/-- A reply in the log was honest about the record of its call at that moment. -/
theorem LeaseTrail.answered (trail : LeaseTrail d callers K clock m) {later earlier : Log Effects}
    {i id : Nat} {call : Call} {outcome : Except Exn call.Value}
    (split : m.log = later ++ (i, ⟨.recv id call, outcome⟩) :: earlier) :
    ∃ before record, LeaseTrail d callers K clock before ∧ before.log = earlier ∧
      before.world.calls[id]? = some record ∧ record.call = call ∧
      honest before.world record call outcome ∧
      Trail (runtime d) (leaseContract d callers) K before m := by
  obtain ⟨before, w', walked, log, permitted, performed, kept, rest⟩ := trail.act_of_mem split
  obtain ⟨record, found, fair, rfl⟩ := perform_recv.mp performed
  obtain ⟨token, sent⟩ := permitted
  have dispatched : Dispatched before.log token call id := ⟨i, by rw [log]; exact Log.mem_of.mp sent⟩
  obtain ⟨record', found', _, same⟩ := walked.dispatched dispatched
  rw [found] at found'
  cases found'
  refine ⟨before, record, walked, log, found, same, fair, ?_⟩
  have move : LeaseMove d callers K before ⟨before.world, (i, ⟨.recv id call, outcome⟩) :: earlier⟩ := by
    rw [← log]
    exact .act i _ ⟨token, by rw [log]; exact sent⟩ (perform_promises performed) performed
      (by rw [log]; exact kept)
  exact Relation.ReflTransGen.head move rest

/-- What a task knows from a reply to a call it made: the call's record, then and now. -/
theorem LeaseTrail.replied (trail : LeaseTrail d callers K clock m) {i : Nat} {token : String}
    {call : Call} {outcome : Except Exn call.Value}
    (replied : Replied (m.log.of i) token call outcome) :
    ∃ (id : Nat) (before : Moment Effects World) (record now : CallRecord),
      LeaseTrail d callers K clock before ∧
      Trail (runtime d) (leaseContract d callers) K before m ∧
      before.world.calls[id]? = some record ∧ m.world.calls[id]? = some now ∧
      record.Becomes now ∧ record.token = token ∧ record.call = call ∧
      honest before.world record call outcome := by
  obtain ⟨id, sent, received⟩ := replied
  obtain ⟨later, earlier, split⟩ := List.append_of_mem (Log.mem_of.mp received)
  obtain ⟨before, record, walked, _, found, same, fair, rest⟩ := trail.answered split
  obtain ⟨now, here, becomes⟩ := Trail.becomes rest found
  obtain ⟨own, there, token', _⟩ := trail.dispatched ⟨i, Log.mem_of.mp sent⟩
  rw [here] at there
  cases there
  exact ⟨id, before, record, now, walked, rest, found, here, becomes,
    becomes.token.symm.trans token', same, fair⟩

/-! ## Created Pods -/

/-- A create that was made for the lease. -/
def CallRecord.creates (record : CallRecord) (token : String) : Prop :=
  record.token = token ∧ ∃ name spec, record.call = .create name spec

/-- Some create made for the lease was accepted as the Pod. -/
def CreatedFor (w : World) (token pod : String) : Prop :=
  ∃ (id : Nat) (record : CallRecord), w.calls[id]? = some record ∧ record.creates token ∧
    record.fate.accepted pod = true

/-- Some create made for the lease was refused. -/
def RefusedFor (w : World) (token : String) : Prop :=
  ∃ (id : Nat) (record : CallRecord), w.calls[id]? = some record ∧ record.creates token ∧ record.fate = .refused

theorem CallRecord.Becomes.creates {a b : CallRecord} {token : String} (becomes : a.Becomes b)
    (creates : a.creates token) : b.creates token := by
  obtain ⟨same, name, spec, call⟩ := creates
  exact ⟨becomes.token.trans same, name, spec, becomes.call.trans call⟩

theorem Trail.createdFor {token pod : String}
    (trail : Trail (runtime d) (leaseContract d callers) K m m')
    (created : CreatedFor m.world token pod) : CreatedFor m'.world token pod := by
  obtain ⟨id, record, found, creates, accepted⟩ := created
  obtain ⟨now, here, becomes⟩ := Trail.becomes trail found
  exact ⟨id, now, here, becomes.creates creates, becomes.accepted pod accepted⟩

theorem Trail.refusedFor {token : String}
    (trail : Trail (runtime d) (leaseContract d callers) K m m')
    (refused : RefusedFor m.world token) : RefusedFor m'.world token := by
  obtain ⟨id, record, found, creates, fate⟩ := refused
  obtain ⟨now, here, becomes⟩ := Trail.becomes trail found
  exact ⟨id, now, here, becomes.creates creates, (becomes.refused.mp fate).1⟩

/-- A create that was answered with a Pod was accepted as it. -/
theorem LeaseTrail.createAnswered (trail : LeaseTrail d callers K clock m) {i : Nat}
    {token pod : String} (answered : CreateAnswered (m.log.of i) token pod) :
    CreatedFor m.world token pod := by
  obtain ⟨name, spec, outcome, replied, outcomes⟩ := answered
  obtain ⟨id, before, record, now, _, _, _, here, becomes, same, call, fair⟩ :=
    trail.replied replied
  refine ⟨id, now, here, becomes.creates ⟨same, name, spec, call⟩, becomes.accepted pod ?_⟩
  rcases outcomes with rfl | ⟨created, rfl, rfl⟩
  · exact fair
  · exact fair.1

/-- A create that was definitely rejected was refused. -/
theorem LeaseTrail.createRejected (trail : LeaseTrail d callers K clock m) {i : Nat}
    {token : String} {x : Exn} (rejected : CreateRejected (m.log.of i) token x) :
    RefusedFor m.world token := by
  obtain ⟨name, spec, replied, definite⟩ := rejected
  obtain ⟨id, before, record, now, _, _, _, here, becomes, same, call, fair⟩ :=
    trail.replied replied
  refine ⟨id, now, here, becomes.creates ⟨same, name, spec, call⟩, (becomes.refused.mp ?_).1⟩
  have refuses : x.isDefinite = true → record.fate = .refused := by
    cases x <;> first | exact fair | (cases definite)
  exact refuses definite

/-- Every lease goes by its own resource name. -/
theorem LeaseTrail.named (trail : LeaseTrail d callers K clock m) :
    ∀ row, Committed m.log row → row.resourceName = callers.names row.cleanupToken := by
  refine trail.always (P := fun _ row => row.resourceName = callers.names row.cleanupToken)
    (fun _ _ _ _ _ => id) (fun m m' i request evidence before move _ log => ?_)
    fun _ _ _ _ _ _ _ _ _ _ _ _ known => known
  exact (Move.act_of_log move log).1

/-- A create is made under the resource name of its lease. -/
theorem LeaseTrail.create_named (trail : LeaseTrail d callers K clock m) {id : Nat}
    {record : CallRecord} {name : String} {spec : Option CapacitySpec}
    (found : m.world.calls[id]? = some record) (call : record.call = .create name spec) :
    name = callers.names record.token := by
  obtain ⟨i, logged⟩ := trail.recorded found
  rw [call] at logged
  obtain ⟨later, earlier, split⟩ := List.append_of_mem logged
  obtain ⟨before, _, walked, log, permitted, _⟩ := trail.act_of_mem split
  obtain ⟨_, ⟨row, shown, same, is, _⟩, _⟩ := permitted
  rw [← log] at shown
  rw [← is, walked.named row (walked.consistent.committed shown), same]

/-- A Pod found under a lease's resource name was created for it. -/
theorem LeaseTrail.createdAs (trail : LeaseTrail d callers K clock m) {token pod : String}
    (found : m.world.createdAs (callers.names token) pod) : CreatedFor m.world token pod := by
  obtain ⟨record, member, accepted, named⟩ := found
  obtain ⟨id, there⟩ := List.mem_iff_getElem?.mp member
  split at named
  · rename_i name spec call
    have own := trail.create_named there call
    rw [own] at named
    exact ⟨id, record, there, ⟨callers.distinct named, name, spec, call⟩, accepted⟩
  · exact named.elim

/-- A Pod that a lookup recovered was created for the lease. -/
theorem LeaseTrail.recovered (trail : LeaseTrail d callers K clock m) {i : Nat}
    {token pod : String} {placement : Option RealizedPlacement} {catalog : Bool}
    (recovered : Recovered (m.log.of i) token pod placement catalog) :
    CreatedFor m.world token pod := by
  obtain ⟨row, shown, same, _, lookups⟩ := recovered
  have named := trail.named row (trail.consistent.committed shown)
  rw [same] at named
  rcases lookups with ⟨spec, _, replied⟩ | ⟨_, _, replied⟩
  · obtain ⟨id, before, record, now, walked, rest, _, _, _, _, _, fair⟩ := trail.replied replied
    have created := (fair _ rfl).1
    rw [named] at created
    exact Trail.createdFor rest (walked.createdAs created)
  · obtain ⟨id, before, record, now, walked, rest, _, _, _, _, _, fair⟩ := trail.replied replied
    have created := fair pod rfl
    rw [named] at created
    exact Trail.createdFor rest (walked.createdAs created)

/-- The writes that record a provider Pod. -/
inductive Write.RecordsPod : Write → String → Prop
  | createMismatch (pod : String) (t : Instant) : RecordsPod (.createMismatch pod t) pod
  | createAccepted (created : CreatedPod) (t : Instant) :
      RecordsPod (.createAccepted created t) created.providerPodId
  | adopted (pod : String) (placement : Option RealizedPlacement) (catalog : Bool) (t : Instant) :
      RecordsPod (.adopted pod placement catalog t) pod

theorem Write.RecordsPod.createdFor {write : Write} {cur : Lease} {pod : String} {i : Nat}
    (records : write.RecordsPod pod) (trail : LeaseTrail d callers K clock m)
    (guarded : write.Guard d callers (m.log.of i) cur) :
    CreatedFor m.world cur.cleanupToken pod := by
  cases records with
  | createMismatch pod t => exact trail.createAnswered guarded.2.2.1
  | createAccepted created t =>
      obtain ⟨name, spec, replied⟩ := guarded.2.2.1
      exact trail.createAnswered ⟨name, spec, _, replied, .inr ⟨created, rfl, rfl⟩⟩
  | adopted pod placement catalog t => exact trail.recovered guarded.2.1

/-- A write that records a Pod is one of those. -/
theorem Write.base_providerPodId {write : Write} {cur : Lease} {pod : String} {i : Nat}
    (guarded : write.Guard d callers (m.log.of i) cur)
    (sets : write.base.providerPodId = some pod) : write.RecordsPod pod := by
  cases write with
  | createMismatch pod t => cases sets; exact .createMismatch _ _
  | createAccepted created t => cases sets; exact .createAccepted _ _
  | adopted pod placement catalog t => cases sets; exact .adopted _ _ _ _
  | observed observation submitted t changes phases =>
      obtain ⟨_, spec, _, _, _, ok, _⟩ := guarded
      obtain ⟨handoff, observed⟩ := catalogObservationChanges_ok ok
      have sets : changes.providerPodId = some pod := sets
      rw [observed.others.1] at sets
      cases sets
  | _ => cases sets

/-- A Pod that a created lease records was created for it. -/
theorem LeaseTrail.pod_created (trail : LeaseTrail d callers K clock m) :
    ∀ row, Committed m.log row → row.source = .created → ∀ pod, row.providerPodId = some pod →
      CreatedFor m.world row.cleanupToken pod := by
  refine trail.always (P := fun m row => row.source = .created → ∀ pod,
      row.providerPodId = some pod → CreatedFor m.world row.cleanupToken pod)
    (fun m m' row _ move known created pod has =>
      Trail.createdFor (.single move) (known created pod has))
    (fun _ _ _ request _ _ _ _ _ created pod has => ?_) ?_
  · have absent := request.provenance.1.mp created
    have has : request.providerPodId = some pod := has
    rw [absent] at has
    cases has
  · intro m m' i cur write changes before move member guarded makes log known created pod has
    obtain ⟨evidence, rfl⟩ := makes.columns
    rw [Lease.apply_providerPodId] at has
    dsimp only at has
    refine Trail.createdFor (m := m) (.single move) ?_
    cases sets : write.base.providerPodId with
    | none =>
        rw [sets, Option.none_or] at has
        exact known created pod has
    | some pod' =>
        rw [sets, Option.some_or] at has
        cases has
        have for_ : CreatedFor m.world cur.cleanupToken pod :=
          (Write.base_providerPodId guarded sets).createdFor before guarded
        exact for_

/-- A Pod that was created has an id. -/
theorem LeaseTrail.pod_named (trail : LeaseTrail d callers K clock m) {token pod : String}
    (created : CreatedFor m.world token pod) : pod ≠ "" := by
  have known := Trail.invariant (P := fun m : Moment Effects World => ∀ record ∈ m.world.calls,
      (∃ name spec, record.call = .create name spec) → record.fate.accepted "" = false)
    trail (fun m m' known move => ?_) (by simp [World.empty])
  · obtain ⟨id, record, found, ⟨_, create⟩, accepted⟩ := created
    intro empty
    rw [empty, known record (List.mem_of_getElem? found) create] at accepted
    cases accepted
  · intro record member create
    cases move with
    | act i e permitted promised performed kept =>
        rcases perform_calls performed with ⟨token, call, _, _, _, calls⟩ | ⟨_, calls⟩
        · dsimp only at member
          rw [calls] at member
          rcases List.mem_append.mp member with old | new
          · exact known record old create
          · cases List.mem_singleton.mp new
            rfl
        · dsimp only at member
          rw [calls] at member
          exact known record member create
    | drift change drifted =>
        rcases drift_some drifted with ⟨amount, rfl⟩ | ⟨other, old, fate, there, next, rfl⟩
        · exact known record member create
        · rcases List.mem_or_eq_of_mem_set member with kept | rfl
          · exact known record kept create
          · have before := known old (List.mem_of_getElem? there) create
            cases next with
            | refused => rfl
            | accepted pod pending brings =>
                rcases brings with ⟨name, spec, _, named⟩ | ⟨count, call⟩
                · simpa [Fate.accepted] using named
                · obtain ⟨name, spec, is⟩ := create
                  dsimp only at is
                  rw [call] at is
                  cases is
            | ended pod live =>
                rw [live] at before
                exact before

end KestrelRunpod.Pod
