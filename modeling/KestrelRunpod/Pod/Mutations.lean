import KestrelRunpod.Pod.Success

/-!
# What the service does to Pods

A lease brings up at most one Pod: a created lease by its one create, a lease of an existing
Pod by its one start (`LeaseTrail.mutation_once`).  A start goes out for the Pod that the
reservation named, by the task that inserted the row, once that task has seen the Pod stopped
and has recorded that it will start it.

What the service starts, stops, terminates or observes for a lease is the lease's own Pod
(`OwnPod`): the one that its create brought up, or the one that its request named.
-/

namespace KestrelRunpod.Pod

open Interleave

variable {d : Digests} {callers : Callers} {K : Restriction Effects World} {clock : Instant}
  {write : Write} {cur : Lease} {changes : Changes} {m : Moment Effects World}

/-! ## Start intents -/

/-- The task saw the Pod of the row stopped. -/
def SawStopped (h : Past) (token pod : String) : Prop :=
  ∃ observation : PodObservation, Replied h token (.observe pod) (.ok observation) ∧
    observation.isStopped = true

/-- Only the start intent sets these columns, and leaves it certain that nothing was created. -/
theorem Write.base_startIntent {i : Nat} (guarded : write.Guard d callers (m.log.of i) cur)
    (provisional : write.base.ownership = some .provisional)
    (certain : write.base.creationUncertain = none) :
    Inserted (m.log.of i) cur ∧ cur.source ≠ .created ∧
      ∃ pod, cur.providerPodId = some pod ∧ SawStopped (m.log.of i) cur.cleanupToken pod := by
  cases write with
  | foundStopped t =>
      obtain ⟨inserted, existing, pod, observation, has, observed, stopped⟩ := guarded
      exact ⟨inserted, existing, pod, has, observation, observed, stopped⟩
  | observed observation submitted t changes phases =>
      obtain ⟨_, spec, _, _, _, ok, _⟩ := guarded
      obtain ⟨handoff, observed⟩ := catalogObservationChanges_ok ok
      have provisional : changes.ownership = some .provisional := provisional
      rw [observed.others.2.1] at provisional
      cases provisional
  | claimCreate t => cases certain
  | _ => cases provisional

/-- The start intent of a lease is its second version, written by the task that inserted the
first, over a Pod that it has seen stopped. -/
theorem LeaseTrail.intent_version (trail : LeaseTrail d callers K clock m) {i : Nat}
    {lease row : Lease} {t : Instant}
    (claimed : (i, (⟨.compareAndSet lease (foundStoppedChanges t), .ok row⟩ : Event Effects)) ∈
      m.log) :
    row.revision = 1 ∧ row.cleanupToken = lease.cleanupToken ∧ row.source ≠ .created ∧
      row.ownership = .provisional ∧ row.state = .starting ∧
      ∃ pod, row.providerPodId = some pod ∧ SawStopped (m.log.of i) row.cleanupToken pod := by
  obtain ⟨later, earlier, split⟩ := List.append_of_mem claimed
  obtain ⟨before, w', walked, log, permitted, performed, _, _⟩ := trail.act_of_mem split
  obtain ⟨_, write, guarded, makes⟩ := permitted
  rw [← log] at guarded
  obtain ⟨evidence, columns⟩ := makes.columns
  have provisional : write.base.ownership = some .provisional :=
    (congrArg Changes.ownership columns).symm
  have certain : write.base.creationUncertain = none :=
    (congrArg Changes.creationUncertain columns).symm
  obtain ⟨inserted, existing, pod, has, observation, observed, stopped⟩ :=
    Write.base_startIntent guarded provisional certain
  obtain ⟨request, evidence', is⟩ := walked.inserted_reserved inserted
  obtain ⟨rows, attempt, _⟩ := perform_compareAndSet.mp performed
  obtain ⟨current, member, token, revision, rfl, _⟩ := Rows.compareAndSet_ok attempt
  have committed : Committed before.log lease := by
    obtain ⟨request', logged⟩ := inserted
    exact ⟨i, _, Log.mem_of.mp logged, rfl⟩
  have own := walked.consistent.eq_current committed member token revision
  subst own
  have version : current.revision = 0 := by
    rw [is]
    rfl
  have onward : before.log.of i <:+ m.log.of i := by
    rw [log, split]
    exact Log.of_suffix ((List.suffix_cons _ _).trans (List.suffix_append _ _))
  exact ⟨by rw [Lease.apply_revision, version], token, existing, rfl, rfl, pod, has, observation,
    observed.mono onward, stopped⟩

/-- The call is a create or a start dispatched for the lease. -/
def CallRecord.bringsUp (record : CallRecord) (token : String) : Prop :=
  record.token = token ∧ record.call.mutatesUp = true

/-- The log dispatches the start of `pod`. -/
def startOf (token pod : String) (count id : Nat) : Event Effects :=
  ⟨.send token (.start pod count), id⟩

/-- A start is dispatched by the task that recorded the intent, after the intent, for the Pod of
the lease. -/
theorem LeaseTrail.start_claimed (trail : LeaseTrail d callers K clock m)
    {later earlier : Log Effects} {i id count : Nat} {token pod : String}
    (split : m.log = later ++ (i, startOf token pod count id) :: earlier) :
    ∃ lease t row, lease.cleanupToken = token ∧
      (i, (⟨.compareAndSet lease (foundStoppedChanges t), .ok row⟩ : Event Effects)) ∈ earlier ∧
      (∃ shown, Committed earlier shown ∧ shown.cleanupToken = token ∧
        shown.providerPodId = some pod ∧ shown.source ≠ .created) ∧
      ∀ pod' count' (id' : Nat), (i, startOf token pod' count' id') ∉ earlier := by
  obtain ⟨before, w', walked, log, permitted, _⟩ := trail.act_of_mem split
  obtain ⟨⟨lease, t, row, same, logged⟩, ⟨shown, seen, own, has, existing⟩, sole⟩ := permitted
  rw [← log] at seen
  refine ⟨lease, t, row, same, Log.mem_of.mp logged, ⟨shown, ?_, own, has, existing⟩,
    fun pod' count' id' sent => sole pod' count' id' (Log.mem_of.mpr sent)⟩
  rw [← log]
  exact walked.consistent.committed seen

/-- A start is dispatched at most once for each lease. -/
theorem LeaseTrail.start_once (trail : LeaseTrail d callers K clock m)
    {later earlier : Log Effects} {i id count : Nat} {token pod : String}
    (split : m.log = later ++ (i, startOf token pod count id) :: earlier) (j id' count' : Nat)
    (pod' : String) : (j, startOf token pod' count' id') ∉ earlier := by
  intro sent
  obtain ⟨lease, t, row, same, claimed, _, sole⟩ := trail.start_claimed split
  obtain ⟨between, start, split'⟩ := List.append_of_mem sent
  have onward : m.log = (later ++ (i, startOf token pod count id) :: between) ++
      (j, startOf token pod' count' id') :: start := by
    rw [split, split', List.append_assoc, List.cons_append]
  obtain ⟨lease', t', row', same', claimed', _⟩ := trail.start_claimed onward
  have inA : (i, (⟨.compareAndSet lease (foundStoppedChanges t), .ok row⟩ : Event Effects)) ∈
      m.log := by
    rw [split]
    exact List.mem_append_right _ (List.mem_cons_of_mem _ claimed)
  have inB : (j, (⟨.compareAndSet lease' (foundStoppedChanges t'), .ok row'⟩ : Event Effects)) ∈
      m.log := by
    rw [onward]
    exact List.mem_append_right _ (List.mem_cons_of_mem _ claimed')
  obtain ⟨revision, token_, _⟩ := trail.intent_version inA
  obtain ⟨revision', token', _⟩ := trail.intent_version inB
  have claims := trail.commit_once inA inB rfl rfl
    (token_.trans (same.trans (same'.symm.trans token'.symm))) (revision.trans revision'.symm)
  have task : i = j := congrArg Prod.fst claims
  subst task
  exact sole pod' count' id' sent

/-! ## One mutation for each lease -/

/-- Two entries of a log are one entry, or one of them comes first. -/
theorem Log.ordered {log : Log Effects} {a b : Nat × Event Effects} (inA : a ∈ log)
    (inB : b ∈ log) :
    a = b ∨ (∃ later earlier, log = later ++ a :: earlier ∧ b ∈ earlier) ∨
      ∃ later earlier, log = later ++ b :: earlier ∧ a ∈ earlier := by
  obtain ⟨later, earlier, split⟩ := List.append_of_mem inA
  rw [split] at inB
  rcases List.mem_append.mp inB with after | rest
  · obtain ⟨later', between, is⟩ := List.append_of_mem after
    refine .inr (.inr ⟨later', between ++ a :: earlier, ?_, ?_⟩)
    · rw [split, is, List.append_assoc, List.cons_append]
    · exact List.mem_append_right _ List.mem_cons_self
  · rcases List.mem_cons.mp rest with is | before
    · exact .inl is.symm
    · exact .inr (.inl ⟨later, earlier, split, before⟩)

/-- The source of a lease for which a call was dispatched. -/
theorem LeaseTrail.mutation_source (trail : LeaseTrail d callers K clock m) {id : Nat}
    {record : CallRecord} (found : m.world.calls[id]? = some record) :
    (∀ name spec, record.call = .create name spec → ∃ row, Committed m.log row ∧
      row.cleanupToken = record.token ∧ row.source = .created) ∧
    ∀ pod count, record.call = .start pod count → ∃ row, Committed m.log row ∧
      row.cleanupToken = record.token ∧ row.source ≠ .created ∧ row.providerPodId = some pod := by
  obtain ⟨i, logged⟩ := trail.recorded found
  obtain ⟨later, earlier, split⟩ := List.append_of_mem logged
  have onward : earlier <:+ m.log := by
    rw [split]
    exact (List.suffix_cons _ _).trans (List.suffix_append _ _)
  refine ⟨fun name spec call => ?_, fun pod count call => ?_⟩
  · rw [call] at split
    obtain ⟨before, _, walked, log, permitted, _⟩ := trail.act_of_mem split
    obtain ⟨_, _, ⟨row, shown, same, created⟩, _⟩ := permitted
    rw [← log] at shown onward
    exact ⟨row, (walked.consistent.committed shown).mono onward, same, created⟩
  · rw [call] at split
    obtain ⟨_, _, _, _, _, ⟨row, committed, same, has, existing⟩, _⟩ := trail.start_claimed split
    exact ⟨row, committed.mono onward, same, existing, has⟩

/-- A lease is not both created and of an existing Pod. -/
theorem LeaseTrail.one_source (trail : LeaseTrail d callers K clock m) {a b : Lease}
    (inA : Committed m.log a) (inB : Committed m.log b)
    (same : a.cleanupToken = b.cleanupToken) (created : a.source = .created)
    (existing : b.source ≠ .created) : False :=
  existing ((trail.sameIdentity inA inB same).source.symm.trans created)

/-- Two calls that bring up capacity for one lease are one call. -/
theorem LeaseTrail.mutation_once (trail : LeaseTrail d callers K clock m) {id id' : Nat}
    {record record' : CallRecord} {token : String}
    (found : m.world.calls[id]? = some record) (found' : m.world.calls[id']? = some record')
    (brings : record.bringsUp token) (brings' : record'.bringsUp token) : id = id' := by
  obtain ⟨own, up⟩ := brings
  obtain ⟨own', up'⟩ := brings'
  obtain ⟨i, sent⟩ := trail.recorded found
  obtain ⟨j, sent'⟩ := trail.recorded found'
  have source := trail.mutation_source found
  have source' := trail.mutation_source found'
  rw [own] at sent source
  rw [own'] at sent' source'
  cases call : record.call with
  | create name spec =>
      obtain ⟨row, committed, same, created⟩ := source.1 name spec call
      cases call' : record'.call with
      | create name' spec' =>
          rw [call] at sent
          rw [call'] at sent'
          exact trail.create_id sent sent'
      | start pod' count' =>
          obtain ⟨row', committed', same', existing, _⟩ := source'.2 pod' count' call'
          exact (trail.one_source committed committed' (same.trans same'.symm) created
            existing).elim
      | _ => rw [call'] at up'; cases up'
  | start pod count =>
      obtain ⟨row, committed, same, existing, _⟩ := source.2 pod count call
      cases call' : record'.call with
      | create name' spec' =>
          obtain ⟨row', committed', same', created⟩ := source'.1 name' spec' call'
          exact (trail.one_source committed' committed (same'.trans same.symm) created
            existing).elim
      | start pod' count' =>
          rw [call] at sent
          rw [call'] at sent'
          rcases Log.ordered sent sent' with is | ⟨later, earlier, split, before⟩ |
            ⟨later, earlier, split, before⟩
          · cases is
            rfl
          · exact absurd before (trail.start_once split j id' count' pod')
          · exact absurd before (trail.start_once split i id count pod)
      | _ => rw [call'] at up'; cases up'
  | _ => rw [call] at up; cases up

/-! ## Own Pods -/

/-- The Pod that a call acts on. -/
def Call.target : Call → Option String
  | .observe pod => some pod
  | .start pod _ => some pod
  | .stop pod => some pod
  | .terminate pod => some pod
  | _ => none

/-- The call takes a Pod down. -/
def Call.tearsDown : Call → Bool
  | .stop _ => true
  | .terminate _ => true
  | _ => false

/-- The Pod is the lease's own: its create brought it up, or its request named it and every
version of the row records it. -/
inductive OwnPod (m : Moment Effects World) (token pod : String) : Prop
  | created : CreatedFor m.world token pod → OwnPod m token pod
  | named (row : Lease) : Committed m.log row → row.cleanupToken = token →
      (∀ row, Committed m.log row → row.cleanupToken = token →
        row.source ≠ .created ∧ row.providerPodId = some pod) → OwnPod m token pod

/-- A Pod that was created for a lease makes it a created one. -/
theorem LeaseTrail.createdFor_source (trail : LeaseTrail d callers K clock m) {token pod : String}
    (created : CreatedFor m.world token pod) :
    ∃ row, Committed m.log row ∧ row.cleanupToken = token ∧ row.source = .created := by
  obtain ⟨id, record, found, ⟨own, name, spec, call⟩, _⟩ := created
  obtain ⟨row, committed, same, source⟩ := (trail.mutation_source found).1 name spec call
  exact ⟨row, committed, same.trans own, source⟩

/-- A lease of an existing Pod keeps the Pod of its request. -/
theorem LeaseTrail.named_kept (trail : LeaseTrail d callers K clock m) :
    Since (fun old now => old.source ≠ .created → now.source = old.source ∧
      now.providerPodId = old.providerPodId) m := by
  refine trail.since (fun _ _ => ⟨rfl, rfl⟩) (fun a b c ab bc existing => ?_) ?_
  · obtain ⟨source, pod⟩ := ab existing
    obtain ⟨source', pod'⟩ := bc (by rwa [source])
    exact ⟨source'.trans source, pod'.trans pod⟩
  · intro m m' i cur write changes before _ member guarded makes _ existing
    refine ⟨rfl, ?_⟩
    obtain ⟨evidence, rfl⟩ := makes.columns
    rw [Lease.apply_providerPodId]
    dsimp only
    cases sets : write.base.providerPodId with
    | none => rw [Option.none_or]
    | some pod =>
        have brought := (Write.base_providerPodId guarded sets).createdFor before guarded
        obtain ⟨row, committed, same, created⟩ := before.createdFor_source brought
        exact (before.one_source committed (before.consistent.current cur member) same created
          existing).elim

/-- A Pod that some version of a lease records is the lease's own. -/
theorem LeaseTrail.ownPod (trail : LeaseTrail d callers K clock m) {row : Lease} {pod : String}
    (committed : Committed m.log row) (has : row.providerPodId = some pod) :
    OwnPod m row.cleanupToken pod := by
  by_cases created : row.source = .created
  · exact .created (trail.pod_created row committed created pod has)
  · refine .named row committed rfl fun other committed' same => ?_
    have existing : other.source ≠ .created := fun created' =>
      trail.one_source committed' committed same created' created
    obtain ⟨now, member, token⟩ := trail.consistent.present committed
    obtain ⟨_, first⟩ := trail.named_kept row committed now member token created
    obtain ⟨_, second⟩ := trail.named_kept other committed' now member (token.trans same.symm)
      existing
    exact ⟨existing, second.symm.trans (first.trans has)⟩

/-- What a task knows when it acts on a Pod: the row that names the Pod, and, to take it down, the
release that asks for it. -/
theorem PermitsCall.targets {h : Past} {token : String} {call : Call} {pod : String}
    (permitted : PermitsCall h token call) (target : call.target = some pod) :
    (Known h token fun row => row.providerPodId = some pod) ∧
      (call.tearsDown = true → Known h token fun row => row.state = .releasing) := by
  cases call with
  | observe id =>
      cases target
      exact ⟨permitted, fun impossible => by cases impossible⟩
  | start id count =>
      cases target
      obtain ⟨_, ⟨row, shown, same, has, _⟩, _⟩ := permitted
      exact ⟨⟨row, shown, same, has⟩, fun impossible => by cases impossible⟩
  | stop id =>
      cases target
      obtain ⟨releasing, row, shown, same, _, has⟩ := permitted
      exact ⟨⟨row, shown, same, has⟩, fun _ => releasing⟩
  | terminate id =>
      cases target
      obtain ⟨releasing, row, shown, same, _, has⟩ := permitted
      exact ⟨⟨row, shown, same, has⟩, fun _ => releasing⟩
  | _ => cases target

/-- The service acts on own Pods only.  In every run, however its tasks interleave: for each
lease at most one create or start is dispatched; a start is dispatched by a task that has seen
the Pod stopped, after the intent to start it was recorded on the row; whatever is observed,
started, stopped or terminated for a lease is the Pod that its create brought up or that its
request named, and it is taken down only once the release of the lease is on record. -/
theorem own_pods_only {c : Config Effects Exn World}
    (run : ServiceRun d callers anyMove clock c) :
    (∀ (id id' : Nat) record record' token, c.world.calls[id]? = some record →
      c.world.calls[id']? = some record' → record.bringsUp token → record'.bringsUp token →
      id = id') ∧
    (∀ (later earlier : Log Effects) i token pod count id,
      c.log = later ++ (i, startOf token pod count id) :: earlier →
      SawStopped (earlier.of i) token pod ∧ ∃ intent, Committed earlier intent ∧
        intent.cleanupToken = token ∧ intent.ownership = .provisional ∧
        intent.state = .starting ∧ intent.providerPodId = some pod) ∧
    ∀ (later earlier : Log Effects) i token (call : Call) pod (id : Nat),
      call.target = some pod →
      c.log = later ++ (i, (⟨.send token call, id⟩ : Event Effects)) :: earlier →
      OwnPod c.moment token pod ∧
        (call.tearsDown = true → ∃ row, Committed earlier row ∧ row.cleanupToken = token ∧
          row.state = .releasing) := by
  have trail := run.trail
  refine ⟨fun id id' record record' token found found' => trail.mutation_once found found',
    fun later earlier i token pod count id split => ?_,
    fun later earlier i token call pod id target split => ?_⟩
  · obtain ⟨before, _, walked, log, _⟩ := trail.act_of_mem split
    obtain ⟨lease, t, intent, same, claimed, ⟨row, shown, own, has, existing⟩, _⟩ :=
      trail.start_claimed split
    rw [← log] at claimed shown
    obtain ⟨_, token_, existing', provisional, starting, pod', has', stopped⟩ :=
      walked.intent_version claimed
    have committed : Committed before.log intent := ⟨i, _, claimed, rfl⟩
    have named : intent.cleanupToken = token := token_.trans same
    -- The intent and the row that names the started Pod are versions of one lease.
    obtain ⟨now, member, current⟩ := walked.consistent.present committed
    obtain ⟨_, first⟩ := walked.named_kept intent committed now member current existing'
    obtain ⟨_, second⟩ := walked.named_kept row shown now member
      (current.trans (named.trans own.symm)) existing
    have is : some pod' = some pod := has'.symm.trans (first.symm.trans (second.trans has))
    cases is
    rw [named] at stopped
    rw [log] at stopped committed
    exact ⟨stopped, intent, committed, named, provisional, starting, has'⟩
  · obtain ⟨before, _, walked, log, permitted, _⟩ := trail.act_of_mem split
    obtain ⟨⟨row, shown, same, has⟩, releasing⟩ := PermitsCall.targets permitted target
    rw [← log] at shown releasing
    have onward : before.log <:+ c.log := by
      rw [log, split]
      exact (List.suffix_cons _ _).trans (List.suffix_append _ _)
    refine ⟨?_, fun down => ?_⟩
    · rw [← same]
      exact trail.ownPod ((walked.consistent.committed shown).mono onward) has
    · obtain ⟨asked, seen, same', state⟩ := releasing down
      exact ⟨asked, by rw [← log]; exact walked.consistent.committed seen, same', state⟩

/-! ### The reuse of a stopped Pod -/

section

open Sample

def reuse : PodRequest where
  cleanupToken := "lease-00001"
  companionId := "owner-0001"
  profileId := "profile-1"
  source := .stoppedReuse
  resourceName := "lease-00001"
  providerPodId := some "pod-00002"
  createdAt := seconds 200
  readinessDeadline := seconds 2000
  hardDeadline := seconds 8000
  rootCleanupToken := "lease-00001"
  capacitySpec := none
  checked := by decide +kernel

theorem reuses : Admits digests agreed (acquire service reuse).void := by
  refine .acquire service reuse configured ?_
  have other : reuse.cleanupToken ≠ request.resourceName digests := by decide +kernel
  exact (Equiv.swap_apply_of_ne_of_ne (by decide) other).symm

/-- A provider that shows the Pod stopped. -/
def showsStopped : (call : Call) → Option (Except Exn call.Value)
  | .observe _ => some (.ok ⟨"EXITED", none⟩)
  | _ => none

/-- Reserve the stopped Pod, find it stopped, and start it. -/
def reused : Schedule digests agreed :=
  [.spawn 0 _ reuses, runs 0 9, gets 0 showsStopped, runs 0 9]

/-- The event is the start of this Pod for this lease. -/
def starts : Event Effects → Bool
  | ⟨.send token (.start pod _), _⟩ => token = "lease-00001" && pod = "pod-00002"
  | _ => false

theorem starts_eq_true {e : Event Effects} (is : starts e = true) :
    ∃ count id, e = startOf "lease-00001" "pod-00002" count id := by
  unfold starts at is
  split at is
  · simp only [Bool.and_eq_true, decide_eq_true_eq] at is
    obtain ⟨rfl, rfl⟩ := is
    exact ⟨_, _, rfl⟩
  · cases is

/-- The stopped Pod was started for the lease that named it. -/
theorem own_pods_only_reused :
    ∃ (c : Config Effects Exn World) (later earlier : Log Effects) (i count id : Nat),
      ServiceRun digests agreed anyMove (seconds 250) c ∧
      c.log = later ++ (i, startOf "lease-00001" "pod-00002" count id) :: earlier ∧
      SawStopped (earlier.of i) "lease-00001" "pod-00002" ∧
      OwnPod c.moment "lease-00001" "pod-00002" := by
  obtain ⟨c, run, checked⟩ := exhibits reused anyMove (seconds 250)
    (fun c => c.log.any fun entry => starts entry.2) (by decide +kernel)
  obtain ⟨⟨i, e⟩, logged, is⟩ := List.any_eq_true.mp checked
  obtain ⟨count, id, rfl⟩ := starts_eq_true is
  obtain ⟨later, earlier, split⟩ := List.append_of_mem logged
  obtain ⟨_, started, targeted⟩ := own_pods_only run
  exact ⟨c, later, earlier, i, count, id, run, split,
    (started later earlier i _ _ count id split).1,
    (targeted later earlier i _ _ _ id rfl split).1⟩

end

end KestrelRunpod.Pod
