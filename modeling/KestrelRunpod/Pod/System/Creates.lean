import KestrelRunpod.Pod.System.Invariants

/-!
# One create for each lease

A version of a row is committed once (`LeaseTrail.commit_latest`), so the create claim, which
is the second version of its lease, is written once.  A create is dispatched by the task that
wrote the claim, and by that task once, so in every trail a lease has at most one create
(`LeaseTrail.create_once`) and at most one Pod that was created for it
(`LeaseTrail.created_unique`).
-/

namespace KestrelRunpod.Pod

open Interleave

variable {d : Digests} {callers : Callers} {K : Restriction Effects World} {clock : Instant}
  {write : Write} {cur : Lease} {changes : Changes} {m : Moment Effects World}

/-! ## Versions are committed once -/

/-- A committed row is newer than every version of its lease that was committed before. -/
theorem LeaseTrail.commit_latest (trail : LeaseTrail d callers K clock m)
    {later earlier : Log Effects} {i : Nat} {e : Event Effects} {row old : Lease}
    (split : m.log = later ++ (i, e) :: earlier) (commit : commits row e)
    (committed : Committed earlier old) (same : old.cleanupToken = row.cleanupToken) :
    old.revision < row.revision := by
  obtain ⟨before, w', walked, log, permitted, performed, _, _⟩ := trail.act_of_mem split
  rw [← log] at committed
  obtain ⟨now, member, token, bound, _⟩ := walked.consistent.latest old committed
  obtain ⟨op, reply⟩ := e
  cases op with
  | reserve request =>
      have inserted : reply = .ok (row, true) := commit
      subst inserted
      obtain ⟨rows, attempt, rfl⟩ := perform_reserve.mp performed
      obtain ⟨absent, _⟩ := Rows.reserve_inserted attempt
      exact absurd (token.trans same) (absent now member)
  | compareAndSet lease changes =>
      have updated : reply = .ok row := commit
      subst updated
      obtain ⟨rows, attempt, rfl⟩ := perform_compareAndSet.mp performed
      obtain ⟨current, there, _, _, rfl, _⟩ := Rows.compareAndSet_ok attempt
      have is : now = current :=
        walked.consistent.unique now member current there (token.trans same)
      subst is
      rw [Lease.apply_revision]
      exact Nat.lt_succ_of_le bound
  | _ => cases commit

/-- Two entries of the log that commit the same version are the same entry. -/
theorem LeaseTrail.commit_once (trail : LeaseTrail d callers K clock m)
    {a b : Nat × Event Effects} {row row' : Lease} (inA : a ∈ m.log) (inB : b ∈ m.log)
    (first : commits row a.2) (second : commits row' b.2)
    (same : row.cleanupToken = row'.cleanupToken) (revision : row.revision = row'.revision) :
    a = b := by
  by_contra apart
  obtain ⟨later, earlier, split⟩ := List.append_of_mem inA
  rw [split] at inB
  rcases List.mem_append.mp inB with after | rest
  · obtain ⟨later', between, is⟩ := List.append_of_mem after
    have split' : m.log = later' ++ b :: (between ++ a :: earlier) := by
      rw [split, is, List.append_assoc, List.cons_append]
    have committed : Committed (between ++ a :: earlier) row :=
      ⟨a.1, a.2, List.mem_append_right _ List.mem_cons_self, first⟩
    have newer := trail.commit_latest split' second committed same
    omega
  · rcases List.mem_cons.mp rest with is | before
    · exact apart is.symm
    · have committed : Committed earlier row' := ⟨b.1, b.2, before, second⟩
      have newer := trail.commit_latest split first committed same.symm
      omega

/-! ## Create claims -/

/-- Only the create claim sets these columns. -/
theorem Write.base_claim {i : Nat} (guarded : write.Guard d callers (m.log.of i) cur)
    (uncertain : write.base.creationUncertain = some true)
    (starting : write.base.state = some .starting) :
    Inserted (m.log.of i) cur ∧ cur.source = .created := by
  cases write with
  | claimCreate t => exact guarded
  | observed observation submitted t changes phases =>
      obtain ⟨_, spec, _, _, _, ok, _⟩ := guarded
      obtain ⟨handoff, observed⟩ := catalogObservationChanges_ok ok
      have uncertain : changes.creationUncertain = some true := uncertain
      rw [observed.others.2.2.1] at uncertain
      cases uncertain
  | retryable x t uncertain' => cases starting
  | _ => cases uncertain

/-- The create claim of a lease is its second version, and says that a create may be on its
way. -/
theorem LeaseTrail.claim_version (trail : LeaseTrail d callers K clock m) {i : Nat}
    {lease row : Lease} {t : Instant}
    (claimed : (i, (⟨.compareAndSet lease (claimCreateChanges t), .ok row⟩ : Event Effects)) ∈
      m.log) :
    row.revision = 1 ∧ row.cleanupToken = lease.cleanupToken ∧ row.creationUncertain = true ∧
      row.source = .created := by
  obtain ⟨later, earlier, split⟩ := List.append_of_mem claimed
  obtain ⟨before, w', walked, log, permitted, performed, _, _⟩ := trail.act_of_mem split
  obtain ⟨_, write, guarded, makes⟩ := permitted
  rw [← log] at guarded
  obtain ⟨evidence, columns⟩ := makes.columns
  have uncertain : write.base.creationUncertain = some true :=
    (congrArg Changes.creationUncertain columns).symm
  have starting : write.base.state = some .starting :=
    (congrArg Changes.state columns).symm
  obtain ⟨inserted, created⟩ := Write.base_claim guarded uncertain starting
  obtain ⟨request, evidence', is⟩ := walked.inserted_reserved inserted
  obtain ⟨rows, attempt, _⟩ := perform_compareAndSet.mp performed
  obtain ⟨current, member, token, revision, rfl, _⟩ := Rows.compareAndSet_ok attempt
  have version : current.revision = 0 := by
    rw [revision, is]
    rfl
  have committed : Committed before.log lease := by
    obtain ⟨request', logged⟩ := inserted
    exact ⟨i, _, Log.mem_of.mp logged, rfl⟩
  have own := walked.consistent.eq_current committed member token revision
  refine ⟨by rw [Lease.apply_revision, version], token, rfl, ?_⟩
  rw [Lease.apply_source, own]
  exact created

/-- A create is dispatched by the task that wrote the claim of its lease, after the claim. -/
theorem LeaseTrail.create_claimed (trail : LeaseTrail d callers K clock m)
    {later earlier : Log Effects} {i id : Nat} {token name : String}
    {spec : Option CapacitySpec}
    (split : m.log = later ++ (i, (⟨.send token (.create name spec), id⟩ : Event Effects)) ::
      earlier) :
    ∃ lease t row, lease.cleanupToken = token ∧
      (i, (⟨.compareAndSet lease (claimCreateChanges t), .ok row⟩ : Event Effects)) ∈ earlier ∧
      ∀ name' spec' (id' : Nat),
        (i, (⟨.send token (.create name' spec'), id'⟩ : Event Effects)) ∉ earlier := by
  obtain ⟨before, w', walked, log, permitted, _⟩ := trail.act_of_mem split
  obtain ⟨⟨lease, t, row, same, logged⟩, _, _, sole⟩ := permitted
  refine ⟨lease, t, row, same, Log.mem_of.mp logged, fun name' spec' id' sent => ?_⟩
  exact sole name' spec' id' (Log.mem_of.mpr sent)

/-- A create is dispatched at most once for each lease. -/
theorem LeaseTrail.create_once (trail : LeaseTrail d callers K clock m)
    {later earlier : Log Effects} {i id : Nat} {token name : String}
    {spec : Option CapacitySpec}
    (split : m.log = later ++ (i, (⟨.send token (.create name spec), id⟩ : Event Effects)) ::
      earlier) (j id' : Nat) (name' : String) (spec' : Option CapacitySpec) :
    (j, (⟨.send token (.create name' spec'), id'⟩ : Event Effects)) ∉ earlier := by
  intro sent
  obtain ⟨lease, t, row, same, claimed, sole⟩ := trail.create_claimed split
  obtain ⟨between, start, split'⟩ := List.append_of_mem sent
  have onward : m.log = (later ++ (i, (⟨.send token (.create name spec), id⟩ : Event Effects)) ::
      between) ++ (j, ⟨.send token (.create name' spec'), id'⟩) :: start := by
    rw [split, split', List.append_assoc, List.cons_append]
  obtain ⟨lease', t', row', same', claimed', _⟩ := trail.create_claimed onward
  have inA : (i, (⟨.compareAndSet lease (claimCreateChanges t), .ok row⟩ : Event Effects)) ∈
      m.log := by
    rw [split]
    exact List.mem_append_right _ (List.mem_cons_of_mem _ claimed)
  have inB : (j, (⟨.compareAndSet lease' (claimCreateChanges t'), .ok row'⟩ : Event Effects)) ∈
      m.log := by
    rw [onward]
    exact List.mem_append_right _ (List.mem_cons_of_mem _ claimed')
  obtain ⟨revision, token_, _⟩ := trail.claim_version inA
  obtain ⟨revision', token', _⟩ := trail.claim_version inB
  have claims := trail.commit_once inA inB rfl rfl
    (token_.trans (same.trans (same'.symm.trans token'.symm))) (revision.trans revision'.symm)
  have task : i = j := congrArg Prod.fst claims
  subst task
  exact sole name' spec' id' sent

/-- Two creates dispatched for a lease are one call. -/
theorem LeaseTrail.create_id (trail : LeaseTrail d callers K clock m) {i j id id' : Nat}
    {token name name' : String} {spec spec' : Option CapacitySpec}
    (sent : (i, (⟨.send token (.create name spec), id⟩ : Event Effects)) ∈ m.log)
    (sent' : (j, (⟨.send token (.create name' spec'), id'⟩ : Event Effects)) ∈ m.log) :
    id = id' := by
  obtain ⟨later, earlier, split⟩ := List.append_of_mem sent
  rw [split] at sent'
  rcases List.mem_append.mp sent' with after | rest
  · obtain ⟨later', between, is⟩ := List.append_of_mem after
    have onward : m.log = later' ++
        (j, (⟨.send token (.create name' spec'), id'⟩ : Event Effects)) ::
          (between ++ (i, ⟨.send token (.create name spec), id⟩) :: earlier) := by
      rw [split, is, List.append_assoc, List.cons_append]
    exact absurd (List.mem_append_right _ List.mem_cons_self)
      (trail.create_once onward i id name spec)
  · rcases List.mem_cons.mp rest with is | before
    · cases is
      rfl
    · exact absurd before (trail.create_once split j id' name' spec')

/-! ## Created Pods -/

/-- A call is accepted as one Pod. -/
theorem Fate.accepted_unique {fate : Fate} {pod pod' : String} (first : fate.accepted pod = true)
    (second : fate.accepted pod' = true) : pod = pod' := by
  cases fate with
  | live p => exact (of_decide_eq_true first).symm.trans (of_decide_eq_true second)
  | ended p => exact (of_decide_eq_true first).symm.trans (of_decide_eq_true second)
  | pending => cases first
  | refused => cases first

/-- At most one Pod was created for a lease. -/
theorem LeaseTrail.created_unique (trail : LeaseTrail d callers K clock m) {token pod pod' : String}
    (created : CreatedFor m.world token pod) (created' : CreatedFor m.world token pod') :
    pod = pod' := by
  obtain ⟨id, record, found, ⟨own, name, spec, call⟩, accepted⟩ := created
  obtain ⟨id', record', found', ⟨own', name', spec', call'⟩, accepted'⟩ := created'
  obtain ⟨i, sent⟩ := trail.recorded found
  obtain ⟨j, sent'⟩ := trail.recorded found'
  rw [own, call] at sent
  rw [own', call'] at sent'
  have same : id = id' := trail.create_id sent sent'
  subst same
  rw [found] at found'
  cases found'
  exact Fate.accepted_unique accepted accepted'

end KestrelRunpod.Pod
