import KestrelRunpod.Pod.Conformance.Reconcile

/-!
# The store along a run

Every run of the service is a trail of its contract (`ServiceRun.trail`).  Along a trail the
store keeps one current version of every lease, a row that a task was ever shown is a version
that was committed, and a compare-and-set that succeeds has read the current version
(`Consistent`).  A move therefore leaves the store alone, inserts one reserved row, or applies
one warranted write to a current row (`Move.change`).

`LeaseTrail.since` turns what each such write guarantees about the row before and after it
into a fact about every earlier version and the current one.
-/

namespace KestrelRunpod.Pod

open Interleave

/-! ## Rows -/

namespace Rows

variable {rows : Rows} {row other : Lease} {token : String}

theorem get_some (found : rows.get token = some row) :
    row ∈ rows ∧ row.cleanupToken = token :=
  ⟨List.mem_of_find?_eq_some found, by simpa using List.find?_some found⟩

theorem get_none (absent : rows.get token = none) (member : row ∈ rows) :
    row.cleanupToken ≠ token := by
  have none := List.find?_eq_none.mp absent row member
  simpa using none

theorem mem_put : other ∈ rows.put row ↔
    (other ∈ rows ∧ other.cleanupToken ≠ row.cleanupToken) ∨
      (other = row ∧ ∃ old ∈ rows, old.cleanupToken = row.cleanupToken) := by
  simp only [put, List.mem_map]
  constructor
  · rintro ⟨old, member, rfl⟩
    by_cases same : old.cleanupToken = row.cleanupToken
    · rw [if_pos same]
      exact .inr ⟨rfl, old, member, same⟩
    · rw [if_neg same]
      exact .inl ⟨member, same⟩
  · rintro (⟨member, different⟩ | ⟨rfl, old, member, same⟩)
    · exact ⟨other, member, if_neg different⟩
    · exact ⟨old, member, if_pos same⟩

theorem mem_ordered : row ∈ ordered rows ↔ row ∈ rows := by
  rw [ordered, List.mem_mergeSort]

end Rows

/-! ## From runs to trails -/

variable {d : Digests} {callers : Callers} {K : Restriction Effects World}
  {clock : Instant}

/-- The reply to a compare-and-set, when it succeeds. -/
theorem Rows.compareAndSet_ok {rows rows' : Rows} {lease row : Lease} {changes : Changes}
    (ok : rows.compareAndSet lease changes = (rows', .ok row)) :
    ∃ current ∈ rows, current.cleanupToken = lease.cleanupToken ∧
      current.revision = lease.revision ∧ row = current.apply changes ∧
      rows' = rows.put row ∧ ∀ other ∈ rows, ¬ Rows.clash row other := by
  unfold compareAndSet at ok
  split at ok
  · cases ok
  · rename_i current found
    obtain ⟨member, same⟩ := get_some found
    split at ok
    · cases ok
    · rename_i revision
      rw [ne_eq, Classical.not_not] at revision
      dsimp only at ok
      split at ok
      · cases ok
      · rename_i apart
        cases ok
        exact ⟨current, member, same, revision, rfl, rfl, fun other there clash =>
          apart ⟨other, there, clash⟩⟩

theorem Rows.compareAndSet_error {rows rows' : Rows} {lease : Lease} {changes : Changes}
    {x : Exn} (failed : rows.compareAndSet lease changes = (rows', .error x)) :
    rows' = rows ∧ x.isConflict = true := by
  unfold compareAndSet at failed
  split at failed
  · cases failed
    exact ⟨rfl, rfl⟩
  · split at failed
    · cases failed
      exact ⟨rfl, rfl⟩
    · dsimp only at failed
      split at failed
      · cases failed
        exact ⟨rfl, rfl⟩
      · cases failed

/-- The reply to a reservation that inserted its row. -/
theorem Rows.reserve_inserted {rows rows' : Rows} {request : PodRequest} {row : Lease}
    (ok : rows.reserve d request = (rows', .ok (row, true))) :
    (∀ other ∈ rows, other.cleanupToken ≠ row.cleanupToken) ∧ rows' = rows ++ [row] ∧
      row.cleanupToken = request.cleanupToken ∧
      (∃ evidence,
        request.capacitySpec.mapM (PodCapacityEvidence.fromSpec request.resourceName) =
          .ok evidence ∧ row = reserved d request evidence) ∧
      ∀ other ∈ rows, ¬ Rows.clash row other := by
  unfold reserve at ok
  split at ok
  · cases ok
  · rename_i evidence built
    dsimp only at ok
    split at ok
    · cases ok
    · split at ok
      · cases ok
      · split at ok
        · split at ok <;> cases ok
        · rename_i absent
          split at ok
          · cases ok
          · rename_i apart
            cases ok
            exact ⟨fun other member => get_none absent member, rfl, rfl,
              ⟨evidence, built, rfl⟩, fun other there clash => apart ⟨other, there, clash⟩⟩

/-- Any other reply to a reservation leaves the rows alone, and shows a stored row. -/
theorem Rows.reserve_kept {rows rows' : Rows} {request : PodRequest}
    {reply : Except Exn (Lease × Bool)} (done : rows.reserve d request = (rows', reply))
    (kept : ∀ row, reply ≠ .ok (row, true)) :
    rows' = rows ∧ ∀ row, reply = .ok (row, false) →
      row ∈ rows ∧ row.cleanupToken = request.cleanupToken := by
  unfold reserve at done
  split at done
  · cases done
    exact ⟨rfl, by simp⟩
  · dsimp only at done
    split at done
    · cases done
      exact ⟨rfl, by simp⟩
    · split at done
      · cases done
        exact ⟨rfl, by simp⟩
      · split at done
        · rename_i existing found
          split at done
          · cases done
            exact ⟨rfl, by simp⟩
          · cases done
            refine ⟨rfl, fun row is => ?_⟩
            cases is
            exact get_some found
        · split at done
          · cases done
            exact ⟨rfl, by simp⟩
          · cases done
            exact absurd rfl (kept _)

/-- The world keeps what a task may rely on in a reply. -/
theorem perform_promises {w w' : World} {e : Event Effects}
    (performed : perform d w e = some w') : Promises d e := by
  obtain ⟨op, reply⟩ := e
  cases op with
  | reserve request =>
      obtain ⟨rows, attempt, _⟩ := perform_reserve.mp performed
      rintro row inserted rfl
      cases inserted with
      | true =>
          obtain ⟨_, _, same, ⟨evidence, _, is⟩, _⟩ := Rows.reserve_inserted attempt
          exact ⟨same, fun _ => ⟨evidence, is⟩⟩
      | false =>
          obtain ⟨_, existing⟩ := Rows.reserve_kept attempt (by simp)
          exact ⟨(existing row rfl).2, by simp⟩
  | get token =>
      rintro row rfl
      exact (Rows.get_some (perform_get.mp performed).1).2
  | compareAndSet lease changes =>
      obtain ⟨rows, attempt, _⟩ := perform_compareAndSet.mp performed
      rintro row rfl
      obtain ⟨current, _, same, revision, is, _⟩ := Rows.compareAndSet_ok attempt
      exact ⟨current, same, revision, is⟩
  | mergeEvidence evidence update => exact (perform_mergeEvidence.mp performed).1
  | listCleanupFamily root legacy => trivial
  | listIncompleteFamilyReleases => trivial
  | listForReconciliation => trivial
  | now => trivial
  | send token call => trivial
  | recv id call => trivial
  | joined => trivial

/-- Runs of any number of service tasks over an empty store, under a restriction. -/
abbrev ServiceRun (d : Digests) (callers : Callers) (K : Restriction Effects World)
    (clock : Instant) (c : Config Effects Exn World) : Prop :=
  Run (runtime d) (Admits d callers) K (Config.initial Effects Exn (World.empty clock)) c

/-- Trails of the contract over an empty store. -/
abbrev LeaseTrail (d : Digests) (callers : Callers) (K : Restriction Effects World)
    (clock : Instant) (m : Moment Effects World) : Prop :=
  Trail (runtime d) (leaseContract d callers) K ⟨World.empty clock, []⟩ m

/-- One move of the contract. -/
abbrev LeaseMove (d : Digests) (callers : Callers) (K : Restriction Effects World) :
    Moment Effects World → Moment Effects World → Prop :=
  Move (runtime d) (leaseContract d callers) K

/-- Every run of the service is a trail of its contract. -/
theorem ServiceRun.trail {c : Config Effects Exn World}
    (run : ServiceRun d callers K clock c) : LeaseTrail d callers K clock c.moment :=
  (Run.trail (fun _ admits => admits.safe) (fun _ _ _ performed => perform_promises performed)
    (Config.initial_lawful _) run).2

/-- Every operation of a trail was permitted and performed at some moment of it. -/
theorem LeaseTrail.act_of_mem {m : Moment Effects World} {later earlier : Log Effects} {i : Nat}
    {e : Event Effects} (trail : LeaseTrail d callers K clock m)
    (split : m.log = later ++ (i, e) :: earlier) :
    ∃ before w', LeaseTrail d callers K clock before ∧ before.log = earlier ∧
      Permits d callers (earlier.of i) e.op ∧ perform d before.world e = some w' ∧
      K before.world earlier i e ∧
      Trail (runtime d) (leaseContract d callers) K ⟨w', (i, e) :: earlier⟩ m := by
  obtain ⟨before, w', walked, log, permitted, _, performed, kept, rest⟩ :=
    Trail.act_of_mem trail split List.nil_suffix
  exact ⟨before, w', walked, log, permitted, performed, kept, rest⟩

/-- A row that a task inserted is a reserved row. -/
theorem LeaseTrail.inserted_reserved {m : Moment Effects World}
    (trail : LeaseTrail d callers K clock m) {i : Nat} {row : Lease}
    (inserted : Inserted (m.log.of i) row) :
    ∃ request evidence, row = Rows.reserved d request evidence := by
  obtain ⟨request, member⟩ := inserted
  have promised := Trail.promised trail (by simp) _ (Log.mem_of.mp member)
  obtain ⟨evidence, is⟩ := (promised row true rfl).2 rfl
  exact ⟨request, evidence, is⟩

/-! ## Versions -/

/-- The event commits the row as a new version. -/
def commits (row : Lease) : Event Effects → Prop
  | ⟨.reserve _, reply⟩ => reply = .ok (row, true)
  | ⟨.compareAndSet _ _, reply⟩ => reply = .ok row
  | _ => False

/-- The row was committed at some moment of the log. -/
def Committed (log : Log Effects) (row : Lease) : Prop := ∃ i e, (i, e) ∈ log ∧ commits row e

theorem Committed.mono {log log' : Log Effects} {row : Lease} (grown : log <:+ log')
    (committed : Committed log row) : Committed log' row := by
  obtain ⟨i, e, member, here⟩ := committed
  exact ⟨i, e, grown.mem member, here⟩

theorem Committed.cons {log : Log Effects} {row : Lease} {i : Nat} {e : Event Effects} :
    Committed ((i, e) :: log) row ↔ commits row e ∨ Committed log row := by
  constructor
  · rintro ⟨j, e', member, here⟩
    rcases List.mem_cons.mp member with is | member
    · cases is
      exact .inl here
    · exact .inr ⟨j, e', member, here⟩
  · rintro (here | ⟨j, e', member, here⟩)
    · exact ⟨i, e, List.mem_cons_self, here⟩
    · exact ⟨j, e', List.mem_cons_of_mem _ member, here⟩

/-- Committing a row shows it. -/
theorem shows_of_commits {row : Lease} {e : Event Effects} (here : commits row e) :
    shows row e := by
  obtain ⟨op, reply⟩ := e
  cases op <;> simp_all [commits, shows]

/-- The store holds the latest version of every lease, and tasks are shown versions only. -/
structure Consistent (m : Moment Effects World) : Prop where
  unique : ∀ a ∈ m.world.rows, ∀ b ∈ m.world.rows, a.cleanupToken = b.cleanupToken → a = b
  current : ∀ row ∈ m.world.rows, Committed m.log row
  latest : ∀ row, Committed m.log row → ∃ now ∈ m.world.rows,
    now.cleanupToken = row.cleanupToken ∧ row.revision ≤ now.revision ∧
      (row.revision = now.revision → row = now)
  shown : ∀ i e row, (i, e) ∈ m.log → shows row e → Committed m.log row

namespace Consistent

variable {m : Moment Effects World}

theorem initial : Consistent ⟨World.empty clock, []⟩ where
  unique := by simp [World.empty]
  current := by simp [World.empty]
  latest := by rintro row ⟨i, e, member, _⟩; simp at member
  shown := by simp

/-- A row that a task was shown is a version. -/
theorem committed {i : Nat} {row : Lease} (consistent : Consistent m)
    (shown : Shown (m.log.of i) row) : Committed m.log row := by
  obtain ⟨e, member, here⟩ := shown
  exact consistent.shown i e row (Log.mem_of.mp member) here

/-- The latest version of a lease some version of which was committed. -/
theorem present {row : Lease} (consistent : Consistent m) (committed : Committed m.log row) :
    ∃ now ∈ m.world.rows, now.cleanupToken = row.cleanupToken := by
  obtain ⟨now, member, same, _⟩ := consistent.latest row committed
  exact ⟨now, member, same⟩

/-- A lookup of a lease some version of which was committed. -/
theorem shows_current {row : Lease} (consistent : Consistent m)
    (committed : Committed m.log row) :
    ∃ now, m.world.rows.get row.cleanupToken = some now := by
  obtain ⟨now, member, same⟩ := consistent.present committed
  cases found : m.world.rows.get row.cleanupToken with
  | some current => exact ⟨current, rfl⟩
  | none => exact absurd same (Rows.get_none found member)

/-- A version with the revision of the current row is the current row. -/
theorem eq_current {row now : Lease} (consistent : Consistent m)
    (committed : Committed m.log row) (member : now ∈ m.world.rows)
    (same : now.cleanupToken = row.cleanupToken) (revision : now.revision = row.revision) :
    now = row := by
  obtain ⟨latest, there, same', _, equal⟩ := consistent.latest row committed
  have is : latest = now := consistent.unique latest there now member (same'.trans same.symm)
  subst is
  exact (equal revision.symm).symm

end Consistent

/-! ## What one move does to the store -/

/-- A move leaves the store alone, inserts one reserved row, or updates one current row. -/
inductive Change (d : Digests) (callers : Callers) (m m' : Moment Effects World) : Prop
  | none :
      m'.world.rows = m.world.rows →
      (∀ row, Committed m'.log row ↔ Committed m.log row) → Change d callers m m'
  | inserted (i : Nat) (request : PodRequest) (evidence : Option PodCapacityEvidence)
      (row : Lease) :
      request.capacitySpec.mapM (PodCapacityEvidence.fromSpec request.resourceName) =
        .ok evidence →
      row = Rows.reserved d request evidence →
      (∀ other ∈ m.world.rows, other.cleanupToken ≠ row.cleanupToken) →
      m'.log = (i, ⟨.reserve request, .ok (row, true)⟩) :: m.log →
      m'.world = { m.world with rows := m.world.rows ++ [row] } → Change d callers m m'
  | updated (i : Nat) (cur : Lease) (write : Write) (changes : Changes) :
      cur ∈ m.world.rows → write.Guard d callers (m.log.of i) cur → write.Makes cur changes →
      m'.log = (i, ⟨.compareAndSet cur changes, .ok (cur.apply changes)⟩) :: m.log →
      m'.world = { m.world with rows := m.world.rows.put (cur.apply changes) } → Change d callers m m'

/-- An operation other than a reservation and a compare-and-set leaves the rows alone. -/
theorem perform_rows {w w' : World} {e : Event Effects} (performed : perform d w e = some w')
    (reserve : ∀ request, e.op ≠ .reserve request)
    (write : ∀ lease changes, e.op ≠ .compareAndSet lease changes) :
    w'.rows = w.rows := by
  obtain ⟨op, reply⟩ := e
  cases op with
  | reserve request => exact absurd rfl (reserve request)
  | compareAndSet lease changes => exact absurd rfl (write lease changes)
  | get token => rw [(perform_get.mp performed).2]
  | listCleanupFamily root legacy => rw [(perform_listCleanupFamily.mp performed).2]
  | listIncompleteFamilyReleases => rw [(perform_listIncompleteFamilyReleases.mp performed).2]
  | listForReconciliation => rw [(perform_listForReconciliation.mp performed).2]
  | now => rw [(perform_now.mp performed).2]
  | mergeEvidence evidence update => rw [(perform_mergeEvidence.mp performed).2]
  | send token call => rw [(perform_send.mp performed).2]
  | recv id call =>
      obtain ⟨_, _, _, is⟩ := perform_recv.mp performed
      rw [is]
  | joined => rw [perform_joined.mp performed]

theorem drift_rows {w w' : World} {change : Drift} (drifted : drift w change = some w') :
    w'.rows = w.rows := by
  rcases drift_some drifted with ⟨_, rfl⟩ | ⟨_, _, _, _, _, rfl⟩
  · rfl
  · rfl

theorem Move.change {m m' : Moment Effects World} (consistent : Consistent m)
    (move : LeaseMove d callers K m m') : Change d callers m m' := by
  cases move with
  | drift change drifted => exact .none (drift_rows drifted) fun _ => Iff.rfl
  | @act w' i e permitted promised performed kept =>
      obtain ⟨op, reply⟩ := e
      have performed : perform d m.world ⟨op, reply⟩ = some w' := performed
      have quiet : (∀ row, ¬ commits row ⟨op, reply⟩) → w'.rows = m.world.rows →
          Change d callers m ⟨w', (i, ⟨op, reply⟩) :: m.log⟩ := fun silent rows =>
        .none rows fun row => by
          rw [Committed.cons]
          exact or_iff_right (silent row)
      cases op with
      | reserve request =>
          obtain ⟨rows, attempt, rfl⟩ := perform_reserve.mp performed
          by_cases inserts : ∃ row, reply = .ok (row, true)
          · obtain ⟨row, rfl⟩ := inserts
            obtain ⟨fresh, rfl, _, ⟨evidence, built, is⟩, _⟩ := Rows.reserve_inserted attempt
            exact .inserted i request evidence row built is fresh rfl rfl
          · obtain ⟨rfl, _⟩ := Rows.reserve_kept attempt fun row is => inserts ⟨row, is⟩
            exact quiet (fun row is => inserts ⟨row, is⟩) rfl
      | compareAndSet lease changes =>
          obtain ⟨shown, write, guarded, makes⟩ := permitted
          obtain ⟨rows, attempt, rfl⟩ := perform_compareAndSet.mp performed
          cases reply with
          | error x =>
              obtain ⟨rfl, _⟩ := Rows.compareAndSet_error attempt
              exact quiet (by simp [commits]) rfl
          | ok row =>
              obtain ⟨current, member, same, revision, rfl, rfl, _⟩ :=
                Rows.compareAndSet_ok attempt
              have is : current = lease :=
                consistent.eq_current (consistent.committed shown) member same revision
              subst is
              exact .updated i current write changes member guarded makes rfl rfl
      | _ => exact quiet (fun _ => id) (perform_rows performed (by simp) (by simp))

/-- A row that an operation shows is committed by it or is in the store. -/
theorem perform_shows {w w' : World} {e : Event Effects} {row : Lease}
    (performed : perform d w e = some w') (here : shows row e) :
    commits row e ∨ row ∈ w.rows := by
  obtain ⟨op, reply⟩ := e
  cases op with
  | reserve request =>
      obtain ⟨rows, attempt, _⟩ := perform_reserve.mp performed
      obtain ⟨inserted, rfl⟩ := here
      cases inserted with
      | true => exact .inl rfl
      | false => exact .inr ((Rows.reserve_kept attempt (by simp)).2 row rfl).1
  | get token =>
      cases here
      exact .inr (Rows.get_some (perform_get.mp performed).1).1
  | compareAndSet lease changes => exact .inl here
  | _ => exact here.elim

namespace Consistent

variable {m m' : Moment Effects World}

/-- The row that is current after an update of `cur`. -/
theorem mem_updated {cur row : Lease} {changes : Changes}
    (member : cur ∈ m.world.rows) :
    row ∈ m.world.rows.put (cur.apply changes) ↔
      (row ∈ m.world.rows ∧ row.cleanupToken ≠ cur.cleanupToken) ∨ row = cur.apply changes := by
  rw [Rows.mem_put]
  simp only [Lease.apply_cleanupToken]
  refine or_congr Iff.rfl ⟨fun both => both.1, fun is => ⟨is, cur, member, rfl⟩⟩

theorem move (consistent : Consistent m) (move : LeaseMove d callers K m m') :
    Consistent m' := by
  -- A row that the move shows is a version, whatever the move does to the store.
  have shown : ∀ i e row, (i, e) ∈ m'.log → shows row e → Committed m'.log row := by
    intro i e row member here
    cases move with
    | drift change drifted => exact consistent.shown i e row member here
    | @act w' j e' permitted promised performed kept =>
        rcases List.mem_cons.mp member with is | member
        · cases is
          rcases perform_shows performed here with commit | there
          · exact Committed.cons.mpr (.inl commit)
          · exact Committed.cons.mpr (.inr (consistent.current row there))
        · exact Committed.cons.mpr (.inr (consistent.shown i e row member here))
  cases Move.change consistent move with
  | none rows versions =>
      exact ⟨by rw [rows]; exact consistent.unique,
        fun row member => (versions row).mpr (consistent.current row (by rwa [← rows])),
        fun row committed => by rw [rows]; exact consistent.latest row ((versions row).mp committed),
        shown⟩
  | inserted i request evidence row built is fresh log world =>
      have versions : ∀ other, Committed m'.log other ↔ other = row ∨ Committed m.log other := by
        intro other
        rw [log, Committed.cons]
        exact or_congr ⟨fun here => by cases here; rfl, fun here => by rw [here]; rfl⟩ Iff.rfl
      have rows : ∀ other, other ∈ m'.world.rows ↔ other ∈ m.world.rows ∨ other = row := by
        intro other
        rw [world]
        simp
      refine ⟨fun a ina b inb same => ?_, fun other member => ?_, fun other committed => ?_, shown⟩
      · rcases (rows a).mp ina with ina | rfl
        · rcases (rows b).mp inb with inb | rfl
          · exact consistent.unique a ina b inb same
          · exact absurd same (fresh a ina)
        · rcases (rows b).mp inb with inb | rfl
          · exact absurd same.symm (fresh b inb)
          · rfl
      · rcases (rows other).mp member with member | rfl
        · exact (versions other).mpr (.inr (consistent.current other member))
        · exact (versions other).mpr (.inl rfl)
      · rcases (versions other).mp committed with rfl | committed
        · exact ⟨other, (rows other).mpr (.inr rfl), rfl, le_rfl, fun _ => rfl⟩
        · obtain ⟨now, member, rest⟩ := consistent.latest other committed
          exact ⟨now, (rows now).mpr (.inl member), rest⟩
  | updated i cur write changes member guarded makes log world =>
      have versions : ∀ other, Committed m'.log other ↔
          other = cur.apply changes ∨ Committed m.log other := by
        intro other
        rw [log, Committed.cons]
        exact or_congr ⟨fun here => by cases here; rfl, fun here => by rw [here]; rfl⟩ Iff.rfl
      have rows : ∀ other, other ∈ m'.world.rows ↔
          (other ∈ m.world.rows ∧ other.cleanupToken ≠ cur.cleanupToken) ∨
            other = cur.apply changes := by
        intro other
        rw [world]
        exact mem_updated member
      refine ⟨fun a ina b inb same => ?_, fun other there => ?_, fun other committed => ?_, shown⟩
      · rcases (rows a).mp ina with ⟨ina, apart⟩ | rfl
        · rcases (rows b).mp inb with ⟨inb, _⟩ | rfl
          · exact consistent.unique a ina b inb same
          · exact absurd same apart
        · rcases (rows b).mp inb with ⟨inb, apart⟩ | rfl
          · exact absurd same.symm apart
          · rfl
      · rcases (rows other).mp there with ⟨there, _⟩ | rfl
        · exact (versions other).mpr (.inr (consistent.current other there))
        · exact (versions _).mpr (.inl rfl)
      · rcases (versions other).mp committed with rfl | committed
        · exact ⟨cur.apply changes, (rows _).mpr (.inr rfl), rfl, le_rfl, fun _ => rfl⟩
        · obtain ⟨now, there, same, revision, equal⟩ := consistent.latest other committed
          by_cases mine : now.cleanupToken = cur.cleanupToken
          · have is : now = cur := consistent.unique now there cur member mine
            subst is
            refine ⟨now.apply changes, (rows _).mpr (.inr rfl), same, ?_, fun impossible => ?_⟩
            · rw [Lease.apply_revision]
              omega
            · rw [Lease.apply_revision] at impossible
              omega
          · exact ⟨now, (rows _).mpr (.inl ⟨there, mine⟩), same, revision, equal⟩

end Consistent

/-- The store is consistent throughout every trail. -/
theorem LeaseTrail.consistent {m : Moment Effects World}
    (trail : LeaseTrail d callers K clock m) : Consistent m :=
  Trail.invariant trail (fun _ _ consistent move => consistent.move move) Consistent.initial

/-- What one move does to the store along a trail. -/
theorem LeaseTrail.change {m m' : Moment Effects World} (trail : LeaseTrail d callers K clock m)
    (move : LeaseMove d callers K m m') : Change d callers m m' :=
  Move.change trail.consistent move

/-! ## Versions and the current row -/

/-- Every version of a lease is related to its current row. -/
def Since (R : Lease → Lease → Prop) (m : Moment Effects World) : Prop :=
  ∀ old, Committed m.log old → ∀ now ∈ m.world.rows, now.cleanupToken = old.cleanupToken →
    R old now

/-- A preorder that every write respects relates every version to the current row. -/
theorem LeaseTrail.since {R : Lease → Lease → Prop} {m : Moment Effects World}
    (trail : LeaseTrail d callers K clock m) (refl : ∀ row, R row row)
    (trans : ∀ a b c, R a b → R b c → R a c)
    (write : ∀ m m' i cur write changes, LeaseTrail d callers K clock m →
      LeaseMove d callers K m m' → cur ∈ m.world.rows → Write.Guard d callers (m.log.of i) cur write →
      write.Makes cur changes →
      m'.log = (i, ⟨.compareAndSet cur changes, .ok (cur.apply changes)⟩) :: m.log →
      R cur (cur.apply changes)) :
    Since R m := by
  induction trail with
  | refl =>
      rintro old ⟨i, e, member, _⟩
      simp at member
  | @tail m m' before move ih =>
      intro old committed now there same
      have consistent := LeaseTrail.consistent (m := m) before
      cases LeaseTrail.change before move with
      | none rows versions =>
          exact ih old ((versions old).mp committed) now (by rwa [← rows]) same
      | inserted i request evidence row built is fresh log world =>
          rw [log, Committed.cons] at committed
          rw [world] at there
          rcases List.mem_append.mp there with kept | added
          · rcases committed with here | committed
            · cases here
              exact absurd same (fresh now kept)
            · exact ih old committed now kept same
          · rw [List.mem_singleton] at added
            subst added
            rcases committed with here | committed
            · cases here
              exact refl _
            · obtain ⟨latest, member, token⟩ := consistent.present committed
              exact absurd (token.trans same.symm) (fresh latest member)
      | updated i cur write' changes member guarded makes log world =>
          rw [log, Committed.cons] at committed
          rw [world] at there
          rcases (Consistent.mem_updated member).mp there with ⟨there, apart⟩ | rfl
          · rcases committed with here | committed
            · cases here
              exact absurd same apart
            · exact ih old committed now there same
          · rcases committed with here | committed
            · cases here
              exact refl _
            · exact trans _ _ _ (ih old committed cur member same)
                (write m m' i cur write' changes before move member guarded makes log)

/-- What holds of every inserted row, survives every move and passes from the row a write
reads to the row it leaves, holds of every version. -/
theorem LeaseTrail.always {P : Moment Effects World → Lease → Prop} {m : Moment Effects World}
    (trail : LeaseTrail d callers K clock m)
    (survives : ∀ m m' row, LeaseTrail d callers K clock m → LeaseMove d callers K m m' →
      P m row → P m' row)
    (inserted : ∀ m m' i request evidence, LeaseTrail d callers K clock m →
      LeaseMove d callers K m m' →
      request.capacitySpec.mapM (PodCapacityEvidence.fromSpec request.resourceName) =
        .ok evidence →
      m'.log = (i, ⟨.reserve request, .ok (Rows.reserved d request evidence, true)⟩) :: m.log →
      P m' (Rows.reserved d request evidence))
    (write : ∀ m m' i cur write changes, LeaseTrail d callers K clock m →
      LeaseMove d callers K m m' → cur ∈ m.world.rows →
      Write.Guard d callers (m.log.of i) cur write → write.Makes cur changes →
      m'.log = (i, ⟨.compareAndSet cur changes, .ok (cur.apply changes)⟩) :: m.log →
      P m cur → P m' (cur.apply changes)) :
    ∀ row, Committed m.log row → P m row := by
  induction trail with
  | refl =>
      rintro row ⟨i, e, member, _⟩
      simp at member
  | @tail m m' before move ih =>
      intro row committed
      cases LeaseTrail.change before move with
      | none _ versions => exact survives m m' row before move (ih row ((versions row).mp committed))
      | inserted i request evidence added built is _ log _ =>
          rw [log, Committed.cons] at committed
          subst is
          rcases committed with here | committed
          · cases here
            exact inserted m m' i request evidence before move built log
          · exact survives m m' row before move (ih row committed)
      | updated i cur write' changes member guarded makes log _ =>
          rw [log, Committed.cons] at committed
          rcases committed with here | committed
          · cases here
            have consistent := LeaseTrail.consistent (m := m) before
            exact write m m' i cur write' changes before move member guarded makes log
              (ih cur (consistent.current cur member))
          · exact survives m m' row before move (ih row committed)

end KestrelRunpod.Pod
