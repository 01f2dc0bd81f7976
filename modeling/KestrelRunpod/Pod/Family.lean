import KestrelRunpod.Pod.Mutations
import KestrelRunpod.Pod.System.Solo

/-!
# Attempts of one cleanup family

The attempts of a family share a root token, and the store keeps two active rows of one root
apart.  A released lease stays released (`LeaseTrail.stays_released`), so a family tries one
attempt after the other: whenever a reservation inserts a row, every attempt of its family that
was inserted before has ended for good (`family_attempts_in_sequence`).  The row of the root
comes first, and once the release of the family was requested on it no attempt is added.
-/

namespace KestrelRunpod.Pod

open Interleave

variable {d : Digests} {callers : Callers} {K : Restriction Effects World} {clock : Instant}
  {write : Write} {cur : Lease} {changes : Changes} {m : Moment Effects World}

/-! ## The end of a lease -/

/-- A reserved row is requested. -/
theorem LeaseTrail.inserted_requested (trail : LeaseTrail d callers K clock m) {i : Nat}
    {row : Lease} (inserted : Inserted (m.log.of i) row) : row.state = .requested := by
  obtain ⟨request, evidence, rfl⟩ := trail.inserted_reserved inserted
  rfl

/-- A write that sets the state reads a lease that has not ended, or ends it. -/
theorem Write.state_of_released {i : Nat} (trail : LeaseTrail d callers K clock m)
    (guarded : write.Guard d callers (m.log.of i) cur) (released : cur.isTerminal = true)
    {state : PodState} (sets : write.base.state = some state) : state = .released := by
  have ended : cur.state = .released := of_decide_eq_true released
  have active : cur.isTerminal = false → state = .released := by
    rw [released]
    rintro ⟨⟩
  cases write with
  | foundRunning url t =>
      rw [trail.inserted_requested guarded.1] at ended
      cases ended
  | foundStopped t =>
      rw [trail.inserted_requested guarded.1] at ended
      cases ended
  | claimCreate t =>
      rw [trail.inserted_requested guarded.1] at ended
      cases ended
  | workerReady t =>
      rw [guarded.1] at ended
      cases ended
  | recordJob id t =>
      rcases guarded.2 with is | is <;> (rw [is] at ended; cases ended)
  | resultRetrieved t =>
      rcases guarded.2 with is | is <;> (rw [is] at ended; cases ended)
  | hostConfirmed confirmation t =>
      rw [guarded.1] at ended
      cases ended
  | observed observation submitted t changes phases =>
      obtain ⟨_, spec, _, _, _, ok, _⟩ := guarded
      obtain ⟨handoff, observed⟩ := catalogObservationChanges_ok ok
      have takes := (observed.state sets).1
      unfold Lease.refusesProgress at takes
      rw [released] at takes
      simp at takes
  | revoked t => cases sets; rfl
  | abandonClaim error t => cases sets; rfl
  | _ => first | exact active guarded.1 | cases sets

/-- A released lease stays released. -/
theorem LeaseTrail.stays_released (trail : LeaseTrail d callers K clock m) :
    Since (fun old now => old.isTerminal = true → now.isTerminal = true) m := by
  refine trail.since (fun _ => id) (fun a b c ab bc ended => bc (ab ended)) ?_
  intro m m' i cur write changes before _ _ guarded makes _ ended
  obtain ⟨evidence, rfl⟩ := makes.columns
  unfold Lease.isTerminal at ended ⊢
  rw [Lease.apply_state]
  dsimp only
  cases sets : write.base.state with
  | none => exact ended
  | some state =>
      rw [Option.getD_some, Write.state_of_released before guarded ended sets]
      rfl

/-- The cleanup is over: the Pod was taken down, or was not the lease's to take down. -/
def CleanupState.isOver : CleanupState → Bool
  | .complete | .notOwned => true
  | _ => false

/-- A write that touches the cleanup reads a lease that has not ended. -/
theorem Write.base_cleanup {i : Nat} (guarded : write.Guard d callers (m.log.of i) cur)
    (sets : write.base.cleanupState ≠ none) : cur.isTerminal = false := by
  cases write with
  | observed observation submitted t changes phases =>
      obtain ⟨_, spec, _, _, _, ok, _⟩ := guarded
      exact absurd (catalogObservationChanges_cleanupState ok) sets
  | stopPending t => exact guarded
  | _ => first | exact guarded.1 | exact absurd rfl sets

/-- A write that ends a lease ends its cleanup, or reads a catalog lease. -/
theorem Write.base_released {i : Nat} (trail : LeaseTrail d callers K clock m)
    (member : cur ∈ m.world.rows) (guarded : write.Guard d callers (m.log.of i) cur)
    (ends : write.base.state = some .released) :
    (∃ cleanup, write.base.cleanupState = some cleanup ∧ cleanup.isOver = true) ∨
      cur.isCatalogAttempt = true := by
  cases write with
  | observed observation submitted t changes phases =>
      obtain ⟨_, spec, _, _, _, ok, _⟩ := guarded
      obtain ⟨handoff, observed⟩ := catalogObservationChanges_ok ok
      rcases (observed.state ends).2 with is | is | is <;> cases is
  | recordStatus status t => rcases statusState_some ends with is | is <;> cases is
  | revoked t =>
      obtain ⟨_, row, spec, shown, same, _, catalog, _⟩ := guarded
      have identity := trail.sameIdentity (trail.consistent.committed shown)
        (trail.consistent.current cur member) same
      rw [← identity.isCatalogAttempt, Lease.isCatalogAttempt, catalog]
      exact .inr rfl
  | _ => first | exact .inl ⟨_, rfl, rfl⟩ | cases ends

/-- The cleanup of a lease that ended without catalog capacity is over. -/
theorem LeaseTrail.ended_clean (trail : LeaseTrail d callers K clock m) :
    ∀ row, Committed m.log row → row.isCatalogAttempt = false → row.isTerminal = true →
      row.cleanupState.isOver = true := by
  refine trail.always (P := fun _ row => row.isCatalogAttempt = false → row.isTerminal = true →
      row.cleanupState.isOver = true)
    (fun _ _ _ _ _ => id) (fun _ _ _ _ _ _ _ _ _ _ ended => ?_) ?_
  · cases ended
  · intro m m' i cur write changes before _ member guarded makes _ known legacy ended
    obtain ⟨evidence, rfl⟩ := makes.columns
    have cleanup : (cur.apply { write.base with evidence := evidence }).cleanupState =
        write.base.cleanupState.getD cur.cleanupState := rfl
    rw [cleanup]
    cases active : cur.isTerminal with
    | true =>
        cases sets : write.base.cleanupState with
        | none => exact known legacy active
        | some state =>
            have open_ := Write.base_cleanup guarded (by rw [sets]; exact Option.some_ne_none _)
            rw [active] at open_
            cases open_
    | false =>
        have ends : write.base.state = some .released := by
          unfold Lease.isTerminal at ended active
          rw [Lease.apply_state] at ended
          dsimp only at ended
          cases sets : write.base.state with
          | none =>
              rw [sets, Option.getD_none, active] at ended
              cases ended
          | some state =>
              rw [sets, Option.getD_some, decide_eq_true_eq] at ended
              rw [ended]
        rcases Write.base_released before member guarded ends with ⟨state, sets, clean⟩ | catalog
        · rw [sets]
          exact clean
        · have legacy : cur.isCatalogAttempt = false := legacy
          rw [catalog] at legacy
          cases legacy

/-! ## The request of a family release -/

/-- An observation leaves the release of the family alone. -/
theorem catalogObservationChanges_family {spec : CapacitySpec} {lease : Lease}
    {observation : Observation} {submitted : Bool} {t : Instant} {phases : Phases}
    (ok : catalogObservationChanges lease spec observation submitted t = .ok (changes, phases)) :
    changes.familyReleaseRequested = none := by
  unfold catalogObservationChanges at ok
  dsimp only at ok
  rw [refuse_bind_ok, refuse_bind_ok] at ok
  obtain ⟨_, _, ok⟩ := ok
  simp only [bind, Except.bind, pure, Except.pure] at ok
  split at ok
  · cases ok
  rename_i handoff _
  have quiet : (if handoff ≠ lease.artifactHandoff then { artifactHandoff := handoff }
      else {} : Changes).familyReleaseRequested = none := by
    split <;> rfl
  split at ok
  · cases ok
    exact quiet
  · split at ok
    · cases ok
      exact quiet
    · have is := (Except.ok.inj ok).symm
      unfold observedProgress at is
      dsimp only at is
      split at is <;> (cases is; exact quiet)

/-- A family release that was requested stays requested. -/
theorem LeaseTrail.request_kept (trail : LeaseTrail d callers K clock m) :
    Since (fun old now => old.familyReleaseRequested = true →
      now.familyReleaseRequested = true) m := by
  refine trail.since (fun _ => id) (fun a b c ab bc requested => bc (ab requested)) ?_
  intro m m' i cur write changes _ _ _ guarded makes _ requested
  obtain ⟨evidence, rfl⟩ := makes.columns
  show (write.base.familyReleaseRequested.getD cur.familyReleaseRequested) = true
  cases sets : write.base.familyReleaseRequested with
  | none => exact requested
  | some flag =>
      cases write with
      | familyRequested t => cases sets; rfl
      | observed observation submitted t changes phases =>
          obtain ⟨_, spec, _, _, _, ok, _⟩ := guarded
          have none : changes.familyReleaseRequested = none := catalogObservationChanges_family ok
          have sets : changes.familyReleaseRequested = some flag := sets
          rw [none] at sets
          cases sets
      | _ => cases sets

/-! ## Reservations -/

/-- What a reservation found when it inserted its row: the root of the family, which is not
released, unless the row is the root itself. -/
theorem Rows.reserve_root {rows rows' : Rows} {request : PodRequest} {row : Lease}
    (ok : rows.reserve d request = (rows', .ok (row, true)))
    (member : request.rootCleanupToken ≠ request.cleanupToken) :
    ∃ root ∈ rows, root.cleanupToken = request.rootCleanupToken ∧
      root.rootCleanupToken = root.cleanupToken ∧ root.familyReleaseRequested = false := by
  unfold reserve at ok
  split at ok
  · cases ok
  · dsimp only at ok
    split at ok
    · cases ok
    · rename_i present
      split at ok
      · cases ok
      · rename_i unreleased
        rw [not_and] at present unreleased
        obtain ⟨root, found⟩ := Option.ne_none_iff_exists'.mp (present member)
        rw [found] at unreleased
        have is := List.find?_some found
        rw [decide_eq_true_eq] at is
        refine ⟨root, List.mem_of_find?_eq_some found, is.1, is.2, ?_⟩
        simpa using unreleased member

/-- What the store was like when a reservation inserted its row. -/
structure Opens (rows : Rows) (row : Lease) : Prop where
  fresh : ∀ other ∈ rows, other.cleanupToken ≠ row.cleanupToken
  active : row.isTerminal = false
  apart : ∀ other ∈ rows, ¬ Rows.clash row other
  root : row.rootCleanupToken ≠ row.cleanupToken → ∃ root ∈ rows,
    root.cleanupToken = row.rootCleanupToken ∧ root.rootCleanupToken = root.cleanupToken ∧
      root.familyReleaseRequested = false

theorem Rows.reserve_opens {rows rows' : Rows} {request : PodRequest} {row : Lease}
    (ok : rows.reserve d request = (rows', .ok (row, true))) : Opens rows row := by
  obtain ⟨fresh, _, _, ⟨evidence, _, is⟩, apart⟩ := Rows.reserve_inserted ok
  refine ⟨fresh, by rw [is]; rfl, apart, fun member => ?_⟩
  rw [is] at member ⊢
  exact Rows.reserve_root ok member

/-- The attempt ended while the log was `earlier`, its cleanup being over unless it is catalog
capacity, and it is not active any more. -/
structure EndedBy (earlier : Log Effects) (m : Moment Effects World) (attempt : Lease) : Prop where
  ended : ∃ ended, Committed earlier ended ∧ ended.cleanupToken = attempt.cleanupToken ∧
    ended.isTerminal = true ∧
    (ended.isCatalogAttempt = false → ended.cleanupState.isOver = true)
  still : ∀ now ∈ m.world.rows, now.cleanupToken = attempt.cleanupToken → now.isTerminal = true

/-- What was on record of the family of a row when it was inserted. -/
structure Succeeds (earlier : Log Effects) (m : Moment Effects World) (row : Lease) : Prop where
  rooted : row.rootCleanupToken ≠ row.cleanupToken → ∃ root, Committed earlier root ∧
    root.cleanupToken = row.rootCleanupToken ∧ root.rootCleanupToken = root.cleanupToken
  unreleased : ∀ root, Committed earlier root → root.cleanupToken = row.rootCleanupToken →
    root.familyReleaseRequested = false
  ended : ∀ attempt, Committed earlier attempt →
    attempt.rootCleanupToken = row.rootCleanupToken → EndedBy earlier m attempt

/-- Every version of a lease is of one family. -/
theorem LeaseTrail.family_kept (trail : LeaseTrail d callers K clock m) :
    Since (fun old now => now.rootCleanupToken = old.rootCleanupToken) m :=
  trail.since (fun _ => rfl) (fun _ _ _ ab bc => bc.trans ab)
    fun _ _ _ _ _ _ _ _ _ _ _ _ => rfl

/-- Nobody has requested the release of a family to which a row is added. -/
theorem LeaseTrail.unreleased (trail : LeaseTrail d callers K clock m) {row root : Lease}
    (opens : Opens m.world.rows row) (committed : Committed m.log root)
    (same : root.cleanupToken = row.rootCleanupToken) :
    root.familyReleaseRequested = false := by
  obtain ⟨now, there, token, _⟩ := trail.consistent.latest root committed
  by_contra requested
  rw [Bool.not_eq_false] at requested
  have still := trail.request_kept root committed now there token requested
  by_cases member : row.rootCleanupToken = row.cleanupToken
  · exact opens.fresh now there (token.trans (same.trans member))
  · obtain ⟨root', there', token', _, unreleased⟩ := opens.root member
    have is := trail.consistent.unique now there root' there'
      (token.trans (same.trans token'.symm))
    rw [is, unreleased] at still
    cases still

/-- The attempts of a family to which a row is added have ended. -/
theorem LeaseTrail.attempt_ended (trail : LeaseTrail d callers K clock m) {row attempt : Lease}
    (opens : Opens m.world.rows row) (committed : Committed m.log attempt)
    (family : attempt.rootCleanupToken = row.rootCleanupToken) :
    ∃ now ∈ m.world.rows, now.cleanupToken = attempt.cleanupToken ∧ now.isTerminal = true ∧
      (now.isCatalogAttempt = false → now.cleanupState.isOver = true) := by
  obtain ⟨now, there, token, _⟩ := trail.consistent.latest attempt committed
  have root := trail.family_kept attempt committed now there token
  have ended : now.isTerminal = true := by
    by_contra active
    rw [Bool.not_eq_true] at active
    exact opens.apart now there ⟨(opens.fresh now there).symm, opens.active, active,
      .inr (.inr (family.symm.trans root.symm))⟩
  exact ⟨now, there, token, ended, fun legacy =>
    trail.ended_clean now (trail.consistent.current now there) legacy ended⟩

/-- A family tries its attempts one after the other.  In every run, however its tasks
interleave, whenever a reservation inserts a row: the root of its family is on record, unless
the row is the root; nobody has requested the release of the family; and every attempt of the
family that was ever inserted before has ended by then and ends every later state as well, the
cleanup of a training attempt being over.  So at most one attempt of a family is active at any
time. -/
theorem family_attempts_in_sequence {c : Config Effects Exn World}
    (run : ServiceRun d callers anyMove clock c) :
    (∀ (later earlier : Log Effects) i request row,
      c.log = later ++ (i, (⟨.reserve request, .ok (row, true)⟩ : Event Effects)) :: earlier →
      Succeeds earlier c.moment row) ∧
    ∀ a ∈ c.world.rows, ∀ b ∈ c.world.rows, a.rootCleanupToken = b.rootCleanupToken →
      a.isTerminal = false → b.isTerminal = false → a = b := by
  have trail := run.trail
  refine ⟨fun later earlier i request row split => ?_, fun a ina b inb family activeA activeB => ?_⟩
  · obtain ⟨before, w', walked, log, _, performed, _, rest⟩ := trail.act_of_mem split
    obtain ⟨rows, attempt, _⟩ := perform_reserve.mp performed
    have opens := Rows.reserve_opens attempt
    have onward : before.log <:+ c.log := by
      rw [log, split]
      exact (List.suffix_cons _ _).trans (List.suffix_append _ _)
    rw [← log]
    refine ⟨fun member => ?_, fun root committed same => walked.unreleased opens committed same,
      fun attempt committed family => ?_⟩
    · obtain ⟨root, there, token, own, _⟩ := opens.root member
      exact ⟨root, walked.consistent.current root there, token, own⟩
    · obtain ⟨now, there, token, ended, clean⟩ := walked.attempt_ended opens committed family
      have version := walked.consistent.current now there
      exact ⟨⟨now, version, token, ended, clean⟩, fun last member same =>
        trail.stays_released now (version.mono onward) last member (same.trans token.symm) ended⟩
  · by_contra differ
    refine trail.tidy.apart a ina b inb ⟨fun same => differ ?_, activeA, activeB,
      .inr (.inr family)⟩
    exact trail.tidy.unique a ina b inb same

/-! ### A fallback -/

section

open Sample

def fallback : PodRequest where
  cleanupToken := "lease-00002"
  companionId := "owner-0001"
  profileId := "profile-1"
  source := .stoppedReuse
  resourceName := "lease-00002"
  providerPodId := some "pod-00003"
  createdAt := seconds 300
  readinessDeadline := seconds 2000
  hardDeadline := seconds 8000
  rootCleanupToken := "lease-00001"
  capacitySpec := none
  checked := by decide +kernel

theorem fallsBack : Admits digests agreed (acquire service fallback).void := by
  refine .acquire service fallback configured ?_
  have other : fallback.cleanupToken ≠ request.resourceName digests := by decide +kernel
  exact (Equiv.swap_apply_of_ne_of_ne (by decide) other).symm

/-- A provider that does not know the Pod. -/
def unknown : (call : Call) → Option (Except Exn call.Value)
  | .observe _ => some (.error (.manager "Pod not found"))
  | _ => none

/-- The first attempt of the family fails, and a second one is reserved. -/
def fallenBack : Schedule digests agreed :=
  [.spawn 0 _ reuses, runs 0 9, gets 0 unknown, runs 0 20, .spawn 1 _ fallsBack, runs 1 9]

/-- The row that the event inserts. -/
def inserted : Event Effects → Option Lease
  | ⟨.reserve _, .ok (row, true)⟩ => some row
  | _ => none

theorem inserted_eq_some {e : Event Effects} {row : Lease} (is : inserted e = some row) :
    ∃ request, e = ⟨.reserve request, .ok (row, true)⟩ := by
  unfold inserted at is
  split at is
  · cases is
    exact ⟨_, rfl⟩
  · cases is

/-- The fallback was reserved after the first attempt had ended. -/
theorem family_attempts_in_sequence_fallback :
    ∃ (c : Config Effects Exn World) (earlier : Log Effects) (first row : Lease),
      ServiceRun digests agreed anyMove (seconds 250) c ∧ Succeeds earlier c.moment row ∧
      row.cleanupToken = "lease-00002" ∧ first.cleanupToken = "lease-00001" ∧
      Committed earlier first ∧ EndedBy earlier c.moment first := by
  obtain ⟨c, run, checked⟩ := exhibits fallenBack anyMove (seconds 250)
    (fun c => c.log.any fun entry => (inserted entry.2).any fun row =>
      row.cleanupToken = "lease-00002" && row.rootCleanupToken = "lease-00001")
    (by decide +kernel)
  obtain ⟨⟨i, e⟩, logged, is⟩ := List.any_eq_true.mp checked
  obtain ⟨row, inserts, tokens⟩ := (Option.any_eq_true _ _).mp is
  simp only [Bool.and_eq_true, decide_eq_true_eq] at tokens
  obtain ⟨request, rfl⟩ := inserted_eq_some inserts
  obtain ⟨later, earlier, split⟩ := List.append_of_mem logged
  have succeeds := (family_attempts_in_sequence run).1 later earlier i request row split
  obtain ⟨root, committed, token, own⟩ :=
    succeeds.rooted (by rw [tokens.1, tokens.2]; decide)
  exact ⟨c, earlier, root, row, run, succeeds, tokens.1, token.trans tokens.2, committed,
    succeeds.ended root committed (own.trans token)⟩

end

end KestrelRunpod.Pod
