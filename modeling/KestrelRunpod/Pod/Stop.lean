import KestrelRunpod.Pod.System.Schedule

/-!
# Stop is sticky

A stop leaves a lease in one of four states, and a protocol-1 lease never leaves them: each
write that moves a lease onward has read a row that was not stopped, in the very update it
makes (`Write.stop_kept`).  Along a run that is a fact about all versions
(`LeaseTrail.stop_kept`).

What is sent to the worker rests on the row that the task read last.  The tasks of one event
loop take turns only where they wait (`oneLoop`), so there that row is still the current one
when the request leaves, and nothing is sent once a stop is on record.
-/

namespace KestrelRunpod.Pod

open Interleave

variable {d : Digests} {callers : Callers} {K : Restriction Effects World} {clock : Instant}
  {write : Write} {cur : Lease} {changes : Changes} {m : Moment Effects World}

/-! ## The states of a stop -/

/-- The lease was stopped, by its state or by its workload's. -/
def Lease.stopped (lease : Lease) : Bool :=
  lease.state.isStop || decide (lease.workloadState = .cancelRequested)

theorem isStop_of_terminal {lease : Lease} (terminal : lease.isTerminal = true) :
    lease.state.isStop = true := by
  have released : lease.state = .released := by simpa [Lease.isTerminal] using terminal
  rw [released]
  rfl

/-- The knowledge that a row does not speak protocol 1 holds of the current row. -/
theorem LeaseTrail.protocolOne_known (trail : LeaseTrail d callers K clock m) {i : Nat}
    (member : cur ∈ m.world.rows)
    (known : Known (m.log.of i) cur.cleanupToken fun row => row.protocolOne = false) :
    cur.protocolOne = false := by
  obtain ⟨row, shown, same, historical⟩ := known
  have committed := trail.consistent.committed shown
  have identity := trail.identity row committed cur member same.symm
  rw [← identity.protocolOne]
  exact historical

/-- A write leaves a stopped lease in a state of its stop, or it records the completion of a
job that does not speak protocol 1. -/
theorem Write.stop_or_completed (trail : LeaseTrail d callers K clock m) {i : Nat}
    (member : cur ∈ m.world.rows) (guarded : write.Guard d callers (m.log.of i) cur)
    (makes : write.Makes cur changes) (stopped : cur.state.isStop = true) :
    (cur.apply changes).state.isStop = true ∨
      (changes.state = some .jobCompleted ∧ cur.protocolOne = false) := by
  obtain ⟨evidence, rfl⟩ := makes.columns
  rw [Lease.apply_state]
  dsimp only
  cases sets : write.base.state with
  | none => exact .inl stopped
  | some state =>
      rw [Option.getD_some]
      rcases Write.base_state sets with stop | onward
      · exact .inl stop
      -- Every other write that moves a lease onward has read a row that was not stopped.
      · cases onward with
        | foundRunning url t =>
            obtain ⟨request, evidence', is⟩ := trail.inserted_reserved guarded.1
            rw [is] at stopped
            cases stopped
        | foundStopped t =>
            obtain ⟨request, evidence', is⟩ := trail.inserted_reserved guarded.1
            rw [is] at stopped
            cases stopped
        | claimCreate t =>
            obtain ⟨request, evidence', is⟩ := trail.inserted_reserved guarded.1
            rw [is] at stopped
            cases stopped
        | workerReady t =>
            rw [guarded.1] at stopped
            cases stopped
        | recordJob id t =>
            rcases guarded.2 with is | is <;> (rw [is] at stopped; cases stopped)
        | recordStatus status t =>
            exact .inr ⟨rfl, trail.protocolOne_known member guarded.2⟩
        | resultRetrieved t =>
            rcases guarded.2 with is | is <;> (rw [is] at stopped; cases stopped)
        | hostConfirmed confirmation t =>
            rw [guarded.1] at stopped
            cases stopped
        | observed observation submitted t changes phases state sets =>
            obtain ⟨_, spec, _, _, _, ok, _⟩ := guarded
            obtain ⟨handoff, observed⟩ := catalogObservationChanges_ok ok
            have takes := (observed.state sets).1
            unfold Lease.refusesProgress at takes
            cases is : cur.state <;> rw [is] at stopped <;> simp_all [PodState.isStop]

/-- A write leaves a stopped protocol-1 lease in a state of its stop. -/
theorem Write.stop_kept (trail : LeaseTrail d callers K clock m) {i : Nat}
    (member : cur ∈ m.world.rows) (guarded : write.Guard d callers (m.log.of i) cur)
    (makes : write.Makes cur changes) (protocol : cur.protocolOne = true)
    (stopped : cur.state.isStop = true) : (cur.apply changes).state.isStop = true := by
  rcases write.stop_or_completed trail member guarded makes stopped with stop | ⟨_, legacy⟩
  · exact stop
  · rw [legacy] at protocol
    cases protocol

/-- A cancelled workload belongs to a stopped lease. -/
theorem LeaseTrail.cancelled_stopped (trail : LeaseTrail d callers K clock m) :
    ∀ row, Committed m.log row → row.protocolOne = true →
      row.workloadState = .cancelRequested → row.state.isStop = true := by
  refine trail.always (P := fun _ row => row.protocolOne = true →
      row.workloadState = .cancelRequested → row.state.isStop = true)
    (fun _ _ _ _ _ => id) (fun _ _ _ _ _ _ _ _ _ _ is => ?_) ?_
  · simp [Rows.reserved] at is
  · intro m m' i cur write changes before move member guarded makes log known protocol is
    have kept := write.stop_kept before member guarded makes protocol
    obtain ⟨evidence, rfl⟩ := makes.columns
    rw [Lease.apply_workloadState] at is
    dsimp only at is
    cases sets : write.base.workloadState with
    | none =>
        rw [sets, Option.getD_none] at is
        exact kept (known protocol is)
    | some state =>
        rw [sets, Option.getD_some] at is
        subst is
        rw [Lease.apply_state]
        dsimp only
        rcases Write.base_workloadState sets with
          ⟨observation, submitted, t, changes, phases, rfl, reported⟩ | ⟨t, rfl, _⟩
        · obtain ⟨_, spec, _, _, _, ok, _⟩ := guarded
          obtain ⟨handoff, observed⟩ := catalogObservationChanges_ok ok
          have state := observed.cancelled reported
          show (changes.state.getD cur.state).isStop = true
          rw [state]
          rfl
        · rfl

theorem LeaseTrail.isStop_of_stopped (trail : LeaseTrail d callers K clock m) {row : Lease}
    (committed : Committed m.log row) (protocol : row.protocolOne = true)
    (stopped : row.stopped = true) : row.state.isStop = true := by
  rw [Lease.stopped, Bool.or_eq_true, decide_eq_true_eq] at stopped
  exact stopped.elim id (trail.cancelled_stopped row committed protocol)

/-- Once a protocol-1 lease is stopped, its current row is in a state of the stop. -/
theorem LeaseTrail.stop_kept (trail : LeaseTrail d callers K clock m) :
    Since (fun old now => old.protocolOne = true → old.stopped = true →
      now.state.isStop = true) m := by
  have states : Since (fun old now => old.protocolOne = now.protocolOne ∧
      (old.protocolOne = true → old.state.isStop = true → now.state.isStop = true)) m := by
    refine trail.since (fun row => ⟨rfl, fun _ => id⟩) (fun a b c ab bc => ?_)
      fun m _ i cur write changes before _ member guarded makes _ => ⟨rfl, ?_⟩
    · refine ⟨ab.1.trans bc.1, fun protocol stopped => ?_⟩
      exact bc.2 (ab.1 ▸ protocol) (ab.2 protocol stopped)
    · exact write.stop_kept before member guarded makes
  intro old committed now member same protocol stopped
  exact (states old committed now member same).2 protocol
    (trail.isStop_of_stopped committed protocol stopped)

/-! ## Requests to the worker -/

/-- The requests that hand work or an acknowledgement to the worker. -/
def Call.dispatches : Call → Bool
  | .submit .. | .acknowledge .. | .recoverHandoff .. => true
  | _ => false

/-- A request goes out on a row that was not in a state of its stop. -/
theorem PermitsCall.unstopped {h : Past} {token : String} {call : Call}
    (permitted : PermitsCall h token call) (dispatches : call.dispatches = true) :
    JustRead h token fun row => row.state.isStop = false := by
  have weaken : ∀ {P : Lease → Prop}, JustRead h token P →
      (∀ row, P row → row.state.isStop = false) →
      JustRead h token fun row => row.state.isStop = false := by
    intro P read stronger
    obtain ⟨later, earlier, row, is, clock, same, holds⟩ := read
    exact ⟨later, earlier, row, is, clock, same, stronger row holds⟩
  cases call with
  | submit =>
      refine weaken permitted fun row is => ?_
      rcases is.2 with state | state <;> (rw [state]; rfl)
  | acknowledge =>
      refine weaken permitted fun row state => ?_
      rw [state]
      rfl
  | recoverHandoff =>
      refine weaken permitted fun row state => ?_
      rw [state]
      rfl
  | _ => cases dispatches

/-- A task may be resumed after another one: a response arrives, an owned effect ends or
starts with its read, or the task itself starts. -/
def takesTurn : Event Effects → Bool
  | ⟨.recv _ _, _⟩ => true
  | ⟨.joined, _⟩ => true
  | ⟨.get _, _⟩ => true
  | _ => false

/-- The tasks of one event loop: between two of its turns a task goes on by itself. -/
def oneLoop : Restriction Effects World := fun _ log i e =>
  takesTurn e = true ∨ (log.of i).isEmpty = true ∨ (log.head?.map Prod.fst) = some i

instance (w : World) (log : Log Effects) (i : Nat) (e : Event Effects) :
    Decidable (oneLoop w log i e) := by
  unfold oneLoop
  infer_instance

/-- The operations of the log took their turns. -/
def Turns : Log Effects → Prop
  | [] => True
  | (i, e) :: log => (∀ w, oneLoop w log i e) ∧ Turns log

theorem LeaseTrail.turns (trail : LeaseTrail d callers oneLoop clock m) : Turns m.log := by
  refine Trail.invariant (P := fun m => Turns m.log) trail (fun m m' turns move => ?_) trivial
  cases move with
  | act i e permitted promised performed kept => exact ⟨fun _ => kept, turns⟩
  | drift change drifted => exact turns

/-- Clock reads that follow a read of the same task follow it in the log. -/
theorem Turns.together {log : Log Effects} {i : Nat} {e : Event Effects}
    {later earlier : Past} (turns : Turns log)
    (turn : log.head?.map Prod.fst = some i) (local_ : log.of i = later ++ e :: earlier)
    (clock : ∀ e ∈ later, readsClock e = true) :
    ∃ before, log = later.map (Prod.mk i) ++ (i, e) :: before := by
  induction later generalizing log with
  | nil =>
      cases log with
      | nil => cases turn
      | cons entry log =>
          obtain ⟨j, e'⟩ := entry
          have same : j = i := by simpa using turn
          subst same
          rw [Log.of_cons_self] at local_
          cases local_
          exact ⟨log, rfl⟩
  | cons first later ih =>
      cases log with
      | nil => cases turn
      | cons entry log =>
          obtain ⟨j, e'⟩ := entry
          have same : j = i := by simpa using turn
          subst same
          rw [Log.of_cons_self] at local_
          obtain ⟨is, rest⟩ := List.cons.inj local_
          subst is
          -- A clock read is no turn, and the task has been running, so it goes on by itself.
          have goesOn : log.head?.map Prod.fst = some j := by
            have reads := clock e' List.mem_cons_self
            rcases turns.1 (World.empty 0) with turn | started | goesOn
            · obtain ⟨op, reply⟩ := e'
              cases op <;> simp_all [readsClock, takesTurn]
            · rw [rest] at started
              simp at started
            · exact goesOn
          obtain ⟨before, is⟩ := ih turns.2 goesOn rest fun e member =>
            clock e (List.mem_cons_of_mem _ member)
          exact ⟨before, by rw [is]; rfl⟩

/-- Clock reads commit nothing. -/
theorem committed_clock {later : Past} {before : Log Effects} {i : Nat} {row : Lease}
    (clock : ∀ e ∈ later, readsClock e = true) :
    Committed (later.map (Prod.mk i) ++ before) row ↔ Committed before row := by
  induction later with
  | nil => exact Iff.rfl
  | cons first later ih =>
      have reads := clock first List.mem_cons_self
      rw [List.map_cons, List.cons_append, Committed.cons,
        ih fun e member => clock e (List.mem_cons_of_mem _ member)]
      refine or_iff_right fun here => ?_
      obtain ⟨op, reply⟩ := first
      cases op <;> simp_all [readsClock, commits]

/-- In one event loop, a request to the worker goes out only while no stop is on record. -/
theorem LeaseTrail.dispatch_unstopped (trail : LeaseTrail d callers oneLoop clock m)
    {later earlier : Log Effects} {i id : Nat} {token : String} {call : Call}
    (split : m.log = later ++ (i, ⟨.send token call, id⟩) :: earlier)
    (dispatches : call.dispatches = true) {row : Lease} (committed : Committed earlier row)
    (same : row.cleanupToken = token) (protocol : row.protocolOne = true) :
    row.stopped = false := by
  obtain ⟨before, _, walked, log, permitted, _, turn, _⟩ := trail.act_of_mem split
  obtain ⟨read, others, current, past, reads, own, unstopped⟩ :=
    PermitsCall.unstopped permitted dispatches
  -- The task has read the row and gone on by itself, so nothing was written since.
  have turns := walked.turns
  rw [log] at turns
  have goesOn : earlier.head?.map Prod.fst = some i := by
    rcases turn with turn | started | goesOn
    · cases turn
    · rw [past] at started
      simp at started
    · exact goesOn
  obtain ⟨rest, is⟩ := turns.together goesOn past reads
  obtain ⟨shown, _, seen, atRead, _, look, _⟩ := walked.act_of_mem (log.trans is)
  obtain ⟨member, _⟩ := Rows.get_some (perform_get.mp look).1
  have earlierCommit : Committed shown.log row := by
    rw [is, committed_clock reads, Committed.cons] at committed
    rw [atRead]
    exact committed.resolve_left fun here => here
  by_contra still
  rw [Bool.not_eq_false] at still
  have stop := seen.stop_kept row earlierCommit current member
    (own.trans same.symm) protocol still
  rw [unstopped] at stop
  cases stop

/-- Stop is sticky.  In every run, however its tasks interleave: once a protocol-1 lease is
stopped it stays in a state of its stop, and a request that hands work or an acknowledgement
to the worker goes out on a row that its task has just read and that was not stopped.  In one
event loop such a request goes out only while no stop is on record. -/
theorem stop_is_sticky {c : Config Effects Exn World}
    (run : ServiceRun d callers anyMove clock c) :
    (∀ old, Committed c.log old → old.protocolOne = true → old.stopped = true →
      ∀ now ∈ c.world.rows, now.cleanupToken = old.cleanupToken → now.state.isStop = true) ∧
    ∀ (later earlier : Log Effects) i token call id, call.dispatches = true →
      c.log = later ++ (i, ⟨.send token call, id⟩) :: earlier →
      (JustRead (earlier.of i) token fun row => row.protocolOne = true → row.stopped = false) ∧
      (ServiceRun d callers oneLoop clock c → ∀ row, Committed earlier row →
        row.cleanupToken = token → row.protocolOne = true → row.stopped = false) := by
  have trail := run.trail
  refine ⟨fun old committed protocol stopped now member same =>
    trail.stop_kept old committed now member same protocol stopped, ?_⟩
  intro later earlier i token call id dispatches split
  refine ⟨?_, fun looped row committed same protocol =>
    looped.trail.dispatch_unstopped split dispatches committed same protocol⟩
  obtain ⟨before, _, walked, log, permitted, _⟩ := trail.act_of_mem split
  obtain ⟨read, others, row, past, reads, own, unstopped⟩ :=
    PermitsCall.unstopped permitted dispatches
  refine ⟨read, others, row, past, reads, own, fun protocol => ?_⟩
  by_contra still
  rw [Bool.not_eq_false] at still
  have shown : Shown (before.log.of i) row := by
    rw [log, past]
    exact ⟨⟨.get token, some row⟩, by simp, rfl⟩
  have stop := walked.isStop_of_stopped (walked.consistent.committed shown) protocol still
  rw [unstopped] at stop
  cases stop

/-! ### A response after the stop -/

section

open Sample

/-- Bring the capacity up, submit, and stop before the submission is answered. -/
def lateResponse : Schedule digests agreed :=
  bringUp ++
    [.spawn 1 _ (.submitCatalogWorkload service "capacity-1" "owner-0001" "workload-1" configured),
      runs 1 20, gets 1 comesUp, runs 1 20,
      .spawn 2 _ (.requestCancellation "capacity-1"), runs 2 20,
      gets 1 accepts, runs 1 20]
where
  /-- The worker has started on the submission. -/
  accepts : (call : Call) → Option (Except Exn call.Value)
    | .submit _ _ _ => some (.ok ⟨{
        attemptId := "attempt-1"
        requestSha256 := some (hex '2')
        state := .running
        errorType := none
        resultAvailable := false
        resultSha256 := none
        receiptSha256 := none
        acknowledgementSha256 := none }, by decide +kernel⟩)
    | _ => none

/-- The event dispatches a submission for the lease. -/
def submitsFor (token : String) : Event Effects → Bool
  | ⟨.send sender (.submit _ _ _), _⟩ => sender = token
  | _ => false

theorem submitsFor_eq_true {token : String} {e : Event Effects}
    (submits : submitsFor token e = true) :
    ∃ url attempt sha, ∃ id : Nat, e = ⟨.send token (.submit url attempt sha), id⟩ := by
  unfold submitsFor at submits
  split at submits
  · rw [decide_eq_true_eq] at submits
    subst submits
    exact ⟨_, _, _, _, rfl⟩
  · cases submits

/-- A submission was dispatched before the stop, and answered after it. -/
theorem stop_is_sticky_late :
    ∃ c row later earlier i id url attempt sha, ServiceRun digests agreed oneLoop (seconds 250) c ∧
      c.log = later ++ (i, ⟨.send row.cleanupToken (.submit url attempt sha), id⟩) :: earlier ∧
      row ∈ c.world.rows ∧ row.protocolOne = true ∧ row.state.isStop = true ∧
      ∀ old, Committed earlier old → old.cleanupToken = row.cleanupToken →
        old.protocolOne = true → old.stopped = false := by
  obtain ⟨c, run, checked⟩ := exhibits lateResponse oneLoop (seconds 250)
    (fun c => c.world.rows.any fun row => row.protocolOne && row.stopped &&
      c.log.any fun entry => submitsFor row.cleanupToken entry.2) (by decide +kernel)
  obtain ⟨row, member, is⟩ := List.any_eq_true.mp checked
  simp only [Bool.and_eq_true, List.any_eq_true] at is
  obtain ⟨⟨protocol, stopped⟩, ⟨i, e⟩, logged, submits⟩ := is
  obtain ⟨later, earlier, split⟩ := List.append_of_mem logged
  obtain ⟨url, attempt, sha, id, rfl⟩ := submitsFor_eq_true submits
  obtain ⟨sticky, dispatched⟩ := stop_is_sticky (run.relax fun _ _ _ _ _ => trivial)
  have committed := run.trail.consistent.current row member
  exact ⟨c, row, later, earlier, i, id, url, attempt, sha, run, split, member, protocol,
    sticky row committed protocol stopped row member rfl,
    (dispatched later earlier i row.cleanupToken (.submit url attempt sha) id rfl split).2 run⟩

end

end KestrelRunpod.Pod
