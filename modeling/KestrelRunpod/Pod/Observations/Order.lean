import KestrelRunpod.Pod.Observations.Recording
import KestrelRunpod.Pod.System.Schedule
import Mathlib.Data.Finset.Insert
import Mathlib.Data.Finset.Dedup

/-!
# The order of worker observations

Answers of the worker are recorded in whatever order they arrive.  On the phases of a job the
step is a maximum by rank (`advance`), so a sequence leaves the furthest phase of its set
(`furthest`).  Two kinds of step are not: an answer that is refused for its instant while it
would take the workload further (`Lease.belated`), and a failure or a cancellation, which has no
rank and is written over an acknowledgement as well (`Lease.overturned`).
-/

namespace KestrelRunpod.Pod

open Interleave Program

/-! ## The furthest phase -/

/-- A phase of the job before it fails or is cancelled, as protocol 1 reports it. -/
def WorkloadState.isPhase : WorkloadState → Bool
  | .idle | .running | .awaitingAck | .acknowledged => true
  | _ => false

/-- A phase is replaced by one that is as far or further. -/
def advance (recorded observed : WorkloadState) : WorkloadState :=
  if observed.rank.getD 4 < recorded.rank.getD 4 then recorded else observed

/-- The furthest phase observed, or the recorded one while nothing is observed. -/
def furthest (recorded : WorkloadState) (observed : Finset WorkloadState) : WorkloadState :=
  if .acknowledged ∈ insert recorded observed then .acknowledged
  else if .awaitingAck ∈ insert recorded observed then .awaitingAck
  else if .running ∈ insert recorded observed then .running
  else if .idle ∈ insert recorded observed then .idle
  else recorded

/-- A phase on record, or none yet. -/
def WorkloadState.isRecorded (recorded : WorkloadState) : Bool :=
  recorded = .notSubmitted || recorded.isPhase

theorem advance_isRecorded {recorded observed : WorkloadState}
    (old : recorded.isRecorded = true) (phase : observed.isPhase = true) :
    (advance recorded observed).isRecorded = true := by
  unfold advance
  split
  · exact old
  · unfold WorkloadState.isRecorded
    rw [phase, Bool.or_true]

/-- The furthest phase is reached step by step. -/
theorem furthest_advance {recorded observed : WorkloadState} {rest : Finset WorkloadState}
    (old : recorded.isRecorded = true) (phase : observed.isPhase = true) :
    furthest (advance recorded observed) rest = furthest recorded (insert observed rest) := by
  cases recorded <;> simp [WorkloadState.isRecorded, WorkloadState.isPhase] at old <;>
    cases observed <;> simp [WorkloadState.isPhase] at phase <;>
      simp [furthest, advance, WorkloadState.rank]

/-- Advancing through any sequence of phases ends at the furthest of their set. -/
theorem foldl_advance {states : List WorkloadState} {recorded : WorkloadState}
    (old : recorded.isRecorded = true) (phases : ∀ s ∈ states, s.isPhase = true) :
    states.foldl advance recorded = furthest recorded states.toFinset := by
  induction states generalizing recorded with
  | nil => cases recorded <;> simp_all [furthest, WorkloadState.isRecorded, WorkloadState.isPhase]
  | cons observed rest ih =>
      have phase := phases observed List.mem_cons_self
      have others : ∀ s ∈ rest, s.isPhase = true := fun s member =>
        phases s (List.mem_cons_of_mem observed member)
      rw [List.foldl_cons, ih (advance_isRecorded old phase) others, furthest_advance old phase,
        List.toFinset_cons]

section

variable {row : Lease} {spec : CapacitySpec} {intent handoff after : Handoff} {t : Instant}
  {δ : Delivery}

/-! ## Sequences -/

/-- The answer would take the workload further, and its instants keep it from being recorded. -/
def Lease.belated (row : Lease) (δ : Delivery) : Bool :=
  δ.observation.state.isPhase && row.displaced δ &&
    decide (advance row.workloadState δ.observation.state ≠ row.workloadState)

/-- The workload failed or was cancelled, as far as the answer says. -/
def WorkloadState.isFailure : WorkloadState → Bool
  | .failed | .cancelled | .cancelRequested => true
  | _ => false

/-- The answer reports a failure or a cancellation of an acknowledged workload. -/
def Lease.overturned (row : Lease) (δ : Delivery) : Bool :=
  decide (row.workloadState = .acknowledged) && δ.observation.state.isFailure &&
    !row.displaced δ

/-- No answer of the sequence is belated, and none overturns an acknowledgement. -/
def Lease.Smooth (row : Lease) : List Delivery → Prop
  | [] => True
  | δ :: rest => row.belated δ = false ∧ row.overturned δ = false ∧ (row.record δ).Smooth rest

/-- The clock reads of a sequence do not go back, nor before `t`. -/
def InTime (t : Instant) : List Delivery → Prop
  | [] => True
  | δ :: rest => t ≤ δ.readAt ∧ InTime δ.readAt rest

/-- The remote acknowledgement is on record. -/
def Lease.Proven (row : Lease) : Prop :=
  ∃ handoff, row.artifactHandoff = some handoff ∧ handoff.remoteAckObservedAt ≠ none

/-- A row of a job that is under way as its workload state says, or is stopped. -/
inductive Lease.Stage (row : Lease) : Prop
  | working : row.workloadState.isRecorded = true →
      row.state = row.workloadState.leads .ready →
      (row.workloadState = .acknowledged → row.Proven) → Stage row
  | stopped : row.state = .cancelRequested → row.workloadState.isFailure = true → Stage row

/-- A row whose workload has not failed is under way. -/
theorem Lease.Stage.state {row : Lease} (stage : row.Stage)
    (recorded : row.workloadState.isRecorded = true) :
    row.state = row.workloadState.leads .ready := by
  cases stage with
  | working _ is _ => exact is
  | stopped _ failed =>
      cases workload : row.workloadState <;> simp_all [WorkloadState.isRecorded,
        WorkloadState.isPhase, WorkloadState.isFailure]

/-- A stopped row takes no progress. -/
theorem Lease.takes_stopped {o : Observation} (stopped : row.state = .cancelRequested) :
    row.takes o = false := by
  have refuses : row.refusesProgress = true := by
    unfold refusesProgress
    rw [stopped]
    simp
  simp only [takes, refuses, Bool.not_true, Bool.false_and]

/-- A row under way takes every answer that is not behind it. -/
theorem Lease.takes_working {o : Observation} (recorded : row.workloadState.isRecorded = true)
    (state : row.state = row.workloadState.leads .ready) :
    row.takes o = false ↔ ∃ rank, o.state.rank = some rank ∧
      rank < row.workloadState.rank.getD 4 := by
  have admits : row.refusesProgress = false := by
    unfold refusesProgress isTerminal
    rw [state]
    cases workload : row.workloadState <;>
      simp_all [WorkloadState.isRecorded, WorkloadState.isPhase, WorkloadState.leads]
  unfold takes regresses
  rw [admits, Bool.not_false, Bool.true_and]
  cases o.state.rank with
  | none => simp
  | some rank => simp

/-- No answer changes the handoff of a proven acknowledgement. -/
theorem Lease.HandoffAfter.kept {now : Lease} (handoffs : row.HandoffAfter δ now)
    (proven : row.Proven) : now.artifactHandoff = row.artifactHandoff := by
  obtain ⟨handoff, has, observed⟩ := proven
  obtain ⟨after, recorded, fields⟩ := handoffs handoff has
  have same : after.toHandoffFields = handoff.toHandoffFields := by
    rw [fields]
    split
    · unfold HandoffFields.proved
      cases remote : handoff.remoteAckObservedAt with
      | none => exact absurd remote observed
      | some at_ => rw [Option.some_or, ← remote]
    · rfl
  rw [recorded, has, Option.some.injEq]
  cases after
  cases handoff
  cases same
  rfl

theorem Lease.HandoffAfter.proven {now : Lease} (handoffs : row.HandoffAfter δ now)
    (proven : row.Proven) : now.Proven := by
  unfold Proven
  rw [handoffs.kept proven]
  exact proven

/-- An acknowledged answer proves the intent on record. -/
theorem Lease.HandoffAfter.acknowledged {now : Lease} (handoffs : row.HandoffAfter δ now)
    (intends : row.Intends spec intent t) (acked : δ.observation.state = .acknowledged) :
    now.Proven := by
  obtain ⟨handoff, _, has, _⟩ := intends.handoff
  obtain ⟨after, recorded, fields⟩ := handoffs handoff has
  rw [if_pos acked] at fields
  refine ⟨after, recorded, ?_⟩
  rw [fields]
  unfold HandoffFields.proved
  cases handoff.remoteAckObservedAt <;> simp

/-- Every answer leaves a row under way, or stopped. -/
theorem Lease.record_stage (intends : row.Intends spec intent t)
    (authentic : δ.observation.Authentic intent) (later : t ≤ δ.readAt) (stage : row.Stage) :
    (row.record δ).Stage := by
  obtain ⟨outcome, _⟩ := row.record_authentic intends authentic later
  generalize row.record δ = now at outcome
  cases outcome with
  | refused why => exact stage
  | proof now takes handoffs workload state phases =>
      cases stage with
      | working recorded is proven =>
          refine .working ?_ ?_ fun acked => ?_
          · rw [workload]
            exact recorded
          · rw [workload, state]
            exact is
          · rw [workload] at acked
            exact handoffs.proven (proven acked)
      | stopped is failed => exact .stopped (state.trans is) (by rw [workload]; exact failed)
  | progress now unfinished takes displaced handoffs workload state phases =>
      cases stage with
      | stopped is _ =>
          rw [takes_stopped is] at takes
          cases takes
      | working recorded is proven =>
          cases reported : δ.observation.state with
          | succeeded => exact absurd reported unfinished
          | failed | cancelled | cancelRequested =>
              rw [reported] at state workload
              exact .stopped state (by rw [workload]; rfl)
          | running | awaitingAck | acknowledged =>
              rw [reported] at state workload
              refine .working (by rw [workload]; rfl) (by rw [workload]; exact state)
                fun acked => ?_
              rw [workload] at acked
              first | exact handoffs.acknowledged intends reported | cases acked
          | notSubmitted | idle =>
              rw [reported] at state workload
              have waiting : ¬ 0 < row.workloadState.rank.getD 4 := fun behind => by
                rw [(takes_working recorded is).mpr ⟨0, by rw [reported]; rfl, behind⟩] at takes
                cases takes
              have ready : row.state = .ready := by
                rw [is]
                cases old : row.workloadState <;> simp_all [WorkloadState.rank,
                  WorkloadState.leads]
              refine .working (by rw [workload]; rfl) ?_ fun acked => ?_
              · rw [workload]
                exact state.trans ready
              · rw [workload] at acked
                cases acked

/-- A phase that is not belated advances a row under way. -/
theorem Lease.record_advances (intends : row.Intends spec intent t)
    (authentic : δ.observation.Authentic intent) (later : t ≤ δ.readAt)
    (recorded : row.workloadState.isRecorded = true)
    (state : row.state = row.workloadState.leads .ready)
    (phase : δ.observation.state.isPhase = true) (timely : row.belated δ = false) :
    (row.record δ).workloadState = advance row.workloadState δ.observation.state := by
  obtain ⟨outcome, _⟩ := row.record_authentic intends authentic later
  generalize row.record δ = now at outcome
  cases outcome with
  | refused why =>
      rcases why with finished | ⟨_, displaced⟩
      · rw [finished] at phase
        cases phase
      · unfold belated at timely
        rw [phase, displaced, Bool.true_and, Bool.true_and, decide_eq_false_iff_not,
          not_not] at timely
        exact timely.symm
  | proof now behind handoffs workload _ _ =>
      obtain ⟨rank, is, less⟩ := (takes_working recorded state).mp behind
      rw [workload, advance, is, Option.getD_some, if_pos less]
  | progress now _ takes _ _ workload _ _ =>
      rw [workload, advance, if_neg fun less => ?_]
      cases is : δ.observation.state.rank with
      | none =>
          cases reported : δ.observation.state <;>
            simp_all [WorkloadState.isPhase, WorkloadState.rank]
      | some rank =>
          rw [is, Option.getD_some] at less
          rw [(takes_working recorded state).mpr ⟨rank, is, less⟩] at takes
          cases takes

/-- A row on which an acknowledgement has been recorded. -/
structure Lease.Sealed (row : Lease) : Prop where
  proven : row.Proven
  settled : (row.workloadState = .acknowledged ∧ row.state = .jobCompleted) ∨
    row.state = .cancelRequested

/-- What is left of a row after answers that follow an acknowledged one. -/
structure Lease.KeptBy (row now : Lease) : Prop where
  workload : now.workloadState = row.workloadState
  state : now.state = row.state
  handoff : now.artifactHandoff = row.artifactHandoff
  instants : ∃ later, now.phases = row.phases.firstWins later

theorem Lease.KeptBy.refl (row : Lease) : row.KeptBy row :=
  ⟨rfl, rfl, rfl, {}, by simp only [Phases.firstWins, Option.or_none]⟩

theorem Lease.KeptBy.trans {a b c : Lease} (first : a.KeptBy b) (second : b.KeptBy c) :
    a.KeptBy c := by
  obtain ⟨early, is⟩ := first.instants
  obtain ⟨late, is'⟩ := second.instants
  refine ⟨second.workload.trans first.workload, second.state.trans first.state,
    second.handoff.trans first.handoff, early.firstWins late, ?_⟩
  rw [is', is]
  simp only [Phases.firstWins, Option.or_assoc]

theorem Lease.Sealed.kept {now : Lease} (sealed_ : row.Sealed) (kept : row.KeptBy now) :
    now.Sealed := by
  obtain ⟨handoff, has, observed⟩ := sealed_.proven
  refine ⟨⟨handoff, kept.handoff.trans has, observed⟩, ?_⟩
  rw [kept.workload, kept.state]
  exact sealed_.settled

/-- An answer that overturns nothing leaves a sealed row as it is. -/
theorem Lease.record_sealed (intends : row.Intends spec intent t)
    (authentic : δ.observation.Authentic intent) (later : t ≤ δ.readAt) (sealed_ : row.Sealed)
    (upheld : row.overturned δ = false) : row.KeptBy (row.record δ) := by
  obtain ⟨outcome, _⟩ := row.record_authentic intends authentic later
  generalize row.record δ = now at outcome
  cases outcome with
  | refused why => exact .refl row
  | proof now _ handoffs workload state phases =>
      refine ⟨workload, state, handoffs.kept sealed_.proven, {}, ?_⟩
      rw [phases]
      simp only [Phases.firstWins, Option.or_none]
  | progress now unfinished takes displaced handoffs workload state phases =>
      rcases sealed_.settled with ⟨acked, completed⟩ | stopped
      · have working : row.state = row.workloadState.leads .ready := by
          rw [acked, completed]
          rfl
        have recorded : row.workloadState.isRecorded = true := by
          rw [acked]
          rfl
        have onward : ¬ ∃ rank, δ.observation.state.rank = some rank ∧
            rank < row.workloadState.rank.getD 4 := fun behind => by
          rw [(takes_working recorded working).mpr behind] at takes
          cases takes
        rw [acked] at onward
        have reported : δ.observation.state = .acknowledged := by
          unfold overturned at upheld
          rw [acked, displaced] at upheld
          cases is : δ.observation.state <;>
            simp_all [WorkloadState.rank, WorkloadState.isFailure]
        rw [reported] at workload state
        exact ⟨workload.trans acked.symm, state.trans completed.symm,
          handoffs.kept sealed_.proven, δ.phases, phases⟩
      · rw [takes_stopped stopped] at takes
        cases takes

/-- An acknowledged answer that is not belated seals the row. -/
theorem Lease.record_acknowledged (intends : row.Intends spec intent t)
    (authentic : δ.observation.Authentic intent) (later : t ≤ δ.readAt) (stage : row.Stage)
    (acked : δ.observation.state = .acknowledged) (timely : row.belated δ = false) :
    (row.record δ).Sealed := by
  obtain ⟨outcome, _⟩ := row.record_authentic intends authentic later
  cases stage with
  | working recorded state proven =>
      have advanced := row.record_advances intends authentic later recorded state
        (by rw [acked]; rfl) timely
      have furthest : advance row.workloadState .acknowledged = .acknowledged := by
        cases is : row.workloadState <;> simp_all [advance, WorkloadState.rank,
          WorkloadState.isRecorded, WorkloadState.isPhase]
      rw [acked, furthest] at advanced
      generalize row.record δ = now at outcome advanced
      cases outcome with
      | refused why =>
          refine ⟨proven advanced, .inl ⟨advanced, ?_⟩⟩
          rw [state, advanced]
          rfl
      | proof now _ handoffs workload stays _ =>
          refine ⟨handoffs.acknowledged intends acked, .inl ⟨advanced, ?_⟩⟩
          rw [stays, state, ← workload, advanced]
          rfl
      | progress now _ _ _ handoffs _ stays _ =>
          rw [acked] at stays
          exact ⟨handoffs.acknowledged intends acked, .inl ⟨advanced, stays⟩⟩
  | stopped is _ =>
      generalize row.record δ = now at outcome
      cases outcome with
      | refused why =>
          rcases why with finished | ⟨takes, _⟩
          · rw [acked] at finished
            cases finished
          · rw [takes_stopped is] at takes
            cases takes
      | proof now _ handoffs _ stays _ =>
          exact ⟨handoffs.acknowledged intends acked, .inr (stays.trans is)⟩
      | progress now _ takes _ _ _ _ _ =>
          rw [takes_stopped is] at takes
          cases takes

/-- Answers after a sealing one leave the row as it is. -/
theorem Lease.recordAll_sealed {deliveries : List Delivery}
    (intends : row.Intends spec intent t) (sealed_ : row.Sealed) (inTime : InTime t deliveries)
    (authentic : ∀ δ ∈ deliveries, δ.observation.Authentic intent)
    (smooth : row.Smooth deliveries) : row.KeptBy (row.recordAll deliveries) := by
  induction deliveries generalizing row t with
  | nil => exact .refl row
  | cons δ rest ih =>
      obtain ⟨later, inTime⟩ := inTime
      obtain ⟨_, upheld, smooth⟩ := smooth
      have own := authentic δ List.mem_cons_self
      have kept := row.record_sealed intends own later sealed_ upheld
      have onward := (row.record_authentic intends own later).2
      have others : ∀ δ' ∈ rest, δ'.observation.Authentic intent := fun δ' member =>
        authentic δ' (List.mem_cons_of_mem δ member)
      exact kept.trans (ih onward (sealed_.kept kept) inTime others smooth)

/-- The states that a sequence reports. -/
def reportedStates (deliveries : List Delivery) : Finset WorkloadState :=
  (deliveries.map fun δ => δ.observation.state).toFinset

/-- A ready row of the intent's attempt, with no job reported yet. -/
structure Lease.ReadyFor (row : Lease) (spec : CapacitySpec) (intent : Handoff) (t : Instant) :
    Prop extends row.Intends spec intent t where
  ready : row.state = .ready
  fresh : row.workloadState = .notSubmitted ∨ row.workloadState = .idle

theorem Lease.ReadyFor.stage (ready : row.ReadyFor spec intent t) : row.Stage := by
  rcases ready.fresh with fresh | fresh
  · exact .working (by rw [fresh]; rfl) (by rw [fresh]; exact ready.ready)
      fun acked => by rw [fresh] at acked; cases acked
  · exact .working (by rw [fresh]; rfl) (by rw [fresh]; exact ready.ready)
      fun acked => by rw [fresh] at acked; cases acked

/-- What recording a sequence of answers leaves: the furthest phase of their set where all of
them report phases of the job, and everything as it was from an acknowledged answer on. -/
structure Lease.Commutes (row : Lease) (deliveries : List Delivery) : Prop where
  furthest : (∀ δ ∈ deliveries, δ.observation.state.isPhase = true) →
    (row.recordAll deliveries).workloadState = furthest row.workloadState (reportedStates deliveries)
  completed : (∀ δ ∈ deliveries, δ.observation.state.isPhase = true) →
    .acknowledged ∈ reportedStates deliveries → (row.recordAll deliveries).state = .jobCompleted
  kept : ∀ before δ after, deliveries = before ++ δ :: after →
    δ.observation.state = .acknowledged →
    (row.recordAll (before ++ [δ])).KeptBy (row.recordAll deliveries)

/-- Phases that are not belated advance a row under way one after the other. -/
theorem Lease.recordAll_advances {deliveries : List Delivery}
    (intends : row.Intends spec intent t) (inTime : InTime t deliveries)
    (authentic : ∀ δ ∈ deliveries, δ.observation.Authentic intent)
    (smooth : row.Smooth deliveries) (recorded : row.workloadState.isRecorded = true)
    (stage : row.Stage)
    (phases : ∀ δ ∈ deliveries, δ.observation.state.isPhase = true) :
    (row.recordAll deliveries).workloadState =
        (deliveries.map fun δ => δ.observation.state).foldl advance row.workloadState ∧
      (row.recordAll deliveries).state =
        (row.recordAll deliveries).workloadState.leads .ready := by
  induction deliveries generalizing row t with
  | nil => exact ⟨rfl, stage.state recorded⟩
  | cons δ rest ih =>
      obtain ⟨later, inTime⟩ := inTime
      obtain ⟨timely, _, smooth⟩ := smooth
      have own := authentic δ List.mem_cons_self
      have phase := phases δ List.mem_cons_self
      have advanced := row.record_advances intends own later recorded (stage.state recorded)
        phase timely
      have onward := (row.record_authentic intends own later).2
      have stage' := row.record_stage intends own later stage
      have recorded' : (row.record δ).workloadState.isRecorded = true := by
        rw [advanced]
        exact advance_isRecorded recorded phase
      have others : ∀ δ' ∈ rest, δ'.observation.Authentic intent := fun δ' member =>
        authentic δ' (List.mem_cons_of_mem δ member)
      rw [List.map_cons, List.foldl_cons, ← advanced]
      exact ih onward inTime others smooth recorded' stage' fun δ' member =>
        phases δ' (List.mem_cons_of_mem δ member)

/-- Any sequence leaves the job, and a row under way or stopped. -/
theorem Lease.recordAll_stage {deliveries : List Delivery} {after : List Delivery}
    (intends : row.Intends spec intent t) (inTime : InTime t (deliveries ++ after))
    (authentic : ∀ δ ∈ deliveries, δ.observation.Authentic intent)
    (smooth : row.Smooth (deliveries ++ after)) (stage : row.Stage) :
    ∃ u, (row.recordAll deliveries).Intends spec intent u ∧ InTime u after ∧
      (row.recordAll deliveries).Smooth after ∧ (row.recordAll deliveries).Stage := by
  induction deliveries generalizing row t with
  | nil => exact ⟨t, intends, inTime, smooth, stage⟩
  | cons δ rest ih =>
      obtain ⟨later, inTime⟩ := inTime
      obtain ⟨_, _, smooth⟩ := smooth
      have own := authentic δ List.mem_cons_self
      have others : ∀ δ' ∈ rest, δ'.observation.Authentic intent := fun δ' member =>
        authentic δ' (List.mem_cons_of_mem δ member)
      exact ih (row.record_authentic intends own later).2 inTime others smooth
        (row.record_stage intends own later stage)

/-- In a smooth sequence, recording commutes and keeps an acknowledgement. -/
theorem Lease.ReadyFor.commutes {deliveries : List Delivery} (ready : row.ReadyFor spec intent t)
    (inTime : InTime t deliveries)
    (authentic : ∀ δ ∈ deliveries, δ.observation.Authentic intent)
    (smooth : row.Smooth deliveries) : row.Commutes deliveries := by
  have recorded : row.workloadState.isRecorded = true := by
    rcases ready.fresh with fresh | fresh <;> (rw [fresh]; rfl)
  have advances := row.recordAll_advances ready.toIntends inTime authentic smooth recorded
    ready.stage
  have furthest_ : (∀ δ ∈ deliveries, δ.observation.state.isPhase = true) →
      (row.recordAll deliveries).workloadState =
        furthest row.workloadState (reportedStates deliveries) := by
    intro phases
    rw [(advances phases).1, foldl_advance recorded]
    · rfl
    · intro state member
      obtain ⟨δ, there, rfl⟩ := List.mem_map.mp member
      exact phases δ there
  refine ⟨furthest_, fun phases acked => ?_, ?_⟩
  · rw [(advances phases).2, furthest_ phases, furthest, if_pos (Finset.mem_insert_of_mem acked)]
    rfl
  · rintro before δ after rfl acked
    have split : before ++ δ :: after = (before ++ [δ]) ++ after := by simp
    have first : ∀ δ' ∈ before, δ'.observation.Authentic intent := fun δ' member =>
      authentic δ' (List.mem_append_left _ member)
    have rest : ∀ δ' ∈ after, δ'.observation.Authentic intent := fun δ' member =>
      authentic δ' (List.mem_append_right _ (List.mem_cons_of_mem δ member))
    have own := authentic δ (List.mem_append_right _ List.mem_cons_self)
    obtain ⟨u, intends, ⟨later, inTime⟩, ⟨timely, _, smooth⟩, stage⟩ :=
      row.recordAll_stage ready.toIntends inTime first smooth ready.stage
    have sealed_ := record_acknowledged intends own later stage acked timely
    have onward := (record_authentic intends own later).2
    have kept := recordAll_sealed onward sealed_ inTime rest smooth
    rw [recordAll_append, recordAll_append]
    exact kept

end

/-! ## The service alone -/

section

variable {d : Digests} {w : World} {h : Past} {row : Lease}

/-- Recording an answer of the row's attempt, with the checks of its binding left out. -/
theorem Lease.recording_bound {spec : CapacitySpec} {δ : Delivery} {changes : Changes}
    {phases : Phases} (bound : row.capacitySpec = some spec)
    (agrees : ¬ (δ.observation.attemptId ≠ spec.request.attemptId ∨
      δ.observation.requestSha256 ≠ some spec.request.requestSha256))
    (ok : catalogObservationChanges row spec δ.observation δ.submitted δ.readAt =
      .ok (changes, phases)) :
    row.recording δ = if changes = {} then .ok row
      else (row.persisted changes { lifecycle := phases }).map row.apply := by
  unfold recording
  rw [bound]
  dsimp only
  rw [refuse, if_neg agrees, ok]
  simp only [Bind.bind, Except.bind, Pure.pure, Except.pure]
  cases row.persisted changes { lifecycle := phases } <;> rfl

/-- No answer reconciles billing. -/
theorem catalogObservationChanges_unbilled {spec : CapacitySpec} {observation : Observation}
    {submitted : Bool} {t : Instant} {changes : Changes} {phases : Phases}
    (ok : catalogObservationChanges row spec observation submitted t = .ok (changes, phases)) :
    phases.billingReconciledAt = none := by
  obtain ⟨handoff, observed⟩ := catalogObservationChanges_ok ok
  rcases observed.progress with ⟨_, _, rfl⟩ | ⟨_, _, _, plain, is, _⟩
  · rfl
  · unfold observedProgress at is
    dsimp only at is
    split at is <;> (cases is; split <;> rfl)

/-- Recording an answer on an active row that nobody else writes does what `record` says. -/
theorem recordCatalogObservation_records {svc : Service} {observation : Observation}
    {submitted : Bool} {fuel : Nat} {exit : Past → Prop} (positive : 0 < fuel)
    (transitions : 0 < svc.fuel) (holds : w.Holds row) (active : row.isTerminal = false) :
    (recordCatalogObservation svc row.cleanupToken observation submitted fuel).Alone (runtime d)
      exit (fun w' _ _ => ∃ t, w.clock ≤ t ∧ t ≤ w'.clock ∧
        w'.Holds (row.record ⟨observation, submitted, t⟩)) w h := by
  obtain ⟨fuel, rfl⟩ := Nat.exists_eq_succ_of_ne_zero positive.ne'
  unfold recordCatalogObservation
  rw [alone_do]
  refine alone_required holds fun w₁ later => ?_
  have holds₁ := holds.later later
  dsimp only
  -- An answer that is refused leaves the row, whatever the clock shows.
  have refused : ∀ w', w₁.Later w' → ∀ t, (∃ x, row.recording ⟨observation, submitted, t⟩ =
      .error x) → w'.Holds (row.record ⟨observation, submitted, t⟩) := by
    intro w' later' t failed
    obtain ⟨x, failed⟩ := failed
    rw [Lease.record, failed]
    exact holds₁.later later'
  rw [alone_do]
  unfold capacitySpec
  cases bound : row.capacitySpec with
  | none =>
      refine alone_throw _ ⟨w₁.clock, later.clock, le_rfl, refused w₁ (.refl w₁) _ ?_⟩
      rw [Lease.recording, bound]
      exact ⟨_, rfl⟩
  | some spec =>
      refine alone_pure spec ?_
      dsimp only
      split
      · rename_i differs
        refine alone_throw _ ⟨w₁.clock, later.clock, le_rfl, refused w₁ (.refl w₁) _ ?_⟩
        rw [Lease.recording, bound]
        dsimp only
        rw [refuse, if_pos differs]
        exact ⟨_, rfl⟩
      · rename_i agrees
        rw [alone_do]
        refine alone_now fun w₂ t later₂ is => ?_
        dsimp only
        rw [alone_do]
        refine alone_ofExcept ?_
        have holds₂ := holds₁.later later₂
        have since : w.clock ≤ t := is ▸ later.clock.trans later₂.clock
        cases changes : catalogObservationChanges row spec observation submitted t with
        | error x =>
            refine ⟨t, since, is.ge, refused w₂ later₂ t ⟨x, ?_⟩⟩
            rw [Lease.recording, bound]
            dsimp only
            rw [refuse, if_neg agrees, changes]
            rfl
        | ok both =>
            obtain ⟨columns, phases⟩ := both
            have recording := Lease.recording_bound (δ := ⟨observation, submitted, t⟩) bound
              agrees changes
            dsimp only
            split
            · rename_i nothing
              rw [if_pos nothing] at recording
              refine alone_pure row ⟨t, since, is.ge, ?_⟩
              rw [Lease.record, recording]
              exact holds₂
            · rename_i some_
              rw [if_neg some_] at recording
              obtain ⟨handoff, observed⟩ := catalogObservationChanges_ok changes
              have unbilled := catalogObservationChanges_unbilled changes
              rw [alone_do]
              unfold writeObservation
              rw [if_neg (by simp [active])]
              refine alone_except ?_
              rw [alone_bind]
              refine transitionWithEvidence_alone transitions holds₂ active observed.others.1
                (fun w₃ h₃ x failed later₃ _ => ?_) fun w₃ h₃ persisted ok holds₃ clock _ => ?_
              · have other : x.isConflict = false := by
                  unfold Lease.persisted at failed
                  cases has : row.evidence with
                  | none =>
                      rw [has] at failed
                      cases failed
                  | some e =>
                      rw [has] at failed
                      dsimp only at failed
                      cases merges : e.merge { lifecycle := phases } with
                      | ok merged =>
                          rw [merges] at failed
                          cases failed
                      | error y =>
                          rw [merges] at failed
                          cases failed
                          refine PodCapacityEvidence.merge_lifecycle_error ?_ merges
                          simp only [Phases.firstWins, unbilled, Option.or_none]
                dsimp only
                rw [if_neg (by simp [other])]
                refine ⟨t, since, is.ge.trans later₃.clock, refused w₃ (later₂.trans later₃) t ?_⟩
                rw [recording, failed]
                exact ⟨x, rfl⟩
              · refine alone_pure _ (alone_pure _ ⟨t, since, is.ge.trans clock, ?_⟩)
                rw [Lease.record, recording, ok]
                exact holds₃

theorem Lease.record_cleanupToken (row : Lease) (δ : Delivery) :
    (row.record δ).cleanupToken = row.cleanupToken := by
  unfold record
  cases is : row.recording δ with
  | error x => rfl
  | ok recorded =>
      unfold recording at is
      cases bound : row.capacitySpec with
      | none =>
          rw [bound] at is
          cases is
      | some spec =>
          rw [bound] at is
          dsimp only at is
          rw [refuse_bind_ok] at is
          obtain ⟨_, is⟩ := is
          simp only [Bind.bind, Except.bind, Pure.pure, Except.pure] at is
          split at is
          · cases is
          split at is
          · cases is
            rfl
          split at is
          · cases is
          · cases is
            rfl

/-- Answers recorded one after the other, whatever each recording ends with. -/
def recordEach (svc : Service) (token : String) : List (Observation × Bool) → Co Unit
  | [] => .pure ()
  | (observation, submitted) :: rest => do
      except (do
          let _ ← recordCatalogObservation svc token observation submitted svc.fuel
          .pure ())
        (fun _ => true) fun _ => .pure ()
      recordEach svc token rest

theorem InTime.mono {t u : Instant} {deliveries : List Delivery} (inTime : InTime u deliveries)
    (earlier : t ≤ u) : InTime t deliveries := by
  cases deliveries with
  | nil => trivial
  | cons δ rest => exact ⟨earlier.trans inTime.1, inTime.2⟩

theorem Lease.Intends.mono {spec : CapacitySpec} {intent : Handoff} {t u : Instant}
    (intends : row.Intends spec intent t) (later : t ≤ u) : row.Intends spec intent u := by
  obtain ⟨e, has, reserved, dated⟩ := intends.evidence
  exact { intends with evidence := ⟨e, has, reserved.trans later, dated.mono later⟩ }

/-- Recording answers one after the other is a fold of `record`. -/
theorem recordEach_records {svc : Service} {spec : CapacitySpec} {intent : Handoff}
    {exit : Past → Prop} {answers : List (Observation × Bool)} (fuel : 0 < svc.fuel)
    (holds : w.Holds row) (intends : row.Intends spec intent w.clock)
    (authentic : ∀ answer ∈ answers, answer.1.Authentic intent) :
    (recordEach svc row.cleanupToken answers).Alone (runtime d) exit (fun w' _ _ =>
      ∃ deliveries : List Delivery,
        deliveries.map (fun δ => (δ.observation, δ.submitted)) = answers ∧
          InTime w.clock deliveries ∧ w'.Holds (row.recordAll deliveries)) w h := by
  induction answers generalizing row w h with
  | nil => exact alone_pure () ⟨[], rfl, trivial, holds⟩
  | cons answer rest ih =>
      obtain ⟨observation, submitted⟩ := answer
      have own := authentic _ List.mem_cons_self
      have others : ∀ other ∈ rest, other.1.Authentic intent := fun other member =>
        authentic other (List.mem_cons_of_mem _ member)
      have onward : ∀ (w' : World) h', (∃ t, w.clock ≤ t ∧ t ≤ w'.clock ∧
          w'.Holds (row.record ⟨observation, submitted, t⟩)) →
          (recordEach svc row.cleanupToken rest).Alone (runtime d) exit (fun w' _ _ =>
            ∃ deliveries : List Delivery,
              deliveries.map (fun δ => (δ.observation, δ.submitted)) =
                  (observation, submitted) :: rest ∧
                InTime w.clock deliveries ∧ w'.Holds (row.recordAll deliveries)) w' h' := by
        intro w' h' recorded
        obtain ⟨t, since, till, holds'⟩ := recorded
        have next := (row.record_authentic (δ := ⟨observation, submitted, t⟩) intends own
          since).2.mono till
        have rest_ := ih (h := h') holds' next others
        rw [Lease.record_cleanupToken] at rest_
        refine rest_.mono fun w'' _ _ met => ?_
        obtain ⟨deliveries, is, inTime, final⟩ := met
        exact ⟨⟨observation, submitted, t⟩ :: deliveries, by rw [List.map_cons, is],
          ⟨since, inTime.mono till⟩, final⟩
      unfold recordEach
      rw [alone_do]
      refine alone_except ?_
      rw [alone_do]
      refine (recordCatalogObservation_records fuel fuel holds intends.active).mono
        fun w' h' o recorded => ?_
      cases o with
      | ok lease => exact alone_pure () (onward w' h' recorded)
      | error x =>
          dsimp only
          rw [if_pos rfl]
          exact alone_pure () (onward w' h' recorded)

/-- Worker observations of a ready lease whose acknowledgement intent is persisted.  Recorded
in any order, they end, and where no answer is belated and none overturns an acknowledgement
they leave the furthest phase of their set, and change nothing from an acknowledged one on. -/
theorem observations_commute {svc : Service} {spec : CapacitySpec} {intent : Handoff}
    {answers : List (Observation × Bool)} (fuel : 0 < svc.fuel) (holds : w.Holds row)
    (ready : row.ReadyFor spec intent w.clock)
    (authentic : ∀ answer ∈ answers, answer.1.Authentic intent) :
    (recordEach svc row.cleanupToken answers).Alone (runtime d) (fun _ => False)
      (fun w' _ _ => ∃ deliveries : List Delivery,
        deliveries.map (fun δ => (δ.observation, δ.submitted)) = answers ∧
          InTime w.clock deliveries ∧ w'.Holds (row.recordAll deliveries) ∧
            (row.Smooth deliveries → row.Commutes deliveries)) w [] := by
  have records : (recordEach svc row.cleanupToken answers).Alone (runtime d) (fun _ => False) _ w [] :=
    recordEach_records fuel holds ready.toIntends authentic
  refine records.mono fun w' _ _ met => ?_
  obtain ⟨deliveries, is, inTime, final⟩ := met
  refine ⟨deliveries, is, inTime, final, fun smooth => ?_⟩
  refine ready.commutes inTime (fun δ member => ?_) smooth
  have answered : (δ.observation, δ.submitted) ∈ answers := by
    rw [← is]
    exact List.mem_map.mpr ⟨δ, member, rfl⟩
  exact authentic _ answered

end

section

open Sample

/-- The acknowledgement intent of a result. -/
def intent : Handoff where
  attemptId := "attempt-1"
  requestSha256 := hex '2'
  resultSha256 := hex '5'
  receiptSha256 := hex '6'
  acknowledgementSha256 := some (hex '7')
  acknowledgementPayloadSha256 := some (hex 'e')
  checked := by decide +kernel

/-- The evidence of a capacity whose worker is ready. -/
def readyEvidence : PodCapacityEvidence where
  capacityId := "capacity-1"
  resourceName := "capacity-1"
  providerQuoteId := "quote-0001"
  catalogObservedAt := seconds 100
  attemptId := "attempt-1"
  requestSha256 := hex '2'
  imageDigest := "sha256:" ++ hex '3'
  acceptedGpuTypeId := "NVIDIA A100"
  acceptedGpuDisplayName := "A100"
  acceptedGpuCount := 1
  acceptedCloud := .secure
  acceptedHourlyRateUsd := 2
  lifecycle := ⟨⟨seconds 200, { workerReadyAt := some (seconds 260) }⟩, by decide +kernel⟩
  checked := by decide +kernel

/-- A ready capacity with an acknowledgement intent. -/
def readyRow : Lease where
  cleanupToken := "capacity-1"
  rootCleanupToken := "capacity-1"
  requestFingerprint := hex 'c'
  companionId := "owner-0001"
  profileId := "profile-1"
  source := .created
  resourceName := "capacity-1"
  providerPodId := some "pod-00001"
  ownership := .owned
  state := .ready
  cleanupState := .notRequested
  familyReleaseRequested := false
  familyReleaseComplete := false
  creationUncertain := false
  backendBaseUrl := some "https://pod-00001"
  providerJobId := none
  createdAt := seconds 200
  lastHeartbeatAt := seconds 260
  readinessDeadline := seconds 2000
  hardDeadline := seconds 8000
  lastProviderError := none
  stopAttempts := 0
  revision := 4
  capacitySpec := some spec
  workloadState := .notSubmitted
  workloadErrorType := none
  billingState := .pending
  billingReceipt := none
  terminatedAt := none
  evidence := some readyEvidence
  artifactHandoff := some intent

theorem readyRow_readyFor : readyRow.ReadyFor spec intent (seconds 300) where
  bound := rfl
  protocolOne := rfl
  attempt := rfl
  request := rfl
  intended := by decide
  active := rfl
  handoff := ⟨intent, none, rfl, rfl⟩
  evidence := ⟨readyEvidence, rfl, by decide,
    by simp [Phases.WorkingBy, Phases.working, readyEvidence, seconds]⟩
  ready := rfl
  fresh := .inl rfl

/-- The store with the ready capacity alone. -/
def readyWorld : World := ⟨[readyRow], seconds 300, []⟩

/-- An answer of the worker without a handoff. -/
def plainAnswer (state : WorkloadState) (plain : state ≠ .awaitingAck ∧ state ≠ .acknowledged) :
    Observation where
  attemptId := "attempt-1"
  requestSha256 := some (hex '2')
  state := state
  errorType := none
  resultAvailable := false
  checked := by
    obtain ⟨waiting, acked⟩ := plain
    cases state <;> first | rfl | exact absurd rfl waiting | exact absurd rfl acked

def acknowledgedAnswer : Observation where
  attemptId := "attempt-1"
  requestSha256 := some (hex '2')
  state := .acknowledged
  errorType := none
  resultAvailable := true
  resultSha256 := some (hex '5')
  receiptSha256 := some (hex '6')
  acknowledgementSha256 := some (hex '7')
  checked := by decide +kernel

theorem plainAnswer_authentic {state : WorkloadState}
    (plain : state ≠ .awaitingAck ∧ state ≠ .acknowledged) :
    (plainAnswer state plain).Authentic intent where
  attempt := rfl
  request := rfl
  result phase := (phase.elim plain.1 plain.2).elim
  receipt phase := (phase.elim plain.1 plain.2).elim
  acknowledgement acked := (plain.2 acked).elim

theorem acknowledgedAnswer_authentic : acknowledgedAnswer.Authentic intent :=
  ⟨rfl, rfl, fun _ => rfl, fun _ => rfl, fun _ => rfl⟩

/-- An acknowledged answer between two polls that still saw the job run. -/
def answers : List (Observation × Bool) :=
  [(plainAnswer .running (by decide), true), (acknowledgedAnswer, false),
    (plainAnswer .running (by decide), false)]

theorem observations_commute_acknowledged :
    (recordEach service readyRow.cleanupToken answers).Alone (runtime digests) (fun _ => False)
      (fun w' _ _ => ∃ deliveries : List Delivery,
        deliveries.map (fun δ => (δ.observation, δ.submitted)) = answers ∧
          InTime (seconds 300) deliveries ∧ w'.Holds (readyRow.recordAll deliveries) ∧
            (readyRow.Smooth deliveries → readyRow.Commutes deliveries))
      readyWorld [] := by
  have fuel : 0 < service.fuel := by decide
  have ready : readyRow.ReadyFor spec intent readyWorld.clock := readyRow_readyFor
  refine observations_commute fuel ⟨⟨?_, ?_⟩, List.mem_singleton.mpr rfl⟩ ready ?_
  · intro a ina b inb _
    rw [List.mem_singleton.mp ina, List.mem_singleton.mp inb]
  · intro a ina b inb clash
    cases List.mem_singleton.mp ina
    cases List.mem_singleton.mp inb
    exact clash.1 rfl
  · simp only [answers, List.mem_cons, List.not_mem_nil, or_false, forall_eq_or_imp, forall_eq]
    exact ⟨plainAnswer_authentic _, acknowledgedAnswer_authentic, plainAnswer_authentic _⟩

/-- A failure that is reported after the acknowledgement. -/
def overturning : List Delivery :=
  [⟨acknowledgedAnswer, false, seconds 310⟩,
    ⟨plainAnswer .failed (by decide), false, seconds 320⟩]

/-- A failure that is reported after an acknowledgement overturns it. -/
theorem failure_overturns_acknowledgement :
    ¬ ∀ (row : Lease) (spec : CapacitySpec) (intent : Handoff) (t : Instant)
      (deliveries : List Delivery), row.ReadyFor spec intent t → InTime t deliveries →
      (∀ δ ∈ deliveries, δ.observation.Authentic intent) → row.Commutes deliveries := by
  intro commutes
  have authentic : ∀ δ ∈ overturning, δ.observation.Authentic intent := by
    simp only [overturning, List.mem_cons, List.not_mem_nil, or_false, forall_eq_or_imp,
      forall_eq]
    exact ⟨acknowledgedAnswer_authentic, plainAnswer_authentic _⟩
  have kept := (commutes readyRow spec intent (seconds 300) overturning readyRow_readyFor
    (by simp [InTime, overturning, seconds]) authentic).kept [] _ _ rfl rfl
  have differs : (readyRow.recordAll overturning).workloadState ≠
      (readyRow.recordAll (overturning.take 1)).workloadState := by decide +kernel
  exact differs kept.workload

/-- The answer to a submission, recorded after a poll that saw the job run, is refused. -/
example : (readyRow.recordAll [⟨plainAnswer .running (by decide), false, seconds 310⟩,
    ⟨acknowledgedAnswer, true, seconds 320⟩]).workloadState = .running := by decide +kernel

end

end KestrelRunpod.Pod
