import KestrelRunpod.Interleave.Contract
import Mathlib.Logic.Relation
import Mathlib.Data.List.Basic

/-!
# Tasks sharing a world

Any number of effect programs run against one world.  A move starts a task, lets one task
perform its next operation and be resumed with a reply the world can give, or lets the
world change on its own.  The log records every operation with the task that performed it,
newest first, and is never read by a task.

* `Run.trail`: if every task that may be started keeps a contract, then every run of tasks
  is a trail, in which operations are only known to be permitted by the contract.  Safety
  is then proved about trails, with no program in sight.
* `Trail.invariant` packages the induction: what one moment passes to the next holds
  throughout.
* `execute` runs a schedule, so that a concrete run can be evaluated; `execute_run` says
  that what it computes is a run.
-/

namespace Interleave

/-- How operations act on a world of type `W`, and how the world changes on its own.  A
reply the world cannot give is `none`. -/
structure Runtime (S : Signature) (W D : Type) : Type where
  perform : W → Event S → Option W
  drift : W → D → Option W

/-- Every operation so far with the task that performed it, newest first. -/
abbrev Log (S : Signature) : Type := List (Nat × Event S)

/-- The local history of task `i`. -/
def Log.of {S : Signature} (log : Log S) (i : Nat) : History S :=
  (log.filter fun entry => entry.1 = i).map Prod.snd

section

variable {S : Signature} {log earlier : Log S} {i j : Nat} {e : Event S}

@[simp] theorem Log.of_nil : Log.of ([] : Log S) i = [] := rfl

@[simp] theorem Log.of_cons_self : Log.of ((i, e) :: log) i = e :: Log.of log i := by
  simp [Log.of]

theorem Log.of_cons_ne (different : j ≠ i) : Log.of ((j, e) :: log) i = Log.of log i := by
  simp [Log.of, different]

theorem Log.mem_of : e ∈ Log.of log i ↔ (i, e) ∈ log := by
  simp only [Log.of, List.mem_map, List.mem_filter, decide_eq_true_eq]
  constructor
  · rintro ⟨⟨j, e'⟩, ⟨member, rfl⟩, rfl⟩
    exact member
  · intro member
    exact ⟨(i, e), ⟨member, rfl⟩, rfl⟩

theorem Log.of_suffix (suffix : earlier <:+ log) : Log.of earlier i <:+ Log.of log i := by
  obtain ⟨later, rfl⟩ := suffix
  exact ⟨Log.of later i, by simp [Log.of]⟩

/-- A split of a local history comes from a split of the log. -/
theorem Log.exists_split {newer older : History S}
    (split : Log.of log i = newer ++ e :: older) :
    ∃ later earlier', log = later ++ (i, e) :: earlier' ∧ Log.of later i = newer ∧
      Log.of earlier' i = older := by
  induction log generalizing newer with
  | nil => simp at split
  | cons entry log ih =>
      obtain ⟨j, e'⟩ := entry
      by_cases same : j = i
      · subst same
        rw [Log.of_cons_self] at split
        cases newer with
        | nil =>
            simp only [List.nil_append, List.cons.injEq] at split
            obtain ⟨rfl, rfl⟩ := split
            exact ⟨[], log, rfl, rfl, rfl⟩
        | cons first newer =>
            simp only [List.cons_append, List.cons.injEq] at split
            obtain ⟨rfl, split⟩ := split
            obtain ⟨later, earlier', rfl, rfl, rfl⟩ := ih split
            exact ⟨(j, e') :: later, earlier', rfl, by simp, rfl⟩
      · rw [Log.of_cons_ne same] at split
        obtain ⟨later, earlier', rfl, rfl, rfl⟩ := ih split
        exact ⟨(j, e') :: later, earlier', rfl, by rw [Log.of_cons_ne same], rfl⟩

end

/-! ## Runs of tasks -/

variable {S : Signature} {ε α W D : Type}

/-- The world, the log, and what remains of every task started so far. -/
structure Config (S : Signature) (ε W : Type) : Type where
  world : W
  log : Log S
  tasks : Nat → Option (Program S ε Unit)

/-- No task has been started. -/
def Config.initial (S : Signature) (ε : Type) (w : W) : Config S ε W := ⟨w, [], fun _ => none⟩

/-- Restriction on one operation: the world and the log before it, the task, the event. -/
abbrev Restriction (S : Signature) (W : Type) : Type := W → Log S → Nat → Event S → Prop

/-- No restriction. -/
abbrev anyMove : Restriction S W := fun _ _ _ _ => True

/-- One move, where only tasks of `admits` are started and operations respect `K`. -/
inductive Step (R : Runtime S W D) (admits : Program S ε Unit → Prop) (K : Restriction S W) :
    Config S ε W → Config S ε W → Prop
  | spawn {c : Config S ε W} (i : Nat) (p : Program S ε Unit) :
      c.tasks i = none → admits p →
      Step R admits K c { c with tasks := Function.update c.tasks i (some p) }
  | act {c : Config S ε W} {op : S.Op} {k : S.Reply op → Program S ε Unit} {w' : W} (i : Nat)
      (r : S.Reply op) :
      c.tasks i = some (.perform op k) → R.perform c.world ⟨op, r⟩ = some w' →
      K c.world c.log i ⟨op, r⟩ →
      Step R admits K c
        ⟨w', (i, ⟨op, r⟩) :: c.log, Function.update c.tasks i (some (k r))⟩
  | drift {c : Config S ε W} {w' : W} (d : D) :
      R.drift c.world d = some w' → Step R admits K c { c with world := w' }

/-- Any number of moves. -/
abbrev Run (R : Runtime S W D) (admits : Program S ε Unit → Prop) (K : Restriction S W) :
    Config S ε W → Config S ε W → Prop :=
  Relation.ReflTransGen (Step R admits K)

/-! ## Trails -/

/-- The world and the log, with the tasks forgotten. -/
structure Moment (S : Signature) (W : Type) : Type where
  world : W
  log : Log S

def Config.moment (c : Config S ε W) : Moment S W := ⟨c.world, c.log⟩

/-- One move of tasks of which only the contract is known. -/
inductive Move (R : Runtime S W D) (C : Contract S) (K : Restriction S W) :
    Moment S W → Moment S W → Prop
  | act {m : Moment S W} {w' : W} (i : Nat) (e : Event S) :
      C.permits (m.log.of i) e.op → C.promises e → R.perform m.world e = some w' →
      K m.world m.log i e → Move R C K m ⟨w', (i, e) :: m.log⟩
  | drift {m : Moment S W} {w' : W} (d : D) :
      R.drift m.world d = some w' → Move R C K m ⟨w', m.log⟩

/-- Any number of moves of tasks of which only the contract is known. -/
abbrev Trail (R : Runtime S W D) (C : Contract S) (K : Restriction S W) :
    Moment S W → Moment S W → Prop :=
  Relation.ReflTransGen (Move R C K)

section Trails

variable {R : Runtime S W D} {C : Contract S} {K : Restriction S W} {m m' : Moment S W}

/-- What one move preserves holds throughout a trail. -/
theorem Trail.invariant {P : Moment S W → Prop} (trail : Trail R C K m m')
    (step : ∀ m m', P m → Move R C K m m' → P m') (start : P m) : P m' := by
  induction trail with
  | refl => exact start
  | tail _ move ih => exact step _ _ ih move

/-- A move that logs an operation performed it, as the contract and the restriction allow. -/
theorem Move.act_of_log {i : Nat} {e : Event S} (move : Move R C K m m')
    (log : m'.log = (i, e) :: m.log) :
    C.permits (m.log.of i) e.op ∧ R.perform m.world e = some m'.world ∧
      K m.world m.log i e := by
  cases move with
  | act j e' permitted promised performed kept =>
      simp only [List.cons.injEq, Prod.mk.injEq] at log
      obtain ⟨⟨rfl, rfl⟩, _⟩ := log
      exact ⟨permitted, performed, kept⟩
  | drift d drifted =>
      have lengths := congrArg List.length log
      dsimp only at lengths
      rw [List.length_cons] at lengths
      omega

/-- What is known throughout may be used in the step of another invariant. -/
theorem Trail.invariant_along {P Q : Moment S W → Prop} (trail : Trail R C K m m')
    (known : ∀ m', Trail R C K m m' → Q m')
    (step : ∀ m m', Q m → Q m' → P m → Move R C K m m' → P m') (start : P m) : P m' := by
  induction trail with
  | refl => exact start
  | tail before move ih => exact step _ _ (known _ before) (known _ (before.tail move)) ih move

theorem Move.log_suffix (move : Move R C K m m') : m.log <:+ m'.log := by
  cases move with
  | act i e => exact List.suffix_cons _ _
  | drift d => exact List.suffix_refl _

theorem Trail.log_suffix (trail : Trail R C K m m') : m.log <:+ m'.log := by
  induction trail with
  | refl => exact List.suffix_refl _
  | tail _ move ih => exact ih.trans move.log_suffix

/-- Along a trail every reply keeps what the contract promises of it. -/
theorem Trail.promised (trail : Trail R C K m m')
    (start : ∀ entry ∈ m.log, C.promises entry.2) : ∀ entry ∈ m'.log, C.promises entry.2 := by
  refine Trail.invariant (P := fun m => ∀ entry ∈ m.log, C.promises entry.2) trail
    (fun m m' known move => ?_) start
  cases move with
  | act i e permitted promised performed kept =>
      intro entry member
      rcases List.mem_cons.mp member with rfl | member
      · exact promised
      · exact known entry member
  | drift d drifted => exact known

/-- A trail under a restriction is one under any weaker restriction. -/
theorem Move.relax {K' : Restriction S W} (weaker : ∀ w log i e, K w log i e → K' w log i e)
    (move : Move R C K m m') : Move R C K' m m' := by
  cases move with
  | act i e permitted promised performed kept =>
      exact .act i e permitted promised performed (weaker _ _ _ _ kept)
  | drift d drifted => exact .drift d drifted

theorem Trail.relax {K' : Restriction S W} (weaker : ∀ w log i e, K w log i e → K' w log i e)
    (trail : Trail R C K m m') : Trail R C K' m m' :=
  trail.lift id fun _ _ move => move.relax weaker

/-- Every operation of a trail was performed at some moment of it, as the contract and the
restriction allow. -/
theorem Trail.act_of_mem {i : Nat} {e : Event S} {later earlier : Log S}
    (trail : Trail R C K m m') (split : m'.log = later ++ (i, e) :: earlier)
    (fresh : m.log <:+ earlier) :
    ∃ before w', Trail R C K m before ∧ before.log = earlier ∧
      C.permits (earlier.of i) e.op ∧ C.promises e ∧ R.perform before.world e = some w' ∧
      K before.world earlier i e ∧ Trail R C K ⟨w', (i, e) :: earlier⟩ m' := by
  induction trail generalizing later with
  | refl =>
      have length := fresh.length_le
      rw [split] at length
      simp only [List.length_append, List.length_cons] at length
      omega
  | @tail mid last walked move ih =>
      cases move with
      | @act w' j e' permitted promised performed kept =>
          cases later with
          | nil =>
              simp only [List.nil_append, List.cons.injEq, Prod.mk.injEq] at split
              obtain ⟨⟨rfl, rfl⟩, rfl⟩ := split
              exact ⟨mid, w', walked, rfl, permitted, promised, performed, kept, .refl⟩
          | cons first later =>
              simp only [List.cons_append, List.cons.injEq] at split
              obtain ⟨before, w, start, log, permitted', promised', performed', kept', rest⟩ :=
                ih split.2
              exact ⟨before, w, start, log, permitted', promised', performed', kept',
                rest.tail (.act j e' permitted promised performed kept)⟩
      | drift d drifted =>
          obtain ⟨before, w, start, log, permitted, promised, performed, kept, rest⟩ := ih split
          exact ⟨before, w, start, log, permitted, promised, performed, kept,
            rest.tail (.drift d drifted)⟩

end Trails

/-! ## From runs to trails -/

/-- A run under a restriction is one under any weaker restriction. -/
theorem Run.relax {R : Runtime S W D} {K K' : Restriction S W}
    {admits : Program S ε Unit → Prop} {c c' : Config S ε W}
    (weaker : ∀ w log i e, K w log i e → K' w log i e) (run : Run R admits K c c') :
    Run R admits K' c c' := by
  refine run.lift id fun a b step => ?_
  cases step with
  | spawn i p free admission => exact .spawn i p free admission
  | act i r task performed kept => exact .act i r task performed (weaker _ _ _ _ kept)
  | drift d drifted => exact .drift d drifted

section Refinement

variable {R : Runtime S W D} {C : Contract S} {K : Restriction S W}
  {admits : Program S ε Unit → Prop} {c c' : Config S ε W}

/-- What remains of every task keeps the contract, and an index without a task has
performed nothing. -/
structure Config.Lawful (C : Contract S) (c : Config S ε W) : Prop where
  safe : ∀ i p, c.tasks i = some p → p.Safe C (c.log.of i)
  fresh : ∀ i, c.tasks i = none → c.log.of i = []

theorem Config.initial_lawful (w : W) : (Config.initial S ε w).Lawful C :=
  ⟨fun _ _ task => by simp [Config.initial] at task, fun _ _ => rfl⟩

/-- One move of lawful tasks is a move the contract knows, and leaves them lawful. -/
theorem Step.refines (admitted : ∀ p, admits p → p.Safe C [])
    (honest : ∀ w e w', R.perform w e = some w' → C.promises e)
    (lawful : c.Lawful C) (step : Step R admits K c c') :
    c'.Lawful C ∧ Relation.ReflGen (Move R C K) c.moment c'.moment := by
  cases step with
  | spawn i p free admission =>
      refine ⟨⟨fun j q task => ?_, fun j none => ?_⟩, .refl⟩
      · by_cases same : j = i
        · subst same
          simp only [Function.update_self, Option.some.injEq] at task
          subst task
          have empty : c.log.of j = [] := lawful.fresh j free
          show p.Safe C (c.log.of j)
          rw [empty]
          exact admitted p admission
        · dsimp only at task
          rw [Function.update_of_ne same] at task
          exact lawful.safe j q task
      · by_cases same : j = i
        · subst same
          simp at none
        · dsimp only at none
          rw [Function.update_of_ne same] at none
          exact lawful.fresh j none
  | @act op k w' i r task performed kept =>
      have safe := lawful.safe i _ task
      have promised := honest _ _ _ performed
      refine ⟨⟨fun j q task' => ?_, fun j none => ?_⟩,
        .single (.act i ⟨op, r⟩ safe.1 promised performed kept)⟩
      · by_cases same : j = i
        · subst same
          simp only [Function.update_self, Option.some.injEq] at task'
          subst task'
          rw [Log.of_cons_self]
          exact safe.2 r promised
        · dsimp only at task'
          rw [Function.update_of_ne same] at task'
          rw [Log.of_cons_ne (Ne.symm same)]
          exact lawful.safe j q task'
      · by_cases same : j = i
        · subst same
          simp at none
        · dsimp only at none
          rw [Function.update_of_ne same] at none
          rw [Log.of_cons_ne (Ne.symm same)]
          exact lawful.fresh j none
  | drift d drifted => exact ⟨⟨lawful.safe, lawful.fresh⟩, .single (.drift d drifted)⟩

/-- Every run of tasks that keep the contract is a trail of the contract. -/
theorem Run.trail (admitted : ∀ p, admits p → p.Safe C [])
    (honest : ∀ w e w', R.perform w e = some w' → C.promises e)
    (lawful : c.Lawful C) (run : Run R admits K c c') :
    c'.Lawful C ∧ Trail R C K c.moment c'.moment := by
  induction run with
  | refl => exact ⟨lawful, .refl⟩
  | tail _ step ih =>
      obtain ⟨lawful', move⟩ := step.refines admitted honest ih.1
      exact ⟨lawful', ih.2.trans move.to_reflTransGen⟩

/-- What one move adds to the local history of a task that was started. -/
theorem Step.obeyed {done : History S → Unit → Prop} {failed : History S → ε → Prop} {i : Nat}
    {p : Program S ε Unit} (step : Step R admits K c c') (task : c.tasks i = some p)
    (obeys : p.Obeys C done failed (c.log.of i)) (promised : ∀ e ∈ c'.log.of i, C.promises e) :
    ∃ q, c'.tasks i = some q ∧ q.Obeys C done failed (c'.log.of i) ∧
      (c'.log.of i = c.log.of i ∨
        ∃ e, c'.log.of i = e :: c.log.of i ∧ C.permits (c.log.of i) e.op) := by
  cases step with
  | spawn j p' free admission =>
      have different : i ≠ j := by
        rintro rfl
        rw [free] at task
        cases task
      refine ⟨p, ?_, obeys, .inl rfl⟩
      dsimp only
      rw [Function.update_of_ne different]
      exact task
  | @act op k w' j r started performed kept =>
      by_cases same : i = j
      · subst same
        rw [started] at task
        cases task
        have grown : Log.of ((i, ⟨op, r⟩) :: c.log) i = ⟨op, r⟩ :: c.log.of i := Log.of_cons_self
        rw [grown] at promised
        have reply := promised ⟨op, r⟩ List.mem_cons_self
        refine ⟨k r, by simp, ?_, .inr ⟨⟨op, r⟩, grown, obeys.1⟩⟩
        rw [grown]
        exact obeys.2 r reply
      · have kept' : Log.of ((j, ⟨op, r⟩) :: c.log) i = c.log.of i :=
          Log.of_cons_ne (Ne.symm same)
        refine ⟨p, ?_, ?_, .inl kept'⟩
        · dsimp only
          rw [Function.update_of_ne same]
          exact task
        · rw [kept']
          exact obeys
  | drift d drifted => exact ⟨p, task, obeys, .inl rfl⟩

theorem Run.log_suffix (run : Run R admits K c c') : c.log <:+ c'.log := by
  induction run with
  | refl => exact List.suffix_refl _
  | tail _ step ih =>
      cases step with
      | spawn i p free admission => exact ih
      | act i r task performed kept => exact ih.trans (List.suffix_cons _ _)
      | drift d drifted => exact ih

/-- A move leaves the log alone, or it logs an operation performed as the restriction allows. -/
theorem Step.logged (step : Step R admits K c c') :
    c'.log = c.log ∨ ∃ i e, c'.log = (i, e) :: c.log ∧ R.perform c.world e = some c'.world ∧
      K c.world c.log i e := by
  cases step with
  | spawn i p free admission => exact .inl rfl
  | act i r task performed kept => exact .inr ⟨i, _, rfl, performed, kept⟩
  | drift d drifted => exact .inl rfl

theorem Step.act_of_log {i : Nat} {e : Event S} (step : Step R admits K c c')
    (log : c'.log = (i, e) :: c.log) :
    R.perform c.world e = some c'.world ∧ K c.world c.log i e := by
  rcases step.logged with same | ⟨j, e', is, performed, kept⟩
  · have lengths := congrArg List.length (same.symm.trans log)
    rw [List.length_cons] at lengths
    omega
  · obtain ⟨entry, _⟩ := List.cons.inj (is.symm.trans log)
    cases entry
    exact ⟨performed, kept⟩

/-- What remains of a task keeps a contract that the task kept, as long as the replies to it
keep what the contract promises; and everything the task performed meanwhile was permitted
where it performed it. -/
theorem Run.obeyed {done : History S → Unit → Prop} {failed : History S → ε → Prop} {i : Nat}
    {p : Program S ε Unit} (run : Run R admits K c c') (task : c.tasks i = some p)
    (obeys : p.Obeys C done failed (c.log.of i)) (promised : ∀ e ∈ c'.log.of i, C.promises e) :
    ∃ q, c'.tasks i = some q ∧ q.Obeys C done failed (c'.log.of i) ∧
      ∃ added, c'.log.of i = added ++ c.log.of i ∧
        ∀ newer e older, added = newer ++ e :: older →
          C.permits (older ++ c.log.of i) e.op := by
  induction run with
  | refl => exact ⟨p, task, obeys, [], rfl, by simp⟩
  | @tail mid last walked step ih =>
      have grown : mid.log.of i <:+ last.log.of i :=
        Log.of_suffix (Run.log_suffix (.single step))
      obtain ⟨q, there, keeps, added, split, permitted⟩ :=
        ih fun e member => promised e (grown.mem member)
      obtain ⟨q', there', keeps', added'⟩ := step.obeyed there keeps promised
      refine ⟨q', there', keeps', ?_⟩
      rcases added' with same | ⟨e, is, allowed⟩
      · exact ⟨added, by rw [same, split], permitted⟩
      · refine ⟨e :: added, by rw [is, split, List.cons_append], fun newer e' older cut => ?_⟩
        cases newer with
        | nil =>
            cases cut
            rw [← split]
            exact allowed
        | cons first newer =>
            rw [List.cons_append] at cut
            exact permitted newer e' older (List.cons.inj cut).2

/-- The next operation of a task is permitted where the task performs it. -/
theorem Run.permits {done : History S → Unit → Prop} {failed : History S → ε → Prop} {i : Nat}
    {p : Program S ε Unit} {e : Event S} {c'' : Config S ε W} (run : Run R admits K c c')
    (task : c.tasks i = some p) (fresh : c.log.of i = []) (obeys : p.Obeys C done failed [])
    (step : Step R admits K c' c'') (log : c''.log = (i, e) :: c'.log)
    (promised : ∀ e ∈ c''.log.of i, C.promises e) : C.permits (c'.log.of i) e.op := by
  rw [← fresh] at obeys
  obtain ⟨_, _, _, added, split, permitted⟩ := Run.obeyed (run.tail step) task obeys promised
  rw [log, Log.of_cons_self, fresh, List.append_nil] at split
  have allowed := permitted [] e (c'.log.of i) split.symm
  rwa [fresh, List.append_nil] at allowed

end Refinement

/-! ## Evaluating a schedule -/

/-- A way to answer the operations of a task, that performs only what the world can. -/
structure Operator (R : Runtime S W D) : Type where
  run : W → (op : S.Op) → Option (S.Reply op × W)
  possible : ∀ {w op r w'}, run w op = some (r, w') → R.perform w ⟨op, r⟩ = some w'

/-- The operator that gives a reply wherever the world can. -/
def Operator.answering (R : Runtime S W D) (answer : W → (op : S.Op) → Option (S.Reply op)) :
    Operator R where
  run w op := (answer w op).bind fun r => (R.perform w ⟨op, r⟩).map fun w' => (r, w')
  possible := by
    intro w op r w' performed
    obtain ⟨r', _, mapped⟩ := Option.bind_eq_some_iff.mp performed
    obtain ⟨w'', performed', is⟩ := Option.map_eq_some_iff.mp mapped
    cases is
    exact performed'

/-- One line of a schedule: start a task, let a task perform one operation, or as many as it
can, or let the world drift. -/
inductive Cue (R : Runtime S W D) (admits : Program S ε Unit → Prop) : Type
  | spawn (i : Nat) (p : Program S ε Unit) (admitted : admits p)
  | act (i : Nat) (operator : Operator R)
  | runOn (i : Nat) (operator : Operator R) (limit : Nat)
  | drift (d : D)

variable {R : Runtime S W D} {K : Restriction S W} {admits : Program S ε Unit → Prop}
  [∀ w log i e, Decidable (K w log i e)]

/-- Let task `i` perform the operation it is about to perform. -/
def Config.act (K : Restriction S W) [∀ w log i e, Decidable (K w log i e)]
    (c : Config S ε W) (i : Nat) (operator : Operator R) : Option (Config S ε W) :=
  match c.tasks i with
  | some (.perform op k) =>
      match operator.run c.world op with
      | some (r, w') =>
          if K c.world c.log i ⟨op, r⟩ then
            some ⟨w', (i, ⟨op, r⟩) :: c.log, Function.update c.tasks i (some (k r))⟩
          else none
      | none => none
  | _ => none

/-- Let task `i` go on while its operations are answered. -/
def Config.runOn (K : Restriction S W) [∀ w log i e, Decidable (K w log i e)] (i : Nat)
    (operator : Operator R) : Nat → Config S ε W → Config S ε W
  | 0, c => c
  | limit + 1, c =>
      match c.act K i operator with
      | some c' => Config.runOn K i operator limit c'
      | none => c

/-- Follow one line of a schedule. -/
def Config.follow (K : Restriction S W) [∀ w log i e, Decidable (K w log i e)]
    (c : Config S ε W) : Cue R admits → Option (Config S ε W)
  | .spawn i p _ =>
      match c.tasks i with
      | none => some { c with tasks := Function.update c.tasks i (some p) }
      | some _ => none
  | .act i operator => c.act K i operator
  | .runOn i operator limit => some (Config.runOn K i operator limit c)
  | .drift d =>
      match R.drift c.world d with
      | some w' => some { c with world := w' }
      | none => none

/-- Follow a schedule to its end. -/
def Config.execute (K : Restriction S W) [∀ w log i e, Decidable (K w log i e)]
    (c : Config S ε W) : List (Cue R admits) → Option (Config S ε W)
  | [] => some c
  | cue :: cues =>
      match c.follow K cue with
      | some c' => c'.execute K cues
      | none => none

theorem Config.act_step {c c' : Config S ε W} {i : Nat} {operator : Operator R}
    (acted : c.act K i operator = some c') : Step R admits K c c' := by
  unfold Config.act at acted
  split at acted
  · rename_i op k task
    split at acted
    · rename_i r w' answered
      split at acted
      · rename_i kept
        cases acted
        exact .act i r task (operator.possible answered) kept
      · cases acted
    · cases acted
  · cases acted

theorem Config.act_log {c c' : Config S ε W} {i : Nat} {operator : Operator R}
    (acted : c.act K i operator = some c') : ∃ e, c'.log = (i, e) :: c.log := by
  unfold Config.act at acted
  split at acted
  · split at acted
    · split at acted
      · cases acted
        exact ⟨_, rfl⟩
      · cases acted
    · cases acted
  · cases acted

theorem Config.runOn_run {i : Nat} {operator : Operator R} (limit : Nat) (c : Config S ε W) :
    Run R admits K c (Config.runOn K i operator limit c) := by
  induction limit generalizing c with
  | zero => exact .refl
  | succ limit ih =>
      unfold Config.runOn
      split
      · rename_i c' acted
        exact .head (Config.act_step acted) (ih c')
      · exact .refl

theorem Config.follow_run {c c' : Config S ε W} {cue : Cue R admits}
    (followed : c.follow K cue = some c') : Run R admits K c c' := by
  cases cue with
  | spawn i p admitted =>
      simp only [Config.follow] at followed
      split at followed
      · rename_i free
        cases followed
        exact .single (.spawn i p free admitted)
      · cases followed
  | act i operator => exact .single (Config.act_step followed)
  | runOn i operator limit =>
      cases followed
      exact Config.runOn_run limit c
  | drift d =>
      simp only [Config.follow] at followed
      split at followed
      · rename_i w' drifted
        cases followed
        exact .single (.drift d drifted)
      · cases followed

/-- What a schedule computes under a restriction is reached by a run under it. -/
theorem Config.execute_run {c c' : Config S ε W} {cues : List (Cue R admits)}
    (executed : c.execute K cues = some c') : Run R admits K c c' := by
  induction cues generalizing c with
  | nil =>
      cases executed
      exact .refl
  | cons cue cues ih =>
      simp only [Config.execute] at executed
      split at executed
      · rename_i mid followed
        exact (Config.follow_run followed).trans (ih executed)
      · cases executed

/-- What a schedule reaches is reached by a run. -/
theorem Config.exhibits {c : Config S ε W} (cues : List (Cue R admits))
    (check : Config S ε W → Bool) (evaluated : (c.execute K cues).any check = true) :
    ∃ c', Run R admits K c c' ∧ check c' = true := by
  cases outcome : c.execute K cues with
  | none =>
      rw [outcome] at evaluated
      cases evaluated
  | some c' =>
      rw [outcome] at evaluated
      exact ⟨c', Config.execute_run outcome, evaluated⟩

end Interleave
