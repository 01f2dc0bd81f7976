import KestrelRunpod.Interleave.Avoids
import KestrelRunpod.Interleave.Reach
import KestrelRunpod.Interleave.System

/-!
# Composing facts about tasks

A task that keeps two contracts keeps both in one, where the second trusts no reply that the
first does not trust; a trail of the joint contract is a trail of the first.  A contract that
permits everything is kept by every task, so what replies alone tell about the ends of a task
may be added to any contract it keeps (`Obeys.trusting`).

What remains of a task in a run was reached by an execution of the task with the history that
the run logged for it (`Run.reaches`), so a task that has ended has executed completely
(`Run.executed`).
-/

namespace Interleave

variable {S : Signature} {ε α β : Type} {C C' : Contract S}

/-- What both contracts permit, trusting the replies that the first trusts. -/
def Contract.both (C C' : Contract S) : Contract S :=
  ⟨fun h op => C.permits h op ∧ C'.permits h op, C.promises⟩

/-- Everything is permitted, and the same replies are trusted. -/
def Contract.trusting (C : Contract S) : Contract S := ⟨fun _ _ => True, C.promises⟩

namespace Program

variable {done done' : History S → α → Prop} {failed failed' : History S → ε → Prop}
  {h : History S}

theorem Obeys.both {p : Program S ε α} (trusted : ∀ e, C.promises e → C'.promises e)
    (first : p.Obeys C done failed h) (second : p.Obeys C' done' failed' h) :
    p.Obeys (C.both C') (fun h' a => done h' a ∧ done' h' a)
      (fun h' x => failed h' x ∧ failed' h' x) h := by
  induction p generalizing h with
  | pure a => exact ⟨first, second⟩
  | throw x => exact ⟨first, second⟩
  | stall => trivial
  | perform op k ih =>
      refine ⟨⟨first.1, second.1⟩, fun r promised => ?_⟩
      exact ih r (first.2 r promised) (second.2 r (trusted _ promised))

/-- A task keeps every contract that permits everything. -/
theorem safe_of_free (free : ∀ h op, C.permits h op) (p : Program S ε α) (h : History S) :
    p.Safe C h := by
  induction p generalizing h with
  | pure a => trivial
  | throw x => trivial
  | stall => trivial
  | perform op k ih => exact ⟨free h op, fun r _ => ih r _⟩

/-- What the replies alone tell about the ends of a task holds besides. -/
theorem Obeys.trusting {p : Program S ε α} (obeys : p.Obeys C done failed h)
    (told : p.Obeys C.trusting done' failed' h) :
    p.Obeys C (fun h' a => done h' a ∧ done' h' a) (fun h' x => failed h' x ∧ failed' h' x)
      h := by
  induction p generalizing h with
  | pure a => exact ⟨obeys, told⟩
  | throw x => exact ⟨obeys, told⟩
  | stall => trivial
  | perform op k ih =>
      exact ⟨obeys.1, fun r promised => ih r (obeys.2 r promised) (told.2 r promised)⟩

/-- `Avoids.bind` for a sequence written as a `do` block. -/
theorem Avoids.andThen {bad : S.Op → Prop} {p : Program S ε α} {f : α → Program S ε β}
    (first : p.Avoids bad) (second : ∀ a, (f a).Avoids bad) : (p >>= f).Avoids bad :=
  first.bind second

end Program

variable {W D : Type} {R : Runtime S W D} {K : Restriction S W} {m m' : Moment S W}

theorem Move.first (move : Move R (C.both C') K m m') : Move R C K m m' := by
  cases move with
  | act i e permitted promised performed kept =>
      exact .act i e permitted.1 promised performed kept
  | drift d drifted => exact .drift d drifted

theorem Trail.first (trail : Trail R (C.both C') K m m') : Trail R C K m m' :=
  trail.lift id fun _ _ move => move.first

/-! ## What a task has executed -/

variable {admits : Program S ε Unit → Prop} {c c' : Config S ε W} {i : Nat}

theorem Step.reaches {p : Program S ε Unit} (step : Step R admits K c c')
    (task : c.tasks i = some p) :
    ∃ q, c'.tasks i = some q ∧ p.Reaches (c.log.of i) (c'.log.of i) q := by
  cases step with
  | spawn j q free admission =>
      have other : i ≠ j := fun same => by
        rw [same, free] at task
        cases task
      exact ⟨p, (Function.update_of_ne other _ _).trans task, .refl _ _⟩
  | @act op k w' j r resumed performed kept =>
      by_cases same : i = j
      · subst same
        rw [resumed] at task
        cases task
        refine ⟨k r, Function.update_self .., ?_⟩
        rw [Log.of_cons_self]
        exact .perform r (.refl _ _)
      · refine ⟨p, (Function.update_of_ne same _ _).trans task, ?_⟩
        rw [Log.of_cons_ne (Ne.symm same)]
        exact .refl _ _
  | drift d drifted => exact ⟨p, task, .refl _ _⟩

theorem Program.Reaches.trans {p q q' : Program S ε α} {h h' h'' : History S}
    (first : p.Reaches h h' q) (second : q.Reaches h' h'' q') : p.Reaches h h'' q' := by
  induction first with
  | refl p h => exact second
  | perform r _ ih => exact .perform r (ih second)

/-- What remains of a task was reached with the history that the run logged for it. -/
theorem Run.reaches {p : Program S ε Unit} (run : Run R admits K c c')
    (task : c.tasks i = some p) :
    ∃ q, c'.tasks i = some q ∧ p.Reaches (c.log.of i) (c'.log.of i) q := by
  induction run with
  | refl => exact ⟨p, task, .refl _ _⟩
  | tail walked step ih =>
      obtain ⟨q, there, first⟩ := ih
      obtain ⟨q', there', second⟩ := step.reaches there
      exact ⟨q', there', first.trans second⟩

/-- A task that has ended normally has executed its program to some value. -/
theorem Run.executed {p : Program S ε α} (run : Run R admits K c c')
    (task : c.tasks i = some p.void) (ended : c'.tasks i = some (.pure ())) :
    ∃ a, p.Ends (c.log.of i) (c'.log.of i) (.ok a) := by
  obtain ⟨q, there, reached⟩ := Run.reaches run task
  rw [ended] at there
  cases there
  rcases Program.ends_bind.mp reached.ends with ⟨h, a, ends, last⟩ | ⟨x, _, is⟩
  · cases last
    exact ⟨a, ends⟩
  · cases is

/-- An index without a task has performed nothing. -/
theorem Run.fresh {w : W} (run : Run R admits K (Config.initial S ε w) c)
    (free : c.tasks i = none) : c.log.of i = [] := by
  have lawful : c.Lawful (⟨fun _ _ => True, fun _ => True⟩ : Contract S) :=
    (Run.trail (fun p _ => p.safe_of_free (fun _ _ => trivial) [])
      (fun _ _ _ _ => trivial) (Config.initial_lawful w) run).1
  exact lawful.fresh i free

end Interleave
