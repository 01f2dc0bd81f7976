import KestrelRunpod.Interleave.Ensures

/-!
# Partial executions of one task

`Program.Ends` relates a task to a complete execution; no statement about it can stop a task
halfway.  `Program.Reaches p h h' q` is the prefix form: started with local history `h`, some
replies take `p` to what remains of it, `q`, with local history `h'`.  A task that crashed,
or whose last reply never came, stopped somewhere on a reach.

* `Reaches.obeys`: a contract that `p` keeps is kept by everything `p` reaches.
* `Reaches.permitted`: every operation on a reach was permitted where it was performed.
* `play_reaches`: a task that is played against an answering function is on a reach.
-/

namespace Interleave

variable {S : Signature} {ε α β : Type}

namespace Program

/-- Started with local history `h`, some replies take the task to `q` with history `h'`. -/
inductive Reaches : Program S ε α → History S → History S → Program S ε α → Prop
  | refl (p : Program S ε α) (h : History S) : Reaches p h h p
  | perform {op : S.Op} {k : S.Reply op → Program S ε α} (r : S.Reply op) {h h' : History S}
      {q : Program S ε α} : Reaches (k r) (⟨op, r⟩ :: h) h' q → Reaches (.perform op k) h h' q

variable {p q : Program S ε α} {h h' : History S} {C : Contract S}
  {done : History S → α → Prop} {failed : History S → ε → Prop}

/-- A reach only adds events to the local history. -/
theorem Reaches.suffix (reach : p.Reaches h h' q) : h <:+ h' := by
  induction reach with
  | refl p h => exact List.suffix_refl h
  | perform r _ ih => exact (List.suffix_cons _ _).trans ih

/-- One more operation of what remains. -/
theorem Reaches.tail {op : S.Op} {k : S.Reply op → Program S ε α}
    (reach : p.Reaches h h' (.perform op k)) (r : S.Reply op) :
    p.Reaches h (⟨op, r⟩ :: h') (k r) := by
  generalize rest : Program.perform op k = q at reach
  induction reach with
  | refl p h =>
      subst rest
      exact .perform r (.refl _ _)
  | perform r' _ ih => exact .perform r' (ih rest)

/-- A complete execution is a reach of its end. -/
theorem Ends.reaches {o : Except ε α} (ends : p.Ends h h' o) :
    p.Reaches h h' (Program.ofExcept o) := by
  induction ends with
  | pure a h => exact .refl _ _
  | throw x h => exact .refl _ _
  | perform r _ ih => exact .perform r ih

/-- A contract that the task keeps is kept by what remains of it. -/
theorem Reaches.obeys (reach : p.Reaches h h' q) (promised : ∀ e ∈ h', C.promises e)
    (obeys : p.Obeys C done failed h) : q.Obeys C done failed h' := by
  induction reach with
  | refl p h => exact obeys
  | @perform op k r h h' q rest ih =>
      have performed : (⟨op, r⟩ : Event S) ∈ h' := rest.suffix.subset List.mem_cons_self
      exact ih promised (obeys.2 r (promised _ performed))

/-- Every operation on a reach was permitted where it was performed. -/
theorem Reaches.permitted (reach : p.Reaches h h' q) (promised : ∀ e ∈ h', C.promises e)
    (safe : p.Safe C h) {e : Event S} {later earlier : History S}
    (split : h' = later ++ e :: earlier) (fresh : h <:+ earlier) : C.permits earlier e.op := by
  induction reach with
  | refl p h =>
      have length := fresh.length_le
      rw [split] at length
      simp only [List.length_append, List.length_cons] at length
      omega
  | @perform op k r h h' q rest ih =>
      have performed : (⟨op, r⟩ : Event S) ∈ h' := rest.suffix.subset List.mem_cons_self
      have onward : (k r).Safe C (⟨op, r⟩ :: h) := safe.2 r (promised _ performed)
      have tail : (e :: earlier) <:+ h' := ⟨later, split.symm⟩
      by_cases first : earlier.length = h.length
      · -- the event of this very step
        have same : earlier = h := (fresh.eq_of_length first.symm).symm
        subst same
        have events := List.suffix_of_suffix_length_le tail rest.suffix (by simp)
        have is := events.eq_of_length (by simp)
        rw [List.cons.injEq] at is
        rw [is.1]
        exact safe.1
      · have longer : h.length < earlier.length := by
          have := fresh.length_le
          omega
        have within : earlier <:+ h' := (List.suffix_cons e earlier).trans tail
        exact ih promised onward split
          (List.suffix_of_suffix_length_le rest.suffix within (by rw [List.length_cons]; omega))

/-- Where a complete execution ends, a contract that the task keeps holds of its end. -/
theorem Ends.obeys {o : Except ε α} (ends : p.Ends h h' o) (promised : ∀ e ∈ h', C.promises e)
    (obeys : p.Obeys C done failed h) :
    (∀ a, o = .ok a → done h' a) ∧ ∀ x, o = .error x → failed h' x :=
  obeys_ofExcept.mp (ends.reaches.obeys promised obeys)

/-- A sequence stops within its first part, or within its second after the first has ended. -/
theorem reaches_bind {p : Program S ε α} {f : α → Program S ε β} {h h' : History S}
    {q : Program S ε β} (reach : (p.bind f).Reaches h h' q) :
    (∃ p', p.Reaches h h' p' ∧ q = p'.bind f) ∨
      ∃ h₁ a, p.Ends h h₁ (.ok a) ∧ (f a).Reaches h₁ h' q := by
  induction p generalizing h with
  | pure a => exact .inr ⟨h, a, .pure a h, reach⟩
  | throw x =>
      cases reach
      exact .inl ⟨.throw x, .refl _ _, rfl⟩
  | stall =>
      cases reach
      exact .inl ⟨.stall, .refl _ _, rfl⟩
  | perform op k ih =>
      cases reach with
      | refl => exact .inl ⟨.perform op k, .refl _ _, rfl⟩
      | perform r rest =>
          rcases ih r rest with ⟨p', first, is⟩ | ⟨h₁, a, first, second⟩
          · exact .inl ⟨p', .perform r first, is⟩
          · exact .inr ⟨h₁, a, .perform r first, second⟩

/-- A reach of the second part of a sequence, once the first has ended. -/
theorem Ends.reaches_bind {p : Program S ε α} {f : α → Program S ε β} {h h₁ h' : History S}
    {a : α} {q : Program S ε β} (first : p.Ends h h₁ (.ok a))
    (second : (f a).Reaches h₁ h' q) : (p.bind f).Reaches h h' q := by
  induction p generalizing h with
  | pure a' =>
      cases first
      exact second
  | throw x => cases first
  | stall => cases first
  | perform op k ih =>
      cases first with
      | perform r rest => exact .perform r (ih r rest)

theorem ends_ofExcept {e o : Except ε α} :
    (Program.ofExcept e : Program S ε α).Ends h h' o ↔ h' = h ∧ o = e := by
  cases e with
  | ok a =>
      constructor
      · intro ends
        cases ends
        exact ⟨rfl, rfl⟩
      · rintro ⟨rfl, rfl⟩
        exact .pure a _
  | error x =>
      constructor
      · intro ends
        cases ends
        exact ⟨rfl, rfl⟩
      · rintro ⟨rfl, rfl⟩
        exact .throw x _

theorem ends_perform {op : S.Op} {k : S.Reply op → Program S ε α} {o : Except ε α} :
    (Program.perform op k).Ends h h' o ↔ ∃ r, (k r).Ends (⟨op, r⟩ :: h) h' o := by
  constructor
  · intro ends
    cases ends with
    | perform r rest => exact ⟨r, rest⟩
  · rintro ⟨r, rest⟩
    exact .perform r rest

/-! ## Playing a task -/

/-- At most `n` operations of the task, each answered from what happened before it. -/
def play (answer : History S → (op : S.Op) → S.Reply op) :
    Nat → Program S ε α → History S → History S × Program S ε α
  | n + 1, .perform op k, h => play answer n (k (answer h op)) (⟨op, answer h op⟩ :: h)
  | _, p, h => (h, p)

theorem play_reaches (answer : History S → (op : S.Op) → S.Reply op) (n : Nat)
    (p : Program S ε α) (h : History S) :
    p.Reaches h (play answer n p h).1 (play answer n p h).2 := by
  induction n generalizing p h with
  | zero => cases p <;> exact .refl _ _
  | succ n ih =>
      cases p with
      | perform op k => exact .perform (answer h op) (ih (k (answer h op)) (⟨op, answer h op⟩ :: h))
      | pure a => exact .refl _ _
      | throw x => exact .refl _ _
      | stall => exact .refl _ _

/-- The value that the task has come to, if any. -/
def value : Program S ε α → Option α
  | .pure a => some a
  | _ => none

/-- A reach that comes to a value is a complete execution. -/
theorem Reaches.ends {a : α} (reach : p.Reaches h h' (.pure a)) : p.Ends h h' (.ok a) := by
  generalize rest : Program.pure a = q at reach
  induction reach with
  | refl p h =>
      subst rest
      exact .pure a _
  | perform r _ ih => exact .perform r (ih rest)

/-- A task that is played to a value has a complete execution. -/
theorem play_ends {answer : History S → (op : S.Op) → S.Reply op} {n : Nat} {a : α}
    (played : (play answer n p h).2.value = some a) :
    p.Ends h (play answer n p h).1 (.ok a) := by
  have reach := play_reaches answer n p h
  cases rest : (play answer n p h).2 with
  | pure b =>
      rw [rest] at played reach
      cases played
      exact reach.ends
  | throw x =>
      rw [rest] at played
      cases played
  | stall =>
      rw [rest] at played
      cases played
  | perform op k =>
      rw [rest] at played
      cases played

end Program

end Interleave
