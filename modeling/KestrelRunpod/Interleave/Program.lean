import Mathlib.Logic.Basic

/-!
# Effect programs

A sequential task as a tree of atomic effects: it ends with a value, ends with an
exception, or performs one operation and resumes with the reply.  Everything between two
operations is a pure function of the replies so far, so the operations are exactly the
points where other tasks can interleave.

A `while` loop is a recursion on an explicit budget.  A task whose budget is used up is
`stall`: it is never resumed, as a task that is never scheduled again.  A finite run of the
loop is a run of the tree for every large enough budget, so a safety statement for every
budget is a statement about the loop.
-/

namespace Interleave

/-- Operations, and the type of the reply to each. -/
structure Signature : Type 1 where
  Op : Type
  Reply : Op → Type

/-- An operation together with the reply it got. -/
structure Event (S : Signature) : Type where
  op : S.Op
  reply : S.Reply op

/-- What one task has performed so far, newest event first. -/
abbrev History (S : Signature) : Type := List (Event S)

/-- A task: its operations in order, with exceptions of type `ε`. -/
inductive Program (S : Signature) (ε α : Type) : Type
  | pure (a : α)
  | throw (x : ε)
  | stall
  | perform (op : S.Op) (resume : S.Reply op → Program S ε α)

namespace Program

variable {S : Signature} {ε α β : Type}

/-- Run `p`, then `f` on its value. -/
def bind : Program S ε α → (α → Program S ε β) → Program S ε β
  | .pure a, f => f a
  | .throw x, _ => .throw x
  | .stall, _ => .stall
  | .perform op k, f => .perform op fun r => (k r).bind f

/-- Run `p`, and `f` on the exception it ends with, if any. -/
def handle : Program S ε α → (ε → Program S ε α) → Program S ε α
  | .pure a, _ => .pure a
  | .throw x, f => f x
  | .stall, _ => .stall
  | .perform op k, f => .perform op fun r => (k r).handle f

instance : Monad (Program S ε) where
  pure := Program.pure
  bind := Program.bind

/-- A task whose value is not observed. -/
def void (p : Program S ε α) : Program S ε Unit := p.bind fun _ => .pure ()

/-- Perform one operation and return its reply. -/
def ask (op : S.Op) : Program S ε (S.Reply op) := .perform op .pure

/-- Return the value of a pure computation, or throw its error. -/
def ofExcept : Except ε α → Program S ε α
  | .ok a => .pure a
  | .error x => .throw x

@[simp] theorem bind_eq (p : Program S ε α) (f : α → Program S ε β) : p >>= f = p.bind f := rfl

@[simp] theorem pure_eq (a : α) : (Pure.pure a : Program S ε α) = .pure a := rfl

@[simp] theorem ofExcept_ok (a : α) : (ofExcept (.ok a) : Program S ε α) = .pure a := rfl

@[simp] theorem ofExcept_error (x : ε) : (ofExcept (.error x) : Program S ε α) = .throw x := rfl

/-! ## Complete executions of one task -/

/-- `Ends p h h' o`: started with local history `h`, some replies take `p` to the end `o`,
and `h'` is the local history there. -/
inductive Ends : Program S ε α → History S → History S → Except ε α → Prop
  | pure (a : α) (h : History S) : Ends (.pure a) h h (.ok a)
  | throw (x : ε) (h : History S) : Ends (.throw x) h h (.error x)
  | perform {op : S.Op} {k : S.Reply op → Program S ε α} (r : S.Reply op) {h h' : History S}
      {o : Except ε α} : Ends (k r) (⟨op, r⟩ :: h) h' o → Ends (.perform op k) h h' o

/-- A complete execution only adds events to the local history. -/
theorem Ends.suffix {p : Program S ε α} {h h' : History S} {o : Except ε α}
    (ends : Ends p h h' o) : h <:+ h' := by
  induction ends with
  | pure a h => exact List.suffix_refl h
  | throw x h => exact List.suffix_refl h
  | perform r _ ih => exact (List.suffix_cons _ _).trans ih

/-- A sequence ends where its second part ends, or with the exception of its first part. -/
theorem ends_bind {p : Program S ε α} {f : α → Program S ε β} {h h' : History S}
    {o : Except ε β} :
    Ends (p.bind f) h h' o ↔
      (∃ h₁ a, Ends p h h₁ (.ok a) ∧ Ends (f a) h₁ h' o) ∨
      ∃ x, Ends p h h' (.error x) ∧ o = .error x := by
  constructor
  · intro ends
    induction p generalizing h with
    | pure a => exact .inl ⟨h, a, .pure a h, ends⟩
    | throw x =>
        cases ends
        exact .inr ⟨x, .throw x _, rfl⟩
    | stall => cases ends
    | perform op k ih =>
        cases ends with
        | perform r rest =>
            rcases ih r rest with ⟨h₁, a, first, second⟩ | ⟨x, first, rfl⟩
            · exact .inl ⟨h₁, a, .perform r first, second⟩
            · exact .inr ⟨x, .perform r first, rfl⟩
  · rintro (⟨h₁, a, first, second⟩ | ⟨x, first, rfl⟩)
    · induction p generalizing h with
      | pure a => cases first; exact second
      | throw x => cases first
      | stall => cases first
      | perform op k ih =>
          cases first with
          | perform r rest => exact .perform r (ih r rest)
    · induction p generalizing h with
      | pure a => cases first
      | throw x => cases first; exact .throw _ _
      | stall => cases first
      | perform op k ih =>
          cases first with
          | perform r rest => exact .perform r (ih r rest)

/-- The execution of a sequence whose first part ends normally. -/
theorem Ends.andThen {p : Program S ε α} {f : α → Program S ε β} {h h₁ h' : History S} {a : α}
    {o : Except ε β} (first : Ends p h h₁ (.ok a)) (second : Ends (f a) h₁ h' o) :
    Ends (p.bind f) h h' o :=
  ends_bind.mpr (.inl ⟨h₁, a, first, second⟩)

/-- A handled task ends with its own value, or where the handler of its exception ends. -/
theorem ends_handle {p : Program S ε α} {f : ε → Program S ε α} {h h' : History S}
    {o : Except ε α} :
    Ends (p.handle f) h h' o ↔
      (∃ a, Ends p h h' (.ok a) ∧ o = .ok a) ∨
      ∃ h₁ x, Ends p h h₁ (.error x) ∧ Ends (f x) h₁ h' o := by
  constructor
  · intro ends
    induction p generalizing h with
    | pure a =>
        cases ends
        exact .inl ⟨a, .pure a _, rfl⟩
    | throw x => exact .inr ⟨h, x, .throw x h, ends⟩
    | stall => cases ends
    | perform op k ih =>
        cases ends with
        | perform r rest =>
            rcases ih r rest with ⟨a, first, rfl⟩ | ⟨h₁, x, first, second⟩
            · exact .inl ⟨a, .perform r first, rfl⟩
            · exact .inr ⟨h₁, x, .perform r first, second⟩
  · rintro (⟨a, first, rfl⟩ | ⟨h₁, x, first, second⟩)
    · induction p generalizing h with
      | pure a => cases first; exact .pure _ _
      | throw x => cases first
      | stall => cases first
      | perform op k ih =>
          cases first with
          | perform r rest => exact .perform r (ih r rest)
    · induction p generalizing h with
      | pure a => cases first
      | throw x => cases first; exact second
      | stall => cases first
      | perform op k ih =>
          cases first with
          | perform r rest => exact .perform r (ih r rest)

end Program

end Interleave
