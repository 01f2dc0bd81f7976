import KestrelRunpod.Interleave.Contract

/-!
# Tasks that avoid some operations

`Program.Avoids bad p` says that no execution of `p` performs an operation of the kind `bad`,
whatever it is replied.  A task that avoids the operations which could break an invariant of
its local history keeps the invariant (`Avoids.obeys`).
-/

namespace Interleave

namespace Program

variable {S : Signature} {ε α β : Type} {bad : S.Op → Prop}

/-- No execution of the task performs a bad operation. -/
def Avoids (bad : S.Op → Prop) : Program S ε α → Prop
  | .perform op k => ¬ bad op ∧ ∀ r, (k r).Avoids bad
  | _ => True

@[simp] theorem avoids_pure (a : α) : (Program.pure a : Program S ε α).Avoids bad := trivial

@[simp] theorem avoids_throw (x : ε) : (Program.throw x : Program S ε α).Avoids bad := trivial

@[simp] theorem avoids_stall : (Program.stall : Program S ε α).Avoids bad := trivial

theorem avoids_perform {op : S.Op} {k : S.Reply op → Program S ε α} :
    (Program.perform op k).Avoids bad ↔ ¬ bad op ∧ ∀ r, (k r).Avoids bad := Iff.rfl

theorem avoids_ofExcept (e : Except ε α) :
    (Program.ofExcept e : Program S ε α).Avoids bad := by
  cases e <;> trivial

/-- A sequence avoids what both of its parts avoid. -/
theorem Avoids.bind {p : Program S ε α} {f : α → Program S ε β} (first : p.Avoids bad)
    (second : ∀ a, (f a).Avoids bad) : (p.bind f).Avoids bad := by
  induction p with
  | pure a => exact second a
  | throw x => trivial
  | stall => trivial
  | perform op k ih => exact ⟨first.1, fun r => ih r (first.2 r)⟩

/-- A handled task avoids what it and its handler avoid. -/
theorem Avoids.handle {p : Program S ε α} {f : ε → Program S ε α} (body : p.Avoids bad)
    (handler : ∀ x, (f x).Avoids bad) : (p.handle f).Avoids bad := by
  induction p with
  | pure a => trivial
  | throw x => exact handler x
  | stall => trivial
  | perform op k ih => exact ⟨body.1, fun r => ih r (body.2 r)⟩

/-- An invariant that every other operation keeps, and under which it is permitted, is kept. -/
theorem Avoids.obeys {C : Contract S} {kept : History S → Prop} {p : Program S ε α}
    (avoids : p.Avoids bad)
    (good : ∀ h op, kept h → ¬ bad op → C.permits h op ∧ ∀ r, kept (⟨op, r⟩ :: h))
    {h : History S} (start : kept h) :
    p.Obeys C (fun h' _ => kept h') (fun h' _ => kept h') h := by
  induction p generalizing h with
  | pure a => exact start
  | throw x => exact start
  | stall => trivial
  | perform op k ih =>
      obtain ⟨permitted, next⟩ := good h op start avoids.1
      exact ⟨permitted, fun r _ => ih r (avoids.2 r) (next r)⟩

end Program

end Interleave
