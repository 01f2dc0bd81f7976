import KestrelRunpod.Interleave.Program

/-!
# Contracts for effect programs

A contract says which operation a task may perform, given everything it has performed so
far, and what it may assume of the replies.  `Program.Obeys C p done failed h` is the
weakest condition under which `p`, started with local history `h`, only performs permitted
operations, ends normally only where `done` holds and with an exception only where `failed`
holds.

It is a predicate transformer with one continuation for values and one for exceptions, so
sequencing and exception handling are equations (`obeys_bind`, `obeys_handle`), and a
program's proof follows its text.
-/

namespace Interleave

/-- What a task promises about its operations, and what it is promised about replies. -/
structure Contract (S : Signature) : Type where
  permits : History S → S.Op → Prop
  promises : Event S → Prop

namespace Program

variable {S : Signature} {ε α β : Type} {C : Contract S}

/-- The task keeps the contract, and its two ends meet `done` and `failed`. -/
def Obeys (C : Contract S) :
    Program S ε α → (History S → α → Prop) → (History S → ε → Prop) → History S → Prop
  | .pure a, done, _, h => done h a
  | .throw x, _, failed, h => failed h x
  | .stall, _, _, _ => True
  | .perform op k, done, failed, h =>
      C.permits h op ∧
        ∀ r, C.promises ⟨op, r⟩ → (k r).Obeys C done failed (⟨op, r⟩ :: h)

variable {done done' : History S → α → Prop} {failed failed' : History S → ε → Prop}
  {h : History S}

@[simp] theorem obeys_pure (a : α) :
    (Program.pure a : Program S ε α).Obeys C done failed h ↔ done h a := Iff.rfl

@[simp] theorem obeys_throw (x : ε) :
    (Program.throw x : Program S ε α).Obeys C done failed h ↔ failed h x := Iff.rfl

@[simp] theorem obeys_stall : (Program.stall : Program S ε α).Obeys C done failed h :=
  trivial

theorem obeys_perform {op : S.Op} {k : S.Reply op → Program S ε α} :
    (Program.perform op k).Obeys C done failed h ↔
      C.permits h op ∧
        ∀ r, C.promises ⟨op, r⟩ → (k r).Obeys C done failed (⟨op, r⟩ :: h) := Iff.rfl

theorem obeys_ask {op : S.Op} {done : History S → S.Reply op → Prop} :
    (Program.ask op : Program S ε (S.Reply op)).Obeys C done failed h ↔
      C.permits h op ∧ ∀ r, C.promises ⟨op, r⟩ → done (⟨op, r⟩ :: h) r := Iff.rfl

/-- A sequence keeps the contract when its first part does and the second part does from
every normal end of the first. -/
theorem obeys_bind {p : Program S ε α} {f : α → Program S ε β}
    {done : History S → β → Prop} :
    (p.bind f).Obeys C done failed h ↔
      p.Obeys C (fun h' a => (f a).Obeys C done failed h') failed h := by
  induction p generalizing h with
  | pure a => exact Iff.rfl
  | throw x => exact Iff.rfl
  | stall => exact Iff.rfl
  | perform op k ih =>
      exact and_congr_right fun _ => forall_congr' fun r => imp_congr_right fun _ => ih r

/-- A handled task keeps the contract when it does and the handler does from every
exceptional end. -/
theorem obeys_handle {p : Program S ε α} {f : ε → Program S ε α} :
    (p.handle f).Obeys C done failed h ↔
      p.Obeys C done (fun h' x => (f x).Obeys C done failed h') h := by
  induction p generalizing h with
  | pure a => exact Iff.rfl
  | throw x => exact Iff.rfl
  | stall => exact Iff.rfl
  | perform op k ih =>
      exact and_congr_right fun _ => forall_congr' fun r => imp_congr_right fun _ => ih r

theorem obeys_ofExcept {e : Except ε α} :
    (Program.ofExcept e : Program S ε α).Obeys C done failed h ↔
      (∀ a, e = .ok a → done h a) ∧ ∀ x, e = .error x → failed h x := by
  cases e with
  | ok a => simp
  | error x => simp

/-- Weakening of the two ends, where the local history has only grown. -/
theorem Obeys.weaken {p : Program S ε α} (obeys : p.Obeys C done failed h)
    (normal : ∀ h' a, h <:+ h' → done h' a → done' h' a)
    (raised : ∀ h' x, h <:+ h' → failed h' x → failed' h' x) :
    p.Obeys C done' failed' h := by
  induction p generalizing h with
  | pure a => exact normal h a (List.suffix_refl h) obeys
  | throw x => exact raised h x (List.suffix_refl h) obeys
  | stall => trivial
  | perform op k ih =>
      refine ⟨obeys.1, fun r promised => ?_⟩
      have grown : h <:+ (⟨op, r⟩ :: h) := List.suffix_cons _ _
      exact ih r (obeys.2 r promised) (fun h' a ext => normal h' a (grown.trans ext))
        fun h' x ext => raised h' x (grown.trans ext)

/-- The ends of a task may be assumed to extend the history it started from. -/
theorem Obeys.extending {p : Program S ε α}
    (obeys : p.Obeys C (fun h' a => h <:+ h' → done h' a)
      (fun h' x => h <:+ h' → failed h' x) h) :
    p.Obeys C done failed h :=
  obeys.weaken (fun _ _ ext post => post ext) fun _ _ ext post => post ext

/-- A task whose value is not observed. -/
theorem Obeys.void {p : Program S ε α} (obeys : p.Obeys C done failed h) :
    p.void.Obeys C (fun h' _ => ∃ a, done h' a) failed h :=
  obeys_bind.mpr (obeys.weaken (fun _ a _ met => ⟨a, met⟩) fun _ _ _ met => met)

/-- Keeping the contract from one history, whatever the end. -/
def Safe (C : Contract S) (p : Program S ε α) (h : History S) : Prop :=
  p.Obeys C (fun _ _ => True) (fun _ _ => True) h

theorem Obeys.safe {p : Program S ε α} (obeys : p.Obeys C done failed h) : p.Safe C h :=
  obeys.weaken (fun _ _ _ _ => trivial) fun _ _ _ _ => trivial

end Program

end Interleave
