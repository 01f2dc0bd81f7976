import KestrelRunpod.Interleave.Contract

/-!
# Contracts with one postcondition

`Program.Ensures C done p h`: started with local history `h`, the task keeps the contract and
ends normally only where `done` holds; it may raise at any point.  This is `Obeys` for tasks
whose exceptions carry no information.
-/

namespace Interleave

variable {S : Signature} {ε α β : Type} {C : Contract S}

namespace Program

/-- The task keeps the contract, and its value meets `done`. -/
def Ensures (C : Contract S) (done : History S → α → Prop) (p : Program S ε α)
    (h : History S) : Prop :=
  p.Obeys C done (fun _ _ => True) h

variable {done done' : History S → α → Prop} {h : History S}

theorem ensures_pure (a : α) (met : done h a) :
    (Program.pure a : Program S ε α).Ensures C done h := met

theorem ensures_throw (x : ε) : (Program.throw x : Program S ε α).Ensures C done h := trivial

theorem ensures_stall : (Program.stall : Program S ε α).Ensures C done h := trivial

theorem ensures_perform {op : S.Op} {k : S.Reply op → Program S ε α}
    (permitted : C.permits h op)
    (next : ∀ r, C.promises ⟨op, r⟩ → (k r).Ensures C done (⟨op, r⟩ :: h)) :
    (Program.perform op k).Ensures C done h := ⟨permitted, next⟩

theorem ensures_ofExcept {e : Except ε α} (met : ∀ a, e = .ok a → done h a) :
    (Program.ofExcept e : Program S ε α).Ensures C done h :=
  obeys_ofExcept.mpr ⟨met, fun _ _ => trivial⟩

/-- A weaker end, where the local history has only grown. -/
theorem Ensures.mono {p : Program S ε α} (ensures : p.Ensures C done h)
    (weaker : ∀ h' a, h <:+ h' → done h' a → done' h' a) : p.Ensures C done' h :=
  Obeys.weaken ensures weaker fun _ _ _ _ => trivial

/-- A sequence, whose second part starts where the first may end. -/
theorem Ensures.bind {p : Program S ε α} {f : α → Program S ε β}
    {post : History S → β → Prop} (first : p.Ensures C done h)
    (second : ∀ h' a, h <:+ h' → done h' a → (f a).Ensures C post h') :
    (p.bind f).Ensures C post h :=
  obeys_bind.mpr (Obeys.weaken first second fun _ _ _ _ => trivial)

/-- `Ensures.bind` for a sequence written as a `do` block. -/
theorem Ensures.andThen {p : Program S ε α} {f : α → Program S ε β}
    {post : History S → β → Prop} (first : p.Ensures C done h)
    (second : ∀ h' a, h <:+ h' → done h' a → (f a).Ensures C post h') :
    (p >>= f).Ensures C post h := first.bind second

/-- A sequence whose second part asks nothing of the first. -/
theorem Ensures.next {p : Program S ε α} {f : α → Program S ε β}
    {post : History S → β → Prop} (first : p.Ensures C (fun _ _ => True) h)
    (second : ∀ h' a, h <:+ h' → (f a).Ensures C post h') : (p >>= f).Ensures C post h :=
  first.bind fun h' a grown _ => second h' a grown

/-- The value of the task does not matter. -/
theorem Ensures.forget {p : Program S ε α} (ensures : p.Ensures C done h) :
    p.Ensures C (fun _ _ => True) h := ensures.mono fun _ _ _ _ => trivial

/-- A handled task, whose handler may start wherever the task raises. -/
theorem Ensures.handle {p : Program S ε α} {f : ε → Program S ε α}
    (body : p.Ensures C done h)
    (handler : ∀ h' x, h <:+ h' → (f x).Ensures C done h') : (p.handle f).Ensures C done h :=
  obeys_handle.mpr (Obeys.weaken body (fun _ _ _ met => met) fun h' x grown _ =>
    handler h' x grown)

theorem Ensures.safe {p : Program S ε α} (ensures : p.Ensures C done h) : p.Safe C h :=
  Obeys.safe ensures

end Program

end Interleave
