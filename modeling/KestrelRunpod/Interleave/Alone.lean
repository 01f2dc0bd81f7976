import KestrelRunpod.Interleave.System

/-!
# A task with the world to itself

`Program.Alone R exit post p w h`: started in the world `w` with local history `h`, and with
no other task moving, `p` reaches a history that meets `exit`, or runs to an end that meets
`post`; whatever replies the world gives and however it drifts meanwhile.  A stalled task meets
neither, so this is a statement of total correctness.

As for `Obeys`, sequencing and handling are equations, and a proof follows the program's text.
`Alone.run` says what the predicate means for runs in which only that task acts.
-/

namespace Interleave

variable {S : Signature} {ε α β W D : Type} {R : Runtime S W D}

/-- Any number of changes that no task makes. -/
abbrev Drifts (R : Runtime S W D) : W → W → Prop :=
  Relation.ReflTransGen fun w w' => ∃ d, R.drift w d = some w'

namespace Program

/-- Whatever happens to `p` alone, it meets `exit` on the way or `post` at its end. -/
def Alone (R : Runtime S W D) (exit : History S → Prop)
    (post : W → History S → Except ε α → Prop) : Program S ε α → W → History S → Prop
  | .pure a, w, h => exit h ∨ post w h (.ok a)
  | .throw x, w, h => exit h ∨ post w h (.error x)
  | .stall, _, h => exit h
  | .perform op k, w, h => exit h ∨ ∀ w₁, Drifts R w w₁ → ∀ r w₂,
      R.perform w₁ ⟨op, r⟩ = some w₂ → (k r).Alone R exit post w₂ (⟨op, r⟩ :: h)

variable {exit : History S → Prop} {post post' : W → History S → Except ε α → Prop} {w : W}
  {h : History S}

/-- What was asked for has already happened. -/
theorem Alone.done {p : Program S ε α} (met : exit h) : p.Alone R exit post w h := by
  cases p with
  | pure a => exact .inl met
  | throw x => exact .inl met
  | stall => exact met
  | perform op k => exact .inl met

theorem Alone.mono {p : Program S ε α} (alone : p.Alone R exit post w h)
    (weaker : ∀ w h o, post w h o → post' w h o) : p.Alone R exit post' w h := by
  induction p generalizing w h with
  | pure a => exact alone.imp_right (weaker w h _)
  | throw x => exact alone.imp_right (weaker w h _)
  | stall => exact alone
  | perform op k ih =>
      exact alone.imp_right fun next w₁ drifts r w₂ performed => ih r (next w₁ drifts r w₂ performed)

/-- The history of a task alone only grows. -/
theorem Alone.extending {p : Program S ε α} (alone : p.Alone R exit post w h) :
    p.Alone R exit (fun w h' o => h <:+ h' ∧ post w h' o) w h := by
  induction p generalizing w h with
  | pure a => exact alone.imp_right fun met => ⟨List.suffix_refl h, met⟩
  | throw x => exact alone.imp_right fun met => ⟨List.suffix_refl h, met⟩
  | stall => exact alone
  | perform op k ih =>
      refine alone.imp_right fun next w₁ drifts r w₂ performed => ?_
      have grown : h <:+ (⟨op, r⟩ :: h) := List.suffix_cons _ _
      exact (ih r (next w₁ drifts r w₂ performed)).mono
        fun _ _ _ met => ⟨grown.trans met.1, met.2⟩

/-- A sequence goes on with the value of its first part, or ends with its exception. -/
theorem alone_bind {p : Program S ε α} {f : α → Program S ε β}
    {post : W → History S → Except ε β → Prop} :
    (p.bind f).Alone R exit post w h ↔
      p.Alone R exit (fun w h o => match o with
        | .ok a => (f a).Alone R exit post w h
        | .error x => post w h (.error x)) w h := by
  induction p generalizing w h with
  | pure a => exact ⟨.inr, fun alone => alone.elim Alone.done id⟩
  | throw x => exact Iff.rfl
  | stall => exact Iff.rfl
  | perform op k ih =>
      refine or_congr_right (forall_congr' fun w₁ => imp_congr_right fun _ => ?_)
      exact forall_congr' fun r => forall_congr' fun w₂ => imp_congr_right fun _ => ih r

/-- `alone_bind` for a sequence written as a `do` block. -/
theorem alone_do {p : Program S ε α} {f : α → Program S ε β}
    {post : W → History S → Except ε β → Prop} :
    (p >>= f).Alone R exit post w h ↔
      p.Alone R exit (fun w h o => match o with
        | .ok a => (f a).Alone R exit post w h
        | .error x => post w h (.error x)) w h := alone_bind

/-- A handled task ends with its own value, or goes on with the handler of its exception. -/
theorem alone_handle {p : Program S ε α} {f : ε → Program S ε α} :
    (p.handle f).Alone R exit post w h ↔
      p.Alone R exit (fun w h o => match o with
        | .ok a => post w h (.ok a)
        | .error x => (f x).Alone R exit post w h) w h := by
  induction p generalizing w h with
  | pure a => exact Iff.rfl
  | throw x => exact ⟨.inr, fun alone => alone.elim Alone.done id⟩
  | stall => exact Iff.rfl
  | perform op k ih =>
      refine or_congr_right (forall_congr' fun w₁ => imp_congr_right fun _ => ?_)
      exact forall_congr' fun r => forall_congr' fun w₂ => imp_congr_right fun _ => ih r

theorem alone_pure (a : α) (met : post w h (.ok a)) :
    (Program.pure a : Program S ε α).Alone R exit post w h := .inr met

theorem alone_throw (x : ε) (met : post w h (.error x)) :
    (Program.throw x : Program S ε α).Alone R exit post w h := .inr met

theorem alone_perform {op : S.Op} {k : S.Reply op → Program S ε α}
    (next : ∀ w₁, Drifts R w w₁ → ∀ r w₂, R.perform w₁ ⟨op, r⟩ = some w₂ →
      (k r).Alone R exit post w₂ (⟨op, r⟩ :: h)) :
    (Program.perform op k).Alone R exit post w h := .inr next

theorem alone_ofExcept {e : Except ε α} (met : post w h e) :
    (Program.ofExcept e : Program S ε α).Alone R exit post w h := by
  cases e with
  | ok a => exact .inr met
  | error x => exact .inr met

/-- A task that only has a drifting world to wait for keeps what it is bound to meet. -/
theorem Alone.drifts {p : Program S ε α} {w' : W} (alone : p.Alone R exit post w h)
    (drifts : Drifts R w w')
    (stable : ∀ w h o w', post w h o → Drifts R w w' → post w' h o) :
    p.Alone R exit post w' h := by
  cases p with
  | pure a => exact alone.imp_right fun met => stable _ _ _ _ met drifts
  | throw x => exact alone.imp_right fun met => stable _ _ _ _ met drifts
  | stall => exact alone
  | perform op k =>
      exact alone.imp_right fun next w₁ later => next w₁ (drifts.trans later)

/-- A statement about the world and the history does not look at the value. -/
theorem Alone.result {P : W → History S → Prop} {p : Program S ε α} {f : α → β}
    (alone : p.Alone R exit (fun w h _ => P w h) w h) :
    (p >>= fun a => Pure.pure (f a)).Alone R exit (fun w h _ => P w h) w h := by
  rw [alone_do]
  refine alone.mono fun w h o met => ?_
  cases o with
  | ok a => exact .inr met
  | error x => exact met

end Program

/-- Only task `i` performs operations. -/
abbrev onlyTask (i : Nat) : Restriction S W := fun _ _ j _ => j = i

/-- In a run in which only task `i` acts, what it is bound to meet alone stays ahead of it
until it is met. -/
theorem Program.Alone.run {p : Program S ε Unit} {exit : History S → Prop}
    {post : W → History S → Except ε Unit → Prop} {admits : Program S ε Unit → Prop}
    {c c' : Config S ε W} {i : Nat} (alone : p.Alone R exit post c.world (c.log.of i))
    (task : c.tasks i = some p) (run : Run R admits (onlyTask i) c c')
    (stable : ∀ w h o w', post w h o → Drifts R w w' → post w' h o) :
    ∃ p', c'.tasks i = some p' ∧
      (p'.Alone R exit post c'.world (c'.log.of i) ∨
        ∃ earlier, earlier <:+ c'.log.of i ∧ exit earlier) := by
  induction run with
  | refl => exact ⟨p, task, .inl alone⟩
  | @tail b c' _ step ih =>
      obtain ⟨q, running, ahead⟩ := ih
      cases step with
      | spawn j new free admitted =>
          have other : i ≠ j := fun same => by
            rw [same, free] at running
            cases running
          refine ⟨q, ?_, ahead⟩
          dsimp only
          rw [Function.update_of_ne other]
          exact running
      | drift d drifted =>
          refine ⟨q, running, ahead.imp_left fun alone => ?_⟩
          exact alone.drifts (.single ⟨d, drifted⟩) stable
      | @act op k w' j r here performed only =>
          have same : j = i := only
          subst same
          rw [running] at here
          cases here
          refine ⟨k r, by dsimp only; rw [Function.update_self], ?_⟩
          dsimp only
          rw [Log.of_cons_self]
          rcases ahead with alone | ⟨earlier, suffix, met⟩
          · rcases alone with met | next
            · exact .inr ⟨b.log.of j, List.suffix_cons _ _, met⟩
            · exact .inl (next b.world .refl r w' performed)
          · exact .inr ⟨earlier, suffix.trans (List.suffix_cons _ _), met⟩

end Interleave
