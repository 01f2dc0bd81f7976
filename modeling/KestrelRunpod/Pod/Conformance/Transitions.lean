import KestrelRunpod.Pod.Conformance.Basics

/-!
# Conformance of the transition helpers

The retry loops of the service, each proved once by induction on its fuel: a loop keeps the
contract when the write it repeats is warranted over every row that it may be shown later.
-/

namespace KestrelRunpod.Pod

open Interleave Program

variable {d : Digests} {callers : Callers} {h : Past} {token : String}
  {done : Past → Lease → Prop} {failed : Past → Exn → Prop}

/-- The row is what `write` left of a row of the same token, with the changes it makes over
a row that the task was shown. -/
def Write.Left (write : Write) (h : Past) (row : Lease) : Prop :=
  ∃ (seen current : Lease) (changes : Changes), Shown h seen ∧
    seen.cleanupToken = row.cleanupToken ∧ seen.isTerminal = false ∧
    write.Makes seen changes ∧ row = current.apply changes

theorem Write.makes_base {write : Write} {cur : Lease} (plain : write.merges = false) :
    write.Makes cur write.base := by
  simp [Write.Makes, plain]

/-- No update has succeeded between the two histories. -/
def Writeless (h h' : Past) : Prop :=
  ∀ lease changes row, (⟨.compareAndSet lease changes, .ok row⟩ : Event Effects) ∈ h' →
    (⟨.compareAndSet lease changes, .ok row⟩ : Event Effects) ∈ h

theorem Writeless.unwritten {h' : Past} (writeless : Writeless h h')
    (unwritten : Unwritten h token) : Unwritten h' token :=
  fun lease changes row member => unwritten lease changes row (writeless _ _ _ member)

/-- A loop that retries a plain write until it lands or the row is terminal. -/
theorem transitionNonterminal_obeys (write : Write) (plain : write.merges = false)
    (warranted : ∀ h' cur, h <:+ h' → Writeless h h' → Shown h' cur →
      cur.cleanupToken = token → cur.isTerminal = false → write.Guard d callers h' cur)
    (normal : ∀ h' row, h <:+ h' → Shown h' row → row.cleanupToken = token →
      (row.isTerminal = true ∨ write.Left h' row) → done h' row)
    (raised : ∀ h' x, h <:+ h' → failed h' x) (fuel : Nat) {lease : Lease}
    (shown : Shown h lease) (same : lease.cleanupToken = token) :
    (transitionNonterminal token write.base fuel lease).Obeys (leaseContract d callers) done
      failed h := by
  suffices loop : ∀ h₁ lease, h <:+ h₁ → Writeless h h₁ → Shown h₁ lease →
      lease.cleanupToken = token →
      (transitionNonterminal token write.base fuel lease).Obeys (leaseContract d callers) done
        failed h₁ from
    loop h lease (List.suffix_refl h) (fun _ _ _ member => member) shown same
  clear shown same lease
  induction fuel with
  | zero => intros; trivial
  | succ fuel ih =>
      intro h₁ lease grown writeless shown same
      unfold transitionNonterminal
      split
      · rename_i terminal
        exact normal h₁ lease grown shown same (.inl terminal)
      · rename_i active
        rw [Bool.not_eq_true] at active
        rw [obeys_except, obeys_compareAndSet]
        refine ⟨⟨shown, write, warranted h₁ lease grown writeless shown same active,
          write.makes_base plain⟩, fun current sameToken _ => ?_, fun x => ⟨fun _ => ?_, fun _ => ?_⟩⟩
        · exact normal _ _ (grows _ grown) .written
            (by simp [sameToken, same])
            (.inr ⟨lease, current, write.base, shown.mono (List.suffix_cons _ _),
              sameToken.symm, active, write.makes_base plain, rfl⟩)
        · rw [bind_eq, obeys_bind, obeys_required]
          refine ⟨fun row sameRow => ?_, raised _ _ ?_⟩
          · refine ih _ row (grows _ (grows _ grown)) (fun lease' changes row' member => ?_) .get
              sameRow
            refine writeless lease' changes row' ?_
            simpa using member
          · exact grows _ (grows _ grown)
        · exact raised _ _ (grows _ grown)

/-- The states a transition is restricted to admit the row. -/
def admitsState (expected : Option (List PodState)) (row : Lease) : Prop :=
  ∀ states, expected = some states → row.state ∈ states

/-- A transition with evidence, retried until it lands, the row is terminal or its state is
no longer an expected one.  Without retries the only row it writes over is the given one. -/
theorem transitionFrom_obeys (write : Write) (merging : write.merges = true)
    {expected : Option (List PodState)} {retry : Bool} {lease : Lease}
    (warranted : ∀ h' cur, h <:+ h' → Shown h' cur → cur.cleanupToken = token →
      cur.isTerminal = false → admitsState expected cur → (retry = false → cur = lease) →
      write.Guard d callers h' cur)
    (normal : ∀ h' row, h <:+ h' → Shown h' row → row.cleanupToken = token →
      (row.isTerminal = true ∨ ¬ admitsState expected row ∨ write.Left h' row) → done h' row)
    (raised : ∀ h' x, h <:+ h' → failed h' x) (fuel : Nat)
    (shown : Shown h lease) (same : lease.cleanupToken = token) :
    (transitionWithEvidence token write.base write.update expected retry fuel lease).Obeys
      (leaseContract d callers) done failed h := by
  suffices loop : ∀ h₁ row, h <:+ h₁ → Shown h₁ row → row.cleanupToken = token →
      (retry = false → row = lease) →
      (transitionWithEvidence token write.base write.update expected retry fuel row).Obeys
        (leaseContract d callers) done failed h₁ from
    loop h lease (List.suffix_refl h) shown same fun _ => rfl
  clear shown same
  induction fuel with
  | zero => intros; trivial
  | succ fuel ih =>
      intro h₁ lease grown shown same given
      unfold transitionWithEvidence
      split
      · rename_i terminal
        exact normal h₁ lease grown shown same (.inl terminal)
      · rename_i active
        rw [Bool.not_eq_true] at active
        split
        · rename_i excluded
          refine normal h₁ lease grown shown same (.inr (.inl fun admitted => ?_))
          cases expected with
          | none => simp at excluded
          | some states => simp [admitted states rfl] at excluded
        · rename_i included
          have admitted : admitsState expected lease := by
            intro states is
            subst is
            simpa using included
          have guarded := warranted h₁ lease grown shown same active admitted given
          -- The write itself, with the changes that `persistedChanges` has prepared.
          have attempt : ∀ h₂ changes, h₁ <:+ h₂ → write.Makes lease changes →
              (except (compareAndSet lease changes) (fun x => x.isConflict && retry) fun _ => do
                let current ← required token
                transitionWithEvidence token write.base write.update expected retry fuel
                  current).Obeys (leaseContract d callers) done failed h₂ := by
            intro h₂ changes grown₂ makes
            have grown' := grown.trans grown₂
            rw [obeys_except, obeys_compareAndSet]
            refine ⟨⟨shown.mono grown₂, write, ?_, makes⟩, fun current sameToken _ => ?_,
              fun x => ⟨fun caught => ?_, fun _ => ?_⟩⟩
            · exact warranted h₂ lease grown' (shown.mono grown₂) same active admitted given
            · refine normal _ _ (grows _ grown') .written
                (by simp [sameToken, same])
                (.inr (.inr ⟨lease, current, changes, ?_, sameToken.symm, active, makes, rfl⟩))
              exact shown.mono (grows _ grown₂)
            · rw [bind_eq, obeys_bind, obeys_required]
              refine ⟨fun row sameRow => ?_, raised _ _ ?_⟩
              · refine ih _ row (grows _ (grows _ grown')) .get sameRow fun single => ?_
                simp [single] at caught
              · exact grows _ (grows _ grown')
            · exact raised _ _ (grows _ grown')
          rw [bind_eq, obeys_bind]
          unfold persistedChanges
          split
          · rename_i missing
            refine attempt h₁ write.base (List.suffix_refl _) ?_
            simp [Write.Makes, missing]
          · rename_i evidence has
            refine ⟨⟨lease, write, shown, active, has, merging, guarded, rfl⟩,
              fun merged promised => ?_⟩
            cases merged with
            | error x => exact raised _ _ (grows _ grown)
            | ok merged =>
                refine attempt _ _ (List.suffix_cons _ _) ?_
                rw [Write.Makes, if_pos ⟨merging, active, by simp [has]⟩]
                exact ⟨evidence, merged, has, promised, rfl⟩

/-- The same, when the write is warranted over every row that the task may be shown. -/
theorem transitionWithEvidence_obeys (write : Write) (merging : write.merges = true)
    {expected : Option (List PodState)} {retry : Bool}
    (warranted : ∀ h' cur, h <:+ h' → Shown h' cur → cur.cleanupToken = token →
      cur.isTerminal = false → admitsState expected cur → write.Guard d callers h' cur)
    (normal : ∀ h' row, h <:+ h' → Shown h' row → row.cleanupToken = token →
      (row.isTerminal = true ∨ ¬ admitsState expected row ∨ write.Left h' row) → done h' row)
    (raised : ∀ h' x, h <:+ h' → failed h' x) (fuel : Nat) {lease : Lease}
    (shown : Shown h lease) (same : lease.cleanupToken = token) :
    (transitionWithEvidence token write.base write.update expected retry fuel lease).Obeys
      (leaseContract d callers) done failed h :=
  transitionFrom_obeys write merging
    (fun h' cur grown shown same active admitted _ =>
      warranted h' cur grown shown same active admitted) normal raised fuel shown same

end KestrelRunpod.Pod
