import KestrelRunpod.Interleave.Alone
import KestrelRunpod.Pod.System.Store

/-!
# One task of the service alone

Rules for a coroutine that has the store to itself (`Program.Alone`): a read shows the current
row, a compare-and-set on it succeeds, and a helper that would retry after a conflict succeeds
at its first attempt.  The store meanwhile stays tidy: one row for each token, and no two active
rows that the unique indexes keep apart.
-/

namespace KestrelRunpod.Pod

open Interleave Program

/-! ## Tidy stores -/

/-- One row for each token, and no two rows clash. -/
structure Rows.Tidy (rows : Rows) : Prop where
  unique : ∀ a ∈ rows, ∀ b ∈ rows, a.cleanupToken = b.cleanupToken → a = b
  apart : ∀ a ∈ rows, ∀ b ∈ rows, ¬ Rows.clash a b

namespace Rows

variable {rows : Rows} {row other : Lease} {changes : Changes}

theorem clash_comm {a b : Lease} (clash : Rows.clash a b) : Rows.clash b a := by
  obtain ⟨different, active, active', same⟩ := clash
  refine ⟨different.symm, active', active, ?_⟩
  rcases same with name | ⟨present, pod⟩ | root
  · exact .inl name.symm
  · exact .inr (.inl ⟨pod ▸ present, pod.symm⟩)
  · exact .inr (.inr root.symm)

theorem get_of_mem (tidy : rows.Tidy) (member : row ∈ rows) :
    rows.get row.cleanupToken = some row := by
  cases found : rows.get row.cleanupToken with
  | none => exact absurd rfl (get_none found member)
  | some current =>
      obtain ⟨there, same⟩ := get_some found
      rw [tidy.unique current there row member same]

/-- An update that keeps the Pod id makes no new clash. -/
theorem Tidy.kept (tidy : rows.Tidy) (member : row ∈ rows) (there : other ∈ rows)
    (active : row.isTerminal = false) (pod : changes.providerPodId = none) :
    ¬ Rows.clash (row.apply changes) other := by
  intro clash
  obtain ⟨different, _, active', same⟩ := clash
  refine tidy.apart row member other there ⟨different, active, active', ?_⟩
  simpa only [Lease.apply_resourceName, Lease.apply_providerPodId, pod, Option.none_or,
    Lease.apply_rootCleanupToken] using same

/-- Replacing one row keeps a store tidy when the new row clashes with no other. -/
theorem Tidy.put (tidy : rows.Tidy)
    (fresh : ∀ other ∈ rows, ¬ Rows.clash (row.apply changes) other) :
    (rows.put (row.apply changes)).Tidy := by
  have rows' : ∀ a ∈ rows.put (row.apply changes),
      (a ∈ rows ∧ a.cleanupToken ≠ row.cleanupToken) ∨ a = row.apply changes := by
    intro a ina
    rcases mem_put.mp ina with kept | ⟨is, _⟩
    · exact .inl kept
    · exact .inr is
  constructor
  · intro a ina b inb same
    rcases rows' a ina with ⟨ina, apart⟩ | rfl
    · rcases rows' b inb with ⟨inb, _⟩ | rfl
      · exact tidy.unique a ina b inb same
      · exact absurd same apart
    · rcases rows' b inb with ⟨_, apart⟩ | rfl
      · exact absurd same.symm apart
      · rfl
  · intro a ina b inb clash
    rcases rows' a ina with ⟨ina, _⟩ | rfl
    · rcases rows' b inb with ⟨inb, _⟩ | rfl
      · exact tidy.apart a ina b inb clash
      · exact fresh a ina (clash_comm clash)
    · rcases rows' b inb with ⟨inb, _⟩ | rfl
      · exact fresh b inb clash
      · exact clash.1 rfl

end Rows

variable {d : Digests} {callers : Callers} {K : Restriction Effects World} {clock : Instant}

/-- The store is tidy throughout every trail. -/
theorem LeaseTrail.tidy {m : Moment Effects World} (trail : LeaseTrail d callers K clock m) :
    m.world.rows.Tidy := by
  refine ⟨trail.consistent.unique, ?_⟩
  refine Trail.invariant_along (P := fun m => ∀ a ∈ m.world.rows, ∀ b ∈ m.world.rows,
    ¬ Rows.clash a b) trail (fun m walked => LeaseTrail.consistent (m := m) walked)
    (fun m m' known _ apart move => ?_) (by simp [World.empty])
  cases move with
  | drift change drifted =>
      rw [drift_rows drifted]
      exact apart
  | @act w' i e permitted promised performed kept =>
      obtain ⟨op, reply⟩ := e
      have performed : perform d m.world ⟨op, reply⟩ = some w' := performed
      cases op with
      | reserve request =>
          obtain ⟨rows, attempt, rfl⟩ := perform_reserve.mp performed
          by_cases inserts : ∃ row, reply = .ok (row, true)
          · obtain ⟨row, rfl⟩ := inserts
            obtain ⟨_, rfl, _, _, fresh⟩ := Rows.reserve_inserted attempt
            intro a ina b inb clash
            rcases List.mem_append.mp ina with ina | ina
            · rcases List.mem_append.mp inb with inb | inb
              · exact apart a ina b inb clash
              · cases List.mem_singleton.mp inb
                exact fresh a ina (Rows.clash_comm clash)
            · cases List.mem_singleton.mp ina
              rcases List.mem_append.mp inb with inb | inb
              · exact fresh b inb clash
              · cases List.mem_singleton.mp inb
                exact clash.1 rfl
          · obtain ⟨rfl, _⟩ := Rows.reserve_kept attempt fun row is => inserts ⟨row, is⟩
            exact apart
      | compareAndSet lease changes =>
          obtain ⟨rows, attempt, rfl⟩ := perform_compareAndSet.mp performed
          cases reply with
          | error x =>
              obtain ⟨rfl, _⟩ := Rows.compareAndSet_error attempt
              exact apart
          | ok row =>
              obtain ⟨current, member, _, _, rfl, rfl, fresh⟩ := Rows.compareAndSet_ok attempt
              exact (Rows.Tidy.put ⟨known.unique, apart⟩ fresh).apart
      | _ =>
          dsimp only
          rw [perform_rows performed (by simp) (by simp)]
          exact apart

/-! ## What a task alone sees -/

/-- The store is tidy, and the row is the current one of its lease. -/
structure World.Holds (w : World) (row : Lease) : Prop where
  tidy : w.rows.Tidy
  member : row ∈ w.rows

/-- Nothing was written meanwhile. -/
structure World.Later (w w' : World) : Prop where
  rows : w'.rows = w.rows
  clock : w.clock ≤ w'.clock

namespace World

variable {w w' w'' : World} {row : Lease}

theorem Later.refl (w : World) : w.Later w := ⟨rfl, le_rfl⟩

theorem Later.trans (first : w.Later w') (second : w'.Later w'') : w.Later w'' :=
  ⟨second.rows.trans first.rows, first.clock.trans second.clock⟩

theorem Holds.later (holds : w.Holds row) (later : w.Later w') : w'.Holds row :=
  ⟨later.rows ▸ holds.tidy, later.rows ▸ holds.member⟩

theorem Holds.get (holds : w.Holds row) : w.rows.get row.cleanupToken = some row :=
  Rows.get_of_mem holds.tidy holds.member

end World

theorem drifts_later {w w' : World} (drifts : Drifts (runtime d) w w') : w.Later w' := by
  induction drifts with
  | refl => exact .refl w
  | tail _ step ih =>
      obtain ⟨change, drifted⟩ := step
      refine ih.trans ⟨drift_rows drifted, ?_⟩
      rcases drift_some drifted with ⟨amount, rfl⟩ | ⟨_, _, _, _, _, rfl⟩
      · exact Int.le_add_of_nonneg_right (Int.natCast_nonneg amount)
      · exact le_rfl

/-! ## Rules -/

section Rules

variable {α : Type} {exit : Past → Prop} {w : World} {h : Past} {row : Lease}
  {changes : Changes}

/-- An operation sees a store in which nothing was written meanwhile. -/
theorem alone_op {op : Op} {k : op.Reply → Co α} {post : World → Past → Except Exn α → Prop}
    (next : ∀ w₁ reply w₂, w.Later w₁ → perform d w₁ ⟨op, reply⟩ = some w₂ →
      (k reply).Alone (runtime d) exit post w₂ (⟨op, reply⟩ :: h)) :
    (Program.perform op k : Co α).Alone (runtime d) exit post w h :=
  alone_perform fun w₁ drifts reply w₂ performed =>
    next w₁ reply w₂ (drifts_later drifts) performed

theorem alone_now {post : World → Past → Except Exn Instant → Prop}
    (met : ∀ w' (t : Instant), w.Later w' → w'.clock = t →
      post w' ((⟨.now, t⟩ : Event Effects) :: h) (.ok t)) :
    now.Alone (runtime d) exit post w h := by
  refine alone_op fun w₁ t w₂ later performed => alone_pure t ?_
  obtain ⟨order, rfl⟩ := perform_now.mp performed
  exact met _ t ⟨later.rows, later.clock.trans order⟩ rfl

theorem alone_getLease {token : String} {post : World → Past → Except Exn (Option Lease) → Prop}
    (met : ∀ w', w.Later w' →
      post w' ((⟨.get token, w.rows.get token⟩ : Event Effects) :: h) (.ok (w.rows.get token))) :
    (getLease token).Alone (runtime d) exit post w h := by
  refine alone_op fun w₁ found w₂ later performed => alone_pure found ?_
  obtain ⟨is, rfl⟩ := perform_get.mp performed
  rw [later.rows] at is
  subst is
  exact met w₂ later

theorem alone_required {post : World → Past → Except Exn Lease → Prop} (holds : w.Holds row)
    (met : ∀ w', w.Later w' →
      post w' ((⟨.get row.cleanupToken, some row⟩ : Event Effects) :: h) (.ok row)) :
    (required row.cleanupToken).Alone (runtime d) exit post w h := by
  unfold required
  rw [alone_bind]
  refine alone_getLease fun w' later => ?_
  rw [holds.get]
  exact alone_pure row (met w' later)

/-- A compare-and-set that keeps the Pod id succeeds on an active current row. -/
theorem alone_compareAndSet {post : World → Past → Except Exn Lease → Prop}
    (holds : w.Holds row) (active : row.isTerminal = false)
    (pod : changes.providerPodId = none)
    (met : ∀ w', w'.Holds (row.apply changes) → w.clock ≤ w'.clock →
      post w' ((⟨.compareAndSet row changes, .ok (row.apply changes)⟩ : Event Effects) :: h)
        (.ok (row.apply changes))) :
    (compareAndSet row changes).Alone (runtime d) exit post w h := by
  refine alone_op fun w₁ reply w₂ later performed => alone_ofExcept ?_
  have holds₁ := holds.later later
  have fresh : ∀ other ∈ w₁.rows, ¬ Rows.clash (row.apply changes) other :=
    fun other there => holds₁.tidy.kept holds₁.member there active pod
  have attempt : w₁.rows.compareAndSet row changes =
      (w₁.rows.put (row.apply changes), .ok (row.apply changes)) := by
    unfold Rows.compareAndSet
    rw [holds₁.get]
    dsimp only
    rw [if_neg (by simp), if_neg fun clash => ?_]
    obtain ⟨other, there, clash⟩ := clash
    exact fresh other there clash
  obtain ⟨rows, reached, rfl⟩ := perform_compareAndSet.mp performed
  rw [attempt] at reached
  cases reached
  refine met _ ⟨holds₁.tidy.put fresh, ?_⟩ later.clock
  exact (Rows.mem_put).mpr (.inr ⟨rfl, row, holds₁.member, rfl⟩)

/-- An awaited call: it is dispatched, and any outcome may arrive. -/
theorem alone_await_or {token : String} {call : Call}
    {post : World → Past → Except Exn call.Value → Prop}
    (met : ∀ id : Nat, exit ((⟨.send token call, id⟩ : Event Effects) :: h) ∨
      ∀ w' outcome, w.Later w' →
        exit ((⟨.recv id call, outcome⟩ : Event Effects) ::
          (⟨.send token call, id⟩ : Event Effects) :: h) ∨
        post w' ((⟨.recv id call, outcome⟩ : Event Effects) ::
          (⟨.send token call, id⟩ : Event Effects) :: h) outcome) :
    (await token call).Alone (runtime d) exit post w h := by
  refine alone_op fun w₁ id w₂ later performed => ?_
  rcases met id with met | met
  · exact Alone.done met
  · refine alone_op fun w₃ outcome w₄ later' received => ?_
    obtain ⟨_, rfl⟩ := perform_send.mp performed
    obtain ⟨_, _, _, rfl⟩ := perform_recv.mp received
    rcases met w₄ outcome (later.trans ⟨later'.rows, later'.clock⟩) with met | met
    · exact Alone.done met
    · exact alone_ofExcept met

/-- An awaited call after which nothing is asked for but the end. -/
theorem alone_await {token : String} {call : Call}
    {post : World → Past → Except Exn call.Value → Prop}
    (met : ∀ id : Nat, exit ((⟨.send token call, id⟩ : Event Effects) :: h) ∨
      ∀ w' outcome, w.Later w' →
        post w' ((⟨.recv id call, outcome⟩ : Event Effects) ::
          (⟨.send token call, id⟩ : Event Effects) :: h) outcome) :
    (await token call).Alone (runtime d) exit post w h :=
  alone_await_or fun id => (met id).imp_right fun met w' outcome later =>
    .inr (met w' outcome later)

theorem alone_except {body : Co α} {caught : Exn → Bool} {handler : Exn → Co α}
    {post : World → Past → Except Exn α → Prop}
    (met : body.Alone (runtime d) exit (fun w h o => match o with
      | .ok a => post w h (.ok a)
      | .error x => if caught x then (handler x).Alone (runtime d) exit post w h
          else post w h (.error x)) w h) :
    (except body caught handler).Alone (runtime d) exit post w h := by
  unfold except
  rw [alone_handle]
  refine met.mono fun w h o reached => ?_
  cases o with
  | ok a => exact reached
  | error x =>
      dsimp only at reached ⊢
      split
      · rename_i isCaught
        rwa [if_pos isCaught] at reached
      · rename_i isCaught
        rw [if_neg isCaught] at reached
        exact alone_throw x reached

theorem transitionNonterminal_alone {fuel : Nat}
    {post : World → Past → Except Exn Lease → Prop} (positive : 0 < fuel)
    (holds : w.Holds row) (active : row.isTerminal = false)
    (pod : changes.providerPodId = none)
    (met : ∀ w', w'.Holds (row.apply changes) → w.clock ≤ w'.clock →
      post w' ((⟨.compareAndSet row changes, .ok (row.apply changes)⟩ : Event Effects) :: h)
        (.ok (row.apply changes))) {token : String} :
    (transitionNonterminal token changes fuel row).Alone (runtime d) exit post w h := by
  obtain ⟨fuel, rfl⟩ := Nat.exists_eq_succ_of_ne_zero positive.ne'
  unfold transitionNonterminal
  rw [if_neg (by simp [active])]
  exact alone_except (alone_compareAndSet holds active pod met)

/-- The columns an evidence transition writes over the row, or what its merge raises. -/
def Lease.persisted (row : Lease) (changes : Changes) (update : EvidenceUpdate) :
    Except Exn Changes :=
  match row.evidence with
  | none => .ok changes
  | some evidence =>
      (evidence.merge update).map fun merged => { changes with evidence := some merged }

/-- An evidence transition of an active current row writes at its first attempt, unless the
evidence cannot be merged. -/
theorem transitionWithEvidence_alone {fuel : Nat} {update : EvidenceUpdate} {retry : Bool}
    {post : World → Past → Except Exn Lease → Prop} (positive : 0 < fuel)
    (holds : w.Holds row) (active : row.isTerminal = false)
    (pod : changes.providerPodId = none)
    (failed : ∀ w' h' x, row.persisted changes update = .error x → w.Later w' → h <:+ h' →
      post w' h' (.error x))
    (met : ∀ w' h' changes', row.persisted changes update = .ok changes' →
      w'.Holds (row.apply changes') → w.clock ≤ w'.clock → h <:+ h' →
      post w' h' (.ok (row.apply changes'))) {token : String} :
    (transitionWithEvidence token changes update none retry fuel row).Alone (runtime d) exit
      post w h := by
  obtain ⟨fuel, rfl⟩ := Nat.exists_eq_succ_of_ne_zero positive.ne'
  unfold transitionWithEvidence
  rw [if_neg (by simp [active]), if_neg (by simp), alone_do]
  unfold Lease.persisted at failed met
  unfold persistedChanges
  cases evidence : row.evidence with
  | none =>
      rw [evidence] at met
      refine alone_pure changes ?_
      refine alone_except (alone_compareAndSet holds active pod fun w' holds' clock => ?_)
      exact met w' _ changes rfl holds' clock (List.suffix_cons _ _)
  | some recorded =>
      rw [evidence] at failed met
      dsimp only at failed met ⊢
      refine alone_op fun w₁ merged w₂ later performed => ?_
      obtain ⟨is, rfl⟩ := perform_mergeEvidence.mp performed
      rw [alone_do]
      refine alone_ofExcept ?_
      cases merged with
      | error x =>
          rw [is] at failed
          exact failed w₂ _ x rfl later (List.suffix_cons _ _)
      | ok merged =>
          rw [is] at met
          refine alone_pure _ ?_
          refine alone_except (alone_compareAndSet (holds.later later) active pod
            fun w' holds' clock => ?_)
          exact met w' _ _ rfl holds' (later.clock.trans clock)
            ((List.suffix_cons _ _).trans (List.suffix_cons _ _))

theorem countStopAttempt_alone {fuel : Nat} {post : World → Past → Except Exn Lease → Prop}
    (positive : 0 < fuel) (holds : w.Holds row) (active : row.isTerminal = false)
    (met : ∀ w' changes h', w'.Holds (row.apply changes) → w.clock ≤ w'.clock →
      changes = { stopAttempts := some (row.stopAttempts + 1) } → h <:+ h' →
      post w' h' (.ok (row.apply changes))) {token : String} :
    (countStopAttempt token fuel row).Alone (runtime d) exit post w h := by
  obtain ⟨fuel, rfl⟩ := Nat.exists_eq_succ_of_ne_zero positive.ne'
  unfold countStopAttempt
  rw [if_neg (by simp [active])]
  refine alone_except (alone_compareAndSet holds active rfl fun w' holds' clock => ?_)
  exact met w' _ _ holds' clock rfl (List.suffix_cons _ _)

theorem alone_podId {pod : String} {post : World → Past → Except Exn String → Prop}
    (has : row.providerPodId = some pod) (named : pod ≠ "") (met : post w h (.ok pod)) :
    (podId row).Alone (runtime d) exit post w h := by
  unfold podId
  rw [has]
  dsimp only
  rw [if_neg named]
  exact alone_pure pod met

end Rules

end KestrelRunpod.Pod
