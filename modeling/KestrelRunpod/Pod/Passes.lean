import KestrelRunpod.Interleave.Compose
import KestrelRunpod.Pod.Mutations

/-!
# Reconciliation passes

A pass works through the incomplete family releases and then through the rows that need
attention.  Every item is attempted on its own (`guardedAttempt`): an exception of the manager
family ends the attempt and is recorded, and the pass goes on with the next item
(`reconcileEach_passes`).  So in every run a pass that ends normally has attempted everything it
listed, and the only exceptions that end a pass early are those that no handler names
(`reconcile_attempts_all`).
-/

namespace KestrelRunpod.Pod

open Interleave Program

variable {d : Digests} {callers : Callers} {clock : Instant}
  {before after : Config Effects Exn World} {i : Nat}

/-! ## One attempt -/

/-- A compare-and-set is refused by a conflict only. -/
def Conflicts : Event Effects → Prop
  | ⟨.compareAndSet _ _, reply⟩ => ∀ x, reply = .error x → x.isConflict = true
  | _ => True

/-- Tasks may do anything; the store refuses by conflicts. -/
def passContract : Contract Effects := ⟨fun _ _ => True, Conflicts⟩

/-- The task read the row of `token` since `h`. -/
def ReadSince (h : Past) (token : String) (h' : Past) : Prop :=
  ∃ since found, h' = since ++ h ∧ (⟨.get token, found⟩ : Event Effects) ∈ since

theorem ReadSince.onward {h h' h'' : Past} {token : String} (read : ReadSince h token h')
    (grown : h' <:+ h'') : ReadSince h token h'' := by
  obtain ⟨since, found, rfl, member⟩ := read
  obtain ⟨newer, rfl⟩ := grown
  exact ⟨newer ++ since, found, (List.append_assoc _ _ _).symm, List.mem_append_right _ member⟩

section

variable {α : Type} {h : Past} {token : String}

/-- Whatever a task does, it only adds to its history. -/
theorem onward_obeys (p : Co α) (h : Past) :
    p.Obeys passContract (fun h' _ => h <:+ h') (fun h' _ => h <:+ h') h :=
  Obeys.extending ((p.safe_of_free (C := passContract) (fun _ _ => trivial) h).weaken
    (fun _ _ _ _ grown => grown) fun _ _ _ _ grown => grown)

/-- A task that starts with a lookup has made it at both its ends. -/
theorem reads_obeys {k : Option Lease → Co α} :
    (Program.perform (.get token) k : Co α).Obeys passContract (fun h' _ => ReadSince h token h')
      (fun h' _ => ReadSince h token h') h := by
  refine ⟨trivial, fun found _ => ?_⟩
  have read : ReadSince h token ((⟨.get token, found⟩ : Event Effects) :: h) :=
    ⟨[⟨.get token, found⟩], found, rfl, List.mem_cons_self⟩
  exact (onward_obeys (k found) _).weaken (fun _ _ _ grown => read.onward grown)
    fun _ _ _ grown => read.onward grown

/-- The record of an error raises nothing. -/
theorem recordReconcileError_passes (x : Exn) :
    (recordReconcileError token x).Obeys passContract (fun h' _ => h <:+ h') (fun _ _ => False)
      h := by
  unfold recordReconcileError
  rw [bind_eq, obeys_bind]
  refine ⟨trivial, fun found _ => ?_⟩
  cases found with
  | none => exact List.suffix_cons _ _
  | some lease =>
      rw [obeys_pure]
      dsimp only
      split
      · exact List.suffix_cons _ _
      · unfold except
        rw [obeys_handle, obeys_bind]
        refine ⟨trivial, fun reply refused => ?_⟩
        rw [obeys_ofExcept]
        refine ⟨fun row _ => (List.suffix_cons _ _).trans (List.suffix_cons _ _), ?_⟩
        rintro y rfl
        rw [if_pos (refused y rfl)]
        exact ⟨trivial, fun _ _ => (List.suffix_cons _ _).trans
          ((List.suffix_cons _ _).trans (List.suffix_cons _ _))⟩

/-- An attempt that starts with the lookup of its row is made whatever comes of it, and only an
exception outside the manager family leaves it. -/
theorem guardedAttempt_passes {attempt : Co (Option Lease)} {k : Option Lease → Co (Option Lease)}
    (starts : attempt = .perform (.get token) k) :
    (guardedAttempt token attempt).Obeys passContract (fun h' _ => ReadSince h token h')
      (fun _ x => x.isManager = false) h := by
  subst starts
  unfold guardedAttempt except
  rw [obeys_handle]
  refine reads_obeys.weaken (fun _ _ _ read => read) fun h' x _ read => ?_
  cases manager : x.isManager with
  | true =>
      rw [if_pos rfl]
      exact (recordReconcileError_passes x).weaken (fun _ _ _ grown => read.onward grown)
        fun _ _ _ impossible => impossible.elim
  | false =>
      rw [if_neg (by simp)]
      exact manager

/-- The attempts of a pass. -/
theorem reconcileEach_passes {attempt : String → Co (Option Lease)}
    (starts : ∀ token, ∃ k, attempt token = .perform (.get token) k) (rows : List Lease)
    (h : Past) :
    (reconcileEach attempt rows).Obeys passContract
      (fun h' _ => ∃ since, h' = since ++ h ∧ ∀ row ∈ rows, ∃ found,
        (⟨.get row.cleanupToken, found⟩ : Event Effects) ∈ since)
      (fun _ x => x.isManager = false) h := by
  induction rows generalizing h with
  | nil => exact ⟨[], rfl, by simp⟩
  | cons initial rest ih =>
      obtain ⟨k, is⟩ := starts initial.cleanupToken
      unfold reconcileEach
      rw [bind_eq, obeys_bind]
      refine (guardedAttempt_passes is).weaken (fun h₁ result _ read => ?_) fun _ _ _ => id
      obtain ⟨first, found, rfl, member⟩ := read
      rw [bind_eq, obeys_bind]
      refine (ih _).weaken (fun h₂ results _ reads => ?_) fun _ _ _ => id
      obtain ⟨since, rfl, others⟩ := reads
      refine ⟨since ++ first, (List.append_assoc _ _ _).symm, fun row listed => ?_⟩
      rcases List.mem_cons.mp listed with rfl | listed
      · exact ⟨found, List.mem_append_right _ member⟩
      · obtain ⟨found', member'⟩ := others row listed
        exact ⟨found', List.mem_append_left _ member'⟩

end

/-! ## A pass -/

/-- The pass listed the incomplete family releases and then the rows that need attention, and
looked up every one of them after it had listed it. -/
def Passed (h : Past) : Prop :=
  ∃ (roots rows : List Lease) (families leases : Past),
    h = leases ++ (⟨.listForReconciliation, rows⟩ : Event Effects) ::
      (families ++ [(⟨.listIncompleteFamilyReleases, roots⟩ : Event Effects)]) ∧
    (∀ root ∈ roots, ∃ found,
      (⟨.get root.cleanupToken, found⟩ : Event Effects) ∈ families) ∧
    ∀ row ∈ rows, ∃ found, (⟨.get row.cleanupToken, found⟩ : Event Effects) ∈ leases

theorem reconcile_passes (svc : Service) :
    (reconcile svc).Obeys passContract (fun h _ => Passed h) (fun _ x => x.isManager = false)
      [] := by
  unfold reconcile
  refine ⟨trivial, fun (roots : List Lease) _ => ?_⟩
  dsimp only
  rw [bind_eq, obeys_bind]
  refine (reconcileEach_passes (fun token => ⟨_, rfl⟩) roots _).weaken
    (fun h₁ released _ reads => ?_) fun _ _ _ => id
  obtain ⟨families, rfl, attempted⟩ := reads
  refine ⟨trivial, fun (rows : List Lease) _ => ?_⟩
  dsimp only
  rw [bind_eq, obeys_bind]
  refine (reconcileEach_passes (fun token => ⟨_, rfl⟩) rows _).weaken
    (fun h₂ reconciled _ reads => ?_) fun _ _ _ => id
  obtain ⟨leases, rfl, others⟩ := reads
  exact ⟨roots, rows, families, leases, rfl, attempted, others⟩

/-- The store of a run refuses by conflicts. -/
theorem ServiceRun.conflicts {K : Restriction Effects World}
    (run : ServiceRun d callers K clock after) :
    ∀ e ∈ after.log.of i, passContract.promises e := by
  intro e member
  obtain ⟨later, earlier, split⟩ := List.append_of_mem (Log.mem_of.mp member)
  obtain ⟨_, _, _, _, _, performed, _⟩ := run.trail.act_of_mem split
  obtain ⟨op, reply⟩ := e
  cases op with
  | compareAndSet lease changes =>
      obtain ⟨rows, attempt, _⟩ := perform_compareAndSet.mp performed
      rintro x rfl
      exact (Rows.compareAndSet_error attempt).2
  | _ => trivial

/-- The configuration in which task `i` starts a pass. -/
def startsPass (svc : Service) (i : Nat) (c : Config Effects Exn World) :
    Config Effects Exn World :=
  { c with tasks := Function.update c.tasks i (some (reconcile svc).void) }

/-- A pass attempts everything it lists.  In every run, whatever the other tasks, the provider
and the clock do meanwhile: a pass that has ended normally has looked up every incomplete family
release and every row it listed; and a pass that ended with an exception ended with one outside
the manager family, so nothing that the provider layer raises for one lease keeps the pass from
the others. -/
theorem reconcile_attempts_all (run : ServiceRun d callers anyMove clock before) {svc : Service}
    (configured : svc.digests = d) (free : before.tasks i = none)
    (onward : Run (runtime d) (Admits d callers) anyMove (startsPass svc i before) after) :
    (after.tasks i = some (.pure ()) → Passed (after.log.of i)) ∧
      ∀ x, after.tasks i = some (.throw x) → x.isManager = false := by
  have started : Step (runtime d) (Admits d callers) anyMove before (startsPass svc i before) :=
    .spawn i _ free (.reconcile svc configured)
  have whole : ServiceRun d callers anyMove clock after := (run.tail started).trans onward
  have task : (startsPass svc i before).tasks i = some (reconcile svc).void := by
    simp [startsPass]
  have obeys := (reconcile_passes svc).void
  have fresh : before.log.of i = [] := Run.fresh run free
  have here : (startsPass svc i before).log.of i = [] := fresh
  rw [← here] at obeys
  obtain ⟨q, there, keeps, _⟩ := Run.obeyed onward task obeys whole.conflicts
  refine ⟨fun ended => ?_, fun x raised => ?_⟩
  · rw [ended] at there
    cases there
    obtain ⟨_, passed⟩ := keeps
    exact passed
  · rw [raised] at there
    cases there
    exact keeps

/-! ### A pass with a failing lease -/

section

open Sample

/-- A stopped Pod is claimed and its start is never answered, until the claim is stale. -/
def abandoned : Schedule digests agreed := reused ++ [.drift (.tick 9000000000)]

/-- The provider refuses every stop. -/
def refusesStop : (call : Call) → Option (Except Exn call.Value)
  | .stop _ => some (.error (.api "RunPodAPIError"))
  | _ => none

/-- The pass fails at the lease. -/
def failing : Schedule digests agreed := [runs 1 20, gets 1 refusesStop, runs 1 20]

/-- The pass has ended normally, and an error is on record. -/
def passedOver (c : Config Effects Exn World) : Bool :=
  (match c.tasks 1 with
    | some (.pure _) => true
    | _ => false) && c.world.rows.any fun row => row.lastProviderError.isSome

/-- The stop failed, and the pass went on to its end. -/
theorem reconcile_attempts_all_failing :
    ∃ before after : Config Effects Exn World,
      ServiceRun digests agreed anyMove (seconds 250) before ∧
      (∃ row ∈ after.world.rows, row.lastProviderError.isSome = true) ∧
      Passed (after.log.of 1) := by
  obtain ⟨before, run, checked⟩ := exhibits abandoned anyMove (seconds 250)
    (fun before => (before.tasks 1).isNone &&
      ((startsPass service 1 before).execute anyMove failing).any passedOver) (by decide +kernel)
  simp only [Bool.and_eq_true, Option.isNone_iff_eq_none] at checked
  obtain ⟨free, ends⟩ := checked
  obtain ⟨after, reached, passed⟩ := (Option.any_eq_true _ _).mp ends
  simp only [passedOver, Bool.and_eq_true, List.any_eq_true] at passed
  obtain ⟨ended, failed⟩ := passed
  have attempts := reconcile_attempts_all run configured free (Config.execute_run reached)
  refine ⟨before, after, run, failed, attempts.1 ?_⟩
  split at ended
  · rename_i task
    exact task
  · cases ended

end

end KestrelRunpod.Pod
