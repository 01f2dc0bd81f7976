import KestrelRunpod.Ollama.Service

/-!
# The world of the Ollama lease service

The shared store, the clock, and every call dispatched so far.  A dispatched create is
`pending` until the provider refuses it or brings up its resource, at any later moment and
whatever became of the task that sent it; a resource is `live` until it is `gone`.

The provider never reports an empty resource id.  A create that is answered with a resource
was accepted as that resource, and a confirmed teardown means that nothing is live under its
id.  Any exception can answer any call.
-/

namespace KestrelRunpod.Ollama

open Interleave

/-- What has become of a dispatched create. -/
inductive Fate
  | pending
  | refused
  | live (id : String)
  | gone (id : String)
  deriving DecidableEq, Repr

/-- The create was accepted as `id`. -/
def Fate.accepted (id : String) : Fate → Bool
  | .live other => other = id
  | .gone other => other = id
  | _ => false

/-- A dispatched call and the lease it was made for. -/
structure CallRecord where
  leaseId : String
  call : Call
  fate : Fate

structure World where
  rows : Rows
  clock : Instant
  calls : List CallRecord

/-- Nothing that this service created is live under `id`. -/
def World.quiet (w : World) (id : String) : Prop := ∀ record ∈ w.calls, record.fate ≠ .live id

instance (w : World) (id : String) : Decidable (w.quiet id) := by
  unfold World.quiet
  infer_instance

/-- The provider could answer the recorded call with this outcome now. -/
def honest (w : World) (record : CallRecord) : (call : Call) → Except Exn call.Value → Prop
  | .provision _ _ _, .ok resource =>
      record.fate.accepted (resource : ProvisionedResource).providerResourceId = true ∧
        (resource : ProvisionedResource).providerResourceId ≠ ""
  | .findResource _ _, .ok found =>
      ∀ resource ∈ (found : Option ProvisionedResource), resource.providerResourceId ≠ ""
  | .teardown resource, .ok _ => w.quiet resource.providerResourceId
  | _, _ => True

instance (w : World) (record : CallRecord) (call : Call) (outcome : Except Exn call.Value) :
    Decidable (honest w record call outcome) := by
  cases call <;> cases outcome <;> (unfold honest; infer_instance)

/-- One operation of a task; `none` when the reply is not possible. -/
def perform (texts : Texts) (w : World) : Event Effects → Option World
  | ⟨.insertRequest request t, reply⟩ =>
      let (rows, outcome) := w.rows.insertRequest texts request t
      if outcome = reply then some { w with rows := rows } else none
  | ⟨.get leaseId, reply⟩ => if w.rows.get leaseId = reply then some w else none
  | ⟨.compareAndSet lease changes, reply⟩ =>
      let (rows, outcome) := w.rows.compareAndSet lease changes
      if outcome = reply then some { w with rows := rows } else none
  | ⟨.listForReconciliation, reply⟩ =>
      if w.rows.listForReconciliation = reply then some w else none
  | ⟨.now, readAt⟩ =>
      if w.clock ≤ (readAt : Int) then some { w with clock := readAt } else none
  | ⟨.validateRuntimeRequest _, _⟩ => some w
  | ⟨.send leaseId call, id⟩ =>
      if (id : Nat) = w.calls.length then
        some { w with calls := w.calls ++ [⟨leaseId, call, .pending⟩] }
      else none
  | ⟨.recv id call, reply⟩ =>
      match w.calls[id]? with
      | none => none
      | some record => if honest w record call reply then some w else none
  | ⟨.joined, _⟩ => some w

example (texts : Texts) (w : World) (cancelled : Bool) :
    perform texts w ⟨.joined, cancelled⟩ = some w := by
  simp only [perform]

/-- What happens without any task: the provider decides on a dispatched create, a resource
disappears, time passes. -/
inductive Drift
  | refuse (id : Nat)
  | accept (id : Nat) (resource : String)
  | vanish (id : Nat)
  | tick (amount : Nat)

/-- The dispatched call `id` with a new fate. -/
def World.withFate (w : World) (id : Nat) (record : CallRecord) (fate : Fate) : World :=
  { w with calls := w.calls.set id { record with fate := fate } }

/-- One change that no task makes. -/
def drift (w : World) : Drift → Option World
  | .refuse id =>
      match w.calls[id]? with
      | some record =>
          if record.fate = .pending then some (w.withFate id record .refused) else none
      | none => none
  | .accept id resource =>
      match w.calls[id]? with
      | some record =>
          match record.call with
          | .provision _ _ _ =>
              if record.fate = .pending ∧ resource ≠ "" then
                some (w.withFate id record (.live resource))
              else none
          | _ => none
      | none => none
  | .vanish id =>
      match w.calls[id]? with
      | some record =>
          match record.fate with
          | .live resource => some (w.withFate id record (.gone resource))
          | _ => none
      | none => none
  | .tick amount => some { w with clock := w.clock + amount }

/-- The lease service's effects over the world. -/
def runtime (texts : Texts) : Runtime Effects World Drift := ⟨perform texts, drift⟩

/-- An empty store and no call dispatched. -/
def World.empty (clock : Instant) : World := ⟨[], clock, []⟩

/-- The tasks of services that share the store: any entry point, with any budget. -/
def admits (texts : Texts) (program : Co Unit) : Prop :=
  ∃ fuel task, program = Task.program ⟨texts, fuel⟩ task

/-! ## What each operation does -/

variable {texts : Texts} {w w' : World}

theorem perform_insertRequest {request : LeaseRequest} {t : Instant}
    {reply : Except Exn (Lease × Bool)} :
    perform texts w ⟨.insertRequest request t, reply⟩ = some w' ↔
      ∃ rows, w.rows.insertRequest texts request t = (rows, reply) ∧
        w' = { w with rows := rows } := by
  generalize attempt : w.rows.insertRequest texts request t = result
  obtain ⟨rows, outcome⟩ := result
  simp only [perform, attempt, Prod.mk.injEq]
  by_cases same : outcome = reply <;> simp [same, eq_comm]

theorem perform_get {leaseId : String} {reply : Option Lease} :
    perform texts w ⟨.get leaseId, reply⟩ = some w' ↔
      w.rows.get leaseId = reply ∧ w' = w := by
  simp only [perform]
  by_cases same : w.rows.get leaseId = reply <;> simp [same, eq_comm]

theorem perform_compareAndSet {lease : Lease} {changes : Changes} {reply : Except Exn Lease} :
    perform texts w ⟨.compareAndSet lease changes, reply⟩ = some w' ↔
      ∃ rows, w.rows.compareAndSet lease changes = (rows, reply) ∧
        w' = { w with rows := rows } := by
  generalize attempt : w.rows.compareAndSet lease changes = result
  obtain ⟨rows, outcome⟩ := result
  simp only [perform, attempt, Prod.mk.injEq]
  by_cases same : outcome = reply <;> simp [same, eq_comm]

theorem perform_listForReconciliation {reply : List Lease} :
    perform texts w ⟨.listForReconciliation, reply⟩ = some w' ↔
      w.rows.listForReconciliation = reply ∧ w' = w := by
  simp only [perform]
  by_cases same : w.rows.listForReconciliation = reply <;> simp [same, eq_comm]

theorem perform_now {t : Instant} :
    perform texts w ⟨.now, t⟩ = some w' ↔ w.clock ≤ t ∧ w' = { w with clock := t } := by
  simp only [perform]
  by_cases order : w.clock ≤ t <;> simp [order, eq_comm]

theorem perform_send {leaseId : String} {call : Call} {id : Nat} :
    perform texts w ⟨.send leaseId call, id⟩ = some w' ↔ id = w.calls.length ∧
      w' = { w with calls := w.calls ++ [⟨leaseId, call, .pending⟩] } := by
  simp only [perform]
  by_cases same : id = w.calls.length <;> simp [same, eq_comm]

theorem perform_recv {id : Nat} {call : Call} {reply : Except Exn call.Value} :
    perform texts w ⟨.recv id call, reply⟩ = some w' ↔
      ∃ record, w.calls[id]? = some record ∧ honest w record call reply ∧ w' = w := by
  simp only [perform]
  cases found : w.calls[id]? with
  | none => simp
  | some record => by_cases fair : honest w record call reply <;> simp [fair, eq_comm]

/-- What can become of a dispatched call, without any task. -/
inductive CallRecord.Next (record : CallRecord) : Fate → Prop
  | refused : record.fate = .pending → record.Next .refused
  | accepted (resource : String) : record.fate = .pending → resource ≠ "" →
      record.Next (.live resource)
  | gone (resource : String) : record.fate = .live resource → record.Next (.gone resource)

/-- Time passes, or one dispatched call meets its next fate. -/
theorem drift_some {change : Drift} (drifted : drift w change = some w') :
    (∃ amount : Nat, w' = { w with clock := w.clock + amount }) ∨
      ∃ id record fate, w.calls[id]? = some record ∧ record.Next fate ∧
        w' = w.withFate id record fate := by
  cases change with
  | tick amount =>
      simp only [drift, Option.some.injEq] at drifted
      exact .inl ⟨amount, drifted.symm⟩
  | refuse id =>
      simp only [drift] at drifted
      split at drifted
      · rename_i record found
        split at drifted
        · rename_i waiting
          cases drifted
          exact .inr ⟨id, record, _, found, .refused waiting, rfl⟩
        · cases drifted
      · cases drifted
  | vanish id =>
      simp only [drift] at drifted
      split at drifted
      · rename_i record found
        split at drifted
        · rename_i resource live
          cases drifted
          exact .inr ⟨id, record, _, found, .gone resource live, rfl⟩
        · cases drifted
      · cases drifted
  | accept id resource =>
      simp only [drift] at drifted
      split at drifted
      · rename_i record found
        split at drifted
        · split at drifted
          · rename_i waiting
            cases drifted
            exact .inr ⟨id, record, _, found, .accepted resource waiting.1 waiting.2, rfl⟩
          · cases drifted
        · cases drifted
      · cases drifted

end KestrelRunpod.Ollama
