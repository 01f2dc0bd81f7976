import KestrelRunpod.Pod.Service.Reconcile

/-!
# The world of the lease service

The shared store, the clock, and every call dispatched so far.  A create or a start that was
dispatched is `pending` until the provider refuses it or lets it take effect, at any later
moment and whatever became of the task that sent it; a Pod it brought up is `live` until it
stops.

A Pod id is never empty.  A reply is possible when an honest provider could give it: a create
that is answered with a Pod was accepted as that Pod, a definite failure means that the create
was and will be refused, a lookup by name finds Pods created under that name, and a confirmed
stop means that nothing is live at that Pod.  Exceptions of any other kind, cancellation
included, can answer any call at any time.  Clock reads never decrease, and the final-billing
observation is dated by the same clock, between the request and its response.
-/

namespace KestrelRunpod.Pod

open Interleave

/-- What has become of a dispatched create or start. -/
inductive Fate
  | pending
  | refused
  | live (pod : String)
  | ended (pod : String)
  deriving DecidableEq, Repr

/-- The call was accepted as `pod`. -/
def Fate.accepted (pod : String) : Fate → Bool
  | .live p => p = pod
  | .ended p => p = pod
  | _ => false

/-- A dispatched call, the lease it was made for, and when. -/
structure CallRecord where
  token : String
  call : Call
  sentAt : Instant
  fate : Fate

/-- The call can bring up a Pod. -/
def Call.mutatesUp : Call → Bool
  | .create _ _ => true
  | .start _ _ => true
  | _ => false

structure World where
  rows : Rows
  clock : Instant
  calls : List CallRecord

/-- Nothing that this system brought up is live at `pod`. -/
def World.quiet (w : World) (pod : String) : Prop :=
  ∀ record ∈ w.calls, record.fate ≠ .live pod

/-- Some create dispatched under `name` was accepted as `pod`. -/
def World.createdAs (w : World) (name pod : String) : Prop :=
  ∃ record ∈ w.calls, record.fate.accepted pod = true ∧
    match record.call with
    | .create resourceName _ => resourceName = name
    | _ => False

instance (w : World) (pod : String) : Decidable (w.quiet pod) := by
  unfold World.quiet
  infer_instance

instance (w : World) (name pod : String) : Decidable (w.createdAs name pod) := by
  unfold World.createdAs
  have each : ∀ record : CallRecord, Decidable (record.fate.accepted pod = true ∧
      match record.call with
      | .create resourceName _ => resourceName = name
      | _ => False) := fun record => by
    cases record.call <;> infer_instance
  infer_instance

/-- The realized placement of a created Pod fits the accepted quote. -/
def CreatedPod.conforms (created : CreatedPod) (spec : CapacitySpec) : Prop :=
  ∀ placement ∈ created.realizedPlacement,
    placement.providerPodId = created.providerPodId ∧
      placement.validateAgainst spec.request.quote.toQuoteFields = .ok ()

instance (created : CreatedPod) (spec : CapacitySpec) : Decidable (created.conforms spec) := by
  unfold CreatedPod.conforms
  infer_instance

/-- An honest provider could answer the recorded call with this outcome now. -/
def honest (w : World) (record : CallRecord) : (call : Call) → Except Exn call.Value → Prop
  | .create _ spec, .ok created =>
      record.fate.accepted (created : CreatedPod).providerPodId = true ∧
        ∀ s ∈ spec, created.conforms s
  | .create _ _, .error (.createdMismatch pod) => record.fate.accepted pod = true
  | .create _ _, .error x => x.isDefinite = true → record.fate = .refused
  | .start _ _, .ok _ => record.fate ≠ .pending ∧ record.fate ≠ .refused
  | .start _ _, .error x => x.isDefinite = true → record.fate = .refused
  | .findByName name, .ok found => ∀ pod ∈ (found : Option String), w.createdAs name pod
  | .findExact name spec, .ok found =>
      ∀ created ∈ (found : Option CreatedPod),
        w.createdAs name created.providerPodId ∧ created.conforms spec ∧
          created.realizedPlacement.isSome = true
  | .stop pod, .ok confirmed => (confirmed : Bool) = true → w.quiet pod
  | .terminate pod, .ok confirmed => (confirmed : Bool) = true → w.quiet pod
  | .observe pod, .ok observation =>
      (observation : PodObservation).isStopped = true → w.quiet pod
  | .finalBilling _ _ _ _, .ok billed =>
      ∀ receipt ∈ (billed : Option BillingReceipt),
        record.sentAt ≤ receipt.reconciledAt ∧ receipt.reconciledAt ≤ w.clock
  | _, _ => True

instance (w : World) (record : CallRecord) (call : Call) (outcome : Except Exn call.Value) :
    Decidable (honest w record call outcome) := by
  cases call <;> cases outcome <;> rename_i x <;> cases x <;>
    (unfold honest; infer_instance)

/-- One operation of a task; `none` when the reply is not possible. -/
def perform (d : Digests) (w : World) : Event Effects → Option World
  | ⟨.reserve request, reply⟩ =>
      let (rows, outcome) := w.rows.reserve d request
      if outcome = reply then some { w with rows := rows } else none
  | ⟨.get token, reply⟩ => if w.rows.get token = reply then some w else none
  | ⟨.compareAndSet lease changes, reply⟩ =>
      let (rows, outcome) := w.rows.compareAndSet lease changes
      if outcome = reply then some { w with rows := rows } else none
  | ⟨.listCleanupFamily root legacy, reply⟩ =>
      if w.rows.listCleanupFamily root legacy = reply then some w else none
  | ⟨.listIncompleteFamilyReleases, reply⟩ =>
      if w.rows.listIncompleteFamilyReleases = reply then some w else none
  | ⟨.listForReconciliation, reply⟩ =>
      if w.rows.listForReconciliation = reply then some w else none
  | ⟨.now, readAt⟩ =>
      if w.clock ≤ (readAt : Int) then some { w with clock := readAt } else none
  | ⟨.mergeEvidence evidence update, reply⟩ =>
      if evidence.merge update = reply then some w else none
  | ⟨.send token call, id⟩ =>
      if (id : Nat) = w.calls.length then
        some { w with calls := w.calls ++ [⟨token, call, w.clock, .pending⟩] }
      else none
  | ⟨.recv id call, reply⟩ =>
      match w.calls[id]? with
      | none => none
      | some record => if honest w record call reply then some w else none
  | ⟨.joined, _⟩ => some w

example (d : Digests) (w : World) (cancelled : Bool) :
    perform d w ⟨.joined, cancelled⟩ = some w := by
  simp only [perform]

/-- What happens without any task: the provider decides on a dispatched create or start, a
live Pod stops, time passes. -/
inductive Drift
  | refuse (id : Nat)
  | accept (id : Nat) (pod : String)
  | stops (id : Nat)
  | tick (amount : Nat)

/-- The dispatched call `id` with a new fate. -/
def World.withFate (w : World) (id : Nat) (record : CallRecord) (fate : Fate) : World :=
  { w with calls := w.calls.set id { record with fate := fate } }

/-- One change that no task makes. -/
def drift (w : World) : Drift → Option World
  | .refuse id =>
      match w.calls[id]? with
      | some record =>
          if record.fate = .pending ∧ record.call.mutatesUp = true then
            some (w.withFate id record .refused)
          else none
      | none => none
  | .accept id pod =>
      match w.calls[id]? with
      | some record =>
          match record.call with
          | .create _ _ =>
              if record.fate = .pending ∧ pod ≠ "" then some (w.withFate id record (.live pod))
              else none
          | .start target _ =>
              if record.fate = .pending ∧ target = pod then
                some (w.withFate id record (.live pod))
              else none
          | _ => none
      | none => none
  | .stops id =>
      match w.calls[id]? with
      | some record =>
          match record.fate with
          | .live pod => some (w.withFate id record (.ended pod))
          | _ => none
      | none => none
  | .tick amount => some { w with clock := w.clock + amount }

/-- The lease service's effects over the world. -/
def runtime (d : Digests) : Runtime Effects World Drift := ⟨perform d, drift⟩

/-- An empty store and no call dispatched. -/
def World.empty (clock : Instant) : World := ⟨[], clock, []⟩

/-! ## What each operation does -/

section

variable {d : Digests} {w w' : World}

theorem perform_reserve {request : PodRequest} {reply : Except Exn (Lease × Bool)} :
    perform d w ⟨.reserve request, reply⟩ = some w' ↔
      ∃ rows, w.rows.reserve d request = (rows, reply) ∧ w' = { w with rows := rows } := by
  generalize attempt : w.rows.reserve d request = result
  obtain ⟨rows, outcome⟩ := result
  simp only [perform, attempt, Prod.mk.injEq]
  by_cases same : outcome = reply <;> simp [same, eq_comm]

theorem perform_get {token : String} {reply : Option Lease} :
    perform d w ⟨.get token, reply⟩ = some w' ↔ w.rows.get token = reply ∧ w' = w := by
  simp only [perform]
  by_cases same : w.rows.get token = reply <;> simp [same, eq_comm]

theorem perform_compareAndSet {lease : Lease} {changes : Changes}
    {reply : Except Exn Lease} :
    perform d w ⟨.compareAndSet lease changes, reply⟩ = some w' ↔
      ∃ rows, w.rows.compareAndSet lease changes = (rows, reply) ∧
        w' = { w with rows := rows } := by
  generalize attempt : w.rows.compareAndSet lease changes = result
  obtain ⟨rows, outcome⟩ := result
  simp only [perform, attempt, Prod.mk.injEq]
  by_cases same : outcome = reply <;> simp [same, eq_comm]

theorem perform_listCleanupFamily {root : String} {legacy : List String}
    {reply : List Lease} :
    perform d w ⟨.listCleanupFamily root legacy, reply⟩ = some w' ↔
      w.rows.listCleanupFamily root legacy = reply ∧ w' = w := by
  simp only [perform]
  by_cases same : w.rows.listCleanupFamily root legacy = reply <;> simp [same, eq_comm]

theorem perform_listIncompleteFamilyReleases {reply : List Lease} :
    perform d w ⟨.listIncompleteFamilyReleases, reply⟩ = some w' ↔
      w.rows.listIncompleteFamilyReleases = reply ∧ w' = w := by
  simp only [perform]
  by_cases same : w.rows.listIncompleteFamilyReleases = reply <;> simp [same, eq_comm]

theorem perform_listForReconciliation {reply : List Lease} :
    perform d w ⟨.listForReconciliation, reply⟩ = some w' ↔
      w.rows.listForReconciliation = reply ∧ w' = w := by
  simp only [perform]
  by_cases same : w.rows.listForReconciliation = reply <;> simp [same, eq_comm]

theorem perform_now {t : Instant} :
    perform d w ⟨.now, t⟩ = some w' ↔ w.clock ≤ t ∧ w' = { w with clock := t } := by
  simp only [perform]
  by_cases order : w.clock ≤ t <;> simp [order, eq_comm]

theorem perform_mergeEvidence {evidence : PodCapacityEvidence} {update : EvidenceUpdate}
    {reply : Except Exn PodCapacityEvidence} :
    perform d w ⟨.mergeEvidence evidence update, reply⟩ = some w' ↔
      evidence.merge update = reply ∧ w' = w := by
  simp only [perform]
  by_cases same : evidence.merge update = reply <;> simp [same, eq_comm]

theorem perform_send {token : String} {call : Call} {id : Nat} :
    perform d w ⟨.send token call, id⟩ = some w' ↔ id = w.calls.length ∧
      w' = { w with calls := w.calls ++ [⟨token, call, w.clock, .pending⟩] } := by
  simp only [perform]
  by_cases same : id = w.calls.length <;> simp [same, eq_comm]

theorem perform_recv {id : Nat} {call : Call} {reply : Except Exn call.Value} :
    perform d w ⟨.recv id call, reply⟩ = some w' ↔
      ∃ record, w.calls[id]? = some record ∧ honest w record call reply ∧ w' = w := by
  simp only [perform]
  cases found : w.calls[id]? with
  | none => simp
  | some record => by_cases fair : honest w record call reply <;> simp [fair, eq_comm]

theorem perform_joined {cancelled : Bool} :
    perform d w ⟨.joined, cancelled⟩ = some w' ↔ w' = w := by
  simp [perform, eq_comm]

/-- What can become of a dispatched call, without any task. -/
inductive CallRecord.Next (record : CallRecord) : Fate → Prop
  | refused : record.fate = .pending → record.call.mutatesUp = true → record.Next .refused
  | accepted (pod : String) : record.fate = .pending →
      ((∃ name spec, record.call = .create name spec ∧ pod ≠ "") ∨
        ∃ count, record.call = .start pod count) →
      record.Next (.live pod)
  | ended (pod : String) : record.fate = .live pod → record.Next (.ended pod)

/-- Time passes, or one dispatched call meets its next fate. -/
theorem drift_some {change : Drift} (drifted : drift w change = some w') :
    (∃ amount : Nat, w' = { w with clock := w.clock + amount }) ∨
      ∃ id record fate, w.calls[id]? = some record ∧ record.Next fate ∧
        w' = w.withFate id record fate := by
  cases change with
  | tick amount =>
      simp only [drift, Option.some.injEq] at drifted
      exact .inl ⟨amount, drifted.symm⟩
  | refuse id =>
      simp only [drift] at drifted
      split at drifted
      · rename_i record found
        split at drifted
        · rename_i open'
          cases drifted
          exact .inr ⟨id, record, _, found, .refused open'.1 open'.2, rfl⟩
        · cases drifted
      · cases drifted
  | stops id =>
      simp only [drift] at drifted
      split at drifted
      · rename_i record found
        split at drifted
        · rename_i pod live
          cases drifted
          exact .inr ⟨id, record, _, found, .ended pod live, rfl⟩
        · cases drifted
      · cases drifted
  | accept id pod =>
      simp only [drift] at drifted
      split at drifted
      · rename_i record found
        split at drifted
        · rename_i name spec call
          split at drifted
          · rename_i waiting
            cases drifted
            exact .inr ⟨id, record, _, found,
              .accepted pod waiting.1 (.inl ⟨name, spec, call, waiting.2⟩), rfl⟩
          · cases drifted
        · rename_i target count call
          split at drifted
          · rename_i waiting
            cases drifted
            exact .inr ⟨id, record, _, found,
              .accepted pod waiting.1 (.inr ⟨count, by rw [call, waiting.2]⟩), rfl⟩
          · cases drifted
        · cases drifted
      · cases drifted

end

end KestrelRunpod.Pod
