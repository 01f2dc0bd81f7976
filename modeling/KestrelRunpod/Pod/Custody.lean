import KestrelRunpod.Pod.System.Schedule

/-!
# Custody of the artifact handoff

The handoff of a lease moves through five stages: absent, bound to the reported result and
receipt, with a persisted acknowledgement intent, with the remote acknowledgement observed,
and with the host's confirmation declared.  Every write keeps its stage or takes it one step
further (`Write.custodyStep`), and from the stages the custody of the whole run follows
(`ServiceRun.custody`).

Replays are a matter of one task: an acknowledgement that is already proven is answered from
the row, and one that differs from the persisted intent is rejected (`Replayed`).
-/

namespace KestrelRunpod.Pod

open Interleave Program

variable {d : Digests} {callers : Callers} {K : Restriction Effects World} {clock : Instant}
  {write : Write} {cur : Lease} {changes : Changes}

/-! ## Stages of a handoff -/

/-- Nothing that was recorded of the handoff is recorded otherwise. -/
structure Handoff.Grows (f f' : Handoff) : Prop where
  attemptId : f'.attemptId = f.attemptId
  requestSha256 : f'.requestSha256 = f.requestSha256
  resultSha256 : f'.resultSha256 = f.resultSha256
  receiptSha256 : f'.receiptSha256 = f.receiptSha256
  acknowledgementSha256 : ∀ x, f.acknowledgementSha256 = some x →
    f'.acknowledgementSha256 = some x
  acknowledgementPayloadSha256 : ∀ x, f.acknowledgementPayloadSha256 = some x →
    f'.acknowledgementPayloadSha256 = some x
  remoteAckObservedAt : ∀ t, f.remoteAckObservedAt = some t → f'.remoteAckObservedAt = some t
  hostConfirmationDeclaredAt : ∀ t, f.hostConfirmationDeclaredAt = some t →
    f'.hostConfirmationDeclaredAt = some t

theorem Handoff.Grows.refl (f : Handoff) : f.Grows f :=
  ⟨rfl, rfl, rfl, rfl, fun _ => id, fun _ => id, fun _ => id, fun _ => id⟩

theorem Handoff.Grows.trans {f g h : Handoff} (first : f.Grows g) (second : g.Grows h) :
    f.Grows h where
  attemptId := second.attemptId.trans first.attemptId
  requestSha256 := second.requestSha256.trans first.requestSha256
  resultSha256 := second.resultSha256.trans first.resultSha256
  receiptSha256 := second.receiptSha256.trans first.receiptSha256
  acknowledgementSha256 := fun x is =>
    second.acknowledgementSha256 x (first.acknowledgementSha256 x is)
  acknowledgementPayloadSha256 := fun x is =>
    second.acknowledgementPayloadSha256 x (first.acknowledgementPayloadSha256 x is)
  remoteAckObservedAt := fun t is => second.remoteAckObservedAt t (first.remoteAckObservedAt t is)
  hostConfirmationDeclaredAt := fun t is =>
    second.hostConfirmationDeclaredAt t (first.hostConfirmationDeclaredAt t is)

/-- One step of custody. -/
inductive CustodyStep : Option Handoff → Option Handoff → Prop
  | kept (recorded : Option Handoff) : CustodyStep recorded recorded
  | bound (f : Handoff) : f.acknowledgementSha256 = none → f.remoteAckObservedAt = none →
      CustodyStep none (some f)
  | intended (f f' : Handoff) (digest payload : String) : f.remoteAckObservedAt = none →
      (f.acknowledgementSha256 ≠ none → f.acknowledgementSha256 = some digest ∧
        f.acknowledgementPayloadSha256 = some payload) →
      f'.toHandoffFields =
        { f.toHandoffFields with
          acknowledgementSha256 := some digest
          acknowledgementPayloadSha256 := some payload } →
      CustodyStep (some f) (some f')
  | proven (f f' : Handoff) (t : Instant) : f.acknowledgementSha256 ≠ none →
      f'.toHandoffFields =
        { f.toHandoffFields with
          remoteAckObservedAt := f.remoteAckObservedAt.or (some t) } →
      CustodyStep (some f) (some f')
  | declared (f f' : Handoff) (t : Instant) : f.remoteAckObservedAt ≠ none →
      (f.hostConfirmationDeclaredAt = none ∨ f.hostConfirmationDeclaredAt = some t) →
      f'.toHandoffFields =
        { f.toHandoffFields with hostConfirmationDeclaredAt := some t } →
      CustodyStep (some f) (some f')

/-- A handoff is never lost, and only grows. -/
theorem CustodyStep.grows {recorded recorded' : Option Handoff}
    (step : CustodyStep recorded recorded') {f : Handoff} (has : recorded = some f) :
    ∃ f', recorded' = some f' ∧ f.Grows f' := by
  cases step with
  | kept => exact ⟨f, has, .refl f⟩
  | bound g _ _ => cases has
  | intended g f' digest payload _ agrees is =>
      cases has
      refine ⟨f', rfl, ?_⟩
      constructor <;> simp only [is, imp_self, implies_true]
      · intro x bound
        rw [(agrees (by simp [bound])).1] at bound
        exact bound
      · intro x bound
        have intent : f.acknowledgementSha256 ≠ none := fun missing => by
          rw [f.intent_complete.mp missing] at bound
          cases bound
        rw [(agrees intent).2] at bound
        exact bound
  | proven g f' t _ is =>
      cases has
      refine ⟨f', rfl, ?_⟩
      constructor <;> simp only [is, imp_self, implies_true]
      intro x observed
      simp [observed]
  | declared g f' t _ first is =>
      cases has
      refine ⟨f', rfl, ?_⟩
      constructor <;> simp only [is, imp_self, implies_true]
      intro x declared
      rcases first with none | same
      · rw [none] at declared
        cases declared
      · rw [same] at declared
        exact declared

/-- A remote acknowledgement is new only on top of the same intent. -/
theorem CustodyStep.proof_on_intent {recorded : Option Handoff} {f' : Handoff}
    (step : CustodyStep recorded (some f')) (proven : f'.remoteAckObservedAt ≠ none) :
    ∃ f, recorded = some f ∧ f.acknowledgementSha256 = f'.acknowledgementSha256 ∧
      f.acknowledgementPayloadSha256 = f'.acknowledgementPayloadSha256 ∧
      f.acknowledgementSha256 ≠ none := by
  have intent := f'.intent_of_remoteAck proven
  cases step with
  | kept => exact ⟨f', rfl, rfl, rfl, intent⟩
  | bound f none _ => exact absurd none intent
  | intended f f' digest payload unproven _ is =>
      rw [is] at proven
      exact absurd unproven proven
  | proven f f' t has is => exact ⟨f, rfl, by rw [is], by rw [is], has⟩
  | declared f f' t acked _ is =>
      exact ⟨f, rfl, by rw [is], by rw [is], f.intent_of_remoteAck acked⟩

/-- Every write takes the handoff at most one step further. -/
theorem Write.custodyStep {i : Nat} {m : Moment Effects World}
    (guarded : write.Guard d callers (m.log.of i) cur) (makes : write.Makes cur changes) :
    CustodyStep cur.artifactHandoff (cur.apply changes).artifactHandoff := by
  obtain ⟨evidence, rfl⟩ := makes.columns
  rw [Lease.apply_artifactHandoff]
  dsimp only
  cases sets : write.base.artifactHandoff with
  | none => exact .kept _
  | some f' =>
      rw [Option.some_or]
      rcases Write.base_artifactHandoff sets with
        ⟨observation, submitted, t, changes, phases, rfl, reported⟩ | rfl | ⟨t, rfl⟩
      · obtain ⟨_, spec, _, _, _, ok, _⟩ := guarded
        obtain ⟨handoff, observed⟩ := catalogObservationChanges_ok ok
        have result : handoff = some f' := by
          rw [← observed.proof, reported, Option.some_or]
        rw [← result]
        cases (observedHandoff_ok observed.reports).1 with
        | kept => exact .kept _
        | bound g missing fresh unproven =>
            rw [missing]
            exact .bound g fresh unproven
        | proven g g' recorded intent is =>
            rw [recorded]
            exact .proven g g' t intent is
      · obtain ⟨_, _, unproven, f, payload, recorded, bound⟩ := guarded
        obtain ⟨digest, binds⟩ := Handoff.bindAcknowledgement_ok bound
        rw [recorded]
        refine .intended f f' digest _ ?_ binds.agrees binds.intent
        have same := congrArg HandoffFields.remoteAckObservedAt binds.intent
        exact same.symm.trans unproven
      · obtain ⟨_, spec, _, _, protocolOne, historical⟩ := guarded
        rcases spec.request.protocol with absent | one
        · cases historical (by rw [absent]; simp)
        · obtain ⟨f, digest, declaredAt, confirmed, recorded, acked, _, _, first, built, is⟩ :=
            protocolOne one
          cases is
          rw [recorded]
          exact .declared f f' declaredAt acked first (Handoff.build_ok.mp built)

/-! ## Custody over a run -/

/-- A version on which the same intent stood, before any remote acknowledgement. -/
def IntentBefore (log : Log Effects) (row : Lease) (f : Handoff) : Prop :=
  ∃ old f₀, Committed log old ∧ old.cleanupToken = row.cleanupToken ∧
    old.revision < row.revision ∧ old.artifactHandoff = some f₀ ∧
    f₀.remoteAckObservedAt = none ∧ f₀.acknowledgementSha256 ≠ none ∧
    f₀.acknowledgementSha256 = f.acknowledgementSha256 ∧
    f₀.acknowledgementPayloadSha256 = f.acknowledgementPayloadSha256

/-- The remote acknowledgement is on record, and a host confirmed the same digest. -/
def Delivered (callers : Callers) (row : Lease) : Prop :=
  ∃ f digest, row.artifactHandoff = some f ∧ f.remoteAckObservedAt ≠ none ∧
    f.hostConfirmationDeclaredAt ≠ none ∧ f.acknowledgementSha256 = some digest ∧
    callers.confirms digest

theorem Delivered.grows {row row' : Lease} (delivered : Delivered callers row)
    (step : CustodyStep row.artifactHandoff row'.artifactHandoff) : Delivered callers row' := by
  obtain ⟨f, digest, has, acked, declared, names, confirms⟩ := delivered
  obtain ⟨f', has', grows⟩ := step.grows has
  obtain ⟨t, ackedAt⟩ := Option.ne_none_iff_exists'.mp acked
  obtain ⟨u, declaredAt⟩ := Option.ne_none_iff_exists'.mp declared
  exact ⟨f', digest, has', by simp [grows.remoteAckObservedAt t ackedAt],
    by simp [grows.hostConfirmationDeclaredAt u declaredAt],
    grows.acknowledgementSha256 digest names, confirms⟩

/-- Custody of every lease, at one moment. -/
structure Custody (callers : Callers) (m : Moment Effects World) : Prop where
  /-- What any earlier version recorded is recorded unchanged on the current row. -/
  writeOnce : Since (fun old now => ∀ f, old.artifactHandoff = some f →
    ∃ f', now.artifactHandoff = some f' ∧ f.Grows f') m
  /-- A remote acknowledgement follows the identical persisted intent. -/
  intentFirst : ∀ row, Committed m.log row → ∀ f, row.artifactHandoff = some f →
    f.remoteAckObservedAt ≠ none → IntentBefore m.log row f
  /-- An acknowledged workload has its remote proof, and every row passes its checks. -/
  acknowledged : ∀ row, Committed m.log row → row.check = .ok () ∧
    (row.workloadState = .acknowledged →
      ∃ f, row.artifactHandoff = some f ∧ f.remoteAckObservedAt ≠ none)
  /-- A protocol-1 result counts as retrieved once it was delivered. -/
  retrieved : ∀ row, Committed m.log row → row.protocolOne = true →
    row.state = .resultRetrieved → Delivered callers row

section

variable {m : Moment Effects World}

theorem LeaseTrail.writeOnce (trail : LeaseTrail d callers K clock m) :
    Since (fun old now => ∀ f, old.artifactHandoff = some f →
      ∃ f', now.artifactHandoff = some f' ∧ f.Grows f') m := by
  refine trail.since (fun row f has => ⟨f, has, .refl f⟩) (fun a b c ab bc f has => ?_)
    fun m _ i cur write changes _ _ _ guarded makes _ f has =>
      (write.custodyStep guarded makes).grows has
  obtain ⟨g, hasG, first⟩ := ab f has
  obtain ⟨h, hasH, second⟩ := bc g hasG
  exact ⟨h, hasH, first.trans second⟩

theorem IntentBefore.mono {log log' : Log Effects} {row : Lease} {f : Handoff}
    (grown : log <:+ log') (before : IntentBefore log row f) : IntentBefore log' row f := by
  obtain ⟨old, f₀, committed, rest⟩ := before
  exact ⟨old, f₀, committed.mono grown, rest⟩

theorem LeaseTrail.intentFirst (trail : LeaseTrail d callers K clock m) :
    ∀ row, Committed m.log row → ∀ f, row.artifactHandoff = some f →
      f.remoteAckObservedAt ≠ none → IntentBefore m.log row f := by
  refine trail.always (P := fun m row => ∀ f, row.artifactHandoff = some f →
      f.remoteAckObservedAt ≠ none → IntentBefore m.log row f)
    (fun m m' row _ move before f has acked => (before f has acked).mono move.log_suffix)
    (fun _ _ _ _ _ _ _ _ _ f has => ?_) ?_
  · simp [Rows.reserved] at has
  · intro m m' i cur write changes before move member guarded makes log known f' has acked
    have step := write.custodyStep guarded makes
    rw [has] at step
    obtain ⟨f, recorded, sameAck, samePayload, intent⟩ := step.proof_on_intent acked
    by_cases already : f.remoteAckObservedAt = none
    · have current := (LeaseTrail.consistent before).current cur member
      exact ⟨cur, f, current.mono move.log_suffix, rfl, by simp, recorded, already, intent,
        sameAck, samePayload⟩
    · obtain ⟨old, f₀, committed, same, earlier, has₀, unproven, named, ack, payload⟩ :=
        known f recorded already
      refine ⟨old, f₀, committed.mono move.log_suffix, same, ?_, has₀, unproven, named,
        ack.trans sameAck, payload.trans samePayload⟩
      rw [Lease.apply_revision]
      omega

/-- An observation that sets the workload state reports the handoff the state calls for. -/
theorem Write.workload_handoff {i : Nat} {state : WorkloadState}
    (guarded : write.Guard d callers (m.log.of i) cur) (makes : write.Makes cur changes)
    (sets : write.base.workloadState = some state) :
    (state = .awaitingAck → (cur.apply changes).artifactHandoff ≠ none) ∧
      (state = .acknowledged → ∃ f, (cur.apply changes).artifactHandoff = some f ∧
        f.remoteAckObservedAt ≠ none) := by
  obtain ⟨evidence, rfl⟩ := makes.columns
  rw [Lease.apply_artifactHandoff]
  dsimp only
  rcases Write.base_workloadState sets with
    ⟨observation, submitted, t, changes, phases, rfl, reported⟩ | ⟨t, _, rfl⟩
  · obtain ⟨_, spec, _, _, _, ok, _⟩ := guarded
    obtain ⟨handoff, observed⟩ := catalogObservationChanges_ok ok
    obtain ⟨_, waits, proven, _⟩ := observedHandoff_ok observed.reports
    have same : observation.state = state := by
      rcases observed.progress with ⟨_, none, _⟩ | ⟨_, _, workload, _⟩
      · rw [none] at reported
        cases reported
      · rw [workload] at reported
        exact Option.some.inj reported
    subst same
    rw [show (Write.observed observation submitted t changes phases).base = changes from rfl,
      observed.proof]
    exact ⟨waits, proven⟩
  · simp

theorem CustodyStep.ne_none {recorded recorded' : Option Handoff}
    (step : CustodyStep recorded recorded') (present : recorded ≠ none) : recorded' ≠ none := by
  obtain ⟨f, has⟩ := Option.ne_none_iff_exists'.mp present
  obtain ⟨f', has', _⟩ := step.grows has
  simp [has']

theorem CustodyStep.proof_kept {recorded recorded' : Option Handoff}
    (step : CustodyStep recorded recorded')
    (proven : ∃ f, recorded = some f ∧ f.remoteAckObservedAt ≠ none) :
    ∃ f, recorded' = some f ∧ f.remoteAckObservedAt ≠ none := by
  obtain ⟨f, has, acked⟩ := proven
  obtain ⟨f', has', grows⟩ := step.grows has
  obtain ⟨t, ackedAt⟩ := Option.ne_none_iff_exists'.mp acked
  exact ⟨f', has', by simp [grows.remoteAckObservedAt t ackedAt]⟩

/-- A handoff belongs to the attempt of its lease, which speaks protocol 1. -/
theorem LeaseTrail.handoffBelongs (trail : LeaseTrail d callers K clock m) :
    ∀ row, Committed m.log row → ∀ f, row.artifactHandoff = some f →
      ∃ spec, row.capacitySpec = some spec ∧
        spec.request.artifactHandoffProtocolVersion = some 1 ∧
        f.attemptId = spec.request.attemptId ∧ f.requestSha256 = spec.request.requestSha256 := by
  refine trail.always (P := fun _ row => ∀ f, row.artifactHandoff = some f →
      ∃ spec, row.capacitySpec = some spec ∧
        spec.request.artifactHandoffProtocolVersion = some 1 ∧
        f.attemptId = spec.request.attemptId ∧ f.requestSha256 = spec.request.requestSha256)
    (fun _ _ _ _ _ => id) (fun _ _ _ _ _ _ _ _ _ f has => ?_) ?_
  · simp [Rows.reserved] at has
  · intro m m' i cur write changes before move member guarded makes log known f' has
    have step := write.custodyStep guarded makes
    cases recorded : cur.artifactHandoff with
    | some f =>
        obtain ⟨spec, hasSpec, one, attempt, request⟩ := known f recorded
        obtain ⟨g, hasG, grows⟩ := step.grows recorded
        rw [has] at hasG
        cases hasG
        exact ⟨spec, hasSpec, one, grows.attemptId.trans attempt,
          grows.requestSha256.trans request⟩
    | none =>
        -- The handoff is new, so an observation has just reported it.
        obtain ⟨evidence, rfl⟩ := makes.columns
        rw [Lease.apply_artifactHandoff, recorded, Option.or_none] at has
        rcases Write.base_artifactHandoff has with
          ⟨observation, submitted, t, changes, phases, rfl, reported⟩ | rfl | ⟨t, rfl⟩
        · obtain ⟨_, spec, hasSpec, attempt, _, ok, _⟩ := guarded
          obtain ⟨handoff, observed⟩ := catalogObservationChanges_ok ok
          obtain ⟨_, _, _, fresh⟩ := observedHandoff_ok observed.reports
          have result : handoff = some f' := by rw [← observed.proof, reported, Option.some_or]
          obtain ⟨ownAttempt, ownRequest, phase⟩ := fresh f' recorded result
          refine ⟨spec, hasSpec, ?_, ownAttempt.trans attempt, ownRequest⟩
          rcases spec.request.protocol with absent | one
          · obtain ⟨notWaiting, notAcked⟩ := observed.historical absent
            exact absurd phase (not_or.mpr ⟨notWaiting, notAcked⟩)
          · exact one
        · obtain ⟨_, _, _, f, _, present, _⟩ := guarded
          rw [recorded] at present
          cases present
        · obtain ⟨_, spec, _, _, protocolOne, historical⟩ := guarded
          rcases spec.request.protocol with absent | one
          · cases historical (by rw [absent]; simp)
          · obtain ⟨f, _, _, _, present, _⟩ := protocolOne one
            rw [recorded] at present
            cases present

/-- Every stored row passes the checks of the lease constructor. -/
theorem LeaseTrail.sound (trail : LeaseTrail d callers K clock m) :
    ∀ row, Committed m.log row → row.check = .ok () := by
  have phases := trail.always (P := fun _ row =>
      (row.workloadState = .awaitingAck ∨ row.workloadState = .acknowledged →
        row.artifactHandoff ≠ none) ∧
      (row.workloadState = .acknowledged →
        ∃ f, row.artifactHandoff = some f ∧ f.remoteAckObservedAt ≠ none))
    (fun _ _ _ _ _ => id) (fun _ _ _ _ _ _ _ _ _ => by simp [Rows.reserved]) ?_
  · exact fun row committed =>
      Lease.check_ok.mpr ⟨trail.handoffBelongs row committed, phases row committed⟩
  · intro m m' i cur write changes before move member guarded makes log known
    have step := write.custodyStep guarded makes
    have workload : (cur.apply changes).workloadState =
        write.base.workloadState.getD cur.workloadState := by
      obtain ⟨evidence, rfl⟩ := makes.columns
      rfl
    cases sets : write.base.workloadState with
    | none =>
        rw [workload, sets, Option.getD_none]
        exact ⟨fun phase => step.ne_none (known.1 phase),
          fun acked => step.proof_kept (known.2 acked)⟩
    | some state =>
        obtain ⟨waits, proven⟩ := write.workload_handoff guarded makes sets
        rw [workload, sets, Option.getD_some]
        refine ⟨fun phase => phase.elim waits fun acked => ?_, proven⟩
        obtain ⟨f, has, _⟩ := proven acked
        rw [has]
        exact Option.some_ne_none f

theorem LeaseTrail.retrieved (trail : LeaseTrail d callers K clock m) :
    ∀ row, Committed m.log row → row.protocolOne = true → row.state = .resultRetrieved →
      Delivered callers row := by
  refine trail.always (P := fun _ row => row.protocolOne = true →
      row.state = .resultRetrieved → Delivered callers row)
    (fun _ _ _ _ _ => id) (fun _ _ _ _ _ _ _ _ _ _ is => ?_) ?_
  · simp [Rows.reserved] at is
  · intro m m' i cur write changes before move member guarded makes log known protocol is
    have step := write.custodyStep guarded makes
    have protocolCur : cur.protocolOne = true := protocol
    obtain ⟨evidence, rfl⟩ := makes.columns
    rw [Lease.apply_state] at is
    dsimp only at is
    cases sets : write.base.state with
    | none =>
        rw [sets, Option.getD_none] at is
        exact (known protocolCur is).grows step
    | some state =>
        rw [sets, Option.getD_some] at is
        subst is
        rcases Write.base_state sets with stop | onward
        · cases stop
        · cases onward with
          | resultRetrieved t =>
              rw [guarded.1] at protocolCur
              cases protocolCur
          | hostConfirmed confirmation t =>
              obtain ⟨_, spec, has, _, protocolOne, _⟩ := guarded
              have one : spec.request.artifactHandoffProtocolVersion = some 1 := by
                simpa [Lease.protocolOne, has] using protocolCur
              obtain ⟨f, digest, declaredAt, confirmed, recorded, acked, names, confirms, _,
                built, rfl⟩ := protocolOne one
              have fields := Handoff.build_ok.mp built
              exact ⟨confirmed, digest, rfl, by rw [fields]; exact acked, by rw [fields]; simp,
                by rw [fields]; exact names, confirms⟩
          | observed observation submitted t changes phases _ sets =>
              obtain ⟨_, spec, _, _, _, ok, _⟩ := guarded
              obtain ⟨handoff, observed⟩ := catalogObservationChanges_ok ok
              have states := (observed.state sets).2
              simp at states

/-- Custody holds at every moment of every run of the service. -/
theorem LeaseTrail.custody (trail : LeaseTrail d callers K clock m) : Custody callers m :=
  ⟨trail.writeOnce, trail.intentFirst, fun row committed => ⟨trail.sound row committed,
    (Lease.check_ok.mp (trail.sound row committed)).2.2⟩, trail.retrieved⟩

end

/-! ## Replays of an acknowledgement -/

/-- The operations that only read one row, or wait for an effect the task owns. -/
def Op.readsOnly (token : String) : Op → Prop
  | .get t => t = token
  | .joined => True
  | _ => False

/-- The row is for the capacity `spec`, and has a handoff that has grown from `f`. -/
structure Custodian (spec : CapacitySpec) (f : Handoff) (row : Lease) : Prop where
  capacitySpec : row.capacitySpec = some spec
  handoff : ∃ f', row.artifactHandoff = some f' ∧ f.Grows f'

/-- A task that may only read, and is shown rows of one custodian. -/
def reading (token : String) (spec : CapacitySpec) (f : Handoff) : Contract Effects where
  permits _ op := op.readsOnly token
  promises e :=
    match e with
    | ⟨.get _, reply⟩ => ∃ row, reply = some row ∧ Custodian spec f row
    | _ => True

/-- How the service answers an acknowledgement of a lease on which the handoff `f` is
recorded: `same` says that it is the acknowledgement on record. -/
structure Replayed (capacityId : String) (spec : CapacitySpec) (f : Handoff) (same : Prop)
    (answer : Co Lease) : Prop where
  /-- Nothing is dispatched or written; the acknowledgement on record is answered with the
  row, any other one is rejected. -/
  reads : answer.Obeys (reading capacityId spec f)
    (fun h row => same ∧ (⟨.get capacityId, some row⟩ : Event Effects) ∈ h)
    (fun _ x => x = .cancelled ∨ ¬ same) []
  /-- The answer to the acknowledgement on record does arrive. -/
  returns : same → ∀ row, Custodian spec f row → ∃ h, Ends answer [] h (.ok row)

section

variable {capacityId : String} {spec : CapacitySpec} {f f' : Handoff} {svc : Service}
  {payload : List (String × Json)} {row : Lease}

/-- The handoff that has grown from a bound one records the same acknowledgement. -/
theorem Handoff.Grows.records (grows : f.Grows f') (bound : f.acknowledgementSha256 ≠ none) :
    f'.Records d payload ↔ f.Records d payload := by
  obtain ⟨digest, named⟩ := Option.ne_none_iff_exists'.mp bound
  obtain ⟨own, digested⟩ := Option.ne_none_iff_exists'.mp (mt f.intent_complete.mpr bound)
  have named' := grows.acknowledgementSha256 digest named
  have digested' := grows.acknowledgementPayloadSha256 own digested
  constructor
  · rintro ⟨h₁, h₂, h₃, h₄, finite, h₅, h₆⟩
    rw [grows.attemptId] at h₁
    rw [grows.requestSha256] at h₂
    rw [grows.resultSha256] at h₃
    rw [grows.receiptSha256] at h₄
    rw [named', ← named] at h₅
    rw [digested', ← digested] at h₆
    exact ⟨h₁, h₂, h₃, h₄, finite, h₅, h₆⟩
  · rintro ⟨h₁, h₂, h₃, h₄, finite, h₅, h₆⟩
    rw [← grows.attemptId] at h₁
    rw [← grows.requestSha256] at h₂
    rw [← grows.resultSha256] at h₃
    rw [← grows.receiptSha256] at h₄
    rw [named, ← named'] at h₅
    rw [digested, ← digested'] at h₆
    exact ⟨h₁, h₂, h₃, h₄, finite, h₅, h₆⟩

/-- What a custodian's handoff makes of an acknowledgement. -/
theorem Custodian.binds (d : Digests) (payload : List (String × Json))
    (custodian : Custodian spec f row) (bound : f.acknowledgementSha256 ≠ none) :
    ∃ f', row.artifactHandoff = some f' ∧ f.Grows f' ∧ ∀ intent,
      f'.bindAcknowledgement d payload = .ok intent ↔ f.Records d payload ∧ intent = f' := by
  obtain ⟨f', has, grows⟩ := custodian.handoff
  obtain ⟨digest, named⟩ := Option.ne_none_iff_exists'.mp bound
  have bound' : f'.acknowledgementSha256 ≠ none := by
    simp [grows.acknowledgementSha256 digest named]
  refine ⟨f', has, grows, fun intent => ?_⟩
  rw [Handoff.bindAcknowledgement_recorded bound', grows.records bound]

/-- The capacity is read as the one it was asked for. -/
theorem catalogLease_custodian {h : Past} {done : Past → Lease → Prop}
    {failed : Past → Exn → Prop}
    (normal : ∀ row, Custodian spec f row →
      done ((⟨.get capacityId, some row⟩ : Event Effects) :: h) row) :
    (catalogLease capacityId spec.request.ownerId spec.request.workloadId).Obeys
      (reading capacityId spec f) done failed h := by
  unfold catalogLease getLease
  rw [bind_eq, obeys_bind]
  refine ⟨rfl, fun found promised => ?_⟩
  obtain ⟨row, rfl, custodian⟩ := promised
  simp only [obeys_pure, capacitySpec, custodian.capacitySpec, bind_eq, Program.bind]
  rw [if_neg (by simp)]
  exact normal row custodian

theorem catalogLease_ends {h : Past} (custodian : Custodian spec f row) :
    Ends (catalogLease capacityId spec.request.ownerId spec.request.workloadId) h
      ((⟨.get capacityId, some row⟩ : Event Effects) :: h) (.ok row) := by
  refine .perform (some row) ?_
  simp only [Program.bind, capacitySpec, custodian.capacitySpec, bind_eq]
  rw [if_neg (by simp)]
  exact .pure _ _

/-- A caller that was not cancelled gets the value of the effect it waited for. -/
theorem awaitOwned_ends {α : Type} {effect : Co α} {h h' : Past} {a : α}
    (ends : Ends effect h h' (.ok a)) :
    Ends (awaitOwned effect) h ((⟨.joined, false⟩ : Event Effects) :: h') (.ok a) :=
  .andThen ends (@Ends.perform Effects Exn α .joined _ false _ _ _ (.pure a _))

/-- The shared core of acknowledgement and recovery, on a row whose handoff decides. -/
theorem acknowledgeHandoff_reads {recovery : Option (List (String × Json))} {h : Past}
    {done : Past → Lease → Prop} {failed : Past → Exn → Prop}
    (bound : f.acknowledgementSha256 ≠ none)
    (decided : f.Records svc.digests payload → f.remoteAckObservedAt ≠ none)
    (normal : ∀ row, f.Records svc.digests payload →
      done ((⟨.get capacityId, some row⟩ : Event Effects) :: h) row)
    (rejected : ∀ h' x, ¬ f.Records svc.digests payload → failed h' x) :
    (acknowledgeHandoff svc capacityId spec.request.ownerId spec.request.workloadId payload
      recovery).Obeys (reading capacityId spec f) done failed h := by
  unfold acknowledgeHandoff
  cases fuel : svc.fuel with
  | zero => trivial
  | succ fuel =>
      rw [bind_eq, obeys_bind, persistIntent, bind_eq, obeys_bind]
      refine catalogLease_custodian fun row custodian => ?_
      obtain ⟨f', has, grows, binds⟩ := custodian.binds svc.digests payload bound
      rw [has]
      dsimp only
      cases bind : f'.bindAcknowledgement svc.digests payload with
      | error x =>
          refine rejected _ _ fun records => ?_
          have ok := (binds f').mpr ⟨records, rfl⟩
          rw [bind] at ok
          cases ok
      | ok intent =>
          obtain ⟨records, rfl⟩ := (binds intent).mp bind
          obtain ⟨t, acked⟩ := Option.ne_none_iff_exists'.mp (decided records)
          dsimp only
          rw [if_pos (by simp [grows.remoteAckObservedAt t acked])]
          exact normal row records

theorem acknowledgeHandoff_ends {recovery : Option (List (String × Json))} {h : Past}
    (positive : 0 < svc.fuel) (proven : f.remoteAckObservedAt ≠ none)
    (records : f.Records svc.digests payload) (custodian : Custodian spec f row) :
    Ends (acknowledgeHandoff svc capacityId spec.request.ownerId spec.request.workloadId payload
      recovery) h ((⟨.get capacityId, some row⟩ : Event Effects) :: h) (.ok row) := by
  obtain ⟨fuel, is⟩ := Nat.exists_eq_succ_of_ne_zero positive.ne'
  obtain ⟨f', has, grows, binds⟩ := custodian.binds svc.digests payload
    (f.intent_of_remoteAck proven)
  obtain ⟨t, acked⟩ := Option.ne_none_iff_exists'.mp proven
  unfold acknowledgeHandoff
  rw [is, persistIntent, bind_eq, bind_eq]
  refine .andThen (a := (row, true)) (.andThen (catalogLease_ends custodian) ?_) (.pure row _)
  rw [has]
  dsimp only
  rw [(binds f').mpr ⟨records, rfl⟩]
  dsimp only
  rw [if_pos (by simp [grows.remoteAckObservedAt t acked])]
  exact .pure _ _

/-- An acknowledgement of a capacity whose handoff decides it. -/
theorem acknowledgeCatalogResult_replayed (positive : 0 < svc.fuel)
    (one : spec.request.artifactHandoffProtocolVersion = some 1)
    (bound : f.acknowledgementSha256 ≠ none)
    (decided : f.Records svc.digests payload → f.remoteAckObservedAt ≠ none) :
    Replayed capacityId spec f (f.Records svc.digests payload)
      (acknowledgeCatalogResult svc capacityId spec.request.ownerId spec.request.workloadId
        (some payload)) where
  reads := by
    unfold acknowledgeCatalogResult
    rw [bind_eq, obeys_bind]
    refine catalogLease_custodian fun row custodian => ?_
    simp only [capacitySpec, custodian.capacitySpec, bind_eq, Program.bind]
    rw [if_neg (by simp [one]), obeys_bind, obeys_ofExcept, canonicalAcknowledgement]
    split
    · refine ⟨fun canonical is => ?_, by simp⟩
      cases is
      rw [awaitOwned, obeys_bind]
      refine acknowledgeHandoff_reads bound decided (fun again records => ⟨trivial, ?_⟩)
        fun _ _ => .inr
      rintro (_ | _) _
      · exact ⟨records, by simp⟩
      · exact .inl rfl
    · rename_i infinite
      exact ⟨by simp, fun _ _ => .inr fun records => infinite records.finite⟩
  returns := fun records row custodian => by
    refine ⟨[⟨.joined, false⟩, ⟨.get capacityId, some row⟩, ⟨.get capacityId, some row⟩],
      .andThen (catalogLease_ends custodian) ?_⟩
    simp only [capacitySpec, custodian.capacitySpec, bind_eq, Program.bind]
    rw [if_neg (by simp [one]), canonicalAcknowledgement, if_pos records.finite, ofExcept_ok,
      Program.bind]
    exact awaitOwned_ends (acknowledgeHandoff_ends positive (decided records) records custodian)

/-- The recovery of a capacity whose handoff decides it. -/
theorem recoverCatalogResult_replayed {recovery : List (String × Json)}
    (positive : 0 < svc.fuel) (one : spec.request.artifactHandoffProtocolVersion = some 1)
    (bound : f.acknowledgementSha256 ≠ none)
    (decided : f.Records svc.digests payload → f.remoteAckObservedAt ≠ none)
    (snapshot : snapshotRecovery recovery spec.request.attemptId spec.request.requestSha256
      spec.request.imageDigest = .ok payload) :
    Replayed capacityId spec f (f.Records svc.digests payload)
      (recoverCatalogResult svc capacityId spec.request.ownerId spec.request.workloadId
        recovery) where
  reads := by
    unfold recoverCatalogResult
    rw [bind_eq, obeys_bind]
    refine catalogLease_custodian fun row custodian => ?_
    simp only [capacitySpec, custodian.capacitySpec, bind_eq, Program.bind]
    rw [if_neg (by simp [one]), snapshot, ofExcept_ok, Program.bind, awaitOwned, obeys_bind]
    refine acknowledgeHandoff_reads bound decided (fun again records => ⟨trivial, ?_⟩)
      fun _ _ => .inr
    rintro (_ | _) _
    · exact ⟨records, by simp⟩
    · exact .inl rfl
  returns := fun records row custodian => by
    refine ⟨[⟨.joined, false⟩, ⟨.get capacityId, some row⟩, ⟨.get capacityId, some row⟩],
      .andThen (catalogLease_ends custodian) ?_⟩
    simp only [capacitySpec, custodian.capacitySpec, bind_eq, Program.bind]
    rw [if_neg (by simp [one]), snapshot, ofExcept_ok, Program.bind]
    exact awaitOwned_ends (acknowledgeHandoff_ends positive (decided records) records custodian)

end

/-- What the store shows of a lease is a custodian of every handoff it ever recorded. -/
theorem LeaseTrail.custodian {m : Moment Effects World} (trail : LeaseTrail d callers K clock m)
    {row : Lease} {spec : CapacitySpec} {f : Handoff} (committed : Committed m.log row)
    (catalog : row.capacitySpec = some spec) (has : row.artifactHandoff = some f) :
    ∃ now, m.world.rows.get row.cleanupToken = some now ∧ Custodian spec f now := by
  obtain ⟨now, shown⟩ := trail.consistent.shows_current committed
  obtain ⟨member, same⟩ := Rows.get_some shown
  refine ⟨now, shown, ?_, trail.writeOnce row committed now member same f has⟩
  rw [← (trail.identity row committed now member same).capacitySpec]
  exact catalog

/-- Custody of the artifact handoff.  In every run, at every moment: what a lease has recorded
of its handoff stays as it is, a remote acknowledgement follows the identical persisted
intent, an acknowledged workload has its remote proof, and a protocol-1 result is retrieved
only with both the proof and the host's confirmation of the same digest.  An acknowledgement
or a recovery that the recorded handoff decides is answered from the row, or rejected, and
dispatches nothing; the store shows the service only rows that still carry that handoff. -/
theorem handoff_custody {c : Config Effects Exn World}
    (run : ServiceRun d callers anyMove clock c) :
    Custody callers c.moment ∧
      ∀ row spec f, Committed c.log row → row.capacitySpec = some spec →
        row.artifactHandoff = some f → f.acknowledgementSha256 ≠ none →
        (∃ now, c.world.rows.get row.cleanupToken = some now ∧ Custodian spec f now) ∧
        ∀ (svc : Service) (payload : List (String × Json)), svc.digests = d → 0 < svc.fuel →
          (f.Records d payload → f.remoteAckObservedAt ≠ none) →
          Replayed row.cleanupToken spec f (f.Records d payload)
            (acknowledgeCatalogResult svc row.cleanupToken spec.request.ownerId
              spec.request.workloadId (some payload)) ∧
          ∀ recovery, snapshotRecovery recovery spec.request.attemptId
              spec.request.requestSha256 spec.request.imageDigest = .ok payload →
            Replayed row.cleanupToken spec f (f.Records d payload)
              (recoverCatalogResult svc row.cleanupToken spec.request.ownerId
                spec.request.workloadId recovery) := by
  have trail := run.trail
  refine ⟨trail.custody, fun row spec f committed catalog has bound =>
    ⟨trail.custodian committed catalog has, ?_⟩⟩
  rintro svc payload rfl positive decided
  obtain ⟨spec', catalog', one, _⟩ := trail.handoffBelongs row committed f has
  rw [catalog] at catalog'
  cases catalog'
  exact ⟨acknowledgeCatalogResult_replayed positive one bound decided, fun recovery snapshot =>
    recoverCatalogResult_replayed positive one bound decided snapshot⟩

/-! ### A delivery -/

section

open Sample

def reported (state : WorkloadState) (acknowledgement : Option String) : ObservationFields where
  attemptId := "attempt-1"
  requestSha256 := some (hex '2')
  state := state
  errorType := none
  resultAvailable := true
  resultSha256 := some (hex '5')
  receiptSha256 := some (hex '6')
  acknowledgementSha256 := acknowledgement

def awaitingAck : Observation := ⟨reported .awaitingAck none, by decide +kernel⟩

def acknowledged : Observation :=
  ⟨reported .acknowledged (some (hex '7')), by decide +kernel⟩

def acknowledgement : List (String × Json) :=
  [("attempt_id", .str "attempt-1"), ("request_sha256", .str (hex '2')),
    ("result_sha256", .str (hex '5')), ("receipt_sha256", .str (hex '6')),
    ("acknowledgement_sha256", .str (hex '7'))]

theorem acknowledges : Admits digests agreed (acknowledgeCatalogResult service "capacity-1"
    "owner-0001" "workload-1" (some acknowledgement)).void :=
  .acknowledgeCatalogResult service "capacity-1" "owner-0001" "workload-1" (some acknowledgement)
    configured

theorem releases : Admits digests agreed (releaseCatalogResult service "capacity-1" "owner-0001"
    "workload-1" (some (hex '7'))).void :=
  .releaseCatalogResult service "capacity-1" "owner-0001" "workload-1" (some (hex '7')) configured
    fun _ _ => trivial

/-- A worker that reports its artifact, and acknowledges it. -/
def delivers : (call : Call) → Option (Except Exn call.Value)
  | .submit _ _ _ => some (.ok awaitingAck)
  | .acknowledge _ _ _ _ => some (.ok acknowledged)
  | call => comesUp call

/-- Acquire, submit, acknowledge, and release up to the host's confirmation. -/
def delivery : Schedule digests agreed :=
  bringUp ++
    [.spawn 1 _ (.submitCatalogWorkload service "capacity-1" "owner-0001" "workload-1" configured),
      runs 1 20, gets 1 delivers, runs 1 20, gets 1 delivers, runs 1 20,
      .spawn 2 _ acknowledges,
      runs 2 20, gets 2 delivers, runs 2 20, gets 2 delivers, runs 2 20,
      .spawn 3 _ releases,
      runs 3 4]

/-- A lease of this run is retrieved, so it was delivered. -/
theorem handoff_custody_delivery :
    ∃ c row, ServiceRun digests agreed anyMove (seconds 250) c ∧ row ∈ c.world.rows ∧
      row.protocolOne = true ∧ row.state = .resultRetrieved ∧ Delivered agreed row := by
  obtain ⟨c, run, checked⟩ := exhibits delivery anyMove (seconds 250)
    (fun c => c.world.rows.any fun row =>
      row.protocolOne && decide (row.state = .resultRetrieved)) (by decide +kernel)
  obtain ⟨row, member, is⟩ := List.any_eq_true.mp checked
  rw [Bool.and_eq_true, decide_eq_true_eq] at is
  have custody := (handoff_custody run).1
  exact ⟨c, row, run, member, is.1, is.2,
    custody.retrieved row (run.trail.consistent.current row member) is.1 is.2⟩

end

end KestrelRunpod.Pod
