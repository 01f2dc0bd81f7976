import KestrelRunpod.Pod.Stop
import KestrelRunpod.Pod.Custody
import KestrelRunpod.Pod.System.Creates

/-!
# Terminal success

A lease proves its success with a flag over its last row: the acknowledgement and the host's
confirmation of it, the settlement, and complete evidence.  Each of these was written by
another operation at another time, some of them while the lease was already being torn down.

One invariant goes with each part: what the worker answered (`LeaseTrail.acknowledgedBy`), the
write that declared the host's confirmation (`LeaseTrail.declaredOpen`), the stop of the Pod
(`LeaseTrail.stopConfirmed`), the evidence and the receipt (`LeaseTrail.evidence_binds`,
`LeaseTrail.billing_recorded`, `LeaseTrail.placed`).  A lease that was stopped before its host
declared anything stays undeclared (`LeaseTrail.undeclared`), so a late proof proves nothing.
-/

namespace KestrelRunpod.Pod

open Interleave

variable {d : Digests} {callers : Callers} {K : Restriction Effects World} {clock : Instant}
  {write : Write} {cur : Lease} {changes : Changes} {m : Moment Effects World}

/-! ## Evidence -/

/-- The evidence of a lease is of the attempt that its spec requests. -/
theorem LeaseTrail.evidence_binds (trail : LeaseTrail d callers K clock m) :
    ∀ row, Committed m.log row → ∀ evidence, row.evidence = some evidence →
      ∃ spec, row.capacitySpec = some spec ∧ evidence.Binds spec := by
  refine trail.always (P := fun _ row => ∀ evidence, row.evidence = some evidence →
      ∃ spec, row.capacitySpec = some spec ∧ evidence.Binds spec)
    (fun _ _ _ _ _ => id) (fun _ _ _ request evidence _ _ built _ e has => ?_) ?_
  · have has : evidence = some e := has
    obtain ⟨spec, requested, fresh⟩ := reserved_evidence (has ▸ built)
    exact ⟨spec, requested, fresh.binds⟩
  · intro m m' i cur write changes _ _ _ guarded makes _ known evidence has
    rw [Lease.apply_capacitySpec]
    rcases makes.evidence guarded with ⟨old, merged, recorded, ok, is⟩ | ⟨is, _⟩
    · rw [is] at has
      cases has
      obtain ⟨spec, requested, binds⟩ := known old recorded
      have accepted := (PodCapacityEvidence.merge_ok ok).accepted
      refine ⟨spec, requested, ?_⟩
      rw [accepted]
      exact ⟨binds.attemptId, binds.requestSha256, binds.imageDigest⟩
    · rw [is] at has
      exact known evidence has

/-- A write records the receipt that it merges. -/
theorem Write.base_billingReceipt {i : Nat} (guarded : write.Guard d callers (m.log.of i) cur) :
    write.base.billingReceipt = write.update.billing ∧
      (write.update.billing ≠ none → write.merges = true ∧ cur.isTerminal = false) := by
  cases write with
  | observed observation submitted t changes phases =>
      obtain ⟨_, spec, _, _, _, ok, _⟩ := guarded
      obtain ⟨handoff, observed⟩ := catalogObservationChanges_ok ok
      exact ⟨observed.others.2.2.2.2.1, fun billed => absurd rfl billed⟩
  | createRejectedZero x t receipt at_ => exact ⟨rfl, fun _ => ⟨rfl, guarded.1⟩⟩
  | noCapacityZero t receipt => exact ⟨rfl, fun _ => ⟨rfl, guarded.1⟩⟩
  | expiredZero t receipt => exact ⟨rfl, fun _ => ⟨rfl, guarded.1⟩⟩
  | billingSettled receipt => exact ⟨rfl, fun _ => ⟨rfl, guarded.1⟩⟩
  | _ => exact ⟨rfl, fun billed => absurd rfl billed⟩

/-- The receipt of a row is the one in its evidence. -/
theorem LeaseTrail.billing_recorded (trail : LeaseTrail d callers K clock m) :
    ∀ row, Committed m.log row → ∀ evidence, row.evidence = some evidence →
      row.billingReceipt = evidence.billing := by
  refine trail.always (P := fun _ row => ∀ evidence, row.evidence = some evidence →
      row.billingReceipt = evidence.billing)
    (fun _ _ _ _ _ => id) (fun _ _ _ request evidence _ _ built _ e has => ?_) ?_
  · have has : evidence = some e := has
    obtain ⟨spec, _, fresh⟩ := reserved_evidence (has ▸ built)
    exact fresh.billing.symm
  · intro m m' i cur write changes _ _ _ guarded makes _ known evidence has
    obtain ⟨same, merging⟩ := Write.base_billingReceipt guarded
    have receipt : (cur.apply changes).billingReceipt =
        write.update.billing.or cur.billingReceipt := by
      obtain ⟨columns, is⟩ := makes.columns
      rw [Lease.apply_billingReceipt, is, ← same]
    rw [receipt]
    rcases makes.evidence guarded with ⟨old, merged, recorded, ok, is⟩ | ⟨is, apart⟩
    · rw [is] at has
      cases has
      have records := PodCapacityEvidence.merge_ok ok
      rw [records.billing, known old recorded]
      cases billed : write.update.billing with
      | none => rw [Option.none_or, Option.or_none]
      | some new =>
          cases had : old.billing with
          | none => rfl
          | some receipt' => rw [records.sameBilling receipt' had new billed, Option.some_or]
    · rw [is] at has
      rw [known evidence has]
      cases billed : write.update.billing with
      | none => rw [Option.none_or]
      | some new =>
          obtain ⟨merges, active⟩ := merging (by rw [billed]; exact Option.some_ne_none new)
          exact absurd ⟨merges, active, by rw [has]; rfl⟩ apart

/-! ## The Pod -/

/-- The versions of a lease agree on what no write touches. -/
theorem LeaseTrail.sameIdentity (trail : LeaseTrail d callers K clock m) {a b : Lease}
    (inA : Committed m.log a) (inB : Committed m.log b) (same : a.cleanupToken = b.cleanupToken) :
    a.SameIdentity b := by
  obtain ⟨now, member, token⟩ := trail.consistent.present inB
  have fromA := trail.identity a inA now member (token.trans same.symm)
  have fromB := trail.identity b inB now member token
  exact ⟨fromA.capacitySpec.trans fromB.capacitySpec.symm, fromA.source.trans fromB.source.symm,
    fromA.resourceName.trans fromB.resourceName.symm, fromA.createdAt.trans fromB.createdAt.symm⟩

/-- The versions of a created lease agree on its Pod, once they record one. -/
theorem LeaseTrail.same_pod (trail : LeaseTrail d callers K clock m) {a b : Lease}
    {pod pod' : String} (inA : Committed m.log a) (inB : Committed m.log b)
    (same : a.cleanupToken = b.cleanupToken) (created : a.source = .created)
    (has : a.providerPodId = some pod) (has' : b.providerPodId = some pod') : pod = pod' := by
  have identity := trail.sameIdentity inA inB same
  have first := trail.pod_created a inA created pod has
  have second := trail.pod_created b inB (identity.source.symm.trans created) pod' has'
  rw [← same] at second
  exact trail.created_unique first second

/-- A write over a created lease keeps the Pod that the row records. -/
theorem LeaseTrail.pod_survives {m' : Moment Effects World} {i : Nat} {pod : String}
    (trail : LeaseTrail d callers K clock m) (move : LeaseMove d callers K m m')
    (member : cur ∈ m.world.rows)
    (log : m'.log = (i, ⟨.compareAndSet cur changes, .ok (cur.apply changes)⟩) :: m.log)
    (created : cur.source = .created) (had : cur.providerPodId = some pod) :
    (cur.apply changes).providerPodId = some pod := by
  have version := (trail.consistent.current cur member).mono move.log_suffix
  have current : Committed m'.log (cur.apply changes) := by
    rw [log]
    exact Committed.cons.mpr (.inl rfl)
  have walked : LeaseTrail d callers K clock m' := trail.tail move
  cases sets : changes.providerPodId with
  | none => rw [Lease.apply_providerPodId, sets, Option.none_or, had]
  | some pod' =>
      have has : (cur.apply changes).providerPodId = some pod' := by
        rw [Lease.apply_providerPodId, sets, Option.some_or]
      rw [has, walked.same_pod version current rfl created had has]

/-- A created lease keeps the Pod that it records. -/
theorem LeaseTrail.pod_kept (trail : LeaseTrail d callers K clock m) :
    Since (fun old now => old.source = .created → ∀ pod, old.providerPodId = some pod →
      now.providerPodId = some pod) m := by
  have both : Since (fun old now => old.source = now.source ∧ (old.source = .created →
      ∀ pod, old.providerPodId = some pod → now.providerPodId = some pod)) m := by
    refine trail.since (fun _ => ⟨rfl, fun _ _ => id⟩) (fun a b c ab bc => ?_) ?_
    · refine ⟨ab.1.trans bc.1, fun created pod has => ?_⟩
      exact bc.2 (ab.1 ▸ created) pod (ab.2 created pod has)
    · intro m m' i cur write changes before move member _ _ log
      exact ⟨rfl, fun created pod had => before.pod_survives move member log created had⟩
  exact fun old committed now member same => (both old committed now member same).2

/-- A create is made with the spec of its lease. -/
theorem LeaseTrail.create_spec (trail : LeaseTrail d callers K clock m) {id : Nat}
    {record : CallRecord} {name : String} {spec : Option CapacitySpec}
    (found : m.world.calls[id]? = some record) (call : record.call = .create name spec) :
    ∃ row, Committed m.log row ∧ row.cleanupToken = record.token ∧ row.capacitySpec = spec := by
  obtain ⟨i, logged⟩ := trail.recorded found
  rw [call] at logged
  obtain ⟨later, earlier, split⟩ := List.append_of_mem logged
  obtain ⟨before, _, walked, log, permitted, _⟩ := trail.act_of_mem split
  obtain ⟨_, ⟨row, shown, same, _, is⟩, _⟩ := permitted
  rw [← log] at shown
  refine ⟨row, (walked.consistent.committed shown).mono ?_, same, is⟩
  rw [log, split]
  exact (List.suffix_cons _ _).trans (List.suffix_append _ _)

/-- A write that places a catalog Pod records the same Pod. -/
theorem Write.update_placement (trail : LeaseTrail d callers K clock m) {i : Nat}
    {placement : RealizedPlacement} (member : cur ∈ m.world.rows)
    (guarded : write.Guard d callers (m.log.of i) cur) (catalog : cur.isCatalogAttempt = true)
    (places : write.update.realizedPlacement.join = some placement) :
    write.base.providerPodId = some placement.providerPodId := by
  cases write with
  | createAccepted created t =>
      obtain ⟨name, requested, replied⟩ := guarded.2.2.1
      have places : created.realizedPlacement = some placement := places
      obtain ⟨id, before, record, _, walked, rest, found, _, _, token, call, _, fits⟩ :=
        trail.replied replied
      obtain ⟨row, committed, same, is⟩ := walked.create_spec found call
      have version := committed.mono (Trail.log_suffix rest)
      have identity := trail.identity row version cur member (by rw [same, token])
      rw [← identity.isCatalogAttempt, Lease.isCatalogAttempt, is] at catalog
      obtain ⟨spec, rfl⟩ := Option.isSome_iff_exists.mp catalog
      have conforms := (fits spec rfl placement places).1
      show some created.providerPodId = some placement.providerPodId
      rw [conforms]
  | adopted pod placement' catalog' t =>
      obtain ⟨row, _, _, own, lookups⟩ := guarded.2.1
      cases catalog' with
      | false => cases places
      | true =>
          have places : placement' = some placement := places
          rcases lookups with ⟨spec, _, replied⟩ | ⟨_, none, _⟩
          · obtain ⟨_, _, _, _, _, _, _, _, _, _, _, fair⟩ := trail.replied replied
            have conforms := ((fair _ rfl).2.1 placement places).1
            show some pod = some placement.providerPodId
            rw [conforms]
          · rw [none] at places
            cases places
  | _ => cases places

/-- The realized placement of a lease is of the Pod that it records. -/
theorem LeaseTrail.placed (trail : LeaseTrail d callers K clock m) :
    ∀ row, Committed m.log row → ∀ evidence placement, row.evidence = some evidence →
      evidence.realizedPlacement = some placement →
      row.providerPodId = some placement.providerPodId := by
  refine trail.always (P := fun _ row => ∀ evidence placement, row.evidence = some evidence →
      evidence.realizedPlacement = some placement →
      row.providerPodId = some placement.providerPodId)
    (fun _ _ _ _ _ => id) (fun _ _ _ request evidence _ _ built _ e placement has is => ?_) ?_
  · have has : evidence = some e := has
    obtain ⟨spec, _, fresh⟩ := reserved_evidence (has ▸ built)
    rw [fresh.realizedPlacement] at is
    cases is
  · intro m m' i cur write changes before move member guarded makes log known evidence placement
      has placed
    have version := before.consistent.current cur member
    have attempt : ∀ e, cur.evidence = some e → cur.isCatalogAttempt = true := by
      intro e recorded
      rw [← before.evidence_isSome cur version, recorded]
      rfl
    rcases makes.evidence guarded with ⟨old, merged, recorded, ok, is⟩ | ⟨is, _⟩
    · have catalog := attempt old recorded
      rw [is] at has
      cases has
      rw [(PodCapacityEvidence.merge_ok ok).realizedPlacement] at placed
      cases had : old.realizedPlacement with
      | some first =>
          rw [had, Option.some_or] at placed
          cases placed
          exact before.pod_survives move member log (before.catalog_created cur version catalog)
            (known old placement recorded had)
      | none =>
          rw [had, Option.none_or] at placed
          obtain ⟨columns, rfl⟩ := makes.columns
          have records := Write.update_placement before member guarded catalog placed
          rw [Lease.apply_providerPodId]
          dsimp only
          rw [records, Option.some_or]
    · rw [is] at has
      have created := before.catalog_created cur version (attempt evidence has)
      exact before.pod_survives move member log created (known evidence placement has placed)

/-! ## The stop -/

/-- The provider confirmed that the Pod was terminated, or showed it stopped, to a task that
asked on behalf of the lease. -/
def SeenStopped (log : Log Effects) (token pod : String) : Prop :=
  ∃ i, Replied (log.of i) token (.terminate pod) (.ok true) ∨
    ∃ observation : PodObservation, observation.isStopped = true ∧
      Replied (log.of i) token (.observe pod) (.ok observation)

theorem SeenStopped.mono {log log' : Log Effects} {token pod : String} (grown : log <:+ log')
    (seen : SeenStopped log token pod) : SeenStopped log' token pod := by
  obtain ⟨i, confirmed | ⟨observation, stopped, observed⟩⟩ := seen
  · exact ⟨i, .inl (confirmed.mono (Log.of_suffix grown))⟩
  · exact ⟨i, .inr ⟨observation, stopped, observed.mono (Log.of_suffix grown)⟩⟩

/-- The create that brought up the Pod for the lease has ended. -/
def EndedFor (w : World) (token pod : String) : Prop :=
  ∃ (id : Nat) (record : CallRecord), w.calls[id]? = some record ∧ record.creates token ∧
    record.fate = .ended pod

theorem Trail.endedFor {m' : Moment Effects World} {token pod : String}
    (trail : Trail (runtime d) (leaseContract d callers) K m m')
    (ended : EndedFor m.world token pod) : EndedFor m'.world token pod := by
  obtain ⟨id, record, found, creates, fate⟩ := ended
  obtain ⟨now, here, becomes⟩ := Trail.becomes trail found
  exact ⟨id, now, here, becomes.creates creates, becomes.ended pod fate⟩

/-- A Pod that was created and at which nothing is live has ended. -/
theorem CreatedFor.ended {w : World} {token pod : String} (created : CreatedFor w token pod)
    (quiet : w.quiet pod) : EndedFor w token pod := by
  obtain ⟨id, record, found, creates, accepted⟩ := created
  refine ⟨id, record, found, creates, ?_⟩
  have dead := quiet record (List.mem_of_getElem? found)
  cases fate : record.fate with
  | pending => rw [fate] at accepted; cases accepted
  | refused => rw [fate] at accepted; cases accepted
  | live p =>
      rw [fate] at accepted dead
      exact absurd (congrArg Fate.live (of_decide_eq_true accepted)) dead
  | ended p =>
      rw [fate] at accepted
      rw [of_decide_eq_true accepted]

/-- What a task asks the provider about the Pod of a lease, it asks about the Pod on record. -/
theorem LeaseTrail.asked_pod (trail : LeaseTrail d callers K clock m) {id : Nat}
    {record : CallRecord} {pod : String} (found : m.world.calls[id]? = some record)
    (call : record.call = .terminate pod ∨ record.call = .observe pod) :
    ∃ row, Committed m.log row ∧ row.cleanupToken = record.token ∧
      row.providerPodId = some pod := by
  obtain ⟨i, logged⟩ := trail.recorded found
  obtain ⟨later, earlier, split⟩ := List.append_of_mem logged
  obtain ⟨before, _, walked, log, permitted, _⟩ := trail.act_of_mem split
  have known : Known (Log.of earlier i) record.token fun row => row.providerPodId = some pod := by
    have permitted : PermitsCall (Log.of earlier i) record.token record.call := permitted
    rcases call with is | is
    · rw [is] at permitted
      obtain ⟨row, shown, same, _, has⟩ := permitted.2
      exact ⟨row, shown, same, has⟩
    · rw [is] at permitted
      exact permitted
  obtain ⟨row, shown, same, has⟩ := known
  rw [← log] at shown
  refine ⟨row, (walked.consistent.committed shown).mono ?_, same, has⟩
  rw [log, split]
  exact (List.suffix_cons _ _).trans (List.suffix_append _ _)

/-- A created Pod that was seen stopped has ended. -/
theorem LeaseTrail.seen_ended (trail : LeaseTrail d callers K clock m) {row : Lease}
    {pod : String} (committed : Committed m.log row) (created : row.source = .created)
    (seen : SeenStopped m.log row.cleanupToken pod) : EndedFor m.world row.cleanupToken pod := by
  -- When the reply arrived, the Pod was on record and the provider knew of nothing live at it.
  have settle : ∀ {before : Moment Effects World} {id : Nat} {record : CallRecord},
      LeaseTrail d callers K clock before →
      Trail (runtime d) (leaseContract d callers) K before m →
      before.world.calls[id]? = some record → record.token = row.cleanupToken →
      record.call = .terminate pod ∨ record.call = .observe pod → before.world.quiet pod →
      EndedFor m.world row.cleanupToken pod := by
    intro before id record walked rest found token call quiet
    obtain ⟨asked, version, same, has⟩ := walked.asked_pod found call
    have identity := trail.sameIdentity (version.mono (Trail.log_suffix rest)) committed
      (same.trans token)
    have brought := walked.pod_created asked version (identity.source.trans created) pod has
    rw [same, token] at brought
    exact Trail.endedFor rest (brought.ended quiet)
  obtain ⟨i, confirmed | ⟨observation, stopped, observed⟩⟩ := seen
  · obtain ⟨_, _, _, _, walked, rest, found, _, _, token, call, fair⟩ := trail.replied confirmed
    exact settle walked rest found token (.inl call) (fair rfl)
  · obtain ⟨_, _, _, _, walked, rest, found, _, _, token, call, fair⟩ := trail.replied observed
    exact settle walked rest found token (.inr call) (fair stopped)

/-- The stop of the Pod on record was confirmed, and the Pod has ended. -/
def Terminated (m : Moment Effects World) (row : Lease) : Prop :=
  ∃ pod, row.providerPodId = some pod ∧ SeenStopped m.log row.cleanupToken pod ∧
    EndedFor m.world row.cleanupToken pod

/-- The writes that date the stop. -/
theorem Write.update_stopConfirmedAt {i : Nat}
    (guarded : write.Guard d callers (m.log.of i) cur)
    (dates : write.update.lifecycle.stopConfirmedAt ≠ none) :
    ∃ row pod, Shown (m.log.of i) row ∧ row.cleanupToken = cur.cleanupToken ∧
      row.isCatalogAttempt = true ∧ row.providerPodId = some pod ∧
      SeenStopped m.log cur.cleanupToken pod := by
  cases write with
  | terminateConfirmed t =>
      obtain ⟨_, ⟨row, pod, shown, same, catalog, has, confirmed⟩, _⟩ := guarded
      exact ⟨row, pod, shown, same, catalog, has, i, .inl confirmed⟩
  | observedTerminated t =>
      obtain ⟨_, row, pod, observation, shown, same, catalog, has, observed, stopped⟩ := guarded
      exact ⟨row, pod, shown, same, catalog, has, i, .inr ⟨observation, stopped, observed⟩⟩
  | observed observation submitted t changes phases =>
      obtain ⟨_, spec, _, _, _, ok, _⟩ := guarded
      obtain ⟨handoff, observed⟩ := catalogObservationChanges_ok ok
      have dates : phases.stopConfirmedAt ≠ none := dates
      rcases observed.progress with ⟨_, _, rfl⟩ | ⟨_, _, _, plain, is, _⟩
      · exact absurd rfl dates
      · unfold observedProgress at is
        dsimp only at is
        split at is <;> (cases is; split at dates <;> exact absurd rfl dates)
  | readinessObserved observation t =>
      cases running : observation.isRunning <;> simp [Write.update, running] at dates
  | adopted pod placement catalog t => cases catalog <;> simp [Write.update] at dates
  | _ => exact absurd rfl dates

/-- A lease whose evidence dates the stop is a created one. -/
theorem LeaseTrail.stopped_created (trail : LeaseTrail d callers K clock m) {row : Lease}
    (committed : Committed m.log row) (stopped : row.stopConfirmedAt ≠ none) :
    row.source = .created := by
  refine trail.catalog_created row committed ?_
  rw [← trail.evidence_isSome row committed, Option.isSome_iff_ne_none]
  intro none
  rw [Lease.stopConfirmedAt, none] at stopped
  exact stopped rfl

/-- A lease whose evidence dates the stop has a Pod whose stop was confirmed. -/
theorem LeaseTrail.stopConfirmed (trail : LeaseTrail d callers K clock m) :
    ∀ row, Committed m.log row → row.stopConfirmedAt ≠ none → Terminated m row := by
  have seen : ∀ row, Committed m.log row → row.stopConfirmedAt ≠ none →
      ∃ pod, row.providerPodId = some pod ∧ SeenStopped m.log row.cleanupToken pod := by
    refine trail.always (P := fun m row => row.stopConfirmedAt ≠ none →
        ∃ pod, row.providerPodId = some pod ∧ SeenStopped m.log row.cleanupToken pod)
      (fun m m' row _ move known stopped => ?_)
      (fun _ _ _ request evidence _ _ built _ stopped => ?_) ?_
    · obtain ⟨pod, has, seen⟩ := known stopped
      exact ⟨pod, has, seen.mono move.log_suffix⟩
    · refine absurd ?_ stopped
      show (evidence.bind fun e => e.lifecycle.phases.stopConfirmedAt) = none
      cases evidence with
      | none => rfl
      | some e =>
          obtain ⟨spec, _, fresh⟩ := reserved_evidence built
          rw [Option.bind_some, fresh.phases]
    · intro m m' i cur write changes before move member guarded makes log known stopped
      have version := before.consistent.current cur member
      by_cases already : cur.stopConfirmedAt = none
      · have merged : write.update.lifecycle.stopConfirmedAt ≠ none := by
          intro undated
          refine stopped ?_
          unfold Lease.stopConfirmedAt at already ⊢
          rcases makes.evidence guarded with ⟨evidence, merged, has, ok, is⟩ | ⟨is, _⟩
          · rw [has, Option.bind_some] at already
            rw [is, Option.bind_some, (PodCapacityEvidence.merge_ok ok).phases]
            simp only [Phases.firstWins, already, undated, Option.or_none]
          · rw [is]
            exact already
        obtain ⟨row, pod, shown, same, catalog, has, seen⟩ :=
          Write.update_stopConfirmedAt guarded merged
        have shownVersion := before.consistent.committed shown
        have identity := before.sameIdentity shownVersion version same
        have created := before.catalog_created row shownVersion catalog
        have current := before.pod_kept row shownVersion cur member same.symm created pod has
        exact ⟨pod, before.pod_survives move member log (identity.source.symm.trans created)
          current, seen.mono move.log_suffix⟩
      · obtain ⟨pod, has, seen⟩ := known already
        have created := before.stopped_created version already
        exact ⟨pod, before.pod_survives move member log created has, seen.mono move.log_suffix⟩
  intro row committed stopped
  obtain ⟨pod, has, shown⟩ := seen row committed stopped
  exact ⟨pod, has, shown,
    trail.seen_ended committed (trail.stopped_created committed stopped) shown⟩

/-! ## The acknowledgement -/

/-- The worker answered a task of the lease that it holds the acknowledgement on record. -/
def AcknowledgedBy (log : Log Effects) (token : String) (f : Handoff) : Prop :=
  ∃ i observation submitted, WorkerReplied (log.of i) token observation submitted ∧
    observation.state = .acknowledged ∧ observation.attemptId = f.attemptId ∧
    observation.requestSha256 = some f.requestSha256 ∧
    observation.resultSha256 = some f.resultSha256 ∧
    observation.receiptSha256 = some f.receiptSha256 ∧
    observation.acknowledgementSha256 = f.acknowledgementSha256

theorem AcknowledgedBy.mono {log log' : Log Effects} {token : String} {f : Handoff}
    (grown : log <:+ log') (acknowledged : AcknowledgedBy log token f) :
    AcknowledgedBy log' token f := by
  obtain ⟨i, observation, submitted, replied, rest⟩ := acknowledged
  exact ⟨i, observation, submitted, replied.mono (Log.of_suffix grown), rest⟩

/-- A handoff that has grown from an acknowledged one is acknowledged by the same answer. -/
theorem AcknowledgedBy.grows {log : Log Effects} {token : String} {f f' : Handoff}
    (acknowledged : AcknowledgedBy log token f) (grows : f.Grows f')
    (proven : f.remoteAckObservedAt ≠ none) : AcknowledgedBy log token f' := by
  obtain ⟨i, observation, submitted, replied, state, attempt, request, result, receipt, same⟩ :=
    acknowledged
  obtain ⟨digest, named⟩ := Option.ne_none_iff_exists'.mp (f.intent_of_remoteAck proven)
  refine ⟨i, observation, submitted, replied, state, ?_, ?_, ?_, ?_, ?_⟩
  · rw [attempt, grows.attemptId]
  · rw [request, grows.requestSha256]
  · rw [result, grows.resultSha256]
  · rw [receipt, grows.receiptSha256]
  · rw [same, named, grows.acknowledgementSha256 digest named]

/-- An acknowledged observation names its result and its receipt. -/
theorem Observation.names_artifact {observation : Observation}
    (acknowledged : observation.state = .acknowledged) :
    observation.resultSha256 ≠ none ∧ observation.receiptSha256 ≠ none := by
  have passed := observation.checked
  simp only [ObservationFields.check, refuse_bind_ok, refuse_ok, acknowledged] at passed
  obtain ⟨_, named, _⟩ := passed
  simp only [or_true, true_and, not_or] at named
  exact ⟨named.2.2.1, named.2.2.2⟩

/-- An observation that proves the acknowledgement names the artifact and the intent on
record. -/
theorem observedHandoff_proves {spec : CapacitySpec} {lease : Lease} {observation : Observation}
    {t : Instant} {f f' : Handoff}
    (ok : observedHandoff spec lease observation t = .ok (some f'))
    (recorded : lease.artifactHandoff = some f) (unproven : f.remoteAckObservedAt = none)
    (proven : f'.remoteAckObservedAt ≠ none) :
    observation.state = .acknowledged ∧ observation.resultSha256 = some f.resultSha256 ∧
      observation.receiptSha256 = some f.receiptSha256 ∧
      observation.acknowledgementSha256 = f.acknowledgementSha256 := by
  unfold observedHandoff at ok
  rw [recorded] at ok
  split at ok
  · simp only [bind, Except.bind, pure, Except.pure] at ok
    split at ok
    · cases ok
    rename_i binding built
    split at ok
    · cases ok
    rename_i agrees
    rw [Handoff.build_ok] at built
    rw [refuse_ok] at agrees
    simp only [Option.any_some, decide_eq_true_eq, not_or, not_not] at agrees
    split at ok
    · rename_i acked
      split at ok
      · cases ok
      rename_i same
      rw [refuse_ok, not_or, not_not] at same
      obtain ⟨hasResult, hasReceipt⟩ := observation.names_artifact acked
      obtain ⟨result, named⟩ := Option.ne_none_iff_exists'.mp hasResult
      obtain ⟨receipt, named'⟩ := Option.ne_none_iff_exists'.mp hasReceipt
      refine ⟨acked, ?_, ?_, same.2.symm⟩
      · rw [agrees.1, built, named]
        rfl
      · rw [agrees.2, built, named']
        rfl
    · cases ok
      exact absurd unproven proven
  · cases ok
    exact absurd unproven proven

/-- A remote acknowledgement on record was answered by the worker. -/
theorem LeaseTrail.acknowledgedBy (trail : LeaseTrail d callers K clock m) :
    ∀ row, Committed m.log row → ∀ f, row.artifactHandoff = some f →
      f.remoteAckObservedAt ≠ none → AcknowledgedBy m.log row.cleanupToken f := by
  refine trail.always (P := fun m row => ∀ f, row.artifactHandoff = some f →
      f.remoteAckObservedAt ≠ none → AcknowledgedBy m.log row.cleanupToken f)
    (fun m m' row _ move known f has proven => (known f has proven).mono move.log_suffix)
    (fun _ _ _ _ _ _ _ _ _ f has => ?_) ?_
  · simp [Rows.reserved] at has
  · intro m m' i cur write changes before move member guarded makes log known f' has proven
    have step := write.custodyStep guarded makes
    rw [has] at step
    obtain ⟨f, recorded, _⟩ := step.proof_on_intent proven
    obtain ⟨f'', is, grows⟩ := step.grows recorded
    cases is
    refine AcknowledgedBy.mono move.log_suffix ?_
    show AcknowledgedBy m.log cur.cleanupToken f'
    by_cases already : f.remoteAckObservedAt = none
    · -- The proof is new, so the write records an observation.
      obtain ⟨evidence, rfl⟩ := makes.columns
      rw [Lease.apply_artifactHandoff] at has
      dsimp only at has
      cases sets : write.base.artifactHandoff with
      | none =>
          rw [sets, Option.none_or, recorded] at has
          cases has
          exact absurd already proven
      | some reported =>
          rw [sets, Option.some_or] at has
          cases has
          rcases Write.base_artifactHandoff sets with
            ⟨observation, submitted, t, changes, phases, rfl, reported⟩ | rfl | ⟨t, rfl⟩
          · obtain ⟨replied, spec, requested, attempt, request, ok, _⟩ := guarded
            obtain ⟨handoff, observed⟩ := catalogObservationChanges_ok ok
            have result : handoff = some f' := by
              rw [← observed.proof, reported, Option.some_or]
            have reports := observed.reports
            rw [result] at reports
            obtain ⟨state, named, named', same⟩ :=
              observedHandoff_proves reports recorded already proven
            obtain ⟨spec', requested', _, own, own'⟩ := before.handoffBelongs cur
              (before.consistent.current cur member) f recorded
            rw [requested] at requested'
            cases requested'
            have kept : f.acknowledgementSha256 = f'.acknowledgementSha256 := by
              obtain ⟨_, is, kept, _⟩ := step.proof_on_intent proven
              rw [recorded] at is
              cases is
              exact kept
            exact ⟨i, observation, submitted, replied, state,
              by rw [attempt, grows.attemptId, own], by rw [request, grows.requestSha256, own'],
              by rw [named, grows.resultSha256], by rw [named', grows.receiptSha256],
              by rw [same, kept]⟩
          · exact absurd guarded.2.2.1 proven
          · obtain ⟨_, spec, _, _, protocolOne, historical⟩ := guarded
            rcases spec.request.protocol with absent | one
            · cases historical (by rw [absent]; simp)
            · obtain ⟨g, _, _, _, present, acked, _⟩ := protocolOne one
              rw [recorded] at present
              cases present
              exact absurd already acked
    · exact (known f recorded already).grows grows already

/-! ## The host's confirmation -/

/-- When the host's confirmation was declared. -/
def Lease.hostConfirmedAt (lease : Lease) : Option Instant :=
  lease.artifactHandoff.bind fun handoff => handoff.hostConfirmationDeclaredAt

/-- Only a release of the result declares the host's confirmation. -/
theorem Write.declares {i : Nat} (guarded : write.Guard d callers (m.log.of i) cur)
    (makes : write.Makes cur changes) (undeclared : cur.hostConfirmedAt = none)
    (declared : (cur.apply changes).hostConfirmedAt ≠ none) :
    ∃ confirmation t, write = .hostConfirmed confirmation t := by
  obtain ⟨evidence, rfl⟩ := makes.columns
  unfold Lease.hostConfirmedAt at undeclared declared
  rw [Lease.apply_artifactHandoff] at declared
  dsimp only at declared
  cases sets : write.base.artifactHandoff with
  | none =>
      rw [sets, Option.none_or] at declared
      exact absurd undeclared declared
  | some f' =>
      rw [sets, Option.some_or, Option.bind_some] at declared
      have proven := f'.remoteAck_of_hostConfirmation declared
      rcases Write.base_artifactHandoff sets with
        ⟨observation, submitted, t, changes, phases, rfl, reported⟩ | rfl | ⟨t, rfl⟩
      · obtain ⟨_, spec, _, _, _, ok, _⟩ := guarded
        obtain ⟨handoff, observed⟩ := catalogObservationChanges_ok ok
        have result : handoff = some f' := by rw [← observed.proof, reported, Option.some_or]
        have progress := (observedHandoff_ok observed.reports).1
        rw [result] at progress
        generalize was : cur.artifactHandoff = recorded at progress undeclared
        cases progress with
        | kept => exact absurd undeclared declared
        | bound f' _ _ unproven => exact absurd unproven proven
        | proven f f' had _ is =>
            rw [had, Option.bind_some] at undeclared
            rw [is] at declared
            exact absurd undeclared declared
      · exact absurd guarded.2.2.1 proven
      · exact ⟨_, _, rfl⟩

/-- The confirmation of the digest on record was declared in a write that found the job of the
lease completed, with the remote acknowledgement of that digest, and no stop of the lease. -/
def DeclaredOpen (callers : Callers) (log : Log Effects) (row : Lease) (f : Handoff) : Prop :=
  ∃ later earlier i cur changes digest,
    log = later ++ (i, ⟨.compareAndSet cur changes, .ok (cur.apply changes)⟩) :: earlier ∧
      cur.cleanupToken = row.cleanupToken ∧ cur.state = .jobCompleted ∧
      (∃ g, cur.artifactHandoff = some g ∧ g.remoteAckObservedAt ≠ none ∧
        g.acknowledgementSha256 = some digest) ∧
      cur.hostConfirmedAt = none ∧
      (cur.apply changes).hostConfirmedAt = f.hostConfirmationDeclaredAt ∧
      f.acknowledgementSha256 = some digest ∧ callers.confirms digest ∧
      ∀ old, Committed earlier old → old.cleanupToken = row.cleanupToken → old.stopped = false

/-- A declared confirmation was declared before any stop. -/
theorem LeaseTrail.declaredOpen (trail : LeaseTrail d callers K clock m) :
    ∀ row, Committed m.log row → ∀ f, row.artifactHandoff = some f →
      f.hostConfirmationDeclaredAt ≠ none → DeclaredOpen callers m.log row f := by
  refine trail.always (P := fun m row => ∀ f, row.artifactHandoff = some f →
      f.hostConfirmationDeclaredAt ≠ none → DeclaredOpen callers m.log row f)
    (fun m m' row _ move known f has declared => ?_)
    (fun _ _ _ _ _ _ _ _ _ f has => ?_) ?_
  · obtain ⟨later, earlier, i, cur, changes, digest, split, rest⟩ :=
      known f has declared
    obtain ⟨added, grown⟩ := move.log_suffix
    exact ⟨added ++ later, earlier, i, cur, changes, digest, by
      rw [← grown, split, List.append_assoc], rest⟩
  · simp [Rows.reserved] at has
  · intro m m' i cur write changes before move member guarded makes log known f' has declared
    have version := before.consistent.current cur member
    by_cases already : cur.hostConfirmedAt = none
    · -- The write declares it, over a row that it found completed.
      have now : (cur.apply changes).hostConfirmedAt = f'.hostConfirmationDeclaredAt := by
        rw [Lease.hostConfirmedAt, has, Option.bind_some]
      have new : (cur.apply changes).hostConfirmedAt ≠ none := by
        rw [now]
        exact declared
      obtain ⟨confirmation, t, rfl⟩ := Write.declares guarded makes already new
      obtain ⟨completed, spec, requested, _, protocolOne, historical⟩ := guarded
      rcases spec.request.protocol with absent | one
      · obtain ⟨evidence, rfl⟩ := makes.columns
        have kept := historical (by rw [absent]; simp)
        subst kept
        exact absurd already new
      · obtain ⟨g, digest, declaredAt, confirmed, recorded, acked, named, confirms, _, built, is⟩ :=
          protocolOne one
        have same : f' = confirmed := by
          obtain ⟨evidence, rfl⟩ := makes.columns
          subst is
          exact (Option.some.inj has).symm
        have protocol : cur.protocolOne = true := by simp [Lease.protocolOne, requested, one]
        refine ⟨[], m.log, i, cur, changes, digest, log, rfl, completed,
          ⟨g, recorded, acked, named⟩, already, now, ?_, confirms, fun old committed token => ?_⟩
        · rw [same, Handoff.build_ok.mp built]
          exact named
        · -- A lease that was stopped would not be found completed.
          by_contra still
          rw [Bool.not_eq_false] at still
          have identity := before.sameIdentity committed version token
          have stop := before.stop_kept old committed cur member token.symm
            (identity.protocolOne.trans protocol) still
          rw [completed] at stop
          cases stop
    · have step := write.custodyStep guarded makes
      obtain ⟨f, recorded⟩ : ∃ f, cur.artifactHandoff = some f := by
        rw [← Option.ne_none_iff_exists']
        intro none
        rw [Lease.hostConfirmedAt, none] at already
        exact already rfl
      rw [Lease.hostConfirmedAt, recorded, Option.bind_some] at already
      obtain ⟨f'', is, grows⟩ := step.grows recorded
      rw [has] at is
      cases is
      obtain ⟨later, earlier, j, first, changes', digest, split, token, completed, found,
        undeclared, at_, named, confirms, open_⟩ := known f recorded already
      obtain ⟨t, dated⟩ := Option.ne_none_iff_exists'.mp already
      refine ⟨(i, ⟨.compareAndSet cur changes, .ok (cur.apply changes)⟩) :: later, earlier, j,
        first, changes', digest, ?_, token, completed, found, undeclared, ?_,
        grows.acknowledgementSha256 digest named, confirms, open_⟩
      · rw [log, split, List.cons_append]
      · rw [at_, dated, grows.hostConfirmationDeclaredAt t dated]

/-- A protocol-1 lease that was stopped before its host declared anything stays undeclared. -/
theorem LeaseTrail.undeclared (trail : LeaseTrail d callers K clock m) :
    Since (fun old now => old.protocolOne = true → old.stopped = true →
      old.hostConfirmedAt = none → now.hostConfirmedAt = none) m := by
  have states : Since (fun old now => old.protocolOne = now.protocolOne ∧
      (old.protocolOne = true → old.state.isStop = true → now.state.isStop = true ∧
        (old.hostConfirmedAt = none → now.hostConfirmedAt = none))) m := by
    refine trail.since (fun row => ⟨rfl, fun _ stop => ⟨stop, id⟩⟩) (fun a b c ab bc => ?_) ?_
    · refine ⟨ab.1.trans bc.1, fun protocol stop => ?_⟩
      have first := ab.2 protocol stop
      have second := bc.2 (ab.1 ▸ protocol) first.1
      exact ⟨second.1, fun undeclared => second.2 (first.2 undeclared)⟩
    · intro m m' i cur write changes before _ member guarded makes _
      refine ⟨rfl, fun protocol stop => ⟨write.stop_kept before member guarded makes protocol stop,
        fun undeclared => ?_⟩⟩
      by_contra declared
      obtain ⟨confirmation, t, rfl⟩ := Write.declares guarded makes undeclared declared
      rw [guarded.1] at stop
      cases stop
  intro old committed now member same protocol stopped
  exact ((states old committed now member same).2 protocol
    (trail.isStop_of_stopped committed protocol stopped)).2

/-! ## The flag -/

/-- What stands behind the terminal success of a lease. -/
structure ProvenSuccess (callers : Callers) (m : Moment Effects World) (row : Lease)
    (spec : CapacitySpec) (f : Handoff) (worker : WorkerEvidence) (receipt : BillingReceipt) :
    Prop where
  requested : row.capacitySpec = some spec
  /-- The worker's acknowledgement matched an intent that was on record before it. -/
  acknowledged : row.artifactHandoff = some f ∧ f.remoteAckObservedAt ≠ none ∧
    AcknowledgedBy m.log row.cleanupToken f ∧ IntentBefore m.log row f
  /-- The host's confirmation of the same digest was declared before any stop. -/
  confirmed : f.hostConfirmationDeclaredAt ≠ none ∧ DeclaredOpen callers m.log row f
  /-- The stop of the Pod on record was confirmed. -/
  terminated : Terminated m row
  /-- The worker's evidence is of this attempt. -/
  attested : (∃ evidence, row.evidence = some evidence ∧ evidence.worker = some worker) ∧
    worker.attemptId = spec.request.attemptId ∧
    worker.requestSha256 = spec.request.requestSha256 ∧
    worker.imageDigest = spec.request.imageDigest
  /-- The receipt on record is for the Pod on record, and covers the confirmed stop. -/
  billed : row.billingReceipt = some receipt ∧ receipt.providerPodId = row.providerPodId ∧
    ∃ stopped, row.stopConfirmedAt = some stopped ∧ stopped ≤ receipt.billedUntil

/-- The workload of a protocol-1 lease succeeded when both ends of its handoff are on record. -/
theorem Lease.workloadSucceeded_ok {lease : Lease} (protocol : lease.protocolOne = true)
    (succeeded : lease.workloadSucceeded = true) :
    ∃ f, lease.artifactHandoff = some f ∧ f.remoteAckObservedAt ≠ none ∧
      f.hostConfirmationDeclaredAt ≠ none := by
  obtain ⟨spec, requested, one⟩ := (Option.any_eq_true _ _).mp protocol
  rw [decide_eq_true_eq] at one
  unfold workloadSucceeded at succeeded
  rw [requested, Option.bind_some, one] at succeeded
  simp only [Bool.and_eq_true, Option.any_eq_true] at succeeded
  obtain ⟨_, f, has, proven, declared⟩ := succeeded
  exact ⟨f, has, Option.isSome_iff_ne_none.mp proven, Option.isSome_iff_ne_none.mp declared⟩

/-- Success is proven only with everything behind it. -/
theorem LeaseTrail.provenSuccess (trail : LeaseTrail d callers K clock m) {row : Lease}
    (committed : Committed m.log row) (protocol : row.protocolOne = true)
    (success : row.terminalSuccessEvidenceComplete = true) :
    ∃ spec f worker receipt, ProvenSuccess callers m row spec f worker receipt := by
  simp only [Lease.terminalSuccessEvidenceComplete, Bool.and_eq_true,
    Option.any_eq_true] at success
  obtain ⟨⟨succeeded, _⟩, evidence, has, complete⟩ := success
  obtain ⟨f, recorded, proven, declared⟩ := Lease.workloadSucceeded_ok protocol succeeded
  obtain ⟨⟨placement, placed⟩, ⟨worker, attested⟩, stopped, receipt, dated, billed, covers⟩ :=
    EvidenceFields.isComplete_ok complete
  obtain ⟨spec, requested, binds⟩ := trail.evidence_binds row committed evidence has
  obtain ⟨own, pod⟩ := evidence.bindings
  obtain ⟨attempt, request, image⟩ := own worker attested
  have confirmedAt : row.stopConfirmedAt = some stopped := by
    rw [Lease.stopConfirmedAt, has, Option.bind_some, dated]
  have terminated := trail.stopConfirmed row committed
    (by rw [confirmedAt]; exact Option.some_ne_none stopped)
  refine ⟨spec, f, worker, receipt, requested, ⟨recorded, proven, ?_, ?_⟩, ⟨declared, ?_⟩,
    terminated, ⟨⟨evidence, has, attested⟩, ?_, ?_, ?_⟩, ?_, ?_, stopped, confirmedAt, covers⟩
  · exact trail.acknowledgedBy row committed f recorded proven
  · exact trail.intentFirst row committed f recorded proven
  · exact trail.declaredOpen row committed f recorded declared
  · rw [attempt, binds.attemptId]
  · rw [request, binds.requestSha256]
  · rw [image, binds.imageDigest]
  · rw [trail.billing_recorded row committed evidence has, billed]
  · rw [pod placement receipt placed billed, trail.placed row committed evidence placement has
      placed]

/-- Terminal success is sound.  In every run, however its operations interleave: a protocol-1
lease that proves its success has the worker's acknowledgement of the persisted intent, the
host's confirmation of the same digest from before any stop of the lease, a confirmed stop of
the Pod on record, evidence of the worker bound to the attempt, and a receipt that covers the
stop; and a lease that was stopped while its host had confirmed nothing never proves success,
whatever is recorded of it later. -/
theorem terminal_success_is_sound {c : Config Effects Exn World}
    (run : ServiceRun d callers anyMove clock c) :
    (∀ row, Committed c.log row → row.protocolOne = true →
      row.terminalSuccessEvidenceComplete = true →
      ∃ spec f worker receipt, ProvenSuccess callers c.moment row spec f worker receipt) ∧
    ∀ old, Committed c.log old → old.protocolOne = true → old.stopped = true →
      old.hostConfirmedAt = none → ∀ now ∈ c.world.rows, now.cleanupToken = old.cleanupToken →
        now.terminalSuccessEvidenceComplete = false := by
  have trail := run.trail
  refine ⟨fun row committed protocol success => trail.provenSuccess committed protocol success, ?_⟩
  intro old committed protocol stopped undeclared now member same
  by_contra success
  rw [Bool.not_eq_false] at success
  have still := trail.undeclared old committed now member same protocol stopped undeclared
  have identity := trail.identity old committed now member same
  simp only [Lease.terminalSuccessEvidenceComplete, Bool.and_eq_true] at success
  obtain ⟨f, has, _, declared⟩ :=
    Lease.workloadSucceeded_ok (identity.protocolOne.symm.trans protocol) success.1.1
  rw [Lease.hostConfirmedAt, has, Option.bind_some] at still
  exact declared still

/-! ### A proven success -/

section

open Sample

def attestation : WorkerEvidence where
  schemaVersion := 1
  attemptId := "attempt-1"
  requestSha256 := hex '2'
  imageDigest := "sha256:" ++ hex '3'
  containerProcessStartedAt := none
  timings := ⟨none, none, none, none, none, none, none⟩
  metrics := ⟨none, none, none, none⟩
  checked := by decide +kernel

def finalReceipt : BillingReceipt where
  providerBillingId := "billing-1"
  providerPodId := some "pod-00001"
  billedFrom := seconds 250
  billedUntil := seconds 260
  billedSeconds := 10
  hourlyPriceUsd := 2
  actualCostUsd := 1 / 180
  reconciledAt := seconds 260
  checked := by decide +kernel

/-- A worker that reports and acknowledges its artifact, and a provider that ends and bills the
Pod. -/
def concludes : (call : Call) → Option (Except Exn call.Value)
  | .status _ _ _ => some (.ok awaitingAck)
  | .acknowledge _ _ _ _ => some (.ok acknowledged)
  | .terminate _ => some (.ok true)
  | .finalBilling _ _ _ _ => some (.ok (some finalReceipt))
  | call => comesUp call

/-- Submit, observe, attest, acknowledge, and release to the settlement. -/
def concluded : Schedule digests agreed :=
  bringUp ++
    [.spawn 1 _ (.submitCatalogWorkload service "capacity-1" "owner-0001" "workload-1" configured),
      runs 1 20, gets 1 comesUp, runs 1 20, gets 1 lateResponse.accepts, runs 1 20,
      .spawn 2 _
        (.observeCatalogWorkload service "capacity-1" "owner-0001" "workload-1" configured),
      runs 2 20, gets 2 concludes, runs 2 20, gets 2 concludes, runs 2 20,
      .spawn 3 _ (.recordCatalogWorkerEvidence service "capacity-1" "owner-0001" "workload-1"
        (.ok attestation) configured),
      runs 3 20,
      .spawn 4 _ acknowledges,
      runs 4 20, gets 4 concludes, runs 4 20, gets 4 concludes, runs 4 20,
      .spawn 5 _ releases,
      runs 5 20, .drift (.stops 1), gets 5 concludes, runs 5 20, .drift (.tick 10000000),
      gets 5 concludes, runs 5 20, gets 5 concludes, runs 5 20]

/-- A lease of this run proves its success. -/
theorem terminal_success_is_sound_concluded :
    ∃ c row spec f worker receipt, ServiceRun digests agreed anyMove (seconds 250) c ∧
      row ∈ c.world.rows ∧ row.terminalSuccessEvidenceComplete = true ∧
      ProvenSuccess agreed c.moment row spec f worker receipt := by
  obtain ⟨c, run, checked⟩ := exhibits concluded anyMove (seconds 250)
    (fun c => c.world.rows.any fun row =>
      row.protocolOne && row.terminalSuccessEvidenceComplete) (by decide +kernel)
  obtain ⟨row, member, is⟩ := List.any_eq_true.mp checked
  rw [Bool.and_eq_true] at is
  obtain ⟨spec, f, worker, receipt, proven⟩ := (terminal_success_is_sound run).1 row
    (run.trail.consistent.current row member) is.1 is.2
  exact ⟨c, row, spec, f, worker, receipt, run, member, is.2, proven⟩

end

end KestrelRunpod.Pod
