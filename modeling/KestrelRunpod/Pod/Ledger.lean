import KestrelRunpod.Pod.Success

/-!
# The record of one attempt

Operations of many tasks add to the evidence of a catalog lease, in any order: instants of its
lifecycle, the realized placement, the worker's evidence, the receipt.  Each part is written
once (`evidence_is_write_once`): no version of the lease records it otherwise, whatever becomes
of the billing state, and the receipt column never leaves the receipt in the evidence.

A receipt on record is then worth what it was checked against (`receipt_is_bound`): one without
a Pod costs nothing and stands next to no placement, and one with a Pod is for the Pod that was
created for the lease, at the rate of the placement on record, asked for once its termination
was confirmed.
-/

namespace KestrelRunpod.Pod

open Interleave

variable {d : Digests} {callers : Callers} {K : Restriction Effects World} {clock : Instant}
  {write : Write} {cur : Lease} {changes : Changes} {m : Moment Effects World}

/-! ## Growing evidence -/

/-- Every instant of the first lifecycle is on record in the second. -/
structure Phases.Grows (p q : Phases) : Prop where
  providerCreateAcceptedAt : ∀ t ∈ p.providerCreateAcceptedAt,
    q.providerCreateAcceptedAt = some t
  providerAdoptedAt : ∀ t ∈ p.providerAdoptedAt, q.providerAdoptedAt = some t
  firstRunningObservedAt : ∀ t ∈ p.firstRunningObservedAt, q.firstRunningObservedAt = some t
  workerReadyAt : ∀ t ∈ p.workerReadyAt, q.workerReadyAt = some t
  workloadSubmittedAt : ∀ t ∈ p.workloadSubmittedAt, q.workloadSubmittedAt = some t
  workloadRunningAt : ∀ t ∈ p.workloadRunningAt, q.workloadRunningAt = some t
  workloadTerminalAt : ∀ t ∈ p.workloadTerminalAt, q.workloadTerminalAt = some t
  stopConfirmedAt : ∀ t ∈ p.stopConfirmedAt, q.stopConfirmedAt = some t
  billingReconciledAt : ∀ t ∈ p.billingReconciledAt, q.billingReconciledAt = some t

/-- Nothing that the first evidence records is recorded otherwise in the second. -/
structure EvidenceFields.Grows (e f : EvidenceFields) : Prop where
  accepted : f = { e with
    lifecycle := f.lifecycle, realizedPlacement := f.realizedPlacement, worker := f.worker,
    billing := f.billing }
  reservationAt : f.lifecycle.reservationAt = e.lifecycle.reservationAt
  phases : e.lifecycle.phases.Grows f.lifecycle.phases
  realizedPlacement : ∀ p ∈ e.realizedPlacement, f.realizedPlacement = some p
  worker : ∀ w ∈ e.worker, f.worker = some w
  billing : ∀ r ∈ e.billing, f.billing = some r

/-- The first of two optional values, where there is one, wins. -/
theorem or_of_mem {α : Type} {recorded new : Option α} {x : α} (has : x ∈ recorded) :
    recorded.or new = some x := by
  rw [Option.mem_def] at has
  rw [has, Option.some_or]

theorem Phases.Grows.refl (p : Phases) : p.Grows p := by
  constructor <;> exact fun _ => id

theorem Phases.Grows.trans {p q r : Phases} (first : p.Grows q) (second : q.Grows r) :
    p.Grows r where
  providerCreateAcceptedAt := fun t has =>
    second.providerCreateAcceptedAt t (first.providerCreateAcceptedAt t has)
  providerAdoptedAt := fun t has => second.providerAdoptedAt t (first.providerAdoptedAt t has)
  firstRunningObservedAt := fun t has =>
    second.firstRunningObservedAt t (first.firstRunningObservedAt t has)
  workerReadyAt := fun t has => second.workerReadyAt t (first.workerReadyAt t has)
  workloadSubmittedAt := fun t has =>
    second.workloadSubmittedAt t (first.workloadSubmittedAt t has)
  workloadRunningAt := fun t has => second.workloadRunningAt t (first.workloadRunningAt t has)
  workloadTerminalAt := fun t has => second.workloadTerminalAt t (first.workloadTerminalAt t has)
  stopConfirmedAt := fun t has => second.stopConfirmedAt t (first.stopConfirmedAt t has)
  billingReconciledAt := fun t has =>
    second.billingReconciledAt t (first.billingReconciledAt t has)

theorem Phases.grows_firstWins (recorded new : Phases) :
    recorded.Grows (recorded.firstWins new) := by
  constructor <;> exact fun _ => or_of_mem

namespace EvidenceFields.Grows

theorem refl (e : EvidenceFields) : e.Grows e :=
  ⟨rfl, rfl, .refl _, fun _ => id, fun _ => id, fun _ => id⟩

theorem trans {e f g : EvidenceFields} (first : e.Grows f) (second : f.Grows g) :
    e.Grows g where
  accepted := by
    rw [second.accepted, first.accepted]
  reservationAt := second.reservationAt.trans first.reservationAt
  phases := first.phases.trans second.phases
  realizedPlacement := fun p has => second.realizedPlacement p (first.realizedPlacement p has)
  worker := fun w has => second.worker w (first.worker w has)
  billing := fun r has => second.billing r (first.billing r has)

/-- A merge only adds. -/
theorem merged {e f : PodCapacityEvidence} {u : EvidenceUpdate} (ok : e.merge u = .ok f) :
    e.toEvidenceFields.Grows f.toEvidenceFields := by
  have records := PodCapacityEvidence.merge_ok ok
  refine ⟨records.accepted, records.reservationAt, ?_, fun p has => ?_, fun w has => ?_,
    fun r has => ?_⟩
  · rw [records.phases]
    exact Phases.grows_firstWins _ _
  · rw [records.realizedPlacement, or_of_mem has]
  · rw [records.worker, or_of_mem has]
  · rw [records.billing, or_of_mem has]

end EvidenceFields.Grows

/-- The evidence of every version of a lease grows into that of the current row. -/
theorem LeaseTrail.evidence_grows (trail : LeaseTrail d callers K clock m) :
    Since (fun old now => ∀ e, old.evidence = some e →
      ∃ f, now.evidence = some f ∧ e.toEvidenceFields.Grows f.toEvidenceFields) m := by
  refine trail.since (fun row e has => ⟨e, has, .refl _⟩) (fun a b c ab bc e has => ?_) ?_
  · obtain ⟨f, hasF, first⟩ := ab e has
    obtain ⟨g, hasG, second⟩ := bc f hasF
    exact ⟨g, hasG, first.trans second⟩
  · intro m m' i cur write changes _ _ _ guarded makes _ e has
    rcases makes.evidence guarded with ⟨old, merged, recorded, ok, is⟩ | ⟨is, _⟩
    · rw [has] at recorded
      cases recorded
      exact ⟨merged, is, .merged ok⟩
    · exact ⟨e, by rw [is, has], .refl _⟩

/-! ## Receipts -/

/-- What a task knows when it records a receipt: the lease is a catalog attempt, and the receipt
is for nothing, or the final one of a terminated Pod. -/
theorem Write.bills {i : Nat} {receipt : BillingReceipt}
    (guarded : write.Guard d callers (m.log.of i) cur)
    (billed : write.update.billing = some receipt) :
    (∃ row, Shown (m.log.of i) row ∧ row.cleanupToken = cur.cleanupToken ∧
      row.isCatalogAttempt = true) ∧
    (receipt.isZero ∨ FinallyBilled (m.log.of i) cur.cleanupToken receipt) := by
  cases write with
  | createRejectedZero x t receipt at_ =>
      cases billed
      obtain ⟨_, _, _, zero, ⟨row, shown, same, catalog⟩, _⟩ := guarded
      exact ⟨⟨row, shown, same, catalog⟩, .inl zero⟩
  | noCapacityZero t receipt =>
      cases billed
      obtain ⟨_, zero, row, shown, same, catalog, _⟩ := guarded
      exact ⟨⟨row, shown, same, catalog⟩, .inl zero⟩
  | expiredZero t receipt =>
      cases billed
      obtain ⟨_, zero, row, shown, same, _, catalog⟩ := guarded
      exact ⟨⟨row, shown, same, catalog⟩, .inl zero⟩
  | billingSettled receipt =>
      cases billed
      obtain ⟨_, ⟨zero, row, shown, same, catalog, _⟩ | final⟩ := guarded
      · exact ⟨⟨row, shown, same, catalog⟩, .inl zero⟩
      · obtain ⟨row, _, _, _, _, shown, same, catalog, _⟩ := id final
        exact ⟨⟨row, shown, same, catalog⟩, .inr final⟩
  | _ => cases billed

/-- A lease without evidence has no receipt. -/
theorem LeaseTrail.legacy_unbilled (trail : LeaseTrail d callers K clock m) :
    ∀ row, Committed m.log row → row.evidence = none → row.billingReceipt = none := by
  refine trail.always (P := fun _ row => row.evidence = none → row.billingReceipt = none)
    (fun _ _ _ _ _ => id) (fun _ _ _ _ _ _ _ _ _ _ => rfl) ?_
  intro m m' i cur write changes before _ member guarded makes _ known without
  have version := before.consistent.current cur member
  have legacy : cur.evidence = none := by
    rcases makes.evidence guarded with ⟨old, merged, _, _, is⟩ | ⟨is, _⟩
    · rw [is] at without
      cases without
    · rw [← is]
      exact without
  obtain ⟨same, _⟩ := Write.base_billingReceipt guarded
  obtain ⟨columns, is⟩ := makes.columns
  rw [Lease.apply_billingReceipt, is]
  dsimp only
  rw [same, known legacy, Option.or_none]
  by_contra some_
  obtain ⟨receipt, billed⟩ := Option.ne_none_iff_exists'.mp some_
  obtain ⟨⟨row, shown, own, catalog⟩, _⟩ := Write.bills guarded billed
  have shownVersion := before.consistent.committed shown
  have identity := before.sameIdentity shownVersion version own
  have attempt := before.evidence_isSome cur version
  rw [legacy, ← identity.isCatalogAttempt, catalog] at attempt
  cases attempt

/-- A write keeps the receipt of the row it reads. -/
theorem LeaseTrail.receipt_survives (trail : LeaseTrail d callers K clock m) {i : Nat}
    {receipt : BillingReceipt} (member : cur ∈ m.world.rows)
    (guarded : write.Guard d callers (m.log.of i) cur) (makes : write.Makes cur changes)
    (billed : cur.billingReceipt = some receipt) :
    (cur.apply changes).billingReceipt = some receipt := by
  have version := trail.consistent.current cur member
  obtain ⟨same, merging⟩ := Write.base_billingReceipt guarded
  have column : (cur.apply changes).billingReceipt =
      write.update.billing.or cur.billingReceipt := by
    obtain ⟨columns, is⟩ := makes.columns
    rw [Lease.apply_billingReceipt, is, ← same]
  rw [column, billed]
  cases new : write.update.billing with
  | none => rw [Option.none_or]
  | some receipt' =>
      obtain ⟨merges, active⟩ := merging (by rw [new]; exact Option.some_ne_none receipt')
      rcases makes.evidence guarded with ⟨old, merged, recorded, ok, _⟩ | ⟨_, apart⟩
      · have had := trail.billing_recorded cur version old recorded
        rw [billed] at had
        have agrees := (PodCapacityEvidence.merge_ok ok).sameBilling receipt had.symm receipt' new
        rw [Option.some_or, agrees]
      · refine absurd ⟨merges, active, ?_⟩ apart
        by_contra without
        rw [Option.not_isSome_iff_eq_none] at without
        rw [trail.legacy_unbilled cur version without] at billed
        cases billed

/-- A receipt stays on record. -/
theorem LeaseTrail.receipt_kept (trail : LeaseTrail d callers K clock m) :
    Since (fun old now => ∀ receipt, old.billingReceipt = some receipt →
      now.billingReceipt = some receipt) m := by
  refine trail.since (fun _ _ => id) (fun a b c ab bc receipt billed => bc _ (ab _ billed)) ?_
  intro m m' i cur write changes before _ member guarded makes _ receipt billed
  exact before.receipt_survives member guarded makes billed

/-- What an attempt has on record it keeps.  In every run, however its tasks interleave: the
evidence of every version of a lease is contained in that of its current row, each lifecycle
instant, the placement, the worker's evidence and the receipt unchanged, and so is the receipt
column, whatever the billing state is by then.  No two versions of a lease carry different
receipts. -/
theorem evidence_is_write_once {c : Config Effects Exn World}
    (run : ServiceRun d callers anyMove clock c) :
    Since (fun old now =>
      (∀ e, old.evidence = some e →
        ∃ f, now.evidence = some f ∧ e.toEvidenceFields.Grows f.toEvidenceFields) ∧
      ∀ receipt, old.billingReceipt = some receipt → now.billingReceipt = some receipt)
      c.moment ∧
    ∀ a b, Committed c.log a → Committed c.log b → a.cleanupToken = b.cleanupToken →
      ∀ r s, a.billingReceipt = some r → b.billingReceipt = some s → r = s := by
  have trail := run.trail
  refine ⟨fun old committed now member same =>
    ⟨trail.evidence_grows old committed now member same,
      trail.receipt_kept old committed now member same⟩, ?_⟩
  intro a b inA inB same r s billedA billedB
  obtain ⟨now, member, own⟩ := trail.consistent.present inA
  have first := trail.receipt_kept a inA now member own r billedA
  have second := trail.receipt_kept b inB now member (own.trans same) s billedB
  rw [first] at second
  exact Option.some.inj second

/-! ### Settled evidence -/

section

open Sample

/-- The row of the concluded delivery has the final receipt of its Pod. -/
theorem concluded_settles :
    ∃ c row, ServiceRun digests agreed anyMove (seconds 250) c ∧ row ∈ c.world.rows ∧
      row.billingReceipt = some finalReceipt := by
  obtain ⟨c, run, checked⟩ := exhibits concluded anyMove (seconds 250)
    (fun c => c.world.rows.any fun row => decide (row.billingReceipt = some finalReceipt))
    (by decide +kernel)
  obtain ⟨row, member, is⟩ := List.any_eq_true.mp checked
  exact ⟨c, row, run, member, of_decide_eq_true is⟩

/-- Every version of the settled lease that has a receipt has this one. -/
theorem evidence_is_write_once_concluded :
    ∃ c row, ServiceRun digests agreed anyMove (seconds 250) c ∧ row ∈ c.world.rows ∧
      row.billingReceipt = some finalReceipt ∧
      ∀ old, Committed c.log old → old.cleanupToken = row.cleanupToken →
        ∀ r, old.billingReceipt = some r → r = finalReceipt := by
  obtain ⟨c, row, run, member, settled⟩ := concluded_settles
  have once := (evidence_is_write_once run).2
  exact ⟨c, row, run, member, settled, fun old committed same r billed =>
    once old row committed (run.trail.consistent.current row member) same r finalReceipt billed
      settled⟩

end

/-! ## What a receipt was checked against -/

/-- A receipt on record is for nothing, or the final one of a terminated Pod. -/
theorem LeaseTrail.receipt_source (trail : LeaseTrail d callers K clock m) :
    ∀ row, Committed m.log row → ∀ receipt, row.billingReceipt = some receipt →
      receipt.isZero ∨ ∃ i, FinallyBilled (m.log.of i) row.cleanupToken receipt := by
  refine trail.always (P := fun m row => ∀ receipt, row.billingReceipt = some receipt →
      receipt.isZero ∨ ∃ i, FinallyBilled (m.log.of i) row.cleanupToken receipt)
    (fun m m' row _ move known receipt billed => ?_) (fun _ _ _ _ _ _ _ _ _ receipt billed => ?_)
    ?_
  · exact (known receipt billed).imp_right fun ⟨i, final⟩ =>
      ⟨i, final.mono (Log.of_suffix move.log_suffix)⟩
  · cases billed
  · intro m m' i cur write changes before move member guarded makes log known receipt billed
    have onward : ∀ j, m.log.of j <:+ m'.log.of j := fun j => Log.of_suffix move.log_suffix
    obtain ⟨same, _⟩ := Write.base_billingReceipt guarded
    obtain ⟨columns, is⟩ := makes.columns
    rw [Lease.apply_billingReceipt, is] at billed
    dsimp only at billed
    rw [same] at billed
    cases new : write.update.billing with
    | none =>
        rw [new, Option.none_or] at billed
        exact (known receipt billed).imp_right fun ⟨j, final⟩ => ⟨j, final.mono (onward j)⟩
    | some receipt' =>
        rw [new, Option.some_or] at billed
        cases billed
        exact (Write.bills guarded new).2.imp_right fun final => ⟨i, final.mono (onward i)⟩

/-- A write that dates the termination observed it, or settles capacity that never was. -/
theorem Write.base_terminatedAt {i : Nat} (trail : LeaseTrail d callers K clock m)
    (member : cur ∈ m.world.rows) (guarded : write.Guard d callers (m.log.of i) cur)
    (dates : write.base.terminatedAt ≠ none) :
    write.merges = true ∧ cur.isTerminal = false ∧ cur.isCatalogAttempt = true ∧
      (write.update.lifecycle.stopConfirmedAt ≠ none ∨
        ∃ receipt, write.update.billing = some receipt ∧ receipt.isZero) := by
  have catalog : ∀ {row : Lease}, Shown (m.log.of i) row →
      row.cleanupToken = cur.cleanupToken → row.isCatalogAttempt = true →
      cur.isCatalogAttempt = true := by
    intro row shown same attempt
    have identity := trail.sameIdentity (trail.consistent.committed shown)
      (trail.consistent.current cur member) same
    rw [← identity.isCatalogAttempt]
    exact attempt
  cases write with
  | createRejectedZero x t receipt at_ =>
      obtain ⟨active, _, _, zero, ⟨row, shown, same, attempt⟩, _⟩ := guarded
      exact ⟨rfl, active, catalog shown same attempt, .inr ⟨receipt, rfl, zero⟩⟩
  | noCapacityZero t receipt =>
      obtain ⟨active, zero, row, shown, same, attempt, _⟩ := guarded
      exact ⟨rfl, active, catalog shown same attempt, .inr ⟨receipt, rfl, zero⟩⟩
  | expiredZero t receipt =>
      obtain ⟨active, zero, row, shown, same, _, attempt⟩ := guarded
      exact ⟨rfl, active, catalog shown same attempt, .inr ⟨receipt, rfl, zero⟩⟩
  | terminateConfirmed t =>
      obtain ⟨active, ⟨row, pod, shown, same, attempt, _⟩, _⟩ := guarded
      exact ⟨rfl, active, catalog shown same attempt, .inl (Option.some_ne_none t)⟩
  | observedTerminated t =>
      obtain ⟨active, row, pod, observation, shown, same, attempt, _⟩ := guarded
      exact ⟨rfl, active, catalog shown same attempt, .inl (Option.some_ne_none t)⟩
  | observed observation submitted t changes phases =>
      obtain ⟨_, spec, _, _, _, ok, _⟩ := guarded
      obtain ⟨handoff, observed⟩ := catalogObservationChanges_ok ok
      exact absurd observed.others.2.2.2.2.2.1 dates
  | _ => exact absurd rfl dates

/-- A lease whose termination is dated was seen stopped, or settled for nothing. -/
theorem LeaseTrail.terminated_dated (trail : LeaseTrail d callers K clock m) :
    ∀ row, Committed m.log row → row.terminatedAt ≠ none → row.stopConfirmedAt ≠ none ∨
      ∃ receipt, row.billingReceipt = some receipt ∧ receipt.isZero := by
  refine trail.always (P := fun _ row => row.terminatedAt ≠ none → row.stopConfirmedAt ≠ none ∨
      ∃ receipt, row.billingReceipt = some receipt ∧ receipt.isZero)
    (fun _ _ _ _ _ => id) (fun _ _ _ _ _ _ _ _ _ dated => absurd rfl dated) ?_
  intro m m' i cur write changes before move member guarded makes log known dated
  have version := before.consistent.current cur member
  by_cases dates : write.base.terminatedAt = none
  · have already : cur.terminatedAt ≠ none := by
      obtain ⟨columns, is⟩ := makes.columns
      rw [Lease.apply_terminatedAt, is] at dated
      dsimp only at dated
      rwa [dates, Option.none_or] at dated
    rcases known already with confirmed | ⟨receipt, billed, zero⟩
    · exact .inl (makes.stopConfirmed guarded confirmed)
    · exact .inr ⟨receipt, before.receipt_survives member guarded makes billed, zero⟩
  · obtain ⟨merges, active, catalog, observes | ⟨receipt, bills, zero⟩⟩ :=
      Write.base_terminatedAt before member guarded dates
    · have has : cur.evidence.isSome = true := by
        rw [before.evidence_isSome cur version]
        exact catalog
      exact .inl (makes.confirms guarded merges active has observes)
    · refine .inr ⟨receipt, ?_, zero⟩
      obtain ⟨columns, is⟩ := makes.columns
      rw [Lease.apply_billingReceipt, is]
      dsimp only
      rw [(Write.base_billingReceipt guarded).1, bills, Option.some_or]

/-- The receipt is the final one of the Pod that the lease had created: the Pod is on record, its
placement has the rate of the receipt, its termination is confirmed, and the provider was asked
for the whole time from the lease's creation to a termination that the receipt covers. -/
structure BilledFor (m : Moment Effects World) (row : Lease) (receipt : BillingReceipt)
    (pod : String) : Prop where
  recorded : row.providerPodId = some pod
  created : CreatedFor m.world row.cleanupToken pod
  placed : ∃ evidence placement, row.evidence = some evidence ∧
    evidence.realizedPlacement = some placement ∧ placement.providerPodId = pod ∧
    placement.hourlyRateUsd = receipt.hourlyPriceUsd
  terminated : Terminated m row
  asked : ∃ i old terminatedAt, Committed m.log old ∧ old.cleanupToken = row.cleanupToken ∧
    old.terminatedAt = some terminatedAt ∧ terminatedAt ≤ receipt.billedUntil ∧
    Replied (m.log.of i) row.cleanupToken
      (.finalBilling pod row.createdAt terminatedAt receipt.hourlyPriceUsd) (.ok (some receipt))

/-- The final receipt of a terminated Pod, on record for the lease. -/
theorem LeaseTrail.billedFor (trail : LeaseTrail d callers K clock m) {i : Nat} {row : Lease}
    {receipt : BillingReceipt} (member : row ∈ m.world.rows)
    (final : FinallyBilled (m.log.of i) row.cleanupToken receipt) :
    ∃ pod, receipt.providerPodId = some pod ∧ BilledFor m row receipt pod := by
  obtain ⟨old, pod, terminatedAt, evidence, realized, shown, same, catalog, _, has, ended,
    recorded, placed, own, ⟨id, later, earlier, split, _, received⟩, billed, covers, rate⟩ := final
  have version := trail.consistent.committed shown
  have current := trail.consistent.current row member
  have created := trail.catalog_created old version catalog
  have identity := trail.identity old version row member same.symm
  have pod_ := trail.pod_kept old version row member same.symm created pod has
  obtain ⟨evidence', recorded', grows⟩ :=
    trail.evidence_grows old version row member same.symm evidence recorded
  have placed' := grows.realizedPlacement realized placed
  -- A lease settled for nothing has no placement, so this termination was observed.
  have confirmed : old.stopConfirmedAt ≠ none := by
    refine (trail.terminated_dated old version (by rw [ended]; exact Option.some_ne_none _))
      |>.resolve_right ?_
    rintro ⟨zero, settled, free⟩
    rw [trail.billing_recorded old version evidence recorded] at settled
    have bound := evidence.bindings.2 realized zero placed settled
    rw [free.1] at bound
    cases bound
  obtain ⟨stopped, dated⟩ := Option.ne_none_iff_exists'.mp confirmed
  have still : row.stopConfirmedAt ≠ none := by
    rw [Lease.stopConfirmedAt, recorded, Option.bind_some] at dated
    rw [Lease.stopConfirmedAt, recorded', Option.bind_some,
      grows.phases.stopConfirmedAt stopped dated]
    exact Option.some_ne_none stopped
  refine ⟨pod, billed, pod_, ?_, ⟨evidence', realized, recorded', placed', own, rate.symm⟩,
    trail.stopConfirmed row current still, i, old, terminatedAt, version, same, ended, covers,
    id, ?_, ?_⟩
  · exact trail.pod_created row current (identity.source.symm.trans created) pod pod_
  · rw [split, ← identity.createdAt, rate]
    exact List.mem_append_right _ List.mem_cons_self
  · rw [← identity.createdAt, rate]
    exact received

/-- A receipt on record is bound to what the lease observed.  In every run, however its tasks
interleave, a receipt that a row carries either names no Pod, costs nothing, and stands next to
no realized placement, or it names the Pod that was created for this lease: on record, placed
at the rate of the receipt, seen terminated, and billed by the provider from the creation of the
lease to a termination on record. -/
theorem receipt_is_bound {c : Config Effects Exn World}
    (run : ServiceRun d callers anyMove clock c) :
    ∀ row ∈ c.world.rows, ∀ receipt, row.billingReceipt = some receipt →
      (receipt.providerPodId = none ∧ receipt.actualCostUsd = 0 ∧
        ∀ evidence, row.evidence = some evidence → evidence.realizedPlacement = none) ∨
      ∃ pod, receipt.providerPodId = some pod ∧ BilledFor c.moment row receipt pod := by
  have trail := run.trail
  intro row member receipt billed
  have version := trail.consistent.current row member
  rcases trail.receipt_source row version receipt billed with zero | ⟨i, final⟩
  · refine .inl ⟨zero.1, zero.2, fun evidence recorded => ?_⟩
    have settled := trail.billing_recorded row version evidence recorded
    rw [billed] at settled
    by_contra placed
    obtain ⟨placement, is⟩ := Option.ne_none_iff_exists'.mp placed
    have bound := evidence.bindings.2 placement receipt is settled.symm
    rw [zero.1] at bound
    cases bound
  · exact .inr (trail.billedFor member final)

/-- The receipt of the concluded delivery is bound to its Pod. -/
theorem receipt_is_bound_concluded :
    ∃ c row, ServiceRun Sample.digests Sample.agreed anyMove (seconds 250) c ∧
      row ∈ c.world.rows ∧ BilledFor c.moment row finalReceipt "pod-00001" := by
  obtain ⟨c, row, run, member, settled⟩ := concluded_settles
  rcases receipt_is_bound run row member finalReceipt settled with ⟨none, _⟩ | ⟨pod, named, bound⟩
  · cases none
  · have is : some "pod-00001" = some pod := named
    cases is
    exact ⟨c, row, run, member, bound⟩

end KestrelRunpod.Pod
