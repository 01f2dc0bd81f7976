import KestrelRunpod.Numeric.Contexts
import KestrelRunpod.Serverless.StoredReceipts

/-!
# The money of an ambiguous window

A page that bills every hour of a closed window is settled in full: the receipt passes its own
checks, what is charged and what is lost add up to what was billed, and the charge stays within
the accepted ceiling (`ambiguous_billing_conserves`).
-/

namespace KestrelRunpod.Serverless

open Numeric Tiling Traverse

/-! ## The hours of a page -/

/-- What the observation id of a record digests. -/
def BillingRecord.observation (endpointId : String) (record : BillingRecord) :
    HourObservation where
  startTime := record.recordFrom
  endTime := record.recordUntil
  serverlessId := endpointId
  totalAmount := record.amounts.actualCostUsd
  gpuAmount := record.amounts.gpuCostUsd
  cpuAmount := record.amounts.cpuCostUsd
  diskAmount := record.amounts.diskCostUsd
  feeAmount := record.amounts.feeCostUsd

/-- No two observations of a page have one digest. -/
def CollisionFree (texts : BillingTexts) (page : BillingPage) (endpointId : String) : Prop :=
  ∀ row ∈ page.records, ∀ row' ∈ page.records, ∀ r r',
    parseRecord texts endpointId row = .ok r → parseRecord texts endpointId row' = .ok r' →
    texts.observation (r.observation endpointId) = texts.observation (r'.observation endpointId) →
    r.observation endpointId = r'.observation endpointId

variable {texts : BillingTexts} {page : BillingPage} {endpointId : String}
  {windowFrom windowUntil : Instant} {costs : List HourCost} {hours : List Instant}

theorem HourCost.build_fields {fields : HourCostFields} {cost : HourCost}
    (ok : HourCost.build fields = .ok cost) : cost.toHourCostFields = fields := by
  unfold HourCost.build at ok
  split at ok
  · cases ok
    rfl
  · cases ok

/-- The cost of a record has the record's start, and its digest for an id. -/
theorem recordHourCost_ok {r : BillingRecord} {cost : HourCost}
    (ok : recordHourCost texts endpointId r = .ok cost) :
    cost.utcHourStart = r.recordFrom ∧ cost.providerObservationId =
      "runpod-serverless-hour:" ++ texts.observation (r.observation endpointId) := by
  unfold recordHourCost at ok
  dsimp only at ok
  split at ok
  · cases ok
  · have fields := HourCost.build_fields ok
    rw [fields]
    exact ⟨rfl, rfl⟩

/-- Hour costs of one endpoint whose ids are different are observed. -/
theorem observeHours_ok {observed : List String}
    (own : ∀ cost ∈ costs, cost.endpointId = endpointId)
    (fresh : ∀ cost ∈ costs, cost.providerObservationId ∉ observed)
    (apart : (costs.map fun cost => cost.providerObservationId).Nodup) :
    observeHours endpointId observed costs = .ok () := by
  induction costs generalizing observed with
  | nil => rfl
  | cons cost rest ih =>
      rw [List.map_cons, List.nodup_cons] at apart
      obtain ⟨new, apart⟩ := apart
      unfold observeHours
      rw [refuse_bind_ok, refuse_bind_ok]
      refine ⟨not_not.mpr (own cost List.mem_cons_self), fresh cost List.mem_cons_self, ?_⟩
      refine ih (fun other member => own other (List.mem_cons_of_mem cost member)) ?_ apart
      intro other member seen
      rcases List.mem_cons.mp seen with same | seen
      · exact new (same ▸ List.mem_map_of_mem member)
      · exact fresh other (List.mem_cons_of_mem cost member) seen

/-- Contiguous hours tile their window. -/
theorem tiles_of_contiguous {previous : Option Instant} {first last : Instant}
    {rest : List Instant} (ok : contiguousHours previous (first :: rest) = .ok ())
    (ends : (first :: rest).getLast? = some last) :
    Tiles (fun t : Instant => t) (fun t => t + hour) hour (last + hour) first (first :: rest) := by
  induction rest generalizing previous first with
  | nil =>
      cases ends
      exact ⟨rfl, rfl, rfl⟩
  | cons second rest ih =>
      unfold contiguousHours at ok
      obtain ⟨_, ok⟩ := refuse_bind_ok.mp ok
      obtain ⟨_, _, ok⟩ := except_bind_ok.mp ok
      rw [List.getLast?_cons_cons] at ends
      have onward := ih ok ends
      unfold contiguousHours at ok
      obtain ⟨_, ok⟩ := refuse_bind_ok.mp ok
      obtain ⟨_, follows, _⟩ := except_bind_ok.mp ok
      obtain ⟨next, shifted, follows⟩ := except_bind_ok.mp follows
      have is := (astimezone_ok.mp shifted).2
      rw [not_not.mp (refuse_ok.mp follows), is] at onward ⊢
      exact ⟨rfl, rfl, onward⟩

/-- The costs of an accepted page are those of the hours of the window, in order, for the
endpoint and under different ids. -/
theorem accepted_costs (window : HourWindow windowFrom windowUntil)
    (safe : safeIdentifier endpointId "endpoint_id" = .ok ())
    (free : CollisionFree texts page endpointId)
    (accepted : authoritativeHourCosts texts page endpointId windowFrom windowUntil =
      .ok (some costs)) :
    Tiles (fun cost : HourCost => cost.utcHourStart) (fun cost => cost.utcHourEnd) hour
        windowUntil windowFrom costs ∧
      observeHours endpointId [] costs = .ok () := by
  have answers := answers_of_some accepted
  obtain ⟨parsed, complete, costed, _⟩ := (answers.some_iff window).mp accepted
  obtain ⟨costs', costed', tiles, own, _⟩ := complete.hours window safe
  rw [costed] at costed'
  cases costed'
  have starts := (Tiles.covers hour_pos tiles).nodup_starts
  have apart : (costs.map fun cost => cost.providerObservationId).Nodup := by
    refine List.Nodup.map_on (fun cost member cost' member' same => ?_) (List.Nodup.of_map _ starts)
    obtain ⟨r, held, is⟩ := mapM_ok_mem costed member
    obtain ⟨r', held', is'⟩ := mapM_ok_mem costed member'
    obtain ⟨start, id⟩ := recordHourCost_ok is
    obtain ⟨start', id'⟩ := recordHourCost_ok is'
    rw [id, id', String.append_right_inj] at same
    obtain ⟨row, listed, read⟩ := mapM_ok_mem complete.1 ((inOrder_perm parsed).subset held)
    obtain ⟨row', listed', read'⟩ := mapM_ok_mem complete.1 ((inOrder_perm parsed).subset held')
    have equal := congrArg HourObservation.startTime
      (free row listed row' listed' r r' read read' same)
    exact List.inj_on_of_nodup_map starts member member' (start.trans (equal.trans start'.symm))
  exact ⟨tiles, observeHours_ok own (fun _ _ => List.not_mem_nil) apart⟩

/-! ## Windows -/

/-- What the constructor of a window has checked. -/
theorem AmbiguousWindow.valid (window : AmbiguousWindow) :
    isIdentifier window.attemptId = true ∧ isIdentifier window.endpointId = true ∧
      Pod.isSha256 window.exclusiveWindowSha256 = true ∧
      (∃ required, serverlessBillingHourStarts window.attemptedAt window.billableCoverageUntil =
        .ok required ∧ orderedHoursCover window.exclusiveBillingHourStarts required = true) ∧
      normalizedExclusiveHours window.exclusiveBillingHourStarts =
        .ok window.exclusiveBillingHourStarts ∧
      0 < window.acceptedCostCeilingUsd.coefficient := by
  have passed := window.checked
  simp only [WindowFields.check, check_bind_ok, safeIdentifier, sha256Digest, refuse_ok,
    Bool.not_eq_false] at passed
  obtain ⟨attempt, endpoint, _, digest, passed⟩ := passed
  obtain ⟨required, starts, passed⟩ := except_bind_ok.mp passed
  obtain ⟨hours, normalized, passed⟩ := except_bind_ok.mp passed
  obtain ⟨cover, ceiling⟩ := refuse_bind_ok.mp passed
  have is := (normalizedExclusiveHours_ok normalized).1
  subst is
  exact ⟨attempt, endpoint, digest, ⟨required, starts, Bool.eq_true_of_not_eq_false cover⟩,
    normalized, not_le.mp (refuse_ok.mp ceiling)⟩

theorem serverlessBillingHourStarts_life {startedAt coverageUntil : Instant}
    (ok : serverlessBillingHourStarts startedAt coverageUntil = .ok hours) :
    startedAt < coverageUntil := by
  unfold serverlessBillingHourStarts at ok
  obtain ⟨bounds, is, _⟩ := except_bind_ok.mp ok
  unfold billingHourBounds at is
  split at is
  · cases is
  · rename_i life
    exact not_le.mp life

theorem AmbiguousWindow.safe (window : AmbiguousWindow) :
    safeIdentifier window.endpointId "endpoint_id" = .ok () := by
  unfold safeIdentifier
  rw [refuse_ok, window.valid.2.1]
  decide

/-! ## Receipts -/

section

variable {texts : WindowTexts} {s : WindowSettlement} {window : AmbiguousWindow}
  {providerQuoteId endpointProfileSha256 : String} {lastHour : Instant}

theorem capped_nonneg {x y : Decimal} (actual : 0 ≤ x.coefficient) (ceiling : 0 < y.coefficient) :
    0 ≤ (lesser x y).coefficient := by
  unfold lesser
  split
  · exact ceiling.le
  · exact actual

/-- What the operator loses is what is left of the actual cost. -/
theorem loss_value (x y : Decimal) :
    (Decimal.exactSum [x, (lesser x y).negated]).value = x.value - (lesser x y).value := by
  rw [Decimal.exactSum_value]
  simp only [List.map_cons, List.map_nil, List.sum_cons, List.sum_nil, Decimal.negated_value]
  ring

theorem loss_nonneg (x y : Decimal) :
    0 ≤ (Decimal.exactSum [x, (lesser x y).negated]).value := by
  rw [loss_value, lesser_value]
  exact sub_nonneg.mpr (min_le_left _ _)

/-- The receipt of an accepted page passes its checks. -/
theorem windowReceipt_check (quote : isIdentifier providerQuoteId = true)
    (profile : Pod.isSha256 endpointProfileSha256 = true)
    (first : window.exclusiveBillingHourStarts.head? = some windowFrom)
    (last : window.exclusiveBillingHourStarts.getLast? = some lastHour)
    (closed : lastHour + hour ≤ s.readAt)
    (free : CollisionFree texts.toBillingTexts s.page window.endpointId)
    (accepted : authoritativeHourCosts texts.toBillingTexts s.page window.endpointId windowFrom
      (lastHour + hour) = .ok (some costs)) :
    (windowReceiptFields texts s window providerQuoteId endpointProfileSha256 windowFrom
      (lastHour + hour) costs).check = .ok () := by
  obtain ⟨attempt, endpoint, digest, ⟨required, starts, cover⟩, normalized, ceiling⟩ :=
    window.valid
  obtain ⟨hours, begins, reach⟩ := covering_window normalized starts cover first last
  obtain ⟨tiles, observed⟩ := accepted_costs hours window.safe free accepted
  obtain ⟨gpu, cpu, disk, fee, total, sums⟩ := hourCostTotals_amounts costs
  have stem : isIdentifier "runpod-serverless-ambiguous-billing:" = true := by decide +kernel
  have named : ∀ i,
      isIdentifier ("runpod-serverless-ambiguous-billing:" ++ texts.identity i) = true :=
    fun i => isIdentifier_append_sha256 stem (by decide +kernel) (texts.identity_hex i)
  have inside : shift lastHour hour = .ok (lastHour + hour) := by
    have lastDated := window.dated lastHour (List.mem_cons_of_mem _ (List.mem_cons_of_mem _
      (List.mem_of_mem_getLast? last)))
    refine astimezone_ok.mpr ⟨⟨?_, closed.trans s.dated.2⟩, rfl⟩
    exact lastDated.1.trans (Int.le_add_of_nonneg_right hour_pos.le)
  have listed : costs.map (fun item => item.utcHourStart) =
      window.exclusiveBillingHourStarts := by
    obtain ⟨_, _, contiguous⟩ := normalizedExclusiveHours_ok normalized
    cases hourly : window.exclusiveBillingHourStarts with
    | nil =>
        rw [hourly] at first
        cases first
    | cons head rest =>
        rw [hourly] at first last contiguous
        cases first
        have same := Tiles.starts_eq hour_pos tiles (tiles_of_contiguous contiguous last)
        rw [same]
        exact List.map_id _
  have some_ : costs ≠ [] := by
    rintro rfl
    exact (normalizedExclusiveHours_ok normalized).2.1 listed.symm
  have same : (hourCostTotals costs).sameAs (hourCostTotals costs) = true := by
    unfold HourAmounts.sameAs
    simp
  have loss := Decimal.coefficient_nonneg
    (loss_nonneg (hourCostTotals costs).actualCostUsd window.acceptedCostCeilingUsd)
  unfold WindowReceiptFields.check windowReceiptFields
  simp only [check_bind_ok, safeIdentifier, sha256Digest, refuse_ok]
  refine ⟨rfl, by simp [named], by simp [quote], by simp [endpoint], by simp [attempt],
    by simp [profile], by simp [digest],
    not_not.mpr ⟨begins, serverlessBillingHourStarts_life starts, reach, closed⟩, ?_⟩
  refine except_bind_ok.mpr ⟨required, starts, ?_⟩
  refine except_bind_ok.mpr ⟨_, normalized, ?_⟩
  simp only [check_bind_ok, refuse_ok, cover, first, last, Option.getD_some]
  refine ⟨by decide, not_not.mpr rfl, except_bind_ok.mpr ⟨_, inside, ?_⟩⟩
  simp only [check_bind_ok, refuse_ok, positiveDecimal, nonnegativeDecimal]
  exact ⟨not_not.mpr rfl, some_, observed, not_not.mpr listed, not_le.mpr ceiling,
    not_lt.mpr gpu, not_lt.mpr cpu, not_lt.mpr disk, not_lt.mpr fee, not_lt.mpr total,
    not_lt.mpr (capped_nonneg total ceiling), not_lt.mpr loss, not_not.mpr sums,
    by rw [same]; decide, not_not.mpr rfl, not_not.mpr rfl⟩

/-- The hours of a tiling lie in its window. -/
theorem tiles_dated {first last : Instant} {costs : List HourCost} (low : InCalendar first)
    (high : InCalendar last)
    (tiles : Tiles (fun cost : HourCost => cost.utcHourStart) (fun cost => cost.utcHourEnd) hour
      last first costs) :
    ∀ cost ∈ costs, InCalendar cost.utcHourStart ∧ InCalendar cost.utcHourEnd := by
  induction costs generalizing first with
  | nil => simp
  | cons cost rest ih =>
      obtain ⟨start, stop, onward⟩ := tiles
      dsimp only at start stop
      have later := Tiles.le hour_pos onward
      have next : InCalendar (first + hour) :=
        ⟨low.1.trans (Int.le_add_of_nonneg_right hour_pos.le), later.trans high.2⟩
      intro other member
      rcases List.mem_cons.mp member with rfl | member
      · rw [start, stop]
        exact ⟨low, next⟩
      · exact ih next onward other member

/-! ## Conservation -/

/-- The receipt of a window whose hours cost `costs`: it passes its own checks, splits what was
billed between the charge and the operator, and is stored without loss. -/
structure Conserves (texts : WindowTexts) (window : AmbiguousWindow) (costs : List HourCost)
    (receipt : WindowReceipt) : Prop where
  valid : receipt.toWindowReceiptFields.check = .ok ()
  split : receipt.cappedCostUsd.value + receipt.operatorLossUsd.value =
    receipt.actualCostUsd.value
  capped : receipt.cappedCostUsd.value ≤ window.acceptedCostCeilingUsd.value
  loss : 0 ≤ receipt.operatorLossUsd.value
  listed : receipt.endpointHourCosts = costs
  gpu : receipt.gpuCostUsd.value = (costs.map fun c => c.gpuCostUsd.value).sum
  cpu : receipt.cpuCostUsd.value = (costs.map fun c => c.cpuCostUsd.value).sum
  disk : receipt.diskCostUsd.value = (costs.map fun c => c.diskCostUsd.value).sum
  fee : receipt.feeCostUsd.value = (costs.map fun c => c.feeCostUsd.value).sum
  actual : receipt.actualCostUsd.value = (costs.map fun c => c.actualCostUsd.value).sum
  stored : ∃ back,
    WindowReceipt.fromDict texts (receipt.toWindowReceiptFields.toDict texts) = .ok back ∧
      back.sameAs receipt = true ∧
      back.toWindowReceiptFields.toDict texts = receipt.toWindowReceiptFields.toDict texts

/-- A page that is accepted for the closed hours of a window is settled, and conserved. -/
theorem boundBilling_conserves (quote : isIdentifier providerQuoteId = true)
    (profile : Pod.isSha256 endpointProfileSha256 = true)
    (first : window.exclusiveBillingHourStarts.head? = some windowFrom)
    (last : window.exclusiveBillingHourStarts.getLast? = some lastHour)
    (closed : lastHour + hour ≤ s.readAt)
    (free : CollisionFree texts.toBillingTexts s.page window.endpointId)
    (accepted : authoritativeHourCosts texts.toBillingTexts s.page window.endpointId windowFrom
      (lastHour + hour) = .ok (some costs)) :
    ∃ receipt, finalAmbiguousWindowBillingBound texts s window providerQuoteId
        endpointProfileSha256 = .ok (some receipt) ∧ Conserves texts window costs receipt := by
  have passed := windowReceipt_check quote profile first last closed free accepted
  obtain ⟨_, _, _, ⟨required, starts, cover⟩, normalized, _⟩ := window.valid
  obtain ⟨hours, begins, reach⟩ := covering_window normalized starts cover first last
  obtain ⟨tiles, _⟩ := accepted_costs hours window.safe free accepted
  obtain ⟨gpu, cpu, disk, fee, actual⟩ := hourCostTotals_values costs
  have firstDated := window.dated windowFrom (List.mem_cons_of_mem _ (List.mem_cons_of_mem _
    (List.mem_of_mem_head? first)))
  have lastDated : InCalendar (lastHour + hour) :=
    ⟨firstDated.1.trans hours.open_.le, closed.trans s.dated.2⟩
  have settled : finalAmbiguousWindowBillingBound texts s window providerQuoteId
      endpointProfileSha256 = .ok (some ⟨_, passed⟩) := by
    have inside : shift lastHour hour = .ok (lastHour + hour) := astimezone_ok.mpr ⟨lastDated, rfl⟩
    unfold finalAmbiguousWindowBillingBound
    rw [first, last]
    dsimp only
    rw [inside]
    show settleWindowPage texts s window providerQuoteId endpointProfileSha256 windowFrom
      (lastHour + hour) = _
    unfold settleWindowPage
    rw [if_neg (not_lt.mpr closed), accepted]
    show (WindowReceipt.build _ >>= fun receipt => pure (some receipt)) = _
    rw [WindowReceipt.build_of_check passed]
    rfl
  have dated : WindowReceipt.Dated ⟨_, passed⟩ := {
    hours := fun t member => window.dated t
      (List.mem_cons_of_mem _ (List.mem_cons_of_mem _ member))
    attempted := window.dated _ List.mem_cons_self
    coverage := window.dated _ (List.mem_cons_of_mem _ List.mem_cons_self)
    first := firstDated
    last := lastDated
    costs := tiles_dated firstDated lastDated tiles
    reconciled := s.dated }
  refine ⟨_, settled, {
    valid := passed
    split := ?_
    capped := ?_
    loss := loss_nonneg _ _
    listed := rfl
    gpu := gpu
    cpu := cpu
    disk := disk
    fee := fee
    actual := actual
    stored := ?_ }⟩
  · show (lesser _ _).value + (Decimal.exactSum [_, (lesser _ _).negated]).value = _
    rw [loss_value]
    exact add_sub_cancel _ _
  · show (lesser _ _).value ≤ _
    rw [lesser_value]
    exact min_le_right _ _
  · exact ⟨_, WindowReceipt.fromDict_toDict texts dated, WindowReceipt.plain_sameAs _,
      WindowReceipt.plain_toDict texts _⟩

end

/-- For every window that passes its quote validation, a page that the hourly reader accepts for
its closed hours is settled in a receipt that conserves the money, if no two observations of the
page have one digest.  The sums are exact in every context whose exponents admit the amounts,
whatever its precision. -/
theorem ambiguous_billing_conserves {d : Digests} (texts : WindowTexts) (s : WindowSettlement)
    (window : AmbiguousWindow) {windowFrom lastHour : Instant} {costs : List HourCost}
    (first : window.exclusiveBillingHourStarts.head? = some windowFrom)
    (last : window.exclusiveBillingHourStarts.getLast? = some lastHour)
    (closed : lastHour + hour ≤ s.readAt)
    (free : CollisionFree texts.toBillingTexts s.page window.endpointId)
    (accepted : authoritativeHourCosts texts.toBillingTexts s.page window.endpointId windowFrom
      (lastHour + hour) = .ok (some costs)) :
    (∀ quote : WindowQuote, window.validateQuote quote = .ok () →
      ∃ receipt, finalAmbiguousWindowBilling texts s window quote = .ok (some receipt) ∧
        Conserves texts window costs receipt) ∧
    (∀ (quote : CapacityQuote) (activation : ActivationReceipt d)
      (submission : ActivatedSubmission),
      window.validateActivatedSubmission quote activation submission = .ok () →
      ∃ receipt, finalActivatedAmbiguousWindowBilling texts s window quote activation submission =
          .ok (some receipt) ∧
        Conserves texts window costs receipt) ∧
    ∀ (c : DecimalContext) (items : List Decimal), c.Admits items →
      c.widenedSum items = some (Decimal.exactSum items).value := by
  refine ⟨?_, ?_, ?_⟩
  · intro quote passed
    have checked := quote.checked
    unfold WindowQuoteFields.check at checked
    obtain ⟨checked, _⟩ := check_bind_ok.mp checked
    have sound := ProfileQuote.sound ⟨quote.toProfileQuoteFields, checked⟩
    obtain ⟨receipt, settled, conserves⟩ :=
      boundBilling_conserves sound.providerQuoteId sound.profile first last closed free accepted
    refine ⟨receipt, ?_, conserves⟩
    unfold finalAmbiguousWindowBilling
    rw [passed]
    exact settled
  · intro quote activation submission passed
    have sound := quote.sound
    obtain ⟨receipt, settled, conserves⟩ :=
      boundBilling_conserves sound.providerQuoteId sound.profile first last closed free accepted
    refine ⟨receipt, ?_, conserves⟩
    unfold finalActivatedAmbiguousWindowBilling
    rw [passed]
    exact settled
  · intro c items admits
    rw [DecimalContext.widenedSum_eq admits, Decimal.exactSum_value]

/-! ### A sample window -/

namespace Sample

/-- The times of the first hour of 2024 as they are written, and any other as a number. -/
def windowIso (t : Instant) : String :=
  if t = seconds 1704067200 then "2024-01-01T00:00:00+00:00"
  else if t = seconds 1704070800 then "2024-01-01T01:00:00+00:00"
  else Decimal.fixed ⟨t, 0⟩

def windowTime (text : String) : ParsedTime :=
  if text = "2024-01-01T00:00:00+00:00" then .aware (seconds 1704067200)
  else if text = "2024-01-01T01:00:00+00:00" then .aware (seconds 1704070800)
  else
    match Decimal.ofNumeral text.toList with
    | some d => .aware d.coefficient
    | none => .invalid

theorem windowTime_iso (t : Instant) : windowTime (windowIso t) = .aware t := by
  have plainText : ∀ {text : String}, 'T' ∈ text.toList → Decimal.fixed ⟨t, 0⟩ ≠ text := by
    rintro text marked rfl
    rw [Decimal.fixed, String.toList_ofList] at marked
    rcases Decimal.fixedChars_chars _ _ marked with digit | point | sign
    · exact absurd digit (by decide)
    · exact absurd point (by decide)
    · exact absurd sign (by decide)
  unfold windowIso
  split
  · rename_i is
    rw [is]
    rfl
  · split
    · rename_i is
      rw [is]
      rfl
    · unfold windowTime
      rw [if_neg (plainText (by decide)), if_neg (plainText (by decide))]
      unfold Decimal.fixed
      rw [String.toList_ofList, Decimal.ofNumeral_fixedChars]
      simp [Decimal.plain, Decimal.scaledTo]

theorem windowIso_some (t : Instant) : windowIso t ≠ "" := by
  intro empty
  have read := windowTime_iso t
  rw [empty] at read
  have unread : windowTime "" = .invalid := by decide
  rw [unread] at read
  cases read

def windowTexts : WindowTexts where
  fromIsoFormat := windowTime
  observation _ := hex '0'
  observation_hex _ := by decide +kernel
  identity _ := hex '5'
  identity_hex _ := hex_five
  isoFormat := windowIso
  isoFormat_some := windowIso_some
  isoFormat_reads t _ := windowTime_iso t

/-- The hour is billed at three dollars, of which two were accepted. -/
def windowSettlement : WindowSettlement where
  readAt := seconds 1704074400
  page := pageOf [recordUpTo "2024-01-01T01:00:00+00:00"]
  dated := ⟨by decide, by decide⟩

def window2024 : AmbiguousWindow where
  attemptId := "attempt-1"
  endpointId := "endpoint-1"
  providerQuoteId := "quote-1"
  exclusiveWindowSha256 := hex 'c'
  exclusiveBillingHourStarts := [seconds 1704067200]
  attemptedAt := seconds 1704067210
  billableCoverageUntil := seconds 1704067510
  acceptedCostCeilingUsd := ⟨2, 0⟩
  dated := by
    intro t member
    simp only [List.mem_cons, List.not_mem_nil, or_false] at member
    rcases member with rfl | rfl | rfl
    · exact ⟨by decide, by decide⟩
    · exact ⟨by decide, by decide⟩
    · exact ⟨by decide, by decide⟩
  checked := by decide +kernel

def windowQuote : WindowQuote where
  toProfileQuoteFields := profileQuote.toProfileQuoteFields
  costCeilingUsd := ⟨2, 0⟩
  checked := by decide +kernel

def hourFields : HourCostFields where
  toHourAmounts := ⟨⟨2, 0⟩, ⟨0, 0⟩, ⟨1, 0⟩, ⟨0, 0⟩, ⟨3, 0⟩⟩
  providerObservationId := "runpod-serverless-hour:" ++ hex '0'
  endpointId := "endpoint-1"
  utcHourStart := seconds 1704067200
  utcHourEnd := seconds 1704070800

def hourCost : HourCost := ⟨hourFields, by decide +kernel⟩

end Sample

open Sample in
/-- The sample window is charged its ceiling of two dollars. -/
theorem ambiguous_billing_conserves_hour :
    ∃ receipt, finalAmbiguousWindowBilling windowTexts windowSettlement window2024 windowQuote =
        .ok (some receipt) ∧
      Conserves windowTexts window2024 [hourCost] receipt := by
  have free : CollisionFree windowTexts.toBillingTexts windowSettlement.page
      window2024.endpointId := by
    intro row listed row' listed' r r' read read' _
    rw [List.mem_singleton.mp listed] at read
    rw [List.mem_singleton.mp listed', read] at read'
    cases read'
    rfl
  have conserves := @ambiguous_billing_conserves digests windowTexts windowSettlement window2024
    (seconds 1704067200) (seconds 1704067200) [hourCost] rfl rfl (by decide) free
    (by decide +kernel)
  exact conserves.1 windowQuote (by decide +kernel)

end KestrelRunpod.Serverless
