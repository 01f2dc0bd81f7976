import KestrelRunpod.Serverless.Ambiguous

/-!
# Stored receipts

A receipt of an ambiguous window is stored with its amounts in full and its times in UTC, and is
read back equal: amounts keep their values, and their texts.
-/

namespace KestrelRunpod.Serverless

open Numeric Traverse

/-! ## Fields -/

theorem not_space_of_fixed {c : Char} (char : c.isDigit = true ∨ c = '.' ∨ c = '-') :
    Pod.isSpace c = false ∧ c ≠ '_' := by
  rcases char with digit | rfl | rfl
  · have range : 48 ≤ c.toNat ∧ c.toNat ≤ 57 := by
      simp only [Char.isDigit, Bool.and_eq_true, decide_eq_true_eq] at digit
      exact ⟨UInt32.le_iff_toNat_le.mp digit.1, UInt32.le_iff_toNat_le.mp digit.2⟩
    constructor
    · unfold Pod.isSpace
      simp only [Bool.or_eq_false_iff, Bool.and_eq_false_iff, decide_eq_false_iff_not]
      omega
    · rintro rfl
      exact absurd range.2 (by decide)
  · decide
  · decide

/-- The text of a decimal has nothing to be stripped. -/
theorem strip_fixed (d : Decimal) :
    (Pod.strip d.fixed).toList.filter (fun c => c ≠ '_') = Decimal.fixedChars d := by
  have chars : ∀ c ∈ Decimal.fixedChars d, Pod.isSpace c = false ∧ c ≠ '_' := fun c member =>
    not_space_of_fixed (Decimal.fixedChars_chars d c member)
  unfold Pod.strip Decimal.fixed
  rw [String.toList_ofList, String.toList_ofList]
  generalize Decimal.fixedChars d = text at chars
  have kept : ∀ {text : List Char}, (∀ c ∈ text, Pod.isSpace c = false ∧ c ≠ '_') →
      text.dropWhile Pod.isSpace = text := by
    intro text chars
    cases text with
    | nil => rfl
    | cons c rest => rw [List.dropWhile_cons_of_neg]; simp [(chars c List.mem_cons_self).1]
  rw [kept chars, kept fun c member => chars c (List.mem_reverse.mp member), List.reverse_reverse,
    List.filter_eq_self.mpr]
  intro c member
  exact decide_eq_true (chars c member).2

theorem requiredDecimal_fixed {fields : List (String × Json)} {key : String} {d : Decimal}
    (is : Json.get fields key = .str d.fixed) : requiredDecimal fields key = .ok d.plain := by
  unfold requiredDecimal
  rw [is]
  dsimp only
  rw [strip_fixed, Decimal.ofNumeral_fixedChars]

theorem requiredString_some {fields : List (String × Json)} {key text : String}
    (is : Json.get fields key = .str text) (some_ : text ≠ "") :
    requiredString fields key = .ok text := by
  unfold requiredString
  rw [is]
  exact if_neg some_

theorem isIdentifier_some {text : String} (safe : isIdentifier text = true) : text ≠ "" := by
  rintro rfl
  exact absurd safe (by decide)

theorem isSha256_some {text : String} (hex : Pod.isSha256 text = true) : text ≠ "" := by
  rintro rfl
  exact absurd hex (by decide)

variable (texts : WindowTexts) {fields : List (String × Json)} {key : String}

theorem parse_isoFormat {t : Instant} (dated : InCalendar t) :
    parseDatetime texts.toBillingTexts (texts.isoFormat t) = .ok t := by
  unfold parseDatetime
  rw [texts.isoFormat_reads t dated]
  exact astimezone_ok.mpr ⟨dated, rfl⟩

theorem requiredDatetime_iso {t : Instant} (dated : InCalendar t)
    (is : Json.get fields key = .str (texts.isoFormat t)) :
    requiredDatetime texts fields key = .ok t := by
  unfold requiredDatetime
  rw [requiredString_some is (texts.isoFormat_some t)]
  exact parse_isoFormat texts dated

/-- A traversal that reads back what a map has written. -/
theorem mapM_reads {α β γ : Type} (write : α → β) (read : β → Except Exn γ) (back : α → γ)
    {items : List α} (each : ∀ a ∈ items, read (write a) = .ok (back a)) :
    (items.map write).mapM read = .ok (items.map back) := by
  induction items with
  | nil => rfl
  | cons a rest ih =>
      have others := ih fun b member => each b (List.mem_cons_of_mem a member)
      rw [List.map_cons, mapM_cons_eq, each a List.mem_cons_self, others]
      rfl

theorem requiredDatetimes_iso {times : List Instant} (some_ : times ≠ [])
    (dated : ∀ t ∈ times, InCalendar t)
    (is : Json.get fields key = .arr (times.map fun t => .str (texts.isoFormat t))) :
    requiredDatetimes texts fields key = .ok times := by
  unfold requiredDatetimes
  rw [is]
  dsimp only
  rw [refuse_bind_ok]
  refine ⟨by simpa using some_, ?_⟩
  conv_rhs => rw [← List.map_id times]
  exact mapM_reads _ _ id fun t member => parse_isoFormat texts (dated t member)

/-! ## Hour costs -/

/-- The amounts as they read back. -/
def HourAmounts.plain (a : HourAmounts) : HourAmounts where
  gpuCostUsd := a.gpuCostUsd.plain
  cpuCostUsd := a.cpuCostUsd.plain
  diskCostUsd := a.diskCostUsd.plain
  feeCostUsd := a.feeCostUsd.plain
  actualCostUsd := a.actualCostUsd.plain

/-- An hour cost as it reads back. -/
def HourCostFields.plain (c : HourCostFields) : HourCostFields :=
  { c with toHourAmounts := c.toHourAmounts.plain }

theorem plain_coefficient {d : Decimal} : 0 ≤ d.plain.coefficient ↔ 0 ≤ d.coefficient := by
  have same := Decimal.plain_value d
  constructor
  · intro nonneg
    exact Decimal.coefficient_nonneg (same ▸ Decimal.nonneg_of_coefficient nonneg)
  · intro nonneg
    exact Decimal.coefficient_nonneg (same.symm ▸ Decimal.nonneg_of_coefficient nonneg)

theorem nonnegativeDecimal_plain {d : Decimal} {name : String} :
    nonnegativeDecimal d.plain name = nonnegativeDecimal d name := by
  unfold nonnegativeDecimal refuse
  have same : d.plain.coefficient < 0 ↔ d.coefficient < 0 :=
    not_le.symm.trans ((not_congr plain_coefficient).trans not_le)
  simp only [same]

/-- What reads back passes the checks that the original has passed. -/
theorem HourCostFields.check_plain (c : HourCostFields) : c.plain.check = c.check := by
  unfold HourCostFields.check HourCostFields.plain HourAmounts.plain
  simp only [nonnegativeDecimal_plain, Decimal.plain_value, Decimal.exactSum_value, List.map_cons,
    List.map_nil]

/-- An hour cost as it reads back. -/
def HourCost.plain (c : HourCost) : HourCost :=
  ⟨c.toHourCostFields.plain, (HourCostFields.check_plain _).trans c.checked⟩

theorem HourCost.identified (c : HourCost) :
    isIdentifier c.providerObservationId = true ∧ isIdentifier c.endpointId = true := by
  have passed := c.checked
  unfold HourCostFields.check safeIdentifier at passed
  obtain ⟨observation, passed⟩ := refuse_bind_ok.mp passed
  obtain ⟨endpoint, _⟩ := refuse_bind_ok.mp passed
  exact ⟨Bool.eq_true_of_not_eq_false observation, Bool.eq_true_of_not_eq_false endpoint⟩

theorem requiredAmounts_toDict {a : HourAmounts}
    (gpu : Json.get fields "gpu_cost_usd" = .str a.gpuCostUsd.fixed)
    (cpu : Json.get fields "cpu_cost_usd" = .str a.cpuCostUsd.fixed)
    (disk : Json.get fields "disk_cost_usd" = .str a.diskCostUsd.fixed)
    (fee : Json.get fields "fee_cost_usd" = .str a.feeCostUsd.fixed)
    (actual : Json.get fields "actual_cost_usd" = .str a.actualCostUsd.fixed) :
    requiredAmounts fields = .ok a.plain := by
  unfold requiredAmounts
  rw [requiredDecimal_fixed gpu, requiredDecimal_fixed cpu, requiredDecimal_fixed disk,
    requiredDecimal_fixed fee, requiredDecimal_fixed actual]
  rfl

/-- A stored hour cost reads back. -/
theorem HourCost.fromDict_toDict {c : HourCost} (start : InCalendar c.utcHourStart)
    (stop : InCalendar c.utcHourEnd) :
    HourCost.fromDict texts (c.toHourCostFields.toDict texts) = .ok c.plain := by
  obtain ⟨observation, endpoint⟩ := c.identified
  unfold HourCost.fromDict HourCostFields.toDict HourAmounts.toDict
  simp only [List.cons_append, List.nil_append]
  generalize written : [("provider_observation_id", Json.str c.providerObservationId),
    ("endpoint_id", .str c.endpointId), ("utc_hour_start", .str (texts.isoFormat c.utcHourStart)),
    ("utc_hour_end", .str (texts.isoFormat c.utcHourEnd)),
    ("gpu_cost_usd", .str c.gpuCostUsd.fixed), ("cpu_cost_usd", .str c.cpuCostUsd.fixed),
    ("disk_cost_usd", .str c.diskCostUsd.fixed), ("fee_cost_usd", .str c.feeCostUsd.fixed),
    ("actual_cost_usd", .str c.actualCostUsd.fixed)] = fields
  have keys : storedKeys fields ["provider_observation_id", "endpoint_id", "utc_hour_start",
      "utc_hour_end", "gpu_cost_usd", "cpu_cost_usd", "disk_cost_usd", "fee_cost_usd",
      "actual_cost_usd"] "Serverless endpoint-hour cost" = .ok () := by
    unfold storedKeys
    rw [refuse_ok, ← written]
    simp [Json.hasKeys]
  have amounts : requiredAmounts fields = .ok c.toHourAmounts.plain := by
    apply requiredAmounts_toDict <;> simp [← written, Json.get]
  rw [keys, requiredString_some (by simp [← written, Json.get]) (isIdentifier_some observation),
    requiredString_some (by simp [← written, Json.get]) (isIdentifier_some endpoint),
    requiredDatetime_iso texts start (by simp [← written, Json.get]),
    requiredDatetime_iso texts stop (by simp [← written, Json.get]), amounts]
  exact HourCost.build_of_check c.plain.checked

theorem requiredHourCosts_toDict {costs : List HourCost} (some_ : costs ≠ [])
    (dated : ∀ c ∈ costs, InCalendar c.utcHourStart ∧ InCalendar c.utcHourEnd)
    (is : Json.get fields key =
      .arr (costs.map fun c => .obj (c.toHourCostFields.toDict texts))) :
    requiredHourCosts texts fields key = .ok (costs.map HourCost.plain) := by
  unfold requiredHourCosts
  rw [is]
  dsimp only
  rw [refuse_bind_ok]
  refine ⟨by simpa using some_, ?_⟩
  exact mapM_reads _ _ HourCost.plain fun c member =>
    HourCost.fromDict_toDict texts (dated c member).1 (dated c member).2

/-! ## Receipts -/

/-- A receipt as it reads back. -/
def WindowReceiptFields.plain (r : WindowReceiptFields) : WindowReceiptFields :=
  { r with
    toHourAmounts := r.toHourAmounts.plain
    acceptedCostCeilingUsd := r.acceptedCostCeilingUsd.plain
    endpointHourCosts := r.endpointHourCosts.map HourCost.plain
    cappedCostUsd := r.cappedCostUsd.plain
    operatorLossUsd := r.operatorLossUsd.plain }

theorem observeHours_plain {endpointId : String} {observed : List String}
    {costs : List HourCost} :
    observeHours endpointId observed (costs.map HourCost.plain) =
      observeHours endpointId observed costs := by
  induction costs generalizing observed with
  | nil => rfl
  | cons c rest ih =>
      rw [List.map_cons]
      unfold observeHours
      rw [ih]
      rfl

theorem positiveDecimal_plain {d : Decimal} {name : String} :
    positiveDecimal d.plain name = positiveDecimal d name := by
  have positive : ∀ {d : Decimal}, d.coefficient ≤ 0 ↔ d.value ≤ 0 := by
    intro d
    have unit : (0 : ℚ) < 10 ^ d.exponent := zpow_pos (by norm_num) _
    constructor
    · intro le
      exact mul_nonpos_of_nonpos_of_nonneg (by exact_mod_cast le) unit.le
    · intro le
      by_contra above
      have coefficient : (0 : ℚ) < d.coefficient := by exact_mod_cast not_le.mp above
      exact absurd le (not_le.mpr (mul_pos coefficient unit))
  unfold positiveDecimal refuse
  have same : d.plain.coefficient ≤ 0 ↔ d.coefficient ≤ 0 := by
    rw [positive, positive, Decimal.plain_value]
  simp only [same]

theorem lesser_value (x y : Decimal) : (lesser x y).value = min x.value y.value := by
  unfold lesser
  split
  · rename_i less
    exact (min_eq_right less.le).symm
  · rename_i le
    exact (min_eq_left (not_lt.mp le)).symm

theorem hourCostTotals_values (costs : List HourCost) :
    (hourCostTotals costs).gpuCostUsd.value = (costs.map fun c => c.gpuCostUsd.value).sum ∧
      (hourCostTotals costs).cpuCostUsd.value = (costs.map fun c => c.cpuCostUsd.value).sum ∧
      (hourCostTotals costs).diskCostUsd.value = (costs.map fun c => c.diskCostUsd.value).sum ∧
      (hourCostTotals costs).feeCostUsd.value = (costs.map fun c => c.feeCostUsd.value).sum ∧
      (hourCostTotals costs).actualCostUsd.value =
        (costs.map fun c => c.actualCostUsd.value).sum := by
  have sums : ∀ f : HourCost → Decimal, (Decimal.exactSum (costs.map f)).value =
      (costs.map fun c => (f c).value).sum := by
    intro f
    rw [Decimal.exactSum_value, List.map_map]
    rfl
  exact ⟨sums _, sums _, sums _, sums _, sums _⟩

theorem sameAs_totals_plain {a : HourAmounts} {costs : List HourCost} :
    a.plain.sameAs (hourCostTotals (costs.map HourCost.plain)) =
      a.sameAs (hourCostTotals costs) := by
  obtain ⟨gpu, cpu, disk, fee, actual⟩ := hourCostTotals_values (costs.map HourCost.plain)
  obtain ⟨gpu', cpu', disk', fee', actual'⟩ := hourCostTotals_values costs
  have amounts : ∀ f : HourCost → ℚ, (∀ c : HourCost, f c.plain = f c) →
      ((costs.map HourCost.plain).map f).sum = (costs.map f).sum := by
    intro f same
    rw [List.map_map]
    congr 1
    exact List.map_congr_left fun c _ => same c
  rw [amounts _ fun c => Decimal.plain_value c.gpuCostUsd] at gpu
  rw [amounts _ fun c => Decimal.plain_value c.cpuCostUsd] at cpu
  rw [amounts _ fun c => Decimal.plain_value c.diskCostUsd] at disk
  rw [amounts _ fun c => Decimal.plain_value c.feeCostUsd] at fee
  rw [amounts _ fun c => Decimal.plain_value c.actualCostUsd] at actual
  unfold HourAmounts.sameAs HourAmounts.plain
  simp only [Decimal.plain_value, gpu, cpu, disk, fee, actual, gpu', cpu', disk', fee', actual']

/-- What reads back passes the checks that the original has passed. -/
theorem WindowReceiptFields.check_plain (r : WindowReceiptFields) :
    r.plain.check = r.check := by
  have starts : (r.endpointHourCosts.map HourCost.plain).map (fun item => item.utcHourStart) =
      r.endpointHourCosts.map fun item => item.utcHourStart := by
    rw [List.map_map]
    rfl
  unfold WindowReceiptFields.check WindowReceiptFields.plain
  dsimp only
  rw [starts, sameAs_totals_plain, observeHours_plain]
  unfold HourAmounts.plain
  simp only [nonnegativeDecimal_plain, positiveDecimal_plain, Decimal.plain_value,
    Decimal.exactSum_value, List.map_cons, List.map_nil, Decimal.negated_value, lesser_value,
    List.map_eq_nil_iff]

/-- A receipt as it reads back. -/
def WindowReceipt.plain (r : WindowReceipt) : WindowReceipt :=
  ⟨r.toWindowReceiptFields.plain, (WindowReceiptFields.check_plain _).trans r.checked⟩

/-- The times of a receipt are those that UTC can name. -/
structure WindowReceipt.Dated (r : WindowReceipt) : Prop where
  hours : ∀ t ∈ r.exclusiveBillingHourStarts, InCalendar t
  attempted : InCalendar r.attemptedAt
  coverage : InCalendar r.billableCoverageUntil
  first : InCalendar r.billingWindowFrom
  last : InCalendar r.billingWindowUntil
  costs : ∀ c ∈ r.endpointHourCosts, InCalendar c.utcHourStart ∧ InCalendar c.utcHourEnd
  reconciled : InCalendar r.reconciledAt

theorem WindowReceipt.build_of_check {fields : WindowReceiptFields}
    (passed : fields.check = .ok ()) : WindowReceipt.build fields = .ok ⟨fields, passed⟩ := by
  unfold WindowReceipt.build
  split
  · rfl
  · rename_i x failed
    rw [passed] at failed
    cases failed

/-- The texts and the lists of a receipt are not empty. -/
theorem WindowReceipt.present (r : WindowReceipt) :
    r.contractVersion ≠ "" ∧ r.providerBillingId ≠ "" ∧ r.providerQuoteId ≠ "" ∧
      r.endpointId ≠ "" ∧ r.attemptId ≠ "" ∧ r.endpointProfileSha256 ≠ "" ∧
      r.exclusiveWindowSha256 ≠ "" ∧ r.exclusiveBillingHourStarts ≠ [] ∧
      r.endpointHourCosts ≠ [] := by
  have passed := r.checked
  simp only [WindowReceiptFields.check, supported, check_bind_ok, safeIdentifier, sha256Digest,
    refuse_ok, Bool.not_eq_false] at passed
  obtain ⟨⟨_, version⟩, billing, quote, endpoint, attempt, profile, window, _, passed⟩ := passed
  obtain ⟨_, _, passed⟩ := except_bind_ok.mp passed
  obtain ⟨_, normalized, passed⟩ := except_bind_ok.mp passed
  simp only [check_bind_ok, refuse_ok] at passed
  obtain ⟨_, _, passed⟩ := passed
  obtain ⟨_, _, passed⟩ := except_bind_ok.mp passed
  simp only [check_bind_ok, refuse_ok] at passed
  obtain ⟨_, costs, _⟩ := passed
  refine ⟨?_, isIdentifier_some billing, isIdentifier_some quote, isIdentifier_some endpoint,
    isIdentifier_some attempt, isSha256_some profile, isSha256_some window,
    (normalizedExclusiveHours_ok normalized).2.1, costs⟩
  rw [not_not.mp version]
  decide

/-- A stored receipt reads back. -/
theorem WindowReceipt.fromDict_toDict {r : WindowReceipt} (dated : r.Dated) :
    WindowReceipt.fromDict texts (r.toWindowReceiptFields.toDict texts) = .ok r.plain := by
  obtain ⟨version, billing, quote, endpoint, attempt, profile, window, hours, costs⟩ := r.present
  unfold WindowReceipt.fromDict
  generalize written : r.toWindowReceiptFields.toDict texts = fields
  unfold WindowReceiptFields.toDict HourAmounts.toDict at written
  simp only [List.cons_append, List.nil_append] at written
  have keys : storedKeys fields ambiguousReceiptKeys "Serverless ambiguous billing receipt" =
      .ok () := by
    unfold storedKeys
    rw [refuse_ok, ← written]
    simp [Json.hasKeys, ambiguousReceiptKeys]
  have schema : requiredInt fields "schema_version" = .ok r.schemaVersion := by
    unfold requiredInt
    simp [← written, Json.get]
  have amounts : requiredAmounts fields = .ok r.toHourAmounts.plain := by
    apply requiredAmounts_toDict <;> simp [← written, Json.get]
  rw [keys, schema, requiredString_some (by simp [← written, Json.get]) version,
    requiredString_some (by simp [← written, Json.get]) billing,
    requiredString_some (by simp [← written, Json.get]) quote,
    requiredString_some (by simp [← written, Json.get]) profile,
    requiredString_some (by simp [← written, Json.get]) endpoint,
    requiredString_some (by simp [← written, Json.get]) attempt,
    requiredString_some (by simp [← written, Json.get]) window,
    requiredDatetimes_iso texts hours dated.hours (by simp [← written, Json.get]),
    requiredDatetime_iso texts dated.attempted (by simp [← written, Json.get]),
    requiredDatetime_iso texts dated.coverage (by simp [← written, Json.get]),
    requiredDatetime_iso texts dated.first (by simp [← written, Json.get]),
    requiredDatetime_iso texts dated.last (by simp [← written, Json.get]),
    requiredDecimal_fixed (d := r.acceptedCostCeilingUsd) (by simp [← written, Json.get]),
    requiredHourCosts_toDict texts costs dated.costs (by simp [← written, Json.get]), amounts,
    requiredDecimal_fixed (d := r.cappedCostUsd) (by simp [← written, Json.get]),
    requiredDecimal_fixed (d := r.operatorLossUsd) (by simp [← written, Json.get]),
    requiredDatetime_iso texts dated.reconciled (by simp [← written, Json.get])]
  exact WindowReceipt.build_of_check r.plain.checked

/-- What reads back is equal. -/
theorem WindowReceipt.plain_sameAs (r : WindowReceipt) : r.plain.sameAs r = true := by
  have amounts : ∀ a : HourAmounts, a.plain.sameAs a = true := by
    intro a
    unfold HourAmounts.sameAs HourAmounts.plain
    simp only [Decimal.plain_value, decide_true, Bool.and_self]
  have costs : ∀ costs : List HourCost,
      (costs.map HourCost.plain).isEqv costs HourCost.sameAs = true := by
    intro costs
    induction costs with
    | nil => rfl
    | cons c rest ih =>
        have first : c.plain.sameAs c = true := by
          unfold HourCost.sameAs HourCost.plain HourCostFields.plain
          simp [amounts]
        rw [List.map_cons, List.isEqv, first, ih]
        rfl
  unfold WindowReceipt.sameAs WindowReceipt.plain WindowReceiptFields.plain
  simp [amounts, costs, Decimal.plain_value]

/-- What reads back is stored as before. -/
theorem WindowReceipt.plain_toDict (r : WindowReceipt) :
    r.plain.toWindowReceiptFields.toDict texts = r.toWindowReceiptFields.toDict texts := by
  have amounts : ∀ a : HourAmounts, a.plain.toDict = a.toDict := by
    intro a
    unfold HourAmounts.toDict HourAmounts.plain
    simp only [Decimal.fixed_plain]
  have costs : (r.endpointHourCosts.map HourCost.plain).map
      (fun item => Json.obj (item.toHourCostFields.toDict texts)) =
      r.endpointHourCosts.map fun item => .obj (item.toHourCostFields.toDict texts) := by
    rw [List.map_map]
    refine List.map_congr_left fun c _ => ?_
    show Json.obj (c.plain.toHourCostFields.toDict texts) = _
    unfold HourCostFields.toDict HourCost.plain HourCostFields.plain
    dsimp only
    rw [amounts]
  unfold WindowReceiptFields.toDict WindowReceipt.plain WindowReceiptFields.plain
  dsimp only
  rw [amounts, costs, Decimal.fixed_plain, Decimal.fixed_plain, Decimal.fixed_plain]

end KestrelRunpod.Serverless
