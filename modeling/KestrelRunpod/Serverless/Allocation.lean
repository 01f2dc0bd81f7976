import KestrelRunpod.Numeric.Amounts
import KestrelRunpod.Serverless.Conservation
import KestrelRunpod.Serverless.Profiles

/-!
# Exclusive allocations

The hours that a quote may ever be billed for are one allocation: those from the catalog's
observation to the end of the longest coverage of a submission at the quote's expiry.  They are
few enough, and serve every attempt that the quote allows (`exclusive_allocation_fits`), as long
as the last of them ends inside the calendar.
-/

namespace KestrelRunpod.Serverless

open Numeric Tiling
open Traverse (except_bind_ok check_bind_ok)

/-! ## Covers -/

/-- The UTC hours that an interval touches. -/
def hourCover (startedAt coverageUntil : Instant) : List Instant :=
  (List.range ((hourEnd coverageUntil - hourStart startedAt) / hour).toNat).map fun (n : Nat) =>
    hourStart startedAt + (n : Int) * hour

/-- The end of the longest coverage that a quote allows. -/
def coverageEnd (terms : BillingTerms) (expiresAt : Instant) : Instant :=
  expiresAt + terms.maximumBillable * 1000000

/-- The hours that a quote may be billed for. -/
def allocation (terms : BillingTerms) (observedAt expiresAt : Instant) : List Instant :=
  hourCover observedAt (coverageEnd terms expiresAt)

/-- Hours that follow one another from `lo` to `hi`. -/
abbrev HoursTile (hi lo : Instant) (hours : List Instant) : Prop :=
  Tiles (fun t : Instant => t) (fun t => t + hour) hour hi lo hours

variable {startedAt coverageUntil lo hi lo' hi' t : Instant} {hours values required : List Instant}

theorem hours_tile (n : Nat) (first : Instant) :
    HoursTile (first + (n : Int) * hour) first
      ((List.range n).map fun (k : Nat) => first + (k : Int) * hour) := by
  induction n generalizing first with
  | zero =>
      show first = first + ((0 : Nat) : Int) * hour
      simp
  | succ n ih =>
      have next : (List.range n).map (fun (k : Nat) => first + ((k + 1 : Nat) : Int) * hour) =
          (List.range n).map fun (k : Nat) => first + hour + (k : Int) * hour := by
        refine List.map_congr_left fun k _ => ?_
        push_cast
        ring
      have stop : first + ((n + 1 : Nat) : Int) * hour = first + hour + (n : Int) * hour := by
        push_cast
        ring
      rw [List.range_succ_eq_map, List.map_cons, List.map_map, stop]
      refine ⟨by simp, by simp, ?_⟩
      have onward := ih (first + hour)
      rwa [← next] at onward

theorem hourCover_tiles (life : startedAt < coverageUntil) :
    HoursTile (hourEnd coverageUntil) (hourStart startedAt) (hourCover startedAt coverageUntil) := by
  have window := billingHourBounds_window life
  have whole : (hourEnd coverageUntil - hourStart startedAt) / hour * hour =
      hourEnd coverageUntil - hourStart startedAt :=
    Int.ediv_mul_cancel (whole_hours window.start window.stop)
  have nonneg : 0 ≤ (hourEnd coverageUntil - hourStart startedAt) / hour :=
    Int.ediv_nonneg (sub_nonneg.mpr window.open_.le) hour_pos.le
  have tiles := hours_tile ((hourEnd coverageUntil - hourStart startedAt) / hour).toNat
    (hourStart startedAt)
  rw [Int.toNat_of_nonneg nonneg, whole, add_sub_cancel] at tiles
  exact tiles

/-- The hours of a tiling are those of its window. -/
theorem HoursTile.mem_iff (tiles : HoursTile hi lo hours) : t ∈ hours ↔ Grid hour lo hi t := by
  have covers := Tiles.covers hour_pos tiles
  constructor
  · exact fun member => covers.inside t member
  · intro grid
    have once := covers.once t grid
    obtain ⟨s, member, is⟩ := List.countP_pos_iff.mp (once ▸ Nat.one_pos)
    rwa [← of_decide_eq_true is]

theorem HoursTile.ends (tiles : HoursTile hi lo hours) (open_ : lo < hi) :
    hours.head? = some lo ∧ hours.getLast? = some (hi - hour) := by
  induction hours generalizing lo with
  | nil =>
      have same : lo = hi := tiles
      exact absurd same open_.ne
  | cons first rest ih =>
      obtain ⟨start, _, onward⟩ := tiles
      dsimp only at start
      refine ⟨by rw [List.head?_cons, start], ?_⟩
      rcases (Tiles.le hour_pos onward).lt_or_eq with more | last
      · have last := (ih onward more).2
        cases rest with
        | nil => cases last
        | cons second rest => rwa [List.getLast?_cons_cons]
      · cases rest with
        | nil =>
            rw [List.getLast?_singleton, start, ← last, add_sub_cancel_right]
        | cons second rest =>
            have further := Tiles.le hour_pos onward.2.2
            have later := Int.lt_add_of_pos_right hi hour_pos
            rw [last] at further
            exact absurd further (not_le.mpr later)

/-- Whole hours inside the calendar are contiguous. -/
theorem HoursTile.contiguous {previous : Option Instant} (tiles : HoursTile hi lo hours)
    (aligned : lo % hour = 0) (low : InCalendar lo) (high : InCalendar hi)
    (follows : ∀ p ∈ previous, p + hour = lo) : contiguousHours previous hours = .ok () := by
  induction hours generalizing lo previous with
  | nil => cases previous <;> rfl
  | cons first rest ih =>
      obtain ⟨start, _, onward⟩ := tiles
      dsimp only at start
      have later := Tiles.le hour_pos onward
      have next : InCalendar (lo + hour) :=
        ⟨low.1.trans (Int.le_add_of_nonneg_right hour_pos.le), later.trans high.2⟩
      have others := @ih (lo + hour) (some first) onward (next_aligned aligned) next
        fun p is => by rw [← Option.mem_some.mp is, start]
      unfold contiguousHours
      rw [refuse_bind_ok, check_bind_ok]
      refine ⟨not_not.mpr (start ▸ aligned), ?_, others⟩
      cases previous with
      | none => rfl
      | some p =>
          have is := follows p rfl
          refine except_bind_ok.mpr ⟨lo, astimezone_ok.mpr ⟨is ▸ low, is.symm⟩, ?_⟩
          rw [refuse_ok, start]
          exact not_not.mpr rfl

theorem hourCover_length (life : startedAt < coverageUntil)
    (short : coverageUntil - startedAt ≤ 608700 * 1000000) :
    (hourCover startedAt coverageUntil).length ≤ maxExclusiveBillingHours := by
  have begins : startedAt - hour < hourStart startedAt := by
    have part := Int.emod_lt_of_pos startedAt hour_pos
    unfold hourStart
    exact sub_lt_sub_left part startedAt
  have reach : hourEnd coverageUntil < coverageUntil + hour := by
    unfold hourEnd
    split
    · exact Int.lt_add_of_pos_right _ hour_pos
    · rename_i part
      have below := lt_of_le_of_ne (hourStart_le coverageUntil) (Ne.symm part)
      exact Int.add_lt_add_right below hour
  have span : hourEnd coverageUntil - hourStart startedAt < 172 * hour := by
    unfold hour seconds at *
    unfold Instant at *
    omega
  have bound : (hourEnd coverageUntil - hourStart startedAt) / hour < 172 :=
    Int.ediv_lt_of_lt_mul hour_pos span
  unfold hourCover maxExclusiveBillingHours
  rw [List.length_map, List.length_range]
  exact Int.toNat_le.mpr (Int.le_of_lt_add_one bound)

/-- The hour starts of a billable interval are its cover. -/
theorem serverlessBillingHourStarts_ok :
    serverlessBillingHourStarts startedAt coverageUntil = .ok required ↔
      startedAt < coverageUntil ∧ InCalendar (hourEnd coverageUntil) ∧
        (Number.finite maxBillableCoverageSeconds).lt
          (totalSeconds (coverageUntil - startedAt)) = false ∧
        required = hourCover startedAt coverageUntil := by
  unfold serverlessBillingHourStarts billingHourBounds
  constructor
  · intro ok
    obtain ⟨window, bounds, ok⟩ := except_bind_ok.mp ok
    obtain ⟨windowUntil, inside, ok⟩ := except_bind_ok.mp ok
    obtain ⟨short, ok⟩ := refuse_bind_ok.mp ok
    split at bounds
    · cases bounds
    · rename_i life
      cases bounds
      obtain ⟨dated, is⟩ := astimezone_ok.mp inside
      cases ok
      exact ⟨not_le.mp life, dated, Bool.eq_false_of_not_eq_true short, by rw [is]; rfl⟩
  · rintro ⟨life, dated, short, rfl⟩
    rw [if_neg (not_le.mpr life)]
    refine except_bind_ok.mpr ⟨_, rfl, except_bind_ok.mpr ⟨_, astimezone_ok.mpr ⟨dated, rfl⟩, ?_⟩⟩
    refine refuse_bind_ok.mpr ⟨?_, rfl⟩
    rw [short]
    decide

/-- A time of at most so many seconds is not measured as more. -/
theorem not_exceeds {micros : Int} {bound : Nat} (nonneg : 0 ≤ micros) (small : bound < 2 ^ 53)
    (within : micros ≤ bound * 1000000) :
    (Number.finite (bound : ℚ)).lt (totalSeconds micros) = false := by
  have below : (micros : ℚ) / 1000000 ≤ bound := by
    rw [div_le_iff₀ (by norm_num)]
    exact_mod_cast within
  have le := binary64_le (div_nonneg (by exact_mod_cast nonneg) (by norm_num)) below
  have whole : binary64 (bound : ℚ) = .finite bound := by
    refine binary64_finite.mpr ⟨double_int small, ?_⟩
    rw [double_int small, abs_of_nonneg (Nat.cast_nonneg bound)]
    have size : (bound : ℚ) < 2 ^ 53 := by exact_mod_cast small
    exact size.trans_le (pow_le_pow_right₀ (by norm_num) (by norm_num))
  rw [whole] at le
  unfold totalSeconds
  cases measured : binary64 ((micros : ℚ) / 1000000) with
  | finite x =>
      rw [measured] at le
      exact decide_eq_false (not_lt.mpr (of_decide_eq_true le))
  | infinite negative =>
      rw [measured] at le
      cases negative with
      | true => rfl
      | false => cases le
  | nan => rfl

/-! ## The coverage check -/

/-- Of two lists of contiguous hours, the one passes for covering the other when its window
does. -/
theorem orderedHoursCover_iff (some_ : HoursTile hi lo values) (open_ : lo < hi)
    (other : HoursTile hi' lo' required) (open' : lo' < hi') :
    orderedHoursCover values required = true ↔ lo ≤ lo' ∧ hi' ≤ hi := by
  obtain ⟨first, last⟩ := some_.ends open_
  obtain ⟨first', last'⟩ := other.ends open'
  unfold orderedHoursCover
  rw [first, last, first', last']
  simp only [Bool.and_eq_true, decide_eq_true_eq]
  exact and_congr_right fun _ => sub_le_sub_iff_right hour

/-- What is normalized tiles the window from its first hour to the end of its last. -/
theorem normalized_tiles (normalized : normalizedExclusiveHours values = .ok values) :
    ∃ lo hi, HoursTile hi lo values ∧ lo < hi ∧ lo % hour = 0 := by
  obtain ⟨_, some_, contiguous⟩ := normalizedExclusiveHours_ok normalized
  obtain ⟨last, ends⟩ : ∃ last, values.getLast? = some last :=
    ⟨_, List.getLast?_eq_some_getLast some_⟩
  cases values with
  | nil => exact absurd rfl some_
  | cons first rest =>
      obtain ⟨aligned, _, le⟩ := contiguousHours_ends contiguous ends
      exact ⟨first, last + hour, tiles_of_contiguous contiguous ends,
        le.trans_lt (Int.lt_add_of_pos_right _ hour_pos), aligned⟩

/-- An allocation that the normalizer accepts passes the coverage check exactly when it contains
every required hour. -/
theorem coverage_check_iff (normalized : normalizedExclusiveHours values = .ok values)
    (starts : serverlessBillingHourStarts startedAt coverageUntil = .ok required) :
    orderedHoursCover values required = true ↔ ∀ h ∈ required, h ∈ values := by
  obtain ⟨lo, hi, tiles, open_, aligned⟩ := normalized_tiles normalized
  obtain ⟨life, _, _, rfl⟩ := serverlessBillingHourStarts_ok.mp starts
  have window := billingHourBounds_window life
  have cover := hourCover_tiles life
  rw [orderedHoursCover_iff tiles open_ cover window.open_]
  constructor
  · rintro ⟨earlier, later⟩ h member
    obtain ⟨begins, ends, apart⟩ := cover.mem_iff.mp member
    have wholeStart : hour ∣ hourStart startedAt - lo := whole_hours aligned window.start
    refine tiles.mem_iff.mpr ⟨earlier.trans begins, ends.trans_le later, ?_⟩
    have split : h - lo = (h - hourStart startedAt) + (hourStart startedAt - lo) := by ring
    rw [split]
    exact Int.dvd_add apart wholeStart
  · intro each
    obtain ⟨first, last⟩ := cover.ends window.open_
    obtain ⟨begins, _, _⟩ := tiles.mem_iff.mp (each _ (List.mem_of_mem_head? first))
    obtain ⟨low, ends, apart⟩ := tiles.mem_iff.mp (each _ (List.mem_of_mem_getLast? last))
    have whole := Tiles.dvd tiles
    refine ⟨begins, ?_⟩
    -- the last required hour starts a whole step before the end
    have onward : hour ∣ hi - (hourEnd coverageUntil - hour) := by
      have split : hi - (hourEnd coverageUntil - hour) =
          (hi - lo) - (hourEnd coverageUntil - hour - lo) := by ring
      rw [split]
      exact Int.dvd_sub whole apart
    have step := step_le hour_pos ends onward
    rwa [sub_add_cancel] at step

/-! ## Legal attempts -/

/-- A submission inside the quote's interval, and a completion within the accepted maximum. -/
structure Legal (terms : BillingTerms) (observedAt expiresAt submittedAt completedAt : Instant) :
    Prop where
  opens : observedAt ≤ submittedAt
  closes : submittedAt < expiresAt
  life : submittedAt < completedAt
  within : completedAt - submittedAt ≤ terms.maximumElapsed * 1000000

variable {terms : BillingTerms} {endpointProfileSha256 : String}
  {observedAt expiresAt submittedAt completedAt : Instant}

theorem hourEnd_mono {s t : Instant} (le : s ≤ t) : hourEnd s ≤ hourEnd t := by
  unfold hourEnd hourStart hour seconds
  unfold Instant at *
  split <;> split <;> omega

theorem hourStart_dated (dated : InCalendar t) : InCalendar (hourStart t) := by
  have first : hourStart calendarMin = calendarMin := by decide
  exact ⟨first ▸ hourStart_mono dated.1, (hourStart_le t).trans dated.2⟩

/-- The accepted maximum, in seconds. -/
theorem QuoteIssued.billable_bounds (issued : QuoteIssued terms observedAt expiresAt) :
    0 < terms.maximumElapsed ∧ 0 < terms.maximumBillable ∧ terms.maximumBillable ≤ 608400 := by
  obtain ⟨_, _, queue, start, execution, lifespan, idle, tail⟩ := issued
  unfold BillingTerms.maximumBillable
  unfold BillingTerms.maximumElapsed at lifespan ⊢
  omega

/-- What a quote may be billed for is a span of less than one hundred and seventy hours. -/
theorem QuoteIssued.span (issued : QuoteIssued terms observedAt expiresAt) :
    observedAt < coverageEnd terms expiresAt ∧
      coverageEnd terms expiresAt - observedAt ≤ 608700 * 1000000 := by
  obtain ⟨_, positive, bound⟩ := issued.billable_bounds
  have opens := issued.opens
  have ttl := issued.ttl
  unfold coverageEnd
  unfold Instant at *
  omega

theorem QuoteIssued.normalized (issued : QuoteIssued terms observedAt expiresAt)
    (dated : InCalendar observedAt)
    (room : InCalendar (hourEnd (coverageEnd terms expiresAt))) :
    normalizedExclusiveHours (allocation terms observedAt expiresAt) =
      .ok (allocation terms observedAt expiresAt) := by
  obtain ⟨life, short⟩ := issued.span
  have window := billingHourBounds_window life
  have tiles := hourCover_tiles life
  have contiguous := tiles.contiguous window.start (hourStart_dated dated) room
    (fun p (none : p ∈ Option.none) => nomatch none)
  have few := hourCover_length life short
  have first := (tiles.ends window.open_).1
  unfold normalizedExclusiveHours allocation
  rw [refuse_bind_ok, refuse_bind_ok, check_bind_ok]
  refine ⟨?_, not_lt.mpr few, contiguous, rfl⟩
  intro nil
  rw [nil] at first
  cases first

/-- Every coverage that starts inside the quote's interval and is no longer than the maximum has
its hours in the allocation. -/
theorem QuoteIssued.covers (issued : QuoteIssued terms observedAt expiresAt)
    (dated : InCalendar observedAt)
    (room : InCalendar (hourEnd (coverageEnd terms expiresAt)))
    (opens : observedAt ≤ startedAt) (closes : startedAt < expiresAt)
    (life : startedAt < coverageUntil)
    (within : coverageUntil - startedAt ≤ terms.maximumBillable * 1000000) :
    InCalendar coverageUntil ∧
      serverlessBillingHourStarts startedAt coverageUntil =
        .ok (hourCover startedAt coverageUntil) ∧
      orderedHoursCover (allocation terms observedAt expiresAt)
        (hourCover startedAt coverageUntil) = true := by
  obtain ⟨_, _, bound⟩ := issued.billable_bounds
  have inside : coverageUntil ≤ coverageEnd terms expiresAt := by
    unfold coverageEnd
    unfold Instant at *
    omega
  have later := hourEnd_mono inside
  have reach := le_hourEnd coverageUntil
  have low : calendarMin ≤ coverageUntil := dated.1.trans (opens.trans life.le)
  have ends : InCalendar (hourEnd coverageUntil) := ⟨low.trans reach, later.trans room.2⟩
  have measured : (Number.finite maxBillableCoverageSeconds).lt
      (totalSeconds (coverageUntil - startedAt)) = false := by
    have short : coverageUntil - startedAt ≤ ((608400 : Nat) : Int) * 1000000 := by
      unfold Instant at *
      omega
    exact not_exceeds (sub_nonneg.mpr life.le) (by decide) short
  refine ⟨⟨low, reach.trans ends.2⟩,
    serverlessBillingHourStarts_ok.mpr ⟨life, ends, measured, rfl⟩, ?_⟩
  exact (orderedHoursCover_iff (hourCover_tiles issued.span.1)
    (billingHourBounds_window issued.span.1).open_ (hourCover_tiles life)
    (billingHourBounds_window life).open_).mpr ⟨hourStart_mono opens, later⟩

/-- The billing coverage of a legal attempt. -/
theorem QuoteIssued.attempt (issued : QuoteIssued terms observedAt expiresAt)
    (dated : InCalendar observedAt)
    (room : InCalendar (hourEnd (coverageEnd terms expiresAt)))
    (legal : Legal terms observedAt expiresAt submittedAt completedAt) :
    InCalendar (completedAt + terms.idleTailSeconds * 1000000) ∧
      serverlessBillingHourStarts submittedAt (completedAt + terms.idleTailSeconds * 1000000) =
        .ok (hourCover submittedAt (completedAt + terms.idleTailSeconds * 1000000)) ∧
      orderedHoursCover (allocation terms observedAt expiresAt)
        (hourCover submittedAt (completedAt + terms.idleTailSeconds * 1000000)) = true := by
  have tail := issued.idleTail
  have life := legal.life
  have within := legal.within
  refine issued.covers dated room legal.opens legal.closes ?_ ?_
  · unfold Instant at *
    omega
  · unfold BillingTerms.maximumBillable
    unfold Instant at *
    omega

/-- A legal attempt does not exceed its quote. -/
theorem QuoteIssued.not_exceeds (issued : QuoteIssued terms observedAt expiresAt)
    {attempt : BillingAttempt}
    (legal : Legal terms observedAt expiresAt attempt.submittedAt attempt.completedAt) :
    attempt.exceeds terms = false := by
  obtain ⟨positive, _, _⟩ := issued.billable_bounds
  have lifespan := issued.lifespan
  obtain ⟨seconds, is⟩ := Int.eq_ofNat_of_zero_le positive.le
  have within := legal.within
  unfold BillingAttempt.exceeds
  rw [is] at within lifespan ⊢
  exact Serverless.not_exceeds (sub_nonneg.mpr legal.life.le) (by omega) within

theorem QuoteIssued.covered (issued : QuoteIssued terms observedAt expiresAt)
    (dated : InCalendar observedAt)
    (room : InCalendar (hourEnd (coverageEnd terms expiresAt))) {attempt : BillingAttempt}
    (given : attempt.exclusiveBillingHourStarts = allocation terms observedAt expiresAt)
    (legal : Legal terms observedAt expiresAt attempt.submittedAt attempt.completedAt) :
    Covered attempt terms (attempt.completedAt + terms.idleTailSeconds * 1000000) := by
  obtain ⟨inside, starts, cover⟩ := issued.attempt dated room legal
  exact ⟨astimezone_ok.mpr ⟨inside, rfl⟩, _, starts, given ▸ cover⟩

/-! ## One allocation -/

/-- The allocation is contiguous and few enough, the hours of every legal attempt are found and
covered by it, a window of it is accepted, and so is the receipt of each. -/
structure Fits (terms : BillingTerms) (endpointProfileSha256 : String)
    (observedAt expiresAt : Instant) (hours : List Instant) : Prop where
  normalized : normalizedExclusiveHours hours = .ok hours
  few : hours.length ≤ maxExclusiveBillingHours
  starts : ∀ submittedAt completedAt, Legal terms observedAt expiresAt submittedAt completedAt →
    ∃ required, serverlessBillingHourStarts submittedAt
        (completedAt + terms.idleTailSeconds * 1000000) = .ok required ∧
      orderedHoursCover hours required = true
  window : ∀ w : WindowFields, w.exclusiveBillingHourStarts = hours →
    observedAt ≤ w.attemptedAt → w.attemptedAt < expiresAt →
    w.billableCoverageUntil = w.attemptedAt + terms.maximumBillable * 1000000 →
    isIdentifier w.attemptId = true → isIdentifier w.endpointId = true →
    isIdentifier w.providerQuoteId = true → Pod.isSha256 w.exclusiveWindowSha256 = true →
    0 < w.acceptedCostCeilingUsd.coefficient → w.check = .ok ()
  jobReceipt : ∀ (texts : JobBillingTexts) (s : Settlement) (attempt : BillingAttempt)
    (costs : List HourCost) (first last : Instant), attempt.exclusiveBillingHourStarts = hours →
    Legal terms observedAt expiresAt attempt.submittedAt attempt.completedAt →
    hours.head? = some first → hours.getLast? = some last → last + hour ≤ s.readAt →
    (∀ ms, s.job.delayTimeMs = some ms → 0 ≤ ms) →
    (∀ ms, s.job.executionTimeMs = some ms → 0 ≤ ms) →
    (receiptFields texts s attempt terms endpointProfileSha256
      (attempt.completedAt + terms.idleTailSeconds * 1000000) first (last + hour)
      costs).checkRecord = .ok ()
  windowReceipt : ∀ (texts : WindowTexts) (s : WindowSettlement) (window : AmbiguousWindow)
    (costs : List HourCost) (first last : Instant), window.exclusiveBillingHourStarts = hours →
    hours.head? = some first → hours.getLast? = some last → last + hour ≤ s.readAt →
    CollisionFree texts.toBillingTexts s.page window.endpointId →
    authoritativeHourCosts texts.toBillingTexts s.page window.endpointId first (last + hour) =
      .ok (some costs) →
    (windowReceiptFields texts s window terms.providerQuoteId endpointProfileSha256 first
      (last + hour) costs).check = .ok ()

theorem QuoteIssued.fits (issued : QuoteIssued terms observedAt expiresAt)
    (sound : SoundTerms terms endpointProfileSha256) (dated : InCalendar observedAt)
    (room : InCalendar (hourEnd (coverageEnd terms expiresAt))) :
    Fits terms endpointProfileSha256 observedAt expiresAt
      (allocation terms observedAt expiresAt) where
  normalized := issued.normalized dated room
  few := hourCover_length issued.span.1 issued.span.2
  starts submittedAt completedAt legal := ⟨_, (issued.attempt dated room legal).2⟩
  window := by
    intro w given opens closes coverage attempt endpoint quote digest ceiling
    obtain ⟨_, positive, _⟩ := issued.billable_bounds
    have life : w.attemptedAt < w.billableCoverageUntil := by
      rw [coverage]
      exact Int.lt_add_of_pos_right _ (by omega)
    have length : w.billableCoverageUntil - w.attemptedAt ≤ terms.maximumBillable * 1000000 := by
      rw [coverage]
      exact (add_sub_cancel_left w.attemptedAt _).le
    obtain ⟨_, starts, cover⟩ := issued.covers dated room opens closes life length
    have normalized := issued.normalized dated room
    rw [← given] at cover normalized
    unfold WindowFields.check
    simp only [check_bind_ok, safeIdentifier, sha256Digest, refuse_ok]
    refine ⟨by simp [attempt], by simp [endpoint], by simp [quote], by simp [digest],
      except_bind_ok.mpr ⟨_, starts, except_bind_ok.mpr ⟨_, normalized, ?_⟩⟩⟩
    rw [refuse_bind_ok, cover]
    exact ⟨by decide, refuse_ok.mpr (not_le.mpr ceiling)⟩
  jobReceipt := by
    intro texts s attempt costs first last given legal begins ends closed delay execution
    have covered := issued.covered dated room given legal
    rw [← given] at begins ends
    obtain ⟨window, _, _⟩ := covered.window begins ends
    have low : InCalendar (last + hour) := by
      rw [given] at ends
      have tile := ((hourCover_tiles issued.span.1).ends
        (billingHourBounds_window issued.span.1).open_).2
      rw [allocation, tile] at ends
      cases ends
      rwa [sub_add_cancel]
    exact checkRecord_ok sound covered begins ends (astimezone_ok.mpr ⟨low, rfl⟩) closed delay
      execution
  windowReceipt := by
    intro texts s window costs first last given begins ends closed free accepted
    rw [← given] at begins ends
    exact windowReceipt_check sound.providerQuoteId sound.profile begins ends closed free accepted

/-- A window quote, as the job's billing reads it. -/
def WindowQuote.toProfileQuote (quote : WindowQuote) : ProfileQuote :=
  ⟨quote.toProfileQuoteFields, (check_bind_ok.mp quote.checked).1⟩

/-- A legal attempt with the allocation passes the quote's validation. -/
theorem QuoteIssued.validateQuote {quote : ProfileQuote}
    (issued : QuoteIssued quote.toBillingTerms quote.catalogObservedAt quote.expiresAt)
    (dated : InCalendar quote.catalogObservedAt)
    (room : InCalendar (hourEnd (coverageEnd quote.toBillingTerms quote.expiresAt)))
    {attempt : BillingAttempt} (endpoint : attempt.endpointId = quote.endpointId)
    (id : attempt.providerQuoteId = quote.providerQuoteId)
    (given : attempt.exclusiveBillingHourStarts =
      allocation quote.toBillingTerms quote.catalogObservedAt quote.expiresAt)
    (legal : Legal quote.toBillingTerms quote.catalogObservedAt quote.expiresAt
      attempt.submittedAt attempt.completedAt) :
    attempt.validateQuote quote = .ok () := by
  obtain ⟨coverage, required, starts, cover⟩ := issued.covered dated room given legal
  unfold BillingAttempt.validateQuote
  simp only [check_bind_ok, refuse_ok]
  refine ⟨not_not.mpr endpoint, not_not.mpr id, not_not.mpr ⟨legal.opens, legal.closes⟩, ?_,
    except_bind_ok.mpr ⟨_, coverage, except_bind_ok.mpr ⟨_, starts, ?_⟩⟩⟩
  · rw [issued.not_exceeds legal]
    decide
  · rw [refuse_ok, cover]
    decide

/-- A legal attempt with the allocation passes the validation of an activated submission. -/
theorem QuoteIssued.bindActivated {d : Digests} {quote : CapacityQuote}
    (issued : QuoteIssued quote.terms quote.catalogObservedAt quote.expiresAt)
    (dated : InCalendar quote.catalogObservedAt)
    (room : InCalendar (hourEnd (coverageEnd quote.terms quote.expiresAt)))
    {attempt : BillingAttempt} {activation : ActivationReceipt d}
    {submission : ActivatedSubmission} (valid : submission.validate quote activation = .ok ())
    (endpoint : attempt.endpointId = activation.endpointId)
    (id : attempt.providerQuoteId = quote.providerQuoteId)
    (window : attempt.exclusiveWindowSha256 = submission.exclusiveWindowSha256)
    (authorized : submission.authorizedAt ≤ attempt.submittedAt)
    (given : attempt.exclusiveBillingHourStarts =
      allocation quote.terms quote.catalogObservedAt quote.expiresAt)
    (legal : Legal quote.terms quote.catalogObservedAt quote.expiresAt attempt.submittedAt
      attempt.completedAt) :
    Serverless.bindActivated attempt quote activation submission = .ok () := by
  obtain ⟨coverage, required, starts, cover⟩ := issued.covered dated room given legal
  have expires : submission.expiresAt = quote.expiresAt := by
    unfold ActivatedSubmission.validate at valid
    obtain ⟨_, valid⟩ := check_bind_ok.mp valid
    have same := refuse_ok.mp valid
    simp only [not_or, not_not] at same
    exact same.2.2.2.2.2.2.2.2
  unfold Serverless.bindActivated
  simp only [check_bind_ok, refuse_ok]
  refine ⟨valid, ?_, not_not.mpr ⟨authorized, expires ▸ legal.closes⟩, ?_,
    except_bind_ok.mpr ⟨_, coverage, except_bind_ok.mpr ⟨_, starts, ?_⟩⟩⟩
  · simp [endpoint, id, window]
  · rw [issued.not_exceeds legal]
    decide
  · rw [refuse_ok, cover]
    decide

/-- For every quote that the provider issues, if the hours it may be billed for end inside the
calendar, they are one allocation that serves every legal attempt: it is contiguous and few
enough, and it is accepted by the validation of the attempt, by an ambiguous window and by both
receipts.  An allocation passes the coverage check exactly when it contains every required
hour. -/
theorem exclusive_allocation_fits (d : Digests) (profiles : ProfileDigests) :
    (∀ (request : ProfileRequest) (offers : List Catalog.GPUOffer) (observedAt : Instant)
      (quote : WindowQuote), observeQuote profiles request offers observedAt = .ok quote →
      InCalendar observedAt →
      InCalendar (hourEnd (coverageEnd quote.toBillingTerms quote.expiresAt)) →
      Fits quote.toBillingTerms quote.endpointProfileSha256 quote.catalogObservedAt
        quote.expiresAt
        (allocation quote.toBillingTerms quote.catalogObservedAt quote.expiresAt) ∧
      ∀ attempt : BillingAttempt, attempt.endpointId = quote.endpointId →
        attempt.providerQuoteId = quote.providerQuoteId →
        attempt.exclusiveBillingHourStarts =
          allocation quote.toBillingTerms quote.catalogObservedAt quote.expiresAt →
        Legal quote.toBillingTerms quote.catalogObservedAt quote.expiresAt attempt.submittedAt
          attempt.completedAt →
        attempt.validateQuote quote.toProfileQuote = .ok ()) ∧
    (∀ (request : QuoteRequest) (offers : List Catalog.GPUOffer) (observedAt : Instant)
      (quote : CapacityQuote), currentQuote (d := d) request offers observedAt = .ok quote →
      InCalendar observedAt → InCalendar (hourEnd (coverageEnd quote.terms quote.expiresAt)) →
      Fits quote.terms quote.endpointSpecSha256 quote.catalogObservedAt quote.expiresAt
        (allocation quote.terms quote.catalogObservedAt quote.expiresAt) ∧
      ∀ (attempt : BillingAttempt) (activation : ActivationReceipt d)
        (submission : ActivatedSubmission), submission.validate quote activation = .ok () →
        attempt.endpointId = activation.endpointId →
        attempt.providerQuoteId = quote.providerQuoteId →
        attempt.exclusiveWindowSha256 = submission.exclusiveWindowSha256 →
        submission.authorizedAt ≤ attempt.submittedAt →
        attempt.exclusiveBillingHourStarts =
          allocation quote.terms quote.catalogObservedAt quote.expiresAt →
        Legal quote.terms quote.catalogObservedAt quote.expiresAt attempt.submittedAt
          attempt.completedAt →
        bindActivated attempt quote activation submission = .ok ()) ∧
    ∀ (values required : List Instant) (startedAt coverageUntil : Instant),
      normalizedExclusiveHours values = .ok values →
      serverlessBillingHourStarts startedAt coverageUntil = .ok required →
      (orderedHoursCover values required = true ↔ ∀ h ∈ required, h ∈ values) := by
  refine ⟨?_, ?_, ?_⟩
  · intro request offers observedAt quote ok dated room
    obtain ⟨observed, issued⟩ := observeQuote_issued ok
    rw [← observed] at dated
    refine ⟨issued.fits quote.toProfileQuote.sound dated room, ?_⟩
    intro attempt endpoint id given legal
    exact issued.validateQuote dated room endpoint id given legal
  · intro request offers observedAt quote ok dated room
    obtain ⟨observed, issued⟩ := currentQuote_issued ok
    rw [← observed] at dated
    refine ⟨issued.fits quote.sound dated room, ?_⟩
    intro attempt activation submission valid endpoint id window authorized given legal
    exact issued.bindActivated dated room valid endpoint id window authorized given legal
  · intro values required startedAt coverageUntil normalized starts
    exact coverage_check_iff normalized starts

/-! ### A sample quote -/

namespace Sample

def profileDigests : ProfileDigests where
  toQuoteDigests := digests.toQuoteDigests
  profile _ := hex 'd'
  profileQuote _ := hex 'e'
  profile_hex _ := by decide +kernel
  profileQuote_hex _ := by decide +kernel

def profile : EndpointProfile where
  profileId := "profile-1"
  endpointId := "endpoint-1"
  endpointName := "endpoint-1"
  spec := spec
  checked := by decide +kernel

def profileRequest : ProfileRequest where
  toEnvelope := request.toEnvelope
  profile := profile
  workloadKind := "selfie"
  parametersSha256 := hex 'b'
  checked := by decide +kernel

/-- The sample profile, quoteFirst at a time. -/
def observed (observedAt : Instant) : Except Exn WindowQuote :=
  observeQuote profileDigests profileRequest [offer] observedAt

theorem observed_some {observedAt : Instant}
    (some_ : (observed observedAt).toOption.isSome = true) :
    observed observedAt = .ok ((observed observedAt).toOption.get some_) := by
  revert some_
  cases observed observedAt with
  | ok quote => exact fun _ => rfl
  | error x => exact fun some_ => nomatch some_

theorem observed2024 : (observed (seconds 1704067200)).toOption.isSome = true := by
  decide +kernel

/-- The last hour of the calendar starts. -/
def lastHour : Instant := seconds 253402297200

theorem observedLast : (observed lastHour).toOption.isSome = true := by
  decide +kernel

/-- A job of five seconds, ten after the quote. -/
def allottedFields (observedAt : Instant) : AttemptFields where
  attemptId := "attempt-1"
  jobId := "job-1"
  endpointId := "endpoint-1"
  providerQuoteId := "runpod-serverless:" ++ hex 'e'
  exclusiveWindowSha256 := hex 'c'
  exclusiveBillingHourStarts := [observedAt]
  submittedAt := observedAt + seconds 10
  completedAt := observedAt + seconds 15

def allotted2024 : BillingAttempt := ⟨allottedFields (seconds 1704067200), by decide +kernel⟩

def allottedLast : BillingAttempt := ⟨allottedFields lastHour, by decide +kernel⟩

def quoteLast : WindowQuote := (observed lastHour).toOption.get observedLast

def quoteFirst : WindowQuote := (observed (seconds 1704067200)).toOption.get observed2024

end Sample

open Sample in
/-- The quote of the first seconds of 2024, with an attempt of its one hour. -/
theorem exclusive_allocation_fits_hour :
    Fits quoteFirst.toBillingTerms quoteFirst.endpointProfileSha256 quoteFirst.catalogObservedAt
        quoteFirst.expiresAt
        (allocation quoteFirst.toBillingTerms quoteFirst.catalogObservedAt quoteFirst.expiresAt) ∧
      allotted2024.validateQuote quoteFirst.toProfileQuote = .ok () := by
  have fits := (exclusive_allocation_fits digests profileDigests).1 profileRequest [offer]
    (seconds 1704067200) quoteFirst (observed_some observed2024) ⟨by decide, by decide⟩
    ⟨by decide +kernel, by decide +kernel⟩
  exact ⟨fits.1, fits.2 allotted2024 (by decide +kernel) (by decide +kernel) (by decide +kernel)
    ⟨by decide +kernel, by decide +kernel, by decide +kernel, by decide +kernel⟩⟩

open Sample in
/-- A quote of the last hour of the calendar is issued, and a legal attempt of its one hour is
not validated: the hour ends outside. -/
theorem last_hour_escapes :
    observeQuote profileDigests profileRequest [offer] lastHour = .ok quoteLast ∧
      InCalendar lastHour ∧
      allottedLast.exclusiveBillingHourStarts =
        allocation quoteLast.toBillingTerms quoteLast.catalogObservedAt quoteLast.expiresAt ∧
      Legal quoteLast.toBillingTerms quoteLast.catalogObservedAt quoteLast.expiresAt
        allottedLast.submittedAt allottedLast.completedAt ∧
      allottedLast.endpointId = quoteLast.endpointId ∧
      allottedLast.providerQuoteId = quoteLast.providerQuoteId ∧
      allottedLast.validateQuote quoteLast.toProfileQuote = .error (.other "OverflowError") := by
  refine ⟨observed_some observedLast, ⟨by decide, by decide⟩, by decide +kernel,
    ⟨by decide +kernel, by decide +kernel, by decide +kernel, by decide +kernel⟩,
    by decide +kernel, by decide +kernel, by decide +kernel⟩

end KestrelRunpod.Serverless
