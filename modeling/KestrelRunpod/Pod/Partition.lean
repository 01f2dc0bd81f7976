import Mathlib.Algebra.Order.BigOperators.Group.List
import KestrelRunpod.Numeric.Tiling
import KestrelRunpod.Numeric.Traverse
import KestrelRunpod.Pod.Billing

/-!
# The hours of a Pod bill

A page of hourly records has one of three outcomes.  It is complete when its records are one
whole record for each hour of the window, incomplete when they are apart and within single
hours of the window but leave some hour open, and refused otherwise; the order of the records
decides nothing (`Partitions`).

The one way out of this classification is a timestamp at the edge of the calendar:
`astimezone` raises an `OverflowError` there, which `_timestamp` does not translate.  Every
page without such a timestamp in a record of the Pod is partitioned (`partitions_iff`).
-/

namespace KestrelRunpod.Pod

open Numeric Tiling Traverse
open Serverless (hourStart hourEnd hour hour_pos hours_apart hourStart_eq_iff HourWindow
  billingHourBounds BillingPage ParsedTime)

variable {fromIsoFormat : String → ParsedTime} {podId : String} {page : BillingPage}
  {first windowUntil cursor : Instant} {hours : List PodHour} {x : Exn}

/-! ## Pages -/

/-- The query echo, the counts and the totals of the page are those of the request and of its
records. -/
structure PageAnswers (fromIsoFormat : String → ParsedTime) (page : BillingPage)
    (podId : String) (first windowUntil : Instant) : Prop where
  metadata : Serverless.Json.hasKeys page.metadata
    ["query", "recordCount", "uniquePodCount", "totals"] = true
  query : ∃ query, Serverless.Json.get page.metadata "query" = .obj query ∧
    Serverless.Json.hasKeys query ["startTime", "endTime", "bucketSize", "podId"] = true ∧
    Serverless.Json.isText podId (Serverless.Json.get query "podId") = true ∧
    Serverless.Json.isText "hour" (Serverless.Json.get query "bucketSize") = true ∧
    billingTimestamp fromIsoFormat (Serverless.Json.get query "startTime") = .ok first ∧
    billingTimestamp fromIsoFormat (Serverless.Json.get query "endTime") = .ok windowUntil
  recordCount : Serverless.Json.get page.metadata "recordCount" = .int page.records.length
  uniquePodCount : Serverless.Json.get page.metadata "uniquePodCount" =
    .int (if page.records.isEmpty then 0 else 1)
  totals : ∃ totals expected, Serverless.Json.get page.metadata "totals" = .obj totals ∧
    Serverless.Json.hasKeys totals ["totalAmount", "gpuAmount", "cpuAmount", "diskAmount"] =
      true ∧
    podAmounts totals "billing totals" = .ok expected ∧
    ∀ hours, page.records.mapM (parsePodHour fromIsoFormat podId) = .ok hours →
      (podHourTotals hours).sameAs expected = true

/-- The records, read in their order, and then judged in the order of the hours. -/
def judgeHours (fromIsoFormat : String → ParsedTime) (podId : String)
    (first windowUntil : Instant) (records : List (List (String × Serverless.Json))) :
    Except Exn (Option (List PodHour)) := do
  let parsed ← records.mapM (parsePodHour fromIsoFormat podId)
  let ordered := parsed.mergeSort fun a b => a.hourFrom ≤ b.hourFrom
  let incomplete ← closeHours first windowUntil first parsed.isEmpty ordered
  return if incomplete then none else some ordered

/-- A page that answers the request is judged by its records. -/
theorem PageAnswers.exactHours_eq (answers : PageAnswers fromIsoFormat page podId first windowUntil) :
    exactHours fromIsoFormat page podId first windowUntil =
      judgeHours fromIsoFormat podId first windowUntil page.records := by
  obtain ⟨query, isQuery, queryKeys, own, hourly, starts, ends⟩ := answers.query
  obtain ⟨totals, expected, isTotals, totalKeys, amounts, same⟩ := answers.totals
  have counted : exactHours.countIs (.int page.records.length) page.records.length
      "Runpod Pod billing record count is inconsistent" = .ok () := by
    simp [exactHours.countIs]
  have unique : exactHours.countIs (.int (if page.records.isEmpty then 0 else 1))
      (if page.records.isEmpty then 0 else 1)
      "Runpod Pod billing unique Pod count is inconsistent" = .ok () := by
    cases page.records.isEmpty <;> simp [exactHours.countIs]
  have echoed : ∀ {message : String},
      refuse (true = false ∨ true = false) (.manager message) = .ok () := by simp
  have same_ : ∀ {t : Instant} {message : String},
      refuse (t ≠ t) (.manager message) = .ok () := by simp
  unfold exactHours judgeHours
  simp only [billingKeys, answers.metadata, if_true, isQuery, queryKeys, isTotals, totalKeys, own,
    hourly, starts, ends, answers.recordCount, answers.uniquePodCount, counted, amounts, bind,
    Except.bind, unique, echoed, same_]
  cases parsed : page.records.mapM (parsePodHour fromIsoFormat podId) with
  | error x => rfl
  | ok hours =>
      have equal := same hours parsed
      dsimp only
      have agreed : ∀ {message : String}, refuse ((podHourTotals hours).sameAs expected = false)
          (.manager message) = .ok () := by simp [equal]
      rw [agreed]

/-! ## Records -/

/-- The records that run into the edge of the calendar. -/
def Overflows (fromIsoFormat : String → ParsedTime) (podId : String)
    (row : List (String × Serverless.Json)) : Prop :=
  parsePodHour fromIsoFormat podId row = .error (.other "OverflowError")

theorem shared_error {α : Type} {computed : Except Serverless.Exn α} (failed : shared computed = .error x) :
    ∃ y, computed = .error y ∧ x = Exn.ofShared y := by
  cases computed with
  | ok a => cases failed
  | error y =>
      cases failed
      exact ⟨y, rfl, rfl⟩

theorem refuse_error {bad : Prop} [Decidable bad] {y : Exn} (failed : refuse bad x = .error y) :
    y = x := by
  unfold refuse at failed
  split at failed
  · cases failed
    rfl
  · cases failed

theorem podAmounts_error {fields : List (String × Serverless.Json)} {context : String}
    (failed : podAmounts fields context = .error x) : ∃ message, x = .manager message := by
  have amount : ∀ {name : String} {y : Exn},
      shared (Serverless.billingAmount fields context name) = .error y →
      ∃ message, y = .manager message := by
    intro name y failed
    obtain ⟨y', failed, is⟩ := shared_error failed
    have refused : ∃ message, y' = .manager message := by
      unfold Serverless.billingAmount at failed
      cases read : Serverless.Json.decimal (Serverless.Json.get fields name)
          (context ++ "." ++ name) with
      | ok amount =>
          rw [read] at failed
          cases failed
      | error z =>
          rw [read] at failed
          cases failed
          unfold Serverless.Json.decimal at read
          split at read
          · split at read
            · cases read
              exact ⟨_, rfl⟩
            · cases read
          · split at read
            · cases read
              exact ⟨_, rfl⟩
            · cases read
          · cases read
            exact ⟨_, rfl⟩
    obtain ⟨message, rfl⟩ := refused
    exact ⟨message, is⟩
  unfold podAmounts at failed
  rcases except_bind_error.mp failed with failed | ⟨total, _, failed⟩
  · exact amount failed
  rcases except_bind_error.mp failed with failed | ⟨gpu, _, failed⟩
  · exact amount failed
  rcases except_bind_error.mp failed with failed | ⟨cpu, _, failed⟩
  · exact amount failed
  rcases except_bind_error.mp failed with failed | ⟨disk, _, failed⟩
  · exact amount failed
  rcases except_bind_error.mp failed with failed | ⟨_, _, failed⟩
  · exact ⟨_, refuse_error failed⟩
  · cases failed

theorem billingTimestamp_error {value : Serverless.Json}
    (failed : billingTimestamp fromIsoFormat value = .error x) :
    (∃ message, x = .manager message) ∨ x = .other "OverflowError" := by
  unfold billingTimestamp at failed
  split at failed
  · split at failed
    · obtain ⟨y, failed, is⟩ := shared_error failed
      unfold Serverless.astimezone at failed
      split at failed
      · cases failed
      · cases failed
        exact .inr is
    · cases failed
      exact .inl ⟨_, rfl⟩
    · cases failed
      exact .inl ⟨_, rfl⟩
  · cases failed
    exact .inl ⟨_, rfl⟩

/-- A record is refused with a `RunPodManagerError`, unless it overflows. -/
theorem parsePodHour_error {row : List (String × Serverless.Json)}
    (failed : parsePodHour fromIsoFormat podId row = .error x) :
    (∃ message, x = .manager message) ∨ x = .other "OverflowError" := by
  unfold parsePodHour at failed
  rcases except_bind_error.mp failed with failed | ⟨fields, _, failed⟩
  · simp only [billingKeys] at failed
    split at failed
    · cases failed
    · cases failed
      exact .inl ⟨_, rfl⟩
  rcases except_bind_error.mp failed with failed | ⟨_, _, failed⟩
  · exact .inl ⟨_, refuse_error failed⟩
  rcases except_bind_error.mp failed with failed | ⟨hourFrom, _, failed⟩
  · exact billingTimestamp_error failed
  rcases except_bind_error.mp failed with failed | ⟨hourUntil, _, failed⟩
  · exact billingTimestamp_error failed
  rcases except_bind_error.mp failed with failed | ⟨amounts, _, failed⟩
  · exact .inl (podAmounts_error failed)
  · cases failed

/-! ## The cursor -/

/-- The hours come one after the other, each within one hour of the window. -/
def Follows (windowUntil : Instant) : Instant → List PodHour → Prop
  | _, [] => True
  | cursor, item :: rest => cursor ≤ item.hourFrom ∧ item.hourFrom < item.hourUntil ∧
      item.hourUntil ≤ windowUntil ∧ item.hourFrom % hour = 0 ∧
      item.hourUntil ≤ item.hourFrom + hour ∧ Follows windowUntil item.hourUntil rest

/-- The hours tile what is left of the window. -/
abbrev TilesFrom (windowUntil cursor : Instant) (hours : List PodHour) : Prop :=
  Tiles PodHour.hourFrom PodHour.hourUntil hour windowUntil cursor hours

/-- The cursor loop succeeds on hours that follow one another, and then it knows whether they
leave anything open. -/
theorem closeHours_ok {incomplete verdict : Bool} (after : first ≤ cursor)
    (before : cursor ≤ windowUntil) :
    closeHours first windowUntil cursor incomplete hours = .ok verdict ↔
      Follows windowUntil cursor hours ∧
        (verdict = false ↔ incomplete = false ∧ TilesFrom windowUntil cursor hours) := by
  induction hours generalizing cursor incomplete with
  | nil =>
      have ends : decide (cursor < windowUntil) = false ↔ cursor = windowUntil := by
        rw [decide_eq_false_iff_not, not_lt]
        exact ⟨fun le => le_antisymm before le, fun is => is ▸ le_refl _⟩
      simp only [closeHours, Follows, true_and, Except.ok.injEq, TilesFrom, Tiles]
      rw [← ends]
      cases verdict <;> cases incomplete <;> cases decide (cursor < windowUntil) <;> simp
  | cons item rest ih =>
      unfold closeHours Follows
      rw [refuse_bind_ok, refuse_bind_ok]
      dsimp only
      rw [refuse_bind_ok, not_not, hourStart_eq_iff]
      by_cases within : cursor ≤ item.hourFrom ∧ item.hourFrom < item.hourUntil ∧
          item.hourUntil ≤ windowUntil
      · have onward : first ≤ item.hourUntil :=
          after.trans (within.1.trans (le_of_lt within.2.1))
        have tiles : item.hourUntil ≤ item.hourFrom + hour →
            (((incomplete || decide (cursor < item.hourFrom ∨
                item.hourUntil < item.hourFrom + hour)) = false ∧
              TilesFrom windowUntil item.hourUntil rest) ↔
              incomplete = false ∧ TilesFrom windowUntil cursor (item :: rest)) := by
          intro short
          rw [Bool.or_eq_false_iff, decide_eq_false_iff_not, not_or, not_lt, not_lt, and_assoc,
            and_congr_right_iff]
          intro _
          constructor
          · rintro ⟨⟨starts, whole⟩, others⟩
            have starts := le_antisymm starts within.1
            have whole := le_antisymm short whole
            rw [starts] at whole
            exact ⟨starts, whole, by rwa [← whole]⟩
          · rintro ⟨starts, whole, others⟩
            rw [← whole] at others
            exact ⟨⟨le_of_eq starts, by rw [whole, starts]⟩, others⟩
        rw [ih onward within.2.2]
        constructor
        · rintro ⟨_, aligned, short, follows, verdict⟩
          have short := not_lt.mp short
          exact ⟨⟨within.1, within.2.1, within.2.2, aligned, short, follows⟩,
            verdict.trans (tiles short)⟩
        · rintro ⟨⟨_, _, _, aligned, short, follows⟩, verdict⟩
          refine ⟨?_, aligned, not_lt.mpr short, follows, verdict.trans (tiles short).symm⟩
          rintro (early | early | empty | late)
          · exact absurd within.1 (not_le.mpr early)
          · exact absurd (after.trans within.1) (not_le.mpr early)
          · exact absurd within.2.1 (not_lt.mpr empty)
          · exact absurd within.2.2 (not_le.mpr late)
      · constructor
        · rintro ⟨apart, _⟩
          simp only [not_or, not_lt, not_le] at apart
          exact absurd ⟨apart.1, apart.2.2.1, apart.2.2.2⟩ within
        · rintro ⟨⟨starts, positive, stops, _⟩, _⟩
          exact absurd ⟨starts, positive, stops⟩ within

theorem closeHours_error {incomplete : Bool}
    (failed : closeHours first windowUntil cursor incomplete hours = .error x) :
    ∃ message, x = .manager message := by
  induction hours generalizing cursor incomplete with
  | nil => cases failed
  | cons item rest ih =>
      unfold closeHours at failed
      rcases except_bind_error.mp failed with failed | ⟨_, _, failed⟩
      · exact ⟨_, refuse_error failed⟩
      rcases except_bind_error.mp failed with failed | ⟨_, _, failed⟩
      · exact ⟨_, refuse_error failed⟩
      rcases except_bind_error.mp failed with failed | ⟨_, _, failed⟩
      · exact ⟨_, refuse_error failed⟩
      · exact ih failed

/-! ## Hours in any order -/

/-- The hours do not overlap, lie inside the window, and are each within one UTC hour. -/
structure Apart (first windowUntil : Instant) (hours : List PodHour) : Prop where
  aligned : ∀ item ∈ hours, item.hourFrom % hour = 0 ∧ item.hourFrom < item.hourUntil ∧
    item.hourUntil ≤ item.hourFrom + hour
  inside : ∀ item ∈ hours, first ≤ item.hourFrom ∧ item.hourUntil ≤ windowUntil
  disjoint : hours.Pairwise fun a b => a.hourUntil ≤ b.hourFrom ∨ b.hourUntil ≤ a.hourFrom

/-- Some hour of the window is missing, or only partly covered. -/
def LeavesOpen (first windowUntil : Instant) (hours : List PodHour) : Prop :=
  ∃ t, Grid hour first windowUntil t ∧
    ∀ item ∈ hours, ¬ (item.hourFrom = t ∧ item.hourUntil = t + hour)

/-- The hours are exactly one whole hour for each hour of the window. -/
abbrev CoversHours (first windowUntil : Instant) (hours : List PodHour) : Prop :=
  Covers PodHour.hourFrom PodHour.hourUntil hour first windowUntil hours

theorem Apart.perm {others : List PodHour} (apart : Apart first windowUntil hours)
    (same : others.Perm hours) : Apart first windowUntil others where
  aligned item member := apart.aligned item (same.subset member)
  inside item member := apart.inside item (same.subset member)
  disjoint := (same.pairwise_iff fun either => either.symm).mpr apart.disjoint

theorem Follows.after (follows : Follows windowUntil cursor hours) :
    ∀ item ∈ hours, cursor ≤ item.hourFrom := by
  induction hours generalizing cursor with
  | nil => simp
  | cons first rest ih =>
      obtain ⟨starts, positive, _, _, _, onward⟩ := follows
      intro item member
      rcases List.mem_cons.mp member with rfl | member
      · exact starts
      · exact (starts.trans (le_of_lt positive)).trans (ih onward item member)

/-- Hours sorted by start follow one another when they are apart. -/
theorem follows_iff (ordered : Ordered PodHour.hourFrom hours) :
    Follows windowUntil cursor hours ↔ Apart cursor windowUntil hours := by
  induction hours generalizing cursor with
  | nil => exact ⟨fun _ => ⟨by simp, by simp, .nil⟩, fun _ => trivial⟩
  | cons item rest ih =>
      obtain ⟨least, ordered⟩ := List.pairwise_cons.mp ordered
      constructor
      · rintro ⟨starts, positive, stops, aligned, short, follows⟩
        have others := (ih ordered).mp follows
        refine ⟨fun other member => ?_, fun other member => ?_, ?_⟩
        · rcases List.mem_cons.mp member with rfl | member
          · exact ⟨aligned, positive, short⟩
          · exact others.aligned other member
        · rcases List.mem_cons.mp member with rfl | member
          · exact ⟨starts, stops⟩
          · obtain ⟨after, within⟩ := others.inside other member
            exact ⟨(starts.trans (le_of_lt positive)).trans after, within⟩
        · exact .cons (fun other member => .inl (follows.after other member)) others.disjoint
      · intro apart
        obtain ⟨aligned, positive, short⟩ := apart.aligned item List.mem_cons_self
        obtain ⟨starts, stops⟩ := apart.inside item List.mem_cons_self
        obtain ⟨away, disjoint⟩ := List.pairwise_cons.mp apart.disjoint
        refine ⟨starts, positive, stops, aligned, short, (ih ordered).mpr ⟨?_, ?_, disjoint⟩⟩
        · exact fun other member => apart.aligned other (List.mem_cons_of_mem item member)
        · intro other member
          refine ⟨?_, (apart.inside other (List.mem_cons_of_mem item member)).2⟩
          rcases away other member with before | behind
          · exact before
          · have length := (apart.aligned other (List.mem_cons_of_mem item member)).2.1
            exact absurd (length.trans_le behind) (not_lt.mpr (least other member))

/-- Hours that are apart start at different times. -/
theorem Apart.nodup (apart : Apart first windowUntil hours) :
    (hours.map PodHour.hourFrom).Nodup := by
  rw [List.Nodup, List.pairwise_map]
  refine apart.disjoint.imp_of_mem fun {a b} inA inB either same => ?_
  have lengthA := (apart.aligned a inA).2.1
  have lengthB := (apart.aligned b inB).2.1
  rcases either with before | behind
  · exact absurd (lengthA.trans_le before) (not_lt.mpr (le_of_eq same.symm))
  · exact absurd (lengthB.trans_le behind) (not_lt.mpr (le_of_eq same))

/-- Hours that are apart either cover the window, or leave some hour of it open. -/
theorem covers_or_open (window : HourWindow first windowUntil)
    (apart : Apart first windowUntil hours) :
    CoversHours first windowUntil hours ↔ ¬ LeavesOpen first windowUntil hours := by
  constructor
  · rintro covers ⟨t, grid, uncovered⟩
    have once := covers.once t grid
    obtain ⟨item, member, starts⟩ := List.countP_pos_iff.mp (once ▸ Nat.one_pos)
    have starts := of_decide_eq_true starts
    exact uncovered item member ⟨starts, by rw [covers.whole item member, starts]⟩
  · intro closed
    have covered : ∀ t, Grid hour first windowUntil t →
        ∃ item ∈ hours, item.hourFrom = t ∧ item.hourUntil = t + hour := by
      intro t grid
      by_contra none
      exact closed ⟨t, grid, fun item member is => none ⟨item, member, is⟩⟩
    have same := List.inj_on_of_nodup_map apart.nodup
    have grids : ∀ item ∈ hours, Grid hour first windowUntil item.hourFrom := by
      intro item member
      obtain ⟨aligned, positive, _⟩ := apart.aligned item member
      obtain ⟨starts, stops⟩ := apart.inside item member
      exact window.grid.mpr ⟨starts, positive.trans_le stops, aligned⟩
    refine ⟨fun item member => ?_, grids, fun t grid => ?_⟩
    · obtain ⟨other, there, starts, whole⟩ := covered _ (grids item member)
      rw [same there member starts] at whole
      exact whole
    · obtain ⟨item, member, starts, _⟩ := covered t grid
      have once := List.nodup_iff_count_le_one.mp apart.nodup t
      have some : 0 < hours.countP fun item => decide (item.hourFrom = t) :=
        List.countP_pos_iff.mpr ⟨item, member, decide_eq_true starts⟩
      rw [List.count, List.countP_map] at once
      have equal : (fun x => x == t) ∘ PodHour.hourFrom =
          fun item => decide (item.hourFrom = t) := by
        funext other
        simp only [Function.comp_apply, beq_eq_decide]
      rw [equal] at once
      omega

theorem CoversHours.apart (window : HourWindow first windowUntil)
    (covers : CoversHours first windowUntil hours) : Apart first windowUntil hours := by
  have grid : ∀ item ∈ hours, first ≤ item.hourFrom ∧ item.hourFrom < windowUntil ∧
      item.hourFrom % hour = 0 := fun item member =>
    window.grid.mp (covers.inside item member)
  refine ⟨fun item member => ?_, fun item member => ?_, ?_⟩
  · rw [covers.whole item member]
    exact ⟨(grid item member).2.2, Int.lt_add_of_pos_right _ hour_pos, le_refl _⟩
  · obtain ⟨starts, later, aligned⟩ := grid item member
    rw [covers.whole item member]
    exact ⟨starts, hours_apart aligned window.stop later⟩
  · have distinct := covers.nodup_starts
    rw [List.Nodup, List.pairwise_map] at distinct
    refine distinct.imp_of_mem fun {a b} inA inB apart => ?_
    rw [covers.whole a inA, covers.whole b inB]
    rcases lt_or_gt_of_ne apart with before | behind
    · exact .inl (hours_apart (grid a inA).2.2 (grid b inB).2.2 before)
    · exact .inr (hours_apart (grid b inB).2.2 (grid a inA).2.2 behind)

/-! ## The verdict -/

/-- The records are exactly one whole-hour record of the Pod for each hour of the window. -/
def Complete (fromIsoFormat : String → ParsedTime) (podId : String) (first windowUntil : Instant)
    (records : List (List (String × Serverless.Json))) : Prop :=
  ∃ hours, records.mapM (parsePodHour fromIsoFormat podId) = .ok hours ∧
    CoversHours first windowUntil hours

/-- The records are non-overlapping, inside the window and hour-aligned, but some hour is
missing or only partly covered. -/
def Incomplete (fromIsoFormat : String → ParsedTime) (podId : String)
    (first windowUntil : Instant) (records : List (List (String × Serverless.Json))) : Prop :=
  ∃ hours, records.mapM (parsePodHour fromIsoFormat podId) = .ok hours ∧
    Apart first windowUntil hours ∧ LeavesOpen first windowUntil hours

variable {records others : List (List (String × Serverless.Json))} {rows : List PodHour}

/-- The verdict on the records as they were read. -/
theorem close_ok (window : HourWindow first windowUntil) {verdict : Bool} :
    closeHours first windowUntil first hours.isEmpty
        (hours.mergeSort fun a b => a.hourFrom ≤ b.hourFrom) = .ok verdict ↔
      Apart first windowUntil hours ∧
        (verdict = false ↔ CoversHours first windowUntil hours) := by
  have ordered : Ordered PodHour.hourFrom (hours.mergeSort fun a b => a.hourFrom ≤ b.hourFrom) :=
    ordered_mergeSort hours
  have same := List.mergeSort_perm hours fun a b => decide (a.hourFrom ≤ b.hourFrom)
  have span := le_of_lt window.open_
  have whole : hour ∣ windowUntil - first :=
    Int.dvd_sub (Int.dvd_of_emod_eq_zero window.stop) (Int.dvd_of_emod_eq_zero window.start)
  have tiles : hours.isEmpty = false ∧ TilesFrom windowUntil first
      (hours.mergeSort fun a b => a.hourFrom ≤ b.hourFrom) ↔
      CoversHours first windowUntil hours := by
    rw [TilesFrom, tiles_iff_covers hour_pos ordered span whole]
    constructor
    · exact fun both => both.2.perm same.symm
    · intro covers
      refine ⟨?_, covers.perm same⟩
      have once := covers.once first (window.grid.mpr ⟨le_refl first, window.open_, window.start⟩)
      cases hours with
      | nil => cases once
      | cons item rest => rfl
  rw [closeHours_ok (le_refl first) span, follows_iff ordered, tiles]
  exact and_congr_left fun _ => ⟨fun apart => apart.perm same.symm, fun apart => apart.perm same⟩

theorem judgeHours_some (window : HourWindow first windowUntil) :
    judgeHours fromIsoFormat podId first windowUntil records = .ok (some rows) ↔
      ∃ hours, records.mapM (parsePodHour fromIsoFormat podId) = .ok hours ∧
        CoversHours first windowUntil hours ∧
        rows = hours.mergeSort fun a b => a.hourFrom ≤ b.hourFrom := by
  unfold judgeHours
  rw [except_bind_ok]
  refine exists_congr fun hours => and_congr_right fun _ => ?_
  dsimp only
  rw [except_bind_ok]
  constructor
  · rintro ⟨verdict, closed, is⟩
    cases verdict with
    | true => cases is
    | false =>
        cases is
        exact ⟨((close_ok window).mp closed).2.mp rfl, rfl⟩
  · rintro ⟨covers, rfl⟩
    refine ⟨false, (close_ok window).mpr ⟨CoversHours.apart window covers, ?_⟩, rfl⟩
    exact iff_of_true rfl covers

theorem judgeHours_none (window : HourWindow first windowUntil) :
    judgeHours fromIsoFormat podId first windowUntil records = .ok none ↔
      Incomplete fromIsoFormat podId first windowUntil records := by
  unfold judgeHours
  rw [except_bind_ok]
  refine exists_congr fun hours => and_congr_right fun _ => ?_
  dsimp only
  rw [except_bind_ok]
  constructor
  · rintro ⟨verdict, closed, is⟩
    obtain ⟨apart, covers⟩ := (close_ok window).mp closed
    cases verdict with
    | false => cases is
    | true =>
        refine ⟨apart, ?_⟩
        by_contra closed
        exact Bool.noConfusion (covers.mpr ((covers_or_open window apart).mpr closed))
  · rintro ⟨apart, leaves⟩
    refine ⟨true, (close_ok window).mpr ⟨apart, ?_⟩, rfl⟩
    exact iff_of_false Bool.noConfusion fun covers =>
      (covers_or_open window apart).mp covers leaves

/-- What is refused is refused with a `RunPodManagerError`, unless a record overflows. -/
theorem judgeHours_error
    (failed : judgeHours fromIsoFormat podId first windowUntil records = .error x) :
    (∃ message, x = .manager message) ∨ ∃ row ∈ records, Overflows fromIsoFormat podId row := by
  unfold judgeHours at failed
  rcases except_bind_error.mp failed with failed | ⟨hours, _, failed⟩
  · obtain ⟨row, member, failed⟩ := mapM_error failed
    rcases parsePodHour_error failed with refused | rfl
    · exact .inl refused
    · exact .inr ⟨row, member, failed⟩
  · dsimp only at failed
    rcases except_bind_error.mp failed with failed | ⟨verdict, _, failed⟩
    · exact .inl (closeHours_error failed)
    · cases failed

/-- The order of the records does not change the rows. -/
theorem judgeHours_perm (window : HourWindow first windowUntil) (same : others.Perm records) :
    judgeHours fromIsoFormat podId first windowUntil others = .ok (some rows) ↔
      judgeHours fromIsoFormat podId first windowUntil records = .ok (some rows) := by
  have onward : ∀ {records others : List (List (String × Serverless.Json))},
      others.Perm records →
      judgeHours fromIsoFormat podId first windowUntil records = .ok (some rows) →
      judgeHours fromIsoFormat podId first windowUntil others = .ok (some rows) := by
    intro records others same judged
    obtain ⟨hours, parsed, covers, rfl⟩ := (judgeHours_some window).mp judged
    obtain ⟨hours', parsed', perm⟩ := mapM_perm parsed same
    refine (judgeHours_some window).mpr ⟨hours', parsed', covers.perm perm, ?_⟩
    have sorted := List.mergeSort_perm hours fun a b => decide (a.hourFrom ≤ b.hourFrom)
    have sorted' := List.mergeSort_perm hours' fun a b => decide (a.hourFrom ≤ b.hourFrom)
    exact (covers.perm sorted).unique (ordered_mergeSort hours) (ordered_mergeSort hours')
      (sorted.trans (perm.symm.trans sorted'.symm))
  exact ⟨onward same.symm, onward same⟩

/-! ## The reader -/

/-- The page with its records in another order. -/
def reordered (page : BillingPage) (records : List (List (String × Serverless.Json))) :
    BillingPage := { page with records := records }

/-- Totals do not depend on the order of the hours. -/
theorem podHourTotals_perm {others : List PodHour} {expected : PodAmounts}
    (same : others.Perm hours) (agrees : (podHourTotals hours).sameAs expected = true) :
    (podHourTotals others).sameAs expected = true := by
  have sums : ∀ f : PodHour → Decimal,
      (Decimal.exactSum (others.map f)).value = (Decimal.exactSum (hours.map f)).value := by
    intro f
    rw [Decimal.exactSum_value, Decimal.exactSum_value]
    exact ((same.map f).map Decimal.value).sum_eq
  unfold PodAmounts.sameAs podHourTotals at agrees ⊢
  simpa only [sums] using agrees

theorem PageAnswers.perm (answers : PageAnswers fromIsoFormat page podId first windowUntil)
    (same : records.Perm page.records) :
    PageAnswers fromIsoFormat (reordered page records) podId first windowUntil where
  metadata := answers.metadata
  query := answers.query
  recordCount := by
    rw [show (reordered page records).records.length = page.records.length from same.length_eq]
    exact answers.recordCount
  uniquePodCount := by
    rw [show (reordered page records).records.isEmpty = page.records.isEmpty from
      same.isEmpty_eq]
    exact answers.uniquePodCount
  totals := by
    obtain ⟨totals, expected, is, keys, amounts, agrees⟩ := answers.totals
    refine ⟨totals, expected, is, keys, amounts, fun hours parsed => ?_⟩
    obtain ⟨hours', parsed', perm⟩ := mapM_perm parsed same.symm
    exact podHourTotals_perm perm.symm (agrees hours' parsed')

/-- The page as the reader sees it, in whatever order its records come. -/
theorem PageAnswers.judged (answers : PageAnswers fromIsoFormat page podId first windowUntil)
    (same : records.Perm page.records) :
    exactHours fromIsoFormat (reordered page records) podId first windowUntil =
      judgeHours fromIsoFormat podId first windowUntil records :=
  (answers.perm same).exactHours_eq

variable {texts : PodBillingTexts} {createdAt terminatedAt observedAt reconciledAt : Instant}
  {rate : ℚ}

theorem podAmounts_nonneg {fields : List (String × Serverless.Json)} {context : String}
    {amounts : PodAmounts} (ok : podAmounts fields context = .ok amounts) :
    0 ≤ amounts.totalAmount.value := by
  unfold podAmounts at ok
  obtain ⟨total, read, ok⟩ := except_bind_ok.mp ok
  obtain ⟨gpu, _, ok⟩ := except_bind_ok.mp ok
  obtain ⟨cpu, _, ok⟩ := except_bind_ok.mp ok
  obtain ⟨disk, _, ok⟩ := except_bind_ok.mp ok
  obtain ⟨_, _, ok⟩ := except_bind_ok.mp ok
  cases ok
  unfold shared at read
  cases computed : Serverless.billingAmount fields context "totalAmount" with
  | error y =>
      rw [computed] at read
      cases read
  | ok amount =>
      rw [computed] at read
      cases read
      exact Serverless.billingAmount_nonneg computed

theorem parsePodHour_nonneg {row : List (String × Serverless.Json)} {item : PodHour}
    (ok : parsePodHour fromIsoFormat podId row = .ok item) :
    0 ≤ item.amounts.totalAmount.value := by
  unfold parsePodHour at ok
  obtain ⟨fields, _, ok⟩ := except_bind_ok.mp ok
  obtain ⟨_, _, ok⟩ := except_bind_ok.mp ok
  obtain ⟨hourFrom, _, ok⟩ := except_bind_ok.mp ok
  obtain ⟨hourUntil, _, ok⟩ := except_bind_ok.mp ok
  obtain ⟨amounts, read, ok⟩ := except_bind_ok.mp ok
  cases ok
  exact podAmounts_nonneg read

/-- The receipt of the hours passes its own checks. -/
theorem hoursReceipt_ok (safe : safeIdentifier podId "billing pod_id" = .ok ())
    (nonneg : ∀ item ∈ hours, 0 ≤ item.amounts.totalAmount.value) (priced : 0 ≤ rate)
    (span : first ≤ windowUntil) (closed : windowUntil ≤ reconciledAt) :
    ∃ receipt, hoursReceipt texts podId first windowUntil rate hours reconciledAt = .ok receipt ∧
      receipt.actualCostUsd = (Decimal.exactSum (hours.map fun h => h.amounts.totalAmount)).value ∧
      receipt.providerBillingId = "runpod-billing:" ++ texts.identity ⟨podId, rate, hours⟩ := by
  have cost : 0 ≤ (Decimal.exactSum (hours.map fun h => h.amounts.totalAmount)).value := by
    rw [Decimal.exactSum_value, List.map_map]
    refine List.sum_nonneg fun amount member => ?_
    obtain ⟨item, there, rfl⟩ := List.mem_map.mp member
    exact nonneg item there
  have named : identifierFrom 7
      ("runpod-billing:" ++ texts.identity ⟨podId, rate, hours⟩) = true :=
    identifierFrom_append_sha256 (by decide +kernel) (by decide +kernel) (texts.identity_hex _)
  have own : identifierFrom 7 podId = true := by
    unfold safeIdentifier at safe
    rw [refuse_ok] at safe
    simpa using safe
  have length : 0 ≤ (windowUntil - first) / 1000000 :=
    Int.ediv_nonneg (Int.sub_nonneg_of_le span) (by norm_num)
  have passed : BillingReceiptFields.check {
      providerBillingId := "runpod-billing:" ++ texts.identity ⟨podId, rate, hours⟩
      providerPodId := some podId
      billedFrom := first
      billedUntil := windowUntil
      billedSeconds := (windowUntil - first) / 1000000
      hourlyPriceUsd := rate
      actualCostUsd := (Decimal.exactSum (hours.map fun h => h.amounts.totalAmount)).value
      reconciledAt := reconciledAt } = .ok () := by
    unfold BillingReceiptFields.check safeIdentifier
    simp only [check_bind_ok, refuse_ok, named, own]
    refine ⟨by simp, by simp, ?_, by simp, not_lt.mpr closed, ?_, by simp, by simp⟩
    · exact not_or.mpr ⟨not_lt.mpr length, not_lt.mpr span⟩
    · exact not_or.mpr ⟨not_lt.mpr priced, not_lt.mpr cost⟩
  exact ⟨_, BillingReceipt.build_of_check passed, rfl, rfl⟩

/-- What a poll is asked: the billable life of a Pod whose hours are the window. -/
structure Billable (podId : String) (createdAt terminatedAt : Instant) (rate : ℚ)
    (first windowUntil : Instant) : Prop where
  safe : safeIdentifier podId "billing pod_id" = .ok ()
  priced : 0 ≤ rate
  bounds : billingHourBounds createdAt terminatedAt = .ok (first, windowUntil)

/-- What the reader makes of judged hours. -/
def settleHours (texts : PodBillingTexts) (podId : String) (first windowUntil : Instant)
    (rate : ℚ) (reconciledAt : Instant) :
    Option (List PodHour) → Except Exn (Option BillingReceipt)
  | none => .ok none
  | some hours => (hoursReceipt texts podId first windowUntil rate hours reconciledAt).map some

/-- The reader waits for the window to close, and then makes a receipt of what it judges. -/
theorem Billable.read_eq (billable : Billable podId createdAt terminatedAt rate first windowUntil) :
    readExactPodBilling texts podId createdAt terminatedAt rate observedAt (.ok page)
        reconciledAt =
      if observedAt < windowUntil then .ok none
      else (exactHours texts.fromIsoFormat page podId first windowUntil).bind
        (settleHours texts podId first windowUntil rate reconciledAt) := by
  unfold readExactPodBilling
  rw [billable.safe, billable.bounds]
  have priced : ∀ {message : String}, refuse (rate < 0) (.valueError message) = .ok () := by
    intro message
    rw [refuse_ok, not_lt]
    exact billable.priced
  rw [priced]
  simp only [shared, Except.mapError, bind, Except.bind, pure, Except.pure]
  split
  · rfl
  · cases exactHours texts.fromIsoFormat page podId first windowUntil with
    | error x => rfl
    | ok judged =>
        cases judged with
        | none => rfl
        | some hours =>
            simp only [settleHours]
            cases hoursReceipt texts podId first windowUntil rate hours reconciledAt <;> rfl

/-- The outcome of a poll: pending while the window is open, and from then on what the records
say, with a cost and an identity that depend on neither their order nor the time of the poll. -/
structure PollOutcome (fromIsoFormat : String → ParsedTime) (podId : String)
    (first windowUntil : Instant) (records : List (List (String × Serverless.Json)))
    (observedAt : Instant) (cost : ℚ) (identity : String)
    (outcome : Except Exn (Option BillingReceipt)) : Prop where
  early : observedAt < windowUntil → outcome = .ok none
  receipt : windowUntil ≤ observedAt →
    ((∃ receipt, outcome = .ok (some receipt)) ↔
      Complete fromIsoFormat podId first windowUntil records)
  pending : windowUntil ≤ observedAt →
    (outcome = .ok none ↔ Incomplete fromIsoFormat podId first windowUntil records)
  same : ∀ receipt, outcome = .ok (some receipt) →
    receipt.actualCostUsd = cost ∧ receipt.providerBillingId = identity

/-- The page is classified by its hours, whatever the order of its records and the time of the
poll. -/
structure Partitions (texts : PodBillingTexts) (page : BillingPage) (podId : String)
    (first windowUntil : Instant) : Prop where
  complete : ∀ records, records.Perm page.records →
    ((∃ rows, exactHours texts.fromIsoFormat (reordered page records) podId first windowUntil =
      .ok (some rows)) ↔ Complete texts.fromIsoFormat podId first windowUntil records)
  incomplete : ∀ records, records.Perm page.records →
    (exactHours texts.fromIsoFormat (reordered page records) podId first windowUntil =
      .ok none ↔ Incomplete texts.fromIsoFormat podId first windowUntil records)
  refused : ∀ records, records.Perm page.records → ∀ x,
    exactHours texts.fromIsoFormat (reordered page records) podId first windowUntil = .error x →
      ∃ message, x = .manager message
  ordered : ∀ records, records.Perm page.records → ∀ rows,
    exactHours texts.fromIsoFormat (reordered page records) podId first windowUntil =
        .ok (some rows) ↔
      exactHours texts.fromIsoFormat page podId first windowUntil = .ok (some rows)
  polled : ∀ createdAt terminatedAt rate,
    Billable podId createdAt terminatedAt rate first windowUntil →
    ∃ cost identity, ∀ records, records.Perm page.records →
      ∀ observedAt reconciledAt, observedAt ≤ reconciledAt →
        PollOutcome texts.fromIsoFormat podId first windowUntil records observedAt cost identity
          (readExactPodBilling texts podId createdAt terminatedAt rate observedAt
            (.ok (reordered page records)) reconciledAt)

/-- A receipt is made of judged hours. -/
theorem settled_some {judged : Except Exn (Option (List PodHour))} {receipt : BillingReceipt}
    (is : judged.bind (settleHours texts podId first windowUntil rate reconciledAt) =
      .ok (some receipt)) :
    ∃ rows, judged = .ok (some rows) ∧
      hoursReceipt texts podId first windowUntil rate rows reconciledAt = .ok receipt := by
  cases judged with
  | error x => cases is
  | ok verdict =>
      cases verdict with
      | none => cases is
      | some rows =>
          refine ⟨rows, rfl, ?_⟩
          simp only [Except.bind, settleHours] at is
          cases built : hoursReceipt texts podId first windowUntil rate rows reconciledAt with
          | error x =>
              rw [built] at is
              cases is
          | ok receipt' =>
              rw [built] at is
              cases is
              rfl

theorem settled_none {judged : Except Exn (Option (List PodHour))} :
    judged.bind (settleHours texts podId first windowUntil rate reconciledAt) = .ok none ↔
      judged = .ok none := by
  cases judged with
  | error x => simp [Except.bind]
  | ok verdict =>
      cases verdict with
      | none => simp [Except.bind, settleHours]
      | some rows =>
          simp only [Except.bind, settleHours]
          cases hoursReceipt texts podId first windowUntil rate rows reconciledAt <;>
            simp [Except.map]

/-- Judged hours have a receipt once the window is closed. -/
theorem Billable.settled (billable : Billable podId createdAt terminatedAt rate first windowUntil)
    (window : HourWindow first windowUntil) (closed : windowUntil ≤ reconciledAt)
    (judged : judgeHours texts.fromIsoFormat podId first windowUntil records = .ok (some rows)) :
    ∃ receipt, settleHours texts podId first windowUntil rate reconciledAt (some rows) =
        .ok (some receipt) ∧
      receipt.actualCostUsd = (Decimal.exactSum (rows.map fun h => h.amounts.totalAmount)).value ∧
      receipt.providerBillingId = "runpod-billing:" ++ texts.identity ⟨podId, rate, rows⟩ := by
  obtain ⟨hours, parsed, _, rfl⟩ := (judgeHours_some window).mp judged
  have nonneg : ∀ item ∈ hours.mergeSort fun a b => a.hourFrom ≤ b.hourFrom,
      0 ≤ item.amounts.totalAmount.value := by
    intro item member
    have there := List.mem_mergeSort.mp member
    obtain ⟨row, _, read⟩ := mapM_ok_mem parsed there
    exact parsePodHour_nonneg read
  have settled : ∃ receipt, hoursReceipt texts podId first windowUntil rate _ _ = .ok receipt ∧ _ :=
    hoursReceipt_ok billable.safe nonneg billable.priced (le_of_lt window.open_) closed
  obtain ⟨receipt, built, cost, identity⟩ := settled
  exact ⟨receipt, by rw [settleHours, built]; rfl, cost, identity⟩

/-- A poll of a page that answers the request. -/
theorem PageAnswers.polled
    (answers : PageAnswers texts.fromIsoFormat page podId first windowUntil)
    (window : HourWindow first windowUntil)
    (billable : Billable podId createdAt terminatedAt rate first windowUntil) :
    ∃ cost identity, ∀ records, records.Perm page.records →
      ∀ observedAt reconciledAt, observedAt ≤ reconciledAt →
        PollOutcome texts.fromIsoFormat podId first windowUntil records observedAt cost identity
          (readExactPodBilling texts podId createdAt terminatedAt rate observedAt
            (.ok (reordered page records)) reconciledAt) := by
  -- The rows of the page as it came, if it has any.
  obtain ⟨rows, known⟩ : ∃ rows, ∀ rows',
      judgeHours texts.fromIsoFormat podId first windowUntil page.records = .ok (some rows') →
        rows' = rows := by
    by_cases judged : ∃ rows,
        judgeHours texts.fromIsoFormat podId first windowUntil page.records = .ok (some rows)
    · obtain ⟨rows, judged⟩ := judged
      refine ⟨rows, fun rows' other => ?_⟩
      rw [judged] at other
      cases other
      rfl
    · exact ⟨[], fun rows' other => absurd ⟨rows', other⟩ judged⟩
  refine ⟨(Decimal.exactSum (rows.map fun h => h.amounts.totalAmount)).value,
    "runpod-billing:" ++ texts.identity ⟨podId, rate, rows⟩, fun records same observedAt
      reconciledAt onward => ?_⟩
  rw [billable.read_eq, answers.judged same]
  constructor
  · exact fun early => if_pos early
  · intro closed
    rw [if_neg (not_lt.mpr closed)]
    constructor
    · rintro ⟨receipt, is⟩
      obtain ⟨rows', judged, _⟩ := settled_some is
      obtain ⟨hours, parsed, covers, _⟩ := (judgeHours_some window).mp judged
      exact ⟨hours, parsed, covers⟩
    · rintro ⟨hours, parsed, covers⟩
      have judged := (judgeHours_some window).mpr ⟨hours, parsed, covers, rfl⟩
      obtain ⟨receipt, settled, _⟩ := billable.settled window (closed.trans onward) judged
      exact ⟨receipt, by rw [judged]; exact settled⟩
  · intro closed
    rw [if_neg (not_lt.mpr closed), settled_none, judgeHours_none window]
  · intro receipt is
    split at is
    · cases is
    · obtain ⟨rows', judged, built⟩ := settled_some is
      have own := known rows' ((judgeHours_perm window same).mp judged)
      subst own
      unfold hoursReceipt at built
      have fields := BillingReceipt.build_ok built
      rw [fields]
      exact ⟨rfl, rfl⟩

/-- Every page whose records of the Pod stay inside the calendar is partitioned, and no other
one is. -/
theorem partitions_iff (window : HourWindow first windowUntil)
    (answers : PageAnswers texts.fromIsoFormat page podId first windowUntil) :
    Partitions texts page podId first windowUntil ↔
      ∀ row ∈ page.records, ¬ Overflows texts.fromIsoFormat podId row := by
  constructor
  · intro partitions row member overflows
    obtain ⟨before, after, split⟩ := List.append_of_mem member
    have same : (row :: (before ++ after)).Perm page.records := by
      rw [split]
      exact List.perm_middle.symm
    have failed : exactHours texts.fromIsoFormat (reordered page (row :: (before ++ after))) podId
        first windowUntil = .error (.other "OverflowError") := by
      rw [answers.judged same]
      unfold judgeHours
      rw [mapM_cons_error overflows]
      rfl
    obtain ⟨message, is⟩ := partitions.refused _ same _ failed
    cases is
  · intro inside
    refine ⟨fun records same => ?_, fun records same => ?_, fun records same x failed => ?_,
      fun records same rows => ?_, fun _ _ _ billable => answers.polled window billable⟩
    · rw [answers.judged same]
      constructor
      · rintro ⟨rows, judged⟩
        obtain ⟨hours, parsed, covers, _⟩ := (judgeHours_some window).mp judged
        exact ⟨hours, parsed, covers⟩
      · rintro ⟨hours, parsed, covers⟩
        exact ⟨_, (judgeHours_some window).mpr ⟨hours, parsed, covers, rfl⟩⟩
    · rw [answers.judged same]
      exact judgeHours_none window
    · rw [answers.judged same] at failed
      rcases judgeHours_error failed with refused | ⟨row, member, overflows⟩
      · exact refused
      · exact absurd overflows (inside row (same.subset member))
    · rw [answers.judged same, answers.exactHours_eq]
      exact judgeHours_perm window same

/-! ### A record at the edge of the calendar -/

section

/-- Three times, the last of them an hour before the first UTC instant. -/
def someTimes : PodBillingTexts where
  fromIsoFormat text :=
    if text = "2024-01-01T00:00:00+00:00" then .aware (seconds 1704067200)
    else if text = "2024-01-01T01:00:00+00:00" then .aware (seconds 1704070800)
    else if text = "0001-01-01T00:00:00+01:00" then .aware (Serverless.calendarMin - hour)
    else .invalid
  identity _ := String.ofList (List.replicate 64 'f')
  identity_hex _ := by decide +kernel

/-- One record for the first hour of 2024, which starts at the given text. -/
def hourPage (start : String) : BillingPage where
  records := [("podId", .str "pod-00001") :: ("startTime", .str start) ::
    ("endTime", .str "2024-01-01T01:00:00+00:00") :: amounts]
  metadata := [("query", .obj [("startTime", .str "2024-01-01T00:00:00+00:00"),
      ("endTime", .str "2024-01-01T01:00:00+00:00"), ("bucketSize", .str "hour"),
      ("podId", .str "pod-00001")]),
    ("recordCount", .int 1), ("uniquePodCount", .int 1), ("totals", .obj amounts)]
where
  amounts : List (String × Serverless.Json) :=
    [("totalAmount", .int 3), ("gpuAmount", .int 2), ("cpuAmount", .int 1), ("diskAmount", .int 0)]

theorem firstHour : HourWindow (seconds 1704067200) (seconds 1704070800) where
  start := by decide
  stop := by decide
  open_ := by decide

theorem hourPage_answers {start : String} (agrees : ∀ hours,
      (hourPage start).records.mapM (parsePodHour someTimes.fromIsoFormat "pod-00001") =
        .ok hours → (podHourTotals hours).sameAs ⟨⟨3, 0⟩, ⟨2, 0⟩, ⟨1, 0⟩, ⟨0, 0⟩⟩ = true) :
    PageAnswers someTimes.fromIsoFormat (hourPage start) "pod-00001" (seconds 1704067200)
      (seconds 1704070800) where
  metadata := by
    have keys : Serverless.Json.hasKeys (hourPage "").metadata
        ["query", "recordCount", "uniquePodCount", "totals"] = true := by decide +kernel
    exact keys
  query := ⟨_, rfl, by decide +kernel, by decide +kernel, by decide +kernel, by decide +kernel,
    by decide +kernel⟩
  recordCount := rfl
  uniquePodCount := rfl
  totals := ⟨_, ⟨⟨3, 0⟩, ⟨2, 0⟩, ⟨1, 0⟩, ⟨0, 0⟩⟩, rfl, by decide +kernel, by decide +kernel, agrees⟩

theorem hourPage_overflows : ∀ row ∈ (hourPage "0001-01-01T00:00:00+01:00").records,
    Overflows someTimes.fromIsoFormat "pod-00001" row := by
  intro row member
  rw [List.mem_singleton.mp member]
  unfold Overflows
  decide +kernel

/-- A record that starts in year 1, east of Greenwich, is refused with an `OverflowError`,
although the page answers the request. -/
theorem overflow_escapes :
    PageAnswers someTimes.fromIsoFormat (hourPage "0001-01-01T00:00:00+01:00") "pod-00001"
      (seconds 1704067200) (seconds 1704070800) ∧
    ¬ Partitions someTimes (hourPage "0001-01-01T00:00:00+01:00") "pod-00001"
      (seconds 1704067200) (seconds 1704070800) := by
  have failed : (hourPage "0001-01-01T00:00:00+01:00").records.mapM
      (parsePodHour someTimes.fromIsoFormat "pod-00001") = .error (.other "OverflowError") :=
    mapM_cons_error (hourPage_overflows _ List.mem_cons_self)
  have answers := hourPage_answers fun hours parsed => by
    rw [failed] at parsed
    cases parsed
  refine ⟨answers, fun partitions => ?_⟩
  have refused : exactHours someTimes.fromIsoFormat
      (reordered (hourPage "0001-01-01T00:00:00+01:00")
        (hourPage "0001-01-01T00:00:00+01:00").records)
      "pod-00001" (seconds 1704067200) (seconds 1704070800) = .error (.other "OverflowError") := by
    rw [answers.judged (List.Perm.refl _)]
    unfold judgeHours
    rw [failed]
    rfl
  obtain ⟨message, is⟩ := partitions.refused _ (List.Perm.refl _) _ refused
  cases is

/-- A page with a whole record for its one hour is partitioned. -/
theorem partitions_iff_hour : Partitions someTimes (hourPage "2024-01-01T00:00:00+00:00")
    "pod-00001" (seconds 1704067200) (seconds 1704070800) := by
  have parsed : (hourPage "2024-01-01T00:00:00+00:00").records.mapM
      (parsePodHour someTimes.fromIsoFormat "pod-00001") =
      .ok [⟨seconds 1704067200, seconds 1704070800, ⟨⟨3, 0⟩, ⟨2, 0⟩, ⟨1, 0⟩, ⟨0, 0⟩⟩⟩] := by
    decide +kernel
  have answers := hourPage_answers fun hours is => by
    rw [parsed] at is
    cases is
    decide +kernel
  refine (partitions_iff firstHour answers).mpr fun row member overflows => ?_
  have failed : (hourPage "2024-01-01T00:00:00+00:00").records.mapM
      (parsePodHour someTimes.fromIsoFormat "pod-00001") = .error (.other "OverflowError") := by
    refine mapM_cons_error ?_
    rwa [List.mem_singleton.mp member] at overflows
  rw [parsed] at failed
  cases failed

end

end KestrelRunpod.Pod
