import KestrelRunpod.Numeric.Accumulation
import KestrelRunpod.Numeric.Contexts
import Mathlib.Algebra.BigOperators.Ring.List

/-!
# Rounded sums in a decimal context

What a context makes of a number that it does not hold: the nearest one that it holds, a tie
going to the even neighbour, and a signal above its range.  Below its range it rounds without a
signal, at the last place that it has.

Where the precision has a digit to spare over the sum of the absolute values, no digit is lost
within the range.  `sum_exact_iff` says what is left to lose.
-/

namespace Numeric

namespace DecimalContext

/-- The place of the last digit that is kept. -/
def place (c : DecimalContext) (x : ℚ) : ℤ :=
  max (Int.log 10 |x|) c.emin - ((c.precision : ℤ) - 1)

/-- The last place of the context. -/
def tiny (c : DecimalContext) : ℤ := c.emin - ((c.precision : ℤ) - 1)

/-- The number as the context keeps it; `none` is the signal of an overflow. -/
def fit (c : DecimalContext) (x : ℚ) : Option ℚ :=
  let rounded := roundAt 10 (c.place x) x
  if 10 ^ (c.emax + 1) ≤ |rounded| then none else some rounded

/-- `sum(items, start=start)`. -/
def fittedSum (c : DecimalContext) (start : ℚ) (items : List ℚ) : Option ℚ :=
  items.foldlM (fun total item => c.fit (total + item)) start

/-- The sum of the items above zero. -/
def positives (items : List ℚ) : ℚ := (items.filter (0 < ·)).sum

/-- The sum of the items below zero. -/
def negatives (items : List ℚ) : ℚ := (items.filter (¬ 0 < ·)).sum

/-- Neither sum is above the range of the context. -/
def InRange (c : DecimalContext) (items : List ℚ) : Prop :=
  positives items < 10 ^ (c.emax + 1) ∧ -negatives items < 10 ^ (c.emax + 1)

/-- The precision has a digit to spare over the sum of the absolute values of the coefficients,
and over their number. -/
structure Covers (c : DecimalContext) (coefficients : List ℤ) : Prop where
  room : (coefficients.map fun m => |m|).sum < 10 ^ (c.precision - 1)
  few : coefficients.length ≤ 10 ^ (c.precision - 1)

/-- The numbers of the coefficients. -/
def scaled (least : ℤ) (coefficients : List ℤ) : List ℚ :=
  coefficients.map fun m : ℤ => (m : ℚ) * 10 ^ least

/-- The items, counted in last places of the context. -/
def inPlaces (c : DecimalContext) (items : List ℚ) : List ℚ :=
  items.map fun x : ℚ => x / 10 ^ c.tiny

variable {c : DecimalContext} {least : ℤ} {x t : ℚ} {items : List ℚ}

@[simp] theorem fittedSum_nil : c.fittedSum t [] = some t := rfl

theorem fittedSum_cons {r : ℚ} (fits : c.fit (t + x) = some r) :
    c.fittedSum t (x :: items) = c.fittedSum r items := by
  unfold fittedSum
  rw [List.foldlM_cons, fits]
  rfl

/-! ## Numbers that are held -/

theorem fit_of_holds (holds : c.holds x = true) : c.fit x = some x := by
  by_cases zero : x = 0
  · have top : (0 : ℚ) < 10 ^ (c.emax + 1) := zpow_pos (by norm_num) _
    unfold fit
    rw [zero, roundAt_zero]
    exact if_neg (by rw [abs_zero]; exact not_le.mpr top)
  · unfold DecimalContext.holds at holds
    dsimp only at holds
    rw [decide_eq_false zero, Bool.false_or, Bool.and_eq_true, decide_eq_true_eq] at holds
    obtain ⟨whole, leading⟩ := holds
    have kept : roundAt 10 (c.place x) x = x := by
      have quotient : ((x / 10 ^ c.place x).num : ℚ) = x / 10 ^ c.place x :=
        (Rat.eq_num_of_isInt whole).symm
      have unit : (10 : ℚ) ^ c.place x ≠ 0 := zpow_ne_zero _ (by norm_num)
      unfold roundAt
      rw [Nat.cast_ofNat, ← quotient, roundEven_int, quotient, div_mul_cancel₀ _ unit]
    have within : |x| < 10 ^ (c.emax + 1) := by
      have below : Int.log 10 |x| < c.emax + 1 := by omega
      exact_mod_cast (Int.lt_zpow_iff_log_lt (by norm_num) (abs_pos.mpr zero)).mpr below
    unfold fit
    rw [kept]
    exact if_neg (not_le.mpr within)

theorem fittedSum_of_foldlM {start total : ℚ}
    (summed : items.foldlM (fun total item => c.add total item) start = some total) :
    c.fittedSum start items = some total := by
  induction items generalizing start with
  | nil => exact summed
  | cons x items ih =>
      rw [List.foldlM_cons] at summed
      obtain ⟨next, added, rest⟩ := Option.bind_eq_some_iff.mp summed
      unfold add at added
      split at added
      · rename_i holds
        rw [fittedSum_cons (fit_of_holds holds), Option.some.inj added]
        exact ih rest
      · cases added

/-- A sum without a signal is the sum that is kept. -/
theorem fittedSum_of_sum {total : ℚ} (summed : c.sum items = some total) :
    c.fittedSum 0 items = some total := fittedSum_of_foldlM summed

/-! ## Above the last place -/

/-- A multiple of a unit of the context loses no digit. -/
theorem fit_multiple (m : ℤ) (fine : c.tiny ≤ least) (short : |m| < 10 ^ (c.precision - 1)) :
    c.fit (m * 10 ^ least) =
      if 10 ^ (c.emax + 1) ≤ |(m : ℚ) * 10 ^ least| then none else some ((m : ℚ) * 10 ^ least) := by
  have positive := c.positive
  have kept : roundAt 10 (c.place (m * 10 ^ least)) (m * 10 ^ least) = (m : ℚ) * 10 ^ least := by
    by_cases zero : m = 0
    · rw [zero, Int.cast_zero, zero_mul]
      exact roundAt_zero
    · have leading := leading_lt (e := least) zero short
      have place_le : c.place (m * 10 ^ least) ≤ least := by
        unfold place
        unfold tiny at fine
        omega
      exact roundAt_mul (by norm_num) m place_le
  unfold fit
  rw [kept]

/-! ## Signed sums -/

theorem positives_nonneg (items : List ℚ) : 0 ≤ positives items :=
  List.sum_nonneg fun x member => by
    have above := (List.mem_filter.mp member).2
    exact (of_decide_eq_true above).le

theorem negatives_nonpos (items : List ℚ) : negatives items ≤ 0 := by
  have most := List.sum_le_card_nsmul (items.filter (¬ 0 < ·)) 0 fun x member => by
    have below := (List.mem_filter.mp member).2
    exact not_lt.mp (of_decide_eq_true below)
  rwa [nsmul_zero] at most

theorem add_positives_le (x : ℚ) (items : List ℚ) :
    x + positives items ≤ positives (x :: items) := by
  unfold positives
  by_cases above : 0 < x
  · rw [List.filter_cons_of_pos (by simpa using above), List.sum_cons]
  · rw [List.filter_cons_of_neg (by simpa using above)]
    have below := not_lt.mp above
    linarith

theorem negatives_le_add (x : ℚ) (items : List ℚ) :
    negatives (x :: items) ≤ x + negatives items := by
  unfold negatives
  by_cases above : 0 < x
  · rw [List.filter_cons_of_neg (by simpa using above)]
    linarith
  · rw [List.filter_cons_of_pos (by simpa using above), List.sum_cons]

/-! ## Sums of multiples of a unit -/

section Fine

variable {a : ℤ} {coefficients : List ℤ}

theorem fit_step {m : ℤ} (fine : c.tiny ≤ least)
    (room : |a| + ((m :: coefficients).map fun m => |m|).sum < 10 ^ (c.precision - 1)) :
    (c.fit (a * 10 ^ least + m * 10 ^ least) =
        if 10 ^ (c.emax + 1) ≤ |((a + m : ℤ) : ℚ) * 10 ^ least| then none
        else some (((a + m : ℤ) : ℚ) * 10 ^ least)) ∧
      |a + m| + (coefficients.map fun m => |m|).sum < 10 ^ (c.precision - 1) := by
  rw [List.map_cons, List.sum_cons] at room
  have rest : 0 ≤ (coefficients.map fun m => |m|).sum :=
    List.sum_nonneg fun b member => by
      obtain ⟨m, _, rfl⟩ := List.mem_map.mp member
      exact abs_nonneg m
  have both := abs_add_le a m
  have total : (a : ℚ) * 10 ^ least + m * 10 ^ least = ((a + m : ℤ) : ℚ) * 10 ^ least := by
    push_cast
    ring
  have kept := fit_multiple (a + m) fine (by omega)
  rw [total]
  exact ⟨kept, by omega⟩

/-- What is not above the range on the way is summed exactly. -/
theorem fittedSum_of_inRange (fine : c.tiny ≤ least)
    (room : |a| + (coefficients.map fun m => |m|).sum < 10 ^ (c.precision - 1))
    (above : a * 10 ^ least + positives (scaled least coefficients) < 10 ^ (c.emax + 1))
    (below : -(a * 10 ^ least + negatives (scaled least coefficients)) < 10 ^ (c.emax + 1)) :
    c.fittedSum (a * 10 ^ least) (scaled least coefficients) =
      some (((a + coefficients.sum : ℤ) : ℚ) * 10 ^ least) := by
  induction coefficients generalizing a with
  | nil => simp [scaled]
  | cons m coefficients ih =>
      obtain ⟨kept, room'⟩ := fit_step fine room
      have cons : scaled least (m :: coefficients) =
          (m : ℚ) * 10 ^ least :: scaled least coefficients := rfl
      have total : (a : ℚ) * 10 ^ least + m * 10 ^ least = ((a + m : ℤ) : ℚ) * 10 ^ least := by
        push_cast
        ring
      have high := add_positives_le ((m : ℚ) * 10 ^ least) (scaled least coefficients)
      have low := negatives_le_add ((m : ℚ) * 10 ^ least) (scaled least coefficients)
      have nonneg := positives_nonneg (scaled least coefficients)
      have nonpos := negatives_nonpos (scaled least coefficients)
      rw [cons] at above below ⊢
      have within : |((a + m : ℤ) : ℚ) * 10 ^ least| < 10 ^ (c.emax + 1) := by
        rw [← total, abs_lt]
        constructor <;> linarith
      rw [if_neg (not_le.mpr within)] at kept
      rw [fittedSum_cons kept, List.sum_cons, ← add_assoc]
      exact ih room' (by linarith) (by linarith)

/-- A sum that is returned is exact, and was not above the range. -/
theorem fittedSum_eq_some {r : ℚ} (fine : c.tiny ≤ least)
    (room : |a| + (coefficients.map fun m => |m|).sum < 10 ^ (c.precision - 1))
    (returned : c.fittedSum (a * 10 ^ least) (scaled least coefficients) = some r) :
    r = ((a + coefficients.sum : ℤ) : ℚ) * 10 ^ least ∧
      (coefficients ≠ [] → |r| < 10 ^ (c.emax + 1)) := by
  induction coefficients generalizing a with
  | nil =>
      have same : (a : ℚ) * 10 ^ least = r := Option.some.inj returned
      rw [List.sum_nil, add_zero]
      exact ⟨same.symm, fun nonempty => absurd rfl nonempty⟩
  | cons m coefficients ih =>
      obtain ⟨kept, room'⟩ := fit_step fine room
      have cons : scaled least (m :: coefficients) =
          (m : ℚ) * 10 ^ least :: scaled least coefficients := rfl
      rw [cons] at returned
      by_cases above : 10 ^ (c.emax + 1) ≤ |((a + m : ℤ) : ℚ) * 10 ^ least|
      · rw [if_pos above] at kept
        unfold fittedSum at returned
        rw [List.foldlM_cons, kept] at returned
        cases returned
      · rw [if_neg above] at kept
        rw [fittedSum_cons kept] at returned
        obtain ⟨is, within⟩ := ih room' returned
        rw [List.sum_cons, ← add_assoc]
        refine ⟨is, fun _ => ?_⟩
        by_cases last : coefficients = []
        · rw [is, last, List.sum_nil, add_zero]
          exact not_le.mp above
        · exact within last

end Fine

/-! ## Sums below the last place -/

section Coarse

theorem unit_precision (c : DecimalContext) :
    (10 : ℚ) ^ (c.precision - 1) * 10 ^ c.tiny = 10 ^ c.emin := by
  have positive := c.positive
  have places : ((c.precision - 1 : ℕ) : ℤ) + c.tiny = c.emin := by
    unfold tiny
    omega
  rw [← zpow_natCast, ← zpow_add₀ (by norm_num : (10 : ℚ) ≠ 0), places]

/-- Down where the leading digit is not above the range, what is kept is kept at the last
place. -/
theorem fit_low (range : c.emin ≤ c.emax) (low : |x| < 2 * 10 ^ c.emin) :
    c.fit x = some (roundAt 10 c.tiny x) := by
  have bottom : (0 : ℚ) < 10 ^ c.emin := zpow_pos (by norm_num) _
  have next : (10 : ℚ) ^ (c.emin + 1) = 10 ^ c.emin * 10 := zpow_add_one₀ (by norm_num) _
  have top : (10 : ℚ) ^ (c.emin + 1) ≤ 10 ^ (c.emax + 1) :=
    zpow_le_zpow_right₀ (by norm_num) (by omega)
  have at_last : roundAt 10 (c.place x) x = roundAt 10 c.tiny x := by
    by_cases zero : x = 0
    · rw [zero, roundAt_zero, roundAt_zero]
    · have size : |x| < 10 ^ (c.emin + 1) := by
        rw [next]
        linarith
      have leading : Int.log 10 |x| < c.emin + 1 :=
        (Int.lt_zpow_iff_log_lt (by norm_num) (abs_pos.mpr zero)).mp (by exact_mod_cast size)
      have place_is : c.place x = c.tiny := by
        unfold place tiny
        omega
      rw [place_is]
  have error : |roundAt 10 c.tiny x - x| ≤ (10 : ℚ) ^ c.tiny / 2 := by
    have half := @abs_roundAt_sub 10 c.tiny x (by norm_num)
    exact_mod_cast half
  have unit : (10 : ℚ) ^ c.tiny ≤ 10 ^ c.emin := by
    apply zpow_le_zpow_right₀ (by norm_num)
    have positive := c.positive
    unfold tiny
    omega
  have within : |roundAt 10 c.tiny x| < 10 ^ (c.emax + 1) := by
    have triangle := abs_sub_abs_le_abs_sub (roundAt 10 c.tiny x) x
    linarith
  unfold fit
  rw [at_last]
  exact if_neg (not_le.mpr within)

/-- Down there a sum is the one that is rounded to an integer of last places at every step. -/
theorem fittedSum_low {t : ℤ} {ys : List ℚ} (range : c.emin ≤ c.emax)
    (room : |(t : ℚ)| + (ys.map fun y => |y|).sum + ys.length / 2 < 2 * 10 ^ (c.precision - 1)) :
    c.fittedSum (t * 10 ^ c.tiny) (ys.map fun y => y * 10 ^ c.tiny) =
      some ((accumulate t ys : ℚ) * 10 ^ c.tiny) := by
  induction ys generalizing t with
  | nil => rfl
  | cons y ys ih =>
      rw [List.map_cons, List.sum_cons, List.length_cons] at room
      push_cast at room
      have unit : (0 : ℚ) < 10 ^ c.tiny := zpow_pos (by norm_num) _
      have total : (t : ℚ) * 10 ^ c.tiny + y * 10 ^ c.tiny = (t + y) * 10 ^ c.tiny := by ring
      have rest : 0 ≤ (ys.map fun y => |y|).sum :=
        List.sum_nonneg fun b member => by
          obtain ⟨y, _, rfl⟩ := List.mem_map.mp member
          exact abs_nonneg y
      have both := abs_add_le (t : ℚ) y
      have count : (0 : ℚ) ≤ ys.length := Nat.cast_nonneg _
      have low : |((t : ℚ) + y) * 10 ^ c.tiny| < 2 * 10 ^ c.emin := by
        rw [abs_mul, abs_of_pos unit, ← unit_precision, ← mul_assoc]
        exact mul_lt_mul_of_pos_right (by linarith) unit
      have rounded : roundAt 10 c.tiny (((t : ℚ) + y) * 10 ^ c.tiny) =
          roundEven (t + y) * 10 ^ c.tiny := by
        unfold roundAt
        rw [Nat.cast_ofNat, mul_div_cancel_right₀ _ unit.ne']
      have kept := fit_low range low
      rw [rounded, ← total] at kept
      have error := abs_roundEven_sub ((t : ℚ) + y)
      have triangle := abs_sub_abs_le_abs_sub ((roundEven (t + y) : ℤ) : ℚ) ((t : ℚ) + y)
      rw [List.map_cons, fittedSum_cons kept, accumulate_cons]
      exact ih (by linarith)

end Coarse

/-! ## Every order -/

section Orders

variable {coefficients order : List ℤ}

theorem Covers.perm (covers : c.Covers coefficients) (same : order.Perm coefficients) :
    c.Covers order where
  room := by
    rw [(same.map fun m => |m|).sum_eq]
    exact covers.room
  few := by
    rw [same.length_eq]
    exact covers.few

theorem InRange.perm {items others : List ℚ} (range : c.InRange items)
    (same : others.Perm items) : c.InRange others := by
  unfold InRange positives negatives at range ⊢
  rw [(same.filter _).sum_eq, (same.filter _).sum_eq]
  exact range

theorem scaled_sum (least : ℤ) (coefficients : List ℤ) :
    (scaled least coefficients).sum = (coefficients.sum : ℤ) * 10 ^ least := by
  induction coefficients with
  | nil => simp [scaled]
  | cons m coefficients ih =>
      have cons : scaled least (m :: coefficients) =
          (m : ℚ) * 10 ^ least :: scaled least coefficients := rfl
      rw [cons, List.sum_cons, List.sum_cons, ih]
      push_cast
      ring

theorem scaled_pos {m least : ℤ} : 0 < (m : ℚ) * 10 ^ least ↔ 0 < m := by
  have unit : (0 : ℚ) < 10 ^ least := zpow_pos (by norm_num) _
  rw [mul_pos_iff_of_pos_right unit]
  exact Int.cast_pos

theorem positives_scaled (least : ℤ) (coefficients : List ℤ) :
    positives (scaled least coefficients) =
      (scaled least (coefficients.filter (0 < ·))).sum := by
  unfold positives scaled
  rw [List.filter_map]
  simp only [Function.comp_def, scaled_pos]

theorem negatives_scaled (least : ℤ) (coefficients : List ℤ) :
    negatives (scaled least coefficients) =
      (scaled least (coefficients.filter (¬ 0 < ·))).sum := by
  unfold negatives scaled
  rw [List.filter_map]
  simp only [Function.comp_def, scaled_pos]

/-- The first part of a sum that is returned in any order is not above the range. -/
theorem first_inRange {first rest : List ℤ} (fine : c.tiny ≤ least) (covers : c.Covers coefficients)
    (same : (first ++ rest).Perm coefficients)
    (returned : ∃ r, c.fittedSum 0 (scaled least (first ++ rest)) = some r) :
    |(scaled least first).sum| < 10 ^ (c.emax + 1) := by
  obtain ⟨r, returned⟩ := returned
  have room := (covers.perm same).room
  rw [List.map_append, List.sum_append] at room
  have others : 0 ≤ (rest.map fun m => |m|).sum :=
    List.sum_nonneg fun b member => by
      obtain ⟨m, _, rfl⟩ := List.mem_map.mp member
      exact abs_nonneg m
  obtain ⟨s, first_is⟩ : ∃ s, c.fittedSum 0 (scaled least first) = some s := by
    unfold fittedSum scaled at returned
    rw [List.map_append, List.foldlM_append] at returned
    obtain ⟨s, is, -⟩ := Option.bind_eq_some_iff.mp returned
    exact ⟨s, is⟩
  have start : ((0 : ℤ) : ℚ) * 10 ^ least = 0 := by rw [Int.cast_zero, zero_mul]
  rw [← start] at first_is
  obtain ⟨is, within⟩ := fittedSum_eq_some fine
    (by rw [abs_zero]; omega : |(0 : ℤ)| + (first.map fun m => |m|).sum < _) first_is
  by_cases none : first = []
  · rw [none]
    have top : (0 : ℚ) < 10 ^ (c.emax + 1) := zpow_pos (by norm_num) _
    simpa [scaled] using top
  · rw [zero_add] at is
    rw [scaled_sum, ← is]
    exact within none

/-- Multiples of the last place are summed exactly in every order just where their positive and
their negative sums are in range. -/
theorem sum_exact_iff_fine (fine : c.tiny ≤ least) (covers : c.Covers coefficients) :
    (∀ order : List ℤ, order.Perm coefficients →
      c.fittedSum 0 (scaled least order) = some (scaled least coefficients).sum) ↔
      c.InRange (scaled least coefficients) := by
  constructor
  · intro agree
    have positive_first : (coefficients.filter (0 < ·) ++
        coefficients.filter (¬ 0 < ·)).Perm coefficients := by
      simp only [decide_not]
      exact List.filter_append_perm (0 < ·) coefficients
    have negative_first := List.perm_append_comm.trans positive_first
    have above := first_inRange fine covers positive_first ⟨_, agree _ positive_first⟩
    have below := first_inRange fine covers negative_first ⟨_, agree _ negative_first⟩
    rw [← positives_scaled] at above
    rw [← negatives_scaled] at below
    exact ⟨(abs_lt.mp above).2, (neg_le_abs _).trans_lt below⟩
  · intro range order same
    have room := (covers.perm same).room
    obtain ⟨above, below⟩ := range.perm (same.map fun m : ℤ => (m : ℚ) * 10 ^ least)
    have start : ((0 : ℤ) : ℚ) * 10 ^ least = 0 := by rw [Int.cast_zero, zero_mul]
    have summed := fittedSum_of_inRange (a := 0) fine (by rw [abs_zero, zero_add]; exact room)
      (by rw [start, zero_add]; exact above) (by rw [start, zero_add]; exact below)
    rw [start, zero_add, same.sum_eq] at summed
    rw [summed, scaled_sum]

/-- The absolute values, counted in last places. -/
theorem Covers.low (covers : c.Covers coefficients) (coarse : least < c.tiny) :
    ((c.inPlaces (scaled least coefficients)).map fun y => |y|).sum < 10 ^ (c.precision - 1) := by
  have unit : (0 : ℚ) < 10 ^ c.tiny := zpow_pos (by norm_num) _
  have ratio : (10 : ℚ) ^ least / 10 ^ c.tiny ≤ 1 :=
    (div_le_one unit).mpr (zpow_le_zpow_right₀ (by norm_num) coarse.le)
  have bounded : ∀ ms : List ℤ, ((c.inPlaces (scaled least ms)).map fun y => |y|).sum ≤
      (((ms.map fun m => |m|).sum : ℤ) : ℚ) := by
    intro ms
    induction ms with
    | nil => simp [scaled, inPlaces]
    | cons m ms ih =>
        have cons : c.inPlaces (scaled least (m :: ms)) =
            (m : ℚ) * 10 ^ least / 10 ^ c.tiny :: c.inPlaces (scaled least ms) := rfl
        have nonneg : (0 : ℚ) ≤ 10 ^ least / 10 ^ c.tiny :=
          div_nonneg (zpow_nonneg (by norm_num) _) unit.le
        have first : |(m : ℚ) * 10 ^ least / 10 ^ c.tiny| ≤ |(m : ℚ)| := by
          rw [mul_div_assoc, abs_mul, abs_of_nonneg nonneg]
          exact mul_le_of_le_one_right (abs_nonneg _) ratio
        rw [cons, List.map_cons, List.map_cons, List.sum_cons, List.sum_cons, Int.cast_add,
          Int.cast_abs]
        exact add_le_add first ih
  have room : (((coefficients.map fun m => |m|).sum : ℤ) : ℚ) < 10 ^ (c.precision - 1) := by
    exact_mod_cast covers.room
  exact (bounded coefficients).trans_lt room

/-- Items that are counted in last places are these times the last place. -/
theorem inPlaces_mul (c : DecimalContext) (items : List ℚ) :
    (c.inPlaces items).map (fun y : ℚ => y * 10 ^ c.tiny) = items := by
  have unit : (10 : ℚ) ^ c.tiny ≠ 0 := zpow_ne_zero _ (by norm_num)
  unfold inPlaces
  rw [List.map_map]
  simp only [Function.comp_def, div_mul_cancel₀ _ unit, List.map_id']

theorem inPlaces_sum (c : DecimalContext) (items : List ℚ) :
    (c.inPlaces items).sum * 10 ^ c.tiny = items.sum := by
  have total := congrArg List.sum (inPlaces_mul c items)
  rwa [List.sum_map_mul_right, List.map_id'] at total

theorem inPlaces_abs_sum (c : DecimalContext) (items : List ℚ) :
    ((c.inPlaces items).map fun y => |y|).sum * 10 ^ c.tiny = (items.map fun x => |x|).sum := by
  have unit : (0 : ℚ) < 10 ^ c.tiny := zpow_pos (by norm_num) _
  unfold inPlaces
  rw [← List.sum_map_mul_right, List.map_map]
  refine congrArg List.sum (List.map_congr_left fun x _ => ?_)
  rw [Function.comp_apply, abs_div, abs_of_pos unit, div_mul_cancel₀ _ unit.ne']

/-- Both signed sums are parts of the sum of the absolute values. -/
theorem signed_le_abs (items : List ℚ) :
    positives items - negatives items ≤ (items.map fun x => |x|).sum := by
  induction items with
  | nil => simp [positives, negatives]
  | cons x items ih =>
      unfold positives negatives at ih ⊢
      rw [List.map_cons, List.sum_cons]
      by_cases above : 0 < x
      · rw [List.filter_cons_of_pos (by simpa using above),
          List.filter_cons_of_neg (by simpa using above), List.sum_cons, abs_of_pos above]
        linarith
      · rw [List.filter_cons_of_neg (by simpa using above),
          List.filter_cons_of_pos (by simpa using above), List.sum_cons,
          abs_of_nonpos (not_lt.mp above)]
        linarith

/-- Below the last place nothing is out of range. -/
theorem inRange_low (range : c.emin ≤ c.emax) (covers : c.Covers coefficients)
    (coarse : least < c.tiny) : c.InRange (scaled least coefficients) := by
  have unit : (0 : ℚ) < 10 ^ c.tiny := zpow_pos (by norm_num) _
  have top : (10 : ℚ) ^ c.emin ≤ 10 ^ (c.emax + 1) :=
    zpow_le_zpow_right₀ (by norm_num) (by omega)
  have low := mul_lt_mul_of_pos_right (covers.low coarse) unit
  rw [inPlaces_abs_sum, unit_precision] at low
  have both := signed_le_abs (scaled least coefficients)
  have nonneg := positives_nonneg (scaled least coefficients)
  have nonpos := negatives_nonpos (scaled least coefficients)
  exact ⟨by linarith, by linarith⟩

/-- The orders of a mapped list are the mapped orders. -/
theorem exists_order {α β : Type} {f : α → β} {order : List β} {items : List α}
    (same : order.Perm (items.map f)) :
    ∃ order' : List α, order'.Perm items ∧ order = order'.map f := by
  have composed : Relation.Comp (· = List.map f ·) List.Perm order items := by
    rw [List.eq_map_comp_perm]
    exact same
  obtain ⟨order', is, perm⟩ := composed
  exact ⟨order', perm, is⟩

/-- Below the last place a sum is the total that is rounded to a last place at every step. -/
theorem fittedSum_coarse (range : c.emin ≤ c.emax) (covers : c.Covers coefficients)
    (coarse : least < c.tiny) :
    c.fittedSum 0 (scaled least coefficients) =
      some ((accumulate 0 (c.inPlaces (scaled least coefficients)) : ℚ) * 10 ^ c.tiny) := by
  have low := covers.low coarse
  have few : ((c.inPlaces (scaled least coefficients)).length : ℚ) ≤ 10 ^ (c.precision - 1) := by
    rw [inPlaces, scaled, List.length_map, List.length_map]
    exact_mod_cast covers.few
  have room : |((0 : ℤ) : ℚ)| + ((c.inPlaces (scaled least coefficients)).map fun y => |y|).sum +
      (c.inPlaces (scaled least coefficients)).length / 2 < 2 * 10 ^ (c.precision - 1) := by
    have positive : (0 : ℚ) < 10 ^ (c.precision - 1) := by positivity
    rw [Int.cast_zero, abs_zero]
    linarith
  have run := fittedSum_low range room
  rw [Int.cast_zero, zero_mul, inPlaces_mul] at run
  exact run

/-- Below the last place the sums are exact in every order just where the items settle, counted
in last places. -/
theorem sum_exact_iff_coarse (range : c.emin ≤ c.emax) (covers : c.Covers coefficients)
    (coarse : least < c.tiny) :
    (∀ order : List ℤ, order.Perm coefficients →
      c.fittedSum 0 (scaled least order) = some (scaled least coefficients).sum) ↔
      Settles (c.inPlaces (scaled least coefficients)) := by
  have unit : (10 : ℚ) ^ c.tiny ≠ 0 := zpow_ne_zero _ (by norm_num)
  rw [← settles_iff]
  constructor
  · intro agree counted same
    obtain ⟨values, same_values, rfl⟩ := exists_order same
    obtain ⟨order, same_order, rfl⟩ := exists_order same_values
    have run := agree order same_order
    rw [fittedSum_coarse range (covers.perm same_order) coarse, ← inPlaces_sum c] at run
    exact mul_right_cancel₀ unit (Option.some.inj run)
  · intro agree order same
    have run := agree (c.inPlaces (scaled least order)) ((same.map _).map _)
    rw [fittedSum_coarse range (covers.perm same) coarse, run, inPlaces_sum]

theorem settles_of_integers {items : List ℚ} (whole : ∀ x ∈ items, ∃ k : ℤ, x = k) :
    Settles items where
  sum := by
    induction items with
    | nil => simp
    | cons x items ih =>
        obtain ⟨k, is⟩ := whole x List.mem_cons_self
        have rest := ih fun y member => whole y (List.mem_cons_of_mem x member)
        rw [List.map_cons, List.sum_cons, List.sum_cons, ← rest, is, roundEven_int]
        push_cast
        rfl
  order := .inl fun x member tie => by
    obtain ⟨k, is⟩ := whole x member
    unfold IsTie at tie
    rw [is, Int.floor_intCast, sub_self] at tie
    norm_num at tie

/-- Multiples of the last place settle. -/
theorem settles_fine (fine : c.tiny ≤ least) (coefficients : List ℤ) :
    Settles (c.inPlaces (scaled least coefficients)) := by
  apply settles_of_integers
  intro y member
  obtain ⟨value, held, rfl⟩ := List.mem_map.mp member
  obtain ⟨m, -, rfl⟩ := List.mem_map.mp held
  obtain ⟨k, is⟩ := Int.le.dest fine
  have unit : (10 : ℚ) ^ c.tiny ≠ 0 := zpow_ne_zero _ (by norm_num)
  refine ⟨m * 10 ^ k, ?_⟩
  rw [← is, zpow_add₀ (by norm_num : (10 : ℚ) ≠ 0), zpow_natCast]
  push_cast
  field_simp

/-- Covered items are summed exactly in every order just where their signed sums are in range,
and they settle, counted in last places. -/
theorem sum_exact_iff (least : ℤ) (range : c.emin ≤ c.emax) (covers : c.Covers coefficients) :
    (∀ order : List ℤ, order.Perm coefficients →
      c.fittedSum 0 (scaled least order) = some (scaled least coefficients).sum) ↔
      c.InRange (scaled least coefficients) ∧
        Settles (c.inPlaces (scaled least coefficients)) := by
  rcases le_or_gt c.tiny least with fine | coarse
  · rw [sum_exact_iff_fine fine covers]
    exact ⟨fun within => ⟨within, settles_fine fine coefficients⟩, fun both => both.1⟩
  · rw [sum_exact_iff_coarse range covers coarse]
    exact ⟨fun settles => ⟨inRange_low range covers coarse, settles⟩, fun both => both.2⟩

end Orders

end DecimalContext

end Numeric
