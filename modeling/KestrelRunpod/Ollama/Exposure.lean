import KestrelRunpod.Ollama.Planning
import KestrelRunpod.Ollama.Writes

/-!
# The exposure of a provisioned lease

A plan's ceiling rates whole seconds once; the exposure of its lease rates the elapsed time and
then multiplies it by the workers, in the 28 digits of the decimal context.  The exposure stays
below the ceiling unless the context rounds the product of the rate and the remaining seconds up,
which takes a lease of thousands of years and more than one worker.
-/

namespace KestrelRunpod.Ollama

open Numeric Numeric.Number
open Traverse (except_bind_ok check_bind_ok)
open Serverless (calendarMin calendarMax)

/-! ## Provisioned leases -/

/-- A row that follows the write of `_provision_requested` for the plan, at or after `plannedAt`;
later writes do not touch the plan or the start. -/
inductive Provisioned (texts : Texts) (request : LeaseRequest) (plan : PlacementPlan)
    (plannedAt : Instant) : Lease → Prop
  | admitted {lease : Lease} {t : Instant} (hard : lease.hardDeadline = request.hardDeadline)
      (after : plannedAt ≤ t) :
      Provisioned texts request plan plannedAt
        (lease.apply (admissionChanges texts lease request plan t))
  | updated {lease : Lease} {changes : Changes}
      (provisioned : Provisioned texts request plan plannedAt lease) (same : changes.plan = none)
      (started : changes.provisioningStartedAt = none) :
      Provisioned texts request plan plannedAt (lease.apply changes)

/-- What the exposure reads of a provisioned lease. -/
theorem Provisioned.reads {texts : Texts} {request : LeaseRequest} {plan : PlacementPlan}
    {plannedAt : Instant} {lease : Lease}
    (provisioned : Provisioned texts request plan plannedAt lease) :
    lease.plan = some plan ∧ lease.hardDeadline = request.hardDeadline ∧
      ∃ t, lease.provisioningStartedAt = some t ∧ plannedAt ≤ t := by
  induction provisioned with
  | admitted hard after => exact ⟨rfl, hard, _, rfl, after⟩
  | updated _ same started ih =>
      obtain ⟨plan, hard, t, start, after⟩ := ih
      refine ⟨?_, hard, t, ?_, after⟩
      · unfold Lease.apply
        dsimp only
        rw [same, plan]
        rfl
      · unfold Lease.apply
        dsimp only
        rw [started, start]
        rfl

/-! ## Selected plans -/

/-- A plan that the selection returns is an authorized candidate that passed its constructor. -/
theorem selectPlan_ok {request : LeaseRequest}
    {decisions : ComputeProduct → Option PlacementDecision}
    {policies : LeaseMode → Option NonComputeCostPolicy} {plannedAt : Instant} {workers : Nat}
    {failures : List String} {plan : PlacementPlan}
    (selected : selectPlan request decisions policies plannedAt workers failures = .ok plan) :
    Affordable request decisions policies plannedAt workers plan ∧ plan.Sound := by
  unfold selectPlan at selected
  obtain ⟨_, selected⟩ := check_bind_ok.mp selected
  change (if ceilSeconds (request.hardDeadline - plannedAt) < 1 then _ else _) = _ at selected
  split at selected
  · cases selected
  rename_i early
  have remains : 1 ≤ remainingSeconds request plannedAt := by
    unfold remainingSeconds
    omega
  obtain ⟨first, serverless, selected⟩ := except_bind_ok.mp selected
  obtain ⟨second, pod, selected⟩ := except_bind_ok.mp selected
  dsimp only at selected
  split at selected
  case h_2 => cases selected
  rename_i chosen is
  cases selected
  obtain ⟨inside, authorized⟩ := List.mem_filter.mp (leastEstimate_mem is)
  rcases List.mem_append.mp inside with inside | inside
  · unfold serverlessCandidate at serverless
    split at serverless
    · rename_i placement coldStarts placed bounded
      split at serverless
      · rename_i allowed
        obtain ⟨policy, found, ok⟩ := except_bind_ok.mp serverless
        obtain ⟨sound, rfl⟩ := constructed_ok.mp ok
        rcases List.mem_singleton.mp inside with rfl
        exact ⟨⟨.serverless allowed placed bounded remains (requiredPolicy_ok found), authorized⟩, sound⟩
      · cases serverless
        cases inside
    · cases serverless
      cases inside
  · unfold podCandidate at pod
    split at pod
    · rename_i placement placed
      split at pod
      · rename_i both
        obtain ⟨policy, found, ok⟩ := except_bind_ok.mp pod
        obtain ⟨sound, rfl⟩ := constructed_ok.mp ok
        rcases List.mem_singleton.mp inside with rfl
        exact ⟨⟨.pod both.2 placed both.1 remains (requiredPolicy_ok found), authorized⟩, sound⟩
      · cases pod
        cases inside
    · cases pod
      cases inside

/-- What a candidate's ceiling and its workers have to do with the remaining seconds. -/
theorem Candidate.ceiling {request : LeaseRequest}
    {decisions : ComputeProduct → Option PlacementDecision}
    {policies : LeaseMode → Option NonComputeCostPolicy} {plannedAt : Instant} {workers : Nat}
    {plan : PlacementPlan}
    (candidate : Candidate request decisions policies plannedAt workers plan) :
    1 ≤ remainingSeconds request plannedAt ∧
      plan.maximumComputeCost = ratedCost plan.placement.offeredCostPerHr
        plan.maximumBillableSeconds plan.placement.gpuCount ∧
      plan.costCeiling = costSum plan.maximumComputeCost plan.maximumNonComputeCost ∧
      remainingSeconds request plannedAt * plan.maximumConcurrentWorkers ≤
        plan.maximumBillableSeconds := by
  cases candidate with
  | serverless allowed placed bounded remains priced =>
      exact ⟨remains, rfl, rfl, le_max_right _ _⟩
  | pod allowed placed enough remains priced =>
      exact ⟨remains, rfl, rfl, (Nat.mul_one _).le⟩

/-! ## Elapsed time -/

/-- A time that `datetime` can hold. -/
def Representable (t : Instant) : Prop := calendarMin ≤ t ∧ t ≤ calendarMax

/-- The microseconds that the exposure rates. -/
def elapsed (lease : Lease) (startedAt now : Instant) : Int :=
  max 0 (min now lease.hardDeadline - startedAt)

/-- The remaining seconds cover every shorter time, also as it is printed. -/
theorem totalSeconds_covered {request : LeaseRequest} {plannedAt : Instant}
    (planned : Representable plannedAt) (hard : Representable request.hardDeadline)
    (remains : 1 ≤ remainingSeconds request plannedAt) {time : Int} (nonneg : 0 ≤ time)
    (within : time ≤ max 0 (request.hardDeadline - plannedAt)) :
    ∃ e, totalSeconds time = .finite e ∧ 0 ≤ e ∧ binary64 e = .finite e ∧
      shortest e ≤ remainingSeconds request plannedAt := by
  obtain ⟨left, is⟩ : ∃ left : Int, left = request.hardDeadline - plannedAt := ⟨_, rfl⟩
  have range : left < 400000000000 * 1000000 := by
    have lower : (-62135596800000000 : Int) ≤ plannedAt := planned.1
    have upper : (253402300799999999 : Int) ≥ request.hardDeadline := hard.2
    omega
  rw [← is] at within
  unfold remainingSeconds at remains ⊢
  rw [← is] at remains ⊢
  unfold ceilSeconds at remains ⊢
  cases total : totalSeconds left with
  | infinite negative => rw [total] at remains; cases remains
  | nan => rw [total] at remains; cases remains
  | finite f =>
      rw [total] at remains
      dsimp only at remains ⊢
      obtain ⟨rounded, small⟩ := binary64_finite.mp total
      have ceiling : 0 < ⌈f⌉ := by omega
      have positive : 0 < f := Int.ceil_pos.mp ceiling
      have positive_left : 0 < left := by
        by_contra negative
        have nonpos : (left : ℚ) / 1000000 ≤ 0 := by
          have cast : (left : ℚ) ≤ 0 := by exact_mod_cast not_lt.mp negative
          exact div_nonpos_of_nonpos_of_nonneg cast (by norm_num)
        have low := double_nonpos nonpos
        rw [rounded] at low
        linarith
      have cast : (0 : ℚ) ≤ (time : ℚ) / 1000000 :=
        div_nonneg (by exact_mod_cast nonneg) (by norm_num)
      have shorter : (time : ℚ) / 1000000 ≤ (left : ℚ) / 1000000 := by
        have le : time ≤ left := by
          rw [max_eq_right positive_left.le] at within
          exact within
        exact div_le_div_of_nonneg_right (by exact_mod_cast le) (by norm_num)
      have below := double_mono cast shorter
      rw [rounded] at below
      have above := double_nonneg cast
      have finite : totalSeconds time = .finite (double ((time : ℚ) / 1000000)) := by
        refine binary64_finite.mpr ⟨rfl, ?_⟩
        rw [abs_of_nonneg above]
        rw [abs_of_pos (rounded ▸ positive)] at small
        rw [rounded] at small
        exact below.trans_lt small
      have is_double := binary64_isDouble cast
      have finite' : binary64 ((time : ℚ) / 1000000) = _ := finite
      rw [finite'] at is_double
      refine ⟨_, finite, above, is_double, ?_⟩
      obtain ⟨n, whole⟩ : ∃ n : ℕ, ⌈f⌉ = n := ⟨⌈f⌉.toNat, by omega⟩
      have covers : double ((time : ℚ) / 1000000) ≤ n := by
        have up := Int.le_ceil f
        rw [whole] at up
        exact below.trans (by exact_mod_cast up)
      have bound : n + 1 < 2 ^ 53 := by
        have seconds : (left : ℚ) / 1000000 ≤ ((400000000000 : ℕ) : ℚ) := by
          have cast : (left : ℚ) ≤ 400000000000 * 1000000 := by exact_mod_cast range.le
          push_cast
          linarith
        have whole_seconds : double ((400000000000 : ℕ) : ℚ) = ((400000000000 : ℕ) : ℚ) :=
          double_int (by norm_num)
        have le := double_mono (cast.trans shorter) seconds
        rw [rounded, whole_seconds] at le
        have up : ⌈f⌉ ≤ 400000000000 := Int.ceil_le.mpr (by exact_mod_cast le)
        omega
      rw [whole, Int.toNat_natCast]
      by_contra beyond
      have reads := (binary64_finite.mp (binary64_shortest is_double)).1
      have next := double_mono (Nat.cast_nonneg n) (not_le.mp beyond).le
      rw [reads, double_int (by omega)] at next
      rw [le_antisymm covers next] at beyond
      exact beyond (shortest_int_le bound)

/-! ## The bound -/

/-- The context does not round the product of the rate and the remaining seconds up; or there is
one worker, and the product is rounded once. -/
def Fits (plan : PlacementPlan) (remaining : Nat) : Prop :=
  plan.maximumConcurrentWorkers = 1 ∨
    ∀ r, plan.placement.offeredCostPerHr = .finite r →
      context (shortest r * remaining) ≤ shortest r * remaining

theorem rate_finite {q e : ℚ} {n m : Nat} :
    rate (.finite q) (.finite e) n m =
      binary64 (context (context (context (context (shortest q * shortest e) * n) * m) / 3600)) :=
  rfl

theorem rate_nonneg {q e : ℚ} (hourly : 0 ≤ q) (time : 0 ≤ e) (n m : Nat) :
    (rate (.finite q) (.finite e) n m).Nonneg ∧ (rate (.finite q) (.finite e) n m).IsDouble := by
  rw [rate_finite]
  have first := context_nonneg (mul_nonneg (shortest_nonneg hourly) (shortest_nonneg time))
  have second := context_nonneg (mul_nonneg first (Nat.cast_nonneg n))
  have third := context_nonneg (mul_nonneg second (Nat.cast_nonneg m))
  have fourth := context_nonneg (div_nonneg third (by norm_num : (0 : ℚ) ≤ 3600))
  exact ⟨binary64_nonneg fourth, binary64_isDouble fourth⟩

/-- A longer time costs at least as much. -/
theorem rate_mono {q e e' : ℚ} (hourly : 0 ≤ q) (time : 0 ≤ e)
    (longer : shortest e ≤ shortest e') (n m : Nat) :
    (rate (.finite q) (.finite e) n m).le (rate (.finite q) (.finite e') n m) = true := by
  have text := shortest_nonneg hourly
  have text' := shortest_nonneg time
  have product := mul_nonneg text text'
  have first := context_mono product (mul_le_mul_of_nonneg_left longer text)
  have below := context_nonneg product
  have second := context_mono (mul_nonneg below (Nat.cast_nonneg n))
    (mul_le_mul_of_nonneg_right first (Nat.cast_nonneg n))
  have below' := context_nonneg (mul_nonneg below (Nat.cast_nonneg n))
  have third := context_nonneg (mul_nonneg below' (Nat.cast_nonneg m))
  rw [rate_finite, rate_finite]
  exact binary64_le (context_nonneg (div_nonneg third (by norm_num)))
    (ratedDecimal_le below' second (Nat.cast_nonneg m))

/-- The elapsed time is rated at most like the billable seconds. -/
theorem rate_le_ratedCost {q e : ℚ} (hourly : 0 ≤ q) (time : 0 ≤ e) {remaining billable n m : Nat}
    (within : shortest e ≤ remaining) (covers : remaining * n ≤ billable)
    (fits : n = 1 ∨ context (shortest q * remaining) ≤ shortest q * remaining) :
    (rate (.finite q) (.finite e) n m).le (ratedCost (.finite q) billable m) = true := by
  have text := shortest_nonneg hourly
  have text' := shortest_nonneg time
  have product := mul_nonneg text text'
  have below := context_nonneg product
  have longer := context_mono product (mul_le_mul_of_nonneg_left within text)
  have billed : shortest q * remaining * n ≤ shortest q * billable := by
    have cast : (remaining : ℚ) * n ≤ billable := by exact_mod_cast covers
    rw [mul_assoc]
    exact mul_le_mul_of_nonneg_left cast text
  have workers : context (context (shortest q * shortest e) * n) ≤
      context (shortest q * billable) := by
    rcases fits with rfl | fits
    · rw [Nat.cast_one, mul_one] at billed ⊢
      rw [context_idem product]
      exact longer.trans (context_mono (mul_nonneg text (Nat.cast_nonneg remaining)) billed)
    · have scaled := mul_le_mul_of_nonneg_right (longer.trans fits) (Nat.cast_nonneg n : (0 : ℚ) ≤ n)
      exact context_mono (mul_nonneg below (Nat.cast_nonneg n)) (scaled.trans billed)
  have below' := context_nonneg (mul_nonneg below (Nat.cast_nonneg n))
  have third := context_nonneg (mul_nonneg below' (Nat.cast_nonneg m))
  rw [rate_finite, ratedCost_finite]
  exact binary64_le (context_nonneg (div_nonneg third (by norm_num)))
    (ratedDecimal_le below' workers (Nat.cast_nonneg m))

theorem validatePlan_rate {request : LeaseRequest} {plan : PlacementPlan}
    (accepted : validatePlan request plan = .ok ()) :
    ∃ q, plan.placement.offeredCostPerHr = .finite q ∧ 0 ≤ q := by
  unfold validatePlan at accepted
  dsimp only at accepted
  have valid : ¬ (plan.estimatedCost.isFinite = false ∨ plan.estimatedCost.lt (.finite 0) = true ∨
      plan.costCeiling.isFinite = false ∨ plan.costCeiling.lt plan.estimatedCost = true ∨
      plan.placement.offeredCostPerHr.isFinite = false ∨
      plan.placement.offeredCostPerHr.le (.finite 0) = true ∨
      plan.estimatedBillableSeconds = 0) := by
    intro invalid
    rw [if_pos invalid] at accepted
    split_ifs at accepted
  simp only [not_or] at valid
  obtain ⟨_, _, _, _, finite, positive, _⟩ := valid
  cases is : plan.placement.offeredCostPerHr with
  | finite q =>
      rw [is] at positive
      exact ⟨q, rfl, (not_le.mp fun le => positive (decide_eq_true le)).le⟩
  | infinite negative => rw [is] at finite; exact absurd rfl finite
  | nan => rw [is] at finite; exact absurd rfl finite

/-- The exposure of a provisioned lease, as a rate over the elapsed time. -/
theorem exposure_eq {texts : Texts} {request : LeaseRequest} {plan : PlacementPlan}
    {plannedAt : Instant} {lease : Lease} (sound : plan.Sound)
    (provisioned : Provisioned texts request plan plannedAt lease) :
    ∃ t, plannedAt ≤ t ∧ ∀ now, authorizedCostExposure lease now =
      costSum (rate plan.placement.offeredCostPerHr (totalSeconds (elapsed lease t now))
        plan.maximumConcurrentWorkers plan.placement.gpuCount) plan.maximumNonComputeCost := by
  obtain ⟨planned, _, t, started, after⟩ := provisioned.reads
  have workers : ¬ plan.maximumConcurrentWorkers < 1 :=
    not_lt.mpr (sound.counts _ (by simp))
  refine ⟨t, after, fun now => ?_⟩
  unfold authorizedCostExposure accruedCost
  rw [planned, started]
  dsimp only
  rw [if_neg workers]
  rfl

/-- The exposure of a lease that was provisioned from a selected plan: it stays below the ceiling
of the plan where the product of rate and time fits, the ceiling stays below the authorized cost,
and the exposure does not fall. -/
theorem exposure_bounded (texts : Texts) (request : LeaseRequest)
    (decisions : ComputeProduct → Option PlacementDecision)
    (policies : LeaseMode → Option NonComputeCostPolicy) (plannedAt : Instant) (workers : Nat)
    (failures : List String) (plan : PlacementPlan) (lease : Lease)
    (planned : Representable plannedAt) (hard : Representable request.hardDeadline)
    (selected : selectPlan request decisions policies plannedAt workers failures = .ok plan)
    (accepted : validatePlan request plan = .ok ())
    (provisioned : Provisioned texts request plan plannedAt lease) :
    (Fits plan (remainingSeconds request plannedAt) → ∀ now,
      (authorizedCostExposure lease now).le plan.costCeiling = true) ∧
    plan.costCeiling.le request.maxAuthorizedCost = true ∧
    ∀ now later, now ≤ later →
      (authorizedCostExposure lease now).le (authorizedCostExposure lease later) = true := by
  obtain ⟨affordable, sound⟩ := selectPlan_ok selected
  obtain ⟨remains, maximum, ceiling, covers⟩ := affordable.candidate.ceiling
  obtain ⟨q, offered, hourly⟩ := validatePlan_rate accepted
  obtain ⟨t, after, exposure⟩ := exposure_eq sound provisioned
  obtain ⟨overhead, is, nonneg⟩ :=
    finiteNonnegative_iff.mp (sound.amounts plan.maximumNonComputeCost (by simp))
  have overhead_nonneg : plan.maximumNonComputeCost.Nonneg := by
    rw [is]
    exact nonneg
  have texts_le := (toDecimal_nonneg overhead_nonneg).le_self
  have deadline : lease.hardDeadline = request.hardDeadline := provisioned.reads.2.1
  have within : ∀ now, 0 ≤ elapsed lease t now ∧
      elapsed lease t now ≤ max 0 (request.hardDeadline - plannedAt) := by
    intro now
    unfold elapsed
    rw [deadline]
    refine ⟨le_max_left _ _, max_le_max_left 0 ?_⟩
    exact sub_le_sub (min_le_right _ _) after
  have covered : ∀ now, ∃ e, totalSeconds (elapsed lease t now) = .finite e ∧ 0 ≤ e ∧
      binary64 e = .finite e ∧ shortest e ≤ remainingSeconds request plannedAt := fun now =>
    totalSeconds_covered planned hard remains (within now).1 (within now).2
  rw [offered] at exposure maximum
  refine ⟨fun fits now => ?_, affordable.authorized, fun now later order => ?_⟩
  · obtain ⟨e, time, positive, _, bound⟩ := covered now
    rw [exposure, time, ceiling, maximum]
    have fits' : plan.maximumConcurrentWorkers = 1 ∨
        context (shortest q * remainingSeconds request plannedAt) ≤
          shortest q * remainingSeconds request plannedAt := fits.imp_right fun fits => fits q offered
    obtain ⟨first, first'⟩ := rate_nonneg hourly positive plan.maximumConcurrentWorkers
      plan.placement.gpuCount
    exact costSum_le first overhead_nonneg first' (ratedCost_isDouble hourly _ _)
      (rate_le_ratedCost hourly positive bound covers fits') texts_le
  · obtain ⟨e, time, positive, double, _⟩ := covered now
    obtain ⟨e', time', positive', double', _⟩ := covered later
    have longer : elapsed lease t now ≤ elapsed lease t later := by
      unfold elapsed
      exact max_le_max_left 0 (sub_le_sub_right (min_le_min_right _ order) t)
    have times : e ≤ e' := by
      have seconds : ((elapsed lease t now : ℤ) : ℚ) / 1000000 ≤
          ((elapsed lease t later : ℤ) : ℚ) / 1000000 :=
        div_le_div_of_nonneg_right (by exact_mod_cast longer) (by norm_num)
      have start : (0 : ℚ) ≤ ((elapsed lease t now : ℤ) : ℚ) / 1000000 :=
        div_nonneg (by exact_mod_cast (within now).1) (by norm_num)
      have le := double_mono start seconds
      rw [(binary64_finite.mp time).1, (binary64_finite.mp time').1] at le
      exact le
    rw [exposure, exposure, time, time']
    obtain ⟨first, first'⟩ := rate_nonneg hourly positive plan.maximumConcurrentWorkers
      plan.placement.gpuCount
    obtain ⟨_, second'⟩ := rate_nonneg hourly positive' plan.maximumConcurrentWorkers
      plan.placement.gpuCount
    exact costSum_le first overhead_nonneg first' second'
      (rate_mono hourly positive (shortest_mono positive double double' times) _ _) texts_le

/-! ### Sample plans -/

namespace Exposure

def placement (hourly : ℚ) : PlacementDecision where
  product := .serverless
  gpuId := "NVIDIA L4"
  gpuPool := some "ADA_24"
  gpuName := "L4"
  gpuCount := 2
  offeredCostPerHr := .finite hourly
  catalogObservedAt := 0

def policy : NonComputeCostPolicy where
  estimatedCostUsd := .finite 0
  maximumCostUsd := .finite 0
  coveredComponents := [.containerDisk, .modelTransfer, .retryAllowance]

def decisions (hourly : ℚ) : ComputeProduct → Option PlacementDecision
  | .serverless => some (placement hourly)
  | .pod => none

def policies (_ : LeaseMode) : Option NonComputeCostPolicy := some policy

/-- A request for ten minutes, whose lease may stay for the given seconds. -/
def request (seconds : Int) : LeaseRequest :=
  { Recovery.request none with
    hardDeadline := seconds * 1000000
    maxAuthorizedCost := .float 200000000
    mode := .serverlessLoadBalancer }.leaseRequest

/-- The Serverless plan for three workers. -/
def plan (hourly : ℚ) (seconds : Int) : PlacementPlan :=
  serverlessPlan (request seconds) (placement hourly) policy seconds.toNat 3 21

def texts : Texts := ⟨id, fun _ => "", id, id⟩

/-- The row of the lease, provisioned when the plan was made. -/
def lease (hourly : ℚ) (seconds : Int) : Lease :=
  (Rows.requested texts (request seconds) 0).apply
    (admissionChanges texts (Rows.requested texts (request seconds) 0) (request seconds)
      (plan hourly seconds) 0)

theorem provisioned (hourly : ℚ) (seconds : Int) :
    Provisioned texts (request seconds) (plan hourly seconds) 0 (lease hourly seconds) :=
  .admitted rfl le_rfl

/-- A rate of 0.45822402931648476. -/
def longRate : ℚ := 257957195960241 / 2 ^ 49

end Exposure

/-- An hour at a quarter dollar stays below its ceiling. -/
theorem exposure_bounded_hour :
    selectPlan (Exposure.request 3600) (Exposure.decisions (1 / 4)) Exposure.policies 0 3 [] =
        .ok (Exposure.plan (1 / 4) 3600) ∧
      ∀ now, (authorizedCostExposure (Exposure.lease (1 / 4) 3600) now).le
        (Exposure.plan (1 / 4) 3600).costCeiling = true := by
  have selected : selectPlan (Exposure.request 3600) (Exposure.decisions (1 / 4))
      Exposure.policies 0 3 [] = .ok (Exposure.plan (1 / 4) 3600) := by decide +kernel
  have fits : Fits (Exposure.plan (1 / 4) 3600) (remainingSeconds (Exposure.request 3600) 0) := by
    refine .inr fun r is => ?_
    cases is
    decide +kernel
  exact ⟨selected, (exposure_bounded Exposure.texts (Exposure.request 3600)
    (Exposure.decisions (1 / 4)) Exposure.policies 0 3 [] (Exposure.plan (1 / 4) 3600)
    (Exposure.lease (1 / 4) 3600) ⟨by decide, by decide⟩ ⟨by decide, by decide⟩ selected
    (by decide +kernel) (Exposure.provisioned (1 / 4) 3600)).1 fits⟩

/-- A lease that may stay for seven thousand years: at its hard deadline its exposure is above the
ceiling of its plan. -/
theorem exposure_exceeds_ceiling :
    selectPlan (Exposure.request 223798273596) (Exposure.decisions Exposure.longRate)
        Exposure.policies 0 3 [] = .ok (Exposure.plan Exposure.longRate 223798273596) ∧
      validatePlan (Exposure.request 223798273596)
        (Exposure.plan Exposure.longRate 223798273596) = .ok () ∧
      Representable (Exposure.request 223798273596).hardDeadline ∧
      Provisioned Exposure.texts (Exposure.request 223798273596)
        (Exposure.plan Exposure.longRate 223798273596) 0
        (Exposure.lease Exposure.longRate 223798273596) ∧
      (authorizedCostExposure (Exposure.lease Exposure.longRate 223798273596)
        (Exposure.request 223798273596).hardDeadline).le
        (Exposure.plan Exposure.longRate 223798273596).costCeiling = false := by
  refine ⟨by decide +kernel, by decide +kernel, ⟨by decide, by decide⟩,
    Exposure.provisioned _ _, by decide +kernel⟩

end KestrelRunpod.Ollama
