import KestrelRunpod.Numeric.Amounts
import KestrelRunpod.Ollama.Recovery

/-!
# Planning a lease

`select_ollama_plan` rates a Serverless and a Pod plan for a request, keeps those whose cost
ceiling is authorized, and takes the one with the lower estimate.  Every plan passes the checks
of its constructor, which recompute its costs and compare their sums as `float`s.
-/

namespace KestrelRunpod.Ollama

open Numeric Numeric.Number Traverse

/-! ## Requests as the planner reads them -/

def PyNumber.number (n : PyNumber) : Number := .finite n.value

/-- The constraints of a request, without the kinds of its numbers. -/
def ConstraintRecord.resourceConstraints (c : ConstraintRecord) : ResourceConstraints where
  minVramGb := c.minVramGb.toNat
  gpuCount := c.gpuCount.toNat
  cloud := c.cloud
  minCudaVersion := c.minCudaVersion
  allowedGpuIds := c.allowedGpuIds
  allowedGpuPools := c.allowedGpuPools
  allowedDataCenterIds := c.allowedDataCenterIds
  maxHourlyRate := c.maxHourlyRate.map PyNumber.number

/-- A request, without the kinds of its numbers. -/
def RequestRecord.leaseRequest (r : RequestRecord) : LeaseRequest where
  leaseId := r.leaseId
  ownerId := r.ownerId
  workloadId := r.workloadId
  model := r.model
  constraints := r.constraints.resourceConstraints
  expectedSessionSeconds := r.expectedSessionSeconds.toNat
  expectedActiveSeconds := r.expectedActiveSeconds.toNat
  serverlessInitializationSeconds := r.serverlessInitializationSeconds.toNat
  serverlessIdleTailSeconds := r.serverlessIdleTailSeconds.toNat
  idleTimeoutSeconds := r.idleTimeoutSeconds.toNat
  readinessTimeoutSeconds := r.readinessTimeoutSeconds.toNat
  hardDeadline := r.hardDeadline
  maxAuthorizedCost := r.maxAuthorizedCost.number
  mode := r.mode
  requestedAt := r.requestedAt

/-! ## Checks of a constructor -/

/-- A `ValueError` unless the condition holds. -/
def require (message : String) (holds : Prop) [Decidable holds] : Except Exn Unit :=
  if holds then .ok () else .error (.valueError message)

theorem require_ok {message : String} {holds : Prop} [Decidable holds] :
    require message holds = .ok () ↔ holds := by
  unfold require
  split
  · exact iff_of_true rfl ‹_›
  · exact iff_of_false (fun ok => nomatch ok) ‹_›

/-- The same requirement of every named value. -/
def requireEach {α : Type} (named : List (String × α)) (text : String → String) (holds : α → Prop)
    [DecidablePred holds] : Except Exn Unit :=
  named.forM fun one => require (text one.1) (holds one.2)

theorem require_each {α : Type} {named : List (String × α)} {text : String → String}
    {holds : α → Prop} [DecidablePred holds] :
    requireEach named text holds = .ok () ↔ ∀ value ∈ named.map Prod.snd, holds value := by
  unfold requireEach
  rw [forM_ok_iff]
  constructor
  · intro each value member
    obtain ⟨one, inside, rfl⟩ := List.mem_map.mp member
    exact require_ok.mp (each one inside)
  · intro each one member
    exact require_ok.mpr (each one.2 (List.mem_map_of_mem member))

/-- The tolerance `1e-12`, as a double. -/
def tolerance : ℚ := 4951760157141521 / 2 ^ 92

theorem tolerance_double : binary64 (1 / 10 ^ 12) = .finite tolerance := by decide +kernel

/-- The order of `OllamaNonComputeCostComponent.value`. -/
def NonComputeCostComponent.value : NonComputeCostComponent → String
  | .containerDisk => "container_disk"
  | .networkVolume => "network_volume"
  | .modelTransfer => "model_transfer"
  | .retryAllowance => "retry_allowance"

/-- `math.isfinite(value) and value >= 0`. -/
def finiteNonnegative (value : Number) : Prop := value.isFinite = true ∧ value.lt (.finite 0) = false

instance (value : Number) : Decidable (finiteNonnegative value) :=
  inferInstanceAs (Decidable (_ ∧ _))

/-- `OllamaNonComputeCostPolicy`. -/
structure NonComputeCostPolicy where
  estimatedCostUsd : Number
  maximumCostUsd : Number
  coveredComponents : List NonComputeCostComponent
  deriving DecidableEq

/-- `OllamaNonComputeCostPolicy.__post_init__`. -/
def NonComputeCostPolicy.check (p : NonComputeCostPolicy) : Except Exn Unit := do
  require "Ollama estimated_cost_usd must be finite and nonnegative"
    (finiteNonnegative p.estimatedCostUsd)
  require "Ollama maximum_cost_usd must be finite and nonnegative"
    (finiteNonnegative p.maximumCostUsd)
  require "Ollama maximum non-compute cost must cover its estimate"
    (p.maximumCostUsd.lt p.estimatedCostUsd = false)
  require "Ollama non-compute cost components must be a unique nonempty tuple"
    (p.coveredComponents ≠ [] ∧ p.coveredComponents.Nodup)
  require "Ollama non-compute cost components must be sorted"
    (p.coveredComponents.insertionSort (fun a b => a.value ≤ b.value) = p.coveredComponents)

/-- A policy that its constructor lets through, with the costs it is annotated to have. -/
structure ValidPolicy extends NonComputeCostPolicy where
  estimated_double : estimatedCostUsd.IsDouble
  maximum_double : maximumCostUsd.IsDouble
  checked : toNonComputeCostPolicy.check = .ok ()

/-! ## Rates -/

/-- `_rated_cost`. -/
def ratedCost (hourlyRate : Number) (seconds gpuCount : Nat) : Number :=
  match hourlyRate.toDecimal with
  | .finite r =>
      (Number.finite (context (context (context (r * seconds) * gpuCount) / 3600))).toFloat
  | _ => .nan

/-- `OllamaPlacementPlan.__post_init__`. -/
def PlacementPlan.check (plan : PlacementPlan) : Except Exn Unit := do
  require "Ollama Serverless plans require a cold-start bound"
    (plan.resourceType = .serverlessEndpoint → 1 ≤ plan.maximumServerlessColdStarts)
  require "Ollama Pod plans cannot declare Serverless cold starts"
    (plan.resourceType = .pod → plan.maximumServerlessColdStarts = 0)
  requireEach [("estimated_compute_cost", plan.estimatedComputeCost),
    ("maximum_compute_cost", plan.maximumComputeCost),
    ("estimated_non_compute_cost", plan.estimatedNonComputeCost),
    ("maximum_non_compute_cost", plan.maximumNonComputeCost),
    ("estimated_cost", plan.estimatedCost),
    ("cost_ceiling", plan.costCeiling)]
    (fun name => "Ollama plan " ++ name ++ " must be finite and nonnegative") finiteNonnegative
  requireEach [("estimated_billable_seconds", plan.estimatedBillableSeconds),
    ("maximum_billable_seconds", plan.maximumBillableSeconds),
    ("maximum_concurrent_workers", plan.maximumConcurrentWorkers)]
    (fun name => "Ollama plan " ++ name ++ " must be a positive integer") fun count => 1 ≤ count
  require "Ollama maximum compute cost must cover its estimate"
    (plan.maximumComputeCost.lt plan.estimatedComputeCost = false)
  require "Ollama maximum billable time must cover its estimate"
    (plan.estimatedBillableSeconds ≤ plan.maximumBillableSeconds)
  require "Ollama maximum non-compute cost must cover its estimate"
    (plan.maximumNonComputeCost.lt plan.estimatedNonComputeCost = false)
  require "Ollama compute costs are not derived from live rate"
    (isClose tolerance tolerance plan.estimatedComputeCost
        (ratedCost plan.placement.offeredCostPerHr plan.estimatedBillableSeconds
          plan.placement.gpuCount) = true ∧
      isClose tolerance tolerance plan.maximumComputeCost
        (ratedCost plan.placement.offeredCostPerHr plan.maximumBillableSeconds
          plan.placement.gpuCount) = true)
  require "Ollama Pod plans require exactly one billable worker"
    (plan.resourceType = .pod → plan.maximumConcurrentWorkers = 1)
  require "Ollama estimated total cost is not derived"
    (isClose tolerance tolerance plan.estimatedCost
      (plan.estimatedComputeCost.plus plan.estimatedNonComputeCost) = true)
  require "Ollama total cost ceiling is not derived"
    (isClose tolerance tolerance plan.costCeiling
      (plan.maximumComputeCost.plus plan.maximumNonComputeCost) = true)
  require "Ollama estimated total cost exceeds its ceiling"
    (plan.costCeiling.lt plan.estimatedCost = false)
  NonComputeCostPolicy.check
    { estimatedCostUsd := plan.estimatedNonComputeCost
      maximumCostUsd := plan.maximumNonComputeCost
      coveredComponents := plan.nonComputeComponents }

/-! ## Selection -/

/-- `OllamaLeaseMode.value`. -/
def LeaseMode.value : LeaseMode → String
  | .auto => "auto"
  | .serverlessLoadBalancer => "serverless_load_balancer"
  | .dedicatedPod => "dedicated_pod"

/-- `maximum_serverless_cold_starts`. -/
def maximumServerlessColdStarts (expectedSessionSeconds idleTailSeconds : Nat) : Option Nat :=
  if idleTailSeconds = 0 then none else some (1 + expectedSessionSeconds / idleTailSeconds)

/-- `f"{value:.6f}"` of a nonnegative `float`. -/
def sixPlaces : Number → String
  | .finite x =>
      let millionths := (roundEven (x * 10 ^ 6)).toNat
      let fraction := toString (millionths % 10 ^ 6)
      toString (millionths / 10 ^ 6) ++ "." ++
        String.ofList (List.replicate (6 - fraction.length) '0') ++ fraction
  | .infinite _ => "inf"
  | .nan => "nan"

/-- The plan of a placement at its billable seconds, with the costs of its policy. -/
def ratedPlan (mode : LeaseMode) (resourceType : ResourceType) (placement : PlacementDecision)
    (policy : NonComputeCostPolicy) (billable maximumBillable workers coldStarts : Nat) :
    PlacementPlan :=
  let estimatedCompute := ratedCost placement.offeredCostPerHr billable placement.gpuCount
  let maximumCompute := ratedCost placement.offeredCostPerHr maximumBillable placement.gpuCount
  { mode := mode
    resourceType := resourceType
    placement := placement
    estimatedComputeCost := estimatedCompute
    maximumComputeCost := maximumCompute
    estimatedNonComputeCost := policy.estimatedCostUsd
    maximumNonComputeCost := policy.maximumCostUsd
    estimatedCost := costSum estimatedCompute policy.estimatedCostUsd
    costCeiling := costSum maximumCompute policy.maximumCostUsd
    estimatedBillableSeconds := billable
    maximumBillableSeconds := maximumBillable
    maximumConcurrentWorkers := workers
    nonComputeComponents := policy.coveredComponents
    maximumServerlessColdStarts := coldStarts }

/-- The Serverless plan with a bound on its cold starts. -/
def serverlessPlan (request : LeaseRequest) (placement : PlacementDecision)
    (policy : NonComputeCostPolicy) (remainingSeconds workers coldStarts : Nat) :
    PlacementPlan :=
  let billable := request.expectedActiveSeconds +
    coldStarts * (request.serverlessInitializationSeconds + request.serverlessIdleTailSeconds)
  ratedPlan .serverlessLoadBalancer .serverlessEndpoint placement policy billable
    (max billable (remainingSeconds * workers)) workers coldStarts

/-- The Pod plan: it bills from provisioning to the hard deadline. -/
def podPlan (request : LeaseRequest) (placement : PlacementDecision)
    (policy : NonComputeCostPolicy) (remainingSeconds : Nat) : PlacementPlan :=
  ratedPlan .dedicatedPod .pod placement policy request.expectedSessionSeconds remainingSeconds
    1 0

/-- `_required_non_compute_cost_policy`. -/
def requiredPolicy (policies : LeaseMode → Option NonComputeCostPolicy) (mode : LeaseMode) :
    Except Exn NonComputeCostPolicy :=
  match policies mode with
  | some policy => .ok policy
  | none =>
      .error (.manager ("Ollama " ++ mode.value ++ " non-compute cost policy is not configured"))

/-- A plan that its constructor lets through. -/
def constructed (plan : PlacementPlan) : Except Exn (List PlacementPlan) := do
  plan.check
  return [plan]

/-- The Serverless candidate, where the request and its idle tail allow one. -/
def serverlessCandidate (request : LeaseRequest)
    (decisions : ComputeProduct → Option PlacementDecision)
    (policies : LeaseMode → Option NonComputeCostPolicy) (remainingSeconds workers : Nat) :
    Except Exn (List PlacementPlan) :=
  match decisions .serverless, maximumServerlessColdStarts request.expectedSessionSeconds
    request.serverlessIdleTailSeconds with
  | some placement, some coldStarts =>
      if request.mode = .auto ∨ request.mode = .serverlessLoadBalancer then do
        let policy ← requiredPolicy policies .serverlessLoadBalancer
        constructed (serverlessPlan request placement policy remainingSeconds workers coldStarts)
      else .ok []
  | _, _ => .ok []

/-- The Pod candidate, where the request allows one and its session still fits. -/
def podCandidate (request : LeaseRequest)
    (decisions : ComputeProduct → Option PlacementDecision)
    (policies : LeaseMode → Option NonComputeCostPolicy) (remainingSeconds : Nat) :
    Except Exn (List PlacementPlan) :=
  match decisions .pod with
  | some placement =>
      if request.expectedSessionSeconds ≤ remainingSeconds ∧
          (request.mode = .auto ∨ request.mode = .dedicatedPod) then do
        let policy ← requiredPolicy policies .dedicatedPod
        constructed (podPlan request placement policy remainingSeconds)
      else .ok []
  | none => .ok []

/-- The plan of the lower estimate, the earlier one of equal estimates. -/
def cheaper (best other : PlacementPlan) : PlacementPlan :=
  if other.estimatedCost.lt best.estimatedCost = true then other else best

/-- `min(plans, key=estimated_cost)`. -/
def leastEstimate : List PlacementPlan → Option PlacementPlan
  | [] => none
  | plan :: rest => some (rest.foldl cheaper plan)

/-- The text of a selection that found no plan. -/
def noPlanMessage (candidates : List PlacementPlan) (failures : List String) : String :=
  let estimates := ", ".intercalate (candidates.map fun item =>
    item.mode.value ++ " ceiling=$" ++ sixPlaces item.costCeiling)
  let details := "; ".intercalate
    ([estimates, "; ".intercalate failures].filter fun part => part ≠ "")
  "No Runpod Ollama mode satisfies the live catalog and authorized cost" ++
    (if details = "" then "" else ": " ++ details)

/-- `select_ollama_plan`. -/
def selectPlan (request : LeaseRequest) (decisions : ComputeProduct → Option PlacementDecision)
    (policies : LeaseMode → Option NonComputeCostPolicy) (plannedAt : Instant)
    (serverlessMaxWorkers : Nat) (failures : List String) : Except Exn PlacementPlan := do
  require "Ollama Serverless maximum workers must be positive" (1 ≤ serverlessMaxWorkers)
  let remaining := ceilSeconds (request.hardDeadline - plannedAt)
  if remaining < 1 then
    .error (.manager "Ollama cost plan has no remaining lease runtime")
  else do
    let serverless ← serverlessCandidate request decisions policies remaining.toNat
      serverlessMaxWorkers
    let pod ← podCandidate request decisions policies remaining.toNat
    let candidates := serverless ++ pod
    match leastEstimate
      (candidates.filter fun plan => plan.costCeiling.le request.maxAuthorizedCost) with
    | some plan => .ok plan
    | none => .error (.manager (noPlanMessage candidates failures))

/-! ## Costs -/

/-- The decimal that a cost is rounded from. -/
def ratedDecimal (r seconds gpuCount : ℚ) : ℚ :=
  context (context (context (r * seconds) * gpuCount) / 3600)

section Costs

variable {r seconds seconds' gpuCount q : ℚ}

theorem ratedDecimal_nonneg (rate : 0 ≤ r) (time : 0 ≤ seconds) (gpus : 0 ≤ gpuCount) :
    0 ≤ ratedDecimal r seconds gpuCount := by
  have first := context_nonneg (mul_nonneg rate time)
  have second := context_nonneg (mul_nonneg first gpus)
  exact context_nonneg (div_nonneg second (by norm_num))

/-- What one GPU costs less, more of them cost less as well. -/
theorem ratedDecimal_le {x y : ℚ} (nonneg : 0 ≤ x) (le : x ≤ y) (gpus : 0 ≤ gpuCount) :
    context (context (x * gpuCount) / 3600) ≤ context (context (y * gpuCount) / 3600) := by
  have first := context_mono (mul_nonneg nonneg gpus) (mul_le_mul_of_nonneg_right le gpus)
  have below := context_nonneg (mul_nonneg nonneg gpus)
  exact context_mono (div_nonneg below (by norm_num))
    (div_le_div_of_nonneg_right first (by norm_num))

theorem ratedDecimal_mono (rate : 0 ≤ r) (time : 0 ≤ seconds) (le : seconds ≤ seconds')
    (gpus : 0 ≤ gpuCount) : ratedDecimal r seconds gpuCount ≤ ratedDecimal r seconds' gpuCount :=
  ratedDecimal_le (context_nonneg (mul_nonneg rate time))
    (context_mono (mul_nonneg rate time) (mul_le_mul_of_nonneg_left le rate)) gpus

theorem ratedCost_finite {s g : Nat} :
    ratedCost (.finite q) s g = binary64 (ratedDecimal (shortest q) s g) := rfl

theorem ratedCost_nonneg (rate : 0 ≤ q) (s g : Nat) : (ratedCost (.finite q) s g).Nonneg := by
  rw [ratedCost_finite]
  exact binary64_nonneg
    (ratedDecimal_nonneg (shortest_nonneg rate) (Nat.cast_nonneg s) (Nat.cast_nonneg g))

theorem ratedCost_isDouble (rate : 0 ≤ q) (s g : Nat) : (ratedCost (.finite q) s g).IsDouble := by
  rw [ratedCost_finite]
  exact binary64_isDouble
    (ratedDecimal_nonneg (shortest_nonneg rate) (Nat.cast_nonneg s) (Nat.cast_nonneg g))

theorem ratedCost_le (rate : 0 ≤ q) {s s' : Nat} (le : s ≤ s') (g : Nat) :
    (ratedCost (.finite q) s g).le (ratedCost (.finite q) s' g) = true := by
  have text := shortest_nonneg rate
  rw [ratedCost_finite, ratedCost_finite]
  exact binary64_le (ratedDecimal_nonneg text (Nat.cast_nonneg s) (Nat.cast_nonneg g))
    (ratedDecimal_mono text (Nat.cast_nonneg s) (by exact_mod_cast le) (Nat.cast_nonneg g))

end Costs

section Sums

variable {x y x' y' : Number}

theorem costSum_nonneg (first : x.Nonneg) (second : y.Nonneg) : (costSum x y).Nonneg := by
  have zero : (Number.finite 0).Nonneg := le_refl (0 : ℚ)
  exact toFloat_nonneg
    (add_nonneg (add_nonneg zero (toDecimal_nonneg first)) (toDecimal_nonneg second))

/-- A sum of costs grows with them. -/
theorem costSum_le (first : x.Nonneg) (second : y.Nonneg) (double : x.IsDouble)
    (double' : x'.IsDouble) (le : x.le x' = true)
    (texts : y.toDecimal.le y'.toDecimal = true) :
    (costSum x y).le (costSum x' y') = true := by
  have zero : (Number.finite 0).Nonneg := le_refl (0 : ℚ)
  have text := toDecimal_nonneg first
  have head := add_le zero text zero.le_self (toDecimal_le first double double' le)
  have heads := add_nonneg zero text
  have text' := toDecimal_nonneg second
  exact toFloat_le (add_nonneg heads text') (add_le heads text' head texts)

/-- The decimal sum of two doubles is close to their binary sum. -/
theorem costSum_close {a b : ℚ} (first : 0 ≤ a) (second : 0 ≤ b)
    (double : binary64 a = .finite a) (double' : binary64 b = .finite b)
    (decimal : (costSum (.finite a) (.finite b)).isFinite = true)
    (binary : (plus (.finite a) (.finite b)).isFinite = true) :
    isClose tolerance tolerance (costSum (.finite a) (.finite b))
      (plus (.finite a) (.finite b)) = true := by
  have total : (costSum (.finite a) (.finite b)).Nonneg := costSum_nonneg first second
  have sum : (plus (.finite a) (.finite b)).Nonneg := binary64_nonneg (by linarith)
  obtain ⟨c, is, _⟩ := total.finite decimal
  obtain ⟨f, is', nonneg⟩ := sum.finite binary
  rw [is, is']
  have is_double : binary64 tolerance = .finite tolerance := by decide +kernel
  have wide : 1 / 2 ^ 48 ≤ tolerance := by
    unfold tolerance
    norm_num
  exact isClose_of_near wide wide is_double nonneg
    (near_of_sums first second double double' is is')

end Sums

/-! ## Plans pass their constructor -/

theorem finiteNonnegative_finite {q : ℚ} : finiteNonnegative (.finite q) ↔ 0 ≤ q := by
  constructor
  · intro both
    exact not_lt.mp (of_decide_eq_false both.2)
  · intro nonneg
    exact ⟨rfl, decide_eq_false (not_lt.mpr nonneg)⟩

theorem finiteNonnegative_iff {x : Number} :
    finiteNonnegative x ↔ ∃ q, x = .finite q ∧ 0 ≤ q := by
  constructor
  · intro both
    cases x with
    | finite q => exact ⟨q, rfl, finiteNonnegative_finite.mp both⟩
    | infinite negative => cases both.1
    | nan => cases both.1
  · rintro ⟨q, rfl, nonneg⟩
    exact finiteNonnegative_finite.mpr nonneg

/-- The costs of a policy, in their order. -/
theorem ValidPolicy.costs (policy : ValidPolicy) :
    ∃ p q, policy.estimatedCostUsd = .finite p ∧ policy.maximumCostUsd = .finite q ∧
      0 ≤ p ∧ p ≤ q := by
  have checked := policy.checked
  unfold NonComputeCostPolicy.check at checked
  obtain ⟨estimated, checked⟩ := check_bind_ok.mp checked
  obtain ⟨maximum, checked⟩ := check_bind_ok.mp checked
  obtain ⟨covers, _⟩ := check_bind_ok.mp checked
  obtain ⟨p, is, nonneg⟩ := finiteNonnegative_iff.mp (require_ok.mp estimated)
  obtain ⟨q, is', _⟩ := finiteNonnegative_iff.mp (require_ok.mp maximum)
  have order := require_ok.mp covers
  rw [is, is'] at order
  exact ⟨p, q, is, is', nonneg, not_lt.mp (of_decide_eq_false order)⟩

/-- The invariants of a plan that its constructor checks. -/
structure PlacementPlan.Sound (plan : PlacementPlan) : Prop where
  serverless : plan.resourceType = .serverlessEndpoint → 1 ≤ plan.maximumServerlessColdStarts
  pod : plan.resourceType = .pod → plan.maximumServerlessColdStarts = 0
  amounts : ∀ amount ∈ [plan.estimatedComputeCost, plan.maximumComputeCost,
    plan.estimatedNonComputeCost, plan.maximumNonComputeCost, plan.estimatedCost,
    plan.costCeiling], finiteNonnegative amount
  counts : ∀ count ∈ [plan.estimatedBillableSeconds, plan.maximumBillableSeconds,
    plan.maximumConcurrentWorkers], 1 ≤ count
  computeCovers : plan.maximumComputeCost.lt plan.estimatedComputeCost = false
  timeCovers : plan.estimatedBillableSeconds ≤ plan.maximumBillableSeconds
  nonComputeCovers : plan.maximumNonComputeCost.lt plan.estimatedNonComputeCost = false
  rated : isClose tolerance tolerance plan.estimatedComputeCost
      (ratedCost plan.placement.offeredCostPerHr plan.estimatedBillableSeconds
        plan.placement.gpuCount) = true ∧
    isClose tolerance tolerance plan.maximumComputeCost
      (ratedCost plan.placement.offeredCostPerHr plan.maximumBillableSeconds
        plan.placement.gpuCount) = true
  single : plan.resourceType = .pod → plan.maximumConcurrentWorkers = 1
  estimateSums : isClose tolerance tolerance plan.estimatedCost
    (plan.estimatedComputeCost.plus plan.estimatedNonComputeCost) = true
  ceilingSums : isClose tolerance tolerance plan.costCeiling
    (plan.maximumComputeCost.plus plan.maximumNonComputeCost) = true
  ceilingCovers : plan.costCeiling.lt plan.estimatedCost = false
  policy : NonComputeCostPolicy.check
    { estimatedCostUsd := plan.estimatedNonComputeCost
      maximumCostUsd := plan.maximumNonComputeCost
      coveredComponents := plan.nonComputeComponents } = .ok ()

theorem PlacementPlan.check_ok {plan : PlacementPlan} : plan.check = .ok () ↔ plan.Sound := by
  unfold PlacementPlan.check
  constructor
  · intro ok
    obtain ⟨serverless, ok⟩ := check_bind_ok.mp ok
    obtain ⟨pod, ok⟩ := check_bind_ok.mp ok
    obtain ⟨amounts, ok⟩ := check_bind_ok.mp ok
    obtain ⟨counts, ok⟩ := check_bind_ok.mp ok
    obtain ⟨compute, ok⟩ := check_bind_ok.mp ok
    obtain ⟨time, ok⟩ := check_bind_ok.mp ok
    obtain ⟨nonCompute, ok⟩ := check_bind_ok.mp ok
    obtain ⟨rated, ok⟩ := check_bind_ok.mp ok
    obtain ⟨single, ok⟩ := check_bind_ok.mp ok
    obtain ⟨estimate, ok⟩ := check_bind_ok.mp ok
    obtain ⟨ceiling, ok⟩ := check_bind_ok.mp ok
    obtain ⟨covers, policy⟩ := check_bind_ok.mp ok
    exact ⟨require_ok.mp serverless, require_ok.mp pod, require_each.mp amounts,
      require_each.mp counts, require_ok.mp compute, require_ok.mp time, require_ok.mp nonCompute,
      require_ok.mp rated, require_ok.mp single, require_ok.mp estimate, require_ok.mp ceiling,
      require_ok.mp covers, policy⟩
  · intro sound
    rw [check_bind_ok]
    refine ⟨require_ok.mpr sound.serverless, ?_⟩
    rw [check_bind_ok]
    refine ⟨require_ok.mpr sound.pod, ?_⟩
    rw [check_bind_ok]
    refine ⟨require_each.mpr sound.amounts, ?_⟩
    rw [check_bind_ok]
    refine ⟨require_each.mpr sound.counts, ?_⟩
    rw [check_bind_ok]
    refine ⟨require_ok.mpr sound.computeCovers, ?_⟩
    rw [check_bind_ok]
    refine ⟨require_ok.mpr sound.timeCovers, ?_⟩
    rw [check_bind_ok]
    refine ⟨require_ok.mpr sound.nonComputeCovers, ?_⟩
    rw [check_bind_ok]
    refine ⟨require_ok.mpr sound.rated, ?_⟩
    rw [check_bind_ok]
    refine ⟨require_ok.mpr sound.single, ?_⟩
    rw [check_bind_ok]
    refine ⟨require_ok.mpr sound.estimateSums, ?_⟩
    rw [check_bind_ok]
    refine ⟨require_ok.mpr sound.ceilingSums, ?_⟩
    rw [check_bind_ok]
    exact ⟨require_ok.mpr sound.ceilingCovers, sound.policy⟩

/-- No amount of the plan overflows a double. -/
structure PlacementPlan.BelowOverflow (plan : PlacementPlan) : Prop where
  estimatedCompute : plan.estimatedComputeCost.isFinite = true
  maximumCompute : plan.maximumComputeCost.isFinite = true
  estimated : plan.estimatedCost.isFinite = true
  ceiling : plan.costCeiling.isFinite = true
  estimatedSum : (plan.estimatedComputeCost.plus plan.estimatedNonComputeCost).isFinite = true
  ceilingSum : (plan.maximumComputeCost.plus plan.maximumNonComputeCost).isFinite = true

/-- What a plan of either product promises its constructor beside its costs. -/
structure Shaped (resourceType : ResourceType) (billable maximumBillable workers coldStarts : Nat) :
    Prop where
  billable_pos : 1 ≤ billable
  covers : billable ≤ maximumBillable
  workers_pos : 1 ≤ workers
  serverless : resourceType = .serverlessEndpoint → 1 ≤ coldStarts
  pod : resourceType = .pod → coldStarts = 0
  single : resourceType = .pod → workers = 1

/-- A rated plan passes the checks of its constructor. -/
theorem ratedPlan_checked {mode : LeaseMode} {resourceType : ResourceType}
    {placement : PlacementDecision} {policy : ValidPolicy}
    {billable maximumBillable workers coldStarts : Nat} {r : ℚ} (rate : 0 ≤ r)
    (rated : placement.offeredCostPerHr = .finite r)
    (shaped : Shaped resourceType billable maximumBillable workers coldStarts)
    (below : (ratedPlan mode resourceType placement policy.toNonComputeCostPolicy billable
      maximumBillable workers coldStarts).BelowOverflow) :
    (ratedPlan mode resourceType placement policy.toNonComputeCostPolicy billable
      maximumBillable workers coldStarts).check = .ok () := by
  obtain ⟨p, q, estimated, maximum, nonneg, covers⟩ := policy.costs
  have double := policy.estimated_double
  have double' := policy.maximum_double
  rw [estimated] at double
  rw [maximum] at double'
  have costs := ratedCost_le rate shaped.covers placement.gpuCount
  have rated_double := ratedCost_isDouble rate billable placement.gpuCount
  have rated_double' := ratedCost_isDouble rate maximumBillable placement.gpuCount
  have below_estimate := below.estimatedCompute
  have below_maximum := below.maximumCompute
  unfold ratedPlan at below_estimate below_maximum
  dsimp only at below_estimate below_maximum
  rw [rated] at below_estimate below_maximum
  obtain ⟨a, is, first⟩ := (ratedCost_nonneg rate billable placement.gpuCount).finite below_estimate
  obtain ⟨b, is', second⟩ :=
    (ratedCost_nonneg rate maximumBillable placement.gpuCount).finite below_maximum
  rw [is, is'] at costs
  rw [is] at rated_double
  rw [is'] at rated_double'
  have compute : a ≤ b := of_decide_eq_true costs
  have close := costSum_close first nonneg rated_double double
  have close' := costSum_close second (nonneg.trans covers) rated_double' double'
  have total := costSum_nonneg (x := .finite a) (y := .finite p) first nonneg
  have total' := costSum_nonneg (x := .finite b) (y := .finite q) second (nonneg.trans covers)
  have texts : (Number.finite p).toDecimal.le (Number.finite q).toDecimal = true :=
    decide_eq_true (shortest_mono nonneg double double' covers)
  have ordered := costSum_le (x := .finite a) (y := .finite p) first nonneg rated_double
    rated_double' (decide_eq_true compute) texts
  obtain ⟨estimatedCompute, maximumCompute, estimate, ceiling, estimatedSum, ceilingSum⟩ := below
  unfold ratedPlan at estimate ceiling estimatedSum ceilingSum
  dsimp only at estimate ceiling estimatedSum ceilingSum
  rw [rated, is, estimated] at estimate estimatedSum
  rw [rated, is', maximum] at ceiling ceilingSum
  obtain ⟨c, sum, positive⟩ := total.finite estimate
  obtain ⟨d, sum', positive'⟩ := total'.finite ceiling
  rw [sum, sum'] at ordered
  rw [sum] at close
  rw [sum'] at close'
  have named : (ratedPlan mode resourceType placement policy.toNonComputeCostPolicy billable
      maximumBillable workers coldStarts) =
    { mode := mode
      resourceType := resourceType
      placement := placement
      estimatedComputeCost := .finite a
      maximumComputeCost := .finite b
      estimatedNonComputeCost := .finite p
      maximumNonComputeCost := .finite q
      estimatedCost := .finite c
      costCeiling := .finite d
      estimatedBillableSeconds := billable
      maximumBillableSeconds := maximumBillable
      maximumConcurrentWorkers := workers
      nonComputeComponents := policy.coveredComponents
      maximumServerlessColdStarts := coldStarts } := by
    unfold ratedPlan
    dsimp only
    rw [rated, is, is', estimated, maximum, sum, sum']
  rw [PlacementPlan.check_ok, named]
  constructor
  case serverless => exact shaped.serverless
  case pod => exact shaped.pod
  case amounts =>
    intro amount member
    simp only [List.mem_cons, List.not_mem_nil, or_false] at member
    rcases member with rfl | rfl | rfl | rfl | rfl | rfl
    · exact finiteNonnegative_finite.mpr first
    · exact finiteNonnegative_finite.mpr second
    · exact finiteNonnegative_finite.mpr nonneg
    · exact finiteNonnegative_finite.mpr (nonneg.trans covers)
    · exact finiteNonnegative_finite.mpr positive
    · exact finiteNonnegative_finite.mpr positive'
  case counts =>
    intro count member
    simp only [List.mem_cons, List.not_mem_nil, or_false] at member
    rcases member with rfl | rfl | rfl
    · exact shaped.billable_pos
    · exact shaped.billable_pos.trans shaped.covers
    · exact shaped.workers_pos
  case computeCovers => exact decide_eq_false (not_lt.mpr compute)
  case timeCovers => exact shaped.covers
  case nonComputeCovers => exact decide_eq_false (not_lt.mpr covers)
  case rated =>
    rw [rated, is, is']
    exact ⟨isClose_self, isClose_self⟩
  case single => exact shaped.single
  case estimateSums => exact close rfl estimatedSum
  case ceilingSums => exact close' rfl ceilingSum
  case ceilingCovers => exact decide_eq_false (not_lt.mpr (of_decide_eq_true ordered))
  case policy =>
    rw [← estimated, ← maximum]
    exact policy.checked

/-! ## The least estimate -/

theorem cheaper_cases (best other : PlacementPlan) :
    cheaper best other = best ∨ cheaper best other = other := by
  unfold cheaper
  split
  · exact .inr rfl
  · exact .inl rfl

theorem cheaper_le {best other : PlacementPlan} (first : finiteNonnegative best.estimatedCost)
    (second : finiteNonnegative other.estimatedCost) :
    (cheaper best other).estimatedCost.le best.estimatedCost = true ∧
      (cheaper best other).estimatedCost.le other.estimatedCost = true := by
  obtain ⟨p, is, _⟩ := finiteNonnegative_iff.mp first
  obtain ⟨q, is', _⟩ := finiteNonnegative_iff.mp second
  unfold cheaper
  split
  · rename_i less
    rw [is, is'] at less ⊢
    have order : q < p := of_decide_eq_true less
    exact ⟨decide_eq_true order.le, decide_eq_true le_rfl⟩
  · rename_i not_less
    rw [is, is'] at not_less ⊢
    have order : p ≤ q := not_lt.mp fun less => not_less (decide_eq_true less)
    exact ⟨decide_eq_true le_rfl, decide_eq_true order⟩

theorem foldl_mem {plans : List PlacementPlan} {plan : PlacementPlan} :
    plans.foldl cheaper plan ∈ plan :: plans := by
  induction plans generalizing plan with
  | nil => exact List.mem_cons_self
  | cons next rest ih =>
      rw [List.foldl_cons]
      have first : rest.foldl cheaper (cheaper plan next) ∈ cheaper plan next :: rest := ih
      rcases List.mem_cons.mp first with is | later
      · rw [is]
        rcases cheaper_cases plan next with is | is <;> rw [is]
        · exact List.mem_cons_self
        · exact List.mem_cons_of_mem plan List.mem_cons_self
      · exact List.mem_cons_of_mem plan (List.mem_cons_of_mem next later)

theorem foldl_least {plans : List PlacementPlan} {plan : PlacementPlan}
    (finite : ∀ one ∈ plan :: plans, finiteNonnegative one.estimatedCost) :
    ∀ other ∈ plan :: plans,
      (plans.foldl cheaper plan).estimatedCost.le other.estimatedCost = true := by
  induction plans generalizing plan with
  | nil =>
      intro other member
      rcases List.mem_singleton.mp member with rfl
      obtain ⟨q, is, _⟩ := finiteNonnegative_iff.mp (finite other List.mem_cons_self)
      rw [List.foldl_nil, is]
      exact decide_eq_true le_rfl
  | cons next rest ih =>
      have first := finite plan List.mem_cons_self
      have second := finite next (List.mem_cons_of_mem plan List.mem_cons_self)
      have kept : finiteNonnegative (cheaper plan next).estimatedCost := by
        rcases cheaper_cases plan next with is | is <;> rw [is]
        · exact first
        · exact second
      have finite' : ∀ one ∈ cheaper plan next :: rest, finiteNonnegative one.estimatedCost := by
        intro one inside
        rcases List.mem_cons.mp inside with rfl | later
        · exact kept
        · exact finite one (List.mem_cons_of_mem plan (List.mem_cons_of_mem next later))
      have least := ih finite'
      have head := least (cheaper plan next) List.mem_cons_self
      obtain ⟨m, is, positive⟩ := finiteNonnegative_iff.mp (finite' _ foldl_mem)
      have nonneg : (rest.foldl cheaper (cheaper plan next)).estimatedCost.Nonneg := by
        rw [is]
        exact positive
      obtain ⟨below, below'⟩ := cheaper_le first second
      rw [List.foldl_cons]
      intro other inside
      rcases List.mem_cons.mp inside with rfl | inside
      · exact nonneg.le_trans head below
      rcases List.mem_cons.mp inside with rfl | later
      · exact nonneg.le_trans head below'
      · exact least other (List.mem_cons_of_mem _ later)

theorem leastEstimate_mem {plans : List PlacementPlan} {plan : PlacementPlan}
    (chosen : leastEstimate plans = some plan) : plan ∈ plans := by
  cases plans with
  | nil => cases chosen
  | cons first rest =>
      cases chosen
      exact foldl_mem

/-- No plan has a lower estimate than the chosen one. -/
theorem leastEstimate_least {plans : List PlacementPlan} {plan : PlacementPlan}
    (finite : ∀ one ∈ plans, finiteNonnegative one.estimatedCost)
    (chosen : leastEstimate plans = some plan) :
    ∀ other ∈ plans, plan.estimatedCost.le other.estimatedCost = true := by
  cases plans with
  | nil => cases chosen
  | cons first rest =>
      cases chosen
      exact foldl_least finite

theorem leastEstimate_none {plans : List PlacementPlan} (none_ : leastEstimate plans = none) :
    plans = [] := by
  cases plans with
  | nil => rfl
  | cons first rest => cases none_

/-! ## Candidates -/

section Candidates

variable (request : LeaseRequest) (decisions : ComputeProduct → Option PlacementDecision)
  (policies : LeaseMode → Option NonComputeCostPolicy) (plannedAt : Instant) (workers : Nat)

/-- The whole seconds left of the lease. -/
def remainingSeconds : Nat := (ceilSeconds (request.hardDeadline - plannedAt)).toNat

/-- The modes that the request and the placements leave a plan for. -/
inductive Wanted : LeaseMode → Prop
  | serverless {placement : PlacementDecision} {coldStarts : Nat}
      (allowed : request.mode = .auto ∨ request.mode = .serverlessLoadBalancer)
      (placed : decisions .serverless = some placement)
      (bounded : maximumServerlessColdStarts request.expectedSessionSeconds
        request.serverlessIdleTailSeconds = some coldStarts)
      (remains : 1 ≤ remainingSeconds request plannedAt) : Wanted .serverlessLoadBalancer
  | pod {placement : PlacementDecision}
      (allowed : request.mode = .auto ∨ request.mode = .dedicatedPod)
      (placed : decisions .pod = some placement)
      (enough : request.expectedSessionSeconds ≤ remainingSeconds request plannedAt)
      (remains : 1 ≤ remainingSeconds request plannedAt) : Wanted .dedicatedPod

/-- A wanted mode has no policy. -/
def Unpriced : Prop :=
  ∃ mode, Wanted request decisions plannedAt mode ∧ policies mode = none

/-- The plans of the wanted modes. -/
inductive Candidate : PlacementPlan → Prop
  | serverless {placement : PlacementDecision} {coldStarts : Nat} {policy : NonComputeCostPolicy}
      (allowed : request.mode = .auto ∨ request.mode = .serverlessLoadBalancer)
      (placed : decisions .serverless = some placement)
      (bounded : maximumServerlessColdStarts request.expectedSessionSeconds
        request.serverlessIdleTailSeconds = some coldStarts)
      (remains : 1 ≤ remainingSeconds request plannedAt)
      (priced : policies .serverlessLoadBalancer = some policy) :
      Candidate (serverlessPlan request placement policy (remainingSeconds request plannedAt)
        workers coldStarts)
  | pod {placement : PlacementDecision} {policy : NonComputeCostPolicy}
      (allowed : request.mode = .auto ∨ request.mode = .dedicatedPod)
      (placed : decisions .pod = some placement)
      (enough : request.expectedSessionSeconds ≤ remainingSeconds request plannedAt)
      (remains : 1 ≤ remainingSeconds request plannedAt)
      (priced : policies .dedicatedPod = some policy) :
      Candidate (podPlan request placement policy (remainingSeconds request plannedAt))

/-- A candidate whose ceiling is authorized. -/
structure Affordable (plan : PlacementPlan) : Prop where
  candidate : Candidate request decisions policies plannedAt workers plan
  authorized : plan.costCeiling.le request.maxAuthorizedCost = true

/-- A selection is a sound, authorized plan of least estimate, in a mode that the request allows,
or it is refused for want of one or of a policy. -/
inductive Selects : Except Exn PlacementPlan → Prop
  | plan {plan : PlacementPlan}
      (affordable : Affordable request decisions policies plannedAt workers plan)
      (sound : plan.Sound)
      (allowed : request.mode = .auto ∨ request.mode = plan.mode)
      (least : ∀ other, Affordable request decisions policies plannedAt workers other →
        plan.estimatedCost.le other.estimatedCost = true)
      (priced : ¬ Unpriced request decisions policies plannedAt) : Selects (.ok plan)
  | refused {message : String}
      (none_ : Unpriced request decisions policies plannedAt ∨
        ∀ plan, ¬ Affordable request decisions policies plannedAt workers plan) :
      Selects (.error (.manager message))

end Candidates

/-! ## The selection -/

theorem ValidRequest.positive_seconds (request : ValidRequest) :
    1 ≤ request.leaseRequest.expectedSessionSeconds ∧
      1 ≤ request.leaseRequest.expectedActiveSeconds := by
  have checked := request.checked
  unfold RequestRecord.check at checked
  by_cases times : request.expectedSessionSeconds ≤ 0 ∨ request.expectedActiveSeconds ≤ 0 ∨
      request.idleTimeoutSeconds ≤ 0 ∨ request.readinessTimeoutSeconds ≤ 0
  · rw [if_pos times] at checked
    split_ifs at checked
  · have session : 0 < request.expectedSessionSeconds := not_le.mp fun le => times (.inl le)
    have active : 0 < request.expectedActiveSeconds :=
      not_le.mp fun le => times (.inr (.inl le))
    have seconds : request.leaseRequest.expectedSessionSeconds =
      request.expectedSessionSeconds.toNat := rfl
    have seconds' : request.leaseRequest.expectedActiveSeconds =
      request.expectedActiveSeconds.toNat := rfl
    omega

/-- Decisions whose rates are finite and positive. -/
def Rated (decisions : ComputeProduct → Option PlacementDecision) : Prop :=
  ∀ product placement, decisions product = some placement →
    ∃ r, 0 < r ∧ placement.offeredCostPerHr = .finite r

section Selection

variable {request : ValidRequest} {decisions : ComputeProduct → Option PlacementDecision}
  {policies : LeaseMode → Option ValidPolicy} {plannedAt : Instant} {workers : Nat}

/-- The policies without the proofs that they are valid. -/
def bare (policies : LeaseMode → Option ValidPolicy) (mode : LeaseMode) :
    Option NonComputeCostPolicy := (policies mode).map ValidPolicy.toNonComputeCostPolicy

/-- Every candidate is sound while its amounts are below overflow. -/
theorem Candidate.sound (rated : Rated decisions) (positive : 1 ≤ workers) {plan : PlacementPlan}
    (candidate : Candidate request.leaseRequest decisions (bare policies) plannedAt workers plan)
    (below : plan.BelowOverflow) : plan.Sound := by
  obtain ⟨session, active⟩ := request.positive_seconds
  rw [← PlacementPlan.check_ok]
  cases candidate with
  | serverless allowed placed bounded remains priced =>
      rename_i placement coldStarts policy
      obtain ⟨valid, _, rfl⟩ := Option.map_eq_some_iff.mp priced
      obtain ⟨r, rate, is⟩ := rated .serverless placement placed
      have starts : 1 ≤ coldStarts := by
        unfold maximumServerlessColdStarts at bounded
        split at bounded
        · cases bounded
        · rw [← Option.some.inj bounded]
          exact Nat.le_add_right 1 _
      refine ratedPlan_checked rate.le is ⟨?_, le_max_left _ _, positive, fun _ => starts, ?_, ?_⟩
        below
      · omega
      · intro pod
        cases pod
      · intro pod
        cases pod
  | pod allowed placed enough remains priced =>
      rename_i placement policy
      obtain ⟨valid, _, rfl⟩ := Option.map_eq_some_iff.mp priced
      obtain ⟨r, rate, is⟩ := rated .pod placement placed
      refine ratedPlan_checked rate.le is ⟨session, enough, le_rfl, ?_, fun _ => rfl, fun _ => rfl⟩
        below
      intro serverless
      cases serverless

theorem Candidate.allowed {plan : PlacementPlan}
    (candidate : Candidate request.leaseRequest decisions (bare policies) plannedAt workers plan) :
    request.leaseRequest.mode = .auto ∨ request.leaseRequest.mode = plan.mode := by
  cases candidate with
  | serverless allowed placed bounded remains priced => exact allowed
  | pod allowed placed enough remains priced => exact allowed

theorem Candidate.wanted {plan : PlacementPlan}
    (candidate : Candidate request.leaseRequest decisions (bare policies) plannedAt workers plan) :
    Wanted request.leaseRequest decisions plannedAt plan.mode := by
  cases candidate with
  | serverless allowed placed bounded remains priced =>
      exact .serverless allowed placed bounded remains
  | pod allowed placed enough remains priced => exact .pod allowed placed enough remains

theorem Wanted.concrete {request : LeaseRequest} {mode : LeaseMode}
    (wanted : Wanted request decisions plannedAt mode) :
    mode = .serverlessLoadBalancer ∨ mode = .dedicatedPod := by
  cases wanted with
  | serverless allowed placed bounded remains => exact .inl rfl
  | pod allowed placed enough remains => exact .inr rfl

theorem constructed_ok {plan : PlacementPlan} {plans : List PlacementPlan} :
    constructed plan = .ok plans ↔ plan.Sound ∧ plans = [plan] := by
  unfold constructed
  rw [check_bind_ok, PlacementPlan.check_ok]
  constructor
  · rintro ⟨sound, ok⟩
    exact ⟨sound, (Except.ok.inj ok).symm⟩
  · rintro ⟨sound, rfl⟩
    exact ⟨sound, rfl⟩

theorem requiredPolicy_ok {policies : LeaseMode → Option NonComputeCostPolicy}
    {mode : LeaseMode} {policy : NonComputeCostPolicy}
    (ok : requiredPolicy policies mode = .ok policy) : policies mode = some policy := by
  unfold requiredPolicy at ok
  split at ok
  · rename_i is
    rw [is, Except.ok.inj ok]
  · cases ok

/-- The step of a mode gives the candidates of that mode, or refuses for want of a policy. -/
inductive Offers (request : LeaseRequest) (decisions : ComputeProduct → Option PlacementDecision)
    (policies : LeaseMode → Option NonComputeCostPolicy) (plannedAt : Instant) (workers : Nat)
    (mode : LeaseMode) : Except Exn (List PlacementPlan) → Prop
  | plans {plans : List PlacementPlan}
      (candidates : ∀ plan, plan ∈ plans ↔
        plan.mode = mode ∧ Candidate request decisions policies plannedAt workers plan)
      (priced : Wanted request decisions plannedAt mode → policies mode ≠ none) :
      Offers request decisions policies plannedAt workers mode (.ok plans)
  | refused {message : String} (unpriced : Unpriced request decisions policies plannedAt) :
      Offers request decisions policies plannedAt workers mode (.error (.manager message))

/-- A wanted mode offers the plan that its policy makes. -/
theorem offers_of_wanted {mode : LeaseMode} {make : NonComputeCostPolicy → PlacementPlan}
    (wanted : Wanted request.leaseRequest decisions plannedAt mode)
    (plans : ∀ plan, (plan.mode = mode ∧
        Candidate request.leaseRequest decisions (bare policies) plannedAt workers plan) ↔
      ∃ policy, bare policies mode = some policy ∧ plan = make policy)
    (sound : ∀ plan, Candidate request.leaseRequest decisions (bare policies) plannedAt workers
      plan → plan.Sound) :
    Offers request.leaseRequest decisions (bare policies) plannedAt workers mode (do
      let policy ← requiredPolicy (bare policies) mode
      constructed (make policy)) := by
  unfold requiredPolicy
  cases priced : bare policies mode with
  | some policy =>
      have made := (plans (make policy)).mpr ⟨policy, priced, rfl⟩
      have one : constructed (make policy) = .ok [make policy] :=
        constructed_ok.mpr ⟨sound _ made.2, rfl⟩
      dsimp only [bind, Except.bind]
      rw [one]
      refine .plans (fun plan => ?_) fun _ missing => nomatch priced.symm.trans missing
      rw [List.mem_singleton, plans]
      constructor
      · intro is
        exact ⟨policy, priced, is⟩
      · rintro ⟨other, priced', is⟩
        rw [is, Option.some.inj (priced.symm.trans priced')]
  | none => exact .refused ⟨mode, wanted, priced⟩

theorem offers_of_unwanted {mode : LeaseMode}
    (unwanted : ¬ Wanted request.leaseRequest decisions plannedAt mode) :
    Offers request.leaseRequest decisions (bare policies) plannedAt workers mode (.ok []) := by
  refine .plans (fun plan => ?_) fun wanted => absurd wanted unwanted
  refine iff_of_false (fun inside => nomatch inside) ?_
  rintro ⟨rfl, candidate⟩
  exact unwanted candidate.wanted

theorem serverlessCandidate_offers
    (remains : 1 ≤ remainingSeconds request.leaseRequest plannedAt)
    (sound : ∀ plan, Candidate request.leaseRequest decisions (bare policies) plannedAt workers
      plan → plan.Sound) :
    Offers request.leaseRequest decisions (bare policies) plannedAt workers .serverlessLoadBalancer
      (serverlessCandidate request.leaseRequest decisions (bare policies)
        (remainingSeconds request.leaseRequest plannedAt) workers) := by
  unfold serverlessCandidate
  split
  · rename_i placement coldStarts placed bounded
    split
    · rename_i allowed
      refine offers_of_wanted (.serverless allowed placed bounded remains) (fun plan => ?_) sound
      constructor
      · rintro ⟨mode, candidate⟩
        cases candidate with
        | serverless allowed' placed' bounded' remains' priced =>
            cases placed.symm.trans placed'
            cases bounded.symm.trans bounded'
            exact ⟨_, priced, rfl⟩
        | pod allowed' placed' enough' remains' priced => cases mode
      · rintro ⟨policy, priced, rfl⟩
        exact ⟨rfl, .serverless allowed placed bounded remains priced⟩
    · rename_i not_allowed
      refine offers_of_unwanted fun wanted => ?_
      cases wanted with
      | serverless allowed placed bounded remains => exact not_allowed allowed
  · rename_i missing
    refine offers_of_unwanted fun wanted => ?_
    cases wanted with
    | serverless allowed placed bounded remains => exact missing _ _ placed bounded

theorem podCandidate_offers (remains : 1 ≤ remainingSeconds request.leaseRequest plannedAt)
    (sound : ∀ plan, Candidate request.leaseRequest decisions (bare policies) plannedAt workers
      plan → plan.Sound) :
    Offers request.leaseRequest decisions (bare policies) plannedAt workers .dedicatedPod
      (podCandidate request.leaseRequest decisions (bare policies)
        (remainingSeconds request.leaseRequest plannedAt)) := by
  unfold podCandidate
  split
  · rename_i placement placed
    split
    · rename_i both
      obtain ⟨enough, allowed⟩ := both
      refine offers_of_wanted (.pod allowed placed enough remains) (fun plan => ?_) sound
      constructor
      · rintro ⟨mode, candidate⟩
        cases candidate with
        | serverless allowed' placed' bounded' remains' priced => cases mode
        | pod allowed' placed' enough' remains' priced =>
            cases placed.symm.trans placed'
            exact ⟨_, priced, rfl⟩
      · rintro ⟨policy, priced, rfl⟩
        exact ⟨rfl, .pod allowed placed enough remains priced⟩
    · rename_i not_both
      refine offers_of_unwanted fun wanted => ?_
      cases wanted with
      | pod allowed placed enough remains => exact not_both ⟨enough, allowed⟩
  · rename_i missing
    refine offers_of_unwanted fun wanted => ?_
    cases wanted with
    | pod allowed placed enough remains => exact nomatch missing.symm.trans placed

/-- For a valid request, rated placements, valid policies and amounts below overflow, the
selection is a sound, authorized plan of least estimate, or a refusal when there is none. -/
theorem selectPlan_selects (request : ValidRequest)
    (decisions : ComputeProduct → Option PlacementDecision)
    (policies : LeaseMode → Option ValidPolicy) (plannedAt : Instant) (workers : Nat)
    (failures : List String) (positive : 1 ≤ workers) (rated : Rated decisions)
    (below : ∀ plan, Candidate request.leaseRequest decisions (bare policies) plannedAt workers
      plan → plan.BelowOverflow) :
    Selects request.leaseRequest decisions (bare policies) plannedAt workers
      (selectPlan request.leaseRequest decisions (bare policies) plannedAt workers failures) := by
  have sound : ∀ plan, Candidate request.leaseRequest decisions (bare policies) plannedAt workers
      plan → plan.Sound := fun plan candidate => candidate.sound rated positive (below plan candidate)
  unfold selectPlan
  rw [require_ok.mpr positive]
  dsimp only [bind, Except.bind]
  by_cases late : ceilSeconds (request.leaseRequest.hardDeadline - plannedAt) < 1
  · rw [if_pos late]
    refine .refused (.inr fun plan affordable => ?_)
    have none_left : remainingSeconds request.leaseRequest plannedAt < 1 := by
      unfold remainingSeconds
      omega
    cases affordable.candidate with
    | serverless allowed placed bounded remains priced => omega
    | pod allowed placed enough remains priced => omega
  rw [if_neg late]
  have remains : 1 ≤ remainingSeconds request.leaseRequest plannedAt := by
    unfold remainingSeconds
    omega
  have first := serverlessCandidate_offers remains sound
  have second := podCandidate_offers remains sound
  have seconds : remainingSeconds request.leaseRequest plannedAt =
      (ceilSeconds (request.leaseRequest.hardDeadline - plannedAt)).toNat := rfl
  rw [seconds] at first second
  generalize serverlessCandidate request.leaseRequest decisions (bare policies)
    (ceilSeconds (request.leaseRequest.hardDeadline - plannedAt)).toNat workers = step at first ⊢
  generalize podCandidate request.leaseRequest decisions (bare policies)
    (ceilSeconds (request.leaseRequest.hardDeadline - plannedAt)).toNat = step' at second ⊢
  cases first with
  | refused unpriced => exact .refused (.inl unpriced)
  | plans candidates priced =>
      rename_i plans
      cases second with
      | refused unpriced => exact .refused (.inl unpriced)
      | plans candidates' priced' =>
          rename_i plans'
          dsimp only
          have members : ∀ plan, plan ∈ (plans ++ plans').filter (fun plan =>
              plan.costCeiling.le request.leaseRequest.maxAuthorizedCost) ↔
              Affordable request.leaseRequest decisions (bare policies) plannedAt workers plan := by
            intro plan
            rw [List.mem_filter, List.mem_append, candidates, candidates']
            constructor
            · rintro ⟨⟨_, candidate⟩ | ⟨_, candidate⟩, authorized⟩
              · exact ⟨candidate, authorized⟩
              · exact ⟨candidate, authorized⟩
            · rintro ⟨candidate, authorized⟩
              refine ⟨?_, authorized⟩
              cases candidate.wanted.concrete with
              | inl is => exact .inl ⟨is, candidate⟩
              | inr is => exact .inr ⟨is, candidate⟩
          cases chosen : leastEstimate ((plans ++ plans').filter fun plan =>
              plan.costCeiling.le request.leaseRequest.maxAuthorizedCost) with
          | none =>
              dsimp only
              refine .refused (.inr fun plan affordable => ?_)
              have inside := (members plan).mpr affordable
              rw [leastEstimate_none chosen] at inside
              cases inside
          | some plan =>
              dsimp only
              have finite : ∀ one ∈ (plans ++ plans').filter (fun plan =>
                  plan.costCeiling.le request.leaseRequest.maxAuthorizedCost),
                  finiteNonnegative one.estimatedCost := by
                intro one inside
                have amounts := (sound one ((members one).mp inside).candidate).amounts
                exact amounts _ (by simp)
              have least := leastEstimate_least finite chosen
              have affordable := (members plan).mp (leastEstimate_mem chosen)
              refine .plan affordable (sound plan affordable.candidate)
                affordable.candidate.allowed (fun other also => ?_) ?_
              · exact least other ((members other).mpr also)
              · rintro ⟨mode, wanted, missing⟩
                rcases wanted.concrete with rfl | rfl
                · exact priced wanted missing
                · exact priced' wanted missing

end Selection

/-! ### A sample selection -/

namespace Planning

/-- A placement at half a dollar an hour for one GPU. -/
def placement (product : ComputeProduct) : PlacementDecision where
  product := product
  gpuId := "NVIDIA L4"
  gpuPool := some "ADA_24"
  gpuName := "L4"
  gpuCount := 1
  offeredCostPerHr := .finite (1 / 2)
  catalogObservedAt := 0

def policy : ValidPolicy where
  estimatedCostUsd := .finite 0
  maximumCostUsd := .finite (1 / 4)
  coveredComponents := [.containerDisk, .modelTransfer, .retryAllowance]
  estimated_double := by
    unfold IsDouble
    decide +kernel
  maximum_double := by
    unfold IsDouble
    decide +kernel
  checked := by decide +kernel

def decisions (product : ComputeProduct) : Option PlacementDecision := some (placement product)

def policies (_ : LeaseMode) : Option ValidPolicy := some policy

theorem below (plan : PlacementPlan)
    (candidate : Candidate Recovery.unanchored.leaseRequest decisions (bare policies) 0 2 plan) :
    plan.BelowOverflow := by
  cases candidate with
  | serverless allowed placed bounded remains priced =>
      cases placed
      cases priced
      have starts : some 21 = some _ := bounded
      cases starts
      constructor <;> decide +kernel
  | pod allowed placed enough remains priced =>
      cases placed
      cases priced
      constructor <;> decide +kernel

end Planning

/-- Both products are placed at half a dollar an hour, and the Pod plan is chosen. -/
theorem selectPlan_selects_pod :
    Selects Recovery.unanchored.leaseRequest Planning.decisions (bare Planning.policies) 0 2
      (selectPlan Recovery.unanchored.leaseRequest Planning.decisions (bare Planning.policies) 0 2
        []) ∧
    (selectPlan Recovery.unanchored.leaseRequest Planning.decisions (bare Planning.policies) 0 2
      []).map PlacementPlan.mode = .ok .dedicatedPod := by
  refine ⟨selectPlan_selects Recovery.unanchored Planning.decisions Planning.policies 0 2 []
    (by decide) ?_ Planning.below, by decide +kernel⟩
  intro product placement placed
  cases placed
  exact ⟨1 / 2, by norm_num, rfl⟩

end KestrelRunpod.Ollama
