import KestrelRunpod.Numeric.Ceilings
import KestrelRunpod.Pod.Offers
import KestrelRunpod.Serverless.Placement

/-!
# Cost ceilings

`pod_cost_usd` and `serverless_worker_cost_usd` multiply and divide in 28 digits and round the
result up to a micro-dollar.  What they return is a ceiling of the exact cost unless a whole
number of micro-dollars lies between that and the 28 digits kept of it (`Separated`), which
takes a cost of more than twenty-six digits or factors of more than twenty-seven.  They are
monotone whatever is lost, so a quote's ceiling is never below its estimate.
-/

namespace KestrelRunpod.Costs

open Numeric
open Pod (podCostUsd)
open Serverless (serverlessWorkerCostUsd quoteAmounts quoteCatalog Envelope EndpointSpec
  QuoteRequest)

/-! ## Exact and kept costs -/

/-- The cost of running GPUs for a time, at an hourly rate for each. -/
def exactCost (rate : Decimal) (seconds gpuCount : Int) : ℚ :=
  rate.value * seconds * gpuCount / 3600

/-- The cost as 28 digits keep it, multiplied by the one factor and then by the other. -/
def keptCost (rate : Decimal) (first second : Int) : ℚ :=
  context (context (context (rate.value * first) * second) / 3600)

/-- No whole number of micro-dollars lies between the exact cost and the kept one. -/
def Separated (rate : Decimal) (first second : Int) : Prop :=
  SameMultiples (-6) (exactCost rate first second) (keptCost rate first second)

/-- The value is at least the cost, and less than a micro-dollar above it. -/
structure Ceiling (cost : ℚ) (value : Decimal) : Prop where
  covers : cost ≤ value.value
  tight : value.value < cost + 10 ^ (-6 : ℤ)

/-- The digits of the rate, the seconds and the GPUs have a product below `2 * 10 ^ 27`, also
with the rate in units of a hundredth of a cent. -/
def Short (rate : Decimal) (first second : Int) : Prop :=
  rate.coefficient * first * second * 10 ^ (rate.exponent + 4).toNat < 2 * 10 ^ 27

variable {rate value value' : Decimal} {first second first' second' : Int}

theorem exactCost_comm : exactCost rate first second = exactCost rate second first := by
  unfold exactCost
  ring

/-- The cost is a quotient of integers, in micro-dollars. -/
theorem exactCost_quotient : exactCost rate first second =
    ((rate.coefficient * first * second * 10 ^ (rate.exponent + 4).toNat : ℤ) : ℚ) /
      ((36 * 10 ^ (-(rate.exponent + 4)).toNat : ℤ) : ℚ) * 10 ^ (-6 : ℤ) := by
  have shift : (10 : ℚ) ^ rate.exponent =
      10 ^ (rate.exponent + 4).toNat / 10 ^ (-(rate.exponent + 4)).toNat / 10 ^ 4 := by
    have parts : rate.exponent = ((rate.exponent + 4).toNat : ℤ) -
        ((-(rate.exponent + 4)).toNat : ℤ) - (4 : ℕ) := by omega
    conv_lhs => rw [parts]
    rw [zpow_sub₀ (by norm_num : (10 : ℚ) ≠ 0), zpow_sub₀ (by norm_num : (10 : ℚ) ≠ 0),
      zpow_natCast, zpow_natCast, zpow_natCast]
  unfold exactCost Decimal.value
  rw [shift]
  push_cast
  field_simp
  norm_num
  ring

/-- Products of at most 28 digits are kept. -/
theorem keptCost_of_fits (rated : 0 ≤ rate.coefficient) (first_nonneg : 0 ≤ first)
    (second_pos : 0 < second) (fits : rate.coefficient * first * second ≤ 10 ^ 28) :
    keptCost rate first second = context (exactCost rate first second) := by
  have product : 0 ≤ rate.coefficient * first := mul_nonneg rated first_nonneg
  have smaller : rate.coefficient * first ≤ 10 ^ 28 :=
    (le_mul_of_one_le_right product second_pos).trans fits
  have one : rate.value * first = ((rate.coefficient * first : ℤ) : ℚ) * 10 ^ rate.exponent := by
    unfold Decimal.value
    push_cast
    ring
  have two : ((rate.coefficient * first : ℤ) : ℚ) * 10 ^ rate.exponent * second =
      ((rate.coefficient * first * second : ℤ) : ℚ) * 10 ^ rate.exponent := by
    push_cast
    ring
  have whole : exactCost rate first second =
      ((rate.coefficient * first * second : ℤ) : ℚ) * 10 ^ rate.exponent / 3600 := by
    unfold exactCost
    rw [one, two]
  unfold keptCost
  rw [one, context_of_coefficient product smaller, two,
    context_of_coefficient (mul_nonneg product second_pos.le) fits, whole]

/-- Factors with few digits keep their cost above the same numbers of micro-dollars. -/
theorem separated_of_short (rated : 0 ≤ rate.coefficient) (first_nonneg : 0 ≤ first)
    (second_pos : 0 < second) (short : Short rate first second) : Separated rate first second := by
  unfold Short at short
  have product : 0 ≤ rate.coefficient * first * second :=
    mul_nonneg (mul_nonneg rated first_nonneg) second_pos.le
  have power : (1 : ℤ) ≤ 10 ^ (rate.exponent + 4).toNat := one_le_pow₀ (by norm_num)
  have fits : rate.coefficient * first * second ≤ 10 ^ 28 := by
    have grown := le_mul_of_one_le_right product power
    omega
  have divisor : (0 : ℤ) < 36 * 10 ^ (-(rate.exponent + 4)).toNat := by positivity
  have same := sameMultiples_quotient (mul_nonneg product (by positivity)) divisor short
  have scaled := same.scale (-6)
  have nonneg : (0 : ℚ) ≤
      ((rate.coefficient * first * second * 10 ^ (rate.exponent + 4).toNat : ℤ) : ℚ) /
        ((36 * 10 ^ (-(rate.exponent + 4)).toNat : ℤ) : ℚ) :=
    div_nonneg (by exact_mod_cast mul_nonneg product (by positivity))
      (by exact_mod_cast divisor.le)
  rw [← context_scale nonneg, ← exactCost_quotient] at scaled
  unfold Separated
  rw [keptCost_of_fits rated first_nonneg second_pos fits]
  exact scaled

/-- Where the products fit, only a cost that 28 digits swallow is not kept apart. -/
theorem separated_iff_not_swallowed (rated : 0 ≤ rate.coefficient) (first_nonneg : 0 ≤ first)
    (second_pos : 0 < second) (fits : rate.coefficient * first * second ≤ 10 ^ 28)
    (below : exactCost rate first second < 10 ^ 22) :
    Separated rate first second ↔ ¬ Swallowed (exactCost rate first second * 10 ^ 6) := by
  have first_nonneg' : (0 : ℚ) ≤ first := by exact_mod_cast first_nonneg
  have second_nonneg' : (0 : ℚ) ≤ second := by exact_mod_cast second_pos.le
  have nonneg : 0 ≤ exactCost rate first second := by
    have value_nonneg := Decimal.nonneg_of_coefficient rated
    unfold exactCost
    positivity
  have nonneg' : 0 ≤ exactCost rate first second * 10 ^ 6 := by positivity
  have short : exactCost rate first second * 10 ^ 6 < 10 ^ 28 := by
    calc exactCost rate first second * 10 ^ 6 < 10 ^ 22 * 10 ^ 6 :=
          mul_lt_mul_of_pos_right below (by norm_num)
      _ = 10 ^ 28 := by norm_num
  have dollars : exactCost rate first second * 10 ^ 6 * 10 ^ (-6 : ℤ) =
      exactCost rate first second := by
    rw [zpow_neg, mul_assoc]
    norm_num
  rw [← sameMultiples_iff_not_swallowed nonneg' short]
  unfold Separated
  rw [keptCost_of_fits rated first_nonneg second_pos fits]
  constructor
  · intro same
    have scaled := same.scale 6
    have up : context (exactCost rate first second) * 10 ^ (6 : ℤ) =
        context (exactCost rate first second * 10 ^ 6) := by
      rw [← context_scale nonneg]
      norm_num
    rw [up] at scaled
    exact_mod_cast scaled
  · intro same
    have scaled := same.scale (-6)
    rwa [← context_scale nonneg', dollars] at scaled

/-! ## What the cost functions return -/

theorem podCostUsd_ok (ok : podCostUsd rate first second = .ok value) :
    0 < rate.coefficient ∧ 0 ≤ first ∧ 0 < second ∧
      Decimal.quantizeCeiling (keptCost rate first second) (-6) = some value := by
  unfold podCostUsd at ok
  rw [Pod.refuse_bind_ok, not_or, not_or, not_le, not_lt, not_lt] at ok
  obtain ⟨⟨rated, timed, counted⟩, quantized⟩ := ok
  refine ⟨rated, timed, counted, ?_⟩
  unfold keptCost
  dsimp only at quantized
  split at quantized
  · rename_i amount is
    cases quantized
    exact is
  · cases quantized

theorem serverlessWorkerCostUsd_ok (ok : serverlessWorkerCostUsd rate first second = .ok value) :
    0 < rate.coefficient ∧ 0 < first ∧ 0 < second ∧
      Decimal.quantizeCeiling (keptCost rate first second) (-6) = some value := by
  unfold serverlessWorkerCostUsd Serverless.positiveDecimal Serverless.positiveInt at ok
  rw [Serverless.refuse_bind_ok, Serverless.refuse_bind_ok, Serverless.refuse_bind_ok, not_le,
    not_lt, not_lt] at ok
  obtain ⟨rated, counted, timed, quantized⟩ := ok
  refine ⟨rated, counted, timed, ?_⟩
  unfold keptCost
  dsimp only at quantized
  split at quantized
  · rename_i amount is
    cases quantized
    exact is
  · cases quantized

/-- What was rounded up is a ceiling exactly if the kept cost is separated from no number of
micro-dollars. -/
theorem ceiling_iff
    (quantized : Decimal.quantizeCeiling (keptCost rate first second) (-6) = some value) :
    Ceiling (exactCost rate first second) value ↔ Separated rate first second := by
  have bounds := quantizeCeiling_bounds_iff (x := exactCost rate first second) quantized
  unfold Separated
  rw [← bounds]
  exact ⟨fun ceiling => ⟨ceiling.covers, ceiling.tight⟩, fun is => ⟨is.1, is.2⟩⟩

theorem keptCost_nonneg (rated : 0 ≤ rate.coefficient) (first_nonneg : 0 ≤ first)
    (second_nonneg : 0 ≤ second) : 0 ≤ keptCost rate first second := by
  have value_nonneg := Decimal.nonneg_of_coefficient rated
  have first_nonneg' : (0 : ℚ) ≤ first := by exact_mod_cast first_nonneg
  have second_nonneg' : (0 : ℚ) ≤ second := by exact_mod_cast second_nonneg
  have one := context_nonneg (mul_nonneg value_nonneg first_nonneg')
  have two := context_nonneg (mul_nonneg one second_nonneg')
  unfold keptCost
  exact context_nonneg (div_nonneg two (by norm_num))

theorem keptCost_mono (rated : 0 ≤ rate.coefficient) (first_nonneg : 0 ≤ first)
    (second_nonneg : 0 ≤ second) (first_le : first ≤ first') (second_le : second ≤ second') :
    keptCost rate first second ≤ keptCost rate first' second' := by
  have value_nonneg := Decimal.nonneg_of_coefficient rated
  have first_nonneg' : (0 : ℚ) ≤ first := by exact_mod_cast first_nonneg
  have second_nonneg' : (0 : ℚ) ≤ second := by exact_mod_cast second_nonneg
  have first_le' : (first : ℚ) ≤ first' := by exact_mod_cast first_le
  have second_le' : (second : ℚ) ≤ second' := by exact_mod_cast second_le
  have product := mul_nonneg value_nonneg first_nonneg'
  have one := context_mono product (mul_le_mul_of_nonneg_left first_le' value_nonneg)
  have kept := context_nonneg product
  have products : context (rate.value * first) * second ≤ context (rate.value * first') * second' :=
    mul_le_mul one second_le' second_nonneg' (kept.trans one)
  have nonneg := mul_nonneg kept second_nonneg'
  have two := context_mono nonneg products
  unfold keptCost
  exact context_mono (div_nonneg (context_nonneg nonneg) (by norm_num))
    (div_le_div_of_nonneg_right two (by norm_num))

/-- The rounded cost of more time or more GPUs is not less. -/
theorem podCostUsd_mono (first_le : first ≤ first') (second_le : second ≤ second')
    (ok : podCostUsd rate first second = .ok value)
    (ok' : podCostUsd rate first' second' = .ok value') : value.value ≤ value'.value := by
  obtain ⟨rated, timed, counted, quantized⟩ := podCostUsd_ok ok
  obtain ⟨_, _, _, quantized'⟩ := podCostUsd_ok ok'
  exact quantizeCeiling_mono
    (keptCost_mono rated.le timed counted.le first_le second_le) quantized quantized'

theorem serverlessWorkerCostUsd_mono (first_le : first ≤ first') (second_le : second ≤ second')
    (ok : serverlessWorkerCostUsd rate first second = .ok value)
    (ok' : serverlessWorkerCostUsd rate first' second' = .ok value') :
    value.value ≤ value'.value := by
  obtain ⟨rated, counted, timed, quantized⟩ := serverlessWorkerCostUsd_ok ok
  obtain ⟨_, _, _, quantized'⟩ := serverlessWorkerCostUsd_ok ok'
  exact quantizeCeiling_mono
    (keptCost_mono rated.le counted.le timed.le first_le second_le) quantized quantized'

/-! ## Quotes -/

/-- What `_validate_capacity_request` promises of the times and the costs of a request. -/
structure Enveloped (spec : EndpointSpec) (request : Envelope) : Prop where
  start : request.estimatedWorkerStartSeconds ≤ request.maximumWorkerStartSeconds
  execution : request.estimatedExecutionSeconds ≤ request.maximumExecutionSeconds
  billable : request.maximumBillableSeconds = request.maximumWorkerStartSeconds +
    request.maximumExecutionSeconds + spec.idleTailSeconds
  nonnegative : 0 ≤ request.estimatedNonWorkerCostUsd.coefficient
  nonWorker : request.estimatedNonWorkerCostUsd.value ≤ request.maximumNonWorkerCostUsd.value

theorem enveloped (request : QuoteRequest) :
    Enveloped request.endpoint.spec request.toEnvelope := by
  have checked := request.checked
  unfold Serverless.RequestFields.check at checked
  simp only [Traverse.check_bind_ok, Serverless.refuse_ok, Serverless.nonnegativeDecimal,
    not_lt] at checked
  obtain ⟨_, _, _, _, _, _, _, _, _, _, _, _, _, nonnegative, _, _, _, _, start, execution,
    billable, _, _, _, _, nonWorker⟩ := checked
  exact ⟨start, execution, not_not.mp billable, nonnegative, nonWorker⟩

/-- The ceiling of a quote of the provider is not below its estimate. -/
theorem pod_quote_covers {digest : Pod.OfferIdentity → String}
    {request : Pod.PodCapacityQuoteRequest} {offers : List Catalog.GPUOffer}
    {observedAt : Instant} {quote : Pod.PodCapacityQuote}
    (ok : Pod.quote digest request offers observedAt = .ok quote) :
    quote.estimatedCostUsd.value ≤ quote.costCeilingUsd.value := by
  have timely : request.estimatedStartupSeconds + request.estimatedExecutionSeconds ≤
      request.maximumRuntimeSeconds := by
    have checked := request.checked
    unfold Pod.OfferRequestFields.check at checked
    simp only [Traverse.check_bind_ok, Pod.refuse_ok, not_lt] at checked
    exact checked.2.2.2.2.2.2
  unfold Pod.quote at ok
  rw [Traverse.except_bind_ok] at ok
  obtain ⟨requirements, _, ok⟩ := ok
  rw [Traverse.except_bind_ok] at ok
  obtain ⟨placement, _, ok⟩ := ok
  rw [Traverse.except_bind_ok] at ok
  obtain ⟨estimated, estimate, ok⟩ := ok
  rw [Traverse.except_bind_ok] at ok
  obtain ⟨ceiling, ceiled, ok⟩ := ok
  dsimp only at ok
  rw [Pod.PodCapacityQuote.build_ok] at ok
  rw [ok]
  exact podCostUsd_mono timely le_rfl estimate ceiled

theorem amounts_cover {request : Envelope} {spec : EndpointSpec} {hourly : Decimal}
    {amounts : Serverless.QuoteAmounts} (valid : Enveloped spec request)
    (ok : quoteAmounts request spec hourly = .ok amounts) :
    amounts.estimatedCostUsd.value ≤ amounts.costCeilingUsd.value := by
  unfold quoteAmounts at ok
  rw [Traverse.except_bind_ok] at ok
  obtain ⟨estimated, estimate, ok⟩ := ok
  rw [Traverse.except_bind_ok] at ok
  obtain ⟨maximum, maximal, ok⟩ := ok
  cases ok
  have timely : request.estimatedWorkerStartSeconds + request.estimatedExecutionSeconds +
      spec.idleTailSeconds ≤ request.maximumBillableSeconds := by
    have start := valid.start
    have execution := valid.execution
    have billable := valid.billable
    omega
  have worker := serverlessWorkerCostUsd_mono le_rfl timely estimate maximal
  obtain ⟨rated, counted, timed, quantized⟩ := serverlessWorkerCostUsd_ok estimate
  have kept := keptCost_nonneg rated.le counted.le timed.le
  have nonneg : 0 ≤ estimated.coefficient := quantizeCeiling_nonneg kept quantized
  exact Decimal.add_mono nonneg valid.nonnegative worker valid.nonWorker

theorem serverless_quote_covers {d : Serverless.QuoteDigests} {request : Envelope}
    {spec : EndpointSpec} {observedAt : Instant} {offers : List Catalog.GPUOffer}
    {quoted : Serverless.CatalogSelection × Serverless.QuoteAmounts}
    (valid : Enveloped spec request)
    (ok : quoteCatalog d spec request observedAt offers = .ok quoted) :
    quoted.2.estimatedCostUsd.value ≤ quoted.2.costCeilingUsd.value := by
  unfold quoteCatalog at ok
  rw [Serverless.refuse_bind_ok] at ok
  obtain ⟨_, ok⟩ := ok
  rw [Traverse.except_bind_ok] at ok
  obtain ⟨requirements, _, ok⟩ := ok
  rw [Traverse.except_bind_ok] at ok
  obtain ⟨_, _, ok⟩ := ok
  rw [Traverse.except_bind_ok] at ok
  obtain ⟨selection, _, ok⟩ := ok
  rw [Traverse.except_bind_ok] at ok
  obtain ⟨amounts, priced, ok⟩ := ok
  cases ok
  exact amounts_cover valid priced

/-! ## Soundness -/

end KestrelRunpod.Costs
