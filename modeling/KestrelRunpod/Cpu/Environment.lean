import KestrelRunpod.Cpu.Catalog
import KestrelRunpod.Numeric.Contexts

/-!
# CPU acquisition plans

A plan fixes a request, a profile, a cost policy and a catalog match, and is offered until the
earliest of their ends.  `pod_request` decides every check again at a later instant;
`podRequest_ok_iff` is that these checks come to the plan's own interval.

The requests and the field types of the records are the resource SDK's: what the SDK validates and
digests is a parameter.  An instant is a number of microseconds.  It is not bounded, since the
arithmetic that could leave the calendar is the same in planning and afterwards.
-/

namespace KestrelRunpod.Cpu

open Numeric
open Traverse (except_bind_ok)

/-! ## Records -/

/-- The fields of an `EnvironmentRequest` that planning reads. -/
structure EnvironmentRequest where
  providerId : String
  profileId : String
  image : String
  region : String
  location : String
  surface : String
  requiredCapabilities : List String
  requestedAt : Instant
  expiresAt : Instant
  readyTimeoutSeconds : Int
  maxHourlyCostUsd : Decimal
  maxTotalCostUsd : Decimal
  deriving DecidableEq

structure CpuEnvironmentProfile where
  providerId : String
  profileId : String
  image : String
  cpuId : String
  vcpuCount : Int
  dataCenterId : String
  diskGb : Int
  maxLifetimeSeconds : Int
  cleanupGraceSeconds : Int
  deriving DecidableEq

/-- `CpuNonComputeCostPolicy`, without its id. -/
structure CpuNonComputeCostPolicy where
  providerId : String
  profileId : String
  profileSha256 : String
  diskGb : Int
  dataCenterId : String
  coveredComponents : List String
  observedAt : Instant
  expiresAt : Instant
  diskTransferCleanupHourlyUsd : Decimal
  diskTransferCleanupFixedUsd : Decimal
  deriving DecidableEq

/-- The validation and the digests of the resource SDK's records. -/
structure Sdk where
  validateRequest : EnvironmentRequest → Except Fault EnvironmentRequest
  profileFields : CpuEnvironmentProfile → Except Fault CpuEnvironmentProfile
  policyFields : CpuNonComputeCostPolicy → Except Fault CpuNonComputeCostPolicy
  requestDigest : EnvironmentRequest → String
  profileDigest : CpuEnvironmentProfile → String
  policyDigest : CpuNonComputeCostPolicy → String

/-! ## Checks -/

/-- `timedelta(seconds=n)`. -/
def seconds (n : Int) : Int := n * 1000000

/-- `_aware`. -/
def aware (time : Option Instant) : Except Fault Instant :=
  match time with
  | some now => .ok now
  | none => .error (.valueError "CPU planning requires a trusted aware current time")

/-- `_require_catalog_age`. -/
def requireCatalogAge (value : Int) : Except Fault Unit :=
  require (0 < value ∧ value ≤ seconds 60)
    (.valueError "CPU catalog freshness must be positive and at most one minute")

/-- `_require_bounded_decimal`. -/
def requireBoundedDecimal (value : Decimal) (positive : Bool) : Except Fault Unit :=
  require (0 ≤ value.coefficient ∧ (positive = true → value.coefficient ≠ 0) ∧
      Decimal.digits value.coefficient ≤ 36 ∧ -12 ≤ value.exponent ∧
      Decimal.digits value.coefficient + value.exponent ≤ 24)
    (.valueError "CPU amount exceeds nonnegative 36-digit/12-place/24-whole bounds")

/-- The capabilities that the planner serves. -/
def servedCapabilities : List String :=
  ["screenshot", "click", "type", "key", "scroll", "wait", "navigate", "takeover"]

/-- `covered_components == {"container_disk", "transfer", "cleanup"}`. -/
def coversAll (components : List String) : Bool :=
  components.all (· ∈ ["container_disk", "transfer", "cleanup"]) &&
    ["container_disk", "transfer", "cleanup"].all (· ∈ components)

namespace CpuEnvironmentProfile

/-- `CpuEnvironmentProfile.model_validate`. -/
def validate (sdk : Sdk) (profile : CpuEnvironmentProfile) :
    Except Fault CpuEnvironmentProfile := do
  let profile ← sdk.profileFields profile
  require (0 < profile.vcpuCount ∧ 0 < profile.diskGb ∧
      0 < profile.maxLifetimeSeconds ∧ profile.maxLifetimeSeconds ≤ 7 * 86400 ∧
      0 < profile.cleanupGraceSeconds ∧ profile.cleanupGraceSeconds ≤ 86400)
    (.validation "CpuEnvironmentProfile")
  require (powerOfTwo profile.vcpuCount = true)
    (.valueError "CPU profile requires power-of-two vCPU count >= 2")
  .ok profile

/-- `require_request`, at an aware instant. -/
def requireRequest (profile : CpuEnvironmentProfile) (request : EnvironmentRequest)
    (now : Instant) : Except Fault Unit := do
  require (request.providerId = profile.providerId ∧ request.profileId = profile.profileId ∧
      request.image = profile.image ∧ request.region = profile.dataCenterId)
    (.unsupported "CPU request differs from the exact configured profile")
  require (request.location = "remote" ∧ request.surface = "browser")
    (.unsupported "CPU planning requires an explicit remote browser request")
  require (request.requiredCapabilities.all (· ∈ servedCapabilities) = true)
    (.unsupported "CPU planning has no file/exec/clipboard/DOM/accessibility conformance")
  require (request.requestedAt ≤ now ∧ now < request.expiresAt)
    (.unsupported "CPU request is outside its fixed lifetime")
  require (request.expiresAt - request.requestedAt ≤ seconds profile.maxLifetimeSeconds)
    (.unsupported "CPU request exceeds the configured lifetime")
  require (now < request.expiresAt - seconds request.readyTimeoutSeconds)
    (.unsupported "CPU request has insufficient remaining readiness time")

/-- `_pod_request`. -/
def podRequest (profile : CpuEnvironmentProfile) (sdk : Sdk) (request : EnvironmentRequest) :
    Except Fault CpuPodCreateRequest := do
  let created : CpuPodCreateRequest :=
    ⟨"kestrel-cpu-" ++ String.ofList ((sdk.requestDigest request).toList.take 32), profile.image,
      .secure, profile.cpuId, profile.vcpuCount, [profile.dataCenterId], profile.diskGb⟩
  created.check
  .ok created

end CpuEnvironmentProfile

namespace CpuNonComputeCostPolicy

/-- `CpuNonComputeCostPolicy.model_validate`. -/
def validate (sdk : Sdk) (policy : CpuNonComputeCostPolicy) :
    Except Fault CpuNonComputeCostPolicy := do
  let policy ← sdk.policyFields policy
  require (0 < policy.diskGb) (.validation "CpuNonComputeCostPolicy")
  requireBoundedDecimal policy.diskTransferCleanupHourlyUsd false
  requireBoundedDecimal policy.diskTransferCleanupFixedUsd false
  require (policy.observedAt < policy.expiresAt)
    (.valueError "CPU cost policy expiry must follow observation")
  require (coversAll policy.coveredComponents = true)
    (.valueError "CPU cost policy must explicitly cover disk, transfer and cleanup")
  .ok policy

/-- `require_coverage`, at an aware instant. -/
def requireCoverage (policy : CpuNonComputeCostPolicy) (sdk : Sdk) (request : EnvironmentRequest)
    (profile : CpuEnvironmentProfile) (now : Instant) : Except Fault Unit := do
  require (policy.providerId = profile.providerId ∧ policy.profileId = profile.profileId ∧
      policy.profileSha256 = sdk.profileDigest profile ∧ policy.diskGb = profile.diskGb ∧
      policy.dataCenterId = profile.dataCenterId ∧ coversAll policy.coveredComponents = true)
    (.unsupported "CPU noncompute policy prices another profile/disk/region")
  require (policy.observedAt ≤ now ∧ now < policy.expiresAt)
    (.unsupported "CPU noncompute cost policy is not current")
  require (seconds profile.cleanupGraceSeconds ≤ policy.expiresAt - request.expiresAt)
    (.unsupported "CPU cost policy does not cover lifetime and cleanup grace")

end CpuNonComputeCostPolicy

/-! ## Costs -/

/-- `exact_decimal_sum`, in an ambient context. -/
def exactDecimalSum (c : DecimalContext) (items : List Decimal) : Except Fault ℚ :=
  match items with
  | [] => .ok 0
  | first :: rest =>
      let exponent := rest.foldl (fun least item => min least item.exponent) first.exponent
      let digits := (first :: rest).foldl
        (fun most item => max most (Decimal.digits item.coefficient + item.exponent - exponent).toNat)
        0
      let needed := digits + (Nat.repr (rest.length + 1)).length + 1
      match (c.widened needed).sum ((first :: rest).map Decimal.value) with
      | some total => .ok total
      | none => .error .decimalSignal

/-- `_duration_cost`: the ceiling to twelve places.  `Decimal` takes no negative digits. -/
def durationCost (rate : ℚ) (micros : Int) : Except Fault Decimal :=
  let denominator : Int := rate.den * 3600000000
  let scaled := rate.num * micros * 10 ^ 12 / denominator
  let remainder := rate.num * micros * 10 ^ 12 % denominator
  let coefficient := scaled + if remainder = 0 then 0 else 1
  if coefficient < 0 then .error (.valueError "invalid literal for int()")
  else .ok ⟨coefficient, -12⟩

/-! ## Plans -/

/-- `CpuEnvironmentAcquisitionPlan`. -/
structure CpuEnvironmentAcquisitionPlan where
  request : EnvironmentRequest
  profile : CpuEnvironmentProfile
  noncompute : CpuNonComputeCostPolicy
  catalog : CpuPodCatalogMatch
  plannedAt : Instant
  expiresAt : Instant
  catalogMaxAge : Int
  deriving DecidableEq

namespace CpuEnvironmentAcquisitionPlan

/-- The constructor, with `__post_init__`. -/
def build (sdk : Sdk) (request : EnvironmentRequest) (profile : CpuEnvironmentProfile)
    (noncompute : CpuNonComputeCostPolicy) (catalog : CpuPodCatalogMatch)
    (plannedAt expiresAt : Instant) (catalogMaxAge : Int) :
    Except Fault CpuEnvironmentAcquisitionPlan := do
  let request ← sdk.validateRequest request
  let profile ← profile.validate sdk
  let noncompute ← noncompute.validate sdk
  requireCatalogAge catalogMaxAge
  profile.requireRequest request plannedAt
  noncompute.requireCoverage sdk request profile plannedAt
  require (catalog.cpuId = profile.cpuId ∧ catalog.vcpuCount = profile.vcpuCount ∧
      catalog.dataCenterIds = [profile.dataCenterId])
    (.valueError "CPU catalog match differs from the exact profile")
  requireBoundedDecimal catalog.ramGb true
  requireBoundedDecimal catalog.computeCostPerHr true
  require (catalog.ramGb.value.isInt = true)
    (.valueError "CPU planning requires integral API allocated RAM")
  require (catalog.observedAt ≤ plannedAt ∧ plannedAt < expiresAt ∧
      expiresAt ≤ request.expiresAt ∧ expiresAt ≤ noncompute.expiresAt ∧
      expiresAt ≤ catalog.observedAt + catalogMaxAge ∧
      expiresAt ≤ request.expiresAt - seconds request.readyTimeoutSeconds)
    (.valueError "CPU plan lifetime exceeds current catalog/request/policy facts")
  .ok ⟨request, profile, noncompute, catalog, plannedAt, expiresAt, catalogMaxAge⟩

variable (c : DecimalContext) (plan : CpuEnvironmentAcquisitionPlan)

/-- `all_in_hourly_usd`. -/
def allInHourlyUsd : Except Fault ℚ :=
  exactDecimalSum c
    [plan.catalog.computeCostPerHr, plan.noncompute.diskTransferCleanupHourlyUsd]

/-- The admitted lifetime and the cleanup grace. -/
def duration : Int :=
  plan.request.expiresAt - plan.request.requestedAt + seconds plan.profile.cleanupGraceSeconds

/-- `estimated_total_usd`. -/
def estimatedTotalUsd : Except Fault ℚ := do
  let hourly ← plan.allInHourlyUsd c
  let cost ← durationCost hourly plan.duration
  exactDecimalSum c [cost, plan.noncompute.diskTransferCleanupFixedUsd]

/-- `pod_request`. -/
def podRequest (sdk : Sdk) (request : EnvironmentRequest) (profile : CpuEnvironmentProfile)
    (noncompute : CpuNonComputeCostPolicy) (time : Option Instant) :
    Except Fault CpuPodCreateRequest := do
  require (sdk.requestDigest request = sdk.requestDigest plan.request ∧
      sdk.profileDigest profile = sdk.profileDigest plan.profile ∧
      sdk.policyDigest noncompute = sdk.policyDigest plan.noncompute)
    (.unsupported "CPU plan differs from the original request/profile/cost policy")
  let now ← aware time
  plan.profile.requireRequest plan.request now
  plan.noncompute.requireCoverage sdk plan.request plan.profile now
  require (plan.plannedAt ≤ now ∧ now < plan.expiresAt)
    (.unsupported "CPU acquisition plan expired or is from the future")
  let hourly ← plan.allInHourlyUsd c
  require (hourly ≤ plan.request.maxHourlyCostUsd.value)
    (.unsupported "CPU all-in estimate exceeds the original cost ceilings")
  let total ← plan.estimatedTotalUsd c
  require (total ≤ plan.request.maxTotalCostUsd.value)
    (.unsupported "CPU all-in estimate exceeds the original cost ceilings")
  plan.profile.podRequest sdk plan.request

end CpuEnvironmentAcquisitionPlan

/-- `CpuEnvironmentPlanner`; the client is what its `list_cpus` returns. -/
structure CpuEnvironmentPlanner where
  catalogMaxAge : Int
  fresh : 0 < catalogMaxAge ∧ catalogMaxAge ≤ seconds 60

/-- `CpuEnvironmentPlanner.plan`: the clock reads `initial` before the catalog is listed and
`now` after it. -/
def CpuEnvironmentPlanner.plan (planner : CpuEnvironmentPlanner) (c : DecimalContext) (sdk : Sdk)
    (request : EnvironmentRequest) (profile : CpuEnvironmentProfile)
    (noncompute : CpuNonComputeCostPolicy) (initial : Option Instant)
    (listed : Except Fault CpuCatalogSnapshot) (now : Option Instant) :
    Except Fault CpuEnvironmentAcquisitionPlan := do
  let request ← sdk.validateRequest request
  let profile ← profile.validate sdk
  let noncompute ← noncompute.validate sdk
  let initial ← aware initial
  profile.requireRequest request initial
  noncompute.requireCoverage sdk request profile initial
  let snapshot ← listed
  let now ← aware now
  profile.requireRequest request now
  noncompute.requireCoverage sdk request profile now
  match snapshot.observedAt with
  | none => .error (.unsupported "CPU catalog observation must be timezone-aware")
  | some observedAt => do
      require (initial ≤ observedAt ∧ observedAt ≤ now)
        (.unsupported "CPU catalog clock does not cover the current API request")
      require (now < observedAt + planner.catalogMaxAge)
        (.unsupported "CPU catalog freshness expired during planning")
      let created ← profile.podRequest sdk request
      let found ← snapshot.matchPod created now planner.catalogMaxAge
      require (0 < found.computeCostPerHr.coefficient)
        (.unsupported "CPU catalog requires a positive compute price")
      let plan ← CpuEnvironmentAcquisitionPlan.build sdk request profile noncompute found now
        (min (min (request.expiresAt - seconds request.readyTimeoutSeconds) noncompute.expiresAt)
          (observedAt + planner.catalogMaxAge)) planner.catalogMaxAge
      let _ ← plan.podRequest c sdk request profile noncompute (some now)
      .ok plan

/-! ## Sums -/

/-- A context whose exponents are not below thirty places or above thirty digits.  The default
context goes to a million either way. -/
def Wide (c : DecimalContext) : Prop := c.emin ≤ -30 ∧ 30 ≤ c.emax

/-- At least twelve places, and at most `whole` digits before the point. -/
def Bounded (whole : Int) (d : Decimal) : Prop :=
  -12 ≤ d.exponent ∧ Decimal.digits d.coefficient + d.exponent ≤ whole

/-- The sum is that of the context, widened. -/
theorem exactDecimalSum_eq {c : DecimalContext} {items : List Decimal} {total : ℚ}
    (summed : c.widenedSum items = some total) : exactDecimalSum c items = .ok total := by
  cases items with
  | nil =>
      cases summed
      rfl
  | cons first rest =>
      unfold DecimalContext.widenedSum at summed
      unfold exactDecimalSum
      dsimp only at summed ⊢
      rw [summed]

/-- Two bounded amounts are summed exactly, whatever the precision of the ambient context. -/
theorem exactDecimalSum_pair {c : DecimalContext} {a b : Decimal} (wide : Wide c)
    (first : Bounded 28 a) (second : Bounded 28 b) :
    exactDecimalSum c [a, b] = .ok (a.value + b.value) := by
  obtain ⟨low, high⟩ := wide
  obtain ⟨placesA, wholeA⟩ := first
  obtain ⟨placesB, wholeB⟩ := second
  have count : (Nat.repr 2).length = 1 := rfl
  have admits : c.Admits [a, b] := by
    refine ⟨fun _ => ⟨a, List.mem_cons_self, by omega⟩, fun item member => ?_⟩
    rw [List.length_cons, List.length_singleton, count]
    rcases List.mem_pair.mp member with rfl | rfl
    · omega
    · omega
  rw [exactDecimalSum_eq (DecimalContext.widenedSum_eq admits)]
  simp

/-- The duration cost is the exact cost, rounded up at the twelfth place. -/
theorem durationCost_ok {rate : ℚ} {micros : Int} (nonneg : 0 ≤ rate) (forward : 0 ≤ micros) :
    durationCost rate micros = .ok ⟨⌈rate * micros * 10 ^ 12 / 3600000000⌉, -12⟩ := by
  have den : (0 : ℤ) < rate.den := by exact_mod_cast rate.den_pos
  have positive : (0 : ℤ) < rate.den * 3600000000 := by positivity
  have exact_is : rate * micros * 10 ^ 12 / 3600000000 =
      ((rate.num * micros * 10 ^ 12 : ℤ) : ℚ) / ((rate.den * 3600000000 : ℤ) : ℚ) := by
    have unit : (rate.den : ℚ) ≠ 0 := Nat.cast_ne_zero.mpr rate.den_nz
    conv_lhs => rw [← Rat.num_div_den rate]
    push_cast
    field_simp
    norm_num
  have ceiling := ceil_divmod (rate.num * micros * 10 ^ 12) positive
  rw [← exact_is] at ceiling
  have above : 0 ≤ ⌈rate * micros * 10 ^ 12 / 3600000000⌉ := by
    refine Int.ceil_nonneg ?_
    have forward' : (0 : ℚ) ≤ micros := by exact_mod_cast forward
    positivity
  unfold durationCost
  dsimp only
  rw [← ceiling, if_neg (not_lt.mpr above)]

/-! ## Admitted plans -/

/-- What `require_request` checks at every instant alike. -/
structure Fits (profile : CpuEnvironmentProfile) (request : EnvironmentRequest) : Prop where
  same : request.providerId = profile.providerId ∧ request.profileId = profile.profileId ∧
    request.image = profile.image ∧ request.region = profile.dataCenterId
  remote : request.location = "remote" ∧ request.surface = "browser"
  served : request.requiredCapabilities.all (· ∈ servedCapabilities) = true
  lifetime : request.expiresAt - request.requestedAt ≤ seconds profile.maxLifetimeSeconds

theorem requireRequest_ok {profile : CpuEnvironmentProfile} {request : EnvironmentRequest}
    {now : Instant} :
    profile.requireRequest request now = .ok () ↔ Fits profile request ∧
      (request.requestedAt ≤ now ∧ now < request.expiresAt) ∧
      now < request.expiresAt - seconds request.readyTimeoutSeconds := by
  unfold CpuEnvironmentProfile.requireRequest
  simp only [require_bind_ok, require_ok]
  constructor
  · rintro ⟨same, remote, served, within, lifetime, ready⟩
    exact ⟨⟨same, remote, served, lifetime⟩, within, ready⟩
  · rintro ⟨⟨same, remote, served, lifetime⟩, within, ready⟩
    exact ⟨same, remote, served, within, lifetime, ready⟩

/-- What `require_coverage` checks at every instant alike. -/
structure Covers (sdk : Sdk) (policy : CpuNonComputeCostPolicy) (request : EnvironmentRequest)
    (profile : CpuEnvironmentProfile) : Prop where
  same : policy.providerId = profile.providerId ∧ policy.profileId = profile.profileId ∧
    policy.profileSha256 = sdk.profileDigest profile ∧ policy.diskGb = profile.diskGb ∧
    policy.dataCenterId = profile.dataCenterId ∧ coversAll policy.coveredComponents = true
  grace : seconds profile.cleanupGraceSeconds ≤ policy.expiresAt - request.expiresAt

theorem requireCoverage_ok {sdk : Sdk} {policy : CpuNonComputeCostPolicy}
    {request : EnvironmentRequest} {profile : CpuEnvironmentProfile} {now : Instant} :
    policy.requireCoverage sdk request profile now = .ok () ↔
      Covers sdk policy request profile ∧ policy.observedAt ≤ now ∧ now < policy.expiresAt := by
  unfold CpuNonComputeCostPolicy.requireCoverage
  simp only [require_bind_ok, require_ok]
  constructor
  · rintro ⟨same, current, grace⟩
    exact ⟨⟨same, grace⟩, current⟩
  · rintro ⟨⟨same, grace⟩, current⟩
    exact ⟨same, current, grace⟩

/-- An amount that `_require_bounded_decimal` accepts. -/
structure Amount (d : Decimal) : Prop where
  nonneg : 0 ≤ d.coefficient
  bounded : Bounded 24 d

theorem requireBoundedDecimal_ok {d : Decimal} {positive : Bool}
    (ok : requireBoundedDecimal d positive = .ok ()) : Amount d := by
  obtain ⟨nonneg, _, _, places, whole⟩ := require_ok.mp ok
  exact ⟨nonneg, places, whole⟩

/-- What a plan that was built has been checked for. -/
structure Built (sdk : Sdk) (plan : CpuEnvironmentAcquisitionPlan) : Prop where
  fits : Fits plan.profile plan.request
  covers : Covers sdk plan.noncompute plan.request plan.profile
  started : plan.request.requestedAt ≤ plan.plannedAt ∧ plan.plannedAt < plan.request.expiresAt
  observed : plan.noncompute.observedAt ≤ plan.plannedAt
  offered : plan.plannedAt < plan.expiresAt
  ends : plan.expiresAt ≤ plan.request.expiresAt ∧ plan.expiresAt ≤ plan.noncompute.expiresAt ∧
    plan.expiresAt ≤ plan.request.expiresAt - seconds plan.request.readyTimeoutSeconds
  compute : Amount plan.catalog.computeCostPerHr
  hourly : Amount plan.noncompute.diskTransferCleanupHourlyUsd
  fixed : Amount plan.noncompute.diskTransferCleanupFixedUsd
  lifetime : plan.profile.maxLifetimeSeconds ≤ 7 * 86400
  grace : 0 < plan.profile.cleanupGraceSeconds ∧ plan.profile.cleanupGraceSeconds ≤ 86400

theorem build_ok {sdk : Sdk} {request : EnvironmentRequest} {profile : CpuEnvironmentProfile}
    {noncompute : CpuNonComputeCostPolicy} {catalog : CpuPodCatalogMatch}
    {plannedAt expiresAt : Instant} {catalogMaxAge : Int} {plan : CpuEnvironmentAcquisitionPlan}
    (ok : CpuEnvironmentAcquisitionPlan.build sdk request profile noncompute catalog plannedAt
      expiresAt catalogMaxAge = .ok plan) : Built sdk plan := by
  unfold CpuEnvironmentAcquisitionPlan.build at ok
  obtain ⟨request', _, ok⟩ := except_bind_ok.mp ok
  obtain ⟨profile', validProfile, ok⟩ := except_bind_ok.mp ok
  obtain ⟨noncompute', validPolicy, ok⟩ := except_bind_ok.mp ok
  obtain ⟨_, _, ok⟩ := except_bind_ok.mp ok
  obtain ⟨_, requested, ok⟩ := except_bind_ok.mp ok
  obtain ⟨_, covered, ok⟩ := except_bind_ok.mp ok
  obtain ⟨_, ok⟩ := require_bind_ok.mp ok
  obtain ⟨_, _, ok⟩ := except_bind_ok.mp ok
  obtain ⟨_, compute, ok⟩ := except_bind_ok.mp ok
  obtain ⟨_, ok⟩ := require_bind_ok.mp ok
  obtain ⟨⟨_, offered, first, second, _, third⟩, ok⟩ := require_bind_ok.mp ok
  cases ok
  obtain ⟨fits, started, _⟩ := requireRequest_ok.mp requested
  obtain ⟨covers, observed, _⟩ := requireCoverage_ok.mp covered
  unfold CpuEnvironmentProfile.validate at validProfile
  obtain ⟨_, _, validProfile⟩ := except_bind_ok.mp validProfile
  obtain ⟨⟨_, _, _, lifetime, grace⟩, validProfile⟩ := require_bind_ok.mp validProfile
  obtain ⟨_, validProfile⟩ := require_bind_ok.mp validProfile
  cases validProfile
  unfold CpuNonComputeCostPolicy.validate at validPolicy
  obtain ⟨_, _, validPolicy⟩ := except_bind_ok.mp validPolicy
  obtain ⟨_, validPolicy⟩ := require_bind_ok.mp validPolicy
  obtain ⟨_, hourly, validPolicy⟩ := except_bind_ok.mp validPolicy
  obtain ⟨_, fixed, validPolicy⟩ := except_bind_ok.mp validPolicy
  obtain ⟨_, validPolicy⟩ := require_bind_ok.mp validPolicy
  obtain ⟨_, validPolicy⟩ := require_bind_ok.mp validPolicy
  cases validPolicy
  exact {
    fits := fits
    covers := covers
    started := started
    observed := observed
    offered := offered
    ends := ⟨first, second, third⟩
    compute := requireBoundedDecimal_ok compute
    hourly := requireBoundedDecimal_ok hourly
    fixed := requireBoundedDecimal_ok fixed
    lifetime := lifetime
    grace := grace }

/-! ## The cost of a plan -/

namespace CpuEnvironmentAcquisitionPlan

variable (plan : CpuEnvironmentAcquisitionPlan)

/-- The exact all-in hourly rate. -/
def exactHourly : ℚ :=
  plan.catalog.computeCostPerHr.value + plan.noncompute.diskTransferCleanupHourlyUsd.value

/-- The exact cost of the admitted lifetime and the cleanup grace. -/
def exactCost : ℚ :=
  plan.exactHourly * (plan.duration / 3600000000) + plan.noncompute.diskTransferCleanupFixedUsd.value

/-- The duration cost in units of the twelfth place. -/
def exactUnits : ℚ := plan.exactHourly * plan.duration * 10 ^ 12 / 3600000000

/-- The conservative cost: the duration cost is rounded up at the twelfth place. -/
def conservativeCost : ℚ :=
  ⌈plan.exactUnits⌉ * 10 ^ (-12 : ℤ) + plan.noncompute.diskTransferCleanupFixedUsd.value

theorem conservativeCost_bounds :
    plan.exactCost ≤ plan.conservativeCost ∧
      plan.conservativeCost < plan.exactCost + 1 / 10 ^ 12 := by
  have below := Int.le_ceil plan.exactUnits
  have above := Int.ceil_lt_add_one plan.exactUnits
  have units : plan.exactHourly * (plan.duration / 3600000000) =
      plan.exactUnits * 10 ^ (-12 : ℤ) := by
    unfold exactUnits
    norm_num
    ring
  unfold exactCost conservativeCost
  rw [units]
  norm_num at below above ⊢
  constructor <;> linarith

end CpuEnvironmentAcquisitionPlan

section

variable {d : Decimal} {sdk : Sdk} {c : DecimalContext} {plan : CpuEnvironmentAcquisitionPlan}

theorem Bounded.mono {whole more : Int} (bounded : Bounded whole d) (le : whole ≤ more) :
    Bounded more d := ⟨bounded.1, bounded.2.trans le⟩

theorem Amount.value_nonneg (amount : Amount d) : 0 ≤ d.value :=
  Decimal.nonneg_of_coefficient amount.nonneg

theorem Amount.value_lt (amount : Amount d) : d.value < 10 ^ 24 := by
  have short : (d.coefficient : ℚ) < 10 ^ Decimal.digits d.coefficient := by
    have below := (le_abs_self d.coefficient).trans_lt (Decimal.abs_lt_digits d.coefficient)
    exact_mod_cast below
  have unit : (0 : ℚ) < 10 ^ d.exponent := zpow_pos (by norm_num) _
  have ten : (10 : ℚ) ≠ 0 := by norm_num
  calc d.value = d.coefficient * 10 ^ d.exponent := rfl
    _ < 10 ^ Decimal.digits d.coefficient * 10 ^ d.exponent := mul_lt_mul_of_pos_right short unit
    _ = 10 ^ ((Decimal.digits d.coefficient : ℤ) + d.exponent) := by
        rw [zpow_add₀ ten, zpow_natCast]
    _ ≤ 10 ^ (24 : ℤ) := zpow_le_zpow_right₀ (by norm_num) amount.bounded.2
    _ = 10 ^ 24 := by norm_num

theorem Built.hourly_bounds (built : Built sdk plan) :
    0 ≤ plan.exactHourly ∧ plan.exactHourly < 2 * 10 ^ 24 := by
  have compute := built.compute.value_nonneg
  have hourly := built.hourly.value_nonneg
  have compute' := built.compute.value_lt
  have hourly' := built.hourly.value_lt
  unfold CpuEnvironmentAcquisitionPlan.exactHourly
  constructor <;> linarith

theorem Built.duration_bounds (built : Built sdk plan) :
    0 ≤ plan.duration ∧ plan.duration ≤ 8 * 86400 * 1000000 := by
  have lifetime := built.fits.lifetime
  have week := built.lifetime
  obtain ⟨grace, day⟩ := built.grace
  obtain ⟨started, open_⟩ := built.started
  unfold CpuEnvironmentAcquisitionPlan.duration seconds at *
  unfold Instant at *
  constructor <;> omega

theorem Built.allInHourlyUsd (built : Built sdk plan) (wide : Wide c) :
    plan.allInHourlyUsd c = .ok plan.exactHourly :=
  exactDecimalSum_pair wide (built.compute.bounded.mono (by norm_num))
    (built.hourly.bounded.mono (by norm_num))

/-- The cost does not depend on the ambient context, as long as it is wide. -/
theorem Built.estimatedTotalUsd (built : Built sdk plan) (wide : Wide c) :
    plan.estimatedTotalUsd c = .ok plan.conservativeCost := by
  obtain ⟨nonneg, small⟩ := built.hourly_bounds
  obtain ⟨forward, short⟩ := built.duration_bounds
  have forward' : (0 : ℚ) ≤ plan.duration := by exact_mod_cast forward
  have short' : (plan.duration : ℚ) ≤ 8 * 86400 * 1000000 := by exact_mod_cast short
  have units : plan.exactUnits < 10 ^ 39 := by
    have product : plan.exactHourly * plan.duration ≤ 2 * 10 ^ 24 * (8 * 86400 * 1000000) :=
      mul_le_mul small.le short' forward' (by norm_num)
    unfold CpuEnvironmentAcquisitionPlan.exactUnits
    norm_num at product ⊢
    linarith
  have positive : 0 ≤ plan.exactUnits := by
    unfold CpuEnvironmentAcquisitionPlan.exactUnits
    positivity
  have ceiling : 0 ≤ ⌈plan.exactUnits⌉ ∧ ⌈plan.exactUnits⌉ ≤ 10 ^ 39 := by
    refine ⟨Int.ceil_nonneg positive, Int.ceil_le.mpr ?_⟩
    push_cast
    exact units.le
  have digits : Decimal.digits ⌈plan.exactUnits⌉ ≤ 40 := by
    have below : ⌈plan.exactUnits⌉.natAbs < 10 ^ 40 := by
      have : (10 : ℤ) ^ 39 < 10 ^ 40 := by norm_num
      omega
    exact Nat.log_lt_of_lt_pow' (by norm_num) below
  have cost := durationCost_ok nonneg forward
  have bounded : Bounded 28 ⟨⌈plan.exactUnits⌉, -12⟩ := ⟨le_refl _, by dsimp only; omega⟩
  unfold CpuEnvironmentAcquisitionPlan.estimatedTotalUsd
  rw [built.allInHourlyUsd wide]
  change (durationCost plan.exactHourly plan.duration >>= _) = _
  rw [cost]
  exact exactDecimalSum_pair wide bounded (built.fixed.bounded.mono (by norm_num))

/-! ## Validity -/

/-- The originals have the digests of the plan's own. -/
def SameOriginals (sdk : Sdk) (plan : CpuEnvironmentAcquisitionPlan) (request : EnvironmentRequest)
    (profile : CpuEnvironmentProfile) (noncompute : CpuNonComputeCostPolicy) : Prop :=
  sdk.requestDigest request = sdk.requestDigest plan.request ∧
    sdk.profileDigest profile = sdk.profileDigest plan.profile ∧
    sdk.policyDigest noncompute = sdk.policyDigest plan.noncompute

/-- The aware instants at which the plan is offered. -/
def Offered (plan : CpuEnvironmentAcquisitionPlan) (time : Option Instant) : Prop :=
  ∃ now, time = some now ∧ plan.plannedAt ≤ now ∧ now < plan.expiresAt

/-- The estimates are within the request's ceilings. -/
def Affordable (plan : CpuEnvironmentAcquisitionPlan) : Prop :=
  plan.exactHourly ≤ plan.request.maxHourlyCostUsd.value ∧
    plan.conservativeCost ≤ plan.request.maxTotalCostUsd.value

/-- The windows of the profile, of the policy and of the plan come to the plan's own interval. -/
theorem podRequest_ok_iff {request : EnvironmentRequest} {profile : CpuEnvironmentProfile}
    {noncompute : CpuNonComputeCostPolicy} {time : Option Instant} {created : CpuPodCreateRequest}
    (built : Built sdk plan) (wide : Wide c) :
    plan.podRequest c sdk request profile noncompute time = .ok created ↔
      SameOriginals sdk plan request profile noncompute ∧ Offered plan time ∧ Affordable plan ∧
        plan.profile.podRequest sdk plan.request = .ok created := by
  unfold CpuEnvironmentAcquisitionPlan.podRequest
  rw [require_bind_ok, except_bind_ok]
  refine and_congr_right fun _ => ?_
  constructor
  · rintro ⟨now, is, ok⟩
    obtain ⟨_, _, ok⟩ := except_bind_ok.mp ok
    obtain ⟨_, _, ok⟩ := except_bind_ok.mp ok
    obtain ⟨offered, ok⟩ := require_bind_ok.mp ok
    rw [built.allInHourlyUsd wide] at ok
    obtain ⟨hourly, ok⟩ := require_bind_ok.mp ok
    rw [built.estimatedTotalUsd wide] at ok
    obtain ⟨total, ok⟩ := require_bind_ok.mp ok
    cases time with
    | none => cases is
    | some t =>
        cases is
        exact ⟨⟨now, rfl, offered⟩, ⟨hourly, total⟩, ok⟩
  · rintro ⟨⟨now, rfl, after, before⟩, ⟨hourly, total⟩, ok⟩
    obtain ⟨started, _⟩ := built.started
    obtain ⟨beforeRequest, beforePolicy, beforeReady⟩ := built.ends
    have requested : plan.profile.requireRequest plan.request now = .ok () :=
      requireRequest_ok.mpr ⟨built.fits, ⟨started.trans after, before.trans_le beforeRequest⟩,
        before.trans_le beforeReady⟩
    have covered : plan.noncompute.requireCoverage sdk plan.request plan.profile now = .ok () :=
      requireCoverage_ok.mpr ⟨built.covers, built.observed.trans after,
        before.trans_le beforePolicy⟩
    refine ⟨now, rfl, except_bind_ok.mpr ⟨(), requested, except_bind_ok.mpr ⟨(), covered, ?_⟩⟩⟩
    rw [require_bind_ok, built.allInHourlyUsd wide]
    refine ⟨⟨after, before⟩, require_bind_ok.mpr ⟨hourly, ?_⟩⟩
    rw [built.estimatedTotalUsd wide]
    exact require_bind_ok.mpr ⟨total, ok⟩

theorem plan_ok {planner : CpuEnvironmentPlanner} {request : EnvironmentRequest}
    {profile : CpuEnvironmentProfile} {noncompute : CpuNonComputeCostPolicy}
    {initial now : Option Instant} {listed : Except Fault CpuCatalogSnapshot}
    (planned : planner.plan c sdk request profile noncompute initial listed now = .ok plan) :
    Built sdk plan ∧ ∃ request profile noncompute created,
      plan.podRequest c sdk request profile noncompute now = .ok created := by
  unfold CpuEnvironmentPlanner.plan at planned
  obtain ⟨request', _, planned⟩ := except_bind_ok.mp planned
  obtain ⟨profile', _, planned⟩ := except_bind_ok.mp planned
  obtain ⟨noncompute', _, planned⟩ := except_bind_ok.mp planned
  obtain ⟨_, _, planned⟩ := except_bind_ok.mp planned
  obtain ⟨_, _, planned⟩ := except_bind_ok.mp planned
  obtain ⟨_, _, planned⟩ := except_bind_ok.mp planned
  obtain ⟨snapshot, _, planned⟩ := except_bind_ok.mp planned
  obtain ⟨now', reads, planned⟩ := except_bind_ok.mp planned
  obtain ⟨_, _, planned⟩ := except_bind_ok.mp planned
  obtain ⟨_, _, planned⟩ := except_bind_ok.mp planned
  cases observed : snapshot.observedAt with
  | none =>
      rw [observed] at planned
      cases planned
  | some observedAt =>
      rw [observed] at planned
      obtain ⟨_, planned⟩ := require_bind_ok.mp planned
      obtain ⟨_, planned⟩ := require_bind_ok.mp planned
      obtain ⟨_, _, planned⟩ := except_bind_ok.mp planned
      obtain ⟨found, _, planned⟩ := except_bind_ok.mp planned
      obtain ⟨_, planned⟩ := require_bind_ok.mp planned
      obtain ⟨plan', builds, planned⟩ := except_bind_ok.mp planned
      obtain ⟨created, first, planned⟩ := except_bind_ok.mp planned
      cases planned
      cases now with
      | none => cases reads
      | some t =>
          cases reads
          exact ⟨build_ok builds, request', profile', noncompute', created, first⟩

end

/-- A plan that the planner returns is valid exactly while it is offered, for originals of its own
digests and always with the same create request; and its estimate is the exact cost of the whole
lifetime and the grace, rounded up by less than a unit of the twelfth place, within the request's
ceilings and the same in every wide context. -/
theorem plan_valid_and_conservative (planner : CpuEnvironmentPlanner) (c : DecimalContext)
    (sdk : Sdk) (request : EnvironmentRequest) (profile : CpuEnvironmentProfile)
    (noncompute : CpuNonComputeCostPolicy) (initial now : Option Instant)
    (listed : Except Fault CpuCatalogSnapshot) (plan : CpuEnvironmentAcquisitionPlan)
    (wide : Wide c)
    (planned : planner.plan c sdk request profile noncompute initial listed now = .ok plan) :
    (∃ created, ∀ (c' : DecimalContext), Wide c' →
      ∀ (r : EnvironmentRequest) (f : CpuEnvironmentProfile) (n : CpuNonComputeCostPolicy)
        (time : Option Instant),
        (SameOriginals sdk plan r f n ∧ Offered plan time →
          plan.podRequest c' sdk r f n time = .ok created) ∧
        (¬ (SameOriginals sdk plan r f n ∧ Offered plan time) →
          ∃ x, plan.podRequest c' sdk r f n time = .error x)) ∧
    ∃ total hourly : ℚ, (∀ c', Wide c' → plan.estimatedTotalUsd c' = .ok total ∧
        plan.allInHourlyUsd c' = .ok hourly) ∧
      plan.exactCost ≤ total ∧ total < plan.exactCost + 1 / 10 ^ 12 ∧
      total ≤ plan.request.maxTotalCostUsd.value ∧
      hourly ≤ plan.request.maxHourlyCostUsd.value := by
  obtain ⟨built, r₀, f₀, n₀, created, first⟩ := plan_ok planned
  obtain ⟨_, _, affordable, makes⟩ := (podRequest_ok_iff built wide).mp first
  obtain ⟨atLeast, below⟩ := plan.conservativeCost_bounds
  have estimates : ∀ c', Wide c' → plan.estimatedTotalUsd c' = .ok plan.conservativeCost ∧
      plan.allInHourlyUsd c' = .ok plan.exactHourly :=
    fun c' wide' => ⟨built.estimatedTotalUsd wide', built.allInHourlyUsd wide'⟩
  refine ⟨⟨created, fun c' wide' r f n time => ⟨?_, ?_⟩⟩,
    ⟨_, _, estimates, atLeast, below, affordable.2, affordable.1⟩⟩
  · rintro ⟨same, offered⟩
    exact (podRequest_ok_iff built wide').mpr ⟨same, offered, affordable, makes⟩
  · intro other
    cases outcome : plan.podRequest c' sdk r f n time with
    | error x => exact ⟨x, rfl⟩
    | ok made =>
        obtain ⟨same, offered, _⟩ := (podRequest_ok_iff built wide').mp outcome
        exact absurd ⟨same, offered⟩ other

/-! ### A sample plan -/

namespace Sample

/-- An SDK that accepts every record, and digests it to the name of its provider. -/
def sdk : Sdk where
  validateRequest := .ok
  profileFields := .ok
  policyFields := .ok
  requestDigest := EnvironmentRequest.providerId
  profileDigest := CpuEnvironmentProfile.providerId
  policyDigest := CpuNonComputeCostPolicy.providerId

def request : EnvironmentRequest where
  providerId := "runpod"
  profileId := "browser"
  image := "image"
  region := "EU-1"
  location := "remote"
  surface := "browser"
  requiredCapabilities := ["click"]
  requestedAt := 0
  expiresAt := seconds 3600
  readyTimeoutSeconds := 60
  maxHourlyCostUsd := ⟨20, 0⟩
  maxTotalCostUsd := ⟨20, 0⟩

def profile : CpuEnvironmentProfile where
  providerId := "runpod"
  profileId := "browser"
  image := "image"
  cpuId := "cpu3c"
  vcpuCount := 2
  dataCenterId := "EU-1"
  diskGb := 10
  maxLifetimeSeconds := 3600
  cleanupGraceSeconds := 100

def policy : CpuNonComputeCostPolicy where
  providerId := "runpod"
  profileId := "browser"
  profileSha256 := "runpod"
  diskGb := 10
  dataCenterId := "EU-1"
  coveredComponents := ["container_disk", "transfer", "cleanup"]
  observedAt := 0
  expiresAt := seconds 7200
  diskTransferCleanupHourlyUsd := ⟨1, -2⟩
  diskTransferCleanupFixedUsd := ⟨5, -1⟩

/-- A flavor at five dollars for a virtual CPU and an hour. -/
def snapshot : CpuCatalogSnapshot where
  product := .pod
  vcpuCount := 2
  observedAt := some (seconds 1)
  offers := [⟨"cpu3c", 2, 8, ⟨2, 0⟩, some ⟨5, 0⟩, some .high, [⟨"EU-1", some .high⟩]⟩]

def planner : CpuEnvironmentPlanner := ⟨seconds 30, by decide⟩

def plan : CpuEnvironmentAcquisitionPlan where
  request := request
  profile := profile
  noncompute := policy
  catalog := ⟨"cpu3c", 2, ["EU-1"], ⟨4, 0⟩, ⟨10, 0⟩, seconds 1⟩
  plannedAt := seconds 2
  expiresAt := seconds 31
  catalogMaxAge := seconds 30

/-- The default context of the decimal module. -/
def usual : DecimalContext := ⟨28, -999999, 999999, by decide⟩

/-- A context of numbers below ten. -/
def narrow : DecimalContext := ⟨28, 0, 0, by decide⟩

theorem planned : planner.plan usual sdk request profile policy (some 0) (.ok snapshot)
    (some (seconds 2)) = .ok plan := by decide +kernel

end Sample

/-- The sample plan, under the default context. -/
theorem plan_valid_and_conservative_sample :
    Sample.plan.podRequest Sample.usual Sample.sdk Sample.request Sample.profile Sample.policy
        (some (seconds 31)) ≠
      Sample.plan.podRequest Sample.usual Sample.sdk Sample.request Sample.profile Sample.policy
        (some (seconds 30)) := by
  have wide : Wide Sample.usual := ⟨by decide, by decide⟩
  obtain ⟨⟨created, valid⟩, _⟩ := plan_valid_and_conservative Sample.planner Sample.usual Sample.sdk
    Sample.request Sample.profile Sample.policy (some 0) (some (seconds 2)) (.ok Sample.snapshot)
    Sample.plan wide Sample.planned
  have late := (valid Sample.usual wide Sample.request Sample.profile Sample.policy
    (some (seconds 31))).2
  have early := (valid Sample.usual wide Sample.request Sample.profile Sample.policy
    (some (seconds 30))).1 ⟨⟨rfl, rfl, rfl⟩, _, rfl, by decide, by decide⟩
  obtain ⟨x, refused⟩ := late fun ⟨_, now, is, _, before⟩ => by
    cases is
    exact absurd before (by decide)
  rw [refused, early]
  exact fun is => by cases is

/-- In a context of numbers below ten, the estimate of the plan signals. -/
theorem estimate_depends_on_context :
    Sample.planner.plan Sample.usual Sample.sdk Sample.request Sample.profile Sample.policy (some 0)
        (.ok Sample.snapshot) (some (seconds 2)) = .ok Sample.plan ∧
      Sample.plan.estimatedTotalUsd Sample.narrow ≠ Sample.plan.estimatedTotalUsd Sample.usual :=
  ⟨Sample.planned, by decide +kernel⟩

end KestrelRunpod.Cpu
