import KestrelRunpod.Placement
import KestrelRunpod.Serverless.Activation

/-!
# Placing a Serverless quote

`_observe_catalog` takes the offer that `select_gpu` chooses, and then looks for a data center in
it; `_quote_amounts` prices it.  The choice is not made again when one of these refuses the offer:
another that would have passed is not looked at (`placement_iff`).
-/

namespace KestrelRunpod.Serverless

open Choice Numeric Catalog Traverse

section

variable {d : QuoteDigests} {spec : EndpointSpec} {request : Envelope}
  {offers others : List GPUOffer} {r : PlacementRequirements} {offer : GPUOffer}
  {observedAt : Instant}

/-! ## The quote operation -/

/-- What `_quote_amounts` returns. -/
structure QuoteAmounts where
  estimatedBillableSeconds : Int
  estimatedWorkerCostUsd : Decimal
  maximumWorkerCostUsd : Decimal
  estimatedCostUsd : Decimal
  costCeilingUsd : Decimal
  deriving DecidableEq

/-- `_quote_amounts`. -/
def quoteAmounts (request : Envelope) (spec : EndpointSpec) (hourly : Decimal) :
    Except Exn QuoteAmounts := do
  let estimatedBillable := request.estimatedWorkerStartSeconds +
    request.estimatedExecutionSeconds + spec.idleTailSeconds
  let estimatedWorker ← serverlessWorkerCostUsd hourly spec.constraints.gpuCount estimatedBillable
  let maximumWorker ←
    serverlessWorkerCostUsd hourly spec.constraints.gpuCount request.maximumBillableSeconds
  return {
    estimatedBillableSeconds := estimatedBillable
    estimatedWorkerCostUsd := estimatedWorker
    maximumWorkerCostUsd := maximumWorker
    estimatedCostUsd := estimatedWorker.add request.estimatedNonWorkerCostUsd
    costCeilingUsd := maximumWorker.add request.maximumNonWorkerCostUsd }

/-- What `_observe_quote` and `_observe_planned_quote` make of the offers that were read at
`observedAt`: the selection of `_observe_catalog`, and its amounts. -/
def quoteCatalog (d : QuoteDigests) (spec : EndpointSpec) (request : Envelope)
    (observedAt : Instant) (offers : List GPUOffer) :
    Except Exn (CatalogSelection × QuoteAmounts) := do
  refuse (spec.resourceSchemaVersion ≠ .ga)
    (.manager ("Stored Serverless authority must upgrade before new quotes or spend; " ++
      "legacy adoption and cleanup remain available"))
  let requirements ← spec.constraints.placementRequirements
  validateCatalogNumbers offers
  let selection ← selectCatalog d spec requirements offers observedAt
  let amounts ← quoteAmounts request spec selection.hourlyWorkerRateUsd
  return (selection, amounts)

/-- A planned quote has the selection and the amounts of its catalog. -/
theorem currentQuote_catalog {d : Digests} {request : QuoteRequest} {quote : CapacityQuote}
    (ok : currentQuote (d := d) request offers observedAt = .ok quote) :
    ∃ selection amounts, quoteCatalog d.toQuoteDigests request.endpoint.spec request.toEnvelope
        observedAt offers = .ok (selection, amounts) ∧
      quote.gpuId = selection.gpuId ∧ quote.gpuPool = selection.gpuPool ∧
      quote.dataCenterId = selection.dataCenterId ∧
      quote.costCeilingUsd = amounts.costCeilingUsd := by
  unfold currentQuote at ok
  obtain ⟨ga, ok⟩ := check_bind_ok.mp ok
  obtain ⟨requirements, required, ok⟩ := except_bind_ok.mp ok
  obtain ⟨safe, ok⟩ := check_bind_ok.mp ok
  obtain ⟨selection, selected, ok⟩ := except_bind_ok.mp ok
  unfold plannedQuote at ok
  obtain ⟨_, _, ok⟩ := except_bind_ok.mp ok
  obtain ⟨_, _, ok⟩ := except_bind_ok.mp ok
  obtain ⟨estimatedWorker, estimated, ok⟩ := except_bind_ok.mp ok
  obtain ⟨maximumWorker, maximum, ok⟩ := except_bind_ok.mp ok
  have fields := CapacityQuote.build_ok.mp ok
  obtain ⟨amounts, priced, ceiling⟩ : ∃ amounts,
      quoteAmounts request.toEnvelope request.endpoint.spec selection.hourlyWorkerRateUsd =
        .ok amounts ∧
      amounts.costCeilingUsd = maximumWorker.add request.maximumNonWorkerCostUsd :=
    ⟨_, except_bind_ok.mpr ⟨_, estimated, except_bind_ok.mpr ⟨_, maximum, rfl⟩⟩, rfl⟩
  refine ⟨selection, amounts, ?_, congrArg (fun q => q.gpuId) fields,
    congrArg (fun q => q.gpuPool) fields, congrArg (fun q => q.dataCenterId) fields,
    (congrArg QuoteFields.costCeilingUsd fields).trans ceiling.symm⟩
  exact check_bind_ok.mpr ⟨ga, except_bind_ok.mpr ⟨requirements, required,
    check_bind_ok.mpr ⟨safe, except_bind_ok.mpr ⟨selection, selected,
      except_bind_ok.mpr ⟨_, priced, rfl⟩⟩⟩⟩⟩

/-! ## Requirements -/

/-- The requirements that the constraints state. -/
def CapacityConstraints.wanted (c : CapacityConstraints) : RequirementFields where
  product := .serverless
  minVramGb := c.minVramGb
  gpuCount := c.gpuCount
  cloud := c.cloud
  minCudaVersion := c.minCudaVersion
  maxCostPerHr := c.maxHourlyWorkerRateUsd.map fun limit => binary64 limit.value
  allowedGpuIds := []
  allowedGpuPools := c.allowedGpuPools
  allowedDataCenterIds := c.allowedDataCenterIds
  minimumAvailability := c.minimumAvailability
  benchmarkId := some c.benchmarkId

theorem catalog_ok {α : Type} {result : Except Fault α} {a : α} :
    catalog result = .ok a ↔ result = .ok a := by
  cases result with
  | ok b => simp [catalog, Except.mapError]
  | error x => simp [catalog, Except.mapError]

theorem catalog_error {α : Type} {result : Except Fault α} {x : Exn} :
    catalog result = .error x ↔ ∃ y, result = .error y ∧ Exn.ofFault y = x := by
  cases result with
  | ok b => simp [catalog, Except.mapError]
  | error x => simp [catalog, Except.mapError]

theorem placementRequirements_ok {c : CapacityConstraints}
    (ok : c.placementRequirements = .ok r) : r.toRequirementFields = c.wanted := by
  unfold CapacityConstraints.placementRequirements at ok
  obtain ⟨_, ok⟩ := check_bind_ok.mp ok
  have built := catalog_ok.mp ok
  unfold PlacementRequirements.build at built
  split at built
  · cases built
    rfl
  · cases built

theorem requirements_error {fields : RequirementFields} {y : Fault}
    (failed : fields.check = .error y) : ∃ message, y = .valueError message := by
  unfold RequirementFields.check at failed
  by_cases vram : fields.minVramGb < 1
  · simp only [vram, if_true, bind, Except.bind] at failed
    cases failed
    exact ⟨_, rfl⟩
  · by_cases count : fields.gpuCount < 1
    · simp only [vram, count, if_true, if_false, bind, Except.bind, pure, Except.pure] at failed
      cases failed
      exact ⟨_, rfl⟩
    · by_cases limit : fields.maxCostPerHr.any (fun limit => limit.le (.finite 0)) = true
      · simp only [vram, count, limit, if_true, if_false, bind, Except.bind, pure,
          Except.pure] at failed
        cases failed
        exact ⟨_, rfl⟩
      · simp only [vram, count, limit, if_false, bind, Except.bind, pure, Except.pure] at failed
        unfold normalizeCudaFloor at failed
        cases cuda : fields.minCudaVersion with
        | none =>
            rw [cuda] at failed
            cases failed
        | some value =>
            rw [cuda] at failed
            dsimp only at failed
            cases version : cudaVersion value with
            | none =>
                rw [version] at failed
                cases failed
                exact ⟨_, rfl⟩
            | some parts =>
                rw [version] at failed
                cases failed

/-- Constraints whose requirements cannot be built are refused with a `ValueError`. -/
theorem placementRequirements_error {c : CapacityConstraints} {x : Exn}
    (failed : c.placementRequirements = .error x) : x.isManager = false := by
  unfold CapacityConstraints.placementRequirements at failed
  rcases except_bind_error.mp failed with wrong | ⟨_, _, wrong⟩
  · rw [← (refuse_error.mp wrong).2]
    rfl
  · obtain ⟨y, built, rfl⟩ := catalog_error.mp wrong
    unfold PlacementRequirements.build at built
    split at built
    · cases built
    · rename_i z unchecked
      cases built
      obtain ⟨message, rfl⟩ := requirements_error unchecked
      rfl

/-! ## Data centers -/

/-- No allowed data center of the offer has an availability that is not known. -/
def SoundCenters (spec : EndpointSpec) (offer : GPUOffer) : Prop :=
  ∀ item ∈ offer.dataCenters, ∀ id ∈ spec.constraints.allowedDataCenterIds, item.id = some id →
    ∃ level, item.availability.bind Availability.ofText = some level

/-- The data center serves the endpoint. -/
def Serves (spec : EndpointSpec) (item : DataCenter) : Prop :=
  item.Serves spec.constraints.allowedDataCenterIds spec.constraints.minimumAvailability

/-- An offer whose availability is known, with a data center for the endpoint. -/
structure Located (spec : EndpointSpec) (offer : GPUOffer) : Prop where
  availability : offer.availability ≠ none
  sound : SoundCenters spec offer
  served : ∃ item ∈ offer.dataCenters, Serves spec item

theorem rankedDataCenter_cases (spec : EndpointSpec) (item : DataCenter) :
    (∃ id level, Serves spec item ∧ item.id = some id ∧
      rankedDataCenter spec item = .ok (some (id, level))) ∨
    (¬ Serves spec item ∧ (∀ id ∈ spec.constraints.allowedDataCenterIds, item.id = some id →
      ∃ level, item.availability.bind Availability.ofText = some level) ∧
      rankedDataCenter spec item = .ok none) ∨
    ((∃ id ∈ spec.constraints.allowedDataCenterIds, item.id = some id) ∧
      item.availability.bind Availability.ofText = none ∧
      ∃ message, rankedDataCenter spec item = .error (.manager message)) := by
  unfold rankedDataCenter
  cases named : item.id with
  | none =>
      refine .inr (.inl ⟨?_, (fun id _ is => nomatch is), rfl⟩)
      rintro ⟨id, _, is, _⟩
      rw [named] at is
      cases is
  | some id =>
      dsimp only
      split
      · rename_i foreign
        refine .inr (.inl ⟨?_, fun id' allowed is => ?_, rfl⟩)
        · rintro ⟨id', allowed, is, _⟩
          rw [named] at is
          cases is
          exact foreign allowed
        · cases is
          exact absurd allowed foreign
      · rename_i allowed
        have allowed := not_not.mp allowed
        cases known : item.availability.bind Availability.ofText with
        | none => exact .inr (.inr ⟨⟨id, allowed, rfl⟩, rfl, _, rfl⟩)
        | some level =>
            dsimp only
            split
            · rename_i enough
              exact .inl ⟨id, level.rank, ⟨id, allowed, named, level, known, enough⟩, rfl, rfl⟩
            · rename_i little
              refine .inr (.inl ⟨?_, fun _ _ _ => ⟨level, rfl⟩, rfl⟩)
              rintro ⟨_, _, _, level', known', enough⟩
              rw [known] at known'
              cases known'
              exact little enough

theorem rankedDataCenter_some {item : DataCenter} {id : String} {level : Nat}
    (ok : rankedDataCenter spec item = .ok (some (id, level))) :
    Serves spec item ∧ item.id = some id := by
  rcases rankedDataCenter_cases spec item with ⟨_, _, serves, named, is⟩ | ⟨_, _, is⟩ | ⟨_, _, _, is⟩
  · rw [is] at ok
    cases ok
    exact ⟨serves, named⟩
  · rw [is] at ok
    cases ok
  · rw [is] at ok
    cases ok

/-- A data center is found exactly when no allowed one is unknown and one of them serves. -/
theorem selectDataCenter_cases (spec : EndpointSpec) (offer : GPUOffer) :
    (SoundCenters spec offer ∧ ∃ id, selectDataCenter offer spec = .ok id ∧
      ∃ item ∈ offer.dataCenters, item.id = some id ∧ Serves spec item) ∨
    (¬ (SoundCenters spec offer ∧ ∃ item ∈ offer.dataCenters, Serves spec item) ∧
      ∃ message, selectDataCenter offer spec = .error (.manager message)) := by
  unfold selectDataCenter
  cases ranked : offer.dataCenters.mapM (rankedDataCenter spec) with
  | error x =>
      obtain ⟨item, member, failed⟩ := mapM_error ranked
      rcases rankedDataCenter_cases spec item with
        ⟨_, _, _, _, is⟩ | ⟨_, _, is⟩ | ⟨⟨id, allowed, named⟩, unknown, message, is⟩
      · rw [is] at failed
        cases failed
      · rw [is] at failed
        cases failed
      · rw [is] at failed
        cases failed
        refine .inr ⟨fun located => ?_, message, rfl⟩
        obtain ⟨level, known⟩ := located.1 item member id allowed named
        rw [unknown] at known
        cases known
  | ok kept =>
      have sound : SoundCenters spec offer := by
        intro item member id allowed named
        obtain ⟨verdict, _, is⟩ := mapM_ok_each ranked member
        rcases rankedDataCenter_cases spec item with
          ⟨_, _, ⟨_, _, _, level, known, _⟩, _, _⟩ | ⟨_, known, _⟩ | ⟨_, _, _, failed⟩
        · exact ⟨level, known⟩
        · exact known id allowed named
        · rw [failed] at is
          cases is
      dsimp only [bind, Except.bind]
      split
      · rename_i none_
        refine .inr ⟨fun located => ?_, _, rfl⟩
        obtain ⟨item, member, serves⟩ := located.2
        obtain ⟨verdict, held, is⟩ := mapM_ok_each ranked member
        rcases rankedDataCenter_cases spec item with
          ⟨id, level, _, _, ok⟩ | ⟨unserved, _⟩ | ⟨_, _, _, failed⟩
        · rw [is] at ok
          cases ok
          have length := congrArg List.length none_
          rw [List.length_mergeSort] at length
          have gone := List.filterMap_eq_nil_iff.mp (List.length_eq_zero_iff.mp length) _ held
          cases gone
        · exact unserved serves
        · rw [failed] at is
          cases is
      · rename_i best rest sorted
        refine .inl ⟨sound, best.1, rfl, ?_⟩
        have head : best ∈ best :: rest := List.mem_cons_self
        rw [← sorted] at head
        obtain ⟨verdict, held, is⟩ := List.mem_filterMap.mp (List.mem_mergeSort.mp head)
        obtain ⟨item, member, ok⟩ := mapM_ok_mem ranked held
        subst is
        obtain ⟨serves, named⟩ := rankedDataCenter_some ok
        exact ⟨item, member, named, serves⟩

/-! ## The quote of one offer -/

/-- The quote of an offer, once it has been chosen. -/
def offerQuote (d : QuoteDigests) (spec : EndpointSpec) (request : Envelope)
    (observedAt : Instant) (r : PlacementRequirements) (offer : GPUOffer) :
    Except Exn (CatalogSelection × QuoteAmounts) :=
  match offer.pool, offer.availability with
  | some gpuPool, some availability => do
      let dataCenterId ← selectDataCenter offer spec
      let observation ← catalogObservationSha256 d offer spec dataCenterId
      let rate := rateDecimal (offer.priced r.toRequirementFields)
      let amounts ← quoteAmounts request spec rate
      return ({
        observedAt := observedAt
        gpuId := offer.id
        gpuPool := gpuPool
        gpuName := offer.name
        vramGb := offer.memoryGb
        dataCenterId := dataCenterId
        availability := availability
        hourlyWorkerRateUsd := rate
        observationSha256 := observation }, amounts)
  | _, _ => .error (.manager "Serverless catalog selection omitted pool or availability")

/-- The selection and the amounts are those of the offer, in a data center that serves. -/
structure Sells (spec : EndpointSpec) (request : Envelope) (observedAt : Instant)
    (r : RequirementFields) (chosen : CatalogSelection × QuoteAmounts) (offer : GPUOffer) :
    Prop where
  observedAt : chosen.1.observedAt = observedAt
  gpuId : chosen.1.gpuId = offer.id
  gpuPool : offer.pool = some chosen.1.gpuPool
  gpuName : chosen.1.gpuName = offer.name
  vramGb : chosen.1.vramGb = offer.memoryGb
  availability : offer.availability = some chosen.1.availability
  rate : chosen.1.hourlyWorkerRateUsd = rateDecimal (offer.priced r)
  dataCenter : ∃ item ∈ offer.dataCenters, item.id = some chosen.1.dataCenterId ∧
    Serves spec item
  amounts : quoteAmounts request spec chosen.1.hourlyWorkerRateUsd = .ok chosen.2

/-- The rate of the offer can be priced for the request. -/
def Priced (spec : EndpointSpec) (request : Envelope) (r : RequirementFields) (offer : GPUOffer) :
    Prop :=
  ∃ amounts, quoteAmounts request spec (rateDecimal (offer.priced r)) = .ok amounts

theorem serverlessWorkerCostUsd_error {rate : Decimal} {gpuCount seconds : Int} {x : Exn}
    (failed : serverlessWorkerCostUsd rate gpuCount seconds = .error x) : x.isManager = false := by
  unfold serverlessWorkerCostUsd positiveDecimal positiveInt at failed
  rcases refuse_bind_error.mp failed with ⟨_, rfl⟩ | ⟨_, failed⟩
  · rfl
  · rcases refuse_bind_error.mp failed with ⟨_, rfl⟩ | ⟨_, failed⟩
    · rfl
    · rcases refuse_bind_error.mp failed with ⟨_, rfl⟩ | ⟨_, failed⟩
      · rfl
      · dsimp only at failed
        split at failed
        · cases failed
        · cases failed
          rfl

/-- A rate that cannot be priced is refused with an exception of another class. -/
theorem quoteAmounts_error {rate : Decimal} {x : Exn}
    (failed : quoteAmounts request spec rate = .error x) : x.isManager = false := by
  unfold quoteAmounts at failed
  rcases except_bind_error.mp failed with failed | ⟨_, _, failed⟩
  · exact serverlessWorkerCostUsd_error failed
  · rcases except_bind_error.mp failed with failed | ⟨_, _, failed⟩
    · exact serverlessWorkerCostUsd_error failed
    · cases failed

theorem observation_total (d : QuoteDigests) (dataCenterId : String) {x : ℚ}
    (price : offer.priceFor spec.constraints.cloud .serverless = .ok (.finite x)) :
    ∃ observation, catalogObservationSha256 d offer spec dataCenterId = .ok observation := by
  unfold catalogObservationSha256
  rw [price]
  exact ⟨_, rfl⟩

/-- An offer is sold, refused for its place with a `RunPodManagerError`, or refused for its price
with another exception. -/
theorem offerQuote_cases (d : QuoteDigests) (spec : EndpointSpec) (request : Envelope)
    (observedAt : Instant) {x : ℚ} {pool : String} (pooled : offer.pool = some pool)
    (price : offer.priceFor spec.constraints.cloud .serverless = .ok (.finite x)) :
    (Located spec offer ∧ ∃ chosen, offerQuote d spec request observedAt r offer = .ok chosen ∧
      Sells spec request observedAt r.toRequirementFields chosen offer) ∨
    (¬ Located spec offer ∧
      ∃ message, offerQuote d spec request observedAt r offer = .error (.manager message)) ∨
    (Located spec offer ∧ ¬ Priced spec request r.toRequirementFields offer ∧
      ∃ x, offerQuote d spec request observedAt r offer = .error x ∧ x.isManager = false) := by
  unfold offerQuote
  rw [pooled]
  cases known : offer.availability with
  | none => exact .inr (.inl ⟨fun located => located.availability known, _, rfl⟩)
  | some level =>
      dsimp only
      rcases selectDataCenter_cases spec offer with
        ⟨sound, id, found, item, member, named, serves⟩ | ⟨unlocated, message, failed⟩
      · have located : Located spec offer := by
          refine ⟨?_, sound, item, member, serves⟩
          rw [known]
          exact Option.some_ne_none level
        obtain ⟨observation, observed⟩ := observation_total d id price
        rw [found]
        simp only [bind, Except.bind, observed, pure, Except.pure]
        cases amounts : quoteAmounts request spec
            (rateDecimal (offer.priced r.toRequirementFields)) with
        | ok amounts' =>
            exact .inl ⟨located, _, rfl, rfl, rfl, pooled, rfl, rfl, known, rfl,
              ⟨item, member, named, serves⟩, amounts⟩
        | error y =>
            refine .inr (.inr ⟨located, ?_, y, rfl, quoteAmounts_error amounts⟩)
            rintro ⟨amounts', ok⟩
            rw [amounts] at ok
            cases ok
      · refine .inr (.inl ⟨fun located => unlocated ⟨located.sound, located.served⟩, message, ?_⟩)
        rw [failed]
        rfl

/-! ## The quote of a catalog -/

theorem validateCatalogNumbers_error {x : Exn}
    (failed : validateCatalogNumbers offers = .error x) : x.isManager = true := by
  obtain ⟨offer, _, failed⟩ := forM_error failed
  dsimp only at failed
  rcases refuse_bind_error.mp failed with ⟨_, rfl⟩ | ⟨_, failed⟩
  · rfl
  · rw [← (refuse_error.mp failed).2]
    rfl

theorem validateCatalogNumbers_perm (same : others.Perm offers) :
    validateCatalogNumbers others = .ok () ↔ validateCatalogNumbers offers = .ok () := by
  unfold validateCatalogNumbers
  rw [forM_ok_iff, forM_ok_iff]
  constructor
  · intro each offer member
    exact each offer (same.mem_iff.mpr member)
  · intro each offer member
    exact each offer (same.mem_iff.mp member)

/-- `matching_pool[0]` is the only offer of its pool. -/
theorem find_sole {pool : String} (member : offer ∈ offers) (pooled : offer.pool = some pool)
    (named : pool ≠ "") (sole : soleInPool offers offer = true) :
    offers.find? (fun o => o.pool = some pool) = some offer := by
  have one := (soleInPool_iff pooled named).mp sole
  rw [List.countP_eq_length_filter] at one
  obtain ⟨only, is⟩ := List.length_eq_one_iff.mp one
  have held : offer ∈ offers.filter fun o => decide (o.pool = some pool) :=
    List.mem_filter.mpr ⟨member, decide_eq_true pooled⟩
  rw [is, List.mem_singleton] at held
  rw [← List.head?_filter, is, held]
  rfl

/-- What it takes for the catalog of a specification to be read. -/
structure Opens (spec : EndpointSpec) (offers : List GPUOffer) (r : PlacementRequirements) :
    Prop where
  ga : spec.resourceSchemaVersion = .ga
  required : spec.constraints.placementRequirements = .ok r
  safe : validateCatalogNumbers offers = .ok ()

theorem Opens.wanted (opens : Opens spec offers r) :
    r.toRequirementFields = spec.constraints.wanted :=
  placementRequirements_ok opens.required

theorem Opens.quoteCatalog_eq (opens : Opens spec offers r) :
    quoteCatalog d spec request observedAt offers = (do
      let selection ← selectCatalog d spec r offers observedAt
      let amounts ← quoteAmounts request spec selection.hourlyWorkerRateUsd
      return (selection, amounts)) := by
  have ga : refuse (spec.resourceSchemaVersion ≠ .ga)
      (.manager ("Stored Serverless authority must upgrade before new quotes or spend; " ++
        "legacy adoption and cleanup remain available")) = .ok () :=
    refuse_ok.mpr (not_not.mpr opens.ga)
  unfold quoteCatalog
  rw [ga, opens.required, opens.safe]
  rfl

/-- What `fits` says of the pool and the price of a Serverless offer. -/
theorem Opens.sellable (opens : Opens spec offers r) (fits : offer.fits r = true) :
    (∃ pool, pool ≠ "" ∧ offer.pool = some pool) ∧
      ∃ x, offer.priceFor spec.constraints.cloud .serverless = .ok (.finite x) := by
  have product : r.product = .serverless := congrArg RequirementFields.product opens.wanted
  have cloud : r.cloud = spec.constraints.cloud := congrArg RequirementFields.cloud opens.wanted
  obtain ⟨x, _, price⟩ := GPUOffer.fits_priced fits
  rw [product, cloud] at price
  exact ⟨GPUOffer.hasPool_iff.mp ((GPUOffer.fits_iff.mp fits).pooled product), x, price⟩

/-- The quote is that of the first admitted offer, or refused when there is none. -/
theorem Opens.quoteCatalog_cases (opens : Opens spec offers r)
    (distinct : (offers.map GPUOffer.id).Nodup) (d : QuoteDigests) (request : Envelope)
    (observedAt : Instant) :
    (∃ offer, Least (offerLe r.toRequirementFields) offers (Catalog.Admitted offers r) offer ∧
      quoteCatalog d spec request observedAt offers =
        offerQuote d spec request observedAt r offer) ∨
    (∀ offer ∈ offers, ¬ Catalog.Admitted offers r offer) ∧
      ∃ message, quoteCatalog d spec request observedAt offers = .error (.manager message) := by
  rw [opens.quoteCatalog_eq]
  unfold selectCatalog
  rcases selectGpu_cases (r := r) distinct observedAt with
    ⟨offer, least, ok⟩ | ⟨none_, message, refused⟩
  · refine .inl ⟨offer, least, ?_⟩
    obtain ⟨⟨pool, named, pooled⟩, x, price⟩ := opens.sellable least.holds.1
    have product : r.product = .serverless := congrArg RequirementFields.product opens.wanted
    have sole : soleInPool offers offer = true := by
      rcases least.holds.2 with pod | sole
      · rw [product] at pod
        cases pod
      · exact sole
    have found := find_sole least.mem pooled named sole
    rw [ok]
    unfold offerQuote
    simp only [catalog, Except.mapError, bind, Except.bind, GPUOffer.decision, pooled]
    cases known : offer.availability with
    | none => rfl
    | some level =>
        simp only [found]
        cases selectDataCenter offer spec with
        | error y => rfl
        | ok id =>
            obtain ⟨observation, observed⟩ := observation_total d id price
            simp only [observed, pure, Except.pure]
  · refine .inr ⟨none_, message, ?_⟩
    rw [refused]
    rfl

/-- A catalog that cannot be read is refused: for its specification or its numbers with a
`RunPodManagerError`, for its requirements with another exception. -/
theorem quoteCatalog_closed (closed : ∀ r, ¬ Opens spec offers r) (d : QuoteDigests)
    (request : Envelope) (observedAt : Instant) :
    ∃ x, quoteCatalog d spec request observedAt offers = .error x ∧
      (x.isManager = true ↔ spec.resourceSchemaVersion ≠ .ga ∨
        ∃ r, spec.constraints.placementRequirements = .ok r) := by
  unfold quoteCatalog
  by_cases ga : spec.resourceSchemaVersion = .ga
  · have passed : ∀ x, refuse (spec.resourceSchemaVersion ≠ .ga) x = .ok () :=
      fun x => refuse_ok.mpr (not_not.mpr ga)
    rw [passed]
    cases required : spec.constraints.placementRequirements with
    | error x =>
        refine ⟨x, rfl, iff_of_false ?_ ?_⟩
        · rw [placementRequirements_error required]
          exact Bool.false_ne_true
        · rintro (legacy | ⟨r, ok⟩)
          · exact legacy ga
          · cases ok
    | ok r =>
        cases safe : validateCatalogNumbers offers with
        | ok u => exact absurd ⟨ga, required, safe⟩ (closed r)
        | error x =>
            exact ⟨x, rfl, iff_of_true (validateCatalogNumbers_error safe) (.inr ⟨r, rfl⟩)⟩
  · exact ⟨.manager _, except_bind_error.mpr (.inl (refuse_error.mpr ⟨ga, rfl⟩)),
      iff_of_true rfl (.inl ga)⟩

theorem Opens.unique {r' : PlacementRequirements} (opens : Opens spec offers r)
    (required : spec.constraints.placementRequirements = .ok r') : r' = r := by
  have same := required.symm.trans opens.required
  cases same
  rfl

theorem opens_perm (same : others.Perm offers) : Opens spec others r ↔ Opens spec offers r :=
  ⟨fun opens => ⟨opens.ga, opens.required, (validateCatalogNumbers_perm same).mp opens.safe⟩,
    fun opens => ⟨opens.ga, opens.required, (validateCatalogNumbers_perm same).mpr opens.safe⟩⟩

/-- What a quote chooses does not depend on the order of the catalog. -/
theorem quoteCatalog_perm (distinct : (offers.map GPUOffer.id).Nodup)
    (same : others.Perm offers) :
    (quoteCatalog d spec request observedAt others).toOption =
      (quoteCatalog d spec request observedAt offers).toOption := by
  have distinct' : (others.map GPUOffer.id).Nodup := (same.map _).nodup_iff.mpr distinct
  by_cases opened : ∃ r, Opens spec offers r
  · obtain ⟨r, opens⟩ := opened
    have opens' := (opens_perm same).mpr opens
    rcases opens.quoteCatalog_cases distinct d request observedAt with ⟨offer, least, is⟩ | ⟨none_, message, refused⟩
    · rcases opens'.quoteCatalog_cases distinct' d request observedAt with ⟨other, least', is'⟩ | ⟨none_, _⟩
      · have moved := least_admitted_unique distinct least (least_admitted_perm same least')
        rw [is, is', moved]
      · exact absurd ((admitted_perm same).mpr least.holds)
          (none_ offer (same.mem_iff.mpr least.mem))
    · rcases opens'.quoteCatalog_cases distinct' d request observedAt with ⟨other, least', _⟩ | ⟨_, _, refused'⟩
      · exact absurd ((admitted_perm same).mp least'.holds)
          (none_ other (same.mem_iff.mp least'.mem))
      · rw [refused, refused']
        rfl
  · have closed : ∀ r, ¬ Opens spec offers r := fun r opens => opened ⟨r, opens⟩
    have closed' : ∀ r, ¬ Opens spec others r :=
      fun r opens => closed r ((opens_perm same).mp opens)
    obtain ⟨x, failed, _⟩ := quoteCatalog_closed closed d request observedAt
    obtain ⟨y, failed', _⟩ := quoteCatalog_closed closed' d request observedAt
    rw [failed, failed']
    rfl

/-! ## When a quote is placed as it ought to be -/

/-- Where some offer qualifies, the catalog can be read, `select_gpu` agrees with the
qualification, and the best offer has a place and a price.  Where none does, the refusal comes
before the price. -/
structure Quotable (spec : EndpointSpec) (request : Envelope) (offers : List GPUOffer) : Prop where
  offered : (∃ offer ∈ offers, Qualifies offers spec.constraints.wanted offer) →
    ∃ r, Opens spec offers r ∧ Agrees offers r ∧
      ∀ offer, Best offers spec.constraints.wanted offer →
        Located spec offer ∧ Priced spec request spec.constraints.wanted offer
  barren : (∀ offer ∈ offers, ¬ Qualifies offers spec.constraints.wanted offer) →
    spec.resourceSchemaVersion ≠ .ga ∨
      ∃ r, spec.constraints.placementRequirements = .ok r ∧
        (validateCatalogNumbers offers = .ok () → ∀ offer,
          Least (offerLe r.toRequirementFields) offers (Catalog.Admitted offers r) offer →
            ¬ Located spec offer)

/-- A refusal is in place when no offer qualifies. -/
theorem refused_places {x : Exn} (distinct : (offers.map GPUOffer.id).Nodup)
    (refused : quoteCatalog d spec request observedAt offers = .error x)
    (managed : x.isManager = true)
    (empty : ∀ offer ∈ offers, ¬ Qualifies offers spec.constraints.wanted offer) :
    Places (quoteCatalog d spec request observedAt)
      (Sells spec request observedAt spec.constraints.wanted) (fun x => x.isManager = true) offers
      spec.constraints.wanted where
  best chosen ok := by
    rw [refused] at ok
    cases ok
  complete y failed := by
    rw [refused] at failed
    cases failed
    exact ⟨managed, empty⟩
  stable others same := quoteCatalog_perm distinct same

theorem Quotable.best (quotable : Quotable spec request offers)
    (distinct : (offers.map GPUOffer.id).Nodup) (opens : Opens spec offers r)
    (some_ : ∃ offer ∈ offers, Qualifies offers spec.constraints.wanted offer) :
    ∃ offer, Least (offerLe r.toRequirementFields) offers (Catalog.Admitted offers r) offer ∧
      Best offers spec.constraints.wanted offer ∧ Located spec offer ∧
      Priced spec request spec.constraints.wanted offer := by
  obtain ⟨r', opens', agrees, sound⟩ := quotable.offered some_
  have same := opens.unique opens'.required
  subst same
  rw [← opens.wanted] at some_
  obtain ⟨offer, best⟩ := exists_best distinct some_
  have least := ((agrees_iff distinct).mpr agrees offer).mpr best
  rw [opens.wanted] at best
  exact ⟨offer, least, best, sound offer best⟩

theorem Opens.places_iff (opens : Opens spec offers r)
    (distinct : (offers.map GPUOffer.id).Nodup) :
    Places (quoteCatalog d spec request observedAt)
      (Sells spec request observedAt spec.constraints.wanted) (fun x => x.isManager = true) offers
      spec.constraints.wanted ↔ Quotable spec request offers := by
  have refusable : Quotable spec request offers → (∀ offer ∈ offers,
      ¬ Qualifies offers spec.constraints.wanted offer) → ∀ offer,
      Least (offerLe r.toRequirementFields) offers (Catalog.Admitted offers r) offer →
      ¬ Located spec offer := by
    intro quotable empty offer least
    rcases quotable.barren empty with legacy | ⟨r', required, unlocated⟩
    · exact absurd opens.ga legacy
    · rw [opens.unique required] at unlocated
      exact unlocated opens.safe offer least
  rcases opens.quoteCatalog_cases distinct d request observedAt with ⟨first, least, is⟩ | ⟨none_, message, refused⟩
  · obtain ⟨⟨pool, _, pooled⟩, x, price⟩ := opens.sellable least.holds.1
    have only : ∀ {offer}, Least (offerLe r.toRequirementFields) offers
        (Catalog.Admitted offers r) offer → offer = first :=
      fun other => least_admitted_unique distinct other least
    rcases offerQuote_cases (r := r) d spec request observedAt pooled price with
      ⟨located, chosen, ok, sells⟩ | ⟨unlocated, message, failed⟩ | ⟨located, unpriced, y, failed,
        unmanaged⟩
    · rw [opens.wanted] at sells
      constructor
      · intro places
        obtain ⟨offer, best, sold⟩ := places.best chosen (is.trans ok)
        have same : offer = first := List.inj_on_of_nodup_map distinct best.mem least.mem
          (sold.gpuId.symm.trans sells.gpuId)
        subst same
        have best' := best
        rw [← opens.wanted] at best'
        refine ⟨fun _ => ⟨r, opens, (agrees_iff distinct).mp fun other => ?_, fun other isBest => ?_⟩,
          fun empty => absurd best.holds (empty offer best.mem)⟩
        · constructor
          · intro first
            rwa [only first]
          · intro isBest
            rwa [isBest.unique distinct best']
        · rw [← opens.wanted] at isBest
          rw [isBest.unique distinct best']
          exact ⟨located, chosen.2, by rw [← sells.rate, sells.amounts]⟩
      · intro quotable
        refine ⟨fun chosen' ok' => ?_, fun y failed => ?_, fun others same =>
          quoteCatalog_perm distinct same⟩
        · rw [is, ok] at ok'
          cases ok'
          by_cases some_ : ∃ offer ∈ offers, Qualifies offers spec.constraints.wanted offer
          · obtain ⟨offer, least', best, _⟩ := quotable.best distinct opens some_
            rw [only least'] at best
            exact ⟨first, best, sells⟩
          · exact absurd located (refusable quotable
              (fun offer member qualifies => some_ ⟨offer, member, qualifies⟩) first least)
        · rw [is, ok] at failed
          cases failed
    · constructor
      · intro places
        have empty := (places.complete _ (is.trans failed)).2
        refine ⟨fun ⟨offer, member, qualifies⟩ => absurd qualifies (empty offer member), fun _ =>
          .inr ⟨r, opens.required, fun _ offer least' => ?_⟩⟩
        rwa [only least']
      · intro quotable
        refine refused_places distinct (is.trans failed) rfl fun offer member qualifies => ?_
        obtain ⟨best, least', _, located, _⟩ :=
          quotable.best distinct opens ⟨offer, member, qualifies⟩
        rw [only least'] at located
        exact unlocated located
    · constructor
      · intro places
        have managed := (places.complete _ (is.trans failed)).1
        rw [unmanaged] at managed
        cases managed
      · intro quotable
        by_cases some_ : ∃ offer ∈ offers, Qualifies offers spec.constraints.wanted offer
        · obtain ⟨offer, least', _, _, priced⟩ := quotable.best distinct opens some_
          rw [only least', ← opens.wanted] at priced
          exact absurd priced unpriced
        · exact absurd located (refusable quotable
            (fun offer member qualifies => some_ ⟨offer, member, qualifies⟩) first least)
  · constructor
    · intro places
      have empty := (places.complete _ refused).2
      exact ⟨fun ⟨offer, member, qualifies⟩ => absurd qualifies (empty offer member), fun _ =>
        .inr ⟨r, opens.required, fun _ offer least => absurd least.holds (none_ offer least.mem)⟩⟩
    · intro quotable
      refine refused_places distinct refused rfl fun offer member qualifies => ?_
      obtain ⟨best, least, _⟩ := quotable.best distinct opens ⟨offer, member, qualifies⟩
      exact none_ best least.mem least.holds

theorem quoteCatalog_places_iff (d : QuoteDigests) (spec : EndpointSpec) (request : Envelope)
    (observedAt : Instant) (distinct : (offers.map GPUOffer.id).Nodup) :
    Places (quoteCatalog d spec request observedAt)
      (Sells spec request observedAt spec.constraints.wanted) (fun x => x.isManager = true) offers
      spec.constraints.wanted ↔ Quotable spec request offers := by
  by_cases opened : ∃ r, Opens spec offers r
  · obtain ⟨r, opens⟩ := opened
    exact opens.places_iff distinct
  · have closed : ∀ r, ¬ Opens spec offers r := fun r opens => opened ⟨r, opens⟩
    obtain ⟨x, failed, managed⟩ := quoteCatalog_closed closed d request observedAt
    constructor
    · intro places
      obtain ⟨isManaged, empty⟩ := places.complete x failed
      refine ⟨fun ⟨offer, member, qualifies⟩ => absurd qualifies (empty offer member), fun _ => ?_⟩
      by_cases ga : spec.resourceSchemaVersion = .ga
      · rcases managed.mp isManaged with legacy | ⟨r, required⟩
        · exact absurd ga legacy
        · exact .inr ⟨r, required, fun safe => absurd ⟨ga, required, safe⟩ (closed r)⟩
      · exact .inl ga
    · intro quotable
      have empty : ∀ offer ∈ offers, ¬ Qualifies offers spec.constraints.wanted offer := by
        intro offer member qualifies
        obtain ⟨r, opens, _⟩ := quotable.offered ⟨offer, member, qualifies⟩
        exact closed r opens
      refine refused_places distinct failed (managed.mpr ?_) empty
      rcases quotable.barren empty with legacy | ⟨r, required, _⟩
      · exact .inl legacy
      · exact .inr ⟨r, required⟩

end

/-! ### A sample catalog -/

namespace Sample

/-- Requirements of a Pod. -/
def podNeeds : PlacementRequirements where
  toRequirementFields := { constraints.wanted with product := .pod }
  checked := by decide +kernel

def mediumConstraints : CapacityConstraints where
  minVramGb := 24
  allowedGpuPools := ["ADA_24", "AMPERE_24"]
  allowedDataCenterIds := ["US-1"]
  minimumAvailability := .medium
  checked := by decide +kernel

def mediumNeeds : PlacementRequirements where
  toRequirementFields := mediumConstraints.wanted
  checked := by decide +kernel

def mediumSpec : EndpointSpec where
  toSpecFields := { spec.toSpecFields with constraints := mediumConstraints }
  checked := by decide +kernel

/-- Widely available, but hardly in the data center that is allowed. -/
def elsewhere : GPUOffer :=
  { offer with
    availability := some .high
    dataCenters := [⟨some "US-1", some "LOW"⟩, ⟨some "EU-1", some "HIGH"⟩] }

/-- Less widely available, and readily in the data center that is allowed. -/
def nearby : GPUOffer :=
  { offer with
    id := "gpu-2"
    pool := some "AMPERE_24"
    availability := some .medium
    dataCenters := [⟨some "US-1", some "HIGH"⟩] }

theorem offer_affordable : offer.Affordable podNeeds.toRequirementFields := by
  refine ⟨1, rfl, by decide, fun limit asked => ?_⟩
  cases asked

end Sample

end KestrelRunpod.Serverless
