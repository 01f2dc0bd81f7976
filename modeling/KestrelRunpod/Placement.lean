import KestrelRunpod.Catalog
import KestrelRunpod.Numeric.Choice
import KestrelRunpod.Numeric.Traverse
import Mathlib.Data.List.Nodup

/-!
# Which offer placement ought to choose

An offer qualifies when it meets every requirement, with a positive price and an allowed data
center at the required availability.  `select_gpu` admits offers by its own check, which asks no
positive price, and of a data center only that it is not listed with `NONE`.
-/

namespace KestrelRunpod.Catalog

open Choice Numeric Traverse

variable {offers others : List GPUOffer} {r : PlacementRequirements} {offer a b : GPUOffer}

/-! ## Qualification -/

/-- The offer has a positive price within the limit. -/
def GPUOffer.Affordable (offer : GPUOffer) (r : RequirementFields) : Prop :=
  ∃ price, offer.priceFor r.cloud r.product = .ok (.finite price) ∧ 0 < price ∧
    ∀ limit, r.maxCostPerHr = some limit → (Number.finite price).le limit = true

/-- A data center of the list `allowed`, at the required availability. -/
def DataCenter.Serves (item : DataCenter) (allowed : List String) (minimum : Availability) :
    Prop :=
  ∃ id ∈ allowed, item.id = some id ∧
    ∃ level, item.availability.bind Availability.ofText = some level ∧ minimum.rank ≤ level.rank

/-- What a placement asks of an offer of the catalog. -/
structure Qualifies (offers : List GPUOffer) (r : RequirementFields) (offer : GPUOffer) :
    Prop where
  memory : r.minVramGb ≤ offer.memoryGb
  cuda : ∀ floor, r.minCudaVersion = some floor → offer.availabilityMinCudaVersion = some floor
  cloud : offer.supportsCloud r.cloud = true
  count : r.product = .pod → r.gpuCount ≤ offer.maxCountFor r.cloud
  gpuId : r.allowedGpuIds = [] ∨ offer.id ∈ r.allowedGpuIds
  pool : r.allowedGpuPools = [] ∨ ∃ pool ∈ r.allowedGpuPools, offer.pool = some pool
  price : offer.Affordable r
  availability : r.minimumAvailability.rank ≤ offer.rank
  dataCenter : r.allowedDataCenterIds = [] ∨
    ∃ item ∈ offer.dataCenters, item.Serves r.allowedDataCenterIds r.minimumAvailability
  exactPool : r.product = .serverless →
    ∃ pool, pool ≠ "" ∧ offer.pool = some pool ∧ offers.countP (fun o => o.pool = some pool) = 1

/-- The price that the offer is ranked by. -/
def GPUOffer.priced (offer : GPUOffer) (r : RequirementFields) : Number :=
  (offer.priceFor r.cloud r.product).toOption.getD .nan

/-- The order `(availability, price, memory, id)` of the offers. -/
def offerLe (r : RequirementFields) : GPUOffer → GPUOffer → Bool :=
  keyLe fun offer => offer.priced r

/-- The best of the qualifying offers. -/
def Best (offers : List GPUOffer) (r : RequirementFields) (offer : GPUOffer) : Prop :=
  Least (offerLe r) offers (Qualifies offers r) offer

/-! ## What `select_gpu` admits -/

/-- `_is_compatible`, whose price is there when it is asked for. -/
def GPUOffer.fits (offer : GPUOffer) (r : PlacementRequirements) : Bool :=
  (offer.isCompatible r).toOption.getD false

theorem GPUOffer.isCompatible_fits : offer.isCompatible r = .ok (offer.fits r) := by
  have total : ∃ verdict, offer.isCompatible r = .ok verdict := by
    unfold GPUOffer.isCompatible
    iterate 4
      split
      · exact ⟨_, rfl⟩
    split
    · exact ⟨_, rfl⟩
    · rename_i priced
      split
      · exact ⟨_, rfl⟩
      · split
        · exact ⟨_, rfl⟩
        · have affordable : ∃ verdict, offer.affordable r = .ok verdict := by
            unfold GPUOffer.affordable GPUOffer.priceFor
            cases product : r.product with
            | pod =>
                cases r.cloud with
                | secure => exact ⟨_, rfl⟩
                | community => exact ⟨_, rfl⟩
            | serverless =>
                cases price : offer.serverlessPricePerHr with
                | some x => exact ⟨_, rfl⟩
                | none => exact absurd ⟨product, .inr price⟩ priced
          obtain ⟨verdict, is⟩ := affordable
          rw [is]
          simp only [bind, Except.bind]
          split
          · exact ⟨_, rfl⟩
          · split <;> exact ⟨_, rfl⟩
  obtain ⟨verdict, is⟩ := total
  unfold GPUOffer.fits
  rw [is]
  rfl

/-- An offer that `select_gpu` may choose. -/
def Admitted (offers : List GPUOffer) (r : PlacementRequirements) (offer : GPUOffer) : Prop :=
  offer.fits r = true ∧ (r.product = .pod ∨ soleInPool offers offer = true)

/-- The price of an offer is not negative, and not above the limit. -/
def GPUOffer.Payable (offer : GPUOffer) (r : RequirementFields) : Prop :=
  ∃ price, offer.priceFor r.cloud r.product = .ok (.finite price) ∧ 0 ≤ price ∧
    ∀ limit, r.maxCostPerHr = some limit → limit.lt (.finite price) = false

theorem GPUOffer.affordable_iff : offer.affordable r = .ok true ↔ offer.Payable r.toRequirementFields := by
  unfold GPUOffer.affordable GPUOffer.Payable
  cases price : offer.priceFor r.cloud r.product with
  | error x => simp [bind, Except.bind]
  | ok price' =>
      cases price' with
      | finite x =>
          cases limit : r.maxCostPerHr with
          | none => simp [bind, Except.bind, pure, Except.pure, Number.isFinite, Number.lt]
          | some y => simp [bind, Except.bind, pure, Except.pure, Number.isFinite, Number.lt]
      | infinite negative => simp [bind, Except.bind, pure, Except.pure, Number.isFinite]
      | nan => simp [bind, Except.bind, pure, Except.pure, Number.isFinite]

/-- What `_is_compatible` asks of an offer. -/
structure Compatible (r : RequirementFields) (offer : GPUOffer) : Prop where
  memory : r.minVramGb ≤ offer.memoryGb
  cuda : ∀ floor, r.minCudaVersion = some floor → offer.availabilityMinCudaVersion = some floor
  cloud : offer.supportsCloud r.cloud = true
  count : r.product = .pod → r.gpuCount ≤ offer.maxCountFor r.cloud
  pooled : r.product = .serverless → offer.hasPool = true
  gpuId : r.allowedGpuIds = [] ∨ offer.id ∈ r.allowedGpuIds
  pool : r.allowedGpuPools = [] ∨ ∃ pool ∈ r.allowedGpuPools, offer.pool = some pool
  price : offer.Payable r
  availability : r.minimumAvailability.rank ≤ offer.rank
  dataCenter : r.allowedDataCenterIds = [] ∨ ∃ item ∈ offer.dataCenters,
    ∃ id ∈ r.allowedDataCenterIds, item.id = some id ∧ item.availability ≠ some "NONE"

theorem any_dataCenter {items : List DataCenter} {allowed : List String} :
    items.any (fun item => item.id.any (· ∈ allowed) && item.availability ≠ some "NONE") = true ↔
      ∃ item ∈ items, ∃ id ∈ allowed, item.id = some id ∧ item.availability ≠ some "NONE" := by
  simp only [List.any_eq_true, Bool.and_eq_true, decide_eq_true_eq]
  constructor
  · rintro ⟨item, member, named, listed⟩
    obtain ⟨id, is, allowed⟩ := (Option.any_eq_true _ _).mp named
    exact ⟨item, member, id, of_decide_eq_true allowed, is, listed⟩
  · rintro ⟨item, member, id, allowed, is, listed⟩
    exact ⟨item, member, (Option.any_eq_true _ _).mpr ⟨id, is, decide_eq_true allowed⟩, listed⟩

theorem GPUOffer.fits_iff : offer.fits r = true ↔ Compatible r.toRequirementFields offer := by
  have is := offer.isCompatible_fits (r := r)
  constructor
  · intro fits
    rw [fits] at is
    unfold GPUOffer.isCompatible at is
    split at is
    · cases is
    split at is
    · cases is
    split at is
    · cases is
    split at is
    · cases is
    split at is
    · cases is
    split at is
    · cases is
    split at is
    · cases is
    rename_i memory cuda cloud count pooled gpuId pool
    have payable : offer.affordable r = .ok true := by
      cases affordable : offer.affordable r with
      | error x =>
          rw [affordable] at is
          cases is
      | ok verdict =>
          cases verdict with
          | true => rfl
          | false =>
              rw [affordable] at is
              cases is
    have pools : offer.pool.any (· ∈ r.allowedGpuPools) = true ↔
        ∃ pool ∈ r.allowedGpuPools, offer.pool = some pool := by
      cases offer.pool <;> simp
    rw [payable] at is
    simp only [bind, Except.bind] at is
    split at is
    · rename_i unpaid
      exact absurd trivial unpaid
    · split at is
      · cases is
      · rename_i availability
        simp only [pure, Except.pure, Except.ok.injEq, Bool.decide_or, Bool.or_eq_true,
          decide_eq_true_eq, any_dataCenter] at is
        refine ⟨not_lt.mp memory, ?_, not_not.mp cloud, fun pod => ?_, fun serverless => ?_, ?_,
          ?_, affordable_iff.mp payable, not_lt.mp availability, is⟩
        · intro floor asked
          by_contra other
          rw [← asked] at other
          exact cuda ⟨by rw [asked]; exact Option.some_ne_none floor, other⟩
        · exact not_lt.mp fun less => count ⟨pod, less⟩
        · by_contra poolless
          exact pooled ⟨serverless, .inl poolless⟩
        · by_contra neither
          exact gpuId (not_or.mp neither)
        · by_contra neither
          rw [← pools] at neither
          exact pool (not_or.mp neither)
  · intro compatible
    have payable := affordable_iff.mpr compatible.price
    have cuda : ¬ (r.minCudaVersion ≠ none ∧
        offer.availabilityMinCudaVersion ≠ r.minCudaVersion) := by
      rintro ⟨asked, other⟩
      obtain ⟨floor, is⟩ := Option.ne_none_iff_exists'.mp asked
      exact other ((compatible.cuda floor is).trans is.symm)
    have count : ¬ (r.product = .pod ∧ offer.maxCountFor r.cloud < r.gpuCount) := by
      rintro ⟨pod, less⟩
      exact absurd (compatible.count pod) (not_le.mpr less)
    have pooled : ¬ (r.product = .serverless ∧
        (¬ offer.hasPool = true ∨ offer.serverlessPricePerHr = none)) := by
      rintro ⟨serverless, poolless | priceless⟩
      · exact poolless (compatible.pooled serverless)
      · obtain ⟨x, price, _⟩ := compatible.price
        rw [serverless] at price
        unfold GPUOffer.priceFor at price
        rw [priceless] at price
        cases price
    have gpuId : ¬ (r.allowedGpuIds ≠ [] ∧ offer.id ∉ r.allowedGpuIds) :=
      not_and_or.mpr (compatible.gpuId.imp not_not.mpr not_not.mpr)
    have pool : ¬ (r.allowedGpuPools ≠ [] ∧
        ¬ offer.pool.any (· ∈ r.allowedGpuPools) = true) := by
      rintro ⟨some_, foreign⟩
      rcases compatible.pool with none_ | ⟨pool, allowed, is⟩
      · exact some_ none_
      · exact foreign ((Option.any_eq_true _ _).mpr ⟨pool, is, decide_eq_true allowed⟩)
    have idle : ¬ offer.rank < r.minimumAvailability.rank := not_lt.mpr compatible.availability
    unfold GPUOffer.fits GPUOffer.isCompatible
    rw [if_neg (not_lt.mpr compatible.memory), if_neg cuda, if_neg (not_not.mpr compatible.cloud),
      if_neg count, if_neg pooled, if_neg gpuId, if_neg pool, payable]
    simp only [bind, Except.bind, pure, Except.pure, not_true_eq_false, if_false, idle,
      Except.toOption, Option.getD_some, Bool.decide_or, Bool.or_eq_true, decide_eq_true_eq]
    exact compatible.dataCenter.imp (fun none_ => none_) any_dataCenter.mpr

/-! ## The order -/

theorem offerLe_iff {x y : ℚ} (left : a.priced r.toRequirementFields = .finite x)
    (right : b.priced r.toRequirementFields = .finite y) :
    offerLe r.toRequirementFields a b = true ↔ b.rank < a.rank ∨ a.rank = b.rank ∧
      (x < y ∨ x = y ∧ (a.memoryGb < b.memoryGb ∨ a.memoryGb = b.memoryGb ∧ a.id ≤ b.id)) := by
  unfold offerLe keyLe
  simp [left, right, Number.lt]

/-- An offer of the catalog with a price that can be compared. -/
def Comparable (offers : List GPUOffer) (r : RequirementFields) (offer : GPUOffer) : Prop :=
  offer ∈ offers ∧ ∃ x, offer.priced r = .finite x

theorem offerLe_ranks (distinct : (offers.map GPUOffer.id).Nodup) :
    Ranks (offerLe r.toRequirementFields) (Comparable offers r.toRequirementFields) where
  total := by
    rintro a b ⟨_, x, left⟩ ⟨_, y, right⟩
    rw [offerLe_iff left right, offerLe_iff right left]
    have ids := String.le_total a.id b.id
    rcases lt_trichotomy a.rank b.rank with rank | rank | rank
    · exact .inr (.inl rank)
    · rcases lt_trichotomy x y with price | price | price
      · exact .inl (.inr ⟨rank, .inl price⟩)
      · rcases lt_trichotomy a.memoryGb b.memoryGb with memory | memory | memory
        · exact .inl (.inr ⟨rank, .inr ⟨price, .inl memory⟩⟩)
        · exact ids.imp (fun before => .inr ⟨rank, .inr ⟨price, .inr ⟨memory, before⟩⟩⟩)
            (fun before => .inr ⟨rank.symm, .inr ⟨price.symm, .inr ⟨memory.symm, before⟩⟩⟩)
        · exact .inr (.inr ⟨rank.symm, .inr ⟨price.symm, .inl memory⟩⟩)
      · exact .inr (.inr ⟨rank.symm, .inl price⟩)
    · exact .inl (.inl rank)
  trans := by
    rintro a b c ⟨_, x, first⟩ ⟨_, y, second⟩ ⟨_, z, third⟩ ab bc
    rw [offerLe_iff first second] at ab
    rw [offerLe_iff second third] at bc
    rw [offerLe_iff first third]
    rcases ab with rank | ⟨rank, ab⟩
    · rcases bc with rank' | ⟨rank', _⟩
      · exact .inl (by omega)
      · exact .inl (by omega)
    · rcases bc with rank' | ⟨rank', bc⟩
      · exact .inl (by omega)
      · refine .inr ⟨rank.trans rank', ?_⟩
        rcases ab with price | ⟨rfl, ab⟩
        · rcases bc with price' | ⟨rfl, _⟩
          · exact .inl (price.trans price')
          · exact .inl price
        · rcases bc with price' | ⟨rfl, bc⟩
          · exact .inl price'
          · refine .inr ⟨rfl, ?_⟩
            rcases ab with memory | ⟨memory, ab⟩
            · rcases bc with memory' | ⟨memory', _⟩
              · exact .inl (by omega)
              · exact .inl (by omega)
            · rcases bc with memory' | ⟨memory', bc⟩
              · exact .inl (by omega)
              · exact .inr ⟨memory.trans memory', String.le_trans ab bc⟩
  antisymm := by
    rintro a b ⟨inA, x, left⟩ ⟨inB, y, right⟩ ab ba
    rw [offerLe_iff left right] at ab
    rw [offerLe_iff right left] at ba
    have same : a.id = b.id := by
      rcases ab with rank | ⟨rank, price | ⟨price, memory | ⟨memory, ab⟩⟩⟩ <;>
        rcases ba with rank' | ⟨rank', price' | ⟨price', memory' | ⟨memory', ba⟩⟩⟩ <;>
        first
          | omega
          | exact absurd price (by linarith)
          | exact String.le_antisymm ab ba
    exact List.inj_on_of_nodup_map distinct inA inB same

theorem Qualifies.comparable {r : RequirementFields} (member : offer ∈ offers)
    (qualifies : Qualifies offers r offer) : Comparable offers r offer := by
  obtain ⟨price, is, _⟩ := qualifies.price
  refine ⟨member, price, ?_⟩
  unfold GPUOffer.priced
  rw [is]
  rfl

theorem GPUOffer.fits_priced (fits : offer.fits r = true) :
    ∃ x, offer.priced r.toRequirementFields = .finite x ∧
      offer.priceFor r.cloud r.product = .ok (.finite x) := by
  obtain ⟨x, price, _⟩ := (GPUOffer.fits_iff.mp fits).price
  refine ⟨x, ?_, price⟩
  unfold GPUOffer.priced
  rw [price]
  rfl

theorem Admitted.comparable (member : offer ∈ offers) (admitted : Admitted offers r offer) :
    Comparable offers r.toRequirementFields offer := by
  obtain ⟨x, is, _⟩ := GPUOffer.fits_priced admitted.1
  exact ⟨member, x, is⟩

/-! ## The choice -/

/-- The decision for an offer. -/
def GPUOffer.decision (offer : GPUOffer) (r : PlacementRequirements) (observedAt : Instant) :
    PlacementDecision where
  gpuId := offer.id
  gpuPool := offer.pool
  gpuName := offer.name
  memoryGb := offer.memoryGb
  cloud := r.cloud
  gpuCount := r.gpuCount
  offeredCostPerHr := offer.priced r.toRequirementFields
  availability := offer.availability
  catalogObservedAt := observedAt
  requirements := r

/-- The offers that `select_gpu` sorts. -/
def candidates (offers : List GPUOffer) (r : PlacementRequirements) : List GPUOffer :=
  offers.filter fun offer => offer.fits r && (r.product = .pod || soleInPool offers offer)

theorem least_candidates : Least (offerLe r.toRequirementFields) (candidates offers r)
    (fun _ => True) offer ↔
      Least (offerLe r.toRequirementFields) offers (Admitted offers r) offer := by
  have admits : ∀ o, (o.fits r && (r.product = .pod || soleInPool offers o)) = true ↔
      Admitted offers r o := by
    intro o
    unfold Admitted
    simp
  unfold candidates
  rw [least_filter]
  simp only [admits]

theorem mem_candidates : offer ∈ candidates offers r ↔ offer ∈ offers ∧ Admitted offers r offer := by
  unfold candidates Admitted
  simp

theorem filter_candidates : (offers.filter fun o => o.fits r).filter
    (fun o => r.product = .pod || soleInPool offers o) = candidates offers r := by
  unfold candidates
  rw [List.filter_filter]
  congr
  funext o
  exact Bool.and_comm _ _

theorem selectGpu_nil (none_ : candidates offers r = []) (observedAt : Instant) :
    ∃ message, selectGpu offers r observedAt = .error (.manager message) := by
  unfold selectGpu
  rw [filterM_total fun o => o.isCompatible_fits]
  simp only [bind, Except.bind, filter_candidates, none_, List.mergeSort_nil]
  split
  · exact ⟨_, rfl⟩
  · exact ⟨_, rfl⟩

theorem selectGpu_cons {selected : GPUOffer} {rest : List GPUOffer}
    (sorted : (candidates offers r).mergeSort (offerLe r.toRequirementFields) = selected :: rest)
    (observedAt : Instant) :
    selectGpu offers r observedAt = .ok (selected.decision r observedAt) := by
  have held : selected ∈ candidates offers r := by
    have head : selected ∈ (candidates offers r).mergeSort (offerLe r.toRequirementFields) := by
      rw [sorted]
      exact List.mem_cons_self
    exact List.mem_mergeSort.mp head
  obtain ⟨x, priced, price⟩ := GPUOffer.fits_priced (mem_candidates.mp held).2.1
  have some_ : candidates offers r ≠ [] := List.ne_nil_of_mem held
  unfold offerLe GPUOffer.priced at sorted
  unfold selectGpu
  rw [filterM_total fun o => o.isCompatible_fits]
  simp only [bind, Except.bind, filter_candidates, some_, and_false, if_false, sorted, price,
    pure, Except.pure, GPUOffer.decision, priced]

/-- `select_gpu` decides for the first of the admitted offers, or refuses when there is none. -/
theorem selectGpu_cases (distinct : (offers.map GPUOffer.id).Nodup) (observedAt : Instant) :
    (∃ offer, Least (offerLe r.toRequirementFields) offers (Admitted offers r) offer ∧
      selectGpu offers r observedAt = .ok (offer.decision r observedAt)) ∨
    (∀ offer ∈ offers, ¬ Admitted offers r offer) ∧
      ∃ message, selectGpu offers r observedAt = .error (.manager message) := by
  cases sorted : (candidates offers r).mergeSort (offerLe r.toRequirementFields) with
  | nil =>
      have none_ : candidates offers r = [] := by
        have same := congrArg List.length sorted
        rw [List.length_mergeSort] at same
        exact List.length_eq_zero_iff.mp same
      refine .inr ⟨fun offer member admitted => ?_, selectGpu_nil none_ observedAt⟩
      have held := mem_candidates.mpr ⟨member, admitted⟩
      rw [none_] at held
      cases held
  | cons selected rest =>
      have least := (offerLe_ranks (r := r) distinct).head (fun o member =>
        (mem_candidates.mp member).2.comparable (mem_candidates.mp member).1) sorted
      exact .inl ⟨selected, least_candidates.mp least, selectGpu_cons sorted observedAt⟩

/-! ## Placement -/

/-- A choice from the catalog is the best of the qualifying offers, whatever the order of the
catalog, and is refused only when no offer qualifies, with an error of the `managed` kind. -/
structure Places {ε σ : Type} (select : List GPUOffer → Except ε σ)
    (describes : σ → GPUOffer → Prop) (managed : ε → Prop) (offers : List GPUOffer)
    (r : RequirementFields) : Prop where
  best : ∀ chosen, select offers = .ok chosen → ∃ offer, Best offers r offer ∧
    describes chosen offer
  complete : ∀ x, select offers = .error x → managed x ∧ ∀ offer ∈ offers,
    ¬ Qualifies offers r offer
  stable : ∀ others, others.Perm offers → (select others).toOption = (select offers).toOption

/-- Every offer on which `select_gpu` and the qualification differ comes after one that has
both. -/
def Agrees (offers : List GPUOffer) (r : PlacementRequirements) : Prop :=
  ∀ offer ∈ offers, ¬ (Admitted offers r offer ↔ Qualifies offers r.toRequirementFields offer) →
    ∃ other ∈ offers, Admitted offers r other ∧ Qualifies offers r.toRequirementFields other ∧
      offerLe r.toRequirementFields other offer = true

/-- An allowed data center at the required availability, where any is asked for. -/
def Served (r : RequirementFields) (offer : GPUOffer) : Prop :=
  r.allowedDataCenterIds = [] ∨
    ∃ item ∈ offer.dataCenters, item.Serves r.allowedDataCenterIds r.minimumAvailability

theorem soleInPool_iff {pool : String} (pooled : offer.pool = some pool) (named : pool ≠ "") :
    soleInPool offers offer = true ↔ offers.countP (fun o => o.pool = some pool) = 1 := by
  have same : (fun o : GPUOffer => o.hasPool && decide (o.pool = offer.pool)) =
      fun o => decide (o.pool = some pool) := by
    funext o
    rw [pooled]
    by_cases is : o.pool = some pool
    · simp [GPUOffer.hasPool, is, named]
    · simp [is]
  unfold soleInPool
  rw [same, decide_eq_true_eq, List.countP_eq_length_filter]

theorem GPUOffer.hasPool_iff : offer.hasPool = true ↔ ∃ pool, pool ≠ "" ∧ offer.pool = some pool := by
  unfold GPUOffer.hasPool
  cases offer.pool with
  | none => simp
  | some pool => simp

theorem GPUOffer.Affordable.payable {r : RequirementFields} (affordable : offer.Affordable r) :
    offer.Payable r := by
  obtain ⟨price, is, positive, within⟩ := affordable
  refine ⟨price, is, positive.le, fun limit asked => ?_⟩
  have under := within limit asked
  cases limit with
  | finite y => simpa [Number.lt, Number.le] using under
  | infinite negative => simpa [Number.lt, Number.le] using under
  | nan => rfl

/-- With a required availability above `NONE`, an offer qualifies when it is admitted, its price
is positive and within the limit, and it is served at the required availability. -/
theorem qualifies_iff (required : r.minimumAvailability ≠ .none) :
    Qualifies offers r.toRequirementFields offer ↔ Admitted offers r offer ∧
      offer.Affordable r.toRequirementFields ∧ Served r.toRequirementFields offer := by
  constructor
  · intro qualifies
    refine ⟨⟨GPUOffer.fits_iff.mpr ?_, ?_⟩, qualifies.price, qualifies.dataCenter⟩
    · refine ⟨qualifies.memory, qualifies.cuda, qualifies.cloud, qualifies.count,
        fun serverless => ?_, qualifies.gpuId, qualifies.pool, qualifies.price.payable,
        qualifies.availability, ?_⟩
      · obtain ⟨pool, named, pooled, _⟩ := qualifies.exactPool serverless
        exact GPUOffer.hasPool_iff.mpr ⟨pool, named, pooled⟩
      · rcases qualifies.dataCenter with none_ | ⟨item, member, id, allowed, is, level, known, enough⟩
        · exact .inl none_
        · refine .inr ⟨item, member, id, allowed, is, fun unlisted => ?_⟩
          rw [unlisted] at known
          cases known
          cases minimum : r.minimumAvailability with
          | none => exact required minimum
          | low => rw [minimum] at enough; exact absurd enough (by decide)
          | medium => rw [minimum] at enough; exact absurd enough (by decide)
          | high => rw [minimum] at enough; exact absurd enough (by decide)
    · cases product : r.product with
      | pod => exact .inl rfl
      | serverless =>
          obtain ⟨pool, named, pooled, sole⟩ := qualifies.exactPool product
          exact .inr ((soleInPool_iff pooled named).mpr sole)
  · rintro ⟨⟨fits, sole⟩, affordable, served⟩
    have compatible := GPUOffer.fits_iff.mp fits
    refine ⟨compatible.memory, compatible.cuda, compatible.cloud, compatible.count,
      compatible.gpuId, compatible.pool, affordable, compatible.availability, served,
      fun serverless => ?_⟩
    obtain ⟨pool, named, pooled⟩ := GPUOffer.hasPool_iff.mp (compatible.pooled serverless)
    refine ⟨pool, named, pooled, (soleInPool_iff pooled named).mp ?_⟩
    rcases sole with pod | sole
    · rw [serverless] at pod
      cases pod
    · exact sole

/-- With a required availability above `NONE`, `select_gpu` agrees with the qualification when
each offer that it admits without a positive price or a serving data center comes after one that
qualifies. -/
theorem agrees_iff_beaten (required : r.minimumAvailability ≠ .none) :
    Agrees offers r ↔ ∀ offer ∈ offers, Admitted offers r offer →
      ¬ (offer.Affordable r.toRequirementFields ∧ Served r.toRequirementFields offer) →
        ∃ other ∈ offers, Qualifies offers r.toRequirementFields other ∧
          offerLe r.toRequirementFields other offer = true := by
  constructor
  · intro agrees offer member admitted lacks
    obtain ⟨other, inOffers, _, qualifies, before⟩ := agrees offer member fun same =>
      lacks ((qualifies_iff required).mp (same.mp admitted)).2
    exact ⟨other, inOffers, qualifies, before⟩
  · intro beaten offer member differ
    have admitted : Admitted offers r offer := by
      by_contra barred
      exact differ (iff_of_false barred fun qualifies =>
        barred ((qualifies_iff required).mp qualifies).1)
    obtain ⟨other, inOffers, qualifies, before⟩ := beaten offer member admitted fun both =>
      differ (iff_of_true admitted ((qualifies_iff required).mpr ⟨admitted, both⟩))
    exact ⟨other, inOffers, ((qualifies_iff required).mp qualifies).1, qualifies, before⟩

theorem agrees_iff (distinct : (offers.map GPUOffer.id).Nodup) :
    (∀ offer, Least (offerLe r.toRequirementFields) offers (Admitted offers r) offer ↔
      Best offers r.toRequirementFields offer) ↔ Agrees offers r :=
  (offerLe_ranks distinct).agree_iff (fun _ member admitted => admitted.comparable member)
    (fun _ member qualifies => qualifies.comparable member)

theorem exists_best {r : PlacementRequirements} (distinct : (offers.map GPUOffer.id).Nodup)
    (some_ : ∃ offer ∈ offers, Qualifies offers r.toRequirementFields offer) :
    ∃ offer, Best offers r.toRequirementFields offer :=
  (offerLe_ranks distinct).exists_least (fun _ member qualifies => qualifies.comparable member)
    some_

theorem Best.unique {r : PlacementRequirements} (distinct : (offers.map GPUOffer.id).Nodup)
    (left : Best offers r.toRequirementFields a) (right : Best offers r.toRequirementFields b) :
    a = b :=
  (offerLe_ranks distinct).unique (fun _ member qualifies => qualifies.comparable member)
    left right

theorem soleInPool_perm (same : others.Perm offers) :
    soleInPool others offer = soleInPool offers offer := by
  unfold soleInPool
  rw [(same.filter _).length_eq]

theorem admitted_perm (same : others.Perm offers) :
    Admitted others r offer ↔ Admitted offers r offer := by
  unfold Admitted
  rw [soleInPool_perm same]

theorem least_admitted_perm (same : others.Perm offers)
    (least : Least (offerLe r.toRequirementFields) others (Admitted others r) offer) :
    Least (offerLe r.toRequirementFields) offers (Admitted offers r) offer := by
  have there := least.perm same.symm
  exact ⟨there.mem, (admitted_perm same).mp there.holds, fun b member admitted =>
    there.first b member ((admitted_perm same).mpr admitted)⟩

theorem least_admitted_unique (distinct : (offers.map GPUOffer.id).Nodup)
    (left : Least (offerLe r.toRequirementFields) offers (Admitted offers r) a)
    (right : Least (offerLe r.toRequirementFields) offers (Admitted offers r) b) : a = b :=
  (offerLe_ranks distinct).unique (fun _ member admitted => Admitted.comparable member admitted)
    left right

/-- What `select_gpu` chooses does not depend on the order of the catalog. -/
theorem selectGpu_perm (distinct : (offers.map GPUOffer.id).Nodup) (same : others.Perm offers)
    (observedAt : Instant) :
    (selectGpu others r observedAt).toOption = (selectGpu offers r observedAt).toOption := by
  have distinct' : (others.map GPUOffer.id).Nodup := (same.map _).nodup_iff.mpr distinct
  rcases selectGpu_cases (r := r) distinct observedAt with ⟨offer, least, ok⟩ | ⟨none_, _, refused⟩
  · rcases selectGpu_cases (r := r) distinct' observedAt with
      ⟨other, least', ok'⟩ | ⟨none_, _⟩
    · have is := least_admitted_unique distinct least (least_admitted_perm same least')
      rw [ok, ok', is]
    · exact absurd ((admitted_perm same).mpr least.holds)
        (none_ offer (same.mem_iff.mpr least.mem))
  · rcases selectGpu_cases (r := r) distinct' observedAt with
      ⟨other, least', ok'⟩ | ⟨_, _, refused'⟩
    · exact absurd ((admitted_perm same).mp least'.holds)
        (none_ other (same.mem_iff.mp least'.mem))
    · rw [refused, refused']
      rfl

/-- The decision is about the offer. -/
def Decides (r : PlacementRequirements) (observedAt : Instant) (decision : PlacementDecision)
    (offer : GPUOffer) : Prop :=
  decision = offer.decision r observedAt

/-- `select_gpu` places as it ought to if and only if it agrees with the qualification. -/
theorem selectGpu_places_iff (distinct : (offers.map GPUOffer.id).Nodup) (observedAt : Instant) :
    Places (fun offers => selectGpu offers r observedAt) (Decides r observedAt)
      (fun x => ∃ message, x = Fault.manager message) offers r.toRequirementFields ↔
      Agrees offers r := by
  rw [← agrees_iff distinct]
  constructor
  · intro places offer
    rcases selectGpu_cases (r := r) distinct observedAt with
      ⟨first, least, ok⟩ | ⟨none_, message, refused⟩
    · obtain ⟨best, isBest, is⟩ := places.best _ ok
      have same : first = best := by
        have ids : first.id = best.id := congrArg PlacementDecision.gpuId is
        exact List.inj_on_of_nodup_map distinct least.mem isBest.mem ids
      rw [← same] at isBest
      constructor
      · intro other
        rwa [← least_admitted_unique distinct least other]
      · intro other
        rwa [← isBest.unique distinct other]
    · constructor
      · intro least
        exact absurd least.holds (none_ offer least.mem)
      · intro best
        exact absurd best.holds ((places.complete _ refused).2 offer best.mem)
  · intro agree
    refine ⟨fun decision ok => ?_, fun x failed => ?_, fun others same =>
      selectGpu_perm distinct same observedAt⟩
    · rcases selectGpu_cases (r := r) distinct observedAt with
        ⟨first, least, is⟩ | ⟨_, message, refused⟩
      · rw [is] at ok
        cases ok
        exact ⟨first, (agree first).mp least, rfl⟩
      · rw [refused] at ok
        cases ok
    · rcases selectGpu_cases (r := r) distinct observedAt with
        ⟨first, least, is⟩ | ⟨none_, message, refused⟩
      · rw [is] at failed
        cases failed
      · rw [refused] at failed
        cases failed
        refine ⟨⟨message, rfl⟩, fun offer member qualifies => ?_⟩
        obtain ⟨best, isBest⟩ := exists_best distinct ⟨offer, member, qualifies⟩
        exact none_ best isBest.mem ((agree best).mpr isBest).holds

end KestrelRunpod.Catalog
