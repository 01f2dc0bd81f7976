import KestrelRunpod.Numeric.Binary64
import KestrelRunpod.Pod.Errors

/-!
# Catalog placement

GPU offers of the v2 catalog and the choice of one of them: highest availability, then lowest
price, then least memory, then least id, among the offers that meet every requirement.
-/

namespace KestrelRunpod.Catalog

open Numeric

/-- An exception of the catalog code. -/
inductive Fault
  | valueError (message : String)
  | manager (message : String)
  deriving DecidableEq, Repr

inductive CloudType
  | secure
  | community
  deriving DecidableEq, Repr

inductive ComputeProduct
  | pod
  | serverless
  deriving DecidableEq, Repr

inductive Availability
  | none
  | low
  | medium
  | high
  deriving DecidableEq, Repr

namespace Availability

/-- `_AVAILABILITY_RANK`. -/
def rank : Availability → Nat
  | .none => 0
  | .low => 1
  | .medium => 2
  | .high => 3

/-- The enumeration's value. -/
def text : Availability → String
  | .none => "NONE"
  | .low => "LOW"
  | .medium => "MEDIUM"
  | .high => "HIGH"

/-- The member with this value, if there is one. -/
def ofText (value : String) : Option Availability :=
  if value = "NONE" then some .none
  else if value = "LOW" then some .low
  else if value = "MEDIUM" then some .medium
  else if value = "HIGH" then some .high
  else Option.none

end Availability

/-! ## CUDA floors -/

/-- `[0-9]+`, as a number. -/
def digitsValue (digits : List Char) : Option Nat :=
  if digits ≠ [] ∧ digits.all Char.isDigit then
    some (digits.foldl (fun total c => 10 * total + (c.toNat - '0'.toNat)) 0)
  else none

/-- The major and minor numbers of `[0-9]+(?:\.[0-9]+)?`. -/
def cudaVersion (value : String) : Option (Nat × Nat) :=
  let (major, rest) := value.toList.span fun c => c ≠ '.'
  match rest with
  | [] => (digitsValue major).map fun n => (n, 0)
  | _ :: minor => do return (← digitsValue major, ← digitsValue minor)

/-- `normalize_cuda_floor`. -/
def normalizeCudaFloor : Option String → Except Fault (Option String)
  | none => .ok none
  | some value =>
      match cudaVersion value with
      | some (major, minor) => .ok (some (toString major ++ "." ++ toString minor))
      | none => .error (.valueError "min_cuda_version must be a CUDA major or major.minor")

/-! ## Requirements and offers -/

/-- `PlacementRequirements`, as it is passed to the constructor. -/
structure RequirementFields where
  product : ComputeProduct
  minVramGb : Int
  gpuCount : Int
  cloud : CloudType
  minCudaVersion : Option String
  maxCostPerHr : Option Number
  allowedGpuIds : List String
  allowedGpuPools : List String
  allowedDataCenterIds : List String
  minimumAvailability : Availability
  benchmarkId : Option String
  deriving DecidableEq

/-- `PlacementRequirements.__post_init__`. -/
def RequirementFields.check (r : RequirementFields) : Except Fault Unit := do
  if r.minVramGb < 1 then .error (.valueError "min_vram_gb must be at least 1")
  if r.gpuCount < 1 then .error (.valueError "gpu_count must be at least 1")
  if r.maxCostPerHr.any (fun limit => limit.le (.finite 0)) then
    .error (.valueError "max_cost_per_hr must be positive")
  let _ ← normalizeCudaFloor r.minCudaVersion

structure PlacementRequirements extends RequirementFields where
  checked : toRequirementFields.check = .ok ()
  deriving DecidableEq

/-- Construct the requirements, or fail as `__post_init__` does. -/
def PlacementRequirements.build (r : RequirementFields) : Except Fault PlacementRequirements :=
  match checked : r.check with
  | .ok () => .ok ⟨r, checked⟩
  | .error x => .error x

/-- The `id` and the `availability` of a data-center item; a value that is no text is `none`. -/
structure DataCenter where
  id : Option String
  availability : Option String
  deriving DecidableEq, Repr

structure GPUOffer where
  id : String
  name : String
  pool : Option String
  manufacturer : String
  memoryGb : Int
  secure : Bool
  community : Bool
  securePricePerHr : Number
  communityPricePerHr : Number
  secureMaxCount : Int
  communityMaxCount : Int
  availability : Option Availability
  dataCenters : List DataCenter
  availabilityMinCudaVersion : Option String
  serverlessPricePerHr : Option Number
  deriving DecidableEq

namespace GPUOffer

variable (offer : GPUOffer)

/-- `price_for`. -/
def priceFor (cloud : CloudType) : ComputeProduct → Except Fault Number
  | .serverless =>
      match offer.serverlessPricePerHr with
      | some price => .ok price
      | none => .error (.manager "GPU offer has no Serverless pool price")
  | .pod =>
      match cloud with
      | .secure => .ok offer.securePricePerHr
      | .community => .ok offer.communityPricePerHr

/-- `max_count_for`. -/
def maxCountFor : CloudType → Int
  | .secure => offer.secureMaxCount
  | .community => offer.communityMaxCount

/-- `supports_cloud`. -/
def supportsCloud : CloudType → Bool
  | .secure => offer.secure
  | .community => offer.community

/-- The rank of the offer's availability. -/
def rank : Nat := (offer.availability.getD .none).rank

/-- `bool(offer.pool)`. -/
def hasPool : Bool := offer.pool.any fun pool => pool ≠ ""

/-- The price check of `_is_compatible`. -/
def affordable (r : PlacementRequirements) : Except Fault Bool := do
  let price ← offer.priceFor r.cloud r.product
  return price.isFinite && !price.lt (.finite 0) &&
    !r.maxCostPerHr.any fun limit => limit.lt price

/-- `_is_compatible`. -/
def isCompatible (r : PlacementRequirements) : Except Fault Bool :=
  if offer.memoryGb < r.minVramGb then .ok false
  else if r.minCudaVersion ≠ none ∧ offer.availabilityMinCudaVersion ≠ r.minCudaVersion then
    .ok false
  else if ¬ offer.supportsCloud r.cloud then .ok false
  else if r.product = .pod ∧ offer.maxCountFor r.cloud < r.gpuCount then .ok false
  else if r.product = .serverless ∧
      (¬ offer.hasPool ∨ offer.serverlessPricePerHr = none) then .ok false
  else if r.allowedGpuIds ≠ [] ∧ offer.id ∉ r.allowedGpuIds then .ok false
  else if r.allowedGpuPools ≠ [] ∧ ¬ offer.pool.any (· ∈ r.allowedGpuPools) then .ok false
  else do
    if ¬ (← offer.affordable r) then return false
    if offer.rank < r.minimumAvailability.rank then return false
    return r.allowedDataCenterIds = [] ∨ offer.dataCenters.any fun item =>
      item.id.any (· ∈ r.allowedDataCenterIds) && item.availability ≠ some "NONE"

end GPUOffer

/-! ## Selection -/

/-- `PlacementDecision`. -/
structure PlacementDecision where
  gpuId : String
  gpuPool : Option String
  gpuName : String
  memoryGb : Int
  cloud : CloudType
  gpuCount : Int
  offeredCostPerHr : Number
  availability : Option Availability
  catalogObservedAt : Instant
  requirements : PlacementRequirements

/-- The sort key `(-rank, price, memory, id)` of `a` is at most that of `b`. -/
def keyLe (price : GPUOffer → Number) (a b : GPUOffer) : Bool :=
  b.rank < a.rank || a.rank = b.rank &&
    ((price a).lt (price b) || price a = price b &&
      (a.memoryGb < b.memoryGb || a.memoryGb = b.memoryGb && a.id ≤ b.id))

/-- `pool_members[offer.pool] == 1`. -/
def soleInPool (catalog : List GPUOffer) (offer : GPUOffer) : Bool :=
  (catalog.filter fun other => other.hasPool && other.pool = offer.pool).length = 1

/-- `select_gpu`. -/
def selectGpu (offers : List GPUOffer) (r : PlacementRequirements) (observedAt : Instant) :
    Except Fault PlacementDecision := do
  let compatible ← offers.filterM fun offer => offer.isCompatible r
  let candidates := compatible.filter fun offer =>
    r.product = .pod || soleInPool offers offer
  if compatible ≠ [] ∧ candidates = [] then
    .error (.manager
      "Compatible Runpod Serverless pools do not identify one exact catalog GPU")
  let price := fun offer : GPUOffer => (offer.priceFor r.cloud r.product).toOption.getD .nan
  match candidates.mergeSort (keyLe price) with
  | [] =>
      .error (.manager ("No live Runpod GPU offer satisfies the workload's VRAM, CUDA, " ++
        "availability, cloud, data-center, pool, and cost constraints"))
  | selected :: _ =>
      return {
        gpuId := selected.id
        gpuPool := selected.pool
        gpuName := selected.name
        memoryGb := selected.memoryGb
        cloud := r.cloud
        gpuCount := r.gpuCount
        offeredCostPerHr := ← selected.priceFor r.cloud r.product
        availability := selected.availability
        catalogObservedAt := observedAt
        requirements := r }

end KestrelRunpod.Catalog
