import KestrelRunpod.Catalog
import KestrelRunpod.Numeric.Decimal
import KestrelRunpod.Numeric.Traverse

/-!
# CPU catalog

The CPU flavors of one catalog query, and the match of a Pod request with one of them.  A price or
a stock that the catalog leaves out is unknown, and an unknown fact refuses the match.
-/

namespace KestrelRunpod.Cpu

open Numeric
open Traverse (check_bind_ok)
open Catalog (Availability CloudType ComputeProduct)

/-- An exception of the CPU planning code. -/
inductive Fault
  | valueError (message : String)
  | typeError
  | validation (model : String)
  | manager (message : String)
  | unsupported (message : String)
  | decimalSignal
  | other (className : String)
  deriving DecidableEq, Repr

/-- Raise unless the condition holds. -/
def require (good : Prop) [Decidable good] (x : Fault) : Except Fault Unit :=
  if good then .ok () else .error x

section

variable {α β : Type} {good : Prop} [Decidable good] {x : Fault}

@[simp] theorem require_ok : require good x = .ok () ↔ good := by
  unfold require
  split <;> simp_all

theorem require_bind_ok {k : Unit → Except Fault β} {b : β} :
    (require good x >>= k) = .ok b ↔ good ∧ k () = .ok b := by
  rw [check_bind_ok, require_ok]

end

/-- `count >= 2 and not count & (count - 1)`. -/
def powerOfTwo (count : Int) : Bool :=
  2 ≤ count && (count.toNat &&& (count.toNat - 1)) == 0

/-! ## Pod requests -/

/-- `CpuPodCreateRequest`, without the fields that planning leaves at their defaults: no ports,
environment, arguments, registry or mounts, and no global networking. -/
structure CpuPodCreateRequest where
  name : String
  image : String
  cloud : CloudType
  cpuId : String
  vcpuCount : Int
  dataCenterIds : List String
  diskGb : Int
  deriving DecidableEq

/-- `__post_init__`, which `to_payload` runs again. -/
def CpuPodCreateRequest.check (request : CpuPodCreateRequest) : Except Fault Unit := do
  require (request.name ≠ "" ∧ request.image ≠ "") (.valueError "Pod name and image are required")
  require (1 ≤ request.diskGb) (.valueError "Pod disk_gb must be a positive integer")
  require (request.cpuId ≠ "") (.valueError "Pod cpu_id is required")
  require (powerOfTwo request.vcpuCount = true)
    (.valueError "Pod vcpu_count must be a power of two of at least 2")

/-! ## The catalog -/

structure CpuDataCenter where
  id : String
  availability : Option Availability

/-- `CpuOffer`, without the names and the prices that no match reads. -/
structure CpuOffer where
  id : String
  minVcpu : Int
  maxVcpu : Int
  ramGbPerVcpu : Decimal
  securePricePerVcpu : Option Decimal
  availability : Option Availability
  dataCenters : List CpuDataCenter

/-- `CpuCatalogSnapshot`; an observation that is not aware is `none`. -/
structure CpuCatalogSnapshot where
  product : ComputeProduct
  vcpuCount : Int
  observedAt : Option Instant
  offers : List CpuOffer

/-- `CpuPodCatalogMatch`. -/
structure CpuPodCatalogMatch where
  cpuId : String
  vcpuCount : Int
  dataCenterIds : List String
  ramGb : Decimal
  computeCostPerHr : Decimal
  observedAt : Instant
  deriving DecidableEq

/-- `_scale`: the context has the digits of the number and of the count, so nothing is lost. -/
def scale (number : Decimal) (count : Int) : Decimal :=
  ⟨number.coefficient * count, number.exponent⟩

/-- `availability` is known and at least `LOW`, the lowest availability that matches by default. -/
def sufficient (availability : Option Availability) : Bool :=
  availability.any fun a => Availability.low.rank ≤ a.rank

/-- `{item.id: item.availability for item in data_centers}.get(id)`. -/
def CpuOffer.center (offer : CpuOffer) (id : String) : Option Availability :=
  (offer.dataCenters.reverse.find? fun center => center.id = id).bind CpuDataCenter.availability

/-- `match_pod`, at an aware `now` and with the default minimum availability. -/
def CpuCatalogSnapshot.matchPod (snapshot : CpuCatalogSnapshot) (request : CpuPodCreateRequest)
    (now : Instant) (maxAge : Int) : Except Fault CpuPodCatalogMatch := do
  request.check
  require (0 < maxAge)
    (.valueError "CPU catalog matching requires aware time and positive max_age")
  match snapshot.observedAt with
  | none => .error .typeError
  | some observedAt => do
      require (0 ≤ now - observedAt ∧ now - observedAt ≤ maxAge)
        (.manager "CPU catalog snapshot is stale or from the future")
      require (snapshot.product = .pod ∧ snapshot.vcpuCount = request.vcpuCount)
        (.manager "CPU catalog availability query does not match Pod request")
      require (request.cloud = .secure) (.manager "CPU catalog provides no community Pod rate")
      match snapshot.offers.find? fun offer => offer.id = request.cpuId with
      | none => .error (.manager "CPU flavor or count is not offered")
      | some offer => do
          require (offer.minVcpu ≤ request.vcpuCount ∧ request.vcpuCount ≤ offer.maxVcpu)
            (.manager "CPU flavor or count is not offered")
          require (sufficient offer.availability = true)
            (.manager "CPU availability is unknown or insufficient")
          require (request.dataCenterIds ≠ [] ∧
              request.dataCenterIds.all (fun id => sufficient (offer.center id)) = true)
            (.manager "Every requested CPU datacenter must have sufficient known stock")
          match offer.securePricePerVcpu with
          | none => .error (.manager "CPU Pod rate is unknown")
          | some rate =>
              .ok ⟨offer.id, request.vcpuCount, request.dataCenterIds,
                scale offer.ramGbPerVcpu request.vcpuCount, scale rate request.vcpuCount,
                observedAt⟩

end KestrelRunpod.Cpu
