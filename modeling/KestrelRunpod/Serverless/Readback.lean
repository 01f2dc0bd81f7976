import KestrelRunpod.Serverless.Contracts

/-!
# Endpoint readback

The provider's description of an endpoint, and its exact comparison with a plan.
`EndpointResource.Matches` lists every field that is compared.
-/

namespace KestrelRunpod.Serverless

open Numeric Catalog
open Traverse (except_bind_ok)

/-! ## JSON -/

/-- A decoded JSON value. -/
inductive Json
  | null
  | bool (b : Bool)
  | int (n : Int)
  | float (x : Number)
  | str (s : String)
  | arr (items : List Json)
  | obj (fields : List (String × Json))

namespace Json

/-- `mapping.get(name)`; an absent key is `None`. -/
def get (fields : List (String × Json)) (name : String) : Json :=
  ((fields.find? fun field => field.1 = name).map Prod.snd).getD .null

/-- `set(mapping) == keys`. -/
def hasKeys (fields : List (String × Json)) (keys : List String) : Bool :=
  fields.all (fun field => field.1 ∈ keys) && keys.all fun key => fields.any fun f => f.1 = key

/-- `value is not None`. -/
def isPresent : Json → Bool
  | .null => false
  | _ => true

/-- `value == text`. -/
def isText (text : String) : Json → Bool
  | .str s => s = text
  | _ => false

/-- `value == text`, for a text that may be `None`. -/
def isOptionalText : Option String → Json → Bool
  | some text => isText text
  | none => fun value => !value.isPresent

/-- `value == n`: an equal float is equal, and so is `True` to one. -/
def isInteger (n : Int) : Json → Bool
  | .int m => m = n
  | .bool b => (if b then 1 else 0) = n
  | .float (.finite x) => x = n
  | _ => false

/-- `_string_tuple`. -/
def stringTuple (value : Json) (context : String) : Except Exn (List String) :=
  let invalid : Exn := .manager ("Invalid Runpod " ++ context)
  match value with
  | .arr items =>
      items.mapM fun item => match item with
        | .str s => if s = "" then .error invalid else .ok s
        | _ => .error invalid
  | _ => .error invalid

/-- `_integer`. -/
def integer (value : Json) (context : String) : Except Exn Int :=
  match value with
  | .int n => if n < 0 then .error (.manager ("Invalid Runpod " ++ context)) else .ok n
  | _ => .error (.manager ("Invalid Runpod " ++ context))

/-- `_decimal`. -/
def decimal (value : Json) (context : String) : Except Exn Decimal :=
  match value with
  | .int n => if n < 0 then .error (.manager ("Invalid Runpod " ++ context)) else .ok ⟨n, 0⟩
  | .float (.finite x) =>
      if x < 0 then .error (.manager ("Invalid Runpod " ++ context))
      else .ok (Decimal.ofFloat x)
  | _ => .error (.manager ("Invalid Runpod " ++ context))

/-- `_mapping`. -/
def mapping (value : Json) (context : String) : Except Exn (List (String × Json)) :=
  match value with
  | .obj fields => .ok fields
  | _ => .error (.manager ("Invalid Runpod " ++ context))

end Json

/-- `EndpointResource`. -/
structure EndpointResource where
  id : String
  name : String
  endpointType : Option String
  raw : List (String × Json)

/-! ## Validation -/

/-- One network mount of `validate_endpoint_mounts`. -/
def networkMount : Json → Except Exn String
  | .obj fields =>
      if Json.hasKeys fields ["volumeId"] then
        match Json.get fields "volumeId" with
        | .str id =>
            if id = "" then
              .error (.manager "Invalid Endpoint network mount.volumeId response")
            else .ok id
        | _ => .error (.manager "Invalid Endpoint network mount.volumeId response")
      else .error (.manager "Endpoint network mount has an invalid shape")
  | _ => .error (.manager "Endpoint network mount has an invalid shape")

/-- `validate_endpoint_mounts`. -/
def validateEndpointMounts (raw : List (String × Json)) (expected : List String) :
    Except Exn Unit :=
  match Json.get raw "mounts" with
  | .obj mounts => do
      refuse (Json.hasKeys mounts ["network", "global"] = false)
        (.manager "Endpoint mounts contain missing or unsupported kinds")
      match Json.get mounts "network", Json.get mounts "global" with
      | .arr network, .arr globalMounts =>
          refuse (globalMounts.isEmpty = false)
            (.manager "Endpoint global mounts are outside the accepted policy")
          let ids ← network.mapM networkMount
          refuse (ids ≠ expected)
            (.manager "Endpoint network mounts do not match the accepted policy")
      | _, _ => .error (.manager "Endpoint mounts must contain network and global lists")
  | _ => .error (.manager "Invalid Endpoint.mounts response")

/-- What a readback digests of an endpoint's configuration.  The type, the ports, the
environment and the arguments are fixed. -/
structure ImmutableConfig where
  name : String
  image : String
  gpuPools : List String
  gpuCount : Int
  cuda : Option (Option String)
  workersMin : Int
  workersMax : Int
  idleTimeout : Int
  scalingType : String
  queueDelay : Decimal
  disk : Int
  registry : Option String
  dataCenterIds : List String
  networkVolumes : List String
  mounts : Option (List String)
  timeout : Int
  flashboot : FlashBoot
  deriving DecidableEq

/-- The CUDA floor that the endpoint must report. -/
def EndpointSpec.expectedFloor (spec : EndpointSpec) : Except Exn (Option String) :=
  match spec.resourceSchemaVersion with
  | .ga => catalog (normalizeCudaFloor spec.constraints.minCudaVersion)
  | .legacy => .ok none

/-- `_validate_endpoint_config`. -/
def validateEndpointConfig (endpoint : EndpointResource) (spec : EndpointSpec)
    (gpuPool dataCenterId : String) : Except Exn ImmutableConfig := do
  let raw := endpoint.raw
  refuse (Json.isText "QUEUE" (Json.get raw "type") = false)
    (.manager "Configured Serverless endpoint identity or type does not match profile")
  let gpu ← (Json.get raw "gpu").mapping "endpoint.gpu"
  let workers ← (Json.get raw "workers").mapping "endpoint.workers"
  let scaling ← (Json.get raw "scaling").mapping "endpoint.scaling"
  let pools ← (Json.get gpu "pools").stringTuple "endpoint.gpu.pools"
  refuse (pools ≠ [gpuPool])
    (.manager "Serverless endpoint does not constrain execution to the quoted pool")
  let count ← (Json.get gpu "count").integer "endpoint.gpu.count"
  refuse (count ≠ spec.constraints.gpuCount)
    (.manager "Serverless endpoint GPU count does not match profile")
  let floor ← spec.expectedFloor
  refuse (gpu.any (fun f => f.1 = "minCudaVersion") = false ∨
      gpu.any (fun f => f.1 = "allowedCudaVersions") = false)
    (.manager "Serverless endpoint omitted its CUDA constraints")
  refuse (Json.isOptionalText floor (Json.get gpu "minCudaVersion") = false)
    (.manager "Serverless endpoint CUDA floor does not match profile")
  let allowed ← (Json.get gpu "allowedCudaVersions").stringTuple "endpoint.gpu.allowedCudaVersions"
  refuse (allowed ≠ []) (.manager "Serverless endpoint has an unquoted CUDA version allowlist")
  validateEndpointMounts raw spec.networkVolumeIds
  let least ← (Json.get workers "min").integer "endpoint.workers.min"
  refuse (least ≠ spec.workersMin)
    (.manager "Serverless endpoint worker policy does not match profile")
  let most ← (Json.get workers "max").integer "endpoint.workers.max"
  refuse (most ≠ spec.workersMax)
    (.manager "Serverless endpoint worker policy does not match profile")
  let idle ← (Json.get workers "idleTimeout").integer "endpoint.workers.idleTimeout"
  refuse (idle ≠ spec.idleTailSeconds)
    (.manager "Serverless endpoint worker policy does not match profile")
  refuse (Json.isText spec.scalingType (Json.get scaling "type") = false)
    (.manager "Serverless endpoint scaling policy does not match profile")
  let delay ← (Json.get scaling "queueDelay").decimal "endpoint.scaling.queueDelay"
  refuse (delay.value ≠ spec.scalingValue.value)
    (.manager "Serverless endpoint scaling policy does not match profile")
  let dataCenters ← (Json.get raw "dataCenterIds").stringTuple "endpoint.dataCenterIds"
  refuse (dataCenters ≠ [dataCenterId])
    (.manager "Serverless endpoint does not constrain execution to the quoted data center")
  let volumes ← (Json.get raw "networkVolumes").stringTuple "endpoint.networkVolumes"
  refuse (volumes ≠ spec.networkVolumeIds)
    (.manager "Serverless endpoint network volumes do not match profile")
  refuse (Json.isText spec.workerReference (Json.get raw "image") = false ∨
      Json.isInteger spec.executionTimeoutMs (Json.get raw "timeout") = false ∨
      Json.isText spec.flashboot.text (Json.get raw "flashboot") = false ∨
      Json.isInteger spec.diskGb (Json.get raw "disk") = false)
    (.manager "Serverless endpoint runtime or billing profile does not match configuration")
  let ports ← (Json.get raw "ports").stringTuple "endpoint.ports"
  refuse (ports ≠ []) (.manager "Serverless endpoint ports must be empty")
  let env ← (Json.get raw "env").mapping "endpoint.env"
  refuse (env.isEmpty = false) (.manager "Serverless endpoint environment must be empty")
  refuse ((Json.get raw "args").isPresent = true)
    (.manager "Serverless endpoint args must be empty")
  refuse (Json.isOptionalText spec.registryId (Json.get raw "registry") = false)
    (.manager "Serverless endpoint registry does not match the spec")
  let ga := decide (spec.resourceSchemaVersion = .ga)
  return {
    name := endpoint.name
    image := spec.workerReference
    gpuPools := [gpuPool]
    gpuCount := spec.constraints.gpuCount
    cuda := if ga then some floor else none
    workersMin := spec.workersMin
    workersMax := spec.workersMax
    idleTimeout := spec.idleTailSeconds
    scalingType := spec.scalingType
    queueDelay := spec.scalingValue
    disk := spec.diskGb
    registry := spec.registryId
    dataCenterIds := [dataCenterId]
    networkVolumes := spec.networkVolumeIds
    mounts := if ga then some spec.networkVolumeIds else none
    timeout := spec.executionTimeoutMs
    flashboot := spec.flashboot }

/-- What a readback digest is taken of. -/
structure ReadbackIdentity where
  endpointId : String
  endpointName : String
  immutableConfig : ImmutableConfig
  deriving DecidableEq

/-- `_validate_planned_endpoint_binding`, with the digest of a readback identity. -/
def validatePlannedEndpointBinding (readback : ReadbackIdentity → String)
    (endpoint : EndpointResource) (planned : PlannedEndpoint)
    (expectedEndpointId gpuPool dataCenterId : String) : Except Exn String := do
  refuse (endpoint.id ≠ expectedEndpointId ∨ endpoint.name ≠ planned.endpointName ∨
      endpoint.endpointType ≠ some "QUEUE")
    (.manager "Created Serverless endpoint identity or type does not match the plan")
  let normalized ← validateEndpointConfig endpoint planned.spec gpuPool dataCenterId
  return readback ⟨endpoint.id, endpoint.name, normalized⟩

/-! ## What an accepted readback shows -/

theorem Json.mapping_ok {value : Json} {context : String} {fields : List (String × Json)} :
    value.mapping context = .ok fields ↔ value = .obj fields := by
  cases value <;> simp [Json.mapping]

theorem Json.integer_ok {value : Json} {context : String} {n : Int} :
    value.integer context = .ok n ↔ value = .int n ∧ 0 ≤ n := by
  cases value with
  | int m =>
      simp only [Json.integer, Json.int.injEq]
      split
      · rename_i negative
        simp only [reduceCtorEq, false_iff, not_and]
        omega
      · rename_i nonnegative
        simp only [Except.ok.injEq]
        omega
  | _ => simp [Json.integer]

theorem mapM_cons_ok {α β ε : Type} {f : α → Except ε β} {a : α} {as : List α} {bs : List β} :
    (a :: as).mapM f = .ok bs ↔
      ∃ b rest, f a = .ok b ∧ as.mapM f = .ok rest ∧ bs = b :: rest := by
  rw [List.mapM_cons, except_bind_ok]
  constructor
  · rintro ⟨b, first, rest⟩
    rw [except_bind_ok] at rest
    obtain ⟨bs', others, is⟩ := rest
    cases is
    exact ⟨b, bs', first, others, rfl⟩
  · rintro ⟨b, rest, first, others, rfl⟩
    refine ⟨b, first, ?_⟩
    rw [except_bind_ok]
    exact ⟨rest, others, rfl⟩

/-- A list of texts, as JSON. -/
def Json.texts (values : List String) : Json := .arr (values.map .str)

theorem Json.stringTuple_ok {value : Json} {context : String} {values : List String}
    (ok : value.stringTuple context = .ok values) : value = Json.texts values := by
  unfold Json.stringTuple at ok
  split at ok
  · rename_i items
    induction items generalizing values with
    | nil =>
        cases ok
        rfl
    | cons item items ih =>
        obtain ⟨first, rest, head, tail, rfl⟩ := mapM_cons_ok.mp ok
        have others := ih tail
        cases item <;> simp only [reduceCtorEq] at head
        rename_i text
        split at head
        · cases head
        · cases head
          simp only [Json.texts, List.map_cons, Json.arr.injEq, List.cons.injEq, true_and] at others ⊢
          exact others
  · cases ok

/-- The endpoint is the planned one under the id, and every field that a plan fixes has the
plan's value. -/
structure EndpointResource.Matches (endpoint : EndpointResource) (planned : PlannedEndpoint)
    (id gpuPool dataCenterId : String) : Prop where
  id : endpoint.id = id
  name : endpoint.name = planned.endpointName
  endpointType : endpoint.endpointType = some "QUEUE"
  rawType : Json.isText "QUEUE" (Json.get endpoint.raw "type") = true
  gpu : ∃ gpu floor, Json.get endpoint.raw "gpu" = .obj gpu ∧
    Json.get gpu "pools" = Json.texts [gpuPool] ∧
    Json.get gpu "count" = .int planned.spec.constraints.gpuCount ∧
    planned.spec.expectedFloor = .ok floor ∧
    Json.isOptionalText floor (Json.get gpu "minCudaVersion") = true ∧
    Json.get gpu "allowedCudaVersions" = Json.texts []
  mounts : validateEndpointMounts endpoint.raw planned.spec.networkVolumeIds = .ok ()
  workers : ∃ workers, Json.get endpoint.raw "workers" = .obj workers ∧
    Json.get workers "min" = .int planned.spec.workersMin ∧
    Json.get workers "max" = .int planned.spec.workersMax ∧
    Json.get workers "idleTimeout" = .int planned.spec.idleTailSeconds
  scaling : ∃ scaling delay, Json.get endpoint.raw "scaling" = .obj scaling ∧
    Json.isText planned.spec.scalingType (Json.get scaling "type") = true ∧
    (Json.get scaling "queueDelay").decimal "endpoint.scaling.queueDelay" = .ok delay ∧
    delay.value = planned.spec.scalingValue.value
  dataCenters : Json.get endpoint.raw "dataCenterIds" = Json.texts [dataCenterId]
  volumes : Json.get endpoint.raw "networkVolumes" = Json.texts planned.spec.networkVolumeIds
  image : Json.isText planned.spec.workerReference (Json.get endpoint.raw "image") = true
  timeout : Json.isInteger planned.spec.executionTimeoutMs (Json.get endpoint.raw "timeout") = true
  flashboot : Json.isText planned.spec.flashboot.text (Json.get endpoint.raw "flashboot") = true
  disk : Json.isInteger planned.spec.diskGb (Json.get endpoint.raw "disk") = true
  ports : Json.get endpoint.raw "ports" = Json.texts []
  env : Json.get endpoint.raw "env" = .obj []
  args : Json.get endpoint.raw "args" = .null
  registry : Json.isOptionalText planned.spec.registryId (Json.get endpoint.raw "registry") = true

/-- A readback is accepted only of the planned endpoint, exactly as planned. -/
theorem validatePlannedEndpointBinding_ok {readback : ReadbackIdentity → String}
    {endpoint : EndpointResource} {planned : PlannedEndpoint} {id gpuPool dataCenterId : String}
    {digest : String}
    (ok : validatePlannedEndpointBinding readback endpoint planned id gpuPool dataCenterId =
      .ok digest) :
    endpoint.Matches planned id gpuPool dataCenterId := by
  unfold validatePlannedEndpointBinding at ok
  rw [refuse_bind_ok, except_bind_ok] at ok
  obtain ⟨identity, config, validated, -⟩ := ok
  simp only [ne_eq, not_or, not_not] at identity
  unfold validateEndpointConfig at validated
  simp only [↓refuse_bind_ok, except_bind_ok, Bool.not_eq_false, ne_eq, not_not, not_or,
    Json.mapping_ok, Json.integer_ok, List.isEmpty_iff, Bool.not_eq_true] at validated
  obtain ⟨rawType, gpu, hasGpu, workers, hasWorkers, scaling, hasScaling, pools, gotPools, isPools,
    count, ⟨gotCount, -⟩, isCount, floor, gotFloor, -, isFloor, allowed, gotAllowed, isAllowed,
    ⟨⟩, mounts, least, ⟨gotLeast, -⟩, isLeast, most, ⟨gotMost, -⟩, isMost, idle, ⟨gotIdle, -⟩,
    isIdle, scalingType, delay, gotDelay, isDelay, centers, gotCenters, isCenters, volumes,
    gotVolumes, isVolumes, ⟨image, timeout, flashboot, disk⟩, ports, gotPorts, isPorts, env,
    gotEnv, isEnv, args, registry, -⟩ := validated
  subst isPools isCount isAllowed isLeast isMost isIdle isCenters isVolumes isPorts isEnv
  exact {
    id := identity.1
    name := identity.2.1
    endpointType := identity.2.2
    rawType := rawType
    gpu := ⟨gpu, floor, hasGpu, Json.stringTuple_ok gotPools, gotCount, gotFloor, isFloor,
      Json.stringTuple_ok gotAllowed⟩
    mounts := mounts
    workers := ⟨workers, hasWorkers, gotLeast, gotMost, gotIdle⟩
    scaling := ⟨scaling, delay, hasScaling, scalingType, gotDelay, isDelay⟩
    dataCenters := Json.stringTuple_ok gotCenters
    volumes := Json.stringTuple_ok gotVolumes
    image := image
    timeout := timeout
    flashboot := flashboot
    disk := disk
    ports := Json.stringTuple_ok gotPorts
    env := gotEnv
    args := by
      cases is : Json.get endpoint.raw "args" <;> simp_all [Json.isPresent]
    registry := registry }

end KestrelRunpod.Serverless
