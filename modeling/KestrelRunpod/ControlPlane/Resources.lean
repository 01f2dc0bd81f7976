import KestrelRunpod.Serverless.Readback

/-!
# Control plane resources

The typed resources that the control plane client reads from a provider's JSON objects.  Every
copy of an object that a resource keeps has the echoed credentials removed.
-/

namespace KestrelRunpod.ControlPlane

open Numeric
open Serverless (Json Exn)

/-- A JSON object. -/
abbrev Fields := List (String × Json)

/-! ## Field readers -/

/-- `bool(value)`. -/
def truthy : Json → Bool
  | .null => false
  | .bool b => b
  | .int n => n != 0
  | .float x => x != .finite 0
  | .str s => s != ""
  | .arr items => !items.isEmpty
  | .obj fields => !fields.isEmpty

/-- `value.get(name) or {}`, when it is a mapping. -/
def optionalMapping (value : Json) (message : String) : Except Exn Fields :=
  if truthy value then
    match value with
    | .obj fields => .ok fields
    | _ => .error (.manager message)
  else .ok []

/-- `_string`. -/
def string (value : Fields) (key context : String) : Except Exn String :=
  match Json.get value key with
  | .str item =>
      if item = "" then .error (.manager ("Invalid " ++ context ++ "." ++ key ++ " response"))
      else .ok item
  | _ => .error (.manager ("Invalid " ++ context ++ "." ++ key ++ " response"))

/-- `_optional_string`. -/
def optionalString (value : Json) (context : String) : Except Exn (Option String) :=
  match value with
  | .null => .ok none
  | .str item => .ok (some item)
  | _ => .error (.manager ("Invalid " ++ context ++ " response"))

/-- `_integer`. -/
def integer (value : Fields) (key context : String) : Except Exn Int :=
  match Json.get value key with
  | .int item => .ok item
  | _ => .error (.manager ("Invalid " ++ context ++ "." ++ key ++ " response"))

/-- `_optional_integer`. -/
def optionalInteger (value : Json) (context : String) : Except Exn (Option Int) :=
  match value with
  | .null => .ok none
  | .int item => .ok (some item)
  | _ => .error (.manager ("Invalid " ++ context ++ " response"))

/-- `_optional_number`; the conversion of an `int` beyond the floats raises `OverflowError`. -/
def optionalNumber (value : Json) (context : String) : Except Exn (Option Number) :=
  match value with
  | .null => .ok none
  | .int n =>
      if (binary64 n).isFinite then .ok (some (binary64 n)) else .error (.other "OverflowError")
  | .float x => .ok (some x)
  | _ => .error (.manager ("Invalid " ++ context ++ " response"))

/-! ## Sanitizing -/

/-- `re.sub(r"[^a-z0-9]", "", key.lower())`.  Two letters outside ASCII have a lower case that
starts with an ASCII letter: the dotted capital I and the Kelvin sign. -/
def normalized (key : String) : String :=
  String.ofList (key.toList.filterMap fun c =>
    if c.isUpper then some c.toLower
    else if c.isLower || c.isDigit then some c
    else if c.toNat = 0x130 then some 'i'
    else if c.toNat = 0x212A then some 'k'
    else none)

/-- `needle in text`. -/
def occursIn (needle text : String) : Bool :=
  text.toList.tails.any fun rest => needle.toList.isPrefixOf rest

/-- The keys whose values are credentials. -/
def isCredential (key : String) : Bool :=
  ["apikey", "authorization", "password", "secret", "token"].any fun marker =>
    occursIn marker (normalized key)

def redacted : Json := .str "[REDACTED]"

mutual

/-- `_sanitize_resource_value`. -/
def sanitizeResourceValue (key : String) : Json → Json
  | .obj fields =>
      if normalized key = "env" then .obj (fields.map fun field => (field.1, redacted))
      else if isCredential key then redacted
      else .obj (sanitizeResourcePayload fields)
  | .arr items => if isCredential key then redacted else .arr (sanitizeItems key items)
  | .null => if isCredential key then redacted else .null
  | .bool b => if isCredential key then redacted else .bool b
  | .int n => if isCredential key then redacted else .int n
  | .float x => if isCredential key then redacted else .float x
  | .str s => if isCredential key then redacted else .str s

/-- `sanitize_resource_payload`. -/
def sanitizeResourcePayload : List (String × Json) → List (String × Json)
  | [] => []
  | field :: fields => sanitizeField field :: sanitizeResourcePayload fields

def sanitizeField : String × Json → String × Json
  | (key, item) => (key, sanitizeResourceValue key item)

def sanitizeItems (key : String) : List Json → List Json
  | [] => []
  | item :: items => sanitizeResourceValue key item :: sanitizeItems key items

end

theorem sanitizeResourcePayload_eq (fields : Fields) :
    sanitizeResourcePayload fields =
      fields.map fun field => (field.1, sanitizeResourceValue field.1 field.2) := by
  induction fields with
  | nil => simp only [sanitizeResourcePayload, List.map_nil]
  | cons field fields ih =>
      obtain ⟨key, item⟩ := field
      simp only [sanitizeResourcePayload, sanitizeField, List.map_cons, ih]

/-- A field is read after sanitizing as its own sanitized value. -/
theorem get_sanitizeResourcePayload (fields : Fields) (name : String) :
    Json.get (sanitizeResourcePayload fields) name =
      if fields.any (fun field => field.1 = name) then
        sanitizeResourceValue name (Json.get fields name)
      else .null := by
  rw [sanitizeResourcePayload_eq]
  induction fields with
  | nil => rfl
  | cons field fields ih =>
      unfold Json.get at ih ⊢
      by_cases is : field.1 = name
      · simp [is]
      · have skipped : decide (field.1 = name) = false := decide_eq_false is
        rw [List.map_cons, List.find?_cons_of_neg (by simpa using is),
          List.find?_cons_of_neg (by simpa using is), List.any_cons, skipped, Bool.false_or]
        exact ih

/-- The identity of a resource is not a credential. -/
theorem get_sanitize_id (fields : Fields) (id : String) (is : Json.get fields "id" = .str id) :
    Json.get (sanitizeResourcePayload fields) "id" = .str id := by
  have present : fields.any (fun field => field.1 = "id") = true := by
    unfold Json.get at is
    cases found : fields.find? fun field => field.1 = "id" with
    | none =>
        rw [found] at is
        cases is
    | some field =>
        have named := List.find?_some found
        exact List.any_eq_true.mpr ⟨field, List.mem_of_find?_eq_some found, named⟩
  have kept : isCredential "id" = false := by decide
  rw [get_sanitizeResourcePayload, if_pos present, is]
  unfold sanitizeResourceValue
  rw [kept]
  rfl

/-! ## Resources -/

/-- `PodResource`. -/
structure PodResource where
  id : String
  name : String
  status : String
  gpuId : Option String
  gpuCount : Int
  costPerHr : Option Number
  raw : Fields

/-- `math.isfinite(cost) and not cost < 0`. -/
def validCost (cost : Number) : Bool := cost.isFinite && !cost.lt (.finite 0)

/-- `PodResource.from_dict`. -/
def PodResource.fromDict (value : Fields) : Except Exn PodResource := do
  let gpu ← optionalMapping (Json.get value "gpu") "Invalid v2 Pod.gpu response"
  let cost ← match optionalNumber (Json.get value "cost") "Pod.cost" with
    | .error (.other "OverflowError") => .error (.manager "Invalid Pod.cost response")
    | outcome => outcome
  Serverless.refuse (cost.any (fun c => !validCost c) = true)
    (.manager "Invalid Pod.cost response")
  let id ← string value "id" "Pod"
  let name ← string value "name" "Pod"
  let status ← string value "status" "Pod"
  let gpuId ← optionalString (Json.get gpu "id") "Pod.gpu.id"
  let gpuCount ← optionalInteger (Json.get gpu "count") "Pod.gpu.count"
  .ok ⟨id, name, status, gpuId, gpuCount.getD 0, cost, sanitizeResourcePayload value⟩

/-- `EndpointResource`. -/
structure EndpointResource where
  id : String
  name : String
  endpointType : Option String
  requestUrls : List (String × String)
  raw : Fields

/-- An item of `requestUrls`. -/
def requestUrl : String × Json → Except Exn (String × String)
  | (key, .str item) => .ok (key, item)
  | _ => .error (.manager "Invalid v2 Endpoint.requestUrls response")

/-- `EndpointResource.from_dict`. -/
def EndpointResource.fromDict (value : Fields) : Except Exn EndpointResource := do
  let urls ← optionalMapping (Json.get value "requestUrls")
    "Invalid v2 Endpoint.requestUrls response"
  let urls ← urls.mapM requestUrl
  let id ← string value "id" "Endpoint"
  let name ← string value "name" "Endpoint"
  let endpointType ← optionalString (Json.get value "type") "Endpoint.type"
  .ok ⟨id, name, endpointType, urls, sanitizeResourcePayload value⟩

/-- `VolumeType`. -/
inductive VolumeType
  | standard
  | highPerformance
  deriving DecidableEq, Repr

/-- `VolumeType(raw_type)`. -/
def VolumeType.ofText : String → Option VolumeType
  | "STANDARD" => some .standard
  | "HIGH_PERFORMANCE" => some .highPerformance
  | _ => none

/-- `NetworkVolume`. -/
structure NetworkVolume where
  id : String
  name : String
  sizeGb : Int
  dataCenter : String
  volumeType : VolumeType

/-- `NetworkVolume.from_dict`. -/
def NetworkVolume.fromDict (value : Fields) : Except Exn NetworkVolume := do
  let rawType ← string value "type" "Network volume"
  match VolumeType.ofText rawType with
  | none => .error (.manager ("Invalid network volume type: " ++ rawType))
  | some volumeType =>
      let sizeGb ← integer value "size" "Network volume"
      Serverless.refuse (¬ (10 ≤ sizeGb ∧ sizeGb ≤ 4096)) (.manager "Invalid network volume size")
      let id ← string value "id" "Network volume"
      let name ← string value "name" "Network volume"
      let dataCenter ← string value "dataCenter" "Network volume"
      .ok ⟨id, name, sizeGb, dataCenter, volumeType⟩

end KestrelRunpod.ControlPlane
