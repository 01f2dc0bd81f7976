import KestrelRunpod.Supervisor.Inventory

/-!
# The policy of the runtime proxy

Which requests the proxy answers itself, which it forwards, and what it forwards of them.
-/

namespace KestrelRunpod.Supervisor

/-- A reading of the clock, in nanoseconds. -/
abbrev Time : Type := Int

abbrev Bytes : Type := List UInt8

/-- Header fields in order, under their canonical names. -/
abbrev Header : Type := List (String × String)

/-- `header.Get`. -/
def Header.get (header : Header) (name : String) : String :=
  ((header.find? fun field => field.1 = name).map Prod.snd).getD ""

/-- `header.Del`. -/
def Header.del (header : Header) (name : String) : Header :=
  header.filter fun field => field.1 ≠ name

/-- What reading the body behind `http.MaxBytesReader` comes to. -/
inductive Body
  | read (bytes : Bytes)
  | tooLarge
  | unreadable
  deriving DecidableEq, Repr

/-- What the proxy reads of an `http.Request`; the path is decoded. -/
structure HttpRequest where
  method : String
  path : String
  header : Header
  body : Body
  deriving DecidableEq, Repr

/-- The fields of `runtimeConfig` that the running process reads. -/
structure RuntimeConfig where
  bearerToken : String
  bearerTokenExpires : Time
  requiredModel : ModelPin
  allowedModels : List ModelPin
  preloadModel : Bool
  provisionRequested : Option Time
  containerStartedAt : Time

/-! ## Routes -/

def isHealthPath (path : String) : Bool :=
  path = "/ping" || path = "/health/live" || path = "/health/ready"

/-- `strings.HasPrefix`. -/
def hasPrefix (path start : String) : Bool := start.toList.isPrefixOf path.toList

def isForbiddenManagementPath (path : String) : Bool :=
  path = "/api/create" || path = "/api/copy" || path = "/api/delete" || path = "/api/pull" ||
    path = "/api/push" || hasPrefix path "/api/blobs"

def readOnlyRoutes : List String := ["/", "/api/tags", "/api/ps", "/api/version", "/v1/models"]

def postRoutes : List String :=
  ["/api/generate", "/api/chat", "/api/embed", "/api/embeddings", "/api/show",
    "/v1/chat/completions", "/v1/completions", "/v1/embeddings"]

/-- `method == http.MethodGet || method == http.MethodHead`. -/
def reading (method : String) : Bool := method = "GET" || method = "HEAD"

def allowedRoute (path method : String) : Bool :=
  if path ∈ readOnlyRoutes then reading method
  else if hasPrefix path "/v1/models/" then reading method
  else path ∈ postRoutes && method = "POST"

def requiresModelPolicy (path method : String) : Bool :=
  if method ≠ "POST" then false else path ≠ "/api/ps" && path ≠ "/api/version"

/-! ## The bearer -/

/-- `authorized`, once the clock is read. -/
def authorized (config : RuntimeConfig) (request : HttpRequest) (now : Time) : Bool :=
  if config.bearerTokenExpires ≤ now then false
  else
    let provided := request.header.get "Authorization"
    if hasPrefix provided "Bearer " then
      provided.toList.drop "Bearer ".length = config.bearerToken.toList
    else false

/-! ## Model identifiers -/

/-- A member of a JSON object, as far as a field of type string tells it apart. -/
inductive Member
  | null
  | string (value : String)
  | other
  deriving DecidableEq, Repr

/-- A JSON document, as far as a struct of two strings tells it apart. -/
inductive Document
  | null
  | object (members : List (String × Member))
  | other
  deriving DecidableEq, Repr

/-- The fields that `inspectModelRequest` decodes, and whether a member had another type. -/
structure Identifiers where
  model : String
  name : String
  mistyped : Bool
  deriving DecidableEq, Repr

/-- The key of a field, whatever its case; no letter outside ASCII folds to one of these. -/
def matchesField (key field : String) : Bool := key.toList.map Char.toLower = field.toList

/-- One member, in order; `null` leaves a field alone. -/
def Identifiers.assign (ids : Identifiers) (key : String) (value : Member) : Identifiers :=
  if matchesField key "model" then
    match value with
    | .null => ids
    | .string model => { ids with model := model }
    | .other => { ids with mistyped := true }
  else if matchesField key "name" then
    match value with
    | .null => ids
    | .string name => { ids with name := name }
    | .other => { ids with mistyped := true }
  else ids

/-- `json.Unmarshal` into the struct, of a document that parses. -/
def unmarshal : Option Document → Option Identifiers
  | some .null => some ⟨"", "", false⟩
  | some (.object members) =>
      let ids := members.foldl (fun ids member => ids.assign member.1 member.2) ⟨"", "", false⟩
      if ids.mistyped then none else some ids
  | _ => none

section

variable (parse : Bytes → Option Document)

/-- `inspectModelRequest`: the model, or a status and a message. -/
def inspectModelRequest : Body → Except (Int × String) String
  | .tooLarge => .error (413, "request exceeds the 30 MiB limit")
  | .unreadable => .error (400, "request body cannot be read")
  | .read bytes =>
      match unmarshal (parse bytes) with
      | none =>
          .error (400, "request body must be a JSON object with string model identifiers")
      | some ids =>
          if ids.model ≠ "" ∧ ids.name ≠ "" ∧ ids.model ≠ ids.name then
            .error (400, "model and name identifiers must match")
          else
            let model := if ids.model = "" then ids.name else ids.model
            if model = "" then .error (400, "model identifier is required") else .ok model

end

/-- `Rewrite`, on the header that the reverse proxy has prepared. -/
def rewrite (header : Header) : Header :=
  ((header.del "Authorization").del "Proxy-Authorization").del "X-Kestrel-Ollama-Authorization"

end KestrelRunpod.Supervisor
