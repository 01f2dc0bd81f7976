import KestrelRunpod.ControlPlane.Inventory

/-!
# Requests that buy

`create_pod`, `create_endpoint` and the serverless `run` send one POST each, which the transport
never repeats.  The provider may have accepted a request whose connection failed, that it answered
with a server error, or whose success it described in a body that is not the resource.

`create_pod` reports the last of these as ambiguous like the others.  The other two methods read
the body outside of any handler, so there an empty body or an object that is no resource is a
definite failure (`Reply.Misread`), and an activation takes it for one.
-/

namespace KestrelRunpod.ControlPlane

open Serverless (Json Exn refuse refuse_error CreateRequest CreatePayload)
open Traverse

/-! ## The transport -/

/-- What `_request` is told besides the request. -/
structure Policy where
  safeToRetry : Bool
  expectedStatuses : List ℕ
  ambiguousOnFailure : Bool

namespace Policy

/-- A GET of a listing. -/
def get : Policy := ⟨true, [200], false⟩

/-- A POST whose failure leaves its outcome open. -/
def post (expectedStatus : ℕ) : Policy := ⟨false, [expectedStatus], true⟩

/-- `error_type`. -/
def error (p : Policy) (statusCode : Option ℕ) : Exn :=
  if p.ambiguousOnFailure then .ambiguous statusCode else .api statusCode

/-- A request that is answered so is sent again while retries remain. -/
def retries (p : Policy) : Reply → Bool
  | .failed _ => p.safeToRetry
  | .response statusCode _ =>
      p.safeToRetry && statusCode ∉ p.expectedStatuses && statusCode ∈ retryableStatuses

/-- How a request ends whose last attempt is answered so. -/
def outcome (p : Policy) : Reply → Except Exn (ℕ × Content)
  | .failed _ => .error (p.error none)
  | .response statusCode content =>
      if statusCode ∈ p.expectedStatuses then .ok (statusCode, content)
      else if p.ambiguousOnFailure = true ∧
          (200 ≤ statusCode ∧ statusCode < 300 ∨ 500 ≤ statusCode) then
        .error (.ambiguous (some statusCode))
      else .error (.api (some statusCode))

/-- The loop of `_request`, with some retries left; `entry` is what is noted of an attempt. -/
def exchange {α : Type} (p : Policy) (send : List α → Reply) (entry : ℕ → α) (attempt : ℕ) :
    ℕ → List α → List α × Except Exn (ℕ × Content)
  | 0, log => (entry attempt :: log, p.outcome (send (entry attempt :: log)))
  | left + 1, log =>
      let sent := entry attempt :: log
      if p.retries (send sent) then exchange p send entry (attempt + 1) left sent
      else (sent, p.outcome (send sent))

/-- What `request_json` makes of a response. -/
def decode (p : Policy) : ℕ × Content → Except Exn (Option Fields)
  | (statusCode, content) =>
      if statusCode = 204 then .ok none
      else
        match content with
        | .empty => .ok none
        | .json (.obj fields) => .ok (some fields)
        | .undecodable | .json _ => .error (p.error (some statusCode))

end Policy

/-- The loop of a listing is the one of a GET. -/
theorem exchange_get (t : Transport) (request : Request) (attempt left : ℕ)
    (log : List Attempt) :
    Policy.get.exchange t.send (⟨request, ·⟩) attempt left log =
      ((t.attempts request attempt left log).1,
        (t.attempts request attempt left log).2.map (200, ·)) := by
  have outcome : ∀ reply, Policy.get.outcome reply = reply.outcome.map (200, ·) := by
    intro reply
    cases reply with
    | failed className => rfl
    | response statusCode content =>
        unfold Policy.outcome Reply.outcome Policy.get
        by_cases is : statusCode = 200 <;> simp [is, Except.map]
  have retries : ∀ reply, Policy.get.retries reply = reply.retried := by
    intro reply
    cases reply with
    | failed className => rfl
    | response statusCode content =>
        unfold Policy.retries Reply.retried Policy.get
        by_cases is : statusCode = 200 <;> simp [is]
  induction left generalizing attempt log with
  | zero =>
      unfold Policy.exchange Transport.attempts
      rw [outcome]
  | succ left ih =>
      unfold Policy.exchange Transport.attempts
      dsimp only
      rw [retries, outcome]
      split
      · exact ih (attempt + 1) _
      · rfl

/-- A request that must not be repeated is dispatched once. -/
theorem exchange_once {α : Type} {p : Policy} (unsafe_ : p.safeToRetry = false)
    (send : List α → Reply) (entry : ℕ → α) (attempt left : ℕ) (log : List α) :
    p.exchange send entry attempt left log =
      (entry attempt :: log, p.outcome (send (entry attempt :: log))) := by
  cases left with
  | zero => rfl
  | succ left =>
      unfold Policy.exchange
      dsimp only
      rw [if_neg]
      cases send (entry attempt :: log) <;> simp [Policy.retries, unsafe_]

/-! ## The requests -/

/-- A POST that the provider was sent. -/
inductive Dispatch
  | pod (body : Fields)
  | endpoint (body : CreatePayload)
  | job (endpointId : String) (body : Fields)

/-- `RunpodTransport` for the requests that buy.  `exhausts` says of a payload that copying it
takes more than the recursion limit of the interpreter. -/
structure Client where
  maxSafeRetries : ℕ
  exhausts : Fields → Bool
  send : List Dispatch → Reply

namespace Client

variable (c : Client)

/-- `request_json("POST", path, json_body=body, expected_statuses=(expected,),
ambiguous_on_failure=True)`. -/
def requestJson (expected : ℕ) (dispatch : Dispatch) (log : List Dispatch) :
    List Dispatch × Except Exn (Option Fields) :=
  let (log, outcome) := (Policy.post expected).exchange c.send (fun _ => dispatch) 0
    c.maxSafeRetries log
  (log, outcome >>= (Policy.post expected).decode)

/-- The copy that a resource keeps of its payload. -/
def copy (value : Fields) : Except Exn Unit :=
  refuse (c.exhausts value = true) (.other "RecursionError")

/-- `PodResource.from_dict`. -/
def podResource (value : Fields) : Except Exn PodResource := do
  let pod ← PodResource.fromDict value
  c.copy value
  .ok pod

/-- `EndpointResource.from_dict`. -/
def endpointResource (value : Fields) : Except Exn EndpointResource := do
  let endpoint ← EndpointResource.fromDict value
  c.copy value
  .ok endpoint

/-- The handler of `create_pod` around the typed resource. -/
def unverified : Except Exn PodResource → Except Exn PodResource
  | .ok pod => .ok pod
  | .error x =>
      if x.isManager = true ∨ x = .other "RecursionError" then .error (.ambiguous (some 201))
      else .error x

/-- `create_pod`, for the outcome of `request.to_payload()`. -/
def createPod (payload : Except Exn Fields) (log : List Dispatch) :
    List Dispatch × Except Exn PodResource :=
  match payload with
  | .error x => (log, .error x)
  | .ok body =>
      let (log, answer) := c.requestJson 201 (.pod body) log
      (log, do
        let payload ← answer
        unverified (requiredPayload payload >>= c.podResource))

/-- `create_endpoint`. -/
def createEndpoint (request : CreateRequest) (log : List Dispatch) :
    List Dispatch × Except Exn EndpointResource :=
  if request.resourceSchemaVersion ≠ .ga then
    (log, .error (.manager "Legacy endpoint authority must upgrade before new spend"))
  else
    match request.toPayload with
    | .error x => (log, .error x)
    | .ok body =>
        let (log, answer) := c.requestJson 201 (.endpoint body) log
        (log, do
          let payload ← answer
          let value ← requiredPayload payload
          c.endpointResource value)

end Client

/-- `ServerlessJob`. -/
structure ServerlessJob where
  id : String
  status : String
  output : Json
  error : Option String
  delayTimeMs : Option Int
  executionTimeMs : Option Int
  raw : Fields

/-- `ServerlessJob.from_dict`. -/
def ServerlessJob.fromDict (value : Fields) : Except Exn ServerlessJob := do
  let id ← string value "id" "Serverless job"
  let status ← string value "status" "Serverless job"
  let error ← optionalString (Json.get value "error") "Serverless job.error"
  let delayTimeMs ← optionalInteger (Json.get value "delayTime") "Serverless job.delayTime"
  let executionTimeMs ← optionalInteger (Json.get value "executionTime")
    "Serverless job.executionTime"
  .ok ⟨id, status, Json.get value "output", error, delayTimeMs, executionTimeMs, value⟩

/-- The arguments of `run`. -/
structure RunRequest where
  endpointId : String
  inputData : Fields
  webhookUrl : Option String
  executionTimeoutMs : Option Int
  ttlMs : Option Int

namespace RunRequest

/-- The `policy` of a job. -/
def policy (request : RunRequest) : Fields :=
  (request.executionTimeoutMs.map fun ms => ("executionTimeout", Json.int ms)).toList ++
    (request.ttlMs.map fun ms => ("ttl", Json.int ms)).toList

/-- The body of a `run`. -/
def body (request : RunRequest) : Fields :=
  [("input", .obj request.inputData)] ++
    (request.webhookUrl.filter (· ≠ "")).toList.map (fun url => ("webhook", .str url)) ++
    (if request.policy = [] then [] else [("policy", .obj request.policy)])

end RunRequest

/-- `run`. -/
def Client.run (c : Client) (request : RunRequest) (log : List Dispatch) :
    List Dispatch × Except Exn ServerlessJob :=
  if request.endpointId = "" then
    (log, .error (.valueError "Runpod resource identifier cannot be empty"))
  else
    let (log, answer) := c.requestJson 200 (.job request.endpointId request.body) log
    (log, do
      let payload ← answer
      let value ← requiredPayload payload
      ServerlessJob.fromDict value)

/-! ## What a reply leaves open -/

/-- The body is the resource. -/
def Content.Describes {β : Type} (decode : Fields → Except Exn β) (content : Content) : Prop :=
  ∃ fields value, content = .json (.obj fields) ∧ decode fields = .ok value

/-- The provider may have accepted the request, or it did, and its resource is not known. -/
def Reply.MayHaveAccepted {β : Type} (decode : Fields → Except Exn β) : Reply → Prop
  | .failed _ => True
  | .response statusCode content =>
      500 ≤ statusCode ∨ (200 ≤ statusCode ∧ statusCode < 300) ∧ ¬ content.Describes decode

/-- The expected success without a body, or with an object that is no resource. -/
def Reply.Misread {β : Type} (expected : ℕ) (decode : Fields → Except Exn β) : Reply → Prop
  | .failed _ => False
  | .response statusCode content =>
      statusCode = expected ∧ (content = .empty ∨
        ∃ fields x, content = .json (.obj fields) ∧ decode fields = .error x)

/-- What a method has done is dispatch its request once at most, and report an ambiguous result
wherever the provider may have accepted it. -/
structure Client.Classified {β : Type} (c : Client) (decode : Fields → Except Exn β)
    (log : List Dispatch) (done : List Dispatch × Except Exn β) : Prop where
  once : done.1 = log ∨ ∃ dispatch, done.1 = dispatch :: log
  ambiguous : done.1 ≠ log → (c.send done.1).MayHaveAccepted decode →
    ∃ statusCode, done.2 = .error (.ambiguous statusCode)

section

variable {c : Client} {log : List Dispatch} {expected : ℕ} {dispatch : Dispatch}

theorem requestJson_eq :
    c.requestJson expected dispatch log = (dispatch :: log,
      (Policy.post expected).outcome (c.send (dispatch :: log)) >>=
        (Policy.post expected).decode) := by
  unfold Client.requestJson
  rw [exchange_once rfl]

theorem requestJson_sent (expected : ℕ) (dispatch : Dispatch) :
    (c.requestJson expected dispatch log).1 = dispatch :: log := by rw [requestJson_eq]

/-- What the success of a POST is, and that every other reply which may have been an acceptance is
reported as ambiguous. -/
theorem post_outcome {β : Type} {decode : Fields → Except Exn β} (expected : ℕ) (reply : Reply)
    (open_ : reply.MayHaveAccepted decode) :
    (∃ statusCode, (Policy.post expected).outcome reply = .error (.ambiguous statusCode)) ∨
      ∃ content, reply = .response expected content ∧
        (Policy.post expected).outcome reply = .ok (expected, content) := by
  cases reply with
  | failed className => exact .inl ⟨none, rfl⟩
  | response statusCode content =>
      by_cases is : statusCode = expected
      · subst is
        exact .inr ⟨content, rfl, by simp [Policy.outcome, Policy.post]⟩
      · have range : 200 ≤ statusCode ∧ statusCode < 300 ∨ 500 ≤ statusCode := by
          rcases open_ with server | ⟨success, -⟩
          · exact .inr server
          · exact .inl success
        exact .inl ⟨some statusCode, by simp [Policy.outcome, Policy.post, is, range]⟩

/-- The three ways on from a success: nothing, an object, and what is neither. -/
theorem post_decode (content : Content) (some_ : expected ≠ 204) :
    (content = .empty ∧ (Policy.post expected).decode (expected, content) = .ok none) ∨
      (∃ fields, content = .json (.obj fields) ∧
        (Policy.post expected).decode (expected, content) = .ok (some fields)) ∨
      (Policy.post expected).decode (expected, content) =
        .error (.ambiguous (some expected)) := by
  unfold Policy.decode
  simp only [if_neg some_]
  cases content with
  | empty => exact .inl ⟨rfl, rfl⟩
  | undecodable => exact .inr (.inr rfl)
  | json value =>
      cases value with
      | obj fields => exact .inr (.inl ⟨fields, rfl, rfl⟩)
      | _ => exact .inr (.inr rfl)

end

/-! ## What the readers raise -/

/-- A `RunPodManagerError` with a message. -/
def IsReport (x : Exn) : Prop := ∃ message, x = .manager message

section

variable {α β : Type}

theorem raises_refuse {P : Exn → Prop} {bad : Prop} [Decidable bad] {x : Exn} (raised : P x) :
    Raises P (refuse bad x) := by
  intro y failed
  rw [← (refuse_error.mp failed).2]
  exact raised

theorem reports (message : String) : Raises IsReport (.error (.manager message) : Except Exn α) :=
  raises_error ⟨message, rfl⟩

theorem reported_optionalMapping (value : Json) (message : String) :
    Raises IsReport (optionalMapping value message) := by
  unfold optionalMapping
  split
  · split
    · exact raises_ok _
    · exact reports message
  · exact raises_ok _

theorem reported_string (value : Fields) (key context : String) :
    Raises IsReport (string value key context) := by
  unfold string
  split
  · split
    · exact reports _
    · exact raises_ok _
  · exact reports _

theorem reported_optionalString (value : Json) (context : String) :
    Raises IsReport (optionalString value context) := by
  unfold optionalString
  split
  · exact raises_ok _
  · exact raises_ok _
  · exact reports _

theorem reported_optionalInteger (value : Json) (context : String) :
    Raises IsReport (optionalInteger value context) := by
  unfold optionalInteger
  split
  · exact raises_ok _
  · exact raises_ok _
  · exact reports _

theorem reported_requestUrl (field : String × Json) : Raises IsReport (requestUrl field) := by
  unfold requestUrl
  split
  · exact raises_ok _
  · exact reports _

theorem reported_requiredPayload (payload : Option Fields) :
    Raises IsReport (requiredPayload payload) := by
  cases payload with
  | none => exact reports _
  | some value => exact raises_ok value

end

/-- A number is reported, unless it is an integer that no `float` holds. -/
theorem optionalNumber_error {value : Json} {context : String} {x : Exn}
    (failed : optionalNumber value context = .error x) :
    (∃ message, x = .manager message) ∨ x = .other "OverflowError" := by
  unfold optionalNumber at failed
  cases value with
  | null => cases failed
  | int n =>
      dsimp only at failed
      split at failed
      · cases failed
      · cases failed
        exact .inr rfl
  | float x => cases failed
  | _ =>
      cases failed
      exact .inl ⟨_, rfl⟩

theorem reported_podResource (value : Fields) : Raises IsReport (PodResource.fromDict value) := by
  unfold PodResource.fromDict
  refine raises_bind (reported_optionalMapping _ _) fun gpu => ?_
  dsimp only
  split
  · exact reports _
  · rename_i outcome held
    refine raises_bind (fun x failed => ?_) fun cost => ?_
    · rcases optionalNumber_error failed with reported | rfl
      · exact reported
      · exact absurd failed held
    refine raises_bind (raises_refuse ⟨_, rfl⟩) fun _ => ?_
    refine raises_bind (reported_string _ _ _) fun id => ?_
    refine raises_bind (reported_string _ _ _) fun name => ?_
    refine raises_bind (reported_string _ _ _) fun status => ?_
    refine raises_bind (reported_optionalString _ _) fun gpuId => ?_
    exact raises_bind (reported_optionalInteger _ _) fun gpuCount => raises_ok _

theorem reported_endpointResource (value : Fields) :
    Raises IsReport (EndpointResource.fromDict value) := by
  unfold EndpointResource.fromDict
  refine raises_bind (reported_optionalMapping _ _) fun urls => ?_
  refine raises_bind (raises_mapM reported_requestUrl urls) fun urls => ?_
  refine raises_bind (reported_string _ _ _) fun id => ?_
  refine raises_bind (reported_string _ _ _) fun name => ?_
  exact raises_bind (reported_optionalString _ _) fun endpointType => raises_ok _

theorem reported_serverlessJob (value : Fields) :
    Raises IsReport (ServerlessJob.fromDict value) := by
  unfold ServerlessJob.fromDict
  refine raises_bind (reported_string _ _ _) fun id => ?_
  refine raises_bind (reported_string _ _ _) fun status => ?_
  refine raises_bind (reported_optionalString _ _) fun error => ?_
  refine raises_bind (reported_optionalInteger _ _) fun delay => ?_
  exact raises_bind (reported_optionalInteger _ _) fun execution => raises_ok _

/-- Reading a resource fails with its own report, or where the copy exhausts the stack. -/
theorem copied_error {β : Type} {c : Client} {value : Fields} {fromDict : Except Exn β} {x : Exn}
    (reported : Raises IsReport fromDict)
    (failed : (do let resource ← fromDict; c.copy value; .ok resource) = .error x) :
    (∃ message, x = .manager message) ∨ x = .other "RecursionError" := by
  rcases except_bind_error.mp failed with raised | ⟨resource, -, raised⟩
  · exact .inl (reported x raised)
  · rcases except_bind_error.mp raised with exhausted | ⟨_, -, ended⟩
    · exact .inr (refuse_error.mp exhausted).2.symm
    · cases ended

/-! ## Classification -/

section

variable {c : Client} {log : List Dispatch}

/-- A method that reads the body outside of any handler classifies exactly the replies that are
not misread. -/
theorem unguarded_classified {β : Type} {decode : Fields → Except Exn β} {expected : ℕ}
    {dispatch : Dispatch} {done : List Dispatch × Except Exn β}
    (success : expected = 200 ∨ expected = 201)
    (plain : ∀ fields x, decode fields = .error x → x.isAmbiguous = false)
    (sent : done.1 = dispatch :: log)
    (read : done.2 = (do
      let payload ← (c.requestJson expected dispatch log).2
      let value ← requiredPayload payload
      decode value)) :
    c.Classified decode log done ↔ ¬ (c.send (dispatch :: log)).Misread expected decode := by
  have range : 200 ≤ expected ∧ expected < 300 ∧ expected ≠ 204 := by omega
  rw [requestJson_eq] at read
  dsimp only at read
  constructor
  · rintro ⟨-, ambiguous⟩ misread
    rw [sent] at ambiguous
    cases reply : c.send (dispatch :: log) with
    | failed className =>
        rw [reply] at misread
        exact misread
    | response statusCode content =>
        rw [reply] at misread ambiguous read
        obtain ⟨rfl, bad⟩ := misread
        have accepts : (Policy.post statusCode).outcome (.response statusCode content) =
            .ok (statusCode, content) := by simp [Policy.outcome, Policy.post]
        rw [accepts] at read
        have unknown : ¬ content.Describes decode := by
          rintro ⟨fields, value, is, ok⟩
          rcases bad with rfl | ⟨fields', x, rfl, failed⟩
          · cases is
          · cases is
            rw [ok] at failed
            cases failed
        obtain ⟨status, is⟩ := ambiguous (by simp) (.inr ⟨⟨range.1, range.2.1⟩, unknown⟩)
        rw [is] at read
        rcases bad with rfl | ⟨fields, x, rfl, failed⟩
        · simp [Policy.decode, range.2.2, requiredPayload, bind, Except.bind] at read
        · simp only [Policy.decode, if_neg range.2.2, requiredPayload, bind, Except.bind,
            failed] at read
          cases read
          cases plain fields _ failed
  · intro unread
    refine ⟨.inr ⟨dispatch, sent⟩, fun _ accepts => ?_⟩
    rw [sent] at accepts
    rcases post_outcome expected _ accepts with ⟨status, is⟩ | ⟨content, reply, is⟩
    · rw [is] at read
      exact ⟨status, read⟩
    · rw [is] at read
      rw [reply] at accepts unread
      rcases post_decode content range.2.2 with ⟨empty, -⟩ | ⟨fields, object, -⟩ | raised
      · exact absurd ⟨rfl, .inl empty⟩ unread
      · cases decodes : decode fields with
        | error x => exact absurd ⟨rfl, .inr ⟨fields, x, object, decodes⟩⟩ unread
        | ok value =>
            rcases accepts with server | ⟨-, unknown⟩
            · exact absurd server (by omega)
            · exact absurd ⟨fields, value, object, decodes⟩ unknown
      · refine ⟨some expected, read.trans ?_⟩
        show ((Policy.post expected).decode (expected, content) >>= _) = _
        rw [raised]
        rfl

/-- Whatever the body fails at is ambiguous behind the handler of `create_pod`. -/
theorem unverified_error (payload : Option Fields)
    (unread : ∀ pod, (requiredPayload payload >>= c.podResource) ≠ .ok pod) :
    Client.unverified (requiredPayload payload >>= c.podResource) =
      .error (.ambiguous (some 201)) := by
  cases read : requiredPayload payload >>= c.podResource with
  | ok pod => exact absurd read (unread pod)
  | error x =>
      unfold Client.unverified
      dsimp only
      rw [if_pos]
      rcases except_bind_error.mp read with absent | ⟨value, -, raised⟩
      · obtain ⟨message, rfl⟩ := reported_requiredPayload _ x absent
        exact .inl rfl
      · rcases copied_error (reported_podResource value) raised with ⟨message, rfl⟩ | rfl
        · exact .inl rfl
        · exact .inr rfl

theorem createPod_classified (payload : Except Exn Fields) :
    c.Classified c.podResource log (c.createPod payload log) := by
  cases payload with
  | error x => exact ⟨.inl rfl, fun sent => absurd rfl sent⟩
  | ok body =>
      unfold Client.createPod
      dsimp only
      rw [requestJson_eq]
      refine ⟨.inr ⟨_, rfl⟩, fun _ accepts => ?_⟩
      dsimp only at accepts ⊢
      rcases post_outcome 201 _ accepts with ⟨status, is⟩ | ⟨content, reply, is⟩
      · rw [is]
        exact ⟨status, rfl⟩
      · rw [is]
        refine ⟨some 201, ?_⟩
        rcases post_decode content (by decide : (201 : ℕ) ≠ 204) with
          ⟨-, decoded⟩ | ⟨fields, object, decoded⟩ | raised
        · show ((Policy.post 201).decode (201, content) >>= _) = _
          rw [decoded]
          exact unverified_error (c := c) none fun pod ok => by cases ok
        · show ((Policy.post 201).decode (201, content) >>= _) = _
          rw [decoded]
          refine unverified_error (some fields) fun pod ok => ?_
          rw [reply] at accepts
          rcases accepts with server | ⟨-, unknown⟩
          · exact absurd server (by decide)
          · exact unknown ⟨fields, pod, object, ok⟩
        · show ((Policy.post 201).decode (201, content) >>= _) = _
          rw [raised]
          rfl

/-- The reply to the create of an endpoint is no success that is misread. -/
def Client.EndpointRead (c : Client) (request : CreateRequest) (log : List Dispatch) : Prop :=
  ∀ body, request.resourceSchemaVersion = .ga → request.toPayload = .ok body →
    ¬ (c.send (.endpoint body :: log)).Misread 201 c.endpointResource

/-- The reply to a `run` is no success that is misread. -/
def Client.JobRead (c : Client) (request : RunRequest) (log : List Dispatch) : Prop :=
  request.endpointId ≠ "" →
    ¬ (c.send (.job request.endpointId request.body :: log)).Misread 200 ServerlessJob.fromDict

theorem endpointResource_plain (fields : Fields) (x : Exn)
    (failed : c.endpointResource fields = .error x) : x.isAmbiguous = false := by
  rcases copied_error (reported_endpointResource fields) failed with ⟨message, rfl⟩ | rfl
  · rfl
  · rfl

theorem serverlessJob_plain (fields : Fields) (x : Exn)
    (failed : ServerlessJob.fromDict fields = .error x) : x.isAmbiguous = false := by
  obtain ⟨message, rfl⟩ := reported_serverlessJob fields x failed
  rfl

theorem createEndpoint_classified (request : CreateRequest) :
    c.Classified c.endpointResource log (c.createEndpoint request log) ↔
      c.EndpointRead request log := by
  by_cases current : request.resourceSchemaVersion = .ga
  · cases payload : request.toPayload with
    | error x =>
        have is : c.createEndpoint request log = (log, .error x) := by
          unfold Client.createEndpoint
          rw [if_neg (not_not.mpr current), payload]
        refine iff_of_true ?_ fun body _ ok => ?_
        · rw [is]
          exact ⟨.inl rfl, fun sent => absurd rfl sent⟩
        · rw [payload] at ok
          cases ok
    | ok body =>
        have is : c.createEndpoint request log = ((c.requestJson 201 (.endpoint body) log).1, do
            let payload ← (c.requestJson 201 (.endpoint body) log).2
            let value ← requiredPayload payload
            c.endpointResource value) := by
          unfold Client.createEndpoint
          rw [if_neg (not_not.mpr current), payload]
        rw [is, unguarded_classified (.inr rfl) endpointResource_plain (requestJson_sent _ _) rfl]
        constructor
        · intro unread body' _ ok
          rw [payload] at ok
          cases ok
          exact unread
        · exact fun reads => reads body current payload
  · have is : c.createEndpoint request log =
        (log, .error (.manager "Legacy endpoint authority must upgrade before new spend")) := by
      unfold Client.createEndpoint
      rw [if_pos current]
    refine iff_of_true ?_ fun body ga => absurd ga current
    rw [is]
    exact ⟨.inl rfl, fun sent => absurd rfl sent⟩

theorem run_classified (request : RunRequest) :
    c.Classified ServerlessJob.fromDict log (c.run request log) ↔ c.JobRead request log := by
  unfold Client.run Client.JobRead
  by_cases named : request.endpointId = ""
  · rw [if_pos named]
    exact iff_of_true ⟨.inl rfl, fun sent => absurd rfl sent⟩ fun other => absurd named other
  · rw [if_neg named, unguarded_classified (.inl rfl) serverlessJob_plain (requestJson_sent _ _)
      rfl]
    exact ⟨fun unread _ => unread, fun reads => reads named⟩

end

end KestrelRunpod.ControlPlane
