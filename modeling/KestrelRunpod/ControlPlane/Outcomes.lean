import KestrelRunpod.ControlPlane.Mutations
import KestrelRunpod.Interleave.Avoids
import KestrelRunpod.Serverless.Activation

/-!
# Outcomes of a create

An activation lists the endpoints when the outcome of its create is unknown, and takes every other
failure for the provider's refusal.  So it loses an endpoint exactly where `create_endpoint`
misreads a success: `outcomes_classified_iff` puts the three methods and the activation together.
-/

namespace KestrelRunpod.ControlPlane

open Interleave
open Serverless (Exn refuse_error CreateRequest)
open Traverse

/-! ## The create of an activation -/

section

open Serverless (Past Co Digests QuoteRequest CapacityQuote activatePlannedEndpoint createPlanned
  observePlannedQuote)

variable {d : Digests} {α β : Type} {h : Past d}

/-- What the custody of a planned endpoint reads of a resource. -/
def EndpointResource.readback (endpoint : EndpointResource) : Serverless.EndpointResource :=
  ⟨endpoint.id, endpoint.name, endpoint.endpointType, endpoint.raw⟩

/-- `ServerlessEndpointActivationError`, which no call of the provider raises. -/
def isActivation : Exn → Bool
  | .activation _ _ _ => true
  | _ => false

/-- The report that the endpoint was not created. -/
def CreateFailed (x : Exn) : Prop :=
  ∃ name ids, x = .activation "Planned Serverless endpoint create failed" name ids

/-- The last answer is that the outcome of a create is unknown. -/
def Unresolved (h : Past d) : Prop :=
  ∃ request x earlier, x.isAmbiguous = true ∧
    h = ⟨.recv (.createEndpoint request), .error x⟩ :: earlier

/-- An unknown outcome is resolved by listing the endpoints, before anything else. -/
def resolving (d : Digests) : Contract (Serverless.Effects d) where
  permits h op := Unresolved h → op = .send .listEndpoints
  promises
    | ⟨.recv _, .error x⟩ => isActivation x = false
    | _ => True

/-- No create was answered. -/
def Uncreated (h : Past d) : Prop :=
  ∀ request answer, (⟨.recv (.createEndpoint request), answer⟩ : Event (Serverless.Effects d)) ∉ h

/-- The outcome of no create is unknown. -/
def Known (h : Past d) : Prop :=
  ∀ request x, (⟨.recv (.createEndpoint request), .error x⟩ : Event (Serverless.Effects d)) ∈ h →
    x.isAmbiguous = false

theorem Uncreated.resolved (uncreated : Uncreated h) : ¬ Unresolved h := by
  rintro ⟨request, x, earlier, -, rfl⟩
  exact uncreated request _ List.mem_cons_self

theorem Uncreated.known (uncreated : Uncreated h) : Known h :=
  fun request _ answered => absurd answered (uncreated request _)

/-- How an activation may end: the outcome of its create is known where it reports a failure. -/
def EndsKnown (h : Past d) (x : Exn) : Prop := ¬ Unresolved h ∧ (CreateFailed x → Known h)

theorem not_createFailed {x : Exn} (other : isActivation x = false) : ¬ CreateFailed x := by
  rintro ⟨name, ids, rfl⟩
  cases other

/-- The operation is the answer to a create. -/
def answersCreate (op : Serverless.Op d) : Prop := ∃ request, op = .recv (.createEndpoint request)

theorem resolved_of_other {op : Serverless.Op d} {r : op.Reply} (other : ¬ answersCreate op) :
    ¬ Unresolved (⟨op, r⟩ :: h : Past d) := by
  rintro ⟨request, x, earlier, -, is⟩
  cases is
  exact other ⟨request, rfl⟩

theorem not_answersCreate {op : Serverless.Op d}
    (other : ∀ request, op ≠ .recv (.createEndpoint request)) : ¬ answersCreate op :=
  fun ⟨request, is⟩ => other request is

/-- What comes before the create neither meets an unknown outcome nor leaves one. -/
theorem resolving_before {p : Co d α} {f : α → Co d β} {done : Past d → β → Prop}
    (avoids : p.Avoids answersCreate) (uncreated : Uncreated h)
    (next : ∀ h' a, Uncreated h' → (f a).Obeys (resolving d) done EndsKnown h') :
    (p >>= f).Obeys (resolving d) done EndsKnown h := by
  have kept : p.Obeys (resolving d) (fun h' _ => Uncreated h') (fun h' _ => Uncreated h') h := by
    refine avoids.obeys (fun h op uncreated other => ⟨fun open_ => ?_, fun r => ?_⟩) uncreated
    · exact absurd open_ uncreated.resolved
    · intro request answer answered
      rcases List.mem_cons.mp answered with is | earlier
      · cases is
        exact other ⟨request, rfl⟩
      · exact uncreated request answer earlier
  exact Program.obeys_bind.mpr (kept.weaken (fun h' a _ met => next h' a met)
    fun h' x _ met => ⟨met.resolved, fun _ => met.known⟩)

/-- The create, and what becomes of its answer. -/
theorem createPlanned_resolving {quote : CapacityQuote} {request : CreateRequest}
    (uncreated : Uncreated h) :
    (createPlanned (d := d) quote request).Obeys (resolving d) (fun h' _ => ¬ Unresolved h')
      EndsKnown h := by
  have sent : ¬ Unresolved (⟨.send (.createEndpoint request), ()⟩ :: h : Past d) :=
    resolved_of_other (by rintro ⟨_, ⟨⟩⟩)
  refine Program.obeys_handle.mpr ⟨fun open_ => absurd open_ uncreated.resolved, fun _ _ =>
    ⟨fun open_ => absurd open_ sent, fun answer promised => ?_⟩⟩
  cases answer with
  | ok created =>
      have joined : ∀ cancelled : Bool, ¬ Unresolved (⟨.joined, cancelled⟩ ::
          ⟨.recv (.createEndpoint request), .ok created⟩ ::
          ⟨.send (.createEndpoint request), ()⟩ :: h : Past d) := fun cancelled =>
        resolved_of_other (by rintro ⟨_, ⟨⟩⟩)
      refine ⟨fun open_ => ?_, fun cancelled _ => ?_⟩
      · obtain ⟨_, _, _, -, is⟩ := open_
        cases is
      · cases cancelled with
        | false => exact joined false
        | true => exact ⟨joined true, fun failed => absurd failed (not_createFailed rfl)⟩
  | error x =>
      show Program.Obeys _ (if x.isAmbiguous then Serverless.reconcileCreate quote
        else if x.isManager then _ else _) _ _ _
      split
      · have listing : ¬ Unresolved (⟨.send .listEndpoints, ()⟩ ::
            ⟨.recv (.createEndpoint request), .error x⟩ ::
            ⟨.send (.createEndpoint request), ()⟩ :: h : Past d) :=
          resolved_of_other (by rintro ⟨_, ⟨⟩⟩)
        unfold Serverless.reconcileCreate
        refine ⟨fun _ => rfl, fun _ _ => ⟨fun open_ => absurd open_ listing,
          fun listed plain => ?_⟩⟩
        have resolved : ¬ Unresolved (⟨.recv .listEndpoints, listed⟩ ::
            ⟨.send .listEndpoints, ()⟩ :: ⟨.recv (.createEndpoint request), .error x⟩ ::
            ⟨.send (.createEndpoint request), ()⟩ :: h : Past d) :=
          resolved_of_other (by rintro ⟨_, ⟨⟩⟩)
        cases listed with
        | ok after =>
            refine Program.obeys_bind.mpr ((Program.obeys_pure after).mpr ?_)
            split
            · exact resolved
            · refine ⟨resolved, fun failed => ?_⟩
              obtain ⟨name, ids, is⟩ := failed
              simp at is
        | error y => exact ⟨resolved, fun failed => absurd failed (not_createFailed plain)⟩
      · rename_i definite
        have resolved : ¬ Unresolved (⟨.recv (.createEndpoint request), .error x⟩ ::
            ⟨.send (.createEndpoint request), ()⟩ :: h : Past d) := by
          rintro ⟨_, y, _, ambiguous, is⟩
          cases is
          exact definite ambiguous
        have known : Known (⟨.recv (.createEndpoint request), .error x⟩ ::
            ⟨.send (.createEndpoint request), ()⟩ :: h : Past d) := by
          intro other y answered
          rcases List.mem_cons.mp answered with is | answered
          · cases is
            exact eq_false_of_ne_true definite
          · rcases List.mem_cons.mp answered with is | earlier
            · cases is
            · exact absurd earlier (uncreated other _)
        split
        · exact ⟨resolved, fun _ => known⟩
        · exact ⟨resolved, fun _ => known⟩

/-- The activation after its create performs nothing that leaves an outcome open. -/
theorem resolving_after {op : Serverless.Op d} {k : op.Reply → Co d β}
    {done : Past d → β → Prop} (resolved : ¬ Unresolved h) (other : ¬ answersCreate op)
    (next : ∀ r, (resolving d).promises ⟨op, r⟩ → ¬ Unresolved (⟨op, r⟩ :: h : Past d) →
      (k r).Obeys (resolving d) done EndsKnown (⟨op, r⟩ :: h)) :
    (Program.perform (S := Serverless.Effects d) op k).Obeys (resolving d) done EndsKnown h := by
  exact ⟨fun open_ => absurd open_ resolved, fun r promised =>
    next r promised (resolved_of_other other)⟩

theorem avoids_now : (Serverless.now : Co d Instant).Avoids answersCreate :=
  ⟨by rintro ⟨_, ⟨⟩⟩, fun _ => trivial⟩

theorem avoids_await {call : Serverless.Call d}
    (other : ∀ request, call ≠ .createEndpoint request) :
    (Serverless.await call).Avoids answersCreate := by
  refine ⟨by rintro ⟨_, ⟨⟩⟩, fun _ => ⟨?_, fun reply => Program.avoids_ofExcept reply⟩⟩
  rintro ⟨request, is⟩
  cases is
  exact other request rfl

theorem avoids_observePlannedQuote (request : QuoteRequest) :
    (observePlannedQuote (d := d) request).Avoids answersCreate := by
  refine Program.Avoids.bind ?_ fun selection => Program.avoids_ofExcept _
  refine Program.Avoids.bind (Program.avoids_ofExcept _) fun _ => ?_
  refine Program.Avoids.bind (Program.avoids_ofExcept _) fun requirements => ?_
  refine Program.Avoids.bind (avoids_await (by rintro _ ⟨⟩)) fun offers => ?_
  refine Program.Avoids.bind (Program.avoids_ofExcept _) fun _ => ?_
  exact Program.Avoids.bind avoids_now fun observedAt => Program.avoids_ofExcept _

/-- A check that raises no activation error, or one that does not report a failed create. -/
theorem resolving_check {e : Except Exn α} {f : α → Co d β} {done : Past d → β → Prop}
    (resolved : ¬ Unresolved h) (other : ∀ x, e = .error x → ¬ CreateFailed x)
    (next : ∀ a, (f a).Obeys (resolving d) done EndsKnown h) :
    (Program.ofExcept e >>= f).Obeys (resolving d) done EndsKnown h := by
  cases e with
  | ok a => exact next a
  | error x => exact ⟨resolved, fun failed => absurd failed (other x rfl)⟩

/-- No check of an activation receipt raises an activation error. -/
theorem activationFields_raises (a : Serverless.ActivationFields) :
    Raises (fun x => isActivation x = false) (a.check d) := by
  have named : ∀ value name, Raises (fun x => isActivation x = false)
      (Serverless.safeIdentifier value name) := fun _ _ => raises_refuse rfl
  have digested : ∀ value name, Raises (fun x => isActivation x = false)
      (Serverless.sha256Digest value name) := fun _ _ => raises_refuse rfl
  unfold Serverless.ActivationFields.check
  refine raises_bind (raises_bind (raises_refuse rfl) fun _ => raises_refuse rfl) fun _ => ?_
  refine raises_bind (named _ _) fun _ => ?_
  refine raises_bind (named _ _) fun _ => ?_
  refine raises_bind (named _ _) fun _ => ?_
  refine raises_bind (named _ _) fun _ => ?_
  refine raises_bind (named _ _) fun _ => ?_
  refine raises_bind (digested _ _) fun _ => ?_
  refine raises_bind (digested _ _) fun _ => ?_
  refine raises_bind (digested _ _) fun _ => ?_
  refine raises_bind (digested _ _) fun _ => ?_
  refine raises_bind (digested _ _) fun _ => ?_
  exact raises_bind (raises_refuse rfl) fun _ => raises_refuse rfl

theorem activationReceipt_raises {a : Serverless.ActivationFields} :
    Raises (fun x => isActivation x = false) (Serverless.ActivationReceipt.build d a) := by
  intro x failed
  unfold Serverless.ActivationReceipt.build at failed
  split at failed
  · cases failed
  · rename_i y unchecked
    cases failed
    exact activationFields_raises a x unchecked

/-- The exact readback of an endpoint, which reports a failure of its own. -/
theorem readBack_resolving {request : QuoteRequest} {quote : CapacityQuote} {id : String} {y : Exn}
    (resolved : ¬ Unresolved h) (other : ¬ CreateFailed y) :
    (Serverless.except (do
        let endpoint ← Serverless.await (.getEndpoint id)
        let digest ← Program.ofExcept (Serverless.bindEndpoint (d := d) endpoint request quote id)
        return (endpoint, digest)) Exn.isManager fun _ => Serverless.raise y).Obeys (resolving d)
      (fun h' _ => ¬ Unresolved h') EndsKnown h := by
  have handled : ∀ (h' : Past d) (x : Exn), ¬ Unresolved h' →
      (if x.isManager = true then Serverless.raise y else Program.throw x :
        Co d (Serverless.EndpointResource × String)).Obeys (resolving d)
        (fun h' _ => ¬ Unresolved h') EndsKnown h' := by
    intro h' x resolved
    split
    · exact ⟨resolved, fun failed => absurd failed other⟩
    · rename_i foreign
      refine ⟨resolved, ?_⟩
      rintro ⟨name, ids, rfl⟩
      exact absurd rfl foreign
  have sent : ¬ Unresolved (⟨.send (.getEndpoint id), ()⟩ :: h : Past d) :=
    resolved_of_other (by rintro ⟨_, ⟨⟩⟩)
  have received : ∀ reply : Except Exn Serverless.EndpointResource,
      ¬ Unresolved (⟨.recv (.getEndpoint id), reply⟩ :: ⟨.send (.getEndpoint id), ()⟩ :: h :
        Past d) := fun reply => resolved_of_other (by rintro ⟨_, ⟨⟩⟩)
  refine Program.obeys_handle.mpr ⟨fun open_ => absurd open_ resolved, fun _ _ =>
    ⟨fun open_ => absurd open_ sent, fun reply _ => ?_⟩⟩
  cases reply with
  | error x => exact handled _ x (received _)
  | ok endpoint =>
      refine Program.obeys_bind.mpr (Program.obeys_bind.mpr (Program.obeys_ofExcept.mpr
        ⟨fun digest _ => received _, fun x _ => handled _ x (received _)⟩))

/-- The walk through an activation. -/
theorem activatePlannedEndpoint_resolving (request : QuoteRequest) (quote : CapacityQuote)
    (acceptedCostCeilingUsd : Numeric.Decimal) :
    (activatePlannedEndpoint (d := d) request quote acceptedCostCeilingUsd none).Obeys
      (resolving d) (fun h' _ => ¬ Unresolved h') EndsKnown [] := by
  have start : Uncreated ([] : Past d) := fun _ _ answered => by cases answered
  have check : ∀ {γ : Type} (e : Except Exn γ),
      (Program.ofExcept e : Co d γ).Avoids answersCreate := fun e => Program.avoids_ofExcept e
  unfold activatePlannedEndpoint
  refine resolving_before (check _) start fun h₁ _ uncreated => ?_
  refine resolving_before avoids_now uncreated fun h₂ checkedAt uncreated => ?_
  refine resolving_before (check _) uncreated fun h₃ _ uncreated => ?_
  refine resolving_before (avoids_observePlannedQuote request) uncreated
    fun h₄ current uncreated => ?_
  refine resolving_before (check _) uncreated fun h₅ _ uncreated => ?_
  refine resolving_before (avoids_await (by rintro _ ⟨⟩)) uncreated
    fun h₆ existing uncreated => ?_
  refine resolving_before (check _) uncreated fun h₇ _ uncreated => ?_
  refine resolving_before (check _) uncreated fun h₈ createRequest uncreated => ?_
  refine resolving_before (check _) uncreated fun h₉ payload uncreated => ?_
  refine resolving_before (check _) uncreated fun h₁₀ _ uncreated => ?_
  refine resolving_before avoids_now uncreated fun h₁₁ createStartedAt uncreated => ?_
  refine Program.obeys_bind.mpr ((createPlanned_resolving uncreated).weaken
    (fun h₁₂ created _ resolved => ?_) fun _ _ _ ends => ends)
  obtain ⟨created, reconciled⟩ := created
  refine resolving_after resolved (by rintro ⟨_, ⟨⟩⟩) fun activatedAt _ resolved => ?_
  refine resolving_check resolved (fun x failed => ?_) fun _ => ?_
  · rw [← (refuse_error.mp failed).2]
    rintro ⟨name, ids, is⟩
    simp at is
  refine Program.obeys_bind.mpr ((readBack_resolving resolved ?_).weaken
    (fun h₁₃ read _ resolved => ?_) fun _ _ _ ends => ends)
  · rintro ⟨name, ids, is⟩
    simp at is
  obtain ⟨endpoint, digest⟩ := read
  refine resolving_after resolved (by rintro ⟨_, ⟨⟩⟩) fun readbackAt _ resolved => ?_
  refine Program.obeys_ofExcept.mpr ⟨fun _ _ => resolved, fun x failed => ?_⟩
  exact ⟨resolved, fun failed' =>
    absurd failed' (not_createFailed (activationReceipt_raises x failed))⟩

/-- In every activation whose create is answered as the client answers it, and in which no call
raises an activation error, a create that may have been accepted is looked for by listing the
endpoints before anything else, and is not reported as failed. -/
def ActivationResolves (d : Digests) (c : Client) (request : CreateRequest)
    (log : List Dispatch) : Prop :=
  ∀ (plan : QuoteRequest) (quote : CapacityQuote) (acceptedCostCeilingUsd : Numeric.Decimal)
    (h : Past d) (o : Except Exn (Serverless.ActivationReceipt d)),
    (activatePlannedEndpoint plan quote acceptedCostCeilingUsd none).Ends [] h o →
    (∀ (call : Serverless.Call d) (x : Exn), ⟨.recv call, .error x⟩ ∈ h →
      isActivation x = false) →
    ∀ later earlier, h = later ++ ⟨.recv (.createEndpoint request),
        (c.createEndpoint request log).2.map EndpointResource.readback⟩ :: earlier →
      (c.createEndpoint request log).1 ≠ log →
      (c.send (c.createEndpoint request log).1).MayHaveAccepted c.endpointResource →
      (∃ rest, later = rest ++ [⟨.send .listEndpoints, ()⟩]) ∧ ∀ x, o = .error x → ¬ CreateFailed x

theorem activation_resolves {c : Client} {request : CreateRequest} {log : List Dispatch}
    (classified : c.Classified c.endpointResource log (c.createEndpoint request log)) :
    ActivationResolves d c request log := by
  intro plan quote ceiling h o ends plain later earlier split sent accepts
  obtain ⟨status, ambiguous⟩ := classified.ambiguous sent accepts
  rw [ambiguous] at split
  have promised : ∀ e ∈ h, (resolving d).promises e := by
    rintro ⟨op, reply⟩ answered
    cases op with
    | recv call =>
        cases reply with
        | ok value => trivial
        | error x => exact plain call x answered
    | _ => trivial
  have walk := activatePlannedEndpoint_resolving (d := d) plan quote ceiling
  have ended := ends.obeys promised walk
  constructor
  · -- the operation after the answer is the next one of the walk
    rcases List.eq_nil_or_concat later with rfl | ⟨rest, ⟨op, reply⟩, rfl⟩
    · have open_ : Unresolved h := ⟨request, _, earlier, rfl, split⟩
      cases o with
      | ok receipt => exact absurd open_ (ended.1 receipt rfl)
      | error x => exact absurd open_ (ended.2 x rfl).1
    · rw [List.concat_eq_append, List.append_assoc] at split
      have next : op = .send .listEndpoints := ends.reaches.permitted promised walk.safe split
        List.nil_suffix ⟨request, _, earlier, rfl, rfl⟩
      subst next
      exact ⟨rest, by rw [List.concat_eq_append]⟩
  · intro x is failed
    have known := (ended.2 x is).2 failed request (.ambiguous status)
      (by rw [split]; exact List.mem_append_right _ List.mem_cons_self)
    cases known

/-- The three methods and the activation agree on what is ambiguous. -/
structure OutcomesClassified (d : Digests) (c : Client) (payload : Except Exn Fields)
    (create : CreateRequest) (job : RunRequest) (log : List Dispatch) : Prop where
  pod : c.Classified c.podResource log (c.createPod payload log)
  endpoint : c.Classified c.endpointResource log (c.createEndpoint create log)
  job : c.Classified ServerlessJob.fromDict log (c.run job log)
  activation : ActivationResolves d c create log

/-- **Ambiguous outcomes.**  Each of the three requests is dispatched once at most, and is reported
as ambiguous wherever the provider may have accepted it, and an activation resolves its create,
exactly where no success of `create_endpoint` and `run` is without a body or an object that is not
the resource. -/
theorem outcomes_classified_iff (d : Digests) (c : Client) (payload : Except Exn Fields)
    (create : CreateRequest) (job : RunRequest) (log : List Dispatch) :
    OutcomesClassified d c payload create job log ↔
      c.EndpointRead create log ∧ c.JobRead job log := by
  constructor
  · rintro ⟨-, endpoint, job, -⟩
    exact ⟨(createEndpoint_classified create).mp endpoint, (run_classified _).mp job⟩
  · rintro ⟨endpoint, job⟩
    have classified := (createEndpoint_classified create).mpr endpoint
    exact ⟨createPod_classified payload, classified, (run_classified _).mpr job,
      activation_resolves classified⟩

end

/-! ### An acknowledged create without a body -/

namespace Sample

/-- A client whose every request is created, with an empty response. -/
def created : Client where
  maxSafeRetries := 2
  exhausts _ := false
  send _ := .response 201 .empty

/-- The create of the sample plan. -/
def create : CreateRequest where
  name := "endpoint-1"
  image := "worker"
  gpuPools := ["ADA_24"]
  endpointType := "QUEUE"
  scalingType := "QUEUE_DELAY"
  queueDelay := .finite 4
  gpuCount := 1
  workersMin := 0
  workersMax := 1
  idleTimeoutSeconds := 60
  diskGb := 20
  registryId := none
  dataCenterIds := ["US-1"]
  networkVolumeIds := []
  executionTimeoutMs := 600000
  flashboot := .off
  minCudaVersion := none
  resourceSchemaVersion := .ga

end Sample

open Sample in
/-- The endpoint was created, and `create_endpoint` reports a definite failure. -/
theorem empty_create_is_definite :
    ¬ ∀ (d : Serverless.Digests) (c : Client) (payload : Except Exn Fields)
      (create : CreateRequest) (job : RunRequest) (log : List Dispatch),
      OutcomesClassified d c payload create job log := by
  intro classified
  have endpoint := (classified Serverless.Sample.digests created (.ok []) create
    ⟨"endpoint-1", [], none, none, none⟩ []).endpoint
  have is : (created.createEndpoint create []).2 =
      .error (.manager "Runpod v2 returned an empty response") := rfl
  have accepts : (created.send (created.createEndpoint create []).1).MayHaveAccepted
      created.endpointResource := by
    refine .inr ⟨by decide, ?_⟩
    rintro ⟨fields, value, empty, -⟩
    cases empty
  have sent : (created.createEndpoint create []).1 ≠ [] := by
    have dispatched : ∃ dispatch, (created.createEndpoint create []).1 = [dispatch] := ⟨_, rfl⟩
    obtain ⟨dispatch, is⟩ := dispatched
    rw [is]
    exact List.cons_ne_nil _ _
  obtain ⟨status, ambiguous⟩ := endpoint.ambiguous sent accepts
  rw [is] at ambiguous
  cases ambiguous

end KestrelRunpod.ControlPlane
