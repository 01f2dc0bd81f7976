import KestrelRunpod.Serverless.Provider

/-!
# Activation of a planned endpoint

What one activation, or one adoption, does at the provider, for every answer it gets and
wherever it is interrupted.  `activatePlannedEndpoint_creates` is the single walk through the
program: a create goes out only after the whole sequence of reads and checks before it.
-/

namespace KestrelRunpod.Serverless

open Interleave Catalog Numeric
open Traverse (except_bind_ok)

variable {d : Digests} {α β : Type} {h h' : Past d}

/-! ## Contracts on mutations -/

/-- What must hold of the history when a create, a delete or an intent goes out. -/
def mutations (create : Past d → CreateRequest → Prop) (delete : Past d → String → Prop)
    (persist : Past d → CleanupIntent d → Prop) : Contract (Effects d) where
  permits h op :=
    match op with
    | .send (.createEndpoint request) => create h request
    | .send (.deleteEndpoint endpointId) => delete h endpointId
    | .send (.persistIntent intent) => persist h intent
    | _ => True
  promises _ := True

section

variable {C : Contract (Effects d)} {done : Past d → β → Prop}

theorem ensures_now {f : Instant → Co d β} (permitted : C.permits h .now)
    (next : ∀ t, (f t).Ensures C done (⟨.now, t⟩ :: h)) :
    ((now : Co d Instant) >>= f).Ensures C done h :=
  Program.ensures_perform permitted fun t _ => next t

theorem ensures_await {call : Call d} {f : call.Value → Co d β}
    (sent : C.permits h (.send call))
    (received : C.permits (⟨.send call, ()⟩ :: h) (.recv call))
    (next : ∀ value, (f value).Ensures C done
      (⟨.recv call, .ok value⟩ :: ⟨.send call, ()⟩ :: h)) :
    (await call >>= f).Ensures C done h := by
  refine Program.ensures_perform sent fun _ _ => Program.ensures_perform received fun reply _ => ?_
  cases reply with
  | ok value => exact next value
  | error x => exact Program.ensures_throw x

theorem ensures_check {e : Except Exn α} {f : α → Co d β}
    (next : ∀ a, e = .ok a → (f a).Ensures C done h) :
    (Program.ofExcept e >>= f).Ensures C done h := by
  cases e with
  | ok a => exact next a rfl
  | error x => exact Program.ensures_throw x

theorem ensures_refuse {bad : Prop} [Decidable bad] {x : Exn} {f : Unit → Co d β}
    (next : ¬ bad → (f ()).Ensures C done h) :
    (Program.ofExcept (refuse bad x) >>= f).Ensures C done h :=
  ensures_check fun _ passed => next (refuse_ok.mp passed)

/-- A handler that only raises another exception. -/
theorem ensures_except_raise {p : Co d β} {caught : Exn → Bool} {y : Exn}
    (body : p.Ensures C done h) : (except p caught fun _ => raise y).Ensures C done h := by
  refine body.handle fun h' x _ => ?_
  split
  · exact Program.ensures_throw y
  · exact Program.ensures_throw x

end

/-! ## Reaches of one coroutine -/

section

variable {q : Co d β}

theorem reaches_now {f : Instant → Co d β} (t : Instant)
    (next : (f t).Reaches (⟨.now, t⟩ :: h) h' q) : ((now : Co d Instant) >>= f).Reaches h h' q :=
  .perform t (by exact next)

theorem reaches_await {call : Call d} {f : call.Value → Co d β} (value : call.Value)
    (next : (f value).Reaches (⟨.recv call, .ok value⟩ :: ⟨.send call, ()⟩ :: h) h' q) :
    (await call >>= f).Reaches h h' q := by
  exact .perform () (.perform (Except.ok value : Except Exn call.Value) (by exact next))

theorem reaches_check {e : Except Exn α} {f : α → Co d β} {a : α} (ok : e = .ok a)
    (next : (f a).Reaches h h' q) : (Program.ofExcept e >>= f).Reaches h h' q := by
  subst ok
  exact next

theorem reaches_refuse {bad : Prop} [Decidable bad] {x : Exn} {f : Unit → Co d β}
    (passes : ¬ bad) (next : (f ()).Reaches h h' q) :
    (Program.ofExcept (refuse bad x) >>= f).Reaches h h' q :=
  reaches_check (refuse_ok.mpr passes) next

end

/-! ## What a binding fixes -/

/-- An accepted quote names the planned endpoint, and its create request is the one that the
quote's digest was taken of. -/
theorem validatePlannedRequestBinding_ok {digests : QuoteDigests} {request : QuoteRequest}
    {quote : CapacityQuote}
    (bound : validatePlannedRequestBinding digests request quote = .ok ()) :
    request.endpoint.endpointName = quote.endpointName ∧
      ∃ createRequest payload,
        request.endpoint.spec.createRequest quote.endpointName quote.gpuPool
          quote.dataCenterId = .ok createRequest ∧
        createRequest.toPayload = .ok payload ∧
        digests.operation payload = quote.operationDigest := by
  unfold validatePlannedRequestBinding at bound
  simp only [↓refuse_bind_ok, except_bind_ok, refuse_ok, not_or, ne_eq, not_not] at bound
  obtain ⟨⟨-, -, -, -, name, -, -⟩, digest, operation, same, -⟩ := bound
  unfold EndpointSpec.operationDigest at operation
  simp only [except_bind_ok] at operation
  obtain ⟨createRequest, created, payload, written, is⟩ := operation
  cases is
  rw [name] at created
  exact ⟨name, createRequest, payload, created, written, same⟩

/-- The endpoint of an accepted readback is the planned one. -/
theorem bindEndpoint_ok {endpoint : EndpointResource} {request : QuoteRequest}
    {quote : CapacityQuote} {endpointId digest : String}
    (ok : bindEndpoint (d := d) endpoint request quote endpointId = .ok digest) :
    endpoint.Matches request.endpoint endpointId quote.gpuPool quote.dataCenterId :=
  validatePlannedEndpointBinding_ok ok

/-! ## Up to the create -/

/-- The quote that the catalog gives now, for offers read at `observedAt`. -/
def currentQuote (request : QuoteRequest) (offers : List GPUOffer) (observedAt : Instant) :
    Except Exn CapacityQuote := do
  let spec := request.endpoint.spec
  refuse (spec.resourceSchemaVersion ≠ .ga)
    (.manager ("Stored Serverless authority must upgrade before new quotes or spend; " ++
      "legacy adoption and cleanup remain available"))
  let requirements ← spec.constraints.placementRequirements
  validateCatalogNumbers offers
  let selection ← selectCatalog d.toQuoteDigests spec requirements offers observedAt
  plannedQuote d.toQuoteDigests request selection

/-- Every check that an activation makes before its create passes. -/
structure Admitted (d : Digests) (request : QuoteRequest) (quote : CapacityQuote)
    (acceptedCostCeilingUsd : Decimal) (checkedAt observedAt : Instant)
    (offers : List GPUOffer) (inventory : List EndpointResource) : Prop where
  bound : validatePlannedRequestBinding d.toQuoteDigests request quote = .ok ()
  fresh : quote.assertFresh checkedAt acceptedCostCeilingUsd = .ok ()
  current : ∃ current, currentQuote (d := d) request offers observedAt = .ok current ∧
    validatePlannedQuoteDrift current quote acceptedCostCeilingUsd = .ok ()
  unnamed : named inventory quote.endpointName = []

/-- What an activation has performed when its create goes out, newest event first. -/
def beforeCreate (requirements : PlacementRequirements)
    (checkedAt observedAt createStartedAt : Instant) (offers : List GPUOffer)
    (inventory : List EndpointResource) : Past d :=
  [⟨.now, createStartedAt⟩, ⟨.recv .listEndpoints, .ok inventory⟩, ⟨.send .listEndpoints, ()⟩,
    ⟨.now, observedAt⟩, ⟨.recv (.listGpus requirements), .ok offers⟩,
    ⟨.send (.listGpus requirements), ()⟩, ⟨.now, checkedAt⟩]

/-- The activation may create: it has made every check, and nothing else. -/
def Creatable (request : QuoteRequest) (quote : CapacityQuote)
    (acceptedCostCeilingUsd : Decimal) (h : Past d) (createRequest : CreateRequest) : Prop :=
  ∃ requirements checkedAt observedAt createStartedAt offers inventory,
    h = beforeCreate requirements checkedAt observedAt createStartedAt offers inventory ∧
    Admitted d request quote acceptedCostCeilingUsd checkedAt observedAt offers inventory ∧
    request.endpoint.spec.createRequest quote.endpointName quote.gpuPool quote.dataCenterId =
      .ok createRequest

section

variable {create : Past d → CreateRequest → Prop} {delete : Past d → String → Prop}
  {persist : Past d → CleanupIntent d → Prop}

/-- The catalog reads of a quote, and what the quote is then. -/
theorem observePlannedQuote_ensures (request : QuoteRequest) :
    (observePlannedQuote (d := d) request).Ensures (mutations create delete persist)
      (fun h' current => ∃ requirements offers observedAt,
        h' = ⟨.now, observedAt⟩ :: ⟨.recv (.listGpus requirements), .ok offers⟩ ::
          ⟨.send (.listGpus requirements), ()⟩ :: h ∧
        currentQuote (d := d) request offers observedAt = .ok current) h := by
  have selected : (observeCatalog (d := d) request.endpoint.spec).Ensures
      (mutations create delete persist) (fun h' selection => ∃ requirements offers observedAt,
        h' = ⟨.now, observedAt⟩ :: ⟨.recv (.listGpus requirements), .ok offers⟩ ::
          ⟨.send (.listGpus requirements), ()⟩ :: h ∧
        ∀ quote, plannedQuote d.toQuoteDigests request selection = .ok quote →
          currentQuote (d := d) request offers observedAt = .ok quote) h := by
    unfold observeCatalog
    refine ensures_refuse fun ga => ?_
    refine ensures_check fun requirements required => ?_
    refine ensures_await trivial trivial fun offers => ?_
    refine ensures_check fun _ numbers => ?_
    refine ensures_now trivial fun observedAt => ?_
    refine Program.ensures_ofExcept fun selection chosen => ?_
    refine ⟨requirements, offers, observedAt, rfl, fun quote is => ?_⟩
    unfold currentQuote
    simp only [↓refuse_bind_ok, except_bind_ok]
    exact ⟨ga, requirements, required, (), numbers, selection, chosen, is⟩
  refine selected.andThen fun h' selection _ read => ?_
  obtain ⟨requirements, offers, observedAt, rfl, quotes⟩ := read
  exact Program.ensures_ofExcept fun current is =>
    ⟨requirements, offers, observedAt, rfl, quotes current is⟩

end

/-! ## The create and after -/

/-- How a create came to its endpoint: it was acknowledged, or its outcome was unknown and the
inventory read after it has exactly one endpoint of the name. -/
inductive CreatedBy (quote : CapacityQuote) (createRequest : CreateRequest) (before : Past d) :
    Past d → EndpointResource × Bool → Prop
  | acknowledged (created : EndpointResource) : CreatedBy quote createRequest before
      (⟨.joined, false⟩ :: ⟨.recv (.createEndpoint createRequest), .ok created⟩ ::
        ⟨.send (.createEndpoint createRequest), ()⟩ :: before) (created, false)
  | reconciled (x : Exn) (after : List EndpointResource) (created : EndpointResource)
      (sole : named after quote.endpointName = [created]) : CreatedBy quote createRequest before
      (⟨.recv .listEndpoints, .ok after⟩ :: ⟨.send .listEndpoints, ()⟩ ::
        ⟨.recv (.createEndpoint createRequest), .error x⟩ ::
        ⟨.send (.createEndpoint createRequest), ()⟩ :: before) (created, true)

section

variable {create : Past d → CreateRequest → Prop} {delete : Past d → String → Prop}
  {persist : Past d → CleanupIntent d → Prop}
  {quote : CapacityQuote}

/-- The whole of the create, once it may go out. -/
theorem createPlanned_ensures {createRequest : CreateRequest} (may : create h createRequest) :
    (createPlanned (d := d) quote createRequest).Ensures (mutations create delete persist)
      (CreatedBy quote createRequest h) h := by
  refine Program.obeys_handle.mpr ⟨may, fun _ _ => ⟨trivial, fun reply _ => ?_⟩⟩
  cases reply with
  | ok created =>
      refine ⟨trivial, fun cancelled _ => ?_⟩
      cases cancelled with
      | false => exact .acknowledged created
      | true => exact trivial
  | error x =>
      show Program.Ensures _ _ (if x.isAmbiguous then reconcileCreate quote
        else if x.isManager then _ else _) _
      split
      · refine ensures_await trivial trivial fun after => ?_
        split
        · rename_i created sole
          exact .reconciled x after created sole
        · exact Program.ensures_throw _
      · split
        · exact Program.ensures_throw _
        · exact Program.ensures_throw _

end

/-- The exact readback of an endpoint. -/
theorem readBack_ensures {create : Past d → CreateRequest → Prop}
    {delete : Past d → String → Prop} {persist : Past d → CleanupIntent d → Prop} {request : QuoteRequest} {quote : CapacityQuote}
    (endpointId : String) (y : Exn) :
    (except (do
        let endpoint ← await (.getEndpoint endpointId)
        let digest ← Program.ofExcept (bindEndpoint (d := d) endpoint request quote endpointId)
        return (endpoint, digest)) Exn.isManager fun _ => raise y).Ensures
      (mutations create delete persist)
      (fun h' read => h' = ⟨.recv (.getEndpoint endpointId), .ok read.1⟩ ::
          ⟨.send (.getEndpoint endpointId), ()⟩ :: h ∧
        bindEndpoint (d := d) read.1 request quote endpointId = .ok read.2) h := by
  refine ensures_except_raise ?_
  refine ensures_await trivial trivial fun endpoint => ?_
  refine ensures_check fun digest binds => ?_
  exact Program.ensures_pure _ ⟨rfl, binds⟩

/-- The receipt is for an endpoint that was read back, that carries the plan's name and that
is the plan's in every field compared. -/
structure Custodied (request : QuoteRequest) (quote : CapacityQuote) (h : Past d)
    (receipt : ActivationReceipt d) : Prop where
  name : receipt.endpointName = request.endpoint.endpointName
  readback : ∃ endpoint, ⟨.recv (.getEndpoint receipt.endpointId), .ok endpoint⟩ ∈ h ∧
    endpoint.Matches request.endpoint receipt.endpointId quote.gpuPool quote.dataCenterId ∧
    bindEndpoint (d := d) endpoint request quote receipt.endpointId =
      .ok receipt.endpointReadbackSha256

/-- In an inventory that was read, the endpoint is the only one with the name. -/
def SoleNamed (name : String) (h : Past d) (endpointId : String) : Prop :=
  ∃ inventory item, ⟨.recv .listEndpoints, .ok inventory⟩ ∈ h ∧
    named inventory name = [item] ∧ item.id = endpointId

/-- After a create whose answer was an exception, the endpoint is the only one of its name in
an inventory read after that answer. -/
def Reconciled (name : String) (h : Past d) (receipt : ActivationReceipt d) : Prop :=
  ∀ later earlier createRequest x,
    h = later ++ ⟨.recv (.createEndpoint createRequest), .error x⟩ :: earlier →
    SoleNamed name later receipt.endpointId

/-- An element that is not in the first part of a list is in the second. -/
theorem split_of_notMem {γ : Type} (tail : List γ) {after later earlier : List γ} {e : γ}
    (split : tail ++ after = later ++ e :: earlier) (absent : e ∉ tail) :
    ∃ between, later = tail ++ between ∧ after = between ++ e :: earlier := by
  rcases List.append_eq_append_iff.mp split with ⟨between, rfl, is⟩ | ⟨between, is, rest⟩
  · exact ⟨between, rfl, is⟩
  · cases between with
    | nil =>
        refine ⟨[], by rw [is, List.append_nil, List.append_nil], ?_⟩
        rw [List.nil_append] at rest ⊢
        exact rest.symm
    | cons first between =>
        rw [List.cons_append, List.cons.injEq] at rest
        rw [is, rest.1] at absent
        simp at absent

/-- A create that came to an endpoint was reconciled if its answer was an exception. -/
theorem CreatedBy.sole {quote : CapacityQuote} {createRequest r : CreateRequest} {x : Exn}
    {before after later earlier : Past d} {created : EndpointResource × Bool}
    (createdBy : CreatedBy quote createRequest before after created)
    (unsent : ⟨.recv (.createEndpoint r), .error x⟩ ∉ before)
    (split : after = later ++ ⟨.recv (.createEndpoint r), .error x⟩ :: earlier) :
    SoleNamed quote.endpointName later created.1.id := by
  have inside : (⟨.recv (.createEndpoint r), .error x⟩ : Event (Effects d)) ∈ after := by
    rw [split]
    simp
  cases createdBy with
  | acknowledged created => simp [unsent] at inside
  | reconciled y inventory created sole =>
      cases later with
      | nil => simp at split
      | cons first later =>
          rw [List.cons_append, List.cons.injEq] at split
          exact ⟨inventory, created, by rw [split.1]; exact List.mem_cons_self, sole, rfl⟩

theorem SoleNamed.mono {name : String} {h h' : Past d} {endpointId : String}
    (sole : SoleNamed name h endpointId) (within : h ⊆ h') : SoleNamed name h' endpointId := by
  obtain ⟨inventory, item, read, named, is⟩ := sole
  exact ⟨inventory, item, within read, named, is⟩

/-- The receipt states the clock read right before the create went out. -/
def Stamped (h : Past d) (receipt : ActivationReceipt d) : Prop :=
  ∃ earlier createRequest, ⟨.send (.createEndpoint createRequest), ()⟩ ::
    ⟨.now, receipt.createStartedAt⟩ :: earlier <:+ h

theorem CreatedBy.dispatched {quote : CapacityQuote} {createRequest : CreateRequest}
    {before after : Past d} {created : EndpointResource × Bool}
    (createdBy : CreatedBy quote createRequest before after created) :
    ⟨.send (.createEndpoint createRequest), ()⟩ :: before <:+ after := by
  cases createdBy with
  | acknowledged created => exact ⟨[_, _], rfl⟩
  | reconciled x inventory created sole => exact ⟨[_, _, _], rfl⟩

/-- The fields of a receipt that `plannedActivationReceipt` builds. -/
theorem plannedActivationReceipt_ok {quote : CapacityQuote}
    {endpointId readbackDigest : String} {createStartedAt activatedAt readbackAt : Instant}
    {reconciled : Bool} {receipt : ActivationReceipt d}
    (ok : plannedActivationReceipt quote endpointId readbackDigest createStartedAt activatedAt
      readbackAt reconciled = .ok receipt) :
    receipt.endpointName = quote.endpointName ∧ receipt.endpointId = endpointId ∧
      receipt.endpointReadbackSha256 = readbackDigest ∧
      receipt.createStartedAt = createStartedAt ∧ receipt.activatedAt = activatedAt ∧
      receipt.readbackAt = readbackAt := by
  have fields := ActivationReceipt.build_ok.mp ok
  rw [fields]
  exact ⟨rfl, rfl, rfl, rfl, rfl, rfl⟩

/-- The walk through an activation. -/
theorem activatePlannedEndpoint_ensures (request : QuoteRequest) (quote : CapacityQuote)
    (acceptedCostCeilingUsd : Decimal) (priorReceipt : Option (ActivationReceipt d)) :
    (activatePlannedEndpoint request quote acceptedCostCeilingUsd priorReceipt).Ensures
      (mutations (fun h r => priorReceipt = none ∧
        Creatable request quote acceptedCostCeilingUsd h r) (fun _ _ => False) fun _ _ => False)
      (fun h receipt => (Custodied request quote h receipt ∧
        Reconciled request.endpoint.endpointName h receipt) ∧
        (priorReceipt = none → Stamped h receipt)) [] := by
  unfold activatePlannedEndpoint
  refine ensures_check fun _ bound => ?_
  obtain ⟨name, createRequest, payload, creates, written, digested⟩ :=
    validatePlannedRequestBinding_ok bound
  cases priorReceipt with
  | some prior =>
      refine ensures_refuse fun sameQuote => ?_
      refine ensures_await trivial trivial fun endpoint => ?_
      refine ensures_check fun digest binds => ?_
      refine ensures_refuse fun same => ?_
      simp only [not_or, ne_eq, not_not] at sameQuote same
      refine ⟨⟨⟨?_, endpoint, List.mem_cons_self, bindEndpoint_ok binds, ?_⟩, ?_⟩, ?_⟩
      · rw [name]
        exact sameQuote.2.2.2.2.1
      · rw [binds, same]
      · -- no create was sent
        intro later earlier r x split
        have inside : (⟨.recv (.createEndpoint r), .error x⟩ : Event (Effects d)) ∈
            later ++ ⟨.recv (.createEndpoint r), .error x⟩ :: earlier := by simp
        rw [← split] at inside
        simp at inside
      · intro is
        cases is
  | none =>
      refine ensures_now trivial fun checkedAt => ?_
      refine ensures_check fun _ fresh => ?_
      refine (observePlannedQuote_ensures request).andThen fun h' current _ read => ?_
      obtain ⟨requirements, offers, observedAt, rfl, is⟩ := read
      refine ensures_check fun _ steady => ?_
      refine ensures_await trivial trivial fun inventory => ?_
      refine ensures_refuse fun unnamed => ?_
      simp only [Bool.not_eq_false, List.isEmpty_iff] at unnamed
      refine ensures_check fun built builds => ?_
      rw [creates] at builds
      cases builds
      refine ensures_check fun _ _ => ?_
      refine ensures_check fun _ _ => ?_
      refine ensures_now trivial fun createStartedAt => ?_
      have admitted : Admitted d request quote acceptedCostCeilingUsd checkedAt observedAt offers
          inventory := ⟨bound, fresh, ⟨current, is, steady⟩, unnamed⟩
      refine (createPlanned_ensures ⟨rfl, requirements, checkedAt, observedAt, createStartedAt,
        offers, inventory, rfl, admitted, creates⟩).andThen fun h' created _ createdBy => ?_
      obtain ⟨created, reconciled⟩ := created
      refine ensures_now trivial fun activatedAt => ?_
      refine ensures_refuse fun _ => ?_
      refine (readBack_ensures created.id _).andThen fun h' read _ back => ?_
      obtain ⟨endpoint, digest⟩ := read
      obtain ⟨rfl, binds⟩ := back
      refine ensures_now trivial fun readbackAt => ?_
      refine Program.ensures_ofExcept fun receipt made => ?_
      obtain ⟨endpointName, endpointId, endpointDigest, started, -⟩ :=
        plannedActivationReceipt_ok made
      have found := bindEndpoint_ok binds
      rw [found.id] at endpointId
      refine ⟨⟨⟨?_, endpoint, ?_, ?_, ?_⟩, ?_⟩, fun _ => ?_⟩
      · rw [name, endpointName]
      · rw [endpointId]
        simp
      · rw [endpointId]
        exact found
      · rw [endpointId, endpointDigest]
        exact binds
      · intro later earlier r x split
        obtain ⟨between, is, rest⟩ := split_of_notMem [_, _, _, _] split (by simp)
        have sole := createdBy.sole (by simp) rest
        rw [endpointId, is, name]
        exact sole.mono (List.subset_append_right _ _)
      · have sent := createdBy.dispatched
        rw [← started] at sent
        have onward : ∀ a b e f : Event (Effects d), h' <:+ a :: b :: e :: f :: h' :=
          fun a b e f => ⟨[a, b, e, f], rfl⟩
        exact ⟨_, createRequest, sent.trans (onward _ _ _ _)⟩

/-- The walk through an adoption: it sends no create and no delete. -/
theorem adoptPlannedEndpoint_ensures (request : QuoteRequest) (quote : CapacityQuote) :
    (adoptPlannedEndpoint (d := d) request quote).Ensures
      (mutations (fun _ _ => False) (fun _ _ => False) fun _ _ => False)
      (fun h receipt => (Custodied request quote h receipt ∧
        SoleNamed request.endpoint.endpointName h receipt.endpointId) ∧
        h.head? = some ⟨.now, receipt.createStartedAt⟩) [] := by
  unfold adoptPlannedEndpoint
  refine ensures_check fun _ bound => ?_
  obtain ⟨name, -⟩ := validatePlannedRequestBinding_ok bound
  refine ensures_await trivial trivial fun inventory => ?_
  split
  · rename_i observed sole
    refine ensures_await trivial trivial fun endpoint => ?_
    have checked : (except (Program.ofExcept (bindEndpoint (d := d) endpoint request quote
          observed.id)) Exn.isManager fun _ => raise (.activation
            ("Pre-existing Serverless endpoint does not bind to the accepted " ++
              "plan and was not adopted") quote.endpointName [observed.id])).Ensures
        (mutations (fun _ _ => False) (fun _ _ => False) fun _ _ => False)
        (fun h' digest => h' = [⟨.recv (.getEndpoint observed.id), .ok endpoint⟩,
            ⟨.send (.getEndpoint observed.id), ()⟩, ⟨.recv .listEndpoints, .ok inventory⟩,
            ⟨.send .listEndpoints, ()⟩] ∧
          bindEndpoint (d := d) endpoint request quote observed.id = .ok digest) _ :=
      ensures_except_raise (Program.ensures_ofExcept fun digest binds => ⟨rfl, binds⟩)
    refine checked.andThen fun h' digest _ back => ?_
    obtain ⟨rfl, binds⟩ := back
    refine ensures_now trivial fun adoptedAt => ?_
    refine Program.ensures_ofExcept fun receipt made => ?_
    obtain ⟨endpointName, endpointId, endpointDigest, started, -⟩ :=
      plannedActivationReceipt_ok made
    have found := bindEndpoint_ok binds
    rw [found.id] at endpointId
    refine ⟨⟨⟨?_, endpoint, ?_, ?_, ?_⟩, inventory, observed, ?_, ?_, endpointId.symm⟩, ?_⟩
    · rw [name, endpointName]
    · rw [endpointId]
      simp
    · rw [endpointId]
      exact found
    · rw [endpointId, endpointDigest]
      exact binds
    · simp
    · rw [name]
      exact sole
    · rw [started]
      rfl
  · exact Program.ensures_throw _

/-! ## Custody of an activation -/

/-- The creates that were dispatched. -/
def creates (h : Past d) : List CreateRequest :=
  h.filterMap fun e => match e.op with
    | .send (.createEndpoint request) => some request
    | _ => none

theorem mem_creates {r : CreateRequest} (sent : r ∈ creates h) :
    ⟨.send (.createEndpoint r), ()⟩ ∈ h := by
  obtain ⟨⟨op, reply⟩, held, is⟩ := List.mem_filterMap.mp sent
  cases op with
  | send call =>
      cases call with
      | createEndpoint other =>
          cases is
          exact held
      | _ => cases is
  | _ => cases is

/-- Creates that each go out before any other are at most one. -/
theorem creates_atMostOnce {h : Past d}
    (first : ∀ later earlier r, h = later ++ ⟨.send (.createEndpoint r), ()⟩ :: earlier →
      creates earlier = []) : (creates h).length ≤ 1 := by
  induction h with
  | nil => simp [creates]
  | cons e h ih =>
      have before : (creates h).length ≤ 1 := ih fun later earlier r split =>
        first (e :: later) earlier r (by rw [split, List.cons_append])
      obtain ⟨op, reply⟩ := e
      by_cases is : ∃ r, op = .send (.createEndpoint r)
      · obtain ⟨r, rfl⟩ := is
        have none_ : creates h = [] := first [] h r rfl
        show (r :: creates h).length ≤ 1
        rw [none_]
        simp
      · have same : creates (⟨op, reply⟩ :: h) = creates h := by
          unfold creates
          rw [List.filterMap_cons_none]
          split
          · rename_i r sent
            exact absurd ⟨r, sent⟩ is
          · rfl
        rw [same]
        exact before

/-- **Activation custody.**  Wherever an activation is interrupted and whatever it is answered,
it has dispatched at most one create, and that only after it read an inventory in which no
endpoint has the plan's name; its receipt, and an adoption's, is for an endpoint of the plan's
name whose exact readback is the plan's in every field compared, and which after a create that
was answered by an exception, and in every adoption, is the only one of its name.  An adoption
changes nothing at the provider. -/
theorem activation_custody (request : QuoteRequest) (quote : CapacityQuote)
    (acceptedCostCeilingUsd : Decimal) (priorReceipt : Option (ActivationReceipt d)) :
    (∀ history rest, (activatePlannedEndpoint request quote acceptedCostCeilingUsd
        priorReceipt).Reaches [] history rest →
      (creates history).length ≤ 1 ∧
      ∀ later earlier r, history = later ++ ⟨.send (.createEndpoint r), ()⟩ :: earlier →
        (∃ inventory, ⟨.recv .listEndpoints, .ok inventory⟩ ∈ earlier) ∧
        ∀ inventory, ⟨.recv .listEndpoints, .ok inventory⟩ ∈ earlier →
          ∀ item ∈ inventory, item.name ≠ request.endpoint.endpointName) ∧
    (∀ history receipt, (activatePlannedEndpoint request quote acceptedCostCeilingUsd
        priorReceipt).Ends [] history (.ok receipt) →
      Custodied request quote history receipt ∧
      Reconciled request.endpoint.endpointName history receipt) ∧
    (∀ history rest, (adoptPlannedEndpoint (d := d) request quote).Reaches [] history rest →
      ∀ e ∈ history, ∀ call, e.op = .send call → call.mutates = false) ∧
    ∀ history receipt, (adoptPlannedEndpoint (d := d) request quote).Ends [] history
        (.ok receipt) →
      Custodied request quote history receipt ∧
      SoleNamed request.endpoint.endpointName history receipt.endpointId := by
  have activates := activatePlannedEndpoint_ensures (d := d) request quote acceptedCostCeilingUsd
    priorReceipt
  have adopts := adoptPlannedEndpoint_ensures (d := d) request quote
  refine ⟨fun history rest reach => ?_, fun history receipt ends => ?_,
    fun history rest reach => ?_, fun history receipt ends => ?_⟩
  · have may : ∀ later earlier r,
        history = later ++ ⟨.send (.createEndpoint r), ()⟩ :: earlier →
        Creatable request quote acceptedCostCeilingUsd earlier r := fun later earlier r split =>
      (reach.permitted (fun _ _ => trivial) activates.safe split (List.nil_suffix)).2
    constructor
    · refine creates_atMostOnce fun later earlier r split => ?_
      obtain ⟨_, _, _, _, _, _, rfl, -⟩ := may later earlier r split
      rfl
    · intro later earlier r split
      obtain ⟨_, _, _, _, _, inventory, rfl, admitted, -⟩ := may later earlier r split
      refine ⟨⟨inventory, by simp [beforeCreate]⟩, fun other read item held => ?_⟩
      have same : other = inventory := by simpa [beforeCreate] using read
      subst same
      have unnamed := List.filter_eq_nil_iff.mp admitted.unnamed item held
      rw [(validatePlannedRequestBinding_ok admitted.bound).1]
      simpa using unnamed
  · exact ((ends.obeys (fun _ _ => trivial) activates).1 receipt rfl).1
  · intro e performed call sent
    obtain ⟨later, earlier, split⟩ := List.append_of_mem performed
    have permitted := reach.permitted (fun _ _ => trivial) adopts.safe split List.nil_suffix
    rw [sent] at permitted
    cases call with
    | createEndpoint r => exact permitted.elim
    | deleteEndpoint id => exact permitted.elim
    | _ => rfl
  · exact ((ends.obeys (fun _ _ => trivial) adopts).1 receipt rfl).1

/-! ### A sample activation -/

namespace Sample

/-- A digest made of one repeated digit. -/
def hex (digit : Char) : String := String.ofList (List.replicate 64 digit)

def digests : Digests where
  spec _ := hex '1'
  operation _ := hex '2'
  plan _ := hex '3'
  observation _ := hex '4'
  identity _ := hex '5'
  quote _ := hex '6'
  activation _ := hex '7'
  cleanup _ := hex '8'
  readback _ := hex '9'
  spec_hex _ := by decide +kernel
  operation_hex _ := by decide +kernel
  plan_hex _ := by decide +kernel
  observation_hex _ := by decide +kernel
  identity_hex _ := by decide +kernel
  quote_hex _ := by decide +kernel
  activation_hex _ := by decide +kernel
  cleanup_hex _ := by decide +kernel
  readback_hex _ := by decide +kernel

def constraints : CapacityConstraints where
  minVramGb := 24
  allowedGpuPools := ["ADA_24"]
  allowedDataCenterIds := ["US-1"]
  checked := by decide +kernel

def spec : EndpointSpec where
  workerReference := "w@sha256:" ++ hex 'a'
  constraints := constraints
  workersMin := 0
  workersMax := 1
  idleTailSeconds := 60
  scalingType := "QUEUE_DELAY"
  scalingValue := ⟨4, 0⟩
  executionTimeoutMs := 600000
  flashboot := .off
  diskGb := 20
  checked := by decide +kernel

def plan : PlannedEndpoint where
  planId := "plan-1"
  endpointName := "endpoint-1"
  spec := spec
  checked := by decide +kernel

def request : QuoteRequest where
  endpoint := plan
  workloadKind := "selfie"
  parametersSha256 := hex 'b'
  estimatedQueueDelaySeconds := none
  estimatedWorkerStartSeconds := 30
  estimatedExecutionSeconds := 60
  maximumQueueDelaySeconds := 60
  maximumWorkerStartSeconds := 60
  maximumExecutionSeconds := 120
  maximumBillableSeconds := 240
  jobExecutionTimeoutMs := 120000
  jobTtlMs := 300000
  estimatedNonWorkerCostUsd := ⟨0, 0⟩
  maximumNonWorkerCostUsd := ⟨1, -2⟩
  checked := by decide +kernel

def offer : GPUOffer where
  id := "gpu-1"
  name := "GPU"
  pool := some "ADA_24"
  manufacturer := "Nvidia"
  memoryGb := 24
  secure := true
  community := false
  securePricePerHr := .finite 1
  communityPricePerHr := .finite 1
  secureMaxCount := 8
  communityMaxCount := 0
  availability := some .high
  dataCenters := [⟨some "US-1", some "HIGH"⟩]
  availabilityMinCudaVersion := none
  serverlessPricePerHr := some (.finite 1)

theorem quoted : (currentQuote (d := digests) request [offer] 0).toOption.isSome = true := by
  decide +kernel

/-- The quote for the sample's catalog, taken at the start of its clock. -/
def quote : CapacityQuote := (currentQuote (d := digests) request [offer] 0).toOption.get quoted

/-- The planned endpoint, as the provider describes it. -/
def endpoint : EndpointResource where
  id := "id-1"
  name := "endpoint-1"
  endpointType := some "QUEUE"
  raw := [("type", .str "QUEUE"),
    ("gpu", .obj [("pools", Json.texts ["ADA_24"]), ("count", .int 1), ("minCudaVersion", .null),
      ("allowedCudaVersions", .arr [])]),
    ("workers", .obj [("min", .int 0), ("max", .int 1), ("idleTimeout", .int 60)]),
    ("scaling", .obj [("type", .str "QUEUE_DELAY"), ("queueDelay", .int 4)]),
    ("mounts", .obj [("network", .arr []), ("global", .arr [])]),
    ("dataCenterIds", Json.texts ["US-1"]), ("networkVolumes", .arr []),
    ("image", .str ("w@sha256:" ++ hex 'a')), ("timeout", .int 600000), ("disk", .int 20),
    ("flashboot", .str "OFF"), ("ports", .arr []), ("env", .obj [])]

/-- A provider that loses the answer to a create, on a clock that moves at every operation. -/
def losesAnswer (h : Past digests) : (op : Op digests) → op.Reply
  | .now => h.length
  | .send _ => ()
  | .recv (.listGpus _) => .ok [offer]
  | .recv .listEndpoints => .ok (if creates h = [] then [] else [endpoint])
  | .recv (.getEndpoint _) => .ok endpoint
  | .recv (.createEndpoint _) => .error (.ambiguous none)
  | .recv (.listEndpointWorkers _) => .ok []
  | .recv (.deleteEndpoint _) => .ok ()
  | .recv (.persistIntent _) => .ok none
  | .recv (.serverlessBilling _ _ _) => .ok ⟨[], []⟩
  | .joined => false

end Sample

open Sample in
/-- An activation whose create is answered by no more than a lost connection. -/
theorem activation_custody_ambiguous : ∃ history receipt,
    (activatePlannedEndpoint (d := digests) request quote quote.costCeilingUsd none).Ends []
      history (.ok receipt) ∧
    (creates history).length = 1 ∧ Custodied request quote history receipt ∧
    Reconciled request.endpoint.endpointName history receipt := by
  have played : (Program.play losesAnswer 20 (activatePlannedEndpoint request quote
      quote.costCeilingUsd none) []).2.value.isSome = true := by decide +kernel
  have once : (creates (Program.play losesAnswer 20 (activatePlannedEndpoint request quote
      quote.costCeilingUsd none) []).1).length = 1 := by decide +kernel
  obtain ⟨receipt, is⟩ := Option.isSome_iff_exists.mp played
  have ends := Program.play_ends is
  exact ⟨_, receipt, ends, once,
    (activation_custody request quote quote.costCeilingUsd none).2.1 _ _ ends⟩

end KestrelRunpod.Serverless
