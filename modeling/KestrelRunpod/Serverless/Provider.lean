import KestrelRunpod.Interleave.Reach
import KestrelRunpod.Serverless.Billing

/-!
# The Serverless capacity provider

The coroutines of `RunpodServerlessCapacityProvider` that handle one planned endpoint.  Each
clock read is one operation; an awaited call is two, so that the request and its response are
separate moments.  Any exception may answer a call, `CancelledError` included, and a task
whose answer never comes is one that was interrupted.
-/

namespace KestrelRunpod.Serverless

open Interleave Catalog Numeric

/-! ## Operations -/

/-- An awaited call to the provider's API, or to the host's intent store. -/
inductive Call (d : Digests)
  | listGpus (requirements : PlacementRequirements)
  | listEndpoints
  | getEndpoint (endpointId : String)
  | createEndpoint (request : CreateRequest)
  | listEndpointWorkers (endpointId : String)
  | deleteEndpoint (endpointId : String)
  | persistIntent (intent : CleanupIntent d)
  | serverlessBilling (startTime endTime : Instant) (endpointId : String)

/-- The value a call returns when it does not raise.  An acknowledgement that is no cleanup
intent is `none`. -/
@[reducible] def Call.Value {d : Digests} : Call d → Type
  | .listGpus _ => List GPUOffer
  | .listEndpoints => List EndpointResource
  | .getEndpoint _ => EndpointResource
  | .createEndpoint _ => EndpointResource
  | .listEndpointWorkers _ => List (String × Json)
  | .deleteEndpoint _ => Unit
  | .persistIntent _ => Option (CleanupIntent d)
  | .serverlessBilling _ _ _ => BillingPage

/-- The call changes something at the provider. -/
def Call.mutates {d : Digests} : Call d → Bool
  | .createEndpoint _ | .deleteEndpoint _ => true
  | _ => false

/-- An atomic effect. -/
inductive Op (d : Digests)
  | now
  | send (call : Call d)
  | recv (call : Call d)
  | joined

@[reducible] def Op.Reply {d : Digests} : Op d → Type
  | .now => Instant
  | .send _ => Unit
  | .recv call => Except Exn call.Value
  | .joined => Bool

/-- The effects of the provider. -/
abbrev Effects (d : Digests) : Signature := ⟨Op d, Op.Reply⟩

/-- A coroutine of the provider. -/
abbrev Co (d : Digests) (α : Type) : Type := Program (Effects d) Exn α

/-- What one coroutine has performed so far, newest event first. -/
abbrev Past (d : Digests) : Type := History (Effects d)

variable {d : Digests} {α : Type}

/-- Raise an exception. -/
def raise (x : Exn) : Co d α := .throw x

/-- `self._now()`. -/
def now : Co d Instant := .perform (S := Effects d) .now .pure

/-- Await a call. -/
def await (call : Call d) : Co d call.Value :=
  .perform (S := Effects d) (.send call) fun _ =>
    .perform (S := Effects d) (.recv call) fun reply => Program.ofExcept reply

/-- `await_owned_effect`: the effect runs to its end, and a cancellation that arrived
meanwhile is raised after it. -/
def awaitOwned (effect : Co d α) : Co d α := do
  let value ← effect
  .perform (S := Effects d) .joined fun (cancelled : Bool) =>
    if cancelled then .throw .cancelled else .pure value

/-- `except … as exc`, for exceptions that meet `caught`. -/
def except (body : Co d α) (caught : Exn → Bool) (handler : Exn → Co d α) : Co d α :=
  body.handle fun x => if caught x then handler x else .throw x

/-! ## Quotes -/

/-- `_observe_catalog`. -/
def observeCatalog (spec : EndpointSpec) : Co d CatalogSelection := do
  Program.ofExcept (refuse (spec.resourceSchemaVersion ≠ .ga)
    (.manager ("Stored Serverless authority must upgrade before new quotes or spend; " ++
      "legacy adoption and cleanup remain available")))
  let requirements ← Program.ofExcept spec.constraints.placementRequirements
  let offers ← await (.listGpus requirements)
  Program.ofExcept (validateCatalogNumbers offers)
  let observedAt ← now
  Program.ofExcept (selectCatalog d.toQuoteDigests spec requirements offers observedAt)

/-- `_observe_planned_quote`. -/
def observePlannedQuote (request : QuoteRequest) : Co d CapacityQuote := do
  let selection ← observeCatalog request.endpoint.spec
  Program.ofExcept (plannedQuote d.toQuoteDigests request selection)

/-! ## Activation -/

/-- `_validate_planned_endpoint_binding` for a quote's placement. -/
def bindEndpoint (endpoint : EndpointResource) (request : QuoteRequest) (quote : CapacityQuote)
    (endpointId : String) : Except Exn String :=
  validatePlannedEndpointBinding d.readback endpoint request.endpoint endpointId quote.gpuPool
    quote.dataCenterId

/-- `_planned_activation_receipt`. -/
def plannedActivationReceipt (quote : CapacityQuote) (endpointId readbackDigest : String)
    (createStartedAt activatedAt readbackAt : Instant) (reconciled : Bool) :
    Except Exn (ActivationReceipt d) :=
  let identity : ActivationIdentity := {
    contractVersion := contractVersion
    providerQuoteId := quote.providerQuoteId
    quoteSha256 := d.quote quote
    planId := quote.planId
    planSha256 := quote.planSha256
    endpointName := quote.endpointName
    endpointId := endpointId
    endpointSpecSha256 := quote.endpointSpecSha256
    operationDigest := quote.operationDigest
    endpointReadbackSha256 := readbackDigest
    createStartedAt := createStartedAt
    activatedAt := activatedAt
    readbackAt := readbackAt
    reconciledAfterAmbiguousCreate := reconciled }
  ActivationReceipt.build d {
    toActivationIdentity := identity
    schemaVersion := schemaVersion
    providerActivationId := "runpod-serverless-activation:" ++ d.activation identity }

/-- The endpoints of an inventory that carry a name. -/
def named (inventory : List EndpointResource) (name : String) : List EndpointResource :=
  inventory.filter fun item => item.name = name

/-- The replay of an activation whose receipt is at hand. -/
def replayActivation (request : QuoteRequest) (quote : CapacityQuote)
    (prior : ActivationReceipt d) : Co d (ActivationReceipt d) := do
  Program.ofExcept (prior.validateQuote quote)
  let endpoint ← await (.getEndpoint prior.endpointId)
  let digest ← Program.ofExcept (bindEndpoint (d := d) endpoint request quote prior.endpointId)
  Program.ofExcept (refuse (digest ≠ prior.endpointReadbackSha256)
    (.activation "Replayed Serverless activation readback drifted" quote.endpointName
      [prior.endpointId]))
  return prior

/-- The endpoint that an ambiguous create left behind. -/
def reconcileCreate (quote : CapacityQuote) : Co d (EndpointResource × Bool) := do
  let after ← await .listEndpoints
  match named after quote.endpointName with
  | [created] => return (created, true)
  | namedAfter =>
      raise (.activation ("Ambiguous Serverless create did not reconcile to exactly one " ++
        "planned endpoint") quote.endpointName (namedAfter.map fun item => item.id))

/-- Create the endpoint once; the flag says whether the create was reconciled. -/
def createPlanned (quote : CapacityQuote) (createRequest : CreateRequest) :
    Co d (EndpointResource × Bool) :=
  (do
    let created ← awaitOwned (await (.createEndpoint createRequest))
    return (created, false)).handle fun x =>
      if x.isAmbiguous then reconcileCreate quote
      else if x.isManager then
        raise (.activation "Planned Serverless endpoint create failed" quote.endpointName [])
      else raise x

/-- `activate_planned_endpoint`. -/
def activatePlannedEndpoint (request : QuoteRequest) (quote : CapacityQuote)
    (acceptedCostCeilingUsd : Decimal) (priorReceipt : Option (ActivationReceipt d)) :
    Co d (ActivationReceipt d) := do
  Program.ofExcept (validatePlannedRequestBinding d.toQuoteDigests request quote)
  match priorReceipt with
  | some prior => replayActivation request quote prior
  | none => do
      let checkedAt ← now
      Program.ofExcept (quote.assertFresh checkedAt acceptedCostCeilingUsd)
      let current ← observePlannedQuote request
      Program.ofExcept (validatePlannedQuoteDrift current quote acceptedCostCeilingUsd)
      let existing ← await .listEndpoints
      let namedBefore := named existing quote.endpointName
      Program.ofExcept (refuse (namedBefore.isEmpty = false)
        (.activation "Planned Serverless endpoint name already exists before activation"
          quote.endpointName (namedBefore.map fun item => item.id)))
      let createRequest ← Program.ofExcept (request.endpoint.spec.createRequest
        quote.endpointName quote.gpuPool quote.dataCenterId)
      let payload ← Program.ofExcept createRequest.toPayload
      Program.ofExcept (refuse (d.operation payload ≠ quote.operationDigest)
        (.manager "Planned Serverless create request does not match the accepted digest"))
      let createStartedAt ← now
      let (created, reconciled) ← createPlanned quote createRequest
      let activatedAt ← now
      Program.ofExcept (refuse (created.name ≠ quote.endpointName)
        (.activation "Serverless create returned a different endpoint identity"
          quote.endpointName [created.id]))
      let (endpoint, digest) ← except (do
          let endpoint ← await (.getEndpoint created.id)
          let digest ← Program.ofExcept
            (bindEndpoint (d := d) endpoint request quote created.id)
          return (endpoint, digest)) Exn.isManager fun _ =>
        raise (.activation "Created Serverless endpoint failed exact readback validation"
          quote.endpointName [created.id])
      let readbackAt ← now
      Program.ofExcept (plannedActivationReceipt quote endpoint.id digest createStartedAt
        activatedAt readbackAt reconciled)

/-- `adopt_planned_endpoint`. -/
def adoptPlannedEndpoint (request : QuoteRequest) (quote : CapacityQuote) :
    Co d (ActivationReceipt d) := do
  Program.ofExcept (validatePlannedRequestBinding d.toQuoteDigests request quote)
  let existing ← await .listEndpoints
  match named existing quote.endpointName with
  | [observed] => do
      let endpoint ← await (.getEndpoint observed.id)
      let digest ← except
        (Program.ofExcept (bindEndpoint (d := d) endpoint request quote observed.id))
        Exn.isManager fun _ =>
          raise (.activation ("Pre-existing Serverless endpoint does not bind to the accepted " ++
            "plan and was not adopted") quote.endpointName [observed.id])
      let adoptedAt ← now
      Program.ofExcept (plannedActivationReceipt quote endpoint.id digest adoptedAt adoptedAt
        adoptedAt true)
  | observed =>
      raise (.activation ("Planned Serverless endpoint name does not identify exactly one " ++
        "endpoint to adopt") quote.endpointName (observed.map fun item => item.id))

/-! ## Cleanup -/

/-- `_cleanup_endpoint_resource`. -/
def cleanupEndpointResource (activation : ActivationReceipt d) :
    Co d (Option EndpointResource) :=
  except (do
      let endpoint ← await (.getEndpoint activation.endpointId)
      return some endpoint) Exn.isNotFound fun _ => return none

/-- `ServerlessEndpointCleanupError` for an activation. -/
def cleanupError (activation : ActivationReceipt d) (message : String) : Exn :=
  .cleanup message activation.endpointName activation.endpointId

/-- `_verify_cleanup_absence`. -/
def verifyCleanupAbsence (activation : ActivationReceipt d) : Co d Instant := do
  let endpoint ← cleanupEndpointResource activation
  let remains := cleanupError activation "Serverless endpoint remains present after cleanup"
  Program.ofExcept (refuse (endpoint.isSome = true) remains)
  let resources ← await .listEndpoints
  Program.ofExcept (refuse (resources.any (fun item =>
    item.id = activation.endpointId || item.name = activation.endpointName) = true) remains)
  now

/-- `_WORKER_SUMMARY_KEYS`. -/
def workerSummaryKeys : List String :=
  ["running", "idle", "initializing", "throttled", "unhealthy", "total"]

/-- Every count of the summary is zero; `all` stops at the first that is not. -/
def countsAreZero (summary : List (String × Json)) : List String → Except Exn Bool
  | [] => .ok true
  | key :: keys => do
      let count ← (Json.get summary key).integer ("workers summary." ++ key)
      if count = 0 then countsAreZero summary keys else return false

/-- The worker page shows that no worker exists, in any state. -/
def workersAreZero (activation : ActivationReceipt d) (page : List (String × Json)) :
    Except Exn Unit :=
  let invalid := cleanupError activation "Serverless worker summary is invalid before cleanup"
  match Json.get page "workers", Json.get page "summary" with
  | .arr workers, .obj summary => do
      refuse (Json.hasKeys summary workerSummaryKeys = false) invalid
      let zero ← (countsAreZero summary workerSummaryKeys).mapError fun _ => invalid
      refuse (workers.isEmpty = false ∨ zero = false)
        (cleanupError activation "Serverless endpoint still has active workers before cleanup")
  | _, _ =>
      .error (cleanupError activation "Serverless worker inventory is invalid before cleanup")

/-- The intent of a cleanup: the one at hand, or a new one. -/
def cleanupIntent (activation : ActivationReceipt d) (priorIntent : Option (CleanupIntent d)) :
    Co d (CleanupIntent d) :=
  match priorIntent with
  | some intent => .pure intent
  | none => do
      let workersZeroObservedAt ← now
      let deleteStartedAt ← now
      Program.ofExcept (CleanupIntent.build {
        schemaVersion := schemaVersion
        contractVersion := contractVersion
        activation := activation
        workersZeroObservedAt := workersZeroObservedAt
        deleteStartedAt := deleteStartedAt })

/-- Dispatch the delete; the basis says how it was answered. -/
def deleteActivated (activation : ActivationReceipt d) : Co d CleanupBasis :=
  (do
    let _ ← awaitOwned (await (.deleteEndpoint activation.endpointId))
    return CleanupBasis.deleteAcknowledged : Co d CleanupBasis).handle fun x =>
      if x.isAmbiguous then .pure .ambiguousDeleteVerifiedAbsent
      else if x.isManager then
        raise (cleanupError activation
          "Serverless endpoint delete failed before absence was ambiguous")
      else raise x

/-- The cleanup of an endpoint that is present. -/
def cleanupPresent (request : QuoteRequest) (quote : CapacityQuote)
    (activation : ActivationReceipt d) (priorIntent : Option (CleanupIntent d))
    (persists : Bool) (endpoint : EndpointResource) : Co d (CleanupReceipt d) := do
  let digest ← Program.ofExcept
    (bindEndpoint (d := d) endpoint request quote activation.endpointId)
  Program.ofExcept (refuse (digest ≠ activation.endpointReadbackSha256)
    (cleanupError activation "Serverless endpoint drifted before cleanup"))
  let page ← await (.listEndpointWorkers activation.endpointId)
  Program.ofExcept (workersAreZero activation page)
  let intent ← cleanupIntent activation priorIntent
  (if persists then do
    let acknowledged ← await (.persistIntent intent)
    Program.ofExcept (refuse (acknowledged ≠ some intent) (cleanupError activation
      "Serverless cleanup intent persistence was not acknowledged exactly"))
  else pure () : Co d Unit)
  let basis ← deleteActivated activation
  let verifiedAbsentAt ← verifyCleanupAbsence activation
  Program.ofExcept (cleanupReceipt intent verifiedAbsentAt basis)

/-- The checks on the evidence of an earlier attempt. -/
def validatePriorIntent (activation : ActivationReceipt d)
    (priorIntent : Option (CleanupIntent d)) : Co d Unit :=
  match priorIntent with
  | none => .pure ()
  | some intent => do
      Program.ofExcept (intent.validateActivation activation)
      let readAt ← now
      Program.ofExcept (refuse (readAt < intent.deleteStartedAt)
        (cleanupError activation "Serverless cleanup intent starts in the future"))

/-- The replay of a cleanup whose receipt is at hand. -/
def replayCleanup (activation : ActivationReceipt d) (priorIntent : Option (CleanupIntent d))
    (prior : CleanupReceipt d) : Co d (CleanupReceipt d) := do
  Program.ofExcept (prior.validateActivation activation)
  Program.ofExcept (refuse (priorIntent.any (fun intent =>
      decide (prior.workersZeroObservedAt ≠ intent.workersZeroObservedAt ∨
        prior.deleteStartedAt ≠ intent.deleteStartedAt)) = true)
    (cleanupError activation "Serverless cleanup receipt differs from its original intent"))
  let _ ← verifyCleanupAbsence activation
  return prior

/-- `_cleanup_planned_endpoint`. -/
def cleanupPlannedEndpointBody (request : QuoteRequest) (quote : CapacityQuote)
    (activation : ActivationReceipt d) (priorReceipt : Option (CleanupReceipt d))
    (priorIntent : Option (CleanupIntent d)) (persists : Bool) : Co d (CleanupReceipt d) := do
  Program.ofExcept (validatePlannedRequestBinding d.toQuoteDigests request quote)
  Program.ofExcept (activation.validateQuote quote)
  validatePriorIntent activation priorIntent
  match priorReceipt with
  | some prior => replayCleanup activation priorIntent prior
  | none => do
      let endpoint ← cleanupEndpointResource activation
      match endpoint, priorIntent with
      | none, none =>
          raise (cleanupError activation
            "Missing Serverless endpoint requires original durable cleanup evidence")
      | none, some intent => do
          let verifiedAbsentAt ← verifyCleanupAbsence activation
          Program.ofExcept
            (cleanupReceipt intent verifiedAbsentAt .interruptedIntentVerifiedAbsent)
      | some endpoint, priorIntent =>
          cleanupPresent request quote activation priorIntent persists endpoint

/-- `cleanup_planned_endpoint`; `persists` says whether a persist callback is supplied. -/
def cleanupPlannedEndpoint (request : QuoteRequest) (quote : CapacityQuote)
    (activation : ActivationReceipt d) (priorReceipt : Option (CleanupReceipt d))
    (priorIntent : Option (CleanupIntent d)) (persists : Bool) : Co d (CleanupReceipt d) :=
  awaitOwned
    (cleanupPlannedEndpointBody request quote activation priorReceipt priorIntent persists)

/-! ## Retired billing -/

/-- The batch loop of `read_exact_serverless_billing`, from `cursor` on. -/
def readBatches (texts : BillingTexts) (endpointId : String) (batchHours : Nat)
    (windowUntil : Instant) : Nat → Instant → Co d (Option (List HourCost))
  | 0, cursor => if cursor < windowUntil then .stall else .pure (some [])
  | fuel + 1, cursor =>
      if cursor < windowUntil then do
        let batchUntil := min windowUntil
          (cursor + min (batchHours : Int) ((windowUntil - cursor) / hour) * hour)
        let page ← awaitOwned (await (.serverlessBilling cursor batchUntil endpointId))
        let observed ← Program.ofExcept
          (authoritativeHourCosts texts page endpointId cursor batchUntil)
        match observed with
        | none => return none
        | some costs => do
            let others ← readBatches texts endpointId batchHours windowUntil fuel batchUntil
            return others.map (costs ++ ·)
      else .pure (some [])

/-- `read_exact_serverless_billing`. -/
def readExactServerlessBilling (texts : BillingTexts) (endpointId : String)
    (createdAt verifiedAbsentAt : Instant) (batchHours : Nat) : Co d (Option (List HourCost)) := do
  Program.ofExcept (safeIdentifier endpointId "billing endpoint_id")
  Program.ofExcept (refuse (batchHours < 1)
    (.valueError "billing history batch_hours must be a positive integer"))
  let window ← Program.ofExcept (billingHourBounds createdAt verifiedAbsentAt)
  let readAt ← now
  (if readAt < window.2 then .pure none
  else
    readBatches texts endpointId batchHours window.2 ((window.2 - window.1) / hour).toNat window.1 :
    Co d (Option (List HourCost)))

/-- `retired_endpoint_billing`. -/
def retiredEndpointBilling (texts : BillingTexts) (batchHours : Nat) (request : QuoteRequest)
    (quote : CapacityQuote) (activation : ActivationReceipt d) (cleanup : CleanupReceipt d) :
    Co d (Option (RetiredReceipt d)) := do
  Program.ofExcept (validatePlannedRequestBinding d.toQuoteDigests request quote)
  Program.ofExcept (activation.validateQuote quote)
  Program.ofExcept (cleanup.validateActivation activation)
  Program.ofExcept (refuse (cleanup.workersZeroObservedAt < activation.readbackAt)
    (.manager "Serverless cleanup precedes activation readback"))
  let costs ← readExactServerlessBilling texts activation.endpointId activation.createStartedAt
    cleanup.verifiedAbsentAt batchHours
  match costs with
  | none => return none
  | some costs => do
      let reconciledAt ← now
      let receipt ← Program.ofExcept (RetiredReceipt.build {
        schemaVersion := schemaVersion
        contractVersion := contractVersion
        activation := activation
        cleanup := cleanup
        endpointHourCosts := costs
        reconciledAt := reconciledAt })
      return some receipt

end KestrelRunpod.Serverless
