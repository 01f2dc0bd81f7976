import KestrelRunpod.Interleave.System
import KestrelRunpod.Ollama.Repository

/-!
# The Ollama lease service

The coroutines of `OllamaLeaseService`.  Each store transaction, each clock read and each
synchronous provider check is one operation; an awaited provider call is two, so that the
request and its response are separate moments.  Any exception may answer a call,
`CancelledError` included, and a task that is never resumed is one that crashed.
-/

namespace KestrelRunpod.Ollama

open Interleave

/-! ## Operations -/

/-- An awaited call to the provider, or a sleep. -/
inductive Call
  | plan (request : LeaseRequest)
  | provision (request : LeaseRequest) (plan : PlacementPlan) (resourceName : String)
  | findResource (resourceType : ResourceType) (resourceName : String)
  | observe (resource : ProvisionedResource)
  | pullModel (resource : ProvisionedResource) (routeUrl model : String)
  | teardown (resource : ProvisionedResource)
  | sleep

/-- The value a call returns when it does not raise. -/
@[reducible] def Call.Value : Call → Type
  | .plan _ => PlacementPlan
  | .provision _ _ _ => ProvisionedResource
  | .findResource _ _ => Option ProvisionedResource
  | .observe _ => ReadinessObservation
  | .pullModel _ _ _ => Unit
  | .teardown _ => Unit
  | .sleep => Unit

/-- An atomic effect.  `send` names the lease on whose behalf the call is made. -/
inductive Op
  | insertRequest (request : LeaseRequest) (now : Instant)
  | get (leaseId : String)
  | compareAndSet (lease : Lease) (changes : Changes)
  | listForReconciliation
  | now
  | validateRuntimeRequest (request : LeaseRequest)
  | send (leaseId : String) (call : Call)
  | recv (id : Nat) (call : Call)
  | joined

@[reducible] def Op.Reply : Op → Type
  | .insertRequest _ _ => Except Exn (Lease × Bool)
  | .get _ => Option Lease
  | .compareAndSet _ _ => Except Exn Lease
  | .listForReconciliation => List Lease
  | .now => Instant
  | .validateRuntimeRequest _ => Except Exn Unit
  | .send _ _ => Nat
  | .recv _ call => Except Exn call.Value
  | .joined => Bool

/-- The operations of the lease service and their replies. -/
abbrev Effects : Signature := ⟨Op, Op.Reply⟩

/-- A coroutine of the lease service. -/
abbrev Co (α : Type) : Type := Program Effects Exn α

/-- What a coroutine has done so far. -/
abbrev Past : Type := History Effects

/-! ## Elementary coroutines -/

/-- One `OllamaLeaseService`.  `fuel` bounds its polling loop; a loop that would run longer is
never resumed. -/
structure Service where
  texts : Texts
  fuel : Nat

/-- `raise`. -/
def raise {α : Type} (x : Exn) : Co α := .throw x

/-- `_now`. -/
def now : Co Instant := .perform .now fun (t : Instant) => .pure t

/-- `await`: send the call, later receive its outcome. -/
def await (leaseId : String) (call : Call) : Co call.Value :=
  .perform (.send leaseId call) fun id =>
    .perform (.recv id call) fun outcome => .ofExcept outcome

/-- `await_owned_effect`: the effect runs to its end; its failure takes precedence over a
cancellation of the caller. -/
def awaitOwned {α : Type} (effect : Co α) : Co α :=
  effect.bind fun a =>
    .perform .joined fun (cancelled : Bool) => if cancelled then raise .cancelled else .pure a

/-- `except` for the exceptions that `caught` selects. -/
def except {α : Type} (body : Co α) (caught : Exn → Bool) (handler : Exn → Co α) : Co α :=
  body.handle fun x => if caught x then handler x else raise x

/-- `repository.insert_request`. -/
def insertRequest (request : LeaseRequest) (t : Instant) : Co (Lease × Bool) :=
  .perform (.insertRequest request t) fun reply => .ofExcept reply

/-- `repository.get`. -/
def getLease (leaseId : String) : Co (Option Lease) :=
  .perform (.get leaseId) fun (found : Option Lease) => .pure found

/-- `repository.compare_and_set`. -/
def compareAndSet (lease : Lease) (changes : Changes) : Co Lease :=
  .perform (.compareAndSet lease changes) fun reply => .ofExcept reply

/-- `repository.list_for_reconciliation`. -/
def listForReconciliation : Co (List Lease) :=
  .perform .listForReconciliation fun (found : List Lease) => .pure found

/-- `provider.validate_runtime_request`. -/
def validateRuntimeRequest (request : LeaseRequest) : Co Unit :=
  .perform (.validateRuntimeRequest request) fun reply => .ofExcept reply

/-- `_required`. -/
def required (leaseId : String) : Co Lease :=
  (getLease leaseId).bind fun found =>
    match found with
    | some lease => .pure lease
    | none => raise (.manager ("Ollama lease '" ++ leaseId ++ "' was not found"))

/-- `_authorize`. -/
def authorize (lease : Lease) (ownerId workloadId : String) : Co Unit :=
  if lease.ownerId ≠ ownerId ∨ lease.workloadId ≠ workloadId then
    raise (.authorization "Ollama lease ownership mismatch")
  else .pure ()

/-- `lease.termination_reason or reason`. -/
def Lease.reasonOr (lease : Lease) (reason : String) : String :=
  match lease.terminationReason with
  | some given => if given = "" then reason else given
  | none => reason

/-- A lease without a route. -/
def Lease.unrouted (lease : Lease) : RoutedLease := ⟨lease, none, none⟩

/-- `_ALLOWED_TRANSITIONS`. -/
def LeaseState.allowedTransitions : LeaseState → List LeaseState
  | .requested => [.provisioning, .failed, .terminated]
  | .provisioning => [.reconcileRequired, .waitingForModel, .releasing, .failed]
  | .reconcileRequired => [.waitingForModel, .releasing, .failed]
  | .waitingForModel => [.ready, .releasing, .failed]
  | .ready => [.releasing]
  | .releasing => [.terminated]
  | .failed => [.releasing, .terminated]
  | .terminated => []

/-- `math.ceil` of a duration in seconds. -/
def ceilSeconds (microseconds : Int) : Int :=
  match totalSeconds microseconds with
  | .finite q => ⌈q⌉
  | _ => 0

/-- `OllamaLeaseState.value`. -/
def LeaseState.value : LeaseState → String
  | .requested => "requested"
  | .provisioning => "provisioning"
  | .reconcileRequired => "reconcile_required"
  | .waitingForModel => "waiting_for_model"
  | .ready => "ready"
  | .releasing => "releasing"
  | .terminated => "terminated"
  | .failed => "failed"

/-- `_transition`. -/
def transition (lease : Lease) (target : LeaseState) (changes : Changes) : Co Lease :=
  if target ≠ lease.state ∧ target ∉ lease.state.allowedTransitions then
    raise (.manager ("Invalid Ollama lease transition " ++ lease.state.value ++ " -> " ++
      target.value))
  else compareAndSet lease { changes with state := some target }

/-- `validate_plan`. -/
def validatePlan (request : LeaseRequest) (plan : PlacementPlan) : Except Exn Unit :=
  let allowedModes := if request.mode = .auto then
      [LeaseMode.serverlessLoadBalancer, .dedicatedPod] else [request.mode]
  let serverless := plan.mode = .serverlessLoadBalancer
  if plan.mode ∉ allowedModes then
    .error (.manager "Provider returned an unauthorized Ollama mode")
  else if plan.resourceType ≠
      (if serverless then ResourceType.serverlessEndpoint else .pod) then
    .error (.manager "Provider returned an inconsistent Ollama resource type")
  else if plan.placement.product ≠
      (if serverless then ComputeProduct.serverless else .pod) then
    .error (.manager "Provider returned an inconsistent Ollama catalog product")
  else if plan.estimatedCost.isFinite = false ∨ plan.estimatedCost.lt (.finite 0) = true ∨
      plan.costCeiling.isFinite = false ∨ plan.costCeiling.lt plan.estimatedCost = true ∨
      plan.placement.offeredCostPerHr.isFinite = false ∨
      plan.placement.offeredCostPerHr.le (.finite 0) = true ∨
      plan.estimatedBillableSeconds = 0 then
    .error (.manager "Provider returned an invalid Ollama cost plan")
  else if request.maxAuthorizedCost.lt plan.costCeiling = true then
    .error (.manager
      "Provider Ollama all-in cost ceiling exceeds the maximum authorized cost")
  else if request.constraints.maxHourlyRate.any
      (fun limit => limit.lt plan.placement.offeredCostPerHr) then
    .error (.manager "Provider Ollama plan exceeds the maximum authorized hourly rate")
  else .ok ()

/-- `request_from_lease`: the constraints are read back as they were stored. -/
def requestFromLease (lease : Lease) : Except Exn LeaseRequest :=
  if lease.state ≠ .requested then
    .error (.manager ("Ollama lease '" ++ lease.leaseId ++ "' is not a recoverable request"))
  else
    .ok
      { leaseId := lease.leaseId
        ownerId := lease.ownerId
        workloadId := lease.workloadId
        model := lease.model
        constraints := lease.constraints
        expectedSessionSeconds := lease.expectedSessionSeconds
        expectedActiveSeconds := lease.expectedActiveSeconds
        serverlessInitializationSeconds := lease.serverlessInitializationSeconds
        serverlessIdleTailSeconds := lease.serverlessIdleTailSeconds
        idleTimeoutSeconds := lease.idleTimeoutSeconds
        readinessTimeoutSeconds :=
          max 1 (ceilSeconds (lease.readinessDeadline - lease.createdAt)).toNat
        hardDeadline := lease.hardDeadline
        maxAuthorizedCost := lease.maxAuthorizedCost
        mode := lease.mode
        requestedAt := none }

/-! ## Creation -/

/-- The plan of a request, checked before anything is created. -/
def checkedPlan (request : LeaseRequest) (plan : Option PlacementPlan) :
    Co PlacementPlan := do
  let plan ← (match plan with
    | some plan => .pure plan
    | none => await request.leaseId (.plan request) : Co PlacementPlan)
  .ofExcept (validatePlan request plan)
  validateRuntimeRequest { request with mode := plan.mode }
  .pure plan

/-- `_provision_effect`: the admitted create and its durable receipt. -/
def provisionEffect (svc : Service) (lease : Lease) (request : LeaseRequest)
    (plan : PlacementPlan) (providerName : String) : Co Lease := do
  let resource ←
    except (await lease.leaseId (.provision request plan providerName)) Exn.isManager
      fun x => do
        let _ ← transition lease .reconcileRequired
          { lastProviderError := some (some (svc.texts.sanitizeProviderError x)) }
        raise x
  transition lease .waitingForModel
    { providerResourceId := some (resource : ProvisionedResource).providerResourceId
      creationUncertain := some false
      lastProviderError := some none }

/-- The columns that admit a create. -/
def provisioningChanges (texts : Texts) (lease : Lease) (request : LeaseRequest)
    (plan : PlacementPlan) (t : Instant) : Changes where
  mode := some plan.mode
  resourceType := some plan.resourceType
  resourceName := some (texts.resourceName request.leaseId)
  creationUncertain := some true
  provisionAttemptId := some (texts.provisionAttemptId request)
  provisionAttempts := some (lease.provisionAttempts + 1)
  provisioningStartedAt := some t
  plan := some plan

/-- `_provision_requested`. -/
def provisionRequested (svc : Service) (lease : Lease) (request : LeaseRequest)
    (plan : Option PlacementPlan) : Co Lease :=
  if lease.state ≠ .requested then
    raise (.manager ("Ollama lease '" ++ lease.leaseId ++
      "' is no longer awaiting provisioning"))
  else do
    let plan ← except (checkedPlan request plan) Exn.isManager fun x => do
      let _ ← transition lease .failed
        { lastProviderError := some (some (svc.texts.sanitizeProviderError x)) }
      raise x
    let t ← now
    let lease ← transition lease .provisioning
      (provisioningChanges svc.texts lease request plan t)
    awaitOwned (provisionEffect svc lease request plan
      (svc.texts.resourceName request.leaseId))

/-- `_reconcile_creation`. -/
def reconcileCreation (svc : Service) (lease : Lease) : Co Lease :=
  if truthy lease.providerResourceId then
    transition lease .waitingForModel { lastProviderError := some none }
  else
    match lease.resourceType, lease.resourceName with
    | some resourceType, some resourceName => do
        let found ←
          (except ((await lease.leaseId (.findResource resourceType resourceName)).bind
              fun found => .pure (.inl found)) Exn.isManager fun x => do
            let updated ← compareAndSet lease
              { lastProviderError := some (some (svc.texts.sanitizeProviderError x)) }
            .pure (.inr updated) : Co (Option ProvisionedResource ⊕ Lease))
        match found with
        | .inr updated => .pure updated
        | .inl none => .pure lease
        | .inl (some resource) =>
            transition lease .waitingForModel
              { providerResourceId := some resource.providerResourceId
                creationUncertain := some false
                lastProviderError := some none }
    | _, _ => .pure lease

/-! ## Release -/

/-- `_teardown_effect`. -/
def teardownEffect (svc : Service) (lease : Lease) (reason : String) : Co Lease := do
  except
    (do
      let resource ← .ofExcept (resourceFromLease lease)
      await lease.leaseId (.teardown resource))
    Exn.isManager fun x => do
      let t ← now
      let _ ← compareAndSet lease
        { teardownState := some .retryableFailure
          lastProviderError := some (some (reason ++ ": " ++ svc.texts.sanitizeProviderError x))
          accruedEstimatedCost := some (accruedCost lease t) }
      raise (.teardown ("Ollama lease '" ++ lease.leaseId ++ "' teardown remains retryable"))
  let t ← now
  transition lease .terminated
    { teardownState := some .complete
      lastProviderError := some none
      accruedEstimatedCost := some (accruedCost lease t)
      terminationReason := some (lease.reasonOr reason) }

/-- `_resolve_uncertain_release`. -/
def resolveUncertainRelease (svc : Service) (lease : Lease) (reason : String) : Co Lease :=
  match lease.resourceType, lease.resourceName with
  | some resourceType, some resourceName => do
      let found ←
        (except ((await lease.leaseId (.findResource resourceType resourceName)).bind
            fun found => .pure (.inl found)) Exn.isManager fun x => do
          let updated ← compareAndSet lease
            { teardownState := some .retryableFailure
              lastProviderError :=
                some (some (reason ++ ": " ++ svc.texts.sanitizeProviderError x)) }
          .pure (.inr updated) : Co (Option ProvisionedResource ⊕ Lease))
      match found with
      | .inr updated => .pure updated
      | .inl (some resource) =>
          compareAndSet lease
            { providerResourceId := some resource.providerResourceId
              creationUncertain := some false
              teardownState := some .pending
              lastProviderError := some none }
      | .inl none =>
          compareAndSet lease
            { teardownState := some .retryableFailure
              lastProviderError := some
                (some (reason ++ ": awaiting ambiguous creation reconciliation")) }
  | _, _ =>
      compareAndSet lease
        { teardownState := some .retryableFailure
          lastProviderError := some
            (some (reason ++ ": uncertain creation has no resource identity")) }

/-- The columns of a release without a resource. -/
def terminatedChanges (lease : Lease) (reason : String) : Changes where
  teardownState := some .complete
  lastProviderError := some none
  terminationReason := some (lease.reasonOr reason)

/-- `_release`, once the lease is `RELEASING`. -/
def releaseResource (svc : Service) (lease : Lease) (reason : String) : Co Lease := do
  if truthy lease.providerResourceId then
    let lease ← compareAndSet lease { teardownAttempts := some (lease.teardownAttempts + 1) }
    awaitOwned (teardownEffect svc lease reason)
  else if lease.creationUncertain then
    let lease ← resolveUncertainRelease svc lease reason
    if lease.creationUncertain then
      raise (.teardown ("Ollama lease '" ++ lease.leaseId ++
        "' creation is still reconciling"))
    else if truthy lease.providerResourceId then
      let lease ← compareAndSet lease { teardownAttempts := some (lease.teardownAttempts + 1) }
      awaitOwned (teardownEffect svc lease reason)
    else transition lease .terminated (terminatedChanges lease reason)
  else transition lease .terminated (terminatedChanges lease reason)

/-- `_release`. -/
def release (svc : Service) (lease : Lease) (reason : String) : Co Lease :=
  if lease.state = .terminated then .pure lease
  else do
    let t ← now
    if lease.state = .requested ∧ truthy lease.providerResourceId = false then
      transition lease .terminated
        { terminatedChanges lease reason with
          accruedEstimatedCost := some (accruedCost lease t) }
    else if lease.state ≠ .releasing then
      let lease ← transition lease .releasing
        { teardownState := some .pending
          accruedEstimatedCost := some (accruedCost lease t)
          lastProviderError := some none
          terminationReason := some (lease.reasonOr reason) }
      releaseResource svc lease reason
    else releaseResource svc lease reason

/-! ## Readiness -/

/-- `_check_readiness_once`. -/
def checkReadinessOnce (svc : Service) (lease : Lease) : Co RoutedLease := do
  let resource ← .ofExcept (resourceFromLease lease)
  let t ← now
  let accrued := accruedCost lease t
  let observed ←
    (except ((await lease.leaseId (.observe resource)).bind fun found => .pure (.inl found))
      Exn.isManager fun x => do
        let updated ← compareAndSet lease
          { lastProviderError := some (some (svc.texts.sanitizeProviderError x))
            accruedEstimatedCost := some accrued }
        .pure (.inr updated) : Co (ReadinessObservation ⊕ Lease))
  match observed with
  | .inr updated => .pure updated.unrouted
  | .inl observation => do
      let lease ← compareAndSet lease { accruedEstimatedCost := some accrued }
      if lease.hardDeadline ≤ t ∨ overAuthorizedCost lease t = true then
        let released ← release svc lease "deadline_or_cost_cap"
        .pure released.unrouted
      else
        match observation.routeUrl with
        | none => .pure lease.unrouted
        | some routeUrl =>
            if observation.providerReady = false ∨ routeUrl = "" then .pure lease.unrouted
            else if svc.texts.hasModel observation lease.model = false then do
              let lease ← compareAndSet lease
                { modelPullStartedAt := some (lease.modelPullStartedAt.getD t)
                  modelPullAttempts := some (lease.modelPullAttempts + 1)
                  lastProviderError := some none }
              except
                (do
                  await lease.leaseId (.pullModel resource routeUrl lease.model)
                  .pure lease.unrouted)
                Exn.isManager fun x => do
                  let updated ← compareAndSet lease
                    { lastProviderError := some (some (svc.texts.sanitizeProviderError x)) }
                  .pure updated.unrouted
            else do
              let ready ← transition lease .ready
                { readyAt := some t
                  modelReadyAt := some t
                  lastUsedAt := some t
                  idleDeadline := some
                    (min (t + seconds lease.idleTimeoutSeconds) lease.hardDeadline)
                  coldStartSeconds := some
                    (totalSeconds (t - lease.provisioningStartedAt.getD lease.createdAt))
                  lastProviderError := some none }
              .pure ⟨ready, some routeUrl, observation.providerHealthUrl⟩

/-- `_ready_with_route`. -/
def readyWithRoute (svc : Service) (lease : Lease) : Co RoutedLease := do
  let t ← now
  let accrued := accruedCost lease t
  if lease.hardDeadline ≤ t ∨ lease.idleDeadline ≤ t ∨ overAuthorizedCost lease t = true then
    let released ← release svc lease "deadline_or_cost_cap"
    .pure released.unrouted
  else
    let observation ←
      except
        (do
          let resource ← .ofExcept (resourceFromLease lease)
          await lease.leaseId (.observe resource))
        Exn.isManager fun x => do
          let _ ← compareAndSet lease
            { lastProviderError := some (some (svc.texts.sanitizeProviderError x))
              accruedEstimatedCost := some accrued }
          raise (.readiness ("Ollama lease '" ++ lease.leaseId ++
            "' ready route could not be observed"))
    let observation : ReadinessObservation := observation
    if observation.providerReady = false ∨ truthy observation.routeUrl = false ∨
        svc.texts.hasModel observation lease.model = false then do
      let _ ← compareAndSet lease
        { lastProviderError := some (some "ready route did not pass exact-model readiness")
          accruedEstimatedCost := some accrued }
      raise (.readiness ("Ollama lease '" ++ lease.leaseId ++
        "' ready route is temporarily unavailable"))
    else do
      let durable ← compareAndSet lease
        { accruedEstimatedCost := some accrued
          lastProviderError := some none }
      .pure ⟨durable, observation.routeUrl, observation.providerHealthUrl⟩

/-- `_wait_until_ready`. -/
def waitUntilReady (svc : Service) : Nat → Lease → Co RoutedLease
  | 0, _ => .stall
  | fuel + 1, lease =>
      if lease.state ≠ .waitingForModel then .pure lease.unrouted
      else do
        let checked ← checkReadinessOnce svc lease
        let lease := checked.lease
        if lease.state = .ready then .pure checked
        else do
          let t ← now
          if lease.state = .waitingForModel ∧
              (lease.hardDeadline ≤ t ∨ overAuthorizedCost lease t = true) then
            let released ← release svc lease "deadline_or_cost_cap"
            .pure released.unrouted
          else if lease.readinessDeadline ≤ t then do
            except ((release svc lease "readiness_timeout").bind fun _ => .pure ())
              Exn.isTeardown fun _ => .pure ()
            raise (.readiness ("Ollama lease '" ++ lease.leaseId ++
              "' did not become model-ready"))
          else do
            await lease.leaseId .sleep
            waitUntilReady svc fuel lease

/-! ## Acquisition -/

/-- The checks of `acquire` on a request that has no lease yet. -/
def admitRequest (request : LeaseRequest) (t : Instant) : Except Exn Unit :=
  if request.hardDeadline ≤ t then
    .error (.valueError "Ollama lease hard_deadline must be in the future")
  else if (totalSeconds (request.hardDeadline - t)).lt
      (.finite request.expectedSessionSeconds) = true then
    .error (.valueError "Expected Ollama session exceeds its hard deadline")
  else if min (request.requestedAt.getD t + seconds request.readinessTimeoutSeconds)
      request.hardDeadline ≤ t then
    .error (.valueError "Ollama readiness deadline has already elapsed")
  else .ok ()

/-- `acquire`. -/
def acquire (svc : Service) (request : LeaseRequest) (wait : Bool)
    (plan : Option PlacementPlan) : Co RoutedLease := do
  let t ← now
  let existing ← getLease request.leaseId
  .ofExcept (if existing = none then admitRequest request t else .ok ())
  let (lease, inserted) ← insertRequest request t
  (if inserted then .pure () else authorize lease request.ownerId request.workloadId : Co Unit)
  if lease.state = .ready then readyWithRoute svc lease
  else if lease.state = .requested ∧ min lease.readinessDeadline lease.hardDeadline ≤ t then
    let released ← release svc lease "expired"
    .pure released.unrouted
  else do
    let lease ←
      (if lease.state = .requested then provisionRequested svc lease request plan
      else if lease.state = .provisioning ∨ lease.state = .reconcileRequired then
        reconcileCreation svc lease
      else .pure lease : Co Lease)
    if lease.state = .waitingForModel ∧ wait = true then waitUntilReady svc svc.fuel lease
    else .pure lease.unrouted

/-- `get`. -/
def get (svc : Service) (leaseId ownerId workloadId : String) : Co RoutedLease := do
  let lease ← required leaseId
  authorize lease ownerId workloadId
  if lease.state = .ready then readyWithRoute svc lease else .pure lease.unrouted

/-- `touch`. -/
def touch (svc : Service) (leaseId ownerId workloadId : String) : Co RoutedLease := do
  let lease ← required leaseId
  authorize lease ownerId workloadId
  if lease.state = .failed ∨ lease.state = .releasing ∨ lease.state = .terminated then
    .pure lease.unrouted
  else if lease.state ≠ .ready then
    raise (.manager "Only a ready Ollama lease can be marked used")
  else do
    let routed ← readyWithRoute svc lease
    let lease := routed.lease
    if lease.state ≠ .ready then .pure routed
    else do
      let t ← now
      let accrued := accruedCost lease t
      if lease.hardDeadline ≤ t ∨ overAuthorizedCost lease t = true then
        let released ← release svc lease "deadline_or_cost_cap"
        .pure released.unrouted
      else do
        let touched ← compareAndSet lease
          { lastUsedAt := some t
            idleDeadline := some
              (min (t + seconds lease.idleTimeoutSeconds) lease.hardDeadline)
            accruedEstimatedCost := some accrued }
        .pure { routed with lease := touched }

/-- `release`, for a caller. -/
def callerRelease (svc : Service) (leaseId ownerId workloadId : String) : Co Lease := do
  let lease ← required leaseId
  authorize lease ownerId workloadId
  release svc lease "caller_release"

/-! ## Reconciliation -/

/-- What `_reconcile_one` does with a lease that was created or needs no creation. -/
def reconcileCreated (svc : Service) (lease : Lease) (t : Instant) : Co RoutedLease :=
  if lease.hardDeadline ≤ t ∨ (lease.state = .ready ∧ lease.idleDeadline ≤ t) ∨
      overAuthorizedCost lease t = true ∨
      ((lease.state = .provisioning ∨ lease.state = .reconcileRequired ∨
        lease.state = .waitingForModel) ∧ lease.readinessDeadline ≤ t) then
    except ((release svc lease "expired").bind fun released => .pure released.unrouted)
      Exn.isTeardown fun _ => (required lease.leaseId).bind fun found => .pure found.unrouted
  else if lease.state = .waitingForModel then checkReadinessOnce svc lease
  else if lease.state = .ready then readyWithRoute svc lease
  else .pure lease.unrouted

/-- `_reconcile_one`. -/
def reconcileOne (svc : Service) (leaseId : String) : Co (Option RoutedLease) := do
  let found ← getLease leaseId
  match found with
  | none => .pure none
  | some lease =>
      if lease.state = .terminated then .pure (some lease.unrouted)
      else do
        let t ← now
        if lease.state = .releasing then
          except ((release svc lease "retry_teardown").bind fun released =>
              .pure (some released.unrouted))
            Exn.isTeardown fun _ => (required lease.leaseId).bind fun found =>
              .pure (some found.unrouted)
        else if lease.state = .requested ∧
            min lease.readinessDeadline lease.hardDeadline ≤ t then
          let released ← release svc lease "expired"
          .pure (some released.unrouted)
        else do
          let lease ←
            (if lease.state = .requested then do
              let request ← .ofExcept (requestFromLease lease)
              provisionRequested svc lease request none
            else .pure lease : Co Lease)
          let lease ←
            (if lease.state = .provisioning ∨ lease.state = .reconcileRequired then
              reconcileCreation svc lease
            else .pure lease : Co Lease)
          let reconciled ← reconcileCreated svc lease t
          .pure (some reconciled)

/-- `_record_reconcile_error`. -/
def recordReconcileError (svc : Service) (leaseId : String) (error : Exn) :
    Co (Option RoutedLease) := do
  let found ← getLease leaseId
  match found with
  | none => .pure none
  | some lease =>
      if lease.state = .terminated then .pure (some lease.unrouted)
      else
        except
          (do
            let updated ← compareAndSet lease
              { lastProviderError :=
                  some (some ("reconcile: " ++ svc.texts.sanitizeProviderError error)) }
            .pure (some updated.unrouted))
          Exn.isConflict fun _ => do
            let current ← getLease leaseId
            .pure (current.map Lease.unrouted)

/-- `reconcile`, over what was listed. -/
def reconcileAll (svc : Service) : List Lease → Co (List RoutedLease)
  | [] => .pure []
  | initial :: rest => do
      let lease ← except (reconcileOne svc initial.leaseId) Exn.isManager fun x =>
        recordReconcileError svc initial.leaseId x
      let results ← reconcileAll svc rest
      .pure (lease.toList ++ results)

/-- `reconcile`. -/
def reconcile (svc : Service) : Co (List RoutedLease) := do
  let listed ← listForReconciliation
  reconcileAll svc listed

/-- `reconcile_lease`. -/
def reconcileLease (svc : Service) (leaseId ownerId workloadId : String) : Co RoutedLease := do
  let lease ← required leaseId
  authorize lease ownerId workloadId
  let reconciled ←
    except
      ((reconcileOne svc leaseId).bind fun reconciled =>
        match reconciled with
        | some lease => .pure (.inl lease)
        | none => .pure (.inr ()))
      Exn.isManager fun x => do
        let recorded ← recordReconcileError svc leaseId x
        match recorded with
        | some lease => .pure (.inl lease)
        | none => raise x
  match (reconciled : RoutedLease ⊕ Unit) with
  | .inl lease => .pure lease
  | .inr () => raise (.manager ("Ollama lease '" ++ leaseId ++ "' was not found"))

/-! ## Tasks -/

/-- A task of the service: one call of one of its entry points. -/
inductive Task
  | acquire (request : LeaseRequest) (wait : Bool) (plan : Option PlacementPlan)
  | get (leaseId ownerId workloadId : String)
  | touch (leaseId ownerId workloadId : String)
  | release (leaseId ownerId workloadId : String)
  | reconcile
  | reconcileLease (leaseId ownerId workloadId : String)

def Task.program (svc : Service) : Task → Co Unit
  | .acquire request wait plan => (Ollama.acquire svc request wait plan).void
  | .get leaseId ownerId workloadId => (Ollama.get svc leaseId ownerId workloadId).void
  | .touch leaseId ownerId workloadId => (Ollama.touch svc leaseId ownerId workloadId).void
  | .release leaseId ownerId workloadId => (callerRelease svc leaseId ownerId workloadId).void
  | .reconcile => (Ollama.reconcile svc).void
  | .reconcileLease leaseId ownerId workloadId =>
      (Ollama.reconcileLease svc leaseId ownerId workloadId).void

end KestrelRunpod.Ollama
