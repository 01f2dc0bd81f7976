import KestrelRunpod.Pod.Service.Teardown

/-!
# Acquisition

The acquisition paths of `PodCapacityLeaseService`: the durable claim, the reuse of an
existing Pod, the creation of a new one, and the wait for readiness.  Each awaited call is
followed by the handlers of the source in the source's order.

`raise … from exc` only records a cause, so a handler that re-raises the exception it caught
is left out.
-/

namespace KestrelRunpod.Pod

open Interleave

/-! ## Shared steps -/

/-- `_raise_after_cleanup`. -/
def raiseAfterCleanup {α : Type} (svc : Service) (lease : Lease) (operation : String) :
    Co α := do
  let released ← releaseOne svc lease.cleanupToken operation
  raise (lifecycleError operation released false)

/-- `_cleanup_cancelled_acquisition`, then the cancellation is raised again. -/
def cleanupCancelledAcquisition {α : Type} (svc : Service) (token operation : String) :
    Co α := do
  let _ ← awaitOwned (releaseOne svc token operation)
  raise .cancelled

/-- `heartbeat`. -/
def heartbeat (token : String) : Co Lease := do
  let lease ← required token
  if lease.isTerminal then raise (lifecycleError "heartbeat" lease false)
  else do
    let heartbeatAt ← now
    compareAndSet lease { lastHeartbeatAt := some heartbeatAt }

/-- `_enforce_readiness_deadline`. -/
def enforceReadinessDeadline (svc : Service) (lease : Lease) : Co Lease := do
  let readAt ← now
  if readAt < min lease.readinessDeadline lease.hardDeadline then .pure lease
  else raiseAfterCleanup svc lease "readiness timeout"

/-! ## Existing Pods -/

/-- The discovery of `_acquire_existing`: a failure releases the claim without a stop. -/
def discoverExisting (svc : Service) (lease : Lease) (pod : String) : Co PodObservation :=
  except (await lease.cleanupToken (.observe pod)) (fun x => x = .cancelled || x.isManager)
    fun x =>
      if x = .cancelled then do
        let _ ← releaseUnownedClaim svc lease none
        raise x
      else do
        let released ← releaseUnownedClaim svc lease (some x)
        raise (lifecycleError "Pod discovery" released false)

/-- The start of `_acquire_existing`, after its intent was persisted. -/
def startExisting (svc : Service) (lease : Lease) (pod : String) (gpuCount : Nat) : Co Unit :=
  except (await lease.cleanupToken (.start pod gpuCount))
    (fun x => x = .cancelled || x.isManager) fun x =>
      if x = .cancelled then
        cleanupCancelledAcquisition svc lease.cleanupToken "Pod start cancellation"
      else do
        let lease ← recordRetryableFailure svc lease x none
        let _ ← releaseOne svc lease.cleanupToken "Pod start failure"
        let current ← required lease.cleanupToken
        raise (lifecycleError "Pod start" current false)

/-- `_acquire_existing`. -/
def acquireExisting (svc : Service) (lease : Lease) (gpuCount : Nat) : Co Lease := do
  let pod ← podId lease
  let observation ← discoverExisting svc lease pod
  if observation.isRunning then do
    let heartbeatAt ← now
    compareAndSet lease
      { ownership := some .preexistingRunning
        state := some .starting
        backendBaseUrl := some observation.backendBaseUrl
        lastHeartbeatAt := some heartbeatAt
        lastProviderError := some none }
  else if observation.isStopped then do
    let heartbeatAt ← now
    let lease ← compareAndSet lease
      { ownership := some .provisional
        state := some .starting
        lastHeartbeatAt := some heartbeatAt }
    startExisting svc lease pod gpuCount
    let current ← required lease.cleanupToken
    let confirmedAt ← now
    compareAndSet current
      { ownership := some .owned
        lastHeartbeatAt := some confirmedAt
        lastProviderError := some none }
  else do
    let released ← releaseUnownedClaim svc lease
      (some (.manager ("Pod is not safely acquirable from state " ++ observation.status)))
    raise (lifecycleError "Pod acquisition" released false)

/-! ## New Pods -/

/-- The create call; a catalog create has to report its placement. -/
def createPod (lease : Lease) : Co CreatedPod := do
  let created ← await lease.cleanupToken (.create lease.resourceName lease.capacitySpec)
  if lease.isCatalogAttempt = true ∧ (created : CreatedPod).realizedPlacement = none then
    raise (.createdMismatch created.providerPodId)
  else .pure created

/-- The handler of a create whose response names a Pod that failed validation. -/
def createMismatched (svc : Service) (lease : Lease) (pod : String) {α : Type} : Co α := do
  let acceptedAt ← now
  let current ← required lease.cleanupToken
  let lease ← transitionWithEvidence lease.cleanupToken
    { providerPodId := some pod
      ownership := some .owned
      creationUncertain := some false
      lastProviderError := some (some (Exn.createdMismatch pod).sanitized)
      lastHeartbeatAt := some acceptedAt }
    { lifecycle := { providerCreateAcceptedAt := some acceptedAt } } none true svc.fuel current
  let released ← releaseOne svc lease.cleanupToken "created Pod validation failure"
  raise (lifecycleError "Pod create validation" released false)

/-- The handler of a create whose outcome is unknown. -/
def createAmbiguous (svc : Service) (lease : Lease) (x : Exn) {α : Type} : Co α := do
  let lease ← recordRetryableFailure svc lease x (some true)
  if lease.isCatalogAttempt then raise (lifecycleError "Pod create" lease true)
  else do
    let _ ← releaseOne svc lease.cleanupToken "ambiguous Pod create"
    let current ← required lease.cleanupToken
    raise (lifecycleError "Pod create" current false)

/-- The release of a lease whose create was rejected. -/
def releaseRejected (svc : Service) (lease : Lease) (changes : Changes) : Co Lease :=
  if lease.isCatalogAttempt then do
    let receipt ← zeroCostReceipt svc lease "create-rejected"
    let reconciledAt ← now
    settleZero svc lease changes receipt reconciledAt
  else do
    let released ← transitionWithEvidence lease.cleanupToken changes {} none true svc.fuel lease
    if released.isCatalogAttempt then revokeAndRelease svc released else .pure released

/-- The handler of a create that the provider definitely rejected. -/
def createRejected (svc : Service) (lease : Lease) (x : Exn) {α : Type} : Co α := do
  let heartbeatAt ← now
  let released ← releaseRejected svc lease
    { state := some .released
      cleanupState := some .complete
      creationUncertain := some false
      lastProviderError := some (some x.sanitized)
      lastHeartbeatAt := some heartbeatAt }
  raise (lifecycleError "Pod create" released false)

/-- The handlers of the create call, in the order of the source. -/
def createFailed (svc : Service) (lease : Lease) (x : Exn) {α : Type} : Co α :=
  match x with
  | .cancelled => do
      let current ← required lease.cleanupToken
      cleanupCancelledAcquisition svc current.cleanupToken "Pod create cancellation"
  | .createdMismatch pod => createMismatched svc lease pod
  | .ambiguous _ => createAmbiguous svc lease x
  | _ => createRejected svc lease x

/-- `_acquire_created`: persist the claim, then create. -/
def acquireCreated (svc : Service) (lease : Lease) : Co Lease := do
  let heartbeatAt ← now
  let lease ← compareAndSet lease
    { state := some .starting
      ownership := some .provisional
      creationUncertain := some true
      lastHeartbeatAt := some heartbeatAt }
  let created ← except (createPod lease) (fun x => x = .cancelled || x.isManager)
    fun x => createFailed svc lease x
  let acceptedAt ← now
  let current ← required lease.cleanupToken
  transitionWithEvidence lease.cleanupToken
    { providerPodId := some created.providerPodId
      ownership := some .owned
      creationUncertain := some false
      lastHeartbeatAt := some acceptedAt
      lastProviderError := some none }
    { lifecycle := { providerCreateAcceptedAt := some acceptedAt }
      realizedPlacement := some created.realizedPlacement }
    none true svc.fuel current

/-! ## Readiness -/

/-- How the guarded part of `_observe_readiness` leaves: with its result, or to promote. -/
inductive Readiness
  | settled (lease : Lease)
  | routeReady (lease : Lease)

/-- The worker's health, once the Pod is running with a route. -/
def probeWorker (svc : Service) (lease : Lease) (url : String) : Co Readiness :=
  except
    (do
      requireWorkloadTransport svc
      let _ ← await lease.cleanupToken (.health url)
      .pure (.routeReady lease))
    Exn.isTransport fun x => do
      let current ← required lease.cleanupToken
      if current.state ≠ .starting then .pure (.settled current)
      else do
        let heartbeatAt ← now
        let unready ← transitionWithEvidence current.cleanupToken
          { lastProviderError := some (some x.sanitized)
            lastHeartbeatAt := some heartbeatAt }
          {} (some [.starting]) true svc.fuel current
        .pure (.settled unready)

/-- The guarded part of `_observe_readiness`: one observation, recorded, then judged. -/
def pollReadiness (svc : Service) (lease : Lease) : Co Readiness := do
  let pod ← podId lease
  let observation ← await lease.cleanupToken (.observe pod)
  let observation : PodObservation := observation
  let current ← required lease.cleanupToken
  if current.state ≠ .starting then .pure (.settled current)
  else do
    let observedAt ← now
    let lease ← transitionWithEvidence current.cleanupToken
      { backendBaseUrl := some observation.backendBaseUrl
        lastHeartbeatAt := some observedAt
        lastProviderError := some none }
      { lifecycle :=
          if observation.isRunning then { firstRunningObservedAt := some observedAt } else {} }
      (some [.starting]) true svc.fuel current
    if lease.state ≠ .starting then .pure (.settled lease)
    else if observation.isFailed = true ∨ observation.isStopped = true then
      raiseAfterCleanup svc lease "readiness"
    else
      match observation.isRunning, observation.backendBaseUrl with
      | true, some url =>
          if url = "" then .pure (.settled lease)
          else if lease.isCatalogAttempt then probeWorker svc lease url
          else .pure (.routeReady lease)
      | _, _ => .pure (.settled lease)

/-- The handlers of `_observe_readiness`. -/
def readinessFailed (svc : Service) (token : String) (x : Exn) : Co Readiness :=
  if x = .cancelled then cleanupCancelledAcquisition svc token "readiness cancellation"
  else if x.isLifecycle then raise x
  else do
    let current ← required token
    let lease ← recordRetryableFailure svc current x none
    raiseAfterCleanup svc lease "readiness observation"

/-- `_observe_readiness`. -/
def observeReadiness (svc : Service) (token : String) : Co Lease := do
  let lease ← required token
  if lease.state ≠ .starting then .pure lease
  else do
    let lease ← enforceReadinessDeadline svc lease
    let readiness ←
      except (pollReadiness svc lease) (fun x => x = .cancelled || x.isManager)
        (readinessFailed svc token)
    match readiness with
    | .settled lease => .pure lease
    | .routeReady _ => do
        let current ← required token
        if current.state ≠ .starting then .pure current
        else do
          let current ← enforceReadinessDeadline svc current
          let readyAt ← now
          transitionWithEvidence current.cleanupToken
            { state := some .ready, lastHeartbeatAt := some readyAt }
            { lifecycle := { workerReadyAt := some readyAt } }
            (some [.starting]) true svc.fuel current

/-- `_wait_ready`. -/
def waitReady (svc : Service) : Nat → Lease → Co Lease
  | 0, _ => .stall
  | fuel + 1, lease => do
      let lease ← observeReadiness svc lease.cleanupToken
      if lease.state ≠ .starting then .pure lease
      else do
        let _ ← except (await lease.cleanupToken .sleep) (fun x => x = .cancelled) fun _ =>
          cleanupCancelledAcquisition svc lease.cleanupToken "readiness cancellation"
        waitReady svc fuel lease

/-! ## Entry points -/

/-- The Pod of a freshly claimed row, by its source. -/
def acquirePod (svc : Service) (source : Source) (lease : Lease) (gpuCount : Nat) : Co Lease :=
  if source = .created then acquireCreated svc lease else acquireExisting svc lease gpuCount

/-- `_acquire`. -/
def acquireLease (svc : Service) (request : PodRequest) (waitForReady : Bool) : Co Lease := do
  if (request.capacitySpec.any fun spec =>
      spec.request.artifactHandoffProtocolVersion ≠ some 1) = true then
    raise (.manager "Historical catalog capacity cannot be acquired for new work")
  else
    .perform (.reserve request) fun (reply : Except Exn (Lease × Bool)) => do
      let (lease, inserted) ← .ofExcept reply
      if inserted = false then
        if lease.state = .ready then heartbeat lease.cleanupToken
        else raise (.conflict ("Training cleanup token '" ++ request.cleanupToken ++
          "' is already in state " ++ lease.state.value ++ "; reconcile it"))
      else do
        let gpuCount ← profile svc lease.profileId
        let lease ← acquirePod svc request.source lease gpuCount
        if waitForReady then waitReady svc svc.fuel lease else .pure lease

/-- `acquire`. -/
def acquire (svc : Service) (request : PodRequest) : Co Lease := acquireLease svc request true

/-- `durable_pod_capacity_name`. -/
def durablePodCapacityName (d : Digests) (capacityId requestFingerprint : String) : String :=
  "kestrel-cap-" ++ String.ofList ((d.text capacityId).toList.take 12) ++ "-" ++
    String.ofList (requestFingerprint.toList.take 12)

/-- `CatalogPodCapacityRequest.resource_name`. -/
def CapacityRequest.resourceName (d : Digests) (request : CapacityRequest) : String :=
  durablePodCapacityName d request.capacityId (d.capacityRequest request)

/-- The training request that `_acquire_catalog` reserves. -/
def catalogPodRequest (d : Digests) (request : CapacityRequest) (spec : CapacitySpec) :
    Except Exn PodRequest :=
  PodRequest.build
    { cleanupToken := request.capacityId
      companionId := request.ownerId
      profileId := request.profileId
      source := .created
      resourceName := request.resourceName d
      providerPodId := none
      createdAt := request.createdAt
      readinessDeadline := request.readinessDeadline
      hardDeadline := request.hardDeadline
      rootCleanupToken := request.cleanupFamilyId
      capacitySpec := some spec }

/-- The replay branch of `_acquire_catalog`: a row for this capacity exists. -/
def replayCatalog (svc : Service) (request : CapacityRequest)
    (environment : List (String × String)) (waitForReady : Bool) (existing : Lease) :
    Co Lease := do
  let spec ← capacitySpec existing
  if svc.digests.capacityRequest spec.request ≠ svc.digests.capacityRequest request ∨
      spec.attemptEnvironmentSha256 ≠ svc.digests.environment environment then
    raise (.conflict ("Pod capacity '" ++ request.capacityId ++
      "' already represents a different request"))
  else if existing.state = .ready ∨ (waitForReady = false ∧ existing.state = .starting ∧
      existing.providerPodId ≠ none ∧ existing.creationUncertain = false) then
    heartbeat existing.cleanupToken
  else
    raise (.conflict ("Pod capacity '" ++ request.capacityId ++ "' is already in state " ++
      existing.state.value ++ "; reconcile it"))

/-- `_acquire_catalog`.  The environment's values travel beside the request. -/
def acquireCatalog (svc : Service) (request : CapacityRequest)
    (environment : List (String × String)) (waitForReady : Bool) : Co Lease := do
  requireWorkloadTransport svc
  if request.artifactHandoffProtocolVersion ≠ some 1 then
    raise (.manager ("New catalog capacity requires artifact handoff protocol 1; " ++
      "historical capacity is observation and cleanup only"))
  else do
    let existing ← getLease request.capacityId
    match existing with
    | some existing => replayCatalog svc request environment waitForReady existing
    | none => do
        let readAt ← now
        if readAt < request.createdAt ∨ request.createdAt < request.quote.observedAt then
          raise (.manager "Catalog Pod request or quote is from the future")
        else if request.quote.expiresAt ≤ readAt then
          raise (.manager "Catalog Pod capacity quote has expired")
        else do
          requireCapabilityStore svc
          let capability ← await request.capacityId
            (.loadOrCreate request.attemptId request.bearerExpiresAt)
          let capability : Capability := capability
          validateCapability request capability
          let admittedAt ← now
          if min request.quote.expiresAt (min request.readinessDeadline request.hardDeadline) ≤
              admittedAt then
            raise (.manager "Catalog Pod authorization expired before creation")
          else do
            let spec ← .ofExcept (CapacitySpec.build
              { request := request
                capabilitySecretId := capability.secretId
                capabilityTokenSha256 := capability.tokenSha256
                capabilityExpiresAt := capability.expiresAt
                attemptEnvironmentSha256 := svc.digests.environment environment })
            let internal ← .ofExcept (catalogPodRequest svc.digests request spec)
            acquireLease svc internal waitForReady

/-- `get_catalog_capacity`, and `_catalog_lease`. -/
def catalogLease (capacityId ownerId workloadId : String) : Co Lease := do
  let found ← getLease capacityId
  match found with
  | none => raise (.manager ("Catalog Pod capacity '" ++ capacityId ++ "' was not found"))
  | some lease => do
      let spec ← capacitySpec lease
      if spec.request.ownerId ≠ ownerId ∨ spec.request.workloadId ≠ workloadId then
        raise (.conflict "Pod capacity owner/workload identity does not match the lease")
      else .pure lease

/-- `poll_catalog_readiness`. -/
def pollCatalogReadiness (svc : Service) (capacityId ownerId workloadId : String) :
    Co Lease := do
  let lease ← catalogLease capacityId ownerId workloadId
  if lease.state ≠ .starting then .pure lease
  else if lease.providerPodId = none ∨ lease.creationUncertain = true then
    raise (.conflict "Catalog Pod readiness requires a reconciled provider identity")
  else do
    let lease ← heartbeat capacityId
    let _ ← profile svc lease.profileId
    observeReadiness svc lease.cleanupToken

end KestrelRunpod.Pod
