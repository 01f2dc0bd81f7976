import KestrelRunpod.Pod.Service.Acquisition

/-!
# Workload

What happens to an acquired lease while it works: the job bookkeeping of training leases,
and the submission, observation, artifact handoff and cancellation of catalog attempts.
-/

namespace KestrelRunpod.Pod

open Interleave

/-! ## Training leases -/

/-- `_require_legacy_training_mutation`. -/
def requireLegacyTrainingMutation (lease : Lease) : Co Unit :=
  if (lease.capacitySpec.any fun spec =>
      spec.request.artifactHandoffProtocolVersion = some 1) = true then
    raise (.manager "Protocol-1 catalog work requires the authenticated catalog lifecycle")
  else .pure ()

/-- `record_job`. -/
def recordJob (token providerJobId : String) : Co Lease :=
  if providerJobId = "" then
    raise (.valueError "Training provider_job_id must be non-empty")
  else do
    let lease ← required token
    requireLegacyTrainingMutation lease
    if lease.state ≠ .ready ∧ lease.state ≠ .jobSubmitted then
      raise (.manager ("Training cleanup token '" ++ token ++ "' is not ready for submission"))
    else if lease.providerJobId ≠ none ∧ lease.providerJobId ≠ some providerJobId then
      raise (.conflict ("Training cleanup token '" ++ token ++ "' already owns another job"))
    else do
      let heartbeatAt ← now
      compareAndSet lease
        { state := some .jobSubmitted
          providerJobId := some providerJobId
          lastHeartbeatAt := some heartbeatAt
          lastProviderError := some none }

/-- `record_operation_error`. -/
def recordOperationError (svc : Service) (token : String) (error : Exn) : Co Lease := do
  let lease ← required token
  if lease.isTerminal then .pure lease
  else do
    let heartbeatAt ← now
    transitionNonterminal lease.cleanupToken
      { lastHeartbeatAt := some heartbeatAt, lastProviderError := some (some error.sanitized) }
      svc.fuel lease

/-- The state a reported training status stands for, if it ends the job. -/
def statusState (status : String) : Option PodState :=
  let normalized := (strip status).toLower
  if ["completed", "succeeded"].contains normalized then some .jobCompleted
  else if ["cancelled", "canceled", "failed"].contains normalized then some .cancelRequested
  else none

/-- `record_status`. -/
def recordStatus (svc : Service) (token status : String) : Co Lease := do
  let lease ← required token
  requireLegacyTrainingMutation lease
  if lease.isTerminal then .pure lease
  else do
    let heartbeatAt ← now
    transitionNonterminal lease.cleanupToken
      { lastHeartbeatAt := some heartbeatAt
        lastProviderError := some none
        state := statusState status }
      svc.fuel lease

/-- `record_result_retrieved`. -/
def recordResultRetrieved (token : String) : Co Lease := do
  let lease ← required token
  requireLegacyTrainingMutation lease
  if lease.state ≠ .jobSubmitted ∧ lease.state ≠ .jobCompleted then
    raise (.manager ("Training cleanup token '" ++ token ++ "' has no completed result"))
  else do
    let heartbeatAt ← now
    compareAndSet lease
      { state := some .resultRetrieved
        lastHeartbeatAt := some heartbeatAt
        lastProviderError := some none }

/-- `request_cancellation`. -/
def requestCancellation (token : String) : Co Lease := do
  let lease ← required token
  if lease.isTerminal then .pure lease
  else do
    let heartbeatAt ← now
    compareAndSet lease
      { state := some .cancelRequested
        lastHeartbeatAt := some heartbeatAt
        workloadState := if lease.isCatalogAttempt then some .cancelRequested else none }

/-! ## Observations of a catalog workload -/

/-- `_catalog_result_ready`. -/
def catalogResultReady (spec : CapacitySpec) (lease : Lease) : Bool :=
  if spec.request.artifactHandoffProtocolVersion = none then lease.workloadState = .succeeded
  else lease.workloadState = .awaitingAck || lease.workloadState = .acknowledged

/-- The order in which a handoff can only move forward. -/
def WorkloadState.rank : WorkloadState → Option Nat
  | .notSubmitted => some 0
  | .idle => some 0
  | .running => some 1
  | .succeeded => some 2
  | .awaitingAck => some 2
  | .acknowledged => some 3
  | _ => none

/-- The handoff evidence after an observation that reports a handoff phase. -/
def observedHandoff (spec : CapacitySpec) (lease : Lease) (observation : Observation)
    (observedAt : Instant) : Except Exn (Option Handoff) :=
  if observation.state = .awaitingAck ∨ observation.state = .acknowledged then do
    let binding ← Handoff.build
      { attemptId := observation.attemptId
        requestSha256 := spec.request.requestSha256
        resultSha256 := observation.resultSha256.getD ""
        receiptSha256 := observation.receiptSha256.getD "" }
    refuse ((lease.artifactHandoff.any fun handoff =>
        handoff.resultSha256 ≠ binding.resultSha256 ∨
          handoff.receiptSha256 ≠ binding.receiptSha256) = true)
      (.conflict "Catalog Pod observed artifact handoff changed")
    let handoff := lease.artifactHandoff.getD binding
    if observation.state = .acknowledged then do
      refuse (handoff.acknowledgementSha256 = none ∨
          handoff.acknowledgementSha256 ≠ observation.acknowledgementSha256)
        (.conflict "Catalog Pod ACK lacks matching persisted host intent")
      let acknowledged ← Handoff.build
        { handoff.toHandoffFields with
          remoteAckObservedAt := handoff.remoteAckObservedAt.or (some observedAt) }
      pure (some acknowledged)
    else pure (some handoff)
  else pure lease.artifactHandoff

/-- The state, job and lifecycle instants an observation stands for. -/
def observedProgress (observation : Observation) (submitted : Bool) (observedAt : Instant)
    (proof : Changes) : Changes × Phases :=
  let changes : Changes :=
    { proof with
      workloadState := some observation.state
      workloadErrorType := some observation.errorType
      lastProviderError := some none
      lastHeartbeatAt := some observedAt }
  let phases : Phases := if submitted then { workloadSubmittedAt := some observedAt } else {}
  match observation.state with
  | .running =>
      ({ changes with
          state := some .jobSubmitted, providerJobId := some observation.attemptId },
        { phases with workloadRunningAt := some observedAt })
  | .succeeded | .awaitingAck | .acknowledged =>
      ({ changes with
          state := some .jobCompleted, providerJobId := some observation.attemptId },
        { phases with workloadTerminalAt := some observedAt })
  | .failed | .cancelled =>
      ({ changes with state := some .cancelRequested },
        { phases with workloadTerminalAt := some observedAt })
  | .cancelRequested => ({ changes with state := some .cancelRequested }, phases)
  | .notSubmitted | .idle => (changes, phases)

/-- The row no longer takes workload progress: it is stopped, finished or not yet ready. -/
def Lease.refusesProgress (lease : Lease) : Bool :=
  lease.isTerminal ||
    !([PodState.ready, .jobSubmitted, .jobCompleted].contains lease.state) ||
    lease.workloadState = .cancelRequested

/-- A delayed observation would move the workload backwards. -/
def regresses (lease : Lease) (observation : Observation) : Bool :=
  match observation.state.rank with
  | none => false
  | some observed => observed < lease.workloadState.rank.getD 4

/-- `_catalog_observation_changes`. -/
def catalogObservationChanges (lease : Lease) (spec : CapacitySpec) (observation : Observation)
    (submitted : Bool) (observedAt : Instant) : Except Exn (Changes × Phases) := do
  let protocol := spec.request.artifactHandoffProtocolVersion
  refuse (protocol = some 1 ∧ observation.state = .succeeded)
    (.conflict "Protocol-1 workload success requires an artifact handoff")
  refuse (protocol = none ∧
      (observation.state = .awaitingAck ∨ observation.state = .acknowledged))
    (.conflict "Historical workload cannot be upgraded by an observed payload")
  let handoff ← observedHandoff spec lease observation observedAt
  let proof : Changes :=
    if handoff ≠ lease.artifactHandoff then { artifactHandoff := handoff } else {}
  if lease.refusesProgress then pure (proof, {})
  else if regresses lease observation then pure (proof, {})
  else pure (observedProgress observation submitted observedAt proof)

/-- What the recording loop does with one attempt: keep its row, or read again. -/
inductive Recorded
  | done (lease : Lease)
  | again

/-- The update of `_record_catalog_observation`; only a conflict of the write is retried. -/
def writeObservation (svc : Service) (lease : Lease) (changes : Changes) (lifecycle : Phases) :
    Co Recorded :=
  except
    ((if lease.isTerminal then compareAndSet lease changes
      else
        transitionWithEvidence lease.cleanupToken changes { lifecycle := lifecycle } none false
          svc.fuel lease).bind fun lease => .pure (.done lease))
    Exn.isConflict fun _ => .pure .again

/-- `_record_catalog_observation`. -/
def recordCatalogObservation (svc : Service) (capacityId : String) (observation : Observation)
    (submitted : Bool) : Nat → Co Lease
  | 0 => .stall
  | fuel + 1 => do
      let lease ← required capacityId
      let spec ← capacitySpec lease
      if observation.attemptId ≠ spec.request.attemptId ∨
          observation.requestSha256 ≠ some spec.request.requestSha256 then
        raise (.conflict
          "Catalog workload observation does not match the exact attempt binding")
      else do
        let observedAt ← now
        let (changes, lifecycle) ←
          .ofExcept (catalogObservationChanges lease spec observation submitted observedAt)
        if changes = {} then .pure lease
        else do
          let recorded ← writeObservation svc lease changes lifecycle
          match recorded with
          | .done lease => .pure lease
          | .again => recordCatalogObservation svc capacityId observation submitted fuel

/-! ## Submission and observation -/

/-- `_load_capability`. -/
def loadCapability (svc : Service) (token : String) (spec : CapacitySpec) : Co Unit := do
  requireCapabilityStore svc
  let loaded ← await token (.load spec.request.attemptId)
  match (loaded : Option Capability) with
  | none => raise (.manager "Catalog Pod capability is unavailable")
  | some capability => do
      validateCapability spec.request capability
      if capability.secretId ≠ spec.capabilitySecretId ∨
          capability.tokenSha256 ≠ spec.capabilityTokenSha256 then
        raise (.manager "Catalog Pod capability does not match the durable lease")
      else do
        let readAt ← now
        if capability.expiresAt ≤ readAt then
          raise (.manager "Catalog Pod capability has expired")
        else .pure ()

/-- `_submission_lease`. -/
def submissionLease (capacityId ownerId workloadId : String) : Co Lease := do
  let lease ← catalogLease capacityId ownerId workloadId
  let spec ← capacitySpec lease
  if spec.request.artifactHandoffProtocolVersion ≠ some 1 then
    raise (.manager "Historical catalog capacity cannot accept new workload submissions")
  else if lease.state ≠ .ready ∧ lease.state ≠ .jobSubmitted then
    raise (.manager ("Pod capacity '" ++ capacityId ++
      "' is not ready for workload submission"))
  else do
    let readAt ← now
    if lease.hardDeadline ≤ readAt then
      raise (.manager "Catalog Pod submission hard deadline has expired")
    else .pure lease

/-- `submit_catalog_workload`. -/
def submitCatalogWorkload (svc : Service) (capacityId ownerId workloadId : String) :
    Co Observation := do
  let lease ← submissionLease capacityId ownerId workloadId
  let spec ← capacitySpec lease
  loadCapability svc lease.cleanupToken spec
  -- The capability may have been awaited across a stop: read the row again.
  let lease ← submissionLease capacityId ownerId workloadId
  requireWorkloadTransport svc
  let url ← route lease
  let observation ← await lease.cleanupToken
    (.submit url spec.request.attemptId spec.request.requestSha256)
  let observation : Observation := observation
  let _ ← recordCatalogObservation svc lease.cleanupToken observation true svc.fuel
  .pure observation

/-- `observe_catalog_workload`; the observation it returns is not read by the service. -/
def observeCatalogWorkload (svc : Service) (capacityId ownerId workloadId : String) :
    Co Unit := do
  let lease ← catalogLease capacityId ownerId workloadId
  let spec ← capacitySpec lease
  loadCapability svc lease.cleanupToken spec
  requireWorkloadTransport svc
  let url ← route lease
  let observation ← await lease.cleanupToken
    (.status url spec.request.attemptId spec.request.requestSha256)
  let observation : Observation := observation
  let updated ← recordCatalogObservation svc capacityId observation false svc.fuel
  if updated.workloadState = .cancelRequested then do
    let _ ← release svc capacityId "cancelled catalog attempt"
    .pure ()
  else if updated.workloadState = .failed ∨ updated.workloadState = .cancelled then do
    let _ ← release svc capacityId "terminal catalog workload"
    .pure ()
  else .pure ()

/-- `retrieve_catalog_result`. -/
def retrieveCatalogResult (svc : Service) (capacityId ownerId workloadId : String) :
    Co (List (String × Json)) := do
  let lease ← catalogLease capacityId ownerId workloadId
  let spec ← capacitySpec lease
  if catalogResultReady spec lease = false then
    raise (.manager "Catalog Pod result is not ready")
  else do
    loadCapability svc lease.cleanupToken spec
    let lease ← heartbeat lease.cleanupToken
    requireWorkloadTransport svc
    let url ← route lease
    let payload ← await lease.cleanupToken (.result url spec.request.attemptId
      spec.request.requestSha256 spec.request.artifactHandoffProtocolVersion)
    let payload : List (String × Json) := payload
    let current ← required capacityId
    if current.workloadState = .cancelRequested then do
      let _ ← release svc capacityId "late result after cancellation"
      raise (.manager "Cancelled catalog attempt cannot accept a result")
    else if spec.request.artifactHandoffProtocolVersion = some 1 then
      match Json.get payload "receipt", current.artifactHandoff with
      | some (.obj receipt), some handoff =>
          if Json.hasText receipt "result_sha256" handoff.resultSha256 = true ∧
              Json.hasText receipt "receipt_sha256" handoff.receiptSha256 = true then
            .pure payload
          else raise (.conflict "Catalog result receipt differs from observed handoff")
      | _, _ => raise (.conflict "Catalog result receipt differs from observed handoff")
    else .pure payload

/-- The worker reports a process start that is later than the clock. -/
def startsInFuture (worker : WorkerEvidence) : Co Bool :=
  match worker.containerProcessStartedAt with
  | none => .pure false
  | some startedAt => do
      let readAt ← now
      .pure (decide (readAt < startedAt))

/-- `record_catalog_worker_evidence`, with the envelope already parsed. -/
def recordCatalogWorkerEvidence (svc : Service) (capacityId ownerId workloadId : String)
    (envelope : Except Exn WorkerEvidence) : Co Lease := do
  let lease ← catalogLease capacityId ownerId workloadId
  let spec ← capacitySpec lease
  match lease.evidence with
  | none => raise (.manager "Legacy Pod capacity has explicit missing realized evidence")
  | some evidence => do
      let worker ← .ofExcept envelope
      if worker.attemptId ≠ spec.request.attemptId ∨
          worker.requestSha256 ≠ spec.request.requestSha256 ∨
          worker.imageDigest ≠ spec.request.imageDigest then
        raise (.conflict "Catalog worker evidence does not match the exact attempt binding")
      else if catalogResultReady spec lease = false then
        raise (.manager "Catalog worker evidence cannot be accepted before workload success")
      else do
        let premature ← startsInFuture worker
        if premature then
          raise (.manager "Catalog worker process-start evidence is from the future")
        else
          match evidence.worker with
          | some recorded =>
              if recorded ≠ worker then
                raise (.conflict "Catalog worker evidence was already recorded differently")
              else .pure lease
          | none =>
              if lease.isTerminal then
                raise (.manager "Terminal catalog capacity cannot accept new worker evidence")
              else do
                let heartbeatAt ← now
                transitionWithEvidence lease.cleanupToken
                  { lastHeartbeatAt := some heartbeatAt } { worker := some worker } none true
                  svc.fuel lease

/-! ## Artifact handoff -/

/-- `_require_catalog_ack_admission`. -/
def requireCatalogAckAdmission (lease : Lease) (beforeDispatch : Bool) : Co Unit := do
  let spec ← capacitySpec lease
  if lease.isTerminal = true ∨ lease.state ≠ .jobCompleted ∨
      catalogResultReady spec lease = false then
    raise (.manager (if beforeDispatch then
        "Catalog Pod acknowledgement was stopped before dispatch"
      else "Catalog Pod result cannot be acknowledged in its current state"))
  else do
    let readAt ← now
    if lease.hardDeadline ≤ readAt then
      raise (.manager "Catalog Pod acknowledgement hard deadline has expired")
    else .pure ()

/-- The intent loop of `_acknowledge_catalog_result`: the row with the proof already there,
or the row with the intent just persisted. -/
def persistIntent (svc : Service) (capacityId ownerId workloadId : String)
    (payload : List (String × Json)) : Nat → Co (Lease × Bool)
  | 0 => .stall
  | fuel + 1 => do
      let lease ← catalogLease capacityId ownerId workloadId
      match lease.artifactHandoff with
      | none => raise (.manager "Catalog result has no observed artifact handoff")
      | some evidence =>
          match evidence.bindAcknowledgement svc.digests payload with
          | .error _ =>
              raise (.conflict
                "Catalog acknowledgement does not match the exact persisted handoff")
          | .ok intent =>
              if intent.remoteAckObservedAt ≠ none then .pure (lease, true)
              else do
                requireCatalogAckAdmission lease false
                let written ←
                  except
                    ((compareAndSet lease { artifactHandoff := some intent }).bind
                      fun lease => .pure (some lease))
                    Exn.isConflict fun _ => .pure none
                match written with
                | some lease => .pure (lease, false)
                | none => persistIntent svc capacityId ownerId workloadId payload fuel

/-- The request that delivers an acknowledgement, alone or in a recovery envelope. -/
def deliverAcknowledgement (token url : String) (spec : CapacitySpec)
    (payload : List (String × Json)) : Option (List (String × Json)) → Co Observation
  | none => await token
      (.acknowledge url spec.request.attemptId spec.request.requestSha256 payload)
  | some envelope => await token
      (.recoverHandoff url spec.request.attemptId spec.request.requestSha256 envelope)

/-- `_acknowledge_catalog_result`. -/
def acknowledgeHandoff (svc : Service) (capacityId ownerId workloadId : String)
    (payload : List (String × Json)) (recovery : Option (List (String × Json))) : Co Lease := do
  let (lease, proven) ← persistIntent svc capacityId ownerId workloadId payload svc.fuel
  if proven then .pure lease
  else do
    let spec ← capacitySpec lease
    loadCapability svc lease.cleanupToken spec
    let current ← catalogLease capacityId ownerId workloadId
    requireCatalogAckAdmission current true
    requireWorkloadTransport svc
    let url ← route current
    let observation ← deliverAcknowledgement current.cleanupToken url spec payload recovery
    if observation.state ≠ .acknowledged then
      raise (.conflict "Catalog Pod did not acknowledge the exact host intent")
    else recordCatalogObservation svc capacityId observation false svc.fuel

/-- The instant of the first host confirmation. -/
def declarationInstant (handoff : Handoff) : Co Instant :=
  match handoff.hostConfirmationDeclaredAt with
  | some declaredAt => .pure declaredAt
  | none => now

/-- The handoff with the host confirmation declared. -/
def confirmHandoff (handoff : Handoff) : Co Handoff := do
  let declaredAt ← declarationInstant handoff
  .ofExcept (Handoff.build
    { handoff.toHandoffFields with hostConfirmationDeclaredAt := some declaredAt })

/-- The confirmation that a protocol-1 release persists. -/
def hostConfirmation (spec : CapacitySpec) (lease : Lease) : Co (Option Handoff) :=
  match lease.artifactHandoff with
  | none => .pure none
  | some handoff =>
      if spec.request.artifactHandoffProtocolVersion = some 1 then do
        let confirmed ← confirmHandoff handoff
        .pure (some confirmed)
      else .pure none

/-- `release_catalog_result`. -/
def releaseCatalogResult (svc : Service) (capacityId ownerId workloadId : String)
    (hostConfirmed : Option String) : Co Lease := do
  let lease ← catalogLease capacityId ownerId workloadId
  let spec ← capacitySpec lease
  let protocol := spec.request.artifactHandoffProtocolVersion
  if protocol = some 1 ∧ (lease.artifactHandoff.all fun evidence =>
      evidence.remoteAckObservedAt = none ∨ hostConfirmed ≠ evidence.acknowledgementSha256) =
        true then
    raise (.conflict
      "Catalog result release requires the exact durably confirmed remote acknowledgement")
  else if protocol ≠ some 1 ∧ hostConfirmed ≠ none then
    raise (.conflict "Historical catalog result has no protocol-1 acknowledgement")
  else if catalogResultReady spec lease = false then
    raise (.manager "Catalog Pod result cannot be acknowledged before success")
  else
    let unconfirmed : Bool := protocol = some 1 ∧
      (lease.artifactHandoff.bind fun evidence => evidence.hostConfirmationDeclaredAt) = none
    if lease.isTerminal then
      if unconfirmed then
        raise (.conflict "Catalog host confirmation was not declared before cleanup")
      else .pure lease
    else do
      if lease.state = .jobCompleted then do
        let confirmation ← hostConfirmation spec lease
        let heartbeatAt ← now
        let _ ← compareAndSet lease
          { artifactHandoff := confirmation
            state := some .resultRetrieved
            lastHeartbeatAt := some heartbeatAt
            lastProviderError := some none }
        release svc capacityId "catalog result durably confirmed by host"
      else if lease.state ≠ .resultRetrieved ∧ lease.state ≠ .releasing then
        raise (.manager
          "Catalog Pod result acknowledgement is inconsistent with lease state")
      else if unconfirmed then
        raise (.conflict "Catalog host confirmation was not declared before cleanup")
      else release svc capacityId "catalog result durably confirmed by host"

/-- `acknowledge_catalog_result`. -/
def acknowledgeCatalogResult (svc : Service) (capacityId ownerId workloadId : String)
    (acknowledgement : Option (List (String × Json))) : Co Lease := do
  let lease ← catalogLease capacityId ownerId workloadId
  let spec ← capacitySpec lease
  if spec.request.artifactHandoffProtocolVersion = none then
    if acknowledgement.isSome then
      raise (.manager "Historical catalog capacity cannot accept a protocol-1 ACK")
    else releaseCatalogResult svc capacityId ownerId workloadId none
  else
    match acknowledgement with
    | none =>
        raise (.manager "Catalog artifact handoff requires the exact host acknowledgement")
    | some acknowledgement => do
        let payload ← .ofExcept (canonicalAcknowledgement acknowledgement)
        awaitOwned (acknowledgeHandoff svc capacityId ownerId workloadId payload none)

/-- `snapshot_catalog_handoff_recovery`: the acknowledgement of a recovery envelope. -/
def snapshotRecovery (envelope : List (String × Json)) (attemptId requestSha256 : String)
    (imageDigest : String) : Except Exn (List (String × Json)) := do
  refuse (Json.finiteFields envelope = false)
    (.valueError "Catalog handoff recovery must be canonicalizable JSON")
  refuse (¬ ((envelope.all fun field =>
      field.1 = "handoff" || field.1 = "acknowledgement") = true ∧
      (Json.get envelope "handoff").isSome = true ∧
      (Json.get envelope "acknowledgement").isSome = true))
    (.valueError "Catalog handoff recovery fields differ")
  match Json.get envelope "handoff", Json.get envelope "acknowledgement" with
  | some (.obj handoff), some (.obj ack) => do
      let digestOk (name : String) : Bool :=
        match Json.get ack name with
        | some (.str digest) => isSha256 digest
        | _ => false
      refuse (digestOk "result_sha256" = false ∨ digestOk "receipt_sha256" = false ∨
          digestOk "acknowledgement_sha256" = false)
        (.valueError "Pod capacity recovery digest must be a lowercase SHA-256 digest")
      match Json.get handoff "protocol_version", Json.get handoff "receipt",
          Json.get handoff "result" with
      | some (.int 1), some (.obj receipt), some (.obj result) => do
          let sameDigest (name : String) : Bool :=
            match Json.get receipt name, Json.get ack name with
            | some (.str a), some (.str b) => a = b
            | _, _ => false
          refuse (¬ (Json.hasText receipt "attempt_id" attemptId = true ∧
              Json.hasText receipt "request_sha256" requestSha256 = true ∧
              Json.hasText result "dispatch_attempt_id" attemptId = true ∧
              Json.hasText result "request_sha256" requestSha256 = true ∧
              Json.hasText ack "attempt_id" attemptId = true ∧
              Json.hasText ack "request_sha256" requestSha256 = true ∧
              sameDigest "result_sha256" = true ∧ sameDigest "receipt_sha256" = true ∧
              Json.hasText receipt "image_digest" imageDigest = true))
            (.valueError "Catalog handoff recovery binding does not match")
          pure ack
      | _, _, _ => .error (.valueError "Catalog handoff recovery protocol is invalid")
  | _, _ => .error (.typeError "Catalog handoff recovery envelope is invalid")

/-- `recover_catalog_result`. -/
def recoverCatalogResult (svc : Service) (capacityId ownerId workloadId : String)
    (recovery : List (String × Json)) : Co Lease := do
  let lease ← catalogLease capacityId ownerId workloadId
  let spec ← capacitySpec lease
  if spec.request.artifactHandoffProtocolVersion ≠ some 1 then
    raise (.manager "Historical catalog capacity cannot recover a handoff")
  else do
    let acknowledgement ← .ofExcept (snapshotRecovery recovery spec.request.attemptId
      spec.request.requestSha256 spec.request.imageDigest)
    awaitOwned
      (acknowledgeHandoff svc capacityId ownerId workloadId acknowledgement (some recovery))

/-! ## Cancellation of a catalog attempt -/

/-- The cancellation sent to the worker, best effort. -/
def dispatchCancel (svc : Service) (capacityId : String) (lease : Lease) : Co Unit :=
  match lease.backendBaseUrl with
  | none => .pure ()
  | some url =>
      except
        (do
          let spec ← capacitySpec lease
          loadCapability svc lease.cleanupToken spec
          requireWorkloadTransport svc
          let _ ← await lease.cleanupToken
            (.cancel url spec.request.attemptId spec.request.requestSha256)
          .pure ())
        Exn.isManager fun x => do
          let _ ← recordOperationError svc capacityId x
          .pure ()

/-- `cancel_catalog_workload`. -/
def cancelCatalogWorkload (svc : Service) (capacityId ownerId workloadId : String) :
    Co Lease := do
  let lease ← catalogLease capacityId ownerId workloadId
  if lease.isTerminal then .pure lease
  else do
    let heartbeatAt ← now
    let lease ← compareAndSet lease
      { state := some .cancelRequested
        workloadState := some .cancelRequested
        lastHeartbeatAt := some heartbeatAt }
    dispatchCancel svc capacityId lease
    release svc capacityId "catalog cancellation"

end KestrelRunpod.Pod
