import KestrelRunpod.Pod.World

/-!
# What the service writes

Every update the lease service makes, one constructor for each place of the source that
writes, with the columns it sets, what it adds to the evidence, and what its task knows when
it writes: rows it was shown, clock reads after them, and responses it received.

`leaseContract` says that a task only writes, and only calls the provider and the worker, on
that knowledge.  It is the single interface between the programs of the service and the
invariants of the system.
-/

namespace KestrelRunpod.Pod

open Interleave

/-- What the callers of the service agree on: every lease has its own resource name, and
hosts confirm some acknowledgement digests. -/
structure Callers where
  names : String → String
  distinct : Function.Injective names
  confirms : String → Prop

/-! ## What a task knows -/

/-- The event shows a stored row. -/
def shows (row : Lease) : Event Effects → Prop
  | ⟨.reserve _, reply⟩ => ∃ inserted, reply = .ok (row, inserted)
  | ⟨.get _, reply⟩ => reply = some row
  | ⟨.compareAndSet _ _, reply⟩ => reply = .ok row
  | _ => False

/-- The task has been shown the row. -/
def Shown (h : Past) (row : Lease) : Prop := ∃ e ∈ h, shows row e

/-- The task has been shown a row of `token` with a property. -/
def Known (h : Past) (token : String) (P : Lease → Prop) : Prop :=
  ∃ row, Shown h row ∧ row.cleanupToken = token ∧ P row

/-- The task read the clock as `t` after it had been shown a row of `token` with a
property. -/
def ReadAfter (h : Past) (t : Instant) (token : String) (P : Lease → Prop) : Prop :=
  ∃ later earlier, h = later ++ (⟨.now, t⟩ : Event Effects) :: earlier ∧ Known earlier token P

/-- The task made the call for the lease and received this outcome. -/
def Replied (h : Past) (token : String) (call : Call) (outcome : Except Exn call.Value) :
    Prop :=
  ∃ id : Nat, (⟨.send token call, id⟩ : Event Effects) ∈ h ∧
    (⟨.recv id call, outcome⟩ : Event Effects) ∈ h

/-- The task's own reservation inserted the row. -/
def Inserted (h : Past) (row : Lease) : Prop :=
  ∃ request, (⟨.reserve request, .ok (row, true)⟩ : Event Effects) ∈ h

/-- The task has not written the row of `token`. -/
def Unwritten (h : Past) (token : String) : Prop :=
  ∀ lease changes row, (⟨.compareAndSet lease changes, .ok row⟩ : Event Effects) ∈ h →
    lease.cleanupToken ≠ token

/-- The columns of the create claim. -/
def claimCreateChanges (t : Instant) : Changes :=
  { state := some .starting
    ownership := some .provisional
    creationUncertain := some true
    lastHeartbeatAt := some t }

/-- The columns of the start intent. -/
def foundStoppedChanges (t : Instant) : Changes :=
  { ownership := some .provisional
    state := some .starting
    lastHeartbeatAt := some t }

/-- The task wrote the create claim of `token`. -/
def CreateClaimed (h : Past) (token : String) : Prop :=
  ∃ lease t row, lease.cleanupToken = token ∧
    (⟨.compareAndSet lease (claimCreateChanges t), .ok row⟩ : Event Effects) ∈ h

/-- The task wrote the start intent of `token`. -/
def StartClaimed (h : Past) (token : String) : Prop :=
  ∃ lease t row, lease.cleanupToken = token ∧
    (⟨.compareAndSet lease (foundStoppedChanges t), .ok row⟩ : Event Effects) ∈ h

/-- The create made for `token` was answered with `pod`. -/
def CreateAnswered (h : Past) (token pod : String) : Prop :=
  ∃ name spec outcome, Replied h token (.create name spec) outcome ∧
    (outcome = .error (.createdMismatch pod) ∨
      ∃ created : CreatedPod, outcome = .ok created ∧ created.providerPodId = pod)

/-- The create made for `token` was definitely rejected. -/
def CreateRejected (h : Past) (token : String) (x : Exn) : Prop :=
  ∃ name spec, Replied h token (.create name spec) (.error x) ∧ x.isDefinite = true

/-- The lookup by the lease's name, exact or not, found `pod`. -/
def Recovered (h : Past) (token pod : String) (placement : Option RealizedPlacement)
    (catalog : Bool) : Prop :=
  ∃ row, Shown h row ∧ row.cleanupToken = token ∧ row.isCatalogAttempt = catalog ∧
    ((∃ spec, row.capacitySpec = some spec ∧
        Replied h token (.findExact row.resourceName spec) (.ok (some ⟨pod, placement⟩))) ∨
      (row.capacitySpec = none ∧ placement = none ∧
        Replied h token (.findByName row.resourceName) (.ok (some pod))))

/-- The event is a clock read. -/
def readsClock : Event Effects → Bool
  | ⟨.now, _⟩ => true
  | _ => false

/-- The task read the row of `token` with a property, and only the clock since. -/
def JustRead (h : Past) (token : String) (P : Lease → Prop) : Prop :=
  ∃ later earlier row, h = later ++ (⟨.get token, some row⟩ : Event Effects) :: earlier ∧
    (∀ e ∈ later, readsClock e = true) ∧ row.cleanupToken = token ∧ P row

/-! ## Writes -/

/-- The places of the source that update a row. -/
inductive Write
  | abandonClaim (error : Option Exn) (t : Instant)
  | expireClaim (t : Instant)
  | foundRunning (url : Option String) (t : Instant)
  | foundStopped (t : Instant)
  | startConfirmed (t : Instant)
  | claimCreate (t : Instant)
  | createMismatch (pod : String) (t : Instant)
  | createRejected (x : Exn) (t : Instant)
  | createRejectedZero (x : Exn) (t : Instant) (receipt : BillingReceipt) (at_ : Instant)
  | createAccepted (created : CreatedPod) (t : Instant)
  | retryable (x : Exn) (t : Instant) (uncertain : Option Bool)
  | readinessObserved (observation : PodObservation) (t : Instant)
  | readinessUnhealthy (x : Exn) (t : Instant)
  | workerReady (t : Instant)
  | heartbeat (t : Instant)
  | recordJob (id : String) (t : Instant)
  | operationError (x : Exn) (t : Instant)
  | recordStatus (status : String) (t : Instant)
  | resultRetrieved (t : Instant)
  | cancelRequested (catalog : Bool) (t : Instant)
  | observed (observation : Observation) (submitted : Bool) (t : Instant) (changes : Changes)
      (phases : Phases)
  | workerEvidence (worker : WorkerEvidence) (t : Instant)
  | bindIntent (intent : Handoff)
  | hostConfirmed (confirmation : Option Handoff) (t : Instant)
  | preexistingReleased (t : Instant)
  | noCapacity (t : Instant)
  | noCapacityZero (t : Instant) (receipt : BillingReceipt)
  | releasing (t : Instant)
  | stopAttempt (attempts : Nat)
  | stopPending (t : Instant)
  | stopConfirmed (t : Instant)
  | terminateConfirmed (t : Instant)
  | expired
  | expiredZero (t : Instant) (receipt : BillingReceipt)
  | observedStopped
  | observedTerminated (t : Instant)
  | reconcileObserved (url : Option String)
  | adopted (pod : String) (placement : Option RealizedPlacement) (catalog : Bool) (t : Instant)
  | awaitingCreate (reason : String) (billing : BillingState)
  | giveUp
  | reconcileError (x : Exn)
  | billingUnresolved (message : String)
  | billingPending
  | billingSettled (receipt : BillingReceipt)
  | revoked (t : Instant)
  | familyRequested (t : Instant)
  | familyComplete (t : Instant)

/-- The columns `_release_unowned_claim` sets. -/
def unownedChanges (error : Option Exn) (t : Instant) : Changes :=
  { ownership := some .preexistingRunning
    state := some .released
    cleanupState := some .notOwned
    backendBaseUrl := some none
    lastProviderError := some (error.map Exn.sanitized)
    lastHeartbeatAt := some t }

/-- What settling without capacity adds to the columns of a release. -/
def zeroChanges (changes : Changes) (receipt : BillingReceipt) (t : Instant) : Changes :=
  { changes with
    state := some .releasing
    billingState := some .authoritative
    billingReceipt := some receipt
    terminatedAt := some t }

/-- The columns of a rejected create. -/
def rejectedChanges (x : Exn) (t : Instant) : Changes :=
  { state := some .released
    cleanupState := some .complete
    creationUncertain := some false
    lastProviderError := some (some x.sanitized)
    lastHeartbeatAt := some t }

/-- The columns of a release without a provider Pod. -/
def noCapacityChanges (t : Instant) : Changes :=
  { state := some .released
    cleanupState := some .complete
    backendBaseUrl := some none
    lastProviderError := some none
    lastHeartbeatAt := some t }

/-- The columns of an expired claim. -/
def expiredChanges : Changes :=
  { state := some .released
    cleanupState := some .complete
    lastProviderError := some none }

namespace Write

/-- The columns a write sets, the evidence apart. -/
def base : Write → Changes
  | abandonClaim error t => unownedChanges error t
  | expireClaim t => unownedChanges none t
  | foundRunning url t =>
      { ownership := some .preexistingRunning
        state := some .starting
        backendBaseUrl := some url
        lastHeartbeatAt := some t
        lastProviderError := some none }
  | foundStopped t => foundStoppedChanges t
  | startConfirmed t =>
      { ownership := some .owned
        lastHeartbeatAt := some t
        lastProviderError := some none }
  | claimCreate t => claimCreateChanges t
  | createMismatch pod t =>
      { providerPodId := some pod
        ownership := some .owned
        creationUncertain := some false
        lastProviderError := some (some (Exn.createdMismatch pod).sanitized)
        lastHeartbeatAt := some t }
  | createRejected x t => rejectedChanges x t
  | createRejectedZero x t receipt at_ => zeroChanges (rejectedChanges x t) receipt at_
  | createAccepted created t =>
      { providerPodId := some created.providerPodId
        ownership := some .owned
        creationUncertain := some false
        lastHeartbeatAt := some t
        lastProviderError := some none }
  | retryable x t uncertain =>
      { state := some .reconcileRequired
        cleanupState := some .retryableFailure
        lastProviderError := some (some x.sanitized)
        lastHeartbeatAt := some t
        creationUncertain := uncertain }
  | readinessObserved observation t =>
      { backendBaseUrl := some observation.backendBaseUrl
        lastHeartbeatAt := some t
        lastProviderError := some none }
  | readinessUnhealthy x t =>
      { lastProviderError := some (some x.sanitized)
        lastHeartbeatAt := some t }
  | workerReady t => { state := some .ready, lastHeartbeatAt := some t }
  | heartbeat t => { lastHeartbeatAt := some t }
  | recordJob id t =>
      { state := some .jobSubmitted
        providerJobId := some id
        lastHeartbeatAt := some t
        lastProviderError := some none }
  | operationError x t =>
      { lastHeartbeatAt := some t, lastProviderError := some (some x.sanitized) }
  | recordStatus status t =>
      { lastHeartbeatAt := some t
        lastProviderError := some none
        state := statusState status }
  | resultRetrieved t =>
      { state := some .resultRetrieved
        lastHeartbeatAt := some t
        lastProviderError := some none }
  | cancelRequested catalog t =>
      { state := some .cancelRequested
        lastHeartbeatAt := some t
        workloadState := if catalog then some .cancelRequested else none }
  | observed _ _ _ changes _ => changes
  | workerEvidence _ t => { lastHeartbeatAt := some t }
  | bindIntent intent => { artifactHandoff := some intent }
  | hostConfirmed confirmation t =>
      { artifactHandoff := confirmation
        state := some .resultRetrieved
        lastHeartbeatAt := some t
        lastProviderError := some none }
  | preexistingReleased t =>
      { state := some .released
        cleanupState := some .notOwned
        backendBaseUrl := some none
        lastProviderError := some none
        lastHeartbeatAt := some t }
  | noCapacity t => noCapacityChanges t
  | noCapacityZero t receipt => zeroChanges (noCapacityChanges t) receipt t
  | releasing t =>
      { state := some .releasing
        cleanupState := some .pending
        backendBaseUrl := some none
        lastHeartbeatAt := some t }
  | stopAttempt attempts => { stopAttempts := some attempts }
  | stopPending t =>
      { cleanupState := some .pending
        lastProviderError := some (some "StopPending")
        lastHeartbeatAt := some t }
  | stopConfirmed t =>
      { state := some .released
        cleanupState := some .complete
        creationUncertain := some false
        backendBaseUrl := some none
        lastProviderError := some none
        lastHeartbeatAt := some t }
  | terminateConfirmed t =>
      { state := some .releasing
        cleanupState := some .complete
        creationUncertain := some false
        backendBaseUrl := some none
        lastProviderError := some none
        lastHeartbeatAt := some t
        billingState := some .pending
        terminatedAt := some t }
  | expired => expiredChanges
  | expiredZero t receipt => zeroChanges expiredChanges receipt t
  | observedStopped =>
      { state := some .released
        cleanupState := some .complete
        backendBaseUrl := some none
        lastProviderError := some none }
  | observedTerminated t =>
      { state := some .releasing
        cleanupState := some .complete
        backendBaseUrl := some none
        lastProviderError := some none
        billingState := some .pending
        terminatedAt := some t }
  | reconcileObserved url => { backendBaseUrl := some url, lastProviderError := some none }
  | adopted pod _ _ _ =>
      { providerPodId := some pod
        ownership := some .owned
        creationUncertain := some false
        state := some .reconcileRequired
        cleanupState := some .pending
        lastProviderError := some none }
  | awaitingCreate reason billing =>
      { state := some .reconcileRequired
        cleanupState := some .retryableFailure
        billingState := some billing
        lastProviderError := some (some (reason ++ ":AwaitingCreateReconciliation")) }
  | giveUp =>
      { state := some .released
        cleanupState := some .complete
        creationUncertain := some false
        lastProviderError := some none }
  | reconcileError x => { lastProviderError := some (some x.sanitized) }
  | billingUnresolved message =>
      { billingState := some .unresolved, lastProviderError := some (some message) }
  | billingPending => { billingState := some .pending }
  | billingSettled receipt =>
      { billingState := some .authoritative
        billingReceipt := some receipt
        lastProviderError := some none
        lastHeartbeatAt := some receipt.reconciledAt }
  | revoked t => { state := some .released, lastHeartbeatAt := some t }
  | familyRequested t =>
      { familyReleaseRequested := some true
        familyReleaseComplete := some false
        lastHeartbeatAt := some t }
  | familyComplete t => { familyReleaseComplete := some true, lastHeartbeatAt := some t }

/-- What a write adds to the evidence. -/
def update : Write → EvidenceUpdate
  | createMismatch _ t => { lifecycle := { providerCreateAcceptedAt := some t } }
  | createRejectedZero _ _ receipt at_ =>
      { lifecycle := { billingReconciledAt := some at_ }, billing := some receipt }
  | createAccepted created t =>
      { lifecycle := { providerCreateAcceptedAt := some t }
        realizedPlacement := some created.realizedPlacement }
  | readinessObserved observation t =>
      { lifecycle := if observation.isRunning then { firstRunningObservedAt := some t } else {} }
  | workerReady t => { lifecycle := { workerReadyAt := some t } }
  | observed _ _ _ _ phases => { lifecycle := phases }
  | workerEvidence worker _ => { worker := some worker }
  | noCapacityZero t receipt =>
      { lifecycle := { billingReconciledAt := some t }, billing := some receipt }
  | terminateConfirmed t => { lifecycle := { stopConfirmedAt := some t } }
  | expiredZero t receipt =>
      { lifecycle := { billingReconciledAt := some t }, billing := some receipt }
  | observedTerminated t => { lifecycle := { stopConfirmedAt := some t } }
  | adopted _ placement catalog t =>
      { lifecycle := if catalog then { providerAdoptedAt := some t } else {}
        realizedPlacement := if catalog then some placement else none }
  | billingSettled receipt =>
      { lifecycle := { billingReconciledAt := some receipt.reconciledAt }
        billing := some receipt }
  | _ => {}

/-- The write goes through the evidence transition. -/
def merges : Write → Bool
  | createMismatch .. | createRejected .. | createRejectedZero .. | createAccepted ..
  | readinessObserved .. | readinessUnhealthy .. | workerReady .. | workerEvidence ..
  | noCapacity .. | noCapacityZero .. | stopConfirmed .. | terminateConfirmed ..
  | expired | expiredZero .. | observedStopped .. | observedTerminated .. | adopted ..
  | billingSettled .. => true
  | observed .. => true
  | _ => false

end Write

/-- The lease speaks artifact handoff protocol 1. -/
def Lease.protocolOne (lease : Lease) : Bool :=
  lease.capacitySpec.any fun spec => spec.request.artifactHandoffProtocolVersion = some 1

/-- The receipt is for capacity that was never billed. -/
def BillingReceipt.isZero (receipt : BillingReceipt) : Prop :=
  receipt.providerPodId = none ∧ receipt.actualCostUsd = 0

/-- The responses that carry a workload observation. -/
def WorkerReplied (h : Past) (token : String) (observation : Observation) (submitted : Bool) :
    Prop :=
  (submitted = true ∧ ∃ url attempt sha,
    Replied h token (.submit url attempt sha) (.ok observation)) ∨
  (submitted = false ∧ ∃ url attempt sha,
    Replied h token (.status url attempt sha) (.ok observation) ∨
    ∃ payload, Replied h token (.acknowledge url attempt sha payload) (.ok observation) ∨
      Replied h token (.recoverHandoff url attempt sha payload) (.ok observation))

/-- What a final receipt of a terminated Pod was checked against. -/
def FinallyBilled (h : Past) (token : String) (receipt : BillingReceipt) : Prop :=
  ∃ row pod terminatedAt evidence realized, Shown h row ∧ row.cleanupToken = token ∧
    row.isCatalogAttempt = true ∧ row.billingState ≠ .authoritative ∧
    row.providerPodId = some pod ∧ row.terminatedAt = some terminatedAt ∧
    row.evidence = some evidence ∧ evidence.realizedPlacement = some realized ∧
    realized.providerPodId = pod ∧
    ReplyAfter h row token (.finalBilling pod row.createdAt terminatedAt realized.hourlyRateUsd)
      (.ok (some receipt)) ∧
    receipt.providerPodId = some pod ∧ terminatedAt ≤ receipt.billedUntil ∧
    receipt.hourlyPriceUsd = realized.hourlyRateUsd
where
  /-- The call was made after the row had been shown. -/
  ReplyAfter (h : Past) (row : Lease) (token : String) (call : Call)
      (outcome : Except Exn call.Value) : Prop :=
    ∃ (id : Nat) (later earlier : Past),
      h = later ++ (⟨.send token call, id⟩ : Event Effects) :: earlier ∧ Shown earlier row ∧
        (⟨.recv id call, outcome⟩ : Event Effects) ∈ h

/-- What the task knows when it writes over `cur`. -/
def Write.Guard (d : Digests) (callers : Callers) (h : Past) (cur : Lease) : Write → Prop
  | .abandonClaim _ _ => cur.isTerminal = false ∧ Unwritten h cur.cleanupToken ∧
      ∃ row, Inserted h row ∧ row.cleanupToken = cur.cleanupToken ∧ row.source ≠ .created
  | .expireClaim _ => cur.isTerminal = false ∧ Known h cur.cleanupToken fun row =>
      row.state = .requested ∧ row.source ≠ .created
  | .foundRunning _ _ => Inserted h cur ∧ cur.source ≠ .created ∧ ∃ pod observation,
      cur.providerPodId = some pod ∧
        Replied h cur.cleanupToken (.observe pod) (.ok observation) ∧
        observation.isRunning = true
  | .foundStopped _ => Inserted h cur ∧ cur.source ≠ .created ∧ ∃ pod observation,
      cur.providerPodId = some pod ∧
        Replied h cur.cleanupToken (.observe pod) (.ok observation) ∧
        observation.isStopped = true
  | .startConfirmed _ => StartClaimed h cur.cleanupToken ∧ ∃ pod count,
      Replied h cur.cleanupToken (.start pod count) (.ok ())
  | .claimCreate _ => Inserted h cur ∧ cur.source = .created
  | .createMismatch pod t => cur.isTerminal = false ∧
      CreateClaimed h cur.cleanupToken ∧ CreateAnswered h cur.cleanupToken pod ∧
      ReadAfter h t cur.cleanupToken fun _ => True
  | .createRejected x _ => cur.isTerminal = false ∧ CreateClaimed h cur.cleanupToken ∧
      CreateRejected h cur.cleanupToken x ∧
      Known h cur.cleanupToken fun row => row.isCatalogAttempt = false
  | .createRejectedZero x _ receipt at_ => cur.isTerminal = false ∧
      CreateClaimed h cur.cleanupToken ∧ CreateRejected h cur.cleanupToken x ∧
      receipt.isZero ∧ (Known h cur.cleanupToken fun row => row.isCatalogAttempt = true) ∧
      ReadAfter h at_ cur.cleanupToken fun _ => True
  | .createAccepted created t => cur.isTerminal = false ∧ CreateClaimed h cur.cleanupToken ∧
      (∃ name spec, Replied h cur.cleanupToken (.create name spec) (.ok created)) ∧
      (Known h cur.cleanupToken fun row =>
        row.isCatalogAttempt = true → created.realizedPlacement ≠ none) ∧
      ReadAfter h t cur.cleanupToken fun _ => True
  | .retryable _ _ uncertain => cur.isTerminal = false ∧
      (Known h cur.cleanupToken fun row =>
        row.state ≠ .requested ∨ row.creationUncertain = true) ∧
      (uncertain = none ∨ uncertain = some true ∧ Known h cur.cleanupToken fun row =>
        row.source = .created ∨ row.creationUncertain = true)
  | .readinessObserved observation t => cur.state = .starting ∧
      (observation.isRunning = true →
        ReadAfter h t cur.cleanupToken fun row => row.providerPodId ≠ none)
  | .readinessUnhealthy _ _ => cur.state = .starting
  | .workerReady t => cur.state = .starting ∧
      ReadAfter h t cur.cleanupToken fun row => row.evidence = none ∨ ∃ evidence,
        row.evidence = some evidence ∧
          evidence.lifecycle.phases.firstRunningObservedAt ≠ none
  | .heartbeat _ => cur.isTerminal = false
  | .recordJob _ _ => cur.protocolOne = false ∧
      (cur.state = .ready ∨ cur.state = .jobSubmitted)
  | .operationError _ _ => cur.isTerminal = false
  | .recordStatus _ _ => cur.isTerminal = false ∧
      Known h cur.cleanupToken fun row => row.protocolOne = false
  | .resultRetrieved _ => cur.protocolOne = false ∧
      (cur.state = .jobSubmitted ∨ cur.state = .jobCompleted)
  | .cancelRequested catalog _ => cur.isTerminal = false ∧ catalog = cur.isCatalogAttempt
  | .observed observation submitted t changes phases =>
      WorkerReplied h cur.cleanupToken observation submitted ∧
      ∃ spec, cur.capacitySpec = some spec ∧ observation.attemptId = spec.request.attemptId ∧
        observation.requestSha256 = some spec.request.requestSha256 ∧
        catalogObservationChanges cur spec observation submitted t = .ok (changes, phases) ∧
        ReadAfter h t cur.cleanupToken fun row => row = cur
  | .workerEvidence worker _ => cur.isTerminal = false ∧ ∃ row spec, Shown h row ∧
      row.cleanupToken = cur.cleanupToken ∧ row.capacitySpec = some spec ∧
      worker.attemptId = spec.request.attemptId ∧
      worker.requestSha256 = spec.request.requestSha256 ∧
      worker.imageDigest = spec.request.imageDigest ∧ catalogResultReady spec row = true
  | .bindIntent intent => cur.isTerminal = false ∧ cur.state = .jobCompleted ∧
      intent.remoteAckObservedAt = none ∧ ∃ handoff payload,
        cur.artifactHandoff = some handoff ∧
          handoff.bindAcknowledgement d payload = .ok intent
  | .hostConfirmed confirmation _ => cur.state = .jobCompleted ∧ ∃ spec,
      cur.capacitySpec = some spec ∧ catalogResultReady spec cur = true ∧
        (spec.request.artifactHandoffProtocolVersion = some 1 →
          ∃ handoff digest declaredAt confirmed,
            cur.artifactHandoff = some handoff ∧ handoff.remoteAckObservedAt ≠ none ∧
            handoff.acknowledgementSha256 = some digest ∧ callers.confirms digest ∧
            (handoff.hostConfirmationDeclaredAt = none ∨
              handoff.hostConfirmationDeclaredAt = some declaredAt) ∧
            Handoff.build { handoff.toHandoffFields with
              hostConfirmationDeclaredAt := some declaredAt } = .ok confirmed ∧
            confirmation = some confirmed) ∧
        (spec.request.artifactHandoffProtocolVersion ≠ some 1 → confirmation = none)
  | .preexistingReleased _ => cur.isTerminal = false ∧
      Known h cur.cleanupToken fun row => row.ownership = .preexistingRunning
  | .noCapacity _ => cur.isTerminal = false ∧
      Known h cur.cleanupToken fun row => row.isCatalogAttempt = false ∧
        row.providerPodId = none ∧ row.creationUncertain = false
  | .noCapacityZero _ receipt => cur.isTerminal = false ∧ receipt.isZero ∧
      Known h cur.cleanupToken fun row => row.isCatalogAttempt = true ∧
        row.providerPodId = none ∧ row.creationUncertain = false
  | .releasing _ => cur.isTerminal = false ∧
      Known h cur.cleanupToken fun row => row.providerPodId ≠ none
  | .stopAttempt attempts => cur.isTerminal = false ∧ attempts = cur.stopAttempts + 1
  | .stopPending _ => cur.isTerminal = false
  | .stopConfirmed _ => cur.isTerminal = false ∧ ∃ row pod, Shown h row ∧
      row.cleanupToken = cur.cleanupToken ∧ row.isCatalogAttempt = false ∧
      row.providerPodId = some pod ∧ Replied h cur.cleanupToken (.stop pod) (.ok true)
  | .terminateConfirmed t => cur.isTerminal = false ∧ (∃ row pod, Shown h row ∧
      row.cleanupToken = cur.cleanupToken ∧ row.isCatalogAttempt = true ∧
      row.providerPodId = some pod ∧ Replied h cur.cleanupToken (.terminate pod) (.ok true)) ∧
      ReadAfter h t cur.cleanupToken fun row => row.state = .releasing
  | .expired => cur.isTerminal = false ∧ Known h cur.cleanupToken fun row =>
      row.state = .requested ∧ row.source = .created ∧ row.isCatalogAttempt = false
  | .expiredZero _ receipt => cur.isTerminal = false ∧ receipt.isZero ∧
      Known h cur.cleanupToken fun row => row.state = .requested ∧ row.isCatalogAttempt = true
  | .observedStopped => cur.isTerminal = false ∧ ∃ row pod observation, Shown h row ∧
      row.cleanupToken = cur.cleanupToken ∧ row.isCatalogAttempt = false ∧
      row.providerPodId = some pod ∧
      Replied h cur.cleanupToken (.observe pod) (.ok observation) ∧
      observation.isStopped = true
  | .observedTerminated _ => cur.isTerminal = false ∧ ∃ row pod observation, Shown h row ∧
      row.cleanupToken = cur.cleanupToken ∧ row.isCatalogAttempt = true ∧
      row.providerPodId = some pod ∧
      Replied h cur.cleanupToken (.observe pod) (.ok observation) ∧
      observation.isStopped = true
  | .reconcileObserved _ => cur.state = .starting ∨ cur.state = .ready
  | .adopted pod placement catalog t => cur.isTerminal = false ∧
      Recovered h cur.cleanupToken pod placement catalog ∧
      ReadAfter h t cur.cleanupToken fun row => row.creationUncertain = true
  | .awaitingCreate _ billing => cur.isTerminal = false ∧
      Known h cur.cleanupToken fun row =>
        row.creationUncertain = true ∧ row.providerPodId = none ∧
        billing = if row.isCatalogAttempt then .unresolved else row.billingState
  | .giveUp => cur.isTerminal = false ∧ ∃ t, ReadAfter h t cur.cleanupToken fun row =>
      row.isCatalogAttempt = false ∧ row.creationUncertain = true ∧
        row.providerPodId = none ∧ row.readinessDeadline ≤ t
  | .reconcileError _ => True
  | .billingUnresolved _ => cur.isCatalogAttempt = true ∧ cur.billingState ≠ .authoritative
  | .billingPending => cur.isCatalogAttempt = true ∧ cur.billingState ≠ .authoritative ∧
      cur.providerPodId ≠ none ∧ cur.terminatedAt ≠ none
  | .billingSettled receipt => cur.isTerminal = false ∧
      ((receipt.isZero ∧ Known h cur.cleanupToken fun row => row.isCatalogAttempt = true ∧
          row.providerPodId = none ∧ row.creationUncertain = false ∧
          row.billingState ≠ .authoritative) ∨
        FinallyBilled h cur.cleanupToken receipt)
  | .revoked _ => cur.isTerminal = false ∧ ∃ row spec, Shown h row ∧
      row.cleanupToken = cur.cleanupToken ∧ row.billingState = .authoritative ∧
      row.capacitySpec = some spec ∧
      Replied h cur.cleanupToken (.revoke spec.request.attemptId) (.ok ())
  | .familyRequested _ => True
  | .familyComplete _ => True

/-- The changes a write makes over `cur`, its merged evidence included. -/
def Write.Makes (cur : Lease) (write : Write) (changes : Changes) : Prop :=
  if write.merges = true ∧ cur.isTerminal = false ∧ cur.evidence.isSome then
    ∃ evidence merged, cur.evidence = some evidence ∧
      evidence.merge write.update = .ok merged ∧
      changes = { write.base with evidence := some merged }
  else changes = write.base

/-! ## The contract -/

/-- The calls a task may make, given what it knows. -/
def PermitsCall (h : Past) (token : String) : Call → Prop
  | .create name spec => CreateClaimed h token ∧
      (Known h token fun row => row.resourceName = name ∧ row.capacitySpec = spec) ∧
      (Known h token fun row => row.source = .created) ∧
      ∀ name' spec' (id : Nat),
        (⟨.send token (.create name' spec'), id⟩ : Event Effects) ∉ h
  | .start pod _ => StartClaimed h token ∧
      (Known h token fun row => row.providerPodId = some pod ∧ row.source ≠ .created) ∧
      ∀ pod' count (id : Nat), (⟨.send token (.start pod' count), id⟩ : Event Effects) ∉ h
  | .observe pod => Known h token fun row => row.providerPodId = some pod
  | .stop pod => (Known h token fun row => row.state = .releasing) ∧
      Known h token fun row => row.isCatalogAttempt = false ∧ row.providerPodId = some pod
  | .terminate pod => (Known h token fun row => row.state = .releasing) ∧
      Known h token fun row => row.isCatalogAttempt = true ∧ row.providerPodId = some pod
  | .submit _ _ _ => JustRead h token fun row =>
      row.protocolOne = true ∧ (row.state = .ready ∨ row.state = .jobSubmitted)
  | .acknowledge _ _ _ _ => JustRead h token fun row => row.state = .jobCompleted
  | .recoverHandoff _ _ _ _ => JustRead h token fun row => row.state = .jobCompleted
  | _ => True

/-- The operations a task of the lease service may perform, given what it knows. -/
def Permits (d : Digests) (callers : Callers) (h : Past) : Op → Prop
  | .reserve request => request.resourceName = callers.names request.cleanupToken
  | .compareAndSet cur changes => Shown h cur ∧
      ∃ write : Write, write.Guard d callers h cur ∧ write.Makes cur changes
  | .mergeEvidence evidence update => ∃ (cur : Lease) (write : Write), Shown h cur ∧
      cur.isTerminal = false ∧ cur.evidence = some evidence ∧ write.merges = true ∧
      write.Guard d callers h cur ∧ write.update = update
  | .send token call => PermitsCall h token call
  | .recv id call => ∃ token, (⟨.send token call, id⟩ : Event Effects) ∈ h
  | _ => True

/-- What a task may rely on in a reply. -/
def Promises (d : Digests) : Event Effects → Prop
  | ⟨.reserve request, reply⟩ => ∀ row inserted, reply = .ok (row, inserted) →
      row.cleanupToken = request.cleanupToken ∧
        (inserted = true → ∃ evidence, row = Rows.reserved d request evidence)
  | ⟨.get token, reply⟩ => ∀ row, reply = some row → row.cleanupToken = token
  | ⟨.compareAndSet lease changes, reply⟩ => ∀ row, reply = .ok row →
      ∃ current : Lease, current.cleanupToken = lease.cleanupToken ∧
        current.revision = lease.revision ∧ row = current.apply changes
  | ⟨.mergeEvidence evidence update, reply⟩ => evidence.merge update = reply
  | _ => True

/-- The contract of every task of the lease service. -/
def leaseContract (d : Digests) (callers : Callers) : Contract Effects :=
  ⟨Permits d callers, Promises d⟩

end KestrelRunpod.Pod
