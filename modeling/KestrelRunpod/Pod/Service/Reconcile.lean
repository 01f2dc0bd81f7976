import KestrelRunpod.Pod.Service.Workload

/-!
# Reconciliation

One pass over the incomplete family releases and the rows that still need attention.
-/

namespace KestrelRunpod.Pod

open Interleave

/-- `_record_reconcile_error`. -/
def recordReconcileError (token : String) (error : Exn) : Co (Option Lease) := do
  let found ← getLease token
  match found with
  | none => .pure none
  | some lease =>
      if lease.isTerminal = true ∧ lease.billingState ≠ .pending ∧
          lease.billingState ≠ .unresolved then
        .pure (some lease)
      else
        except
          ((compareAndSet lease { lastProviderError := some (some error.sanitized) }).bind
            fun lease => .pure (some lease))
          Exn.isConflict fun _ => getLease token

/-- The expiry of a claim that never reached the provider. -/
def expireRequested (svc : Service) (lease : Lease) (readAt : Instant) : Co Lease :=
  if lease.source ≠ .created then releaseUnownedClaim svc lease none
  else do
    let changes : Changes :=
      { state := some .released
        cleanupState := some .complete
        lastProviderError := some none }
    if lease.isCatalogAttempt then do
      let receipt ← zeroCostReceipt svc lease "before-create"
      settleZero svc lease changes receipt readAt
    else do
      let released ← transitionWithEvidence lease.cleanupToken changes {} none true svc.fuel lease
      if released.isCatalogAttempt then revokeAndRelease svc released else .pure released

/-- The observation of a Pod that should be up; a stopped Pod ends its lease. -/
def reconcileObserved (svc : Service) (lease : Lease) (pod : String) (readAt : Instant) :
    Co Lease := do
  let _ ← profile svc lease.profileId
  let observation ← await lease.cleanupToken (.observe pod)
  let observation : PodObservation := observation
  if observation.isStopped then do
    let stopped ← transitionWithEvidence lease.cleanupToken
      { state := some (if lease.isCatalogAttempt then .releasing else .released)
        cleanupState := some .complete
        backendBaseUrl := some none
        lastProviderError := some none
        billingState := if lease.isCatalogAttempt then some .pending else none
        terminatedAt := if lease.isCatalogAttempt then some readAt else none }
      { lifecycle := if lease.isCatalogAttempt then { stopConfirmedAt := some readAt } else {} }
      none true svc.fuel lease
    if stopped.isCatalogAttempt then reconcileBilling svc stopped else .pure stopped
  else
    compareAndSet lease
      { backendBaseUrl := some observation.backendBaseUrl, lastProviderError := some none }

/-- The reported status of a training job, when an observer is configured: `none` when the
pass goes on with the lease itself. -/
def reconcileJob (svc : Service) (token : String) (lease : Lease) : Co (Option Lease) :=
  if lease.state = .jobSubmitted ∧ svc.hasStatusObserver = true then do
    let reported ←
      except ((await lease.cleanupToken .workloadStatus).bind
          fun status => .pure (Except.ok status)) Exn.isManager fun x => do
        let lease ← recordOperationError svc token x
        .pure (Except.error lease)
    match (reported : Except Lease (Option String)) with
    | .error lease => .pure (some lease)
    | .ok none => .pure none
    | .ok (some status) => do
        let lease ← recordStatus svc token status
        if lease.state = .cancelRequested then do
          let released ← releaseOne svc token "terminal training job"
          .pure (some released)
        else .pure (some lease)
  else .pure none

/-- The end of `_reconcile_one`: a lease that starts or is ready is given up when its owner
stopped heartbeating, and observed otherwise. -/
def reconcileStarted (svc : Service) (token : String) (lease : Lease) (readAt : Instant)
    (stale : Bool) : Co Lease :=
  if (lease.state = .starting ∨ lease.state = .ready) ∧ stale = true then
    releaseOne svc token "orphaned acquisition"
  else if lease.state = .starting ∨ lease.state = .ready then
    match lease.providerPodId with
    | none => .pure lease
    | some pod =>
        if pod = "" then .pure lease
        else if (svc.profiles.lookup lease.profileId).isNone then .pure lease
        else reconcileObserved svc lease pod readAt
  else .pure lease

/-- How long the lease's owner may go without a heartbeat. -/
def idleTimeout (svc : Service) (lease : Lease) : Int :=
  match lease.capacitySpec with
  | some spec => seconds spec.request.idleTimeoutSeconds
  | none => svc.orphanTimeout

/-- `_reconcile_one` for a row that is not terminal. -/
def reconcileActive (svc : Service) (token : String) (lease : Lease) : Co Lease := do
  let readAt ← now
  let stale : Bool := lease.lastHeartbeatAt + idleTimeout svc lease ≤ readAt
  if lease.state = .requested ∧ (stale = true ∨ lease.readinessDeadline ≤ readAt) then
    expireRequested svc lease readAt
  else if lease.state = .requested then .pure lease
  else if lease.providerPodId = none ∧ lease.creationUncertain = true then
    if stale = false ∧ readAt < lease.hardDeadline then .pure lease
    else do
      let lease ← resolveUncertainCreation svc lease "reconcile"
      if lease.providerPodId ≠ none then releaseOne svc token "recovered create"
      else .pure lease
  else if lease.state = .releasing ∨ lease.state = .cancelRequested ∨
      lease.state = .reconcileRequired ∨ lease.state = .resultRetrieved then
    releaseOne svc token "retry teardown"
  else if lease.hardDeadline ≤ readAt then releaseOne svc token "hard deadline"
  else
    match lease.capacitySpec with
    | some spec =>
        if lease.state = .jobSubmitted then do
          observeCatalogWorkload svc lease.cleanupToken spec.request.ownerId
            spec.request.workloadId
          required token
        else reconcileStarted svc token lease readAt stale
    | none => do
        let finished ← reconcileJob svc token lease
        match finished with
        | some lease => .pure lease
        | none => reconcileStarted svc token lease readAt stale

/-- `_reconcile_one`. -/
def reconcileOne (svc : Service) (token : String) : Co (Option Lease) := do
  let found ← getLease token
  match found with
  | none => .pure none
  | some lease =>
      if lease.isTerminal then
        if lease.billingState = .pending ∨ lease.billingState = .unresolved then do
          let settled ← reconcileBilling svc lease
          .pure (some settled)
        else .pure (some lease)
      else do
        let reconciled ← reconcileActive svc token lease
        .pure (some reconciled)

/-- One guarded attempt of a pass: an exception of the manager family is recorded on the
row and does not leave the pass. -/
def guardedAttempt (token : String) (attempt : Co (Option Lease)) : Co (Option Lease) :=
  except attempt Exn.isManager fun x => recordReconcileError token x

/-- The attempts of a pass, one after the other. -/
def reconcileEach (attempt : String → Co (Option Lease)) : List Lease → Co (List Lease)
  | [] => .pure []
  | initial :: rest => do
      let result ← guardedAttempt initial.cleanupToken (attempt initial.cleanupToken)
      let results ← reconcileEach attempt rest
      .pure (result.toList ++ results)

/-- The attempt a pass makes for an incomplete family release. -/
def reconcileFamily (svc : Service) (token : String) : Co (Option Lease) := do
  let released ← release svc token "restart family release"
  .pure (some released)

/-- `reconcile`: one pass. -/
def reconcile (svc : Service) : Co (List Lease) :=
  .perform .listIncompleteFamilyReleases fun (roots : List Lease) => do
    let families ← reconcileEach (reconcileFamily svc) roots
    .perform .listForReconciliation fun (rows : List Lease) => do
      let leases ← reconcileEach (reconcileOne svc) rows
      .pure (families ++ leases)

end KestrelRunpod.Pod
