import KestrelRunpod.Pod.Effects

/-!
# Durable transitions and teardown

The compare-and-set helpers of `PodCapacityLeaseService`, and the release of one attempt or
of a cleanup family: uncertain-create recovery, stop or termination, final billing and
revocation.  A `while` loop that retries after a conflict recurses on its own fuel.
-/

namespace KestrelRunpod.Pod

open Interleave

/-! ## Transitions -/

/-- `_transition_nonterminal`: a transition that never revives a terminal row. -/
def transitionNonterminal (token : String) (changes : Changes) : Nat → Lease → Co Lease
  | 0, _ => .stall
  | fuel + 1, current =>
      if current.isTerminal then .pure current
      else
        except (compareAndSet current changes) Exn.isConflict fun _ => do
          let current ← required token
          transitionNonterminal token changes fuel current

/-- The columns to write, with the evidence merged when the row has any. -/
def persistedChanges (current : Lease) (changes : Changes) (update : EvidenceUpdate) :
    Co Changes :=
  match current.evidence with
  | none => .pure changes
  | some evidence =>
      .perform (.mergeEvidence evidence update)
        fun (merged : Except Exn PodCapacityEvidence) => do
          let evidence ← .ofExcept merged
          .pure { changes with evidence := some evidence }

/-- `_transition_with_evidence`: state and first-observation evidence in one update. -/
def transitionWithEvidence (token : String) (changes : Changes) (update : EvidenceUpdate)
    (expected : Option (List PodState)) (retryOnConflict : Bool) : Nat → Lease → Co Lease
  | 0, _ => .stall
  | fuel + 1, current =>
      if current.isTerminal then .pure current
      else if expected.any fun states => !states.contains current.state then .pure current
      else do
        let persisted ← persistedChanges current changes update
        except (compareAndSet current persisted) (fun x => x.isConflict && retryOnConflict)
          fun _ => do
            let current ← required token
            transitionWithEvidence token changes update expected retryOnConflict fuel current

/-- `_release_unowned_claim`. -/
def releaseUnownedClaim (svc : Service) (lease : Lease) (error : Option Exn) : Co Lease := do
  let heartbeatAt ← now
  transitionNonterminal lease.cleanupToken
    { ownership := some .preexistingRunning
      state := some .released
      cleanupState := some .notOwned
      backendBaseUrl := some none
      lastProviderError := some (error.map Exn.sanitized)
      lastHeartbeatAt := some heartbeatAt }
    svc.fuel lease

/-- `_record_retryable_failure`. -/
def recordRetryableFailure (svc : Service) (lease : Lease) (error : Exn)
    (creationUncertain : Option Bool) : Co Lease := do
  let current ← required lease.cleanupToken
  if current.isTerminal then .pure current
  else do
    let heartbeatAt ← now
    transitionNonterminal current.cleanupToken
      { state := some .reconcileRequired
        cleanupState := some .retryableFailure
        lastProviderError := some (some error.sanitized)
        lastHeartbeatAt := some heartbeatAt
        creationUncertain := creationUncertain }
      svc.fuel current

/-! ## Settlement -/

/-- The fields of the receipt for capacity that was never billed. -/
def zeroReceiptFields (svc : Service) (lease : Lease) (spec : CapacitySpec) (reason : String)
    (at_ : Instant) : BillingReceiptFields where
  providerBillingId := "runpod-no-pod:" ++ svc.digests.text
    (lease.cleanupToken ++ "\x00" ++ reason ++ "\x00" ++ lease.requestFingerprint)
  providerPodId := none
  billedFrom := at_
  billedUntil := at_
  billedSeconds := 0
  hourlyPriceUsd := spec.request.quote.podHourlyUsd
  actualCostUsd := 0
  reconciledAt := at_

/-- `_zero_cost_receipt`, with its own clock read. -/
def zeroCostReceipt (svc : Service) (lease : Lease) (reason : String) : Co BillingReceipt := do
  let spec ← capacitySpec lease
  let readAt ← now
  .ofExcept (BillingReceipt.build (zeroReceiptFields svc lease spec reason readAt))

/-- `_revoke_and_release`: bearer revocation is part of the terminal transition. -/
def revokeAndRelease (svc : Service) (lease : Lease) : Co Lease :=
  if lease.billingState ≠ .authoritative then
    raise (.manager "Catalog Pod cannot become terminal before authoritative billing")
  else do
    requireCapabilityStore svc
    let spec ← capacitySpec lease
    await lease.cleanupToken (.revoke spec.request.attemptId)
    let current ← required lease.cleanupToken
    if current.isTerminal then .pure current
    else do
      let heartbeatAt ← now
      compareAndSet current { state := some .released, lastHeartbeatAt := some heartbeatAt }

/-- The settlement write of a lease for which no capacity was billed, then revocation. -/
def settleZero (svc : Service) (lease : Lease) (changes : Changes) (receipt : BillingReceipt)
    (reconciledAt : Instant) : Co Lease := do
  let released ← transitionWithEvidence lease.cleanupToken
    { changes with
      state := some .releasing
      billingState := some .authoritative
      billingReceipt := some receipt
      terminatedAt := some reconciledAt }
    { lifecycle := { billingReconciledAt := some reconciledAt }, billing := some receipt }
    none true svc.fuel lease
  if released.isCatalogAttempt then revokeAndRelease svc released else .pure released

/-- `_reconcile_billing`, from the receipt on: persist it, then revoke. -/
def settleBilling (svc : Service) (lease : Lease) (receipt : BillingReceipt) : Co Lease := do
  let reconciled ←
    except
      (transitionWithEvidence lease.cleanupToken
        { billingState := some .authoritative
          billingReceipt := some receipt
          lastProviderError := some none
          lastHeartbeatAt := some receipt.reconciledAt }
        { lifecycle := { billingReconciledAt := some receipt.reconciledAt }
          billing := some receipt }
        none true svc.fuel lease)
      Exn.isConflict fun x => do
        let current ← required lease.cleanupToken
        if current.billingState ≠ .authoritative then raise x else .pure current
  revokeAndRelease svc reconciled

/-- `_reconcile_billing`. -/
def reconcileBilling (svc : Service) (lease : Lease) : Co Lease :=
  match lease.capacitySpec with
  | none => .pure lease
  | some _ =>
      if lease.billingState = .authoritative then revokeAndRelease svc lease
      else
        match lease.providerPodId with
        | none =>
            if lease.creationUncertain then
              compareAndSet lease
                { billingState := some .unresolved
                  lastProviderError := some (some "AmbiguousCreateBillingUnresolved") }
            else do
              let receipt ← zeroCostReceipt svc lease "no-provider-capacity"
              settleBilling svc lease receipt
        | some pod =>
            match lease.terminatedAt with
            | none =>
                raise (.manager "Terminated catalog Pod omitted its durable termination time")
            | some terminatedAt =>
                match lease.evidence.bind fun evidence => evidence.realizedPlacement with
                | none =>
                    compareAndSet lease
                      { billingState := some .unresolved
                        lastProviderError := some (some "RealizedPlacementBillingUnresolved") }
                | some realized =>
                    if realized.providerPodId ≠ pod then
                      compareAndSet lease
                        { billingState := some .unresolved
                          lastProviderError :=
                            some (some "RealizedPlacementBillingUnresolved") }
                    else do
                      let billed ← await lease.cleanupToken
                        (.finalBilling pod lease.createdAt terminatedAt realized.hourlyRateUsd)
                      match (billed : Option BillingReceipt) with
                      | none =>
                          if lease.billingState = .pending then .pure lease
                          else compareAndSet lease { billingState := some .pending }
                      | some receipt =>
                          if receipt.providerPodId ≠ some pod then
                            raise (.manager
                              "Provider billing receipt does not match the leased Pod")
                          else if receipt.billedUntil < terminatedAt then
                            raise (.manager
                              "Provider billing receipt does not cover confirmed Pod teardown")
                          else if receipt.hourlyPriceUsd ≠ realized.hourlyRateUsd then
                            raise (.manager
                              "Provider billing rate does not match realized Pod rate")
                          else settleBilling svc lease receipt

/-! ## Uncertain creation -/

/-- The provider's Pod of the lease's name, with its placement when the lease is a catalog
attempt. -/
def findRecovered (lease : Lease) : Co (Option (String × Option RealizedPlacement)) :=
  match lease.capacitySpec with
  | some spec => do
      let found ← await lease.cleanupToken (.findExact lease.resourceName spec)
      .pure ((found : Option CreatedPod).map fun created =>
        (created.providerPodId, created.realizedPlacement))
  | none => do
      let found ← await lease.cleanupToken (.findByName lease.resourceName)
      .pure ((found : Option String).map fun id => (id, none))

/-- What `_resolve_uncertain_creation` does once the provider has answered. -/
def resolveFound (svc : Service) (lease : Lease) (reason : String) :
    Option (String × Option RealizedPlacement) → Co Lease
  | some (id, placement) => do
      let adoptedAt ← now
      transitionWithEvidence lease.cleanupToken
        { providerPodId := some id
          ownership := some .owned
          creationUncertain := some false
          state := some .reconcileRequired
          cleanupState := some .pending
          lastProviderError := some none }
        { lifecycle :=
            if lease.isCatalogAttempt then { providerAdoptedAt := some adoptedAt } else {}
          realizedPlacement := if lease.isCatalogAttempt then some placement else none }
        none true svc.fuel lease
  | none => do
      let readAt ← now
      if readAt < lease.readinessDeadline ∨ lease.isCatalogAttempt = true then
        transitionNonterminal lease.cleanupToken
          { state := some .reconcileRequired
            cleanupState := some .retryableFailure
            billingState :=
              some (if lease.isCatalogAttempt then .unresolved else lease.billingState)
            lastProviderError := some (some (reason ++ ":AwaitingCreateReconciliation")) }
          svc.fuel lease
      else
        transitionNonterminal lease.cleanupToken
          { state := some .released
            cleanupState := some .complete
            creationUncertain := some false
            lastProviderError := some none }
          svc.fuel lease

/-- `_resolve_uncertain_creation`.  Only the provider call is guarded, so the rest runs on
its value. -/
def resolveUncertainCreation (svc : Service) (lease : Lease) (reason : String) : Co Lease := do
  let found ←
    except ((findRecovered lease).bind fun found => .pure (Except.ok found)) Exn.isManager
      fun x => .pure (Except.error x)
  match (found : Except Exn (Option (String × Option RealizedPlacement))) with
  | .error x => recordRetryableFailure svc lease x (some true)
  | .ok recovered => resolveFound svc lease reason recovered

/-! ## Release of one attempt -/

/-- The stop-attempt counter, retried until it is written or the row is terminal. -/
def countStopAttempt (token : String) : Nat → Lease → Co Lease
  | 0, _ => .stall
  | fuel + 1, lease =>
      if lease.isTerminal then .pure lease
      else
        except (compareAndSet lease { stopAttempts := some (lease.stopAttempts + 1) })
          Exn.isConflict fun _ => do
            let lease ← required token
            countStopAttempt token fuel lease

/-- The mutation that ends the capacity: terminate a disposable Pod, stop another one. -/
def endCapacity (lease : Lease) : Co Bool := do
  let pod ← podId lease
  if lease.isCatalogAttempt then await lease.cleanupToken (.terminate pod)
  else await lease.cleanupToken (.stop pod)

/-- `_release_one` after the provider has confirmed the stop. -/
def confirmStopped (svc : Service) (lease : Lease) : Co Lease := do
  let completedAt ← now
  let released ← transitionWithEvidence lease.cleanupToken
    { state := some (if lease.isCatalogAttempt then .releasing else .released)
      cleanupState := some .complete
      creationUncertain := some false
      backendBaseUrl := some none
      lastProviderError := some none
      lastHeartbeatAt := some completedAt
      billingState := if lease.isCatalogAttempt then some .pending else none
      terminatedAt := if lease.isCatalogAttempt then some completedAt else none }
    { lifecycle :=
        if lease.isCatalogAttempt then { stopConfirmedAt := some completedAt } else {} }
    none true svc.fuel lease
  if released.isCatalogAttempt then reconcileBilling svc released else .pure released

/-- `_release_one` from the stop request on. -/
def stopCapacity (svc : Service) (token reason : String) (lease : Lease) : Co Lease := do
  let lease ← countStopAttempt token svc.fuel lease
  if lease.isTerminal then .pure lease
  else do
    let confirmed ←
      except ((endCapacity lease).bind fun confirmed => .pure (Except.ok confirmed))
        Exn.isManager fun x => do
          let lease ← recordRetryableFailure svc lease x none
          if lease.isTerminal then .pure (Except.error lease)
          else raise (cleanupError reason lease)
    match (confirmed : Except Lease Bool) with
    | .error lease => .pure lease
    | .ok true => confirmStopped svc lease
    | .ok false => do
        let heartbeatAt ← now
        let lease ← transitionNonterminal lease.cleanupToken
          { cleanupState := some .pending
            lastProviderError := some (some "StopPending")
            lastHeartbeatAt := some heartbeatAt }
          svc.fuel lease
        if lease.isTerminal then .pure lease else raise (cleanupError reason lease)

/-- `_release_one` for a lease without a provider Pod. -/
def releaseWithoutPod (svc : Service) (lease : Lease) : Co Lease := do
  let terminalAt ← now
  let changes : Changes :=
    { state := some .released
      cleanupState := some .complete
      backendBaseUrl := some none
      lastProviderError := some none
      lastHeartbeatAt := some terminalAt }
  if lease.isCatalogAttempt then do
    let receipt ← zeroCostReceipt svc lease "no-provider-capacity"
    settleZero svc lease changes receipt terminalAt
  else do
    let released ← transitionWithEvidence lease.cleanupToken changes {} none true svc.fuel lease
    if released.isCatalogAttempt then revokeAndRelease svc released else .pure released

/-- The teardown intent, unless the row already has it. -/
def beginReleasing (svc : Service) (lease : Lease) : Co Lease :=
  if lease.state ≠ .releasing then do
    let heartbeatAt ← now
    transitionNonterminal lease.cleanupToken
      { state := some .releasing
        cleanupState := some .pending
        backendBaseUrl := some none
        lastHeartbeatAt := some heartbeatAt }
      svc.fuel lease
  else .pure lease

/-- `_release_one` for a lease with a provider Pod it may stop. -/
def releaseWithPod (svc : Service) (token reason : String) (lease : Lease) : Co Lease := do
  let lease ← beginReleasing svc lease
  stopCapacity svc token reason lease

/-- The lease with its creation decided, or the cleanup error of one that is not. -/
def decideCreation (svc : Service) (lease : Lease) (reason : String) : Co Lease :=
  if lease.providerPodId = none ∧ lease.creationUncertain = true then do
    let lease ← resolveUncertainCreation svc lease reason
    if lease.providerPodId = none ∧ lease.creationUncertain = true then
      raise (cleanupError reason lease)
    else .pure lease
  else .pure lease

/-- `_release_one`: stop one exact attempt idempotently, keeping its ID until confirmed. -/
def releaseOne (svc : Service) (token reason : String) : Co Lease := do
  let lease ← required token
  if lease.isTerminal then .pure lease
  else if lease.isCatalogAttempt = true ∧ lease.cleanupState = .complete ∧
      lease.terminatedAt ≠ none ∧
      (lease.billingState = .pending ∨ lease.billingState = .unresolved) then
    reconcileBilling svc lease
  else if lease.ownership = .preexistingRunning then do
    let heartbeatAt ← now
    transitionNonterminal lease.cleanupToken
      { state := some .released
        cleanupState := some .notOwned
        backendBaseUrl := some none
        lastProviderError := some none
        lastHeartbeatAt := some heartbeatAt }
      svc.fuel lease
  else do
    let lease ← decideCreation svc lease reason
    if lease.providerPodId = none then releaseWithoutPod svc lease
    else releaseWithPod svc token reason lease

/-! ## Release of a cleanup family -/

/-- `_mark_family_release_requested`, after the root row was read. -/
def markFamilyReleaseRequested (token : String) : Nat → Lease → Co Lease
  | 0, _ => .stall
  | fuel + 1, current =>
      if current.familyReleaseRequested then .pure current
      else do
        let heartbeatAt ← now
        except
          (compareAndSet current
            { familyReleaseRequested := some true
              familyReleaseComplete := some false
              lastHeartbeatAt := some heartbeatAt })
          Exn.isConflict fun _ => do
            let current ← required token
            markFamilyReleaseRequested token fuel current

/-- `_mark_family_release_complete`, after the root row was read. -/
def markFamilyReleaseComplete (token : String) : Nat → Lease → Co Lease
  | 0, _ => .stall
  | fuel + 1, current =>
      if current.familyReleaseComplete then .pure current
      else do
        let heartbeatAt ← now
        except
          (compareAndSet current
            { familyReleaseComplete := some true, lastHeartbeatAt := some heartbeatAt })
          Exn.isConflict fun _ => do
            let current ← required token
            markFamilyReleaseComplete token fuel current

/-- `_cleanup_family`. -/
def cleanupFamily (svc : Service) (root : String) : Co (List Lease) :=
  let profileIds :=
    (["training", "training-h100", "training-flex"] ++ svc.profiles.map Prod.fst).dedup
  .perform (.listCleanupFamily root (profileIds.map (svc.fallbackToken root)))
    fun (members : List Lease) => .pure members

/-- The members of a family one after the other; the last failure is remembered. -/
def releaseMembers (svc : Service) (reason : String) :
    List Lease → Option (Option String × CleanupState) →
      Co (Option (Option String × CleanupState))
  | [], failure => .pure failure
  | member :: members, failure =>
      if member.isTerminal then releaseMembers svc reason members failure
      else do
        let failure ←
          except ((releaseOne svc member.cleanupToken reason).bind fun _ => .pure failure)
            Exn.isManager fun x =>
              match x with
              | .cleanup _ _ pod cleanupState _ => .pure (some (pod, cleanupState))
              | _ => do
                  let current ← required member.cleanupToken
                  .pure (some (current.providerPodId, current.cleanupState))
        releaseMembers svc reason members failure

/-- `release`: one exact attempt, or every attempt of the family a root token addresses. -/
def release (svc : Service) (token reason : String) : Co Lease := do
  let exact ← required token
  if exact.rootCleanupToken ≠ token then releaseOne svc token reason
  else do
    let current ← required exact.cleanupToken
    let root ← markFamilyReleaseRequested exact.cleanupToken svc.fuel current
    let members ← cleanupFamily svc token
    let failure ← releaseMembers svc reason members none
    match failure with
    | some (pod, cleanupState) => raise (.cleanup reason token pod cleanupState true)
    | none => do
        let current ← required root.cleanupToken
        markFamilyReleaseComplete root.cleanupToken svc.fuel current

end KestrelRunpod.Pod
