import KestrelRunpod.Interleave.System
import KestrelRunpod.Pod.Repository

/-!
# Effects of the lease service

The atomic effects of `PodCapacityLeaseService`: one operation for each store transaction
and each clock read, and two for each awaited call, so that a request and its response are
separate moments.  A response may be any value or exception, `CancelledError` included.

Two operations have no counterpart that other tasks could see.  `mergeEvidence` is the pure
construction of merged evidence, kept as an operation so that a trace shows every merge and
whether a constructor refused it.  `joined` is the return of a caller that waited for an
owned effect, and tells whether the caller was cancelled meanwhile.
-/

namespace KestrelRunpod.Pod

open Interleave

/-! ## Calls -/

/-- `TrainingPodObservation`. -/
structure PodObservation where
  status : String
  backendBaseUrl : Option String
  deriving DecidableEq, Repr

namespace PodObservation

def isRunning (o : PodObservation) : Bool := o.status.toUpper = "RUNNING"

def isStopped (o : PodObservation) : Bool :=
  ["EXITED", "STOPPED", "TERMINATED"].contains o.status.toUpper

def isFailed (o : PodObservation) : Bool := ["FAILED", "ERROR"].contains o.status.toUpper

end PodObservation

/-- `CreatedTrainingPod`. -/
structure CreatedPod where
  providerPodId : String
  realizedPlacement : Option RealizedPlacement
  deriving DecidableEq

/-- `CatalogAttemptCapability` without its secret. -/
structure Capability where
  secretId : String
  tokenSha256 : String
  expiresAt : Instant
  deriving DecidableEq, Repr

/-- An awaited call to the provider, the capability store or the worker. -/
inductive Call
  | observe (podId : String)
  | start (podId : String) (gpuCount : Nat)
  | create (resourceName : String) (spec : Option CapacitySpec)
  | findByName (resourceName : String)
  | findExact (resourceName : String) (spec : CapacitySpec)
  | stop (podId : String)
  | terminate (podId : String)
  | finalBilling (podId : String) (createdAt terminatedAt : Instant) (hourlyRateUsd : ℚ)
  | loadOrCreate (attemptId : String) (expiresAt : Instant)
  | load (attemptId : String)
  | revoke (attemptId : String)
  | health (baseUrl : String)
  | submit (baseUrl attemptId requestSha256 : String)
  | status (baseUrl attemptId requestSha256 : String)
  | result (baseUrl attemptId requestSha256 : String) (protocol : Option Nat)
  | acknowledge (baseUrl attemptId requestSha256 : String) (payload : List (String × Json))
  | recoverHandoff (baseUrl attemptId requestSha256 : String) (payload : List (String × Json))
  | cancel (baseUrl attemptId requestSha256 : String)
  | workloadStatus
  | sleep

/-- The value a call returns when it does not raise. -/
@[reducible] def Call.Value : Call → Type
  | .observe _ => PodObservation
  | .start _ _ => Unit
  | .create _ _ => CreatedPod
  | .findByName _ => Option String
  | .findExact _ _ => Option CreatedPod
  | .stop _ => Bool
  | .terminate _ => Bool
  | .finalBilling _ _ _ _ => Option BillingReceipt
  | .loadOrCreate _ _ => Capability
  | .load _ => Option Capability
  | .revoke _ => Unit
  | .health _ => Unit
  | .submit _ _ _ => Observation
  | .status _ _ _ => Observation
  | .result _ _ _ _ => List (String × Json)
  | .acknowledge _ _ _ _ => Observation
  | .recoverHandoff _ _ _ _ => Observation
  | .cancel _ _ _ => Observation
  | .workloadStatus => Option String
  | .sleep => Unit

/-! ## Operations -/

/-- An atomic effect.  `send` names the lease on whose behalf the call is made. -/
inductive Op
  | reserve (request : PodRequest)
  | get (token : String)
  | compareAndSet (lease : Lease) (changes : Changes)
  | listCleanupFamily (root : String) (legacyTokens : List String)
  | listIncompleteFamilyReleases
  | listForReconciliation
  | now
  | mergeEvidence (evidence : PodCapacityEvidence) (update : EvidenceUpdate)
  | send (token : String) (call : Call)
  | recv (id : Nat) (call : Call)
  | joined

@[reducible] def Op.Reply : Op → Type
  | .reserve _ => Except Exn (Lease × Bool)
  | .get _ => Option Lease
  | .compareAndSet _ _ => Except Exn Lease
  | .listCleanupFamily _ _ => List Lease
  | .listIncompleteFamilyReleases => List Lease
  | .listForReconciliation => List Lease
  | .now => Instant
  | .mergeEvidence _ _ => Except Exn PodCapacityEvidence
  | .send _ _ => Nat
  | .recv _ call => Except Exn call.Value
  | .joined => Bool

/-- The operations of the lease service and their replies. -/
abbrev Effects : Signature := ⟨Op, Op.Reply⟩

/-- A coroutine of the lease service. -/
abbrev Co (α : Type) : Type := Program Effects Exn α

/-- What a coroutine has done so far. -/
abbrev Past : Type := History Effects

/-! ## Elementary coroutines -/

/-- The configuration of one `PodCapacityLeaseService`.  `fuel` bounds its retry loops; a
loop that would run longer is never resumed. -/
structure Service where
  digests : Digests
  profiles : List (String × Nat)
  orphanTimeout : Int
  hasCapabilityStore : Bool
  hasWorkloadTransport : Bool
  hasStatusObserver : Bool
  fallbackToken : String → String → String
  fuel : Nat

/-- `raise`. -/
def raise {α : Type} (x : Exn) : Co α := .throw x

/-- `_now`. -/
def now : Co Instant := .perform .now fun (t : Instant) => .pure t

/-- `await`: send the call, later receive its outcome. -/
def await (token : String) (call : Call) : Co call.Value :=
  .perform (.send token call) fun id =>
    .perform (.recv id call) fun outcome => .ofExcept outcome

/-- `await_owned_effect`: the effect runs to its end; its failure takes precedence over a
cancellation of the caller. -/
def awaitOwned {α : Type} (effect : Co α) : Co α :=
  effect.bind fun a =>
    .perform .joined fun (cancelled : Bool) => if cancelled then raise .cancelled else .pure a

/-- `except` for the exceptions that `caught` selects. -/
def except {α : Type} (body : Co α) (caught : Exn → Bool) (handler : Exn → Co α) : Co α :=
  body.handle fun x => if caught x then handler x else raise x

/-- `repository.get`. -/
def getLease (token : String) : Co (Option Lease) :=
  .perform (.get token) fun (found : Option Lease) => .pure found

/-- `repository.compare_and_set`. -/
def compareAndSet (lease : Lease) (changes : Changes) : Co Lease :=
  .perform (.compareAndSet lease changes) fun reply => .ofExcept reply

/-- `_required`. -/
def required (token : String) : Co Lease :=
  (getLease token).bind fun found =>
    match found with
    | some lease => .pure lease
    | none => raise (.manager ("Training cleanup token '" ++ token ++ "' was not found"))

/-- `_capacity_spec`. -/
def capacitySpec (lease : Lease) : Co CapacitySpec :=
  match lease.capacitySpec with
  | some spec => .pure spec
  | none => raise (.manager "Pod lease is not a catalog capacity attempt")

/-- `_pod_id`. -/
def podId (lease : Lease) : Co String :=
  match lease.providerPodId with
  | some id => if id = "" then raise (.manager ("Training cleanup token '" ++
      lease.cleanupToken ++ "' has no Pod ID")) else .pure id
  | none => raise (.manager ("Training cleanup token '" ++ lease.cleanupToken ++
      "' has no Pod ID"))

/-- `_profile`: the GPU count of a configured profile. -/
def profile (svc : Service) (profileId : String) : Co Nat :=
  match svc.profiles.lookup profileId with
  | some gpuCount => .pure gpuCount
  | none => raise (.manager ("Stored training profile '" ++ profileId ++
      "' is no longer configured"))

/-- `_route`. -/
def route (lease : Lease) : Co String :=
  match lease.backendBaseUrl with
  | some url => if url = "" then raise (.manager "Catalog Pod lease has no workload route")
      else .pure url
  | none => raise (.manager "Catalog Pod lease has no workload route")

/-- `_require_capability_store`. -/
def requireCapabilityStore (svc : Service) : Co Unit :=
  if svc.hasCapabilityStore then .pure ()
  else raise (.manager "Catalog Pod capacity requires an encrypted capability store")

/-- `_require_workload_transport`. -/
def requireWorkloadTransport (svc : Service) : Co Unit :=
  if svc.hasWorkloadTransport then .pure ()
  else raise (.manager "Catalog Pod capacity requires the authenticated workload transport")

/-- `_validate_capability`. -/
def validateCapability (request : CapacityRequest) (capability : Capability) : Co Unit :=
  if capability.expiresAt = request.bearerExpiresAt then .pure ()
  else raise (.manager "Catalog Pod capability expiry does not match the attempt policy")

/-- `_cleanup_error`. -/
def cleanupError (reason : String) (lease : Lease) : Exn :=
  .cleanup reason lease.cleanupToken lease.providerPodId lease.cleanupState true

/-- `_lifecycle_error`. -/
def lifecycleError (operation : String) (lease : Lease) (billingRisk : Bool) : Exn :=
  .lifecycle operation lease.cleanupToken lease.providerPodId lease.cleanupState billingRisk

/-- `isinstance(x, RunPodAmbiguousResultError)`. -/
def Exn.isAmbiguous : Exn → Bool
  | .ambiguous _ => true
  | _ => false

/-- `isinstance(x, TrainingPodConflictError)`. -/
def Exn.isConflict : Exn → Bool
  | .conflict _ => true
  | _ => false

/-- `isinstance(x, TrainingPodCleanupError)`. -/
def Exn.isCleanup : Exn → Bool
  | .cleanup .. => true
  | _ => false

end KestrelRunpod.Pod
