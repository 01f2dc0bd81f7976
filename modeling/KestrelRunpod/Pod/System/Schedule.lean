import KestrelRunpod.Pod.System.Columns

/-!
# Schedules of the service

A schedule is evaluated against the world: what waits for nobody is answered at once, and a
response is given where the schedule says so.  `World.serve_possible` and `respond_possible`
say that the world never blocks a task, and `exhibits` that what an evaluated schedule reaches
is reached by a run of the service.

The sample inputs at the end are those of the runs that exhibit a behaviour: one catalog
capacity and one service.
-/

namespace KestrelRunpod.Pod

open Interleave

/-! ## Answers -/

/-- The reply to an operation that waits for nobody, and the world after it: the clock stands
still, and the caller of an owned effect is not cancelled. -/
def World.serve (d : Digests) (w : World) : (op : Op) → Option (op.Reply × World)
  | .reserve request =>
      let (rows, reply) := w.rows.reserve d request
      some (reply, { w with rows := rows })
  | .get token => some (w.rows.get token, w)
  | .compareAndSet lease changes =>
      let (rows, reply) := w.rows.compareAndSet lease changes
      some (reply, { w with rows := rows })
  | .listCleanupFamily root legacy => some (w.rows.listCleanupFamily root legacy, w)
  | .listIncompleteFamilyReleases => some (w.rows.listIncompleteFamilyReleases, w)
  | .listForReconciliation => some (w.rows.listForReconciliation, w)
  | .now => some (w.clock, w)
  | .mergeEvidence evidence update => some (evidence.merge update, w)
  | .send token call =>
      some (w.calls.length, { w with calls := w.calls ++ [⟨token, call, w.clock, .pending⟩] })
  | .recv _ _ => none
  | .joined => some (false, w)

/-- The reply to a task that waits for a response. -/
def respond (answer : (call : Call) → Option (Except Exn call.Value)) (_ : World) :
    (op : Op) → Option op.Reply
  | .recv _ call => answer call
  | _ => none

section

variable {d : Digests} {w : World}

/-- An operation that waits for nobody is always served. -/
theorem World.serve_isSome {op : Op} (immediate : ∀ id call, op ≠ .recv id call) :
    (w.serve d op).isSome = true := by
  cases op with
  | recv id call => exact absurd rfl (immediate id call)
  | _ => rfl

/-- The reply is possible, and leads to that world. -/
theorem World.serve_possible {op : Op} {reply : op.Reply} {w' : World}
    (served : w.serve d op = some (reply, w')) : perform d w ⟨op, reply⟩ = some w' := by
  cases op with
  | recv id call => cases served
  | reserve request =>
      simp only [serve, Option.some.injEq, Prod.mk.injEq] at served
      obtain ⟨rfl, rfl⟩ := served
      exact perform_reserve.mpr ⟨_, rfl, rfl⟩
  | compareAndSet lease changes =>
      simp only [serve, Option.some.injEq, Prod.mk.injEq] at served
      obtain ⟨rfl, rfl⟩ := served
      exact perform_compareAndSet.mpr ⟨_, rfl, rfl⟩
  | now =>
      simp only [serve, Option.some.injEq, Prod.mk.injEq] at served
      obtain ⟨rfl, rfl⟩ := served
      exact perform_now.mpr ⟨Int.le_refl _, rfl⟩
  | _ =>
      simp only [serve, Option.some.injEq, Prod.mk.injEq] at served
      obtain ⟨rfl, rfl⟩ := served
      simp [perform]

/-- Serve every operation that waits for nobody. -/
def serving (d : Digests) : Operator (runtime d) := ⟨World.serve d, World.serve_possible⟩

/-- Any response may be an exception that is no definite failure, whatever was dispatched. -/
theorem respond_possible {call : Call} {id : Nat} {record : CallRecord} {x : Exn}
    (dispatched : w.calls[id]? = some record) (indefinite : x.isDefinite = false)
    (unmatched : ∀ pod, x ≠ .createdMismatch pod) :
    perform d w ⟨.recv id call, .error x⟩ = some w := by
  refine perform_recv.mpr ⟨record, dispatched, ?_, rfl⟩
  cases call <;> cases x <;> simp_all [honest]

end

/-! ## Schedules -/

section

variable {d : Digests} {callers : Callers}

/-- A schedule of service tasks. -/
abbrev Schedule (d : Digests) (callers : Callers) : Type :=
  List (Cue (runtime d) (Admits d callers))

/-- Let task `i` perform up to `limit` operations that wait for nobody. -/
def runs (i limit : Nat) : Cue (runtime d) (Admits d callers) := .runOn i (serving d) limit

/-- Give task `i` the response that it waits for. -/
def gets (i : Nat) (answer : (call : Call) → Option (Except Exn call.Value)) :
    Cue (runtime d) (Admits d callers) := .act i (.answering (runtime d) (respond answer))

/-- The configuration a schedule reaches from an empty store. -/
def Schedule.outcome (schedule : Schedule d callers) (K : Restriction Effects World)
    [∀ w log i e, Decidable (K w log i e)] (clock : Instant) :
    Option (Config Effects Exn World) :=
  (Config.initial Effects Exn (World.empty clock)).execute K schedule

/-- What a schedule reaches is reached by a run of the service. -/
theorem exhibits (schedule : Schedule d callers) (K : Restriction Effects World)
    [∀ w log i e, Decidable (K w log i e)] (clock : Instant)
    (check : Config Effects Exn World → Bool)
    (evaluated : (schedule.outcome K clock).any check = true) :
    ∃ c, ServiceRun d callers K clock c ∧ check c = true :=
  Config.exhibits schedule check evaluated

/-- What two schedules reach, one after the other, is reached by a run that passes through the
configuration between them. -/
theorem exhibits_onward (first second : Schedule d callers) (K : Restriction Effects World)
    [∀ w log i e, Decidable (K w log i e)] (clock : Instant)
    (check : Config Effects Exn World → Config Effects Exn World → Bool)
    (evaluated : ((first.outcome K clock).any fun before =>
      (before.execute K second).any (check before)) = true) :
    ∃ before c, ServiceRun d callers K clock before ∧
      Run (runtime d) (Admits d callers) K before c ∧ check before c = true := by
  obtain ⟨before, run, onward⟩ := exhibits first K clock
    (fun before => (before.execute K second).any (check before)) evaluated
  obtain ⟨c, reached, checked⟩ := (Option.any_eq_true _ _).mp onward
  exact ⟨before, c, run, Config.execute_run reached, checked⟩

end

/-! ## Sample inputs -/

namespace Sample

/-- A lowercase hexadecimal digest. -/
def hex (c : Char) : String := String.ofList (List.replicate 64 c)

def digests : Digests where
  text _ := hex 'a'
  capacityRequest _ := hex 'b'
  podRequest _ := hex 'c'
  environment _ := hex 'd'
  acknowledgement _ := hex 'e'
  text_hex _ := by decide +kernel
  acknowledgement_hex _ := by decide +kernel

def quote : Quote where
  providerQuoteId := "quote-0001"
  workloadKind := "training"
  parametersSha256 := hex '1'
  constraints := ⟨1, .secure, []⟩
  gpuTypeId := "NVIDIA A100"
  gpuDisplayName := "A100"
  hourlyCostUsd := 2
  costCeilingUsd := 8
  maximumRuntimeSeconds := 14400
  observedAt := seconds 100
  expiresAt := seconds 1000
  checked := by decide +kernel

def request : CapacityRequest where
  capacityId := "capacity-1"
  cleanupFamilyId := "capacity-1"
  ownerId := "owner-0001"
  workloadId := "workload-1"
  attemptId := "attempt-1"
  idempotencyKey := "idempotency-1"
  requestSha256 := hex '2'
  workloadKind := "training"
  parametersSha256 := hex '1'
  imageRepository := "registry/worker"
  imageDigest := "sha256:" ++ hex '3'
  profileId := "profile-1"
  quote := quote
  acceptedMaxCostUsd := 8
  createdAt := seconds 200
  readinessDeadline := seconds 2000
  hardDeadline := seconds 8000
  bearerExpiresAt := seconds 9000
  idleTimeoutSeconds := 300
  cleanupGraceSeconds := 600
  attemptEnvironmentKeys := []
  artifactHandoffProtocolVersion := some 1
  checked := by decide +kernel

def capability : Capability := ⟨"secret-0001", hex '4', seconds 9000⟩

def spec : CapacitySpec where
  request := request
  capabilitySecretId := "secret-0001"
  capabilityTokenSha256 := hex '4'
  capabilityExpiresAt := seconds 9000
  attemptEnvironmentSha256 := hex 'd'
  checked := by decide +kernel

/-- The capacity's own resource name, and for any other lease its token. -/
def agreed : Callers where
  names := Equiv.swap "capacity-1" (request.resourceName digests)
  distinct := (Equiv.swap _ _).injective
  confirms _ := True

def service : Service where
  digests := digests
  profiles := [("profile-1", 1)]
  orphanTimeout := seconds 300
  hasCapabilityStore := true
  hasWorkloadTransport := true
  hasStatusObserver := false
  fallbackToken token profile := token ++ profile
  fuel := 4

theorem configured : service.digests = digests := rfl

theorem named : request.resourceName digests = agreed.names request.capacityId := by
  simp [agreed, request]

def placement : RealizedPlacement where
  providerPodId := "pod-00001"
  gpuTypeId := "NVIDIA A100"
  gpuDisplayName := "A100"
  gpuCount := 1
  cloud := .secure
  dataCenterId := "EU-RO-1"
  hourlyRateUsd := 2
  observedAt := seconds 250
  checked := by decide +kernel

/-- Every call that returns nothing succeeds. -/
def succeeds : (call : Call) → Option (Except Exn call.Value)
  | .start _ _ => some (.ok ())
  | .revoke _ => some (.ok ())
  | .health _ => some (.ok ())
  | .sleep => some (.ok ())
  | _ => none

/-- Responses of a provider that brings the capacity up, and of a worker that is healthy. -/
def comesUp : (call : Call) → Option (Except Exn call.Value)
  | .loadOrCreate _ _ => some (.ok capability)
  | .load _ => some (.ok (some capability))
  | .create _ _ => some (.ok ⟨"pod-00001", some placement⟩)
  | .observe _ => some (.ok ⟨"RUNNING", some "https://pod-00001"⟩)
  | call => succeeds call

theorem acquires : Admits digests agreed (acquireCatalog service request [] false).void :=
  .acquireCatalog service request [] false configured named

/-- Acquire the capacity until its worker is ready. -/
def bringUp : Schedule digests agreed :=
  [.spawn 0 _ (.acquireCatalog service request [] true configured named),
    runs 0 9, gets 0 comesUp, runs 0 9, .drift (.accept 1 "pod-00001"),
    gets 0 comesUp, runs 0 20, gets 0 comesUp, runs 0 20, gets 0 comesUp, runs 0 20]

end Sample

end KestrelRunpod.Pod
