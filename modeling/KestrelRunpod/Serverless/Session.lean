import KestrelRunpod.Serverless.Activation

/-!
# One cleanup session

A cleanup observes the endpoint, persists its intent, deletes and proves absence.
`cleanupPlannedEndpoint_proper` is the walk through one session, with what every delete and
every receipt of it goes by, and no `ValueError` of its own on a clock that ascends.
-/

namespace KestrelRunpod.Serverless

open Interleave Catalog Numeric
open Traverse

variable {d : Digests} {α β : Type} {h : Past d}

/-! ## Checks that raise no `ValueError` -/

/-- The computation raises no `ValueError`. -/
def Managed (e : Except Exn α) : Prop := ∀ x, e = .error x → x.isValueError = false

theorem managed_ok (a : α) : Managed (.ok a) := raises_ok a

theorem managed_error {x : Exn} (is : x.isValueError = false) :
    Managed (.error x : Except Exn α) := raises_error is

theorem managed_refuse {bad : Prop} [Decidable bad] {x : Exn} (is : x.isValueError = false) :
    Managed (refuse bad x) := by
  intro y failed
  rw [← (refuse_error.mp failed).2]
  exact is

theorem managed_bind {e : Except Exn α} {f : α → Except Exn β} (first : Managed e)
    (second : ∀ a, Managed (f a)) : Managed (e >>= f) := raises_bind first second

theorem managed_mapM {f : α → Except Exn β} (each : ∀ a, Managed (f a)) (as : List α) :
    Managed (as.mapM f) := raises_mapM each as

theorem managed_mapping (value : Json) (context : String) : Managed (value.mapping context) := by
  cases value with
  | obj fields => exact managed_ok fields
  | _ => exact managed_error rfl

theorem managed_stringTuple (value : Json) (context : String) :
    Managed (value.stringTuple context) := by
  unfold Json.stringTuple
  split
  · refine managed_mapM (fun item => ?_) _
    split
    · split
      · exact managed_error rfl
      · exact managed_ok _
    · exact managed_error rfl
  · exact managed_error rfl

theorem managed_integer (value : Json) (context : String) : Managed (value.integer context) := by
  unfold Json.integer
  split
  · split
    · exact managed_error rfl
    · exact managed_ok _
  · exact managed_error rfl

theorem managed_decimal (value : Json) (context : String) : Managed (value.decimal context) := by
  unfold Json.decimal
  split
  · split
    · exact managed_error rfl
    · exact managed_ok _
  · split
    · exact managed_error rfl
    · exact managed_ok _
  · exact managed_error rfl

theorem managed_networkMount (value : Json) : Managed (networkMount value) := by
  unfold networkMount
  split
  · split
    · split
      · split
        · exact managed_error rfl
        · exact managed_ok _
      · exact managed_error rfl
    · exact managed_error rfl
  · exact managed_error rfl

theorem managed_mounts (raw : List (String × Json)) (expected : List String) :
    Managed (validateEndpointMounts raw expected) := by
  unfold validateEndpointMounts
  split
  · refine managed_bind (managed_refuse rfl) fun _ => ?_
    split
    · refine managed_bind (managed_refuse rfl) fun _ => ?_
      refine managed_bind (managed_mapM managed_networkMount _) fun _ => ?_
      exact managed_refuse rfl
    · exact managed_error rfl
  · exact managed_error rfl

/-- The CUDA floor of a specification has passed its constraints' check. -/
theorem managed_expectedFloor (spec : EndpointSpec) : Managed spec.expectedFloor := by
  unfold EndpointSpec.expectedFloor
  split
  · have checked := spec.constraints.checked
    unfold ConstraintFields.check at checked
    simp only [except_bind_ok] at checked
    obtain ⟨-, -, -, -, floor, normal, -⟩ := checked
    rw [normal]
    exact managed_ok floor
  · exact managed_ok none

theorem managed_endpointConfig (endpoint : EndpointResource) (spec : EndpointSpec)
    (gpuPool dataCenterId : String) :
    Managed (validateEndpointConfig endpoint spec gpuPool dataCenterId) := by
  unfold validateEndpointConfig
  refine managed_bind (managed_refuse rfl) fun _ => ?_
  refine managed_bind (managed_mapping _ _) fun gpu => ?_
  refine managed_bind (managed_mapping _ _) fun workers => ?_
  refine managed_bind (managed_mapping _ _) fun scaling => ?_
  refine managed_bind (managed_stringTuple _ _) fun pools => ?_
  refine managed_bind (managed_refuse rfl) fun _ => ?_
  refine managed_bind (managed_integer _ _) fun count => ?_
  refine managed_bind (managed_refuse rfl) fun _ => ?_
  refine managed_bind (managed_expectedFloor spec) fun floor => ?_
  refine managed_bind (managed_refuse rfl) fun _ => ?_
  refine managed_bind (managed_refuse rfl) fun _ => ?_
  refine managed_bind (managed_stringTuple _ _) fun allowed => ?_
  refine managed_bind (managed_refuse rfl) fun _ => ?_
  refine managed_bind (managed_mounts _ _) fun _ => ?_
  refine managed_bind (managed_integer _ _) fun least => ?_
  refine managed_bind (managed_refuse rfl) fun _ => ?_
  refine managed_bind (managed_integer _ _) fun most => ?_
  refine managed_bind (managed_refuse rfl) fun _ => ?_
  refine managed_bind (managed_integer _ _) fun idle => ?_
  refine managed_bind (managed_refuse rfl) fun _ => ?_
  refine managed_bind (managed_refuse rfl) fun _ => ?_
  refine managed_bind (managed_decimal _ _) fun delay => ?_
  refine managed_bind (managed_refuse rfl) fun _ => ?_
  refine managed_bind (managed_stringTuple _ _) fun dataCenters => ?_
  refine managed_bind (managed_refuse rfl) fun _ => ?_
  refine managed_bind (managed_stringTuple _ _) fun volumes => ?_
  refine managed_bind (managed_refuse rfl) fun _ => ?_
  refine managed_bind (managed_refuse rfl) fun _ => ?_
  refine managed_bind (managed_stringTuple _ _) fun ports => ?_
  refine managed_bind (managed_refuse rfl) fun _ => ?_
  refine managed_bind (managed_mapping _ _) fun env => ?_
  refine managed_bind (managed_refuse rfl) fun _ => ?_
  refine managed_bind (managed_refuse rfl) fun _ => ?_
  refine managed_bind (managed_refuse rfl) fun _ => ?_
  exact managed_ok _

theorem managed_bindEndpoint (endpoint : EndpointResource) (request : QuoteRequest)
    (quote : CapacityQuote) (endpointId : String) :
    Managed (bindEndpoint (d := d) endpoint request quote endpointId) :=
  managed_bind (managed_refuse rfl) fun _ =>
    managed_bind (managed_endpointConfig _ _ _ _) fun _ => managed_ok _

/-! ## Workers -/

/-- A page of workers that lists none, and counts none in any state. -/
def WorkersZero (page : List (String × Json)) : Prop :=
  Json.get page "workers" = .arr [] ∧ ∃ summary, Json.get page "summary" = .obj summary ∧
    ∀ key ∈ workerSummaryKeys, Json.get summary key = .int 0

theorem countsAreZero_true {summary : List (String × Json)} {keys : List String}
    (zero : countsAreZero summary keys = .ok true) :
    ∀ key ∈ keys, Json.get summary key = .int 0 := by
  induction keys with
  | nil =>
      intro key held
      cases held
  | cons first keys ih =>
      obtain ⟨count, read, rest⟩ := except_bind_ok.mp zero
      obtain ⟨is, -⟩ := Json.integer_ok.mp read
      split at rest
      · rename_i none_
        intro key held
        rcases List.mem_cons.mp held with rfl | later
        · rw [is, none_]
        · exact ih rest key later
      · cases rest

theorem workersAreZero_ok {activation : ActivationReceipt d} {page : List (String × Json)}
    (ok : workersAreZero activation page = .ok ()) : WorkersZero page := by
  unfold workersAreZero at ok
  split at ok
  · rename_i workers summary hasWorkers hasSummary
    simp only [↓refuse_bind_ok, except_bind_ok, refuse_ok, not_or, Bool.not_eq_false] at ok
    obtain ⟨-, zero, counted, noWorkers, allZero⟩ := ok
    rw [allZero] at counted
    cases counts : countsAreZero summary workerSummaryKeys with
    | error x =>
        rw [counts] at counted
        cases counted
    | ok all =>
        rw [counts] at counted
        cases counted
        refine ⟨?_, summary, hasSummary, countsAreZero_true counts⟩
        rw [hasWorkers, List.isEmpty_iff.mp noWorkers]
  · cases ok

theorem managed_workersAreZero (activation : ActivationReceipt d) (page : List (String × Json)) :
    Managed (workersAreZero activation page) := by
  unfold workersAreZero
  split
  · rename_i workers summary _ _
    refine managed_bind (managed_refuse rfl) fun _ => ?_
    refine managed_bind ?_ fun _ => managed_refuse rfl
    cases countsAreZero summary workerSummaryKeys with
    | ok zero => exact managed_ok zero
    | error x => exact managed_error rfl
  · exact managed_error rfl

/-! ## Clocks -/

/-- What the clock last read, on a history that starts at `c`. -/
def latest (c : Instant) : Past d → Instant
  | [] => c
  | ⟨.now, t⟩ :: _ => t
  | _ :: h => latest c h

/-- No clock read is before another that it follows, or before `c`. -/
def Ascending (c : Instant) : Past d → Prop
  | [] => True
  | e :: h => Ascending c h ∧ ∀ t, e = ⟨.now, t⟩ → latest c h ≤ t

theorem latest_ge {c : Instant} (ascending : Ascending c h) : c ≤ latest c h := by
  induction h with
  | nil => exact le_refl c
  | cons e h ih =>
      have before := ih ascending.1
      obtain ⟨op, reply⟩ := e
      cases op with
      | now => exact before.trans (ascending.2 reply rfl)
      | send call => exact before
      | recv call => exact before
      | joined => exact before

theorem latest_mem {c s : Instant} (ascending : Ascending c h) (read : ⟨.now, s⟩ ∈ h) :
    s ≤ latest c h := by
  induction h with
  | nil => cases read
  | cons e h ih =>
      rcases List.mem_cons.mp read with rfl | earlier
      · exact le_refl s
      · have before := ih ascending.1 earlier
        obtain ⟨op, reply⟩ := e
        cases op with
        | now => exact before.trans (ascending.2 reply rfl)
        | send call => exact before
        | recv call => exact before
        | joined => exact before

theorem Ascending.suffix {c : Instant} {later earlier : Past d}
    (ascending : Ascending c (later ++ earlier)) : Ascending c earlier := by
  induction later with
  | nil => exact ascending
  | cons e later ih => exact ih ascending.1

/-! ## Walks with exceptions -/

/-- The exception is the answer to a call. -/
def Foreign (h : Past d) (x : Exn) : Prop :=
  ∃ call : Call d, (⟨.recv call, .error x⟩ : Event (Effects d)) ∈ h

/-- The coroutine keeps the contract, its value meets `done`, and on a clock that ascends from
`c` every `ValueError` it raises is the answer to a call. -/
def Proper (C : Contract (Effects d)) (c : Instant) (done : Past d → α → Prop) (p : Co d α)
    (h : Past d) : Prop :=
  p.Obeys C done (fun h' x => Ascending c h' → x.isValueError = true → Foreign h' x) h

section

variable {C : Contract (Effects d)} {c : Instant} {done : Past d → β → Prop}

theorem proper_pure {b : β} (met : done h b) : Proper C c done (.pure b) h := met

theorem proper_raise {x : Exn} (is : x.isValueError = false) :
    Proper C c done (raise x : Co d β) h := by
  intro _ value
  rw [is] at value
  cases value

theorem proper_ofExcept {e : Except Exn β} (met : ∀ b, e = .ok b → done h b)
    (sound : Ascending c h → Managed e) : Proper C c done (Program.ofExcept e) h := by
  refine Program.obeys_ofExcept.mpr ⟨met, fun x failed ascending value => ?_⟩
  rw [sound ascending x failed] at value
  cases value

theorem proper_bind {p : Co d α} {f : α → Co d β} {mid : Past d → α → Prop}
    (first : Proper C c mid p h)
    (second : ∀ h' a, h <:+ h' → mid h' a → Proper C c done (f a) h') :
    Proper C c done (p >>= f) h :=
  Program.obeys_bind.mpr (Program.Obeys.weaken first second fun _ _ _ raised => raised)

theorem proper_check {e : Except Exn α} {f : α → Co d β}
    (sound : Ascending c h → Managed e)
    (next : ∀ a, e = .ok a → Proper C c done (f a) h) :
    Proper C c done (Program.ofExcept e >>= f) h := by
  cases e with
  | ok a => exact next a rfl
  | error x =>
      intro ascending value
      rw [sound ascending x rfl] at value
      cases value

theorem proper_refuse {bad : Prop} [Decidable bad] {x : Exn} {f : Unit → Co d β}
    (is : x.isValueError = false) (next : ¬ bad → Proper C c done (f ()) h) :
    Proper C c done (Program.ofExcept (refuse bad x) >>= f) h :=
  proper_check (fun _ => managed_refuse is) fun _ passed => next (refuse_ok.mp passed)

theorem proper_now {f : Instant → Co d β} (permitted : C.permits h .now)
    (next : ∀ t, Proper C c done (f t) (⟨.now, t⟩ :: h)) :
    Proper C c done ((now : Co d Instant) >>= f) h :=
  ⟨permitted, fun t _ => next t⟩

theorem proper_await {call : Call d} {f : call.Value → Co d β}
    (sent : C.permits h (.send call))
    (received : C.permits (⟨.send call, ()⟩ :: h) (.recv call))
    (next : ∀ value, Proper C c done (f value)
      (⟨.recv call, .ok value⟩ :: ⟨.send call, ()⟩ :: h)) :
    Proper C c done (await call >>= f) h := by
  refine ⟨sent, fun _ _ => ⟨received, fun reply _ => ?_⟩⟩
  cases reply with
  | ok value => exact next value
  | error x => exact fun _ _ => ⟨call, List.mem_cons_self⟩

/-- An owned effect, whose end is the end of the coroutine. -/
theorem proper_owned {p : Co d β} (joins : ∀ h', C.permits h' .joined)
    (effect : Proper C c (fun h' b => done (⟨.joined, false⟩ :: h') b) p h) :
    Proper C c done (awaitOwned p) h := by
  refine proper_bind effect fun h' b _ met => ⟨joins h', fun cancelled _ => ?_⟩
  cases cancelled with
  | false => exact met
  | true =>
      intro _ value
      cases value

end

/-! ## Receipts of a cleanup -/

theorem CleanupIntent.build_fields {i : IntentFields d} {intent : CleanupIntent d}
    (ok : CleanupIntent.build i = .ok intent) : intent.toIntentFields = i := by
  unfold CleanupIntent.build at ok
  split at ok
  · cases ok
    rfl
  · cases ok

theorem CleanupReceipt.build_fields {c : CleanupFields} {receipt : CleanupReceipt d}
    (ok : CleanupReceipt.build d c = .ok receipt) : receipt.toCleanupFields = c := by
  unfold CleanupReceipt.build at ok
  split at ok
  · cases ok
    rfl
  · cases ok

theorem CleanupReceipt.build_total {c : CleanupFields} (checked : c.check d = .ok ()) :
    ∃ receipt, CleanupReceipt.build d c = .ok receipt := by
  unfold CleanupReceipt.build
  split
  · exact ⟨_, rfl⟩
  · rename_i x failed
    rw [checked] at failed
    cases failed

/-- What a cleanup receipt takes from its intent and its basis. -/
theorem cleanupReceipt_fields {intent : CleanupIntent d} {verifiedAbsentAt : Instant}
    {basis : CleanupBasis} {receipt : CleanupReceipt d}
    (ok : cleanupReceipt intent verifiedAbsentAt basis = .ok receipt) :
    receipt.toCleanupBinding = intent.activation.cleanupBinding ∧
      receipt.workersZeroObservedAt = intent.workersZeroObservedAt ∧
      receipt.deleteStartedAt = intent.deleteStartedAt ∧
      receipt.verifiedAbsentAt = verifiedAbsentAt := by
  have fields := CleanupReceipt.build_fields ok
  rw [fields]
  exact ⟨rfl, rfl, rfl, rfl⟩

/-- A receipt can be constructed for every intent whose delete precedes the proof of absence. -/
theorem cleanupReceipt_constructible {intent : CleanupIntent d} {verifiedAbsentAt : Instant}
    (ordered : intent.deleteStartedAt ≤ verifiedAbsentAt) (basis : CleanupBasis) :
    ∃ receipt, cleanupReceipt intent verifiedAbsentAt basis = .ok receipt := by
  have activated := intent.activation.checked
  have intended := intent.checked
  unfold ActivationFields.check supported safeIdentifier sha256Digest at activated
  unfold IntentFields.check supported at intended
  simp only [↓refuse_bind_ok, refuse_ok, except_bind_ok, Bool.not_eq_false] at activated intended
  obtain ⟨⟨⟩, ⟨-, version⟩, activationId, quoteId, -, name, id, quoteDigest, -, specDigest,
    operation, readback, -⟩ := activated
  obtain ⟨⟨⟩, -, times⟩ := intended
  have stem : isIdentifier "runpod-serverless-cleanup:" = true := by decide +kernel
  refine CleanupReceipt.build_total ?_
  unfold CleanupFields.check supported safeIdentifier sha256Digest
  simp only [↓refuse_bind_ok, refuse_ok, except_bind_ok, Bool.not_eq_false]
  refine ⟨(), ⟨?_, refuse_ok.mpr (refuse_ok.mp version)⟩,
    isIdentifier_append_sha256 stem (by decide +kernel) (d.cleanup_hex _), quoteId, activationId,
    name, id, quoteDigest, specDigest, operation, readback, ?_, ?_, ?_⟩
  · decide
  · exact not_not.mpr ⟨(not_not.mp times).2, ordered⟩
  · decide
  · refine ⟨(), ?_, not_not.mpr rfl⟩
    cases basis <;> rfl

/-! ## Phases of a session -/

/-- What must hold when a delete goes out: the exact readback was accepted, no worker was left,
and the persist callback, where there is one, acknowledged the intent. -/
structure Deletable (request : QuoteRequest) (quote : CapacityQuote)
    (activation : ActivationReceipt d) (priorIntent : Option (CleanupIntent d))
    (persists : Bool) (h : Past d) (endpointId : String) : Prop where
  id : endpointId = activation.endpointId
  readback : ∃ endpoint, ⟨.recv (.getEndpoint activation.endpointId), .ok endpoint⟩ ∈ h ∧
    endpoint.Matches request.endpoint activation.endpointId quote.gpuPool quote.dataCenterId ∧
    bindEndpoint (d := d) endpoint request quote activation.endpointId =
      .ok activation.endpointReadbackSha256
  workers : ∃ page, ⟨.recv (.listEndpointWorkers activation.endpointId), .ok page⟩ ∈ h ∧
    WorkersZero page
  acknowledged : persists = true → ∃ intent,
    ⟨.recv (.persistIntent intent), .ok (some intent)⟩ ∈ h ∧ intent.activation = activation ∧
      ∀ prior, priorIntent = some prior → intent = prior

/-- The endpoint was read as absent by its id, and then by id and name in the inventory, and
`t` was read after both. -/
def Absent (activation : ActivationReceipt d) (t : Instant) (h : Past d) : Prop :=
  ∃ x inventory before, Exn.isNotFound x = true ∧
    (∀ item ∈ inventory, item.id ≠ activation.endpointId ∧ item.name ≠ activation.endpointName) ∧
    h = ⟨.now, t⟩ :: ⟨.recv .listEndpoints, .ok inventory⟩ :: ⟨.send .listEndpoints, ()⟩ ::
      ⟨.recv (.getEndpoint activation.endpointId), .error x⟩ ::
      ⟨.send (.getEndpoint activation.endpointId), ()⟩ :: before

/-- The delete of the intent starts no later than a clock read that was made. -/
def Dated (intent : CleanupIntent d) (h : Past d) : Prop :=
  ∃ readAt, ⟨.now, readAt⟩ ∈ h ∧ intent.deleteStartedAt ≤ readAt

theorem Dated.mono {intent : CleanupIntent d} {h h' : Past d} (dated : Dated intent h)
    (grown : h <:+ h') : Dated intent h' := by
  obtain ⟨readAt, read, le⟩ := dated
  exact ⟨readAt, grown.subset read, le⟩

/-- What must hold when an intent is offered to the host's store. -/
def Persistable (activation : ActivationReceipt d) (priorIntent : Option (CleanupIntent d))
    (h : Past d) (intent : CleanupIntent d) : Prop :=
  intent.activation = activation ∧ Dated intent h ∧
    ∀ prior, priorIntent = some prior → intent = prior

/-- A dated intent precedes whatever the clock reads next. -/
theorem Dated.le {intent : CleanupIntent d} {c t : Instant} (dated : Dated intent h)
    (ascending : Ascending c (⟨.now, t⟩ :: h)) : intent.deleteStartedAt ≤ t := by
  obtain ⟨readAt, read, le⟩ := dated
  exact (le.trans (latest_mem ascending.1 read)).trans (ascending.2 t rfl)

section

variable {request : QuoteRequest} {quote : CapacityQuote} {activation : ActivationReceipt d}
  {create : Past d → CreateRequest → Prop} {delete : Past d → String → Prop}
  {persist : Past d → CleanupIntent d → Prop} {c : Instant}

/-- The exact read of the endpoint, absent or present. -/
theorem cleanupEndpointResource_proper :
    Proper (mutations create delete persist) c (fun h' found =>
      (found = none ∧ ∃ x, Exn.isNotFound x = true ∧
        h' = ⟨.recv (.getEndpoint activation.endpointId), .error x⟩ ::
          ⟨.send (.getEndpoint activation.endpointId), ()⟩ :: h) ∨
      ∃ endpoint, found = some endpoint ∧
        h' = ⟨.recv (.getEndpoint activation.endpointId), .ok endpoint⟩ ::
          ⟨.send (.getEndpoint activation.endpointId), ()⟩ :: h)
      (cleanupEndpointResource activation) h := by
  refine Program.obeys_handle.mpr ⟨trivial, fun _ _ => ⟨trivial, fun reply _ => ?_⟩⟩
  cases reply with
  | ok endpoint => exact .inr ⟨endpoint, rfl, rfl⟩
  | error x =>
      show Program.Obeys _ (if x.isNotFound then _ else _) _ _ _
      split
      · rename_i missing
        exact .inl ⟨rfl, x, missing, rfl⟩
      · exact fun _ _ => ⟨_, List.mem_cons_self⟩

/-- The proof of absence. -/
theorem verifyCleanupAbsence_proper :
    Proper (mutations create delete persist) c (fun h' t => h <:+ h' ∧ Absent activation t h' ∧
      ∃ h₁, h' = ⟨.now, t⟩ :: h₁ ∧ h <:+ h₁) (verifyCleanupAbsence activation) h := by
  unfold verifyCleanupAbsence
  refine proper_bind cleanupEndpointResource_proper fun h' found _ read => ?_
  rcases read with ⟨rfl, x, missing, rfl⟩ | ⟨endpoint, rfl, rfl⟩
  · refine proper_refuse rfl fun _ => ?_
    refine proper_await trivial trivial fun inventory => ?_
    refine proper_refuse rfl fun gone => ?_
    refine ⟨trivial, fun t _ => ?_⟩
    have unlisted : ∀ item ∈ inventory, item.id ≠ activation.endpointId ∧
        item.name ≠ activation.endpointName := by
      intro item held
      simpa using fun is => gone (List.any_eq_true.mpr ⟨item, held, is⟩)
    have grown : h <:+ (⟨.recv .listEndpoints, .ok inventory⟩ :: ⟨.send .listEndpoints, ()⟩ ::
        ⟨.recv (.getEndpoint activation.endpointId), .error x⟩ ::
        ⟨.send (.getEndpoint activation.endpointId), ()⟩ :: h : Past d) :=
      ⟨[_, _, _, _], rfl⟩
    exact ⟨grown.trans (List.suffix_cons _ _), ⟨x, inventory, h, missing, unlisted, rfl⟩,
      _, rfl, grown⟩
  · refine proper_refuse rfl fun present => ?_
    exact absurd rfl present

/-- The intent of a session: the one at hand, or a new one of two clock reads. -/
theorem cleanupIntent_proper {priorIntent : Option (CleanupIntent d)}
    (started : activation.readbackAt ≤ c)
    (prior : ∀ intent, priorIntent = some intent → intent.activation = activation ∧
      Dated intent h) :
    Proper (mutations create delete persist) c (fun h' intent => h <:+ h' ∧
      intent.activation = activation ∧ Dated intent h' ∧
      ∀ at_hand, priorIntent = some at_hand → intent = at_hand)
      (cleanupIntent activation priorIntent) h := by
  cases priorIntent with
  | some intent =>
      obtain ⟨same, dated⟩ := prior intent rfl
      refine proper_pure ⟨List.suffix_refl h, same, dated, fun at_hand is => ?_⟩
      exact Option.some.inj is
  | none =>
      refine proper_now trivial fun zeroAt => ?_
      refine proper_now trivial fun deleteAt => ?_
      refine proper_ofExcept (fun intent built => ?_) fun ascending => ?_
      · have fields := CleanupIntent.build_fields built
        refine ⟨⟨[_, _], rfl⟩, by rw [fields], ⟨deleteAt, List.mem_cons_self, ?_⟩, ?_⟩
        · rw [fields]
        · intro at_hand is
          cases is
      · have first : activation.readbackAt ≤ zeroAt :=
          (started.trans (latest_ge ascending.1.1)).trans (ascending.1.2 zeroAt rfl)
        have second : zeroAt ≤ deleteAt := ascending.2 deleteAt rfl
        intro x failed
        unfold CleanupIntent.build at failed
        split at failed
        · cases failed
        · rename_i y unchecked
          simp [IntentFields.check, supported, schemaVersion, contractVersion, first, second,
            refuse, bind, Except.bind] at unchecked

/-- The delete, once it may go out. -/
theorem deleteActivated_proper (may : delete h activation.endpointId) :
    Proper (mutations create delete persist) c (fun h' _ => h <:+ h') (deleteActivated activation) h := by
  refine Program.obeys_handle.mpr ⟨may, fun _ _ => ⟨trivial, fun reply _ => ?_⟩⟩
  cases reply with
  | ok value =>
      refine ⟨trivial, fun cancelled _ => ?_⟩
      cases cancelled with
      | false => exact ⟨[_, _, _], rfl⟩
      | true =>
          intro _ value
          cases value
  | error x =>
      show Program.Obeys _ (if x.isAmbiguous then _ else if x.isManager then _ else _) _ _ _
      split
      · exact ⟨[_, _], rfl⟩
      · split
        · intro _ value
          cases value
        · exact fun _ _ => ⟨_, List.mem_cons_self⟩

/-- What a receipt that a session issues of its own carries. -/
structure Issued (activation : ActivationReceipt d) (priorIntent : Option (CleanupIntent d))
    (persists : Bool) (h : Past d) (intent : CleanupIntent d) (receipt : CleanupReceipt d) :
    Prop where
  activated : intent.activation = activation
  binding : receipt.toCleanupBinding = activation.cleanupBinding
  workersZero : receipt.workersZeroObservedAt = intent.workersZeroObservedAt
  deleteStarted : receipt.deleteStartedAt = intent.deleteStartedAt
  atHand : ∀ prior, priorIntent = some prior → intent = prior
  acknowledged : priorIntent = none → persists = true →
    ⟨.recv (.persistIntent intent), .ok (some intent)⟩ ∈ h

/-- The end of a session: an intent's receipt over a proof of absence. -/
theorem cleanupReceipt_proper {priorIntent : Option (CleanupIntent d)} (persists : Bool)
    {intent : CleanupIntent d} {basis : CleanupBasis}
    (activated : intent.activation = activation) (dated : Dated intent h)
    (atHand : ∀ prior, priorIntent = some prior → intent = prior)
    (acknowledged : priorIntent = none → persists = true →
      ⟨.recv (.persistIntent intent), .ok (some intent)⟩ ∈ h) :
    Proper (mutations create delete persist) c (fun h' receipt =>
        Absent activation receipt.verifiedAbsentAt h' ∧
        ∃ intent, Issued activation priorIntent persists h' intent receipt)
      (do
        let verifiedAbsentAt ← verifyCleanupAbsence activation
        Program.ofExcept (cleanupReceipt intent verifiedAbsentAt basis)) h := by
  refine proper_bind verifyCleanupAbsence_proper fun h' t grown verified => ?_
  obtain ⟨-, absent, h₁, rfl, earlier⟩ := verified
  refine proper_ofExcept (fun receipt made => ?_) fun ascending => ?_
  · obtain ⟨binding, zero, started, verifiedAt⟩ := cleanupReceipt_fields made
    rw [verifiedAt]
    refine ⟨absent, intent, activated, ?_, zero, started, atHand, fun new callback => ?_⟩
    · rw [binding, activated]
    · exact grown.subset (acknowledged new callback)
  · obtain ⟨receipt, made⟩ :=
      cleanupReceipt_constructible ((dated.mono earlier).le ascending) basis
    rw [made]
    exact managed_ok receipt

end

/-! ## One session -/

section

variable {request : QuoteRequest} {quote : CapacityQuote} {activation : ActivationReceipt d}
  {priorIntent : Option (CleanupIntent d)} {persists : Bool} {c : Instant}

/-- A session that finds the endpoint present. -/
theorem cleanupPresent_proper {endpoint : EndpointResource}
    (started : activation.readbackAt ≤ c)
    (prior : ∀ intent, priorIntent = some intent → intent.activation = activation ∧
      Dated intent h)
    (read : ⟨.recv (.getEndpoint activation.endpointId), .ok endpoint⟩ ∈ h) :
    Proper (mutations (fun _ _ => False)
        (Deletable request quote activation priorIntent persists)
        (Persistable activation priorIntent)) c
      (fun h' receipt => Absent activation receipt.verifiedAbsentAt h' ∧
        ∃ intent, Issued activation priorIntent persists h' intent receipt)
      (cleanupPresent request quote activation priorIntent persists endpoint) h := by
  unfold cleanupPresent
  refine proper_check (fun _ => managed_bindEndpoint _ _ _ _) fun digest binds => ?_
  refine proper_refuse rfl fun same => ?_
  simp only [ne_eq, not_not] at same
  refine proper_await trivial trivial fun page => ?_
  refine proper_check (fun _ => managed_workersAreZero _ _) fun _ idle => ?_
  have zero := workersAreZero_ok idle
  refine proper_bind (cleanupIntent_proper started fun intent is => ?_) fun h₂ intent grown met => ?_
  · obtain ⟨activated, dated⟩ := prior intent is
    exact ⟨activated, dated.mono ⟨[_, _], rfl⟩⟩
  obtain ⟨-, activated, dated, atHand⟩ := met
  have persisted : Proper (mutations (fun _ _ => False)
      (Deletable request quote activation priorIntent persists)
      (Persistable activation priorIntent)) c
      (fun h' _ => h₂ <:+ h' ∧ (persists = true →
        ⟨.recv (.persistIntent intent), .ok (some intent)⟩ ∈ h'))
      (if persists then do
        let acknowledged ← await (.persistIntent intent)
        Program.ofExcept (refuse (acknowledged ≠ some intent) (cleanupError activation
          "Serverless cleanup intent persistence was not acknowledged exactly"))
      else pure () : Co d Unit) h₂ := by
    split
    · refine proper_await ⟨activated, dated, atHand⟩ trivial fun acknowledged => ?_
      refine proper_ofExcept (fun _ exact_ => ?_) fun _ => managed_refuse rfl
      have is := refuse_ok.mp exact_
      simp only [ne_eq, not_not] at is
      rw [is]
      exact ⟨⟨[_, _], rfl⟩, fun _ => List.mem_cons_self⟩
    · rename_i off
      exact proper_pure ⟨List.suffix_refl h₂, fun on => absurd on off⟩
  refine proper_bind persisted fun h₃ _ _ met => ?_
  obtain ⟨onward, callback⟩ := met
  have history := (List.suffix_cons _ _).trans ((List.suffix_cons _ _).trans (grown.trans onward))
  have may : Deletable request quote activation priorIntent persists h₃ activation.endpointId := {
    id := rfl
    readback := ⟨endpoint, history.subset read, bindEndpoint_ok binds, by rw [binds, same]⟩
    workers := ⟨page, (grown.trans onward).subset List.mem_cons_self, zero⟩
    acknowledged := fun on => ⟨intent, callback on, activated, atHand⟩ }
  refine proper_bind (deleteActivated_proper may) fun h₄ basis deleted _ => ?_
  exact cleanupReceipt_proper persists activated (dated.mono (onward.trans deleted)) atHand
    fun _ on => deleted.subset (callback on)

/-- The checks on the intent at hand. -/
theorem validatePriorIntent_proper {C : Contract (Effects d)} (reads : ∀ h, C.permits h .now) :
    Proper C c (fun h' _ => ∀ intent, priorIntent = some intent →
      intent.activation = activation ∧ Dated intent h')
      (validatePriorIntent activation priorIntent) h := by
  cases priorIntent with
  | none =>
      refine proper_pure fun intent is => ?_
      cases is
  | some intent =>
      refine proper_check (fun _ => managed_refuse rfl) fun _ matches_ => ?_
      refine proper_now (reads _) fun readAt => ?_
      refine proper_ofExcept (fun _ past => ?_) fun _ => managed_refuse rfl
      intro at_hand is
      cases is
      have same := refuse_ok.mp matches_
      have le := refuse_ok.mp past
      exact ⟨not_not.mp same, readAt, List.mem_cons_self, not_lt.mp le⟩

/-- What a session returns: a receipt of its own, or the prior receipt, which agrees with the
intent at hand. -/
inductive Returned (activation : ActivationReceipt d) (priorReceipt : Option (CleanupReceipt d))
    (priorIntent : Option (CleanupIntent d)) (persists : Bool) (h : Past d)
    (receipt : CleanupReceipt d) : Prop
  | issued (intent : CleanupIntent d) (fresh : priorReceipt = none)
      (verified : Absent activation receipt.verifiedAbsentAt h)
      (issues : Issued activation priorIntent persists h intent receipt)
  | replayed (t : Instant) (prior : priorReceipt = some receipt)
      (verified : Absent activation t h)
      (agrees : ∀ intent, priorIntent = some intent →
        receipt.workersZeroObservedAt = intent.workersZeroObservedAt ∧
          receipt.deleteStartedAt = intent.deleteStartedAt)

/-- The replay of a cleanup. -/
theorem replayCleanup_proper {create : Past d → CreateRequest → Prop}
    {delete : Past d → String → Prop} {persist : Past d → CleanupIntent d → Prop} (prior : CleanupReceipt d) :
    Proper (mutations create delete persist) c
      (Returned activation (some prior) priorIntent persists)
      (replayCleanup activation priorIntent prior) h := by
  unfold replayCleanup
  refine proper_check (fun _ => managed_refuse rfl) fun _ _ => ?_
  refine proper_refuse rfl fun same => ?_
  refine proper_bind verifyCleanupAbsence_proper fun h' t _ met => ?_
  refine proper_pure (.replayed t rfl met.2.1 fun intent is => ?_)
  rw [is] at same
  simp only [Option.any_some, decide_eq_true_eq, not_or, ne_eq, not_not] at same
  exact same

/-- The walk through one session, up to the exceptions of the binding itself. -/
theorem cleanupPlannedEndpoint_proper (priorReceipt : Option (CleanupReceipt d))
    (priorIntent : Option (CleanupIntent d)) (persists : Bool) (started : activation.readbackAt ≤ c)
    (bound : Managed (validatePlannedRequestBinding d.toQuoteDigests request quote)) :
    Proper (mutations (fun _ _ => False)
        (Deletable request quote activation priorIntent persists)
        (Persistable activation priorIntent)) c
      (fun h' receipt => ∃ h₁, h' = ⟨.joined, false⟩ :: h₁ ∧
        Returned activation priorReceipt priorIntent persists h₁ receipt)
      (cleanupPlannedEndpoint request quote activation priorReceipt priorIntent persists) h := by
  refine proper_owned (fun _ => trivial) ?_
  have body : Proper (mutations (fun _ _ => False)
      (Deletable request quote activation priorIntent persists)
      (Persistable activation priorIntent)) c
      (Returned activation priorReceipt priorIntent persists)
      (cleanupPlannedEndpointBody request quote activation priorReceipt priorIntent persists)
      h := by
    unfold cleanupPlannedEndpointBody
    refine proper_check (fun _ => bound) fun _ _ => ?_
    refine proper_check (fun _ => managed_refuse rfl) fun _ _ => ?_
    refine proper_bind (validatePriorIntent_proper fun _ => trivial) fun h₁ _ _ prior => ?_
    cases priorReceipt with
    | some receipt => exact replayCleanup_proper receipt
    | none =>
        refine proper_bind cleanupEndpointResource_proper fun h₂ found grown read => ?_
        have dated : ∀ intent, priorIntent = some intent → intent.activation = activation ∧
            Dated intent h₂ := fun intent is => ⟨(prior intent is).1, (prior intent is).2.mono grown⟩
        rcases read with ⟨rfl, -⟩ | ⟨endpoint, rfl, rfl⟩
        · cases priorIntent with
          | none => exact proper_raise rfl
          | some intent =>
              obtain ⟨activated, dates⟩ := dated intent rfl
              refine Program.Obeys.weaken (cleanupReceipt_proper persists activated
                dates (fun _ is => Option.some.inj is) fun new => ?_) ?_ fun _ _ _ raised => raised
              · cases new
              · rintro h' receipt - ⟨absent, other, issues⟩
                exact .issued other rfl absent issues
        · refine Program.Obeys.weaken (cleanupPresent_proper started dated List.mem_cons_self) ?_
            fun _ _ _ raised => raised
          rintro h' receipt - ⟨absent, other, issues⟩
          exact .issued other rfl absent issues
  exact Program.Obeys.weaken body (fun h' _ _ met => ⟨h', rfl, met⟩) fun _ _ _ raised => raised

end

end KestrelRunpod.Serverless
