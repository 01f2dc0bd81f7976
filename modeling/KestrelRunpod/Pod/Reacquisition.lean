import Mathlib.Data.Countable.Basic
import Mathlib.Data.Rat.Encodable
import Mathlib.Logic.Equiv.List
import Mathlib.Tactic.DeriveCountable
import KestrelRunpod.Pod.Retry
import KestrelRunpod.Pod.System.Creates

/-!
# Acquiring a lease again

A call of `acquire`, `acquire_catalog` or `provision_catalog` for an identity whose row is
already there is answered from the row: it is the same request, and gets the lease, or it is
refused.  Whatever the row has become meanwhile, the call changes nothing at the provider.

The fingerprints are compared as digests; `CollisionFree` says that equal digests come from
equal contents.
-/

namespace KestrelRunpod.Pod

open Interleave Program

/-! ## What the digests cover -/

/-- The payload of `CatalogPodCapacityRequest.fingerprint`. -/
structure CapacityFingerprint where
  capacityId : String
  cleanupFamilyId : String
  ownerId : String
  workloadId : String
  attemptId : String
  idempotencyKey : String
  requestSha256 : String
  workloadKind : String
  parametersSha256 : String
  imageRepository : String
  imageDigest : String
  profileId : String
  providerQuoteId : String
  acceptedMaxCostUsd : ℚ
  createdAt : Instant
  readinessDeadline : Instant
  hardDeadline : Instant
  bearerExpiresAt : Instant
  idleTimeoutSeconds : Nat
  cleanupGraceSeconds : Nat
  attemptEnvironmentKeys : List String
  artifactHandoffProtocolVersion : Option Nat
  deriving DecidableEq

def CapacityRequest.fingerprinted (r : CapacityRequest) : CapacityFingerprint where
  capacityId := r.capacityId
  cleanupFamilyId := r.cleanupFamilyId
  ownerId := r.ownerId
  workloadId := r.workloadId
  attemptId := r.attemptId
  idempotencyKey := r.idempotencyKey
  requestSha256 := r.requestSha256
  workloadKind := r.workloadKind
  parametersSha256 := r.parametersSha256
  imageRepository := r.imageRepository
  imageDigest := r.imageDigest
  profileId := r.profileId
  providerQuoteId := r.quote.providerQuoteId
  acceptedMaxCostUsd := r.acceptedMaxCostUsd
  createdAt := r.createdAt
  readinessDeadline := r.readinessDeadline
  hardDeadline := r.hardDeadline
  bearerExpiresAt := r.bearerExpiresAt
  idleTimeoutSeconds := r.idleTimeoutSeconds
  cleanupGraceSeconds := r.cleanupGraceSeconds
  attemptEnvironmentKeys := r.attemptEnvironmentKeys.mergeSort
  artifactHandoffProtocolVersion := r.artifactHandoffProtocolVersion

/-- The payload of `TrainingPodRequest.fingerprint`: the root token of a fallback attempt
only, and nothing of the creation instant but what the capacity says of it. -/
structure PodFingerprint where
  cleanupToken : String
  companionId : String
  profileId : String
  source : Source
  resourceName : String
  providerPodId : Option String
  readinessDeadline : Instant
  hardDeadline : Instant
  rootCleanupToken : Option String
  capacitySpec : Option CapacitySpec
  deriving DecidableEq

def PodRequest.fingerprinted (r : PodRequest) : PodFingerprint where
  cleanupToken := r.cleanupToken
  companionId := r.companionId
  profileId := r.profileId
  source := r.source
  resourceName := r.resourceName
  providerPodId := r.providerPodId
  readinessDeadline := r.readinessDeadline
  hardDeadline := r.hardDeadline
  rootCleanupToken :=
    if r.rootCleanupToken = r.cleanupToken then none else some r.rootCleanupToken
  capacitySpec := r.capacitySpec

/-- Equal digests are digests of equal contents. -/
structure CollisionFree (d : Digests) : Prop where
  capacityRequest : ∀ r r', d.capacityRequest r = d.capacityRequest r' →
    r.fingerprinted = r'.fingerprinted
  podRequest : ∀ r r', d.podRequest r = d.podRequest r' → r.fingerprinted = r'.fingerprinted
  environment : ∀ e e' : List (String × String), d.environment e = d.environment e' →
    ∀ key, e.lookup key = e'.lookup key

/-! ## Equal requests -/

/-- The row was claimed by a catalog request with this fingerprint and environment. -/
def SameCapacity (d : Digests) (request : CapacityRequest) (environment : List (String × String))
    (row : Lease) : Prop :=
  ∃ spec, row.capacitySpec = some spec ∧
    d.capacityRequest spec.request = d.capacityRequest request ∧
    spec.attemptEnvironmentSha256 = d.environment environment

/-- The row was claimed by a request with this fingerprint. -/
def SameRequest (d : Digests) (request : PodRequest) (row : Lease) : Prop :=
  row.requestFingerprint = d.podRequest request

/-- The request is not the one the row was claimed by: another fingerprinted field, or another
value in the environment. -/
def OtherCapacity (d : Digests) (request : CapacityRequest)
    (environment : List (String × String)) (row : Lease) : Prop :=
  ∀ spec, row.capacitySpec = some spec →
    spec.request.fingerprinted ≠ request.fingerprinted ∨
    ∃ claimed, spec.attemptEnvironmentSha256 = d.environment claimed ∧
      ∃ key, claimed.lookup key ≠ environment.lookup key

variable {d : Digests} {callers : Callers} {K : Restriction Effects World} {clock : Instant}
  {m : Moment Effects World}

theorem CollisionFree.otherCapacity (free : CollisionFree d) {request : CapacityRequest}
    {environment : List (String × String)} {row : Lease}
    (other : OtherCapacity d request environment row) :
    ¬ SameCapacity d request environment row := by
  rintro ⟨spec, has, same, equal⟩
  rcases other spec has with differs | ⟨claimed, is, key, differs⟩
  · exact differs (free.capacityRequest _ _ same)
  · rw [is] at equal
    exact differs (free.environment _ _ equal key)

/-! ## The rows of a request -/

/-- Every row goes back to a reservation that was made with its fingerprint. -/
structure ClaimedBy (d : Digests) (request : PodRequest) (row : Lease) : Prop where
  fingerprint : row.requestFingerprint = d.podRequest request
  capacitySpec : row.capacitySpec = request.capacitySpec
  evidence : ∃ evidence,
    request.capacitySpec.mapM (PodCapacityEvidence.fromSpec request.resourceName) = .ok evidence

theorem LeaseTrail.claimedBy (trail : LeaseTrail d callers K clock m) :
    ∀ row, Committed m.log row → ∃ request, ClaimedBy d request row := by
  refine trail.always (P := fun _ row => ∃ request, ClaimedBy d request row)
    (fun _ _ _ _ _ => id) (fun _ _ _ request evidence _ _ built _ => ?_) ?_
  · exact ⟨request, rfl, rfl, evidence, built⟩
  · rintro m m' i cur write changes _ _ _ _ _ _ ⟨request, claimed⟩
    exact ⟨request, claimed.fingerprint, claimed.capacitySpec, claimed.evidence⟩

/-! ## What the store answers -/

/-- The operation can change what the provider runs. -/
def Op.mutates : Op → Bool
  | .send _ (.create _ _) => true
  | .send _ (.start _ _) => true
  | .send _ (.stop _) => true
  | .send _ (.terminate _) => true
  | _ => false

/-- A task that changes nothing at the provider, and whose reservations for `token` find the
row that is there. -/
def reacquiring (d : Digests) (token : String) : Contract Effects where
  permits _ op := op.mutates = false
  promises e :=
    match e with
    | ⟨.reserve request, reply⟩ => request.cleanupToken = token → ∀ row inserted,
        reply = .ok (row, inserted) →
          inserted = false ∧ row.cleanupToken = token ∧ SameRequest d request row
    | ⟨.get other, reply⟩ => ∀ row, reply = some row → row.cleanupToken = other
    | ⟨.compareAndSet lease _, reply⟩ =>
        (∀ row, reply = .ok row → row.cleanupToken = lease.cleanupToken) ∧
          ∀ x, reply = .error x → x.isConflict = true
    | _ => True

/-- The newest event showed the row. -/
def JustShown (h : Past) (row : Lease) : Prop := ∃ e earlier, h = e :: earlier ∧ shows row e

/-- A lookup after a row of `token` had been shown found none. -/
def Lost (h : Past) (token : String) : Prop :=
  ∃ later earlier, h = later ++ (⟨.get token, none⟩ : Event Effects) :: earlier ∧
    Known earlier token fun _ => True

/-- A refusal of a request that the row stands for: a conflict, or the lease was released before
its heartbeat. -/
def Answered (h : Past) (x : Exn) : Prop :=
  x.isConflict = true ∨
    ∃ now, Shown h now ∧ now.isTerminal = true ∧ x = lifecycleError "heartbeat" now false

section

variable {svc : Service} {token : String} {h : Past}

/-- A heartbeat for a lease that was shown. -/
theorem heartbeat_reacquires (known : Known h token fun _ => True) :
    (heartbeat token).Obeys (reacquiring d token)
      (fun h' row => h <:+ h' ∧ row.cleanupToken = token ∧ JustShown h' row)
      (fun h' x => h <:+ h' ∧ (Answered h' x ∨ Lost h' token)) h := by
  unfold heartbeat required getLease now compareAndSet
  rw [bind_eq, obeys_bind, obeys_bind]
  refine ⟨rfl, fun found shown => ?_⟩
  cases found with
  | none =>
      refine ⟨grows _ (List.suffix_refl h), .inr ⟨[], h, rfl, known⟩⟩
  | some lease =>
      have own : lease.cleanupToken = token := shown lease rfl
      dsimp only [obeys_pure]
      rw [obeys_pure, obeys_pure]
      split
      · rename_i terminal
        exact ⟨grows _ (List.suffix_refl h), .inl (.inr ⟨lease, .get, terminal, rfl⟩)⟩
      · refine ⟨rfl, fun t _ => ⟨rfl, fun reply promised => ?_⟩⟩
        have grown : h <:+ (⟨.now, t⟩ : Event Effects) :: ⟨.get token, some lease⟩ :: h :=
          grows _ (grows _ (List.suffix_refl h))
        rw [obeys_ofExcept]
        refine ⟨fun row is => ?_, fun x is => ?_⟩
        · subst is
          exact ⟨grows _ grown, (promised.1 row rfl).trans own, _, _, rfl, rfl⟩
        · subst is
          exact ⟨grows _ grown, .inl (.inl (promised.2 x rfl))⟩

/-- A reservation that finds its row. -/
theorem acquireLease_reacquires {request : PodRequest} {waitForReady : Bool}
    (own : request.cleanupToken = token) :
    (acquireLease svc request waitForReady).Obeys (reacquiring d token)
      (fun h' row => row.cleanupToken = token ∧ JustShown h' row ∧
        ∃ found, Shown h' found ∧ found.cleanupToken = token ∧ SameRequest d request found)
      (fun h' x => h' = h ∨ h' = (⟨.reserve request, .error x⟩ : Event Effects) :: h ∨
        Answered h' x ∨ Lost h' token) h := by
  unfold acquireLease
  split
  · exact .inl rfl
  · refine ⟨rfl, fun reply promised => ?_⟩
    cases reply with
    | error x => exact .inr (.inl rfl)
    | ok result =>
        obtain ⟨lease, inserted⟩ := result
        obtain ⟨rfl, same, equal⟩ := promised own lease inserted rfl
        have shown : Shown ((⟨.reserve request, .ok (lease, false)⟩ : Event Effects) :: h) lease :=
          .head ⟨false, rfl⟩
        dsimp only
        rw [ofExcept_ok, bind_eq, Program.bind]
        dsimp only
        rw [if_pos rfl]
        split
        · rw [same]
          refine (heartbeat_reacquires (shown.known same trivial)).weaken ?_ ?_
          · rintro h' row _ ⟨grown, is, just⟩
            exact ⟨is, just, lease, shown.mono grown, same, equal⟩
          · rintro h' x _ ⟨_, ends⟩
            exact .inr (.inr ends)
        · exact .inr (.inr (.inl (.inl rfl)))

/-- A capacity call that finds the row at its first lookup. -/
theorem replayCatalog_reacquires {request : CapacityRequest}
    {environment : List (String × String)} {waitForReady : Bool} {existing : Lease}
    (shown : Shown h existing) (same : existing.cleanupToken = token) :
    (replayCatalog svc request environment waitForReady existing).Obeys (reacquiring d token)
      (fun h' row => row.cleanupToken = token ∧ JustShown h' row ∧ h <:+ h' ∧
        SameCapacity svc.digests request environment existing)
      (fun h' x => h <:+ h' ∧ (Answered h' x ∨ Lost h' token ∨
        ¬ SameCapacity svc.digests request environment existing)) h := by
  have here : h <:+ h := List.suffix_refl h
  unfold replayCatalog capacitySpec
  cases has : existing.capacitySpec with
  | none =>
      refine ⟨here, .inr (.inr ?_)⟩
      rintro ⟨spec, is, _⟩
      rw [has] at is
      cases is
  | some spec =>
      rw [bind_eq, Program.bind]
      split
      · exact ⟨here, .inl (.inl rfl)⟩
      · rename_i agrees
        rw [not_or, not_not, not_not] at agrees
        split
        · rw [same]
          refine (heartbeat_reacquires (shown.known same trivial)).weaken ?_ ?_
          · rintro h' row _ ⟨grown, is, just⟩
            exact ⟨is, just, grown, spec, has, agrees.1, agrees.2⟩
          · rintro h' x _ ⟨grown, answered | lost⟩
            · exact ⟨grown, .inl answered⟩
            · exact ⟨grown, .inr (.inl lost)⟩
        · exact ⟨here, .inl (.inl rfl)⟩

/-- A capacity call that found no row when it looked, and reserved for the capacity. -/
def ReservedLate (d : Digests) (request : CapacityRequest) (environment : List (String × String))
    (row : Lease) : Prop :=
  ∃ internal spec, SameRequest d internal row ∧ internal.capacitySpec = some spec ∧
    spec.request = request ∧ spec.attemptEnvironmentSha256 = d.environment environment

/-- The first lookup found no row, and nothing was shown since. -/
def Blind (h : Past) (token : String) : Prop :=
  (⟨.get token, none⟩ : Event Effects) ∈ h ∧ ∀ row, ¬ Shown h row

theorem Blind.cons {e : Event Effects} (blind : Blind h token) (nothing : ∀ row, ¬ shows row e) :
    Blind (e :: h) token := by
  refine ⟨List.mem_cons_of_mem _ blind.1, ?_⟩
  rintro row ⟨e', member, here⟩
  rcases List.mem_cons.mp member with rfl | before
  · exact nothing row here
  · exact blind.2 row ⟨e', before, here⟩

theorem CapacitySpec.build_ok {fields : CapacitySpecFields} {spec : CapacitySpec}
    (built : CapacitySpec.build fields = .ok spec) : spec.toCapacitySpecFields = fields := by
  unfold CapacitySpec.build at built
  split at built
  · cases built
    rfl
  · cases built

/-- A capacity call whose reservation, if it makes one, finds the row. -/
theorem acquireCatalog_reacquires {request : CapacityRequest}
    {environment : List (String × String)} {waitForReady : Bool}
    (own : request.capacityId = token) :
    (acquireCatalog svc request environment waitForReady).Obeys (reacquiring svc.digests token)
      (fun h row => row.cleanupToken = token ∧ JustShown h row ∧
        ∃ found, Shown h found ∧ found.cleanupToken = token ∧
          (SameCapacity svc.digests request environment found ∨
            ReservedLate svc.digests request environment found))
      (fun h x => h = [] ∨ Answered h x ∨ Lost h token ∨ Blind h token ∨
        ∃ row, Shown h row ∧ row.cleanupToken = token ∧
          ¬ SameCapacity svc.digests request environment row) [] := by
  unfold acquireCatalog
  rw [bind_eq, obeys_bind]
  refine obeys_requireWorkloadTransport ?_ fun x => .inl rfl
  split
  · exact .inl rfl
  · rw [bind_eq, obeys_bind]
    refine ⟨rfl, fun found promised => ?_⟩
    rw [own] at promised ⊢
    cases found with
    | some existing =>
        have same : existing.cleanupToken = token := promised existing rfl
        refine (replayCatalog_reacquires .get same).weaken ?_ ?_
        · rintro h' row _ ⟨is, just, grown, equal⟩
          exact ⟨is, just, existing, Shown.get.mono grown, same, .inl equal⟩
        · rintro h' x _ ⟨grown, answered | lost | differs⟩
          · exact .inr (.inl answered)
          · exact .inr (.inr (.inl lost))
          · exact .inr (.inr (.inr (.inr ⟨existing, Shown.get.mono grown, same, differs⟩)))
    | none =>
        have blind : Blind [(⟨.get token, none⟩ : Event Effects)] token :=
          ⟨List.mem_singleton.mpr rfl, by simp [Shown, shows]⟩
        have refused : ∀ {h : Past} {x : Exn}, Blind h token →
            h = [] ∨ Answered h x ∨ Lost h token ∨ Blind h token ∨
              ∃ row, Shown h row ∧ row.cleanupToken = token ∧
                ¬ SameCapacity svc.digests request environment row :=
          fun blind => .inr (.inr (.inr (.inl blind)))
        rw [obeys_pure]
        dsimp only
        rw [bind_eq, obeys_bind]
        refine ⟨rfl, fun readAt _ => ?_⟩
        have blind₁ := blind.cons (e := ⟨.now, readAt⟩) (by simp [shows])
        rw [obeys_pure]
        split
        · exact refused blind₁
        split
        · exact refused blind₁
        rw [bind_eq, obeys_bind]
        refine obeys_requireCapabilityStore ?_ fun x => refused blind₁
        rw [bind_eq, obeys_bind]
        refine ⟨rfl, fun id _ => ⟨rfl, fun reply _ => ?_⟩⟩
        have blind₂ := (blind₁.cons (e := ⟨.send token
          (.loadOrCreate request.attemptId request.bearerExpiresAt), id⟩) (by simp [shows])).cons
          (e := ⟨.recv id (.loadOrCreate request.attemptId request.bearerExpiresAt), reply⟩)
          (by simp [shows])
        rw [obeys_ofExcept]
        refine ⟨fun capability _ => ?_, fun x _ => refused blind₂⟩
        rw [bind_eq, obeys_bind]
        refine obeys_validateCapability ?_ fun x => refused blind₂
        rw [bind_eq, obeys_bind]
        refine ⟨rfl, fun admittedAt _ => ?_⟩
        have blind₃ := blind₂.cons (e := ⟨.now, admittedAt⟩) (by simp [shows])
        rw [obeys_pure]
        split
        · exact refused blind₃
        rw [bind_eq, obeys_bind, obeys_ofExcept]
        refine ⟨fun spec builtSpec => ?_, fun x _ => refused blind₃⟩
        rw [bind_eq, obeys_bind, obeys_ofExcept]
        refine ⟨fun internal built => ?_, fun x _ => refused blind₃⟩
        have fields := PodRequest.build_ok built
        have inner := CapacitySpec.build_ok builtSpec
        have reserved : internal.cleanupToken = token :=
          (congrArg PodRequestFields.cleanupToken fields).trans own
        refine (acquireLease_reacquires reserved).weaken ?_ ?_
        · rintro h' row _ ⟨is, just, found, shown, same, equal⟩
          exact ⟨is, just, found, shown, same, .inr ⟨internal, spec, equal,
            congrArg PodRequestFields.capacitySpec fields,
            congrArg CapacitySpecFields.request inner,
            congrArg CapacitySpecFields.attemptEnvironmentSha256 inner⟩⟩
        · rintro h' x _ (rfl | rfl | answered | lost)
          · exact refused blind₃
          · exact refused (blind₃.cons (by simp [shows]))
          · exact .inr (.inl answered)
          · exact .inr (.inr (.inl lost))

end

/-! ## Runs -/

section

variable {before after : Config Effects Exn World} {i : Nat} {token : String}

/-- The lease was there before the call, or is not one that the call inserted. -/
def Found (before after : Config Effects Exn World) (i : Nat) (token : String) : Prop :=
  (∃ row, Committed before.log row ∧ row.cleanupToken = token) ∨
    ∀ request row, request.cleanupToken = token →
      (⟨.reserve request, .ok (row, true)⟩ : Event Effects) ∉ after.log.of i

/-- A reservation that finds a row finds it with its own fingerprint. -/
theorem Rows.reserve_found {rows rows' : Rows} {request : PodRequest} {row : Lease}
    (ok : rows.reserve d request = (rows', .ok (row, false))) : SameRequest d request row := by
  unfold reserve at ok
  split at ok
  · cases ok
  · dsimp only at ok
    split at ok
    · cases ok
    · split at ok
      · cases ok
      · split at ok
        · split at ok
          · cases ok
          · rename_i same
            cases ok
            exact not_not.mp same
        · split at ok <;> cases ok

/-- What a task performs after a moment, it performs with the log of that moment behind it. -/
theorem Log.earlier_of_fresh {log older later earlier : Log Effects} {e : Event Effects}
    (grown : older <:+ log) (split : log = later ++ (i, e) :: earlier)
    (fresh : Log.of older i = []) : older <:+ earlier := by
  have here : (i, e) :: earlier <:+ log := ⟨later, split.symm⟩
  have own : (i, e) ∉ older := by
    intro member
    have listed := Log.mem_of.mpr member
    rw [fresh] at listed
    cases listed
  rcases List.suffix_or_suffix_of_suffix grown here with short | long
  · rcases List.suffix_cons_iff.mp short with is | inner
    · exact absurd (is ▸ List.mem_cons_self) own
    · exact inner
  · exact absurd (long.mem List.mem_cons_self) own

/-- The store keeps what a call for a lease that is there relies on. -/
theorem ServiceRun.reacquiring (run : ServiceRun d callers K clock after)
    (grown : before.log <:+ after.log) (fresh : before.log.of i = [])
    (found : Found before after i token) :
    ∀ e ∈ after.log.of i, (reacquiring d token).promises e := by
  intro e member
  obtain ⟨later, earlier, split⟩ := List.append_of_mem (Log.mem_of.mp member)
  obtain ⟨then_, w', walked, log, permitted, performed, _⟩ := run.trail.act_of_mem split
  have promised := perform_promises performed
  obtain ⟨op, reply⟩ := e
  cases op with
  | reserve request =>
      rintro own row inserted rfl
      obtain ⟨rows, attempt, _⟩ := perform_reserve.mp performed
      cases inserted with
      | false => exact ⟨rfl, (promised row false rfl).1.trans own, Rows.reserve_found attempt⟩
      | true =>
          rcases found with ⟨old, committed, same⟩ | apart
          · have here : Committed then_.log old := by
              rw [log]
              exact committed.mono (Log.earlier_of_fresh grown split fresh)
            obtain ⟨now, there, token'⟩ := walked.consistent.present here
            obtain ⟨absent, _, is, _⟩ := Rows.reserve_inserted attempt
            exact absurd (token'.trans (same.trans (own.symm.trans is.symm))) (absent now there)
          · exact absurd member (apart request row own)
  | get other => exact promised
  | compareAndSet lease changes =>
      obtain ⟨rows, attempt, _⟩ := perform_compareAndSet.mp performed
      refine ⟨?_, ?_⟩
      · rintro row rfl
        obtain ⟨current, _, same, _, rfl, _⟩ := Rows.compareAndSet_ok attempt
        exact same
      · rintro x rfl
        exact (Rows.compareAndSet_error attempt).2
  | _ => trivial

/-- A lookup finds every lease that was there before. -/
theorem ServiceRun.finds (run : ServiceRun d callers K clock after) {later earlier : Log Effects}
    {found : Option Lease} {row : Lease}
    (split : after.log = later ++ (i, (⟨.get token, found⟩ : Event Effects)) :: earlier)
    (committed : Committed earlier row) (same : row.cleanupToken = token) : found ≠ none := by
  obtain ⟨then_, w', walked, log, _, performed, _⟩ := run.trail.act_of_mem split
  rw [← log] at committed
  obtain ⟨now, there⟩ := walked.consistent.shows_current committed
  rw [same, (perform_get.mp performed).1] at there
  rw [there]
  exact Option.some_ne_none now

theorem ServiceRun.not_lost (run : ServiceRun d callers K clock after) :
    ¬ Lost (after.log.of i) token := by
  rintro ⟨newer, older, is, row, shown, same, _⟩
  obtain ⟨later, earlier, split, _, rfl⟩ := Log.exists_split is
  refine run.finds split ?_ same rfl
  obtain ⟨then_, _, walked, log, _⟩ := run.trail.act_of_mem split
  rw [← log] at shown ⊢
  exact walked.consistent.committed shown

/-- Two versions of a lease go back to one claim. -/
theorem LeaseTrail.same_claim (trail : LeaseTrail d callers K clock m) {a b : Lease}
    (first : Committed m.log a) (second : Committed m.log b)
    (same : a.cleanupToken = b.cleanupToken) :
    a.capacitySpec = b.capacitySpec ∧ a.requestFingerprint = b.requestFingerprint := by
  have fingerprint : Since (fun a b => a.requestFingerprint = b.requestFingerprint) m :=
    trail.since (fun _ => rfl) (fun _ _ _ ab bc => ab.trans bc) fun _ _ _ _ _ _ _ _ _ _ _ _ => rfl
  obtain ⟨now, member, token⟩ := trail.consistent.present first
  have one := trail.identity a first now member token
  have two := trail.identity b second now member (token.trans same)
  exact ⟨one.capacitySpec.trans two.capacitySpec.symm,
    (fingerprint a first now member token).trans
      (fingerprint b second now member (token.trans same)).symm⟩

/-- How a call for a lease that is there goes on, and how it ends. -/
structure Reacquired (before after : Config Effects Exn World) (i : Nat) (token : String)
    (equal : Lease → Prop) : Prop where
  /-- It changes nothing at the provider. -/
  harmless : ∀ e ∈ after.log.of i, e.op.mutates = false
  /-- It returns the lease, to the request the lease was claimed by. -/
  returned : after.tasks i = some (.pure ()) →
    ∃ row, JustShown (after.log.of i) row ∧ row.cleanupToken = token ∧ equal row
  /-- If the request is that one, it is refused before anything is read, or by a conflict, or
  because the lease was released. -/
  refused : ∀ x, after.tasks i = some (.throw x) → ∀ row, row.cleanupToken = token → equal row →
    Committed before.log row ∨ Shown (after.log.of i) row →
      after.log.of i = [] ∨ Answered (after.log.of i) x

/-- A row shown to a task is there from then on. -/
theorem ServiceRun.known (run : ServiceRun d callers K clock after)
    (grown : before.log <:+ after.log) {row : Lease}
    (known : Committed before.log row ∨ Shown (after.log.of i) row) : Committed after.log row := by
  rcases known with committed | shown
  · exact committed.mono grown
  · exact run.trail.consistent.committed shown

/-- A call that saw no row of a lease did not meet one. -/
theorem ServiceRun.not_blind (run : ServiceRun d callers K clock after)
    (grown : before.log <:+ after.log) (fresh : before.log.of i = []) {row : Lease}
    (same : row.cleanupToken = token)
    (known : Committed before.log row ∨ Shown (after.log.of i) row) :
    ¬ Blind (after.log.of i) token := by
  rintro ⟨member, nothing⟩
  rcases known with committed | shown
  · obtain ⟨later, earlier, split⟩ := List.append_of_mem (Log.mem_of.mp member)
    exact run.finds split (committed.mono (Log.earlier_of_fresh grown split fresh)) same rfl
  · exact nothing row shown

theorem JustShown.shown {h : Past} {row : Lease} (just : JustShown h row) : Shown h row := by
  obtain ⟨e, earlier, rfl, here⟩ := just
  exact ⟨e, List.mem_cons_self, here⟩

/-- One version of a lease was claimed by the request when another was. -/
theorem SameCapacity.version (trail : LeaseTrail d callers K clock m) {request : CapacityRequest}
    {environment : List (String × String)} {a b : Lease}
    (equal : SameCapacity d request environment a) (first : Committed m.log a)
    (second : Committed m.log b) (same : a.cleanupToken = b.cleanupToken) :
    SameCapacity d request environment b := by
  obtain ⟨spec, has, rest⟩ := equal
  rw [(trail.same_claim first second same).1] at has
  exact ⟨spec, has, rest⟩

/-- A row that was found by a reservation for the capacity was claimed by the same request. -/
theorem CollisionFree.late (free : CollisionFree d) (trail : LeaseTrail d callers K clock m)
    {request : CapacityRequest} {environment : List (String × String)} {row : Lease}
    (committed : Committed m.log row) (late : ReservedLate d request environment row) :
    SameCapacity d request environment row := by
  obtain ⟨internal, spec, same, has, rfl, digest⟩ := late
  obtain ⟨claim, claimed⟩ := trail.claimedBy row committed
  have equal := free.podRequest _ _ (claimed.fingerprint.symm.trans same)
  have inner : claim.capacitySpec = internal.capacitySpec :=
    congrArg PodFingerprint.capacitySpec equal
  exact ⟨spec, by rw [claimed.capacitySpec, inner, has], rfl, digest⟩

/-- The task of a call for a lease that is there, after some moves. -/
theorem ServiceRun.calls (run : ServiceRun d callers K clock before)
    (onward : Run (runtime d) (Admits d callers) K before after) (fresh : before.log.of i = [])
    (found : Found before after i token) {p : Co Unit} {done : Past → Unit → Prop}
    {failed : Past → Exn → Prop} (task : before.tasks i = some p)
    (obeys : p.Obeys (Pod.reacquiring d token) done failed []) :
    (∀ e ∈ after.log.of i, e.op.mutates = false) ∧
      (after.tasks i = some (.pure ()) → done (after.log.of i) ()) ∧
      ∀ x, after.tasks i = some (.throw x) → failed (after.log.of i) x := by
  have whole : ServiceRun d callers K clock after := run.trans onward
  rw [← fresh] at obeys
  obtain ⟨q, there, keeps, added, split, permitted⟩ :=
    Run.obeyed onward task obeys (whole.reacquiring (Run.log_suffix onward) fresh found)
  rw [fresh, List.append_nil] at split
  refine ⟨fun e member => ?_, fun ended => ?_, fun x raised => ?_⟩
  · rw [split] at member
    obtain ⟨newer, older, cut⟩ := List.append_of_mem member
    exact permitted newer e older cut
  · rw [ended] at there
    cases there
    exact keeps
  · rw [raised] at there
    cases there
    exact keeps

/-- A capacity call for a lease that is there. -/
theorem acquireCatalog_reacquired (free : CollisionFree d)
    (run : ServiceRun d callers K clock before)
    (onward : Run (runtime d) (Admits d callers) K before after) (fresh : before.log.of i = [])
    {svc : Service} {request : CapacityRequest} {environment : List (String × String)}
    {waitForReady : Bool} (configured : svc.digests = d)
    (task : before.tasks i =
      some (acquireCatalog svc request environment waitForReady).void)
    (found : Found before after i request.capacityId) :
    Reacquired before after i request.capacityId (SameCapacity d request environment) := by
  subst configured
  have whole : ServiceRun svc.digests callers K clock after := run.trans onward
  have grown := Run.log_suffix onward
  have trail := whole.trail
  obtain ⟨harmless, returned, refused⟩ :=
    run.calls onward fresh found task (acquireCatalog_reacquires rfl).void
  refine ⟨harmless, fun ended => ?_, fun x raised row same equal known => ?_⟩
  · obtain ⟨row, own, just, met, shown, token, claimed⟩ := returned ended
    have first := trail.consistent.committed shown
    have last := trail.consistent.committed just.shown
    have equal : SameCapacity svc.digests request environment met :=
      claimed.elim id (free.late trail first)
    exact ⟨row, just, own, equal.version trail first last (token.trans own.symm)⟩
  · rcases refused x raised with empty | answered | lost | blind | ⟨other, shown, token, differs⟩
    · exact .inl empty
    · exact .inr answered
    · exact absurd lost whole.not_lost
    · exact absurd blind (whole.not_blind grown fresh same known)
    · exact absurd (equal.version trail (whole.known grown known)
        (trail.consistent.committed shown) (same.trans token.symm)) differs

/-- A reservation is refused by a conflict, unless the request cannot be recorded. -/
theorem Rows.reserve_error {rows rows' : Rows} {request : PodRequest} {x : Exn}
    (failed : rows.reserve d request = (rows', .error x)) {evidence : Option PodCapacityEvidence}
    (built : request.capacitySpec.mapM (PodCapacityEvidence.fromSpec request.resourceName) =
      .ok evidence) : x.isConflict = true := by
  unfold reserve at failed
  rw [built] at failed
  dsimp only at failed
  split at failed
  · cases failed
    rfl
  · split at failed
    · cases failed
      rfl
    · split at failed
      · split at failed
        · cases failed
          rfl
        · cases failed
      · split at failed
        · cases failed
          rfl
        · cases failed

/-- A call for a lease that is there. -/
theorem acquire_reacquired (free : CollisionFree d) (run : ServiceRun d callers K clock before)
    (onward : Run (runtime d) (Admits d callers) K before after) (fresh : before.log.of i = [])
    {svc : Service} {request : PodRequest}
    (task : before.tasks i = some (acquire svc request).void)
    (found : Found before after i request.cleanupToken) :
    Reacquired before after i request.cleanupToken (SameRequest d request) := by
  have whole : ServiceRun d callers K clock after := run.trans onward
  have grown := Run.log_suffix onward
  have trail := whole.trail
  obtain ⟨harmless, returned, refused⟩ :=
    run.calls onward fresh found task (acquireLease_reacquires rfl).void
  refine ⟨harmless, fun ended => ?_, fun x raised row same equal known => ?_⟩
  · obtain ⟨row, own, just, met, shown, token, claimed⟩ := returned ended
    have versions := trail.same_claim (trail.consistent.committed shown)
      (trail.consistent.committed just.shown) (token.trans own.symm)
    exact ⟨row, just, own, versions.2.symm.trans claimed⟩
  · rcases refused x raised with empty | failed | answered | lost
    · exact .inl empty
    · right
      left
      have member : (⟨.reserve request, .error x⟩ : Event Effects) ∈ after.log.of i := by
        rw [failed]
        exact List.mem_cons_self
      obtain ⟨later, earlier, split⟩ := List.append_of_mem (Log.mem_of.mp member)
      obtain ⟨_, _, _, _, _, performed, _⟩ := trail.act_of_mem split
      obtain ⟨rows, attempt, _⟩ := perform_reserve.mp performed
      obtain ⟨claim, claimed⟩ := trail.claimedBy row (whole.known grown known)
      have covers := free.podRequest _ _ (claimed.fingerprint.symm.trans equal)
      obtain ⟨evidence, built⟩ := claimed.evidence
      rw [show claim.capacitySpec = request.capacitySpec from
          congrArg PodFingerprint.capacitySpec covers,
        show claim.resourceName = request.resourceName from
          congrArg PodFingerprint.resourceName covers] at built
      exact Rows.reserve_error attempt built
    · exact .inr answered
    · exact absurd lost whole.not_lost

/-- The creates of a run: one for each lease at most, and none before the lease's row says that
a create may be on its way. -/
structure CreatesOnce (log : Log Effects) : Prop where
  once : ∀ later earlier i (id : Nat) token name spec,
    log = later ++ (i, (⟨.send token (.create name spec), id⟩ : Event Effects)) :: earlier →
    ∀ j (id' : Nat) name' spec',
      (j, (⟨.send token (.create name' spec'), id'⟩ : Event Effects)) ∉ earlier
  durable : ∀ later earlier i (id : Nat) token name spec,
    log = later ++ (i, (⟨.send token (.create name spec), id⟩ : Event Effects)) :: earlier →
    ∃ row, Committed earlier row ∧ row.cleanupToken = token ∧ row.creationUncertain = true

theorem LeaseTrail.createsOnce (trail : LeaseTrail d callers K clock m) : CreatesOnce m.log where
  once := fun later earlier i id token name spec split j id' name' spec' =>
    trail.create_once split j id' name' spec'
  durable := by
    intro later earlier i id token name spec split
    obtain ⟨lease, t, row, same, claimed, _⟩ := trail.create_claimed split
    have logged : (i, (⟨.compareAndSet lease (claimCreateChanges t), .ok row⟩ : Event Effects)) ∈
        m.log := by
      rw [split]
      exact List.mem_append_right _ (List.mem_cons_of_mem _ claimed)
    obtain ⟨_, own, uncertain, _⟩ := trail.claim_version logged
    exact ⟨row, ⟨i, _, claimed, rfl⟩, own.trans same, uncertain⟩

end

/-! ### Digests without collisions -/

section

instance countableChar : Countable Char :=
  Function.Injective.countable (f := Char.toNat) fun _ _ same => Char.ext (UInt32.ext same)

instance countableString : Countable String :=
  Function.Injective.countable (f := String.toList) fun _ _ same => String.ext same

instance countableInstant : Countable Instant := by
  unfold Instant
  infer_instance

deriving instance Countable for Source
deriving instance Countable for CloudType
deriving instance Countable for Constraints
deriving instance Countable for QuoteFields

instance countableQuote : Countable Quote :=
  Function.Injective.countable (f := Quote.toQuoteFields) fun ⟨_, _⟩ ⟨_, _⟩ same => by
    cases same
    rfl

deriving instance Countable for CapacityRequestFields

instance : Countable CapacityRequest :=
  Function.Injective.countable (f := CapacityRequest.toCapacityRequestFields)
    fun ⟨_, _⟩ ⟨_, _⟩ same => by
      cases same
      rfl

deriving instance Countable for CapacitySpecFields

instance : Countable CapacitySpec :=
  Function.Injective.countable (f := CapacitySpec.toCapacitySpecFields)
    fun ⟨_, _⟩ ⟨_, _⟩ same => by
      cases same
      rfl

deriving instance Countable for CapacityFingerprint
deriving instance Countable for PodFingerprint

/-- The number of a content, in strokes. -/
noncomputable def strokes (α : Type) [Countable α] (a : α) : String :=
  String.ofList (List.replicate ((exists_injective_nat α).choose a) 'a')

theorem strokes_injective (α : Type) [Countable α] : Function.Injective (strokes α) := by
  intro a b same
  have lists := congrArg String.toList same
  exact (exists_injective_nat α).choose_spec (by simpa [strokes] using congrArg List.length lists)

open Sample in
/-- Digests without collisions, of which one is known. -/
noncomputable def coveringDigests : Digests :=
  { digests with
    capacityRequest := fun r => strokes _ r.fingerprinted
    podRequest := fun r =>
      if r = trainingRequest then "training" else strokes _ r.fingerprinted
    environment := strokes _ }

theorem coveringDigests_collisionFree : CollisionFree coveringDigests where
  capacityRequest := fun _ _ same => strokes_injective _ same
  podRequest := by
    have apart : ∀ f : PodFingerprint, "training" ≠ strokes _ f := by
      intro f same
      have lists := congrArg String.toList same
      simp only [strokes, String.toList_ofList] at lists
      have member : 't' ∈ List.replicate ((exists_injective_nat PodFingerprint).choose f) 'a' := by
        rw [← lists]
        decide
      cases List.eq_of_mem_replicate member
    intro r r' same
    simp only [coveringDigests] at same
    split at same
    · rename_i is
      split at same
      · rename_i is'
        rw [is, is']
      · exact absurd same (apart _)
    · split at same
      · exact absurd same.symm (apart _)
      · exact strokes_injective _ same
  environment := fun e e' same key => by rw [strokes_injective _ same]

end

/-! ### A training job that is acquired twice -/

section

open Sample

noncomputable def coveringService : Service := { service with digests := coveringDigests }

/-- The call reserves first, and is refused if it finds its lease in any state but READY. -/
theorem acquire_reserves (svc : Service) : ∃ k,
    (acquire svc trainingRequest).void = .perform (.reserve trainingRequest) k ∧
      ∀ row : Lease, row.state ≠ .ready →
        ∃ x, k (.ok (row, false)) = (.throw x : Co Unit) := by
  refine ⟨_, rfl, fun row state => ⟨.conflict ("Training cleanup token '" ++
    trainingRequest.cleanupToken ++ "' is already in state " ++ row.state.value ++
    "; reconcile it"), ?_⟩⟩
  simp only [bind_eq, ofExcept_ok, Program.bind, if_neg state, raise]
  rfl

/-- A provider that confirms every stop. -/
def confirmsStop : (call : Call) → Option (Except Exn call.Value)
  | .stop _ => some (.ok true)
  | .terminate _ => some (.ok true)
  | call => comesUp call

/-- The lease is released between the replay's reservation and its heartbeat. -/
noncomputable def releasedUnderReplay : Schedule coveringDigests agreed :=
  [.spawn 0 _ (.acquire coveringService trainingRequest rfl trainingRequest_named),
    runs 0 9, .drift (.accept 0 "pod-00001"), gets 0 comesUp, runs 0 20, gets 0 comesUp,
    runs 0 20, .spawn 1 _ (.acquire coveringService trainingRequest rfl trainingRequest_named),
    runs 1 1, .spawn 2 _ (.release coveringService "training-1" "finished" rfl), runs 2 20,
    .drift (.stops 0), gets 2 confirmsStop, runs 2 20, runs 1 20]

/-- The task found its lease by its reservation of the request, and raised no conflict. -/
def refusedOtherwise (request : PodRequest) (i : Nat) (c : Config Effects Exn World) : Bool :=
  (match c.tasks i with
    | some (.throw x) => !x.isConflict
    | _ => false) &&
  (c.log.of i).any fun e => match e with
    | ⟨.reserve request', .ok (_, false)⟩ => request' = request
    | _ => false

theorem refusedOtherwise_eq_true {request : PodRequest} {i : Nat}
    {c : Config Effects Exn World} (refused : refusedOtherwise request i c = true) :
    ∃ x row, c.tasks i = some (.throw x) ∧ x.isConflict = false ∧
      (⟨.reserve request, .ok (row, false)⟩ : Event Effects) ∈ c.log.of i := by
  rw [refusedOtherwise, Bool.and_eq_true] at refused
  obtain ⟨thrown, found⟩ := refused
  obtain ⟨e, member, is⟩ := List.any_eq_true.mp found
  split at thrown
  · rename_i x task
    split at is
    · rename_i request' row
      rw [decide_eq_true_eq] at is
      subst is
      exact ⟨x, row, task, by simpa using thrown, member⟩
    · cases is
  · cases thrown

end

end KestrelRunpod.Pod
