import KestrelRunpod.Pod.Writes

/-!
# Conformance of the elementary coroutines

What a task knows only grows, and each elementary coroutine keeps the contract under the
condition its equation states.  The proofs about the service's functions run through these
equations and never open an operation.
-/

namespace KestrelRunpod.Pod

open Interleave Program

/-! ## Knowledge grows -/

section Knowledge

variable {h h' : Past} {e : Event Effects} {row : Lease} {token : String} {t : Instant}
  {P Q : Lease → Prop}

/-- One more event. -/
theorem grows {h₁ : Past} (e : Event Effects) (grown : h <:+ h₁) : h <:+ (e :: h₁) :=
  grown.trans (List.suffix_cons _ _)

theorem Shown.mono (grown : h <:+ h') (shown : Shown h row) : Shown h' row := by
  obtain ⟨e, member, here⟩ := shown
  exact ⟨e, grown.mem member, here⟩

theorem Shown.head (here : shows row e) : Shown (e :: h) row := ⟨e, List.mem_cons_self, here⟩

theorem Shown.get : Shown ((⟨.get token, some row⟩ : Event Effects) :: h) row :=
  .head rfl

theorem Shown.written {lease : Lease} {changes : Changes} :
    Shown ((⟨.compareAndSet lease changes, .ok row⟩ : Event Effects) :: h) row :=
  .head rfl

theorem Shown.known (shown : Shown h row) (same : row.cleanupToken = token) (holds : P row) :
    Known h token P := ⟨row, shown, same, holds⟩

theorem Known.mono (grown : h <:+ h') (known : Known h token P) : Known h' token P := by
  obtain ⟨row, shown, same, holds⟩ := known
  exact ⟨row, shown.mono grown, same, holds⟩

theorem Known.weaken (known : Known h token P) (weaker : ∀ row, P row → Q row) :
    Known h token Q := by
  obtain ⟨row, shown, same, holds⟩ := known
  exact ⟨row, shown, same, weaker row holds⟩

theorem ReadAfter.mono (grown : h <:+ h') (read : ReadAfter h t token P) :
    ReadAfter h' t token P := by
  obtain ⟨newer, rfl⟩ := grown
  obtain ⟨later, earlier, rfl, known⟩ := read
  exact ⟨newer ++ later, earlier, by simp, known⟩

theorem Known.readNow (known : Known h token P) :
    ReadAfter ((⟨.now, t⟩ : Event Effects) :: h) t token P := ⟨[], h, rfl, known⟩

theorem ReadAfter.known (read : ReadAfter h t token P) : Known h token P := by
  obtain ⟨later, earlier, rfl, known⟩ := read
  exact known.mono ⟨later ++ [⟨.now, t⟩], by simp⟩

theorem ReadAfter.weaken (read : ReadAfter h t token P) (weaker : ∀ row, P row → Q row) :
    ReadAfter h t token Q := by
  obtain ⟨later, earlier, split, known⟩ := read
  exact ⟨later, earlier, split, known.weaken weaker⟩

theorem Replied.mono {call : Call} {outcome : Except Exn call.Value} (grown : h <:+ h')
    (replied : Replied h token call outcome) : Replied h' token call outcome := by
  obtain ⟨id, sent, received⟩ := replied
  exact ⟨id, grown.mem sent, grown.mem received⟩

theorem Replied.here {call : Call} {outcome : Except Exn call.Value} {id : Nat} :
    Replied ((⟨.recv id call, outcome⟩ : Event Effects) ::
      (⟨.send token call, id⟩ : Event Effects) :: h) token call outcome :=
  ⟨id, by simp, by simp⟩

theorem Inserted.mono (grown : h <:+ h') (inserted : Inserted h row) : Inserted h' row := by
  obtain ⟨request, member⟩ := inserted
  exact ⟨request, grown.mem member⟩

theorem Inserted.shown (inserted : Inserted h row) : Shown h row := by
  obtain ⟨request, member⟩ := inserted
  exact ⟨_, member, true, rfl⟩

theorem CreateClaimed.mono (grown : h <:+ h') (claimed : CreateClaimed h token) :
    CreateClaimed h' token := by
  obtain ⟨lease, t, row, same, member⟩ := claimed
  exact ⟨lease, t, row, same, grown.mem member⟩

theorem StartClaimed.mono (grown : h <:+ h') (claimed : StartClaimed h token) :
    StartClaimed h' token := by
  obtain ⟨lease, t, row, same, member⟩ := claimed
  exact ⟨lease, t, row, same, grown.mem member⟩

theorem CreateClaimed.head {lease : Lease} :
    CreateClaimed ((⟨.compareAndSet lease (claimCreateChanges t), .ok row⟩ : Event Effects) :: h)
      lease.cleanupToken := ⟨lease, t, row, rfl, List.mem_cons_self⟩

theorem StartClaimed.head {lease : Lease} :
    StartClaimed ((⟨.compareAndSet lease (foundStoppedChanges t), .ok row⟩ : Event Effects) :: h)
      lease.cleanupToken := ⟨lease, t, row, rfl, List.mem_cons_self⟩

theorem CreateAnswered.mono {pod : String} (grown : h <:+ h')
    (answered : CreateAnswered h token pod) : CreateAnswered h' token pod := by
  obtain ⟨name, spec, outcome, replied, which⟩ := answered
  exact ⟨name, spec, outcome, replied.mono grown, which⟩

theorem CreateRejected.mono {x : Exn} (grown : h <:+ h') (rejected : CreateRejected h token x) :
    CreateRejected h' token x := by
  obtain ⟨name, spec, replied, definite⟩ := rejected
  exact ⟨name, spec, replied.mono grown, definite⟩

theorem Recovered.mono {pod : String} {placement : Option RealizedPlacement} {catalog : Bool}
    (grown : h <:+ h') (recovered : Recovered h token pod placement catalog) :
    Recovered h' token pod placement catalog := by
  obtain ⟨row, shown, same, kind, found⟩ := recovered
  refine ⟨row, shown.mono grown, same, kind, ?_⟩
  rcases found with ⟨spec, has, replied⟩ | ⟨none, absent, replied⟩
  · exact .inl ⟨spec, has, replied.mono grown⟩
  · exact .inr ⟨none, absent, replied.mono grown⟩

theorem WorkerReplied.mono {observation : Observation} {submitted : Bool} (grown : h <:+ h')
    (replied : WorkerReplied h token observation submitted) :
    WorkerReplied h' token observation submitted := by
  rcases replied with ⟨yes, url, attempt, sha, reply⟩ | ⟨no, url, attempt, sha, reply⟩
  · exact .inl ⟨yes, url, attempt, sha, reply.mono grown⟩
  · refine .inr ⟨no, url, attempt, sha, ?_⟩
    rcases reply with reply | ⟨payload, reply | reply⟩
    · exact .inl (reply.mono grown)
    · exact .inr ⟨payload, .inl (reply.mono grown)⟩
    · exact .inr ⟨payload, .inr (reply.mono grown)⟩

theorem FinallyBilled.mono {receipt : BillingReceipt} (grown : h <:+ h')
    (billed : FinallyBilled h token receipt) : FinallyBilled h' token receipt := by
  obtain ⟨row, pod, terminatedAt, evidence, realized, shown, same, catalog, open', hasPod,
    terminated, hasEvidence, hasPlacement, samePod, ⟨id, later, earlier, split, before,
    received⟩, rest⟩ := billed
  obtain ⟨newer, rfl⟩ := grown
  exact ⟨row, pod, terminatedAt, evidence, realized, shown.mono ⟨newer, rfl⟩, same, catalog,
    open', hasPod, terminated, hasEvidence, hasPlacement, samePod,
    ⟨id, newer ++ later, earlier, by rw [split]; simp, before,
      List.mem_append_right _ received⟩, rest⟩

end Knowledge

/-! ## Elementary coroutines -/

variable {d : Digests} {callers : Callers} {α β : Type} {h : Past}
  {failed : Past → Exn → Prop}

theorem obeys_raise {C : Contract Effects} {done : Past → α → Prop} {x : Exn} :
    (raise x : Co α).Obeys C done failed h ↔ failed h x := Iff.rfl

theorem obeys_now {done : Past → Instant → Prop} :
    now.Obeys (leaseContract d callers) done failed h ↔
      ∀ t : Instant, done ((⟨.now, t⟩ : Event Effects) :: h) t := by
  constructor
  · intro obeys t
    exact obeys.2 t trivial
  · intro all
    exact ⟨trivial, fun t _ => all t⟩

theorem obeys_getLease {token : String} {done : Past → Option Lease → Prop} :
    (getLease token).Obeys (leaseContract d callers) done failed h ↔
      ∀ found : Option Lease, (∀ row, found = some row → row.cleanupToken = token) →
        done ((⟨.get token, found⟩ : Event Effects) :: h) found := by
  constructor
  · intro obeys found promised
    exact obeys.2 found promised
  · intro all
    exact ⟨trivial, fun found promised => all found promised⟩

theorem obeys_required {token : String} {done : Past → Lease → Prop} :
    (required token).Obeys (leaseContract d callers) done failed h ↔
      (∀ row : Lease, row.cleanupToken = token →
        done ((⟨.get token, some row⟩ : Event Effects) :: h) row) ∧
      failed ((⟨.get token, none⟩ : Event Effects) :: h)
        (.manager ("Training cleanup token '" ++ token ++ "' was not found")) := by
  rw [required, obeys_bind, obeys_getLease]
  constructor
  · intro all
    refine ⟨fun row same => ?_, all none (by simp)⟩
    exact all (some row) (by simpa using same)
  · rintro ⟨present, absent⟩ found promised
    cases found with
    | none => exact absent
    | some row => exact present row (promised row rfl)

theorem obeys_compareAndSet {lease : Lease} {changes : Changes} {done : Past → Lease → Prop} :
    (compareAndSet lease changes).Obeys (leaseContract d callers) done failed h ↔
      Permits d callers h (.compareAndSet lease changes) ∧
      (∀ current : Lease, current.cleanupToken = lease.cleanupToken →
        current.revision = lease.revision →
        done ((⟨.compareAndSet lease changes, .ok (current.apply changes)⟩ : Event Effects) :: h)
          (current.apply changes)) ∧
      ∀ x, failed ((⟨.compareAndSet lease changes, .error x⟩ : Event Effects) :: h) x := by
  constructor
  · rintro ⟨permitted, all⟩
    refine ⟨permitted, fun current same rev => ?_, fun x => ?_⟩
    · refine all (.ok (current.apply changes)) fun row is => ?_
      simp only [Except.ok.injEq] at is
      exact ⟨current, same, rev, is.symm⟩
    · exact all (.error x) (by rintro row ⟨⟩)
  · rintro ⟨permitted, written, refused⟩
    refine ⟨permitted, fun reply promised => ?_⟩
    cases reply with
    | ok row =>
        obtain ⟨current, same, rev, rfl⟩ := promised row rfl
        exact written current same rev
    | error x => exact refused x

theorem obeys_await {token : String} {call : Call} {done : Past → call.Value → Prop} :
    (await token call).Obeys (leaseContract d callers) done failed h ↔
      PermitsCall h token call ∧ ∀ id : Nat,
        (∀ value : call.Value, done ((⟨.recv id call, .ok value⟩ : Event Effects) ::
          (⟨.send token call, id⟩ : Event Effects) :: h) value) ∧
        ∀ x, failed ((⟨.recv id call, .error x⟩ : Event Effects) ::
          (⟨.send token call, id⟩ : Event Effects) :: h) x := by
  constructor
  · rintro ⟨permitted, all⟩
    refine ⟨permitted, fun id => ?_⟩
    have received := all id trivial
    exact ⟨fun value => received.2 (.ok value) trivial, fun x => received.2 (.error x) trivial⟩
  · rintro ⟨permitted, all⟩
    refine ⟨permitted, fun id _ => ⟨⟨token, List.mem_cons_self⟩, fun outcome _ => ?_⟩⟩
    cases outcome with
    | ok value => exact (all id).1 value
    | error x => exact (all id).2 x

theorem obeys_except {C : Contract Effects} {body : Co α} {caught : Exn → Bool}
    {handler : Exn → Co α} {done : Past → α → Prop} :
    (except body caught handler).Obeys C done failed h ↔
      body.Obeys C done (fun h' x => (caught x = true → (handler x).Obeys C done failed h') ∧
        (caught x = false → failed h' x)) h := by
  rw [except, obeys_handle]
  have same : (fun (h' : Past) (x : Exn) =>
      (if caught x = true then handler x else raise x).Obeys C done failed h') = fun h' x =>
      (caught x = true → (handler x).Obeys C done failed h') ∧
        (caught x = false → failed h' x) := by
    funext h' x
    cases caught x <;> simp [obeys_raise]
  rw [same]

theorem obeys_awaitOwned {effect : Co α} {done : Past → α → Prop} :
    (awaitOwned effect).Obeys (leaseContract d callers) done failed h ↔
      effect.Obeys (leaseContract d callers) (fun h' a =>
        done ((⟨.joined, false⟩ : Event Effects) :: h') a ∧
          failed ((⟨.joined, true⟩ : Event Effects) :: h') .cancelled) failed h := by
  rw [awaitOwned, obeys_bind]
  have same : (fun (h' : Past) (a : α) =>
      (Program.perform (S := Effects) .joined fun (cancelled : Bool) =>
        if cancelled = true then raise .cancelled else Program.pure a).Obeys
          (leaseContract d callers) done failed h') = fun h' a =>
      done ((⟨.joined, false⟩ : Event Effects) :: h') a ∧
        failed ((⟨.joined, true⟩ : Event Effects) :: h') .cancelled := by
    funext h' a
    refine propext ⟨fun obeys => ⟨obeys.2 false trivial, obeys.2 true trivial⟩, fun both => ?_⟩
    refine ⟨trivial, fun cancelled _ => ?_⟩
    cases cancelled with
    | false => exact both.1
    | true => exact both.2
  rw [same]

/-! ## Steps of a proof

The same coroutines with the history they leave kept abstract: only what it adds to the
task's knowledge is passed on. -/

theorem now_obeys {done : Past → Instant → Prop}
    (normal : ∀ h' t, h <:+ h' → (∀ token P, Known h token P → ReadAfter h' t token P) →
      done h' t) :
    now.Obeys (leaseContract d callers) done failed h := by
  rw [obeys_now]
  exact fun t => normal _ t (List.suffix_cons _ _) fun _ _ known => known.readNow

theorem required_obeys {token : String} {done : Past → Lease → Prop}
    (normal : ∀ h' row, h <:+ h' → Shown h' row → row.cleanupToken = token → done h' row)
    (raised : ∀ h' x, h <:+ h' → failed h' x) :
    (required token).Obeys (leaseContract d callers) done failed h := by
  rw [obeys_required]
  exact ⟨fun row same => normal _ row (List.suffix_cons _ _) .get same,
    raised _ _ (List.suffix_cons _ _)⟩

theorem getLease_obeys {token : String} {done : Past → Option Lease → Prop}
    (present : ∀ h' row, h <:+ h' → Shown h' row → row.cleanupToken = token →
      done h' (some row))
    (absent : ∀ h', h <:+ h' → done h' none) :
    (getLease token).Obeys (leaseContract d callers) done failed h := by
  rw [obeys_getLease]
  intro found promised
  cases found with
  | none => exact absent _ (List.suffix_cons _ _)
  | some row => exact present _ row (List.suffix_cons _ _) .get (promised row rfl)

theorem await_obeys {token : String} {call : Call} {done : Past → call.Value → Prop}
    (permitted : PermitsCall h token call)
    (normal : ∀ h' value, h <:+ h' → Replied h' token call (.ok value) → done h' value)
    (raised : ∀ h' x, h <:+ h' → Replied h' token call (.error x) → failed h' x) :
    (await token call).Obeys (leaseContract d callers) done failed h := by
  rw [obeys_await]
  exact ⟨permitted, fun id => ⟨fun value =>
    normal _ value (grows _ (List.suffix_cons _ _)) .here,
    fun x => raised _ x (grows _ (List.suffix_cons _ _)) .here⟩⟩

theorem compareAndSet_obeys {lease : Lease} {changes : Changes} {done : Past → Lease → Prop}
    (write : Write) (shown : Shown h lease) (guarded : write.Guard d callers h lease)
    (makes : write.Makes lease changes)
    (normal : ∀ h' (current : Lease), h <:+ h' → Shown h' (current.apply changes) →
      (⟨.compareAndSet lease changes, .ok (current.apply changes)⟩ : Event Effects) ∈ h' →
      current.cleanupToken = lease.cleanupToken → current.revision = lease.revision →
      done h' (current.apply changes))
    (raised : ∀ h' x, h <:+ h' → failed h' x) :
    (compareAndSet lease changes).Obeys (leaseContract d callers) done failed h := by
  rw [obeys_compareAndSet]
  exact ⟨⟨shown, write, guarded, makes⟩, fun current same rev =>
    normal _ current (List.suffix_cons _ _) .written List.mem_cons_self same rev,
    fun x => raised _ x (List.suffix_cons _ _)⟩

/-! ## Pure lookups -/

theorem obeys_podId {lease : Lease} {done : Past → String → Prop}
    (present : ∀ pod, lease.providerPodId = some pod → done h pod)
    (absent : ∀ x, failed h x) :
    (podId lease).Obeys (leaseContract d callers) done failed h := by
  unfold podId
  split
  · rename_i pod has
    split
    · exact absent _
    · exact present pod has
  · exact absent _

theorem obeys_capacitySpec {lease : Lease} {done : Past → CapacitySpec → Prop}
    (present : ∀ spec, lease.capacitySpec = some spec → done h spec)
    (absent : ∀ x, failed h x) :
    (capacitySpec lease).Obeys (leaseContract d callers) done failed h := by
  unfold capacitySpec
  split
  · rename_i spec has
    exact present spec has
  · exact absent _

theorem obeys_profile {svc : Service} {profileId : String} {done : Past → Nat → Prop}
    (present : ∀ count, done h count) (absent : ∀ x, failed h x) :
    (profile svc profileId).Obeys (leaseContract d callers) done failed h := by
  unfold profile
  split
  · exact present _
  · exact absent _

theorem obeys_route {lease : Lease} {done : Past → String → Prop}
    (present : ∀ url, done h url) (absent : ∀ x, failed h x) :
    (route lease).Obeys (leaseContract d callers) done failed h := by
  unfold route
  split
  · split
    · exact absent _
    · exact present _
  · exact absent _

theorem obeys_requireCapabilityStore {C : Contract Effects} {svc : Service}
    {done : Past → Unit → Prop}
    (present : done h ()) (absent : ∀ x, failed h x) :
    (requireCapabilityStore svc).Obeys C done failed h := by
  unfold requireCapabilityStore
  split
  · exact present
  · exact absent _

theorem obeys_requireWorkloadTransport {C : Contract Effects} {svc : Service}
    {done : Past → Unit → Prop}
    (present : done h ()) (absent : ∀ x, failed h x) :
    (requireWorkloadTransport svc).Obeys C done failed h := by
  unfold requireWorkloadTransport
  split
  · exact present
  · exact absent _

theorem obeys_validateCapability {C : Contract Effects} {request : CapacityRequest}
    {capability : Capability} {done : Past → Unit → Prop} (present : done h ()) (absent : ∀ x, failed h x) :
    (validateCapability request capability).Obeys C done failed h := by
  unfold validateCapability
  split
  · exact present
  · exact absent _

end KestrelRunpod.Pod
