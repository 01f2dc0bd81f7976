import KestrelRunpod.Serverless.Session

/-!
# Custody of a cleanup

The host runs cleanup sessions one after another, each with the intent in its store, until one
returns a receipt; `Sessions` are these runs.  The store keeps the first intent it gets, so
every receipt of a run states that intent's timestamps.
-/

namespace KestrelRunpod.Serverless

open Interleave Catalog Numeric
open Traverse (except_bind_ok)

variable {d : Digests} {h : Past d}

/-! ## Runs of the host -/

/-- The intents that were offered to the host's store. -/
def intentsSent (h : Past d) : List (CleanupIntent d) :=
  h.filterMap fun e => match e.op with
    | .send (.persistIntent intent) => some intent
    | _ => none

theorem mem_intentsSent {intent : CleanupIntent d} (sent : intent ∈ intentsSent h) :
    ⟨.send (.persistIntent intent), ()⟩ ∈ h := by
  obtain ⟨⟨op, reply⟩, held, is⟩ := List.mem_filterMap.mp sent
  cases op with
  | send call =>
      cases call with
      | persistIntent other =>
          cases is
          exact held
      | _ => cases is
  | _ => cases is

/-- The intents that the host's store acknowledged. -/
def intentsAcked (h : Past d) : List (CleanupIntent d) :=
  h.filterMap fun e => match e with
    | ⟨.recv (.persistIntent _), .ok acknowledged⟩ => acknowledged
    | _ => none

theorem mem_intentsAcked {offered intent : CleanupIntent d}
    (acked : ⟨.recv (.persistIntent offered), .ok (some intent)⟩ ∈ h) :
    intent ∈ intentsAcked h :=
  List.mem_filterMap.mpr ⟨_, acked, rfl⟩

/-- What the host keeps between sessions: the intent in its store, the intents that it was
offered, the receipts it was given, and the last clock read. -/
structure Custody (d : Digests) where
  stored : Option (CleanupIntent d)
  offered : List (CleanupIntent d)
  receipts : List (CleanupReceipt d)
  clock : Instant

/-- A run of the host on one activation: sessions one after another, each with the intent in
the store and at most one of the receipts, each interrupted anywhere or at its end.  The store
keeps the first intent that reaches it, which may be after the session that offered it, and an
acknowledged intent is the one it holds. -/
inductive Sessions (request : QuoteRequest) (quote : CapacityQuote)
    (activation : ActivationReceipt d) (persists : Bool) : Custody d → Prop
  | start {clock : Instant} (after : activation.readbackAt ≤ clock) :
      Sessions request quote activation persists ⟨none, [], [], clock⟩
  | lands {s : Custody d} (before : Sessions request quote activation persists s)
      {intent : CleanupIntent d} (sent : intent ∈ s.offered) (empty : s.stored = none) :
      Sessions request quote activation persists { s with stored := some intent }
  | session {s : Custody d} (before : Sessions request quote activation persists s)
      (prior : Option (CleanupReceipt d)) (own : ∀ receipt, prior = some receipt →
        receipt ∈ s.receipts)
      {history : Past d} {rest : Co d (CleanupReceipt d)}
      (reach : (cleanupPlannedEndpoint request quote activation prior s.stored
        persists).Reaches [] history rest)
      (ascending : Ascending s.clock history) {stored : Option (CleanupIntent d)}
      (kept : stored = s.stored ∨ s.stored = none ∧ ∃ intent ∈ intentsSent history ++ s.offered,
        stored = some intent)
      (faithful : ∀ intent ∈ intentsAcked history, stored = some intent) :
      Sessions request quote activation persists ⟨stored, intentsSent history ++ s.offered,
        rest.value.toList ++ s.receipts, latest s.clock history⟩

/-- The receipt is of an intent of the activation, and of the one in the store if there is a
persist callback. -/
def Keeps (activation : ActivationReceipt d) (persists : Bool) (s : Custody d)
    (receipt : CleanupReceipt d) : Prop :=
  receipt.toCleanupBinding = activation.cleanupBinding ∧ ∃ intent : CleanupIntent d,
    intent.activation = activation ∧ (persists = true → s.stored = some intent) ∧
    receipt.workersZeroObservedAt = intent.workersZeroObservedAt ∧
    receipt.deleteStartedAt = intent.deleteStartedAt

/-- What holds between any two sessions. -/
structure Custodial (activation : ActivationReceipt d) (persists : Bool) (s : Custody d) :
    Prop where
  started : activation.readbackAt ≤ s.clock
  offered : ∀ intent ∈ s.offered, intent.activation = activation ∧
    intent.deleteStartedAt ≤ s.clock
  stored : ∀ intent, s.stored = some intent → intent.activation = activation ∧
    intent.deleteStartedAt ≤ s.clock
  receipts : ∀ receipt ∈ s.receipts, Keeps activation persists s receipt

section

variable {request : QuoteRequest} {quote : CapacityQuote} {activation : ActivationReceipt d}
  {persists : Bool}

/-- A session whose binding is refused does nothing. -/
theorem cleanupPlannedEndpoint_unbound {priorReceipt : Option (CleanupReceipt d)}
    {priorIntent : Option (CleanupIntent d)} {x : Exn}
    (refused : validatePlannedRequestBinding d.toQuoteDigests request quote = .error x) :
    cleanupPlannedEndpoint request quote activation priorReceipt priorIntent persists =
      .throw x := by
  unfold cleanupPlannedEndpoint cleanupPlannedEndpointBody
  rw [refused]
  rfl

/-- What a session's history shows, wherever the session stops. -/
theorem session_permits {priorReceipt : Option (CleanupReceipt d)}
    {priorIntent : Option (CleanupIntent d)} {history : Past d}
    {rest : Co d (CleanupReceipt d)}
    (reach : (cleanupPlannedEndpoint request quote activation priorReceipt priorIntent
      persists).Reaches [] history rest)
    {later earlier : Past d} {e : Event (Effects d)} (split : history = later ++ e :: earlier) :
    (mutations (fun _ _ => False) (Deletable request quote activation priorIntent persists)
      (Persistable activation priorIntent)).permits earlier e.op := by
  cases bound : validatePlannedRequestBinding d.toQuoteDigests request quote with
  | ok _ =>
      have walk := cleanupPlannedEndpoint_proper (h := []) priorReceipt priorIntent
        persists (le_refl activation.readbackAt)
        (by rw [bound]; exact managed_ok _)
      exact reach.permitted (fun _ _ => trivial) walk.safe split List.nil_suffix
  | error x =>
      rw [cleanupPlannedEndpoint_unbound bound] at reach
      cases reach
      simp at split

/-- What a session returns. -/
theorem session_returns {priorReceipt : Option (CleanupReceipt d)}
    {priorIntent : Option (CleanupIntent d)} {history : Past d} {receipt : CleanupReceipt d}
    (ends : (cleanupPlannedEndpoint request quote activation priorReceipt priorIntent
      persists).Ends [] history (.ok receipt)) :
    ∃ h₁, history = ⟨.joined, false⟩ :: h₁ ∧
      Returned activation priorReceipt priorIntent persists h₁ receipt := by
  cases bound : validatePlannedRequestBinding d.toQuoteDigests request quote with
  | ok _ =>
      have walk := cleanupPlannedEndpoint_proper (h := []) priorReceipt priorIntent
        persists (le_refl activation.readbackAt)
        (by rw [bound]; exact managed_ok _)
      exact (ends.obeys (fun _ _ => trivial) walk).1 receipt rfl
  | error x =>
      rw [cleanupPlannedEndpoint_unbound bound] at ends
      cases ends

/-- A session that starts once the readback is past raises a `ValueError` only when a call does,
or the binding of its request to its quote. -/
theorem session_raises {priorReceipt : Option (CleanupReceipt d)}
    {priorIntent : Option (CleanupIntent d)} {history : Past d} {c : Instant} {x : Exn}
    (started : activation.readbackAt ≤ c)
    (ends : (cleanupPlannedEndpoint request quote activation priorReceipt priorIntent
      persists).Ends [] history (.error x))
    (ascending : Ascending c history) (value : x.isValueError = true) :
    Foreign history x ∨
      validatePlannedRequestBinding d.toQuoteDigests request quote = .error x := by
  cases bound : validatePlannedRequestBinding d.toQuoteDigests request quote with
  | ok _ =>
      have walk := cleanupPlannedEndpoint_proper (h := []) priorReceipt priorIntent
        persists started (by rw [bound]; exact managed_ok _)
      exact .inl ((ends.obeys (fun _ _ => trivial) walk).2 x rfl ascending value)
  | error y =>
      rw [cleanupPlannedEndpoint_unbound bound] at ends
      cases ends
      exact .inr rfl

/-- A stored intent stays. -/
theorem Keeps.mono {s s' : Custody d} {receipt : CleanupReceipt d}
    (keeps : Keeps activation persists s receipt)
    (stays : ∀ intent, s.stored = some intent → s'.stored = some intent) :
    Keeps activation persists s' receipt := by
  obtain ⟨binding, intent, activated, held, times⟩ := keeps
  exact ⟨binding, intent, activated, fun on => stays intent (held on), times⟩

/-- The receipt that a session returns. -/
theorem Returned.keeps {s : Custody d} {prior : Option (CleanupReceipt d)} {h₁ : Past d}
    {receipt : CleanupReceipt d} {stored : Option (CleanupIntent d)} {s' : Custody d}
    (returned : Returned activation prior s.stored persists h₁ receipt)
    (own : ∀ receipt, prior = some receipt → Keeps activation persists s receipt)
    (is : s'.stored = stored) (stays : ∀ intent, s.stored = some intent → stored = some intent)
    (faithful : ∀ intent, ⟨.recv (.persistIntent intent), .ok (some intent)⟩ ∈ h₁ →
      stored = some intent) : Keeps activation persists s' receipt := by
  cases returned with
  | issued intent fresh verified issues =>
      refine ⟨issues.binding, intent, issues.activated, fun on => ?_, issues.workersZero,
        issues.deleteStarted⟩
      rw [is]
      cases held : s.stored with
      | none => exact faithful intent (issues.acknowledged held on)
      | some first =>
          rw [issues.atHand first held]
          exact stays first held
  | replayed t same verified agrees =>
      exact (own receipt same).mono fun intent held => is.trans (stays intent held)

theorem Sessions.custodial {s : Custody d} (run : Sessions request quote activation persists s) :
    Custodial activation persists s := by
  induction run with
  | start after => exact ⟨after, by simp, by simp, by simp⟩
  | @lands s before intent sent empty ih =>
      refine ⟨ih.started, ih.offered, fun other is => ?_, fun receipt held => ?_⟩
      · cases is
        exact ih.offered intent sent
      · exact (ih.receipts receipt held).mono fun other is => by rw [empty] at is; cases is
  | @session s before prior own history rest reach ascending stored kept faithful ih =>
      have later := latest_ge ascending
      have stays : ∀ intent, s.stored = some intent → stored = some intent := by
        intro intent held
        rcases kept with same | ⟨empty, -⟩
        · rw [same, held]
        · rw [empty] at held
          cases held
      have offered : ∀ intent ∈ intentsSent history ++ s.offered,
          intent.activation = activation ∧ intent.deleteStartedAt ≤ latest s.clock history := by
        intro intent held
        rcases List.mem_append.mp held with sent | old
        · obtain ⟨after, earlier, split⟩ := List.append_of_mem (mem_intentsSent sent)
          obtain ⟨activated, ⟨readAt, read, le⟩, -⟩ := session_permits reach split
          have within : ⟨.now, readAt⟩ ∈ history := by
            rw [split]
            exact List.mem_append_right _ (List.mem_cons_of_mem _ read)
          exact ⟨activated, le.trans (latest_mem ascending within)⟩
        · obtain ⟨activated, le⟩ := ih.offered intent old
          exact ⟨activated, le.trans later⟩
      refine ⟨ih.started.trans later, offered, fun intent held => ?_, fun receipt held => ?_⟩
      · rcases kept with same | ⟨empty, other, sent, is⟩
        · obtain ⟨activated, le⟩ := ih.stored intent (same.symm.trans held)
          exact ⟨activated, le.trans later⟩
        · cases is.symm.trans held
          exact offered intent sent
      · rcases List.mem_append.mp held with issued | old
        · have pure_ : rest.value = some receipt := Option.mem_toList.mp issued
          cases rest with
          | pure other =>
              cases pure_
              obtain ⟨h₁, rfl, returned⟩ := session_returns reach.ends
              exact returned.keeps (fun r is => ih.receipts r (own r is)) rfl stays
                fun intent acked => faithful intent (mem_intentsAcked (List.mem_cons_of_mem _ acked))
          | throw x => cases pure_
          | stall => cases pure_
          | perform op k => cases pure_
        · exact (ih.receipts receipt old).mono stays

/-- The exact read of an endpoint that is gone. -/
theorem cleanupEndpointResource_ends {x : Exn} (missing : x.isNotFound = true) :
    (cleanupEndpointResource activation).Ends h
      (⟨.recv (.getEndpoint activation.endpointId), .error x⟩ ::
        ⟨.send (.getEndpoint activation.endpointId), ()⟩ :: h) (.ok none) := by
  refine .perform () (.perform (Except.error x : Except Exn EndpointResource) ?_)
  show (if x.isNotFound then _ else _ : Co d (Option EndpointResource)).Ends _ _ _
  rw [if_pos missing]
  exact .pure none _

/-- The proof of absence, for an endpoint that is gone. -/
theorem verifyCleanupAbsence_ends {x : Exn} {inventory : List EndpointResource} (t : Instant)
    (missing : x.isNotFound = true) (unlisted : ∀ item ∈ inventory,
      item.id ≠ activation.endpointId ∧ item.name ≠ activation.endpointName) :
    (verifyCleanupAbsence activation).Ends h
      (⟨.now, t⟩ :: ⟨.recv .listEndpoints, .ok inventory⟩ :: ⟨.send .listEndpoints, ()⟩ ::
        ⟨.recv (.getEndpoint activation.endpointId), .error x⟩ ::
        ⟨.send (.getEndpoint activation.endpointId), ()⟩ :: h) (.ok t) := by
  refine Program.Reaches.ends ?_
  unfold verifyCleanupAbsence
  refine (cleanupEndpointResource_ends missing).reaches_bind ?_
  refine reaches_refuse (by simp) ?_
  refine reaches_await inventory ?_
  refine reaches_refuse ?_ (.perform t (.refl _ _))
  simpa using unlisted

/-- A session with an intent at hand, once the endpoint is gone. -/
theorem restart_ends {intent : CleanupIntent d} {t : Instant} {x : Exn}
    {inventory : List EndpointResource} {receipt : CleanupReceipt d}
    (bound : validatePlannedRequestBinding d.toQuoteDigests request quote = .ok ())
    (same : activation.validateQuote quote = .ok ())
    (activated : intent.activation = activation) (past : intent.deleteStartedAt ≤ t)
    (missing : x.isNotFound = true) (unlisted : ∀ item ∈ inventory,
      item.id ≠ activation.endpointId ∧ item.name ≠ activation.endpointName)
    (made : cleanupReceipt intent t .interruptedIntentVerifiedAbsent = .ok receipt) :
    (cleanupPlannedEndpoint request quote activation none (some intent) persists).Ends []
      [⟨.joined, false⟩, ⟨.now, t⟩, ⟨.recv .listEndpoints, .ok inventory⟩,
        ⟨.send .listEndpoints, ()⟩, ⟨.recv (.getEndpoint activation.endpointId), .error x⟩,
        ⟨.send (.getEndpoint activation.endpointId), ()⟩,
        ⟨.recv (.getEndpoint activation.endpointId), .error x⟩,
        ⟨.send (.getEndpoint activation.endpointId), ()⟩, ⟨.now, t⟩] (.ok receipt) := by
  have checked : (validatePriorIntent activation (some intent)).Ends [] [⟨.now, t⟩]
      (.ok ()) := by
    refine Program.Reaches.ends ?_
    refine reaches_refuse (not_not.mpr activated) ?_
    refine reaches_now t ?_
    rw [refuse_ok.mpr (not_lt.mpr past)]
    exact .refl _ _
  have joined : ∀ h₁ : Past d, (Program.perform (S := Effects d) .joined
      fun (cancelled : Bool) => (if cancelled then .throw .cancelled else .pure receipt :
        Co d (CleanupReceipt d))).Ends h₁ (⟨.joined, false⟩ :: h₁) (.ok receipt) := fun h₁ =>
    .perform false (by exact .pure receipt _)
  refine Program.Ends.andThen ?_ (joined _)
  refine Program.Reaches.ends ?_
  unfold cleanupPlannedEndpointBody
  refine reaches_check bound ?_
  refine reaches_check same ?_
  refine checked.reaches_bind ?_
  refine (cleanupEndpointResource_ends missing).reaches_bind ?_
  refine (verifyCleanupAbsence_ends t missing unlisted).reaches_bind ?_
  rw [made]
  exact .refl _ _

/-- **Cleanup custody.**  Wherever a session stops, its delete went out only over an accepted
exact readback, a page without workers and, with a persist callback, the acknowledgement of
exactly its intent; it returns a receipt only over a proof of absence by id and by name.  In
every run of sessions, each with the intent in the store, every receipt carries the recomputed
identity and the first intent's timestamps, no session raises a `ValueError` of its own, and
once an intent is stored, a session that finds the endpoint gone ends in a receipt. -/
theorem cleanup_custody (request : QuoteRequest) (quote : CapacityQuote)
    (activation : ActivationReceipt d) (persists : Bool) :
    (∀ prior priorIntent history rest, (cleanupPlannedEndpoint request quote activation prior
        priorIntent persists).Reaches [] history rest →
      ∀ later earlier id, history = later ++ ⟨.send (.deleteEndpoint id), ()⟩ :: earlier →
        Deletable request quote activation priorIntent persists earlier id) ∧
    (∀ prior priorIntent history receipt, (cleanupPlannedEndpoint request quote activation prior
        priorIntent persists).Ends [] history (.ok receipt) →
      ∃ t h₁, history = ⟨.joined, false⟩ :: h₁ ∧ Absent activation t h₁) ∧
    ∀ s, Sessions request quote activation persists s →
      (∀ receipt ∈ s.receipts, Keeps activation persists s receipt ∧
        receipt.providerCleanupId =
          "runpod-serverless-cleanup:" ++ d.cleanup receipt.toCleanupFields.identity) ∧
      (∀ prior history x, (cleanupPlannedEndpoint request quote activation prior s.stored
          persists).Ends [] history (.error x) → Ascending s.clock history →
        x.isValueError = true → Foreign history x ∨
          validatePlannedRequestBinding d.toQuoteDigests request quote = .error x) ∧
      ∀ intent t x (inventory : List EndpointResource), s.stored = some intent → s.clock ≤ t →
        validatePlannedRequestBinding d.toQuoteDigests request quote = .ok () →
        activation.validateQuote quote = .ok () → Exn.isNotFound x = true →
        (∀ item ∈ inventory, item.id ≠ activation.endpointId ∧
          item.name ≠ activation.endpointName) →
        ∃ history receipt, history.head? = some ⟨.joined, false⟩ ∧
          Absent activation t history.tail ∧
          (cleanupPlannedEndpoint request quote activation none s.stored persists).Ends []
            history (.ok receipt) := by
  refine ⟨fun prior priorIntent history rest reach later earlier id split =>
      session_permits reach split, fun prior priorIntent history receipt ends => ?_,
    fun s run => ⟨fun receipt held => ⟨run.custodial.receipts receipt held, ?_⟩,
      fun prior history x ends ascending value =>
        session_raises run.custodial.started ends ascending value, ?_⟩⟩
  · obtain ⟨h₁, is, returned⟩ := session_returns ends
    cases returned with
    | issued intent fresh verified issues => exact ⟨_, h₁, is, verified⟩
    | replayed t same verified agrees => exact ⟨t, h₁, is, verified⟩
  · have checked := receipt.checked
    unfold CleanupFields.check at checked
    simp only [↓refuse_bind_ok, except_bind_ok, refuse_ok, ne_eq, not_not] at checked
    obtain ⟨_, -, _, -, _, -, _, -, _, -, _, -, _, -, _, -, _, -, _, -, -, -, _, -, id⟩ := checked
    exact id
  · intro intent t x inventory held later bound same missing unlisted
    obtain ⟨activated, before⟩ := run.custodial.stored intent held
    obtain ⟨receipt, made⟩ := cleanupReceipt_constructible (before.trans later)
      .interruptedIntentVerifiedAbsent
    rw [held]
    exact ⟨_, receipt, rfl, ⟨x, inventory, _, missing, unlisted, rfl⟩,
      restart_ends bound same activated (before.trans later) missing unlisted made⟩

end

/-! ### A sample run -/

instance decidableAscending (c : Instant) : (h : Past d) → Decidable (Ascending c h)
  | [] => .isTrue trivial
  | ⟨op, reply⟩ :: h =>
      have := decidableAscending c h
      match op with
      | .now => decidable_of_iff (Ascending c h ∧ latest c h ≤ reply)
          ⟨fun both => ⟨both.1, fun t is => by cases is; exact both.2⟩,
            fun both => ⟨both.1, both.2 reply rfl⟩⟩
      | .send _ => decidable_of_iff (Ascending c h)
          ⟨fun before => ⟨before, fun t is => by cases is⟩, fun both => both.1⟩
      | .recv _ => decidable_of_iff (Ascending c h)
          ⟨fun before => ⟨before, fun t is => by cases is⟩, fun both => both.1⟩
      | .joined => decidable_of_iff (Ascending c h)
          ⟨fun before => ⟨before, fun t is => by cases is⟩, fun both => both.1⟩

namespace Sample

theorem activates : (Program.play losesAnswer 20 (activatePlannedEndpoint request quote
    quote.costCeilingUsd none) []).2.value.isSome = true := by decide +kernel

/-- The receipt of the sample activation. -/
def activated : ActivationReceipt digests :=
  (Program.play losesAnswer 20 (activatePlannedEndpoint request quote quote.costCeilingUsd
    none) []).2.value.get activates

/-- A page of workers that is empty. -/
def idlePage : List (String × Json) :=
  [("workers", .arr []), ("summary", .obj (workerSummaryKeys.map fun key => (key, .int 0)))]

/-- A provider with the endpoint, and a host that acknowledges its intent; or a provider without
the endpoint. -/
def retires (present : Bool) (c : Instant) (h : Past digests) : (op : Op digests) → op.Reply
  | .now => c + h.length
  | .recv (.getEndpoint _) => if present then .ok endpoint else .error (.api (some 404))
  | .recv .listEndpoints => .ok []
  | .recv (.listEndpointWorkers _) => .ok idlePage
  | .recv (.persistIntent intent) => .ok (some intent)
  | op => losesAnswer h op

/-- The first session, up to its delete. -/
def deleting : Past digests × Co digests (CleanupReceipt digests) :=
  Program.play (retires true 100) 9 (cleanupPlannedEndpoint request quote activated none none
    true) []

/-- The session after it, which finds the endpoint gone. -/
def recovering : Past digests × Co digests (CleanupReceipt digests) :=
  Program.play (retires false 200) 20 (cleanupPlannedEndpoint request quote activated none
    (intentsSent deleting.1).head? true) []

/-- What both sessions do: their clocks go on, they acknowledge the first intent only, and the
second one returns. -/
theorem sessions_evaluated : activated.readbackAt ≤ 100 ∧
    (Ascending 100 deleting.1 ∧ (intentsSent deleting.1).head?.isSome = true ∧
      ∀ intent ∈ intentsAcked deleting.1, (intentsSent deleting.1).head? = some intent) ∧
    Ascending (latest 100 deleting.1) recovering.1 ∧ recovering.2.value.isSome = true ∧
      ∀ intent ∈ intentsAcked recovering.1, (intentsSent deleting.1).head? = some intent := by
  decide +kernel

/-- The run of both sessions. -/
theorem recovers : Sessions request quote activated true
    ⟨(intentsSent deleting.1).head?, intentsSent recovering.1 ++ (intentsSent deleting.1 ++ []),
      recovering.2.value.toList ++ (deleting.2.value.toList ++ []),
      latest (latest 100 deleting.1) recovering.1⟩ := by
  obtain ⟨late, ⟨ascending, present, acked⟩, ascending', _, acked'⟩ := sessions_evaluated
  have started : Sessions request quote activated true ⟨none, [], [], 100⟩ := .start late
  have reach := Program.play_reaches (retires true 100) 9
    (cleanupPlannedEndpoint request quote activated none none true) []
  obtain ⟨intent, first⟩ := Option.isSome_iff_exists.mp present
  have member := List.mem_of_mem_head? (Option.mem_def.mpr first)
  have interrupted := Sessions.session started none (by simp) reach ascending
    (.inr ⟨rfl, intent, List.mem_append_left _ member, first⟩) acked
  have onward := Program.play_reaches (retires false 200) 20
    (cleanupPlannedEndpoint request quote activated none (intentsSent deleting.1).head? true) []
  exact .session interrupted none (by simp) onward ascending' (.inl rfl) acked'

end Sample

open Sample in
/-- A receipt of a cleanup that was interrupted at its delete. -/
theorem cleanup_custody_restarted : ∃ s, ∃ receipt ∈ s.receipts,
    Sessions request quote activated true s ∧ Keeps activated true s receipt ∧
    receipt.providerCleanupId =
      "runpod-serverless-cleanup:" ++ digests.cleanup receipt.toCleanupFields.identity := by
  obtain ⟨_, _, _, issued, _⟩ := sessions_evaluated
  obtain ⟨receipt, is⟩ := Option.isSome_iff_exists.mp issued
  have held : receipt ∈ recovering.2.value.toList ++ (deleting.2.value.toList ++ []) := by
    rw [is]
    exact List.mem_cons_self
  have custody := (cleanup_custody request quote activated true).2.2 _ recovers
  exact ⟨_, receipt, held, recovers, custody.1 receipt held⟩

end KestrelRunpod.Serverless
