import KestrelRunpod.Interleave.Avoids
import KestrelRunpod.Sessions.Manager

/-!
# Metered once

`stop_session` captures the session under the lock, has its Pod stopped and meters the usage
outside it.  The history of a call fixes what it may do: `permits` is the contract of all calls.

A call owns a session from the acknowledged stop of its Pod on, unless it fails to clear it or
finds no usage to meter.  Only an owner meters, and it does so once; so a session is metered at
most once in every run in which no stop is acknowledged to a second owner (`acknowledgedOnce`).
Two calls that captured one session can both come to own it.
-/

namespace KestrelRunpod.Sessions

open Interleave Interleave.Program

/-! ## The contract of the calls -/

/-- The operation hands the usage of a session to the callback. -/
def meters (s : ℕ) : Event Calls → Bool
  | ⟨.meter s' _, _⟩ => s' = s
  | _ => false

/-- The provider acknowledged a stop of the session's Pod. -/
def acknowledges (s : ℕ) : Event Calls → Bool
  | ⟨.stopPod s' _, .ok _⟩ => s' = s
  | _ => false

/-- The session could not be cleared, or has no usage that is metered. -/
def forgoes (s : ℕ) : Event Calls → Bool
  | ⟨.clear s', .error _⟩ => s' = s
  | ⟨.usage s', none⟩ => s' = s
  | _ => false

/-- The call has not handed any usage to the callback. -/
def Unmetered (h : Past) : Prop := ∀ e ∈ h, ∀ s, meters s e = false

/-- A call stops what it captured, and meters what it stopped and cleared. -/
def permits (h : Past) : Op → Prop
  | .meter s usage => ∃ session, h =
      [⟨.usage s, some usage⟩, ⟨.clear s, .ok ()⟩, ⟨.setStatus s .terminating, ()⟩,
        ⟨.stopPod s session.podId, .ok ()⟩, ⟨.capture, .ok (some (s, session))⟩]
  | .stopPod s podId => ∃ session,
      h = [⟨.capture, .ok (some (s, session))⟩] ∧ podId = session.podId
  | .clear _ => Unmetered h
  | .usage _ => Unmetered h
  | _ => True

/-- The contract of every call. -/
def contract : Contract Calls := ⟨permits, fun _ => True⟩

/-- The operations that only `stop_session` performs. -/
def stops : Op → Prop
  | .meter _ _ => True
  | .stopPod _ _ => True
  | _ => False

section

variable {m : Manager} {α : Type}

theorem perform_avoids {op : Op} (other : ¬ stops op) : (perform op).Avoids stops :=
  ⟨other, fun _ => trivial⟩

theorem attempt_avoids {p : Task (Except Failure α)} (avoids : p.Avoids stops) :
    (attempt p).Avoids stops := avoids.bind fun _ => avoids_ofExcept _

theorem getStatus_avoids : getStatus.Avoids stops := by
  refine Avoids.bind (attempt_avoids (perform_avoids id)) fun found => ?_
  cases found with
  | none => trivial
  | some found =>
      refine Avoids.bind (attempt_avoids (perform_avoids id)) fun seen => ?_
      refine Avoids.bind (perform_avoids id) fun _ => ?_
      exact Avoids.bind (perform_avoids id) fun _ => trivial

theorem awaitReady_avoids (turns : ℕ) : (awaitReady turns).Avoids stops := by
  induction turns with
  | zero => trivial
  | succ turns ih =>
      refine Avoids.bind (perform_avoids id) fun before => ?_
      cases before with
      | false => trivial
      | true =>
          refine Avoids.bind getStatus_avoids fun status => ?_
          have again : (do attempt (perform .sleep); awaitReady turns).Avoids stops :=
            Avoids.bind (attempt_avoids (perform_avoids id)) fun _ => ih
          rcases status with _ | ⟨s, active, status⟩ | _
          · exact again
          · cases status with
            | ready => trivial
            | _ => exact again
          · exact again

theorem awaitUrl_avoids (s turns : ℕ) : (awaitUrl s turns).Avoids stops := by
  induction turns with
  | zero => trivial
  | succ turns ih =>
      refine Avoids.bind (perform_avoids id) fun before => ?_
      cases before with
      | false => trivial
      | true =>
          refine Avoids.bind (attempt_avoids (perform_avoids id)) fun url => ?_
          cases given url with
          | some text => trivial
          | none =>
              refine Avoids.bind getStatus_avoids fun _ => ?_
              exact Avoids.bind (attempt_avoids (perform_avoids id)) fun _ => ih

theorem waitUntilReady_avoids (turns : ℕ) : (waitUntilReady turns).Avoids stops := by
  refine Avoids.bind (attempt_avoids (perform_avoids id)) fun found => ?_
  cases found with
  | none => trivial
  | some found => exact Avoids.bind (awaitReady_avoids turns) fun _ => awaitUrl_avoids _ turns

theorem leaveWith_avoids (x : Failure) : (leaveWith x).Avoids stops :=
  Avoids.bind (perform_avoids id) fun _ => trivial

theorem recordSession_avoids (args : Start) (profile : GpuProfile) (ttl : Int) (model : String)
    (response : Response) : (recordSession args profile ttl model response).Avoids stops := by
  unfold recordSession
  split
  · exact leaveWith_avoids _
  · split
    · exact leaveWith_avoids _
    · exact Avoids.bind (perform_avoids id) fun _ => perform_avoids id

theorem createSession_avoids (args : Start) (profile : GpuProfile) (ttl : Int)
    (model : String) : (createSession args profile ttl model).Avoids stops := by
  refine Avoids.bind (attempt_avoids (perform_avoids id)) fun active => ?_
  split
  · exact leaveWith_avoids _
  · refine Avoids.bind (perform_avoids id) fun response => ?_
    split
    · exact leaveWith_avoids _
    · exact leaveWith_avoids _
    · exact recordSession_avoids _ _ _ _ _

theorem startSession_avoids (args : Start) (turns : ℕ) :
    (startSession m args turns).Avoids stops := by
  refine Avoids.bind (avoids_ofExcept _) fun profile => ?_
  refine Avoids.bind (avoids_ofExcept _) fun ttl => ?_
  split
  · trivial
  · refine Avoids.bind (createSession_avoids _ _ _ _) fun _ => ?_
    exact Avoids.bind (waitUntilReady_avoids turns) fun _ => getStatus_avoids

theorem terminateSession_avoids (session : Option ℕ) :
    (terminateSession m session).Avoids stops := by
  cases session with
  | none => trivial
  | some s =>
      refine Avoids.bind (perform_avoids id) fun session => ?_
      split
      · trivial
      · split
        · trivial
        · refine Avoids.bind (attempt_avoids (perform_avoids id)) fun _ => ?_
          refine Avoids.bind (perform_avoids id) fun _ => ?_
          exact attempt_avoids (perform_avoids id)

theorem terminatePod_avoids (podId : String) : (terminatePod m podId).Avoids stops := by
  unfold terminatePod
  split
  · trivial
  · refine Avoids.bind (attempt_avoids (perform_avoids id)) fun _ => ?_
    exact attempt_avoids (perform_avoids id)

theorem meters_eq_false {e : Event Calls} (other : ¬ stops e.op) (s : ℕ) : meters s e = false := by
  obtain ⟨op, r⟩ := e
  cases op with
  | meter s usage => exact absurd trivial other
  | _ => rfl

theorem Unmetered.nil : Unmetered [] := fun _ member => absurd member List.not_mem_nil

theorem Unmetered.cons {e : Event Calls} {h : Past} (unmetered : Unmetered h)
    (other : ∀ s, meters s e = false) : Unmetered (e :: h) := by
  intro e' member s
  rcases List.mem_cons.mp member with rfl | member
  · exact other s
  · exact unmetered e' member s

/-- A call that stops nothing hands no usage to the callback. -/
theorem Avoids.lawful {p : Task α} (avoids : p.Avoids stops) :
    p.Safe contract [] := by
  have obeys : p.Obeys contract (fun h _ => Unmetered h) (fun h _ => Unmetered h) [] := by
    refine Avoids.obeys avoids (fun h op unmetered other => ⟨?_, fun r => ?_⟩) .nil
    · cases op with
      | meter s usage => exact absurd trivial other
      | stopPod s podId => exact absurd trivial other
      | clear s => exact unmetered
      | usage s => exact unmetered
      | _ => trivial
    · exact unmetered.cons fun s => meters_eq_false other s
  exact obeys.safe

/-- A call that goes on only with the value of a reply. -/
theorem attempt_safe {β : Type} {p : Task (Except Failure β)} {f : β → Task α} {h : Past}
    (obeys : p.Obeys contract (fun h' reply => ∀ a, reply = .ok a → (f a).Safe contract h')
      (fun _ _ => True) h) : ((attempt p).bind f).Safe contract h := by
  refine obeys_bind.mpr (obeys_bind.mpr (obeys.weaken (fun h' reply _ met => ?_) fun _ _ _ met =>
    met))
  exact obeys_ofExcept.mpr ⟨met, fun _ _ => trivial⟩

/-- The metering of a session that was stopped and cleared. -/
theorem recordUsage_safe {s : ℕ} {session : Session} :
    (recordUsage s).Safe contract [⟨.clear s, .ok ()⟩, ⟨.setStatus s .terminating, ()⟩,
      ⟨.stopPod s session.podId, .ok ()⟩, ⟨.capture, .ok (some (s, session))⟩] := by
  have unmetered : Unmetered [⟨.clear s, .ok ()⟩, ⟨.setStatus s .terminating, ()⟩,
      ⟨.stopPod s session.podId, .ok ()⟩, ⟨.capture, .ok (some (s, session))⟩] := by
    refine Unmetered.cons ?_ fun _ => rfl
    refine Unmetered.cons ?_ fun _ => rfl
    refine Unmetered.cons ?_ fun _ => rfl
    exact Unmetered.nil.cons fun _ => rfl
  refine obeys_bind.mpr ⟨unmetered, fun usage _ => ?_⟩
  cases usage with
  | none => trivial
  | some usage =>
      refine obeys_bind.mpr ⟨⟨session, rfl⟩, fun outcome _ => ?_⟩
      rcases outcome with (_ | _ | _ | _) | _ <;> trivial

/-- `stop_session` keeps the contract. -/
theorem stopSession_safe : (stopSession m).Safe contract [] := by
  refine attempt_safe ⟨trivial, fun reply _ found is => ?_⟩
  subst is
  rcases found with _ | ⟨s, session⟩
  · trivial
  have captured : Unmetered [⟨.capture, .ok (some (s, session))⟩] := Unmetered.nil.cons fun _ => rfl
  dsimp only
  cases given session.trainingCleanupToken with
  | some token =>
      dsimp only
      split
      · trivial
      · refine attempt_safe ⟨trivial, fun reply _ state is => ?_⟩
        subst is
        refine obeys_bind.mpr ⟨trivial, fun _ _ => ?_⟩
        refine attempt_safe ⟨(captured.cons fun _ => rfl).cons fun _ => rfl, fun _ _ _ _ => ?_⟩
        trivial
  | none =>
      dsimp only
      refine attempt_safe ⟨⟨session, rfl, rfl⟩, fun reply _ stopped is => ?_⟩
      subst is
      refine obeys_bind.mpr ⟨trivial, fun _ _ => ?_⟩
      refine attempt_safe
        ⟨(captured.cons fun _ => rfl).cons fun _ => rfl, fun reply _ done is => ?_⟩
      subst is
      refine obeys_bind.mpr (recordUsage_safe.weaken (fun _ _ _ _ => ?_) fun _ _ _ _ => trivial)
      exact obeys_bind.mpr ⟨trivial, fun _ _ => trivial⟩

/-- Every call keeps the contract. -/
theorem Call.safe {p : Task Unit} (call : Call m p) : p.Safe contract [] := by
  cases call with
  | startSession args turns => exact (Avoids.lawful (startSession_avoids args turns)).void.safe
  | stopSession => exact stopSession_safe.void.safe
  | terminateSession session => exact Avoids.lawful (terminateSession_avoids session)
  | terminatePod podId => exact Avoids.lawful (terminatePod_avoids podId)
  | getStatus => exact (Avoids.lawful getStatus_avoids).void.safe

end

/-! ## Owners -/

/-- The call had the session's Pod stopped, and may meter the session yet or has metered it. -/
def owns (s : ℕ) (h : Past) : Bool := h.any (acknowledges s) && !h.any (forgoes s)

/-- How often a session was metered. -/
def metered (log : Log Calls) (s : ℕ) : ℕ := (log.filter fun entry => meters s entry.2).length

/-- No stop is acknowledged for a session that another call owns. -/
def acknowledgedOnce : Restriction Calls World
  | _, log, i, ⟨.stopPod s _, .ok _⟩ =>
      ∀ entry ∈ log, entry.1 ≠ i → owns s (log.of entry.1) = false
  | _, _, _, _ => True

instance (w : World) (log : Log Calls) (i : ℕ) (e : Event Calls) :
    Decidable (acknowledgedOnce w log i e) := by
  unfold acknowledgedOnce
  split <;> infer_instance

section

variable {s : ℕ} {e : Event Calls} {h : Past} {log : Log Calls} {i j : ℕ}

theorem owns_iff : owns s h = true ↔
    (∃ e ∈ h, acknowledges s e = true) ∧ ∀ e ∈ h, forgoes s e = false := by
  simp [owns]

theorem owns_of_cons (owned : owns s (e :: h) = true) :
    acknowledges s e = true ∨ owns s h = true := by
  obtain ⟨⟨e', member, acknowledged⟩, kept⟩ := owns_iff.mp owned
  rcases List.mem_cons.mp member with rfl | member
  · exact .inl acknowledged
  · exact .inr (owns_iff.mpr ⟨⟨e', member, acknowledged⟩,
      fun e'' later => kept e'' (List.mem_cons_of_mem _ later)⟩)

theorem owns_cons (owned : owns s h = true) (keeps : forgoes s e = false) :
    owns s (e :: h) = true := by
  obtain ⟨⟨e', member, acknowledged⟩, kept⟩ := owns_iff.mp owned
  refine owns_iff.mpr ⟨⟨e', List.mem_cons_of_mem _ member, acknowledged⟩, fun e'' later => ?_⟩
  rcases List.mem_cons.mp later with rfl | later
  · exact keeps
  · exact kept e'' later

/-- An owner has performed something. -/
theorem exists_of_owns (owned : owns s (log.of i) = true) : ∃ e, (i, e) ∈ log := by
  obtain ⟨⟨e, member, _⟩, _⟩ := owns_iff.mp owned
  exact ⟨e, Log.mem_of.mp member⟩

/-- An acknowledged stop of a session that no other call owns. -/
theorem sole_of_acknowledges {w : World} (kept : acknowledgedOnce w log i e)
    (acknowledged : acknowledges s e = true) (owned : owns s (log.of j) = true) : j = i := by
  obtain ⟨op, r⟩ := e
  cases op with
  | stopPod s' podId =>
      cases r with
      | error x => cases acknowledged
      | ok done =>
          have same : s' = s := of_decide_eq_true acknowledged
          subst same
          obtain ⟨e, member⟩ := exists_of_owns owned
          by_contra different
          have lost : owns s' (log.of j) = false := kept (j, e) member different
          rw [owned] at lost
          cases lost
  | _ => cases acknowledged

/-- A call that has metered does not forgo anything. -/
theorem keeps_of_permits (permitted : permits h e.op) {e' : Event Calls} (member : e' ∈ h)
    (metered : meters s e' = true) : forgoes s e = false := by
  obtain ⟨op, r⟩ := e
  have absurdity {α : Prop} (unmetered : Unmetered h) : α := by
    have not := unmetered e' member s
    rw [metered] at not
    cases not
  cases op with
  | clear s' => exact absurdity permitted
  | usage s' => exact absurdity permitted
  | _ => rfl

/-- A call that meters owns the session, and has not metered before. -/
theorem owns_of_meters (permitted : permits h e.op) (meter : meters s e = true) :
    owns s h = true ∧ Unmetered h := by
  obtain ⟨op, r⟩ := e
  cases op with
  | meter s' usage =>
      have same : s' = s := of_decide_eq_true meter
      subst same
      obtain ⟨session, rfl⟩ := permitted
      refine ⟨by simp [owns, acknowledges, forgoes], ?_⟩
      refine Unmetered.cons ?_ fun _ => rfl
      refine Unmetered.cons ?_ fun _ => rfl
      refine Unmetered.cons ?_ fun _ => rfl
      refine Unmetered.cons ?_ fun _ => rfl
      exact Unmetered.nil.cons fun _ => rfl
  | _ => cases meter

theorem metered_cons_of_not (other : meters s e = false) :
    metered ((i, e) :: log) s = metered log s := by
  simp [metered, other]

theorem metered_cons (meter : meters s e = true) :
    metered ((i, e) :: log) s = metered log s + 1 := by
  simp [metered, meter]

theorem metered_eq_zero (none : ∀ j e, (j, e) ∈ log → meters s e = false) :
    metered log s = 0 := by
  have empty : (log.filter fun entry => meters s entry.2) = [] := by
    refine List.filter_eq_nil_iff.mpr fun entry member => ?_
    rw [none entry.1 entry.2 member]
    exact Bool.false_ne_true
  rw [metered, empty, List.length_nil]

end

/-- One owner a session, which alone meters it, and once. -/
structure Sole (log : Log Calls) (s : ℕ) : Prop where
  unique : ∀ i j, owns s (log.of i) = true → owns s (log.of j) = true → i = j
  owned : ∀ i e, (i, e) ∈ log → meters s e = true → owns s (log.of i) = true
  once : metered log s ≤ 1

section

variable {s : ℕ} {e : Event Calls} {log : Log Calls} {i : ℕ} {w : World}

theorem Sole.nil : Sole [] s := by
  refine ⟨fun i j owned => ?_, fun i e member => ?_, Nat.zero_le 1⟩
  · cases owned
  · exact absurd member List.not_mem_nil

/-- Who owns the session after an operation that is permitted owned it before, or its stop was
just acknowledged. -/
theorem Sole.cons (sole : Sole log s) (permitted : permits (log.of i) e.op)
    (kept : acknowledgedOnce w log i e) : Sole ((i, e) :: log) s := by
  have others {j : ℕ} (different : j ≠ i) : Log.of ((i, e) :: log) j = log.of j :=
    Log.of_cons_ne (Ne.symm different)
  have mine {j : ℕ} (different : j ≠ i) (first : owns s (e :: log.of i) = true)
      (second : owns s (log.of j) = true) : False := by
    rcases owns_of_cons first with acknowledged | owned
    · exact different (sole_of_acknowledges kept acknowledged second)
    · exact different (sole.unique j i second owned)
  refine ⟨fun j k first second => ?_, fun j e' member meter => ?_, ?_⟩
  · by_cases one : j = i
    · subst one
      by_contra different
      rw [Log.of_cons_self] at first
      rw [others (Ne.symm different)] at second
      exact mine (Ne.symm different) first second
    · rw [others one] at first
      by_cases two : k = i
      · subst two
        rw [Log.of_cons_self] at second
        exact (mine one second first).elim
      · rw [others two] at second
        exact sole.unique j k first second
  · rcases List.mem_cons.mp member with new | old
    · cases new
      obtain ⟨owned, _⟩ := owns_of_meters permitted meter
      rw [Log.of_cons_self]
      refine owns_cons owned ?_
      obtain ⟨op, r⟩ := e
      cases op with
      | meter s' usage => rfl
      | _ => cases meter
    · have owned := sole.owned j e' old meter
      by_cases same : j = i
      · subst same
        rw [Log.of_cons_self]
        exact owns_cons owned (keeps_of_permits permitted (Log.mem_of.mpr old) meter)
      · rwa [others same]
  · cases new : meters s e with
    | false =>
        rw [metered_cons_of_not new]
        exact sole.once
    | true =>
        obtain ⟨owned, unmetered⟩ := owns_of_meters permitted new
        rw [metered_cons new, metered_eq_zero fun j e' member => ?_]
        by_contra meter
        have meter : meters s e' = true := by simpa using meter
        have same : j = i := sole.unique j i (sole.owned j e' member meter) owned
        subst same
        have not := unmetered e' (Log.mem_of.mpr member) s
        rw [meter] at not
        cases not

end

/-! ## What the operations tell of a session -/

/-- The Pods of all the sessions. -/
def World.pods (w : World) : List String := w.sessions.map Session.podId

/-- The session an operation was told of, with its Pod. -/
def names : Event Calls → Option (ℕ × String)
  | ⟨.capture, .ok (some (s, session))⟩ => some (s, session.podId)
  | ⟨.usage s, some usage⟩ => some (s, usage.operationId)
  | _ => none

/-- Everything that was told of a session is so. -/
def Told (m : Moment Calls World) : Prop :=
  ∀ i e, (i, e) ∈ m.log → ∀ s podId, names e = some (s, podId) → m.world.pods[s]? = some podId

namespace World

variable {w w' : World} {e : Event Calls} {s : ℕ}

@[simp] theorem pods_adopt (session : Session) :
    (w.adopt session).pods = w.pods ++ [session.podId] := by
  simp [pods, adopt]

theorem pods_write {change : Session → Session}
    (keeps : ∀ session, (change session).podId = session.podId) :
    (w.write s change).pods = w.pods := by
  refine List.ext_getElem? fun i => ?_
  simp only [pods, write, List.getElem?_map, List.getElem?_modify]
  cases w.sessions[i]? with
  | none => rfl
  | some session =>
      by_cases same : s = i
      · simp [same, keeps]
      · simp [same]

theorem session_pods {session : Session} (is : w.session = some (s, session)) :
    w.pods[s]? = some session.podId := by
  obtain ⟨s', _, found⟩ := Option.bind_eq_some_iff.mp is
  obtain ⟨session', found, same⟩ := Option.bind_eq_some_iff.mp found
  cases same
  rw [pods, List.getElem?_map, found, Option.map_some]

theorem usage_pods {usage : Usage} (is : w.usage s = some usage) :
    w.pods[s]? = some usage.operationId := by
  unfold World.usage at is
  split at is
  · obtain ⟨session, found, is⟩ := Option.bind_eq_some_iff.mp is
    obtain ⟨companionId, _, is⟩ := Option.bind_eq_some_iff.mp is
    obtain ⟨userId, _, is⟩ := Option.bind_eq_some_iff.mp is
    cases is
    rw [pods, List.getElem?_map, found, Option.map_some]
  · cases is

/-- An operation leaves the sessions as they are, but for what is written to one of them or a new
one. -/
theorem perform_cases (performed : w.perform e = some w') :
    w'.sessions = w.sessions ∨
      (∃ s change, (∀ session, (change session).podId = session.podId) ∧
        w'.sessions = (w.write s change).sessions) ∨
      ∃ session, w'.sessions = (w.adopt session).sessions := by
  unfold World.perform at performed
  split at performed
  · split at performed
    · cases performed
      exact .inl rfl
    · cases performed
  · split at performed
    · cases performed
      exact .inl rfl
    · cases performed
  · split at performed
    · cases performed
      exact .inl rfl
    · cases performed
  · cases performed
    exact .inr (.inr ⟨_, rfl⟩)
  · cases performed
    exact .inl rfl
  · rename_i s seen _
    cases performed
    rcases seen with _ | ⟨status, url⟩
    · exact .inl rfl
    · refine .inr (.inl ⟨_, _, ?_, rfl⟩)
      exact fun _ => rfl
  · split at performed
    · cases performed
      exact .inl rfl
    · cases performed
  · split at performed
    · cases performed
      exact .inl rfl
    · cases performed
  · cases performed
    refine .inr (.inl ⟨_, _, ?_, rfl⟩)
    exact fun _ => rfl
  · split at performed
    · cases performed
      exact .inl rfl
    · cases performed
  · split at performed
    · cases performed
    · split at performed
      · split at performed
        · cases performed
          refine .inr (.inl ⟨_, _, ?_, rfl⟩)
          exact fun _ => rfl
        · cases performed
          exact .inl rfl
      · cases performed
        exact .inl rfl
  · split at performed
    · cases performed
      exact .inl rfl
    · cases performed
  · cases performed
    exact .inl rfl

/-- A session keeps its Pod. -/
theorem perform_pods (performed : w.perform e = some w') : w.pods <+: w'.pods := by
  rcases perform_cases performed with same | ⟨s, change, keeps, same⟩ | ⟨session, same⟩
  · have kept : w'.pods = w.pods := congrArg (List.map Session.podId) same
    exact kept ▸ List.prefix_rfl
  · have kept : w'.pods = (w.write s change).pods := congrArg (List.map Session.podId) same
    exact (kept.trans (pods_write keeps)) ▸ List.prefix_rfl
  · have added : w'.pods = (w.adopt session).pods := congrArg (List.map Session.podId) same
    rw [added, pods_adopt]
    exact List.prefix_append _ _

theorem drift_pods {d : Drift} (drifted : w.drift d = some w') : w.pods <+: w'.pods := by
  cases d with
  | tick clock =>
      cases drifted
      exact List.prefix_rfl
  | setMeteringCallback set =>
      cases drifted
      exact List.prefix_rfl
  | assign s companionId userId =>
      cases drifted
      have kept := pods_write (w := w) (s := s) fun session : Session =>
        show ({ session with companionId := companionId, userId := userId } : Session).podId =
          session.podId from rfl
      exact kept ▸ List.prefix_rfl
  | adopt session =>
      simp only [drift] at drifted
      split at drifted
      · cases drifted
      · cases drifted
        rw [pods_adopt]
        exact List.prefix_append _ _
  | dismiss =>
      simp only [drift] at drifted
      split at drifted
      · cases drifted
      · cases drifted
        exact List.prefix_rfl

/-- An operation is told how the session is. -/
theorem perform_names {podId : String} (performed : w.perform e = some w')
    (named : names e = some (s, podId)) : w.pods[s]? = some podId := by
  unfold names at named
  split at named
  · rename_i s' session
    cases named
    simp only [World.perform] at performed
    split at performed
    · rename_i is
      exact session_pods is.2
    · cases performed
  · rename_i s' usage
    cases named
    simp only [World.perform] at performed
    split at performed
    · rename_i is
      exact usage_pods is
    · cases performed
  · cases named

end World

theorem getElem?_of_prefix {α : Type} {as bs : List α} {i : ℕ} {a : α} (longer : as <+: bs)
    (found : as[i]? = some a) : bs[i]? = some a := by
  obtain ⟨inside, _⟩ := List.getElem?_eq_some_iff.mp found
  obtain ⟨rest, rfl⟩ := longer
  rwa [List.getElem?_append_left inside]

theorem Move.told {K : Restriction Calls World} {m m' : Moment Calls World} (told : Told m)
    (move : Move runtime contract K m m') : Told m' := by
  intro i e member s podId named
  cases move with
  | act j e' permitted promised performed kept =>
      have longer := World.perform_pods performed
      rcases List.mem_cons.mp member with new | old
      · cases new
        exact getElem?_of_prefix longer (World.perform_names performed named)
      · exact getElem?_of_prefix longer (told i e old s podId named)
  | drift d drifted =>
      exact getElem?_of_prefix (World.drift_pods drifted) (told i e member s podId named)

/-! ## The claims of a run -/

section

variable {m : Manager} {K : Restriction Calls World} {c : Config Calls Failure World}

theorem ManagerRun.trail (run : ManagerRun m K c) :
    Trail runtime contract K ⟨World.initial, []⟩ c.moment :=
  (Run.trail (fun _ call => Call.safe call) (fun _ _ _ _ => trivial)
    (Config.initial_lawful _) run).2

theorem ManagerRun.told (run : ManagerRun m K c) : Told c.moment :=
  Trail.invariant run.trail (fun _ _ told move => Move.told told move)
    fun _ _ member => absurd member List.not_mem_nil

theorem ManagerRun.sole (run : ManagerRun m acknowledgedOnce c) (s : ℕ) : Sole c.log s := by
  refine Trail.invariant (P := fun m => Sole m.log s) run.trail (fun _ _ sole move => ?_) .nil
  cases move with
  | act i e permitted promised performed kept => exact sole.cons permitted kept
  | drift d drifted => exact sole

/-- Metered once, after an acknowledged stop.  Whenever a call hands the usage of a session to the
callback, the provider has acknowledged its stop of the session's Pod; and where no stop is
acknowledged for a session that another call owns, no session is metered twice. -/
theorem session_metered_once (run : ManagerRun m K c) :
    (∀ (later earlier : Log Calls) i s usage r,
      c.log = later ++ (i, ⟨.meter s usage, r⟩) :: earlier →
      c.world.pods[s]? = some usage.operationId ∧
        (i, ⟨.stopPod s usage.operationId, .ok ()⟩) ∈ earlier) ∧
    ((∀ w log i e, K w log i e → acknowledgedOnce w log i e) → ∀ s, metered c.log s ≤ 1) := by
  constructor
  · intro later earlier i s usage r split
    obtain ⟨_, _, _, _, permitted, _⟩ := run.trail.act_of_mem split List.nil_suffix
    obtain ⟨session, history⟩ := permitted
    have told (e : Event Calls) (member : e ∈ earlier.of i) (podId : String)
        (named : names e = some (s, podId)) : c.world.pods[s]? = some podId := by
      refine run.told i e ?_ s podId named
      show (i, e) ∈ c.log
      rw [split]
      exact List.mem_append_right _ (List.mem_cons_of_mem _ (Log.mem_of.mp member))
    have captured := told ⟨.capture, .ok (some (s, session))⟩ (by simp [history]) _ rfl
    have used := told ⟨.usage s, some usage⟩ (by simp [history]) _ rfl
    have same : session.podId = usage.operationId := Option.some.inj (captured.symm.trans used)
    refine ⟨used, Log.mem_of.mp ?_⟩
    rw [history, same]
    simp
  · intro weaker s
    exact (ManagerRun.sole (Run.relax weaker run) s).once

end

/-! ### Two stops of one session -/

namespace Sample

def manager : Manager where
  profiles := [("inference", ⟨"inference-a100", some "llama3", none⟩)]
  shown := toString
  defaultTtlSeconds := 3600
  maxTtlSeconds := 7200
  terminates := true
  releasesTraining := true

/-- Every request succeeds, and the Pod is ready at once. -/
def answers (w : World) : (op : Op) → Option (Reply op)
  | .capture => some (.ok w.session)
  | .enter => some (.ok (w.session.any fun found => found.2.isActive))
  | .startPod _ => some (.ok ⟨some "pod-1", none, .decided "NVIDIA A100", none⟩)
  | .now => some w.clock
  | .publish _ => some ()
  | .getStatus _ => some (.ok (some (.ready, some "https://pod-1.proxy")))
  | .update _ _ => some ()
  | .read s => w.sessions[s]?
  | .readUrl s => some (.ok ((w.sessions[s]?).bind Session.backendBaseUrl))
  | .beforeDeadline => some true
  | .stopPod _ _ => some (.ok ())
  | .setStatus _ _ => some ()
  | .clear _ => some (.ok ())
  | .usage s => some (w.usage s)
  | .meter _ _ => some (.ok ())
  | _ => none

def operator : Operator runtime := .answering _ answers

/-- A session is started and gets its metering context, and the callback is set. -/
def started : List (Cue runtime (Call manager)) :=
  [.drift (.setMeteringCallback true), .spawn 0 _ (.startSession ⟨"inference", none, none, none⟩ 2),
    .runOn 0 operator 20, .drift (.assign 0 (some "companion") (some "user")),
    .drift (.tick 60000000)]

/-- One call stops the session and meters it. -/
def stoppedOnce : List (Cue runtime (Call manager)) :=
  started ++ [.spawn 1 _ .stopSession, .runOn 1 operator 6]

/-- The newest event meters a minute of the session. -/
def meteredNow (c : Config Calls Failure World) : Bool :=
  match c.log with
  | (1, ⟨.meter 0 usage, .ok ()⟩) :: _ => usage.duration = 60000000
  | _ => false

/-- Two calls capture the session before one of them clears it. -/
def stoppedTwice : List (Cue runtime (Call manager)) :=
  started ++ [.spawn 1 _ .stopSession, .spawn 2 _ .stopSession, .act 1 operator, .act 2 operator,
    .runOn 1 operator 10, .runOn 2 operator 10]

end Sample

/-- A stopped session is metered by the call that stopped it. -/
theorem session_metered_once_stop : ∃ c, ManagerRun Sample.manager acknowledgedOnce c ∧
    ∃ (usage : Usage) (earlier : Log Calls), usage.duration = 60000000 ∧
      c.log = (1, ⟨.meter 0 usage, .ok ()⟩) :: earlier ∧
      (1, ⟨.stopPod 0 usage.operationId, .ok ()⟩) ∈ earlier ∧ metered c.log 0 ≤ 1 := by
  obtain ⟨c, run, metered⟩ : ∃ c, ManagerRun Sample.manager acknowledgedOnce c ∧
      Sample.meteredNow c = true := Config.exhibits Sample.stoppedOnce _ (by decide +kernel)
  refine ⟨c, run, ?_⟩
  unfold Sample.meteredNow at metered
  split at metered
  · rename_i usage earlier log
    obtain ⟨after, once⟩ := session_metered_once run
    obtain ⟨_, stopped⟩ := after [] earlier 1 0 usage _ log
    have atMostOnce := once (fun _ _ _ _ kept => kept) 0
    exact ⟨usage, earlier, of_decide_eq_true metered, log, stopped, atMostOnce⟩
  · cases metered

/-- Two calls that captured one session both meter it. -/
theorem session_metered_twice : ¬ ∀ (m : Manager) (c : Config Calls Failure World),
    ManagerRun m anyMove c → ∀ s, metered c.log s ≤ 1 := by
  intro once
  obtain ⟨c, run, twice⟩ : ∃ c, ManagerRun Sample.manager anyMove c ∧
      (metered c.log 0 == 2) = true := Config.exhibits Sample.stoppedTwice _ (by decide +kernel)
  have bound := once _ c run 0
  rw [eq_of_beq twice] at bound
  omega

end KestrelRunpod.Sessions
