import KestrelRunpod.Interleave.Reach
import KestrelRunpod.Pod.Errors
import KestrelRunpod.Serverless.Readback

/-!
# The pinned TLS exchange

`PinnedWorkerTLS.exchange` sends one frame to a private worker under the host's admission, and
classifies every way in which that can end.  A task performs the operations of the connection and
of the admission one at a time, and each is answered in any way that its type allows; the SSL
context, the admission and the clock are read anew at every check.

The exchange runs in three parts: the checks before the connection, the attempt inside the
`try`, and what settles it after the socket is retired.  `Classified` is what holds of every
complete exchange, from one contract about the write and one specification of each part.
-/

namespace KestrelRunpod.Worker

open Interleave Interleave.Program
open Numeric
open Serverless (Json)

/-! ## Exceptions -/

/-- An exception, by the distinctions that the exchange makes. -/
inductive Fault
  | cancelled
  | control (className : String)
  | valueError (message : String)
  | osError (className : String)
  | exception (className : String)
  | unsupported (message : String)
  | outcomeUnknown (message : String)
  deriving DecidableEq, Repr

namespace Fault

/-- `isinstance(failure, Exception)`. -/
def isException : Fault → Bool
  | .cancelled | .control _ => false
  | _ => true

/-- `isinstance(failure, OSError)`; a timeout is one, and so is a TLS failure. -/
def isOsError : Fault → Bool
  | .osError _ => true
  | _ => false

/-- `isinstance(failure, ResourceOutcomeUnknown)`. -/
def isOutcomeUnknown : Fault → Bool
  | .outcomeUnknown _ => true
  | _ => false

end Fault

/-- An exception of the standard library, which knows no `ResourceOutcomeUnknown`. -/
abbrev Native : Type := { x : Fault // x.isOutcomeUnknown = false }

abbrev Bytes : Type := List UInt8

/-! ## The target -/

/-- A lowercase hexadecimal SHA-256. -/
def isPin (text : String) : Bool := Pod.isSha256 text

/-- `PinnedWorkerTarget`, with the checks that its constructor makes. -/
structure PinnedWorkerTarget (isIpAddress : String → Bool) where
  address : String
  port : Int
  serverName : String
  certificateSha256 : String
  expiresAt : Instant
  numeric : '%' ∉ address.toList ∧ isIpAddress address = true
  portRange : 1 ≤ port ∧ port ≤ 65535
  pinned : isPin certificateSha256 = true
  named : serverName ≠ ""

/-- `PinnedWorkerTarget.__post_init__`; an expiry that is not aware is `none`. -/
def PinnedWorkerTarget.build (isIpAddress : String → Bool) (address : String) (port : Int)
    (serverName certificateSha256 : String) (expiresAt : Option Instant) :
    Except Fault (PinnedWorkerTarget isIpAddress) :=
  if numeric : '%' ∉ address.toList ∧ isIpAddress address = true then
    if portRange : 1 ≤ port ∧ port ≤ 65535 then
      if pinned : isPin certificateSha256 = true then
        match expiresAt with
        | some expiresAt =>
            if named : serverName ≠ "" then
              .ok ⟨address, port, serverName, certificateSha256, expiresAt, numeric, portRange,
                pinned, named⟩
            else .error (.valueError "private worker name and aware expiry required")
        | none => .error (.valueError "private worker name and aware expiry required")
      else .error (.valueError "exact pretrusted worker certificate pin required")
    else .error (.valueError "invalid private worker port")
  else .error (.valueError "private worker requires a numeric endpoint")

/-! ## Operations -/

inductive VerifyMode
  | none
  | optional
  | required
  deriving DecidableEq, Repr

/-- What is read of an `ssl.SSLContext`; `minimumVersion` is the integer of a `TLSVersion`. -/
structure TlsContext where
  checkHostname : Bool
  verifyMode : VerifyMode
  minimumVersion : Int

/-- `ssl.TLSVersion.TLSv1_3`. -/
def tlsv13 : Int := 772

/-- What is read of the peer's `ssl_object`. -/
structure Peer where
  version : Option String
  certificate : Option Bytes

/-- The operations of an exchange.  A clock that is not aware reads `none`; a checker that
returns `None` replies `true`; a context that is no `SSLContext` is `none`. -/
inductive Op
  | enter
  | context
  | check
  | clock
  | connect (address : String) (port : Int) (serverName : String)
  | peer
  | write (request : Bytes)
  | drain
  | readline
  | close
  | waitClosed

def Reply : Op → Type
  | .enter => Except Fault Unit
  | .context => Option TlsContext
  | .check => Except Fault Bool
  | .clock => Except Native (Option Instant)
  | .connect .. => Except Native Unit
  | .peer => Except Native (Option Peer)
  | .write _ => Except Native Unit
  | .drain => Except Native Unit
  | .readline => Except Native Bytes
  | .close => Except Native Unit
  | .waitClosed => Except Fault Unit

def Wire : Signature := ⟨Op, Reply⟩

abbrev Past : Type := History Wire

/-- A native operation raises its exception. -/
def native {α : Type} : Except Native α → Except Fault α
  | .ok a => .ok a
  | .error x => .error x.val

/-- The body of a `try` whose exception is kept. -/
def caught {α : Type} (p : Program Wire Fault α) : Program Wire Fault (Except Fault α) :=
  (p.bind fun a => .pure (.ok a)).handle fun x => .pure (.error x)

/-! ## The exchange -/

def maxRequest : ℕ := 512 * 1024

def maxResponse : ℕ := 23 * 1024 * 1024

/-- `_require_context`. -/
def requireContext : Option TlsContext → Except Fault Unit
  | some context =>
      if context.checkHostname = false ∨ context.verifyMode ≠ .required ∨
          context.minimumVersion < tlsv13 then
        .error (.unsupported "worker TLS requires verified hostname and TLS1.3")
      else .ok ()
  | none => .error (.unsupported "worker TLS requires verified hostname and TLS1.3")

/-- One frame that ends with its only newline. -/
def validRequest (request : Bytes) : Bool :=
  request.getLast? = some 10 && !request.dropLast.contains 10 && request.length ≤ maxRequest

/-- A number above zero and up to thirty. -/
def validTimeout : Json → Bool
  | .int n => 0 < n && n ≤ 30
  | .float x => (Number.finite 0).lt x && x.le (.finite 30)
  | _ => false

/-- A response is a frame within the bound. -/
def framed (response : Bytes) : Bool :=
  response.getLast? = some 10 && response.length ≤ maxResponse

section

variable {isIpAddress : String → Bool} (sha256 : Bytes → String)
  (target : PinnedWorkerTarget isIpAddress) (request : Bytes)

/-- The check of the context, of the original admission and of the expiry. -/
def check : Program Wire Fault Unit := do
  let context ← ask (S := Wire) .context
  ofExcept (requireContext context)
  let checked ← ask (S := Wire) .check
  let isNone ← ofExcept checked
  if isNone = false then .throw (.unsupported "invalid current worker checker")
  else do
    let read ← ask (S := Wire) .clock
    let now ← ofExcept (native read)
    match now with
    | none => .throw (.unsupported "private worker connection expired")
    | some now =>
        if target.expiresAt ≤ now then
          .throw (.unsupported "private worker connection expired")
        else .pure ()

/-- The checks of the TLS version and of the certificate pin. -/
def verifyPeer : Option Peer → Except Fault Unit
  | none => .error (.unsupported "private worker TLS version is not admitted")
  | some peer =>
      if peer.version ≠ some "TLSv1.3" then
        .error (.unsupported "private worker TLS version is not admitted")
      else
        match peer.certificate with
        | none => .error (.unsupported "private worker certificate does not match")
        | some certificate =>
            if certificate = [] ∨ sha256 certificate ≠ target.certificateSha256 then
              .error (.unsupported "private worker certificate does not match")
            else .ok ()

/-- The locals after the `try`: whether there is a writer, whether the write returned, and the
response or the failure with its `failure_is_native`. -/
structure Attempt where
  opened : Bool
  sent : Bool
  result : Except (Fault × Bool) Bytes

/-- The failure of an attempt. -/
def stopped (opened sent nativeIo : Bool) (x : Fault) : Attempt := ⟨opened, sent, .error (x, nativeIo)⟩

/-- The attempt from the write on. -/
def transfer : Program Wire Fault Attempt := do
  let written ← ask (S := Wire) (.write request)
  match written with
  | .error x => .pure (stopped true false true x.val)
  | .ok _ => do
      let drained ← ask (S := Wire) .drain
      match drained with
      | .error x => .pure (stopped true true true x.val)
      | .ok _ => do
          let read ← ask (S := Wire) .readline
          match read with
          | .error x => .pure (stopped true true true x.val)
          | .ok response =>
              if framed response = false then
                .pure (stopped true true true
                  (.outcomeUnknown "worker response framing is uncertain"))
              else .pure ⟨true, true, .ok response⟩

/-- The attempt inside the `try`. -/
def attempt : Program Wire Fault Attempt := do
  let connected ← ask (S := Wire) (.connect target.address target.port target.serverName)
  match connected with
  | .error x => .pure (stopped false false true x.val)
  | .ok _ => do
      let read ← ask (S := Wire) .peer
      match native read >>= verifyPeer sha256 target with
      | .error x => .pure (stopped true false false x)
      | .ok _ => do
          let checked ← caught (check target)
          match checked with
          | .error x => .pure (stopped true false false x)
          | .ok _ => transfer request

/-- The `finally`: the failure of the close, if any.  An exception of `writer.close()` that is no
`Exception` ends it. -/
def retire : Program Wire Fault (Option Fault) := do
  let closed ← ask (S := Wire) .close
  match native closed with
  | .error x =>
      if x.isException = false then .throw x
      else do
        let _ ← ask (S := Wire) .waitClosed
        .pure (some x)
  | .ok _ => do
      let waited ← ask (S := Wire) .waitClosed
      match waited with
      | .error x => .pure (some x)
      | .ok _ => .pure none

/-- The public classification of a failure. -/
def surface (sent failureIsNative : Bool) (failure : Fault) : Fault :=
  if failure.isException = false then failure
  else if sent then
    if failure.isOutcomeUnknown then failure
    else .outcomeUnknown "private worker exchange requires original-ID reconciliation"
  else if failureIsNative && failure.isOsError then
    .unsupported "private worker connection failed"
  else failure

/-- The check after the socket is retired. -/
def deliver (response : Bytes) : Program Wire Fault Bytes := do
  let checked ← caught (check target)
  match checked with
  | .ok _ => .pure response
  | .error x =>
      if x.isException then
        .throw (.outcomeUnknown "private worker delivery requires original-ID reconciliation")
      else .throw x

/-- What follows the `try`. -/
def settle (a : Attempt) : Program Wire Fault Bytes := do
  let closeFailure ← if a.opened then retire else .pure none
  match a.result, closeFailure with
  | .error (x, failureIsNative), _ => .throw (surface a.sent failureIsNative x)
  | .ok _, some x => .throw (surface a.sent true x)
  | .ok response, none => deliver target response

/-- `PinnedWorkerTLS.exchange`. -/
def exchange (timeoutSeconds : Json) : Program Wire Fault Bytes := do
  if validRequest request = false then
    .throw (.unsupported "invalid bounded private worker request")
  else if validTimeout timeoutSeconds = false then
    .throw (.unsupported "invalid private worker timeout")
  else do
    let entered ← ask (S := Wire) .enter
    ofExcept entered
    check target
    let a ← attempt sha256 target request
    settle target a

end

/-! ## What an exchange has done -/

def isWrite : Op → Bool
  | .write _ => true
  | _ => false

/-- The write returned. -/
def delivered : Event Wire → Bool
  | ⟨.write _, .ok _⟩ => true
  | _ => false

section

variable {isIpAddress : String → Bool} {sha256 : Bytes → String}
  (target : PinnedWorkerTarget isIpAddress) (request : Bytes)

/-- A check has just passed: the context is verified, the original admission holds, and the clock
reads a time before the expiry. -/
inductive Admitted (h : Past) : Past → Prop
  | passed (context : TlsContext) (now : Instant)
      (verified : requireContext (some context) = .ok ()) (alive : now < target.expiresAt) :
      Admitted h (⟨.clock, .ok (some now)⟩ :: ⟨.check, .ok true⟩ :: ⟨.context, some context⟩ :: h)

/-- The write is of the request, directly after a check that passed, and is the first. -/
def writeContract : Contract Wire where
  permits h op :=
    isWrite op = true →
      op = .write request ∧ (∃ before, Admitted target before h) ∧ ∀ e ∈ h, isWrite e.op = false
  promises _ := True

/-- How an attempt ends, and what it has done by then. -/
inductive Attempted : Past → Attempt → Prop
  | unsent {h : Past} {opened nativeIo : Bool} {x : Fault}
      (undelivered : ∀ e ∈ h, delivered e = false)
      (raised : x.isOutcomeUnknown = true → ⟨.check, .error x⟩ ∈ h) :
      Attempted h (stopped opened false nativeIo x)
  | lost {h : Past} {nativeIo : Bool} {x : Fault} (written : ∃ e ∈ h, delivered e = true) :
      Attempted h (stopped true true nativeIo x)
  | answered {response : Bytes} (earlier : Past) (frame : framed response = true) :
      Attempted (⟨.readline, .ok response⟩ :: ⟨.drain, .ok ()⟩ :: ⟨.write request, .ok ()⟩ ::
        earlier) ⟨true, true, .ok response⟩

variable {target request} {h : Past}

theorem undelivered_of_unwritten (unwritten : ∀ e ∈ h, isWrite e.op = false) :
    ∀ e ∈ h, delivered e = false := by
  intro e member
  have other := unwritten e member
  obtain ⟨op, reply⟩ := e
  cases op with
  | write bytes => cases other
  | _ => rfl

theorem Admitted.unwritten {h' : Past} (admitted : Admitted target h h')
    (unwritten : ∀ e ∈ h, isWrite e.op = false) : ∀ e ∈ h', isWrite e.op = false := by
  cases admitted with
  | passed context now =>
      intro e member
      rcases List.mem_cons.mp member with rfl | member
      · rfl
      rcases List.mem_cons.mp member with rfl | member
      · rfl
      rcases List.mem_cons.mp member with rfl | member
      · rfl
      exact unwritten e member

/-- An operation other than a write is always permitted. -/
theorem obeys_other {α : Type} {op : Op} {k : Reply op → Program Wire Fault α}
    {done : Past → α → Prop} {failed : Past → Fault → Prop} (other : isWrite op = false)
    (next : ∀ r, (k r).Obeys (writeContract target request) done failed (⟨op, r⟩ :: h)) :
    (ask (S := Wire) op >>= k).Obeys (writeContract target request) done failed h := by
  refine ⟨fun is => ?_, fun r _ => next r⟩
  rw [other] at is
  cases is

theorem obeys_raised {α β : Type} {e : Except Fault α} {k : α → Program Wire Fault β}
    {C : Contract Wire} {done : Past → β → Prop} {failed : Past → Fault → Prop}
    (next : ∀ a, e = .ok a → (k a).Obeys C done failed h)
    (raised : ∀ x, e = .error x → failed h x) :
    ((ofExcept e : Program Wire Fault α) >>= k).Obeys C done failed h := by
  cases e with
  | ok a => exact next a rfl
  | error x => exact raised x rfl

theorem obeys_caught {α : Type} {p : Program Wire Fault α} {C : Contract Wire}
    {done : Past → Except Fault α → Prop} {failed : Past → Fault → Prop} :
    (caught p).Obeys C done failed h ↔
      p.Obeys C (fun h' a => done h' (.ok a)) (fun h' x => done h' (.error x)) h := by
  unfold caught
  rw [obeys_handle, obeys_bind]
  exact Iff.rfl

theorem requireContext_error {context : Option TlsContext} {x : Fault}
    (failed : requireContext context = .error x) : x.isOutcomeUnknown = false := by
  unfold requireContext at failed
  split at failed
  · split at failed
    · cases failed
      rfl
    · cases failed
  · cases failed
    rfl

theorem native_error {α : Type} {e : Except Native α} {x : Fault} (failed : native e = .error x) :
    x.isOutcomeUnknown = false := by
  cases e with
  | ok a => cases failed
  | error y =>
      cases failed
      exact y.property

theorem verifyPeer_error {peer : Option Peer} {x : Fault}
    (failed : verifyPeer sha256 target peer = .error x) : x.isOutcomeUnknown = false := by
  unfold verifyPeer at failed
  split at failed
  · cases failed
    rfl
  · split at failed
    · cases failed
      rfl
    · split at failed
      · cases failed
        rfl
      · split at failed
        · cases failed
          rfl
        · cases failed

/-- A failed check has written nothing, and an unknown outcome is the checker's own. -/
structure Denied (h h' : Past) (x : Fault) : Prop where
  unwritten : (∀ e ∈ h, isWrite e.op = false) → ∀ e ∈ h', isWrite e.op = false
  unknown : x.isOutcomeUnknown = true → ⟨.check, .error x⟩ ∈ h'

theorem unwritten_cons {e : Event Wire} (other : isWrite e.op = false)
    (before : ∀ e ∈ h, isWrite e.op = false) : ∀ e' ∈ e :: h, isWrite e'.op = false :=
  List.forall_mem_cons.mpr ⟨other, before⟩

theorem denied_of_known {h' : Past} {x : Fault}
    (unwritten : (∀ e ∈ h, isWrite e.op = false) → ∀ e ∈ h', isWrite e.op = false)
    (known : x.isOutcomeUnknown = false) : Denied h h' x := by
  refine ⟨unwritten, fun is => ?_⟩
  rw [known] at is
  cases is

theorem check_obeys : (check target).Obeys (writeContract target request)
    (fun h' _ => Admitted target h h') (Denied h) h := by
  have first : ∀ {r}, (∀ e ∈ h, isWrite e.op = false) →
      ∀ e ∈ (⟨.context, r⟩ :: h : Past), isWrite e.op = false := unwritten_cons rfl
  have second : ∀ {r r'}, (∀ e ∈ h, isWrite e.op = false) →
      ∀ e ∈ (⟨.check, r⟩ :: ⟨.context, r'⟩ :: h : Past), isWrite e.op = false :=
    fun before => unwritten_cons rfl (first before)
  have third : ∀ {r r' r''}, (∀ e ∈ h, isWrite e.op = false) →
      ∀ e ∈ (⟨.clock, r⟩ :: ⟨.check, r'⟩ :: ⟨.context, r''⟩ :: h : Past), isWrite e.op = false :=
    fun before => unwritten_cons rfl (second before)
  refine obeys_other rfl fun context => obeys_raised (fun _ verified => ?_) fun x failed =>
    denied_of_known first (requireContext_error failed)
  refine obeys_other rfl fun checked => obeys_raised (fun isNone passes => ?_) fun x failed => ?_
  · change Except Fault Bool at checked
    cases passes
    cases isNone with
    | false => exact denied_of_known second rfl
    | true =>
        refine obeys_other rfl fun read => obeys_raised (fun now reads => ?_) fun x failed =>
          denied_of_known third (native_error failed)
        cases now with
        | none => exact denied_of_known third rfl
        | some now =>
            change (if target.expiresAt ≤ now then _ else _ : Program Wire Fault Unit).Obeys _ _ _ _
            split
            · exact denied_of_known third rfl
            · rename_i alive
              change Except Native (Option Instant) at read
              cases read with
              | error y => cases reads
              | ok _ =>
                  cases reads
                  cases context with
                  | none => cases verified
                  | some context => exact .passed context now verified (not_le.mp alive)
  · refine ⟨second, fun _ => ?_⟩
    cases failed
    exact List.mem_cons_self

/-- From a check that has just passed, before anything is written. -/
theorem transfer_obeys {before : Past} (admitted : Admitted target before h)
    (unwritten : ∀ e ∈ h, isWrite e.op = false) :
    (transfer request).Obeys (writeContract target request) (Attempted request)
      (fun _ _ => False) h := by
  refine ⟨fun _ => ⟨rfl, ⟨before, admitted⟩, unwritten⟩, fun written _ => ?_⟩
  change Except Native Unit at written
  cases written with
  | error x =>
      have undelivered : ∀ e ∈ (⟨.write request, .error x⟩ :: h : Past), delivered e = false :=
        List.forall_mem_cons.mpr ⟨rfl, undelivered_of_unwritten unwritten⟩
      refine .unsent undelivered fun is => ?_
      rw [x.property] at is
      cases is
  | ok _ =>
      refine obeys_other rfl fun drained => ?_
      change Except Native Unit at drained
      cases drained with
      | error x => exact .lost ⟨⟨.write request, .ok ()⟩, by simp, rfl⟩
      | ok _ =>
          refine obeys_other rfl fun read => ?_
          change Except Native Bytes at read
          cases read with
          | error x => exact .lost ⟨⟨.write request, .ok ()⟩, by simp, rfl⟩
          | ok response =>
              change (if framed response = false then _ else _ : Program Wire Fault Attempt).Obeys
                _ _ _ _
              split
              · exact .lost ⟨⟨.write request, .ok ()⟩, by simp, rfl⟩
              · rename_i frame
                exact .answered h (Bool.eq_true_of_not_eq_false frame)

theorem attempt_obeys (unwritten : ∀ e ∈ h, isWrite e.op = false) :
    (attempt sha256 target request).Obeys (writeContract target request) (Attempted request)
      (fun _ _ => False) h := by
  have known : ∀ {h' : Past} {opened nativeIo : Bool} {x : Fault},
      (∀ e ∈ h', isWrite e.op = false) → x.isOutcomeUnknown = false →
        Attempted request h' (stopped opened false nativeIo x) := by
    intro h' opened nativeIo x quiet is
    refine .unsent (undelivered_of_unwritten quiet) fun unknown => ?_
    rw [is] at unknown
    cases unknown
  refine obeys_other rfl fun connected => ?_
  change Except Native Unit at connected
  have opening : ∀ {r}, ∀ e ∈ (⟨.connect target.address target.port target.serverName, r⟩ :: h :
      Past), isWrite e.op = false := unwritten_cons rfl unwritten
  cases connected with
  | error x => exact known opening x.property
  | ok _ =>
      refine obeys_other rfl fun read => ?_
      have reading : ∀ {r}, ∀ e ∈ (⟨.peer, read⟩ ::
          ⟨.connect target.address target.port target.serverName, r⟩ :: h : Past),
          isWrite e.op = false := unwritten_cons rfl opening
      change Except Native (Option Peer) at read
      cases verified : native read >>= verifyPeer sha256 target with
      | error x =>
          have is : x.isOutcomeUnknown = false := by
            cases peer : native read with
            | error y =>
                rw [peer] at verified
                cases verified
                exact native_error peer
            | ok peer' =>
                rw [peer] at verified
                exact verifyPeer_error verified
          dsimp only
          exact known reading is
      | ok _ =>
          dsimp only
          refine obeys_bind.mpr (obeys_caught.mpr (check_obeys.weaken ?_ ?_))
          · intro h' _ _ admitted
            exact transfer_obeys admitted (admitted.unwritten reading)
          · intro h' x _ denied
            exact .unsent (undelivered_of_unwritten (denied.unwritten reading)) denied.unknown

/-! ## After the attempt -/

/-- What holds of an exchange at its end. -/
structure Classified (target : PinnedWorkerTarget isIpAddress) (request : Bytes) (h : Past)
    (o : Except Fault Bytes) : Prop where
  lost : (∃ e ∈ h, delivered e = true) → ∀ x, o = .error x → x.isException = true →
    x.isOutcomeUnknown = true
  refused : (∀ e ∈ h, delivered e = false) → ∀ x, o = .error x → x.isOutcomeUnknown = true →
    ⟨.check, .error x⟩ ∈ h ∨ ⟨.enter, .error x⟩ ∈ h
  answered : ∀ response, o = .ok response → framed response = true ∧ ∃ earlier,
    Admitted target (⟨.waitClosed, .ok ()⟩ :: ⟨.close, .ok ()⟩ :: ⟨.readline, .ok response⟩ ::
      ⟨.drain, .ok ()⟩ :: ⟨.write request, .ok ()⟩ :: earlier) h

theorem classified_undelivered {x : Fault} (undelivered : ∀ e ∈ h, delivered e = false)
    (raised : x.isOutcomeUnknown = true → ⟨.check, .error x⟩ ∈ h ∨ ⟨.enter, .error x⟩ ∈ h) :
    Classified target request h (.error x) := by
  refine ⟨?_, ?_, ?_⟩
  · rintro ⟨e, member, is⟩
    rw [undelivered e member] at is
    cases is
  · intro _ y is unknown
    cases is
    exact raised unknown
  · intro response is
    cases is

theorem classified_delivered {x : Fault} (written : ∃ e ∈ h, delivered e = true)
    (unknown : x.isException = true → x.isOutcomeUnknown = true) :
    Classified target request h (.error x) := by
  refine ⟨?_, ?_, ?_⟩
  · intro _ y is exception
    cases is
    exact unknown exception
  · intro undelivered
    obtain ⟨e, member, is⟩ := written
    rw [undelivered e member] at is
    cases is
  · intro response is
    cases is

theorem known_of_control {x : Fault} (control : x.isException = false) :
    x.isOutcomeUnknown = false := by
  cases x <;> first | rfl | cases control

/-- The close ends with no failure, with one, or with an exception that is no `Exception`. -/
theorem retire_obeys : retire.Obeys (writeContract target request)
    (fun h' closeFailure =>
      (closeFailure = none → h' = ⟨.waitClosed, .ok ()⟩ :: ⟨.close, .ok ()⟩ :: h) ∧
        ((∀ e ∈ h, delivered e = false) → ∀ e ∈ h', delivered e = false))
    (fun h' x => x.isException = false ∧ (∃ y, y.val = x ∧ h' = ⟨.close, .error y⟩ :: h)) h := by
  refine obeys_other rfl fun closed => ?_
  change Except Native Unit at closed
  cases closed with
  | error x =>
      change (if x.val.isException = false then _ else _ : Program Wire Fault (Option Fault)).Obeys
        _ _ _ _
      split
      · rename_i control
        exact ⟨control, x, rfl, rfl⟩
      · refine obeys_other rfl fun waited => ⟨fun is => ?_, fun quiet => ?_⟩
        · cases is
        · exact List.forall_mem_cons.mpr ⟨rfl, List.forall_mem_cons.mpr ⟨rfl, quiet⟩⟩
  | ok _ =>
      refine obeys_other rfl fun waited => ?_
      change Except Fault Unit at waited
      cases waited with
      | error x =>
          refine ⟨fun is => ?_, fun quiet => ?_⟩
          · cases is
          · exact List.forall_mem_cons.mpr ⟨rfl, List.forall_mem_cons.mpr ⟨rfl, quiet⟩⟩
      | ok _ =>
          refine ⟨fun _ => rfl, fun quiet => ?_⟩
          exact List.forall_mem_cons.mpr ⟨rfl, List.forall_mem_cons.mpr ⟨rfl, quiet⟩⟩

theorem surface_sent {nativeIo : Bool} {x : Fault}
    (exception : (surface true nativeIo x).isException = true) :
    (surface true nativeIo x).isOutcomeUnknown = true := by
  unfold surface at exception ⊢
  split
  · rename_i control
    rw [if_pos control, control] at exception
    cases exception
  · rw [if_pos rfl]
    split
    · assumption
    · rfl

theorem surface_unsent {nativeIo : Bool} {x : Fault}
    (unknown : (surface false nativeIo x).isOutcomeUnknown = true) :
    surface false nativeIo x = x := by
  unfold surface at unknown ⊢
  split
  · rfl
  · rename_i exception
    rw [if_neg exception, if_neg Bool.false_ne_true] at unknown
    rw [if_neg Bool.false_ne_true]
    split
    · rename_i os
      rw [if_pos os] at unknown
      cases unknown
    · rfl

/-- After the write, a response is delivered only after a last check that passes. -/
theorem deliver_obeys {response : Bytes} {earlier : Past} (frame : framed response = true)
    (retired : h = ⟨.waitClosed, .ok ()⟩ :: ⟨.close, .ok ()⟩ :: ⟨.readline, .ok response⟩ ::
      ⟨.drain, .ok ()⟩ :: ⟨.write request, .ok ()⟩ :: earlier) :
    (deliver target response).Obeys (writeContract target request)
      (fun h' r => Classified target request h' (.ok r))
      (fun h' x => Classified target request h' (.error x)) h := by
  have written : ∃ e ∈ h, delivered e = true := by
    rw [retired]
    exact ⟨⟨.write request, .ok ()⟩, by simp, rfl⟩
  refine obeys_bind.mpr (obeys_caught.mpr (check_obeys.weaken ?_ ?_))
  · intro h' _ _ admitted
    refine ⟨?_, ?_, ?_⟩
    · intro _ x is
      cases is
    · intro _ x is
      cases is
    · intro r is
      cases is
      exact ⟨frame, earlier, retired ▸ admitted⟩
  · intro h' x grown _
    obtain ⟨e, member, is⟩ := written
    have kept : ∃ e ∈ h', delivered e = true := ⟨e, grown.subset member, is⟩
    change (if x.isException = true then _ else _ : Program Wire Fault Bytes).Obeys _ _ _ _
    split
    · exact classified_delivered kept fun _ => rfl
    · rename_i control
      exact classified_delivered kept fun exception => absurd exception control

theorem settle_obeys {a : Attempt} (attempted : Attempted request h a) :
    (settle target a).Obeys (writeContract target request)
      (fun h' r => Classified target request h' (.ok r))
      (fun h' x => Classified target request h' (.error x)) h := by
  cases attempted with
  | @unsent _ opened nativeIo x undelivered raised =>
      have ends : ∀ {h'}, h <:+ h' → (∀ e ∈ h', delivered e = false) →
          Classified target request h' (.error (surface false nativeIo x)) := by
        intro h' grown quiet
        refine classified_undelivered quiet fun unknown => .inl ?_
        have is := surface_unsent unknown
        rw [is] at unknown ⊢
        exact grown.subset (raised unknown)
      cases opened with
      | false => exact ends (List.suffix_refl h) undelivered
      | true =>
          refine obeys_bind.mpr (retire_obeys.weaken ?_ ?_)
          · intro h' closeFailure grown retired
            cases closeFailure <;> exact ends grown (retired.2 undelivered)
          · rintro h' y grown ⟨control, z, is, rfl⟩
            have quiet : ∀ e ∈ (⟨.close, .error z⟩ :: h : Past), delivered e = false :=
              List.forall_mem_cons.mpr ⟨rfl, undelivered⟩
            refine classified_undelivered quiet fun unknown => ?_
            rw [known_of_control control] at unknown
            cases unknown
  | @lost _ nativeIo x written =>
      obtain ⟨e, member, is⟩ := written
      refine obeys_bind.mpr (retire_obeys.weaken ?_ ?_)
      · intro h' closeFailure grown _
        have kept : ∃ e ∈ h', delivered e = true := ⟨e, grown.subset member, is⟩
        cases closeFailure <;> exact classified_delivered kept surface_sent
      · rintro h' y grown ⟨control, _⟩
        refine classified_delivered ⟨e, grown.subset member, is⟩ fun exception => ?_
        rw [control] at exception
        cases exception
  | @answered response earlier frame =>
      have written : ∀ {h' : Past}, (⟨.readline, .ok response⟩ :: ⟨.drain, .ok ()⟩ ::
          ⟨.write request, .ok ()⟩ :: earlier : Past) <:+ h' → ∃ e ∈ h', delivered e = true :=
        fun grown => ⟨⟨.write request, .ok ()⟩, grown.subset (by simp), rfl⟩
      refine obeys_bind.mpr (retire_obeys.weaken ?_ ?_)
      · intro h' closeFailure grown retired
        cases closeFailure with
        | none => exact deliver_obeys frame (retired.1 rfl)
        | some x => exact classified_delivered (written grown) surface_sent
      · rintro h' y grown ⟨control, _⟩
        refine classified_delivered (written grown) fun exception => ?_
        rw [control] at exception
        cases exception

theorem exchange_obeys {timeoutSeconds : Json} :
    (exchange sha256 target request timeoutSeconds).Obeys (writeContract target request)
      (fun h' r => Classified target request h' (.ok r))
      (fun h' x => Classified target request h' (.error x)) [] := by
  have nothing : ∀ e ∈ ([] : Past), isWrite e.op = false := by simp
  unfold exchange
  split
  · refine classified_undelivered (undelivered_of_unwritten nothing) fun unknown => ?_
    cases unknown
  · split
    · refine classified_undelivered (undelivered_of_unwritten nothing) fun unknown => ?_
      cases unknown
    · refine obeys_other rfl fun entered => obeys_raised (fun _ _ => ?_) fun x failed => ?_
      · have entering : ∀ {r}, ∀ e ∈ ([⟨.enter, r⟩] : Past), isWrite e.op = false :=
          unwritten_cons rfl nothing
        refine obeys_bind.mpr (check_obeys.weaken ?_ ?_)
        · intro h' _ _ admitted
          refine obeys_bind.mpr ((attempt_obeys (admitted.unwritten entering)).weaken ?_ ?_)
          · intro h'' a _ attempted
            exact settle_obeys attempted
          · intro _ _ _ impossible
            exact impossible.elim
        · intro h' x _ denied
          exact classified_undelivered (undelivered_of_unwritten (denied.unwritten entering))
            fun unknown => .inl (denied.unknown unknown)
      · change Except Fault Unit at entered
        rw [failed]
        refine classified_undelivered ?_ fun _ => .inr List.mem_cons_self
        exact undelivered_of_unwritten (unwritten_cons rfl nothing)

/-! ## Complete exchanges -/

/-- The writes of an exchange: at most one, of the request, directly after a check that passed. -/
structure WrittenOnce (target : PinnedWorkerTarget isIpAddress) (request : Bytes) (h : Past) :
    Prop where
  once : h.countP (fun e => isWrite e.op) ≤ 1
  admitted : ∀ later e earlier, h = later ++ e :: earlier → isWrite e.op = true →
    e.op = .write request ∧ ∃ before, Admitted target before earlier

/-- Events of a kind before which there is none of that kind. -/
theorem countP_le_one {p : Event Wire → Bool}
    (first : ∀ later e earlier, h = later ++ e :: earlier → p e = true →
      ∀ e' ∈ earlier, p e' = false) : h.countP p ≤ 1 := by
  induction h with
  | nil => exact Nat.zero_le _
  | cons e h ih =>
      have onward := ih fun later e' earlier split =>
        first (e :: later) e' earlier (by rw [split, List.cons_append])
      cases is : p e with
      | false => rwa [List.countP_cons_of_neg (by rw [is]; exact Bool.false_ne_true)]
      | true =>
          have none_ : h.countP p = 0 :=
            List.countP_eq_zero.mpr fun e' member => by
              rw [first [] e h rfl is e' member]
              exact Bool.false_ne_true
          rw [List.countP_cons_of_pos is, none_]

theorem exchange_written {timeoutSeconds : Json} {o : Except Fault Bytes}
    (ends : (exchange sha256 target request timeoutSeconds).Ends [] h o) :
    WrittenOnce target request h := by
  have permitted : ∀ later e earlier, h = later ++ e :: earlier → isWrite e.op = true →
      e.op = .write request ∧ (∃ before, Admitted target before earlier) ∧
        ∀ e' ∈ earlier, isWrite e'.op = false :=
    fun later e earlier split =>
      ends.reaches.permitted (fun _ _ => trivial) exchange_obeys.safe split List.nil_suffix
  refine ⟨countP_le_one fun later e earlier split is => (permitted later e earlier split is).2.2, ?_⟩
  intro later e earlier split is
  obtain ⟨op, admitted, _⟩ := permitted later e earlier split is
  exact ⟨op, admitted⟩

/-- The failure of an attempt is what surfaces, however the socket is closed; only an exception
of `writer.close()` that is no `Exception` replaces it. -/
theorem settle_failure {a : Attempt} {x : Fault} {nativeIo : Bool} {h' : Past}
    {o : Except Fault Bytes} (failed : a.result = .error (x, nativeIo))
    (ends : (settle target a).Ends h h' o) :
    o = .error (surface a.sent nativeIo x) ∨
      ∃ y, y.val.isException = false ∧ h' = ⟨.close, .error y⟩ :: h ∧ o = .error y.val := by
  have settles : (settle target a).Obeys (writeContract target []) (fun _ _ => False)
      (fun h' y => y = surface a.sent nativeIo x ∨
        ∃ z : Native, z.val.isException = false ∧ h' = ⟨.close, .error z⟩ :: h ∧ y = z.val) h := by
    obtain ⟨opened, sent, result⟩ := a
    cases failed
    cases opened with
    | false => exact .inl rfl
    | true =>
        refine obeys_bind.mpr (retire_obeys.weaken ?_ ?_)
        · intro h' closeFailure _ _
          cases closeFailure <;> exact .inl rfl
        · rintro h' y _ ⟨control, z, rfl, closed⟩
          exact .inr ⟨z, control, closed, rfl⟩
  obtain ⟨normal, raised⟩ := ends.obeys (fun _ _ => trivial) settles
  cases o with
  | ok r => exact (normal r rfl).elim
  | error y =>
      rcases raised y rfl with rfl | ⟨z, control, closed, rfl⟩
      · exact .inl rfl
      · exact .inr ⟨z, control, closed, rfl⟩

end

namespace Sample

def target : PinnedWorkerTarget fun address => address = "127.0.0.1" where
  address := "127.0.0.1"
  port := 8443
  serverName := "worker"
  certificateSha256 := String.ofList (List.replicate 64 'a')
  expiresAt := 100
  numeric := by decide
  portRange := by decide
  pinned := by decide
  named := by decide

def sha256 : Bytes → String := fun _ => String.ofList (List.replicate 64 'a')

/-- A context, a checker and a clock that pass. -/
def passed (h : Past) : Past :=
  ⟨.clock, .ok (some 0)⟩ :: ⟨.check, .ok true⟩ :: ⟨.context, some ⟨true, .required, 772⟩⟩ :: h

/-- The frame "a" has been written. -/
def written : Past :=
  ⟨.write [97, 10], .ok ()⟩ :: passed (⟨.peer, .ok (some ⟨some "TLSv1.3", some [1]⟩)⟩ ::
    ⟨.connect "127.0.0.1" 8443 "worker", .ok ()⟩ :: passed [⟨.enter, .ok ()⟩])

theorem check_passes (h : Past) : (check target).Ends h (passed h) (.ok ()) := by
  refine .perform (some ⟨true, .required, 772⟩ : Option TlsContext) ?_
  refine .perform (.ok true : Except Fault Bool) ?_
  refine .perform (.ok (some 0) : Except Native (Option Instant)) ?_
  exact .pure _ _

theorem caught_passes (h : Past) : (caught (check target)).Ends h (passed h) (.ok (.ok ())) := by
  refine .perform (some ⟨true, .required, 772⟩ : Option TlsContext) ?_
  refine .perform (.ok true : Except Fault Bool) ?_
  refine .perform (.ok (some 0) : Except Native (Option Instant)) ?_
  exact .pure _ _

/-- An attempt that comes to its write. -/
theorem comes_to_write {h : Past} {a : Attempt}
    (transfers : (transfer [97, 10]).Ends (passed (⟨.peer, .ok (some ⟨some "TLSv1.3", some [1]⟩)⟩ ::
      ⟨.connect "127.0.0.1" 8443 "worker", .ok ()⟩ :: passed [⟨.enter, .ok ()⟩])) h (.ok a)) :
    (attempt sha256 target [97, 10]).Ends (passed [⟨.enter, .ok ()⟩]) h (.ok a) := by
  refine .perform (.ok () : Except Native Unit) ?_
  refine .perform
    (.ok (some ⟨some "TLSv1.3", some [1]⟩) : Except Native (Option Peer)) ?_
  exact (caught_passes _).andThen transfers

theorem exchange_ends {h₀ h : Past} {a : Attempt} {o : Except Fault Bytes}
    (attempts : (attempt sha256 target [97, 10]).Ends (passed [⟨.enter, .ok ()⟩]) h₀ (.ok a))
    (settles : (settle target a).Ends h₀ h o) :
    (exchange sha256 target [97, 10] (.int 20)).Ends [] h o := by
  refine .perform (.ok () : Except Fault Unit) ?_
  exact (check_passes _).andThen (attempts.andThen settles)

end Sample

end KestrelRunpod.Worker
