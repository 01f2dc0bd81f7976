import KestrelRunpod.Numeric.Traverse
import Mathlib.Data.Rat.Defs

/-!
# Exceptions and field checks

The exception classes the Pod capacity code raises and catches, and the small field checks
its contract constructors share.  A constructor is a list of `refuse` lines in the order of
the source; `refuse_bind_ok` reads a passed check back as facts about the fields.
-/

namespace KestrelRunpod

/-- Instants of the service clock, in microseconds. -/
abbrev Instant : Type := Int

/-- Whole seconds as a duration. -/
def seconds (n : Nat) : Int := 1000000 * (n : Int)

namespace Pod

/-- Teardown progress of a lease, kept apart from its workload state. -/
inductive CleanupState
  | notRequested
  | pending
  | retryableFailure
  | complete
  | notOwned
  deriving DecidableEq, Repr

/-- An exception, by class and by the data its handlers read. -/
inductive Exn
  | cancelled
  | valueError (message : String)
  | typeError (message : String)
  | other (className : String)
  | manager (message : String)
  | api (className : String)
  | ambiguous (className : String)
  | conflict (message : String)
  | createdMismatch (providerPodId : String)
  | lifecycle (operation cleanupToken : String) (podId : Option String)
      (cleanupState : CleanupState) (billingRisk : Bool)
  | cleanup (operation cleanupToken : String) (podId : Option String)
      (cleanupState : CleanupState) (billingRisk : Bool)
  | transport (message : String)
  | transportConflict (message : String)
  deriving DecidableEq, Repr

namespace Exn

/-- Instances of `RunPodManagerError`. -/
def isManager : Exn → Bool
  | .cancelled | .valueError _ | .typeError _ | .other _ => false
  | _ => true

/-- Instances of `TrainingPodLifecycleError`. -/
def isLifecycle : Exn → Bool
  | .lifecycle .. | .cleanup .. => true
  | _ => false

/-- Instances of `CatalogPodTransportError`. -/
def isTransport : Exn → Bool
  | .transport _ | .transportConflict _ => true
  | _ => false

/-- A failed create that the provider has not accepted and never will. -/
def isDefinite (x : Exn) : Bool :=
  x.isManager && match x with
    | .ambiguous _ | .createdMismatch _ => false
    | _ => true

/-- `sanitize_training_error`: the class name alone is persisted. -/
def sanitized : Exn → String
  | .cancelled => "CancelledError"
  | .valueError _ => "ValueError"
  | .typeError _ => "TypeError"
  | .other name => name
  | .manager _ => "RunPodManagerError"
  | .api name => name
  | .ambiguous name => name
  | .conflict _ => "TrainingPodConflictError"
  | .createdMismatch _ => "PodCapacityCreatedMismatchError"
  | .lifecycle .. => "TrainingPodLifecycleError"
  | .cleanup .. => "TrainingPodCleanupError"
  | .transport _ => "CatalogPodTransportError"
  | .transportConflict _ => "CatalogPodTransportConflictError"

theorem isManager_of_isLifecycle {x : Exn} (raised : x.isLifecycle = true) :
    x.isManager = true := by
  cases x <;> simp_all [isLifecycle, isManager]

theorem isManager_of_isTransport {x : Exn} (raised : x.isTransport = true) :
    x.isManager = true := by
  cases x <;> simp_all [isTransport, isManager]

end Exn

/-! ## Field checks -/

/-- Raise `x` when `bad` holds. -/
def refuse (bad : Prop) [Decidable bad] (x : Exn) : Except Exn Unit :=
  if bad then .error x else .ok ()

variable {bad : Prop} [Decidable bad] {x : Exn}

@[simp] theorem refuse_ok : refuse bad x = .ok () ↔ ¬ bad := by
  unfold refuse
  split <;> simp_all

@[simp] theorem refuse_bind_ok {α : Type} {k : Unit → Except Exn α} {a : α} :
    (refuse bad x >>= k) = .ok a ↔ ¬ bad ∧ k () = .ok a := by
  rw [Traverse.check_bind_ok, refuse_ok]

/-! ## Identifiers and digests -/

/-- An ASCII letter or digit. -/
def isAlphanumeric (c : Char) : Bool :=
  ('A' ≤ c && c ≤ 'Z') || ('a' ≤ c && c ≤ 'z') || ('0' ≤ c && c ≤ '9')

/-- `[A-Za-z0-9][A-Za-z0-9._:-]{least,127}`. -/
def identifierFrom (least : Nat) (value : String) : Bool :=
  match value.toList with
  | [] => false
  | first :: rest =>
      isAlphanumeric first && least ≤ rest.length && rest.length ≤ 127 &&
        rest.all fun c => isAlphanumeric c || c = '.' || c = '_' || c = ':' || c = '-'

/-- A lowercase hexadecimal digit. -/
def isHexDigit (c : Char) : Bool := ('0' ≤ c && c ≤ '9') || ('a' ≤ c && c ≤ 'f')

/-- `[0-9a-f]{64}`. -/
def isSha256 (value : String) : Bool := value.toList.length = 64 && value.toList.all isHexDigit

/-- `str.isspace` on one character. -/
def isSpace (c : Char) : Bool :=
  let n := c.toNat
  (9 ≤ n && n ≤ 13) || (28 ≤ n && n ≤ 32) || n = 0x85 || n = 0xa0 || n = 0x1680 ||
    (0x2000 ≤ n && n ≤ 0x200a) || n = 0x2028 || n = 0x2029 || n = 0x202f || n = 0x205f ||
    n = 0x3000

/-- `str.strip`. -/
def strip (value : String) : String :=
  String.ofList ((value.toList.dropWhile isSpace).reverse.dropWhile isSpace).reverse

/-- `not value.strip()`. -/
def isBlank (value : String) : Bool := value.toList.all isSpace

/-! ### Deciding the checks

A check reads the characters of a text.  Those of an ASCII text are its bytes, which are
cheaper to read where a check is evaluated. -/

/-- The characters of an ASCII text, read off its bytes. -/
def asciiChars (value : String) : Option (List Char) :=
  let bytes := value.toByteArray.data.toList
  if bytes.all (fun b => b.toNat < 128) then some (bytes.map fun b => Char.ofNat b.toNat) else none

/-- A character whose bytes are all ASCII is its one byte. -/
theorem utf8EncodeChar_ascii {c : Char}
    (ascii : (String.utf8EncodeChar c).all (fun b => b.toNat < 128) = true) :
    (String.utf8EncodeChar c).map (fun b => Char.ofNat b.toNat) = [c] := by
  have valid : c.val.toNat < 1114112 := by
    have := c.valid
    simp only [UInt32.isValidChar, Nat.isValidChar] at this
    omega
  simp only [String.utf8EncodeChar] at ascii ⊢
  by_cases small : c.val.toNat ≤ 127
  · have fits : c.val.toNat % 256 = c.val.toNat := by omega
    rw [if_pos small, List.map_cons, List.map_nil, UInt8.toNat_ofNat', fits]
    exact congrArg (fun d => [d]) (Char.ofNat_toNat c)
  · rw [if_neg small] at ascii
    -- the first byte of a longer encoding has its top bit set
    split at ascii
    · simp only [List.all_cons, Bool.and_eq_true, decide_eq_true_eq, UInt8.toNat_ofNat'] at ascii
      omega
    · split at ascii
      · simp only [List.all_cons, Bool.and_eq_true, decide_eq_true_eq, UInt8.toNat_ofNat'] at ascii
        omega
      · simp only [List.all_cons, Bool.and_eq_true, decide_eq_true_eq, UInt8.toNat_ofNat'] at ascii
        omega

theorem toList_of_asciiChars {value : String} {chars : List Char}
    (ascii : asciiChars value = some chars) : value.toList = chars := by
  obtain ⟨text, rfl⟩ := value.exists_eq_ofList
  rw [String.toList_ofList]
  simp only [asciiChars, String.toByteArray_ofList, List.utf8Encode, List.toList_data_toByteArray,
    Option.ite_none_right_eq_some, Option.some.injEq] at ascii
  obtain ⟨small, rfl⟩ := ascii
  induction text with
  | nil => rfl
  | cons c rest ih =>
      simp only [List.flatMap_cons, List.all_append, Bool.and_eq_true] at small
      rw [List.flatMap_cons, List.map_append, utf8EncodeChar_ascii small.1, ← ih small.2]
      rfl

/-- A decision on the characters of a text, taken on its bytes where it is ASCII. -/
def decideOnChars (value : String) (P : List Char → Prop) [DecidablePred P] :
    Decidable (P value.toList) :=
  match ascii : asciiChars value with
  | some chars => decidable_of_iff (P chars) (by rw [toList_of_asciiChars ascii])
  | none => inferInstance

instance (value : String) : Decidable (isSha256 value = false) :=
  decideOnChars value fun chars => (chars.length = 64 && chars.all isHexDigit) = false

instance (least : Nat) (value : String) : Decidable (identifierFrom least value = false) :=
  decideOnChars value fun chars => (match chars with
    | [] => false
    | first :: rest =>
        isAlphanumeric first && least ≤ rest.length && rest.length ≤ 127 &&
          rest.all fun c => isAlphanumeric c || c = '.' || c = '_' || c = ':' || c = '-') = false

instance (value : String) : Decidable (isBlank value = true) :=
  decideOnChars value fun chars => chars.all isSpace = true

/-- `_safe_identifier`. -/
def safeIdentifier (value name : String) : Except Exn Unit :=
  refuse (identifierFrom 7 value = false)
    (.valueError ("Pod capacity " ++ name ++ " has an invalid format"))

/-- `_sha256`. -/
def sha256Digest (value name : String) : Except Exn Unit :=
  refuse (isSha256 value = false)
    (.valueError ("Pod capacity " ++ name ++ " must be a lowercase SHA-256 digest"))

/-- `_provider_identifier`. -/
def providerIdentifier (value name : String) : Except Exn Unit :=
  refuse (identifierFrom 0 value = false)
    (.valueError ("Pod capacity " ++ name ++ " is invalid"))

/-- `_display_name`. -/
def displayName (value name : String) : Except Exn Unit :=
  refuse (isBlank value = true ∨ 128 < value.toList.length ∨
      value.toList.any (fun c => c.toNat < 32) = true)
    (.valueError ("Pod capacity " ++ name ++ " is invalid"))

/-- `_image_digest`. -/
def imageDigest (value : String) : Except Exn Unit :=
  refuse (¬ (value.toList.take 7 = "sha256:".toList ∧ (value.toList.drop 7).length = 64 ∧
      (value.toList.drop 7).all isHexDigit = true))
    (.valueError "Catalog worker image digest is invalid")

/-- The rest of a SHA-256 digest may follow an identifier prefix that fits. -/
theorem identifierFrom_append_sha256 {stem digest : String}
    (stemSafe : identifierFrom 7 stem = true) (short : stem.toList.length ≤ 64)
    (hex : isSha256 digest = true) : identifierFrom 7 (stem ++ digest) = true := by
  unfold identifierFrom at stemSafe ⊢
  simp only [isSha256, Bool.and_eq_true, decide_eq_true_eq] at hex
  rw [String.toList_append]
  cases chars : stem.toList with
  | nil => simp [chars] at stemSafe
  | cons first rest =>
      simp only [chars, Bool.and_eq_true, decide_eq_true_eq, List.length_cons] at stemSafe short
      simp only [List.cons_append, List.length_append, List.all_append, Bool.and_eq_true,
        decide_eq_true_eq, hex.1]
      refine ⟨⟨⟨stemSafe.1.1.1, by omega⟩, by omega⟩, stemSafe.2, ?_⟩
      rw [List.all_eq_true] at hex ⊢
      intro c member
      have digit := hex.2 c member
      simp only [isHexDigit, Bool.or_eq_true, Bool.and_eq_true, decide_eq_true_eq] at digit
      simp only [isAlphanumeric, Bool.or_eq_true, Bool.and_eq_true, decide_eq_true_eq]
      rcases digit with number | letter
      · exact .inl (.inl (.inl (.inl (.inr number))))
      · refine .inl (.inl (.inl (.inl (.inl (.inr ⟨letter.1, ?_⟩)))))
        exact Char.le_trans letter.2 (by decide)

end Pod

end KestrelRunpod
