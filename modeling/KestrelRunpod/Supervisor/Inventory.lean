import KestrelRunpod.Pod.Errors
import Mathlib.Data.List.TakeDrop

/-!
# The model inventory of the runtime

`exactModelReady` looks up the pinned model in the inventory that Ollama lists and compares its
digest and its capabilities.  `Exact` says the same of the inventory itself, and
`judge_ready` that the answer `true` means it.
-/

namespace KestrelRunpod.Supervisor

open Pod (isSha256)

/-- `modelPin`. -/
structure ModelPin where
  name : String
  digest : String
  deriving DecidableEq, Repr

/-- One model of the inventory, as `encoding/json` decodes it. -/
structure ModelItem where
  name : String
  model : String
  digest : String
  capabilities : List String
  deriving DecidableEq, Repr

/-- The answer of `/api/tags`.  The inventory is `none` where the body does not decode. -/
structure Listing where
  statusCode : Int
  inventory : Option (List ModelItem)
  deriving DecidableEq, Repr

def requiredModelCapabilities : List String := ["completion", "tools"]

def digestPrefix : List Char := "sha256:".toList

/-- `strings.TrimPrefix(value, "sha256:")`. -/
def trimDigestPrefix (value : String) : String :=
  if digestPrefix <+: value.toList then .ofList (value.toList.drop digestPrefix.length) else value

/-- `normalizedModelDigest`, with `modelDigestRE`. -/
def normalizedModelDigest (value : String) : String × Bool :=
  let normalized := trimDigestPrefix value
  (normalized, isSha256 normalized)

/-- The name of an item, or its model where it has no name. -/
def ModelItem.listedAs (item : ModelItem) : String :=
  if item.name = "" then item.model else item.name

/-- `statusCode >= 200 && statusCode < 300`. -/
def succeeded (statusCode : Int) : Bool := 200 ≤ statusCode && statusCode < 300

/-- The loop over the required capabilities. -/
def lacking (available : List String) : List String → Except String Unit
  | [] => .ok ()
  | capability :: rest =>
      if capability ∈ available then lacking available rest
      else .error ("configured model lacks required Ollama capability \"" ++ capability ++ "\"")

/-- What the loop of `exactModelReady` decides on the item of the pinned name. -/
def judgeItem (pin : ModelPin) (item : ModelItem) : Except String Bool :=
  let actual := normalizedModelDigest item.digest
  let expected := normalizedModelDigest pin.digest
  if actual.2 = false ∨ expected.2 = false ∨ actual.1 ≠ expected.1 then .ok false
  else (lacking item.capabilities requiredModelCapabilities).map fun _ => true

/-- The loop of `exactModelReady`. -/
def judgeModels (pin : ModelPin) : List ModelItem → Except String Bool
  | [] => .ok false
  | item :: rest => if item.listedAs = pin.name then judgeItem pin item else judgeModels pin rest

/-- `exactModelReady`, once `client.Do` has answered. -/
def judge (pin : ModelPin) : Except String Listing → Except String Bool
  | .error err => .error ("list Ollama models: " ++ err)
  | .ok listing =>
      if succeeded listing.statusCode then
        match listing.inventory with
        | none => .error "Ollama returned invalid model inventory"
        | some models => judgeModels pin models
      else .error ("list Ollama models returned HTTP " ++ toString listing.statusCode)

/-! ## Exact inventories -/

/-- The digest is these 64 hexadecimal digits, with or without the name of the algorithm. -/
def Denotes (digest hex : String) : Prop :=
  isSha256 hex = true ∧ (digest = hex ∨ digest = "sha256:" ++ hex)

/-- Two digests of the same content. -/
def SameDigest (digest digest' : String) : Prop :=
  ∃ hex, Denotes digest hex ∧ Denotes digest' hex

/-- The first entry of the pinned name has the pinned digest and every required capability. -/
def Exact (pin : ModelPin) (models : List ModelItem) : Prop :=
  ∃ before item after, models = before ++ item :: after ∧
    (∀ other ∈ before, other.listedAs ≠ pin.name) ∧ item.listedAs = pin.name ∧
    SameDigest item.digest pin.digest ∧
    ∀ capability ∈ requiredModelCapabilities, capability ∈ item.capabilities

/-- An answer that lists the pinned model. -/
def Listing.Shows (pin : ModelPin) (listing : Listing) : Prop :=
  succeeded listing.statusCode = true ∧ ∃ models, listing.inventory = some models ∧
    Exact pin models

variable {pin : ModelPin} {item : ModelItem} {models : List ModelItem} {available : List String}
  {digest hex : String}

theorem isSha256_hex (valid : isSha256 hex = true) :
    hex.toList.length = 64 ∧ ∀ c ∈ hex.toList, Pod.isHexDigit c = true := by
  unfold isSha256 at valid
  rw [Bool.and_eq_true, decide_eq_true_eq, List.all_eq_true] at valid
  exact valid

/-- A hexadecimal digest does not start with the name of the algorithm. -/
theorem digestPrefix_not_hex (valid : isSha256 hex = true) : ¬ digestPrefix <+: hex.toList := by
  intro starts
  have colon : ':' ∈ hex.toList := starts.subset (by decide)
  have digit := (isSha256_hex valid).2 ':' colon
  exact absurd digit (by decide)

theorem trimDigestPrefix_hex (valid : isSha256 hex = true) : trimDigestPrefix hex = hex :=
  if_neg (digestPrefix_not_hex valid)

theorem trimDigestPrefix_named : trimDigestPrefix ("sha256:" ++ hex) = hex := by
  have starts : digestPrefix <+: ("sha256:" ++ hex).toList := by
    rw [String.toList_append]
    exact List.prefix_append _ _
  unfold trimDigestPrefix
  rw [if_pos starts, String.toList_append]
  change String.ofList ((digestPrefix ++ hex.toList).drop digestPrefix.length) = hex
  rw [List.drop_left, String.ofList_toList]

/-- What the normalisation accepts, and what it makes of it. -/
theorem normalizedModelDigest_valid :
    normalizedModelDigest digest = (hex, true) ↔ Denotes digest hex := by
  unfold normalizedModelDigest Denotes
  dsimp only
  rw [Prod.mk.injEq]
  constructor
  · rintro ⟨trimmed, valid⟩
    rw [trimmed] at valid
    refine ⟨valid, ?_⟩
    unfold trimDigestPrefix at trimmed
    split at trimmed
    · rename_i starts
      obtain ⟨rest, is⟩ := starts
      rw [← is, List.drop_left] at trimmed
      right
      rw [← String.toList_inj, ← is, String.toList_append, ← trimmed]
      exact congrArg (digestPrefix ++ ·) String.toList_ofList.symm
    · exact .inl trimmed
  · rintro ⟨valid, rfl | rfl⟩
    · rw [trimDigestPrefix_hex valid]
      exact ⟨rfl, valid⟩
    · rw [trimDigestPrefix_named]
      exact ⟨rfl, valid⟩

/-- The comparison of the two normalised digests. -/
theorem sameDigest_iff :
    SameDigest item.digest pin.digest ↔
      ¬ ((normalizedModelDigest item.digest).2 = false ∨
        (normalizedModelDigest pin.digest).2 = false ∨
        (normalizedModelDigest item.digest).1 ≠ (normalizedModelDigest pin.digest).1) := by
  unfold SameDigest
  simp only [← normalizedModelDigest_valid]
  generalize normalizedModelDigest item.digest = actual
  generalize normalizedModelDigest pin.digest = expected
  obtain ⟨actual, validActual⟩ := actual
  obtain ⟨expected, validExpected⟩ := expected
  constructor
  · rintro ⟨hex, is, is'⟩
    cases is
    cases is'
    simp
  · intro agree
    simp only [not_or, Bool.not_eq_false, ne_eq, not_not] at agree
    obtain ⟨rfl, rfl, rfl⟩ := agree
    exact ⟨_, rfl, rfl⟩

theorem lacking_ok (required : List String) :
    lacking available required = .ok () ↔ ∀ capability ∈ required, capability ∈ available := by
  induction required with
  | nil => simp [lacking]
  | cons capability rest ih =>
      unfold lacking
      split
      · rename_i there
        rw [ih, List.forall_mem_cons]
        exact ⟨fun others => ⟨there, others⟩, fun all => all.2⟩
      · rename_i absent
        constructor
        · intro is
          cases is
        · intro all
          exact absurd (all capability List.mem_cons_self) absent

/-- The item of the pinned name is accepted where it has the digest and the capabilities. -/
theorem judgeItem_ready : judgeItem pin item = .ok true ↔
    SameDigest item.digest pin.digest ∧
      ∀ capability ∈ requiredModelCapabilities, capability ∈ item.capabilities := by
  unfold judgeItem
  dsimp only
  rw [sameDigest_iff, ← lacking_ok]
  split
  · rename_i different
    constructor
    · intro is
      cases is
    · intro same
      exact absurd different same.1
  · rename_i agree
    cases lacked : lacking item.capabilities requiredModelCapabilities with
    | error err =>
        constructor
        · intro is
          cases is
        · intro same
          cases same.2
    | ok _ => exact ⟨fun _ => ⟨agree, rfl⟩, fun _ => rfl⟩

/-- The loop accepts an inventory exactly where its first entry of the name is accepted. -/
theorem judgeModels_ready : judgeModels pin models = .ok true ↔ Exact pin models := by
  induction models with
  | nil =>
      constructor
      · intro is
        cases is
      · rintro ⟨before, item, after, is, _⟩
        cases before <;> cases is
  | cons first rest ih =>
      unfold judgeModels
      split
      · rename_i named
        rw [judgeItem_ready]
        constructor
        · rintro ⟨same, capable⟩
          exact ⟨[], first, rest, rfl, by simp, named, same, capable⟩
        · rintro ⟨before, item, after, is, others, _, same, capable⟩
          cases before with
          | nil =>
              cases is
              exact ⟨same, capable⟩
          | cons other before =>
              cases is
              exact absurd named (others first List.mem_cons_self)
      · rename_i unnamed
        rw [ih]
        constructor
        · rintro ⟨before, item, after, rfl, others, found⟩
          refine ⟨first :: before, item, after, rfl, ?_, found⟩
          rw [List.forall_mem_cons]
          exact ⟨unnamed, others⟩
        · rintro ⟨before, item, after, is, others, named, found⟩
          cases before with
          | nil =>
              cases is
              exact absurd named unnamed
          | cons other before =>
              cases is
              rw [List.forall_mem_cons] at others
              exact ⟨before, item, after, rfl, others.2, named, found⟩

/-- `exactModelReady` answers `true` only from an inventory that shows the pinned model. -/
theorem judge_ready {answer : Except String Listing} :
    judge pin answer = .ok true ↔ ∃ listing, answer = .ok listing ∧ listing.Shows pin := by
  cases answer with
  | error err =>
      constructor
      · intro is
        cases is
      · rintro ⟨_, is, _⟩
        cases is
  | ok listing =>
      have shows : (∃ listing', Except.ok (ε := String) listing = .ok listing' ∧
          listing'.Shows pin) ↔ listing.Shows pin :=
        ⟨fun ⟨_, is, shown⟩ => by cases is; exact shown, fun shown => ⟨listing, rfl, shown⟩⟩
      rw [shows]
      unfold judge Listing.Shows
      dsimp only
      split
      · rename_i success
        cases listing.inventory with
        | none => simp [success]
        | some models => simp [success, judgeModels_ready]
      · rename_i failure
        simp [failure]

example : judge ⟨"registry.example/model:v1", "sha256:" ++ String.ofList (List.replicate 64 'a')⟩
    (.ok ⟨200, some [⟨"", "registry.example/model:v1", String.ofList (List.replicate 64 'a'),
      ["tools", "vision", "completion"]⟩]⟩) = .ok true := by
  decide +kernel

end KestrelRunpod.Supervisor
