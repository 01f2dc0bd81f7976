import KestrelRunpod.ControlPlane.Resources

/-!
# Redacted payloads

`sanitize_resource_payload` over every value that a payload can hold: scalars, mappings, lists
and tuples in any nesting.

`Alike` is the relation of two payloads that differ in nothing but scalars beneath a key that
hides its value, and `covered` says of a payload that none of these scalars is copied.  The two
rules of the code treat containers differently: a credential key hides whatever is below it, an
environment key only the mappings that are reached from it through lists and tuples.
-/

namespace KestrelRunpod.ControlPlane

open Numeric
open Traverse (except_bind_ok)
open Serverless (Json Exn refuse_bind_ok)

/-! ## Payloads -/

/-- A value that is no container. -/
inductive Scalar
  | null
  | bool (b : Bool)
  | int (n : Int)
  | float (x : Number)
  | str (s : String)
  deriving DecidableEq, Repr

/-- Another scalar. -/
def Scalar.other : Scalar → Scalar
  | .null => .bool true
  | _ => .null

theorem Scalar.ne_other (s : Scalar) : s ≠ s.other := by
  cases s <;> exact Scalar.noConfusion

/-- A value of a payload.  The entries of a mapping are listed by key, as two dicts of the same
entries are equal whatever order these came in. -/
inductive Value
  | scalar (s : Scalar)
  | mapping (entries : List (String × Value))
  | list (items : List Value)
  | tuple (items : List Value)

namespace Value

/-- A mapping's entries. -/
abbrev Entries := List (String × Value)

/-! ## Sanitizing -/

def redacted : Value := .scalar (.str "[REDACTED]")

/-- `normalized == "env"`. -/
def isEnvironment (key : String) : Bool := normalized key = "env"

mutual

/-- `_sanitize_resource_value`. -/
def sanitizeResourceValue (key : String) : Value → Value
  | .scalar s => if isCredential key then redacted else .scalar s
  | .mapping entries =>
      if isEnvironment key then .mapping (entries.map fun entry => (entry.1, redacted))
      else if isCredential key then redacted
      else .mapping (sanitizeResourcePayload entries)
  | .list items => if isCredential key then redacted else .list (sanitizeItems key items)
  | .tuple items => if isCredential key then redacted else .tuple (sanitizeItems key items)

/-- `sanitize_resource_payload`. -/
def sanitizeResourcePayload : List (String × Value) → List (String × Value)
  | [] => []
  | entry :: entries => sanitizeEntry entry :: sanitizeResourcePayload entries

def sanitizeEntry : String × Value → String × Value
  | (key, item) => (key, sanitizeResourceValue key item)

def sanitizeItems (key : String) : List Value → List Value
  | [] => []
  | item :: items => sanitizeResourceValue key item :: sanitizeItems key items

end

/-- A credential key is no environment key. -/
theorem not_environment {key : String} (credential : isCredential key = true) :
    isEnvironment key = false := by
  apply decide_eq_false
  intro env
  unfold isCredential at credential
  rw [env] at credential
  exact absurd credential (by decide)

/-- What a credential key holds is replaced. -/
theorem sanitizeResourceValue_credential {key : String} (credential : isCredential key = true)
    (value : Value) : sanitizeResourceValue key value = redacted := by
  cases value <;>
    simp only [sanitizeResourceValue, credential, not_environment credential, if_true,
      Bool.false_eq_true, if_false]

/-! ## Idempotence -/

theorem sanitizeResourceValue_idem_credential {key : String}
    (credential : isCredential key = true) (value : Value) :
    sanitizeResourceValue key (sanitizeResourceValue key value) =
      sanitizeResourceValue key value := by
  rw [sanitizeResourceValue_credential credential value]
  exact sanitizeResourceValue_credential credential redacted

mutual

theorem sanitizeResourceValue_idem (key : String) : ∀ value : Value,
    sanitizeResourceValue key (sanitizeResourceValue key value) = sanitizeResourceValue key value
  | .scalar s => by
      by_cases credential : isCredential key = true
      · exact sanitizeResourceValue_idem_credential credential _
      · simp only [sanitizeResourceValue, credential, Bool.false_eq_true, if_false]
  | .mapping entries => by
      by_cases credential : isCredential key = true
      · exact sanitizeResourceValue_idem_credential credential _
      · by_cases environment : isEnvironment key = true
        · simp only [sanitizeResourceValue, environment, if_true, List.map_map, Function.comp_def]
        · simp only [sanitizeResourceValue, environment, credential, Bool.false_eq_true, if_false,
            sanitizeResourcePayload_idem entries]
  | .list items => by
      by_cases credential : isCredential key = true
      · exact sanitizeResourceValue_idem_credential credential _
      · simp only [sanitizeResourceValue, credential, Bool.false_eq_true, if_false,
          sanitizeItems_idem key items]
  | .tuple items => by
      by_cases credential : isCredential key = true
      · exact sanitizeResourceValue_idem_credential credential _
      · simp only [sanitizeResourceValue, credential, Bool.false_eq_true, if_false,
          sanitizeItems_idem key items]

/-- A sanitized payload is left as it is. -/
theorem sanitizeResourcePayload_idem : ∀ entries : Entries,
    sanitizeResourcePayload (sanitizeResourcePayload entries) = sanitizeResourcePayload entries
  | [] => by simp only [sanitizeResourcePayload]
  | entry :: entries => by
      simp only [sanitizeResourcePayload, sanitizeEntry_idem entry,
        sanitizeResourcePayload_idem entries]

theorem sanitizeEntry_idem : ∀ entry : String × Value,
    sanitizeEntry (sanitizeEntry entry) = sanitizeEntry entry
  | (key, item) => by simp only [sanitizeEntry, sanitizeResourceValue_idem key item]

theorem sanitizeItems_idem (key : String) : ∀ items : List Value,
    sanitizeItems key (sanitizeItems key items) = sanitizeItems key items
  | [] => by simp only [sanitizeItems]
  | item :: items => by
      simp only [sanitizeItems, sanitizeResourceValue_idem key item, sanitizeItems_idem key items]

end

/-! ## Payloads that differ in hidden scalars -/

/-- The keys that hide their values. -/
def hides (key : String) : Bool := isEnvironment key || isCredential key

mutual

/-- Two values of one shape and the same keys, equal but for the scalars beneath a key that
hides; `hidden` when there is such a key above the values themselves. -/
inductive Alike : Bool → Value → Value → Prop
  | same (hidden : Bool) (s : Scalar) : Alike hidden (.scalar s) (.scalar s)
  | differ (s t : Scalar) : Alike true (.scalar s) (.scalar t)
  | mapping {hidden : Bool} {xs ys : List (String × Value)} :
    AlikeEntries hidden xs ys → Alike hidden (.mapping xs) (.mapping ys)
  | list {hidden : Bool} {xs ys : List Value} :
    AlikeItems hidden xs ys → Alike hidden (.list xs) (.list ys)
  | tuple {hidden : Bool} {xs ys : List Value} :
    AlikeItems hidden xs ys → Alike hidden (.tuple xs) (.tuple ys)

inductive AlikeEntries : Bool → List (String × Value) → List (String × Value) → Prop
  | nil (hidden : Bool) : AlikeEntries hidden [] []
  | cons {hidden : Bool} {key : String} {x y : Value} {xs ys : List (String × Value)} :
    Alike (hidden || hides key) x y → AlikeEntries hidden xs ys →
    AlikeEntries hidden ((key, x) :: xs) ((key, y) :: ys)

inductive AlikeItems : Bool → List Value → List Value → Prop
  | nil (hidden : Bool) : AlikeItems hidden [] []
  | cons {hidden : Bool} {x y : Value} {xs ys : List Value} :
    Alike hidden x y → AlikeItems hidden xs ys → AlikeItems hidden (x :: xs) (y :: ys)

end

section
variable {hidden : Bool} {key : String}

theorem Alike.of_scalar {s : Scalar} {y : Value} (alike : Alike false (.scalar s) y) :
    y = .scalar s := by
  cases alike
  rfl

theorem Alike.of_mapping {xs : Entries} {y : Value} (alike : Alike hidden (.mapping xs) y) :
    ∃ ys, y = .mapping ys ∧ AlikeEntries hidden xs ys := by
  cases alike with
  | mapping entries => exact ⟨_, rfl, entries⟩

theorem Alike.of_list {xs : List Value} {y : Value} (alike : Alike hidden (.list xs) y) :
    ∃ ys, y = .list ys ∧ AlikeItems hidden xs ys := by
  cases alike with
  | list items => exact ⟨_, rfl, items⟩

theorem Alike.of_tuple {xs : List Value} {y : Value} (alike : Alike hidden (.tuple xs) y) :
    ∃ ys, y = .tuple ys ∧ AlikeItems hidden xs ys := by
  cases alike with
  | tuple items => exact ⟨_, rfl, items⟩

theorem AlikeEntries.of_cons {x : Value} {xs ys : Entries}
    (alike : AlikeEntries hidden ((key, x) :: xs) ys) :
    ∃ y rest, ys = (key, y) :: rest ∧ Alike (hidden || hides key) x y ∧
      AlikeEntries hidden xs rest := by
  cases alike with
  | cons head tail => exact ⟨_, _, rfl, head, tail⟩

theorem AlikeItems.of_cons {x : Value} {xs ys : List Value}
    (alike : AlikeItems hidden (x :: xs) ys) :
    ∃ y rest, ys = y :: rest ∧ Alike hidden x y ∧ AlikeItems hidden xs rest := by
  cases alike with
  | cons head tail => exact ⟨_, _, rfl, head, tail⟩

/-- Alike mappings have the same keys. -/
theorem AlikeEntries.keys {xs : Entries} : ∀ {ys : Entries}, AlikeEntries hidden xs ys →
    xs.map (fun entry => (entry.1, redacted)) = ys.map fun entry => (entry.1, redacted) := by
  induction xs with
  | nil =>
      intro ys alike
      cases alike
      rfl
  | cons entry xs ih =>
      intro ys alike
      obtain ⟨y, rest, rfl, -, tail⟩ := alike.of_cons
      rw [List.map_cons, List.map_cons, ih tail]

end

mutual

/-- No scalar is reached from an environment key, this one or one further below, through nothing
but lists and tuples. -/
def covered (key : String) : Value → Bool
  | .scalar _ => !isEnvironment key
  | .mapping entries => hides key || coveredPayload entries
  | .list items => isCredential key || coveredItems key items
  | .tuple items => isCredential key || coveredItems key items

def coveredPayload : List (String × Value) → Bool
  | [] => true
  | entry :: entries => coveredEntry entry && coveredPayload entries

def coveredEntry : String × Value → Bool
  | (key, item) => covered key item

def coveredItems (key : String) : List Value → Bool
  | [] => true
  | item :: items => covered key item && coveredItems key items

end

theorem hides_of_credential {key : String} (credential : isCredential key = true) :
    hides key = true := by
  rw [hides, credential, Bool.or_true]

theorem hides_of_environment {key : String} (environment : isEnvironment key = true) :
    hides key = true := by
  rw [hides, environment, Bool.true_or]

theorem hides_eq_false {key : String} (credential : ¬ isCredential key = true)
    (environment : ¬ isEnvironment key = true) : hides key = false := by
  rw [hides, Bool.eq_false_iff.mpr credential, Bool.eq_false_iff.mpr environment, Bool.or_false]

mutual

/-- A covered value determines what its alikes are sanitized to. -/
theorem Alike.sanitize (key : String) : ∀ x y : Value, Alike (hides key) x y →
    covered key x = true → sanitizeResourceValue key x = sanitizeResourceValue key y
  | .scalar s => by
      intro y alike cover
      by_cases credential : isCredential key = true
      · rw [sanitizeResourceValue_credential credential, sanitizeResourceValue_credential credential]
      · -- the key is not an environment either, so the scalars are the same
        have environment : ¬ isEnvironment key = true := by
          intro environment
          rw [covered, environment] at cover
          exact Bool.false_ne_true cover
        rw [hides_eq_false credential environment] at alike
        rw [alike.of_scalar]
  | .mapping entries => by
      intro y alike cover
      obtain ⟨others, rfl, within⟩ := alike.of_mapping
      by_cases credential : isCredential key = true
      · rw [sanitizeResourceValue_credential credential, sanitizeResourceValue_credential credential]
      · by_cases environment : isEnvironment key = true
        · simp only [sanitizeResourceValue, environment, if_true, within.keys]
        · rw [hides_eq_false credential environment] at within
          rw [covered, hides_eq_false credential environment, Bool.false_or] at cover
          simp only [sanitizeResourceValue, environment, credential, Bool.false_eq_true,
            if_false, AlikeEntries.sanitize entries others within cover]
  | .list items => by
      intro y alike cover
      obtain ⟨others, rfl, within⟩ := alike.of_list
      by_cases credential : isCredential key = true
      · rw [sanitizeResourceValue_credential credential, sanitizeResourceValue_credential credential]
      · rw [covered, Bool.eq_false_iff.mpr credential, Bool.false_or] at cover
        simp only [sanitizeResourceValue, credential, Bool.false_eq_true, if_false,
          AlikeItems.sanitize key items others within cover]
  | .tuple items => by
      intro y alike cover
      obtain ⟨others, rfl, within⟩ := alike.of_tuple
      by_cases credential : isCredential key = true
      · rw [sanitizeResourceValue_credential credential, sanitizeResourceValue_credential credential]
      · rw [covered, Bool.eq_false_iff.mpr credential, Bool.false_or] at cover
        simp only [sanitizeResourceValue, credential, Bool.false_eq_true, if_false,
          AlikeItems.sanitize key items others within cover]

theorem AlikeEntries.sanitize : ∀ xs ys : Entries, AlikeEntries false xs ys →
    coveredPayload xs = true → sanitizeResourcePayload xs = sanitizeResourcePayload ys
  | [], ys, alike, _ => by
      cases alike
      rfl
  | entry :: xs, ys, alike, cover => by
      rw [coveredPayload, Bool.and_eq_true] at cover
      obtain ⟨entryCover, restCover⟩ := cover
      obtain ⟨other, rest, rfl, head, tail⟩ := alike.of_cons
      simp only [sanitizeResourcePayload, AlikeEntries.sanitize xs rest tail restCover,
        Alike.sanitizeEntry entry other head entryCover]

theorem Alike.sanitizeEntry : ∀ (entry : String × Value) (y : Value),
    Alike (false || hides entry.1) entry.2 y → coveredEntry entry = true →
      sanitizeEntry entry = sanitizeEntry (entry.1, y)
  | (key, x), y, alike, cover => by
      simp only [sanitizeEntry, Alike.sanitize key x y alike cover]

theorem AlikeItems.sanitize (key : String) : ∀ xs ys : List Value, AlikeItems (hides key) xs ys →
    coveredItems key xs = true → sanitizeItems key xs = sanitizeItems key ys
  | [], ys, alike, _ => by
      cases alike
      rfl
  | x :: xs, ys, alike, cover => by
      rw [coveredItems, Bool.and_eq_true] at cover
      obtain ⟨itemCover, restCover⟩ := cover
      obtain ⟨y, rest, rfl, head, tail⟩ := alike.of_cons
      simp only [sanitizeItems, Alike.sanitize key x y head itemCover,
        AlikeItems.sanitize key xs rest tail restCover]

end

mutual

/-- The value with another scalar wherever a scalar is hidden. -/
def altered (hidden : Bool) : Value → Value
  | .scalar s => .scalar (if hidden then s.other else s)
  | .mapping entries => .mapping (alteredEntries hidden entries)
  | .list items => .list (alteredItems hidden items)
  | .tuple items => .tuple (alteredItems hidden items)

def alteredEntries (hidden : Bool) : List (String × Value) → List (String × Value)
  | [] => []
  | entry :: entries => alteredEntry hidden entry :: alteredEntries hidden entries

def alteredEntry (hidden : Bool) : String × Value → String × Value
  | (key, item) => (key, altered (hidden || hides key) item)

def alteredItems (hidden : Bool) : List Value → List Value
  | [] => []
  | item :: items => altered hidden item :: alteredItems hidden items

end

mutual

theorem alike_altered (hidden : Bool) : ∀ x : Value, Alike hidden x (altered hidden x)
  | .scalar s => by
      rw [altered]
      cases hidden with
      | false => exact .same false s
      | true => exact .differ s s.other
  | .mapping entries => by
      rw [altered]
      exact .mapping (alikeEntries_altered hidden entries)
  | .list items => by
      rw [altered]
      exact .list (alikeItems_altered hidden items)
  | .tuple items => by
      rw [altered]
      exact .tuple (alikeItems_altered hidden items)

theorem alikeEntries_altered (hidden : Bool) : ∀ xs : Entries,
    AlikeEntries hidden xs (alteredEntries hidden xs)
  | [] => by
      rw [alteredEntries]
      exact .nil hidden
  | entry :: xs => by
      rw [alteredEntries]
      exact alike_alteredEntry hidden entry (alikeEntries_altered hidden xs)

theorem alike_alteredEntry (hidden : Bool) {xs ys : Entries} : ∀ entry : String × Value,
    AlikeEntries hidden xs ys →
      AlikeEntries hidden (entry :: xs) (alteredEntry hidden entry :: ys)
  | (key, x), tail => by
      rw [alteredEntry]
      exact .cons (alike_altered (hidden || hides key) x) tail

theorem alikeItems_altered (hidden : Bool) : ∀ xs : List Value,
    AlikeItems hidden xs (alteredItems hidden xs)
  | [] => by
      rw [alteredItems]
      exact .nil hidden
  | x :: xs => by
      rw [alteredItems]
      exact .cons (alike_altered hidden x) (alikeItems_altered hidden xs)

end

mutual

/-- A value whose hidden scalars do not show in the sanitized copy is covered. -/
theorem covered_of_altered (key : String) : ∀ x : Value,
    sanitizeResourceValue key x = sanitizeResourceValue key (altered (hides key) x) →
      covered key x = true
  | .scalar s => by
      intro same
      rw [covered, Bool.not_eq_true', Bool.eq_false_iff]
      intro environment
      have credential : isCredential key = false :=
        Bool.eq_false_iff.mpr fun credential => by
          rw [not_environment credential] at environment
          exact Bool.false_ne_true environment
      simp only [altered, sanitizeResourceValue, hides_of_environment environment, credential,
        if_true, Bool.false_eq_true, if_false] at same
      exact s.ne_other (Value.scalar.inj same)
  | .mapping entries => by
      intro same
      rw [covered]
      by_cases environment : isEnvironment key = true
      · rw [hides_of_environment environment, Bool.true_or]
      · by_cases credential : isCredential key = true
        · rw [hides_of_credential credential, Bool.true_or]
        · simp only [altered, sanitizeResourceValue, hides_eq_false credential environment,
            credential, environment, Bool.false_eq_true, if_false] at same
          rw [coveredPayload_of_altered entries (Value.mapping.inj same), Bool.or_true]
  | .list items => by
      intro same
      rw [covered]
      by_cases credential : isCredential key = true
      · rw [credential, Bool.true_or]
      · simp only [altered, sanitizeResourceValue, credential, Bool.false_eq_true, if_false]
          at same
        rw [coveredItems_of_altered key items (Value.list.inj same), Bool.or_true]
  | .tuple items => by
      intro same
      rw [covered]
      by_cases credential : isCredential key = true
      · rw [credential, Bool.true_or]
      · simp only [altered, sanitizeResourceValue, credential, Bool.false_eq_true, if_false]
          at same
        rw [coveredItems_of_altered key items (Value.tuple.inj same), Bool.or_true]

theorem coveredPayload_of_altered : ∀ xs : Entries,
    sanitizeResourcePayload xs = sanitizeResourcePayload (alteredEntries false xs) →
      coveredPayload xs = true
  | [], _ => by rw [coveredPayload]
  | entry :: xs, same => by
      simp only [alteredEntries, sanitizeResourcePayload] at same
      obtain ⟨head, tail⟩ := List.cons.inj same
      rw [coveredPayload, coveredEntry_of_altered entry head, coveredPayload_of_altered xs tail,
        Bool.and_true]

theorem coveredEntry_of_altered : ∀ entry : String × Value,
    sanitizeEntry entry = sanitizeEntry (alteredEntry false entry) → coveredEntry entry = true
  | (key, x), same => by
      simp only [alteredEntry, sanitizeEntry, Bool.false_or] at same
      rw [coveredEntry, covered_of_altered key x (Prod.mk.inj same).2]

theorem coveredItems_of_altered (key : String) : ∀ xs : List Value,
    sanitizeItems key xs = sanitizeItems key (alteredItems (hides key) xs) →
      coveredItems key xs = true
  | [], _ => by rw [coveredItems]
  | x :: xs, same => by
      simp only [alteredItems, sanitizeItems] at same
      obtain ⟨head, tail⟩ := List.cons.inj same
      rw [coveredItems, covered_of_altered key x head, coveredItems_of_altered key xs tail,
        Bool.and_true]

end

/-- The sanitized copy of a payload is the copy of all its alikes, and is left as it is by
sanitizing it again, exactly when no scalar stands under an environment key, directly or in
lists and tuples. -/
theorem sanitized_reveals_nothing_iff (payload : Entries) :
    ((∀ other, AlikeEntries false payload other →
        sanitizeResourcePayload payload = sanitizeResourcePayload other) ∧
      sanitizeResourcePayload (sanitizeResourcePayload payload) =
        sanitizeResourcePayload payload) ↔
      coveredPayload payload = true := by
  constructor
  · intro ⟨same, _⟩
    exact coveredPayload_of_altered payload (same _ (alikeEntries_altered false payload))
  · intro cover
    have same : ∀ other, AlikeEntries false payload other →
        sanitizeResourcePayload payload = sanitizeResourcePayload other :=
      fun other alike => AlikeEntries.sanitize payload other alike cover
    exact ⟨same, sanitizeResourcePayload_idem payload⟩

/-- The variables of an environment that is given as a list are copied. -/
theorem environment_list_copied :
    ¬ ∀ payload other : Entries, AlikeEntries false payload other →
      sanitizeResourcePayload payload = sanitizeResourcePayload other := by
  intro always
  have same := always [("env", .list [.scalar (.str "API_TOKEN=abc")])]
    [("env", .list [.scalar (.str "API_TOKEN=xyz")])]
    (.cons (.list (.cons (.differ _ _) (.nil _))) (.nil _))
  have kept : isCredential "env" = false := by decide
  simp only [sanitizeResourcePayload, sanitizeEntry, sanitizeResourceValue, sanitizeItems, kept,
    Bool.false_eq_true, if_false] at same
  exact absurd same (by simp)

/-! ## Payloads that were decoded from JSON -/

mutual

/-- A JSON value as a value of a payload. -/
def ofJson : Json → Value
  | .null => .scalar .null
  | .bool b => .scalar (.bool b)
  | .int n => .scalar (.int n)
  | .float x => .scalar (.float x)
  | .str s => .scalar (.str s)
  | .arr items => .list (ofItems items)
  | .obj fields => .mapping (ofFields fields)

def ofItems : List Json → List Value
  | [] => []
  | item :: items => ofJson item :: ofItems items

def ofFields : List (String × Json) → List (String × Value)
  | [] => []
  | field :: fields => ofField field :: ofFields fields

def ofField : String × Json → String × Value
  | (key, item) => (key, ofJson item)

end

theorem ofJson_redacted : ofJson ControlPlane.redacted = redacted := rfl

theorem ofFields_redacted (fields : Fields) :
    ofFields (fields.map fun field => (field.1, ControlPlane.redacted)) =
      (ofFields fields).map fun entry => (entry.1, redacted) := by
  induction fields with
  | nil => rfl
  | cons field fields ih =>
      obtain ⟨key, item⟩ := field
      rw [List.map_cons, ofFields, ofFields, List.map_cons, ih]
      rfl

mutual

/-- Sanitizing a JSON value is sanitizing it as a value of a payload. -/
theorem sanitizeResourceValue_ofJson (key : String) : ∀ value : Json,
    sanitizeResourceValue key (ofJson value) =
      ofJson (ControlPlane.sanitizeResourceValue key value)
  | .null | .bool _ | .int _ | .float _ | .str _ => by
      simp only [ofJson, sanitizeResourceValue, ControlPlane.sanitizeResourceValue]
      split <;> rfl
  | .arr items => by
      simp only [ofJson, sanitizeResourceValue, ControlPlane.sanitizeResourceValue,
        sanitizeItems_ofItems key items]
      split <;> rfl
  | .obj fields => by
      simp only [ofJson, sanitizeResourceValue, ControlPlane.sanitizeResourceValue,
        sanitizeResourcePayload_ofFields fields, ← ofFields_redacted, isEnvironment,
        decide_eq_true_eq]
      split
      · rfl
      · split <;> rfl

theorem sanitizeItems_ofItems (key : String) : ∀ items : List Json,
    sanitizeItems key (ofItems items) = ofItems (ControlPlane.sanitizeItems key items)
  | [] => by simp only [ofItems, sanitizeItems, ControlPlane.sanitizeItems]
  | item :: items => by
      simp only [ofItems, sanitizeItems, ControlPlane.sanitizeItems,
        sanitizeResourceValue_ofJson key item, sanitizeItems_ofItems key items]

theorem sanitizeResourcePayload_ofFields : ∀ fields : Fields,
    sanitizeResourcePayload (ofFields fields) =
      ofFields (ControlPlane.sanitizeResourcePayload fields)
  | [] => by simp only [ofFields, sanitizeResourcePayload, ControlPlane.sanitizeResourcePayload]
  | field :: fields => by
      simp only [ofFields, sanitizeResourcePayload, ControlPlane.sanitizeResourcePayload,
        sanitizeEntry_ofField field, sanitizeResourcePayload_ofFields fields]

theorem sanitizeEntry_ofField : ∀ field : String × Json,
    sanitizeEntry (ofField field) = ofField (ControlPlane.sanitizeField field)
  | (key, item) => by
      simp only [ofField, sanitizeEntry, ControlPlane.sanitizeField,
        sanitizeResourceValue_ofJson key item]

end

end Value

/-- A Pod keeps the sanitized copy of what it was read from. -/
theorem PodResource.raw_of_fromDict {value : Fields} {pod : PodResource}
    (read : PodResource.fromDict value = .ok pod) : pod.raw = sanitizeResourcePayload value := by
  unfold PodResource.fromDict at read
  obtain ⟨gpu, -, read⟩ := except_bind_ok.mp read
  dsimp only at read
  split at read
  · cases read
  obtain ⟨cost, -, read⟩ := except_bind_ok.mp read
  obtain ⟨-, read⟩ := refuse_bind_ok.mp read
  obtain ⟨id, -, read⟩ := except_bind_ok.mp read
  obtain ⟨name, -, read⟩ := except_bind_ok.mp read
  obtain ⟨status, -, read⟩ := except_bind_ok.mp read
  obtain ⟨gpuId, -, read⟩ := except_bind_ok.mp read
  obtain ⟨gpuCount, -, read⟩ := except_bind_ok.mp read
  rw [← Except.ok.inj read]

/-- Two covered payloads that differ in hidden scalars leave Pods of one raw copy. -/
theorem PodResource.raw_alike {value other : Fields} {pod pod' : PodResource}
    (read : PodResource.fromDict value = .ok pod) (read' : PodResource.fromDict other = .ok pod')
    (alike : Value.AlikeEntries false (Value.ofFields value) (Value.ofFields other))
    (cover : Value.coveredPayload (Value.ofFields value) = true) :
    Value.ofFields pod.raw = Value.ofFields pod'.raw := by
  rw [raw_of_fromDict read, raw_of_fromDict read', ← Value.sanitizeResourcePayload_ofFields,
    ← Value.sanitizeResourcePayload_ofFields]
  exact Value.AlikeEntries.sanitize _ _ alike cover

end KestrelRunpod.ControlPlane
