import KestrelRunpod.Cpu.Environment
import KestrelRunpod.ControlPlane.Resources

/-!
# CPU readiness

The inspection of a realized CPU Pod against its plan.  A readback says of each placement fact
that it is absent, that it is as planned, or that it contradicts the plan.  The inspection
judges the whole placement before it calls anything unknown, but it reads the rate only of a
Pod whose placement is complete and which runs: a rate above the admitted one is not seen
before (`RateHidden`).
-/

namespace KestrelRunpod.Cpu

open Numeric
open Serverless (Json)
open ControlPlane (Fields PodResource)

/-- The exceptions of the inspection; two carry the Pod that they are about. -/
inductive Refusal
  | unsupported (message : String)
  | mismatch (podId : String)
  | unknown (podId : String)
  deriving DecidableEq, Repr

/-- The phase of an observation. -/
inductive Phase
  | pending
  | running
  deriving DecidableEq, Repr

/-- `CpuPodObservation`. -/
structure CpuPodObservation where
  podId : String
  requestSha256 : String
  observedAt : Instant
  phase : Phase
  startedAt : Option Instant
  computeHourlyUsd : Option ℚ
  deriving DecidableEq

/-! ## Readings -/

/-- What a readback says of one fact of the placement. -/
inductive Reading
  | absent
  | same
  | contradicts
  deriving DecidableEq, Repr

/-- `name in fields`. -/
def has (fields : Fields) (name : String) : Bool := fields.any fun field => field.1 = name

/-- `observed == text`. -/
def isText (text : String) : Json → Bool
  | .str s => s = text
  | _ => false

/-- `observed == n`, and its type is `int`. -/
def isCount (n : Int) : Json → Bool
  | .int m => m = n
  | _ => false

def isEmptyList : Json → Bool
  | .arr items => items.isEmpty
  | _ => false

def isEmptyMapping : Json → Bool
  | .obj fields => fields.isEmpty
  | _ => false

def isNone : Json → Bool
  | .null => true
  | _ => false

def isFalse : Json → Bool
  | .bool b => !b
  | _ => false

def judge (agrees : Bool) : Reading := if agrees then .same else .contradicts

/-- A fact that is missing while its value is `None`. -/
def nullable (planned : Json → Bool) : Json → Reading
  | .null => .absent
  | value => judge (planned value)

/-- A fact that is missing without its key, and whose `None` is a value. -/
def keyed (planned : Json → Bool) (fields : Fields) (name : String) : Reading :=
  if has fields name then judge (planned (Json.get fields name)) else .absent

/-- A field that may be left out. -/
def optional (planned : Json → Bool) (fields : Fields) (name : String) : Reading :=
  if has fields name then judge (planned (Json.get fields name)) else .same

/-! ## The placement -/

section

variable (sdk : Sdk) (plan : CpuEnvironmentAcquisitionPlan)

/-- `expected`. -/
def expectedFacts : List (String × (Json → Bool)) :=
  [("name", isText ("kestrel-cpu-" ++
      String.ofList ((sdk.requestDigest plan.request).toList.take 32))),
    ("image", isText plan.profile.image),
    ("cloud", isText "SECURE"),
    ("disk", isCount plan.profile.diskGb),
    ("dataCenterId", isText plan.profile.dataCenterId)]

/-- `empty`: the empty create intent. -/
def emptyFacts : List (String × (Json → Bool)) :=
  [("ports", isEmptyList), ("env", isEmptyMapping), ("mounts", isEmptyMapping),
    ("args", isText ""), ("registry", isNone), ("locked", isFalse), ("template", isNone)]

/-- `int(value)`. -/
def truncate (value : Decimal) : Int := value.value.num.tdiv value.value.den

/-- The facts of `cpu`. -/
def cpuFacts : List (String × (Json → Bool)) :=
  [("id", isText plan.profile.cpuId),
    ("vcpuCount", isCount plan.profile.vcpuCount),
    ("memory", isCount (truncate plan.catalog.ramGb))]

/-- `globalNetworking`. -/
def networkingReading : Json → Reading
  | .null => .absent
  | .obj fields =>
      if has fields "ip" || has fields "internalDns" then .contradicts
      else keyed isFalse fields "enabled"
  | _ => .contradicts

/-- `cpu`. -/
def cpuReadings : Json → List Reading
  | .null => [.absent]
  | .obj fields => (cpuFacts plan).map fun fact => nullable fact.2 (Json.get fields fact.1)
  | _ => [.contradicts]

/-- `status`. -/
def statusReading : Json → Reading :=
  nullable fun status =>
    isText "RUNNING" status || isText "PROVISIONING" status || isText "STARTING" status

/-- What the readback says of the placement, in the order of the inspection. -/
def placement (raw : Fields) : List Reading :=
  (expectedFacts sdk plan).map (fun fact => nullable fact.2 (Json.get raw fact.1)) ++
    (emptyFacts.map (fun fact => keyed fact.2 raw fact.1) ++
      (["cmd", "entrypoint"].map (optional isEmptyList raw) ++
        ([if has raw "gpu" || has raw "cluster" then .contradicts else .same] ++
          ([networkingReading (Json.get raw "globalNetworking")] ++
            (cpuReadings plan (Json.get raw "cpu") ++
              [statusReading (Json.get raw "status")])))))

/-! ## The inspection -/

/-- One fact: a contradiction is raised, a missing one makes the placement unknown. -/
def settle (podId : String) (unknown : Bool) : Reading → Except Refusal Bool
  | .absent => .ok true
  | .same => .ok unknown
  | .contradicts => .error (.mismatch podId)

/-- `Decimal(str(cost))` of a number, when it is finite and positive.  A number that JSON
decoding yields has few enough digits for `str`. -/
def rate : Json → Option ℚ
  | .int n => if 0 < n then some n else none
  | .float x =>
      match x.toDecimal with
      | .finite q => if 0 < q then some q else none
      | _ => none
  | _ => none

/-- `datetime.fromisoformat(raw["startedAt"])`, when it is aware and not before the plan or
after the inspection. -/
def started (fromIsoFormat : String → Option (Option Instant)) (now : Instant) :
    Json → Option Instant
  | .str text =>
      match fromIsoFormat text with
      | some (some start) => if plan.plannedAt ≤ start ∧ start ≤ now then some start else none
      | _ => none
  | _ => none

/-- `deadline`. -/
def CpuEnvironmentAcquisitionPlan.readyDeadline : Instant :=
  min plan.request.expiresAt (plan.plannedAt + seconds plan.request.readyTimeoutSeconds)

/-- `inspect_cpu_readiness`. -/
def inspectCpuReadiness (fromIsoFormat : String → Option (Option Instant)) (pod : PodResource)
    (expectedPodId : String) (time : Option Instant) : Except Refusal CpuPodObservation :=
  match time with
  | none => .error (.unsupported "CPU readiness requires an aware trusted time")
  | some now =>
      if expectedPodId = "" then
        .error (.unsupported "CPU readiness requires original Pod custody")
      else if pod.id ≠ expectedPodId ∨ isText expectedPodId (Json.get pod.raw "id") = false then
        .error (.unknown expectedPodId)
      else if now < plan.plannedAt then .error (.unknown expectedPodId)
      else if plan.readyDeadline ≤ now then .error (.mismatch expectedPodId)
      else do
        let unknown ← (placement sdk plan pod.raw).foldlM (settle expectedPodId) false
        if unknown then .error (.unknown expectedPodId)
        else if isText "PROVISIONING" (Json.get pod.raw "status") ||
            isText "STARTING" (Json.get pod.raw "status") then
          .ok ⟨expectedPodId, sdk.requestDigest plan.request, now, .pending, none, none⟩
        else
          match rate (Json.get pod.raw "cost") with
          | none => .error (.unknown expectedPodId)
          | some hourly =>
              if plan.catalog.computeCostPerHr.value < hourly then
                .error (.mismatch expectedPodId)
              else
                match started plan fromIsoFormat now (Json.get pod.raw "startedAt") with
                | none => .error (.unknown expectedPodId)
                | some start =>
                    .ok ⟨expectedPodId, sdk.requestDigest plan.request, now, .running,
                      some start, some hourly⟩

end

/-! ## What a readback amounts to -/

section

variable (sdk : Sdk) (plan : CpuEnvironmentAcquisitionPlan)
  (fromIsoFormat : String → Option (Option Instant)) (now : Instant) (raw : Fields)

/-- The Pod runs. -/
def Running : Prop := isText "RUNNING" (Json.get raw "status") = true

/-- The readback states a rate above the admitted one. -/
def RateAbove : Prop :=
  ∃ hourly, rate (Json.get raw "cost") = some hourly ∧
    plan.catalog.computeCostPerHr.value < hourly

/-- A field of the readback contradicts the plan. -/
def Contradicted : Prop := .contradicts ∈ placement sdk plan raw ∨ RateAbove plan raw

/-- A fact that the phase of the Pod requires is missing: one of its placement or, once it
runs, its rate or its start. -/
def Missing : Prop :=
  .absent ∈ placement sdk plan raw ∨
    Running raw ∧ (rate (Json.get raw "cost") = none ∨
      started plan fromIsoFormat now (Json.get raw "startedAt") = none)

/-- The facts that the phase requires are present and as planned. -/
structure Matched (phase : Phase) : Prop where
  placed : ∀ reading ∈ placement sdk plan raw, reading = .same
  rated : phase = .running → ∃ hourly, rate (Json.get raw "cost") = some hourly ∧
    hourly ≤ plan.catalog.computeCostPerHr.value
  dated : phase = .running → ∃ start,
    started plan fromIsoFormat now (Json.get raw "startedAt") = some start
  running : phase = .running ↔ Running raw

/-- A contradiction takes precedence over what is missing. -/
structure Precedence (podId : String) (outcome : Except Refusal CpuPodObservation) : Prop where
  mismatch : outcome = .error (.mismatch podId) ↔ Contradicted sdk plan raw
  unknown : outcome = .error (.unknown podId) ↔
    ¬ Contradicted sdk plan raw ∧ Missing sdk plan fromIsoFormat now raw
  reported : ∀ observation, outcome = .ok observation →
    ¬ Contradicted sdk plan raw ∧ Matched sdk plan fromIsoFormat now raw observation.phase

/-- A rate above the admitted one that the inspection does not reach. -/
def RateHidden : Prop :=
  RateAbove plan raw ∧ .contradicts ∉ placement sdk plan raw ∧
    (.absent ∈ placement sdk plan raw ∨ ¬ Running raw)

end

/-- The readback is of the expected Pod, inside the readiness window. -/
structure InWindow (plan : CpuEnvironmentAcquisitionPlan) (pod : PodResource) (podId : String)
    (now : Instant) : Prop where
  custody : podId ≠ ""
  listed : pod.id = podId
  named : Json.get pod.raw "id" = .str podId
  planned : plan.plannedAt ≤ now
  before : now < plan.readyDeadline

theorem foldlM_settle (podId : String) (readings : List Reading) (unknown : Bool) :
    readings.foldlM (settle podId) unknown =
      if .contradicts ∈ readings then .error (.mismatch podId)
      else .ok (unknown || decide (.absent ∈ readings)) := by
  induction readings generalizing unknown with
  | nil => simp [pure, Except.pure]
  | cons reading readings ih =>
      rw [List.foldlM_cons]
      cases reading with
      | absent => simp [settle, bind, Except.bind, ih]
      | same => simp [settle, bind, Except.bind, ih]
      | contradicts => simp [settle, bind, Except.bind]

section

variable {sdk : Sdk} {plan : CpuEnvironmentAcquisitionPlan}
  {fromIsoFormat : String → Option (Option Instant)} {now : Instant} {pod : PodResource}
  {podId : String}

/-- A status that the placement accepts is that of a running Pod, or of a pending one. -/
theorem running_iff_not_pending {status : Json} (accepted : statusReading status = .same) :
    isText "RUNNING" status = true ↔
      (isText "PROVISIONING" status || isText "STARTING" status) = false := by
  cases status with
  | str s =>
      unfold statusReading nullable judge isText at accepted
      unfold isText
      by_cases running : s = "RUNNING"
      · subst running
        decide
      · simpa [running] using accepted
  | _ => cases accepted

theorem status_accepted {raw : Fields} (placed : .contradicts ∉ placement sdk plan raw)
    (complete : .absent ∉ placement sdk plan raw) :
    statusReading (Json.get raw "status") = .same := by
  have listed : statusReading (Json.get raw "status") ∈ placement sdk plan raw := by
    simp [placement]
  cases is : statusReading (Json.get raw "status") with
  | same => rfl
  | absent => exact absurd (is ▸ listed) complete
  | contradicts => exact absurd (is ▸ listed) placed

theorem all_same {readings : List Reading} (placed : .contradicts ∉ readings)
    (complete : .absent ∉ readings) : ∀ reading ∈ readings, reading = .same := by
  intro reading member
  cases reading with
  | same => rfl
  | absent => exact absurd member complete
  | contradicts => exact absurd member placed

/-- Inside the window, the inspection is decided by the placement, then by the phase, then by
the rate and the start. -/
theorem inspectCpuReadiness_eq (window : InWindow plan pod podId now) :
    inspectCpuReadiness sdk plan fromIsoFormat pod podId (some now) =
      if .contradicts ∈ placement sdk plan pod.raw then .error (.mismatch podId)
      else if .absent ∈ placement sdk plan pod.raw then .error (.unknown podId)
      else if isText "PROVISIONING" (Json.get pod.raw "status") ||
          isText "STARTING" (Json.get pod.raw "status") then
        .ok ⟨podId, sdk.requestDigest plan.request, now, .pending, none, none⟩
      else
        match rate (Json.get pod.raw "cost") with
        | none => .error (.unknown podId)
        | some hourly =>
            if plan.catalog.computeCostPerHr.value < hourly then .error (.mismatch podId)
            else
              match started plan fromIsoFormat now (Json.get pod.raw "startedAt") with
              | none => .error (.unknown podId)
              | some start =>
                  .ok ⟨podId, sdk.requestDigest plan.request, now, .running, some start,
                    some hourly⟩ := by
  have named : isText podId (Json.get pod.raw "id") = true := by
    rw [window.named]
    exact decide_eq_true rfl
  unfold inspectCpuReadiness
  dsimp only
  rw [if_neg window.custody, if_neg (by simp [window.listed, named]),
    if_neg (not_lt.mpr window.planned), if_neg (not_le.mpr window.before), foldlM_settle]
  by_cases contradicts : .contradicts ∈ placement sdk plan pod.raw
  · rw [if_pos contradicts, if_pos contradicts]
    rfl
  · rw [if_neg contradicts, if_neg contradicts]
    by_cases absent : .absent ∈ placement sdk plan pod.raw
    · simp [absent, bind, Except.bind]
    · simp only [absent, decide_false, Bool.or_false, bind, Except.bind, if_false,
        Bool.false_eq_true]

/-- Every outcome of an inspection inside the window comes with what the readback states. -/
theorem inspection_cases (window : InWindow plan pod podId now) :
    (inspectCpuReadiness sdk plan fromIsoFormat pod podId (some now) = .error (.mismatch podId) ∧
        Contradicted sdk plan pod.raw ∧ ¬ RateHidden sdk plan pod.raw) ∨
      (inspectCpuReadiness sdk plan fromIsoFormat pod podId (some now) = .error (.unknown podId) ∧
        .contradicts ∉ placement sdk plan pod.raw ∧
        (RateAbove plan pod.raw → .absent ∈ placement sdk plan pod.raw) ∧
        Missing sdk plan fromIsoFormat now pod.raw) ∨
      ∃ observation,
        inspectCpuReadiness sdk plan fromIsoFormat pod podId (some now) = .ok observation ∧
        .contradicts ∉ placement sdk plan pod.raw ∧
        (RateAbove plan pod.raw → ¬ Running pod.raw) ∧
        Matched sdk plan fromIsoFormat now pod.raw observation.phase ∧
        ¬ Missing sdk plan fromIsoFormat now pod.raw := by
  rw [inspectCpuReadiness_eq window]
  by_cases contradicts : .contradicts ∈ placement sdk plan pod.raw
  · rw [if_pos contradicts]
    exact .inl ⟨rfl, .inl contradicts, fun hidden => hidden.2.1 contradicts⟩
  rw [if_neg contradicts]
  by_cases absent : .absent ∈ placement sdk plan pod.raw
  · rw [if_pos absent]
    exact .inr (.inl ⟨rfl, contradicts, fun _ => absent, .inl absent⟩)
  rw [if_neg absent]
  have runs := running_iff_not_pending (status_accepted contradicts absent)
  have placed := all_same contradicts absent
  by_cases running : Running pod.raw
  · rw [if_neg (by rw [runs.mp running]; decide)]
    cases rated : rate (Json.get pod.raw "cost") with
    | none =>
        have unrated : ¬ RateAbove plan pod.raw := by
          unfold RateAbove
          simp [rated]
        exact .inr (.inl ⟨rfl, contradicts, fun is => absurd is unrated,
          .inr ⟨running, .inl rated⟩⟩)
    | some hourly =>
        have above_iff : RateAbove plan pod.raw ↔
            plan.catalog.computeCostPerHr.value < hourly := by
          unfold RateAbove
          simp [rated]
        dsimp only
        by_cases above : plan.catalog.computeCostPerHr.value < hourly
        · rw [if_pos above]
          exact .inl ⟨rfl, .inr (above_iff.mpr above), fun hidden =>
            hidden.2.2.elim absent (fun stopped => stopped running)⟩
        · rw [if_neg above]
          have within : ¬ RateAbove plan pod.raw := fun is => above (above_iff.mp is)
          cases dated : started plan fromIsoFormat now (Json.get pod.raw "startedAt") with
          | none => exact .inr (.inl ⟨rfl, contradicts, fun is => absurd is within,
              .inr ⟨running, .inr dated⟩⟩)
          | some start =>
              have matched : Matched sdk plan fromIsoFormat now pod.raw .running :=
                ⟨placed, fun _ => ⟨hourly, rated, not_lt.mp above⟩, fun _ => ⟨start, dated⟩,
                  ⟨fun _ => running, fun _ => rfl⟩⟩
              have whole : ¬ Missing sdk plan fromIsoFormat now pod.raw := by
                unfold Missing
                simp [absent, rated, dated]
              exact .inr (.inr ⟨_, rfl, contradicts, fun is => absurd is within, matched, whole⟩)
  · rw [if_pos (Bool.not_eq_false _ ▸ fun quiet => running (runs.mpr quiet))]
    have matched : Matched sdk plan fromIsoFormat now pod.raw .pending :=
      ⟨placed, fun is => (nomatch is), fun is => (nomatch is),
        ⟨fun is => (nomatch is), fun is => absurd is running⟩⟩
    have whole : ¬ Missing sdk plan fromIsoFormat now pod.raw := by
      unfold Missing
      simp [absent, running]
    exact .inr (.inr ⟨_, rfl, contradicts, fun _ => running, matched, whole⟩)

/-! ## Facts that are added -/

/-- The second readings keep the contradictions of the first, and miss a fact only if the
first do. -/
structure Persists (before after : List Reading) : Prop where
  contradicts : .contradicts ∈ before → .contradicts ∈ after
  complete : .absent ∉ before → .absent ∉ after

theorem Persists.append {before after before' after' : List Reading}
    (first : Persists before after) (rest : Persists before' after') :
    Persists (before ++ before') (after ++ after') where
  contradicts member := by
    rcases List.mem_append.mp member with one | other
    · exact List.mem_append_left _ (first.contradicts one)
    · exact List.mem_append_right _ (rest.contradicts other)
  complete none := by
    intro member
    rw [List.mem_append, not_or] at none
    rcases List.mem_append.mp member with one | other
    · exact first.complete none.1 one
    · exact rest.complete none.2 other

theorem Persists.map {α : Type} {facts : List α} {f g : α → Reading}
    (each : ∀ fact ∈ facts, Persists [f fact] [g fact]) :
    Persists (facts.map f) (facts.map g) := by
  induction facts with
  | nil => exact ⟨id, id⟩
  | cons fact facts ih =>
      have first := each fact List.mem_cons_self
      exact first.append (ih fun other member => each other (List.mem_cons_of_mem _ member))

theorem Persists.same (reading : Reading) : Persists [reading] [reading] := ⟨id, id⟩

/-- The names whose `None` is a missing fact. -/
def fillable : List String :=
  ["name", "image", "cloud", "disk", "dataCenterId", "globalNetworking", "cpu", "status", "cost",
    "startedAt"]

/-- The field keeps what it states, unless it was missing. -/
def Kept (fill : List String) (before after : Fields) (name : String) : Prop :=
  (Json.get before name = .null ∧ name ∈ fill) ∨
    (has after name = true ∧ Json.get after name = Json.get before name)

/-- The fields of `before` are kept in `after`, which may have more. -/
def Extends (fill : List String) (before after : Fields) : Prop :=
  ∀ name, has before name = true → Kept fill before after name

/-- The readback `after` adds missing facts to `before`: fields, also within `cpu` and
`globalNetworking`, and values where `before` has `None` for a missing one. -/
def Adds (before after : Fields) : Prop :=
  ∀ name, has before name = true →
    Kept fillable before after name ∨
      ∃ inner more, Json.get before name = .obj inner ∧ Json.get after name = .obj more ∧
        has after name = true ∧
        (name = "cpu" ∧ Extends ["id", "vcpuCount", "memory"] inner more ∨
          name = "globalNetworking" ∧ Extends [] inner more)

theorem get_of_not_has {fields : Fields} {name : String} (lacks : has fields name = false) :
    Json.get fields name = .null := by
  have none : fields.find? (fun field => field.1 = name) = none := by
    rw [List.find?_eq_none]
    intro field member is
    exact absurd (List.any_eq_true.mpr ⟨field, member, is⟩) (by
      unfold has at lacks
      rw [lacks]
      decide)
  unfold Json.get
  rw [none]
  rfl

variable {before after : Fields}

/-- A fact that `None` leaves missing keeps what it says. -/
theorem nullable_persists {fill : List String} (planned : Json → Bool) (name : String)
    (kept : has before name = true → Kept fill before after name) :
    Persists [nullable planned (Json.get before name)]
      [nullable planned (Json.get after name)] := by
  cases present : has before name with
  | false =>
      rw [get_of_not_has present]
      exact ⟨fun is => by simp [nullable] at is, fun is => absurd (by simp [nullable]) is⟩
  | true =>
      rcases kept present with ⟨null, _⟩ | ⟨_, same⟩
      · rw [null]
        exact ⟨fun is => by simp [nullable] at is, fun is => absurd (by simp [nullable]) is⟩
      · rw [same]
        exact .same _

/-- A fact of a key that may not be filled keeps what it says. -/
theorem keyed_persists {fill : List String} (planned : Json → Bool) (name : String)
    (fixed : name ∉ fill) (kept : has before name = true → Kept fill before after name) :
    Persists [keyed planned before name] [keyed planned after name] := by
  unfold keyed
  cases present : has before name with
  | false => exact ⟨fun is => by simp at is, fun is => absurd (by simp) is⟩
  | true =>
      rcases kept present with ⟨_, filled⟩ | ⟨still, same⟩
      · exact absurd filled fixed
      · rw [if_pos rfl, if_pos still, same]
        exact .same _

theorem optional_persists {fill : List String} (planned : Json → Bool) (name : String)
    (fixed : name ∉ fill) (kept : has before name = true → Kept fill before after name) :
    Persists [optional planned before name] [optional planned after name] := by
  unfold optional judge
  cases present : has before name with
  | false =>
      refine ⟨fun is => by simp at is, fun _ => ?_⟩
      split
      · split <;> simp
      · simp
  | true =>
      rcases kept present with ⟨_, filled⟩ | ⟨still, same⟩
      · exact absurd filled fixed
      · rw [if_pos rfl, if_pos still, same]
        exact .same _

/-- A field outside `cpu` and `globalNetworking` is kept. -/
theorem Adds.kept (adds : Adds before after) {name : String} (cpu : name ≠ "cpu")
    (networking : name ≠ "globalNetworking") (present : has before name = true) :
    Kept fillable before after name := by
  rcases adds name present with kept | ⟨_, _, _, _, _, ⟨is, _⟩ | ⟨is, _⟩⟩
  · exact kept
  · exact absurd is cpu
  · exact absurd is networking

/-- No key is lost. -/
theorem Adds.keeps_key (adds : Adds before after) {name : String} (fixed : name ∉ fillable)
    (present : has before name = true) : has after name = true := by
  rcases adds name present with (⟨_, filled⟩ | ⟨still, _⟩) | ⟨_, _, _, _, still, _⟩
  · exact absurd filled fixed
  · exact still
  · exact still

theorem Adds.networking (adds : Adds before after) :
    Persists [networkingReading (Json.get before "globalNetworking")]
      [networkingReading (Json.get after "globalNetworking")] := by
  cases present : has before "globalNetworking" with
  | false =>
      rw [get_of_not_has present]
      exact ⟨fun is => by simp [networkingReading] at is,
        fun is => absurd (by simp [networkingReading]) is⟩
  | true =>
      rcases adds _ present with (⟨null, _⟩ | ⟨_, same⟩) | ⟨inner, more, was, now, _, nested⟩
      · rw [null]
        exact ⟨fun is => by simp [networkingReading] at is,
          fun is => absurd (by simp [networkingReading]) is⟩
      · rw [same]
        exact .same _
      · rcases nested with ⟨is, _⟩ | ⟨_, grows⟩
        · exact absurd is (by decide)
        rw [was, now]
        dsimp only [networkingReading]
        have addressed : (has inner "ip" || has inner "internalDns") = true →
            (has more "ip" || has more "internalDns") = true := by
          intro is
          have stays : ∀ name, has inner name = true → has more name = true := by
            intro name there
            rcases grows name there with ⟨_, filled⟩ | ⟨still, _⟩
            · cases filled
            · exact still
          rcases Bool.or_eq_true_iff.mp is with one | other
          · rw [stays _ one, Bool.true_or]
          · rw [stays _ other, Bool.or_true]
        by_cases is : (has inner "ip" || has inner "internalDns") = true
        · rw [if_pos is, if_pos (addressed is)]
          exact .same _
        · rw [if_neg is]
          have enabled := keyed_persists isFalse "enabled" (List.not_mem_nil) (grows "enabled")
          by_cases then' : (has more "ip" || has more "internalDns") = true
          · rw [if_pos then']
            exact ⟨fun _ => List.mem_singleton_self _, fun _ => by simp⟩
          · rw [if_neg then']
            exact enabled

theorem Adds.cpu (adds : Adds before after) : Persists (cpuReadings plan (Json.get before "cpu"))
    (cpuReadings plan (Json.get after "cpu")) := by
  have missing : Persists (cpuReadings plan .null) (cpuReadings plan (Json.get after "cpu")) :=
    ⟨fun is => by simp [cpuReadings] at is, fun is => absurd (by simp [cpuReadings]) is⟩
  cases present : has before "cpu" with
  | false =>
      rw [get_of_not_has present]
      exact missing
  | true =>
      rcases adds _ present with (⟨null, _⟩ | ⟨_, same⟩) | ⟨inner, more, was, now, _, nested⟩
      · rw [null]
        exact missing
      · rw [same]
        exact ⟨id, id⟩
      · rcases nested with ⟨_, grows⟩ | ⟨is, _⟩
        · rw [was, now]
          exact Persists.map fun (fact : String × (Json → Bool)) _ =>
            nullable_persists fact.2 fact.1 (grows fact.1)
        · exact absurd is (by decide)

/-- What is added keeps the contradictions of the placement. -/
theorem Adds.placement (adds : Adds before after) :
    Persists (placement sdk plan before) (placement sdk plan after) := by
  have expected : ∀ fact ∈ expectedFacts sdk plan,
      fact.1 ≠ "cpu" ∧ fact.1 ≠ "globalNetworking" := by
    intro fact member
    simp only [expectedFacts, List.mem_cons, List.not_mem_nil, or_false] at member
    rcases member with rfl | rfl | rfl | rfl | rfl <;> exact ⟨by simp, by simp⟩
  have empty : ∀ fact ∈ emptyFacts, fact.1 ≠ "cpu" ∧ fact.1 ≠ "globalNetworking" ∧
      fact.1 ∉ fillable := by
    intro fact member
    simp only [emptyFacts, List.mem_cons, List.not_mem_nil, or_false] at member
    rcases member with rfl | rfl | rfl | rfl | rfl | rfl | rfl <;>
      exact ⟨by simp, by simp, by simp [fillable]⟩
  have commands : ∀ name ∈ ["cmd", "entrypoint"], name ≠ "cpu" ∧ name ≠ "globalNetworking" ∧
      name ∉ fillable := by decide
  have attached : Persists
      [if has before "gpu" || has before "cluster" then Reading.contradicts else .same]
      [if has after "gpu" || has after "cluster" then Reading.contradicts else .same] := by
    refine ⟨fun is => ?_, fun _ => ?_⟩
    · have there : (has before "gpu" || has before "cluster") = true := by
        by_contra lacks
        rw [if_neg lacks] at is
        simp at is
      rcases Bool.or_eq_true_iff.mp there with gpu | cluster
      · rw [adds.keeps_key (by decide) gpu]
        simp
      · rw [adds.keeps_key (by decide) cluster]
        simp
    · split <;> simp
  unfold Cpu.placement
  refine Persists.append (Persists.map fun fact member => ?_)
    (Persists.append (Persists.map fun fact member => ?_)
      (Persists.append (Persists.map fun name member => ?_)
        (attached.append (adds.networking.append (adds.cpu.append ?_)))))
  · obtain ⟨cpu, networking⟩ := expected fact member
    exact nullable_persists fact.2 fact.1 (adds.kept cpu networking)
  · obtain ⟨cpu, networking, fixed⟩ := empty fact member
    exact keyed_persists fact.2 fact.1 fixed (adds.kept cpu networking)
  · obtain ⟨cpu, networking, fixed⟩ := commands name member
    exact optional_persists isEmptyList name fixed (adds.kept cpu networking)
  · exact nullable_persists _ "status" (adds.kept (by decide) (by decide))

/-- A value that is there is not changed. -/
theorem Adds.get (adds : Adds before after) {name : String} (cpu : name ≠ "cpu")
    (networking : name ≠ "globalNetworking") (given : Json.get before name ≠ .null) :
    Json.get after name = Json.get before name := by
  cases present : has before name with
  | false => exact absurd (get_of_not_has present) given
  | true =>
      rcases adds.kept cpu networking present with ⟨null, _⟩ | ⟨_, same⟩
      · exact absurd null given
      · exact same

/-- A mismatch survives the facts that are added to the readback. -/
def Steady (sdk : Sdk) (plan : CpuEnvironmentAcquisitionPlan)
    (fromIsoFormat : String → Option (Option Instant)) (now : Instant) (podId : String)
    (pod : PodResource) : Prop :=
  ∀ fuller : PodResource, fuller.id = pod.id → Adds pod.raw fuller.raw →
    inspectCpuReadiness sdk plan fromIsoFormat pod podId (some now) = .error (.mismatch podId) →
    inspectCpuReadiness sdk plan fromIsoFormat fuller podId (some now) = .error (.mismatch podId)

theorem mismatch_steady (window : InWindow plan pod podId now) :
    Steady sdk plan fromIsoFormat now podId pod := by
  intro fuller listed adds raised
  have named : Json.get fuller.raw "id" = Json.get pod.raw "id" :=
    adds.get (by decide) (by decide) (by rw [window.named]; exact fun is => by cases is)
  have window' : InWindow plan fuller podId now :=
    ⟨window.custody, listed.trans window.listed, named.trans window.named, window.planned,
      window.before⟩
  have persists : Persists (placement sdk plan pod.raw) (placement sdk plan fuller.raw) :=
    adds.placement
  rw [inspectCpuReadiness_eq window] at raised
  rw [inspectCpuReadiness_eq window']
  by_cases contradicts : .contradicts ∈ placement sdk plan pod.raw
  · rw [if_pos (persists.contradicts contradicts)]
  rw [if_neg contradicts] at raised
  by_cases absent : .absent ∈ placement sdk plan pod.raw
  · rw [if_pos absent] at raised
    cases raised
  rw [if_neg absent] at raised
  by_cases contradicts' : .contradicts ∈ placement sdk plan fuller.raw
  · rw [if_pos contradicts']
  rw [if_neg contradicts', if_neg (persists.complete absent)]
  -- Only the rate is left to contradict the plan, and the rate and the status are kept.
  have status : Json.get fuller.raw "status" = Json.get pod.raw "status" := by
    have accepted := status_accepted contradicts absent
    refine adds.get (by decide) (by decide) fun null => ?_
    rw [null] at accepted
    cases accepted
  rw [status]
  split at raised
  · cases raised
  rw [if_neg ‹_›]
  have cost : rate (Json.get pod.raw "cost") ≠ none → Json.get fuller.raw "cost" =
      Json.get pod.raw "cost" := by
    intro rated
    refine adds.get (by decide) (by decide) fun null => rated ?_
    rw [null]
    rfl
  cases rated : rate (Json.get pod.raw "cost") with
  | none =>
      rw [rated] at raised
      cases raised
  | some hourly =>
      rw [rated] at raised
      rw [cost (by rw [rated]; exact Option.some_ne_none _), rated]
      dsimp only at raised ⊢
      split at raised
      · rw [if_pos ‹_›]
      · split at raised <;> cases raised

/-- Inside the window, what a readback of the expected Pod states decides the inspection as it
should, a contradiction first, exactly when no rate above the admitted one is hidden; and a
mismatch survives whatever facts are added. -/
theorem readiness_precedence_iff (sdk : Sdk) (plan : CpuEnvironmentAcquisitionPlan)
    (fromIsoFormat : String → Option (Option Instant)) (now : Instant) (pod : PodResource)
    (podId : String) (window : InWindow plan pod podId now) :
    (Precedence sdk plan fromIsoFormat now pod.raw podId
        (inspectCpuReadiness sdk plan fromIsoFormat pod podId (some now)) ↔
      ¬ RateHidden sdk plan pod.raw) ∧
    Steady sdk plan fromIsoFormat now podId pod := by
  have cases_ := @inspection_cases sdk plan fromIsoFormat now pod podId window
  refine ⟨⟨fun precedence hidden => ?_, fun seen => ?_⟩, mismatch_steady window⟩
  · have raised := precedence.mismatch.mpr (.inr hidden.1)
    rcases cases_ with
      ⟨_, _, reached⟩ | ⟨unknown, _⟩ | ⟨observation, reported, _⟩
    · exact reached hidden
    · rw [unknown] at raised
      cases raised
    · rw [reported] at raised
      cases raised
  · rcases cases_ with
      ⟨raised, contradicted, _⟩ | ⟨raised, placed, incomplete, missing⟩ |
      ⟨observation, reported, placed, stopped, matched, whole⟩
    · rw [raised]
      exact ⟨⟨fun _ => contradicted, fun _ => rfl⟩,
        ⟨fun is => (nomatch is), fun is => absurd contradicted is.1⟩, fun _ is => (nomatch is)⟩
    · have agrees : ¬ Contradicted sdk plan pod.raw := by
        intro is
        rcases is with contradicts | above
        · exact placed contradicts
        · exact seen ⟨above, placed, .inl (incomplete above)⟩
      rw [raised]
      exact ⟨⟨fun is => (nomatch is), fun is => absurd is agrees⟩,
        ⟨fun _ => ⟨agrees, missing⟩, fun _ => rfl⟩, fun _ is => (nomatch is)⟩
    · have agrees : ¬ Contradicted sdk plan pod.raw := by
        intro is
        rcases is with contradicts | above
        · exact placed contradicts
        · exact seen ⟨above, placed, .inr (stopped above)⟩
      rw [reported]
      exact ⟨⟨fun is => (nomatch is), fun is => absurd is agrees⟩,
        ⟨fun is => (nomatch is), fun is => absurd is.2 whole⟩, fun other is => by
          cases is
          exact ⟨agrees, matched⟩⟩

end

/-! ### A rate that is not seen -/

namespace Sample

/-- A running Pod as planned, whose readback states `cost` and lacks `cpu` unless given. -/
def readback (cost : Int) (cpu : Fields) : Fields :=
  [("id", .str "pod-1"), ("name", .str "kestrel-cpu-runpod"), ("image", .str "image"),
    ("cloud", .str "SECURE"), ("disk", .int 10), ("dataCenterId", .str "EU-1"),
    ("ports", .arr []), ("env", .obj []), ("mounts", .obj []), ("args", .str ""),
    ("registry", .null), ("locked", .bool false), ("template", .null),
    ("globalNetworking", .obj [("enabled", .bool false)]), ("status", .str "RUNNING"),
    ("cost", .int cost), ("startedAt", .str "start")] ++ cpu

def realized (cost : Int) (cpu : Fields) : PodResource where
  id := "pod-1"
  name := "kestrel-cpu-runpod"
  status := "RUNNING"
  gpuId := none
  gpuCount := 0
  costPerHr := none
  raw := readback cost cpu

def flavor : Fields :=
  [("cpu", .obj [("id", .str "cpu3c"), ("vcpuCount", .int 2), ("memory", .int 4)])]

/-- The one start that the sample provider reports. -/
def startedThen (_ : String) : Option (Option Instant) := some (some (seconds 3))

theorem window (cost : Int) (cpu : Fields) :
    InWindow plan (realized cost cpu) "pod-1" (seconds 4) :=
  ⟨by decide, rfl, rfl, by decide, by decide⟩

end Sample

/-- A Pod as planned and at its rate is observed to run. -/
theorem readiness_precedence_iff_running :
    Precedence Sample.sdk Sample.plan Sample.startedThen (seconds 4)
      (Sample.readback 10 Sample.flavor) "pod-1"
      (inspectCpuReadiness Sample.sdk Sample.plan Sample.startedThen
        (Sample.realized 10 Sample.flavor) "pod-1" (some (seconds 4))) := by
  have precedence := (readiness_precedence_iff Sample.sdk Sample.plan Sample.startedThen (seconds 4)
    (Sample.realized 10 Sample.flavor) "pod-1" (Sample.window 10 Sample.flavor)).1
  refine precedence.mpr fun hidden => ?_
  obtain ⟨⟨hourly, rated, above⟩, _⟩ := hidden
  cases (show some (10 : ℚ) = some hourly from rated)
  exact absurd above (by decide +kernel)

/-- A running Pod at eleven dollars, one above the admitted rate, is only unknown while its
`cpu` is missing. -/
theorem hidden_rate_unknown :
    ¬ Precedence Sample.sdk Sample.plan Sample.startedThen (seconds 4)
        (Sample.readback 11 []) "pod-1"
        (inspectCpuReadiness Sample.sdk Sample.plan Sample.startedThen (Sample.realized 11 [])
          "pod-1" (some (seconds 4))) := by
  intro precedence
  have above : RateAbove Sample.plan (Sample.readback 11 []) := ⟨11, rfl, by decide +kernel⟩
  have raised := precedence.mismatch.mpr (.inr above)
  rw [inspectCpuReadiness_eq (Sample.window 11 [])] at raised
  revert raised
  decide

end KestrelRunpod.Cpu
