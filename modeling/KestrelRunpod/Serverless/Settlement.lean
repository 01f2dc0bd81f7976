import KestrelRunpod.Serverless.Activation
import KestrelRunpod.Serverless.JobBilling

/-!
# Settling a job

A settlement ends in a receipt, is pending, or is refused with a `RunPodManagerError`, except
where one of three things happens (`job_billing_settles_iff`): the last hour of the attempt ends
outside the calendar, a timestamp of the page is naive or outside it, or a page that is complete
meets a job whose delay and execution are each within the quote's maximum but together longer
than the attempt.  `ServerlessBillingReceipt` refuses the last with a `ValueError`, which nothing
translates.
-/

namespace KestrelRunpod.Serverless

open Numeric Tiling Traverse

variable {α β : Type}

/-! ## Managed outcomes -/

/-- A failure is a `RunPodManagerError`. -/
def Refuses (outcome : Except Exn α) : Prop :=
  ∀ x, outcome = .error x → ∃ message, x = .manager message

theorem refuses_ok {a : α} : Refuses (.ok a : Except Exn α) := by
  intro x failed
  cases failed

theorem refuses_manager {message : String} : Refuses (.error (.manager message) : Except Exn α) := by
  intro x failed
  cases failed
  exact ⟨message, rfl⟩

theorem refuses_refuse {bad : Prop} [Decidable bad] {message : String} :
    Refuses (refuse bad (.manager message)) := by
  intro x failed
  exact ⟨message, (refuse_error.mp failed).2.symm⟩

/-- A sequence is managed when its first part is, and then its second. -/
theorem refuses_bind_iff {first : Except Exn α} {k : α → Except Exn β} :
    Refuses (first >>= k) ↔ Refuses first ∧ ∀ a, first = .ok a → Refuses (k a) := by
  constructor
  · intro managed
    constructor
    · exact fun x failed => managed x (except_bind_error.mpr (.inl failed))
    · exact fun a ok x failed => managed x (except_bind_error.mpr (.inr ⟨a, ok, failed⟩))
  · rintro ⟨first, second⟩ x failed
    rcases except_bind_error.mp failed with failed | ⟨a, ok, failed⟩
    · exact first x failed
    · exact second a ok x failed

/-- After a check that is refused with a `RunPodManagerError`. -/
theorem refuses_check_iff {bad : Prop} [Decidable bad] {message : String}
    {k : Unit → Except Exn β} :
    Refuses (refuse bad (.manager message) >>= k) ↔ (¬ bad → Refuses (k ())) := by
  rw [refuses_bind_iff]
  constructor
  · exact fun managed fine => managed.2 () (refuse_ok.mpr fine)
  · exact fun managed => ⟨refuses_refuse, fun _ ok => managed (refuse_ok.mp ok)⟩

/-- A traversal is managed when each item is that it comes to. -/
theorem refuses_mapM_iff {f : α → Except Exn β} {as : List α} :
    Refuses (as.mapM f) ↔ ∀ before a after, as = before ++ a :: after →
      (∀ b ∈ before, ∃ c, f b = .ok c) → Refuses (f a) := by
  induction as with
  | nil =>
      constructor
      · intro _ before a after is
        simp at is
      · exact fun _ => refuses_ok
  | cons first rest ih =>
      rw [mapM_cons_eq, refuses_bind_iff]
      simp only [refuses_bind_iff]
      constructor
      · rintro ⟨here, onward⟩ before a after is passed
        cases before with
        | nil =>
            cases is
            exact here
        | cons b before =>
            cases is
            obtain ⟨c, ok⟩ := passed first List.mem_cons_self
            exact ih.mp (onward c ok).1 before a after rfl
              fun b member => passed b (List.mem_cons_of_mem _ member)
      · intro each
        refine ⟨each [] first rest rfl (by simp), fun c ok => ⟨ih.mpr ?_, fun _ _ => refuses_ok⟩⟩
        intro before a after is passed
        refine each (first :: before) a after (by rw [is, List.cons_append]) ?_
        intro b member
        rcases List.mem_cons.mp member with rfl | member
        · exact ⟨c, ok⟩
        · exact passed b member

/-! ## Timestamps of a page -/

section

variable {texts : BillingTexts} {endpointId : String} {page : BillingPage}
  {windowFrom windowUntil : Instant} {fields row : List (String × Json)}

/-- The instant is one that a UTC `datetime` denotes. -/
def InCalendar (t : Instant) : Prop := calendarMin ≤ t ∧ t ≤ calendarMax

theorem astimezone_ok {t u : Instant} : astimezone t = .ok u ↔ InCalendar t ∧ u = t := by
  unfold astimezone InCalendar
  split
  · rename_i inside
    constructor
    · intro ok
      cases ok
      exact ⟨inside, rfl⟩
    · rintro ⟨_, rfl⟩
      rfl
  · rename_i outside
    constructor
    · intro ok
      cases ok
    · exact fun both => absurd both.1 outside

theorem astimezone_managed {t : Instant} : Refuses (astimezone t) ↔ InCalendar t := by
  unfold astimezone InCalendar
  split
  · rename_i inside
    exact iff_of_true refuses_ok inside
  · rename_i outside
    refine iff_of_false (fun managed => ?_) outside
    obtain ⟨message, is⟩ := managed _ rfl
    cases is

/-- The text is a naive timestamp, or an aware one outside the calendar. -/
def Unreadable (texts : BillingTexts) (text : String) : Prop :=
  texts.fromIsoFormat text = .naive ∨
    ∃ t, texts.fromIsoFormat text = .aware t ∧ ¬ InCalendar t

theorem parseDatetime_managed {text : String} :
    Refuses (parseDatetime texts text) ↔ ¬ Unreadable texts text := by
  unfold parseDatetime Unreadable
  split
  · rename_i t aware
    rw [astimezone_managed]
    simp [aware]
  · rename_i naive
    refine iff_of_false (fun managed => ?_) (not_not.mpr (.inl naive))
    obtain ⟨message, is⟩ := managed _ rfl
    cases is
  · rename_i invalid
    refine iff_of_true refuses_manager ?_
    simp [invalid]

/-- A field holds a timestamp that is unreadable. -/
def FieldUnreadable (texts : BillingTexts) (fields : List (String × Json)) (name : String) : Prop :=
  ∃ text, Json.get fields name = .str text ∧ text ≠ "" ∧ Unreadable texts text

/-- A field holds a timestamp, read as `t`. -/
def FieldReads (texts : BillingTexts) (fields : List (String × Json)) (name : String)
    (t : Instant) : Prop :=
  ∃ text, Json.get fields name = .str text ∧ text ≠ "" ∧ parseDatetime texts text = .ok t

theorem text_ok {value : Json} {context text : String} :
    value.text context = .ok text ↔ value = .str text ∧ text ≠ "" := by
  unfold Json.text
  split
  · split
    · rename_i empty
      constructor
      · intro ok
        cases ok
      · rintro ⟨is, some_⟩
        cases is
        exact absurd empty some_
    · rename_i s some_
      constructor
      · intro ok
        cases ok
        exact ⟨rfl, some_⟩
      · rintro ⟨is, _⟩
        cases is
        rfl
  · rename_i other
    constructor
    · intro ok
      cases ok
    · rintro ⟨is, _⟩
      exact absurd is (other text)

theorem text_managed {value : Json} {context : String} : Refuses (value.text context) := by
  unfold Json.text
  split
  · split
    · exact refuses_manager
    · exact refuses_ok
  · exact refuses_manager

/-- Reading a timestamp field, and going on with the instant. -/
theorem refuses_field_iff {name context : String} {k : Instant → Except Exn α} :
    Refuses (do
      let text ← (Json.get fields name).text context
      let t ← parseDatetime texts text
      k t) ↔
      ¬ FieldUnreadable texts fields name ∧ ∀ t, FieldReads texts fields name t → Refuses (k t) := by
  simp only [refuses_bind_iff, parseDatetime_managed]
  constructor
  · rintro ⟨_, managed⟩
    constructor
    · rintro ⟨text, is, some_, unreadable⟩
      exact (managed text (text_ok.mpr ⟨is, some_⟩)).1 unreadable
    · rintro t ⟨text, is, some_, read⟩
      exact (managed text (text_ok.mpr ⟨is, some_⟩)).2 t read
  · rintro ⟨readable, managed⟩
    refine ⟨text_managed, fun text ok => ?_⟩
    obtain ⟨is, some_⟩ := text_ok.mp ok
    exact ⟨fun unreadable => readable ⟨text, is, some_, unreadable⟩,
      fun t read => managed t ⟨text, is, some_, read⟩⟩

theorem amountsFromMapping_managed {context : String} :
    Refuses (amountsFromMapping fields context) := by
  have amount : ∀ {name : String}, Refuses (billingAmount fields context name) := by
    intro name x failed
    unfold billingAmount at failed
    cases read : (Json.get fields name).decimal (context ++ "." ++ name) with
    | ok amount =>
        rw [read] at failed
        cases failed
    | error y =>
        rw [read] at failed
        cases failed
        unfold Json.decimal at read
        split at read
        · split at read
          · cases read
            exact ⟨_, rfl⟩
          · cases read
        · split at read
          · cases read
            exact ⟨_, rfl⟩
          · cases read
        · cases read
          exact ⟨_, rfl⟩
  unfold amountsFromMapping
  simp only [refuses_bind_iff]
  refine ⟨amount, fun _ _ => ⟨amount, fun _ _ => ⟨amount, fun _ _ => ⟨amount, fun _ _ =>
    ⟨amount, fun _ _ => ⟨refuses_refuse, fun _ _ => refuses_ok⟩⟩⟩⟩⟩⟩

/-- A record of the endpoint with its fields, whose start is unreadable, or is read while its
end is unreadable. -/
def RowEscapes (texts : BillingTexts) (endpointId : String) (row : List (String × Json)) : Prop :=
  Json.hasKeys row billingRecordKeys = true ∧
    Json.isText endpointId (Json.get row "serverlessId") = true ∧
    (FieldUnreadable texts row "startTime" ∨
      ∃ t, FieldReads texts row "startTime" t ∧ FieldUnreadable texts row "endTime")

theorem parseRecord_managed :
    Refuses (parseRecord texts endpointId row) ↔ ¬ RowEscapes texts endpointId row := by
  unfold parseRecord exactKeys RowEscapes
  rw [refuses_check_iff, refuses_check_iff, refuses_field_iff]
  simp only [refuses_field_iff, Bool.not_eq_false]
  constructor
  · rintro managed ⟨keys, own, unreadable | ⟨t, read, unreadable⟩⟩
    · exact (managed keys own).1 unreadable
    · exact ((managed keys own).2 t read).1 unreadable
  · intro escapes keys own
    refine ⟨fun unreadable => escapes ⟨keys, own, .inl unreadable⟩, fun t read => ⟨fun unreadable =>
      escapes ⟨keys, own, .inr ⟨t, read, unreadable⟩⟩, fun u _ => ?_⟩⟩
    exact refuses_bind_iff.mpr ⟨amountsFromMapping_managed, fun _ _ => refuses_ok⟩

theorem hourCost_check_error {c : HourCostFields} {x : Exn} (failed : c.check = .error x) :
    ∃ message, x = .valueError message := by
  have step : ∀ {bad : Prop} [Decidable bad] {message : String} {k : Unit → Except Exn Unit},
      (refuse bad (.valueError message) >>= k) = .error x →
      (∃ message, x = .valueError message) ∨ k () = .error x := by
    intro bad _ message k failed
    rcases except_bind_error.mp failed with failed | ⟨_, _, failed⟩
    · exact .inl ⟨message, (refuse_error.mp failed).2.symm⟩
    · exact .inr failed
  unfold HourCostFields.check safeIdentifier nonnegativeDecimal at failed
  rcases step failed with is | failed
  · exact is
  rcases step failed with is | failed
  · exact is
  rcases step failed with is | failed
  · exact is
  rcases step failed with is | failed
  · exact is
  rcases step failed with is | failed
  · exact is
  rcases step failed with is | failed
  · exact is
  rcases step failed with is | failed
  · exact is
  rcases step failed with is | failed
  · exact is
  exact ⟨_, (refuse_error.mp failed).2.symm⟩

theorem HourCost.build_error {c : HourCostFields} {x : Exn} (failed : HourCost.build c = .error x) :
    ∃ message, x = .valueError message := by
  unfold HourCost.build at failed
  split at failed
  · cases failed
  · rename_i y wrong
    cases failed
    exact hourCost_check_error wrong

/-- The failures of an hour cost are translated. -/
theorem recordHourCost_managed {r : BillingRecord} :
    Refuses (recordHourCost texts endpointId r) := by
  intro x failed
  unfold recordHourCost at failed
  dsimp only at failed
  split at failed
  · cases failed
    exact ⟨_, rfl⟩
  · rename_i translated
    obtain ⟨message, is⟩ := HourCost.build_error failed
    subst is
    exact absurd failed (translated message)

theorem hourCostsFrom_managed {cursor : Instant} {records : List BillingRecord} :
    Refuses (hourCostsFrom texts endpointId windowUntil cursor records) := by
  induction records generalizing cursor with
  | nil =>
      unfold hourCostsFrom
      exact refuses_ok
  | cons r rest ih =>
      unfold hourCostsFrom
      rw [refuses_check_iff]
      intro _
      split
      · exact refuses_ok
      · rw [refuses_check_iff]
        intro _
        rw [refuses_check_iff]
        intro _
        split
        · exact refuses_ok
        · rw [refuses_check_iff]
          intro _
          exact refuses_bind_iff.mpr ⟨recordHourCost_managed, fun _ _ =>
            refuses_bind_iff.mpr ⟨ih, fun _ _ => refuses_ok⟩⟩

theorem mapping_ok {value : Json} {context : String} :
    value.mapping context = .ok fields ↔ value = .obj fields := by
  unfold Json.mapping
  split
  · constructor
    · intro ok
      cases ok
      rfl
    · intro is
      cases is
      rfl
  · rename_i other
    constructor
    · intro ok
      cases ok
    · exact fun is => absurd is (other fields)

theorem integer_ok {value : Json} {context : String} {n : Int} :
    value.integer context = .ok n ↔ value = .int n ∧ 0 ≤ n := by
  unfold Json.integer
  split
  · rename_i m
    split
    · rename_i negative
      constructor
      · intro ok
        cases ok
      · rintro ⟨is, nonneg⟩
        cases is
        exact absurd nonneg (not_le.mpr negative)
    · rename_i nonneg
      constructor
      · intro ok
        cases ok
        exact ⟨rfl, not_lt.mp nonneg⟩
      · rintro ⟨is, _⟩
        cases is
        rfl
  · rename_i other
    constructor
    · intro ok
      cases ok
    · rintro ⟨is, _⟩
      exact absurd is (other n)

theorem refuses_mapping_iff {value : Json} {context : String}
    {k : List (String × Json) → Except Exn α} :
    Refuses (value.mapping context >>= k) ↔ ∀ fields, value = .obj fields → Refuses (k fields) := by
  unfold Json.mapping
  split
  · rename_i fields
    constructor
    · intro managed fields' is
      cases is
      exact managed
    · exact fun managed => managed fields rfl
  · rename_i other
    refine iff_of_true ?_ fun fields is => absurd is (other fields)
    exact refuses_bind_iff.mpr ⟨refuses_manager, fun _ ok => by cases ok⟩

theorem refuses_integer_iff {value : Json} {context : String} {k : Int → Except Exn α} :
    Refuses (value.integer context >>= k) ↔ ∀ n, value = .int n → 0 ≤ n → Refuses (k n) := by
  unfold Json.integer
  split
  · rename_i n
    split
    · rename_i negative
      refine iff_of_true ?_ fun m is nonneg => ?_
      · exact refuses_bind_iff.mpr ⟨refuses_manager, fun _ ok => by cases ok⟩
      · cases is
        exact absurd nonneg (not_le.mpr negative)
    · rename_i nonneg
      constructor
      · intro managed m is _
        cases is
        exact managed
      · exact fun managed => managed n rfl (not_lt.mp nonneg)
  · rename_i other
    refine iff_of_true ?_ fun n is => absurd is (other n)
    exact refuses_bind_iff.mpr ⟨refuses_manager, fun _ ok => by cases ok⟩

/-- The reader comes to a timestamp of the page that is unreadable: one of the query echo, or
one of a record after others that are sound. -/
def PageEscapes (texts : BillingTexts) (page : BillingPage) (endpointId : String)
    (windowFrom windowUntil : Instant) : Prop :=
  Json.hasKeys page.metadata ["query", "recordCount", "uniqueServerlessCount", "totals"] = true ∧
    (∃ fields, TotalFields page fields) ∧ ∃ query, Json.get page.metadata "query" = .obj query ∧
    Json.hasKeys query ["startTime", "endTime", "bucketSize", "serverlessId"] = true ∧
    Json.isText endpointId (Json.get query "serverlessId") = true ∧
    Json.isText "hour" (Json.get query "bucketSize") = true ∧
    (FieldUnreadable texts query "startTime" ∨ FieldReads texts query "startTime" windowFrom ∧
      (FieldUnreadable texts query "endTime" ∨ FieldReads texts query "endTime" windowUntil ∧
        Json.get page.metadata "recordCount" = .int page.records.length ∧
        Json.get page.metadata "uniqueServerlessCount" = .int 1 ∧
        ∃ before row after, page.records = before ++ row :: after ∧
          (∀ r ∈ before, ∃ b, parseRecord texts endpointId r = .ok b) ∧
          RowEscapes texts endpointId row))

theorem FieldReads.unique {name : String} {t u : Instant} (first : FieldReads texts fields name t)
    (second : FieldReads texts fields name u) : t = u := by
  obtain ⟨text, is, _, read⟩ := first
  obtain ⟨text', is', _, read'⟩ := second
  rw [is] at is'
  cases is'
  rw [read] at read'
  cases read'
  rfl

/-- Once the counts have been read, the reader is managed, unless it comes to a record whose
timestamp is unreadable. -/
theorem records_managed {n : Int} {k : Option (List HourCost) → Except Exn (Option (List HourCost))}
    (rest : ∀ verdict, Refuses (k verdict)) :
    Refuses (if page.records.isEmpty = true then do
        refuse (n ≠ 0 ∧ n ≠ 1) (.manager "Runpod empty billing endpoint count is invalid")
        return none
      else do
        refuse (n ≠ 1) (.manager "Runpod billing spans multiple Serverless endpoints")
        let parsed ← page.records.mapM (parseRecord texts endpointId)
        let verdict ← hourCostsFrom texts endpointId windowUntil windowFrom
          (parsed.mergeSort fun a b => a.recordFrom ≤ b.recordFrom)
        k verdict) ↔
      ¬ (n = 1 ∧ ∃ before row after, page.records = before ++ row :: after ∧
        (∀ r ∈ before, ∃ b, parseRecord texts endpointId r = .ok b) ∧
        RowEscapes texts endpointId row) := by
  split
  · rename_i empty
    refine iff_of_true ?_ ?_
    · rw [refuses_check_iff]
      exact fun _ => refuses_ok
    · rintro ⟨_, before, row, after, is, _⟩
      rw [is] at empty
      simp at empty
  · rw [refuses_check_iff, refuses_bind_iff, refuses_mapM_iff]
    simp only [parseRecord_managed, not_not]
    constructor
    · rintro managed ⟨one, before, row, after, is, passed, escapes⟩
      exact (managed one).1 before row after is passed escapes
    · intro escapes one
      refine ⟨fun before row after is passed escapes_ => escapes ⟨one, before, row, after, is,
        passed, escapes_⟩, fun _ _ => ?_⟩
      exact refuses_bind_iff.mpr ⟨hourCostsFrom_managed, fun verdict _ => rest verdict⟩

/-- The reader of a page is managed, unless it comes to a timestamp that is unreadable. -/
theorem authoritativeHourCosts_managed :
    Refuses (authoritativeHourCosts texts page endpointId windowFrom windowUntil) ↔
      ¬ PageEscapes texts page endpointId windowFrom windowUntil := by
  have last : ∀ {fields : List (String × Json)} (verdict : Option (List HourCost)),
      Refuses (agreeTotals fields verdict) := by
    intro fields verdict
    cases verdict with
    | none => exact refuses_ok
    | some costs =>
        refine refuses_bind_iff.mpr ⟨amountsFromMapping_managed, fun _ _ => ?_⟩
        rw [refuses_check_iff]
        exact fun _ => refuses_ok
  have is_true : ∀ {b : Bool}, ¬ b = false ↔ b = true := by
    intro b
    exact iff_of_eq (Bool.not_eq_false b)
  unfold authoritativeHourCosts exactKeys
  constructor
  · rintro managed ⟨metadata, ⟨fields, isTotals, totalKeys⟩, query, isQuery, queryKeys, own, hourly,
      escapes⟩
    have managed := refuses_check_iff.mp managed (is_true.mpr metadata)
    have managed := refuses_mapping_iff.mp managed query isQuery
    have managed := refuses_mapping_iff.mp managed fields isTotals
    have managed := refuses_check_iff.mp managed (is_true.mpr queryKeys)
    have managed := refuses_check_iff.mp managed (is_true.mpr totalKeys)
    have managed := refuses_check_iff.mp managed
      (not_or.mpr ⟨is_true.mpr own, is_true.mpr hourly⟩)
    obtain ⟨readable, managed⟩ := refuses_field_iff.mp managed
    rcases escapes with unreadable | ⟨starts, escapes⟩
    · exact readable unreadable
    have managed := refuses_check_iff.mp (managed windowFrom starts) (not_not.mpr rfl)
    obtain ⟨readable, managed⟩ := refuses_field_iff.mp managed
    rcases escapes with unreadable | ⟨ends, counted, unique, escapes⟩
    · exact readable unreadable
    have managed := refuses_check_iff.mp (managed windowUntil ends) (not_not.mpr rfl)
    have managed := refuses_integer_iff.mp managed _ counted (Int.natCast_nonneg _)
    have managed := refuses_integer_iff.mp managed 1 unique (by decide)
    have managed := refuses_check_iff.mp managed (not_not.mpr rfl)
    exact (records_managed last).mp managed ⟨rfl, escapes⟩
  · intro escapes
    refine refuses_check_iff.mpr fun metadata => ?_
    refine refuses_mapping_iff.mpr fun query isQuery => ?_
    refine refuses_mapping_iff.mpr fun fields isTotals => ?_
    refine refuses_check_iff.mpr fun queryKeys => ?_
    refine refuses_check_iff.mpr fun totalKeys => ?_
    refine refuses_check_iff.mpr fun echoed => ?_
    obtain ⟨own, hourly⟩ := not_or.mp echoed
    have escapes := fun holds => escapes ⟨is_true.mp metadata, ⟨fields, isTotals,
      is_true.mp totalKeys⟩, query, isQuery, is_true.mp queryKeys, is_true.mp own,
      is_true.mp hourly, holds⟩
    refine refuses_field_iff.mpr ⟨fun unreadable => escapes (.inl unreadable), fun t starts => ?_⟩
    refine refuses_check_iff.mpr fun same => ?_
    rw [not_not.mp same] at starts
    refine refuses_field_iff.mpr
      ⟨fun unreadable => escapes (.inr ⟨starts, .inl unreadable⟩), fun u ends => ?_⟩
    refine refuses_check_iff.mpr fun same => ?_
    rw [not_not.mp same] at ends
    refine refuses_integer_iff.mpr fun recordCount counted _ => ?_
    refine refuses_integer_iff.mpr fun uniqueCount unique _ => ?_
    refine refuses_check_iff.mpr fun same => ?_
    rw [not_not.mp same] at counted
    refine (records_managed last).mpr ?_
    rintro ⟨rfl, unread⟩
    exact escapes (.inr ⟨starts, .inr ⟨ends, counted, unique, unread⟩⟩)

/-- A page that has costs answers the request. -/
theorem answers_of_some {costs : List HourCost}
    (ok : authoritativeHourCosts texts page endpointId windowFrom windowUntil = .ok (some costs)) :
    PageAnswers texts page endpointId windowFrom windowUntil := by
  have is_true : ∀ {b : Bool}, ¬ b = false ↔ b = true := by
    intro b
    exact iff_of_eq (Bool.not_eq_false b)
  unfold authoritativeHourCosts exactKeys at ok
  obtain ⟨metadata, ok⟩ := refuse_bind_ok.mp ok
  obtain ⟨query, isQuery, ok⟩ := except_bind_ok.mp ok
  obtain ⟨totals, _, ok⟩ := except_bind_ok.mp ok
  obtain ⟨queryKeys, ok⟩ := refuse_bind_ok.mp ok
  obtain ⟨_, ok⟩ := refuse_bind_ok.mp ok
  obtain ⟨echoed, ok⟩ := refuse_bind_ok.mp ok
  obtain ⟨startText, starts, ok⟩ := except_bind_ok.mp ok
  obtain ⟨queryFrom, startAt, ok⟩ := except_bind_ok.mp ok
  obtain ⟨sameFrom, ok⟩ := refuse_bind_ok.mp ok
  obtain ⟨endText, ends, ok⟩ := except_bind_ok.mp ok
  obtain ⟨queryUntil, endAt, ok⟩ := except_bind_ok.mp ok
  obtain ⟨sameUntil, ok⟩ := refuse_bind_ok.mp ok
  obtain ⟨recordCount, counted, ok⟩ := except_bind_ok.mp ok
  obtain ⟨uniqueCount, unique, ok⟩ := except_bind_ok.mp ok
  obtain ⟨consistent, ok⟩ := refuse_bind_ok.mp ok
  obtain ⟨own, hourly⟩ := not_or.mp echoed
  obtain ⟨starts, startSome⟩ := text_ok.mp starts
  obtain ⟨ends, endSome⟩ := text_ok.mp ends
  rw [not_not.mp sameFrom] at startAt
  rw [not_not.mp sameUntil] at endAt
  have counted := (integer_ok.mp counted).1
  rw [not_not.mp consistent] at counted
  refine ⟨is_true.mp metadata, ⟨query, startText, endText, mapping_ok.mp isQuery,
    is_true.mp queryKeys, is_true.mp own, is_true.mp hourly, starts, startSome, startAt, ends,
    endSome, endAt⟩, counted, uniqueCount, (integer_ok.mp unique).1, ?_⟩
  split at ok
  · cases (refuse_bind_ok.mp ok).2
  · exact .inl (not_not.mp (refuse_bind_ok.mp ok).1)

/-- The page is a complete bill of the window, with the totals of its records. -/
def Billed (texts : BillingTexts) (page : BillingPage) (endpointId : String)
    (windowFrom windowUntil : Instant) : Prop :=
  PageAnswers texts page endpointId windowFrom windowUntil ∧
    ∃ parsed, Complete texts endpointId windowFrom windowUntil page.records parsed ∧
      TotalsAre page (recordTotals parsed)

theorem billed_iff (window : HourWindow windowFrom windowUntil)
    (safe : safeIdentifier endpointId "endpoint_id" = .ok ()) :
    (∃ costs, authoritativeHourCosts texts page endpointId windowFrom windowUntil =
      .ok (some costs)) ↔ Billed texts page endpointId windowFrom windowUntil := by
  constructor
  · rintro ⟨costs, ok⟩
    have answers := answers_of_some ok
    exact ⟨answers, (answers.costs_iff window safe).mp ⟨costs, ok⟩⟩
  · rintro ⟨answers, complete⟩
    exact (answers.costs_iff window safe).mpr complete

end

/-! ## Totals -/

/-- The amounts of an hour cost are not negative and add up. -/
theorem HourCost.amounts (cost : HourCost) :
    0 ≤ cost.gpuCostUsd.value ∧ 0 ≤ cost.cpuCostUsd.value ∧ 0 ≤ cost.diskCostUsd.value ∧
      0 ≤ cost.feeCostUsd.value ∧ 0 ≤ cost.actualCostUsd.value ∧
      cost.actualCostUsd.value = cost.gpuCostUsd.value + cost.cpuCostUsd.value +
        cost.diskCostUsd.value + cost.feeCostUsd.value := by
  have passed := cost.checked
  unfold HourCostFields.check nonnegativeDecimal at passed
  obtain ⟨_, _, passed⟩ := except_bind_ok.mp passed
  obtain ⟨_, _, passed⟩ := except_bind_ok.mp passed
  obtain ⟨_, passed⟩ := refuse_bind_ok.mp passed
  obtain ⟨gpu, passed⟩ := refuse_bind_ok.mp passed
  obtain ⟨cpu, passed⟩ := refuse_bind_ok.mp passed
  obtain ⟨disk, passed⟩ := refuse_bind_ok.mp passed
  obtain ⟨fee, passed⟩ := refuse_bind_ok.mp passed
  obtain ⟨total, passed⟩ := refuse_bind_ok.mp passed
  have sums := not_not.mp (refuse_ok.mp passed)
  rw [Decimal.exactSum_value] at sums
  have nonneg : ∀ {amount : Decimal}, ¬ amount.coefficient < 0 → 0 ≤ amount.value :=
    fun fine => Decimal.nonneg_of_coefficient (not_lt.mp fine)
  refine ⟨nonneg gpu, nonneg cpu, nonneg disk, nonneg fee, nonneg total, ?_⟩
  simp only [List.map_cons, List.map_nil, List.sum_cons, List.sum_nil] at sums
  rw [sums]
  ring

/-- So do their totals. -/
theorem hourCostTotals_amounts (costs : List HourCost) :
    0 ≤ (hourCostTotals costs).gpuCostUsd.coefficient ∧
      0 ≤ (hourCostTotals costs).cpuCostUsd.coefficient ∧
      0 ≤ (hourCostTotals costs).diskCostUsd.coefficient ∧
      0 ≤ (hourCostTotals costs).feeCostUsd.coefficient ∧
      0 ≤ (hourCostTotals costs).actualCostUsd.coefficient ∧
      (hourCostTotals costs).actualCostUsd.value = (Decimal.exactSum
        [(hourCostTotals costs).gpuCostUsd, (hourCostTotals costs).cpuCostUsd,
          (hourCostTotals costs).diskCostUsd, (hourCostTotals costs).feeCostUsd]).value := by
  have nonneg : ∀ f : HourCost → Decimal, (∀ cost : HourCost, 0 ≤ (f cost).value) →
      0 ≤ (Decimal.exactSum (costs.map f)).coefficient := by
    intro f each
    refine Decimal.coefficient_nonneg ?_
    rw [Decimal.exactSum_value, List.map_map]
    refine List.sum_nonneg fun amount member => ?_
    obtain ⟨cost, _, rfl⟩ := List.mem_map.mp member
    exact each cost
  refine ⟨nonneg _ fun cost => cost.amounts.1, nonneg _ fun cost => cost.amounts.2.1,
    nonneg _ fun cost => cost.amounts.2.2.1, nonneg _ fun cost => cost.amounts.2.2.2.1,
    nonneg _ fun cost => cost.amounts.2.2.2.2.1, ?_⟩
  unfold hourCostTotals
  simp only [Decimal.exactSum_value, List.map_cons, List.map_nil, List.sum_cons, List.sum_nil,
    List.map_map]
  clear nonneg
  induction costs with
  | nil => simp
  | cons cost rest ih =>
      have sum := cost.amounts.2.2.2.2.2
      simp only [List.map_cons, List.sum_cons, Function.comp_apply] at ih ⊢
      rw [sum, ih]
      ring

/-! ## The hours of an attempt -/

theorem contiguousHours_ends {previous : Option Instant} {first last : Instant}
    {rest : List Instant} (ok : contiguousHours previous (first :: rest) = .ok ())
    (ends : (first :: rest).getLast? = some last) :
    first % hour = 0 ∧ last % hour = 0 ∧ first ≤ last := by
  induction rest generalizing previous first with
  | nil =>
      cases ends
      unfold contiguousHours at ok
      obtain ⟨aligned, _⟩ := refuse_bind_ok.mp ok
      exact ⟨not_not.mp aligned, not_not.mp aligned, le_refl _⟩
  | cons second rest ih =>
      unfold contiguousHours at ok
      obtain ⟨aligned, ok⟩ := refuse_bind_ok.mp ok
      obtain ⟨_, _, ok⟩ := except_bind_ok.mp ok
      rw [List.getLast?_cons_cons] at ends
      obtain ⟨_, alignedLast, le⟩ := ih ok ends
      unfold contiguousHours at ok
      obtain ⟨_, ok⟩ := refuse_bind_ok.mp ok
      obtain ⟨_, follows, _⟩ := except_bind_ok.mp ok
      obtain ⟨next, shifted, follows⟩ := except_bind_ok.mp follows
      have is := (astimezone_ok.mp shifted).2
      have same := not_not.mp (refuse_ok.mp follows)
      rw [same, is] at le
      exact ⟨not_not.mp aligned, alignedLast, (le_of_lt (Int.lt_add_of_pos_right _ hour_pos)).trans le⟩

theorem normalizedExclusiveHours_ok {values hours : List Instant}
    (ok : normalizedExclusiveHours values = .ok hours) :
    hours = values ∧ values ≠ [] ∧ contiguousHours none values = .ok () := by
  unfold normalizedExclusiveHours at ok
  obtain ⟨some_, ok⟩ := refuse_bind_ok.mp ok
  obtain ⟨_, ok⟩ := refuse_bind_ok.mp ok
  obtain ⟨_, contiguous, ok⟩ := except_bind_ok.mp ok
  cases ok
  exact ⟨rfl, some_, contiguous⟩

/-- The hour starts of a billable interval run from its first hour to its last. -/
theorem serverlessBillingHourStarts_ends {startedAt coverageUntil : Instant} {hours : List Instant}
    (ok : serverlessBillingHourStarts startedAt coverageUntil = .ok hours) :
    hours.head? = some (hourStart startedAt) ∧
      hours.getLast? = some (hourEnd coverageUntil - hour) := by
  unfold serverlessBillingHourStarts at ok
  obtain ⟨window, bounds, ok⟩ := except_bind_ok.mp ok
  obtain ⟨windowUntil, inside, ok⟩ := except_bind_ok.mp ok
  obtain ⟨_, ok⟩ := refuse_bind_ok.mp ok
  cases ok
  unfold billingHourBounds at bounds
  split at bounds
  · cases bounds
  · rename_i life
    cases bounds
    rw [(astimezone_ok.mp inside).2]
    have window := billingHourBounds_window (not_le.mp life)
    have length := step_le hour_pos window.open_ (whole_hours window.start window.stop)
    have whole : (hourEnd coverageUntil - hourStart startedAt) / hour * hour =
        hourEnd coverageUntil - hourStart startedAt :=
      Int.ediv_mul_cancel (whole_hours window.start window.stop)
    have some_ : 1 ≤ (hourEnd coverageUntil - hourStart startedAt) / hour := by
      refine Int.le_ediv_of_mul_le hour_pos ?_
      unfold Instant at *
      omega
    dsimp only
    generalize (hourEnd coverageUntil - hourStart startedAt) / hour = count at *
    obtain ⟨k, rfl⟩ := Int.le.dest some_
    have is : ((1 : Int) + k).toNat = k + 1 := by omega
    rw [is]
    constructor
    · rw [List.range_succ_eq_map]
      simp
    · rw [List.range_succ, List.map_append, List.map_singleton, List.getLast?_concat]
      rw [Int.add_mul, Int.one_mul] at whole
      congr 1
      unfold Instant at *
      omega

/-! ## Receipts -/

variable {texts : JobBillingTexts} {s : Settlement} {attempt : BillingAttempt}
  {terms : BillingTerms} {endpointProfileSha256 : String}

/-- What the constructor of either quote has checked of its terms. -/
structure SoundTerms (terms : BillingTerms) (endpointProfileSha256 : String) : Prop where
  providerQuoteId : isIdentifier terms.providerQuoteId = true
  profile : Pod.isSha256 endpointProfileSha256 = true
  rate : 0 < terms.hourlyWorkerRateUsd.coefficient
  idleTail : 1 ≤ terms.idleTailSeconds

theorem ProfileQuote.sound (quote : ProfileQuote) :
    SoundTerms quote.toBillingTerms quote.endpointProfileSha256 := by
  have passed := quote.checked
  unfold ProfileQuoteFields.check safeIdentifier sha256Digest positiveDecimal positiveInt at passed
  obtain ⟨id, passed⟩ := refuse_bind_ok.mp passed
  obtain ⟨_, passed⟩ := refuse_bind_ok.mp passed
  obtain ⟨profile, passed⟩ := refuse_bind_ok.mp passed
  obtain ⟨rate, passed⟩ := refuse_bind_ok.mp passed
  obtain ⟨idleTail, passed⟩ := refuse_bind_ok.mp passed
  exact ⟨by simpa using id, by simpa using profile, not_le.mp rate, not_lt.mp idleTail⟩

theorem CapacityQuote.sound (quote : CapacityQuote) :
    SoundTerms quote.terms quote.endpointSpecSha256 := by
  have passed := quote.checked
  simp only [QuoteFields.check, check_bind_ok, safeIdentifier, sha256Digest, refuse_ok] at passed
  obtain ⟨_, id, _, _, _, _, _, _, _, _, _, _, profile, _, _, _, _, _, _, _, passed⟩ := passed
  obtain ⟨_, _, passed⟩ := except_bind_ok.mp passed
  simp only [check_bind_ok, positiveDecimal, positiveInt, refuse_ok] at passed
  obtain ⟨rate, _, _, _, _, _, _, _, _, _, idleTail, _⟩ := passed
  exact ⟨Bool.eq_true_of_not_eq_false id, Bool.eq_true_of_not_eq_false profile, not_le.mp rate,
    not_lt.mp idleTail⟩

/-- The job's delay and execution together fit the attempt. -/
def TimingFits (attempt : BillingAttempt) (job : ServerlessJob) : Prop :=
  ∃ ms, attemptMs attempt.submittedAt attempt.completedAt = .ok ms ∧
    observedJobMs job.delayTimeMs job.executionTimeMs ≤ ms

/-- Where an attempt stands once its quote is validated: its billing coverage, and the hours it
was given for it. -/
structure Covered (attempt : BillingAttempt) (terms : BillingTerms) (coverageUntil : Instant) :
    Prop where
  coverage : shift attempt.completedAt (terms.idleTailSeconds * 1000000) = .ok coverageUntil
  hours : ∃ required, serverlessBillingHourStarts attempt.submittedAt coverageUntil =
    .ok required ∧ orderedHoursCover attempt.exclusiveBillingHourStarts required = true

theorem BillingAttempt.valid (attempt : BillingAttempt) :
    isIdentifier attempt.attemptId = true ∧ isIdentifier attempt.jobId = true ∧
      isIdentifier attempt.endpointId = true ∧ isIdentifier attempt.providerQuoteId = true ∧
      Pod.isSha256 attempt.exclusiveWindowSha256 = true ∧
      normalizedExclusiveHours attempt.exclusiveBillingHourStarts =
        .ok attempt.exclusiveBillingHourStarts ∧
      attempt.submittedAt < attempt.completedAt := by
  have passed := attempt.checked
  unfold AttemptFields.check safeIdentifier sha256Digest at passed
  obtain ⟨attemptId, passed⟩ := refuse_bind_ok.mp passed
  obtain ⟨jobId, passed⟩ := refuse_bind_ok.mp passed
  obtain ⟨endpointId, passed⟩ := refuse_bind_ok.mp passed
  obtain ⟨quoteId, passed⟩ := refuse_bind_ok.mp passed
  obtain ⟨window, passed⟩ := refuse_bind_ok.mp passed
  obtain ⟨hours, normalized, passed⟩ := except_bind_ok.mp passed
  have is := (normalizedExclusiveHours_ok normalized).1
  subst is
  exact ⟨by simpa using attemptId, by simpa using jobId, by simpa using endpointId,
    by simpa using quoteId, by simpa using window, normalized, not_le.mp (refuse_ok.mp passed)⟩

/-- Hours that cover those of an interval are whole hours around it. -/
theorem covering_window {startedAt coverageUntil windowFrom lastHour : Instant}
    {hours required : List Instant} (normalized : normalizedExclusiveHours hours = .ok hours)
    (starts : serverlessBillingHourStarts startedAt coverageUntil = .ok required)
    (cover : orderedHoursCover hours required = true) (first : hours.head? = some windowFrom)
    (last : hours.getLast? = some lastHour) :
    HourWindow windowFrom (lastHour + hour) ∧ windowFrom ≤ startedAt ∧
      coverageUntil ≤ lastHour + hour := by
  obtain ⟨_, _, contiguous⟩ := normalizedExclusiveHours_ok normalized
  obtain ⟨requiredFirst, requiredLast⟩ := serverlessBillingHourStarts_ends starts
  unfold orderedHoursCover at cover
  rw [first, last, requiredFirst, requiredLast] at cover
  simp only [Bool.and_eq_true, decide_eq_true_eq] at cover
  obtain ⟨earlier, later⟩ := cover
  cases hours with
  | nil => cases first
  | cons head rest =>
      cases first
      obtain ⟨alignedFirst, alignedLast, le⟩ := contiguousHours_ends contiguous last
      have reach := le_hourEnd coverageUntil
      have begins := hourStart_le startedAt
      refine ⟨⟨alignedFirst, next_aligned alignedLast, ?_⟩, earlier.trans begins, ?_⟩
      · exact le.trans_lt (Int.lt_add_of_pos_right _ hour_pos)
      · unfold Instant at *
        omega

/-- The window of an attempt: whole hours around its coverage. -/
theorem Covered.window {coverageUntil windowFrom lastHour : Instant}
    (covered : Covered attempt terms coverageUntil)
    (first : attempt.exclusiveBillingHourStarts.head? = some windowFrom)
    (last : attempt.exclusiveBillingHourStarts.getLast? = some lastHour) :
    HourWindow windowFrom (lastHour + hour) ∧ windowFrom ≤ attempt.submittedAt ∧
      coverageUntil ≤ lastHour + hour := by
  obtain ⟨_, _, _, _, _, normalized, _⟩ := attempt.valid
  obtain ⟨required, starts, cover⟩ := covered.hours
  exact covering_window normalized starts cover first last

/-- The receipt of a job that is admitted passes all checks but the last. -/
theorem checkRecord_ok {coverageUntil windowFrom lastHour : Instant} {costs : List HourCost}
    (sound : SoundTerms terms endpointProfileSha256)
    (covered : Covered attempt terms coverageUntil)
    (first : attempt.exclusiveBillingHourStarts.head? = some windowFrom)
    (last : attempt.exclusiveBillingHourStarts.getLast? = some lastHour)
    (inside : shift lastHour hour = .ok (lastHour + hour)) (closed : lastHour + hour ≤ s.readAt)
    (delay : ∀ ms, s.job.delayTimeMs = some ms → 0 ≤ ms)
    (execution : ∀ ms, s.job.executionTimeMs = some ms → 0 ≤ ms) :
    (receiptFields texts s attempt terms endpointProfileSha256 coverageUntil windowFrom
      (lastHour + hour) costs).checkRecord = .ok () := by
  obtain ⟨attemptId, jobId, endpointId, quoteId, window, normalized, life⟩ := attempt.valid
  obtain ⟨hours, begins, reach⟩ := covered.window first last
  obtain ⟨required, starts, cover⟩ := covered.hours
  obtain ⟨gpu, cpu, disk, fee, total, sums⟩ := hourCostTotals_amounts costs
  have stem : isIdentifier "runpod-serverless-billing:" = true := by decide +kernel
  have named : ∀ i, isIdentifier ("runpod-serverless-billing:" ++ texts.identity i) = true :=
    fun i => isIdentifier_append_sha256 stem (by decide +kernel) (texts.identity_hex i)
  have optional : ∀ {value : Option Int} {name : String}, (∀ ms, value = some ms → 0 ≤ ms) →
      nonnegativeOptional value name = .ok () := by
    intro value name nonneg
    unfold nonnegativeOptional
    split
    · rename_i n
      exact refuse_ok.mpr (not_lt.mpr (nonneg n rfl))
    · rfl
  have coverage := (astimezone_ok.mp covered.coverage).2
  have tail := sound.idleTail
  have idle : shift attempt.completedAt (terms.idleTailSeconds * 1000 * 1000) =
      .ok coverageUntil := by
    rw [Int.mul_assoc]
    exact covered.coverage
  have later : attempt.completedAt < coverageUntil := by
    rw [coverage]
    unfold Instant at *
    omega
  unfold JobReceiptFields.checkRecord receiptFields
  simp only [check_bind_ok, safeIdentifier, sha256Digest, refuse_ok, positiveInt]
  refine ⟨rfl, by simp [named], by simp [sound.providerQuoteId], by simp [endpointId],
    by simp [jobId], by simp [attemptId], by simp [sound.profile], by simp [window],
    not_not.mpr ⟨begins, life, later, reach, closed⟩, ?_, ?_⟩
  · omega
  refine except_bind_ok.mpr ⟨coverageUntil, idle, refuse_bind_ok.mpr ⟨not_not.mpr rfl, ?_⟩⟩
  refine except_bind_ok.mpr ⟨required, starts, ?_⟩
  refine except_bind_ok.mpr ⟨_, normalized, ?_⟩
  simp only [check_bind_ok, refuse_ok, cover, first, last, Option.getD_some]
  refine ⟨by decide, not_not.mpr rfl, except_bind_ok.mpr ⟨_, inside, ?_⟩⟩
  simp only [check_bind_ok, refuse_ok, positiveDecimal, nonnegativeDecimal]
  exact ⟨not_not.mpr rfl, not_le.mpr sound.rate, optional delay, rfl, optional execution, rfl,
    not_lt.mpr gpu, not_lt.mpr cpu, not_lt.mpr disk, not_lt.mpr fee, not_lt.mpr total,
    not_not.mpr sums⟩

/-- A receipt whose other checks pass is refused exactly where its timing does not fit, and
then not with a `RunPodManagerError`. -/
theorem build_managed_iff {r : JobReceiptFields} (passed : r.checkRecord = .ok ()) :
    Refuses (JobReceipt.build r) ↔ ∃ ms, attemptMs r.attemptStartedAt r.attemptCompletedAt = .ok ms ∧
      observedJobMs r.preExecutionDelayMs r.executionMs ≤ ms := by
  have timing : r.check = (do
      let recorded ← attemptMs r.attemptStartedAt r.attemptCompletedAt
      refuse (recorded < observedJobMs r.preExecutionDelayMs r.executionMs)
        (.valueError "Serverless job timing exceeds the recorded attempt interval")) := by
    unfold JobReceiptFields.check
    rw [passed]
    rfl
  constructor
  · intro managed
    cases checked : r.check with
    | ok u =>
        rw [timing] at checked
        obtain ⟨ms, is, fits⟩ := except_bind_ok.mp checked
        exact ⟨ms, is, not_lt.mp (refuse_ok.mp fits)⟩
    | error x =>
        have failed : JobReceipt.build r = .error x := by
          unfold JobReceipt.build
          split
          · rename_i fine
            rw [checked] at fine
            cases fine
          · rename_i y wrong
            rw [checked] at wrong
            cases wrong
            rfl
        obtain ⟨message, is⟩ := managed x failed
        rw [timing, is] at checked
        rcases except_bind_error.mp checked with wrong | ⟨ms, _, wrong⟩
        · unfold attemptMs at wrong
          split at wrong
          · split at wrong
            · cases wrong
            · cases wrong
          · cases wrong
        · obtain ⟨_, is⟩ := refuse_error.mp wrong
          cases is
  · rintro ⟨ms, is, fits⟩
    have fine : r.check = .ok () := by
      rw [timing, is]
      exact refuse_ok.mpr (not_lt.mpr fits)
    intro x failed
    unfold JobReceipt.build at failed
    split at failed
    · cases failed
    · rename_i y wrong
      rw [fine] at wrong
      cases wrong

/-! ## The settlement -/

theorem admitJob_managed : Refuses (admitJob s attempt terms) := by
  unfold admitJob validateTerminalJob
  simp only [refuses_bind_iff]
  exact ⟨refuses_refuse, fun _ _ => ⟨refuses_refuse, fun _ _ => ⟨⟨refuses_refuse, fun _ _ =>
    ⟨refuses_refuse, fun _ _ => ⟨refuses_refuse, fun _ _ => refuses_refuse⟩⟩⟩, fun _ _ =>
      ⟨refuses_refuse, fun _ _ => refuses_refuse⟩⟩⟩⟩

theorem admitJob_nonneg (ok : admitJob s attempt terms = .ok ()) :
    (∀ ms, s.job.delayTimeMs = some ms → 0 ≤ ms) ∧
      ∀ ms, s.job.executionTimeMs = some ms → 0 ≤ ms := by
  unfold admitJob validateTerminalJob at ok
  simp only [check_bind_ok, refuse_ok] at ok
  obtain ⟨_, _, ⟨_, _, delay, execution⟩, _⟩ := ok
  constructor
  · intro ms is
    rw [is] at delay
    simpa using delay
  · intro ms is
    rw [is] at execution
    simpa using execution

theorem BillingAttempt.safe (attempt : BillingAttempt) :
    safeIdentifier attempt.endpointId "endpoint_id" = .ok () := by
  unfold safeIdentifier
  rw [refuse_ok, attempt.valid.2.2.1]
  decide

/-- A bill for the attempt's closed hours is read without coming to an unreadable timestamp, and
if it is complete, the job's timing fits the attempt. -/
def BillFits (texts : JobBillingTexts) (s : Settlement) (attempt : BillingAttempt)
    (windowFrom windowUntil : Instant) : Prop :=
  windowUntil ≤ s.readAt →
    ¬ PageEscapes texts.toBillingTexts s.page attempt.endpointId windowFrom windowUntil ∧
      (Billed texts.toBillingTexts s.page attempt.endpointId windowFrom windowUntil →
        TimingFits attempt s.job)

/-- If the job is admitted, the attempt's last hour ends inside the calendar and its bill fits. -/
def Settleable (texts : JobBillingTexts) (s : Settlement) (attempt : BillingAttempt)
    (terms : BillingTerms) : Prop :=
  admitJob s attempt terms = .ok () → ∀ windowFrom lastHour,
    attempt.exclusiveBillingHourStarts.head? = some windowFrom →
    attempt.exclusiveBillingHourStarts.getLast? = some lastHour →
    InCalendar (lastHour + hour) ∧ BillFits texts s attempt windowFrom (lastHour + hour)

theorem settlePage_managed_iff {coverageUntil windowFrom lastHour : Instant}
    (sound : SoundTerms terms endpointProfileSha256)
    (covered : Covered attempt terms coverageUntil)
    (first : attempt.exclusiveBillingHourStarts.head? = some windowFrom)
    (last : attempt.exclusiveBillingHourStarts.getLast? = some lastHour)
    (inside : InCalendar (lastHour + hour)) (admitted : admitJob s attempt terms = .ok ()) :
    Refuses (settlePage texts s attempt terms endpointProfileSha256 coverageUntil windowFrom
      (lastHour + hour)) ↔ BillFits texts s attempt windowFrom (lastHour + hour) := by
  obtain ⟨window, _, _⟩ := covered.window first last
  obtain ⟨delay, execution⟩ := admitJob_nonneg admitted
  unfold settlePage BillFits
  split
  · rename_i early
    refine iff_of_true refuses_ok fun closed => ?_
    exact absurd closed (not_le.mpr early)
  · rename_i closed
    have closed := not_lt.mp closed
    rw [refuses_bind_iff, authoritativeHourCosts_managed, ← billed_iff window attempt.safe]
    have built : ∀ costs, Refuses (JobReceipt.build (receiptFields texts s attempt terms
        endpointProfileSha256 coverageUntil windowFrom (lastHour + hour) costs)) ↔
        TimingFits attempt s.job := fun costs =>
      build_managed_iff (checkRecord_ok sound covered first last
        (astimezone_ok.mpr ⟨inside, rfl⟩) closed delay execution)
    constructor
    · rintro ⟨reads, managed⟩ _
      refine ⟨reads, ?_⟩
      rintro ⟨costs, ok⟩
      exact (built costs).mp (refuses_bind_iff.mp (managed _ ok)).1
    · intro settles
      obtain ⟨reads, fits⟩ := settles closed
      refine ⟨reads, fun verdict ok => ?_⟩
      cases verdict with
      | none => exact refuses_ok
      | some costs =>
          exact refuses_bind_iff.mpr ⟨(built costs).mpr (fits ⟨costs, ok⟩), fun _ _ => refuses_ok⟩

theorem finalBillingBound_managed_iff {coverageUntil : Instant}
    (sound : SoundTerms terms endpointProfileSha256)
    (covered : Covered attempt terms coverageUntil) :
    Refuses (finalBillingBound texts s attempt terms endpointProfileSha256) ↔
      Settleable texts s attempt terms := by
  obtain ⟨_, some_, _⟩ := normalizedExclusiveHours_ok attempt.valid.2.2.2.2.2.1
  obtain ⟨windowFrom, first⟩ : ∃ t, attempt.exclusiveBillingHourStarts.head? = some t :=
    ⟨_, List.head?_eq_some_head some_⟩
  obtain ⟨lastHour, last⟩ : ∃ t, attempt.exclusiveBillingHourStarts.getLast? = some t :=
    ⟨_, List.getLast?_eq_some_getLast some_⟩
  unfold finalBillingBound Settleable
  rw [first, last, covered.coverage, refuses_bind_iff, and_iff_right admitJob_managed]
  constructor
  · rintro managed admitted _ _ ⟨⟩ ⟨⟩
    have rest : Refuses (shift lastHour hour >>= fun billingUntil =>
        settlePage texts s attempt terms endpointProfileSha256 coverageUntil windowFrom
          billingUntil) := managed () admitted
    obtain ⟨inside, rest⟩ := refuses_bind_iff.mp rest
    have inside := astimezone_managed.mp inside
    exact ⟨inside, (settlePage_managed_iff sound covered first last inside admitted).mp
      (rest _ (astimezone_ok.mpr ⟨inside, rfl⟩))⟩
  · intro settles _ admitted
    obtain ⟨inside, fits⟩ := settles admitted windowFrom lastHour rfl rfl
    have rest : Refuses (shift lastHour hour >>= fun billingUntil =>
        settlePage texts s attempt terms endpointProfileSha256 coverageUntil windowFrom
          billingUntil) := by
      refine refuses_bind_iff.mpr ⟨astimezone_managed.mpr inside, fun t ok => ?_⟩
      rw [(astimezone_ok.mp ok).2]
      exact (settlePage_managed_iff sound covered first last inside admitted).mpr fits
    exact rest

/-- A settlement ends in a receipt that passes its own checks, pending, or with a
`RunPodManagerError`. -/
structure Settles (outcome : Except Exn (Option JobReceipt)) : Prop where
  valid : ∀ receipt, outcome = .ok (some receipt) → receipt.toJobReceiptFields.check = .ok ()
  managed : Refuses outcome

theorem settles_iff {outcome : Except Exn (Option JobReceipt)} :
    Settles outcome ↔ Refuses outcome :=
  ⟨fun settles => settles.managed, fun managed => ⟨fun receipt _ => receipt.checked, managed⟩⟩

theorem BillingAttempt.validateQuote_covered {quote : ProfileQuote}
    (passed : attempt.validateQuote quote = .ok ()) :
    ∃ coverageUntil, Covered attempt quote.toBillingTerms coverageUntil := by
  unfold BillingAttempt.validateQuote at passed
  simp only [check_bind_ok, refuse_ok] at passed
  obtain ⟨_, _, _, _, passed⟩ := passed
  obtain ⟨coverageUntil, coverage, passed⟩ := except_bind_ok.mp passed
  obtain ⟨required, starts, passed⟩ := except_bind_ok.mp passed
  exact ⟨coverageUntil, coverage, required, starts,
    Bool.eq_true_of_not_eq_false (refuse_ok.mp passed)⟩

theorem bindActivated_covered {d : Digests} {quote : CapacityQuote}
    {activation : ActivationReceipt d} {submission : ActivatedSubmission}
    (passed : bindActivated attempt quote activation submission = .ok ()) :
    ∃ coverageUntil, Covered attempt quote.terms coverageUntil := by
  unfold bindActivated at passed
  simp only [check_bind_ok, refuse_ok] at passed
  obtain ⟨_, _, _, _, passed⟩ := passed
  obtain ⟨coverageUntil, coverage, passed⟩ := except_bind_ok.mp passed
  obtain ⟨required, starts, passed⟩ := except_bind_ok.mp passed
  exact ⟨coverageUntil, coverage, required, starts,
    Bool.eq_true_of_not_eq_false (refuse_ok.mp passed)⟩

/-- For an attempt that passes its quote validation, the settlement of a job ends in a valid
receipt, pending, or with a `RunPodManagerError` if and only if it is settleable. -/
theorem job_billing_settles_iff {d : Digests} (texts : JobBillingTexts) (s : Settlement)
    (attempt : BillingAttempt) :
    (∀ quote : ProfileQuote, attempt.validateQuote quote = .ok () →
      (Settles (finalBilling texts s attempt quote) ↔
        Settleable texts s attempt quote.toBillingTerms)) ∧
    ∀ (quote : CapacityQuote) (activation : ActivationReceipt d)
      (submission : ActivatedSubmission),
      bindActivated attempt quote activation submission = .ok () →
      (Settles (finalActivatedBilling texts s attempt quote activation submission) ↔
        Settleable texts s attempt quote.terms) := by
  constructor
  · intro quote passed
    obtain ⟨coverageUntil, covered⟩ := BillingAttempt.validateQuote_covered passed
    rw [settles_iff, ← finalBillingBound_managed_iff quote.sound covered]
    unfold finalBilling
    rw [passed]
    rfl
  · intro quote activation submission passed
    obtain ⟨coverageUntil, covered⟩ := bindActivated_covered passed
    rw [settles_iff, ← finalBillingBound_managed_iff quote.sound covered]
    unfold finalActivatedBilling
    rw [passed]
    rfl

/-! ### A sample settlement -/

namespace Sample

theorem hex_five : Pod.isSha256 (hex '5') = true := by decide +kernel

def jobTexts : JobBillingTexts where
  toBillingTexts := halfHours
  identity _ := hex '5'
  identity_hex _ := hex_five

def profileQuote : ProfileQuote where
  providerQuoteId := "quote-1"
  hourlyWorkerRateUsd := ⟨1, 0⟩
  idleTailSeconds := 60
  maximumQueueDelaySeconds := 60
  maximumWorkerStartSeconds := 60
  maximumExecutionSeconds := 120
  endpointProfileSha256 := hex '1'
  endpointId := "endpoint-1"
  catalogObservedAt := seconds 1704067200
  expiresAt := seconds 1704067260
  checked := by decide +kernel

/-- An attempt of five seconds, in the first hour of 2024. -/
def attemptFields (providerQuoteId : String) : AttemptFields where
  attemptId := "attempt-1"
  jobId := "job-1"
  endpointId := "endpoint-1"
  providerQuoteId := providerQuoteId
  exclusiveWindowSha256 := hex 'c'
  exclusiveBillingHourStarts := [seconds 1704067200]
  submittedAt := seconds 1704067210
  completedAt := seconds 1704067215

def profileAttempt : BillingAttempt := ⟨attemptFields "quote-1", by decide +kernel⟩

/-- The hour is billed in full, and the job waited for `delayMs` and ran for `executionMs`. -/
def settlement (delayMs executionMs : Int) : Settlement where
  restricted := true
  readAt := seconds 1704074400
  job := ⟨"job-1", "COMPLETED", some delayMs, some executionMs⟩
  page := pageOf [recordUpTo "2024-01-01T01:00:00+00:00"]

theorem quoted2024 : (currentQuote (d := digests) request [offer]
    (seconds 1704067200)).toOption.isSome = true := by
  decide +kernel

def quote2024 : CapacityQuote :=
  (currentQuote (d := digests) request [offer] (seconds 1704067200)).toOption.get quoted2024

def activation2024 : ActivationReceipt digests where
  contractVersion := contractVersion
  providerQuoteId := quote2024.providerQuoteId
  quoteSha256 := hex '6'
  planId := "plan-1"
  planSha256 := quote2024.planSha256
  endpointName := "endpoint-1"
  endpointId := "endpoint-1"
  endpointSpecSha256 := quote2024.endpointSpecSha256
  operationDigest := quote2024.operationDigest
  endpointReadbackSha256 := hex '9'
  createStartedAt := seconds 1704067201
  activatedAt := seconds 1704067202
  readbackAt := seconds 1704067203
  reconciledAfterAmbiguousCreate := false
  schemaVersion := schemaVersion
  providerActivationId := "runpod-serverless-activation:" ++ hex '7'
  checked := by decide +kernel

def submission2024 : ActivatedSubmission where
  providerQuoteId := quote2024.providerQuoteId
  quoteSha256 := hex '6'
  providerActivationId := activation2024.providerActivationId
  endpointName := "endpoint-1"
  endpointId := "endpoint-1"
  endpointSpecSha256 := activation2024.endpointSpecSha256
  operationDigest := activation2024.operationDigest
  exclusiveWindowSha256 := hex 'c'
  authorizedAt := seconds 1704067205
  expiresAt := quote2024.expiresAt

def activatedAttempt : BillingAttempt :=
  ⟨attemptFields quote2024.providerQuoteId, by decide +kernel⟩

theorem halfHours_readable (text : String) : ¬ Unreadable halfHours text := by
  have inside : ∀ t, halfHours.fromIsoFormat text = .aware t → InCalendar t := by
    intro t aware
    simp only [halfHours] at aware
    split at aware
    · cases aware
      exact ⟨by decide, by decide⟩
    · split at aware
      · cases aware
        exact ⟨by decide, by decide⟩
      · split at aware
        · cases aware
          exact ⟨by decide, by decide⟩
        · cases aware
  rintro (naive | ⟨t, aware, outside⟩)
  · simp only [halfHours] at naive
    split at naive
    · cases naive
    · split at naive
      · cases naive
      · split at naive <;> cases naive
  · exact outside (inside t aware)

theorem field_readable {fields : List (String × Json)} {name : String} :
    ¬ FieldUnreadable halfHours fields name := by
  rintro ⟨text, _, _, unreadable⟩
  exact halfHours_readable text unreadable

theorem page_readable {page : BillingPage} {endpointId : String} {first windowUntil : Instant} :
    ¬ PageEscapes halfHours page endpointId first windowUntil := by
  rintro ⟨_, _, query, _, _, _, _, unreadable | ⟨_, unreadable | ⟨_, _, _, before, row, after, _,
    _, _, _, unreadable | ⟨_, _, unreadable⟩⟩⟩⟩
  · exact field_readable unreadable
  · exact field_readable unreadable
  · exact field_readable unreadable
  · exact field_readable unreadable

theorem settlement_billed (delayMs executionMs : Int) :
    Billed halfHours (settlement delayMs executionMs).page "endpoint-1" (seconds 1704067200)
      (seconds 1704070800) := by
  have read : [recordUpTo "2024-01-01T01:00:00+00:00"].mapM (parseRecord halfHours "endpoint-1") =
      .ok [⟨seconds 1704067200, seconds 1704070800, ⟨⟨2, 0⟩, ⟨0, 0⟩, ⟨1, 0⟩, ⟨0, 0⟩, ⟨3, 0⟩⟩⟩] := by
    decide +kernel
  refine ⟨pageOf_answers _, _, ⟨read, Tiles.covers hour_pos ⟨rfl, rfl, rfl⟩⟩, ?_⟩
  exact ⟨_, ⟨⟨2, 0⟩, ⟨0, 0⟩, ⟨1, 0⟩, ⟨0, 0⟩, ⟨3, 0⟩⟩, ⟨rfl, by decide +kernel⟩,
    by decide +kernel, by decide +kernel⟩

theorem settlement_fits {attempt : BillingAttempt} {providerQuoteId : String}
    (is : attempt.toAttemptFields = attemptFields providerQuoteId) {delayMs executionMs : Int} :
    TimingFits attempt (settlement delayMs executionMs).job ↔ delayMs + executionMs ≤ 5000 := by
  have elapsed : attemptMs attempt.submittedAt attempt.completedAt = .ok 5000 := by
    rw [is]
    show attemptMs (seconds 1704067210) (seconds 1704067215) = .ok 5000
    decide +kernel
  unfold TimingFits
  rw [elapsed]
  constructor
  · rintro ⟨_, ⟨⟩, fits⟩
    exact fits
  · intro fits
    exact ⟨_, rfl, fits⟩

end Sample

open Sample in
/-- A job that waited for one second and ran for three, within an attempt of five. -/
theorem job_billing_settles_within :
    Settles (finalBilling jobTexts (settlement 1000 3000) profileAttempt profileQuote) ∧
      Settles (finalActivatedBilling jobTexts (settlement 1000 3000) activatedAttempt quote2024
        activation2024 submission2024) := by
  have settleable : ∀ {attempt : BillingAttempt} {providerQuoteId : String}
      {terms : BillingTerms}, attempt.toAttemptFields = attemptFields providerQuoteId →
      Settleable jobTexts (settlement 1000 3000) attempt terms := by
    intro attempt providerQuoteId terms is _ windowFrom lastHour first last
    rw [is] at first last
    cases first
    cases last
    exact ⟨⟨by decide, by decide⟩, fun _ => ⟨page_readable, fun _ =>
      (settlement_fits is).mpr (by decide)⟩⟩
  have settles := @job_billing_settles_iff digests jobTexts (settlement 1000 3000)
  exact ⟨((settles profileAttempt).1 profileQuote (by decide +kernel)).mpr (settleable rfl),
    ((settles activatedAttempt).2 quote2024 activation2024 submission2024
      (by decide +kernel)).mpr (settleable rfl)⟩

open Sample in
/-- A job that waited for three seconds and ran for three is within its quote, and its attempt
of five seconds cannot be settled. -/
theorem job_timing_escapes :
    profileAttempt.validateQuote profileQuote = .ok () ∧
      admitJob (settlement 3000 3000) profileAttempt profileQuote.toBillingTerms = .ok () ∧
      ¬ Settles (finalBilling jobTexts (settlement 3000 3000) profileAttempt profileQuote) := by
  have valid : profileAttempt.validateQuote profileQuote = .ok () := by decide +kernel
  have admitted : admitJob (settlement 3000 3000) profileAttempt profileQuote.toBillingTerms =
      .ok () := by decide +kernel
  refine ⟨valid, admitted, fun settles => ?_⟩
  obtain ⟨coverageUntil, covered⟩ := BillingAttempt.validateQuote_covered valid
  have managed : Refuses (finalBillingBound jobTexts (settlement 3000 3000) profileAttempt
      profileQuote.toBillingTerms profileQuote.endpointProfileSha256) := by
    have ends := settles.managed
    unfold finalBilling at ends
    rw [valid] at ends
    exact ends
  obtain ⟨_, fits⟩ := (finalBillingBound_managed_iff profileQuote.sound covered).mp managed
    admitted _ _ rfl rfl
  have timing := (fits (by decide)).2 (settlement_billed 3000 3000)
  exact absurd ((settlement_fits rfl).mp timing) (by decide)

end KestrelRunpod.Serverless
