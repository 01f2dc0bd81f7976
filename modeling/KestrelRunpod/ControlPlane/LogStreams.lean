import KestrelRunpod.Codec.Json
import Mathlib.Data.Rat.Defs

/-!
# Log streams

`iter_sse` assembles events from the lines that the HTTP client hands it, and the client takes
every line boundary of `str.splitlines` for a line end.  An event stream has fewer of them.

What `iter_sse` delivers is what the stream means with these lines (`iterSse_eq`): the assembler
is right, and goes wrong only where its lines, or the id it starts from, are not the stream's.
-/

namespace KestrelRunpod.LogStreams

open Codec

/-! ## Requests and responses -/

inductive Param
  | int (n : Int)
  | str (s : Text)
  deriving DecidableEq

structure Request where
  resource : Text
  params : List (String × Param)
  headers : List (String × Text)
  deriving DecidableEq

/-- What `_problem_from_response` makes of a body. -/
structure Problem where
  title : String
  detail : String
  errors : List String

/-- How the lines of a response end; the stream may be closed at its deadline. -/
inductive Ending
  | complete
  | failed (className : String) (deadlineExpired : Bool)

structure Response where
  statusCode : ℕ
  problem : Problem
  lines : List Text
  ending : Ending

/-- A `RunPodAPIError` of a GET request. -/
structure ApiError where
  title : String
  detail : String
  statusCode : Option ℕ
  errors : List String
  resource : Text

inductive Failure
  | value (message : String)
  | api (x : ApiError)
  | limit (className : String)

/-- The characters at which `str.splitlines` splits. -/
def isBoundary (c : Char) : Bool :=
  c = '\n' || c = '\r' || c = '\x0b' || c = '\x0c' || c = '\x1c' || c = '\x1d' || c = '\x1e' ||
    c = '\x85' || c = '\u2028' || c = '\u2029'

/-- `str.splitlines`. -/
def splitlines (text : Text) : List Text := lines isBoundary text

/-! ## Decoding -/

/-- The decoded objects. -/
abbrev Object : Type := List (List ℕ × Json)

/-- `_parse_sse_data`; what is raised at a limit of the interpreter is no `JSONDecodeError`. -/
def parseSseData (limits : Text → Option String) (rawData path : Text) : Except Failure Object :=
  match limits rawData with
  | some className => .error (.limit className)
  | none =>
      match loads rawData with
      | none => .error (.api ⟨"Invalid Runpod log event", "SSE data was not valid JSON", some 200,
          [], path⟩)
      | some (.object entries) => .ok entries
      | some _ => .error (.api ⟨"Invalid Runpod log event", "SSE data was not a JSON object",
          some 200, [], path⟩)

/-- What was yielded, each time with `last_sse_event_id`, how this was left, and what was
raised. -/
structure Stream where
  yielded : List (Object × Option Text)
  lastSseEventId : Option Text
  raised : Option Failure

def Stream.yield (payload : Object) (lastSseEventId : Option Text) (later : Stream) : Stream :=
  { later with yielded := (payload, lastSseEventId) :: later.yielded }

/-- `line.partition(":")` and the value without one leading space. -/
def fieldOf (line : Text) : Text × Text :=
  let rawValue := (line.dropWhile (· ≠ ':')).drop 1
  (line.takeWhile (· ≠ ':'), if rawValue.head? = some ' ' then rawValue.drop 1 else rawValue)

section

variable (limits : Text → Option String) (path : Text) (ending : Ending)

/-- `iter_sse` from a line on. -/
def consume (dataLines : List Text) (eventId last : Option Text) : List Text → Stream
  | [] =>
      match ending with
      | .failed className deadlineExpired =>
          ⟨[], last, if deadlineExpired then none
            else some (.api ⟨"Runpod transport failed", className, none, [], path⟩)⟩
      | .complete =>
          if dataLines = [] then ⟨[], last, none⟩
          else
            match parseSseData limits (['\n'].intercalate dataLines) path with
            | .error x => ⟨[], last, some x⟩
            | .ok payload => .yield payload (eventId.or last) ⟨[], eventId.or last, none⟩
  | line :: rest =>
      if line = [] then
        if dataLines = [] then consume dataLines eventId last rest
        else
          match parseSseData limits (['\n'].intercalate dataLines) path with
          | .error x => ⟨[], last, some x⟩
          | .ok payload => .yield payload (eventId.or last) (consume [] none (eventId.or last) rest)
      else if line.head? = some ':' then consume dataLines eventId last rest
      else if (fieldOf line).1 = ['d', 'a', 't', 'a'] then
        consume (dataLines ++ [(fieldOf line).2]) eventId last rest
      else if (fieldOf line).1 = ['i', 'd'] ∧ '\x00' ∉ (fieldOf line).2 then
        consume dataLines (some (fieldOf line).2) last rest
      else consume dataLines eventId last rest

end

/-- What answers a request; without a response, an error of the HTTP client. -/
abbrev Server : Type := Request → Except String Response

/-- The headers of a stream. -/
def streamHeaders (lastEventId : Option Text) : List (String × Text) :=
  match lastEventId with
  | some (c :: id) => [("Accept", "text/event-stream".toList), ("Last-Event-ID", c :: id)]
  | _ => [("Accept", "text/event-stream".toList)]

/-- The request of `iter_sse`. -/
def streamRequest (path : Text) (params : List (String × Param)) (lastEventId : Option Text) :
    Request :=
  ⟨path.dropWhile (· = '/'), params, streamHeaders lastEventId⟩

/-- `iter_sse`, from the id that the transport remembers. -/
def iterSse (limits : Text → Option String) (server : Server) (last : Option Text) (path : Text)
    (params : List (String × Param)) (lastEventId : Option Text)
    (streamWindowSeconds : Option ℚ) : Stream :=
  if streamWindowSeconds.any fun seconds => seconds ≤ 0 then
    ⟨[], last, some (.value "stream_window_seconds must be positive")⟩
  else
    match server (streamRequest path params lastEventId) with
    | .error className =>
        ⟨[], last, some (.api ⟨"Runpod transport failed", className, none, [], path⟩)⟩
    | .ok response =>
        if response.statusCode ≠ 200 then
          ⟨[], last, some (.api ⟨response.problem.title, response.problem.detail,
            some response.statusCode, response.problem.errors, path⟩)⟩
        else consume limits path response.ending [] none last response.lines

/-! ## Pod logs -/

/-- The digits of a percent encoding. -/
def upperHex (n : ℕ) : Char := if n < 10 then .ofNat (48 + n) else .ofNat (55 + n)

/-- The characters that `quote` keeps. -/
def isUnreserved (c : Char) : Bool :=
  c.isAlphanum || c = '_' || c = '.' || c = '-' || c = '~'

/-- `quote(value, safe="")`. -/
def quote (value : Text) : Text :=
  (String.ofList value).toUTF8.toList.flatMap fun byte =>
    if isUnreserved (.ofNat byte.toNat) then [.ofNat byte.toNat]
    else ['%', upperHex (byte.toNat / 16), upperHex (byte.toNat % 16)]

/-- `_segment`. -/
def segment (value : Text) : Except Failure Text :=
  if value = [] then .error (.value "Runpod resource identifier cannot be empty")
  else .ok (quote value)

/-- An optional parameter, which is left out when it is empty. -/
def given (name : String) : Option Text → List (String × Param)
  | some (c :: text) => [(name, .str (c :: text))]
  | _ => []

/-- `iter_pod_logs`. -/
def iterPodLogs (limits : Text → Option String) (server : Server) (last : Option Text)
    (podId : Text) (tail : Int) (source since lastEventId : Option Text)
    (streamWindowSeconds : Option ℚ) : Stream :=
  match segment podId with
  | .error x => ⟨[], last, some x⟩
  | .ok pod =>
      iterSse limits server last ("/pods/".toList ++ pod ++ "/logs".toList)
        (("tail", .int tail) :: (given "source" source ++ given "since" since)) lastEventId
        streamWindowSeconds

/-! ## What a stream means -/

/-- The characters that end a line of an event stream. -/
def endsLine (c : Char) : Bool := c = '\n' || c = '\r'

/-- A text without the byte order mark that may stand before it. -/
def withoutMark : Text → Text
  | '\uFEFF' :: text => text
  | text => text

/-- The lines of an event stream. -/
def streamLines (text : Text) : List Text := lines endsLine (withoutMark text)

/-- The buffers at the start of a stream. -/
def noBuffers : Buffers := ⟨[], none⟩

/-- The messages of an event stream. -/
def messages (text : Text) : List Message := (interpret noBuffers (streamLines text)).1

/-- The text is decoded to the object. -/
def Decodes (limits : Text → Option String) (text : Text) (payload : Object) : Prop :=
  limits text = none ∧ loads text = some (.object payload)

/-- The messages have these objects as their data, and these ids are in force, where `start` is
until there is another. -/
def Mean (limits : Text → Option String) (start : Text) (ms : List Message)
    (events : List (Object × Text)) : Prop :=
  List.Forall₂ (fun m event => Decodes limits m.text event.1 ∧ m.id.getD start = event.2) ms events

/-- The text is an event stream of objects, the last of which is ended. -/
structure Serialises (limits : Text → Option String) (start text : Text)
    (events : List (Object × Text)) : Prop where
  mean : Mean limits start (messages text) events
  ended : (interpret noBuffers (streamLines text)).2.data = []

/-- The stream yields these objects, each with its id; no id is the empty one. -/
def Stream.Delivers (stream : Stream) (events : List (Object × Text)) : Prop :=
  stream.raised = none ∧ stream.yielded.map (fun event => (event.1, event.2.getD [])) = events

/-! ## The assembler -/

section

variable {limits : Text → Option String} {path : Text} {start : Text} {last stored : Option Text}
  {b : Buffers} {ls : List Text} {line text : Text} {m : Message} {ms : List Message}
  {events : List (Object × Text)} {payload : Object}

/-- Messages one by one: the id in force is stored, then the object is yielded. -/
def deliver (limits : Text → Option String) (path : Text) (stored : Option Text) :
    Option Text → List Message → Stream
  | last, [] => ⟨[], last, none⟩
  | last, m :: ms =>
      match parseSseData limits m.text path with
      | .error x => ⟨[], last, some x⟩
      | .ok payload =>
          .yield payload (m.id.or stored) (deliver limits path stored (m.id.or stored) ms)

theorem parseSseData_ok :
    parseSseData limits text path = .ok payload ↔ Decodes limits text payload := by
  unfold parseSseData Decodes
  cases limits text with
  | some className => exact ⟨nofun, nofun⟩
  | none =>
      dsimp only
      cases loads text with
      | none => exact ⟨nofun, nofun⟩
      | some value =>
          cases value with
          | object entries => simp
          | _ => exact ⟨nofun, nofun⟩

theorem fieldOf_eq (line : Text) : fieldOf line = field line := by
  unfold fieldOf field dropSpace
  dsimp only
  generalize (line.dropWhile (· ≠ ':')).drop 1 = value
  split
  · rename_i spaced
    obtain ⟨rest, rfl⟩ := List.head?_eq_some_iff.mp spaced
    rfl
  · rename_i unspaced
    split
    · exact absurd rfl unspaced
    · rfl

/-- The assembler delivers the messages on its lines. -/
theorem consume_eq {eventId last : Option Text} (ids : eventId.or last = b.id.or stored) :
    consume limits path .complete b.data eventId last ls =
      deliver limits path stored last (flushed b ls) := by
  induction ls generalizing b eventId last with
  | nil =>
      rw [consume, flushed_nil]
      split
      · rfl
      · rw [deliver, ids]
        rfl
  | cons line ls ih =>
      rw [consume, flushed_cons, Buffers.take]
      split
      · split
        · exact ih ids
        · rw [Option.toList_some, List.singleton_append, deliver, ids]
          have later : consume limits path .complete [] none (b.id.or stored) ls =
              deliver limits path stored (b.id.or stored) (flushed { b with data := [] } ls) :=
            ih (b := { b with data := [] }) rfl
          rw [later]
          rfl
      · split
        · exact ih ids
        · rw [fieldOf_eq]
          unfold Buffers.set
          dsimp only
          split
          · exact ih (b := { b with data := b.data ++ [(field line).2] }) ids
          · split
            · exact ih (b := { b with id := some (field line).2 }) rfl
            · exact ih ids

/-- What is delivered of messages. -/
theorem deliver_delivers : (deliver limits path stored last ms).Delivers events ↔
    Mean limits (stored.getD []) ms events := by
  induction ms generalizing last events with
  | nil =>
      constructor
      · rintro ⟨_, rfl⟩
        exact .nil
      · rintro ⟨⟩
        exact ⟨rfl, rfl⟩
  | cons m ms ih =>
      constructor
      · rintro ⟨quiet, rfl⟩
        rw [deliver] at quiet
        rw [deliver]
        cases parsed : parseSseData limits m.text path with
        | error x =>
            rw [parsed] at quiet
            cases quiet
        | ok payload =>
            rw [parsed] at quiet
            refine .cons ⟨?_, ?_⟩ (ih.mp ⟨quiet, rfl⟩)
            · exact parseSseData_ok.mp parsed
            · cases m.id <;> rfl
      · intro mean
        cases mean with
        | @cons _ event _ events first rest =>
            obtain ⟨decodes, is⟩ := first
            rw [deliver, parseSseData_ok.mpr decodes]
            obtain ⟨quiet, delivered⟩ := ih.mpr rest
            have id : (m.id.or stored).getD [] = event.2 := by
              rw [← is]
              cases m.id <;> rfl
            refine ⟨quiet, ?_⟩
            show (event.1, (m.id.or stored).getD []) :: _ = event :: events
            rw [id, ← delivered]

theorem Mean.decodes (mean : Mean limits start ms events) : ∀ m ∈ ms, ∃ payload,
    Decodes limits m.text payload := by
  induction mean with
  | nil => exact fun _ member => absurd member List.not_mem_nil
  | @cons m event ms events first _ ih =>
      intro m' member
      rcases List.mem_cons.mp member with rfl | member
      · exact ⟨event.1, first.1⟩
      · exact ih m' member

/-- The values of decoded messages have the shape of a JSON text. -/
theorem Mean.lexical (mean : Mean limits start ms events) {value : Text} (member : m ∈ ms)
    (inside : value ∈ m.data) : Lexical value := by
  obtain ⟨payload, _, loaded⟩ := mean.decodes m member
  exact (loads_lexical loaded).line value inside

/-- From another start, the events mean the same if each of them has an id of its own. -/
theorem Mean.restart {start' : Text} (mean : Mean limits start ms events) :
    Mean limits start' ms events ↔ start' = start ∨ ∀ m ∈ ms, m.id ≠ none := by
  constructor
  · intro mean'
    by_cases same : start' = start
    · exact .inl same
    · refine .inr ?_
      induction mean with
      | nil => exact fun _ member => absurd member List.not_mem_nil
      | @cons m event ms events first _ ih =>
          cases mean' with
          | cons first' rest' =>
              intro m' member
              rcases List.mem_cons.mp member with rfl | member
              · intro none
                have is := first.2
                have is' := first'.2
                rw [none, Option.getD_none] at is is'
                exact same (is'.trans is.symm)
              · exact ih rest' m' member
  · rintro (rfl | identified)
    · exact mean
    · induction mean with
      | nil => exact .nil
      | @cons m event ms events first _ ih =>
          refine .cons ⟨first.1, ?_⟩ (ih fun m' member =>
            identified m' (List.mem_cons_of_mem _ member))
          obtain ⟨id, is⟩ := Option.ne_none_iff_exists'.mp (identified m List.mem_cons_self)
          rw [← first.2, is]
          rfl

/-! ## Boundaries -/

theorem isBoundary_of_endsLine {c : Char} (ends : endsLine c = true) : isBoundary c = true := by
  simp only [endsLine, Bool.or_eq_true, decide_eq_true_eq] at ends
  rcases ends with rfl | rfl <;> rfl

/-- A boundary that ends no line of an event stream stands in no JSON text outside of strings. -/
theorem not_isAscii {c : Char} (boundary : isBoundary c = true) (goes : endsLine c = false) :
    isAscii c = false := by
  simp only [isBoundary, Bool.or_eq_true, decide_eq_true_eq] at boundary
  rcases boundary with ((((((((rfl | rfl) | rfl) | rfl) | rfl) | rfl) | rfl) | rfl) | rfl) | rfl <;>
    first | rfl | cases goes

/-- The text has no boundary but the ends of its lines, and no byte order mark. -/
structure Plain (text : Text) : Prop where
  boundary : ∀ c ∈ text, isBoundary c = true → endsLine c = true
  unmarked : text.head? ≠ some '\uFEFF'

theorem Plain.of_all (check : text.all (fun c => !isBoundary c || endsLine c) = true)
    (unmarked : text.head? ≠ some '\uFEFF') : Plain text := by
  refine ⟨fun c member boundary => ?_, unmarked⟩
  have fine := List.all_eq_true.mp check c member
  rw [boundary] at fine
  exact fine

theorem withoutMark_of (unmarked : text.head? ≠ some '\uFEFF') : withoutMark text = text := by
  unfold withoutMark
  split
  · exact absurd rfl unmarked
  · rfl

theorem Plain.splitlines (plain : Plain text) : splitlines text = streamLines text := by
  rw [streamLines, withoutMark_of plain.unmarked]
  refine lines_congr fun c member => ?_
  cases ends : endsLine c with
  | true => exact isBoundary_of_endsLine ends
  | false =>
      cases boundary : isBoundary c with
      | false => rfl
      | true =>
          have ended := plain.boundary c member boundary
          rw [ends] at ended
          cases ended

/-- The first boundary in a value. -/
theorem exists_first {value : Text} (present : ∃ c ∈ value, isBoundary c = true) :
    ∃ first c rest, value = first ++ c :: rest ∧ isBoundary c = true ∧
      ∀ x ∈ first, isBoundary x = false := by
  induction value with
  | nil =>
      obtain ⟨c, member, _⟩ := present
      exact absurd member List.not_mem_nil
  | cons x value ih =>
      cases boundary : isBoundary x with
      | true => exact ⟨[], x, value, rfl, boundary, fun _ member => absurd member List.not_mem_nil⟩
      | false =>
          have later : ∃ c ∈ value, isBoundary c = true := by
            obtain ⟨c, member, is⟩ := present
            rcases List.mem_cons.mp member with rfl | member
            · rw [boundary] at is
              cases is
            · exact ⟨c, member, is⟩
          obtain ⟨first, c, rest, rfl, is, free⟩ := ih later
          refine ⟨x :: first, c, rest, rfl, is, fun y member => ?_⟩
          rcases List.mem_cons.mp member with rfl | member
          · exact boundary
          · exact free y member

/-- A boundary in the data of an event breaks an object off in its string, so that what is
assembled cannot be decoded. -/
theorem not_mean_of_boundary {start' : Text} {events' : List (Object × Text)} {c : Char}
    (mean : Mean limits start (messages text) events) (unmarked : text.head? ≠ some '\uFEFF')
    (member : m ∈ messages text) (inside : c ∈ m.text) (boundary : isBoundary c = true)
    (goes : endsLine c = false) :
    ¬ Mean limits start' (flushed noBuffers (splitlines text)) events' := by
  intro mean'
  have visible : c ≠ '\n' := by
    rintro rfl
    cases goes
  obtain ⟨value, of, stands⟩ := m.mem_text inside visible
  have lost : value ∈ (streamLines text).filterMap dataValue := by
    have all : (messages text).flatMap Message.data ++ _ = [] ++ (streamLines text).filterMap
      dataValue := interpret_data
    rw [List.nil_append] at all
    rw [← all]
    exact List.mem_append_left _ (List.mem_flatMap.mpr ⟨m, member, of⟩)
  obtain ⟨line, on, is⟩ := List.mem_filterMap.mp lost
  obtain ⟨first, c', rest, rfl, boundary', free⟩ := exists_first ⟨c, stands, boundary⟩
  rw [streamLines, withoutMark_of unmarked] at on
  have goes' : endsLine c' = false :=
    lines_free line on c' (dataValue_subset is c' (by simp))
  have name : ['d', 'a', 't', 'a', ':', ' '].all (fun x => !isBoundary x) = true := rfl
  have plain : ∀ x ∈ ['d', 'a', 't', 'a', ':', ' '], isBoundary x = false := by
    simpa using name
  obtain ⟨a, cut, data⟩ := dataValue_cut is boundary' free plain
  have broken : a ∈ splitlines text := (lines_cut fun _ => isBoundary_of_endsLine).mem on cut
  have kept : first ∈ (flushed noBuffers (splitlines text)).flatMap Message.data := by
    rw [flushed_data]
    exact List.mem_append_right _ (List.mem_filterMap.mpr ⟨a, broken, data⟩)
  obtain ⟨m', member', of'⟩ := List.mem_flatMap.mp kept
  exact (mean.lexical member of).broken (not_isAscii boundary' goes') (mean'.lexical member' of')

end

/-! ## Faithful streams -/

section

variable {limits : Text → Option String} {server : Server} {last lastEventId : Option Text}
  {path start text : Text} {params : List (String × Param)} {streamWindowSeconds : Option ℚ}
  {problem : Problem} {events : List (Object × Text)}

/-- The request of a stream is answered with the lines of a text. -/
def Serves (server : Server) (path : Text) (params : List (String × Param))
    (lastEventId : Option Text) (text : Text) : Prop :=
  ∃ problem, server (streamRequest path params lastEventId) =
    .ok ⟨200, problem, splitlines text, .complete⟩

/-- `iter_sse` delivers the messages on its lines. -/
theorem iterSse_eq (opens : ∀ seconds ∈ streamWindowSeconds, 0 < seconds)
    (served : Serves server path params lastEventId text) :
    iterSse limits server last path params lastEventId streamWindowSeconds =
      deliver limits path last last (flushed noBuffers (splitlines text)) := by
  obtain ⟨problem, answered⟩ := served
  have opened : ¬ (streamWindowSeconds.any fun seconds => decide (seconds ≤ 0)) = true := by
    cases streamWindowSeconds with
    | none => simp
    | some seconds => simpa [Rat.not_le] using opens seconds rfl
  rw [iterSse, if_neg opened, answered]
  exact consume_eq (b := noBuffers) rfl

/-- The logs of a Pod are a stream of their path. -/
theorem iterPodLogs_delivers {podId : Text} {tail : Int} {source since : Option Text}
    (named : podId ≠ []) (opens : ∀ seconds ∈ streamWindowSeconds, 0 < seconds)
    (served : Serves server ("/pods/".toList ++ quote podId ++ "/logs".toList)
      (("tail", .int tail) :: (given "source" source ++ given "since" since)) lastEventId text) :
    (iterPodLogs limits server last podId tail source since lastEventId
      streamWindowSeconds).Delivers events ↔
      Mean limits (last.getD []) (flushed noBuffers (splitlines text)) events := by
  rw [iterPodLogs, segment, if_neg named]
  dsimp only
  rw [iterSse_eq opens served, deliver_delivers]

/-- Log streams are decoded faithfully exactly if the text means the same with the boundaries of
`str.splitlines` for line ends and the remembered id for the first one.  A text without other
boundaries is, if the remembered id is the one the stream starts from or all events have theirs;
a text with another boundary in the data of an event is not. -/
theorem stream_faithful_iff (opens : ∀ seconds ∈ streamWindowSeconds, 0 < seconds)
    (served : Serves server path params lastEventId text)
    (serialises : Serialises limits start text events) :
    ((iterSse limits server last path params lastEventId streamWindowSeconds).Delivers events ↔
      Mean limits (last.getD []) (flushed noBuffers (splitlines text)) events) ∧
    (Plain text →
      ((iterSse limits server last path params lastEventId streamWindowSeconds).Delivers events ↔
        last.getD [] = start ∨ ∀ m ∈ messages text, m.id ≠ none)) ∧
    ((text.head? ≠ some '\uFEFF' ∧ ∃ m ∈ messages text, ∃ c ∈ m.text,
        isBoundary c = true ∧ endsLine c = false) →
      ¬ (iterSse limits server last path params lastEventId streamWindowSeconds).Delivers
        events) := by
  rw [iterSse_eq opens served, deliver_delivers]
  refine ⟨Iff.rfl, fun plain => ?_, ?_⟩
  · have same : flushed noBuffers (splitlines text) = messages text := by
      rw [plain.splitlines]
      exact flushed_of_ended serialises.ended
    rw [same]
    exact serialises.mean.restart
  · rintro ⟨unmarked, m, member, c, inside, boundary, goes⟩
    exact not_mean_of_boundary serialises.mean unmarked member inside boundary goes

end

/-! ### Two streams -/

namespace Sample

def path : Text := "/pods/p/logs".toList

/-- A server that answers every request with one text. -/
def server (text : Text) : Server := fun _ => .ok ⟨200, ⟨"", "", []⟩, splitlines text, .complete⟩

theorem serves (text : Text) : Serves (server text) path [] none text := ⟨⟨"", "", []⟩, rfl⟩

/-- A stream without a window. -/
theorem unbounded : ∀ seconds ∈ (none : Option ℚ), 0 < seconds := nofun

/-- An object with one line of a log. -/
def entry (points : List ℕ) : Object := [("line".toList.map Char.toNat, .string points)]

/-- The text is decoded to one line of a log. -/
def logs (text : Text) (points : List ℕ) : Bool :=
  match loads text with
  | some (.object [(key, .string found)]) =>
      key = "line".toList.map Char.toNat && found = points
  | _ => false

theorem decodes {text : Text} {points : List ℕ} (check : logs text points = true) :
    Decodes (fun _ => none) text (entry points) := by
  refine ⟨rfl, ?_⟩
  unfold logs at check
  split at check
  · rename_i key found loaded
    simp only [Bool.and_eq_true, decide_eq_true_eq] at check
    rw [loaded, check.1, check.2, entry]
  · cases check

/-- Two events, the first of them with an id and on two lines, a comment and another field. -/
def text : Text :=
  ": hello\r\nid: 1\rdata: \x7b\"line\":\ndata:\"a\"\x7d\n\n".toList ++
    "event: log\ndata: \x7b\"line\": \"b\"\x7d\r\r".toList

theorem messages_text : messages text =
    [⟨["\x7b\"line\":".toList, "\"a\"\x7d".toList], some ['1']⟩,
      ⟨["\x7b\"line\": \"b\"\x7d".toList], some ['1']⟩] := by decide +kernel

theorem serialises_text :
    Serialises (fun _ => none) [] text [(entry [97], ['1']), (entry [98], ['1'])] := by
  refine ⟨?_, by decide +kernel⟩
  rw [messages_text]
  refine .cons ⟨decodes (by decide +kernel), rfl⟩ (.cons ⟨decodes (by decide +kernel), rfl⟩ .nil)

/-- A log line with a line separator in it. -/
def separated : Text := "data: \x7b\"line\":\"a\u2028b\"\x7d\n\n".toList

theorem messages_separated : messages separated =
    [⟨["\x7b\"line\":\"a\u2028b\"\x7d".toList], none⟩] := by decide +kernel

theorem serialises_separated :
    Serialises (fun _ => none) [] separated [(entry [97, 0x2028, 98], [])] := by
  refine ⟨?_, by decide +kernel⟩
  rw [messages_separated]
  exact .cons ⟨decodes (by decide +kernel), rfl⟩ .nil

end Sample

/-- A stream without other boundaries, from a transport that remembers no id. -/
theorem stream_faithful_iff_plain :
    (iterSse (fun _ => none) (Sample.server Sample.text) none Sample.path [] none none).Delivers
      [(Sample.entry [97], ['1']), (Sample.entry [98], ['1'])] := by
  exact ((stream_faithful_iff Sample.unbounded (Sample.serves Sample.text)
    Sample.serialises_text).2.1 (.of_all (by decide +kernel) (by decide +kernel))).mpr (.inl rfl)

/-- A line separator in a string of an object. -/
theorem separator_raises : ¬ ∀ (limits : Text → Option String) (server : Server)
    (last lastEventId : Option Text) (path start text : Text) (params : List (String × Param))
    (streamWindowSeconds : Option ℚ) (events : List (Object × Text)),
    (∀ seconds ∈ streamWindowSeconds, 0 < seconds) →
    Serves server path params lastEventId text →
    Serialises limits start text events →
    (iterSse limits server last path params lastEventId streamWindowSeconds).Delivers events := by
  intro faithful
  obtain ⟨quiet, _⟩ := faithful (fun _ => none) (Sample.server Sample.separated) none none
    Sample.path [] Sample.separated [] none _ Sample.unbounded (Sample.serves _)
    Sample.serialises_separated
  have raised : (iterSse (fun _ => none) (Sample.server Sample.separated) none Sample.path [] none
      none).raised.isSome = true := by decide +kernel
  rw [quiet] at raised
  cases raised

end KestrelRunpod.LogStreams
