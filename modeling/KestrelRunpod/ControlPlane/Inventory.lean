import KestrelRunpod.ControlPlane.Resources
import KestrelRunpod.Numeric.Traverse
import KestrelRunpod.Pod.Errors

/-!
# Inventory pagination

`_list_resources` follows the cursors of a paged listing, each page fetched by a GET that the
transport may retry.  The server is any function from the attempts made so far, latest first, to
a reply, so it may answer one cursor differently every time it is asked.

`Chain` is the server's side: the pages that following its cursors leads to, whatever the walk
checks.  `walk_ok_iff` relates the walk to it.
-/

namespace KestrelRunpod.ControlPlane

open Numeric Traverse
open Serverless (Json Exn refuse refuse_bind_ok)

/-! ## The transport -/

/-- A GET request. -/
structure Request where
  path : String
  params : Fields
  cursor : Option String

/-- One HTTP attempt at a request; the first attempt is number zero. -/
structure Attempt where
  request : Request
  attempt : ℕ

/-- The body of a response. -/
inductive Content
  | empty
  | undecodable
  | json (value : Json)

inductive Reply
  | failed (className : String)
  | response (statusCode : ℕ) (content : Content)

/-- `_RETRYABLE_STATUSES`. -/
def retryableStatuses : List ℕ := [429, 502, 503, 504]

namespace Reply

/-- A GET that is answered so is attempted again while retries remain. -/
def retried : Reply → Bool
  | .failed _ => true
  | .response statusCode _ => statusCode != 200 && statusCode ∈ retryableStatuses

/-- How a request ends whose last attempt is answered so. -/
def outcome : Reply → Except Exn Content
  | .failed _ => .error (.api none)
  | .response statusCode content =>
      if statusCode = 200 then .ok content else .error (.api (some statusCode))

end Reply

/-- `RunpodTransport`. -/
structure Transport where
  maxSafeRetries : ℕ
  send : List Attempt → Reply

namespace Transport

variable (t : Transport)

/-- The loop of `_request` for a GET, with some retries left. -/
def attempts (request : Request) (attempt : ℕ) :
    ℕ → List Attempt → List Attempt × Except Exn Content
  | 0, log => (⟨request, attempt⟩ :: log, (t.send (⟨request, attempt⟩ :: log)).outcome)
  | left + 1, log =>
      let sent := ⟨request, attempt⟩ :: log
      if (t.send sent).retried then attempts request (attempt + 1) left sent
      else (sent, (t.send sent).outcome)

/-- What `request_json` makes of the content of a response. -/
def decode : Content → Except Exn (Option Fields)
  | .empty => .ok none
  | .json (.obj fields) => .ok (some fields)
  | .undecodable | .json _ => .error (.api (some 200))

/-- `request_json("GET", path, params=params)`. -/
def requestJson (request : Request) (log : List Attempt) :
    List Attempt × Except Exn (Option Fields) :=
  let (log, outcome) := t.attempts request 0 t.maxSafeRetries log
  (log, outcome >>= decode)

end Transport

/-! ## The walk -/

/-- What one listing asks for, and what it makes of an item. -/
structure Inventory (β : Type) where
  path : String
  key : String
  params : Fields
  fromDict : Fields → Except Exn β

/-- `_required_payload`. -/
def requiredPayload : Option Fields → Except Exn Fields
  | none => .error (.manager "Runpod v2 returned an empty response")
  | some value => .ok value

/-- `_list_envelope`. -/
def listEnvelope (payload : Fields) (key : String) : Except Exn (List Fields) :=
  match Json.get payload key with
  | .arr items =>
      items.mapM fun item => match item with
        | .obj fields => .ok fields
        | _ => .error (.manager ("Invalid v2 list envelope item in '" ++ key ++ "'"))
  | _ => .error (.manager ("Invalid v2 list envelope: expected '" ++ key ++ "'"))

/-- The cursor of the next page, after the checks of the pagination metadata. -/
def nextCursor (payload : Fields) (seenCursors : List String) : Except Exn (Option String) :=
  match Json.get payload "pagination" with
  | .obj pagination =>
      match Json.get pagination "hasNextPage", pagination.any fun f => f.1 = "nextCursor" with
      | .bool true, true =>
          match Json.get pagination "nextCursor" with
          | .str cursor =>
              if Pod.isBlank cursor ∨ cursor ∈ seenCursors then
                .error (.manager "Invalid or repeated v2 pagination cursor")
              else .ok (some cursor)
          | _ => .error (.manager "Invalid or repeated v2 pagination cursor")
      | .bool false, true =>
          match Json.get pagination "nextCursor" with
          | .null => .ok none
          | _ => .error (.manager "Invalid final v2 pagination cursor")
      | _, _ => .error (.manager "Invalid v2 pagination metadata")
  | _ => .error (.manager "Invalid v2 pagination metadata")

/-- The identity of an item: a text that is not empty. -/
def identity (item : Fields) : Option String :=
  match Json.get item "id" with
  | .str id => if id = "" then none else some id
  | _ => none

/-- The items of one page, each yielded to the listing, which reads it at once. -/
def visit {β : Type} (fromDict : Fields → Except Exn β) :
    List String → List Fields → Except Exn (List String × List β)
  | seenIds, [] => .ok (seenIds, [])
  | seenIds, item :: items =>
      match identity item with
      | none => .error (.manager "Invalid v2 inventory resource identity")
      | some id => do
          refuse (id ∈ seenIds) (.manager "Duplicate v2 inventory resource identity")
          let resource ← fromDict item
          let (seenIds, resources) ← visit fromDict (id :: seenIds) items
          .ok (seenIds, resource :: resources)

/-- What one page adds to the walk. -/
structure Visited (β : Type) where
  cursor : Option String
  seenIds : List String
  resources : List β

namespace Inventory

variable {β : Type} (inventory : Inventory β)

def request (cursor : Option String) : Request := ⟨inventory.path, inventory.params, cursor⟩

/-- The checks of one page, in order. -/
def readPage (seenCursors seenIds : List String) (payload : Option Fields) :
    Except Exn (Visited β) := do
  let payload ← requiredPayload payload
  let items ← listEnvelope payload inventory.key
  let cursor ← nextCursor payload seenCursors
  let (seenIds, resources) ← visit inventory.fromDict seenIds items
  .ok ⟨cursor, seenIds, resources⟩

/-- The loop of `_list_resources`, with some pages left. -/
def walk (t : Transport) : ℕ → Option String → List String → List String → List Attempt →
    List Attempt × Except Exn (List β)
  | 0, _, _, _, log =>
      (log, .error
        (.manager "Runpod inventory exceeded max_inventory_pages; completeness is unknown"))
  | left + 1, cursor, seenCursors, seenIds, log =>
      let (log, payload) := t.requestJson (inventory.request cursor) log
      match payload >>= inventory.readPage seenCursors seenIds with
      | .error x => (log, .error x)
      | .ok ⟨none, _, resources⟩ => (log, .ok resources)
      | .ok ⟨some next, seenIds, resources⟩ =>
          let (log, rest) := walk t left (some next) (next :: seenCursors) seenIds log
          (log, rest.map (resources ++ ·))

/-- A whole listing: the attempts it makes, and its result. -/
def list (t : Transport) (maxInventoryPages : ℕ) : List Attempt × Except Exn (List β) :=
  inventory.walk t maxInventoryPages none [] [] []

end Inventory

def pods : Inventory PodResource :=
  ⟨"/pods", "pods", [("includeClusterPods", .bool true)], PodResource.fromDict⟩

def endpoints : Inventory EndpointResource :=
  ⟨"/serverless", "endpoints", [], EndpointResource.fromDict⟩

def networkVolumes : Inventory NetworkVolume :=
  ⟨"/network-volumes", "networkVolumes", [], NetworkVolume.fromDict⟩

/-- `list_pods`. -/
def listPods (t : Transport) (maxInventoryPages : ℕ) :
    List Attempt × Except Exn (List PodResource) := pods.list t maxInventoryPages

/-- `list_endpoints`. -/
def listEndpoints (t : Transport) (maxInventoryPages : ℕ) :
    List Attempt × Except Exn (List EndpointResource) := endpoints.list t maxInventoryPages

/-- `list_network_volumes`. -/
def listNetworkVolumes (t : Transport) (maxInventoryPages : ℕ) :
    List Attempt × Except Exn (List NetworkVolume) := networkVolumes.list t maxInventoryPages

/-! ## The server's pages -/

/-- A page of a listing. -/
structure Page where
  items : List Fields
  next : Option String

/-- The payload is the page: its items are objects, and its metadata says that it is the last one
or names a next cursor that is not blank. -/
inductive Describes (key : String) (payload : Fields) : Page → Prop
  | final {items : List Fields} {pagination : Fields}
      (envelope : Json.get payload key = .arr (items.map .obj))
      (metadata : Json.get payload "pagination" = .obj pagination)
      (last : Json.get pagination "hasNextPage" = .bool false)
      (present : pagination.any (fun field => field.1 = "nextCursor") = true)
      (closed : Json.get pagination "nextCursor" = .null) : Describes key payload ⟨items, none⟩
  | onward {items : List Fields} {pagination : Fields} {cursor : String}
      (envelope : Json.get payload key = .arr (items.map .obj))
      (metadata : Json.get payload "pagination" = .obj pagination)
      (more : Json.get pagination "hasNextPage" = .bool true)
      (opened : Json.get pagination "nextCursor" = .str cursor)
      (named : Pod.isBlank cursor = false) : Describes key payload ⟨items, some cursor⟩

/-- The pages that following the server's cursors leads to, from a cursor to a final page. -/
inductive Chain {β : Type} (inventory : Inventory β) (t : Transport) :
    Option String → List Attempt → List Page → Prop
  | final {cursor : Option String} {log : List Attempt} {payload : Fields} {items : List Fields}
      (answered : (t.requestJson (inventory.request cursor) log).2 = .ok (some payload))
      (page : Describes inventory.key payload ⟨items, none⟩) :
      Chain inventory t cursor log [⟨items, none⟩]
  | onward {cursor : Option String} {log : List Attempt} {payload : Fields} {items : List Fields}
      {next : String} {pages : List Page}
      (answered : (t.requestJson (inventory.request cursor) log).2 = .ok (some payload))
      (page : Describes inventory.key payload ⟨items, some next⟩)
      (rest : Chain inventory t (some next) (t.requestJson (inventory.request cursor) log).1
        pages) :
      Chain inventory t cursor log (⟨items, some next⟩ :: pages)

/-- The page requests among the attempts. -/
def pageRequests (log : List Attempt) : ℕ := log.countP fun attempt => attempt.attempt = 0

/-- The chain of pages is within the bound, repeats no cursor, and identifies every item once. -/
structure Sound (maxInventoryPages : ℕ) (pages : List Page) : Prop where
  bounded : pages.length ≤ maxInventoryPages
  cursors : (pages.filterMap Page.next).Nodup
  ids : ∃ ids : List String, (pages.flatMap Page.items).map identity = ids.map some ∧ ids.Nodup

/-! ## The attempts of a walk -/

section

variable {β : Type} {inventory : Inventory β} {t : Transport}

theorem attempts_pages (request : Request) (attempt left : ℕ) (log : List Attempt) :
    pageRequests (t.attempts request attempt left log).1 =
      pageRequests log + if attempt = 0 then 1 else 0 := by
  induction left generalizing attempt log with
  | zero =>
      unfold Transport.attempts pageRequests
      simp [List.countP_cons]
  | succ left ih =>
      unfold Transport.attempts
      dsimp only
      split
      · rw [ih]
        unfold pageRequests
        simp [List.countP_cons]
      · unfold pageRequests
        simp [List.countP_cons]

theorem attempts_length (request : Request) (attempt left : ℕ) (log : List Attempt) :
    (t.attempts request attempt left log).1.length ≤ log.length + (left + 1) := by
  induction left generalizing attempt log with
  | zero =>
      unfold Transport.attempts
      simp
  | succ left ih =>
      unfold Transport.attempts
      dsimp only
      split
      · have later := ih (attempt + 1) (⟨request, attempt⟩ :: log)
        rw [List.length_cons] at later
        omega
      · rw [List.length_cons]
        omega

theorem requestJson_pages (request : Request) (log : List Attempt) :
    pageRequests (t.requestJson request log).1 = pageRequests log + 1 :=
  attempts_pages request 0 t.maxSafeRetries log

theorem requestJson_length (request : Request) (log : List Attempt) :
    (t.requestJson request log).1.length ≤ log.length + (t.maxSafeRetries + 1) :=
  attempts_length request 0 t.maxSafeRetries log

/-- One page of the walk: the request, and then the end of the walk or its next page. -/
theorem walk_succ (left : ℕ) (cursor : Option String) (seenCursors seenIds : List String)
    (log : List Attempt) :
    inventory.walk t (left + 1) cursor seenCursors seenIds log =
      match (t.requestJson (inventory.request cursor) log).2 >>=
        inventory.readPage seenCursors seenIds with
      | .error x => ((t.requestJson (inventory.request cursor) log).1, .error x)
      | .ok ⟨none, _, resources⟩ =>
          ((t.requestJson (inventory.request cursor) log).1, .ok resources)
      | .ok ⟨some next, seenIds, resources⟩ =>
          ((inventory.walk t left (some next) (next :: seenCursors) seenIds
              (t.requestJson (inventory.request cursor) log).1).1,
            (inventory.walk t left (some next) (next :: seenCursors) seenIds
              (t.requestJson (inventory.request cursor) log).1).2.map (resources ++ ·)) := rfl

/-- A walk requests at most a page for each page that is left, and each request makes at most
one attempt more than the retries. -/
theorem walk_bounded (left : ℕ) (cursor : Option String) (seenCursors seenIds : List String)
    (log : List Attempt) :
    pageRequests (inventory.walk t left cursor seenCursors seenIds log).1 ≤
        pageRequests log + left ∧
      (inventory.walk t left cursor seenCursors seenIds log).1.length ≤
        log.length + left * (t.maxSafeRetries + 1) := by
  induction left generalizing cursor seenCursors seenIds log with
  | zero => simp [Inventory.walk]
  | succ left ih =>
      have pages := requestJson_pages (t := t) (inventory.request cursor) log
      have length := requestJson_length (t := t) (inventory.request cursor) log
      have product : (left + 1) * (t.maxSafeRetries + 1) =
          left * (t.maxSafeRetries + 1) + (t.maxSafeRetries + 1) := Nat.succ_mul _ _
      rw [walk_succ]
      split <;> dsimp only
      · constructor <;> omega
      · constructor <;> omega
      · rename_i next seenIds _ _
        obtain ⟨laterPages, laterLength⟩ := ih (some next) (next :: seenCursors) seenIds
          (t.requestJson (inventory.request cursor) log).1
        constructor <;> omega

end

/-! ## Texts seen once -/

/-- The new texts are distinct, and none of them was seen before. -/
def Fresh (seen new : List String) : Prop := new.Nodup ∧ ∀ text ∈ new, text ∉ seen

section

variable {seen new later : List String} {text : String}

theorem fresh_nil : Fresh seen [] := ⟨List.nodup_nil, by simp⟩

theorem fresh_of_nothing : Fresh [] new ↔ new.Nodup := by
  unfold Fresh
  simp

theorem fresh_cons : Fresh seen (text :: new) ↔ text ∉ seen ∧ Fresh (text :: seen) new := by
  unfold Fresh
  constructor
  · rintro ⟨distinct, unseen⟩
    obtain ⟨other, distinct⟩ := List.nodup_cons.mp distinct
    have first : text ∉ seen := unseen text List.mem_cons_self
    refine ⟨first, distinct, fun a member => ?_⟩
    have apart : a ≠ text := fun is => other (is ▸ member)
    have before : a ∉ seen := unseen a (List.mem_cons_of_mem _ member)
    exact fun seen => (List.mem_cons.mp seen).elim apart before
  · rintro ⟨first, distinct, unseen⟩
    have other : text ∉ new := fun member => unseen text member List.mem_cons_self
    refine ⟨List.nodup_cons.mpr ⟨other, distinct⟩, fun a member => ?_⟩
    rcases List.mem_cons.mp member with rfl | later
    · exact first
    · exact fun is => unseen a later (List.mem_cons_of_mem _ is)

theorem fresh_append :
    Fresh seen (new ++ later) ↔ Fresh seen new ∧ Fresh (new.reverse ++ seen) later := by
  induction new generalizing seen with
  | nil => simp [fresh_nil]
  | cons text new ih =>
      rw [List.cons_append, fresh_cons, fresh_cons, ih, List.reverse_cons, List.append_assoc,
        List.singleton_append, and_assoc]

end

theorem except_map_ok {α β : Type} {e : Except Exn α} {f : α → β} {b : β} :
    e.map f = .ok b ↔ ∃ a, e = .ok a ∧ f a = b := by
  cases e with
  | error x => simp [Except.map]
  | ok a => simp [Except.map]

/-! ## The checks of a page -/

section

variable {β : Type} {fromDict : Fields → Except Exn β} {key : String} {payload : Fields}

theorem listEnvelope_ok {items : List Fields} :
    listEnvelope payload key = .ok items ↔ Json.get payload key = .arr (items.map .obj) := by
  unfold listEnvelope
  cases Json.get payload key with
  | arr found =>
      rw [Json.arr.injEq]
      dsimp only
      rw [mapM_ok_iff]
      constructor
      · intro reads
        induction reads with
        | nil => rfl
        | @cons value item _ _ read _ ih =>
            cases value with
            | obj fields =>
                cases read
                rw [ih, List.map_cons]
            | _ => cases read
      · rintro rfl
        induction items with
        | nil => exact .nil
        | cons item items ih => exact .cons rfl ih
  | _ => simp

theorem Describes.envelope {page : Page} (describes : Describes key payload page) :
    Json.get payload key = .arr (page.items.map .obj) := by
  cases describes with
  | final envelope => exact envelope
  | onward envelope => exact envelope

/-- The next cursor is the one of a page that the payload describes. -/
theorem nextCursor_ok {seenCursors : List String} {items : List Fields} {cursor : Option String}
    (envelope : Json.get payload key = .arr (items.map .obj)) :
    nextCursor payload seenCursors = .ok cursor ↔
      Describes key payload ⟨items, cursor⟩ ∧ Fresh seenCursors cursor.toList := by
  constructor
  · intro ok
    unfold nextCursor at ok
    split at ok
    · rename_i pagination metadata
      split at ok
      · rename_i more present
        split at ok
        · rename_i text opened
          split at ok
          · cases ok
          · rename_i fine
            cases ok
            obtain ⟨named, unseen⟩ := not_or.mp fine
            have fresh : Fresh seenCursors [text] := fresh_cons.mpr ⟨unseen, fresh_nil⟩
            exact ⟨.onward envelope metadata more opened (Bool.eq_false_iff.mpr named), fresh⟩
        · cases ok
      · rename_i last present
        split at ok
        · rename_i closed
          cases ok
          exact ⟨.final envelope metadata last present closed, fresh_nil⟩
        · cases ok
      · cases ok
    · cases ok
  · rintro ⟨page, fresh⟩
    unfold nextCursor
    cases page with
    | final _ metadata last present closed => simp [metadata, last, present, closed]
    | @onward _ pagination cursor _ metadata more opened named =>
        have unseen : cursor ∉ seenCursors := (fresh_cons.mp fresh).1
        have present : pagination.any (fun field => field.1 = "nextCursor") = true := by
          by_contra absent
          have missing : pagination.find? (fun field => field.1 = "nextCursor") = none := by
            rw [List.find?_eq_none]
            intro field member is
            exact absent (List.any_eq_true.mpr ⟨field, member, is⟩)
          unfold Json.get at opened
          rw [missing] at opened
          cases opened
        simp [metadata, more, present, opened, named, unseen]

/-- A page is visited when it names its items, each for the first time, and all are read. -/
theorem visit_ok {seenIds seenIds' : List String} {items : List Fields} {resources : List β} :
    visit fromDict seenIds items = .ok (seenIds', resources) ↔
      ∃ ids : List String, items.map identity = ids.map some ∧ Fresh seenIds ids ∧
        items.mapM fromDict = .ok resources ∧ seenIds' = ids.reverse ++ seenIds := by
  induction items generalizing seenIds seenIds' resources with
  | nil =>
      unfold visit
      constructor
      · intro ok
        cases ok
        exact ⟨[], rfl, fresh_nil, rfl, rfl⟩
      · rintro ⟨ids, named, _, read, rfl⟩
        cases List.map_eq_nil_iff.mp named.symm
        cases read
        rfl
  | cons item items ih =>
      unfold visit
      cases named : identity item with
      | none =>
          constructor
          · intro ok
            cases ok
          · rintro ⟨ids, all, _⟩
            cases ids with
            | nil => cases all
            | cons id ids =>
                rw [List.map_cons, named] at all
                cases (List.cons.inj all).1
      | some id =>
          dsimp only
          rw [refuse_bind_ok, except_bind_ok]
          constructor
          · rintro ⟨unseen, resource, read, ok⟩
            obtain ⟨⟨seenIds'', rest⟩, visited, done⟩ := except_bind_ok.mp ok
            cases done
            obtain ⟨ids, all, fresh, reads, rfl⟩ := ih.mp visited
            have reads' : (item :: items).mapM fromDict = .ok (resource :: rest) :=
              mapM_ok_iff.mpr (.cons read (mapM_ok_iff.mp reads))
            refine ⟨id :: ids, ?_, fresh_cons.mpr ⟨unseen, fresh⟩, reads', ?_⟩
            · rw [List.map_cons, List.map_cons, named, all]
            · rw [List.reverse_cons, List.append_assoc, List.singleton_append]
          · rintro ⟨ids, all, fresh, reads, rfl⟩
            cases ids with
            | nil => cases all
            | cons first ids =>
                rw [List.map_cons, List.map_cons, named] at all
                obtain ⟨is, others⟩ := List.cons.inj all
                cases is
                obtain ⟨unseen, fresh⟩ := fresh_cons.mp fresh
                cases mapM_ok_iff.mp reads with
                | @cons _ resource _ rest read later =>
                    have visited : visit fromDict (id :: seenIds) items =
                        .ok (ids.reverse ++ id :: seenIds, rest) :=
                      ih.mpr ⟨ids, others, fresh, mapM_ok_iff.mpr later, rfl⟩
                    refine ⟨unseen, resource, read, ?_⟩
                    rw [visited, List.reverse_cons, List.append_assoc, List.singleton_append]
                    rfl

variable {inventory : Inventory β} {t : Transport}

/-- What a page adds when its checks pass. -/
structure Adds (inventory : Inventory β) (seenCursors seenIds : List String) (items : List Fields)
    (ids : List String) (visited : Visited β) : Prop where
  cursor : Fresh seenCursors visited.cursor.toList
  named : items.map identity = ids.map some
  fresh : Fresh seenIds ids
  read : items.mapM inventory.fromDict = .ok visited.resources
  seen : visited.seenIds = ids.reverse ++ seenIds

theorem readPage_ok {seenCursors seenIds : List String} {payload : Option Fields}
    {visited : Visited β} :
    inventory.readPage seenCursors seenIds payload = .ok visited ↔
      ∃ p items ids, payload = some p ∧ Describes inventory.key p ⟨items, visited.cursor⟩ ∧
        Adds inventory seenCursors seenIds items ids visited := by
  unfold Inventory.readPage
  cases payload with
  | none =>
      constructor
      · intro ok
        cases ok
      · rintro ⟨p, _, _, is, _⟩
        cases is
  | some p =>
      change (listEnvelope p inventory.key >>= _) = _ ↔ _
      rw [except_bind_ok]
      constructor
      · rintro ⟨items, envelope, ok⟩
        obtain ⟨cursor, next, ok⟩ := except_bind_ok.mp ok
        obtain ⟨⟨seen, resources⟩, visits, done⟩ := except_bind_ok.mp ok
        cases done
        obtain ⟨page, cursorFresh⟩ := (nextCursor_ok (listEnvelope_ok.mp envelope)).mp next
        obtain ⟨ids, named, fresh, read, seen⟩ := visit_ok.mp visits
        exact ⟨p, items, ids, rfl, page, cursorFresh, named, fresh, read, seen⟩
      · rintro ⟨_, items, ids, is, page, adds⟩
        cases is
        have envelope : Json.get p inventory.key = .arr (items.map .obj) := page.envelope
        have visits : visit inventory.fromDict seenIds items =
            .ok (visited.seenIds, visited.resources) :=
          visit_ok.mpr ⟨ids, adds.named, adds.fresh, adds.read, adds.seen⟩
        refine ⟨items, listEnvelope_ok.mpr envelope, ?_⟩
        rw [(nextCursor_ok envelope).mpr ⟨page, adds.cursor⟩]
        change (visit inventory.fromDict seenIds items >>= _) = _
        rw [visits]
        rfl

/-- The walk comes to the resources of a chain that is within the pages left, repeats nothing
seen before, and is read whole. -/
theorem walk_ok {left : ℕ} {cursor : Option String} {seenCursors seenIds : List String}
    {log : List Attempt} {resources : List β} :
    (inventory.walk t left cursor seenCursors seenIds log).2 = .ok resources ↔
      ∃ (pages : List Page) (ids : List String), Chain inventory t cursor log pages ∧
        pages.length ≤ left ∧ Fresh seenCursors (pages.filterMap Page.next) ∧
        (pages.flatMap Page.items).map identity = ids.map some ∧ Fresh seenIds ids ∧
        (pages.flatMap Page.items).mapM inventory.fromDict = .ok resources := by
  induction left generalizing cursor seenCursors seenIds log resources with
  | zero =>
      constructor
      · intro ok
        cases ok
      · rintro ⟨pages, _, chain, bounded, _⟩
        cases chain <;> simp at bounded
  | succ left ih =>
      rw [walk_succ]
      constructor
      · intro ok
        split at ok
        · cases ok
        · rename_i seen first reads
          cases ok
          obtain ⟨payload, answered, reads⟩ := except_bind_ok.mp reads
          obtain ⟨p, items, ids, rfl, page, adds⟩ := readPage_ok.mp reads
          refine ⟨[⟨items, none⟩], ids, .final answered page, ?_, adds.cursor, ?_, adds.fresh, ?_⟩
          · simp
          · simpa using adds.named
          · simpa using adds.read
        · rename_i next seen first reads
          obtain ⟨payload, answered, reads⟩ := except_bind_ok.mp reads
          obtain ⟨p, items, ids, rfl, page, adds⟩ := readPage_ok.mp reads
          obtain ⟨rest, walked, rfl⟩ := except_map_ok.mp ok
          obtain ⟨pages, others, chain, bounded, cursors, named, fresh, read⟩ := ih.mp walked
          obtain ⟨unseen, -⟩ := fresh_cons.mp adds.cursor
          have seenIds_is : seen = ids.reverse ++ seenIds := adds.seen
          refine ⟨⟨items, some next⟩ :: pages, ids ++ others, .onward answered page chain, ?_, ?_,
            ?_, ?_, ?_⟩
          · simpa using bounded
          · exact fresh_cons.mpr ⟨unseen, cursors⟩
          · rw [List.flatMap_cons, List.map_append, List.map_append, adds.named, named]
          · exact fresh_append.mpr ⟨adds.fresh, seenIds_is ▸ fresh⟩
          · rw [List.flatMap_cons]
            exact mapM_append_ok.mpr ⟨first, rest, adds.read, read, rfl⟩
      · rintro ⟨pages, ids, chain, bounded, cursors, named, fresh, read⟩
        cases chain with
        | @final _ _ payload items answered page =>
            have visited : inventory.readPage seenCursors seenIds (some payload) =
                .ok ⟨none, ids.reverse ++ seenIds, resources⟩ :=
              readPage_ok.mpr ⟨payload, items, ids, rfl, page, cursors, by simpa using named,
                fresh, by simpa using read, rfl⟩
            have step := except_bind_ok.mpr ⟨_, answered, visited⟩
            rw [step]
        | @onward _ _ payload items next pages answered page rest =>
            rw [List.flatMap_cons, List.map_append] at named
            rw [List.flatMap_cons] at read
            obtain ⟨ids, others, rfl, first, later⟩ := List.append_eq_map_iff.mp named
            obtain ⟨resources, more, reads, readsLater, rfl⟩ := mapM_append_ok.mp read
            obtain ⟨freshFirst, freshLater⟩ := fresh_append.mp fresh
            have unseen : next ∉ seenCursors ∧ Fresh (next :: seenCursors) (pages.filterMap Page.next) :=
              fresh_cons.mp cursors
            have visited : inventory.readPage seenCursors seenIds (some payload) =
                .ok ⟨some next, ids.reverse ++ seenIds, resources⟩ :=
              readPage_ok.mpr ⟨payload, items, ids, rfl, page,
                fresh_cons.mpr ⟨unseen.1, fresh_nil⟩, first.symm, freshFirst, reads, rfl⟩
            have step := except_bind_ok.mpr ⟨_, answered, visited⟩
            have shorter : pages.length ≤ left := by simpa using bounded
            have walked := ih.mpr ⟨pages, others, rest, shorter, unseen.2, later.symm, freshLater,
              readsLater⟩
            rw [step]
            exact except_map_ok.mpr ⟨more, walked, rfl⟩

/-! ## Complete listings -/

theorem Describes.unique {page other : Page} (describes : Describes key payload page)
    (others : Describes key payload other) : page = other := by
  have objects : Function.Injective Json.obj := fun _ _ is => Json.obj.inj is
  have items : page.items = other.items := by
    have both := describes.envelope.symm.trans others.envelope
    exact objects.list_map (Json.arr.inj both)
  have next : page.next = other.next := by
    cases describes with
    | final _ metadata last _ _ =>
        cases others with
        | final => rfl
        | onward _ metadata' more _ _ =>
            cases metadata.symm.trans metadata'
            cases last.symm.trans more
    | onward _ metadata more opened _ =>
        cases others with
        | final _ metadata' last _ _ =>
            cases metadata.symm.trans metadata'
            cases more.symm.trans last
        | onward _ metadata' _ opened' _ =>
            cases metadata.symm.trans metadata'
            cases opened.symm.trans opened'
            rfl
  cases page
  cases other
  cases items
  cases next
  rfl

/-- A server has one chain of pages from a cursor. -/
theorem Chain.unique {cursor : Option String} {log : List Attempt} {pages others : List Page}
    (chain : Chain inventory t cursor log pages) (other : Chain inventory t cursor log others) :
    pages = others := by
  induction chain generalizing others with
  | final answered page =>
      cases other with
      | final answered' page' =>
          cases answered.symm.trans answered'
          rw [page.unique page']
      | onward answered' page' _ =>
          cases answered.symm.trans answered'
          cases page.unique page'
  | onward answered page _ ih =>
      cases other with
      | final answered' page' =>
          cases answered.symm.trans answered'
          cases page.unique page'
      | onward answered' page' rest =>
          cases answered.symm.trans answered'
          cases page.unique page'
          rw [ih rest]

/-- A listing returns the resources of all the pages of the server's chain, in order, when the
chain is sound and its items are resources; otherwise it fails.  It never asks for more pages
than the bound, and attempts a page at most once more than the retries. -/
structure AllOrNothing (inventory : Inventory β) (t : Transport) (maxInventoryPages : ℕ)
    (listing : List Attempt × Except Exn (List β)) : Prop where
  bounded : pageRequests listing.1 ≤ maxInventoryPages
  attempts : listing.1.length ≤ maxInventoryPages * (t.maxSafeRetries + 1)
  returns : ∀ resources, listing.2 = .ok resources ↔
    ∃ pages, Chain inventory t none [] pages ∧ Sound maxInventoryPages pages ∧
      (pages.flatMap Page.items).mapM inventory.fromDict = .ok resources
  whole : ∀ resources pages, listing.2 = .ok resources → Chain inventory t none [] pages →
    (pages.flatMap Page.items).mapM inventory.fromDict = .ok resources

theorem list_all_or_nothing (inventory : Inventory β) (t : Transport) (maxInventoryPages : ℕ) :
    AllOrNothing inventory t maxInventoryPages (inventory.list t maxInventoryPages) := by
  have returns : ∀ resources, (inventory.list t maxInventoryPages).2 = .ok resources ↔
      ∃ pages, Chain inventory t none [] pages ∧ Sound maxInventoryPages pages ∧
        (pages.flatMap Page.items).mapM inventory.fromDict = .ok resources := by
    intro resources
    unfold Inventory.list
    rw [walk_ok]
    constructor
    · rintro ⟨pages, ids, chain, bounded, cursors, named, fresh, read⟩
      have sound : Sound maxInventoryPages pages :=
        ⟨bounded, fresh_of_nothing.mp cursors, ids, named, fresh_of_nothing.mp fresh⟩
      exact ⟨pages, chain, sound, read⟩
    · rintro ⟨pages, chain, ⟨bounded, cursors, ids, named, distinct⟩, read⟩
      exact ⟨pages, ids, chain, bounded, fresh_of_nothing.mpr cursors, named,
        fresh_of_nothing.mpr distinct, read⟩
  have whole : ∀ resources pages, (inventory.list t maxInventoryPages).2 = .ok resources →
      Chain inventory t none [] pages →
        (pages.flatMap Page.items).mapM inventory.fromDict = .ok resources := by
    intro resources pages ok chain
    obtain ⟨others, other, _, read⟩ := (returns resources).mp ok
    rw [chain.unique other]
    exact read
  have within : pageRequests (inventory.list t maxInventoryPages).1 ≤
        pageRequests [] + maxInventoryPages ∧
      (inventory.list t maxInventoryPages).1.length ≤
        [].length + maxInventoryPages * (t.maxSafeRetries + 1) :=
    walk_bounded maxInventoryPages none [] [] []
  have none_ : pageRequests [] = 0 := rfl
  rw [none_, Nat.zero_add, List.length_nil, Nat.zero_add] at within
  exact ⟨within.1, within.2, returns, whole⟩

end

/-- Each of the three listings is all or nothing, whatever the server does. -/
theorem listings_all_or_nothing (t : Transport) (maxInventoryPages : ℕ) :
    AllOrNothing pods t maxInventoryPages (listPods t maxInventoryPages) ∧
      AllOrNothing endpoints t maxInventoryPages (listEndpoints t maxInventoryPages) ∧
      AllOrNothing networkVolumes t maxInventoryPages
        (listNetworkVolumes t maxInventoryPages) := by
  have forPods := list_all_or_nothing pods t maxInventoryPages
  have forEndpoints := list_all_or_nothing endpoints t maxInventoryPages
  have forVolumes := list_all_or_nothing networkVolumes t maxInventoryPages
  exact ⟨forPods, forEndpoints, forVolumes⟩

/-- A server whose only page holds a volume without a type. -/
def untypedVolume : Transport where
  maxSafeRetries := 2
  send := fun _ => .response 200 (.json (.obj [
    ("networkVolumes", .arr [.obj [("id", .str "volume"), ("name", .str "data")]]),
    ("pagination", .obj [("hasNextPage", .bool false), ("nextCursor", .null)])]))

/-- The server's chain is sound, with one volume that has an id, and the listing fails. -/
theorem untyped_volume_refused :
    (∃ pages, Chain networkVolumes untypedVolume none [] pages ∧ Sound 1000 pages) ∧
      (listNetworkVolumes untypedVolume 1000).2 =
        .error (.manager "Invalid Network volume.type response") := by
  have answered : (untypedVolume.requestJson (networkVolumes.request none) []).2 = .ok (some [
      ("networkVolumes", .arr [.obj [("id", .str "volume"), ("name", .str "data")]]),
      ("pagination", .obj [("hasNextPage", .bool false), ("nextCursor", .null)])]) := rfl
  have page : Describes networkVolumes.key [
      ("networkVolumes", .arr [.obj [("id", .str "volume"), ("name", .str "data")]]),
      ("pagination", .obj [("hasNextPage", .bool false), ("nextCursor", .null)])]
      ⟨[[("id", .str "volume"), ("name", .str "data")]], none⟩ :=
    .final rfl rfl rfl rfl rfl
  have sound : Sound 1000 [⟨[[("id", .str "volume"), ("name", .str "data")]], none⟩] :=
    ⟨by decide, List.nodup_nil, ["volume"], rfl, by simp⟩
  exact ⟨⟨_, .final answered page, sound⟩, rfl⟩

end KestrelRunpod.ControlPlane
