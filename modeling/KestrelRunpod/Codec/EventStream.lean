import Mathlib.Data.List.Basic

/-!
# Event streams

A text as lines, a line as a field, and lines as messages: `interpret` collects the values of
`data` fields until a blank line, and remembers the last `id` for all later messages.

Which characters end a line is a parameter.  More of them cut a line at the first of them
(`mem_lines_of_cut`), and whatever the lines are, `interpret` loses no value (`interpret_data`).
-/

namespace Codec

abbrev Text : Type := List Char

/-! ## Lines -/

/-- Put a character before the first line. -/
def pushChar (c : Char) : List Text → List Text
  | [] => [[c]]
  | line :: rest => (c :: line) :: rest

/-- The lines of a text, where a character of `breaks` ends a line, and a carriage return does so
together with a line feed after it. -/
def lines (breaks : Char → Bool) : Text → List Text
  | [] => []
  | '\r' :: '\n' :: rest => [] :: lines breaks rest
  | c :: rest => if breaks c then [] :: lines breaks rest else pushChar c (lines breaks rest)

section

variable {breaks f g : Char → Bool} {c : Char} {a b line text rest : Text}

@[simp] theorem lines_nil : lines breaks [] = [] := rfl

@[simp] theorem lines_crlf : lines breaks ('\r' :: '\n' :: rest) = [] :: lines breaks rest := by
  rw [lines]

theorem lines_cons_of_break (single : ∀ rest', c = '\r' → rest ≠ '\n' :: rest')
    (ends : breaks c = true) : lines breaks (c :: rest) = [] :: lines breaks rest := by
  rw [lines, if_pos ends]
  exact single

theorem lines_cons (single : ∀ rest', c = '\r' → rest ≠ '\n' :: rest')
    (goes : breaks c = false) : lines breaks (c :: rest) = pushChar c (lines breaks rest) := by
  rw [lines, if_neg (by simp [goes])]
  exact single

theorem tail_pushChar (ls : List Text) : (pushChar c ls).tail = ls.tail := by
  cases ls <;> rfl

/-- Only the characters of the text matter. -/
theorem lines_congr (same : ∀ c ∈ text, f c = g c) : lines f text = lines g text := by
  induction text using lines.induct f with
  | case1 => rfl
  | case2 rest ih =>
      rw [lines_crlf, lines_crlf, ih fun c member => same c (by simp [member])]
  | case3 c rest single ends ih =>
      have ends' : g c = true := by rw [← same c List.mem_cons_self, ends]
      rw [lines_cons_of_break single ends, lines_cons_of_break single ends',
        ih fun c member => same c (List.mem_cons_of_mem _ member)]
  | case4 c rest single goes ih =>
      have goes : f c = false := by simpa using goes
      have goes' : g c = false := by rw [← same c List.mem_cons_self, goes]
      rw [lines_cons single goes, lines_cons single goes',
        ih fun c member => same c (List.mem_cons_of_mem _ member)]

/-- A line has no character that ends one. -/
theorem lines_free : ∀ line ∈ lines breaks text, ∀ c ∈ line, breaks c = false := by
  induction text using lines.induct breaks with
  | case1 => exact fun _ member => absurd member List.not_mem_nil
  | case2 rest ih =>
      rw [lines_crlf]
      intro line member
      rcases List.mem_cons.mp member with rfl | member
      · exact fun _ inside => absurd inside List.not_mem_nil
      · exact ih line member
  | case3 c rest single ends ih =>
      rw [lines_cons_of_break single ends]
      intro line member
      rcases List.mem_cons.mp member with rfl | member
      · exact fun _ inside => absurd inside List.not_mem_nil
      · exact ih line member
  | case4 c rest single goes ih =>
      have goes : breaks c = false := by simpa using goes
      rw [lines_cons single goes]
      intro line member x inside
      cases is : lines breaks rest with
      | nil =>
          rw [is, pushChar, List.mem_singleton] at member
          subst member
          rw [List.mem_singleton.mp inside]
          exact goes
      | cons first others =>
          rw [is] at member ih
          rcases List.mem_cons.mp member with rfl | member
          · rcases List.mem_cons.mp inside with rfl | inside
            · exact goes
            · exact ih first List.mem_cons_self x inside
          · exact ih line (List.mem_cons_of_mem _ member) x inside

/-- The part of a line before the first character that ends a line for `g`. -/
structure Cut (g : Char → Bool) (line a : Text) : Prop where
  exists_stop : ∃ c b, g c = true ∧ line = a ++ c :: b
  whole : ∀ c ∈ a, g c = false

theorem Cut.nil_of_cons (cut : Cut g (c :: line) a) (ends : g c = true) : a = [] := by
  obtain ⟨c', b, _, split⟩ := cut.exists_stop
  cases a with
  | nil => rfl
  | cons first a =>
      rw [List.cons_append, List.cons.injEq] at split
      have goes := cut.whole first List.mem_cons_self
      rw [← split.1, ends] at goes
      cases goes

theorem Cut.cons (cut : Cut g (c :: line) a) (goes : g c = false) :
    ∃ a', a = c :: a' ∧ Cut g line a' := by
  obtain ⟨c', b, ends, split⟩ := cut.exists_stop
  cases a with
  | nil =>
      rw [List.nil_append, List.cons.injEq] at split
      rw [split.1, ends] at goes
      cases goes
  | cons first a =>
      rw [List.cons_append, List.cons.injEq] at split
      obtain ⟨rfl, rfl⟩ := split
      exact ⟨a, rfl, ⟨c', b, ends, rfl⟩,
        fun x member => cut.whole x (List.mem_cons_of_mem _ member)⟩

theorem not_cut_nil : ¬ Cut g [] a := by
  intro cut
  obtain ⟨c, b, _, split⟩ := cut.exists_stop
  cases a <;> cases split

/-- Every line of `ls` that is to be cut is a line of `ls'` when it is, and the first one the
first. -/
structure CutLines (g : Char → Bool) (ls ls' : List Text) : Prop where
  head : ∀ line ∈ ls.head?, ∀ a, Cut g line a → ls'.head? = some a
  tail : ∀ line ∈ ls.tail, ∀ a, Cut g line a → a ∈ ls'.tail

namespace CutLines

variable {ls ls' : List Text}

theorem mem (cuts : CutLines g ls ls') (member : line ∈ ls) (cut : Cut g line a) : a ∈ ls' := by
  cases ls with
  | nil => exact absurd member List.not_mem_nil
  | cons first rest =>
      rcases List.mem_cons.mp member with rfl | member
      · exact List.mem_of_mem_head? (cuts.head line rfl a cut)
      · exact List.mem_of_mem_tail (cuts.tail line member a cut)

theorem nil : CutLines g [] ls' := by
  refine ⟨fun line member => ?_, fun line member => absurd member List.not_mem_nil⟩
  cases member

/-- A blank line is not cut. -/
theorem blank (cuts : CutLines g ls ls') : CutLines g ([] :: ls) ([] :: ls') := by
  refine ⟨fun line member a cut => ?_, fun line member a cut => cuts.mem member cut⟩
  cases member
  exact absurd cut not_cut_nil

/-- A character that ends a line cuts the first line before it. -/
theorem ends (cuts : CutLines g ls ls') (stop : g c = true) :
    CutLines g (pushChar c ls) ([] :: ls') := by
  refine ⟨fun line member a cut => ?_, fun line member a cut => ?_⟩
  · have starts : ∃ line', line = c :: line' := by
      cases ls with
      | nil =>
          cases member
          exact ⟨[], rfl⟩
      | cons first rest =>
          cases member
          exact ⟨first, rfl⟩
    obtain ⟨line', rfl⟩ := starts
    rw [cut.nil_of_cons stop]
    rfl
  · rw [tail_pushChar] at member
    exact List.mem_of_mem_tail (cuts.tail line member a cut)

/-- Any other character stays in the first line. -/
theorem goes (cuts : CutLines g ls ls') (stays : g c = false) :
    CutLines g (pushChar c ls) (pushChar c ls') := by
  refine ⟨fun line member a cut => ?_, fun line member a cut => ?_⟩
  · cases ls with
    | nil =>
        cases member
        obtain ⟨a', _, cut⟩ := cut.cons stays
        exact absurd cut not_cut_nil
    | cons first rest =>
        cases member
        obtain ⟨a', rfl, inner⟩ := cut.cons stays
        have kept := cuts.head first rfl a' inner
        cases ls' with
        | nil => cases kept
        | cons first' rest' =>
            cases kept
            rfl
  · rw [tail_pushChar] at member
    rw [tail_pushChar]
    exact cuts.tail line member a cut

end CutLines

/-- Where more characters end a line, every line is cut at the first of them. -/
theorem lines_cut (more : ∀ c, f c = true → g c = true) :
    CutLines g (lines f text) (lines g text) := by
  induction text using lines.induct f with
  | case1 => exact .nil
  | case2 rest ih =>
      rw [lines_crlf, lines_crlf]
      exact ih.blank
  | case3 c rest single ends ih =>
      rw [lines_cons_of_break single ends, lines_cons_of_break single (more c ends)]
      exact ih.blank
  | case4 c rest single goes ih =>
      have goes : f c = false := by simpa using goes
      rw [lines_cons single goes]
      cases later : g c with
      | true =>
          rw [lines_cons_of_break single later]
          exact ih.ends later
      | false =>
          rw [lines_cons single later]
          exact ih.goes later

end

/-! ## Fields -/

/-- A value without the space that may stand before it. -/
def dropSpace : Text → Text
  | ' ' :: rest => rest
  | value => value

/-- The name of the field on a line, and its value. -/
def field (line : Text) : Text × Text :=
  (line.takeWhile (· ≠ ':'), dropSpace ((line.dropWhile (· ≠ ':')).drop 1))

/-- The value of a `data` field. -/
def dataValue (line : Text) : Option Text :=
  if (field line).1 = ['d', 'a', 't', 'a'] then some (field line).2 else none

/-! ## Messages -/

/-- The values of the `data` fields since the last message, and the last `id`, if there was any. -/
structure Buffers where
  data : List Text
  id : Option Text
  deriving DecidableEq

/-- A message: the values of its `data` fields and the `id` in force. -/
structure Message where
  data : List Text
  id : Option Text
  deriving DecidableEq

/-- The data of a message: its values as the lines of a text. -/
def Message.text (m : Message) : Text := ['\n'].intercalate m.data

/-- An `id` with a null character is ignored, as is a field of any other name. -/
def Buffers.set (b : Buffers) : Text × Text → Buffers
  | (name, value) =>
      if name = ['d', 'a', 't', 'a'] then { b with data := b.data ++ [value] }
      else if name = ['i', 'd'] ∧ '\x00' ∉ value then { b with id := some value }
      else b

/-- One line: a blank one ends a message, if there is any data for it, and a colon starts a
comment. -/
def Buffers.take (b : Buffers) (line : Text) : Option Message × Buffers :=
  if line = [] then
    if b.data = [] then (none, b) else (some ⟨b.data, b.id⟩, { b with data := [] })
  else if line.head? = some ':' then (none, b)
  else (none, b.set (field line))

/-- The messages on lines, and what is left of a last one. -/
def interpret (b : Buffers) : List Text → List Message × Buffers
  | [] => ([], b)
  | line :: rest =>
      let (message, b) := b.take line
      let (messages, last) := interpret b rest
      (message.toList ++ messages, last)

/-- The messages on lines, with what is left as a last one. -/
def flushed (b : Buffers) (ls : List Text) : List Message :=
  (interpret b ls).1 ++
    if (interpret b ls).2.data = [] then []
    else [⟨(interpret b ls).2.data, (interpret b ls).2.id⟩]

section

variable {b : Buffers} {line value : Text} {ls : List Text}

@[simp] theorem interpret_nil : interpret b [] = ([], b) := rfl

theorem interpret_cons : interpret b (line :: ls) =
    ((b.take line).1.toList ++ (interpret (b.take line).2 ls).1,
      (interpret (b.take line).2 ls).2) := rfl

theorem field_nil : field [] = ([], []) := rfl

theorem dataValue_comment (comment : line.head? = some ':') : dataValue line = none := by
  cases line with
  | nil => cases comment
  | cons c rest =>
      cases comment
      rfl

theorem field_value : (field line).2 = dropSpace ((line.dropWhile (· ≠ ':')).drop 1) := rfl

theorem dropSpace_of_head (unspaced : value.head? ≠ some ' ') : dropSpace value = value := by
  unfold dropSpace
  split
  · exact absurd rfl unspaced
  · rfl

/-- The lines whose `data` field has this value. -/
theorem dataValue_eq_some : dataValue line = some value ↔
    (line = ['d', 'a', 't', 'a'] ∧ value = []) ∨
      line = ['d', 'a', 't', 'a', ':', ' '] ++ value ∨
      (line = ['d', 'a', 't', 'a', ':'] ++ value ∧ value.head? ≠ some ' ') := by
  constructor
  · intro is
    unfold dataValue at is
    split at is
    · rename_i name
      cases is
      have whole : line = ['d', 'a', 't', 'a'] ++ line.dropWhile (· ≠ ':') := by
        rw [← name]
        exact List.takeWhile_append_dropWhile.symm
      rw [field_value]
      cases rest : line.dropWhile (· ≠ ':') with
      | nil =>
          rw [rest] at whole
          exact .inl ⟨whole, rfl⟩
      | cons c tail =>
          have colon : c = ':' := by
            have stops := List.head?_dropWhile_not (· ≠ ':') line
            rw [rest] at stops
            simpa using stops
          subst colon
          rw [rest] at whole
          refine .inr ?_
          rw [List.drop_one, List.tail_cons]
          by_cases spaced : tail.head? = some ' '
          · obtain ⟨tail, rfl⟩ := List.head?_eq_some_iff.mp spaced
            exact .inl whole
          · rw [dropSpace_of_head spaced]
            exact .inr ⟨whole, spaced⟩
    · cases is
  · rintro (⟨rfl, rfl⟩ | rfl | ⟨rfl, unspaced⟩)
    · rfl
    · rfl
    · have same : dataValue (['d', 'a', 't', 'a', ':'] ++ value) = some (dropSpace value) := rfl
      rw [same, dropSpace_of_head unspaced]

theorem dataValue_subset (is : dataValue line = some value) : ∀ c ∈ value, c ∈ line := by
  intro c member
  rcases dataValue_eq_some.mp is with ⟨_, rfl⟩ | rfl | ⟨rfl, _⟩
  · exact absurd member List.not_mem_nil
  · exact List.mem_append_right _ member
  · exact List.mem_append_right _ member

/-- A line that is cut within its data has the data before the cut. -/
theorem dataValue_cut {g : Char → Bool} {first rest : Text} {c : Char}
    (is : dataValue line = some (first ++ c :: rest)) (ends : g c = true)
    (whole : ∀ x ∈ first, g x = false)
    (plain : ∀ x ∈ ['d', 'a', 't', 'a', ':', ' '], g x = false) :
    ∃ a, Cut g line a ∧ dataValue a = some first := by
  rcases dataValue_eq_some.mp is with ⟨_, empty⟩ | spaced | ⟨unspaced, head⟩
  · cases first <;> cases empty
  · refine ⟨['d', 'a', 't', 'a', ':', ' '] ++ first, ⟨⟨c, rest, ends, ?_⟩, ?_⟩,
      dataValue_eq_some.mpr (.inr (.inl rfl))⟩
    · rw [spaced, List.append_assoc]
    · intro x member
      rcases List.mem_append.mp member with member | member
      · exact plain x member
      · exact whole x member
  · refine ⟨['d', 'a', 't', 'a', ':'] ++ first, ⟨⟨c, rest, ends, ?_⟩, ?_⟩,
      dataValue_eq_some.mpr (.inr (.inr ⟨rfl, ?_⟩))⟩
    · rw [unspaced, List.append_assoc]
    · intro x member
      rcases List.mem_append.mp member with member | member
      · exact plain x (List.mem_append_left [' '] member)
      · exact whole x member
    · cases first with
      | nil => nofun
      | cons x first => exact head

/-- A character of a message's data stands in one of its values, if it is no line feed. -/
theorem Message.mem_text {m : Message} {c : Char} (member : c ∈ m.text) (visible : c ≠ '\n') :
    ∃ value ∈ m.data, c ∈ value := by
  obtain ⟨values, id⟩ := m
  unfold Message.text at member
  dsimp only at member
  dsimp only
  induction values with
  | nil => exact absurd member List.not_mem_nil
  | cons value values ih =>
      cases values with
      | nil =>
          rw [List.intercalate_singleton] at member
          exact ⟨value, List.mem_cons_self, member⟩
      | cons second values =>
          rw [List.intercalate_cons_cons, List.append_assoc] at member
          rcases List.mem_append.mp member with member | member
          · exact ⟨value, List.mem_cons_self, member⟩
          · rcases List.mem_cons.mp member with is | member
            · exact absurd is visible
            · obtain ⟨v, later, inside⟩ := ih member
              exact ⟨v, List.mem_cons_of_mem _ later, inside⟩

theorem set_data (entry : Text × Text) : (b.set entry).data =
    b.data ++ if entry.1 = ['d', 'a', 't', 'a'] then [entry.2] else [] := by
  obtain ⟨name, value⟩ := entry
  unfold Buffers.set
  dsimp only
  split
  · rfl
  · split <;> rw [List.append_nil]

/-- One line adds the value of its `data` field. -/
theorem take_data : (b.take line).1.toList.flatMap Message.data ++ (b.take line).2.data =
    b.data ++ (dataValue line).toList := by
  unfold Buffers.take
  split
  · rename_i blank
    subst blank
    split <;> simp [dataValue, field_nil]
  · split
    · rename_i comment
      rw [dataValue_comment comment]
      simp
    · rw [set_data]
      unfold dataValue
      split <;> simp

/-- No value is lost. -/
theorem interpret_data : (interpret b ls).1.flatMap Message.data ++ (interpret b ls).2.data =
    b.data ++ ls.filterMap dataValue := by
  induction ls generalizing b with
  | nil => simp
  | cons line ls ih =>
      rw [interpret_cons, List.flatMap_append, List.append_assoc, ih, ← List.append_assoc,
        take_data, List.append_assoc]
      cases value : dataValue line with
      | none => rw [List.filterMap_cons_none value, Option.toList_none, List.nil_append]
      | some text =>
          rw [List.filterMap_cons_some value, Option.toList_some, List.singleton_append]

theorem flushed_nil : flushed b [] = if b.data = [] then [] else [⟨b.data, b.id⟩] := rfl

theorem flushed_cons : flushed b (line :: ls) =
    (b.take line).1.toList ++ flushed (b.take line).2 ls := by
  unfold flushed
  rw [interpret_cons, List.append_assoc]

theorem flushed_of_ended (ended : (interpret b ls).2.data = []) :
    flushed b ls = (interpret b ls).1 := by
  rw [flushed, if_pos ended, List.append_nil]

/-- The values of all `data` fields, in their order. -/
theorem flushed_data :
    (flushed b ls).flatMap Message.data = b.data ++ ls.filterMap dataValue := by
  rw [← interpret_data, flushed, List.flatMap_append]
  split
  · rename_i ended
    rw [ended]
    rfl
  · simp

end

end Codec
