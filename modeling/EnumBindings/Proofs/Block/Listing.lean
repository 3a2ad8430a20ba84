import EnumBindings.Block.Scan
import EnumBindings.Proofs.Block.Identifier
import EnumBindings.Proofs.Block.Nearest
import EnumBindings.Proofs.Text.Trimming

/-!
# Written blocks

The block of an enum as people write it: line by line, each line or comment an item of its own,
down to the closing brace. An item holds its texts with the reasons why they can stand where they
do, so that every listing can be written out, and says which entry it stands for and which
documentation.

## Main definitions

* `Blanks`, `Line`, `Note`, `Word`, `Value`, `Filler` — the texts that items are made of
* `Item`, `Closing` — the items of a block and its end
* `Item.print`, `Closing.print`, `printBlock` — a block written out
* `documented` — the entries of a block, each with its documentation

## Main results

* `Assignment.lead_clear` — a statement has no comment before what follows it
* `Word.isOption_eq_false`, `isOption_append` — which statements are options
-/

namespace EnumBindings.Block

/-! ### Texts of items -/

/-- White space without a newline. -/
structure Blanks where
  text : Text
  blank : ∀ c ∈ text, isBlank c = true
  inline : '\n' ∉ text

/-- A text on one line. -/
structure Line where
  text : Text
  inline : '\n' ∉ text

/-- The inside of a block comment, on any number of lines. -/
structure Note where
  text : Text
  unclosed : ¬ ['*', '/'] <:+: text

/-- A word of letters, digits and underscores. -/
structure Word where
  text : Text
  nonempty : text ≠ []
  identifier : ∀ c ∈ text, isIdentifierChar c = true

/-- What stands between the `=` and the semicolon of a statement. It may have further `=`. -/
structure Value where
  text : Text
  inline : '\n' ∉ text
  unbraced : '}' ∉ text
  noRemark : ¬ ['/', '/'] <:+: text
  noNote : ¬ ['/', '*'] <:+: text

/-- A line of other text, such as a reservation of numbers. -/
structure Filler where
  text : Text
  inline : '\n' ∉ text
  unassigned : '=' ∉ text
  unbraced : '}' ∉ text
  noRemark : ¬ ['/', '/'] <:+: text
  noNote : ¬ ['/', '*'] <:+: text

/-! ### Statements and what follows them on their line -/

/-- A statement `name = value;` with white space where it can stand. -/
structure Assignment where
  name : Word
  beforeSign : Blanks
  afterSign : Blanks
  value : Value
  beforeEnd : Blanks

/-- What follows a statement: nothing but white space, a block comment, a line comment, or a block
comment and then a line comment. -/
structure Trailer where
  pad : Blanks
  note? : Option (Note × Blanks)
  remark? : Option Line

/-- A block comment written out. -/
def Note.print (note : Note) : Text :=
  ['/', '*'] ++ note.text ++ ['*', '/']

/-- A statement from its `=` on, with the white space behind it. -/
def Assignment.lead (assignment : Assignment) (pad : Blanks) : Text :=
  assignment.afterSign.text ++ assignment.value.text ++ assignment.beforeEnd.text ++ [';'] ++
    pad.text

/-- The comments of a statement written out. -/
def Trailer.comments (trailer : Trailer) : Text :=
  (match trailer.note? with
    | none => []
    | some (note, pad) => note.print ++ pad.text) ++
  match trailer.remark? with
    | none => []
    | some line => ['/', '/'] ++ line.text

/-- A statement written out, with what follows it. -/
def Assignment.print (assignment : Assignment) (trailer : Trailer) : Text :=
  assignment.name.text ++ assignment.beforeSign.text ++ ['='] ++ assignment.lead trailer.pad ++
    trailer.comments

/-- The documentation that follows a statement. -/
def Trailer.docs (trailer : Trailer) : List Text :=
  (match trailer.note? with
    | none => []
    | some (note, _) => commentLines note.text) ++
  match trailer.remark? with
    | none => []
    | some line => [trim line.text]

/-! ### Items -/

/-- An item of a block. -/
inductive Item where
  /-- A line of white space. -/
  | blank (pad : Blanks)
  /-- A line comment on a line of its own. -/
  | remark (indent : Blanks) (line : Line)
  /-- A block comment on lines of its own. -/
  | note (indent : Blanks) (inside : Note) (pad : Blanks)
  /-- A line of other text. -/
  | filler (line : Filler)
  /-- An option. -/
  | option (indent gap : Blanks) (apart : gap.text ≠ []) (assignment : Assignment)
      (trailer : Trailer)
  /-- An entry. -/
  | entry (indent : Blanks) (assignment : Assignment) (trailer : Trailer)

/-- The end of a block. -/
inductive Closing where
  /-- The closing brace is on its own line. -/
  | own (indent : Blanks)
  /-- The closing brace is on the line of the last entry, which no line comment follows. -/
  | joined (indent : Blanks) (assignment : Assignment) (trailer : Trailer)
      (noRemark : trailer.remark? = none)

/-- An item written out, without its last newline. -/
def Item.print : Item → Text
  | blank pad => pad.text
  | remark indent line => indent.text ++ ['/', '/'] ++ line.text
  | note indent inside pad => indent.text ++ inside.print ++ pad.text
  | filler line => line.text
  | option indent gap _ assignment trailer =>
    indent.text ++ "option".toList ++ gap.text ++ assignment.print trailer
  | entry indent assignment trailer => indent.text ++ assignment.print trailer

/-- The end of a block written out. -/
def Closing.print : Closing → Text
  | own indent => indent.text ++ ['}']
  | joined indent assignment trailer _ => indent.text ++ assignment.print trailer ++ ['}']

/-- A block written out, from the line after its opening brace on. -/
def printBlock (items : List Item) (closing : Closing) : Text :=
  (items.flatMap fun item => item.print ++ ['\n']) ++ closing.print

/-- The entry at the end of a block, if there is one. -/
def Closing.entries (pending : List Text) : Closing → List Entry
  | own _ => []
  | joined _ assignment trailer _ =>
    [Entry.ofIdentifier assignment.name.text (pending ++ trailer.docs)]

/-- The entries of a block in order. The documentation of an entry is that of the comments since
the statement before it, followed by that of its own line; an option takes its documentation with
it. -/
def documented (closing : Closing) : List Text → List Item → List Entry
  | pending, [] => closing.entries pending
  | pending, .blank _ :: items => documented closing pending items
  | pending, .filler _ :: items => documented closing pending items
  | pending, .remark _ line :: items => documented closing (pending ++ [trim line.text]) items
  | pending, .note _ inside _ :: items =>
    documented closing (pending ++ commentLines inside.text) items
  | _, .option .. :: items => documented closing [] items
  | pending, .entry _ assignment trailer :: items =>
    Entry.ofIdentifier assignment.name.text (pending ++ trailer.docs) ::
      documented closing [] items

/-! ### Where tokens begin in these texts -/

variable {wanted : Token → Bool} {rest : Text}

theorem Blanks.notMem (pad : Blanks) {c : Char} (visible : isBlank c = false) : c ∉ pad.text := by
  intro hc
  rw [pad.blank c hc] at visible
  exact Bool.noConfusion visible

/-- White space has no token. -/
theorem Blanks.clear (pad : Blanks) : Token.Clear wanted pad.text rest :=
  Token.clear_of_notMem (pad.notMem (by decide)) (pad.notMem (by decide)) pad.inline
    (pad.notMem (by decide))

/-- A word has no token. -/
theorem Word.clear (word : Word) : Token.Clear wanted word.text rest :=
  Token.clear_of_notMem (notMem_of_isIdentifierChar word.identifier (by decide))
    (notMem_of_isIdentifierChar word.identifier (by decide))
    (notMem_of_isIdentifierChar word.identifier (by decide))
    (notMem_of_isIdentifierChar word.identifier (by decide))

/-- A line of other text has no token, when a newline follows. -/
theorem Filler.clear (filler : Filler) : Token.Clear wanted filler.text ('\n' :: rest) := by
  intro token _
  cases token with
  | assign => exact Text.clear_of_notMem filler.unassigned
  | lineComment => exact Text.clear_pair_iff.mpr ⟨filler.noRemark, by simp⟩
  | blockComment => exact Text.clear_pair_iff.mpr ⟨filler.noNote, by simp⟩
  | lineEnd => exact Text.clear_of_notMem filler.inline
  | closeBrace => exact Text.clear_of_notMem filler.unbraced

/-- A value has no token but `=`, unless a slash at its end begins a comment. -/
theorem Value.clear (value : Value) (noSlash : rest.head? ≠ some '/')
    (noStar : rest.head? ≠ some '*') : Token.Clear (· ≠ .assign) value.text rest := by
  intro token other
  cases token with
  | assign => simp at other
  | lineComment => exact Text.clear_pair_iff.mpr ⟨value.noRemark, fun seam => noSlash seam.2⟩
  | blockComment => exact Text.clear_pair_iff.mpr ⟨value.noNote, fun seam => noStar seam.2⟩
  | lineEnd => exact Text.clear_of_notMem value.inline
  | closeBrace => exact Text.clear_of_notMem value.unbraced

/-- What follows white space and does not begin with some character does not begin with it. -/
theorem Blanks.head?_append_ne (pad : Blanks) {c : Char} (visible : isBlank c = false)
    (h : rest.head? ≠ some c) : (pad.text ++ rest).head? ≠ some c := by
  cases hpad : pad.text with
  | nil => exact h
  | cons d ds =>
    rintro same
    rw [List.cons_append, List.head?_cons, Option.some_inj] at same
    refine pad.notMem visible ?_
    rw [hpad, same]
    exact List.mem_cons_self

/-- A statement has no token but `=` from its `=` to the white space behind it. -/
theorem Assignment.lead_clear (assignment : Assignment) (pad : Blanks) :
    Token.Clear (· ≠ .assign) (assignment.lead pad) rest := by
  have semicolon : Token.Clear (· ≠ .assign) [';'] (pad.text ++ rest) :=
    Token.clear_of_notMem (by decide) (by decide) (by decide) (by decide)
  -- A slash at the end of the value meets a blank or the semicolon, so it begins no comment.
  have value : Token.Clear (· ≠ .assign) assignment.value.text
      (assignment.beforeEnd.text ++ ([';'] ++ (pad.text ++ rest))) :=
    assignment.value.clear
      (assignment.beforeEnd.head?_append_ne (by decide) (by simp))
      (assignment.beforeEnd.head?_append_ne (by decide) (by simp))
  rw [lead, Token.clear_append, Token.clear_append, Token.clear_append, Token.clear_append]
  exact ⟨⟨⟨⟨assignment.afterSign.clear, value⟩, assignment.beforeEnd.clear⟩, semicolon⟩, pad.clear⟩

theorem Assignment.newline_notMem_lead (assignment : Assignment) (pad : Blanks) :
    '\n' ∉ assignment.lead pad := by
  simp [lead, assignment.afterSign.inline, assignment.value.inline, assignment.beforeEnd.inline,
    pad.inline]

theorem Note.print_append (note : Note) :
    note.print ++ rest = ['/', '*'] ++ (note.text ++ (['*', '/'] ++ rest)) := by
  simp [print]

/-- A block comment ends where it is written to end. -/
theorem Note.cut_append (note : Note) :
    Text.cut ['*', '/'] (note.text ++ (['*', '/'] ++ rest)) = some (note.text, rest) :=
  Text.cut_eq_some_iff.mpr
    ⟨(List.append_assoc ..).symm, Text.clear_pair_iff.mpr ⟨note.unclosed, by simp⟩⟩

/-! ### Names of statements -/

variable {indent pad : Blanks}

/-- White space around a text whose ends are visible is trimmed away. -/
theorem trim_between {s : Text} (front : ∀ c, s.head? = some c → isBlank c = false)
    (back : ∀ c, s.getLast? = some c → isBlank c = false) :
    trim (indent.text ++ s ++ pad.text) = s := by
  rw [trim_append_blank pad.blank, trim_blank_append indent.blank, trim_eq_self front back]

theorem Word.isBlank_head (word : Word) (c : Char) (h : word.text.head? = some c) :
    isBlank c = false :=
  isBlank_eq_false (word.identifier c (List.mem_of_mem_head? h))

theorem Word.isBlank_getLast (word : Word) (c : Char) (h : word.text.getLast? = some c) :
    isBlank c = false :=
  isBlank_eq_false (word.identifier c (List.mem_of_mem_getLast? h))

/-- A single word is no option. -/
theorem Word.isOption_eq_false (word : Word) : isOption word.text = false := by
  rw [isOption]
  split
  next c behind found =>
    have whole := Text.stripPrefix?_eq_some_iff.mp found
    -- The character behind `option` belongs to the word, and so is no white space.
    refine isBlank_eq_false (word.identifier c ?_)
    rw [whole]
    simp
  next => rfl

/-- The word `option` makes an option of what it stands before. -/
theorem isOption_append {gap : Blanks} (apart : gap.text ≠ []) (s : Text) :
    isOption ("option".toList ++ gap.text ++ s) = true := by
  obtain ⟨c, cs, whole⟩ := List.exists_cons_of_ne_nil apart
  have found : Text.stripPrefix? "option".toList ("option".toList ++ gap.text ++ s) =
      some (c :: (cs ++ s)) :=
    Text.stripPrefix?_eq_some_iff.mpr (by rw [whole]; simp)
  rw [isOption, found]
  exact gap.blank c (by rw [whole]; exact List.mem_cons_self)

end EnumBindings.Block
