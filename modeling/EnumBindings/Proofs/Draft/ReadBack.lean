import EnumBindings.Proofs.Block.Identifier
import EnumBindings.Proofs.Draft.JavaLines

/-!
# Reading sections back

The names of entries can be read off each of the three sections again, whatever their documentation
says: in the list of constants, no line of Javadoc begins as the line of a constant does, and in the
other sections every case has two lines. So sections that are the same are renderings of the same
names, and the cases that lead to the constants are those that lead away from them.

## Main definitions

* `IsWord` — a name that can be told from what follows it
* `constantLines` — the lines of constants, without Javadoc and empty lines
* `readConstants?`, `readValueOf?`, `readToString?` — readers of the sections
* `Draft.Renders` — requests that have some entries rendered in all sections
* `ReadsBack` — what the readers make of the sections of some entries

## Main results

* `readWord?_append` — a word is read to its end
* `ConstantLines.filter_opensConstant` — the lines that begin with a constant
* `Draft.sections_read_back` — the sections of a draft read back, and determine the names
-/

namespace EnumBindings

open Block (isIdentifierChar)

variable {enum text s rest : Text} {lines : List Text} {entry : Entry} {entries : List Entry}

/-! ### Lines and words -/

/-- The lines of a text in which every line is ended. -/
def endedLines (text : Text) : List Text :=
  (text.splitOn '\n').dropLast

/-- Behind the last newline of a text that is made up of lines there is nothing. -/
theorem HasLines.splitOn_eq (has : HasLines text lines) : text.splitOn '\n' = lines ++ [[]] := by
  obtain ⟨rfl, inline⟩ := has
  induction lines with
  | nil => rfl
  | cons line lines ih =>
    rw [List.forall_mem_cons] at inline
    rw [List.flatMap_cons, List.append_assoc, List.singleton_append,
      List.splitOn_append_cons_self_of_not_mem inline.1, ih inline.2, List.cons_append]

theorem HasLines.endedLines_eq (has : HasLines text lines) : endedLines text = lines := by
  rw [endedLines, has.splitOn_eq, List.dropLast_concat]

/-- A name that can be told from what follows it: it is not empty and has letters, digits and
underscores only. -/
structure IsWord (s : Text) : Prop where
  nonempty : s ≠ []
  identifier : ∀ c ∈ s, isIdentifierChar c = true

/-- Identifiers in ASCII are words. -/
theorem IsWord.of_ascii (nonempty : s ≠ []) (ascii : ∀ c ∈ s, c.isAlphanum = true ∨ c = '_') :
    IsWord s := by
  refine ⟨nonempty, fun c among => ?_⟩
  rcases ascii c among with alphanumeric | rfl
  · exact Block.isIdentifierChar_of_isAlphanum alphanumeric
  · decide

theorem IsWord.newline_notMem (word : IsWord s) : '\n' ∉ s :=
  Block.notMem_of_isIdentifierChar word.identifier (by decide)

/-- Reads a word to its end. -/
def readWord? (s : Text) : Option (Text × Text) :=
  match s.takeWhile isIdentifierChar with
  | [] => none
  | c :: cs => some (c :: cs, s.dropWhile isIdentifierChar)

/-- A word is read to its end, if something follows it that no word goes on with. -/
theorem readWord?_append (word : IsWord s) {c : Char} (stop : isIdentifierChar c = false) :
    readWord? (s ++ c :: rest) = some (s, c :: rest) := by
  have here : (s ++ c :: rest).takeWhile isIdentifierChar = s := by
    rw [List.takeWhile_append_of_pos word.identifier, List.takeWhile_cons_of_neg (by simp [stop]),
      List.append_nil]
  have behind : (s ++ c :: rest).dropWhile isIdentifierChar = c :: rest := by
    rw [List.dropWhile_append_of_pos word.identifier, List.dropWhile_cons_of_neg (by simp [stop])]
  rw [readWord?, here, behind]
  obtain ⟨d, ds, rfl⟩ := List.exists_cons_of_ne_nil word.nonempty
  rfl

/-- Reads what stands between two fixed texts. -/
def readBetween? (front back s : Text) : Option Text :=
  (Text.stripPrefix? front s).bind (Text.stripSuffix? back)

theorem readBetween?_append (front back : Text) :
    readBetween? front back (front ++ s ++ back) = some s := by
  have opened : Text.stripPrefix? front (front ++ s ++ back) = some (s ++ back) :=
    Text.stripPrefix?_eq_some_iff.mpr (List.append_assoc ..)
  have closed : Text.stripSuffix? back (s ++ back) = some s :=
    Text.stripSuffix?_eq_some_iff.mpr rfl
  rw [readBetween?, opened, Option.bind_some, closed]

/-! ### Entries that can be read -/

/-- The names of an entry are words, and its documentation is any text on lines of its own. -/
structure Entry.Readable (entry : Entry) : Prop where
  identifier : IsWord entry.identifier
  constant : IsWord entry.constant
  docs : ∀ doc ∈ entry.docs, '\n' ∉ doc

theorem Entry.Readable.inline (readable : entry.Readable) : entry.Inline :=
  ⟨readable.identifier.newline_notMem, readable.constant.newline_notMem, readable.docs⟩

/-- A constant and the identifier that it wraps. -/
def Entry.names (entry : Entry) : Text × Text :=
  (entry.constant, entry.identifier)

/-! ### The constants -/

/-- Whether a line begins with a constant: behind the blanks of one level comes a character of an
identifier. -/
def opensConstant (line : Text) : Bool :=
  match Text.stripPrefix? (indent 1) line with
  | some (c :: _) => isIdentifierChar c
  | _ => false

/-- The lines of constants: the last one ends the list, a comma follows each of the others. -/
def constantLines (enum : Text) : List Entry → List Text
  | [] => []
  | [entry] => [entry.constantLine enum ';']
  | entry :: next :: later => entry.constantLine enum ',' :: constantLines enum (next :: later)

/-- Reads the line of a constant that is to have some mark at its end. -/
def readConstant? (enum : Text) (mark : Char) (line : Text) : Option (Text × Text) := do
  let name ← Text.stripPrefix? (indent 1) line
  let (constant, call) ← readWord? name
  let argument ← Text.stripPrefix? (['('] ++ enum ++ ['.']) call
  let (identifier, closing) ← readWord? argument
  if closing = [')', mark] then some (constant, identifier) else none

/-- Reads the lines of constants. -/
def readConstantLines? (enum : Text) : List Text → Option (List (Text × Text))
  | [] => some []
  | [line] => do
    let names ← readConstant? enum ';' line
    return [names]
  | line :: next :: later => do
    let names ← readConstant? enum ',' line
    let others ← readConstantLines? enum (next :: later)
    return names :: others

/-- Reads the constants and the identifiers that they wrap off the lines that begin with a
constant. -/
def readConstants? (enum text : Text) : Option (List (Text × Text)) :=
  readConstantLines? enum ((endedLines text).filter opensConstant)

theorem opensConstant_indent_append (s : Text) :
    opensConstant (indent 1 ++ s) = s.head?.any isIdentifierChar := by
  have opened : Text.stripPrefix? (indent 1) (indent 1 ++ s) = some s :=
    Text.stripPrefix?_eq_some_iff.mpr rfl
  rw [opensConstant, opened]
  cases s <;> rfl

/-- No line of Javadoc begins with a constant. -/
theorem JavadocLines.filter_opensConstant {docs : List Text} (javadoc : JavadocLines docs lines) :
    lines.filter opensConstant = [] := by
  have blank : isIdentifierChar ' ' = false := by decide
  cases javadoc with
  | none => rfl
  | block _ _ starred =>
    -- The first line goes on with a slash, all others with one more blank.
    rw [List.filter_cons_of_neg (by decide), List.filter_append,
      List.filter_cons_of_neg (by decide), List.filter_nil, List.append_nil,
      List.filter_eq_nil_iff]
    intro line there
    obtain ⟨behind, rfl⟩ := starred line there
    have shape : "     *".toList ++ behind = indent 1 ++ (" *".toList ++ behind) := rfl
    rw [shape, opensConstant_indent_append]
    exact Bool.eq_false_iff.mp blank

theorem opensConstant_constantLine (readable : entry.Readable) (mark : Char) :
    opensConstant (entry.constantLine enum mark) = true := by
  obtain ⟨c, cs, constant⟩ := List.exists_cons_of_ne_nil readable.constant.nonempty
  have identifier : isIdentifierChar c = true := readable.constant.identifier c (by simp [constant])
  simp only [Entry.constantLine, List.append_assoc]
  rw [opensConstant_indent_append, constant]
  exact identifier

/-- The lines that begin with a constant are those of the constants. -/
theorem ConstantLines.filter_opensConstant (shape : ConstantLines enum entries lines)
    (readable : ∀ entry ∈ entries, entry.Readable) :
    lines.filter opensConstant = constantLines enum entries := by
  have own {entry : Entry} {javadoc : List Text} {mark : Char} (readable : entry.Readable)
      (above : JavadocLines entry.docs javadoc) :
      (javadoc ++ [entry.constantLine enum mark, []]).filter opensConstant =
        [entry.constantLine enum mark] := by
    rw [List.filter_append, above.filter_opensConstant, List.nil_append,
      List.filter_cons_of_pos (opensConstant_constantLine readable mark)]
    rfl
  induction shape with
  | none => rfl
  | last javadoc => exact own (readable _ (by simp)) javadoc
  | more javadoc _ ih =>
    rw [List.forall_mem_cons] at readable
    rw [List.filter_append, own readable.1 javadoc, ih readable.2]
    rfl

/-- The line of a constant reads back. -/
theorem readConstant?_constantLine (readable : entry.Readable) (mark : Char) :
    readConstant? enum mark (entry.constantLine enum mark) = some entry.names := by
  have opening : isIdentifierChar '(' = false := by decide
  have closing : isIdentifierChar ')' = false := by decide
  -- The enum is known, so that it does not matter which characters its name has.
  have indented : Text.stripPrefix? (indent 1) (entry.constantLine enum mark) =
      some (entry.constant ++ '(' :: (enum ++ '.' :: (entry.identifier ++ [')', mark]))) :=
    Text.stripPrefix?_eq_some_iff.mpr (by simp [Entry.constantLine])
  have access : Text.stripPrefix? (['('] ++ enum ++ ['.'])
      ('(' :: (enum ++ '.' :: (entry.identifier ++ [')', mark]))) =
        some (entry.identifier ++ [')', mark]) :=
    Text.stripPrefix?_eq_some_iff.mpr (by simp)
  simp only [readConstant?, indented, access, readWord?_append readable.constant opening,
    readWord?_append readable.identifier closing, Option.bind_eq_bind, Option.bind_some]
  rfl

/-- The lines of constants read back. -/
theorem readConstantLines?_constantLines (readable : ∀ entry ∈ entries, entry.Readable) :
    readConstantLines? enum (constantLines enum entries) = some (entries.map Entry.names) := by
  induction entries with
  | nil => rfl
  | cons entry entries ih =>
    rw [List.forall_mem_cons] at readable
    cases entries with
    | nil =>
      rw [constantLines, readConstantLines?, readConstant?_constantLine readable.1]
      rfl
    | cons next later =>
      -- The line of the next constant is there, so that this one is not read as the last.
      have behind : ∃ line lines, constantLines enum (next :: later) = line :: lines := by
        cases later <;> exact ⟨_, _, rfl⟩
      obtain ⟨line, lines, behind⟩ := behind
      rw [behind] at ih
      rw [constantLines, behind, readConstantLines?, readConstant?_constantLine readable.1,
        ih readable.2]
      rfl

/-! ### The cases -/

/-- Reads the lines of cases: a label in one line and a result in the next. -/
def readCases? : List Text → Option (List (Text × Text))
  | [] => some []
  | [_] => none
  | first :: second :: later => do
    let label ← readBetween? (indent 3 ++ "case ".toList) [':'] first
    let result ← readBetween? (indent 4 ++ "return ".toList) [';'] second
    let others ← readCases? later
    return (label, result) :: others

/-- Cases read back, whatever their labels and results are taken from. -/
theorem readCases?_flatMap_caseLines {α : Type} (xs : List α) (label result : α → Text) :
    readCases? (xs.flatMap fun x => caseLines (label x) (result x)) =
      some (xs.map fun x => (label x, result x)) := by
  induction xs with
  | nil => rfl
  | cons x xs ih =>
    rw [List.flatMap_cons, caseLines, List.cons_append, List.singleton_append, readCases?,
      readBetween?_append, readBetween?_append, ih]
    rfl

/-- Reads the identifiers and the constants that they lead to. -/
def readValueOf? (text : Text) : Option (List (Text × Text)) :=
  readCases? (endedLines text)

/-- Reads a constant off a case that is to lead from it to its name. -/
def readNamed? (read : Text × Text) : Option Text :=
  if read.2 = '"' :: (read.1 ++ ['"']) then some read.1 else none

/-- Reads the constants that lead to their names. -/
def readToString? (text : Text) : Option (List Text) :=
  (readCases? (endedLines text)).bind (List.mapM readNamed?)

/-- Constants are read with their names. -/
theorem mapM_readNamed? :
    (entries.map fun entry => (entry.constant, '"' :: (entry.constant ++ ['"']))).mapM readNamed? =
      some (entries.map Entry.constant) := by
  induction entries with
  | nil => rfl
  | cons entry entries ih =>
    rw [List.map_cons, List.mapM_cons, readNamed?, if_pos rfl, ih]
    rfl

/-! ### The sections -/

/-- What the readers make of the sections of some entries: the lines that begin with a constant are
the lines of their constants, in which their names are read; the cases in one section lead from the
identifiers to the constants, and those in the other one are labelled with the constants. -/
structure ReadsBack (enum : Text) (entries : List Entry) (buffers : Buffers) : Prop where
  lines : (buffers.get? .constants).map (fun text => (endedLines text).filter opensConstant) =
    some (constantLines enum entries)
  constants : (buffers.get? .constants).bind (readConstants? enum) =
    some (entries.map Entry.names)
  valueOf : (buffers.get? .valueOf).bind readValueOf? =
    some (entries.map fun entry => (entry.identifier, entry.constant))
  toString : (buffers.get? .toString).bind readToString? =
    some (entries.map Entry.constant)

/-- What the sections of some entries hold reads back. -/
theorem readsBack_of_rendering {buffers : Buffers} (unbroken : '\n' ∉ enum)
    (readable : ∀ entry ∈ entries, entry.Readable)
    (held : ∀ which, buffers.get? which = some (which.rendering enum entries)) :
    ReadsBack enum entries buffers := by
  have each := Section.exists_lines_rendering unbroken
    fun entry there => (readable entry there).inline
  obtain ⟨constants, has, ⟨shape⟩⟩ := each .constants
  obtain ⟨_, hasValueOf, ⟨⟩⟩ := each .valueOf
  obtain ⟨_, hasToString, ⟨⟩⟩ := each .toString
  have opening : (endedLines (Section.constants.rendering enum entries)).filter opensConstant =
      constantLines enum entries := by
    rw [has.endedLines_eq, shape.filter_opensConstant readable]
  refine ⟨?_, ?_, ?_, ?_⟩
  · rw [held, Option.map_some, opening]
  · rw [held, Option.bind_some, readConstants?, opening, readConstantLines?_constantLines readable]
  · rw [held, Option.bind_some, readValueOf?, hasValueOf.endedLines_eq,
      readCases?_flatMap_caseLines]
  · rw [held, Option.bind_some, readToString?, hasToString.endedLines_eq,
      readCases?_flatMap_caseLines]
    exact mapM_readNamed?

namespace ReadsBack

variable {others : List Entry} {buffers buffers' : Buffers}

/-- What a reader makes of buffers that are the same is the same. -/
theorem eq_of_read {α : Type} {read : Text → Option α} {held held' : Option Text} {x y : α}
    (first : held.bind read = some x) (second : held'.bind read = some y) (same : held = held') :
    x = y := by
  rw [same, second] at first
  exact (Option.some.inj first).symm

/-- The constants determine the names of the entries, and so do the cases that lead to them. -/
theorem names_eq {which : Section} (reads : ReadsBack enum entries buffers)
    (reads' : ReadsBack enum others buffers') (same : buffers.get? which = buffers'.get? which)
    (named : which ≠ .toString) : entries.map Entry.names = others.map Entry.names := by
  cases which with
  | constants => exact eq_of_read reads.constants reads'.constants same
  | valueOf =>
    have swapped := congrArg (List.map Prod.swap) (eq_of_read reads.valueOf reads'.valueOf same)
    rwa [List.map_map, List.map_map] at swapped
  | toString => exact absurd rfl named

/-- Each section determines the constants. -/
theorem constants_eq {which : Section} (reads : ReadsBack enum entries buffers)
    (reads' : ReadsBack enum others buffers') (same : buffers.get? which = buffers'.get? which) :
    entries.map Entry.constant = others.map Entry.constant := by
  by_cases unnamed : which = .toString
  · subst unnamed
    exact eq_of_read reads.toString reads'.toString same
  · have first := congrArg (List.map Prod.fst) (reads.names_eq reads' same unnamed)
    rwa [List.map_map, List.map_map] at first

end ReadsBack

namespace Draft

variable {front back requests : List Request}

/-- The sections of a new draft after some requests, when its list of constants is ended. -/
def endedSections (enum : Text) (requests : List Request) : Buffers :=
  ((empty enum).run requests).finish.buffers

/-- Requests that have some entries, which can be read, rendered in all sections. -/
structure Renders (enum : Text) (requests : List Request) (entries : List Entry) : Prop where
  first : SectionsFirst (editsOf enum requests)
  laid : ∀ which, .slot which ∈ editsOf enum requests
  added : Edit.entries (editsOf enum requests) = entries
  readable : ∀ entry ∈ entries, entry.Readable

/-- Entries are rendered in all sections if they are added, in any way, behind a layout that has all
sections. -/
theorem Renders.of_append (unmarked : Edit.marks (editsOf enum front) = [])
    (laid : ∀ which, .slot which ∈ editsOf enum front)
    (filled : ∀ which, .slot which ∉ editsOf enum back)
    (added : Edit.entries (editsOf enum back) = entries)
    (readable : ∀ entry ∈ entries, entry.Readable) : Renders enum (front ++ back) entries where
  first := by
    rw [editsOf_append]
    exact sectionsFirst_append unmarked filled
  laid which := by
    rw [editsOf_append]
    exact List.mem_append_left _ (laid which)
  added := by
    rw [editsOf_append, Edit.entries_append, Edit.entries_eq_nil_of_marks unmarked,
      List.nil_append, added]
  readable := readable

theorem Renders.readsBack (unbroken : '\n' ∉ enum) (renders : Renders enum requests entries) :
    ReadsBack enum entries (endedSections enum requests) := by
  refine readsBack_of_rendering unbroken renders.readable fun which => ?_
  rw [endedSections, run_empty, get?_finish_edited renders.first (renders.laid which),
    renders.added]

/-- Whatever the documentation of the entries says, the sections that they were rendered in read
back: the lines that begin with a constant are the lines of the constants, separated by commas and
ended by a semicolon, and the readers find in each section the names of the entries, in their order
and as often as they are there. So a section that is the same after other requests, with other
documentation, is a rendering of the same constants, and of the same identifiers unless it is the
one that has no identifiers. -/
theorem sections_read_back (unbroken : '\n' ∉ enum) (renders : Renders enum requests entries) :
    ReadsBack enum entries (endedSections enum requests) ∧
      ∀ {again others which}, Renders enum again others →
        (endedSections enum requests).get? which = (endedSections enum again).get? which →
          entries.map Entry.constant = others.map Entry.constant ∧
            (which ≠ .toString → entries.map Entry.names = others.map Entry.names) := by
  have reads := renders.readsBack unbroken
  refine ⟨reads, fun renders' same => ?_⟩
  have reads' := renders'.readsBack unbroken
  exact ⟨reads.constants_eq reads' same, reads.names_eq reads' same⟩

/-- A layout of all sections and nothing else. -/
def bareLayout : List Request :=
  [.pushSection .constants, .pushSection .valueOf, .pushSection .toString]

/-- An entry whose documentation looks like a constant and like a case. -/
def misleading : Entry :=
  ⟨['a'], ['A'], ["    B(P.b),".toList, "            case B:".toList]⟩

/-- An entry without documentation. -/
def undocumented : Entry :=
  ⟨['b', '1'], ['B', '_', '1'], []⟩

theorem readable_misleading : misleading.Readable where
  identifier := .of_ascii (by simp [misleading]) (by simp [misleading])
  constant := .of_ascii (by simp [misleading]) (by simp [misleading])
  docs := by decide

theorem readable_undocumented : undocumented.Readable where
  identifier := .of_ascii (by simp [undocumented]) (by simp [undocumented])
  constant := .of_ascii (by simp [undocumented]) (by simp [undocumented])
  docs := by simp [undocumented]

/-- Requests for both, which end the list of constants in between. -/
def misleadingRequests : List Request :=
  bareLayout ++ [.add misleading, .finish, .addAll [undocumented]]

/-- Documentation that looks like a constant and like a case does not get in the way of reading. -/
theorem sections_read_back_misleading :
    Renders ['P'] misleadingRequests [misleading, undocumented] ∧
      ReadsBack ['P'] [misleading, undocumented] (endedSections ['P'] misleadingRequests) := by
  have readable : ∀ entry ∈ [misleading, undocumented], entry.Readable := by
    simp [readable_misleading, readable_undocumented]
  have laid : ∀ which, .slot which ∈ editsOf ['P'] bareLayout := by
    intro which
    cases which <;> decide
  have renders : Renders ['P'] misleadingRequests [misleading, undocumented] :=
    .of_append rfl laid (fun which => by simp [editsOf, Request.edits, batch]) rfl readable
  exact ⟨renders, (sections_read_back (by decide) renders).1⟩

end Draft

end EnumBindings
