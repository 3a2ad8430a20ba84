import EnumBindings.Proofs.Block.Delivery
import EnumBindings.Proofs.ConstantName
import EnumBindings.Proofs.Draft.Javadoc
import EnumBindings.Proofs.Draft.OneShot

/-!
# The lines of a section

The renderings of entries are put together line by line, but their names and their documentation are
texts of a proto file. They take as many lines as they are to take only because none of these texts
has a newline: names stand in front of the sign of a statement, documentation is taken from comments
one line at a time, and neither naming a constant nor the replacements in documentation make a
newline of anything else.

## Main definitions

* `HasLines` — a text is made up of some lines
* `JavadocLines`, `ConstantLines`, `caseLines` — the lines of renderings
* `Section.Lines` — the lines of a section

## Main results

* `Block.inline_of_mem_entries` — the texts of an entry are on one line
* `Section.exists_lines_rendering` — the lines of a section whose entries are on one line
* `Draft.exists_lines_of_addSource` — the lines of the sections to which a source was added
-/

namespace EnumBindings

/-! ### Texts made up of lines -/

/-- A text is made up of some lines, each of them ended by a newline and without any other. -/
structure HasLines (text : Text) (lines : List Text) : Prop where
  whole : text = lines.flatMap fun line => line ++ ['\n']
  inline : ∀ line ∈ lines, '\n' ∉ line

namespace HasLines

variable {s t line : Text} {lines later : List Text}

theorem nil : HasLines [] [] :=
  ⟨rfl, by simp⟩

/-- A line in front of others. -/
theorem cons (inline : '\n' ∉ line) (rest : HasLines t lines) :
    HasLines (line ++ '\n' :: t) (line :: lines) := by
  refine ⟨?_, List.forall_mem_cons.mpr ⟨inline, rest.inline⟩⟩
  rw [rest.whole, List.flatMap_cons, List.append_assoc]
  rfl

/-- Lines in front of others. -/
theorem append (first : HasLines s lines) (rest : HasLines t later) :
    HasLines (s ++ t) (lines ++ later) := by
  refine ⟨?_, List.forall_mem_append.mpr ⟨first.inline, rest.inline⟩⟩
  rw [first.whole, rest.whole, List.flatMap_append]

/-- Texts made up of lines, one after the other. -/
theorem flatMap {α : Type} {xs : List α} {text : α → Text} {lines : α → List Text}
    (each : ∀ x ∈ xs, HasLines (text x) (lines x)) :
    HasLines (xs.flatMap text) (xs.flatMap lines) := by
  induction xs with
  | nil => exact nil
  | cons x xs ih =>
    rw [List.forall_mem_cons] at each
    exact each.1.append (ih each.2)

end HasLines

/-! ### Javadoc -/

variable {enum source : Text} {entry : Entry} {entries : List Entry} {docs : List Text}

/-- The lines of Javadoc: none, or one for each line of documentation between a first and a last. -/
inductive JavadocLines : List Text → List Text → Prop
  | none : JavadocLines [] []
  | block {docs inside : List Text} : docs ≠ [] → inside.length = docs.length →
      (∀ line ∈ inside, "     *".toList <+: line) →
      JavadocLines docs ("    /**".toList :: (inside ++ ["     */".toList]))

/-- A line of documentation takes one line. -/
theorem exists_line_javadocLine {doc : Text} (inline : '\n' ∉ doc) : ∃ line,
    javadocLine doc = line ++ ['\n'] ∧ '\n' ∉ line ∧ "     *".toList <+: line := by
  have kept : '\n' ∉ Replacement.applyAll Replacement.comment doc := fun there =>
    inline ((Replacement.traces_applyAll_comment (by decide)).mem there)
  rw [javadocLine]
  split
  next => exact ⟨"     *".toList, rfl, by decide, List.prefix_rfl⟩
  next =>
    refine ⟨"     * ".toList ++ Replacement.applyAll Replacement.comment doc, rfl, ?_, _, rfl⟩
    rw [List.mem_append, not_or]
    exact ⟨by decide, kept⟩

/-- Lines of documentation take one line each. -/
theorem exists_inside_javadoc (inline : ∀ doc ∈ docs, '\n' ∉ doc) : ∃ inside : List Text,
    HasLines (docs.flatMap javadocLine) inside ∧ inside.length = docs.length ∧
      ∀ line ∈ inside, "     *".toList <+: line := by
  induction docs with
  | nil => exact ⟨[], .nil, rfl, by simp⟩
  | cons doc docs ih =>
    rw [List.forall_mem_cons] at inline
    obtain ⟨line, first, unbroken, starred⟩ := exists_line_javadocLine inline.1
    obtain ⟨inside, rest, counted, all⟩ := ih inline.2
    refine ⟨line :: inside, ?_, by simp [counted], List.forall_mem_cons.mpr ⟨starred, all⟩⟩
    rw [List.flatMap_cons, first, List.append_assoc]
    exact .cons unbroken rest

/-- Javadoc has two lines more than documentation, if there is any. -/
theorem exists_lines_javadoc (inline : ∀ doc ∈ docs, '\n' ∉ doc) :
    ∃ lines, HasLines (javadoc docs) lines ∧ JavadocLines docs lines := by
  rw [javadoc]
  split
  next nothing =>
    rw [nothing]
    exact ⟨[], .nil, .none⟩
  next some =>
    obtain ⟨inside, has, counted, starred⟩ := exists_inside_javadoc inline
    refine ⟨_, ?_, .block some counted starred⟩
    have shape : indent 1 ++ "/**\n".toList ++ docs.flatMap javadocLine ++ indent 1 ++
        " */\n".toList = "    /**".toList ++
          '\n' :: (docs.flatMap javadocLine ++ ("     */".toList ++ ['\n'])) := by
      simp [indent]
    have first : '\n' ∉ "    /**".toList := by decide
    have last : '\n' ∉ "     */".toList := by decide
    rw [shape]
    exact .cons first (has.append (.cons last .nil))

/-! ### Sections -/

/-- The texts of an entry are on one line. -/
structure Entry.Inline (entry : Entry) : Prop where
  identifier : '\n' ∉ entry.identifier
  constant : '\n' ∉ entry.constant
  docs : ∀ doc ∈ entry.docs, '\n' ∉ doc

/-- The line of a constant, with a mark that separates it from the next one or ends the list. -/
def Entry.constantLine (enum : Text) (entry : Entry) (mark : Char) : Text :=
  indent 1 ++ entry.constant ++ ['('] ++ enum ++ ['.'] ++ entry.identifier ++ [')', mark]

/-- The lines of constants: for each of them its Javadoc, its line and an empty line. -/
inductive ConstantLines (enum : Text) : List Entry → List Text → Prop
  | none : ConstantLines enum [] [[';'], []]
  | last {entry : Entry} {lines : List Text} : JavadocLines entry.docs lines →
      ConstantLines enum [entry] (lines ++ [entry.constantLine enum ';', []])
  | more {entry next : Entry} {later : List Entry} {lines rest : List Text} :
      JavadocLines entry.docs lines → ConstantLines enum (next :: later) rest →
      ConstantLines enum (entry :: next :: later)
        (lines ++ [entry.constantLine enum ',', []] ++ rest)

/-- The two lines of a case. -/
def caseLines (label result : Text) : List Text :=
  [indent 3 ++ "case ".toList ++ label ++ [':'], indent 4 ++ "return ".toList ++ result ++ [';']]

/-- The lines of a section in which some entries are rendered. -/
inductive Section.Lines (enum : Text) (entries : List Entry) : Section → List Text → Prop
  | constants {lines : List Text} : ConstantLines enum entries lines →
      Lines enum entries .constants lines
  | valueOf : Lines enum entries .valueOf
      (entries.flatMap fun entry => caseLines entry.identifier entry.constant)
  | toString : Lines enum entries .toString
      (entries.flatMap fun entry => caseLines entry.constant ('"' :: (entry.constant ++ ['"'])))

/-- A constant takes its Javadoc and two more lines. -/
theorem exists_lines_item (unbroken : '\n' ∉ enum) (inline : entry.Inline) {mark : Char}
    (visible : mark ≠ '\n') : ∃ lines, JavadocLines entry.docs lines ∧
      HasLines (entry.item enum ++ [mark, '\n', '\n'])
        (lines ++ [entry.constantLine enum mark, []]) := by
  obtain ⟨lines, has, javadoc⟩ := exists_lines_javadoc inline.docs
  refine ⟨lines, javadoc, ?_⟩
  have one : '\n' ∉ entry.constantLine enum mark := by
    have closing : '\n' ∉ [')', mark] := by simp [visible.symm]
    simp only [Entry.constantLine, List.mem_append, not_or]
    exact ⟨⟨⟨⟨⟨⟨by decide, inline.constant⟩, by decide⟩, unbroken⟩, by decide⟩, inline.identifier⟩,
      closing⟩
  have two : HasLines ['\n'] [[]] := .cons List.not_mem_nil .nil
  have shape : entry.item enum ++ [mark, '\n', '\n'] =
      EnumBindings.javadoc entry.docs ++ (entry.constantLine enum mark ++ '\n' :: ['\n']) := by
    simp [Entry.item, Entry.constantLine]
  rw [shape]
  exact has.append (.cons one two)

/-- A case has the two lines that it is to have. -/
theorem hasLines_case {label result : Text} (first : '\n' ∉ label) (second : '\n' ∉ result) :
    HasLines (caseText label result) (caseLines label result) := by
  have one : '\n' ∉ indent 3 ++ "case ".toList ++ label ++ [':'] :=
    List.not_mem_append (List.not_mem_append (by decide) first) (by decide)
  have two : '\n' ∉ indent 4 ++ "return ".toList ++ result ++ [';'] :=
    List.not_mem_append (List.not_mem_append (by decide) second) (by decide)
  have shape : caseText label result =
      indent 3 ++ "case ".toList ++ label ++ [':'] ++
        '\n' :: (indent 4 ++ "return ".toList ++ result ++ [';'] ++ ['\n']) := by
    rw [caseText_eq]
    simp
  rw [shape]
  exact .cons one (.cons two .nil)

/-- A list of constants has the lines that it is to have. -/
theorem exists_lines_constants (unbroken : '\n' ∉ enum) (inline : ∀ entry ∈ entries, entry.Inline) :
    ∃ lines, HasLines (Section.constants.rendering enum entries) lines ∧
      ConstantLines enum entries lines := by
  induction entries with
  | nil =>
    have mark : '\n' ∉ [';'] := by decide
    exact ⟨[[';'], []], .cons mark (.cons List.not_mem_nil .nil), .none⟩
  | cons entry entries ih =>
    rw [List.forall_mem_cons] at inline
    -- The mark behind a constant depends on whether another one follows it.
    cases entries with
    | nil =>
      have ended : ';' ≠ '\n' := by decide
      obtain ⟨lines, javadoc, has⟩ := exists_lines_item unbroken inline.1 ended
      have shape : Section.constants.rendering enum [entry] =
          entry.item enum ++ [';', '\n', '\n'] := by
        rw [Section.rendering, List.map_singleton, List.intercalate_singleton]
        rfl
      rw [shape]
      exact ⟨_, has, .last javadoc⟩
    | cons next later =>
      have separated : ',' ≠ '\n' := by decide
      obtain ⟨lines, javadoc, has⟩ := exists_lines_item unbroken inline.1 separated
      obtain ⟨rest, has', constants⟩ := ih inline.2
      rw [rendering_cons_cons]
      exact ⟨_, has.append has', .more javadoc constants⟩

/-- A section has the lines that it is to have, if its entries are on one line. -/
theorem Section.exists_lines_rendering (unbroken : '\n' ∉ enum)
    (inline : ∀ entry ∈ entries, entry.Inline) (which : Section) :
    ∃ lines, HasLines (which.rendering enum entries) lines ∧ which.Lines enum entries lines := by
  cases which with
  | constants =>
    obtain ⟨lines, has, constants⟩ := exists_lines_constants unbroken inline
    exact ⟨lines, has, .constants constants⟩
  | valueOf =>
    refine ⟨_, .flatMap fun entry there => ?_, .valueOf⟩
    exact hasLines_case (inline entry there).identifier (inline entry there).constant
  | toString =>
    refine ⟨_, .flatMap fun entry there => ?_, .toString⟩
    have constant := (inline entry there).constant
    have quoted : '\n' ∉ '"' :: (entry.constant ++ ['"']) := by simp [constant]
    exact hasLines_case constant quoted

/-- The texts of the entries of a source are on one line. -/
theorem Block.inline_of_mem_entries (read : Block.entries enum source = .ok entries)
    (there : entry ∈ entries) : entry.Inline := by
  obtain ⟨found, events, named⟩ := Block.exists_events enum source
  obtain rfl : found = entries := by
    rw [← (Block.entries_eq_ok_iff.mp read).2, events, Block.filterMap_toEntry_closing]
  obtain ⟨name, constant⟩ := named entry there
  refine ⟨name.inline, ?_, fun doc among => ?_⟩
  · rw [constant]
    exact ConstantName.newline_notMem_ofIdentifier name.inline
  · obtain ⟨span, documents⟩ := Block.exists_documents read there among
    exact documents.newline_notMem

namespace Draft

variable {added : Draft} {pushes : List Edit}

/-- A section that is laid out before all entries holds their rendering when they are ended. -/
theorem get?_addAll_edited {which : Section} (unmarked : Edit.marks pushes = [])
    (laid : .slot which ∈ pushes) (entries : List Entry) :
    (((empty enum).edited pushes).addAll entries).buffers.get? which =
      some (which.rendering enum entries) := by
  have there : Edit.slot which ∈ pushes ++ batch entries := List.mem_append_left _ laid
  have first : SectionsFirst (pushes ++ batch entries) :=
    sectionsFirst_append unmarked fun which => by simp [batch]
  have ended : (((empty enum).edited pushes).addAll entries).finished = true :=
    finished_finish _
  -- What the draft is when it is ended once more is what it is already.
  have again : (((empty enum).edited pushes).addAll entries).finish =
      ((empty enum).edited pushes).addAll entries := by
    rw [finish, if_pos ended]
  rw [← again, ← edited_batch, ← edited_append, get?_finish_edited first there,
    Edit.entries_append, entries_batch, Edit.entries_eq_nil_of_marks unmarked, List.nil_append]

/-- If a source is added to a new draft with all sections, no text of the source goes over the lines
of a section: each entry has in the constants its Javadoc, with two lines more than it has lines of
documentation if it has any, a line of its own and an empty line; it has two lines in each of the
other sections; and the sections have nothing else. -/
theorem exists_lines_of_addSource (unbroken : '\n' ∉ enum) (unmarked : Edit.marks pushes = [])
    (laid : ∀ which, .slot which ∈ pushes)
    (done : ((empty enum).edited pushes).addSource source = .ok added) :
    ∃ found, Block.entries enum source = .ok found ∧ ∀ which, ∃ text lines,
      added.buffers.get? which = some text ∧ HasLines text lines ∧
        which.Lines enum found lines := by
  rw [addSource, enum_edited] at done
  have same : (empty enum).enum = enum := rfl
  rw [same] at done
  cases read : Block.entries enum source with
  | error fault =>
    rw [read] at done
    cases done
  | ok found =>
    rw [read] at done
    obtain rfl := Except.ok.inj done
    refine ⟨found, rfl, fun which => ?_⟩
    obtain ⟨lines, has, shape⟩ := Section.exists_lines_rendering unbroken
      (fun _ there => Block.inline_of_mem_entries read there) which
    exact ⟨_, lines, get?_addAll_edited unmarked (laid which) found, has, shape⟩

/-- A layout of some text and the three sections. -/
def allSections : List Edit :=
  [.text "enum ".toList, .slot .constants, .slot .valueOf, .slot .toString]

/-- A line comment above an entry takes one line, also where words are replaced in it. -/
theorem exists_lines_remarkSource : ∃ found,
    Block.entries ['X'] (remarkSource "a & b".toList) = .ok found ∧ ∀ which, ∃ text lines,
      (((empty ['X']).edited allSections).addAll
        [.ofIdentifier ['A'] ["a & b".toList]]).buffers.get? which = some text ∧
          HasLines text lines ∧ which.Lines ['X'] found lines := by
  have laid : ∀ which, .slot which ∈ allSections := by
    intro which
    cases which <;> decide
  have read := entries_remarkSource "a & b".toList (by decide)
  have done := congrArg (Except.map ((empty ['X']).edited allSections).addAll) read
  exact exists_lines_of_addSource (by decide) rfl laid done

end Draft

end EnumBindings
