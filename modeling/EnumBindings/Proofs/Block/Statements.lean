import EnumBindings.Proofs.Block.LineLayout
import EnumBindings.Proofs.Block.RoundTrip

/-!
# Statements on one line

A statement is read with the rest of its line. Of several statements on one line only the first one
makes an entry therefore, and the others go with it unseen. In a block of statements with nothing
but white space between them, on one line or on several, the statements that make entries are those
that are the first ones on their line.

## Main definitions

* `Gap` — white space, on any number of lines
* `printStatements` — statements written out, each with the white space in front of it
* `lineStarters` — the statements that are the first ones on their line

## Main results

* `length_lineStarters_eq_iff` — all statements are, exactly if a newline is between any two of them
* `Cursor.scan_printStatements` — the scan of written statements meets those
* `entries_of_printStatements` — the entries of an enum whose block has statements only
-/

namespace EnumBindings.Block

/-- White space, on any number of lines. -/
structure Gap where
  text : Text
  blank : ∀ c ∈ text, isBlank c = true

/-- Whether the line ends in some white space. -/
def Gap.breaks (gap : Gap) : Bool :=
  gap.text.contains '\n'

/-- A statement written out, with nothing behind it. -/
def Assignment.statement (assignment : Assignment) : Text :=
  assignment.name.text ++ assignment.beforeSign.text ++ '=' :: assignment.lead (.spaces 0)

/-- The entry of a statement without comments. -/
def Assignment.entry (assignment : Assignment) : Entry :=
  Entry.ofIdentifier assignment.name.text []

/-- Statements written out, each with the white space in front of it, and some white space at the
end. -/
def printStatements (statements : List (Gap × Assignment)) (last : Gap) : Text :=
  (statements.flatMap fun (gap, assignment) => gap.text ++ assignment.statement) ++ last.text

/-- The statements that begin a new line behind others. -/
def laterStarters (statements : List (Gap × Assignment)) : List Assignment :=
  (statements.filter (·.1.breaks)).map Prod.snd

/-- The statements that are the first ones on their line. -/
def lineStarters : List (Gap × Assignment) → List Assignment
  | [] => []
  | (_, first) :: more => first :: laterStarters more

variable {lead rest : Text} {gap : Gap} {assignment : Assignment}
  {statements more : List (Gap × Assignment)}

/-! ### Which statements begin a line -/

/-- The statements that are the first ones on their line stand in their order. -/
theorem lineStarters_sublist :
    (lineStarters statements).Sublist (statements.map Prod.snd) := by
  cases statements with
  | nil => exact .slnil
  | cons statement more =>
    have later : (laterStarters more).Sublist (more.map Prod.snd) :=
      List.filter_sublist.map Prod.snd
    exact later.cons_cons statement.2

/-- As many statements are the first ones on their line as there are, exactly if a newline is in
front of each but the first. -/
theorem length_lineStarters_eq_iff : (lineStarters statements).length = statements.length ↔
    ∀ parted ∈ statements.tail, '\n' ∈ parted.1.text := by
  cases statements with
  | nil => simp [lineStarters]
  | cons statement more => simp [lineStarters, laterStarters, List.length_filter_eq_length_iff,
      Gap.breaks]

/-- White space that has a newline is a line of white space and what follows it. -/
theorem Gap.exists_of_breaks (breaks : gap.breaks = true) : ∃ (line : Blanks) (behind : Gap),
    gap.text = line.text ++ '\n' :: behind.text := by
  rw [Gap.breaks, List.contains_iff_mem] at breaks
  obtain ⟨line, behind, whole, inline⟩ := List.eq_append_cons_of_mem breaks
  have blank (c : Char) (there : c ∈ line ∨ c ∈ behind) : isBlank c = true := by
    apply gap.blank
    rw [whole]
    rcases there with there | there <;> simp [there]
  exact ⟨⟨line, fun c there => blank c (.inl there), inline⟩,
    ⟨behind, fun c there => blank c (.inr there)⟩, whole⟩

/-- White space that has no newline is on one line. -/
theorem Gap.exists_eq_blanks (unbroken : gap.breaks = false) : ∃ pad : Blanks, pad.text = gap.text := by
  refine ⟨⟨gap.text, gap.blank, fun there => ?_⟩, rfl⟩
  rw [Gap.breaks, List.contains_iff_mem.mpr there] at unbroken
  cases unbroken

/-- A statement is on one line. -/
theorem Assignment.newline_notMem_statement : '\n' ∉ assignment.statement := by
  have name : '\n' ∉ assignment.name.text :=
    notMem_of_isIdentifierChar assignment.name.identifier (by decide)
  have behind := assignment.newline_notMem_lead (.spaces 0)
  simp [statement, name, assignment.beforeSign.inline, behind]

/-- A statement has no token but `=`. -/
theorem Assignment.statement_clear : Token.Clear (· ≠ .assign) assignment.statement rest := by
  have sign : Token.Clear (· ≠ .assign) ['='] (assignment.lead (.spaces 0) ++ rest) := by
    intro token other
    cases token with
    | assign => simp at other
    | lineComment => exact Text.clear_of_notMem (by decide)
    | blockComment => exact Text.clear_of_notMem (by decide)
    | lineEnd => exact Text.clear_of_notMem (by decide)
    | closeBrace => exact Text.clear_of_notMem (by decide)
  rw [statement, ← List.singleton_append, Token.clear_append, Token.clear_append,
    Token.clear_append]
  exact ⟨⟨assignment.name.clear, assignment.beforeSign.clear⟩, sign, assignment.lead_clear _⟩

theorem printStatements_cons {last : Gap} :
    printStatements ((gap, assignment) :: more) last =
      gap.text ++ (assignment.statement ++ printStatements more last) := by
  simp [printStatements]

/-! ### The scan of statements -/

namespace Cursor

variable (line : Nat)

/-- Behind white space, the closing brace ends the scan. -/
theorem scan_gap_closeBrace (last : Gap) (rest : Text) :
    (⟨line, last.text ++ '}' :: rest, []⟩ : Cursor).scan = ⟨[.finished], .ok ()⟩ := by
  obtain ⟨line', pad, passed⟩ := exists_passes_blank last.blank line ('}' :: rest) []
  have found : Token.next? (fun _ => true) (pad.text ++ '}' :: rest) =
      some (pad.text, .closeBrace, rest) :=
    Token.next?_of_clear .closeBrace pad.clear rfl
  rw [passed.scan_eq, scan_of_next_closeBrace found]
  rfl

/-- Behind white space, a statement makes an entry, and the scan goes on where its tail ends. -/
theorem scan_gap_statement {tail : Tail} {behind : Text} (gap : Gap)
    (read : Tail.Reads (assignment.lead (.spaces 0) ++ behind) tail) (undocumented : tail.docs = []) :
    ∃ line', (⟨line, gap.text ++ (assignment.statement ++ behind), []⟩ : Cursor).scan =
      ⟨.entry assignment.entry :: (⟨line', tail.rest, []⟩ : Cursor).scan.events,
        (⟨line', tail.rest, []⟩ : Cursor).scan.result⟩ := by
  obtain ⟨before, pad, passed⟩ :=
    exists_passes_blank gap.blank line (assignment.statement ++ behind) []
  have shape : pad.text ++ (assignment.statement ++ behind) =
      pad.text ++ assignment.name.text ++ assignment.beforeSign.text ++
        '=' :: (assignment.lead (.spaces 0) ++ behind) := by
    simp [Assignment.statement]
  rw [shape] at passed
  have met := advances_entry before [] pad assignment read
  rw [undocumented] at met
  refine ⟨before + Text.newlines tail.through, ?_⟩
  rw [passed.scan_eq, scan_of_advanced (step_eq_advanced_iff.mpr met)]
  rfl

/-- What a statement is read with, and what is left for the scan. Of the statements behind it, those
on its line are read with it, and each that begins a new line is left. -/
theorem exists_read_of_statements (last : Gap) (rest : Text)
    (statements : List (Gap × Assignment)) (lead : Text) (inline : '\n' ∉ lead)
    (clear : ∀ behind, Token.Clear (· ≠ .assign) lead behind) :
    ∃ tail, Tail.Reads (lead ++ (printStatements statements last ++ '}' :: rest)) tail ∧
      tail.docs = [] ∧
      ∀ line, (⟨line, tail.rest, []⟩ : Cursor).scan =
        ⟨(laterStarters statements).map (.entry ·.entry) ++ [.finished], .ok ()⟩ := by
  induction statements generalizing lead with
  | nil =>
    -- The white space in front of the closing brace has the end of the line, or the brace does it.
    cases broken : last.breaks with
    | false =>
      obtain ⟨pad, same⟩ := Gap.exists_eq_blanks broken
      have found : Token.next? (· ≠ .assign) (lead ++ pad.text ++ '}' :: rest) =
          some (lead ++ pad.text, .closeBrace, rest) :=
        Token.next?_of_clear .closeBrace (Token.clear_append.mpr ⟨clear _, pad.clear⟩) rfl
      have shape : lead ++ (printStatements [] last ++ '}' :: rest) =
          lead ++ pad.text ++ '}' :: rest := by
        simp [printStatements, same]
      rw [shape]
      refine ⟨_, .brace found, rfl, fun line => ?_⟩
      exact scan_of_next_closeBrace (Token.next?_of_clear .closeBrace Token.clear_nil rfl)
    | true =>
      obtain ⟨pad, behind, whole⟩ := Gap.exists_of_breaks broken
      have shape : lead ++ (printStatements [] last ++ '}' :: rest) =
          lead ++ pad.text ++ '\n' :: (behind.text ++ '}' :: rest) := by
        simp [printStatements, whole]
      rw [shape]
      refine ⟨_, Tail.reads_line (by simp [inline, pad.inline])
        (Token.clear_append.mpr ⟨clear _, pad.clear⟩), rfl, fun line => ?_⟩
      exact scan_gap_closeBrace line behind rest
  | cons statement more ih =>
    obtain ⟨gap, assignment⟩ := statement
    cases broken : gap.breaks with
    | false =>
      -- The statement is read with the one in front of it, as a part of the same line.
      obtain ⟨pad, same⟩ := Gap.exists_eq_blanks broken
      have shape : lead ++ (printStatements ((gap, assignment) :: more) last ++ '}' :: rest) =
          lead ++ pad.text ++ assignment.statement ++
            (printStatements more last ++ '}' :: rest) := by
        simp [printStatements_cons, same]
      have later : laterStarters ((gap, assignment) :: more) = laterStarters more := by
        simp [laterStarters, broken]
      rw [shape, later]
      refine ih (lead ++ pad.text ++ assignment.statement) ?_ fun behind => ?_
      · simp [inline, pad.inline, Assignment.newline_notMem_statement]
      · rw [Token.clear_append, Token.clear_append]
        exact ⟨⟨clear _, pad.clear⟩, Assignment.statement_clear⟩
    | true =>
      obtain ⟨pad, behind, whole⟩ := Gap.exists_of_breaks broken
      have shape : lead ++ (printStatements ((gap, assignment) :: more) last ++ '}' :: rest) =
          lead ++ pad.text ++ '\n' ::
            (behind.text ++ (assignment.statement ++
              (printStatements more last ++ '}' :: rest))) := by
        simp [printStatements_cons, whole]
      have later : laterStarters ((gap, assignment) :: more) = assignment :: laterStarters more := by
        simp [laterStarters, broken]
      rw [shape, later]
      refine ⟨_, Tail.reads_line (by simp [inline, pad.inline])
        (Token.clear_append.mpr ⟨clear _, pad.clear⟩), rfl, fun line => ?_⟩
      obtain ⟨tail, read, undocumented, onward⟩ := ih (assignment.lead (.spaces 0))
        (assignment.newline_notMem_lead _) fun behind => assignment.lead_clear _
      obtain ⟨line', met⟩ := scan_gap_statement line behind read undocumented
      rw [met, onward line']
      rfl

/-- The scan of written statements meets those that are the first ones on their line. -/
theorem scan_printStatements (statements : List (Gap × Assignment)) (last : Gap) (rest : Text) :
    (⟨line, printStatements statements last ++ '}' :: rest, []⟩ : Cursor).scan =
      ⟨((lineStarters statements).map (·.entry)).map .entry ++ [.finished], .ok ()⟩ := by
  cases statements with
  | nil => exact scan_gap_closeBrace line last rest
  | cons statement more =>
    obtain ⟨gap, assignment⟩ := statement
    obtain ⟨tail, read, undocumented, onward⟩ := exists_read_of_statements last rest more
      (assignment.lead (.spaces 0)) (assignment.newline_notMem_lead _)
      fun behind => assignment.lead_clear _
    obtain ⟨line', met⟩ := scan_gap_statement line gap read undocumented
    rw [printStatements_cons, List.append_assoc, List.append_assoc, met, onward line',
      List.map_map]
    rfl

end Cursor

/-- In a block that has nothing but statements and white space, the statements that are the first
ones on their line make the entries. So each statement makes one exactly if there is a newline
between any two of them. -/
theorem entries_of_printStatements {enum source before gap rest : Text} {last : Gap}
    (header : FirstHeader enum source before
      (gap ++ '{' :: (printStatements statements last ++ '}' :: rest)))
    (unopened : '{' ∉ gap) :
    entries enum source = .ok ((lineStarters statements).map (·.entry)) ∧
      (entries enum source = .ok (statements.map (·.2.entry)) ↔
        ∀ parted ∈ statements.tail, '\n' ∈ parted.1.text) := by
  have read : entries enum source = .ok ((lineStarters statements).map (·.entry)) := by
    obtain ⟨line, opened⟩ := opening_of_firstHeader header unopened
    apply entries_of_scan
    rw [scan, opened]
    exact Cursor.scan_printStatements line statements last rest
  refine ⟨read, ?_⟩
  rw [read, ← length_lineStarters_eq_iff, Except.ok.injEq]
  constructor
  · intro all
    have lengths := congrArg List.length all
    rwa [List.length_map, List.length_map] at lengths
  · intro lengths
    have whole := lineStarters_sublist.eq_of_length (by rw [lengths, List.length_map])
    rw [whole, List.map_map]
    rfl

/-- White space that can be checked to be so. -/
def Gap.ofText (text : Text) (blank : text.all isBlank = true) : Gap :=
  ⟨text, List.all_eq_true.mp blank⟩

/-- A word has no slash in it. -/
theorem Word.not_slash_isInfix (word : Word) (c : Char) : ¬ ['/', c] <:+: word.text := by
  intro there
  have among := there.subset (List.mem_cons_self (a := '/'))
  exact notMem_of_isIdentifierChar word.identifier (by decide) among

/-- A word can be a value. -/
def Word.toValue (word : Word) : Value where
  text := word.text
  inline := notMem_of_isIdentifierChar word.identifier (by decide)
  unbraced := notMem_of_isIdentifierChar word.identifier (by decide)
  noRemark := word.not_slash_isInfix '/'
  noNote := word.not_slash_isInfix '*'

/-- A statement of an identifier and a digit. -/
def Assignment.single (name : Char) (identifier : isIdentifierChar name = true) : Assignment :=
  ⟨.single name identifier, .spaces 1, .spaces 1, (Word.single '1' (by decide)).toValue, .spaces 0⟩

/-- Two statements on one line, and a third one on the next. -/
def mixedLines : List (Gap × Assignment) :=
  [(.ofText ['\n', ' '] rfl, .single 'K' (by decide)), (.ofText [' '] rfl, .single 'L' (by decide)),
    (.ofText ['\n', '\n', ' '] rfl, .single 'M' (by decide))]

/-- The second statement on a line makes no entry. -/
theorem entries_of_mixedLines :
    entries ['X'] "enum X \x7b\n K = 1; L = 1;\n\n M = 1; \x7d\n".toList =
        .ok [Entry.ofIdentifier ['K'] [], Entry.ofIdentifier ['M'] []] ∧
      entries ['X'] "enum X \x7b\n K = 1; L = 1;\n\n M = 1; \x7d\n".toList ≠
        .ok [Entry.ofIdentifier ['K'] [], Entry.ofIdentifier ['L'] [],
          Entry.ofIdentifier ['M'] []] := by
  have header : FirstHeader ['X'] "enum X \x7b\n K = 1; L = 1;\n\n M = 1; \x7d\n".toList []
      ([' '] ++ '{' :: (printStatements mixedLines (.ofText [' '] rfl) ++ '}' :: ['\n'])) :=
    firstHeader_of_notMem List.not_mem_nil rfl (by decide)
  obtain ⟨read, all⟩ := entries_of_printStatements header (by decide)
  refine ⟨read, fun whole => ?_⟩
  exact absurd (all.mp whole _ List.mem_cons_self) (by decide)

/-- Of two statements with a space between them the second one is lost. -/
theorem entries_of_sharedLine :
    entries ['X'] "enum X \x7b\n  A = 1; B = 2;\n\x7d\n".toList =
        .ok [Entry.ofIdentifier ['A'] []] ∧
      entries ['X'] "enum X \x7b\n  A = 1; B = 2;\n\x7d\n".toList ≠
        .ok [Entry.ofIdentifier ['A'] [], Entry.ofIdentifier ['B'] []] := by
  have first : Cursor.step ⟨1, "\n  A = 1; B = 2;\n\x7d\n".toList, []⟩ =
    .advanced none ⟨2, "  A = 1; B = 2;\n\x7d\n".toList, []⟩ := rfl
  have second : Cursor.step ⟨2, "  A = 1; B = 2;\n\x7d\n".toList, []⟩ =
    .advanced (some (Entry.ofIdentifier ['A'] [])) ⟨3, "\x7d\n".toList, []⟩ := rfl
  have read : entries ['X'] "enum X \x7b\n  A = 1; B = 2;\n\x7d\n".toList =
      .ok [Entry.ofIdentifier ['A'] []] := by
    have opened : opening ['X'] "enum X \x7b\n  A = 1; B = 2;\n\x7d\n".toList =
      .ok (1, "\n  A = 1; B = 2;\n\x7d\n".toList) := rfl
    apply entries_of_scan
    rw [scan, opened]
    dsimp only
    rw [Cursor.scan_of_advanced first, Cursor.scan_of_advanced second,
      Cursor.scan_of_next_closeBrace rfl]
    rfl
  rw [read]
  exact ⟨rfl, by simp⟩

end EnumBindings.Block
