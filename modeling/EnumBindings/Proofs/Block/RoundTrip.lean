import EnumBindings.Proofs.Block.FirstHeader
import EnumBindings.Proofs.Block.Listing
import EnumBindings.Proofs.Block.Passage

/-!
# Reading written blocks

A scan of a block that was written out item by item meets exactly the entries of the items, each
with its documentation, and ends at the closing brace that was written, whatever follows it. Each
item is a passage of the scan: it comes to the line after the item with the documentation that
waits there.

## Main results

* `Cursor.passes_remark`, `Cursor.passes_note`, `Cursor.passes_entry`, `Cursor.passes_option` — the
  passages over single items
* `Cursor.scan_printBlock` — the scan of a written block
* `scan_of_firstHeader`, `entries_of_printBlock` — the scan and the entries of an enum whose block
  was written out
-/

namespace EnumBindings.Block

/-- The rest of a line without a comment and a closing brace is read with the statement, and nothing
more. -/
theorem Tail.reads_line {s rest : Text} (inline : '\n' ∉ s)
    (clear : Token.Clear (· ≠ .assign) s ('\n' :: rest)) :
    Tail.Reads (s ++ '\n' :: rest) ⟨[], s ++ ['\n'], rest⟩ := by
  have found : Token.next? (· ≠ .assign) (s ++ '\n' :: rest) = some (s, .lineEnd, rest) :=
    Token.next?_of_clear .lineEnd clear rfl
  have read := Tail.Reads.plain fun value token rest' h => by
    rw [found] at h
    cases h
    rfl
  rwa [Text.throughLine_append_newline inline] at read

namespace Cursor

variable (line : Nat) (pending : List Text) (indent pad : Blanks) (rest : Text)

/-! ### Passages over items -/

/-- A line comment waits for the next entry. -/
theorem passes_remark (text : Line) : ∃ line',
    Passes ⟨line, indent.text ++ (['/', '/'] ++ (text.text ++ '\n' :: rest)), pending⟩ []
      ⟨line', rest, pending ++ [trim text.text]⟩ := by
  have found : Token.next? (fun _ => true)
      (indent.text ++ (['/', '/'] ++ (text.text ++ '\n' :: rest))) =
        some (indent.text, .lineComment, text.text ++ '\n' :: rest) :=
    Token.next?_of_clear .lineComment indent.clear rfl
  have collected : Advances ⟨line, _, pending⟩ _ _ := .lineComment found
  rw [Text.throughLine_append_newline text.inline, trim_append_blank isBlank_newline] at collected
  exact ⟨_, .single (step_eq_advanced_iff.mpr collected)⟩

/-- The lines of a block comment wait for the next entry. -/
theorem passes_note (note : Note) : ∃ line',
    Passes ⟨line, indent.text ++ (note.print ++ (pad.text ++ '\n' :: rest)), pending⟩ []
      ⟨line', rest, pending ++ commentLines note.text⟩ := by
  have found : Token.next? (fun _ => true)
      (indent.text ++ (note.print ++ (pad.text ++ '\n' :: rest))) =
        some (indent.text, .blockComment,
          note.text ++ (['*', '/'] ++ (pad.text ++ '\n' :: rest))) := by
    rw [note.print_append]
    exact Token.next?_of_clear .blockComment indent.clear rfl
  have collected : Advances ⟨line, _, pending⟩ _ _ := .blockComment found note.cut_append
  exact ⟨_, (Passes.single (step_eq_advanced_iff.mpr collected)).trans (passes_line pad.clear)⟩

/-! ### Statements

What stands between the `=` of a statement and its comments has no token that ends it, so the first
token behind it decides how the statement is read. -/

variable (assignment : Assignment) (trailer : Trailer)

/-- The first token that ends a tail is found behind a statement. -/
theorem next?_lead (pad : Blanks) (token : Token) (other : token ≠ .assign)
    (after : Text) :
    Token.next? (· ≠ .assign) (assignment.lead pad ++ (token.lexeme ++ after)) =
      some (assignment.lead pad, token, after) :=
  Token.next?_of_clear token (assignment.lead_clear pad) (by simpa using other)

/-- Behind a block comment, a token that is neither `=` nor another block comment is found. -/
private theorem next?_behind (pad : Blanks) (token : Token)
    (kind : (token ≠ .assign && token ≠ .blockComment) = true) (after : Text) :
    Token.next? (fun token => token ≠ .assign && token ≠ .blockComment)
      (pad.text ++ (token.lexeme ++ after)) = some (pad.text, token, after) :=
  Token.next?_of_clear token pad.clear kind

/-- A block comment is the last that is read with a statement, if neither a comment nor a `=`
follows at once. -/
private theorem reads_note (pad behind : Blanks) (note : Note) (token : Token)
    (kind : (token ≠ .assign && token ≠ .blockComment) = true) (noRemark : token ≠ .lineComment) :
    ∃ through, Tail.Reads
      (assignment.lead pad ++ (note.print ++ (behind.text ++ (token.lexeme ++ rest))))
      ⟨commentLines note.text, through, behind.text ++ (token.lexeme ++ rest)⟩ := by
  have found := next?_lead assignment pad .blockComment (by decide)
    (note.text ++ (['*', '/'] ++ (behind.text ++ (token.lexeme ++ rest))))
  have read := Tail.Reads.note found note.cut_append fun gap r further => by
    rw [next?_behind behind token kind rest] at further
    cases further
    exact noRemark rfl
  rw [note.print_append]
  exact ⟨_, read⟩

/-- The comments of a statement are read with it, and nothing is left on their line. -/
private theorem reads_trailer : ∃ tail,
    Tail.Reads (assignment.lead trailer.pad ++ (trailer.comments ++ '\n' :: rest)) tail ∧
      tail.docs = trailer.docs ∧
      ∀ line, ∃ line', Passes ⟨line, tail.rest, []⟩ [] ⟨line', rest, []⟩ := by
  obtain ⟨pad, note?, remark?⟩ := trailer
  cases note? with
  | none =>
    cases remark? with
    | none =>
      have read : Tail.Reads (assignment.lead pad ++ '\n' :: rest) _ :=
        Tail.reads_line (assignment.newline_notMem_lead pad) (assignment.lead_clear pad)
      exact ⟨_, read, rfl, fun line => ⟨line, .refl _⟩⟩
    | some remark =>
      have found := next?_lead assignment pad .lineComment (by decide) (remark.text ++ '\n' :: rest)
      have read := Tail.Reads.remark found
      rw [Text.throughLine_append_newline remark.inline, trim_append_blank isBlank_newline] at read
      exact ⟨_, read, rfl, fun line => ⟨line, .refl _⟩⟩
  | some noted =>
    obtain ⟨note, behind⟩ := noted
    cases remark? with
    | none =>
      obtain ⟨through, read⟩ :=
        reads_note rest assignment pad behind note .lineEnd (by decide) (by decide)
      -- Only the blanks behind the block comment are left of the line, for the next step.
      have shape : Trailer.comments ⟨pad, some (note, behind), none⟩ ++ '\n' :: rest =
          note.print ++ (behind.text ++ (Token.lineEnd.lexeme ++ rest)) := by
        simp [Trailer.comments, Token.lexeme]
      rw [shape]
      exact ⟨_, read, by simp [Trailer.docs], fun line => ⟨line + 1, passes_line behind.clear⟩⟩
    | some remark =>
      have found := next?_lead assignment pad .blockComment (by decide)
        (note.text ++ (['*', '/'] ++ (behind.text ++
          (Token.lineComment.lexeme ++ (remark.text ++ '\n' :: rest)))))
      have read := Tail.Reads.noteRemark found note.cut_append
        (next?_behind behind .lineComment (by decide) _)
      rw [Text.throughLine_append_newline remark.inline, trim_append_blank isBlank_newline] at read
      have shape : Trailer.comments ⟨pad, some (note, behind), some remark⟩ ++ '\n' :: rest =
          note.print ++ (behind.text ++ (Token.lineComment.lexeme ++ (remark.text ++ '\n' :: rest))) := by
        simp [Trailer.comments, Token.lexeme]
      rw [shape, note.print_append]
      exact ⟨_, read, rfl, fun line => ⟨line, .refl _⟩⟩

/-! ### Passages over statements -/

/-- The sign of a statement is found behind its words. -/
private theorem next?_sign {named : Text} (after : Text)
    (clear : Token.Clear (fun _ => true) named (assignment.beforeSign.text ++ '=' :: after)) :
    Token.next? (fun _ => true)
      (indent.text ++ named ++ assignment.beforeSign.text ++ '=' :: after) =
        some (indent.text ++ named ++ assignment.beforeSign.text, .assign, after) := by
  refine Token.next?_of_clear .assign ?_ rfl
  rw [Token.clear_append, Token.clear_append]
  exact ⟨⟨indent.clear, clear⟩, assignment.beforeSign.clear⟩

/-- A single word before the sign is the identifier of an entry. -/
theorem advances_entry {after : Text} {tail : Tail} (read : Tail.Reads after tail) :
    Advances
      ⟨line, indent.text ++ assignment.name.text ++ assignment.beforeSign.text ++ '=' :: after,
        pending⟩
      (some (Entry.ofIdentifier assignment.name.text (pending ++ tail.docs)))
      ⟨line + Text.newlines tail.through, tail.rest, []⟩ := by
  have found := next?_sign indent assignment after assignment.name.clear
  have name : trim (indent.text ++ assignment.name.text ++ assignment.beforeSign.text) =
      assignment.name.text :=
    trim_between assignment.name.isBlank_head assignment.name.isBlank_getLast
  have met : Advances ⟨line, _, pending⟩ _ _ := .entry found read
    (by rw [name]; exact assignment.name.nonempty) (by rw [name, Word.isOption_eq_false])
  rwa [name] at met

/-- The word `option` in front of the word before the sign makes an option of the statement. -/
private theorem advances_option {gap : Blanks} (apart : gap.text ≠ []) {after : Text} {tail : Tail}
    (read : Tail.Reads after tail) :
    Advances
      ⟨line, indent.text ++ ("option".toList ++ gap.text ++ assignment.name.text) ++
        assignment.beforeSign.text ++ '=' :: after, pending⟩
      none ⟨line + Text.newlines tail.through, tail.rest, []⟩ := by
  -- Neither the two words nor the blanks around them begin a token, so the sign is the first.
  have clear : Token.Clear (fun _ => true)
      ("option".toList ++ gap.text ++ assignment.name.text)
      (assignment.beforeSign.text ++ '=' :: after) := by
    have word : Token.Clear (fun _ => true) "option".toList
        (gap.text ++ (assignment.name.text ++ (assignment.beforeSign.text ++ '=' :: after))) :=
      Token.clear_of_notMem (by decide) (by decide) (by decide) (by decide)
    rw [Token.clear_append, Token.clear_append]
    exact ⟨⟨word, gap.clear⟩, assignment.name.clear⟩
  have found := next?_sign indent assignment after clear
  have name : trim (indent.text ++ ("option".toList ++ gap.text ++ assignment.name.text) ++
      assignment.beforeSign.text) = "option".toList ++ gap.text ++ assignment.name.text := by
    refine trim_between (fun c h => ?_) fun c h => ?_
    · rw [List.append_assoc, List.head?_append] at h
      cases h
      decide
    · have ended := List.getLast?_eq_some_getLast assignment.name.nonempty
      rw [List.getLast?_append, ended, Option.some_or, ← ended] at h
      exact assignment.name.isBlank_getLast c h
  exact .option found read (by rw [name]; exact isOption_append apart _)

/-- An entry is met with the documentation that waits for it and its own. -/
theorem passes_entry : ∃ line',
    Passes ⟨line, indent.text ++ (assignment.print trailer ++ '\n' :: rest), pending⟩
      [Entry.ofIdentifier assignment.name.text (pending ++ trailer.docs)] ⟨line', rest, []⟩ := by
  obtain ⟨tail, read, docs, onward⟩ := reads_trailer rest assignment trailer
  obtain ⟨line', passed⟩ := onward (line + Text.newlines tail.through)
  have met := advances_entry line pending indent assignment read
  have whole := Passes.step (step_eq_advanced_iff.mpr met) passed
  rw [docs] at whole
  exact ⟨line', by simpa [Assignment.print] using whole⟩

/-- An option is passed over, with the documentation that waited for it. -/
theorem passes_option {gap : Blanks} (apart : gap.text ≠ []) : ∃ line',
    Passes ⟨line, indent.text ++ ("option".toList ++ (gap.text ++
      (assignment.print trailer ++ '\n' :: rest))), pending⟩ [] ⟨line', rest, []⟩ := by
  obtain ⟨tail, read, -, onward⟩ := reads_trailer rest assignment trailer
  obtain ⟨line', passed⟩ := onward (line + Text.newlines tail.through)
  have dropped := advances_option line pending indent assignment apart read
  have whole := Passes.step (step_eq_advanced_iff.mpr dropped) passed
  exact ⟨line', by simpa [Assignment.print] using whole⟩

/-- Each item of a block is passed over, and leaves for the items behind it what it documents. -/
theorem passes_item (item : Item) (closing : Closing) (items : List Item) :
    ∃ line' pending' entries,
      Passes ⟨line, item.print ++ '\n' :: rest, pending⟩ entries ⟨line', rest, pending'⟩ ∧
        documented closing pending (item :: items) = entries ++ documented closing pending' items := by
  cases item with
  | blank pad => exact ⟨_, _, _, passes_line pad.clear, rfl⟩
  | filler filler => exact ⟨_, _, _, passes_line filler.clear, rfl⟩
  | remark indent text =>
    obtain ⟨line', passed⟩ := passes_remark line pending indent rest text
    exact ⟨line', _, _, by simpa [Item.print] using passed, rfl⟩
  | note indent inside pad =>
    obtain ⟨line', passed⟩ := passes_note line pending indent pad rest inside
    exact ⟨line', _, _, by simpa [Item.print] using passed, rfl⟩
  | option indent gap apart assignment trailer =>
    obtain ⟨line', passed⟩ := passes_option line pending indent rest assignment trailer apart
    exact ⟨line', _, _, by simpa [Item.print] using passed, rfl⟩
  | entry indent assignment trailer =>
    obtain ⟨line', passed⟩ := passes_entry line pending indent rest assignment trailer
    exact ⟨line', _, _, by simpa [Item.print] using passed, rfl⟩

/-! ### The whole block -/

/-- The comments of the last entry are read with it up to the brace that closes the block. -/
private theorem reads_last (noRemark : trailer.remark? = none) : ∃ tail before,
    Tail.Reads (assignment.lead trailer.pad ++ (trailer.comments ++ '}' :: rest)) tail ∧
      tail.docs = trailer.docs ∧
      Token.next? (fun _ => true) tail.rest = some (before, .closeBrace, rest) := by
  obtain ⟨pad, note?, remark?⟩ := trailer
  cases noRemark
  cases note? with
  | none =>
    -- Without a comment the brace is left at once, and the next step finds it.
    have found := next?_lead assignment pad .closeBrace (by decide) rest
    exact ⟨_, [], .brace found, rfl, rfl⟩
  | some noted =>
    obtain ⟨note, behind⟩ := noted
    obtain ⟨through, read⟩ :=
      reads_note rest assignment pad behind note .closeBrace (by decide) (by decide)
    have shape : Trailer.comments ⟨pad, some (note, behind), none⟩ ++ '}' :: rest =
        note.print ++ (behind.text ++ (Token.closeBrace.lexeme ++ rest)) := by
      simp [Trailer.comments, Token.lexeme]
    rw [shape]
    exact ⟨_, _, read, by simp [Trailer.docs], Token.next?_of_clear .closeBrace behind.clear rfl⟩

/-- The end of a block is read with the entry that stands there. -/
theorem scan_closing (closing : Closing) :
    (⟨line, closing.print ++ rest, pending⟩ : Cursor).scan =
      ⟨(closing.entries pending).map .entry ++ [.finished], .ok ()⟩ := by
  cases closing with
  | own indent =>
    have found : Token.next? (fun _ => true) (indent.text ++ '}' :: rest) =
        some (indent.text, .closeBrace, rest) :=
      Token.next?_of_clear .closeBrace indent.clear rfl
    have whole : (⟨line, indent.text ++ '}' :: rest, pending⟩ : Cursor).scan = _ :=
      scan_of_next_closeBrace found
    simpa [Closing.print, Closing.entries] using whole
  | joined indent assignment trailer noRemark =>
    obtain ⟨tail, before, read, docs, found⟩ := reads_last rest assignment trailer noRemark
    have met := advances_entry line pending indent assignment read
    have passed := Passes.single (step_eq_advanced_iff.mpr met)
    have whole := passed.scan_eq
    rw [scan_of_next_closeBrace found, docs] at whole
    simpa [Closing.print, Assignment.print, Closing.entries] using whole

/-- A scan of a written block meets its entries with their documentation, and ends at its closing
brace. -/
theorem scan_printBlock (items : List Item) (closing : Closing) :
    (⟨line, printBlock items closing ++ rest, pending⟩ : Cursor).scan =
      ⟨(documented closing pending items).map .entry ++ [.finished], .ok ()⟩ := by
  induction items generalizing line pending with
  | nil => exact scan_closing line pending rest closing
  | cons item items ih =>
    obtain ⟨line', pending', entries, passed, share⟩ :=
      passes_item line pending (printBlock items closing ++ rest) item closing items
    have shape : printBlock (item :: items) closing ++ rest =
        item.print ++ '\n' :: (printBlock items closing ++ rest) := by
      simp [printBlock]
    rw [shape, passed.scan_eq, ih, share, List.map_append, List.append_assoc]

end Cursor

/-- What a finished scan has met are the entries. -/
theorem entries_of_scan {enum source : Text} {found : List Entry}
    (done : scan enum source = ⟨found.map .entry ++ [.finished], .ok ()⟩) :
    entries enum source = .ok found := by
  refine entries_eq_ok_iff.mpr ⟨congrArg Scan.result done, ?_⟩
  rw [done]
  dsimp only
  rw [List.filterMap_append, filterMap_toEntry]
  exact List.append_nil found

/-- The scan of an enum whose block was written out meets the items of the block. -/
theorem scan_of_firstHeader {enum source before gap rest : Text} {items : List Item}
    {closing : Closing}
    (header : FirstHeader enum source before
      (gap ++ "\x7b\n".toList ++ printBlock items closing ++ rest))
    (unopened : '{' ∉ gap) :
    scan enum source = ⟨(documented closing [] items).map .entry ++ [.finished], .ok ()⟩ := by
  have shape : gap ++ "\x7b\n".toList ++ printBlock items closing ++ rest =
      gap ++ '{' :: '\n' :: (printBlock items closing ++ rest) := by
    simp
  rw [shape] at header
  obtain ⟨line, opened⟩ := opening_of_firstHeader header unopened
  -- The block begins on the line behind its opening brace.
  have first : Cursor.Passes ⟨line, '\n' :: (printBlock items closing ++ rest), []⟩ []
      ⟨line + 1, printBlock items closing ++ rest, []⟩ :=
    Cursor.passes_line (s := []) Token.clear_nil
  rw [scan, opened]
  simp only
  rw [first.scan_eq, Cursor.scan_printBlock]
  rfl

/-- The entries of an enum whose block was written out are those of the items, in order, each with
its documentation. Nothing before the header or behind the closing brace has a say in it. -/
theorem entries_of_printBlock {enum source before gap rest : Text} (items : List Item)
    (closing : Closing)
    (header : FirstHeader enum source before
      (gap ++ "\x7b\n".toList ++ printBlock items closing ++ rest))
    (unopened : '{' ∉ gap) :
    scan enum source = ⟨(documented closing [] items).map .entry ++ [.finished], .ok ()⟩ ∧
      entries enum source = .ok (documented closing [] items) := by
  have done := scan_of_firstHeader header unopened
  exact ⟨done, entries_of_scan done⟩

/-- A number of spaces. -/
def Blanks.spaces (n : Nat) : Blanks where
  text := List.replicate n ' '
  blank c h := by rw [List.eq_of_mem_replicate h]; decide
  inline h := by simp at h

/-- A word of one character. -/
def Word.single (c : Char) (identifier : isIdentifierChar c = true) : Word where
  text := [c]
  nonempty := List.cons_ne_nil c []
  identifier := List.forall_mem_singleton.mpr identifier

/-- Items with comments of each kind, between an enum's opening brace and its last line. -/
def sampleItems : List Item :=
  [.remark (.spaces 2) ⟨['w', '='], by decide⟩,
    .entry (.spaces 2)
      ⟨.single 'A' (by decide), .spaces 1, .spaces 1,
        ⟨['1'], by decide, by decide, by decide, by decide⟩, .spaces 0⟩
      ⟨.spaces 1, some (⟨['}', '\n', '*', 'x'], by decide⟩, .spaces 1), some ⟨['y'], by decide⟩⟩,
    .filler ⟨['x', ';'], by decide, by decide, by decide, by decide, by decide⟩,
    .option (.spaces 2) (.spaces 1) (by decide)
      ⟨.single 's' (by decide), .spaces 1, .spaces 1,
        ⟨['t'], by decide, by decide, by decide, by decide⟩, .spaces 0⟩
      ⟨.spaces 0, none, none⟩]

/-- A last line with an entry and its comment. -/
def sampleClosing : Closing :=
  .joined (.spaces 2)
    ⟨.single 'B' (by decide), .spaces 1, .spaces 1,
      ⟨['2'], by decide, by decide, by decide, by decide⟩, .spaces 0⟩
    ⟨.spaces 1, some (⟨['z'], by decide⟩, .spaces 0), none⟩ rfl

/-- The sample block is read as it was written: the sign and the brace in its comments count for
nothing. -/
theorem entries_of_sample :
    entries ['E'] ("syntax;\nenum E \x7b\n  //w=\n  A = 1; /*\x7d\n*x*/ //y\nx;\n" ++
        "  option s = t;\n  B = 2; /*z*/\x7d\n").toList =
      .ok [Entry.ofIdentifier ['A'] [['w', '='], ['}'], ['x'], ['y']],
        Entry.ofIdentifier ['B'] [['z']]] := by
  have header : FirstHeader ['E']
      ("syntax;\nenum E \x7b\n  //w=\n  A = 1; /*\x7d\n*x*/ //y\nx;\n" ++
        "  option s = t;\n  B = 2; /*z*/\x7d\n").toList "syntax;\n".toList
      ([' '] ++ "\x7b\n".toList ++ printBlock sampleItems sampleClosing ++ ['\n']) := by
    refine firstHeader_of_notMem (by simp) ?_ (by decide)
    simp [headerText, printBlock, sampleItems, sampleClosing, Item.print, Closing.print,
      Assignment.print, Assignment.lead, Trailer.comments, Note.print, Blanks.spaces, Word.single]
  exact (entries_of_printBlock sampleItems sampleClosing header (by decide)).2

end EnumBindings.Block
