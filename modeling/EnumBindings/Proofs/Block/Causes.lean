import EnumBindings.Proofs.Block.FirstHeader
import EnumBindings.Proofs.Block.Passage
import EnumBindings.Proofs.Text.Trimming

/-!
# What faults come from

A scan that fails names a line. The line is counted along with the scan, so it is right only as long
as the count keeps up with what has been read; and it is the line of the cause only because a scan
pauses at certain places. This module says where a scan can stand, and from that what each fault
comes from and which line it points at.

## Main definitions

* `Cursor.Paused` — where a step of a scan ends
* `Reaches` — the scan of an enum comes to a cursor when it has read some text
* `Cause` — what a fault comes from

## Main results

* `Cursor.Advances.exists_read` — a step counts the newlines that it reads, and where it ends
* `Reaches.line_eq`, `Reaches.place` — the line of a cursor, and what stands in front of it
* `result_eq_error_iff_cause` — a scan fails for these causes only, on these lines
-/

namespace EnumBindings.Block

/-! ### Where a scan pauses -/

/-- What is passed over in front of the nearest token has no newline, if newlines are wanted. -/
theorem Token.inline_of_next? {wanted : Token → Bool} {s before after : Text} {token : Token}
    (found : Token.next? wanted s = some (before, token, after))
    (lineEnd : wanted .lineEnd = true) : '\n' ∉ before :=
  Text.clear_singleton_iff.mp ((Token.next?_eq_some_iff.mp found).2.2 .lineEnd lineEnd)

/-- Behind the nearest token lines are counted as behind the cursor, unless it is a newline. -/
theorem Token.newlines_of_next? {s before after : Text} {token : Token}
    (found : Token.next? (fun _ => true) s = some (before, token, after))
    (visible : '\n' ∉ token.lexeme) (read : Text) :
    Text.newlines (before ++ token.lexeme ++ read) = Text.newlines read := by
  have inline : '\n' ∉ before ++ token.lexeme :=
    List.not_mem_append (Token.inline_of_next? found rfl) visible
  rw [Text.newlines_append, Text.newlines_of_notMem inline, Nat.zero_add]

namespace Cursor

variable {start cursor next last : Cursor} {met : Option Entry} {entries : List Entry}
  {read rest : Text}

/-- Where a step of a scan ends: behind a line, behind a block comment, in front of a closing brace,
or where nothing is left. -/
inductive Paused (read rest : Text) : Prop
  | line : ['\n'] <:+ read → Paused read rest
  | comment : ['*', '/'] <:+ read → Paused read rest
  | brace : rest.head? = some '}' → Paused read rest
  | empty : rest = [] → Paused read rest

/-- Where a step ends does not depend on what was read before it. -/
theorem Paused.behind (paused : Paused read rest) (front : Text) : Paused (front ++ read) rest := by
  have later : read <:+ front ++ read := List.suffix_append front read
  cases paused with
  | line ended => exact .line (ended.trans later)
  | comment ended => exact .comment (ended.trans later)
  | brace next => exact .brace next
  | empty nothing => exact .empty nothing

/-- A step ends behind a line. -/
theorem paused_throughLine (s : Text) : Paused (Text.throughLine s).1 (Text.throughLine s).2 := by
  by_cases more : (Text.throughLine s).2 = []
  · exact .empty more
  · obtain ⟨line, -, whole⟩ := Text.exists_line_of_throughLine more
    exact .line ⟨line, whole.symm⟩

end Cursor

/-- The tail of a statement ends where a step may end. -/
theorem Tail.Reads.paused {after : Text} {tail : Tail} (taken : Tail.Reads after tail) :
    Cursor.Paused tail.through tail.rest := by
  cases taken with
  | brace => exact .brace rfl
  | remark => exact (Cursor.paused_throughLine _).behind _
  | noteRemark => exact (Cursor.paused_throughLine _).behind _
  | note => exact .comment (List.suffix_append _ _)
  | plain => exact Cursor.paused_throughLine after

namespace Cursor

variable {start cursor next last : Cursor} {met : Option Entry} {entries : List Entry}

/-- A statement counts the newlines that it has, which are all in its tail. -/
theorem exists_read_of_assign {before after : Text} {tail : Tail}
    (found : Token.next? (fun _ => true) cursor.rest = some (before, .assign, after))
    (taken : Tail.Reads after tail) : ∃ read, cursor.rest = read ++ tail.rest ∧
      Text.newlines tail.through = Text.newlines read ∧ Paused read tail.rest := by
  have whole := (Token.next?_append found).1
  rw [tail?_append (tail?_eq_some_iff.mpr taken), ← List.append_assoc] at whole
  have counted := Token.newlines_of_next? found (by decide) tail.through
  exact ⟨_, whole, counted.symm, taken.paused.behind _⟩

/-- A step counts the newlines that it reads, and pauses. -/
theorem Advances.exists_read (advance : Advances cursor met next) :
    ∃ read, cursor.rest = read ++ next.rest ∧ next.line = cursor.line + Text.newlines read ∧
      Paused read next.rest := by
  -- A token that is found nearest has no newline in front of it, so only what is behind it counts.
  cases advance with
  | @lineEnd before rest found =>
    refine ⟨before ++ ['\n'], (Token.next?_append found).1, ?_, .line (List.suffix_append _ _)⟩
    have newline : Text.newlines ['\n'] = 1 := rfl
    have inline := Token.inline_of_next? found rfl
    rw [Text.newlines_append, Text.newlines_of_notMem inline, newline, Nat.zero_add]
  | @lineComment before rest found =>
    have whole := (Token.next?_append found).1
    rw [← Text.throughLine_append rest, ← List.append_assoc] at whole
    refine ⟨_, whole, ?_, (paused_throughLine rest).behind _⟩
    rw [Token.newlines_of_next? found (by decide)]
  | @blockComment before rest body closed found cut =>
    have whole := (Token.next?_append found).1
    rw [Text.cut_eq_some cut, ← List.append_assoc] at whole
    refine ⟨_, whole, ?_, (Paused.comment (List.suffix_append body _)).behind _⟩
    have closer : Text.newlines ['*', '/'] = 0 := rfl
    rw [Token.newlines_of_next? found (by decide), Text.newlines_append, closer, Nat.add_zero]
  | option found taken _ =>
    obtain ⟨read, whole, counted, paused⟩ := exists_read_of_assign found taken
    exact ⟨read, whole, by rw [counted], paused⟩
  | entry found taken _ _ =>
    obtain ⟨read, whole, counted, paused⟩ := exists_read_of_assign found taken
    exact ⟨read, whole, by rw [counted], paused⟩

/-- A scan counts the newlines that it reads, and stands where it began or where a step pauses. -/
theorem Passes.exists_read (passed : Passes start entries last) :
    ∃ read, start.rest = read ++ last.rest ∧ last.line = start.line + Text.newlines read ∧
      (read = [] ∨ Paused read last.rest) := by
  refine passed.invariant (P := fun cursor => ∃ read, start.rest = read ++ cursor.rest ∧
    cursor.line = start.line + Text.newlines read ∧ (read = [] ∨ Paused read cursor.rest))
    ⟨[], rfl, rfl, .inl rfl⟩ ?_
  rintro cursor next met ⟨front, whole, line, -⟩ advance
  obtain ⟨read, further, counted, paused⟩ := advance.exists_read
  refine ⟨front ++ read, ?_, ?_, .inr (paused.behind front)⟩
  · rw [whole, further, List.append_assoc]
  · rw [counted, line, Text.newlines_append, Nat.add_assoc]

end Cursor

/-! ### The cursors of the scan of an enum -/

variable {enum source body read before after : Text} {line : Nat} {cursor : Cursor}
  {fault : Fault}

/-- The scan of an enum comes to a cursor when it has read a text: the source through the brace that
opens the block, and from there on whatever some steps took. -/
def Reaches (enum source read : Text) (cursor : Cursor) : Prop :=
  source = read ++ cursor.rest ∧ ∃ front through line entries, read = front ++ '{' :: through ∧
    opening enum source = .ok (line, through ++ cursor.rest) ∧
    Cursor.Passes ⟨line, through ++ cursor.rest, []⟩ entries cursor

/-- The scan reaches the cursors that it comes to. -/
theorem exists_reaches {entries : List Entry} (opened : opening enum source = .ok (line, body))
    (passed : Cursor.Passes ⟨line, body, []⟩ entries cursor) :
    ∃ read, Reaches enum source read cursor := by
  obtain ⟨front, rfl, -⟩ := exists_front_of_opening opened
  obtain ⟨through, rfl⟩ : ∃ through, body = through ++ cursor.rest := passed.exists_through
  exact ⟨front ++ '{' :: through, by simp, front, through, line, entries, rfl, opened, passed⟩

namespace Reaches

/-- The line of a cursor is that on which the text ends that has been read. -/
theorem line_eq (reached : Reaches enum source read cursor) :
    cursor.line = 1 + Text.newlines read := by
  obtain ⟨whole, front, through, line, entries, rfl, opened, passed⟩ := reached
  obtain ⟨front', whole', begun⟩ := exists_front_of_opening opened
  obtain ⟨through', same, counted, -⟩ := passed.exists_read
  -- What is read is the same, seen from the source and from the beginning of the block.
  obtain rfl : through = through' := List.append_cancel_right same
  rw [whole', List.append_assoc, List.cons_append] at whole
  obtain rfl : front' = front := List.append_cancel_right whole
  have brace : Text.newlines ('{' :: through) = Text.newlines through := rfl
  rw [counted, begun, Text.newlines_append, brace, Nat.add_assoc]

/-- A cursor is behind the opening brace of the block, or where a step pauses. -/
theorem place (reached : Reaches enum source read cursor) :
    (∃ line front, opening enum source = .ok (line, cursor.rest) ∧ read = front ++ ['{']) ∨
      Cursor.Paused read cursor.rest := by
  obtain ⟨-, front, through, line, entries, rfl, opened, passed⟩ := reached
  obtain ⟨through', same, -, place⟩ := passed.exists_read
  obtain rfl : through = through' := List.append_cancel_right same
  rcases place with rfl | paused
  · exact .inl ⟨line, front, opened, rfl⟩
  · right
    rw [← List.singleton_append, ← List.append_assoc]
    exact paused.behind _

/-- A scan that fails at a cursor that it reaches ends with that fault. -/
theorem result_eq_error (reached : Reaches enum source read cursor)
    (failed : cursor.step = .failed fault) : (scan enum source).result = .error fault := by
  obtain ⟨-, front, through, line, entries, -, opened, passed⟩ := reached
  rw [scan, opened]
  exact Cursor.result_eq_error_iff.mpr ⟨entries, cursor, passed, failed⟩

end Reaches

/-! ### Comments that are not closed -/

/-- A comment is not closed exactly if nothing that closes it follows. -/
theorem cut_closer_eq_none_iff : Text.cut ['*', '/'] after = none ↔ ¬ ['*', '/'] <:+: after := by
  rw [Text.cut_eq_none_iff (by simp), Text.clear_pair_iff]
  simp

/-- A block comment is opened behind a text, and a scan that stands in front of the text comes upon
it: there are no other tokens in between but the signs of a statement with a name. -/
structure Cursor.Opens (before after : Text) : Prop where
  clear : Token.Clear (· ≠ .assign) before (['/', '*'] ++ after)
  named : '=' ∉ before ∨
    ∃ name value, before = name ++ '=' :: value ∧ '=' ∉ name ∧ trim name ≠ []

/-- A step fails at a comment exactly if it comes upon one that is not closed. -/
theorem Cursor.fails_openComment_iff : Fails cursor (.openComment line) ↔ line = cursor.line ∧
    ∃ before after, cursor.rest = before ++ (['/', '*'] ++ after) ∧ Opens before after ∧
      ¬ ['*', '/'] <:+: after := by
  constructor
  · intro fails
    cases fails with
    | @openComment before after found unclosed =>
      obtain ⟨whole, -, clear⟩ := Token.next?_eq_some_iff.mp found
      obtain ⟨unsigned, clear⟩ := Token.clear_all_iff.mp clear
      rw [List.append_assoc] at whole
      exact ⟨rfl, before, after, whole, ⟨clear, .inl unsigned⟩, cut_closer_eq_none_iff.mp unclosed⟩
    | @openTail name after found named tailless =>
      obtain ⟨value, rest, found', unclosed⟩ := tail?_eq_none_iff.mp tailless
      obtain ⟨whole, -, clear⟩ := Token.next?_eq_some_iff.mp found
      obtain ⟨rfl, -, clear'⟩ := Token.next?_eq_some_iff.mp found'
      obtain ⟨unsigned, clear⟩ := Token.clear_all_iff.mp clear
      rw [List.append_assoc value] at clear
      have opens : Opens (name ++ '=' :: value) rest :=
        ⟨Token.clear_statement_iff.mpr ⟨clear, clear'⟩, .inr ⟨name, value, rfl, unsigned, named⟩⟩
      exact ⟨rfl, name ++ '=' :: value, rest, by simp [whole, Token.lexeme], opens,
        cut_closer_eq_none_iff.mp unclosed⟩
  · rintro ⟨rfl, before, after, whole, ⟨clear, named⟩, unclosed⟩
    have unclosed := cut_closer_eq_none_iff.mpr unclosed
    rcases named with unsigned | ⟨name, value, rfl, unsigned, named⟩
    · have found := Token.next?_of_clear .blockComment
        (Token.clear_all_iff.mpr ⟨unsigned, clear⟩) rfl
      exact .openComment (by rwa [whole]) unclosed
    · -- Behind the sign of a statement the comment is met when its tail is read.
      obtain ⟨clear, clear'⟩ := Token.clear_statement_iff.mp clear
      have found := Token.next?_of_clear .assign (Token.clear_all_iff.mpr ⟨unsigned, clear⟩) rfl
      have found' := Token.next?_of_clear .blockComment clear' rfl
      have whole' : cursor.rest = name ++ ('=' :: (value ++ (['/', '*'] ++ after))) := by
        rw [whole, List.append_assoc, List.cons_append]
      have tailless := tail?_eq_none_iff.mpr ⟨value, after, found', unclosed⟩
      exact .openTail (by rwa [whole']) named tailless

/-! ### Causes -/

/-- What a fault in the block of an enum comes from. Its line is the one on which the text ends that
stands in front of the cause. -/
inductive Cause (enum source : Text) : Fault → Prop
  /-- The header of the enum stands alone nowhere. -/
  | noHeader :
      (∀ before after, source = before ++ headerText enum ++ after →
        ¬ StandsAlone none before after) →
      Cause enum source .noHeader
  /-- No brace follows the first header. -/
  | noOpenBrace {before after : Text} : FirstHeader enum source before after → '{' ∉ after →
      Cause enum source (.noOpenBrace (1 + Text.newlines (before ++ headerText enum)))
  /-- The scan comes upon a block comment that is not closed up to the end of the source. -/
  | openComment {read before after : Text} {cursor : Cursor} : Reaches enum source read cursor →
      cursor.rest = before ++ (['/', '*'] ++ after) →
      Cursor.Opens before after → ¬ ['*', '/'] <:+: after →
      Cause enum source (.openComment (1 + Text.newlines (read ++ before)))
  /-- There is only white space between a sign and where the scan stands, which is behind the
  opening brace of the block, a newline or the end of a block comment. -/
  | noIdentifier {read gap after : Text} {cursor : Cursor} : Reaches enum source read cursor →
      cursor.rest = gap ++ '=' :: after → (∀ c ∈ gap, isBlank c = true) → '\n' ∉ gap →
      ((∃ line front, opening enum source = .ok (line, cursor.rest) ∧ read = front ++ ['{']) ∨
        ['\n'] <:+ read ∨ ['*', '/'] <:+ read) →
      Cause enum source (.noIdentifier (1 + Text.newlines (read ++ gap)))
  /-- No token is left where the scan stands, and the fault is on the last line of the source. -/
  | noCloseBrace {read : Text} {cursor : Cursor} : Reaches enum source read cursor →
      Token.Clear (fun _ => true) cursor.rest [] →
      Cause enum source (.noCloseBrace (1 + Text.newlines source))

/-- Where the header of an enum is missing, its block does not begin. -/
theorem opening_eq_noHeader_iff : opening enum source = .error .noHeader ↔
    ∀ before after, source = before ++ headerText enum ++ after →
      ¬ StandsAlone none before after := by
  constructor
  · intro failed before after whole alone
    obtain ⟨before', after', first⟩ := exists_firstHeader whole alone
    rw [opening, header?_of_firstHeader first] at failed
    dsimp only at failed
    split at failed <;> cases failed
  · intro missing
    rw [opening]
    split
    next => rfl
    next through rest found =>
      obtain ⟨before, -, first⟩ := firstHeader_of_header? found
      exact absurd first.alone (missing before rest first.whole)

/-- Where no brace follows the first header of an enum, its block does not begin. -/
theorem opening_eq_noOpenBrace_iff : opening enum source = .error (.noOpenBrace line) ↔
    ∃ before after, FirstHeader enum source before after ∧ '{' ∉ after ∧
      line = 1 + Text.newlines (before ++ headerText enum) := by
  constructor
  · intro failed
    unfold opening at failed
    split at failed
    next => cases failed
    next through rest found =>
      obtain ⟨before, rfl, first⟩ := firstHeader_of_header? found
      dsimp only at failed
      split at failed
      next unopened =>
        cases failed
        have clear := (Text.cut_eq_none_iff (by simp)).mp unopened
        exact ⟨before, rest, first, Text.clear_singleton_iff.mp clear, rfl⟩
      next => cases failed
  · rintro ⟨before, after, first, unopened, rfl⟩
    have missing : Text.cut ['{'] after = none :=
      (Text.cut_eq_none_iff (by simp)).mpr (Text.clear_singleton_iff.mpr unopened)
    rw [opening, header?_of_firstHeader first]
    simp only [missing]

/-- A block that does not begin has one of two faults. -/
theorem Cause.of_opening (failed : opening enum source = .error fault) :
    Cause enum source fault := by
  cases fault with
  | noHeader => exact .noHeader (opening_eq_noHeader_iff.mp failed)
  | noOpenBrace line =>
    obtain ⟨before, after, first, unopened, rfl⟩ := opening_eq_noOpenBrace_iff.mp failed
    exact .noOpenBrace first unopened
  | noCloseBrace line | openComment line | noIdentifier line =>
    unfold opening at failed
    split at failed
    next => cases failed
    next =>
      dsimp only at failed
      split at failed <;> cases failed

/-- In front of the nearest token behind the cursor, lines are counted as in front of the cursor. -/
theorem Reaches.line_of_inline (reached : Reaches enum source read cursor)
    (inline : '\n' ∉ before) : cursor.line = 1 + Text.newlines (read ++ before) := by
  rw [reached.line_eq, Text.newlines_append, Text.newlines_of_notMem inline, Nat.add_zero]

/-- What is passed over when a comment is come upon has no newline. -/
theorem Cursor.Opens.inline (opens : Cursor.Opens before after) : '\n' ∉ before :=
  Text.clear_singleton_iff.mp (opens.clear .lineEnd rfl)

/-- A step that fails at a cursor of the scan fails for one of the causes. -/
theorem Cause.of_fails (reached : Reaches enum source read cursor)
    (fails : Cursor.Fails cursor fault) : Cause enum source fault := by
  cases fault with
  | noHeader => cases fails
  | noOpenBrace line => cases fails
  | noCloseBrace line =>
    cases fails with
    | noCloseBrace nothing =>
      have clear := Token.next?_eq_none_iff.mp nothing
      -- Without a token there is no newline, so the cursor is on the last line.
      have inline : '\n' ∉ cursor.rest := Text.clear_singleton_iff.mp (clear .lineEnd rfl)
      rw [reached.line_of_inline inline, ← reached.1]
      exact .noCloseBrace reached clear
  | openComment line =>
    obtain ⟨rfl, before, after, whole, opens, unclosed⟩ := Cursor.fails_openComment_iff.mp fails
    rw [reached.line_of_inline opens.inline]
    exact .openComment reached whole opens unclosed
  | noIdentifier line =>
    cases fails with
    | @noIdentifier gap after found unnamed =>
      have inline := Token.inline_of_next? found rfl
      have blank := trim_eq_nil_iff.mp unnamed
      have whole := (Token.next?_append found).1
      rw [List.append_assoc] at whole
      rw [reached.line_of_inline inline]
      refine .noIdentifier reached whole blank inline ?_
      rcases reached.place with opened | paused
      · exact .inl opened
      · cases paused with
        | line ended => exact .inr (.inl ended)
        | comment ended => exact .inr (.inr ended)
        -- The text goes on with white space or the sign, and so not with a closing brace.
        | brace next =>
          rw [whole] at next
          cases gap with
          | nil => cases next
          | cons c gap =>
            have first := blank c (by simp)
            cases next
            exact absurd first (by decide)
        | empty nothing =>
          rw [whole] at nothing
          simp [Token.lexeme] at nothing

/-- The scan of an enum fails for one of the causes, on the line of it, and for nothing else. -/
theorem result_eq_error_iff_cause (enum source : Text) (fault : Fault) :
    (scan enum source).result = .error fault ↔ Cause enum source fault := by
  constructor
  · intro failed
    rw [scan] at failed
    split at failed
    next unopened =>
      cases failed
      exact .of_opening unopened
    next line body opened =>
      obtain ⟨entries, last, passed, fails⟩ := Cursor.result_eq_error_iff.mp failed
      obtain ⟨read, reached⟩ := exists_reaches opened passed
      exact .of_fails reached (Cursor.step_eq_failed_iff.mp fails)
  · intro cause
    cases cause with
    | noHeader missing => rw [scan, opening_eq_noHeader_iff.mpr missing]
    | noOpenBrace first unopened =>
      rw [scan, opening_eq_noOpenBrace_iff.mpr ⟨_, _, first, unopened, rfl⟩]
    | openComment reached whole opens unclosed =>
      apply reached.result_eq_error
      rw [Cursor.step_eq_failed_iff, Cursor.fails_openComment_iff]
      exact ⟨(reached.line_of_inline opens.inline).symm, _, _, whole, opens, unclosed⟩
    | @noIdentifier read gap after cursor reached whole blank inline _ =>
      apply reached.result_eq_error
      rw [Cursor.step_eq_failed_iff, ← reached.line_of_inline inline]
      -- White space holds no token, so the sign is the next one.
      have clear : Token.Clear (fun _ => true) gap ('=' :: after) := by
        apply Token.clear_of_notMem _ _ inline _ <;>
          exact fun there => absurd (blank _ there) (by decide)
      have found := Token.next?_of_clear .assign clear rfl
      exact .noIdentifier (by rwa [whole]) (trim_of_blank blank)
    | noCloseBrace reached clear =>
      apply reached.result_eq_error
      have inline := Text.clear_singleton_iff.mp (clear .lineEnd rfl)
      rw [Cursor.step_eq_failed_iff, reached.1, ← reached.line_of_inline inline]
      exact .noCloseBrace (Token.next?_eq_none_iff.mpr clear)

end EnumBindings.Block
