import EnumBindings.Proofs.Block.Locality
import EnumBindings.Proofs.Block.Region

/-!
# Text that is commented out

A scan is meant to keep out of comments. It does so with one exception: behind the block comment
that follows a statement it looks for a line comment on the same line, and takes the first `//`
there even if another block comment has begun in front of it. If that one goes on behind the line,
the scan goes on inside it.

## Main definitions

* `Cursor.InCode` — a cursor of a scan is outside of all comments
* `Cursor.Overruns` — a step from a cursor leaves a block comment unnoticed
* `Cursor.Delivers`, `Cursor.Closes` — the text in front of a sign or a closing brace of a scan
* `CommentsInert` — a scan takes neither a sign nor a closing brace from a comment

## Main results

* `Tail.Reads.region`, `Cursor.Advances.region` — where a step leaves code
* `Cursor.Passes.settled` — a scan that never overruns stays in code
* `Cursor.exists_delivers_iff`, `Cursor.exists_closes` — the signs and the brace are those of the
  events
* `comments_inert_unless_overrun` — comments count for nothing exactly as long as no step overruns
-/

namespace EnumBindings.Block

variable {after rest : Text} {tail : Tail}

/-! ### Tails of statements -/

/-- The tail of a statement is read through a line comment, although another block comment has
begun in front of it and goes on behind its line. -/
def Tail.Overruns (after : Text) : Prop :=
  ∃ value opened body closed gap rest,
    Token.next? (· ≠ .assign) after = some (value, .blockComment, opened) ∧
      Text.cut ['*', '/'] opened = some (body, closed) ∧
      Token.next? (fun token => token ≠ .assign && token ≠ .blockComment) closed =
        some (gap, .lineComment, rest) ∧
      Region.after .code (gap ++ ['/', '/'] ++ (Text.throughLine rest).1) = .block

/-- Only a block comment overruns. -/
theorem Tail.not_overruns {value : Text} {token : Token} (other : token ≠ .blockComment)
    (found : Token.next? (· ≠ .assign) after = some (value, token, rest)) : ¬ Overruns after := by
  rintro ⟨_, _, _, _, _, _, found', -, -, -⟩
  rw [found] at found'
  cases found'
  exact other rfl

/-- Whether a tail with both kinds of comments overruns is decided by what stands behind the first
one, up to the end of its line. -/
theorem Tail.overruns_iff {value opened body closed gap : Text}
    (found : Token.next? (· ≠ .assign) after = some (value, .blockComment, opened))
    (cut : Text.cut ['*', '/'] opened = some (body, closed))
    (further : Token.next? (fun token => token ≠ .assign && token ≠ .blockComment) closed =
      some (gap, .lineComment, rest)) :
    Overruns after ↔
      Region.after .code (gap ++ ['/', '/'] ++ (Text.throughLine rest).1) = .block := by
  constructor
  · rintro ⟨_, _, _, _, _, _, found', cut', further', block⟩
    rw [found] at found'
    cases found'
    rw [cut] at cut'
    cases cut'
    rw [further] at further'
    cases further'
    exact block
  · intro block
    exact ⟨_, _, _, _, _, _, found, cut, further, block⟩

/-- The statement and its comments end in code, unless a comment is overrun. -/
theorem Tail.Reads.region (read : Tail.Reads after tail) (more : tail.rest ≠ []) :
    (Tail.Overruns after ∧ Region.after .code tail.through = .block ∧
        tail.through.getLast? = some '\n') ∨
      ¬ Tail.Overruns after ∧ (Region.after .code tail.through = .code ∨
        tail.rest.head? = some '}' ∧ (Region.after .code tail.through).isComment = false) := by
  cases read with
  | brace found =>
    have clear := (Token.next?_eq_some_iff.mp found).2.2
    exact .inr ⟨Tail.not_overruns (by decide) found,
      .inr ⟨rfl, Region.not_isComment_of_clear clear (by decide) (by decide)⟩⟩
  | @remark value rest found =>
    have clear := (Token.next?_eq_some_iff.mp found).2.2
    have opened : Region.after .code (value ++ ['/', '/']) = .line :=
      Region.after_lexeme_of_clear clear (by decide) (by decide)
    obtain ⟨line, inline, whole⟩ := Text.exists_line_of_throughLine more
    -- The line comment that is read with the statement ends with its line.
    refine .inr ⟨Tail.not_overruns (by decide) found, .inl ?_⟩
    rw [Region.after_append, opened, whole, Region.after_line_newline inline]
  | @noteRemark value opened body closed gap rest found cut further =>
    have clear := (Token.next?_eq_some_iff.mp found).2.2
    have begun : Region.after .code (value ++ ['/', '*']) = .block :=
      Region.after_lexeme_of_clear clear (by decide) (by decide)
    have unclosed := (Text.clear_pair_iff.mp (Text.cut_eq_some_iff.mp cut).2).1
    obtain ⟨line, inline, whole⟩ := Text.exists_line_of_throughLine more
    -- The first comment begins and ends in code, so only what stands behind it counts.
    have through : Region.after .code (value ++ ['/', '*'] ++ body ++ ['*', '/'] ++ gap ++
        ['/', '/'] ++ (Text.throughLine rest).1) =
          Region.after .code (gap ++ ['/', '/'] ++ (Text.throughLine rest).1) := by
      have ended := Region.after_block_closed unclosed
      rw [Region.after_append] at ended
      simp only [Region.after_append] at begun ended ⊢
      rw [begun, ended]
    -- Behind the newline there is code or a block comment, and the second is an overrun.
    have line_end := Region.after_newline .code (gap ++ ['/', '/'] ++ line)
    rw [List.append_assoc, ← whole] at line_end
    rcases line_end with code | block
    · refine .inr ⟨fun overrun => ?_, .inl (through.trans code)⟩
      rw [Tail.overruns_iff found cut further, code] at overrun
      cases overrun
    · refine .inl ⟨(Tail.overruns_iff found cut further).mpr block, through.trans block, ?_⟩
      rw [whole, ← List.append_assoc, List.getLast?_concat]
  | @note value opened body closed found cut other =>
    have clear := (Token.next?_eq_some_iff.mp found).2.2
    have begun : Region.after .code (value ++ ['/', '*']) = .block :=
      Region.after_lexeme_of_clear clear (by decide) (by decide)
    have unclosed := (Text.clear_pair_iff.mp (Text.cut_eq_some_iff.mp cut).2).1
    refine .inr ⟨?_, .inl ?_⟩
    · rintro ⟨_, _, _, _, _, _, found', cut', further, -⟩
      rw [found] at found'
      cases found'
      rw [cut] at cut'
      cases cut'
      exact other _ _ further
    · -- Nothing is read behind the comment, so the text ends where it does.
      rw [List.append_assoc, Region.after_append, begun, Region.after_block_closed unclosed]
  | plain other =>
    rcases found : Token.next? (· ≠ .assign) after with _ | ⟨value, token, rest⟩
    · -- Without any token there is no newline, and nothing is left behind the line.
      have inline := Token.next?_eq_none_iff.mp found .lineEnd (by decide)
      rw [Text.throughLine_of_notMem (Text.clear_singleton_iff.mp inline)] at more
      exact absurd rfl more
    · obtain rfl := other _ _ _ found
      obtain ⟨whole, -, clear⟩ := Token.next?_eq_some_iff.mp found
      have inline := Text.clear_singleton_iff.mp (clear .lineEnd (by decide))
      refine .inr ⟨Tail.not_overruns (by decide) found, .inl ?_⟩
      have shape : after = value ++ '\n' :: rest := by simp [whole, Token.lexeme]
      rw [shape, Text.throughLine_append_newline inline]
      exact Region.after_lexeme_of_clear clear (by decide) (by decide)

/-! ### Cursors -/

namespace Cursor

variable {start cursor next last : Cursor} {met : Option Entry} {entries : List Entry}
  {body : Text}

/-- A step reads a statement, and leaves a block comment unnoticed. -/
def Overruns (cursor : Cursor) : Prop :=
  ∃ before after, Token.next? (fun _ => true) cursor.rest = some (before, .assign, after) ∧
    Tail.Overruns after

/-- A cursor in a block is outside of all comments. -/
def InCode (body : Text) (cursor : Cursor) : Prop :=
  ∃ read, body = read ++ cursor.rest ∧ (Region.after .code read).isComment = false

/-- What has been read up to a cursor ends in code. A slash at its end could begin a comment, but
only if no closing brace followed. -/
def Settled (body : Text) (cursor : Cursor) : Prop :=
  ∃ read, body = read ++ cursor.rest ∧ (Region.after .code read = .code ∨
    cursor.rest.head? = some '}' ∧ (Region.after .code read).isComment = false)

theorem Settled.inCode (settled : Settled body cursor) : InCode body cursor := by
  obtain ⟨read, whole, code | ⟨-, code⟩⟩ := settled
  · exact ⟨read, whole, by rw [code]; rfl⟩
  · exact ⟨read, whole, code⟩

/-- Only a statement overruns. -/
private theorem not_overruns {before behind : Text} {token : Token} (other : token ≠ .assign)
    (found : Token.next? (fun _ => true) cursor.rest = some (before, token, behind)) :
    ¬ Overruns cursor := by
  rintro ⟨_, _, found', -⟩
  rw [found] at found'
  cases found'
  exact other rfl

/-- A statement ends in code, unless its tail overruns a comment: the region behind its sign is
code. -/
private theorem region_of_assign {before after : Text} {tail : Tail}
    (found : Token.next? (fun _ => true) cursor.rest = some (before, .assign, after))
    (taken : Tail.Reads after tail) (more : tail.rest ≠ []) :
    ∃ through, cursor.rest = through ++ tail.rest ∧
      ((Overruns cursor ∧ Region.after .code through = .block ∧ through.getLast? = some '\n') ∨
        ¬ Overruns cursor ∧ (Region.after .code through = .code ∨
          tail.rest.head? = some '}' ∧ (Region.after .code through).isComment = false)) := by
  obtain ⟨whole, -, clear⟩ := Token.next?_eq_some_iff.mp found
  have sign : Region.after .code (before ++ ['=']) = .code :=
    Region.after_lexeme_of_clear clear rfl rfl
  refine ⟨before ++ ['='] ++ tail.through, ?_, ?_⟩
  · rw [whole, tail?_append (tail?_eq_some_iff.mpr taken)]
    exact (List.append_assoc ..).symm
  · rw [Region.after_append, sign]
    -- Up to the sign all is code, so the tail decides.
    rcases taken.region more with ⟨overrun, block, last⟩ | ⟨never, region⟩
    · refine .inl ⟨⟨before, after, found, overrun⟩, block, ?_⟩
      rw [List.getLast?_append, last, Option.some_or]
    · refine .inr ⟨?_, region⟩
      rintro ⟨_, _, found', overrun⟩
      rw [found] at found'
      cases found'
      exact never overrun

/-- A step ends in code, unless it overruns a comment. -/
theorem Advances.region (advance : Advances cursor met next) (more : next.rest ≠ []) :
    ∃ through, cursor.rest = through ++ next.rest ∧
      ((Overruns cursor ∧ Region.after .code through = .block ∧ through.getLast? = some '\n') ∨
        ¬ Overruns cursor ∧ (Region.after .code through = .code ∨
          next.rest.head? = some '}' ∧ (Region.after .code through).isComment = false)) := by
  -- A comment that a step reads is closed by what the step reads, except in an overrun.
  cases advance with
  | @lineEnd before rest found =>
    obtain ⟨whole, -, clear⟩ := Token.next?_eq_some_iff.mp found
    exact ⟨before ++ ['\n'], whole, .inr ⟨not_overruns (by decide) found,
      .inl (Region.after_lexeme_of_clear clear rfl rfl)⟩⟩
  | @lineComment before rest found =>
    obtain ⟨whole, -, clear⟩ := Token.next?_eq_some_iff.mp found
    have opened : Region.after .code (before ++ ['/', '/']) = .line :=
      Region.after_lexeme_of_clear clear rfl rfl
    obtain ⟨line, inline, ended⟩ := Text.exists_line_of_throughLine more
    refine ⟨before ++ ['/', '/'] ++ (Text.throughLine rest).1, ?_,
      .inr ⟨not_overruns (by decide) found, .inl ?_⟩⟩
    · rw [List.append_assoc, Text.throughLine_append]
      exact whole
    · rw [Region.after_append, opened, ended, Region.after_line_newline inline]
  | @blockComment before rest body closed found cut =>
    obtain ⟨whole, -, clear⟩ := Token.next?_eq_some_iff.mp found
    have opened : Region.after .code (before ++ ['/', '*']) = .block :=
      Region.after_lexeme_of_clear clear rfl rfl
    obtain ⟨rfl, unclosed⟩ := Text.cut_eq_some_iff.mp cut
    refine ⟨before ++ ['/', '*'] ++ (body ++ ['*', '/']), ?_,
      .inr ⟨not_overruns (by decide) found, .inl ?_⟩⟩
    · rw [List.append_assoc _ _ closed]
      exact whole
    · rw [Region.after_append, opened,
        Region.after_block_closed (Text.clear_pair_iff.mp unclosed).1]
  | option found taken _ => exact region_of_assign found taken more
  | entry found taken _ _ => exact region_of_assign found taken more

/-! ### Whole scans -/

/-- A cursor that is before a closing brace goes no further. -/
private theorem not_advances_of_head? (brace : cursor.rest.head? = some '}') :
    ¬ Advances cursor met next := by
  obtain ⟨line, rest, pending⟩ := cursor
  obtain ⟨behind, rfl⟩ := List.head?_eq_some_iff.mp brace
  intro advance
  have closed : step ⟨line, '}' :: behind, pending⟩ = .closed :=
    step_eq_closed_iff.mpr ⟨[], behind, rfl⟩
  rw [step_eq_advanced_iff.mpr advance] at closed
  cases closed

/-- A step from code comes to code, unless it overruns a comment. -/
theorem Settled.advances (settled : Settled body cursor) (advance : Advances cursor met next)
    (more : next.rest ≠ []) :
    Overruns cursor ∧ (∃ read, body = read ++ next.rest ∧ Region.after .code read = .block ∧
        read.getLast? = some '\n') ∨
      ¬ Overruns cursor ∧ Settled body next := by
  obtain ⟨read, whole, code | ⟨brace, -⟩⟩ := settled
  · obtain ⟨through, rest, region⟩ := advance.region more
    have shape : body = read ++ through ++ next.rest := by rw [whole, rest, List.append_assoc]
    have later : Region.after .code (read ++ through) = Region.after .code through := by
      rw [Region.after_append, code]
    rcases region with ⟨overrun, block, last⟩ | ⟨never, region⟩
    · refine .inl ⟨overrun, read ++ through, shape, later.trans block, ?_⟩
      rw [List.getLast?_append, last, Option.some_or]
    · rw [← later] at region
      exact .inr ⟨never, read ++ through, shape, region⟩
  · -- Before a closing brace the scan ends, and there is no step to speak of.
    exact absurd advance (not_advances_of_head? brace)

/-- A scan that comes to its end has something left at each cursor. -/
theorem Passes.rest_ne_nil (passed : Passes start entries last)
    (done : start.scan.result = .ok ()) : last.rest ≠ [] := by
  intro empty
  have failed : last.step = .failed (.noCloseBrace last.line) := by
    rw [Cursor.step, empty]
    rfl
  rw [passed.scan_eq, scan_of_failed failed] at done
  cases done

/-- A scan that comes to its end goes on at each sign. -/
theorem Passes.exists_advances (passed : Passes start entries last)
    (done : start.scan.result = .ok ()) {before after : Text}
    (found : Token.next? (fun _ => true) last.rest = some (before, .assign, after)) :
    ∃ met next, Advances last met next := by
  cases taken : last.step with
  | closed =>
    obtain ⟨_, _, closing⟩ := step_eq_closed_iff.mp taken
    rw [found] at closing
    cases closing
  | failed fault =>
    rw [passed.scan_eq, scan_of_failed taken] at done
    cases done
  | advanced met next => exact ⟨met, next, step_eq_advanced_iff.mp taken⟩

/-- A cursor in a block comment is not outside of all comments. -/
theorem not_inCode_of_block {read : Text} (whole : body = read ++ cursor.rest)
    (block : Region.after .code read = .block) : ¬ InCode body cursor := by
  rintro ⟨read', whole', code⟩
  rw [whole] at whole'
  rw [← List.append_cancel_right whole', block] at code
  cases code

/-- A scan is settled throughout, if no step from settled text overruns a comment. -/
theorem Passes.settled (passed : Passes start entries last) (done : start.scan.result = .ok ())
    (never : ∀ entries cursor met next, Passes start entries cursor →
      Settled start.rest cursor → Advances cursor met next → ¬ Overruns cursor) :
    Settled start.rest last := by
  have reached : (∃ entries, Passes start entries last) ∧ Settled start.rest last := by
    -- That the scan comes to a cursor is part of the invariant, since only there no step overruns.
    refine passed.invariant
      (P := fun cursor => (∃ entries, Passes start entries cursor) ∧ Settled start.rest cursor)
      ⟨⟨[], .refl start⟩, [], rfl, .inl rfl⟩ ?_
    rintro cursor next met ⟨⟨entries, passed⟩, settled⟩ advance
    have onward := passed.trans (.single (step_eq_advanced_iff.mpr advance))
    refine ⟨⟨_, onward⟩, ?_⟩
    rcases settled.advances advance (onward.rest_ne_nil done) with ⟨overrun, -⟩ | ⟨-, settled⟩
    · exact absurd overrun (never _ _ _ _ passed settled advance)
    · exact settled
  exact reached.2

/-- A scan stays in code exactly if it never overruns a comment. -/
theorem inCode_iff_not_overruns (done : start.scan.result = .ok ()) :
    (∀ entries cursor, Passes start entries cursor → InCode start.rest cursor) ↔
      ∀ entries cursor, Passes start entries cursor → ¬ Overruns cursor := by
  constructor
  · intro inCode entries cursor passed overrun
    -- An overrun from settled text would leave the next cursor in a block comment.
    have never : ∀ entries cursor met next, Passes start entries cursor →
        Settled start.rest cursor → Advances cursor met next → ¬ Overruns cursor := by
      intro entries cursor met next passed settled advance overrun
      have onward := passed.trans (.single (step_eq_advanced_iff.mpr advance))
      rcases settled.advances advance (onward.rest_ne_nil done) with
        ⟨-, read, whole, block, -⟩ | ⟨never, -⟩
      · exact not_inCode_of_block whole block (inCode _ _ onward)
      · exact never overrun
    obtain ⟨before, after, found, -⟩ := id overrun
    obtain ⟨met, next, advance⟩ := passed.exists_advances done found
    exact never _ _ _ _ passed (passed.settled done never) advance overrun
  · intro never entries cursor passed
    exact (passed.settled done fun _ _ _ _ passed _ _ => never _ _ passed).inCode

/-! ### What a scan takes from a block -/

/-- A scan delivers an entry whose sign stands behind a text of the block. -/
def Delivers (start : Cursor) (entry : Entry) (before : Text) : Prop :=
  ∃ entries last next front behind, Passes start entries last ∧
    last.step = .advanced (some entry) next ∧
    Token.next? (fun _ => true) last.rest = some (front, .assign, behind) ∧
    start.rest = before ++ '=' :: behind

/-- A scan ends at a closing brace that stands behind a text of the block. -/
def Closes (start : Cursor) (before : Text) : Prop :=
  ∃ entries last front behind, Passes start entries last ∧ last.step = .closed ∧
    Token.next? (fun _ => true) last.rest = some (front, .closeBrace, behind) ∧
    start.rest = before ++ '}' :: behind

/-- A scan delivers exactly the entries among its events. -/
theorem exists_delivers_iff {entry : Entry} :
    (∃ before, Delivers start entry before) ↔ .entry entry ∈ start.scan.events := by
  rw [entry_mem_events_iff]
  constructor
  · rintro ⟨before, entries, last, next, front, behind, passed, met, -, -⟩
    exact ⟨entries, last, next, passed, met⟩
  · rintro ⟨entries, last, next, passed, met⟩
    obtain ⟨through, whole⟩ := passed.exists_through
    cases step_eq_advanced_iff.mp met with
    | @entry front behind tail found _ _ _ =>
      refine ⟨through ++ front, entries, last, _, front, behind, passed, met, found, ?_⟩
      rw [whole, (Token.next?_append found).1, List.append_assoc, List.append_assoc]
      rfl

/-- A scan that comes to its end closes at a brace. -/
theorem exists_closes (done : start.scan.result = .ok ()) : ∃ before, Closes start before := by
  obtain ⟨entries, last, passed, closed⟩ := exists_passes_closed done
  obtain ⟨front, behind, found⟩ := step_eq_closed_iff.mp closed
  obtain ⟨through, whole⟩ := passed.exists_through
  refine ⟨through ++ front, entries, last, front, behind, passed, closed, found, ?_⟩
  rw [whole, (Token.next?_append found).1, List.append_assoc, List.append_assoc]
  rfl

/-- No sign of an entry that a scan delivers stands in a comment, and neither does the closing
brace at which it ends. -/
def CommentsInert (start : Cursor) : Prop :=
  (∀ entry before, Delivers start entry before → (Region.after .code before).isComment = false) ∧
    ∀ before, Closes start before → (Region.after .code before).isComment = false

/-- The nearest token of settled text stands in code. -/
theorem Settled.not_isComment (settled : Settled body cursor) {front behind before : Text}
    {token : Token}
    (found : Token.next? (fun _ => true) cursor.rest = some (front, token, behind))
    (whole : body = before ++ (token.lexeme ++ behind)) :
    (Region.after .code before).isComment = false := by
  obtain ⟨read, shape, region⟩ := settled
  obtain ⟨rest, -, clear⟩ := Token.next?_eq_some_iff.mp found
  have same : before = read ++ front := by
    rw [shape, rest, List.append_assoc, ← List.append_assoc read] at whole
    exact (List.append_cancel_right whole).symm
  rw [same, Region.after_append]
  rcases region with code | ⟨brace, code⟩
  · rw [code]
    exact Region.not_isComment_of_clear clear rfl rfl
  · -- The nearest token is the closing brace itself.
    obtain ⟨tail, first⟩ := List.head?_eq_some_iff.mp brace
    have here : Token.next? (fun _ => true) ('}' :: tail) = some ([], .closeBrace, tail) := rfl
    rw [first, here] at found
    cases found
    exact code

/-- A scan that never overruns a comment takes nothing from comments. -/
theorem commentsInert_of_not_overruns (done : start.scan.result = .ok ())
    (never : ∀ entries cursor, Passes start entries cursor → ¬ Overruns cursor) :
    CommentsInert start := by
  have settled {entries : List Entry} {last : Cursor} (passed : Passes start entries last) :
      Settled start.rest last :=
    passed.settled done fun _ _ _ _ passed _ _ => never _ _ passed
  constructor
  · rintro entry before ⟨entries, last, next, front, behind, passed, -, found, whole⟩
    exact (settled passed).not_isComment found whole
  · rintro before ⟨entries, last, front, behind, passed, -, found, whole⟩
    exact (settled passed).not_isComment found whole

/-- A block without stars has no comment that could be overrun. -/
theorem not_overruns_of_notMem (starless : '*' ∉ start.rest) (passed : Passes start entries cursor) :
    ¬ Overruns cursor := by
  rintro ⟨before, after, found, value, opened, _, _, _, _, found', -⟩
  obtain ⟨through, whole⟩ := passed.exists_through
  rw [whole, (Token.next?_append found).1, (Token.next?_append found').1] at starless
  exact starless (by simp [Token.lexeme])

/-! ### What an overrun can lead to -/

/-- The end of a block with an entry that the rest of a comment holds. -/
def commentedEntry : Text :=
  ['B', ' ', '=', ' ', '1', ';', ' ', '*', '/', '\n', '}', '\n']

/-- A scan that comes to such an end delivers the entry. -/
theorem advances_commentedEntry (line : Nat) (pending : List Text) :
    Advances ⟨line, commentedEntry, pending⟩ (some (Entry.ofIdentifier ['B'] (pending ++ [])))
      ⟨line + 1, ['}', '\n'], []⟩ := by
  have found : Token.next? (fun _ => true) commentedEntry =
      some (['B', ' '], .assign, [' ', '1', ';', ' ', '*', '/', '\n', '}', '\n']) := rfl
  have taken : Tail.Reads [' ', '1', ';', ' ', '*', '/', '\n', '}', '\n']
      ⟨[], [' ', '1', ';', ' ', '*', '/', '\n'], ['}', '\n']⟩ :=
    tail?_eq_some_iff.mp rfl
  have named : trim ['B', ' '] = ['B'] := rfl
  have met : Advances ⟨line, commentedEntry, pending⟩ _ _ :=
    .entry found taken (by rw [named]; decide) (by rw [named]; rfl)
  rwa [named] at met

/-- A scan that overruns a comment first does so in settled text. -/
theorem exists_first_overrun (done : start.scan.result = .ok ())
    (overrun : ∃ entries cursor, Passes start entries cursor ∧ Overruns cursor) :
    ∃ entries cursor met next, Passes start entries cursor ∧ Settled start.rest cursor ∧
      Advances cursor met next ∧ Overruns cursor := by
  -- If no overrun begins in settled text, everything is settled, also where there is one.
  by_cases first : ∃ entries cursor met next, Passes start entries cursor ∧
      Settled start.rest cursor ∧ Advances cursor met next ∧ Overruns cursor
  · exact first
  · obtain ⟨entries, cursor, passed, overrun⟩ := overrun
    have settled := passed.settled done fun entries cursor met next passed settled advance overrun =>
      first ⟨entries, cursor, met, next, passed, settled, advance, overrun⟩
    obtain ⟨before, after, found, -⟩ := id overrun
    obtain ⟨met, next, advance⟩ := passed.exists_advances done found
    exact ⟨entries, cursor, met, next, passed, settled, advance, overrun⟩

/-- Behind the line of an overrun, the text of the comment is read as a block. -/
theorem not_commentsInert_of_block {line line' : Nat} {read : Text} {pending : List Text}
    (passed : Passes ⟨line, read ++ commentedEntry, []⟩ entries ⟨line', commentedEntry, pending⟩)
    (block : Region.after .code read = .block) :
    (⟨line, read ++ commentedEntry, []⟩ : Cursor).scan.result = .ok () ∧
      ¬ CommentsInert ⟨line, read ++ commentedEntry, []⟩ := by
  have met := step_eq_advanced_iff.mpr (advances_commentedEntry line' pending)
  constructor
  · have closed : (⟨line' + 1, ['}', '\n'], []⟩ : Cursor).scan = ⟨[.finished], .ok ()⟩ :=
      scan_of_next_closeBrace rfl
    rw [passed.scan_eq, scan_of_advanced met, closed]
  · rintro ⟨inert, -⟩
    -- The sign of the entry stands in the comment that was open in front of it.
    have whole : read ++ commentedEntry =
        read ++ ['B', ' '] ++ '=' :: [' ', '1', ';', ' ', '*', '/', '\n', '}', '\n'] := by
      rw [List.append_assoc]
      rfl
    have code := inert _ (read ++ ['B', ' ']) ⟨_, _, _, _, _, passed, met, rfl, whole⟩
    rw [Region.after_append, block] at code
    cases code

end Cursor

/-- Comments count for nothing in a block exactly as far as no step of its scan overruns one: the
scan stays in code if and only if there is no overrun, and then neither an entry nor the end of
the block is taken from a comment. Once a comment is overrun, the same source can go on behind
that line so that an entry is taken from the comment. -/
theorem comments_inert_unless_overrun {enum source body : Text} {line : Nat}
    (opened : opening enum source = .ok (line, body))
    (done : (scan enum source).result = .ok ()) :
    ((∀ entries cursor, Cursor.Passes ⟨line, body, []⟩ entries cursor →
        Cursor.InCode body cursor) ↔
      ∀ entries cursor, Cursor.Passes ⟨line, body, []⟩ entries cursor → ¬ cursor.Overruns) ∧
    ((∀ entries cursor, Cursor.Passes ⟨line, body, []⟩ entries cursor → ¬ cursor.Overruns) →
      Cursor.CommentsInert ⟨line, body, []⟩) ∧
    ((∃ entries cursor, Cursor.Passes ⟨line, body, []⟩ entries cursor ∧ cursor.Overruns) →
      ∃ entries cursor met next kept body', Cursor.Passes ⟨line, body, []⟩ entries cursor ∧
        cursor.Overruns ∧ cursor.step = .advanced met next ∧ source = kept ++ next.rest ∧
        opening enum (kept ++ Cursor.commentedEntry) = .ok (line, body') ∧
        (scan enum (kept ++ Cursor.commentedEntry)).result = .ok () ∧
        ¬ Cursor.CommentsInert ⟨line, body', []⟩) := by
  have done' : (⟨line, body, []⟩ : Cursor).scan.result = .ok () := by
    rwa [scan, opened] at done
  refine ⟨Cursor.inCode_iff_not_overruns done', Cursor.commentsInert_of_not_overruns done', ?_⟩
  intro overrun
  obtain ⟨entries, cursor, met, next, passed, settled, advance, overrun⟩ :=
    Cursor.exists_first_overrun done' overrun
  have step := Cursor.step_eq_advanced_iff.mpr advance
  have onward := passed.trans (.single step)
  obtain ⟨front, rfl, opened'⟩ := opening_exchange opened
  -- The first overrun comes out in a block comment, at the end of a line. Up to there nothing
  -- depends on the text that follows, which can thus be exchanged for an entry.
  rcases settled.advances advance (onward.rest_ne_nil done') with
    ⟨-, read, whole, block, last⟩ | ⟨never, -⟩
  · have nothing : next.rest = [] ++ next.rest := rfl
    have passed' := onward.exchange whole nothing (fun _ => .inl last) (fun _ _ => last)
      Cursor.commentedEntry
    obtain ⟨ended, taken⟩ := Cursor.not_commentsInert_of_block passed' block
    have opened'' := opened' (read ++ Cursor.commentedEntry)
    rw [← List.append_assoc] at opened''
    refine ⟨entries, cursor, met, next, front ++ read, _, passed, overrun, step, ?_, opened'', ?_,
      taken⟩
    · rw [List.append_assoc, ← whole]
    · rw [scan, opened'']
      exact ended
  · exact absurd overrun never

/-- A block whose line comment has a sign and a closing brace in it. -/
def remarkBlock : Text :=
  ['A', '=', '1', ';', '/', '/', '}', 'C', '=', '2', '\n', '}']

/-- The line comment of such a block hides what is in it from the scan. -/
theorem comments_inert_remarkBlock :
    opening ['X'] (headerText ['X'] ++ '{' :: remarkBlock) = .ok (1, remarkBlock) ∧
      (scan ['X'] (headerText ['X'] ++ '{' :: remarkBlock)).result = .ok () ∧
      Cursor.CommentsInert ⟨1, remarkBlock, []⟩ := by
  have opened : opening ['X'] (headerText ['X'] ++ '{' :: remarkBlock) = .ok (1, remarkBlock) := rfl
  have met : Cursor.step ⟨1, remarkBlock, []⟩ =
      .advanced (some (Entry.ofIdentifier ['A'] [['}', 'C', '=', '2']])) ⟨2, ['}'], []⟩ := rfl
  have closed : (⟨2, ['}'], []⟩ : Cursor).scan = ⟨[.finished], .ok ()⟩ :=
    Cursor.scan_of_next_closeBrace rfl
  have done : (scan ['X'] (headerText ['X'] ++ '{' :: remarkBlock)).result = .ok () := by
    rw [scan, opened]
    dsimp only
    rw [Cursor.scan_of_advanced met, closed]
  have never : ∀ entries cursor, Cursor.Passes ⟨1, remarkBlock, []⟩ entries cursor →
      ¬ cursor.Overruns := fun _ _ => Cursor.not_overruns_of_notMem (by decide)
  exact ⟨opened, done, (comments_inert_unless_overrun opened done).2.1 never⟩

/-- A line on which a comment is overrun. -/
def overrunLine : Text :=
  [' ', 'A', ' ', '=', ' ', '0', ';', ' ', '/', '*', 'x', '*', '/', ' ', '/', '*', 'y', ' ', '/',
    '/', 'z', '\n']

/-- Behind the second block comment of a line, a scan takes an entry from that comment. -/
theorem comments_not_inert_overrunLine :
    opening ['X'] (headerText ['X'] ++ '{' :: overrunLine ++ Cursor.commentedEntry) =
        .ok (1, overrunLine ++ Cursor.commentedEntry) ∧
      (scan ['X'] (headerText ['X'] ++ '{' :: overrunLine ++ Cursor.commentedEntry)).result =
        .ok () ∧
      ¬ Cursor.CommentsInert ⟨1, overrunLine ++ Cursor.commentedEntry, []⟩ := by
  have opened : opening ['X'] (headerText ['X'] ++ '{' :: overrunLine ++ Cursor.commentedEntry) =
      .ok (1, overrunLine ++ Cursor.commentedEntry) := rfl
  have first : Cursor.step ⟨1, overrunLine ++ Cursor.commentedEntry, []⟩ =
      .advanced (some (Entry.ofIdentifier ['A'] [['x'], ['z']])) ⟨2, Cursor.commentedEntry, []⟩ :=
    rfl
  have block : Region.after .code overrunLine = .block := rfl
  obtain ⟨done, taken⟩ := Cursor.not_commentsInert_of_block (.single first) block
  exact ⟨opened, by rw [scan, opened]; exact done, taken⟩

end EnumBindings.Block
