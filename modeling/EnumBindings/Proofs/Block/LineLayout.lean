import EnumBindings.Proofs.Block.Listing
import EnumBindings.Proofs.Block.Locality
import EnumBindings.Proofs.Block.NoteLines
import EnumBindings.Proofs.Text.LineLayout

/-!
# Blocks that are laid out anew

How the lines of a block are indented, padded, parted and ended makes no difference to what a scan
delivers. The scan of the block that was laid out anew goes the same way, but for steps over lines
of white space: it comes to cursors with the same lines of comments waiting, where some white space
may stand in front of the rest of the block.

## Main definitions

* `Fault.onLine` — a fault on another line
* `Cursor.Relaid` — corresponding cursors in a block and in the same block laid out anew
* `RelaidBlock` — a source in which the block of an enum was laid out anew

## Main results

* `Token.exists_next?_of_relaid` — the nearest token is the same
* `commentLines_of_relaid`, `Tail.Reads.relaid` — so are the lines of comments
* `Cursor.Advances.relaid`, `Cursor.Fails.relaid` — and each step
* `scan_of_relaidBlock` — and the whole scan, but for the line of a fault
-/

namespace EnumBindings.Block

/-- The same fault on another line. -/
def Fault.onLine (line : Nat) : Fault → Fault
  | noHeader => noHeader
  | noOpenBrace _ => noOpenBrace line
  | noCloseBrace _ => noCloseBrace line
  | openComment _ => openComment line
  | noIdentifier _ => noIdentifier line

variable {s s' before after rest rest' : Text} {pad : Blanks}

/-! ### The nearest token -/

namespace Token

variable {wanted : Token → Bool} {token : Token}

theorem lexeme_ne_nil (token : Token) : token.lexeme ≠ [] := by
  cases token <;> exact List.cons_ne_nil _ _

/-- Every token but the end of a line is visible. -/
theorem visible_of_ne_lineEnd (other : token ≠ .lineEnd) :
    ∀ c ∈ token.lexeme, isBlank c = false := by
  cases token <;> first | exact absurd rfl other | simp [lexeme, isBlank]

/-- What stands behind a line can be laid out anew, and no token begins in the line for that. -/
theorem clear_of_relaid (inline : '\n' ∉ before) (relaid : Text.Relaid rest rest')
    (clear : Clear wanted before rest) : Clear wanted before rest' := by
  intro other kind
  by_cases lineEnd : other = .lineEnd
  · subst lineEnd
    exact Text.clear_of_notMem inline
  · exact (Text.Relaid.refl before).clear other.lexeme_ne_nil (visible_of_ne_lineEnd lineEnd) relaid
      (clear other kind)

/-- The nearest token of a text is also that of the text laid out anew, with more white space
around it at most. -/
theorem exists_next?_of_relaid (relaid : Text.Relaid s s') (newline : wanted .lineEnd = true)
    (pad : Blanks) (found : next? wanted s = some (before, token, after)) :
    ∃ before' after', next? wanted (pad.text ++ s') = some (before', token, after') ∧
      trim before' = trim before ∧ Text.Resumes after after' ∧
      (token ≠ .lineEnd → Text.Relaid after after') := by
  obtain ⟨rfl, kind, clear⟩ := next?_eq_some_iff.mp found
  have inline : '\n' ∉ before := Text.clear_singleton_iff.mp (clear .lineEnd newline)
  rw [List.append_assoc] at relaid
  obtain ⟨u, rfl, behind⟩ := relaid.of_inline_append inline
  have clear' := clear_of_relaid inline behind clear
  rw [← List.append_assoc]
  -- Only at the end of a line may white space be added in front of the token itself.
  by_cases lineEnd : token = .lineEnd
  · subst lineEnd
    obtain ⟨back, after', rfl, inside, blank, resumed⟩ := behind.of_newline
    have passed : Clear wanted (pad.text ++ before ++ back) (lexeme .lineEnd ++ after') := by
      rw [clear_append, clear_append]
      exact ⟨⟨pad.clear, clear'⟩, Blanks.clear ⟨back, blank, inside⟩⟩
    refine ⟨pad.text ++ before ++ back, after', ?_, ?_, resumed, fun other => absurd rfl other⟩
    · rw [← List.append_assoc]
      exact next?_of_clear .lineEnd passed kind
    · rw [trim_append_blank blank, trim_blank_append pad.blank]
  · obtain ⟨after', rfl, h⟩ :=
      behind.of_inline_append (Text.Relaid.newline_notMem (visible_of_ne_lineEnd lineEnd))
    have passed : Clear wanted (pad.text ++ before) (token.lexeme ++ after') := by
      rw [clear_append]
      exact ⟨pad.clear, clear'⟩
    exact ⟨pad.text ++ before, after', next?_of_clear token passed kind,
      trim_blank_append pad.blank, h.resumes, fun _ => h⟩

/-- A text without tokens has none when it is laid out anew. -/
theorem next?_eq_none_of_relaid (relaid : Text.Relaid s s') (newline : wanted .lineEnd = true)
    (pad : Blanks) (missing : next? wanted s = none) : next? wanted (pad.text ++ s') = none := by
  rw [next?_eq_none_iff] at missing ⊢
  have inline : '\n' ∉ s := Text.clear_singleton_iff.mp (missing .lineEnd newline)
  rw [relaid.eq_of_notMem inline, clear_append]
  exact ⟨pad.clear, missing⟩

end Token

/-! ### The lines of block comments -/

/-- White space in front of a block comment has no share in the documentation. -/
theorem commentLines_blank_append {blanks : Text} (blank : ∀ c ∈ blanks, isBlank c = true)
    (s : Text) : commentLines (blanks ++ s) = commentLines s := by
  induction blanks using Text.lines_induction with
  | single line inline =>
    rcases Text.exists_line s with ⟨first, behind, inline', rfl⟩ | inline'
    · rw [← List.append_assoc, commentLines_append_newline (by simp [inline, inline']),
        noteLine_blank_append blank, commentLines_append_newline inline']
    · rw [commentLines_of_notMem (by simp [inline, inline']), noteLine_blank_append blank,
        commentLines_of_notMem inline']
  | more line blanks inline ih =>
    have first : noteLine line = [] := by
      rw [noteLine, commentLines.unstarred, trim_of_blank fun c there => blank c (by simp [there])]
      rfl
    rw [List.append_assoc, List.cons_append, commentLines_append_newline inline, first,
      ih fun c there => blank c (by simp [there])]
    rfl

/-- A block comment that is laid out anew has the same lines. -/
theorem commentLines_of_relaid (relaid : Text.Relaid s s') : commentLines s' = commentLines s := by
  induction s using Text.lines_induction generalizing s' with
  | single line inline => rw [relaid.eq_of_notMem inline]
  | more line behind inline ih =>
    obtain ⟨u, rfl, broken⟩ := relaid.of_inline_append inline
    obtain ⟨back, t', rfl, inside, blank, front, v, rfl, blank', h⟩ := broken.of_newline
    rw [← List.append_assoc, commentLines_append_newline (by simp [inline, inside]),
      noteLine_append_blank blank, commentLines_blank_append blank', ih h,
      commentLines_append_newline inline]

/-! ### Tails of statements -/

/-- No white space at all. -/
private def nothing : Blanks :=
  ⟨[], by simp, by simp⟩

/-- The closer of a block comment is visible. -/
private theorem isBlank_closer : ∀ c ∈ ['*', '/'], isBlank c = false := by
  simp [isBlank]

/-- The nearest token of a text that was laid out anew is that of the text. -/
private theorem exists_next?_of_next?_relaid {wanted : Token → Bool} {token : Token}
    (newline : wanted .lineEnd = true) (relaid : Text.Relaid s s')
    (found' : Token.next? wanted s' = some (before, token, after)) :
    ∃ before after, Token.next? wanted s = some (before, token, after) := by
  cases found : Token.next? wanted s with
  | none =>
    have missing := Token.next?_eq_none_of_relaid relaid newline nothing found
    cases missing.symm.trans found'
  | some parts =>
    obtain ⟨before, other, after⟩ := parts
    obtain ⟨_, _, same, -⟩ := Token.exists_next?_of_relaid relaid newline nothing found
    cases same.symm.trans found'
    exact ⟨before, after, rfl⟩

variable {tail : Tail}

/-- The tail of a statement is laid out anew with what follows its sign. -/
theorem Tail.Reads.relaid (read : Tail.Reads after tail) (relaid : Text.Relaid after rest) :
    ∃ tail', Tail.Reads rest tail' ∧ tail'.docs = tail.docs ∧ Text.Resumes tail.rest tail'.rest := by
  -- Each token that the tail is read up to is found anew; that there is no further one is shown
  -- by taking such a one back to the first layout.
  cases read with
  | @brace value behind found =>
    obtain ⟨value', behind', found', -, -, h⟩ :=
      Token.exists_next?_of_relaid relaid (by decide) nothing found
    exact ⟨_, .brace found', rfl, (Text.Relaid.keep (by decide) (h (by decide))).resumes⟩
  | @remark value behind found =>
    obtain ⟨value', behind', found', -, -, h⟩ :=
      Token.exists_next?_of_relaid relaid (by decide) nothing found
    obtain ⟨same, resumed⟩ := (h (by decide)).throughLine
    exact ⟨_, .remark found', by rw [same], resumed⟩
  | @noteRemark value opened body closed gap behind found cut further =>
    obtain ⟨value', opened', found', -, -, h⟩ :=
      Token.exists_next?_of_relaid relaid (by decide) nothing found
    obtain ⟨body', closed', cut', inside, h'⟩ := (h (by decide)).cut (by simp) isBlank_closer cut
    obtain ⟨gap', behind', further', -, -, h''⟩ :=
      Token.exists_next?_of_relaid h' (by decide) nothing further
    obtain ⟨same, resumed⟩ := (h'' (by decide)).throughLine
    exact ⟨_, .noteRemark found' cut' further', by rw [same, commentLines_of_relaid inside], resumed⟩
  | @note value opened body closed found cut other =>
    obtain ⟨value', opened', found', -, -, h⟩ :=
      Token.exists_next?_of_relaid relaid (by decide) nothing found
    obtain ⟨body', closed', cut', inside, h'⟩ := (h (by decide)).cut (by simp) isBlank_closer cut
    refine ⟨_, .note found' cut' fun gap rest further' => ?_, commentLines_of_relaid inside,
      h'.resumes⟩
    obtain ⟨_, _, further⟩ := exists_next?_of_next?_relaid (by decide) h' further'
    exact other _ _ further
  | plain other =>
    obtain ⟨-, resumed⟩ := relaid.throughLine
    refine ⟨_, .plain fun value token behind found' => ?_, rfl, resumed⟩
    obtain ⟨_, _, found⟩ := exists_next?_of_next?_relaid (by decide) relaid found'
    exact other _ _ _ found

/-- A statement without a tail has none when it is laid out anew. -/
theorem tail?_eq_none_of_relaid (relaid : Text.Relaid after rest) (missing : tail? after = none) :
    tail? rest = none := by
  rw [tail?_eq_none_iff] at missing ⊢
  obtain ⟨value, opened, found, unclosed⟩ := missing
  obtain ⟨value', opened', found', -, -, h⟩ :=
    Token.exists_next?_of_relaid relaid (by decide) nothing found
  exact ⟨value', opened', found', (h (by decide)).cut_eq_none (by simp) isBlank_closer unclosed⟩

/-! ### Steps -/

namespace Cursor

variable {cursor other next : Cursor} {met : Option Entry}

/-- A cursor in a block that was laid out anew corresponds to one in the block: the same lines of
comments wait for an entry, and behind some white space the same is left to read. -/
structure Relaid (cursor other : Cursor) : Prop where
  pending : other.pending = cursor.pending
  rest : Text.Resumes cursor.rest other.rest

/-- A step goes on in both layouts. -/
theorem Advances.relaid (advance : Advances cursor met next) (relaid : Text.Relaid cursor.rest s')
    (pad : Blanks) (line : Nat) :
    ∃ next', Advances ⟨line, pad.text ++ s', cursor.pending⟩ met next' ∧ Relaid next next' := by
  cases advance with
  | lineEnd found =>
    obtain ⟨_, _, found', -, resumed, -⟩ := Token.exists_next?_of_relaid relaid rfl pad found
    exact ⟨_, .lineEnd found', rfl, resumed⟩
  | lineComment found =>
    obtain ⟨_, _, found', -, -, h⟩ := Token.exists_next?_of_relaid relaid rfl pad found
    obtain ⟨same, resumed⟩ := (h (by decide)).throughLine
    exact ⟨_, .lineComment found', by rw [same], resumed⟩
  | blockComment found cut =>
    obtain ⟨_, _, found', -, -, h⟩ := Token.exists_next?_of_relaid relaid rfl pad found
    obtain ⟨_, _, cut', inside, h'⟩ := (h (by decide)).cut (by simp) isBlank_closer cut
    exact ⟨_, .blockComment found' cut', by rw [commentLines_of_relaid inside], h'.resumes⟩
  | option found taken optional =>
    obtain ⟨_, _, found', same, -, h⟩ := Token.exists_next?_of_relaid relaid rfl pad found
    obtain ⟨_, taken', -, resumed⟩ := taken.relaid (h (by decide))
    exact ⟨_, .option found' taken' (by rwa [same]), rfl, resumed⟩
  | @entry before after tail found taken named entry =>
    obtain ⟨before', _, found', same, -, h⟩ := Token.exists_next?_of_relaid relaid rfl pad found
    obtain ⟨tail', taken', docs, resumed⟩ := taken.relaid (h (by decide))
    have met : Advances ⟨line, pad.text ++ s', cursor.pending⟩ _ _ :=
      .entry found' taken' (by rwa [same]) (by rwa [same])
    rw [same, docs] at met
    exact ⟨_, met, rfl, resumed⟩

/-- A step fails in both layouts. -/
theorem Fails.relaid {fault : Fault} (fails : Fails cursor fault)
    (relaid : Text.Relaid cursor.rest s') (pad : Blanks) (line : Nat) :
    Fails ⟨line, pad.text ++ s', cursor.pending⟩ (fault.onLine line) := by
  cases fails with
  | noCloseBrace missing =>
    exact .noCloseBrace (Token.next?_eq_none_of_relaid relaid rfl pad missing)
  | openComment found unclosed =>
    obtain ⟨_, _, found', -, -, h⟩ := Token.exists_next?_of_relaid relaid rfl pad found
    exact .openComment found' ((h (by decide)).cut_eq_none (by simp) isBlank_closer unclosed)
  | noIdentifier found unnamed =>
    obtain ⟨_, _, found', same, -⟩ := Token.exists_next?_of_relaid relaid rfl pad found
    exact .noIdentifier found' (same.trans unnamed)
  | openTail found named unclosed =>
    obtain ⟨_, _, found', same, -, h⟩ := Token.exists_next?_of_relaid relaid rfl pad found
    exact .openTail found' (by rwa [same]) (tail?_eq_none_of_relaid (h (by decide)) unclosed)

/-- A step closes in both layouts. -/
theorem closed_of_relaid (closed : cursor.step = .closed) (relaid : Text.Relaid cursor.rest s')
    (pad : Blanks) (line : Nat) :
    step ⟨line, pad.text ++ s', cursor.pending⟩ = .closed := by
  obtain ⟨before, after, found⟩ := step_eq_closed_iff.mp closed
  obtain ⟨_, _, found', -⟩ := Token.exists_next?_of_relaid relaid rfl pad found
  exact step_eq_closed_iff.mpr ⟨_, _, found'⟩

/-! ### Whole scans -/

/-- Lines of white space are passed over, until only white space on one line is left. -/
theorem exists_passes_blank {blanks : Text} (blank : ∀ c ∈ blanks, isBlank c = true) (line : Nat)
    (rest : Text) (pending : List Text) : ∃ line' pad,
      Passes ⟨line, blanks ++ rest, pending⟩ [] ⟨line', Blanks.text pad ++ rest, pending⟩ := by
  induction blanks using Text.lines_induction generalizing line with
  | single blanks inline => exact ⟨line, ⟨blanks, blank, inline⟩, .refl _⟩
  | more first blanks inline ih =>
    have clear : Token.Clear (fun _ => true) first ('\n' :: (blanks ++ rest)) :=
      Blanks.clear ⟨first, fun c there => blank c (by simp [there]), inline⟩
    have passed : Passes ⟨line, first ++ '\n' :: (blanks ++ rest), pending⟩ [] _ :=
      passes_line clear
    obtain ⟨line', pad, further⟩ := ih (fun c there => blank c (by simp [there])) (line + 1)
    rw [List.append_assoc]
    exact ⟨line', pad, passed.trans further⟩

/-- Behind lines of white space, the scan comes to what corresponds to the rest of the block. -/
theorem Relaid.exists_passes (relaid : Relaid cursor other) : ∃ line pad s',
    Passes other [] ⟨line, Blanks.text pad ++ s', cursor.pending⟩ ∧
      Text.Relaid cursor.rest s' := by
  obtain ⟨line, rest, pending⟩ := other
  obtain ⟨same, blanks, s', whole, blank, h⟩ := relaid
  obtain rfl : pending = cursor.pending := same
  obtain rfl : rest = blanks ++ s' := whole
  obtain ⟨line', pad, passed⟩ := exists_passes_blank blank line s' cursor.pending
  exact ⟨line', pad, s', passed, h⟩

/-- The scans from corresponding cursors deliver the same, and end the same way but for the line of
a fault. -/
theorem Relaid.scan (relaid : Relaid cursor other) :
    other.scan.events = cursor.scan.events ∧
      ∃ line, other.scan.result = cursor.scan.result.mapError (Fault.onLine line) := by
  -- The induction follows the scan of the block; that of the other layout has to pass over lines of
  -- white space first, in each step.
  induction cursor using Cursor.scan.induct generalizing other with
  | case1 cursor closed =>
    obtain ⟨line, pad, s', passed, h⟩ := relaid.exists_passes
    rw [passed.scan_eq, scan_of_closed closed, scan_of_closed (closed_of_relaid closed h pad line)]
    exact ⟨rfl, line, rfl⟩
  | case2 cursor fault failed =>
    obtain ⟨line, pad, s', passed, h⟩ := relaid.exists_passes
    have failed' := step_eq_failed_iff.mpr ((step_eq_failed_iff.mp failed).relaid h pad line)
    rw [passed.scan_eq, scan_of_failed failed, scan_of_failed failed']
    exact ⟨rfl, line, rfl⟩
  | case3 cursor next advanced ih =>
    obtain ⟨line, pad, s', passed, h⟩ := relaid.exists_passes
    obtain ⟨next', advanced', relaid'⟩ := (step_eq_advanced_iff.mp advanced).relaid h pad line
    rw [passed.scan_eq, scan_of_advanced advanced,
      scan_of_advanced (step_eq_advanced_iff.mpr advanced')]
    exact ih relaid'
  | case4 cursor entry next advanced ih =>
    obtain ⟨line, pad, s', passed, h⟩ := relaid.exists_passes
    obtain ⟨next', advanced', relaid'⟩ := (step_eq_advanced_iff.mp advanced).relaid h pad line
    obtain ⟨events, result⟩ := ih relaid'
    rw [passed.scan_eq, scan_of_advanced advanced,
      scan_of_advanced (step_eq_advanced_iff.mpr advanced'), events]
    exact ⟨rfl, result⟩

end Cursor

/-- The block of an enum in a source is laid out anew, and what stands in front of its text stays
as it is. A source in which no block is opened has nothing that could be laid out. -/
def RelaidBlock (enum source source' : Text) : Prop :=
  match opening enum source with
  | .error _ => source' = source
  | .ok (_, body) => ∃ front body', source = front ++ body ∧ source' = front ++ body' ∧
      Text.Relaid body body'

/-- The layout of lines does not matter. If each newline behind the opening brace of an enum's
block is replaced by any white space with a newline in it, the scan delivers the same events, and
ends the same way but for the line of a fault. -/
theorem scan_of_relaidBlock {enum source source' : Text} (relaid : RelaidBlock enum source source') :
    (scan enum source').events = (scan enum source).events ∧
      ∃ line, (scan enum source').result =
        (scan enum source).result.mapError (Fault.onLine line) := by
  rw [RelaidBlock] at relaid
  split at relaid
  next fault opened =>
    rw [relaid, scan, opened]
    refine ⟨rfl, (fault.line?).getD 0, ?_⟩
    cases fault <;> rfl
  next line body opened =>
    obtain ⟨front, body', whole, rfl, h⟩ := relaid
    obtain ⟨front', whole', opened'⟩ := opening_exchange opened
    obtain rfl : front = front' := List.append_cancel_right (whole.symm.trans whole')
    rw [scan, opened', scan, opened]
    exact Cursor.Relaid.scan ⟨rfl, h.resumes⟩

/-- A block of four lines, with a newline inside a comment. -/
def denseBlock : Text :=
  ['/', '/', 'a'] ++ '\n' :: (['B', '=', '1', ';', '/', '*', 'c'] ++ '\n' ::
    (['*', 'd', '*', '/'] ++ '\n' :: ['}']))

/-- The same block with carriage returns, indentation and a blank line inside the comment. -/
def spacedBlock : Text :=
  ['/', '/', 'a'] ++ ([' ', '\r', '\n', '\t'] ++ (['B', '=', '1', ';', '/', '*', 'c'] ++
    (['\r', '\n', '\r', '\n', ' '] ++ (['*', 'd', '*', '/'] ++ (['\r', '\n'] ++ ['}'])))))

/-- The blocks are read alike. -/
theorem scan_of_spacedBlock :
    RelaidBlock ['X'] (headerText ['X'] ++ '{' :: denseBlock)
        (headerText ['X'] ++ '{' :: spacedBlock) ∧
      (scan ['X'] (headerText ['X'] ++ '{' :: spacedBlock)).events =
        [.entry (Entry.ofIdentifier ['B'] [['a'], ['c'], ['d']]), .finished] ∧
      (scan ['X'] (headerText ['X'] ++ '{' :: spacedBlock)).result = .ok () := by
  have opened : opening ['X'] (headerText ['X'] ++ '{' :: denseBlock) = .ok (1, denseBlock) := rfl
  have relaid : RelaidBlock ['X'] (headerText ['X'] ++ '{' :: denseBlock)
      (headerText ['X'] ++ '{' :: spacedBlock) := by
    rw [RelaidBlock, opened]
    exact ⟨headerText ['X'] ++ ['{'], spacedBlock, rfl, rfl,
      (Text.Relaid.refl _).append (.newline (List.all_eq_true.mp rfl) (by decide)
        ((Text.Relaid.refl _).append (.newline (List.all_eq_true.mp rfl) (by decide)
          ((Text.Relaid.refl _).append (.newline (List.all_eq_true.mp rfl) (by decide)
            (.refl _))))))⟩
  -- Only the dense block is run, step by step; the other one is read alike.
  have first : Cursor.step ⟨1, denseBlock, []⟩ = .advanced none
      ⟨2, ['B', '=', '1', ';', '/', '*', 'c', '\n', '*', 'd', '*', '/', '\n', '}'], [['a']]⟩ := rfl
  have second : Cursor.step
      ⟨2, ['B', '=', '1', ';', '/', '*', 'c', '\n', '*', 'd', '*', '/', '\n', '}'], [['a']]⟩ =
        .advanced (some (Entry.ofIdentifier ['B'] [['a'], ['c'], ['d']])) ⟨3, ['\n', '}'], []⟩ := rfl
  have third : Cursor.step ⟨3, ['\n', '}'], []⟩ = .advanced none ⟨4, ['}'], []⟩ := rfl
  have done : scan ['X'] (headerText ['X'] ++ '{' :: denseBlock) =
      ⟨[.entry (Entry.ofIdentifier ['B'] [['a'], ['c'], ['d']]), .finished], .ok ()⟩ := by
    rw [scan, opened]
    dsimp only
    rw [Cursor.scan_of_advanced first, Cursor.scan_of_advanced second,
      Cursor.scan_of_advanced third, Cursor.scan_of_next_closeBrace rfl]
    rfl
  obtain ⟨events, line, result⟩ := scan_of_relaidBlock relaid
  rw [done] at events result
  exact ⟨relaid, events, result⟩

end EnumBindings.Block
