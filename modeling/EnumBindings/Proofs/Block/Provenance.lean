import EnumBindings.Proofs.Block.FirstHeader
import EnumBindings.Proofs.Block.NoteLines
import EnumBindings.Proofs.Block.Passage
import Mathlib.Data.List.Forall2

/-!
# Where entries come from

Each name and each line of documentation that a scan delivers has a range of places in the source
to itself. The ranges follow each other in the order in which they are delivered: first the
comments in front of a name, then the name, then the comments behind it, and then those of the next
entry. So no text is used twice, and no comment belongs to an entry further on.

## Main definitions

* `Span` — a range of places in a source
* `Span.IsRemark`, `Span.IsNoteLine`, `Span.IsName` — what stands in a range
* `Ascending` — ranges that follow each other between two places
* `Origin` — the ranges of an entry

## Main results

* `Tail.Reads.documented` — the ranges of the comments that follow a statement
* `Cursor.Located.advances_none`, `Cursor.Located.advances_some` — each step keeps track of the ranges
  that wait for an entry
* `Cursor.Located.origins_of_scan` — the entries of a scan have ranges that follow each other
* `exists_origins` — so do the entries of an enum, behind the opening brace of its block
* `exists_documents` — each line of documentation comes from a comment
-/

namespace EnumBindings.Block

/-- A range of places in a text: its first place, and the number of its places. -/
structure Span where
  start : Nat
  size : Nat
  deriving DecidableEq, Repr

namespace Span

/-- The place behind a range. -/
def stop (span : Span) : Nat :=
  span.start + span.size

/-- What stands in a range of a source. -/
def text (source : Text) (span : Span) : Text :=
  (source.drop span.start).take span.size

/-- A range ends before another one begins, with some place in between. -/
def Before (span other : Span) : Prop :=
  span.stop < other.start

variable {source before s after : Text}

/-- What stands between two texts is in the range between their places. -/
theorem text_of_append (whole : source = before ++ s ++ after) :
    text source ⟨before.length, s.length⟩ = s := by
  rw [text, whole, List.append_assoc, List.drop_left, List.take_left]

/-- A range is the inside of a line comment, up to the end of the line. -/
def IsRemark (source : Text) (span : Span) : Prop :=
  ∃ before after, source = before ++ ['/', '/'] ++ span.text source ++ after ∧
    span.start = before.length + 2 ∧ '\n' ∉ span.text source ∧
    (after = [] ∨ after.head? = some '\n')

/-- A range is a line of the inside of a block comment. -/
def IsNoteLine (source : Text) (span : Span) : Prop :=
  ∃ before front back after,
    source = before ++ ['/', '*'] ++ (front ++ span.text source ++ back) ++ ['*', '/'] ++ after ∧
    span.start = before.length + 2 + front.length ∧
    ¬ ['*', '/'] <:+: front ++ span.text source ++ back ∧ '\n' ∉ span.text source ∧
    (front = [] ∨ front.getLast? = some '\n') ∧ (back = [] ∨ back.head? = some '\n')

/-- A range is what stands in front of a `=`. -/
def IsName (source : Text) (span : Span) : Prop :=
  source[span.stop]? = some '='

/-- A line of documentation is what a range of a comment holds, without surrounding blanks and, in
a block comment, without one leading star. -/
def Documents (source : Text) (span : Span) (doc : Text) : Prop :=
  span.IsRemark source ∧ doc = trim (span.text source) ∨
    span.IsNoteLine source ∧ doc = commentLines.unstarred (span.text source)

/-- Only the documentation of a line comment can hold what closes a block comment. -/
theorem Documents.isRemark {span : Span} {doc : Text} (documents : Documents source span doc)
    (closer : ['*', '/'] <:+: doc) : span.IsRemark source := by
  rcases documents with ⟨remark, -⟩ | ⟨⟨_, front, back, _, -, -, unclosed, -⟩, rfl⟩
  · exact remark
  · have inside : span.text source <:+: front ++ span.text source ++ back := ⟨front, back, rfl⟩
    exact absurd ((closer.trans (unstarred_isInfix _)).trans inside) unclosed

/-- A line of documentation is on one line. -/
theorem Documents.newline_notMem {span : Span} {doc : Text}
    (documents : Documents source span doc) : '\n' ∉ doc := by
  rcases documents with ⟨⟨_, _, -, -, inline, -⟩, rfl⟩ | ⟨⟨_, _, _, _, -, -, -, inline, -⟩, rfl⟩
  · exact fun there => inline ((trim_isInfix _).subset there)
  · exact fun there => inline ((unstarred_isInfix _).subset there)

end Span

/-! ### Ranges that follow each other -/

/-- Ranges follow each other between two places, each of them before the next. -/
inductive Ascending : Nat → List Span → Nat → Prop
  | nil {start stop : Nat} : start ≤ stop → Ascending start [] stop
  | cons {start stop : Nat} {span : Span} {spans : List Span} :
      start ≤ span.start → Ascending (span.stop + 1) spans stop →
      Ascending start (span :: spans) stop

namespace Ascending

variable {start middle stop : Nat} {span : Span} {spans later : List Span}

theorem le (h : Ascending start spans stop) : start ≤ stop := by
  induction h with
  | nil bound => exact bound
  | @cons start stop span spans first _ ih =>
    have := span.start.le_add_right span.size
    rw [Span.stop] at ih
    omega

theorem singleton (first : start ≤ span.start) (last : span.stop < stop) :
    Ascending start [span] stop :=
  .cons first (.nil last)

/-- Ranges can be followed by further ones. -/
theorem append (h : Ascending start spans middle) (h' : Ascending middle later stop) :
    Ascending start (spans ++ later) stop := by
  induction h with
  | nil bound =>
    cases h' with
    | nil bound' => exact .nil (Nat.le_trans bound bound')
    | cons first rest => exact .cons (Nat.le_trans bound first) rest
  | cons first _ ih => exact .cons first (ih h')

theorem mono (h : Ascending start spans middle) (bound : middle ≤ stop) :
    Ascending start spans stop := by
  have longer := h.append (.nil bound)
  rwa [List.append_nil] at longer

theorem bounds (h : Ascending start spans stop) (there : span ∈ spans) :
    start ≤ span.start ∧ span.stop < stop := by
  induction h with
  | nil => simp at there
  | @cons start stop first spans begins rest ih =>
    rcases List.mem_cons.mp there with rfl | later
    · exact ⟨begins, rest.le⟩
    · have := (ih later).1
      have := (ih later).2
      rw [Span.stop] at *
      omega

/-- Ranges that follow each other behind a longer text do so behind its beginning. -/
theorem of_append {before after : Text} (h : Ascending (before ++ after).length spans stop) :
    Ascending before.length spans stop := by
  have begins : Ascending before.length [] (before ++ after).length := .nil (by simp)
  exact begins.append h

/-- Each of the ranges ends before all later ones begin. -/
theorem pairwise (h : Ascending start spans stop) : spans.Pairwise Span.Before := by
  induction h with
  | nil => exact .nil
  | cons _ rest ih => exact .cons (fun other there => (rest.bounds there).1) ih

end Ascending

/-! ### Where comments stand -/

/-- The place where a scan goes on in a source when the rest of it is left to read. If nothing is
left, it is behind the end of the source, so that what ends with the source ends before it. -/
def place (source rest : Text) : Nat :=
  if rest = [] then source.length + 1 else source.length - rest.length

variable {source read before rest : Text}

theorem place_le : place source rest ≤ source.length + 1 := by
  rw [place]
  split <;> omega

/-- What has been read ends where the scan goes on. -/
theorem length_le_place (whole : source = read ++ rest) : read.length ≤ place source rest := by
  rw [place, whole, List.length_append]
  split <;> omega

theorem place_eq_length (whole : source = read ++ rest) (more : rest ≠ []) :
    place source rest = read.length := by
  rw [place, if_neg more, whole, List.length_append, Nat.add_sub_cancel]

/-- A line comment has a range to itself. -/
theorem exists_remark (whole : source = before ++ ['/', '/'] ++ rest) :
    ∃ span, Span.Documents source span (trim (Text.throughLine rest).1) ∧
      Ascending before.length [span] (place source (Text.throughLine rest).2) := by
  have opener : (before ++ ['/', '/']).length = before.length + 2 := by simp
  rcases Text.exists_line rest with ⟨line, behind, inline, rfl⟩ | inline
  · have split : source = before ++ ['/', '/'] ++ line ++ '\n' :: behind := by simp [whole]
    have held := Span.text_of_append split
    rw [Text.throughLine_append_newline inline, trim_append_blank isBlank_newline]
    refine ⟨⟨_, _⟩, .inl ⟨⟨before, '\n' :: behind, ?_⟩, by rw [held]⟩, .singleton (by simp) ?_⟩
    · rw [held]
      exact ⟨split, opener, inline, .inr rfl⟩
    · -- The newline stands between the comment and the place where the scan goes on.
      have shape : source = before ++ ['/', '/'] ++ line ++ ['\n'] ++ behind := by simp [split]
      have through := length_le_place shape
      simp only [Span.stop, List.length_append, List.length_cons, List.length_nil] at through ⊢
      omega
  · have split : source = before ++ ['/', '/'] ++ rest ++ [] := by simp [whole]
    have held := Span.text_of_append split
    rw [Text.throughLine_of_notMem inline]
    refine ⟨⟨_, _⟩, .inl ⟨⟨before, [], ?_⟩, by rw [held]⟩, .singleton (by simp) ?_⟩
    · rw [held]
      exact ⟨split, opener, inline, .inl rfl⟩
    · simp only [Span.stop, place, whole, List.length_append, if_true]
      omega

variable {body : Text}

/-- A line of a block comment has a range to itself, if it is documentation at all. -/
theorem exists_noteLine {front line back : Text}
    (whole : source = before ++ ['/', '*'] ++ (front ++ line ++ back) ++ ['*', '/'] ++ rest)
    (unclosed : ¬ ['*', '/'] <:+: front ++ line ++ back) (inline : '\n' ∉ line)
    (begins : front = [] ∨ front.getLast? = some '\n')
    (ends : back = [] ∨ back.head? = some '\n') :
    ∃ spans, List.Forall₂ (Span.Documents source) spans (noteLine line) ∧
      Ascending (before.length + 2 + front.length) spans
        (before.length + 2 + front.length + line.length + 1) := by
  rw [noteLine]
  split
  · exact ⟨[], .nil, .nil (by omega)⟩
  · have held : Span.text source ⟨before.length + 2 + front.length, line.length⟩ = line := by
      have split : source =
          before ++ ['/', '*'] ++ front ++ line ++ (back ++ ['*', '/'] ++ rest) := by
        rw [whole]
        simp only [List.append_assoc]
      have behind : (before ++ ['/', '*'] ++ front).length = before.length + 2 + front.length := by
        simp only [List.length_append, List.length_cons, List.length_nil]
      rw [← behind]
      exact Span.text_of_append split
    refine ⟨[⟨before.length + 2 + front.length, line.length⟩], .cons (.inr ⟨?_, by rw [held]⟩) .nil,
      .singleton (Nat.le_refl _) (Nat.lt_succ_self _)⟩
    refine ⟨before, front, back, rest, ?_⟩
    rw [held]
    exact ⟨whole, rfl, unclosed, inline, begins, ends⟩

/-- The lines of a block comment have ranges that follow each other. -/
theorem exists_noteLines {front remaining : Text}
    (whole : source = before ++ ['/', '*'] ++ body ++ ['*', '/'] ++ rest)
    (unclosed : ¬ ['*', '/'] <:+: body) (shape : body = front ++ remaining)
    (begins : front = [] ∨ front.getLast? = some '\n') :
    ∃ spans, List.Forall₂ (Span.Documents source) spans (commentLines remaining) ∧
      Ascending (before.length + 2 + front.length) spans (before.length + 2 + body.length + 1) := by
  -- The induction is along the lines, with those already gone through in front.
  induction remaining using Text.lines_induction generalizing front with
  | single line inline =>
    obtain rfl : body = front ++ line ++ [] := by simpa using shape
    rw [commentLines_of_notMem inline]
    obtain ⟨spans, docs, ascending⟩ := exists_noteLine whole unclosed inline begins (.inl rfl)
    exact ⟨spans, docs, ascending.mono (by simp; omega)⟩
  | more line remaining inline ih =>
    obtain rfl : body = front ++ line ++ '\n' :: remaining := by simpa using shape
    obtain ⟨spans, docs, ascending⟩ := exists_noteLine whole unclosed inline begins (.inr rfl)
    have split : front ++ line ++ '\n' :: remaining = front ++ line ++ ['\n'] ++ remaining := by
      simp
    obtain ⟨later, docs', ascending'⟩ := ih split (.inr (by simp))
    rw [commentLines_append_newline inline]
    refine ⟨spans ++ later, List.rel_append docs docs', ascending.append ?_⟩
    simpa [Nat.add_assoc] using ascending'

/-- The lines of a block comment have ranges that follow each other. -/
theorem exists_note (whole : source = before ++ ['/', '*'] ++ body ++ ['*', '/'] ++ rest)
    (unclosed : ¬ ['*', '/'] <:+: body) :
    ∃ spans, List.Forall₂ (Span.Documents source) spans (commentLines body) ∧
      Ascending before.length spans (place source rest) := by
  obtain ⟨spans, docs, ascending⟩ :=
    exists_noteLines whole unclosed (List.nil_append body).symm (.inl rfl)
  have through := length_le_place whole
  simp only [List.length_append, List.length_cons, List.length_nil] at through ascending
  have begins : Ascending before.length [] (before.length + 2 + 0) := .nil (by omega)
  exact ⟨spans, docs, (begins.append ascending).mono (by omega)⟩

/-- The comments that follow a statement have ranges that follow each other. -/
theorem Tail.Reads.documented {after : Text} {tail : Tail} (read : Tail.Reads after tail)
    (whole : source = before ++ after) :
    ∃ spans, List.Forall₂ (Span.Documents source) spans tail.docs ∧
      Ascending before.length spans (place source tail.rest) := by
  have shape : source = before ++ tail.through ++ tail.rest := by
    rw [whole, tail?_append (tail?_eq_some_iff.mpr read), List.append_assoc]
  have nothing : Ascending before.length [] (place source tail.rest) := by
    have through := length_le_place shape
    rw [List.length_append] at through
    exact .nil (by omega)
  cases read with
  | brace => exact ⟨[], .nil, nothing⟩
  | @remark value rest found =>
    have opened : source = before ++ value ++ ['/', '/'] ++ rest := by
      rw [whole, (Token.next?_append found).1]
      simp [Token.lexeme]
    obtain ⟨span, doc, ascending⟩ := exists_remark opened
    exact ⟨[span], .cons doc .nil, ascending.of_append⟩
  | @noteRemark value opened body closed gap rest found cut further =>
    obtain ⟨rfl, unclosed⟩ := Text.cut_eq_some_iff.mp cut
    have noted : source = before ++ value ++ ['/', '*'] ++ body ++ ['*', '/'] ++ closed := by
      rw [whole, (Token.next?_append found).1]
      simp [Token.lexeme]
    have remarked : source =
        before ++ value ++ ['/', '*'] ++ body ++ ['*', '/'] ++ gap ++ ['/', '/'] ++ rest := by
      rw [noted, (Token.next?_append further).1]
      simp [Token.lexeme]
    obtain ⟨spans, docs, ascending⟩ := exists_note noted (Text.clear_pair_iff.mp unclosed).1
    obtain ⟨span, doc, ascending'⟩ := exists_remark remarked
    -- The line comment is found behind the block comment.
    have more : closed ≠ [] := by
      rintro rfl
      cases further
    rw [place_eq_length noted more] at ascending
    exact ⟨spans ++ [span], List.rel_append docs (.cons doc .nil),
      (ascending.append ascending'.of_append).of_append⟩
  | @note value opened body closed found cut other =>
    obtain ⟨rfl, unclosed⟩ := Text.cut_eq_some_iff.mp cut
    have noted : source = before ++ value ++ ['/', '*'] ++ body ++ ['*', '/'] ++ closed := by
      rw [whole, (Token.next?_append found).1]
      simp [Token.lexeme]
    obtain ⟨spans, docs, ascending⟩ := exists_note noted (Text.clear_pair_iff.mp unclosed).1
    exact ⟨spans, docs, ascending.of_append⟩
  | plain => exact ⟨[], .nil, nothing⟩

/-! ### Entries and their ranges -/

/-- The ranges of an entry: those of the comments in front of its name, of the name, and of the
comments behind it. -/
structure Origin where
  leading : List Span
  name : Span
  trailing : List Span

namespace Origin

/-- The ranges of an entry in order. -/
def spans (origin : Origin) : List Span :=
  origin.leading ++ origin.name :: origin.trailing

/-- An entry is made of what stands in its ranges. -/
structure Accounts (source : Text) (origin : Origin) (entry : Entry) : Prop where
  name : origin.name.IsName source
  identifier : entry.identifier = trim (origin.name.text source)
  constant : entry.constant = ConstantName.ofIdentifier entry.identifier
  docs : List.Forall₂ (Span.Documents source) (origin.leading ++ origin.trailing) entry.docs

end Origin

namespace Cursor

variable {cursor next : Cursor} {met : Option Entry} {start : Nat} {leading : List Span}

/-- A cursor is in a source, and the lines of comments that wait for an entry are those of ranges
that follow each other up to it. -/
structure Located (source : Text) (start : Nat) (leading : List Span) (cursor : Cursor) : Prop where
  within : cursor.rest <:+ source
  docs : List.Forall₂ (Span.Documents source) leading cursor.pending
  ascending : Ascending start leading (place source cursor.rest)

namespace Located

/-- In front of a token, the text that was read ends where the scan goes on. -/
private theorem exists_read (located : Located source start leading cursor) {before after : Text}
    {token : Token}
    (found : Token.next? (fun _ => true) cursor.rest = some (before, token, after)) :
    ∃ read, source = read ++ before ++ token.lexeme ++ after ∧
      Ascending start leading read.length := by
  obtain ⟨read, whole⟩ := located.within
  have rest := (Token.next?_append found).1
  have more : cursor.rest ≠ [] := by
    have := token.lexeme_length_pos
    rintro empty
    rw [empty] at rest
    have lengths := congrArg List.length rest
    simp only [List.length_append, List.length_nil] at lengths
    omega
  have ascending := located.ascending
  rw [place_eq_length whole.symm more] at ascending
  exact ⟨read, by rw [← whole, rest]; simp, ascending⟩

/-- What a statement leaves is the end of the source, and the comments behind its sign have ranges
that follow each other. -/
private theorem exists_trailing {before after : Text} {tail : Tail}
    (located : Located source start leading cursor)
    (found : Token.next? (fun _ => true) cursor.rest = some (before, .assign, after))
    (taken : Tail.Reads after tail) :
    ∃ read trailing, source = read ++ before ++ '=' :: after ∧ Ascending start leading read.length ∧
      List.Forall₂ (Span.Documents source) trailing tail.docs ∧
      Ascending (read.length + before.length + 1) trailing (place source tail.rest) ∧
      tail.rest <:+ source := by
  obtain ⟨read, whole, ascending⟩ := located.exists_read found
  obtain ⟨trailing, docs, behind⟩ := taken.documented whole
  rw [List.length_append, List.length_append] at behind
  refine ⟨read, trailing, by simpa [Token.lexeme] using whole, ascending, docs, behind, ?_⟩
  rw [whole, tail?_append (tail?_eq_some_iff.mpr taken), ← List.append_assoc]
  exact List.suffix_append ..

/-- A step without an entry keeps track of the ranges that wait for one. -/
theorem advances_none (located : Located source start leading cursor)
    (advance : Advances cursor none next) : ∃ leading', Located source start leading' next := by
  cases advance with
  | @lineEnd before rest found =>
    obtain ⟨read, whole, ascending⟩ := located.exists_read found
    refine ⟨leading, ⟨_, whole.symm⟩, located.docs, ascending.mono ?_⟩
    have through := length_le_place whole
    rw [List.length_append, List.length_append] at through
    dsimp only
    omega
  | @lineComment before rest found =>
    obtain ⟨read, whole, ascending⟩ := located.exists_read found
    obtain ⟨span, doc, ascending'⟩ := exists_remark whole
    have split : source = read ++ before ++ ['/', '/'] ++ (Text.throughLine rest).1 ++
        (Text.throughLine rest).2 := by
      rw [List.append_assoc, Text.throughLine_append]
      exact whole
    exact ⟨leading ++ [span], ⟨_, split.symm⟩, List.rel_append located.docs (.cons doc .nil),
      ascending.append ascending'.of_append⟩
  | @blockComment before rest body closed found cut =>
    obtain ⟨read, whole, ascending⟩ := located.exists_read found
    obtain ⟨rfl, unclosed⟩ := Text.cut_eq_some_iff.mp cut
    have noted : source = read ++ before ++ ['/', '*'] ++ body ++ ['*', '/'] ++ closed := by
      simpa [Token.lexeme] using whole
    obtain ⟨spans, docs, ascending'⟩ := exists_note noted (Text.clear_pair_iff.mp unclosed).1
    exact ⟨leading ++ spans, ⟨_, noted.symm⟩, List.rel_append located.docs docs,
      ascending.append ascending'.of_append⟩
  | @option before after tail found taken _ =>
    -- The ranges that waited are dropped with the option.
    obtain ⟨read, trailing, -, ascending, -, behind, within⟩ := located.exists_trailing found taken
    refine ⟨[], within, .nil, .nil ?_⟩
    have := ascending.le
    have := behind.le
    dsimp only
    omega

/-- A step to an entry takes all ranges that wait for it, and finds the others that it has. -/
theorem advances_some {entry : Entry} (located : Located source start leading cursor)
    (advance : Advances cursor (some entry) next) :
    ∃ origin : Origin, origin.Accounts source entry ∧
      Ascending start origin.spans (place source next.rest) ∧
      Located source (place source next.rest) [] next := by
  cases advance with
  | @entry before after tail found taken named other =>
    obtain ⟨read, trailing, whole, ascending, docs, behind, within⟩ :=
      located.exists_trailing found taken
    have held := Span.text_of_append whole
    refine ⟨⟨leading, ⟨read.length, before.length⟩, trailing⟩, ⟨?_, ?_, rfl, ?_⟩, ?_, within, .nil,
      .nil (Nat.le_refl _)⟩
    · simp [Span.IsName, Span.stop, whole]
    · rw [held]
      rfl
    · exact List.rel_append located.docs docs
    · exact ascending.append (.cons (Nat.le_refl _) behind)

/-- The entries of a scan have ranges that follow each other, behind the place where it begins. -/
theorem origins_of_scan (located : Located source start leading cursor) :
    ∃ origins : List Origin,
      List.Forall₂ (Origin.Accounts source) origins
        (cursor.scan.events.filterMap Event.toEntry) ∧
      Ascending start (origins.flatMap Origin.spans) (source.length + 1) := by
  have bound := (located.ascending.mono place_le).le
  -- Each step that delivers an entry adds its ranges behind those of the entries before it.
  induction cursor using scan.induct generalizing start leading with
  | case1 cursor done =>
    rw [scan_of_closed done]
    exact ⟨[], .nil, .nil bound⟩
  | case2 cursor fault done =>
    rw [scan_of_failed done]
    exact ⟨[], .nil, .nil bound⟩
  | case3 cursor next done ih =>
    obtain ⟨leading', located'⟩ := located.advances_none (step_eq_advanced_iff.mp done)
    rw [scan_of_advanced done]
    exact ih located' bound
  | case4 cursor entry next done ih =>
    obtain ⟨origin, accounts, ascending, located'⟩ :=
      located.advances_some (step_eq_advanced_iff.mp done)
    obtain ⟨origins, all, ascending'⟩ := ih located' place_le
    rw [scan_of_advanced done]
    exact ⟨origin :: origins, .cons accounts all, ascending.append ascending'⟩

end Located

end Cursor

/-- What is related to a list has something in it to be related to. -/
private theorem exists_related {α β : Type} {R : α → β → Prop} {xs : List α} {ys : List β} {y : β}
    (related : List.Forall₂ R xs ys) (there : y ∈ ys) : ∃ x, R x y := by
  obtain ⟨i, bound, rfl⟩ := List.getElem_of_mem there
  exact ⟨_, related.get (related.length_eq ▸ bound) bound⟩

/-- The entries of an enum have ranges that follow each other behind the opening brace of its
block. -/
theorem exists_ascending_origins {enum source body : Text} {line : Nat}
    (opened : opening enum source = .ok (line, body)) : ∃ front, source = front ++ '{' :: body ∧
      ∃ origins : List Origin,
        List.Forall₂ (Origin.Accounts source) origins
          ((scan enum source).events.filterMap Event.toEntry) ∧
        Ascending (front.length + 1) (origins.flatMap Origin.spans) (source.length + 1) := by
  obtain ⟨front, whole, -⟩ := exists_front_of_opening opened
  have whole' : source = front ++ ['{'] ++ body := by simp [whole]
  have begins : Cursor.Located source (front ++ ['{']).length [] ⟨line, body, []⟩ :=
    ⟨⟨_, whole'.symm⟩, .nil, .nil (length_le_place whole')⟩
  obtain ⟨origins, all, ascending⟩ := begins.origins_of_scan
  rw [List.length_append] at ascending
  rw [scan, opened]
  exact ⟨front, whole, origins, all, ascending⟩

/-- Each entry that is delivered has ranges in the source for its name and for its lines of
documentation, and all these ranges follow each other behind the opening brace of the block, in the
order of the entries and, for each entry, with the comments in front of its name, the name, and the
comments behind it in this order. In particular, the ranges of an entry all begin behind the name of
every entry before it. -/
theorem exists_origins (enum source : Text) : ∃ origins : List Origin,
    List.Forall₂ (Origin.Accounts source) origins
      ((scan enum source).events.filterMap Event.toEntry) ∧
    (origins.flatMap Origin.spans).Pairwise Span.Before ∧
    (∀ span ∈ origins.flatMap Origin.spans, span.stop ≤ source.length ∧
      ∃ line front body, opening enum source = .ok (line, body) ∧ source = front ++ '{' :: body ∧
        front.length < span.start) ∧
    origins.Pairwise fun earlier later => ∀ span ∈ later.spans, earlier.name.Before span := by
  cases opened : opening enum source with
  | error fault =>
    rw [scan, opened]
    exact ⟨[], .nil, .nil, by simp, .nil⟩
  | ok block =>
    obtain ⟨line, body⟩ := block
    obtain ⟨front, whole, origins, all, ascending⟩ := exists_ascending_origins opened
    refine ⟨origins, all, ascending.pairwise, fun span there => ?_, ?_⟩
    · obtain ⟨first, last⟩ := ascending.bounds there
      exact ⟨Nat.le_of_lt_succ last, line, front, body, rfl, whole, first⟩
    · refine (List.pairwise_flatMap.mp ascending.pairwise).2.imp fun before span there => ?_
      exact before _ (by simp [Origin.spans]) span there

/-- Each line of documentation of an entry is what a range of some comment holds. -/
theorem exists_documents {enum source : Text} {found : List Entry} {entry : Entry} {doc : Text}
    (read : entries enum source = .ok found) (delivered : entry ∈ found)
    (there : doc ∈ entry.docs) : ∃ span, Span.Documents source span doc := by
  obtain ⟨done, rfl⟩ := entries_eq_ok_iff.mp read
  cases opened : opening enum source with
  | error fault =>
    rw [scan, opened] at done
    cases done
  | ok block =>
    obtain ⟨-, -, origins, all, -⟩ := exists_ascending_origins opened
    obtain ⟨origin, accounts⟩ := exists_related all delivered
    exact exists_related accounts.docs there

end EnumBindings.Block
