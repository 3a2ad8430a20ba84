import EnumBindings.Block.Header
import EnumBindings.Block.Token
import EnumBindings.Entry
import EnumBindings.Text.Blank

/-!
# Scanning an enum block

The block of an enum is read from its opening brace on, without a grammar: the scan goes from
token to token and collects the lines of comments until the entry that they document shows up. The
comments that follow an entry on its own line belong to that entry as well.

## Main definitions

* `Cursor` — how far a scan has come
* `Cursor.step` — reading one token, with all that it brings along
* `scan` — the events of the whole scan, and how it ends
* `entries` — the entries of an enum, or the fault for which its block cannot be read

## Main results

* `Cursor.step_shortens` — each step that goes on leaves less to read
-/

namespace EnumBindings.Block

/-- How far the scan of a block has come: the line that it is on, what is left to read, and the
lines of comments that wait for an entry. -/
structure Cursor where
  line : Nat
  rest : Text
  pending : List Text

/-- What one step of a scan does. -/
inductive Step where
  /-- The closing brace is reached. -/
  | closed
  /-- The block cannot be read on. -/
  | failed (fault : Fault)
  /-- The scan goes on, having met an entry or not. -/
  | advanced (met : Option Entry) (next : Cursor)

/-- What the scan of a block reports. -/
inductive Event where
  | entry (entry : Entry)
  | finished
  deriving DecidableEq, Repr

/-- The events of a scan, and how it ended. -/
structure Scan where
  events : List Event
  result : Except Fault Unit

/-- The lines of a block comment: each without surrounding blanks and without one leading star;
a line of which nothing is left is dropped. -/
def commentLines (body : Text) : List Text :=
  (body.splitOn '\n').map unstarred |>.filter (· ≠ [])
where
  /-- A line without surrounding blanks and without one leading star. -/
  unstarred (line : Text) : Text :=
    match trim line with
    | '*' :: rest => trim rest
    | text => text

/-- Whether a statement is an option: the word `option` followed by a blank. -/
def isOption (statement : Text) : Bool :=
  match Text.stripPrefix? "option".toList statement with
  | some (c :: _) => isBlank c
  | _ => false

/-- What follows the `=` of a statement: the comments that belong to it, the text that is read
with it, and the text where the scan goes on. -/
structure Tail where
  docs : List Text
  through : Text
  rest : Text

/-- The tail of a statement. It is the rest of its line, with the first comment there. A closing
brace in front of any comment ends it early; a block comment may take it over several lines, and
then only a line comment that follows at once, with no closing brace in between, is read with it.
There is none if the block comment is not closed. -/
def tail? (after : Text) : Option Tail :=
  match Token.next? (· ≠ .assign) after with
  | some (before, .closeBrace, rest) => some ⟨[], before, '}' :: rest⟩
  | some (before, .lineComment, rest) =>
    let (line, rest) := Text.throughLine rest
    some ⟨[trim line], before ++ ['/', '/'] ++ line, rest⟩
  | some (before, .blockComment, rest) =>
    match Text.cut ['*', '/'] rest with
    | none => none
    | some (body, rest) =>
      let through := before ++ ['/', '*'] ++ body ++ ['*', '/']
      match Token.next? (fun token => token ≠ .assign && token ≠ .blockComment) rest with
      | some (gap, .lineComment, rest) =>
        let (line, rest) := Text.throughLine rest
        some ⟨commentLines body ++ [trim line], through ++ gap ++ ['/', '/'] ++ line, rest⟩
      | _ => some ⟨commentLines body, through, rest⟩
  | _ =>
    let (line, rest) := Text.throughLine after
    some ⟨[], line, rest⟩

/-- Reads on to the nearest token and takes in what belongs to it: a whole comment, or a whole
statement with the comments that follow it. An option is read like an entry, but then it and the
comments that were collected for it are dropped. -/
def Cursor.step (cursor : Cursor) : Step :=
  match Token.next? (fun _ => true) cursor.rest with
  | none => .failed (.noCloseBrace cursor.line)
  | some (_, .closeBrace, _) => .closed
  | some (_, .lineEnd, rest) => .advanced none ⟨cursor.line + 1, rest, cursor.pending⟩
  | some (_, .lineComment, rest) =>
    let (line, rest) := Text.throughLine rest
    .advanced none ⟨cursor.line + Text.newlines line, rest, cursor.pending ++ [trim line]⟩
  | some (_, .blockComment, rest) =>
    match Text.cut ['*', '/'] rest with
    | none => .failed (.openComment cursor.line)
    | some (body, rest) =>
      .advanced none
        ⟨cursor.line + Text.newlines body, rest, cursor.pending ++ commentLines body⟩
  | some (before, .assign, rest) =>
    let identifier := trim before
    if identifier = [] then .failed (.noIdentifier cursor.line)
    else
      match tail? rest with
      | none => .failed (.openComment cursor.line)
      | some tail =>
        let line := cursor.line + Text.newlines tail.through
        if isOption identifier then .advanced none ⟨line, tail.rest, []⟩
        else
          .advanced (some (Entry.ofIdentifier identifier (cursor.pending ++ tail.docs)))
            ⟨line, tail.rest, []⟩

/-- The tail of a statement and the rest make up the text. -/
theorem tail?_append {after : Text} {tail : Tail} (h : tail? after = some tail) :
    after = tail.through ++ tail.rest := by
  unfold tail? at h
  split at h
  next found =>
    cases h
    simpa [Token.lexeme] using (Token.next?_append found).1
  next before rest found =>
    cases h
    have whole := (Token.next?_append found).1
    rw [← Text.throughLine_append rest] at whole
    simpa [Token.lexeme] using whole
  next before rest found =>
    have whole := (Token.next?_append found).1
    split at h
    next => simp at h
    next body rest' closed =>
      have inner := Text.cut_eq_some closed
      split at h
      next gap rest'' found' =>
        cases h
        have further := (Token.next?_append found').1
        rw [← Text.throughLine_append rest''] at further
        rw [whole, inner, further]
        simp [Token.lexeme]
      next =>
        cases h
        rw [whole, inner]
        simp [Token.lexeme]
  next =>
    cases h
    exact (Text.throughLine_append after).symm

/-- Each step that goes on leaves less to read. -/
theorem Cursor.step_shortens {cursor next : Cursor} {met : Option Entry}
    (h : cursor.step = .advanced met next) : next.rest.length < cursor.rest.length := by
  unfold Cursor.step at h
  split at h
  next => simp at h
  next => simp at h
  next found =>
    cases h
    exact Token.length_next? found
  next rest found =>
    cases h
    exact Nat.lt_of_le_of_lt (Text.length_throughLine_snd rest) (Token.length_next? found)
  next rest found =>
    have shorter := Token.length_next? found
    split at h
    next => simp at h
    next body rest' closed =>
      cases h
      have := Text.length_of_cut closed
      dsimp only
      omega
  next before rest found =>
    have shorter := Token.length_next? found
    dsimp only at h
    split at h
    · simp at h
    · split at h
      next => simp at h
      next tail taken =>
        have whole := congrArg List.length (tail?_append taken)
        simp only [List.length_append] at whole
        split at h <;> (cases h; dsimp only; omega)

/-- The events of the scan from a cursor on, and how it ends. -/
def Cursor.scan (cursor : Cursor) : Scan :=
  match _step : cursor.step with
  | .closed => ⟨[.finished], .ok ()⟩
  | .failed fault => ⟨[], .error fault⟩
  | .advanced none next => next.scan
  | .advanced (some entry) next =>
    let later := next.scan
    ⟨.entry entry :: later.events, later.result⟩
termination_by cursor.rest.length
decreasing_by all_goals exact Cursor.step_shortens _step

/-- The events of the scan of a named enum in a source, and how it ends. -/
def scan (enum source : Text) : Scan :=
  match opening enum source with
  | .error fault => ⟨[], .error fault⟩
  | .ok (line, body) => Cursor.scan ⟨line, body, []⟩

/-- The entry of an event, if it is one. -/
def Event.toEntry : Event → Option Entry
  | .entry found => some found
  | .finished => none

/-- The entries of a named enum in a source; none of them if the block cannot be read to its
end. -/
def entries (enum source : Text) : Except Fault (List Entry) :=
  let done := scan enum source
  done.result.map fun _ => done.events.filterMap Event.toEntry

end EnumBindings.Block
