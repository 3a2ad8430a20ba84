import EnumBindings.Proofs.Block.Offset.Header
import EnumBindings.Proofs.Block.Offset.Tail
import Mathlib.Logic.Relation

/-!
# The scan of an enum by offsets

The block of an enum is read by a loop that keeps an offset. Each move looks for the nearest token
from the offset on, takes slices of the source at the offsets that it finds, and sets the offset to
one of them. Such a slice might be missing and the loop might stand still. Neither happens: the loop
is always where the scan of the block is, so that the offset is one of the source, and each move
that goes on sets a greater one.

## Main definitions

* `Reader`, `Move` — how far the loop has come, and what a move of it does
* `Reader.move?`, `Reader.run?` — one move, and the whole loop
* `Reader.Leads` — from one reader to the next
* `Reader.Follows` — a reader is where a cursor is
* `blockStart?`, `scanByOffset?` — where the loop begins, and all of the scan

## Main results

* `Reader.Follows.exists_move?` — a move is a step
* `Reader.run?_of_follows` — the loop is the scan of the block
* `Reader.exists_move?` — at each offset there is a move, and it leads to a greater one
* `Reader.isOffset_of_moves` — the loop comes to offsets only
* `scanByOffset?_progress` — the scan comes to an end with no slice missing
-/

namespace EnumBindings.Block

open Text (size IsOffset lineOf lineStop nextLine)

variable {enum source read : Text} {cursor cursor' : Cursor} {met : Option Entry} {fault : Fault}

/-- How far a loop over the tokens of a block has come: its offset, and the lines of comments that
wait for an entry. -/
structure Reader where
  offset : Nat
  pending : List Text

/-- What a move of a loop over the tokens of a block does. -/
inductive Move where
  /-- The closing brace is reached. -/
  | closed
  /-- The block cannot be read on. -/
  | failed (fault : Fault)
  /-- The loop goes on, having met an entry or not. -/
  | advanced (met : Option Entry) (next : Reader)

namespace Reader

variable {reader next : Reader}

/-! ### One move -/

/-- Reads the statement from the offset of a reader to its sign, and the tail of it. -/
def statement? (source : Text) (reader : Reader) (sign : Nat) : Option Move :=
  (Text.slice? source reader.offset sign).bind fun name =>
    let identifier := trim name
    if identifier = [] then some (.failed (.noIdentifier (lineOf source sign)))
    else
      (tailAt? source sign).map fun
        | .error fault => .failed fault
        | .ok (docs, stop) =>
          if isOption identifier then .advanced none ⟨stop, []⟩
          else
            .advanced (some (Entry.ofIdentifier identifier (reader.pending ++ docs))) ⟨stop, []⟩

/-- Reads on to the nearest token and takes in what belongs to it. Nothing is returned if a slice of
the source is taken that there is not. -/
def move? (source : Text) (reader : Reader) : Option Move :=
  match Token.nearest? Token.table source reader.offset with
  | none => some (.failed (.noCloseBrace (lineOf source reader.offset)))
  | some (.closeBrace, _) => some .closed
  | some (.assign, sign) => reader.statement? source sign
  | some (.lineComment, opener) =>
    (remarkAt? source opener (lineStop source opener)).map fun doc =>
      .advanced none ⟨nextLine source opener, reader.pending ++ [doc]⟩
  | some (.blockComment, opener) =>
    (noteAt? source opener).map fun
      | .error fault => .failed fault
      | .ok (docs, stop) => .advanced none ⟨stop, reader.pending ++ docs⟩
  | some (.lineEnd, newline) => some (.advanced none ⟨newline + 1, reader.pending⟩)

/-! ### Moves and steps -/

section Step

variable {rest before after : Text} {pending : List Text} {token : Token}

/-- The nearest token is where a step reads to. -/
theorem nearest?_of_next? (read : Text)
    (found : Token.next? (fun _ => true) rest = some (before, token, after)) :
    Token.nearest? Token.table (read ++ rest) (size read) = some (token, size (read ++ before)) ∧
      read ++ rest = read ++ before ++ (token.lexeme ++ after) := by
  constructor
  · rw [Token.nearest?_append_of_perm (.refl _), found, Option.map_some, Text.size_append]
  · rw [(Token.next?_append found).1, List.append_assoc, List.append_assoc]

/-- A line comment is read up to the end of its line. -/
theorem move?_of_lineComment (read : Text)
    (found : Token.next? (fun _ => true) rest = some (before, .lineComment, after)) :
    (⟨size read, pending⟩ : Reader).move? (read ++ rest) =
      some (.advanced none ⟨size (read ++ (before ++ ['/', '/'] ++ (Text.throughLine after).1)),
        pending ++ [trim (Text.throughLine after).1]⟩) := by
  obtain ⟨nearest, whole⟩ := nearest?_of_next? read found
  have next : nextLine (read ++ rest) (size (read ++ before)) =
      size (read ++ (before ++ ['/', '/'] ++ (Text.throughLine after).1)) := by
    rw [Text.size_append]
    exact (nextLine_of_next? found rfl).2
  have doc : remarkAt? (read ++ rest) (size (read ++ before))
      (lineStop (read ++ rest) (size (read ++ before))) =
        some (trim (Text.throughLine after).1) := by
    rw [whole]
    exact remarkAt?_append
  rw [move?, nearest]
  simp only [doc, Option.map_some, next]

/-- A block comment is read up to its end. -/
theorem move?_of_blockComment (read : Text) {body behind : Text}
    (found : Token.next? (fun _ => true) rest = some (before, .blockComment, after))
    (closed : Text.cut ['*', '/'] after = some (body, behind)) :
    (⟨size read, pending⟩ : Reader).move? (read ++ rest) =
      some (.advanced none ⟨size (read ++ (before ++ ['/', '*'] ++ body ++ ['*', '/'])),
        pending ++ commentLines body⟩) := by
  obtain ⟨nearest, whole⟩ := nearest?_of_next? read found
  have note : noteAt? (read ++ rest) (size (read ++ before)) = some (.ok (commentLines body,
      size (read ++ before ++ ['/', '*'] ++ body ++ ['*', '/']))) := by
    rw [whole]
    exact noteAt?_of_closed closed
  rw [move?, nearest]
  simp only [note, Option.map_some, List.append_assoc]

/-- A statement is read from its name, which is the slice up to its sign, and from its tail. -/
theorem move?_of_assign (read : Text)
    (found : Token.next? (fun _ => true) rest = some (before, .assign, after)) :
    (⟨size read, pending⟩ : Reader).move? (read ++ rest) =
      if trim before = [] then some (.failed (.noIdentifier (1 + Text.newlines (read ++ before))))
      else (tailAt? (read ++ before ++ '=' :: after) (size (read ++ before))).map fun
        | .error fault => .failed fault
        | .ok (docs, stop) =>
          if isOption (trim before) then .advanced none ⟨stop, []⟩
          else
            .advanced (some (Entry.ofIdentifier (trim before) (pending ++ docs))) ⟨stop, []⟩ := by
  obtain ⟨nearest, whole⟩ := nearest?_of_next? read found
  have whole : read ++ rest = read ++ before ++ '=' :: after := whole
  have name : Text.slice? (read ++ before ++ '=' :: after) (size read) (size (read ++ before)) =
      some before := Text.slice?_append Text.size_append.symm rfl
  rw [move?, nearest]
  simp only [statement?, whole, name, Option.bind_some, Text.lineOf_append]

/-- A statement with a name and a tail is read up to the end of the tail. -/
theorem move?_of_reads (read : Text) {tail : Tail}
    (found : Token.next? (fun _ => true) rest = some (before, .assign, after))
    (taken : Tail.Reads after tail) (named : trim before ≠ []) :
    rest = before ++ '=' :: tail.through ++ tail.rest ∧
      (⟨size read, pending⟩ : Reader).move? (read ++ rest) =
        some (if isOption (trim before) then
          .advanced none ⟨size (read ++ (before ++ '=' :: tail.through)), []⟩
        else .advanced (some (Entry.ofIdentifier (trim before) (pending ++ tail.docs)))
          ⟨size (read ++ (before ++ '=' :: tail.through)), []⟩) := by
  constructor
  · rw [(Token.next?_append found).1, tail?_append (tail?_eq_some_iff.mpr taken)]
    simp [Token.lexeme]
  · rw [move?_of_assign read found, if_neg named, tailAt?_of_reads taken, Option.map_some,
      List.append_assoc read]

/-- A move goes on as a step does, to the offset of what the step leaves. -/
theorem exists_move?_of_advances (read : Text) (advance : Cursor.Advances cursor met cursor') :
    ∃ through, cursor.rest = through ++ cursor'.rest ∧
      (⟨size read, cursor.pending⟩ : Reader).move? (read ++ cursor.rest) =
        some (.advanced met ⟨size (read ++ through), cursor'.pending⟩) := by
  -- One case for each way in which a step goes on: what it reads, and the move that reads it.
  cases advance with
  | @lineEnd before rest found =>
    obtain ⟨nearest, -⟩ := nearest?_of_next? read found
    refine ⟨before ++ ['\n'], (Token.next?_append found).1, ?_⟩
    rw [move?, nearest, ← List.append_assoc, Text.size_append (t := ['\n'])]
    rfl
  | @lineComment before after found =>
    refine ⟨_, ?_, move?_of_lineComment read found⟩
    rw [(Token.next?_append found).1, List.append_assoc _ _ (Text.throughLine after).2,
      Text.throughLine_append]
    rfl
  | @blockComment before after body behind found closed =>
    refine ⟨_, ?_, move?_of_blockComment read found closed⟩
    rw [(Token.next?_append found).1, Text.cut_eq_some closed]
    simp [Token.lexeme]
  | @option before after tail found taken optional =>
    obtain ⟨whole, move⟩ := move?_of_reads read found taken (ne_nil_of_isOption optional)
    rw [if_pos optional] at move
    exact ⟨_, whole, move⟩
  | @entry before after tail found taken named entry =>
    obtain ⟨whole, move⟩ := move?_of_reads read found taken named
    rw [entry] at move
    exact ⟨_, whole, move⟩

/-- A move fails as a step does. -/
theorem move?_of_fails (line : cursor.line = 1 + Text.newlines read)
    (fails : Cursor.Fails cursor fault) :
    (⟨size read, cursor.pending⟩ : Reader).move? (read ++ cursor.rest) = some (.failed fault) := by
  -- In front of a token there is no newline, so a fault there is on the line of the cursor.
  have counted {before after : Text} {token : Token}
      (found : Token.next? (fun _ => true) cursor.rest = some (before, token, after)) :
      1 + Text.newlines (read ++ before) = cursor.line := by
    rw [Text.newlines_append, Text.newlines_of_notMem (Token.inline_of_next? found rfl),
      Nat.add_zero, line]
  cases fails with
  | noCloseBrace missing =>
    have nothing : Token.nearest? Token.table (read ++ cursor.rest) (size read) = none := by
      rw [Token.nearest?_append_of_perm (.refl _), missing, Option.map_none]
    rw [move?, nothing]
    simp only [Text.lineOf_append, line]
  | @openComment before after found unclosed =>
    obtain ⟨nearest, whole⟩ := nearest?_of_next? read found
    have note : noteAt? (read ++ cursor.rest) (size (read ++ before)) =
        some (.error (.openComment (1 + Text.newlines (read ++ before)))) := by
      rw [whole]
      exact noteAt?_of_unclosed unclosed
    rw [move?, nearest]
    simp only [note, Option.map_some, counted found]
  | noIdentifier found unnamed =>
    rw [move?_of_assign read found, if_pos unnamed, counted found]
  | openTail found named tailless =>
    rw [move?_of_assign read found, if_neg named, tailAt?_of_unclosed tailless, counted found,
      Option.map_some]

/-- A move closes as a step does. -/
theorem move?_of_closed (read : Text) (closed : cursor.step = .closed) :
    (⟨size read, cursor.pending⟩ : Reader).move? (read ++ cursor.rest) = some .closed := by
  obtain ⟨before, after, found⟩ := Cursor.step_eq_closed_iff.mp closed
  rw [move?, (nearest?_of_next? read found).1]

end Step

/-- A reader is where a cursor is: in front of the same text, on the same line, with the same lines
that wait. -/
def Follows (source : Text) (reader : Reader) (cursor : Cursor) : Prop :=
  ∃ read, source = read ++ cursor.rest ∧ cursor.line = 1 + Text.newlines read ∧
    reader = ⟨size read, cursor.pending⟩

/-- A reader that follows a cursor goes on following it. -/
theorem Follows.exists_move? (follows : Follows source reader cursor)
    (advanced : cursor.step = .advanced met cursor') :
    ∃ next, reader.move? source = some (.advanced met next) ∧ Follows source next cursor' := by
  obtain ⟨read, rfl, line, rfl⟩ := follows
  -- What the move reads is what the step reads, which says how many newlines are in it.
  have advance := Cursor.step_eq_advanced_iff.mp advanced
  obtain ⟨through, whole, move⟩ := exists_move?_of_advances read advance
  obtain ⟨through', whole', counted, -⟩ := advance.exists_read
  obtain rfl : through = through' := List.append_cancel_right (whole.symm.trans whole')
  refine ⟨_, move, read ++ through, ?_, ?_, rfl⟩
  · rw [whole, List.append_assoc]
  · rw [counted, line, Text.newlines_append, Nat.add_assoc]

/-- A reader that follows a cursor fails where it does. -/
theorem Follows.move?_of_failed (follows : Follows source reader cursor)
    (failed : cursor.step = .failed fault) : reader.move? source = some (.failed fault) := by
  obtain ⟨read, rfl, line, rfl⟩ := follows
  exact move?_of_fails line (Cursor.step_eq_failed_iff.mp failed)

/-- A reader that follows a cursor closes where it does. -/
theorem Follows.move?_of_closed (follows : Follows source reader cursor)
    (closed : cursor.step = .closed) : reader.move? source = some .closed := by
  obtain ⟨read, rfl, -, rfl⟩ := follows
  exact Reader.move?_of_closed read closed

/-- At each offset a reader follows some cursor. -/
theorem exists_follows (here : IsOffset source reader.offset) :
    ∃ cursor, Follows source reader cursor := by
  obtain ⟨read, rest, rfl, same⟩ := here
  refine ⟨⟨1 + Text.newlines read, rest, reader.pending⟩, read, rfl, rfl, ?_⟩
  rw [same]

/-- The offset of a reader that follows a cursor is one of the source. -/
theorem Follows.isOffset (follows : Follows source reader cursor) :
    IsOffset source reader.offset := by
  obtain ⟨read, rfl, -, rfl⟩ := follows
  exact Text.isOffset_size read cursor.rest

/-- The offset is the greater the less is left to read. -/
theorem Follows.lt_offset (follows : Follows source reader cursor)
    (follows' : Follows source next cursor') (shorter : cursor'.rest.length < cursor.rest.length) :
    reader.offset < next.offset := by
  obtain ⟨read, rfl, -, rfl⟩ := follows
  obtain ⟨read', whole, -, rfl⟩ := follows'
  have lengths := congrArg List.length whole
  simp only [List.length_append] at lengths
  have longer : ¬ size read' ≤ size read := by
    rw [Text.size_le_iff whole.symm]
    omega
  exact Nat.lt_of_not_le longer

/-! ### Going on -/

/-- At each offset a move is made, and if it goes on then to a greater offset. -/
theorem exists_move? (here : IsOffset source reader.offset) :
    ∃ move, reader.move? source = some move ∧
      ∀ met next, move = .advanced met next →
        reader.offset < next.offset ∧ IsOffset source next.offset := by
  obtain ⟨cursor, follows⟩ := exists_follows here
  cases step : cursor.step with
  | closed => exact ⟨_, follows.move?_of_closed step, fun met next other => by cases other⟩
  | failed fault => exact ⟨_, follows.move?_of_failed step, fun met next other => by cases other⟩
  | advanced met cursor' =>
    obtain ⟨next, move, follows'⟩ := follows.exists_move? step
    refine ⟨_, move, fun met' next' same => ?_⟩
    cases same
    exact ⟨follows.lt_offset follows' (Cursor.step_shortens step), follows'.isOffset⟩

/-- From an offset, a move that goes on leads to a greater offset. -/
theorem lt_and_isOffset_of_advanced (here : IsOffset source reader.offset)
    (move : reader.move? source = some (.advanced met next)) :
    reader.offset < next.offset ∧ IsOffset source next.offset := by
  obtain ⟨move', made, further⟩ := exists_move? here
  rw [move] at made
  exact further met next (Option.some.inj made).symm

/-- A move leads from one reader to the next. -/
def Leads (source : Text) (reader next : Reader) : Prop :=
  ∃ met, reader.move? source = some (.advanced met next)

/-- From an offset the loop comes to offsets only. -/
theorem isOffset_of_moves (here : IsOffset source reader.offset)
    (led : Relation.ReflTransGen (Leads source) reader next) : IsOffset source next.offset := by
  induction led with
  | refl => exact here
  | tail _ leads ih =>
    obtain ⟨met, move⟩ := leads
    exact (lt_and_isOffset_of_advanced ih move).2

/-- Where there is no offset nothing is found, so that no move goes on. -/
theorem isOffset_of_advanced (move : reader.move? source = some (.advanced met next)) :
    IsOffset source reader.offset := by
  by_contra elsewhere
  have nothing : Token.nearest? Token.table source reader.offset = none :=
    Token.nearest?_of_none fun _ _ => Text.seek?_of_not_isOffset elsewhere
  rw [move?, nothing] at move
  cases move

/-- Wherever a move goes on from, it leads further, and from inside the source. -/
theorem lt_of_advanced (move : reader.move? source = some (.advanced met next)) :
    reader.offset < next.offset ∧ reader.offset ≤ size source := by
  have here := isOffset_of_advanced move
  exact ⟨(lt_and_isOffset_of_advanced here move).1, here.le_size⟩

/-! ### The whole loop -/

/-- The events of the loop from a reader on, and how it ends. Nothing is returned if a slice of the
source is taken that there is not. -/
def run? (source : Text) (reader : Reader) : Option Scan :=
  match _move : reader.move? source with
  | none => none
  | some .closed => some ⟨[.finished], .ok ()⟩
  | some (.failed fault) => some ⟨[], .error fault⟩
  | some (.advanced none next) => next.run? source
  | some (.advanced (some entry) next) =>
    (next.run? source).map fun later => ⟨.entry entry :: later.events, later.result⟩
termination_by size source + 1 - reader.offset
decreasing_by
  -- This holds of every reader, also of one that the scan of a block never comes to.
  all_goals
    have := lt_of_advanced _move
    omega

/-- A loop that reaches the closing brace is done. -/
theorem run?_of_closed (move : reader.move? source = some .closed) :
    reader.run? source = some ⟨[.finished], .ok ()⟩ := by
  rw [run?]
  split <;> simp_all

/-- A loop that cannot go on reports the fault. -/
theorem run?_of_failed (move : reader.move? source = some (.failed fault)) :
    reader.run? source = some ⟨[], .error fault⟩ := by
  rw [run?]
  split <;> simp_all

/-- A loop that goes on reports what it meets, and then the rest. -/
theorem run?_of_advanced (move : reader.move? source = some (.advanced met next)) :
    reader.run? source = (next.run? source).map fun later =>
      ⟨met.toList.map .entry ++ later.events, later.result⟩ := by
  rw [run?]
  -- Of the branches of the loop only the two of a move that goes on are left.
  split <;> rename_i done <;> rw [move] at done <;> cases done
  · exact (Option.map_id_apply ..).symm
  · rfl

/-- The loop reports what the scan of the block does. -/
theorem run?_of_follows (follows : Follows source reader cursor) :
    reader.run? source = some cursor.scan := by
  -- The induction is along the scan, whose steps the moves follow.
  induction cursor using Cursor.scan.induct generalizing reader with
  | case1 cursor closed =>
    rw [run?_of_closed (follows.move?_of_closed closed), Cursor.scan_of_closed closed]
  | case2 cursor fault failed =>
    rw [run?_of_failed (follows.move?_of_failed failed), Cursor.scan_of_failed failed]
  | case3 cursor cursor' advanced ih =>
    obtain ⟨next, move, follows'⟩ := follows.exists_move? advanced
    rw [run?_of_advanced move, ih follows', Cursor.scan_of_advanced advanced, Option.map_some]
  | case4 cursor entry cursor' advanced ih =>
    obtain ⟨next, move, follows'⟩ := follows.exists_move? advanced
    rw [run?_of_advanced move, ih follows', Cursor.scan_of_advanced advanced, Option.map_some]

end Reader

/-! ### The scan of an enum -/

/-- The offset behind the brace that opens the block of an enum, or a fault. Nothing is returned if
a slice of the source is taken that there is not. -/
def blockStart? (enum source : Text) : Option (Except Fault Nat) :=
  (headerStop? (headerText enum) source 0).bind fun
    | none => some (.error .noHeader)
    | some stop => (Text.slice? source stop (size source)).map fun rest =>
      match Text.cut ['{'] rest with
      | none => .error (.noOpenBrace (lineOf source stop))
      | some (gap, _) => .ok (stop + size gap + 1)

/-- The events of the scan of a named enum by offsets, and how it ends. Nothing is returned if a
slice of the source is taken that there is not. -/
def scanByOffset? (enum source : Text) : Option Scan :=
  (blockStart? enum source).bind fun
    | .error fault => some ⟨[], .error fault⟩
    | .ok start => Reader.run? source ⟨start, []⟩

/-- Behind the first header, the offset is that of the brace that is found in the rest. -/
theorem blockStart?_of_header {through rest : Text}
    (found : header? enum source = some (through, rest)) :
    blockStart? enum source = some (match Text.cut ['{'] rest with
      | none => .error (.noOpenBrace (1 + Text.newlines through))
      | some (gap, _) => .ok (size through + size gap + 1)) := by
  have whole := header?_append found
  rw [blockStart?, headerStop?_eq, found, Option.map_some, Option.bind_some, whole]
  simp only [Text.slice?_after, Option.map_some, Text.lineOf_append]

/-- Where the block of an enum does not begin, it does not begin by offsets. -/
theorem blockStart?_of_error (unopened : opening enum source = .error fault) :
    blockStart? enum source = some (.error fault) := by
  unfold opening at unopened
  split at unopened
  next missing =>
    cases unopened
    rw [blockStart?, headerStop?_eq, missing, Option.map_none, Option.bind_some]
  next through rest found =>
    rw [blockStart?_of_header found]
    cases brace : Text.cut ['{'] rest with
    | none =>
      simp only [brace] at unopened
      cases unopened
      rfl
    | some found' =>
      simp only [brace] at unopened
      cases unopened

/-- Where the block of an enum begins, a reader behind its brace is at its text. -/
theorem exists_blockStart? {line : Nat} {body : Text}
    (opened : opening enum source = .ok (line, body)) :
    ∃ start, blockStart? enum source = some (.ok start) ∧
      Reader.Follows source ⟨start, []⟩ ⟨line, body, []⟩ := by
  unfold opening at opened
  split at opened
  next => cases opened
  next through rest found =>
    dsimp only at opened
    split at opened
    next => cases opened
    next gap body' brace =>
      cases opened
      refine ⟨size through + size gap + 1, ?_, through ++ gap ++ ['{'], ?_, ?_, ?_⟩
      · rw [blockStart?_of_header found, brace]
      · rw [header?_append found, Text.cut_eq_some brace]
        simp
      · have brace : Text.newlines ['{'] = 0 := rfl
        simp only [Text.newlines_append, brace, Nat.add_assoc, Nat.add_zero]
      · rw [Text.size_append, Text.size_append]
        rfl

/-- The block of an enum begins at an offset of the source. -/
theorem isOffset_of_blockStart? {start : Nat}
    (begun : blockStart? enum source = some (.ok start)) : IsOffset source start := by
  cases opened : opening enum source with
  | error fault =>
    rw [blockStart?_of_error opened] at begun
    cases begun
  | ok begun' =>
    obtain ⟨line, body⟩ := begun'
    obtain ⟨start', found, follows⟩ := exists_blockStart? opened
    rw [begun] at found
    cases found
    exact follows.isOffset

/-- The scan by offsets is the scan. -/
theorem scanByOffset?_eq (enum source : Text) :
    scanByOffset? enum source = some (scan enum source) := by
  rw [scanByOffset?, scan]
  cases opened : opening enum source with
  | error fault => rw [blockStart?_of_error opened, Option.bind_some]
  | ok begun =>
    obtain ⟨line, body⟩ := begun
    obtain ⟨start, found, follows⟩ := exists_blockStart? opened
    rw [found, Option.bind_some]
    exact Reader.run?_of_follows follows

/-- The scan of an enum by offsets comes to an end and takes no slice that there is not. There is a
slice of a source exactly between two offsets of which the first is not the greater one. Each round
of the search for the header begins at an offset of the source and takes such slices only, and the
next one begins behind it. At each offset that the loop over the tokens comes to, one of the source,
the move takes such slices only, and it ends the loop or sets a greater offset. What is reported is
what the scan reports. -/
theorem scanByOffset?_progress (enum source : Text) :
    (∀ start stop, (Text.slice? source start stop).isSome ↔
      start ≤ stop ∧ IsOffset source start ∧ IsOffset source stop) ∧
    (∀ start, Relation.ReflTransGen (Round.Leads (headerText enum) source) 0 start →
      IsOffset source start ∧ start ≤ size source ∧
        ∃ round, round? (headerText enum) source start = some round ∧
          ∀ next, round = .rejected next → start < next) ∧
    (∃ begun, blockStart? enum source = some begun) ∧
    (∀ first, blockStart? enum source = some (.ok first) →
      ∀ reader, Relation.ReflTransGen (Reader.Leads source) ⟨first, []⟩ reader →
        IsOffset source reader.offset ∧ reader.offset ≤ size source ∧
          ∃ move, reader.move? source = some move ∧
            ∀ met next, move = .advanced met next → reader.offset < next.offset) ∧
    scanByOffset? enum source = some (scan enum source) := by
  refine ⟨fun start stop => Text.isSome_slice?_iff, fun start led => ?_, ?_,
    fun first begun reader led => ?_, scanByOffset?_eq enum source⟩
  · have here := isOffset_of_rounds led
    obtain ⟨round, made, further⟩ := exists_round? enum here
    exact ⟨here, here.le_size, round, made, fun next rejected => (further next rejected).1⟩
  · cases opened : opening enum source with
    | error fault => exact ⟨_, blockStart?_of_error opened⟩
    | ok begun =>
      obtain ⟨start, found, -⟩ := exists_blockStart? opened
      exact ⟨_, found⟩
  · have here := Reader.isOffset_of_moves (isOffset_of_blockStart? begun) led
    obtain ⟨move, made, further⟩ := Reader.exists_move? here
    exact ⟨here, here.le_size, move, made, fun met next advanced => (further met next advanced).1⟩

/-- A comment on a last line that does not end takes the loop to the end of the source. -/
example : (⟨0, []⟩ : Reader).move? "ß // ö".toList = some (.advanced none ⟨8, ["ö".toList]⟩) := by
  rfl

end EnumBindings.Block
