import EnumBindings.Proofs.Block.Causes
import EnumBindings.Proofs.Block.Offset.Token

/-!
# Comments and tails of statements by offsets

What belongs to a statement is also found by searches from the offset of its sign: one for the end
of the line, one for a closing brace and one for each opener of a comment, of which those that find
something behind the end of the line count for nothing. The comments themselves are slices between
the offsets that are found. None of these slices is missing, and they give the tail that is read.

## Main definitions

* `remarkAt?`, `noteAt?` — the line comment and the block comment that open at an offset
* `seekBefore?`, `openerBefore?` — what is found in front of an offset
* `afterNote?` — the line comment behind a block comment
* `tailAt?` — the comments that belong to the statement with a sign at an offset

## Main results

* `remarkAt?_append`, `noteAt?_of_closed`, `noteAt?_of_unclosed` — comments and what is read
* `seekBefore?_of_next?`, `seekBefore?_of_plain` — what the searches find on a line
* `afterNote?_of_found`, `afterNote?_of_not_found` — what follows a block comment
* `tailAt?_of_reads`, `tailAt?_of_unclosed` — the tail of a statement
-/

namespace EnumBindings.Block

open Text (size seek? lineOf lineStop nextLine)

variable {source front rest body skipped opened behind gap after : Text} {needle : Text}
  {start stop place : Nat} {wanted : Token → Bool} {token : Token}

/-! ### Reading by offsets -/

/-- The text of the line comment that opens at an offset, on a line that ends at another one. Like
what follows, it is missing if a slice of the source is taken that there is not. -/
def remarkAt? (source : Text) (opener stop : Nat) : Option Text :=
  (Text.slice? source (opener + 2) stop).map trim

/-- The lines of the block comment that opens at an offset, and the offset behind its end. -/
def noteAt? (source : Text) (opener : Nat) : Option (Except Fault (List Text × Nat)) :=
  match seek? ['*', '/'] source (opener + 2) with
  | none => some (.error (.openComment (lineOf source opener)))
  | some closer => (Text.slice? source (opener + 2) closer).map fun body =>
    .ok (commentLines body, closer + 2)

/-- The first occurrence of a needle from an offset on, if it is in front of another offset. -/
def seekBefore? (needle source : Text) (start stop : Nat) : Option Nat :=
  (seek? needle source start).filter (· < stop)

/-- The first opener of a comment from an offset on and in front of another one. -/
def openerBefore? (source : Text) (start stop : Nat) : Option (Token × Nat) :=
  match seekBefore? ['/', '/'] source start stop, seekBefore? ['/', '*'] source start stop with
  | some line, some block =>
    if block < line then some (.blockComment, block) else some (.lineComment, line)
  | some line, none => some (.lineComment, line)
  | none, some block => some (.blockComment, block)
  | none, none => none

/-- The line comment behind a block comment that ends at an offset, unless a closing brace is in
front of it, and the offset behind what is read. -/
def afterNote? (source : Text) (start : Nat) : Option (List Text × Nat) :=
  let stop := lineStop source start
  match seekBefore? ['/', '/'] source start stop with
  | some opener =>
    if (seekBefore? ['}'] source start stop).all (opener < ·) then
      (remarkAt? source opener stop).map fun doc => ([doc], nextLine source opener)
    else some ([], start)
  | none => some ([], start)

/-- The comments that belong to the statement whose sign is at an offset, and the offset behind
what is read with them. -/
def tailAt? (source : Text) (sign : Nat) : Option (Except Fault (List Text × Nat)) :=
  let stop := lineStop source sign
  let comment := openerBefore? source sign stop
  let brace := (seekBefore? ['}'] source sign stop).filter fun brace => comment.all (brace < ·.2)
  match brace, comment with
  | some brace, _ => some (.ok ([], brace))
  | none, some (.lineComment, opener) =>
    (remarkAt? source opener stop).map fun doc => .ok ([doc], nextLine source sign)
  | none, some (_, opener) =>
    (noteAt? source opener).bind fun
      | .error fault => some (.error fault)
      | .ok (docs, after) => (afterNote? source after).map fun more => .ok (docs ++ more.1, more.2)
  | none, none => some (.ok ([], nextLine source sign))

/-! ### Comments -/

/-- From an offset to the end of its line there is the first line of the rest. -/
theorem slice?_line : (Text.slice? (front ++ rest) (size front)
    (lineStop (front ++ rest) (size front))).map trim = some (trim (Text.throughLine rest).1) := by
  rcases Text.exists_line rest with ⟨line, below, inline, rfl⟩ | inline
  · have slice : Text.slice? (front ++ (line ++ '\n' :: below)) (size front)
        (size (front ++ line)) = some line := by
      rw [← List.append_assoc]
      exact Text.slice?_append Text.size_append.symm rfl
    rw [Text.lineStop_append_newline inline, slice, Text.throughLine_append_newline inline,
      Option.map_some, trim_append_blank isBlank_newline]
  · rw [Text.lineStop_of_notMem inline, Text.slice?_after, Text.throughLine_of_notMem inline,
      Option.map_some]

/-- A line comment is read up to the end of its line. -/
theorem remarkAt?_append : remarkAt? (front ++ (['/', '/'] ++ rest)) (size front)
    (lineStop (front ++ (['/', '/'] ++ rest)) (size front)) =
      some (trim (Text.throughLine rest).1) := by
  have inline : '\n' ∉ ['/', '/'] := by decide
  have opener : size front + 2 = size (front ++ ['/', '/']) :=
    (Text.size_append (t := ['/', '/'])).symm
  rw [remarkAt?, Text.lineStop_of_inline inline, opener, ← List.append_assoc, slice?_line]

/-- A block comment is read up to where it is closed. -/
theorem noteAt?_of_closed (closed : Text.cut ['*', '/'] opened = some (body, rest)) :
    noteAt? (front ++ (['/', '*'] ++ opened)) (size front) =
      some (.ok (commentLines body, size (front ++ ['/', '*'] ++ body ++ ['*', '/']))) := by
  have opener : size front + 2 = size (front ++ ['/', '*']) :=
    (Text.size_append (t := ['/', '*'])).symm
  have closer : size (front ++ ['/', '*']) + size body + 2 =
      size (front ++ ['/', '*'] ++ body ++ ['*', '/']) := by
    rw [Text.size_append (t := ['*', '/']), Text.size_append (t := body)]
    rfl
  have slice : Text.slice? (front ++ ['/', '*'] ++ opened) (size (front ++ ['/', '*']))
      (size (front ++ ['/', '*']) + size body) = some body := by
    rw [Text.cut_eq_some closed, List.append_assoc body, ← List.append_assoc]
    exact Text.slice?_append rfl rfl
  rw [noteAt?, opener, ← List.append_assoc, Text.seek?_append, closed, Option.map_some]
  simp only [slice, Option.map_some, closer]

/-- A block comment that is not closed is a fault on the line on which it opens. -/
theorem noteAt?_of_unclosed (unclosed : Text.cut ['*', '/'] opened = none) :
    noteAt? (front ++ (['/', '*'] ++ opened)) (size front) =
      some (.error (.openComment (1 + Text.newlines front))) := by
  have opener : size front + 2 = size (front ++ ['/', '*']) :=
    (Text.size_append (t := ['/', '*'])).symm
  have missing : seek? ['*', '/'] (front ++ (['/', '*'] ++ opened)) (size front + 2) = none := by
    rw [opener, ← List.append_assoc, Text.seek?_append, unclosed, Option.map_none]
  rw [noteAt?, missing, Text.lineOf_append]

/-! ### What is in front of an offset -/

/-- What is only found behind an offset is not found in front of it. -/
theorem seekBefore?_of_le
    (later : ∀ place, seek? needle source start = some place → stop ≤ place) :
    seekBefore? needle source start stop = none := by
  rw [seekBefore?, Option.filter_eq_none_iff]
  intro place found before
  have := later place found
  have := of_decide_eq_true before
  omega

/-- What is found in front of an offset is found there. -/
theorem seekBefore?_of_lt (found : seek? needle source start = some place) (before : place < stop) :
    seekBefore? needle source start stop = some place := by
  rw [seekBefore?, found, Option.filter_some, if_pos (decide_eq_true before)]

theorem seek?_of_seekBefore? (h : seekBefore? needle source start stop = some place) :
    seek? needle source start = some place :=
  (Option.filter_eq_some_iff.mp h).1

/-- An opener is the first one if it is the only one or the other is behind it. -/
theorem openerBefore?_of_lineComment
    (line : seekBefore? ['/', '/'] source start stop = some place)
    (block : ∀ other, seekBefore? ['/', '*'] source start stop = some other → place < other) :
    openerBefore? source start stop = some (.lineComment, place) := by
  unfold openerBefore?
  rw [line]
  cases found : seekBefore? ['/', '*'] source start stop with
  | none => rfl
  | some other =>
    have := block other found
    exact if_neg (by omega)

theorem openerBefore?_of_blockComment
    (block : seekBefore? ['/', '*'] source start stop = some place)
    (line : ∀ other, seekBefore? ['/', '/'] source start stop = some other → place < other) :
    openerBefore? source start stop = some (.blockComment, place) := by
  unfold openerBefore?
  rw [block]
  cases found : seekBefore? ['/', '/'] source start stop with
  | none => rfl
  | some other => exact if_pos (line other found)

/-- The first opener is behind a place if all openers are. -/
theorem lt_of_openerBefore? {found : Token × Nat}
    (line : ∀ other, seekBefore? ['/', '/'] source start stop = some other → place < other)
    (block : ∀ other, seekBefore? ['/', '*'] source start stop = some other → place < other)
    (first : openerBefore? source start stop = some found) : place < found.2 := by
  unfold openerBefore? at first
  split at first
  next isLine isBlock =>
    split at first
    · cases first
      exact block _ isBlock
    · cases first
      exact line _ isLine
  next isLine _ =>
    cases first
    exact line _ isLine
  next _ isBlock =>
    cases first
    exact block _ isBlock
  next => cases first

/-! ### What is on the line of an offset -/

/-- A token that is read to, and is not the end of the line, is in front of that end. -/
theorem lt_lineStop (found : Token.next? wanted rest = some (skipped, token, behind))
    (lineEnd : wanted .lineEnd = true) (inside : token ≠ .lineEnd) :
    size front + size skipped < lineStop (front ++ rest) (size front) := by
  unfold lineStop
  cases newline : seek? ['\n'] (front ++ rest) (size front) with
  | none =>
    have positive : size token.lexeme ≠ 0 := by
      cases token <;> decide
    rw [Option.getD_none, (Token.next?_append found).1]
    simp only [Text.size_append]
    omega
  | some place =>
    rw [Option.getD_some]
    exact Token.lt_of_seek?_of_next? found lineEnd (Ne.symm inside) newline

/-- A token that is read to is found on the line. -/
theorem seekBefore?_of_next? (found : Token.next? wanted rest = some (skipped, token, behind))
    (lineEnd : wanted .lineEnd = true) (inside : token ≠ .lineEnd) :
    seekBefore? token.lexeme (front ++ rest) (size front) (lineStop (front ++ rest) (size front)) =
      some (size front + size skipped) :=
  seekBefore?_of_lt (Token.seek?_of_next? found) (lt_lineStop found lineEnd inside)

/-- Another wanted token is found behind the one that is read to, if it is found on the line. -/
theorem lt_of_seekBefore?_of_next? (other : Token)
    (found : Token.next? wanted rest = some (skipped, token, behind))
    (kind : wanted other = true) (different : other ≠ token)
    (elsewhere : seekBefore? other.lexeme (front ++ rest) (size front) stop = some place) :
    size front + size skipped < place :=
  Token.lt_of_seek?_of_next? found kind different (seek?_of_seekBefore? elsewhere)

/-- No wanted token is found on the line if only the end of the line may be read to. -/
theorem seekBefore?_of_plain (token : Token)
    (plain : ∀ skipped token behind, Token.next? wanted rest = some (skipped, token, behind) →
      token = .lineEnd)
    (kind : wanted token = true) (inside : token ≠ .lineEnd) :
    seekBefore? token.lexeme (front ++ rest) (size front) (lineStop (front ++ rest) (size front)) =
      none := by
  refine seekBefore?_of_le fun place elsewhere => ?_
  cases found : Token.next? wanted rest with
  | none =>
    rw [Token.seek?_of_next?_eq_none found kind] at elsewhere
    cases elsewhere
  | some found' =>
    obtain ⟨skipped, newline, behind⟩ := found'
    obtain rfl := plain skipped newline behind found
    have ends : seek? ['\n'] (front ++ rest) (size front) = some (size front + size skipped) :=
      Token.seek?_of_next? found
    have later := Token.lt_of_seek?_of_next? found kind inside elsewhere
    rw [lineStop, ends, Option.getD_some]
    omega

/-- A line comment that is read to is read up to the end of the line. -/
theorem remarkAt?_of_next?
    (found : Token.next? wanted rest = some (skipped, .lineComment, behind))
    (lineEnd : wanted .lineEnd = true) :
    remarkAt? (front ++ rest) (size front + size skipped) (lineStop (front ++ rest) (size front)) =
      some (trim (Text.throughLine behind).1) := by
  have inline : '\n' ∉ skipped := Token.inline_of_next? found lineEnd
  have whole : rest = skipped ++ (['/', '/'] ++ behind) := by
    rw [(Token.next?_append found).1, List.append_assoc]
    rfl
  rw [whole, Text.lineStop_of_inline inline, ← Text.size_append, ← List.append_assoc]
  exact remarkAt?_append

/-- Seen from either end of the text in front of it, the next line begins behind a line comment. -/
theorem nextLine_of_next?
    (found : Token.next? wanted rest = some (skipped, .lineComment, behind))
    (lineEnd : wanted .lineEnd = true) :
    nextLine (front ++ rest) (size front) =
        size (front ++ (skipped ++ ['/', '/'] ++ (Text.throughLine behind).1)) ∧
      nextLine (front ++ rest) (size front + size skipped) =
        size (front ++ (skipped ++ ['/', '/'] ++ (Text.throughLine behind).1)) := by
  have inline : '\n' ∉ skipped ++ ['/', '/'] :=
    List.not_mem_append (Token.inline_of_next? found lineEnd) (by decide)
  have line : (Text.throughLine rest).1 =
      skipped ++ ['/', '/'] ++ (Text.throughLine behind).1 := by
    rw [(Token.next?_append found).1]
    exact congrArg Prod.fst (Text.throughLine_append_of_notMem inline)
  have next : nextLine (front ++ rest) (size front) =
      size (front ++ (skipped ++ ['/', '/'] ++ (Text.throughLine behind).1)) := by
    rw [Text.nextLine_append, line, ← Text.size_append]
  refine ⟨next, ?_⟩
  rw [← next, ← Text.size_append, (Token.next?_append found).1, List.append_assoc skipped]
  exact (Text.nextLine_of_inline (Token.inline_of_next? found lineEnd)).symm

/-! ### Behind a block comment -/

/-- The line comment behind a block comment is read by offsets as it is read. -/
theorem afterNote?_of_found
    (found : Token.next? (fun token => token ≠ .assign && token ≠ .blockComment) rest =
      some (gap, .lineComment, behind)) :
    afterNote? (front ++ rest) (size front) = some ([trim (Text.throughLine behind).1],
      size (front ++ (gap ++ ['/', '/'] ++ (Text.throughLine behind).1))) := by
  have line : seekBefore? ['/', '/'] (front ++ rest) (size front)
      (lineStop (front ++ rest) (size front)) = some (size front + size gap) :=
    seekBefore?_of_next? found rfl (by decide)
  have first : (seekBefore? ['}'] (front ++ rest) (size front)
      (lineStop (front ++ rest) (size front))).all (size front + size gap < ·) = true := by
    rw [Option.all_eq_true]
    intro brace elsewhere
    have behind : size front + size gap < brace :=
      lt_of_seekBefore?_of_next? .closeBrace found rfl (by decide) elsewhere
    exact decide_eq_true behind
  rw [afterNote?]
  simp only [line, first, if_true, remarkAt?_of_next? found rfl, (nextLine_of_next? found rfl).2,
    Option.map_some]

/-- Behind a block comment nothing is read by offsets where no line comment is read. -/
theorem afterNote?_of_not_found
    (other : ∀ gap behind,
      Token.next? (fun token => token ≠ .assign && token ≠ .blockComment) rest ≠
        some (gap, .lineComment, behind)) :
    afterNote? (front ++ rest) (size front) = some ([], size front) := by
  by_cases braced : ∃ gap behind,
      Token.next? (fun token => token ≠ .assign && token ≠ .blockComment) rest =
        some (gap, .closeBrace, behind)
  · obtain ⟨gap, behind, found⟩ := braced
    have brace : seekBefore? ['}'] (front ++ rest) (size front)
        (lineStop (front ++ rest) (size front)) = some (size front + size gap) :=
      seekBefore?_of_next? found rfl (by decide)
    rw [afterNote?]
    split
    next opener line =>
      have later : size front + size gap < opener :=
        lt_of_seekBefore?_of_next? .lineComment found rfl (by decide) line
      rw [brace, Option.all_some, if_neg (by simpa using Nat.le_of_lt later)]
    next => rfl
  · -- The other wanted tokens are excluded, so that at most the end of the line is read to.
    have plain : ∀ gap token behind,
        Token.next? (fun token => token ≠ .assign && token ≠ .blockComment) rest =
          some (gap, token, behind) → token = .lineEnd := by
      intro gap token behind found
      cases token with
      | assign | blockComment => exact absurd (Token.next?_append found).2 (by decide)
      | lineComment => exact absurd found (other gap behind)
      | lineEnd => rfl
      | closeBrace => exact absurd ⟨gap, behind, found⟩ braced
    have line : seekBefore? ['/', '/'] (front ++ rest) (size front)
        (lineStop (front ++ rest) (size front)) = none :=
      seekBefore?_of_plain .lineComment plain rfl (by decide)
    rw [afterNote?, line]

/-! ### The tail of a statement -/

section Statement

variable {value : Text} {tail : Tail}

/-- A sign is passed over when its tail is read. -/
theorem next?_cons_sign : Token.next? (· ≠ .assign) ('=' :: after) =
    (Token.next? (· ≠ .assign) after).map fun found => ('=' :: found.1, found.2) :=
  rfl

/-- From the sign on, the token is read to that is read to behind it. -/
theorem next?_of_sign (found : Token.next? (· ≠ .assign) after = some (value, token, behind)) :
    Token.next? (· ≠ .assign) ('=' :: after) = some ('=' :: value, token, behind) := by
  rw [next?_cons_sign, found, Option.map_some]

/-- A closing brace behind the first comment does not end a statement. -/
theorem filter_brace_eq_none
    (found : Token.next? (· ≠ .assign) rest = some (skipped, token, behind))
    (comment : token ≠ .closeBrace) :
    ((seekBefore? ['}'] (front ++ rest) (size front) stop).filter
      fun brace => (some (token, size front + size skipped)).all (brace < ·.2)) = none := by
  rw [Option.filter_eq_none_iff]
  intro brace elsewhere before
  have later := lt_of_seekBefore?_of_next? .closeBrace found rfl (Ne.symm comment) elsewhere
  have earlier := of_decide_eq_true before
  omega

/-- A statement that a closing brace ends is read by offsets. -/
theorem tailAt?_of_brace
    (found : Token.next? (· ≠ .assign) after = some (value, .closeBrace, behind)) :
    tailAt? (front ++ '=' :: after) (size front) =
      some (.ok ([], size (front ++ '=' :: value))) := by
  have found := next?_of_sign found
  have brace : seekBefore? ['}'] (front ++ '=' :: after) (size front)
      (lineStop (front ++ '=' :: after) (size front)) = some (size front + size ('=' :: value)) :=
    seekBefore?_of_next? found rfl (by decide)
  have first : (openerBefore? (front ++ '=' :: after) (size front)
      (lineStop (front ++ '=' :: after) (size front))).all
        (size front + size ('=' :: value) < ·.2) = true := by
    rw [Option.all_eq_true]
    intro opener known
    have later : size front + size ('=' :: value) < opener.2 := by
      refine lt_of_openerBefore? (fun place line => ?_) (fun place block => ?_) known
      · exact lt_of_seekBefore?_of_next? .lineComment found rfl (by decide) line
      · exact lt_of_seekBefore?_of_next? .blockComment found rfl (by decide) block
    exact decide_eq_true later
  rw [tailAt?]
  simp only [brace, Option.filter_some, first, if_true, Text.size_append]

/-- A statement with a line comment is read by offsets. -/
theorem tailAt?_of_lineComment
    (found : Token.next? (· ≠ .assign) after = some (value, .lineComment, behind)) :
    tailAt? (front ++ '=' :: after) (size front) =
      some (.ok ([trim (Text.throughLine behind).1],
        size (front ++ '=' :: (value ++ ['/', '/'] ++ (Text.throughLine behind).1)))) := by
  have found := next?_of_sign found
  have comment : openerBefore? (front ++ '=' :: after) (size front)
      (lineStop (front ++ '=' :: after) (size front)) =
        some (.lineComment, size front + size ('=' :: value)) := by
    refine openerBefore?_of_lineComment (seekBefore?_of_next? found rfl (by decide)) ?_
    intro block elsewhere
    exact lt_of_seekBefore?_of_next? .blockComment found rfl (by decide) elsewhere
  rw [tailAt?]
  simp only [comment, filter_brace_eq_none found (by decide), remarkAt?_of_next? found rfl,
    (nextLine_of_next? found rfl).1, Option.map_some, List.cons_append]

/-- What a statement with a block comment comes to is what the comment comes to. -/
theorem tailAt?_of_blockComment
    (found : Token.next? (· ≠ .assign) after = some (value, .blockComment, behind)) :
    tailAt? (front ++ '=' :: after) (size front) =
      (noteAt? (front ++ '=' :: after) (size front + size ('=' :: value))).bind fun
        | .error fault => some (.error fault)
        | .ok (docs, stop) => (afterNote? (front ++ '=' :: after) stop).map fun more =>
          .ok (docs ++ more.1, more.2) := by
  have found := next?_of_sign found
  have comment : openerBefore? (front ++ '=' :: after) (size front)
      (lineStop (front ++ '=' :: after) (size front)) =
        some (.blockComment, size front + size ('=' :: value)) := by
    refine openerBefore?_of_blockComment (seekBefore?_of_next? found rfl (by decide)) ?_
    intro line elsewhere
    exact lt_of_seekBefore?_of_next? .lineComment found rfl (by decide) elsewhere
  rw [tailAt?]
  simp only [comment, filter_brace_eq_none found (by decide)]

/-- A statement with nothing behind its value is read by offsets. -/
theorem tailAt?_of_plain
    (plain : ∀ value token behind, Token.next? (· ≠ .assign) after = some (value, token, behind) →
      token = .lineEnd) :
    tailAt? (front ++ '=' :: after) (size front) =
      some (.ok ([], size (front ++ '=' :: (Text.throughLine after).1))) := by
  have plain : ∀ value token behind, Token.next? (· ≠ .assign) ('=' :: after) =
      some (value, token, behind) → token = .lineEnd := by
    intro value token behind found
    rw [next?_cons_sign] at found
    obtain ⟨⟨value', token', behind'⟩, found', same⟩ := Option.map_eq_some_iff.mp found
    cases same
    exact plain value' token behind found'
  have brace : seekBefore? ['}'] (front ++ '=' :: after) (size front)
      (lineStop (front ++ '=' :: after) (size front)) = none :=
    seekBefore?_of_plain .closeBrace plain rfl (by decide)
  have line : seekBefore? ['/', '/'] (front ++ '=' :: after) (size front)
      (lineStop (front ++ '=' :: after) (size front)) = none :=
    seekBefore?_of_plain .lineComment plain rfl (by decide)
  have block : seekBefore? ['/', '*'] (front ++ '=' :: after) (size front)
      (lineStop (front ++ '=' :: after) (size front)) = none :=
    seekBefore?_of_plain .blockComment plain rfl (by decide)
  have next : nextLine (front ++ '=' :: after) (size front) =
      size (front ++ '=' :: (Text.throughLine after).1) := by
    rw [Text.nextLine_append, Text.size_append]
    rfl
  rw [tailAt?, openerBefore?]
  simp only [brace, line, block, Option.filter_none, next]

/-- A block comment behind a sign is where it is, with what is in front of it. -/
theorem append_note
    (found : Token.next? (· ≠ .assign) after = some (value, .blockComment, behind)) :
    front ++ '=' :: after = (front ++ '=' :: value) ++ (['/', '*'] ++ behind) := by
  rw [(Token.next?_append found).1]
  simp [Token.lexeme]

/-- Behind a block comment that belongs to a statement, the search for a line comment goes on. -/
theorem tailAt?_of_closed
    (found : Token.next? (· ≠ .assign) after = some (value, .blockComment, behind))
    (closed : Text.cut ['*', '/'] behind = some (body, rest)) :
    tailAt? (front ++ '=' :: after) (size front) =
      (afterNote? (front ++ '=' :: (value ++ ['/', '*'] ++ body ++ ['*', '/']) ++ rest)
        (size (front ++ '=' :: (value ++ ['/', '*'] ++ body ++ ['*', '/'])))).map
          fun more => .ok (commentLines body ++ more.1, more.2) := by
  have whole : front ++ '=' :: after =
      front ++ '=' :: (value ++ ['/', '*'] ++ body ++ ['*', '/']) ++ rest := by
    rw [append_note found, Text.cut_eq_some closed]
    simp
  have note : noteAt? (front ++ '=' :: after) (size front + size ('=' :: value)) =
      some (.ok (commentLines body,
        size (front ++ '=' :: (value ++ ['/', '*'] ++ body ++ ['*', '/'])))) := by
    rw [append_note found, ← Text.size_append, noteAt?_of_closed closed]
    simp only [List.append_assoc, List.cons_append]
  rw [tailAt?_of_blockComment found, note, Option.bind_some, whole]

/-- The tail of a statement is read by offsets as it is read, up to where it ends. -/
theorem tailAt?_of_reads (reads : Tail.Reads after tail) :
    tailAt? (front ++ '=' :: after) (size front) =
      some (.ok (tail.docs, size (front ++ '=' :: tail.through))) := by
  cases reads with
  | brace found => exact tailAt?_of_brace found
  | remark found => exact tailAt?_of_lineComment found
  | noteRemark found closed further =>
    rw [tailAt?_of_closed found closed, afterNote?_of_found further, Option.map_some]
    simp only [List.append_assoc, List.cons_append]
  | note found closed other =>
    rw [tailAt?_of_closed found closed, afterNote?_of_not_found other, Option.map_some,
      List.append_nil]
  | plain other => exact tailAt?_of_plain other

/-- A statement whose tail is not read is at fault for a block comment that is not closed. -/
theorem tailAt?_of_unclosed (tailless : tail? after = none) :
    tailAt? (front ++ '=' :: after) (size front) =
      some (.error (.openComment (1 + Text.newlines front))) := by
  obtain ⟨value, opened, found, unclosed⟩ := tail?_eq_none_iff.mp tailless
  have inline : '\n' ∉ '=' :: value := Token.inline_of_next? (next?_of_sign found) rfl
  rw [tailAt?_of_blockComment found, ← Text.size_append, append_note found,
    noteAt?_of_unclosed unclosed, Option.bind_some, Text.newlines_append,
    Text.newlines_of_notMem inline, Nat.add_zero]

end Statement

end EnumBindings.Block
