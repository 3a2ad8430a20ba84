import EnumBindings.Proofs.Block.NoteLines
import EnumBindings.Proofs.Block.RoundTrip

/-!
# Comments behind an entry

The comments behind an entry on its line are meant to be documentation of that entry. The scan takes
the first block comment for that, and then it looks for a line comment on the rest of the line
without regard for further block comments. Where there are such, it takes a `//` that is inside or
between them for the line comment, or it leaves them all to the next entry. So nothing is lost or
misplaced exactly if the further block comments have nothing to say and no `//` begins in them.

## Main definitions

* `Aside`, `Trail` — block comments on one line, and the comments behind an entry
* `Trail.between` — what stands in front of the line comment or the end of the line
* `Trail.Kept` — the comments behind an entry are those that the scan can take

## Main results

* `Trail.exists_reads` — how the comments behind an entry are read
* `trail_documents_iff_kept` — which comments become the documentation of their entry
-/

namespace EnumBindings.Block

/-- A block comment on one line, with the white space behind it. -/
structure Aside where
  note : Note
  inline : '\n' ∉ note.text
  pad : Blanks

/-- The comments behind an entry on its line: some block comments, and perhaps a line comment. -/
structure Trail where
  first : Aside
  more : List Aside
  remark? : Option Line

/-- A block comment with the white space behind it written out. -/
def Aside.print (aside : Aside) : Text :=
  aside.note.print ++ aside.pad.text

namespace Trail

/-- The block comments behind the first one written out. -/
def others (trail : Trail) : Text :=
  trail.more.flatMap Aside.print

/-- What stands between the first block comment and the line comment or the end of the line. -/
def between (trail : Trail) : Text :=
  trail.first.pad.text ++ trail.others

/-- The line comment written out. -/
def remark (trail : Trail) : Text :=
  match trail.remark? with
  | none => []
  | some line => ['/', '/'] ++ line.text

/-- All comments written out. -/
def print (trail : Trail) : Text :=
  trail.first.print ++ (trail.others ++ trail.remark)

/-- The documentation in the comments behind the first one. -/
def otherDocs (trail : Trail) : List Text :=
  (trail.more.flatMap fun aside => noteLine aside.note.text) ++
    trail.remark?.toList.map fun line => trim line.text

/-- The documentation in all comments, in order. -/
def docs (trail : Trail) : List Text :=
  noteLine trail.first.note.text ++ trail.otherDocs

/-- What can end a line with such comments: its newline or, if there is no line comment, the closing
brace of the block. -/
def EndsWith (trail : Trail) (ending : Token) : Prop :=
  ending = .lineEnd ∨ ending = .closeBrace ∧ trail.remark? = none

/-- The block comments behind the first one have no documentation, and no `//` begins in them, also
not where one of them ends and the next comment begins at once. -/
structure Kept (trail : Trail) : Prop where
  silent : ∀ aside ∈ trail.more, noteLine aside.note.text = []
  clear : Text.Clear ['/', '/'] trail.others trail.remark

/-! ### What is written -/

variable {trail : Trail} {ending : Token} {rest : Text}

theorem newline_notMem_between (trail : Trail) : '\n' ∉ trail.between := by
  refine List.not_mem_append trail.first.pad.inline fun there => ?_
  obtain ⟨aside, -, among⟩ := List.mem_flatMap.mp there
  simp [Aside.print, Note.print, aside.inline, aside.pad.inline] at among

/-- Block comments without documentation have no closing brace. -/
theorem brace_notMem_between (silent : ∀ aside ∈ trail.more, noteLine aside.note.text = []) :
    '}' ∉ trail.between := by
  refine List.not_mem_append (trail.first.pad.notMem (by decide)) fun there => ?_
  obtain ⟨aside, among, inside⟩ := List.mem_flatMap.mp there
  have absent : '}' ∉ aside.note.text := fun visible =>
    absurd (star_of_noteLine_eq_nil (silent aside among) visible (by decide)) (by decide)
  have blank : '}' ∉ aside.pad.text := aside.pad.notMem (by decide)
  simp [Aside.print, Note.print, absent, blank] at inside

theorem remark_of_none (none : trail.remark? = none) : trail.remark = [] := by
  rw [remark, none]

theorem remark_of_some {line : Line} (there : trail.remark? = some line) :
    trail.remark = ['/', '/'] ++ line.text := by
  rw [remark, there]

/-- Whether a slash comes next is decided before the line ends. -/
theorem head?_remark_iff (ends : trail.EndsWith ending) :
    (trail.remark ++ (ending.lexeme ++ rest)).head? = some '/' ↔
      trail.remark.head? = some '/' := by
  rw [remark]
  cases trail.remark? with
  | some line => simp
  | none => rcases ends with rfl | ⟨rfl, -⟩ <;> simp [Token.lexeme]

/-- Whether a `//` begins in the block comments is decided before the line ends, and the white space
in front of them has no part in it. -/
theorem clear_between_iff (ends : trail.EndsWith ending) :
    Text.Clear ['/', '/'] trail.between (trail.remark ++ (ending.lexeme ++ rest)) ↔
      Text.Clear ['/', '/'] trail.others trail.remark := by
  have pad : Text.Clear ['/', '/'] trail.first.pad.text
      (trail.others ++ (trail.remark ++ (ending.lexeme ++ rest))) :=
    Text.clear_of_notMem (trail.first.pad.notMem (by decide))
  rw [between, Text.clear_append, and_iff_right pad, Text.clear_pair_iff, Text.clear_pair_iff,
    head?_remark_iff ends]

/-- What ends a line is a single character, and no slash. -/
theorem EndsWith.exists_lexeme (ends : trail.EndsWith ending) :
    ∃ c, ending.lexeme = [c] ∧ c ≠ '/' := by
  rcases ends with rfl | ⟨rfl, -⟩
  · exact ⟨'\n', rfl, by decide⟩
  · exact ⟨'}', rfl, by decide⟩

/-- Only a line without a line comment ends with a closing brace. -/
theorem EndsWith.eq_lineEnd (ends : trail.EndsWith ending) {line : Line}
    (there : trail.remark? = some line) : ending = .lineEnd := by
  rcases ends with ended | ⟨-, none⟩
  · exact ended
  · rw [there] at none
    cases none

end Trail

/-! ### What is found behind the first block comment -/

/-- The tokens that are looked for behind the block comment of a statement. -/
abbrev Token.endsNote (token : Token) : Bool :=
  token ≠ .assign && token ≠ .blockComment

namespace Trail

variable {trail : Trail} {ending : Token} {line : Line} {gap after behind rest : Text}

theorem EndsWith.endsNote (ends : trail.EndsWith ending) :
    ending.endsNote = true ∧ ending ≠ .lineComment := by
  rcases ends with rfl | ⟨rfl, -⟩ <;> decide

/-- Comments that are kept are passed over. -/
theorem Kept.clear_between (kept : trail.Kept) (ends : trail.EndsWith ending) :
    Token.Clear Token.endsNote trail.between (trail.remark ++ (ending.lexeme ++ rest)) := by
  intro token wanted
  cases token with
  | assign => simp at wanted
  | blockComment => simp at wanted
  | lineComment => exact (clear_between_iff ends).mpr kept.clear
  | lineEnd => exact Text.clear_of_notMem trail.newline_notMem_between
  | closeBrace => exact Text.clear_of_notMem (brace_notMem_between kept.silent)

/-- Behind comments that are kept, the end of the line is found if there is no line comment. -/
theorem Kept.next?_of_none (kept : trail.Kept) (ends : trail.EndsWith ending)
    (none : trail.remark? = none) :
    Token.next? Token.endsNote (trail.between ++ (trail.remark ++ (ending.lexeme ++ rest))) =
      some (trail.between, ending, rest) := by
  have clear : Token.Clear Token.endsNote trail.between
    (trail.remark ++ (ending.lexeme ++ rest)) := kept.clear_between ends
  rw [remark_of_none none, List.nil_append] at clear ⊢
  exact Token.next?_of_clear ending clear ends.endsNote.1

/-- Behind comments that are kept, the line comment is found. -/
theorem Kept.next?_of_some (kept : trail.Kept) (ends : trail.EndsWith ending)
    (there : trail.remark? = some line) :
    Token.next? Token.endsNote (trail.between ++ (trail.remark ++ (ending.lexeme ++ rest))) =
      some (trail.between, .lineComment, line.text ++ (ending.lexeme ++ rest)) := by
  have clear : Token.Clear Token.endsNote trail.between
    (trail.remark ++ (ending.lexeme ++ rest)) := kept.clear_between ends
  rw [remark_of_some there, List.append_assoc ['/', '/']] at clear ⊢
  exact Token.next?_of_clear .lineComment clear rfl

/-- If no line comment is found, no `//` begins in block comments that have no documentation. -/
theorem clear_of_not_found (silent : ∀ aside ∈ trail.more, noteLine aside.note.text = [])
    (never : ∀ gap after, Token.next? Token.endsNote (trail.between ++ rest) ≠
      some (gap, .lineComment, after)) : Text.Clear ['/', '/'] trail.between rest := by
  have whole : Token.Clear Token.endsNote trail.between rest := by
    rcases found : Token.next? Token.endsNote (trail.between ++ rest) with _ | ⟨gap, token, after⟩
    · have clear := (Token.clear_append.mp (Token.next?_eq_none_iff.mp found)).1
      rwa [List.append_nil] at clear
    · -- What is found inside would be a newline or a brace, and the comments have neither.
      rcases Token.clear_or_within_of_next? found with clear | ⟨part, some, inside, here⟩
      · exact clear
      · obtain ⟨c, part, rfl⟩ := List.exists_cons_of_ne_nil some
        have wanted := (Token.next?_append found).2
        cases token with
        | assign => simp at wanted
        | blockComment => simp at wanted
        | lineComment => exact absurd found (never gap after)
        | lineEnd =>
          obtain rfl : c = '\n' := (List.cons.inj here).1
          exact absurd (by simp [inside]) trail.newline_notMem_between
        | closeBrace =>
          obtain rfl : c = '}' := (List.cons.inj here).1
          exact absurd (by simp [inside]) (brace_notMem_between silent)
  exact whole .lineComment rfl

/-- A `//` that begins in a text ends in it, or stands across its end. -/
theorem slashes_within {part : Text} (some : part ≠ [])
    (here : part ++ rest = ['/', '/'] ++ after) :
    part = ['/'] ∧ rest = '/' :: after ∨
      ∃ behind, part = ['/', '/'] ++ behind ∧ after = behind ++ rest := by
  cases part with
  | nil => exact absurd rfl some
  | cons c part =>
    obtain ⟨rfl, later⟩ := List.cons.inj here
    cases part with
    | nil => exact .inl ⟨rfl, later⟩
    | cons d part =>
      obtain ⟨rfl, last⟩ := List.cons.inj later
      exact .inr ⟨part, rfl, last.symm⟩

/-- A line comment that is found too early has more to say than the one that is there. -/
theorem clear_of_same_remark
    (found : Token.next? Token.endsNote (trail.between ++
      (['/', '/'] ++ (line.text ++ '\n' :: rest))) = some (gap, .lineComment, after))
    (same : trim (Text.throughLine after).1 = trim line.text) :
    Text.Clear ['/', '/'] trail.between (['/', '/'] ++ (line.text ++ '\n' :: rest)) := by
  rcases Token.clear_or_within_of_next? found with clear | ⟨part, some, inside, here⟩
  · exact clear .lineComment rfl
  · -- What is found ends with a slash and the line comment.
    obtain ⟨early, inline, whole⟩ : ∃ early, '\n' ∉ early ∧
        after = early ++ '/' :: line.text ++ '\n' :: rest := by
      rcases slashes_within some here with ⟨-, later⟩ | ⟨behind, rfl, whole⟩
      · exact ⟨[], List.not_mem_nil, (List.cons.inj later).2.symm⟩
      · have among : '\n' ∉ behind := fun there =>
          trail.newline_notMem_between (by simp [inside, there])
        exact ⟨behind ++ ['/'], List.not_mem_append among (by decide), by simp [whole]⟩
    have longer : '\n' ∉ early ++ '/' :: line.text :=
      List.not_mem_append inline (List.not_mem_cons_of_ne_of_not_mem (by decide) line.inline)
    have counted := congrArg (List.countP fun c => !isBlank c) same
    rw [whole, Text.throughLine_append_newline longer, trim_append_blank isBlank_newline,
      countP_trim, countP_trim, List.countP_append, List.countP_cons_of_pos (by decide)] at counted
    omega

/-- Behind a `//` in block comments there is the end of one of them. -/
theorem closer_isInfix (inside : trail.between = gap ++ ['/', '/'] ++ behind) :
    ['*', '/'] <:+: behind := by
  have slash (pad : Blanks) : '/' ∉ pad.text := pad.notMem (by decide)
  rw [between, others] at inside
  rcases List.eq_nil_or_concat trail.more with none | ⟨front, last, whole⟩
  · -- Without block comments there is only white space.
    rw [none, List.flatMap_nil, List.append_nil] at inside
    exact absurd (by simp [inside]) (slash trail.first.pad)
  · have parted : trail.first.pad.text ++ front.flatMap Aside.print ++ ['/', '*'] ++
        last.note.text ++ '*' :: ('/' :: last.pad.text) = gap ++ ['/', '/'] ++ behind := by
      rw [← inside, whole]
      simp [Aside.print, Note.print]
    rcases Text.append_cons_eq_append_needle (by decide) parted with
      ⟨before, -, rfl⟩ | ⟨front', -, late⟩
    · exact ⟨before, last.pad.text, by simp⟩
    · -- Behind the last star there is only one slash.
      cases front' with
      | nil => exact absurd (by simp [(List.cons.inj late).2]) (slash last.pad)
      | cons c front' => exact absurd (by simp [(List.cons.inj late).2]) (slash last.pad)

/-- What is found as a line comment where there is none has the end of a block comment in it. -/
theorem closer_isInfix_of_found (ends : trail.EndsWith ending)
    (found : Token.next? Token.endsNote (trail.between ++ (ending.lexeme ++ rest)) =
      some (gap, .lineComment, after)) :
    ['*', '/'] <:+: trim (Text.throughLine after).1 := by
  obtain ⟨wanted, other⟩ := ends.endsNote
  obtain ⟨c, lexeme, visible⟩ := ends.exists_lexeme
  rcases Token.clear_or_within_of_next? found with clear | ⟨part, some, inside, here⟩
  · rw [Token.next?_of_clear ending clear wanted] at found
    cases found
    exact absurd rfl other
  · rcases slashes_within some here with ⟨-, later⟩ | ⟨behind, rfl, rfl⟩
    · rw [lexeme] at later
      exact absurd (List.cons.inj later).1 visible
    · -- The line comment begins in the block comments, and goes on to the end of the last one.
      rw [← List.append_assoc] at inside
      have inline : '\n' ∉ behind := fun there =>
        trail.newline_notMem_between (by simp [inside, there])
      have closer : ['*', '/'] <:+: (Text.throughLine (behind ++ (ending.lexeme ++ rest))).1 := by
        rw [Text.throughLine_append_of_notMem inline]
        exact (closer_isInfix inside).trans (List.prefix_append ..).isInfix
      exact pair_isInfix_trim closer (by decide) (by decide)

/-! ### What is read -/

/-- Only the line comment has documentation behind the first comment, if the others have none. -/
theorem otherDocs_of_silent (silent : ∀ aside ∈ trail.more, noteLine aside.note.text = []) :
    trail.otherDocs = trail.remark?.toList.map fun line => trim line.text := by
  rw [otherDocs, List.flatMap_eq_nil_iff.mpr silent, List.nil_append]

/-- A line comment that is found has what there is to say behind the first block comment exactly if
the comments are kept. -/
theorem found_iff_kept (ends : trail.EndsWith ending)
    (found : Token.next? Token.endsNote (trail.between ++
      (trail.remark ++ (ending.lexeme ++ rest))) = some (gap, .lineComment, after)) :
    [trim (Text.throughLine after).1] = trail.otherDocs ↔ trail.Kept := by
  cases there : trail.remark? with
  | none =>
    constructor
    · intro same
      rw [remark_of_none there, List.nil_append] at found
      have closer := closer_isInfix_of_found ends found
      -- What was found would be the share of a block comment, and that has no end in it.
      have among : trim (Text.throughLine after).1 ∈ trail.otherDocs := by
        rw [← same]
        exact List.mem_singleton_self _
      rw [otherDocs, there, Option.toList_none, List.map_nil, List.append_nil] at among
      obtain ⟨aside, -, share⟩ := List.mem_flatMap.mp among
      exact absurd (closer.trans (isInfix_of_mem_noteLine share)) aside.note.unclosed
    · intro kept
      rw [kept.next?_of_none ends there] at found
      cases found
      exact absurd rfl ends.endsNote.2
  | some line =>
    obtain rfl := ends.eq_lineEnd there
    constructor
    · intro same
      have parted : [] ++ [trim (Text.throughLine after).1] =
          (trail.more.flatMap fun aside => noteLine aside.note.text) ++ [trim line.text] := by
        rw [List.nil_append, same, otherDocs, there]
        rfl
      obtain ⟨silent, last⟩ := List.append_inj' parted rfl
      have shape : trail.remark ++ (Token.lineEnd.lexeme ++ rest) =
          ['/', '/'] ++ (line.text ++ '\n' :: rest) := by
        rw [remark_of_some there, List.append_assoc]
        rfl
      have clear := clear_of_same_remark (by rwa [shape] at found) (List.cons.inj last).1
      rw [← shape] at clear
      exact ⟨List.flatMap_eq_nil_iff.mp silent.symm, (clear_between_iff ends).mp clear⟩
    · intro kept
      rw [kept.next?_of_some ends there] at found
      cases found
      have ended : Text.throughLine (line.text ++ '\n' :: rest) = (line.text ++ ['\n'], rest) :=
        Text.throughLine_append_newline line.inline
      have read : Token.lineEnd.lexeme ++ rest = '\n' :: rest := rfl
      rw [otherDocs_of_silent kept.silent, there, read, ended, trim_append_blank isBlank_newline]
      rfl

/-- It is right to find no line comment exactly if the comments are kept and there is none. -/
theorem not_found_iff_kept (ends : trail.EndsWith ending)
    (never : ∀ gap after, Token.next? Token.endsNote (trail.between ++
      (trail.remark ++ (ending.lexeme ++ rest))) ≠ some (gap, .lineComment, after)) :
    [] = trail.otherDocs ↔ trail.Kept := by
  constructor
  · intro nothing
    obtain ⟨silent, -⟩ := List.append_eq_nil_iff.mp nothing.symm
    rw [List.flatMap_eq_nil_iff] at silent
    exact ⟨silent, (clear_between_iff ends).mp (clear_of_not_found silent never)⟩
  · intro kept
    cases there : trail.remark? with
    | none =>
      rw [otherDocs_of_silent kept.silent, there]
      rfl
    | some line => exact absurd (kept.next?_of_some ends there) (never _ _)

end Trail

namespace Cursor

variable {line : Nat} {trail : Trail} {ending : Token} {rest : Text}

/-- The end of a line is passed over. -/
theorem scan_lineEnd (pad : Blanks) :
    (⟨line, pad.text ++ '\n' :: rest, []⟩ : Cursor).scan =
      (⟨line + 1, rest, []⟩ : Cursor).scan := by
  have passed : Passes ⟨line, pad.text ++ '\n' :: rest, []⟩ [] ⟨line + 1, rest, []⟩ :=
    passes_line pad.clear
  exact passed.scan_eq

/-- White space in front of the end of a line makes no difference to a scan. -/
theorem scan_pad (pad : Blanks) (ends : trail.EndsWith ending) :
    (⟨line, pad.text ++ (ending.lexeme ++ rest), []⟩ : Cursor).scan =
      (⟨line, ending.lexeme ++ rest, []⟩ : Cursor).scan := by
  rcases ends with rfl | ⟨rfl, -⟩
  · exact (scan_lineEnd pad).trans (scan_lineEnd (.spaces 0)).symm
  · have padded : Token.next? (fun _ => true) (pad.text ++ (Token.closeBrace.lexeme ++ rest)) =
        some (pad.text, .closeBrace, rest) := Token.next?_of_clear .closeBrace pad.clear rfl
    have bare : Token.next? (fun _ => true) (Token.closeBrace.lexeme ++ rest) =
        some ([], .closeBrace, rest) := Token.next?_lexeme_append rfl
    rw [scan_of_next_closeBrace padded, scan_of_next_closeBrace bare]

/-- A block comment without documentation makes no difference to a scan. -/
theorem scan_aside (pad : Blanks) {aside : Aside} (silent : noteLine aside.note.text = [])
    (after : Text) : (⟨line, pad.text ++ (aside.print ++ after), []⟩ : Cursor).scan =
      (⟨line, aside.pad.text ++ after, []⟩ : Cursor).scan := by
  have shape : aside.print ++ after = Token.blockComment.lexeme ++
      (aside.note.text ++ (['*', '/'] ++ (aside.pad.text ++ after))) := by
    simp [Aside.print, Note.print, Token.lexeme]
  have found : Token.next? (fun _ => true) (pad.text ++ (aside.print ++ after)) =
      some (pad.text, .blockComment,
        aside.note.text ++ (['*', '/'] ++ (aside.pad.text ++ after))) := by
    rw [shape]
    exact Token.next?_of_clear .blockComment pad.clear rfl
  have collected : Advances ⟨line, _, []⟩ _ _ := .blockComment found aside.note.cut_append
  rw [Text.newlines_of_notMem aside.inline, commentLines_of_notMem aside.inline, silent]
    at collected
  exact (Passes.single (step_eq_advanced_iff.mpr collected)).scan_eq

/-- Block comments without documentation make no difference to a scan. -/
theorem scan_asides {asides : List Aside} (pad : Blanks) (ends : trail.EndsWith ending)
    (silent : ∀ aside ∈ asides, noteLine aside.note.text = []) :
    (⟨line, pad.text ++ (asides.flatMap Aside.print ++ (ending.lexeme ++ rest)), []⟩ :
      Cursor).scan = (⟨line, ending.lexeme ++ rest, []⟩ : Cursor).scan := by
  induction asides generalizing pad with
  | nil => exact scan_pad pad ends
  | cons aside asides ih =>
    rw [List.forall_mem_cons] at silent
    rw [List.flatMap_cons, List.append_assoc, scan_aside pad silent.1]
    exact ih aside.pad silent.2

end Cursor

namespace Trail

variable {trail : Trail} {ending : Token} {front gap after rest : Text}

/-- If a line comment is found where the comments are kept, the scan goes on behind the newline that
is read with it. -/
theorem Kept.scan_of_found (kept : trail.Kept) (ends : trail.EndsWith ending)
    (found : Token.next? Token.endsNote (trail.between ++
      (trail.remark ++ (ending.lexeme ++ rest))) = some (gap, .lineComment, after))
    (inline : '\n' ∉ front) (line : Nat) :
    (⟨line + Text.newlines (front ++ gap ++ ['/', '/'] ++ (Text.throughLine after).1),
      (Text.throughLine after).2, []⟩ : Cursor).scan =
        (⟨line, ending.lexeme ++ rest, []⟩ : Cursor).scan := by
  -- What is found is the line comment of the trail itself, so the trail has one.
  cases there : trail.remark? with
  | none =>
    rw [kept.next?_of_none ends there] at found
    cases found
    exact absurd rfl ends.endsNote.2
  | some remark =>
    obtain rfl := ends.eq_lineEnd there
    rw [kept.next?_of_some ends there] at found
    cases found
    have ended : Text.throughLine (remark.text ++ (Token.lineEnd.lexeme ++ rest)) =
        (remark.text ++ ['\n'], rest) := Text.throughLine_append_newline remark.inline
    have unbroken : '\n' ∉ front ++ trail.between ++ ['/', '/'] ++ remark.text := by
      simp [inline, trail.newline_notMem_between, remark.inline]
    have newline : Text.newlines ['\n'] = 1 := rfl
    rw [ended, ← List.append_assoc, Text.newlines_append, Text.newlines_of_notMem unbroken, newline,
      Nat.zero_add]
    exact (Cursor.scan_lineEnd (.spaces 0)).symm

/-- If no line comment is found where the comments are kept, there is none, and the scan goes on
behind the others. -/
theorem Kept.scan_of_not_found (kept : trail.Kept) (ends : trail.EndsWith ending)
    (never : ∀ gap after, Token.next? Token.endsNote (trail.between ++
      (trail.remark ++ (ending.lexeme ++ rest))) ≠ some (gap, .lineComment, after)) (line : Nat) :
    (⟨line, trail.between ++ (trail.remark ++ (ending.lexeme ++ rest)), []⟩ : Cursor).scan =
      (⟨line, ending.lexeme ++ rest, []⟩ : Cursor).scan := by
  cases there : trail.remark? with
  | none =>
    rw [remark_of_none there, List.nil_append, between, List.append_assoc]
    exact Cursor.scan_asides trail.first.pad ends kept.silent
  | some remark => exact absurd (kept.next?_of_some ends there) (never _ _)

/-- The comments behind an entry are read with it. They become its documentation exactly if they are
kept, and then the scan goes on at the end of the line. -/
theorem exists_reads (assignment : Assignment) (pad : Blanks) (ends : trail.EndsWith ending) :
    ∃ tail, Tail.Reads (assignment.lead pad ++ (trail.print ++ (ending.lexeme ++ rest))) tail ∧
      (tail.docs = trail.docs ↔ trail.Kept) ∧
      (trail.Kept → ∀ line, (⟨line + Text.newlines tail.through, tail.rest, []⟩ : Cursor).scan =
        (⟨line, ending.lexeme ++ rest, []⟩ : Cursor).scan) := by
  have shape : trail.print ++ (ending.lexeme ++ rest) =
      Token.blockComment.lexeme ++ (trail.first.note.text ++ (['*', '/'] ++
        (trail.between ++ (trail.remark ++ (ending.lexeme ++ rest))))) := by
    rw [print, between, Aside.print, Note.print, Token.lexeme]
    simp only [List.append_assoc]
  have found := Cursor.next?_lead assignment pad .blockComment (by decide)
    (trail.first.note.text ++ (['*', '/'] ++
      (trail.between ++ (trail.remark ++ (ending.lexeme ++ rest)))))
  rw [← shape] at found
  have noted : commentLines trail.first.note.text = noteLine trail.first.note.text :=
    commentLines_of_notMem trail.first.inline
  have inline : '\n' ∉ assignment.lead pad ++ ['/', '*'] ++ trail.first.note.text ++
      ['*', '/'] := by
    simp [assignment.newline_notMem_lead pad, trail.first.inline]
  -- Whether another comment is found on the line decides how the tail is read.
  by_cases further : ∃ gap after, Token.next? Token.endsNote (trail.between ++
      (trail.remark ++ (ending.lexeme ++ rest))) = some (gap, .lineComment, after)
  · obtain ⟨gap, after, further⟩ := further
    refine ⟨_, .noteRemark found trail.first.note.cut_append further, ?_, ?_⟩
    · rw [docs, noted, List.append_right_inj]
      exact found_iff_kept ends further
    · exact fun kept => kept.scan_of_found ends further inline
  · have never : ∀ gap after, Token.next? Token.endsNote (trail.between ++
        (trail.remark ++ (ending.lexeme ++ rest))) ≠ some (gap, .lineComment, after) :=
      fun gap after here => further ⟨gap, after, here⟩
    refine ⟨_, .note found trail.first.note.cut_append never, ?_, ?_⟩
    · rw [docs, noted, ← not_found_iff_kept ends never, List.self_eq_append_right, eq_comm]
    · intro kept line
      rw [Text.newlines_of_notMem inline, Nat.add_zero]
      exact kept.scan_of_not_found ends never line

end Trail

/-- The comments behind an entry become its documentation, in order and behind what waited for it,
exactly if they are kept; and then the scan goes on at the end of the line with nothing that waits
for the next entry. -/
theorem trail_documents_iff_kept {enum source body rest : Text} {line : Nat} {met : List Entry}
    {cursor : Cursor} {assignment : Assignment} {indent pad : Blanks} {trail : Trail}
    {ending : Token} (opened : opening enum source = .ok (line, body))
    (passed : Cursor.Passes ⟨line, body, []⟩ met cursor)
    (here : cursor.rest = indent.text ++ assignment.name.text ++ assignment.beforeSign.text ++
      '=' :: (assignment.lead pad ++ (trail.print ++ (ending.lexeme ++ rest))))
    (ends : trail.EndsWith ending) :
    ∃ docs after, scan enum source = ⟨met.map .entry ++
        .entry (.ofIdentifier assignment.name.text (cursor.pending ++ docs)) :: after.events,
        after.result⟩ ∧
      (docs = trail.docs ↔ trail.Kept) ∧
      (trail.Kept → after = (⟨cursor.line, ending.lexeme ++ rest, []⟩ : Cursor).scan) := by
  obtain ⟨place, left, pending⟩ := cursor
  obtain rfl := here
  obtain ⟨tail, read, kept, onward⟩ := Trail.exists_reads assignment pad ends
  have advance := Cursor.advances_entry place pending indent assignment read
  have whole := (passed.trans (.single (Cursor.step_eq_advanced_iff.mpr advance))).scan_eq
  refine ⟨tail.docs, _, ?_, kept, fun good => onward good place⟩
  rw [scan, opened]
  simpa using whole

/-- A statement `S = 5;`. -/
def statementS : Assignment :=
  ⟨.single 'S' (by decide), .spaces 1, .spaces 1,
    ⟨['5'], by decide, by decide, by decide, by decide⟩, .spaces 0⟩

/-- A block of such a statement with a trail and of one more entry on the next line. -/
def trailBlock (trail : Trail) : Text :=
  ['S', ' ', '=', ' ', '5', ';', ' '] ++ (trail.print ++ ['\n', 'T', '=', '6', ';', '}'])

/-- Two comments that are kept, with an empty one in between. -/
def keptTrail : Trail :=
  ⟨⟨⟨['a'], by decide⟩, by decide, .spaces 1⟩, [⟨⟨[' '], by decide⟩, by decide, .spaces 1⟩],
    some ⟨['b'], by decide⟩⟩

/-- What waits for the entry on the next line documents it. -/
theorem scan_next_entry (pending : List Text) :
    (⟨2, ['T', '=', '6', ';', '}'], pending⟩ : Cursor).scan =
      ⟨[.entry (.ofIdentifier ['T'] pending), .finished], .ok ()⟩ := by
  have next : Cursor.step ⟨2, ['T', '=', '6', ';', '}'], pending⟩ =
      .advanced (some (.ofIdentifier ['T'] (pending ++ []))) ⟨2, ['}'], []⟩ := rfl
  have closed : Cursor.step ⟨2, ['}'], []⟩ = .closed := rfl
  rw [Cursor.scan_of_advanced next, Cursor.scan_of_closed closed, List.append_nil]
  rfl

/-- Both comments of the kept trail document the entry in front of them, and none the next one. -/
theorem trail_documents_keptTrail : keptTrail.Kept ∧
    scan ['X'] (headerText ['X'] ++ '{' :: trailBlock keptTrail) =
      ⟨[.entry (.ofIdentifier ['S'] [['a'], ['b']]), .entry (.ofIdentifier ['T'] []), .finished],
        .ok ()⟩ := by
  have kept : keptTrail.Kept := ⟨by decide, Text.clear_pair_iff.mpr ⟨by decide, by decide⟩⟩
  have opened : opening ['X'] (headerText ['X'] ++ '{' :: trailBlock keptTrail) =
      .ok (1, trailBlock keptTrail) := rfl
  have here : trailBlock keptTrail = (Blanks.spaces 0).text ++ statementS.name.text ++
      statementS.beforeSign.text ++ '=' :: (statementS.lead (.spaces 1) ++
        (keptTrail.print ++ (Token.lineEnd.lexeme ++ ['T', '=', '6', ';', '}']))) := rfl
  obtain ⟨docs, after, done, documented, onward⟩ :=
    trail_documents_iff_kept opened (.refl _) here (.inl rfl)
  have first : Cursor.step ⟨1, ['\n', 'T', '=', '6', ';', '}'], []⟩ =
      .advanced none ⟨2, ['T', '=', '6', ';', '}'], []⟩ := rfl
  have rest : after = ⟨[.entry (.ofIdentifier ['T'] []), .finished], .ok ()⟩ := by
    refine (onward kept).trans ((Cursor.scan_of_advanced first).trans ?_)
    rw [scan_next_entry]
    rfl
  refine ⟨kept, ?_⟩
  rw [done, documented.mpr kept, rest]
  rfl

/-- Two comments of which the second one strays. -/
def strayTrail : Trail :=
  ⟨⟨⟨['a'], by decide⟩, by decide, .spaces 1⟩, [⟨⟨['b'], by decide⟩, by decide, .spaces 0⟩], none⟩

/-- Two comments and a line comment, of which the second comment is lost. -/
def lossyTrail : Trail :=
  ⟨⟨⟨['a'], by decide⟩, by decide, .spaces 1⟩, [⟨⟨['b'], by decide⟩, by decide, .spaces 1⟩],
    some ⟨['c'], by decide⟩⟩

/-- The second comment behind an entry documents the next one, or none at all if a line comment
follows. -/
theorem comment_strays_to_next_entry :
    (strayTrail.docs = [['a'], ['b']] ∧
      entries ['X'] (headerText ['X'] ++ '{' :: trailBlock strayTrail) =
        .ok [.ofIdentifier ['S'] [['a']], .ofIdentifier ['T'] [['b']]]) ∧
    lossyTrail.docs = [['a'], ['b'], ['c']] ∧
      entries ['X'] (headerText ['X'] ++ '{' :: trailBlock lossyTrail) =
        .ok [.ofIdentifier ['S'] [['a'], ['c']], .ofIdentifier ['T'] []] := by
  have opened (trail : Trail) : opening ['X'] (headerText ['X'] ++ '{' :: trailBlock trail) =
      .ok (1, trailBlock trail) := rfl
  have first : Cursor.step ⟨1, trailBlock strayTrail, []⟩ =
      .advanced (some (.ofIdentifier ['S'] [['a']]))
        ⟨1, [' ', '/', '*', 'b', '*', '/', '\n', 'T', '=', '6', ';', '}'], []⟩ := rfl
  have second : Cursor.step ⟨1, [' ', '/', '*', 'b', '*', '/', '\n', 'T', '=', '6', ';', '}'], []⟩ =
      .advanced none ⟨1, ['\n', 'T', '=', '6', ';', '}'], [['b']]⟩ := rfl
  have third : Cursor.step ⟨1, ['\n', 'T', '=', '6', ';', '}'], [['b']]⟩ =
      .advanced none ⟨2, ['T', '=', '6', ';', '}'], [['b']]⟩ := rfl
  -- The line comment takes the scan past the second comment.
  have whole : Cursor.step ⟨1, trailBlock lossyTrail, []⟩ =
      .advanced (some (.ofIdentifier ['S'] [['a'], ['c']])) ⟨2, ['T', '=', '6', ';', '}'], []⟩ := rfl
  refine ⟨⟨rfl, ?_⟩, rfl, ?_⟩
  · rw [entries, scan, opened]
    dsimp only
    rw [Cursor.scan_of_advanced first, Cursor.scan_of_advanced second,
      Cursor.scan_of_advanced third, scan_next_entry]
    rfl
  · rw [entries, scan, opened]
    dsimp only
    rw [Cursor.scan_of_advanced whole, scan_next_entry]
    rfl

end EnumBindings.Block
