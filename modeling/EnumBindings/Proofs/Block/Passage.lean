import EnumBindings.Block.Scan
import EnumBindings.Proofs.Block.Nearest

/-!
# The course of a scan

What one step of a scan does, case by case, and what follows for a scan as a whole: it passes from
cursor to cursor and meets entries on its way.

## Main definitions

* `Tail.Reads` — the ways in which the tail of a statement is read
* `Cursor.Advances`, `Cursor.Fails` — the ways in which a step goes on, and in which it fails
* `Cursor.Passes` — a scan comes from one cursor to another in whole steps

## Main results

* `tail?_eq_some_iff`, `Cursor.step_eq_advanced_iff` — these are all the ways
* `Cursor.step_eq_closed_iff` — a step closes exactly if a closing brace is next
* `Cursor.step_eq_failed_iff` — a step fails in these ways only
* `Cursor.Passes.scan_eq` — a scan meets what it meets on a passage, and then the rest
* `Cursor.entry_mem_events_iff`, `Cursor.exists_passes_closed`, `Cursor.result_eq_error_iff` — each
  entry, the end and each fault is met at a cursor that the scan comes to
-/

namespace EnumBindings.Block

/-! ### The tail of a statement -/

/-- How the tail of a statement is read from what follows its `=`. -/
inductive Tail.Reads (after : Text) : Tail → Prop
  /-- A closing brace ends it. -/
  | brace {value rest : Text} :
      Token.next? (· ≠ .assign) after = some (value, .closeBrace, rest) →
      Tail.Reads after ⟨[], value, '}' :: rest⟩
  /-- A line comment goes with it. -/
  | remark {value rest : Text} :
      Token.next? (· ≠ .assign) after = some (value, .lineComment, rest) →
      Tail.Reads after ⟨[trim (Text.throughLine rest).1],
        value ++ ['/', '/'] ++ (Text.throughLine rest).1, (Text.throughLine rest).2⟩
  /-- A block comment goes with it, and a line comment behind that one. -/
  | noteRemark {value opened body closed gap rest : Text} :
      Token.next? (· ≠ .assign) after = some (value, .blockComment, opened) →
      Text.cut ['*', '/'] opened = some (body, closed) →
      Token.next? (fun token => token ≠ .assign && token ≠ .blockComment) closed =
        some (gap, .lineComment, rest) →
      Tail.Reads after ⟨commentLines body ++ [trim (Text.throughLine rest).1],
        value ++ ['/', '*'] ++ body ++ ['*', '/'] ++ gap ++ ['/', '/'] ++
          (Text.throughLine rest).1, (Text.throughLine rest).2⟩
  /-- A block comment goes with it, and nothing more. -/
  | note {value opened body closed : Text} :
      Token.next? (· ≠ .assign) after = some (value, .blockComment, opened) →
      Text.cut ['*', '/'] opened = some (body, closed) →
      (∀ gap rest, Token.next? (fun token => token ≠ .assign && token ≠ .blockComment) closed ≠
        some (gap, .lineComment, rest)) →
      Tail.Reads after ⟨commentLines body, value ++ ['/', '*'] ++ body ++ ['*', '/'], closed⟩
  /-- The rest of the line has no comment and no closing brace. -/
  | plain :
      (∀ value token rest, Token.next? (· ≠ .assign) after = some (value, token, rest) →
        token = .lineEnd) →
      Tail.Reads after ⟨[], (Text.throughLine after).1, (Text.throughLine after).2⟩

/-- These are the ways in which a tail is read. -/
theorem tail?_eq_some_iff {after : Text} {tail : Tail} :
    tail? after = some tail ↔ Tail.Reads after tail := by
  constructor
  · intro h
    unfold tail? at h
    split at h
    next found =>
      cases h
      exact .brace found
    next found =>
      cases h
      exact .remark found
    next found =>
      split at h
      next => simp at h
      next closed =>
        split at h
        next further =>
          cases h
          exact .noteRemark found closed further
        next other =>
          cases h
          exact .note found closed fun gap rest further => other gap rest further
    next noBrace noRemark noNote =>
      cases h
      -- The other branches have taken all tokens that end a tail but the end of the line.
      refine .plain fun value token rest found => ?_
      cases token with
      | assign => exact absurd (Token.next?_append found).2 (by simp)
      | lineComment => exact absurd found (noRemark value rest)
      | blockComment => exact absurd found (noNote value rest)
      | lineEnd => rfl
      | closeBrace => exact absurd found (noBrace value rest)
  · intro h
    cases h with
    | brace found => rw [tail?, found]
    | remark found => rw [tail?, found]
    | noteRemark found closed further =>
      rw [tail?, found]
      simp only [closed, further]
    | note found closed other =>
      rw [tail?, found]
      simp only [closed]
    | plain other =>
      rw [tail?]
      split
      next found => exact Token.noConfusion (other _ _ _ found)
      next found => exact Token.noConfusion (other _ _ _ found)
      next found => exact Token.noConfusion (other _ _ _ found)
      next => rfl

/-- A statement has no tail exactly if a block comment follows it that is not closed. -/
theorem tail?_eq_none_iff {after : Text} : tail? after = none ↔
    ∃ value opened, Token.next? (· ≠ .assign) after = some (value, .blockComment, opened) ∧
      Text.cut ['*', '/'] opened = none := by
  constructor
  · intro h
    unfold tail? at h
    split at h
    next => cases h
    next => cases h
    next value opened found =>
      split at h
      next unclosed => exact ⟨value, opened, found, unclosed⟩
      next => split at h <;> cases h
    next => cases h
  · rintro ⟨value, opened, found, unclosed⟩
    rw [tail?, found]
    simp only [unclosed]

/-- A statement without a name is no option. -/
theorem ne_nil_of_isOption {statement : Text} (optional : isOption statement = true) :
    statement ≠ [] := by
  intro empty
  rw [empty] at optional
  exact absurd optional (by decide)

namespace Cursor

variable {cursor next last : Cursor} {met : Option Entry}

/-! ### One step -/

/-- How a step of a scan goes on from a cursor. -/
inductive Advances (cursor : Cursor) : Option Entry → Cursor → Prop
  /-- It goes to the next line. -/
  | lineEnd {before rest : Text} :
      Token.next? (fun _ => true) cursor.rest = some (before, .lineEnd, rest) →
      Advances cursor none ⟨cursor.line + 1, rest, cursor.pending⟩
  /-- It collects a line comment. -/
  | lineComment {before rest : Text} :
      Token.next? (fun _ => true) cursor.rest = some (before, .lineComment, rest) →
      Advances cursor none ⟨cursor.line + Text.newlines (Text.throughLine rest).1,
        (Text.throughLine rest).2, cursor.pending ++ [trim (Text.throughLine rest).1]⟩
  /-- It collects a block comment. -/
  | blockComment {before rest body closed : Text} :
      Token.next? (fun _ => true) cursor.rest = some (before, .blockComment, rest) →
      Text.cut ['*', '/'] rest = some (body, closed) →
      Advances cursor none ⟨cursor.line + Text.newlines body, closed,
        cursor.pending ++ commentLines body⟩
  /-- It reads an option, which is dropped. -/
  | option {before after : Text} {tail : Tail} :
      Token.next? (fun _ => true) cursor.rest = some (before, .assign, after) →
      Tail.Reads after tail → isOption (trim before) = true →
      Advances cursor none ⟨cursor.line + Text.newlines tail.through, tail.rest, []⟩
  /-- It meets an entry. -/
  | entry {before after : Text} {tail : Tail} :
      Token.next? (fun _ => true) cursor.rest = some (before, .assign, after) →
      Tail.Reads after tail → trim before ≠ [] → isOption (trim before) = false →
      Advances cursor (some (Entry.ofIdentifier (trim before) (cursor.pending ++ tail.docs)))
        ⟨cursor.line + Text.newlines tail.through, tail.rest, []⟩

/-- These are the ways in which a step goes on. -/
theorem step_eq_advanced_iff : cursor.step = .advanced met next ↔ Advances cursor met next := by
  constructor
  · intro h
    unfold step at h
    split at h
    next => simp at h
    next => simp at h
    next found =>
      cases h
      exact .lineEnd found
    next found =>
      cases h
      exact .lineComment found
    next found =>
      split at h
      next => simp at h
      next closed =>
        cases h
        exact .blockComment found closed
    next found =>
      dsimp only at h
      split at h
      · simp at h
      next named =>
        split at h
        next => simp at h
        next tail taken =>
          split at h
          next optional =>
            cases h
            exact .option found (tail?_eq_some_iff.mp taken) optional
          next entry =>
            cases h
            exact .entry found (tail?_eq_some_iff.mp taken) named (by simpa using entry)
  · intro h
    cases h with
    | lineEnd found => rw [step, found]
    | lineComment found => rw [step, found]
    | blockComment found closed =>
      rw [step, found]
      simp only [closed]
    | @option before after tail found taken optional =>
      rw [step, found]
      simp only [if_neg (ne_nil_of_isOption optional), tail?_eq_some_iff.mpr taken, if_pos optional]
    | entry found taken named entry =>
      rw [step, found]
      simp only [if_neg named, tail?_eq_some_iff.mpr taken, entry, Bool.false_eq_true, if_false]

/-- How a step of a scan fails. -/
inductive Fails (cursor : Cursor) : Fault → Prop
  /-- Nothing closes the block. -/
  | noCloseBrace : Token.next? (fun _ => true) cursor.rest = none →
      Fails cursor (.noCloseBrace cursor.line)
  /-- Nothing closes a block comment. -/
  | openComment {before rest : Text} :
      Token.next? (fun _ => true) cursor.rest = some (before, .blockComment, rest) →
      Text.cut ['*', '/'] rest = none → Fails cursor (.openComment cursor.line)
  /-- A statement has no name. -/
  | noIdentifier {before after : Text} :
      Token.next? (fun _ => true) cursor.rest = some (before, .assign, after) →
      trim before = [] → Fails cursor (.noIdentifier cursor.line)
  /-- Nothing closes the block comment that follows a statement. -/
  | openTail {before after : Text} :
      Token.next? (fun _ => true) cursor.rest = some (before, .assign, after) →
      trim before ≠ [] → tail? after = none → Fails cursor (.openComment cursor.line)

/-- These are the ways in which a step fails. -/
theorem step_eq_failed_iff {fault : Fault} : cursor.step = .failed fault ↔ Fails cursor fault := by
  constructor
  · intro h
    -- Of the branches of a step, four fail, one for each kind of fault.
    unfold step at h
    split at h
    next missing =>
      cases h
      exact .noCloseBrace missing
    next => cases h
    next => cases h
    next => cases h
    next found =>
      split at h
      next unclosed =>
        cases h
        exact .openComment found unclosed
      next => cases h
    next found =>
      dsimp only at h
      split at h
      next unnamed =>
        cases h
        exact .noIdentifier found unnamed
      next named =>
        split at h
        next unclosed =>
          cases h
          exact .openTail found named unclosed
        next => split at h <;> cases h
  · intro h
    cases h with
    | noCloseBrace missing => rw [step, missing]
    | openComment found unclosed =>
      rw [step, found]
      simp only [unclosed]
    | noIdentifier found unnamed =>
      rw [step, found]
      simp only [if_pos unnamed]
    | openTail found named unclosed =>
      rw [step, found]
      simp only [if_neg named, unclosed]

/-- What a step leaves is the end of what there was. -/
theorem Advances.exists_through (advance : Advances cursor met next) :
    ∃ through, cursor.rest = through ++ next.rest := by
  -- Each token is read up to its end, and a statement up to the end of its trailing comment.
  cases advance with
  | lineEnd found => exact ⟨_, (Token.next?_append found).1⟩
  | @lineComment before rest found =>
    have whole := (Token.next?_append found).1
    rw [← Text.throughLine_append rest, ← List.append_assoc] at whole
    exact ⟨_, whole⟩
  | blockComment found closed =>
    have whole := (Token.next?_append found).1
    rw [Text.cut_eq_some closed, ← List.append_assoc] at whole
    exact ⟨_, whole⟩
  | option found taken _ =>
    have whole := (Token.next?_append found).1
    rw [tail?_append (tail?_eq_some_iff.mpr taken), ← List.append_assoc] at whole
    exact ⟨_, whole⟩
  | entry found taken _ _ =>
    have whole := (Token.next?_append found).1
    rw [tail?_append (tail?_eq_some_iff.mpr taken), ← List.append_assoc] at whole
    exact ⟨_, whole⟩

/-- A step closes exactly if a closing brace is the nearest token. -/
theorem step_eq_closed_iff : cursor.step = .closed ↔
    ∃ before after, Token.next? (fun _ => true) cursor.rest = some (before, .closeBrace, after) := by
  constructor
  · intro h
    unfold step at h
    split at h
    next => simp at h
    -- Only the branch of the closing brace closes; in all others the result is another one.
    next before after found => exact ⟨before, after, found⟩
    next => simp at h
    next => simp at h
    next =>
      split at h
      · simp at h
      · simp at h
    next =>
      dsimp only at h
      split at h
      · simp at h
      · split at h
        · simp at h
        · split at h <;> simp at h
  · rintro ⟨before, after, found⟩
    rw [step, found]

/-- A scan that reaches the closing brace is done. -/
theorem scan_of_closed (h : cursor.step = .closed) : cursor.scan = ⟨[.finished], .ok ()⟩ := by
  rw [scan]
  split <;> simp_all

/-- A scan that is before a closing brace ends there. -/
theorem scan_of_next_closeBrace {line : Nat} {s before after : Text} {pending : List Text}
    (found : Token.next? (fun _ => true) s = some (before, .closeBrace, after)) :
    (⟨line, s, pending⟩ : Cursor).scan = ⟨[.finished], .ok ()⟩ :=
  scan_of_closed (step_eq_closed_iff.mpr ⟨before, after, found⟩)

/-- A scan that cannot go on reports the fault. -/
theorem scan_of_failed {fault : Fault} (h : cursor.step = .failed fault) :
    cursor.scan = ⟨[], .error fault⟩ := by
  rw [scan]
  split <;> simp_all

/-- A scan that goes on reports what it meets, and then the rest. -/
theorem scan_of_advanced (h : cursor.step = .advanced met next) :
    cursor.scan = ⟨met.toList.map .entry ++ next.scan.events, next.scan.result⟩ := by
  rw [scan]
  -- Of the four branches of a scan only the one of this step is left.
  split <;> rename_i done <;> rw [h] at done <;> cases done <;> rfl

/-! ### Passages -/

/-- A scan comes from one cursor to another in whole steps, and meets some entries on its way. -/
inductive Passes : Cursor → List Entry → Cursor → Prop
  | refl (cursor : Cursor) : Passes cursor [] cursor
  | step {cursor next last : Cursor} {met : Option Entry} {later : List Entry} :
      cursor.step = .advanced met next → Passes next later last →
      Passes cursor (met.toList ++ later) last

namespace Passes

variable {entries later : List Entry}

/-- A single step is a passage. -/
theorem single (h : cursor.step = .advanced met next) : Passes cursor met.toList next := by
  have one := Passes.step h (.refl next)
  rwa [List.append_nil] at one

/-- Passages follow each other. -/
theorem trans (first : Passes cursor entries next) (second : Passes next later last) :
    Passes cursor (entries ++ later) last := by
  induction first with
  | refl => exact second
  | step h _ ih =>
    rw [List.append_assoc]
    exact .step h (ih second)

/-- A scan meets what it meets on a passage, and then the rest. -/
theorem scan_eq (h : Passes cursor entries last) :
    cursor.scan = ⟨entries.map .entry ++ last.scan.events, last.scan.result⟩ := by
  induction h with
  | refl => rfl
  | step h _ ih => rw [scan_of_advanced h, ih, List.map_append, List.append_assoc]

/-- What a passage leaves is the end of what there was. -/
theorem exists_through (h : Passes cursor entries last) :
    ∃ through, cursor.rest = through ++ last.rest := by
  induction h with
  | refl => exact ⟨[], rfl⟩
  | step h _ ih =>
    obtain ⟨first, whole⟩ := (step_eq_advanced_iff.mp h).exists_through
    obtain ⟨second, rest⟩ := ih
    exact ⟨first ++ second, by rw [whole, rest, List.append_assoc]⟩

/-- What holds of a cursor and is kept by each step holds of every cursor that a scan comes to. -/
theorem invariant {P : Cursor → Prop} (h : Passes cursor entries last) (start : P cursor)
    (kept : ∀ {cursor next met}, P cursor → Advances cursor met next → P next) : P last := by
  induction h with
  | refl => exact start
  | step h _ ih => exact ih (kept start (step_eq_advanced_iff.mp h))

end Passes

/-- A line without tokens is passed over. -/
theorem passes_line {line : Nat} {pending : List Text} {rest s : Text}
    (clear : Token.Clear (fun _ => true) s ('\n' :: rest)) :
    Passes ⟨line, s ++ '\n' :: rest, pending⟩ [] ⟨line + 1, rest, pending⟩ := by
  have found : Token.next? (fun _ => true) (s ++ '\n' :: rest) = some (s, .lineEnd, rest) :=
    Token.next?_of_clear .lineEnd clear rfl
  exact .single (step_eq_advanced_iff.mpr (.lineEnd found))

/-- Each entry of a scan is met at a cursor that the scan comes to. -/
theorem entry_mem_events_iff {found : Entry} : .entry found ∈ cursor.scan.events ↔
    ∃ entries last next, Passes cursor entries last ∧ last.step = .advanced (some found) next := by
  constructor
  · intro h
    -- The induction follows the scan: an entry is met here, or on the passage from the next cursor.
    induction cursor using scan.induct with
    | case1 cursor done => simp [scan_of_closed done] at h
    | case2 cursor fault done => simp [scan_of_failed done] at h
    | case3 cursor next done ih =>
      rw [scan_of_advanced done] at h
      obtain ⟨entries, last, after, passed, reached⟩ := ih (by simpa using h)
      exact ⟨entries, last, after, .step done passed, reached⟩
    | case4 cursor entry next done ih =>
      rw [scan_of_advanced done, Option.toList_some, List.map_singleton, List.singleton_append,
        List.mem_cons] at h
      rcases h with here | later
      · cases here
        exact ⟨[], cursor, next, .refl cursor, done⟩
      · obtain ⟨entries, last, after, passed, reached⟩ := ih later
        exact ⟨_, last, after, .step done passed, reached⟩
  · rintro ⟨entries, last, next, passed, reached⟩
    rw [passed.scan_eq, scan_of_advanced reached]
    simp

/-- A scan that comes to its end comes to a cursor where it closes. -/
theorem exists_passes_closed (done : cursor.scan.result = .ok ()) :
    ∃ entries last, Passes cursor entries last ∧ last.step = .closed := by
  -- A scan that comes to its end cannot fail on the way.
  induction cursor using scan.induct with
  | case1 cursor closed => exact ⟨[], cursor, .refl cursor, closed⟩
  | case2 cursor fault failed =>
    rw [scan_of_failed failed] at done
    cases done
  | case3 cursor next advanced ih =>
    rw [scan_of_advanced advanced] at done
    obtain ⟨entries, last, passed, closed⟩ := ih done
    exact ⟨_, last, .step advanced passed, closed⟩
  | case4 cursor entry next advanced ih =>
    rw [scan_of_advanced advanced] at done
    obtain ⟨entries, last, passed, closed⟩ := ih done
    exact ⟨_, last, .step advanced passed, closed⟩

/-- A scan ends with a fault exactly if it comes to a cursor where a step fails with it. -/
theorem result_eq_error_iff {fault : Fault} : cursor.scan.result = .error fault ↔
    ∃ entries last, Passes cursor entries last ∧ last.step = .failed fault := by
  constructor
  · intro h
    -- The fault is that of this step, or the one of the scan from the next cursor.
    induction cursor using scan.induct with
    | case1 cursor closed =>
      rw [scan_of_closed closed] at h
      cases h
    | case2 cursor fault' failed =>
      rw [scan_of_failed failed] at h
      cases h
      exact ⟨[], cursor, .refl cursor, failed⟩
    | case3 cursor next advanced ih =>
      rw [scan_of_advanced advanced] at h
      obtain ⟨entries, last, passed, failed⟩ := ih h
      exact ⟨_, last, .step advanced passed, failed⟩
    | case4 cursor entry next advanced ih =>
      rw [scan_of_advanced advanced] at h
      obtain ⟨entries, last, passed, failed⟩ := ih h
      exact ⟨_, last, .step advanced passed, failed⟩
  · rintro ⟨entries, last, passed, failed⟩
    rw [passed.scan_eq, scan_of_failed failed]

end Cursor

/-- Nothing is lost of events that are entries. -/
theorem filterMap_toEntry (found : List Entry) :
    (found.map Event.entry).filterMap Event.toEntry = found := by
  have each : Event.toEntry ∘ Event.entry = some := rfl
  rw [List.filterMap_map, each, List.filterMap_some]

/-- The entries of an enum are those that the scan reports, if it comes to its end. -/
theorem entries_eq_ok_iff {enum source : Text} {found : List Entry} :
    entries enum source = .ok found ↔ (scan enum source).result = .ok () ∧
      (scan enum source).events.filterMap Event.toEntry = found := by
  rw [entries]
  cases (scan enum source).result with
  | ok done => simp [Except.map]
  | error fault => simp [Except.map]

end EnumBindings.Block
