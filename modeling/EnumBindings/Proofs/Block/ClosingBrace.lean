import EnumBindings.Proofs.Block.CommentedOut

/-!
# What stands behind the closing brace

A scan that comes to its end stops at one closing brace, and has looked at nothing behind it. So
the entries of an enum are those of the text up to that brace, whatever else the file goes on with.

## Main definitions

* `StopsBehind` — the text in front of the closing brace at which the scan of an enum stops

## Main results

* `Cursor.Closes.unique` — a scan stops at one brace only
* `Cursor.Closes.exchange` — it reports the same with any text behind that brace
* `entries_exchange_behind` — so does the scan of an enum in a source
-/

namespace EnumBindings.Block

namespace Cursor

variable {start last last' : Cursor} {met met' : List Entry} {before other : Text}

/-- A scan comes to only one cursor at which it closes. -/
theorem Passes.eq_of_closed (passed : Passes start met last) (closed : last.step = .closed)
    (passed' : Passes start met' last') (closed' : last'.step = .closed) : last = last' := by
  induction passed generalizing met' with
  | refl =>
    cases passed' with
    | refl => rfl
    | step advanced _ => cases closed.symm.trans advanced
  | step advanced _ ih =>
    cases passed' with
    | refl => cases closed'.symm.trans advanced
    | step advanced' later =>
      -- Both passages take the same first step.
      cases advanced.symm.trans advanced'
      exact ih closed later

/-- A scan closes at only one brace. -/
theorem Closes.unique (closes : Closes start before) (closes' : Closes start other) :
    before = other := by
  obtain ⟨_, last, _, behind, passed, closed, found, whole⟩ := closes
  obtain ⟨_, last', _, behind', passed', closed', found', whole'⟩ := closes'
  obtain rfl := passed.eq_of_closed closed passed' closed'
  rw [found] at found'
  cases found'
  exact List.append_cancel_right (whole.symm.trans whole')

/-- A scan that closes at a brace reports the same with any text behind that brace, and closes
there again. -/
theorem Closes.exchange (closes : Closes start before) (tail : Text) :
    Closes ⟨start.line, before ++ '}' :: tail, start.pending⟩ before ∧
      (⟨start.line, before ++ '}' :: tail, start.pending⟩ : Cursor).scan = start.scan := by
  obtain ⟨met, last, front, behind, passed, closed, found, whole⟩ := closes
  have left : last.rest = front ++ ['}'] ++ behind := (Token.next?_append found).1
  have whole' : start.rest = before ++ ['}'] ++ behind := by simpa using whole
  have passed' := passed.exchange whole' left (fun _ => .inr (by simp))
    (fun nothing => by simp at nothing) tail
  -- The brace itself is found with any text behind it, as it ends the text that was searched.
  rw [left] at found
  obtain ⟨kept, nothing, -, found'⟩ := Token.next?_exchange (.inr (by simp)) rfl rfl found
  obtain rfl : kept = [] := by simpa using nothing.symm
  have closed' : step ⟨last.line, front ++ ['}'] ++ tail, last.pending⟩ = .closed :=
    step_eq_closed_iff.mpr ⟨front, tail, found' tail⟩
  have shape : before ++ '}' :: tail = before ++ ['}'] ++ tail := by simp
  rw [shape]
  refine ⟨⟨met, _, front, tail, passed', closed', found' tail, by simp⟩, ?_⟩
  rw [passed'.scan_eq, passed.scan_eq, scan_of_closed closed', scan_of_closed closed]

end Cursor

/-- The scan of an enum in a source stops at a closing brace, and this is the text in front of the
brace. -/
def StopsBehind (enum source before : Text) : Prop :=
  ∃ front line body inside, opening enum source = .ok (line, body) ∧ source = front ++ body ∧
    Cursor.Closes ⟨line, body, []⟩ inside ∧ before = front ++ inside

/-- The scan of an enum stops at only one brace. -/
theorem StopsBehind.unique {enum source before other : Text} (stops : StopsBehind enum source before)
    (stops' : StopsBehind enum source other) : before = other := by
  obtain ⟨front, line, body, inside, opened, whole, closes, rfl⟩ := stops
  obtain ⟨front', line', body', inside', opened', whole', closes', rfl⟩ := stops'
  rw [opened] at opened'
  cases opened'
  rw [List.append_cancel_right (whole.symm.trans whole'), closes.unique closes']

/-- The scan of an enum reports the same with any text behind the brace at which it stops, and
stops there again. -/
theorem StopsBehind.exchange {enum source before : Text} (stops : StopsBehind enum source before)
    (tail : Text) : StopsBehind enum (before ++ '}' :: tail) before ∧
      scan enum (before ++ '}' :: tail) = scan enum source := by
  obtain ⟨front, line, body, inside, opened, whole, closes, rfl⟩ := stops
  obtain ⟨front', whole', opened'⟩ := opening_exchange opened
  obtain rfl : front = front' := List.append_cancel_right (whole.symm.trans whole')
  obtain ⟨again, same⟩ := closes.exchange tail
  rw [List.append_assoc]
  refine ⟨⟨front, line, _, inside, opened' _, rfl, again, rfl⟩, ?_⟩
  rw [scan, opened', scan, opened]
  exact same

/-- The scan of an enum that comes to its end stops at a brace. -/
theorem exists_stopsBehind {enum source : Text} (done : (scan enum source).result = .ok ()) :
    ∃ before behind, source = before ++ '}' :: behind ∧ StopsBehind enum source before := by
  rw [scan] at done
  cases opened : opening enum source with
  | error fault =>
    rw [opened] at done
    cases done
  | ok block =>
    obtain ⟨line, body⟩ := block
    rw [opened] at done
    obtain ⟨front, whole, -⟩ := opening_exchange opened
    obtain ⟨inside, closes⟩ := Cursor.exists_closes done
    obtain ⟨_, _, _, behind, _, _, _, shape⟩ := id closes
    have shape : body = inside ++ '}' :: behind := shape
    exact ⟨front ++ inside, behind, by rw [whole, shape, List.append_assoc], front, line, body,
      inside, opened, whole, closes, rfl⟩

/-- The entries of an enum depend only on the text up to the closing brace of its block. There is
one brace at which the scan stops, and with any other text behind it the scan reports the same
entries with the same documentation. -/
theorem entries_exchange_behind {enum source : Text} {found : List Entry}
    (read : entries enum source = .ok found) :
    ∃ before behind, source = before ++ '}' :: behind ∧ StopsBehind enum source before ∧
      (∀ other, StopsBehind enum source other → other = before) ∧
      ∀ tail, StopsBehind enum (before ++ '}' :: tail) before ∧
        scan enum (before ++ '}' :: tail) = scan enum source ∧
        entries enum (before ++ '}' :: tail) = .ok found := by
  obtain ⟨before, behind, whole, stops⟩ := exists_stopsBehind (entries_eq_ok_iff.mp read).1
  refine ⟨before, behind, whole, stops, fun other stops' => stops'.unique stops, fun tail => ?_⟩
  obtain ⟨again, same⟩ := stops.exchange tail
  refine ⟨again, same, ?_⟩
  rw [← read, entries, entries, same]

/-- A block with a closing brace in a comment. -/
def bracedBlock : Text :=
  ['A', '=', '1', ';', '/', '*', '}', '*', '/']

/-- The brace in the comment of such a block does not close it, and a comment that is opened behind
the one that does is not looked at. -/
theorem entries_exchange_bracedBlock :
    entries ['X'] (headerText ['X'] ++ '{' :: bracedBlock ++ '}' :: ['/', '*', 'B', '=']) =
        .ok [Entry.ofIdentifier ['A'] [['}']]] ∧
      StopsBehind ['X'] (headerText ['X'] ++ '{' :: bracedBlock ++ '}' :: ['/', '*', 'B', '='])
        (headerText ['X'] ++ '{' :: bracedBlock) ∧
      ∀ tail, entries ['X'] (headerText ['X'] ++ '{' :: bracedBlock ++ '}' :: tail) =
        .ok [Entry.ofIdentifier ['A'] [['}']]] := by
  have opened : opening ['X']
      (headerText ['X'] ++ '{' :: bracedBlock ++ '}' :: ['/', '*', 'B', '=']) =
        .ok (1, bracedBlock ++ '}' :: ['/', '*', 'B', '=']) := rfl
  have met : Cursor.step ⟨1, bracedBlock ++ '}' :: ['/', '*', 'B', '='], []⟩ =
      .advanced (some (Entry.ofIdentifier ['A'] [['}']])) ⟨1, ['}', '/', '*', 'B', '='], []⟩ := rfl
  have closed : Cursor.step ⟨1, ['}', '/', '*', 'B', '='], []⟩ = .closed := rfl
  have read : entries ['X']
      (headerText ['X'] ++ '{' :: bracedBlock ++ '}' :: ['/', '*', 'B', '=']) =
        .ok [Entry.ofIdentifier ['A'] [['}']]] := by
    rw [entries, scan, opened]
    dsimp only
    rw [Cursor.scan_of_advanced met, Cursor.scan_of_closed closed]
    rfl
  have stops : StopsBehind ['X']
      (headerText ['X'] ++ '{' :: bracedBlock ++ '}' :: ['/', '*', 'B', '='])
      (headerText ['X'] ++ '{' :: bracedBlock) :=
    ⟨headerText ['X'] ++ ['{'], 1, _, bracedBlock, opened, rfl,
      ⟨_, _, [], _, .single met, closed, rfl, rfl⟩, rfl⟩
  obtain ⟨before, behind, whole, -, unique, same⟩ := entries_exchange_behind read
  obtain rfl := unique _ stops
  exact ⟨read, stops, fun tail => (same tail).2.2⟩

end EnumBindings.Block
