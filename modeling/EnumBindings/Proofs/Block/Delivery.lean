import EnumBindings.Proofs.Block.Passage
import EnumBindings.Proofs.Text.Trimming

/-!
# What a scan delivers

A scan delivers entries, one after the other. Only when it comes to the closing brace it says that
it is finished, and then it delivers nothing more; a scan that fails never says so. All entries have
names that a statement can have: what stands between a cursor and the `=` of a statement holds no
other token.

## Main definitions

* `StatementName` — a text that can be the name of an entry

## Main results

* `Cursor.Advances.statementName` — a step meets entries with such names only
* `Cursor.exists_events` — the events of a scan from any cursor
* `delivered_then_finished` — the events of a scan, and what they have to do with its result
-/

namespace EnumBindings.Block

/-- A text that can be the name of an entry: it is there, has no white space at its ends and no
token in it, and is no option. -/
structure StatementName (name : Text) : Prop where
  nonempty : name ≠ []
  trimmed : trim name = name
  unassigned : '=' ∉ name
  unbraced : '}' ∉ name
  inline : '\n' ∉ name
  noRemark : ¬ ['/', '/'] <:+: name
  noNote : ¬ ['/', '*'] <:+: name
  noOption : ∀ c rest, name = "option".toList ++ c :: rest → isBlank c = false

/-- A statement that begins with the word `option` and white space is an option. -/
theorem isOption_eq_false_iff {name : Text} : isOption name = false ↔
    ∀ c rest, name = "option".toList ++ c :: rest → isBlank c = false := by
  rw [isOption]
  constructor
  · rintro other c rest whole
    have found : Text.stripPrefix? "option".toList name = some (c :: rest) :=
      Text.stripPrefix?_eq_some_iff.mpr whole
    rw [found] at other
    exact other
  · intro visible
    split
    next c rest found => exact visible c rest (Text.stripPrefix?_eq_some_iff.mp found)
    next => rfl

namespace Cursor

variable {cursor next : Cursor} {entry : Entry}

/-- A step meets an entry with the name of a statement, after which its constant is named. -/
theorem Advances.statementName (advance : Advances cursor (some entry) next) :
    StatementName entry.identifier ∧
      entry.constant = ConstantName.ofIdentifier entry.identifier := by
  cases advance with
  | @entry before after tail found _ named other =>
    have clear := (Token.next?_eq_some_iff.mp found).2.2
    -- The name is a part of what stands in front of the sign, where no token begins.
    have part : trim before <:+: before := trim_isInfix before
    have missing (c : Char) (there : c ∈ trim before) : c ∈ before := part.subset there
    refine ⟨⟨named, trim_trim, ?_, ?_, ?_, ?_, ?_, isOption_eq_false_iff.mp other⟩, rfl⟩
    · exact fun there => Text.clear_singleton_iff.mp (clear .assign rfl) (missing _ there)
    · exact fun there => Text.clear_singleton_iff.mp (clear .closeBrace rfl) (missing _ there)
    · exact fun there => Text.clear_singleton_iff.mp (clear .lineEnd rfl) (missing _ there)
    · exact fun there => (Text.clear_pair_iff.mp (clear .lineComment rfl)).1 (there.trans part)
    · exact fun there => (Text.clear_pair_iff.mp (clear .blockComment rfl)).1 (there.trans part)

/-- Each entry that a scan delivers has the name of a statement, and its constant is named after
it. -/
theorem statementName_of_mem (there : .entry entry ∈ cursor.scan.events) :
    StatementName entry.identifier ∧
      entry.constant = ConstantName.ofIdentifier entry.identifier := by
  obtain ⟨_, last, next, -, met⟩ := entry_mem_events_iff.mp there
  exact (step_eq_advanced_iff.mp met).statementName

/-- What a scan says at its end. -/
def closing : Except Fault Unit → List Event
  | .ok () => [.finished]
  | .error _ => []

/-- The events of a scan are entries, and then what it says at its end. -/
theorem exists_events (cursor : Cursor) : ∃ found : List Entry,
    cursor.scan.events = found.map .entry ++ closing cursor.scan.result := by
  induction cursor using scan.induct with
  | case1 cursor closed =>
    rw [scan_of_closed closed]
    exact ⟨[], rfl⟩
  | case2 cursor fault failed =>
    rw [scan_of_failed failed]
    exact ⟨[], rfl⟩
  | case3 cursor next advanced ih =>
    rw [scan_of_advanced advanced]
    exact ih
  | case4 cursor entry next advanced ih =>
    obtain ⟨found, later⟩ := ih
    rw [scan_of_advanced advanced]
    refine ⟨entry :: found, ?_⟩
    rw [later]
    rfl

end Cursor

variable {enum source : Text} {found : List Entry}

/-- The entries among the events of a scan are those in front of what it says at its end. -/
theorem filterMap_toEntry_closing (found : List Entry) (result : Except Fault Unit) :
    (found.map Event.entry ++ Cursor.closing result).filterMap Event.toEntry = found := by
  have nothing : (Cursor.closing result).filterMap Event.toEntry = [] := by
    cases result <;> rfl
  rw [List.filterMap_append, filterMap_toEntry, nothing, List.append_nil]

/-- The events of the scan of an enum are entries, and then what it says at its end. -/
theorem exists_events (enum source : Text) : ∃ found : List Entry,
    (scan enum source).events = found.map .entry ++ Cursor.closing (scan enum source).result ∧
      ∀ entry ∈ found, StatementName entry.identifier ∧
        entry.constant = ConstantName.ofIdentifier entry.identifier := by
  rw [scan]
  split
  next => exact ⟨[], rfl, by simp⟩
  next line body _ =>
    obtain ⟨found, events⟩ := Cursor.exists_events ⟨line, body, []⟩
    refine ⟨found, events, fun entry there => ?_⟩
    have delivered : Event.entry entry ∈ (⟨line, body, []⟩ : Cursor).scan.events := by
      rw [events]
      simp [there]
    exact Cursor.statementName_of_mem delivered

/-- The scan of an enum delivers entries with the names of statements. If it comes to its end, it
says after them that it is finished, once and as its last word; if it fails, it never does. The
entries of the enum are those that come before it is finished, and there are none but for the fault
of the scan otherwise. -/
theorem delivered_then_finished (enum source : Text) : ∃ found : List Entry,
    (∀ entry ∈ found, StatementName entry.identifier) ∧
    ((scan enum source).result = .ok () ∧
        (scan enum source).events = found.map .entry ++ [.finished] ∨
      (∃ fault, (scan enum source).result = .error fault) ∧
        (scan enum source).events = found.map .entry) ∧
    (∀ all, entries enum source = .ok all ↔
      (scan enum source).events = all.map .entry ++ [.finished]) ∧
    ∀ fault, entries enum source = .error fault ↔ (scan enum source).result = .error fault := by
  obtain ⟨found, events, named⟩ := exists_events enum source
  refine ⟨found, fun entry there => (named entry there).1, ?_⟩
  cases result : (scan enum source).result with
  | ok done =>
    rw [result] at events
    have read : entries enum source = .ok found := by
      refine entries_eq_ok_iff.mpr ⟨result, ?_⟩
      rw [events, filterMap_toEntry_closing]
    refine ⟨.inl ⟨rfl, events⟩, fun all => ?_, fun fault => by simp [read]⟩
    rw [read, events, Except.ok.injEq]
    constructor
    · rintro rfl
      rfl
    · intro same
      exact (List.map_inj_right fun _ _ => Event.entry.inj).mp (List.append_cancel_right same)
  | error fault =>
    rw [result] at events
    have failed : entries enum source = .error fault := by
      rw [entries, result]
      rfl
    have unfinished : (scan enum source).events = found.map .entry := by
      rw [events]
      exact List.append_nil _
    refine ⟨.inr ⟨⟨fault, rfl⟩, unfinished⟩, fun all => ?_, fun other => by simp [failed]⟩
    rw [failed, unfinished]
    refine iff_of_false (by simp) fun same => ?_
    -- An entry would have to be what is said at the end.
    have last : Event.finished ∈ found.map Event.entry := by
      rw [same]
      simp
    simp at last

end EnumBindings.Block
