import EnumBindings.Proofs.Draft.Buffers

/-!
# Constants that are laid out late

The constants can be laid out when a draft has been in use for a while. The file is then to have
the entries that came since, separated and ended as ever. Two histories spoil it, because a draft
remembers how many entries it has seen and that its list was ended, but not for which buffer: a
list that joins behind an ending is never ended itself if no entry comes, and a list that joins
behind an entry and is ended at once begins with a separator when its first entry comes.

## Main definitions

* `Draft.emitted` — what the code of a draft has for a section
* `JoinsEnded`, `JoinsCounting` — the two histories

## Main results

* `Draft.emitted_constants_iff` — the constants are as they are to be exactly in all other cases
-/

namespace EnumBindings

/-- The constants join a draft whose list was ended last, and no entry comes after them. -/
def JoinsEnded (before after : List Edit) : Prop :=
  (Edit.marks before).getLast? = some .finish ∧ Edit.entries after = []

/-- The constants join a draft to which an entry was added last, and the list is ended before the
next entry comes. -/
def JoinsCounting (before after : List Edit) : Prop :=
  (∃ entry, (Edit.marks before).getLast? = some (.entry entry)) ∧
    (Edit.marks after).head? = some .finish ∧ Edit.entries after ≠ []

namespace Draft

/-- What the code of a draft has for a section. -/
def emitted (draft : Draft) (which : Section) : Text :=
  draft.finish.pieceText (.slot which)

variable {enum : Text}

/-- A section is laid out by the requests that push it. -/
theorem slot_mem_editsOf {which : Section} {requests : List Request} :
    .slot which ∈ editsOf enum requests ↔ .pushSection which ∈ requests := by
  -- No other request lays a section out, also not one that adds a source.
  have batched (entries : List Entry) : Edit.slot which ∉ batch entries := by
    simp [batch]
  have none (found : Except SourceFailure (List Entry)) : Edit.slot which ∉ offered found := by
    cases found with
    | error cause => exact List.not_mem_nil
    | ok entries => exact batched entries
  have single (request : Request) : .slot which ∈ request.edits enum ↔
      request = .pushSection which := by
    cases request <;> simp [Request.edits, batched, none, eq_comm]
  simp [editsOf, single]

/-- A draft is finished if its last mark was an ending. -/
theorem finished_edited_empty (edits : List Edit) :
    ((empty enum).edited edits).finished = true ↔
      (Edit.marks edits).getLast? = some .finish := by
  rw [finished_edited]
  cases (Edit.marks edits).getLast? with
  | none => simp [empty]
  | some mark => simp

/-- An unfinished draft has counted entries if its last mark was an entry. -/
theorem unfinished_counted_iff (edits : List Edit) :
    (((empty enum).edited edits).finished = false ∧ 0 < ((empty enum).edited edits).count) ↔
      ∃ entry, (Edit.marks edits).getLast? = some (.entry entry) := by
  rw [finished_edited]
  constructor
  · rintro ⟨unfinished, counted⟩
    cases last : (Edit.marks edits).getLast? with
    | none =>
      have unmarked := List.getLast?_eq_none_iff.mp last
      rw [count_edited, Edit.entries_eq_nil_of_marks unmarked] at counted
      exact absurd counted (by simp [empty])
    -- A mark that is no ending is an entry.
    | some mark =>
      have kind := (List.mem_filter.mp (List.mem_of_getLast? last)).2
      rw [last] at unfinished
      cases mark with
      | entry entry => exact ⟨entry, rfl⟩
      | finish => exact absurd unfinished (by simp)
      | text text => exact absurd kind (by simp [Edit.isMark])
      | slot which => exact absurd kind (by simp [Edit.isMark])
  · rintro ⟨entry, last⟩
    have among := (List.mem_filter.mp (List.mem_of_getLast? last)).1
    have added : entry ∈ Edit.entries edits := List.mem_filterMap.mpr ⟨_, among, rfl⟩
    refine ⟨by rw [last]; simp, ?_⟩
    rw [count_edited]
    exact Nat.add_pos_right _ (List.length_pos_of_mem added)

variable {before after : List Edit}

/-- The code of a draft whose constants are laid out at some point. -/
private theorem emitted_eq (new : .slot .constants ∉ before) :
    ((empty enum).edited (before ++ .slot .constants :: after)).emitted .constants =
      if Edit.entries after = [] then
        if ((empty enum).edited before).finished then [] else terminator
      else
        (if ((empty enum).edited before).finished = false ∧
            0 < ((empty enum).edited before).count ∧
            (Edit.marks after).head? = some .finish then separator else []) ++
          Section.constants.rendering enum (Edit.entries after) := by
  have emission := pieceText_finish_edited (@get?_apply_slot before .constants enum new) after
  rw [lead, enum_apply, enum_edited] at emission
  rw [edited_append, edited_cons]
  exact emission

/-- Constants that join behind an ending, with no entry to come, are missing with their
terminator. -/
theorem emitted_of_joinsEnded (new : .slot .constants ∉ before)
    (joins : JoinsEnded before after) :
    ((empty enum).edited (before ++ .slot .constants :: after)).emitted .constants = [] := by
  rw [emitted_eq new, if_pos joins.2, if_pos ((finished_edited_empty before).mpr joins.1)]

/-- Constants that join behind an entry, and are ended before the next one, begin with a
separator. -/
theorem emitted_of_joinsCounting (new : .slot .constants ∉ before)
    (joins : JoinsCounting before after) :
    ((empty enum).edited (before ++ .slot .constants :: after)).emitted .constants =
      separator ++ Section.constants.rendering enum (Edit.entries after) := by
  obtain ⟨last, first, nonempty⟩ := joins
  obtain ⟨unfinished, counted⟩ := (@unfinished_counted_iff enum before).mpr last
  rw [emitted_eq new, if_neg nonempty, if_pos ⟨unfinished, counted, first⟩]

/-- In all other cases the constants are as they are to be. -/
theorem emitted_of_not_joins (new : .slot .constants ∉ before)
    (notEnded : ¬ JoinsEnded before after) (notCounting : ¬ JoinsCounting before after) :
    ((empty enum).edited (before ++ .slot .constants :: after)).emitted .constants =
      Section.constants.rendering enum (Edit.entries after) := by
  rw [emitted_eq new]
  by_cases none : Edit.entries after = []
  · have unfinished : ¬ ((empty enum).edited before).finished = true := fun finished =>
      notEnded ⟨(finished_edited_empty before).mp finished, none⟩
    rw [if_pos none, if_neg unfinished, none]
    rfl
  · have whole : ¬ (((empty enum).edited before).finished = false ∧
        0 < ((empty enum).edited before).count ∧ (Edit.marks after).head? = some .finish) := by
      rintro ⟨unfinished, counted, first⟩
      exact notCounting ⟨(unfinished_counted_iff before).mp ⟨unfinished, counted⟩, first, none⟩
    rw [if_neg none, if_neg whole, List.nil_append]

/-- Whatever the order of requests, the code has for the constants exactly the entries since they
were laid out, separated and ended, unless they joined behind an ending with no entry to come, or
behind an entry with an ending before the next one. In the first case it has nothing for them, in
the second there is a separator in front. -/
theorem emitted_constants_iff {before after : List Request}
    (new : .pushSection .constants ∉ before) :
    (((empty enum).run (before ++ .pushSection .constants :: after)).emitted .constants =
        Section.constants.rendering enum (Edit.entries (editsOf enum after)) ↔
      ¬ (JoinsEnded (editsOf enum before) (editsOf enum after) ∨
        JoinsCounting (editsOf enum before) (editsOf enum after))) ∧
    (JoinsEnded (editsOf enum before) (editsOf enum after) →
      ((empty enum).run (before ++ .pushSection .constants :: after)).emitted .constants = []) ∧
    (JoinsCounting (editsOf enum before) (editsOf enum after) →
      ((empty enum).run (before ++ .pushSection .constants :: after)).emitted .constants =
        separator ++ Section.constants.rendering enum (Edit.entries (editsOf enum after))) := by
  have new' : .slot .constants ∉ editsOf enum before := fun there =>
    new (slot_mem_editsOf.mp there)
  have whole : (empty enum).run (before ++ .pushSection .constants :: after) =
      (empty enum).edited (editsOf enum before ++ .slot .constants :: editsOf enum after) := by
    rw [run_empty, editsOf_append, editsOf_cons]
    rfl
  -- In both histories the text differs from the expected one already in its length.
  rw [whole]
  refine ⟨⟨?_, ?_⟩, emitted_of_joinsEnded new', emitted_of_joinsCounting new'⟩
  · rintro expected (joins | joins)
    · rw [emitted_of_joinsEnded new' joins] at expected
      have empty_list := congrArg List.length expected
      simp [Section.rendering, terminator] at empty_list
    · rw [emitted_of_joinsCounting new' joins] at expected
      have longer := congrArg List.length expected
      rw [List.length_append] at longer
      have some_length : 0 < separator.length := by decide
      omega
  · intro other
    rw [not_or] at other
    exact emitted_of_not_joins new' other.1 other.2

/-- Constants that join a new draft between two of its entries come out with the second. -/
theorem emitted_constants_sample :
    ((empty ['E']).run ([.add (.ofIdentifier ['A'] [])] ++ .pushSection .constants ::
      [.add (.ofIdentifier ['B'] [])])).emitted .constants = "    B(E.B);\n\n".toList := by
  have new : Request.pushSection .constants ∉ [Request.add (.ofIdentifier ['A'] [])] := by simp
  have joins : ¬ (JoinsEnded (editsOf ['E'] [.add (.ofIdentifier ['A'] [])])
        (editsOf ['E'] [.add (.ofIdentifier ['B'] [])]) ∨
      JoinsCounting (editsOf ['E'] [.add (.ofIdentifier ['A'] [])])
        (editsOf ['E'] [.add (.ofIdentifier ['B'] [])])) := by
    rintro (⟨last, -⟩ | ⟨-, first, -⟩)
    · cases last
    · cases first
  exact ((emitted_constants_iff new).1.mpr joins).trans rfl

/-- Both histories occur: the constants begin with a separator, or are missing altogether. -/
theorem emitted_constants_of_late_sections :
    ((empty ['E']).run [.add (.ofIdentifier ['A'] []), .pushSection .constants, .finish,
        .add (.ofIdentifier ['B'] [])]).emitted .constants ≠
          Section.constants.rendering ['E'] [.ofIdentifier ['B'] []] ∧
      ((empty ['E']).run [.finish, .pushSection .constants]).emitted .constants ≠
        Section.constants.rendering ['E'] [] := by
  have separated : ((empty ['E']).run [.add (.ofIdentifier ['A'] []), .pushSection .constants,
      .finish, .add (.ofIdentifier ['B'] [])]).emitted .constants =
        ",\n\n    B(E.B);\n\n".toList := rfl
  have one : Section.constants.rendering ['E'] [.ofIdentifier ['B'] []] =
      "    B(E.B);\n\n".toList := rfl
  have missing : ((empty ['E']).run [.finish, .pushSection .constants]).emitted .constants = [] :=
    rfl
  have none : Section.constants.rendering ['E'] [] = ";\n\n".toList := rfl
  rw [separated, one, missing, none]
  exact ⟨by simp, by simp⟩

end Draft

end EnumBindings
