import EnumBindings.Proofs.Draft.Requests

/-!
# What the buffers of a draft hold

A section other than the constants holds the renderings of the entries since it was laid out. The
constants take more care, as their separators and their terminator are put on and taken off at the
end of the buffer: once an entry has been rendered into it, the buffer stays well-formed, apart
from what was in front of that entry.

## Main definitions

* `Entry.item` — a constant without its separator
* `caseText` — a case with what it returns
* `Section.rendering` — all entries in a section, as they are to be in the file
* `Draft.Steady` — a list of constants that is well-formed behind some leading text
* `Draft.lead` — what stands in front of the first constant

## Main results

* `Draft.get?_edited_of_ne` — the other sections hold the entries since they were laid out
* `Draft.Steady.apply`, `Draft.Steady.edited` — the list of constants stays well-formed
* `Draft.pieceText_finish_edited` — what the constants are in the file
-/

namespace EnumBindings

/-! ### Renderings of lists of entries -/

/-- A constant without its separator. -/
def Entry.item (enum : Text) (entry : Entry) : Text :=
  javadoc entry.docs ++ indent 1 ++ entry.constant ++ ['('] ++ enum ++ ['.'] ++
    entry.identifier ++ [')']

/-- A case of a `switch` with what it returns. -/
def caseText (label result : Text) : Text :=
  "            case ".toList ++ label ++ ":\n                return ".toList ++ result ++
    ";\n".toList

/-- All entries in a section, as they are to be in the file. The constants are separated by commas
and ended by a semicolon, also if there are none. In the other sections each entry has a case: its
constant is returned for its identifier, and for its constant the name of that in quotes. -/
def Section.rendering (enum : Text) (entries : List Entry) : Section → Text
  | .constants =>
    Draft.separator.intercalate (entries.map (·.item enum)) ++ Draft.terminator
  | .valueOf => entries.flatMap fun entry => caseText entry.identifier entry.constant
  | .toString => entries.flatMap fun entry =>
    caseText entry.constant (['"'] ++ entry.constant ++ ['"'])

/-- A constant is rendered with its separator. -/
theorem Entry.renderConstant_eq (enum : Text) (entry : Entry) :
    entry.renderConstant enum = entry.item enum ++ Draft.separator := by
  have closing : "),\n\n".toList = [')'] ++ Draft.separator := rfl
  rw [renderConstant, item, closing, ← List.append_assoc]

/-- A case has two lines, the second one further in. -/
theorem caseText_eq (label result : Text) : caseText label result =
    indent 3 ++ "case ".toList ++ label ++ ":\n".toList ++ indent 4 ++ "return ".toList ++ result ++
      ";\n".toList := by
  have first : "            case ".toList = indent 3 ++ "case ".toList := by decide
  have second : ":\n                return ".toList =
      ":\n".toList ++ (indent 4 ++ "return ".toList) := by decide
  unfold caseText
  rw [first, second]
  simp only [List.append_assoc]

theorem Entry.renderValueOf_eq (entry : Entry) :
    entry.renderValueOf = caseText entry.identifier entry.constant := by
  rw [caseText_eq, renderValueOf]

theorem Entry.renderToString_eq (entry : Entry) :
    entry.renderToString = caseText entry.constant (['"'] ++ entry.constant ++ ['"']) := by
  have quote : "return \"".toList = "return ".toList ++ ['"'] := rfl
  have closing : "\";\n".toList = ['"'] ++ ";\n".toList := rfl
  rw [caseText_eq, renderToString, quote, closing]
  simp only [List.append_assoc]

/-- The sections other than the constants are the renderings of the entries, one after the other. -/
theorem Section.rendering_of_ne {which : Section} (other : which ≠ .constants) (enum : Text)
    (entries : List Entry) :
    which.rendering enum entries = entries.flatMap fun entry => entry.render enum which := by
  cases which with
  | constants => exact absurd rfl other
  | valueOf => simp only [rendering, Entry.render, Entry.renderValueOf_eq]
  | toString => simp only [rendering, Entry.render, Entry.renderToString_eq]

/-- The constants as they are rendered, one after the other. -/
def listed (enum : Text) (entries : List Entry) : Text :=
  entries.flatMap (Entry.renderConstant enum)

theorem listed_eq {enum : Text} {entries : List Entry} (nonempty : entries ≠ []) :
    listed enum entries =
      Draft.separator.intercalate (entries.map (·.item enum)) ++ Draft.separator := by
  induction entries with
  | nil => exact absurd rfl nonempty
  | cons entry entries ih =>
    cases entries with
    | nil => simp [listed, Entry.renderConstant_eq]
    | cons second entries =>
      have later := ih (List.cons_ne_nil second entries)
      rw [listed, List.flatMap_cons, ← listed, later, Entry.renderConstant_eq]
      simp only [List.map_cons, List.intercalate_cons_cons, List.append_assoc]

/-- Each constant but the last is separated from those that follow. -/
theorem rendering_cons_cons (enum : Text) (entry next : Entry) (later : List Entry) :
    Section.constants.rendering enum (entry :: next :: later) =
      entry.item enum ++ Draft.separator ++ Section.constants.rendering enum (next :: later) := by
  simp only [Section.rendering, List.map_cons, List.intercalate_cons_cons, List.append_assoc]

namespace Draft

/-! ### Separators and terminators -/

/-- The last separator gives way to the terminator. -/
theorem terminate_listed {enum : Text} {entries : List Entry} (nonempty : entries ≠ [])
    (lead : Text) :
    terminate (lead ++ listed enum entries) = lead ++ Section.constants.rendering enum entries := by
  have whole : lead ++ listed enum entries =
      lead ++ separator.intercalate (entries.map (·.item enum)) ++ separator := by
    rw [listed_eq nonempty, List.append_assoc]
  rw [terminate, Text.stripSuffix?_eq_some_iff.mpr whole, Option.getD_some, List.append_assoc]
  rfl

/-- The terminator gives way to a separator. -/
theorem reopen_rendering {enum : Text} {entries : List Entry} (nonempty : entries ≠ [])
    {count : Nat} (counted : 0 < count) (lead : Text) :
    reopen count (lead ++ Section.constants.rendering enum entries) =
      lead ++ listed enum entries := by
  have whole : lead ++ Section.constants.rendering enum entries =
      lead ++ separator.intercalate (entries.map (·.item enum)) ++ terminator := by
    rw [Section.rendering, List.append_assoc]
  rw [reopen, Text.stripSuffix?_eq_some_iff.mpr whole]
  simp only [if_pos counted]
  rw [listed_eq nonempty, List.append_assoc]

theorem terminate_nil : terminate [] = terminator := rfl

theorem reopen_nil (count : Nat) : reopen count [] = [] := rfl

theorem reopen_terminator (count : Nat) :
    reopen count terminator = if 0 < count then separator else [] := by
  have whole : terminator = [] ++ terminator := rfl
  rw [reopen, Text.stripSuffix?_eq_some_iff.mpr whole]
  simp

/-! ### How edits change a buffer -/

variable (draft : Draft) (edits : List Edit) (which : Section)

theorem get?_finish : draft.finish.buffers.get? which =
    (draft.buffers.get? which).map fun text =>
      if which = .constants ∧ draft.finished = false then terminate text else text := by
  rw [finish]
  by_cases ended : draft.finished = true
  · simp [ended]
  · simp [ended, mapConstants]

theorem get?_add (entry : Entry) : (draft.add entry).buffers.get? which =
    (draft.buffers.get? which).map fun text =>
      (if which = .constants ∧ draft.finished = true then reopen draft.count text else text) ++
        entry.render draft.enum which := by
  rw [add]
  -- A draft that is finished is opened again first, which concerns the constants only.
  by_cases ended : draft.finished = true
  · simp [unfinished, ended, mapConstants, Function.comp_def]
  · simp [unfinished, ended]

theorem get?_pushSection (other : Section) : (draft.pushSection other).buffers.get? which =
    if which = other then some ((draft.buffers.get? other).getD []) else
      draft.buffers.get? which := by
  rw [pushSection, Buffers.get?_ensure]

variable {draft which} in
/-- A section that has a buffer keeps it when sections are laid out. -/
theorem get?_pushSection_of_some {text : Text} (there : draft.buffers.get? which = some text)
    (other : Section) : (draft.pushSection other).buffers.get? which = some text := by
  rw [get?_pushSection]
  by_cases same : which = other
  · rw [if_pos same, ← same, there]
    rfl
  · rw [if_neg same, there]

/-- A section that is not laid out has no buffer. -/
theorem get?_edited_eq_none (missing : draft.buffers.get? which = none)
    (never : .slot which ∉ edits) : (draft.edited edits).buffers.get? which = none := by
  induction edits generalizing draft with
  | nil => exact missing
  | cons edit edits ih =>
    rw [List.mem_cons, not_or] at never
    refine ih (draft.apply edit) ?_ never.2
    cases edit with
    | text text => exact missing
    | slot other =>
      have different : which ≠ other := fun same => never.1 (by rw [same])
      rw [apply, get?_pushSection, if_neg different, missing]
    | entry entry => rw [apply, get?_add, missing, Option.map_none]
    | finish => rw [apply, get?_finish, missing, Option.map_none]

/-- A section that has a buffer keeps one. -/
theorem isSome_get?_edited (there : (draft.buffers.get? which).isSome) :
    ((draft.edited edits).buffers.get? which).isSome := by
  induction edits generalizing draft with
  | nil => exact there
  | cons edit edits ih =>
    apply ih
    obtain ⟨text, held⟩ := Option.isSome_iff_exists.mp there
    cases edit with
    | text text => exact there
    | slot other =>
      rw [apply, get?_pushSection_of_some held]
      rfl
    | entry entry => simp [apply, get?_add, held]
    | finish => simp [apply, get?_finish, held]

variable {draft edits which} in
/-- A section that is laid out has a buffer in the end. -/
theorem isSome_get?_of_mem (laid : .slot which ∈ edits) :
    ((draft.edited edits).buffers.get? which).isSome := by
  obtain ⟨before, after, rfl⟩ := List.append_of_mem laid
  rw [edited_append, edited_cons]
  apply isSome_get?_edited
  rw [apply, get?_pushSection, if_pos rfl]
  rfl

/-- A section that is laid out for the first time is empty. -/
theorem get?_apply_slot {enum : Text} (new : .slot which ∉ edits) :
    (((empty enum).edited edits).apply (.slot which)).buffers.get? which = some [] := by
  have missing : (empty enum).buffers.get? which = none := by
    cases which <;> rfl
  rw [apply, get?_pushSection, if_pos rfl, get?_edited_eq_none _ _ _ missing new]
  rfl

/-- A section other than the constants holds the entries since it was laid out. -/
theorem get?_edited_of_ne {text : Text} (other : which ≠ .constants)
    (there : draft.buffers.get? which = some text) :
    (draft.edited edits).buffers.get? which =
      some (text ++ (Edit.entries edits).flatMap fun entry => entry.render draft.enum which) := by
  induction edits generalizing draft text with
  | nil => simpa [Edit.entries] using there
  | cons edit edits ih =>
    have next : (draft.apply edit).buffers.get? which =
        some (text ++ edit.added?.toList.flatMap fun entry => entry.render draft.enum which) := by
      cases edit with
      | text _ => simpa [apply, pushText, Edit.added?] using there
      | slot pushed =>
        rw [apply, get?_pushSection_of_some there]
        simp [Edit.added?]
      | entry entry => simp [apply, get?_add, there, other, Edit.added?]
      | finish => simp [apply, get?_finish, there, other, Edit.added?]
    rw [edited_cons, ih (draft.apply edit) next, enum_apply, Edit.entries_cons,
      List.flatMap_append, List.append_assoc]

/-! ### The constants -/

/-- The list of constants is well-formed behind some leading text: it has some entries, and is
ended if the draft is finished. -/
structure Steady (lead : Text) (entries : List Entry) (draft : Draft) : Prop where
  nonempty : entries ≠ []
  counted : 0 < draft.count
  buffer : draft.buffers.get? .constants = some (lead ++
    if draft.finished then Section.constants.rendering draft.enum entries
    else listed draft.enum entries)

variable {draft} {front : Text} {entries : List Entry}

/-- An entry begins a list of constants that is well-formed behind whatever there was. -/
theorem steady_add {text : Text} (there : draft.buffers.get? .constants = some text)
    (entry : Entry) :
    Steady (if draft.finished = true then reopen draft.count text else text) [entry]
      (draft.add entry) := by
  refine ⟨List.cons_ne_nil entry [], by simp [add], ?_⟩
  rw [get?_add, there, Option.map_some]
  simp [listed, Entry.render]

/-- An edit keeps the list of constants well-formed. -/
theorem Steady.apply (steady : Steady front entries draft) (edit : Edit) :
    Steady front (entries ++ edit.added?.toList) (draft.apply edit) := by
  obtain ⟨nonempty, counted, buffer⟩ := steady
  cases edit with
  | text text =>
    rw [Edit.added?, Option.toList_none, List.append_nil]
    exact ⟨nonempty, counted, buffer⟩
  | slot which =>
    rw [Edit.added?, Option.toList_none, List.append_nil]
    exact ⟨nonempty, counted, get?_pushSection_of_some buffer which⟩
  | finish =>
    rw [Edit.added?, Option.toList_none, List.append_nil]
    refine ⟨nonempty, by rw [count_apply]; omega, ?_⟩
    rw [Draft.apply, get?_finish, buffer, Option.map_some, enum_finish, finished_finish]
    by_cases ended : draft.finished = true
    · simp [ended]
    · simp [ended, terminate_listed nonempty]
  | entry entry =>
    refine ⟨List.append_ne_nil_of_left_ne_nil nonempty _, by rw [count_apply]; omega, ?_⟩
    -- Whether the list was ended or not, the new constant goes behind a separator.
    have opened : (if Section.constants = .constants ∧ draft.finished = true then
          reopen draft.count (front ++ if draft.finished then
            Section.constants.rendering draft.enum entries else listed draft.enum entries)
        else front ++ if draft.finished then
          Section.constants.rendering draft.enum entries else listed draft.enum entries) =
        front ++ listed draft.enum entries := by
      by_cases ended : draft.finished = true
      · simp [ended, reopen_rendering nonempty counted]
      · simp [ended]
    rw [Draft.apply, get?_add, buffer, Option.map_some, opened, finished_add, if_neg (by decide)]
    simp [listed, Edit.added?, Entry.render, add]

/-- A run of edits keeps the list of constants well-formed. -/
theorem Steady.edited (steady : Steady front entries draft) (edits : List Edit) :
    Steady front (entries ++ Edit.entries edits) (draft.edited edits) := by
  induction edits generalizing draft entries with
  | nil => simpa [Edit.entries] using steady
  | cons edit edits ih =>
    have later := ih (steady.apply edit)
    rwa [List.append_assoc, ← Edit.entries_cons] at later

/-- A finished list of constants is left alone by an edit that adds no entry. -/
theorem apply_of_finished {text : Text} (ended : draft.finished = true)
    (there : draft.buffers.get? .constants = some text) {edit : Edit} (none : edit.added? = none) :
    (draft.apply edit).finished = true ∧
      (draft.apply edit).buffers.get? .constants = some text := by
  cases edit with
  | text text => exact ⟨ended, there⟩
  | slot which => exact ⟨ended, get?_pushSection_of_some there which⟩
  | entry entry => cases none
  | finish =>
    refine ⟨finished_finish draft, ?_⟩
    rw [apply, get?_finish, there]
    simp [ended]

/-- A finished list of constants is left alone as long as no entry is added. -/
theorem edited_of_finished {text : Text} (ended : draft.finished = true)
    (there : draft.buffers.get? .constants = some text) {edits : List Edit}
    (none : Edit.entries edits = []) :
    (draft.edited edits).finished = true ∧
      (draft.edited edits).buffers.get? .constants = some text := by
  induction edits generalizing draft with
  | nil => exact ⟨ended, there⟩
  | cons edit edits ih =>
    rw [Edit.entries_cons, List.append_eq_nil_iff] at none
    obtain ⟨ended', there'⟩ := apply_of_finished ended there (Option.toList_eq_nil_iff.mp none.1)
    exact ih ended' there' none.2

/-- As long as no entry is added, an empty list of constants is ended at most once. -/
theorem edited_of_no_entries (there : draft.buffers.get? .constants = some [])
    {edits : List Edit} (none : Edit.entries edits = []) :
    (draft.edited edits).finished = (draft.finished || !(Edit.marks edits).isEmpty) ∧
      (draft.edited edits).buffers.get? .constants =
        some (if draft.finished || (Edit.marks edits).isEmpty then [] else terminator) := by
  -- The first ending puts the terminator into the empty list, and later ones find it ended.
  by_cases ended : draft.finished = true
  · simpa [ended] using edited_of_finished ended there none
  · induction edits generalizing draft with
    | nil => simpa [Edit.marks] using there
    | cons edit edits ih =>
      rw [Edit.entries_cons, List.append_eq_nil_iff] at none
      cases edit with
      | entry entry => exact absurd none.1 (by simp [Edit.added?])
      | text text => exact ih there none.2 ended
      | slot which => exact ih (get?_pushSection_of_some there which) none.2 ended
      | finish =>
        -- From here on the draft is finished, and stays so.
        have first : (draft.apply .finish).buffers.get? .constants = some terminator := by
          simp [apply, get?_finish, there, ended, terminate_nil]
        have second : (draft.apply .finish).finished = true := finished_finish draft
        have marked : (Edit.marks (.finish :: edits)).isEmpty = false := by
          simp [Edit.marks, Edit.isMark]
        simpa [ended, marked] using edited_of_finished second first none.2

/-- What stands in front of the first constant: a separator, if the list was ended before its first
constant came but other entries were already counted. -/
def lead (draft : Draft) (edits : List Edit) : Text :=
  if draft.finished = false ∧ 0 < draft.count ∧ (Edit.marks edits).head? = some .finish then
    separator
  else []

/-- With its first entry, a list of constants that was empty becomes well-formed. -/
theorem steady_edited (there : draft.buffers.get? .constants = some []) {edits : List Edit}
    (nonempty : Edit.entries edits ≠ []) :
    Steady (draft.lead edits) (Edit.entries edits) (draft.edited edits) := by
  -- The edits up to the first entry decide what it finds; behind it the list stays well-formed.
  obtain ⟨quiet, entry, later, rfl, none⟩ := Edit.exists_first_entry nonempty
  obtain ⟨finished, buffer⟩ := edited_of_no_entries there none
  have opened : (if (draft.edited quiet).finished = true then
        reopen (draft.edited quiet).count
          (if draft.finished || (Edit.marks quiet).isEmpty then [] else terminator)
      else if draft.finished || (Edit.marks quiet).isEmpty then [] else terminator) =
      draft.lead (quiet ++ .entry entry :: later) := by
    rw [finished, count_edited, none, lead, Edit.marks_append]
    by_cases ended : draft.finished = true
    · simp [ended, reopen_nil]
    · cases marked : Edit.marks quiet with
      | nil => simp [ended, Edit.marks, Edit.isMark]
      | cons mark marks =>
        -- Without entries, the first mark is one that ended the list.
        have first : mark = .finish := Edit.eq_finish_of_mem_marks none (by simp [marked])
        simp [ended, first, reopen_terminator]
  have begun := steady_add buffer entry
  rw [opened] at begun
  have whole := begun.edited later
  rw [edited_append, edited_cons, Edit.entries_append, none, Edit.entries_cons]
  exact whole

/-- What the constants are in the file, for a list that was empty to begin with. -/
theorem pieceText_finish_edited (there : draft.buffers.get? .constants = some [])
    (edits : List Edit) :
    (draft.edited edits).finish.pieceText (.slot .constants) =
      if Edit.entries edits = [] then if draft.finished then [] else terminator
      else draft.lead edits ++ Section.constants.rendering draft.enum (Edit.entries edits) := by
  rw [pieceText, get?_finish]
  -- Without entries the list is ended here at the latest, or was ended before it was there.
  by_cases none : Edit.entries edits = []
  · obtain ⟨finished, buffer⟩ := edited_of_no_entries there none
    rw [if_pos none, buffer, finished]
    by_cases ended : draft.finished = true
    · simp [ended]
    · by_cases unmarked : (Edit.marks edits).isEmpty = true
      · simp [ended, unmarked, terminate_nil]
      · simp [ended, unmarked]
  · obtain ⟨nonempty, -, buffer⟩ := steady_edited there none
    rw [if_neg none, buffer, enum_edited]
    by_cases ended : (draft.edited edits).finished = true
    · simp [ended]
    · simp [ended, terminate_listed nonempty]

end Draft

end EnumBindings
