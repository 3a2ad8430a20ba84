import EnumBindings.Proofs.Draft.Buffers

/-!
# Drafts as one-shot renderings

When the sections of a draft are laid out before any entry comes and before the list of constants
is ended, nothing depends on how the entries were added: the code is the layout with all entries
rendered at once. Questions and endings in between make no difference to what comes later.

## Main definitions

* `SectionsFirst` — no section is laid out behind an entry or an ending
* `oneShot` — a layout with all entries rendered at once
* `Draft.Request.answer` — the reply to a request, given the layout and the entries

## Main results

* `Draft.code_edited` — the code of a draft is the one-shot rendering
* `Draft.perform_snd_edited` — so are all its replies
* `Draft.run_refines_oneShot` — the same for whole runs, with failures and needless endings
-/

namespace EnumBindings

/-- No section is laid out behind an entry or an ending of the list of constants. -/
def SectionsFirst (edits : List Edit) : Prop :=
  ∀ before which after, edits = before ++ Edit.slot which :: after → Edit.marks before = []

theorem SectionsFirst.of_append {before after : List Edit}
    (first : SectionsFirst (before ++ after)) : SectionsFirst before := by
  rintro front which back rfl
  exact first front which (back ++ after) (by simp)

/-- Sections are laid out first if they all stand in a part that has no marks. -/
theorem sectionsFirst_append {front back : List Edit} (unmarked : Edit.marks front = [])
    (filled : ∀ which, .slot which ∉ back) : SectionsFirst (front ++ back) := by
  intro before which after whole
  rcases List.append_eq_append_iff.mp whole with ⟨middle, -, rest⟩ | ⟨middle, rfl, -⟩
  · exact absurd (by rw [rest]; simp) (filled which)
  · rw [Edit.marks_append, List.append_eq_nil_iff] at unmarked
    exact unmarked.1

/-- Edits in between can be left out. -/
theorem SectionsFirst.leave_out {before between after : List Edit}
    (first : SectionsFirst (before ++ between ++ after)) : SectionsFirst (before ++ after) := by
  have behind (middle : List Edit) {back : List Edit} {which : Section}
      (whole : after = middle ++ .slot which :: back) : Edit.marks (before ++ middle) = [] := by
    have unmarked := first (before ++ between ++ middle) which back (by rw [whole]; simp)
    simp only [Edit.marks_append, List.append_eq_nil_iff] at unmarked ⊢
    exact ⟨unmarked.1.1, unmarked.2⟩
  intro front which back whole
  rcases List.append_eq_append_iff.mp whole with ⟨middle, rfl, rest⟩ | ⟨middle, rfl, rest⟩
  · exact behind middle rest
  · cases middle with
    | nil =>
      have unmarked := behind [] rest.symm
      rwa [List.append_nil, List.append_nil] at unmarked
    | cons edit middle =>
      cases rest
      exact first front which (middle ++ between ++ after) (by simp)

/-- A layout with all entries rendered at once. -/
def oneShot (enum : Text) (layout : List Piece) (entries : List Entry) : Text :=
  layout.flatMap fun
    | .text text => text
    | .slot which => which.rendering enum entries

namespace Draft

variable {enum : Text} {edits : List Edit}

/-- A section that was laid out first holds all entries in the end. -/
theorem pieceText_finish_slot {which : Section} (first : SectionsFirst edits)
    (there : .slot which ∈ edits) :
    ((empty enum).edited edits).finish.pieceText (.slot which) =
      which.rendering enum (Edit.entries edits) := by
  obtain ⟨before, after, rfl, new⟩ := List.eq_append_cons_of_mem there
  have unmarked := first before which after rfl
  have unfilled := Edit.entries_eq_nil_of_marks unmarked
  -- When the section came, nothing was ended or counted, so no separator stands in front of it.
  have open_list : (((empty enum).edited before).apply (.slot which)).finished = false := by
    rw [finished_apply, finished_edited, unmarked]
    rfl
  have uncounted : (((empty enum).edited before).apply (.slot which)).count = 0 := by
    rw [count_apply, count_edited, unfilled]
    rfl
  have entries : Edit.entries (before ++ .slot which :: after) = Edit.entries after := by
    rw [Edit.entries_append, unfilled, Edit.entries_cons]
    rfl
  have begun := @get?_apply_slot before which enum new
  rw [edited_append, edited_cons, entries]
  by_cases constants : which = .constants
  · subst constants
    rw [pieceText_finish_edited begun, lead, open_list, uncounted, enum_apply, enum_edited]
    by_cases none : Edit.entries after = []
    · simp [none, Section.rendering]
    · simp [none, empty]
  · rw [pieceText, get?_finish, get?_edited_of_ne _ _ _ constants begun, enum_apply, enum_edited,
      Section.rendering_of_ne constants]
    simp [constants, empty]

/-- The buffer of a section that was laid out first. -/
theorem get?_finish_edited {which : Section} (first : SectionsFirst edits)
    (there : .slot which ∈ edits) :
    ((empty enum).edited edits).finish.buffers.get? which =
      some (which.rendering enum (Edit.entries edits)) := by
  have buffered : (((empty enum).edited edits).buffers.get? which).isSome :=
    isSome_get?_of_mem there
  obtain ⟨text, buffer⟩ := Option.isSome_iff_exists.mp buffered
  have held : ((empty enum).edited edits).finish.pieceText (.slot which) = _ :=
    pieceText_finish_slot first there
  rw [pieceText, get?_finish, buffer, Option.map_some, Option.getD_some] at held
  rw [get?_finish, buffer, Option.map_some, held]

/-- The code of a draft whose sections were laid out first is the one-shot rendering. -/
theorem code_edited (first : SectionsFirst edits) :
    ((empty enum).edited edits).code = oneShot enum (Edit.layout edits) (Edit.entries edits) := by
  have layout : ((empty enum).edited edits).finish.layout = Edit.layout edits := by
    rw [layout_finish, layout_edited]
    rfl
  rw [code, layout, oneShot, List.flatMap_def, List.flatMap_def]
  congr 1
  refine List.map_congr_left fun piece there => ?_
  cases piece with
  | text text => rfl
  | slot which =>
    -- A section of the layout was laid out by one of the edits.
    obtain ⟨edit, among, pushed⟩ := List.mem_filterMap.mp there
    have slot : edit = .slot which := by
      cases edit <;> simp_all [Edit.piece?]
    rw [slot] at among
    exact pieceText_finish_slot first among

/-! ### Replies -/

/-- The reply to a request, given the layout and the entries that there are. -/
def Request.answer (enum : Text) (layout : List Piece) (entries : List Entry) : Request → Reply
  | .addSource source =>
    match sourceEntries enum source with
    | .ok _ => .done
    | .error cause => .failed cause
  | .addFile space path =>
    match fileEntries enum space path with
    | .ok _ => .done
    | .error cause => .failed cause
  | .code => .code (oneShot enum layout entries)
  | .count => .count entries.length
  | .pushText _ | .pushSection _ | .add _ | .addAll _ | .finish => .done

theorem settle_snd (draft : Draft) (found : Except SourceFailure (List Entry)) :
    (draft.settle (found.map draft.addAll)).2 =
      match found with
      | .ok _ => .done
      | .error cause => .failed cause := by
  cases found <;> rfl

/-- What a draft replies depends only on its layout and its entries, if its sections were laid out
first. -/
theorem perform_snd_edited (first : SectionsFirst edits) (request : Request) :
    (((empty enum).edited edits).perform request).2 =
      request.answer enum (Edit.layout edits) (Edit.entries edits) := by
  have same : ((empty enum).edited edits).enum = enum := enum_edited ..
  cases request with
  | addSource source => rw [perform, addSource_eq, settle_snd, same]; rfl
  | addFile space path => rw [perform, addFile_eq, settle_snd, same]; rfl
  | code => rw [perform, code_edited first]; rfl
  | count =>
    rw [perform, count_edited]
    simp [empty, Request.answer]
  | _ => rfl

/-! ### Runs of requests -/

theorem run_concat (draft : Draft) (before : List Request) (request : Request) :
    draft.run (before ++ [request]) = ((draft.run before).perform request).1 := by
  rw [run, List.foldl_append]
  rfl

/-- Two drafts with the same layout and entries reply alike from then on. -/
theorem replies_congr {before before' : List Request} (after : List Request)
    (first : SectionsFirst (editsOf enum (before ++ after)))
    (first' : SectionsFirst (editsOf enum (before' ++ after)))
    (layout : Edit.layout (editsOf enum before) = Edit.layout (editsOf enum before'))
    (entries : Edit.entries (editsOf enum before) = Edit.entries (editsOf enum before')) :
    ((empty enum).run before).replies after = ((empty enum).run before').replies after := by
  induction after generalizing before before' with
  | nil => rfl
  | cons request after ih =>
    rw [replies, replies, ← run_concat, ← run_concat]
    congr 1
    · rw [editsOf_append] at first first'
      rw [run_empty, run_empty, perform_snd_edited first.of_append,
        perform_snd_edited first'.of_append]
      exact congrArg₂ (fun layout entries => request.answer enum layout entries) layout entries
    · refine ih (by simpa using first) (by simpa using first') ?_ ?_
      · rw [editsOf_append, editsOf_append, Edit.layout_append, Edit.layout_append, layout]
      · rw [editsOf_append, editsOf_append, Edit.entries_append, Edit.entries_append, entries]

/-- An addition that fails leaves the draft as it was. -/
theorem perform_fst_of_failed {draft : Draft} {request : Request} {cause : SourceFailure}
    (failed : (draft.perform request).2 = .failed cause) : (draft.perform request).1 = draft := by
  have settled {found : Except SourceFailure Draft}
      (failed : (draft.settle found).2 = .failed cause) : (draft.settle found).1 = draft := by
    cases found with
    | ok added => cases failed
    | error other => rfl
  cases request with
  | addSource source => exact settled failed
  | addFile space path => exact settled failed
  | _ => cases failed

/-- A draft whose sections are laid out before anything else is the one-shot rendering of its
layout and its entries, and has counted them. A failing addition changes nothing, and neither an
ending nor a look at the code in between makes a difference to the code in the end or to any reply
that comes later. -/
theorem run_refines_oneShot {requests : List Request}
    (first : SectionsFirst (editsOf enum requests)) :
    ((empty enum).run requests).code =
        oneShot enum (Edit.layout (editsOf enum requests)) (Edit.entries (editsOf enum requests)) ∧
      ((empty enum).run requests).count = (Edit.entries (editsOf enum requests)).length ∧
      (∀ before request after cause, requests = before ++ request :: after →
        (((empty enum).run before).perform request).2 = .failed cause →
        (empty enum).run (before ++ [request]) = (empty enum).run before) ∧
      ∀ before between after, requests = before ++ between :: after →
        between = .finish ∨ between = .code →
        ((empty enum).run (before ++ after)).code = ((empty enum).run requests).code ∧
          ((empty enum).run (before ++ [between])).replies after =
            ((empty enum).run before).replies after := by
  have code_run {requests : List Request} (first : SectionsFirst (editsOf enum requests)) :
      ((empty enum).run requests).code = oneShot enum (Edit.layout (editsOf enum requests))
        (Edit.entries (editsOf enum requests)) := by
    rw [run_empty]
    exact code_edited first
  refine ⟨code_run first, ?_, ?_, ?_⟩
  · rw [run_empty, count_edited]
    simp [empty]
  · rintro before request after cause - failed
    rw [run_concat]
    exact perform_fst_of_failed failed
  · rintro before between after rfl idle
    -- Neither kind of request lays out a section or adds an entry.
    have layout : Edit.layout (between.edits enum) = [] := by
      rcases idle with rfl | rfl <;> rfl
    have entries : Edit.entries (between.edits enum) = [] := by
      rcases idle with rfl | rfl <;> rfl
    have whole : editsOf enum (before ++ between :: after) =
        editsOf enum before ++ between.edits enum ++ editsOf enum after := by
      simp [editsOf_cons]
    have first' := first
    rw [whole] at first'
    have shorter : SectionsFirst (editsOf enum (before ++ after)) := by
      rw [editsOf_append]
      exact first'.leave_out
    constructor
    · rw [code_run first, code_run shorter, whole]
      simp [layout, entries]
    · refine replies_congr after ?_ shorter ?_ ?_
      · simpa using first
      · simp [editsOf_cons, layout]
      · simp [editsOf_cons, entries]

/-- The requests of a draft with all sections that is finished and asked for its code before its last
entry comes, and that is given a source without the enum. -/
def sampleRequests : List Request :=
  [.pushText ['x'], .addSource [], .pushSection .constants, .pushText ['y'], .pushSection .valueOf,
    .pushSection .toString, .add (.ofIdentifier ['a', 'B'] []), .finish, .code,
    .add (.ofIdentifier ['C'] []), .pushText ['z']]

/-- Such a draft comes out as if both entries had been rendered at once, in each of the sections. -/
theorem code_run_sampleRequests :
    SectionsFirst (editsOf ['E'] sampleRequests) ∧
      ((empty ['E']).run sampleRequests).code =
        ['x'] ++ "    A_B(E.aB),\n\n    C(E.C);\n\n".toList ++
        ['y'] ++ "            case aB:\n                return A_B;\n".toList ++
          "            case C:\n                return C;\n".toList ++
          "            case A_B:\n                return \"A_B\";\n".toList ++
          "            case C:\n                return \"C\";\n".toList ++
        ['z'] := by
  have shape : editsOf ['E'] sampleRequests =
      [.text ['x'], .slot .constants, .text ['y'], .slot .valueOf, .slot .toString] ++
      [.entry (.ofIdentifier ['a', 'B'] []), .finish, .entry (.ofIdentifier ['C'] []),
        .text ['z']] := rfl
  have first : SectionsFirst (editsOf ['E'] sampleRequests) := by
    rw [shape]
    exact sectionsFirst_append rfl (by simp)
  refine ⟨first, (run_refines_oneShot first).1.trans ?_⟩
  rw [shape]
  decide +kernel

end Draft

end EnumBindings
