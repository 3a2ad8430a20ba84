import EnumBindings.Draft.Files
import Mathlib.Data.List.Induction

/-!
# Requests to a draft

A draft is made by requests, one after the other: some of them lay it out, some add entries or end
the list of constants, and some only ask. Each request comes down to a few edits of four kinds, so
that what holds after every edit holds after every run of requests.

## Main definitions

* `Draft.empty` — a new draft
* `Draft.Request`, `Draft.Reply` — what can be asked of a draft, and what it answers
* `Draft.run`, `Draft.replies` — the draft after some requests, and its answers to them
* `Edit` — the four kinds of changes that requests come down to
* `Edit.entries`, `Edit.marks`, `Edit.layout` — what a run of edits adds

## Main results

* `Draft.perform_fst`, `Draft.run_eq_edited` — requests come down to their edits
* `Draft.layout_edited`, `Draft.count_edited`, `Draft.finished_edited` — a draft after some edits
-/

namespace EnumBindings

/-! ### Edits -/

/-- A change of a draft. -/
inductive Edit where
  | text (text : Text)
  | slot (which : Section)
  | entry (entry : Entry)
  | finish
  deriving DecidableEq, Repr

namespace Edit

/-- The piece of the layout that an edit appends. -/
def piece? : Edit → Option Piece
  | text s => some (.text s)
  | slot which => some (.slot which)
  | entry _ | finish => none

/-- The entry that an edit adds. -/
def added? : Edit → Option Entry
  | entry found => some found
  | text _ | slot _ | finish => none

/-- Whether an edit adds an entry or ends the list of constants. -/
def isMark : Edit → Bool
  | entry _ | finish => true
  | text _ | slot _ => false

/-- The pieces that some edits append to the layout. -/
def layout (edits : List Edit) : List Piece :=
  edits.filterMap piece?

/-- The entries that some edits add. -/
def entries (edits : List Edit) : List Entry :=
  edits.filterMap added?

/-- The edits that add entries or end the list of constants. -/
def marks (edits : List Edit) : List Edit :=
  edits.filter isMark

variable (before after edits : List Edit) (edit : Edit)

theorem layout_cons : layout (edit :: edits) = edit.piece?.toList ++ layout edits := by
  cases edit <;> rfl

theorem entries_cons : entries (edit :: edits) = edit.added?.toList ++ entries edits := by
  cases edit <;> rfl

@[simp] theorem layout_append : layout (before ++ after) = layout before ++ layout after :=
  List.filterMap_append

@[simp] theorem entries_append : entries (before ++ after) = entries before ++ entries after :=
  List.filterMap_append

@[simp] theorem marks_append : marks (before ++ after) = marks before ++ marks after :=
  List.filter_append ..

@[simp] theorem added?_eq_some_iff {edit : Edit} {found : Entry} :
    edit.added? = some found ↔ edit = .entry found := by
  cases edit <;> simp [added?]

/-- A run of edits that adds entries has a first one that does. -/
theorem exists_first_entry {edits} (nonempty : entries edits ≠ []) :
    ∃ quiet entry later, edits = quiet ++ Edit.entry entry :: later ∧ entries quiet = [] := by
  induction edits with
  | nil => exact absurd rfl nonempty
  | cons edit edits ih =>
    cases added : edit.added? with
    | some entry =>
      obtain rfl := added?_eq_some_iff.mp added
      exact ⟨[], entry, edits, rfl, rfl⟩
    | none =>
      rw [entries_cons, added, Option.toList_none, List.nil_append] at nonempty
      obtain ⟨quiet, entry, later, rfl, none⟩ := ih nonempty
      refine ⟨edit :: quiet, entry, later, rfl, ?_⟩
      rw [entries_cons, added, none]
      rfl

/-- Edits that add no entries have no marks but those that end the list of constants. -/
theorem eq_finish_of_mem_marks {edits} {mark : Edit} (none : entries edits = [])
    (there : mark ∈ marks edits) : mark = .finish := by
  obtain ⟨among, kind⟩ := List.mem_filter.mp there
  have plain := List.filterMap_eq_nil_iff.mp none mark among
  cases mark with
  | finish => rfl
  | entry entry => exact absurd plain (by simp [added?])
  | text text => exact absurd kind (by simp [isMark])
  | slot which => exact absurd kind (by simp [isMark])

/-- Edits without marks add no entries. -/
theorem entries_eq_nil_of_marks {edits} (unmarked : marks edits = []) :
    entries edits = [] := by
  rw [entries, List.filterMap_eq_nil_iff]
  intro edit there
  have plain := List.filter_eq_nil_iff.mp unmarked edit there
  cases edit <;> simp_all [isMark, added?]

end Edit

namespace Draft

/-- A new draft for an enum. -/
def empty (enum : Text) : Draft := { enum }

/-- Makes a change. -/
def apply (draft : Draft) : Edit → Draft
  | .text text => draft.pushText text
  | .slot which => draft.pushSection which
  | .entry entry => draft.add entry
  | .finish => draft.finish

/-- Makes some changes in their order. -/
def edited (edits : List Edit) (draft : Draft) : Draft :=
  edits.foldl apply draft

section

variable (draft : Draft) (before after edits : List Edit) (edit : Edit)

@[simp] theorem edited_nil : draft.edited [] = draft := rfl

@[simp] theorem edited_append : draft.edited (before ++ after) =
    (draft.edited before).edited after :=
  List.foldl_append

@[simp] theorem edited_cons : draft.edited (edit :: edits) = (draft.apply edit).edited edits := rfl

/-! ### What edits leave -/

@[simp] theorem enum_finish : draft.finish.enum = draft.enum := by
  rw [finish]
  split <;> rfl

@[simp] theorem layout_finish : draft.finish.layout = draft.layout := by
  rw [finish]
  split <;> rfl

@[simp] theorem count_finish : draft.finish.count = draft.count := by
  rw [finish]
  split <;> rfl

@[simp] theorem finished_finish : draft.finish.finished = true := by
  rw [finish]
  split
  · assumption
  · rfl

@[simp] theorem enum_unfinished : draft.unfinished.enum = draft.enum := by
  rw [unfinished]
  split <;> rfl

@[simp] theorem layout_unfinished : draft.unfinished.layout = draft.layout := by
  rw [unfinished]
  split <;> rfl

@[simp] theorem count_unfinished : draft.unfinished.count = draft.count := by
  rw [unfinished]
  split <;> rfl

@[simp] theorem finished_unfinished : draft.unfinished.finished = false := by
  rw [unfinished]
  split
  · rfl
  next h => simpa using h

@[simp] theorem enum_add (entry : Entry) : (draft.add entry).enum = draft.enum := by
  simp [add]

@[simp] theorem finished_add (entry : Entry) : (draft.add entry).finished = false := by
  simp [add]

@[simp] theorem enum_apply : (draft.apply edit).enum = draft.enum := by
  cases edit <;> simp [apply, pushText, pushSection, add]

theorem layout_apply : (draft.apply edit).layout = draft.layout ++ edit.piece?.toList := by
  cases edit <;> simp [apply, pushText, pushSection, add, Edit.piece?]

theorem count_apply : (draft.apply edit).count = draft.count + edit.added?.toList.length := by
  cases edit <;> simp [apply, pushText, pushSection, add, Edit.added?]

theorem finished_apply : (draft.apply edit).finished =
    if edit.isMark then decide (edit = .finish) else draft.finished := by
  cases edit <;> simp [apply, pushText, pushSection, add, Edit.isMark]

@[simp] theorem enum_edited : (draft.edited edits).enum = draft.enum := by
  induction edits generalizing draft with
  | nil => rfl
  | cons edit edits ih => rw [edited_cons, ih, enum_apply]

/-- The layout grows by the pieces that are pushed. -/
@[simp] theorem layout_edited : (draft.edited edits).layout = draft.layout ++ Edit.layout edits := by
  induction edits generalizing draft with
  | nil => simp [Edit.layout]
  | cons edit edits ih =>
    rw [edited_cons, ih, layout_apply, List.append_assoc, Edit.layout_cons]

/-- Each entry is counted. -/
@[simp] theorem count_edited :
    (draft.edited edits).count = draft.count + (Edit.entries edits).length := by
  induction edits generalizing draft with
  | nil => simp [Edit.entries]
  | cons edit edits ih =>
    rw [edited_cons, ih, count_apply, Nat.add_assoc, Edit.entries_cons, List.length_append]

/-- The last mark says whether the list of constants is ended. -/
theorem finished_edited : (draft.edited edits).finished =
    match (Edit.marks edits).getLast? with
    | none => draft.finished
    | some mark => decide (mark = .finish) := by
  -- The last edit decides unless it is none of the two kinds.
  induction edits using List.reverseRecOn with
  | nil => rfl
  | append_singleton edits edit ih =>
    rw [edited_append, edited_cons, edited_nil, finished_apply, ih, Edit.marks_append]
    cases edit <;> simp [Edit.marks, Edit.isMark]

end

/-! ### Requests -/

/-- What can be asked of a draft. -/
inductive Request where
  | pushText (text : Text)
  | pushSection (which : Section)
  | add (entry : Entry)
  | addAll (entries : List Entry)
  | finish
  | addSource (source : Text)
  | addFile (space : Workspace) (path : Path)
  | code
  | count

/-- What a draft answers. -/
inductive Reply where
  | done
  | failed (cause : SourceFailure)
  | code (text : Text)
  | count (number : Nat)
  deriving DecidableEq, Repr

/-- The draft after an addition that can fail, which then leaves the draft as it is. -/
def settle (draft : Draft) : Except SourceFailure Draft → Draft × Reply
  | .ok added => (added, .done)
  | .error cause => (draft, .failed cause)

/-- The draft after a request, and its answer. -/
def perform (draft : Draft) : Request → Draft × Reply
  | .pushText text => (draft.pushText text, .done)
  | .pushSection which => (draft.pushSection which, .done)
  | .add entry => (draft.add entry, .done)
  | .addAll entries => (draft.addAll entries, .done)
  | .finish => (draft.finish, .done)
  | .addSource source => draft.settle ((draft.addSource source).mapError (.malformed draft.enum))
  | .addFile space path => draft.settle (draft.addFile space path)
  | .code => (draft, .code draft.code)
  | .count => (draft, .count draft.count)

/-- The draft after some requests. -/
def run (draft : Draft) (requests : List Request) : Draft :=
  requests.foldl (fun draft request => (draft.perform request).1) draft

/-- The answers of a draft to some requests. -/
def replies (draft : Draft) : List Request → List Reply
  | [] => []
  | request :: requests => (draft.perform request).2 :: (draft.perform request).1.replies requests

/-- The entries of an enum in a proto source, or why there are none. -/
def sourceEntries (enum source : Text) : Except SourceFailure (List Entry) :=
  (Block.entries enum source).mapError (.malformed enum)

/-- The entries of an enum in a proto file, or why there are none. -/
def fileEntries (enum : Text) (space : Workspace) (path : Path) :
    Except SourceFailure (List Entry) :=
  ((space.read path).mapError .unreadable).bind (sourceEntries enum)

/-- The edits that add some entries together and end the list of constants. -/
def batch (entries : List Entry) : List Edit :=
  entries.map .entry ++ [.finish]

/-- The edits that add the entries of a source, which are none if it has failed. -/
def offered : Except SourceFailure (List Entry) → List Edit
  | .ok entries => batch entries
  | .error _ => []

/-- The edits that a request comes down to. -/
def Request.edits (enum : Text) : Request → List Edit
  | .pushText text => [.text text]
  | .pushSection which => [.slot which]
  | .add entry => [.entry entry]
  | .addAll entries => batch entries
  | .finish => [.finish]
  | .addSource source => offered (sourceEntries enum source)
  | .addFile space path => offered (fileEntries enum space path)
  | .code | .count => []

/-- The edits that some requests come down to. -/
def editsOf (enum : Text) (requests : List Request) : List Edit :=
  requests.flatMap (Request.edits enum)

/-! ### Requests come down to their edits -/

variable (draft : Draft)

theorem addSource_eq (source : Text) :
    (draft.addSource source).mapError (.malformed draft.enum) =
      (sourceEntries draft.enum source).map draft.addAll := by
  rw [addSource, sourceEntries]
  cases Block.entries draft.enum source <;> rfl

theorem addFile_eq (space : Workspace) (path : Path) :
    draft.addFile space path = (fileEntries draft.enum space path).map draft.addAll := by
  rw [addFile, fileEntries]
  cases space.read path with
  | error fault => rfl
  | ok source => exact draft.addSource_eq source

/-- Adding entries together is adding them one by one and then finishing. -/
theorem edited_batch (entries : List Entry) :
    draft.edited (batch entries) = draft.addAll entries := by
  rw [batch, edited, List.foldl_append, List.foldl_map]
  rfl

/-- A batch adds its entries. -/
theorem entries_batch (entries : List Entry) : Edit.entries (batch entries) = entries := by
  have each : Edit.added? ∘ Edit.entry = some := rfl
  simp [batch, Edit.entries, each, Edit.added?]

theorem settle_fst (found : Except SourceFailure (List Entry)) :
    (draft.settle (found.map draft.addAll)).1 = draft.edited (offered found) := by
  cases found with
  | error cause => rfl
  | ok entries => exact (draft.edited_batch entries).symm

/-- A request comes down to its edits. -/
theorem perform_fst (request : Request) :
    (draft.perform request).1 = draft.edited (request.edits draft.enum) := by
  cases request with
  | pushText text => rfl
  | pushSection which => rfl
  | add entry => rfl
  | addAll entries => exact (draft.edited_batch entries).symm
  | finish => rfl
  | addSource source => rw [perform, addSource_eq, settle_fst, Request.edits]
  | addFile space path => rw [perform, addFile_eq, settle_fst, Request.edits]
  | code => rfl
  | count => rfl

/-- A run of requests comes down to their edits. -/
theorem run_eq_edited (requests : List Request) :
    draft.run requests = draft.edited (editsOf draft.enum requests) := by
  induction requests generalizing draft with
  | nil => rfl
  | cons request requests ih =>
    -- The rest of the requests go to a draft for the same enum.
    have later := ih (draft.perform request).1
    rw [perform_fst, enum_edited] at later
    rw [run, List.foldl_cons, ← run, perform_fst, later, editsOf, editsOf, List.flatMap_cons,
      edited_append]

variable {enum : Text}

@[simp] theorem editsOf_nil : editsOf enum [] = [] := rfl

theorem editsOf_cons (request : Request) (requests : List Request) :
    editsOf enum (request :: requests) = request.edits enum ++ editsOf enum requests :=
  List.flatMap_cons

@[simp] theorem editsOf_append (before after : List Request) :
    editsOf enum (before ++ after) = editsOf enum before ++ editsOf enum after :=
  List.flatMap_append

theorem run_empty (requests : List Request) :
    (empty enum).run requests = (empty enum).edited (editsOf enum requests) :=
  run_eq_edited ..

end Draft

end EnumBindings
