import EnumBindings.Proofs.Block.RoundTrip
import EnumBindings.Proofs.Draft.OneShot
import EnumBindings.Proofs.Files.Reaching
import EnumBindings.Target.Basic

/-!
# Generated files

The file of a target is made of its fragments with the renderings of all entries between them. A
fragment has two origins, and the sections are filled by a scan of the proto file; the file comes
about exactly if each of the fragments and the entries are there.

## Main definitions

* `Target.all` — both targets
* `Target.numbers` — the fragments of a target, by their numbers
* `Target.Offers` — a text is a fragment of a target
* `Target.assembled` — the file that the fragments and the entries make up

## Main results

* `Target.fragment_eq_ok_iff` — a fragment is found exactly if there is one
* `Target.draft_eq_ok_iff` — the layout comes down to edits
* `Target.generate_iff` — when a target is generated, and what its file is
* `Target.Overridden.generate_requestType` — one file, most of its fragments from files of their own
-/

namespace EnumBindings.Target

variable {target : Target} {space : Workspace} {fragments? : Option Path}

/-- Both targets. -/
def all : List Target :=
  [requestType, status]

@[simp] theorem mem_all : target ∈ all ↔ target = requestType ∨ target = status := by
  simp [all]

/-! ### Fragments -/

/-- The numbers of the fragments. -/
def numbers (target : Target) : List Nat :=
  if target.withToString then [0, 2, 4, 6] else [0, 2, 4]

/-- A text is the fragment of a number: that of its file, or the boilerplate if there is no such
file. -/
inductive Offers (target : Target) (space : Workspace) (fragments? : Option Path) (number : Nat) :
    Text → Prop where
  | file {directory : Path} {text : Text} (given : fragments? = some directory)
      (isFile : space.isFile (directory.join (target.fragmentFile number)) = true)
      (read : space.read (directory.join (target.fragmentFile number)) = .ok text) :
      Offers target space fragments? number text
  | boilerplate {text : Text}
      (noFile : ∀ directory, fragments? = some directory →
        space.isFile (directory.join (target.fragmentFile number)) = false)
      (builtIn : Boilerplate.fragment? target.className number = some text) :
      Offers target space fragments? number text

theorem builtIn_eq_ok_iff {number : Nat} {text : Text} :
    target.builtIn number = .ok text ↔
      Boilerplate.fragment? target.className number = some text := by
  rw [builtIn]
  cases Boilerplate.fragment? target.className number <;> simp

/-- A fragment is found exactly if there is one. -/
theorem fragment_eq_ok_iff {number : Nat} {text : Text} :
    target.fragment space fragments? number = .ok text ↔
      target.Offers space fragments? number text := by
  cases fragments? with
  | none =>
    rw [fragment, builtIn_eq_ok_iff]
    refine ⟨fun built => .boilerplate (by simp) built, fun offered => ?_⟩
    cases offered with
    | file given => cases given
    | boilerplate _ built => exact built
  | some directory =>
    rw [fragment]
    split
    next isFile =>
      constructor
      · intro found
        cases read : space.read (directory.join (target.fragmentFile number)) with
        | error fault =>
          rw [read] at found
          cases found
        | ok text =>
          rw [read] at found
          cases found
          exact .file rfl isFile read
      · intro offered
        cases offered with
        | file given _ read =>
          cases given
          rw [read]
          rfl
        | boilerplate noFile => exact absurd isFile (by simp [noFile directory rfl])
    -- Where the directory has no such file, the built-in fragment is taken as without a directory.
    next noFile =>
      rw [builtIn_eq_ok_iff]
      constructor
      · refine fun built => .boilerplate ?_ built
        rintro _ ⟨rfl⟩
        simpa using noFile
      · intro offered
        cases offered with
        | file given isFile =>
          cases given
          exact absurd isFile noFile
        | boilerplate _ built => exact built

/-! ### Layouts -/

/-- The edits that lay out some places. -/
def laid (text : Nat → Text) (places : List (Nat × Option Section)) : List Edit :=
  places.flatMap fun place => .text (text place.1) :: (place.2.map Edit.slot).toList

theorem layOut_eq {draft : Draft} {place : Nat × Option Section} {text : Text}
    (found : target.fragment space fragments? place.1 = .ok text) :
    target.layOut space fragments? draft place =
      .ok (draft.edited (.text text :: (place.2.map Edit.slot).toList)) := by
  obtain ⟨number, which?⟩ := place
  rw [layOut, found]
  cases which? <;> rfl

/-- With a fragment for each of them, places are laid out by their edits. -/
theorem foldlM_layOut_of_fragments {text : Nat → Text} {places : List (Nat × Option Section)}
    (there : ∀ place ∈ places, target.fragment space fragments? place.1 = .ok (text place.1))
    (draft : Draft) :
    places.foldlM (target.layOut space fragments?) draft =
      .ok (draft.edited (laid text places)) := by
  induction places generalizing draft with
  | nil => rfl
  | cons place places ih =>
    rw [List.foldlM_cons, layOut_eq (there place (by simp))]
    refine (ih (fun other among => there other (by simp [among])) _).trans ?_
    rw [laid, laid, List.flatMap_cons, Draft.edited_append]

/-- Places are laid out only if there is a fragment for each of them. -/
theorem exists_fragment_of_foldlM_layOut {places : List (Nat × Option Section)}
    {draft laidOut : Draft}
    (done : places.foldlM (target.layOut space fragments?) draft = .ok laidOut) :
    ∀ place ∈ places, ∃ text, target.fragment space fragments? place.1 = .ok text := by
  induction places generalizing draft with
  | nil => simp
  | cons place places ih =>
    rw [List.foldlM_cons] at done
    cases found : target.fragment space fragments? place.1 with
    | error failure =>
      rw [layOut, found] at done
      cases done
    | ok text =>
      rw [layOut_eq found] at done
      exact List.forall_mem_cons.mpr ⟨⟨text, found⟩, ih done⟩

theorem numbers_eq (target : Target) : target.numbers = target.places.map Prod.fst := by
  rw [numbers, places]
  split <;> rfl

/-- The draft is there exactly if each of the fragments is, and comes down to edits. -/
theorem draft_eq_ok_iff {laidOut : Draft} :
    target.draft space fragments? = .ok laidOut ↔
      ∃ text : Nat → Text,
        (∀ number ∈ target.numbers, target.Offers space fragments? number (text number)) ∧
        laidOut = (Draft.empty target.protoEnum).edited (laid text target.places) := by
  rw [draft, numbers_eq]
  constructor
  · intro done
    have there := exists_fragment_of_foldlM_layOut done
    -- The fragments are looked up by their numbers, which gives one text for each.
    let text (number : Nat) : Text :=
      (target.fragment space fragments? number).toOption.getD []
    have found : ∀ place ∈ target.places,
        target.fragment space fragments? place.1 = .ok (text place.1) := by
      intro place among
      obtain ⟨fragment, ok⟩ := there place among
      rw [ok]
      simp [text, ok, Except.toOption]
    refine ⟨text, fun number among => ?_, ?_⟩
    · obtain ⟨place, here, rfl⟩ := List.mem_map.mp among
      exact fragment_eq_ok_iff.mp (found place here)
    · exact Except.ok.inj (done.symm.trans (foldlM_layOut_of_fragments found _))
  · rintro ⟨text, offered, rfl⟩
    exact foldlM_layOut_of_fragments
      (fun place among => fragment_eq_ok_iff.mpr (offered _ (List.mem_map_of_mem among))) _

/-! ### Files -/

/-- The file that fragments and entries make up. -/
def assembled (target : Target) (text : Nat → Text) (entries : List Entry) : Text :=
  text 0 ++ Section.constants.rendering target.protoEnum entries ++
    text 2 ++ Section.valueOf.rendering target.protoEnum entries ++
    text 4 ++ if target.withToString then
      Section.toString.rendering target.protoEnum entries ++ text 6
    else []

/-- The laid out places have no marks, and rendering them at once makes up the file. -/
theorem oneShot_laid (target : Target) (text : Nat → Text) (entries : List Entry) :
    oneShot target.protoEnum (Edit.layout (laid text target.places)) entries =
      target.assembled text entries := by
  rw [places, assembled]
  split <;> simp [laid, Edit.layout, Edit.piece?, oneShot]

theorem layout_batch (entries : List Entry) : Edit.layout (Draft.batch entries) = [] := by
  simp [Edit.layout, Draft.batch, Edit.piece?, List.filterMap_eq_nil_iff]

theorem marks_laid (text : Nat → Text) (places : List (Nat × Option Section)) :
    Edit.marks (laid text places) = [] := by
  rw [Edit.marks, laid, List.filter_eq_nil_iff]
  intro edit there
  obtain ⟨⟨number, which?⟩, -, among⟩ := List.mem_flatMap.mp there
  rcases List.mem_cons.mp among with rfl | slot
  · simp [Edit.isMark]
  · cases which? <;> simp_all [Edit.isMark]

/-- The entries of a file are those of its text. -/
theorem fileEntries_eq_ok_iff {enum : Text} {path : Path} {entries : List Entry} :
    Draft.fileEntries enum space path = .ok entries ↔
      ∃ source, space.read path = .ok source ∧ Block.entries enum source = .ok entries := by
  rw [Draft.fileEntries]
  cases read : space.read path with
  | error fault => simp [Except.mapError, Except.bind]
  | ok source =>
    cases found : Block.entries enum source <;>
      simp [Except.mapError, Except.bind, Draft.sourceEntries, found]

/-- A target is generated by adding the entries of its proto file to its draft. -/
theorem generate_eq_ok_iff {protos : Path} {draft : Draft} :
    target.generate space protos fragments? = .ok draft ↔
      ∃ laidOut entries, target.draft space fragments? = .ok laidOut ∧
        Draft.fileEntries laidOut.enum space (protos.join target.protoFile) = .ok entries ∧
        draft = laidOut.addAll entries := by
  rw [generate]
  cases drafted : target.draft space fragments? with
  | error failure => simp [bind, Except.bind]
  | ok laidOut =>
    simp only [bind, Except.bind, Draft.addFile_eq]
    cases found : Draft.fileEntries laidOut.enum space (protos.join target.protoFile) <;>
      simp [Except.mapError, Except.map, found, eq_comm]

/-- A target is generated exactly if each of its fragments is there, its proto file can be read and
the entries of its enum can be taken from it. The file is then made of the fragments and the
renderings of all entries, and each entry is counted. -/
theorem generate_iff {protos : Path} {code : Text} {count : Nat} :
    (∃ draft, target.generate space protos fragments? = .ok draft ∧
        draft.code = code ∧ draft.count = count) ↔
      ∃ (text : Nat → Text) (source : Text) (entries : List Entry),
        (∀ number ∈ target.numbers, target.Offers space fragments? number (text number)) ∧
        space.read (protos.join target.protoFile) = .ok source ∧
        Block.entries target.protoEnum source = .ok entries ∧
        code = target.assembled text entries ∧ count = entries.length := by
  -- What is generated comes down to the edits of the layout, followed by those of the entries.
  have finished (text : Nat → Text) (entries : List Entry) :
      (((Draft.empty target.protoEnum).edited (laid text target.places)).addAll entries).code =
          target.assembled text entries ∧
        (((Draft.empty target.protoEnum).edited (laid text target.places)).addAll entries).count =
          entries.length := by
    have unmarked := marks_laid text target.places
    have first : SectionsFirst (laid text target.places ++ Draft.batch entries) :=
      sectionsFirst_append unmarked (by simp [Draft.batch])
    rw [← Draft.edited_batch, ← Draft.edited_append]
    constructor
    · rw [Draft.code_edited first, ← oneShot_laid]
      simp [Edit.entries_eq_nil_of_marks unmarked, Draft.entries_batch, layout_batch]
    · simp [Edit.entries_eq_nil_of_marks unmarked, Draft.entries_batch, Draft.empty]
  constructor
  · rintro ⟨draft, made, rfl, rfl⟩
    obtain ⟨_, entries, drafted, found, rfl⟩ := generate_eq_ok_iff.mp made
    obtain ⟨text, offered, rfl⟩ := draft_eq_ok_iff.mp drafted
    rw [Draft.enum_edited] at found
    obtain ⟨source, read, taken⟩ := fileEntries_eq_ok_iff.mp found
    exact ⟨text, source, entries, offered, read, taken, finished text entries⟩
  · rintro ⟨text, source, entries, offered, read, taken, rfl, rfl⟩
    have found := fileEntries_eq_ok_iff.mpr ⟨source, read, taken⟩
    have drafted := draft_eq_ok_iff.mpr ⟨text, offered, rfl⟩
    exact ⟨_, generate_eq_ok_iff.mpr ⟨_, entries, drafted, by rwa [Draft.enum_edited], rfl⟩,
      finished text entries⟩

/-! ### Fragments with files of their own -/

namespace Overridden

/-- The statement `name = value;`. -/
def assignment (name : Block.Word) (value : Block.Value) : Block.Assignment :=
  ⟨name, .spaces 1, .spaces 1, value, .spaces 0⟩

/-- Two entries, one of them with a comment. -/
def items : List Block.Item :=
  [.entry (.spaces 2)
      (assignment ⟨"NONE".toList, by decide, List.all_eq_true.mp rfl⟩
        ⟨['0'], by decide, by decide, by decide, by decide⟩)
      ⟨.spaces 1, none, some ⟨" nothing".toList, by decide⟩⟩,
    .entry (.spaces 2)
      (assignment ⟨"CryptoDelete".toList, by decide, List.all_eq_true.mp rfl⟩
        ⟨['3'], by decide, by decide, by decide, by decide⟩)
      ⟨.spaces 0, none, none⟩]

/-- The proto file of the request types. -/
def source : Text :=
  "enum HederaFunctionality \x7b\n  NONE = 0; // nothing\n  CryptoDelete = 3;\n\x7d\n".toList

/-- The fragments that have files of their own. -/
def fragments : List (Nat × Text) :=
  [(0, "public enum RequestType \x7b\n".toList), (2, "    // the cases:\n".toList),
    (6, "    \x7d\n\x7d\n".toList)]

/-- The fragment with a number; the one that has no file is the boilerplate. -/
def text (number : Nat) : Text :=
  (fragments.lookup number).getD Boilerplate.requestTypeNaming

/-- The location of the proto file. -/
def protosAt : Location := ["protos".toList]

/-- The location of the fragments. -/
def fragmentsAt : Location := ["premade".toList]

/-- The proto file, and the files of the fragments. -/
def tree : Tree :=
  let made := (Tree.empty.put protosAt .directory).put fragmentsAt .directory
  let filled := made.put (requestType.protoFile :: protosAt) (.file source.encode)
  fragments.foldl (fun tree (number, text) =>
    tree.put (requestType.fragmentFile number :: fragmentsAt) (.file text.encode)) filled

/-- The tree seen from its root. -/
def root : Workspace := ⟨tree, []⟩

/-- What is generated: the three overridden fragments and the boilerplate, and between them all
sections. -/
def code : Text :=
  Text.ofLines [
    "public enum RequestType \x7b",
    "    /**",
    "     * nothing",
    "     */",
    "    NONE(HederaFunctionality.NONE),",
    "",
    "    CRYPTO_DELETE(HederaFunctionality.CryptoDelete);",
    "",
    "    // the cases:",
    "            case NONE:",
    "                return NONE;",
    "            case CryptoDelete:",
    "                return CRYPTO_DELETE;",
    "            default:",
    "                throw new IllegalStateException(\"(BUG) unhandled HederaFunctionality\");",
    "        \x7d",
    "    \x7d",
    "",
    "    @Override",
    "    public String toString() \x7b",
    "        switch (this) \x7b",
    "            case NONE:",
    "                return \"NONE\";",
    "            case CRYPTO_DELETE:",
    "                return \"CRYPTO_DELETE\";",
    "    \x7d",
    "\x7d"]

theorem plain : root.Plain := by decide +kernel

theorem led_protos : root.reach? "protos".toList = some protosAt := by decide +kernel

theorem led_fragments : root.reach? "premade".toList = some fragmentsAt := by decide +kernel

theorem item?_source :
    root.tree.item? (requestType.protoFile :: protosAt) = some (.file source.encode) := rfl

theorem item?_fragment : ∀ fragment ∈ fragments,
    root.tree.item? (requestType.fragmentFile fragment.1 :: fragmentsAt) =
      some (.file fragment.2.encode) := by
  simp only [fragments, List.forall_mem_cons]
  exact ⟨rfl, rfl, rfl, by simp⟩

theorem item?_unwritten :
    root.tree.item? (requestType.fragmentFile 4 :: fragmentsAt) = none := by
  decide +kernel

theorem isName_fragmentFile : ∀ fragment ∈ fragments,
    IsName (requestType.fragmentFile fragment.1) := by
  decide

theorem allows_fragmentFile : ∀ fragment ∈ fragments,
    Path.Allows "premade".toList (requestType.fragmentFile fragment.1) := by
  decide

/-- A fragment that has a file of its own is found there. -/
theorem offers_of_mem {number : Nat} {text : Text} (among : (number, text) ∈ fragments) :
    requestType.Offers root (some "premade".toList) number text := by
  have isName := isName_fragmentFile _ among
  have allows := allows_fragmentFile _ among
  have there := item?_fragment _ among
  refine .file rfl ?_ ?_
  · exact Workspace.isFile_eq_true_iff.mpr
      ⟨_, (Workspace.item_join_eq_ok_iff plain isName).mpr ⟨allows, _, led_fragments, there⟩⟩
  · exact (Workspace.read_join_eq_ok_iff plain isName).mpr
      ⟨allows, _, _, led_fragments, there, Text.decode?_encode _⟩

theorem offers_unwritten : requestType.Offers root (some "premade".toList) 4
    Boilerplate.requestTypeNaming := by
  refine .boilerplate ?_ rfl
  rintro _ ⟨rfl⟩
  exact Workspace.isFile_join_eq_false plain (by decide) led_fragments item?_unwritten

theorem offers : ∀ number ∈ requestType.numbers,
    requestType.Offers root (some "premade".toList) number (text number) := by
  have numbered : requestType.numbers = [0, 2, 4, 6] := rfl
  rw [numbered]
  simp only [List.forall_mem_cons]
  exact ⟨offers_of_mem (by decide), offers_of_mem (by decide), offers_unwritten,
    offers_of_mem (by decide), by simp⟩

theorem read_source : root.read (Path.join "protos".toList requestType.protoFile) = .ok source :=
  (Workspace.read_join_eq_ok_iff plain (by decide)).mpr
    ⟨by decide, protosAt, _, led_protos, item?_source, Text.decode?_encode _⟩

theorem entries_source : Block.entries requestType.protoEnum source =
    .ok (Block.documented (.own (.spaces 0)) [] items) := by
  have header : Block.FirstHeader requestType.protoEnum source []
      ([' '] ++ "\x7b\n".toList ++ Block.printBlock items (.own (.spaces 0)) ++ ['\n']) :=
    Block.firstHeader_of_notMem List.not_mem_nil (by decide) (by decide)
  exact Block.entries_of_scan (Block.scan_of_firstHeader header (by decide))

/-- The request types are generated with three fragments of their own, the boilerplate between their
last two sections, and each section with both entries. -/
theorem generate_requestType :
    ∃ draft, requestType.generate root "protos".toList (some "premade".toList) = .ok draft ∧
      draft.code = code ∧ draft.count = 2 :=
  generate_iff.mpr ⟨text, source, _, offers, read_source, entries_source, by decide +kernel, rfl⟩

end Overridden

end EnumBindings.Target
