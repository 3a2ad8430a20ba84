import EnumBindings.Proofs.Files.Making
import EnumBindings.Proofs.Update.Copies

/-!
# Clearing and copying as a whole

When a directory is cleared and the files of another one are copied into it, its files are the
copies, and besides them the old files to keep that have no namesake among the copies. Everything
else is as it was, but for the directories that are made on the way to it.

What is cleared is the directory to which the path leads at the beginning. A path may lead nowhere
then, and to a directory that has been there all the time once the directories on its way are made,
as a path does that goes through a missing directory and up again. Such a directory is not cleared,
and all of its old files without a namesake are left.

## Main definitions

* `Emptied` — what clearing leaves
* `Renewed` — what clearing and copying leave

## Main results

* `emptied_of_clearCopies` — clearing leaves the files to keep
* `renewed_of_copyProtos` — clearing and copying leave the copies and the files to keep
-/

namespace EnumBindings

open Workspace

section

variable {session cleared after : Session} {space other : Workspace} {source target : Path}
  {origin place : Location} {keep : List Text} {removed copied : Nat}

/-! ### Clearing -/

/-- A file of a directory stays when a path is cleared: it is to be kept, or the path does not lead
to a directory. -/
def Stays (target : Path) (keep : List Text) (space : Workspace) (name : Text) : Prop :=
  name ∈ keep ∨ space.isDirectory target = false

/-- What clearing a path leaves, which leads to the directory at a place if it leads anywhere. -/
structure Emptied (target : Path) (keep : List Text) (space other : Workspace) (place : Location) :
    Prop where
  plain : other.Plain
  spares : Spares (fun location => ∀ name, location ≠ name :: place) space other
  old : ∀ {location item}, other.tree.item? location = some item →
    space.tree.item? location = some item
  files : ∀ {name content}, other.tree.item? (name :: place) = some (.file content) ↔
    space.tree.item? (name :: place) = some (.file content) ∧ Stays target keep space name

/-- Clearing leaves the files to keep, and removes all other files of the directory. -/
theorem emptied_of_clearCopies (plain : session.Plain)
    (clear : (clearCopies target keep).run session = .ok removed cleared)
    (there : ∀ other, session.directory target = .ok other → other = place) :
    Emptied target keep session.toWorkspace cleared.toWorkspace place ∧
      removed = if session.isDirectory target then (session.tree.stale place keep).length else 0 := by
  cases held : session.isDirectory target with
  | true =>
    obtain ⟨other, found⟩ := isDirectory_eq_true_iff.mp held
    obtain rfl := there other found
    obtain ⟨-, rfl, rfl⟩ := (clearCopies_eq_ok_iff plain found).mp clear
    refine ⟨⟨plain.cleared other keep, session.spares_cleared other keep, Tree.item?_of_cleared,
      fun {name content} => ?_⟩, rfl⟩
    rw [Tree.item?_cleared_eq_file_iff]
    simp [Stays, held]
  | false =>
    rw [clearCopies_run_of_missing held] at clear
    cases clear
    refine ⟨⟨plain, (Grows.refl _).spares _, id, ?_⟩, rfl⟩
    exact ⟨fun left => ⟨left, .inr held⟩, And.left⟩

/-- Paths lead where they did after clearing, whichever directory was cleared. -/
theorem reach?_of_clearCopies (plain : session.Plain)
    (clear : (clearCopies target keep).run session = .ok removed cleared) :
    cleared.Plain ∧ ∀ {path location}, session.reach? path = some location →
      cleared.reach? path = some location := by
  obtain ⟨place, there⟩ : ∃ place, ∀ other, session.directory target = .ok other →
      other = place := by
    cases session.directory target with
    | ok place => exact ⟨place, fun other same => (Except.ok.inj same).symm⟩
    | error fault => exact ⟨[], fun other same => nomatch same⟩
  obtain ⟨emptied, -⟩ := emptied_of_clearCopies plain clear there
  exact ⟨emptied.plain, emptied.spares.reach?⟩

/-! ### Clearing and copying -/

/-- What clearing a path and copying the files of a directory to it leave, when the path leads to the
directory at a place in the end. -/
structure Renewed (target : Path) (keep : List Text) (space other : Workspace)
    (origin place : Location) : Prop where
  /-- Each file of the one directory has its copy in the other one. -/
  copies : ∀ name content, space.tree.item? (name :: origin) = some (.file content) →
    ∃ text, Text.decode? content = some text ∧ other.tree.item? (name :: place) =
      some (.file (Text.encode (Replacement.applyAll Replacement.proto text)))
  /-- Of all other files there, those that clearing leaves are there, as they were. -/
  kept : ∀ name, name ∉ space.tree.fileNames origin → ∀ content,
    other.tree.item? (name :: place) = some (.file content) ↔
      space.tree.item? (name :: place) = some (.file content) ∧ Stays target keep space name
  /-- All files elsewhere are as they were. -/
  elsewhere : ∀ location content, (∀ name, location ≠ name :: place) →
    (other.tree.item? location = some (.file content) ↔
      space.tree.item? location = some (.file content))
  /-- All directories are left, and none is added but on the way of the path. -/
  directories : space.tree.DirectoriesIn other.tree
  made : ∀ location, other.tree.item? location = some .directory →
    space.tree.item? location = some .directory ∨ other.OnWay target location
  /-- There are no links. -/
  linkless : other.tree.Linkless

/-- Clearing a path and copying a directory to it leave the copies and the files to keep. They give
the number of files that were not to be kept, if the path led to a directory, and the number of
copies. -/
theorem renewed_of_copyProtos (plain : session.Plain)
    (protos : session.directory source = .ok origin)
    (clear : (clearCopies target keep).run session = .ok removed cleared)
    (copy : (copyProtos source target).run cleared = .ok copied after)
    (apart : after.reach? target ≠ some origin) :
    ∃ place, after.reach? target = some place ∧
      Renewed target keep session.toWorkspace after.toWorkspace origin place ∧
      removed = (if session.isDirectory target then (session.tree.stale place keep).length else 0) ∧
      copied = (session.tree.fileNames origin).length := by
  obtain ⟨plainCleared, again⟩ := reach?_of_clearCopies plain clear
  obtain ⟨prepared, place, makes, -, ledTo, others, room, copyable, rfl, rfl⟩ :=
    exists_copied_of_copyProtos plainCleared
      (again ((directory_eq_ok_iff plain).mp protos).2) copy apart
  have grows := grows_of_makeDirectories makes
  have directories := Tree.directoriesIn_copied room
  -- If there was a directory to clear, it is the one that the copies go to.
  have there (other : Location) (found : session.directory target = .ok other) : other = place := by
    have led := grows.reach? (again ((directory_eq_ok_iff plain).mp found).2)
    exact Option.some.inj (led.symm.trans ledTo)
  obtain ⟨emptied, count⟩ := emptied_of_clearCopies plain clear there
  have spares := emptied.spares.trans (grows.spares _)
  have outside (name other : Text) : name :: origin ≠ other :: place :=
    fun same => others (List.cons.inj same).2
  -- Neither clearing nor making directories changes what is copied.
  have names : prepared.tree.fileNames origin = session.tree.fileNames origin :=
    spares.fileNames fun name => outside name
  refine ⟨place, reach?_mono ledTo rfl directories, ?_, count, by rw [names]⟩
  exact {
    copies := by
      intro name content found
      have there := (spares.files (outside name)).mpr found
      have among := Tree.mem_fileNames_iff.mpr ⟨content, there⟩
      obtain ⟨content', text, found', decoded⟩ := (copyable name among).text
      cases there.symm.trans found'
      refine ⟨text, decoded, ?_⟩
      rw [Tree.item?_copied_of_mem room among, Tree.copyOf_of_text there decoded]
    kept := by
      intro name unnamed content
      rw [← names] at unnamed
      rw [Tree.item?_copied room, if_neg (by simpa using unnamed)]
      exact grows.tree.item?_eq_file_iff.trans emptied.files
    elsewhere := by
      intro location content elsewhere
      rw [Tree.item?_copied_of_outside room elsewhere]
      exact spares.files elsewhere
    directories := emptied.spares.directories.trans (grows.tree.directoriesIn.trans directories)
    made := by
      intro location found
      have there := Tree.directoriesIn_of_copied room location found
      refine (onWay_of_makeDirectories plainCleared makes there).imp emptied.old ?_
      rintro ⟨above, part, walked⟩
      exact ⟨above, part, Tree.walk_mono directories walked⟩
    linkless := ((plainCleared.grows grows).copied room).linkless }

/-- If the path led to a directory at the beginning, or what it leads to was no directory then, only
files to keep are left besides the copies. -/
theorem Renewed.left_iff (renewed : Renewed target keep space other origin place) {name : Text}
    {content : ByteArray} (unnamed : name ∉ space.tree.fileNames origin)
    (direct : space.isDirectory target = true ∨ space.tree.item? place ≠ some .directory) :
    other.tree.item? (name :: place) = some (.file content) ↔
      space.tree.item? (name :: place) = some (.file content) ∧ name ∈ keep := by
  rw [renewed.kept name unnamed content]
  refine and_congr_right fun old => ?_
  rcases direct with led | missing
  · simp [Stays, led]
  · exact absurd (Tree.item?_above old) missing

end

/-! ### A way through a missing directory -/

namespace Detour

/-- The directory to copy from. -/
def origin : Location := ["from".toList]

/-- The directory to clear and copy to. -/
def place : Location := ["out".toList]

/-- A path to the directory to copy to, once the directory `x` in it is made. -/
def path : Path := "out/x/..".toList

/-- The name of a file to keep. -/
def keep : List Text := ["Kept.proto".toList]

/-- One file to copy, and three old ones, of which one has its name and one is to be kept. -/
def tree : Tree :=
  let made := [origin, place].foldl (fun tree location => tree.put location .directory) Tree.empty
  [["A.proto", "from"], ["A.proto", "out"], ["Kept.proto", "out"], ["Stale.proto", "out"]].foldl
    (fun tree names => tree.put (names.map String.toList) (.file (Text.encode ['a']))) made

/-- A session in the root of the tree. -/
def session : Session := ⟨⟨tree, []⟩, []⟩

theorem plain : session.Plain := by decide +kernel

theorem directory_origin : session.directory "from".toList = .ok origin :=
  (directory_eq_ok_iff plain).mpr ⟨by decide, by decide +kernel⟩

theorem directory_place : session.directory "out".toList = .ok place :=
  (directory_eq_ok_iff plain).mpr ⟨by decide, by decide +kernel⟩

theorem fileNames_origin : session.tree.fileNames origin = ["A.proto".toList] := by decide +kernel

/-- The one file can be copied wherever it is the only one. -/
theorem copyable {target : Path} {tree : Tree}
    (names : tree.fileNames origin = ["A.proto".toList])
    (found : tree.item? ("A.proto".toList :: origin) = some (.file (Text.encode ['a'])))
    (allows : target.Allows "A.proto".toList)
    (free : tree.item? ("A.proto".toList :: place) ≠ some .directory) :
    ∀ name ∈ tree.fileNames origin, Copyable "from".toList target tree origin name ∧
      tree.item? (name :: place) ≠ some .directory := by
  intro name among
  rw [names, List.mem_singleton] at among
  subst among
  exact ⟨⟨by decide, allows, _, _, found, Text.decode?_encode ['a']⟩, free⟩

/-- The session with the directory `x` made. -/
def made : Session := { session with tree := tree.put ("x".toList :: place) .directory }

theorem plain_made : made.Plain := by decide +kernel

theorem directory_made : made.directory path = .ok place :=
  (directory_eq_ok_iff plain_made).mpr ⟨by decide, by decide +kernel⟩

/-- The path cannot be followed as long as the directory `x` is missing. -/
theorem locate_path (purpose : Tree.Purpose) :
    tree.locate purpose [] path = .error .notFound := by
  have linkless : tree.Linkless := plain.linkless
  have names : Path.names path = ["out".toList, "x".toList, "..".toList] := by decide +kernel
  have held : tree.item? ["out".toList] = some .directory := by decide +kernel
  have missing : tree.item? ["x".toList, "out".toList] = none := by decide +kernel
  have absent : tree.item? ["x".toList, "out".toList] ≠ some .directory := by
    rw [missing]
    simp
  have more : purpose.isLast ["..".toList] = false := by cases purpose <;> rfl
  have enters : Enters "out".toList ∧ Enters "x".toList :=
    ⟨⟨by decide, by decide, by decide⟩, ⟨by decide, by decide, by decide⟩⟩
  rw [Tree.locate, if_neg (by decide), if_neg (by decide), if_neg (by decide), if_neg (by decide),
    names, Tree.follow_enter linkless enters.1 (by simp), if_pos (by decide), if_pos held,
    Tree.follow_enter linkless enters.2 (by simp), if_pos (by decide),
    if_neg absent, if_neg (Bool.eq_false_iff.mp more), if_pos missing]

/-- Along the way, `x` is made. -/
theorem makeDirectories_path :
    session.toWorkspace.makeDirectories path = (made.toWorkspace, .ok ()) := by
  have blocked : session.toWorkspace.makeDirectory path = .error .notFound := by
    rw [makeDirectory, session, locate_path]
    rfl
  have makes : session.toWorkspace.makeDirectory (Path.join "out".toList "x".toList) =
      .ok made.toWorkspace := by
    obtain ⟨location, led, rfl⟩ : ∃ location, session.tree.locate .replace session.here
        (Path.join "out".toList "x".toList) = .ok location ∧ location = "x".toList :: place :=
      (exists_locate_join_iff plain (by decide)).mpr
        ⟨by decide, place, ((directory_eq_ok_iff plain).mp directory_place).2, rfl⟩
    exact makeDirectory_eq_ok_iff.mpr ⟨_, led, by decide +kernel, rfl⟩
  have held := isDirectory_eq_true_iff.mpr ⟨place, directory_made⟩
  have there := makeDirectory_of_isDirectory plain_made held
  have ancestry : path.ancestry.tail = ["x".toList, "out".toList] := by decide +kernel
  have joined : Path.ofAncestry false ["x".toList, "out".toList] =
      Path.join "out".toList "x".toList := by
    decide
  have relative : path.isAbsolute = false := by decide
  rw [makeDirectories, if_neg (by decide), ensureDirectory, blocked, ancestry, relative]
  dsimp only
  rw [makeAncestry, ensureDirectory, joined, makes]
  dsimp only
  rw [there]
  dsimp only
  rw [if_pos held]

end Detour

/-- Along the straight way, two old files are removed and one copy is made. -/
theorem renewed_straight : ∃ cleared after,
    (clearCopies "out".toList Detour.keep).run Detour.session = .ok 2 cleared ∧
      (copyProtos "from".toList "out".toList).run cleared = .ok 1 after ∧
      Renewed "out".toList Detour.keep Detour.session.toWorkspace after.toWorkspace Detour.origin
        Detour.place := by
  have clearable : ∀ name ∈ Detour.session.tree.stale Detour.place Detour.keep,
      Path.Allows "out".toList name := by
    decide +kernel
  have copyable := Detour.copyable Detour.fileNames_origin rfl
    (by decide : Path.Allows "out".toList _) (by decide +kernel)
  obtain ⟨removed, cleared, copied, clear, copy⟩ := copies_of_copyable Detour.plain
    Detour.directory_origin Detour.directory_place (by decide) clearable copyable
  obtain ⟨place, led, renewed, removes, copies⟩ := renewed_of_copyProtos Detour.plain
    Detour.directory_origin clear copy (by decide +kernel)
  obtain rfl : Detour.place = place := Option.some.inj (Eq.trans (by decide +kernel) led)
  have held := isDirectory_eq_true_iff.mpr ⟨_, Detour.directory_place⟩
  have two : (Detour.session.tree.stale Detour.place Detour.keep).length = 2 := by decide +kernel
  rw [if_pos held, two] at removes
  rw [Detour.fileNames_origin] at copies
  subst removes copies
  exact ⟨cleared, _, clear, copy, renewed⟩

/-- Along the way through the missing directory nothing is removed, and an old file is left that is
neither to be kept nor the copy of one. -/
theorem stale_left_on_detour : ∃ after,
    Detour.session.directory "from".toList = .ok Detour.origin ∧
      (clearCopies Detour.path Detour.keep).run Detour.session = .ok 0 Detour.session ∧
      (copyProtos "from".toList Detour.path).run Detour.session = .ok 1 after ∧
      after.directory Detour.path = .ok Detour.place ∧
      after.tree.item? ("Stale.proto".toList :: Detour.place) = some (.file (Text.encode ['a'])) ∧
      "Stale.proto".toList ∉ Detour.keep ∧
      "Stale.proto".toList ∉ Detour.session.tree.fileNames Detour.origin := by
  have missing : Detour.session.isDirectory Detour.path = false := by
    rw [isDirectory, item, Detour.session, Detour.locate_path]
    rfl
  have from' : Detour.made.directory "from".toList = .ok Detour.origin :=
    (directory_eq_ok_iff Detour.plain_made).mpr ⟨by decide, by decide +kernel⟩
  have names : Detour.made.tree.fileNames Detour.origin = ["A.proto".toList] := by decide +kernel
  have copyable := Detour.copyable names rfl (by decide : Path.Allows Detour.path _)
    (by decide +kernel)
  have ledTo := ((directory_eq_ok_iff Detour.plain_made).mp Detour.directory_made).2
  let after : Session := { Detour.made with
    tree := Detour.made.tree.copied Detour.origin Detour.place }
  have copied : (copyAll "from".toList Detour.path (Detour.made.tree.fileNames Detour.origin)).run
      Detour.made = .ok () after :=
    (copyAll_eq_ok_iff Detour.plain_made ((directory_eq_ok_iff Detour.plain_made).mp from').2 ledTo
      (by decide) fun name among => Detour.plain_made.isName among).mpr ⟨copyable, rfl⟩
  have copy := copyProtos_eq_ok_iff.mpr
    ⟨_, _, Detour.makeDirectories_path, files_of_directory from', copied, rfl⟩
  rw [names] at copy
  have room : Detour.made.tree.HasRoom Detour.origin Detour.place :=
    ⟨Detour.plain_made.item?_of_reach? ledTo, fun name among => (copyable name among).2⟩
  refine ⟨after, Detour.directory_origin, clearCopies_run_of_missing missing, copy, ?_, ?_, ?_, ?_⟩
  · exact directory_mono Detour.directory_made Detour.plain_made (Detour.plain_made.copied room) rfl
      (Tree.directoriesIn_copied room)
  · rw [Tree.item?_copied room, if_neg (by rw [names]; decide)]
    decide +kernel
  · decide
  · rw [Detour.fileNames_origin]
    decide

end EnumBindings
