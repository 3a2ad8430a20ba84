import EnumBindings.Proofs.Target.Assembly
import EnumBindings.Proofs.Update.Copies
import EnumBindings.Proofs.Update.Fetching

/-!
# Workspaces in which there is nothing to update

A workspace is settled if both enums are generated as they are saved already, and if the copies are
those of the proto files that there are, apart from files to keep. An update of a settled workspace
removes the copies and makes them again, and leaves the workspace as it was.

## Main definitions

* `SavedIn`, `Saved` — a generated enum is saved already
* `Mirrored` — the copies are those of the proto files, apart from files to keep
* `Settled` — both enums are saved and the copies are made

## Main results

* `produce_eq_ok_iff` — the steps of an update that succeeds
* `Settled.produce` — an update of a settled workspace changes nothing
-/

namespace EnumBindings

variable {options : Options} {session after : Session} {space : Workspace} {target : Target}

/-- The file of a generated enum. -/
def Target.classFile (target : Target) : Text :=
  target.className ++ ".java".toList

/-- The file of an enum is in a directory, as it is saved. -/
structure SavedIn (options : Options) (space : Workspace) (home : Location) (target : Target)
    (draft : Draft) : Prop where
  allows : options.classes.Allows target.classFile
  found : space.tree.item? (target.classFile :: home) = some (.file draft.code.encode)

/-- An enum can be generated, and its file is as it would be saved. -/
structure Saved (options : Options) (space : Workspace) (target : Target) (draft : Draft) :
    Prop where
  generated : target.generate space options.protos options.fragments? = .ok draft
  saved : ∃ home, space.reach? options.classes = some home ∧
    SavedIn options space home target draft

/-- Every file of the proto files has its copy, and there are no other files but those to keep. -/
structure Mirrored (options : Options) (space : Workspace) (origin place : Location) : Prop where
  protos : space.directory options.protos = .ok origin
  copies : space.directory options.copies = .ok place
  apart : origin ≠ place
  copyable : ∀ name ∈ space.tree.fileNames origin,
    Copyable options.protos options.copies space.tree origin name
  copied : ∀ name ∈ space.tree.fileNames origin,
    space.tree.item? (name :: place) = some (space.tree.copyOf origin name)
  stale : ∀ name ∈ space.tree.stale place options.keep, name ∈ space.tree.fileNames origin

/-- Both enums are saved and the copies are made. -/
structure Settled (options : Options) (space : Workspace) : Prop where
  plain : space.Plain
  saved : ∀ target ∈ Target.all, ∃ draft, Saved options space target draft
  classes : space.isDirectory options.classes = true
  mirrored : ∃ origin place, Mirrored options space origin place

/-- The steps of an update that succeeds, once the checkout is up to date. -/
theorem produce_eq_ok_iff {answer : Unit} : (produce options).run session = .ok answer after ↔
    ∃ requestType status,
      Target.requestType.generate session.toWorkspace options.protos options.fragments? =
        .ok requestType ∧
      Target.status.generate session.toWorkspace options.protos options.fragments? = .ok status ∧
      ∃ made, session.toWorkspace.makeDirectories options.classes = (made, .ok ()) ∧
      ∃ first, made.write (options.classes.join Target.requestType.classFile) requestType.code =
        .ok first ∧
      ∃ second, first.write (options.classes.join Target.status.classFile) status.code =
        .ok second ∧
      ∃ removed cleared, (clearCopies options.copies options.keep).run
        { session with toWorkspace := second } = .ok removed cleared ∧
      ∃ copied, (copyProtos options.protos options.copies).run cleared = .ok copied after := by
  simp only [produce, generate, save, Draft.save, Target.outputPath, Action.bind_eq_ok_iff,
    Action.look_eq_ok_iff, Action.makeDirectories_eq_ok_iff, Action.change_eq_ok_iff]
  constructor
  · rintro ⟨requestType, _, ⟨generated, rfl⟩, status, _, ⟨generated', rfl⟩, _, _,
      ⟨made, done, rfl⟩, _, _, ⟨first, saved, rfl⟩, _, _, ⟨second, saved', rfl⟩,
      removed, cleared, clear, copied, _, copy, ended⟩
    cases ended
    exact ⟨requestType, status, generated, generated', made, done, first, saved, second, saved',
      removed, cleared, clear, copied, copy⟩
  · rintro ⟨requestType, status, generated, generated', made, done, first, saved, second, saved',
      removed, cleared, clear, copied, copy⟩
    exact ⟨requestType, _, ⟨generated, rfl⟩, status, _, ⟨generated', rfl⟩, (), _,
      ⟨made, done, rfl⟩, (), _, ⟨first, saved, rfl⟩, (), _, ⟨second, saved', rfl⟩,
      removed, cleared, clear, copied, _, copy, rfl⟩

/-- Saving an enum reads no text. -/
theorem readless_save (options : Options) (target : Target) (draft : Draft) :
    (save options target draft).Readless := by
  rw [save]
  exact .change fun _ _ _ => by simp

/-- Once both enums are generated, an update fails for a file that cannot be read only when that is
copied. -/
theorem produce_eq_unreadable_iff {requestType status : Draft} {file : Path} {fault : FileFault}
    (generated : Target.requestType.generate session.toWorkspace options.protos
      options.fragments? = .ok requestType)
    (generated' : Target.status.generate session.toWorkspace options.protos
      options.fragments? = .ok status) :
    (produce options).run session = .error (.unreadable file fault) after ↔
      ∃ made, session.toWorkspace.makeDirectories options.classes = (made, .ok ()) ∧
      ∃ first, made.write (options.classes.join Target.requestType.classFile) requestType.code =
        .ok first ∧
      ∃ second, first.write (options.classes.join Target.status.classFile) status.code =
        .ok second ∧
      ∃ removed cleared, (clearCopies options.copies options.keep).run
        { session with toWorkspace := second } = .ok removed cleared ∧
      (copyProtos options.protos options.copies).run cleared =
        .error (.unreadable file fault) after := by
  -- The enums are generated, so the update begins with making the directory for them.
  have run : (produce options).run session = ((do
      Action.makeDirectories options.classes
      save options .requestType requestType
      save options .status status
      let _ ← clearCopies options.copies options.keep
      let _ ← copyProtos options.protos options.copies) : Action Unit).run session := by
    rw [produce, EStateM.run_bind, generate, Action.look_run, generated]
    dsimp only
    rw [EStateM.run_bind, generate, Action.look_run, generated']
  -- Of the actions that are left, only copying reads files.
  rw [run, (Action.Readless.makeDirectories _).bind_eq_error_iff]
  simp only [(readless_save _ _ _).bind_eq_error_iff, (readless_clearCopies _ _).bind_eq_error_iff]
  simp only [Action.bind_eq_error_iff, Action.makeDirectories_eq_ok_iff, save, Draft.save,
    Target.outputPath, Action.change_eq_ok_iff]
  constructor
  · rintro ⟨_, _, ⟨made, done, rfl⟩, _, _, ⟨first, saved, rfl⟩, _, _, ⟨second, saved', rfl⟩,
      removed, cleared, clear, failed | ⟨_, _, _, ended⟩⟩
    · exact ⟨made, done, first, saved, second, saved', removed, cleared, clear, failed⟩
    · cases ended
  · rintro ⟨made, done, first, saved, second, saved', removed, cleared, clear, failed⟩
    exact ⟨(), _, ⟨made, done, rfl⟩, (), _, ⟨first, saved, rfl⟩, (), _, ⟨second, saved', rfl⟩,
      removed, cleared, clear, .inl failed⟩

/-! ### Updates of settled workspaces -/

theorem isName_classFile : ∀ target ∈ Target.all, IsName target.classFile := by
  decide

theorem isName_protoFile : ∀ target ∈ Target.all, IsName target.protoFile := by
  decide

theorem isName_fragmentFile : ∀ target ∈ Target.all,
    ∀ number ∈ target.numbers, IsName (target.fragmentFile number) := by
  decide

theorem classFile_ne_of_ne : ∀ target ∈ Target.all,
    ∀ other ∈ Target.all, target ≠ other →
      target.classFile ≠ other.classFile := by
  decide

theorem fragmentFile_ne_classFile : ∀ target ∈ Target.all,
    ∀ number ∈ target.numbers, ∀ other ∈ Target.all,
      target.fragmentFile number ≠ other.classFile := by
  decide

/-- Putting an item where it is changes nothing. -/
theorem Tree.put_of_item? {tree : Tree} {name : Text} {above : Location} {item : Item}
    (found : tree.item? (name :: above) = some item) (flat : item ≠ .directory) :
    tree.put (name :: above) item = tree := by
  refine Tree.ext_item? fun location => ?_
  rw [Tree.item?_put (Tree.item?_above found) (by simpa [found] using flat)]
  split
  next same => rw [same, found]
  next => rfl

/-- Saving an enum that is saved changes nothing. -/
theorem Saved.write {draft : Draft} (plain : space.Plain)
    (among : target ∈ Target.all) (saved : Saved options space target draft) :
    space.write (options.classes.join target.classFile) draft.code = .ok space := by
  obtain ⟨home, led, allows, found⟩ := saved.saved
  refine (Workspace.write_join_eq_ok_iff plain (isName_classFile target among)).mpr
    ⟨allows, home, led, by simp [found], ?_⟩
  rw [Workspace.put, Tree.put_of_item? found (by simp)]

variable {origin place : Location}

namespace Mirrored

variable (mirrored : Mirrored options space origin place) {name : Text}

include mirrored

/-- Clearing changes nothing in the directory of the proto files. -/
theorem item?_cleared : (space.tree.cleared place options.keep).item? (name :: origin) =
    space.tree.item? (name :: origin) :=
  Tree.item?_cleared_of_outside (by simp [mirrored.apart])

/-- After clearing, all copies can be put into their directory again. -/
theorem hasRoom : (space.tree.cleared place options.keep).HasRoom origin place where
  inside := Tree.directoriesIn_cleared _ _ _ _
    (Workspace.directory_eq_ok_iff_locate.mp mirrored.copies).2
  free name among held := by
    have copied := mirrored.copied name ((Tree.mem_fileNames_congr mirrored.item?_cleared).mp among)
    rw [Tree.item?_of_cleared held] at copied
    exact Tree.copyOf_ne_directory (Option.some.inj copied).symm

/-- Clearing and copying again leave the same tree. -/
theorem copied_cleared :
    (space.tree.cleared place options.keep).copied origin place = space.tree := by
  have files {name : Text} : name ∈ (space.tree.cleared place options.keep).fileNames origin ↔
      name ∈ space.tree.fileNames origin := Tree.mem_fileNames_congr mirrored.item?_cleared
  refine Tree.ext_item? fun location => ?_
  rw [Tree.item?_copied mirrored.hasRoom]
  split
  next among =>
    obtain ⟨name, file, rfl⟩ := List.mem_map.mp among
    rw [mirrored.copied name (files.mp file), ← Tree.copyOf_congr mirrored.item?_cleared]
    rfl
  next others =>
    -- Whatever is cleared has been copied again.
    rw [Tree.item?_cleared, if_neg ?_]
    intro among
    obtain ⟨name, stale, rfl⟩ := List.mem_map.mp among
    exact others (List.mem_map_of_mem (files.mpr (mirrored.stale name stale)))

end Mirrored

/-- Clearing and copying again change nothing. -/
theorem Mirrored.copies_again (plain : session.Plain)
    (mirrored : Mirrored options session.toWorkspace origin place) :
    ∃ removed cleared copied,
      (clearCopies options.copies options.keep).run session = .ok removed cleared ∧
      (copyProtos options.protos options.copies).run cleared = .ok copied session := by
  have free (name : Text) (among : name ∈ session.tree.fileNames origin) :
      session.tree.item? (name :: place) ≠ some .directory := by
    simpa [mirrored.copied name among] using Tree.copyOf_ne_directory
  obtain ⟨removed, cleared, copied, clear, copy⟩ := copies_of_copyable plain mirrored.protos
    mirrored.copies mirrored.apart
    (fun name stale => (mirrored.copyable name (mirrored.stale name stale)).allowsTo)
    fun name among => ⟨mirrored.copyable name among, free name among⟩
  rw [mirrored.copied_cleared] at copy
  exact ⟨removed, cleared, copied, clear, copy⟩

/-- An update of a settled workspace changes nothing. -/
theorem Settled.produce (settled : Settled options session.toWorkspace) :
    (produce options).run session = .ok () session := by
  obtain ⟨requestType, saved⟩ := settled.saved .requestType (by simp)
  obtain ⟨status, saved'⟩ := settled.saved .status (by simp)
  obtain ⟨origin, place, mirrored⟩ := settled.mirrored
  obtain ⟨removed, cleared, copied, clear, copy⟩ := mirrored.copies_again settled.plain
  exact produce_eq_ok_iff.mpr ⟨requestType, status, saved.generated, saved'.generated,
    session.toWorkspace, Workspace.makeDirectories_of_isDirectory settled.plain settled.classes,
    session.toWorkspace, saved.write settled.plain (by simp),
    session.toWorkspace, saved'.write settled.plain (by simp), removed, cleared, clear, copied, copy⟩

end EnumBindings
