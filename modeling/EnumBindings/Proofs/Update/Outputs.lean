import EnumBindings.Proofs.Update.Settled

/-!
# What updates leave

An update that succeeds has saved both enums and made the copies. It writes into the package of the
enums and into the directory of the copies, and leaves all files elsewhere alone. The directory of
the proto files is another one: the three have different names, however they are nested.

## Main definitions

* `Published` — what saving both enums leaves
* `Untouched` — locations of other files than those that are written
* `Produced` — what an update that succeeds has done
* `Ready`, `Prepared` — everything is there that an update needs, until it copies and altogether

## Main results

* `saved_of_writes` — saving both enums leaves all other files alone
* `prepared_of_clearCopies` — the directory of the copies before the first one is made
* `mirrored_of_copyProtos` — clearing and copying leave the copies of the proto files
* `produced_of_produce` — what an update does that succeeds
* `Prepared.exists_produce` — an update for which everything is there succeeds
-/

namespace EnumBindings

open Workspace

variable {options : Options} {session after : Session} {space other : Workspace} {target : Target}
  {location origin place home : Location}

/-! ### Places -/

theorem classes_ne_nil : options.classes ≠ [] :=
  Path.join_ne_nil (by decide : IsName "sdk".toList)

/-- The package of the enums is below the source directory of the SDK, and named after the SDK. -/
theorem exists_sdk_of_classes (led : space.reach? options.classes = some home) :
    (∃ sdk, space.reach? options.sdk = some sdk) ∧ home.head? = some "sdk".toList := by
  rw [Options.classes] at led
  simp only [List.foldl_cons, List.foldl_nil] at led
  obtain ⟨hashgraph, ledHashgraph, -, -, rfl⟩ := (reach?_join_eq_some_iff (by decide)).mp led
  obtain ⟨hedera, ledHedera, -⟩ := (reach?_join_eq_some_iff (by decide)).mp ledHashgraph
  obtain ⟨com, ledCom, -⟩ := (reach?_join_eq_some_iff (by decide)).mp ledHedera
  obtain ⟨java, ledJava, -⟩ := (reach?_join_eq_some_iff (by decide)).mp ledCom
  obtain ⟨sdk, ledSdk, -⟩ := (reach?_join_eq_some_iff (by decide)).mp ledJava
  exact ⟨⟨sdk, ledSdk⟩, rfl⟩

theorem head?_of_protos (led : space.reach? options.protos = some origin) :
    origin.head? = some "services".toList := by
  obtain ⟨checkout, -, -, -, rfl⟩ := (reach?_join_eq_some_iff (by decide)).mp led
  rfl

/-- Whatever is generated comes from the directory of the proto files. -/
theorem exists_protos_of_generate {fragments? : Option Path} {draft : Draft} {protos : Path}
    (plain : space.Plain)
    (among : target ∈ Target.all)
    (generated : target.generate space protos fragments? = .ok draft) :
    ∃ origin, space.reach? protos = some origin := by
  obtain ⟨laidOut, entries, -, found, -⟩ := Target.generate_eq_ok_iff.mp generated
  obtain ⟨source, read, -⟩ := Target.fileEntries_eq_ok_iff.mp found
  obtain ⟨-, origin, content, led, -⟩ :=
    (read_join_eq_ok_iff plain (isName_protoFile target among)).mp read
  exact ⟨origin, led⟩

/-! ### Saving -/

/-- Saving an enum changes nothing but its file. -/
theorem saved_of_write {draft : Draft} (plain : space.Plain)
    (among : target ∈ Target.all)
    (led : space.reach? options.classes = some home)
    (written : space.write (options.classes.join target.classFile) draft.code = .ok other) :
    other.Plain ∧ Spares (· ≠ target.classFile :: home) space other ∧
      (∀ location, location ≠ target.classFile :: home →
        other.tree.item? location = space.tree.item? location) ∧
      SavedIn options other home target draft := by
  have isName := isName_classFile target among
  obtain ⟨allows, directory, ledTo, free, rfl⟩ := (write_join_eq_ok_iff plain isName).mp written
  obtain rfl : directory = home := Option.some.inj (ledTo.symm.trans led)
  have inside := plain.item?_of_reach? led
  have placed := Tree.item?_put inside free (.file draft.code.encode)
  refine ⟨plain.put isName inside free, spares_put inside free (by simp),
    fun location others => ?_, ⟨allows, ?_⟩⟩
  · rw [put, placed, if_neg others]
  · rw [put, placed, if_pos rfl]

/-- An enum stays saved as long as its file is left alone. -/
theorem SavedIn.of_spares {spared : Location → Prop} {draft : Draft}
    (saved : SavedIn options space home target draft) (spares : Spares spared space other)
    (there : spared (target.classFile :: home)) : SavedIn options other home target draft :=
  ⟨saved.allows, (spares.files there).mpr saved.found⟩

/-- An enum can be saved unless a directory is in the way. -/
theorem exists_write (plain : space.Plain) (among : target ∈ Target.all)
    (led : space.reach? options.classes = some home)
    (allows : options.classes.Allows target.classFile)
    (free : space.tree.item? (target.classFile :: home) ≠ some .directory) (draft : Draft) :
    ∃ other, space.write (options.classes.join target.classFile) draft.code = .ok other :=
  ⟨_, (write_join_eq_ok_iff plain (isName_classFile target among)).mpr
    ⟨allows, home, led, free, rfl⟩⟩

/-- Making the package and saving both enums leave all other files alone. -/
theorem saved_of_writes {requestType status : Draft} {made first second : Workspace}
    (plain : space.Plain) (makes : space.makeDirectories options.classes = (made, .ok ()))
    (writes : made.write (options.classes.join Target.requestType.classFile) requestType.code =
      .ok first)
    (writes' : first.write (options.classes.join Target.status.classFile) status.code =
      .ok second) :
    ∃ home, second.Plain ∧ second.directory options.classes = .ok home ∧
      Spares (fun location => ∀ target ∈ Target.all, location ≠ target.classFile :: home)
        space second ∧
      SavedIn options second home .requestType requestType ∧
      SavedIn options second home .status status := by
  have grows := grows_of_makeDirectories makes
  have plainMade := plain.grows grows
  obtain ⟨home, found⟩ := isDirectory_eq_true_iff.mp
    (isDirectory_of_makeDirectories plain classes_ne_nil makes)
  obtain ⟨admissible, led⟩ := (directory_eq_ok_iff plainMade).mp found
  obtain ⟨plainFirst, spares, -, saved⟩ := saved_of_write plainMade (by simp) led writes
  have ledFirst := spares.reach? led
  obtain ⟨plainSecond, spares', -, saved'⟩ :=
    saved_of_write plainFirst (by simp) ledFirst writes'
  have apart : Target.requestType.classFile ≠ Target.status.classFile :=
    classFile_ne_of_ne _ (by simp) _ (by simp) (by decide)
  refine ⟨home, plainSecond,
    (directory_eq_ok_iff plainSecond).mpr ⟨admissible, spares'.reach? ledFirst⟩,
    (grows.spares _).trans ((spares.mono ?_).trans (spares'.mono ?_)),
    saved.of_spares spares' ?_, saved'⟩
  · exact fun location others => others _ (by simp)
  · exact fun location others => others _ (by simp)
  · simpa using apart

/-- Both enums are saved in their package, and nothing else is changed. The directory of the proto
files, the package and the directory of the copies in the SDK are three. -/
structure Published (options : Options) (space other : Workspace) (origin home sdk : Location) :
    Prop where
  plain : other.Plain
  classes : other.directory options.classes = .ok home
  spares : Spares (fun location => ∀ target ∈ Target.all, location ≠ target.classFile :: home)
    space other
  protos : space.reach? options.protos = some origin
  led : other.reach? options.sdk = some sdk
  protosApart : origin ≠ "proto".toList :: sdk
  classesApart : home ≠ "proto".toList :: sdk
  apart : origin ≠ home

theorem published_of_writes {requestType status : Draft} {made first second : Workspace}
    (plain : space.Plain)
    (generated : Target.requestType.generate space options.protos options.fragments? =
      .ok requestType)
    (makes : space.makeDirectories options.classes = (made, .ok ()))
    (writes : made.write (options.classes.join Target.requestType.classFile) requestType.code =
      .ok first)
    (writes' : first.write (options.classes.join Target.status.classFile) status.code =
      .ok second) :
    ∃ origin home sdk, Published options space second origin home sdk ∧
      SavedIn options second home .requestType requestType ∧
      SavedIn options second home .status status := by
  obtain ⟨origin, ledProtos⟩ := exists_protos_of_generate plain (by simp) generated
  obtain ⟨home, plainSecond, found, spares, saved, saved'⟩ :=
    saved_of_writes plain makes writes writes'
  have ledClasses := ((directory_eq_ok_iff plainSecond).mp found).2
  obtain ⟨⟨sdk, ledSdk⟩, classesHead⟩ := exists_sdk_of_classes ledClasses
  -- The three directories have different names.
  have protosHead := head?_of_protos ledProtos
  refine ⟨origin, home, sdk, ⟨plainSecond, found, spares, ledProtos, ledSdk, ?_, ?_, ?_⟩, saved,
    saved'⟩
  · rintro rfl
    simp at protosHead
  · rintro rfl
    simp at classesHead
  · rintro rfl
    simp [classesHead] at protosHead

/-! ### Copying -/

theorem isName_proto : IsName "proto".toList := by decide

theorem fits_proto : Fits "proto".toList := by decide

/-- The directory of the copies is in the source directory of the SDK. -/
theorem directory_copies_eq_ok_iff {sdk : Location} (plain : space.Plain)
    (led : space.reach? options.sdk = some sdk) :
    space.directory options.copies = .ok place ↔ options.copies.Admissible ∧
      space.tree.item? ("proto".toList :: sdk) = some .directory ∧
        place = "proto".toList :: sdk := by
  rw [directory_eq_ok_iff plain, Options.copies, reach?_join_eq_some_iff isName_proto]
  simp only [led, Option.some.injEq, exists_eq_left', fits_proto, true_and]

/-- What is cleared is the directory of the copies, or nothing if that is not there yet. -/
theorem eq_cleared_of_clearCopies {sdk : Location} {removed : Nat} {cleared : Session}
    {prepared : Workspace} (plain : session.Plain) (led : session.reach? options.sdk = some sdk)
    (clear : (clearCopies options.copies options.keep).run session = .ok removed cleared)
    (made : cleared.toWorkspace.makeDirectories options.copies = (prepared, .ok ())) :
    cleared = { session with
      tree := session.tree.cleared ("proto".toList :: sdk) options.keep } := by
  by_cases there : session.isDirectory options.copies = true
  · obtain ⟨place, found⟩ := isDirectory_eq_true_iff.mp there
    obtain ⟨-, -, rfl⟩ := (directory_copies_eq_ok_iff plain led).mp found
    exact ((clearCopies_eq_ok_iff plain found).mp clear).2.2
  · have untouched : (clearCopies options.copies options.keep).run session = .ok 0 session :=
      clearCopies_run_of_missing (by simpa using there)
    rw [untouched] at clear
    cases clear
    -- Had it been there, it would still be there once the directories are made, and found then.
    have missing : session.tree.item? ("proto".toList :: sdk) ≠ some .directory := by
      intro held
      have grows := grows_of_makeDirectories made
      obtain ⟨place, found⟩ := isDirectory_eq_true_iff.mp
        (isDirectory_of_makeDirectories plain (Path.join_ne_nil isName_proto) made)
      obtain ⟨admissible, -⟩ := (directory_eq_ok_iff (plain.grows grows)).mp found
      exact there (isDirectory_eq_true_iff.mpr
        ⟨_, (directory_copies_eq_ok_iff plain led).mpr ⟨admissible, held, rfl⟩⟩)
    rw [Tree.cleared_of_ne_directory missing]

/-- Once the copies are cleared and their directory is made, that is the one in the source directory
of the SDK. -/
theorem prepared_of_clearCopies {sdk : Location} {removed : Nat} {cleared : Session}
    {prepared : Workspace} (plain : session.Plain) (led : session.reach? options.sdk = some sdk)
    (clear : (clearCopies options.copies options.keep).run session = .ok removed cleared)
    (made : cleared.toWorkspace.makeDirectories options.copies = (prepared, .ok ())) :
    prepared.Plain ∧
      prepared.directory options.copies = .ok ("proto".toList :: sdk) ∧
      Grows { session.toWorkspace with
        tree := session.tree.cleared ("proto".toList :: sdk) options.keep } prepared := by
  obtain rfl := eq_cleared_of_clearCopies plain led clear made
  have grows := grows_of_makeDirectories made
  have plainCleared := plain.cleared ("proto".toList :: sdk) options.keep
  have plainPrepared : prepared.Plain := plainCleared.grows grows
  have spares := (session.spares_cleared ("proto".toList :: sdk) options.keep).trans
    (grows.spares _)
  obtain ⟨place, copies⟩ := isDirectory_eq_true_iff.mp
    (isDirectory_of_makeDirectories plainCleared (Path.join_ne_nil isName_proto) made)
  obtain ⟨-, -, rfl⟩ :=
    (directory_copies_eq_ok_iff plainPrepared (spares.reach? led)).mp copies
  exact ⟨plainPrepared, copies, grows⟩

/-- Where there are no files but those to keep, copying leaves the copies of the proto files. -/
theorem mirrored_of_copied (plain : space.Plain)
    (protos : space.directory options.protos = .ok origin)
    (copies : space.directory options.copies = .ok place) (apart : origin ≠ place)
    (cleared : space.tree.stale place options.keep = []) (room : space.tree.HasRoom origin place)
    (copyable : ∀ name ∈ space.tree.fileNames origin,
      Copyable options.protos options.copies space.tree origin name) :
    Mirrored options { space with tree := space.tree.copied origin place } origin place := by
  have directories := Tree.directoriesIn_copied room
  have plain' := plain.copied room
  -- Copying changes nothing in the directory of the proto files.
  have same (name : Text) : (space.tree.copied origin place).item? (name :: origin) =
      space.tree.item? (name :: origin) :=
    Tree.item?_copied_of_outside room (by simp [apart])
  have files (name : Text) : name ∈ (space.tree.copied origin place).fileNames origin ↔
      name ∈ space.tree.fileNames origin := by
    simp only [Tree.mem_fileNames_iff, same]
  refine ⟨directory_mono protos plain plain' rfl directories,
    directory_mono copies plain plain' rfl directories, apart, fun name among => ?_,
    fun name among => ?_, fun name stale => (files name).mpr ?_⟩
  · obtain ⟨allowsFrom, allowsTo, text⟩ := copyable name ((files name).mp among)
    exact ⟨allowsFrom, allowsTo, (Tree.hasText_congr (same name)).mpr text⟩
  · rw [Tree.item?_copied_of_mem room ((files name).mp among), Tree.copyOf_congr (same name)]
  · obtain ⟨⟨content, there⟩, unkept⟩ := Tree.mem_stale_iff.mp stale
    rw [Tree.item?_copied room] at there
    split at there
    next among =>
      obtain ⟨other, file, alike⟩ := List.mem_map.mp among
      cases alike
      exact file
    next =>
      have old := Tree.mem_stale_iff.mpr ⟨⟨content, there⟩, unkept⟩
      rw [cleared] at old
      cases old

/-- Clearing and copying leave the copies of the proto files, and everything outside their directory
as it was. -/
theorem mirrored_of_copyProtos {sdk : Location} {removed copied : Nat} {cleared : Session}
    (plain : session.Plain) (ledSdk : session.reach? options.sdk = some sdk)
    (ledProtos : session.reach? options.protos = some origin)
    (apart : origin ≠ "proto".toList :: sdk)
    (clear : (clearCopies options.copies options.keep).run session = .ok removed cleared)
    (copy : (copyProtos options.protos options.copies).run cleared = .ok copied after) :
    after.Plain ∧
      Spares (fun location => ∀ name, location ≠ name :: "proto".toList :: sdk)
        session.toWorkspace after.toWorkspace ∧
      Mirrored options after.toWorkspace origin ("proto".toList :: sdk) := by
  obtain ⟨prepared, names, made, listed, run, -⟩ := copyProtos_eq_ok_iff.mp copy
  obtain ⟨plainPrepared, copies, grows⟩ := prepared_of_clearCopies plain ledSdk clear made
  have spares := (session.spares_cleared ("proto".toList :: sdk) options.keep).trans
    (grows.spares _)
  have ledFrom := spares.reach? ledProtos
  have ledTo := ((directory_eq_ok_iff plainPrepared).mp copies).2
  -- The directory that was listed is the one of the proto files, as clearing leaves it alone.
  obtain ⟨protos, rfl⟩ := directory_of_files plainPrepared ledFrom listed
  obtain ⟨each, rfl⟩ := (copyAll_eq_ok_iff plainPrepared ledFrom ledTo apart
    fun name among => plainPrepared.isName among).mp run
  have room : prepared.tree.HasRoom origin ("proto".toList :: sdk) :=
    ⟨plainPrepared.item?_of_reach? ledTo, fun name among => (each name among).2⟩
  exact ⟨plainPrepared.copied room, spares.trans (spares_copied room),
    mirrored_of_copied plainPrepared protos copies apart (Tree.stale_of_cleared grows.tree) room
      fun name among => (each name among).1⟩

/-! ### Producing -/

/-- A location is neither that of a generated file nor that of a copy. -/
def Untouched (home place location : Location) : Prop :=
  (∀ target ∈ Target.all, location ≠ target.classFile :: home) ∧ ∀ name, location ≠ name :: place

/-- What an update that succeeds has done: both enums are saved in their package, the copies are
made in their directory, and all other files are as they were. -/
structure Produced (options : Options) (space other : Workspace) (origin home place : Location) :
    Prop where
  plain : other.Plain
  spares : Spares (Untouched home place) space other
  saved : ∀ target ∈ Target.all, ∃ draft,
    target.generate space options.protos options.fragments? = .ok draft ∧
      SavedIn options other home target draft
  protos : space.reach? options.protos = some origin
  classes : other.directory options.classes = .ok home
  apart : origin ≠ home
  mirrored : Mirrored options other origin place

/-- Nothing in the directory of the proto files is touched. -/
theorem Produced.untouched (produced : Produced options space other origin home place)
    (name : Text) : Untouched home place (name :: origin) :=
  ⟨fun _ _ same => produced.apart (List.cons.inj same).2,
    fun _ same => produced.mirrored.apart (List.cons.inj same).2⟩

theorem produced_of_produce (plain : session.Plain)
    (done : (produce options).run session = .ok () after) :
    ∃ origin home place,
      Produced options session.toWorkspace after.toWorkspace origin home place := by
  obtain ⟨requestType, status, generated, generated', made, makes, first, writes, second, writes',
    removed, cleared, clear, copied, copy⟩ := produce_eq_ok_iff.mp done
  obtain ⟨origin, home, sdk, published, saved, saved'⟩ :=
    published_of_writes plain generated makes writes writes'
  let saving : Session := { session with toWorkspace := second }
  have plainSaving : saving.Plain := published.plain
  obtain ⟨plainAfter, spares, mirrored⟩ := mirrored_of_copyProtos plainSaving published.led
    (published.spares.reach? published.protos) published.protosApart clear copy
  have kept {target : Target} {draft : Draft} (saved : SavedIn options second home target draft) :
      SavedIn options after.toWorkspace home target draft :=
    saved.of_spares spares fun _ same => published.classesApart (List.cons.inj same).2
  refine ⟨origin, home, _, plainAfter,
    (published.spares.mono fun _ => And.left).trans (spares.mono fun _ => And.right), ?_,
    published.protos,
    directory_mono published.classes published.plain plainAfter spares.here spares.directories,
    published.apart, mirrored⟩
  simpa using ⟨⟨requestType, generated, kept saved⟩, ⟨status, generated', kept saved'⟩⟩

/-! ### Succeeding -/

/-- Everything is there that an update needs until it copies: both enums can be generated, the
directories are there, and nothing is in the way of the files to write and to clear. -/
structure Ready (options : Options) (space : Workspace) (origin home place : Location) :
    Prop where
  plain : space.Plain
  generated : ∀ target ∈ Target.all, ∃ draft,
    target.generate space options.protos options.fragments? = .ok draft
  protos : space.directory options.protos = .ok origin
  classes : space.directory options.classes = .ok home
  copies : space.directory options.copies = .ok place
  apart : origin ≠ home ∧ origin ≠ place ∧ home ≠ place
  writable : ∀ target ∈ Target.all, options.classes.Allows target.classFile ∧
    space.tree.item? (target.classFile :: home) ≠ some .directory
  clearable : ∀ name ∈ space.tree.stale place options.keep, options.copies.Allows name

/-- Everything is there that an update needs, and nothing is in the way of the files to copy. -/
structure Prepared (options : Options) (space : Workspace) (origin home place : Location) :
    Prop extends Ready options space origin home place where
  copyable : ∀ name ∈ space.tree.fileNames origin,
    Copyable options.protos options.copies space.tree origin name ∧
      space.tree.item? (name :: place) ≠ some .directory

/-- Where everything is there, both enums can be saved. That leaves whatever is in other
directories. -/
theorem Ready.exists_writes (ready : Ready options space origin home place) :
    ∃ requestType status,
      Target.requestType.generate space options.protos options.fragments? = .ok requestType ∧
      Target.status.generate space options.protos options.fragments? = .ok status ∧
      space.makeDirectories options.classes = (space, .ok ()) ∧
      ∃ first, space.write (options.classes.join Target.requestType.classFile) requestType.code =
        .ok first ∧
      ∃ second, first.write (options.classes.join Target.status.classFile) status.code =
        .ok second ∧
      second.Plain ∧
      (∀ {path location}, space.directory path = .ok location →
        second.directory path = .ok location) ∧
      (∀ {above}, above ≠ home → ∀ name,
        second.tree.item? (name :: above) = space.tree.item? (name :: above)) ∧
      ∀ name ∈ second.tree.stale place options.keep, options.copies.Allows name := by
  obtain ⟨requestType, generated⟩ := ready.generated .requestType (by simp)
  obtain ⟨status, generated'⟩ := ready.generated .status (by simp)
  obtain ⟨allows, free⟩ := ready.writable .requestType (by simp)
  obtain ⟨allows', free'⟩ := ready.writable .status (by simp)
  have led := ((directory_eq_ok_iff ready.plain).mp ready.classes).2
  obtain ⟨first, write⟩ := exists_write ready.plain (by simp) led allows free requestType
  obtain ⟨plainFirst, spares, same, -⟩ := saved_of_write ready.plain (by simp) led write
  -- The two classes have different names, so the second one is written over what was there.
  have apart : Target.status.classFile ≠ Target.requestType.classFile :=
    classFile_ne_of_ne _ (by simp) _ (by simp) (by decide)
  have led' := spares.reach? led
  obtain ⟨second, write'⟩ := exists_write plainFirst (by simp) led' allows'
    (by rwa [same _ fun alike => apart (List.cons.inj alike).1]) status
  obtain ⟨plainSecond, spares', same', -⟩ := saved_of_write plainFirst (by simp) led' write'
  have made := makeDirectories_of_isDirectory ready.plain
    (isDirectory_eq_true_iff.mpr ⟨home, ready.classes⟩)
  have untouched {above : Location} (others : above ≠ home) (name : Text) :
      second.tree.item? (name :: above) = space.tree.item? (name :: above) := by
    rw [same' _ fun alike => others (List.cons.inj alike).2,
      same _ fun alike => others (List.cons.inj alike).2]
  refine ⟨requestType, status, generated, generated', made, first, write, second, write',
    plainSecond, fun found => ?_, untouched, ?_⟩
  · exact directory_mono found ready.plain plainSecond (spares'.here.trans spares.here)
      (spares.directories.trans spares'.directories)
  · rw [Tree.stale_congr (untouched ready.apart.2.2.symm)]
    exact ready.clearable

/-- An update for which everything is there succeeds. -/
theorem Prepared.exists_produce
    (prepared : Prepared options session.toWorkspace origin home place) :
    ∃ after, (produce options).run session = .ok () after := by
  obtain ⟨requestType, status, generated, generated', made, first, write, second, write',
    plainSecond, found, untouched, clearable⟩ := prepared.exists_writes
  obtain ⟨protosApart, copiesApart, classesApart⟩ := prepared.apart
  have copyable : ∀ name ∈ second.tree.fileNames origin,
      Copyable options.protos options.copies second.tree origin name ∧
        second.tree.item? (name :: place) ≠ some .directory := by
    intro name among
    have same := untouched protosApart name
    obtain ⟨copyable, free⟩ := prepared.copyable name ((Tree.mem_fileNames_congr same).mp among)
    exact ⟨(copyable_congr same).mpr copyable, by rwa [untouched classesApart.symm]⟩
  let saved : Session := { session with toWorkspace := second }
  have plainSaved : saved.Plain := plainSecond
  obtain ⟨removed, cleared, copied, clear, copy⟩ := copies_of_copyable plainSaved
    (found prepared.protos) (found prepared.copies) copiesApart clearable copyable
  exact ⟨_, produce_eq_ok_iff.mpr ⟨requestType, status, generated, generated',
    session.toWorkspace, made, first, write, second, write', removed, cleared, clear, copied,
    copy⟩⟩

end EnumBindings
