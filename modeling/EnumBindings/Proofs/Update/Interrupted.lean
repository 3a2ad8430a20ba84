import EnumBindings.Proofs.Update.Idempotence

/-!
# Updates that stop at a proto file without text

The proto files are read one after the other while they are copied, when the old copies are cleared
already. An update that stops at a proto file whose content is no text has therefore saved both
enums, has removed the old copies but those to keep, and has made the copies of the proto files in
front of the one without text. The old copies are all left as they were exactly if each of them is
to be kept, or equals the copy that is made in its place.

## Main definitions

* `Interrupted` — what clearing and copying have done when they stop

## Main results

* `Interrupted.untouched_iff` — when the old copies are left as they were
* `interrupted_of_copyProtos` — clearing and copying that stop at a proto file without text
* `Ready.exists_stop` — an update stops at the first proto file without text
* `update_interrupted` — what an update leaves that stops at a proto file without text
-/

namespace EnumBindings

open Workspace

section

variable {options : Options} {session after : Session} {space middle other : Workspace}
  {origin home place sdk : Location} {before : List Text} {file : Path}
  {spared spared' : Location → Prop}

/-! ### Copying that stops -/

/-- What clearing and copying have done when some files have been copied: these have their copies,
and of the old files in the place of no copy those to keep are left. -/
structure Interrupted (options : Options) (spared : Location → Prop) (space other : Workspace)
    (origin place : Location) (before : List Text) : Prop where
  spares : Spares spared space other
  copies : ∀ name ∈ before, space.tree.HasText origin name ∧
    other.tree.item? (name :: place) = some (space.tree.copyOf origin name)
  kept : ∀ name, name ∉ before → ∀ content,
    other.tree.item? (name :: place) = some (.file content) ↔
      space.tree.item? (name :: place) = some (.file content) ∧ name ∈ options.keep

/-- The old files in the directory of the copies are left as they were exactly if each of them
equals the copy that is made in its place, or is to be kept if none is made. -/
theorem Interrupted.untouched_iff
    (interrupted : Interrupted options spared space other origin place before) :
    (∀ old content, space.tree.item? (old :: place) = some (.file content) →
      other.tree.item? (old :: place) = some (.file content)) ↔
    ∀ old content, space.tree.item? (old :: place) = some (.file content) →
      if old ∈ before then space.tree.copyOf origin old = .file content
      else old ∈ options.keep := by
  refine forall_congr' fun old => forall_congr' fun content => imp_congr_right fun there => ?_
  split
  next copied => rw [(interrupted.copies old copied).2, Option.some.injEq]
  next uncopied => rw [interrupted.kept old uncopied content, and_iff_right there]

/-- What is done before clearing and copying makes no difference where it leaves both directories
alone. -/
theorem Interrupted.behind
    (interrupted : Interrupted options spared middle other origin place before)
    (spares : Spares spared' space middle) (atOrigin : ∀ name, spared' (name :: origin))
    (atPlace : ∀ name, spared' (name :: place)) :
    Interrupted options (fun location => spared' location ∧ spared location) space other origin
      place before where
  spares := (spares.mono fun _ => And.left).trans (interrupted.spares.mono fun _ => And.right)
  copies name among := by
    obtain ⟨text, copied⟩ := interrupted.copies name among
    exact ⟨(spares.hasText_iff (atOrigin name)).mp text,
      by rw [copied, spares.copyOf (atOrigin name)]⟩
  kept name uncopied content := by
    rw [interrupted.kept name uncopied content, spares.files (atPlace name)]

/-- Clearing and copying that stop at a proto file without text have cleared the copies and copied
the proto files in front of it. -/
theorem interrupted_of_copyProtos {removed : Nat} {cleared : Session} (plain : session.Plain)
    (ledSdk : session.reach? options.sdk = some sdk)
    (ledProtos : session.reach? options.protos = some origin)
    (apart : origin ≠ "proto".toList :: sdk)
    (clear : (clearCopies options.copies options.keep).run session = .ok removed cleared)
    (stops : (copyProtos options.protos options.copies).run cleared =
      .error (.unreadable file .notText) after) :
    ∃ before name behind, after.Plain ∧
      options.protos.Admissible ∧ after.directory options.copies = .ok ("proto".toList :: sdk) ∧
      session.tree.fileNames origin = before ++ name :: behind ∧
      file = options.protos.join name ∧ session.tree.LacksText origin name ∧
      Interrupted options (fun location => ∀ name, location ≠ name :: "proto".toList :: sdk)
        session.toWorkspace after.toWorkspace origin ("proto".toList :: sdk) before := by
  obtain ⟨prepared, names, made, listed, run⟩ := copyProtos_eq_unreadable_iff.mp stops
  obtain ⟨plainPrepared, copies, grows⟩ := prepared_of_clearCopies plain ledSdk clear made
  have spares := (session.spares_cleared ("proto".toList :: sdk) options.keep).trans
    (grows.spares _)
  have ledFrom := spares.reach? ledProtos
  have ledTo := ((directory_eq_ok_iff plainPrepared).mp copies).2
  obtain ⟨protos, rfl⟩ := directory_of_files plainPrepared ledFrom listed
  obtain ⟨before, name, behind, listing, rfl, each, allows, lacks, rfl⟩ :=
    (copyAll_eq_notText_iff plainPrepared ledFrom ledTo apart
      fun name among => plainPrepared.isName among).mp run
  -- Until the copies are made, nothing is changed in the directory of the proto files.
  have spared (name other : Text) : name :: origin ≠ other :: "proto".toList :: sdk :=
    fun alike => apart (List.cons.inj alike).2
  have inside := plainPrepared.item?_of_reach? ledTo
  have free (name : Text) (among : name ∈ before) := (each name among).2
  have named (name : Text) (among : name ∈ before) : IsName name :=
    plainPrepared.isName (listing ▸ List.mem_append_left _ among)
  have flat (name : Text) : prepared.tree.copyOf origin name ≠ .directory :=
    Tree.copyOf_ne_directory
  have plainAfter :=
    plainPrepared.withItems inside free named (prepared.tree.exists_copyOf_eq origin)
  have copying := spares_withItems inside free flat
  refine ⟨before, name, behind, plainAfter, ((directory_eq_ok_iff plainPrepared).mp protos).1,
    directory_mono copies plainPrepared plainAfter copying.here copying.directories,
    (spares.fileNames fun name => spared name).symm.trans listing, rfl,
    (spares.lacksText_iff (spared name)).mp lacks, ?_⟩
  exact {
    spares := spares.trans copying
    copies := by
      intro name among
      obtain ⟨⟨-, -, text⟩, -⟩ := each name among
      refine ⟨(spares.hasText_iff (spared name)).mp text, ?_⟩
      rw [Tree.item?_withItems inside free flat, if_pos (List.mem_map_of_mem among),
        ← spares.copyOf (spared name)]
      rfl
    kept := by
      intro name uncopied content
      rw [Tree.item?_withItems inside free flat, if_neg (by simpa using uncopied),
        grows.tree.item?_eq_file_iff, Tree.item?_cleared_eq_file_iff] }

/-! ### Updates that stop -/

/-- An update that stops at a proto file without text, though both enums are generated, has saved
them, cleared the copies, and copied the proto files in front of it. -/
theorem interrupted_of_produce (plain : session.Plain)
    (generated : ∀ target ∈ Target.all, ∃ draft,
      target.generate session.toWorkspace options.protos options.fragments? = .ok draft)
    (failed : (produce options).run session = .error (.unreadable file .notText) after) :
    ∃ origin home place before name behind, after.Plain ∧
      session.directory options.protos = .ok origin ∧
      after.directory options.classes = .ok home ∧
      after.directory options.copies = .ok place ∧
      session.tree.fileNames origin = before ++ name :: behind ∧
      file = options.protos.join name ∧ session.tree.LacksText origin name ∧
      (∀ target ∈ Target.all, ∃ draft,
        target.generate session.toWorkspace options.protos options.fragments? = .ok draft ∧
          SavedIn options after.toWorkspace home target draft) ∧
      Interrupted options (Untouched home place) session.toWorkspace after.toWorkspace origin place
        before := by
  obtain ⟨requestType, generates⟩ := generated .requestType (by simp)
  obtain ⟨status, generates'⟩ := generated .status (by simp)
  obtain ⟨made, makes, first, writes, second, writes', removed, cleared, clear, stops⟩ :=
    (produce_eq_unreadable_iff generates generates').mp failed
  obtain ⟨origin, home, sdk, published, saved, saved'⟩ :=
    published_of_writes plain generates makes writes writes'
  -- Both enums are saved when the copies are cleared, and they stay saved from there on.
  let saving : Session := { session with toWorkspace := second }
  have plainSaving : saving.Plain := published.plain
  obtain ⟨before, name, behind, plainAfter, admissible, copies, listing, rfl, lacks, interrupted⟩ :=
    interrupted_of_copyProtos plainSaving published.led
      (published.spares.reach? published.protos) published.protosApart clear stops
  have spared {location : Location} (others : location ≠ home) (name : Text) :
      ∀ target ∈ Target.all, name :: location ≠ target.classFile :: home :=
    fun _ _ same => others (List.cons.inj same).2
  have kept {target : Target} {draft : Draft} (saved : SavedIn options second home target draft) :
      SavedIn options after.toWorkspace home target draft :=
    saved.of_spares interrupted.spares fun _ same => published.classesApart (List.cons.inj same).2
  refine ⟨origin, home, _, before, name, behind, plainAfter,
    (directory_eq_ok_iff plain).mpr ⟨admissible, published.protos⟩,
    directory_mono published.classes published.plain plainAfter interrupted.spares.here
      interrupted.spares.directories,
    copies, ?_, rfl, ?_, ?_, ?_⟩
  · exact (published.spares.fileNames (spared published.apart)).symm.trans listing
  · exact (published.spares.lacksText_iff (spared published.apart name)).mp lacks
  · simpa using ⟨⟨requestType, generates, kept saved⟩, ⟨status, generates', kept saved'⟩⟩
  · exact interrupted.behind published.spares (spared published.apart)
      (spared published.classesApart.symm)

/-- An update for which everything is there stops at a proto file without text if those in front of
it can be copied. -/
theorem Ready.exists_stop {name : Text} {behind : List Text}
    (ready : Ready options session.toWorkspace origin home place)
    (listing : session.tree.fileNames origin = before ++ name :: behind)
    (copyable : ∀ name ∈ before,
      Copyable options.protos options.copies session.tree origin name ∧
        session.tree.item? (name :: place) ≠ some .directory)
    (allows : options.protos.Allows name) (lacks : session.tree.LacksText origin name) :
    ∃ after, (produce options).run session =
      .error (.unreadable (options.protos.join name) .notText) after := by
  obtain ⟨requestType, status, generated, generated', made, first, write, second, write',
    plainSecond, found, untouched, clearable⟩ := ready.exists_writes
  obtain ⟨protosApart, copiesApart, classesApart⟩ := ready.apart
  -- Saving the enums leaves the proto files and the copies as they were.
  have same (name : Text) :
      second.tree.item? (name :: origin) = session.tree.item? (name :: origin) :=
    untouched protosApart name
  have listing' : second.tree.fileNames origin = before ++ name :: behind :=
    (Tree.fileNames_congr fun name => Tree.mem_fileNames_congr (same name)).trans listing
  have copyable' : ∀ name ∈ before,
      Copyable options.protos options.copies second.tree origin name ∧
        second.tree.item? (name :: place) ≠ some .directory := by
    intro name among
    rw [copyable_congr (same name), untouched classesApart.symm]
    exact copyable name among
  have lacks' : second.tree.LacksText origin name :=
    lacks.imp fun content => And.imp_left (same name).trans
  let saved : Session := { session with toWorkspace := second }
  have plainSaved : saved.Plain := plainSecond
  obtain ⟨removed, cleared, after, clear, stops⟩ := stops_of_lacksText plainSaved
    (found ready.protos) (found ready.copies) copiesApart clearable listing' copyable' allows lacks'
  exact ⟨after, (produce_eq_unreadable_iff generated generated').mpr ⟨session.toWorkspace, made,
    first, write, second, write', removed, cleared, clear, stops⟩⟩

/-- An update that stops at a proto file without text, though both enums are generated, leaves the
old copies as they were exactly if each of them equals the copy that is made in its place, or is to
be kept if the update stops before that. -/
theorem update_interrupted (host : Host) (plain : session.Plain)
    (asItIs : options.skipFetch = true)
    (generated : ∀ target ∈ Target.all, ∃ draft,
      target.generate session.toWorkspace options.protos options.fragments? = .ok draft)
    (failed : (update host options).run session = .error (.unreadable file .notText) after) :
    ∃ origin home place before name behind,
      session.directory options.protos = .ok origin ∧
      after.directory options.classes = .ok home ∧
      after.directory options.copies = .ok place ∧
      session.tree.fileNames origin = before ++ name :: behind ∧
      file = options.protos.join name ∧ session.tree.LacksText origin name ∧
      (∀ target ∈ Target.all, ∃ draft,
        target.generate session.toWorkspace options.protos options.fragments? = .ok draft ∧
          SavedIn options after.toWorkspace home target draft) ∧
      Interrupted options (Untouched home place) session.toWorkspace after.toWorkspace origin place
        before ∧
      ((∀ old content, session.tree.item? (old :: place) = some (.file content) →
          after.tree.item? (old :: place) = some (.file content)) ↔
        ∀ old content, session.tree.item? (old :: place) = some (.file content) →
          if old ∈ before then session.tree.copyOf origin old = .file content
          else old ∈ options.keep) := by
  rw [update_run_of_skipFetch asItIs] at failed
  obtain ⟨origin, home, place, before, name, behind, -, protos, classes, copies, listing, same,
    lacks, saved, interrupted⟩ := interrupted_of_produce plain generated failed
  exact ⟨origin, home, place, before, name, behind, protos, classes, copies, listing, same, lacks,
    saved, interrupted, interrupted.untouched_iff⟩

end

/-! ### A spoiled proto file -/

namespace Spoiled

/-- The directory of the proto files. -/
def services : Location := ["services".toList, "repo".toList]

/-- Options for an SDK beside the checkout. -/
def options : Options where
  branch := "main".toList
  checkout := "repo".toList
  remote := []
  sdk := "sdk".toList
  fragments? := none
  skipFetch := true
  keep := ["Kept.proto".toList]

/-- The location of the package. -/
def home : Location :=
  ["sdk", "hashgraph", "hedera", "com", "java", "sdk"].map String.toList

/-- The location of the copies. -/
def place : Location := ["proto".toList, "sdk".toList]

/-- The proto files for both enums, one with a byte that is no text and one in front of it. Of the
old copies one is out of date, one is to be kept, and one is neither. -/
def tree : Tree :=
  let made := (home.tails.reverse ++ [place, services.tail, services]).foldl
    (fun tree location => tree.put location .directory) Tree.empty
  let filled := Target.all.foldl (fun tree target =>
    tree.put (target.protoFile :: services) (.file (Nested.source target).encode)) made
  let spoiled := filled.put ("B.proto".toList :: services) (.file ⟨#[0xff]⟩)
  [["A.proto", "services", "repo"], ["A.proto", "proto", "sdk"], ["Kept.proto", "proto", "sdk"],
      ["Old.proto", "proto", "sdk"]].foldl
    (fun tree names => tree.put (names.map String.toList) (.file (Text.encode ['a']))) spoiled

/-- A session in the root of the tree. -/
def session : Session := ⟨⟨tree, []⟩, []⟩

theorem plain : session.Plain := by decide +kernel

theorem led : session.reach? options.protos = some services := by decide +kernel

theorem item?_proto : ∀ target ∈ Target.all, session.tree.item? (target.protoFile :: services) =
    some (.file (Nested.source target).encode) := by
  intro target among
  rcases Target.mem_all.mp among with rfl | rfl
  · rfl
  · rfl

theorem fileNames_services : session.tree.fileNames services =
    ["A.proto".toList] ++ "B.proto".toList :: Target.all.map Target.protoFile := by
  decide +kernel

theorem lacksText : session.tree.LacksText services "B.proto".toList :=
  ⟨⟨#[0xff]⟩, rfl, by decide +kernel⟩

/-- Everything is there that an update needs until it copies. -/
theorem ready : Ready options session.toWorkspace services home place where
  plain := plain
  generated := Nested.exists_generate_of_source plain led (by decide) item?_proto nofun
  protos := (directory_eq_ok_iff plain).mpr ⟨by decide, led⟩
  classes := (directory_eq_ok_iff plain).mpr ⟨by decide, by decide +kernel⟩
  copies := (directory_eq_ok_iff plain).mpr ⟨by decide, by decide +kernel⟩
  apart := by decide
  writable := by decide +kernel
  clearable := by decide +kernel

/-- The update stops at the spoiled proto file. -/
theorem exists_produce : ∃ after, (produce options).run session =
    .error (.unreadable (options.protos.join "B.proto".toList) .notText) after := by
  refine ready.exists_stop fileNames_services ?_ (by decide) lacksText
  intro name among
  obtain rfl := List.mem_singleton.mp among
  exact ⟨⟨by decide, by decide, _, _, rfl, Text.decode?_encode ['a']⟩, by decide +kernel⟩

end Spoiled

/-- The update stops at the spoiled proto file, when it has made the copies in front of that and has
left the old copy that is to be kept. -/
theorem update_interrupted_spoiled : ∃ after,
    Spoiled.session.Plain ∧ Spoiled.options.skipFetch = true ∧
      (∀ target ∈ Target.all, ∃ draft, target.generate Spoiled.session.toWorkspace
        Spoiled.options.protos Spoiled.options.fragments? = .ok draft) ∧
      (update Nested.idle Spoiled.options).run Spoiled.session =
        .error (.unreadable (Spoiled.options.protos.join "B.proto".toList) .notText) after ∧
      ∃ home place before name behind,
        after.directory Spoiled.options.classes = .ok home ∧
        after.directory Spoiled.options.copies = .ok place ∧
        Spoiled.session.tree.fileNames Spoiled.services = before ++ name :: behind ∧
        Spoiled.options.protos.join "B.proto".toList = Spoiled.options.protos.join name ∧
        Interrupted Spoiled.options (Untouched home place) Spoiled.session.toWorkspace
          after.toWorkspace Spoiled.services place before := by
  obtain ⟨after, stops⟩ := Spoiled.exists_produce
  have failed : (update Nested.idle Spoiled.options).run Spoiled.session =
      .error (.unreadable (Spoiled.options.protos.join "B.proto".toList) .notText) after :=
    (update_run_of_skipFetch rfl).trans stops
  obtain ⟨origin, home, place, before, name, behind, protos, classes, copies, listing, same, -, -,
    interrupted, -⟩ := update_interrupted Nested.idle Spoiled.plain rfl Spoiled.ready.generated
      failed
  obtain rfl : Spoiled.services = origin := Except.ok.inj (Spoiled.ready.protos.symm.trans protos)
  exact ⟨after, Spoiled.plain, rfl, Spoiled.ready.generated, failed, home, place, before, name,
    behind, classes, copies, listing, same, interrupted⟩

/-- When the update stops, an old copy is gone that was there before. -/
theorem old_copy_lost_spoiled : ∃ after,
    Spoiled.session.Plain ∧ Spoiled.options.skipFetch = true ∧
      (∀ target ∈ Target.all, ∃ draft, target.generate Spoiled.session.toWorkspace
        Spoiled.options.protos Spoiled.options.fragments? = .ok draft) ∧
      (update Nested.idle Spoiled.options).run Spoiled.session =
        .error (.unreadable (Spoiled.options.protos.join "B.proto".toList) .notText) after ∧
      Spoiled.session.directory Spoiled.options.protos = .ok Spoiled.services ∧
      Spoiled.session.tree.LacksText Spoiled.services "B.proto".toList ∧
      Spoiled.session.directory Spoiled.options.copies = .ok Spoiled.place ∧
      Spoiled.session.tree.item? ("Old.proto".toList :: Spoiled.place) =
        some (.file (Text.encode ['a'])) ∧
      ∀ content, after.tree.item? ("Old.proto".toList :: Spoiled.place) ≠ some (.file content) := by
  obtain ⟨after, stops⟩ := Spoiled.exists_produce
  obtain ⟨origin, home, place, before, name, behind, plainAfter, protos, -, copies, listing, -, -,
    -, interrupted⟩ := interrupted_of_produce Spoiled.plain Spoiled.ready.generated stops
  obtain rfl : Spoiled.services = origin := Except.ok.inj (Spoiled.ready.protos.symm.trans protos)
  have copies' := directory_mono Spoiled.ready.copies Spoiled.plain plainAfter
    interrupted.spares.here interrupted.spares.directories
  obtain rfl : Spoiled.place = place := Except.ok.inj (copies'.symm.trans copies)
  have uncopied : "Old.proto".toList ∉ before := by
    intro among
    have there : "Old.proto".toList ∈ Spoiled.session.tree.fileNames Spoiled.services :=
      listing ▸ List.mem_append_left _ among
    rw [Spoiled.fileNames_services] at there
    revert there
    decide
  refine ⟨after, Spoiled.plain, rfl, Spoiled.ready.generated,
    (update_run_of_skipFetch rfl).trans stops, protos, Spoiled.lacksText, Spoiled.ready.copies,
    by rfl, fun content left => ?_⟩
  have kept := ((interrupted.kept _ uncopied content).mp left).2
  revert kept
  decide

end EnumBindings
