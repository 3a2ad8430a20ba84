import EnumBindings.Proofs.Block.RoundTrip
import EnumBindings.Proofs.Update.Outputs

/-!
# Updates done twice

An update that succeeds leaves a settled workspace, so that the same update changes nothing the
second time. What it reads is what it leaves alone: neither the proto files nor the fragments are
in the directory of the copies, and the generated files have names of their own.

## Main results

* `generate_of_spares` — an enum is generated alike where what it is made from is left alone
* `Produced.settled` — an update that succeeds leaves a settled workspace
* `update_idempotent` — the same update changes nothing the second time
-/

namespace EnumBindings

open Workspace

section

variable {options : Options} {session after : Session} {space other : Workspace} {target : Target}
  {spared : Location → Prop} {location origin home place : Location} {base : Path} {name : Text}

/-! ### Generating again -/

/-- Files that are left alone are found again behind a path. -/
theorem isFile_join_of_spares (spares : Spares spared space other) (plain : space.Plain)
    (plain' : other.Plain) (isName : IsName name) (led : space.reach? base = some location)
    (there : spared (name :: location)) :
    other.isFile (base.join name) = space.isFile (base.join name) := by
  rw [Bool.eq_iff_iff, isFile_eq_true_iff, isFile_eq_true_iff]
  simp only [item_join_eq_ok_iff plain isName, item_join_eq_ok_iff plain' isName, led,
    spares.reach? led, Option.some.injEq, exists_eq_left', spares.files there]

theorem read_join_of_spares {text : Text} (spares : Spares spared space other)
    (plain : space.Plain) (plain' : other.Plain) (isName : IsName name)
    (led : space.reach? base = some location) (there : spared (name :: location)) :
    other.read (base.join name) = .ok text ↔ space.read (base.join name) = .ok text := by
  simp only [read_join_eq_ok_iff plain isName, read_join_eq_ok_iff plain' isName, led,
    spares.reach? led, Option.some.injEq, exists_eq_left', exists_and_left, spares.files there]

/-- An enum is generated alike where its fragments and its proto file are left alone. -/
theorem generate_of_spares {protos : Path} {fragments? : Option Path} {draft : Draft}
    (spares : Spares spared space other) (plain : space.Plain) (plain' : other.Plain)
    (among : target ∈ Target.all) (led : space.reach? protos = some origin)
    (proto : spared (target.protoFile :: origin))
    (fragments : ∀ directory, fragments? = some directory → ∃ location,
      space.reach? directory = some location ∧
        ∀ number ∈ target.numbers, spared (target.fragmentFile number :: location))
    (generated : target.generate space protos fragments? = .ok draft) :
    target.generate other protos fragments? = .ok draft := by
  obtain ⟨laidOut, entries, drafted, found, rfl⟩ := Target.generate_eq_ok_iff.mp generated
  obtain ⟨text, offered, rfl⟩ := Target.draft_eq_ok_iff.mp drafted
  obtain ⟨source, read, taken⟩ := Target.fileEntries_eq_ok_iff.mp found
  -- The fragments and the source are read as before, and nothing else decides what is generated.
  have again : ∀ number ∈ target.numbers,
      target.Offers other fragments? number (text number) := by
    intro number there
    have isName := isName_fragmentFile target among number there
    cases offered number there with
    | file given isFile read =>
      obtain ⟨location, ledFrom, spare⟩ := fragments _ given
      refine .file given ?_ ?_
      · rwa [isFile_join_of_spares spares plain plain' isName ledFrom (spare number there)]
      · rwa [read_join_of_spares spares plain plain' isName ledFrom (spare number there)]
    | boilerplate noFile builtIn =>
      refine .boilerplate (fun directory given => ?_) builtIn
      obtain ⟨location, ledFrom, spare⟩ := fragments _ given
      rw [isFile_join_of_spares spares plain plain' isName ledFrom (spare number there)]
      exact noFile directory given
  have read' := (read_join_of_spares spares plain plain' (isName_protoFile target among) led
    proto).mpr read
  exact Target.generate_eq_ok_iff.mpr ⟨_, entries, Target.draft_eq_ok_iff.mpr ⟨text, again, rfl⟩,
    Target.fileEntries_eq_ok_iff.mpr ⟨source, read', taken⟩, rfl⟩

/-! ### Updating again -/

/-- An update that succeeds leaves a settled workspace, unless it takes fragments from the directory
of the copies. -/
theorem Produced.settled (produced : Produced options space other origin home place)
    (plain : space.Plain) (fragments : ∀ directory, options.fragments? = some directory →
      ∃ location, space.directory directory = .ok location ∧ location ≠ place) :
    Settled options other := by
  refine ⟨produced.plain, fun target among => ?_,
    isDirectory_eq_true_iff.mpr ⟨home, produced.classes⟩, origin, place, produced.mirrored⟩
  obtain ⟨draft, generated, saved⟩ := produced.saved target among
  refine ⟨draft, ?_, home, ((directory_eq_ok_iff produced.plain).mp produced.classes).2, saved⟩
  -- What the enum is made from is written neither when enums are saved nor when copies are made.
  refine generate_of_spares produced.spares plain produced.plain among produced.protos
    (produced.untouched _) (fun directory given => ?_) generated
  obtain ⟨location, found, apart⟩ := fragments directory given
  refine ⟨location, ((directory_eq_ok_iff plain).mp found).2, fun number numbered =>
    ⟨fun other among' same => ?_, fun _ same => apart (List.cons.inj same).2⟩⟩
  exact fragmentFile_ne_classFile _ among number numbered other among' (List.cons.inj same).1

/-- The same update changes nothing the second time, and no file in the directory of the proto files
the first time. -/
theorem update_idempotent (host : Host) (plain : session.Plain)
    (asItIs : options.skipFetch = true)
    (fragments : ∀ directory, options.fragments? = some directory → ∃ location,
      session.directory directory = .ok location ∧ after.directory options.copies ≠ .ok location)
    (done : (update host options).run session = .ok () after) :
    (update host options).run after = .ok () after ∧ ∃ origin,
      session.directory options.protos = .ok origin ∧
      after.directory options.protos = .ok origin ∧
      ∀ name content, after.tree.item? (name :: origin) = some (.file content) ↔
        session.tree.item? (name :: origin) = some (.file content) := by
  rw [update_run_of_skipFetch asItIs] at done ⊢
  obtain ⟨origin, home, place, produced⟩ := produced_of_produce plain done
  -- What the first update has done is all that the second one would do.
  have settled := produced.settled plain fun directory given => by
    obtain ⟨location, found, others⟩ := fragments directory given
    exact ⟨location, found, fun same => others (same ▸ produced.mirrored.copies)⟩
  have found := produced.mirrored.protos
  have started : session.directory options.protos = .ok origin :=
    (directory_eq_ok_iff plain).mpr
      ⟨((directory_eq_ok_iff produced.plain).mp found).1, produced.protos⟩
  exact ⟨settled.produce, origin, started, found,
    fun name _ => produced.spares.files (produced.untouched name)⟩

end

/-! ### Nested directories -/

namespace Nested

/-- The directory of the proto files. -/
def services : Location := ["services".toList, "repo".toList]

/-- Options for which all that is written is below the directory of the proto files, where the
fragments would be as well. -/
def options : Options where
  branch := "main".toList
  checkout := "repo".toList
  remote := []
  sdk := "repo/services".toList
  fragments? := some "repo/services".toList
  skipFetch := true
  keep := ["Kept.proto".toList]

/-- The location of the package below the directory of the proto files. -/
def home : Location :=
  ["sdk", "hashgraph", "hedera", "com", "java"].map String.toList ++ services

/-- The location of the copies. -/
def place : Location := "proto".toList :: services

/-- A proto file for an enum. -/
def source (target : Target) : Text :=
  Block.headerText target.protoEnum ++
    ([' '] ++ "\x7b\n".toList ++ Block.printBlock Block.sampleItems Block.sampleClosing ++ ['\n'])

/-- Both proto files, with copies one of which is out of date and one is to be kept. -/
def tree : Tree :=
  let made := (home.tails.reverse ++ [place]).foldl
    (fun tree location => tree.put location .directory) Tree.empty
  let filled := Target.all.foldl
    (fun tree target => tree.put (target.protoFile :: services) (.file (source target).encode)) made
  ["Kept.proto", "Old.proto"].foldl
    (fun tree name => tree.put (name.toList :: place) (.file (source .status).encode)) filled

/-- A session in the root of the tree. -/
def session : Session := ⟨⟨tree, []⟩, []⟩

/-- A host whose programs do nothing. -/
def idle : Host := fun _ _ tree => (.exited 0, tree)

theorem plain : session.Plain := by decide +kernel

theorem led : session.reach? options.protos = some services := by decide +kernel

theorem item?_proto : ∀ target ∈ Target.all,
    session.tree.item? (target.protoFile :: services) = some (.file (source target).encode) := by
  intro target among
  rcases Target.mem_all.mp among with rfl | rfl
  · rfl
  · rfl

theorem entries_source (target : Target) : Block.entries target.protoEnum (source target) =
    .ok (Block.documented Block.sampleClosing [] Block.sampleItems) := by
  have alone : Block.StandsAlone none [] ([' '] ++ "\x7b\n".toList ++
      Block.printBlock Block.sampleItems Block.sampleClosing ++ ['\n']) := by
    decide
  exact Block.entries_of_scan (Block.scan_of_firstHeader
    (Block.firstHeader_of_notMem List.not_mem_nil rfl alone) (by decide))

theorem isSome_boilerplate : ∀ target ∈ Target.all,
    ∀ number ∈ target.numbers, (Boilerplate.fragment? target.className number).isSome := by
  decide

theorem item?_fragment : ∀ target ∈ Target.all, ∀ number ∈ target.numbers,
    session.tree.item? (target.fragmentFile number :: services) = none := by
  decide +kernel

/-- Where these are the proto files and there are no fragments, both enums can be generated, with
the boilerplate. -/
theorem exists_generate_of_source {space : Workspace} {protos : Path} {origin : Location}
    {fragments? : Option Path} (plain : space.Plain) (led : space.reach? protos = some origin)
    (allows : ∀ target ∈ Target.all, protos.Allows target.protoFile)
    (there : ∀ target ∈ Target.all, space.tree.item? (target.protoFile :: origin) =
      some (.file (source target).encode))
    (noFile : ∀ target ∈ Target.all, ∀ number ∈ target.numbers, ∀ directory,
      fragments? = some directory →
        space.isFile (directory.join (target.fragmentFile number)) = false)
    (target : Target) (among : target ∈ Target.all) :
    ∃ draft, target.generate space protos fragments? = .ok draft := by
  let text (number : Nat) : Text := (Boilerplate.fragment? target.className number).getD []
  have offered : ∀ number ∈ target.numbers,
      target.Offers space fragments? number (text number) := by
    intro number numbered
    obtain ⟨fragment, builtIn⟩ :=
      Option.isSome_iff_exists.mp (isSome_boilerplate target among number numbered)
    exact .boilerplate (noFile target among number numbered) (by simp [text, builtIn])
  have read : space.read (protos.join target.protoFile) = .ok (source target) :=
    (read_join_eq_ok_iff plain (isName_protoFile target among)).mpr
      ⟨allows target among, origin, _, led, there target among, Text.decode?_encode _⟩
  have found := Target.fileEntries_eq_ok_iff.mpr ⟨source target, read, entries_source target⟩
  have drafted := Target.draft_eq_ok_iff.mpr ⟨text, offered, rfl⟩
  exact ⟨_, Target.generate_eq_ok_iff.mpr ⟨_, _, drafted, by rwa [Draft.enum_edited], rfl⟩⟩

/-- Both enums can be generated, with the boilerplate. -/
theorem exists_generate (target : Target) (among : target ∈ Target.all) :
    ∃ draft, target.generate session.toWorkspace options.protos options.fragments? = .ok draft := by
  refine exists_generate_of_source plain led (by decide) item?_proto ?_ target among
  rintro target among number numbered _ ⟨rfl⟩
  exact isFile_join_eq_false plain (isName_fragmentFile target among number numbered) led
    (item?_fragment target among number numbered)

/-- Everything is there that an update needs. -/
theorem prepared : Prepared options session.toWorkspace services home place where
  plain := plain
  generated := exists_generate
  protos := (directory_eq_ok_iff plain).mpr ⟨by decide, led⟩
  classes := (directory_eq_ok_iff plain).mpr ⟨by decide, by decide +kernel⟩
  copies := (directory_eq_ok_iff plain).mpr ⟨by decide, by decide +kernel⟩
  apart := by decide
  writable := by decide +kernel
  clearable := by decide +kernel
  copyable name among := by
    have names : session.tree.fileNames services = Target.all.map Target.protoFile := by
      decide +kernel
    have possible : ∀ target ∈ Target.all,
        options.protos.Allows target.protoFile ∧ options.copies.Allows target.protoFile ∧
          session.tree.item? (target.protoFile :: place) ≠ some .directory := by
      decide +kernel
    rw [names] at among
    obtain ⟨target, either, rfl⟩ := List.mem_map.mp among
    obtain ⟨allowsFrom, allowsTo, free⟩ := possible target either
    exact ⟨⟨allowsFrom, allowsTo, _, _, item?_proto target either, Text.decode?_encode _⟩, free⟩

end Nested

/-- With all directories in that of the proto files, an update succeeds, and changes nothing the
second time. -/
theorem update_idempotent_nested : ∃ after,
    Nested.session.Plain ∧ Nested.options.skipFetch = true ∧
      (∀ directory, Nested.options.fragments? = some directory → ∃ location,
        Nested.session.directory directory = .ok location ∧
          after.directory Nested.options.copies ≠ .ok location) ∧
      (update Nested.idle Nested.options).run Nested.session = .ok () after ∧
      (update Nested.idle Nested.options).run after = .ok () after ∧ ∃ origin,
        Nested.session.directory Nested.options.protos = .ok origin ∧
        after.directory Nested.options.protos = .ok origin ∧
        ∀ name content, after.tree.item? (name :: origin) = some (.file content) ↔
          Nested.session.tree.item? (name :: origin) = some (.file content) := by
  obtain ⟨after, first⟩ := Nested.prepared.exists_produce
  have fragments : ∀ directory, Nested.options.fragments? = some directory → ∃ location,
      Nested.session.directory directory = .ok location ∧
        after.directory Nested.options.copies ≠ .ok location := by
    rintro _ ⟨rfl⟩
    refine ⟨Nested.services, Nested.prepared.protos, fun same => ?_⟩
    obtain ⟨origin, home, place, produced⟩ := produced_of_produce Nested.plain first
    obtain rfl : Nested.services = origin := Option.some.inj (Nested.led.symm.trans produced.protos)
    exact produced.mirrored.apart (Except.ok.inj (same.symm.trans produced.mirrored.copies))
  have done : (update Nested.idle Nested.options).run Nested.session = .ok () after :=
    (update_run_of_skipFetch rfl).trans first
  exact ⟨after, Nested.plain, rfl, fragments, done,
    update_idempotent Nested.idle Nested.plain rfl fragments done⟩

end EnumBindings
