import EnumBindings.Proofs.Files.Mirroring
import EnumBindings.Proofs.Session.Actions
import EnumBindings.ProtoCopies

/-!
# Clearing and copying, file by file

The copies are cleared by removing one file after the other, and made by reading and writing one
file after the other. Whether all of these steps succeed can be told from the tree at the beginning,
and so can the tree that they leave.

## Main definitions

* `removeAll`, `copyAll` — the steps for some names
* `Copyable` — a file can be read as text, and its copy can be written

## Main results

* `removeAll_eq_ok_iff`, `clearCopies_eq_ok_iff` — when a directory can be cleared
* `copyAll_eq_ok_iff`, `copyProtos_eq_ok_iff` — when files can be copied
* `copyAll_eq_notText_iff` — when copying stops at a file that has no text
* `exists_copied_of_copyProtos` — what copying leaves
-/

namespace EnumBindings

/-! ### Clearing -/

variable {session after : Session} {path source target : Path} {location : Location}
  {names keep : List Text} {count : Nat}

/-- The files directly in a directory are listed by their names. -/
theorem Workspace.files_of_directory {space : Workspace}
    (found : space.directory path = .ok location) :
    space.files path = .ok (space.tree.fileNames location) := by
  obtain ⟨led, held⟩ := Workspace.directory_eq_ok_iff_locate.mp found
  simp only [files, led, held, bind, Except.bind]
  rfl

/-- If files are listed behind a path, it is that of the directory to which it leads. -/
theorem Workspace.directory_of_files {space : Workspace} (plain : space.Plain)
    (led : space.reach? path = some location) (listed : space.files path = .ok names) :
    space.directory path = .ok location ∧ names = space.tree.fileNames location := by
  have found := (directory_eq_ok_iff plain).mpr ⟨admissible_of_files listed, led⟩
  exact ⟨found, Except.ok.inj (listed.symm.trans (files_of_directory found))⟩

/-- Removes the items of some names behind a path. -/
def removeAll (path : Path) (names : List Text) : Action Unit :=
  names.forM fun name => Action.change (·.remove (path.join name)) (.unremoved (path.join name))

/-- The items of some names are removed exactly if each of them is there once, and is no
directory. -/
theorem removeAll_eq_ok_iff (plain : session.Plain) (led : session.reach? path = some location)
    (named : ∀ name ∈ names, IsName name) {answer : Unit} :
    (removeAll path names).run session = .ok answer after ↔
      names.Nodup ∧
      (∀ name ∈ names, path.Allows name ∧
        ∃ item, session.tree.item? (name :: location) = some item ∧ item ≠ .directory) ∧
      after = { session with tree := session.tree.without location names } := by
  induction names generalizing session with
  | nil =>
    have done : (removeAll path []).run session = .ok () session := rfl
    simp [done, Tree.without, eq_comm]
  | cons name names ih =>
    have isName := named name (by simp)
    have step : (removeAll path (name :: names)).run session = .ok answer after ↔
        path.Allows name ∧
        (∃ item, session.tree.item? (name :: location) = some item ∧ item ≠ .directory) ∧
        (removeAll path names).run
          { session with tree := session.tree.drop (name :: location) } = .ok answer after := by
      rw [removeAll, Action.forM_cons, Action.bind_eq_ok_iff]
      simp only [Action.change_eq_ok_iff, Workspace.remove_join_eq_ok_iff plain isName, led,
        Option.some.injEq, exists_eq_left']
      constructor
      · rintro ⟨-, _, ⟨_, ⟨allows, there, rfl⟩, rfl⟩, rest⟩
        exact ⟨allows, there, rest⟩
      · rintro ⟨allows, there, rest⟩
        exact ⟨(), _, ⟨_, ⟨allows, there, rfl⟩, rfl⟩, rest⟩
    -- The induction is on the names; a name that comes again finds its item removed.
    rw [step, List.nodup_cons, List.forall_mem_cons]
    by_cases there : ∃ item, session.tree.item? (name :: location) = some item ∧ item ≠ .directory
    · have free : session.tree.item? (name :: location) ≠ some .directory := by
        obtain ⟨item, found, flat⟩ := there
        simpa [found] using flat
      have later := @ih { session with tree := session.tree.drop (name :: location) }
        (plain.drop free) (Workspace.reach?_drop free led)
        (List.forall_mem_cons.mp named).2
      -- Removing the first item leaves those of the other names.
      have others (other : Text) :
          (∃ item, (session.tree.drop (name :: location)).item? (other :: location) = some item ∧
            item ≠ .directory) ↔
          other ≠ name ∧ ∃ item, session.tree.item? (other :: location) = some item ∧
            item ≠ .directory := by
        rw [Tree.item?_drop free]
        by_cases same : other = name <;> simp [same]
      rw [later]
      simp only [others, there, true_and, and_true]
      constructor
      · rintro ⟨allows, nodup, each, rfl⟩
        exact ⟨⟨fun again => (each name again).2.1 rfl, nodup⟩,
          ⟨allows, fun other among => ⟨(each other among).1, (each other among).2.2⟩⟩, rfl⟩
      · rintro ⟨⟨new, nodup⟩, ⟨allows, each⟩, rfl⟩
        exact ⟨allows, nodup, fun other among => ⟨(each other among).1,
          fun same => new (same ▸ among), (each other among).2⟩, rfl⟩
    · simp only [there, false_and, and_false]

/-- A directory that is not there has nothing to clear. -/
theorem clearCopies_run_of_missing (missing : session.isDirectory path = false) :
    (clearCopies path keep).run session = .ok 0 session := by
  simp only [clearCopies, EStateM.run_bind, EStateM.run_get, missing]
  rfl

/-- A directory is cleared by dropping its files but those to keep, as long as their names can be
followed. -/
theorem clearCopies_eq_ok_iff (plain : session.Plain)
    (found : session.directory path = .ok location) :
    (clearCopies path keep).run session = .ok count after ↔
      (∀ name ∈ session.tree.stale location keep, path.Allows name) ∧
      count = (session.tree.stale location keep).length ∧
      after = { session with tree := session.tree.cleared location keep } := by
  have there := Workspace.isDirectory_eq_true_iff.mpr ⟨location, found⟩
  have led := ((Workspace.directory_eq_ok_iff plain).mp found).2
  have named : ∀ name ∈ session.tree.stale location keep, IsName name :=
    fun name among => plain.isName (List.mem_of_mem_filter among)
  have run : (clearCopies path keep).run session =
      (removeAll path (session.tree.stale location keep) >>= fun _ =>
        pure (session.tree.stale location keep).length).run session := by
    simp only [clearCopies, EStateM.run_bind, EStateM.run_get, there, if_true, Action.look_run,
      Workspace.files_of_directory found]
    rfl
  -- What is stale is a file, so nothing but its name can keep it from being removed.
  have files : ∀ name ∈ session.tree.stale location keep,
      ∃ item, session.tree.item? (name :: location) = some item ∧ item ≠ .directory := by
    intro name among
    obtain ⟨content, found⟩ := (Tree.mem_stale_iff.mp among).1
    exact ⟨_, found, by simp⟩
  rw [run, Action.bind_eq_ok_iff]
  simp only [removeAll_eq_ok_iff plain led named, EStateM.run_pure]
  constructor
  · rintro ⟨_, _, ⟨-, each, rfl⟩, ended⟩
    cases ended
    exact ⟨fun name among => (each name among).1, rfl, rfl⟩
  · rintro ⟨allowed, rfl, rfl⟩
    exact ⟨(), _, ⟨Tree.nodup_fileNames.filter _,
      fun name among => ⟨allowed name among, files name among⟩, rfl⟩, rfl⟩

/-! ### Copying -/

variable {origin place : Location}

/-- Copies the files of some names behind a path to another one. -/
def copyAll (source target : Path) (names : List Text) : Action Unit :=
  names.forM fun name => do
    let text ← Action.look fun space =>
      (space.read (source.join name)).mapError (Failure.unreadable (source.join name))
    Action.change (·.write (target.join name) (Replacement.applyAll Replacement.proto text))
      (.uncopied (target.join name))

private theorem mapError_eq_ok_iff {α ε ε' : Type} {result : Except ε α} {wrap : ε → ε'}
    {answer : α} : result.mapError wrap = .ok answer ↔ result = .ok answer := by
  cases result <;> simp [Except.mapError]

/-- A file behind a path can be read as text, and a copy can be written behind another path. -/
structure Copyable (source target : Path) (tree : Tree) (origin : Location) (name : Text) :
    Prop where
  allowsFrom : source.Allows name
  allowsTo : target.Allows name
  text : tree.HasText origin name

theorem copyable_congr {tree other : Tree} {name : Text}
    (same : other.item? (name :: origin) = tree.item? (name :: origin)) :
    Copyable source target other origin name ↔ Copyable source target tree origin name := by
  have text := Tree.hasText_congr same
  exact ⟨fun ⟨allowsFrom, allowsTo, there⟩ => ⟨allowsFrom, allowsTo, text.mp there⟩,
    fun ⟨allowsFrom, allowsTo, there⟩ => ⟨allowsFrom, allowsTo, text.mpr there⟩⟩

/-- Into another directory, files are copied exactly if each of them has a text and none of the
copies would take the place of a directory. -/
theorem copyAll_eq_ok_iff (plain : session.Plain) (ledFrom : session.reach? source = some origin)
    (ledTo : session.reach? target = some place) (apart : origin ≠ place)
    (named : ∀ name ∈ names, IsName name) {answer : Unit} :
    (copyAll source target names).run session = .ok answer after ↔
      (∀ name ∈ names, Copyable source target session.tree origin name ∧
        session.tree.item? (name :: place) ≠ some .directory) ∧
      after = { session with
        tree := session.tree.withItems place names (session.tree.copyOf origin) } := by
  induction names generalizing session with
  | nil =>
    have done : (copyAll source target []).run session = .ok () session := rfl
    simp [done, Tree.withItems, eq_comm]
  | cons name names ih =>
    have isName := named name (by simp)
    have step : (copyAll source target (name :: names)).run session = .ok answer after ↔
        (Copyable source target session.tree origin name ∧
          session.tree.item? (name :: place) ≠ some .directory) ∧
        (copyAll source target names).run
          { session with
            tree := session.tree.put (name :: place) (session.tree.copyOf origin name) } =
          .ok answer after := by
      rw [copyAll, Action.forM_cons, Action.bind_eq_ok_iff]
      simp only [Action.bind_eq_ok_iff, Action.change_eq_ok_iff, Action.look_eq_ok_iff,
        mapError_eq_ok_iff, Workspace.read_join_eq_ok_iff plain isName, ledFrom]
      constructor
      · rintro ⟨_, _, ⟨text, _, ⟨⟨allowsFrom, _, content, ⟨⟩, found, decoded⟩, rfl⟩, _, written,
          rfl⟩, rest⟩
        obtain ⟨allowsTo, _, led, free, rfl⟩ :=
          (Workspace.write_join_eq_ok_iff plain isName).mp written
        rw [ledTo] at led
        cases led
        rw [Tree.copyOf_of_text found decoded]
        exact ⟨⟨⟨allowsFrom, allowsTo, ⟨content, text, found, decoded⟩⟩, free⟩, rest⟩
      · rintro ⟨⟨⟨allowsFrom, allowsTo, ⟨content, text, found, decoded⟩⟩, free⟩, rest⟩
        rw [Tree.copyOf_of_text found decoded] at rest
        refine ⟨(), _, ⟨text, session, ⟨⟨allowsFrom, origin, content, rfl, found, decoded⟩, rfl⟩, _,
          ?_, rfl⟩, rest⟩
        exact (Workspace.write_join_eq_ok_iff plain isName).mpr ⟨allowsTo, place, ledTo, free, rfl⟩
    rw [List.forall_mem_cons]
    refine step.trans (Iff.trans (and_congr_right ?_) and_assoc.symm)
    rintro ⟨-, free⟩
    have inside := plain.item?_of_reach? ledTo
    have placed := Tree.item?_put inside free (session.tree.copyOf origin name)
    have changed : Workspace.Plain { session with
        tree := session.tree.put (name :: place) (session.tree.copyOf origin name) } := by
      obtain ⟨content, copy⟩ := session.tree.exists_copyOf_eq origin name
      rw [copy]
      exact plain.put isName inside free
    -- The copy changes nothing in the directory that is copied from.
    have same (other : Text) :
        (session.tree.put (name :: place) (session.tree.copyOf origin name)).item?
          (other :: origin) = session.tree.item? (other :: origin) := by
      rw [placed, if_neg (by simp [apart])]
    have copies : (session.tree.put (name :: place) (session.tree.copyOf origin name)).copyOf
        origin = session.tree.copyOf origin := by
      funext other
      exact Tree.copyOf_congr (same other)
    have frees (other : Text) :
        (session.tree.put (name :: place) (session.tree.copyOf origin name)).item?
          (other :: place) ≠ some .directory ↔
        session.tree.item? (other :: place) ≠ some .directory := by
      rw [placed]
      by_cases here : other = name
      · simp [here, free, Tree.copyOf_ne_directory]
      · simp [here]
    have later := @ih { session with
        tree := session.tree.put (name :: place) (session.tree.copyOf origin name) }
      changed (Workspace.reach?_put inside free ledFrom) (Workspace.reach?_put inside free ledTo)
      (List.forall_mem_cons.mp named).2
    rw [later]
    simp only [copyable_congr (same _), copies, frees]
    rfl

/-- Clearing reads no text. -/
theorem readless_clearCopies (path : Path) (keep : List Text) :
    (clearCopies path keep).Readless := by
  refine .bind .get fun session => ?_
  split
  · refine .bind (.look fun space _ _ => ?_) fun _ =>
      .bind (.forM fun _ => .change fun _ _ _ => by simp) fun _ => .pure _
    cases space.files path <;> simp [Except.mapError]
  · exact .pure _

/-- Proto files are copied once their directory is made, all files of the other directory in
turn. -/
theorem copyProtos_eq_ok_iff : (copyProtos source target).run session = .ok count after ↔
    ∃ prepared names, session.toWorkspace.makeDirectories target = (prepared, .ok ()) ∧
      prepared.files source = .ok names ∧
      (copyAll source target names).run { session with toWorkspace := prepared } = .ok () after ∧
      count = names.length := by
  have run : (copyProtos source target).run session =
      (Action.makeDirectories target >>= fun _ =>
        (Action.look fun space => (space.files source).mapError (Failure.unlisted source)) >>=
          fun names => copyAll source target names >>= fun _ => pure names.length).run session := rfl
  rw [run]
  simp only [Action.bind_eq_ok_iff, Action.makeDirectories_eq_ok_iff, Action.look_eq_ok_iff,
    mapError_eq_ok_iff, EStateM.run_pure]
  constructor
  · rintro ⟨_, _, ⟨prepared, made, rfl⟩, names, _, ⟨listed, rfl⟩, _, _, done, ended⟩
    cases ended
    exact ⟨prepared, names, made, listed, done, rfl⟩
  · rintro ⟨prepared, names, made, listed, done, rfl⟩
    exact ⟨(), _, ⟨prepared, made, rfl⟩, names, _, ⟨listed, rfl⟩, (), after, done, rfl⟩

/-- Copying files fails for one that cannot be read exactly if the files in front of it are
copied. -/
theorem copyAll_eq_unreadable_iff {fault : FileFault} {file : Path} :
    (copyAll source target names).run session = .error (.unreadable file fault) after ↔
      ∃ before name behind, names = before ++ name :: behind ∧
        (copyAll source target before).run session = .ok () after ∧
        file = source.join name ∧ after.read (source.join name) = .error fault := by
  have body (name : Text) (between : Session) :
      (Action.look fun space =>
          (space.read (source.join name)).mapError (Failure.unreadable (source.join name))).run
            between = .error (.unreadable file fault) after ↔
        file = source.join name ∧ between.read (source.join name) = .error fault ∧
          after = between := by
    rw [Action.look_eq_error_iff]
    cases between.read (source.join name) <;> simp [Except.mapError, eq_comm, and_assoc]
  rw [copyAll, Action.forM_eq_error_iff]
  simp only [Action.bind_eq_error_iff, Action.change_eq_error_iff, body]
  constructor
  · rintro ⟨before, name, behind, between, rfl, run, ⟨rfl, unread, rfl⟩ | ⟨_, _, _, _, _, ⟨⟩, _⟩⟩
    exact ⟨before, name, behind, rfl, run, rfl, unread⟩
  · rintro ⟨before, name, behind, rfl, run, rfl, unread⟩
    exact ⟨before, name, behind, after, rfl, run, .inl ⟨rfl, unread, rfl⟩⟩

/-- Into another directory, copying fails for a file that has no text exactly if the files in front
of it can be copied. -/
theorem copyAll_eq_notText_iff (plain : session.Plain)
    (ledFrom : session.reach? source = some origin) (ledTo : session.reach? target = some place)
    (apart : origin ≠ place) (named : ∀ name ∈ names, IsName name) {file : Path} :
    (copyAll source target names).run session = .error (.unreadable file .notText) after ↔
      ∃ before name behind, names = before ++ name :: behind ∧ file = source.join name ∧
        (∀ name ∈ before, Copyable source target session.tree origin name ∧
          session.tree.item? (name :: place) ≠ some .directory) ∧
        source.Allows name ∧ session.tree.LacksText origin name ∧
        after = { session with
          tree := session.tree.withItems place before (session.tree.copyOf origin) } := by
  rw [copyAll_eq_unreadable_iff]
  refine exists_congr fun before => exists_congr fun name => exists_congr fun behind =>
    and_congr_right fun listing => ?_
  subst listing
  obtain ⟨namedBefore, isName, -⟩ : (∀ name ∈ before, IsName name) ∧ IsName name ∧
      ∀ name ∈ behind, IsName name := by
    simpa only [List.forall_mem_append, List.forall_mem_cons] using named
  rw [copyAll_eq_ok_iff plain ledFrom ledTo apart namedBefore]
  let copied : Session := { session with
    tree := session.tree.withItems place before (session.tree.copyOf origin) }
  -- Copying changes nothing in the directory that is copied from.
  have unread (each : ∀ name ∈ before, Copyable source target session.tree origin name ∧
      session.tree.item? (name :: place) ≠ some .directory) :
      copied.read (source.join name) = .error .notText ↔
        source.Allows name ∧ session.tree.LacksText origin name := by
    have inside := plain.item?_of_reach? ledTo
    have free (other : Text) (among : other ∈ before) := (each other among).2
    have plainCopied : copied.Plain :=
      plain.withItems inside free namedBefore (session.tree.exists_copyOf_eq origin)
    have spares : Workspace.Spares (fun location => ∀ name, location ≠ name :: place)
        session.toWorkspace copied.toWorkspace :=
      Workspace.spares_withItems inside free fun _ => Tree.copyOf_ne_directory
    have same (content : ByteArray) :
        copied.tree.item? (name :: origin) = some (.file content) ↔
          session.tree.item? (name :: origin) = some (.file content) :=
      spares.files fun _ alike => apart (List.cons.inj alike).2
    simp only [Workspace.read_join_eq_notText_iff plainCopied isName, spares.reach? ledFrom,
      Option.some.injEq, exists_and_left, exists_eq_left', same]
    rfl
  constructor
  · rintro ⟨⟨each, rfl⟩, rfl, failed⟩
    obtain ⟨allows, lacks⟩ := (unread each).mp failed
    exact ⟨rfl, each, allows, lacks, rfl⟩
  · rintro ⟨rfl, each, allows, lacks, rfl⟩
    exact ⟨⟨each, rfl⟩, rfl, (unread each).mpr ⟨allows, lacks⟩⟩

/-- Copying proto files fails for one that cannot be read only once their directory is made. -/
theorem copyProtos_eq_unreadable_iff {fault : FileFault} {file : Path} :
    (copyProtos source target).run session = .error (.unreadable file fault) after ↔
      ∃ prepared names, session.toWorkspace.makeDirectories target = (prepared, .ok ()) ∧
        prepared.files source = .ok names ∧
        (copyAll source target names).run { session with toWorkspace := prepared } =
          .error (.unreadable file fault) after := by
  have run : (copyProtos source target).run session =
      (Action.makeDirectories target >>= fun _ =>
        (Action.look fun space => (space.files source).mapError (Failure.unlisted source)) >>=
          fun names => copyAll source target names >>= fun _ => pure names.length).run session := rfl
  have listing : (Action.look fun space =>
      (space.files source).mapError (Failure.unlisted source)).Readless := by
    refine .look fun space path fault => ?_
    cases space.files source <;> simp [Except.mapError]
  rw [run, (Action.Readless.makeDirectories target).bind_eq_error_iff]
  simp only [listing.bind_eq_error_iff, Action.bind_eq_error_iff, Action.makeDirectories_eq_ok_iff,
    Action.look_eq_ok_iff, mapError_eq_ok_iff]
  constructor
  · rintro ⟨_, _, ⟨prepared, made, rfl⟩, names, _, ⟨listed, rfl⟩, failed | ⟨_, _, _, ended⟩⟩
    · exact ⟨prepared, names, made, listed, failed⟩
    · cases ended
  · rintro ⟨prepared, names, made, listed, failed⟩
    exact ⟨(), _, ⟨prepared, made, rfl⟩, names, _, ⟨listed, rfl⟩, .inl failed⟩

/-- Copying leaves all directories, whichever they are. -/
theorem directoriesIn_of_copyAll {answer : Unit}
    (done : (copyAll source target names).run session = .ok answer after) :
    after.here = session.here ∧ session.tree.DirectoriesIn after.tree := by
  induction names generalizing session with
  | nil =>
    cases done
    exact ⟨rfl, fun _ => id⟩
  | cons name names ih =>
    rw [copyAll, Action.forM_cons] at done
    simp only [Action.bind_eq_ok_iff, Action.look_eq_ok_iff, Action.change_eq_ok_iff] at done
    obtain ⟨_, _, ⟨text, _, ⟨-, rfl⟩, space, written, rfl⟩, rest⟩ := done
    obtain ⟨here, directories⟩ := Workspace.directoriesIn_of_write written
    obtain ⟨here', directories'⟩ := ih rest
    exact ⟨here'.trans here, directories.trans directories'⟩

/-- What copying leaves: directories on the way to the other directory are made, and then all copies
are put into that. -/
theorem exists_copied_of_copyProtos (plain : session.Plain) (led : session.reach? source = some origin)
    (copy : (copyProtos source target).run session = .ok count after)
    (apart : after.reach? target ≠ some origin) :
    ∃ prepared place, session.toWorkspace.makeDirectories target = (prepared, .ok ()) ∧
      prepared.directory source = .ok origin ∧ prepared.reach? target = some place ∧
      origin ≠ place ∧ prepared.tree.HasRoom origin place ∧
      (∀ name ∈ prepared.tree.fileNames origin, Copyable source target prepared.tree origin name) ∧
      count = (prepared.tree.fileNames origin).length ∧
      after = { session with
        toWorkspace := { prepared with tree := prepared.tree.copied origin place } } := by
  obtain ⟨prepared, names, made, listed, run, rfl⟩ := copyProtos_eq_ok_iff.mp copy
  have grows := Workspace.grows_of_makeDirectories made
  have plain' : prepared.Plain := plain.grows grows
  have led' := grows.reach? led
  obtain ⟨found, rfl⟩ := Workspace.directory_of_files plain' led' listed
  obtain ⟨place, ledTo⟩ := Workspace.exists_reach?_of_makeDirectories plain made
  -- Wherever the path leads when the copying begins, it leads there in the end.
  obtain ⟨here, directories⟩ := directoriesIn_of_copyAll run
  have others : origin ≠ place := by
    rintro rfl
    exact apart (Workspace.reach?_mono ledTo here directories)
  obtain ⟨each, rfl⟩ := (copyAll_eq_ok_iff plain' led' ledTo others
    fun name among => plain'.isName among).mp run
  exact ⟨prepared, place, made, found, ledTo, others,
    ⟨plain'.item?_of_reach? ledTo, fun name among => (each name among).2⟩,
    fun name among => (each name among).1, rfl, rfl⟩

/-! ### Clearing and copying -/

/-- A directory is cleared if the files to clear have names that can be followed. What is in another
one is then as it was, and can be copied as before. -/
theorem cleared_of_clearable (plain : session.Plain)
    (protos : session.directory source = .ok origin) (copies : session.directory target = .ok place)
    (apart : origin ≠ place)
    (clearable : ∀ name ∈ session.tree.stale place keep, target.Allows name) :
    let cleared : Session := { session with tree := session.tree.cleared place keep }
    (clearCopies target keep).run session = .ok (session.tree.stale place keep).length cleared ∧
      cleared.Plain ∧ cleared.directory source = .ok origin ∧
      cleared.toWorkspace.makeDirectories target = (cleared.toWorkspace, .ok ()) ∧
      cleared.reach? target = some place ∧
      (∀ name, cleared.tree.item? (name :: origin) = session.tree.item? (name :: origin)) ∧
      ∀ name, Copyable source target session.tree origin name ∧
          session.tree.item? (name :: place) ≠ some .directory →
        Copyable source target cleared.tree origin name ∧
          cleared.tree.item? (name :: place) ≠ some .directory := by
  intro cleared
  have plain' : cleared.Plain := plain.cleared place keep
  have directories := session.tree.directoriesIn_cleared place keep
  have copies' : cleared.directory target = .ok place :=
    Workspace.directory_mono copies plain plain' rfl directories
  -- Only the target is cleared, so the other directory has what it had.
  have same (name : Text) :
      cleared.tree.item? (name :: origin) = session.tree.item? (name :: origin) :=
    Tree.item?_cleared_of_outside fun _ alike => apart (List.cons.inj alike).2
  refine ⟨(clearCopies_eq_ok_iff plain copies).mpr ⟨clearable, rfl, rfl⟩, plain',
    Workspace.directory_mono protos plain plain' rfl directories,
    Workspace.makeDirectories_of_isDirectory plain'
      (Workspace.isDirectory_eq_true_iff.mpr ⟨place, copies'⟩),
    ((Workspace.directory_eq_ok_iff plain').mp copies').2, same, ?_⟩
  rintro name ⟨copyable, free⟩
  exact ⟨(copyable_congr (same name)).mpr copyable, fun held => free (Tree.item?_of_cleared held)⟩

/-- A directory is cleared and copied into if the files to clear have names that can be followed,
and if all files of the other directory can be copied. -/
theorem copies_of_copyable (plain : session.Plain)
    (protos : session.directory source = .ok origin) (copies : session.directory target = .ok place)
    (apart : origin ≠ place)
    (clearable : ∀ name ∈ session.tree.stale place keep, target.Allows name)
    (copyable : ∀ name ∈ session.tree.fileNames origin,
      Copyable source target session.tree origin name ∧
        session.tree.item? (name :: place) ≠ some .directory) :
    ∃ removed cleared copied, (clearCopies target keep).run session = .ok removed cleared ∧
      (copyProtos source target).run cleared = .ok copied
        { session with tree := (session.tree.cleared place keep).copied origin place } := by
  obtain ⟨clear, plain', protos', made, ledTo, same, still⟩ :=
    cleared_of_clearable plain protos copies apart clearable
  refine ⟨_, _, _, clear, copyProtos_eq_ok_iff.mpr
    ⟨_, _, made, Workspace.files_of_directory protos', ?_, rfl⟩⟩
  refine (copyAll_eq_ok_iff plain' ((Workspace.directory_eq_ok_iff plain').mp protos').2 ledTo apart
    fun name there => plain'.isName there).mpr ⟨fun name there => ?_, rfl⟩
  exact still name (copyable name ((Tree.mem_fileNames_congr (same name)).mp there))

/-- Clearing and copying stop at a file that has no text if the files in front of it can be
copied. -/
theorem stops_of_lacksText {before behind : List Text} {name : Text} (plain : session.Plain)
    (protos : session.directory source = .ok origin) (copies : session.directory target = .ok place)
    (apart : origin ≠ place)
    (clearable : ∀ name ∈ session.tree.stale place keep, target.Allows name)
    (listing : session.tree.fileNames origin = before ++ name :: behind)
    (copyable : ∀ name ∈ before, Copyable source target session.tree origin name ∧
      session.tree.item? (name :: place) ≠ some .directory)
    (allows : source.Allows name) (lacks : session.tree.LacksText origin name) :
    ∃ removed cleared after, (clearCopies target keep).run session = .ok removed cleared ∧
      (copyProtos source target).run cleared =
        .error (.unreadable (source.join name) .notText) after := by
  obtain ⟨clear, plain', protos', made, ledTo, same, still⟩ :=
    cleared_of_clearable plain protos copies apart clearable
  have listing' := (Tree.fileNames_congr fun name => Tree.mem_fileNames_congr (same name)).trans
    listing
  have lacks' : Tree.LacksText (session.tree.cleared place keep) origin name :=
    lacks.imp fun content => And.imp_left (same name).trans
  have stops := (copyAll_eq_notText_iff plain' ((Workspace.directory_eq_ok_iff plain').mp protos').2
    ledTo apart fun name there => plain'.isName there).mpr ⟨before, name, behind, listing', rfl,
      fun name there => still name (copyable name there), allows, lacks', rfl⟩
  exact ⟨_, _, _, clear, copyProtos_eq_unreadable_iff.mpr
    ⟨_, _, made, Workspace.files_of_directory protos', stops⟩⟩

end EnumBindings
