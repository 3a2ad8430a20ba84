import EnumBindings.Proofs.Files.Walking

/-!
# Where paths lead

In a workspace without links, a path leads to a directory or to nothing, and a name behind a path
stands for the item of that name in the directory to which the path leads. Each operation on a file
behind a path comes down to one on that item.

## Main definitions

* `Path.Admissible`, `Path.Allows` — paths that can be followed at all, and names behind them
* `Workspace.Plain` — no links, and names for all files
* `Workspace.reach?` — the directory to which a path leads

## Main results

* `Workspace.reach?_mono` — paths lead to the same directories where there are at least these
* `Workspace.directory_eq_ok_iff` — the directory of a path is the one to which it leads
* `Workspace.exists_locate_join_iff` — the place of a name behind a path
* `Workspace.read_join_eq_ok_iff`, `Workspace.write_join_eq_ok_iff`,
  `Workspace.remove_join_eq_ok_iff` — files behind paths
-/

namespace EnumBindings

/-! ### Where paths lead -/

/-- A path that can be followed at all. -/
structure Path.Admissible (path : Path) : Prop where
  nonempty : path ≠ []
  nulless : '\x00' ∉ path
  short : (Text.encode path).size ≤ Tree.maxPathBytes

instance (path : Path) : Decidable path.Admissible :=
  decidable_of_iff (path ≠ [] ∧ '\x00' ∉ path ∧ (Text.encode path).size ≤ Tree.maxPathBytes)
    ⟨fun ⟨nonempty, nulless, short⟩ => ⟨nonempty, nulless, short⟩,
      fun admissible => ⟨admissible.nonempty, admissible.nulless, admissible.short⟩⟩

/-- A name can be followed behind a path. -/
structure Path.Allows (base : Path) (name : Text) : Prop where
  admissible : (base.join name).Admissible
  fits : Fits name

instance (base : Path) (name : Text) : Decidable (base.Allows name) :=
  decidable_of_iff ((base.join name).Admissible ∧ Fits name)
    ⟨fun ⟨admissible, fits⟩ => ⟨admissible, fits⟩, fun allows => ⟨allows.admissible, allows.fits⟩⟩

namespace Workspace

variable {space other : Workspace} {purpose : Tree.Purpose} {path base : Path} {name text : Text}
  {location directory : Location} {item : Item}

/-- There are no links, all files have names, and the working directory is there. -/
structure Plain (space : Workspace) : Prop where
  linkless : space.tree.Linkless
  named : ∀ {name above content}, space.tree.item? (name :: above) = some (.file content) →
    IsName name
  inside : space.tree.item? space.here = some .directory

/-- An item at a location is no link, and has a name if it is a file. -/
def plainAt : Location × Item → Bool
  | (_, .link _) => false
  | (name :: _, .file _) => IsName name
  | _ => true

/-- The items of a tree tell whether a workspace is plain. -/
theorem plain_iff : space.Plain ↔ (∀ entry ∈ space.tree.items.toList, plainAt entry = true) ∧
    space.tree.item? space.here = some .directory := by
  have mem_items {name : Text} {above : Location} {item : Item} :
      (name :: above, item) ∈ space.tree.items.toList ↔
        space.tree.item? (name :: above) = some item := by
    rw [Std.ExtTreeMap.mem_toList_iff_getElem?_eq_some]
    simp [Tree.item?]
  constructor
  · intro plain
    refine ⟨?_, plain.inside⟩
    rintro ⟨location, item⟩ among
    -- The root is a directory that the tree does not list.
    cases location with
    | nil =>
      have found := Std.ExtTreeMap.mem_toList_iff_getElem?_eq_some.mp among
      exact (space.tree.held [] (Std.ExtTreeMap.mem_iff_isSome_getElem?.mpr (by simp [found]))).elim
    | cons name above =>
      have found := mem_items.mp among
      cases item with
      | directory => rfl
      | file content => simpa [plainAt] using plain.named found
      | link target => exact (plain.linkless _ _ found).elim
  · rintro ⟨each, inside⟩
    refine ⟨fun location target found => ?_, fun {name above content} found => ?_, inside⟩
    · cases location with
      | nil => simp [Tree.item?] at found
      | cons name above => simpa [plainAt] using each _ (mem_items.mpr found)
    · simpa [plainAt] using each _ (mem_items.mpr found)

instance (space : Workspace) : Decidable space.Plain :=
  decidable_of_iff _ plain_iff.symm

/-- The directory from which a path is followed. -/
def start (space : Workspace) (path : Path) : Location :=
  if path.isAbsolute then [] else space.here

/-- The directory to which a path leads, with no links on the way. The empty path leads to the
working directory. -/
def reach? (space : Workspace) (path : Path) : Option Location :=
  space.tree.walk (space.start path) path.steps

theorem start_join (isName : IsName name) : space.start (base.join name) = space.start base := by
  rw [start, start, Path.isAbsolute_join isName]

theorem Plain.item?_start (plain : space.Plain) (path : Path) :
    space.tree.item? (space.start path) = some .directory := by
  rw [start]
  split
  · rfl
  · exact plain.inside

theorem Plain.item?_of_reach? (plain : space.Plain) (led : space.reach? path = some location) :
    space.tree.item? location = some .directory :=
  Tree.item?_of_walk (plain.item?_start path) led

/-- A path leads to the same directory where there are at least the same directories. -/
theorem reach?_mono (led : space.reach? path = some location) (here : other.here = space.here)
    (directories : space.tree.DirectoriesIn other.tree) :
    other.reach? path = some location := by
  rw [reach?, start, here]
  exact Tree.walk_mono directories led

/-- A path and a name lead to the directory of that name in the one to which the path leads. -/
theorem reach?_join_eq_some_iff (isName : IsName name) :
    space.reach? (base.join name) = some location ↔
      ∃ directory, space.reach? base = some directory ∧ Fits name ∧
        space.tree.item? (name :: directory) = some .directory ∧ location = name :: directory := by
  rw [reach?, start_join isName, Path.steps_join isName, Tree.walk_append, ← reach?]
  cases space.reach? base with
  | none => simp
  | some directory =>
    rw [Option.bind_some, Tree.walk_enter isName.toEnters]
    split
    next down => simp [Tree.walk, down, eq_comm]
    next blocked => simpa using fun fits there => absurd ⟨fits, there⟩ blocked

theorem locate_eq_ok_iff :
    space.tree.locate purpose space.here path = .ok location ↔ path.Admissible ∧
      space.tree.follow purpose Tree.maxLinks (space.start path) path.names = .ok location := by
  rw [Tree.locate, start]
  constructor
  · intro led
    split at led
    · cases led
    next nulless =>
      split at led
      · cases led
      next nonempty =>
        split at led
        · cases led
        next short => exact ⟨⟨nonempty, by simpa using nulless, Nat.not_lt.mp short⟩, led⟩
  · rintro ⟨⟨nonempty, nulless, short⟩, led⟩
    rw [if_neg (by simpa using nulless), if_neg nonempty, if_neg (Nat.not_lt.mpr short)]
    exact led

/-- A look at what is at the place of a path succeeds exactly if the path can be followed and the
look succeeds there. -/
private theorem bind_locate_eq_ok_iff {α : Type} {answer : α}
    {look : Location → Except FileFault α} :
    (space.tree.locate purpose space.here path >>= look) = .ok answer ↔
      ∃ location, space.tree.locate purpose space.here path = .ok location ∧
        look location = .ok answer := by
  cases space.tree.locate purpose space.here path <;> simp [bind, Except.bind]

theorem item_eq_ok_iff : space.item path = .ok item ↔
    ∃ location, space.tree.locate .use space.here path = .ok location ∧
      space.tree.item? location = some item := by
  rw [Workspace.item, bind_locate_eq_ok_iff]
  refine exists_congr fun location => and_congr_right fun _ => ?_
  cases space.tree.item? location <;> simp

theorem directory_eq_ok_iff_locate : space.directory path = .ok location ↔
    space.tree.locate .use space.here path = .ok location ∧
      space.tree.item? location = some .directory := by
  rw [Workspace.directory, bind_locate_eq_ok_iff]
  constructor
  · rintro ⟨other, led, there⟩
    split at there <;> simp_all
  · rintro ⟨led, held⟩
    exact ⟨location, led, by rw [held]⟩

theorem isDirectory_eq_true_iff : space.isDirectory path = true ↔
    ∃ location, space.directory path = .ok location := by
  have there : space.isDirectory path = true ↔ space.item path = .ok .directory := by
    rw [isDirectory]
    split <;> simp_all
  simp only [there, item_eq_ok_iff, directory_eq_ok_iff_locate]

/-- A slash at the end of a path makes no difference to where it leads. -/
theorem reach?_eq_walk_names :
    space.reach? path = space.tree.walk (space.start path) path.names := by
  rw [reach?, Path.names, Tree.walk_append, ← Path.steps]
  cases space.tree.walk (space.start path) (Path.steps path) with
  | none => rfl
  | some directory =>
    rw [Option.bind_some]
    split <;> simp [Tree.walk]

/-- A path is that of a directory exactly if it can be followed and leads to it. -/
theorem directory_eq_ok_iff (plain : space.Plain) : space.directory path = .ok location ↔
    path.Admissible ∧ space.reach? path = some location := by
  rw [directory_eq_ok_iff_locate, locate_eq_ok_iff, and_assoc, reach?_eq_walk_names,
    Tree.follow_use_eq_ok_iff_walk plain.linkless (plain.item?_start path)]

/-- Files can be listed only behind a path that can be followed. -/
theorem admissible_of_files {names : List Text} (listed : space.files path = .ok names) :
    path.Admissible := by
  rw [files, bind_locate_eq_ok_iff] at listed
  obtain ⟨location, led, -⟩ := listed
  exact (locate_eq_ok_iff.mp led).1

/-- A path is that of the same directory where there are at least the same directories. -/
theorem directory_mono (found : space.directory path = .ok location) (plain : space.Plain)
    (plain' : other.Plain) (here : other.here = space.here)
    (directories : space.tree.DirectoriesIn other.tree) : other.directory path = .ok location := by
  obtain ⟨admissible, led⟩ := (directory_eq_ok_iff plain).mp found
  exact (directory_eq_ok_iff plain').mpr ⟨admissible, reach?_mono led here directories⟩

/-- The place of a name behind a path is that of the name in the directory to which the path
leads. -/
theorem exists_locate_join_iff (plain : space.Plain) (isName : IsName name)
    {There : Location → Prop} :
    (∃ location, space.tree.locate purpose space.here (base.join name) = .ok location ∧
        There location) ↔
      base.Allows name ∧ ∃ directory, space.reach? base = some directory ∧
        There (name :: directory) := by
  have led : space.tree.walk (space.start base) (Path.steps base) = space.reach? base := rfl
  simp only [locate_eq_ok_iff, start_join isName, Path.names_join isName,
    Tree.follow_concat_eq_ok_iff plain.linkless isName.toEnters, led]
  constructor
  · rintro ⟨_, ⟨admissible, directory, led, fits, rfl⟩, there⟩
    exact ⟨⟨admissible, fits⟩, directory, led, there⟩
  · rintro ⟨⟨admissible, fits⟩, directory, led, there⟩
    exact ⟨_, ⟨admissible, directory, led, fits, rfl⟩, there⟩

/-! ### Files behind paths -/

theorem item_join_eq_ok_iff (plain : space.Plain) (isName : IsName name) :
    space.item (base.join name) = .ok item ↔ base.Allows name ∧
      ∃ directory, space.reach? base = some directory ∧
        space.tree.item? (name :: directory) = some item := by
  rw [item_eq_ok_iff, exists_locate_join_iff plain isName]

theorem isFile_eq_true_iff :
    space.isFile path = true ↔ ∃ content, space.item path = .ok (.file content) := by
  rw [isFile]
  split <;> simp_all

/-- A name that is not in the directory to which a path leads is that of no file behind the path. -/
theorem isFile_join_eq_false (plain : space.Plain) (isName : IsName name)
    (led : space.reach? base = some directory)
    (free : space.tree.item? (name :: directory) = none) :
    space.isFile (base.join name) = false := by
  rw [← Bool.not_eq_true, isFile_eq_true_iff]
  rintro ⟨content, found⟩
  obtain ⟨-, _, ledTo, there⟩ := (item_join_eq_ok_iff plain isName).mp found
  obtain rfl := Option.some.inj (led.symm.trans ledTo)
  cases free.symm.trans there

theorem read_eq_ok_iff : space.read path = .ok text ↔
    ∃ content, space.item path = .ok (.file content) ∧ Text.decode? content = some text := by
  rw [read]
  cases space.item path with
  | error fault => simp [bind, Except.bind]
  | ok item =>
    cases item with
    | directory => simp [bind, Except.bind]
    | link target => simp [bind, Except.bind]
    | file content =>
      simp only [bind, Except.bind, Except.ok.injEq, Item.file.injEq, exists_eq_left']
      cases Text.decode? content <;> simp

/-- Following names does not look into files. -/
theorem follow_ne_notText {tree : Tree} {links : Nat} {here : Location} {names : List Text} :
    tree.follow purpose links here names ≠ .error .notText := by
  fun_induction Tree.follow tree purpose links here names <;> simp_all

theorem item_ne_notText : space.item path ≠ .error .notText := by
  have located : space.tree.locate .use space.here path ≠ .error .notText := by
    rw [Tree.locate]
    split
    · simp
    · split
      · simp
      · split
        · simp
        · exact follow_ne_notText
  rw [Workspace.item]
  cases led : space.tree.locate .use space.here path with
  | error fault =>
    rw [led] at located
    simpa [bind, Except.bind] using located
  | ok location =>
    simp only [bind, Except.bind]
    split <;> simp

/-- What is wrong with a file that is read is that it has no text, exactly if its content is
none. -/
theorem read_eq_notText_iff : space.read path = .error .notText ↔
    ∃ content, space.item path = .ok (.file content) ∧ Text.decode? content = none := by
  have other : space.item path ≠ .error .notText := item_ne_notText
  rw [read]
  cases held : space.item path with
  | error fault =>
    rw [held] at other
    simpa [bind, Except.bind] using other
  | ok item =>
    cases item with
    | directory => simp [bind, Except.bind]
    | link target => simp [bind, Except.bind]
    | file content =>
      simp only [bind, Except.bind, Except.ok.injEq, Item.file.injEq, exists_eq_left']
      cases Text.decode? content <;> simp

theorem read_join_eq_ok_iff (plain : space.Plain) (isName : IsName name) :
    space.read (base.join name) = .ok text ↔ base.Allows name ∧
      ∃ directory content, space.reach? base = some directory ∧
        space.tree.item? (name :: directory) = some (.file content) ∧
        Text.decode? content = some text := by
  simp only [read_eq_ok_iff, item_join_eq_ok_iff plain isName]
  constructor
  · rintro ⟨content, ⟨allows, directory, led, found⟩, decoded⟩
    exact ⟨allows, directory, content, led, found, decoded⟩
  · rintro ⟨allows, directory, content, led, found, decoded⟩
    exact ⟨content, ⟨allows, directory, led, found⟩, decoded⟩

theorem read_join_eq_notText_iff (plain : space.Plain) (isName : IsName name) :
    space.read (base.join name) = .error .notText ↔ base.Allows name ∧
      ∃ directory content, space.reach? base = some directory ∧
        space.tree.item? (name :: directory) = some (.file content) ∧
        Text.decode? content = none := by
  simp only [read_eq_notText_iff, item_join_eq_ok_iff plain isName]
  constructor
  · rintro ⟨content, ⟨allows, directory, led, found⟩, textless⟩
    exact ⟨allows, directory, content, led, found, textless⟩
  · rintro ⟨allows, directory, content, led, found, textless⟩
    exact ⟨content, ⟨allows, directory, led, found⟩, textless⟩

/-- A file behind a path is written in the directory to which the path leads, unless a directory is
in its place. -/
theorem write_join_eq_ok_iff (plain : space.Plain) (isName : IsName name) :
    space.write (base.join name) text = .ok other ↔ base.Allows name ∧
      ∃ directory, space.reach? base = some directory ∧
        space.tree.item? (name :: directory) ≠ some .directory ∧
        other = space.put (name :: directory) (.file text.encode) := by
  rw [write, bind_locate_eq_ok_iff, exists_locate_join_iff plain isName]
  refine and_congr_right fun _ => exists_congr fun directory => and_congr_right fun _ => ?_
  split <;> simp_all [eq_comm]

/-- An item behind a path is removed from the directory to which the path leads, unless it is a
directory itself. -/
theorem remove_join_eq_ok_iff (plain : space.Plain) (isName : IsName name) :
    space.remove (base.join name) = .ok other ↔ base.Allows name ∧
      ∃ directory, space.reach? base = some directory ∧
        (∃ item, space.tree.item? (name :: directory) = some item ∧ item ≠ .directory) ∧
        other = { space with tree := space.tree.drop (name :: directory) } := by
  rw [remove, bind_locate_eq_ok_iff, exists_locate_join_iff plain isName]
  refine and_congr_right fun _ => exists_congr fun directory => and_congr_right fun _ => ?_
  cases space.tree.item? (name :: directory) with
  | none => simp
  | some item => cases item <;> simp [eq_comm]

end Workspace

end EnumBindings
