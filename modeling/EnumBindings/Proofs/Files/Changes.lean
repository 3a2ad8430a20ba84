import EnumBindings.Proofs.Files.Reaching

/-!
# What changes of a workspace leave

Making directories adds nothing but directories, whether it succeeds or not. Writing and removing a
file changes nothing else. None of this makes a path lead to another directory, so what was found
behind a path before can be found there afterwards.

## Main definitions

* `Tree.Grows`, `Workspace.Grows` — nothing but directories has been added
* `Workspace.Spares` — all directories and some of the files are left alone

## Main results

* `Workspace.grows_makeDirectories` — making directories adds nothing but directories
* `Workspace.isDirectory_of_makeDirectories` — directories that can be made are there
* `Workspace.makeDirectories_of_isDirectory` — directories that are there are not made again
* `Workspace.Plain.put`, `Workspace.Plain.less` — changes of files make no links
-/

namespace EnumBindings

namespace Tree

variable {tree other last : Tree} {location : Location} {name : Text} {above : Location}
  {content : ByteArray}

/-- Everything is kept, and nothing but directories is added. -/
structure Grows (tree other : Tree) : Prop where
  kept : ∀ {location item}, tree.item? location = some item → other.item? location = some item
  added : ∀ {location item}, other.item? location = some item →
    tree.item? location = some item ∨ item = .directory

namespace Grows

theorem refl (tree : Tree) : tree.Grows tree := ⟨id, .inl⟩

theorem trans (first : tree.Grows other) (second : other.Grows last) : tree.Grows last where
  kept found := second.kept (first.kept found)
  added found := (second.added found).elim first.added .inr

theorem directoriesIn (grows : tree.Grows other) : tree.DirectoriesIn other := fun _ => grows.kept

/-- The files are the same. -/
theorem item?_eq_file_iff (grows : tree.Grows other) :
    other.item? location = some (.file content) ↔ tree.item? location = some (.file content) :=
  ⟨fun found => (grows.added found).resolve_right (by simp), grows.kept⟩

theorem linkless (grows : tree.Grows other) (linkless : tree.Linkless) : other.Linkless :=
  fun location target found => linkless location target ((grows.added found).resolve_right (by simp))

end Grows

theorem grows_put_directory (free : tree.item? location = none) :
    tree.Grows (tree.put location .directory) := by
  cases location with
  | nil => exact .refl tree
  | cons name above =>
    by_cases inside : tree.item? above = some .directory
    · have free' : tree.item? (name :: above) ≠ some .directory := by simp [free]
      have found := item?_put inside free' .directory
      constructor
      · intro location item there
        rw [found, if_neg (by rintro rfl; simp [free] at there)]
        exact there
      · intro location item there
        rw [found] at there
        split at there
        · exact .inr (Option.some.inj there).symm
        · exact .inl there
    · have same : tree.put (name :: above) .directory = tree := by
        rw [put, dif_neg (fun both => inside both.1)]
      rw [same]
      exact .refl tree

/-- A file that is put into a directory takes the place of none. -/
theorem directoriesIn_put (inside : tree.item? above = some .directory)
    (free : tree.item? (name :: above) ≠ some .directory) (item : Item) :
    tree.DirectoriesIn (tree.put (name :: above) item) := by
  intro location there
  rw [item?_put inside free, if_neg (by rintro rfl; exact free there)]
  exact there

theorem directoriesIn_drop (free : tree.item? location ≠ some .directory) :
    tree.DirectoriesIn (tree.drop location) := by
  intro other there
  rw [item?_drop free, if_neg (by rintro rfl; exact free there)]
  exact there

end Tree

namespace Workspace

variable {space other last : Workspace} {path : Path} {location : Location} {name : Text}
  {above : Location} {content : ByteArray}

/-- Everything is kept, and nothing but directories is added. -/
structure Grows (space other : Workspace) : Prop where
  tree : space.tree.Grows other.tree
  here : other.here = space.here

theorem Grows.refl (space : Workspace) : space.Grows space := ⟨.refl _, rfl⟩

theorem Grows.trans (first : space.Grows other) (second : other.Grows last) : space.Grows last :=
  ⟨first.tree.trans second.tree, second.here.trans first.here⟩

theorem Plain.grows (plain : space.Plain) (grows : space.Grows other) : other.Plain where
  linkless := grows.tree.linkless plain.linkless
  named found := plain.named (grows.tree.item?_eq_file_iff.mp found)
  inside := by
    rw [grows.here]
    exact grows.tree.kept plain.inside

/-- A path leads to the same directory after directories are added. -/
theorem Grows.reach? (grows : space.Grows other) (led : space.reach? path = some location) :
    other.reach? path = some location :=
  reach?_mono led grows.here grows.tree.directoriesIn

/-! ### Making directories -/

theorem makeDirectory_eq_ok_iff : space.makeDirectory path = .ok other ↔
    ∃ location, space.tree.locate .replace space.here path = .ok location ∧
      space.tree.item? location = none ∧ other = space.put location .directory := by
  rw [makeDirectory]
  cases space.tree.locate .replace space.here path with
  | error fault => simp [bind, Except.bind]
  | ok location =>
    simp only [bind, Except.bind, Except.ok.injEq, exists_eq_left']
    cases space.tree.item? location <;> simp [eq_comm]

theorem grows_makeDirectory (made : space.makeDirectory path = .ok other) : space.Grows other := by
  obtain ⟨location, -, free, rfl⟩ := makeDirectory_eq_ok_iff.mp made
  exact ⟨Tree.grows_put_directory free, rfl⟩

theorem isDirectory_of_makeDirectory (plain : space.Plain)
    (made : space.makeDirectory path = .ok other) : other.isDirectory path = true := by
  have grows := grows_makeDirectory made
  obtain ⟨location, led, free, rfl⟩ := makeDirectory_eq_ok_iff.mp made
  obtain ⟨admissible, led⟩ := locate_eq_ok_iff.mp led
  obtain ⟨name, above, rfl, inside, leads⟩ :=
    Tree.exists_of_follow_replace plain.linkless (plain.item?_start path) led free
  have there : (space.put (name :: above) .directory).tree.item? (name :: above) =
      some .directory := by
    rw [put, Tree.item?_put inside (by simp [free]), if_pos rfl]
  refine isDirectory_eq_true_iff.mpr
    ⟨name :: above, (directory_eq_ok_iff (plain.grows grows)).mpr ?_⟩
  rw [reach?_eq_walk_names]
  exact ⟨admissible, leads _ grows.tree.directoriesIn there⟩

theorem makeDirectory_of_isDirectory (plain : space.Plain) (there : space.isDirectory path = true) :
    space.makeDirectory path = .error .exists := by
  obtain ⟨location, found⟩ := isDirectory_eq_true_iff.mp there
  obtain ⟨admissible, led⟩ := (directory_eq_ok_iff plain).mp found
  have held := plain.item?_of_reach? led
  rw [reach?_eq_walk_names] at led
  have located : space.tree.locate .replace space.here path = .ok location :=
    locate_eq_ok_iff.mpr ⟨admissible, Tree.follow_of_walk plain.linkless (by simp) led⟩
  simp [makeDirectory, located, held, bind, Except.bind]

section

variable {above : Workspace → Workspace × Except FileFault Unit}

/-- A directory is ensured where nothing is done yet, or where what leads to it is made: it is made
there, or it is there in spite of the failure to make it, or there is no way. -/
theorem ensureDirectory_cases (space : Workspace) (path : Path)
    (above : Workspace → Workspace × Except FileFault Unit) :
    ∃ prepared ∈ [space, (above space).1],
      (∃ made, prepared.makeDirectory path = .ok made ∧
        space.ensureDirectory path above = (made, .ok ())) ∨
      (prepared.isDirectory path = true ∧
        space.ensureDirectory path above = (prepared, .ok ())) ∨
      ∃ fault, space.ensureDirectory path above = (prepared, .error fault) := by
  have settle (prepared : Workspace) (fault : FileFault) :
      (prepared.isDirectory path = true ∧
        (prepared, if prepared.isDirectory path then .ok () else .error fault) =
          (prepared, Except.ok ())) ∨
      ∃ other, (prepared, if prepared.isDirectory path then .ok () else .error fault) =
        (prepared, Except.error other) := by
    by_cases there : prepared.isDirectory path = true <;> simp [there]
  -- It is made at once, or after what leads to it, or making it fails for another reason.
  rw [ensureDirectory]
  split
  next made done => exact ⟨space, by simp, .inl ⟨made, done, rfl⟩⟩
  next missing =>
    rcases above space with ⟨prepared, fault | _⟩
    · exact ⟨prepared, by simp, .inr (.inr ⟨fault, rfl⟩)⟩
    · refine ⟨prepared, by simp, ?_⟩
      dsimp only
      split
      next made done => exact .inl ⟨made, done, rfl⟩
      next fault failed => exact .inr (settle prepared fault)
  next fault _ failed => exact ⟨space, by simp, .inr (settle space fault)⟩

theorem grows_ensureDirectory (each : ∀ space : Workspace, space.Grows (above space).1)
    (space : Workspace) (path : Path) : space.Grows (space.ensureDirectory path above).1 := by
  obtain ⟨prepared, which, result⟩ := ensureDirectory_cases space path above
  have grows : space.Grows prepared := by
    rcases List.mem_pair.mp which with rfl | rfl
    · exact .refl _
    · exact each space
  rcases result with ⟨made, done, ended⟩ | ⟨-, ended⟩ | ⟨fault, ended⟩
  · rw [ended]
    exact grows.trans (grows_makeDirectory done)
  · rw [ended]
    exact grows
  · rw [ended]
    exact grows

theorem isDirectory_of_ensureDirectory (each : ∀ space : Workspace, space.Grows (above space).1)
    (plain : space.Plain) (done : space.ensureDirectory path above = (other, .ok ())) :
    other.isDirectory path = true := by
  obtain ⟨prepared, which, result⟩ := ensureDirectory_cases space path above
  have grows : space.Grows prepared := by
    rcases List.mem_pair.mp which with rfl | rfl
    · exact .refl _
    · exact each space
  rw [done] at result
  rcases result with ⟨made, done, ended⟩ | ⟨there, ended⟩ | ⟨fault, ended⟩
  · cases ended
    exact isDirectory_of_makeDirectory (plain.grows grows) done
  · cases ended
    exact there
  · cases ended

end

theorem grows_makeAncestry (absolute : Bool) (names : List Text) (space : Workspace) :
    space.Grows (makeAncestry absolute names space).1 := by
  induction names generalizing space with
  | nil => exact .refl space
  | cons name names ih => exact grows_ensureDirectory ih space _

/-- Making directories adds nothing but directories, whether it succeeds or not. -/
theorem grows_makeDirectories (space : Workspace) (path : Path) :
    space.Grows (space.makeDirectories path).1 := by
  rw [makeDirectories]
  split
  · exact .refl space
  · exact grows_ensureDirectory (grows_makeAncestry _ _) space path

theorem grows_of_makeDirectories {result : Except FileFault Unit}
    (made : space.makeDirectories path = (other, result)) : space.Grows other := by
  have grows := grows_makeDirectories space path
  rwa [made] at grows

/-- A directory that can be made with all that lead to it is there afterwards. -/
theorem isDirectory_of_makeDirectories (plain : space.Plain) (nonempty : path ≠ [])
    (done : space.makeDirectories path = (other, .ok ())) : other.isDirectory path = true := by
  rw [makeDirectories, if_neg nonempty] at done
  exact isDirectory_of_ensureDirectory (grows_makeAncestry _ _) plain done

/-- A path leads somewhere once its directory is made, also the empty one. -/
theorem exists_reach?_of_makeDirectories (plain : space.Plain)
    (done : space.makeDirectories path = (other, .ok ())) :
    ∃ location, other.reach? path = some location := by
  by_cases nonempty : path = []
  · subst nonempty
    exact ⟨_, by rw [reach?, Path.steps_nil, Tree.walk]⟩
  · obtain ⟨location, found⟩ := isDirectory_eq_true_iff.mp
      (isDirectory_of_makeDirectories plain nonempty done)
    exact ⟨location, ((directory_eq_ok_iff (plain.grows (grows_of_makeDirectories done))).mp found).2⟩

/-- A directory that is there is not made again. -/
theorem makeDirectories_of_isDirectory (plain : space.Plain)
    (there : space.isDirectory path = true) : space.makeDirectories path = (space, .ok ()) := by
  rw [makeDirectories]
  split
  · rfl
  · rw [ensureDirectory, makeDirectory_of_isDirectory plain there]
    simp [there]

/-! ### Writing and removing files -/

/-- Writing a file leaves all directories. -/
theorem directoriesIn_of_write {text : Text} (written : space.write path text = .ok other) :
    other.here = space.here ∧ space.tree.DirectoriesIn other.tree := by
  rw [write] at written
  cases located : space.tree.locate .write space.here path with
  | error fault =>
    rw [located] at written
    cases written
  | ok location =>
    simp only [located, bind, Except.bind] at written
    split at written
    · cases written
    · cases written
      refine ⟨rfl, fun place there => ?_⟩
      cases location with
      | nil => exact there
      | cons name above =>
        rw [put, Tree.put]
        split
        next free =>
          have kept := Tree.directoriesIn_put free.1 free.2 (.file text.encode) place there
          rwa [Tree.put, dif_pos free] at kept
        next => exact there

theorem Plain.put (plain : space.Plain) (isName : IsName name)
    (inside : space.tree.item? location = some .directory)
    (free : space.tree.item? (name :: location) ≠ some .directory) :
    (space.put (name :: location) (.file content)).Plain where
  linkless other target found := by
    rw [Workspace.put, Tree.item?_put inside free] at found
    split at found
    · cases found
    · exact plain.linkless other target found
  named found := by
    rw [Workspace.put, Tree.item?_put inside free] at found
    split at found
    next same =>
      cases same
      exact isName
    next => exact plain.named found
  inside := Tree.directoriesIn_put inside free _ _ plain.inside

/-- Less of a plain workspace is plain, as long as no directory is missing. -/
theorem Plain.less {tree : Tree} (plain : space.Plain)
    (kept : ∀ {location item}, tree.item? location = some item →
      space.tree.item? location = some item)
    (directories : space.tree.DirectoriesIn tree) : Plain { space with tree } where
  linkless location target found := plain.linkless location target (kept found)
  named found := plain.named (kept found)
  inside := directories _ plain.inside

theorem Plain.drop (plain : space.Plain) (free : space.tree.item? location ≠ some .directory) :
    Plain { space with tree := space.tree.drop location } := by
  refine plain.less (fun {other item} found => ?_) (Tree.directoriesIn_drop free)
  rw [Tree.item?_drop free] at found
  split at found
  · cases found
  · exact found

/-- A path leads to the same directory after a file is written. -/
theorem reach?_put {item : Item} (inside : space.tree.item? above = some .directory)
    (free : space.tree.item? (name :: above) ≠ some .directory)
    (led : space.reach? path = some location) :
    (space.put (name :: above) item).reach? path = some location :=
  reach?_mono led rfl (Tree.directoriesIn_put inside free item)

/-- A path leads to the same directory after a file is removed. -/
theorem reach?_drop {dropped : Location} (free : space.tree.item? dropped ≠ some .directory)
    (led : space.reach? path = some location) :
    reach? { space with tree := space.tree.drop dropped } path = some location :=
  reach?_mono led rfl (Tree.directoriesIn_drop free)

/-! ### What is left alone -/

/-- All directories are left, and so are the files at some locations. -/
structure Spares (spared : Location → Prop) (space other : Workspace) : Prop where
  here : other.here = space.here
  directories : space.tree.DirectoriesIn other.tree
  files : ∀ {location content}, spared location →
    (other.tree.item? location = some (.file content) ↔
      space.tree.item? location = some (.file content))

variable {spared : Location → Prop}

theorem Spares.trans (first : Spares spared space other) (second : Spares spared other last) :
    Spares spared space last where
  here := second.here.trans first.here
  directories := first.directories.trans second.directories
  files there := (second.files there).trans (first.files there)

theorem Spares.mono {fewer : Location → Prop} (spares : Spares spared space other)
    (within : ∀ location, fewer location → spared location) : Spares fewer space other :=
  ⟨spares.here, spares.directories, fun there => spares.files (within _ there)⟩

theorem Grows.spares (grows : space.Grows other) (spared : Location → Prop) :
    Spares spared space other :=
  ⟨grows.here, grows.tree.directoriesIn, fun _ => grows.tree.item?_eq_file_iff⟩

theorem spares_put {item : Item} (inside : space.tree.item? above = some .directory)
    (free : space.tree.item? (name :: above) ≠ some .directory)
    (unspared : ¬ spared (name :: above)) :
    Spares spared space (space.put (name :: above) item) := by
  refine ⟨rfl, Tree.directoriesIn_put inside free item, fun {location content} there => ?_⟩
  rw [put, Tree.item?_put inside free, if_neg (by rintro rfl; exact unspared there)]

/-- A path leads to the same directory where all directories are left. -/
theorem Spares.reach? (spares : Spares spared space other)
    (led : space.reach? path = some location) : other.reach? path = some location :=
  reach?_mono led spares.here spares.directories

end Workspace

end EnumBindings
