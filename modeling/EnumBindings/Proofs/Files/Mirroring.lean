import EnumBindings.Proofs.Files.Changes
import EnumBindings.Text.Replacement

/-!
# Clearing a directory and copying into it

A directory is cleared by dropping its files but those to keep, and copies are made by putting a
rewritten file for each file of a directory into another one. Both are changes of a tree, and leave
everything outside the one directory as it was.

## Main definitions

* `Tree.fileNames`, `Tree.stale` — the names of the files directly in a directory, and of those that
  are not to be kept
* `Tree.without`, `Tree.withItems` — a tree without some items of a directory, and with some
* `Tree.cleared` — a tree with a directory cleared
* `Tree.copyOf`, `Tree.copied` — the copy of a file, and a tree with all copies

## Main results

* `Tree.item?_without`, `Tree.item?_withItems` — what is where afterwards
* `Tree.nodup_fileNames` — a directory has no two files of one name
* `Tree.fileNames_congr` — where the same files are, they are listed in the same order
* `Workspace.Spares.fileNames`, `Workspace.Spares.copyOf` — files that are left alone
* `Workspace.spares_cleared`, `Workspace.spares_copied` — what is left alone
-/

namespace EnumBindings

namespace Tree

variable {tree : Tree} {directory location origin place : Location} {name : Text}
  {names keep : List Text}

/-- The names of the files directly in a directory, in order. -/
def fileNames (tree : Tree) (directory : Location) : List Text :=
  (tree.children directory).filterMap fun (name, item) =>
    match item with
    | .file _ => some name
    | _ => none

theorem mem_fileNames_iff : name ∈ tree.fileNames directory ↔
    ∃ content, tree.item? (name :: directory) = some (.file content) := by
  simp only [fileNames, List.mem_filterMap, Prod.exists, mem_children_iff]
  constructor
  · rintro ⟨other, item, found, same⟩
    cases item with
    | file content =>
      cases same
      exact ⟨content, found⟩
    | directory => cases same
    | link target => cases same
  · rintro ⟨content, found⟩
    exact ⟨name, .file content, found, rfl⟩

theorem mem_fileNames_congr {other : Tree}
    (same : other.item? (name :: directory) = tree.item? (name :: directory)) :
    name ∈ other.fileNames directory ↔ name ∈ tree.fileNames directory := by
  rw [mem_fileNames_iff, mem_fileNames_iff, same]

/-- The files of a directory are in the order of their names. -/
theorem pairwise_fileNames :
    (tree.fileNames directory).Pairwise fun first second => compare first second = .lt := by
  have ordered : (tree.children directory).Pairwise fun first second =>
      compare first.1 second.1 = .lt := by
    refine List.Pairwise.filterMap _ ?_ Std.ExtTreeMap.ordered_keys_toList
    rintro ⟨location, item⟩ ⟨location', item'⟩ less first held first' held'
    cases location with
    | nil => cases held
    | cons name above =>
      cases location' with
      | nil => cases held'
      | cons name' above' =>
        obtain ⟨here, child⟩ := Option.ite_none_right_eq_some.mp held
        obtain ⟨here', child'⟩ := Option.ite_none_right_eq_some.mp held'
        cases child
        cases child'
        -- In one directory, the locations are in the order of the names.
        have alike : compare above above' = .eq :=
          Std.LawfulEqCmp.compare_eq_iff_eq.mpr (here.trans here'.symm)
        rwa [List.compare_cons_cons, alike, Ordering.then_eq] at less
  refine List.Pairwise.filterMap _ ?_ ordered
  rintro ⟨name, item⟩ ⟨name', item'⟩ less first held first' held'
  cases item <;> cases item' <;> simp_all

/-- A directory has no two files of one name. -/
theorem nodup_fileNames : (tree.fileNames directory).Nodup := by
  refine pairwise_fileNames.imp ?_
  rintro name _ less rfl
  exact Ordering.noConfusion (less.symm.trans Std.ReflOrd.compare_self)

/-- The names of files depend on nothing but what is directly in the directory. -/
theorem fileNames_congr {other : Tree} (same : ∀ name, name ∈ other.fileNames directory ↔
    name ∈ tree.fileNames directory) : other.fileNames directory = tree.fileNames directory := by
  refine List.Perm.eq_of_pairwise ?_ pairwise_fileNames pairwise_fileNames
    ((List.perm_ext_iff_of_nodup nodup_fileNames nodup_fileNames).mpr same)
  intro name name' _ _ less greater
  exact absurd greater (Std.OrientedCmp.not_lt_of_lt less)

/-- The tree without the items of some names in a directory. -/
def without (tree : Tree) (directory : Location) (names : List Text) : Tree :=
  names.foldl (fun tree name => tree.drop (name :: directory)) tree

/-- Dropping items that are no directories changes nothing else. -/
theorem item?_without
    (free : ∀ name ∈ names, tree.item? (name :: directory) ≠ some .directory) :
    (tree.without directory names).item? location =
      if location ∈ names.map (· :: directory) then none else tree.item? location := by
  induction names generalizing tree with
  | nil => simp [without]
  | cons name names ih =>
    have dropped := item?_drop (free name (by simp))
    have rest : ∀ other ∈ names,
        (tree.drop (name :: directory)).item? (other :: directory) ≠ some .directory := by
      intro other there
      rw [dropped]
      split
      · simp
      · exact free other (by simp [there])
    rw [without, List.foldl_cons, ← without, ih rest, dropped]
    by_cases later : location ∈ names.map (· :: directory) <;>
      by_cases here : location = name :: directory <;> simp_all

/-- The copy of a file of a directory, with the replacements for proto files made. -/
def copyOf (tree : Tree) (directory : Location) (name : Text) : Item :=
  match tree.item? (name :: directory) with
  | some (.file content) =>
    .file (Text.encode (Replacement.applyAll Replacement.proto ((Text.decode? content).getD [])))
  | _ => .file (Text.encode [])

/-- The tree with the items of some names put into a directory. -/
def withItems (tree : Tree) (directory : Location) (names : List Text) (item : Text → Item) : Tree :=
  names.foldl (fun tree name => tree.put (name :: directory) (item name)) tree

/-- Putting items that are no directories in the place of no directories changes nothing else. -/
theorem item?_withItems {item : Text → Item} (inside : tree.item? directory = some .directory)
    (free : ∀ name ∈ names, tree.item? (name :: directory) ≠ some .directory)
    (flat : ∀ name, item name ≠ .directory) :
    (tree.withItems directory names item).item? location =
      if location ∈ names.map (· :: directory) then location.head?.map item
      else tree.item? location := by
  induction names generalizing tree with
  | nil => simp [withItems]
  | cons name names ih =>
    have placed := item?_put inside (free name (by simp)) (item name)
    have inside' := directoriesIn_put inside (free name (by simp)) (item name) _ inside
    have rest : ∀ other ∈ names,
        (tree.put (name :: directory) (item name)).item? (other :: directory) ≠
          some .directory := by
      intro other there
      rw [placed]
      split
      · simpa using flat name
      · exact free other (by simp [there])
    rw [withItems, List.foldl_cons, ← withItems, ih inside' rest, placed]
    by_cases later : location ∈ names.map (· :: directory) <;>
      by_cases here : location = name :: directory <;> simp_all

/-- What is not directly in a directory is left when items are put into that. -/
theorem item?_withItems_of_outside {item : Text → Item}
    (inside : tree.item? directory = some .directory)
    (free : ∀ name ∈ names, tree.item? (name :: directory) ≠ some .directory)
    (flat : ∀ name, item name ≠ .directory) (outside : ∀ name, location ≠ name :: directory) :
    (tree.withItems directory names item).item? location = tree.item? location := by
  rw [item?_withItems inside free flat, if_neg ?_]
  intro among
  obtain ⟨name, -, rfl⟩ := List.mem_map.mp among
  exact outside name rfl

/-- Putting items in the place of no directories leaves all directories. -/
theorem directoriesIn_withItems {item : Text → Item} (inside : tree.item? directory = some .directory)
    (free : ∀ name ∈ names, tree.item? (name :: directory) ≠ some .directory)
    (flat : ∀ name, item name ≠ .directory) :
    tree.DirectoriesIn (tree.withItems directory names item) := by
  intro location there
  rw [item?_withItems inside free flat, if_neg ?_]
  · exact there
  · intro among
    obtain ⟨name, file, rfl⟩ := List.mem_map.mp among
    exact free name file there

/-- A copy depends on nothing but the file that is copied. -/
theorem copyOf_congr_file {other : Tree} (same : ∀ {content},
    other.item? (name :: directory) = some (.file content) ↔
      tree.item? (name :: directory) = some (.file content)) :
    other.copyOf directory name = tree.copyOf directory name := by
  rw [copyOf, copyOf]
  split
  next content found => rw [same.mp found]
  next missing =>
    split
    next content found => exact absurd (same.mpr found) (missing content)
    next => rfl

theorem copyOf_congr {other : Tree}
    (same : other.item? (name :: directory) = tree.item? (name :: directory)) :
    other.copyOf directory name = tree.copyOf directory name :=
  copyOf_congr_file (by rw [same])

theorem copyOf_of_text {content : ByteArray} {text : Text}
    (found : tree.item? (name :: directory) = some (.file content))
    (decoded : Text.decode? content = some text) :
    tree.copyOf directory name =
      .file (Text.encode (Replacement.applyAll Replacement.proto text)) := by
  simp only [copyOf, found, decoded, Option.getD_some]

theorem exists_copyOf_eq (tree : Tree) (directory : Location) (name : Text) :
    ∃ content, tree.copyOf directory name = .file content := by
  rw [copyOf]
  split <;> exact ⟨_, rfl⟩

theorem copyOf_ne_directory : tree.copyOf directory name ≠ .directory := by
  obtain ⟨content, same⟩ := tree.exists_copyOf_eq directory name
  simp [same]

/-- A file of a directory can be read as text. -/
def HasText (tree : Tree) (directory : Location) (name : Text) : Prop :=
  ∃ content text, tree.item? (name :: directory) = some (.file content) ∧
    Text.decode? content = some text

theorem hasText_congr {other : Tree}
    (same : other.item? (name :: directory) = tree.item? (name :: directory)) :
    other.HasText directory name ↔ tree.HasText directory name := by
  simp only [HasText, same]

/-- The content of a file of a directory is no text. -/
def LacksText (tree : Tree) (directory : Location) (name : Text) : Prop :=
  ∃ content, tree.item? (name :: directory) = some (.file content) ∧ Text.decode? content = none

/-! ### Clearing -/

/-- The names of the files of a directory that are not to be kept. -/
def stale (tree : Tree) (directory : Location) (keep : List Text) : List Text :=
  (tree.fileNames directory).filter (! keep.contains ·)

/-- The tree without the files of a directory but those to keep. -/
def cleared (tree : Tree) (directory : Location) (keep : List Text) : Tree :=
  tree.without directory (tree.stale directory keep)

theorem mem_stale_iff : name ∈ tree.stale directory keep ↔
    (∃ content, tree.item? (name :: directory) = some (.file content)) ∧ name ∉ keep := by
  simp [stale, mem_fileNames_iff]

theorem stale_congr {other : Tree}
    (same : ∀ name, other.item? (name :: directory) = tree.item? (name :: directory)) :
    other.stale directory keep = tree.stale directory keep := by
  rw [stale, stale, fileNames_congr fun name => mem_fileNames_congr (same name)]

theorem item?_ne_directory_of_mem_stale (among : name ∈ tree.stale directory keep) :
    tree.item? (name :: directory) ≠ some .directory := by
  obtain ⟨content, found⟩ := (mem_stale_iff.mp among).1
  simp [found]

theorem item?_cleared : (tree.cleared directory keep).item? location =
    if location ∈ (tree.stale directory keep).map (· :: directory) then none
    else tree.item? location :=
  item?_without fun _ among => item?_ne_directory_of_mem_stale among

/-- Whatever is there after clearing was there before. -/
theorem item?_of_cleared {item : Item}
    (found : (tree.cleared directory keep).item? location = some item) :
    tree.item? location = some item := by
  rw [item?_cleared] at found
  split at found
  · cases found
  · exact found

/-- The files that are left directly in a directory are those to keep. -/
theorem item?_cleared_eq_file_iff {content : ByteArray} :
    (tree.cleared directory keep).item? (name :: directory) = some (.file content) ↔
      tree.item? (name :: directory) = some (.file content) ∧ name ∈ keep := by
  have among : name :: directory ∈ (tree.stale directory keep).map (· :: directory) ↔
      name ∈ tree.stale directory keep := by
    simp
  rw [item?_cleared]
  constructor
  · intro left
    split at left
    next => cases left
    next stays =>
      refine ⟨left, ?_⟩
      by_contra unkept
      exact stays (among.mpr (mem_stale_iff.mpr ⟨⟨content, left⟩, unkept⟩))
  · rintro ⟨old, kept⟩
    rw [if_neg fun stale => (mem_stale_iff.mp (among.mp stale)).2 kept]
    exact old

/-- What is not directly in a directory is left when that is cleared. -/
theorem item?_cleared_of_outside (outside : ∀ name, location ≠ name :: directory) :
    (tree.cleared directory keep).item? location = tree.item? location := by
  rw [item?_cleared, if_neg ?_]
  intro among
  obtain ⟨name, -, rfl⟩ := List.mem_map.mp among
  exact outside name rfl

/-- Clearing leaves all directories. -/
theorem directoriesIn_cleared (tree : Tree) (directory : Location) (keep : List Text) :
    tree.DirectoriesIn (tree.cleared directory keep) := by
  intro location there
  rw [item?_cleared, if_neg ?_]
  · exact there
  · intro among
    obtain ⟨name, stale, rfl⟩ := List.mem_map.mp among
    exact item?_ne_directory_of_mem_stale stale there

/-- After clearing, nothing but files to keep is there, also when directories are added. -/
theorem stale_of_cleared {other : Tree} (grows : (tree.cleared directory keep).Grows other) :
    other.stale directory keep = [] := by
  refine List.eq_nil_iff_forall_not_mem.mpr fun name stale => ?_
  obtain ⟨⟨content, found⟩, unkept⟩ := mem_stale_iff.mp stale
  have left := grows.item?_eq_file_iff.mp found
  rw [item?_cleared] at left
  split at left
  next => cases left
  next stays =>
    exact stays (List.mem_map_of_mem (mem_stale_iff.mpr ⟨⟨content, left⟩, unkept⟩))

/-- Where there is no directory, there is nothing to clear. -/
theorem cleared_of_ne_directory (missing : tree.item? directory ≠ some .directory) :
    tree.cleared directory keep = tree := by
  refine ext_item? fun location => ?_
  rw [item?_cleared, if_neg ?_]
  intro among
  obtain ⟨name, stale, rfl⟩ := List.mem_map.mp among
  obtain ⟨content, found⟩ := (mem_stale_iff.mp stale).1
  exact missing (item?_above found)

/-! ### Copying -/

/-- The tree with the copies of all files of a directory in another one. -/
def copied (tree : Tree) (origin place : Location) : Tree :=
  tree.withItems place (tree.fileNames origin) (tree.copyOf origin)

/-- The copies of all files of a directory can be put into another one. -/
structure HasRoom (tree : Tree) (origin place : Location) : Prop where
  inside : tree.item? place = some .directory
  free : ∀ name ∈ tree.fileNames origin, tree.item? (name :: place) ≠ some .directory

theorem item?_copied (room : tree.HasRoom origin place) :
    (tree.copied origin place).item? location =
      if location ∈ (tree.fileNames origin).map (· :: place) then
        location.head?.map (tree.copyOf origin)
      else tree.item? location :=
  item?_withItems room.inside room.free fun _ => copyOf_ne_directory

/-- What is not directly in a directory is left when copies are put into that. -/
theorem item?_copied_of_outside (room : tree.HasRoom origin place)
    (outside : ∀ name, location ≠ name :: place) :
    (tree.copied origin place).item? location = tree.item? location :=
  item?_withItems_of_outside room.inside room.free (fun _ => copyOf_ne_directory) outside

theorem item?_copied_of_mem (room : tree.HasRoom origin place)
    (among : name ∈ tree.fileNames origin) :
    (tree.copied origin place).item? (name :: place) = some (tree.copyOf origin name) := by
  rw [item?_copied room, if_pos (List.mem_map_of_mem among)]
  rfl

/-- Copying leaves all directories. -/
theorem directoriesIn_copied (room : tree.HasRoom origin place) :
    tree.DirectoriesIn (tree.copied origin place) :=
  directoriesIn_withItems room.inside room.free fun _ => copyOf_ne_directory

/-- Copying adds no directories. -/
theorem directoriesIn_of_copied (room : tree.HasRoom origin place) :
    (tree.copied origin place).DirectoriesIn tree := by
  intro location there
  rw [item?_copied room] at there
  split at there
  next among =>
    obtain ⟨name, -, rfl⟩ := List.mem_map.mp among
    exact absurd (Option.some.inj there) copyOf_ne_directory
  next => exact there

end Tree

namespace Workspace

variable {space : Workspace} {origin place location : Location} {name : Text}

/-- The names of files are those that an item of a directory can have. -/
theorem Plain.isName (plain : space.Plain) (among : name ∈ space.tree.fileNames location) :
    IsName name := by
  obtain ⟨content, file⟩ := Tree.mem_fileNames_iff.mp among
  exact plain.named file

/-! ### Files that are left alone -/

section

variable {other : Workspace} {spared : Location → Prop}

/-- Files that are left alone are listed as before. -/
theorem Spares.fileNames (spares : Spares spared space other)
    (there : ∀ name, spared (name :: location)) :
    other.tree.fileNames location = space.tree.fileNames location :=
  Tree.fileNames_congr fun name => by simp only [Tree.mem_fileNames_iff, spares.files (there name)]

/-- The copy of a file that is left alone is the same as before. -/
theorem Spares.copyOf (spares : Spares spared space other) (there : spared (name :: location)) :
    other.tree.copyOf location name = space.tree.copyOf location name :=
  Tree.copyOf_congr_file (spares.files there)

theorem Spares.hasText_iff (spares : Spares spared space other)
    (there : spared (name :: location)) :
    other.tree.HasText location name ↔ space.tree.HasText location name := by
  simp only [Tree.HasText, spares.files there]

theorem Spares.lacksText_iff (spares : Spares spared space other)
    (there : spared (name :: location)) :
    other.tree.LacksText location name ↔ space.tree.LacksText location name := by
  simp only [Tree.LacksText, spares.files there]

end

/-! ### Clearing and copying in a workspace -/

theorem Plain.cleared (plain : space.Plain) (directory : Location) (keep : List Text) :
    Plain { space with tree := space.tree.cleared directory keep } :=
  plain.less Tree.item?_of_cleared (Tree.directoriesIn_cleared _ _ _)

/-- Clearing leaves all files but those directly in the directory alone. -/
theorem spares_cleared (space : Workspace) (directory : Location) (keep : List Text) :
    Spares (fun location => ∀ name, location ≠ name :: directory) space
      { space with tree := space.tree.cleared directory keep } :=
  ⟨rfl, Tree.directoriesIn_cleared _ _ _, fun outside => by
    rw [Tree.item?_cleared_of_outside outside]⟩

/-- Files with names that are put into a directory leave a workspace plain. -/
theorem Plain.withItems {names : List Text} {item : Text → Item} (plain : space.Plain)
    (inside : space.tree.item? place = some .directory)
    (free : ∀ name ∈ names, space.tree.item? (name :: place) ≠ some .directory)
    (named : ∀ name ∈ names, IsName name) (files : ∀ name, ∃ content, item name = .file content) :
    Plain { space with tree := space.tree.withItems place names item } := by
  have flat (name : Text) : item name ≠ .directory := by
    obtain ⟨content, same⟩ := files name
    simp [same]
  have placed (location : Location) :
      (space.tree.withItems place names item).item? location =
        if location ∈ names.map (· :: place) then location.head?.map item
        else space.tree.item? location :=
    Tree.item?_withItems inside free flat
  -- An item is one of those put in, which are files with names, or it was there.
  refine ⟨fun location target found => ?_, fun {name above content} found => ?_,
    Tree.directoriesIn_withItems inside free flat _ plain.inside⟩
  · rw [placed] at found
    split at found
    next among =>
      obtain ⟨name, -, rfl⟩ := List.mem_map.mp among
      obtain ⟨content, same⟩ := files name
      simp [same] at found
    next => exact plain.linkless location target found
  · rw [placed] at found
    split at found
    next among =>
      obtain ⟨other, there, same⟩ := List.mem_map.mp among
      cases same
      exact named _ there
    next => exact plain.named found

theorem Plain.copied (plain : space.Plain) (room : space.tree.HasRoom origin place) :
    Plain { space with tree := space.tree.copied origin place } :=
  plain.withItems room.inside room.free (fun _ among => plain.isName among)
    (space.tree.exists_copyOf_eq origin)

/-- Putting items into a directory leaves all files elsewhere alone. -/
theorem spares_withItems {names : List Text} {item : Text → Item}
    (inside : space.tree.item? place = some .directory)
    (free : ∀ name ∈ names, space.tree.item? (name :: place) ≠ some .directory)
    (flat : ∀ name, item name ≠ .directory) :
    Spares (fun location => ∀ name, location ≠ name :: place) space
      { space with tree := space.tree.withItems place names item } :=
  ⟨rfl, Tree.directoriesIn_withItems inside free flat, fun outside => by
    rw [Tree.item?_withItems_of_outside inside free flat outside]⟩

/-- Copying leaves all files but those directly in the directory alone. -/
theorem spares_copied (room : space.tree.HasRoom origin place) :
    Spares (fun location => ∀ name, location ≠ name :: place) space
      { space with tree := space.tree.copied origin place } :=
  spares_withItems room.inside room.free fun _ => Tree.copyOf_ne_directory

end Workspace

end EnumBindings
