import EnumBindings.Files.Fault
import EnumBindings.Files.Path
import Std.Data.ExtTreeMap

/-!
# Trees of files

A tree has an item at each of finitely many locations: a directory, a file or a symbolic link. A
location is the list of the names that lead to it, the innermost first, so that the items of one
directory come in the order of their names.

Paths are followed from a location, name by name. A link on the way is replaced by its target; a
path that goes round in circles is given up.

## Main definitions

* `Item`, `Location`, `Tree`
* `Tree.item?` — the item at a location, the root being a directory
* `Tree.put`, `Tree.drop` — changing one item
* `Tree.Purpose`, `Tree.follow` — the location to which a list of names leads
* `Tree.children` — the items of a directory

## Main results

* `Tree.item?_above` — whatever there is, is in a directory
* `Tree.item?_put`, `Tree.item?_drop` — the items after a change
* `Tree.ext_item?` — trees with the same items are the same
-/

namespace EnumBindings

local instance decidableEqContent : DecidableEq ByteArray :=
  ByteArray.instDecidableEq

/-- What can be at a location. -/
inductive Item where
  | directory
  | file (content : ByteArray)
  | link (target : Path)
  deriving DecidableEq

/-- The names that lead to an item from the root, the innermost first. -/
abbrev Location := List Text

instance : Std.TransOrd Location :=
  inferInstanceAs (Std.TransOrd (List (List Char)))

/-- A location that is in the root or in a directory. -/
def Location.IsHeld (items : Std.ExtTreeMap Location Item) : Location → Prop
  | [] => False
  | _ :: above => above = [] ∨ items[above]? = some .directory

/-- The items at finitely many locations below the root, each one in a directory. -/
structure Tree where
  items : Std.ExtTreeMap Location Item
  held : ∀ location ∈ items, location.IsHeld items

namespace Tree

/-- The tree of nothing but the root. -/
def empty : Tree :=
  ⟨∅, fun _ member => absurd member Std.ExtTreeMap.not_mem_empty⟩

/-- The item at a location. The root is a directory. -/
def item? (tree : Tree) (location : Location) : Option Item :=
  if location = [] then some .directory else tree.items[location]?

/-- Whatever is below the root is in a directory. -/
theorem item?_above {tree : Tree} {name : Text} {above : Location} {item : Item}
    (h : tree.item? (name :: above) = some item) : tree.item? above = some .directory := by
  have member : name :: above ∈ tree.items := by
    rw [Std.ExtTreeMap.mem_iff_isSome_getElem?]
    simp_all [item?]
  rcases tree.held _ member with rfl | found
  · rfl
  · by_cases root : above = [] <;> simp [item?, root, found]

/-- The items with one more, in a directory and not in place of one, are held as well. -/
private theorem held_insert (tree : Tree) {name : Text} {above : Location} (item : Item)
    (inside : tree.item? above = some .directory)
    (free : tree.item? (name :: above) ≠ some .directory) :
    ∀ location ∈ tree.items.insert (name :: above) item,
      location.IsHeld (tree.items.insert (name :: above) item) := by
  have keeps (location : Location) (found : tree.items[location]? = some .directory) :
      (tree.items.insert (name :: above) item)[location]? = some .directory := by
    rw [Std.ExtTreeMap.getElem?_insert]
    split
    next same =>
      rw [Std.LawfulEqCmp.eq_of_compare same] at free
      by_cases root : location = [] <;> simp_all [item?]
    next => exact found
  intro location member
  rcases Std.ExtTreeMap.mem_insert.mp member with same | old
  · rw [← Std.LawfulEqCmp.eq_of_compare same]
    by_cases root : above = []
    · exact .inl root
    · exact .inr (keeps above (by simpa [item?, root] using inside))
  · have above := tree.held location old
    cases location with
    | nil => exact above
    | cons _ outer => exact above.imp id (keeps outer)

/-- The items without one that is no directory are held as well. -/
private theorem held_erase (tree : Tree) {location : Location}
    (free : tree.item? location ≠ some .directory) :
    ∀ other ∈ tree.items.erase location, other.IsHeld (tree.items.erase location) := by
  intro other member
  have above := tree.held other (Std.ExtTreeMap.mem_of_mem_erase member)
  cases other with
  | nil => exact above
  | cons _ outer =>
    refine above.imp id fun found => ?_
    rw [Std.ExtTreeMap.getElem?_erase]
    split
    next same =>
      rw [Std.LawfulEqCmp.eq_of_compare same] at free
      by_cases root : outer = [] <;> simp_all [item?]
    next => exact found

/-- The tree with an item put at a location in a directory. Nothing takes the place of a
directory. -/
def put (tree : Tree) (location : Location) (item : Item) : Tree :=
  match location with
  | [] => tree
  | name :: above =>
    if h : tree.item? above = some .directory ∧ tree.item? (name :: above) ≠ some .directory then
      ⟨tree.items.insert (name :: above) item, held_insert tree item h.1 h.2⟩
    else tree

/-- The tree without the item at a location, unless that is a directory. -/
def drop (tree : Tree) (location : Location) : Tree :=
  if h : tree.item? location ≠ some .directory then
    ⟨tree.items.erase location, held_erase tree h⟩
  else tree

/-- The items after one is put into a directory. -/
private theorem items_put {tree : Tree} {name : Text} {above : Location}
    (inside : tree.item? above = some .directory)
    (free : tree.item? (name :: above) ≠ some .directory) (item : Item) :
    (tree.put (name :: above) item).items = tree.items.insert (name :: above) item := by
  rw [put, dif_pos ⟨inside, free⟩]

/-- An item that is put into a directory is found there, and nothing else changes. -/
theorem item?_put {tree : Tree} {name : Text} {above : Location}
    (inside : tree.item? above = some .directory)
    (free : tree.item? (name :: above) ≠ some .directory) (item : Item) (other : Location) :
    (tree.put (name :: above) item).item? other =
      if other = name :: above then some item else tree.item? other := by
  rw [item?, items_put inside free, Std.ExtTreeMap.getElem?_insert, item?]
  by_cases same : other = name :: above
  · simp [same]
  · simp [same, Ne.symm same]

/-- The items after one is dropped. -/
private theorem items_drop {tree : Tree} {location : Location}
    (free : tree.item? location ≠ some .directory) :
    (tree.drop location).items = tree.items.erase location := by
  rw [drop, dif_pos free]

/-- An item that is dropped is found no more, and nothing else changes. -/
theorem item?_drop {tree : Tree} {location : Location}
    (free : tree.item? location ≠ some .directory) (other : Location) :
    (tree.drop location).item? other = if other = location then none else tree.item? other := by
  have inner : location ≠ [] := fun root => free (by simp [item?, root])
  rw [item?, items_drop free, Std.ExtTreeMap.getElem?_erase, item?]
  by_cases same : other = location
  · simp [same, inner]
  · simp [same, Ne.symm same]

/-- Trees with the same items are the same. -/
theorem ext_item? {tree other : Tree} (h : ∀ location, tree.item? location = other.item? location) :
    tree = other := by
  have same : tree.items = other.items := by
    refine Std.ExtTreeMap.ext_getElem? fun location => ?_
    by_cases root : location = []
    · subst root
      have outside (tree : Tree) : tree.items[([] : Location)]? = none :=
        Std.ExtTreeMap.getElem?_eq_none fun member => tree.held _ member
      rw [outside, outside]
    · simpa [item?, root] using h location
  cases tree
  cases other
  cases same
  rfl

/-- The names and items of a directory, in the order of the names. -/
def children (tree : Tree) (directory : Location) : List (Text × Item) :=
  tree.items.toList.filterMap fun (location, item) =>
    match location with
    | [] => none
    | name :: above => if above = directory then some (name, item) else none

/-- The children of a directory are the items one name below it. -/
theorem mem_children_iff {tree : Tree} {directory : Location} {name : Text} {item : Item} :
    (name, item) ∈ tree.children directory ↔ tree.item? (name :: directory) = some item := by
  simp only [children, List.mem_filterMap, Prod.exists, item?, reduceCtorEq, if_false]
  constructor
  · rintro ⟨location, found, member, same⟩
    cases location with
    | nil => simp at same
    | cons inner above =>
      dsimp only at same
      split at same
      next here =>
        cases same
        subst here
        exact Std.ExtTreeMap.mem_toList_iff_getElem?_eq_some.mp member
      next => simp at same
  · intro found
    exact ⟨name :: directory, item, Std.ExtTreeMap.mem_toList_iff_getElem?_eq_some.mpr found,
      by simp⟩

/-- How many links a path can go through. -/
def maxLinks : Nat := 40

/-- How many bytes a name can have. -/
def maxNameBytes : Nat := 255

/-- What a path is followed for, which decides what becomes of its last name. -/
inductive Purpose where
  /-- To use what is there: a link is replaced by its target, and a slash at the end asks for a
  directory. -/
  | use
  /-- To make or remove what is there: a link stands for itself, and a slash at the end says
  nothing. -/
  | replace
  /-- To write a file there: a link is replaced by its target, and with a slash at the end it could
  only be a directory. -/
  | write
  deriving DecidableEq, Repr

/-- Whether a name with such names after it is the last one. A slash at the end counts as an empty
name. -/
def Purpose.isLast (purpose : Purpose) (rest : List Text) : Bool :=
  rest = [] || (purpose = .replace && rest = [[]])

/-- The location to which names lead from a directory, going through a limited number of links.
There may be no item at the location, but it is in a directory. -/
def follow (tree : Tree) (purpose : Purpose) (links : Nat) (here : Location) :
    List Text → Except FileFault Location
  | [] => .ok here
  | name :: rest =>
    if name = [] || name = ['.'] then tree.follow purpose links here rest
    else if name = ['.', '.'] then tree.follow purpose links here.tail rest
    else if purpose = .write && rest = [[]] then .error .isDirectory
    else if maxNameBytes < (Text.encode name).size then .error .nameTooLong
    else
      match tree.item? (name :: here) with
      | none => if purpose.isLast rest then .ok (name :: here) else .error .notFound
      | some (.file _) => if purpose.isLast rest then .ok (name :: here) else .error .notDirectory
      | some .directory => tree.follow purpose links (name :: here) rest
      | some (.link target) =>
        if purpose = .replace && purpose.isLast rest then .ok (name :: here)
        else
          match links with
          | 0 => .error .tooManyLinks
          | links + 1 =>
            tree.follow purpose links (if target.isAbsolute then [] else here)
              (target.names ++ rest)
termination_by names => (links, names.length)

/-- How many bytes a path can have. -/
def maxPathBytes : Nat := 4095

/-- The location to which a path leads from a directory. -/
def locate (tree : Tree) (purpose : Purpose) (here : Location) (path : Path) :
    Except FileFault Location :=
  if path.contains '\x00' then .error .nulInPath
  else if path = [] then .error .notFound
  else if maxPathBytes < (Text.encode path).size then .error .nameTooLong
  else tree.follow purpose maxLinks (if path.isAbsolute then [] else here) path.names

end Tree

end EnumBindings
