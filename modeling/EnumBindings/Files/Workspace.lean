import EnumBindings.Files.Tree

/-!
# Working with files

A workspace is a tree of files seen from a working directory, from which relative paths are
followed. Each operation either gives its answer, or the workspace afterwards, or says why it
cannot be done. Making a directory with all that lead to it can leave some of them made when it
fails, so it gives the workspace in either case.

## Main definitions

* `Workspace` — a tree and a working directory
* `Workspace.read`, `Workspace.write`, `Workspace.remove` — files
* `Workspace.makeDirectory`, `Workspace.makeDirectories` — directories
* `Workspace.files` — the regular files of a directory
* `Workspace.plant` — a workspace with given items
-/

namespace EnumBindings

/-- A tree of files seen from a working directory. -/
structure Workspace where
  tree : Tree
  here : Location

namespace Workspace

/-! ### Looking -/

/-- The item to which a path leads, through all links. -/
def item (space : Workspace) (path : Path) : Except FileFault Item := do
  let location ← space.tree.locate .use space.here path
  match space.tree.item? location with
  | some item => .ok item
  | none => .error .notFound

/-- Whether a path leads to a regular file. -/
def isFile (space : Workspace) (path : Path) : Bool :=
  match space.item path with
  | .ok (.file _) => true
  | _ => false

/-- Whether a path leads to a directory. -/
def isDirectory (space : Workspace) (path : Path) : Bool :=
  match space.item path with
  | .ok .directory => true
  | _ => false

/-- The location of the directory to which a path leads. -/
def directory (space : Workspace) (path : Path) : Except FileFault Location := do
  let location ← space.tree.locate .use space.here path
  match space.tree.item? location with
  | some .directory => .ok location
  | some _ => .error .notDirectory
  | none => .error .notFound

/-- The text of a file. -/
def read (space : Workspace) (path : Path) : Except FileFault Text := do
  match ← space.item path with
  | .file content =>
    match Text.decode? content with
    | some text => .ok text
    | none => .error .notText
  | _ => .error .isDirectory

/-- The names of the regular files directly in a directory, in order. What is not a directory has
none. -/
def files (space : Workspace) (path : Path) : Except FileFault (List Text) := do
  let location ← space.tree.locate .use space.here path
  match space.tree.item? location with
  | some .directory =>
    .ok ((space.tree.children location).filterMap fun (name, item) =>
      match item with
      | .file _ => some name
      | _ => none)
  | some _ => .ok []
  | none => .error .notFound

/-! ### Changing -/

/-- The workspace with an item put at a location. -/
def put (space : Workspace) (location : Location) (item : Item) : Workspace :=
  { space with tree := space.tree.put location item }

/-- Writes a text to a file, which is made if it is missing. -/
def write (space : Workspace) (path : Path) (text : Text) : Except FileFault Workspace := do
  let location ← space.tree.locate .write space.here path
  match space.tree.item? location with
  | some .directory => .error .isDirectory
  | _ => .ok (space.put location (.file text.encode))

/-- Removes a file or a link. -/
def remove (space : Workspace) (path : Path) : Except FileFault Workspace := do
  let location ← space.tree.locate .replace space.here path
  match space.tree.item? location with
  | some .directory => .error .isDirectory
  | some _ => .ok { space with tree := space.tree.drop location }
  | none => .error .notFound

/-- Makes one directory in one that exists. -/
def makeDirectory (space : Workspace) (path : Path) : Except FileFault Workspace := do
  let location ← space.tree.locate .replace space.here path
  match space.tree.item? location with
  | some _ => .error .exists
  | none => .ok (space.put location .directory)

/-- Makes a directory unless it is there already. If only the way to it is missing, `above` makes
that first. -/
def ensureDirectory (space : Workspace) (path : Path)
    (above : Workspace → Workspace × Except FileFault Unit) :
    Workspace × Except FileFault Unit :=
  match space.makeDirectory path with
  | .ok made => (made, .ok ())
  | .error .notFound =>
    match above space with
    | (prepared, .error fault) => (prepared, .error fault)
    | (prepared, .ok ()) =>
      match prepared.makeDirectory path with
      | .ok made => (made, .ok ())
      | .error fault =>
        (prepared, if prepared.isDirectory path then .ok () else .error fault)
  | .error fault => (space, if space.isDirectory path then .ok () else .error fault)

/-- Makes the directories of an ancestry, those that lead to it first. -/
def makeAncestry (absolute : Bool) :
    List Text → Workspace → Workspace × Except FileFault Unit
  | [], space => (space, .ok ())
  | name :: above, space =>
    space.ensureDirectory (Path.ofAncestry absolute (name :: above)) (makeAncestry absolute above)

/-- Makes a directory and all that lead to it, as far as they are missing. -/
def makeDirectories (space : Workspace) (path : Path) : Workspace × Except FileFault Unit :=
  if path = [] then (space, .ok ())
  else space.ensureDirectory path (makeAncestry path.isAbsolute path.ancestry.tail)

/-! ### Preparing -/

/-- Puts an item at a path below a directory, with the directories that lead to it. Where that
cannot be done nothing is changed. -/
def plantItem (space : Workspace) (path : Path) (item : Item) : Workspace :=
  let above := Path.ofAncestry path.isAbsolute path.ancestry.tail
  match item with
  | .directory => (space.makeDirectories path).1
  | _ =>
    let prepared := (space.makeDirectories above).1
    match prepared.tree.locate .replace prepared.here path with
    | .ok location => prepared.put location item
    | .error _ => prepared

/-- Puts items at paths below a directory: the directories first, then the links and the files. -/
def plant (space : Workspace) (items : List (Path × Item)) : Workspace :=
  let isDirectory : Path × Item → Bool
    | (_, .directory) => true
    | _ => false
  let isLink : Path × Item → Bool
    | (_, .link _) => true
    | _ => false
  let isFile : Path × Item → Bool
    | (_, .file _) => true
    | _ => false
  [isDirectory, isLink, isFile].foldl (fun space kind =>
    (items.filter kind).foldl (fun space (path, item) => space.plantItem path item) space) space

end Workspace

end EnumBindings
