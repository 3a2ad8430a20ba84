import EnumBindings.Files.Workspace

/-!
# Archives

A tree of files as one sequence of bytes, in the format of tape archives. Every item has a header
of one block, and a file has its content after it, filled up to whole blocks; an empty block ends
the archive. Paths are those that fit into a header.

## Main definitions

* `Archive.read?` — the items of an archive, in their order
* `Archive.write?` — an archive of some items
* `Tree.entries` — the items of a tree with their paths
-/

namespace EnumBindings

/-- The items of a tree with their paths from the root. A directory comes before what is in it. -/
def Tree.entries (tree : Tree) : List (Path × Item) :=
  (tree.items.toList.map fun (location, item) => (location.reverse, item)).mergeSort
    (fun first second => (compare first.1 second.1).isLE) |>.map fun (names, item) =>
      (['/'].intercalate names, item)

namespace Archive

/-- The number of bytes in a block. -/
def blockSize : Nat := 512

/-- A place in a header: where it begins and how many bytes it has. -/
structure Field where
  start : Nat
  size : Nat

/-- The last part of the path. -/
def name : Field := ⟨0, 100⟩

/-- The permissions. -/
def mode : Field := ⟨100, 8⟩

/-- The size of the content. -/
def length : Field := ⟨124, 12⟩

/-- The sum of the bytes of the header, in which this place itself counts as blanks. -/
def checksum : Field := ⟨148, 8⟩

/-- What kind of item it is. -/
def kind : Field := ⟨156, 1⟩

/-- The target of a link. -/
def target : Field := ⟨157, 100⟩

/-- What tells the format. -/
def magic : Field := ⟨257, 8⟩

/-- The part of the path that comes before the last one. -/
def parent : Field := ⟨345, 155⟩

/-- What the headers of this format have in `magic`. -/
def format : Text :=
  "ustar\x0000".toList

/-- The text in a place of a header, which ends at the first NUL. -/
def Field.text? (field : Field) (header : ByteArray) : Option Text :=
  let bytes := (header.extract field.start (field.start + field.size)).toList
  Text.decode? ⟨(bytes.takeWhile (· ≠ 0)).toArray⟩

/-- The number in a place of a header, written in octal digits. -/
def Field.number (field : Field) (header : ByteArray) : Nat :=
  let bytes := (header.extract field.start (field.start + field.size)).toList
  (bytes.filter fun byte => 48 ≤ byte && byte < 56).foldl
    (fun number byte => 8 * number + (byte.toNat - 48)) 0

/-- How many bytes a content takes when it is filled up to whole blocks. -/
def filledSize (size : Nat) : Nat :=
  (size + (blockSize - 1)) / blockSize * blockSize

/-- Whether a header that extends the next one gives it a path or a target. -/
def announces (content : ByteArray) : Bool :=
  match Text.decode? content with
  | none => true
  | some text => (Text.cut "path=".toList text).isSome

/-- The items of an archive from a position on. Items that are neither files, directories nor links
are passed over, but a path that stands outside its header cannot be read. -/
def readFrom (bytes : ByteArray) (position : Nat) : Option (List (Path × Item)) :=
  if position + blockSize ≤ bytes.size then do
    let header := bytes.extract position (position + blockSize)
    let base ← name.text? header
    if base = [] then some []
    else do
      let above ← if magic.text? header = some "ustar".toList then parent.text? header else some []
      let path := if above = [] then base else above ++ '/' :: base
      let size := length.number header
      let start := position + blockSize
      let rest ← readFrom bytes (start + filledSize size)
      match ← kind.text? header with
      | [] | ['0'] => some ((path, .file (bytes.extract start (start + size))) :: rest)
      | ['5'] => some ((path, .directory) :: rest)
      | ['2'] => some ((path, .link (← target.text? header)) :: rest)
      | ['L'] | ['K'] => none
      | ['x'] => if announces (bytes.extract start (start + size)) then none else some rest
      | _ => some rest
  else some []
termination_by bytes.size - position
decreasing_by
  have : 0 < blockSize := by decide
  omega

/-- The items of an archive, in their order. -/
def read? (bytes : ByteArray) : Option (List (Path × Item)) :=
  readFrom bytes 0

/-- A number in octal digits, as many as are asked for. -/
def octal : Nat → Nat → Text
  | 0, _ => []
  | digits + 1, number => octal digits (number / 8) ++ [Nat.digitChar (number % 8)]

/-- Bytes filled up with zeros. -/
def filled (size : Nat) (bytes : ByteArray) : ByteArray :=
  bytes ++ ⟨Array.replicate (size - bytes.size) 0⟩

/-- The path cut at a slash, into parts that fit into a header. -/
def split? (path : Path) : Option (Text × Text) :=
  if (Text.encode path).size ≤ name.size then some ([], path)
  else
    (List.range path.length).findSome? fun place =>
      match path.drop place with
      | '/' :: base =>
        if (Text.encode (path.take place)).size ≤ parent.size && (Text.encode base).size ≤ name.size
        then some (path.take place, base) else none
      | _ => none

/-- The sum of the bytes of a header. -/
def sum (header : ByteArray) : Nat :=
  header.foldl (fun total byte => total + byte.toNat) 0

/-- The header of an item, if its path and target fit. -/
def header? (path : Path) (mode : Nat) (kind : Char) (target : Path) (size : Nat) :
    Option ByteArray := do
  let (above, base) ← split? path
  if Archive.target.size < (Text.encode target).size then none
  else
    let put (field : Field) (text : Text) := filled field.size (Text.encode text)
    let front := put name base ++ put Archive.mode (octal 7 mode) ++
      put ⟨108, 8⟩ (octal 7 0) ++ put ⟨116, 8⟩ (octal 7 0) ++ put length (octal 11 size) ++
      put ⟨136, 12⟩ (octal 11 0)
    let back := put Archive.kind [kind] ++ put Archive.target target ++ put magic format ++
      filled (parent.start - magic.start - magic.size) ⟨#[]⟩ ++ put parent above
    let total := sum front + checksum.size * ' '.toNat + sum back
    some (filled blockSize (front ++ put checksum (octal 6 total ++ ['\x00', ' ']) ++ back))

/-- The part of an archive that has one item. -/
def part? : Path × Item → Option ByteArray
  | (path, .directory) => header? (path ++ ['/']) 0o755 '5' [] 0
  | (path, .link target) => header? path 0o777 '2' target 0
  | (path, .file content) => do
    let header ← header? path 0o644 '0' [] content.size
    some (header ++ filled (filledSize content.size) content)

/-- An archive of some items, if their paths fit into headers. -/
def write? (items : List (Path × Item)) : Option ByteArray := do
  let parts ← items.mapM part?
  some (parts.foldl (· ++ ·) ⟨#[]⟩ ++ filled (2 * blockSize) ⟨#[]⟩)

end Archive

end EnumBindings
