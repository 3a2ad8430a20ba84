import EnumBindings.Session
import EnumBindings.Text.Replacement

/-!
# Copies of the proto files

The SDK has copies of the proto files, in which the Java packages are replaced by its own. An
update first clears the copies, except for the files that the SDK keeps, and then copies every
file again. Both look only at the regular files directly in a directory.

## Main definitions

* `clearCopies` — removes the files of a directory
* `copyProtos` — copies the files of a directory into another one
-/

namespace EnumBindings

/-- Removes the regular files directly in a directory, except those with a name to keep, and
gives their number. What is not a directory has none. -/
def clearCopies (directory : Path) (keep : List Text) : Action Nat := do
  if (← get).isDirectory directory then
    let names ← Action.look fun space =>
      (space.files directory).mapError (Failure.unlisted directory)
    let stale := names.filter (! keep.contains ·)
    stale.forM fun name =>
      let path := directory.join name
      Action.change (·.remove path) (.unremoved path)
    return stale.length
  else return 0

/-- Copies the regular files directly in a directory into another one, which is made if it is
missing, in the order of their names and with the replacements for proto files made. Gives their
number. -/
def copyProtos (source target : Path) : Action Nat := do
  Action.makeDirectories target
  let names ← Action.look fun space => (space.files source).mapError (Failure.unlisted source)
  names.forM fun name => do
    let file := source.join name
    let text ← Action.look fun space => (space.read file).mapError (Failure.unreadable file)
    let copy := target.join name
    Action.change (·.write copy (Replacement.applyAll Replacement.proto text)) (.uncopied copy)
  return names.length

end EnumBindings
