import EnumBindings.Command.Shell

/-!
# A scripted host

A host that needs no programs: it answers for the version control program by a script, and for the
small programs and the shell by what they do to a tree of files. With it a whole update can be
played through. Only runs need it: what is proved about updates holds for every host.

The version control program ends with the exit codes of the script, one after the other, and a
clone that succeeds leaves the items of the script in its directory.

## Main definitions

* `Script` — the exit codes and the items of a clone
* `Script.host` — the host that goes by a script
-/

namespace EnumBindings

/-- How the version control program answers. -/
structure Script where
  /-- The exit codes of its calls. The calls after them end with 0. -/
  exits : List Int := []
  /-- The items of a clone, if it leaves any. -/
  clone? : Option (List (Path × Item)) := none

namespace Script

/-- The program with the name `git`. The items of a clone are made below its third argument, with
the directories that lead to them. -/
def git (script : Script) (earlier : List Call) (arguments : List Text) (space : Workspace) :
    Outcome × Workspace :=
  let count := earlier.countP (·.program = "git".toList)
  let code := script.exits.getD count 0
  let after :=
    match script.clone?, arguments with
    | some items, verb :: _ :: target :: _ =>
      if verb = "clone".toList && code = 0 then
        space.plant (items.map fun (path, item) => (Path.join target path, item))
      else space
    | _, _ => space
  Program.ended (code % 256).toNat after

/-- How many bytes an argument of a program can have. -/
def maxArgumentBytes : Nat := 131071

/-- Why no program can be found by a name that none of the programs has. A name with a slash is the
path of a file, and none of the files can be started; other names are looked for in the
directories of the system. -/
def unknownProgram (name : Text) (space : Workspace) : FileFault :=
  if name.contains '/' then
    match space.item name with
    | .ok _ => .permissionDenied
    | .error fault => fault
  else if name = ['.'] || name = ['.', '.'] then .permissionDenied
  else if Tree.maxNameBytes < name.encode.size then .nameTooLong
  else .notFound

/-- The host that goes by a script. -/
def host (script : Script) : Host := fun earlier call tree =>
  let space : Workspace := ⟨tree, call.directory⟩
  let program? : Option Program :=
    if call.program = "git".toList then some (script.git earlier)
    else if call.program = "sh".toList then some Shell.program
    else Program.named? call.program
  let (outcome, after) : Outcome × Workspace :=
    match program? with
    | none => (.notStarted (unknownProgram call.program space), space)
    | some program =>
      if call.arguments.any fun argument => maxArgumentBytes < (Text.encode argument).size then
        (.notStarted .argumentsTooLong, space)
      else program call.arguments space
  (outcome, after.tree)

end Script

end EnumBindings
