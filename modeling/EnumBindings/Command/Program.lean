import EnumBindings.Command.Basic

/-!
# Small programs

What a few small programs do to a tree of files, seen from the directory in which they are run:
`true` and `false`, `touch` and `mkdir`.

## Main definitions

* `Program` — what a program does, given its arguments
* `Program.named?` — the small programs by name
-/

namespace EnumBindings

/-- What a program does to a workspace, given its arguments, and how it ends. -/
abbrev Program := List Text → Workspace → Outcome × Workspace

namespace Program

/-- A program that ends with a status, of which the lowest byte counts. -/
def ended (status : Nat) (space : Workspace) : Outcome × Workspace :=
  (.exited (status % 256), space)

/-- The options and the operands among some arguments. Letters behind one dash are options each, and
nothing after `--` is an option. -/
def sorted : List Text → List Text × List Text
  | [] => ([], [])
  | ['-', '-'] :: rest => ([], rest)
  | ('-' :: '-' :: name) :: rest =>
    (('-' :: '-' :: name) :: (sorted rest).1, (sorted rest).2)
  | ('-' :: letter :: letters) :: rest =>
    ((letter :: letters).map (fun letter => ['-', letter]) ++ (sorted rest).1, (sorted rest).2)
  | operand :: rest => ((sorted rest).1, operand :: (sorted rest).2)

/-- A program that makes a change for every operand. It fails if it has none or if one of the
changes fails, and does nothing at all if there is an option that it does not know. -/
def forOperands (known : List String)
    (change : List Text → Workspace → Path → Workspace × Bool) : Program :=
  fun arguments space =>
    let (options, operands) := sorted arguments
    if operands = [] || !options.all ((known.map String.toList).contains ·) then ended 1 space
    else
      let (space, ok) := operands.foldl (fun (space, ok) operand =>
        let (space, changed) := change options space operand
        (space, ok && changed)) (space, true)
      ended (if ok then 0 else 1) space

/-- Makes a file if it is missing. A lone dash stands for no file. -/
def touchFile (space : Workspace) (path : Path) : Workspace × Bool :=
  if path = ['-'] || (space.item path).isOk then (space, true)
  else
    match space.write path [] with
    | .ok written => (written, true)
    | .error _ => (space, false)

/-- Makes one directory. -/
def makeOne (space : Workspace) (path : Path) : Workspace × Bool :=
  match space.makeDirectory path with
  | .ok made => (made, true)
  | .error _ => (space, false)

/-- Makes a directory and all that lead to it, as far as they are missing. -/
def makeAll (space : Workspace) (path : Path) : Workspace × Bool :=
  let names := (path.splitOn '/').filter (· ≠ [])
  (List.range names.length).foldl (fun (space, ok) number =>
    let above := Path.ofAncestry path.isAbsolute (names.take (number + 1)).reverse
    if ok && !space.isDirectory above then makeOne space above else (space, ok)) (space, path ≠ [])

/-- Makes a directory, with all that lead to it if that is asked for. -/
def makeDirectory (options : List Text) : Workspace → Path → Workspace × Bool :=
  if options.contains "-p".toList || options.contains "--parents".toList then makeAll else makeOne

/-- The small programs by name. -/
def named? (name : Text) : Option Program :=
  if name = "true".toList then some fun _ => ended 0
  else if name = "false".toList then some fun _ => ended 1
  else if name = "touch".toList then some (forOperands [] fun _ => touchFile)
  else if name = "mkdir".toList then some (forOperands ["-p", "--parents"] makeDirectory)
  else none

end Program

end EnumBindings
