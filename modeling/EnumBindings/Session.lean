import EnumBindings.Failure

/-!
# Sessions

A session is a workspace together with the calls of programs that were started in it. An action
works on a session and may fail; what it did before it failed stays done.

## Main definitions

* `Session`, `Action`
* `runCommand` — a command that has to succeed
-/

namespace EnumBindings

/-- A workspace and the calls that were started in it. -/
structure Session extends Workspace where
  calls : List Call

/-- What works on a session and may fail. -/
abbrev Action := EStateM Failure Session

namespace Action

/-- Gives the answer of a look at the workspace. -/
def look {α : Type} (view : Workspace → Except Failure α) : Action α := do
  match view (← get).toWorkspace with
  | .ok answer => pure answer
  | .error failure => throw failure

/-- Makes a change to the workspace, or fails and changes nothing. -/
def change (step : Workspace → Except FileFault Workspace) (failure : FileFault → Failure) :
    Action Unit := do
  let session ← get
  match step session.toWorkspace with
  | .ok space => set { session with toWorkspace := space }
  | .error fault => throw (failure fault)

/-- Makes a directory and all that lead to it, as far as they are missing. -/
def makeDirectories (path : Path) : Action Unit := do
  let session ← get
  let (space, result) := session.makeDirectories path
  set { session with toWorkspace := space }
  match result with
  | .ok () => pure ()
  | .error fault => throw (.unmade path fault)

end Action

/-- Runs a command in a directory, or in the working directory, and fails unless the program ends
by itself with status 0. -/
def runCommand (host : Host) (program : Text) (arguments : List Text)
    (directory? : Option Path) : Action Unit := do
  let session ← get
  let line := commandLine program arguments
  if (program :: arguments ++ directory?.toList).any (·.contains '\x00') then
    throw (.notStarted line .nulInCommand)
  let place : Except FileFault Location :=
    match directory? with
    | none => .ok session.here
    | some path => session.directory path
  match place with
  | .error fault => throw (.notStarted line fault)
  | .ok directory =>
    let call : Call := ⟨program, arguments, directory⟩
    match host session.calls call session.tree with
    | (.notStarted fault, _) => throw (.notStarted line fault)
    | (outcome, tree) =>
      set { session with tree := tree, calls := session.calls ++ [call] }
      if outcome = .exited 0 then pure () else throw (.unsuccessful line outcome)

end EnumBindings
