import EnumBindings.Files.Workspace

/-!
# Commands

A command is a program with its arguments, run in some directory. What programs do is not part of
this library: a `Host` says, for a call and the calls before it, how the call ends and which tree
of files it leaves.

## Main definitions

* `Call` — a program that is run in a directory
* `Outcome` — how a call ends
* `Host` — what programs do
* `commandLine` — a command as it is shown
-/

namespace EnumBindings

/-- A program that is run in a directory. -/
structure Call where
  program : Text
  arguments : List Text
  directory : Location
  deriving DecidableEq, Repr

/-- How a call ends. -/
inductive Outcome where
  /-- The program cannot be started. -/
  | notStarted (fault : FileFault)
  /-- The program ends by itself. -/
  | exited (status : Nat)
  /-- A signal ends the program. -/
  | signalled (signal : Nat)
  deriving DecidableEq, Repr

/-- What programs do: how a call ends, given the calls that were started before it, and the tree
of files that it leaves. -/
abbrev Host := List Call → Call → Tree → Outcome × Tree

/-- A command as it is shown: the program and its arguments, with blanks between them. -/
def commandLine (program : Text) (arguments : List Text) : Text :=
  [' '].intercalate (program :: arguments)

/-- The names of the signals from 1 on. The signals after them have none. -/
def signalNames : List String :=
  ["HUP", "INT", "QUIT", "ILL", "TRAP", "ABRT", "BUS", "FPE", "KILL", "USR1", "SEGV", "USR2",
    "PIPE", "ALRM", "TERM", "STKFLT", "CHLD", "CONT", "STOP", "TSTP", "TTIN", "TTOU", "URG",
    "XCPU", "XFSZ", "VTALRM", "PROF", "WINCH", "IO", "PWR", "SYS"]

/-- The name of a signal, if it has one. -/
def signalName? : Nat → Option String
  | 0 => none
  | number + 1 => signalNames[number]?

/-- The wording of how a call ended. -/
def Outcome.message : Outcome → Text
  | notStarted fault => fault.message
  | exited status => "exit status: ".toList ++ (toString status).toList
  | signalled signal =>
    "signal: ".toList ++ (toString signal).toList ++
      match signalName? signal with
      | some name => " (SIG".toList ++ name.toList ++ [')']
      | none => []

end EnumBindings
