import EnumBindings.Block.Fault
import EnumBindings.Command.Basic

/-!
# Failures of an update

Everything for which an update can fail, each with what it was about, and the wording in which it
is reported: the failure first, then what caused it.
-/

namespace EnumBindings

/-- Why the entries of an enum cannot be taken from a proto file. -/
inductive SourceFailure where
  /-- The file cannot be read. -/
  | unreadable (fault : FileFault)
  /-- The block of the enum cannot be read. -/
  | malformed (enum : Text) (fault : Block.Fault)
  deriving DecidableEq, Repr

/-- The wording of a fault of the file system that stopped the generation. -/
def ioMessage (fault : FileFault) : Text :=
  "IO error: ".toList ++ fault.message

/-- The wording of a failure to take entries from a proto file. -/
def SourceFailure.message : SourceFailure → Text
  | unreadable fault => ioMessage fault
  | malformed enum fault => fault.message enum

/-- Why an update fails. -/
inductive Failure where
  /-- A command cannot be started. -/
  | notStarted (line : Text) (fault : FileFault)
  /-- A command ends without success. -/
  | unsuccessful (line : Text) (outcome : Outcome)
  /-- A text cannot be read from a file. -/
  | unreadable (path : Path) (fault : FileFault)
  /-- There is no fragment of the number for the class. -/
  | noFragment (number : Nat) (className : Text)
  /-- The entries of an enum cannot be taken from a proto file. -/
  | unextracted (enum : Text) (path : Path) (cause : SourceFailure)
  /-- A directory cannot be made. -/
  | unmade (path : Path) (fault : FileFault)
  /-- The generated code cannot be written. -/
  | ungenerated (path : Path) (fault : FileFault)
  /-- The files of a directory cannot be listed. -/
  | unlisted (path : Path) (fault : FileFault)
  /-- A file cannot be removed. -/
  | unremoved (path : Path) (fault : FileFault)
  /-- A copy cannot be written. -/
  | uncopied (path : Path) (fault : FileFault)
  deriving DecidableEq, Repr

/-- The wording of a failure, followed by its causes. -/
def Failure.message : Failure → Text
  | notStarted line fault =>
    "failed to start `".toList ++ line ++ "`: ".toList ++ fault.message
  | unsuccessful line outcome =>
    "`".toList ++ line ++ "` exited with ".toList ++ outcome.message
  | unreadable path fault => "failed to read ".toList ++ path ++ ": ".toList ++ fault.message
  | noFragment number className =>
    "no premade fragment ".toList ++ (toString number).toList ++ " for ".toList ++ className
  | unextracted enum path cause =>
    "failed to extract enum ".toList ++ enum ++ " from ".toList ++ path ++ ": ".toList ++
      match cause with
      | .unreadable fault => ioMessage fault ++ ": ".toList ++ fault.message
      | .malformed enum fault => fault.message enum
  | unmade path fault => "failed to create ".toList ++ path ++ ": ".toList ++ fault.message
  | ungenerated path fault =>
    "failed to write ".toList ++ path ++ ": ".toList ++ ioMessage fault ++ ": ".toList ++
      fault.message
  | unlisted path fault =>
    "failed to list ".toList ++ path ++ ": IO error for operation on ".toList ++ path ++
      ": ".toList ++ fault.message ++ ": ".toList ++ fault.message
  | unremoved path fault => "failed to remove ".toList ++ path ++ ": ".toList ++ fault.message
  | uncopied path fault => "failed to write ".toList ++ path ++ ": ".toList ++ fault.message

end EnumBindings
