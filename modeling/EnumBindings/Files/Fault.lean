import EnumBindings.Text.Basic

/-!
# Faults of the file system

Why an operation on files cannot be done, with the wording of the operating system.
-/

namespace EnumBindings

/-- Why an operation on files cannot be done. -/
inductive FileFault where
  | notFound
  | permissionDenied
  | exists
  | notDirectory
  | isDirectory
  | nameTooLong
  | tooManyLinks
  /-- A path with a NUL character. -/
  | nulInPath
  /-- A command with a NUL character. -/
  | nulInCommand
  /-- A command with an argument that is longer than a program can take. -/
  | argumentsTooLong
  /-- The bytes of a file that is read as text are not valid UTF-8. -/
  | notText
  /-- A place of fixed size that the text does not fit into. -/
  | full
  deriving DecidableEq, Repr

/-- The wording of a fault. -/
def FileFault.message : FileFault → Text
  | notFound => "No such file or directory (os error 2)".toList
  | permissionDenied => "Permission denied (os error 13)".toList
  | .exists => "File exists (os error 17)".toList
  | notDirectory => "Not a directory (os error 20)".toList
  | isDirectory => "Is a directory (os error 21)".toList
  | nameTooLong => "File name too long (os error 36)".toList
  | tooManyLinks => "Too many levels of symbolic links (os error 40)".toList
  | nulInPath => "file name contained an unexpected NUL byte".toList
  | nulInCommand => "nul byte found in provided data".toList
  | argumentsTooLong => "Argument list too long (os error 7)".toList
  | notText => "stream did not contain valid UTF-8".toList
  | full => "failed to write whole buffer".toList

end EnumBindings
