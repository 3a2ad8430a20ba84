import EnumBindings.Files.Archive
import EnumBindings.Update

/-!
# The command line

The program reads the tree of files that it works on as an archive from its standard input, makes
the update there, and writes the tree as it is then to its standard output. Its working directory
is the root of the archive. There are no programs in an archive, so an update that is not told to
skip the fetch cannot start the version control program.
-/

namespace EnumBindings.CommandLine

/-- A host on which no program can be found. -/
def noPrograms : Host := fun _ _ tree => (.notStarted .notFound, tree)

/-- All that an input has to give. -/
partial def readAll (input : IO.FS.Stream) (read : ByteArray) : IO ByteArray := do
  let bytes ← input.read 65536
  if bytes.isEmpty then return read else readAll input (read ++ bytes)

/-- Shows a report and gives its exit code. -/
def finish (report : Report) : IO UInt32 := do
  IO.print (String.ofList report.output)
  unless report.complaint = [] do
    IO.eprintln (String.ofList report.complaint)
  return report.exitCode.toUInt32

/-- Complains of something and gives the exit code of a failure. -/
def fail (complaint : String) : IO UInt32 :=
  finish ⟨1, [], complaint.toList⟩

/-- Makes the update with some options in the archive from the standard input. -/
def run (options : Options) : IO UInt32 := do
  let bytes ← readAll (← IO.getStdin) ⟨#[]⟩
  match Archive.read? bytes with
  | none => fail "the archive cannot be read"
  | some items =>
    let space := Workspace.plant ⟨Tree.empty, []⟩ items
    let (report, after) := runUpdate noPrograms options { space with calls := [] }
    match Archive.write? after.tree.entries with
    | none => fail "a path does not fit into the archive"
    | some archive =>
      let output ← IO.getStdout
      output.write archive
      output.flush
      finish report

end EnumBindings.CommandLine

/-- The program `update-protobufs`, on an archive. -/
def main (arguments : List String) : IO UInt32 :=
  match EnumBindings.Options.parse (arguments.map String.toList) with
  | .error usage => EnumBindings.CommandLine.finish usage.report
  | .ok options => EnumBindings.CommandLine.run options
