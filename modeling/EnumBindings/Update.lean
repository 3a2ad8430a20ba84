import EnumBindings.Checkout
import EnumBindings.Options.Parse
import EnumBindings.Options.Usage
import EnumBindings.ProtoCopies
import EnumBindings.Target.Basic

/-!
# The update

An update brings the checkout of the protobufs up to date, generates both enums from it and
replaces the copies of the proto files in the SDK. Both enums are generated before a file is
written, so that the SDK is left as it was if one of them cannot be.

## Main definitions

* `update` — all steps of an update
* `runProgram` — the program, from its arguments to its exit code and what it shows
-/

namespace EnumBindings

/-- Generates an enum from the proto files of the checkout. -/
def generate (options : Options) (target : Target) : Action Draft :=
  Action.look fun space => target.generate space options.protos options.fragments?

/-- Writes a generated enum into its package. -/
def save (options : Options) (target : Target) (draft : Draft) : Action Unit :=
  let path := target.outputPath options.classes
  Action.change (draft.save · path) (.ungenerated path)

/-- All steps of an update. -/
def update (host : Host) (options : Options) : Action Unit := do
  unless options.skipFetch do
    ensureCheckout host options.remote options.checkout options.branch
  let requestType ← generate options .requestType
  let status ← generate options .status
  Action.makeDirectories options.classes
  save options .requestType requestType
  save options .status status
  let _ ← clearCopies options.copies options.keep
  let _ ← copyProtos options.protos options.copies

/-- What the program leaves to see: an exit code, what it shows, and what it complains of. -/
structure Report where
  exitCode : Nat
  output : Text
  complaint : Text
  deriving DecidableEq, Repr

/-- The wording of a complaint about the arguments. -/
def UsageError.complaint : UsageError → Text
  | .missingBranch => "error: the branch is missing".toList
  | .unknownArgument => "error: there is an unknown argument".toList
  | .invalidValue => "error: a value is missing or empty".toList
  | .repeated => "error: an option is given more than once".toList
  | .unexpectedValue => "error: a flag has a value".toList
  | .help | .version => []

/-- What the program leaves to see for arguments that do not make options. Asking for help or the
version is no error. -/
def UsageError.report (usage : UsageError) : Report :=
  match usage with
  | .help => ⟨0, Usage.help, []⟩
  | .version => ⟨0, Usage.version, []⟩
  | _ => ⟨2, [], usage.complaint⟩

/-- The program with some options: an update, and what it leaves to see. -/
def runUpdate (host : Host) (options : Options) (session : Session) : Report × Session :=
  match update host options |>.run session with
  | .ok () session => (⟨0, [], []⟩, session)
  | .error failure session => (⟨1, [], failure.message⟩, session)

/-- The program: an update with the options that its arguments make. -/
def runProgram (host : Host) (arguments : List Text) (session : Session) : Report × Session :=
  match Options.parse arguments with
  | .error usage => (usage.report, session)
  | .ok options => runUpdate host options session

end EnumBindings
