import EnumBindings.Options.Basic

/-!
# Reading the command line

The arguments are read from the left. An argument with two dashes in front names an option, whose
value follows a `=` or is the next argument; an argument without dashes is the branch. A lone `--`
ends the options. The value that an option takes from the next argument is recorded only when the
next option or branch comes, or the arguments end: until then a fault that lies further to the
right can come first.

## Main definitions

* `UsageError` — why arguments do not make options, or what is shown instead
* `Switch` — the options by name
* `Options.parse` — the options that some arguments make
-/

namespace EnumBindings

/-- Why arguments do not make options, or what they ask to be shown instead. -/
inductive UsageError where
  | missingBranch
  | unknownArgument
  | invalidValue
  | repeated
  | unexpectedValue
  | help
  | version
  deriving DecidableEq, Repr

/-- The options that take a value. -/
inductive ValueOption where
  | checkout
  | remote
  | sdk
  | fragments
  | keep
  deriving DecidableEq, Repr

/-- The options by name. -/
inductive Switch where
  | value (option : ValueOption)
  | skipFetch
  | help
  | version
  deriving DecidableEq, Repr

/-- The option with a long name. -/
def Switch.ofName? (name : Text) : Option Switch :=
  [("repo-dir", value .checkout), ("remote", value .remote), ("sdk-main", value .sdk),
    ("premade-dir", value .fragments), ("keep", value .keep), ("skip-fetch", skipFetch),
    ("help", help), ("version", version)].findSome? fun (long, switch) =>
      if long.toList = name then some switch else none

/-- What an argument is, by its dashes. -/
inductive Argument where
  /-- The end of the options. -/
  | separator
  /-- A long option, and what follows a `=`. -/
  | long (name : Text) (attached : Option Text)
  /-- A short option. -/
  | short (name : Char)
  /-- An argument that names no option. -/
  | plain (text : Text)
  deriving DecidableEq, Repr

/-- What an argument is. A lone dash names no option; of short options that are run together the
first one counts. -/
def Argument.ofText : Text → Argument
  | ['-', '-'] => separator
  | '-' :: '-' :: name =>
    match Text.cut ['='] name with
    | some (name, attached) => long name (some attached)
    | none => long name none
  | '-' :: name :: _ => short name
  | text => plain text

/-- What was said so far. -/
structure Given where
  branch : Option Text := none
  checkout : Option Path := none
  remote : Option Text := none
  sdk : Option Path := none
  fragments : Option Path := none
  skipFetch : Bool := false
  keep : Option (List Text) := none

namespace Given

/-- Sets what may be said once. -/
def once (current : Option Text) (value : Text) (set : Text → Given) : Except UsageError Given :=
  if current.isSome then .error .repeated else .ok (set value)

/-- Sets a path, which may be said once and has to have a character. -/
def oncePath (current : Option Path) (value : Path) (set : Path → Given) :
    Except UsageError Given :=
  if current.isSome then .error .repeated
  else if value = [] then .error .invalidValue
  else .ok (set value)

/-- Records the value of an option. The names to keep are separated by commas and may be said
more than once. -/
def record (given : Given) (option : ValueOption) (value : Text) : Except UsageError Given :=
  match option with
  | .checkout => oncePath given.checkout value fun path => { given with checkout := some path }
  | .remote => once given.remote value fun text => { given with remote := some text }
  | .sdk => oncePath given.sdk value fun path => { given with sdk := some path }
  | .fragments => oncePath given.fragments value fun path => { given with fragments := some path }
  | .keep => .ok { given with keep := some (given.keep.getD [] ++ value.splitOn ',') }

/-- The options, with the values that hold where nothing was said. -/
def options (given : Given) : Except UsageError Options :=
  match given.branch with
  | none => .error .missingBranch
  | some branch =>
    .ok {
      branch
      checkout := given.checkout.getD Options.defaultCheckout
      remote := given.remote.getD Options.defaultRemote
      sdk := given.sdk.getD Options.defaultSdk
      fragments? := given.fragments
      skipFetch := given.skipFetch
      keep := given.keep.getD Options.defaultKeep }

end Given

/-- How far the reading has come: what was said, and the option whose value is not yet recorded,
with the value if that is there. -/
structure Reading where
  given : Given := {}
  waiting : Option (ValueOption × Option Text) := none
  /-- Whether the options have ended. -/
  ended : Bool := false

namespace Reading

/-- Records the value that waits. An option that still lacks its value is at fault. -/
def settle (reading : Reading) : Except UsageError Given :=
  match reading.waiting with
  | none => .ok reading.given
  | some (_, none) => .error .invalidValue
  | some (option, some value) => reading.given.record option value

/-- Reads an argument that names no option: the branch, of which there is one. -/
def readPlain (reading : Reading) (text : Text) : Except UsageError Reading :=
  if reading.given.branch.isSome then .error .unknownArgument
  else do
    let given ← reading.settle
    .ok { reading with given := { given with branch := some text }, waiting := none }

/-- Reads a long option with what follows its `=`. -/
def readLong (reading : Reading) (name : Text) (attached : Option Text) :
    Except UsageError Reading :=
  match Switch.ofName? name, attached with
  | none, _ => .error .unknownArgument
  | some (.value option), some value => do
    let given ← (← reading.settle).record option value
    .ok { reading with given, waiting := none }
  | some (.value option), none => do
    let given ← reading.settle
    .ok { reading with given, waiting := some (option, none) }
  | some _, some _ => .error .unexpectedValue
  | some .skipFetch, none => do
    let given ← reading.settle
    if given.skipFetch then .error .repeated
    else .ok { reading with given := { given with skipFetch := true }, waiting := none }
  | some .help, none => do
    let _ ← reading.settle
    .error .help
  | some .version, none => do
    let _ ← reading.settle
    .error .version

/-- Reads a short option: there are those for the help and the version. -/
def readShort (reading : Reading) (name : Char) : Except UsageError Reading :=
  if name = 'h' then do
    let _ ← reading.settle
    .error .help
  else if name = 'V' then do
    let _ ← reading.settle
    .error .version
  else .error .unknownArgument

/-- Reads one argument. -/
def read (reading : Reading) (argument : Text) : Except UsageError Reading :=
  if reading.ended then reading.readPlain argument
  else
    match Argument.ofText argument with
    | .separator => .ok { reading with ended := true }
    | .long name attached => reading.readLong name attached
    | .short name => reading.readShort name
    | .plain text =>
      match reading.waiting with
      | some (option, none) => .ok { reading with waiting := some (option, some text) }
      | _ => reading.readPlain text

end Reading

/-- The options that some arguments make. -/
def Options.parse (arguments : List Text) : Except UsageError Options := do
  let reading ← arguments.foldlM Reading.read {}
  (← reading.settle).options

end EnumBindings
