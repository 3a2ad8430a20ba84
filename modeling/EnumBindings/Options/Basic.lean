import EnumBindings.Files.Path

/-!
# Options of the command line

What an update can be told, with the values that hold where nothing is said, and the places of
the files that follow from it.

## Main definitions

* `Options` — what an update is told
* `Options.protos`, `Options.copies`, `Options.classes` — the directories that follow from it
-/

namespace EnumBindings

/-- What an update is told. -/
structure Options where
  /-- The branch of the protobufs. -/
  branch : Text
  /-- The checkout of the protobufs. -/
  checkout : Path
  /-- Where the checkout is cloned from. -/
  remote : Text
  /-- The main source directory of the SDK. -/
  sdk : Path
  /-- A directory with fragments that take the place of the boilerplate. -/
  fragments? : Option Path
  /-- Whether the checkout is used as it is. -/
  skipFetch : Bool
  /-- The names of copies that are never removed. -/
  keep : List Text
  deriving DecidableEq, Repr

namespace Options

/-- The checkout, where nothing else is said. -/
def defaultCheckout : Path :=
  "hedera-protos-git".toList

/-- The remote, where nothing else is said. -/
def defaultRemote : Text :=
  "https://github.com/hashgraph/hedera-protobufs.git".toList

/-- The source directory of the SDK, where nothing else is said. -/
def defaultSdk : Path :=
  "../sdk/src/main".toList

/-- The names to keep, where nothing else is said. -/
def defaultKeep : List Text :=
  ["TransactionList.proto".toList]

/-- The directory of proto files in the checkout. -/
def protos (options : Options) : Path :=
  options.checkout.join "services".toList

/-- The directory of the SDK's copies of the proto files. -/
def copies (options : Options) : Path :=
  options.sdk.join "proto".toList

/-- The directory of the generated enums: that of their package. -/
def classes (options : Options) : Path :=
  ["java", "com", "hedera", "hashgraph", "sdk"].foldl
    (fun path name => path.join name.toList) options.sdk

end Options

end EnumBindings
