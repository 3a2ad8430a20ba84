import EnumBindings.Draft.Files
import EnumBindings.Target.Boilerplate

/-!
# Generated enums

A target is an enum that is generated: its class, the proto file and the enum there that it comes
from, and whether it has a `toString`. Its file is made of fixed fragments with the sections
between them. A fragment is taken from a file of its own if there is one, and else from the
boilerplate.

## Main definitions

* `Target`, `Target.requestType`, `Target.status`
* `Target.fragment` — one fixed fragment
* `Target.draft` — the draft of the enum, without entries
* `Target.generate` — the draft with all entries of the proto enum
-/

namespace EnumBindings

/-- An enum that is generated. -/
structure Target where
  /-- The class, which the file is named after. -/
  className : Text
  /-- The proto file that has the enum, below the directory of proto files. -/
  protoFile : Text
  /-- The enum in the proto file. -/
  protoEnum : Text
  /-- Whether the class has a `toString` of its own. -/
  withToString : Bool
  deriving DecidableEq, Repr

namespace Target

/-- The kinds of transactions and queries. -/
def requestType : Target :=
  ⟨"RequestType".toList, "BasicTypes.proto".toList, "HederaFunctionality".toList, true⟩

/-- The response codes. -/
def status : Target :=
  ⟨"Status".toList, "ResponseCode.proto".toList, "ResponseCodeEnum".toList, false⟩

/-- The file of a fragment, by its number. -/
def fragmentFile (target : Target) (number : Nat) : Text :=
  target.className ++ ['-'] ++ (toString number).toList ++ ".txt".toList

/-- The boilerplate of a fragment. -/
def builtIn (target : Target) (number : Nat) : Except Failure Text :=
  match Boilerplate.fragment? target.className number with
  | some text => .ok text
  | none => .error (.noFragment number target.className)

/-- A fragment: the text of its file in the directory of fragments, or else its boilerplate. -/
def fragment (target : Target) (space : Workspace) (fragments? : Option Path) (number : Nat) :
    Except Failure Text :=
  match fragments? with
  | none => target.builtIn number
  | some directory =>
    let path := directory.join (target.fragmentFile number)
    if space.isFile path then (space.read path).mapError (.unreadable path)
    else target.builtIn number

/-- What the file is made of: the numbers of the fragments, each with the section after it. -/
def places (target : Target) : List (Nat × Option Section) :=
  if target.withToString then
    [(0, some .constants), (2, some .valueOf), (4, some .toString), (6, none)]
  else [(0, some .constants), (2, some .valueOf), (4, none)]

/-- Lays out a fragment and the section after it. -/
def layOut (target : Target) (space : Workspace) (fragments? : Option Path) (draft : Draft)
    (place : Nat × Option Section) : Except Failure Draft := do
  let text ← target.fragment space fragments? place.1
  match place.2 with
  | some which => .ok ((draft.pushText text).pushSection which)
  | none => .ok (draft.pushText text)

/-- The draft of the enum, laid out and without entries. -/
def draft (target : Target) (space : Workspace) (fragments? : Option Path) :
    Except Failure Draft :=
  target.places.foldlM (target.layOut space fragments?) { enum := target.protoEnum }

/-- The draft with all entries of the proto enum. -/
def generate (target : Target) (space : Workspace) (protos : Path) (fragments? : Option Path) :
    Except Failure Draft := do
  let path := protos.join target.protoFile
  let laidOut ← target.draft space fragments?
  (laidOut.addFile space path).mapError (.unextracted target.protoEnum path)

/-- The generated file in a directory. -/
def outputPath (target : Target) (directory : Path) : Path :=
  directory.join (target.className ++ ".java".toList)

end Target

end EnumBindings
