import EnumBindings.Block.Scan
import EnumBindings.Draft.Rendering

/-!
# The draft of a generated enum

A draft is a layout of fixed texts and sections, with a buffer for every section of the layout.
Entries are rendered into the buffers as they come. The constants are separated by commas and ended
by a semicolon: finishing a draft turns the last comma into the semicolon, and an entry that comes
later turns it back.

## Main definitions

* `Draft` — a layout and its buffers
* `Draft.pushText`, `Draft.pushSection` — laying a draft out
* `Draft.add`, `Draft.addAll`, `Draft.addSource` — adding entries
* `Draft.finish` — ending the list of constants
* `Draft.code` — the generated file
-/

namespace EnumBindings

/-- A piece of a layout. -/
inductive Piece where
  | text (text : Text)
  | slot (which : Section)
  deriving DecidableEq, Repr

/-- The buffers of a draft: one for each section of its layout. -/
structure Buffers where
  constants : Option Text := none
  valueOf : Option Text := none
  toString : Option Text := none
  deriving DecidableEq, Repr

namespace Buffers

/-- The buffer of a section, if the section is in the layout. -/
def get? (buffers : Buffers) : Section → Option Text
  | .constants => buffers.constants
  | .valueOf => buffers.valueOf
  | .toString => buffers.toString

/-- Changes every buffer that there is. -/
def map (change : Section → Text → Text) (buffers : Buffers) : Buffers where
  constants := buffers.constants.map (change .constants)
  valueOf := buffers.valueOf.map (change .valueOf)
  toString := buffers.toString.map (change .toString)

/-- Makes sure that a section has a buffer, which is empty if it is new. -/
def ensure (which : Section) (buffers : Buffers) : Buffers :=
  match which with
  | .constants => { buffers with constants := some (buffers.constants.getD []) }
  | .valueOf => { buffers with valueOf := some (buffers.valueOf.getD []) }
  | .toString => { buffers with toString := some (buffers.toString.getD []) }

/-- Changing the buffers changes each of them on its own. -/
@[simp] theorem get?_map (change : Section → Text → Text) (buffers : Buffers) (which : Section) :
    (buffers.map change).get? which = (buffers.get? which).map (change which) := by
  cases which <;> rfl

/-- A section that is included has a buffer, and the other sections stay as they are. -/
@[simp] theorem get?_ensure (which other : Section) (buffers : Buffers) :
    (buffers.ensure which).get? other =
      if other = which then some ((buffers.get? which).getD []) else buffers.get? other := by
  cases which <;> cases other <;> rfl

end Buffers

/-- The draft of a generated enum. -/
structure Draft where
  /-- The proto enum whose entries the constants wrap. -/
  enum : Text
  /-- The pieces of the file, in their order. -/
  layout : List Piece := []
  /-- What the sections hold so far. -/
  buffers : Buffers := {}
  /-- How many entries were added. -/
  count : Nat := 0
  /-- Whether the list of constants is ended. -/
  finished : Bool := false
  deriving DecidableEq, Repr

namespace Draft

/-- What separates two constants. -/
def separator : Text :=
  ",\n\n".toList

/-- What ends the list of constants. -/
def terminator : Text :=
  ";\n\n".toList

/-- Ends a list of constants, with the terminator in place of a last separator. -/
def terminate (constants : Text) : Text :=
  (Text.stripSuffix? separator constants).getD constants ++ terminator

/-- Takes the terminator off a list of constants, for more of them to follow. A separator takes
its place if there are constants already. -/
def reopen (count : Nat) (constants : Text) : Text :=
  match Text.stripSuffix? terminator constants with
  | some items => if 0 < count then items ++ separator else items
  | none => constants

/-- Changes the buffer of the constants, if there is one. -/
def mapConstants (change : Text → Text) (draft : Draft) : Draft :=
  { draft with
    buffers := draft.buffers.map fun which text =>
      if which = .constants then change text else text }

/-- Appends a fixed text to the layout. -/
def pushText (text : Text) (draft : Draft) : Draft :=
  { draft with layout := draft.layout ++ [.text text] }

/-- Appends a section to the layout. Its buffer is empty unless the layout has the section
already. -/
def pushSection (which : Section) (draft : Draft) : Draft :=
  { draft with
    layout := draft.layout ++ [.slot which]
    buffers := draft.buffers.ensure which }

/-- Whether a section is in the layout. -/
def hasSection (which : Section) (draft : Draft) : Bool :=
  (draft.buffers.get? which).isSome

/-- Ends the list of constants, unless it is ended. -/
def finish (draft : Draft) : Draft :=
  if draft.finished then draft
  else { draft.mapConstants terminate with finished := true }

/-- A draft to which entries can be added. -/
def unfinished (draft : Draft) : Draft :=
  if draft.finished then { draft.mapConstants (reopen draft.count) with finished := false }
  else draft

/-- Renders one entry into every section of the layout. -/
def add (entry : Entry) (draft : Draft) : Draft :=
  let ready := draft.unfinished
  { ready with
    buffers := ready.buffers.map fun which text => text ++ entry.render ready.enum which
    count := ready.count + 1 }

/-- Adds some entries in their order and finishes the draft. -/
def addAll (entries : List Entry) (draft : Draft) : Draft :=
  (entries.foldl (fun draft entry => draft.add entry) draft).finish

/-- Adds the entries of the draft's enum in a proto source, or nothing if its block cannot be
read. -/
def addSource (source : Text) (draft : Draft) : Except Block.Fault Draft :=
  (Block.entries draft.enum source).map draft.addAll

/-- The text that a piece of the layout stands for. -/
def pieceText (draft : Draft) : Piece → Text
  | .text text => text
  | .slot which => (draft.buffers.get? which).getD []

/-- The generated file: the layout, with the finished sections in their places. -/
def code (draft : Draft) : Text :=
  draft.finish.layout.flatMap draft.finish.pieceText

end Draft

end EnumBindings
