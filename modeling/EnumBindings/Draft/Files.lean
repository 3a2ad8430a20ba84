import EnumBindings.Draft.Basic
import EnumBindings.Failure

/-!
# Drafts and files

Entries can come from a proto file, and the generated code goes to a file or to a place of limited
size.
-/

namespace EnumBindings.Draft

/-- Adds the entries of the draft's enum in a proto file. -/
def addFile (space : Workspace) (path : Path) (draft : Draft) : Except SourceFailure Draft := do
  let source ← (space.read path).mapError .unreadable
  (draft.addSource source).mapError (.malformed draft.enum)

/-- Writes the generated code to a file. -/
def save (space : Workspace) (path : Path) (draft : Draft) : Except FileFault Workspace :=
  space.write path draft.code

/-- The generated code, for a place that may be limited to a number of bytes. -/
def codeWithin (limit? : Option Nat) (draft : Draft) : Except FileFault Text :=
  match limit? with
  | none => .ok draft.code
  | some limit =>
    if draft.code.encode.size ≤ limit then .ok draft.code else .error .full

end EnumBindings.Draft
