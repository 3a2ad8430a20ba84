import EnumBindings.Text.Basic

/-!
# Replacements

A replacement puts one fixed text in place of another wherever that occurs, from the left and
without overlaps. A table of replacements is applied in order, each one to the result of the one
before it.

## Main definitions

* `Replacement.apply` — one replacement
* `Replacement.applyAll` — a table of them
* `Replacement.comment` — the table for documentation lines
* `Replacement.proto` — the table for copied proto files
-/

namespace EnumBindings

/-- A fixed text and what is put in its place. -/
structure Replacement where
  old : Text
  new : Text

namespace Replacement

/-- Puts `new` in place of every occurrence of a non-empty `old`, from the left. -/
def substitute (old new : Text) (nonempty : old ≠ []) (s : Text) : Text :=
  match _found : Text.cut old s with
  | none => s
  | some (before, after) => before ++ new ++ substitute old new nonempty after
termination_by s.length
decreasing_by
  have shorter := Text.length_of_cut _found
  have := List.length_pos_iff.mpr nonempty
  omega

/-- One replacement. An empty text is found before every character and at the end. -/
def apply (r : Replacement) (s : Text) : Text :=
  if h : r.old = [] then r.new ++ s.flatMap fun c => c :: r.new else substitute r.old r.new h s

/-- Every replacement of a table in order, each one on the result of the one before it. -/
def applyAll (table : List Replacement) (s : Text) : Text :=
  table.foldl (fun text r => r.apply text) s

/-- What is done to a documentation line before it is put into Javadoc. -/
def comment : List Replacement :=
  [⟨"&".toList, "and".toList⟩, ⟨"<tt>".toList, []⟩, ⟨"</tt>".toList, []⟩]

/-- What is done to a proto file when it is copied: both packages become that of the SDK. -/
def proto : List Replacement :=
  [⟨"option java_package = \"com.hederahashgraph.api.proto.java\";".toList,
    "option java_package = \"com.hedera.hashgraph.sdk.proto\";".toList⟩,
   ⟨"option java_package = \"com.hederahashgraph.service.proto.java\";".toList,
    "option java_package = \"com.hedera.hashgraph.sdk.proto\";".toList⟩]

end Replacement

end EnumBindings
