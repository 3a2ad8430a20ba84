import EnumBindings.Entry
import EnumBindings.Text.Replacement

/-!
# Java renderings of an entry

An entry is rendered in three ways: as a constant of the generated enum with its Javadoc, as the
case that leads from the proto entry to the constant, and as the case that leads from the constant
to its name.

## Main definitions

* `Section` — the three renderings
* `Entry.render` — an entry in one of them
-/

namespace EnumBindings

/-- The parts of a generated enum that are filled with renderings of the entries. -/
inductive Section where
  /-- The constants. -/
  | constants
  /-- The cases from a proto entry to its constant. -/
  | valueOf
  /-- The cases from a constant to its name. -/
  | toString
  deriving DecidableEq, Repr

/-- The blanks of a level of indentation. -/
def indent (level : Nat) : Text :=
  List.replicate (4 * level) ' '

/-- A line of Javadoc, in which the replacements for comments are made. -/
def javadocLine (doc : Text) : Text :=
  match Replacement.applyAll Replacement.comment doc with
  | [] => indent 1 ++ " *\n".toList
  | text => indent 1 ++ " * ".toList ++ text ++ ['\n']

/-- The Javadoc of some lines of documentation, which is nothing if there are none. -/
def javadoc (docs : List Text) : Text :=
  if docs = [] then []
  else indent 1 ++ "/**\n".toList ++ docs.flatMap javadocLine ++ indent 1 ++ " */\n".toList

namespace Entry

/-- The constant of an entry, which wraps the entry of the proto enum. It ends with the separator
of constants. -/
def renderConstant (enum : Text) (entry : Entry) : Text :=
  javadoc entry.docs ++ indent 1 ++ entry.constant ++ ['('] ++ enum ++ ['.'] ++
    entry.identifier ++ "),\n\n".toList

/-- The case that leads from the proto entry to the constant. -/
def renderValueOf (entry : Entry) : Text :=
  indent 3 ++ "case ".toList ++ entry.identifier ++ ":\n".toList ++
    indent 4 ++ "return ".toList ++ entry.constant ++ ";\n".toList

/-- The case that leads from the constant to its name. -/
def renderToString (entry : Entry) : Text :=
  indent 3 ++ "case ".toList ++ entry.constant ++ ":\n".toList ++
    indent 4 ++ "return \"".toList ++ entry.constant ++ "\";\n".toList

/-- An entry of the proto enum `enum` as a section has it. -/
def render (enum : Text) (entry : Entry) : Section → Text
  | .constants => entry.renderConstant enum
  | .valueOf => entry.renderValueOf
  | .toString => entry.renderToString

end Entry

end EnumBindings
