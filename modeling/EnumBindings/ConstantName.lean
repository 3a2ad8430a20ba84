import EnumBindings.Text.Basic
import EnumBindings.Text.Case

/-!
# Names of constants

The constant of a proto enum entry is its identifier in upper case. An identifier in mixed case,
which has no underscore yet, also gets one before each upper case letter after the first
character; a literal `ID` stays one word.

## Main definitions

* `ConstantName.isSnakeLike` — whether an identifier needs no underscores
* `ConstantName.ofIdentifier` — the constant of an identifier
-/

namespace EnumBindings.ConstantName

/-- The upper case of a text, character by character. -/
def upper (s : Text) : Text :=
  s.flatMap uppercase

/-- Whether an identifier has an underscore, or is not a mix of upper and lower case. -/
def isSnakeLike (identifier : Text) : Bool :=
  identifier.contains '_' || !(identifier.any isUppercase && identifier.any isLowercase)

/-- The part of a mixed-case identifier after its first character: an underscore before each
literal `ID`, and before each other upper case character. -/
def spread : Text → Text
  | [] => []
  | 'I' :: 'D' :: rest => '_' :: 'I' :: 'D' :: spread rest
  | c :: rest =>
    if isUppercase c then '_' :: (uppercase c ++ spread rest) else uppercase c ++ spread rest

/-- The constant of an identifier. -/
def ofIdentifier (identifier : Text) : Text :=
  if isSnakeLike identifier then upper identifier
  else
    match identifier with
    | [] => []
    | first :: rest => uppercase first ++ spread rest

end EnumBindings.ConstantName
