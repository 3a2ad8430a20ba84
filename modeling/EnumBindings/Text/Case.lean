import EnumBindings.Text.AlphanumericTable
import EnumBindings.Text.CaseTable

/-!
# Letters and their case

Whether a character is alphanumeric, upper case or lower case, and what it becomes in upper case.
Below `0x80` these are the properties of `Char`, above they are read from the tables.

## Main definitions

* `isAlphanumeric` — alphabetic or numeric
* `isUppercase`, `isLowercase` — the derived case properties
* `uppercase` — the full mapping, of one character to one or more
-/

namespace EnumBindings

/-- Whether a character is alphabetic or numeric. -/
def isAlphanumeric (c : Char) : Bool :=
  if c.toNat < 0x80 then c.isAlphanum else alphanumericSpans.any (·.contains c.toNat)

/-- Whether a character is upper case. -/
def isUppercase (c : Char) : Bool :=
  if c.toNat < 0x80 then c.isUpper else uppercaseSpans.any (·.contains c.toNat)

/-- Whether a character is lower case. -/
def isLowercase (c : Char) : Bool :=
  if c.toNat < 0x80 then c.isLower else lowercaseSpans.any (·.contains c.toNat)

/-- The upper case of a code point from `0x80` on. -/
def uppercaseCodes (code : Nat) : List Nat :=
  match uppercaseExpansions.lookup code with
  | some codes => codes
  | none =>
    match uppercaseShifts.find? (·.span.contains code) with
    | some shift => [shift.image + (code - shift.span.first)]
    | none => [code]

/-- The upper case of a character: one character, or several where the mapping expands. -/
def uppercase (c : Char) : List Char :=
  if c.toNat < 0x80 then [c.toUpper] else (uppercaseCodes c.toNat).map Char.ofNat

end EnumBindings
