import EnumBindings.Text.Basic

/-!
# Faults of an enum block

Why the block of an enum cannot be read. Every fault but a missing header has a line, the first
line of the file being line 1.
-/

namespace EnumBindings.Block

/-- Why the block of an enum cannot be read. -/
inductive Fault where
  /-- There is no header `enum <name>`. -/
  | noHeader
  /-- No brace follows the header, which ends on the line. -/
  | noOpenBrace (line : Nat)
  /-- The block is not closed; the scan stopped on the line. -/
  | noCloseBrace (line : Nat)
  /-- A comment that starts on the line is not closed. -/
  | openComment (line : Nat)
  /-- Nothing stands before a `=` on the line. -/
  | noIdentifier (line : Nat)
  deriving DecidableEq, Repr

/-- The line of a fault, if it has one. -/
def Fault.line? : Fault → Option Nat
  | noHeader => none
  | noOpenBrace line | noCloseBrace line | openComment line | noIdentifier line => some line

/-- The wording of a fault in the block of the named enum. -/
def Fault.message (enum : Text) : Fault → Text
  | noHeader => "enum `".toList ++ enum ++ "` not found".toList
  | noOpenBrace line =>
    "enum `".toList ++ enum ++ "` (line ".toList ++ (toString line).toList ++
      ") has no opening brace".toList
  | noCloseBrace line =>
    "enum `".toList ++ enum ++ "` (line ".toList ++ (toString line).toList ++
      ") has no closing brace".toList
  | openComment line =>
    "unterminated block comment in enum `".toList ++ enum ++ "` at line ".toList ++
      (toString line).toList
  | noIdentifier line =>
    "entry without identifier in enum `".toList ++ enum ++ "` at line ".toList ++
      (toString line).toList

end EnumBindings.Block
