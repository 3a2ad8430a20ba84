import EnumBindings.ConstantName

/-!
# Entries of a proto enum

One statement `identifier = value;` of an enum block, with its documentation.
-/

namespace EnumBindings

/-- One entry of a proto enum block. -/
structure Entry where
  /-- The name as the proto file has it. -/
  identifier : Text
  /-- The name of the generated constant. -/
  constant : Text
  /-- The lines of documentation, in the order of the proto file. -/
  docs : List Text
  deriving DecidableEq, Repr

/-- The entry of an identifier, whose constant is named after it. -/
def Entry.ofIdentifier (identifier : Text) (docs : List Text) : Entry :=
  ⟨identifier, ConstantName.ofIdentifier identifier, docs⟩

end EnumBindings
