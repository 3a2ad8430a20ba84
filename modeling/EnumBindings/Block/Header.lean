import EnumBindings.Block.Fault
import EnumBindings.Text.Case

/-!
# Where the block of an enum begins

The header of an enum is the text `enum <name>`, standing alone: no identifier character comes
directly before or after it. The first such header counts, and the block begins after the next
opening brace, wherever that is.

## Main definitions

* `header?` — the text through the first header, and what follows it
* `opening` — the line on which the block begins and the text of the block, or a fault

## Main results

* `header?_append` — the text through the header and the rest make up the text
-/

namespace EnumBindings.Block

/-- Whether a character can be part of an identifier. -/
def isIdentifierChar (c : Char) : Bool :=
  isAlphanumeric c || c == '_'

/-- Whether an identifier that ends or begins here would end or begin: there is no character, or
none that can be part of an identifier. -/
def isBoundary : Option Char → Bool
  | none => true
  | some c => !isIdentifierChar c

/-- The characters of the header of an enum. -/
def headerText (enum : Text) : Text :=
  "enum ".toList ++ enum

/-- The text through the first place where a needle stands alone, and what follows; `before` is
the character in front of the text. -/
def standingAlone? (needle : Text) (before : Option Char) : Text → Option (Text × Text)
  | [] => none
  | c :: cs =>
    match Text.stripPrefix? needle (c :: cs) with
    | some rest =>
      if isBoundary before && isBoundary rest.head? then some (needle, rest)
      else (standingAlone? needle (some c) cs).map fun (through, rest) => (c :: through, rest)
    | none => (standingAlone? needle (some c) cs).map fun (through, rest) => (c :: through, rest)

/-- The text through the first header of an enum, and what follows it. -/
def header? (enum source : Text) : Option (Text × Text) :=
  standingAlone? (headerText enum) none source

/-- The line on which the block of an enum begins, and the text after its opening brace. -/
def opening (enum source : Text) : Except Fault (Nat × Text) :=
  match header? enum source with
  | none => .error .noHeader
  | some (through, rest) =>
    let line := 1 + Text.newlines through
    match Text.cut ['{'] rest with
    | none => .error (.noOpenBrace line)
    | some (gap, body) => .ok (line + Text.newlines gap, body)

/-- The part through a needle that stands alone and the rest make up the text. -/
theorem standingAlone?_append {needle s through rest : Text} {before : Option Char}
    (h : standingAlone? needle before s = some (through, rest)) : s = through ++ rest := by
  induction s generalizing before through with
  | nil => simp [standingAlone?] at h
  | cons c cs ih =>
    have later (h : (standingAlone? needle (some c) cs).map
        (fun (through, rest) => (c :: through, rest)) = some (through, rest)) :
        c :: cs = through ++ rest := by
      obtain ⟨⟨front, back⟩, found, same⟩ := Option.map_eq_some_iff.mp h
      cases same
      rw [ih found, List.cons_append]
    unfold standingAlone? at h
    split at h
    next found =>
      split at h
      · cases h
        exact Text.stripPrefix?_eq_some_iff.mp found
      · exact later h
    next => exact later h

/-- The text through the header and the rest make up the text. -/
theorem header?_append {enum source through rest : Text}
    (h : header? enum source = some (through, rest)) : source = through ++ rest :=
  standingAlone?_append h

end EnumBindings.Block
