/-!
# Spans of code points

A property of characters is tabulated as a list of spans: every code point from a first to a last
one, or every second one where upper and lower case alternate. The tables themselves stand beside
the properties that they describe and hold no code point below `0x80`: there the properties are
those of `Char`.
-/

namespace EnumBindings

/-- The code points `first`, `first + step`, `first + 2 * step`, … up to `last`. -/
structure CodeSpan where
  first : Nat
  last : Nat
  step : Nat

namespace CodeSpan

/-- Whether a code point is one of the span. -/
def contains (span : CodeSpan) (code : Nat) : Bool :=
  span.first ≤ code && code ≤ span.last && (code - span.first) % span.step == 0

/-- A span holds exactly the code points reached from its first in whole steps. -/
theorem contains_iff {span : CodeSpan} {code : Nat} :
    span.contains code = true ↔
      span.first ≤ code ∧ code ≤ span.last ∧ (code - span.first) % span.step = 0 := by
  simp [contains, and_assoc]

end CodeSpan

end EnumBindings
