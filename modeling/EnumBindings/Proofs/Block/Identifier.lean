import EnumBindings.Block.Header
import EnumBindings.Proofs.Text.UpperCase
import EnumBindings.Text.Blank

/-!
# Characters of identifiers

No character of an identifier is white space, and none of them begins a token of a block.

## Main results

* `Block.isBlank_eq_false` — identifiers have no blanks
* `Block.isIdentifierChar_of_isAlphanum` — identifiers can have letters and digits
* `Block.notMem_of_isIdentifierChar` — identifiers have no character that is none of theirs
-/

namespace EnumBindings.Block

variable {c : Char} {s : Text}

/-- The code points of white space. -/
def blankCodes : List Nat :=
  [0x09, 0x0A, 0x0B, 0x0C, 0x0D, 0x20, 0x85, 0xA0, 0x1680, 0x2000, 0x2001, 0x2002, 0x2003, 0x2004,
    0x2005, 0x2006, 0x2007, 0x2008, 0x2009, 0x200A, 0x2028, 0x2029, 0x202F, 0x205F, 0x3000]

theorem toNat_mem_blankCodes (h : isBlank c = true) : c.toNat ∈ blankCodes := by
  simp only [isBlank, Bool.or_eq_true, Bool.and_eq_true, decide_eq_true_eq, beq_iff_eq] at h
  simp only [blankCodes, List.mem_cons, List.not_mem_nil, or_false]
  omega

private theorem isIdentifierChar_of_mem_blankCodes :
    ∀ code ∈ blankCodes, isIdentifierChar (Char.ofNat code) = false := by
  decide +kernel

/-- No character of an identifier is white space. -/
theorem isBlank_eq_false (h : isIdentifierChar c = true) : isBlank c = false := by
  rw [Bool.eq_false_iff]
  intro blank
  -- White space is a list of code points, so that the tables need only be asked for those.
  have other := isIdentifierChar_of_mem_blankCodes c.toNat (toNat_mem_blankCodes blank)
  rw [Char.ofNat_toNat, h] at other
  exact Bool.noConfusion other

private theorem isIdentifierChar_of_ascii_code :
    ∀ code < 0x80, (Char.ofNat code).isAlphanum = true →
      isIdentifierChar (Char.ofNat code) = true := by
  decide +kernel

/-- Letters and digits of ASCII can be part of an identifier. -/
theorem isIdentifierChar_of_isAlphanum (h : c.isAlphanum = true) : isIdentifierChar c = true := by
  have listed := isIdentifierChar_of_ascii_code c.toNat (toNat_lt_of_isAlphanum h)
  rw [Char.ofNat_toNat] at listed
  exact listed h

/-- An identifier does not have a character that cannot be part of one. -/
theorem notMem_of_isIdentifierChar (h : ∀ c ∈ s, isIdentifierChar c = true)
    (other : isIdentifierChar c = false) : c ∉ s := by
  intro hc
  rw [h c hc] at other
  exact Bool.noConfusion other

end EnumBindings.Block
