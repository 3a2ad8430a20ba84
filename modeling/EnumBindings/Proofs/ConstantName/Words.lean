import EnumBindings.Proofs.ConstantName

/-!
# The words of a constant

A name in mixed case is spread by looking ahead: at each place behind the first character, a literal
`ID` is taken as a whole. The result can be told from each character and the one in front of it. An
underscore marks upper case behind the first character, but not the `D` of an `ID`.

Only at the very beginning of a name the two are different. The first character is not looked at
together with the second, so an `ID` there comes apart.

## Main definitions

* `ConstantName.opensWord` — whether an underscore is to be put in front of a character
* `ConstantName.inWords` — a name in upper case with these underscores

## Main results

* `ConstantName.spread_eq_inWords` — looking ahead comes to the same as looking back
* `ConstantName.ofIdentifier_eq_inWords_iff` — which names are put into words
-/

namespace EnumBindings.ConstantName

variable {c before : Char} {s name : Text}

/-- Whether a character opens a word, given the one in front of it: it is upper case, but not the
first of the name and not the `D` of a literal `ID`. -/
def opensWord (before? : Option Char) (c : Char) : Bool :=
  match before? with
  | none => false
  | some before => isUppercase c && !(before == 'I' && c == 'D')

/-- A text in upper case, character by character, with an underscore in front of each one that opens
a word; `before?` is the character in front of the text. -/
def inWords (before? : Option Char) : Text → Text
  | [] => []
  | c :: rest =>
    (if opensWord before? c then ['_'] else []) ++ (uppercase c ++ inWords (some c) rest)

/-- Behind the first character, upper case opens a word unless it ends an `ID`. -/
theorem opensWord_of_apart (apart : ¬ ['I', 'D'] <+: before :: c :: s) :
    opensWord (some before) c = isUppercase c := by
  have other : (before == 'I' && c == 'D') = false := by
    rw [Bool.eq_false_iff]
    intro both
    rw [Bool.and_eq_true, beq_iff_eq, beq_iff_eq] at both
    rw [both.1, both.2] at apart
    exact apart (List.prefix_append ['I', 'D'] s)
  rw [opensWord, other, Bool.not_false, Bool.and_true]

/-- A text is spread into its words, unless an `ID` stands across its beginning. -/
theorem spread_eq_inWords (apart : ¬ ['I', 'D'] <+: before :: s) :
    spread s = inWords (some before) s := by
  -- What is in front of the text changes from step to step; it only matters if it is an `I`.
  induction s using pairs_induction generalizing before with
  | nil => rfl
  | pair rest ih =>
    have later : spread rest = inWords (some 'D') rest := ih (by simp)
    have first : opensWord (some before) 'I' = true := by
      rw [opensWord_of_apart apart]
      decide
    have second : opensWord (some 'I') 'D' = false := rfl
    rw [spread_pair, later, inWords, first, inWords, second]
    rfl
  | single c rest unpaired ih =>
    rw [spread_cons unpaired, ih unpaired, inWords, opensWord_of_apart apart]

/-- The first character opens no word. -/
theorem inWords_none_cons (c : Char) (s : Text) :
    inWords none (c :: s) = uppercase c ++ inWords (some c) s := rfl

/-- A name in mixed case that begins with `ID` has the two letters in words of their own, although
all others of these pairs are kept together. -/
theorem ofIdentifier_of_pair (mixed : isSnakeLike ('I' :: 'D' :: s) = false) :
    ofIdentifier ('I' :: 'D' :: s) = 'I' :: '_' :: 'D' :: inWords (some 'D') s := by
  have first : ¬ ['I', 'D'] <+: 'D' :: s := by simp
  have upper : isUppercase 'D' = true := by decide
  rw [ofIdentifier_cons mixed, spread_cons first, if_pos upper, spread_eq_inWords first]
  rfl

/-- A name in mixed case is put into words unless it begins with `ID`. Then there is an underscore
too many, in front of the `D`. -/
theorem ofIdentifier_eq_inWords_iff (plain : '_' ∉ name)
    (capital : ∃ c ∈ name, isUppercase c = true) (small : ∃ c ∈ name, isLowercase c = true) :
    (ofIdentifier name = inWords none name ↔ ¬ ['I', 'D'] <+: name) ∧
      ∀ rest, name = 'I' :: 'D' :: rest →
        ofIdentifier name = 'I' :: '_' :: 'D' :: inWords (some 'D') rest ∧
          inWords none name = 'I' :: 'D' :: inWords (some 'D') rest := by
  have mixed := isSnakeLike_eq_false_iff.mpr ⟨plain, capital, small⟩
  refine ⟨⟨?_, fun apart => ?_⟩, ?_⟩
  · rintro same ⟨rest, rfl⟩
    have parted := (ofIdentifier_of_pair mixed).symm.trans same
    cases parted
  · cases name with
    | nil => rfl
    | cons first rest =>
      rw [ofIdentifier_cons mixed, spread_eq_inWords apart, inWords_none_cons]
  · rintro rest rfl
    exact ⟨ofIdentifier_of_pair mixed, rfl⟩

/-- Inside a name and at its end, the two letters stay one word. -/
theorem ofIdentifier_of_inner_pairs :
    ofIdentifier "getIDListID".toList = inWords none "getIDListID".toList ∧
      inWords none "getIDListID".toList = "GET_ID_LIST_ID".toList := by
  have plain : '_' ∉ "getIDListID".toList := by decide
  have words := ofIdentifier_eq_inWords_iff plain ⟨'I', by decide, by decide⟩
    ⟨'g', by decide, by decide⟩
  exact ⟨words.1.mpr (by decide), rfl⟩

/-- At the beginning of a name they do not. -/
theorem ofIdentifier_of_front_pair :
    ('_' ∉ "IDCard".toList ∧ (∃ c ∈ "IDCard".toList, isUppercase c = true) ∧
      ∃ c ∈ "IDCard".toList, isLowercase c = true) ∧
    ofIdentifier "IDCard".toList = "I_D_CARD".toList ∧
      inWords none "IDCard".toList = "ID_CARD".toList := by
  refine ⟨⟨by decide, ⟨'I', by decide, by decide⟩, ⟨'a', by decide, by decide⟩⟩, ?_⟩
  decide

end EnumBindings.ConstantName
