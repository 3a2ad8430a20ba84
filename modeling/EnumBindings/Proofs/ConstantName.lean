import EnumBindings.ConstantName
import EnumBindings.Proofs.Text.UpperCase

/-!
# Characters of constant names

The constant of an identifier has upper case characters in place of those of the identifier, and
underscores. No character becomes a newline by that, so the constant is as much on one line as the
identifier is. Nor does upper case change any of its characters once more.

## Main results

* `ConstantName.ofIdentifier_cases` — the two ways in which a name is put into upper case
* `ConstantName.spread_pair`, `ConstantName.spread_cons` — how an identifier is spread
* `ConstantName.pairs_induction` — induction from one `ID` or other character to the next
* `ConstantName.eq_underscore_or_mem_upper` — what the characters of a constant are
* `ConstantName.newline_notMem_ofIdentifier` — the constant of an identifier on one line is on one
* `ConstantName.uppercase_of_mem_ofIdentifier` — a constant is in upper case
-/

namespace EnumBindings.ConstantName

variable {c : Char} {s : Text}

/-- An identifier is to be spread if it has no underscores but both upper and lower case. -/
theorem isSnakeLike_eq_false_iff : isSnakeLike s = false ↔
    '_' ∉ s ∧ (∃ c ∈ s, isUppercase c = true) ∧ ∃ c ∈ s, isLowercase c = true := by
  simp [isSnakeLike]

theorem ofIdentifier_of_isSnakeLike (snake : isSnakeLike s = true) : ofIdentifier s = upper s := by
  unfold ofIdentifier
  rw [if_pos snake]

theorem ofIdentifier_cons (mixed : isSnakeLike (c :: s) = false) :
    ofIdentifier (c :: s) = uppercase c ++ spread s := by
  unfold ofIdentifier
  rw [mixed]
  rfl

/-- A name is only put into upper case, or it is in mixed case and spread behind its first
character. -/
theorem ofIdentifier_cases (s : Text) : isSnakeLike s = true ∧ ofIdentifier s = upper s ∨
    ∃ first rest, s = first :: rest ∧ isSnakeLike (first :: rest) = false ∧
      ofIdentifier (first :: rest) = uppercase first ++ spread rest := by
  cases snake : isSnakeLike s with
  | true => exact .inl ⟨rfl, ofIdentifier_of_isSnakeLike snake⟩
  | false =>
    cases s with
    | nil => cases snake
    | cons first rest => exact .inr ⟨first, rest, rfl, snake, ofIdentifier_cons snake⟩

theorem upper_cons (c : Char) (s : Text) : upper (c :: s) = uppercase c ++ upper s :=
  List.flatMap_cons

/-! ### Spreading -/

theorem spread_pair (s : Text) : spread ('I' :: 'D' :: s) = '_' :: 'I' :: 'D' :: spread s := by
  rw [spread]

/-- Where no `ID` begins, a character gets an underscore if it is upper case. -/
theorem spread_cons (unpaired : ¬ ['I', 'D'] <+: c :: s) :
    spread (c :: s) = (if isUppercase c then ['_'] else []) ++ (uppercase c ++ spread s) := by
  rw [spread]
  · split <;> rfl
  · rintro rest rfl rfl
    exact unpaired (List.prefix_append ['I', 'D'] rest)

/-- An `ID` begins a text exactly if its first two characters are these. -/
theorem pair_prefix_cons_iff : ['I', 'D'] <+: c :: s ↔ c = 'I' ∧ s.head? = some 'D' := by
  cases s <;> simp [List.cons_prefix_cons, eq_comm]

/-- What holds of the empty text, and of a text if it holds of what follows an `ID` at its beginning
or else of what follows its first character, holds of all texts. -/
@[elab_as_elim]
theorem pairs_induction {motive : Text → Prop} (nil : motive [])
    (pair : ∀ rest, motive rest → motive ('I' :: 'D' :: rest))
    (single : ∀ c rest, ¬ ['I', 'D'] <+: c :: rest → motive rest → motive (c :: rest)) (s : Text) :
    motive s := by
  have begins {c : Char} {rest : Text} (unpaired : ∀ rest', c = 'I' → rest = 'D' :: rest' → False) :
      ¬ ['I', 'D'] <+: c :: rest := by
    rintro ⟨rest', whole⟩
    cases whole
    exact unpaired rest' rfl rfl
  induction s using spread.induct with
  | case1 => exact nil
  | case2 rest ih => exact pair rest ih
  | case3 c rest unpaired _ ih => exact single c rest (begins unpaired) ih
  | case4 c rest unpaired _ ih => exact single c rest (begins unpaired) ih

/-- Spreading puts only underscores between what the characters become in upper case. -/
theorem eq_underscore_or_mem_upper_of_mem_spread (there : c ∈ spread s) :
    c = '_' ∨ c ∈ upper s := by
  induction s using pairs_induction with
  | nil => cases there
  | pair rest ih =>
    have whole : upper ('I' :: 'D' :: rest) = 'I' :: 'D' :: upper rest := rfl
    rw [spread_pair, List.mem_cons, List.mem_cons, List.mem_cons] at there
    rw [whole, List.mem_cons, List.mem_cons]
    rcases there with here | here | here | later
    · exact .inl here
    · exact .inr (.inl here)
    · exact .inr (.inr (.inl here))
    · exact (ih later).imp_right fun among => .inr (.inr among)
  | single first rest unpaired ih =>
    rw [spread_cons unpaired, List.mem_append, List.mem_append] at there
    rw [upper_cons, List.mem_append]
    rcases there with mark | here | later
    · split at mark
      · exact .inl (List.mem_singleton.mp mark)
      · cases mark
    · exact .inr (.inl here)
    · exact (ih later).imp_right .inr

/-! ### Constants -/

/-- The characters of a constant are underscores and what those of the identifier become in upper
case. -/
theorem eq_underscore_or_mem_upper (there : c ∈ ofIdentifier s) : c = '_' ∨ c ∈ upper s := by
  rcases ofIdentifier_cases s with ⟨-, whole⟩ | ⟨first, rest, rfl, -, whole⟩
  · rw [whole] at there
    exact .inr there
  · rw [whole] at there
    rw [upper_cons, List.mem_append]
    rcases List.mem_append.mp there with here | later
    · exact .inr (.inl here)
    · exact (eq_underscore_or_mem_upper_of_mem_spread later).imp_right .inr

/-- The constant of an identifier on one line is on one line. -/
theorem newline_notMem_ofIdentifier (inline : '\n' ∉ s) : '\n' ∉ ofIdentifier s := by
  intro there
  rcases eq_underscore_or_mem_upper there with same | among
  · exact absurd same (by decide)
  · obtain ⟨c, among, newline⟩ := List.mem_flatMap.mp among
    have other : c ≠ '\n' := fun same => inline (same ▸ among)
    exact newline_notMem_uppercase other newline

/-- A constant is in upper case. -/
theorem uppercase_of_mem_ofIdentifier (there : c ∈ ofIdentifier s) : uppercase c = [c] := by
  rcases eq_underscore_or_mem_upper there with rfl | among
  · rfl
  · obtain ⟨first, -, here⟩ := List.mem_flatMap.mp among
    exact uppercase_of_mem_uppercase here

/-- What is lower case in a constant is so in the identifier, and has no other upper case. -/
theorem mem_of_isLowercase (there : c ∈ ofIdentifier s) (lower : isLowercase c = true) :
    c ∈ s ∧ uppercase c = [c] := by
  rcases eq_underscore_or_mem_upper there with rfl | among
  · exact absurd lower (by decide)
  · obtain ⟨first, among, here⟩ := List.mem_flatMap.mp among
    have kept := uppercase_eq_self_of_isLowercase here lower
    rw [kept, List.mem_singleton] at here
    rw [here]
    exact ⟨among, kept⟩

end EnumBindings.ConstantName
