import EnumBindings.Proofs.ConstantName.Idempotence
import EnumBindings.Proofs.Text.Occurrence

/-!
# What a constant has besides the upper case of its name

Naming puts a name into upper case, as a whole or by a walk through it that goes on by one character
or, at an `ID`, by two. Both ways lead to the same characters in the same order. The walk only adds
underscores, and where the name had none of its own these stand one by one between other characters.

The walk is also followed position by position here, with each character looked up where it is
needed. A character would be missing if the walk left the name, or if it began in an empty one. It
never does: without characters, a name is not in mixed case.

## Main definitions

* `ConstantName.spreadFrom?`, `ConstantName.byPosition?` — a name walked through by position
* `ConstantName.Separating` — underscores stand one by one between other characters

## Main results

* `ConstantName.filter_spread`, `ConstantName.upper_sublist_spread` — spreading adds underscores
* `ConstantName.clear_spread` — none of them is last or in front of another one
* `ConstantName.spreadFrom?_eq` — no position outside of the name is looked up
* `ConstantName.ofIdentifier_up_to_underscores` — how a constant and the upper case compare
-/

namespace EnumBindings.ConstantName

variable {c : Char} {s name : Text}

/-! ### Naming by position -/

/-- The part of a name in mixed case from a position on, spread. Nothing is returned if a character
is missing where one is looked up; behind an `I`, the name may end. -/
def spreadFrom? (name : Text) (position : Nat) : Option Text :=
  if position < name.length then
    if name[position]? = some 'I' ∧ name[position + 1]? = some 'D' then
      (spreadFrom? name (position + 2)).map fun rest => '_' :: 'I' :: 'D' :: rest
    else do
      let c ← name[position]?
      let rest ← spreadFrom? name (position + 1)
      return (if isUppercase c then ['_'] else []) ++ (uppercase c ++ rest)
  else some []
termination_by name.length - position

/-- The constant of a name, found by position. Nothing is returned if a character is missing. -/
def byPosition? (name : Text) : Option Text :=
  if isSnakeLike name then some (upper name)
  else do
    let first ← name[0]?
    let rest ← spreadFrom? name 1
    return uppercase first ++ rest

/-- From each position on, a name is spread like the text there. -/
theorem spreadFrom?_eq (position : Nat) :
    spreadFrom? s position = some (spread (s.drop position)) := by
  fun_induction spreadFrom? s position with
  | case1 position within pair ih =>
    -- The two characters that are looked up are the first ones of the text from here on.
    have here := List.drop_eq_getElem_cons within
    rw [List.getElem?_eq_getElem within, Option.some.injEq, ← List.head?_drop,
      ← pair_prefix_cons_iff, ← here] at pair
    obtain ⟨rest, whole⟩ := pair
    have behind : s.drop (position + 2) = rest := by
      rw [← List.drop_drop, ← whole]
      rfl
    rw [ih, behind, ← whole, Option.map_some]
    exact congrArg some (spread_pair rest).symm
  | case2 position within unpaired ih =>
    have here := List.drop_eq_getElem_cons within
    rw [List.getElem?_eq_getElem within, Option.some.injEq, ← List.head?_drop,
      ← pair_prefix_cons_iff] at unpaired
    rw [here, spread_cons unpaired, ih, List.getElem?_eq_getElem within]
    rfl
  | case3 position beyond =>
    rw [List.drop_eq_nil_of_le (Nat.le_of_not_lt beyond)]
    rfl

/-- No position is looked up at which a name has no character. -/
theorem byPosition?_eq (name : Text) : byPosition? name = some (ofIdentifier name) := by
  rcases ofIdentifier_cases name with ⟨snake, whole⟩ | ⟨first, rest, rfl, mixed, whole⟩
  · rw [whole, byPosition?, if_pos snake]
  · rw [whole, byPosition?, mixed, spreadFrom?_eq]
    rfl

/-! ### What is added -/

/-- Apart from underscores, a text that is spread has the characters of its upper case. -/
theorem filter_spread (s : Text) : (spread s).filter (· != '_') = (upper s).filter (· != '_') := by
  induction s using pairs_induction with
  | nil => rfl
  | pair rest ih =>
    have whole : upper ('I' :: 'D' :: rest) = 'I' :: 'D' :: upper rest := rfl
    rw [spread_pair, whole]
    exact congrArg (fun later => 'I' :: 'D' :: later) ih
  | single c rest unpaired ih =>
    rw [spread_cons unpaired, upper_cons, List.filter_append, List.filter_append,
      List.filter_append, ih]
    split <;> rfl

/-- All of the upper case of a text is left when the text is spread. -/
theorem upper_sublist_spread (s : Text) : (upper s).Sublist (spread s) := by
  induction s using pairs_induction with
  | nil => exact .slnil
  | pair rest ih =>
    rw [spread_pair]
    exact .cons _ (.cons_cons _ (.cons_cons _ ih))
  | single c rest unpaired ih =>
    rw [spread_cons unpaired, upper_cons]
    exact (ih.append_left _).trans (List.sublist_append_right _ _)

/-- Apart from underscores, a constant has the characters of the upper case of its name. -/
theorem filter_ofIdentifier (name : Text) :
    (ofIdentifier name).filter (· != '_') = (upper name).filter (· != '_') := by
  rcases ofIdentifier_cases name with ⟨-, whole⟩ | ⟨first, rest, rfl, -, whole⟩
  · rw [whole]
  · rw [whole, upper_cons, List.filter_append, List.filter_append, filter_spread]

/-- All of the upper case of a name is left in its constant. -/
theorem upper_sublist_ofIdentifier (name : Text) : (upper name).Sublist (ofIdentifier name) := by
  rcases ofIdentifier_cases name with ⟨-, whole⟩ | ⟨first, rest, rfl, -, whole⟩
  · simp only [whole, List.Sublist.refl]
  · rw [whole, upper_cons]
    exact (upper_sublist_spread rest).append_left _

/-! ### Where it is added -/

/-- Underscores only stand between other characters, one at a place. -/
structure Separating (s : Text) : Prop where
  first : s.head? ≠ some '_'
  last : s.getLast? ≠ some '_'
  single : ¬ ['_', '_'] <:+: s

/-- When a text without underscores is spread, none of the underscores that it gets is followed by
another one, even if one stands behind the text. -/
theorem clear_spread (plain : '_' ∉ s) : Text.Clear ['_', '_'] (spread s) ['_'] := by
  induction s using pairs_induction with
  | nil => exact Text.clear_nil
  | pair rest ih =>
    rw [List.mem_cons, List.mem_cons, not_or, not_or] at plain
    rw [spread_pair]
    exact ⟨by simp, by simp, by simp, ih plain.2.2⟩
  | single c rest unpaired ih =>
    rw [List.mem_cons, not_or] at plain
    have inside : '_' ∉ uppercase c := underscore_notMem_uppercase (Ne.symm plain.1)
    have here : Text.Clear ['_', '_'] (uppercase c) (spread rest ++ ['_']) :=
      Text.clear_of_notMem inside
    rw [spread_cons unpaired, Text.clear_append, Text.clear_append]
    refine ⟨?_, here, ih plain.2⟩
    split
    · -- The underscore is followed by the character that it was put in front of.
      obtain ⟨d, later, whole⟩ := List.exists_cons_of_ne_nil (uppercase_ne_nil c)
      rw [whole, List.mem_cons, not_or] at inside
      rw [whole]
      exact ⟨by simpa [List.cons_prefix_cons] using inside.1, Text.clear_nil⟩
    · exact Text.clear_nil

/-- The underscores of a constant stand between other characters if the name had none. -/
theorem separating_ofIdentifier (plain : '_' ∉ name) : Separating (ofIdentifier name) := by
  have within : '_' ∉ upper name := mt underscore_mem_upper_iff.mp plain
  -- As a whole in upper case, the name gets no underscores; so it has none.
  rcases ofIdentifier_cases name with ⟨-, whole⟩ | ⟨first, rest, rfl, -, whole⟩
  · rw [whole]
    exact ⟨mt List.mem_of_mem_head? within, mt List.mem_of_mem_getLast? within,
      fun there => within (there.subset List.mem_cons_self)⟩
  · rw [upper_cons, List.mem_append, not_or] at within
    rw [List.mem_cons, not_or] at plain
    have clear : Text.Clear ['_', '_'] (uppercase first ++ spread rest) ['_'] :=
      Text.clear_append.mpr ⟨Text.clear_of_notMem within.1, clear_spread plain.2⟩
    obtain ⟨single, last⟩ := Text.clear_pair_iff.mp clear
    rw [whole]
    refine ⟨?_, fun there => last ⟨there, rfl⟩, single⟩
    -- What is spread follows a character that is not an underscore in upper case either.
    have head : (uppercase first ++ spread rest).head? = (uppercase first).head? := by
      obtain ⟨d, later, same⟩ := List.exists_cons_of_ne_nil (uppercase_ne_nil first)
      rw [same]
      rfl
    rw [head]
    exact mt List.mem_of_mem_head? within.1

/-! ### Constants -/

/-- A constant is the upper case of its name up to underscores: without them the two are the same,
and nothing of the upper case is missing in the constant, underscores included. Those that are
added to a name without any stand one by one between other characters. All of it is found by
looking characters up where the name has some. -/
theorem ofIdentifier_up_to_underscores (name : Text) :
    (ofIdentifier name).filter (· != '_') = (upper name).filter (· != '_') ∧
      (upper name).Sublist (ofIdentifier name) ∧
      ('_' ∉ name → Separating (ofIdentifier name)) ∧
      byPosition? name = some (ofIdentifier name) :=
  ⟨filter_ofIdentifier name, upper_sublist_ofIdentifier name, separating_ofIdentifier,
    byPosition?_eq name⟩

/-- An `ID` in front, inside and at the end of a name without underscores, and characters that
become several others or none other. -/
theorem ofIdentifier_up_to_underscores_ordinal :
    '_' ∉ "IDßªIdID".toList ∧ ofIdentifier "IDßªIdID".toList = "I_DSSª_ID_ID".toList ∧
      Separating (ofIdentifier "IDßªIdID".toList) := by
  have plain : '_' ∉ "IDßªIdID".toList := by decide
  have named : ofIdentifier "IDßªIdID".toList = "I_DSSª_ID_ID".toList := by decide +kernel
  exact ⟨plain, named, (ofIdentifier_up_to_underscores _).2.2.1 plain⟩

end EnumBindings.ConstantName
