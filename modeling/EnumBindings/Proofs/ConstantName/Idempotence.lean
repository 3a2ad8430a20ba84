import EnumBindings.Proofs.ConstantName

/-!
# Constants named once more

The constant of an identifier is a text of its own, and could be taken for an identifier. Naming it
once more is to change nothing. What is in upper case stays so, but whether underscores are put in
is decided anew: a constant with underscores or without lower case gets no more of them. Some
characters are lower case and have no upper case, however. If one of these is in the constant next
to upper case, the constant is taken for one in mixed case, although it is in upper case as far as
it can be.

## Main definitions

* `ConstantName.Unsettled` — a constant that gets underscores only when it is named once more

## Main results

* `ConstantName.ofIdentifier_eq_self_iff` — when a text in upper case is its own constant
* `ConstantName.ofIdentifier_ofIdentifier_iff` — when naming twice is naming once
-/

namespace EnumBindings.ConstantName

variable {c : Char} {s name : Text}

/-! ### Texts in upper case -/

/-- A text whose characters are their own upper case stays as it is. -/
theorem upper_eq_self (kept : ∀ c ∈ s, uppercase c = [c]) : upper s = s := by
  induction s with
  | nil => rfl
  | cons c rest ih =>
    rw [List.forall_mem_cons] at kept
    rw [upper_cons, kept.1, ih kept.2]
    rfl

theorem underscore_mem_upper_iff : '_' ∈ upper s ↔ '_' ∈ s := by
  constructor
  · intro there
    obtain ⟨c, among, here⟩ := List.mem_flatMap.mp there
    by_cases same : c = '_'
    · exact same ▸ among
    · exact absurd here (underscore_notMem_uppercase same)
  · intro there
    exact List.mem_flatMap.mpr ⟨'_', there, by decide⟩

/-- A text without upper case is only put into upper case. -/
theorem spread_eq_upper (uncapped : ∀ c ∈ s, isUppercase c = false) : spread s = upper s := by
  induction s using pairs_induction with
  | nil => rfl
  | pair rest ih => exact absurd (uncapped 'I' List.mem_cons_self) (by decide)
  | single first rest unpaired ih =>
    rw [List.forall_mem_cons] at uncapped
    rw [spread_cons unpaired, uncapped.1, ih uncapped.2, upper_cons]
    rfl

/-- Upper case gets an underscore. -/
theorem underscore_mem_spread (there : c ∈ s) (capital : isUppercase c = true) :
    '_' ∈ spread s := by
  induction s using pairs_induction with
  | nil => cases there
  | pair rest ih =>
    rw [spread_pair]
    exact List.mem_cons_self
  | single first rest unpaired ih =>
    rw [spread_cons unpaired]
    rcases List.mem_cons.mp there with rfl | later
    · rw [if_pos capital]
      exact List.mem_cons_self
    · exact List.mem_append_right _ (List.mem_append_right _ (ih later))

/-- A name in mixed case gets an underscore if it has upper case behind its first character. -/
theorem underscore_mem_ofIdentifier (mixed : isSnakeLike name = false) (there : c ∈ name.tail)
    (capital : isUppercase c = true) : '_' ∈ ofIdentifier name := by
  cases name with
  | nil => cases there
  | cons first rest =>
    rw [ofIdentifier_cons mixed]
    exact List.mem_append_right _ (underscore_mem_spread there capital)

/-- Without upper case behind its first character, a name is only put into upper case. -/
theorem ofIdentifier_eq_upper (uncapped : ∀ c ∈ name.tail, isUppercase c = false) :
    ofIdentifier name = upper name := by
  cases snake : isSnakeLike name with
  | true => exact ofIdentifier_of_isSnakeLike snake
  | false =>
    cases name with
    | nil => rfl
    | cons first rest =>
      rw [List.tail_cons] at uncapped
      rw [ofIdentifier_cons snake, spread_eq_upper uncapped, upper_cons]

/-- A text in upper case is its own constant exactly if it needs no underscores, or has no place
for them. -/
theorem ofIdentifier_eq_self_iff (kept : ∀ c ∈ s, uppercase c = [c]) :
    ofIdentifier s = s ↔ isSnakeLike s = true ∨ ∀ c ∈ s.tail, isUppercase c = false := by
  constructor
  · intro same
    cases snake : isSnakeLike s with
    | true => exact .inl rfl
    | false =>
      refine .inr fun c there => Bool.eq_false_iff.mpr fun capital => ?_
      -- Upper case would get an underscore, and the text has none.
      obtain ⟨plain, -, -⟩ := isSnakeLike_eq_false_iff.mp snake
      apply plain
      rw [← same]
      exact underscore_mem_ofIdentifier snake there capital
  · rintro (snake | uncapped)
    · rw [ofIdentifier_of_isSnakeLike snake, upper_eq_self kept]
    · rw [ofIdentifier_eq_upper uncapped, upper_eq_self kept]

/-! ### Naming twice -/

/-- A name without underscores that has no upper case behind its first character, so that it is only
put into upper case, but then has upper case there and also a character that is lower case and has
no upper case. -/
structure Unsettled (name : Text) : Prop where
  plain : '_' ∉ name
  uncapped : ∀ c ∈ name.tail, isUppercase c = false
  stays : ∃ c ∈ name, isLowercase c = true ∧ uppercase c = [c]
  rises : ∃ c ∈ (upper name).tail, isUppercase c = true

theorem Unsettled.isSnakeLike_upper (unsettled : Unsettled name) :
    isSnakeLike (upper name) = false := by
  obtain ⟨plain, -, ⟨c, there, lower, kept⟩, ⟨d, there', capital⟩⟩ := unsettled
  refine isSnakeLike_eq_false_iff.mpr ⟨?_, ⟨d, List.mem_of_mem_tail there', capital⟩, c, ?_, lower⟩
  · rwa [underscore_mem_upper_iff]
  · exact List.mem_flatMap.mpr ⟨c, there, by rw [kept]; exact List.mem_singleton_self c⟩

/-- A constant that is taken for a name in mixed case was only put into upper case. -/
theorem uncapped_of_isSnakeLike_eq_false (mixed : isSnakeLike (ofIdentifier name) = false) :
    '_' ∉ name ∧ ∀ c ∈ name.tail, isUppercase c = false := by
  obtain ⟨plain, -, d, there, lower⟩ := isSnakeLike_eq_false_iff.mp mixed
  cases snake : isSnakeLike name with
  | true =>
    rw [ofIdentifier_of_isSnakeLike snake, underscore_mem_upper_iff] at plain
    refine ⟨plain, fun c behind => Bool.eq_false_iff.mpr fun capital => ?_⟩
    -- With the lower case that is left, the name would be in mixed case itself.
    obtain ⟨origin, -⟩ := mem_of_isLowercase there lower
    have spread : isSnakeLike name = false := isSnakeLike_eq_false_iff.mpr
      ⟨plain, ⟨c, List.mem_of_mem_tail behind, capital⟩, d, origin, lower⟩
    rw [snake] at spread
    cases spread
  | false =>
    refine ⟨(isSnakeLike_eq_false_iff.mp snake).1, fun c behind => ?_⟩
    exact Bool.eq_false_iff.mpr fun capital =>
      plain (underscore_mem_ofIdentifier snake behind capital)

/-- Naming a constant once more changes nothing unless it is left in mixed case. -/
theorem ofIdentifier_ofIdentifier_iff (name : Text) :
    ofIdentifier (ofIdentifier name) = ofIdentifier name ↔ ¬ Unsettled name := by
  rw [ofIdentifier_eq_self_iff fun c there => uppercase_of_mem_ofIdentifier there]
  constructor
  · rintro settled unsettled
    rw [ofIdentifier_eq_upper unsettled.uncapped, unsettled.isSnakeLike_upper] at settled
    rcases settled with snake | uncapped
    · cases snake
    · obtain ⟨c, there, capital⟩ := unsettled.rises
      rw [uncapped c there] at capital
      cases capital
  · intro settled
    cases mixed : isSnakeLike (ofIdentifier name) with
    | true => exact .inl rfl
    | false =>
      refine .inr fun c there => Bool.eq_false_iff.mpr fun capital => settled ?_
      obtain ⟨-, -, d, among, lower⟩ := isSnakeLike_eq_false_iff.mp mixed
      obtain ⟨plain, uncapped⟩ := uncapped_of_isSnakeLike_eq_false mixed
      obtain ⟨origin, kept⟩ := mem_of_isLowercase among lower
      rw [ofIdentifier_eq_upper uncapped] at there
      exact ⟨plain, uncapped, ⟨d, origin, lower, kept⟩, ⟨c, there, capital⟩⟩

/-- An ordinal indicator is lower case and has no upper case. Behind one, a letter that was put into
upper case gets an underscore when the constant is named once more. -/
theorem ofIdentifier_ordinal_twice : ofIdentifier ['ª', 'b'] = ['ª', 'B'] ∧
    ofIdentifier (ofIdentifier ['ª', 'b']) = ['ª', '_', 'B'] := by
  decide +kernel

end EnumBindings.ConstantName
