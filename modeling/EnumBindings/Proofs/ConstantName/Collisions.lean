import EnumBindings.Proofs.ConstantName
import EnumBindings.Proofs.Text.Replacing

/-!
# Names with the same constant

Two names in camel case have the same constant only if they differ in how they write an `ID` that
stays together: spread, `Id` becomes `_ID` as well, since its second letter is put into upper case.
All else can be read back from the constant. Behind an underscore stands what was upper case, and
all other letters were lower case.

## Main definitions

* `ConstantName.CamelCase` — a name of letters and digits below `0x80` in mixed case
* `ConstantName.fold` — a name with `Id` for each `ID` behind its first character
* `ConstantName.gather` — what a spread text is read back as

## Main results

* `ConstantName.gather_spread`, `ConstantName.spread_folded` — spreading loses no more than folding
* `ConstantName.ofIdentifier_eq_iff_fold_eq` — which names have the same constant
-/

namespace EnumBindings.ConstantName

variable {c d : Char} {s t a b : Text}

/-! ### Letters and digits -/

private theorem toUpper_of_alphanumeric : ∀ code < 0x80, (Char.ofNat code).isAlphanum = true →
    (Char.ofNat code).isUpper = true ∧ (Char.ofNat code).toUpper = Char.ofNat code ∨
      (Char.ofNat code).isUpper = false ∧ (Char.ofNat code).toUpper ≠ '_' ∧
        (Char.ofNat code).toUpper.toLower = Char.ofNat code := by
  decide +kernel

/-- A capital letter is its own upper case. Any other letter or digit is read back in lower case. -/
theorem toUpper_cases_of_isAlphanum (ascii : c.isAlphanum = true) :
    c.isUpper = true ∧ c.toUpper = c ∨
      c.isUpper = false ∧ c.toUpper ≠ '_' ∧ c.toUpper.toLower = c := by
  have tabulated := toUpper_of_alphanumeric c.toNat (toNat_lt_of_isAlphanum ascii)
  rw [Char.ofNat_toNat] at tabulated
  exact tabulated ascii

theorem uppercase_of_isAlphanum (ascii : c.isAlphanum = true) : uppercase c = [c.toUpper] :=
  if_pos (toNat_lt_of_isAlphanum ascii)

theorem isUppercase_of_isAlphanum (ascii : c.isAlphanum = true) : isUppercase c = c.isUpper :=
  if_pos (toNat_lt_of_isAlphanum ascii)

theorem isLowercase_of_isAlphanum (ascii : c.isAlphanum = true) : isLowercase c = c.isLower :=
  if_pos (toNat_lt_of_isAlphanum ascii)

/-- A name of letters and digits below `0x80` that has both upper and lower case. -/
structure CamelCase (name : Text) : Prop where
  alphanumeric : ∀ c ∈ name, c.isAlphanum = true
  capital : ∃ c ∈ name, c.isUpper = true
  small : ∃ c ∈ name, c.isLower = true

theorem CamelCase.mixed (camel : CamelCase s) : isSnakeLike s = false := by
  obtain ⟨alphanumeric, ⟨c, there, upper⟩, ⟨d, there', lower⟩⟩ := camel
  refine isSnakeLike_eq_false_iff.mpr ⟨fun mark => ?_, ⟨c, there, ?_⟩, ⟨d, there', ?_⟩⟩
  · exact absurd (alphanumeric '_' mark) (by decide)
  · rw [isUppercase_of_isAlphanum (alphanumeric c there), upper]
  · rw [isLowercase_of_isAlphanum (alphanumeric d there'), lower]

/-- Two characters are both lower case letters, both upper case letters, or both digits. -/
def SameKind (c d : Char) : Prop :=
  c.isLower = true ∧ d.isLower = true ∨ c.isUpper = true ∧ d.isUpper = true ∨
    c.isDigit = true ∧ d.isDigit = true

theorem CamelCase.exists_cons (camel : CamelCase s) : ∃ c rest, s = c :: rest := by
  obtain ⟨c, there, -⟩ := camel.capital
  exact List.exists_cons_of_ne_nil (List.ne_nil_of_mem there)

theorem SameKind.isUpper_eq (alike : SameKind c d) : c.isUpper = d.isUpper := by
  simp only [SameKind, isLower_iff, isUpper_iff, isDigit_iff] at alike
  rw [Bool.eq_iff_iff, isUpper_iff, isUpper_iff]
  omega

/-! ### Folding -/

/-- What is put in place of an `ID` that stays together. -/
def foldedPair : Replacement := ⟨['I', 'D'], ['I', 'd']⟩

/-- A name with `Id` in place of each literal `ID` behind its first character. -/
def fold : Text → Text
  | [] => []
  | first :: rest => first :: foldedPair.apply rest

theorem apply_foldedPair (s : Text) : foldedPair.apply s =
    Replacement.substitute ['I', 'D'] ['I', 'd'] (List.cons_ne_nil _ _) s :=
  dif_neg (List.cons_ne_nil _ _)

theorem folded_nil : foldedPair.apply [] = [] := by
  rw [apply_foldedPair]
  exact Replacement.substitute_of_clear Text.clear_nil

theorem folded_pair (s : Text) :
    foldedPair.apply ('I' :: 'D' :: s) = 'I' :: 'd' :: foldedPair.apply s := by
  rw [apply_foldedPair, apply_foldedPair]
  exact Replacement.substitute_old_append

theorem folded_cons (unpaired : ¬ ['I', 'D'] <+: c :: s) :
    foldedPair.apply (c :: s) = c :: foldedPair.apply s := by
  rw [apply_foldedPair, apply_foldedPair]
  exact Replacement.substitute_cons unpaired

/-- Folding leaves the first character. -/
theorem head?_folded (s : Text) : (foldedPair.apply s).head? = s.head? := by
  cases s using pairs_induction with
  | nil => rw [folded_nil]
  | pair rest => rw [folded_pair]; rfl
  | single c rest unpaired => rw [folded_cons unpaired]; rfl

/-- A folded text is spread like the text itself. -/
theorem spread_folded (s : Text) : spread (foldedPair.apply s) = spread s := by
  induction s using pairs_induction with
  | nil => rw [folded_nil]
  | pair rest ih =>
    have first : ¬ ['I', 'D'] <+: 'I' :: 'd' :: foldedPair.apply rest := by simp
    have second : ¬ ['I', 'D'] <+: 'd' :: foldedPair.apply rest := by simp
    rw [folded_pair, spread_cons first, spread_cons second, ih, spread_pair]
    rfl
  | single c rest unpaired ih =>
    have still : ¬ ['I', 'D'] <+: c :: foldedPair.apply rest := by
      rwa [pair_prefix_cons_iff, head?_folded, ← pair_prefix_cons_iff]
    rw [folded_cons unpaired, spread_cons still, ih, spread_cons unpaired]

/-! ### Reading back -/

/-- Reads a spread text back: what stands behind an underscore was upper case, all else was not. -/
def gather : Text → Text
  | [] => []
  | '_' :: c :: rest => c :: gather rest
  | c :: rest => c.toLower :: gather rest

theorem gather_cons (other : c ≠ '_') (s : Text) : gather (c :: s) = c.toLower :: gather s := by
  rw [gather]
  rintro d rest rfl -
  exact other rfl

/-- A text of letters and digits is read back, but for the pairs that stay together. -/
theorem gather_spread (ascii : ∀ c ∈ s, c.isAlphanum = true) :
    gather (spread s) = foldedPair.apply s := by
  induction s using pairs_induction with
  | nil => rw [folded_nil]; rfl
  | pair rest ih =>
    have later := ih fun c there => ascii c (List.mem_cons_of_mem _ (List.mem_cons_of_mem _ there))
    rw [spread_pair, folded_pair, ← later]
    rfl
  | single c rest unpaired ih =>
    rw [List.forall_mem_cons] at ascii
    rw [spread_cons unpaired, folded_cons unpaired, ← ih ascii.2, isUppercase_of_isAlphanum ascii.1,
      uppercase_of_isAlphanum ascii.1]
    -- A capital letter is found behind its underscore, all else is no underscore itself.
    rcases toUpper_cases_of_isAlphanum ascii.1 with ⟨upper, same⟩ | ⟨other, plain, same⟩
    · rw [if_pos upper, same]
      rfl
    · have behind := gather_cons plain (spread rest)
      rw [same] at behind
      rw [other]
      exact behind

/-- The constants of two names in camel case are the same exactly if the names begin alike but for
case and are folded to the same behind that. -/
theorem ofIdentifier_cons_eq_iff (camel : CamelCase (c :: s)) (camel' : CamelCase (d :: t)) :
    ofIdentifier (c :: s) = ofIdentifier (d :: t) ↔
      c.toUpper = d.toUpper ∧ foldedPair.apply s = foldedPair.apply t := by
  have ascii := List.forall_mem_cons.mp camel.alphanumeric
  have ascii' := List.forall_mem_cons.mp camel'.alphanumeric
  rw [ofIdentifier_cons camel.mixed, ofIdentifier_cons camel'.mixed,
    uppercase_of_isAlphanum ascii.1, uppercase_of_isAlphanum ascii'.1]
  constructor
  · intro same
    obtain ⟨first, rest⟩ := List.cons.inj same
    -- Constants that are the same are read back as the same.
    have read := congrArg gather rest
    rw [← gather_spread ascii.2, ← gather_spread ascii'.2]
    exact ⟨first, read⟩
  · rintro ⟨first, rest⟩
    rw [first, ← spread_folded s, rest, spread_folded]

/-- Letters of the same case, and digits, are told apart by their upper case. -/
theorem SameKind.toUpper_eq_iff (alike : SameKind c d) (ascii : c.isAlphanum = true)
    (ascii' : d.isAlphanum = true) : c.toUpper = d.toUpper ↔ c = d := by
  refine ⟨fun same => ?_, fun same => by rw [same]⟩
  rcases toUpper_cases_of_isAlphanum ascii with ⟨upper, kept⟩ | ⟨other, -, back⟩
  · rcases toUpper_cases_of_isAlphanum ascii' with ⟨-, kept'⟩ | ⟨other', -, -⟩
    · rw [← kept, ← kept', same]
    · rw [alike.isUpper_eq, other'] at upper
      cases upper
  · rcases toUpper_cases_of_isAlphanum ascii' with ⟨upper', -⟩ | ⟨-, -, back'⟩
    · rw [alike.isUpper_eq, upper'] at other
      cases other
    · rw [← back, ← back', same]

/-- Two names in camel case that begin with characters of the same kind have the same constant
exactly if they differ in nothing but `ID` against `Id` behind their first characters. -/
theorem ofIdentifier_eq_iff_fold_eq (camel : CamelCase a) (camel' : CamelCase b)
    (alike : ∀ c ∈ a.head?, ∀ d ∈ b.head?, SameKind c d) :
    ofIdentifier a = ofIdentifier b ↔ fold a = fold b := by
  obtain ⟨c, s, rfl⟩ := camel.exists_cons
  obtain ⟨d, t, rfl⟩ := camel'.exists_cons
  have kind : SameKind c d := alike c rfl d rfl
  have ascii := camel.alphanumeric c List.mem_cons_self
  have ascii' := camel'.alphanumeric d List.mem_cons_self
  rw [ofIdentifier_cons_eq_iff camel camel', kind.toUpper_eq_iff ascii ascii', fold, fold,
    List.cons.injEq]

/-- Two names that differ in how they write such a pair have the same constant. -/
theorem ofIdentifier_eq_of_pairs :
    ofIdentifier "getIDList".toList = ofIdentifier "getIdList".toList ∧
      fold "getIDList".toList = fold "getIdList".toList := by
  have camel : CamelCase "getIDList".toList :=
    ⟨List.all_eq_true.mp rfl, ⟨'I', by decide, rfl⟩, ⟨'g', by decide, rfl⟩⟩
  have camel' : CamelCase "getIdList".toList :=
    ⟨List.all_eq_true.mp rfl, ⟨'I', by decide, rfl⟩, ⟨'g', by decide, rfl⟩⟩
  have alike : ∀ c ∈ "getIDList".toList.head?, ∀ d ∈ "getIdList".toList.head?, SameKind c d := by
    rintro c ⟨⟩ d ⟨⟩
    exact .inl ⟨rfl, rfl⟩
  have same : ofIdentifier "getIDList".toList = ofIdentifier "getIdList".toList := by decide
  exact ⟨same, (ofIdentifier_eq_iff_fold_eq camel camel' alike).mp same⟩

end EnumBindings.ConstantName
