import EnumBindings.Block.Token
import EnumBindings.Proofs.Text.Occurrence

/-!
# The nearest token

Reading to the nearest wanted token passes over a text in which no wanted token begins and stops
at the first one after it. This says what the reading finds, for any choice of wanted tokens.

## Main definitions

* `Token.Clear` — no wanted token begins in a text when another one follows

## Main results

* `Token.next?_append_of_clear` — the reading passes over a clear text
* `Token.next?_eq_some_iff`, `Token.next?_eq_none_iff` — what the reading finds
* `Token.clear_or_within_of_next?` — whether what is found is inside a first part
-/

namespace EnumBindings.Block.Token

variable {wanted : Token → Bool} {s t rest before after : Text} {token : Token}

/-- No wanted token begins in the text, when `rest` follows it. -/
def Clear (wanted : Token → Bool) (s rest : Text) : Prop :=
  ∀ token, wanted token = true → Text.Clear token.lexeme s rest

@[simp] theorem clear_nil : Clear wanted [] rest := fun _ _ => Text.clear_nil

theorem clear_append :
    Clear wanted (s ++ t) rest ↔ Clear wanted s (t ++ rest) ∧ Clear wanted t rest := by
  simp only [Clear, Text.clear_append]
  exact ⟨fun h => ⟨fun token w => (h token w).1, fun token w => (h token w).2⟩,
    fun h token w => ⟨h.1 token w, h.2 token w⟩⟩

/-- A text is clear of all tokens if it has none of the characters with which they begin. -/
theorem clear_of_notMem (assign : '=' ∉ s) (slash : '/' ∉ s) (newline : '\n' ∉ s)
    (brace : '}' ∉ s) : Clear wanted s rest := by
  intro token _
  cases token
  · exact Text.clear_of_notMem assign
  · exact Text.clear_of_notMem slash
  · exact Text.clear_of_notMem slash
  · exact Text.clear_of_notMem newline
  · exact Text.clear_of_notMem brace

/-- A text is clear of all tokens if it has no sign and is clear of the others. -/
theorem clear_all_iff : Clear (fun _ => true) s rest ↔ '=' ∉ s ∧ Clear (· ≠ .assign) s rest := by
  constructor
  · intro clear
    exact ⟨Text.clear_singleton_iff.mp (clear .assign rfl), fun token _ => clear token rfl⟩
  · rintro ⟨unsigned, clear⟩ token -
    by_cases sign : token = .assign
    · rw [sign]
      exact Text.clear_singleton_iff.mpr unsigned
    · exact clear token (by simpa using sign)

/-- A statement is clear of the other tokens exactly if its name and its value are. -/
theorem clear_statement_iff {name value : Text} :
    Clear (· ≠ .assign) (name ++ '=' :: value) rest ↔
      Clear (· ≠ .assign) name ('=' :: (value ++ rest)) ∧ Clear (· ≠ .assign) value rest := by
  have sign {t : Text} : Clear (· ≠ .assign) ['='] t := by
    intro token other
    cases token with
    | assign => simp at other
    | lineComment | blockComment | lineEnd | closeBrace => exact Text.clear_of_notMem (by decide)
  rw [clear_append, List.cons_append, ← List.singleton_append (l := value), clear_append]
  exact ⟨fun h => ⟨h.1, h.2.2⟩, fun h => ⟨h.1, sign, h.2⟩⟩

private theorem filter_at?_eq_none {c : Char} (h : Clear wanted (c :: s) rest) :
    ((at? (c :: (s ++ rest))).filter fun found => wanted found.1) = none := by
  rw [Option.filter_eq_none_iff]
  rintro ⟨token, after⟩ here kind
  exact (h token kind).1 ⟨after, (at?_eq_some_iff.mp here).symm⟩

/-- Reading to the nearest token passes over a text in which no wanted token begins. -/
theorem next?_append_of_clear (h : Clear wanted s rest) :
    next? wanted (s ++ rest) =
      (next? wanted rest).map fun (before, token, after) => (s ++ before, token, after) := by
  induction s with
  | nil => simp
  | cons c s ih =>
    have later : Clear wanted s rest := fun token w => (h token w).2
    rw [List.cons_append, next?, filter_at?_eq_none h, ih later, Option.map_map]
    rfl

/-- A wanted token at the beginning is found there. -/
theorem next?_lexeme_append (kind : wanted token = true) :
    next? wanted (token.lexeme ++ after) = some ([], token, after) := by
  have here : at? (token.lexeme ++ after) = some (token, after) := at?_eq_some_iff.mpr rfl
  have nonempty : token.lexeme ++ after ≠ [] := by cases token <;> simp [lexeme]
  -- The search looks at a first character, so the lexeme has to show one.
  obtain ⟨c, cs, whole⟩ := List.exists_cons_of_ne_nil nonempty
  rw [whole] at here ⊢
  rw [next?, here, Option.filter_some, if_pos kind]

/-- A wanted token is found behind a text in which no wanted token begins. -/
theorem next?_of_clear (token : Token) (h : Clear wanted before (token.lexeme ++ after))
    (kind : wanted token = true) :
    next? wanted (before ++ (token.lexeme ++ after)) = some (before, token, after) := by
  rw [next?_append_of_clear h, next?_lexeme_append kind]
  simp

/-- What is found is the first wanted token. -/
theorem next?_eq_some_iff : next? wanted s = some (before, token, after) ↔
    s = before ++ token.lexeme ++ after ∧ wanted token = true ∧
      Clear wanted before (token.lexeme ++ after) := by
  constructor
  · intro h
    obtain ⟨whole, kind⟩ := next?_append h
    refine ⟨whole, kind, ?_⟩
    -- What is left is that nothing wanted was passed over, and the search passes over one character
    -- at a time.
    clear whole
    induction s generalizing before with
    | nil => simp [next?] at h
    | cons c cs ih =>
      have whole := (next?_append h).1
      unfold next? at h
      split at h
      next =>
        cases h
        exact clear_nil
      next missing =>
        obtain ⟨⟨front, kind', back⟩, found, same⟩ := Option.map_eq_some_iff.mp h
        cases same
        intro other w
        refine ⟨?_, ih found other w⟩
        rintro ⟨behind, here⟩
        rw [Option.filter_eq_none_iff] at missing
        -- A wanted token here would have been taken.
        refine missing (other, behind) (at?_eq_some_iff.mpr ?_) w
        rw [here, whole, List.append_assoc, List.cons_append]
  · rintro ⟨rfl, kind, h⟩
    rw [List.append_assoc, next?_of_clear token h kind]

/-- Reading from the front of a text finds a token inside the text, or the text is clear. -/
theorem clear_or_within_of_next? (found : next? wanted (s ++ rest) = some (before, token, after)) :
    Clear wanted s rest ∨
      ∃ part, part ≠ [] ∧ s = before ++ part ∧ part ++ rest = token.lexeme ++ after := by
  obtain ⟨whole, -, clear⟩ := next?_eq_some_iff.mp found
  rw [List.append_assoc] at whole
  rcases List.append_eq_append_iff.mp whole with ⟨past, rfl, behind⟩ | ⟨part, longer, here⟩
  · rw [clear_append, ← behind] at clear
    exact .inl clear.1
  · cases part with
    | nil =>
      rw [List.append_nil] at longer
      rw [List.nil_append] at here
      rw [longer, ← here]
      exact .inl clear
    | cons c part => exact .inr ⟨c :: part, List.cons_ne_nil c part, longer, here.symm⟩

/-- Nothing is found exactly if no wanted token begins anywhere. -/
theorem next?_eq_none_iff : next? wanted s = none ↔ Clear wanted s [] := by
  constructor
  · intro h
    induction s with
    | nil => exact clear_nil
    | cons c cs ih =>
      unfold next? at h
      split at h
      next => simp at h
      next missing =>
        intro token w
        refine ⟨?_, ih (Option.map_eq_none_iff.mp h) token w⟩
        rintro ⟨behind, here⟩
        rw [Option.filter_eq_none_iff] at missing
        exact missing (token, behind) (at?_eq_some_iff.mpr (by simpa using here.symm)) w
  · intro h
    have past := next?_append_of_clear h
    rwa [List.append_nil] at past

end EnumBindings.Block.Token
