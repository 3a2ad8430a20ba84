import EnumBindings.Proofs.Block.Nearest
import EnumBindings.Proofs.Text.Occurrence
import Mathlib.Data.List.Induction

/-!
# Code and comments

The usual way to tell code from comments: a line comment goes up to the end of its line, a block
comment up to the first closer behind its opener, and an opener inside a comment has no meaning.
It is an automaton with five states, so that it goes over joined texts one after the other.

## Main definitions

* `Region` — code, or one of the two kinds of comment, with what may be half a delimiter
* `Region.after` — the region at the end of a text
* `Region.isComment` — whether what stands there is in a comment

## Main results

* `Region.after_code` — a text without openers stays in code
* `Region.after_line_newline`, `Region.after_block_closed` — where comments end
* `Region.after_lexeme_of_clear` — where comments begin
-/

namespace EnumBindings.Block

/-- What a place of a text belongs to. -/
inductive Region where
  | code
  /-- Code, directly behind a slash. -/
  | slash
  | line
  | block
  /-- A block comment, directly behind a star. -/
  | star
  deriving DecidableEq, Repr

namespace Region

/-- The region behind one more character. -/
def next : Region → Char → Region
  | code, '/' => slash
  | code, _ => code
  | slash, '/' => line
  | slash, '*' => block
  | slash, _ => code
  | line, '\n' => code
  | line, _ => line
  | block, '*' => star
  | block, _ => block
  | star, '/' => code
  | star, '*' => star
  | star, _ => block

/-- The region behind a text that begins in some region. -/
def after (region : Region) (s : Text) : Region :=
  s.foldl next region

/-- Whether a region is inside a comment. -/
def isComment : Region → Bool
  | code | slash => false
  | line | block | star => true

variable {region : Region} {s t rest : Text}

@[simp] theorem after_nil : after region [] = region := rfl

@[simp] theorem after_cons (c : Char) : after region (c :: s) = after (region.next c) s := rfl

@[simp] theorem after_append : after region (s ++ t) = after (after region s) t :=
  List.foldl_append

/-! ### Code -/

/-- Only a slash comes from code to a place behind a slash. -/
theorem next_code (c : Char) : next code c = if c = '/' then slash else code := by
  unfold next
  split <;> simp_all

/-- Behind a slash, a slash or a star begins a comment. -/
theorem next_slash (c : Char) :
    next slash c = if c = '/' then line else if c = '*' then block else code := by
  unfold next
  split <;> simp_all

/-- Behind a star, only a slash ends a block comment. -/
theorem next_star (c : Char) :
    next star c = if c = '/' then code else if c = '*' then star else block := by
  unfold next
  split <;> simp_all

theorem next_block (c : Char) : next block c = if c = '*' then star else block := by
  unfold next
  split <;> simp_all

theorem next_line (c : Char) : next line c = if c = '\n' then code else line := by
  unfold next
  split <;> simp_all

/-- A text without openers of comments stays in code, and comes behind a slash only at its end. -/
theorem after_code (noRemark : ¬ ['/', '/'] <:+: s) (noNote : ¬ ['/', '*'] <:+: s) :
    after code s = code ∨ after code s = slash ∧ s.getLast? = some '/' := by
  -- The last character decides together with the one before it, so the text is taken from its end.
  induction s using List.reverseRecOn with
  | nil => exact Or.inl rfl
  | append_singleton s c ih =>
    have part : s <:+: s ++ [c] := (List.prefix_append s [c]).isInfix
    have before := ih (fun h => noRemark (h.trans part)) (fun h => noNote (h.trans part))
    rw [after_append, after_cons, after_nil, List.getLast?_append]
    rcases before with here | ⟨here, last⟩
    · rw [here, next_code]
      by_cases same : c = '/' <;> simp [same]
    · obtain ⟨front, rfl⟩ := List.getLast?_eq_some_iff.mp last
      have notSlash : c ≠ '/' := fun same => noRemark ⟨front, [], by simp [same]⟩
      have notStar : c ≠ '*' := fun same => noNote ⟨front, [], by simp [same]⟩
      rw [here, next_slash, if_neg notSlash, if_neg notStar]
      exact Or.inl rfl

/-- A block comment goes on through a text without a closer, and comes behind a star only at its
end. -/
theorem after_block (unclosed : ¬ ['*', '/'] <:+: s) :
    after block s = block ∨ after block s = star ∧ s.getLast? = some '*' := by
  induction s using List.reverseRecOn with
  | nil => exact Or.inl rfl
  | append_singleton s c ih =>
    have part : s <:+: s ++ [c] := (List.prefix_append s [c]).isInfix
    rw [after_append, after_cons, after_nil, List.getLast?_append]
    rcases ih fun h => unclosed (h.trans part) with here | ⟨here, last⟩
    · rw [here, next_block]
      by_cases same : c = '*' <;> simp [same]
    · obtain ⟨front, rfl⟩ := List.getLast?_eq_some_iff.mp last
      have notSlash : c ≠ '/' := fun same => unclosed ⟨front, [], by simp [same]⟩
      rw [here, next_star, if_neg notSlash]
      by_cases same : c = '*' <;> simp [same]

/-- A block comment ends with its first closer. -/
theorem after_block_closed (unclosed : ¬ ['*', '/'] <:+: s) :
    after block (s ++ ['*', '/']) = code := by
  rw [after_append]
  -- The star of the closer leads behind a star from either region, and its slash out of the
  -- comment.
  rcases after_block unclosed with here | ⟨here, -⟩ <;> rw [here] <;> rfl

/-- A line comment goes on through its line. -/
theorem after_line (inline : '\n' ∉ s) : after line s = line := by
  induction s with
  | nil => rfl
  | cons c s ih =>
    rw [List.mem_cons, not_or] at inline
    rw [after_cons, next_line, if_neg (Ne.symm inline.1), ih inline.2]

/-- A line comment ends with its line. -/
theorem after_line_newline (inline : '\n' ∉ s) : after line (s ++ ['\n']) = code := by
  rw [after_append, after_line inline]
  rfl

/-- Behind a newline there is code, or a block comment. -/
theorem after_newline (region : Region) (s : Text) :
    after region (s ++ ['\n']) = code ∨ after region (s ++ ['\n']) = block := by
  rw [after_append]
  cases after region s <;> simp [next_code, next_slash, next_line, next_block, next_star]

/-! ### The tokens of a block -/

variable {wanted : Token → Bool} {token : Token}

/-- A text in which no comment begins stays in code up to the token behind it. -/
theorem not_isComment_of_clear (clear : Token.Clear wanted s rest)
    (remark : wanted .lineComment = true) (note : wanted .blockComment = true) :
    (after code s).isComment = false := by
  rcases after_code (Text.clear_pair_iff.mp (clear .lineComment remark)).1
    (Text.clear_pair_iff.mp (clear .blockComment note)).1 with here | ⟨here, -⟩ <;>
  rw [here] <;> rfl

/-- Behind the nearest token, the region is the one that the token begins. -/
theorem after_lexeme_of_clear (clear : Token.Clear wanted s (token.lexeme ++ rest))
    (remark : wanted .lineComment = true) (note : wanted .blockComment = true) :
    after code (s ++ token.lexeme) =
      match token with
      | .lineComment => line
      | .blockComment => block
      | .assign | .lineEnd | .closeBrace => code := by
  have noRemark := Text.clear_pair_iff.mp (clear .lineComment remark)
  have noNote := Text.clear_pair_iff.mp (clear .blockComment note)
  rw [after_append]
  rcases after_code noRemark.1 noNote.1 with here | ⟨here, last⟩
  · rw [here]
    cases token <;> rfl
  · rw [here]
    -- A slash in front of an opener would make an earlier one.
    cases token with
    | lineComment => exact absurd ⟨last, rfl⟩ noRemark.2
    | blockComment => exact absurd ⟨last, rfl⟩ noRemark.2
    | assign => rfl
    | lineEnd => rfl
    | closeBrace => rfl

end Region

end EnumBindings.Block
