import EnumBindings.Text.Basic

/-!
# Tokens of an enum block

Inside a block only five things matter: a `=`, the two openers of comments, the end of a line and
the closing brace. Reading goes from the left to the nearest token of the kinds that are wanted;
whatever else stands in between is skipped.

## Main definitions

* `Token` — the five tokens
* `Token.at?` — the token with which a text begins
* `Token.next?` — the nearest wanted token, with the texts before and after it

## Main results

* `Token.next?_append` — the token and the texts around it make up the text
* `Token.length_next?` — what follows a token is shorter than the text
-/

namespace EnumBindings.Block

/-- What the scan of a block stops at. -/
inductive Token where
  | assign
  | lineComment
  | blockComment
  | lineEnd
  | closeBrace
  deriving DecidableEq, Repr

namespace Token

/-- The characters of a token. -/
def lexeme : Token → Text
  | assign => ['=']
  | lineComment => ['/', '/']
  | blockComment => ['/', '*']
  | lineEnd => ['\n']
  | closeBrace => ['}']

/-- The token with which a text begins, and what follows it. -/
def at? : Text → Option (Token × Text)
  | '=' :: rest => some (assign, rest)
  | '/' :: '/' :: rest => some (lineComment, rest)
  | '/' :: '*' :: rest => some (blockComment, rest)
  | '\n' :: rest => some (lineEnd, rest)
  | '}' :: rest => some (closeBrace, rest)
  | _ => none

/-- The nearest wanted token, with the texts before and after it. -/
def next? (wanted : Token → Bool) : Text → Option (Text × Token × Text)
  | [] => none
  | c :: cs =>
    match (at? (c :: cs)).filter fun found => wanted found.1 with
    | some (token, after) => some ([], token, after)
    | none => (next? wanted cs).map fun (before, token, after) => (c :: before, token, after)

/-- A text begins with a token exactly if it begins with the characters of the token. -/
theorem at?_eq_some_iff {s after : Text} {token : Token} :
    at? s = some (token, after) ↔ s = token.lexeme ++ after := by
  constructor
  · intro h
    unfold at? at h
    split at h <;> simp_all [lexeme] <;> (obtain ⟨rfl, rfl⟩ := h; rfl)
  · rintro rfl
    cases token <;> rfl

/-- The wanted token and the texts around it make up the text. -/
theorem next?_append {wanted : Token → Bool} {s before after : Text} {token : Token}
    (h : next? wanted s = some (before, token, after)) :
    s = before ++ token.lexeme ++ after ∧ wanted token = true := by
  induction s generalizing before with
  | nil => simp [next?] at h
  | cons c cs ih =>
    unfold next? at h
    split at h
    next found =>
      obtain ⟨here, kind⟩ := Option.filter_eq_some_iff.mp found
      cases h
      exact ⟨by simpa using at?_eq_some_iff.mp here, kind⟩
    next =>
      obtain ⟨⟨front, kind, back⟩, found, same⟩ := Option.map_eq_some_iff.mp h
      cases same
      obtain ⟨rfl, kind⟩ := ih found
      exact ⟨by simp, kind⟩

/-- Every token has a character. -/
theorem lexeme_length_pos (token : Token) : 0 < token.lexeme.length := by
  cases token <;> decide

/-- What follows a token is shorter than the text. -/
theorem length_next? {wanted : Token → Bool} {s before after : Text} {token : Token}
    (h : next? wanted s = some (before, token, after)) : after.length < s.length := by
  have whole := congrArg List.length (next?_append h).1
  have := token.lexeme_length_pos
  simp only [List.length_append] at whole
  omega

end Token

end EnumBindings.Block
