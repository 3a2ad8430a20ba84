/-!
# Texts

A text is the list of its characters, so that a scan of it is a recursion and a position in it is
what is left to read. This module has the searches and cuts that the rest of the library is built
from, and the passage between texts and the bytes of a file.

## Main definitions

* `Text` — a list of characters
* `Text.stripPrefix?`, `Text.stripSuffix?` — what is left of a text once an end is taken off
* `Text.cut` — the parts before and after the first occurrence of a needle
* `Text.throughLine` — the first line with its newline, and the rest
* `Text.encode`, `Text.decode?` — UTF-8

## Main results

* `Text.cut_eq_some` — the parts and the needle make up the text
* `Text.throughLine_append` — the line and the rest make up the text
* `Text.decode?_encode` — what was encoded is read back
-/

namespace EnumBindings

/-- A text is the list of its characters. -/
abbrev Text := List Char

namespace Text

/-! ### Ends of a text -/

/-- The text that follows a given beginning, if the text has that beginning. -/
def stripPrefix? : Text → Text → Option Text
  | [], s => some s
  | _ :: _, [] => none
  | p :: ps, c :: cs => if p = c then stripPrefix? ps cs else none

/-- The text that precedes a given end, if the text has that end. -/
def stripSuffix? (suffix s : Text) : Option Text :=
  (stripPrefix? suffix.reverse s.reverse).map List.reverse

/-- A beginning can be taken off exactly when the text is that beginning and the remainder. -/
theorem stripPrefix?_eq_some_iff {p s rest : Text} :
    stripPrefix? p s = some rest ↔ s = p ++ rest := by
  induction p generalizing s with
  | nil => simp [stripPrefix?]
  | cons c p ih =>
    cases s with
    | nil => simp [stripPrefix?]
    | cons d s =>
      by_cases same : c = d
      · simp [stripPrefix?, same, ih]
      · simp [stripPrefix?, same, Ne.symm same]

/-- An end can be taken off exactly when the text is the remainder and that end. -/
theorem stripSuffix?_eq_some_iff {p s rest : Text} :
    stripSuffix? p s = some rest ↔ s = rest ++ p := by
  simp only [stripSuffix?, Option.map_eq_some_iff, stripPrefix?_eq_some_iff]
  constructor
  · rintro ⟨back, whole, rfl⟩
    simpa using congrArg List.reverse whole
  · rintro rfl
    exact ⟨rest.reverse, by simp⟩

/-! ### Searching -/

/-- The texts before and after the first occurrence of a needle. -/
def cut (needle : Text) : Text → Option (Text × Text)
  | [] => (stripPrefix? needle []).map fun rest => ([], rest)
  | c :: cs =>
    match stripPrefix? needle (c :: cs) with
    | some rest => some ([], rest)
    | none => (cut needle cs).map fun (before, after) => (c :: before, after)

/-- The parts of a cut and the needle between them make up the text. -/
theorem cut_eq_some {needle s before after : Text} (h : cut needle s = some (before, after)) :
    s = before ++ needle ++ after := by
  induction s generalizing before with
  | nil =>
    obtain ⟨rest, found, same⟩ := Option.map_eq_some_iff.mp h
    obtain ⟨rfl, rfl⟩ := Prod.mk.inj same
    exact stripPrefix?_eq_some_iff.mp found
  | cons c cs ih =>
    unfold cut at h
    split at h
    next rest found =>
      obtain ⟨rfl, rfl⟩ := Prod.mk.inj (Option.some.inj h)
      exact stripPrefix?_eq_some_iff.mp found
    next =>
      obtain ⟨⟨front, back⟩, found, same⟩ := Option.map_eq_some_iff.mp h
      obtain ⟨rfl, rfl⟩ := Prod.mk.inj same
      simpa using ih found

/-- What follows a needle is shorter than the text by the needle at least. -/
theorem length_of_cut {needle s before after : Text} (h : cut needle s = some (before, after)) :
    after.length + needle.length ≤ s.length := by
  have whole := congrArg List.length (cut_eq_some h)
  simp only [List.length_append] at whole
  omega

/-! ### Lines -/

/-- The number of newlines. -/
def newlines (s : Text) : Nat :=
  s.count '\n'

/-- The text up to and including the first newline, or all of it, and the rest. -/
def throughLine : Text → Text × Text
  | [] => ([], [])
  | c :: cs =>
    if c = '\n' then (['\n'], cs) else (c :: (throughLine cs).1, (throughLine cs).2)

/-- The line and the rest make up the text. -/
theorem throughLine_append (s : Text) : (throughLine s).1 ++ (throughLine s).2 = s := by
  induction s with
  | nil => rfl
  | cons c cs ih =>
    by_cases newline : c = '\n'
    · simp [throughLine, newline]
    · simp [throughLine, newline, ih]

/-- The rest is no longer than the text. -/
theorem length_throughLine_snd (s : Text) : (throughLine s).2.length ≤ s.length := by
  have whole := congrArg List.length (throughLine_append s)
  simp only [List.length_append] at whole
  omega

/-- The lines, each ended by a newline. -/
def ofLines (lines : List String) : Text :=
  lines.flatMap fun line => line.toList ++ ['\n']

/-! ### Bytes -/

/-- The bytes of a text in UTF-8. -/
def encode (s : Text) : ByteArray :=
  (String.ofList s).toUTF8

/-- The text whose bytes these are, if they are valid UTF-8. -/
def decode? (bytes : ByteArray) : Option Text :=
  (String.fromUTF8? bytes).map String.toList

/-- What was encoded is read back. -/
@[simp] theorem decode?_encode (s : Text) : decode? s.encode = some s := by
  have valid : (String.ofList s).toUTF8.IsValidUTF8 := (String.ofList s).isValidUTF8
  have read : String.fromUTF8? (String.ofList s).toUTF8 = some (String.ofList s) := by
    rw [String.fromUTF8?, dif_pos valid]
    rfl
  rw [decode?, encode, read, Option.map_some, String.toList_ofList]

end Text

end EnumBindings
