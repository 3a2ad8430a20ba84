import EnumBindings.Proofs.Text.Occurrence
import Mathlib.Order.Bounds.Defs

/-!
# Offsets

A place in a text has an offset, the number of bytes in front of it. Not every number is one: it may
lie beyond the end of the text, or inside the bytes of a character. A text is cut at offsets only,
and a slice of it lies between two of them, of which the first is not the greater one. A search from
an offset on yields the least offset there at which the needle occurs.

## Main definitions

* `Text.size` — the number of bytes of a text
* `Text.IsOffset` — a number is the offset of a place in a text
* `Text.split?`, `Text.slice?` — the texts on both sides of an offset, and between two offsets
* `Text.OccursAt`, `Text.seek?` — where a needle occurs, and where it is found
* `Text.lineOf`, `Text.lineStop`, `Text.nextLine` — the line on which an offset is, and its end

## Main results

* `Text.size_encode`, `Text.isOffset_iff_isValid` — sizes and offsets are those of encoded texts
* `Text.isSome_slice?_iff` — which slices there are
* `Text.seek?_eq_some_iff`, `Text.seek?_eq_none_iff` — what a search yields
* `Text.seek?_append`, `Text.nextLine_append` — offsets and the texts in front of them
-/

namespace EnumBindings.Text

variable {needle s t u rest before after part : Text} {c : Char} {offset start stop place : Nat}

/-! ### Sizes -/

/-- The number of bytes that a text has in UTF-8. -/
def size : Text → Nat
  | [] => 0
  | c :: s => c.utf8Size + size s

@[simp] theorem size_nil : size [] = 0 := rfl

@[simp] theorem size_cons : size (c :: s) = c.utf8Size + size s := rfl

@[simp] theorem size_append : size (s ++ t) = size s + size t := by
  induction s with
  | nil => simp
  | cons c s ih => rw [List.cons_append, size_cons, size_cons, ih, Nat.add_assoc]

@[simp] theorem size_eq_zero_iff : size s = 0 ↔ s = [] := by
  cases s with
  | nil => simp
  | cons c s =>
    have := c.utf8Size_pos
    simp only [size_cons, List.cons_ne_nil, iff_false]
    omega

/-- The size of a text is that of its bytes. -/
theorem size_encode (s : Text) : (encode s).size = size s := by
  rw [encode, String.toUTF8_eq_toByteArray, String.toByteArray_ofList]
  induction s with
  | nil => rfl
  | cons c s ih =>
    rw [List.utf8Encode_cons, ByteArray.size_append, ih, List.utf8Encode_singleton, size_cons]
    simp

/-- Of two beginnings of a text, one is larger exactly if it is longer. -/
theorem size_le_iff (whole : before ++ after = s ++ rest) :
    size before ≤ size s ↔ before.length ≤ s.length := by
  rcases List.append_eq_append_iff.mp whole with ⟨between, rfl, -⟩ | ⟨between, rfl, -⟩
  · rw [size_append, List.length_append]
    omega
  · have none : size between = 0 ↔ between.length = 0 := by
      rw [size_eq_zero_iff, List.length_eq_zero_iff]
    rw [size_append, List.length_append]
    omega

/-- Of two beginnings of a text, the one that is no larger is a beginning of the other. -/
theorem exists_between (whole : before ++ after = s ++ rest) (order : size before ≤ size s) :
    ∃ between, s = before ++ between ∧ after = between ++ rest := by
  obtain ⟨between, rfl⟩ : before <+: s :=
    List.prefix_of_prefix_length_le ⟨after, whole⟩ ⟨rest, rfl⟩ ((size_le_iff whole).mp order)
  rw [List.append_assoc, List.append_cancel_left_eq] at whole
  exact ⟨between, rfl, whole⟩

/-- A text has one beginning of a size. -/
theorem eq_of_size_eq (whole : before ++ after = s ++ rest) (same : size before = size s) :
    before = s ∧ after = rest :=
  List.append_inj whole (Nat.le_antisymm ((size_le_iff whole).mp (Nat.le_of_eq same))
    ((size_le_iff whole.symm).mp (Nat.le_of_eq same.symm)))

/-! ### Offsets -/

/-- A number is the offset of a place in a text: that many bytes are in front of the place. -/
def IsOffset (s : Text) (offset : Nat) : Prop :=
  ∃ before after, s = before ++ after ∧ size before = offset

theorem isOffset_size (before after : Text) : IsOffset (before ++ after) (size before) :=
  ⟨before, after, rfl, rfl⟩

theorem IsOffset.le_size (h : IsOffset s offset) : offset ≤ size s := by
  obtain ⟨before, after, rfl, rfl⟩ := h
  rw [size_append]
  omega

/-- The offsets are the valid positions in the encoded text. -/
theorem isOffset_iff_isValid :
    IsOffset s offset ↔ (⟨offset⟩ : String.Pos.Raw).IsValid (String.ofList s) := by
  have bytes (t : Text) : (String.ofList t).rawEndPos = ⟨size t⟩ := by
    ext
    exact size_encode t
  rw [String.Pos.Raw.isValid_iff_exists_append]
  constructor
  · rintro ⟨before, after, rfl, rfl⟩
    exact ⟨String.ofList before, String.ofList after, by rw [String.ofList_append], (bytes _).symm⟩
  · rintro ⟨before, after, whole, same⟩
    refine ⟨before.toList, after.toList, ?_, ?_⟩
    · rw [← String.toList_append, ← whole, String.toList_ofList]
    · rw [← String.ofList_toList (s := before), bytes] at same
      exact (String.Pos.Raw.ext_iff.mp same).symm

/-- The texts before and after an offset. -/
def split? : Text → Nat → Option (Text × Text)
  | s, 0 => some ([], s)
  | [], _ + 1 => none
  | c :: s, offset + 1 =>
    if c.utf8Size ≤ offset + 1 then
      (split? s (offset + 1 - c.utf8Size)).map fun (before, after) => (c :: before, after)
    else none

@[simp] theorem split?_zero : split? s 0 = some ([], s) := by
  cases s <;> rfl

/-- A text is split at the end of any beginning of it. -/
@[simp] theorem split?_append : split? (before ++ after) (size before) = some (before, after) := by
  induction before with
  | nil => exact split?_zero
  | cons c before ih =>
    obtain ⟨n, one⟩ := Nat.exists_eq_add_of_lt c.utf8Size_pos
    rw [size_cons, List.cons_append, show c.utf8Size + size before = n + size before + 1 by omega,
      split?, if_pos (by omega), show n + size before + 1 - c.utf8Size = size before by omega, ih]
    rfl

/-- A text is split into the two parts that meet at an offset. -/
theorem split?_eq_some_iff :
    split? s offset = some (before, after) ↔ s = before ++ after ∧ size before = offset := by
  constructor
  · intro h
    induction s generalizing offset before with
    | nil =>
      cases offset with
      | zero =>
        cases h
        exact ⟨rfl, rfl⟩
      | succ offset => cases h
    | cons c s ih =>
      cases offset with
      | zero =>
        cases h
        exact ⟨rfl, rfl⟩
      | succ offset =>
        rw [split?] at h
        split at h
        next fits =>
          obtain ⟨⟨front, back⟩, found, same⟩ := Option.map_eq_some_iff.mp h
          cases same
          obtain ⟨rfl, rest⟩ := ih found
          refine ⟨rfl, ?_⟩
          rw [size_cons]
          omega
        next => cases h
  · rintro ⟨rfl, rfl⟩
    exact split?_append

/-- A text is split at offsets only. -/
theorem isSome_split?_iff : (split? s offset).isSome ↔ IsOffset s offset := by
  rw [Option.isSome_iff_exists]
  constructor
  · rintro ⟨⟨before, after⟩, found⟩
    exact ⟨before, after, split?_eq_some_iff.mp found⟩
  · rintro ⟨before, after, parts⟩
    exact ⟨(before, after), split?_eq_some_iff.mpr parts⟩

/-- The text between two offsets. -/
def slice? (s : Text) (start stop : Nat) : Option Text :=
  if start ≤ stop then
    (split? s start).bind fun parts => (split? parts.2 (stop - start)).map Prod.fst
  else none

/-- A part of a text is the slice between the offsets of its ends. -/
theorem slice?_eq_some_iff : slice? s start stop = some part ↔
    ∃ before after, s = before ++ part ++ after ∧ size before = start ∧
      start + size part = stop := by
  constructor
  · intro h
    unfold slice? at h
    split at h
    next order =>
      obtain ⟨⟨before, rest⟩, first, h⟩ := Option.bind_eq_some_iff.mp h
      obtain ⟨⟨part', after⟩, second, rfl⟩ := Option.map_eq_some_iff.mp h
      obtain ⟨rfl, same⟩ := split?_eq_some_iff.mp first
      obtain ⟨rfl, same'⟩ := split?_eq_some_iff.mp second
      exact ⟨before, after, by rw [List.append_assoc], same, by dsimp only; omega⟩
    next => cases h
  · rintro ⟨before, after, rfl, rfl, rfl⟩
    rw [slice?, if_pos (Nat.le_add_right _ _), List.append_assoc, split?_append, Option.bind_some,
      Nat.add_sub_cancel_left, split?_append, Option.map_some]

/-- The slice of a text from the end of a beginning on. -/
theorem slice?_append (same : start + size part = stop) (place : size before = start) :
    slice? (before ++ part ++ after) start stop = some part :=
  slice?_eq_some_iff.mpr ⟨before, after, rfl, place, same⟩

/-- The slice up to the end of a beginning is that beginning. -/
theorem slice?_before : slice? (before ++ after) 0 (size before) = some before :=
  slice?_eq_some_iff.mpr ⟨[], after, rfl, rfl, Nat.zero_add _⟩

/-- The slice from the end of a beginning on is the rest. -/
theorem slice?_after :
    slice? (before ++ after) (size before) (size (before ++ after)) = some after :=
  slice?_eq_some_iff.mpr ⟨before, [], (List.append_nil _).symm, rfl, size_append.symm⟩

/-- There is a slice exactly between two offsets of which the first is not the greater one. -/
theorem isSome_slice?_iff : (slice? s start stop).isSome ↔
    start ≤ stop ∧ IsOffset s start ∧ IsOffset s stop := by
  rw [Option.isSome_iff_exists]
  constructor
  · rintro ⟨part, found⟩
    obtain ⟨before, after, rfl, rfl, rfl⟩ := slice?_eq_some_iff.mp found
    refine ⟨Nat.le_add_right _ _, ?_, ?_⟩
    · rw [List.append_assoc]
      exact isOffset_size before _
    · rw [← size_append]
      exact isOffset_size _ after
  · rintro ⟨order, ⟨before, rest, rfl, rfl⟩, before', after, whole, rfl⟩
    obtain ⟨part, rfl, rfl⟩ := exists_between whole order
    refine ⟨part, ?_⟩
    rw [← List.append_assoc]
    exact slice?_append size_append.symm rfl

/-! ### Searching from an offset -/

/-- A needle occurs in a text at an offset. -/
def OccursAt (needle s : Text) (offset : Nat) : Prop :=
  ∃ before after, s = before ++ needle ++ after ∧ size before = offset

/-- The offset of the first occurrence of a needle from an offset on. -/
def seek? (needle s : Text) (offset : Nat) : Option Nat :=
  (split? s offset).bind fun parts =>
    (cut needle parts.2).map fun found => offset + size found.1

/-- From the end of a beginning on, what is found is found in the rest. -/
theorem seek?_append : seek? needle (before ++ rest) (size before) =
    (cut needle rest).map fun found => size before + size found.1 := by
  rw [seek?, split?_append, Option.bind_some]

/-- Nothing is found from a number on that is no offset. -/
theorem seek?_of_not_isOffset (elsewhere : ¬ IsOffset s offset) : seek? needle s offset = none := by
  have missing : split? s offset = none := by
    rwa [← isSome_split?_iff, Option.not_isSome_iff_eq_none] at elsewhere
  rw [seek?, missing, Option.bind_none]

/-- A search passes over a text in which no occurrence of the needle begins. -/
theorem seek?_of_clear (clear : Clear needle part rest) :
    seek? needle (before ++ (part ++ rest)) (size before) =
      seek? needle (before ++ (part ++ rest)) (size (before ++ part)) := by
  rw [seek?_append, cut_append clear, ← List.append_assoc, seek?_append, Option.map_map]
  refine congrArg (fun f => (cut needle rest).map f) (funext fun found => ?_)
  simp only [Function.comp_apply, size_append, Nat.add_assoc]

/-- What occurs behind an offset occurs in the text there. -/
theorem OccursAt.exists_skipped (h : OccursAt needle (before ++ rest) place)
    (order : size before ≤ place) :
    ∃ skipped after, rest = skipped ++ needle ++ after ∧ place = size before + size skipped := by
  obtain ⟨front, after, whole, rfl⟩ := h
  rw [List.append_assoc] at whole
  obtain ⟨skipped, rfl, rfl⟩ := exists_between whole order
  exact ⟨skipped, after, (List.append_assoc ..).symm, size_append⟩

/-- What occurs in the rest of a text occurs in the text. -/
theorem occursAt_append (skipped : Text) :
    OccursAt needle (before ++ (skipped ++ needle ++ after)) (size before + size skipped) :=
  ⟨before ++ skipped, after, by simp only [List.append_assoc], size_append⟩

/-- A search yields the least offset, from its own on, at which the needle occurs. -/
theorem seek?_eq_some_iff (h : IsOffset s offset) : seek? needle s offset = some place ↔
    IsLeast {place | offset ≤ place ∧ OccursAt needle s place} place := by
  obtain ⟨before, rest, rfl, rfl⟩ := h
  rw [seek?_append, Option.map_eq_some_iff]
  constructor
  · rintro ⟨⟨skipped, after⟩, found, rfl⟩
    obtain ⟨rfl, clear⟩ := cut_eq_some_iff.mp found
    refine ⟨⟨Nat.le_add_right _ _, occursAt_append skipped⟩, ?_⟩
    rintro place ⟨order, occurs⟩
    obtain ⟨skipped', after', whole, rfl⟩ := occurs.exists_skipped order
    rw [List.append_assoc] at whole
    have longer := clear_iff_forall.mp clear skipped' after' whole
    rw [List.append_assoc skipped'] at whole
    exact Nat.add_le_add_left ((size_le_iff whole).mpr longer) _
  · rintro ⟨⟨order, occurs⟩, least⟩
    obtain ⟨skipped, after, rfl, rfl⟩ := occurs.exists_skipped order
    refine ⟨(skipped, after), cut_eq_some_iff.mpr ⟨rfl, ?_⟩, rfl⟩
    refine clear_iff_forall.mpr fun skipped' after' whole => ?_
    have again : OccursAt needle (before ++ (skipped ++ needle ++ after))
        (size before + size skipped') := by
      rw [List.append_assoc skipped, whole]
      exact occursAt_append skipped'
    have smaller := least ⟨Nat.le_add_right _ _, again⟩
    rw [List.append_assoc skipped'] at whole
    exact (size_le_iff whole).mp (Nat.le_of_add_le_add_left smaller)

/-- A search yields nothing exactly if the needle occurs nowhere from its offset on. -/
theorem seek?_eq_none_iff (nonempty : needle ≠ []) (h : IsOffset s offset) :
    seek? needle s offset = none ↔ ∀ place, offset ≤ place → ¬ OccursAt needle s place := by
  obtain ⟨before, rest, rfl, rfl⟩ := h
  rw [seek?_append, Option.map_eq_none_iff, cut_eq_none_iff nonempty,
    clear_iff_not_isInfix nonempty]
  constructor
  · intro missing place order occurs
    obtain ⟨skipped, after, rfl, -⟩ := occurs.exists_skipped order
    exact missing ⟨skipped, after, rfl⟩
  · rintro missing ⟨skipped, after, rfl⟩
    exact missing _ (Nat.le_add_right _ _) (occursAt_append skipped)

/-! ### Lines -/

/-- The line on which an offset is: one more than the number of newlines in front of it. -/
def lineOf : Text → Nat → Nat
  | c :: s, offset + 1 => (if c = '\n' then 1 else 0) + lineOf s (offset + 1 - c.utf8Size)
  | _, _ => 1

/-- The offset at which the line ends that an offset is on. -/
def lineStop (s : Text) (offset : Nat) : Nat :=
  (seek? ['\n'] s offset).getD (size s)

/-- The offset at which the next line begins, or the end of the text. -/
def nextLine (s : Text) (offset : Nat) : Nat :=
  ((seek? ['\n'] s offset).map (· + 1)).getD (size s)

/-- Behind a beginning of a text, the line is counted from the newlines there. -/
theorem lineOf_append : lineOf (before ++ after) (size before) = 1 + newlines before := by
  induction before with
  | nil => cases after <;> rfl
  | cons c before ih =>
    obtain ⟨n, one⟩ := Nat.exists_eq_add_of_lt c.utf8Size_pos
    rw [size_cons, List.cons_append, show c.utf8Size + size before = n + size before + 1 by omega,
      lineOf, show n + size before + 1 - c.utf8Size = size before by omega, ih]
    by_cases newline : c = '\n'
    · simp [newlines, newline]
      omega
    · simp [newlines, newline]

/-- On one line, a line ends at the same offset. -/
theorem lineStop_of_inline (inline : '\n' ∉ part) :
    lineStop (before ++ (part ++ rest)) (size before) =
      lineStop (before ++ (part ++ rest)) (size (before ++ part)) := by
  rw [lineStop, lineStop, seek?_of_clear (clear_singleton_iff.mpr inline)]

/-- On one line, the next line begins at the same offset. -/
theorem nextLine_of_inline (inline : '\n' ∉ part) :
    nextLine (before ++ (part ++ rest)) (size before) =
      nextLine (before ++ (part ++ rest)) (size (before ++ part)) := by
  rw [nextLine, nextLine, seek?_of_clear (clear_singleton_iff.mpr inline)]

/-- A line ends in front of its newline. -/
theorem lineStop_append_newline (inline : '\n' ∉ part) :
    lineStop (before ++ (part ++ '\n' :: rest)) (size before) = size (before ++ part) := by
  have found : cut ['\n'] ('\n' :: rest) = some ([], rest) :=
    cut_eq_some_iff.mpr ⟨rfl, clear_nil⟩
  rw [lineStop_of_inline inline, lineStop, ← List.append_assoc, seek?_append, found]
  rfl

/-- A line without a newline ends where the text does. -/
theorem lineStop_of_notMem (inline : '\n' ∉ part) :
    lineStop (before ++ part) (size before) = size (before ++ part) := by
  have missing : cut ['\n'] part = none :=
    (cut_eq_none_iff (by simp)).mpr (clear_singleton_iff.mpr inline)
  rw [lineStop, seek?_append, missing]
  rfl

/-- The next line begins behind the first one of the rest. -/
theorem nextLine_append :
    nextLine (before ++ rest) (size before) = size before + size (throughLine rest).1 := by
  rw [nextLine, seek?_append]
  rcases exists_line rest with ⟨line, behind, inline, rfl⟩ | inline
  · have found : cut ['\n'] (line ++ '\n' :: behind) = some (line, behind) :=
      cut_eq_some_iff.mpr ⟨by simp, clear_singleton_iff.mpr inline⟩
    have newline : size ['\n'] = 1 := rfl
    rw [found, throughLine_append_newline inline, Option.map_some, Option.map_some,
      Option.getD_some]
    simp only [size_append, newline, Nat.add_assoc]
  · have missing : cut ['\n'] rest = none :=
      (cut_eq_none_iff (by simp)).mpr (clear_singleton_iff.mpr inline)
    rw [missing, throughLine_of_notMem inline, ← size_append]
    rfl

end EnumBindings.Text
