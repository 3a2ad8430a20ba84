import EnumBindings.Proofs.Text.Occurrence
import EnumBindings.Text.Blank
import Mathlib.Data.List.TakeWhile

/-!
# Trimming

White space at either end of a text makes no difference once the text is trimmed, and a text that
neither begins nor ends with white space is left alone.

## Main results

* `trim_blank_append`, `trim_append_blank` — white space around a text is trimmed away
* `trim_eq_nil_iff` — only white space is trimmed to nothing
* `trim_eq_self` — a text without blanks at its ends stays as it is
* `trim_isInfix` — what is left is a part of the text
* `trim_trim` — trimming once is enough
* `exists_pads_of_trim` — nothing but white space is trimmed away
* `countP_trim`, `pair_isInfix_trim` — what is visible is left
-/

namespace EnumBindings

variable {s pad : List Char} {a b c : Char}

/-- White space in front of a text is trimmed away. -/
theorem trim_blank_append (h : ∀ c ∈ pad, isBlank c = true) : trim (pad ++ s) = trim s := by
  rw [trim, trim, List.dropWhile_append_of_pos h]

/-- A text of white space is trimmed to nothing. -/
theorem trim_of_blank (h : ∀ c ∈ pad, isBlank c = true) : trim pad = [] := by
  have empty := trim_blank_append (s := []) h
  rwa [List.append_nil, trim_nil] at empty

/-- Only a text of white space is trimmed to nothing. -/
theorem trim_eq_nil_iff : trim s = [] ↔ ∀ c ∈ s, isBlank c = true := by
  refine ⟨fun empty => ?_, trim_of_blank⟩
  rw [trim, List.reverse_eq_nil_iff, List.dropWhile_eq_nil_iff] at empty
  -- The first character that is left would not be blank.
  cases left : s.dropWhile isBlank with
  | nil => exact List.dropWhile_eq_nil_iff.mp left
  | cons c rest =>
    have first := List.head?_dropWhile_not isBlank s
    rw [left] at first empty
    have blank := empty c (by simp)
    simp [blank] at first

/-- White space behind a text is trimmed away. -/
theorem trim_append_blank (h : ∀ c ∈ pad, isBlank c = true) : trim (s ++ pad) = trim s := by
  have back : ∀ c ∈ pad.reverse, isBlank c = true := fun c hc => h c (List.mem_reverse.mp hc)
  -- Behind a text of white space, the blanks go with it from the front.
  by_cases empty : s.dropWhile isBlank = []
  · have left : trim s = [] := by rw [trim, empty]; rfl
    rw [left, trim, List.dropWhile_append, empty, if_pos List.isEmpty_nil]
    exact trim_of_blank h
  · rw [trim, trim, List.dropWhile_append, if_neg (by rwa [List.isEmpty_iff]),
      List.reverse_append, List.dropWhile_append_of_pos back]

/-- A newline at the end is blank. -/
theorem isBlank_newline : ∀ c ∈ ['\n'], isBlank c = true :=
  List.forall_mem_singleton.mpr (by decide)

/-- A text that has no white space at its ends is left as it is. -/
theorem trim_eq_self (front : ∀ c, s.head? = some c → isBlank c = false)
    (back : ∀ c, s.getLast? = some c → isBlank c = false) : trim s = s := by
  have kept : ∀ t : List Char, (∀ c, t.head? = some c → isBlank c = false) →
      t.dropWhile isBlank = t := by
    intro t ht
    cases t with
    | nil => rfl
    | cons c t => rw [List.dropWhile_cons, if_neg (by simp [ht c rfl])]
  -- The back of a text is the front of its reverse.
  rw [trim, kept s front, kept s.reverse (by rwa [List.head?_reverse]), List.reverse_reverse]

/-- What is left of a text is a part of it. -/
theorem trim_isInfix (s : List Char) : trim s <:+: s := by
  have front : s.dropWhile isBlank <:+ s := List.dropWhile_suffix isBlank
  have back : ((s.dropWhile isBlank).reverse.dropWhile isBlank).reverse <+:
      s.dropWhile isBlank := by
    rw [← List.reverse_suffix, List.reverse_reverse]
    exact List.dropWhile_suffix isBlank
  exact back.isInfix.trans front.isInfix

/-- What is left of a text does not begin with white space. -/
theorem isBlank_head?_trim (h : (trim s).head? = some c) : isBlank c = false := by
  have front : trim s <+: s.dropWhile isBlank := by
    rw [trim, ← List.reverse_suffix, List.reverse_reverse]
    exact List.dropWhile_suffix isBlank
  obtain ⟨rest, whole⟩ := front
  have first := List.head?_dropWhile_not isBlank s
  rw [← whole, List.head?_append, h] at first
  exact first

/-- What is left of a text does not end with white space. -/
theorem isBlank_getLast?_trim (h : (trim s).getLast? = some c) : isBlank c = false := by
  rw [trim, List.getLast?_reverse] at h
  have last := List.head?_dropWhile_not isBlank (s.dropWhile isBlank).reverse
  rw [h] at last
  exact last

/-- Trimming twice is trimming once. -/
@[simp] theorem trim_trim : trim (trim s) = trim s :=
  trim_eq_self (fun _ => isBlank_head?_trim) fun _ => isBlank_getLast?_trim

/-- Nothing but white space is trimmed away. -/
theorem exists_pads_of_trim (s : List Char) : ∃ front back, s = front ++ trim s ++ back ∧
    (∀ c ∈ front, isBlank c = true) ∧ ∀ c ∈ back, isBlank c = true := by
  have front := List.takeWhile_append_dropWhile (p := isBlank) (l := s)
  have back := List.takeWhile_append_dropWhile (p := isBlank) (l := (s.dropWhile isBlank).reverse)
  refine ⟨s.takeWhile isBlank, ((s.dropWhile isBlank).reverse.takeWhile isBlank).reverse,
    ?_, ?_, ?_⟩
  · rw [trim, List.append_assoc, ← List.reverse_append, back, List.reverse_reverse, front]
  · exact fun c there => List.mem_takeWhile_imp there
  · exact fun c there => List.mem_takeWhile_imp (List.mem_reverse.mp there)

/-- Trimming leaves as many visible characters as there are. -/
theorem countP_trim (s : List Char) :
    (trim s).countP (fun c => !isBlank c) = s.countP fun c => !isBlank c := by
  have none (pad : List Char) (blank : ∀ c ∈ pad, isBlank c = true) :
      pad.countP (fun c => !isBlank c) = 0 := by
    rw [List.countP_eq_zero]
    intro c there
    simp [blank c there]
  obtain ⟨front, back, whole, first, last⟩ := exists_pads_of_trim s
  have counted := congrArg (List.countP fun c => !isBlank c) whole
  rw [List.countP_append, List.countP_append, none front first, none back last] at counted
  omega

/-- What is visible is left when a text is trimmed. -/
theorem mem_trim (there : c ∈ s) (visible : isBlank c = false) : c ∈ trim s := by
  obtain ⟨front, back, whole, first, last⟩ := exists_pads_of_trim s
  rw [whole, List.mem_append, List.mem_append] at there
  rcases there with (before | inside) | behind
  · exact absurd (first c before) (by simp [visible])
  · exact inside
  · exact absurd (last c behind) (by simp [visible])

/-- Two visible characters next to each other are left when a text is trimmed. -/
theorem pair_isInfix_trim (there : [a, b] <:+: s) (first : isBlank a = false)
    (second : isBlank b = false) : [a, b] <:+: trim s := by
  by_contra gone
  obtain ⟨front, back, whole, blank, blank'⟩ := exists_pads_of_trim s
  have apart : b ∉ back := fun among => by simp [blank' b among] at second
  have seam : back.head? ≠ some b := fun same => apart (List.mem_of_mem_head? same)
  -- Neither of them is in the white space, so the two do not stand across its seams either.
  have clear : Text.Clear [a, b] (front ++ trim s ++ back) [] := by
    rw [Text.clear_append, Text.clear_append]
    refine ⟨⟨Text.clear_of_notMem ?_, Text.clear_pair_iff.mpr ⟨gone, ?_⟩⟩, Text.clear_of_notMem ?_⟩
    · exact fun among => by simp [blank a among] at first
    · rw [List.append_nil]
      exact fun both => seam both.2
    · exact fun among => by simp [blank' a among] at first
  rw [whole] at there
  exact (Text.clear_pair_iff.mp clear).1 there

end EnumBindings
