import EnumBindings.Text.Case

/-!
# What becomes of a character in upper case

A character is its own upper case, or becomes one or more others. Those others have nothing left to
be changed: they are their own upper case, none of them is lower case, and below `0x80` they are
letters. So a text that was put into upper case is changed no further, and what is lower case in it
is what has no upper case.

All of this is read off the tables. A property of several thousand code points is checked at once,
with each list of code points as the bits of one number.

## Main definitions

* `codeBits` — a list of code points as the bits of a number
* `casedCodes`, `lowercaseCodes`, `imageCodes` — the code points with another upper case, those
  that are lower case, and those that others become

## Main results

* `uppercase_cases` — a character is its own upper case, or becomes images
* `uppercase_ne_nil` — no character is lost in upper case
* `uppercase_of_mem_uppercase` — upper case stays as it is
* `uppercase_eq_self_of_isLowercase` — only a character without upper case is lower case in it
* `underscore_notMem_uppercase`, `newline_notMem_uppercase` — no other character becomes an
  underscore or a newline
-/

namespace EnumBindings

variable {c d : Char} {code : Nat} {own others : List Nat} {span : CodeSpan}

/-! ### Lists of code points as numbers -/

/-- The number whose bits are some code points. -/
def codeBits (codes : List Nat) : Nat :=
  codes.foldr (fun code bits => 1 <<< code ||| bits) 0

theorem testBit_codeBits (there : code ∈ own) : (codeBits own).testBit code = true := by
  induction own with
  | nil => cases there
  | cons first later ih =>
    rw [codeBits, List.foldr_cons, ← codeBits, Nat.testBit_or, Bool.or_eq_true]
    rcases List.mem_cons.mp there with rfl | among
    · refine .inl ?_
      rw [Nat.one_shiftLeft]
      exact Nat.testBit_two_pow_self
    · exact .inr (ih among)

/-- Lists of code points have none in common if their numbers have no bit in common. -/
theorem notMem_of_codeBits (apart : codeBits own &&& codeBits others = 0) (there : code ∈ own) :
    code ∉ others := by
  intro among
  have both : (codeBits own &&& codeBits others).testBit code = true := by
    rw [Nat.testBit_and, testBit_codeBits there, testBit_codeBits among]
    rfl
  rw [apart, Nat.zero_testBit] at both
  cases both

/-- The code points of a span. -/
def CodeSpan.codes (span : CodeSpan) : List Nat :=
  List.range' span.first ((span.last - span.first) / span.step + 1) span.step

theorem CodeSpan.mem_codes_of_contains (there : span.contains code = true) :
    code ∈ span.codes := by
  obtain ⟨low, high, whole⟩ := CodeSpan.contains_iff.mp there
  refine List.mem_range'.mpr ⟨(code - span.first) / span.step, ?_, ?_⟩
  · exact Nat.lt_succ_of_le (Nat.div_le_div_right (Nat.sub_le_sub_right high _))
  · rw [Nat.mul_div_cancel' (Nat.dvd_of_mod_eq_zero whole), Nat.add_sub_cancel' low]

/-! ### What the tables hold -/

/-- The code points of the small letters below `0x80`. -/
def smallCodes : List Nat :=
  List.range' 0x61 26

/-- The code points that have another upper case. -/
def casedCodes : List Nat :=
  smallCodes ++ uppercaseExpansions.map Prod.fst ++ uppercaseShifts.flatMap (·.span.codes)

/-- The code points that are lower case. -/
def lowercaseCodes : List Nat :=
  smallCodes ++ lowercaseSpans.flatMap CodeSpan.codes

/-- The code points that the span of a shift becomes. -/
def CaseShift.images (shift : CaseShift) : List Nat :=
  shift.span.codes.map fun code => shift.image + (code - shift.span.first)

/-- The code points that others become in upper case. -/
def imageCodes : List Nat :=
  List.range' 0x41 26 ++ uppercaseExpansions.flatMap Prod.snd ++
    uppercaseShifts.flatMap CaseShift.images

private theorem imageCodes_apart_casedCodes : codeBits imageCodes &&& codeBits casedCodes = 0 := by
  decide +kernel

private theorem imageCodes_apart_lowercaseCodes :
    codeBits imageCodes &&& codeBits lowercaseCodes = 0 := by
  decide +kernel

private theorem imageCodes_above : ∀ image ∈ imageCodes,
    image.isValidChar ∧ (0x80 ≤ image ∨ 0x41 ≤ image ∧ image ≤ 0x5A) := by
  decide +kernel

private theorem toUpper_of_lt : ∀ code < 0x80,
    (code ∈ smallCodes ∧ (Char.ofNat code).toUpper.toNat ∈ List.range' 0x41 26) ∨
      (Char.ofNat code).isLower = false ∧ (Char.ofNat code).toUpper = Char.ofNat code := by
  decide +kernel

private theorem expansions_ne_nil : ∀ expansion ∈ uppercaseExpansions, expansion.2 ≠ [] := by
  decide +kernel

/-! ### Letters and digits below `0x80` -/

theorem isUpper_iff : c.isUpper = true ↔ 0x41 ≤ c.toNat ∧ c.toNat ≤ 0x5A :=
  decide_eq_true_iff.trans (and_congr UInt32.le_iff_toNat_le UInt32.le_iff_toNat_le)

theorem isLower_iff : c.isLower = true ↔ 0x61 ≤ c.toNat ∧ c.toNat ≤ 0x7A :=
  Bool.and_eq_true_iff.trans <| and_congr (decide_eq_true_iff.trans UInt32.le_iff_toNat_le)
    (decide_eq_true_iff.trans UInt32.le_iff_toNat_le)

theorem isDigit_iff : c.isDigit = true ↔ 0x30 ≤ c.toNat ∧ c.toNat ≤ 0x39 :=
  Bool.and_eq_true_iff.trans <| and_congr (decide_eq_true_iff.trans UInt32.le_iff_toNat_le)
    (decide_eq_true_iff.trans UInt32.le_iff_toNat_le)

theorem toNat_lt_of_isAlphanum (ascii : c.isAlphanum = true) : c.toNat < 0x80 := by
  have kinds : (c.isUpper = true ∨ c.isLower = true) ∨ c.isDigit = true :=
    (Bool.or_eq_true_iff.mp ascii).imp_left Bool.or_eq_true_iff.mp
  rw [isUpper_iff, isLower_iff, isDigit_iff] at kinds
  omega

/-! ### Characters -/

theorem toNat_ofNat_of_isValidChar (valid : code.isValidChar) : (Char.ofNat code).toNat = code := by
  rw [Char.ofNat, dif_pos valid]
  rfl

/-- A small letter below `0x80` becomes a capital one, and all else stays as it is there. -/
theorem toUpper_cases (low : c.toNat < 0x80) :
    (c.toNat ∈ smallCodes ∧ c.toUpper.toNat ∈ List.range' 0x41 26) ∨
      c.isLower = false ∧ c.toUpper = c := by
  have tabulated := toUpper_of_lt c.toNat low
  rwa [Char.ofNat_toNat] at tabulated

/-- A code point is its own upper case, or both it and what it becomes are in the tables. -/
theorem uppercaseCodes_cases (code : Nat) : uppercaseCodes code = [code] ∨
    code ∈ casedCodes ∧ ∀ image ∈ uppercaseCodes code, image ∈ imageCodes := by
  unfold uppercaseCodes
  split
  -- A code point is looked up among those that become several, and then among the shifted ones.
  next codes found =>
    obtain ⟨_, _, whole, -⟩ := List.lookup_eq_some_iff.mp found
    have listed : (code, codes) ∈ uppercaseExpansions := by
      rw [whole]
      simp
    have expanded : code ∈ uppercaseExpansions.map Prod.fst := List.mem_map_of_mem listed
    refine .inr ⟨List.mem_append_left _ (List.mem_append_right _ expanded), fun image there => ?_⟩
    have within : image ∈ uppercaseExpansions.flatMap Prod.snd :=
      List.mem_flatMap.mpr ⟨_, listed, there⟩
    exact List.mem_append_left _ (List.mem_append_right _ within)
  next =>
    split
    next shift found =>
      have listed := List.mem_of_find?_eq_some found
      have inside : code ∈ shift.span.codes :=
        CodeSpan.mem_codes_of_contains (List.find?_eq_some_iff_append.mp found).1
      refine .inr ⟨List.mem_append_right _ (List.mem_flatMap_of_mem listed inside), ?_⟩
      intro image there
      rw [List.mem_singleton.mp there]
      exact List.mem_append_right _ (List.mem_flatMap_of_mem listed (List.mem_map_of_mem inside))
    next => exact .inl rfl

/-- Every code point becomes something in upper case. -/
theorem uppercaseCodes_ne_nil (code : Nat) : uppercaseCodes code ≠ [] := by
  unfold uppercaseCodes
  split
  next codes found =>
    obtain ⟨_, _, whole, -⟩ := List.lookup_eq_some_iff.mp found
    exact expansions_ne_nil (code, codes) (by rw [whole]; simp)
  next => split <;> exact List.cons_ne_nil _ _

/-- Every character becomes something in upper case. -/
theorem uppercase_ne_nil (c : Char) : uppercase c ≠ [] := by
  unfold uppercase
  split
  · exact List.cons_ne_nil _ _
  · exact mt List.map_eq_nil_iff.mp (uppercaseCodes_ne_nil c.toNat)

/-- A character is its own upper case, or both it and what it becomes are in the tables. -/
theorem uppercase_cases (c : Char) : uppercase c = [c] ∨
    c.toNat ∈ casedCodes ∧ ∀ d ∈ uppercase c, d.toNat ∈ imageCodes := by
  unfold uppercase
  split
  next low =>
    rcases toUpper_cases low with ⟨small, capital⟩ | ⟨-, same⟩
    · refine .inr ⟨List.mem_append_left _ (List.mem_append_left _ small), ?_⟩
      rw [List.forall_mem_singleton]
      exact List.mem_append_left _ (List.mem_append_left _ capital)
    · exact .inl (by rw [same])
  next =>
    rcases uppercaseCodes_cases c.toNat with same | ⟨cased, images⟩
    · exact .inl (by rw [same, List.map_singleton, Char.ofNat_toNat])
    · refine .inr ⟨cased, List.forall_mem_map.mpr fun image among => ?_⟩
      rw [toNat_ofNat_of_isValidChar (imageCodes_above image (images image among)).1]
      exact images image among

/-- What another character becomes in upper case is a capital letter, or not below `0x80`. -/
theorem bounds_of_mem_uppercase (there : d ∈ uppercase c) (other : d ≠ c) :
    0x80 ≤ d.toNat ∨ 0x41 ≤ d.toNat ∧ d.toNat ≤ 0x5A := by
  rcases uppercase_cases c with same | ⟨-, images⟩
  · rw [same, List.mem_singleton] at there
    exact absurd there other
  · exact (imageCodes_above _ (images d there)).2

/-- Only a newline becomes one in upper case. -/
theorem newline_notMem_uppercase (other : c ≠ '\n') : '\n' ∉ uppercase c :=
  fun there => absurd (bounds_of_mem_uppercase there (Ne.symm other)) (by decide)

/-- Only an underscore becomes one in upper case. -/
theorem underscore_notMem_uppercase (other : c ≠ '_') : '_' ∉ uppercase c :=
  fun there => absurd (bounds_of_mem_uppercase there (Ne.symm other)) (by decide)

theorem uppercase_of_notMem_casedCodes (missing : c.toNat ∉ casedCodes) : uppercase c = [c] :=
  (uppercase_cases c).resolve_right fun cased => missing cased.1

/-- What a character becomes in upper case is its own upper case. -/
theorem uppercase_of_mem_uppercase (there : d ∈ uppercase c) : uppercase d = [d] := by
  rcases uppercase_cases c with same | ⟨-, images⟩
  · rw [same, List.mem_singleton] at there
    rw [there, same]
  · exact uppercase_of_notMem_casedCodes
      (notMem_of_codeBits imageCodes_apart_casedCodes (images d there))

theorem mem_lowercaseCodes_of_isLowercase (lower : isLowercase c = true) :
    c.toNat ∈ lowercaseCodes := by
  unfold isLowercase at lower
  split at lower
  next low =>
    rcases toUpper_cases low with ⟨small, -⟩ | ⟨other, -⟩
    · exact List.mem_append_left _ small
    · rw [other] at lower
      cases lower
  next =>
    obtain ⟨span, listed, within⟩ := List.any_eq_true.mp lower
    exact List.mem_append_right _
      (List.mem_flatMap_of_mem listed (CodeSpan.mem_codes_of_contains within))

/-- A character whose upper case has lower case in it is its own upper case. -/
theorem uppercase_eq_self_of_isLowercase (there : d ∈ uppercase c) (lower : isLowercase d = true) :
    uppercase c = [c] := by
  refine (uppercase_cases c).resolve_right fun ⟨_, images⟩ => ?_
  exact notMem_of_codeBits imageCodes_apart_lowercaseCodes (images d there)
    (mem_lowercaseCodes_of_isLowercase lower)

end EnumBindings
