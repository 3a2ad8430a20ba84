import EnumBindings.Text.Basic

/-!
# Occurrences of a needle

A search passes over a text in which no occurrence of the needle begins. Whether one begins near
the end of the text depends on what follows, so both are part of the condition; it is then
compatible with joining texts, and says exactly where a cut is made.

## Main definitions

* `Text.Clear` — no occurrence of a needle begins in a text when another one follows

## Main results

* `Text.clear_append` — a joined text is clear exactly if its parts are
* `Text.clear_iff_not_isInfix` — in a text alone, no needle begins that is no part of it
* `Text.clear_pair_iff` — a needle of two characters begins inside the text or at its seam
* `Text.append_cons_eq_append_needle` — no occurrence reaches over a character that it does not have
* `Text.cut_append` — a cut passes over a clear text
* `Text.cut_eq_some_iff`, `Text.cut_eq_none_iff` — a cut is made at the first occurrence
* `Text.throughLine_append_newline` — the first line ends at the first newline
* `Text.lines_induction` — a text is a line, or a line in front of a text
-/

namespace EnumBindings.Text

variable {needle s t rest before after : Text} {a b c : Char}

/-- No occurrence of the needle begins in the text, when `rest` follows it. -/
def Clear (needle : Text) : Text → Text → Prop
  | [], _ => True
  | c :: cs, rest => ¬ needle <+: c :: (cs ++ rest) ∧ Clear needle cs rest

@[simp] theorem clear_nil : Clear needle [] rest := trivial

@[simp] theorem clear_cons :
    Clear needle (c :: s) rest ↔ ¬ needle <+: c :: (s ++ rest) ∧ Clear needle s rest := Iff.rfl

/-- A joined text is clear exactly if its first part is when the second follows, and the second
is. -/
theorem clear_append : Clear needle (s ++ t) rest ↔
    Clear needle s (t ++ rest) ∧ Clear needle t rest := by
  induction s with
  | nil => simp
  | cons c s ih => simp [ih, and_assoc]

/-- A text is clear exactly if each occurrence in it and what follows it begins behind it. -/
theorem clear_iff_forall : Clear needle s rest ↔
    ∀ before after, s ++ rest = before ++ needle ++ after → s.length ≤ before.length := by
  induction s with
  | nil => simp
  | cons c s ih =>
    rw [clear_cons, ih]
    constructor
    · rintro ⟨missing, later⟩ before after whole
      cases before with
      | nil => exact absurd ⟨after, whole.symm⟩ missing
      | cons d before =>
        have behind := later before after (List.cons.inj whole).2
        exact Nat.succ_le_succ behind
    · intro later
      refine ⟨?_, fun before after whole => ?_⟩
      · rintro ⟨after, whole⟩
        have behind := later [] after whole.symm
        simp at behind
      · have behind := later (c :: before) after (by simp [whole])
        exact Nat.le_of_succ_le_succ behind

/-- No occurrence begins in a text that does not have the first character of the needle. -/
theorem clear_of_notMem (h : c ∉ s) : Clear (c :: needle) s rest := by
  induction s with
  | nil => exact clear_nil
  | cons d s ih =>
    rw [List.mem_cons, not_or] at h
    refine ⟨fun here => h.1 ?_, ih h.2⟩
    exact (List.cons_prefix_cons.mp here).1

theorem clear_singleton_iff : Clear [c] s rest ↔ c ∉ s := by
  refine ⟨fun h => ?_, clear_of_notMem⟩
  induction s with
  | nil => simp
  | cons d s ih =>
    rw [List.mem_cons, not_or]
    refine ⟨fun same => h.1 ?_, ih h.2⟩
    rw [same]
    exact List.prefix_append [d] (s ++ rest)

/-- A needle of two characters does not begin in a text exactly if it neither occurs there nor
stands across the seam to what follows. -/
theorem clear_pair_iff : Clear [a, b] s rest ↔
    ¬ [a, b] <:+: s ∧ ¬ (s.getLast? = some a ∧ rest.head? = some b) := by
  induction s with
  | nil => simp
  | cons c s ih =>
    rw [clear_cons, ih, List.infix_cons_iff]
    -- Only a last character can stand at the seam, so the text is split once more.
    cases s with
    | nil =>
      cases rest with
      | nil => simp [List.cons_prefix_cons]
      | cons d rest =>
        simp only [List.nil_append, List.cons_prefix_cons, List.nil_prefix, and_true,
          List.getLast?_singleton, List.head?_cons, Option.some.injEq, @eq_comm _ a, @eq_comm _ b]
        simp
    | cons d s =>
      simp only [List.cons_append, List.cons_prefix_cons, List.nil_prefix, and_true,
        List.getLast?_cons_cons, not_or]
      exact and_assoc.symm

/-- In front of an occurrence, what stands behind it does not matter. -/
theorem Clear.exchange (h : Clear needle s (needle ++ rest)) (t : Text) :
    Clear needle s (needle ++ t) := by
  induction s with
  | nil => exact clear_nil
  | cons c s ih =>
    refine ⟨fun here => h.1 ?_, ih h.2⟩
    -- An occurrence that began here would end before the needle behind the text does.
    have within : needle <+: c :: (s ++ needle) := by
      refine List.prefix_of_prefix_length_le here ⟨t, by simp⟩ ?_
      rw [List.length_cons, List.length_append]
      omega
    exact within.trans ⟨rest, by simp⟩

/-- What begins in a text alone begins there with anything behind it. -/
theorem Clear.alone (h : Clear needle s rest) : Clear needle s [] := by
  induction s with
  | nil => exact clear_nil
  | cons c s ih =>
    refine ⟨fun here => h.1 ?_, ih h.2⟩
    rw [List.append_nil] at here
    exact here.trans (List.prefix_append (c :: s) rest)

/-- What occurs nowhere in a text occurs in no part of it. -/
theorem Clear.of_isInfix (h : Clear needle s []) (within : t <:+: s) : Clear needle t [] := by
  obtain ⟨front, back, rfl⟩ := within
  exact (clear_append.mp (clear_append.mp h).1).2.alone

/-- A text alone is clear exactly if the needle is no part of it. -/
theorem clear_iff_not_isInfix (nonempty : needle ≠ []) :
    Clear needle s [] ↔ ¬ needle <:+: s := by
  induction s with
  | nil => simp [nonempty]
  | cons c s ih => rw [clear_cons, ih, List.append_nil, List.infix_cons_iff, not_or]

/-- An occurrence of a needle stands on one side of a character that the needle does not have. -/
theorem append_cons_eq_append_needle (other : c ∉ needle)
    (whole : s ++ c :: t = before ++ needle ++ after) :
    (∃ behind, s = before ++ needle ++ behind ∧ after = behind ++ c :: t) ∨
      ∃ front, before = s ++ c :: front ∧ t = front ++ needle ++ after := by
  rcases List.append_eq_append_iff.mp whole with ⟨rest, longer, here⟩ | ⟨rest, shorter, there⟩
  · cases rest with
    | nil => exact .inl ⟨[], by simpa using longer.symm, here.symm⟩
    | cons d rest =>
      cases here
      -- The character is not in the needle, so it is among what comes before it.
      rcases List.append_eq_append_iff.mp longer with ⟨part, -, split⟩ | ⟨part, rfl, split⟩
      · exact absurd (by rw [split]; simp) other
      · cases part with
        | nil => exact absurd (by rw [← List.nil_append needle, ← split]; simp) other
        | cons d part =>
          cases split
          exact .inr ⟨part, rfl, rfl⟩
  · exact .inl ⟨rest, shorter, there⟩

/-! ### Where a cut is made -/

theorem stripPrefix?_eq_none_iff : stripPrefix? needle s = none ↔ ¬ needle <+: s := by
  rw [Option.eq_none_iff_forall_not_mem]
  constructor
  · rintro h ⟨rest, rfl⟩
    exact h rest (stripPrefix?_eq_some_iff.mpr rfl)
  · rintro h rest found
    exact h ⟨rest, (stripPrefix?_eq_some_iff.mp found).symm⟩

/-- A cut passes over a text in which the needle does not begin. -/
theorem cut_append (h : Clear needle s rest) :
    cut needle (s ++ rest) =
      (cut needle rest).map fun (before, after) => (s ++ before, after) := by
  induction s with
  | nil => simp
  | cons c s ih =>
    have past : stripPrefix? needle (c :: (s ++ rest)) = none := stripPrefix?_eq_none_iff.mpr h.1
    rw [List.cons_append, cut, past, ih h.2, Option.map_map]
    rfl

/-- A needle at the beginning is found there. -/
theorem cut_needle_append : cut needle (needle ++ after) = some ([], after) := by
  have here : stripPrefix? needle (needle ++ after) = some after :=
    stripPrefix?_eq_some_iff.mpr rfl
  cases whole : needle ++ after with
  | nil =>
    rw [whole] at here
    rw [cut, here, Option.map_some]
  | cons c cs =>
    rw [whole] at here
    rw [cut, here]

/-- A cut is made at the first occurrence of the needle. -/
theorem cut_eq_some_iff : cut needle s = some (before, after) ↔
    s = before ++ needle ++ after ∧ Clear needle before (needle ++ after) := by
  constructor
  · intro h
    refine ⟨cut_eq_some h, ?_⟩
    induction s generalizing before with
    | nil =>
      have whole := cut_eq_some h
      simp only [List.nil_eq, List.append_eq_nil_iff] at whole
      rw [whole.1.1]
      exact clear_nil
    | cons c cs ih =>
      have whole := cut_eq_some h
      unfold cut at h
      split at h
      next =>
        cases h
        exact clear_nil
      next missing =>
        obtain ⟨⟨front, back⟩, found, same⟩ := Option.map_eq_some_iff.mp h
        cases same
        refine ⟨?_, ih found⟩
        -- What is cut behind the first character, joined again, is what the search had before it.
        rw [← List.append_assoc, ← cut_eq_some found]
        exact stripPrefix?_eq_none_iff.mp missing
  · rintro ⟨rfl, h⟩
    rw [List.append_assoc, cut_append h, cut_needle_append]
    simp

/-- No cut is made exactly if the needle does not begin anywhere. -/
theorem cut_eq_none_iff (nonempty : needle ≠ []) : cut needle s = none ↔ Clear needle s [] := by
  constructor
  · intro h
    induction s with
    | nil => exact clear_nil
    | cons c cs ih =>
      unfold cut at h
      split at h
      next => cases h
      next missing =>
        refine ⟨?_, ih (Option.map_eq_none_iff.mp h)⟩
        rw [List.append_nil]
        exact stripPrefix?_eq_none_iff.mp missing
  · intro h
    have past := cut_append h
    have nowhere : stripPrefix? needle [] = none :=
      stripPrefix?_eq_none_iff.mpr fun here => nonempty (List.prefix_nil.mp here)
    rwa [List.append_nil, cut, nowhere] at past

/-! ### Lines -/

@[simp] theorem newlines_append : newlines (s ++ t) = newlines s + newlines t :=
  List.count_append

theorem newlines_of_notMem (h : '\n' ∉ s) : newlines s = 0 :=
  List.count_eq_zero.mpr h

/-- The first line ends at the first newline. -/
theorem throughLine_append_newline (h : '\n' ∉ s) :
    throughLine (s ++ '\n' :: rest) = (s ++ ['\n'], rest) := by
  induction s with
  | nil => simp [throughLine]
  | cons c s ih =>
    rw [List.mem_cons, not_or] at h
    rw [List.cons_append, throughLine, if_neg (Ne.symm h.1), ih h.2]
    rfl

/-- A first line goes on through a text without a newline. -/
theorem throughLine_append_of_notMem (h : '\n' ∉ s) :
    throughLine (s ++ t) = (s ++ (throughLine t).1, (throughLine t).2) := by
  induction s with
  | nil => rfl
  | cons c s ih =>
    rw [List.mem_cons, not_or] at h
    rw [List.cons_append, throughLine, if_neg (Ne.symm h.1), ih h.2]
    rfl

/-- A text without a newline is one line. -/
theorem throughLine_of_notMem (h : '\n' ∉ s) : throughLine s = (s, []) := by
  have whole := throughLine_append_of_notMem (t := []) h
  rwa [List.append_nil, throughLine, List.append_nil] at whole

/-- A text is a line with its newline and the rest, or one line that has none. -/
theorem exists_line (s : Text) :
    (∃ line rest, '\n' ∉ line ∧ s = line ++ '\n' :: rest) ∨ '\n' ∉ s := by
  by_cases h : '\n' ∈ s
  · obtain ⟨line, rest, whole, first⟩ := List.eq_append_cons_of_mem h
    exact Or.inl ⟨line, rest, first, whole⟩
  · exact Or.inr h

/-- A line with more behind it ends with a newline, and has no other. -/
theorem exists_line_of_throughLine (more : (throughLine s).2 ≠ []) :
    ∃ line, '\n' ∉ line ∧ (throughLine s).1 = line ++ ['\n'] := by
  rcases exists_line s with ⟨line, behind, inline, rfl⟩ | inline
  · rw [throughLine_append_newline inline]
    exact ⟨line, inline, rfl⟩
  · rw [throughLine_of_notMem inline] at more
    exact absurd rfl more

/-- What holds of a single line, and of a line in front of any text of which it holds, holds of all
texts. -/
@[elab_as_elim]
theorem lines_induction {motive : Text → Prop} (single : ∀ line, '\n' ∉ line → motive line)
    (more : ∀ line rest, '\n' ∉ line → motive rest → motive (line ++ '\n' :: rest)) (s : Text) :
    motive s := by
  rcases exists_line s with ⟨line, rest, inline, rfl⟩ | inline
  · exact more line rest inline (lines_induction single more rest)
  · exact single s inline
termination_by s.length
decreasing_by
  rename_i whole
  rw [whole, List.length_append, List.length_cons]
  omega

end EnumBindings.Text
