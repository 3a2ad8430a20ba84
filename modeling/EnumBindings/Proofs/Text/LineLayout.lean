import EnumBindings.Proofs.Text.Occurrence
import EnumBindings.Proofs.Text.Trimming

/-!
# The layout of lines

A text is laid out anew when some of its newlines are replaced, each by white space of its own that
has a newline in it: lines are indented, padded, parted by blank lines or ended in another way.
Parts of the text are laid out on their own, and a needle that has no white space is found where it
was before.

## Main definitions

* `Text.Relaid` — a text and the same text laid out anew
* `Text.Resumes` — the same with white space in front

## Main results

* `Text.Relaid.of_append` — parts of a text are laid out on their own
* `Text.Relaid.of_inline_append` — up to the first newline nothing changes
* `Text.Relaid.cut`, `Text.Relaid.cut_eq_none` — a cut at a visible needle parts both layouts alike
* `Text.Relaid.throughLine` — the first lines of both layouts differ in white space only
-/

namespace EnumBindings.Text

variable {needle s t s' t' rest rest' pad before after : Text} {c : Char}

/-- The second text is the first one laid out anew: each newline is replaced by some white space
with a newline in it, and all else stays. -/
inductive Relaid : Text → Text → Prop
  | nil : Relaid [] []
  | keep {c : Char} {s s' : Text} : c ≠ '\n' → Relaid s s' → Relaid (c :: s) (c :: s')
  | newline {pad s s' : Text} : (∀ c ∈ pad, isBlank c = true) → '\n' ∈ pad → Relaid s s' →
      Relaid ('\n' :: s) (pad ++ s')

/-- The second text is the first one laid out anew, with some white space in front. -/
def Resumes (s t : Text) : Prop :=
  ∃ blanks s', t = blanks ++ s' ∧ (∀ c ∈ blanks, isBlank c = true) ∧ Relaid s s'

namespace Relaid

theorem resumes (h : Relaid s s') : Resumes s s' :=
  ⟨[], s', rfl, fun _ there => absurd there List.not_mem_nil, h⟩

/-- A text can be left as it is. -/
theorem refl (s : Text) : Relaid s s := by
  induction s with
  | nil => exact .nil
  | cons c s ih =>
    by_cases broken : c = '\n'
    · subst broken
      exact .newline isBlank_newline List.mem_cons_self ih
    · exact .keep broken ih

/-! ### Parts of a text -/

theorem append (h : Relaid s s') (h' : Relaid t t') : Relaid (s ++ t) (s' ++ t') := by
  induction h with
  | nil => exact h'
  | keep other _ ih => exact .keep other ih
  | newline blank broken _ ih =>
    rw [List.append_assoc]
    exact .newline blank broken ih

/-- Parts of a text are laid out on their own. -/
theorem of_append (h : Relaid (s ++ t) rest) :
    ∃ s' t', rest = s' ++ t' ∧ Relaid s s' ∧ Relaid t t' := by
  induction s generalizing rest with
  | nil => exact ⟨[], rest, rfl, .nil, h⟩
  | cons c s ih =>
    cases h with
    | keep other h =>
      obtain ⟨s', t', rfl, first, second⟩ := ih h
      exact ⟨c :: s', t', rfl, .keep other first, second⟩
    | @newline pad _ _ blank broken h =>
      obtain ⟨s', t', rfl, first, second⟩ := ih h
      exact ⟨pad ++ s', t', (List.append_assoc ..).symm, .newline blank broken first, second⟩

/-- A text on one line stays as it is. -/
theorem eq_of_notMem (inline : '\n' ∉ s) (h : Relaid s s') : s' = s := by
  induction h with
  | nil => rfl
  | keep _ _ ih => rw [ih fun there => inline (List.mem_cons_of_mem _ there)]
  | newline => exact absurd List.mem_cons_self inline

/-- Up to the first newline nothing changes. -/
theorem of_inline_append (inline : '\n' ∉ s) (h : Relaid (s ++ t) rest) :
    ∃ t', rest = s ++ t' ∧ Relaid t t' := by
  obtain ⟨s', t', rfl, first, second⟩ := h.of_append
  rw [first.eq_of_notMem inline]
  exact ⟨t', rfl, second⟩

/-- In the place of a newline, a line ends in white space and the next one begins with it. -/
theorem of_newline (h : Relaid ('\n' :: t) rest) : ∃ back t',
    rest = back ++ '\n' :: t' ∧ '\n' ∉ back ∧ (∀ c ∈ back, isBlank c = true) ∧ Resumes t t' := by
  cases h with
  | keep other _ => exact absurd rfl other
  | @newline pad _ t' blank broken h =>
    obtain ⟨back, front, rfl, inline⟩ := List.eq_append_cons_of_mem broken
    exact ⟨back, front ++ t', by simp, inline, fun c there => blank c (by simp [there]), front, t',
      rfl, fun c there => blank c (by simp [there]), h⟩

/-! ### Searches -/

/-- A visible needle at the beginning of a text that was laid out anew was there before. -/
theorem isPrefix (visible : ∀ c ∈ needle, isBlank c = false) (h : Relaid s s')
    (here : needle <+: s') : needle <+: s := by
  induction needle generalizing s s' with
  | nil => exact List.nil_prefix
  | cons d needle ih =>
    cases h with
    | nil => exact here
    | keep other h =>
      obtain ⟨rfl, behind⟩ := List.cons_prefix_cons.mp here
      rw [List.cons_prefix_cons]
      exact ⟨rfl, ih (fun c there => visible c (List.mem_cons_of_mem _ there)) h behind⟩
    | @newline pad _ _ blank broken h =>
      -- White space stands at the beginning, which the needle does not have.
      obtain ⟨c, pad, rfl⟩ := List.exists_cons_of_ne_nil (List.ne_nil_of_mem broken)
      obtain ⟨rfl, -⟩ := List.cons_prefix_cons.mp here
      have hidden := blank _ List.mem_cons_self
      rw [visible _ List.mem_cons_self] at hidden
      cases hidden

/-- A text that a visible needle does not begin in has none when it is laid out anew. -/
theorem clear (nonempty : needle ≠ []) (visible : ∀ c ∈ needle, isBlank c = false)
    (h : Relaid s s') (h' : Relaid rest rest') (clear : Clear needle s rest) :
    Clear needle s' rest' := by
  induction h with
  | nil => exact clear_nil
  | @keep c s s' other h ih =>
    refine ⟨fun here => clear.1 ?_, ih clear.2⟩
    exact ((Relaid.keep other h).append h').isPrefix visible here
  | @newline pad s s' blank broken h ih =>
    rw [clear_append]
    refine ⟨?_, ih clear.2⟩
    -- The needle begins with a visible character, which the white space does not have.
    obtain ⟨d, needle, rfl⟩ := List.exists_cons_of_ne_nil nonempty
    refine clear_of_notMem fun there => ?_
    have hidden := blank d there
    rw [visible d List.mem_cons_self] at hidden
    cases hidden

theorem newline_notMem (visible : ∀ c ∈ needle, isBlank c = false) : '\n' ∉ needle :=
  fun there => absurd (visible '\n' there) (by decide)

/-- A cut at a visible needle parts both layouts alike. -/
theorem cut (nonempty : needle ≠ []) (visible : ∀ c ∈ needle, isBlank c = false)
    (h : Relaid s s') (found : cut needle s = some (before, after)) :
    ∃ before' after', Text.cut needle s' = some (before', after') ∧ Relaid before before' ∧
      Relaid after after' := by
  obtain ⟨rfl, clear⟩ := cut_eq_some_iff.mp found
  rw [List.append_assoc] at h
  obtain ⟨before', t', rfl, front, behind⟩ := h.of_append
  obtain ⟨after', rfl, back⟩ := behind.of_inline_append (newline_notMem visible)
  refine ⟨before', after', cut_eq_some_iff.mpr ⟨(List.append_assoc ..).symm, ?_⟩, front, back⟩
  exact front.clear nonempty visible behind clear

/-- No cut at a visible needle is made in either layout, if none is made in the first. -/
theorem cut_eq_none (nonempty : needle ≠ []) (visible : ∀ c ∈ needle, isBlank c = false)
    (h : Relaid s s') (missing : Text.cut needle s = none) : Text.cut needle s' = none := by
  rw [cut_eq_none_iff nonempty] at missing ⊢
  exact h.clear nonempty visible .nil missing

/-- The first lines of both layouts differ in white space only, and so does what stands behind
them. -/
theorem throughLine (h : Relaid s s') :
    trim (throughLine s').1 = trim (throughLine s).1 ∧
      Resumes (Text.throughLine s).2 (Text.throughLine s').2 := by
  rcases exists_line s with ⟨line, behind, inline, rfl⟩ | inline
  · obtain ⟨u, rfl, broken⟩ := h.of_inline_append inline
    obtain ⟨back, rest, rfl, inside, blank, resumed⟩ := broken.of_newline
    have whole : line ++ (back ++ '\n' :: rest) = line ++ back ++ '\n' :: rest := by
      rw [List.append_assoc]
    rw [whole, throughLine_append_newline (by simp [inline, inside]),
      throughLine_append_newline inline]
    refine ⟨?_, resumed⟩
    rw [trim_append_blank isBlank_newline, trim_append_blank isBlank_newline,
      trim_append_blank blank]
  · rw [h.eq_of_notMem inline, throughLine_of_notMem inline]
    exact ⟨rfl, Relaid.nil.resumes⟩

end Relaid

end EnumBindings.Text
