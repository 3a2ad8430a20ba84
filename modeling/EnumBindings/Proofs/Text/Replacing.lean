import EnumBindings.Proofs.Text.Apart
import EnumBindings.Text.Replacement

/-!
# What replacements leave

A character that a replacement leaves parts the text: what stands in front of it and what stands
behind it are replaced on their own. So one can tell from the text itself which characters come
together where something between them is deleted.

## Main definitions

* `Replacement.Traces` — characters that are left part the text

## Main results

* `Replacement.substitute_append_apart`, `Replacement.substitute_append_cons` — a text that keeps
  apart from what is replaced parts the text around it, and so does a single character
* `Replacement.clear_substitute` — a replacement brings no text about that keeps apart from it
* `Replacement.substitute_eq_self_iff` — a deletion changes every text in which it finds something
* `Replacement.traces_substitute`, `Replacement.traces_applyAll` — characters that are not put in
  are traced
* `Replacement.substitute_append_of_vanishing` — a text of which nothing is left can be left out
* `Replacement.pair_mem_applyAll_comment_iff` — how `*/` comes to stand in a line of documentation
-/

namespace EnumBindings.Replacement

variable {old new needle s t kept before after front back : Text} {c d : Char} {nonempty : old ≠ []}

/-! ### One replacement -/

theorem substitute_of_cut_eq_none (missing : Text.cut old s = none) :
    substitute old new nonempty s = s := by
  rw [substitute]
  split
  next => rfl
  next found => cases missing.symm.trans found

theorem substitute_of_cut (found : Text.cut old s = some (before, after)) :
    substitute old new nonempty s = before ++ new ++ substitute old new nonempty after := by
  rw [substitute]
  split
  next missing => cases found.symm.trans missing
  next found' =>
    cases found.symm.trans found'
    rfl

/-- A text in which nothing is to be replaced stays as it is. -/
theorem substitute_of_clear (clear : Text.Clear old s []) : substitute old new nonempty s = s :=
  substitute_of_cut_eq_none ((Text.cut_eq_none_iff nonempty).mpr clear)

/-- The first occurrence is replaced in front of all others. -/
theorem substitute_append_old (clear : Text.Clear old before (old ++ after)) :
    substitute old new nonempty (before ++ old ++ after) =
      before ++ new ++ substitute old new nonempty after :=
  substitute_of_cut (Text.cut_eq_some_iff.mpr ⟨rfl, clear⟩)

/-- What holds of every text without an occurrence, and of a text with a first occurrence if it
holds of what follows that, holds of all texts. -/
@[elab_as_elim]
theorem occurrences_induction {motive : Text → Prop} (nonempty : old ≠ [])
    (clear : ∀ s, Text.Clear old s [] → motive s)
    (occurs : ∀ before after, Text.Clear old before (old ++ after) → motive after →
      motive (before ++ old ++ after)) (s : Text) : motive s := by
  cases found : Text.cut old s with
  | none => exact clear s ((Text.cut_eq_none_iff nonempty).mp found)
  | some parts =>
    obtain ⟨whole, first⟩ := Text.cut_eq_some_iff.mp found
    rw [whole]
    exact occurs _ _ first (occurrences_induction nonempty clear occurs parts.2)
termination_by s.length
decreasing_by
  have shorter := Text.length_of_cut found
  have := List.length_pos_iff.mpr nonempty
  omega

/-- A text in which nothing to be replaced begins is passed over. -/
theorem substitute_append_of_clear (clear : Text.Clear old s t) :
    substitute old new nonempty (s ++ t) = s ++ substitute old new nonempty t := by
  induction t using occurrences_induction nonempty with
  | clear t clear' =>
    have whole : Text.Clear old (s ++ t) [] := Text.clear_append.mpr ⟨by simpa using clear, clear'⟩
    rw [substitute_of_clear whole, substitute_of_clear clear']
  | occurs before after clear' _ =>
    have whole : Text.Clear old (s ++ before) (old ++ after) :=
      Text.clear_append.mpr ⟨by simpa using clear, clear'⟩
    rw [substitute_append_old clear', ← List.append_assoc, ← List.append_assoc,
      substitute_append_old whole, List.append_assoc, List.append_assoc, List.append_assoc]

/-- A character at which nothing to be replaced begins is left. -/
theorem substitute_cons (apart : ¬ old <+: c :: s) :
    substitute old new nonempty (c :: s) = c :: substitute old new nonempty s := by
  have past : Text.Clear old [c] s := ⟨apart, Text.clear_nil⟩
  exact substitute_append_of_clear past

/-- What is to be replaced is replaced at the beginning of a text. -/
theorem substitute_old_append :
    substitute old new nonempty (old ++ s) = new ++ substitute old new nonempty s := by
  have here : Text.Clear old [] (old ++ s) := Text.clear_nil
  exact substitute_append_old here

/-- In front of a text that does not begin inside what is replaced, a text is replaced on its
own. -/
theorem substitute_append (free : Text.Free kept old.tail) :
    substitute old new nonempty (s ++ (kept ++ t)) =
      substitute old new nonempty s ++ substitute old new nonempty (kept ++ t) := by
  induction s using occurrences_induction nonempty with
  | clear s clear =>
    rw [substitute_append_of_clear (clear.before free), substitute_of_clear clear]
  | occurs before after clear ih =>
    rw [List.append_assoc (before ++ old), substitute_append_old (clear.exchange _), ih,
      substitute_append_old clear, List.append_assoc (before ++ new)]

/-- A text that does not begin again inside itself is replaced wherever it stands. -/
theorem substitute_append_old_append (single : Text.Free old old.tail) :
    substitute old new nonempty (s ++ (old ++ t)) =
      substitute old new nonempty s ++ (new ++ substitute old new nonempty t) := by
  rw [substitute_append single, substitute_old_append]

/-- A text that keeps apart from what is replaced is left where it stands, and what surrounds it is
replaced on its own. -/
theorem substitute_append_apart (apart : Text.Apart old kept) :
    substitute old new nonempty (s ++ (kept ++ t)) =
      substitute old new nonempty s ++ (kept ++ substitute old new nonempty t) := by
  rw [substitute_append apart.free_tail, substitute_append_of_clear (apart.1 t)]

/-- A character that is no part of what is replaced parts the text. -/
theorem substitute_append_cons (other : c ∉ old) :
    substitute old new nonempty (s ++ c :: t) =
      substitute old new nonempty s ++ c :: substitute old new nonempty t :=
  substitute_append_apart (Text.apart_singleton nonempty other)

/-- A text of which nothing is left can be left out in front of another one. -/
theorem substitute_append_of_vanishing (vanishes : substitute old [] nonempty s = []) :
    substitute old [] nonempty (s ++ t) = substitute old [] nonempty t := by
  induction s using occurrences_induction nonempty with
  | clear s clear =>
    rw [substitute_of_clear clear] at vanishes
    rw [vanishes, List.nil_append]
  | occurs before after clear ih =>
    rw [substitute_append_old clear] at vanishes
    simp only [List.append_nil, List.append_eq_nil_iff] at vanishes
    rw [List.append_assoc (before ++ old), substitute_append_old (clear.exchange _),
      vanishes.1, ih vanishes.2]
    rfl

/-- A text from which something is deleted is left in part. -/
theorem substitute_sublist (s : Text) : (substitute old [] nonempty s).Sublist s := by
  induction s using occurrences_induction nonempty with
  | clear s clear =>
    simp only [substitute_of_clear clear, List.Sublist.refl]
  | occurs before after clear ih =>
    rw [substitute_append_old clear]
    exact ((List.Sublist.refl before).append (List.nil_sublist old)).append ih

/-- Only where nothing is to be deleted, a deletion changes nothing. -/
theorem substitute_eq_self_iff : substitute old [] nonempty s = s ↔ Text.Clear old s [] := by
  refine ⟨fun same => ?_, substitute_of_clear⟩
  cases s using occurrences_induction nonempty with
  | clear s clear => exact clear
  | occurs before after clear =>
    rw [substitute_append_old clear] at same
    have kept : (substitute old [] nonempty after).length ≤ after.length :=
      (substitute_sublist after).length_le
    have lengths := congrArg List.length same
    have removed := List.length_pos_iff.mpr nonempty
    simp only [List.length_append, List.length_nil] at lengths
    omega

/-! ### What a replacement brings about -/

/-- A needle that keeps apart from what is put in occurs nowhere after a replacement if it occurs in
no part of the text that is left. -/
theorem clear_substitute (apart : Text.Apart needle new)
    (parts : ∀ part, part <:+: s → Text.Clear old part [] → Text.Clear needle part []) :
    Text.Clear needle (substitute old new nonempty s) [] := by
  induction s using occurrences_induction nonempty with
  | clear s clear =>
    rw [substitute_of_clear clear]
    exact parts s List.infix_rfl clear
  | occurs before after clear ih =>
    have front : Text.Clear needle before [] :=
      parts before ⟨[], old ++ after, by simp⟩ clear.alone
    have back : Text.Clear needle (substitute old new nonempty after) [] := by
      refine ih fun part within => parts part (within.trans ?_)
      exact (List.suffix_append (before ++ old) after).isInfix
    -- Nothing begins in front of what is put in and goes on there, or begins in it.
    rw [substitute_append_old clear, List.append_assoc, Text.clear_append, Text.clear_append]
    exact ⟨by simpa using front.before apart.free_tail, apart.1 _, back⟩

/-- What is replaced is gone after that. -/
theorem clear_substitute_old (apart : Text.Apart old new) :
    Text.Clear old (substitute old new nonempty s) [] :=
  clear_substitute apart fun _ _ => id

/-- What does not occur in a text does not occur after a replacement there. -/
theorem clear_substitute_of_clear (apart : Text.Apart needle new)
    (clear : Text.Clear needle s []) : Text.Clear needle (substitute old new nonempty s) [] :=
  clear_substitute apart fun _ within _ => clear.of_isInfix within

/-! ### Where a character came from -/

/-- A character of a joined text stands in one of its parts. -/
private theorem append_eq_append_cons (whole : s ++ t = front ++ c :: back) :
    (∃ rest, s = front ++ c :: rest ∧ back = rest ++ t) ∨
      ∃ rest, front = s ++ rest ∧ t = rest ++ c :: back := by
  rcases List.append_eq_append_iff.mp whole with ⟨rest, rfl, here⟩ | ⟨rest, rfl, here⟩
  · exact .inr ⟨rest, rfl, here⟩
  · cases rest with
    | nil => exact .inr ⟨[], by simp, here.symm⟩
    | cons d rest =>
      cases here
      exact .inl ⟨rest, rfl, rfl⟩

/-- Each character of this kind that is left parts the text: it stood between two texts of which
what stands around it is left, and it is also left in front of the second one. -/
def Traces (f : Text → Text) (c : Char) : Prop :=
  ∀ ⦃s front back : Text⦄, f s = front ++ c :: back → ∃ front' back', s = front' ++ c :: back' ∧
    f front' = front ∧ f back' = back ∧ f (c :: back') = c :: back

/-- A replacement traces the characters that it does not put in. -/
theorem traces_substitute (other : c ∉ new) : Traces (substitute old new nonempty) c := by
  intro s front back left
  induction s using occurrences_induction nonempty generalizing front with
  | clear s clear =>
    rw [substitute_of_clear clear] at left
    subst left
    obtain ⟨clear, clear'⟩ := Text.clear_append.mp clear
    exact ⟨front, back, rfl, substitute_of_clear clear.alone, substitute_of_clear clear'.2,
      substitute_of_clear clear'⟩
  | occurs before after clear ih =>
    rw [substitute_append_old clear, List.append_assoc] at left
    -- The character was left of the text in front of the first occurrence, or of that behind it.
    rcases append_eq_append_cons left with ⟨rest, rfl, rfl⟩ | ⟨rest, rfl, later⟩
    · obtain ⟨clear, clear'⟩ := Text.clear_append.mp clear
      refine ⟨front, rest ++ old ++ after, by simp, substitute_of_clear clear.alone, ?_, ?_⟩
      · rw [substitute_append_old clear'.2, List.append_assoc]
      · exact (substitute_append_old clear').trans (List.append_assoc (c :: rest) _ _)
    · rcases append_eq_append_cons later with ⟨rest', rfl, -⟩ | ⟨front', rfl, last⟩
      · exact absurd (by simp) other
      · obtain ⟨kept, back', rfl, rfl, behind⟩ := ih last
        refine ⟨before ++ old ++ kept, back', by simp, ?_, behind⟩
        rw [substitute_append_old (clear.exchange _), List.append_assoc]

variable {f g : Text → Text}

theorem Traces.comp (later : Traces g c) (first : Traces f c) : Traces (fun s => g (f s)) c := by
  intro s front back left
  obtain ⟨front', back', left', rfl, rfl, same⟩ := later left
  obtain ⟨front', back', rfl, rfl, rfl, same'⟩ := first left'
  exact ⟨front', back', rfl, rfl, rfl, (congrArg g same').trans same⟩

/-- A character that is left was there before. -/
theorem Traces.mem (traces : Traces f c) (left : c ∈ f s) : c ∈ s := by
  obtain ⟨front, back, whole⟩ := List.append_of_mem left
  obtain ⟨front', back', rfl, -, -, -⟩ := traces whole
  simp

/-! ### Tables -/

variable {r : Replacement} {table : List Replacement}

/-- A replacement of a text that is not empty. -/
theorem apply_of_nonempty (nonempty : r.old ≠ []) :
    r.apply s = substitute r.old r.new nonempty s :=
  dif_neg nonempty

/-- The first replacement of a table is made first. -/
theorem applyAll_cons : applyAll (r :: table) s = applyAll table (r.apply s) := rfl

/-- A text that keeps apart from all that is replaced is left, and what surrounds it is replaced on
its own. -/
theorem applyAll_append_apart (nonempty : ∀ r ∈ table, r.old ≠ [])
    (apart : ∀ r ∈ table, Text.Apart r.old kept) :
    applyAll table (s ++ (kept ++ t)) = applyAll table s ++ (kept ++ applyAll table t) := by
  induction table generalizing s t with
  | nil => rfl
  | cons r table ih =>
    rw [List.forall_mem_cons] at nonempty apart
    simp only [applyAll_cons, apply_of_nonempty nonempty.1]
    rw [substitute_append_apart apart.1]
    exact ih nonempty.2 apart.2

/-- A table traces the characters that none of its replacements puts in. -/
theorem traces_applyAll (nonempty : ∀ r ∈ table, r.old ≠ []) (other : ∀ r ∈ table, c ∉ r.new) :
    Traces (applyAll table) c := by
  induction table with
  | nil => exact fun s front back left => ⟨front, back, left, rfl, rfl, rfl⟩
  | cons r table ih =>
    rw [List.forall_mem_cons] at nonempty other
    have first : Traces r.apply c := by
      have same : r.apply = substitute r.old r.new nonempty.1 :=
        funext fun s => apply_of_nonempty nonempty.1
      rw [same]
      exact traces_substitute other.1
    exact (ih nonempty.2 other.2).comp first

/-! ### The replacements in documentation -/

/-- The replacements in a line of documentation, one after the other. -/
theorem applyAll_comment (s : Text) : applyAll comment s =
    substitute ['<', '/', 't', 't', '>'] [] (List.cons_ne_nil _ _)
      (substitute ['<', 't', 't', '>'] [] (List.cons_ne_nil _ _)
        (substitute ['&'] ['a', 'n', 'd'] (List.cons_ne_nil _ _) s)) := rfl

/-- A line of documentation without ampersands and tags stays as it is. -/
theorem applyAll_comment_of_notMem {doc : Text} (untagged : '<' ∉ doc) (other : '&' ∉ doc) :
    applyAll comment doc = doc := by
  rw [applyAll_comment, substitute_of_clear (Text.clear_of_notMem other),
    substitute_of_clear (Text.clear_of_notMem untagged),
    substitute_of_clear (Text.clear_of_notMem untagged)]

/-- The replacements put no characters into a line of documentation but letters. -/
theorem traces_applyAll_comment (other : c ∉ ['a', 'n', 'd']) : Traces (applyAll comment) c := by
  refine traces_applyAll (by decide) fun r there => ?_
  simp only [comment, List.mem_cons, List.not_mem_nil, or_false] at there
  rcases there with rfl | rfl | rfl
  · exact other
  · exact List.not_mem_nil
  · exact List.not_mem_nil

/-- Once the replacements are made, `*/` stands in a line of documentation exactly if the line had a
star and a slash behind it with nothing in between but what is deleted. -/
theorem pair_mem_applyAll_comment_iff {doc : Text} :
    ['*', '/'] <:+: applyAll comment doc ↔
      ∃ front between back, doc = front ++ '*' :: (between ++ '/' :: back) ∧
        applyAll comment between = [] := by
  constructor
  · rintro ⟨front, back, whole⟩
    rw [List.append_assoc] at whole
    obtain ⟨front', rest, rfl, -, left, -⟩ := traces_applyAll_comment (by decide) whole.symm
    have left' : applyAll comment rest = [] ++ '/' :: back := left
    obtain ⟨between, back', rfl, same, -, -⟩ := traces_applyAll_comment (by decide) left'
    exact ⟨front', between, back', rfl, same⟩
  · rintro ⟨front, between, back, rfl, vanishes⟩
    simp only [applyAll_comment] at vanishes ⊢
    -- The slash begins no tag, so it is left behind a text of which nothing is left.
    have slash (t : Text) :
        substitute ['<', '/', 't', 't', '>'] [] (List.cons_ne_nil _ _) ('/' :: t) =
          '/' :: substitute ['<', '/', 't', 't', '>'] [] (List.cons_ne_nil _ _) t :=
      substitute_append_of_clear (Text.clear_of_notMem (by decide) : Text.Clear _ ['/'] t)
    -- The star is no part of any of the three texts that are replaced, and the slash only of one.
    rw [substitute_append_cons (by decide), substitute_append_cons (by decide),
      substitute_append_cons (by decide), substitute_append_cons (by decide),
      substitute_append_cons (by decide), substitute_append_of_vanishing vanishes, slash]
    exact ⟨_, _, List.append_assoc ..⟩

example : applyAll comment "a *<tt>/ b".toList = "a */ b".toList := by cbv

end EnumBindings.Replacement
