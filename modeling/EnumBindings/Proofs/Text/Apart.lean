import EnumBindings.Proofs.Text.Occurrence

/-!
# Texts that keep apart

Two texts keep apart if no occurrence of one shares a character with an occurrence of the other,
wherever they stand. This can be read off the two texts alone: no end of one is a beginning of the
other, and neither stands inside the other.

## Main definitions

* `Text.Free` — no occurrence of a needle begins in a text, whatever follows it
* `Text.Apart` — no occurrences of two texts have a character in common

## Main results

* `Text.free_cons` — a needle is compared with each end of the text
* `Text.Clear.before` — no occurrence reaches over into a text that does not begin in the needle
-/

namespace EnumBindings.Text

variable {needle s t rest : Text} {c : Char}

/-- No occurrence of the needle begins in the text, whatever follows it. -/
def Free (needle s : Text) : Prop := ∀ rest, Clear needle s rest

theorem free_nil : Free needle [] := fun _ => clear_nil

/-- A needle begins at the front of a text, or might with more behind it, exactly if one of the two
begins the other. -/
theorem free_cons :
    Free needle (c :: s) ↔ (¬ needle <+: c :: s ∧ ¬ c :: s <+: needle) ∧ Free needle s := by
  constructor
  · intro free
    refine ⟨⟨fun here => ?_, ?_⟩, fun rest => (free rest).2⟩
    · exact (free []).1 (here.trans (List.prefix_append (c :: s) []))
    · rintro ⟨rest, whole⟩
      exact (free rest).1 ⟨[], by rw [List.append_nil, ← whole]; rfl⟩
  · rintro ⟨⟨shorter, longer⟩, later⟩ rest
    refine ⟨fun here => ?_, later rest⟩
    exact (List.prefix_or_prefix_of_prefix here (List.prefix_append (c :: s) rest)).elim
      shorter longer

instance decidableFree (needle : Text) : (s : Text) → Decidable (Free needle s)
  | [] => .isTrue free_nil
  | _ :: s =>
    have := decidableFree needle s
    decidable_of_iff _ free_cons.symm

/-- Of a free text, each end is free. -/
theorem Free.of_append (free : Free needle (s ++ t)) : Free needle t :=
  fun rest => (clear_append.mp (free rest)).2

/-- A free text begins neither the needle nor what follows that. -/
theorem Free.not_isPrefix (free : Free needle s) (nonempty : s ≠ []) :
    ¬ s <+: needle ++ rest := by
  intro here
  obtain ⟨c, s, rfl⟩ := List.exists_cons_of_ne_nil nonempty
  obtain ⟨⟨shorter, longer⟩, -⟩ := free_cons.mp free
  exact (List.prefix_or_prefix_of_prefix here (List.prefix_append needle rest)).elim longer shorter

/-- A text without the first character of the needle is free of it. -/
theorem free_of_notMem (other : c ∉ s) : Free (c :: needle) s :=
  fun _ => clear_of_notMem other

/-- No occurrence of the needle reaches from a text into one behind it that does not begin inside
the needle. -/
theorem Clear.before (clear : Clear needle s []) (free : Free t needle.tail) :
    Clear needle s (t ++ rest) := by
  induction s with
  | nil => exact clear_nil
  | cons c s ih =>
    refine ⟨fun here => ?_, ih clear.2⟩
    have alone : ¬ needle <+: c :: s := by simpa using clear.1
    rcases List.prefix_or_prefix_of_prefix here (List.prefix_append (c :: s) (t ++ rest)) with
      within | ⟨behind, rfl⟩
    · exact alone within
    · -- What is left of the needle behind the text would begin the other text.
      have reaches : behind <+: t ++ rest := (List.prefix_append_right_inj (c :: s)).mp here
      have left : behind ≠ [] := by
        rintro rfl
        exact alone ⟨[], by simp⟩
      exact free.of_append.not_isPrefix left reaches

/-- No occurrence of one text has a character in common with one of the other. -/
def Apart (s t : Text) : Prop := Free s t ∧ Free t s

instance decidableApart (s t : Text) : Decidable (Apart s t) :=
  inferInstanceAs (Decidable (_ ∧ _))

theorem Apart.symm (apart : Apart s t) : Apart t s := And.symm apart

/-- A character keeps apart from a text that it is not in. -/
theorem apart_singleton (nonempty : needle ≠ []) (other : c ∉ needle) : Apart needle [c] := by
  refine ⟨?_, free_of_notMem other⟩
  obtain ⟨d, needle, rfl⟩ := List.exists_cons_of_ne_nil nonempty
  refine free_of_notMem fun there => other ?_
  rw [List.mem_singleton.mp there]
  exact List.mem_cons_self

/-- A text does not begin behind the first character of one that it keeps apart from. -/
theorem Apart.free_tail (apart : Apart s t) : Free t s.tail := by
  have free := apart.2
  rw [← List.take_append_drop 1 s] at free
  rw [← List.drop_one]
  exact free.of_append

end EnumBindings.Text
