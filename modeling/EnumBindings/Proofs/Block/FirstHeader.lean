import EnumBindings.Block.Header
import EnumBindings.Proofs.Text.Occurrence

/-!
# The first header of an enum

The header of an enum stands alone where no identifier character touches it. The block of the enum
begins behind the first such place.

## Main definitions

* `StandsAlone` — no identifier character comes directly before or after a place
* `FirstHeader` — the first place where the header of an enum stands alone

## Main results

* `header?_of_firstHeader` — the first header is the one that is found
* `exists_firstHeader` — where there is a header, there is a first one
* `opening_of_firstHeader`, `firstHeader_of_opening` — the block begins after the next opening brace
* `exists_front_of_opening` — the line on which the block begins is that of its opening brace
-/

namespace EnumBindings.Block

variable {needle before after : Text} {previous : Option Char}

/-- No identifier character comes directly before or after a place between two texts; `previous`
is the character in front of the first of them. -/
def StandsAlone (previous : Option Char) (before after : Text) : Prop :=
  isBoundary (before.getLast?.or previous) = true ∧ isBoundary after.head? = true

instance : Decidable (StandsAlone previous before after) :=
  inferInstanceAs (Decidable (_ ∧ _))

/-- A source has the first header of an enum between two texts. -/
structure FirstHeader (enum source before after : Text) : Prop where
  whole : source = before ++ headerText enum ++ after
  alone : StandsAlone none before after
  first : ∀ before' after', source = before' ++ headerText enum ++ after' →
    StandsAlone none before' after' → before.length ≤ before'.length

private theorem standingAlone?_here (nonempty : needle ≠ [])
    (alone : StandsAlone previous [] after) :
    standingAlone? needle previous (needle ++ after) = some (needle, after) := by
  have here : Text.stripPrefix? needle (needle ++ after) = some after :=
    Text.stripPrefix?_eq_some_iff.mpr rfl
  obtain ⟨c, cs, whole⟩ :=
    List.exists_cons_of_ne_nil (List.append_ne_nil_of_left_ne_nil nonempty after)
  have boundaries : (isBoundary previous && isBoundary after.head?) = true :=
    Bool.and_eq_true_iff.mpr alone
  rw [whole] at here ⊢
  rw [standingAlone?, here]
  simp only [if_pos boundaries]

/-- Where a needle does not stand alone, the search goes on behind the first character. -/
theorem standingAlone?_past {c : Char} {cs : Text}
    (missing : ∀ after, c :: cs = needle ++ after → ¬ StandsAlone previous [] after) :
    standingAlone? needle previous (c :: cs) =
      (standingAlone? needle (some c) cs).map fun (through, rest) => (c :: through, rest) := by
  rw [standingAlone?]
  split
  next rest found =>
    have touched : ¬ (isBoundary previous && isBoundary rest.head?) = true := fun boundaries =>
      missing rest (Text.stripPrefix?_eq_some_iff.mp found) (Bool.and_eq_true_iff.mp boundaries)
    rw [if_neg touched]
  next => rfl

theorem standsAlone_cons {c : Char} :
    StandsAlone previous (c :: before) after ↔ StandsAlone (some c) before after := by
  cases before <;> simp [StandsAlone, List.getLast?_cons]

/-- The first place where a needle stands alone is the one that is found. -/
theorem standingAlone?_of_first (nonempty : needle ≠ []) (alone : StandsAlone previous before after)
    (first : ∀ before' after', before ++ needle ++ after = before' ++ needle ++ after' →
      StandsAlone previous before' after' → before.length ≤ before'.length) :
    standingAlone? needle previous (before ++ needle ++ after) =
      some (before ++ needle, after) := by
  induction before generalizing previous with
  | nil => exact standingAlone?_here nonempty alone
  | cons c before ih =>
    -- The needle does not stand alone at once, as that would be before the first place.
    have past : ∀ after', c :: (before ++ needle ++ after) = needle ++ after' →
        ¬ StandsAlone previous [] after' := by
      intro after' same alone'
      have shorter := first [] after' same alone'
      simp at shorter
    have later := ih (standsAlone_cons.mp alone) fun before' after' same alone' => by
      have bound := first (c :: before') after' (by simpa using same)
        (standsAlone_cons.mpr alone')
      simpa using bound
    rw [List.cons_append, List.cons_append, standingAlone?_past past, later]
    rfl

/-- What is found is the first place where the needle stands alone. -/
theorem exists_first_of_standingAlone? {s through rest : Text} (nonempty : needle ≠ [])
    (found : standingAlone? needle previous s = some (through, rest)) :
    ∃ before, through = before ++ needle ∧ StandsAlone previous before rest ∧
      ∀ before' after', s = before' ++ needle ++ after' → StandsAlone previous before' after' →
        before.length ≤ before'.length := by
  induction s generalizing previous through with
  | nil => simp [standingAlone?] at found
  | cons c s ih =>
    by_cases here : ∃ after, c :: s = needle ++ after ∧ StandsAlone previous [] after
    · obtain ⟨after, whole, alone⟩ := here
      rw [whole, standingAlone?_here nonempty alone] at found
      cases found
      exact ⟨[], rfl, alone, fun _ _ _ _ => Nat.zero_le _⟩
    · have missing : ∀ after, c :: s = needle ++ after → ¬ StandsAlone previous [] after :=
        fun after whole alone => here ⟨after, whole, alone⟩
      rw [standingAlone?_past missing] at found
      obtain ⟨⟨front, back⟩, later, same⟩ := Option.map_eq_some_iff.mp found
      cases same
      obtain ⟨before, rfl, alone, first⟩ := ih later
      -- Any other place is here, which was excluded, or among those behind the first character.
      refine ⟨c :: before, rfl, standsAlone_cons.mpr alone, fun before' after' whole alone' => ?_⟩
      cases before' with
      | nil => exact absurd alone' (missing after' whole)
      | cons d before' =>
        cases whole
        have bound := first before' after' rfl (standsAlone_cons.mp alone')
        simpa using bound

theorem headerText_ne_nil (enum : Text) : headerText enum ≠ [] :=
  List.append_ne_nil_of_left_ne_nil (by decide) enum

/-- A header is the first one if its first character does not occur in front of it. -/
theorem firstHeader_of_notMem {enum source : Text} (unnamed : 'e' ∉ before)
    (whole : source = before ++ headerText enum ++ after) (alone : StandsAlone none before after) :
    FirstHeader enum source before after := by
  refine ⟨whole, alone, fun before' after' same _ => ?_⟩
  rw [whole, List.append_assoc, List.append_assoc, List.append_eq_append_iff] at same
  rcases same with ⟨between, longer, -⟩ | ⟨between, longer, header⟩
  · simp [longer]
  · cases between with
    | nil => simp [longer]
    | cons c between =>
      -- An earlier header would have its first character in front of this one.
      have initial := congrArg List.head? header
      rw [List.cons_append, List.head?_cons, show (headerText enum ++ after').head? = some 'e' from rfl,
        Option.some_inj] at initial
      exact absurd (by simp [longer, ← initial]) unnamed

/-- The first header is the one that is found. -/
theorem header?_of_firstHeader {enum source : Text}
    (h : FirstHeader enum source before after) :
    header? enum source = some (before ++ headerText enum, after) := by
  have first := h.first
  rw [h.whole] at first
  rw [header?, h.whole]
  exact standingAlone?_of_first (headerText_ne_nil enum) h.alone first

/-- What is found is the first header. -/
theorem firstHeader_of_header? {enum source through rest : Text}
    (found : header? enum source = some (through, rest)) :
    ∃ before, through = before ++ headerText enum ∧ FirstHeader enum source before rest := by
  obtain ⟨before, rfl, alone, first⟩ :=
    exists_first_of_standingAlone? (headerText_ne_nil enum) found
  exact ⟨before, rfl, header?_append found, alone, first⟩

/-- A header is the first one whatever stands behind the character that follows it. -/
theorem FirstHeader.exchange {enum source kept t : Text}
    (h : FirstHeader enum source before (kept ++ t)) (nonempty : kept ≠ []) (u : Text) :
    FirstHeader enum (before ++ headerText enum ++ (kept ++ u)) before (kept ++ u) := by
  -- Only the one character behind a header decides whether it stands alone.
  have boundary {w v v' : Text} (longer : w ≠ []) (place : Text)
      (alone : StandsAlone none place (w ++ v)) : StandsAlone none place (w ++ v') := by
    cases w with
    | nil => exact absurd rfl longer
    | cons c w => exact alone
  refine ⟨rfl, boundary nonempty before h.alone, fun before' after' whole alone => ?_⟩
  rcases Nat.lt_or_ge before'.length before.length with shorter | enough
  · -- An earlier header ends before the first one does, so it stands in the given source as well.
    obtain ⟨between, rfl⟩ : before' <+: before := by
      refine List.prefix_of_prefix_length_le ⟨headerText enum ++ after', ?_⟩
        ⟨headerText enum ++ (kept ++ u), List.append_assoc .. |>.symm⟩ (Nat.le_of_lt shorter)
      rw [whole, List.append_assoc]
    rw [List.append_assoc, List.append_assoc, List.append_assoc, List.append_cancel_left_eq]
      at whole
    obtain ⟨w, split⟩ : headerText enum <+: between ++ (headerText enum ++ kept) := by
      refine List.prefix_of_prefix_length_le ⟨after', whole.symm⟩ ⟨u, by simp⟩ ?_
      simp only [List.length_append]
      omega
    have behind : after' = w ++ u := by
      rw [← List.append_assoc, ← List.append_assoc, List.append_assoc between, ← split,
        List.append_assoc, List.append_cancel_left_eq] at whole
      exact whole.symm
    have longer : w ≠ [] := by
      rintro rfl
      have lengths := congrArg List.length split
      simp only [List.length_append, List.length_nil] at lengths shorter
      omega
    rw [behind] at alone
    refine h.first before' (w ++ t) ?_ (boundary longer before' alone)
    rw [h.whole, List.append_assoc before' between, List.append_assoc before',
      ← List.append_assoc (between ++ _), List.append_assoc between, ← split]
    simp
  · exact enough

/-- A source in which the header of an enum stands alone somewhere has a first header. -/
theorem exists_firstHeader {enum source before after : Text}
    (whole : source = before ++ headerText enum ++ after) (alone : StandsAlone none before after) :
    ∃ before' after', FirstHeader enum source before' after' := by
  by_cases earlier : ∃ before' after', source = before' ++ headerText enum ++ after' ∧
      StandsAlone none before' after' ∧ before'.length < before.length
  · obtain ⟨before', after', whole', alone', shorter⟩ := earlier
    exact exists_firstHeader whole' alone'
  · refine ⟨before, after, whole, alone, fun before' after' whole' alone' => ?_⟩
    exact Nat.le_of_not_lt fun shorter => earlier ⟨before', after', whole', alone', shorter⟩
termination_by before.length

/-- The block of an enum begins after the opening brace that follows its first header. -/
theorem opening_of_firstHeader {enum source gap body : Text}
    (h : FirstHeader enum source before (gap ++ '{' :: body)) (unopened : '{' ∉ gap) :
    ∃ line, opening enum source = .ok (line, body) := by
  have opened : Text.cut ['{'] (gap ++ '{' :: body) = some (gap, body) :=
    Text.cut_eq_some_iff.mpr ⟨by simp, Text.clear_singleton_iff.mpr unopened⟩
  refine ⟨1 + Text.newlines (before ++ headerText enum) + Text.newlines gap, ?_⟩
  rw [opening, header?_of_firstHeader h]
  simp only [opened]

/-- An opening brace follows the first header of an enum whose block begins somewhere. -/
theorem firstHeader_of_opening {enum source body : Text} {line : Nat}
    (opened : opening enum source = .ok (line, body)) :
    ∃ before gap, FirstHeader enum source before (gap ++ '{' :: body) ∧ '{' ∉ gap := by
  rw [opening] at opened
  split at opened
  next => cases opened
  next through rest found =>
    obtain ⟨before, -, header⟩ := firstHeader_of_header? found
    dsimp only at opened
    split at opened
    next => cases opened
    next gap body' cut =>
      cases opened
      obtain ⟨rfl, clear⟩ := Text.cut_eq_some_iff.mp cut
      rw [List.append_assoc] at header
      exact ⟨before, gap, header, Text.clear_singleton_iff.mp clear⟩

/-- A block begins on the line of its opening brace. -/
theorem exists_front_of_opening {enum source body : Text} {line : Nat}
    (opened : opening enum source = .ok (line, body)) :
    ∃ front, source = front ++ '{' :: body ∧ line = 1 + Text.newlines front := by
  unfold opening at opened
  split at opened
  next => cases opened
  next through rest found =>
    dsimp only at opened
    split at opened
    next => cases opened
    next gap behind brace =>
      cases opened
      refine ⟨through ++ gap, ?_, ?_⟩
      · rw [header?_append found, Text.cut_eq_some brace]
        simp
      · rw [Text.newlines_append, Nat.add_assoc]

end EnumBindings.Block
