import EnumBindings.Proofs.Text.Replacing

/-!
# Tags that are left in documentation

The replacements in documentation delete tags, first the opening and then the closing ones, each in
one pass from the left. Where a tag is deleted, the characters around it come together, and they may
make up a tag themselves. A closing tag that comes together when the opening tags are deleted is
deleted in its turn. All other tags that come together stay: an opening tag always, and a closing
one when another closing tag had to be deleted for it.

So a tag is left in a line exactly if its characters stand there in order with nothing between them
but text that vanishes, some of which vanishes too late. Text vanishes if it is made up of opening
tags, and of closing tags with opening tags strewn between their characters.

## Main definitions

* `Replacement.Spaced` — a word with gaps between its characters
* `Replacement.OpeningTags`, `Replacement.Vanishing` — what the first pass deletes, and what both do
* `Replacement.Late` — a word that comes together too late

## Main results

* `Replacement.exists_spaced` — a word that is left stood there with gaps
* `Replacement.vanishing_iff` — of which texts nothing is left
* `Replacement.isInfix_of_late_opening`, `Replacement.isInfix_of_late_closing`,
  `Replacement.late_of_isInfix` — which tags are left
* `Replacement.applyAll_applyAll_comment_iff` — tags that are left go the next time
* `Replacement.tags_left_iff` — which lines are rewritten for good
-/

namespace EnumBindings.Replacement

variable {c d : Char} {s t gap word tag line front back : Text} {f : Text → Text}
  {Gap Gap' : Text → Prop}

/-! ### Words with gaps -/

/-- The characters of a word in order, with a gap of some kind between each two. -/
inductive Spaced (Gap : Text → Prop) : Text → Text → Prop
  | last (c : Char) : Spaced Gap [c] [c]
  | cons {c : Char} {gap word s : Text} : Gap gap → Spaced Gap word s →
      Spaced Gap (c :: word) (c :: (gap ++ s))

namespace Spaced

theorem mono (gaps : ∀ gap, Gap gap → Gap' gap) (spaced : Spaced Gap word s) :
    Spaced Gap' word s := by
  induction spaced with
  | last => exact .last _
  | cons here _ ih => exact .cons (gaps _ here) ih

/-- Without gaps, there is just the word. -/
theorem eq_of_nil (spaced : Spaced (· = []) word s) : s = word := by
  induction spaced with
  | last => rfl
  | cons here _ ih => rw [here, ih, List.nil_append]

theorem notMem (gaps : ∀ gap, Gap gap → c ∉ gap) (spaced : Spaced Gap word s)
    (other : c ∉ word) : c ∉ s := by
  induction spaced with
  | last => exact other
  | cons here _ ih =>
    rw [List.mem_cons, not_or] at other
    rw [List.mem_cons, List.mem_append, not_or, not_or]
    exact ⟨other.1, gaps _ here, ih other.2⟩

/-- The first character of the word comes first. -/
theorem exists_cons (spaced : Spaced Gap (c :: word) s) : ∃ rest, s = c :: rest := by
  cases spaced with
  | last => exact ⟨[], rfl⟩
  | cons => exact ⟨_, rfl⟩

end Spaced

/-- A word that is left stood in the text with gaps of which nothing is left. -/
theorem exists_spaced (traces : ∀ c ∈ word, Traces f c) (nonempty : word ≠ [])
    (left : f s = front ++ (word ++ back)) : ∃ front' spaced back',
      s = front' ++ (spaced ++ back') ∧ f front' = front ∧ f back' = back ∧
        Spaced (f · = []) word spaced ∧ f (spaced ++ back') = word ++ back := by
  induction word generalizing s front with
  | nil => exact absurd rfl nonempty
  | cons c word ih =>
    rw [List.forall_mem_cons] at traces
    obtain ⟨front', rest, rfl, rfl, left', whole⟩ := traces.1 left
    cases word with
    | nil => exact ⟨front', [c], rest, rfl, rfl, left', .last c, whole⟩
    | cons d word =>
      -- The gap behind the character is what stands in front of the other characters.
      have behind : f rest = [] ++ (d :: word ++ back) := left'
      obtain ⟨gap, spaced, back', rfl, nothing, rfl, later, -⟩ :=
        ih traces.2 (List.cons_ne_nil _ _) behind
      refine ⟨front', c :: (gap ++ spaced), back', ?_, rfl, rfl, .cons nothing later, ?_⟩
      · simp
      · simpa using whole

/-! ### The three passes -/

/-- The tag that begins typewriter text. -/
def openingTag : Text := ['<', 't', 't', '>']

/-- The tag that ends typewriter text. -/
def closingTag : Text := ['<', '/', 't', 't', '>']

theorem openingTag_ne_nil : openingTag ≠ [] := List.cons_ne_nil _ _

theorem closingTag_ne_nil : closingTag ≠ [] := List.cons_ne_nil _ _

/-- A text with each ampersand spelled out. -/
def spellOut (s : Text) : Text := substitute ['&'] ['a', 'n', 'd'] (List.cons_ne_nil _ _) s

/-- A text without its opening tags. -/
def dropOpening (s : Text) : Text := substitute openingTag [] openingTag_ne_nil s

/-- A text without its closing tags. -/
def dropClosing (s : Text) : Text := substitute closingTag [] closingTag_ne_nil s

theorem applyAll_comment_eq (s : Text) :
    applyAll comment s = dropClosing (dropOpening (spellOut s)) := rfl

theorem spellOut_append (other : '&' ∉ s) : spellOut (s ++ t) = s ++ spellOut t :=
  substitute_append_of_clear (Text.clear_of_notMem other)

theorem dropOpening_tag_append : dropOpening (openingTag ++ s) = dropOpening s :=
  substitute_old_append

theorem dropClosing_tag_append : dropClosing (closingTag ++ s) = dropClosing s :=
  substitute_old_append

/-- A text in front of an angle bracket is without opening tags on its own. -/
theorem dropOpening_append_cons :
    dropOpening (s ++ '<' :: t) = dropOpening s ++ dropOpening ('<' :: t) := by
  have free : Text.Free ['<'] openingTag.tail := Text.free_of_notMem (by decide)
  exact substitute_append free

/-- A text in front of an angle bracket is without closing tags on its own. -/
theorem dropClosing_append_cons :
    dropClosing (s ++ '<' :: t) = dropClosing s ++ dropClosing ('<' :: t) := by
  have free : Text.Free ['<'] closingTag.tail := Text.free_of_notMem (by decide)
  exact substitute_append free

theorem dropOpening_cons (apart : ¬ openingTag <+: c :: s) :
    dropOpening (c :: s) = c :: dropOpening s :=
  substitute_cons apart

theorem dropClosing_cons (apart : ¬ closingTag <+: c :: s) :
    dropClosing (c :: s) = c :: dropClosing s :=
  substitute_cons apart

/-- Only an angle bracket begins a tag. -/
theorem not_tag_isPrefix (other : c ≠ '<') : ¬ '<' :: tag <+: c :: s :=
  fun here => other (List.cons_prefix_cons.mp here).1.symm

/-- A character that begins nothing to be replaced is left. -/
theorem applyAll_comment_cons (other : c ≠ '<') (other' : c ≠ '&') :
    applyAll comment (c :: s) = c :: applyAll comment s := by
  have first : spellOut (c :: s) = c :: spellOut s :=
    spellOut_append (s := [c]) (by simpa using Ne.symm other')
  rw [applyAll_comment_eq, first, dropOpening_cons (not_tag_isPrefix other),
    dropClosing_cons (not_tag_isPrefix other)]
  rfl

/-- An angle bracket that begins no tag when it is the turn of that tag is left, and parts the
text. -/
theorem applyAll_comment_append_cons (apart : ¬ openingTag <+: '<' :: spellOut t)
    (apart' : ¬ closingTag <+: '<' :: dropOpening (spellOut t)) :
    applyAll comment (s ++ '<' :: t) = applyAll comment s ++ '<' :: applyAll comment t := by
  have spelled : spellOut (s ++ '<' :: t) = spellOut s ++ '<' :: spellOut t :=
    substitute_append_cons (by decide)
  rw [applyAll_comment_eq, spelled, dropOpening_append_cons, dropOpening_cons apart,
    dropClosing_append_cons, dropClosing_cons apart']
  rfl

/-! ### Texts that vanish -/

/-- Opening tags, one after the other. -/
inductive OpeningTags : Text → Prop
  | nil : OpeningTags []
  | cons {s : Text} : OpeningTags s → OpeningTags (openingTag ++ s)

/-- Opening tags, and closing tags with opening tags strewn between their characters, one after the
other. -/
inductive Vanishing : Text → Prop
  | nil : Vanishing []
  | opening {s : Text} : Vanishing s → Vanishing (openingTag ++ s)
  | closing {tag s : Text} : Spaced OpeningTags closingTag tag → Vanishing s → Vanishing (tag ++ s)

theorem OpeningTags.append_vanishing (tags : OpeningTags gap) (vanishing : Vanishing s) :
    Vanishing (gap ++ s) := by
  induction tags with
  | nil => exact vanishing
  | cons _ ih => exact List.append_assoc openingTag _ s ▸ .opening ih

theorem OpeningTags.vanishing (tags : OpeningTags gap) : Vanishing gap := by
  simpa using tags.append_vanishing .nil

theorem Vanishing.ampersand_notMem (vanishing : Vanishing s) : '&' ∉ s := by
  have opening {tags : Text} (row : OpeningTags tags) : '&' ∉ tags := by
    induction row with
    | nil => exact List.not_mem_nil
    | cons _ ih => exact fun there => (List.mem_append.mp there).elim (by decide) ih
  induction vanishing with
  | nil => exact List.not_mem_nil
  | opening _ ih => exact fun there => (List.mem_append.mp there).elim (by decide) ih
  | closing spaced _ ih =>
    have tag := spaced.notMem (fun _ => opening) (by decide : '&' ∉ closingTag)
    exact fun there => (List.mem_append.mp there).elim tag ih

/-- A text that vanishes is empty or begins with an angle bracket. -/
theorem Vanishing.eq_nil_or_cons (vanishing : Vanishing gap) :
    gap = [] ∨ ∃ rest, gap = '<' :: rest := by
  cases vanishing with
  | nil => exact .inl rfl
  | opening => exact .inr ⟨_, rfl⟩
  | closing spaced =>
    obtain ⟨rest, rfl⟩ := spaced.exists_cons
    exact .inr ⟨_, rfl⟩

/-- Opening tags are dropped in front of any text. -/
theorem OpeningTags.dropOpening_append (tags : OpeningTags gap) :
    dropOpening (gap ++ t) = dropOpening t := by
  induction tags with
  | nil => rfl
  | cons _ ih => rw [List.append_assoc, dropOpening_tag_append, ih]

/-- All is dropped only of opening tags. -/
theorem openingTags_of_dropOpening (nothing : dropOpening s = []) : OpeningTags s := by
  induction s using occurrences_induction openingTag_ne_nil with
  | clear s clear =>
    rw [dropOpening, substitute_of_clear clear] at nothing
    rw [nothing]
    exact .nil
  | occurs before after clear ih =>
    rw [dropOpening, substitute_append_old clear, List.append_nil,
      List.append_eq_nil_iff] at nothing
    rw [nothing.1]
    exact .cons (ih nothing.2)

/-- Once the opening tags are dropped, a word comes together that had only these in its gaps. -/
theorem Spaced.dropOpening_append (spaced : Spaced OpeningTags word s) (plain : '<' ∉ word) :
    dropOpening (s ++ t) = word ++ dropOpening t := by
  induction spaced with
  | last c =>
    rw [List.mem_singleton] at plain
    exact dropOpening_cons (not_tag_isPrefix (Ne.symm plain))
  | cons here _ ih =>
    rw [List.mem_cons, not_or] at plain
    rw [List.cons_append, List.append_assoc, dropOpening_cons (not_tag_isPrefix (Ne.symm plain.1)),
      here.dropOpening_append, ih plain.2]
    rfl

/-- So does a closing tag, angle bracket included. -/
theorem dropOpening_closing_append (spaced : Spaced OpeningTags closingTag tag) :
    dropOpening (tag ++ t) = closingTag ++ dropOpening t := by
  cases spaced with
  | @cons _ gap _ s here later =>
    obtain ⟨rest, rfl⟩ := later.exists_cons
    -- Behind its angle bracket is a slash or another bracket, so it begins no opening tag.
    have apart : ¬ openingTag <+: '<' :: (gap ++ ('/' :: rest) ++ t) := by
      rcases here.vanishing.eq_nil_or_cons with rfl | ⟨_, rfl⟩ <;>
        simp [openingTag, List.cons_prefix_cons]
    rw [List.cons_append, dropOpening_cons apart, List.append_assoc, here.dropOpening_append,
      later.dropOpening_append (by decide)]
    rfl

/-- Nothing is left of a vanishing text, whatever follows it. -/
theorem Vanishing.applyAll_append (vanishing : Vanishing gap) :
    applyAll comment (gap ++ t) = applyAll comment t := by
  induction vanishing with
  | nil => rfl
  | opening _ ih =>
    rw [List.append_assoc, applyAll_comment_eq, spellOut_append (by decide),
      dropOpening_tag_append, ← applyAll_comment_eq, ih]
  | closing spaced later ih =>
    have other := (Vanishing.closing spaced .nil).ampersand_notMem
    rw [List.append_nil] at other
    rw [List.append_assoc, applyAll_comment_eq, spellOut_append other,
      dropOpening_closing_append spaced, dropClosing_tag_append, ← applyAll_comment_eq, ih]

/-- A text without ampersands of which the second and third pass leave nothing is vanishing. -/
theorem vanishing_of_dropClosing (nothing : dropClosing (dropOpening s) = []) : Vanishing s := by
  generalize left : dropOpening s = opened at nothing
  induction opened using occurrences_induction closingTag_ne_nil generalizing s with
  | clear opened clear =>
    rw [dropClosing, substitute_of_clear clear] at nothing
    exact (openingTags_of_dropOpening (left.trans nothing)).vanishing
  | occurs before after clear ih =>
    rw [dropClosing, substitute_append_old clear, List.append_nil,
      List.append_eq_nil_iff] at nothing
    rw [nothing.1, List.append_assoc] at left
    -- The first closing tag had opening tags in front of it and between its characters.
    obtain ⟨front, tag, back, rfl, opening, rest, spaced, -⟩ :=
      exists_spaced (fun c _ => traces_substitute List.not_mem_nil) closingTag_ne_nil left
    refine (openingTags_of_dropOpening opening).append_vanishing (.closing ?_ (ih rest nothing.2))
    exact spaced.mono fun _ => openingTags_of_dropOpening

/-- Of a text with an ampersand, letters are left. -/
theorem ampersand_notMem_of_applyAll_comment (nothing : applyAll comment s = []) : '&' ∉ s := by
  intro there
  obtain ⟨front, back, rfl⟩ := List.append_of_mem there
  have single : Text.Free ['&'] ['&'].tail := Text.free_nil
  have spelled : spellOut (front ++ '&' :: back) =
      spellOut front ++ 'a' :: 'n' :: 'd' :: spellOut back :=
    substitute_append_old_append single
  have opened : dropOpening (spellOut front ++ 'a' :: 'n' :: 'd' :: spellOut back) =
      dropOpening (spellOut front) ++ 'a' :: dropOpening ('n' :: 'd' :: spellOut back) :=
    substitute_append_cons (by decide)
  have closed {s t : Text} :
      dropClosing (s ++ 'a' :: t) = dropClosing s ++ 'a' :: dropClosing t :=
    substitute_append_cons (by decide)
  rw [applyAll_comment_eq, spelled, opened, closed] at nothing
  exact List.append_ne_nil_of_right_ne_nil _ (List.cons_ne_nil _ _) nothing

/-- Nothing is left of exactly the vanishing texts. -/
theorem vanishing_iff : applyAll comment s = [] ↔ Vanishing s := by
  constructor
  · intro nothing
    have same : spellOut s = s :=
      substitute_of_clear (Text.clear_of_notMem (ampersand_notMem_of_applyAll_comment nothing))
    rw [applyAll_comment_eq, same] at nothing
    exact vanishing_of_dropClosing nothing
  · intro vanishing
    have nothing := vanishing.applyAll_append (t := [])
    rwa [List.append_nil, applyAll_comment_of_notMem List.not_mem_nil List.not_mem_nil] at nothing

/-! ### Tags that come together -/

/-- A word comes together too late in a line: its characters stand there with gaps that vanish, but
the gaps are not of the kind that is gone when it is the turn of the word. -/
def Late (Early : Text → Prop) (word line : Text) : Prop :=
  ∃ s, s <:+: line ∧ Spaced Vanishing word s ∧ ¬ Spaced Early word s

/-- What comes before the turn of a tag: it leaves all characters but angle brackets, and of a gap
that vanishes it leaves nothing, if the gap is early, or else something that begins with an angle
bracket. -/
structure Earlier (pass : Text → Text) (Early : Text → Prop) : Prop where
  cons : ∀ {c s}, c ≠ '<' → pass (c :: s) = c :: pass s
  gap : ∀ {gap s}, Vanishing gap →
    Early gap ∧ pass (gap ++ s) = pass s ∨ ∃ rest, pass (gap ++ s) = '<' :: rest

variable {pass : Text → Text} {Early : Text → Prop}

/-- Before the turn of the opening tags, nothing is deleted. -/
theorem earlier_openingTag : Earlier id (· = []) where
  cons _ := rfl
  gap vanishing := by
    rcases vanishing.eq_nil_or_cons with rfl | ⟨rest, rfl⟩
    · exact .inl ⟨rfl, rfl⟩
    · exact .inr ⟨_, rfl⟩

/-- Before the turn of the closing tags, the opening tags are deleted. -/
theorem earlier_closingTag : Earlier dropOpening OpeningTags where
  cons other := dropOpening_cons (not_tag_isPrefix other)
  gap vanishing := by
    induction vanishing with
    | nil => exact .inl ⟨.nil, rfl⟩
    | opening _ ih =>
      rw [List.append_assoc, dropOpening_tag_append]
      exact ih.imp_left fun ⟨tags, same⟩ => ⟨.cons tags, same⟩
    | closing spaced _ _ =>
      rw [List.append_assoc, dropOpening_closing_append spaced]
      exact .inr ⟨_, rfl⟩

namespace Earlier

/-- A word that has come together behind a gap has its characters together behind an early gap. -/
theorem of_gap (earlier : Earlier pass Early) (vanishing : Vanishing gap) (plain : '<' ∉ word)
    (nonempty : word ≠ []) (here : word <+: pass (gap ++ s)) : Early gap ∧ word <+: pass s := by
  rcases earlier.gap vanishing (s := s) with ⟨early, same⟩ | ⟨rest, same⟩
  · rw [same] at here
    exact ⟨early, here⟩
  · -- Otherwise the word would begin with the angle bracket that is left of the gap.
    obtain ⟨c, word, rfl⟩ := List.exists_cons_of_ne_nil nonempty
    rw [same] at here
    exact absurd List.mem_cons_self ((List.cons_prefix_cons.mp here).1 ▸ plain)

/-- A word that has come together had early gaps. -/
theorem spaced (earlier : Earlier pass Early) (spaced : Spaced Vanishing word s)
    (plain : '<' ∉ word) (here : word <+: pass (s ++ t)) : Spaced Early word s := by
  induction spaced with
  | last => exact .last _
  | @cons c gap word s vanishing later ih =>
    rw [List.mem_cons, not_or] at plain
    rw [List.cons_append, earlier.cons (Ne.symm plain.1), List.append_assoc,
      List.cons_prefix_cons] at here
    have nonempty : word ≠ [] := by cases later <;> exact List.cons_ne_nil _ _
    obtain ⟨early, here⟩ := earlier.of_gap vanishing plain.2 nonempty here.2
    exact .cons early (ih plain.2 here)

/-- A word does not come together behind a gap from the characters of a word that begins with
another one. -/
theorem not_isPrefix (earlier : Earlier pass Early) (vanishing : Vanishing gap)
    (spaced : Spaced Vanishing (c :: word) s) (plain : '<' ∉ d :: tag) (bracket : c ≠ '<')
    (other : d ≠ c) : ¬ d :: tag <+: pass (gap ++ (s ++ t)) := by
  intro here
  obtain ⟨rest, rfl⟩ := spaced.exists_cons
  have behind := (earlier.of_gap vanishing plain (List.cons_ne_nil _ _) here).2
  rw [List.cons_append, earlier.cons bracket] at behind
  exact other (List.cons_prefix_cons.mp behind).1

end Earlier

/-- A word with gaps that vanish is left without them, if it begins no tag. -/
theorem Spaced.applyAll_append (spaced : Spaced Vanishing word s) (plain : '<' ∉ word)
    (other : '&' ∉ word) : applyAll comment (s ++ t) = word ++ applyAll comment t := by
  induction spaced with
  | last c =>
    rw [List.mem_singleton] at plain other
    exact applyAll_comment_cons (Ne.symm plain) (Ne.symm other)
  | cons vanishing _ ih =>
    rw [List.mem_cons, not_or] at plain other
    rw [List.cons_append, List.append_assoc,
      applyAll_comment_cons (Ne.symm plain.1) (Ne.symm other.1), vanishing.applyAll_append,
      ih plain.2 other.2]
    rfl

/-- A tag is left if its angle bracket begins no tag when it is the turn of that tag. -/
theorem tag_isInfix (vanishing : Vanishing gap) (spaced : Spaced Vanishing word s)
    (plain : '<' ∉ word) (other : '&' ∉ word)
    (apart : ∀ t, ¬ openingTag <+: '<' :: (gap ++ (s ++ t)))
    (apart' : ∀ t, ¬ closingTag <+: '<' :: dropOpening (gap ++ (s ++ t))) :
    '<' :: word <:+: applyAll comment (front ++ '<' :: (gap ++ s) ++ back) := by
  have unspelled : spellOut (gap ++ (s ++ back)) = gap ++ (s ++ spellOut back) := by
    rw [spellOut_append vanishing.ampersand_notMem,
      spellOut_append (spaced.notMem (fun _ => Vanishing.ampersand_notMem) other)]
  -- The bracket parts the line, and behind it the rest of the word is left without its gaps.
  have left : applyAll comment (front ++ '<' :: (gap ++ (s ++ back))) =
      applyAll comment front ++ '<' :: (word ++ applyAll comment back) := by
    rw [applyAll_comment_append_cons, vanishing.applyAll_append,
      spaced.applyAll_append plain other]
    · rw [unspelled]
      exact apart _
    · rw [unspelled]
      exact apart' _
  refine ⟨applyAll comment front, applyAll comment back, ?_⟩
  simpa using left.symm

/-- An opening tag is left if it was not one from the first. -/
theorem isInfix_of_late_opening (late : Late (· = []) openingTag line) :
    openingTag <:+: applyAll comment line := by
  obtain ⟨s, ⟨front, back, rfl⟩, spaced, late⟩ := late
  cases spaced with
  | cons vanishing spaced =>
    refine tag_isInfix vanishing spaced (by decide) (by decide) (fun t here => late ?_)
      (fun t here => ?_)
    · have behind := (List.cons_prefix_cons.mp here).2
      obtain ⟨early, behind⟩ :=
        earlier_openingTag.of_gap vanishing (by decide) (List.cons_ne_nil _ _) behind
      exact .cons early (earlier_openingTag.spaced spaced (by decide) behind)
    · exact earlier_closingTag.not_isPrefix vanishing spaced (by decide) (by decide) (by decide)
        (List.cons_prefix_cons.mp here).2

/-- A closing tag is left if it is not one once the opening tags are deleted. -/
theorem isInfix_of_late_closing (late : Late OpeningTags closingTag line) :
    closingTag <:+: applyAll comment line := by
  obtain ⟨s, ⟨front, back, rfl⟩, spaced, late⟩ := late
  cases spaced with
  | cons vanishing spaced =>
    refine tag_isInfix vanishing spaced (by decide) (by decide) (fun t here => ?_)
      (fun t here => late ?_)
    · exact earlier_openingTag.not_isPrefix vanishing spaced (by decide) (by decide) (by decide)
        (List.cons_prefix_cons.mp here).2
    · have behind := (List.cons_prefix_cons.mp here).2
      obtain ⟨early, behind⟩ :=
        earlier_closingTag.of_gap vanishing (by decide) (List.cons_ne_nil _ _) behind
      exact .cons early (earlier_closingTag.spaced spaced (by decide) behind)

/-- Only a tag that came together too late is left. -/
theorem late_of_isInfix (letters : ∀ c ∈ tag, c ∉ ['a', 'n', 'd']) (nonempty : tag ≠ [])
    (deleted : ∀ s, Spaced Early tag s → Vanishing s) (left : tag <:+: applyAll comment line) :
    Late Early tag line := by
  obtain ⟨front, back, whole⟩ := left
  rw [List.append_assoc] at whole
  obtain ⟨front', s, back', rfl, -, rest, spaced, kept⟩ :=
    exists_spaced (fun c there => traces_applyAll_comment (letters c there)) nonempty whole.symm
  refine ⟨s, ⟨front', back', by simp⟩, spaced.mono fun _ => vanishing_iff.mp, fun early => ?_⟩
  -- With early gaps the tag would have been deleted here.
  rw [(deleted s early).applyAll_append, rest] at kept
  exact nonempty (List.self_eq_append_left.mp kept)

theorem openingTag_isInfix_iff :
    openingTag <:+: applyAll comment line ↔ Late (· = []) openingTag line := by
  refine ⟨late_of_isInfix (by simp [openingTag]) openingTag_ne_nil fun s early => ?_,
    isInfix_of_late_opening⟩
  rw [early.eq_of_nil, ← List.append_nil openingTag]
  exact .opening .nil

theorem closingTag_isInfix_iff :
    closingTag <:+: applyAll comment line ↔ Late OpeningTags closingTag line := by
  refine ⟨late_of_isInfix (by simp [closingTag]) closingTag_ne_nil fun s early => ?_,
    isInfix_of_late_closing⟩
  rw [← List.append_nil s]
  exact .closing early .nil

/-! ### Replacing once more -/

/-- All ampersands are spelled out. -/
theorem ampersand_notMem_applyAll_comment (line : Text) : '&' ∉ applyAll comment line := by
  intro there
  rw [applyAll_comment_eq] at there
  have deleted (tag : Text) (nonempty : tag ≠ []) : Traces (substitute tag [] nonempty) '&' :=
    traces_substitute List.not_mem_nil
  have spelled : '&' ∈ spellOut line := (deleted _ _).mem ((deleted _ _).mem there)
  have gone : Text.Clear ['&'] (spellOut line) [] := clear_substitute_old (by decide)
  exact Text.clear_singleton_iff.mp gone spelled

theorem dropOpening_eq_self_iff : dropOpening s = s ↔ ¬ openingTag <:+: s :=
  substitute_eq_self_iff.trans (Text.clear_iff_not_isInfix openingTag_ne_nil)

theorem dropClosing_eq_self_iff : dropClosing s = s ↔ ¬ closingTag <:+: s :=
  substitute_eq_self_iff.trans (Text.clear_iff_not_isInfix closingTag_ne_nil)

/-- Replacing once more changes nothing exactly if no tag is left. -/
theorem applyAll_applyAll_comment_iff :
    applyAll comment (applyAll comment line) = applyAll comment line ↔
      ¬ openingTag <:+: applyAll comment line ∧ ¬ closingTag <:+: applyAll comment line := by
  have unspelled : spellOut (applyAll comment line) = applyAll comment line :=
    substitute_of_clear (Text.clear_of_notMem (ampersand_notMem_applyAll_comment line))
  rw [← dropOpening_eq_self_iff, ← dropClosing_eq_self_iff, applyAll_comment_eq (applyAll _ _),
    unspelled]
  constructor
  · intro same
    -- What is left after both deletions is left after the first one.
    have closed : (dropClosing (dropOpening (applyAll comment line))).length ≤
        (dropOpening (applyAll comment line)).length := (substitute_sublist _).length_le
    rw [same] at closed
    have opened : dropOpening (applyAll comment line) = applyAll comment line :=
      (substitute_sublist _).eq_of_length_le closed
    rw [opened] at same
    exact ⟨opened, same⟩
  · rintro ⟨opened, closed⟩
    rw [opened, closed]

/-- No ampersand is left in a line of documentation. A tag is left exactly if its characters stand
in the line with gaps that vanish, but too late for the tag to be deleted: an opening tag has to be
there from the first, and a closing one once the opening tags are deleted. Replacing once more
changes nothing exactly if neither tag is left in this way. -/
theorem tags_left_iff (line : Text) :
    '&' ∉ applyAll comment line ∧
      (openingTag <:+: applyAll comment line ↔ Late (· = []) openingTag line) ∧
      (closingTag <:+: applyAll comment line ↔ Late OpeningTags closingTag line) ∧
      (applyAll comment (applyAll comment line) = applyAll comment line ↔
        ¬ Late (· = []) openingTag line ∧ ¬ Late OpeningTags closingTag line) := by
  refine ⟨ampersand_notMem_applyAll_comment line, openingTag_isInfix_iff, closingTag_isInfix_iff,
    ?_⟩
  rw [applyAll_applyAll_comment_iff, openingTag_isInfix_iff, closingTag_isInfix_iff]

/-- A tag inside of a tag: the outer one comes together when the inner one is deleted, and stays. -/
theorem tag_left_of_nested : openingTag <:+: applyAll comment "<t<tt>t>x".toList ∧
    applyAll comment (applyAll comment "<t<tt>t>x".toList) ≠
      applyAll comment "<t<tt>t>x".toList := by
  have inner : Vanishing openingTag := .opening .nil
  have nested : Spaced Vanishing openingTag
      ('<' :: ([] ++ 't' :: (openingTag ++ 't' :: ([] ++ ['>'])))) :=
    .cons .nil (.cons inner (.cons .nil (.last '>')))
  have late : Late (· = []) openingTag "<t<tt>t>x".toList :=
    ⟨_, ⟨[], ['x'], rfl⟩, nested, fun early => absurd early.eq_of_nil (by decide)⟩
  have left := isInfix_of_late_opening late
  exact ⟨left, fun same => (applyAll_applyAll_comment_iff.mp same).1 left⟩

end EnumBindings.Replacement
