import EnumBindings.Proofs.Block.Provenance
import EnumBindings.Proofs.Draft.Buffers
import EnumBindings.Proofs.Text.Replacing

/-!
# Where Javadoc ends

What stands behind the `*/` of a Javadoc comment is Java. Lines of documentation are written into
the comment as they are, apart from the replacements in them, so a line can end the comment before
its time: one that has `*/` itself, which no line of a block comment does, or one in which a tag is
deleted between the two characters.

## Main definitions

* `ClosesOnce` — nothing closes a comment before its end
* `Escapes` — a line of documentation closes the comment that it is written into

## Main results

* `closesOnce_javadoc_iff` — Javadoc ends where it is to end exactly if no line of it escapes
* `Draft.item_isInfix_addAll` — entries are written with their Javadoc
* `Draft.javadoc_closesOnce_iff` — which sources can end a Javadoc comment
-/

namespace EnumBindings

/-- Nothing closes a comment before the end of its last line. -/
def ClosesOnce (block : Text) : Prop :=
  ∀ before after, block = before ++ ['*', '/'] ++ after → after = ['\n']

/-- A line of documentation has a star and a slash behind it, with nothing in between but what the
replacements delete. -/
def Escapes (doc : Text) : Prop :=
  ∃ front between back, doc = front ++ '*' :: (between ++ '/' :: back) ∧
    Replacement.applyAll Replacement.comment between = []

/-! ### Lines of Javadoc -/

variable {doc front rest : Text} {docs : List Text}

/-- A comment is closed once if nothing in front of its end closes it. -/
theorem closesOnce_append_iff : ClosesOnce (front ++ ['*', '/', '\n']) ↔
    Text.Clear ['*', '/'] front ['*', '/', '\n'] := by
  rw [Text.clear_iff_forall]
  refine forall₂_congr fun before after => imp_congr_right fun whole => ?_
  have lengths := congrArg List.length whole
  simp only [List.length_append, List.length_cons, List.length_nil] at lengths
  constructor
  · rintro rfl
    rw [List.length_singleton] at lengths
    omega
  · intro behind
    rcases Nat.eq_or_lt_of_le behind with same | longer
    · rw [List.append_assoc] at whole
      exact (List.cons.inj (List.cons.inj (List.append_inj whole same).2).2).2.symm
    · -- The closer would have to end with the newline.
      obtain rfl : after = [] := List.length_eq_zero_iff.mp (by omega)
      have last := congrArg List.getLast? whole
      simp at last

/-- A line of Javadoc closes no comment exactly if its documentation does not escape. -/
theorem clear_javadocLine_iff :
    Text.Clear ['*', '/'] (javadocLine doc) rest ↔ ¬ Escapes doc := by
  rw [Escapes, ← Replacement.pair_mem_applyAll_comment_iff, javadocLine]
  split
  next nothing =>
    rw [nothing]
    exact iff_of_true (Text.clear_pair_iff.mpr ⟨by decide, by simp [indent]⟩) (by simp)
  next =>
    have star (rest : Text) : Text.Clear ['*', '/'] (indent 1 ++ " * ".toList) rest :=
      Text.clear_pair_iff.mpr ⟨by decide, by simp [indent]⟩
    have newline : Text.Clear ['*', '/'] ['\n'] rest := Text.clear_of_notMem (by decide)
    rw [Text.clear_append, Text.clear_append]
    constructor
    · rintro ⟨⟨-, clear⟩, -⟩
      exact (Text.clear_pair_iff.mp clear).1
    · intro none
      exact ⟨⟨star _, Text.clear_pair_iff.mpr ⟨none, by simp⟩⟩, newline⟩

/-- Lines of Javadoc close no comment exactly if no line of the documentation escapes. -/
theorem clear_javadocLines_iff : Text.Clear ['*', '/'] (docs.flatMap javadocLine) rest ↔
    ∀ doc ∈ docs, ¬ Escapes doc := by
  induction docs with
  | nil => simp
  | cons doc docs ih =>
    rw [List.flatMap_cons, Text.clear_append, clear_javadocLine_iff, ih, List.forall_mem_cons]

/-- Javadoc is closed once exactly if no line of the documentation escapes. -/
theorem closesOnce_javadoc_iff : ClosesOnce (javadoc docs) ↔ ∀ doc ∈ docs, ¬ Escapes doc := by
  rw [javadoc]
  split
  next none =>
    rw [none]
    exact iff_of_true (fun before after whole => by simp at whole) (by simp)
  next =>
    have shape : indent 1 ++ "/**\n".toList ++ docs.flatMap javadocLine ++ indent 1 ++
        " */\n".toList = indent 1 ++ "/**\n".toList ++ docs.flatMap javadocLine ++
          (indent 1 ++ [' ']) ++ ['*', '/', '\n'] := by
      simp
    have opener (rest : Text) : Text.Clear ['*', '/'] (indent 1 ++ "/**\n".toList) rest :=
      Text.clear_pair_iff.mpr ⟨by decide, by simp [indent]⟩
    have margin : Text.Clear ['*', '/'] (indent 1 ++ [' ']) ['*', '/', '\n'] :=
      Text.clear_pair_iff.mpr ⟨by decide, by simp [indent]⟩
    rw [shape, closesOnce_append_iff, Text.clear_append, Text.clear_append,
      clear_javadocLines_iff]
    exact ⟨fun clear => clear.1.2, fun none => ⟨⟨opener _, none⟩, margin⟩⟩

namespace Draft

/-! ### Javadoc in drafts -/

variable {draft added : Draft} {entries : List Entry} {entry : Entry} {source text : Text}

/-- The constants in the file have each entry with its Javadoc. -/
theorem item_isInfix_rendering (enum : Text) (there : entry ∈ entries) :
    entry.item enum <:+: Section.constants.rendering enum entries := by
  induction entries with
  | nil => cases there
  | cons first entries ih =>
    cases entries with
    | nil =>
      obtain rfl := List.mem_singleton.mp there
      rw [Section.rendering, List.map_singleton, List.intercalate_singleton]
      exact (List.prefix_append ..).isInfix
    | cons second entries =>
      rw [rendering_cons_cons]
      rcases List.mem_cons.mp there with rfl | later
      · rw [List.append_assoc]
        exact (List.prefix_append ..).isInfix
      · exact (ih later).trans (List.suffix_append ..).isInfix

/-- Entries that are added together are written into the constants with their Javadoc. -/
theorem item_isInfix_addAll (there : entry ∈ entries)
    (held : (draft.addAll entries).buffers.get? .constants = some text) :
    entry.item draft.enum <:+: text := by
  obtain ⟨first, later, rfl⟩ := List.exists_cons_of_ne_nil (List.ne_nil_of_mem there)
  -- The constants are laid out already, since entries do not do that.
  obtain ⟨before, old⟩ : ∃ before, draft.buffers.get? .constants = some before := by
    refine Option.ne_none_iff_exists'.mp fun missing => ?_
    have none := get?_edited_eq_none draft (batch (first :: later)) .constants missing
      (by simp [batch])
    rw [edited_batch, held] at none
    cases none
  have whole : (draft.add first).edited (batch later) = draft.addAll (first :: later) := by
    rw [edited_batch]
    rfl
  have steady := (steady_add old first).edited (batch later)
  rw [whole, entries_batch] at steady
  have buffer := steady.buffer
  have finished : (draft.addAll (first :: later)).finished = true := finished_finish _
  have enum : (draft.addAll (first :: later)).enum = draft.enum := by
    rw [← edited_batch, enum_edited]
  rw [held, if_pos finished, enum] at buffer
  rw [Option.some.inj buffer]
  exact (item_isInfix_rendering draft.enum there).trans (List.suffix_append ..).isInfix

/-- If a source is added to a draft, the Javadoc of each of its entries is written into the
constants, and it ends where it is to end exactly if no line of it escapes. Every line comes from a
comment in the source, and one that has `*/` as it is comes from a line comment; so all others
escape by what is deleted from them. -/
theorem javadoc_closesOnce_iff (done : draft.addSource source = .ok added) :
    ∃ found, Block.entries draft.enum source = .ok found ∧ added = draft.addAll found ∧
      ∀ entry ∈ found,
        (∀ text, added.buffers.get? .constants = some text → entry.item draft.enum <:+: text) ∧
        (ClosesOnce (javadoc entry.docs) ↔ ∀ doc ∈ entry.docs, ¬ Escapes doc) ∧
        ∀ doc ∈ entry.docs, ∃ span, Block.Span.Documents source span doc ∧
          (['*', '/'] <:+: doc → span.IsRemark source) := by
  rw [addSource] at done
  cases read : Block.entries draft.enum source with
  | error fault =>
    rw [read] at done
    cases done
  | ok found =>
    rw [read] at done
    obtain rfl : draft.addAll found = added := Except.ok.inj done
    refine ⟨found, rfl, rfl, fun entry delivered => ⟨?_, closesOnce_javadoc_iff, ?_⟩⟩
    · exact fun text held => item_isInfix_addAll delivered held
    · intro doc there
      obtain ⟨span, documents⟩ := Block.exists_documents read delivered there
      exact ⟨span, documents, documents.isRemark⟩

/-! ### A line comment above an entry -/

/-- A source of an entry with a line comment above it. -/
def remarkSource (comment : Text) : Text :=
  Block.headerText ['X'] ++ '{' :: '/' :: '/' :: (comment ++ ['\n', 'A', '=', '1', ';', '}'])

/-- Any line can be made the documentation of an entry. -/
theorem entries_remarkSource (comment : Text) (inline : '\n' ∉ comment) :
    Block.entries ['X'] (remarkSource comment) = .ok [.ofIdentifier ['A'] [trim comment]] := by
  have opened : Block.opening ['X'] (remarkSource comment) =
      .ok (1, '/' :: '/' :: (comment ++ ['\n', 'A', '=', '1', ';', '}'])) := rfl
  obtain ⟨line, remark⟩ : ∃ line, Block.Cursor.step
      ⟨1, '/' :: '/' :: (comment ++ ['\n', 'A', '=', '1', ';', '}']), []⟩ =
        .advanced none ⟨line, ['A', '=', '1', ';', '}'], [trim comment]⟩ := by
    have found : Block.Token.next? (fun _ => true)
        ('/' :: '/' :: (comment ++ ['\n', 'A', '=', '1', ';', '}'])) =
          some ([], .lineComment, comment ++ ['\n', 'A', '=', '1', ';', '}']) := rfl
    rw [Block.Cursor.step, found]
    simp only [Text.throughLine_append_newline inline, trim_append_blank isBlank_newline]
    exact ⟨_, rfl⟩
  have met : Block.Cursor.step ⟨line, ['A', '=', '1', ';', '}'], [trim comment]⟩ =
      .advanced (some (.ofIdentifier ['A'] [trim comment])) ⟨line, ['}'], []⟩ := rfl
  have closed : Block.Cursor.step ⟨line, ['}'], []⟩ = .closed := rfl
  rw [Block.entries, Block.scan, opened]
  dsimp only
  rw [Block.Cursor.scan_of_advanced remark, Block.Cursor.scan_of_advanced met,
    Block.Cursor.scan_of_closed closed]
  rfl

/-- A draft of constants only. -/
def constantsOnly (enum : Text) : Draft :=
  (empty enum).pushSection .constants

theorem addSource_remarkSource (comment : Text) (inline : '\n' ∉ comment) :
    (constantsOnly ['X']).addSource (remarkSource comment) =
      .ok ((constantsOnly ['X']).addAll [.ofIdentifier ['A'] [trim comment]]) :=
  congrArg (Except.map (constantsOnly ['X']).addAll) (entries_remarkSource comment inline)

/-- A draft of constants only has a single one as it is to be in the file. -/
theorem get?_addAll_constantsOnly (enum : Text) (entry : Entry) :
    ((constantsOnly enum).addAll [entry]).buffers.get? .constants =
      some (Section.constants.rendering enum [entry]) := by
  have there : (constantsOnly enum).buffers.get? .constants = some [] := rfl
  exact ((steady_add there entry).apply .finish).buffer

/-- A star and a slash that are kept apart end no Javadoc. -/
theorem javadoc_closesOnce_kept_apart :
    (constantsOnly ['X']).addSource (remarkSource "* a /".toList) =
        .ok ((constantsOnly ['X']).addAll [.ofIdentifier ['A'] ["* a /".toList]]) ∧
      (Entry.ofIdentifier ['A'] ["* a /".toList]).item ['X'] <:+:
        Section.constants.rendering ['X'] [.ofIdentifier ['A'] ["* a /".toList]] ∧
      ClosesOnce (javadoc ["* a /".toList]) := by
  have read := entries_remarkSource "* a /".toList (by decide)
  have done := addSource_remarkSource "* a /".toList (by decide)
  have kept : ¬ Escapes "* a /".toList := by
    rw [Escapes, ← Replacement.pair_mem_applyAll_comment_iff,
      Replacement.applyAll_comment_of_notMem (by decide) (by decide)]
    decide
  obtain ⟨found, read', -, rendered⟩ := javadoc_closesOnce_iff done
  obtain rfl := Except.ok.inj (read.symm.trans read')
  obtain ⟨within, closes, -⟩ := rendered _ List.mem_cons_self
  refine ⟨done, within _ (get?_addAll_constantsOnly ..), closes.mpr fun doc there => ?_⟩
  rwa [List.mem_singleton.mp there]

/-- A remark that closes a comment and opens another one. -/
def closingRemark : Text :=
  "*/ int x; /*".toList

/-- A line comment can end the Javadoc that it is written into, and go on as Java. -/
theorem javadoc_of_closingRemark :
    (constantsOnly ['X']).addSource (remarkSource closingRemark) =
        .ok ((constantsOnly ['X']).addAll [.ofIdentifier ['A'] [closingRemark]]) ∧
      ((constantsOnly ['X']).addAll [.ofIdentifier ['A'] [closingRemark]]).buffers.get? .constants =
        some "    /**\n     * */ int x; /*\n     */\n    A(X.A);\n\n".toList ∧
      ¬ ClosesOnce (javadoc [closingRemark]) := by
  have block : javadoc [closingRemark] = "    /**\n     * */ int x; /*\n     */\n".toList := by
    rw [javadoc, List.flatMap_singleton, javadocLine,
      Replacement.applyAll_comment_of_notMem (by decide) (by decide)]
    rfl
  refine ⟨addSource_remarkSource closingRemark (by decide), ?_, fun closes => ?_⟩
  · rw [get?_addAll_constantsOnly, Section.rendering, List.map_singleton,
      List.intercalate_singleton, Entry.item, Entry.ofIdentifier, block]
    rfl
  · rw [block] at closes
    -- Behind the first closer, there is more than a newline.
    cases closes "    /**\n     * ".toList " int x; /*\n     */\n".toList rfl

end Draft

end EnumBindings
