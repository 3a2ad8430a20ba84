import EnumBindings.Proofs.Block.RoundTrip

/-!
# Files with several blocks

A file can have any number of enum blocks, with comments in front of them, between them and behind
them. The header of an enum is looked for in the text as it stands, so a comment that names the enum
in front of its block is taken for the header. That does no harm as long as no opening brace stands
between the two, since the block begins behind the next brace anyway.

## Main definitions

* `NamedBlock`, `Row`, `printFile` — a file of several blocks, row by row
* `Names` — the header of an enum stands alone at a place of a text
* `Undiverted` — no item in front of a block names its enum with an opening brace behind that

## Main results

* `names_printRows_iff` — an enum is named in one row
* `Names.eq_of_header` — the headers of other enums do not name it
* `entries_printFile` — a block is the one that is found exactly if it is undiverted, and then its
  entries are those that are read
-/

namespace EnumBindings.Block

/-- An enum block of a file, with the items in front of it. -/
structure NamedBlock where
  lead : List Item
  name : Word
  items : List Item

/-- A row of a file: an item, the header of a block, or a closing brace. -/
inductive Row where
  | item (item : Item)
  | header (name : Word)
  | brace

/-- A row written out, without its last newline. -/
def Row.print : Row → Text
  | .item inside => inside.print
  | .header name => headerText name.text ++ " \x7b".toList
  | .brace => ['}']

/-- Some rows written out. -/
def printRows (rows : List Row) : Text :=
  rows.flatMap fun row => row.print ++ ['\n']

/-- A block row by row. -/
def NamedBlock.rows (block : NamedBlock) : List Row :=
  block.lead.map .item ++ .header block.name :: (block.items.map .item ++ [.brace])

/-- A file of some blocks, with some items behind the last. -/
def printFile (blocks : List NamedBlock) (tail : List Item) : Text :=
  printRows (blocks.flatMap NamedBlock.rows ++ tail.map .item)

/-- The entries of a block, each with its documentation. -/
def NamedBlock.entries (block : NamedBlock) : List Entry :=
  documented (.own (.spaces 0)) [] block.items

/-- The header of an enum stands alone in a text, between two parts of it. -/
structure Names (enum s before after : Text) : Prop where
  whole : s = before ++ headerText enum ++ after
  alone : StandsAlone none before after

/-- The rows of a file in front of the header of a block. -/
def rowsAbove (above : List NamedBlock) (block : NamedBlock) : List Row :=
  above.flatMap NamedBlock.rows ++ block.lead.map .item

/-- Wherever an item in front of a block names its enum, no opening brace stands between that place
and the header of the block. -/
def Undiverted (above : List NamedBlock) (block : NamedBlock) : Prop :=
  ∀ earlier item later, rowsAbove above block = earlier ++ Row.item item :: later →
    ∀ before after, Names block.name.text item.print before after →
      '{' ∉ after ++ '\n' :: printRows later

variable {enum s before after : Text} {name : Word}

/-! ### Where an enum is named -/

theorem newline_notMem_headerText (name : Word) : '\n' ∉ headerText name.text := by
  have inline : '\n' ∉ name.text := notMem_of_isIdentifierChar name.identifier (by decide)
  simp [headerText, inline]

theorem brace_notMem_headerText (name : Word) : '{' ∉ headerText name.text := by
  have unopened : '{' ∉ name.text := notMem_of_isIdentifierChar name.identifier (by decide)
  simp [headerText, unopened]

theorem isBoundary_newline : isBoundary (some '\n') = true := by decide

/-- The end of a line is as good as the end of the text. -/
theorem standsAlone_append_newline {previous : Option Char} {t : Text} :
    StandsAlone previous before (after ++ '\n' :: t) ↔ StandsAlone previous before after := by
  have boundary : isBoundary (after ++ '\n' :: t).head? = isBoundary after.head? := by
    cases after with
    | nil => exact isBoundary_newline
    | cons c after => rfl
  rw [StandsAlone, StandsAlone, boundary]

/-- The beginning of a line is as good as the beginning of the text. -/
theorem standsAlone_newline_append {t : Text} :
    StandsAlone none (t ++ '\n' :: before) after ↔ StandsAlone none before after := by
  have boundary : isBoundary ((t ++ '\n' :: before).getLast?.or none) =
      isBoundary (before.getLast?.or none) := by
    cases before with
    | nil =>
      rw [List.getLast?_concat]
      exact isBoundary_newline
    | cons c before => simp [List.getLast?_append, List.getLast?_cons]
  rw [StandsAlone, StandsAlone, boundary]

/-- In two texts with a newline between them an enum is named in one of the two. -/
theorem names_append_newline_iff {s t : Text} : Names name.text (s ++ '\n' :: t) before after ↔
    (∃ behind, Names name.text s before behind ∧ after = behind ++ '\n' :: t) ∨
      ∃ front, before = s ++ '\n' :: front ∧ Names name.text t front after := by
  constructor
  · rintro ⟨whole, alone⟩
    rcases Text.append_cons_eq_append_needle (newline_notMem_headerText name) whole with
      ⟨behind, here, rfl⟩ | ⟨front, rfl, there⟩
    · exact .inl ⟨behind, ⟨here, standsAlone_append_newline.mp alone⟩, rfl⟩
    · exact .inr ⟨front, rfl, there, standsAlone_newline_append.mp alone⟩
  · rintro (⟨behind, ⟨rfl, alone⟩, rfl⟩ | ⟨front, rfl, rfl, alone⟩)
    · exact ⟨by simp, standsAlone_append_newline.mpr alone⟩
    · exact ⟨by simp, standsAlone_newline_append.mpr alone⟩

theorem not_names_nil : ¬ Names enum [] before after := by
  rintro ⟨whole, -⟩
  have length := congrArg List.length whole
  simp [headerText] at length

theorem printRows_cons (row : Row) (rows : List Row) :
    printRows (row :: rows) = row.print ++ '\n' :: printRows rows := by
  simp [printRows]

@[simp] theorem printRows_append (rows rows' : List Row) :
    printRows (rows ++ rows') = printRows rows ++ printRows rows' :=
  List.flatMap_append

/-- An enum is named in one row of a file. -/
theorem names_printRows_iff {rows : List Row} : Names name.text (printRows rows) before after ↔
    ∃ earlier row later front behind, rows = earlier ++ row :: later ∧
      Names name.text row.print front behind ∧
      before = printRows earlier ++ front ∧ after = behind ++ '\n' :: printRows later := by
  induction rows generalizing before with
  | nil =>
    constructor
    · exact fun named => absurd named not_names_nil
    · rintro ⟨earlier, row, later, front, behind, whole, -⟩
      simp at whole
  | cons row rows ih =>
    rw [printRows_cons, names_append_newline_iff]
    constructor
    · rintro (⟨behind, here, rfl⟩ | ⟨front, rfl, there⟩)
      · exact ⟨[], row, rows, before, behind, rfl, here, rfl, rfl⟩
      · obtain ⟨earlier, row', later, front, behind, rfl, named, rfl, rfl⟩ := ih.mp there
        exact ⟨row :: earlier, row', later, front, behind, rfl, named, by simp [printRows_cons], rfl⟩
    · rintro ⟨earlier, row', later, front, behind, whole, named, rfl, rfl⟩
      cases earlier with
      | nil =>
        cases whole
        exact .inl ⟨behind, named, rfl⟩
      | cons first earlier =>
        cases whole
        refine .inr ⟨printRows earlier ++ front, by simp [printRows_cons], ih.mpr ?_⟩
        exact ⟨earlier, row', later, front, behind, rfl, named, rfl, rfl⟩

/-- A blank of a text is the first one, or stands behind it. -/
private theorem append_blank_cases {s s' t t' : Text} (first : ' ' ∉ s)
    (same : s ++ ' ' :: t = s' ++ ' ' :: t') :
    (s = s' ∧ t = t') ∨ ∃ between, t = between ++ ' ' :: t' := by
  have other : ' ' ∉ s' ∨ ∃ front between, s' = front ++ ' ' :: between ∧ ' ' ∉ front := by
    by_cases blank : ' ' ∈ s'
    · obtain ⟨front, between, whole, none⟩ := List.eq_append_cons_of_mem blank
      exact .inr ⟨front, between, whole, none⟩
    · exact .inl blank
  have cut {s t : Text} (first : ' ' ∉ s) : Text.cut [' '] (s ++ ' ' :: t) = some (s, t) :=
    Text.cut_eq_some_iff.mpr ⟨by simp, Text.clear_singleton_iff.mpr first⟩
  have found := cut (t := t) first
  rcases other with first' | ⟨front, between, rfl, first'⟩
  · rw [same, cut first'] at found
    cases found
    exact .inl ⟨rfl, rfl⟩
  · rw [same, List.append_assoc, List.cons_append, cut first'] at found
    cases found
    exact .inr ⟨between, rfl⟩

/-- A header names no other enum, whether one of the names is a part of the other or not. -/
theorem Names.eq_of_header {other : Word}
    (named : Names name.text (Row.header other).print before after) : other.text = name.text := by
  obtain ⟨whole, -, boundary⟩ := named
  have blank (word : Word) : ' ' ∉ word.text :=
    notMem_of_isIdentifierChar word.identifier (by decide)
  obtain ⟨c, cs, initial⟩ := List.exists_cons_of_ne_nil name.nonempty
  have shape : ['e', 'n', 'u', 'm'] ++ ' ' :: (other.text ++ ' ' :: ['{']) =
      before ++ ['e', 'n', 'u', 'm'] ++ ' ' :: (name.text ++ after) := by
    simpa [Row.print, headerText] using whole
  rcases append_blank_cases (by decide) shape with ⟨-, names⟩ | ⟨between, later⟩
  · -- Both names end where no identifier goes on.
    rcases List.append_eq_append_iff.mp names with ⟨rest, longer, here⟩ | ⟨rest, longer, there⟩
    · cases rest with
      | nil => simp [longer]
      | cons d rest =>
        obtain ⟨rfl, -⟩ := List.cons.inj here
        exact absurd (by rw [longer]; simp) (blank name)
    · cases rest with
      | nil => simp [longer]
      | cons d rest =>
        rw [there, List.cons_append, List.head?_cons, isBoundary,
          other.identifier d (by rw [longer]; simp)] at boundary
        cases boundary
  · -- The name would stand behind the second blank, where the header has its brace.
    exfalso
    rcases append_blank_cases (blank other) later with ⟨-, brace⟩ | ⟨between', brace⟩
    · rw [initial] at brace
      obtain ⟨rfl, -⟩ := List.cons.inj brace
      have identifier := name.identifier '{' (by rw [initial]; exact List.mem_cons_self)
      exact absurd identifier (by decide)
    · have length := congrArg List.length brace
      simp [initial] at length
      omega

theorem not_names_brace : ¬ Names enum Row.brace.print before after := by
  rintro ⟨whole, -⟩
  have length := congrArg List.length whole
  simp [Row.print, headerText] at length
  omega

/-! ### Which block is found -/

variable {above below : List NamedBlock} {block : NamedBlock} {tail : List Item}

/-- What stands behind the header of a block. -/
def NamedBlock.inside (block : NamedBlock) (behind : List Row) : Text :=
  '\n' :: (printBlock block.items (.own (.spaces 0)) ++ '\n' :: printRows behind)

/-- A block stands in its file behind its header and a brace. -/
theorem printFile_eq (above below : List NamedBlock) (block : NamedBlock) (tail : List Item) :
    printFile (above ++ block :: below) tail =
      printRows (rowsAbove above block) ++ headerText block.name.text ++ ' ' :: '{' ::
        block.inside (below.flatMap NamedBlock.rows ++ tail.map .item) := by
  simp [printFile, rowsAbove, NamedBlock.rows, NamedBlock.inside, printRows, Row.print, printBlock,
    Closing.print, Blanks.spaces, List.flatMap_map]

theorem printRows_eq_nil_or_concat (rows : List Row) :
    printRows rows = [] ∨ ∃ front, printRows rows = front ++ ['\n'] := by
  rcases List.eq_nil_or_concat rows with rfl | ⟨rows, row, rfl⟩
  · exact .inl rfl
  · exact .inr ⟨printRows rows ++ row.print, by simp [printRows]⟩

/-- A header behind some rows names its enum. -/
theorem names_header (name : Word) (rows : List Row) (rest : Text) :
    Names name.text (printRows rows ++ headerText name.text ++ ' ' :: rest) (printRows rows)
      (' ' :: rest) := by
  have blank : isBoundary (some ' ') = true := by decide
  refine ⟨rfl, ?_, blank⟩
  rcases printRows_eq_nil_or_concat rows with nothing | ⟨front, ended⟩
  · rw [nothing]
    rfl
  · rw [ended, List.getLast?_concat]
    exact isBoundary_newline

/-- The first header of an enum is the one behind some rows, or one of the rows names the enum. -/
theorem FirstHeader.eq_or_names {rows : List Row} {rest : Text}
    (first : FirstHeader name.text (printRows rows ++ headerText name.text ++ ' ' :: rest) before
      after) :
    (before = printRows rows ∧ after = ' ' :: rest) ∨
      ∃ between, Names name.text (printRows rows) before between ∧
        after = between ++ headerText name.text ++ ' ' :: rest := by
  have own := names_header name rows rest
  have whole := first.whole
  have bound := first.first _ _ own.whole own.alone
  rw [List.append_assoc, List.append_assoc] at whole
  rcases List.append_eq_append_iff.mp whole with ⟨between, longer, here⟩ | ⟨between, longer, there⟩
  · obtain rfl : between = [] := by
      rw [longer, List.length_append] at bound
      exact List.eq_nil_of_length_eq_zero (by omega)
    exact .inl ⟨by simpa using longer, (List.append_cancel_left here).symm⟩
  · rcases List.eq_nil_or_concat between with rfl | ⟨kept, last, rfl⟩
    · exact .inl ⟨by simpa using longer.symm, List.append_cancel_left there⟩
    · -- The rows end with a newline, over which the header does not reach.
      obtain rfl : last = '\n' := by
        rcases printRows_eq_nil_or_concat rows with nothing | ⟨front, ended⟩
        · rw [nothing] at longer
          simp at longer
        · rw [ended, List.concat_eq_append, ← List.append_assoc] at longer
          exact (List.singleton_inj.mp (List.append_inj_right' longer rfl)).symm
      have shape : kept ++ '\n' :: (headerText name.text ++ ' ' :: rest) =
          [] ++ headerText name.text ++ after := by simpa using there.symm
      rcases Text.append_cons_eq_append_needle (newline_notMem_headerText name) shape with
        ⟨behind, rfl, rfl⟩ | ⟨front, nothing, -⟩
      · refine .inr ⟨behind ++ ['\n'], ⟨by simpa using longer, ?_⟩, by simp⟩
        exact standsAlone_append_newline.mpr (standsAlone_append_newline.mp first.alone)
      · simp at nothing

/-- The headers in front of a block are those of the blocks above it. -/
theorem header_mem_rowsAbove {other : Word} (there : Row.header other ∈ rowsAbove above block) :
    ∃ sibling ∈ above, sibling.name = other := by
  simp only [rowsAbove, NamedBlock.rows, List.mem_append, List.mem_flatMap, List.mem_cons,
    List.mem_map, reduceCtorEq, and_false, exists_false, List.not_mem_nil, or_false, false_or,
    Row.header.injEq] at there
  obtain ⟨sibling, among, same⟩ := there
  exact ⟨sibling, among, same.symm⟩

/-- Above an undiverted block, no opening brace stands between a place that names its enum and its
header. -/
theorem Undiverted.brace_notMem (undiverted : Undiverted above block)
    (others : ∀ sibling ∈ above, sibling.name.text ≠ block.name.text)
    (named : Names block.name.text (printRows (rowsAbove above block)) before after) :
    '{' ∉ after := by
  obtain ⟨earlier, row, later, front, behind, whole, here, -, rfl⟩ := names_printRows_iff.mp named
  cases row with
  | item item => exact undiverted earlier item later whole front behind here
  | brace => exact absurd here not_names_brace
  | header other =>
    have there : Row.header other ∈ rowsAbove above block := by
      rw [whole]
      simp
    obtain ⟨sibling, among, rfl⟩ := header_mem_rowsAbove there
    exact absurd here.eq_of_header (others sibling among)

/-- The opening brace behind the first place that names the enum of an undiverted block is its
own. -/
theorem Undiverted.exists_firstHeader (undiverted : Undiverted above block)
    (others : ∀ sibling ∈ above, sibling.name.text ≠ block.name.text) (behind : Text) :
    ∃ before gap, '{' ∉ gap ∧ FirstHeader block.name.text (printRows (rowsAbove above block) ++
      headerText block.name.text ++ ' ' :: '{' :: behind) before (gap ++ '{' :: behind) := by
  have own := names_header block.name (rowsAbove above block) ('{' :: behind)
  obtain ⟨before, after, first⟩ := EnumBindings.Block.exists_firstHeader own.whole own.alone
  rcases first.eq_or_names with ⟨rfl, rfl⟩ | ⟨between, named, rfl⟩
  · exact ⟨_, [' '], by decide, first⟩
  · refine ⟨before, between ++ headerText block.name.text ++ [' '], ?_, by simpa using first⟩
    simp [undiverted.brace_notMem others named, brace_notMem_headerText]

/-- An opening brace between a place that names an enum and the header of its block is found in
place of the brace of the block. -/
theorem undiverted_of_opening {behind : Text} {line : Nat}
    (opened : opening block.name.text (printRows (rowsAbove above block) ++
      headerText block.name.text ++ ' ' :: '{' :: behind) = .ok (line, behind)) :
    Undiverted above block := by
  intro earlier item later whole before after named brace
  have place : Names block.name.text (printRows (rowsAbove above block)) _ _ :=
    names_printRows_iff.mpr ⟨earlier, .item item, later, before, after, whole, named, rfl, rfl⟩
  obtain ⟨before', gap, first, unopened⟩ := firstHeader_of_opening opened
  have alone : StandsAlone none (printRows earlier ++ before)
      (after ++ '\n' :: (printRows later ++ headerText block.name.text ++ ' ' :: '{' :: behind)) :=
    standsAlone_append_newline.mpr (standsAlone_append_newline.mp place.alone)
  have bound := first.first _ _ (by rw [place.whole]; simp) alone
  -- What stands between that place and the brace of the block is the end of the gap.
  have whole' : before' ++ headerText block.name.text ++ gap ++ '{' :: behind =
      printRows earlier ++ before ++ headerText block.name.text ++
        (after ++ '\n' :: printRows later ++ headerText block.name.text ++ [' ']) ++
          '{' :: behind := by
    have same := first.whole.symm
    rw [place.whole] at same
    simpa using same
  have ended := List.append_cancel_right whole'
  have suffix : after ++ '\n' :: printRows later ++ headerText block.name.text ++ [' '] <:+ gap := by
    refine List.suffix_of_suffix_length_le ⟨_, rfl⟩ ⟨_, ended⟩ ?_
    have length := congrArg List.length ended
    simp only [List.length_append] at length bound ⊢
    omega
  exact unopened (suffix.subset (List.mem_append_left _ (List.mem_append_left _ brace)))

/-- In a file of blocks with different names, the block of an enum is the one that is found exactly
if wherever an item in front of it names the enum, no opening brace stands between that place and
the header of the block. Its entries are then those that are read, each with its documentation,
whatever else the other items have. -/
theorem entries_printFile
    (distinct : (above ++ block :: below).Pairwise fun a b => a.name.text ≠ b.name.text) :
    ((∃ line, opening block.name.text (printFile (above ++ block :: below) tail) =
        .ok (line, block.inside (below.flatMap NamedBlock.rows ++ tail.map .item))) ↔
      Undiverted above block) ∧
    (Undiverted above block →
      entries block.name.text (printFile (above ++ block :: below) tail) = .ok block.entries) := by
  have others : ∀ sibling ∈ above, sibling.name.text ≠ block.name.text := fun sibling among =>
    (List.pairwise_append.mp distinct).2.2 sibling among block List.mem_cons_self
  rw [printFile_eq]
  refine ⟨⟨fun ⟨line, opened⟩ => undiverted_of_opening opened, fun undiverted => ?_⟩,
    fun undiverted => ?_⟩
  · obtain ⟨before, gap, unopened, first⟩ := undiverted.exists_firstHeader others _
    exact opening_of_firstHeader first unopened
  · obtain ⟨before, gap, unopened, first⟩ := undiverted.exists_firstHeader others
      (block.inside (below.flatMap NamedBlock.rows ++ tail.map .item))
    have shape : gap ++ '{' :: block.inside (below.flatMap NamedBlock.rows ++ tail.map .item) =
        gap ++ "\x7b\n".toList ++ printBlock block.items (.own (.spaces 0)) ++
          '\n' :: printRows (below.flatMap NamedBlock.rows ++ tail.map .item) := by
      simp [NamedBlock.inside]
    rw [shape] at first
    exact entries_of_scan (scan_of_firstHeader first unopened)

/-- An entry with a name of one character. -/
def Item.sample (c : Char) (identifier : isIdentifierChar c = true) : Item :=
  .entry (.spaces 0)
    ⟨.single c identifier, .spaces 1, .spaces 1, ⟨['7'], by decide, by decide, by decide, by decide⟩,
      .spaces 0⟩
    ⟨.spaces 0, none, none⟩

/-- A comment that names an enum. -/
def Item.naming (name : Word) : Item :=
  .remark (.spaces 0) ⟨headerText name.text, newline_notMem_headerText name⟩

/-- A block with one entry. -/
def NamedBlock.sample (lead : List Item) (name : Word) (c : Char)
    (identifier : isIdentifierChar c = true) : NamedBlock :=
  ⟨lead, name, [.sample c identifier]⟩

/-- A name that begins another one. -/
def shortName : Word := .single 'P' (by decide)

/-- A name that begins with another one. -/
def longName : Word where
  text := ['P', 'Q']
  nonempty := List.cons_ne_nil 'P' ['Q']
  identifier :=
    List.forall_mem_cons.mpr ⟨by decide, List.forall_mem_singleton.mpr (by decide)⟩

/-- The block of the longer name. -/
def longBlock : NamedBlock := .sample [] longName 'X' (by decide)

/-- The block of the shorter name, behind a comment that names it. -/
def shortBlock : NamedBlock := .sample [.naming shortName] shortName 'Y' (by decide)

/-- A name that is part of the one in front, and stands in a comment behind the block of that, is
told apart from it. -/
theorem entries_printFile_shortBlock :
    ([longBlock] ++ [shortBlock]).Pairwise (fun a b => a.name.text ≠ b.name.text) ∧
      Undiverted [longBlock] shortBlock ∧
      entries ['P'] ("enum PQ \x7b\nX = 7;\n\x7d\n//enum P\nenum P \x7b\nY = 7;\n\x7d\n").toList =
        .ok [Entry.ofIdentifier ['Y'] []] := by
  have distinct : ([longBlock] ++ [shortBlock]).Pairwise fun a b => a.name.text ≠ b.name.text := by
    decide
  have undiverted : Undiverted [longBlock] shortBlock := by
    intro earlier item later whole before after named brace
    cases earlier with
    | nil => cases whole
    | cons first earlier =>
      -- Behind the first header there is no opening brace at all.
      obtain ⟨-, rest⟩ := List.cons.inj whole
      have unopened : '{' ∉ printRows (earlier ++ Row.item item :: later) := by
        rw [← List.append_eq, ← rest]
        decide
      refine unopened ?_
      rw [printRows_append, printRows_cons, Row.print, named.whole, List.append_assoc _ after]
      exact List.mem_append_right _ (List.mem_append_right _ brace)
  have read : entries shortName.text (printFile ([longBlock] ++ [shortBlock]) []) =
      .ok shortBlock.entries := (entries_printFile distinct).2 undiverted
  exact ⟨distinct, undiverted, read⟩

/-- A block behind a comment that names another enum. -/
def namingBlock : NamedBlock := .sample [.naming longName] shortName 'Y' (by decide)

/-- Of two blocks, the second of which is named in a comment in front of the first, the first one is
read in place of the second. -/
theorem entries_printFile_namingBlock :
    ([namingBlock] ++ [longBlock]).Pairwise (fun a b => a.name.text ≠ b.name.text) ∧
      entries longName.text (printFile ([namingBlock] ++ [longBlock]) []) = .ok namingBlock.entries ∧
      namingBlock.entries ≠ longBlock.entries := by
  have header : FirstHeader longName.text (printFile ([namingBlock] ++ [longBlock]) []) ['/', '/']
      ("\nenum P ".toList ++ "\x7b\n".toList ++
        printBlock namingBlock.items (.own (.spaces 0)) ++ '\n' :: printRows longBlock.rows) :=
    firstHeader_of_notMem (by decide) rfl (by decide)
  exact ⟨by decide, entries_of_scan (scan_of_firstHeader header (by decide)), by decide⟩

end EnumBindings.Block
