import EnumBindings.Block.Scan
import EnumBindings.Proofs.Text.Occurrence
import EnumBindings.Proofs.Text.Trimming

/-!
# The lines of a block comment

A block comment is documentation line by line: each line has its share in it, which is one line of
documentation or none, and depends neither on the other lines nor on the white space around it.

## Main definitions

* `noteLine` — the share of one line

## Main results

* `commentLines_append_newline` — the first line has its share in front of all others
* `noteLine_append_blank`, `noteLine_blank_append` — white space around a line has none
* `unstarred_isInfix` — what a line has in the documentation is a part of it
* `star_of_noteLine_eq_nil` — a line without a share has at most a star
-/

namespace EnumBindings.Block

open commentLines (unstarred)

variable {line rest pad : Text}

/-- The share of a line of a block comment in the documentation. -/
def noteLine (line : Text) : List Text :=
  if unstarred line = [] then [] else [unstarred line]

/-- A comment on one line has the share of that line. -/
theorem commentLines_of_notMem (inline : '\n' ∉ line) : commentLines line = noteLine line := by
  rw [commentLines, List.splitOn_eq_singleton inline, noteLine]
  by_cases blank : unstarred line = [] <;> simp [blank]

/-- The first line of a comment has its share in front of those of all others. -/
theorem commentLines_append_newline (inline : '\n' ∉ line) :
    commentLines (line ++ '\n' :: rest) = noteLine line ++ commentLines rest := by
  rw [commentLines, List.splitOn_append_cons_self_of_not_mem inline, noteLine, commentLines]
  by_cases blank : unstarred line = [] <;> simp [blank]

/-- White space behind a line has no share in the documentation. -/
theorem noteLine_append_blank (h : ∀ c ∈ pad, isBlank c = true) :
    noteLine (line ++ pad) = noteLine line := by
  rw [noteLine, noteLine, unstarred, unstarred, trim_append_blank h]

/-- White space in front of a line has no share in the documentation. -/
theorem noteLine_blank_append (h : ∀ c ∈ pad, isBlank c = true) :
    noteLine (pad ++ line) = noteLine line := by
  rw [noteLine, noteLine, unstarred, unstarred, trim_blank_append h]

/-- What a line has in the documentation is a part of it. -/
theorem unstarred_isInfix (line : Text) : unstarred line <:+: line := by
  rw [unstarred]
  split
  next behind starred =>
    have inside : trim behind <:+: trim line := by
      rw [starred]
      exact (trim_isInfix behind).trans (List.suffix_cons '*' behind).isInfix
    exact inside.trans (trim_isInfix line)
  next => exact trim_isInfix line

/-- The share of a line is a part of it. -/
theorem isInfix_of_mem_noteLine {doc : Text} (share : doc ∈ noteLine line) : doc <:+: line := by
  rw [noteLine] at share
  split at share
  · cases share
  · rw [List.mem_singleton.mp share]
    exact unstarred_isInfix line

/-- A line without a share in the documentation has no visible characters but a star. -/
theorem star_of_noteLine_eq_nil {c : Char} (silent : noteLine line = []) (there : c ∈ line)
    (visible : isBlank c = false) : c = '*' := by
  have nothing : unstarred line = [] := by
    by_contra something
    rw [noteLine, if_neg something] at silent
    cases silent
  have left := mem_trim there visible
  rw [unstarred] at nothing
  split at nothing
  next behind starred =>
    rw [starred, List.mem_cons] at left
    rcases left with star | later
    · exact star
    · have blank := trim_eq_nil_iff.mp nothing c later
      simp [blank] at visible
  next =>
    rw [nothing] at left
    cases left

end EnumBindings.Block
