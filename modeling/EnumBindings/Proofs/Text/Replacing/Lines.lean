import EnumBindings.Proofs.Text.Replacing.Packages

/-!
# Replacing line by line

No occurrence of a text without newlines reaches from one line into another. So each line is
replaced on its own, whatever stands in the lines around it, and at each step of a table, even if
an earlier step has put newlines in. If no step does, a text has as many lines as before.

## Main results

* `Replacement.applyAll_append_newline` — what stands around a newline is replaced on its own
* `Replacement.splitOn_applyAll` — the lines of a text are those of the original, replaced
* `Replacement.applyAll_linewise` — replacing a text is replacing its lines
-/

namespace EnumBindings.Replacement

variable {s t : Text} {table : List Replacement}

/-- What stands in front of a newline and what stands behind it are replaced on their own. -/
theorem applyAll_append_newline (nonempty : ∀ r ∈ table, r.old ≠ [])
    (inline : ∀ r ∈ table, '\n' ∉ r.old) :
    applyAll table (s ++ '\n' :: t) = applyAll table s ++ '\n' :: applyAll table t :=
  applyAll_append_apart nonempty fun r there =>
    Text.apart_singleton (nonempty r there) (inline r there)

/-- If no newlines are put in, the lines of a text are those of the original, each one replaced. -/
theorem splitOn_applyAll (nonempty : ∀ r ∈ table, r.old ≠ [])
    (inline : ∀ r ∈ table, '\n' ∉ r.old) (inline' : ∀ r ∈ table, '\n' ∉ r.new) (s : Text) :
    (applyAll table s).splitOn '\n' = (s.splitOn '\n').map (applyAll table) := by
  have kept {line : Text} (unbroken : '\n' ∉ line) : '\n' ∉ applyAll table line :=
    fun there => unbroken ((traces_applyAll nonempty inline').mem there)
  -- Each line stays one line, so the newlines between them are the same ones.
  induction s using Text.lines_induction with
  | single line unbroken =>
    rw [List.splitOn_eq_singleton (kept unbroken), List.splitOn_eq_singleton unbroken,
      List.map_singleton]
  | more line rest unbroken ih =>
    rw [applyAll_append_newline nonempty inline,
      List.splitOn_append_cons_self_of_not_mem (kept unbroken),
      List.splitOn_append_cons_self_of_not_mem unbroken, List.map_cons, ih]

/-- If what is replaced is neither empty nor broken across lines, what stands around a newline is
replaced on its own; and if nothing that is put in is broken across lines either, the lines are
those of the original, each one replaced. -/
theorem applyAll_linewise (nonempty : ∀ r ∈ table, r.old ≠ [])
    (inline : ∀ r ∈ table, '\n' ∉ r.old) :
    (∀ a b, applyAll table (a ++ '\n' :: b) = applyAll table a ++ '\n' :: applyAll table b) ∧
      ((∀ r ∈ table, '\n' ∉ r.new) →
        ∀ s, (applyAll table s).splitOn '\n' = (s.splitOn '\n').map (applyAll table)) :=
  ⟨fun _ _ => applyAll_append_newline nonempty inline, splitOn_applyAll nonempty inline⟩

/-- A proto file of two lines, of which the second one states its package, behind which there is a
comment. -/
def sampleProto : Text :=
  "package a;\n".toList ++
    ("option java_package = \"com.hederahashgraph.service.proto.java\";".toList ++ " // b\n".toList)

/-- The copy of such a proto file has the package of the SDK on its second line, and the other lines
as they are. -/
theorem splitOn_applyAll_proto :
    (∀ r ∈ proto, r.old ≠ []) ∧ (∀ r ∈ proto, '\n' ∉ r.old) ∧ (∀ r ∈ proto, '\n' ∉ r.new) ∧
      (applyAll proto sampleProto).splitOn '\n' =
        ["package a;".toList,
          "option java_package = \"com.hedera.hashgraph.sdk.proto\";".toList ++ " // b".toList,
          []] := by
  have nonempty : ∀ r ∈ proto, r.old ≠ [] := by decide +kernel
  have inline : ∀ r ∈ proto, '\n' ∉ r.old := by decide +kernel
  have inline' : ∀ r ∈ proto, '\n' ∉ r.new := by decide +kernel
  have lines : sampleProto.splitOn '\n' = ["package a;".toList,
      "option java_package = \"com.hederahashgraph.service.proto.java\";".toList ++ " // b".toList,
      []] := by decide +kernel
  have kept (line : Text) (without : ∀ r ∈ proto, ¬ r.old <:+: line) :
      applyAll proto line = line :=
    applyAll_of_clear nonempty fun r there =>
      (Text.clear_iff_not_isInfix (nonempty r there)).mpr (without r there)
  have stated := keepApart_proto.applyAll_append_old (s := []) (t := " // b".toList)
    (List.mem_cons_of_mem _ List.mem_cons_self)
  rw [List.nil_append, kept [] (by decide +kernel), List.nil_append,
    kept " // b".toList (by decide +kernel)] at stated
  refine ⟨nonempty, inline, inline', ((applyAll_linewise nonempty inline).2 inline' _).trans ?_⟩
  rw [lines, List.map_cons, List.map_cons, List.map_singleton, stated,
    kept "package a;".toList (by decide +kernel), kept [] (by decide +kernel)]

end EnumBindings.Replacement
