import EnumBindings.Proofs.Text.Replacing
import Mathlib.Data.List.Pairwise

/-!
# Replacements that do not interfere

What is put in place of a text stands between what was around that text, and in front of it, behind
it or across it the text could arise anew, or another one of the same table. Nothing of that kind
happens if all texts of the table keep apart. Then each one is replaced where it stands, none of
them is left, and the order of the table does not matter.

The packages of proto files are such a table. All of its texts begin with the word `option` and
have nothing like it further on, and none is a beginning of another.

## Main definitions

* `Replacement.KeepApart` — a table whose texts keep apart

## Main results

* `Replacement.substitute_comm` — two replacements can be made in either order
* `Replacement.KeepApart.clear_applyAll` — nothing that is to be replaced is left
* `Replacement.KeepApart.applyAll_perm` — the order of the table does not matter
* `Replacement.KeepApart.applyAll_append_old` — each text is replaced where it stands
* `Replacement.applyAll_proto_settled` — what becomes of the packages of a proto file
-/

namespace EnumBindings.Replacement

variable {old new old' new' needle s t : Text} {nonempty : old ≠ []} {nonempty' : old' ≠ []}
  {r : Replacement} {table table' : List Replacement}

/-! ### Two replacements -/

/-- Two replacements can be made in either order if their texts keep apart. -/
theorem substitute_comm (single : Text.Free old old.tail) (apart : Text.Apart old old')
    (apart' : Text.Apart old new') (apart'' : Text.Apart old' new) :
    substitute old new nonempty (substitute old' new' nonempty' s) =
      substitute old' new' nonempty' (substitute old new nonempty s) := by
  induction s using occurrences_induction nonempty with
  | clear s clear =>
    rw [substitute_of_clear clear, substitute_of_clear (clear_substitute_of_clear apart' clear)]
  | occurs before after clear ih =>
    have front : Text.Clear old (substitute old' new' nonempty' before) [] :=
      clear_substitute_of_clear apart' clear.alone
    -- Each replacement leaves what the other one takes out or puts in.
    calc
      _ = substitute old new nonempty (substitute old' new' nonempty' before ++
            (old ++ substitute old' new' nonempty' after)) := by
        rw [List.append_assoc, substitute_append_apart apart.symm]
      _ = substitute old' new' nonempty' before ++ (new ++
            substitute old' new' nonempty' (substitute old new nonempty after)) := by
        rw [substitute_append_old_append single, substitute_of_clear front, ih]
      _ = _ := by
        rw [substitute_append_old clear, List.append_assoc,
          substitute_append_apart apart'']

/-! ### Tables -/

/-- A table whose texts keep apart: those that are replaced from themselves, from each other and
from those that are put in. -/
structure KeepApart (table : List Replacement) : Prop where
  nonempty : ∀ r ∈ table, r.old ≠ []
  single : ∀ r ∈ table, Text.Free r.old r.old.tail
  others : table.Pairwise fun r r' => Text.Apart r.old r'.old
  added : ∀ r ∈ table, ∀ r' ∈ table, Text.Apart r.old r'.new

/-- What does not occur in a text does not occur after any replacements that it keeps apart from. -/
theorem clear_applyAll_of_clear (nonempty : ∀ r ∈ table, r.old ≠ [])
    (apart : ∀ r ∈ table, Text.Apart needle r.new) (clear : Text.Clear needle s []) :
    Text.Clear needle (applyAll table s) [] := by
  induction table generalizing s with
  | nil => exact clear
  | cons r table ih =>
    rw [List.forall_mem_cons] at nonempty apart
    rw [applyAll_cons, apply_of_nonempty nonempty.1]
    exact ih nonempty.2 apart.2 (clear_substitute_of_clear apart.1 clear)

/-- A text in which nothing is to be replaced stays as it is. -/
theorem applyAll_of_clear (nonempty : ∀ r ∈ table, r.old ≠ [])
    (clear : ∀ r ∈ table, Text.Clear r.old s []) : applyAll table s = s := by
  induction table with
  | nil => rfl
  | cons r table ih =>
    rw [List.forall_mem_cons] at nonempty clear
    rw [applyAll_cons, apply_of_nonempty nonempty.1, substitute_of_clear clear.1]
    exact ih nonempty.2 clear.2

namespace KeepApart

theorem tail (apart : KeepApart (r :: table)) : KeepApart table where
  nonempty := (List.forall_mem_cons.mp apart.nonempty).2
  single := (List.forall_mem_cons.mp apart.single).2
  others := (List.pairwise_cons.mp apart.others).2
  added := fun r there r' there' =>
    apart.added r (List.mem_cons_of_mem _ there) r' (List.mem_cons_of_mem _ there')

/-- Nothing that is to be replaced is left. -/
theorem clear_applyAll (apart : KeepApart table) (there : r ∈ table) :
    Text.Clear r.old (applyAll table s) [] := by
  induction table generalizing s with
  | nil => cases there
  | cons first table ih =>
    rw [applyAll_cons]
    rcases List.mem_cons.mp there with rfl | later
    · -- It goes with its own replacement, and does not come back with a later one.
      rw [apply_of_nonempty (apart.nonempty r there)]
      refine clear_applyAll_of_clear apart.tail.nonempty (fun r' there' => ?_)
        (clear_substitute_old (apart.added r there r there))
      exact apart.added r there r' (List.mem_cons_of_mem _ there')
    · exact ih apart.tail later

/-- The order of the table does not matter. -/
theorem applyAll_perm (apart : KeepApart table) (perm : table.Perm table') :
    applyAll table s = applyAll table' s := by
  have others : table.Pairwise fun r r' => ∀ t, r'.apply (r.apply t) = r.apply (r'.apply t) := by
    refine apart.others.imp_of_mem fun {r r'} there there' apart' t => ?_
    rw [apply_of_nonempty (apart.nonempty r there), apply_of_nonempty (apart.nonempty r' there'),
      apply_of_nonempty (apart.nonempty r there), apply_of_nonempty (apart.nonempty r' there')]
    exact substitute_comm (apart.single r' there') apart'.symm (apart.added r' there' r there)
      (apart.added r there r' there')
  have symmetric : Std.Symm fun r r' : Replacement =>
      ∀ t, r'.apply (r.apply t) = r.apply (r'.apply t) :=
    ⟨fun _ _ same t => (same t).symm⟩
  -- In pairs they commute in the order of the table, so in any order.
  have all := List.Pairwise.forall_of_forall (fun _ _ _ => rfl) others
  exact perm.foldl_eq' (fun r there r' there' t => all there there' t) s

/-- Each text is replaced where it stands, and what surrounds it on its own. -/
theorem applyAll_append_old (apart : KeepApart table) (there : r ∈ table) :
    applyAll table (s ++ (r.old ++ t)) = applyAll table s ++ (r.new ++ applyAll table t) := by
  induction table generalizing s t with
  | nil => cases there
  | cons first table ih =>
    have nonempty := (List.forall_mem_cons.mp apart.nonempty).1
    simp only [applyAll_cons, apply_of_nonempty nonempty]
    rcases List.mem_cons.mp there with rfl | later
    · -- Its own replacement puts the new text in, and the later ones leave that.
      rw [substitute_append_old_append (apart.single r there)]
      refine applyAll_append_apart apart.tail.nonempty fun r' there' => ?_
      exact apart.added r' (List.mem_cons_of_mem _ there') r there
    · have apart' : Text.Apart first.old r.old := (List.pairwise_cons.mp apart.others).1 r later
      rw [substitute_append_apart apart']
      exact ih apart.tail later

end KeepApart

/-! ### The packages of proto files -/

/-- The statements about packages and the one that is put in their place keep apart. -/
theorem keepApart_proto : KeepApart proto where
  nonempty := by decide +kernel
  single := by decide +kernel
  others := by decide +kernel
  added := by decide +kernel

/-- Whatever a proto file says, none of the statements about packages is left in its copy, copying
the copy changes nothing, and the order of the two replacements does not matter. Each of these
statements is replaced where it stands. -/
theorem applyAll_proto_settled (s : Text) :
    (∀ r ∈ proto, ¬ r.old <:+: applyAll proto s) ∧
      applyAll proto (applyAll proto s) = applyAll proto s ∧
      applyAll proto.reverse s = applyAll proto s ∧
      ∀ r ∈ proto, ∀ front back, s = front ++ (r.old ++ back) →
        applyAll proto s = applyAll proto front ++ (r.new ++ applyAll proto back) := by
  have gone : ∀ r ∈ proto, Text.Clear r.old (applyAll proto s) [] :=
    fun r there => keepApart_proto.clear_applyAll there
  refine ⟨fun r there => ?_, applyAll_of_clear keepApart_proto.nonempty gone,
    (keepApart_proto.applyAll_perm proto.reverse_perm.symm).symm, ?_⟩
  · exact (Text.clear_iff_not_isInfix (keepApart_proto.nonempty r there)).mp (gone r there)
  · rintro r there front back rfl
    exact keepApart_proto.applyAll_append_old there

/-- A line of a proto file that states its package. -/
theorem applyAll_proto_of_statement :
    (⟨"option java_package = \"com.hederahashgraph.service.proto.java\";".toList,
        "option java_package = \"com.hedera.hashgraph.sdk.proto\";".toList⟩ : Replacement) ∈ proto ∧
      applyAll proto ("/* ".toList ++
        ("option java_package = \"com.hederahashgraph.service.proto.java\";".toList ++
          " */".toList)) =
      applyAll proto "/* ".toList ++
        ("option java_package = \"com.hedera.hashgraph.sdk.proto\";".toList ++
          applyAll proto " */".toList) := by
  have there : (⟨"option java_package = \"com.hederahashgraph.service.proto.java\";".toList,
      "option java_package = \"com.hedera.hashgraph.sdk.proto\";".toList⟩ : Replacement) ∈ proto :=
    List.mem_cons_of_mem _ List.mem_cons_self
  exact ⟨there, (applyAll_proto_settled _).2.2.2 _ there _ _ rfl⟩

end EnumBindings.Replacement
