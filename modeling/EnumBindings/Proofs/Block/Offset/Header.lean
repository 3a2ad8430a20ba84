import EnumBindings.Proofs.Block.Preface
import EnumBindings.Proofs.Text.Offset
import Mathlib.Logic.Relation
import Mathlib.Order.Bounds.Basic

/-!
# The header of an enum by offsets

The header of an enum is searched for in rounds. Each round looks for the next occurrence of the
header from an offset on. If an identifier touches it there, the next round begins one byte behind
the beginning of that occurrence, so that occurrences which share characters are not missed.

## Main definitions

* `Round`, `round?` — what a round comes to, and a round from an offset on
* `Round.Leads` — from one round to the next
* `headerStop?` — the offset at which the header of an enum ends, if there is one
* `HeaderAt` — the header of an enum stands alone at an offset

## Main results

* `exists_round?` — a round can be made at each offset, and the next one begins behind it
* `isOffset_of_rounds` — all rounds begin at offsets
* `headerStop?_append` — the rounds come to where the header is found
* `headerStop?_isLeast` — this is the one at the least offset
-/

namespace EnumBindings.Block

open Text (size IsOffset)

variable {enum needle source front rest skipped before after : Text} {start next : Nat}

/-- What a round of a search comes to. -/
inductive Round where
  /-- The needle does not occur. -/
  | missing
  /-- The needle stands alone, and ends at the offset. -/
  | found (stop : Nat)
  /-- The needle does not stand alone, and the search goes on from the offset. -/
  | rejected (next : Nat)

/-- A round of the search for a place where a needle stands alone, from an offset on. Nothing is
returned if a slice of the source is taken that there is not. -/
def round? (needle source : Text) (start : Nat) : Option Round :=
  (Text.slice? source start (size source)).bind fun rest =>
    match Text.cut needle rest with
    | none => some .missing
    | some (skipped, _) =>
      let place := start + size skipped
      let stop := place + size needle
      (Text.slice? source 0 place).bind fun before =>
        (Text.slice? source stop (size source)).map fun after =>
          if isBoundary before.getLast? && isBoundary after.head? then .found stop
          else .rejected (place + 1)

/-- The next round begins further behind. -/
theorem lt_of_round?_eq_rejected (h : round? needle source start = some (.rejected next)) :
    start < next ∧ start ≤ size source := by
  obtain ⟨rest, slice, h⟩ := Option.bind_eq_some_iff.mp h
  obtain ⟨bound, -⟩ := Text.isSome_slice?_iff.mp (Option.isSome_of_eq_some slice)
  refine ⟨?_, bound⟩
  split at h
  next => cases h
  next skipped behind found =>
    obtain ⟨before, -, h⟩ := Option.bind_eq_some_iff.mp h
    obtain ⟨after, -, h⟩ := Option.map_eq_some_iff.mp h
    split at h
    · cases h
    · cases h
      omega

/-- The offset at which a needle ends that stands alone, searched for from an offset on, if there is
one. Nothing is returned if a slice of the source is taken that there is not. -/
def headerStop? (needle source : Text) (start : Nat) : Option (Option Nat) :=
  match _round : round? needle source start with
  | none => none
  | some .missing => some none
  | some (.found stop) => some (some stop)
  | some (.rejected next) => headerStop? needle source next
termination_by size source + 1 - start
decreasing_by
  have := lt_of_round?_eq_rejected _round
  omega

/-! ### Rounds -/

/-- A round ends the search where the needle does not occur any more. -/
theorem round?_of_missing (missing : Text.cut needle rest = none) :
    round? needle (front ++ rest) (size front) = some .missing := by
  rw [round?, Text.slice?_after, Option.bind_some, missing]

/-- A round comes to the next occurrence of the needle, and finds out whether it stands alone. -/
theorem round?_of_cut (found : Text.cut needle rest = some (skipped, after)) :
    round? needle (front ++ rest) (size front) =
      some (if StandsAlone none (front ++ skipped) after then
        .found (size front + size skipped + size needle)
      else .rejected (size front + size skipped + 1)) := by
  have whole := Text.cut_eq_some found
  have before : Text.slice? (front ++ rest) 0 (size front + size skipped) =
      some (front ++ skipped) := by
    rw [whole, ← Text.size_append, List.append_assoc skipped, ← List.append_assoc]
    exact Text.slice?_before
  have behind : Text.slice? (front ++ rest) (size front + size skipped + size needle)
      (size (front ++ rest)) = some after := by
    rw [whole, ← Text.size_append, ← Text.size_append, ← List.append_assoc front,
      ← List.append_assoc front]
    exact Text.slice?_after
  rw [round?, Text.slice?_after, Option.bind_some, found]
  simp only [before, behind, Option.bind_some, Option.map_some, StandsAlone, Option.or_none,
    Bool.and_eq_true]

/-- The header of an enum has a first character, which has one byte. -/
theorem headerText_eq_cons (enum : Text) :
    ∃ name, headerText enum = 'e' :: name :=
  ⟨_, rfl⟩

/-- A round can be made at each offset, and the next one begins at an offset behind it. -/
theorem exists_round? (enum : Text) (here : IsOffset source start) :
    ∃ round, round? (headerText enum) source start = some round ∧
      ∀ next, round = .rejected next → start < next ∧ IsOffset source next := by
  obtain ⟨front, rest, rfl, rfl⟩ := here
  cases found : Text.cut (headerText enum) rest with
  | none => exact ⟨.missing, round?_of_missing found, fun next other => by cases other⟩
  | some found' =>
    obtain ⟨skipped, after⟩ := found'
    refine ⟨_, round?_of_cut found, fun next other => ?_⟩
    split at other
    · cases other
    · cases other
      obtain ⟨name, header⟩ := headerText_eq_cons enum
      refine ⟨by omega, front ++ skipped ++ ['e'], name ++ after, ?_, ?_⟩
      · rw [Text.cut_eq_some found, header]
        simp
      · rw [Text.size_append, Text.size_append]
        rfl

/-- A round leads to the next one. -/
def Round.Leads (needle source : Text) (start next : Nat) : Prop :=
  round? needle source start = some (.rejected next)

/-- Each round of the search for a header begins at an offset of the source. -/
theorem isOffset_of_rounds
    (led : Relation.ReflTransGen (Round.Leads (headerText enum) source) 0 start) :
    IsOffset source start := by
  induction led with
  | refl => exact ⟨[], source, rfl, rfl⟩
  | @tail start next _ leads ih =>
    obtain ⟨round, made, further⟩ := exists_round? enum ih
    have same : some round = some (.rejected next) := made.symm.trans leads
    exact (further next (Option.some.inj same)).2

/-! ### All rounds -/

/-- The search passes over a text in which no occurrence of the needle begins. -/
theorem standingAlone?_append_of_clear {previous : Option Char}
    (clear : Text.Clear needle skipped rest) :
    standingAlone? needle previous (skipped ++ rest) =
      (standingAlone? needle (skipped.getLast?.or previous) rest).map
        fun found => (skipped ++ found.1, found.2) :=
  standingAlone?_append_of_past fun before after whole _ =>
    Text.clear_iff_forall.mp clear before after whole

/-- A needle that stands alone at once is found. -/
theorem standingAlone?_of_alone {previous : Option Char} (nonempty : needle ≠ [])
    (alone : StandsAlone previous [] after) :
    standingAlone? needle previous (needle ++ after) = some (needle, after) :=
  standingAlone?_of_first nonempty alone fun _ _ _ _ => Nat.zero_le _

/-- Where the needle does not stand alone, the search goes on behind its first character. -/
theorem standingAlone?_of_touched {previous : Option Char} {c : Char} {name : Text}
    (touched : ¬ StandsAlone previous [] after) :
    standingAlone? (c :: name) previous (c :: name ++ after) =
      (standingAlone? (c :: name) (some c) (name ++ after)).map
        fun found => (c :: found.1, found.2) := by
  refine standingAlone?_past fun after' whole alone => ?_
  have whole : (c :: name) ++ after = (c :: name) ++ after' := whole
  rw [← List.append_cancel_left whole] at alone
  exact touched alone

/-- Where the needle does not occur, it stands alone nowhere. -/
theorem standingAlone?_of_missing {previous : Option Char} (nonempty : needle ≠ [])
    (missing : Text.cut needle rest = none) : standingAlone? needle previous rest = none := by
  have clear := (Text.cut_eq_none_iff nonempty).mp missing
  have passed : standingAlone? needle previous (rest ++ []) = none := by
    rw [standingAlone?_append_of_clear clear, standingAlone?, Option.map_none]
  rwa [List.append_nil] at passed

/-- The search comes to the next occurrence of the needle. -/
theorem standingAlone?_of_cut (front : Text)
    (found : Text.cut needle rest = some (skipped, after)) :
    standingAlone? needle front.getLast? rest =
      (standingAlone? needle (front ++ skipped).getLast? (needle ++ after)).map
        fun found => (skipped ++ found.1, found.2) := by
  obtain ⟨rfl, clear⟩ := Text.cut_eq_some_iff.mp found
  rw [List.append_assoc, standingAlone?_append_of_clear clear, List.getLast?_append]

/-- The rounds from an offset on come to the first place behind it where the header stands alone. -/
theorem headerStop?_append (enum front rest : Text) :
    headerStop? (headerText enum) (front ++ rest) (size front) =
      some ((standingAlone? (headerText enum) front.getLast? rest).map
        fun found => size front + size found.1) := by
  have nonempty := headerText_ne_nil enum
  rw [headerStop?]
  cases found : Text.cut (headerText enum) rest with
  | none =>
    rw [round?_of_missing found, standingAlone?_of_missing nonempty found]
    rfl
  | some found' =>
    obtain ⟨skipped, after⟩ := found'
    have whole := Text.cut_eq_some found
    rw [round?_of_cut found, standingAlone?_of_cut front found]
    by_cases alone : StandsAlone none (front ++ skipped) after
    · have here : StandsAlone (front ++ skipped).getLast? [] after := by
        simpa [StandsAlone] using alone
      rw [if_pos alone, standingAlone?_of_alone nonempty here]
      simp [Nat.add_assoc]
    · -- The next round begins behind the first character of the header that was met.
      have touched : ¬ StandsAlone (front ++ skipped).getLast? [] after := by
        simpa [StandsAlone] using alone
      obtain ⟨name, header⟩ := headerText_eq_cons enum
      have shape : front ++ rest = front ++ skipped ++ ['e'] ++ (name ++ after) := by
        rw [whole, header]
        simp
      have next : size (front ++ skipped ++ ['e']) = size front + size skipped + 1 := by
        rw [Text.size_append, Text.size_append]
        rfl
      have later := headerStop?_append enum (front ++ skipped ++ ['e']) (name ++ after)
      rw [List.getLast?_concat, next, ← shape, header] at later
      rw [if_neg alone, header, standingAlone?_of_touched touched]
      dsimp only
      rw [later, Option.map_map, Option.map_map]
      congr 2
      funext found
      have one : Char.utf8Size 'e' = 1 := rfl
      simp only [Function.comp_apply, Text.size_append, Text.size_cons, one]
      omega
termination_by rest.length
decreasing_by
  rw [whole, header]
  simp only [List.length_append, List.length_cons]
  omega

/-! ### The least offset of a header -/

/-- The header of an enum stands alone at an offset. -/
def HeaderAt (enum source : Text) (start : Nat) : Prop :=
  ∃ before after, source = before ++ headerText enum ++ after ∧ StandsAlone none before after ∧
    size before = start

/-- The first header is the one at the least offset. -/
theorem FirstHeader.isLeast (first : FirstHeader enum source before after) :
    IsLeast {start | HeaderAt enum source start} (size before) := by
  refine ⟨⟨before, after, first.whole, first.alone, rfl⟩, ?_⟩
  rintro start ⟨before', after', whole, alone, rfl⟩
  have longer := first.first before' after' whole alone
  have same := first.whole.symm.trans whole
  rw [List.append_assoc, List.append_assoc] at same
  exact (Text.size_le_iff same).mpr longer

/-- The header that is found ends where the one at the least offset does. -/
theorem map_header?_eq_some_iff {stop : Nat} :
    (header? enum source).map (fun found => size found.1) = some stop ↔
      ∃ start, IsLeast {start | HeaderAt enum source start} start ∧
        stop = start + size (headerText enum) := by
  rw [Option.map_eq_some_iff]
  constructor
  · rintro ⟨⟨through, rest⟩, found, rfl⟩
    obtain ⟨before, rfl, first⟩ := firstHeader_of_header? found
    exact ⟨size before, first.isLeast, Text.size_append⟩
  · rintro ⟨start, least, rfl⟩
    obtain ⟨before, after, whole, alone, -⟩ := least.1
    obtain ⟨before', after', first⟩ := exists_firstHeader whole alone
    refine ⟨_, header?_of_firstHeader first, ?_⟩
    rw [least.unique first.isLeast, Text.size_append]

/-- The search from the beginning of a source finds where its first header ends. -/
theorem headerStop?_eq (enum source : Text) : headerStop? (headerText enum) source 0 =
    some ((header? enum source).map fun found => size found.1) := by
  have whole := headerStop?_append enum [] source
  simpa [header?] using whole

/-- The search for the header of an enum comes to an end without leaving the source. Whatever places
it has rejected before, it finds a header exactly if one stands alone somewhere, and it yields the
end of the one at the least offset. -/
theorem headerStop?_isLeast (enum source : Text) :
    ∃ result, headerStop? (headerText enum) source 0 = some result ∧
      ((∃ stop, result = some stop) ↔ ∃ start, HeaderAt enum source start) ∧
      (∀ stop, result = some stop ↔ ∃ start, IsLeast {start | HeaderAt enum source start} start ∧
        stop = start + size (headerText enum)) ∧
      result = (header? enum source).map fun found => size found.1 := by
  refine ⟨_, headerStop?_eq enum source, ?_, fun stop => map_header?_eq_some_iff, rfl⟩
  constructor
  · rintro ⟨stop, found⟩
    obtain ⟨start, least, -⟩ := map_header?_eq_some_iff.mp found
    exact ⟨start, least.1⟩
  · rintro ⟨start, before, after, whole, alone, -⟩
    obtain ⟨before', after', first⟩ := exists_firstHeader whole alone
    exact ⟨_, map_header?_eq_some_iff.mpr ⟨_, first.isLeast, rfl⟩⟩

/-- Of two headers that share a word the second one stands alone. -/
example : headerStop? (headerText "a enum".toList) "xenum a enum a enum;".toList 0 =
    some (some 19) := by
  rw [headerStop?_eq]
  decide

end EnumBindings.Block
