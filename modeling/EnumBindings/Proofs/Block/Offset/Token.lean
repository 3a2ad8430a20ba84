import EnumBindings.Proofs.Block.Nearest
import EnumBindings.Proofs.Text.Offset
import Mathlib.Order.Bounds.Basic

/-!
# The nearest token by offsets

The nearest token is also found by one search for each kind of token: of the offsets that these
searches yield, the least one is kept. In which order the kinds are looked for does not matter, as
two tokens may share a character but do not begin at the same place.

## Main definitions

* `Token.table` — the kinds of tokens in one order
* `Token.nearest?` — the token with the least offset that is found

## Main results

* `Token.eq_of_occursAt` — no two tokens begin at one offset
* `Token.nearest?_append` — what is found is what reading to the nearest token finds
* `Token.nearest?_isLeast` — it is the token at the least offset, for each order of the kinds
-/

namespace EnumBindings.Block.Token

open Text (size seek? IsOffset OccursAt)

variable {wanted : Token → Bool} {order : List Token} {source front rest skipped after : Text}
  {token other : Token} {best : Option (Token × Nat)} {offset start place : Nat}

/-- The kinds of tokens, in the order in which they are looked for. -/
def table : List Token :=
  [.assign, .lineComment, .blockComment, .lineEnd, .closeBrace]

/-- The token found so far, unless one of a further kind is found in front of it. -/
def nearer (source : Text) (offset : Nat) (best : Option (Token × Nat)) (token : Token) :
    Option (Token × Nat) :=
  match seek? token.lexeme source offset with
  | some place => if best.all fun found => place < found.2 then some (token, place) else best
  | none => best

/-- The nearest token from an offset on, with its offset, each kind being looked for in turn. -/
def nearest? (order : List Token) (source : Text) (offset : Nat) : Option (Token × Nat) :=
  order.foldl (nearer source offset) none

/-! ### Places of tokens -/

/-- No two tokens begin at one offset. -/
theorem eq_of_occursAt (here : OccursAt token.lexeme source start)
    (there : OccursAt other.lexeme source start) : token = other := by
  obtain ⟨before, after, rfl, rfl⟩ := here
  obtain ⟨before', after', whole, same⟩ := there
  rw [List.append_assoc, List.append_assoc] at whole
  obtain ⟨-, behind⟩ := Text.eq_of_size_eq whole same.symm
  have first := at?_eq_some_iff.mpr behind
  rw [at?_eq_some_iff.mpr rfl] at first
  cases first
  rfl

/-- The token that is read to occurs where it is. -/
theorem occursAt_of_next? (found : next? wanted rest = some (skipped, token, after)) :
    OccursAt token.lexeme (front ++ rest) (size front + size skipped) := by
  rw [(next?_append found).1]
  exact Text.occursAt_append skipped

/-- No wanted token occurs in what is passed over. -/
theorem le_of_occursAt (found : next? wanted rest = some (skipped, token, after))
    (kind : wanted other = true) (occurs : OccursAt other.lexeme (front ++ rest) start)
    (bound : size front ≤ start) : size front + size skipped ≤ start := by
  obtain ⟨whole, -, clear⟩ := next?_eq_some_iff.mp found
  obtain ⟨skipped', after', whole', rfl⟩ := occurs.exists_skipped bound
  rw [List.append_assoc] at whole
  have longer := Text.clear_iff_forall.mp (clear other kind) skipped' after' (whole ▸ whole')
  rw [whole', List.append_assoc] at whole
  exact Nat.add_le_add_left ((Text.size_le_iff whole.symm).mpr longer) (size front)

/-- The token that is read to is found where it is. -/
theorem seek?_of_next? (found : next? wanted rest = some (skipped, token, after)) :
    seek? token.lexeme (front ++ rest) (size front) = some (size front + size skipped) := by
  obtain ⟨whole, kind, clear⟩ := next?_eq_some_iff.mp found
  have cut := Text.cut_eq_some_iff.mpr ⟨whole, clear token kind⟩
  rw [Text.seek?_append, cut, Option.map_some]

/-- A wanted token of another kind is found behind the one that is read to. -/
theorem lt_of_seek?_of_next? (found : next? wanted rest = some (skipped, token, after))
    (kind : wanted other = true) (different : other ≠ token)
    (elsewhere : seek? other.lexeme (front ++ rest) (size front) = some place) :
    size front + size skipped < place := by
  obtain ⟨⟨behind, there⟩, -⟩ :=
    (Text.seek?_eq_some_iff (Text.isOffset_size front rest)).mp elsewhere
  have bound := le_of_occursAt found kind there behind
  have apart : size front + size skipped ≠ place := by
    intro same
    rw [← same] at there
    exact different (eq_of_occursAt there (occursAt_of_next? found))
  omega

/-- Where no wanted token is read to, none is found. -/
theorem seek?_of_next?_eq_none (missing : next? wanted rest = none)
    (kind : wanted token = true) :
    seek? token.lexeme (front ++ rest) (size front) = none := by
  have nonempty : token.lexeme ≠ [] := List.ne_nil_of_length_pos token.lexeme_length_pos
  have clear := next?_eq_none_iff.mp missing token kind
  rw [Text.seek?_append, (Text.cut_eq_none_iff nonempty).mpr clear, Option.map_none]

/-! ### Looking for each kind -/

/-- Whatever was found so far is behind a place. -/
def Behind (place : Nat) (best : Option (Token × Nat)) : Prop :=
  ∀ found, best = some found → place < found.2

theorem nearer_of_none (missing : seek? token.lexeme source offset = none) :
    nearer source offset best token = best := by
  rw [nearer, missing]

/-- A token in front of all that was found so far is kept. -/
theorem nearer_of_behind (found : seek? token.lexeme source offset = some place)
    (behind : Behind place best) : nearer source offset best token = some (token, place) := by
  have first : best.all (fun found => place < found.2) = true := by
    rw [Option.all_eq_true]
    intro earlier known
    exact decide_eq_true (behind earlier known)
  rw [nearer, found]
  exact if_pos first

/-- What was found so far is kept if no token of a further kind is in front of it. -/
theorem nearer_of_le
    (later : ∀ place', seek? other.lexeme source offset = some place' → place ≤ place') :
    nearer source offset (some (token, place)) other = some (token, place) := by
  unfold nearer
  split
  next place' found =>
    have bound := later place' found
    rw [Option.all_some, if_neg (by simpa using bound)]
  next => rfl

/-- What is kept is behind a place if all that is found is. -/
theorem Behind.nearer (behind : Behind place best)
    (later : ∀ place', seek? other.lexeme source offset = some place' → place < place') :
    Behind place (nearer source offset best other) := by
  intro kept known
  unfold Token.nearer at known
  split at known
  next place' found =>
    split at known
    · cases known
      exact later place' found
    · exact behind kept known
  next => exact behind kept known

theorem Behind.foldl_nearer (behind : Behind place best)
    (later : ∀ other ∈ order, ∀ place', seek? other.lexeme source offset = some place' →
      place < place') :
    Behind place (order.foldl (Token.nearer source offset) best) := by
  induction order generalizing best with
  | nil => exact behind
  | cons other order ih =>
    obtain ⟨here, rest⟩ := List.forall_mem_cons.mp later
    exact ih (behind.nearer here) rest

theorem foldl_nearer_of_le
    (later : ∀ other ∈ order, ∀ place', seek? other.lexeme source offset = some place' →
      place ≤ place') :
    order.foldl (nearer source offset) (some (token, place)) = some (token, place) := by
  induction order with
  | nil => rfl
  | cons other order ih =>
    obtain ⟨here, rest⟩ := List.forall_mem_cons.mp later
    rw [List.foldl_cons, nearer_of_le here, ih rest]

/-- A token is the nearest one if those of all other kinds are behind it. -/
theorem nearest?_of_lt (mem : token ∈ order)
    (found : seek? token.lexeme source offset = some place)
    (later : ∀ other ∈ order, other ≠ token → ∀ place',
      seek? other.lexeme source offset = some place' → place < place') :
    nearest? order source offset = some (token, place) := by
  -- Before its own turn the token is behind nothing, and after it nothing is in front of the token.
  obtain ⟨early, late, rfl, unseen⟩ := List.eq_append_cons_of_mem mem
  have behind : Behind place (early.foldl (nearer source offset) none) := by
    refine Behind.foldl_nearer (fun kept known => by cases known) fun other there => ?_
    have different : other ≠ token := by
      intro same
      exact unseen (same ▸ there)
    exact later other (List.mem_append_left _ there) different
  rw [nearest?, List.foldl_append, List.foldl_cons, nearer_of_behind found behind]
  refine foldl_nearer_of_le fun other there place' elsewhere => ?_
  by_cases same : other = token
  · rw [same, found] at elsewhere
    cases elsewhere
    exact Nat.le_refl place
  · exact Nat.le_of_lt (later other (by simp [there]) same place' elsewhere)

/-- There is no nearest token if none is found of any kind. -/
theorem nearest?_of_none (missing : ∀ token ∈ order, seek? token.lexeme source offset = none) :
    nearest? order source offset = none := by
  unfold nearest?
  induction order with
  | nil => rfl
  | cons token order ih =>
    obtain ⟨here, rest⟩ := List.forall_mem_cons.mp missing
    rw [List.foldl_cons, nearer_of_none here, ih rest]

/-- The nearest token is the one that is read to when those kinds are wanted. -/
theorem nearest?_append (kinds : ∀ token, token ∈ order ↔ wanted token = true) :
    nearest? order (front ++ rest) (size front) =
      (next? wanted rest).map fun found => (found.2.1, size front + size found.1) := by
  cases found : next? wanted rest with
  | none =>
    rw [Option.map_none]
    exact nearest?_of_none fun token mem => seek?_of_next?_eq_none found ((kinds token).mp mem)
  | some found' =>
    obtain ⟨skipped, token, after⟩ := found'
    rw [Option.map_some]
    refine nearest?_of_lt ((kinds token).mpr (next?_append found).2) (seek?_of_next? found) ?_
    intro other mem different place elsewhere
    exact lt_of_seek?_of_next? found ((kinds other).mp mem) different elsewhere

/-- The nearest token of any kind is the one that is read to. -/
theorem nearest?_append_of_perm (all : order.Perm table) :
    nearest? order (front ++ rest) (size front) =
      (next? (fun _ => true) rest).map fun found => (found.2.1, size front + size found.1) := by
  refine nearest?_append fun token => ?_
  rw [all.mem_iff]
  cases token <;> decide

/-! ### The least offset of a token -/

/-- A token of some kind begins at an offset. -/
def BeginsAt (source : Text) (start : Nat) : Prop :=
  ∃ token : Token, OccursAt token.lexeme source start

/-- There is no nearest token exactly if none begins from the offset on. -/
theorem nearest?_eq_none_iff (all : order.Perm table) (here : IsOffset source offset) :
    nearest? order source offset = none ↔ ∀ start, offset ≤ start → ¬ BeginsAt source start := by
  obtain ⟨front, rest, rfl, rfl⟩ := here
  rw [nearest?_append_of_perm all, Option.map_eq_none_iff]
  constructor
  · rintro missing start bound ⟨token, occurs⟩
    have nonempty : token.lexeme ≠ [] := List.ne_nil_of_length_pos token.lexeme_length_pos
    have nowhere : seek? token.lexeme (front ++ rest) (size front) = none :=
      seek?_of_next?_eq_none missing rfl
    exact (Text.seek?_eq_none_iff nonempty (Text.isOffset_size front rest)).mp nowhere start bound
      occurs
  · intro nowhere
    rw [Option.eq_none_iff_forall_not_mem]
    rintro ⟨skipped, token, after⟩ found
    exact nowhere _ (Nat.le_add_right _ (size skipped)) ⟨token, occursAt_of_next? found⟩

/-- The nearest token begins at the least offset at which a token begins. -/
theorem isLeast_of_nearest? (all : order.Perm table) (here : IsOffset source offset)
    (nearest : nearest? order source offset = some (token, start)) :
    OccursAt token.lexeme source start ∧
      IsLeast {start | offset ≤ start ∧ BeginsAt source start} start := by
  obtain ⟨front, rest, rfl, rfl⟩ := here
  rw [nearest?_append_of_perm all, Option.map_eq_some_iff] at nearest
  obtain ⟨⟨skipped, token', after⟩, found, same⟩ := nearest
  cases same
  have occurs : OccursAt token'.lexeme (front ++ rest) (size front + size skipped) :=
    occursAt_of_next? found
  refine ⟨occurs, ⟨Nat.le_add_right _ _, _, occurs⟩, ?_⟩
  rintro start ⟨bound, other, there⟩
  exact le_of_occursAt found rfl there bound

/-- The nearest token is the one that begins at the least offset at which a token begins. -/
theorem nearest?_eq_some_iff (all : order.Perm table) (here : IsOffset source offset) :
    nearest? order source offset = some (token, start) ↔ OccursAt token.lexeme source start ∧
      IsLeast {start | offset ≤ start ∧ BeginsAt source start} start := by
  constructor
  · exact isLeast_of_nearest? all here
  · rintro ⟨occurs, least⟩
    cases nearest : nearest? order source offset with
    | none =>
      have nowhere := (nearest?_eq_none_iff all here).mp nearest
      exact absurd ⟨token, occurs⟩ (nowhere start least.1.1)
    | some found =>
      obtain ⟨other, start'⟩ := found
      obtain ⟨there, least'⟩ := isLeast_of_nearest? all here nearest
      obtain rfl := least.unique least'
      rw [eq_of_occursAt occurs there]

/-- Whatever order the kinds of tokens are looked for in, there is a nearest token exactly if a
token begins from the offset on, and it is the one at the least offset of these. No other kind of
token begins there, so it is the same one for each order, and the one that is read to. -/
theorem nearest?_isLeast (all : order.Perm table) (here : IsOffset source offset) :
    (nearest? order source offset = none ↔
        ∀ start, offset ≤ start → ¬ BeginsAt source start) ∧
      (∀ (token : Token) start, nearest? order source offset = some (token, start) ↔
        OccursAt token.lexeme source start ∧
          IsLeast {start | offset ≤ start ∧ BeginsAt source start} start) ∧
      (∀ (token other : Token) start, OccursAt token.lexeme source start →
        OccursAt other.lexeme source start → token = other) ∧
      nearest? order source offset = nearest? table source offset ∧
      ∀ front rest, Text.split? source offset = some (front, rest) →
        nearest? order source offset =
          (next? (fun _ => true) rest).map fun found => (found.2.1, offset + size found.1) := by
  refine ⟨nearest?_eq_none_iff all here, fun token start => nearest?_eq_some_iff all here,
    fun token other start => eq_of_occursAt, ?_, fun front rest parts => ?_⟩
  · obtain ⟨front, rest, rfl, rfl⟩ := here
    rw [nearest?_append_of_perm all, nearest?_append_of_perm (.refl table)]
  · obtain ⟨rfl, rfl⟩ := Text.split?_eq_some_iff.mp parts
    exact nearest?_append_of_perm all

/-- Two openers that share a slash, behind a character of two bytes. From the last kind to the first
the block comment is looked for before the line comment. -/
theorem nearest?_isLeast_sharedSlash :
    table.reverse.Perm table ∧ IsOffset "ß //* = x".toList 2 ∧
      OccursAt (lexeme .blockComment) "ß //* = x".toList 4 ∧
      nearest? table.reverse "ß //* = x".toList 2 = some (.lineComment, 3) ∧
      IsLeast {start | 2 ≤ start ∧ BeginsAt "ß //* = x".toList start} 3 ∧
      nearest? table "ß //* = x".toList 2 = some (.lineComment, 3) := by
  have all : table.reverse.Perm table := by decide
  have here : IsOffset "ß //* = x".toList 2 := ⟨"ß".toList, " //* = x".toList, by decide, by decide⟩
  have nearest : nearest? table.reverse "ß //* = x".toList 2 = some (.lineComment, 3) := by decide
  obtain ⟨-, found, -, same, -⟩ := nearest?_isLeast all here
  exact ⟨all, here, ⟨"ß /".toList, " = x".toList, by decide, by decide⟩, nearest,
    ((found _ _).mp nearest).2, same.symm.trans nearest⟩

end EnumBindings.Block.Token
