import EnumBindings.Files.Workspace
import Mathlib.Data.List.Basic

/-!
# Walking through trees without links

Where there are no symbolic links, following names is walking down from directory to directory,
and up again at each `..`. Where a walk leads depends on the directories alone, so it leads to the
same directory in a tree that has more of them.

## Main definitions

* `IsName` — a name that an item of a directory can have
* `Path.steps` — the names of a path, apart from a slash at the end
* `Tree.walk` — the directory to which names lead
* `Tree.Linkless`, `Tree.DirectoriesIn` — no links, and directories of another tree

## Main results

* `Path.names_join` — the names of a path below another one
* `Tree.follow_use_eq_ok_iff_walk`, `Tree.follow_concat_eq_ok_iff` — following is walking
* `Tree.walk_mono` — names lead to the same directory where there are at least the same directories
-/

namespace EnumBindings

/-! ### Names -/

/-- A name that has no meaning of its own. -/
structure Enters (name : Text) : Prop where
  nonempty : name ≠ []
  notHere : name ≠ ['.']
  notAbove : name ≠ ['.', '.']

/-- A name that an item of a directory can have. -/
structure IsName (name : Text) : Prop extends Enters name where
  slashless : '/' ∉ name
  nulless : '\x00' ∉ name

instance (name : Text) : Decidable (IsName name) :=
  decidable_of_iff
    (name ≠ [] ∧ name ≠ ['.'] ∧ name ≠ ['.', '.'] ∧ '/' ∉ name ∧ '\x00' ∉ name)
    ⟨fun ⟨nonempty, notHere, notAbove, slashless, nulless⟩ =>
      ⟨⟨nonempty, notHere, notAbove⟩, slashless, nulless⟩,
      fun isName => ⟨isName.nonempty, isName.notHere, isName.notAbove, isName.slashless,
        isName.nulless⟩⟩

/-- A name is short enough to be followed. -/
def Fits (name : Text) : Prop :=
  (Text.encode name).size ≤ Tree.maxNameBytes

instance (name : Text) : Decidable (Fits name) :=
  inferInstanceAs (Decidable (_ ≤ _))

/-- A name stays where it is, goes up or has no meaning of its own. -/
theorem stays_or_up_or_enters (name : Text) :
    (name = [] ∨ name = ['.']) ∨ name = ['.', '.'] ∨ Enters name := by
  by_cases nothing : name = []
  · exact .inl (.inl nothing)
  by_cases here : name = ['.']
  · exact .inl (.inr here)
  by_cases above : name = ['.', '.']
  · exact .inr (.inl above)
  exact .inr (.inr ⟨nothing, here, above⟩)

namespace Path

variable {base : Path} {name : Text}

/-- The names of a path, apart from a slash at the end. -/
def steps (path : Path) : List Text :=
  (path.splitOn '/').filter (· ≠ [])

theorem isAbsolute_of_isName (isName : IsName name) : isAbsolute name = false := by
  rw [isAbsolute]
  cases name with
  | nil => exact absurd rfl isName.nonempty
  | cons first rest =>
    have other : first ≠ '/' := fun same => isName.slashless (by simp [same])
    simpa using other

/-- A name behind a path starts from where the path does. -/
theorem isAbsolute_join (isName : IsName name) : (base.join name).isAbsolute = base.isAbsolute := by
  rw [join, isAbsolute_of_isName isName]
  cases base with
  | nil => simpa [isAbsolute] using isAbsolute_of_isName isName
  | cons first rest =>
    simp only [Bool.false_eq_true, if_false]
    split <;> rfl

@[simp] theorem steps_nil : steps [] = [] := by
  simp [steps]

theorem steps_append_slash (path rest : Path) :
    steps (path ++ '/' :: rest) = steps path ++ steps rest := by
  rw [steps, List.splitOn_append_cons_self, List.filter_append]
  rfl

theorem steps_of_isName (isName : IsName name) : steps name = [name] := by
  rw [steps, List.splitOn_eq_singleton isName.slashless]
  simp [isName.nonempty]

/-- A name is put behind nothing or behind a slash. -/
theorem exists_join_eq (isName : IsName name) (base : Path) :
    ∃ front, base.join name = front ++ name ∧ steps front = steps base ∧
      (front = [] ∨ ∃ above, front = above ++ ['/']) := by
  have ended (above : Path) : steps (above ++ ['/']) = steps above := by
    rw [steps_append_slash, steps_nil, List.append_nil]
  rw [join, isAbsolute_of_isName isName]
  simp only [Bool.false_eq_true, if_false]
  split
  next ends =>
    refine ⟨base, rfl, rfl, ?_⟩
    rcases (Bool.or_eq_true _ _).mp ends with empty | slash
    · exact .inl (by simpa using empty)
    · exact .inr (List.getLast?_eq_some_iff.mp (beq_iff_eq.mp slash))
  next => exact ⟨base ++ ['/'], by simp, ended base, .inr ⟨base, rfl⟩⟩

/-- A name behind a path is one more step. -/
theorem steps_join (isName : IsName name) : steps (base.join name) = steps base ++ [name] := by
  obtain ⟨front, whole, same, rfl | ⟨above, rfl⟩⟩ := exists_join_eq isName base
  · rw [whole, ← same, List.nil_append, steps_of_isName isName]
    simp
  · rw [whole, ← same, List.append_assoc, List.singleton_append, steps_append_slash,
      steps_append_slash, steps_of_isName isName, steps_nil, List.append_nil]

theorem join_ne_nil (isName : IsName name) : base.join name ≠ [] := by
  obtain ⟨front, whole, -⟩ := exists_join_eq isName base
  simp [whole, isName.nonempty]

/-- The names of a path below another one. -/
theorem names_join (isName : IsName name) : (base.join name).names = steps base ++ [name] := by
  obtain ⟨front, whole, -⟩ := exists_join_eq isName base
  have unended : (base.join name).getLast? ≠ some '/' := by
    rw [whole, List.getLast?_append_of_ne_nil _ isName.nonempty]
    exact fun last => isName.slashless (List.mem_of_getLast? last)
  rw [← steps_join isName, names, steps]
  simp [unended]

end Path

/-! ### Walking -/

namespace Tree

variable {tree other : Tree} {purpose : Purpose} {links : Nat} {here location : Location}
  {name : Text} {names rest : List Text}

/-- The directory to which names lead from a directory, with no links on the way. -/
def walk (tree : Tree) (here : Location) : List Text → Option Location
  | [] => some here
  | name :: rest =>
    if name = [] ∨ name = ['.'] then tree.walk here rest
    else if name = ['.', '.'] then tree.walk here.tail rest
    else if Fits name ∧ tree.item? (name :: here) = some .directory then
      tree.walk (name :: here) rest
    else none

/-- There are no symbolic links. -/
def Linkless (tree : Tree) : Prop :=
  ∀ location target, tree.item? location ≠ some (.link target)

/-- The directories of a tree are directories of another one. -/
def DirectoriesIn (tree other : Tree) : Prop :=
  ∀ location, tree.item? location = some .directory → other.item? location = some .directory

theorem item?_tail (inside : tree.item? here = some .directory) :
    tree.item? here.tail = some .directory := by
  cases here with
  | nil => exact inside
  | cons name above => exact item?_above inside

theorem DirectoriesIn.trans {last : Tree} (first : tree.DirectoriesIn other)
    (second : other.DirectoriesIn last) : tree.DirectoriesIn last :=
  fun location there => second location (first location there)

section Steps

theorem walk_stay (stays : name = [] ∨ name = ['.']) :
    tree.walk here (name :: rest) = tree.walk here rest := by
  rw [walk, if_pos stays]

theorem walk_up : tree.walk here (['.', '.'] :: rest) = tree.walk here.tail rest := by
  simp [walk]

theorem walk_enter (enters : Enters name) : tree.walk here (name :: rest) =
    if Fits name ∧ tree.item? (name :: here) = some .directory then
      tree.walk (name :: here) rest
    else none := by
  simp [walk, enters.nonempty, enters.notHere, enters.notAbove]

theorem follow_nil : tree.follow purpose links here [] = .ok here := by
  rw [follow]

theorem follow_stay (stays : name = [] ∨ name = ['.']) :
    tree.follow purpose links here (name :: rest) = tree.follow purpose links here rest := by
  rw [follow, if_pos (by simpa using stays)]

theorem follow_up : tree.follow purpose links here (['.', '.'] :: rest) =
    tree.follow purpose links here.tail rest := by
  rw [follow]
  simp

/-- A name without a meaning of its own, which is not the last one of a path to write to with a
slash at the end, leads to the item of that name. -/
theorem follow_enter (linkless : tree.Linkless) (enters : Enters name)
    (written : purpose = .write → rest ≠ [[]]) :
    tree.follow purpose links here (name :: rest) =
      if Fits name then
        if tree.item? (name :: here) = some .directory then
          tree.follow purpose links (name :: here) rest
        else if purpose.isLast rest then .ok (name :: here)
        else if tree.item? (name :: here) = none then .error .notFound
        else .error .notDirectory
      else .error .nameTooLong := by
  have unwritten : (purpose = .write && rest = [[]]) = false := by
    simpa using written
  rw [follow]
  simp only [enters.nonempty, enters.notHere, enters.notAbove, unwritten, Bool.false_eq_true,
    decide_false, Bool.or_self, if_false]
  by_cases fits : Fits name
  · rw [if_neg (Nat.not_lt.mpr fits), if_pos fits]
    -- Without links, an item is a directory to go on in, or the end of the way.
    cases found : tree.item? (name :: here) with
    | none => simp
    | some item =>
      cases item with
      | directory => simp
      | file content => simp
      | link target => exact absurd found (linkless _ _)
  · rw [if_pos (Nat.not_le.mp fits), if_neg fits]

end Steps

/-- Steps are walked one part after the other. -/
theorem walk_append (before after : List Text) : tree.walk here (before ++ after) =
    (tree.walk here before).bind fun between => tree.walk between after := by
  induction before generalizing here with
  | nil => rfl
  | cons name before ih =>
    rw [List.cons_append]
    rcases stays_or_up_or_enters name with stays | rfl | enters
    · rw [walk_stay stays, walk_stay stays, ih]
    · rw [walk_up, walk_up, ih]
    · rw [walk_enter enters, walk_enter enters]
      split
      · rw [ih]
      · rfl

/-- What is walked to from a directory is a directory. -/
theorem item?_of_walk (inside : tree.item? here = some .directory)
    (led : tree.walk here names = some location) : tree.item? location = some .directory := by
  induction names generalizing here with
  | nil =>
    cases led
    exact inside
  | cons name names ih =>
    rcases stays_or_up_or_enters name with stays | rfl | enters
    · rw [walk_stay stays] at led
      exact ih inside led
    · rw [walk_up] at led
      exact ih (item?_tail inside) led
    · rw [walk_enter enters] at led
      split at led
      next down => exact ih down.2 led
      next => cases led

/-- Names lead to the same directory where there are at least the same directories. -/
theorem walk_mono (directories : tree.DirectoriesIn other)
    (led : tree.walk here names = some location) : other.walk here names = some location := by
  induction names generalizing here with
  | nil => exact led
  | cons name names ih =>
    rcases stays_or_up_or_enters name with stays | rfl | enters
    · rw [walk_stay stays] at led ⊢
      exact ih led
    · rw [walk_up] at led ⊢
      exact ih led
    · rw [walk_enter enters] at led ⊢
      split at led
      next down =>
        rw [if_pos ⟨down.1, directories _ down.2⟩]
        exact ih led
      next => cases led

/-- Names that lead to a directory are followed to it. -/
theorem follow_of_walk (linkless : tree.Linkless) (unwritten : purpose ≠ .write)
    (led : tree.walk here names = some location) :
    tree.follow purpose links here names = .ok location := by
  induction names generalizing here with
  | nil =>
    cases led
    exact follow_nil
  | cons name names ih =>
    rcases stays_or_up_or_enters name with stays | rfl | enters
    · rw [walk_stay stays] at led
      rw [follow_stay stays]
      exact ih led
    · rw [walk_up] at led
      rw [follow_up]
      exact ih led
    · rw [walk_enter enters] at led
      rw [follow_enter linkless enters (absurd · unwritten)]
      split at led
      next down =>
        rw [if_pos down.1, if_pos down.2]
        exact ih led
      next => cases led

/-- Names are followed to a directory exactly if they lead to it. -/
theorem follow_use_eq_ok_iff_walk (linkless : tree.Linkless)
    (inside : tree.item? here = some .directory) :
    tree.follow .use links here names = .ok location ∧ tree.item? location = some .directory ↔
      tree.walk here names = some location := by
  refine ⟨?_, fun led => ⟨follow_of_walk linkless (by simp) led, item?_of_walk inside led⟩⟩
  rintro ⟨led, there⟩
  induction names generalizing here with
  | nil =>
    rw [follow_nil] at led
    cases led
    rfl
  | cons name names ih =>
    rcases stays_or_up_or_enters name with stays | rfl | enters
    · rw [follow_stay stays] at led
      rw [walk_stay stays]
      exact ih inside led
    · rw [follow_up] at led
      rw [walk_up]
      exact ih (item?_tail inside) led
    · rw [follow_enter linkless enters (by simp)] at led
      rw [walk_enter enters]
      by_cases fits : Fits name
      · by_cases down : tree.item? (name :: here) = some .directory
        · rw [if_pos fits, if_pos down] at led
          rw [if_pos ⟨fits, down⟩]
          exact ih down led
        · -- Any other item is not followed any further, and is no directory.
          rw [if_pos fits, if_neg down] at led
          split at led
          · cases led
            exact absurd there down
          · split at led <;> cases led
      · rw [if_neg fits] at led
        cases led

/-- A last name is followed to the place of that name in the directory to which the other names
lead. -/
theorem follow_concat_eq_ok_iff (linkless : tree.Linkless) (enters : Enters name) :
    tree.follow purpose links here (names ++ [name]) = .ok location ↔
      ∃ directory, tree.walk here names = some directory ∧ Fits name ∧
        location = name :: directory := by
  induction names generalizing here with
  | nil =>
    rw [List.nil_append, follow_enter linkless enters (by simp), follow_nil]
    have last : purpose.isLast [] = true := rfl
    by_cases fits : Fits name <;> simp [fits, walk, last, eq_comm]
  | cons first names ih =>
    rw [List.cons_append]
    have more : names ++ [name] ≠ [] := by simp
    -- A name in front of the last one is not the last one itself, so a directory has to be there.
    have unended : names ++ [name] ≠ [[]] := by
      intro same
      have last := congrArg List.getLast? same
      simp [enters.nonempty] at last
    have notLast : purpose.isLast (names ++ [name]) = false := by
      simp [Purpose.isLast, unended]
    rcases stays_or_up_or_enters first with stays | rfl | enters'
    · rw [follow_stay stays, walk_stay stays, ih]
    · rw [follow_up, walk_up, ih]
    · rw [follow_enter linkless enters' fun _ => unended, walk_enter enters', notLast]
      by_cases fits : Fits first
      · by_cases down : tree.item? (first :: here) = some .directory
        · rw [if_pos fits, if_pos down, if_pos ⟨fits, down⟩, ih]
        · have blocked : ¬ (Fits first ∧ tree.item? (first :: here) = some .directory) :=
            fun both => down both.2
          rw [if_pos fits, if_neg down, if_neg blocked]
          simp only [Bool.false_eq_true, if_false]
          split <;> simp
      · have blocked : ¬ (Fits first ∧ tree.item? (first :: here) = some .directory) :=
          fun both => fits both.1
        rw [if_neg fits, if_neg blocked]
        simp

/-- A place at which there is nothing yet, found in order to make it, is that of a name in a
directory; names lead to it once there is a directory. -/
theorem exists_of_follow_replace (linkless : tree.Linkless)
    (inside : tree.item? here = some .directory)
    (led : tree.follow .replace links here names = .ok location)
    (free : tree.item? location = none) :
    ∃ name above, location = name :: above ∧ tree.item? above = some .directory ∧
      ∀ other : Tree, tree.DirectoriesIn other → other.item? location = some .directory →
        other.walk here names = some location := by
  induction names generalizing here with
  | nil =>
    rw [follow_nil] at led
    cases led
    -- The place where following begins is taken by a directory.
    rw [inside] at free
    cases free
  | cons name names ih =>
    rcases stays_or_up_or_enters name with stays | rfl | enters
    · rw [follow_stay stays] at led
      simpa only [walk_stay stays] using ih inside led
    · rw [follow_up] at led
      simpa only [walk_up] using ih (item?_tail inside) led
    · rw [follow_enter linkless enters (by simp)] at led
      by_cases fits : Fits name
      · rw [if_pos fits] at led
        by_cases down : tree.item? (name :: here) = some .directory
        · rw [if_pos down] at led
          obtain ⟨last, above, rfl, held, leads⟩ := ih down led
          refine ⟨last, above, rfl, held, fun other directories made => ?_⟩
          rw [walk_enter enters, if_pos ⟨fits, directories _ down⟩]
          exact leads other directories made
        · rw [if_neg down] at led
          split at led
          next isLast =>
            cases led
            refine ⟨name, here, rfl, inside, fun other directories made => ?_⟩
            have stays : names = [] ∨ names = [[]] := by simpa [Purpose.isLast] using isLast
            rw [walk_enter enters, if_pos ⟨fits, made⟩]
            rcases stays with rfl | rfl
            · rfl
            · exact walk_stay (.inl rfl)
          next => split at led <;> cases led
      · rw [if_neg fits] at led
        cases led

end Tree

end EnumBindings
