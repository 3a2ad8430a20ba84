import EnumBindings.Proofs.Files.Changes

/-!
# Directories on the way

When a directory is made with all that lead to it, one directory after the other is made along its
path. So nothing is added but directories that the path passes through, whether this succeeds or
not.

## Main definitions

* `Workspace.OnWay` — a directory that a path passes through

## Main results

* `Path.splitOn_ofAncestry` — a path that is put together from names has these names
* `Tree.walk_names`, `Tree.walk_ancestry` — names that stay where they are do not matter
* `Workspace.onWay_of_makeDirectories` — what is added is on the way
-/

namespace EnumBindings

/-! ### Paths put together from names -/

namespace Path

variable {name : Text} {names : List Text} {absolute : Bool}

/-- There is no slash in what slashes separate. -/
theorem slash_notMem_of_mem_splitOn {path : Path} (among : name ∈ path.splitOn '/') :
    '/' ∉ name := by
  by_cases separated : '/' ∈ path
  · obtain ⟨front, behind, rfl, first⟩ := List.eq_append_cons_of_mem separated
    rw [List.splitOn_append_cons_self_of_not_mem first, List.mem_cons] at among
    rcases among with rfl | later
    · exact first
    · exact slash_notMem_of_mem_splitOn later
  · rw [List.splitOn_eq_singleton separated, List.mem_singleton] at among
    rwa [among]
termination_by path.length

/-- A name that can be put into a path. -/
structure IsComponent (name : Text) : Prop where
  nonempty : name ≠ []
  slashless : '/' ∉ name

theorem isComponent_of_mem_ancestry {path : Path} (among : name ∈ path.ancestry) :
    IsComponent name := by
  rw [ancestry, List.mem_reverse, List.mem_filter] at among
  obtain ⟨between, kept⟩ := among
  refine ⟨?_, slash_notMem_of_mem_splitOn between⟩
  rintro rfl
  simp at kept

/-- A path that is put together from names starts from where it should. -/
theorem isAbsolute_ofAncestry (components : ∀ name ∈ names, IsComponent name)
    (nonempty : names ≠ []) : (ofAncestry absolute names).isAbsolute = absolute := by
  cases absolute with
  | true => rfl
  | false =>
    obtain ⟨first, rest, whole⟩ :=
      List.exists_cons_of_ne_nil (List.reverse_eq_nil_iff.not.mpr nonempty)
    have component := components first (List.mem_reverse.mp (by simp [whole]))
    obtain ⟨c, cs, rfl⟩ := List.exists_cons_of_ne_nil component.nonempty
    have other : c ≠ '/' := by
      rintro rfl
      exact component.slashless List.mem_cons_self
    have initial : (['/'].intercalate ((c :: cs) :: rest)).head? = some c := by
      cases rest <;> simp [List.intercalate_cons_cons]
    rw [ofAncestry, whole, isAbsolute]
    simpa [initial] using other

/-- A path that is put together from names has these names. -/
theorem splitOn_ofAncestry (components : ∀ name ∈ names, IsComponent name)
    (nonempty : names ≠ []) :
    (ofAncestry absolute names).splitOn '/' = (if absolute then [[]] else []) ++ names.reverse := by
  have separated : List.splitOn '/' (['/'].intercalate names.reverse) = names.reverse := by
    apply List.splitOn_intercalate
    · intro name among
      exact (components name (List.mem_reverse.mp among)).slashless
    · exact List.reverse_eq_nil_iff.not.mpr nonempty
  cases absolute with
  | true =>
    have first := List.splitOn_append_cons_self (a := '/') [] (['/'].intercalate names.reverse)
    rw [List.nil_append, separated] at first
    exact first
  | false => exact separated

end Path

/-! ### Walks along paths -/

namespace Tree

variable {tree : Tree} {here : Location}

/-- Names that stay where they are can be left out. -/
theorem walk_filter {moves : Text → Bool}
    (stays : ∀ name, moves name = false → name = [] ∨ name = ['.']) (names : List Text) :
    tree.walk here (names.filter moves) = tree.walk here names := by
  induction names generalizing here with
  | nil => rfl
  | cons name names ih =>
    cases kept : moves name with
    | false => rw [List.filter_cons_of_neg (by simp [kept]), walk_stay (stays name kept), ih]
    | true =>
      rw [List.filter_cons_of_pos kept, walk, walk, ih, ih, ih]

theorem walk_names (path : Path) : tree.walk here path.names = tree.walk here (path.splitOn '/') := by
  have steps : tree.walk here path.steps = tree.walk here (path.splitOn '/') :=
    walk_filter (fun name empty => .inl (by simpa using empty)) _
  have ended : path.names = path.steps ++ if path.getLast? == some '/' then [[]] else [] := rfl
  rw [ended, walk_append, steps]
  cases tree.walk here (path.splitOn '/') with
  | none => rfl
  | some location =>
    rw [Option.bind_some]
    split
    · exact walk_stay (.inl rfl)
    · rfl

theorem walk_ancestry (path : Path) :
    tree.walk here path.ancestry.reverse = tree.walk here (path.splitOn '/') := by
  rw [Path.ancestry, List.reverse_reverse]
  refine walk_filter (fun name stays => ?_) _
  by_cases empty : name = []
  · exact .inl empty
  · exact .inr (by simpa [empty] using stays)

/-- A path that is put together from names leads where they lead. -/
theorem walk_names_ofAncestry {names : List Text} {absolute : Bool}
    (components : ∀ name ∈ names, Path.IsComponent name) (nonempty : names ≠ []) :
    tree.walk here (Path.ofAncestry absolute names).names = tree.walk here names.reverse := by
  rw [walk_names, Path.splitOn_ofAncestry components nonempty]
  cases absolute with
  | true => exact walk_stay (.inl rfl)
  | false => rfl

end Tree

/-! ### What is added -/

namespace Workspace

variable {space other : Workspace} {path : Path} {location : Location}

/-- A directory that a path passes through: the first names of the path lead to it. -/
def OnWay (space : Workspace) (path : Path) (location : Location) : Prop :=
  ∃ above, above <:+ path.ancestry ∧
    space.tree.walk (space.start path) above.reverse = some location

/-- The directory that is made is the one to which the path leads then. -/
theorem made_of_makeDirectory (plain : space.Plain) (made : space.makeDirectory path = .ok other)
    (there : other.tree.item? location = some .directory) :
    space.tree.item? location = some .directory ∨ other.reach? path = some location := by
  obtain ⟨place, led, free, rfl⟩ := makeDirectory_eq_ok_iff.mp made
  obtain ⟨admissible, followed⟩ := locate_eq_ok_iff.mp led
  obtain ⟨name, above, rfl, inside, leads⟩ :=
    Tree.exists_of_follow_replace plain.linkless (plain.item?_start path) followed free
  have placed (other : Location) :
      (space.tree.put (name :: above) .directory).item? other =
        if other = name :: above then some .directory else space.tree.item? other :=
    Tree.item?_put inside (by simp [free]) .directory other
  by_cases same : location = name :: above
  · refine .inr ?_
    rw [reach?_eq_walk_names, same]
    exact leads _ (Tree.grows_put_directory free).directoriesIn (by rw [put, placed, if_pos rfl])
  · refine .inl ?_
    rwa [put, placed, if_neg same] at there

/-- Of what is there once a directory is ensured, all but that directory was there before, or after
what leads to it was made. -/
theorem made_of_ensureDirectory {above : Workspace → Workspace × Except FileFault Unit}
    (each : ∀ space : Workspace, space.Grows (above space).1) (plain : space.Plain)
    (there : (space.ensureDirectory path above).1.tree.item? location = some .directory) :
    ∃ prepared ∈ [space, (above space).1], prepared.Grows (space.ensureDirectory path above).1 ∧
      (prepared.tree.item? location = some .directory ∨
        (space.ensureDirectory path above).1.reach? path = some location) := by
  obtain ⟨prepared, which, result⟩ := ensureDirectory_cases space path above
  refine ⟨prepared, which, ?_⟩
  have plainPrepared : prepared.Plain := by
    rcases List.mem_pair.mp which with rfl | rfl
    · exact plain
    · exact plain.grows (each space)
  rcases result with ⟨made, done, ended⟩ | ⟨-, ended⟩ | ⟨fault, ended⟩
  · rw [ended] at there ⊢
    exact ⟨grows_makeDirectory done, made_of_makeDirectory plainPrepared done there⟩
  · rw [ended] at there ⊢
    exact ⟨.refl _, .inl there⟩
  · rw [ended] at there ⊢
    exact ⟨.refl _, .inl there⟩

/-- The directories that are made of an ancestry are on its way. -/
theorem made_of_makeAncestry {absolute : Bool} {names : List Text}
    (components : ∀ name ∈ names, Path.IsComponent name) (plain : space.Plain)
    (there : (makeAncestry absolute names space).1.tree.item? location = some .directory) :
    space.tree.item? location = some .directory ∨ ∃ above, above <:+ names ∧
      (makeAncestry absolute names space).1.tree.walk (if absolute then [] else space.here)
        above.reverse = some location := by
  induction names generalizing location with
  | nil => exact .inl there
  | cons name names ih =>
    have later : ∀ name ∈ names, Path.IsComponent name :=
      fun other among => components other (List.mem_cons_of_mem _ among)
    -- A directory is added by making the last one, or by making those that lead to it.
    obtain ⟨prepared, which, grows, held | led⟩ :=
      made_of_ensureDirectory (grows_makeAncestry absolute names) plain there
    · rcases List.mem_pair.mp which with rfl | rfl
      · exact .inl held
      · refine (ih later held).imp_right ?_
        rintro ⟨above, part, led⟩
        exact ⟨above, part.trans (List.suffix_cons ..), Tree.walk_mono grows.tree.directoriesIn led⟩
    · refine .inr ⟨name :: names, List.suffix_rfl, ?_⟩
      have started : start (makeAncestry absolute (name :: names) space).1
          (Path.ofAncestry absolute (name :: names)) = if absolute then [] else space.here := by
        rw [start, Path.isAbsolute_ofAncestry components (List.cons_ne_nil _ _),
          (grows_makeAncestry absolute (name :: names) space).here]
      rw [reach?_eq_walk_names, Tree.walk_names_ofAncestry components (List.cons_ne_nil _ _)] at led
      rw [← started]
      exact led

/-- What is added when directories are made is on the way of the path. -/
theorem onWay_of_makeDirectories {result : Except FileFault Unit} (plain : space.Plain)
    (made : space.makeDirectories path = (other, result))
    (there : other.tree.item? location = some .directory) :
    space.tree.item? location = some .directory ∨ other.OnWay path location := by
  have here := (grows_of_makeDirectories made).here
  rw [makeDirectories] at made
  split at made
  · cases made
    exact .inl there
  · have components : ∀ name ∈ path.ancestry.tail, Path.IsComponent name :=
      fun name among => Path.isComponent_of_mem_ancestry (List.mem_of_mem_tail among)
    have ended : (space.ensureDirectory path (makeAncestry path.isAbsolute path.ancestry.tail)).1 =
        other := by
      rw [made]
    obtain ⟨prepared, which, grows, held | led⟩ := made_of_ensureDirectory
      (grows_makeAncestry path.isAbsolute path.ancestry.tail) plain (by rwa [ended])
    · rw [ended] at grows
      rcases List.mem_pair.mp which with rfl | rfl
      · exact .inl held
      · refine (made_of_makeAncestry components plain held).imp_right ?_
        rintro ⟨above, part, led⟩
        refine ⟨above, part.trans (List.tail_suffix _), ?_⟩
        rw [start, here]
        exact Tree.walk_mono grows.tree.directoriesIn led
    · rw [ended, reach?_eq_walk_names, Tree.walk_names, ← Tree.walk_ancestry] at led
      exact .inr ⟨path.ancestry, List.suffix_rfl, led⟩

end Workspace

end EnumBindings
