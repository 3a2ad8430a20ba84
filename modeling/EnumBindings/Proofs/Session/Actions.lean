import EnumBindings.Session

/-!
# Runs of actions

An action is taken apart into its steps: it succeeds exactly if they do, one after the other, and
each of them works on the session that the one before has left. Only commands start programs; all
other steps leave the calls as they were, also where they fail.

## Main definitions

* `Action.left` — the session that an action leaves
* `Action.Readless` — an action that does not fail for a text that cannot be read
* `Action.Quiet` — an action that starts no program

## Main results

* `Action.bind_eq_ok_iff`, `Action.look_eq_ok_iff`, `Action.change_eq_ok_iff`,
  `Action.makeDirectories_eq_ok_iff` — when a step succeeds, and what it leaves
* `Action.bind_eq_error_iff`, `Action.forM_eq_error_iff` — when a sequence of steps fails, and where
* `Action.Readless.bind_eq_error_iff` — a text can be what is wrong only behind such a step
* `Action.Quiet.bind`, `Action.Quiet.forM` — what is made of quiet steps is quiet
-/

namespace EnumBindings.Action

variable {α β : Type} {action : Action α} {next : α → Action β} {session after : Session}

/-- The session that an action leaves, whether it fails or not. -/
def left (action : Action α) (session : Session) : Session :=
  match action.run session with
  | .ok _ after => after
  | .error _ after => after

theorem left_of_ok {answer : α} (done : action.run session = .ok answer after) :
    action.left session = after := by
  rw [left, done]

theorem left_of_error {failure : Failure} (failed : action.run session = .error failure after) :
    action.left session = after := by
  rw [left, failed]

/-! ### Steps one by one -/

variable {view : Workspace → Except Failure α} {step : Workspace → Except FileFault Workspace}
  {failure : FileFault → Failure} {path : Path}

theorem look_run : (look view).run session =
    match view session.toWorkspace with
    | .ok answer => .ok answer session
    | .error failure => .error failure session := by
  have shape : (look view).run session =
      (match view session.toWorkspace with
        | .ok answer => pure answer
        | .error failure => throw failure : Action α).run session := rfl
  rw [shape]
  cases view session.toWorkspace <;> rfl

theorem change_run : (change step failure).run session =
    match step session.toWorkspace with
    | .ok space => .ok () { session with toWorkspace := space }
    | .error fault => .error (failure fault) session := by
  have shape : (change step failure).run session =
      (match step session.toWorkspace with
        | .ok space => set { session with toWorkspace := space }
        | .error fault => throw (failure fault) : Action Unit).run session := rfl
  rw [shape]
  cases step session.toWorkspace <;> rfl

theorem makeDirectories_run_of_ok {space : Workspace}
    (made : session.toWorkspace.makeDirectories path = (space, .ok ())) :
    (makeDirectories path).run session = .ok () { session with toWorkspace := space } := by
  simp only [makeDirectories, EStateM.run_bind, EStateM.run_get, made]
  rfl

theorem makeDirectories_run_of_error {space : Workspace} {fault : FileFault}
    (failed : session.toWorkspace.makeDirectories path = (space, .error fault)) :
    (makeDirectories path).run session =
      .error (.unmade path fault) { session with toWorkspace := space } := by
  simp only [makeDirectories, EStateM.run_bind, EStateM.run_get, failed]
  rfl

theorem forM_cons {ι : Type} (name : ι) (names : List ι) (body : ι → Action PUnit) :
    (name :: names).forM body = body name >>= fun _ => names.forM body := rfl

/-- An action and then another one succeed exactly if each of them does. -/
theorem bind_eq_ok_iff {answer : β} :
    (action >>= next).run session = .ok answer after ↔
      ∃ found between, action.run session = .ok found between ∧
        (next found).run between = .ok answer after := by
  rw [EStateM.run_bind]
  cases action.run session with
  | ok found between => exact ⟨fun done => ⟨_, _, rfl, done⟩, by rintro ⟨_, _, ⟨⟩, done⟩; exact done⟩
  | error failure between => simp

/-- An action and then another one fail exactly if the first one does, or the second one behind
it. -/
theorem bind_eq_error_iff {failure : Failure} :
    (action >>= next).run session = .error failure after ↔
      action.run session = .error failure after ∨
      ∃ found between, action.run session = .ok found between ∧
        (next found).run between = .error failure after := by
  rw [EStateM.run_bind]
  cases action.run session with
  | ok found between =>
    constructor
    · intro failed
      exact .inr ⟨found, between, rfl, failed⟩
    · rintro (failed | ⟨_, _, ⟨⟩, failed⟩)
      · cases failed
      · exact failed
  | error failure between => simp

/-- A look at the workspace leaves the session as it is. -/
theorem look_eq_ok_iff {answer : α} :
    (look view).run session = .ok answer after ↔
      view session.toWorkspace = .ok answer ∧ after = session := by
  rw [look_run]
  cases view session.toWorkspace <;> simp [eq_comm]

/-- A change that can be made is made. -/
theorem change_eq_ok_iff {answer : Unit} :
    (change step failure).run session = .ok answer after ↔
      ∃ space, step session.toWorkspace = .ok space ∧
        after = { session with toWorkspace := space } := by
  rw [change_run]
  cases step session.toWorkspace <;> simp [eq_comm]

/-- Directories that can be made are made. -/
theorem makeDirectories_eq_ok_iff {answer : Unit} :
    (makeDirectories path).run session = .ok answer after ↔
      ∃ space, session.toWorkspace.makeDirectories path = (space, .ok ()) ∧
        after = { session with toWorkspace := space } := by
  rcases made : session.toWorkspace.makeDirectories path with ⟨space, fault | _⟩
  · simp [makeDirectories_run_of_error made]
  · simp [makeDirectories_run_of_ok made, eq_comm]

/-- A look that fails leaves the session as it is. -/
theorem look_eq_error_iff {failure : Failure} :
    (look view).run session = .error failure after ↔
      view session.toWorkspace = .error failure ∧ after = session := by
  rw [look_run]
  cases view session.toWorkspace <;> simp [eq_comm]

/-- A change that cannot be made leaves the session as it is. -/
theorem change_eq_error_iff {failed : Failure} :
    (change step failure).run session = .error failed after ↔
      ∃ fault, step session.toWorkspace = .error fault ∧ failed = failure fault ∧
        after = session := by
  rw [change_run]
  cases step session.toWorkspace <;> simp [eq_comm]

/-- Steps for some names fail exactly if they succeed for the first ones of them and then fail for
the next one. -/
theorem forM_eq_error_iff {ι : Type} {names : List ι} {body : ι → Action PUnit}
    {failure : Failure} : (names.forM body).run session = .error failure after ↔
      ∃ before name behind between, names = before ++ name :: behind ∧
        (before.forM body).run session = .ok () between ∧
        (body name).run between = .error failure after := by
  induction names generalizing session with
  | nil =>
    constructor
    · intro failed
      cases failed
    · rintro ⟨before, name, behind, between, whole, -⟩
      cases before <;> cases whole
  | cons first names ih =>
    rw [forM_cons, bind_eq_error_iff]
    simp only [ih]
    constructor
    · -- Either the first step fails, with none in front of it, or one of the others does.
      rintro (failed | ⟨_, between, done, before, name, behind, last, rfl, run, failed⟩)
      · exact ⟨[], first, names, session, rfl, rfl, failed⟩
      · refine ⟨first :: before, name, behind, last, rfl, ?_, failed⟩
        rw [forM_cons, bind_eq_ok_iff]
        exact ⟨_, between, done, run⟩
    · rintro ⟨before, name, behind, last, whole, run, failed⟩
      cases before with
      | nil =>
        cases whole
        cases run
        exact .inl failed
      | cons other before =>
        cases whole
        obtain ⟨_, between, done, rest⟩ := bind_eq_ok_iff.mp run
        exact .inr ⟨_, between, done, before, name, behind, last, rfl, rest, failed⟩

/-! ### Steps that read no text -/

/-- An action does not fail for a text that cannot be read. -/
def Readless (action : Action α) : Prop :=
  ∀ session path fault after, action.run session ≠ .error (.unreadable path fault) after

namespace Readless

theorem pure (answer : α) : Readless (Pure.pure answer : Action α) := by
  intro session path fault after failed
  cases failed

theorem get : Readless (MonadState.get : Action Session) := by
  intro session path fault after failed
  cases failed

theorem bind (first : Readless action) (second : ∀ found, Readless (next found)) :
    Readless (action >>= next) := by
  intro session path fault after failed
  rcases bind_eq_error_iff.mp failed with failed | ⟨found, between, -, failed⟩
  · exact first _ _ _ _ failed
  · exact second _ _ _ _ _ failed

theorem forM {ι : Type} {names : List ι} {body : ι → Action PUnit}
    (each : ∀ name, Readless (body name)) : Readless (names.forM body) := by
  intro session path fault after failed
  obtain ⟨before, name, behind, between, -, -, failed⟩ := forM_eq_error_iff.mp failed
  exact each _ _ _ _ _ failed

theorem look (other : ∀ space path fault, view space ≠ .error (.unreadable path fault)) :
    Readless (Action.look view) := by
  intro session path fault after failed
  exact other _ _ _ (look_eq_error_iff.mp failed).1

theorem change (other : ∀ fault path cause, failure fault ≠ .unreadable path cause) :
    Readless (Action.change step failure) := by
  intro session path fault after failed
  obtain ⟨cause, -, same, -⟩ := change_eq_error_iff.mp failed
  exact other _ _ _ same.symm

theorem makeDirectories (path : Path) : Readless (Action.makeDirectories path) := by
  intro session other fault after failed
  rcases made : session.toWorkspace.makeDirectories path with ⟨space, cause | _⟩
  · rw [makeDirectories_run_of_error made] at failed
    cases failed
  · rw [makeDirectories_run_of_ok made] at failed
    cases failed

/-- Behind an action that reads no text, only the next one can fail for a text. -/
theorem bind_eq_error_iff (first : Readless action) {path : Path} {fault : FileFault} :
    (action >>= next).run session = .error (.unreadable path fault) after ↔
      ∃ found between, action.run session = .ok found between ∧
        (next found).run between = .error (.unreadable path fault) after := by
  rw [Action.bind_eq_error_iff, or_iff_right (first _ _ _ _)]

end Readless

/-! ### Steps that start no program -/

/-- An action starts no program, whether it fails or not. -/
def Quiet (action : Action α) : Prop :=
  ∀ session, (action.left session).calls = session.calls

namespace Quiet

theorem pure (answer : α) : Quiet (Pure.pure answer : Action α) := fun _ => rfl

theorem get : Quiet (MonadState.get : Action Session) := fun _ => rfl

theorem bind (first : Quiet action) (second : ∀ found, Quiet (next found)) :
    Quiet (action >>= next) := by
  intro session
  have same := first session
  rw [left] at same ⊢
  rw [EStateM.run_bind]
  cases done : action.run session with
  | ok found between =>
    rw [done] at same
    exact (second found between).trans same
  | error failure between =>
    rw [done] at same
    exact same

theorem forM {ι : Type} {names : List ι} {body : ι → Action PUnit}
    (each : ∀ name ∈ names, Quiet (body name)) : Quiet (names.forM body) := by
  induction names with
  | nil => exact pure _
  | cons name names ih =>
    exact bind (each name (by simp)) fun _ => ih fun other there => each other (by simp [there])

theorem look (view : Workspace → Except Failure α) : Quiet (Action.look view) := by
  intro session
  rw [left, look_run]
  cases view session.toWorkspace <;> rfl

theorem change (step : Workspace → Except FileFault Workspace) (failure : FileFault → Failure) :
    Quiet (Action.change step failure) := by
  intro session
  rw [left, change_run]
  cases step session.toWorkspace <;> rfl

theorem makeDirectories (path : Path) : Quiet (Action.makeDirectories path) := by
  intro session
  rcases made : session.toWorkspace.makeDirectories path with ⟨space, fault | _⟩
  · rw [left_of_error (makeDirectories_run_of_error made)]
  · rw [left_of_ok (makeDirectories_run_of_ok made)]

end Quiet

end EnumBindings.Action
