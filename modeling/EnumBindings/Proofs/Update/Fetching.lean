import EnumBindings.Proofs.Files.Reaching
import EnumBindings.Proofs.Session.Actions
import EnumBindings.Proofs.Target.Assembly
import EnumBindings.Update

/-!
# Updates that stop before they write

An update gives some orders to the version control program, one after the other, and then looks at
the checkout. An order that cannot be started, or whose call does not end with status 0, is the
last one. As long as an order or a look fails, nothing else has been done: the update fails and
leaves what the calls have left.

## Main definitions

* `Host.play` — the session that some calls leave
* `Order`, `Options.orders` — what the version control program is asked to do
* `Order.Starts`, `Order.Unstarted` — an order that leads to a call, and one that leads to none
* `Host.Succeed`, `Host.Follow` — calls that all succeed, and the calls that follow some orders
* `deliver` — the output stage of an update

## Main results

* `Order.unstarted_iff` — an order leads to no call exactly if there is no call that it starts
* `Host.Follow.unique` — some orders are followed by one list of calls only
* `Order.give_cases` — what becomes of one order
* `exists_calls_of_orders` — what becomes of all of them
* `exists_calls_of_update` — what an update starts, and when it fails before its output stage
* `Unswitched.update_fails` — an update that clones and then cannot switch to the branch
-/

namespace EnumBindings

/-! ### Calls -/

namespace Host

variable {host : Host} {session : Session} {call : Call} {calls : List Call}

/-- The session that a call leaves. -/
def step (host : Host) (session : Session) (call : Call) : Session :=
  { session with
    tree := (host session.calls call session.tree).2
    calls := session.calls ++ [call] }

/-- The session that some calls leave. -/
def play (host : Host) (session : Session) (calls : List Call) : Session :=
  calls.foldl host.step session

/-- How a call ends. -/
def outcome (host : Host) (session : Session) (call : Call) : Outcome :=
  (host session.calls call session.tree).1

/-- Each of some calls ends with status 0. -/
def Succeed (host : Host) (session : Session) (calls : List Call) : Prop :=
  ∀ before call after, calls = before ++ call :: after →
    host.outcome (host.play session before) call = .exited 0

@[simp] theorem play_nil : host.play session [] = session := rfl

@[simp] theorem play_cons :
    host.play session (call :: calls) = host.play (host.step session call) calls := rfl

/-- The calls that are played are recorded. -/
theorem calls_play : (host.play session calls).calls = session.calls ++ calls := by
  induction calls generalizing session with
  | nil => simp
  | cons call calls ih => simp [ih, step]

theorem succeed_nil : host.Succeed session [] := by
  simp [Succeed]

theorem succeed_cons : host.Succeed session (call :: calls) ↔
    host.outcome session call = .exited 0 ∧ host.Succeed (host.step session call) calls := by
  constructor
  · intro all
    exact ⟨all [] call calls rfl,
      fun before other after whole => all (call :: before) other after (by simp [whole])⟩
  · rintro ⟨first, rest⟩ before other after whole
    cases before with
    | nil =>
      cases whole
      exact first
    | cons head front =>
      obtain ⟨rfl, behind⟩ := List.cons.inj whole
      exact rest front other after behind

end Host

/-! ### Orders -/

/-- An order to the version control program, with the directory in which it is to be carried out if
that is not the working directory. -/
structure Order where
  arguments : List Text
  directory? : Option Path
  deriving DecidableEq, Repr

namespace Order

/-- The program that orders are given to. -/
def program : Text := "git".toList

/-- The location at which an order is carried out. -/
def place (order : Order) (space : Workspace) : Except FileFault Location :=
  match order.directory? with
  | none => .ok space.here
  | some path => space.directory path

/-- The words that an order is made of: those of its command, and the directory that it names. -/
def words (order : Order) : List Text :=
  program :: order.arguments ++ order.directory?.toList

/-- An order starts a call: its words have no NUL, it is carried out in a directory that is there,
and the program can be started. -/
structure Starts (order : Order) (host : Host) (session : Session) (call : Call) : Prop where
  program : call.program = Order.program
  arguments : call.arguments = order.arguments
  directory : order.place session.toWorkspace = .ok call.directory
  noNul : ∀ word ∈ order.words, '\x00' ∉ word
  started : ∀ fault, host.outcome session call ≠ .notStarted fault

/-- An order starts no call. -/
inductive Unstarted (order : Order) (host : Host) (session : Session) : Prop
  /-- There is a NUL in one of its words. -/
  | nul {word : Text} (among : word ∈ order.words) (nul : '\x00' ∈ word)
  /-- The directory in which it is to be carried out is not there. -/
  | noDirectory {fault : FileFault} (missing : order.place session.toWorkspace = .error fault)
  /-- The program cannot be started there. -/
  | refused {directory : Location} {fault : FileFault}
    (located : order.place session.toWorkspace = .ok directory)
    (refusal : host.outcome session ⟨program, order.arguments, directory⟩ = .notStarted fault)

/-- Gives an order. -/
def give (host : Host) (order : Order) : Action Unit :=
  runCommand host program order.arguments order.directory?

end Order

/-- The orders of an update: the checkout is cloned if it is not there, switched to the branch and
brought up to date, unless it is used as it is. -/
def Options.orders (options : Options) (space : Workspace) : List Order :=
  if options.skipFetch then []
  else
    (if space.isDirectory options.checkout then []
      else [⟨["clone".toList, options.remote, options.checkout], none⟩]) ++
    [⟨["switch".toList, options.branch], some options.checkout⟩,
      ⟨["pull".toList, "--rebase".toList], some options.checkout⟩]

/-- Some calls follow some orders: each of them is started by the order in its place, and only
after all earlier ones have ended with status 0. As long as they do, the next order has its call
too, unless it starts none. -/
structure Host.Follow (host : Host) (session : Session) (orders : List Order)
    (calls : List Call) : Prop where
  inTurn : ∀ before call after, calls = before ++ call :: after →
    host.Succeed session before ∧
      ∃ order, orders[before.length]? = some order ∧
        order.Starts host (host.play session before) call
  goesOn : host.Succeed session calls → ∀ order, orders[calls.length]? = some order →
    order.Unstarted host (host.play session calls)

variable {host : Host} {session : Session} {order : Order} {orders : List Order} {call : Call}
  {calls : List Call}

/-! ### What becomes of an order -/

/-- An order starts one call only. -/
theorem Order.Starts.unique {other : Call} (one : order.Starts host session call)
    (two : order.Starts host session other) : call = other := by
  obtain ⟨program, arguments, directory⟩ := call
  obtain ⟨program', arguments', directory'⟩ := other
  obtain ⟨rfl, rfl, here, -, -⟩ := one
  obtain ⟨rfl, rfl, here', -, -⟩ := two
  cases here.symm.trans here'
  rfl

/-- An order starts no call exactly if there is none that it starts. -/
theorem Order.unstarted_iff :
    order.Unstarted host session ↔ ∀ call, ¬ order.Starts host session call := by
  constructor
  · rintro (⟨among, nul⟩ | missing | ⟨located, refusal⟩) call starts
    · exact starts.noNul _ among nul
    · cases missing.symm.trans starts.directory
    · obtain ⟨program, arguments, directory⟩ := call
      obtain ⟨rfl, rfl, here, -, started⟩ := starts
      cases located.symm.trans here
      exact started _ refusal
  · intro none
    by_cases nul : ∃ word ∈ order.words, '\x00' ∈ word
    · obtain ⟨word, among, nul⟩ := nul
      exact .nul among nul
    cases place : order.place session.toWorkspace with
    | error fault => exact .noDirectory place
    | ok directory =>
      by_contra started
      refine none ⟨Order.program, order.arguments, directory⟩ ⟨rfl, rfl, place, ?_, ?_⟩
      · exact fun word among inside => nul ⟨word, among, inside⟩
      · exact fun fault refusal => started (.refused place refusal)

/-- An order that starts no call fails and leaves everything as it is. The call of one that does
leaves its session, in which the order fails unless the call has ended with status 0. -/
theorem Order.give_cases (host : Host) (order : Order) (session : Session) :
    (order.Unstarted host session ∧
      ∃ failure, (order.give host).run session = .error failure session) ∨
    ∃ call, order.Starts host session call ∧
      ((host.outcome session call = .exited 0 ∧
          (order.give host).run session = .ok () (host.step session call)) ∨
        (host.outcome session call ≠ .exited 0 ∧
          ∃ failure, (order.give host).run session = .error failure (host.step session call))) := by
  rw [give, runCommand]
  simp only [EStateM.run_bind, EStateM.run_get]
  -- With a NUL in the command, or in a directory that is not there, no program is started.
  split
  next nul =>
    obtain ⟨word, among, nul⟩ := List.any_eq_true.mp nul
    exact .inl ⟨.nul among (List.contains_iff_mem.mp nul), _, rfl⟩
  next noNul =>
    split
    next missing => exact .inl ⟨.noDirectory missing, _, rfl⟩
    next directory located =>
      let call : Call := ⟨program, order.arguments, directory⟩
      rcases answer : host session.calls call session.tree with ⟨outcome, tree⟩
      have left : host.step session call =
          { session with tree, calls := session.calls ++ [call] } := by
        rw [Host.step, answer]
      have ended : host.outcome session call = outcome := by rw [Host.outcome, answer]
      have starts (started : ∀ fault, outcome ≠ .notStarted fault) :
          order.Starts host session call := by
        refine ⟨rfl, rfl, located, fun word among inside => noNul ?_, ended ▸ started⟩
        exact List.any_eq_true.mpr ⟨word, among, List.contains_iff_mem.mpr inside⟩
      -- A program that cannot be started leaves no call.
      cases outcome with
      | notStarted fault => exact .inl ⟨.refused located ended, _, rfl⟩
      | exited status =>
        refine .inr ⟨call, starts (by simp), ?_⟩
        rw [left, ended]
        cases status with
        | zero => exact .inl ⟨rfl, rfl⟩
        | succ status => exact .inr ⟨by simp, _, rfl⟩
      | signalled signal =>
        refine .inr ⟨call, starts (by simp), .inr ⟨by simp [ended], ?_⟩⟩
        rw [left]
        exact ⟨_, rfl⟩

/-! ### What becomes of all orders -/

/-- No call follows some orders exactly if the first of them, if there is one, starts none. -/
theorem Host.follow_nil_iff :
    host.Follow session orders [] ↔
      ∀ order, orders.head? = some order → order.Unstarted host session := by
  rw [List.head?_eq_getElem?]
  exact ⟨fun follow => follow.goesOn Host.succeed_nil, fun none => ⟨by simp, fun _ => none⟩⟩

/-- A call follows some orders exactly if the first of them starts it; further calls follow the
other orders, and only if it has ended with status 0. -/
theorem Host.follow_cons_iff :
    host.Follow session (order :: orders) (call :: calls) ↔
      order.Starts host session call ∧
        (host.outcome session call = .exited 0 ∧ host.Follow (host.step session call) orders calls ∨
          host.outcome session call ≠ .exited 0 ∧ calls = []) := by
  constructor
  · intro ⟨inTurn, goesOn⟩
    obtain ⟨-, _, ⟨⟩, starts⟩ := inTurn [] call calls rfl
    refine ⟨starts, ?_⟩
    by_cases success : host.outcome session call = .exited 0
    · refine .inl ⟨success, ?_, ?_⟩
      · intro before other after whole
        obtain ⟨succeed, found⟩ := inTurn (call :: before) other after (by rw [whole]; rfl)
        exact ⟨(Host.succeed_cons.mp succeed).2, found⟩
      · exact fun succeed => goesOn (Host.succeed_cons.mpr ⟨success, succeed⟩)
    · refine .inr ⟨success, ?_⟩
      cases calls with
      | nil => rfl
      | cons other calls =>
        obtain ⟨succeed, -⟩ := inTurn [call] other calls rfl
        exact absurd (Host.succeed_cons.mp succeed).1 success
  · rintro ⟨starts, rest⟩
    refine ⟨?_, ?_⟩
    · intro before other after whole
      cases before with
      | nil =>
        cases whole
        exact ⟨Host.succeed_nil, order, rfl, starts⟩
      | cons head front =>
        obtain ⟨rfl, behind⟩ := List.cons.inj whole
        obtain ⟨success, follow⟩ | ⟨-, rfl⟩ := rest
        · obtain ⟨succeed, found⟩ := follow.inTurn front other after behind
          exact ⟨Host.succeed_cons.mpr ⟨success, succeed⟩, found⟩
        · simp at behind
    · intro succeed
      obtain ⟨success, succeed⟩ := Host.succeed_cons.mp succeed
      obtain ⟨-, follow⟩ | ⟨noSuccess, -⟩ := rest
      · exact follow.goesOn succeed
      · exact absurd success noSuccess

/-- Some orders are followed by one list of calls only. -/
theorem Host.Follow.unique {others : List Call} (one : host.Follow session orders calls)
    (two : host.Follow session orders others) : calls = others := by
  induction orders generalizing session calls others with
  | nil =>
    -- A call would need an order in its place.
    have none {calls : List Call} (follow : host.Follow session [] calls) : calls = [] := by
      cases calls with
      | nil => rfl
      | cons call calls =>
        obtain ⟨-, _, ⟨⟩, -⟩ := follow.inTurn [] call calls rfl
    rw [none one, none two]
  | cons order orders ih =>
    cases calls with
    | nil =>
      have unstarted := Order.unstarted_iff.mp (follow_nil_iff.mp one order rfl)
      cases others with
      | nil => rfl
      | cons other others => exact absurd (follow_cons_iff.mp two).1 (unstarted other)
    | cons call calls =>
      obtain ⟨starts, rest⟩ := follow_cons_iff.mp one
      cases others with
      | nil =>
        have unstarted := Order.unstarted_iff.mp (follow_nil_iff.mp two order rfl)
        exact absurd starts (unstarted call)
      | cons other others =>
        obtain ⟨starts', rest'⟩ := follow_cons_iff.mp two
        obtain rfl := starts.unique starts'
        congr 1
        rcases rest with ⟨success, follow⟩ | ⟨noSuccess, rfl⟩ <;>
          rcases rest' with ⟨success', follow'⟩ | ⟨noSuccess', rfl⟩
        · exact ih follow follow'
        · exact absurd success noSuccess'
        · exact absurd success' noSuccess
        · rfl

/-- Giving some orders leads to the calls that follow them. It fails unless there is a call for each
of the orders and all of them succeed. -/
theorem exists_calls_of_orders (host : Host) (orders : List Order) (session : Session) :
    ∃ calls, host.Follow session orders calls ∧
      ((calls.length = orders.length ∧ host.Succeed session calls ∧
          (orders.forM (Order.give host)).run session = .ok () (host.play session calls)) ∨
        ((calls.length < orders.length ∨ ¬ host.Succeed session calls) ∧
          ∃ failure, (orders.forM (Order.give host)).run session =
            .error failure (host.play session calls))) := by
  induction orders generalizing session with
  | nil => exact ⟨[], Host.follow_nil_iff.mpr (by simp), .inl ⟨rfl, Host.succeed_nil, rfl⟩⟩
  | cons order orders ih =>
    rw [Action.forM_cons, EStateM.run_bind]
    -- The first order that fails ends the calls, and its own call, if any, is the last of them.
    rcases order.give_cases host session with
      ⟨unstarted, failure, failed⟩ | ⟨call, starts, ⟨success, done⟩ | ⟨noSuccess, failure, failed⟩⟩
    · rw [failed]
      refine ⟨[], Host.follow_nil_iff.mpr ?_, .inr ⟨.inl (by simp), failure, rfl⟩⟩
      rintro _ ⟨⟩
      exact unstarted
    · rw [done]
      obtain ⟨calls, follow, result⟩ := ih (host.step session call)
      refine ⟨call :: calls, Host.follow_cons_iff.mpr ⟨starts, .inl ⟨success, follow⟩⟩, ?_⟩
      simpa [Host.succeed_cons, success] using result
    · rw [failed]
      refine ⟨[call], Host.follow_cons_iff.mpr ⟨starts, .inr ⟨noSuccess, rfl⟩⟩,
        .inr ⟨.inr ?_, failure, rfl⟩⟩
      exact fun all => noSuccess (Host.succeed_cons.mp all).1

/-! ### Updates -/

/-- A checkout that is not used as it is gets brought up to date by the orders. -/
theorem ensureCheckout_run {options : Options} (fetch : options.skipFetch = false) :
    (ensureCheckout host options.remote options.checkout options.branch).run session =
      ((options.orders session.toWorkspace).forM (Order.give host)).run session := by
  have last (arguments : List Text) (directory? : Option Path) :
      [(⟨arguments, directory?⟩ : Order)].forM (Order.give host) =
        runCommand host Order.program arguments directory? := bind_pure_unit
  rw [ensureCheckout, EStateM.run_bind, Options.orders, fetch]
  simp only [EStateM.run_get, Bool.false_eq_true, if_false]
  split <;> simp only [List.nil_append, List.cons_append, Action.forM_cons, last] <;> rfl

/-- What an update does behind its orders. -/
def produce (options : Options) : Action Unit := do
  let requestType ← generate options .requestType
  let status ← generate options .status
  Action.makeDirectories options.classes
  save options .requestType requestType
  save options .status status
  let _ ← clearCopies options.copies options.keep
  let _ ← copyProtos options.protos options.copies

/-- An update gives its orders and then does the rest. -/
theorem update_run (host : Host) (options : Options) (session : Session) :
    (update host options).run session =
      ((options.orders session.toWorkspace).forM (Order.give host) >>= fun _ =>
        produce options).run session := by
  rw [update, EStateM.run_bind]
  cases fetch : options.skipFetch with
  | true =>
    rw [Options.orders, fetch]
    rfl
  | false =>
    rw [← ensureCheckout_run fetch]
    rfl

/-- An update of a checkout that is used as it is gives no orders. -/
theorem update_run_of_skipFetch {options : Options} (asItIs : options.skipFetch = true) :
    (update host options).run session = (produce options).run session := by
  rw [update_run, Options.orders, if_pos asItIs]
  rfl

theorem quiet_clearCopies (directory : Path) (keep : List Text) :
    (clearCopies directory keep).Quiet := by
  refine .bind .get fun session => ?_
  split
  · exact .bind (.look _) fun _ => .bind (.forM fun _ _ => .change _ _) fun _ => .pure _
  · exact .pure _

theorem quiet_copyProtos (source target : Path) : (copyProtos source target).Quiet :=
  .bind (.makeDirectories _) fun _ => .bind (.look _) fun _ =>
    .bind (.forM fun _ _ => .bind (.look _) fun _ => .change _ _) fun _ => .pure _

theorem quiet_save (options : Options) (target : Target) (draft : Draft) :
    (save options target draft).Quiet := by
  rw [save]
  exact .change _ _

/-- Behind its orders, an update starts no program. -/
theorem quiet_produce (options : Options) : (produce options).Quiet :=
  .bind (.look _) fun _ => .bind (.look _) fun _ => .bind (.makeDirectories _) fun _ =>
    .bind (quiet_save _ _ _) fun _ => .bind (quiet_save _ _ _) fun _ =>
      .bind (quiet_clearCopies _ _) fun _ => .bind (quiet_copyProtos _ _) fun _ => .pure _

/-- An enum that cannot be generated stops an update before it has done anything. -/
theorem produce_run_of_error {options : Options} {target : Target}
    (among : target ∈ Target.all) {failure : Failure}
    (failed : target.generate session.toWorkspace options.protos options.fragments? =
      .error failure) :
    ∃ failure, (produce options).run session = .error failure session := by
  rw [produce, EStateM.run_bind, generate, Action.look_run]
  cases first : Target.requestType.generate session.toWorkspace options.protos
      options.fragments? with
  | error failure => exact ⟨failure, rfl⟩
  | ok draft =>
    rcases Target.mem_all.mp among with rfl | rfl
    · rw [first] at failed
      cases failed
    · dsimp only
      rw [EStateM.run_bind, generate, Action.look_run, failed]
      exact ⟨failure, rfl⟩

/-- The output stage of an update: it writes the generated enums and makes the copies anew. -/
def deliver (options : Options) (requestType status : Draft) : Action Unit := do
  Action.makeDirectories options.classes
  save options .requestType requestType
  save options .status status
  let _ ← clearCopies options.copies options.keep
  let _ ← copyProtos options.protos options.copies

/-- An update that can generate both enums goes on with its output stage. -/
theorem produce_run_of_ok {options : Options} {requestType status : Draft}
    (first : Target.requestType.generate session.toWorkspace options.protos options.fragments? =
      .ok requestType)
    (second : Target.status.generate session.toWorkspace options.protos options.fragments? =
      .ok status) :
    (produce options).run session = (deliver options requestType status).run session := by
  rw [produce, EStateM.run_bind, generate, Action.look_run, first]
  dsimp only
  rw [EStateM.run_bind, generate, Action.look_run, second]
  rfl

/-- An update starts the calls that follow its orders, and no others. If the next order starts no
call, or one of the calls does not succeed, or one of the enums cannot be generated from what they
have left, then the update fails and leaves what they have left. Otherwise it goes on with its
output stage. -/
theorem exists_calls_of_update (host : Host) (options : Options) (session : Session) :
    ∃ calls, host.Follow session (options.orders session.toWorkspace) calls ∧
      ((update host options).left session).calls = session.calls ++ calls ∧
      ((∃ order, (options.orders session.toWorkspace)[calls.length]? = some order ∧
            order.Unstarted host (host.play session calls)) ∨
          ¬ host.Succeed session calls ∨
          (∃ target ∈ Target.all, ∃ failure,
            target.generate (host.play session calls).toWorkspace options.protos
              options.fragments? = .error failure) →
        ∃ failure,
          (update host options).run session = .error failure (host.play session calls)) ∧
      (calls.length = (options.orders session.toWorkspace).length → host.Succeed session calls →
        ∀ requestType status,
          Target.requestType.generate (host.play session calls).toWorkspace options.protos
            options.fragments? = .ok requestType →
          Target.status.generate (host.play session calls).toWorkspace options.protos
            options.fragments? = .ok status →
          (update host options).run session =
            (deliver options requestType status).run (host.play session calls)) := by
  obtain ⟨calls, follow, ⟨complete, succeed, done⟩ | ⟨incomplete, failure, failed⟩⟩ :=
    exists_calls_of_orders host (options.orders session.toWorkspace) session
  · have run : (update host options).run session =
        (produce options).run (host.play session calls) := by
      rw [update_run, EStateM.run_bind, done]
    refine ⟨calls, follow, ?_, ?_, ?_⟩
    · -- Behind the checkout, an update starts no program.
      rw [Action.left, run, ← Host.calls_play]
      exact quiet_produce options _
    · rintro (⟨order, next, -⟩ | failed | ⟨target, among, failure, failed⟩)
      · simp [complete] at next
      · exact absurd succeed failed
      · rw [run]
        exact produce_run_of_error among failed
    · intro _ _ requestType status first second
      rw [run, produce_run_of_ok first second]
  · have run : (update host options).run session = .error failure (host.play session calls) := by
      rw [update_run, EStateM.run_bind, failed]
    refine ⟨calls, follow, ?_, fun _ => ⟨failure, run⟩, fun complete succeed => ?_⟩
    · rw [Action.left_of_error run]
      exact Host.calls_play
    · exact absurd succeed (incomplete.resolve_left (Nat.not_lt.mpr (Nat.le_of_eq complete.symm)))

/-! ### A checkout that cannot be switched -/

namespace Unswitched

/-- Options for an update that fetches. -/
def options : Options where
  branch := "main".toList
  checkout := "repo".toList
  remote := "remote".toList
  sdk := "sdk".toList
  fragments? := none
  skipFetch := false
  keep := []

/-- The location of the checkout. -/
def checkout : Location := ["repo".toList]

/-- A host on which a clone makes the checkout, and all else ends with status 1. -/
def cloning : Host := fun _ call tree =>
  if call.arguments.head? = some "clone".toList then (.exited 0, tree.put checkout .directory)
  else (.exited 1, tree)

/-- A session in which there are no files yet. -/
def fresh : Session := ⟨⟨.empty, []⟩, []⟩

/-- The call that clones. -/
def clone : Call := ⟨Order.program, ["clone".toList, "remote".toList, "repo".toList], []⟩

/-- The call that switches to the branch. -/
def switch : Call := ⟨Order.program, ["switch".toList, "main".toList], checkout⟩

theorem orders_eq : options.orders fresh.toWorkspace =
    [⟨["clone".toList, "remote".toList, "repo".toList], none⟩,
      ⟨["switch".toList, "main".toList], some "repo".toList⟩,
      ⟨["pull".toList, "--rebase".toList], some "repo".toList⟩] := by
  have plain : fresh.Plain := by decide +kernel
  have missing : fresh.isDirectory "repo".toList = false := by
    rw [← Bool.not_eq_true, Workspace.isDirectory_eq_true_iff]
    rintro ⟨location, found⟩
    have led := ((Workspace.directory_eq_ok_iff plain).mp found).2
    have nowhere : fresh.reach? "repo".toList = none := by decide +kernel
    cases nowhere.symm.trans led
  rw [Options.orders]
  simp only [options, Bool.false_eq_true, if_false, missing, List.cons_append, List.nil_append]

/-- The checkout is cloned, and the branch is not switched to. -/
theorem follow : cloning.Follow fresh (options.orders fresh.toWorkspace) [clone, switch] := by
  have plain : (cloning.step fresh clone).Plain := by decide +kernel
  have located : (cloning.step fresh clone).directory "repo".toList = .ok checkout :=
    (Workspace.directory_eq_ok_iff plain).mpr ⟨by decide, by decide +kernel⟩
  rw [orders_eq]
  refine Host.follow_cons_iff.mpr ⟨⟨rfl, rfl, rfl, by decide, ?_⟩, .inl ⟨rfl, ?_⟩⟩
  · rintro fault ⟨⟩
  refine Host.follow_cons_iff.mpr ⟨⟨rfl, rfl, located, by decide, ?_⟩, .inr ⟨?_, rfl⟩⟩
  · rintro fault ⟨⟩
  · rintro ⟨⟩

/-- The update fails with what the clone has left; nothing is pulled. -/
theorem update_fails : ∃ failure after, (update cloning options).run fresh = .error failure after ∧
    after.calls = [clone, switch] ∧ after.tree = Tree.empty.put checkout .directory := by
  obtain ⟨calls, follows, -, fails, -⟩ := exists_calls_of_update cloning options fresh
  obtain rfl : calls = [clone, switch] := follows.unique follow
  have unsuccessful : ¬ cloning.Succeed fresh [clone, switch] := by
    intro all
    have ended : cloning.outcome (cloning.play fresh [clone]) switch = .exited 0 :=
      all [clone] switch [] rfl
    cases ended
  obtain ⟨failure, failed⟩ := fails (.inr (.inl unsuccessful))
  exact ⟨failure, _, failed, rfl, rfl⟩

end Unswitched

end EnumBindings
