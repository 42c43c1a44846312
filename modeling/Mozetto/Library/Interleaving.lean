import Mozetto.Library.Mapping
import Mozetto.Library.TransitionSystem

/-!
# Interleaved calls

A call is a program that issues one statement after the other to a server and
goes on with what it answers; there is no answer when a statement fails.  The
calls of a world share the server and interleave statement by statement.  The
world records what has happened, the latest first.
-/

namespace Mozetto.Library.Interleaving

open Mozetto.Library.Mapping
open Mozetto.Library.TransitionSystem

/-- What a call still has to do. -/
inductive Program (Statement : Type) (Reply : Statement → Type) (Result : Type) where
  | done (result : Result)
  | issue (statement : Statement) (next : Option (Reply statement) → Program Statement Reply Result)

namespace Program

variable {Statement : Type} {Reply : Statement → Type}
variable {Result Other : Type}

/-- Go on with a second program where the first is done. -/
def andThen : Program Statement Reply Result → (Result → Program Statement Reply Other) →
    Program Statement Reply Other
  | done result, following => following result
  | issue statement next, following =>
      issue statement fun reply => (next reply).andThen following

instance : Monad (Program Statement Reply) where
  pure := done
  bind := andThen

/-- Issue one statement. -/
def query (statement : Statement) : Program Statement Reply (Option (Reply statement)) :=
  issue statement done

end Program

/-- A call that has not begun, has a statement to issue, or has returned. -/
inductive CallState (Statement : Type) (Reply : Statement → Type) (Result : Type) where
  | idle
  | running (statement : Statement)
      (next : Option (Reply statement) → Program Statement Reply Result)
  | returned

/-- What has happened to a call. -/
inductive Event (Statement : Type) (Reply : Statement → Type) (Call Result : Type) where
  | started (id : Nat) (call : Call)
  | executed (id : Nat) (statement : Statement) (reply : Option (Reply statement))
  | returned (id : Nat) (result : Result)

/-- The server, the calls by their number, and what has happened. -/
structure World (Shared Statement : Type) (Reply : Statement → Type) (Call Result : Type) where
  shared : Shared
  calls : Nat → CallState Statement Reply Result
  history : List (Event Statement Reply Call Result)

/-- A call begins, or the server executes its next statement. -/
inductive Action (Call Choice : Type) where
  | start (id : Nat) (call : Call)
  | perform (id : Nat) (choice : Choice)

/-- What the calls do, and how the server executes a statement. -/
structure Machine (Shared Statement : Type) (Reply : Statement → Type)
    (Call Result Choice : Type) where
  body : Call → Program Statement Reply Result
  execute : Shared → Choice → (statement : Statement) → Shared × Option (Reply statement)

variable {Shared Statement : Type} {Reply : Statement → Type}
variable {Call Result Choice : Type}

namespace World

variable (world : World Shared Statement Reply Call Result)

/-- A call goes on with a program: it waits for a statement or returns. -/
def resume (id : Nat) : Program Statement Reply Result → World Shared Statement Reply Call Result
  | .done result =>
      { world with
        calls := write world.calls id .returned
        history := .returned id result :: world.history }
  | .issue statement next =>
      { world with
        calls := write world.calls id (.running statement next) }

/-- One more thing has happened, and the server is in this state. -/
def record (event : Event Statement Reply Call Result) (shared : Shared) :
    World Shared Statement Reply Call Result :=
  { world with shared := shared, history := event :: world.history }

/-- The call has this program before it, which is not done. -/
def Runs (id : Nat) (program : Program Statement Reply Result) : Prop :=
  ∃ statement next, world.calls id = .running statement next ∧ program = .issue statement next

/-- A condition on the calls that begin and the statements executed. -/
def Admits (starts : Call → Prop) (performs : Nat → Statement → Choice → Prop) :
    Action Call Choice → Prop
  | .start _ call => starts call
  | .perform id choice =>
      match world.calls id with
      | .running statement _ => performs id statement choice
      | _ => True

end World

namespace Machine

variable (machine : Machine Shared Statement Reply Call Result Choice)

def step (world : World Shared Statement Reply Call Result) : Action Call Choice →
    Except Unit (World Shared Statement Reply Call Result)
  | .start id call =>
      match world.calls id with
      | .idle =>
          .ok ((world.record (.started id call) world.shared).resume id (machine.body call))
      | _ => .error ()
  | .perform id choice =>
      match world.calls id with
      | .running statement next =>
          .ok ((world.record (.executed id statement
                  (machine.execute world.shared choice statement).2)
                (machine.execute world.shared choice statement).1).resume id
              (next (machine.execute world.shared choice statement).2))
      | _ => .error ()

/-- Nothing has happened and no call has begun. -/
structure Begins (shared : Shared → Prop)
    (world : World Shared Statement Reply Call Result) : Prop where
  shared : shared world.shared
  calls : world.calls = fun _ => .idle
  history : world.history = []

/-- All interleavings of calls, from the given states of the server. -/
def system (initially : Shared → Prop) : System (World Shared Statement Reply Call Result)
    (Action Call Choice) Unit where
  initial := Begins initially
  step := machine.step

variable {machine} {world after : World Shared Statement Reply Call Result}

/-- A call begins, or one executes its statement and goes on. -/
theorem step_cases {action : Action Call Choice}
    (accepted : machine.step world action = .ok after) : (∃ id call,
      action = .start id call ∧ world.calls id = .idle ∧ after =
          (world.record (.started id call) world.shared).resume id (machine.body call)) ∨
    ∃ id choice statement next, action = .perform id choice ∧
        world.calls id = .running statement next ∧ after = (world.record (.executed id statement
                (machine.execute world.shared choice statement).2)
              (machine.execute world.shared choice statement).1).resume id
            (next (machine.execute world.shared choice statement).2) := by
  cases action with
  | start id call =>
    rw [step] at accepted
    split at accepted
    case h_1 idle =>
      cases accepted
      exact Or.inl ⟨id, call, rfl, idle, rfl⟩
    case h_2 => cases accepted
  | perform id choice =>
    rw [step] at accepted
    split at accepted
    case h_1 statement next running =>
      cases accepted
      exact Or.inr ⟨id, choice, statement, next, rfl, running, rfl⟩
    case h_2 => cases accepted

end Machine

namespace World

variable {world : World Shared Statement Reply Call Result} {id other : Nat}
variable {program running : Program Statement Reply Result}

@[simp]
theorem shared_resume : (world.resume id program).shared = world.shared := by
  cases program with
  | done => rfl
  | issue => rfl

theorem calls_resume_of_ne (ne : other ≠ id) :
    (world.resume id program).calls other = world.calls other := by
  cases program with
  | done => exact write_of_ne _ _ ne
  | issue => exact write_of_ne _ _ ne

theorem runs_resume_of_ne (ne : other ≠ id) : (world.resume id program).Runs other running ↔
    world.Runs other running := by
  rw [Runs, Runs, calls_resume_of_ne ne]

/-- A call that goes on has the program that it goes on with before it. -/
theorem eq_of_runs_resume (runs : (world.resume id program).Runs id running) :
    running = program := by
  rcases runs with ⟨statement, next, state, rfl⟩
  cases program with
  | done =>
    have written : write world.calls id .returned id = _ := state
    rw [write_self] at written
    cases written
  | issue =>
    have written : write world.calls id (.running _ _) id = _ := state
    rw [write_self] at written
    cases written
    rfl

theorem runs_resume_issue {statement : Statement}
    {next : Option (Reply statement) → Program Statement Reply Result} :
    (world.resume id (.issue statement next)).Runs id (.issue statement next) :=
  ⟨statement, next, write_self _ _ _, rfl⟩

end World

/-- What has happened stays in the history. -/
theorem World.mem_history_resume {world : World Shared Statement Reply Call Result} {id : Nat}
    {program : Program Statement Reply Result} {event : Event Statement Reply Call Result}
    (member : event ∈ world.history) : event ∈ (world.resume id program).history := by
  cases program with
  | done => exact List.mem_cons_of_mem _ member
  | issue => exact member

/-- A call that is not idle has been started. -/
theorem Machine.exists_started {machine : Machine Shared Statement Reply Call Result Choice}
    {initially : Shared → Prop}
    {allowed : World Shared Statement Reply Call Result → Action Call Choice → Prop}
    {world : World Shared Statement Reply Call Result} {id : Nat}
    (reached : (machine.system initially).Reachable allowed world)
    (busy : world.calls id ≠ .idle) :
    ∃ call, .started id call ∈ world.history := by
  induction reached with
  | start begins =>
    rw [begins.calls] at busy
    exact absurd rfl busy
  | @next before later action reached admitted accepted induction =>
    rcases Machine.step_cases accepted with ⟨acting, call, rfl, idle, rfl⟩ |
      ⟨acting, choice, statement, following, rfl, running, rfl⟩
    · by_cases same : id = acting
      case pos =>
        rw [same]
        exact ⟨call, World.mem_history_resume List.mem_cons_self⟩
      case neg =>
        rw [World.calls_resume_of_ne same] at busy
        rcases induction busy with ⟨started, member⟩
        exact ⟨started, World.mem_history_resume (List.mem_cons_of_mem _ member)⟩
    · have busy_before : before.calls id ≠ .idle := by
        by_cases same : id = acting
        case pos =>
          rw [same, running]
          exact fun impossible => nomatch impossible
        case neg =>
          rw [World.calls_resume_of_ne same] at busy
          exact busy
      rcases induction busy_before with ⟨started, member⟩
      exact ⟨started, World.mem_history_resume (List.mem_cons_of_mem _ member)⟩

/-- The condition on a statement that is executed. -/
theorem World.admits_perform {world : World Shared Statement Reply Call Result}
    {starts : Call → Prop} {performs : Nat → Statement → Choice → Prop}
    {id : Nat} {choice : Choice} {statement : Statement}
    {next : Option (Reply statement) → Program Statement Reply Result}
    (running : world.calls id = .running statement next) :
    world.Admits starts performs (.perform id choice) ↔
      performs id statement choice := by
  rw [Admits, running]

theorem World.admits_idle {world : World Shared Statement Reply Call Result}
    {starts : Call → Prop} {performs : Nat → Statement → Choice → Prop} {id : Nat} {choice : Choice}
    (idle : ∀ statement next, world.calls id ≠ .running statement next) :
    world.Admits starts performs (.perform id choice) := by
  cases state : world.calls id with
  | idle =>
    rw [Admits, state]
    trivial
  | running statement next => exact absurd state (idle statement next)
  | returned =>
    rw [Admits, state]
    trivial

instance (world : World Shared Statement Reply Call Result)
    (starts : Call → Prop) (performs : Nat → Statement → Choice → Prop)
    [∀ call, Decidable (starts call)]
    [∀ id statement choice, Decidable (performs id statement choice)]
    (action : Action Call Choice) : Decidable (world.Admits starts performs action) :=
  match action with
  | .start _ call => inferInstanceAs (Decidable (starts call))
  | .perform id choice =>
      match state : world.calls id with
      | .running statement _ =>
          decidable_of_iff (performs id statement choice) (World.admits_perform state).symm
      | .idle =>
          .isTrue (World.admits_idle fun _ _ other =>
              nomatch state.symm.trans other)
      | .returned =>
          .isTrue (World.admits_idle fun _ _ other =>
              nomatch state.symm.trans other)

end Mozetto.Library.Interleaving
