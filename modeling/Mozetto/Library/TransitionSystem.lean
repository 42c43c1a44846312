import Mathlib.Logic.Basic
import Mathlib.Order.WellFounded

/-!
# Transition systems with failing steps

A system has initial states and a step function which may refuse a call.  A
run is a sequence of accepted calls.  `Reachable allowed` restricts the calls
of a run to those that `allowed` admits in the state they are made in; with
the trivial restriction it is plain reachability.
-/

namespace Mozetto.Library.TransitionSystem

universe u v w

/-- A transition system whose calls may be refused. -/
structure System (σ : Type u) (ι : Type v) (ε : Type w) where
  initial : σ → Prop
  step : σ → ι → Except ε σ

variable {σ : Type u} {ι : Type v} {ε : Type w}
variable {system : System σ ι ε}

/-- States reached from an initial one by accepted calls that are allowed. -/
inductive System.Reachable (system : System σ ι ε) (allowed : σ → ι → Prop) : σ → Prop where
  | start {state : σ} (initial : system.initial state) : Reachable system allowed state
  | next {before after : σ} {call : ι} (reached : Reachable system allowed before)
      (admitted : allowed before call) (accepted : system.step before call = .ok after) :
      Reachable system allowed after

/-- Every call is allowed. -/
def AnyCall : σ → ι → Prop := fun _ _ => True

instance (state : σ) (call : ι) : Decidable (AnyCall state call) := inferInstanceAs (Decidable True)

/-- A fact of the initial states kept by every allowed step is invariant. -/
theorem System.Reachable.invariant {allowed : σ → ι → Prop} {Holds : σ → Prop}
    (initially : ∀ state, system.initial state → Holds state)
    (kept : ∀ before call after, Holds before → allowed before call →
        system.step before call = .ok after → Holds after)
    {state : σ}
    (reached : system.Reachable allowed state) :
    Holds state := by
  induction reached with
  | start initial => exact initially _ initial
  | next _ admitted accepted holds =>
    exact kept _ _ _ holds admitted accepted

/-- Restricting the calls further reaches fewer states. -/
theorem System.Reachable.mono {allowed larger : σ → ι → Prop}
    (weaker : ∀ state call, allowed state call → larger state call) {state : σ}
    (reached : system.Reachable allowed state) :
    system.Reachable larger state := by
  induction reached with
  | start initial => exact .start initial
  | next _ admitted accepted reached =>
    exact .next reached (weaker _ _ admitted) accepted

/-- An invariant of all runs may be used while proving another one. -/
theorem System.Reachable.invariant_with {allowed : σ → ι → Prop} {Known Holds : σ → Prop}
    (known : ∀ state, system.Reachable allowed state → Known state)
    (initially : ∀ state, system.initial state → Holds state)
    (kept : ∀ before call after, Known before → Holds before → allowed before call →
        system.step before call = .ok after → Holds after)
    {state : σ}
    (reached : system.Reachable allowed state) :
    Holds state := by
  induction reached with
  | start initial => exact initially _ initial
  | next reached admitted accepted holds =>
    exact kept _ _ _ (known _ reached) holds admitted accepted

/-- The same system, started in a given state. -/
def System.startingAt (system : System σ ι ε) (state : σ) : System σ ι ε :=
  { system with initial := fun other => other = state }

/-- Continuing a run gives a run. -/
theorem System.Reachable.continue {allowed : σ → ι → Prop} {state later : σ}
    (reached : system.Reachable allowed state)
    (continued : (system.startingAt state).Reachable allowed later) :
    system.Reachable allowed later := by
  induction continued with
  | start initial =>
    rw [show _ = state from initial]
    exact reached
  | next _ admitted accepted reached =>
    exact .next reached admitted accepted

/-- Replay a list of calls; `none` when one is not allowed or refused. -/
def System.replay (system : System σ ι ε) (allowed : σ → ι → Prop)
    [∀ state call, Decidable (allowed state call)] : σ → List ι → Option σ
  | state, [] => some state
  | state, call :: rest =>
      if allowed state call then
        match system.step state call with
        | .ok after => system.replay allowed after rest
        | .error _ => none
      else none

/-- What a replay arrives at is reachable. -/
theorem System.Reachable.replay
    {allowed : σ → ι → Prop} [∀ state call, Decidable (allowed state call)]
    {calls : List ι} {state result : σ} (reached : system.Reachable allowed state)
    (replayed : system.replay allowed state calls = some result) :
    system.Reachable allowed result := by
  induction calls generalizing state with
  | nil =>
    simp only [System.replay, Option.some.injEq] at replayed
    subst replayed
    exact reached
  | cons call rest induction =>
    rw [System.replay] at replayed
    split at replayed
    case isTrue admitted =>
      cases step : system.step state call with
      | error err =>
        rw [step] at replayed
        cases replayed
      | ok after =>
        rw [step] at replayed
        exact induction (.next reached admitted step) replayed
    case isFalse => cases replayed

/-- A replay that ends in a state with a decidable property reaches one. -/
theorem System.Reachable.exists_replay
    {allowed : σ → ι → Prop} [∀ state call, Decidable (allowed state call)]
    {calls : List ι} {state : σ} {observe : σ → Bool} (reached : system.Reachable allowed state)
    (observed : (system.replay allowed state calls).any observe = true) :
    ∃ result, system.Reachable allowed result ∧ observe result = true := by
  cases replayed : system.replay allowed state calls with
  | none =>
    rw [replayed] at observed
    cases observed
  | some result =>
    rw [replayed] at observed
    exact ⟨result, reached.replay replayed, observed⟩

end Mozetto.Library.TransitionSystem

/-!
## Runs that end

A run that goes on for ever makes one allowed call after the other.  There is
none when a rank in a well-founded order falls with every allowed call, and
when such a call is possible until some goal is reached, every way to make
them reaches it.
-/

namespace Mozetto.Library.TransitionSystem

universe u v w x

variable {σ : Type u} {ι : Type v} {ε : Type w}
variable {system : System σ ι ε}
variable {allowed : σ → ι → Prop}

/-- Allowed calls without end, from a reachable state on. -/
structure System.Endless (system : System σ ι ε) (allowed : σ → ι → Prop) (states : Nat → σ) :
    Prop where
  begins : system.Reachable allowed (states 0)
  goesOn : ∀ n, ∃ call, allowed (states n) call ∧ system.step (states n) call = .ok (states (n + 1))

/--
Allowed calls are possible and accepted until a goal is reached, whichever of
them are made.
-/
inductive System.Inevitably (system : System σ ι ε) (allowed : σ → ι → Prop) (Goal : σ → Prop) :
    σ → Prop where
  | here {state : σ} (goal : Goal state) : Inevitably system allowed Goal state
  | next {state : σ} (possible : ∃ call, allowed state call)
      (accepted : ∀ call, allowed state call → ∃ after, system.step state call = .ok after)
      (leads : ∀ call after, allowed state call → system.step state call = .ok after →
            Inevitably system allowed Goal after) :
      Inevitably system allowed Goal state

/-- An invariant under which a rank falls with every allowed call. -/
structure System.Descends (system : System σ ι ε) (allowed : σ → ι → Prop)
    {ρ : Type x} [LT ρ] (Holds : σ → Prop) (rank : σ → ρ) : Prop where
  initially : ∀ state, system.initial state → Holds state
  falls : ∀ before call after, Holds before → allowed before call →
      system.step before call = .ok after → Holds after ∧ rank after < rank before

section Rank

variable {ρ : Type x} [LT ρ]
variable {Holds Goal : σ → Prop} {rank : σ → ρ}

theorem System.Descends.invariant (descends : system.Descends allowed Holds rank) {state : σ}
    (reached : system.Reachable allowed state) :
    Holds state := by
  apply reached.invariant descends.initially
  intro before call after holds admitted accepted
  exact (descends.falls before call after holds admitted accepted).1

variable [WellFoundedLT ρ]

/-- From no state on does a run go on for ever. -/
theorem System.Descends.not_endless
    (descends : system.Descends allowed Holds rank) (states : Nat → σ) :
    ¬ system.Endless allowed states := by
  intro endless
  have falls (n : Nat) : Holds (states n) → Holds (states (n + 1)) ∧
      rank (states (n + 1)) < rank (states n) := by
    intro holds
    rcases endless.goesOn n with ⟨call, admitted, accepted⟩
    exact descends.falls _ _ _ holds admitted accepted
  have holds (n : Nat) : Holds (states n) := by
    induction n with
    | zero => exact descends.invariant endless.begins
    | succ n induction => exact (falls n induction).1
  have none (least : ρ) : ∀ n, rank (states n) ≠ least := by
    induction least using WellFoundedLT.induction with
    | ind least induction =>
      intro n same
      have lower := (falls n (holds n)).2
      rw [same] at lower
      exact induction _ lower (n + 1) rfl
  exact none _ 0 rfl

/-- When a call is possible until the goal, the goal is reached. -/
theorem System.Descends.inevitably (descends : system.Descends allowed Holds rank)
    (possible : ∀ state, Holds state → ¬ Goal state → ∃ call, allowed state call)
    (accepted : ∀ state call, Holds state → allowed state call →
      ∃ after, system.step state call = .ok after) {state : σ} (holds : Holds state) :
    system.Inevitably allowed Goal state := by
  have all (least : ρ) : ∀ state, Holds state → rank state = least →
      system.Inevitably allowed Goal state := by
    induction least using WellFoundedLT.induction with
    | ind least induction =>
      intro state holds same
      by_cases goal : Goal state
      · exact .here goal
      · apply System.Inevitably.next
        · exact possible state holds goal
        · intro call admitted
          exact accepted state call holds admitted
        · intro call after admitted ok
          rcases descends.falls _ _ _ holds admitted ok with ⟨holdsAfter, lower⟩
          rw [same] at lower
          exact induction _ lower after holdsAfter rfl
  exact all _ state holds rfl

end Rank

/-- States that can be left only for one another give an endless run. -/
theorem System.Reachable.exists_endless {Stays : σ → Prop} {state : σ}
    (reached : system.Reachable allowed state) (stays : Stays state)
    (goesOn : ∀ before, Stays before → ∃ call after, allowed before call ∧
          system.step before call = .ok after ∧ Stays after) :
    ∃ states, system.Endless allowed states := by
  have next (before : { state // Stays state }) : ∃ after : { state // Stays state }, ∃ call,
      allowed before.1 call ∧ system.step before.1 call = .ok after.1 := by
    rcases goesOn before.1 before.2 with ⟨call, after, admitted, ok, staysAfter⟩
    exact ⟨⟨after, staysAfter⟩, call, admitted, ok⟩
  choose following follows using next
  refine ⟨fun n => (Nat.rec ⟨state, stays⟩ (fun _ => following) n :
      { state // Stays state }).1, reached, ?_⟩
  intro n
  exact follows _

end Mozetto.Library.TransitionSystem
