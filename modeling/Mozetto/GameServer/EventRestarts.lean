import Mozetto.GameServer.LoneCalls

/-!
# A table's events over restarts

The server may stop between any two steps of the calls that store events.  The
runtime that is loaded afterwards reads the stored events to their end and goes
on from there; no restart drops or changes an event that has been stored.
-/

namespace Mozetto.GameServer

open Mozetto.EventStore
open Mozetto.Library.TransitionSystem
open Mozetto.Outbox

/-- The event of a call that has not returned. -/
def Stage.event : Stage → Option TableEvent
  | .insert prepared => some prepared.event
  | .canonical prepared _ => some prepared.event
  | .append prepared _ => some prepared.event
  | .aborted prepared => some prepared.event
  | .publish prepared => some prepared.event
  | .mark prepared => some prepared.event
  | .finished _ => none

@[simp]
theorem Stage.event_crash (stage : Stage) : stage.crash.event = none := by
  cases stage <;> rfl

@[simp]
theorem Stage.isStoring_crash (stage : Stage) : stage.crash.isStoring = false := by
  cases stage <;> rfl

@[simp]
theorem Stage.accepted_crash (stage : Stage) : stage.crash.accepted = stage.accepted := by
  cases stage <;> rfl

namespace EventLog

variable {log after : EventLog} {call : Nat} {stage : Stage} {config : TableConfig}
variable {runtime : Runtime} {viem : Viem} {sha256 : EventBody → String}

/-! ## What a step stores -/

/-- The stored events stay, and the event that was made is added or not. -/
def Stores (log : EventLog) (made : Option TableEvent) (events : List TableEvent) : Prop :=
  events = log.handEvents ∨ ∃ event, made = some event ∧ events = log.handEvents ++ [event]

/-- A call that has made an event goes on with it or returns. -/
structure Extends (log : EventLog) (call : Nat) (made : Option TableEvent)
    (after : EventLog) : Prop where
  calls : ∃ next : Stage, (next.event = none ∨ next.event = made) ∧
      after.calls = log.calls.set call next
  stored : log.Stores made after.handEvents

variable {made : Option TableEvent} {prepared : Prepared} {between : EventLog}

theorem Extends.goTo {next : Stage} (same : between.calls = log.calls)
    (stored : log.Stores made between.handEvents)
    (known : next.event = none ∨ next.event = made) :
    log.Extends call made (between.goTo call next) :=
  ⟨⟨next, known, by rw [EventLog.goTo, same]⟩, stored⟩

theorem Extends.append (same : between.calls = log.calls)
    (stored : log.Stores (some prepared.event) between.handEvents) :
    log.Extends call (some prepared.event) (between.append call prepared) := by
  rw [EventLog.append]
  split
  · exact .goTo same stored (.inl rfl)
  · exact .goTo same stored (.inr rfl)

theorem Extends.encode (same : between.calls = log.calls)
    (stored : log.Stores (some prepared.event) between.handEvents) :
    log.Extends call (some prepared.event)
      (between.encode runtime viem config call prepared) := by
  rw [EventLog.encode]
  split
  · exact .goTo same stored (.inl rfl)
  · exact .goTo same stored (.inr rfl)
  · exact .goTo same stored (.inr rfl)

theorem extends_step {outcome : Outcome}
    (stepped : log.step runtime viem config call stage outcome = .ok after) :
    log.Extends call stage.event after := by
  have unchanged : ∀ made, log.Stores made log.handEvents := fun _ => .inl rfl
  have added : ∀ event : TableEvent,
      log.Stores (some event) (log.handEvents ++ [event]) := fun event => .inr ⟨event, rfl, rfl⟩
  cases stage with
  | insert prepared =>
    simp only [EventLog.step] at stepped
    split at stepped
    · cases stepped
    · cases outcome with
      | fails applied reason =>
        cases stepped
        rw [EventLog.insertFails]
        split
        · exact .goTo rfl (added _) (.inl rfl)
        · exact .goTo rfl (unchanged _) (.inl rfl)
      | succeeds =>
        cases stepped
        split
        · exact .goTo rfl (unchanged _) (.inl rfl)
        · rw [EventLog.inserted]
          split
          · exact .encode rfl (added _)
          · exact .encode rfl (unchanged _)
  | canonical prepared row =>
    cases stepped
    rw [EventLog.insertRow]
    split
    · split <;> exact .goTo rfl (unchanged _) (.inr rfl)
    · split <;> exact .goTo rfl (unchanged _) (.inr rfl)
  | append prepared row =>
    cases stepped
    have committed : (log.committed prepared row).calls = log.calls ∧
        log.Stores (some prepared.event) (log.committed prepared row).handEvents := by
      cases row <;> exact ⟨rfl, added _⟩
    cases outcome with
    | succeeds =>
      rw [EventLog.commit]
      split
      · exact .append rfl (unchanged _)
      · exact .append committed.1 committed.2
    | fails applied reason =>
      rw [EventLog.commit]
      split
      · exact .append rfl (unchanged _)
      · split
        · exact .goTo committed.1 committed.2 (.inl rfl)
        · exact .goTo rfl (unchanged _) (.inl rfl)
  | aborted prepared =>
    cases stepped
    exact .goTo rfl (unchanged _) (.inl rfl)
  | publish prepared =>
    cases stepped
    exact .goTo rfl (unchanged _) (.inr rfl)
  | mark prepared =>
    cases stepped
    rw [EventLog.marked]
    split <;> exact .goTo rfl (unchanged _) (.inl rfl)
  | finished result => cases stepped

/-! ## Hashes -/

/-- The events, stored or on their way, carry the hashes of their bodies. -/
structure Genuine (sha256 : EventBody → String) (log : EventLog) : Prop where
  stored : ∀ event ∈ log.handEvents, event.eventHash = sha256 event.body
  made : ∀ stage ∈ log.calls, ∀ event, stage.event = some event →
      event.eventHash = sha256 event.body

theorem Genuine.step (genuine : log.Genuine sha256)
    (found : log.calls[call]? = some stage) (extends' : log.Extends call stage.event after) :
    after.Genuine sha256 := by
  have own := genuine.made stage (List.mem_of_getElem? found)
  rcases extends' with ⟨⟨next, known, calls⟩, stored⟩
  constructor
  · rcases stored with same | ⟨event, made, stored⟩
    · rw [same]
      exact genuine.stored
    · rw [stored]
      intro event' member
      rcases List.mem_append.mp member with old | new
      · exact genuine.stored event' old
      · cases List.mem_singleton.mp new
        exact own event made
  · rw [calls]
    intro stage' member event made
    rcases List.mem_or_eq_of_mem_set member with old | rfl
    · exact genuine.made stage' old event made
    · rcases known with none | same
      · rw [none] at made
        cases made
      · exact own event (same ▸ made)

/-! ## Restarts -/

/-- A restart finds the events as they are, and their tip. -/
theorem Ordered.restart (ordered : log.Ordered config.backend)
    (hashed : ∀ event ∈ log.handEvents, event.eventHash ≠ "") {found : Option String}
    {rowsRead : Bool} {handNumber : Int}
    (performed : log.perform runtime viem sha256 config (.restart found rowsRead handNumber) =
      .ok after) :
    after.Ordered config.backend ∧ after.handEvents = log.handEvents ∧
      after.calls = log.calls.map Stage.crash := by
  have chained := ordered.chained
  have pruned : prunedEvents log.handEvents = log.handEvents := by
    rw [prunedEvents, replayDurableEvents_of_chained chained hashed]
    rfl
  have atRest :=
    atRest_loaded viem config chained hashed log.canonical log.outbox found rowsRead handNumber
  have sequence := atRest.sequence
  have prevHash := atRest.prevHash
  simp only [pruned] at sequence prevHash
  cases performed
  refine ⟨?_, pruned, rfl⟩
  simp only [pruned]
  exact
    { chained := chained
      behind := sequence.le
      near := sequence.ge.trans (Nat.le_succ _)
      level := fun _ => prevHash
      announced := ordered.announced
      proper := by
        intro stage member
        rcases List.mem_map.mp member with ⟨former, known, rfl⟩
        cases former with
        | finished result =>
          cases result with
          | error failure => trivial
          | ok event =>
            have stored : event ∈ log.handEvents ∧ _ := ordered.proper (.finished (.ok event)) known
            rcases List.mem_iff_getElem?.mp stored.1 with ⟨place, stands⟩
            refine ⟨stored.1, ?_⟩
            rw [chained.sequence_at stands, sequence]
            exact (List.getElem?_eq_some_iff.mp stands).1
        | _ => trivial
      storing := by
        refine List.pairwise_map.mpr (ordered.storing.imp fun _ both => ?_)
        rw [Stage.isStoring_crash] at both
        exact Bool.false_ne_true both.1
      accepting := by
        refine List.pairwise_map.mpr (ordered.accepting.imp fun apart => ?_)
        rwa [Stage.AcceptApart, Stage.accepted_crash, Stage.accepted_crash] }

theorem Genuine.perform {action : EventAction} (genuine : log.Genuine sha256)
    (inRuntime : action.InRuntime)
    (performed : log.perform runtime viem sha256 config action = .ok after) :
    after.Genuine sha256 ∧ log.handEvents <+: after.handEvents := by
  cases action with
  | restart found rowsRead handNumber => exact absurd inRuntime id
  | advance call outcome =>
    rw [EventLog.perform] at performed
    cases found : log.calls[call]? with
    | none =>
      rw [found] at performed
      cases performed
    | some stage =>
      rw [found] at performed
      have onward := extends_step performed
      refine ⟨genuine.step found onward, ?_⟩
      rcases onward.stored with same | ⟨event, _, stored⟩
      · exact same ▸ List.prefix_refl _
      · exact stored ▸ List.prefix_append _ _
  | persistEvent input =>
    cases performed
    refine ⟨⟨genuine.stored, ?_⟩, List.prefix_refl _⟩
    intro stage member event made
    rcases List.mem_append.mp member with old | new
    · exact genuine.made stage old event made
    · cases List.mem_singleton.mp new
      cases made
      rfl
  | loadOnchainSession session rowsRead =>
    rw [EventLog.perform] at performed
    split at performed
    · cases performed
    · cases performed
      exact ⟨⟨genuine.stored, genuine.made⟩, List.prefix_refl _⟩
  | hand | join =>
    cases performed
    exact ⟨⟨genuine.stored, genuine.made⟩, List.prefix_refl _⟩

/-- What holds between any two steps, restarts included. -/
structure Sound (sha256 : EventBody → String) (config : TableConfig) (log : EventLog) :
    Prop where
  ordered : log.Ordered config.backend
  genuine : log.Genuine sha256

theorem Sound.perform {action : EventAction} (sound : log.Sound sha256 config)
    (named : ∀ body, sha256 body ≠ "")
    (performed : log.perform runtime viem sha256 config action = .ok after) :
    after.Sound sha256 config ∧ log.handEvents <+: after.handEvents := by
  have kind : action.InRuntime ∨
      ∃ found rowsRead handNumber, action = .restart found rowsRead handNumber := by
    cases action with
    | restart found rowsRead handNumber => exact .inr ⟨found, rowsRead, handNumber, rfl⟩
    | _ => exact .inl trivial
  rcases kind with inRuntime | ⟨found, rowsRead, handNumber, rfl⟩
  · have onward := sound.genuine.perform inRuntime performed
    exact ⟨⟨sound.ordered.perform runtime viem sha256 inRuntime performed, onward.1⟩, onward.2⟩
  · have restarted := sound.ordered.restart (fun event member =>
      (sound.genuine.stored event member) ▸ named event.body) performed
    refine ⟨⟨restarted.1, ?_, ?_⟩, restarted.2.1 ▸ List.prefix_refl _⟩
    · rw [restarted.2.1]
      exact sound.genuine.stored
    · rw [restarted.2.2]
      intro stage member event made
      rcases List.mem_map.mp member with ⟨former, _, rfl⟩
      rw [Stage.event_crash] at made
      cases made

end EventLog

/-! ## Runs with restarts -/

section Runs

variable (runtime : Runtime) (viem : Viem) (sha256 : EventBody → String)
variable (config : TableConfig)

/--
However the calls interleave, whichever writes fail and however often the
server restarts, the stored events are one chain of genuine hashes.  It is only
ever extended, a call that returned has its event in it at one place, and a
restart reads it to its end.
-/
theorem events_kept_over_restarts (named : ∀ body, sha256 body ≠ "") (base : EventLog)
    (atRest : base.AtRest)
    (genuine : ∀ event ∈ base.handEvents, event.eventHash = sha256 event.body) {log : EventLog}
    (reached : (eventRuns runtime viem sha256 config (· = base)).Reachable AnyCall log) :
    Chained log.handEvents ∧
      (∀ event ∈ log.handEvents, event.eventHash = sha256 event.body) ∧
      (∀ event, Stage.finished (.ok event) ∈ log.calls →
        ∃! place : Nat, log.handEvents[place]? = some event) ∧
      replayDurableEvents log.handEvents =
        ⟨log.handEvents.length, tipOf log.handEvents, false⟩ ∧
      ∀ later,
        ((eventRuns runtime viem sha256 config (· = base)).startingAt log).Reachable AnyCall
            later →
          log.handEvents <+: later.handEvents := by
  have starts : ∀ log, log = base → log.Sound sha256 config := by
    rintro log rfl
    refine ⟨atRest.ordered config.backend, genuine, ?_⟩
    rw [atRest.calls]
    exact fun _ member => absurd member List.not_mem_nil
  have sound : log.Sound sha256 config :=
    reached.invariant starts fun _ _ _ sound _ performed => (sound.perform named performed).1
  have serialised := sound.ordered.serialised
  refine ⟨serialised.chained, sound.genuine.stored, serialised.stored, ?_, ?_⟩
  · apply replayDurableEvents_of_chained serialised.chained
    intro event member
    rw [sound.genuine.stored event member]
    exact named event.body
  · intro later continued
    have grown : later.Sound sha256 config ∧ log.handEvents <+: later.handEvents := by
      induction continued with
      | start same =>
        cases same
        exact ⟨sound, List.prefix_refl _⟩
      | next _ _ performed known =>
        have onward := known.1.perform named performed
        exact ⟨onward.1, known.2.trans onward.2⟩
    exact grown.2

end Runs

namespace Example

/-- The server restarts after an event, and after half of another one. -/
def restartedRun : List EventAction :=
  [.persistEvent leaving, .advance 0 .succeeds, .advance 0 .succeeds, .advance 0 .succeeds,
    .advance 0 .succeeds, .restart none true 0, .persistEvent leaving, .advance 1 .succeeds,
    .advance 1 .succeeds, .restart none true 0, .persistEvent leaving, .advance 2 .succeeds,
    .advance 2 .succeeds]

theorem events_kept_over_restarts_twice :
    ∃ log : EventLog, (log.handEvents.length = 3 ∧ log.broadcasts.length = 1) ∧
      Chained log.handEvents := by
  have played : (demoRuns.replay AnyCall newTable restartedRun).any (fun log : EventLog =>
      decide (log.handEvents.length = 3 ∧ log.broadcasts.length = 1)) = true := by
    rfl
  rcases (System.Reachable.start rfl).exists_replay played with ⟨log, reached, observed⟩
  have kept :=
    events_kept_over_restarts demoRuntime demoViem (fun _ => "hash") demoTable
      (fun _ => by decide) newTable newTable_atRest
      (fun _ member => absurd member List.not_mem_nil) reached
  exact ⟨log, of_decide_eq_true observed, kept.1⟩

end Example

end Mozetto.GameServer
