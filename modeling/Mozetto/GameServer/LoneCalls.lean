import Mozetto.GameServer.EventOrder

/-!
# Calls that do not overlap

Where a call of `persistEvent` begins only when no other one of the runtime is
in flight, and no write fails, no insert is a conflict.  A second call that
begins earlier reads the tip of the first one, and is.
-/

namespace Mozetto.GameServer

open Mozetto.EventStore
open Mozetto.Library.HashChain
open Mozetto.Library.Rows
open Mozetto.Library.TransitionSystem
open Mozetto.Outbox
open Mozetto.Replay (GENESIS_EVENT_HASH)

/-! ## One call at a time -/

/-- One of the two calls has returned. -/
def Stage.TakeTurns (one other : Stage) : Prop := one.isFinished = true ∨ other.isFinished = true

theorem Stage.TakeTurns.symm (one other : Stage)
    (turns : one.TakeTurns other) : other.TakeTurns one := Or.symm turns

namespace EventLog

section Definitions

variable (log : EventLog)

/-- No call is in flight. -/
def IsIdle : Prop := ∀ stage ∈ log.calls, stage.isFinished = true

/-- What holds as long as no two calls overlap and no write fails. -/
structure Solo : Prop where
  resting : log.IsIdle → log.writer.sequence = log.handEvents.length
  turns : log.calls.Pairwise Stage.TakeTurns
  waiting : ∀ prepared, Stage.insert prepared ∈ log.calls →
      prepared.event.body.sequence = log.handEvents.length + 1
  clear : Stage.finished (.error .conflict) ∉ log.calls

end Definitions

variable {log : EventLog} {config : TableConfig} {call : Nat}
variable {prepared : Prepared} {stage : Stage}

/-- The other calls have returned when one of them takes a step. -/
theorem Solo.others_finished (solo : log.Solo) (found : log.calls[call]? = some stage)
    (inFlight : stage.isFinished = false) (index : Nat) (other : Stage) (elsewhere : index ≠ call)
    (found' : log.calls[index]? = some other) : other.isFinished = true := by
  rcases rel_of_pairwise Stage.TakeTurns.symm solo.turns elsewhere found'
      found with finished | finished
  · exact finished
  · rw [inFlight] at finished
    cases finished

/-- The call goes on to a stage that is no conflict. -/
theorem Solo.goTo (solo : log.Solo) (found : log.calls[call]? = some stage)
    (inFlight : stage.isFinished = false) {after : EventLog} {new : Stage}
    (calls : after.calls = log.calls.set call new) (begun : ∀ prepared, new ≠ .insert prepared)
    (clear : new ≠ .finished (.error .conflict))
    (level : new.isFinished = true → after.writer.sequence = after.handEvents.length) :
    after.Solo := by
  have others := solo.others_finished found inFlight
  have inside := (List.getElem?_eq_some_iff.mp found).1
  exact
    { resting := by
        intro idle
        apply level
        apply idle new
        rw [calls]
        exact List.mem_set inside new
      turns := by
        rw [calls]
        apply pairwise_set Stage.TakeTurns.symm solo.turns
        intro index other elsewhere found'
        exact Or.inr (others index other elsewhere found')
      waiting := by
        rw [calls]
        intro prepared member
        have settled : ∀ row ∈ log.calls.set call new, row ≠ .insert prepared := by
          apply forall_mem_set
          · exact begun prepared
          rintro index other elsewhere found' rfl
          cases others index _ elsewhere found'
        exact absurd rfl (settled _ member)
      clear := by
        rw [calls]
        intro member
        rcases List.mem_or_eq_of_mem_set member with old | same
        · exact solo.clear old
        · exact clear same.symm }

variable (call) in
/-- The call that returns its event leaves no event half stored. -/
theorem IsLast.level (last : log.IsLast prepared) : (log.moveOn call prepared).writer.sequence =
    (log.moveOn call prepared).handEvents.length := by
  rcases last with ⟨earlier, events, _, position⟩
  show prepared.event.body.sequence = log.handEvents.length
  rw [position, events, List.length_append, List.length_singleton]

theorem Solo.moveOn (solo : log.Solo) (found : log.calls[call]? = some stage)
    (inFlight : stage.isFinished = false) (last : log.IsLast prepared) :
    (log.moveOn call prepared).Solo :=
  solo.goTo found inFlight rfl (fun _ same => by cases same)
    (fun same => by cases same) (fun _ => last.level call)

/-! ## The steps of a lone call -/

section Steps

variable (runtime : Runtime) (viem : Viem)

theorem Solo.inserted (solo : log.Solo) (found : log.calls[call]? = some (.insert prepared))
    (next : log.IsNext prepared)
    (encodes : config.backend = .memory → ∀ reason,
          (log.writer.persistCanonical runtime viem config prepared.input).2 ≠ .error reason) :
    (log.inserted runtime viem config call prepared).Solo := by
  have going :
      ∀ {base : EventLog} {writer : Writer} {new : Stage}, base.calls = log.calls →
          (new = .append prepared none ∨ ∃ row, new = .canonical prepared row) →
            ({ base with writer := writer }.goTo call new).Solo := by
    intro base writer new calls stages
    have set : ({ base with writer := writer }.goTo call new).calls =
        log.calls.set call new := by
      show base.calls.set call new = log.calls.set call new
      rw [calls]
    apply solo.goTo found rfl set
    · rcases stages with rfl | ⟨row, rfl⟩ <;> exact fun _ same => by cases same
    · rcases stages with rfl | ⟨row, rfl⟩ <;> exact fun same => by cases same
    · rcases stages with rfl | ⟨row, rfl⟩ <;> exact fun same => by cases same
  rw [EventLog.inserted]
  split
  case isTrue memory =>
    rcases encode_eq runtime viem (log.storeEvent prepared.event) call prepared config with
      ⟨writer, new, same, _, _, ⟨_, reason, failed⟩ | stages⟩
    · exact absurd failed (encodes memory reason)
    · rw [same]
      exact going rfl stages
  case isFalse =>
    rcases encode_eq runtime viem log call prepared config with
      ⟨writer, new, same, sequence, _, ⟨rfl, _⟩ | stages⟩
    · rw [same]
      refine solo.goTo found rfl rfl ?_ ?_ ?_
      · exact fun _ same => by cases same
      · exact fun same => by cases same
      · exact fun _ => sequence.trans next.1
    · rw [same]
      exact going rfl stages

/-- Writing the outbox row of the last event. -/
theorem Solo.append (solo : log.Solo) (found : log.calls[call]? = some stage)
    (inFlight : stage.isFinished = false) {stored : EventLog} (calls : stored.calls = log.calls)
    (last : stored.IsLast prepared) : (stored.append call prepared).Solo := by
  rw [EventLog.append]
  split
  · apply solo.goTo found inFlight
    · show stored.calls.set call (.finished (.ok prepared.event)) = _
      rw [calls]
    · exact fun _ same => by cases same
    · exact fun same => by cases same
    · exact fun _ => last.level call
  · apply solo.goTo found inFlight
    · show stored.calls.set call (.publish prepared) = _
      rw [calls]
    · exact fun _ same => by cases same
    · exact fun same => by cases same
    · exact fun finished => by cases finished

theorem Solo.commit {row : Option CanonicalRow} (solo : log.Solo)
    (ordered : log.Ordered config.backend)
    (found : log.calls[call]? = some (.append prepared row)) :
    (log.commit config call prepared row .succeeds).Solo := by
  have inserted : log.IsInserted config.backend prepared :=
    ordered.proper _ (List.mem_of_getElem? found)
  rw [EventLog.commit]
  by_cases memory : config.backend = .memory
  · rw [IsInserted, if_pos memory] at inserted
    rw [if_pos memory]
    exact solo.append found rfl rfl inserted.isLast
  · rw [IsInserted, if_neg memory] at inserted
    rw [if_neg memory]
    have last : (log.committed prepared row).IsLast prepared := by
      cases row <;> exact ⟨log.handEvents, rfl, inserted.1, inserted.2.2⟩
    cases row with
    | none => exact solo.append found rfl rfl last
    | some row => exact solo.append found rfl rfl last

theorem Solo.insertRow {row : CanonicalRow} (solo : log.Solo)
    (found : log.calls[call]? = some (.canonical prepared row)) :
    (log.insertRow config call prepared row .succeeds).Solo := by
  rw [EventLog.insertRow]
  split
  · split <;>
      exact solo.goTo found rfl rfl (fun _ same => by cases same)
        (fun same => by cases same) (fun finished => by cases finished)
  · split <;>
      exact solo.goTo found rfl rfl (fun _ same => by cases same)
        (fun same => by cases same) (fun finished => by cases finished)

/-- Marking the event as published, which may fail, returns it. -/
theorem Solo.marked (solo : log.Solo) (ordered : log.Ordered config.backend)
    (found : log.calls[call]? = some (.mark prepared)) (outcome : Outcome) :
    (log.marked call prepared outcome).Solo := by
  have last : log.IsLast prepared := ordered.proper _ (List.mem_of_getElem? found)
  rw [EventLog.marked]
  split <;>
    exact solo.goTo found rfl rfl (fun _ same => by cases same)
      (fun same => by cases same) (fun _ => last.level call)

/-- A step of a lone call. -/
theorem Solo.step {after : EventLog} (solo : log.Solo) (ordered : log.Ordered config.backend)
    (found : log.calls[call]? = some stage)
    (encodes : ∀ prepared, stage = .insert prepared → config.backend = .memory → ∀ reason,
          (log.writer.persistCanonical runtime viem config prepared.input).2 ≠ .error reason)
    (stepped : log.step runtime viem config call stage .succeeds = .ok after) :
    after.Solo := by
  cases stage with
  | insert prepared =>
    simp only [EventLog.step] at stepped
    split at stepped
    · cases stepped
    · rename_i free
      cases stepped
      have position := solo.waiting prepared (List.mem_of_getElem? found)
      have new : ¬ log.isStored prepared.event.body.sequence = true := by
        rw [ordered.chained.isStored_iff, position]
        omega
      rw [if_neg new]
      have next :=
        (ordered.isNext_of_free found (Bool.eq_false_iff.mpr free) (Bool.eq_false_iff.mpr new)).1
      exact solo.inserted runtime viem found next (encodes prepared rfl)
  | canonical prepared row =>
    cases stepped
    exact solo.insertRow found
  | append prepared row =>
    cases stepped
    exact solo.commit ordered found
  | aborted prepared =>
    cases stepped
    have next : log.IsNext prepared := ordered.proper _ (List.mem_of_getElem? found)
    exact solo.goTo found rfl rfl (fun _ same => by cases same)
      (fun same => by cases same) (fun _ => next.1)
  | publish prepared =>
    cases stepped
    exact solo.goTo found rfl rfl (fun _ same => by cases same)
      (fun same => by cases same) (fun finished => by cases finished)
  | mark prepared =>
    cases stepped
    exact solo.marked ordered found .succeeds
  | finished result => cases stepped

end Steps

/-! ## Runs of lone calls -/

/-- A step that leaves the calls, the stored events and the tip alone. -/
theorem Solo.of_same {after : EventLog} (solo : log.Solo)
    (sequence : after.writer.sequence = log.writer.sequence)
    (events : after.handEvents = log.handEvents)
    (calls : after.calls = log.calls) : after.Solo where
  resting := by
    rw [IsIdle, calls, sequence, events]
    exact solo.resting
  turns := by rw [calls]; exact solo.turns
  waiting := by rw [calls, events]; exact solo.waiting
  clear := by rw [calls]; exact solo.clear

theorem Solo.persistEvent (solo : log.Solo) (idle : log.IsIdle)
    (sequence : prepared.event.body.sequence = log.writer.sequence + 1) :
    { log with calls := log.calls ++ [Stage.insert prepared] }.Solo where
  resting := by
    intro idle'
    have finished :=
      idle' (.insert prepared) (List.mem_append_right _ (List.mem_singleton_self _))
    cases finished
  turns := by
    refine List.pairwise_append.mpr ⟨solo.turns, List.pairwise_singleton _ _, ?_⟩
    intro stage member _ _
    exact Or.inl (idle stage member)
  waiting := by
    intro waiting member
    rcases List.mem_append.mp member with old | new
    · exact solo.waiting waiting old
    · cases List.mem_singleton.mp new
      rw [sequence, solo.resting idle]
  clear := by
    intro member
    rcases List.mem_append.mp member with old | new
    · exact solo.clear old
    · cases List.mem_singleton.mp new

theorem AtRest.solo (atRest : log.AtRest) : log.Solo where
  resting := fun _ => atRest.sequence
  turns := by
    rw [atRest.calls]
    exact List.Pairwise.nil
  waiting := by
    rw [atRest.calls]
    exact fun _ member => absurd member List.not_mem_nil
  clear := by
    rw [atRest.calls]
    exact List.not_mem_nil

variable (runtime : Runtime) (viem : Viem) (sha256 : EventBody → String)
variable (config)

/--
The action is one of a runtime whose writes succeed and whose calls do not
overlap; without a transaction, the canonical row of an event that is stored
can be made.
-/
def TakesTurns (log : EventLog) : EventAction → Prop
  | .persistEvent _ => log.IsIdle
  | .advance call outcome =>
      outcome = .succeeds ∧ ∀ prepared, log.calls[call]? = some (.insert prepared) →
          config.backend = .memory → ∀ reason, (log.writer.persistCanonical runtime viem config
                prepared.input).2 ≠ .error reason
  | .hand _ _ => True
  | .join _ => True
  | .loadOnchainSession _ rowsRead => rowsRead = true
  | .restart _ _ _ => False

variable {config}

theorem TakesTurns.inRuntime {action : EventAction}
    (turns : log.TakesTurns config runtime viem action) :
    action.InRuntime := by
  cases action with
  | restart found rowsRead handNumber => exact absurd turns id
  | _ => trivial

theorem Solo.perform {action : EventAction} {after : EventLog}
    (solo : log.Solo) (ordered : log.Ordered config.backend)
    (turns : log.TakesTurns config runtime viem action)
    (performed : log.perform runtime viem sha256 config action = .ok after) :
    after.Solo := by
  cases action with
  | persistEvent input =>
    cases performed
    apply solo.persistEvent turns
    rfl
  | advance call outcome =>
    rw [EventLog.perform] at performed
    cases found : log.calls[call]? with
    | none =>
      rw [found] at performed
      cases performed
    | some stage =>
      rw [found] at performed
      rcases turns with ⟨rfl, encodes⟩
      apply solo.step runtime viem ordered found _ performed
      rintro prepared rfl memory
      exact encodes prepared found memory
  | hand handId handNumber =>
    cases performed
    exact solo.of_same rfl rfl rfl
  | join sessionId =>
    cases performed
    exact solo.of_same rfl rfl rfl
  | loadOnchainSession session rowsRead =>
    rw [EventLog.perform] at performed
    split at performed
    · cases performed
    · cases performed
      have tip := log.writer.loadOnchainSession_tip log.canonical session rowsRead
      exact solo.of_same tip.1 rfl rfl
  | restart session rowsRead handNumber => exact absurd turns id

end EventLog

/-! ## A loaded runtime is at rest -/

/-- Events of a chain that all carry a hash are read to their end. -/
theorem replayFrom_of_linked {tip : TableEvent} {events : List TableEvent}
    (linked : Linked TableEvent.tip Continues tip.tip (tip.body.sequence + 1) events)
    (hashed : ∀ event ∈ events, event.eventHash ≠ "") :
    replayFrom tip events = ⟨tip.body.sequence + events.length,
        tipAfter TableEvent.tip tip.tip events, false⟩ := by
  induction events generalizing tip with
  | nil => rfl
  | cons event rest induction =>
    rcases linked with ⟨⟨prevHash, sequence⟩, linked⟩
    rw [replayFrom, if_neg (fun gap => gap sequence), if_neg]
    · rw [← sequence] at linked
      rw [induction linked fun later member => hashed later (List.mem_cons_of_mem _ member)]
      rw [sequence, List.length_cons, Nat.add_right_comm]
      rfl
    · rintro (broken | unhashed)
      · exact broken prevHash
      · exact hashed event List.mem_cons_self unhashed

theorem Chained.insertionSort_eq {events : List TableEvent} (chained : Chained events) :
    events.insertionSort (fun first second => first.body.sequence ≤ second.body.sequence) =
      events := by
  apply List.Pairwise.insertionSort_eq
  rw [List.pairwise_iff_getElem]
  intro one other inside inside' before
  rw [chained.sequence_at (List.getElem?_eq_getElem inside),
    chained.sequence_at (List.getElem?_eq_getElem inside')]
  exact Nat.succ_le_succ before.le

/-- The tip of a chain whose events carry a hash is recovered. -/
theorem replayDurableEvents_of_chained {events : List TableEvent} (chained : Chained events)
    (hashed : ∀ event ∈ events, event.eventHash ≠ "") :
    replayDurableEvents events = ⟨events.length, tipOf events, false⟩ := by
  rw [replayDurableEvents, chained.insertionSort_eq]
  cases events with
  | nil => rfl
  | cons first rest =>
    rcases chained with ⟨⟨prevHash, sequence⟩, linked⟩
    have known : first.eventHash ≠ "" := hashed first List.mem_cons_self
    dsimp only
    rw [if_neg]
    · have linked' : Linked TableEvent.tip Continues first.tip
          (first.body.sequence + 1) rest := by
        rwa [sequence]
      rw [replayFrom_of_linked linked'
        fun later member => hashed later (List.mem_cons_of_mem _ member)]
      rw [sequence, List.length_cons, Nat.add_comm]
      rfl
    · rintro (⟨_, linked⟩ | unhashed)
      · rw [prevHash] at linked
        exact linked rfl
      · exact known unhashed

/-- The runtime that is loaded from a chain of events holds its tip. -/
theorem atRest_loaded (viem : Viem) (config : TableConfig)
    {events : List TableEvent} (chained : Chained events)
    (hashed : ∀ event ∈ events, event.eventHash ≠ "")
    (rows : List CanonicalRow) (outbox : String → Nat → Option OutboxStatus)
    (found : Option String) (rowsRead : Bool) (handNumber : Int) :
    EventLog.AtRest
      { writer :=
          loadedWriter viem config events rows found rowsRead handNumber
        handEvents := prunedEvents events
        canonical := rows
        outbox := outbox
        calls := []
        broadcasts := [] } := by
  have tip := replayDurableEvents_of_chained chained hashed
  have pruned : prunedEvents events = events := by
    rw [prunedEvents, tip]
    rfl
  have loaded : (loadedWriter viem config events rows found rowsRead
          handNumber).sequence = events.length ∧
      (loadedWriter viem config events rows found rowsRead handNumber).prevHash = tipOf events := by
    rw [loadedWriter, pruned, tip]
    dsimp only
    split
    · exact Writer.loadOnchainSession_tip _ rows found rowsRead
    · exact ⟨rfl, rfl⟩
  rw [pruned]
  exact ⟨chained, loaded.1, loaded.2, rfl, rfl⟩

/-! ## What all runs keep -/

/-- No write of the action fails. -/
def EventAction.Succeeds : EventAction → Prop
  | .advance _ outcome => outcome = .succeeds
  | .loadOnchainSession _ rowsRead => rowsRead = true
  | .restart _ rowsRead _ => rowsRead = true
  | _ => True

/--
The stored events are a chain with consecutive sequences, an accepted event is
stored once and by one call, and the broadcasts are stored events in the order
of their sequences.
-/
structure EventLog.Serialised (log : EventLog) : Prop where
  chained : Chained log.handEvents
  stored : ∀ event, Stage.finished (.ok event) ∈ log.calls →
      ∃! place : Nat, log.handEvents[place]? = some event
  once : log.calls.Pairwise Stage.AcceptApart
  announced : log.broadcasts.Sublist log.handEvents
  inOrder : log.broadcasts.Pairwise fun first second =>
      first.body.sequence < second.body.sequence

theorem EventLog.Ordered.serialised {log : EventLog} {backend : Backend}
    (ordered : log.Ordered backend) : log.Serialised where
  chained := ordered.chained
  stored := by
    intro event accepted
    exact ordered.chained.exists_unique_place (ordered.proper _ accepted).1
  once := ordered.accepting
  announced := ordered.announced
  inOrder := by
    refine List.Pairwise.sublist ordered.announced ?_
    rw [List.pairwise_iff_getElem]
    intro one other inside inside' before
    rw [ordered.chained.sequence_at (List.getElem?_eq_getElem inside),
      ordered.chained.sequence_at (List.getElem?_eq_getElem inside')]
    exact Nat.succ_lt_succ before

section Runs

variable (runtime : Runtime) (viem : Viem) (sha256 : EventBody → String)
variable (config : TableConfig)

/--
From a runtime at rest, any calls of `persistEvent` in any interleaving, with
writes that fail or not, leave one chain, store what they accept once and
broadcast in order.  If no call begins while another is in flight and no write
fails, no call is refused for a sequence that another one has taken.
-/
theorem persistEvent_serialises (base : EventLog) (atRest : base.AtRest) :
    (∀ log,
      (eventRuns runtime viem sha256 config (· = base)).Reachable
          (fun _ action => action.InRuntime) log →
        log.Serialised) ∧
    ∀ log,
      (eventRuns runtime viem sha256 config (· = base)).Reachable
          (fun log action => log.TakesTurns config runtime viem action) log →
        Stage.finished (.error .conflict) ∉ log.calls := by
  have initially : ∀ log, log = base → log.Ordered config.backend := by
    rintro log rfl
    exact atRest.ordered config.backend
  constructor
  · intro log reached
    have ordered :=
      reached.invariant initially fun _ _ _ ordered inRuntime performed =>
        ordered.perform runtime viem sha256 inRuntime performed
    exact ordered.serialised
  · intro log reached
    have starts :
        ∀ log, log = base → log.Ordered config.backend ∧ log.Solo := by
      rintro log rfl
      exact ⟨initially _ rfl, atRest.solo⟩
    have both :=
      reached.invariant starts fun _ _ _ held turns performed =>
        ⟨held.1.perform runtime viem sha256
            (EventLog.TakesTurns.inRuntime runtime viem turns) performed,
          held.2.perform runtime viem sha256 held.1 turns performed⟩
    exact both.2.clear

end Runs

namespace Example

/-- A table that keeps no canonical events, with the Postgres outbox. -/
def demoTable : TableConfig where
  tableId := "table"
  isOnchain := false
  prefersTyped := false
  backend := .postgres

def demoRuntime : Runtime where
  number := fun _ => none
  numberText := fun _ => ""
  toLowerCase := id

def demoViem : Viem where
  encodeAbiParameters := fun _ _ => .ok ""
  keccak256 := id
  toBytes := id

/-- A new table. -/
def newTable : EventLog where
  writer :=
    { sequence := 0
      prevHash := none
      onchainSessionId := none
      canonicalSequence := 0
      canonicalPrevHash := ""
      pokerV1Sequence := 0
      pokerV1PrevHash := none
      handId := none
      handNumber := 0 }
  handEvents := []
  canonical := []
  outbox := fun _ _ => none
  calls := []
  broadcasts := []

def leaving : EventInput where
  eventType := "PLAYER_LEAVE_REQUESTED"
  payload := []
  visibility := .isPublic
  timestamp := "now"
  nowMs := 0

theorem newTable_atRest : newTable.AtRest := ⟨trivial, rfl, rfl, rfl, rfl⟩

def demoRuns : System EventLog EventAction Unit :=
  eventRuns demoRuntime demoViem (fun _ => "hash") demoTable (· = newTable)

/-- The state after the actions of a run. -/
def demoAfter (actions : List EventAction) : EventLog :=
  actions.foldl (fun log action => (demoRuns.step log action).toOption.getD log) newTable

theorem demo_advance {log : EventLog} :
    log.TakesTurns demoTable demoRuntime demoViem (.advance 0 .succeeds) :=
  ⟨rfl, fun _ _ memory => by cases memory⟩

theorem persistEvent_serialises_alone :
    newTable.AtRest ∧
      (demoAfter
          [.persistEvent leaving, .advance 0 .succeeds, .advance 0 .succeeds,
            .advance 0 .succeeds, .advance 0 .succeeds]).handEvents.length = 1 ∧
        Stage.finished (.error .conflict) ∉
          (demoAfter
            [.persistEvent leaving, .advance 0 .succeeds,
              .advance 0 .succeeds, .advance 0 .succeeds,
              .advance 0 .succeeds]).calls := by
  refine ⟨newTable_atRest, rfl, ?_⟩
  apply
    (persistEvent_serialises demoRuntime demoViem (fun _ => "hash") demoTable
      newTable newTable_atRest).2
  have idle :
      newTable.TakesTurns demoTable demoRuntime demoViem
        (.persistEvent leaving) :=
    fun _ member => absurd member List.not_mem_nil
  have begun :
      demoRuns.Reachable
        (fun log action => log.TakesTurns demoTable demoRuntime demoViem action)
        (demoAfter [.persistEvent leaving]) :=
    .next (.start rfl) idle rfl
  have inserted := begun.next demo_advance rfl
  have committed := inserted.next demo_advance rfl
  have published := committed.next demo_advance rfl
  exact published.next demo_advance rfl

/--
Two calls begin before either has stored its event: the second one fails, as
the first one has taken its sequence.
-/
theorem overlapping_calls_conflict :
    ¬ ∀ log,
      demoRuns.Reachable
          (fun _ action => action.InRuntime ∧ action.Succeeds) log →
        log.Serialised ∧ Stage.finished (.error .conflict) ∉ log.calls := by
  intro serialised
  have first :
      demoRuns.Reachable
        (fun _ action => action.InRuntime ∧ action.Succeeds)
        (demoAfter [.persistEvent leaving]) :=
    .next (.start rfl)
      (show EventAction.InRuntime (.persistEvent leaving) ∧
          EventAction.Succeeds (.persistEvent leaving) from
        ⟨trivial, trivial⟩)
      rfl
  have second :
      demoRuns.Reachable
        (fun _ action => action.InRuntime ∧ action.Succeeds)
        (demoAfter [.persistEvent leaving, .persistEvent leaving]) :=
    .next first
      (show EventAction.InRuntime (.persistEvent leaving) ∧
          EventAction.Succeeds (.persistEvent leaving) from
        ⟨trivial, trivial⟩)
      rfl
  have succeeds :
      ∀ call, EventAction.InRuntime (.advance call .succeeds) ∧
        EventAction.Succeeds (.advance call .succeeds) :=
    fun _ => ⟨trivial, rfl⟩
  have inserted := second.next (succeeds 0) rfl
  have committed := inserted.next (succeeds 0) rfl
  have refused := committed.next (succeeds 1) rfl
  have conflict :
      (demoAfter
          [.persistEvent leaving, .persistEvent leaving, .advance 0 .succeeds,
            .advance 0 .succeeds, .advance 1 .succeeds]).calls[1]? =
        some (.finished (.error .conflict)) := rfl
  exact (serialised _ refused).2 (List.mem_of_getElem? conflict)

end Example

end Mozetto.GameServer
