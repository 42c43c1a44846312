import Mozetto.GameServer.EventWriter
import Mozetto.Library.HashChain
import Mozetto.Library.Rows

/-!
# The order of a table's events

However the calls of `persistEvent` interleave, and whichever of their writes
fail, the stored events are one chain with consecutive sequences, an accepted
event is stored once, and the broadcasts follow the order of the stored
events.  Two calls that overlap read the same tip, so that the later insert
of the two is a conflict; calls that do not overlap never conflict.
-/

namespace Mozetto.GameServer

open Mozetto.EventStore
open Mozetto.Library.HashChain
open Mozetto.Library.Rows
open Mozetto.Library.TransitionSystem
open Mozetto.Outbox

/-! ## Chains of events -/

def TableEvent.tip (event : TableEvent) : Option String := some event.eventHash

/-- The event follows the tip, with the given sequence. -/
def Continues (tip : Option String) (sequence : Nat) (event : TableEvent) : Prop :=
  event.body.prevEventHash = tip ∧ event.body.sequence = sequence

/-- The stored events are a chain with the sequences 1, 2, .... -/
def Chained (events : List TableEvent) : Prop := Linked TableEvent.tip Continues none 1 events

/-- The tip of the stored events. -/
def tipOf (events : List TableEvent) : Option String := tipAfter TableEvent.tip none events

@[simp]
theorem tipOf_concat (events : List TableEvent) (event : TableEvent) :
    tipOf (events ++ [event]) = some event.eventHash := tipAfter_concat events event

theorem chained_concat_iff {events : List TableEvent} {event : TableEvent} :
    Chained (events ++ [event]) ↔ Chained events ∧
        Continues (tipOf events) (events.length + 1) event := by
  rw [Chained, linked_concat_iff, Nat.add_comm 1]
  rfl

theorem Chained.sequence_at {events : List TableEvent} {event : TableEvent}
    {place : Nat} (chained : Chained events) (stored : events[place]? = some event) :
    event.body.sequence = place + 1 := by
  have sequences := (linked_and_at_iff.mp chained).2 place event stored
  rw [sequences, Nat.add_comm]

/-- A stored event stands at one place only. -/
theorem Chained.exists_unique_place {events : List TableEvent} {event : TableEvent}
    (chained : Chained events) (stored : event ∈ events) :
    ∃! place : Nat, events[place]? = some event := by
  rcases List.mem_iff_getElem?.mp stored with ⟨place, found⟩
  refine ⟨place, found, ?_⟩
  intro other found'
  have same := (chained.sequence_at found').symm.trans (chained.sequence_at found)
  exact Nat.succ_injective same

/-- Every sequence up to the last one is stored. -/
theorem Chained.isStored_iff {log : EventLog} (chained : Chained log.handEvents) (sequence : Nat) :
    log.isStored sequence = true ↔ 1 ≤ sequence ∧ sequence ≤ log.handEvents.length := by
  rw [EventLog.isStored, List.any_eq_true]
  constructor
  · rintro ⟨event, stored, same⟩
    have same := of_decide_eq_true same
    rcases List.mem_iff_getElem?.mp stored with ⟨place, found⟩
    have position := chained.sequence_at found
    have inside := (List.getElem?_eq_some_iff.mp found).1
    omega
  · rintro ⟨positive, bounded⟩
    have inside : sequence - 1 < log.handEvents.length := by omega
    have found := List.getElem?_eq_getElem inside
    have position := chained.sequence_at found
    refine ⟨_, List.getElem_mem inside, decide_eq_true ?_⟩
    omega

/-! ## What the calls rely on -/

/-- What a stage shows of the event that its call has stored. -/
def Stage.accepted : Stage → Option TableEvent
  | .finished (.ok event) => some event
  | _ => none

/-- The call has begun to store its event, and has not returned. -/
def Stage.isStoring : Stage → Bool
  | .insert _ => false
  | .finished _ => false
  | _ => true

def Stage.isFinished : Stage → Bool
  | .finished _ => true
  | _ => false

namespace EventLog

variable (log : EventLog)

/-- The event is the next one of the chain; none is half stored. -/
def IsNext (prepared : Prepared) : Prop :=
  log.writer.sequence = log.handEvents.length ∧
    Continues (tipOf log.handEvents) (log.handEvents.length + 1) prepared.event

/-- The event is the last one, and the runtime stands right before it. -/
def IsLast (prepared : Prepared) : Prop :=
  ∃ earlier, log.handEvents = earlier ++ [prepared.event] ∧ log.writer.sequence = earlier.length ∧
      prepared.event.body.sequence = earlier.length + 1

/-- The last event has not been broadcast. -/
def IsUnsent (prepared : Prepared) : Prop :=
  ∃ earlier, log.handEvents = earlier ++ [prepared.event] ∧ log.writer.sequence = earlier.length ∧
      prepared.event.body.sequence = earlier.length + 1 ∧ log.broadcasts.Sublist earlier

/-- An event after its insert, in a transaction that is open or without one. -/
def IsInserted (backend : Backend) (prepared : Prepared) : Prop :=
  if backend = .memory then log.IsUnsent prepared else log.IsNext prepared

/-- What holds of a call at each stage. -/
def Proper (backend : Backend) : Stage → Prop
  | .insert prepared =>
      1 ≤ prepared.event.body.sequence ∧ prepared.event.body.sequence ≤ log.writer.sequence + 1 ∧
        (prepared.event.body.sequence = log.handEvents.length + 1 →
          prepared.event.body.prevEventHash = tipOf log.handEvents)
  | .canonical prepared _ => log.IsInserted backend prepared
  | .append prepared _ => log.IsInserted backend prepared
  | .aborted prepared => log.IsNext prepared
  | .publish prepared => log.IsUnsent prepared
  | .mark prepared => log.IsLast prepared
  | .finished (.ok event) =>
      event ∈ log.handEvents ∧ event.body.sequence ≤ log.writer.sequence
  | .finished (.error _) => True

end EventLog

/-- Two calls are not both storing their events. -/
def Stage.StoreApart (one other : Stage) : Prop := ¬ (one.isStoring = true ∧ other.isStoring = true)

/-- Two calls have not accepted events of one sequence. -/
def Stage.AcceptApart (one other : Stage) : Prop :=
  ∀ event ∈ one.accepted, ∀ event' ∈ other.accepted, event.body.sequence ≠ event'.body.sequence

/-- What holds between the steps of any calls. -/
structure EventLog.Ordered (backend : Backend) (log : EventLog) : Prop where
  chained : Chained log.handEvents
  behind : log.writer.sequence ≤ log.handEvents.length
  near : log.handEvents.length ≤ log.writer.sequence + 1
  level : log.writer.sequence = log.handEvents.length → log.writer.prevHash = tipOf log.handEvents
  announced : log.broadcasts.Sublist log.handEvents
  proper : ∀ stage ∈ log.calls, log.Proper backend stage
  storing : log.calls.Pairwise Stage.StoreApart
  accepting : log.calls.Pairwise Stage.AcceptApart

theorem Stage.StoreApart.symm (one other : Stage)
    (apart : one.StoreApart other) : other.StoreApart one := fun both => apart ⟨both.2, both.1⟩

theorem Stage.AcceptApart.symm (one other : Stage)
    (apart : one.AcceptApart other) : other.AcceptApart one :=
  fun event accepted event' accepted' same =>
    apart event' accepted' event accepted same.symm

/-! ## Single steps -/

namespace EventLog

variable {log : EventLog} {backend : Backend} {call : Nat}
variable {stage : Stage} {prepared : Prepared}

theorem IsUnsent.isLast (unsent : log.IsUnsent prepared) :
    log.IsLast prepared := by
  rcases unsent with ⟨earlier, events, sequence, position, _⟩
  exact ⟨earlier, events, sequence, position⟩

/-- The invariant speaks of the tip, the events, the broadcasts and the calls. -/
theorem Ordered.of_same {log' : EventLog} (ordered : log.Ordered backend)
    (sequence : log'.writer.sequence = log.writer.sequence)
    (prevHash : log'.writer.prevHash = log.writer.prevHash)
    (events : log'.handEvents = log.handEvents) (broadcasts : log'.broadcasts = log.broadcasts)
    (calls : log'.calls = log.calls) :
    log'.Ordered backend := by
  have same : log'.Proper backend = log.Proper backend := by
    ext stage
    cases stage with
    | finished result =>
      cases result <;> simp only [Proper, sequence, events]
    | _ =>
      simp only [Proper, IsInserted, IsUnsent, IsNext, IsLast, sequence, events, broadcasts]
  rcases ordered with ⟨chained, behind, near, level, announced, proper, storing, accepting⟩
  exact
    { chained := by rwa [events]
      behind := by rwa [sequence, events]
      near := by rwa [sequence, events]
      level := by rwa [sequence, events, prevHash]
      announced := by rwa [broadcasts, events]
      proper := by rwa [calls, same]
      storing := by rwa [calls]
      accepting := by rwa [calls] }

/-- A call that is storing and one that is not are different ones. -/
theorem Ordered.others_idle (ordered : log.Ordered backend)
    (found : log.calls[call]? = some stage) (storing : stage.isStoring = true)
    (index : Nat) (other : Stage) (elsewhere : index ≠ call)
    (found' : log.calls[index]? = some other) : other.isStoring = false := by
  have apart := rel_of_pairwise Stage.StoreApart.symm ordered.storing elsewhere found' found
  cases idle : other.isStoring with
  | false => rfl
  | true => exact absurd ⟨idle, storing⟩ apart

/-- A call goes to another stage and leaves everything else as it is. -/
theorem Ordered.goTo (ordered : log.Ordered backend) {new : Stage} (proper : log.Proper backend new)
    (alone : new.isStoring = true → ∀ index other, index ≠ call → log.calls[index]? = some other →
          other.isStoring = false)
    (open' : new.accepted = none) :
    (log.goTo call new).Ordered backend where
  chained := ordered.chained
  behind := ordered.behind
  near := ordered.near
  level := ordered.level
  announced := ordered.announced
  proper := by
    intro other member
    rcases List.mem_or_eq_of_mem_set member with old | rfl
    · exact ordered.proper other old
    · exact proper
  storing := by
    apply pairwise_set Stage.StoreApart.symm ordered.storing
    rintro index other elsewhere found ⟨begun, begun'⟩
    rw [alone begun index other elsewhere found] at begun'
    cases begun'
  accepting := by
    apply pairwise_set Stage.AcceptApart.symm ordered.accepting
    intro index other _ _ event accepted
    rw [open'] at accepted
    cases accepted

/-- The call fails. -/
theorem Ordered.fail (ordered : log.Ordered backend) (failure : Failure) :
    (log.fail call failure).Ordered backend :=
  ordered.goTo trivial (fun begun => by cases begun) rfl

/-- The next event is stored, by the only call that may be storing one. -/
theorem Ordered.storeEvent (ordered : log.Ordered backend) (next : log.IsNext prepared)
    (alone : ∀ index other, index ≠ call → log.calls[index]? = some other → other.isStoring = false)
    {new : Stage}
    (proper : (log.storeEvent prepared.event).Proper backend new)
    (open' : new.accepted = none) :
    ((log.storeEvent prepared.event).goTo call new).Ordered backend where
  chained := chained_concat_iff.mpr ⟨ordered.chained, next.2⟩
  behind := by
    show log.writer.sequence ≤ (log.handEvents ++ [prepared.event]).length
    rw [List.length_append]
    exact Nat.le_add_right_of_le ordered.behind
  near := by
    show (log.handEvents ++ [prepared.event]).length ≤ log.writer.sequence + 1
    rw [List.length_append, next.1, List.length_singleton]
  level := by
    show log.writer.sequence = (log.handEvents ++ [prepared.event]).length → _
    rw [List.length_append, List.length_singleton, next.1]
    intro same
    omega
  announced := ordered.announced.trans (List.sublist_append_left _ [prepared.event])
  proper := by
    apply forall_mem_set proper
    intro index other elsewhere old
    have idle := alone index other elsewhere old
    have before := ordered.proper other (List.mem_of_getElem? old)
    cases other with
    | insert waiting =>
      rcases before with ⟨positive, bounded, _⟩
      refine ⟨positive, bounded, ?_⟩
      show waiting.event.body.sequence = (log.handEvents ++ [prepared.event]).length + 1 → _
      rw [List.length_append, List.length_singleton, ← next.1]
      intro same
      omega
    | finished result =>
      cases result with
      | error failure => trivial
      | ok event => exact ⟨List.mem_append_left _ before.1, before.2⟩
    | _ => cases idle
  storing := by
    apply pairwise_set Stage.StoreApart.symm ordered.storing
    rintro index other elsewhere found' ⟨_, begun⟩
    rw [alone index other elsewhere found'] at begun
    cases begun
  accepting := by
    apply pairwise_set Stage.AcceptApart.symm ordered.accepting
    intro index other _ _ event accepted
    rw [open'] at accepted
    cases accepted

/-- The call that has stored the last event returns it. -/
theorem Ordered.moveOn (ordered : log.Ordered backend)
    (found : log.calls[call]? = some stage) (storing : stage.isStoring = true)
    (last : log.IsLast prepared) : (log.moveOn call prepared).Ordered backend := by
  rcases last with ⟨earlier, events, sequence, position⟩
  have length : log.handEvents.length = prepared.event.body.sequence := by
    rw [events, position, List.length_append, List.length_singleton]
  have later : log.writer.sequence ≤ prepared.event.body.sequence := by
    rw [sequence, position]
    exact Nat.le_succ _
  exact
    { chained := ordered.chained
      behind := length.ge
      near := length.le.trans (Nat.le_succ _)
      level := by
        intro _
        show some prepared.event.eventHash = tipOf log.handEvents
        rw [events, tipOf_concat]
      announced := ordered.announced
      proper := by
        have stored : prepared.event ∈ log.handEvents := by
          rw [events]
          exact List.mem_append_right _ (List.mem_singleton_self _)
        apply forall_mem_set
        · exact ⟨stored, le_rfl⟩
        intro index other elsewhere old
        have idle := ordered.others_idle found storing index other elsewhere old
        have before := ordered.proper other (List.mem_of_getElem? old)
        cases other with
        | insert waiting =>
          rcases before with ⟨positive, bounded, linked⟩
          exact ⟨positive, bounded.trans (Nat.succ_le_succ later), linked⟩
        | finished result =>
          cases result with
          | error failure => trivial
          | ok event => exact ⟨before.1, before.2.trans later⟩
        | _ => cases idle
      storing := by
        apply pairwise_set Stage.StoreApart.symm ordered.storing
        rintro index other _ _ ⟨begun, _⟩
        cases begun
      accepting := by
        apply pairwise_set Stage.AcceptApart.symm ordered.accepting
        intro index other _ found' event accepted event' accepted' same
        cases accepted
        have before := ordered.proper other (List.mem_of_getElem? found')
        cases other with
        | finished result =>
          cases result with
          | error failure => cases accepted'
          | ok event =>
            cases accepted'
            have bound := before.2
            omega
        | _ => cases accepted' }

/-- The last event is broadcast. -/
theorem Ordered.broadcast (ordered : log.Ordered backend)
    (found : log.calls[call]? = some (.publish prepared)) :
    ({ log with broadcasts := log.broadcasts ++ [prepared.event] }.goTo call
      (.mark prepared)).Ordered backend := by
  have unsent : log.IsUnsent prepared := ordered.proper _ (List.mem_of_getElem? found)
  have idle := ordered.others_idle found rfl
  exact
    { chained := ordered.chained
      behind := ordered.behind
      near := ordered.near
      level := ordered.level
      announced := by
        rcases unsent with ⟨earlier, events, _, _, sent⟩
        show (log.broadcasts ++ [prepared.event]).Sublist log.handEvents
        rw [events]
        exact sent.append (List.Sublist.refl _)
      proper := by
        apply forall_mem_set
        · exact unsent.isLast
        intro index other elsewhere old
        have idle := idle index other elsewhere old
        have before := ordered.proper other (List.mem_of_getElem? old)
        cases other with
        | insert waiting => exact before
        | finished result =>
          cases result with
          | error failure => trivial
          | ok event => exact before
        | _ => cases idle
      storing := by
        apply pairwise_set Stage.StoreApart.symm ordered.storing
        rintro index other elsewhere found' ⟨_, begun⟩
        rw [idle index other elsewhere found'] at begun
        cases begun
      accepting := by
        apply pairwise_set Stage.AcceptApart.symm ordered.accepting
        intro index other _ _ event accepted
        cases accepted }

end EventLog

/-! ## The steps of a call -/

section Steps

variable (runtime : Runtime) (viem : Viem)

theorem Writer.persistLegacy_tip (writer : Writer) (sessionId : String) (input : EventInput) :
    (writer.persistLegacy runtime viem sessionId input).1.sequence = writer.sequence ∧
      (writer.persistLegacy runtime viem sessionId input).1.prevHash =
        writer.prevHash := by
  rw [Writer.persistLegacy]
  split <;> exact ⟨rfl, rfl⟩

/-- The canonical row does not move the tip of the table's events. -/
theorem Writer.persistCanonical_tip (config : TableConfig) (writer : Writer) (input : EventInput) :
    (writer.persistCanonical runtime viem config input).1.sequence = writer.sequence ∧
      (writer.persistCanonical runtime viem config input).1.prevHash =
        writer.prevHash := by
  rw [Writer.persistCanonical]
  split
  · exact ⟨rfl, rfl⟩
  · split
    · exact ⟨rfl, rfl⟩
    · split
      · split
        · exact ⟨rfl, rfl⟩
        · exact Writer.persistLegacy_tip runtime viem writer _ input
        · exact ⟨rfl, rfl⟩
      · exact Writer.persistLegacy_tip runtime viem writer _ input

theorem Writer.loadOnchainSession_tip
    (writer : Writer) (rows : List CanonicalRow) (session : Option String) (rowsRead : Bool) :
    (writer.loadOnchainSession rows session rowsRead).sequence = writer.sequence ∧
      (writer.loadOnchainSession rows session rowsRead).prevHash =
        writer.prevHash := by
  rw [Writer.loadOnchainSession]
  split
  · cases session.bind (lastCanonical rows) <;> exact ⟨rfl, rfl⟩
  · exact ⟨rfl, rfl⟩

namespace EventLog

variable {log : EventLog} {call : Nat} {prepared : Prepared}

/-- An insert that neither waits nor conflicts is the next event. -/
theorem Ordered.isNext_of_free {backend : Backend} (ordered : log.Ordered backend)
    (found : log.calls[call]? = some (.insert prepared))
    (free : log.isHeld backend prepared.event.body.sequence = false)
    (new : log.isStored prepared.event.body.sequence = false) : log.IsNext prepared ∧
    ∀ index other, index ≠ call → log.calls[index]? = some other → other.isStoring = false := by
  rcases ordered.proper _ (List.mem_of_getElem? found) with ⟨positive, bounded, linked⟩
  have behind := ordered.behind
  have beyond : ¬ prepared.event.body.sequence ≤ log.handEvents.length := by
    intro inside
    rw [(ordered.chained.isStored_iff _).mpr ⟨positive, inside⟩] at new
    cases new
  have position : prepared.event.body.sequence = log.handEvents.length + 1 := by omega
  have level : log.writer.sequence = log.handEvents.length := by omega
  refine ⟨⟨level, linked position, position⟩, ?_⟩
  intro index other _ found'
  have before := ordered.proper other (List.mem_of_getElem? found')
  have notLast : ∀ {last : Prepared}, ¬ log.IsLast last := by
    rintro last ⟨earlier, events, sequence, _⟩
    rw [sequence, events, List.length_append, List.length_singleton] at level
    omega
  have held : ∀ {next : Prepared}, log.IsNext next →
      other.heldSequence backend ≠ some next.event.body.sequence := by
    intro next isNext holds
    rw [isNext.2.2, ← position] at holds
    have waits : log.isHeld backend prepared.event.body.sequence = true := by
      rw [isHeld, List.any_eq_true]
      exact ⟨other, List.mem_of_getElem? found', decide_eq_true holds⟩
    rw [waits] at free
    cases free
  have notInserted : ∀ {begun : Prepared}, log.IsInserted backend begun →
      other.heldSequence backend = (if backend = .postgres then some begun.event.body.sequence
          else none) →
        other.isStoring = false := by
    intro begun inserted holds
    rw [IsInserted] at inserted
    cases backend with
    | memory => exact absurd (IsUnsent.isLast inserted) notLast
    | postgres => exact absurd holds (held inserted)
  cases other with
  | insert waiting => rfl
  | finished result => rfl
  | canonical begun row => exact notInserted before rfl
  | append begun row => exact notInserted before rfl
  | aborted begun => exact absurd rfl (held before)
  | publish begun => exact absurd before.isLast notLast
  | mark begun => exact absurd before notLast

variable (log call prepared) in
/-- The stage after the canonical row has been made. -/
theorem encode_eq (config : TableConfig) :
    ∃ writer new, log.encode runtime viem config call prepared =
          { log with writer := writer }.goTo call new ∧ writer.sequence = log.writer.sequence ∧
        writer.prevHash = log.writer.prevHash ∧ (new = .finished (.error .encoding) ∧ (∃ reason,
              (log.writer.persistCanonical runtime viem config prepared.input).2 = .error reason) ∨
          new = .append prepared none ∨ ∃ row, new = .canonical prepared row) := by
  have tip := Writer.persistCanonical_tip runtime viem config log.writer prepared.input
  refine ⟨(log.writer.persistCanonical runtime viem config prepared.input).1, ?_⟩
  rw [encode]
  split
  · rename_i reason failed
    exact ⟨_, rfl, tip.1, tip.2, Or.inl ⟨rfl, reason, failed⟩⟩
  · exact ⟨_, rfl, tip.1, tip.2, Or.inr (Or.inl rfl)⟩
  · exact ⟨_, rfl, tip.1, tip.2, Or.inr (Or.inr ⟨_, rfl⟩)⟩

/-- The insert of an event that is free. -/
theorem Ordered.inserted {config : TableConfig} (ordered : log.Ordered config.backend)
    (next : log.IsNext prepared)
    (alone : ∀ index other, index ≠ call → log.calls[index]? = some other →
        other.isStoring = false) :
    (log.inserted runtime viem config call prepared).Ordered
      config.backend := by
  rw [EventLog.inserted]
  split
  case isTrue memory =>
    rcases encode_eq runtime viem (log.storeEvent prepared.event) call prepared config with
      ⟨writer, new, same, sequence, prevHash, stages⟩
    rw [same]
    have unsent : (log.storeEvent prepared.event).IsUnsent prepared :=
      ⟨log.handEvents, rfl, next.1, next.2.2, ordered.announced⟩
    have inserted : (log.storeEvent prepared.event).IsInserted config.backend prepared := by
      rwa [IsInserted, if_pos memory]
    have stored : ((log.storeEvent prepared.event).goTo call new).Ordered
        config.backend := by
      rcases stages with ⟨rfl, _⟩ | rfl | ⟨row, rfl⟩
      · exact ordered.storeEvent next alone trivial rfl
      · exact ordered.storeEvent next alone inserted rfl
      · exact ordered.storeEvent next alone inserted rfl
    exact stored.of_same sequence prevHash rfl rfl rfl
  case isFalse transaction =>
    rcases encode_eq runtime viem log call prepared config with
      ⟨writer, new, same, sequence, prevHash, stages⟩
    rw [same]
    have inserted : log.IsInserted config.backend prepared := by
      rwa [IsInserted, if_neg transaction]
    have gone : (log.goTo call new).Ordered config.backend := by
      rcases stages with ⟨rfl, _⟩ | rfl | ⟨row, rfl⟩
      · exact ordered.goTo trivial (fun _ => alone) rfl
      · exact ordered.goTo inserted (fun _ => alone) rfl
      · exact ordered.goTo inserted (fun _ => alone) rfl
    exact gone.of_same sequence prevHash rfl rfl rfl

/-- The outbox row of the last event is written. -/
theorem Ordered.append {backend : Backend} {stage : Stage} (ordered : log.Ordered backend)
    (found : log.calls[call]? = some stage) (storing : stage.isStoring = true)
    (unsent : log.IsUnsent prepared) : (log.append call prepared).Ordered backend := by
  rw [EventLog.append]
  split
  · exact ordered.moveOn found storing unsent.isLast
  · have gone : (log.goTo call (.publish prepared)).Ordered backend :=
      ordered.goTo unsent (fun _ => ordered.others_idle found storing) rfl
    exact gone.of_same rfl rfl rfl rfl rfl

/-- The rows of a transaction are stored at its end. -/
theorem Ordered.committed {backend : Backend} {stage : Stage} (ordered : log.Ordered backend)
    (found : log.calls[call]? = some stage) (storing : stage.isStoring = true)
    (next : log.IsNext prepared) (row : Option CanonicalRow) :
    ((log.committed prepared row).append call prepared).Ordered backend ∧
      ((log.committed prepared row).fail call .store).Ordered backend := by
  have alone := ordered.others_idle found storing
  have unsent : (log.storeEvent prepared.event).IsUnsent prepared :=
    ⟨log.handEvents, rfl, next.1, next.2.2, ordered.announced⟩
  have failed : ((log.storeEvent prepared.event).fail call .store).Ordered backend :=
    ordered.storeEvent next alone trivial rfl
  have published : ((log.storeEvent prepared.event).goTo call
      (.publish prepared)).Ordered backend := ordered.storeEvent next alone unsent rfl
  have inside := (List.getElem?_eq_some_iff.mp found).1
  have here : ((log.storeEvent prepared.event).goTo call
      (.publish prepared)).calls[call]? = some (.publish prepared) := List.getElem?_set_self inside
  constructor
  · rw [EventLog.append]
    split
    · have returned := published.moveOn here rfl unsent.isLast
      cases row with
      | none =>
        exact returned.of_same rfl rfl rfl rfl (List.set_set _).symm
      | some row =>
        exact returned.of_same rfl rfl rfl rfl (List.set_set _).symm
    · cases row with
      | none => exact published.of_same rfl rfl rfl rfl rfl
      | some row => exact published.of_same rfl rfl rfl rfl rfl
  · cases row with
    | none => exact failed
    | some row => exact failed.of_same rfl rfl rfl rfl rfl

theorem Ordered.commit {config : TableConfig} {row : Option CanonicalRow}
    (ordered : log.Ordered config.backend) (found : log.calls[call]? = some (.append prepared row))
    (outcome : Outcome) : (log.commit config call prepared row outcome).Ordered config.backend := by
  have inserted : log.IsInserted config.backend prepared :=
    ordered.proper _ (List.mem_of_getElem? found)
  by_cases memory : config.backend = .memory
  · rw [IsInserted, if_pos memory] at inserted
    cases outcome with
    | succeeds =>
      rw [EventLog.commit, if_pos memory]
      exact ordered.append found rfl inserted
    | fails applied reason =>
      rw [EventLog.commit, if_pos memory]
      exact ordered.append found rfl inserted
  · rw [IsInserted, if_neg memory] at inserted
    have stored := ordered.committed found rfl inserted row
    cases outcome with
    | succeeds =>
      rw [EventLog.commit, if_neg memory]
      exact stored.1
    | fails applied reason =>
      rw [EventLog.commit, if_neg memory]
      split
      · exact stored.2
      · exact ordered.fail _

theorem Ordered.insertRow {config : TableConfig} {row : CanonicalRow}
    (ordered : log.Ordered config.backend)
    (found : log.calls[call]? = some (.canonical prepared row)) (outcome : Outcome) :
    (log.insertRow config call prepared row outcome).Ordered
      config.backend := by
  have inserted : log.IsInserted config.backend prepared :=
    ordered.proper _ (List.mem_of_getElem? found)
  have alone := ordered.others_idle found rfl
  have appended : ∀ row, (log.goTo call (.append prepared row)).Ordered config.backend :=
    fun _ => ordered.goTo inserted (fun _ => alone) rfl
  rw [EventLog.insertRow]
  split
  case isTrue memory =>
    split
    · exact (appended none).of_same rfl rfl rfl rfl rfl
    · exact appended none
  case isFalse transaction =>
    split
    · exact appended (some row)
    · rw [IsInserted, if_neg transaction] at inserted
      exact ordered.goTo inserted (fun _ => alone) rfl

theorem Ordered.insertFails {config : TableConfig} (ordered : log.Ordered config.backend)
    (found : log.calls[call]? = some (.insert prepared))
    (free : log.isHeld config.backend prepared.event.body.sequence = false)
    (applied : Bool) :
    (log.insertFails config call prepared applied).Ordered config.backend := by
  rw [EventLog.insertFails]
  split
  case isTrue stored =>
    rcases ordered.isNext_of_free found free stored.2.2 with ⟨next, alone⟩
    exact ordered.storeEvent next alone trivial rfl
  case isFalse => exact ordered.fail _

theorem Ordered.marked {backend : Backend} (ordered : log.Ordered backend)
    (found : log.calls[call]? = some (.mark prepared)) (outcome : Outcome) :
    (log.marked call prepared outcome).Ordered backend := by
  have returned := ordered.moveOn found rfl (ordered.proper _ (List.mem_of_getElem? found))
  rw [EventLog.marked]
  split
  · exact returned.of_same rfl rfl rfl rfl rfl
  · exact returned

/-- A step of a call keeps the order. -/
theorem Ordered.step {config : TableConfig} {stage : Stage} {after : EventLog} {outcome : Outcome}
    (ordered : log.Ordered config.backend) (found : log.calls[call]? = some stage)
    (stepped : log.step runtime viem config call stage outcome = .ok after) :
    after.Ordered config.backend := by
  cases stage with
  | insert prepared =>
    simp only [EventLog.step] at stepped
    split at stepped
    · cases stepped
    · rename_i free
      have free := Bool.eq_false_iff.mpr free
      cases outcome with
      | fails applied reason =>
        cases stepped
        exact ordered.insertFails found free applied
      | succeeds =>
        cases stepped
        split
        · exact ordered.fail _
        · rename_i new
          rcases ordered.isNext_of_free found free
              (Bool.eq_false_iff.mpr new) with ⟨next, alone⟩
          exact ordered.inserted runtime viem next alone
  | canonical prepared row =>
    cases stepped
    exact ordered.insertRow found outcome
  | append prepared row =>
    cases stepped
    exact ordered.commit found outcome
  | aborted prepared =>
    cases stepped
    exact ordered.fail _
  | publish prepared =>
    cases stepped
    exact ordered.broadcast found
  | mark prepared =>
    cases stepped
    exact ordered.marked found outcome
  | finished result => cases stepped

end EventLog

end Steps

/-! ## Runs of one runtime -/

/-- A restart makes another runtime. -/
def EventAction.InRuntime : EventAction → Prop
  | .restart _ _ _ => False
  | _ => True

namespace EventLog

variable {log : EventLog} {config : TableConfig}

/-- The runtime holds the tip of the stored events, and no call has begun. -/
structure AtRest (log : EventLog) : Prop where
  chained : Chained log.handEvents
  sequence : log.writer.sequence = log.handEvents.length
  prevHash : log.writer.prevHash = tipOf log.handEvents
  calls : log.calls = []
  broadcasts : log.broadcasts = []

theorem AtRest.ordered (atRest : log.AtRest) (backend : Backend) : log.Ordered backend where
  chained := atRest.chained
  behind := atRest.sequence.le
  near := atRest.sequence.ge.trans (Nat.le_succ _)
  level := fun _ => atRest.prevHash
  announced := by
    rw [atRest.broadcasts]
    exact List.nil_sublist _
  proper := by
    rw [atRest.calls]
    exact fun _ member => absurd member (List.not_mem_nil)
  storing := by
    rw [atRest.calls]
    exact List.Pairwise.nil
  accepting := by
    rw [atRest.calls]
    exact List.Pairwise.nil

/-- A call begins with the tip of the runtime. -/
theorem Ordered.persistEvent {backend : Backend} (ordered : log.Ordered backend)
    {prepared : Prepared} (sequence : prepared.event.body.sequence = log.writer.sequence + 1)
    (prevHash : prepared.event.body.prevEventHash = log.writer.prevHash) :
    { log with
      calls := log.calls ++ [Stage.insert prepared] }.Ordered backend where
  chained := ordered.chained
  behind := ordered.behind
  near := ordered.near
  level := ordered.level
  announced := ordered.announced
  proper := by
    intro stage member
    rcases List.mem_append.mp member with old | new
    · exact ordered.proper stage old
    · cases List.mem_singleton.mp new
      refine ⟨?_, sequence.le, ?_⟩
      · rw [sequence]
        exact Nat.succ_pos _
      · intro next
        rw [sequence] at next
        rw [prevHash]
        exact ordered.level (Nat.succ_injective next)
  storing := by
    refine List.pairwise_append.mpr ⟨ordered.storing, List.pairwise_singleton _ _, ?_⟩
    intro stage _ new member
    cases List.mem_singleton.mp member
    exact fun both => Bool.false_ne_true both.2
  accepting := by
    refine List.pairwise_append.mpr ⟨ordered.accepting, List.pairwise_singleton _ _, ?_⟩
    intro stage _ new member
    cases List.mem_singleton.mp member
    exact fun event _ event' accepted => by cases accepted

variable (runtime : Runtime) (viem : Viem) (sha256 : EventBody → String)

/-- Everything that one runtime does keeps the order. -/
theorem Ordered.perform {action : EventAction} {after : EventLog}
    (ordered : log.Ordered config.backend) (inRuntime : action.InRuntime)
    (performed : log.perform runtime viem sha256 config action = .ok after) :
    after.Ordered config.backend := by
  cases action with
  | persistEvent input =>
    cases performed
    apply ordered.persistEvent
    · rfl
    · rfl
  | advance call outcome =>
    rw [EventLog.perform] at performed
    cases found : log.calls[call]? with
    | none =>
      rw [found] at performed
      cases performed
    | some stage =>
      rw [found] at performed
      exact ordered.step runtime viem found performed
  | hand handId handNumber =>
    cases performed
    exact ordered.of_same rfl rfl rfl rfl rfl
  | join sessionId =>
    cases performed
    exact ordered.of_same rfl rfl rfl rfl rfl
  | loadOnchainSession session rowsRead =>
    rw [EventLog.perform] at performed
    split at performed
    · cases performed
    · cases performed
      have tip := log.writer.loadOnchainSession_tip log.canonical session rowsRead
      exact ordered.of_same tip.1 tip.2 rfl rfl rfl
  | restart session rowsRead handNumber => exact absurd inRuntime id

end EventLog

end Mozetto.GameServer
