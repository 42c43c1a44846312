import Mozetto.Outbox.Schema
import Mozetto.Outbox.Pipeline
import Mozetto.Replay.Attestations
import Mathlib.Data.List.Sort
import Mozetto.Library.TransitionSystem

/-!
# Canonical events of a table

What `persistCanonicalEvent` makes of an event before it inserts it: the next
row of `canonical_game_events`, typed where the event has a type code and a
JSON text otherwise, and the counters and tips of the runtime, which it moves
on at once.
-/

namespace Mozetto.GameServer

open Mozetto.EventStore
open Mozetto.Outbox
open Mozetto.Replay (CanonicalPokerEvent GENESIS_EVENT_HASH asHex hashEvent
  numberOf CANONICAL_SCHEMA)

/-! ## Encoding -/

/-- `canUsePokerEventV1`, in `poker_event_v1` mode or not. -/
def canUsePokerEventV1 (runtime : Runtime) (eventType : String) (prefersTyped : Bool)
    (publicPayload : Payload) : Bool :=
  prefersTyped && (mapEventTypeCode runtime eventType (some publicPayload)).isSome

structure PokerV1EncodeInput where
  sessionId : Hex
  handNumber : Int
  sequence : Int
  eventType : String
  publicPayload : Payload
  previousEventHash : Hex

section Encoding

variable (runtime : Runtime) (viem : Viem)

def protocolV3EngineHash : Hex :=
  viem.keccak256 (viem.toBytes "mozetto-nlhe-engine-v3-draft")

/-- 64 hexadecimal digits are taken in lower case, other texts are hashed. -/
def sessionIdToHex (sessionId : String) : Hex :=
  let digits :=
    if ['0', 'x'].isPrefixOf sessionId.toList then sessionId.toList.drop 2
    else sessionId.toList
  if digits.length = 64 ∧ digits.all isHexDigit then
    normalizeHex (String.ofList ('0' :: 'x' :: digits))
  else viem.keccak256 (viem.toBytes sessionId)

/-- The typed event of an input whose public payload has been hashed. -/
def PokerV1EncodeInput.event (input : PokerV1EncodeInput) (code : Int) (payload : PublicHash) :
    PokerEventV1 where
  protocolVersion := 3
  sessionId := input.sessionId
  epoch := 0
  handNumber := input.handNumber
  sequence := input.sequence
  eventType := code
  hasActorSeat := payload.hasActorSeat
  actorSeat := payload.actorSeat.num
  publicPayloadHash := payload.publicPayloadHash
  privatePayloadCommitment := ZERO_EVENT_HASH
  elapsedMs := 0
  previousEventHash := input.previousEventHash
  engineHash := protocolV3EngineHash viem

/-- The event with its hash and its bytes; `none` without a type code. -/
def encodeSinglePokerEventV1 (input : PokerV1EncodeInput) : Except String (Option StoredEvent) :=
  (mapEventTypeCode runtime input.eventType (some input.publicPayload)).elim (.ok none)
    fun code => do
      let payload ← encodePokerEventV1PublicHash runtime viem code input.publicPayload
      let hashed ← hashPokerEventV1 viem (input.event viem code payload)
      return some
        { event := input.event viem code payload
          eventHash := hashed.hash
          canonicalBytesHex := hashed.canonicalBytesHex
          unhashed := ⟨none, none, none, none⟩
          persistedAtMs := 0 }

end Encoding

/-! ## Rows -/

/-- A row of `canonical_game_events`, with the event that is typed. -/
structure CanonicalRow where
  sessionId : String
  sequence : Int
  eventHash : Hex
  previousEventHash : Hex
  eventType : String
  typed : Option StoredEvent
deriving DecidableEq

/-- What the runtime keeps between events. -/
structure Writer where
  sequence : Nat
  prevHash : Option String
  onchainSessionId : Option String
  canonicalSequence : Int
  canonicalPrevHash : Hex
  pokerV1Sequence : Int
  pokerV1PrevHash : Option Hex
  handId : Option String
  handNumber : Int
deriving DecidableEq

/-- A table, as it is configured. -/
structure TableConfig where
  tableId : String
  isOnchain : Bool
  prefersTyped : Bool
  backend : Backend
deriving DecidableEq

/-- The arguments of `persistEvent`, and the time; the payload is JSON. -/
structure EventInput where
  eventType : String
  payload : Payload
  visibility : OutboxVisibility
  timestamp : String
  nowMs : Int

namespace Writer

variable (runtime : Runtime) (viem : Viem)
variable (config : TableConfig) (writer : Writer)

/-- The counter is moved on before anything is encoded. -/
def counted : Writer := { writer with canonicalSequence := writer.canonicalSequence + 1 }

def encodeInput (sessionId : String) (input : EventInput) : PokerV1EncodeInput where
  sessionId := sessionIdToHex viem sessionId
  handNumber := writer.handNumber
  sequence := writer.pokerV1Sequence
  eventType := input.eventType
  publicPayload := input.payload
  previousEventHash := writer.pokerV1PrevHash.getD ZERO_EVENT_HASH

/-- The row of a typed event. -/
def typedRow (sessionId : String) (input : EventInput) (stored : StoredEvent) : CanonicalRow where
  sessionId := sessionId
  sequence := writer.counted.canonicalSequence
  eventHash := stored.eventHash
  previousEventHash := stored.event.previousEventHash
  eventType := input.eventType
  typed := some stored

/-- The runtime after a typed event has been encoded. -/
def afterTyped (stored : StoredEvent) : Writer :=
  { writer.counted with
    pokerV1PrevHash := some stored.eventHash
    pokerV1Sequence := writer.pokerV1Sequence + 1
    canonicalPrevHash := stored.eventHash }

def canonicalEvent (sessionId : String) (input : EventInput) : CanonicalPokerEvent where
  schemaVersion := CANONICAL_SCHEMA
  sessionId := sessionId
  handId := writer.handId
  sequence := numberOf runtime writer.counted.canonicalSequence
  eventType := input.eventType
  publicPayload := .object input.payload
  privatePayloadCommitment := none
  previousEventHash := writer.canonicalPrevHash
  timestampMs := numberOf runtime input.nowMs

def legacyRow (sessionId : String) (input : EventInput) (hash : Hex) : CanonicalRow where
  sessionId := sessionId
  sequence := writer.counted.canonicalSequence
  eventHash := hash
  previousEventHash := writer.canonicalPrevHash
  eventType := input.eventType
  typed := none

/-- The runtime and the row of an event that is kept as a JSON text. -/
def persistLegacy (sessionId : String) (input : EventInput) :
    Writer × Except String (Option CanonicalRow) :=
  match hashEvent viem runtime (writer.canonicalEvent runtime sessionId input) with
  | .error reason => (writer.counted, .error reason)
  | .ok hash =>
      ({ writer.counted with canonicalPrevHash := hash },
        .ok (some (writer.legacyRow sessionId input hash)))

/--
The runtime and the row of an event; no row for an event that is not
canonical, an error for one that cannot be encoded.
-/
def persistCanonical (input : EventInput) : Writer × Except String (Option CanonicalRow) :=
  match writer.onchainSessionId with
  | none => (writer, .ok none)
  | some sessionId =>
      if config.isOnchain = false ∨ input.visibility = .ownerPrivate then
        (writer, .ok none)
      else if canUsePokerEventV1 runtime input.eventType config.prefersTyped input.payload then
        match encodeSinglePokerEventV1 runtime viem (writer.encodeInput viem sessionId input) with
        | .error reason => (writer.counted, .error reason)
        | .ok none => writer.persistLegacy runtime viem sessionId input
        | .ok (some stored) =>
            (writer.afterTyped stored, .ok (some (writer.typedRow sessionId input stored)))
      else writer.persistLegacy runtime viem sessionId input

/-- The tip that the roots of a hand and the settlement use. -/
def settlementTip : Hex := writer.pokerV1PrevHash.getD writer.canonicalPrevHash

end Writer

end Mozetto.GameServer

/-!
## Writing the events of a table

Any number of calls of `persistEvent` of one runtime, in single steps between
their awaits.  A call reads the tip of the runtime when it begins, inserts the
event, the canonical row and the outbox row (in one transaction with the
Postgres outbox, one by one with the outbox in memory), broadcasts the event
and then moves the tip on.  A transaction that inserts a sequence makes others
that insert the same one wait until it has ended.
-/

namespace Mozetto.GameServer

open Mozetto.EventStore
open Mozetto.Library.TransitionSystem
open Mozetto.Outbox
open Mozetto.Replay (GENESIS_EVENT_HASH)

/-! ### Events -/

/-- What is hashed of an event. -/
structure EventBody where
  tableId : String
  handId : Option String
  sequence : Nat
  eventType : String
  timestamp : String
  payload : Payload
  prevEventHash : Option String

structure TableEvent where
  body : EventBody
  eventHash : String
  visibility : OutboxVisibility

/-- An event that a call is about to store, with the key of its outbox row. -/
structure Prepared where
  event : TableEvent
  input : EventInput
  sessionId : String

/-- Why a call has failed. -/
inductive Failure where
  | store
  | conflict
  | encoding
  | crashed
deriving DecidableEq

/-- Where a call stands, and the canonical row that it is about to store. -/
inductive Stage where
  | insert (prepared : Prepared)
  | canonical (prepared : Prepared) (row : CanonicalRow)
  | append (prepared : Prepared) (row : Option CanonicalRow)
  | aborted (prepared : Prepared)
  | publish (prepared : Prepared)
  | mark (prepared : Prepared)
  | finished (result : Except Failure TableEvent)

/-- The runtime, the tables, the calls, and what has been broadcast. -/
structure EventLog where
  writer : Writer
  handEvents : List TableEvent
  canonical : List CanonicalRow
  outbox : String → Nat → Option OutboxStatus
  calls : List Stage
  broadcasts : List TableEvent

/-! ### Recovery of the tip -/

/-- The hash and sequence of the last event that continues the chain. -/
structure ActorTip where
  sequence : Nat
  prevHash : Option String
  sequenceGap : Bool
deriving DecidableEq

/-- The loop of `replayDurableEvents` after its first event. -/
def replayFrom (tip : TableEvent) : List TableEvent → ActorTip
  | [] => ⟨tip.body.sequence, some tip.eventHash, false⟩
  | event :: rest =>
      if event.body.sequence ≠ tip.body.sequence + 1 then
        ⟨tip.body.sequence, some tip.eventHash, true⟩
      else if event.body.prevEventHash ≠ some tip.eventHash ∨
            event.eventHash = "" then
        ⟨tip.body.sequence, some tip.eventHash, false⟩
      else replayFrom event rest

def noEvents : ActorTip := ⟨0, none, false⟩

def replayDurableEvents (events : List TableEvent) : ActorTip :=
  match events.insertionSort (fun first second =>
      first.body.sequence ≤ second.body.sequence) with
  | [] => noEvents
  | first :: rest =>
      if first.body.sequence = 1 ∧
            first.body.prevEventHash.getD "" ≠ "" ∨
          first.eventHash = "" then
        noEvents
      else replayFrom first rest

/-- The events of a table that is loaded; a suffix after a gap is deleted. -/
def prunedEvents (events : List TableEvent) : List TableEvent :=
  if (replayDurableEvents events).sequenceGap then
    events.filter fun event =>
      event.body.sequence ≤ (replayDurableEvents events).sequence
  else events

/-! ### Steps of a call -/

namespace EventLog

variable (log : EventLog)

def goTo (call : Nat) (stage : Stage) : EventLog := { log with calls := log.calls.set call stage }

def fail (call : Nat) (failure : Failure) : EventLog := log.goTo call (.finished (.error failure))

section Calls

variable (runtime : Runtime) (viem : Viem) (sha256 : EventBody → String)
variable (config : TableConfig)

/-- The body that is hashed, read off the tip of the runtime. -/
def nextBody (input : EventInput) : EventBody where
  tableId := config.tableId
  handId := log.writer.handId
  sequence := log.writer.sequence + 1
  eventType := input.eventType
  timestamp := input.timestamp
  payload := input.payload
  prevEventHash := log.writer.prevHash

def prepare (input : EventInput) : Prepared where
  event :=
    { body := log.nextBody config input
      eventHash := sha256 (log.nextBody config input)
      visibility := input.visibility }
  input := input
  sessionId := log.writer.onchainSessionId.getD config.tableId

end Calls

end EventLog

/-- The sequence that an open transaction has inserted. -/
def Stage.heldSequence (backend : Backend) : Stage → Option Nat
  | .canonical prepared _ =>
      if backend = .postgres then some prepared.event.body.sequence else none
  | .append prepared _ =>
      if backend = .postgres then some prepared.event.body.sequence else none
  | .aborted prepared => some prepared.event.body.sequence
  | _ => none

namespace EventLog

variable (log : EventLog)

/-- Another transaction has inserted the sequence and has not ended. -/
def isHeld (backend : Backend) (sequence : Nat) : Bool :=
  log.calls.any fun stage => stage.heldSequence backend = some sequence

/-- An event with the sequence is stored. -/
def isStored (sequence : Nat) : Bool :=
  log.handEvents.any fun event => event.body.sequence = sequence

/-- A canonical row with the sequence in its session, or the hash, is stored. -/
def collides (row : CanonicalRow) : Bool :=
  log.canonical.any fun stored =>
    (stored.sessionId = row.sessionId ∧ stored.sequence = row.sequence) ∨
      stored.eventHash = row.eventHash

def storeEvent (event : TableEvent) : EventLog :=
  { log with handEvents := log.handEvents ++ [event] }

def storeRow (row : CanonicalRow) : EventLog := { log with canonical := log.canonical ++ [row] }

def setOutbox (sessionId : String) (sequence : Nat) (status : OutboxStatus) :
    EventLog :=
  { log with
    outbox := fun session place =>
      if session = sessionId ∧ place = sequence then some status
      else log.outbox session place }

/-- The tip of the runtime is moved on, and the call returns. -/
def moveOn (call : Nat) (prepared : Prepared) : EventLog :=
  { log with
    writer :=
      { log.writer with
        sequence := prepared.event.body.sequence
        prevHash := some prepared.event.eventHash } }.goTo
    call (.finished (.ok prepared.event))

/-- The outbox row is written; one that was published stays published. -/
def append (call : Nat) (prepared : Prepared) : EventLog :=
  if log.outbox prepared.sessionId prepared.event.body.sequence = some .published then
    log.moveOn call prepared
  else
    (log.setOutbox prepared.sessionId prepared.event.body.sequence
      .pending).goTo call (.publish prepared)

section Calls

variable (runtime : Runtime) (viem : Viem) (config : TableConfig)

/-- The canonical row is made as soon as the event is inserted. -/
def encode (call : Nat) (prepared : Prepared) : EventLog :=
  let made := log.writer.persistCanonical runtime viem config prepared.input
  match made.2 with
  | .error _ => { log with writer := made.1 }.fail call .encoding
  | .ok none => { log with writer := made.1 }.goTo call (.append prepared none)
  | .ok (some row) =>
      { log with writer := made.1 }.goTo call (.canonical prepared row)

/-- The insert of the event, which is stored at once without a transaction. -/
def inserted (call : Nat) (prepared : Prepared) : EventLog :=
  if config.backend = .memory then
    (log.storeEvent prepared.event).encode runtime viem config call prepared
  else log.encode runtime viem config call prepared

/-- A failing insert may have been carried out, outside a transaction. -/
def insertFails (call : Nat) (prepared : Prepared) (applied : Bool) :
    EventLog :=
  if config.backend = .memory ∧ applied ∧ log.isStored prepared.event.body.sequence = false then
    (log.storeEvent prepared.event).fail call .store
  else log.fail call .store

/--
The insert of the canonical row.  Its failure is swallowed; a transaction that
it belongs to cannot go on after it.
-/
def insertRow (call : Nat) (prepared : Prepared) (row : CanonicalRow)
    (outcome : Outcome) : EventLog :=
  if config.backend = .memory then
    (if outcome.applied ∧ log.collides row = false then log.storeRow row
      else log).goTo call (.append prepared none)
  else if outcome = .succeeds ∧ log.collides row = false then
    log.goTo call (.append prepared (some row))
  else log.goTo call (.aborted prepared)

/-- The end of the transaction: all rows are stored. -/
def committed (prepared : Prepared) (row : Option CanonicalRow) : EventLog :=
  row.elim (log.storeEvent prepared.event) (log.storeEvent prepared.event).storeRow

/-- The outbox row is written, in a transaction that then commits. -/
def commit (call : Nat) (prepared : Prepared) (row : Option CanonicalRow) : Outcome → EventLog
  | .succeeds =>
      if config.backend = .memory then log.append call prepared
      else (log.committed prepared row).append call prepared
  | .fails applied _ =>
      if config.backend = .memory then log.append call prepared
      else if applied then (log.committed prepared row).fail call .store
      else log.fail call .store

/-- The event has been broadcast; marking it published may fail. -/
def marked (call : Nat) (prepared : Prepared) (outcome : Outcome) : EventLog :=
  (if outcome.applied then
    log.setOutbox prepared.sessionId prepared.event.body.sequence .published
  else log).moveOn call prepared

/-- The next step of a call; a call that has to wait has none. -/
def step (call : Nat) : Stage → Outcome → Except Unit EventLog
  | .insert prepared, outcome =>
      if log.isHeld config.backend prepared.event.body.sequence then .error ()
      else
        match outcome with
        | .fails applied _ =>
            .ok (log.insertFails config call prepared applied)
        | .succeeds =>
            .ok (if log.isStored prepared.event.body.sequence then
                log.fail call .conflict
              else log.inserted runtime viem config call prepared)
  | .canonical prepared row, outcome =>
      .ok (log.insertRow config call prepared row outcome)
  | .append prepared row, outcome =>
      .ok (log.commit config call prepared row outcome)
  | .aborted _, _ => .ok (log.fail call .store)
  | .publish prepared, _ =>
      .ok ({ log with broadcasts := log.broadcasts ++ [prepared.event] }.goTo call (.mark prepared))
  | .mark prepared, outcome => .ok (log.marked call prepared outcome)
  | .finished _, _ => .error ()

end Calls

end EventLog

/-! ### Sessions and restarts -/

/-- A hash with its prefix. -/
def withHexPrefix (hash : Hex) : Hex :=
  if ['0', 'x'].isPrefixOf hash.toList then hash
  else String.ofList ('0' :: 'x' :: hash.toList)

/-- The row of a session with the greatest sequence. -/
def lastCanonical (rows : List CanonicalRow) (sessionId : String) :
    Option CanonicalRow :=
  (rows.filter (·.sessionId = sessionId)).foldl (fun last row =>
      if last.all (·.sequence ≤ row.sequence) then some row else last)
    none

/--
`loadOnchainSession`, which found a session or none; reading the last row of
the session may fail.
-/
def Writer.loadOnchainSession (writer : Writer) (rows : List CanonicalRow)
    (found : Option String) (rowsRead : Bool) : Writer :=
  let entered := { writer with onchainSessionId := found }
  if rowsRead then
    (found.bind (lastCanonical rows)).elim entered fun last =>
      { entered with
        canonicalSequence := last.sequence
        canonicalPrevHash := withHexPrefix last.eventHash }
  else entered

/-- The runtime that `TableRuntime.load` makes of the stored rows. -/
def loadedWriter (viem : Viem) (config : TableConfig)
    (events : List TableEvent) (rows : List CanonicalRow)
    (found : Option String) (rowsRead : Bool) (handNumber : Int) : Writer :=
  let tip := replayDurableEvents (prunedEvents events)
  let fresh : Writer :=
    { sequence := tip.sequence
      prevHash := tip.prevHash
      onchainSessionId := none
      canonicalSequence := 0
      canonicalPrevHash := GENESIS_EVENT_HASH viem
      pokerV1Sequence := 0
      pokerV1PrevHash := none
      handId := none
      handNumber := handNumber }
  if config.isOnchain then fresh.loadOnchainSession rows found rowsRead
  else fresh

/-- A call that had not returned is gone after a restart. -/
def Stage.crash : Stage → Stage
  | .finished result => .finished result
  | _ => .finished (.error .crashed)

/-! ### Runs -/

inductive EventAction where
  | persistEvent (input : EventInput)
  | advance (call : Nat) (outcome : Outcome)
  | hand (handId : Option String) (handNumber : Int)
  | join (sessionId : String)
  | loadOnchainSession (found : Option String) (rowsRead : Bool)
  | restart (found : Option String) (rowsRead : Bool) (handNumber : Int)

section Runs

variable (runtime : Runtime) (viem : Viem) (sha256 : EventBody → String)
variable (config : TableConfig)

def EventLog.perform (log : EventLog) : EventAction → Except Unit EventLog
  | .persistEvent input =>
      .ok
        { log with
          calls := log.calls ++ [.insert (log.prepare sha256 config input)] }
  | .advance call outcome =>
      log.calls[call]?.elim (.error ()) fun stage =>
        log.step runtime viem config call stage outcome
  | .hand handId handNumber =>
      .ok
        { log with
          writer := { log.writer with handId := handId, handNumber := handNumber } }
  | .join sessionId =>
      .ok
        { log with
          writer := { log.writer with onchainSessionId := some sessionId } }
  | .loadOnchainSession found rowsRead =>
      if log.writer.onchainSessionId.isSome then .error ()
      else
        .ok
          { log with
            writer := log.writer.loadOnchainSession log.canonical found rowsRead }
  | .restart found rowsRead handNumber =>
      .ok
        { log with
          writer :=
            loadedWriter viem config log.handEvents log.canonical found rowsRead handNumber
          handEvents := prunedEvents log.handEvents
          calls := log.calls.map Stage.crash }

/-- All runs of the calls of one table, from the given states. -/
def eventRuns (initially : EventLog → Prop) : System EventLog EventAction Unit where
  initial := initially
  step := EventLog.perform runtime viem sha256 config

end Runs

end Mozetto.GameServer
