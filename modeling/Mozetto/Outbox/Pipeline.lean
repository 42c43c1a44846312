import Mathlib.Data.List.Sort
import Mathlib.Tactic.Common
import Mozetto.Library.TransitionSystem

/-!
# Stores of outbox messages

An outbox keeps a row for each session, epoch and sequence until the event has
been broadcast.  There is a store in memory and one in Postgres; they differ
in what an append does to a row that exists, and in the order in which pending
rows are listed.  The payload is kept as its JSON text.
-/

namespace Mozetto.Outbox

inductive SchemaKind where
  | legacyJson
  | pokerEventV1
deriving DecidableEq, Repr

inductive OutboxVisibility where
  | isPublic
  | ownerPrivate
  | system
deriving DecidableEq, Repr

inductive OutboxStatus where
  | pending
  | published
  | failed
deriving DecidableEq, Repr

structure OutboxMessage where
  id : Nat
  sessionId : String
  tableId : Option String
  epoch : Int
  sequence : Int
  eventHash : String
  channel : String
  payload : String
  schemaKind : SchemaKind
  visibility : OutboxVisibility
  status : OutboxStatus
  attempts : Nat
  lastError : Option String
  createdAtMs : Int
  publishedAtMs : Option Int
deriving DecidableEq, Repr

/-- The input of an append; `none` stands for a field left out. -/
structure AppendOutboxInput where
  sessionId : String
  tableId : Option String
  epoch : Option Int
  sequence : Int
  eventHash : String
  channel : Option String
  payload : String
  schemaKind : Option SchemaKind
  visibility : Option OutboxVisibility
deriving DecidableEq, Repr

/-! ## Keys and contents -/

/-- What identifies an event. -/
def OutboxMessage.key (message : OutboxMessage) : String × Int × Int :=
  (message.sessionId, message.epoch, message.sequence)

def AppendOutboxInput.key (input : AppendOutboxInput) : String × Int × Int :=
  (input.sessionId, input.epoch.getD 0, input.sequence)

/-- What is said about the event. -/
def OutboxMessage.content (message : OutboxMessage) : String × String :=
  (message.eventHash, message.payload)

def AppendOutboxInput.content (input : AppendOutboxInput) : String × String :=
  (input.eventHash, input.payload)

/-! ## Rows -/

/-- The rows of a store, in the order of insertion. -/
structure Rows where
  rows : List OutboxMessage
  nextId : Nat
deriving DecidableEq, Repr

inductive Backend where
  | memory
  | postgres
deriving DecidableEq, Repr

/-- A row with the fields of an input, to be published. -/
def freshRow (input : AppendOutboxInput) (id : Nat) (now : Int) : OutboxMessage where
  id := id
  sessionId := input.sessionId
  tableId := input.tableId
  epoch := input.epoch.getD 0
  sequence := input.sequence
  eventHash := input.eventHash
  channel := input.channel.getD "table:public"
  payload := input.payload
  schemaKind := input.schemaKind.getD .legacyJson
  visibility := input.visibility.getD .isPublic
  status := .pending
  attempts := 0
  lastError := none
  createdAtMs := now
  publishedAtMs := none

/-- The update of an existing row when its key is inserted in Postgres. -/
def onConflict (input : AppendOutboxInput) (row : OutboxMessage) :
    OutboxMessage :=
  { row with
    eventHash := input.eventHash
    channel := input.channel.getD "table:public"
    payload := input.payload
    schemaKind := input.schemaKind.getD .legacyJson
    visibility := input.visibility.getD .isPublic
    status := if row.status = .published then .published else .pending
    attempts := if row.status = .published then row.attempts else 0
    lastError := if row.status = .published then row.lastError else none }

/-- What an append leaves in the place of an existing row. -/
def appendOver (backend : Backend) (input : AppendOutboxInput)
    (row : OutboxMessage) : OutboxMessage :=
  match backend with
  | .memory =>
      if row.status = .published then row
      else freshRow input row.id row.createdAtMs
  | .postgres => onConflict input row

/-- Change the row with an id; without one nothing happens. -/
def Rows.change (store : Rows) (id : Nat) (update : OutboxMessage → OutboxMessage) :
    Rows :=
  { store with
    rows := store.rows.map fun row => if row.id = id then update row else row }

def Rows.withKey (store : Rows) (key : String × Int × Int) :
    Option OutboxMessage :=
  store.rows.find? fun row => row.key = key

/-- The row is returned as it then stands. -/
def Rows.appendPending (store : Rows) (backend : Backend) (now : Int)
    (input : AppendOutboxInput) : Rows × OutboxMessage :=
  match store.withKey input.key with
  | some row =>
      (store.change row.id (appendOver backend input), appendOver backend input row)
  | none =>
      let row := freshRow input store.nextId now
      ({ rows := store.rows ++ [row], nextId := store.nextId + 1 }, row)

def Rows.markPublished (store : Rows) (now : Int) (id : Nat) : Rows :=
  store.change id fun row =>
    { row with
      status := .published
      publishedAtMs := some now
      lastError := none }

/-- Errors are cut after 2000 characters. -/
def Rows.bumpAttempt (store : Rows) (id : Nat) (error : String) : Rows :=
  store.change id fun row =>
    { row with
      status := .pending
      attempts := row.attempts + 1
      lastError := some (String.ofList (error.toList.take 2000)) }

/-! ## Listing -/

structure ListOptions where
  tableId : Option String
  sessionId : Option String
  limit : Option Nat
deriving DecidableEq, Repr

/-- A filter that is left out or empty lets every row pass. -/
def passes (filter : Option String) (value : Option String) : Bool :=
  match filter with
  | none => true
  | some text => text = "" || value = some text

def byCreation (row other : OutboxMessage) : Prop :=
  row.createdAtMs < other.createdAtMs ∨
    row.createdAtMs = other.createdAtMs ∧ row.sequence ≤ other.sequence

def byEpoch (row other : OutboxMessage) : Prop :=
  row.epoch < other.epoch ∨ row.epoch = other.epoch ∧ row.sequence ≤ other.sequence

instance : DecidableRel byCreation := fun _ _ =>
  inferInstanceAs (Decidable (_ ∨ _ ∧ _))

instance : DecidableRel byEpoch := fun _ _ =>
  inferInstanceAs (Decidable (_ ∨ _ ∧ _))

/-- Postgres looks at the table first and at the session only without one. -/
def Rows.listPending (store : Rows) (backend : Backend) (options : ListOptions) :
    List OutboxMessage :=
  let pending := store.rows.filter fun row => row.status = .pending
  let limit := options.limit.getD 500
  match backend with
  | .memory =>
      let rows := pending.filter fun row =>
        passes options.tableId row.tableId && passes options.sessionId (some row.sessionId)
      (rows.insertionSort byCreation).take limit
  | .postgres =>
      if passes options.tableId none = false then
        let rows := pending.filter fun row =>
          passes options.tableId row.tableId
        (rows.insertionSort byCreation).take limit
      else if passes options.sessionId none = false then
        let rows := pending.filter fun row =>
          passes options.sessionId (some row.sessionId)
        (rows.insertionSort byEpoch).take limit
      else
        (pending.insertionSort fun row other =>
          row.createdAtMs ≤ other.createdAtMs).take limit

variable {store : Rows} {backend : Backend} {options : ListOptions}
variable {input : AppendOutboxInput} {row message : OutboxMessage}
variable {id : Nat} {now : Int} {update : OutboxMessage → OutboxMessage}

/-- Only rows of the store are listed. -/
theorem mem_of_listed (listed : row ∈ store.listPending backend options) : row ∈ store.rows := by
  cases backend with
  | memory =>
    have sorted := List.mem_of_mem_take listed
    rw [List.mem_insertionSort, List.mem_filter, List.mem_filter] at sorted
    exact sorted.1.1
  | postgres =>
    simp only [Rows.listPending] at listed
    split at listed
    case isTrue =>
      have sorted := List.mem_of_mem_take listed
      rw [List.mem_insertionSort, List.mem_filter, List.mem_filter] at sorted
      exact sorted.1.1
    case isFalse =>
      split at listed
      case isTrue =>
        have sorted := List.mem_of_mem_take listed
        rw [List.mem_insertionSort, List.mem_filter, List.mem_filter] at sorted
        exact sorted.1.1
      case isFalse =>
        have sorted := List.mem_of_mem_take listed
        rw [List.mem_insertionSort, List.mem_filter] at sorted
        exact sorted.1

/-! ## Rows after a change -/

theorem mem_change : message ∈ (store.change id update).rows ↔ ∃ row ∈ store.rows,
      (if row.id = id then update row else row) = message := by
  rw [Rows.change, List.mem_map]

/-- A change that keeps a field of the changed rows keeps the field's list. -/
theorem map_change {α : Type} {field : OutboxMessage → α}
    (same : ∀ row ∈ store.rows, row.id = id → field (update row) = field row) :
    (store.change id update).rows.map field = store.rows.map field := by
  rw [Rows.change, List.map_map]
  refine List.map_congr_left fun row member => ?_
  by_cases equal : row.id = id
  · simp [equal, same row member equal]
  · simp [equal]

theorem withKey_eq_some (found : store.withKey input.key = some row) :
    row ∈ store.rows ∧ row.key = input.key := by
  have key := List.find?_some found
  exact ⟨List.mem_of_find?_eq_some found, of_decide_eq_true key⟩

theorem key_ne_of_withKey_eq_none (missing : store.withKey input.key = none)
    (member : row ∈ store.rows) : row.key ≠ input.key := by
  have differs := List.find?_eq_none.mp missing row member
  simpa using differs

@[simp]
theorem key_freshRow : (freshRow input id now).key = input.key := rfl

@[simp]
theorem content_freshRow : (freshRow input id now).content = input.content := rfl

/-- An append over a row keeps its id. -/
@[simp]
theorem id_appendOver : (appendOver backend input row).id = row.id := by
  cases backend with
  | memory =>
    rw [appendOver]
    split <;> rfl
  | postgres => rfl

theorem key_appendOver (same : row.key = input.key) :
    (appendOver backend input row).key = row.key := by
  cases backend with
  | memory =>
    rw [appendOver]
    split
    · rfl
    · exact same.symm
  | postgres => rfl

/-- Only the store in memory leaves a row's content, if it was published. -/
theorem content_appendOver : (appendOver backend input row).content =
    if backend = .memory ∧ row.status = .published then row.content
    else input.content := by
  cases backend with
  | memory =>
    rw [appendOver]
    by_cases published : row.status = .published <;> simp [published]
  | postgres => rfl

theorem status_appendOver : (appendOver backend input row).status =
    if row.status = .published then .published else .pending := by
  cases backend with
  | memory =>
    rw [appendOver]
    by_cases published : row.status = .published
    · simp [published]
    · simp [published, freshRow]
  | postgres => rfl

end Mozetto.Outbox

/-!
## Persist before broadcast

Any number of calls of `persistThenBroadcast` and of recovery passes over one
store.  Each call is a task that moves in single steps, one for each awaited
operation; every operation may fail, before or after it has taken effect, and
a task may vanish in a crash.  A log records what was written, appended, given
to `publish` and delivered.
-/

namespace Mozetto.Outbox

open Mozetto.Library.TransitionSystem

/-! ### Tasks -/

/-- Where a call stands; the lists are what remains to be done. -/
inductive Task where
  | write (outbox : AppendOutboxInput) (atomicPersist : Bool)
  | append (outbox : AppendOutboxInput)
  | list (remaining : List ListOptions)
  | deliver (messages : List OutboxMessage) (remaining : List ListOptions)
  | publishing (message : OutboxMessage) (messages : List OutboxMessage)
      (remaining : List ListOptions)
  | mark (message : OutboxMessage) (messages : List OutboxMessage) (remaining : List ListOptions)
  | bump (message : OutboxMessage) (error : String)
      (messages : List OutboxMessage) (remaining : List ListOptions)
  | finished
deriving DecidableEq, Repr

/-- The messages a task holds. -/
def Task.held : Task → List OutboxMessage
  | deliver messages _ => messages
  | publishing message messages _ => message :: messages
  | mark message messages _ => message :: messages
  | bump message _ messages _ => message :: messages
  | _ => []

/-- What the log records; the number is that of the call. -/
inductive Entry where
  | wrote (call : Nat) (outbox : AppendOutboxInput)
  | appended (call : Nat) (outbox : AppendOutboxInput) (id : Nat)
  | published (call : Nat) (message : OutboxMessage)
  | delivered (call : Nat) (message : OutboxMessage)
deriving DecidableEq, Repr

/-- The store, the calls so far, and the log with its newest entry first. -/
structure Pipeline where
  store : Rows
  tasks : List Task
  log : List Entry
deriving DecidableEq, Repr

/-- An operation that fails may still have been carried out. -/
inductive Outcome where
  | succeeds
  | fails (applied : Bool) (error : String)
deriving DecidableEq, Repr

def Outcome.applied : Outcome → Bool
  | succeeds => true
  | fails applied _ => applied

/-! ### Steps of a task -/

def Pipeline.note (outbox : Pipeline) (entry : Entry) : Pipeline :=
  { outbox with log := entry :: outbox.log }

def Pipeline.goTo (outbox : Pipeline) (call : Nat) (task : Task) : Pipeline :=
  { outbox with tasks := outbox.tasks.set call task }

def Pipeline.change (outbox : Pipeline) (store : Rows) : Pipeline := { outbox with store := store }

def Pipeline.append (state : Pipeline) (backend : Backend) (now : Int) (call : Nat)
    (outbox : AppendOutboxInput) : Pipeline :=
  let appended := state.store.appendPending backend now outbox
  (state.change appended.1).note (.appended call outbox appended.2.id)

/-- After an append: a row that was published before is left alone. -/
def afterAppend (message : OutboxMessage) : Task :=
  if message.status = .published then .finished else .deliver [message] []

/-- The message that an append returns. -/
def Pipeline.appendedMessage (state : Pipeline) (backend : Backend) (now : Int)
    (outbox : AppendOutboxInput) : OutboxMessage := (state.store.appendPending backend now outbox).2

def Pipeline.step (state : Pipeline) (backend : Backend) (now : Int) (call : Nat) :
    Task → Outcome → Pipeline
  | .write outbox false, .succeeds =>
      (state.note (.wrote call outbox)).goTo call (.append outbox)
  | .write outbox false, .fails applied _ =>
      (if applied then state.note (.wrote call outbox) else state).goTo call .finished
  | .write outbox true, .succeeds =>
      ((state.note (.wrote call outbox)).append backend now call outbox).goTo
        call (afterAppend (state.appendedMessage backend now outbox))
  | .write outbox true, .fails applied _ =>
      (if applied then
        (state.note (.wrote call outbox)).append backend now call outbox
      else state).goTo call .finished
  | .append outbox, .succeeds =>
      (state.append backend now call outbox).goTo call
        (afterAppend (state.appendedMessage backend now outbox))
  | .append outbox, .fails applied _ =>
      (if applied then state.append backend now call outbox else state).goTo call .finished
  | .list (options :: remaining), .succeeds =>
      state.goTo call (.deliver (state.store.listPending backend options) remaining)
  | .list _, _ => state.goTo call .finished
  | .deliver [] remaining, _ => state.goTo call (.list remaining)
  | .deliver (message :: messages) remaining, _ =>
      (state.note (.published call message)).goTo call (.publishing message messages remaining)
  | .publishing message messages remaining, .succeeds =>
      (state.note (.delivered call message)).goTo call (.mark message messages remaining)
  | .publishing message messages remaining, .fails _ error =>
      state.goTo call (.bump message error messages remaining)
  | .mark message messages remaining, .succeeds =>
      (state.change (state.store.markPublished now message.id)).goTo call
        (.deliver messages remaining)
  | .mark message messages remaining, .fails applied error =>
      (if applied then
        state.change (state.store.markPublished now message.id)
      else state).goTo call (.bump message error messages remaining)
  | .bump message error messages remaining, outcome =>
      (if outcome.applied then
        state.change (state.store.bumpAttempt message.id error)
      else state).goTo call (.deliver messages remaining)
  | .finished, _ => state

/-! ### Runs -/

inductive Action where
  | persistThenBroadcast (outbox : AppendOutboxInput) (atomicPersist : Bool)
  | drainPendingOutbox (options : ListOptions)
  | recoverUndeliveredOutbox (tableId : String) (sessionId : Option String) (limit : Option Nat)
  | advance (call : Nat) (outcome : Outcome) (now : Int)
  | crash (call : Nat)
deriving DecidableEq, Repr

/-- The listings of a recovery: by table, then by session if there is one. -/
def recoveryPasses (tableId : String) (sessionId : Option String) (limit : Option Nat) :
    List ListOptions :=
  ⟨some tableId, none, limit⟩ :: match sessionId with
    | none => []
    | some session =>
        if session = "" then [] else [⟨none, some session, limit⟩]

def Pipeline.begin (state : Pipeline) (task : Task) : Pipeline :=
  { state with tasks := state.tasks ++ [task] }

def Pipeline.perform (backend : Backend) (state : Pipeline) : Action → Except String Pipeline
  | .persistThenBroadcast outbox atomicPersist =>
      .ok (state.begin (.write outbox atomicPersist))
  | .drainPendingOutbox options => .ok (state.begin (.list [options]))
  | .recoverUndeliveredOutbox tableId sessionId limit =>
      .ok (state.begin (.list (recoveryPasses tableId sessionId limit)))
  | .advance call outcome now =>
      match state.tasks[call]? with
      | some task => .ok (state.step backend now call task outcome)
      | none => .error "no such call"
  | .crash call => .ok (state.goTo call .finished)

def emptyOutbox : Pipeline := ⟨⟨[], 0⟩, [], []⟩

/-- All runs over one store that is empty at first. -/
def outboxRuns (backend : Backend) : System Pipeline Action String where
  initial := fun state => state = emptyOutbox
  step := Pipeline.perform backend

end Mozetto.Outbox
