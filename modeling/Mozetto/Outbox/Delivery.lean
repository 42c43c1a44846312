import Mozetto.Outbox.Pipeline

/-!
# What the pipeline guarantees

Nothing is published before it was written and appended, a row stays pending
until its content was delivered, and one key is published with one content.
The last holds as long as an append does not give a new content to a key of
which a message has been handed out: published, or held by a running call.
-/

namespace Mozetto.Outbox

open Mozetto.Library.TransitionSystem

/-! ## Delivery -/

/-- A row's content was published with success. -/
def Pipeline.WasDelivered (state : Pipeline) (row : OutboxMessage) : Prop :=
  ∃ call message, .delivered call message ∈ state.log ∧
    message.id = row.id ∧ message.content = row.content

/-- An event was appended under a key, with a content, in the row `id`. -/
def AppendedIn (log : List Entry) (message : OutboxMessage) : Prop :=
  ∃ call outbox, .appended call outbox message.id ∈ log ∧
    outbox.key = message.key ∧ outbox.content = message.content

/--
Every append follows the durable write of its call, and what is published was
appended before.
-/
def InOrder : List Entry → Prop
  | [] => True
  | .wrote _ _ :: earlier => InOrder earlier
  | .appended call outbox _ :: earlier =>
      .wrote call outbox ∈ earlier ∧ InOrder earlier
  | .published _ message :: earlier =>
      AppendedIn earlier message ∧ InOrder earlier
  | .delivered _ _ :: earlier => InOrder earlier

/-- Persist before broadcast, no loss and no equivocation. -/
structure Pipeline.Delivers (state : Pipeline) : Prop where
  persisted : InOrder state.log
  kept : ∀ call outbox id, .appended call outbox id ∈ state.log →
      ∃ row ∈ state.store.rows, row.id = id ∧ (row.status = .pending ∨ state.WasDelivered row)
  oneContent : ∀ call message call' message', .published call message ∈ state.log →
        .published call' message' ∈ state.log →
          message.key = message'.key → message.content = message'.content

/-! ## The condition -/

/-- The messages given to `publish`, by the log. -/
def publishedMessages (log : List Entry) : List OutboxMessage :=
  log.filterMap fun entry =>
    match entry with
    | .published _ message => some message
    | _ => none

/-- The messages published or held by a running call. -/
def Pipeline.handedOut (state : Pipeline) : List OutboxMessage :=
  publishedMessages state.log ++ state.tasks.flatMap Task.held

/-- What a task appends when its next operation is carried out. -/
def Task.appends : Task → Outcome → Option AppendOutboxInput
  | write outbox true, outcome => if outcome.applied then some outbox else none
  | append outbox, outcome => if outcome.applied then some outbox else none
  | _, _ => none

/--
An append repeats the content of every message of its key that has been handed
out, or it finds the key published in the store in memory, which returns that
row as it is.
-/
def Pipeline.Repeats (backend : Backend) (state : Pipeline) (outbox : AppendOutboxInput) : Prop :=
  (backend = .memory ∧ ∃ row ∈ state.store.rows, row.key = outbox.key ∧ row.status = .published) ∨
    ∀ message ∈ state.handedOut, message.key = outbox.key → message.content = outbox.content

/-- Every append of the step repeats what was handed out. -/
def Pipeline.Consistent (backend : Backend) (state : Pipeline) : Action → Prop
  | .advance call outcome _ =>
      ∀ task ∈ state.tasks[call]?, ∀ outbox ∈ task.appends outcome, state.Repeats backend outbox
  | _ => True

instance (backend : Backend) (state : Pipeline) (outbox : AppendOutboxInput) :
    Decidable (state.Repeats backend outbox) := inferInstanceAs (Decidable ((_ ∧ _) ∨ _))

instance (backend : Backend) (state : Pipeline) (action : Action) :
    Decidable (state.Consistent backend action) :=
  match action with
  | .advance call outcome _ =>
      inferInstanceAs (Decidable (∀ task ∈ state.tasks[call]?,
        ∀ outbox ∈ task.appends outcome, state.Repeats backend outbox))
  | .persistThenBroadcast _ _ => isTrue trivial
  | .drainPendingOutbox _ => isTrue trivial
  | .recoverUndeliveredOutbox _ _ _ => isTrue trivial
  | .crash _ => isTrue trivial

/-! ## The invariant -/

/-- A row stands for a message: it has its id, its key and its content. -/
def StandsFor (store : Rows) (message : OutboxMessage) : Prop :=
  ∃ row ∈ store.rows, row.id = message.id ∧ row.key = message.key ∧ row.content = message.content

/--
Rows have their own ids and keys and come from appends; rows that are not
pending were delivered; every message handed out has its row.
-/
structure Pipeline.Sound (state : Pipeline) : Prop where
  ids : (state.store.rows.map OutboxMessage.id).Nodup
  keys : (state.store.rows.map OutboxMessage.key).Nodup
  fresh : ∀ row ∈ state.store.rows, row.id < state.store.nextId
  status : ∀ row ∈ state.store.rows, row.status = .pending ∨ state.WasDelivered row
  present : ∀ call outbox id, .appended call outbox id ∈ state.log →
      ∃ row ∈ state.store.rows, row.id = id
  sourced : ∀ row ∈ state.store.rows, AppendedIn state.log row
  handed : ∀ message ∈ state.handedOut, StandsFor state.store message
  delivered : ∀ call message, .delivered call message ∈ state.log →
      ∃ call', .published call' message ∈ state.log
  ordered : InOrder state.log
  written : ∀ (call : Nat) outbox, state.tasks[call]? = some (.append outbox) →
      .wrote call outbox ∈ state.log
  publishing : ∀ message messages remaining, .publishing message messages remaining ∈ state.tasks →
        ∃ call, .published call message ∈ state.log
  marking : ∀ message messages remaining, .mark message messages remaining ∈ state.tasks →
        ∃ call, .delivered call message ∈ state.log

variable {state : Pipeline} {backend : Backend} {call : Nat} {now : Int}
variable {message : OutboxMessage} {outbox : AppendOutboxInput}
variable {task : Task}

theorem mem_handedOut : message ∈ state.handedOut ↔ (∃ call, .published call message ∈ state.log) ∨
      ∃ task ∈ state.tasks, message ∈ task.held := by
  rw [Pipeline.handedOut, List.mem_append, List.mem_flatMap, publishedMessages, List.mem_filterMap]
  refine or_congr_left ?_
  constructor
  · rintro ⟨entry, member, found⟩
    cases entry with
    | published call other =>
      rw [← Option.some.inj found]
      exact ⟨call, member⟩
    | _ => cases found
  · rintro ⟨call, member⟩
    exact ⟨_, member, rfl⟩

theorem AppendedIn.mono {log log' : List Entry} (appended : AppendedIn log message)
    (grows : ∀ entry ∈ log, entry ∈ log') :
    AppendedIn log' message := by
  rcases appended with ⟨call, outbox, entry, key, content⟩
  exact ⟨call, outbox, grows _ entry, key, content⟩

/-- Rows are told apart by their ids, and by their keys. -/
theorem Pipeline.Sound.eq_of_id (sound : state.Sound) {row other : OutboxMessage}
    (member : row ∈ state.store.rows) (member' : other ∈ state.store.rows)
    (equal : row.id = other.id) : row = other :=
  List.inj_on_of_nodup_map sound.ids member member' equal

theorem Pipeline.Sound.eq_of_key (sound : state.Sound) {row other : OutboxMessage}
    (member : row ∈ state.store.rows) (member' : other ∈ state.store.rows)
    (equal : row.key = other.key) : row = other :=
  List.inj_on_of_nodup_map sound.keys member member' equal

/-- What has been handed out was appended. -/
theorem Pipeline.Sound.appendedIn (sound : state.Sound) (member : message ∈ state.handedOut) :
    AppendedIn state.log message := by
  rcases sound.handed message member with ⟨row, stored, id, key, content⟩
  rcases sound.sourced row stored with ⟨call, outbox, entry, sameKey, sameContent⟩
  rw [id] at entry
  exact ⟨call, outbox, entry, sameKey.trans key, sameContent.trans content⟩

/-- The invariant says that the outbox delivers. -/
theorem Pipeline.Sound.delivers (sound : state.Sound) : state.Delivers where
  persisted := sound.ordered
  kept := by
    intro call outbox id appended
    rcases sound.present call outbox id appended with ⟨row, stored, equal⟩
    exact ⟨row, stored, equal, sound.status row stored⟩
  oneContent := by
    intro call message call' message' published published' sameKey
    rcases sound.handed message (mem_handedOut.mpr (.inl ⟨call, published⟩)) with
      ⟨row, stored, -, key, content⟩
    rcases sound.handed message' (mem_handedOut.mpr (.inl ⟨call', published'⟩)) with
      ⟨row', stored', -, key', content'⟩
    have same := sound.eq_of_key stored stored' (key.trans (sameKey.trans key'.symm))
    rw [← content, ← content', same]

/-! ## The log and the tasks -/

theorem wasDelivered_note {entry : Entry} {row : OutboxMessage}
    (delivered : state.WasDelivered row) : (state.note entry).WasDelivered row := by
  rcases delivered with ⟨call, message, logged, id, content⟩
  exact ⟨call, message, List.mem_cons_of_mem _ logged, id, content⟩

/-- A harmless entry: not an append, and published only what is at hand. -/
def Entry.Harmless (state : Pipeline) : Entry → Prop
  | .appended _ _ _ => False
  | .published _ message => message ∈ state.handedOut
  | .delivered _ message => ∃ call, .published call message ∈ state.log
  | .wrote _ _ => True

theorem Pipeline.Sound.note (sound : state.Sound) {entry : Entry}
    (harmless : entry.Harmless state) : (state.note entry).Sound where
  ids := sound.ids
  keys := sound.keys
  fresh := sound.fresh
  status := fun row stored =>
    (sound.status row stored).imp_right wasDelivered_note
  present := by
    intro call outbox id appended
    rcases List.mem_cons.mp appended with rfl | earlier
    · exact absurd harmless not_false
    · exact sound.present call outbox id earlier
  sourced := fun row stored =>
    (sound.sourced row stored).mono fun _ => List.mem_cons_of_mem _
  handed := by
    intro message member
    refine sound.handed message ?_
    rcases mem_handedOut.mp member with ⟨call, published⟩ | held
    · rcases List.mem_cons.mp published with rfl | earlier
      · exact harmless
      · exact mem_handedOut.mpr (.inl ⟨call, earlier⟩)
    · exact mem_handedOut.mpr (.inr held)
  delivered := by
    intro call message delivered
    have published : ∃ call', .published call' message ∈ state.log := by
      rcases List.mem_cons.mp delivered with rfl | earlier
      · exact harmless
      · exact sound.delivered call message earlier
    rcases published with ⟨call', published⟩
    exact ⟨call', List.mem_cons_of_mem _ published⟩
  ordered := by
    cases entry with
    | wrote call outbox => exact sound.ordered
    | appended call outbox id => exact absurd harmless not_false
    | published call message =>
      exact ⟨sound.appendedIn harmless, sound.ordered⟩
    | delivered call message => exact sound.ordered
  written := fun call outbox found =>
    List.mem_cons_of_mem _ (sound.written call outbox found)
  publishing := by
    intro message messages remaining member
    rcases sound.publishing message messages remaining member with ⟨call, published⟩
    exact ⟨call, List.mem_cons_of_mem _ published⟩
  marking := by
    intro message messages remaining member
    rcases sound.marking message messages remaining member with ⟨call, delivered⟩
    exact ⟨call, List.mem_cons_of_mem _ delivered⟩

/-- A task may take its next form when what the form relies on is there. -/
structure Task.Ready (state : Pipeline) (call : Nat) (task : Task) : Prop where
  held : ∀ message ∈ task.held, StandsFor state.store message
  written : ∀ outbox, task = .append outbox → .wrote call outbox ∈ state.log
  publishing : ∀ message messages remaining, task = .publishing message messages remaining →
        ∃ call, .published call message ∈ state.log
  marking : ∀ message messages remaining, task = .mark message messages remaining →
      ∃ call, .delivered call message ∈ state.log

theorem Pipeline.Sound.goTo (sound : state.Sound) (ready : task.Ready state call) :
    (state.goTo call task).Sound where
  ids := sound.ids
  keys := sound.keys
  fresh := sound.fresh
  status := sound.status
  present := sound.present
  sourced := sound.sourced
  handed := by
    intro message member
    rcases mem_handedOut.mp member with published | ⟨other, isTask, held⟩
    · exact sound.handed message (mem_handedOut.mpr (.inl published))
    · rcases List.mem_or_eq_of_mem_set isTask with old | rfl
      · exact sound.handed message (mem_handedOut.mpr (.inr ⟨_, old, held⟩))
      · exact ready.held message held
  delivered := sound.delivered
  ordered := sound.ordered
  written := by
    intro other outbox found
    rw [Pipeline.goTo, List.getElem?_set] at found
    split at found
    case isTrue equal =>
      split at found
      case isTrue => exact equal ▸ ready.written outbox (Option.some.inj found)
      case isFalse => cases found
    case isFalse => exact sound.written other outbox found
  publishing := by
    intro message messages remaining member
    rcases List.mem_or_eq_of_mem_set member with old | equal
    · exact sound.publishing message messages remaining old
    · exact ready.publishing message messages remaining equal.symm
  marking := by
    intro message messages remaining member
    rcases List.mem_or_eq_of_mem_set member with old | equal
    · exact sound.marking message messages remaining old
    · exact ready.marking message messages remaining equal.symm

/-- A task that holds nothing and has not written may begin. -/
theorem Pipeline.Sound.begin (sound : state.Sound)
    (idle : task.held = []) (noAppend : ∀ outbox, task ≠ .append outbox)
    (noPublish : ∀ message messages remaining, task ≠ .publishing message messages remaining)
    (noMark : ∀ message messages remaining, task ≠ .mark message messages remaining) :
    (state.begin task).Sound where
  ids := sound.ids
  keys := sound.keys
  fresh := sound.fresh
  status := sound.status
  present := sound.present
  sourced := sound.sourced
  handed := by
    intro message member
    rcases mem_handedOut.mp member with published | ⟨other, isTask, held⟩
    · exact sound.handed message (mem_handedOut.mpr (.inl published))
    · rcases List.mem_append.mp isTask with old | new
      · exact sound.handed message (mem_handedOut.mpr (.inr ⟨_, old, held⟩))
      · rw [List.mem_singleton.mp new, idle] at held
        cases held
  delivered := sound.delivered
  ordered := sound.ordered
  written := by
    intro other outbox found
    rw [Pipeline.begin] at found
    by_cases old : other < state.tasks.length
    · rw [List.getElem?_append_left old] at found
      exact sound.written other outbox found
    · rw [List.getElem?_append_right (Nat.not_lt.mp old)] at found
      exact absurd (List.mem_singleton.mp (List.mem_of_getElem? found)).symm (noAppend outbox)
  publishing := by
    intro message messages remaining member
    rcases List.mem_append.mp member with old | new
    · exact sound.publishing message messages remaining old
    · exact absurd (List.mem_singleton.mp new).symm (noPublish message messages remaining)
  marking := by
    intro message messages remaining member
    rcases List.mem_append.mp member with old | new
    · exact sound.marking message messages remaining old
    · exact absurd (List.mem_singleton.mp new).symm (noMark message messages remaining)

theorem Pipeline.Sound.begin_list (sound : state.Sound) (remaining : List ListOptions) :
    (state.begin (.list remaining)).Sound := by
  apply sound.begin rfl
  · intro outbox equal
    cases equal
  · intro message messages remaining equal
    cases equal
  · intro message messages remaining equal
    cases equal

theorem Pipeline.Sound.begin_write
    (sound : state.Sound) (outbox : AppendOutboxInput) (atomic : Bool) :
    (state.begin (.write outbox atomic)).Sound := by
  apply sound.begin rfl
  · intro outbox equal
    cases equal
  · intro message messages remaining equal
    cases equal
  · intro message messages remaining equal
    cases equal

/-! ## The store -/

/-- A change of one row that keeps what the row says keeps the invariant. -/
theorem Pipeline.Sound.change
    (sound : state.Sound) {id : Nat} {update : OutboxMessage → OutboxMessage}
    (sameId : ∀ row, (update row).id = row.id) (sameKey : ∀ row, (update row).key = row.key)
    (sameContent : ∀ row, (update row).content = row.content)
    (status : ∀ row ∈ state.store.rows, row.id = id →
        (update row).status = .pending ∨ state.WasDelivered row) :
    (state.change (state.store.change id update)).Sound := by
  have each : ∀ row ∈ (state.store.change id update).rows,
      ∃ old ∈ state.store.rows, row.id = old.id ∧ row.key = old.key ∧ row.content = old.content ∧
        (row.status = .pending ∨ state.WasDelivered old) := by
    intro row member
    rcases mem_change.mp member with ⟨old, stored, rfl⟩
    refine ⟨old, stored, ?_⟩
    by_cases equal : old.id = id
    · simp [equal, sameId, sameKey, sameContent, status old stored equal]
    · simp [equal, sound.status old stored]
  have kept : ∀ old ∈ state.store.rows,
      ∃ row ∈ (state.store.change id update).rows, row.id = old.id ∧
        row.key = old.key ∧ row.content = old.content := by
    intro old stored
    refine ⟨_, mem_change.mpr ⟨old, stored, rfl⟩, ?_⟩
    by_cases equal : old.id = id
    · simp [equal, sameId, sameKey, sameContent]
    · simp [equal]
  constructor
  case ids =>
    show (List.map _ (state.store.change id update).rows).Nodup
    rw [map_change fun row _ _ => sameId row]
    exact sound.ids
  case keys =>
    show (List.map _ (state.store.change id update).rows).Nodup
    rw [map_change fun row _ _ => sameKey row]
    exact sound.keys
  case fresh =>
    intro row member
    rcases each row member with ⟨old, stored, id, -⟩
    rw [id]
    exact sound.fresh old stored
  case status =>
    intro row member
    rcases each row member with ⟨old, stored, id, -, content, pending | done⟩
    · exact .inl pending
    · rcases done with ⟨call, message, logged, sameId, sameContent⟩
      exact .inr ⟨call, message, logged, sameId.trans id.symm, sameContent.trans content.symm⟩
  case present =>
    intro call outbox id appended
    rcases sound.present call outbox id appended with ⟨old, stored, equal⟩
    rcases kept old stored with ⟨row, member, sameId, -⟩
    exact ⟨row, member, sameId.trans equal⟩
  case sourced =>
    intro row member
    rcases each row member with ⟨old, stored, id, key, content, -⟩
    rcases sound.sourced old stored with ⟨call, outbox, entry, sameKey, sameContent⟩
    rw [← id] at entry
    exact ⟨call, outbox, entry, sameKey.trans key.symm, sameContent.trans content.symm⟩
  case handed =>
    intro message member
    rcases sound.handed message member with ⟨old, stored, id, key, content⟩
    rcases kept old stored with ⟨row, there, sameId, sameKey, sameContent⟩
    exact ⟨row, there, sameId.trans id, sameKey.trans key, sameContent.trans content⟩
  case delivered => exact sound.delivered
  case ordered => exact sound.ordered
  case written => exact sound.written
  case publishing => exact sound.publishing
  case marking => exact sound.marking

/-! ## Appending -/

/-- Rows that come with an append, and what is to be shown of them. -/
theorem Pipeline.Sound.appendTo (sound : state.Sound) (written : .wrote call outbox ∈ state.log)
    {store : Rows} {id : Nat} (ids : (store.rows.map OutboxMessage.id).Nodup)
    (keys : (store.rows.map OutboxMessage.key).Nodup)
    (fresh : ∀ row ∈ store.rows, row.id < store.nextId)
    (status : ∀ row ∈ store.rows, row.status = .pending ∨ state.WasDelivered row)
    (kept : ∀ old ∈ state.store.rows, ∃ row ∈ store.rows, row.id = old.id)
    (found : ∃ row ∈ store.rows, row.id = id)
    (sourced : ∀ row ∈ store.rows, AppendedIn (.appended call outbox id :: state.log) row)
    (handed : ∀ message ∈ state.handedOut, StandsFor store message) :
    ((state.change store).note (.appended call outbox id)).Sound where
  ids := ids
  keys := keys
  fresh := fresh
  status := fun row stored => (status row stored).imp_right wasDelivered_note
  present := by
    intro call' outbox' id' appended
    rcases List.mem_cons.mp appended with equal | earlier
    · cases equal
      exact found
    · rcases sound.present call' outbox' id' earlier with ⟨old, stored, equal⟩
      rcases kept old stored with ⟨row, there, same⟩
      exact ⟨row, there, same.trans equal⟩
  sourced := sourced
  handed := by
    intro message member
    refine handed message ?_
    rcases mem_handedOut.mp member with ⟨call', published⟩ | held
    · rcases List.mem_cons.mp published with equal | earlier
      · cases equal
      · exact mem_handedOut.mpr (.inl ⟨call', earlier⟩)
    · exact mem_handedOut.mpr (.inr held)
  delivered := by
    intro call' message logged
    rcases List.mem_cons.mp logged with equal | earlier
    · cases equal
    · rcases sound.delivered call' message earlier with ⟨other, published⟩
      exact ⟨other, List.mem_cons_of_mem _ published⟩
  ordered := ⟨written, sound.ordered⟩
  written := fun other outbox' found =>
    List.mem_cons_of_mem _ (sound.written other outbox' found)
  publishing := by
    intro message messages remaining member
    rcases sound.publishing message messages remaining member with ⟨other, published⟩
    exact ⟨other, List.mem_cons_of_mem _ published⟩
  marking := by
    intro message messages remaining member
    rcases sound.marking message messages remaining member with ⟨other, delivered⟩
    exact ⟨other, List.mem_cons_of_mem _ delivered⟩

/-- An append under a new key keeps the invariant. -/
theorem Pipeline.Sound.append_fresh (sound : state.Sound) (written : .wrote call outbox ∈ state.log)
    (missing : state.store.withKey outbox.key = none) :
    (state.append backend now call outbox).Sound := by
  rw [Pipeline.append, Rows.appendPending, missing]
  refine sound.appendTo written ?ids ?keys ?fresh ?status ?kept ?found ?sourced ?handed
  case ids =>
    rw [List.map_append, List.nodup_append]
    refine ⟨sound.ids, List.nodup_singleton _, ?_⟩
    rintro id member other new rfl
    rcases List.mem_map.mp member with ⟨row, stored, rfl⟩
    have below := sound.fresh row stored
    have equal : row.id = state.store.nextId := List.mem_singleton.mp new
    omega
  case keys =>
    rw [List.map_append, List.nodup_append]
    refine ⟨sound.keys, List.nodup_singleton _, ?_⟩
    rintro key member other new rfl
    rcases List.mem_map.mp member with ⟨row, stored, rfl⟩
    exact key_ne_of_withKey_eq_none missing stored (List.mem_singleton.mp new)
  case fresh =>
    intro row member
    rcases List.mem_append.mp member with stored | new
    · exact (sound.fresh row stored).trans (Nat.lt_succ_self _)
    · rw [List.mem_singleton.mp new]
      exact Nat.lt_succ_self _
  case status =>
    intro row member
    rcases List.mem_append.mp member with stored | new
    · exact sound.status row stored
    · rw [List.mem_singleton.mp new]
      exact .inl rfl
  case kept => exact fun old stored => ⟨old, List.mem_append_left _ stored, rfl⟩
  case found =>
    exact ⟨_, List.mem_append_right _ (List.mem_singleton_self _), rfl⟩
  case sourced =>
    intro row member
    rcases List.mem_append.mp member with stored | new
    · exact (sound.sourced row stored).mono fun _ => List.mem_cons_of_mem _
    · rw [List.mem_singleton.mp new]
      exact ⟨call, outbox, List.mem_cons_self, rfl, rfl⟩
  case handed =>
    intro message member
    rcases sound.handed message member with ⟨row, stored, stands⟩
    exact ⟨row, List.mem_append_left _ stored, stands⟩

/--
When an append repeats what was handed out, a row it overwrites either keeps
its content or has no message that says otherwise.
-/
theorem Pipeline.Sound.content_of_repeats
    (sound : state.Sound) (repeats : state.Repeats backend outbox)
    {row : OutboxMessage} (stored : row ∈ state.store.rows) (sameKey : row.key = outbox.key)
    (member : message ∈ state.handedOut) (ofRow : message.key = outbox.key) :
    (appendOver backend outbox row).content = message.content := by
  rcases sound.handed message member with ⟨other, there, -, key, content⟩
  have same : other = row := sound.eq_of_key there stored (key.trans (ofRow.trans sameKey.symm))
  rw [content_appendOver]
  split
  case isTrue =>
    rw [← same]
    exact content
  case isFalse notKept =>
    rcases repeats with ⟨memory, published, found, foundKey, status⟩ | all
    · have equal : published = row := sound.eq_of_key found stored (foundKey.trans sameKey.symm)
      exact absurd ⟨memory, equal ▸ status⟩ notKept
    · exact (all message member ofRow).symm

/-- An append over an existing row keeps the invariant. -/
theorem Pipeline.Sound.append_over (sound : state.Sound) (written : .wrote call outbox ∈ state.log)
    (repeats : state.Repeats backend outbox)
    {row : OutboxMessage} (found : state.store.withKey outbox.key = some row) :
    (state.append backend now call outbox).Sound := by
  rcases withKey_eq_some found with ⟨stored, sameKey⟩
  have isRow : ∀ other ∈ state.store.rows, other.id = row.id → other = row :=
    fun other there equal => sound.eq_of_id there stored equal
  rw [Pipeline.append, Rows.appendPending, found]
  refine sound.appendTo written ?ids ?keys ?fresh ?status ?kept ?found ?sourced ?handed
  case ids =>
    rw [map_change fun _ _ _ => id_appendOver]
    exact sound.ids
  case keys =>
    rw [map_change fun other there equal =>
      key_appendOver (isRow other there equal ▸ sameKey)]
    exact sound.keys
  case fresh =>
    intro other member
    rcases mem_change.mp member with ⟨old, there, rfl⟩
    have below := sound.fresh old there
    split
    · rw [id_appendOver]
      exact below
    · exact below
  case status =>
    intro other member
    rcases mem_change.mp member with ⟨old, there, rfl⟩
    split
    case isFalse => exact sound.status old there
    case isTrue equal =>
      rw [isRow old there equal, status_appendOver]
      by_cases published : row.status = .published
      · rw [if_pos published]
        rcases sound.status row stored with pending | delivered
        · rw [published] at pending
          cases pending
        · rcases delivered with ⟨by', message, logged, id, content⟩
          have handedOut := mem_handedOut.mpr (.inl (sound.delivered by' message logged))
          rcases sound.handed message handedOut with ⟨its, there', itsId, key, -⟩
          have same := isRow its there' (itsId.trans id)
          have ofRow : message.key = outbox.key := by
            rw [← key, same, sameKey]
          exact .inr ⟨by', message, logged, id.trans id_appendOver.symm,
            (sound.content_of_repeats repeats stored sameKey handedOut ofRow).symm⟩
      · exact .inl (if_neg published)
  case kept =>
    intro old there
    refine ⟨_, mem_change.mpr ⟨old, there, rfl⟩, ?_⟩
    split <;> simp
  case found =>
    refine ⟨_, mem_change.mpr ⟨row, stored, rfl⟩, ?_⟩
    rw [if_pos rfl]
  case sourced =>
    intro other member
    rcases mem_change.mp member with ⟨old, there, rfl⟩
    by_cases equal : old.id = row.id
    case neg =>
      rw [if_neg equal]
      exact (sound.sourced old there).mono fun _ => List.mem_cons_of_mem _
    case pos =>
      rw [if_pos equal, isRow old there equal]
      by_cases keeps : backend = .memory ∧ row.status = .published
      · rcases sound.sourced row stored with ⟨by', outbox', entry, key, content⟩
        refine ⟨by', outbox', ?_, ?_, ?_⟩
        · rw [id_appendOver]
          exact List.mem_cons_of_mem _ entry
        · rw [key_appendOver sameKey]
          exact key
        · rw [content_appendOver, if_pos keeps]
          exact content
      · refine ⟨call, outbox, List.mem_cons_self, ?_, ?_⟩
        · rw [key_appendOver sameKey]
          exact sameKey.symm
        · rw [content_appendOver, if_neg keeps]
  case handed =>
    intro message member
    rcases sound.handed message member with ⟨old, there, id, key, content⟩
    refine ⟨_, mem_change.mpr ⟨old, there, rfl⟩, ?_⟩
    split
    case isFalse => exact ⟨id, key, content⟩
    case isTrue equal =>
      have same := isRow old there equal
      rw [same] at id key ⊢
      refine ⟨id_appendOver.trans id, (key_appendOver sameKey).trans key, ?_⟩
      exact sound.content_of_repeats repeats stored sameKey member (key.symm.trans sameKey)

theorem Pipeline.Sound.append (sound : state.Sound) (written : .wrote call outbox ∈ state.log)
    (repeats : state.Repeats backend outbox) : (state.append backend now call outbox).Sound := by
  cases found : state.store.withKey outbox.key with
  | none => exact sound.append_fresh written found
  | some row => exact sound.append_over written repeats found

/-- The message an append returns is a row of the store. -/
theorem appendedMessage_mem : state.appendedMessage backend now outbox ∈
    (state.append backend now call outbox).store.rows := by
  rw [Pipeline.appendedMessage, Pipeline.append, Rows.appendPending]
  cases found : state.store.withKey outbox.key with
  | none => exact List.mem_append_right _ (List.mem_singleton_self _)
  | some row =>
    exact mem_change.mpr ⟨row, (withKey_eq_some found).1, by rw [if_pos rfl]⟩

/-! ## Steps -/

/-- A task that holds no message and relies on nothing is ready. -/
theorem ready_finished : Task.Ready state call .finished where
  held := fun _ member => absurd member List.not_mem_nil
  written := fun _ equal => by cases equal
  publishing := fun _ _ _ equal => by cases equal
  marking := fun _ _ _ equal => by cases equal

theorem ready_list {remaining : List ListOptions} : Task.Ready state call (.list remaining) where
  held := fun _ member => absurd member List.not_mem_nil
  written := fun _ equal => by cases equal
  publishing := fun _ _ _ equal => by cases equal
  marking := fun _ _ _ equal => by cases equal

theorem ready_deliver {messages : List OutboxMessage} {remaining : List ListOptions}
    (held : ∀ message ∈ messages, StandsFor state.store message) :
    Task.Ready state call (.deliver messages remaining) where
  held := held
  written := fun _ equal => by cases equal
  publishing := fun _ _ _ equal => by cases equal
  marking := fun _ _ _ equal => by cases equal

theorem ready_bump {error : String} {messages : List OutboxMessage} {remaining : List ListOptions}
    (held : ∀ other ∈ message :: messages, StandsFor state.store other) :
    Task.Ready state call (.bump message error messages remaining) where
  held := held
  written := fun _ equal => by cases equal
  publishing := fun _ _ _ equal => by cases equal
  marking := fun _ _ _ equal => by cases equal

theorem ready_afterAppend (member : message ∈ state.store.rows) :
    (afterAppend message).Ready state call := by
  rw [afterAppend]
  split
  · exact ready_finished
  · refine ready_deliver fun other equal => ?_
    rw [List.mem_singleton.mp equal]
    exact ⟨message, member, rfl, rfl, rfl⟩

/-- Changing what a row does not say keeps what stands for a message. -/
theorem StandsFor.change {store : Rows} {id : Nat} {update : OutboxMessage → OutboxMessage}
    (stands : StandsFor store message) (sameId : ∀ row, (update row).id = row.id)
    (sameKey : ∀ row, (update row).key = row.key)
    (sameContent : ∀ row, (update row).content = row.content) :
    StandsFor (store.change id update) message := by
  rcases stands with ⟨row, stored, equal, key, content⟩
  refine ⟨_, mem_change.mpr ⟨row, stored, rfl⟩, ?_⟩
  split
  · exact ⟨(sameId row).trans equal, (sameKey row).trans key, (sameContent row).trans content⟩
  · exact ⟨equal, key, content⟩

theorem StandsFor.markPublished {store : Rows} {id : Nat} (stands : StandsFor store message) :
    StandsFor (store.markPublished now id) message :=
  stands.change (fun _ => rfl) (fun _ => rfl) (fun _ => rfl)

theorem StandsFor.bumpAttempt {store : Rows} {id : Nat} {error : String}
    (stands : StandsFor store message) : StandsFor (store.bumpAttempt id error) message :=
  stands.change (fun _ => rfl) (fun _ => rfl) (fun _ => rfl)

/-- A message that was delivered may be marked as published. -/
theorem Pipeline.Sound.markPublished (sound : state.Sound) (stands : StandsFor state.store message)
    (delivered : ∃ call, .delivered call message ∈ state.log) :
    (state.change (state.store.markPublished now message.id)).Sound := by
  refine sound.change (fun _ => rfl) (fun _ => rfl) (fun _ => rfl) fun row stored equal => .inr ?_
  rcases stands with ⟨its, there, id, -, content⟩
  rcases delivered with ⟨by', logged⟩
  have same := sound.eq_of_id stored there (equal.trans id.symm)
  exact ⟨by', message, logged, equal.symm, same ▸ content.symm⟩

theorem Pipeline.Sound.bumpAttempt (sound : state.Sound) {id : Nat} {error : String} :
    (state.change (state.store.bumpAttempt id error)).Sound :=
  sound.change (fun _ => rfl) (fun _ => rfl) (fun _ => rfl) fun _ _ _ => .inl rfl

theorem Pipeline.Sound.standsFor (sound : state.Sound) (found : state.tasks[call]? = some task)
    (held : message ∈ task.held) : StandsFor state.store message :=
  sound.handed message (mem_handedOut.mpr (.inr ⟨task, List.mem_of_getElem? found, held⟩))

/-- Writing and appending in one transaction. -/
theorem Pipeline.Sound.persist (sound : state.Sound) (repeats : state.Repeats backend outbox) :
    ((state.note (.wrote call outbox)).append backend now call outbox).Sound := by
  have noted : (state.note (.wrote call outbox)).Sound := sound.note trivial
  exact noted.append List.mem_cons_self repeats

/-- A step whose append repeats what was handed out keeps the invariant. -/
theorem Pipeline.Sound.step (sound : state.Sound) {outcome : Outcome}
    (found : state.tasks[call]? = some task)
    (repeats : ∀ outbox ∈ task.appends outcome, state.Repeats backend outbox) :
    (state.step backend now call task outcome).Sound := by
  have stands : ∀ message ∈ task.held, StandsFor state.store message :=
    fun message held => sound.standsFor found held
  have isTask := List.mem_of_getElem? found
  cases task with
  | write outbox atomic =>
    have noted : (state.note (.wrote call outbox)).Sound := sound.note trivial
    cases atomic with
    | false =>
      cases outcome with
      | succeeds =>
        refine noted.goTo ⟨?_, ?_, ?_, ?_⟩
        · exact fun _ member => absurd member List.not_mem_nil
        · rintro _ ⟨⟩
          exact List.mem_cons_self
        · exact fun _ _ _ equal => by cases equal
        · exact fun _ _ _ equal => by cases equal
      | fails applied error =>
        cases applied with
        | false => exact sound.goTo ready_finished
        | true => exact noted.goTo ready_finished
    | true =>
      cases outcome with
      | succeeds =>
        exact (sound.persist (repeats outbox rfl)).goTo
          (ready_afterAppend appendedMessage_mem)
      | fails applied error =>
        cases applied with
        | false => exact sound.goTo ready_finished
        | true =>
          exact (sound.persist (repeats outbox rfl)).goTo ready_finished
  | append outbox =>
    have written := sound.written call outbox found
    cases outcome with
    | succeeds =>
      exact (sound.append written (repeats outbox rfl)).goTo
        (ready_afterAppend appendedMessage_mem)
    | fails applied error =>
      cases applied with
      | false => exact sound.goTo ready_finished
      | true =>
        exact (sound.append written (repeats outbox rfl)).goTo ready_finished
  | list remaining =>
    cases remaining with
    | nil => exact sound.goTo ready_finished
    | cons options remaining =>
      cases outcome with
      | fails applied error => exact sound.goTo ready_finished
      | succeeds =>
        refine sound.goTo (ready_deliver fun row listed => ?_)
        exact ⟨row, mem_of_listed listed, rfl, rfl, rfl⟩
  | deliver messages remaining =>
    cases messages with
    | nil => exact sound.goTo ready_list
    | cons message messages =>
      have handed : message ∈ state.handedOut :=
        mem_handedOut.mpr (.inr ⟨_, isTask, List.mem_cons_self⟩)
      have noted : (state.note (.published call message)).Sound := sound.note handed
      refine noted.goTo ⟨stands, ?_, ?_, ?_⟩
      · exact fun _ equal => by cases equal
      · rintro _ _ _ ⟨⟩
        exact ⟨call, List.mem_cons_self⟩
      · exact fun _ _ _ equal => by cases equal
  | publishing message messages remaining =>
    cases outcome with
    | fails applied error => exact sound.goTo (ready_bump stands)
    | succeeds =>
      have noted : (state.note (.delivered call message)).Sound :=
        sound.note (sound.publishing message messages remaining isTask)
      refine noted.goTo ⟨stands, ?_, ?_, ?_⟩
      · exact fun _ equal => by cases equal
      · exact fun _ _ _ equal => by cases equal
      · rintro _ _ _ ⟨⟩
        exact ⟨call, List.mem_cons_self⟩
  | mark message messages remaining =>
    have marked : (state.change (state.store.markPublished now message.id)).Sound :=
      sound.markPublished (stands message List.mem_cons_self)
        (sound.marking message messages remaining isTask)
    cases outcome with
    | succeeds =>
      exact marked.goTo (ready_deliver fun other member =>
        (stands other (List.mem_cons_of_mem _ member)).markPublished)
    | fails applied error =>
      cases applied with
      | false => exact sound.goTo (ready_bump stands)
      | true =>
        exact marked.goTo (ready_bump fun other member =>
          (stands other member).markPublished)
  | bump message error messages remaining =>
    have rest : ∀ other ∈ messages, StandsFor state.store other :=
      fun other member => stands other (List.mem_cons_of_mem _ member)
    cases applied : outcome.applied with
    | false =>
      rw [Pipeline.step, applied]
      exact sound.goTo (ready_deliver rest)
    | true =>
      rw [Pipeline.step, applied]
      exact sound.bumpAttempt.goTo (ready_deliver fun other member =>
        (rest other member).bumpAttempt)
  | finished => exact sound

/-! ## Runs -/

theorem sound_emptyOutbox : emptyOutbox.Sound where
  ids := List.nodup_nil
  keys := List.nodup_nil
  fresh := fun _ member => absurd member List.not_mem_nil
  status := fun _ member => absurd member List.not_mem_nil
  present := fun _ _ _ member => absurd member List.not_mem_nil
  sourced := fun _ member => absurd member List.not_mem_nil
  handed := fun _ member => absurd member List.not_mem_nil
  delivered := fun _ _ member => absurd member List.not_mem_nil
  ordered := trivial
  written := fun _ _ found => by cases found
  publishing := fun _ _ _ member => absurd member List.not_mem_nil
  marking := fun _ _ _ member => absurd member List.not_mem_nil

theorem Pipeline.Sound.perform (sound : state.Sound) {action : Action} {after : Pipeline}
    (consistent : state.Consistent backend action)
    (performed : state.perform backend action = .ok after) :
    after.Sound := by
  cases action with
  | persistThenBroadcast outbox atomic =>
    cases performed
    exact sound.begin_write outbox atomic
  | drainPendingOutbox options =>
    cases performed
    exact sound.begin_list _
  | recoverUndeliveredOutbox tableId sessionId limit =>
    cases performed
    exact sound.begin_list _
  | crash call =>
    cases performed
    exact sound.goTo ready_finished
  | advance call outcome now =>
    cases found : state.tasks[call]? with
    | none =>
      rw [Pipeline.perform, found] at performed
      cases performed
    | some task =>
      rw [Pipeline.perform, found] at performed
      cases performed
      exact sound.step found (consistent task found)

/--
In every run whose appends repeat what was handed out, nothing is published
before it was persisted, nothing appended is lost, and no key is published
with two contents.
-/
theorem outbox_delivers
    (reached :
      (outboxRuns backend).Reachable (Pipeline.Consistent backend) state) :
    state.Delivers := by
  have sound : state.Sound := by
    refine reached.invariant ?_ ?_
    · rintro _ rfl
      exact sound_emptyOutbox
    · intro before action after sound consistent performed
      exact sound.perform consistent performed
  exact sound.delivers

namespace Example

def event (eventHash payload : String) : AppendOutboxInput where
  sessionId := "session"
  tableId := some "table"
  epoch := none
  sequence := 1
  eventHash := eventHash
  channel := none
  payload := payload
  schemaKind := none
  visibility := none

def first : AppendOutboxInput := event "0xabc" "fold"

def second : AppendOutboxInput := event "0xdef" "call"

/-- A failed broadcast, the same event once more, and a recovery. -/
def retries : List Action :=
  [.persistThenBroadcast first false,
    .advance 0 .succeeds 0, .advance 0 .succeeds 1, .advance 0 .succeeds 2,
    .advance 0 (.fails false "ws_down") 3, .advance 0 .succeeds 4,
    .persistThenBroadcast first true, .advance 1 .succeeds 5,
    .recoverUndeliveredOutbox "table" none none,
    .advance 2 .succeeds 6, .advance 2 .succeeds 7, .advance 2 .succeeds 8,
    .advance 2 (.fails true "timeout") 9]

/-- The first event's broadcast fails, then its sequence is used again. -/
def reused : List Action :=
  [.persistThenBroadcast first false,
    .advance 0 .succeeds 0, .advance 0 .succeeds 1, .advance 0 .succeeds 2,
    .advance 0 (.fails false "ws_down") 3, .advance 0 .succeeds 4,
    .persistThenBroadcast second false,
    .advance 1 .succeeds 5, .advance 1 .succeeds 6, .advance 1 .succeeds 7]

/--
A recovery lists the first event while it is being published; the sequence is
used again; the recovery's own broadcast fails, and another one follows.
-/
def overlapped : List Action :=
  [.persistThenBroadcast first false, .advance 0 .succeeds 0, .advance 0 .succeeds 1,
    .recoverUndeliveredOutbox "table" none none, .advance 1 .succeeds 2,
    .advance 0 .succeeds 3, .advance 0 .succeeds 4, .advance 0 .succeeds 5,
    .persistThenBroadcast second false,
    .advance 2 .succeeds 6, .advance 2 .succeeds 7,
    .advance 1 .succeeds 8, .advance 1 (.fails false "ws_down") 9,
    .advance 1 .succeeds 10,
    .recoverUndeliveredOutbox "table" none none,
    .advance 3 .succeeds 11, .advance 3 .succeeds 12]

end Example

/-- Two messages of one key, with different contents, were published. -/
def Pipeline.Equivocates (state : Pipeline) : Prop :=
  ∃ message ∈ publishedMessages state.log, ∃ message' ∈ publishedMessages state.log,
      message.key = message'.key ∧ message.content ≠ message'.content

instance (state : Pipeline) : Decidable state.Equivocates :=
  inferInstanceAs (Decidable (∃ message ∈ publishedMessages state.log,
    ∃ message' ∈ publishedMessages state.log,
      message.key = message'.key ∧ message.content ≠ message'.content))

theorem Pipeline.Equivocates.not_delivers (equivocates : state.Equivocates) : ¬ state.Delivers := by
  have logged : ∀ message ∈ publishedMessages state.log,
      ∃ call, .published call message ∈ state.log := by
    intro message member
    rcases List.mem_filterMap.mp member with ⟨entry, there, found⟩
    cases entry with
    | published call other =>
      rw [← Option.some.inj found]
      exact ⟨call, there⟩
    | _ => cases found
  intro delivers
  rcases equivocates with ⟨message, member, message', member', key, differ⟩
  rcases logged message member with ⟨call, published⟩
  rcases logged message' member' with ⟨call', published'⟩
  exact differ (delivers.oneContent call message call' message' published published' key)

theorem outbox_delivers_retries :
    ∃ state,
      (outboxRuns .memory).Reachable (Pipeline.Consistent .memory) state ∧
        state.store.rows.map OutboxMessage.status = [.published] ∧
        (publishedMessages state.log).length = 2 ∧ state.Delivers := by
  have start :
      (outboxRuns .memory).Reachable (Pipeline.Consistent .memory)
        emptyOutbox :=
    .start rfl
  have played :
      ((outboxRuns .memory).replay (Pipeline.Consistent .memory) emptyOutbox
        Example.retries).any (fun state =>
          decide
            (state.store.rows.map OutboxMessage.status = [.published] ∧
              (publishedMessages state.log).length = 2)) = true := by
    decide +kernel
  rcases start.exists_replay played with ⟨state, reached, observed⟩
  rcases of_decide_eq_true observed with ⟨status, twice⟩
  exact ⟨state, reached, status, twice, outbox_delivers reached⟩

/--
Without the condition one key is published with two contents: in either store
when a sequence is used again after a failed broadcast, and in Postgres even
after the first event was marked as published, where the store in memory
keeps to the first content.
-/
theorem exists_equivocation :
    (∃ state,
      (outboxRuns .memory).Reachable AnyCall state ∧ state.Equivocates ∧
        ¬ state.Delivers) ∧
      (∃ state,
        (outboxRuns .postgres).Reachable AnyCall state ∧
          state.Equivocates ∧ ¬ state.Delivers) ∧
      (((outboxRuns .postgres).replay AnyCall emptyOutbox
          Example.overlapped).any fun state => decide state.Equivocates) =
        true ∧
      (((outboxRuns .memory).replay AnyCall emptyOutbox
          Example.overlapped).any fun state => decide ¬ state.Equivocates) =
        true := by
  have start :
      ∀ backend, (outboxRuns backend).Reachable AnyCall emptyOutbox :=
    fun _ => .start rfl
  have played :
      ∀ backend,
        (((outboxRuns backend).replay AnyCall emptyOutbox
          Example.reused).any fun state => decide state.Equivocates) =
          true := by
    intro backend
    cases backend <;> decide +kernel
  refine ⟨?_, ?_, by decide +kernel, by decide +kernel⟩
  · rcases (start .memory).exists_replay (played .memory) with
      ⟨state, reached, observed⟩
    have equivocates := of_decide_eq_true observed
    exact ⟨state, reached, equivocates, equivocates.not_delivers⟩
  · rcases (start .postgres).exists_replay (played .postgres) with
      ⟨state, reached, observed⟩
    have equivocates := of_decide_eq_true observed
    exact ⟨state, reached, equivocates, equivocates.not_delivers⟩

end Mozetto.Outbox
