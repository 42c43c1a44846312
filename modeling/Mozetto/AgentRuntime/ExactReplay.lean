import Mozetto.AgentRuntime.Ingest
import Mathlib.Algebra.Ring.Int.Defs
import Mathlib.Data.Nat.Cast.Basic

/-!
# Reconstructing a memory

A memory is rebuilt from its last checkpoint, or from an empty one, and the
public events with a later cursor.  These are put in order first; events that
do not follow one another are a gap, and there is no memory then.
-/

namespace Mozetto.AgentRuntime

open Mozetto.Library.BoundedLists

variable (locale : Locale)

/-- A checkpoint as it comes back from the store. -/
def saveCheckpoint (state : AgentState) (savedAtMs : Int) (checkpointId : String) :
    AgentStateCheckpoint :=
  let pruned := pruneAgentState locale.localeCompare (cloneAgentState state)
  { schemaVersion := agentStateSchemaVersion
    key := stateKeyOf pruned
    memoryVersion := pruned.memoryVersion
    publicEventCursor := pruned.publicEventCursor
    state := cloneAgentState pruned
    savedAtMs := savedAtMs
    checkpointId := checkpointId }

structure ReconstructInput where
  checkpoint : Option AgentStateCheckpoint
  publicEvents : List PublicTableEvent
  sessionId : String
  handId : String
  seat : Int
  profileHash : String
deriving DecidableEq, Repr

inductive ReconstructStatus
  | ok
  | checkpointStale
  | cursorGap
  | schemaMismatch
  | failed
deriving DecidableEq, Repr

structure ReconstructResult where
  status : ReconstructStatus
  state : Option AgentState
  reviewFlag : Bool
  appliedEventCount : Nat
  note : String
deriving DecidableEq, Repr

/-- No memory, and the hand is marked for review. -/
def ReconstructResult.without
    (status : ReconstructStatus) (appliedEventCount : Nat) (note : String) : ReconstructResult where
  status := status
  state := none
  reviewFlag := true
  appliedEventCount := appliedEventCount
  note := note

/-- What is wrong with a checkpoint. -/
def checkpointFault (input : ReconstructInput) (checkpoint : AgentStateCheckpoint) :
    Option ReconstructResult :=
  if checkpoint.schemaVersion ≠ agentStateSchemaVersion then
    some (.without .schemaMismatch 0
      s!"checkpoint schema {checkpoint.schemaVersion} != {agentStateSchemaVersion}")
  else if checkpoint.key.sessionId ≠ input.sessionId ∨
      checkpoint.key.handId ≠ input.handId ∨ checkpoint.key.seat ≠ input.seat then
    some (.without .failed 0 "checkpoint key mismatch")
  else none

/-- The memory that the replay starts from. -/
def startingState (input : ReconstructInput) : AgentState :=
  let state :=
    match input.checkpoint with
    | some checkpoint =>
      pruneAgentState locale.localeCompare (cloneAgentState checkpoint.state)
    | none =>
      createEmptyAgentState locale
        { sessionId := input.sessionId, handId := input.handId,
          seat := input.seat, profileHash := input.profileHash }
  { state with
    sessionId := input.sessionId
    handId := input.handId
    seat := input.seat
    profileHash := input.profileHash }

/-- The first event that does not follow the one before it. -/
def gapAfter (previous : PublicTableEvent) (index : Nat) :
    List PublicTableEvent → Option ReconstructResult
  | [] => none
  | event :: rest =>
    if event.cursor ≠ previous.cursor + 1 then
      some (.without .cursorGap index
        s!"gap between {previous.cursor} and {event.cursor}")
    else gapAfter event (index + 1) rest

/-- A gap in the events that are to be applied. -/
def gapIn (startCursor : Int) : List PublicTableEvent → Option ReconstructResult
  | [] => none
  | first :: rest =>
    if first.cursor ≠ startCursor + 1 then
      some (.without .cursorGap 0
        s!"expected cursor {startCursor + 1}, got {first.cursor}")
    else gapAfter first 1 rest

/-- The events applied one by one; an error leaves their number. -/
def replay (applied : Nat) (state : AgentState) :
    List PublicTableEvent → Except (Nat × String) (Nat × AgentState)
  | [] => .ok (applied, state)
  | event :: rest =>
    match applyPublicEventDeterministic locale state event with
    | .error message => .error (applied, message)
    | .ok next => replay (applied + 1) next rest

/-- The later events of a list, in the order of their cursors. -/
def laterEvents (startCursor : Int) (publicEvents : List PublicTableEvent) :
    List PublicTableEvent :=
  (sortBy PublicTableEvent.cursor publicEvents).filter fun event =>
    startCursor < event.cursor

/-- The memory after a replay, or why there is none. -/
def replayed (state : AgentState) (toApply : List PublicTableEvent) :
    ReconstructResult :=
  match replay locale 0 state toApply with
  | .error (applied, message) => .without .failed applied message
  | .ok (applied, state) =>
    { status := .ok
      state := some (pruneAgentState locale.localeCompare state)
      reviewFlag := false
      appliedEventCount := applied
      note :=
        if applied = 0 then "no new public events; returning checkpoint/empty state"
        else s!"applied {applied} public event(s)" }

def reconstructAgentState (input : ReconstructInput) : ReconstructResult :=
  match input.checkpoint.bind (checkpointFault input) with
  | some fault => fault
  | none =>
    let state := startingState locale input
    let toApply := laterEvents state.publicEventCursor input.publicEvents
    match gapIn state.publicEventCursor toApply with
    | some gap => gap
    | none => replayed locale state toApply

end Mozetto.AgentRuntime

/-!
## Reconstruction replays what is present

A sequence of public events is taken in one by one.  A checkpoint of the memory
after the first of them, and any of the later ones in any order, give back the
memory after as many events as are present without a hole.  A hole, an event
that is missing before one that is present, leaves no memory.  Events missing
at the end are not noticed: the list that is given ends there.
-/

namespace Mozetto.AgentRuntime

open Mozetto.Library.BoundedLists

variable (locale : Locale)

/-- Events taken in one by one. -/
def ingestAll (state : AgentState) (events : List PublicTableEvent) :
    Except String AgentState :=
  events.foldlM (applyPublicEventDeterministic locale) state

/-- Cursors that count on from a start. -/
def Consecutive : Int → List PublicTableEvent → Prop
  | _, [] => True
  | cursor, event :: rest =>
    event.cursor = cursor ∧ Consecutive (cursor + 1) rest

def decidableConsecutive : (cursor : Int) → (events : List PublicTableEvent) →
    Decidable (Consecutive cursor events)
  | _, [] => isTrue trivial
  | cursor, event :: rest =>
    @instDecidableAnd _ _ (inferInstanceAs (Decidable (event.cursor = cursor)))
      (decidableConsecutive (cursor + 1) rest)

instance {cursor : Int} {events : List PublicTableEvent} : Decidable (Consecutive cursor events) :=
  decidableConsecutive cursor events

/-- The identity, the checkpoint and the events for a reconstruction. -/
def CreateAgentStateInput.reconstruct
    (created : CreateAgentStateInput) (checkpoint : Option AgentStateCheckpoint)
    (publicEvents : List PublicTableEvent) : ReconstructInput where
  checkpoint := checkpoint
  publicEvents := publicEvents
  sessionId := created.sessionId
  handId := created.handId
  seat := created.seat
  profileHash := created.profileHash

/--
A checkpoint taken after some events, of a memory whose doubles all have a
number in a text; or none, before any event of a memory created by default.
-/
inductive Taken (created : CreateAgentStateInput) :
    List PublicTableEvent → Option AgentStateCheckpoint → Prop
  | none (energyRemaining : created.energyRemaining = none)
      (street : created.street = none) : Taken created [] none
  | saved {front : List PublicTableEvent} {state : AgentState}
      (ingest : ingestAll locale (createEmptyAgentState locale created) front = .ok state)
      (safe : state.JsonSafe) (savedAtMs : Int) (checkpointId : String) :
      Taken created front (some (saveCheckpoint locale state savedAtMs checkpointId))

/-- An event that is missing before one that is present. -/
def Hole (later received : List PublicTableEvent) : Prop :=
  ∃ missing ∈ later, missing ∉ received ∧ ∃ present ∈ received, missing.cursor < present.cursor

variable {locale} {state : AgentState} {events later received : List PublicTableEvent}
  {cursor : Int}

/-! ### Consecutive cursors -/

theorem consecutive_append {others : List PublicTableEvent} :
    Consecutive cursor (events ++ others) ↔
      Consecutive cursor events ∧ Consecutive (cursor + events.length) others := by
  induction events generalizing cursor with
  | nil =>
    rw [List.nil_append, List.length_nil, Nat.cast_zero, Int.add_zero]
    exact (and_iff_right trivial).symm
  | cons event rest induction =>
    rw [List.cons_append, Consecutive, Consecutive, induction, and_assoc,
      List.length_cons, Nat.cast_succ, Int.add_assoc, Int.add_comm 1]

theorem Consecutive.within (consecutive : Consecutive cursor events) {event : PublicTableEvent}
    (member : event ∈ events) : cursor ≤ event.cursor ∧ event.cursor < cursor + events.length := by
  induction events generalizing cursor with
  | nil => cases member
  | cons first rest induction =>
    rw [List.length_cons, Nat.cast_succ]
    rcases List.mem_cons.mp member with rfl | later
    · have here := consecutive.1
      omega
    · have bounds := induction consecutive.2 later
      omega

theorem Consecutive.sorted (consecutive : Consecutive cursor events) :
    events.Pairwise fun first second => first.cursor < second.cursor := by
  induction events generalizing cursor with
  | nil => exact .nil
  | cons event rest induction =>
    refine List.Pairwise.cons ?_ (induction consecutive.2)
    intro later member
    have bounds := consecutive.2.within member
    have here := consecutive.1
    omega

theorem nodup_of_sorted
    (sorted : events.Pairwise fun first second => first.cursor < second.cursor) :
    events.Nodup :=
  sorted.imp fun below same => absurd (same ▸ below) (lt_irrefl _)

/-- The present ones count on as far as there is no hole. -/
theorem Consecutive.filter_cases
    (consecutive : Consecutive cursor later) (present : PublicTableEvent → Bool) :
    (Consecutive cursor (later.filter present) ∧
        ∃ count ≤ later.length, later.filter present = later.take count ∧ ∀ event ∈ later,
            present event = true ↔ event.cursor < cursor + count) ∨
      (¬ Consecutive cursor (later.filter present) ∧ ∃ missing ∈ later, present missing = false ∧
          ∃ other ∈ later, present other = true ∧ missing.cursor < other.cursor) := by
  induction later generalizing cursor with
  | nil =>
    exact .inl ⟨trivial, 0, le_rfl, rfl, fun _ member => absurd member List.not_mem_nil⟩
  | cons event rest induction =>
    rcases consecutive with ⟨here, next⟩
    cases found : present event with
    | true =>
      rw [List.filter_cons_of_pos found]
      rcases induction next with ⟨follows, count, most, same, each⟩ |
          ⟨broken, missing, member, gone, other, also, there, ahead⟩
      · refine .inl ⟨⟨here, follows⟩, count + 1, Nat.succ_le_succ most, ?_, ?_⟩
        · rw [same, List.take_succ_cons]
        · intro later member
          rcases List.mem_cons.mp member with rfl | after
          · exact iff_of_true found (by omega)
          · rw [each later after]
            push_cast
            omega
      · exact .inr ⟨fun both => broken both.2, missing,
          List.mem_cons_of_mem _ member, gone, other, List.mem_cons_of_mem _ also, there, ahead⟩
    | false =>
      rw [List.filter_cons_of_neg (by rw [found]; exact Bool.false_ne_true)]
      cases left : rest.filter present with
      | nil =>
        refine .inl ⟨trivial, 0, Nat.zero_le _, rfl, ?_⟩
        intro later member
        have whole : Consecutive cursor (event :: rest) := ⟨here, next⟩
        have bounds := whole.within member
        have absent : present later ≠ true := by
          rcases List.mem_cons.mp member with rfl | after
          · rw [found]
            exact Bool.false_ne_true
          · exact List.filter_eq_nil_iff.mp left later after
        exact iff_of_false absent (by omega)
      | cons other others =>
        have member : other ∈ rest.filter present := left ▸ List.mem_cons_self
        have bounds := next.within (List.mem_filter.mp member).1
        refine .inr ⟨?_, event, List.mem_cons_self, found, other,
          List.mem_cons_of_mem _ (List.mem_filter.mp member).1,
          (List.mem_filter.mp member).2, by omega⟩
        intro follows
        have first : other.cursor = cursor := follows.1
        omega

/-! ### Taking in consecutive events -/

theorem apply_of_next
    {event : PublicTableEvent} (next : event.cursor = state.publicEventCursor + 1) :
    applyPublicEventDeterministic locale state event = .ok (ingested locale state event) := by
  rw [applyPublicEventDeterministic, if_neg (by omega), if_neg (by omega)]

theorem ingestAll_of_consecutive (consecutive : Consecutive (state.publicEventCursor + 1) events) :
    ingestAll locale state events = .ok (events.foldl (ingested locale) state) := by
  induction events generalizing state with
  | nil => rfl
  | cons event rest induction =>
    rw [ingestAll, List.foldlM_cons, apply_of_next consecutive.1]
    apply induction
    rw [ingested_publicEventCursor, consecutive.1]
    exact consecutive.2

theorem replay_of_consecutive (consecutive : Consecutive (state.publicEventCursor + 1) events)
    (applied : Nat) : replay locale applied state events =
    .ok (applied + events.length, events.foldl (ingested locale) state) := by
  induction events generalizing state applied with
  | nil => rfl
  | cons event rest induction =>
    rw [replay, apply_of_next consecutive.1]
    dsimp only
    rw [induction, List.length_cons, Nat.add_right_comm]
    · rfl
    · rw [ingested_publicEventCursor, consecutive.1]
      exact consecutive.2

theorem publicEventCursor_foldl (consecutive : Consecutive (state.publicEventCursor + 1) events) :
    (events.foldl (ingested locale) state).publicEventCursor =
      state.publicEventCursor + events.length := by
  induction events generalizing state with
  | nil => exact (Int.add_zero _).symm
  | cons event rest induction =>
    rw [List.foldl_cons, induction, ingested_publicEventCursor, consecutive.1, List.length_cons]
    · push_cast
      omega
    · rw [ingested_publicEventCursor, consecutive.1]
      exact consecutive.2

/-! ### The memories of a sequence -/

variable (locale) in
/-- The memory after some events. -/
def memoryAfter (created : CreateAgentStateInput) (events : List PublicTableEvent) :
    AgentState :=
  events.foldl (ingested locale) (createEmptyAgentState locale created)

/-- What every memory of a sequence keeps. -/
structure Kept (locale : Locale) (created : CreateAgentStateInput) (state : AgentState) : Prop where
  pruned : pruneAgentState locale.localeCompare state = state
  made : MadeFor created state
  others : NoOwnModel state

variable {created : CreateAgentStateInput}

theorem Kept.afterEvent (kept : Kept locale created state) (event : PublicTableEvent) :
    Kept locale created (ingested locale state event) :=
  ⟨pruneAgentState_ingested, kept.made.afterEvent, kept.others.afterEvent⟩

theorem Kept.afterEvents (kept : Kept locale created state) (events : List PublicTableEvent) :
    Kept locale created (events.foldl (ingested locale) state) := by
  induction events generalizing state with
  | nil => exact kept
  | cons event rest induction => exact induction (kept.afterEvent event)

theorem kept_memoryAfter (created : CreateAgentStateInput) (events : List PublicTableEvent) :
    Kept locale created (memoryAfter locale created events) :=
  Kept.afterEvents ⟨pruneAgentState_again _ _, madeFor_createEmptyAgentState created,
      noOwnModel_createEmptyAgentState created⟩ events

theorem Kept.bounded (kept : Kept locale created state) : exceedsBounds state = false := by
  rw [← kept.pruned]
  exact exceedsBounds_pruneAgentState

theorem ingestAll_eq_memoryAfter (consecutive : Consecutive 0 events) :
    ingestAll locale (createEmptyAgentState locale created) events =
      .ok (memoryAfter locale created events) := ingestAll_of_consecutive consecutive

theorem publicEventCursor_memoryAfter (consecutive : Consecutive 0 events) :
    (memoryAfter locale created events).publicEventCursor = -1 + events.length :=
  @publicEventCursor_foldl locale (createEmptyAgentState locale created) events consecutive

/-! ### Where the replay starts -/

theorem checkpointFault_saveCheckpoint
    (made : MadeFor created state) (savedAtMs : Int) (checkpointId : String)
    (checkpoint : Option AgentStateCheckpoint) :
    checkpointFault (created.reconstruct checkpoint received)
      (saveCheckpoint locale state savedAtMs checkpointId) = none := by
  have key : (saveCheckpoint locale state savedAtMs checkpointId).key =
      stateKeyOf state := rfl
  rw [checkpointFault, key, if_neg (fun differ => differ rfl), if_neg]
  rintro (differ | differ | differ)
  · exact differ made.sessionId
  · exact differ made.handId
  · exact differ made.seat

/-- A replay starts from the memory that the checkpoint was taken of. -/
theorem startingState_of_taken
    {front : List PublicTableEvent} {checkpoint : Option AgentStateCheckpoint}
    (consecutive : Consecutive 0 front) (taken : Taken locale created front checkpoint) :
    checkpoint.bind (checkpointFault (created.reconstruct checkpoint received)) = none ∧
      startingState locale (created.reconstruct checkpoint received) =
        memoryAfter locale created front := by
  cases taken with
  | none energyRemaining street =>
    refine ⟨rfl, ?_⟩
    have same : memoryAfter locale created [] = createEmptyAgentState locale
          { sessionId := created.sessionId, handId := created.handId,
            seat := created.seat, profileHash := created.profileHash } := by
      rw [memoryAfter, List.foldl_nil, createEmptyAgentState,
        createEmptyAgentState, energyRemaining, street]
    rw [same]
    exact (madeFor_createEmptyAgentState
      { sessionId := created.sessionId, handId := created.handId,
        seat := created.seat, profileHash := created.profileHash }).overwritten
  | @saved front state ingest safe savedAtMs checkpointId =>
    have memory : state = memoryAfter locale created front :=
      Except.ok.inj (ingest.symm.trans (ingestAll_eq_memoryAfter consecutive))
    have kept : Kept locale created state := memory ▸ kept_memoryAfter created front
    refine ⟨checkpointFault_saveCheckpoint kept.made _ _ _, ?_⟩
    have copy : (saveCheckpoint locale state savedAtMs checkpointId).state =
        state := by
      show cloneAgentState (pruneAgentState locale.localeCompare (cloneAgentState state)) = state
      rw [safe.copied, kept.pruned, safe.copied]
    rw [← memory, startingState]
    show ({ pruneAgentState locale.localeCompare (cloneAgentState
      (saveCheckpoint locale state savedAtMs checkpointId).state) with
        sessionId := created.sessionId
        handId := created.handId
        seat := created.seat
        profileHash := created.profileHash } : AgentState) = state
    rw [copy, safe.copied, kept.pruned]
    exact kept.made.overwritten

/-! ### Gaps -/

theorem gapAfter_eq_none_iff {previous : PublicTableEvent} {index : Nat} :
    gapAfter previous index events = none ↔ Consecutive (previous.cursor + 1) events := by
  induction events generalizing previous index with
  | nil => exact iff_of_true rfl trivial
  | cons event rest induction =>
    rw [gapAfter, Consecutive]
    split
    · rename_i differ
      exact iff_of_false (Option.some_ne_none _) fun both => differ both.1
    · rename_i same
      have follows := of_not_not same
      rw [induction, follows]
      exact (and_iff_right rfl).symm

theorem gapIn_eq_none_iff : gapIn cursor events = none ↔ Consecutive (cursor + 1) events := by
  cases events with
  | nil => exact iff_of_true rfl trivial
  | cons event rest =>
    rw [gapIn, Consecutive]
    split
    · rename_i differ
      exact iff_of_false (Option.some_ne_none _) fun both => differ both.1
    · rename_i same
      have follows := of_not_not same
      rw [gapAfter_eq_none_iff, follows]
      exact (and_iff_right rfl).symm

theorem exists_of_gapAfter {previous : PublicTableEvent} {index : Nat} {gap : ReconstructResult}
    (found : gapAfter previous index events = some gap) :
    ∃ applied note, gap = .without .cursorGap applied note := by
  induction events generalizing previous index with
  | nil => cases found
  | cons event rest induction =>
    rw [gapAfter] at found
    split at found
    · exact ⟨index, _, (Option.some.inj found).symm⟩
    · exact induction found

theorem exists_of_gapIn {gap : ReconstructResult} (found : gapIn cursor events = some gap) :
    ∃ applied note, gap = .without .cursorGap applied note := by
  cases events with
  | nil => cases found
  | cons event rest =>
    rw [gapIn] at found
    split at found
    · exact ⟨0, _, (Option.some.inj found).symm⟩
    · exact exists_of_gapAfter found

/-! ### The events that are applied -/

/-- Of the later events those that were received, in their order. -/
theorem laterEvents_eq (consecutive : Consecutive (cursor + 1) later)
    (distinct : (received.map PublicTableEvent.cursor).Nodup)
    (drawn : ∀ event ∈ received, cursor < event.cursor → event ∈ later) :
    laterEvents cursor received = later.filter fun event => event ∈ received := by
  have sorted : (laterEvents cursor received).Pairwise fun first second =>
    first.cursor < second.cursor :=
    (strictly_sortBy distinct).filter _
  have also : (later.filter fun event => event ∈ received).Pairwise
      fun first second => first.cursor < second.cursor := consecutive.sorted.filter _
  apply eq_of_sorted _ sorted also
  rw [List.perm_ext_iff_of_nodup (nodup_of_sorted sorted) (nodup_of_sorted also)]
  intro event
  rw [laterEvents, List.mem_filter, mem_sortBy, List.mem_filter,
    decide_eq_true_iff, decide_eq_true_iff]
  constructor
  · rintro ⟨member, after⟩
    exact ⟨drawn event member after, member⟩
  · rintro ⟨member, there⟩
    have bounds := consecutive.within member
    exact ⟨there, by omega⟩

/-! ### The reconstruction -/

/-- What a reconstruction comes to. -/
structure Reconstructed (locale : Locale) (created : CreateAgentStateInput)
    (sequence : List PublicTableEvent) (split : Nat)
    (received : List PublicTableEvent) (result : ReconstructResult) : Prop where
  whole : (∀ event ∈ sequence.drop split, event ∈ received) →
    result.status = .ok ∧ ∃ final, result.state = some final ∧
      ingestAll locale (createEmptyAgentState locale created) sequence = .ok final
  present : ¬ Hole (sequence.drop split) received →
    result.status = .ok ∧ ∃ count, split ≤ count ∧ count ≤ sequence.length ∧
      (∀ event ∈ sequence.drop split, event ∈ received ↔ event.cursor < count) ∧
      ∃ state, result.state = some state ∧ ingestAll locale (createEmptyAgentState locale created)
          (sequence.take count) = .ok state
  hole : result.status = .cursorGap ↔ Hole (sequence.drop split) received
  without : result.status = .cursorGap → result.state = none
  kept : ∀ state, result.state = some state → exceedsBounds state = false ∧ NoOwnModel state

/-- The replay of events that count on. -/
theorem replayed_of_consecutive (consecutive : Consecutive (state.publicEventCursor + 1) events)
    (kept : Kept locale created state) : (replayed locale state events).status = .ok ∧
    (replayed locale state events).state = some (events.foldl (ingested locale) state) := by
  rw [replayed, replay_of_consecutive consecutive]
  exact ⟨rfl, congrArg some (kept.afterEvents events).pruned⟩

theorem reconstructAgentState_of_taken
    {front : List PublicTableEvent} {checkpoint : Option AgentStateCheckpoint}
    (consecutive : Consecutive 0 front) (taken : Taken locale created front checkpoint) :
    reconstructAgentState locale (created.reconstruct checkpoint received) =
      match gapIn (-1 + front.length) (laterEvents (-1 + front.length) received) with
      | some gap => gap
      | none =>
        replayed locale (memoryAfter locale created front)
          (laterEvents (-1 + front.length) received) := by
  rcases @startingState_of_taken locale received created front checkpoint consecutive taken with
    ⟨sound, start⟩
  have fault : (created.reconstruct checkpoint received).checkpoint.bind
      (checkpointFault (created.reconstruct checkpoint received)) = none := sound
  rw [reconstructAgentState, fault, start]
  dsimp only
  rw [publicEventCursor_memoryAfter consecutive]
  rfl

theorem memoryAfter_append (front events : List PublicTableEvent) :
    events.foldl (ingested locale) (memoryAfter locale created front) =
      memoryAfter locale created (front ++ events) := List.foldl_append.symm

theorem Reconstructed.of_hole
    {sequence : List PublicTableEvent} {split : Nat} {result : ReconstructResult}
    (hole : Hole (sequence.drop split) received)
    (gap : ∃ applied note, result = .without .cursorGap applied note) :
    Reconstructed locale created sequence split received result := by
  rcases gap with ⟨applied, note, rfl⟩
  refine ⟨?_, fun none => absurd hole none, iff_of_true rfl hole, fun _ => rfl, ?_⟩
  · intro whole
    rcases hole with ⟨missing, member, gone, -⟩
    exact absurd (whole missing member) gone
  · intro state left
    exact absurd left.symm (Option.some_ne_none state)

theorem Reconstructed.of_reached {sequence : List PublicTableEvent} {split count : Nat}
    {result : ReconstructResult} (consecutive : ∀ count, Consecutive 0 (sequence.take count))
    (most : count ≤ (sequence.drop split).length) (within : split ≤ sequence.length)
    (unbroken : ¬ Hole (sequence.drop split) received) (each : ∀ event ∈ sequence.drop split,
      event ∈ received ↔ event.cursor < split + count) (status : result.status = .ok)
    (reached : result.state = some (memoryAfter locale created (sequence.take (split + count))))
    (whole : (∀ event ∈ sequence.drop split, event ∈ received) →
      sequence.take (split + count) = sequence) :
    Reconstructed locale created sequence split received result := by
  have ingest := @ingestAll_eq_memoryAfter locale _ created (consecutive (split + count))
  refine ⟨?_, ?_, ?_, ?_, ?_⟩
  · intro all
    rw [whole all] at reached ingest
    exact ⟨status, _, reached, ingest⟩
  · intro _
    refine ⟨status, split + count, Nat.le_add_right _ _, ?_, ?_, _, reached, ingest⟩
    · rw [List.length_drop] at most
      omega
    · intro event member
      rw [each event member, Nat.cast_add]
  · rw [status]
    exact iff_of_false nofun unbroken
  · intro gap
    rw [status] at gap
    cases gap
  · intro state left
    have same : memoryAfter locale created (sequence.take (split + count)) = state :=
      Option.some.inj (reached.symm.trans left)
    rw [← same]
    have kept := @kept_memoryAfter locale created (sequence.take (split + count))
    exact ⟨kept.bounded, kept.others⟩

/--
A reconstruction from a checkpoint and received events comes to the memory
after as many events as were received without a hole: after all of them when
all later ones are there.  It reports a gap exactly if there is a hole.
-/
theorem reconstruction_replays_what_is_present
    (locale : Locale) (created : CreateAgentStateInput)
    {sequence received : List PublicTableEvent} {split : Nat}
    {checkpoint : Option AgentStateCheckpoint}
    (consecutive : Consecutive 0 sequence)
    (within : split ≤ sequence.length)
    (taken : Taken locale created (sequence.take split) checkpoint)
    (distinct : (received.map PublicTableEvent.cursor).Nodup)
    (drawn : ∀ event ∈ received, (split : Int) ≤ event.cursor → event ∈ sequence) :
    (∀ count, ∃ state,
        ingestAll locale (createEmptyAgentState locale created)
            (sequence.take count) = .ok state ∧
          exceedsBounds state = false ∧ NoOwnModel state) ∧
      Reconstructed locale created sequence split received
        (reconstructAgentState locale
          (created.reconstruct checkpoint received)) := by
  have parts (count : Nat) : Consecutive 0 (sequence.take count) ∧
      Consecutive (0 + (sequence.take count).length) (sequence.drop count) := by
    rw [← consecutive_append, List.take_append_drop]
    exact consecutive
  have ingest (count : Nat) :=
    @ingestAll_eq_memoryAfter locale _ created (parts count).1
  refine ⟨fun count => ⟨_, ingest count,
    (kept_memoryAfter created _).bounded, (kept_memoryAfter created _).others⟩, ?_⟩
  have long : (sequence.take split).length = split :=
    List.length_take_of_le within
  have after : Consecutive (-1 + (split : Int) + 1) (sequence.drop split) := by
    have next := (parts split).2
    rw [long] at next
    rwa [show -1 + (split : Int) + 1 = 0 + split by omega]
  have drawnLater : ∀ event ∈ received, (split : Int) ≤ event.cursor →
      event ∈ sequence.drop split := by
    intro event member behind
    have whole := drawn event member behind
    rw [← List.take_append_drop split sequence] at whole
    refine (List.mem_append.mp whole).resolve_left ?_
    intro early
    have bounds := (parts split).1.within early
    rw [long] at bounds
    omega
  have later : laterEvents (-1 + split) received =
      (sequence.drop split).filter fun event => event ∈ received :=
    laterEvents_eq after distinct fun event member behind =>
      drawnLater event member (by omega)
  rw [reconstructAgentState_of_taken (parts split).1 taken, long, later]
  rcases after.filter_cases (fun event => event ∈ received) with
    ⟨follows, count, most, same, each⟩ |
      ⟨broken, missing, member, gone, other, -, there, ahead⟩
  · have reaches (event : PublicTableEvent)
        (member : event ∈ sequence.drop split) :
        event ∈ received ↔ event.cursor < split + count := by
      rw [← decide_eq_true_iff (p := event ∈ received), each event member]
      omega
    rw [gapIn_eq_none_iff.mpr follows]
    dsimp only
    have cursor := @publicEventCursor_memoryAfter locale _ created (parts split).1
    rw [long] at cursor
    have result := replayed_of_consecutive (cursor ▸ follows)
      (kept_memoryAfter created (sequence.take split))
    apply Reconstructed.of_reached (fun count => (parts count).1) most within _ reaches
      result.1
    · rw [result.2, memoryAfter_append, same, List.take_add]
    · intro all
      have every : (sequence.drop split).filter (fun event => event ∈ received) =
          sequence.drop split :=
        List.filter_eq_self.mpr fun event member =>
          decide_eq_true (all event member)
      rw [List.take_add, ← same, every, List.take_append_drop]
    · rintro ⟨missing, member, gone, present, there, ahead⟩
      have behind : ¬ missing.cursor < split + count :=
        fun below => gone ((reaches missing member).mpr below)
      have bounds := after.within member
      have before := (reaches present
        (drawnLater present there (by omega))).mp there
      omega
  · apply Reconstructed.of_hole
    · exact ⟨missing, member, of_decide_eq_false gone, other,
        of_decide_eq_true there, ahead⟩
    · cases gap : gapIn (-1 + split)
          ((sequence.drop split).filter fun event => event ∈ received) with
      | none => exact absurd (gapIn_eq_none_iff.mp gap) broken
      | some result => exact exists_of_gapIn gap

/-! ### Three events, and two that are too slow -/

namespace Replays

/-- The order of plain texts, and the texts of whole numbers. -/
def plain : Locale where
  localeCompare first second := if first = second then 0 else if first < second then -1 else 1
  numberText value := toString value.toUInt64.toNat

def ownSeat : CreateAgentStateInput where
  sessionId := "session"
  handId := "hand"
  seat := 0
  profileHash := "profile"

def acted (cursor : Int) (cadence : Option Float) : PublicTableEvent where
  cursor := cursor
  kind := .action
  street := .preflop
  actorSeat := some 1
  actionType := some 2
  amount := some (.string "40")
  publicCadenceMs := cadence

def shown (cursor : Int) : PublicTableEvent where
  cursor := cursor
  kind := .showdown
  street := .showdown
  showdownSeats := some [1, 0, 2]

/-- Two actions and a showdown. -/
def course : List PublicTableEvent := [acted 0 (some 1200), acted 1 (some 801), shown 2]

def checkpoint : AgentStateCheckpoint :=
  saveCheckpoint plain (memoryAfter plain ownSeat (course.take 1)) 5 "first"

theorem taken_checkpoint : Taken plain ownSeat (course.take 1) (some checkpoint) :=
  .saved (ingestAll_eq_memoryAfter (by decide))
    ⟨by decide +kernel, by decide +kernel, by decide +kernel, by decide +kernel⟩
    5 "first"

theorem reconstruction_replays_course :
    (∀ count, ∃ state,
        ingestAll plain (createEmptyAgentState plain ownSeat)
            (course.take count) = .ok state ∧
          exceedsBounds state = false ∧ NoOwnModel state) ∧
      Reconstructed plain ownSeat course 1 course.reverse
        (reconstructAgentState plain
          (ownSeat.reconstruct (some checkpoint) course.reverse)) :=
  reconstruction_replays_what_is_present plain ownSeat (by decide) (by decide)
    taken_checkpoint (by decide)
    (fun event member _ => List.mem_reverse.mp member)

/-- Two actions so slow that their mean is above every double. -/
def slow : List PublicTableEvent := [acted 0 (some 1e308), acted 1 (some 1e308)]

/--
Without its last event a sequence is taken for one that ends there, and a mean
that is not finite does not come back from a checkpoint.
-/
theorem missing_end_and_lost_mean :
    (Consecutive 0 (course.take 2) ∧ acted 1 (some 801) ∈ course.take 2 ∧
        acted 1 (some 801) ∉ course.take 1 ∧
        (reconstructAgentState plain
          (ownSeat.reconstruct none (course.take 1))).status = .ok) ∧
      (Consecutive 0 slow ∧
        ingestAll plain (createEmptyAgentState plain ownSeat) slow =
          .ok (memoryAfter plain ownSeat slow) ∧
        (reconstructAgentState plain
          (ownSeat.reconstruct
            (some (saveCheckpoint plain (memoryAfter plain ownSeat slow) 5 "slow"))
            slow)).status = .ok ∧
        (reconstructAgentState plain
          (ownSeat.reconstruct
            (some (saveCheckpoint plain (memoryAfter plain ownSeat slow) 5 "slow"))
            slow)).state ≠ some (memoryAfter plain ownSeat slow)) := by
  refine ⟨⟨by decide, by decide +kernel, by decide +kernel, by decide +kernel⟩,
    by decide, by decide +kernel, by decide +kernel, by decide +kernel⟩

end Replays

end Mozetto.AgentRuntime
