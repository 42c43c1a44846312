import Mozetto.Chain.Protocol

/-!
# Sealed sessions are frozen

Two paths lead to a sealed session, the relayer's and the vault's, and ten
functions move it on.  Each call changes the record of one session in one of
four ways: it drafts, amends a draft, seals, or advances the state along the
session graph.  Only sealing writes the commitments of a session that is past
its draft, and only once.
-/

namespace Mozetto.Chain

open Mozetto.Library.Guarded
open Mozetto.Library.Mapping
open Mozetto.Library.TransitionSystem

/-! ## The session graph -/

/--
The states that may follow one another.  The relayer goes through every state
and may abort before play; the vault may begin to settle, or exit, from every
state between sealing and the end.
-/
def LifecycleState.successors : LifecycleState → List LifecycleState
  | .none => [.draft, .sealed]
  | .draft => [.sealed, .aborted]
  | .sealed => [.randomnessPending, .aborted, .settling, .emergencyExit]
  | .randomnessPending => [.ready, .aborted, .settling, .emergencyExit]
  | .ready => [.active, .aborted, .settling, .emergencyExit]
  | .active => [.settling, .emergencyExit]
  | .settling => [.settled, .emergencyExit]
  | .settled => []
  | .aborted => []
  | .emergencyExit => []

/-- One edge of the session graph, or two when a call settles at once. -/
def LifecycleState.Follows (source target : LifecycleState) : Prop :=
  target ∈ source.successors ∨ LifecycleState.settling ∈ source.successors ∧ target = .settled

instance (source target : LifecycleState) : Decidable (source.Follows target) :=
  inferInstanceAs (Decidable (_ ∨ _))

/-- The session is past its draft. -/
def LifecycleState.PastDraft (state : LifecycleState) : Prop := state ≠ .none ∧ state ≠ .draft

instance (state : LifecycleState) : Decidable state.PastDraft := inferInstanceAs (Decidable (_ ∧ _))

theorem LifecycleState.Follows.not_terminal {source target : LifecycleState}
    (follows : source.Follows target) : source.isTerminal = false := by
  revert follows
  cases source <;> cases target <;> decide

/-! ## Runs of the lifecycle contract -/

/-- The contract, with the times at which every session was sealed. -/
structure LifecycleBook where
  lifecycle : SessionLifecycleV2
  seals : Bytes32 → List Nat

namespace LifecycleBook

/-- The session that a call seals. -/
def sealedSession : LifecycleCall → Option Bytes32
  | .sealDraft sessionId _ _ => some sessionId
  | .recordSealed sessionId _ => some sessionId
  | _ => none

/-- The seals of all sessions after an accepted call. -/
def stamped (seals : Bytes32 → List Nat) (time : Nat) (call : LifecycleCall) : Bytes32 → List Nat :=
  match sealedSession call with
  | some sessionId => write seals sessionId (time :: seals sessionId)
  | none => seals

def step (book : LifecycleBook) (call : Msg × LifecycleCall) :
    Except Revert LifecycleBook := do
  let lifecycle ← World.callLifecycle call.1 book.lifecycle call.2
  return {
    lifecycle := lifecycle
    seals := stamped book.seals call.1.timestamp call.2 }

/-- The contract after its construction. -/
def constructed (owner : Address) : LifecycleBook where
  lifecycle :=
    { owner := owner
      vault := 0
      sessionRelayer := 0
      gameRegistry := 0
      sessions := fun _ => .unset }
  seals := fun _ => []

def system : System LifecycleBook (Msg × LifecycleCall) Revert where
  initial := fun book => ∃ owner, owner ≠ 0 ∧ book = constructed owner
  step := step

/-! ## What a call does to one session -/

/-- The ways in which a call changes one session and its seals. -/
inductive Moves (time : Nat) (record : SessionRecord) (seals : List Nat) :
    SessionRecord → List Nat → Prop where
  | keep : Moves time record seals record seals
  | draft {gameTemplateId : Bytes32} (vacant : record.state = .none) :
      Moves time record seals
        { SessionRecord.unset with
          state := .draft
          gameTemplateId := gameTemplateId
          createdAt := time
          updatedAt := time }
        seals
  | amend
      {participantRoot openingBalanceRoot controllerRoot profileRoot : Bytes32}
      (drafting : record.state = .draft) :
      Moves time record seals
        { record with
          participantRoot := participantRoot
          openingBalanceRoot := openingBalanceRoot
          controllerRoot := controllerRoot
          profileRoot := profileRoot
          updatedAt := time }
        seals
  | stamp {result : SessionRecord} (unsealed : record.state = .none ∨ record.state = .draft)
      (state : result.state = .sealed) (sealedAt : result.sealedAt = time) :
      Moves time record seals result (time :: seals)
  | advance {target : LifecycleState} {vrfRequestId deckBatchRoot : Bytes32}
      (follows : record.state.Follows target)
      (past : target.PastDraft) (unsealed : target ≠ .sealed) :
      Moves time record seals
        { record with
          state := target
          vrfRequestId := vrfRequestId
          deckBatchRoot := deckBatchRoot
          updatedAt := time }
        seals

variable {msg : Msg} {before after : SessionLifecycleV2}
variable {sessionId other : Bytes32} {seals : Bytes32 → List Nat}

open SessionLifecycleV2

/-- Storing one record and one list of seals moves one session. -/
theorem moves_of_put {record : SessionRecord} {stamps : List Nat}
    (moves : Moves msg.timestamp (before.sessions sessionId) (seals sessionId) record stamps) :
    Moves msg.timestamp (before.sessions other) (seals other)
      ((before.put sessionId record).sessions other) (write seals sessionId stamps other) := by
  by_cases same : other = sessionId
  · subst same
    simpa [put] using moves
  · simp only [put, write_of_ne _ _ same]
    exact .keep

/-- Storing one record without sealing it moves one session. -/
theorem moves_of_put_unsealed {record : SessionRecord}
    (moves : Moves msg.timestamp (before.sessions sessionId) (seals sessionId)
        record (seals sessionId)) :
    Moves msg.timestamp (before.sessions other) (seals other)
      ((before.put sessionId record).sessions other) (seals other) := by
  by_cases same : other = sessionId
  · subst same
    simpa [put] using moves
  · simp only [put, write_of_ne _ _ same]
    exact .keep

theorem moves_of_requireState
    {expected target : LifecycleState} {vrfRequestId deckBatchRoot : Bytes32}
    (state : (before.sessions sessionId).state = expected) (follows : expected.Follows target)
    (past : target.PastDraft) (unsealed : target ≠ .sealed) :
    Moves msg.timestamp (before.sessions other) (seals other) ((before.put sessionId
        { before.sessions sessionId with
          state := target
          vrfRequestId := vrfRequestId
          deckBatchRoot := deckBatchRoot
          updatedAt := msg.timestamp }).sessions other)
      (seals other) := by
  refine moves_of_put_unsealed (.advance ?_ past unsealed)
  rw [state]
  exact follows

theorem requireState_eq_ok_iff
    {expected : LifecycleState} {done : Unit} (proper : expected ≠ .none) :
    requireState before sessionId expected = .ok done ↔
      (before.sessions sessionId).state = expected := by
  simp only [requireState, bind_eq_ok_iff, revertIf_eq_ok_iff, exists_const, ne_eq, not_not]
  constructor
  · exact fun both => both.2
  · intro same
    rw [same]
    exact ⟨proper, rfl⟩

theorem moves_of_advance {source target : LifecycleState}
    (proper : source ≠ .none) (follows : source.Follows target)
    (past : target.PastDraft) (unsealed : target ≠ .sealed)
    (accepted : advance source target msg before sessionId = .ok after) :
    Moves msg.timestamp (before.sessions other) (seals other)
      (after.sessions other) (seals other) := by
  simp only [advance, bind_eq_ok_iff, requireState_eq_ok_iff proper, pure_eq_ok_iff] at accepted
  rcases accepted with ⟨-, -, -, state, rfl⟩
  exact moves_of_requireState state follows past unsealed

theorem moves_of_terminate {sources : List LifecycleState} {target : LifecycleState}
    (follows : ∀ source ∈ sources, source.Follows target)
    (past : target.PastDraft) (unsealed : target ≠ .sealed)
    (accepted : terminate sources target msg before sessionId = .ok after) :
    Moves msg.timestamp (before.sessions other) (seals other)
      (after.sessions other) (seals other) := by
  simp only [terminate, bind_eq_ok_iff, revertIf_eq_ok_iff, exists_const,
    pure_eq_ok_iff, not_not] at accepted
  rcases accepted with ⟨-, -, -, member, rfl⟩
  exact moves_of_requireState rfl (follows _ member) past unsealed

/-- From where the vault's hooks proceed, the session may settle or exit. -/
theorem acceptsVaultHook_follows
    {state : LifecycleState} (accepts : state.acceptsVaultHook = true) :
    state.Follows .settled ∧ state.Follows .emergencyExit := by
  revert accepts
  cases state <;> decide

theorem callLifecycle_moves {call : LifecycleCall}
    (accepted : World.callLifecycle msg before call = .ok after) :
    Moves msg.timestamp (before.sessions other) (seals other)
      (after.sessions other) (stamped seals msg.timestamp call other) := by
  cases call with
  | createDraft sessionId gameTemplateId =>
    simp only [World.callLifecycle, createDraft, bind_eq_ok_iff,
      revertIf_eq_ok_iff, exists_const, pure_eq_ok_iff, ne_eq, not_not] at accepted
    rcases accepted with ⟨-, -, -, vacant, -, -, rfl⟩
    exact moves_of_put_unsealed (.draft vacant)
  | setDraftCommitments sessionId participantRoot openingBalanceRoot controllerRoot profileRoot =>
    simp only [World.callLifecycle, setDraftCommitments, bind_eq_ok_iff,
      revertIf_eq_ok_iff, exists_const, pure_eq_ok_iff, ne_eq, not_not] at accepted
    rcases accepted with ⟨-, -, -, drafting, rfl⟩
    exact moves_of_put_unsealed (.amend drafting)
  | sealDraft sessionId sessionDescriptorHash dealerSecretRoot =>
    simp only [World.callLifecycle, sealDraft, bind_eq_ok_iff,
      revertIf_eq_ok_iff, exists_const, pure_eq_ok_iff, ne_eq, not_not] at accepted
    rcases accepted with ⟨-, -, drafting, -, rfl⟩
    exact moves_of_put (.stamp (.inr drafting) rfl rfl)
  | beginRandomness sessionId vrfRequestId =>
    simp only [World.callLifecycle, beginRandomness, bind_eq_ok_iff,
      requireState_eq_ok_iff (show LifecycleState.sealed ≠ .none by decide),
      pure_eq_ok_iff] at accepted
    rcases accepted with ⟨-, -, -, state, rfl⟩
    exact moves_of_requireState state (by decide) (by decide) (by decide)
  | markReady sessionId deckBatchRoot =>
    simp only [World.callLifecycle, markReady, bind_eq_ok_iff, requireState_eq_ok_iff
        (show LifecycleState.randomnessPending ≠ .none by decide), pure_eq_ok_iff] at accepted
    rcases accepted with ⟨-, -, -, state, rfl⟩
    exact moves_of_requireState state (by decide) (by decide) (by decide)
  | activate sessionId =>
    exact moves_of_advance (by decide) (by decide) (by decide) (by decide) accepted
  | beginSettling sessionId =>
    exact moves_of_advance (by decide) (by decide) (by decide) (by decide) accepted
  | markSettled sessionId =>
    exact moves_of_advance (by decide) (by decide) (by decide) (by decide) accepted
  | abort sessionId =>
    exact moves_of_terminate (by decide) (by decide) (by decide) accepted
  | markEmergencyExit sessionId =>
    exact moves_of_terminate (by decide) (by decide) (by decide) accepted
  | recordSealed sessionId commitments =>
    simp only [World.callLifecycle, recordSealed, bind_eq_ok_iff,
      revertIf_eq_ok_iff, exists_const, pure_eq_ok_iff] at accepted
    rcases accepted with ⟨-, -, -, -, unsealed, -, -, -, rfl⟩
    have source : (before.sessions sessionId).state = .none ∨
        (before.sessions sessionId).state = .draft := by
      by_contra neither
      exact unsealed (not_or.mp neither)
    exact moves_of_put (.stamp source rfl rfl)
  | recordSettled sessionId =>
    rcases recordSettled_eq_ok_iff.mp accepted with ⟨-, accepts, rfl⟩
    exact moves_of_requireState rfl (acceptsVaultHook_follows accepts).1 (by decide) (by decide)
  | recordEmergencyExit sessionId =>
    rcases recordEmergencyExit_eq_ok_iff.mp accepted with ⟨-, accepts, rfl⟩
    exact moves_of_requireState rfl (acceptsVaultHook_follows accepts).2 (by decide) (by decide)
  | setVault vault =>
    simp only [World.callLifecycle, setVault, bind_eq_ok_iff, pure_eq_ok_iff] at accepted
    rcases accepted with ⟨-, -, rfl⟩
    exact .keep
  | setSessionRelayer relayer =>
    simp only [World.callLifecycle, setSessionRelayer, bind_eq_ok_iff, pure_eq_ok_iff] at accepted
    rcases accepted with ⟨-, -, rfl⟩
    exact .keep
  | setGameRegistry registry =>
    simp only [World.callLifecycle, setGameRegistry, bind_eq_ok_iff, pure_eq_ok_iff] at accepted
    rcases accepted with ⟨-, -, rfl⟩
    exact .keep
  | ownable ownableCall =>
    simp only [World.callLifecycle, changeOwner, bind_eq_ok_iff, pure_eq_ok_iff] at accepted
    rcases accepted with ⟨-, -, rfl⟩
    exact .keep

/-! ## Frozen records -/

/-- A session past its draft keeps its commitments and its sealing time. -/
structure Freezes (before after : SessionRecord) : Prop where
  past : before.state.PastDraft → after.state.PastDraft
  gameTemplateId : before.state.PastDraft → after.gameTemplateId = before.gameTemplateId
  participantRoot : before.state.PastDraft → after.participantRoot = before.participantRoot
  openingBalanceRoot : before.state.PastDraft → after.openingBalanceRoot = before.openingBalanceRoot
  controllerRoot : before.state.PastDraft → after.controllerRoot = before.controllerRoot
  profileRoot : before.state.PastDraft → after.profileRoot = before.profileRoot
  dealerSecretRoot : before.state.PastDraft → after.dealerSecretRoot = before.dealerSecretRoot
  sessionDescriptorHash : before.state.PastDraft →
      after.sessionDescriptorHash = before.sessionDescriptorHash
  sealedAt : before.state.PastDraft → after.sealedAt = before.sealedAt
  terminal : before.state.isTerminal = true → after.state = before.state

theorem terminal_pastDraft {state : LifecycleState} (terminal : state.isTerminal = true) :
    state.PastDraft := by
  revert terminal
  cases state <;> decide

theorem Freezes.refl (record : SessionRecord) : Freezes record record :=
  ⟨id, fun _ => rfl, fun _ => rfl, fun _ => rfl, fun _ => rfl, fun _ => rfl,
    fun _ => rfl, fun _ => rfl, fun _ => rfl, fun _ => rfl⟩

theorem Freezes.trans {first second third : SessionRecord}
    (earlier : Freezes first second) (later : Freezes second third) : Freezes first third where
  past := fun past => later.past (earlier.past past)
  gameTemplateId := fun past =>
    (later.gameTemplateId (earlier.past past)).trans (earlier.gameTemplateId past)
  participantRoot := fun past =>
    (later.participantRoot (earlier.past past)).trans (earlier.participantRoot past)
  openingBalanceRoot := fun past =>
    (later.openingBalanceRoot (earlier.past past)).trans (earlier.openingBalanceRoot past)
  controllerRoot := fun past =>
    (later.controllerRoot (earlier.past past)).trans (earlier.controllerRoot past)
  profileRoot := fun past =>
    (later.profileRoot (earlier.past past)).trans (earlier.profileRoot past)
  dealerSecretRoot := fun past =>
    (later.dealerSecretRoot (earlier.past past)).trans (earlier.dealerSecretRoot past)
  sessionDescriptorHash := fun past =>
    (later.sessionDescriptorHash (earlier.past past)).trans (earlier.sessionDescriptorHash past)
  sealedAt := fun past =>
    (later.sealedAt (earlier.past past)).trans (earlier.sealedAt past)
  terminal := by
    intro terminal
    have same := earlier.terminal terminal
    rw [later.terminal (same ▸ terminal), same]

/-- A record that is not past its draft restricts nothing. -/
theorem Freezes.of_draft {before after : SessionRecord} (draft : ¬ before.state.PastDraft) :
    Freezes before after where
  past := fun past => absurd past draft
  gameTemplateId := fun past => absurd past draft
  participantRoot := fun past => absurd past draft
  openingBalanceRoot := fun past => absurd past draft
  controllerRoot := fun past => absurd past draft
  profileRoot := fun past => absurd past draft
  dealerSecretRoot := fun past => absurd past draft
  sessionDescriptorHash := fun past => absurd past draft
  sealedAt := fun past => absurd past draft
  terminal := fun terminal => absurd (terminal_pastDraft terminal) draft

theorem not_pastDraft_of_unsealed
    {state : LifecycleState} (unsealed : state = .none ∨ state = .draft) : ¬ state.PastDraft := by
  rcases unsealed with rfl | rfl <;> decide

theorem Moves.freezes {time : Nat} {record result : SessionRecord} {stamps later : List Nat}
    (moves : Moves time record stamps result later) :
    Freezes record result := by
  cases moves with
  | keep => exact .refl record
  | draft vacant => exact .of_draft (not_pastDraft_of_unsealed (.inl vacant))
  | amend drafting =>
    exact .of_draft (not_pastDraft_of_unsealed (.inr drafting))
  | stamp unsealed => exact .of_draft (not_pastDraft_of_unsealed unsealed)
  | advance follows past unsealed =>
    refine ⟨fun _ => past, fun _ => rfl, fun _ => rfl, fun _ => rfl,
      fun _ => rfl, fun _ => rfl, fun _ => rfl, fun _ => rfl, fun _ => rfl, ?_⟩
    intro terminal
    rw [follows.not_terminal] at terminal
    cases terminal

/-- A call stays in its state or follows the session graph. -/
theorem Moves.follows {time : Nat} {record result : SessionRecord} {stamps later : List Nat}
    (moves : Moves time record stamps result later) :
    result.state = record.state ∨ record.state.Follows result.state := by
  cases moves with
  | keep => exact .inl rfl
  | draft vacant =>
    right
    rw [vacant]
    show LifecycleState.none.Follows .draft
    decide
  | amend drafting => exact .inl rfl
  | stamp unsealed state =>
    right
    rcases unsealed with vacant | drafting
    · rw [vacant, state]
      decide
    · rw [drafting, state]
      decide
  | advance follows => exact .inr follows

/-- A session is sealed once on its way out of the draft, unless aborted. -/
structure Stamped (record : SessionRecord) (seals : List Nat) : Prop where
  draft : ¬ record.state.PastDraft → seals = [] ∧ record.sealedAt = 0
  past : record.state.PastDraft → seals = [record.sealedAt] ∨
        seals = [] ∧ record.sealedAt = 0 ∧ record.state = .aborted

theorem unset_stamped : Stamped .unset [] where
  draft := fun _ => ⟨rfl, rfl⟩
  past := fun past => absurd rfl past.1

/-- What may follow before sealing without sealing is the abort. -/
theorem aborted_of_follows {source target : LifecycleState}
    (draft : ¬ source.PastDraft) (follows : source.Follows target)
    (past : target.PastDraft) (unsealed : target ≠ .sealed) : target = .aborted := by
  revert draft follows past unsealed
  cases source <;> cases target <;> decide

theorem Moves.stamped {time : Nat} {record result : SessionRecord} {stamps later : List Nat}
    (moves : Moves time record stamps result later) (stamped : Stamped record stamps) :
    Stamped result later := by
  cases moves with
  | keep => exact stamped
  | draft vacant =>
    have none := stamped.draft (not_pastDraft_of_unsealed (.inl vacant))
    constructor
    · exact fun _ => ⟨none.1, rfl⟩
    · exact fun past =>
      absurd past (not_pastDraft_of_unsealed (.inr rfl))
  | amend drafting =>
    have none := stamped.draft (not_pastDraft_of_unsealed (.inr drafting))
    constructor
    · exact fun _ => none
    · exact fun past =>
      absurd past (not_pastDraft_of_unsealed (.inr drafting))
  | stamp unsealed state sealedAt =>
    have none := stamped.draft (not_pastDraft_of_unsealed unsealed)
    constructor
    · intro draft
      rw [state] at draft
      exact absurd (by decide) draft
    · intro _
      left
      rw [none.1, sealedAt]
  | advance follows past unsealed =>
    constructor
    · exact fun draft => absurd past draft
    · intro _
      by_cases before : record.state.PastDraft
      · rcases stamped.past before with sealed | ⟨-, -, aborted⟩
        · exact .inl sealed
        · have live := follows.not_terminal
          rw [aborted] at live
          cases live
      · rcases stamped.draft before with ⟨none, zero⟩
        exact .inr ⟨none, zero, aborted_of_follows before follows past unsealed⟩

theorem step_moves {book next : LifecycleBook} {call : Msg × LifecycleCall}
    (accepted : step book call = .ok next) (sessionId : Bytes32) :
    Moves call.1.timestamp (book.lifecycle.sessions sessionId)
      (book.seals sessionId) (next.lifecycle.sessions sessionId) (next.seals sessionId) := by
  simp only [step, bind_eq_ok_iff, pure_eq_ok_iff] at accepted
  rcases accepted with ⟨lifecycle, called, rfl⟩
  exact callLifecycle_moves called

/--
In every run: a session past its draft keeps its commitments, a terminal one
its state, and calls follow the session graph.  A session past its draft has
been sealed exactly once, at the time on record, unless it was aborted as a
draft; then it was never sealed.
-/
theorem sessions_frozen
    {book : LifecycleBook} (reached : system.Reachable AnyCall book) :
    (∀ sessionId later,
        (system.startingAt book).Reachable AnyCall later →
          Freezes (book.lifecycle.sessions sessionId)
            (later.lifecycle.sessions sessionId)) ∧
      (∀ sessionId call next, step book call = .ok next →
        (next.lifecycle.sessions sessionId).state =
            (book.lifecycle.sessions sessionId).state ∨
          (book.lifecycle.sessions sessionId).state.Follows
            (next.lifecycle.sessions sessionId).state) ∧
      ∀ sessionId,
        Stamped (book.lifecycle.sessions sessionId)
          (book.seals sessionId) := by
  refine ⟨?_, ?_, ?_⟩
  · intro sessionId later continued
    induction continued with
    | start initial =>
        rw [show _ = book from initial]
        exact .refl _
    | next _ _ accepted frozen =>
        exact frozen.trans (step_moves accepted sessionId).freezes
  · exact fun sessionId call next accepted =>
      (step_moves accepted sessionId).follows
  · intro sessionId
    induction reached with
    | start initial =>
        rcases initial with ⟨owner, -, rfl⟩
        exact unset_stamped
    | next _ _ accepted stamped =>
        exact (step_moves accepted sessionId).stamped stamped

/-! ## Two runs -/

/-- A call of the owner. -/
def byOwner (call : LifecycleCall) : Msg × LifecycleCall :=
  (.plain 1 5 (by decide) (by decide), call)

/-- A session that is sealed and settled by the vault's hooks. -/
theorem sessions_frozen_settled :
    ∃ book,
      system.Reachable AnyCall book ∧
        (book.lifecycle.sessions 7).state = .settled ∧
        Stamped (book.lifecycle.sessions 7) (book.seals 7) ∧
        ∀ later, (system.startingAt book).Reachable AnyCall later →
          (later.lifecycle.sessions 7).state = .settled := by
  have played :
      (system.replay AnyCall (constructed 1)
        [byOwner (.recordSealed 7 ⟨1, 2, 3, 4, 5, 6, 8⟩),
          byOwner (.recordSettled 7)]).any
        (fun book =>
          decide
            ((book.lifecycle.sessions 7).state = .settled)) = true := by
    decide +kernel
  have start : system.Reachable AnyCall (constructed 1) :=
    .start ⟨1, by decide, rfl⟩
  rcases System.Reachable.exists_replay start played with
    ⟨book, reached, observed⟩
  have settled := of_decide_eq_true observed
  rcases sessions_frozen reached with ⟨frozen, -, stamped⟩
  refine ⟨book, reached, settled, stamped 7, ?_⟩
  intro later continued
  rw [(frozen 7 later continued).terminal (by rw [settled]; rfl), settled]

/--
A draft may be aborted, which leaves it past its draft and never sealed; and
one call of the vault takes a session from sealed to settled.
-/
theorem exists_unsealed_and_shortcut :
    (∃ book,
        system.Reachable AnyCall book ∧
          (book.lifecycle.sessions 7).state.PastDraft ∧
          book.seals 7 = [] ∧ (book.lifecycle.sessions 7).sealedAt = 0) ∧
      ∃ book,
        system.Reachable AnyCall book ∧
          (book.lifecycle.sessions 7).state = .sealed ∧
          (step book (byOwner (.recordSettled 7))).toOption.any
            (fun next =>
              decide
                ((next.lifecycle.sessions 7).state = .settled)) = true := by
  have start : system.Reachable AnyCall (constructed 1) :=
    .start ⟨1, by decide, rfl⟩
  constructor
  · have played :
        (system.replay AnyCall (constructed 1)
          [byOwner (.createDraft 7 1), byOwner (.abort 7)]).any
          (fun book =>
            decide
              ((book.lifecycle.sessions 7).state.PastDraft ∧
                book.seals 7 = [] ∧
                (book.lifecycle.sessions 7).sealedAt = 0)) = true := by
      decide +kernel
    rcases System.Reachable.exists_replay start played with
      ⟨book, reached, observed⟩
    exact ⟨book, reached, of_decide_eq_true observed⟩
  · have played :
        (system.replay AnyCall (constructed 1)
          [byOwner (.recordSealed 7 ⟨1, 2, 3, 4, 5, 6, 8⟩)]).any
          (fun book =>
            decide
              ((book.lifecycle.sessions 7).state = .sealed ∧
                (step book (byOwner (.recordSettled 7))).toOption.any
                  (fun next =>
                    decide
                      ((next.lifecycle.sessions 7).state =
                        .settled)) = true)) = true := by
      decide +kernel
    rcases System.Reachable.exists_replay start played with
      ⟨book, reached, observed⟩
    exact ⟨book, reached, of_decide_eq_true observed⟩

end LifecycleBook

end Mozetto.Chain
