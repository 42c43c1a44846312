import Mozetto.Chain.Settleable
import Mozetto.Matchmaking.AttemptEffects

/-!
# Locks and the players' table

A row is inserted before its transaction is broadcast, both when a table is
created and when one is joined.  The creator's row is never deleted.  A
joiner's row is deleted by the error handler whatever became of the top-up,
so that a lock may lose its row, or arrive after it.
-/

namespace Mozetto.Matchmaking

open Mozetto.Chain
open Mozetto.Library.Mapping
open Mozetto.Library.TransitionSystem

/-! ## Events -/

/-- What an event does; attempts step by their own effects. -/
inductive EventEffect {deployment : Deployment} (relayer : Relayer deployment)
    (state after : MatchState) : MatchEvent deployment → Prop where
  | attempted {event : MatchEvent deployment} {index : Nat} {attempt : Attempt}
      (named : event.attempt = some index) (present : state.attempts index = some attempt)
      (effect : AttemptEffect event state after index attempt) :
      EventEffect relayer state after event
  | started {event : MatchEvent deployment} {index : Nat} (attempt : Attempt)
      (changed : Changed state after index attempt .claiming
          state.db.onchainSessionPlayers state.mempool state.sessionIds) :
      EventEffect relayer state after event
  | kept {event : MatchEvent deployment} {db : Db}
      (players : db.onchainSessionPlayers = state.db.onchainSessionPlayers)
      (equal : after = { state with db := db }) : EventEffect relayer state after event
  | mined {place : Nat} {block : Msg} {index : Nat} {tx : RelayerTx}
      (found : state.mempool[place]? = some (index, tx))
      (equal :
        after = { state with
          world := mine relayer block state.world tx
          mempool := state.mempool.eraseIdx place }) :
      EventEffect relayer state after (.confirm place block)
  | called {call : ExternalCall deployment} {world : World}
      (noLock : raisesNoLock call.operation = true)
      (accepted : state.world.stepOperation deployment call.msg call.operation = .ok world)
      (equal : after = { state with world := world }) :
      EventEffect relayer state after (.chain call)

section Events

variable {deployment : Deployment} {relayer : Relayer deployment}
variable {state after : MatchState} {event : MatchEvent deployment}

theorem EventEffect.of_attempt (index : Nat) (named : event.attempt = some index)
    (stepped : (match state.attempts index with
        | none => none
        | some attempt => stepAttempt state index attempt event) = some after) :
    EventEffect relayer state after event := by
  cases present : state.attempts index with
  | none =>
    rw [present] at stepped
    cases stepped
  | some attempt =>
    rw [present] at stepped
    exact .attempted named present (.of_stepAttempt stepped)

/-- Every event has one of the effects. -/
theorem EventEffect.of_stepMatch (stepped : stepMatch relayer state event = some after) :
    EventEffect relayer state after event := by
  cases event with
  | storeTicket ticketId ticket =>
    simp only [stepMatch] at stepped
    split at stepped
    · have players : (state.db.putTicket ticketId ticket).onchainSessionPlayers =
          state.db.onchainSessionPlayers := rfl
      exact .kept players (Option.some.inj stepped).symm
    · cases stepped
  | start index profileId ticketId pool maxSeats leagueBit =>
    simp only [stepMatch] at stepped
    split at stepped
    · rw [← Option.some.inj stepped]
      exact .started ⟨profileId, ticketId, pool, maxSeats, leagueBit, .claiming⟩
          ⟨rfl, rfl, rfl, rfl, rfl⟩
    · cases stepped
  | confirm place block =>
    simp only [stepMatch] at stepped
    split at stepped
    · next index tx found =>
      exact .mined found (Option.some.inj stepped).symm
    · cases stepped
  | chain call =>
    simp only [stepMatch] at stepped
    split at stepped
    · next noLock =>
      split at stepped
      · next world accepted =>
        exact .called noLock accepted (Option.some.inj stepped).symm
      · cases stepped
    · cases stepped
  | progress sessionId status completed =>
    exact .kept (Db.updateSession_players _ _ _) (Option.some.inj stepped).symm
  | claim index _ _ _ => exact .of_attempt index rfl stepped
  | readOpenedAt index _ => exact .of_attempt index rfl stepped
  | broadcast index _ => exact .of_attempt index rfl stepped
  | receipt index _ _ => exact .of_attempt index rfl stepped
  | markOpened index _ => exact .of_attempt index rfl stepped
  | finish index _ => exact .of_attempt index rfl stepped
  | releaseClaim index _ => exact .of_attempt index rfl stepped
  | failBatch index _ => exact .of_attempt index rfl stepped
  | block index _ => exact .of_attempt index rfl stepped
  | claimSingle index _ _ => exact .of_attempt index rfl stepped
  | link index _ _ => exact .of_attempt index rfl stepped
  | createPending index _ => exact .of_attempt index rfl stepped
  | insertPlayers index _ => exact .of_attempt index rfl stepped
  | stop index => exact .of_attempt index rfl stepped

/-- An accepted event is one that can happen. -/
theorem stepMatch_of_step (accepted : (matchmaking relayer).step state event = .ok after) :
    stepMatch relayer state event = some after := by
  simp only [matchmaking] at accepted
  split at accepted
  · next stepped =>
    rw [stepped, Except.ok.inj accepted]
  · cases accepted

end Events

/-! ## What attempts hold -/

namespace MatchState

variable (state : MatchState)

/-- An attempt of this profile holds a joiner's claim on the session. -/
def Joins (sessionId : Bytes32) (profileId : Nat) : Prop :=
  ∃ index attempt, state.attempts index = some attempt ∧
      attempt.phase.joins = some sessionId ∧ attempt.profileId = profileId

/-- This attempt is creating the session. -/
def Prepares (index : Nat) (sessionId : Bytes32) : Prop :=
  ∃ attempt, state.attempts index = some attempt ∧ attempt.phase.prepares = some sessionId

/-- An attempt is about to open the session, or has broadcast that. -/
def Opens (ticket : SeatTicketRow) (sessionId : Bytes32) : Prop :=
  (∃ index attempt, state.attempts index = some attempt ∧
      attempt.phase.opens = some (ticket, sessionId)) ∨ ∃ index leagueBit pool,
      (index, .openSession ticket sessionId leagueBit pool) ∈ state.mempool

end MatchState

section Holdings

variable {state after : MatchState} {index : Nat} {attempt : Attempt}
variable {phase : Phase} {players : List SessionPlayerRow}
variable {mempool : List (Nat × RelayerTx)} {sessionIds : List Bytes32}

/-- The attempts afterwards are this one and those of before. -/
theorem Changed.attempts_cases
    (changed : Changed state after index attempt phase players mempool sessionIds)
    {other : Nat} {found : Attempt}
    (present : after.attempts other = some found) :
    (other = index ∧ found = { attempt with phase := phase }) ∨
      (other ≠ index ∧ state.attempts other = some found) := by
  rw [changed.attempts] at present
  by_cases same : other = index
  · subst same
    rw [write_self] at present
    exact Or.inl ⟨rfl, (Option.some.inj present).symm⟩
  · rw [write_of_ne _ _ same] at present
    exact Or.inr ⟨same, present⟩

theorem Changed.joins_cases
    (changed : Changed state after index attempt phase players mempool sessionIds)
    {sessionId : Bytes32} {profileId : Nat}
    (joins : after.Joins sessionId profileId) :
    state.Joins sessionId profileId ∨
      (phase.joins = some sessionId ∧ attempt.profileId = profileId) := by
  obtain ⟨other, found, present, held, profile⟩ := joins
  rcases changed.attempts_cases present with ⟨-, rfl⟩ | ⟨-, earlier⟩
  · exact Or.inr ⟨held, profile⟩
  · exact Or.inl ⟨other, found, earlier, held, profile⟩

theorem Changed.prepares_cases
    (changed : Changed state after index attempt phase players mempool sessionIds)
    {other : Nat} {sessionId : Bytes32}
    (prepares : after.Prepares other sessionId) :
    (other ≠ index ∧ state.Prepares other sessionId) ∨
      (other = index ∧ phase.prepares = some sessionId) := by
  obtain ⟨found, present, held⟩ := prepares
  rcases changed.attempts_cases present with ⟨same, rfl⟩ | ⟨ne, earlier⟩
  · exact Or.inr ⟨same, held⟩
  · exact Or.inl ⟨ne, found, earlier, held⟩

theorem Changed.opens_cases
    (changed : Changed state after index attempt phase players mempool sessionIds)
    (sent : ∀ entry ticket sessionId leagueBit pool,
        (entry, RelayerTx.openSession ticket sessionId leagueBit pool) ∈ mempool →
          state.Opens ticket sessionId)
    {ticket : SeatTicketRow} {sessionId : Bytes32}
    (opens : after.Opens ticket sessionId) :
    state.Opens ticket sessionId ∨ phase.opens = some (ticket, sessionId) := by
  rcases opens with ⟨other, found, present, held⟩ | ⟨other, bit, pool, pending⟩
  · rcases changed.attempts_cases present with ⟨-, rfl⟩ | ⟨-, earlier⟩
    · exact Or.inr held
    · exact Or.inl (Or.inl ⟨other, found, earlier, held⟩)
  · left
    rw [changed.mempool] at pending
    exact sent _ _ _ _ _ pending

/-- Transactions that are pending already open nothing new. -/
theorem MatchState.opens_of_pending {entry leagueBit pool : Nat} {ticket : SeatTicketRow}
    {sessionId : Bytes32}
    (pending : (entry, .openSession ticket sessionId leagueBit pool) ∈ state.mempool) :
    state.Opens ticket sessionId :=
  Or.inr ⟨entry, leagueBit, pool, pending⟩

end Holdings

/-! ## The invariant -/

/-- A session that exists for its creator only. -/
structure Unborn (state : MatchState) (index : Nat) (sessionId : Bytes32) : Prop where
  drawn : sessionId ∈ state.sessionIds
  empty : ∀ row ∈ state.db.onchainSessionPlayers, row.sessionId ≠ sessionId
  unjoined : ∀ profileId, ¬ state.Joins sessionId profileId
  own : ∀ other, state.Prepares other sessionId → other = index

/-- The creator is listed, and no joiner's claim can delete its row. -/
structure Seated (state : MatchState) (ticket : SeatTicketRow) (sessionId : Bytes32) : Prop where
  row : ∃ row ∈ state.db.onchainSessionPlayers,
      row.sessionId = sessionId ∧ row.profileId = ticket.profileId ∧
        row.walletAddress = ticket.arena
  apart : ¬ state.Joins sessionId ticket.profileId

/-- What holds in every state, whichever calls fail. -/
structure Sound (deployment : Deployment) (state : MatchState) : Prop where
  world : state.world.Consistent deployment
  joined : ∀ sessionId profileId, state.Joins sessionId profileId → sessionId ∈ state.sessionIds
  listed : ∀ row ∈ state.db.onchainSessionPlayers, row.sessionId ∈ state.sessionIds
  unborn : ∀ index sessionId, state.Prepares index sessionId → Unborn state index sessionId
  seated : ∀ ticket sessionId, state.Opens ticket sessionId → Seated state ticket sessionId

section Mining

variable {deployment : Deployment} {relayer : Relayer deployment}
variable {world : World}

/-- A mined transaction is a call of the relayer, or nothing happens. -/
theorem mine_cases (relayer : Relayer deployment) (block : Msg) (world : World) (tx : RelayerTx) :
    world.stepOperation deployment { block with sender := relayer.address }
        (.vault (tx.call relayer)) = .ok (mine relayer block world tx) ∨
      mine relayer block world tx = world := by
  unfold mine
  cases world.stepOperation deployment { block with sender := relayer.address }
      (.vault (tx.call relayer)) with
  | ok after => exact Or.inl rfl
  | error _ => exact Or.inr rfl

theorem consistent_mine (block : Msg) (tx : RelayerTx) (consistent : world.Consistent deployment) :
    (mine relayer block world tx).Consistent deployment := by
  rcases mine_cases relayer block world tx with accepted | reverted
  · exact consistent.steps (CustodySteps.of_effect
          (Effect.of_stepOperation consistent.registered relayer.outside accepted))
  · rw [reverted]
    exact consistent

/-- The session and the account that a transaction locks for. -/
def RelayerTx.seat : RelayerTx → Bytes32 × Address
  | openSession ticket sessionId _ _ => (sessionId, ticket.arena)
  | topUpSession ticket sessionId _ => (sessionId, ticket.arena)

/-- A mined transaction locks for its own session and account only. -/
theorem locked_of_mine {block : Msg} {tx : RelayerTx} {sessionId : Bytes32} {account : Address}
    (locked : (mine relayer block world tx).vault.lockedBySession sessionId account ≠ 0) :
    world.vault.lockedBySession sessionId account ≠ 0 ∨ tx.seat = (sessionId, account) := by
  rcases mine_cases relayer block world tx with accepted | reverted
  · cases tx with
    | openSession ticket opened leagueBit pool =>
      rcases locked_of_openSession accepted locked with
        earlier | ⟨session, seat, member, player⟩
      · exact Or.inl earlier
      · rw [List.mem_singleton.mp member] at player
        rw [session, player]
        exact Or.inr rfl
    | topUpSession ticket opened leagueBit =>
      have effect := (ArenaVaultV2.topUpSession_eq_ok accepted).2
      rcases effect.locked_cases locked with earlier | ⟨session, player⟩
      · exact Or.inl earlier
      · rw [session, player]
        exact Or.inr rfl
  · rw [reverted] at locked
    exact Or.inl locked

end Mining

/-- The first player of a session is added in front of the others. -/
theorem insertOnchainSessionPlayers_of_empty
    {db : Db} {ticket : SeatTicketRow} {sessionId : Bytes32} {seat : Nat}
    (empty : ∀ row ∈ db.onchainSessionPlayers, row.sessionId ≠ sessionId) :
    (db.insertOnchainSessionPlayers ticket sessionId seat).onchainSessionPlayers =
      Db.playerRow ticket sessionId seat :: db.onchainSessionPlayers := by
  have absent : ¬ db.onchainSessionPlayers.any (fun row =>
    row.sessionId = sessionId ∧ row.walletAddress = ticket.arena) := by
    intro present
    obtain ⟨row, member, same⟩ := List.any_eq_true.mp present
    exact empty row member (of_decide_eq_true same).1
  exact if_neg absent

namespace Sound

variable {deployment : Deployment} {state after : MatchState}

theorem initially (initial : state.Initial) : Sound deployment state where
  world := World.Consistent.initially initial.world
  joined := by
    rintro sessionId profileId ⟨index, attempt, present, -⟩
    rw [initial.attempts] at present
    cases present
  listed := by
    intro row member
    rw [initial.players] at member
    cases member
  unborn := by
    rintro index sessionId ⟨attempt, present, -⟩
    rw [initial.attempts] at present
    cases present
  seated := by
    rintro ticket sessionId (⟨index, attempt, present, -⟩ | ⟨_, _, _, sent⟩)
    · rw [initial.attempts] at present
      cases present
    · rw [initial.mempool] at sent
      cases sent

/-- A state in which attempts hold no more, and no other rows are gone. -/
structure Lesser (state after : MatchState) : Prop where
  joins : ∀ sessionId profileId, after.Joins sessionId profileId → state.Joins sessionId profileId
  prepares : ∀ index sessionId, after.Prepares index sessionId → state.Prepares index sessionId
  opens : ∀ ticket sessionId, after.Opens ticket sessionId → state.Opens ticket sessionId
  fewer : ∀ row ∈ after.db.onchainSessionPlayers, row ∈ state.db.onchainSessionPlayers
  dropped : ∀ row ∈ state.db.onchainSessionPlayers, row ∈ after.db.onchainSessionPlayers ∨
        state.Joins row.sessionId row.profileId
  sessionIds : after.sessionIds = state.sessionIds

theorem of_lesser (sound : Sound deployment state) (world : after.world.Consistent deployment)
    (lesser : Lesser state after) : Sound deployment after where
  world := world
  joined := by
    intro sessionId profileId joins
    rw [lesser.sessionIds]
    exact sound.joined _ _ (lesser.joins _ _ joins)
  listed := by
    intro row member
    rw [lesser.sessionIds]
    exact sound.listed row (lesser.fewer row member)
  unborn := by
    intro index sessionId prepares
    have earlier := sound.unborn _ _ (lesser.prepares _ _ prepares)
    constructor
    · rw [lesser.sessionIds]
      exact earlier.drawn
    · intro row member
      exact earlier.empty row (lesser.fewer row member)
    · intro profileId joins
      exact earlier.unjoined profileId (lesser.joins _ _ joins)
    · intro other held
      exact earlier.own other (lesser.prepares _ _ held)
  seated := by
    intro ticket sessionId opens
    have earlier := sound.seated _ _ (lesser.opens _ _ opens)
    obtain ⟨row, member, session, profile, wallet⟩ := earlier.row
    constructor
    · rcases lesser.dropped row member with kept | joins
      · exact ⟨row, kept, session, profile, wallet⟩
      · rw [session, profile] at joins
        exact absurd joins earlier.apart
    · intro joins
      exact earlier.apart (lesser.joins _ _ joins)

section Attempts

variable {index : Nat} {attempt : Attempt} {phase : Phase}
variable {players : List SessionPlayerRow}
variable {mempool : List (Nat × RelayerTx)}

/-- An attempt that moves on without taking anything new. -/
theorem Lesser.of_follows (present : state.attempts index = some attempt)
    (follows : attempt.phase.Follows phase)
    (changed : Changed state after index attempt phase players mempool state.sessionIds)
    (sent : ∀ entry ticket sessionId leagueBit pool,
        (entry, RelayerTx.openSession ticket sessionId leagueBit pool) ∈ mempool →
          state.Opens ticket sessionId)
    (fewer : ∀ row ∈ players, row ∈ state.db.onchainSessionPlayers)
    (dropped : ∀ row ∈ state.db.onchainSessionPlayers,
        row ∈ players ∨ state.Joins row.sessionId row.profileId) :
    Lesser state after where
  joins := by
    intro sessionId profileId joins
    rcases changed.joins_cases joins with earlier | ⟨held, profile⟩
    · exact earlier
    · exact ⟨index, attempt, present, follows.joins _ held, profile⟩
  prepares := by
    intro other sessionId prepares
    rcases changed.prepares_cases prepares with ⟨-, earlier⟩ | ⟨rfl, held⟩
    · exact earlier
    · exact ⟨attempt, present, follows.prepares _ held⟩
  opens := by
    intro ticket sessionId opens
    rcases changed.opens_cases sent opens with earlier | held
    · exact earlier
    · exact Or.inl ⟨index, attempt, present, follows.opens _ held⟩
  fewer := by
    intro row member
    rw [changed.players] at member
    exact fewer row member
  dropped := by
    intro row member
    rw [changed.players]
    exact dropped row member
  sessionIds := changed.sessionIds

/-- A joiner's claim adds a row to a session that has rows already. -/
theorem of_claimed {ticket : SeatTicketRow} {sessionId : Bytes32} {seat : Nat}
    (sound : Sound deployment state) (phases : phase = .claimed ticket sessionId ∨ phase = .done)
    (occupied : ∃ row ∈ state.db.onchainSessionPlayers, row.sessionId = sessionId)
    (fresh : ∀ row ∈ state.db.onchainSessionPlayers, row.sessionId = sessionId →
        row.profileId ≠ attempt.profileId)
    (changed : Changed state after index attempt phase (Db.playerRow ticket sessionId seat ::
          state.db.onchainSessionPlayers) state.mempool state.sessionIds) :
    Sound deployment after := by
  obtain ⟨occupant, inside, atSession⟩ := occupied
  have joins_cases : ∀ other profileId, after.Joins other profileId → state.Joins other profileId ∨
        (other = sessionId ∧ profileId = attempt.profileId) := by
    intro other profileId joins
    rcases changed.joins_cases joins with earlier | ⟨held, profile⟩
    · exact Or.inl earlier
    · rcases phases with rfl | rfl
      · exact Or.inr ⟨(Option.some.inj held).symm, profile.symm⟩
      · cases held
  have prepares_of : ∀ other session, after.Prepares other session →
      state.Prepares other session := by
    intro other session prepares
    rcases changed.prepares_cases prepares with ⟨-, earlier⟩ | ⟨-, held⟩
    · exact earlier
    · rcases phases with rfl | rfl <;> cases held
  have opens_of : ∀ opener session, after.Opens opener session →
      state.Opens opener session := by
    intro opener session opens
    rcases changed.opens_cases (fun _ _ _ _ _ => MatchState.opens_of_pending) opens with
      earlier | held
    · exact earlier
    · rcases phases with rfl | rfl <;> cases held
  constructor
  · rw [changed.world]
    exact sound.world
  · intro other profileId joins
    rw [changed.sessionIds]
    rcases joins_cases other profileId joins with earlier | ⟨rfl, -⟩
    · exact sound.joined other profileId earlier
    · rw [← atSession]
      exact sound.listed occupant inside
  · intro row member
    rw [changed.sessionIds]
    rw [changed.players] at member
    rcases List.mem_cons.mp member with rfl | earlier
    · show sessionId ∈ state.sessionIds
      rw [← atSession]
      exact sound.listed occupant inside
    · exact sound.listed row earlier
  · intro other session prepares
    have earlier := sound.unborn other session (prepares_of _ _ prepares)
    have different : sessionId ≠ session := by
      rintro rfl
      exact earlier.empty occupant inside atSession
    constructor
    · rw [changed.sessionIds]
      exact earlier.drawn
    · intro row member
      rw [changed.players] at member
      rcases List.mem_cons.mp member with rfl | before
      · exact different
      · exact earlier.empty row before
    · intro profileId joins
      rcases joins_cases session profileId joins with held | ⟨rfl, -⟩
      · exact earlier.unjoined profileId held
      · exact different rfl
    · intro another held
      exact earlier.own another (prepares_of _ _ held)
  · intro opener session opens
    have earlier := sound.seated opener session (opens_of _ _ opens)
    obtain ⟨row, member, seated, profile, wallet⟩ := earlier.row
    constructor
    · refine ⟨row, ?_, seated, profile, wallet⟩
      rw [changed.players]
      exact List.mem_cons_of_mem _ member
    · intro joins
      rcases joins_cases session _ joins with held | ⟨rfl, same⟩
      · exact earlier.apart held
      · exact fresh row member seated (profile.trans same)

/-- A freshly drawn session is unborn. -/
theorem of_linked {ticket : SeatTicketRow} {sessionId : Bytes32} (sound : Sound deployment state)
    (phases : phase = .linked ticket sessionId ∨ phase = .done)
    (drawn : sessionId ∉ state.sessionIds)
    (changed : Changed state after index attempt phase state.db.onchainSessionPlayers state.mempool
        (sessionId :: state.sessionIds)) :
    Sound deployment after := by
  have joins_of : ∀ other profileId, after.Joins other profileId →
      state.Joins other profileId := by
    intro other profileId joins
    rcases changed.joins_cases joins with earlier | ⟨held, -⟩
    · exact earlier
    · rcases phases with rfl | rfl <;> cases held
  have prepares_cases : ∀ other session, after.Prepares other session →
      state.Prepares other session ∨ (other = index ∧ session = sessionId) := by
    intro other session prepares
    rcases changed.prepares_cases prepares with ⟨-, earlier⟩ | ⟨same, held⟩
    · exact Or.inl earlier
    · rcases phases with rfl | rfl
      · exact Or.inr ⟨same, (Option.some.inj held).symm⟩
      · cases held
  have later : ∀ session, session ∈ state.sessionIds → session ∈ after.sessionIds := by
    intro session known
    rw [changed.sessionIds]
    exact List.mem_cons_of_mem _ known
  constructor
  · rw [changed.world]
    exact sound.world
  · intro other profileId joins
    exact later _ (sound.joined other profileId (joins_of _ _ joins))
  · intro row member
    rw [changed.players] at member
    exact later _ (sound.listed row member)
  · intro other session prepares
    have own : ∀ another, after.Prepares another session → another = other := by
      intro another held
      rcases prepares_cases other session prepares with
        first | ⟨rfl, rfl⟩
      · rcases prepares_cases another session held with
          second | ⟨-, rfl⟩
        · exact (sound.unborn other session first).own another second
        · exact absurd (sound.unborn other _ first).drawn drawn
      · rcases prepares_cases another session held with
          second | ⟨rfl, -⟩
        · exact absurd (sound.unborn another _ second).drawn drawn
        · rfl
    rcases prepares_cases other session prepares with earlier | ⟨rfl, rfl⟩
    · have before := sound.unborn other session earlier
      constructor
      · exact later _ before.drawn
      · intro row member
        rw [changed.players] at member
        exact before.empty row member
      · intro profileId joins
        exact before.unjoined profileId (joins_of _ _ joins)
      · exact own
    · constructor
      · rw [changed.sessionIds]
        exact List.mem_cons_self
      · intro row member same
        rw [changed.players] at member
        rw [← same] at drawn
        exact drawn (sound.listed row member)
      · intro profileId joins
        exact drawn (sound.joined _ profileId (joins_of _ _ joins))
      · exact own
  · intro opener session opens
    have earlier : state.Opens opener session := by
      rcases changed.opens_cases (fun _ _ _ _ _ => MatchState.opens_of_pending) opens with
        earlier | held
      · exact earlier
      · rcases phases with rfl | rfl <;> cases held
    have before := sound.seated opener session earlier
    constructor
    · rw [changed.players]
      exact before.row
    · intro joins
      exact before.apart (joins_of _ _ joins)

/-- Inserting the creator's row makes its session ready to be opened. -/
theorem of_inserted {ticket : SeatTicketRow} {sessionId : Bytes32} (sound : Sound deployment state)
    (present : state.attempts index = some attempt)
    (before : attempt.phase = .pending ticket sessionId)
    (phases : phase = .inserted ticket sessionId ∨ phase = .done)
    (changed : Changed state after index attempt phase
        (state.db.insertOnchainSessionPlayers ticket sessionId 0).onchainSessionPlayers
        state.mempool state.sessionIds) :
    Sound deployment after := by
  have prepared : state.Prepares index sessionId := by
    refine ⟨attempt, present, ?_⟩
    rw [before]
    rfl
  have unborn := sound.unborn index sessionId prepared
  have players : after.db.onchainSessionPlayers =
      Db.playerRow ticket sessionId 0 :: state.db.onchainSessionPlayers := by
    rw [changed.players]
    exact insertOnchainSessionPlayers_of_empty unborn.empty
  have joins_of : ∀ other profileId, after.Joins other profileId →
      state.Joins other profileId := by
    intro other profileId joins
    rcases changed.joins_cases joins with earlier | ⟨held, -⟩
    · exact earlier
    · rcases phases with rfl | rfl <;> cases held
  have prepares_of : ∀ other session, after.Prepares other session →
      state.Prepares other session ∧ session ≠ sessionId := by
    intro other session prepares
    rcases changed.prepares_cases prepares with ⟨ne, earlier⟩ | ⟨-, held⟩
    · refine ⟨earlier, ?_⟩
      rintro rfl
      exact ne (unborn.own other earlier)
    · rcases phases with rfl | rfl <;> cases held
  constructor
  · rw [changed.world]
    exact sound.world
  · intro other profileId joins
    rw [changed.sessionIds]
    exact sound.joined other profileId (joins_of _ _ joins)
  · intro row member
    rw [changed.sessionIds]
    rw [players] at member
    rcases List.mem_cons.mp member with rfl | earlier
    · exact unborn.drawn
    · exact sound.listed row earlier
  · intro other session prepares
    obtain ⟨earlier, different⟩ := prepares_of other session prepares
    have kept := sound.unborn other session earlier
    constructor
    · rw [changed.sessionIds]
      exact kept.drawn
    · intro row member
      rw [players] at member
      rcases List.mem_cons.mp member with rfl | inside
      · exact Ne.symm different
      · exact kept.empty row inside
    · intro profileId joins
      exact kept.unjoined profileId (joins_of _ _ joins)
    · intro another held
      exact kept.own another (prepares_of _ _ held).1
  · intro opener session opens
    rcases changed.opens_cases (fun _ _ _ _ _ => MatchState.opens_of_pending) opens with
      earlier | held
    · have kept := sound.seated opener session earlier
      obtain ⟨row, member, same, profile, wallet⟩ := kept.row
      constructor
      · refine ⟨row, ?_, same, profile, wallet⟩
        rw [players]
        exact List.mem_cons_of_mem _ member
      · intro joins
        exact kept.apart (joins_of _ _ joins)
    · rcases phases with rfl | rfl
      · obtain ⟨rfl, rfl⟩ := Prod.mk.inj (Option.some.inj held)
        constructor
        · refine ⟨Db.playerRow ticket sessionId 0, ?_, rfl, rfl, rfl⟩
          rw [players]
          exact List.mem_cons_self
        · intro joins
          exact unborn.unjoined _ (joins_of _ _ joins)
      · cases held

/-- Whatever an attempt does keeps the state sound. -/
theorem of_attempt {event : MatchEvent deployment} (sound : Sound deployment state)
    (present : state.attempts index = some attempt)
    (effect : AttemptEffect event state after index attempt) :
    Sound deployment after := by
  have world_of : after.world = state.world → after.world.Consistent deployment := by
    intro same
    rw [same]
    exact sound.world
  have allKept : ∀ row ∈ state.db.onchainSessionPlayers, row ∈ state.db.onchainSessionPlayers ∨
        state.Joins row.sessionId row.profileId := fun _ member => Or.inl member
  cases effect with
  | moved follows changed =>
    exact sound.of_lesser (world_of changed.world) (.of_follows present follows changed
          (fun _ _ _ _ _ => MatchState.opens_of_pending) (fun _ member => member) allKept)
  | claimed phases occupied fresh changed =>
    exact sound.of_claimed phases occupied fresh changed
  | @released phase sessionId deletes held follows changed =>
    refine sound.of_lesser (world_of changed.world) (.of_follows present follows changed
          (fun _ _ _ _ _ => MatchState.opens_of_pending) ?_ ?_)
    · intro row member
      exact List.mem_of_mem_filter member
    · intro row member
      by_cases own : row.sessionId = sessionId ∧ row.profileId = attempt.profileId
      · right
        rw [own.1, own.2]
        exact ⟨index, attempt, present, held, rfl⟩
      · left
        refine List.mem_filter.mpr ⟨member, ?_⟩
        simp only [own, decide_false, Bool.not_false]
  | sentTopUp follows changed =>
    refine sound.of_lesser (world_of changed.world)
        (.of_follows present follows changed ?_ (fun _ member => member) allKept)
    intro entry ticket sessionId leagueBit pool pending
    rcases List.mem_cons.mp pending with same | earlier
    · cases (Prod.mk.inj same).2
    · exact MatchState.opens_of_pending earlier
  | @sentOpen phase opener opened before follows changed =>
    refine sound.of_lesser (world_of changed.world)
        (.of_follows present follows changed ?_ (fun _ member => member) allKept)
    intro entry ticket sessionId leagueBit pool pending
    rcases List.mem_cons.mp pending with same | earlier
    · obtain ⟨rfl, rfl, -, -⟩ := RelayerTx.openSession.inj (Prod.mk.inj same).2
      refine Or.inl ⟨index, attempt, present, ?_⟩
      rw [before]
      rfl
    · exact MatchState.opens_of_pending earlier
  | linked before phases drawn changed =>
    exact sound.of_linked phases drawn changed
  | inserted before phases changed =>
    exact sound.of_inserted present before phases changed

end Attempts

/-- Every event keeps the state sound. -/
theorem of_event {relayer : Relayer deployment} {event : MatchEvent deployment}
    (sound : Sound deployment state) (effect : EventEffect relayer state after event) :
    Sound deployment after := by
  have unchanged : ∀ row ∈ state.db.onchainSessionPlayers, row ∈ state.db.onchainSessionPlayers ∨
        state.Joins row.sessionId row.profileId := fun _ member => Or.inl member
  cases effect with
  | attempted named present stepped => exact sound.of_attempt present stepped
  | @started _ index attempt changed =>
    refine sound.of_lesser ?_ ?_
    · rw [changed.world]
      exact sound.world
    · constructor
      · intro sessionId profileId joins
        rcases changed.joins_cases joins with earlier | ⟨held, -⟩
        · exact earlier
        · cases held
      · intro other sessionId prepares
        rcases changed.prepares_cases prepares with ⟨-, earlier⟩ | ⟨-, held⟩
        · exact earlier
        · cases held
      · intro ticket sessionId opens
        rcases changed.opens_cases (fun _ _ _ _ _ => MatchState.opens_of_pending) opens with
          earlier | held
        · exact earlier
        · cases held
      · intro row member
        rw [changed.players] at member
        exact member
      · intro row member
        rw [changed.players]
        exact Or.inl member
      · exact changed.sessionIds
  | kept players equal =>
    subst equal
    refine sound.of_lesser sound.world ?_
    constructor
    · exact fun _ _ joins => joins
    · exact fun _ _ prepares => prepares
    · exact fun _ _ opens => opens
    · intro row member
      rw [← players]
      exact member
    · intro row member
      left
      rw [players]
      exact member
    · rfl
  | @mined place block index tx found equal =>
    subst equal
    refine sound.of_lesser (consistent_mine block tx sound.world) ?_
    constructor
    · exact fun _ _ joins => joins
    · exact fun _ _ prepares => prepares
    · rintro ticket sessionId (held | ⟨other, bit, pool, pending⟩)
      · exact Or.inl held
      · exact MatchState.opens_of_pending (List.mem_of_mem_eraseIdx pending)
    · exact fun _ member => member
    · exact unchanged
    · rfl
  | called noLock accepted equal =>
    subst equal
    refine sound.of_lesser (sound.world.step_protocol accepted) ?_
    exact ⟨fun _ _ joins => joins, fun _ _ prepares => prepares,
        fun _ _ opens => opens, fun _ member => member, unchanged, rfl⟩

end Sound

/-! ## Locked accounts are listed -/

/-- Every locked account has a row for its session. -/
def Listed (state : MatchState) : Prop :=
  ∀ sessionId account, state.world.vault.lockedBySession sessionId account ≠ 0 →
      state.db.Lists sessionId account

/-- Rows of a session for a settlement with a row for every participant. -/
def SettlementRows (state : MatchState) (sessionId : Bytes32) : Prop :=
  ∃ rows : List SessionPlayerRow, rows ⊆ state.db.playersOf sessionId ∧
      rows.length = state.world.vault.sessionParticipantCount sessionId ∧
        (rows.map fun row => row.walletAddress).Nodup

/--
No row of a locked account is deleted, and no top-up changes the contracts
once its row is gone.
-/
def KeepsRows {deployment : Deployment} (relayer : Relayer deployment)
    (state : MatchState) : MatchEvent deployment → Prop
  | .releaseClaim index outcome =>
    outcome = .failed ∨ ∀ attempt sessionId, state.attempts index = some attempt →
          attempt.phase.joins = some sessionId → ∀ row ∈ state.db.onchainSessionPlayers,
              row.sessionId = sessionId → row.profileId = attempt.profileId →
                  state.world.vault.lockedBySession sessionId row.walletAddress = 0
  | .confirm place block =>
    ∀ index ticket sessionId leagueBit, state.mempool[place]? =
          some (index, .topUpSession ticket sessionId leagueBit) →
        state.db.Lists sessionId ticket.arena ∨ mine relayer block state.world
              (.topUpSession ticket sessionId leagueBit) = state.world
  | _ => True

section Lists

variable {deployment : Deployment} {relayer : Relayer deployment}
variable {state after : MatchState}

/-- Listed accounts stay listed while nothing but claims is deleted. -/
theorem lists_of_subset {db larger : Db}
    (kept : ∀ row ∈ db.onchainSessionPlayers, row ∈ larger.onchainSessionPlayers)
    {sessionId : Bytes32} {account : Address}
    (listed : db.Lists sessionId account) :
    larger.Lists sessionId account := by
  obtain ⟨row, member, same⟩ := listed
  exact ⟨row, kept row member, same⟩

/-- The steps of attempts keep the rows of locked accounts. -/
theorem Listed.of_attempt {event : MatchEvent deployment} {index : Nat} {attempt : Attempt}
    (listed : Listed state) (keeps : KeepsRows relayer state event)
    (named : event.attempt = some index) (present : state.attempts index = some attempt)
    (effect : AttemptEffect event state after index attempt) :
    Listed after := by
  have of_larger : after.world = state.world → (∀ row ∈ state.db.onchainSessionPlayers,
        row ∈ after.db.onchainSessionPlayers) →
      Listed after := by
    intro world kept sessionId account locked
    rw [world] at locked
    exact lists_of_subset kept (listed sessionId account locked)
  have of_same : after.world = state.world →
      after.db.onchainSessionPlayers = state.db.onchainSessionPlayers →
      Listed after := by
    intro world players
    apply of_larger world
    intro row member
    rw [players]
    exact member
  cases effect with
  | moved follows changed => exact of_same changed.world changed.players
  | sentTopUp follows changed => exact of_same changed.world changed.players
  | sentOpen before follows changed =>
    exact of_same changed.world changed.players
  | linked before phases drawn changed =>
    exact of_same changed.world changed.players
  | claimed phases occupied fresh changed =>
    apply of_larger changed.world
    intro row member
    rw [changed.players]
    exact List.mem_cons_of_mem _ member
  | inserted before phases changed =>
    intro sessionId account locked
    rw [changed.world] at locked
    have earlier := listed sessionId account locked
    exact (Db.lists_congr changed.players sessionId account).mpr
        ((Db.lists_insertOnchainSessionPlayers _ _ 0 sessionId account).mpr (Or.inl earlier))
  | @released phase held deletes joins follows changed =>
    intro sessionId account locked
    rw [changed.world] at locked
    obtain ⟨row, member, session, wallet⟩ := listed sessionId account locked
    refine ⟨row, ?_, session, wallet⟩
    rw [changed.players]
    refine List.mem_filter.mpr ⟨member, ?_⟩
    by_contra own
    have own : row.sessionId = held ∧ row.profileId = attempt.profileId := by
      simpa using own
    cases event with
    | releaseClaim entry outcome =>
      rcases keeps with failed | unlocked
      · rw [failed] at deletes
        cases deletes
      · rw [Option.some.inj named] at unlocked
        have zero := unlocked attempt held present joins row member own.1 own.2
        rw [← own.1, session, wallet] at zero
        exact locked zero
    | _ => cases deletes

/-- Every event that keeps the rows keeps locked accounts listed. -/
theorem Listed.of_event {event : MatchEvent deployment}
    (listed : Listed state) (sound : Sound deployment state) (keeps : KeepsRows relayer state event)
    (effect : EventEffect relayer state after event) :
    Listed after := by
  cases effect with
  | attempted named present stepped =>
    exact listed.of_attempt keeps named present stepped
  | started attempt changed =>
    intro sessionId account locked
    rw [changed.world] at locked
    exact (Db.lists_congr changed.players _ _).mpr (listed sessionId account locked)
  | kept players equal =>
    subst equal
    intro sessionId account locked
    exact (Db.lists_congr players _ _).mpr (listed sessionId account locked)
  | @mined place block index tx found equal =>
    subst equal
    intro sessionId account locked
    rcases locked_of_mine locked with earlier | own
    · exact listed sessionId account earlier
    · cases tx with
      | openSession ticket opened leagueBit pool =>
        obtain ⟨rfl, rfl⟩ := Prod.mk.inj own
        have pending := MatchState.opens_of_pending (List.mem_of_getElem? found)
        obtain ⟨row, member, session, -, wallet⟩ := (sound.seated ticket _ pending).row
        exact ⟨row, member, session, wallet⟩
      | topUpSession ticket opened leagueBit =>
        obtain ⟨rfl, rfl⟩ := Prod.mk.inj own
        rcases keeps _ _ _ _ found with present | reverts
        · exact present
        · apply listed
          rw [← reverts]
          exact locked
  | called noLock accepted equal =>
    subst equal
    intro sessionId account locked
    have lowered :=
      (Effect.of_stepOperation sound.world.registered
        (ExternalCall.outside _) accepted).locked_le noLock sessionId account
    apply listed sessionId account
    intro zero
    rw [zero] at lowered
    exact locked (Nat.le_zero.mp lowered)

/--
While every participant has a lock, the rows of a listed session contain one
for every participant, as many as the vault counts.
-/
theorem Listed.exists_rows (listed : Listed state) (consistent : state.world.Consistent deployment)
    {sessionId : Bytes32}
    (locked : ∀ account, state.world.vault.sessionParticipants sessionId account = true →
          state.world.vault.lockedBySession sessionId account ≠ 0) :
    SettlementRows state sessionId := by
  obtain ⟨members, roster, card⟩ := consistent.exists_roster sessionId
  have row_of : ∀ account ∈ members.toList,
      ∃ row ∈ state.db.playersOf sessionId, row.walletAddress = account := by
    intro account member
    have participant := (roster account).mp (Finset.mem_toList.mp member)
    obtain ⟨row, inside, session, wallet⟩ := listed sessionId account (locked account participant)
    exact ⟨row, mem_playersOf.mpr ⟨inside, session⟩, wallet⟩
  choose row inside wallet using row_of
  refine ⟨members.toList.attach.map fun entry => row entry.1 entry.2, ?_, ?_, ?_⟩
  · intro found member
    obtain ⟨entry, -, rfl⟩ := List.mem_map.mp member
    exact inside entry.1 entry.2
  · rw [List.length_map, List.length_attach, Finset.length_toList, card]
  · have wallets : (members.toList.attach.map fun entry =>
          row entry.1 entry.2).map (fun found => found.walletAddress) =
        members.toList := by
      rw [List.map_map]
      calc
        members.toList.attach.map _ = members.toList.attach.map Subtype.val :=
          List.map_congr_left fun entry _ => wallet entry.1 entry.2
        _ = members.toList := List.attach_map_subtype_val _
    rw [wallets]
    exact members.nodup_toList

/--
In every run in which no row of a locked account is deleted and no top-up
changes the contracts after its row is gone, locked accounts are listed, so
that a settlement can have a row for every participant.
-/
theorem listed_of_keepsRows
    (reached :
      (matchmaking relayer).Reachable (KeepsRows relayer) state) :
    Listed state ∧
      ∀ sessionId,
        (∀ account,
          state.world.vault.sessionParticipants sessionId account = true →
            state.world.vault.lockedBySession sessionId account ≠ 0) →
          SettlementRows state sessionId := by
  have both : Sound deployment state ∧ Listed state := by
    refine
      @System.Reachable.invariant _ _ _ (matchmaking relayer) _
        (fun state => Sound deployment state ∧ Listed state) ?_ ?_ _ reached
    · intro start initial
      refine ⟨Sound.initially initial, ?_⟩
      intro sessionId account locked
      rw [initial.world.lockedBySession] at locked
      exact absurd rfl locked
    · intro before event result holds keeps accepted
      have effect := EventEffect.of_stepMatch (stepMatch_of_step accepted)
      exact
        ⟨holds.1.of_event effect,
          holds.2.of_event holds.1 keeps effect⟩
  refine ⟨both.2, ?_⟩
  intro sessionId locked
  exact both.2.exists_rows both.1.world locked

end Lists

/-! ## Two players at a table -/

namespace Example

open Mozetto.Chain.Example (deployment user accountOf message enrol)

def relayer : Relayer deployment where
  address := user 0
  outside := Chain.Example.outside_user 0
  cityTemplateId := fun _ => 1
  dealerRoot := fun _ => 0
  engineHash := 0
  profileSetHash := 0
  emergencyExitDelay := 100

/-- A ticket of a user for `100`. -/
def ticketRow (index : Fin 900) : SeatTicketRow where
  profileId := index
  walletAddress := user index
  arenaAccountAddress := some (accountOf index)
  ownerAddress := some (user index)
  gameTemplateId := 1
  buyInRaw := 100
  controllerHash := 0
  agentProfileHash := 0
  expiresAt := 1000000
  nonce := 0
  matchmakingPool := 0
  leagueBit := some 1
  rated := some false
  signature := [user index]
  status := .queued
  sessionId := none

/-- Fresh contracts and the tickets of all users. -/
def initialState : MatchState where
  world := Chain.Example.world 0
  db :=
    { seatTickets := fun index =>
      if bound : index < 900 then some (ticketRow ⟨index, bound⟩) else none
      onchainSessions := fun _ => none
      onchainSessionPlayers := [] }
  attempts := fun _ => none
  mempool := []
  sessionIds := []

theorem initial_initialState : initialState.Initial where
  world := Chain.Example.initial_world 0
  sessions := rfl
  players := rfl
  attempts := rfl
  mempool := rfl
  sessionIds := rfl

/-- Mine the oldest of one pending transaction. -/
def confirmed : MatchEvent deployment := .confirm 0 (message (user 0) 0)

/-- User `1` creates session `5`. -/
def creates : List (MatchEvent deployment) :=
  (enrol 1 7 100).map .chain ++ [.start 1 1 1 0 2 1, .claim 1 0 none .acknowledged,
      .claimSingle 1 0 .acknowledged, .link 1 5 .acknowledged,
      .createPending 1 .acknowledged, .insertPlayers 1 .acknowledged,
      .broadcast 1 .sent, confirmed, .receipt 1 true false,
      .markOpened 1 .acknowledged, .finish 1 true]

/-- User `2` claims a seat of session `5` and its top-up is mined. -/
def joins : List (MatchEvent deployment) :=
  (enrol 2 7 100).map .chain ++ [.start 2 2 2 0 2 1, .claim 2 0 (some (5, 1)) .acknowledged,
      .readOpenedAt 2 1, .broadcast 2 .sent, confirmed]

/-- The joiner receives its receipt. -/
def seated : List (MatchEvent deployment) :=
  creates ++ joins ++ [.receipt 2 true false, .markOpened 2 .acknowledged, .finish 2 true]

/-- The joiner's wait for the receipt fails, and its claim is released. -/
def timedOut : List (MatchEvent deployment) :=
  creates ++ joins ++ [.receipt 2 false false, .releaseClaim 2 .acknowledged]

/-- No claim is released, and top-ups are mined while their rows exist. -/
def Undisturbed (state : MatchState) : MatchEvent deployment → Bool
  | .releaseClaim _ _ => false
  | .confirm place _ =>
    match state.mempool[place]? with
    | some (_, .topUpSession ticket sessionId _) =>
      state.db.Lists sessionId ticket.arena
    | _ => true
  | _ => true

theorem keepsRows_of_undisturbed (state : MatchState) (event : MatchEvent deployment)
    (undisturbed : Undisturbed state event = true) :
    KeepsRows relayer state event := by
  cases event with
  | releaseClaim => cases undisturbed
  | confirm place block =>
    intro index ticket sessionId leagueBit found
    rw [Undisturbed, found] at undisturbed
    exact Or.inl (of_decide_eq_true undisturbed)
  | _ => trivial

end Example

/-- Both players of an undisturbed table are locked and listed. -/
theorem listed_of_keepsRows_seated :
    ∃ state : MatchState,
      (matchmaking Example.relayer).Reachable (KeepsRows Example.relayer)
          state ∧
        state.world.vault.lockedBySession 5 (Chain.Example.accountOf 2) =
          100 ∧
        Listed state := by
  have start :
      (matchmaking Example.relayer).Reachable
        (fun state event => Example.Undisturbed state event = true)
        Example.initialState :=
    .start Example.initial_initialState
  have observed :
      ((matchmaking Example.relayer).replay
          (fun state event => Example.Undisturbed state event = true)
          Example.initialState Example.seated).any
        (fun state =>
          state.world.vault.lockedBySession 5 (Chain.Example.accountOf 2) ==
            100) = true := by
    decide +kernel
  obtain ⟨state, reached, locked⟩ := start.exists_replay observed
  have keeps := reached.mono Example.keepsRows_of_undisturbed
  exact ⟨state, keeps, by simpa using locked, (listed_of_keepsRows keeps).1⟩

/-- A top-up is mined, its receipt times out, and its row is deleted. -/
theorem exists_unlisted :
    ¬ ∀ (deployment : Deployment) (relayer : Relayer deployment)
        (state : MatchState),
      (matchmaking relayer).Reachable AnyCall state → Listed state := by
  intro listed
  have start :
      (matchmaking Example.relayer).Reachable AnyCall Example.initialState :=
    .start Example.initial_initialState
  have observed :
      ((matchmaking Example.relayer).replay AnyCall Example.initialState
          Example.timedOut).any
        (fun state =>
          state.world.vault.lockedBySession 5 (Chain.Example.accountOf 2) ==
              100 &&
            !decide (state.db.Lists 5 (Chain.Example.accountOf 2))) =
        true := by
    decide +kernel
  obtain ⟨state, reached, facts⟩ := start.exists_replay observed
  obtain ⟨locked, unlisted⟩ := Bool.and_eq_true_iff.mp facts
  have present :=
    listed Chain.Example.deployment Example.relayer state reached 5
      (Chain.Example.accountOf 2)
  rw [beq_iff_eq.mp locked] at present
  rw [decide_eq_true (present (by decide))] at unlisted
  cases unlisted

end Mozetto.Matchmaking
