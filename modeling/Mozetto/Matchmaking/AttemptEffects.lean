import Mozetto.Matchmaking.Attempts

/-!
# What the step of an attempt does

Most steps only move an attempt on.  The others add a row to the players'
table, delete the rows of a joiner, broadcast a transaction or draw a session
identifier.  The step function is inverted once, into these effects.
-/

namespace Mozetto.Matchmaking

open Mozetto.Chain
open Mozetto.Library.Mapping

/-! ## Phases -/

namespace Phase

/-- The session an attempt holds a joiner's claim on. -/
def joins : Phase → Option Bytes32
  | claimed _ sessionId => some sessionId
  | phantom _ sessionId => some sessionId
  | joining _ sessionId => some sessionId
  | waitingTopUp _ sessionId => some sessionId
  | toppedUp _ sessionId => some sessionId
  | finishingTopUp _ sessionId => some sessionId
  | failedTopUp _ sessionId _ => some sessionId
  | _ => none

/-- The session an attempt is creating before it has inserted its player. -/
def prepares : Phase → Option Bytes32
  | linked _ sessionId => some sessionId
  | pending _ sessionId => some sessionId
  | _ => none

/-- The ticket and the session that an attempt is about to open. -/
def opens : Phase → Option (SeatTicketRow × Bytes32)
  | inserted ticket sessionId => some (ticket, sessionId)
  | _ => none

/-- A phase after `before` that takes nothing new. -/
structure Follows (before after : Phase) : Prop where
  joins : ∀ sessionId, after.joins = some sessionId → before.joins = some sessionId
  prepares : ∀ sessionId, after.prepares = some sessionId → before.prepares = some sessionId
  opens : ∀ entry, after.opens = some entry → before.opens = some entry

/-- A phase that holds nothing follows every phase. -/
theorem follows_of_free {after : Phase} (before : Phase) (joins : after.joins = none)
    (prepares : after.prepares = none) (opens : after.opens = none) : before.Follows after where
  joins := by
    intro sessionId held
    rw [joins] at held
    cases held
  prepares := by
    intro sessionId held
    rw [prepares] at held
    cases held
  opens := by
    intro entry held
    rw [opens] at held
    cases held

/-- A joiner's phase at the session of another one follows it. -/
theorem follows_of_joins {before after : Phase} {sessionId : Bytes32}
    (held : before.joins = some sessionId) (kept : after.joins = some sessionId)
    (prepares : after.prepares = none) (opens : after.opens = none) : before.Follows after where
  joins := by
    intro other same
    rw [held, ← same, kept]
  prepares := by
    intro other same
    rw [prepares] at same
    cases same
  opens := by
    intro entry same
    rw [opens] at same
    cases same

end Phase

/-! ## Effects -/

/-- Events that delete the rows of a joiner. -/
def MatchEvent.deletesClaim {deployment : Deployment} : MatchEvent deployment → Bool
  | .releaseClaim _ outcome => outcome ≠ .failed
  | _ => false

/-- The attempt moves on; tables, transactions and identifiers become these. -/
structure Changed (state after : MatchState) (index : Nat) (attempt : Attempt)
    (phase : Phase) (players : List SessionPlayerRow)
    (mempool : List (Nat × RelayerTx)) (sessionIds : List Bytes32) : Prop where
  world : after.world = state.world
  attempts :
    after.attempts = write state.attempts index (some { attempt with phase := phase })
  players : after.db.onchainSessionPlayers = players
  mempool : after.mempool = mempool
  sessionIds : after.sessionIds = sessionIds

/-- The effects a step of an attempt can have. -/
inductive AttemptEffect {deployment : Deployment} (event : MatchEvent deployment)
    (state after : MatchState) (index : Nat) (attempt : Attempt) : Prop where
  | moved {phase : Phase} (follows : attempt.phase.Follows phase)
      (changed : Changed state after index attempt phase
          state.db.onchainSessionPlayers state.mempool state.sessionIds)
  | claimed {phase : Phase} {ticket : SeatTicketRow} {sessionId : Bytes32} {seat : Nat}
      (phases : phase = .claimed ticket sessionId ∨ phase = .done)
      (occupied : ∃ row ∈ state.db.onchainSessionPlayers, row.sessionId = sessionId)
      (fresh : ∀ row ∈ state.db.onchainSessionPlayers, row.sessionId = sessionId →
          row.profileId ≠ attempt.profileId)
      (changed : Changed state after index attempt phase (Db.playerRow ticket sessionId seat ::
            state.db.onchainSessionPlayers) state.mempool state.sessionIds)
  | released {phase : Phase} {sessionId : Bytes32} (deletes : event.deletesClaim = true)
      (held : attempt.phase.joins = some sessionId) (follows : attempt.phase.Follows phase)
      (changed : Changed state after index attempt phase
          (state.db.onchainSessionPlayers.filter fun row =>
            !(row.sessionId = sessionId ∧ row.profileId = attempt.profileId))
          state.mempool state.sessionIds)
  | sentTopUp {phase : Phase} {ticket : SeatTicketRow} {sessionId : Bytes32}
      (follows : attempt.phase.Follows phase)
      (changed : Changed state after index attempt phase state.db.onchainSessionPlayers ((index,
              .topUpSession ticket sessionId attempt.leagueBit) :: state.mempool) state.sessionIds)
  | sentOpen {phase : Phase} {ticket : SeatTicketRow} {sessionId : Bytes32}
      (before : attempt.phase = .inserted ticket sessionId) (follows : attempt.phase.Follows phase)
      (changed : Changed state after index attempt phase state.db.onchainSessionPlayers ((index,
              .openSession ticket sessionId attempt.leagueBit attempt.pool) :: state.mempool)
          state.sessionIds)
  | linked {phase : Phase} {ticket : SeatTicketRow} {sessionId : Bytes32}
      (before : attempt.phase = .linking ticket)
      (phases : phase = .linked ticket sessionId ∨ phase = .done)
      (drawn : sessionId ∉ state.sessionIds)
      (changed : Changed state after index attempt phase
          state.db.onchainSessionPlayers state.mempool (sessionId :: state.sessionIds))
  | inserted {phase : Phase} {ticket : SeatTicketRow} {sessionId : Bytes32}
      (before : attempt.phase = .pending ticket sessionId)
      (phases : phase = .inserted ticket sessionId ∨ phase = .done)
      (changed : Changed state after index attempt phase
          (state.db.insertOnchainSessionPlayers ticket sessionId 0).onchainSessionPlayers
          state.mempool state.sessionIds)

section Inversion

variable {deployment : Deployment} {state after : MatchState}
variable {index : Nat} {attempt : Attempt} {event : MatchEvent deployment}

/-- Going to another phase. -/
theorem AttemptEffect.of_goTo {phase : Phase} (follows : attempt.phase.Follows phase) :
    AttemptEffect event state (state.goTo index attempt phase) index attempt :=
  .moved follows ⟨rfl, rfl, rfl, rfl, rfl⟩

/-- A statement that leaves the players alone. -/
theorem AttemptEffect.of_statement {applied : Db} {next failure : Phase} (outcome : Outcome)
    (players : applied.onchainSessionPlayers = state.db.onchainSessionPlayers)
    (onSuccess : attempt.phase.Follows next)
    (onFailure : attempt.phase.Follows failure) :
    AttemptEffect event state (state.statement index attempt applied next failure outcome) index
      attempt := by
  cases outcome with
  | acknowledged => exact .moved onSuccess ⟨rfl, rfl, players, rfl, rfl⟩
  | unreported => exact .moved onFailure ⟨rfl, rfl, players, rfl, rfl⟩
  | failed => exact .of_goTo onFailure

theorem follows_done (phase : Phase) : phase.Follows .done :=
  Phase.follows_of_free phase rfl rfl rfl

/-- `releaseOpenSessionClaim` as a statement. -/
theorem AttemptEffect.of_release
    {sessionId : Bytes32} {next : Phase} (entry : Nat) (outcome : Outcome)
    (held : attempt.phase.joins = some sessionId) (onSuccess : attempt.phase.Follows next) :
    AttemptEffect (.releaseClaim entry outcome : MatchEvent deployment) state
      (state.statement index attempt (state.db.releaseOpenSessionClaim attempt.ticketId sessionId
          attempt.profileId)
        next .done outcome) index attempt := by
  cases outcome with
  | acknowledged => exact .released rfl held onSuccess ⟨rfl, rfl, rfl, rfl, rfl⟩
  | unreported =>
    exact .released rfl held (follows_done _) ⟨rfl, rfl, rfl, rfl, rfl⟩
  | failed => exact .of_goTo (follows_done _)

/-- The players of a session, among all players. -/
theorem mem_playersOf {db : Db} {sessionId : Bytes32} {row : SessionPlayerRow} :
    row ∈ db.playersOf sessionId ↔ row ∈ db.onchainSessionPlayers ∧ row.sessionId = sessionId := by
  simp [Db.playersOf]

/-- What a granted claim finds and does. -/
theorem claimOpenOnchainSession_eq_some {db claimedDb : Db}
    {ticketId profileId now pool maxSeats seat : Nat} {sessionId : Bytes32} {ticket : SeatTicketRow}
    (claimed : db.claimOpenOnchainSession ticketId profileId now pool maxSeats
        sessionId seat = some (ticket, claimedDb)) :
    (∃ row ∈ db.onchainSessionPlayers, row.sessionId = sessionId) ∧
      (∀ row ∈ db.onchainSessionPlayers, row.sessionId = sessionId → row.profileId ≠ profileId) ∧
      claimedDb.onchainSessionPlayers =
        Db.playerRow ticket sessionId seat :: db.onchainSessionPlayers := by
  unfold Db.claimOpenOnchainSession at claimed
  cases queued : db.queuedTicket ticketId profileId now with
  | none =>
    rw [queued] at claimed
    cases claimed
  | some found =>
    rw [queued] at claimed
    simp only at claimed
    split at claimed
    case isFalse => cases claimed
    case isTrue eligible =>
      simp only [Option.some.injEq, Prod.mk.injEq] at claimed
      obtain ⟨rfl, rfl⟩ := claimed
      obtain ⟨candidate, -⟩ := eligible
      unfold Db.isCandidate at candidate
      cases present : db.onchainSessions sessionId with
      | none =>
        rw [present] at candidate
        cases candidate
      | some row =>
        rw [present] at candidate
        simp only [Bool.and_eq_true, List.all_eq_true, decide_eq_true_eq] at candidate
        obtain ⟨⟨⟨⟨-, others⟩, -⟩, occupied⟩, -⟩ := candidate
        refine ⟨?_, ?_, rfl⟩
        · obtain ⟨player, member⟩ :=
            List.exists_mem_of_length_pos (Nat.lt_of_lt_of_le Nat.zero_lt_one occupied)
          obtain ⟨inside, session⟩ := mem_playersOf.mp member
          exact ⟨player, inside, session⟩
        · intro player inside session
          exact (others player (mem_playersOf.mpr ⟨inside, session⟩)).1

/-- A phase of a joiner that keeps its claim follows the phase before. -/
theorem AttemptEffect.of_joiner {phase : Phase} {sessionId : Bytes32}
    (held : attempt.phase.joins = some sessionId)
    (kept : phase.joins = some sessionId) (prepares : phase.prepares = none)
    (opens : phase.opens = none) :
    AttemptEffect event state (state.goTo index attempt phase) index attempt :=
  .of_goTo (Phase.follows_of_joins held kept prepares opens)

/-- A granted claim as a statement. -/
theorem AttemptEffect.of_claim {ticket : SeatTicketRow} {claimedDb : Db} {sessionId : Bytes32}
    {now seat : Nat} (outcome : Outcome)
    (claimed : state.db.claimOpenOnchainSession attempt.ticketId attempt.profileId now
          attempt.pool attempt.maxSeats sessionId seat = some (ticket, claimedDb)) :
    AttemptEffect event state (state.statement index attempt claimedDb (.claimed ticket sessionId)
        .done outcome) index attempt := by
  obtain ⟨occupied, fresh, players⟩ := claimOpenOnchainSession_eq_some claimed
  cases outcome with
  | acknowledged =>
    exact .claimed (Or.inl rfl) occupied fresh ⟨rfl, rfl, players, rfl, rfl⟩
  | unreported =>
    exact .claimed (Or.inr rfl) occupied fresh ⟨rfl, rfl, players, rfl, rfl⟩
  | failed => exact .of_goTo (follows_done _)

/-- Broadcasting a top-up. -/
theorem AttemptEffect.of_sendTopUp
    {ticket : SeatTicketRow} {sessionId : Bytes32} (outcome : Broadcast)
    (before : attempt.phase = .joining ticket sessionId) : AttemptEffect event state
    (state.send index attempt (.topUpSession ticket sessionId attempt.leagueBit)
      (.waitingTopUp ticket sessionId) (.failedTopUp ticket sessionId) outcome) index attempt := by
  have held : attempt.phase.joins = some sessionId := by
    rw [before]
    rfl
  have follows : ∀ {phase : Phase}, phase.joins = some sessionId →
      phase.prepares = none → phase.opens = none →
        attempt.phase.Follows phase :=
    fun kept => Phase.follows_of_joins held kept
  cases outcome with
  | sent =>
    exact .sentTopUp (follows rfl rfl rfl) ⟨rfl, rfl, rfl, rfl, rfl⟩
  | lost unknownSession =>
    exact .sentTopUp (follows rfl rfl rfl) ⟨rfl, rfl, rfl, rfl, rfl⟩
  | rejected unknownSession => exact .of_goTo (follows rfl rfl rfl)

/-- Broadcasting the opening of a session. -/
theorem AttemptEffect.of_sendOpen
    {ticket : SeatTicketRow} {sessionId : Bytes32} (outcome : Broadcast)
    (before : attempt.phase = .inserted ticket sessionId) : AttemptEffect event state
    (state.send index attempt (.openSession ticket sessionId attempt.leagueBit attempt.pool)
      (.waitingOpen sessionId) (fun _ => .failedOpen sessionId) outcome)
    index attempt := by
  have free : ∀ {phase : Phase}, phase.joins = none → phase.prepares = none →
      phase.opens = none → attempt.phase.Follows phase :=
    fun joins => Phase.follows_of_free attempt.phase joins
  cases outcome with
  | sent =>
    exact .sentOpen before (free rfl rfl rfl) ⟨rfl, rfl, rfl, rfl, rfl⟩
  | lost unknownSession =>
    exact .sentOpen before (free rfl rfl rfl) ⟨rfl, rfl, rfl, rfl, rfl⟩
  | rejected unknownSession => exact .of_goTo (free rfl rfl rfl)

/-- Every step of an attempt has one of the effects. -/
theorem AttemptEffect.of_stepAttempt
    (stepped : stepAttempt state index attempt event = some after) :
    AttemptEffect event state after index attempt := by
  cases event with
  | claim entry now candidate outcome =>
    simp only [stepAttempt] at stepped
    split at stepped
    case h_1 =>
      rw [← Option.some.inj stepped]
      exact .of_goTo (Phase.follows_of_free _ rfl rfl rfl)
    case h_2 =>
      obtain ⟨⟨ticket, claimedDb⟩, claimed, rfl⟩ := Option.map_eq_some_iff.mp stepped
      exact .of_claim outcome claimed
    case h_3 => cases stepped
  | readOpenedAt entry openedAt =>
    simp only [stepAttempt] at stepped
    split at stepped
    case h_1 ticket sessionId before =>
      rw [← Option.some.inj stepped]
      have held : attempt.phase.joins = some sessionId := by
        rw [before]
        rfl
      split
      · exact .of_joiner held rfl rfl rfl
      · exact .of_joiner held rfl rfl rfl
    case h_2 => cases stepped
  | broadcast entry outcome =>
    simp only [stepAttempt] at stepped
    split at stepped
    case h_1 ticket sessionId before =>
      rw [← Option.some.inj stepped]
      exact .of_sendTopUp outcome before
    case h_2 ticket sessionId before =>
      rw [← Option.some.inj stepped]
      exact .of_sendOpen outcome before
    case h_3 => cases stepped
  | receipt entry received unknownSession =>
    simp only [stepAttempt] at stepped
    split at stepped
    case isTrue => cases stepped
    case isFalse =>
      split at stepped
      case h_1 ticket sessionId before =>
        rw [← Option.some.inj stepped]
        have held : attempt.phase.joins = some sessionId := by
          rw [before]
          rfl
        split
        · exact .of_joiner held rfl rfl rfl
        · exact .of_joiner held rfl rfl rfl
      case h_2 =>
        rw [← Option.some.inj stepped]
        split
        · exact .of_goTo (Phase.follows_of_free _ rfl rfl rfl)
        · exact .of_goTo (Phase.follows_of_free _ rfl rfl rfl)
      case h_3 => cases stepped
  | markOpened entry outcome =>
    simp only [stepAttempt] at stepped
    split at stepped
    case h_1 ticket sessionId before =>
      rw [← Option.some.inj stepped]
      have held : attempt.phase.joins = some sessionId := by
        rw [before]
        rfl
      apply AttemptEffect.of_statement
      · exact Db.updateTicket_players _ _ _
      · exact Phase.follows_of_joins held rfl rfl rfl
      · exact Phase.follows_of_joins held rfl rfl rfl
    case h_2 =>
      rw [← Option.some.inj stepped]
      apply AttemptEffect.of_statement
      · simp [Db.markOnchainSessionOpened]
      · exact Phase.follows_of_free _ rfl rfl rfl
      · exact Phase.follows_of_free _ rfl rfl rfl
    case h_3 => cases stepped
  | finish entry succeeds =>
    simp only [stepAttempt] at stepped
    split at stepped
    case h_1 ticket sessionId before =>
      rw [← Option.some.inj stepped]
      split
      · exact .of_goTo (follows_done _)
      · exact .of_joiner (by rw [before]; rfl) rfl rfl rfl
    case h_2 =>
      rw [← Option.some.inj stepped]
      split
      · exact .of_goTo (follows_done _)
      · exact .of_goTo (Phase.follows_of_free _ rfl rfl rfl)
    case h_3 => cases stepped
  | releaseClaim entry outcome =>
    simp only [stepAttempt] at stepped
    split at stepped
    case h_1 ticket sessionId before =>
      rw [← Option.some.inj stepped]
      apply AttemptEffect.of_release entry outcome
      · rw [before]
        rfl
      · exact Phase.follows_of_free _ rfl rfl rfl
    case h_2 ticket sessionId unknownSession before =>
      rw [← Option.some.inj stepped]
      apply AttemptEffect.of_release entry outcome
      · rw [before]
        rfl
      · split
        · exact Phase.follows_of_free _ rfl rfl rfl
        · exact follows_done _
    case h_3 => cases stepped
  | failBatch entry outcome =>
    simp only [stepAttempt] at stepped
    split at stepped
    case h_1 =>
      rw [← Option.some.inj stepped]
      apply AttemptEffect.of_statement
      · exact Db.updateTicket_players _ _ _
      · exact Phase.follows_of_free _ rfl rfl rfl
      · exact follows_done _
    case h_2 => cases stepped
  | block entry outcome =>
    simp only [stepAttempt] at stepped
    split at stepped
    case h_1 =>
      rw [← Option.some.inj stepped]
      apply AttemptEffect.of_statement
      · exact Db.updateSession_players _ _ _
      · exact Phase.follows_of_free _ rfl rfl rfl
      · exact follows_done _
    case h_2 =>
      rw [← Option.some.inj stepped]
      apply AttemptEffect.of_statement
      · exact Db.updateSession_players _ _ _
      · exact follows_done _
      · exact follows_done _
    case h_3 => cases stepped
  | claimSingle entry now outcome =>
    simp only [stepAttempt] at stepped
    split at stepped
    case h_1 =>
      split at stepped
      case h_1 claimed granted =>
        rw [← Option.some.inj stepped]
        obtain ⟨ticket, -, rfl⟩ := Option.map_eq_some_iff.mp granted
        apply AttemptEffect.of_statement
        · rfl
        · exact Phase.follows_of_free _ rfl rfl rfl
        · exact follows_done _
      case h_2 =>
        rw [← Option.some.inj stepped]
        exact .of_goTo (follows_done _)
    case h_2 => cases stepped
  | link entry sessionId outcome =>
    simp only [stepAttempt] at stepped
    split at stepped
    case h_1 ticket before =>
      split at stepped
      case isTrue => cases stepped
      case isFalse drawn =>
        rw [← Option.some.inj stepped]
        cases outcome with
        | acknowledged =>
          exact .linked before (Or.inl rfl) drawn
              ⟨rfl, rfl, Db.updateTicket_players _ _ _, rfl, rfl⟩
        | unreported =>
          exact .linked before (Or.inr rfl) drawn
              ⟨rfl, rfl, Db.updateTicket_players _ _ _, rfl, rfl⟩
        | failed =>
          exact .linked before (Or.inr rfl) drawn ⟨rfl, rfl, rfl, rfl, rfl⟩
    case h_2 => cases stepped
  | createPending entry outcome =>
    simp only [stepAttempt] at stepped
    split at stepped
    case h_1 ticket sessionId before =>
      rw [← Option.some.inj stepped]
      apply AttemptEffect.of_statement
      · rfl
      · rw [before]
        constructor
        · intro other held
          cases held
        · intro other held
          exact held
        · intro other held
          exact held
      · exact follows_done _
    case h_2 => cases stepped
  | insertPlayers entry outcome =>
    simp only [stepAttempt] at stepped
    split at stepped
    case h_1 ticket sessionId before =>
      rw [← Option.some.inj stepped]
      cases outcome with
      | acknowledged =>
        exact .inserted before (Or.inl rfl) ⟨rfl, rfl, rfl, rfl, rfl⟩
      | unreported =>
        exact .inserted before (Or.inr rfl) ⟨rfl, rfl, rfl, rfl, rfl⟩
      | failed => exact .of_goTo (follows_done _)
    case h_2 => cases stepped
  | stop entry =>
    simp only [stepAttempt, Option.some.injEq] at stepped
    subst stepped
    exact .of_goTo (follows_done _)
  | storeTicket => cases stepped
  | start => cases stepped
  | confirm => cases stepped
  | chain => cases stepped
  | progress => cases stepped

end Inversion

end Mozetto.Matchmaking
