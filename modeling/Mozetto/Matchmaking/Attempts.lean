import Mozetto.Chain.Protocol
import Mozetto.Chain.Locks

/-!
# The matchmaking tables

Queued tickets, on-chain sessions and their players as the database has
them, and the statements of immediate matchmaking on them.  Addresses are
numbers, so that lower-casing an address does nothing.
-/

namespace Mozetto.Matchmaking

open Mozetto.Chain
open Mozetto.Library.Mapping

inductive TicketStatus where
  | queued
  | matched
  | opened
  | failed
deriving DecidableEq

/-- A row of `seat_tickets`; `buyInRaw` is its buy-in in token atoms. -/
structure SeatTicketRow where
  profileId : Nat
  walletAddress : Address
  arenaAccountAddress : Option Address
  ownerAddress : Option Address
  gameTemplateId : Bytes32
  buyInRaw : Nat
  controllerHash : Bytes32
  agentProfileHash : Bytes32
  expiresAt : Nat
  nonce : Nat
  matchmakingPool : Bytes32
  leagueBit : Option Nat
  rated : Option Bool
  signature : Bytes
  status : TicketStatus
  sessionId : Option Bytes32

/-- The account whose funds a ticket locks. -/
def SeatTicketRow.arena (ticket : SeatTicketRow) : Address :=
  ticket.arenaAccountAddress.getD ticket.walletAddress

def SeatTicketRow.owner (ticket : SeatTicketRow) : Address :=
  ticket.ownerAddress.getD ticket.walletAddress

inductive SessionStatus where
  | pending
  | opened
  | playing
  | settling
  | settled
  | blocked
  | emergency
deriving DecidableEq

/--
A row of `onchain_sessions` with what matchmaking reads of its table: the
pool (chain, league, stakes and variant), whether it is active and public,
and whether a table session was completed.
-/
structure OnchainSessionRow where
  status : SessionStatus
  pool : Nat
  isActive : Bool
  completed : Bool
deriving DecidableEq

/-- A row of `onchain_session_players`. -/
structure SessionPlayerRow where
  sessionId : Bytes32
  profileId : Nat
  walletAddress : Address
  buyInRaw : Nat
  seat : Nat
  controllerHash : Bytes32
  agentProfileHash : Bytes32
  arenaAccountAddress : Address
  ownerAddress : Address
deriving DecidableEq

structure Db where
  seatTickets : Nat → Option SeatTicketRow
  onchainSessions : Bytes32 → Option OnchainSessionRow
  onchainSessionPlayers : List SessionPlayerRow

namespace Db

variable (db : Db)

/-- The players of a session. -/
def playersOf (sessionId : Bytes32) : List SessionPlayerRow :=
  db.onchainSessionPlayers.filter fun row => row.sessionId = sessionId

/-- The row that a ticket adds to a session. -/
def playerRow (ticket : SeatTicketRow) (sessionId : Bytes32) (seat : Nat) : SessionPlayerRow where
  sessionId := sessionId
  profileId := ticket.profileId
  walletAddress := ticket.arena
  buyInRaw := ticket.buyInRaw
  seat := seat
  controllerHash := ticket.controllerHash
  agentProfileHash := ticket.agentProfileHash
  arenaAccountAddress := ticket.arena
  ownerAddress := ticket.owner

def putTicket (ticketId : Nat) (ticket : SeatTicketRow) : Db :=
  { db with seatTickets := write db.seatTickets ticketId (some ticket) }

/-- Update one ticket, if it is there and meets a condition. -/
def updateTicket (ticketId : Nat) (condition : SeatTicketRow → Bool)
    (change : SeatTicketRow → SeatTicketRow) : Db :=
  match db.seatTickets ticketId with
  | some ticket =>
    if condition ticket then db.putTicket ticketId (change ticket) else db
  | none => db

/-- Update one session, if it is there and meets a condition. -/
def updateSession (sessionId : Bytes32) (condition : OnchainSessionRow → Bool)
    (change : OnchainSessionRow → OnchainSessionRow) : Db :=
  match db.onchainSessions sessionId with
  | some row =>
    if condition row then
      { db with
        onchainSessions := write db.onchainSessions sessionId (some (change row)) }
    else db
  | none => db

/-! ## Joining -/

/-- The queued ticket of a profile, as the claims select it. -/
def queuedTicket (ticketId profileId now : Nat) : Option SeatTicketRow :=
  (db.seatTickets ticketId).filter fun ticket =>
    ticket.profileId = profileId ∧ ticket.status = .queued ∧ now < ticket.expiresAt

/-- The conditions of the candidate query and of the choice of a seat. -/
def isCandidate (profileId pool maxSeats : Nat) (sessionId : Bytes32) (seat : Nat) :
    Bool :=
  match db.onchainSessions sessionId with
  | some row =>
    (row.status = .opened || row.status = .pending) && row.isActive &&
      row.pool = pool && !row.completed && (db.playersOf sessionId).all (fun player =>
        player.profileId ≠ profileId && player.seat ≠ seat) &&
      (db.playersOf sessionId).length < maxSeats &&
      1 ≤ (db.playersOf sessionId).length && seat < maxSeats
  | none => false

/--
`claimOpenOnchainSession` on a chosen candidate: the claimed ticket and the
tables after the commit, or the failure of the unique index on session and
wallet.
-/
def claimOpenOnchainSession (ticketId profileId now pool maxSeats : Nat) (sessionId : Bytes32)
    (seat : Nat) : Option (SeatTicketRow × Db) :=
  match db.queuedTicket ticketId profileId now with
  | none => none
  | some ticket =>
    if db.isCandidate profileId pool maxSeats sessionId seat ∧ (db.playersOf sessionId).all
          (fun player => player.walletAddress ≠ ticket.arena) then
      some (ticket,
          { db.putTicket ticketId
              { ticket with
                status := .matched
                sessionId := some sessionId } with
            onchainSessionPlayers :=
              playerRow ticket sessionId seat :: db.onchainSessionPlayers })
    else none

/-- `releaseOpenSessionClaim`. -/
def releaseOpenSessionClaim (ticketId : Nat) (sessionId : Bytes32) (profileId : Nat) : Db :=
  { db.updateTicket ticketId (fun ticket =>
        ticket.sessionId = some sessionId ∧ ticket.status = .matched)
      (fun ticket =>
        { ticket with status := .queued, sessionId := none }) with
    onchainSessionPlayers :=
      db.onchainSessionPlayers.filter fun row =>
        !(row.sessionId = sessionId ∧ row.profileId = profileId) }

def markTicketOpened (ticketId : Nat) (sessionId : Bytes32) : Db :=
  db.updateTicket ticketId (fun ticket => ticket.status = .matched ∨ ticket.status = .opened)
    (fun ticket =>
      { ticket with status := .opened, sessionId := some sessionId })

/-- `blockFailedOnchainSession`. -/
def blockFailedOnchainSession (sessionId : Bytes32) : Db :=
  db.updateSession sessionId (fun row =>
    row.status = .pending ∨ row.status = .opened ∨ row.status = .playing)
    (fun row => { row with status := .blocked, isActive := false })

/-! ## Creating a table -/

def claimSingleTicket (ticketId profileId now : Nat) : Option (SeatTicketRow × Db) :=
  (db.queuedTicket ticketId profileId now).map fun ticket =>
    (ticket, db.putTicket ticketId { ticket with status := .matched })

def linkTicketsToBatch (ticketId : Nat) (sessionId : Bytes32) : Db :=
  db.updateTicket ticketId (fun _ => true)
    (fun ticket => { ticket with sessionId := some sessionId })

/-- `createOnchainSessionPending`, together with its active table. -/
def createOnchainSessionPending (sessionId : Bytes32) (pool : Nat) : Db :=
  let row : OnchainSessionRow :=
    match db.onchainSessions sessionId with
    | some present =>
      { present with
        status := if present.status = .opened then present.status else .pending }
    | none =>
      { status := .pending
        pool := pool
        isActive := true
        completed := false }
  { db with
    onchainSessions := write db.onchainSessions sessionId (some row) }

/-- `insertOnchainSessionPlayers` for one player, with its upsert. -/
def insertOnchainSessionPlayers (ticket : SeatTicketRow) (sessionId : Bytes32) (seat : Nat) : Db :=
  let added := playerRow ticket sessionId seat
  { db with
    onchainSessionPlayers :=
      if db.onchainSessionPlayers.any (fun row =>
        row.sessionId = sessionId ∧ row.walletAddress = ticket.arena) then
        db.onchainSessionPlayers.map fun row =>
          if row.sessionId = sessionId ∧ row.walletAddress = ticket.arena then
            { row with
              seat := added.seat
              buyInRaw := added.buyInRaw
              arenaAccountAddress := added.arenaAccountAddress
              ownerAddress := added.ownerAddress }
          else row
      else added :: db.onchainSessionPlayers }

/-- `markOnchainSessionOpened`, with the ticket of the creator. -/
def markOnchainSessionOpened (ticketId : Nat) (sessionId : Bytes32) : Db :=
  (db.updateSession sessionId (fun row => row.status = .pending ∨ row.status = .opened)
    (fun row => { row with status := .opened })).updateTicket ticketId (fun ticket =>
      ticket.sessionId = some sessionId ∧ ticket.status ≠ .failed)
      (fun ticket => { ticket with status := .opened })

/-- `markBatchFailed`, with the ticket of the batch. -/
def markBatchFailed (ticketId : Nat) : Db :=
  db.updateTicket ticketId (fun ticket => ticket.status = .matched)
    (fun ticket => { ticket with status := .failed })

end Db

/-! ## Tickets on chain -/

/-- `makeTicket`, with the pool's league bit for tickets without one. -/
def makeTicket (leagueBit : Nat) (ticket : SeatTicketRow) : SeatTicket where
  player := ticket.arena
  gameTemplateId := ticket.gameTemplateId
  buyIn := ticket.buyInRaw
  controllerHash := ticket.controllerHash
  agentProfileHash := ticket.agentProfileHash
  expiresAt := ticket.expiresAt
  nonce := ticket.nonce
  matchmakingPool := ticket.matchmakingPool
  leagueBit := ticket.leagueBit.getD leagueBit
  rated := ticket.rated.getD true

/-! ## What the statements do to the players -/

namespace Db

variable {db : Db}

@[simp]
theorem updateTicket_players (ticketId : Nat) (condition : SeatTicketRow → Bool)
    (change : SeatTicketRow → SeatTicketRow) :
    (db.updateTicket ticketId condition change).onchainSessionPlayers =
      db.onchainSessionPlayers := by
  unfold updateTicket
  split
  · split <;> rfl
  · rfl

@[simp]
theorem updateSession_players (sessionId : Bytes32) (condition : OnchainSessionRow → Bool)
    (change : OnchainSessionRow → OnchainSessionRow) :
    (db.updateSession sessionId condition change).onchainSessionPlayers =
      db.onchainSessionPlayers := by
  unfold updateSession
  split
  · split <;> rfl
  · rfl

/-- A row for this session and account. -/
def Lists (db : Db) (sessionId : Bytes32) (account : Address) : Prop :=
  ∃ row ∈ db.onchainSessionPlayers, row.sessionId = sessionId ∧ row.walletAddress = account

instance (sessionId : Bytes32) (account : Address) : Decidable (db.Lists sessionId account) := by
  unfold Lists
  infer_instance

/-- Keeping the players keeps what they list. -/
theorem lists_congr {after : Db} (same : after.onchainSessionPlayers = db.onchainSessionPlayers)
    (sessionId : Bytes32) (account : Address) :
    after.Lists sessionId account ↔ db.Lists sessionId account := by
  unfold Lists
  rw [same]

/-- An inserted player is listed, and nobody is dropped. -/
theorem lists_insertOnchainSessionPlayers
    (ticket : SeatTicketRow) (sessionId : Bytes32) (seat : Nat)
    (other : Bytes32) (account : Address) :
    (db.insertOnchainSessionPlayers ticket sessionId seat).Lists other account ↔
      db.Lists other account ∨ (other = sessionId ∧ account = ticket.arena) := by
  unfold Lists insertOnchainSessionPlayers
  simp only
  split
  case isTrue present =>
    simp only [List.any_eq_true, decide_eq_true_eq] at present
    obtain ⟨found, member, session, wallet⟩ := present
    constructor
    · rintro ⟨row, inside, rfl, rfl⟩
      obtain ⟨origin, originInside, rfl⟩ := List.mem_map.mp inside
      left
      refine ⟨origin, originInside, ?_⟩
      split <;> exact ⟨rfl, rfl⟩
    · rintro (⟨row, inside, rfl, rfl⟩ | ⟨rfl, rfl⟩)
      · refine ⟨_, List.mem_map.mpr ⟨row, inside, rfl⟩, ?_⟩
        split <;> exact ⟨rfl, rfl⟩
      · refine ⟨_, List.mem_map.mpr ⟨found, member, rfl⟩, ?_⟩
        split
        · exact ⟨session, wallet⟩
        · exact ⟨session, wallet⟩
  case isFalse absent =>
    constructor
    · rintro ⟨row, inside, rfl, rfl⟩
      rcases List.mem_cons.mp inside with rfl | inside
      · exact Or.inr ⟨rfl, rfl⟩
      · exact Or.inl ⟨row, inside, rfl, rfl⟩
    · rintro (⟨row, inside, rfl, rfl⟩ | ⟨rfl, rfl⟩)
      · exact ⟨row, List.mem_cons_of_mem _ inside, rfl, rfl⟩
      · exact ⟨_, List.mem_cons_self, rfl, rfl⟩

end Db

end Mozetto.Matchmaking

/-!
## Immediate matchmaking

`openOrJoinImmediateTableLocked` as a program with a step for every awaited
call that changes something: a database statement, a broadcast, a receipt.
Any number of attempts interleave, statements and calls may fail with or
without effect, and a broadcast transaction may be mined at any later time.
Awaited calls on other tables only decide whether the attempt goes on: where
their failure leaves the function without a handler, the attempt stops.
-/

namespace Mozetto.Matchmaking

open Mozetto.Chain
open Mozetto.Library.Mapping
open Mozetto.Library.TransitionSystem

/-- The relayer and the constants of the session configurations. -/
structure Relayer (deployment : Deployment) where
  address : Address
  outside : Outside deployment address
  cityTemplateId : Nat → Bytes32
  dealerRoot : Bytes32 → Bytes32
  engineHash : Bytes32
  profileSetHash : Bytes32
  emergencyExitDelay : Nat

/-- Where an attempt stands; tickets are as they were claimed. -/
inductive Phase where
  | claiming
  | claimed (ticket : SeatTicketRow) (sessionId : Bytes32)
  | phantom (ticket : SeatTicketRow) (sessionId : Bytes32)
  | joining (ticket : SeatTicketRow) (sessionId : Bytes32)
  | waitingTopUp (ticket : SeatTicketRow) (sessionId : Bytes32)
  | toppedUp (ticket : SeatTicketRow) (sessionId : Bytes32)
  | finishingTopUp (ticket : SeatTicketRow) (sessionId : Bytes32)
  | failedTopUp (ticket : SeatTicketRow) (sessionId : Bytes32) (unknownSession : Bool)
  | blocking (sessionId : Bytes32)
  | creating
  | linking (ticket : SeatTicketRow)
  | linked (ticket : SeatTicketRow) (sessionId : Bytes32)
  | pending (ticket : SeatTicketRow) (sessionId : Bytes32)
  | inserted (ticket : SeatTicketRow) (sessionId : Bytes32)
  | waitingOpen (sessionId : Bytes32)
  | openedSession (sessionId : Bytes32)
  | finishingOpen (sessionId : Bytes32)
  | failedOpen (sessionId : Bytes32)
  | blockingOpen (sessionId : Bytes32)
  | done

/-- One call of the function. -/
structure Attempt where
  profileId : Nat
  ticketId : Nat
  pool : Nat
  maxSeats : Nat
  leagueBit : Nat
  phase : Phase

/-- A transaction of the relayer. -/
inductive RelayerTx where
  | openSession (ticket : SeatTicketRow) (sessionId : Bytes32) (leagueBit pool : Nat)
  | topUpSession (ticket : SeatTicketRow) (sessionId : Bytes32) (leagueBit : Nat)

/-- The call a transaction makes on the vault. -/
def RelayerTx.call {deployment : Deployment} (relayer : Relayer deployment) : RelayerTx → VaultCall
  | openSession ticket sessionId leagueBit pool =>
    .openSession
      { sessionId := sessionId
        gameTemplateId := relayer.cityTemplateId pool
        dealerRoot := relayer.dealerRoot sessionId
        engineHash := relayer.engineHash
        profileSetHash := relayer.profileSetHash
        emergencyExitDelay := relayer.emergencyExitDelay }
      [makeTicket leagueBit ticket] [ticket.signature]
  | topUpSession ticket sessionId leagueBit =>
    .topUpSession sessionId (makeTicket leagueBit ticket) ticket.signature

/--
The contracts, the database, the attempts, the broadcast transactions with
their attempts, and the session identifiers drawn so far.
-/
structure MatchState where
  world : World
  db : Db
  attempts : Nat → Option Attempt
  mempool : List (Nat × RelayerTx)
  sessionIds : List Bytes32

/-- A statement may fail, also after it was applied. -/
inductive Outcome where
  | acknowledged
  | unreported
  | failed
deriving DecidableEq

/-- A broadcast may fail, also after the network has the transaction. -/
inductive Broadcast where
  | sent
  | lost (unknownSession : Bool)
  | rejected (unknownSession : Bool)
deriving DecidableEq

inductive MatchEvent (deployment : Deployment) where
  | storeTicket (ticketId : Nat) (ticket : SeatTicketRow)
  | start (attempt profileId ticketId pool maxSeats leagueBit : Nat)
  | claim (attempt now : Nat) (candidate : Option (Bytes32 × Nat)) (outcome : Outcome)
  | readOpenedAt (attempt openedAt : Nat)
  | broadcast (attempt : Nat) (outcome : Broadcast)
  | receipt (attempt : Nat) (received unknownSession : Bool)
  | markOpened (attempt : Nat) (outcome : Outcome)
  | finish (attempt : Nat) (succeeds : Bool)
  | releaseClaim (attempt : Nat) (outcome : Outcome)
  | failBatch (attempt : Nat) (outcome : Outcome)
  | block (attempt : Nat) (outcome : Outcome)
  | claimSingle (attempt now : Nat) (outcome : Outcome)
  | link (attempt : Nat) (sessionId : Bytes32) (outcome : Outcome)
  | createPending (attempt : Nat) (outcome : Outcome)
  | insertPlayers (attempt : Nat) (outcome : Outcome)
  | stop (attempt : Nat)
  | confirm (place : Nat) (block : Msg)
  | chain (call : ExternalCall deployment)
  | progress (sessionId : Bytes32) (status : SessionStatus) (completed : Bool)

namespace MatchState

variable (state : MatchState)

/-- The attempt goes on in another phase. -/
def goTo (index : Nat) (attempt : Attempt) (phase : Phase) : MatchState :=
  { state with
    attempts := write state.attempts index (some { attempt with phase := phase }) }

/-- A statement with its effect and the phases after success and failure. -/
def statement (index : Nat) (attempt : Attempt) (applied : Db) (next failure : Phase) :
    Outcome → MatchState
  | .acknowledged => { state.goTo index attempt next with db := applied }
  | .unreported => { state.goTo index attempt failure with db := applied }
  | .failed => state.goTo index attempt failure

/-- A broadcast; `failure` is entered with what the error says. -/
def send (index : Nat) (attempt : Attempt) (tx : RelayerTx) (next : Phase)
    (failure : Bool → Phase) : Broadcast → MatchState
  | .sent =>
    { state.goTo index attempt next with
      mempool := (index, tx) :: state.mempool }
  | .lost unknownSession =>
    { state.goTo index attempt (failure unknownSession) with
      mempool := (index, tx) :: state.mempool }
  | .rejected unknownSession =>
    state.goTo index attempt (failure unknownSession)

end MatchState

section Steps

variable {deployment : Deployment} (relayer : Relayer deployment)

/-- The step of one attempt; `none` when its phase has no such step. -/
def stepAttempt (state : MatchState) (index : Nat) (attempt : Attempt) :
    MatchEvent deployment → Option MatchState
  | .claim _ now candidate outcome =>
    match attempt.phase, candidate with
    | .claiming, none => some (state.goTo index attempt .creating)
    | .claiming, some (sessionId, seat) =>
      (state.db.claimOpenOnchainSession attempt.ticketId
          attempt.profileId now attempt.pool attempt.maxSeats sessionId seat).map fun claimed =>
        state.statement index attempt claimed.2 (.claimed claimed.1 sessionId) .done outcome
    | _, _ => none
  | .readOpenedAt _ openedAt =>
    match attempt.phase with
    | .claimed ticket sessionId =>
      some (state.goTo index attempt (if openedAt = 0 then .phantom ticket sessionId
          else .joining ticket sessionId))
    | _ => none
  | .broadcast _ outcome =>
    match attempt.phase with
    | .joining ticket sessionId =>
      some (state.send index attempt (.topUpSession ticket sessionId attempt.leagueBit)
          (.waitingTopUp ticket sessionId) (.failedTopUp ticket sessionId) outcome)
    | .inserted ticket sessionId =>
      some (state.send index attempt
          (.openSession ticket sessionId attempt.leagueBit attempt.pool)
          (.waitingOpen sessionId) (fun _ => .failedOpen sessionId) outcome)
    | _ => none
  | .receipt _ received unknownSession =>
    if received ∧ ¬ state.mempool.all (fun entry => entry.1 ≠ index) then
      none
    else
      match attempt.phase with
      | .waitingTopUp ticket sessionId =>
        some (state.goTo index attempt (if received then .toppedUp ticket sessionId
            else .failedTopUp ticket sessionId unknownSession))
      | .waitingOpen sessionId =>
        some (state.goTo index attempt (if received then .openedSession sessionId
            else .failedOpen sessionId))
      | _ => none
  | .markOpened _ outcome =>
    match attempt.phase with
    | .toppedUp ticket sessionId =>
      some (state.statement index attempt (state.db.markTicketOpened attempt.ticketId sessionId)
          (.finishingTopUp ticket sessionId) (.failedTopUp ticket sessionId false) outcome)
    | .openedSession sessionId =>
      some (state.statement index attempt
          (state.db.markOnchainSessionOpened attempt.ticketId sessionId)
          (.finishingOpen sessionId) (.failedOpen sessionId) outcome)
    | _ => none
  | .finish _ succeeds =>
    match attempt.phase with
    | .finishingTopUp ticket sessionId =>
      some (state.goTo index attempt (if succeeds then .done
          else .failedTopUp ticket sessionId false))
    | .finishingOpen sessionId =>
      some (state.goTo index attempt (if succeeds then .done else .failedOpen sessionId))
    | _ => none
  | .releaseClaim _ outcome =>
    match attempt.phase with
    | .phantom _ sessionId =>
      some (state.statement index attempt
          (state.db.releaseOpenSessionClaim attempt.ticketId sessionId attempt.profileId)
          (.blocking sessionId) .done outcome)
    | .failedTopUp _ sessionId unknownSession =>
      some (state.statement index attempt
          (state.db.releaseOpenSessionClaim attempt.ticketId sessionId attempt.profileId)
          (if unknownSession then .blocking sessionId else .done) .done outcome)
    | _ => none
  | .failBatch _ outcome =>
    match attempt.phase with
    | .failedOpen sessionId =>
      some (state.statement index attempt (state.db.markBatchFailed attempt.ticketId)
          (.blockingOpen sessionId) .done outcome)
    | _ => none
  | .block _ outcome =>
    match attempt.phase with
    | .blocking sessionId =>
      some (state.statement index attempt
          (state.db.blockFailedOnchainSession sessionId) .claiming .done outcome)
    | .blockingOpen sessionId =>
      some (state.statement index attempt
          (state.db.blockFailedOnchainSession sessionId) .done .done outcome)
    | _ => none
  | .claimSingle _ now outcome =>
    match attempt.phase with
    | .creating =>
      match state.db.claimSingleTicket attempt.ticketId attempt.profileId now
      with
      | some claimed =>
        some (state.statement index attempt claimed.2 (.linking claimed.1) .done outcome)
      | none => some (state.goTo index attempt .done)
    | _ => none
  | .link _ sessionId outcome =>
    match attempt.phase with
    | .linking ticket =>
      if sessionId ∈ state.sessionIds then none
      else
        some (MatchState.statement { state with sessionIds := sessionId :: state.sessionIds }
            index attempt (state.db.linkTicketsToBatch attempt.ticketId sessionId)
            (.linked ticket sessionId) .done outcome)
    | _ => none
  | .createPending _ outcome =>
    match attempt.phase with
    | .linked ticket sessionId =>
      some (state.statement index attempt
          (state.db.createOnchainSessionPending sessionId attempt.pool)
          (.pending ticket sessionId) .done outcome)
    | _ => none
  | .insertPlayers _ outcome =>
    match attempt.phase with
    | .pending ticket sessionId =>
      some (state.statement index attempt
          (state.db.insertOnchainSessionPlayers ticket sessionId 0)
          (.inserted ticket sessionId) .done outcome)
    | _ => none
  | .stop _ => some (state.goTo index attempt .done)
  | _ => none

/-- The attempt an event is a step of. -/
def MatchEvent.attempt : MatchEvent deployment → Option Nat
  | .claim attempt _ _ _ => some attempt
  | .readOpenedAt attempt _ => some attempt
  | .broadcast attempt _ => some attempt
  | .receipt attempt _ _ => some attempt
  | .markOpened attempt _ => some attempt
  | .finish attempt _ => some attempt
  | .releaseClaim attempt _ => some attempt
  | .failBatch attempt _ => some attempt
  | .block attempt _ => some attempt
  | .claimSingle attempt _ _ => some attempt
  | .link attempt _ _ => some attempt
  | .createPending attempt _ => some attempt
  | .insertPlayers attempt _ => some attempt
  | .stop attempt => some attempt
  | _ => none

/-- A transaction is mined: it changes the contracts or reverts. -/
def mine (block : Msg) (world : World) (tx : RelayerTx) : World :=
  match world.stepOperation deployment { block with sender := relayer.address }
      (.vault (tx.call relayer))
  with
  | .ok after => after
  | .error _ => world

/-- One event; `none` when it cannot happen. -/
def stepMatch (state : MatchState) : MatchEvent deployment → Option MatchState
  | .storeTicket ticketId ticket =>
    match state.db.seatTickets ticketId with
    | none => some { state with db := state.db.putTicket ticketId ticket }
    | some _ => none
  | .start index profileId ticketId pool maxSeats leagueBit =>
    match state.attempts index with
    | none =>
      some
        { state with
          attempts :=
            write state.attempts index (some
                { profileId := profileId
                  ticketId := ticketId
                  pool := pool
                  maxSeats := maxSeats
                  leagueBit := leagueBit
                  phase := .claiming }) }
    | some _ => none
  | .confirm place block =>
    match state.mempool[place]? with
    | some (_, tx) =>
      some
        { state with
          world := mine relayer block state.world tx
          mempool := state.mempool.eraseIdx place }
    | none => none
  | .chain call =>
    if raisesNoLock call.operation then
      match state.world.stepOperation deployment call.msg call.operation
      with
      | .ok after => some { state with world := after }
      | .error _ => none
    else none
  | .progress sessionId status completed =>
    some
      { state with
        db :=
          state.db.updateSession sessionId (fun _ => true) (fun row =>
            { row with status := status, completed := completed }) }
  | event =>
    match event.attempt with
    | none => none
    | some index =>
      match state.attempts index with
      | none => none
      | some attempt => stepAttempt state index attempt event

/-- Fresh contracts, stored tickets, and nothing else. -/
structure MatchState.Initial (state : MatchState) : Prop where
  world : state.world.Initial
  sessions : state.db.onchainSessions = fun _ => none
  players : state.db.onchainSessionPlayers = []
  attempts : state.attempts = fun _ => none
  mempool : state.mempool = []
  sessionIds : state.sessionIds = []

/-- Matchmaking as a transition system of events. -/
def matchmaking : System MatchState (MatchEvent deployment) Unit where
  initial := MatchState.Initial
  step := fun state event =>
    match stepMatch relayer state event with
    | some after => .ok after
    | none => .error ⟨⟩

end Steps

end Mozetto.Matchmaking
