import Mozetto.Library.TransitionSystem
import Mozetto.Matchmaking.Attempts

/-!
# Writers of the custody sessions

The rows of `onchain_sessions` and every statement that writes their status:
the projections of the indexer, the functions of the database package that
matchmaking and the game server call, and the settlement worker.  What a
function reads before its statement decides whether it issues it at all; here
any of the statements may come at any time.
-/

namespace Mozetto.Custody

open Mozetto.Chain
open Mozetto.Library.Mapping
open Mozetto.Library.TransitionSystem
open Mozetto.Matchmaking (SessionStatus)

/-- A row of `onchain_sessions`. -/
structure SessionRow where
  chainId : Nat
  gameTemplateId : Option Bytes32
  tableId : Option String
  openTxHash : Option Bytes32
  openBlock : Option Nat
  status : SessionStatus
  settlementTxHash : Option Bytes32
deriving DecidableEq

/-- The sessions, and the tables at which a session is active. -/
structure SessionDb where
  sessions : Bytes32 → Option SessionRow
  hasActiveSession : String → Bool

namespace SessionDb

variable (db : SessionDb) (sessionId : Bytes32)

/-- `update onchain_sessions … where session_id = $1 and …`. -/
def update (condition : SessionRow → Bool) (change : SessionRow → SessionRow) :
    SessionDb :=
  { db with
    sessions :=
      write db.sessions sessionId ((db.sessions sessionId).map fun row =>
          if condition row then change row else row) }

/-- `insert … on conflict (session_id) do update …`. -/
def upsert (new : SessionRow) (change : SessionRow → SessionRow) :
    SessionDb :=
  { db with
    sessions :=
      write db.sessions sessionId (some ((db.sessions sessionId).elim new change)) }

def withStatus (status : SessionStatus) (row : SessionRow) : SessionRow :=
  { row with status := status }

/-- Set the status of a session that has one of these. -/
def moveFrom (statuses : List SessionStatus) (status : SessionStatus) :
    SessionDb :=
  db.update sessionId (fun row => row.status ∈ statuses) (withStatus status)

end SessionDb

/-! ## Projections of the indexer -/

/-- What the projections read of a log. -/
structure SessionLog where
  sessionId : Option Bytes32
  transactionHash : Option Bytes32
  removed : Bool
  blockNumber : Option Nat
  templateId : Option Bytes32
  toState : Option Int

namespace SessionLog

variable (log : SessionLog)

/-- The session and the transaction of a log that is not dropped. -/
def delivered : Option (Bytes32 × Bytes32) :=
  if log.removed then none
  else
    log.sessionId.bind fun sessionId =>
      log.transactionHash.map fun hash => (sessionId, hash)

/-- The status that a lifecycle state stands for, if any. -/
def lifecycleStatus (state : Int) : Option SessionStatus :=
  if state = 1 then some .pending
  else if state = 2 ∨ state = 4 ∨ state = 5 then some .playing
  else if state = 6 then some .settling
  else if state = 7 then some .settled
  else if state = 8 then some .blocked
  else if state = 9 then some .emergency
  else none

/-- The session of a lifecycle log, and the status that it is given. -/
def transition : Option (Bytes32 × SessionStatus) :=
  if log.removed then none
  else
    log.sessionId.bind fun sessionId =>
      (lifecycleStatus (log.toState.getD (-1))).map fun status =>
        (sessionId, status)

/-- The row that a `SessionOpened` log inserts. -/
def openedRow (chainId : Nat) (hash : Bytes32) : SessionRow where
  chainId := chainId
  gameTemplateId := log.templateId
  tableId := none
  openTxHash := some hash
  openBlock := some (log.blockNumber.getD 0)
  status := .opened
  settlementTxHash := none

end SessionLog

namespace SessionDb

variable (db : SessionDb)

def handleSessionOpened (chainId : Nat) (log : SessionLog) : SessionDb :=
  log.delivered.elim db fun opened =>
    db.upsert opened.1 (log.openedRow chainId opened.2) fun row =>
      { row with
        status := .opened
        openTxHash := some opened.2
        openBlock := some (log.blockNumber.getD 0) }

def handleSessionSettled (log : SessionLog) : SessionDb :=
  log.delivered.elim db fun settled =>
    db.update settled.1 (fun _ => true) fun row =>
      { row with status := .settled, settlementTxHash := some settled.2 }

def handleSessionSealed (log : SessionLog) : SessionDb :=
  log.delivered.elim db fun sealed => db.moveFrom sealed.1 [.opened] .playing

def handleHubSettled (log : SessionLog) : SessionDb :=
  log.delivered.elim db fun settled =>
    db.update settled.1 (fun _ => true) fun row =>
      { row with
        status := .settled
        settlementTxHash := row.settlementTxHash.or (some settled.2) }

def handleSessionTransition (log : SessionLog) : SessionDb :=
  log.transition.elim db fun moved =>
    db.update moved.1 (fun _ => true) (withStatus moved.2)

/-! ## Functions of the database package -/

variable (sessionId : Bytes32)

def createOnchainSessionPending (chainId : Nat) (gameTemplateId : Bytes32) (tableId : String)
    (openTxHash : Option Bytes32) : SessionDb :=
  db.upsert sessionId
    { chainId := chainId
      gameTemplateId := some gameTemplateId
      tableId := some tableId
      openTxHash := openTxHash
      openBlock := none
      status := .pending
      settlementTxHash := none }
    fun row =>
      { row with
        tableId := some tableId
        openTxHash := openTxHash.or row.openTxHash
        status := if row.status = .opened then row.status else .pending }

def markOnchainSessionOpened (openTxHash : Option Bytes32) : SessionDb :=
  db.update sessionId (fun row => row.status ∈ [.pending, .opened]) fun row =>
      { row with
        status := .opened
        openTxHash := openTxHash.or row.openTxHash }

def blockFailedOnchainSession : SessionDb :=
  db.moveFrom sessionId [.pending, .opened, .playing] .blocked

def blockOpenOnchainSessionsForChain (chainId : Nat) : SessionDb :=
  { db with
    sessions := fun id =>
      (db.sessions id).map fun row =>
        if row.chainId = chainId ∧ row.status ∈ [SessionStatus.pending, .opened, .playing] then
          withStatus .blocked row
        else row }

def markOnchainSessionPlaying : SessionDb := db.moveFrom sessionId [.opened] .playing

def markOnchainSessionReadyForSettlement : SessionDb :=
  db.update sessionId (fun row =>
      row.status ∈ [SessionStatus.pending, .opened, .playing] ∧
        (row.tableId.any db.hasActiveSession) = false)
    (withStatus .settling)

def closeOnchainSessionForSettlement : SessionDb :=
  db.moveFrom sessionId [.pending, .opened, .playing] .settling

/-- The statement of `abandonUnseatedOnchainPlayer` on the session. -/
def abandonUnseatedOnchainPlayer : SessionDb :=
  db.moveFrom sessionId [.pending, .opened, .playing, .blocked] .settling

/-- The statement of `forceLeaveTableSession` on the session. -/
def forceLeaveTableSession : SessionDb :=
  db.moveFrom sessionId [.pending, .opened, .playing, .blocked] .settling

/-- The statement of `reapOrphanOnchainTables` for a session with players. -/
def reapOrphanOnchainTable : SessionDb :=
  db.moveFrom sessionId [.pending, .opened, .playing, .blocked] .settling

/-! ## The settlement worker -/

/-- The hash that marks a session which the vault does not know. -/
def ghostTxHash : Bytes32 := 255

def retireGhost : SessionDb :=
  db.update sessionId (fun row => row.settlementTxHash.isNone) fun row =>
    { row with status := .settled, settlementTxHash := some ghostTxHash }

def markSettling : SessionDb := db.update sessionId (fun _ => true) (withStatus .settling)

def markSettled (txHash : Bytes32) : SessionDb :=
  db.update sessionId (fun _ => true) fun row =>
    { row with status := .settled, settlementTxHash := some txHash }

end SessionDb

/-! ## Runs -/

/-- One statement on the sessions; `tableSession` is made by other code. -/
inductive SessionWrite where
  | sessionOpened (chainId : Nat) (log : SessionLog)
  | sessionSettled (log : SessionLog)
  | sessionSealed (log : SessionLog)
  | hubSettled (log : SessionLog)
  | sessionTransition (log : SessionLog)
  | createPending (sessionId : Bytes32) (chainId : Nat)
      (gameTemplateId : Bytes32) (tableId : String) (openTxHash : Option Bytes32)
  | markOpened (sessionId : Bytes32) (openTxHash : Option Bytes32)
  | blockFailed (sessionId : Bytes32)
  | blockOpenForChain (chainId : Nat)
  | markPlaying (sessionId : Bytes32)
  | markReadyForSettlement (sessionId : Bytes32)
  | closeForSettlement (sessionId : Bytes32)
  | abandonUnseated (sessionId : Bytes32)
  | forceLeave (sessionId : Bytes32)
  | reapOrphan (sessionId : Bytes32)
  | retireGhost (sessionId : Bytes32)
  | markSettling (sessionId : Bytes32)
  | markSettled (sessionId txHash : Bytes32)
  | tableSession (tableId : String) (active : Bool)

def SessionDb.perform (db : SessionDb) : SessionWrite → SessionDb
  | .sessionOpened chainId log => db.handleSessionOpened chainId log
  | .sessionSettled log => db.handleSessionSettled log
  | .sessionSealed log => db.handleSessionSealed log
  | .hubSettled log => db.handleHubSettled log
  | .sessionTransition log => db.handleSessionTransition log
  | .createPending sessionId chainId gameTemplateId tableId openTxHash =>
      db.createOnchainSessionPending sessionId chainId gameTemplateId tableId openTxHash
  | .markOpened sessionId openTxHash =>
      db.markOnchainSessionOpened sessionId openTxHash
  | .blockFailed sessionId => db.blockFailedOnchainSession sessionId
  | .blockOpenForChain chainId => db.blockOpenOnchainSessionsForChain chainId
  | .markPlaying sessionId => db.markOnchainSessionPlaying sessionId
  | .markReadyForSettlement sessionId =>
      db.markOnchainSessionReadyForSettlement sessionId
  | .closeForSettlement sessionId =>
      db.closeOnchainSessionForSettlement sessionId
  | .abandonUnseated sessionId => db.abandonUnseatedOnchainPlayer sessionId
  | .forceLeave sessionId => db.forceLeaveTableSession sessionId
  | .reapOrphan sessionId => db.reapOrphanOnchainTable sessionId
  | .retireGhost sessionId => db.retireGhost sessionId
  | .markSettling sessionId => db.markSettling sessionId
  | .markSettled sessionId txHash => db.markSettled sessionId txHash
  | .tableSession tableId active =>
      { db with
        hasActiveSession := write db.hasActiveSession tableId active }

/-- All orders of the statements, from any rows. -/
def sessionRuns : System SessionDb SessionWrite Unit where
  initial := fun _ => True
  step := fun db statement => .ok (db.perform statement)

end Mozetto.Custody
