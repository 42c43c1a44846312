import Mozetto.Matchmaking.Attempts

/-!
# Settlement proposals

`buildProposalV3FromDb` merges the stored buy-ins, the displayed stacks and
the live locks of the vault into the rows and totals of a settlement.  Stacks
are decimals that pass through binary floating point.
-/

namespace Mozetto.Worker

open Mozetto.Chain
open Mozetto.Matchmaking

/-! ## Amounts -/

/-- A non-negative `numeric`: its digits, the last ones after the point. -/
structure Numeric where
  digits : Nat
  decimals : Nat
deriving DecidableEq

/-- `Number` of the text of a numeric. -/
def Numeric.number (amount : Numeric) : Float :=
  Float.ofScientific amount.digits true amount.decimals

/--
`BigInt(Math.floor(x))` of a non-negative number; `none` is the `RangeError`
of a number that is not finite.
-/
def bigIntFloor (number : Float) : Option Nat :=
  match number.toModel.unpack with
  | .finite .positive mantissa exponent _ =>
    some (if 0 ≤ exponent then mantissa * 2 ^ exponent.toNat
      else mantissa / 2 ^ (-exponent).toNat)
  | .zero _ => some 0
  | _ => none

/-- `BigInt(Math.floor(Number(chips) * 1e6))`. -/
def Numeric.atoms (chips : Numeric) : Option Nat := bigIntFloor (chips.number * 1e6)

/-- The product of `2.01` and a million falls short of `2010000`. -/
example : Numeric.atoms ⟨201, 2⟩ = some 2009999 := by decide +kernel

/-! ## The tables -/

/-- A row of `table_sessions`; amounts are in chips. -/
structure TableSessionRow where
  tableId : Nat
  ownerId : Nat
  buyIn : Numeric
  stack : Numeric
  active : Bool
  startedAt : Nat
  endedAt : Option Nat

/-- A row of `onchain_sessions`, as the worker selects it. -/
structure SessionRow where
  sessionId : Bytes32
  tableId : Option Nat

/-- The tables the worker reads; `hands` counts the hands of a table. -/
structure WorkerDb where
  onchainSessionPlayers : List SessionPlayerRow
  tableSessions : List TableSessionRow
  hands : Nat → Nat

/-- A row of the stack query. -/
structure StackRow where
  walletAddress : Address
  stack : Numeric
  buyIn : Numeric
  buyInRaw : Nat
  seat : Option Nat

/-- The order of the lateral query: active sessions first, then the latest. -/
def TableSessionRow.precedes (row other : TableSessionRow) : Bool :=
  if row.active = other.active then
    other.endedAt.getD other.startedAt < row.endedAt.getD row.startedAt
  else row.active

namespace WorkerDb

variable (db : WorkerDb)

/-- The first session of an owner at a table in that order. -/
def latestTableSession (tableId : Option Nat) (ownerId : Nat) :
    Option TableSessionRow :=
  (db.tableSessions.filter fun row =>
    tableId = some row.tableId ∧ row.ownerId = ownerId).foldl (fun best row =>
      match best with
      | none => some row
      | some first => if row.precedes first then some row else some first)
      none

/--
The rows of `loadStacks`.  Table sessions have no column `seat`, so that the
name in the lateral query is the seat of the player.
-/
def loadStacks (session : SessionRow) : List StackRow :=
  (db.onchainSessionPlayers.filter fun player =>
    player.sessionId = session.sessionId).map fun player =>
      match db.latestTableSession session.tableId player.profileId with
      | some row =>
        { walletAddress := player.walletAddress
          stack := row.stack
          buyIn := row.buyIn
          buyInRaw := player.buyInRaw
          seat := some player.seat }
      | none =>
        { walletAddress := player.walletAddress
          stack := ⟨player.buyInRaw, 6⟩
          buyIn := ⟨player.buyInRaw, 6⟩
          buyInRaw := player.buyInRaw
          seat := none }

end WorkerDb

/-! ## Players -/

structure PlayerStackInput where
  user : Address
  seat : Nat
  startLocked : Nat
  endBalance : Nat

/-- The row of a player before the vault is asked. -/
def playerInput (noPlay : Bool) (entry : StackRow × Nat) :
    Option PlayerStackInput := do
  let endBalance ← if noPlay then some entry.1.buyInRaw else entry.1.stack.atoms
  return {
    user := entry.1.walletAddress
    seat := entry.1.seat.getD entry.2
    startLocked := entry.1.buyInRaw
    endBalance := endBalance }

/-- A positive lock of the vault replaces the stored buy-in. -/
def preferLock (noPlay : Bool) (locks : Address → Nat) (player : PlayerStackInput) :
    PlayerStackInput :=
  let locked := locks player.user
  if 0 < locked then
    { player with
      startLocked := locked
      endBalance := if noPlay then locked else player.endBalance }
  else player

/-- `dbOpeningRaw`: the larger of the two buy-ins of every player. -/
def dbOpeningRaw (stackRows : List StackRow) : Option Nat := do
  let buyIns ← stackRows.mapM fun row => row.buyIn.atoms.map fun atoms =>
    max atoms row.buyInRaw
  return buyIns.sum

/-- The loop of the repair, with what it has allocated so far. -/
def scaleFrom (targetEnding ending : Nat) : Nat → List PlayerStackInput → List PlayerStackInput
  | _, [] => []
  | allocated, [player] =>
    [{ player with endBalance := targetEnding - allocated }]
  | allocated, player :: next :: rest =>
    let scaled := player.endBalance * targetEnding / ending
    { player with endBalance := scaled } ::
      scaleFrom targetEnding ending (allocated + scaled) (next :: rest)

/-- What the repair lets the players end with, given the sums it compares. -/
def targetEnding (opening ending dbOpening : Nat) : Nat :=
  let intendedRake := if ending ≤ dbOpening then dbOpening - ending else 0
  if intendedRake < opening then opening - intendedRake else opening

def repairEndingBalancesForVaultLocks (players : List PlayerStackInput) (dbOpening : Nat) :
    List PlayerStackInput :=
  let opening := (players.map (·.startLocked)).sum
  let ending := (players.map (·.endBalance)).sum
  if ending ≤ opening then players
  else
    scaleFrom (targetEnding opening ending dbOpening) ending 0 players

/-! ## Proposals -/

structure Roots where
  finalEventRoot : Bytes32
  handRoot : Bytes32
  balanceRoot : Bytes32

/-- The worker's constants, and the roots it resolves for a settlement. -/
structure WorkerEnv where
  resolveSettlementRoots : SessionRow → Bool → List PlayerStackInput → Option Roots
  randomnessEpochId : Bytes32 → Bytes32
  modelPolicyHash : Bytes32
  profileSetHash : Bytes32
  gameTemplateId : Bytes32
  engineHash : Bytes32
  deadline : Nat

structure V3Proposal where
  settlement : FinalSettlementV3
  players : List SettlementPlayer

/-- Encoding the digest refuses amounts beyond their words. -/
def encodable (settlement : FinalSettlementV3) : Bool :=
  settlement.finalSequence < uint64Size && settlement.openingTotal < uint256Size &&
    settlement.endingPlayerTotal < uint256Size && settlement.totalRake < uint256Size

def buildV3Proposal (env : WorkerEnv) (sessionId : Bytes32) (finalSequence : Nat)
    (roots : Roots) (inputs : List PlayerStackInput) : Option V3Proposal :=
  let openingTotal := (inputs.map (·.startLocked)).sum
  let endingPlayerTotal := (inputs.map (·.endBalance)).sum
  let settlement : FinalSettlementV3 :=
    { sessionId := sessionId
      finalSequence := finalSequence
      finalEventRoot := roots.finalEventRoot
      handRoot := roots.handRoot
      balanceRoot := roots.balanceRoot
      randomnessEpochId := env.randomnessEpochId sessionId
      openingTotal := openingTotal
      endingPlayerTotal := endingPlayerTotal
      totalRake := openingTotal - endingPlayerTotal
      proofBatchSequence := 0
      modelPolicyHash := env.modelPolicyHash
      profileSetHash := env.profileSetHash
      gameTemplateId := env.gameTemplateId
      engineHash := env.engineHash
      deadline := env.deadline }
  if inputs.isEmpty || openingTotal < endingPlayerTotal ||
      !encodable settlement then
    none
  else
    some
      { settlement := settlement
        players :=
          inputs.map fun input =>
            { user := input.user
              startLocked := input.startLocked
              endBalance := input.endBalance } }

/-- Which queries succeed, and what the vault and the event log answer. -/
structure Reads where
  stackQuery : Bool
  dealtQuery : Bool
  inserted : Bool
  finalSequence : Nat
  vaultLocks : Option (Address → Nat)

/-- No hand was dealt at the table, or the query that counts them failed. -/
def Reads.noPlay (reads : Reads) (db : WorkerDb) (session : SessionRow) : Bool :=
  !reads.dealtQuery || (session.tableId.map db.hands).getD 0 = 0

/-- The players of a proposal before the repair of their end balances. -/
def mergedPlayers (reads : Reads) (noPlay : Bool) (stackRows : List StackRow) :
    Option (List PlayerStackInput) :=
  (stackRows.zipIdx.mapM (playerInput noPlay)).map fun players =>
    match reads.vaultLocks with
    | some locks => players.map (preferLock noPlay locks)
    | none => players

def buildProposalV3FromDb (env : WorkerEnv) (reads : Reads) (db : WorkerDb)
    (session : SessionRow) : Option V3Proposal := do
  let stackRows := if reads.stackQuery then db.loadStacks session else []
  if stackRows.isEmpty then none
  let noPlay := reads.noPlay db session
  let merged ← mergedPlayers reads noPlay stackRows
  let dbOpening ← dbOpeningRaw stackRows
  let players := repairEndingBalancesForVaultLocks merged dbOpening
  let roots ← env.resolveSettlementRoots session noPlay players
  let proposal ← buildV3Proposal env session.sessionId reads.finalSequence roots players
  if reads.inserted then some proposal else none

end Mozetto.Worker
