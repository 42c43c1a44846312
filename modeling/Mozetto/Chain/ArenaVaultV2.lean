import Mozetto.Chain.World

/-!
# Tickets, leaves and Merkle commitments of the vault

What the vault hashes: seat tickets under its EIP-712 domain, the leaves of
the four session commitments, the balance leaves of emergency claims, and the
two kinds of Merkle proofs.
-/

namespace Mozetto.Chain

/-- A V2 seat ticket; `player` is an arena account. -/
structure SeatTicket where
  player : Address
  gameTemplateId : Bytes32
  buyIn : Nat
  controllerHash : Bytes32
  agentProfileHash : Bytes32
  expiresAt : Nat
  nonce : Nat
  matchmakingPool : Bytes32
  leagueBit : Nat
  rated : Bool

/-- A V3 seat ticket; its seat is its index in the sealing call. -/
structure SeatTicketV3 where
  arenaAccount : Address
  gameTemplateId : Bytes32
  matchmakingPool : Bytes32
  buyIn : Nat
  controllerHash : Bytes32
  profileConfigHash : Bytes32
  modelPolicyHash : Bytes32
  leagueBit : Nat
  rated : Bool
  expiresAt : Nat
  nonce : Nat

structure SessionConfig where
  sessionId : Bytes32
  gameTemplateId : Bytes32
  dealerRoot : Bytes32
  engineHash : Bytes32
  profileSetHash : Bytes32
  emergencyExitDelay : Nat

/-- One row of a settlement payload. -/
structure SettlementPlayer where
  user : Address
  startLocked : Nat
  endBalance : Nat
deriving DecidableEq, Repr

/-- The balance leaf of an emergency claim. -/
structure BalanceLeafClaim where
  sessionId : Bytes32
  epoch : Nat
  arenaAccount : Address
  seat : Nat
  openingBalance : Nat
  currentBalance : Nat
  cumulativeRake : Nat
  lastSequence : Nat
deriving DecidableEq, Repr

namespace ArenaVaultV2

section Encoding

variable (deployment : Deployment)

/-- The domain constant `keccak256(label)`. -/
def domain (label : String) : Bytes32 := deployment.keccak256 (utf8 label)

def protocolVersionV3 : Nat := 3

def hashSeatTicket (ticket : SeatTicket) : Bytes32 :=
  hashTypedDataV4 deployment "MozettoArenaVault" "2" deployment.vault (deployment.keccak256
      (abiEncode [domain deployment
            ("SeatTicket(address player,bytes32 gameTemplateId," ++
              "uint256 buyIn,bytes32 controllerHash," ++
              "bytes32 agentProfileHash,uint64 expiresAt,uint256 nonce," ++
              "bytes32 matchmakingPool,uint32 leagueBit,bool rated)"),
          ticket.player, ticket.gameTemplateId, ticket.buyIn,
          ticket.controllerHash, ticket.agentProfileHash, ticket.expiresAt,
          ticket.nonce, ticket.matchmakingPool, ticket.leagueBit,
          boolWord ticket.rated]))

def hashSeatTicketV3 (ticket : SeatTicketV3) : Bytes32 :=
  hashTypedDataV4 deployment "MozettoArenaVault" "2" deployment.vault (deployment.keccak256
      (abiEncode [domain deployment
            ("SeatTicketV3(address arenaAccount,bytes32 gameTemplateId," ++
              "bytes32 matchmakingPool,uint256 buyIn," ++
              "bytes32 controllerHash,bytes32 profileConfigHash," ++
              "bytes32 modelPolicyHash,uint8 leagueBit,bool rated," ++
              "uint64 expiresAt,uint256 nonce)"),
          ticket.arenaAccount, ticket.gameTemplateId, ticket.matchmakingPool,
          ticket.buyIn, ticket.controllerHash, ticket.profileConfigHash,
          ticket.modelPolicyHash, ticket.leagueBit, boolWord ticket.rated,
          ticket.expiresAt, ticket.nonce]))

/-- The session identifier a descriptor has to carry. -/
def expectedSessionId (descriptor : SessionDescriptor) : Bytes32 :=
  deployment.keccak256 (abiEncode
      [domain deployment "MOZETTO_SESSION_ID_V1", descriptor.chainId,
        descriptor.gameTemplateId, descriptor.participantRoot,
        descriptor.sessionNonce, descriptor.createdAt])

def sessionDescriptorHash (descriptor : SessionDescriptor) : Bytes32 :=
  deployment.keccak256 (abiEncode
      [domain deployment "MOZETTO_SESSION_V2", descriptor.chainId,
        descriptor.protocolVersion, descriptor.sessionId,
        descriptor.gameTemplateId, descriptor.participantRoot,
        descriptor.openingBalanceRoot, descriptor.controllerRoot,
        descriptor.profileRoot, descriptor.dealerSecretRoot,
        descriptor.randomnessPolicyId, descriptor.settlementPolicyId,
        descriptor.createdAt, descriptor.sealDeadline, descriptor.sessionNonce])

def participantLeaf (owner : Address) (seat : Nat) (ticket : SeatTicketV3) : Bytes32 :=
  deployment.keccak256 (abiEncode
      [domain deployment "MOZETTO_PARTICIPANT_LEAF_V1", owner,
        ticket.arenaAccount, seat, ticket.buyIn, ticket.controllerHash,
        ticket.profileConfigHash, ticket.matchmakingPool, boolWord ticket.rated, ticket.nonce])

def openingLeaf (sessionId : Bytes32) (seat : Nat) (ticket : SeatTicketV3) : Bytes32 :=
  deployment.keccak256 (abiEncode
      [domain deployment "MOZETTO_OPENING_BALANCE_LEAF_V1", sessionId,
        ticket.arenaAccount, seat, ticket.buyIn])

def controllerLeaf (seat : Nat) (ticket : SeatTicketV3) : Bytes32 :=
  deployment.keccak256 (abiEncode
      [domain deployment "MOZETTO_CONTROLLER_LEAF_V1", seat, ticket.controllerHash])

def balanceLeafHash (claim : BalanceLeafClaim) : Bytes32 :=
  deployment.keccak256 (abiEncode
      [domain deployment "MOZETTO_BALANCE_LEAF_V1", claim.sessionId,
        claim.epoch, claim.arenaAccount, claim.seat, claim.openingBalance,
        claim.currentBalance, claim.cumulativeRake, claim.lastSequence])

/-- The packed leaf of the legacy emergency exit. -/
def packedLeafHash (player : Address) (tableBalance lastSequence : Nat) : Bytes32 :=
  deployment.keccak256 (bytesOf 20 player ++ bytesOf 32 tableBalance ++ bytesOf 8 lastSequence)

/-! ## Merkle trees -/

/-- The parent of two nodes. -/
def merkleParent (left right : Bytes32) : Bytes32 :=
  deployment.keccak256 (bytesOf 32 left ++ bytesOf 32 right)

/-- Double `size` until it reaches `count`. -/
def paddedSize (count : Nat) : Nat → Nat → Nat
  | 0, size => size
  | fuel + 1, size =>
      if size < count then paddedSize count fuel (2 * size) else size

/-- The next level of a tree: the parents of adjacent nodes. -/
def nextLevel : List Bytes32 → List Bytes32
  | left :: right :: rest =>
      merkleParent deployment left right :: nextLevel rest
  | _ => []

/-- Halve a level until one node is left. -/
def foldLevels : Nat → List Bytes32 → Bytes32
  | _, [] => 0
  | _, [root] => root
  | 0, root :: _ => root
  | fuel + 1, level => foldLevels fuel (nextLevel deployment level)

/-- `_orderedMerkleRoot`: leaves padded with zero to a power of two. -/
def orderedMerkleRoot (leaves : List Bytes32) : Bytes32 :=
  let count := leaves.length
  let size := paddedSize count count 1
  foldLevels deployment count (leaves ++ List.replicate (size - count) 0)

/-- `_verifyMerkleProof`: sorted pairs. -/
def verifyMerkleProof (leaf root : Bytes32) (proof : List Bytes32) : Bool :=
  proof.foldl (fun computed sibling =>
      if computed < sibling then merkleParent deployment computed sibling
      else merkleParent deployment sibling computed)
    leaf = root

/-- `_verifyOrderedMerkleProof`: every sibling with its side. -/
def verifyOrderedMerkleProof (leaf root : Bytes32) (proof : List Bytes32)
    (siblingIsLeft : List Bool) : Bool :=
  (proof.zip siblingIsLeft).foldl (fun computed step =>
      if step.2 then merkleParent deployment step.1 computed
      else merkleParent deployment computed step.1)
    leaf = root

end Encoding

end ArenaVaultV2

end Mozetto.Chain

/-!
## ArenaVaultV2

Session custody for arena accounts: sealing and funding, V2 sessions with
top-ups and rebuys, checkpoints, settlement, fee withdrawal and the two
emergency exits, together with their calls into the accounts, the token, the
lifecycle contract and the fee vault.  Tokens make no callbacks, so the
reentrancy guard never fires.
-/

namespace Mozetto.Chain

open Mozetto.Library.Guarded
open Mozetto.Library.Mapping

namespace ArenaVaultV2

section Calls

variable (deployment : Deployment) (msg : Msg)

def onlySettlement (world : World) : Except Revert Unit :=
  revertIf (msg.sender ≠ world.vault.settlementHub) .unauthorized

def onlyRelayerOrSettlement (world : World) : Except Revert Unit :=
  revertIf (msg.sender ≠ world.vault.settlementHub ∧ msg.sender ≠ world.vault.sessionRelayer ∧
      msg.sender ≠ world.vault.owner) .unauthorized

def whenNotPaused (world : World) : Except Revert Unit :=
  revertIf (world.vault.paused = true) .enforcedPause

/-- `_requireActiveTemplate`, the same gate as the lifecycle's. -/
def requireActiveTemplate (world : World) (templateId : Bytes32) :
    Except Revert Unit :=
  SessionLifecycleV2.requireActiveTemplate msg world.vault.gameRegistry templateId

/-- `_requireBuyInWithinBand`: a registry without a band gates nothing. -/
def requireBuyInWithinBand (world : World) (templateId : Bytes32) (buyIn : Nat) :
    Except Revert Unit :=
  if world.vault.gameRegistry = 0 then
    .ok ⟨⟩
  else
    match msg.buyInBand world.vault.gameRegistry templateId with
    | none => .ok ⟨⟩
    | some (minBuyIn, maxBuyIn) =>
        if maxBuyIn = 0 then .ok ⟨⟩
        else revertIf (buyIn < minBuyIn ∨ maxBuyIn < buyIn) .buyInOutOfBand

/-! ### Lifecycle hooks -/

/--
A call of the configured lifecycle contract.  An address without the
lifecycle's code makes the call revert.
-/
def callLifecycle (world : World)
    (hook : Msg → SessionLifecycleV2 → Except Revert SessionLifecycleV2) :
    Except Revert World := do
  revertIf (world.vault.sessionLifecycle ≠ deployment.lifecycle) .callFailed
  let lifecycle ← hook (msg.calledBy deployment.vault) world.lifecycle
  return { world with lifecycle := lifecycle }

def notifyLifecycleSealed (world : World) (descriptor : SessionDescriptor) :
    Except Revert World :=
  if world.vault.sessionLifecycle = 0 then
    .ok world
  else
    callLifecycle deployment msg world fun context lifecycle =>
      lifecycle.recordSealed context descriptor.sessionId
        { gameTemplateId := descriptor.gameTemplateId
          participantRoot := descriptor.participantRoot
          openingBalanceRoot := descriptor.openingBalanceRoot
          controllerRoot := descriptor.controllerRoot
          profileRoot := descriptor.profileRoot
          dealerSecretRoot := descriptor.dealerSecretRoot
          sessionDescriptorHash := sessionDescriptorHash deployment descriptor }

def notifyLifecycleSettled (world : World) (sessionId : Bytes32) :
    Except Revert World :=
  if world.vault.sessionLifecycle = 0 then
    .ok world
  else if world.vault.sessionSealedV3 sessionId = false then
    .ok world
  else
    callLifecycle deployment msg world fun context lifecycle =>
      lifecycle.recordSettled context sessionId

def notifyLifecycleEmergencyExit (world : World) (sessionId : Bytes32) :
    Except Revert World :=
  if world.vault.sessionLifecycle = 0 then
    .ok world
  else if world.vault.sessionSealedV3 sessionId = false then
    .ok world
  else
    callLifecycle deployment msg world fun context lifecycle =>
      lifecycle.recordEmergencyExit context sessionId

/-! ### Locks from tickets -/

/-- The locks after `buyIn` is added for one account. -/
def creditLock (vault : ArenaVaultV2) (sessionId : Bytes32) (player : Address)
    (buyIn : Nat) : Except Revert ArenaVaultV2 := do
  let locked ← checkedAdd (vault.lockedBySession sessionId player) buyIn
  let total ← checkedAdd (vault.totalLocked player) buyIn
  return { vault with
    lockedBySession := write₂ vault.lockedBySession sessionId player locked
    totalLocked := write vault.totalLocked player total }

/-- A new row in the participants of a session. -/
def addParticipant (vault : ArenaVaultV2) (sessionId : Bytes32) (player : Address) :
    Except Revert ArenaVaultV2 := do
  let count ← checkedAdd (vault.sessionParticipantCount sessionId) 1
  return { vault with
    sessionParticipants := write₂ vault.sessionParticipants sessionId player true
    sessionParticipantCount := write vault.sessionParticipantCount sessionId count }

def useNonce (vault : ArenaVaultV2) (player : Address) (nonce : Nat) :
    ArenaVaultV2 :=
  { vault with usedNonces := write₂ vault.usedNonces player nonce true }

/-- `account.lockBuyIn`, called by the vault. -/
def callLockBuyIn (world : World) (account : Address) (sessionId : Bytes32) (buyIn : Nat)
    (gameTemplateId : Bytes32) (leagueBit : Nat) (rated : Bool) :
    Except Revert World := do
  let (record, tokens) ← (world.accounts account).lockBuyIn (msg.calledBy deployment.vault) account
      world.tokens sessionId buyIn gameTemplateId leagueBit rated
  return { world with
    accounts := write world.accounts account record
    tokens := tokens }

/-- `account.increaseBuyIn`, called by the vault. -/
def callIncreaseBuyIn (world : World) (account : Address) (sessionId : Bytes32) (buyIn : Nat)
    (gameTemplateId : Bytes32) (leagueBit : Nat) (rated : Bool) :
    Except Revert World := do
  let (record, tokens) ← (world.accounts account).increaseBuyIn (msg.calledBy deployment.vault)
      account world.tokens sessionId buyIn gameTemplateId leagueBit rated
  return { world with
    accounts := write world.accounts account record
    tokens := tokens }

/-- `account.releaseExposure`, called by the vault. -/
def callReleaseExposure (world : World) (account : Address) (sessionId : Bytes32) (amount : Nat) :
    Except Revert World := do
  let record ← (world.accounts account).releaseExposure (msg.calledBy deployment.vault)
      sessionId amount
  return { world with accounts := write world.accounts account record }

/-- `usdc.safeTransfer`, called by the vault. -/
def callTransfer (world : World) (recipient : Address) (amount : Nat) :
    Except Revert World := do
  let tokens ← world.tokens.transfer deployment.usdc deployment.vault recipient amount
  return { world with tokens := tokens }

/-- `_lockFromTicketV3`. -/
def lockFromTicketV3 (world : World) (sessionId expectedTemplateId : Bytes32)
    (ticket : SeatTicketV3) (signature : Bytes) : Except Revert World := do
  revertIf (ticket.buyIn = 0) .zeroAmount
  revertIf (ticket.gameTemplateId ≠ expectedTemplateId) .templateMismatch
  revertIf (ticket.expiresAt < msg.timestamp) .ticketExpired
  revertIf (ticket.leagueBit = 0) .badLeagueBit
  requireBuyInWithinBand msg world ticket.gameTemplateId ticket.buyIn
  revertIf (world.vault.usedNonces ticket.arenaAccount ticket.nonce = true) .nonceUsed
  revertIf (world.vault.sessionParticipants sessionId ticket.arenaAccount = true)
    .duplicateParticipant
  let accountOwner := world.factory.ownerOf ticket.arenaAccount
  revertIf (accountOwner = 0) .notArenaAccount
  let auth := (world.accounts ticket.arenaAccount).gameAuth
  revertIf (auth.enabled = false ∨ auth.vault ≠ deployment.vault) .permissionInactive
  revertIf (auth.usdc ≠ deployment.usdc) .wrongUsdc
  let digest := hashSeatTicketV3 deployment ticket
  revertIf (msg.isValidSignatureNow auth.sessionSigner digest signature = false ∧
      msg.isValidSignatureNow accountOwner digest signature = false) .badSignature
  let noted :=
    { world with
      vault := useNonce world.vault ticket.arenaAccount ticket.nonce }
  let paid ← callLockBuyIn deployment msg noted ticket.arenaAccount sessionId
      ticket.buyIn ticket.gameTemplateId ticket.leagueBit ticket.rated
  let credited ← creditLock paid.vault sessionId ticket.arenaAccount ticket.buyIn
  let seated ← addParticipant credited sessionId ticket.arenaAccount
  return { paid with vault := seated }

/-- The checks `_lockFromTicket` and `_rebuyFromTicket` share at their end. -/
def requireTicketSigned (world : World) (ticket : SeatTicket) (signature : Bytes) :
    Except Revert Unit := do
  let accountOwner := world.factory.ownerOf ticket.player
  revertIf (accountOwner = 0) .notArenaAccount
  let auth := (world.accounts ticket.player).gameAuth
  revertIf (auth.enabled = false ∨ auth.vault ≠ deployment.vault) .permissionInactive
  let digest := hashSeatTicket deployment ticket
  revertIf (msg.isValidSignatureNow accountOwner digest signature = false ∧
      msg.isValidSignatureNow auth.sessionSigner digest signature = false) .badSignature

/-- `_lockFromTicket`. -/
def lockFromTicket (world : World) (sessionId expectedTemplateId : Bytes32)
    (ticket : SeatTicket) (signature : Bytes) : Except Revert World := do
  revertIf (ticket.buyIn = 0) .zeroAmount
  revertIf (ticket.gameTemplateId ≠ expectedTemplateId) .templateMismatch
  revertIf (ticket.expiresAt < msg.timestamp) .ticketExpired
  requireBuyInWithinBand msg world ticket.gameTemplateId ticket.buyIn
  revertIf (world.vault.usedNonces ticket.player ticket.nonce = true) .nonceUsed
  revertIf (world.vault.sessionParticipants sessionId ticket.player = true) .duplicateParticipant
  requireTicketSigned deployment msg world ticket signature
  let noted := { world with vault := useNonce world.vault ticket.player ticket.nonce }
  let paid ← callLockBuyIn deployment msg noted ticket.player sessionId ticket.buyIn
      ticket.gameTemplateId ticket.leagueBit ticket.rated
  let credited ← creditLock paid.vault sessionId ticket.player ticket.buyIn
  let seated ← addParticipant credited sessionId ticket.player
  return { paid with vault := seated }

/-- `_rebuyFromTicket`: an existing participant adds to its lock. -/
def rebuyFromTicket (world : World) (sessionId expectedTemplateId : Bytes32)
    (ticket : SeatTicket) (signature : Bytes) : Except Revert World := do
  revertIf (ticket.buyIn = 0) .zeroAmount
  revertIf (ticket.gameTemplateId ≠ expectedTemplateId) .templateMismatch
  revertIf (ticket.expiresAt < msg.timestamp) .ticketExpired
  requireBuyInWithinBand msg world ticket.gameTemplateId ticket.buyIn
  revertIf (world.vault.usedNonces ticket.player ticket.nonce = true) .nonceUsed
  requireTicketSigned deployment msg world ticket signature
  let noted := { world with vault := useNonce world.vault ticket.player ticket.nonce }
  let paid ← callIncreaseBuyIn deployment msg noted ticket.player sessionId
      ticket.buyIn ticket.gameTemplateId ticket.leagueBit ticket.rated
  let credited ← creditLock paid.vault sessionId ticket.player ticket.buyIn
  return { paid with vault := credited }

/-! ### Opening sessions -/

/-- The leaves of one seat: participant, opening, controller, profile. -/
def seatLeaves (world : World) (descriptor : SessionDescriptor) (entry : SeatTicketV3 × Nat) :
    Except Revert (Bytes32 × Bytes32 × Bytes32 × Bytes32) := do
  let (ticket, seat) := entry
  revertIf (ticket.gameTemplateId ≠ descriptor.gameTemplateId) .templateMismatch
  let owner := world.factory.ownerOf ticket.arenaAccount
  revertIf (owner = 0) .notArenaAccount
  return (participantLeaf deployment owner seat ticket,
    openingLeaf deployment descriptor.sessionId seat ticket,
    controllerLeaf deployment seat ticket, ticket.profileConfigHash)

/-- Compare the four commitment roots of a descriptor with its leaves. -/
def requireRoots (descriptor : SessionDescriptor)
    (leaves : List (Bytes32 × Bytes32 × Bytes32 × Bytes32)) :
    Except Revert Unit := do
  let root := orderedMerkleRoot deployment
  revertIf (root (leaves.map (·.1)) ≠ descriptor.participantRoot) .participantRootMismatch
  revertIf (root (leaves.map (·.2.1)) ≠ descriptor.openingBalanceRoot) .openingBalanceRootMismatch
  revertIf (root (leaves.map (·.2.2.1)) ≠ descriptor.controllerRoot) .controllerRootMismatch
  revertIf (root (leaves.map (·.2.2.2)) ≠ descriptor.profileRoot) .profileRootMismatch

/-- Write a fresh session record. -/
def openRecord (vault : ArenaVaultV2) (session : Session) : ArenaVaultV2 :=
  { vault with sessions := write vault.sessions session.sessionId session }

def sealAndFundSession (world : World) (descriptor : SessionDescriptor)
    (tickets : List SeatTicketV3) (signatures : List Bytes) :
    Except Revert World := do
  onlyRelayerOrSettlement msg world
  whenNotPaused world
  revertIf (descriptor.chainId ≠ deployment.chainId) .wrongChain
  revertIf (descriptor.protocolVersion ≠ protocolVersionV3) .badProtocolVersion
  revertIf (descriptor.sealDeadline < msg.timestamp) .sealDeadlinePassed
  revertIf ((world.vault.sessions descriptor.sessionId).openedAt ≠ 0) .sessionExists
  revertIf (tickets.length = 0 ∨ tickets.length ≠ signatures.length) .badSettlement
  revertIf (255 < tickets.length) .badSettlement
  requireActiveTemplate msg world descriptor.gameTemplateId
  revertIf (expectedSessionId deployment descriptor ≠ descriptor.sessionId) .sessionIdMismatch
  let leaves ← tickets.zipIdx.mapM (seatLeaves deployment world descriptor)
  requireRoots deployment descriptor leaves
  let exitAfter ← checkedAdd64 msg.timestamp world.vault.defaultEmergencyExitDelay
  let record :=
    openRecord world.vault
      { sessionId := descriptor.sessionId
        templateId := descriptor.gameTemplateId
        dealerRoot := descriptor.dealerSecretRoot
        engineHash := 0
        profileSetHash := descriptor.profileRoot
        openedAt := msg.timestamp
        settled := false
        lastSequence := 0
        lastBalanceRoot := 0
        emergencyExitAfter := exitAfter }
  let opened :=
    { world with
      vault := { record with
        sessionDescriptors := write record.sessionDescriptors descriptor.sessionId descriptor
        sessionSealedV3 := write record.sessionSealedV3 descriptor.sessionId true } }
  let funded ← (tickets.zip signatures).foldlM (fun state entry =>
        lockFromTicketV3 deployment msg state descriptor.sessionId
          descriptor.gameTemplateId entry.1 entry.2)
      opened
  notifyLifecycleSealed deployment msg funded descriptor

def openSession (world : World) (config : SessionConfig) (tickets : List SeatTicket)
    (signatures : List Bytes) : Except Revert World := do
  onlyRelayerOrSettlement msg world
  whenNotPaused world
  revertIf ((world.vault.sessions config.sessionId).openedAt ≠ 0) .sessionExists
  revertIf (tickets.length = 0 ∨ tickets.length ≠ signatures.length) .badSettlement
  requireActiveTemplate msg world config.gameTemplateId
  let exitAfter ← checkedAdd64 msg.timestamp config.emergencyExitDelay
  let opened :=
    { world with
      vault :=
        openRecord world.vault
          { sessionId := config.sessionId
            templateId := config.gameTemplateId
            dealerRoot := config.dealerRoot
            engineHash := config.engineHash
            profileSetHash := config.profileSetHash
            openedAt := msg.timestamp
            settled := false
            lastSequence := 0
            lastBalanceRoot := 0
            emergencyExitAfter := exitAfter } }
  (tickets.zip signatures).foldlM (fun state entry =>
      lockFromTicket deployment msg state config.sessionId config.gameTemplateId entry.1 entry.2)
    opened

/-- The guards of an open V2 session that `topUpSession` and `rebuySession` make. -/
def requireMutableSession (world : World) (sessionId : Bytes32) :
    Except Revert Unit := do
  let session := world.vault.sessions sessionId
  revertIf (session.openedAt = 0) .unknownSession
  revertIf (session.settled = true) .alreadySettled
  revertIf (world.vault.sessionSealedV3 sessionId = true) .sessionSealedImmutable

def topUpSession (world : World) (sessionId : Bytes32) (ticket : SeatTicket)
    (signature : Bytes) : Except Revert World := do
  onlyRelayerOrSettlement msg world
  whenNotPaused world
  requireMutableSession world sessionId
  lockFromTicket deployment msg world sessionId
    (world.vault.sessions sessionId).templateId ticket signature

def rebuySession (world : World) (sessionId : Bytes32) (ticket : SeatTicket)
    (signature : Bytes) : Except Revert World := do
  onlyRelayerOrSettlement msg world
  whenNotPaused world
  requireMutableSession world sessionId
  revertIf (world.vault.sessionParticipants sessionId ticket.player = false) .unknownParticipant
  rebuyFromTicket deployment msg world sessionId
    (world.vault.sessions sessionId).templateId ticket signature

/-! ### Checkpoints and settlement -/

/-- `applyCheckpoint`; the event root goes to the event only. -/
def applyCheckpoint (world : World) (sessionId : Bytes32) (sequence : Nat)
    (balanceRoot : Bytes32) : Except Revert World := do
  onlySettlement msg world
  let session := world.vault.sessions sessionId
  revertIf (session.openedAt = 0) .unknownSession
  revertIf (session.settled = true) .alreadySettled
  revertIf (sequence ≤ session.lastSequence) .sequenceRegression
  return { world with
    vault := { world.vault with
      sessions :=
        write world.vault.sessions sessionId
          { session with
            lastSequence := sequence
            lastBalanceRoot := balanceRoot } } }

/-- The running sums of the first settlement loop and the users seen. -/
structure PayloadSums where
  startSum : Nat
  endSum : Nat
  seen : List Address

/-- One round of the first settlement loop. -/
def checkRow (world : World) (sessionId : Bytes32) (sums : PayloadSums)
    (row : SettlementPlayer) : Except Revert PayloadSums := do
  revertIf (row.user = 0 ∨ row.user = world.vault.feeTreasury) .settlementDestination
  revertIf (world.factory.ownerOf row.user = 0) .notArenaAccount
  revertIf (world.vault.sessionParticipants sessionId row.user = false) .unknownParticipant
  revertIf (row.user ∈ sums.seen) .duplicateParticipant
  let startSum ← checkedAdd sums.startSum row.startLocked
  let endSum ← checkedAdd sums.endSum row.endBalance
  revertIf (world.vault.lockedBySession sessionId row.user ≠ row.startLocked) .badSettlement
  return { startSum := startSum, endSum := endSum, seen := row.user :: sums.seen }

/-- Lower the lock of one account by an amount. -/
def debitLock (vault : ArenaVaultV2) (sessionId : Bytes32) (player : Address)
    (amount : Nat) : Except Revert ArenaVaultV2 := do
  let locked ← checkedSub (vault.lockedBySession sessionId player) amount
  let total ← checkedSub (vault.totalLocked player) amount
  return { vault with
    lockedBySession := write₂ vault.lockedBySession sessionId player locked
    totalLocked := write vault.totalLocked player total }

/-- One round of the second settlement loop. -/
def releaseRow (sessionId : Bytes32) (world : World) (row : SettlementPlayer) :
    Except Revert World := do
  let debited ← debitLock world.vault sessionId row.user row.startLocked
  let released ← callReleaseExposure deployment msg { world with vault := debited }
      row.user sessionId row.startLocked
  if 0 < row.endBalance then
    callTransfer deployment released row.user row.endBalance
  else
    return released

/-- Accrue a positive rake and close the session. -/
def closeSession (vault : ArenaVaultV2) (sessionId : Bytes32) (rake : Nat) :
    Except Revert ArenaVaultV2 := do
  let accrued ← if 0 < rake then checkedAdd vault.accruedProtocolFees rake
    else .ok vault.accruedProtocolFees
  return { vault with
    accruedProtocolFees := accrued
    sessions :=
      write vault.sessions sessionId { vault.sessions sessionId with settled := true } }

def settleSession (world : World) (sessionId : Bytes32) (players : List SettlementPlayer)
    (rake : Nat) : Except Revert World := do
  onlySettlement msg world
  let session := world.vault.sessions sessionId
  revertIf (session.openedAt = 0) .unknownSession
  revertIf (session.settled = true) .alreadySettled
  revertIf (players.length ≠ world.vault.sessionParticipantCount sessionId) .badSettlement
  let sums ← players.foldlM (checkRow world sessionId) { startSum := 0, endSum := 0, seen := [] }
  let claimed ← checkedAdd sums.endSum rake
  revertIf (sums.startSum ≠ claimed) .badSettlement
  let released ← players.foldlM (releaseRow deployment msg sessionId) world
  let closed ← closeSession released.vault sessionId rake
  notifyLifecycleSettled deployment msg { released with vault := closed } sessionId

/-! ### Protocol fees -/

/--
`_withdrawProtocolFees`.  The registered fee vault pulls the amount it was
just approved for; an address without its code makes the call revert.
-/
def withdrawProtocolFees (world : World) (amount : Nat) :
    Except Revert World := do
  onlyOwner msg world.vault.owner
  revertIf (amount = 0) .zeroAmount
  revertIf (world.vault.accruedProtocolFees < amount) .insufficientFees
  let feeVault := world.vault.feeTreasury
  revertIf (feeVault = 0) .settlementDestination
  let approved := world.tokens.approve deployment.usdc deployment.vault feeVault amount
  revertIf (feeVault ≠ deployment.feeVault) .callFailed
  let (deposited, tokens) ← world.feeVault.depositFees deployment (msg.calledBy deployment.vault)
      approved amount
  return { world with
    tokens := tokens
    feeVault := deposited
    vault := { world.vault with
      accruedProtocolFees := world.vault.accruedProtocolFees - amount } }

/-! ### Emergency exits -/

/-- `_requireEmergencyExitReady`. -/
def requireEmergencyExitReady (world : World) (sessionId : Bytes32) (player : Address) :
    Except Revert Unit := do
  let session := world.vault.sessions sessionId
  revertIf (session.openedAt = 0) .unknownSession
  revertIf (session.settled = true) .alreadySettled
  revertIf (msg.timestamp < session.emergencyExitAfter) .emergencyExitNotReady
  revertIf (session.lastBalanceRoot = 0) .badMerkleProof
  revertIf (player = 0 ∨ player = world.vault.feeTreasury) .settlementDestination
  revertIf (world.factory.ownerOf player = 0) .notArenaAccount
  revertIf (world.vault.sessionParticipants sessionId player = false) .unknownParticipant
  revertIf (world.vault.emergencyExitClaimed sessionId player = true) .emergencyExitAlreadyClaimed

/-- `_payoutEmergencyExit`. -/
def payoutEmergencyExit (world : World) (sessionId : Bytes32) (player : Address)
    (tableBalance : Nat) : Except Revert World := do
  revertIf (world.vault.lockedBySession sessionId player < tableBalance) .insufficientLocked
  let claimed :=
    { world.vault with
      emergencyExitClaimed := write₂ world.vault.emergencyExitClaimed sessionId player true }
  let debited ← debitLock claimed sessionId player tableBalance
  let released ← callReleaseExposure deployment msg { world with vault := debited } player
      sessionId tableBalance
  let paid ← callTransfer deployment released player tableBalance
  notifyLifecycleEmergencyExit deployment msg paid sessionId

/-- `emergencyExit` with a packed leaf. -/
def emergencyExit (world : World) (sessionId : Bytes32) (player : Address)
    (tableBalance lastSequence : Nat) (proof : List Bytes32) :
    Except Revert World := do
  whenNotPaused world
  requireEmergencyExitReady msg world sessionId player
  let session := world.vault.sessions sessionId
  revertIf (lastSequence ≠ session.lastSequence) .checkpointSequenceMismatch
  let leaf := packedLeafHash deployment player tableBalance lastSequence
  revertIf (verifyMerkleProof deployment leaf session.lastBalanceRoot proof = false) .badMerkleProof
  payoutEmergencyExit deployment msg world sessionId player tableBalance

def emergencyExitWithBalanceLeaf (world : World) (sessionId : Bytes32) (claim : BalanceLeafClaim)
    (proof : List Bytes32) (siblingIsLeft : List Bool) :
    Except Revert World := do
  whenNotPaused world
  revertIf (proof.length ≠ siblingIsLeft.length) .invalidProofLength
  revertIf (claim.sessionId ≠ sessionId) .sessionIdMismatch
  requireEmergencyExitReady msg world sessionId claim.arenaAccount
  let session := world.vault.sessions sessionId
  revertIf (claim.lastSequence ≠ session.lastSequence) .checkpointSequenceMismatch
  let leaf := balanceLeafHash deployment claim
  revertIf (verifyOrderedMerkleProof deployment leaf session.lastBalanceRoot proof
      siblingIsLeft = false) .badMerkleProof
  payoutEmergencyExit deployment msg world sessionId claim.arenaAccount claim.currentBalance

/-! ### Administration -/

/-- The owner-only calls of the vault. -/
inductive Admin where
  | setSettlementHub (hub : Address)
  | setFeeTreasury (treasury : Address)
  | setSessionRelayer (relayer : Address)
  | setDefaultEmergencyExitDelay (delay : Nat)
  | setGameRegistry (registry : Address)
  | setSessionLifecycle (lifecycle : Address)
  | pause
  | unpause
  | ownable (call : OwnableCall)

/-- The vault after an owner-only call. -/
def administer (vault : ArenaVaultV2) : Admin → Except Revert ArenaVaultV2
  | .setSettlementHub hub => do
      onlyOwner msg vault.owner
      return { vault with settlementHub := hub }
  | .setFeeTreasury treasury => do
      onlyOwner msg vault.owner
      revertIf (treasury = 0) .requireZero
      return { vault with feeTreasury := treasury }
  | .setSessionRelayer relayer => do
      onlyOwner msg vault.owner
      return { vault with sessionRelayer := relayer }
  | .setDefaultEmergencyExitDelay delay => do
      onlyOwner msg vault.owner
      revertIf (delay = 0) .requireZero
      return { vault with defaultEmergencyExitDelay := delay }
  | .setGameRegistry registry => do
      onlyOwner msg vault.owner
      return { vault with gameRegistry := registry }
  | .setSessionLifecycle lifecycle => do
      onlyOwner msg vault.owner
      return { vault with sessionLifecycle := lifecycle }
  | .pause => do
      onlyOwner msg vault.owner
      revertIf (vault.paused = true) .enforcedPause
      return { vault with paused := true }
  | .unpause => do
      onlyOwner msg vault.owner
      revertIf (vault.paused = false) .expectedPause
      return { vault with paused := false }
  | .ownable call => do
      let owner ← call.newOwner msg vault.owner
      return { vault with owner := owner }

end Calls

end ArenaVaultV2

end Mozetto.Chain
