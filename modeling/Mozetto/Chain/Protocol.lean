import Mozetto.Chain.PokerSettlementHubV3
import Mozetto.Library.TransitionSystem

/-!
# Runs of the contracts

Every call an outside account can make on one of the contracts, and the
transition system of their accepted calls.  Contracts of the deployment make
no calls of their own accord: what they call on each other is part of the
operation that an outside sender started.
-/

namespace Mozetto.Chain

open Mozetto.Library.Guarded
open Mozetto.Library.Mapping
open Mozetto.Library.TransitionSystem

/-- Calls on one arena account. -/
inductive AccountCall where
  | setGamePermission (permission : GamePermission)
  | revokeGamePermission
  | emergencyInvalidatePermissions
  | transferOwnership (newOwner : Address)
  | acceptOwnership
  | withdraw (token : Address) (amount : Nat) (recipient : Address)
  | lockBuyIn (sessionId : Bytes32) (buyIn : Nat) (gameTemplateId : Bytes32)
      (leagueBit : Nat) (rated : Bool)
  | increaseBuyIn (sessionId : Bytes32) (buyIn : Nat)
      (gameTemplateId : Bytes32) (leagueBit : Nat) (rated : Bool)
  | releaseExposure (sessionId : Bytes32) (amount : Nat)

/-- Calls on the vault. -/
inductive VaultCall where
  | sealAndFundSession (descriptor : SessionDescriptor)
      (tickets : List SeatTicketV3) (signatures : List Bytes)
  | openSession (config : SessionConfig) (tickets : List SeatTicket) (signatures : List Bytes)
  | topUpSession (sessionId : Bytes32) (ticket : SeatTicket) (signature : Bytes)
  | rebuySession (sessionId : Bytes32) (ticket : SeatTicket) (signature : Bytes)
  | applyCheckpoint (sessionId : Bytes32) (sequence : Nat) (balanceRoot : Bytes32)
  | settleSession (sessionId : Bytes32) (players : List SettlementPlayer) (rake : Nat)
  | withdrawProtocolFees (amount : Nat)
  | emergencyExit (sessionId : Bytes32) (player : Address)
      (tableBalance lastSequence : Nat) (proof : List Bytes32)
  | emergencyExitWithBalanceLeaf (sessionId : Bytes32)
      (claim : BalanceLeafClaim) (proof : List Bytes32) (siblingIsLeft : List Bool)
  | admin (call : ArenaVaultV2.Admin)

/-- Calls on the settlement hub. -/
inductive HubCall where
  | settle (settlement : FinalSettlementV3) (players : List SettlementPlayer)
      (signatures : List Bytes) (verifierPolicyId : Bytes32)
  | settleWithProof (settlement : FinalSettlementV3)
      (players : List SettlementPlayer) (proof : Bytes) (verifierPolicyId : Bytes32)
  | emergencyRelease (sessionId : Bytes32) (player : Address)
      (tableBalance lastSequence : Nat) (proof : List Bytes32)
  | emergencyReleaseWithBalanceLeaf (sessionId : Bytes32)
      (claim : BalanceLeafClaim) (proof : List Bytes32) (siblingIsLeft : List Bool)
  | admin (call : PokerSettlementHubV3.Admin)

/-- Calls on the lifecycle contract. -/
inductive LifecycleCall where
  | createDraft (sessionId gameTemplateId : Bytes32)
  | setDraftCommitments (sessionId participantRoot openingBalanceRoot
      controllerRoot profileRoot : Bytes32)
  | sealDraft (sessionId sessionDescriptorHash dealerSecretRoot : Bytes32)
  | beginRandomness (sessionId vrfRequestId : Bytes32)
  | markReady (sessionId deckBatchRoot : Bytes32)
  | activate (sessionId : Bytes32)
  | beginSettling (sessionId : Bytes32)
  | markSettled (sessionId : Bytes32)
  | abort (sessionId : Bytes32)
  | markEmergencyExit (sessionId : Bytes32)
  | recordSealed (sessionId : Bytes32) (commitments : SealedCommitments)
  | recordSettled (sessionId : Bytes32)
  | recordEmergencyExit (sessionId : Bytes32)
  | setVault (vault : Address)
  | setSessionRelayer (relayer : Address)
  | setGameRegistry (registry : Address)
  | ownable (call : OwnableCall)

/-- Calls on the fee vault. -/
inductive FeeVaultCall where
  | depositFees (amount : Nat)
  | sweep (amount : Nat)
  | setDepositor (depositor : Address) (allowed : Bool)
  | setEmergencyGuardian (guardian : Address)
  | setMinDelay (newDelay : Nat)
  | scheduleTreasuryUpdate (newTreasury : Address)
  | executeTreasuryUpdate
  | cancelTreasuryUpdate
  | pause
  | unpause
  | ownable (call : OwnableCall)

/-- One operation on one of the contracts. -/
inductive Operation where
  | createAccount (owner : Address)
  | account (target : Address) (call : AccountCall)
  | transfer (token recipient : Address) (amount : Nat)
  | mint (token recipient : Address) (amount : Nat)
  | vault (call : VaultCall)
  | hub (call : HubCall)
  | router (call : VerifierRouter.Admin)
  | lifecycle (call : LifecycleCall)
  | feeVault (call : FeeVaultCall)

/-- Senders outside the deployment. -/
structure Outside (deployment : Deployment) (sender : Address) : Prop where
  ne_zero : sender ≠ 0
  ne_vault : sender ≠ deployment.vault
  ne_hub : sender ≠ deployment.hub
  ne_feeVault : sender ≠ deployment.feeVault
  ne_account : ∀ salt, sender ≠ deployment.predictDeterministicAddress salt

/-- A call by a sender outside the deployment. -/
structure ExternalCall (deployment : Deployment) where
  msg : Msg
  outside : Outside deployment msg.sender
  operation : Operation

namespace World

section Steps

variable (deployment : Deployment) (msg : Msg)

/-- Replace the record of one account. -/
def putAccount (world : World) (target : Address) (record : ArenaAccount) :
    World :=
  { world with accounts := write world.accounts target record }

def stepAccount (world : World) (target : Address) : AccountCall → Except Revert World
  | .setGamePermission permission => do
      let record ← (world.accounts target).setGamePermission deployment msg target permission
      return world.putAccount target record
  | .revokeGamePermission => do
      let record ← (world.accounts target).revokeGamePermission msg
      return world.putAccount target record
  | .emergencyInvalidatePermissions => do
      let record ← (world.accounts target).revokeGamePermission msg
      return world.putAccount target record
  | .transferOwnership newOwner => do
      let record ← (world.accounts target).transferOwnership msg newOwner
      return world.putAccount target record
  | .acceptOwnership => do
      let (record, factory) ← ArenaAccountFactory.acceptOwnership msg target
          (world.accounts target) world.factory
      return { world.putAccount target record with factory := factory }
  | .withdraw token amount recipient => do
      let tokens ← (world.accounts target).withdraw msg target world.tokens token amount recipient
      return { world with tokens := tokens }
  | .lockBuyIn sessionId buyIn gameTemplateId leagueBit rated => do
      let (record, tokens) ← (world.accounts target).lockBuyIn msg target world.tokens sessionId
          buyIn gameTemplateId leagueBit rated
      return { world.putAccount target record with tokens := tokens }
  | .increaseBuyIn sessionId buyIn gameTemplateId leagueBit rated => do
      let (record, tokens) ← (world.accounts target).increaseBuyIn msg target world.tokens
          sessionId buyIn gameTemplateId leagueBit rated
      return { world.putAccount target record with tokens := tokens }
  | .releaseExposure sessionId amount => do
      let record ← (world.accounts target).releaseExposure msg sessionId amount
      return world.putAccount target record

def stepVault (world : World) : VaultCall → Except Revert World
  | .sealAndFundSession descriptor tickets signatures =>
      ArenaVaultV2.sealAndFundSession deployment msg world descriptor tickets signatures
  | .openSession config tickets signatures =>
      ArenaVaultV2.openSession deployment msg world config tickets signatures
  | .topUpSession sessionId ticket signature =>
      ArenaVaultV2.topUpSession deployment msg world sessionId ticket signature
  | .rebuySession sessionId ticket signature =>
      ArenaVaultV2.rebuySession deployment msg world sessionId ticket signature
  | .applyCheckpoint sessionId sequence balanceRoot =>
      ArenaVaultV2.applyCheckpoint msg world sessionId sequence balanceRoot
  | .settleSession sessionId players rake =>
      ArenaVaultV2.settleSession deployment msg world sessionId players rake
  | .withdrawProtocolFees amount =>
      ArenaVaultV2.withdrawProtocolFees deployment msg world amount
  | .emergencyExit sessionId player tableBalance lastSequence proof =>
      ArenaVaultV2.emergencyExit deployment msg world sessionId player
        tableBalance lastSequence proof
  | .emergencyExitWithBalanceLeaf sessionId claim proof siblingIsLeft =>
      ArenaVaultV2.emergencyExitWithBalanceLeaf deployment msg world
        sessionId claim proof siblingIsLeft
  | .admin call => do
      let vault ← ArenaVaultV2.administer msg world.vault call
      return { world with vault := vault }

def stepHub (world : World) : HubCall → Except Revert World
  | .settle settlement players signatures verifierPolicyId =>
      PokerSettlementHubV3.settle deployment msg world settlement players
        signatures verifierPolicyId
  | .settleWithProof settlement players proof verifierPolicyId =>
      PokerSettlementHubV3.settleWithProof deployment msg world settlement
        players proof verifierPolicyId
  | .emergencyRelease sessionId player tableBalance lastSequence proof =>
      PokerSettlementHubV3.emergencyRelease deployment msg world sessionId
        player tableBalance lastSequence proof
  | .emergencyReleaseWithBalanceLeaf sessionId claim proof siblingIsLeft =>
      PokerSettlementHubV3.emergencyReleaseWithBalanceLeaf deployment msg
        world sessionId claim proof siblingIsLeft
  | .admin call => do
      let hub ← PokerSettlementHubV3.administer msg world.hub call
      return { world with hub := hub }

/-- The lifecycle contract after one call on it. -/
def callLifecycle (lifecycle : SessionLifecycleV2) :
    LifecycleCall → Except Revert SessionLifecycleV2
  | .createDraft sessionId gameTemplateId =>
      lifecycle.createDraft msg sessionId gameTemplateId
  | .setDraftCommitments sessionId participantRoot openingBalanceRoot controllerRoot profileRoot =>
      lifecycle.setDraftCommitments msg sessionId participantRoot
        openingBalanceRoot controllerRoot profileRoot
  | .sealDraft sessionId sessionDescriptorHash dealerSecretRoot =>
      lifecycle.sealDraft msg sessionId sessionDescriptorHash dealerSecretRoot
  | .beginRandomness sessionId vrfRequestId =>
      lifecycle.beginRandomness msg sessionId vrfRequestId
  | .markReady sessionId deckBatchRoot =>
      lifecycle.markReady msg sessionId deckBatchRoot
  | .activate sessionId =>
      SessionLifecycleV2.activate msg lifecycle sessionId
  | .beginSettling sessionId =>
      SessionLifecycleV2.beginSettling msg lifecycle sessionId
  | .markSettled sessionId =>
      SessionLifecycleV2.markSettled msg lifecycle sessionId
  | .abort sessionId =>
      SessionLifecycleV2.abort msg lifecycle sessionId
  | .markEmergencyExit sessionId =>
      SessionLifecycleV2.markEmergencyExit msg lifecycle sessionId
  | .recordSealed sessionId commitments =>
      lifecycle.recordSealed msg sessionId commitments
  | .recordSettled sessionId => lifecycle.recordSettled msg sessionId
  | .recordEmergencyExit sessionId =>
      lifecycle.recordEmergencyExit msg sessionId
  | .setVault vault => lifecycle.setVault msg vault
  | .setSessionRelayer relayer => lifecycle.setSessionRelayer msg relayer
  | .setGameRegistry registry => lifecycle.setGameRegistry msg registry
  | .ownable call => lifecycle.changeOwner msg call

/-- The fee vault and the tokens after one call on the fee vault. -/
def callFeeVault (feeVault : ProtocolFeeVault) (tokens : Tokens) :
    FeeVaultCall → Except Revert (ProtocolFeeVault × Tokens)
  | .depositFees amount => feeVault.depositFees deployment msg tokens amount
  | .sweep amount => feeVault.sweep deployment msg tokens amount
  | .setDepositor depositor allowed => do
      return (← feeVault.setDepositor msg depositor allowed, tokens)
  | .setEmergencyGuardian guardian => do
      return (← feeVault.setEmergencyGuardian msg guardian, tokens)
  | .setMinDelay newDelay => do
      return (← feeVault.setMinDelay msg newDelay, tokens)
  | .scheduleTreasuryUpdate newTreasury => do
      return (← feeVault.scheduleTreasuryUpdate msg newTreasury, tokens)
  | .executeTreasuryUpdate => do
      return (← feeVault.executeTreasuryUpdate msg, tokens)
  | .cancelTreasuryUpdate => do
      return (← feeVault.cancelTreasuryUpdate msg, tokens)
  | .pause => do return (← feeVault.pause msg, tokens)
  | .unpause => do return (← feeVault.unpause msg, tokens)
  | .ownable call => do return (← feeVault.changeOwner msg call, tokens)

/-- One operation; a call on an address without an account's code fails. -/
def stepOperation (world : World) : Operation → Except Revert World
  | .createAccount owner => do
      let (factory, accounts) ← ArenaAccountFactory.createAccount deployment world.factory
          world.accounts owner
      return { world with factory := factory, accounts := accounts }
  | .account target call => do
      revertIf (world.factory.ownerOf target = 0) .callFailed
      world.stepAccount deployment msg target call
  | .transfer token recipient amount => do
      let tokens ← world.tokens.transfer token msg.sender recipient amount
      return { world with tokens := tokens }
  | .mint token recipient amount =>
      return { world with tokens := world.tokens.mint token recipient amount }
  | .vault call => world.stepVault deployment msg call
  | .hub call => world.stepHub deployment msg call
  | .router call => do
      let router ← VerifierRouter.administer msg world.router call
      return { world with router := router }
  | .lifecycle call => do
      let lifecycle ← callLifecycle msg world.lifecycle call
      return { world with lifecycle := lifecycle }
  | .feeVault call => do
      let (feeVault, tokens) ← callFeeVault deployment msg world.feeVault world.tokens call
      return { world with feeVault := feeVault, tokens := tokens }

end Steps

/-- Freshly deployed contracts: nothing locked, opened, drafted or settled. -/
structure Initial (world : World) : Prop where
  lockedBySession : world.vault.lockedBySession = fun _ _ => 0
  totalLocked : world.vault.totalLocked = fun _ => 0
  sessionParticipants : world.vault.sessionParticipants = fun _ _ => false
  sessionParticipantCount : world.vault.sessionParticipantCount = fun _ => 0
  accruedProtocolFees : world.vault.accruedProtocolFees = 0
  usedNonces : world.vault.usedNonces = fun _ _ => false
  sessionDescriptors : world.vault.sessionDescriptors = fun _ => none
  sessionSealedV3 : world.vault.sessionSealedV3 = fun _ => false
  emergencyExitClaimed : world.vault.emergencyExitClaimed = fun _ _ => false
  sessions : world.vault.sessions = fun _ => Session.unset
  accountOf : world.factory.accountOf = fun _ => 0
  ownerOf : world.factory.ownerOf = fun _ => 0
  accounts : world.accounts = fun _ => ArenaAccount.initializeAccount 0 0
  lifecycleSessions : world.lifecycle.sessions = fun _ => SessionRecord.unset
  usedRoots : world.hub.usedRoots = fun _ => false
  lastSequence : world.hub.lastSequence = fun _ => 0
  settledSessions : world.hub.settledSessions = fun _ => false

/-- The contracts as a transition system of external calls. -/
def protocol (deployment : Deployment) : System World (ExternalCall deployment) Revert where
  initial := Initial
  step := fun world call =>
    world.stepOperation deployment call.msg call.operation

/-- The worlds of all runs. -/
abbrev Reachable (deployment : Deployment) (world : World) : Prop :=
  (protocol deployment).Reachable AnyCall world

end World

/-! ## An example deployment -/

namespace Example

/-- Fold bytes into a word; an injective enough stand-in for a hash. -/
def mix (bytes : Bytes) : Bytes32 :=
  bytes.foldl (fun acc byte => (acc * 257 + byte + 1) % uint256Size) 1

/-- Fixed contracts at small addresses and account clones from `1000` on. -/
def deployment : Deployment where
  chainId := 1
  keccak256 := mix
  usdc := 7
  feeVaultUsdc := 7
  vault := 1
  factory := 2
  lifecycle := 3
  hub := 4
  router := 5
  feeVault := 6
  predictDeterministicAddress := fun salt => 1000 + salt
  predict_injective := by
    intro left right equal
    simpa using equal
  predict_ne_zero := by
    intro salt
    show (1000 + salt : Nat) ≠ 0
    omega
  predict_ne_vault := by
    intro salt
    show (1000 + salt : Nat) ≠ 1
    omega
  vault_ne_zero := by decide
  lifecycle_ne_zero := by decide
  feeVault_ne_vault := by decide

instance nonzeroUsers : NeZero 900 := ⟨by decide⟩

instance nonzeroTimes : NeZero 1000000 := ⟨by decide⟩

/-- A sender outside the deployment. -/
def user (index : Fin 900) : Nat := 100 + index.val

theorem user_bounds (index : Fin 900) : 100 ≤ user index ∧ user index < 1000 := by
  have bound := index.isLt
  unfold user
  omega

theorem outside_user (index : Fin 900) : Outside deployment (user index) := by
  have bounds := user_bounds index
  constructor
  · show user index ≠ 0
    omega
  · show user index ≠ 1
    omega
  · show user index ≠ 4
    omega
  · show user index ≠ 6
    omega
  · intro salt
    show user index ≠ (1000 + salt : Nat)
    omega

/--
A signature names its signer, and a settlement proof repeats the digest it
is for.
-/
def message (sender : Address) (time : Fin 1000000) : Msg where
  sender := sender
  timestamp := time + 1
  timestamp_pos := Nat.succ_pos _
  timestamp_lt := by
    have bound := time.isLt
    have large : 1000001 < uint64Size := by decide
    omega
  isValidSignatureNow := fun signer _ signature => signature = [signer]
  isActiveForNewSessions := fun _ _ => none
  buyInBand := fun _ _ => none
  settlementVerify := fun _ _ digest proof => some (proof = [digest])
  isSequenceAccepted := fun _ _ => none

def call (sender : Fin 900) (time : Fin 1000000) (operation : Operation) :
    ExternalCall deployment where
  msg := message (user sender) time
  outside := outside_user sender
  operation := operation

/-- Fresh contracts, all administered and relayed by user `0`. -/
def world (sessionLifecycle : Address) : World where
  tokens := ⟨fun _ _ => 0, fun _ _ _ => 0⟩
  factory := ⟨fun _ => 0, fun _ => 0⟩
  accounts := fun _ => ArenaAccount.initializeAccount 0 0
  vault :=
    { owner := user 0
      paused := false
      settlementHub := deployment.hub
      feeTreasury := deployment.feeVault
      sessionRelayer := user 0
      gameRegistry := 0
      sessionLifecycle := sessionLifecycle
      defaultEmergencyExitDelay := 100
      lockedBySession := fun _ _ => 0
      totalLocked := fun _ => 0
      sessionParticipants := fun _ _ => false
      sessionParticipantCount := fun _ => 0
      accruedProtocolFees := 0
      usedNonces := fun _ _ => false
      sessionDescriptors := fun _ => none
      sessionSealedV3 := fun _ => false
      emergencyExitClaimed := fun _ _ => false
      sessions := fun _ => Session.unset }
  lifecycle :=
    { owner := user 0
      vault := deployment.vault
      sessionRelayer := user 0
      gameRegistry := 0
      sessions := fun _ => SessionRecord.unset }
  feeVault :=
    { owner := user 0
      paused := false
      treasurySafe := user 0
      emergencyGuardian := user 0
      minDelay := 0
      accruedFees := 0
      depositors := fun _ => false
      pendingTreasury := (0, 0) }
  hub :=
    { owner := user 0
      router := deployment.router
      proofBatchRegistry := 0
      requireProofBatch := false
      maxTotalRake := 0
      usedRoots := fun _ => false
      lastSequence := fun _ => 0
      settledSessions := fun _ => false }
  router :=
    { owner := user 0
      verifiers := fun _ => 9
      defaultPolicyId := 1 }

theorem initial_world (sessionLifecycle : Address) : (world sessionLifecycle).Initial := by
  constructor <;> rfl

/-- The account of a user. -/
def accountOf (index : Fin 900) : Address := 1000 + user index

/-- A generous permission of a user for games in `token`. -/
def permission (index : Fin 900) (token : Address) : GamePermission where
  sessionSigner := user index
  usdc := token
  vault := deployment.vault
  gameTemplateId := 1
  leagueMask := 1
  lifetimeCommittedCap := 1000000
  maxTotalAtRisk := 1000000
  maxSingleBuyIn := 1000000
  validUntil := 1000000
  maxConcurrentGames := 10
  ratedOnly := false
  nonce := 0
  enabled := true
  signature := [user index]

/-- Create the account of a user, fund it and permit games in `token`. -/
def enrol (index : Fin 900) (token : Address) (funds : Nat) : List (ExternalCall deployment) :=
  [call 0 0 (.createAccount (user index)), call 0 0 (.mint token (accountOf index) funds), call 0 0
      (.account (accountOf index) (.setGamePermission (permission index token)))]

/-- A V2 ticket of a user. -/
def ticket (index : Fin 900) (buyIn : Nat) : SeatTicket where
  player := accountOf index
  gameTemplateId := 1
  buyIn := buyIn
  controllerHash := 0
  agentProfileHash := 0
  expiresAt := 1000000
  nonce := 0
  matchmakingPool := 0
  leagueBit := 1
  rated := false

/-- Open V2 session `5` with the tickets of some users. -/
def openTable (players : List (Fin 900 × Nat)) : ExternalCall deployment :=
  call 0 0 (.vault (.openSession
        { sessionId := 5
          gameTemplateId := 1
          dealerRoot := 0
          engineHash := 0
          profileSetHash := 0
          emergencyExitDelay := 100 }
        (players.map fun entry => ticket entry.1 entry.2)
        (players.map fun entry => [user entry.1])))

/-- Two players with `100` locked each. -/
def pairedTable : List (ExternalCall deployment) :=
  enrol 1 7 100 ++ enrol 2 7 100 ++ [openTable [(1, 100), (2, 100)]]

/-- A V3 ticket of a user. -/
def ticketV3 (index : Fin 900) (buyIn : Nat) : SeatTicketV3 where
  arenaAccount := accountOf index
  gameTemplateId := 1
  matchmakingPool := 0
  buyIn := buyIn
  controllerHash := 0
  profileConfigHash := 7
  modelPolicyHash := 0
  leagueBit := 1
  rated := false
  expiresAt := 1000000
  nonce := 0

/-- The descriptor of a sealed session with the tickets of some users. -/
def descriptor (players : List (Fin 900 × Nat)) : SessionDescriptor :=
  let seats := players.zipIdx.map fun entry =>
    (entry.1.1, ticketV3 entry.1.1 entry.1.2, entry.2)
  let root := ArenaVaultV2.orderedMerkleRoot deployment
  let unnamed : SessionDescriptor :=
    { chainId := 1
      protocolVersion := 3
      sessionId := 0
      gameTemplateId := 1
      participantRoot :=
        root (seats.map fun seat =>
          ArenaVaultV2.participantLeaf deployment (user seat.1) seat.2.2 seat.2.1)
      openingBalanceRoot := 0
      controllerRoot :=
        root (seats.map fun seat =>
          ArenaVaultV2.controllerLeaf deployment seat.2.2 seat.2.1)
      profileRoot := root (seats.map fun _ => 7)
      dealerSecretRoot := 0
      randomnessPolicyId := 0
      settlementPolicyId := 0
      createdAt := 0
      sealDeadline := 1000
      sessionNonce := 0 }
  let sessionId := ArenaVaultV2.expectedSessionId deployment unnamed
  { unnamed with
    sessionId := sessionId
    openingBalanceRoot :=
      root (seats.map fun seat =>
        ArenaVaultV2.openingLeaf deployment sessionId seat.2.2 seat.2.1) }

/-- Seal and fund a session with the tickets of some users. -/
def sealTable (players : List (Fin 900 × Nat)) : ExternalCall deployment :=
  call 0 0 (.vault (.sealAndFundSession (descriptor players)
        (players.map fun entry => ticketV3 entry.1 entry.2)
        (players.map fun entry => [user entry.1])))

/-- Another settlement hub, user `5`, applies a checkpoint to a session. -/
def checkpoint (sessionId balanceRoot : Bytes32) : List (ExternalCall deployment) :=
  [call 0 0 (.vault (.admin (.setSettlementHub (user 5)))),
    call 5 0 (.vault (.applyCheckpoint sessionId 1 balanceRoot))]

end Example

end Mozetto.Chain
