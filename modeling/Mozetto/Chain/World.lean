import Mozetto.Chain.ArenaAccount
import Mozetto.Chain.ProtocolFeeVault
import Mozetto.Chain.SessionLifecycleV2

/-!
# The storage of the contracts

The records of the vault and of the settlement hub with its router, and the
world made of all contracts together.  A call that reverts leaves the world
as it was, so every external call is a function from worlds to a new world
or an error.
-/

namespace Mozetto.Chain

/-- One session of the vault. -/
structure Session where
  sessionId : Bytes32
  templateId : Bytes32
  dealerRoot : Bytes32
  engineHash : Bytes32
  profileSetHash : Bytes32
  openedAt : Nat
  settled : Bool
  lastSequence : Nat
  lastBalanceRoot : Bytes32
  emergencyExitAfter : Nat
deriving DecidableEq, Repr

/-- The record of a session that was never opened. -/
def Session.unset : Session where
  sessionId := 0
  templateId := 0
  dealerRoot := 0
  engineHash := 0
  profileSetHash := 0
  openedAt := 0
  settled := false
  lastSequence := 0
  lastBalanceRoot := 0
  emergencyExitAfter := 0

/-- The descriptor of a sealed session. -/
structure SessionDescriptor where
  chainId : Nat
  protocolVersion : Nat
  sessionId : Bytes32
  gameTemplateId : Bytes32
  participantRoot : Bytes32
  openingBalanceRoot : Bytes32
  controllerRoot : Bytes32
  profileRoot : Bytes32
  dealerSecretRoot : Bytes32
  randomnessPolicyId : Bytes32
  settlementPolicyId : Bytes32
  createdAt : Nat
  sealDeadline : Nat
  sessionNonce : Bytes32
deriving DecidableEq, Repr

/-- The storage of the vault. -/
structure ArenaVaultV2 where
  owner : Address
  paused : Bool
  settlementHub : Address
  feeTreasury : Address
  sessionRelayer : Address
  gameRegistry : Address
  sessionLifecycle : Address
  defaultEmergencyExitDelay : Nat
  lockedBySession : Bytes32 → Address → Nat
  totalLocked : Address → Nat
  sessionParticipants : Bytes32 → Address → Bool
  sessionParticipantCount : Bytes32 → Nat
  accruedProtocolFees : Nat
  usedNonces : Address → Nat → Bool
  sessionDescriptors : Bytes32 → Option SessionDescriptor
  sessionSealedV3 : Bytes32 → Bool
  emergencyExitClaimed : Bytes32 → Address → Bool
  sessions : Bytes32 → Session

/-- The storage of the settlement hub. -/
structure PokerSettlementHubV3 where
  owner : Address
  router : Address
  proofBatchRegistry : Address
  requireProofBatch : Bool
  maxTotalRake : Nat
  usedRoots : Bytes32 → Bool
  lastSequence : Bytes32 → Nat
  settledSessions : Bytes32 → Bool

/-- The storage of the verifier router. -/
structure VerifierRouter where
  owner : Address
  verifiers : Bytes32 → Address
  defaultPolicyId : Bytes32

/-- The storage of every contract. -/
structure World where
  tokens : Tokens
  factory : ArenaAccountFactory
  accounts : Address → ArenaAccount
  vault : ArenaVaultV2
  lifecycle : SessionLifecycleV2
  feeVault : ProtocolFeeVault
  hub : PokerSettlementHubV3
  router : VerifierRouter

namespace World

/-- The vault's own balance of its token. -/
def usdcBalance (deployment : Deployment) (world : World) : Nat :=
  world.tokens.balanceOf deployment.usdc deployment.vault

end World

end Mozetto.Chain
