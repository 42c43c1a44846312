import Mozetto.Chain.ArenaVaultV2

/-!
# PokerSettlementHubV3 and VerifierRouter

The settlement hub ties a signed `FinalSettlementV3` to the rows paid out by
the vault, and relays emergency claims.  The router resolves the policy of a
proof and asks the verifier registered for it; verifiers answer through the
call context.
-/

namespace Mozetto.Chain

open Mozetto.Library.Guarded
open Mozetto.Library.Mapping

/-- The signed settlement statement. -/
structure FinalSettlementV3 where
  sessionId : Bytes32
  finalSequence : Nat
  finalEventRoot : Bytes32
  handRoot : Bytes32
  balanceRoot : Bytes32
  randomnessEpochId : Bytes32
  openingTotal : Nat
  endingPlayerTotal : Nat
  totalRake : Nat
  proofBatchSequence : Nat
  modelPolicyHash : Bytes32
  profileSetHash : Bytes32
  gameTemplateId : Bytes32
  engineHash : Bytes32
  deadline : Nat

namespace VerifierRouter

/-- `verify`: the zero policy selects the default one. -/
def verify (msg : Msg) (router : VerifierRouter)
    (policyId sessionId digest : Bytes32) (proof : Bytes) :
    Except Revert Bool := do
  let resolved := if policyId = 0 then router.defaultPolicyId else policyId
  let verifier := router.verifiers resolved
  revertIf (verifier = 0) (.unknownPolicy resolved)
  match msg.settlementVerify verifier sessionId digest proof with
  | some answer => return answer
  | none => .error .callFailed

/-- The owner-only calls of the router. -/
inductive Admin where
  | setVerifier (policyId : Bytes32) (verifier : Address)
  | setDefaultPolicyId (policyId : Bytes32)
  | ownable (call : OwnableCall)

def administer (msg : Msg) (router : VerifierRouter) : Admin → Except Revert VerifierRouter
  | .setVerifier policyId verifier => do
      onlyOwner msg router.owner
      return { router with
        verifiers := write router.verifiers policyId verifier }
  | .setDefaultPolicyId policyId => do
      onlyOwner msg router.owner
      return { router with defaultPolicyId := policyId }
  | .ownable call => do
      let owner ← call.newOwner msg router.owner
      return { router with owner := owner }

end VerifierRouter

namespace PokerSettlementHubV3

section Calls

variable (deployment : Deployment) (msg : Msg)

/-- `_structHash`. -/
def structHash (settlement : FinalSettlementV3) : Bytes32 :=
  deployment.keccak256 (abiEncode [deployment.keccak256 (utf8
            ("FinalSettlementV3(bytes32 sessionId,uint64 finalSequence," ++
              "bytes32 finalEventRoot,bytes32 handRoot," ++
              "bytes32 balanceRoot,bytes32 randomnessEpochId," ++
              "uint256 openingTotal,uint256 endingPlayerTotal," ++
              "uint256 totalRake,uint64 proofBatchSequence," ++
              "bytes32 modelPolicyHash,bytes32 profileSetHash," ++
              "bytes32 gameTemplateId,bytes32 engineHash," ++
              "uint256 deadline)")),
        settlement.sessionId, settlement.finalSequence,
        settlement.finalEventRoot, settlement.handRoot,
        settlement.balanceRoot, settlement.randomnessEpochId,
        settlement.openingTotal, settlement.endingPlayerTotal,
        settlement.totalRake, settlement.proofBatchSequence,
        settlement.modelPolicyHash, settlement.profileSetHash,
        settlement.gameTemplateId, settlement.engineHash,
        settlement.deadline])

def hashSettlement (settlement : FinalSettlementV3) : Bytes32 :=
  hashTypedDataV4 deployment "MozettoPokerSettlement" "3" deployment.hub
    (structHash deployment settlement)

/-- `_playerSums`. -/
def playerSums (players : List SettlementPlayer) : Except Revert (Nat × Nat) :=
  players.foldlM (fun sums row => do
      let startSum ← checkedAdd sums.1 row.startLocked
      let endSum ← checkedAdd sums.2 row.endBalance
      return (startSum, endSum))
    (0, 0)

/-- The optional gate of the proof-batch registry. -/
def requireBatch (hub : PokerSettlementHubV3) (sequence : Nat) :
    Except Revert Unit :=
  if hub.requireProofBatch = false then
    .ok ⟨⟩
  else if hub.proofBatchRegistry = 0 then
    .error .proofBatchNotAccepted
  else
    match msg.isSequenceAccepted hub.proofBatchRegistry sequence with
    | some true => .ok ⟨⟩
    | some false => .error .proofBatchNotAccepted
    | none => .error .callFailed

/-- `router.verify`; an address without the router's code reverts. -/
def callVerify (world : World) (policyId sessionId digest : Bytes32) (proof : Bytes) :
    Except Revert Unit := do
  revertIf (world.hub.router ≠ deployment.router) .callFailed
  let accepted ← VerifierRouter.verify msg world.router policyId sessionId digest proof
  revertIf (accepted = false) .verificationFailed

/-- Mark the roots of a settlement as used and the session as settled. -/
def recordSettlement (hub : PokerSettlementHubV3) (settlement : FinalSettlementV3) :
    Except Revert PokerSettlementHubV3 := do
  let roots :=
    write (write hub.usedRoots settlement.finalEventRoot true) settlement.balanceRoot true
  revertIf (settlement.handRoot ≠ 0 ∧ roots settlement.handRoot = true) .rootReuse
  return { hub with
    usedRoots :=
      if settlement.handRoot ≠ 0 then write roots settlement.handRoot true
      else roots
    lastSequence := write hub.lastSequence settlement.sessionId settlement.finalSequence
    settledSessions := write hub.settledSessions settlement.sessionId true }

/-- The checks of `_settle` that do not read the payout rows. -/
def requireFresh (world : World) (settlement : FinalSettlementV3) :
    Except Revert Unit := do
  let hub := world.hub
  revertIf (hub.router = 0) .routerUnset
  revertIf (settlement.deadline < msg.timestamp) .deadlineExpired
  revertIf (hub.settledSessions settlement.sessionId = true) .alreadySettled
  revertIf (settlement.finalSequence ≤ hub.lastSequence settlement.sessionId) .sequenceRegression
  revertIf (hub.usedRoots settlement.finalEventRoot = true ∨
      hub.usedRoots settlement.balanceRoot = true) .rootReuse
  let total ← checkedAdd settlement.endingPlayerTotal settlement.totalRake
  revertIf (settlement.openingTotal ≠ total) .conservationBroken
  revertIf (hub.maxTotalRake ≠ 0 ∧ hub.maxTotalRake < settlement.totalRake) .rakeExceedsCap

/-- `_settle`. -/
def settleWith (world : World) (settlement : FinalSettlementV3)
    (players : List SettlementPlayer) (proof : Bytes)
    (verifierPolicyId : Bytes32) : Except Revert World := do
  requireFresh msg world settlement
  let (startSum, endSum) ← playerSums players
  revertIf (startSum ≠ settlement.openingTotal ∨ endSum ≠ settlement.endingPlayerTotal)
    .playerTotalsMismatch
  requireBatch msg world.hub settlement.proofBatchSequence
  callVerify deployment msg world verifierPolicyId settlement.sessionId
    (hashSettlement deployment settlement) proof
  let recorded ← recordSettlement world.hub settlement
  let context := msg.calledBy deployment.hub
  let checkpointed ← ArenaVaultV2.applyCheckpoint context { world with hub := recorded }
      settlement.sessionId settlement.finalSequence settlement.balanceRoot
  ArenaVaultV2.settleSession deployment context checkpointed
    settlement.sessionId players settlement.totalRake

/-- `abi.encode(bytes[])`. -/
def encodeSignatures (signatures : List Bytes) : Bytes :=
  let padded := fun (signature : Bytes) =>
    bytesOf 32 signature.length ++ signature ++ List.replicate ((32 - signature.length % 32) % 32) 0
  let tails := signatures.map padded
  let heads :=
    tails.foldl (fun (acc : List Bytes × Nat) tail =>
        (acc.1 ++ [bytesOf 32 acc.2], acc.2 + tail.length))
      ([], 32 * signatures.length)
  bytesOf 32 32 ++ bytesOf 32 signatures.length ++ heads.1.flatten ++ tails.flatten

def settle (world : World) (settlement : FinalSettlementV3)
    (players : List SettlementPlayer) (signatures : List Bytes)
    (verifierPolicyId : Bytes32) : Except Revert World :=
  settleWith deployment msg world settlement players (encodeSignatures signatures) verifierPolicyId

def settleWithProof (world : World) (settlement : FinalSettlementV3)
    (players : List SettlementPlayer) (proof : Bytes)
    (verifierPolicyId : Bytes32) : Except Revert World :=
  settleWith deployment msg world settlement players proof verifierPolicyId

def emergencyRelease (world : World) (sessionId : Bytes32) (player : Address)
    (tableBalance lastSequence : Nat) (proof : List Bytes32) :
    Except Revert World :=
  ArenaVaultV2.emergencyExit deployment (msg.calledBy deployment.hub) world
    sessionId player tableBalance lastSequence proof

def emergencyReleaseWithBalanceLeaf (world : World) (sessionId : Bytes32) (claim : BalanceLeafClaim)
    (proof : List Bytes32) (siblingIsLeft : List Bool) :
    Except Revert World :=
  ArenaVaultV2.emergencyExitWithBalanceLeaf deployment
    (msg.calledBy deployment.hub) world sessionId claim proof siblingIsLeft

/-- The owner-only calls of the hub. -/
inductive Admin where
  | setRouter (router : Address)
  | setProofBatchRegistry (registry : Address) (requireBatch : Bool)
  | setMaxTotalRake (maxRake : Nat)
  | ownable (call : OwnableCall)

def administer (hub : PokerSettlementHubV3) : Admin → Except Revert PokerSettlementHubV3
  | .setRouter router => do
      onlyOwner msg hub.owner
      return { hub with router := router }
  | .setProofBatchRegistry registry requireBatch => do
      onlyOwner msg hub.owner
      return { hub with
        proofBatchRegistry := registry
        requireProofBatch := requireBatch }
  | .setMaxTotalRake maxRake => do
      onlyOwner msg hub.owner
      return { hub with maxTotalRake := maxRake }
  | .ownable call => do
      let owner ← call.newOwner msg hub.owner
      return { hub with owner := owner }

end Calls

end PokerSettlementHubV3

end Mozetto.Chain
