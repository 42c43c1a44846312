import Mathlib.Algebra.Group.Nat.Defs
import Mathlib.Algebra.GroupWithZero.Nat
import Mozetto.Library.Guarded
import Mozetto.Library.Mapping

/-!
# Words, encodings and call contexts of the contracts

Addresses, 32-byte words and amounts are natural numbers; the bounds the EVM
puts on them are checked where the contracts depend on them.  `keccak256` and
the views of contracts outside the model (signature checkers, the game
registry, settlement verifiers, the proof-batch registry) are parameters: the
first belongs to the deployment, the others to the single call, since their
answers may change from call to call.
-/

namespace Mozetto.Chain

open Mozetto.Library.Guarded

abbrev Address := Nat
abbrev Bytes32 := Nat
abbrev Bytes := List Nat

/-- The number of values of a `uint256`. -/
def uint256Size : Nat := 2 ^ 256

/-- The number of values of a `uint64`. -/
def uint64Size : Nat := 2 ^ 64

theorem one_lt_uint64Size : 1 < uint64Size := by
  decide

/-- The states of a session in the lifecycle contract. -/
inductive LifecycleState where
  | none
  | draft
  | sealed
  | randomnessPending
  | ready
  | active
  | settling
  | settled
  | aborted
  | emergencyExit
deriving DecidableEq, Repr

/-- The reasons for which a call of one of the contracts reverts. -/
inductive Revert where
  | unauthorized
  | insufficientLocked
  | zeroAmount
  | zeroAddress
  | badSettlement
  | sessionExists
  | unknownSession
  | alreadySettled
  | ticketExpired
  | badSignature
  | badNonce
  | nonceUsed
  | templateMismatch
  | emergencyExitNotReady
  | badMerkleProof
  | sequenceRegression
  | insufficientFees
  | notArenaAccount
  | unknownParticipant
  | duplicateParticipant
  | permissionInactive
  | permissionExpired
  | settlementDestination
  | wrongChain
  | badProtocolVersion
  | sealDeadlinePassed
  | participantRootMismatch
  | openingBalanceRootMismatch
  | controllerRootMismatch
  | profileRootMismatch
  | sessionIdMismatch
  | wrongUsdc
  | wrongVault
  | badLeagueBit
  | templateNotActive
  | templateNotAllowed
  | leagueNotAllowed
  | ratedRequired
  | buyInTooHigh
  | buyInOutOfBand
  | lifetimeCapExceeded
  | atRiskCapExceeded
  | concurrentGamesExceeded
  | insufficientBalance
  | sessionAlreadyOpen
  | sessionNotOpen
  | noPendingOwner
  | sessionSealedImmutable
  | emergencyExitAlreadyClaimed
  | checkpointSequenceMismatch
  | invalidProofLength
  | invalidTransition (source target : LifecycleState)
  | participantsImmutable
  | zeroSessionId
  | rootsRequired
  | accountExists
  | unknownAccount
  | deadlineExpired
  | rootReuse
  | conservationBroken
  | playerTotalsMismatch
  | rakeExceedsCap
  | proofBatchNotAccepted
  | verificationFailed
  | unknownPolicy (policyId : Bytes32)
  | noPendingOperation
  | timelockNotReady (eta : Nat)
  | operationPending
  | routerUnset
  | ownableUnauthorizedAccount (account : Address)
  | ownableInvalidOwner (owner : Address)
  | enforcedPause
  | expectedPause
  | erc20InsufficientBalance
  | erc20InsufficientAllowance
  | erc20InvalidReceiver
  | panicArithmetic
  | callFailed
  | requireZero
deriving DecidableEq, Repr

/-! ## Checked arithmetic -/

/-- Addition of Solidity 0.8 on `uint256`. -/
def checkedAdd (left right : Nat) : Except Revert Nat :=
  if left + right < uint256Size then .ok (left + right)
  else .error .panicArithmetic

/-- Addition of Solidity 0.8 on `uint64`. -/
def checkedAdd64 (left right : Nat) : Except Revert Nat :=
  if left + right < uint64Size then .ok (left + right)
  else .error .panicArithmetic

/-- Subtraction of Solidity 0.8. -/
def checkedSub (left right : Nat) : Except Revert Nat :=
  if right ≤ left then .ok (left - right) else .error .panicArithmetic

@[simp]
theorem checkedAdd_eq_ok_iff {left right result : Nat} : checkedAdd left right = .ok result ↔
    left + right < uint256Size ∧ left + right = result := by
  by_cases fits : left + right < uint256Size <;> simp [checkedAdd, fits]

@[simp]
theorem checkedAdd64_eq_ok_iff {left right result : Nat} : checkedAdd64 left right = .ok result ↔
    left + right < uint64Size ∧ left + right = result := by
  by_cases fits : left + right < uint64Size <;> simp [checkedAdd64, fits]

@[simp]
theorem checkedSub_eq_ok_iff {left right result : Nat} : checkedSub left right = .ok result ↔
    right ≤ left ∧ left - right = result := by
  by_cases fits : right ≤ left <;> simp [checkedSub, fits]

/-! ## ABI encoding -/

/-- The big-endian bytes of a value in a field of `width` bytes. -/
def bytesOf (width value : Nat) : Bytes :=
  ((List.range width).map fun place => value / 256 ^ place % 256).reverse

/-- `abi.encode` of static words. -/
def abiEncode (words : List Nat) : Bytes := words.flatMap (bytesOf 32)

/-- The bytes of a string literal. -/
def utf8 (text : String) : Bytes := text.toByteArray.data.toList.map UInt8.toNat

/-- A boolean as an ABI word. -/
def boolWord (value : Bool) : Nat := if value then 1 else 0

/-! ## Deployment and call context -/

/--
The constants of one deployment.  The proxy addresses that the account
factory computes (`CREATE2`) are distinct for distinct salts and differ from
the zero address and from the addresses of the fixed contracts.
-/
structure Deployment where
  chainId : Nat
  keccak256 : Bytes → Bytes32
  usdc : Address
  feeVaultUsdc : Address
  vault : Address
  factory : Address
  lifecycle : Address
  hub : Address
  router : Address
  feeVault : Address
  predictDeterministicAddress : Bytes32 → Address
  predict_injective : Function.Injective predictDeterministicAddress
  predict_ne_zero : ∀ salt, predictDeterministicAddress salt ≠ 0
  predict_ne_vault : ∀ salt, predictDeterministicAddress salt ≠ vault
  vault_ne_zero : vault ≠ 0
  lifecycle_ne_zero : lifecycle ≠ 0
  feeVault_ne_vault : feeVault ≠ vault

/--
The context of one external call: the caller, the block time, and what the
contracts outside the model answer while it runs (`none` for a call that
reverts).
-/
structure Msg where
  sender : Address
  timestamp : Nat
  timestamp_pos : 0 < timestamp
  timestamp_lt : timestamp < uint64Size
  isValidSignatureNow : Address → Bytes32 → Bytes → Bool
  isActiveForNewSessions : Address → Bytes32 → Option Bool
  buyInBand : Address → Bytes32 → Option (Nat × Nat)
  settlementVerify : Address → Bytes32 → Bytes32 → Bytes → Option Bool
  isSequenceAccepted : Address → Nat → Option Bool

/-- A call while no contract outside the model answers. -/
def Msg.plain (sender : Address) (timestamp : Nat) (timestamp_pos : 0 < timestamp)
    (timestamp_lt : timestamp < uint64Size) : Msg where
  sender := sender
  timestamp := timestamp
  timestamp_pos := timestamp_pos
  timestamp_lt := timestamp_lt
  isValidSignatureNow := fun _ _ _ => false
  isActiveForNewSessions := fun _ _ => none
  buyInBand := fun _ _ => none
  settlementVerify := fun _ _ _ _ => none
  isSequenceAccepted := fun _ _ => none

/-- The same context as seen by a contract that `caller` calls. -/
def Msg.calledBy (msg : Msg) (caller : Address) : Msg := { msg with sender := caller }

/-- `onlyOwner` of an ownable contract. -/
def onlyOwner (msg : Msg) (owner : Address) : Except Revert Unit :=
  revertIf (msg.sender ≠ owner) (.ownableUnauthorizedAccount msg.sender)

@[simp]
theorem onlyOwner_eq_ok_iff {msg : Msg} {owner : Address} {done : Unit} :
    onlyOwner msg owner = .ok done ↔ msg.sender = owner := by
  simp [onlyOwner, revertIf_eq_ok_iff]

/-- The calls that change the owner of an ownable contract. -/
inductive OwnableCall where
  | transferOwnership (newOwner : Address)
  | renounceOwnership

/-- The owner after such a call. -/
def OwnableCall.newOwner (msg : Msg) (owner : Address) : OwnableCall → Except Revert Address
  | transferOwnership newOwner => do
      onlyOwner msg owner
      revertIf (newOwner = 0) (.ownableInvalidOwner 0)
      return newOwner
  | renounceOwnership => do
      onlyOwner msg owner
      return 0

/-- A stand-in for a hash that reads its input as digits after a one. -/
def digits (bytes : Bytes) : Bytes32 := bytes.foldl (fun value byte => value * 256 + byte) 1

theorem digits_ne_zero (bytes : Bytes) : digits bytes ≠ 0 := by
  suffices positive : ∀ value : Nat, 0 < value →
      0 < bytes.foldl (fun value byte => value * 256 + byte) value from
    Nat.ne_of_gt (positive 1 Nat.one_pos)
  induction bytes with
  | nil => exact fun value positive => positive
  | cons byte rest induction =>
    intro value positive
    exact induction _ (Nat.add_pos_left (Nat.mul_pos positive (by decide)) byte)

/-- EIP-712: `_hashTypedDataV4` under the domain of one contract. -/
def hashTypedDataV4 (deployment : Deployment) (name version : String)
    (verifyingContract : Address) (structHash : Bytes32) : Bytes32 :=
  let domainSeparator :=
    deployment.keccak256 (abiEncode [deployment.keccak256 (utf8
              ("EIP712Domain(string name,string version," ++
                "uint256 chainId,address verifyingContract)")),
          deployment.keccak256 (utf8 name),
          deployment.keccak256 (utf8 version),
          deployment.chainId, verifyingContract])
  deployment.keccak256 ([0x19, 0x01] ++ bytesOf 32 domainSeparator ++ bytesOf 32 structHash)

end Mozetto.Chain
