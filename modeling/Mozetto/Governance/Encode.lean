import Mozetto.Dealer.HandSeeds
import Mozetto.EventStore.EventHashChain
import Mozetto.Library.AbiEncoding
import Mozetto.Outbox.Schema

/-!
# Functions of the contracts and their calldata

The owner functions that governance calls, and what is assumed of the package
that encodes their calldata: it takes values that fit their types, refuses the
others, and the calldata of well-formed values is decoded to what they write.
Nothing is assumed of hexadecimal texts that have half a byte.
-/

namespace Mozetto.Governance

open Mozetto.Dealer (isHexDigit)
open Mozetto.EventStore (AbiValue Hex)
open Mozetto.Library.AbiEncoding (Item)
open Mozetto.Library.HexText (hexValue)

/-! ## Functions -/

inductive AbiType where
  | address
  | uint (bits : Nat)
  | bool
  | bytes32
  | bytes
deriving DecidableEq

structure AbiFunction where
  name : String
  inputs : List AbiType
deriving DecidableEq

namespace OWNABLE_ABI

def transferOwnership : AbiFunction := ⟨"transferOwnership", [.address]⟩

end OWNABLE_ABI

namespace GAME_REGISTRY_V2_ABI

def setMinDelay : AbiFunction := ⟨"setMinDelay", [.uint 64]⟩
def setEmergencyGuardian : AbiFunction := ⟨"setEmergencyGuardian", [.address]⟩
def scheduleActivation : AbiFunction := ⟨"scheduleActivation", [.bytes32]⟩
def executeActivation : AbiFunction := ⟨"executeActivation", [.bytes32]⟩
def scheduleDeactivation : AbiFunction := ⟨"scheduleDeactivation", [.bytes32]⟩
def executeDeactivation : AbiFunction := ⟨"executeDeactivation", [.bytes32]⟩
def cancelOperation : AbiFunction := ⟨"cancelOperation", [.bytes32]⟩

end GAME_REGISTRY_V2_ABI

namespace PROTOCOL_FEE_VAULT_ABI

def setMinDelay : AbiFunction := ⟨"setMinDelay", [.uint 64]⟩
def setEmergencyGuardian : AbiFunction := ⟨"setEmergencyGuardian", [.address]⟩
def setDepositor : AbiFunction := ⟨"setDepositor", [.address, .bool]⟩
def scheduleTreasuryUpdate : AbiFunction :=
  ⟨"scheduleTreasuryUpdate", [.address]⟩
def executeTreasuryUpdate : AbiFunction := ⟨"executeTreasuryUpdate", []⟩
def cancelTreasuryUpdate : AbiFunction := ⟨"cancelTreasuryUpdate", []⟩
def sweep : AbiFunction := ⟨"sweep", [.uint 256, .bytes32, .bytes32]⟩

end PROTOCOL_FEE_VAULT_ABI

namespace PROOF_BATCH_REGISTRY_ABI

def setMinDelay : AbiFunction := ⟨"setMinDelay", [.uint 64]⟩
def schedulePublisherUpdate : AbiFunction :=
  ⟨"schedulePublisherUpdate", [.address]⟩
def executePublisherUpdate : AbiFunction := ⟨"executePublisherUpdate", []⟩
def cancelPublisherUpdate : AbiFunction := ⟨"cancelPublisherUpdate", []⟩

end PROOF_BATCH_REGISTRY_ABI

namespace ARENA_VAULT_V2_ABI

def pause : AbiFunction := ⟨"pause", []⟩
def unpause : AbiFunction := ⟨"unpause", []⟩
def setSettlementHub : AbiFunction := ⟨"setSettlementHub", [.address]⟩
def setFeeTreasury : AbiFunction := ⟨"setFeeTreasury", [.address]⟩
def setSessionRelayer : AbiFunction := ⟨"setSessionRelayer", [.address]⟩

end ARENA_VAULT_V2_ABI

namespace VERIFIER_ROUTER_ABI

def setVerifier : AbiFunction := ⟨"setVerifier", [.bytes32, .address]⟩
def setDefaultPolicyId : AbiFunction := ⟨"setDefaultPolicyId", [.bytes32]⟩

end VERIFIER_ROUTER_ABI

namespace SIGNATURE_QUORUM_VERIFIER_ABI

def setAttestor : AbiFunction := ⟨"setAttestor", [.address, .bool]⟩
def setMinSignatures : AbiFunction := ⟨"setMinSignatures", [.uint 256]⟩

end SIGNATURE_QUORUM_VERIFIER_ABI

namespace SETTLEMENT_HUB_V3_ABI

def setRouter : AbiFunction := ⟨"setRouter", [.address]⟩
def setProofBatchRegistry : AbiFunction :=
  ⟨"setProofBatchRegistry", [.address, .bool]⟩
def setMaxTotalRake : AbiFunction := ⟨"setMaxTotalRake", [.uint 256]⟩

end SETTLEMENT_HUB_V3_ABI

namespace TIMELOCK_CONTROLLER_ABI

def schedule : AbiFunction :=
  ⟨"schedule", [.address, .uint 256, .bytes, .bytes32, .bytes32, .uint 256]⟩
def execute : AbiFunction :=
  ⟨"execute", [.address, .uint 256, .bytes, .bytes32, .bytes32]⟩
def cancel : AbiFunction := ⟨"cancel", [.bytes32]⟩

end TIMELOCK_CONTROLLER_ABI

/-- The functions of the contracts; equal ones of two contracts stand once. -/
def FUNCTIONS : List AbiFunction :=
  [OWNABLE_ABI.transferOwnership, GAME_REGISTRY_V2_ABI.setMinDelay,
    GAME_REGISTRY_V2_ABI.setEmergencyGuardian, GAME_REGISTRY_V2_ABI.scheduleActivation,
    GAME_REGISTRY_V2_ABI.executeActivation, GAME_REGISTRY_V2_ABI.scheduleDeactivation,
    GAME_REGISTRY_V2_ABI.executeDeactivation, GAME_REGISTRY_V2_ABI.cancelOperation,
    PROTOCOL_FEE_VAULT_ABI.setDepositor, PROTOCOL_FEE_VAULT_ABI.scheduleTreasuryUpdate,
    PROTOCOL_FEE_VAULT_ABI.executeTreasuryUpdate, PROTOCOL_FEE_VAULT_ABI.cancelTreasuryUpdate,
    PROTOCOL_FEE_VAULT_ABI.sweep, PROOF_BATCH_REGISTRY_ABI.schedulePublisherUpdate,
    PROOF_BATCH_REGISTRY_ABI.executePublisherUpdate, PROOF_BATCH_REGISTRY_ABI.cancelPublisherUpdate,
    ARENA_VAULT_V2_ABI.pause, ARENA_VAULT_V2_ABI.unpause, ARENA_VAULT_V2_ABI.setSettlementHub,
    ARENA_VAULT_V2_ABI.setFeeTreasury, ARENA_VAULT_V2_ABI.setSessionRelayer,
    VERIFIER_ROUTER_ABI.setVerifier, VERIFIER_ROUTER_ABI.setDefaultPolicyId,
    SIGNATURE_QUORUM_VERIFIER_ABI.setAttestor, SIGNATURE_QUORUM_VERIFIER_ABI.setMinSignatures,
    SETTLEMENT_HUB_V3_ABI.setRouter, SETTLEMENT_HUB_V3_ABI.setProofBatchRegistry,
    SETTLEMENT_HUB_V3_ABI.setMaxTotalRake, TIMELOCK_CONTROLLER_ABI.schedule,
    TIMELOCK_CONTROLLER_ABI.execute, TIMELOCK_CONTROLLER_ABI.cancel]

/-! ## What texts and values write -/

/-- The digits after `0x`, in lower case. -/
def readDigits (text : String) : Option (List Char) :=
  match text.toList with
  | '0' :: 'x' :: digits =>
    if digits.all isHexDigit then some (digits.map Char.toLower) else none
  | _ => none

/-- The number of a text with that many digits. -/
def readWord (width : Nat) (text : String) : Option Item :=
  match readDigits text with
  | some digits =>
    if digits.length = width then some (.word (hexValue digits)) else none
  | none => none

/-- The bytes of a text with whole bytes. -/
def readBytes (text : String) : Option Item :=
  match readDigits text with
  | some digits =>
    if digits.length % 2 = 0 then some (.bytes digits) else none
  | none => none

/-- What a value writes as an argument of a type. -/
def meaning : AbiType → AbiValue → Option Item
  | .address, .hex text => readWord 40 text
  | .uint _, .number value =>
    if 0 ≤ value then some (.word value.toNat) else none
  | .bool, .bool value => some (.word (if value then 1 else 0))
  | .bytes32, .hex text => readWord 64 text
  | .bytes, .hex text => readBytes text
  | _, _ => none

def meanings : List AbiType → List AbiValue → Option (List Item)
  | [], [] => some []
  | type :: types, value :: values =>
    match meaning type value, meanings types values with
    | some item, some items => some (item :: items)
    | _, _ => none
  | _, _ => none

/-! ## The package -/

/-- `fits` tells what is taken for an argument of a type. -/
structure Viem where
  isAddress : String → Bool
  getAddress : String → Hex
  isHex : String → Bool
  keccak256 : Hex → Hex
  encodeAbiParameters : String → Nat → Hex
  fits : AbiType → AbiValue → Bool
  encodeFunctionData : AbiFunction → List AbiValue → Except String Hex
  decodeFunctionData : Hex → Option (AbiFunction × List Item)

variable (viem : Viem)

/-- The texts that are recognised, and checksums that keep the digits. -/
structure Viem.Recognises : Prop where
  isHex : ∀ text, viem.isHex text = true ↔ (readDigits text).isSome = true
  isAddress : ∀ text, viem.isAddress text = true → (readWord 40 text).isSome = true
  getAddress : ∀ text, viem.isAddress text = true → viem.isAddress (viem.getAddress text) = true ∧
        viem.getAddress (viem.getAddress text) = viem.getAddress text ∧
        readDigits (viem.getAddress text) = readDigits text
  keccak256 : ∀ bytes, (readWord 64 (viem.keccak256 bytes)).isSome = true

/-- The values that are taken, and how their calldata is decoded. -/
structure Viem.Encodes : Prop where
  taken : ∀ fn ∈ FUNCTIONS, ∀ values, (∃ data, viem.encodeFunctionData fn values = .ok data) ↔
        List.Forall₂ (fun type value => viem.fits type value = true) fn.inputs values
  address : ∀ text, viem.fits .address (.hex text) = true ↔ viem.isAddress text = true
  uint : ∀ bits value, viem.fits (.uint bits) (.number value) = true ↔ 0 ≤ value ∧ value < 2 ^ bits
  bool : ∀ value, viem.fits .bool (.bool value) = true
  bytes32 : ∀ text, (readBytes text).isSome = true → (viem.fits .bytes32 (.hex text) = true ↔
        (readWord 64 text).isSome = true)
  decoded : ∀ fn ∈ FUNCTIONS, ∀ values items data, meanings fn.inputs values = some items →
        viem.encodeFunctionData fn values = .ok data →
          viem.decodeFunctionData data = some (fn, items)
  wholeBytes : ∀ fn ∈ FUNCTIONS, ∀ values items data, meanings fn.inputs values = some items →
        viem.encodeFunctionData fn values = .ok data → (readBytes data).isSome = true

end Mozetto.Governance

/-!
## Calldata of owner actions

`encodeOwnerAction` reads the arguments of an action from a record of free
form, one validator an argument, and encodes the call of the action's
function.  The description of a call for its readers is left out.
-/

namespace Mozetto.Governance

open Mozetto.Dealer (isHexDigit)
open Mozetto.EventStore (AbiValue Hex)
open Mozetto.Library.HexText (hexValue)
open Mozetto.Outbox (JsNumber JsValue Payload Runtime)

variable (viem : Viem) (runtime : Runtime)

/-! ### Validators -/

inductive EncodeError where
  | expectedAddress (field got : String)
  | expectedBytes32 (field got : String)
  | expectedUint (field got : String)
  | expectedBoolean (field got : String)
  | notAnInteger (got : String)
  | targetNotAddress (target : String)
  | refused (message : String)
deriving DecidableEq

def EncodeError.message : EncodeError → String
  | .expectedAddress field got =>
    field ++ ": expected 0x address, got " ++ got
  | .expectedBytes32 field got =>
    field ++ ": expected bytes32 hex (0x + 64), got " ++ got
  | .expectedUint field got =>
    field ++ ": expected non-negative integer, got " ++ got
  | .expectedBoolean field got => field ++ ": expected boolean, got " ++ got
  | .notAnInteger got =>
    "The number " ++ got ++
      " cannot be converted to a BigInt because it is not an integer"
  | .targetNotAddress target => "to: expected address, got " ++ target
  | .refused message => message

def requireAddress (value : JsValue) (field : String) :
    Except EncodeError Hex :=
  match value with
  | .string text =>
    if viem.isAddress text then .ok (viem.getAddress text)
    else .error (.expectedAddress field text)
  | other => .error (.expectedAddress field (other.toText runtime))

def requireBytes32 (value : JsValue) (field : String) :
    Except EncodeError Hex :=
  match value with
  | .string text =>
    if viem.isHex text ∧ text.length = 66 then .ok text
    else .error (.expectedBytes32 field text)
  | other => .error (.expectedBytes32 field (other.toText runtime))

/-- `BigInt` of a number. -/
def bigIntOfNumber (value : ℚ) : Except EncodeError Int :=
  if value.den = 1 then .ok value.num
  else .error (.notAnInteger (runtime.numberText value))

/-- The number of decimal digits. -/
def decimalValue (digits : List Char) : Nat :=
  digits.foldl (fun value digit => 10 * value + (digit.toNat - 48)) 0

/-- `BigInt` of a text of digits, or of hexadecimal digits after `0x`. -/
def bigIntOfText (text : String) : Option Int :=
  match text.toList with
  | '0' :: 'x' :: digits =>
    if digits ≠ [] ∧ digits.all isHexDigit then
      some (hexValue (digits.map Char.toLower))
    else none
  | digits =>
    if digits ≠ [] ∧ digits.all Char.isDigit then some (decimalValue digits)
    else none

def requireUint (value : JsValue) (field : String) :
    Except EncodeError Int :=
  match value with
  | .bigint value => .ok value
  | .number (.finite number) =>
    if 0 ≤ number then bigIntOfNumber runtime number
    else .error (.expectedUint field (value.toText runtime))
  | .string text =>
    match bigIntOfText text with
    | some number => .ok number
    | none => .error (.expectedUint field text)
  | other => .error (.expectedUint field (other.toText runtime))

def requireBool (value : JsValue) (field : String) :
    Except EncodeError Bool :=
  match value with
  | .bool value => .ok value
  | .string text =>
    if text = "true" ∨ text = "1" then .ok true
    else if text = "false" ∨ text = "0" then .ok false
    else .error (.expectedBoolean field text)
  | other => .error (.expectedBoolean field (other.toText runtime))

def zeroHash : Hex :=
  "0x0000000000000000000000000000000000000000000000000000000000000000"

/-- A text of hexadecimal digits, or the default. -/
def hexOr (fallback : Hex) : JsValue → Hex
  | .string text => if viem.isHex text then text else fallback
  | _ => fallback

/-- A text of 64 hexadecimal digits, or the default. -/
def saltOr (fallback : Hex) : JsValue → Hex
  | .string text =>
    if viem.isHex text ∧ text.length = 66 then text else fallback
  | _ => fallback

/-! ### Arguments -/

/-- How an argument is read; the last three have a default. -/
inductive Reading where
  | requireAddress
  | requireBytes32
  | requireUint
  | requireBool
  | uintOrZero
  | hexOr (fallback : Hex)
  | saltOr (fallback : Hex)
deriving DecidableEq

/-- An argument of a function: its type, its field and how it is read. -/
structure Argument where
  type : AbiType
  field : String
  reading : Reading
deriving DecidableEq

def Argument.read (argument : Argument) (value : JsValue) :
    Except EncodeError AbiValue :=
  match argument.reading with
  | .requireAddress =>
    .hex <$> Governance.requireAddress viem runtime value argument.field
  | .requireBytes32 =>
    .hex <$> Governance.requireBytes32 viem runtime value argument.field
  | .requireUint =>
    .number <$> Governance.requireUint runtime value argument.field
  | .requireBool =>
    .bool <$> Governance.requireBool runtime value argument.field
  | .uintOrZero =>
    .number <$> Governance.requireUint runtime (value.orElse (.number (.finite 0))) argument.field
  | .hexOr fallback => .ok (.hex (Governance.hexOr viem fallback value))
  | .saltOr fallback => .ok (.hex (Governance.saltOr viem fallback value))

namespace Argument

def address (field : String) : Argument := ⟨.address, field, .requireAddress⟩
def bytes32 (field : String) : Argument := ⟨.bytes32, field, .requireBytes32⟩
def uint (bits : Nat) (field : String) : Argument := ⟨.uint bits, field, .requireUint⟩
def bool (field : String) : Argument := ⟨.bool, field, .requireBool⟩

end Argument

/-! ### Actions -/

inductive ActionId where
  | ownableTransferOwnership
  | gameRegistrySetMinDelay
  | gameRegistrySetEmergencyGuardian
  | gameRegistryScheduleActivation
  | gameRegistryExecuteActivation
  | gameRegistryScheduleDeactivation
  | gameRegistryExecuteDeactivation
  | gameRegistryCancelOperation
  | protocolFeeVaultSetMinDelay
  | protocolFeeVaultSetEmergencyGuardian
  | protocolFeeVaultScheduleTreasuryUpdate
  | protocolFeeVaultExecuteTreasuryUpdate
  | protocolFeeVaultCancelTreasuryUpdate
  | protocolFeeVaultSweep
  | protocolFeeVaultSetDepositor
  | proofBatchRegistrySetMinDelay
  | proofBatchRegistrySchedulePublisherUpdate
  | proofBatchRegistryExecutePublisherUpdate
  | proofBatchRegistryCancelPublisherUpdate
  | arenaVaultPause
  | arenaVaultUnpause
  | arenaVaultSetSettlementHub
  | arenaVaultSetFeeTreasury
  | arenaVaultSetSessionRelayer
  | verifierRouterSetVerifier
  | verifierRouterSetDefaultPolicyId
  | signatureQuorumVerifierSetAttestor
  | signatureQuorumVerifierSetMinSignatures
  | settlementHubV3SetRouter
  | settlementHubV3SetProofBatchRegistry
  | settlementHubV3SetMaxTotalRake
  | timelockSchedule
  | timelockExecute
  | timelockCancel
deriving DecidableEq

def ActionId.name : ActionId → String
  | .ownableTransferOwnership => "ownable.transferOwnership"
  | .gameRegistrySetMinDelay => "gameRegistry.setMinDelay"
  | .gameRegistrySetEmergencyGuardian => "gameRegistry.setEmergencyGuardian"
  | .gameRegistryScheduleActivation => "gameRegistry.scheduleActivation"
  | .gameRegistryExecuteActivation => "gameRegistry.executeActivation"
  | .gameRegistryScheduleDeactivation => "gameRegistry.scheduleDeactivation"
  | .gameRegistryExecuteDeactivation => "gameRegistry.executeDeactivation"
  | .gameRegistryCancelOperation => "gameRegistry.cancelOperation"
  | .protocolFeeVaultSetMinDelay => "protocolFeeVault.setMinDelay"
  | .protocolFeeVaultSetEmergencyGuardian =>
    "protocolFeeVault.setEmergencyGuardian"
  | .protocolFeeVaultScheduleTreasuryUpdate =>
    "protocolFeeVault.scheduleTreasuryUpdate"
  | .protocolFeeVaultExecuteTreasuryUpdate =>
    "protocolFeeVault.executeTreasuryUpdate"
  | .protocolFeeVaultCancelTreasuryUpdate =>
    "protocolFeeVault.cancelTreasuryUpdate"
  | .protocolFeeVaultSweep => "protocolFeeVault.sweep"
  | .protocolFeeVaultSetDepositor => "protocolFeeVault.setDepositor"
  | .proofBatchRegistrySetMinDelay => "proofBatchRegistry.setMinDelay"
  | .proofBatchRegistrySchedulePublisherUpdate =>
    "proofBatchRegistry.schedulePublisherUpdate"
  | .proofBatchRegistryExecutePublisherUpdate =>
    "proofBatchRegistry.executePublisherUpdate"
  | .proofBatchRegistryCancelPublisherUpdate =>
    "proofBatchRegistry.cancelPublisherUpdate"
  | .arenaVaultPause => "arenaVault.pause"
  | .arenaVaultUnpause => "arenaVault.unpause"
  | .arenaVaultSetSettlementHub => "arenaVault.setSettlementHub"
  | .arenaVaultSetFeeTreasury => "arenaVault.setFeeTreasury"
  | .arenaVaultSetSessionRelayer => "arenaVault.setSessionRelayer"
  | .verifierRouterSetVerifier => "verifierRouter.setVerifier"
  | .verifierRouterSetDefaultPolicyId => "verifierRouter.setDefaultPolicyId"
  | .signatureQuorumVerifierSetAttestor =>
    "signatureQuorumVerifier.setAttestor"
  | .signatureQuorumVerifierSetMinSignatures =>
    "signatureQuorumVerifier.setMinSignatures"
  | .settlementHubV3SetRouter => "settlementHubV3.setRouter"
  | .settlementHubV3SetProofBatchRegistry =>
    "settlementHubV3.setProofBatchRegistry"
  | .settlementHubV3SetMaxTotalRake => "settlementHubV3.setMaxTotalRake"
  | .timelockSchedule => "timelock.schedule"
  | .timelockExecute => "timelock.execute"
  | .timelockCancel => "timelock.cancel"

/-- The function of an action, how its arguments are read, and whether the
contract delays its effect. -/
structure Encoder where
  fn : AbiFunction
  arguments : List Argument
  contractTimelocked : Bool

/-- The arguments of an operation, which a schedule and its execution share. -/
def operationArguments : List Argument :=
  [.address "target", ⟨.uint 256, "value", .uintOrZero⟩,
    ⟨.bytes, "data", .hexOr "0x"⟩,
    ⟨.bytes32, "predecessor", .hexOr zeroHash⟩,
    ⟨.bytes32, "salt", .saltOr zeroHash⟩]

def ENCODERS : ActionId → Encoder
  | .ownableTransferOwnership =>
    ⟨OWNABLE_ABI.transferOwnership, [.address "newOwner"], false⟩
  | .gameRegistrySetMinDelay =>
    ⟨GAME_REGISTRY_V2_ABI.setMinDelay, [.uint 64 "newDelay"], false⟩
  | .gameRegistrySetEmergencyGuardian =>
    ⟨GAME_REGISTRY_V2_ABI.setEmergencyGuardian, [.address "guardian"], false⟩
  | .gameRegistryScheduleActivation =>
    ⟨GAME_REGISTRY_V2_ABI.scheduleActivation, [.bytes32 "templateId"], true⟩
  | .gameRegistryExecuteActivation =>
    ⟨GAME_REGISTRY_V2_ABI.executeActivation, [.bytes32 "templateId"], false⟩
  | .gameRegistryScheduleDeactivation =>
    ⟨GAME_REGISTRY_V2_ABI.scheduleDeactivation, [.bytes32 "templateId"], true⟩
  | .gameRegistryExecuteDeactivation =>
    ⟨GAME_REGISTRY_V2_ABI.executeDeactivation, [.bytes32 "templateId"], false⟩
  | .gameRegistryCancelOperation =>
    ⟨GAME_REGISTRY_V2_ABI.cancelOperation, [.bytes32 "templateId"], false⟩
  | .protocolFeeVaultSetMinDelay =>
    ⟨PROTOCOL_FEE_VAULT_ABI.setMinDelay, [.uint 64 "newDelay"], false⟩
  | .protocolFeeVaultSetEmergencyGuardian =>
    ⟨PROTOCOL_FEE_VAULT_ABI.setEmergencyGuardian, [.address "guardian"], false⟩
  | .protocolFeeVaultScheduleTreasuryUpdate =>
    ⟨PROTOCOL_FEE_VAULT_ABI.scheduleTreasuryUpdate,
      [.address "newTreasury"], true⟩
  | .protocolFeeVaultExecuteTreasuryUpdate =>
    ⟨PROTOCOL_FEE_VAULT_ABI.executeTreasuryUpdate, [], false⟩
  | .protocolFeeVaultCancelTreasuryUpdate =>
    ⟨PROTOCOL_FEE_VAULT_ABI.cancelTreasuryUpdate, [], false⟩
  | .protocolFeeVaultSweep =>
    ⟨PROTOCOL_FEE_VAULT_ABI.sweep,
      [.uint 256 "amount", ⟨.bytes32, "periodRoot", .hexOr zeroHash⟩,
        ⟨.bytes32, "sessionRange", .hexOr zeroHash⟩],
      false⟩
  | .protocolFeeVaultSetDepositor =>
    ⟨PROTOCOL_FEE_VAULT_ABI.setDepositor,
      [.address "depositor", .bool "allowed"], false⟩
  | .proofBatchRegistrySetMinDelay =>
    ⟨PROOF_BATCH_REGISTRY_ABI.setMinDelay, [.uint 64 "newDelay"], false⟩
  | .proofBatchRegistrySchedulePublisherUpdate =>
    ⟨PROOF_BATCH_REGISTRY_ABI.schedulePublisherUpdate,
      [.address "newPublisher"], true⟩
  | .proofBatchRegistryExecutePublisherUpdate =>
    ⟨PROOF_BATCH_REGISTRY_ABI.executePublisherUpdate, [], false⟩
  | .proofBatchRegistryCancelPublisherUpdate =>
    ⟨PROOF_BATCH_REGISTRY_ABI.cancelPublisherUpdate, [], false⟩
  | .arenaVaultPause => ⟨ARENA_VAULT_V2_ABI.pause, [], false⟩
  | .arenaVaultUnpause => ⟨ARENA_VAULT_V2_ABI.unpause, [], false⟩
  | .arenaVaultSetSettlementHub =>
    ⟨ARENA_VAULT_V2_ABI.setSettlementHub, [.address "hub"], false⟩
  | .arenaVaultSetFeeTreasury =>
    ⟨ARENA_VAULT_V2_ABI.setFeeTreasury, [.address "treasury"], false⟩
  | .arenaVaultSetSessionRelayer =>
    ⟨ARENA_VAULT_V2_ABI.setSessionRelayer, [.address "relayer"], false⟩
  | .verifierRouterSetVerifier =>
    ⟨VERIFIER_ROUTER_ABI.setVerifier,
      [.bytes32 "policyId", .address "verifier"], false⟩
  | .verifierRouterSetDefaultPolicyId =>
    ⟨VERIFIER_ROUTER_ABI.setDefaultPolicyId, [.bytes32 "policyId"], false⟩
  | .signatureQuorumVerifierSetAttestor =>
    ⟨SIGNATURE_QUORUM_VERIFIER_ABI.setAttestor,
      [.address "attestor", .bool "allowed"], false⟩
  | .signatureQuorumVerifierSetMinSignatures =>
    ⟨SIGNATURE_QUORUM_VERIFIER_ABI.setMinSignatures, [.uint 256 "minSigs"], false⟩
  | .settlementHubV3SetRouter =>
    ⟨SETTLEMENT_HUB_V3_ABI.setRouter, [.address "router"], false⟩
  | .settlementHubV3SetProofBatchRegistry =>
    ⟨SETTLEMENT_HUB_V3_ABI.setProofBatchRegistry,
      [.address "registry", .bool "requireBatch"], false⟩
  | .settlementHubV3SetMaxTotalRake =>
    ⟨SETTLEMENT_HUB_V3_ABI.setMaxTotalRake, [.uint 256 "maxRake"], false⟩
  | .timelockSchedule =>
    ⟨TIMELOCK_CONTROLLER_ABI.schedule,
      operationArguments ++ [.uint 256 "delay"], true⟩
  | .timelockExecute =>
    ⟨TIMELOCK_CONTROLLER_ABI.execute, operationArguments, false⟩
  | .timelockCancel => ⟨TIMELOCK_CONTROLLER_ABI.cancel, [.bytes32 "id"], false⟩

structure EncodedCall where
  actionId : ActionId
  target : Hex
  data : Hex
  value : String
  contractTimelocked : Bool
deriving DecidableEq

/-- The arguments of an action, in their order. -/
def readArguments (args : Payload) (arguments : List Argument) :
    Except EncodeError (List AbiValue) :=
  arguments.mapM fun argument =>
    argument.read viem runtime (JsValue.get args argument.field)

def encodeOwnerAction (actionId : ActionId) (target : String) (args : Payload) :
    Except EncodeError EncodedCall :=
  if viem.isAddress target then do
    let values ← readArguments viem runtime args (ENCODERS actionId).arguments
    let data ← (viem.encodeFunctionData (ENCODERS actionId).fn values).mapError .refused
    return {
      actionId
      target := viem.getAddress target
      data
      value := "0"
      contractTimelocked := (ENCODERS actionId).contractTimelocked }
  else .error (.targetNotAddress target)

/-- The functions of the actions are functions of the contracts, and their
arguments have the types of the functions. -/
theorem types_ENCODERS (actionId : ActionId) : (ENCODERS actionId).fn ∈ FUNCTIONS ∧
    (ENCODERS actionId).arguments.map Argument.type = (ENCODERS actionId).fn.inputs := by
  cases actionId <;> decide

end Mozetto.Governance
