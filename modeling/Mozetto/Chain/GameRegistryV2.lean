import Mozetto.Chain.Basic
import Mozetto.Library.TransitionSystem
import Mathlib.Tactic.Common

/-!
# GameRegistryV2

Game templates are sealed at registration and become usable for new sessions
by a timelocked activation.  Deactivation is timelocked as well, except for
the emergency path.  The status of a template and its pending operation are
two records that seven operations change.
-/

namespace Mozetto.Chain

open Mozetto.Library.Guarded
open Mozetto.Library.Mapping
open Mozetto.Library.TransitionSystem

/-! ## Storage -/

inductive TemplateStatus where
  | none
  | registered
  | active
  | deactivated
deriving DecidableEq, Repr

inductive PendingOp where
  | none
  | activate
  | deactivate
deriving DecidableEq, Repr

/-- The reasons for which a call of the game registry reverts. -/
inductive GameRegistryRevert where
  | ownable (reason : Revert)
  | templateExists
  | unknownTemplate
  | invalidTemplate
  | invalidStatus
  | unauthorized
  | timelockNotReady (eta : Nat)
  | noPendingOperation
  | operationPending
  | panicArithmetic
deriving DecidableEq, Repr

/-- The body of a template. -/
structure GameTemplateV2 where
  templateId : Bytes32
  protocolVersion : Nat
  gameFamilyId : Bytes32
  maxSeats : Nat
  minSeatsToStart : Nat
  smallBlind : Nat
  bigBlind : Nat
  minBuyIn : Nat
  maxBuyIn : Nat
  engineHash : Bytes32
  rulesHash : Bytes32
  randomnessPolicyId : Bytes32
  settlementPolicyId : Bytes32
  modelPolicyHash : Bytes32
  energyPolicyHash : Bytes32
  rakePolicyHash : Bytes32
  actionDeadlineMs : Nat
  emergencyExitDelaySec : Nat
  ranked : Bool
  aiOnly : Bool
  leagueBit : Nat
deriving DecidableEq, Repr

/-- The body that a record has before registration. -/
def GameTemplateV2.unset : GameTemplateV2 :=
  ⟨0, 0, 0, 0, 0, 0, 0, 0, 0, 0, 0, 0, 0, 0, 0, 0, 0, 0, false, false, 0⟩

structure TemplateRecord where
  body : GameTemplateV2
  templateHash : Bytes32
  status : TemplateStatus
  registeredAt : Nat
  activatedAt : Nat
  deactivatedAt : Nat
deriving DecidableEq, Repr

def TemplateRecord.unset : TemplateRecord := ⟨.unset, 0, .none, 0, 0, 0⟩

structure TimelockOp where
  op : PendingOp
  eta : Nat
deriving DecidableEq, Repr

/-- An entry that is not there. -/
def TimelockOp.unset : TimelockOp := ⟨.none, 0⟩

/-- The storage of the game registry. -/
structure GameRegistryV2 where
  owner : Address
  minDelay : Nat
  emergencyGuardian : Address
  templates : Bytes32 → TemplateRecord
  pending : Bytes32 → TimelockOp
  templateIds : List Bytes32

namespace GameRegistryV2

/-- The storage after the constructor has run. -/
def constructed (owner emergencyGuardian : Address) (minDelay : Nat) : GameRegistryV2 where
  owner := owner
  minDelay := minDelay
  emergencyGuardian := emergencyGuardian
  templates := fun _ => .unset
  pending := fun _ => .unset
  templateIds := []

/-! ## Administration -/

def setEmergencyGuardian (msg : Msg) (registry : GameRegistryV2) (guardian : Address) :
    Except GameRegistryRevert GameRegistryV2 := do
  (onlyOwner msg registry.owner).mapError .ownable
  return { registry with emergencyGuardian := guardian }

def setMinDelay (msg : Msg) (registry : GameRegistryV2) (newDelay : Nat) :
    Except GameRegistryRevert GameRegistryV2 := do
  (onlyOwner msg registry.owner).mapError .ownable
  return { registry with minDelay := newDelay }

def changeOwner (msg : Msg) (registry : GameRegistryV2) (call : OwnableCall) :
    Except GameRegistryRevert GameRegistryV2 := do
  let owner ← (call.newOwner msg registry.owner).mapError .ownable
  return { registry with owner := owner }

/-! ## Registration -/

/-- A product on `uint256`. -/
def checkedMul (left right : Nat) : Except GameRegistryRevert Nat := do
  revertIf (uint256Size ≤ left * right) .panicArithmetic
  return left * right

/-- `_validateBody`: the buy-in band is 40 to 100 big blinds. -/
def validateBody (template : GameTemplateV2) :
    Except GameRegistryRevert Unit := do
  revertIf (template.protocolVersion ≠ 3) .invalidTemplate
  revertIf (template.gameFamilyId = 0) .invalidTemplate
  revertIf (template.maxSeats = 0 ∨ template.minSeatsToStart = 0) .invalidTemplate
  revertIf (template.minSeatsToStart > template.maxSeats) .invalidTemplate
  revertIf (template.smallBlind = 0) .invalidTemplate
  let twoSmallBlinds ← checkedMul 2 template.smallBlind
  revertIf (template.bigBlind ≠ twoSmallBlinds) .invalidTemplate
  revertIf (template.minBuyIn = 0 ∨ template.maxBuyIn < template.minBuyIn) .invalidTemplate
  let lowest ← checkedMul 40 template.bigBlind
  revertIf (template.minBuyIn ≠ lowest) .invalidTemplate
  let highest ← checkedMul 100 template.bigBlind
  revertIf (template.maxBuyIn ≠ highest) .invalidTemplate
  revertIf (template.engineHash = 0 ∨ template.rulesHash = 0) .invalidTemplate
  revertIf (template.actionDeadlineMs = 0) .invalidTemplate

variable (keccak256 : Bytes → Bytes32)

def hashTemplate (template : GameTemplateV2) : Bytes32 :=
  keccak256 (abiEncode
      [keccak256 (utf8 "MOZETTO_GAME_TEMPLATE_V2"), template.templateId,
        template.protocolVersion, template.gameFamilyId, template.maxSeats,
        template.minSeatsToStart, template.smallBlind, template.bigBlind,
        template.minBuyIn, template.maxBuyIn, template.engineHash,
        template.rulesHash, template.randomnessPolicyId,
        template.settlementPolicyId, template.modelPolicyHash,
        template.energyPolicyHash, template.rakePolicyHash,
        template.actionDeadlineMs, template.emergencyExitDelaySec,
        boolWord template.ranked, boolWord template.aiOnly, template.leagueBit])

def registerTemplate (msg : Msg) (registry : GameRegistryV2) (template : GameTemplateV2) :
    Except GameRegistryRevert GameRegistryV2 := do
  (onlyOwner msg registry.owner).mapError .ownable
  let templateId := template.templateId
  revertIf (templateId = 0) .invalidTemplate
  revertIf ((registry.templates templateId).status ≠ .none) .templateExists
  validateBody template
  return { registry with
    templates :=
      write registry.templates templateId
        { body := template
          templateHash := hashTemplate keccak256 template
          status := .registered
          registeredAt := msg.timestamp
          activatedAt := 0
          deactivatedAt := 0 }
    templateIds := registry.templateIds ++ [templateId] }

/-! ## Timelocked operations -/

/-- Schedule an operation for a template whose status it requires. -/
def schedule (required : TemplateStatus) (op : PendingOp)
    (msg : Msg) (registry : GameRegistryV2) (templateId : Bytes32) :
    Except GameRegistryRevert GameRegistryV2 := do
  (onlyOwner msg registry.owner).mapError .ownable
  let status := (registry.templates templateId).status
  revertIf (status = .none) .unknownTemplate
  revertIf (status ≠ required) .invalidStatus
  revertIf ((registry.pending templateId).op ≠ .none) .operationPending
  let eta := msg.timestamp + registry.minDelay
  revertIf (uint64Size ≤ eta) .panicArithmetic
  return { registry with
    pending := write registry.pending templateId ⟨op, eta⟩ }

def scheduleActivation := schedule .registered .activate

def scheduleDeactivation := schedule .active .deactivate

/-- Execute a pending operation that is due, and store the new record. -/
def execute (required : TemplateStatus) (op : PendingOp)
    (finish : Nat → TemplateRecord → TemplateRecord)
    (msg : Msg) (registry : GameRegistryV2) (templateId : Bytes32) :
    Except GameRegistryRevert GameRegistryV2 := do
  let pending := registry.pending templateId
  revertIf (pending.op ≠ op) .noPendingOperation
  revertIf (msg.timestamp < pending.eta) (.timelockNotReady pending.eta)
  let record := registry.templates templateId
  revertIf (record.status ≠ required) .invalidStatus
  return { registry with
    pending := write registry.pending templateId .unset
    templates := write registry.templates templateId (finish msg.timestamp record) }

def executeActivation :=
  execute .registered .activate fun time record =>
    { record with status := .active, activatedAt := time }

def executeDeactivation :=
  execute .active .deactivate fun time record =>
    { record with status := .deactivated, deactivatedAt := time }

def emergencyDeactivate (msg : Msg) (registry : GameRegistryV2) (templateId : Bytes32) :
    Except GameRegistryRevert GameRegistryV2 := do
  revertIf (msg.sender ≠ registry.emergencyGuardian ∧ msg.sender ≠ registry.owner) .unauthorized
  let record := registry.templates templateId
  revertIf (record.status = .none) .unknownTemplate
  revertIf (record.status = .deactivated) .invalidStatus
  return { registry with
    pending := write registry.pending templateId .unset
    templates :=
      write registry.templates templateId
        { record with
          status := .deactivated
          deactivatedAt := msg.timestamp } }

def cancelOperation (msg : Msg) (registry : GameRegistryV2) (templateId : Bytes32) :
    Except GameRegistryRevert GameRegistryV2 := do
  (onlyOwner msg registry.owner).mapError .ownable
  revertIf ((registry.pending templateId).op = .none) .noPendingOperation
  return { registry with
    pending := write registry.pending templateId .unset }

/-! ## Views -/

def isActiveForNewSessions (registry : GameRegistryV2) (templateId : Bytes32) : Bool :=
  (registry.templates templateId).status = .active

/-- The sealed buy-in band, empty for an unregistered template. -/
def buyInBand (registry : GameRegistryV2) (templateId : Bytes32) : Nat × Nat :=
  let record := registry.templates templateId
  if record.status = .none then (0, 0)
  else (record.body.minBuyIn, record.body.maxBuyIn)

/-! ## Runs of the registry -/

/-- The calls of the game registry. -/
inductive Call where
  | setEmergencyGuardian (guardian : Address)
  | setMinDelay (newDelay : Nat)
  | ownable (call : OwnableCall)
  | registerTemplate (template : GameTemplateV2)
  | scheduleActivation (templateId : Bytes32)
  | executeActivation (templateId : Bytes32)
  | scheduleDeactivation (templateId : Bytes32)
  | executeDeactivation (templateId : Bytes32)
  | emergencyDeactivate (templateId : Bytes32)
  | cancelOperation (templateId : Bytes32)

def perform (msg : Msg) (registry : GameRegistryV2) :
    Call → Except GameRegistryRevert GameRegistryV2
  | .setEmergencyGuardian guardian =>
      registry.setEmergencyGuardian msg guardian
  | .setMinDelay newDelay => registry.setMinDelay msg newDelay
  | .ownable call => registry.changeOwner msg call
  | .registerTemplate template =>
      registerTemplate keccak256 msg registry template
  | .scheduleActivation templateId =>
      scheduleActivation msg registry templateId
  | .executeActivation templateId =>
      executeActivation msg registry templateId
  | .scheduleDeactivation templateId =>
      scheduleDeactivation msg registry templateId
  | .executeDeactivation templateId =>
      executeDeactivation msg registry templateId
  | .emergencyDeactivate templateId =>
      registry.emergencyDeactivate msg templateId
  | .cancelOperation templateId => registry.cancelOperation msg templateId

/-- An accepted call, its block time and the delay in force before it. -/
structure Event where
  time : Nat
  minDelay : Nat
  call : Call

/-- The registry with the calls it has accepted, latest first. -/
structure State where
  registry : GameRegistryV2
  history : List Event

def step (state : State) (call : Msg × Call) :
    Except GameRegistryRevert State := do
  let registry ← perform keccak256 call.1 state.registry call.2
  return {
    registry := registry
    history := ⟨call.1.timestamp, state.registry.minDelay, call.2⟩ :: state.history }

def system : System State (Msg × Call) GameRegistryRevert where
  initial := fun state =>
    ∃ owner guardian minDelay, owner ≠ 0 ∧ state = ⟨constructed owner guardian minDelay, []⟩
  step := step keccak256

end GameRegistryV2

end Mozetto.Chain
