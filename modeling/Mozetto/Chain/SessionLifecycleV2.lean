import Mozetto.Chain.Basic

/-!
# SessionLifecycleV2

The session state machine next to the vault.  The relayer drafts, seals and
advances a session; the vault records sealing, settlement and emergency exits
through hooks that revert on a transition the record does not allow.
-/

namespace Mozetto.Chain

open Mozetto.Library.Guarded
open Mozetto.Library.Mapping

/-- The record of one session. -/
structure SessionRecord where
  state : LifecycleState
  gameTemplateId : Bytes32
  participantRoot : Bytes32
  openingBalanceRoot : Bytes32
  controllerRoot : Bytes32
  profileRoot : Bytes32
  dealerSecretRoot : Bytes32
  sessionDescriptorHash : Bytes32
  vrfRequestId : Bytes32
  deckBatchRoot : Bytes32
  createdAt : Nat
  sealedAt : Nat
  updatedAt : Nat
deriving DecidableEq, Repr

/-- The storage of the lifecycle contract. -/
structure SessionLifecycleV2 where
  owner : Address
  vault : Address
  sessionRelayer : Address
  gameRegistry : Address
  sessions : Bytes32 → SessionRecord

/-- The arguments of `recordSealed` after the session identifier. -/
structure SealedCommitments where
  gameTemplateId : Bytes32
  participantRoot : Bytes32
  openingBalanceRoot : Bytes32
  controllerRoot : Bytes32
  profileRoot : Bytes32
  dealerSecretRoot : Bytes32
  sessionDescriptorHash : Bytes32

/-- The record of a session nobody has drafted or sealed. -/
def SessionRecord.unset : SessionRecord where
  state := .none
  gameTemplateId := 0
  participantRoot := 0
  openingBalanceRoot := 0
  controllerRoot := 0
  profileRoot := 0
  dealerSecretRoot := 0
  sessionDescriptorHash := 0
  vrfRequestId := 0
  deckBatchRoot := 0
  createdAt := 0
  sealedAt := 0
  updatedAt := 0

/-- `isTerminal`. -/
def LifecycleState.isTerminal : LifecycleState → Bool
  | .settled | .aborted | .emergencyExit => true
  | _ => false

/-- The states from which the vault's settlement and exit hooks proceed. -/
def LifecycleState.acceptsVaultHook : LifecycleState → Bool
  | .sealed | .randomnessPending | .ready | .active | .settling => true
  | _ => false

namespace SessionLifecycleV2

def onlyRelayerOrOwner (msg : Msg) (lifecycle : SessionLifecycleV2) :
    Except Revert Unit :=
  revertIf (msg.sender ≠ lifecycle.sessionRelayer ∧ msg.sender ≠ lifecycle.owner) .unauthorized

def onlyVaultOrOwner (msg : Msg) (lifecycle : SessionLifecycleV2) :
    Except Revert Unit :=
  revertIf (msg.sender ≠ lifecycle.vault ∧ msg.sender ≠ lifecycle.owner) .unauthorized

/-- `_requireActiveTemplate`: ungated while no registry is configured. -/
def requireActiveTemplate (msg : Msg) (gameRegistry : Address) (templateId : Bytes32) :
    Except Revert Unit :=
  if gameRegistry = 0 then
    .ok ⟨⟩
  else
    match msg.isActiveForNewSessions gameRegistry templateId with
    | some true => .ok ⟨⟩
    | some false => .error .templateNotActive
    | none => .error .callFailed

/-- Store the record of one session. -/
def put (lifecycle : SessionLifecycleV2) (sessionId : Bytes32)
    (record : SessionRecord) : SessionLifecycleV2 :=
  { lifecycle with sessions := write lifecycle.sessions sessionId record }

/-- Move a session to another state at the block's time. -/
def moveTo (msg : Msg) (lifecycle : SessionLifecycleV2) (sessionId : Bytes32)
    (target : LifecycleState) : SessionLifecycleV2 :=
  lifecycle.put sessionId
    { lifecycle.sessions sessionId with
      state := target
      updatedAt := msg.timestamp }

/-! ## Administration -/

def setVault (msg : Msg) (lifecycle : SessionLifecycleV2) (vault : Address) :
    Except Revert SessionLifecycleV2 := do
  onlyOwner msg lifecycle.owner
  return { lifecycle with vault := vault }

def setSessionRelayer (msg : Msg) (lifecycle : SessionLifecycleV2) (relayer : Address) :
    Except Revert SessionLifecycleV2 := do
  onlyOwner msg lifecycle.owner
  return { lifecycle with sessionRelayer := relayer }

def setGameRegistry (msg : Msg) (lifecycle : SessionLifecycleV2) (registry : Address) :
    Except Revert SessionLifecycleV2 := do
  onlyOwner msg lifecycle.owner
  return { lifecycle with gameRegistry := registry }

def changeOwner (msg : Msg) (lifecycle : SessionLifecycleV2) (call : OwnableCall) :
    Except Revert SessionLifecycleV2 := do
  let owner ← call.newOwner msg lifecycle.owner
  return { lifecycle with owner := owner }

/-! ## Drafting and sealing by the relayer -/

def createDraft (msg : Msg) (lifecycle : SessionLifecycleV2) (sessionId : Bytes32)
    (gameTemplateId : Bytes32) : Except Revert SessionLifecycleV2 := do
  onlyRelayerOrOwner msg lifecycle
  revertIf (sessionId = 0) .zeroSessionId
  revertIf ((lifecycle.sessions sessionId).state ≠ .none) .sessionExists
  requireActiveTemplate msg lifecycle.gameRegistry gameTemplateId
  return lifecycle.put sessionId
    { SessionRecord.unset with
      state := .draft
      gameTemplateId := gameTemplateId
      createdAt := msg.timestamp
      updatedAt := msg.timestamp }

def setDraftCommitments (msg : Msg) (lifecycle : SessionLifecycleV2) (sessionId : Bytes32)
    (participantRoot openingBalanceRoot controllerRoot profileRoot : Bytes32) :
    Except Revert SessionLifecycleV2 := do
  onlyRelayerOrOwner msg lifecycle
  let record := lifecycle.sessions sessionId
  revertIf (record.state = .none) .unknownSession
  revertIf (record.state ≠ .draft) .participantsImmutable
  return lifecycle.put sessionId
    { record with
      participantRoot := participantRoot
      openingBalanceRoot := openingBalanceRoot
      controllerRoot := controllerRoot
      profileRoot := profileRoot
      updatedAt := msg.timestamp }

/-- `seal`, from a draft with a participant root. -/
def sealDraft (msg : Msg) (lifecycle : SessionLifecycleV2) (sessionId : Bytes32)
    (sessionDescriptorHash dealerSecretRoot : Bytes32) :
    Except Revert SessionLifecycleV2 := do
  onlyRelayerOrOwner msg lifecycle
  let record := lifecycle.sessions sessionId
  revertIf (record.state ≠ .draft) (.invalidTransition record.state .sealed)
  revertIf (record.participantRoot = 0) .rootsRequired
  return lifecycle.put sessionId
    { record with
      state := .sealed
      sessionDescriptorHash := sessionDescriptorHash
      dealerSecretRoot := dealerSecretRoot
      sealedAt := msg.timestamp
      updatedAt := msg.timestamp }

/-! ## Hooks of the vault -/

def recordSealed (msg : Msg) (lifecycle : SessionLifecycleV2) (sessionId : Bytes32)
    (commitments : SealedCommitments) : Except Revert SessionLifecycleV2 := do
  onlyVaultOrOwner msg lifecycle
  revertIf (sessionId = 0) .zeroSessionId
  revertIf (commitments.participantRoot = 0) .rootsRequired
  let record := lifecycle.sessions sessionId
  let source := record.state
  revertIf (source ≠ .none ∧ source ≠ .draft) (.invalidTransition source .sealed)
  revertIf (source = .draft ∧ record.gameTemplateId ≠ commitments.gameTemplateId)
    (.invalidTransition source .sealed)
  requireActiveTemplate msg lifecycle.gameRegistry commitments.gameTemplateId
  return lifecycle.put sessionId
    { record with
      state := .sealed
      gameTemplateId := commitments.gameTemplateId
      participantRoot := commitments.participantRoot
      openingBalanceRoot := commitments.openingBalanceRoot
      controllerRoot := commitments.controllerRoot
      profileRoot := commitments.profileRoot
      dealerSecretRoot := commitments.dealerSecretRoot
      sessionDescriptorHash := commitments.sessionDescriptorHash
      createdAt := if source = .none then msg.timestamp else record.createdAt
      sealedAt := msg.timestamp
      updatedAt := msg.timestamp }

/-- The guard shared by the settlement and the emergency-exit hook. -/
def requirePostSeal (lifecycle : SessionLifecycleV2) (sessionId : Bytes32)
    (target : LifecycleState) : Except Revert Unit := do
  let source := (lifecycle.sessions sessionId).state
  revertIf (source = .none) .unknownSession
  revertIf (source = .draft ∨ source = .settled ∨ source = .aborted ∨ source = .emergencyExit)
    (.invalidTransition source target)

/-- `recordSettled`: through `Settling` to `Settled` within one call. -/
def recordSettled (msg : Msg) (lifecycle : SessionLifecycleV2) (sessionId : Bytes32) :
    Except Revert SessionLifecycleV2 := do
  onlyVaultOrOwner msg lifecycle
  requirePostSeal lifecycle sessionId .settled
  return lifecycle.moveTo msg sessionId .settled

def recordEmergencyExit (msg : Msg) (lifecycle : SessionLifecycleV2) (sessionId : Bytes32) :
    Except Revert SessionLifecycleV2 := do
  onlyVaultOrOwner msg lifecycle
  requirePostSeal lifecycle sessionId .emergencyExit
  return lifecycle.moveTo msg sessionId .emergencyExit

/-! ## Progression after sealing -/

/-- `_requireState`; the expected state stands as the target of the error. -/
def requireState (lifecycle : SessionLifecycleV2) (sessionId : Bytes32)
    (expected : LifecycleState) : Except Revert Unit := do
  let source := (lifecycle.sessions sessionId).state
  revertIf (source = .none) .unknownSession
  revertIf (source ≠ expected) (.invalidTransition source expected)

def beginRandomness (msg : Msg) (lifecycle : SessionLifecycleV2) (sessionId : Bytes32)
    (vrfRequestId : Bytes32) : Except Revert SessionLifecycleV2 := do
  onlyRelayerOrOwner msg lifecycle
  requireState lifecycle sessionId .sealed
  return lifecycle.put sessionId
    { lifecycle.sessions sessionId with
      state := .randomnessPending
      vrfRequestId := vrfRequestId
      updatedAt := msg.timestamp }

def markReady (msg : Msg) (lifecycle : SessionLifecycleV2) (sessionId : Bytes32)
    (deckBatchRoot : Bytes32) : Except Revert SessionLifecycleV2 := do
  onlyRelayerOrOwner msg lifecycle
  requireState lifecycle sessionId .randomnessPending
  return lifecycle.put sessionId
    { lifecycle.sessions sessionId with
      state := .ready
      deckBatchRoot := deckBatchRoot
      updatedAt := msg.timestamp }

/-- A relayer step from exactly one state to another. -/
def advance (source target : LifecycleState)
    (msg : Msg) (lifecycle : SessionLifecycleV2) (sessionId : Bytes32) :
    Except Revert SessionLifecycleV2 := do
  onlyRelayerOrOwner msg lifecycle
  requireState lifecycle sessionId source
  return lifecycle.moveTo msg sessionId target

def activate := advance .ready .active

def beginSettling := advance .active .settling

def markSettled := advance .settling .settled

/-- A relayer step to a terminal state from any of several states. -/
def terminate (sources : List LifecycleState) (target : LifecycleState)
    (msg : Msg) (lifecycle : SessionLifecycleV2) (sessionId : Bytes32) :
    Except Revert SessionLifecycleV2 := do
  onlyRelayerOrOwner msg lifecycle
  let source := (lifecycle.sessions sessionId).state
  revertIf (source = .none) .unknownSession
  revertIf (source ∉ sources) (.invalidTransition source target)
  return lifecycle.moveTo msg sessionId target

def abort := terminate [.draft, .sealed, .randomnessPending, .ready] .aborted

def markEmergencyExit := terminate [.active, .settling] .emergencyExit

/-! ## What the hooks of the vault do -/

@[simp]
theorem moveTo_sessions_state (msg : Msg) (lifecycle : SessionLifecycleV2) (sessionId : Bytes32)
    (target : LifecycleState) (other : Bytes32) :
    ((lifecycle.moveTo msg sessionId target).sessions other).state =
      if other = sessionId then target
      else (lifecycle.sessions other).state := by
  by_cases same : other = sessionId
  · subst same
    simp [moveTo, put]
  · simp [moveTo, put, write, same]

theorem requirePostSeal_eq_ok_iff {lifecycle : SessionLifecycleV2} {sessionId : Bytes32}
    {target : LifecycleState} {done : Unit} :
    requirePostSeal lifecycle sessionId target = .ok done ↔
      (lifecycle.sessions sessionId).state.acceptsVaultHook = true := by
  simp only [requirePostSeal, bind_eq_ok_iff, revertIf_eq_ok_iff, exists_const]
  cases (lifecycle.sessions sessionId).state <;>
    simp [LifecycleState.acceptsVaultHook]

theorem recordSettled_eq_ok_iff
    {msg : Msg} {lifecycle after : SessionLifecycleV2} {sessionId : Bytes32} :
    recordSettled msg lifecycle sessionId = .ok after ↔
      (msg.sender = lifecycle.vault ∨ msg.sender = lifecycle.owner) ∧
        (lifecycle.sessions sessionId).state.acceptsVaultHook = true ∧
        lifecycle.moveTo msg sessionId .settled = after := by
  simp only [recordSettled, onlyVaultOrOwner, bind_eq_ok_iff,
    revertIf_eq_ok_iff, requirePostSeal_eq_ok_iff, pure_eq_ok_iff,
    exists_const, not_and_or, ne_eq, not_not]

theorem recordEmergencyExit_eq_ok_iff
    {msg : Msg} {lifecycle after : SessionLifecycleV2} {sessionId : Bytes32} :
    recordEmergencyExit msg lifecycle sessionId = .ok after ↔
      (msg.sender = lifecycle.vault ∨ msg.sender = lifecycle.owner) ∧
        (lifecycle.sessions sessionId).state.acceptsVaultHook = true ∧
        lifecycle.moveTo msg sessionId .emergencyExit = after := by
  simp only [recordEmergencyExit, onlyVaultOrOwner, bind_eq_ok_iff,
    revertIf_eq_ok_iff, requirePostSeal_eq_ok_iff, pure_eq_ok_iff,
    exists_const, not_and_or, ne_eq, not_not]

end SessionLifecycleV2

end Mozetto.Chain
