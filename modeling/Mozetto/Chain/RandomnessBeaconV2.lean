import Mozetto.Chain.Basic
import Mozetto.Library.TransitionSystem

/-!
# RandomnessBeaconV2

Per epoch of a session the beacon commits a dealer secret root, requests one
VRF word, takes its fulfilment and registers the deck batch.  Epochs are found
by the hash of session and epoch, requests by an identifier that is either
drawn from the contract's counter or supplied from outside.

The recorded inputs and outcomes of an epoch never change.  The two maps
between epochs and request identifiers stay in step as long as identifiers are
used once; neither the counter nor the supplied identifiers are checked for
that.
-/

namespace Mozetto.Chain

open Mozetto.Library.Guarded
open Mozetto.Library.Mapping
open Mozetto.Library.TransitionSystem

/-! ## Storage -/

/-- The phases of an epoch. -/
inductive Phase where
  | none
  | secretCommitted
  | vrfRequested
  | vrfFulfilled
  | deckBatchRegistered
deriving DecidableEq, Repr

/-- The position of a phase in its enumeration. -/
def Phase.index : Phase → Nat
  | .none => 0
  | .secretCommitted => 1
  | .vrfRequested => 2
  | .vrfFulfilled => 3
  | .deckBatchRegistered => 4

/-- The reasons for which a call of the beacon reverts. -/
inductive BeaconRevert where
  | ownable (reason : Revert)
  | unauthorized
  | zeroValue
  | unknownEpoch
  | invalidPhase (current expected : Phase)
  | secretRootReuse
  | alreadyRequested
  | alreadyFulfilled
  | alreadyRegistered
  | requestIdMismatch
  | mockVrfDisabled
  | panicArithmetic
deriving DecidableEq, Repr

/-- The record of one epoch. -/
structure EpochRecord where
  sessionId : Bytes32
  randomnessEpoch : Nat
  dealerSecretRoot : Bytes32
  participantRoot : Bytes32
  gameTemplateId : Bytes32
  bindingHash : Bytes32
  vrfRequestId : Nat
  vrfResult : Bytes32
  deckBatchRoot : Bytes32
  deckBatchBind : Bytes32
  dealerAttestationHash : Bytes32
  phase : Phase
  committedAt : Nat
  requestedAt : Nat
  fulfilledAt : Nat
  deckBatchAt : Nat
  usedMockVrf : Bool
deriving DecidableEq, Repr

/-- The record of an epoch nobody has committed to. -/
def EpochRecord.unset : EpochRecord where
  sessionId := 0
  randomnessEpoch := 0
  dealerSecretRoot := 0
  participantRoot := 0
  gameTemplateId := 0
  bindingHash := 0
  vrfRequestId := 0
  vrfResult := 0
  deckBatchRoot := 0
  deckBatchBind := 0
  dealerAttestationHash := 0
  phase := .none
  committedAt := 0
  requestedAt := 0
  fulfilledAt := 0
  deckBatchAt := 0
  usedMockVrf := false

/-- The storage of the beacon. -/
structure RandomnessBeaconV2 where
  owner : Address
  operator : Address
  mockVrfEnabled : Bool
  nextRequestId : Nat
  epochs : Bytes32 → EpochRecord
  usedSecretRoots : Bytes32 → Bool
  requestIdToEpochKey : Nat → Bytes32
  vrfFulfiller : Address

namespace RandomnessBeaconV2

/-- The storage after the constructor has run. -/
def constructed (owner : Address) (mockVrfEnabled : Bool) : RandomnessBeaconV2 where
  owner := owner
  operator := 0
  mockVrfEnabled := mockVrfEnabled
  nextRequestId := 1
  epochs := fun _ => .unset
  usedSecretRoots := fun _ => false
  requestIdToEpochKey := fun _ => 0
  vrfFulfiller := 0

/-! ## Views -/

variable (keccak256 : Bytes → Bytes32)

def epochKey (sessionId : Bytes32) (randomnessEpoch : Nat) : Bytes32 :=
  keccak256 (abiEncode [sessionId, randomnessEpoch])

def computeBindingHash (sessionId : Bytes32) (randomnessEpoch : Nat)
    (dealerSecretRoot participantRoot gameTemplateId : Bytes32) : Bytes32 :=
  keccak256 (abiEncode [sessionId, randomnessEpoch, dealerSecretRoot, participantRoot,
        gameTemplateId])

def computeDeckBatchBind (sessionId : Bytes32) (randomnessEpoch : Nat)
    (deckBatchRoot : Bytes32) : Bytes32 :=
  keccak256 (abiEncode
      [keccak256 (utf8 "MOZETTO_DECK_BATCH_V1"), sessionId, randomnessEpoch, deckBatchRoot])

/-! ## Administration -/

def onlyOperatorOrOwner (msg : Msg) (beacon : RandomnessBeaconV2) :
    Except BeaconRevert Unit :=
  revertIf (msg.sender ≠ beacon.operator ∧ msg.sender ≠ beacon.owner) .unauthorized

def onlyFulfillerOrOwner (msg : Msg) (beacon : RandomnessBeaconV2) :
    Except BeaconRevert Unit :=
  revertIf (msg.sender ≠ beacon.vrfFulfiller ∧ msg.sender ≠ beacon.owner ∧
      msg.sender ≠ beacon.operator) .unauthorized

/-- The owner-only calls of the beacon. -/
inductive Admin where
  | setOperator (operator : Address)
  | setMockVrfEnabled (enabled : Bool)
  | setVrfFulfiller (fulfiller : Address)
  | ownable (call : OwnableCall)

def administer (msg : Msg) (beacon : RandomnessBeaconV2) :
    Admin → Except BeaconRevert RandomnessBeaconV2
  | .setOperator operator => do
      (onlyOwner msg beacon.owner).mapError .ownable
      return { beacon with operator := operator }
  | .setMockVrfEnabled enabled => do
      (onlyOwner msg beacon.owner).mapError .ownable
      return { beacon with mockVrfEnabled := enabled }
  | .setVrfFulfiller fulfiller => do
      (onlyOwner msg beacon.owner).mapError .ownable
      return { beacon with vrfFulfiller := fulfiller }
  | .ownable call => do
      let owner ← (call.newOwner msg beacon.owner).mapError .ownable
      return { beacon with owner := owner }

/-! ## Lifecycle of an epoch -/

/-- Store the record of one epoch. -/
def put (beacon : RandomnessBeaconV2) (key : Bytes32) (record : EpochRecord) :
    RandomnessBeaconV2 :=
  { beacon with epochs := write beacon.epochs key record }

def commitSecretRoot (msg : Msg) (beacon : RandomnessBeaconV2) (sessionId : Bytes32)
    (randomnessEpoch : Nat) (dealerSecretRoot participantRoot gameTemplateId : Bytes32) :
    Except BeaconRevert RandomnessBeaconV2 := do
  onlyOperatorOrOwner msg beacon
  revertIf (sessionId = 0 ∨ dealerSecretRoot = 0) .zeroValue
  revertIf (participantRoot = 0 ∨ gameTemplateId = 0) .zeroValue
  revertIf (beacon.usedSecretRoots dealerSecretRoot = true) .secretRootReuse
  let key := epochKey keccak256 sessionId randomnessEpoch
  let record := beacon.epochs key
  revertIf (record.phase ≠ .none) (.invalidPhase record.phase .none)
  let binding :=
    computeBindingHash keccak256 sessionId randomnessEpoch dealerSecretRoot
      participantRoot gameTemplateId
  let committed :=
    beacon.put key
      { record with
        sessionId := sessionId
        randomnessEpoch := randomnessEpoch
        dealerSecretRoot := dealerSecretRoot
        participantRoot := participantRoot
        gameTemplateId := gameTemplateId
        bindingHash := binding
        phase := .secretCommitted
        committedAt := msg.timestamp }
  return { committed with
    usedSecretRoots := write beacon.usedSecretRoots dealerSecretRoot true }

def requestVrf (msg : Msg) (beacon : RandomnessBeaconV2) (sessionId : Bytes32)
    (randomnessEpoch : Nat) : Except BeaconRevert RandomnessBeaconV2 := do
  onlyOperatorOrOwner msg beacon
  let key := epochKey keccak256 sessionId randomnessEpoch
  let record := beacon.epochs key
  revertIf (record.phase = .none) .unknownEpoch
  revertIf (record.phase ≠ .secretCommitted ∧ Phase.vrfRequested.index ≤ record.phase.index)
    .alreadyRequested
  revertIf (record.phase ≠ .secretCommitted) (.invalidPhase record.phase .secretCommitted)
  revertIf (uint256Size ≤ beacon.nextRequestId + 1) .panicArithmetic
  let requestId := beacon.nextRequestId
  let requested :=
    beacon.put key
      { record with
        vrfRequestId := requestId
        phase := .vrfRequested
        requestedAt := msg.timestamp }
  return { requested with
    nextRequestId := beacon.nextRequestId + 1
    requestIdToEpochKey := write beacon.requestIdToEpochKey requestId key }

/--
`bindExternalRequestId`: only the entry of the identifier being replaced is
deleted, and the supplied identifier's entry is overwritten.
-/
def bindExternalRequestId (msg : Msg) (beacon : RandomnessBeaconV2) (sessionId : Bytes32)
    (randomnessEpoch externalRequestId : Nat) :
    Except BeaconRevert RandomnessBeaconV2 := do
  onlyOperatorOrOwner msg beacon
  revertIf (externalRequestId = 0) .zeroValue
  let key := epochKey keccak256 sessionId randomnessEpoch
  let record := beacon.epochs key
  revertIf (record.phase ≠ .vrfRequested) (.invalidPhase record.phase .vrfRequested)
  let oldId := record.vrfRequestId
  let released :=
    if oldId ≠ 0 ∧ oldId ≠ externalRequestId then
      write beacon.requestIdToEpochKey oldId 0
    else beacon.requestIdToEpochKey
  let bound := beacon.put key { record with vrfRequestId := externalRequestId }
  return { bound with
    requestIdToEpochKey := write released externalRequestId key }

/-- `_fulfill`; a mock fulfilment names no request identifier. -/
def fulfill (msg : Msg) (beacon : RandomnessBeaconV2) (key : Bytes32)
    (requestId : Nat) (vrfResult : Bytes32) (mock : Bool) :
    Except BeaconRevert RandomnessBeaconV2 := do
  let record := beacon.epochs key
  revertIf (record.phase = .none) .unknownEpoch
  revertIf (record.phase = .vrfFulfilled ∨ record.phase = .deckBatchRegistered) .alreadyFulfilled
  revertIf (record.phase ≠ .vrfRequested) (.invalidPhase record.phase .vrfRequested)
  revertIf (requestId ≠ 0 ∧ record.vrfRequestId ≠ requestId) .requestIdMismatch
  return beacon.put key
    { record with
      vrfResult := vrfResult
      phase := .vrfFulfilled
      fulfilledAt := msg.timestamp
      usedMockVrf := mock }

def fulfillMock (msg : Msg) (beacon : RandomnessBeaconV2) (sessionId : Bytes32)
    (randomnessEpoch : Nat) (vrfResult : Bytes32) :
    Except BeaconRevert RandomnessBeaconV2 := do
  onlyOperatorOrOwner msg beacon
  revertIf (beacon.mockVrfEnabled = false) .mockVrfDisabled
  revertIf (vrfResult = 0) .zeroValue
  fulfill msg beacon (epochKey keccak256 sessionId randomnessEpoch) 0 vrfResult true

def fulfillVrf (msg : Msg) (beacon : RandomnessBeaconV2) (requestId : Nat)
    (vrfResult : Bytes32) : Except BeaconRevert RandomnessBeaconV2 := do
  onlyFulfillerOrOwner msg beacon
  revertIf (requestId = 0 ∨ vrfResult = 0) .zeroValue
  let key := beacon.requestIdToEpochKey requestId
  revertIf (key = 0) .unknownEpoch
  fulfill msg beacon key requestId vrfResult false

def registerDeckBatch (msg : Msg) (beacon : RandomnessBeaconV2) (sessionId : Bytes32)
    (randomnessEpoch : Nat) (deckBatchRoot dealerAttestationHash : Bytes32) :
    Except BeaconRevert RandomnessBeaconV2 := do
  onlyOperatorOrOwner msg beacon
  revertIf (deckBatchRoot = 0 ∨ dealerAttestationHash = 0) .zeroValue
  let key := epochKey keccak256 sessionId randomnessEpoch
  let record := beacon.epochs key
  revertIf (record.phase = .none) .unknownEpoch
  revertIf (record.phase = .deckBatchRegistered) .alreadyRegistered
  revertIf (record.phase ≠ .vrfFulfilled) (.invalidPhase record.phase .vrfFulfilled)
  let bind := computeDeckBatchBind keccak256 sessionId randomnessEpoch deckBatchRoot
  return beacon.put key
    { record with
      deckBatchRoot := deckBatchRoot
      deckBatchBind := bind
      dealerAttestationHash := dealerAttestationHash
      phase := .deckBatchRegistered
      deckBatchAt := msg.timestamp }

end RandomnessBeaconV2

/-! ## Runs of the beacon -/

/-- The beacon, with the number of rebindings of every epoch. -/
structure BeaconState where
  beacon : RandomnessBeaconV2
  rebindings : Bytes32 → Nat

/-- The calls of the beacon. -/
inductive BeaconCall where
  | administer (call : RandomnessBeaconV2.Admin)
  | commitSecretRoot (sessionId : Bytes32) (randomnessEpoch : Nat)
      (dealerSecretRoot participantRoot gameTemplateId : Bytes32)
  | requestVrf (sessionId : Bytes32) (randomnessEpoch : Nat)
  | bindExternalRequestId (sessionId : Bytes32) (randomnessEpoch externalRequestId : Nat)
  | fulfillMock (sessionId : Bytes32) (randomnessEpoch : Nat) (vrfResult : Bytes32)
  | fulfillVrf (requestId : Nat) (vrfResult : Bytes32)
  | registerDeckBatch (sessionId : Bytes32) (randomnessEpoch : Nat)
      (deckBatchRoot dealerAttestationHash : Bytes32)

namespace BeaconState

open RandomnessBeaconV2

variable (keccak256 : Bytes → Bytes32)

/-- One external call; a successful rebinding is counted for its epoch. -/
def step (state : BeaconState) (call : Msg × BeaconCall) :
    Except BeaconRevert BeaconState :=
  let msg := call.1
  let kept := fun beacon => { state with beacon := beacon }
  match call.2 with
  | .administer call => kept <$> administer msg state.beacon call
  | .commitSecretRoot sessionId epoch secretRoot participantRoot templateId =>
      kept <$> commitSecretRoot keccak256 msg state.beacon sessionId epoch
        secretRoot participantRoot templateId
  | .requestVrf sessionId epoch =>
      kept <$> requestVrf keccak256 msg state.beacon sessionId epoch
  | .bindExternalRequestId sessionId epoch externalRequestId =>
      (fun beacon =>
        { beacon := beacon
          rebindings :=
            write state.rebindings (epochKey keccak256 sessionId epoch)
              (state.rebindings (epochKey keccak256 sessionId epoch) + 1) })
        <$> bindExternalRequestId keccak256 msg state.beacon sessionId epoch externalRequestId
  | .fulfillMock sessionId epoch vrfResult =>
      kept <$> fulfillMock keccak256 msg state.beacon sessionId epoch vrfResult
  | .fulfillVrf requestId vrfResult =>
      kept <$> fulfillVrf msg state.beacon requestId vrfResult
  | .registerDeckBatch sessionId epoch deckBatchRoot attestationHash =>
      kept <$> registerDeckBatch keccak256 msg state.beacon sessionId epoch
        deckBatchRoot attestationHash

/-- The beacon from its constructor on. -/
def system : System BeaconState (Msg × BeaconCall) BeaconRevert where
  initial := fun state =>
    ∃ owner mockVrfEnabled, owner ≠ 0 ∧ state = ⟨constructed owner mockVrfEnabled, fun _ => 0⟩
  step := step keccak256

end BeaconState

/-! ## What a call does to the record of an epoch -/

/-- The VRF word of the epoch has been asked for. -/
def EpochRecord.Requested (record : EpochRecord) : Prop :=
  Phase.vrfRequested.index ≤ record.phase.index

instance (record : EpochRecord) : Decidable record.Requested := inferInstanceAs (Decidable (_ ≤ _))

/-- The steps of one record. -/
inductive EpochRecord.Moves (record : EpochRecord) : EpochRecord → Prop where
  | keep : Moves record record
  | commit {sessionId dealerSecretRoot participantRoot gameTemplateId : Bytes32}
      {randomnessEpoch bindingHash committedAt : Nat} (fresh : record.phase = .none)
      (secretSet : dealerSecretRoot ≠ 0) (participantsSet : participantRoot ≠ 0)
      (templateSet : gameTemplateId ≠ 0) :
      Moves record
        { record with
          sessionId := sessionId
          randomnessEpoch := randomnessEpoch
          dealerSecretRoot := dealerSecretRoot
          participantRoot := participantRoot
          gameTemplateId := gameTemplateId
          bindingHash := bindingHash
          phase := .secretCommitted
          committedAt := committedAt }
  | request {requestId requestedAt : Nat} (committed : record.phase = .secretCommitted) :
      Moves record
        { record with
          vrfRequestId := requestId
          phase := .vrfRequested
          requestedAt := requestedAt }
  | rebind {externalRequestId : Nat} (requested : record.phase = .vrfRequested) :
      Moves record { record with vrfRequestId := externalRequestId }
  | fulfill {vrfResult : Bytes32} {fulfilledAt : Nat} {mock : Bool}
      (requested : record.phase = .vrfRequested) (resultSet : vrfResult ≠ 0) :
      Moves record
        { record with
          vrfResult := vrfResult
          phase := .vrfFulfilled
          fulfilledAt := fulfilledAt
          usedMockVrf := mock }
  | register {deckBatchRoot deckBatchBind attestationHash : Bytes32} {deckBatchAt : Nat}
      (fulfilled : record.phase = .vrfFulfilled) (batchSet : deckBatchRoot ≠ 0) :
      Moves record
        { record with
          deckBatchRoot := deckBatchRoot
          deckBatchBind := deckBatchBind
          dealerAttestationHash := attestationHash
          phase := .deckBatchRegistered
          deckBatchAt := deckBatchAt }

/-- The inputs and outcomes of a record are set exactly from their phase on. -/
structure EpochRecord.WellPhased (record : EpochRecord) : Prop where
  dealerSecretRoot : record.dealerSecretRoot ≠ 0 ↔ record.phase ≠ .none
  participantRoot : record.participantRoot ≠ 0 ↔ record.phase ≠ .none
  gameTemplateId : record.gameTemplateId ≠ 0 ↔ record.phase ≠ .none
  vrfResult : record.vrfResult ≠ 0 ↔ Phase.vrfFulfilled.index ≤ record.phase.index
  deckBatchRoot : record.deckBatchRoot ≠ 0 ↔ record.phase = .deckBatchRegistered

/-- What is set stays as it is, and the phase does not decrease. -/
structure EpochRecord.Keeps (before after : EpochRecord) : Prop where
  dealerSecretRoot : before.dealerSecretRoot ≠ 0 → after.dealerSecretRoot = before.dealerSecretRoot
  participantRoot : before.participantRoot ≠ 0 → after.participantRoot = before.participantRoot
  gameTemplateId : before.gameTemplateId ≠ 0 → after.gameTemplateId = before.gameTemplateId
  vrfResult : before.vrfResult ≠ 0 → after.vrfResult = before.vrfResult
  deckBatchRoot : before.deckBatchRoot ≠ 0 → after.deckBatchRoot = before.deckBatchRoot
  phase : before.phase.index ≤ after.phase.index

namespace EpochRecord

theorem Keeps.refl (record : EpochRecord) : record.Keeps record :=
  ⟨fun _ => rfl, fun _ => rfl, fun _ => rfl, fun _ => rfl, fun _ => rfl, Nat.le_refl _⟩

theorem Keeps.trans {first second third : EpochRecord}
    (earlier : first.Keeps second) (later : second.Keeps third) : first.Keeps third where
  dealerSecretRoot := by
    intro isSet
    have kept := earlier.dealerSecretRoot isSet
    rw [later.dealerSecretRoot (kept ▸ isSet), kept]
  participantRoot := by
    intro isSet
    have kept := earlier.participantRoot isSet
    rw [later.participantRoot (kept ▸ isSet), kept]
  gameTemplateId := by
    intro isSet
    have kept := earlier.gameTemplateId isSet
    rw [later.gameTemplateId (kept ▸ isSet), kept]
  vrfResult := by
    intro isSet
    have kept := earlier.vrfResult isSet
    rw [later.vrfResult (kept ▸ isSet), kept]
  deckBatchRoot := by
    intro isSet
    have kept := earlier.deckBatchRoot isSet
    rw [later.deckBatchRoot (kept ▸ isSet), kept]
  phase := Nat.le_trans earlier.phase later.phase

theorem unset_wellPhased : unset.WellPhased := by
  constructor <;> decide

theorem Moves.wellPhased {before after : EpochRecord}
    (moves : before.Moves after) (holds : before.WellPhased) :
    after.WellPhased := by
  cases moves with
  | keep => exact holds
  | commit fresh secretSet participantsSet templateSet =>
    have noResult := holds.vrfResult
    have noBatch := holds.deckBatchRoot
    rw [fresh] at noResult noBatch
    constructor <;> simp_all [Phase.index]
  | request committed =>
    rcases holds with ⟨secret, participants, template, result, batch⟩
    rw [committed] at secret participants template result batch
    constructor <;> simp_all [Phase.index]
  | rebind requested => exact ⟨holds.1, holds.2, holds.3, holds.4, holds.5⟩
  | fulfill requested resultSet =>
    rcases holds with ⟨secret, participants, template, -, batch⟩
    rw [requested] at secret participants template batch
    constructor <;> simp_all [Phase.index]
  | register fulfilled batchSet =>
    rcases holds with ⟨secret, participants, template, result, -⟩
    rw [fulfilled] at secret participants template result
    constructor <;> simp_all [Phase.index]

theorem Moves.keeps {before after : EpochRecord}
    (moves : before.Moves after) (holds : before.WellPhased) :
    before.Keeps after := by
  cases moves with
  | keep => exact .refl before
  | commit fresh =>
    rcases holds with ⟨secret, participants, template, -, -⟩
    rw [fresh] at secret participants template
    constructor <;> simp_all [Phase.index]
  | request committed =>
    constructor <;> simp_all [Phase.index]
  | rebind requested => exact ⟨fun _ => rfl, fun _ => rfl, fun _ => rfl,
      fun _ => rfl, fun _ => rfl, Nat.le_refl _⟩
  | fulfill requested =>
    have noResult := holds.vrfResult
    rw [requested] at noResult
    constructor <;> simp_all [Phase.index]
  | register fulfilled =>
    have noBatch := holds.deckBatchRoot
    rw [fulfilled] at noBatch
    constructor <;> simp_all [Phase.index]

end EpochRecord

/-! ## What a call does to the beacon -/

namespace RandomnessBeaconV2

variable {keccak256 : Bytes → Bytes32} {msg : Msg}
variable {before after : RandomnessBeaconV2}

/-- Writing a record moves one epoch and keeps the others. -/
theorem moves_of_write {epochs : Bytes32 → EpochRecord} {key : Bytes32} {record : EpochRecord}
    (moves : (epochs key).Moves record) (other : Bytes32) :
    (epochs other).Moves (write epochs key record other) := by
  by_cases same : other = key
  · subst same
    rw [write_self]
    exact moves
  · rw [write_of_ne _ _ same]
    exact .keep

/-- The calls that leave the request identifiers alone. -/
structure Quiet (before after : RandomnessBeaconV2) : Prop where
  requestIdToEpochKey : after.requestIdToEpochKey = before.requestIdToEpochKey
  vrfRequestId : ∀ key, (after.epochs key).vrfRequestId = (before.epochs key).vrfRequestId
  requested : ∀ key, (after.epochs key).Requested ↔ (before.epochs key).Requested
  pending : ∀ key, (after.epochs key).phase = .vrfRequested →
      (before.epochs key).phase = .vrfRequested

theorem administer_frame {call : Admin} (accepted : administer msg before call = .ok after) :
    after.epochs = before.epochs ∧ after.requestIdToEpochKey = before.requestIdToEpochKey := by
  cases call with
  | setOperator operator =>
    simp only [administer, bind_eq_ok_iff, pure_eq_ok_iff] at accepted
    rcases accepted with ⟨-, -, rfl⟩
    exact ⟨rfl, rfl⟩
  | setMockVrfEnabled enabled =>
    simp only [administer, bind_eq_ok_iff, pure_eq_ok_iff] at accepted
    rcases accepted with ⟨-, -, rfl⟩
    exact ⟨rfl, rfl⟩
  | setVrfFulfiller fulfiller =>
    simp only [administer, bind_eq_ok_iff, pure_eq_ok_iff] at accepted
    rcases accepted with ⟨-, -, rfl⟩
    exact ⟨rfl, rfl⟩
  | ownable call =>
    simp only [administer, bind_eq_ok_iff, pure_eq_ok_iff] at accepted
    rcases accepted with ⟨-, -, rfl⟩
    exact ⟨rfl, rfl⟩

theorem Quiet.of_frame (epochs : after.epochs = before.epochs)
    (requestIds : after.requestIdToEpochKey = before.requestIdToEpochKey) :
    Quiet before after := by
  refine ⟨requestIds, ?_, ?_, ?_⟩ <;> intro key <;> rw [epochs]
  exact id

/-- A write that keeps the identifier and the request status is quiet. -/
theorem Quiet.of_write {key : Bytes32} {record : EpochRecord}
    (epochs : after.epochs = write before.epochs key record)
    (requestIds : after.requestIdToEpochKey = before.requestIdToEpochKey)
    (vrfRequestId : record.vrfRequestId = (before.epochs key).vrfRequestId)
    (requested : record.Requested ↔ (before.epochs key).Requested)
    (pending : record.phase ≠ .vrfRequested) :
    Quiet before after := by
  refine ⟨requestIds, ?_, ?_, ?_⟩ <;> intro other <;> rw [epochs] <;>
    by_cases same : other = key
  · subst same
    rw [write_self]
    exact vrfRequestId
  · rw [write_of_ne _ _ same]
  · subst same
    rw [write_self]
    exact requested
  · rw [write_of_ne _ _ same]
  · subst same
    rw [write_self]
    intro still
    exact absurd still pending
  · rw [write_of_ne _ _ same]
    exact id

theorem commitSecretRoot_ok {sessionId dealerSecretRoot participantRoot gameTemplateId : Bytes32}
    {epoch : Nat}
    (accepted : commitSecretRoot keccak256 msg before sessionId epoch dealerSecretRoot
        participantRoot gameTemplateId = .ok after) :
    (∀ key, (before.epochs key).Moves (after.epochs key)) ∧
      Quiet before after := by
  simp only [commitSecretRoot, onlyOperatorOrOwner, revertIf_bind_eq_ok_iff,
    pure_eq_ok_iff, not_or, ne_eq, not_not] at accepted
  rcases accepted with ⟨-, ⟨-, secretSet⟩, ⟨participantsSet, templateSet⟩, -, fresh, rfl⟩
  constructor
  · exact moves_of_write (.commit fresh secretSet participantsSet templateSet)
  · exact Quiet.of_write rfl rfl rfl (by simp [EpochRecord.Requested, fresh, Phase.index]) (by simp)

theorem fulfill_ok_iff {key vrfResult : Bytes32} {requestId : Nat} {mock : Bool} :
    fulfill msg before key requestId vrfResult mock = .ok after ↔
      (before.epochs key).phase = .vrfRequested ∧
        (requestId ≠ 0 → (before.epochs key).vrfRequestId = requestId) ∧ before.put key
          { before.epochs key with
            vrfResult := vrfResult
            phase := .vrfFulfilled
            fulfilledAt := msg.timestamp
            usedMockVrf := mock } = after := by
  simp only [fulfill, revertIf_bind_eq_ok_iff, pure_eq_ok_iff, not_or, not_and, ne_eq, not_not]
  constructor
  · rintro ⟨-, -, requested, matching, stored⟩
    exact ⟨requested, matching, stored⟩
  · rintro ⟨requested, matching, stored⟩
    rw [requested]
    exact ⟨by simp, by simp, rfl, matching, stored⟩

theorem fulfill_ok {key vrfResult : Bytes32} {requestId : Nat} {mock : Bool}
    (resultSet : vrfResult ≠ 0)
    (accepted : fulfill msg before key requestId vrfResult mock = .ok after) :
    (∀ key, (before.epochs key).Moves (after.epochs key)) ∧
      Quiet before after := by
  rcases fulfill_ok_iff.mp accepted with ⟨requested, -, rfl⟩
  constructor
  · exact moves_of_write (.fulfill requested resultSet)
  · exact Quiet.of_write rfl rfl rfl
      (by simp [EpochRecord.Requested, requested, Phase.index]) (by simp)

theorem fulfillMock_ok {sessionId vrfResult : Bytes32} {epoch : Nat}
    (accepted : fulfillMock keccak256 msg before sessionId epoch vrfResult = .ok after) :
    (∀ key, (before.epochs key).Moves (after.epochs key)) ∧
      Quiet before after := by
  simp only [fulfillMock, onlyOperatorOrOwner, revertIf_bind_eq_ok_iff] at accepted
  rcases accepted with ⟨-, -, resultSet, fulfilled⟩
  exact fulfill_ok resultSet fulfilled

theorem fulfillVrf_ok {vrfResult : Bytes32} {requestId : Nat}
    (accepted : fulfillVrf msg before requestId vrfResult = .ok after) :
    (∀ key, (before.epochs key).Moves (after.epochs key)) ∧
      Quiet before after := by
  simp only [fulfillVrf, onlyFulfillerOrOwner, revertIf_bind_eq_ok_iff, not_or] at accepted
  rcases accepted with ⟨-, ⟨-, resultSet⟩, -, fulfilled⟩
  exact fulfill_ok resultSet fulfilled

theorem registerDeckBatch_ok {sessionId deckBatchRoot attestationHash : Bytes32} {epoch : Nat}
    (accepted : registerDeckBatch keccak256 msg before sessionId epoch deckBatchRoot
        attestationHash = .ok after) :
    (∀ key, (before.epochs key).Moves (after.epochs key)) ∧
      Quiet before after := by
  simp only [registerDeckBatch, onlyOperatorOrOwner,
    revertIf_bind_eq_ok_iff, pure_eq_ok_iff, not_or, ne_eq, not_not] at accepted
  rcases accepted with ⟨-, ⟨batchSet, -⟩, -, -, fulfilled, rfl⟩
  constructor
  · exact moves_of_write (.register fulfilled batchSet)
  · exact Quiet.of_write rfl rfl rfl
      (by simp [EpochRecord.Requested, fulfilled, Phase.index]) (by simp)

theorem requestVrf_ok_iff {sessionId : Bytes32} {epoch : Nat} :
    requestVrf keccak256 msg before sessionId epoch = .ok after ↔
      (msg.sender = before.operator ∨ msg.sender = before.owner) ∧
        (before.epochs (epochKey keccak256 sessionId epoch)).phase = .secretCommitted ∧
        before.nextRequestId + 1 < uint256Size ∧
        { before with
          epochs :=
            write before.epochs (epochKey keccak256 sessionId epoch)
              { before.epochs (epochKey keccak256 sessionId epoch) with
                vrfRequestId := before.nextRequestId
                phase := .vrfRequested
                requestedAt := msg.timestamp }
          nextRequestId := before.nextRequestId + 1
          requestIdToEpochKey :=
            write before.requestIdToEpochKey before.nextRequestId
              (epochKey keccak256 sessionId epoch) } = after := by
  simp only [requestVrf, onlyOperatorOrOwner, revertIf_bind_eq_ok_iff,
    pure_eq_ok_iff, not_and_or, ne_eq, not_not, Nat.not_le, put]
  constructor
  · rintro ⟨authorized, -, -, committed, fits, stored⟩
    exact ⟨authorized, committed, fits, stored⟩
  · rintro ⟨authorized, committed, fits, stored⟩
    refine ⟨authorized, ?_, .inl committed, committed, fits, stored⟩
    rw [committed]
    decide

/-- The map of identifiers after an external one has been bound. -/
def boundIds (beacon : RandomnessBeaconV2) (key : Bytes32)
    (externalRequestId : Nat) : Nat → Bytes32 :=
  let oldId := (beacon.epochs key).vrfRequestId
  write (if oldId ≠ 0 ∧ oldId ≠ externalRequestId then
      write beacon.requestIdToEpochKey oldId 0
    else beacon.requestIdToEpochKey)
    externalRequestId key

theorem bindExternalRequestId_ok_iff {sessionId : Bytes32} {epoch externalRequestId : Nat} :
    bindExternalRequestId keccak256 msg before sessionId epoch externalRequestId = .ok after ↔
      (msg.sender = before.operator ∨ msg.sender = before.owner) ∧ externalRequestId ≠ 0 ∧
        (before.epochs (epochKey keccak256 sessionId epoch)).phase = .vrfRequested ∧
        { before with
          epochs :=
            write before.epochs (epochKey keccak256 sessionId epoch)
              { before.epochs (epochKey keccak256 sessionId epoch) with
                vrfRequestId := externalRequestId }
          requestIdToEpochKey :=
            boundIds before (epochKey keccak256 sessionId epoch) externalRequestId } = after := by
  simp only [bindExternalRequestId, onlyOperatorOrOwner,
    revertIf_bind_eq_ok_iff, pure_eq_ok_iff, not_and_or, ne_eq, not_not, put, boundIds]

end RandomnessBeaconV2

end Mozetto.Chain
