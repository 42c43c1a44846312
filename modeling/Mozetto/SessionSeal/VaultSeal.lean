import Mozetto.Chain.ArenaVaultV2
import Mozetto.Commitments.BalanceRoot
import Mozetto.Commitments.Merkle
import Mozetto.SessionSeal.Commitments

/-!
# The seal of the vault

`sealAndFundSession` is its guards, its checks of the session identifier and
of the four roots, and its effects.  The descriptor of
`buildSessionCommitments` passes the checks with the tickets in seat order;
and where `keccak256` has no collision among what two tickets lists hash, two
lists that pass with one descriptor commit the same seats.
-/

namespace Mozetto.SessionSeal

open Mozetto.Chain
open Mozetto.Commitments
open Mozetto.Library.Guarded
open Mozetto.Library.Mapping
open Mozetto.Library.MerkleTree

/-! ## Guards, checks and effects -/

section Vault

open ArenaVaultV2

variable (deployment : Deployment) (msg : Msg)

/-- What `sealAndFundSession` requires before it looks at the commitments. -/
def sealGuards (world : World) (descriptor : SessionDescriptor)
    (tickets : List SeatTicketV3) (signatures : List Bytes) :
    Except Revert Unit := do
  onlyRelayerOrSettlement msg world
  whenNotPaused world
  revertIf (descriptor.chainId ≠ deployment.chainId) .wrongChain
  revertIf (descriptor.protocolVersion ≠ protocolVersionV3) .badProtocolVersion
  revertIf (descriptor.sealDeadline < msg.timestamp) .sealDeadlinePassed
  revertIf ((world.vault.sessions descriptor.sessionId).openedAt ≠ 0) .sessionExists
  revertIf (tickets.length = 0 ∨ tickets.length ≠ signatures.length) .badSettlement
  revertIf (255 < tickets.length) .badSettlement
  requireActiveTemplate msg world descriptor.gameTemplateId

/-- The checks of the session identifier and of the roots. -/
def sealChecks (world : World) (descriptor : SessionDescriptor)
    (tickets : List SeatTicketV3) : Except Revert Unit := do
  revertIf (expectedSessionId deployment descriptor ≠ descriptor.sessionId) .sessionIdMismatch
  let leaves ← tickets.zipIdx.mapM (seatLeaves deployment world descriptor)
  requireRoots deployment descriptor leaves

/-- What a seal does once its commitments are checked. -/
def sealEffects (world : World) (descriptor : SessionDescriptor)
    (tickets : List SeatTicketV3) (signatures : List Bytes) :
    Except Revert World := do
  let exitAfter ← checkedAdd64 msg.timestamp world.vault.defaultEmergencyExitDelay
  let record :=
    openRecord world.vault
      { sessionId := descriptor.sessionId
        templateId := descriptor.gameTemplateId
        dealerRoot := descriptor.dealerSecretRoot
        engineHash := 0
        profileSetHash := descriptor.profileRoot
        openedAt := msg.timestamp
        settled := false
        lastSequence := 0
        lastBalanceRoot := 0
        emergencyExitAfter := exitAfter }
  let opened :=
    { world with
      vault := { record with
        sessionDescriptors := write record.sessionDescriptors descriptor.sessionId descriptor
        sessionSealedV3 := write record.sessionSealedV3 descriptor.sessionId true } }
  let funded ← (tickets.zip signatures).foldlM (fun state entry =>
        lockFromTicketV3 deployment msg state descriptor.sessionId
          descriptor.gameTemplateId entry.1 entry.2)
      opened
  notifyLifecycleSealed deployment msg funded descriptor

/-- A seal is its guards, then its checks, then its effects. -/
theorem sealAndFundSession_eq (world : World) (descriptor : SessionDescriptor)
    (tickets : List SeatTicketV3) (signatures : List Bytes) :
    sealAndFundSession deployment msg world descriptor tickets signatures = (do
        sealGuards deployment msg world descriptor tickets signatures
        sealChecks deployment world descriptor tickets
        sealEffects deployment msg world descriptor tickets signatures) := by
  simp only [sealAndFundSession, sealGuards, sealChecks, sealEffects, bind_assoc]

/-! ## What the checks accept -/

def participantLeavesOf (world : World) (tickets : List SeatTicketV3) : List Bytes32 :=
  tickets.zipIdx.map fun entry =>
    ArenaVaultV2.participantLeaf deployment
      (world.factory.ownerOf entry.1.arenaAccount) entry.2 entry.1

def openingLeavesOf (sessionId : Bytes32) (tickets : List SeatTicketV3) : List Bytes32 :=
  tickets.zipIdx.map fun entry =>
    openingLeaf deployment sessionId entry.2 entry.1

def controllerLeavesOf (tickets : List SeatTicketV3) : List Bytes32 :=
  tickets.zipIdx.map fun entry =>
    ArenaVaultV2.controllerLeaf deployment entry.2 entry.1

/-- What `sealChecks` checks of a descriptor and tickets. -/
structure Commits (world : World) (descriptor : SessionDescriptor)
    (tickets : List SeatTicketV3) : Prop where
  sessionId : expectedSessionId deployment descriptor = descriptor.sessionId
  templates : ∀ ticket ∈ tickets, ticket.gameTemplateId = descriptor.gameTemplateId
  owned : ∀ ticket ∈ tickets, world.factory.ownerOf ticket.arenaAccount ≠ 0
  participantRoot : treeRoot deployment.keccak256 (participantLeavesOf deployment world tickets) =
      descriptor.participantRoot
  openingBalanceRoot : treeRoot deployment.keccak256
        (openingLeavesOf deployment descriptor.sessionId tickets) = descriptor.openingBalanceRoot
  controllerRoot : treeRoot deployment.keccak256 (controllerLeavesOf deployment tickets) =
      descriptor.controllerRoot
  profileRoot : treeRoot deployment.keccak256 (tickets.map SeatTicketV3.profileConfigHash) =
      descriptor.profileRoot

variable {deployment msg} {world : World} {descriptor : SessionDescriptor}
variable {tickets : List SeatTicketV3}

theorem seatLeaves_eq_ok_iff {entry : SeatTicketV3 × Nat}
    {leaves : Bytes32 × Bytes32 × Bytes32 × Bytes32} :
    seatLeaves deployment world descriptor entry = .ok leaves ↔
      (entry.1.gameTemplateId = descriptor.gameTemplateId ∧
          world.factory.ownerOf entry.1.arenaAccount ≠ 0) ∧ (ArenaVaultV2.participantLeaf deployment
            (world.factory.ownerOf entry.1.arenaAccount) entry.2 entry.1,
          openingLeaf deployment descriptor.sessionId entry.2 entry.1,
          ArenaVaultV2.controllerLeaf deployment entry.2 entry.1, entry.1.profileConfigHash) =
          leaves := by
  rw [seatLeaves, revertIf_bind_eq_ok_iff, revertIf_bind_eq_ok_iff,
    pure_eq_ok_iff, not_not, and_assoc]

theorem requireRoots_eq_ok_iff
    {leaves : List (Bytes32 × Bytes32 × Bytes32 × Bytes32)} {done : Unit} :
    requireRoots deployment descriptor leaves = .ok done ↔
      treeRoot deployment.keccak256 (leaves.map (·.1)) = descriptor.participantRoot ∧
        treeRoot deployment.keccak256 (leaves.map (·.2.1)) = descriptor.openingBalanceRoot ∧
        treeRoot deployment.keccak256 (leaves.map (·.2.2.1)) = descriptor.controllerRoot ∧
        treeRoot deployment.keccak256 (leaves.map (·.2.2.2)) =
          descriptor.profileRoot := by
  rw [requireRoots, revertIf_bind_eq_ok_iff, revertIf_bind_eq_ok_iff,
    revertIf_bind_eq_ok_iff, revertIf_eq_ok_iff]
  simp only [not_not, orderedMerkleRoot_eq, ne_eq]

theorem forall_mem_zipIdx {α : Type} {items : List α} (holds : α → Prop) :
    (∀ entry ∈ items.zipIdx, holds entry.1) ↔ ∀ item ∈ items, holds item := by
  have same := List.zipIdx_map_fst 0 items
  constructor
  · intro all item member
    rw [← same] at member
    rcases List.mem_map.mp member with ⟨entry, given, rfl⟩
    exact all entry given
  · intro all entry member
    apply all
    rw [← same]
    exact List.mem_map_of_mem member

theorem sealChecks_eq_ok_iff {done : Unit} :
    sealChecks deployment world descriptor tickets = .ok done ↔
      Commits deployment world descriptor tickets := by
  have profiles : (tickets.zipIdx.map fun entry => entry.1.profileConfigHash) =
      tickets.map SeatTicketV3.profileConfigHash := by
    conv_rhs => rw [← List.zipIdx_map_fst 0 tickets, List.map_map]
    rfl
  have each :=
    @forall_mem_zipIdx _ tickets fun ticket =>
      ticket.gameTemplateId = descriptor.gameTemplateId ∧
        world.factory.ownerOf ticket.arenaAccount ≠ 0
  rw [sealChecks, revertIf_bind_eq_ok_iff, bind_eq_ok_iff, not_not]
  simp only [mapM_eq_ok_iff fun entry _ _ => seatLeaves_eq_ok_iff, requireRoots_eq_ok_iff]
  constructor
  · rintro ⟨identifier, leaves, ⟨accepted, rfl⟩, participants, opening, controllers, profile⟩
    rw [List.map_map] at participants opening controllers profile
    have accepted_each := each.mp accepted
    refine ⟨identifier, fun ticket member => (accepted_each ticket member).1,
        fun ticket member => (accepted_each ticket member).2, participants,
        opening, controllers, ?_⟩
    rw [← profiles]
    exact profile
  · intro commits
    refine ⟨commits.sessionId, _, ⟨?_, rfl⟩, ?_⟩
    · exact each.mpr fun ticket member =>
          ⟨commits.templates ticket member, commits.owned ticket member⟩
    · simp only [List.map_map]
      refine ⟨commits.participantRoot, commits.openingBalanceRoot, commits.controllerRoot, ?_⟩
      have profile := commits.profileRoot
      rw [← profiles] at profile
      exact profile

end Vault

variable {deployment : Deployment} {world world' : World}
variable {descriptor : SessionDescriptor}
variable {tickets tickets' : List SeatTicketV3}

/-! ## What the package builds passes -/

/-- The owners of the participants are those of the factory. -/
def Owned (world : World) (participants : List SealParticipant) : Prop :=
  ∀ participant ∈ participants,
    participant.owner = world.factory.ownerOf participant.ticket.arenaAccount ∧
      participant.owner ≠ 0

instance (world : World) (participants : List SealParticipant) :
    Decidable (Owned world participants) := inferInstanceAs (Decidable (∀ _ ∈ _, _))

section Built

open SealPrepareInput

variable {input : SealPrepareInput}

theorem participantLeavesOf_tickets
    (order : IsSeatOrder (orderOf input.participants input.seatOrder) input.participants.length)
    (owned : Owned world input.participants) :
    participantLeavesOf deployment world input.tickets =
      input.participantLeaves deployment := by
  apply List.ext_getElem
  · simp [participantLeavesOf, participantLeaves, tickets]
  · intro index inside inside'
    have given : index < input.seated.length := by
      simpa [participantLeaves] using inside'
    have seat : input.seated[index].seat = index := by
      have seats := map_seat_seatedBy order
      have here := List.getElem_of_eq seats (by rwa [List.length_map])
      rwa [List.getElem_map, List.getElem_range] at here
    have owner :=
      ((forall_mem_seated order fun participant =>
        participant.owner = world.factory.ownerOf participant.ticket.arenaAccount ∧
          participant.owner ≠ 0).mpr owned _ (List.getElem_mem given)).1
    simp only [participantLeavesOf, participantLeaves, tickets,
      List.getElem_map, List.getElem_zipIdx, Nat.zero_add, seat]
    rw [← owner]

/-- The descriptor that is built commits the tickets in seat order. -/
theorem commits_of_buildable
    (buildable : input.Buildable) (owned : Owned world input.participants) :
    Commits deployment world (input.descriptor deployment) input.tickets where
  sessionId := rfl
  templates := (forall_mem_tickets buildable.order).mpr buildable.templates
  owned :=
    (forall_mem_tickets buildable.order).mpr fun participant member =>
      (owned participant member).1 ▸ (owned participant member).2
  participantRoot := by
    rw [participantLeavesOf_tickets buildable.order owned]
    rfl
  openingBalanceRoot := rfl
  controllerRoot := rfl
  profileRoot := rfl

end Built

/-! ## What a descriptor commits -/

/-- What is committed of a seat. -/
structure CommittedSeat where
  owner : Address
  arenaAccount : Address
  gameTemplateId : Bytes32
  matchmakingPool : Bytes32
  buyIn : Nat
  controllerHash : Bytes32
  profileConfigHash : Bytes32
  rated : Bool
  nonce : Nat
deriving DecidableEq, Repr

def committedSeat (world : World) (ticket : SeatTicketV3) : CommittedSeat where
  owner := world.factory.ownerOf ticket.arenaAccount
  arenaAccount := ticket.arenaAccount
  gameTemplateId := ticket.gameTemplateId
  matchmakingPool := ticket.matchmakingPool
  buyIn := ticket.buyIn
  controllerHash := ticket.controllerHash
  profileConfigHash := ticket.profileConfigHash
  rated := ticket.rated
  nonce := ticket.nonce

/-- The values of a ticket fit the types of the call. -/
structure TicketFits (ticket : SeatTicketV3) : Prop where
  arenaAccount : ticket.arenaAccount < 2 ^ 160
  matchmakingPool : ticket.matchmakingPool < 2 ^ 256
  buyIn : ticket.buyIn < 2 ^ 256
  controllerHash : ticket.controllerHash < 2 ^ 256
  profileConfigHash : ticket.profileConfigHash < 2 ^ 256
  nonce : ticket.nonce < 2 ^ 256

def participantWords (deployment : Deployment) (world : World) (entry : SeatTicketV3 × Nat) :
    List Nat :=
  [ArenaVaultV2.domain deployment "MOZETTO_PARTICIPANT_LEAF_V1",
    world.factory.ownerOf entry.1.arenaAccount, entry.1.arenaAccount, entry.2,
    entry.1.buyIn, entry.1.controllerHash, entry.1.profileConfigHash,
    entry.1.matchmakingPool, boolWord entry.1.rated, entry.1.nonce]

/-- The bytes of a participant leaf. -/
def participantBytes (deployment : Deployment) (world : World) (entry : SeatTicketV3 × Nat) :
    Bytes :=
  abiEncode (participantWords deployment world entry)

/-- The bytes of an opening balance leaf. -/
def openingBytes (deployment : Deployment) (sessionId : Bytes32)
    (entry : SeatTicketV3 × Nat) : Bytes :=
  abiEncode
    [ArenaVaultV2.domain deployment "MOZETTO_OPENING_BALANCE_LEAF_V1",
      sessionId, entry.1.arenaAccount, entry.2, entry.1.buyIn]

theorem length_participantBytes (entry : SeatTicketV3 × Nat) :
    (participantBytes deployment world entry).length = 320 := by
  simp [participantBytes, participantWords, abiEncode]

theorem length_openingBytes (sessionId : Bytes32) (entry : SeatTicketV3 × Nat) :
    (openingBytes deployment sessionId entry).length = 160 := by
  simp [openingBytes, abiEncode]

/-- The pairs that are combined over hashed blocks. -/
def blockPairs (deployment : Deployment) (blocks : List Bytes) : List (Bytes32 × Bytes32) :=
  treePairs (parentWord deployment.keccak256)
    (padded 0 (blocks.map deployment.keccak256)) (depth blocks.length) 0

/-- What is hashed for the root over blocks. -/
def treeInputs (deployment : Deployment) (blocks : List Bytes) : List Bytes :=
  blocks ++ (blockPairs deployment blocks).map pairBytes

/-- What a seal hashes for its participants and their opening balances. -/
def sealInputs (deployment : Deployment) (world : World) (sessionId : Bytes32)
    (tickets : List SeatTicketV3) : List Bytes :=
  treeInputs deployment (tickets.zipIdx.map (participantBytes deployment world)) ++
    treeInputs deployment (tickets.zipIdx.map (openingBytes deployment sessionId))

/-- No two of the inputs have one hash. -/
def NoCollision (deployment : Deployment) (inputs : List Bytes) : Prop :=
  ∀ input ∈ inputs, ∀ input' ∈ inputs,
    deployment.keccak256 input = deployment.keccak256 input' → input = input'

instance (inputs : List Bytes) : Decidable (NoCollision deployment inputs) :=
  inferInstanceAs (Decidable (∀ _ ∈ _, _))

theorem NoCollision.of_injective (injective : Function.Injective deployment.keccak256)
    (inputs : List Bytes) : NoCollision deployment inputs := fun _ _ _ _ equal => injective equal

section Blocks

variable {inputs blocks blocks' : List Bytes}

theorem padded_block {index : Nat} (inside : index < blocks.length) :
    padded 0 (blocks.map deployment.keccak256) index = deployment.keccak256 blocks[index] := by
  rw [padded, List.getD_eq_getElem _ _ (by rwa [List.length_map]), List.getElem_map]

theorem padded_past {index : Nat} (past : blocks.length ≤ index) :
    padded 0 (blocks.map deployment.keccak256) index = 0 := by
  rw [padded, List.getD_eq_default]
  rwa [List.length_map]

theorem blockPairs_lt (typed : ∀ bytes, deployment.keccak256 bytes < 2 ^ 256)
    {words : Bytes32 × Bytes32} (member : words ∈ blockPairs deployment blocks) :
    words.1 < 2 ^ 256 ∧ words.2 < 2 ^ 256 := by
  apply treePairs_good (· < 2 ^ 256) (fun _ _ => typed _) _ member
  intro index
  by_cases inside : index < blocks.length
  · rw [padded_block inside]
    exact typed _
  · rw [padded_past (not_lt.mp inside)]
    norm_num

/-- The first block is no pair of the other tree. -/
theorem NoCollision.first_ne (free : NoCollision deployment inputs)
    (within : treeInputs deployment blocks ⊆ inputs)
    (within' : treeInputs deployment blocks' ⊆ inputs)
    (nonempty : blocks ≠ []) (wide : ∀ block ∈ blocks, block.length ≠ 64)
    {words : Bytes32 × Bytes32} (member : words ∈ blockPairs deployment blocks') :
    parentWord deployment.keccak256 words.1 words.2 ≠
      padded 0 (blocks.map deployment.keccak256) 0 := by
  have inside := List.length_pos_iff.mpr nonempty
  have first : blocks[0] ∈ blocks := List.getElem_mem inside
  rw [padded_block inside]
  intro equal
  have same : pairBytes words = blocks[0] :=
    free _ (within' (List.mem_append_right _ (List.mem_map_of_mem member))) _
      (within (List.mem_append_left _ first)) equal
  exact wide _ first (same ▸ length_pairBytes words)

theorem NoCollision.pairsApart (typed : ∀ bytes, deployment.keccak256 bytes < 2 ^ 256)
    (free : NoCollision deployment inputs) (within : treeInputs deployment blocks ⊆ inputs)
    (within' : treeInputs deployment blocks' ⊆ inputs) :
    PairsApart (parentWord deployment.keccak256) (padded 0 (blocks.map deployment.keccak256))
      (padded 0 (blocks'.map deployment.keccak256)) (depth blocks.length) 0
      (depth blocks'.length) 0 := by
  intro words member words' member' equal
  have same : pairBytes words = pairBytes words' :=
    free _ (within (List.mem_append_right _ (List.mem_map_of_mem member))) _
      (within' (List.mem_append_right _ (List.mem_map_of_mem member'))) equal
  have fits := blockPairs_lt typed member
  have fits' := blockPairs_lt typed member'
  have parts := word_pair_injective fits.1 fits'.1 fits.2 fits'.2 same
  exact Prod.ext parts.1 parts.2

/-- Trees of one root are of one height, with the same padded leaves. -/
theorem NoCollision.padded_eq (typed : ∀ bytes, deployment.keccak256 bytes < 2 ^ 256)
    (free : NoCollision deployment inputs) (within : treeInputs deployment blocks ⊆ inputs)
    (within' : treeInputs deployment blocks' ⊆ inputs)
    (nonempty : blocks ≠ []) (nonempty' : blocks' ≠ []) (wide : ∀ block ∈ blocks, block.length ≠ 64)
    (wide' : ∀ block ∈ blocks', block.length ≠ 64)
    (equal : treeRoot deployment.keccak256 (blocks.map deployment.keccak256) =
        treeRoot deployment.keccak256 (blocks'.map deployment.keccak256)) :
    depth blocks.length = depth blocks'.length ∧ ∀ index < 2 ^ depth blocks.length,
        padded 0 (blocks.map deployment.keccak256) index =
          padded 0 (blocks'.map deployment.keccak256) index := by
  have apart := free.pairsApart typed within within'
  rw [treeRoot, treeRoot, List.length_map, List.length_map] at equal
  have high :=
    height_eq_of_node_eq apart (fun words member => by
        rw [Nat.mul_zero]
        exact free.first_ne within within' nonempty wide member)
      (fun words member => by
        rw [Nat.mul_zero]
        exact free.first_ne within' within nonempty' wide' member)
      equal
  refine ⟨high, fun index below => ?_⟩
  rw [← high] at apart equal
  have same := leaf_eq_of_node_eq apart equal below
  rwa [Nat.mul_zero, Nat.zero_add] at same

end Blocks

end Mozetto.SessionSeal
