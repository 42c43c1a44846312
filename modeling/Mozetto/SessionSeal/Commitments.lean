import Mozetto.Commitments.MerkleProofs
import Mozetto.Commitments.Merkle
import Mozetto.SessionSeal.SeatOrder

/-!
# The commitments of a session that is sealed

`buildSessionCommitments`: participant, opening and controller leaves and
their roots, the session identifier and the descriptor.  What `hashEnc`
encodes is refused where a value does not fit its ABI type; the commitments
are built exactly of input that fits, and are then given by the leaves and
roots of the vault.
-/

namespace Mozetto.SessionSeal

open Mozetto.Chain
open Mozetto.Commitments
open Mozetto.Library.Guarded

/-! ## Leaves and identifiers -/

/-- Policy and secrecy fields of a descriptor. -/
structure SealPolicy where
  dealerSecretRoot : Bytes32
  randomnessPolicyId : Bytes32
  settlementPolicyId : Bytes32

structure SealPrepareInput where
  chainId : Nat
  gameTemplateId : Bytes32
  participants : List SealParticipant
  seatOrder : Option (List Int)
  sessionNonce : Bytes32
  createdAt : Nat
  sealDeadline : Nat
  policy : SealPolicy

structure SessionCommitments where
  descriptor : SessionDescriptor
  sessionDescriptorHash : Bytes32
  participantLeaves : List Bytes32
  openingBalanceLeaves : List Bytes32
  controllerLeaves : List Bytes32
  profileLeaves : List Bytes32
  orderedTickets : List SeatTicketV3
  orderedSignatures : List Bytes
  orderedOwners : List Address

/-- What a participant leaf hashes. -/
structure ParticipantLeafFields where
  owner : Address
  arenaAccount : Address
  seat : Nat
  buyIn : Nat
  controllerHash : Bytes32
  profileHash : Bytes32
  ratingPool : Bytes32
  rated : Bool
  seatTicketNonce : Nat

/-- What an opening balance leaf hashes. -/
structure OpeningBalanceLeafFields where
  sessionId : Bytes32
  arenaAccount : Address
  seat : Nat
  openingBalance : Nat

section Encoding

variable (deployment : Deployment)

/-- ABI-encode values, each with the bits of its type, then hash. -/
def hashEnc (values : List (Nat × Nat)) : Except SealError Bytes32 :=
  if ∀ value ∈ values, value.2 < 2 ^ value.1 then
    .ok (deployment.keccak256 (abiEncode (values.map Prod.snd)))
  else .error .encoding

def domainTag (domainString : String) : Bytes32 := deployment.keccak256 (utf8 domainString)

def participantLeaf (fields : ParticipantLeafFields) :
    Except SealError Bytes32 :=
  hashEnc deployment
    [(256, domainTag deployment "MOZETTO_PARTICIPANT_LEAF_V1"),
      (160, fields.owner), (160, fields.arenaAccount), (8, fields.seat),
      (256, fields.buyIn), (256, fields.controllerHash),
      (256, fields.profileHash), (256, fields.ratingPool),
      (1, boolWord fields.rated), (256, fields.seatTicketNonce)]

def openingBalanceLeaf (fields : OpeningBalanceLeafFields) :
    Except SealError Bytes32 :=
  hashEnc deployment
    [(256, domainTag deployment "MOZETTO_OPENING_BALANCE_LEAF_V1"),
      (256, fields.sessionId), (160, fields.arenaAccount), (8, fields.seat),
      (256, fields.openingBalance)]

def controllerLeaf (seat : Nat) (controllerHash : Bytes32) :
    Except SealError Bytes32 :=
  hashEnc deployment
    [(256, domainTag deployment "MOZETTO_CONTROLLER_LEAF_V1"), (8, seat), (256, controllerHash)]

def deriveSessionId (chainId : Nat) (gameTemplateId participantRoot sessionNonce : Bytes32)
    (createdAt : Nat) : Except SealError Bytes32 :=
  hashEnc deployment
    [(256, domainTag deployment "MOZETTO_SESSION_ID_V1"), (256, chainId),
      (256, gameTemplateId), (256, participantRoot), (256, sessionNonce), (64, createdAt)]

def sessionDescriptorHash (descriptor : SessionDescriptor) :
    Except SealError Bytes32 :=
  hashEnc deployment
    [(256, domainTag deployment "MOZETTO_SESSION_V2"),
      (256, descriptor.chainId), (16, descriptor.protocolVersion),
      (256, descriptor.sessionId), (256, descriptor.gameTemplateId),
      (256, descriptor.participantRoot), (256, descriptor.openingBalanceRoot),
      (256, descriptor.controllerRoot), (256, descriptor.profileRoot),
      (256, descriptor.dealerSecretRoot), (256, descriptor.randomnessPolicyId),
      (256, descriptor.settlementPolicyId), (64, descriptor.createdAt),
      (64, descriptor.sealDeadline), (256, descriptor.sessionNonce)]

/-- The root of `merkleRoot`. -/
def merkleRoot (leaves : List Bytes32) : Bytes32 :=
  WordTree.merkleRoot (parentWord deployment.keccak256) leaves

/-! ## Building the commitments -/

def getAddress (address : Address) : Except SealError Address :=
  if address < 2 ^ 160 then .ok address else .error (.invalidAddress address)

def normalizeTicket (ticket : SeatTicketV3) : Except SealError SeatTicketV3 := do
  let arenaAccount ← getAddress ticket.arenaAccount
  return { ticket with arenaAccount }

def participantLeafOf (entry : SeatedParticipant × SeatTicketV3) :
    Except SealError Bytes32 := do
  let (participant, ticket) := entry
  let owner ← getAddress participant.owner
  participantLeaf deployment
    { owner
      arenaAccount := ticket.arenaAccount
      seat := participant.seat
      buyIn := ticket.buyIn
      controllerHash := ticket.controllerHash
      profileHash := ticket.profileConfigHash
      ratingPool := ticket.matchmakingPool
      rated := ticket.rated
      seatTicketNonce := ticket.nonce }

def openingBalanceLeafOf (sessionId : Bytes32) (entry : SeatTicketV3 × Nat) :
    Except SealError Bytes32 :=
  openingBalanceLeaf deployment
    { sessionId
      arenaAccount := entry.1.arenaAccount
      seat := entry.2
      openingBalance := entry.1.buyIn }

def controllerLeafOf (entry : SeatTicketV3 × Nat) :
    Except SealError Bytes32 :=
  controllerLeaf deployment entry.2 entry.1.controllerHash

def buildSessionCommitments (input : SealPrepareInput) :
    Except SealError SessionCommitments := do
  let seated ← applySeatOrder input.participants input.seatOrder
  assertHomogeneousTickets seated input.gameTemplateId
  let orderedTickets ← seated.mapM fun participant => normalizeTicket participant.ticket
  let participantLeaves ← (seated.zip orderedTickets).mapM (participantLeafOf deployment)
  let participantRoot := merkleRoot deployment participantLeaves
  let sessionId ← deriveSessionId deployment input.chainId input.gameTemplateId
      participantRoot input.sessionNonce input.createdAt
  let openingBalanceLeaves ← orderedTickets.zipIdx.mapM (openingBalanceLeafOf deployment sessionId)
  let openingBalanceRoot := merkleRoot deployment openingBalanceLeaves
  let controllerLeaves ← orderedTickets.zipIdx.mapM (controllerLeafOf deployment)
  let controllerRoot := merkleRoot deployment controllerLeaves
  let profileLeaves := orderedTickets.map SeatTicketV3.profileConfigHash
  let profileRoot := merkleRoot deployment profileLeaves
  let descriptor :=
    { chainId := input.chainId
      protocolVersion := 3
      sessionId
      gameTemplateId := input.gameTemplateId
      participantRoot
      openingBalanceRoot
      controllerRoot
      profileRoot
      dealerSecretRoot := input.policy.dealerSecretRoot
      randomnessPolicyId := input.policy.randomnessPolicyId
      settlementPolicyId := input.policy.settlementPolicyId
      createdAt := input.createdAt
      sealDeadline := input.sealDeadline
      sessionNonce := input.sessionNonce }
  let descriptorHash ← sessionDescriptorHash deployment descriptor
  let orderedOwners ← seated.mapM fun participant => getAddress participant.owner
  return {
    descriptor
    sessionDescriptorHash := descriptorHash
    participantLeaves
    openingBalanceLeaves
    controllerLeaves
    profileLeaves
    orderedTickets
    orderedSignatures := seated.map fun participant => participant.signature
    orderedOwners }

end Encoding

variable {deployment : Deployment}

/-! ## What is encoded -/

theorem accepted_eq_ok_iff {ε α : Type} {accepted : Prop} [Decidable accepted] {value result : α}
    {err : ε} : (if accepted then .ok value else .error err : Except ε α) = .ok result ↔
    accepted ∧ value = result := by
  split
  case isTrue holds =>
    rw [Except.ok.injEq]
    exact ⟨fun equal => ⟨holds, equal⟩, fun both => both.2⟩
  case isFalse fails =>
    constructor
    · intro equal
      cases equal
    · intro both
      exact absurd both.1 fails

theorem hashEnc_eq_ok_iff {values : List (Nat × Nat)} {hash : Bytes32} :
    hashEnc deployment values = .ok hash ↔ (∀ value ∈ values, value.2 < 2 ^ value.1) ∧
        deployment.keccak256 (abiEncode (values.map Prod.snd)) = hash := accepted_eq_ok_iff

theorem getAddress_eq_ok_iff {address result : Address} :
    getAddress address = .ok result ↔ address < 2 ^ 160 ∧ address = result := accepted_eq_ok_iff

theorem normalizeTicket_eq_ok_iff {ticket result : SeatTicketV3} :
    normalizeTicket ticket = .ok result ↔ ticket.arenaAccount < 2 ^ 160 ∧ ticket = result := by
  rw [normalizeTicket, bind_eq_ok_iff]
  simp only [getAddress_eq_ok_iff, pure_eq_ok_iff]
  constructor
  · rintro ⟨account, ⟨fits, rfl⟩, rfl⟩
    exact ⟨fits, rfl⟩
  · rintro ⟨fits, rfl⟩
    exact ⟨_, ⟨fits, rfl⟩, rfl⟩

/-- A mapped list is returned where every item is accepted. -/
theorem mapM_eq_ok_iff {ε α β : Type} {step : α → Except ε β} {accepts : α → Prop} {value : α → β}
    {items : List α} {results : List β}
    (spec : ∀ item ∈ items, ∀ result, step item = .ok result ↔ accepts item ∧ value item = result) :
    items.mapM step = .ok results ↔ (∀ item ∈ items, accepts item) ∧ items.map value = results := by
  induction items generalizing results with
  | nil => simp
  | cons item rest induction =>
    have onward {results : List β} :=
      @induction results fun other member =>
        spec other (List.mem_cons_of_mem _ member)
    simp only [List.mapM_cons, bind_eq_ok_iff, pure_eq_ok_iff,
      spec item List.mem_cons_self, onward, List.forall_mem_cons, List.map_cons]
    constructor
    · rintro ⟨first, ⟨accepted, rfl⟩, others, ⟨accepts_rest, rfl⟩, rfl⟩
      exact ⟨⟨accepted, accepts_rest⟩, rfl⟩
    · rintro ⟨⟨accepted, accepts_rest⟩, rfl⟩
      exact ⟨_, ⟨accepted, rfl⟩, _, ⟨accepts_rest, rfl⟩, rfl⟩

/-- The values of a participant fit the types of its leaves. -/
structure Fits (participant : SealParticipant) : Prop where
  owner : participant.owner < 2 ^ 160
  arenaAccount : participant.ticket.arenaAccount < 2 ^ 160
  buyIn : participant.ticket.buyIn < 2 ^ 256
  controllerHash : participant.ticket.controllerHash < 2 ^ 256
  profileConfigHash : participant.ticket.profileConfigHash < 2 ^ 256
  matchmakingPool : participant.ticket.matchmakingPool < 2 ^ 256
  nonce : participant.ticket.nonce < 2 ^ 256

theorem boolWord_lt (value : Bool) : boolWord value < 2 ^ 1 := by
  cases value <;> decide

theorem domainTag_lt (typed : ∀ bytes, deployment.keccak256 bytes < 2 ^ 256)
    (domainString : String) : domainTag deployment domainString < 2 ^ 256 := typed _

theorem participantLeafOf_eq_ok_iff (typed : ∀ bytes, deployment.keccak256 bytes < 2 ^ 256)
    {entry : SeatedParticipant × SeatTicketV3} {hash : Bytes32} (own : entry.1.ticket = entry.2) :
    participantLeafOf deployment entry = .ok hash ↔
      (Fits entry.1.toSealParticipant ∧ entry.1.seat < 2 ^ 8) ∧
        ArenaVaultV2.participantLeaf deployment entry.1.owner entry.1.seat entry.1.ticket =
          hash := by
  rcases entry with ⟨participant, ticket⟩
  have given : participant.ticket = ticket := own
  subst given
  rw [participantLeafOf, bind_eq_ok_iff]
  simp only [getAddress_eq_ok_iff, participantLeaf, hashEnc_eq_ok_iff,
    List.forall_mem_cons, List.map_cons, List.map_nil, List.not_mem_nil,
    false_implies, implies_true, and_true]
  constructor
  · rintro ⟨owner, ⟨fits, rfl⟩, ⟨-, -, account, seat, buyIn, controller,
      profile, pool, -, nonce⟩, rfl⟩
    exact ⟨⟨⟨fits, account, buyIn, controller, profile, pool, nonce⟩, seat⟩, rfl⟩
  · rintro ⟨⟨fits, seat⟩, rfl⟩
    exact ⟨_, ⟨fits.owner, rfl⟩,
        ⟨domainTag_lt typed _, fits.owner, fits.arenaAccount, seat, fits.buyIn,
          fits.controllerHash, fits.profileConfigHash, fits.matchmakingPool,
          boolWord_lt _, fits.nonce⟩, rfl⟩

theorem openingBalanceLeafOf_eq_ok_iff (typed : ∀ bytes, deployment.keccak256 bytes < 2 ^ 256)
    {sessionId hash : Bytes32} {entry : SeatTicketV3 × Nat} (fits : sessionId < 2 ^ 256) :
    openingBalanceLeafOf deployment sessionId entry = .ok hash ↔
      (entry.1.arenaAccount < 2 ^ 160 ∧ entry.2 < 2 ^ 8 ∧ entry.1.buyIn < 2 ^ 256) ∧
        ArenaVaultV2.openingLeaf deployment sessionId entry.2 entry.1 =
          hash := by
  rw [openingBalanceLeafOf, openingBalanceLeaf, hashEnc_eq_ok_iff]
  apply and_congr_left'
  simp only [List.forall_mem_cons, List.not_mem_nil, false_implies, implies_true, and_true]
  exact ⟨fun all => all.2.2, fun given => ⟨domainTag_lt typed _, fits, given⟩⟩

theorem controllerLeafOf_eq_ok_iff (typed : ∀ bytes, deployment.keccak256 bytes < 2 ^ 256)
    {hash : Bytes32} {entry : SeatTicketV3 × Nat} : controllerLeafOf deployment entry = .ok hash ↔
    (entry.2 < 2 ^ 8 ∧ entry.1.controllerHash < 2 ^ 256) ∧
      ArenaVaultV2.controllerLeaf deployment entry.2 entry.1 = hash := by
  rw [controllerLeafOf, controllerLeaf, hashEnc_eq_ok_iff]
  apply and_congr_left'
  simp only [List.forall_mem_cons, List.not_mem_nil, false_implies, implies_true, and_true]
  exact ⟨fun all => all.2, fun given => ⟨domainTag_lt typed _, given⟩⟩

theorem merkleRoot_eq_treeRoot (leaves : List Bytes32) :
    merkleRoot deployment leaves = treeRoot deployment.keccak256 leaves := WordTree.merkleRoot_eq

/-- The root over words is a word. -/
theorem treeRoot_lt (typed : ∀ bytes, deployment.keccak256 bytes < 2 ^ 256)
    {leaves : List Bytes32} (fits : ∀ leaf ∈ leaves, leaf < 2 ^ 256) :
    treeRoot deployment.keccak256 leaves < 2 ^ 256 := by
  apply Library.MerkleTree.node_good (· < 2 ^ 256) (fun _ _ => typed _)
  intro index
  rw [Library.MerkleTree.padded, List.getD_eq_getElem?_getD]
  cases given : leaves[index]? with
  | none => norm_num
  | some leaf => exact fits leaf (List.mem_of_getElem? given)

/-! ## What is built -/

namespace SealPrepareInput

variable (deployment : Deployment) (input : SealPrepareInput)

/-- The participants by ascending seat. -/
def seated : List SeatedParticipant :=
  seatedBy input.participants (orderOf input.participants input.seatOrder)

def tickets : List SeatTicketV3 := input.seated.map fun participant => participant.ticket

def participantLeaves : List Bytes32 :=
  input.seated.map fun participant =>
    ArenaVaultV2.participantLeaf deployment participant.owner participant.seat participant.ticket

def participantRoot : Bytes32 := treeRoot deployment.keccak256 (input.participantLeaves deployment)

def sessionId : Bytes32 :=
  deployment.keccak256 (abiEncode
      [domainTag deployment "MOZETTO_SESSION_ID_V1", input.chainId,
        input.gameTemplateId, input.participantRoot deployment,
        input.sessionNonce, input.createdAt])

def openingBalanceLeaves : List Bytes32 :=
  input.tickets.zipIdx.map fun entry =>
    ArenaVaultV2.openingLeaf deployment (input.sessionId deployment) entry.2 entry.1

def controllerLeaves : List Bytes32 :=
  input.tickets.zipIdx.map fun entry =>
    ArenaVaultV2.controllerLeaf deployment entry.2 entry.1

def profileLeaves : List Bytes32 := input.tickets.map SeatTicketV3.profileConfigHash

def descriptor : SessionDescriptor where
  chainId := input.chainId
  protocolVersion := 3
  sessionId := input.sessionId deployment
  gameTemplateId := input.gameTemplateId
  participantRoot := input.participantRoot deployment
  openingBalanceRoot := treeRoot deployment.keccak256 (input.openingBalanceLeaves deployment)
  controllerRoot := treeRoot deployment.keccak256 (input.controllerLeaves deployment)
  profileRoot := treeRoot deployment.keccak256 input.profileLeaves
  dealerSecretRoot := input.policy.dealerSecretRoot
  randomnessPolicyId := input.policy.randomnessPolicyId
  settlementPolicyId := input.policy.settlementPolicyId
  createdAt := input.createdAt
  sealDeadline := input.sealDeadline
  sessionNonce := input.sessionNonce

/-- The commitments, by the leaves and the tree of the vault. -/
def commitments : SessionCommitments where
  descriptor := input.descriptor deployment
  sessionDescriptorHash :=
    ArenaVaultV2.sessionDescriptorHash deployment (input.descriptor deployment)
  participantLeaves := input.participantLeaves deployment
  openingBalanceLeaves := input.openingBalanceLeaves deployment
  controllerLeaves := input.controllerLeaves deployment
  profileLeaves := input.profileLeaves
  orderedTickets := input.tickets
  orderedSignatures := input.seated.map fun participant => participant.signature
  orderedOwners := input.seated.map fun participant => participant.owner

/-- Input that the package accepts. -/
structure Buildable : Prop where
  nonempty : input.participants ≠ []
  few : input.participants.length ≤ 256
  order : IsSeatOrder (orderOf input.participants input.seatOrder) input.participants.length
  templates : ∀ participant ∈ input.participants,
      participant.ticket.gameTemplateId = input.gameTemplateId
  accounts : (input.participants.map fun participant => participant.ticket.arenaAccount).Nodup
  fits : ∀ participant ∈ input.participants, Fits participant
  chainId : input.chainId < 2 ^ 256
  gameTemplateId : input.gameTemplateId < 2 ^ 256
  sessionNonce : input.sessionNonce < 2 ^ 256
  createdAt : input.createdAt < 2 ^ 64
  sealDeadline : input.sealDeadline < 2 ^ 64
  dealerSecretRoot : input.policy.dealerSecretRoot < 2 ^ 256
  randomnessPolicyId : input.policy.randomnessPolicyId < 2 ^ 256
  settlementPolicyId : input.policy.settlementPolicyId < 2 ^ 256

variable {deployment input}

theorem forall_mem_seated
    (order : IsSeatOrder (orderOf input.participants input.seatOrder) input.participants.length)
    (holds : SealParticipant → Prop) :
    (∀ participant ∈ input.seated, holds participant.toSealParticipant) ↔
      ∀ participant ∈ input.participants, holds participant := by
  have permuted := toSealParticipant_seatedBy_perm order
  constructor
  · intro all participant member
    rcases List.mem_map.mp (permuted.mem_iff.mpr member) with ⟨sitting, given, rfl⟩
    exact all sitting given
  · intro all participant member
    exact all _ (permuted.mem_iff.mp (List.mem_map_of_mem member))

/-- The seats fit a byte exactly up to 256 participants. -/
theorem seats_lt_iff
    (order : IsSeatOrder (orderOf input.participants input.seatOrder) input.participants.length) :
    (∀ participant ∈ input.seated, participant.seat < 2 ^ 8) ↔ input.participants.length ≤ 256 := by
  have seats := map_seat_seatedBy order
  constructor
  · intro small
    by_contra many
    have last : 256 ∈ List.range input.participants.length := List.mem_range.mpr (not_le.mp many)
    rw [← seats] at last
    rcases List.mem_map.mp last with ⟨participant, member, there⟩
    have below := small participant member
    omega
  · intro few participant member
    have given : participant.seat ∈ List.range input.participants.length := by
      rw [← seats]
      exact List.mem_map_of_mem member
    exact lt_of_lt_of_le (List.mem_range.mp given) few

theorem length_tickets
    (order : IsSeatOrder (orderOf input.participants input.seatOrder) input.participants.length) :
    input.tickets.length = input.participants.length := by
  rw [tickets, List.length_map, seated, length_seatedBy order]

theorem zip_tickets : input.seated.zip input.tickets =
    input.seated.map fun participant => (participant, participant.ticket) := by
  rw [tickets, List.map_prod_left_eq_zip]

theorem forall_mem_zipIdx_tickets {holds : SeatTicketV3 → Prop} {bound : Nat}
    (tickets : ∀ ticket ∈ input.tickets, holds ticket) (few : input.tickets.length ≤ bound) :
    ∀ entry ∈ input.tickets.zipIdx, holds entry.1 ∧ entry.2 < bound := by
  rintro ⟨ticket, seat⟩ member
  have found := List.mk_mem_zipIdx_iff_getElem?.mp member
  rcases List.getElem?_eq_some_iff.mp found with ⟨inside, there⟩
  exact ⟨tickets ticket (there ▸ List.getElem_mem inside), by omega⟩

/-! ## One step after the other -/

theorem assertHomogeneousTickets_eq_ok_iff
    (order : IsSeatOrder (orderOf input.participants input.seatOrder) input.participants.length)
    {done : Unit} :
    assertHomogeneousTickets input.seated input.gameTemplateId = .ok done ↔
      (∀ participant ∈ input.participants,
        participant.ticket.gameTemplateId = input.gameTemplateId) ∧ (input.participants.map
          fun participant => participant.ticket.arenaAccount).Nodup := by
  have accounts :=
    (toSealParticipant_seatedBy_perm order).map fun participant => participant.ticket.arenaAccount
  rw [List.map_map] at accounts
  rw [assertHomogeneousTickets, checkTickets_eq_ok_iff, ← accounts.nodup_iff,
    forall_mem_seated order (fun participant =>
      participant.ticket.gameTemplateId = input.gameTemplateId)]
  simp only [List.not_mem_nil, not_false_eq_true, implies_true, and_true]
  rfl

theorem normalizeTickets_eq_ok_iff
    (order : IsSeatOrder (orderOf input.participants input.seatOrder) input.participants.length)
    {tickets : List SeatTicketV3} :
    (input.seated.mapM fun participant => normalizeTicket participant.ticket) = .ok tickets ↔
      (∀ participant ∈ input.participants, participant.ticket.arenaAccount < 2 ^ 160) ∧
        input.tickets = tickets := by
  rw [mapM_eq_ok_iff fun participant _ result => normalizeTicket_eq_ok_iff]
  apply and_congr_left'
  exact forall_mem_seated order (fun participant => participant.ticket.arenaAccount < 2 ^ 160)

theorem getOwners_eq_ok_iff
    (order : IsSeatOrder (orderOf input.participants input.seatOrder) input.participants.length)
    {owners : List Address} :
    (input.seated.mapM fun participant => getAddress participant.owner) = .ok owners ↔
      (∀ participant ∈ input.participants, participant.owner < 2 ^ 160) ∧
        (input.seated.map fun participant => participant.owner) = owners := by
  rw [mapM_eq_ok_iff fun participant _ result => getAddress_eq_ok_iff]
  apply and_congr_left'
  exact forall_mem_seated order (fun participant => participant.owner < 2 ^ 160)

theorem participantLeaves_eq_ok_iff (typed : ∀ bytes, deployment.keccak256 bytes < 2 ^ 256)
    (order : IsSeatOrder (orderOf input.participants input.seatOrder) input.participants.length)
    {leaves : List Bytes32} :
    (input.seated.zip input.tickets).mapM (participantLeafOf deployment) = .ok leaves ↔
      ((∀ participant ∈ input.participants, Fits participant) ∧ input.participants.length ≤ 256) ∧
        input.participantLeaves deployment = leaves := by
  have own : ∀ entry ∈ input.seated.zip input.tickets, entry.1.ticket = entry.2 := by
    intro entry member
    rw [zip_tickets] at member
    rcases List.mem_map.mp member with ⟨participant, -, rfl⟩
    rfl
  rw [mapM_eq_ok_iff fun entry member _ =>
    participantLeafOf_eq_ok_iff typed (own entry member),
    zip_tickets, List.forall_mem_map, List.map_map]
  apply and_congr_left'
  rw [← seats_lt_iff order, ← forall_mem_seated order Fits, ← forall₂_and]

theorem deriveSessionId_eq_ok_iff (typed : ∀ bytes, deployment.keccak256 bytes < 2 ^ 256)
    {sessionId : Bytes32} : deriveSessionId deployment input.chainId input.gameTemplateId
      (input.participantRoot deployment) input.sessionNonce input.createdAt = .ok sessionId ↔
    (input.chainId < 2 ^ 256 ∧ input.gameTemplateId < 2 ^ 256 ∧
        input.sessionNonce < 2 ^ 256 ∧ input.createdAt < 2 ^ 64) ∧
      input.sessionId deployment = sessionId := by
  have root : input.participantRoot deployment < 2 ^ 256 := by
    apply treeRoot_lt typed
    rw [participantLeaves, List.forall_mem_map]
    exact fun participant _ => typed _
  rw [deriveSessionId, hashEnc_eq_ok_iff]
  apply and_congr_left'
  simp only [List.forall_mem_cons, List.not_mem_nil, false_implies, implies_true, and_true]
  exact ⟨fun all => ⟨all.2.1, all.2.2.1, all.2.2.2.2⟩, fun given =>
        ⟨domainTag_lt typed _, given.1, given.2.1, root, given.2.2⟩⟩

theorem forall_mem_tickets
    (order : IsSeatOrder (orderOf input.participants input.seatOrder) input.participants.length)
    {holds : SeatTicketV3 → Prop} :
    (∀ ticket ∈ input.tickets, holds ticket) ↔
      ∀ participant ∈ input.participants, holds participant.ticket := by
  rw [tickets, List.forall_mem_map]
  exact forall_mem_seated order fun participant => holds participant.ticket

/-- Where the participants fit, so do the leaves of their tickets. -/
theorem openingBalanceLeaves_eq_ok (typed : ∀ bytes, deployment.keccak256 bytes < 2 ^ 256)
    (order : IsSeatOrder (orderOf input.participants input.seatOrder) input.participants.length)
    (fits : ∀ participant ∈ input.participants, Fits participant)
    (few : input.participants.length ≤ 256) :
    input.tickets.zipIdx.mapM (openingBalanceLeafOf deployment (input.sessionId deployment)) =
      .ok (input.openingBalanceLeaves deployment) := by
  have each : ∀ ticket ∈ input.tickets, ticket.arenaAccount < 2 ^ 160 ∧ ticket.buyIn < 2 ^ 256 :=
    (forall_mem_tickets order).mpr fun participant member =>
      ⟨(fits participant member).arenaAccount, (fits participant member).buyIn⟩
  have entries := forall_mem_zipIdx_tickets each ((length_tickets order).trans_le few)
  have sessionId_lt : input.sessionId deployment < 2 ^ 256 := typed _
  rw [mapM_eq_ok_iff fun entry _ _ =>
    openingBalanceLeafOf_eq_ok_iff typed sessionId_lt]
  exact ⟨fun entry member =>
    ⟨(entries entry member).1.1, (entries entry member).2, (entries entry member).1.2⟩, rfl⟩

theorem controllerLeaves_eq_ok (typed : ∀ bytes, deployment.keccak256 bytes < 2 ^ 256)
    (order : IsSeatOrder (orderOf input.participants input.seatOrder) input.participants.length)
    (fits : ∀ participant ∈ input.participants, Fits participant)
    (few : input.participants.length ≤ 256) :
    input.tickets.zipIdx.mapM (controllerLeafOf deployment) =
      .ok (input.controllerLeaves deployment) := by
  have each : ∀ ticket ∈ input.tickets, ticket.controllerHash < 2 ^ 256 :=
    (forall_mem_tickets order).mpr fun participant member =>
      (fits participant member).controllerHash
  have entries := forall_mem_zipIdx_tickets each ((length_tickets order).trans_le few)
  rw [mapM_eq_ok_iff fun entry _ _ => controllerLeafOf_eq_ok_iff typed]
  exact ⟨fun entry member => ⟨(entries entry member).2, (entries entry member).1⟩, rfl⟩

theorem sessionDescriptorHash_eq_ok_iff (typed : ∀ bytes, deployment.keccak256 bytes < 2 ^ 256)
    (order : IsSeatOrder (orderOf input.participants input.seatOrder) input.participants.length)
    (fits : ∀ participant ∈ input.participants, Fits participant)
    {hash : Bytes32} :
    sessionDescriptorHash deployment (input.descriptor deployment) = .ok hash ↔
      (input.chainId < 2 ^ 256 ∧ input.gameTemplateId < 2 ^ 256 ∧
          input.policy.dealerSecretRoot < 2 ^ 256 ∧ input.policy.randomnessPolicyId < 2 ^ 256 ∧
          input.policy.settlementPolicyId < 2 ^ 256 ∧
          input.createdAt < 2 ^ 64 ∧ input.sealDeadline < 2 ^ 64 ∧ input.sessionNonce < 2 ^ 256) ∧
        ArenaVaultV2.sessionDescriptorHash deployment (input.descriptor deployment) =
          hash := by
  have participantRoot : (input.descriptor deployment).participantRoot < 2 ^ 256 := by
    apply treeRoot_lt typed
    rw [participantLeaves, List.forall_mem_map]
    exact fun participant _ => typed _
  have openingRoot : (input.descriptor deployment).openingBalanceRoot < 2 ^ 256 := by
    apply treeRoot_lt typed
    rw [openingBalanceLeaves, List.forall_mem_map]
    exact fun entry _ => typed _
  have controllerRoot : (input.descriptor deployment).controllerRoot < 2 ^ 256 := by
    apply treeRoot_lt typed
    rw [controllerLeaves, List.forall_mem_map]
    exact fun entry _ => typed _
  have profileRoot : (input.descriptor deployment).profileRoot < 2 ^ 256 := by
    apply treeRoot_lt typed
    rw [profileLeaves, List.forall_mem_map]
    exact (forall_mem_tickets order).mpr fun participant member =>
      (fits participant member).profileConfigHash
  rw [sessionDescriptorHash, hashEnc_eq_ok_iff]
  apply and_congr_left'
  simp only [List.forall_mem_cons, List.not_mem_nil, false_implies, implies_true, and_true]
  constructor
  · rintro ⟨-, chain, -, -, template, -, -, -, -, dealer, randomness,
      settlement, created, deadline, nonce⟩
    exact ⟨chain, template, dealer, randomness, settlement, created, deadline, nonce⟩
  · rintro ⟨chain, template, dealer, randomness, settlement, created, deadline, nonce⟩
    have version : 3 < 2 ^ 16 := by decide
    exact ⟨domainTag_lt typed _, chain, version, typed _, template,
        participantRoot, openingRoot, controllerRoot, profileRoot, dealer,
        randomness, settlement, created, deadline, nonce⟩

end SealPrepareInput

open SealPrepareInput in
/--
Commitments are built exactly of input that fits, and are those of the leaves
and the tree of the vault.
-/
theorem buildSessionCommitments_eq_ok_iff (typed : ∀ bytes, deployment.keccak256 bytes < 2 ^ 256)
    {input : SealPrepareInput} {built : SessionCommitments} :
    buildSessionCommitments deployment input = .ok built ↔
      input.Buildable ∧ input.commitments deployment = built := by
  constructor
  · intro run
    simp only [buildSessionCommitments, bind_eq_ok_iff, pure_eq_ok_iff,
      applySeatOrder_eq_ok_iff, merkleRoot_eq_treeRoot] at run
    rcases run with ⟨_, ⟨nonempty, order, rfl⟩, _, homogeneous, _, normal, _, leaves, _,
        identifier, _, opening, _, controllers, _, hash, _, owners, rfl⟩
    rcases (assertHomogeneousTickets_eq_ok_iff order).mp homogeneous with ⟨templates, accounts⟩
    rcases (normalizeTickets_eq_ok_iff order).mp normal with ⟨-, rfl⟩
    rcases (participantLeaves_eq_ok_iff typed order).mp leaves with ⟨⟨fits, few⟩, rfl⟩
    rcases (deriveSessionId_eq_ok_iff typed).mp identifier with
      ⟨⟨chain, template, nonce, created⟩, rfl⟩
    cases opening.symm.trans (openingBalanceLeaves_eq_ok typed order fits few)
    cases controllers.symm.trans (controllerLeaves_eq_ok typed order fits few)
    rcases (sessionDescriptorHash_eq_ok_iff typed order fits).mp hash with
      ⟨⟨-, -, dealer, randomness, settlement, -, deadline, -⟩, rfl⟩
    rcases (getOwners_eq_ok_iff order).mp owners with ⟨-, rfl⟩
    exact ⟨⟨nonempty, few, order, templates, accounts, fits, chain, template, nonce,
        created, deadline, dealer, randomness, settlement⟩, rfl⟩
  · rintro ⟨buildable, rfl⟩
    have order := buildable.order
    have fits := buildable.fits
    simp only [buildSessionCommitments, bind_eq_ok_iff, pure_eq_ok_iff,
      applySeatOrder_eq_ok_iff, merkleRoot_eq_treeRoot]
    exact ⟨_, ⟨buildable.nonempty, order, rfl⟩, ⟨⟩, (assertHomogeneousTickets_eq_ok_iff order).mpr
          ⟨buildable.templates, buildable.accounts⟩, _, (normalizeTickets_eq_ok_iff order).mpr
          ⟨fun participant member => (fits participant member).arenaAccount, rfl⟩, _,
        (participantLeaves_eq_ok_iff typed order).mpr ⟨⟨fits, buildable.few⟩, rfl⟩, _,
        (deriveSessionId_eq_ok_iff typed).mpr ⟨⟨buildable.chainId, buildable.gameTemplateId,
            buildable.sessionNonce, buildable.createdAt⟩, rfl⟩,
        _, openingBalanceLeaves_eq_ok typed order fits buildable.few,
        _, controllerLeaves_eq_ok typed order fits buildable.few, _,
        (sessionDescriptorHash_eq_ok_iff typed order fits).mpr
          ⟨⟨buildable.chainId, buildable.gameTemplateId,
            buildable.dealerSecretRoot, buildable.randomnessPolicyId,
            buildable.settlementPolicyId, buildable.createdAt,
            buildable.sealDeadline, buildable.sessionNonce⟩, rfl⟩, _,
        (getOwners_eq_ok_iff order).mpr
          ⟨fun participant member => (fits participant member).owner, rfl⟩, rfl⟩

end Mozetto.SessionSeal
