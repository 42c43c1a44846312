import Mozetto.Chain.Protocol
import Mozetto.Commitments.MerkleProofs
import Mozetto.SessionSeal.VaultSeal

/-!
# One seal off chain and on chain

The two directions together.  What `buildSessionCommitments` returns passes
every check of the vault with the tickets in seat order; and tickets that pass
with one descriptor agree in number, order and every committed field, where
`keccak256` has no collision among what the two lists hash.  A list that is
shorter than another is told from it by two of its trees: past its end both
would need a leaf whose hash is zero, and the two leaves differ in length.
-/

namespace Mozetto.SessionSeal

open Mozetto.Chain
open Mozetto.Commitments
open Mozetto.Library.Guarded
open Mozetto.Library.MerkleTree

variable {deployment : Deployment} {world world' : World}
variable {descriptor : SessionDescriptor}
variable {tickets tickets' : List SeatTicketV3} {inputs : List Bytes}

/-! ## Two lists under one descriptor -/

/-- The blocks of the participant leaves. -/
abbrev participantBlocks (deployment : Deployment) (world : World) (tickets : List SeatTicketV3) :
    List Bytes :=
  tickets.zipIdx.map (participantBytes deployment world)

/-- The blocks of the opening balance leaves. -/
abbrev openingBlocks (deployment : Deployment) (sessionId : Bytes32)
    (tickets : List SeatTicketV3) : List Bytes :=
  tickets.zipIdx.map (openingBytes deployment sessionId)

theorem map_participantBlocks :
    (participantBlocks deployment world tickets).map deployment.keccak256 =
      participantLeavesOf deployment world tickets :=
  List.map_map

theorem map_openingBlocks (sessionId : Bytes32) :
    (openingBlocks deployment sessionId tickets).map deployment.keccak256 =
      openingLeavesOf deployment sessionId tickets :=
  List.map_map

theorem participantBlocks_wide :
    ∀ block ∈ participantBlocks deployment world tickets, block.length ≠ 64 := by
  rw [participantBlocks, List.forall_mem_map]
  intro entry member
  rw [length_participantBytes]
  decide

theorem openingBlocks_wide (sessionId : Bytes32) :
    ∀ block ∈ openingBlocks deployment sessionId tickets, block.length ≠ 64 := by
  rw [openingBlocks, List.forall_mem_map]
  intro entry member
  rw [length_openingBytes]
  decide

/-- Everything two seals hash is among the inputs. -/
structure Within (deployment : Deployment) (world : World) (sessionId : Bytes32)
    (tickets : List SeatTicketV3) (inputs : List Bytes) : Prop where
  participants : treeInputs deployment (participantBlocks deployment world tickets) ⊆ inputs
  openings : treeInputs deployment (openingBlocks deployment sessionId tickets) ⊆ inputs

theorem within_of_subset
    (included : sealInputs deployment world descriptor.sessionId tickets ⊆ inputs) :
    Within deployment world descriptor.sessionId tickets inputs :=
  ⟨fun _ member => included (List.mem_append_left _ member),
    fun _ member => included (List.mem_append_right _ member)⟩

/-- The padded participant leaves of two lists with one root are the same. -/
theorem participants_padded_eq (typed : ∀ bytes, deployment.keccak256 bytes < 2 ^ 256)
    (free : NoCollision deployment inputs)
    (within : Within deployment world descriptor.sessionId tickets inputs)
    (within' : Within deployment world' descriptor.sessionId tickets' inputs)
    (nonempty : tickets ≠ []) (nonempty' : tickets' ≠ [])
    (commits : Commits deployment world descriptor tickets)
    (commits' : Commits deployment world' descriptor tickets') :
    depth tickets.length = depth tickets'.length ∧ ∀ index < 2 ^ depth tickets.length,
        padded 0 (participantLeavesOf deployment world tickets) index =
          padded 0 (participantLeavesOf deployment world' tickets') index := by
  have equal := commits.participantRoot.trans commits'.participantRoot.symm
  rw [← map_participantBlocks, ← map_participantBlocks] at equal
  have same :=
    free.padded_eq typed within.participants within'.participants
      (by simpa [participantBlocks] using nonempty) (by simpa [participantBlocks] using nonempty')
      participantBlocks_wide participantBlocks_wide equal
  rwa [map_participantBlocks, map_participantBlocks, List.length_map,
    List.length_map, List.length_zipIdx, List.length_zipIdx] at same

theorem openings_padded_eq (typed : ∀ bytes, deployment.keccak256 bytes < 2 ^ 256)
    (free : NoCollision deployment inputs)
    (within : Within deployment world descriptor.sessionId tickets inputs)
    (within' : Within deployment world' descriptor.sessionId tickets' inputs)
    (nonempty : tickets ≠ []) (nonempty' : tickets' ≠ [])
    (commits : Commits deployment world descriptor tickets)
    (commits' : Commits deployment world' descriptor tickets') : ∀ index < 2 ^ depth tickets.length,
    padded 0 (openingLeavesOf deployment descriptor.sessionId tickets) index =
      padded 0 (openingLeavesOf deployment descriptor.sessionId tickets')
        index := by
  have equal := commits.openingBalanceRoot.trans commits'.openingBalanceRoot.symm
  rw [← map_openingBlocks, ← map_openingBlocks] at equal
  have same :=
    free.padded_eq typed within.openings within'.openings (by simpa [openingBlocks] using nonempty)
      (by simpa [openingBlocks] using nonempty') (openingBlocks_wide _) (openingBlocks_wide _) equal
  rw [map_openingBlocks, map_openingBlocks, List.length_map, List.length_zipIdx] at same
  exact same.2

/-- A leaf in place, as the hash of its bytes. -/
theorem padded_participant {index : Nat} (inside : index < tickets.length) :
    padded 0 (participantLeavesOf deployment world tickets) index = deployment.keccak256
        (participantBytes deployment world (tickets[index], index)) := by
  have given : index < (participantBlocks deployment world tickets).length := by
    rwa [List.length_map, List.length_zipIdx]
  rw [← map_participantBlocks, padded_block given, List.getElem_map,
    List.getElem_zipIdx, Nat.zero_add]

theorem padded_opening {sessionId : Bytes32} {index : Nat} (inside : index < tickets.length) :
    padded 0 (openingLeavesOf deployment sessionId tickets) index = deployment.keccak256
        (openingBytes deployment sessionId (tickets[index], index)) := by
  have given : index < (openingBlocks deployment sessionId tickets).length := by
    rwa [List.length_map, List.length_zipIdx]
  rw [← map_openingBlocks, padded_block given, List.getElem_map, List.getElem_zipIdx, Nat.zero_add]

theorem participantBytes_mem {sessionId : Bytes32}
    (within : Within deployment world sessionId tickets inputs)
    {index : Nat} (inside : index < tickets.length) :
    participantBytes deployment world (tickets[index], index) ∈ inputs := by
  apply within.participants
  apply List.mem_append_left
  apply List.mem_map_of_mem
  exact List.mk_mem_zipIdx_iff_getElem?.mpr (List.getElem?_eq_getElem inside)

theorem openingBytes_mem {sessionId : Bytes32}
    (within : Within deployment world sessionId tickets inputs)
    {index : Nat} (inside : index < tickets.length) :
    openingBytes deployment sessionId (tickets[index], index) ∈ inputs := by
  apply within.openings
  apply List.mem_append_left
  apply List.mem_map_of_mem
  exact List.mk_mem_zipIdx_iff_getElem?.mpr (List.getElem?_eq_getElem inside)

/-- A list that passes is not shorter than another that passes. -/
theorem Commits.length_le (typed : ∀ bytes, deployment.keccak256 bytes < 2 ^ 256)
    (free : NoCollision deployment inputs)
    (within : Within deployment world descriptor.sessionId tickets inputs)
    (within' : Within deployment world' descriptor.sessionId tickets' inputs)
    (nonempty : tickets ≠ []) (nonempty' : tickets' ≠ [])
    (commits : Commits deployment world descriptor tickets)
    (commits' : Commits deployment world' descriptor tickets') :
    tickets'.length ≤ tickets.length := by
  by_contra shorter
  rw [not_le] at shorter
  have participants :=
    participants_padded_eq typed free within within' nonempty nonempty' commits commits'
  have openings :=
    openings_padded_eq typed free within within' nonempty nonempty' commits commits'
  have below : tickets.length < 2 ^ depth tickets.length := by
    rw [participants.1]
    exact lt_of_lt_of_le shorter (length_le_two_pow_depth _)
  have participant := participants.2 _ below
  have opening := openings _ below
  have past : padded 0 (participantLeavesOf deployment world tickets) tickets.length = 0 := by
    rw [padded, List.getD_eq_default]
    simp [participantLeavesOf]
  have past' : padded 0 (openingLeavesOf deployment descriptor.sessionId tickets) tickets.length =
      0 := by
    rw [padded, List.getD_eq_default]
    simp [openingLeavesOf]
  rw [past, padded_participant shorter] at participant
  rw [past', padded_opening shorter] at opening
  have same :=
    free _ (participantBytes_mem within' shorter) _
      (openingBytes_mem within' shorter) (participant.symm.trans opening)
  have lengths := congrArg List.length same
  rw [length_participantBytes, length_openingBytes] at lengths
  cases lengths

/-- The words of a participant leaf are words. -/
theorem participantWords_lt (typed : ∀ bytes, deployment.keccak256 bytes < 2 ^ 256)
    (addresses : ∀ account, world.factory.ownerOf account < 2 ^ 160)
    {entry : SeatTicketV3 × Nat} (fits : TicketFits entry.1) (seat : entry.2 < 2 ^ 8) :
    ∀ word ∈ participantWords deployment world entry, word < 2 ^ 256 := by
  have small {value bits : Nat} (below : value < 2 ^ bits) (few : bits ≤ 256) : value < 2 ^ 256 :=
    lt_of_lt_of_le below (Nat.pow_le_pow_right Nat.two_pos few)
  simp only [participantWords, List.forall_mem_cons, List.not_mem_nil,
    false_implies, implies_true, and_true]
  exact ⟨typed _, small (addresses _) (by decide),
      small fits.arenaAccount (by decide), small seat (by decide), fits.buyIn,
      fits.controllerHash, fits.profileConfigHash, fits.matchmakingPool,
      small (boolWord_lt _) (by decide), fits.nonce⟩

theorem boolWord_injective : Function.Injective boolWord := by
  decide

/-- Tickets of one template with the same participant leaf commit one seat. -/
theorem committedSeat_eq {entry entry' : SeatTicketV3 × Nat}
    (words : participantWords deployment world entry = participantWords deployment world' entry')
    (template : entry.1.gameTemplateId = entry'.1.gameTemplateId) :
    committedSeat world entry.1 = committedSeat world' entry'.1 := by
  simp only [participantWords, List.cons.injEq, true_and, and_true] at words
  rcases words with ⟨owner, account, -, buyIn, controller, profile, pool, rated, nonce⟩
  rw [committedSeat, committedSeat, owner, account, template, pool, buyIn,
    controller, profile, boolWord_injective rated, nonce]

/-- Lists that pass with one descriptor commit the same seats, in order. -/
theorem Commits.determined (typed : ∀ bytes, deployment.keccak256 bytes < 2 ^ 256)
    (addresses : ∀ account, world.factory.ownerOf account < 2 ^ 160)
    (addresses' : ∀ account, world'.factory.ownerOf account < 2 ^ 160)
    (fits : ∀ ticket ∈ tickets, TicketFits ticket) (fits' : ∀ ticket ∈ tickets', TicketFits ticket)
    (nonempty : tickets ≠ []) (nonempty' : tickets' ≠ []) (few : tickets.length ≤ 255)
    (free : NoCollision deployment (sealInputs deployment world descriptor.sessionId tickets ++
          sealInputs deployment world' descriptor.sessionId tickets'))
    (commits : Commits deployment world descriptor tickets)
    (commits' : Commits deployment world' descriptor tickets') :
    tickets.map (committedSeat world) = tickets'.map (committedSeat world') := by
  have within := within_of_subset (List.subset_append_left
    (sealInputs deployment world descriptor.sessionId tickets)
    (sealInputs deployment world' descriptor.sessionId tickets'))
  have within' := within_of_subset (List.subset_append_right
    (sealInputs deployment world descriptor.sessionId tickets)
    (sealInputs deployment world' descriptor.sessionId tickets'))
  have lengths : tickets.length = tickets'.length :=
    le_antisymm (commits'.length_le typed free within' within nonempty' nonempty commits)
      (commits.length_le typed free within within' nonempty nonempty' commits')
  have leaves :=
    (participants_padded_eq typed free within within' nonempty nonempty' commits commits').2
  apply List.ext_getElem
  · rw [List.length_map, List.length_map, lengths]
  · intro index inside inside'
    rw [List.length_map] at inside inside'
    have given := List.getElem_mem inside
    have given' := List.getElem_mem inside'
    have here := leaves index (lt_of_lt_of_le inside (length_le_two_pow_depth _))
    rw [padded_participant inside, padded_participant inside'] at here
    have bytes :=
      free _ (participantBytes_mem within inside) _ (participantBytes_mem within' inside') here
    have seat : index < 2 ^ 8 := by omega
    have words :=
      abiEncode_injective (participantWords_lt typed addresses (fits _ given) seat)
        (participantWords_lt typed addresses' (fits' _ given') seat) bytes
    have template := (commits.templates _ given).trans (commits'.templates _ given').symm
    rw [List.getElem_map, List.getElem_map]
    exact committedSeat_eq words template

/-! ## The two seals -/

/-- Tickets of a call pass the length guards and the checks of a seal. -/
structure Passes (deployment : Deployment) (world : World) (descriptor : SessionDescriptor)
    (tickets : List SeatTicketV3) : Prop where
  nonempty : tickets ≠ []
  few : tickets.length ≤ 255
  fits : ∀ ticket ∈ tickets, TicketFits ticket
  addresses : ∀ account, world.factory.ownerOf account < 2 ^ 160
  checked : sealChecks deployment world descriptor tickets = .ok ()

/-- Whatever the vault seals passed its checks. -/
theorem sealChecks_of_sealAndFundSession {msg : Msg} {signatures : List Bytes} {after : World}
    (ok : ArenaVaultV2.sealAndFundSession deployment msg world descriptor tickets signatures =
        .ok after) :
    tickets ≠ [] ∧ tickets.length ≤ 255 ∧
      sealChecks deployment world descriptor tickets = .ok () := by
  rw [sealAndFundSession_eq] at ok
  rcases bind_eq_ok_iff.mp ok with ⟨⟨⟩, guarded, rest⟩
  rcases bind_eq_ok_iff.mp rest with ⟨⟨⟩, checked, -⟩
  simp only [sealGuards, bind_eq_ok_iff, revertIf_eq_ok_iff, exists_const,
    ne_eq, not_or, not_not, not_lt] at guarded
  rcases guarded with ⟨-, -, -, -, -, -, -, -, ⟨nonempty, -⟩, few, -⟩
  exact ⟨fun empty => nonempty (empty ▸ rfl), few, checked⟩

/--
`applySeatOrder` returns every participant once, on its seat, exactly for a
permutation; commitments are built exactly of input that fits; what is built
passes every check of the vault with the tickets in seat order; and tickets
that pass with one descriptor commit the same seats in the same order.
-/
theorem session_seal_exact
    (deployment : Deployment)
    (typed : ∀ bytes, deployment.keccak256 bytes < 2 ^ 256) :
    (∀ (participants : List SealParticipant) (seatOrder : Option (List Int)),
      ((∃ seated, applySeatOrder participants seatOrder = .ok seated) ↔
        participants ≠ [] ∧
          IsSeatOrder (orderOf participants seatOrder) participants.length) ∧
      ∀ seated, applySeatOrder participants seatOrder = .ok seated →
        seated.map SeatedParticipant.seat = List.range participants.length ∧
        (seated.map SeatedParticipant.toSealParticipant).Perm participants ∧
        (seated.map fun participant =>
            (participant.seat, participant.toSealParticipant)).Perm
          (((orderOf participants seatOrder).map Int.toNat).zip
            participants)) ∧
    (∀ input : SealPrepareInput,
      (∃ built, buildSessionCommitments deployment input = .ok built) ↔
        input.Buildable) ∧
    (∀ (input : SealPrepareInput) (built : SessionCommitments) (world : World),
      buildSessionCommitments deployment input = .ok built →
      Owned world input.participants →
        (∃ seated,
          applySeatOrder input.participants input.seatOrder = .ok seated ∧
            built.orderedTickets =
              seated.map fun participant => participant.ticket) ∧
        built.descriptor.chainId = input.chainId ∧
        built.descriptor.protocolVersion = ArenaVaultV2.protocolVersionV3 ∧
        sealChecks deployment world built.descriptor built.orderedTickets =
          .ok () ∧
        ∀ (msg : Msg) (signatures : List Bytes),
          ArenaVaultV2.sealAndFundSession deployment msg world built.descriptor
              built.orderedTickets signatures =
            (do
              sealGuards deployment msg world built.descriptor
                built.orderedTickets signatures
              sealEffects deployment msg world built.descriptor
                built.orderedTickets signatures)) ∧
    ∀ (world world' : World) (descriptor : SessionDescriptor)
        (tickets tickets' : List SeatTicketV3),
      Passes deployment world descriptor tickets →
      Passes deployment world' descriptor tickets' →
      NoCollision deployment
          (sealInputs deployment world descriptor.sessionId tickets ++
            sealInputs deployment world' descriptor.sessionId tickets') →
        tickets.map (committedSeat world) =
          tickets'.map (committedSeat world') := by
  refine ⟨?_, ?_, ?_, ?_⟩
  · intro participants seatOrder
    constructor
    · constructor
      · rintro ⟨seated, run⟩
        rcases applySeatOrder_eq_ok_iff.mp run with ⟨nonempty, order, -⟩
        exact ⟨nonempty, order⟩
      · rintro ⟨nonempty, order⟩
        exact ⟨_, applySeatOrder_eq_ok_iff.mpr ⟨nonempty, order, rfl⟩⟩
    · intro seated run
      rcases applySeatOrder_eq_ok_iff.mp run with ⟨-, order, rfl⟩
      exact
        ⟨map_seat_seatedBy order, toSealParticipant_seatedBy_perm order,
          seatedBy_perm order⟩
  · intro input
    constructor
    · rintro ⟨built, run⟩
      exact ((buildSessionCommitments_eq_ok_iff typed).mp run).1
    · intro buildable
      exact
        ⟨_, (buildSessionCommitments_eq_ok_iff typed).mpr ⟨buildable, rfl⟩⟩
  · intro input built world run owned
    rcases (buildSessionCommitments_eq_ok_iff typed).mp run with
      ⟨buildable, rfl⟩
    have checked :
        sealChecks deployment world (input.descriptor deployment)
            input.tickets =
          .ok () :=
      sealChecks_eq_ok_iff.mpr (commits_of_buildable buildable owned)
    refine
      ⟨⟨_, applySeatOrder_eq_ok_iff.mpr
          ⟨buildable.nonempty, buildable.order, rfl⟩, rfl⟩,
        rfl, rfl, checked, fun msg signatures => ?_⟩
    rw [sealAndFundSession_eq]
    show
      (do
        sealGuards deployment msg world (input.descriptor deployment)
          input.tickets signatures
        sealChecks deployment world (input.descriptor deployment) input.tickets
        sealEffects deployment msg world (input.descriptor deployment)
          input.tickets signatures) = _
    rw [checked]
    rfl
  · intro world world' descriptor tickets tickets' passes passes' free
    exact
      (sealChecks_eq_ok_iff.mp passes.checked).determined typed
        passes.addresses passes'.addresses passes.fits passes'.fits
        passes.nonempty passes'.nonempty passes.few free
        (sealChecks_eq_ok_iff.mp passes'.checked)

namespace Replays

/-- A world where account `1000 + n` belongs to `n`. -/
def owners : World :=
  { Chain.Example.world 0 with
    factory :=
      { (Chain.Example.world 0).factory with
        ownerOf := fun account => if account < 2000 then account - 1000 else 0 } }

def seatTicket (expiresAt account : Nat) : SeatTicketV3 where
  arenaAccount := account
  gameTemplateId := 1
  matchmakingPool := 3
  buyIn := 100
  controllerHash := 5
  profileConfigHash := 7
  modelPolicyHash := 0
  leagueBit := 1
  rated := true
  expiresAt := expiresAt
  nonce := account

/-- Two participants that change their places. -/
def swapped : SealPrepareInput where
  chainId := 1
  gameTemplateId := 1
  participants := [⟨101, seatTicket 50 1101, []⟩, ⟨102, seatTicket 50 1102, []⟩]
  seatOrder := some [1, 0]
  sessionNonce := 9
  createdAt := 10
  sealDeadline := 20
  policy := ⟨11, 12, 13⟩

theorem swapped_buildable : swapped.Buildable := by
  have fits : ∀ participant ∈ swapped.participants, Fits participant := by
    simp only [swapped, List.forall_mem_cons, List.not_mem_nil, false_implies,
      implies_true, and_true]
    constructor <;> constructor <;> decide
  constructor
  case nonempty => exact List.cons_ne_nil _ _
  case fits => exact fits
  case order => decide
  all_goals decide

/-- The tickets by seat, expiring at some time. -/
def bySeat (expiresAt : Nat) : List SeatTicketV3 :=
  [seatTicket expiresAt 1102, seatTicket expiresAt 1101]

theorem seated_swapped : swapped.seated =
    [⟨⟨102, seatTicket 50 1102, []⟩, 0⟩, ⟨⟨101, seatTicket 50 1101, []⟩, 1⟩] := by
  have run : applySeatOrder swapped.participants swapped.seatOrder = .ok
        [⟨⟨102, seatTicket 50 1102, []⟩, 0⟩, ⟨⟨101, seatTicket 50 1101, []⟩, 1⟩] := by
    rfl
  exact (applySeatOrder_eq_ok_iff.mp run).2.2

theorem tickets_swapped : swapped.tickets = bySeat 50 := by
  rw [SealPrepareInput.tickets, seated_swapped]
  rfl

theorem owned_swapped : Owned owners swapped.participants := by
  decide

theorem addresses_lt (account : Address) : owners.factory.ownerOf account < 2 ^ 160 := by
  show (if account < 2000 then account - 1000 else 0 : Nat) < 2 ^ 160
  split
  case isTrue below => exact lt_of_le_of_lt (Nat.sub_le _ _) (lt_trans below (by decide))
  case isFalse => decide

theorem fits_bySeat (expiresAt : Nat) : ∀ ticket ∈ bySeat expiresAt, TicketFits ticket := by
  simp only [bySeat, List.forall_mem_cons, List.not_mem_nil, false_implies, implies_true, and_true]
  constructor <;> constructor <;> simp [seatTicket]

/-- A seal does not commit the time at which a ticket expires. -/
theorem sealChecks_bySeat (expiresAt : Nat) (descriptor : SessionDescriptor) :
    sealChecks Chain.Example.deployment owners descriptor (bySeat expiresAt) =
      sealChecks Chain.Example.deployment owners descriptor (bySeat 50) := rfl

theorem noCollision_bySeat : NoCollision Chain.Example.deployment
    (sealInputs Chain.Example.deployment owners
        (swapped.descriptor Chain.Example.deployment).sessionId (bySeat 50) ++
      sealInputs Chain.Example.deployment owners
        (swapped.descriptor Chain.Example.deployment).sessionId (bySeat 60)) := by
  show NoCollision Chain.Example.deployment (sealInputs Chain.Example.deployment owners
          (swapped.sessionId Chain.Example.deployment) (bySeat 50) ++
        sealInputs Chain.Example.deployment owners
          (swapped.sessionId Chain.Example.deployment) (bySeat 60))
  rw [SealPrepareInput.sessionId, SealPrepareInput.participantRoot,
    SealPrepareInput.participantLeaves, seated_swapped]
  decide +kernel

/-- Two participants that change their places, and later tickets of theirs. -/
theorem session_seal_exact_swapped :
    ∃ built,
      buildSessionCommitments Chain.Example.deployment swapped = .ok built ∧
        built.orderedTickets = bySeat 50 ∧
        sealChecks Chain.Example.deployment owners built.descriptor
            (bySeat 50) =
          .ok () ∧
        (bySeat 50).map (committedSeat owners) =
          (bySeat 60).map (committedSeat owners) := by
  rcases session_seal_exact Chain.Example.deployment Commitments.Example.mix_lt
    with ⟨-, builds, passes, determined⟩
  have run :
      buildSessionCommitments Chain.Example.deployment swapped =
        .ok (swapped.commitments Chain.Example.deployment) :=
    (buildSessionCommitments_eq_ok_iff Commitments.Example.mix_lt).mpr
      ⟨swapped_buildable, rfl⟩
  have checked :=
    (passes swapped (swapped.commitments Chain.Example.deployment) owners run
      owned_swapped).2.2.2.1
  have ordered :
      (swapped.commitments Chain.Example.deployment).orderedTickets =
        bySeat 50 :=
    tickets_swapped
  rw [ordered] at checked
  have earlier :
      Passes Chain.Example.deployment owners
        (swapped.descriptor Chain.Example.deployment) (bySeat 50) :=
    ⟨List.cons_ne_nil _ _, by decide, fits_bySeat 50, addresses_lt, checked⟩
  have later :
      Passes Chain.Example.deployment owners
        (swapped.descriptor Chain.Example.deployment) (bySeat 60) :=
    ⟨List.cons_ne_nil _ _, by decide, fits_bySeat 60, addresses_lt,
      (sealChecks_bySeat 60 _).trans checked⟩
  exact
    ⟨_, run, ordered, checked,
      determined owners owners _ _ _ earlier later noCollision_bySeat⟩

end Replays

end Mozetto.SessionSeal
