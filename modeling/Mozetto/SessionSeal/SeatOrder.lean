import Mozetto.Chain.ArenaVaultV2
import Mozetto.EventStore.EventHashChain
import Mozetto.Library.Placement

/-!
# Seats of a session that is sealed

`applySeatOrder` and `assertHomogeneousTickets` of the session-seal package.
A seat order gives every participant a seat; the result lists the participants
by ascending seat, so that the ticket at an index is that of the seat.
Hexadecimal texts are the numbers they write, and seats are integers.
-/

namespace Mozetto.SessionSeal

open Mozetto.Chain
open Mozetto.Library.Guarded
open Mozetto.Library.HexText
open Mozetto.Library.Placement

/-- One participant, ready for the commitments of a session. -/
structure SealParticipant where
  owner : Address
  ticket : SeatTicketV3
  signature : Bytes

structure SeatedParticipant extends SealParticipant where
  seat : Nat

inductive SealError where
  | noParticipants
  | seatOrderLength (length participants : Nat)
  | invalidSeat (seat : Int) (participants : Nat)
  | duplicateSeat (seat : Int)
  | templateMismatch (ticketTemplate sessionTemplate : Bytes32)
  | duplicateArenaAccount (arenaAccount : Address)
  | invalidAddress (address : Address)
  | encoding
deriving DecidableEq, Repr

/-- A number as `0x` and so many digits. -/
def hexOf (width value : Nat) : String := String.ofList ('0' :: 'x' :: padded width value)

/-- The texts of the package's own errors. -/
def SealError.message : SealError → Option String
  | .noParticipants => some "seal requires at least one participant"
  | .seatOrderLength length participants =>
    some
      ("seatOrder length " ++ toString length ++ " != participants " ++ toString participants)
  | .invalidSeat seat participants =>
    some
      ("seatOrder contains invalid seat " ++ toString seat ++ " for n=" ++ toString participants)
  | .duplicateSeat seat =>
    some ("seatOrder has duplicate seat " ++ toString seat)
  | .templateMismatch ticketTemplate sessionTemplate =>
    some
      ("ticket template " ++ hexOf 64 ticketTemplate ++
        " != session template " ++ hexOf 64 sessionTemplate)
  | .duplicateArenaAccount arenaAccount =>
    some ("duplicate arenaAccount " ++ hexOf 40 arenaAccount)
  | .invalidAddress _ => none
  | .encoding => none

/-! ## Seat orders -/

/-- The loop that refuses a seat outside the table or seen before. -/
def checkSeats (participants : Nat) : List Int → List Int → Except SealError Unit
  | _, [] => .ok ()
  | seen, seat :: rest =>
    if seat < 0 ∨ participants ≤ seat then
      .error (.invalidSeat seat participants)
    else if seat ∈ seen then .error (.duplicateSeat seat)
    else checkSeats participants (seat :: seen) rest

/-- Without a seat order, seats follow the input. -/
def orderOf (participants : List SealParticipant) (seatOrder : Option (List Int)) :
    List Int :=
  seatOrder.getD ((List.range participants.length).map Int.ofNat)

/-- Every participant with the place of its seat, in the order of the input. -/
def seatEntries (participants : List SealParticipant) (order : List Int) :
    List (Nat × SeatedParticipant) :=
  (order.zip participants).map fun entry =>
    (entry.1.toNat, { entry.2 with seat := entry.1.toNat })

/-- `seatOrder[i]` is the seat of `participants[i]`. -/
def applySeatOrder (participants : List SealParticipant) (seatOrder : Option (List Int)) :
    Except SealError (List SeatedParticipant) := do
  let count := participants.length
  revertIf (count = 0) .noParticipants
  let order := orderOf participants seatOrder
  revertIf (order.length ≠ count) (.seatOrderLength order.length count)
  checkSeats count [] order
  return (placed count (seatEntries participants order)).reduceOption

/-- The loop that refuses a foreign template or an account seen before. -/
def checkTickets (gameTemplateId : Bytes32) :
    List Address → List SeatedParticipant → Except SealError Unit
  | _, [] => .ok ()
  | accounts, participant :: rest => do
      revertIf (participant.ticket.gameTemplateId ≠ gameTemplateId)
        (.templateMismatch participant.ticket.gameTemplateId gameTemplateId)
      revertIf (participant.ticket.arenaAccount ∈ accounts)
        (.duplicateArenaAccount participant.ticket.arenaAccount)
      checkTickets gameTemplateId (participant.ticket.arenaAccount :: accounts) rest

def assertHomogeneousTickets (seated : List SeatedParticipant) (gameTemplateId : Bytes32) :
    Except SealError Unit :=
  checkTickets gameTemplateId [] seated

/-! ## What the checks accept -/

theorem checkSeats_eq_ok_iff {participants : Nat} {seen order : List Int} {done : Unit} :
    checkSeats participants seen order = .ok done ↔
      (∀ seat ∈ order, 0 ≤ seat ∧ seat < participants) ∧ order.Nodup ∧
        ∀ seat ∈ order, seat ∉ seen := by
  induction order generalizing seen with
  | nil => simp [checkSeats]
  | cons seat rest induction =>
    rw [checkSeats]
    by_cases outside : seat < 0 ∨ participants ≤ seat
    · rw [if_pos outside]
      constructor
      · intro equal
        cases equal
      · rintro ⟨inside, -, -⟩
        have bounds := inside seat List.mem_cons_self
        omega
    · rw [if_neg outside]
      rw [not_or, not_lt, not_le] at outside
      by_cases repeated : seat ∈ seen
      · rw [if_pos repeated]
        constructor
        · intro equal
          cases equal
        · rintro ⟨-, -, fresh⟩
          exact absurd repeated (fresh seat List.mem_cons_self)
      · rw [if_neg repeated, induction, List.nodup_cons,
          List.forall_mem_cons, List.forall_mem_cons]
        constructor
        · rintro ⟨inside, distinct, fresh⟩
          refine ⟨⟨outside, inside⟩, ⟨?_, distinct⟩, repeated, ?_⟩
          · exact fun again => fresh seat again List.mem_cons_self
          · exact fun other member known =>
            fresh other member (List.mem_cons_of_mem _ known)
        · rintro ⟨⟨-, inside⟩, ⟨once, distinct⟩, -, fresh⟩
          refine ⟨inside, distinct, fun other member known => ?_⟩
          rcases List.mem_cons.mp known with rfl | earlier
          · exact once member
          · exact fresh other member earlier

theorem checkTickets_eq_ok_iff {gameTemplateId : Bytes32} {accounts : List Address}
    {seated : List SeatedParticipant} {done : Unit} :
    checkTickets gameTemplateId accounts seated = .ok done ↔ (∀ participant ∈ seated,
        participant.ticket.gameTemplateId = gameTemplateId) ∧
      (seated.map fun participant => participant.ticket.arenaAccount).Nodup ∧
      ∀ participant ∈ seated, participant.ticket.arenaAccount ∉ accounts := by
  induction seated generalizing accounts with
  | nil => simp [checkTickets]
  | cons participant rest induction =>
    rw [checkTickets, revertIf_bind_eq_ok_iff, revertIf_bind_eq_ok_iff,
      induction, List.map_cons, List.nodup_cons, not_not,
      List.forall_mem_cons, List.forall_mem_cons]
    constructor
    · rintro ⟨template, fresh, templates, distinct, others⟩
      refine ⟨⟨template, templates⟩, ⟨?_, distinct⟩, fresh, ?_⟩
      · intro again
        rcases List.mem_map.mp again with ⟨other, member, same⟩
        exact others other member (same ▸ List.mem_cons_self)
      · exact fun other member known =>
        others other member (List.mem_cons_of_mem _ known)
    · rintro ⟨⟨template, templates⟩, ⟨once, distinct⟩, fresh, others⟩
      refine ⟨template, fresh, templates, distinct, ?_⟩
      intro other member known
      rcases List.mem_cons.mp known with same | earlier
      · exact once (List.mem_map.mpr ⟨other, member, same⟩)
      · exact others other member earlier

/-! ## Every participant once -/

/-- An order that gives out every seat of the table once. -/
def IsSeatOrder (order : List Int) (count : Nat) : Prop :=
  order.Perm ((List.range count).map Int.ofNat)

instance (order : List Int) (count : Nat) : Decidable (IsSeatOrder order count) :=
  inferInstanceAs (Decidable (List.Perm _ _))

variable {participants : List SealParticipant}
variable {seatOrder : Option (List Int)} {seated : List SeatedParticipant}
variable {order : List Int}

/-- Distinct seats of the table, one for each participant, are all its seats. -/
theorem isSeatOrder_iff {count : Nat} : IsSeatOrder order count ↔ order.length = count ∧
      (∀ seat ∈ order, 0 ≤ seat ∧ seat < count) ∧ order.Nodup := by
  have all_distinct : ((List.range count).map Int.ofNat).Nodup :=
    List.nodup_range.map fun _ _ => Int.ofNat.inj
  constructor
  · intro permuted
    refine ⟨?_, ?_, permuted.nodup_iff.mpr all_distinct⟩
    · rw [permuted.length_eq, List.length_map, List.length_range]
    · intro seat member
      rcases List.mem_map.mp (permuted.mem_iff.mp member) with ⟨index, inside, rfl⟩
      have below := List.mem_range.mp inside
      exact ⟨Int.natCast_nonneg index, Int.ofNat_lt.mpr below⟩
  · rintro ⟨lengths, inside, distinct⟩
    have included : order ⊆ (List.range count).map Int.ofNat := by
      intro seat member
      rcases inside seat member with ⟨nonnegative, below⟩
      have same : Int.ofNat seat.toNat = seat := Int.toNat_of_nonneg nonnegative
      exact List.mem_map.mpr ⟨seat.toNat, List.mem_range.mpr (by omega), same⟩
    apply (List.subperm_of_subset distinct included).perm_of_length_le
    rw [List.length_map, List.length_range, lengths]

/-- The places of the entries are the seats of the order. -/
theorem map_fst_seatEntries (lengths : order.length = participants.length) :
    (seatEntries participants order).map Prod.fst = order.map Int.toNat := by
  rw [seatEntries, List.map_map]
  show (order.zip participants).map (Int.toNat ∘ Prod.fst) = _
  rw [← List.map_map, List.map_fst_zip lengths.le]

theorem seatEntries_places (permuted : IsSeatOrder order participants.length) :
    ((seatEntries participants order).map Prod.fst).Perm (List.range participants.length) := by
  have lengths := (isSeatOrder_iff.mp permuted).1
  have seats := permuted.map Int.toNat
  have same : ((List.range participants.length).map Int.ofNat).map Int.toNat =
      List.range participants.length := by
    rw [List.map_map]
    exact List.map_id _
  rwa [same, ← map_fst_seatEntries lengths] at seats

/-- What a seat order is applied to: who sits where, by ascending seat. -/
def seatedBy (participants : List SealParticipant) (order : List Int) :
    List SeatedParticipant :=
  (inPlaceOrder (seatEntries participants order)).map Prod.snd

/-- Seats are given exactly by an order that is a permutation. -/
theorem applySeatOrder_eq_ok_iff : applySeatOrder participants seatOrder = .ok seated ↔
    participants ≠ [] ∧ IsSeatOrder (orderOf participants seatOrder) participants.length ∧
      seatedBy participants (orderOf participants seatOrder) = seated := by
  rw [applySeatOrder, revertIf_bind_eq_ok_iff, revertIf_bind_eq_ok_iff,
    bind_eq_ok_iff, List.length_eq_zero_iff, not_not]
  simp only [checkSeats_eq_ok_iff, pure_eq_ok_iff, isSeatOrder_iff,
    List.not_mem_nil, not_false_eq_true, implies_true, and_true, exists_const]
  have filled : ∀ permuted : IsSeatOrder (orderOf participants seatOrder) participants.length,
      (placed participants.length (seatEntries participants
            (orderOf participants seatOrder))).reduceOption =
        seatedBy participants (orderOf participants seatOrder) := by
    intro permuted
    rw [placed_eq (seatEntries_places permuted), List.reduceOption, List.filterMap_map]
    exact List.filterMap_some
  constructor
  · rintro ⟨nonempty, lengths, ⟨inside, distinct⟩, equal⟩
    refine ⟨nonempty, ⟨lengths, inside, distinct⟩, ?_⟩
    rwa [filled (isSeatOrder_iff.mpr ⟨lengths, inside, distinct⟩)] at equal
  · rintro ⟨nonempty, ⟨lengths, inside, distinct⟩, equal⟩
    refine ⟨nonempty, lengths, ⟨inside, distinct⟩, ?_⟩
    rwa [filled (isSeatOrder_iff.mpr ⟨lengths, inside, distinct⟩)]

/-- The participant at an index of the result has that seat. -/
theorem map_seat_seatedBy (permuted : IsSeatOrder order participants.length) :
    (seatedBy participants order).map SeatedParticipant.seat = List.range participants.length := by
  rw [← map_fst_inPlaceOrder (seatEntries_places permuted), seatedBy, List.map_map]
  apply List.map_congr_left
  intro entry member
  have given := (inPlaceOrder_perm _).subset member
  rcases List.mem_map.mp given with ⟨pair, -, rfl⟩
  rfl

/-- Every participant is seated once, on the seat that the order gives it. -/
theorem seatedBy_perm (permuted : IsSeatOrder order participants.length) :
    ((seatedBy participants order).map fun participant =>
      (participant.seat, participant.toSealParticipant)).Perm
      ((order.map Int.toNat).zip participants) := by
  have entries :=
    ((inPlaceOrder_perm (seatEntries participants order)).map Prod.snd).map
      fun participant => (participant.seat, participant.toSealParticipant)
  have same : ((seatEntries participants order).map Prod.snd).map (fun participant =>
          (participant.seat, participant.toSealParticipant)) =
      (order.map Int.toNat).zip participants := by
    rw [seatEntries, List.map_map, List.map_map, List.zip_map_left]
    rfl
  rwa [same] at entries

theorem toSealParticipant_seatedBy_perm (permuted : IsSeatOrder order participants.length) :
    ((seatedBy participants order).map SeatedParticipant.toSealParticipant).Perm participants := by
  have pairs := (seatedBy_perm permuted).map Prod.snd
  have lengths := (isSeatOrder_iff.mp permuted).1
  rw [List.map_map, List.map_snd_zip (by rw [List.length_map, lengths])] at pairs
  exact pairs

theorem length_seatedBy (permuted : IsSeatOrder order participants.length) :
    (seatedBy participants order).length = participants.length := by
  have pairs := (toSealParticipant_seatedBy_perm permuted).length_eq
  rwa [List.length_map] at pairs

end Mozetto.SessionSeal
