import Mathlib.Data.List.Perm.Basic
import Mathlib.Data.List.Sort
import Mathlib.Tactic.Common

/-!
# Planning an epoch boundary

The seat changes that are queued for a table, and how they are applied where
one epoch ends and the next begins: leaves first, then top-ups, then joins.
Every change that is looked at is either applied or rejected.
-/

namespace Mozetto.Database

inductive HandPhase where
  | betweenHands
  | handActive
deriving DecidableEq, Repr

inductive SeatChangeType where
  | join
  | leave
  | topUp
deriving DecidableEq, Repr

inductive SeatChangeStatus where
  | pending
  | applied
  | cancelled
  | rejected
deriving DecidableEq, Repr

structure EpochParticipant where
  ownerId : String
  seatIndex : Int
  stack : Float
  allIn : Bool
  agentId : Option String

structure QueuedSeatChange where
  id : String
  targetEpoch : Nat
  changeType : SeatChangeType
  status : SeatChangeStatus
  ownerId : String
  agentId : Option String
  agentConfigId : Option String
  seatIndex : Option Int
  amount : Option Float
  profileKey : Option String
  payload : String
  requestedAt : Option String

structure RejectedSeatChange where
  id : String
  reason : String
deriving DecidableEq, Repr

structure EpochBoundaryPlan where
  leaves : List QueuedSeatChange
  topUps : List QueuedSeatChange
  joins : List QueuedSeatChange
  nextParticipants : List EpochParticipant
  appliedIds : List String
  rejected : List RejectedSeatChange
  closedEpoch : Nat
  nextEpoch : Nat

/-- How a participant is written to `table_epochs.participant_snapshot`. -/
structure ParticipantSnapshot where
  ownerId : String
  seatIndex : Int
  stack : Float
  agentId : Option String

def participantSnapshot (participants : List EpochParticipant) : List ParticipantSnapshot :=
  participants.map fun p => ⟨p.ownerId, p.seatIndex, p.stack, p.agentId⟩

/-- The epoch that a change is queued for; the source throws below `1`. -/
def targetEpochForQueue (currentEpoch : Nat) (phase : HandPhase) :
    Option Nat :=
  if currentEpoch < 1 then none
  else
    match phase with
    | .handActive => some (currentEpoch + 1)
    | .betweenHands => some currentEpoch

/-- Why a change may not be queued. -/
def validateEnqueue (changeType : SeatChangeType) (ownerId : String)
    (participants : List EpochParticipant)
    (pending : List QueuedSeatChange) (amount : Option Float) :
    Option String :=
  let seated := participants.any fun p => p.ownerId = ownerId
  let pendingForOwner := pending.filter fun c => c.ownerId = ownerId ∧ c.status = .pending
  let queued (type : SeatChangeType) := pendingForOwner.any fun c => c.changeType = type
  match changeType with
  | .leave =>
      if !seated then some "not_seated"
      else if queued .leave then some "leave_already_queued"
      else none
  | .join =>
      if seated then some "already_seated"
      else if queued .join then some "join_already_queued"
      else if queued .leave then some "conflicting_leave_pending"
      else if ¬ 0 < amount.getD 0 then some "invalid_buy_in"
      else none
  | .topUp =>
      if !seated then some "not_seated"
      else if queued .leave then some "leave_pending"
      else if ¬ 0 < amount.getD 0 then some "invalid_top_up"
      else none

def emptySeatIndices (participants : List EpochParticipant) (maxSeats : Nat) : List Int :=
  ((List.range maxSeats).map Int.ofNat).filter fun i =>
    participants.all fun p => p.seatIndex ≠ i

/-! ## The plan -/

/-- The seats and the outcome so far, while changes are applied. -/
structure BoundaryWork where
  seats : List EpochParticipant
  leaves : List QueuedSeatChange
  topUps : List QueuedSeatChange
  joins : List QueuedSeatChange
  appliedIds : List String
  rejected : List RejectedSeatChange

namespace BoundaryWork

variable (work : BoundaryWork)

def reject (change : QueuedSeatChange) (reason : String) : BoundaryWork :=
  { work with rejected := work.rejected ++ [⟨change.id, reason⟩] }

def applyLeave (change : QueuedSeatChange) : BoundaryWork :=
  match work.seats.find? fun p => p.ownerId = change.ownerId with
  | none => work.reject change "not_seated_at_boundary"
  | some p =>
      if p.allIn then work.reject change "all_in_unresolved"
      else
        { work with
          seats :=
            work.seats.eraseIdx (work.seats.findIdx fun p => p.ownerId = change.ownerId)
          leaves := work.leaves ++ [change]
          appliedIds := work.appliedIds ++ [change.id] }

def applyTopUp (change : QueuedSeatChange) : BoundaryWork :=
  let amount := change.amount.getD 0
  if work.seats.all fun s => s.ownerId ≠ change.ownerId then
    work.reject change "not_seated_at_boundary"
  else if ¬ 0 < amount then work.reject change "invalid_top_up"
  else
    { work with
      seats :=
        work.seats.modify (work.seats.findIdx fun s => s.ownerId = change.ownerId)
          fun p => { p with stack := p.stack + amount }
      topUps := work.topUps ++ [change]
      appliedIds := work.appliedIds ++ [change.id] }

/-- The seat that was asked for if it is empty, else the first empty one. -/
def preferredSeat (change : QueuedSeatChange) (maxSeats : Nat) :
    Option Int :=
  let empties := emptySeatIndices work.seats maxSeats
  (change.seatIndex.filter fun i => i ∈ empties).or empties.head?

def applyJoin (maxSeats : Nat) (change : QueuedSeatChange) : BoundaryWork :=
  let amount := change.amount.getD 0
  if work.seats.any fun s => s.ownerId = change.ownerId then
    work.reject change "already_seated"
  else if ¬ 0 < amount then work.reject change "invalid_buy_in"
  else
    match work.preferredSeat change maxSeats with
    | none => work.reject change "no_open_seat"
    | some preferred =>
        { work with
          seats :=
            work.seats ++ [⟨change.ownerId, preferred, amount, false, change.agentId⟩]
          joins := work.joins ++ [{ change with seatIndex := some preferred }]
          appliedIds := work.appliedIds ++ [change.id] }

def applyChange (maxSeats : Nat) (change : QueuedSeatChange) :
    BoundaryWork :=
  match change.changeType with
  | .leave => work.applyLeave change
  | .topUp => work.applyTopUp change
  | .join => work.applyJoin maxSeats change

end BoundaryWork

def SeatChangeType.rank : SeatChangeType → Nat
  | .leave => 0
  | .topUp => 1
  | .join => 2

/-- Leaves come first, joins last, and otherwise what was asked earlier. -/
def QueuedSeatChange.Before
    (localeCompare : String → String → Int) (a b : QueuedSeatChange) : Prop :=
  a.changeType.rank < b.changeType.rank ∨ a.changeType.rank = b.changeType.rank ∧
      localeCompare (a.requestedAt.getD a.id) (b.requestedAt.getD b.id) ≤ 0

instance (localeCompare : String → String → Int) :
    DecidableRel (QueuedSeatChange.Before localeCompare) :=
  fun _ _ => inferInstanceAs (Decidable (_ ∨ _ ∧ _))

/-- The pending changes for the epoch that closes or the one that opens. -/
def relevantChanges (localeCompare : String → String → Int) (currentEpoch : Nat)
    (pending : List QueuedSeatChange) : List QueuedSeatChange :=
  ((pending.filter fun c => c.status = .pending).filter fun c =>
      c.targetEpoch = currentEpoch + 1 ∨ c.targetEpoch = currentEpoch)
    |>.insertionSort (QueuedSeatChange.Before localeCompare)

def planEpochBoundary (localeCompare : String → String → Int) (currentEpoch : Nat)
    (participants : List EpochParticipant)
    (pending : List QueuedSeatChange) (maxSeats : Nat) : EpochBoundaryPlan :=
  let work : BoundaryWork :=
    (relevantChanges localeCompare currentEpoch pending).foldl
      (fun work change => work.applyChange maxSeats change) ⟨participants, [], [], [], [], []⟩
  { leaves := work.leaves
    topUps := work.topUps
    joins := work.joins
    nextParticipants := work.seats.insertionSort fun a b => a.seatIndex ≤ b.seatIndex
    appliedIds := work.appliedIds
    rejected := work.rejected
    closedEpoch := currentEpoch
    nextEpoch := currentEpoch + 1 }

/-! ## Every change is applied or rejected -/

/-- The changes that a plan decides. -/
def EpochBoundaryPlan.ids (plan : EpochBoundaryPlan) : List String :=
  plan.appliedIds ++ plan.rejected.map (·.id)

namespace BoundaryWork

variable {work : BoundaryWork} {change : QueuedSeatChange} {maxSeats : Nat}

/-- The changes decided so far. -/
def ids (work : BoundaryWork) : List String := work.appliedIds ++ work.rejected.map (·.id)

theorem ids_reject (reason : String) :
    (work.reject change reason).ids.Perm (change.id :: work.ids) := by
  rw [ids, reject, List.map_append, ← List.append_assoc]
  exact List.perm_append_comm

theorem ids_applied {applied : BoundaryWork}
    (appliedIds : applied.appliedIds = work.appliedIds ++ [change.id])
    (rejected : applied.rejected = work.rejected) : applied.ids.Perm (change.id :: work.ids) := by
  rw [ids, ids, appliedIds, rejected, List.append_assoc]
  exact List.perm_middle

theorem ids_applyChange : (work.applyChange maxSeats change).ids.Perm (change.id :: work.ids) := by
  rw [applyChange]
  split
  · rw [applyLeave]
    split
    · exact ids_reject _
    · split
      · exact ids_reject _
      · exact ids_applied rfl rfl
  · rw [applyTopUp]
    split
    · exact ids_reject _
    · split
      · exact ids_reject _
      · exact ids_applied rfl rfl
  · rw [applyJoin]
    split
    · exact ids_reject _
    · split
      · exact ids_reject _
      · split
        · exact ids_reject _
        · exact ids_applied rfl rfl

theorem ids_applyAll (changes : List QueuedSeatChange) :
    (changes.foldl (fun work change => work.applyChange maxSeats change)
        work).ids.Perm (changes.map (·.id) ++ work.ids) := by
  induction changes generalizing work with
  | nil => exact List.Perm.refl _
  | cons change rest induction =>
    rw [List.foldl_cons, List.map_cons, List.cons_append]
    exact induction.trans ((ids_applyChange.append_left _).trans List.perm_middle)

end BoundaryWork

section Plan

variable {localeCompare : String → String → Int} {currentEpoch : Nat}
variable {participants : List EpochParticipant}
variable {pending : List QueuedSeatChange} {maxSeats : Nat}

theorem mem_relevantChanges {change : QueuedSeatChange} :
    change ∈ relevantChanges localeCompare currentEpoch pending ↔
      change ∈ pending ∧ change.status = .pending ∧ (change.targetEpoch = currentEpoch ∨
          change.targetEpoch = currentEpoch + 1) := by
  rw [relevantChanges, List.mem_insertionSort, List.mem_filter,
    List.mem_filter, decide_eq_true_eq, decide_eq_true_eq, and_assoc,
    or_comm (a := change.targetEpoch = currentEpoch + 1)]

/-- The plan decides the changes that it looks at, each once. -/
theorem ids_planEpochBoundary : (planEpochBoundary localeCompare currentEpoch participants pending
      maxSeats).ids.Perm ((relevantChanges localeCompare currentEpoch pending).map (·.id)) := by
  have decided :=
    @BoundaryWork.ids_applyAll ⟨participants, [], [], [], [], []⟩ maxSeats
      (relevantChanges localeCompare currentEpoch pending)
  have nothing : (⟨participants, [], [], [], [], []⟩ : BoundaryWork).ids = [] := rfl
  rw [nothing, List.append_nil] at decided
  exact decided

theorem nodup_ids_planEpochBoundary (distinct : (pending.map (·.id)).Nodup) :
    (planEpochBoundary localeCompare currentEpoch participants pending maxSeats).ids.Nodup := by
  rw [ids_planEpochBoundary.nodup_iff, relevantChanges,
    ((List.perm_insertionSort _ _).map _).nodup_iff]
  exact distinct.sublist ((List.filter_sublist.trans List.filter_sublist).map _)

end Plan

end Mozetto.Database
