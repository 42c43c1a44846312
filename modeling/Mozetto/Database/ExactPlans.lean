import Mozetto.Database.PlannedSeats

/-!
# Exact plans

The participants of a plan are those of the closed epoch after the leaves, the
top-ups and the joins of the plan, in that order.  Owners and seats stay
distinct and inside the table, who is all in stays, and a join finds no seat
only at a full table.
-/

namespace Mozetto.Database

variable {maxSeats : Nat}
variable {work after : BoundaryWork} {change : QueuedSeatChange}
variable {participants seats : List EpochParticipant}

/-! ## The changes in their order -/

/-- The seats without those of a leaver. -/
def standUp (seats : List EpochParticipant) (leave : QueuedSeatChange) :
    List EpochParticipant :=
  seats.filter fun p => p.ownerId ≠ leave.ownerId

/-- The seats with the chips of a top-up. -/
def addChips (seats : List EpochParticipant) (topUp : QueuedSeatChange) :
    List EpochParticipant :=
  seats.map fun p =>
    if p.ownerId = topUp.ownerId then
      { p with stack := p.stack + topUp.amount.getD 0 }
    else p

/-- The seats with a joiner at the seat the join records. -/
def sitDown (seats : List EpochParticipant) (join : QueuedSeatChange) :
    List EpochParticipant :=
  seats ++ [⟨join.ownerId, join.seatIndex.getD 0, join.amount.getD 0, false, join.agentId⟩]

/-- The seats after the leaves, then the top-ups, then the joins. -/
def executed (participants : List EpochParticipant)
    (leaves topUps joins : List QueuedSeatChange) : List EpochParticipant :=
  joins.foldl sitDown (topUps.foldl addChips (leaves.foldl standUp participants))

section Executed

variable {leaves topUps joins : List QueuedSeatChange}

theorem executed_leave : executed participants (leaves ++ [change]) [] [] =
    standUp (executed participants leaves [] []) change := by
  rw [executed, List.foldl_append]
  rfl

theorem executed_topUp : executed participants leaves (topUps ++ [change]) [] =
    addChips (executed participants leaves topUps []) change := by
  rw [executed, List.foldl_append]
  rfl

theorem executed_join : executed participants leaves topUps (joins ++ [change]) =
    sitDown (executed participants leaves topUps joins) change := by
  rw [executed, List.foldl_append]
  rfl

/-- The changes of others leave a participant as he is. -/
theorem mem_executed_of_unnamed {p : EpochParticipant} (member : p ∈ participants)
    (unnamed : ∀ change ∈ leaves ++ topUps ++ joins, change.ownerId ≠ p.ownerId) :
    p ∈ executed participants leaves topUps joins := by
  have fold (apply : List EpochParticipant → QueuedSeatChange → List EpochParticipant)
      (keeps : ∀ (seats : List EpochParticipant) (change : QueuedSeatChange),
        change.ownerId ≠ p.ownerId → p ∈ seats → p ∈ apply seats change)
      (changes : List QueuedSeatChange) (seats : List EpochParticipant)
      (others : ∀ change ∈ changes, change.ownerId ≠ p.ownerId)
      (seated : p ∈ seats) : p ∈ changes.foldl apply seats := by
    induction changes generalizing seats with
    | nil => exact seated
    | cons change rest induction =>
      exact induction _ (fun other inside => others other (List.mem_cons_of_mem _ inside))
        (keeps seats change (others change List.mem_cons_self) seated)
  have stays := fold standUp (fun seats change other seated => List.mem_filter.mpr
      ⟨seated, decide_eq_true other.symm⟩) leaves participants (fun change inside => unnamed change
      (List.mem_append_left _ (List.mem_append_left _ inside))) member
  have keeps := fold addChips (fun seats change other seated => List.mem_map.mpr
      ⟨p, seated, if_neg other.symm⟩) topUps _ (fun change inside => unnamed change
      (List.mem_append_left _ (List.mem_append_right _ inside))) stays
  exact fold sitDown (fun seats change _ seated => List.mem_append_left _ seated) joins _
    (fun change inside => unnamed change (List.mem_append_right _ inside)) keeps

end Executed

/-- Every owner and every seat once, and the seats inside the table. -/
structure Seated (maxSeats : Nat) (seats : List EpochParticipant) : Prop where
  owners : (seats.map (·.ownerId)).Nodup
  places : (seats.map (·.seatIndex)).Nodup
  inside : ∀ p ∈ seats, ∃ k < maxSeats, p.seatIndex = (k : Int)

theorem Seated.of_perm {others : List EpochParticipant}
    (seated : Seated maxSeats seats) (perm : others.Perm seats) :
    Seated maxSeats others :=
  ⟨(perm.map _).nodup_iff.mpr seated.owners, (perm.map _).nodup_iff.mpr seated.places,
    fun p member => seated.inside p (perm.mem_iff.mp member)⟩

/-- With distinct owners, the one that is found is the only one. -/
theorem eraseIdx_findIdx_eq_standUp (owners : (seats.map (·.ownerId)).Nodup) :
    seats.eraseIdx (seats.findIdx fun p => p.ownerId = change.ownerId) =
      standUp seats change := by
  induction seats with
  | nil => rfl
  | cons p rest induction =>
    rw [List.map_cons, List.nodup_cons] at owners
    rw [List.findIdx_cons, standUp]
    by_cases leaver : p.ownerId = change.ownerId
    · have others : ∀ q ∈ rest, q.ownerId ≠ change.ownerId := by
        intro q member same
        apply owners.1
        rw [leaver, ← same]
        exact List.mem_map_of_mem member
      rw [decide_eq_true leaver, cond_true, List.eraseIdx_cons_zero,
        List.filter_cons_of_neg (by simp [leaver])]
      exact (List.filter_eq_self.mpr fun q member =>
        decide_eq_true (others q member)).symm
    · rw [decide_eq_false leaver, cond_false, List.eraseIdx_cons_succ,
        List.filter_cons_of_pos (by simp [leaver]), induction owners.2]
      rfl

theorem modify_findIdx_eq_addChips (owners : (seats.map (·.ownerId)).Nodup) :
    (seats.modify (seats.findIdx fun p => p.ownerId = change.ownerId)
        fun p => { p with stack := p.stack + change.amount.getD 0 }) =
      addChips seats change := by
  induction seats with
  | nil => rfl
  | cons p rest induction =>
    rw [List.map_cons, List.nodup_cons] at owners
    rw [List.findIdx_cons, addChips, List.map_cons]
    by_cases owner : p.ownerId = change.ownerId
    · have others : ∀ q ∈ rest, q.ownerId ≠ change.ownerId := by
        intro q member same
        apply owners.1
        rw [owner, ← same]
        exact List.mem_map_of_mem member
      rw [decide_eq_true owner, cond_true, List.modify_zero_cons, if_pos owner]
      congr 1
      apply (List.map_id rest).symm.trans
      exact List.map_congr_left fun q member =>
        (if_neg (others q member)).symm
    · rw [decide_eq_false owner, cond_false, List.modify_succ_cons,
        if_neg owner, induction owners.2]
      rfl

theorem Seated.standUp (seated : Seated maxSeats seats) : Seated maxSeats (standUp seats change) :=
  have sublist : (Database.standUp seats change).Sublist seats := List.filter_sublist
  ⟨seated.owners.sublist (sublist.map _), seated.places.sublist (sublist.map _),
    fun p member => seated.inside p (sublist.subset member)⟩

/-- Adding chips moves nobody. -/
theorem map_addChips {Value : Type} (field : EpochParticipant → Value)
    (kept : ∀ (p : EpochParticipant) (stack : Float), field { p with stack := stack } = field p) :
    (addChips seats change).map field = seats.map field := by
  rw [addChips, List.map_map]
  apply List.map_congr_left
  intro p _
  show field (if _ then _ else _) = field p
  split
  · exact kept p _
  · rfl

theorem Seated.addChips (seated : Seated maxSeats seats) :
    Seated maxSeats (addChips seats change) := by
  refine ⟨?_, ?_, ?_⟩
  · rw [map_addChips (·.ownerId) fun _ _ => rfl]
    exact seated.owners
  · rw [map_addChips (·.seatIndex) fun _ _ => rfl]
    exact seated.places
  · intro p member
    have place : p.seatIndex ∈ seats.map (·.seatIndex) := by
      rw [← @map_addChips change seats Int (·.seatIndex) fun _ _ => rfl]
      exact List.mem_map_of_mem member
    rcases List.mem_map.mp place with ⟨q, inside, same⟩
    rw [← same]
    exact seated.inside q inside

theorem Seated.append {new : EpochParticipant} (seated : Seated maxSeats seats)
    (owner : ∀ p ∈ seats, p.ownerId ≠ new.ownerId)
    (place : ∀ p ∈ seats, p.seatIndex ≠ new.seatIndex)
    (inside : ∃ k < maxSeats, new.seatIndex = (k : Int)) : Seated maxSeats (seats ++ [new]) := by
  have apart {Value : Type} (field : EpochParticipant → Value) (distinct : (seats.map field).Nodup)
      (other : ∀ p ∈ seats, field p ≠ field new) : ((seats ++ [new]).map field).Nodup := by
    rw [List.map_append, List.nodup_append]
    refine ⟨distinct, List.nodup_singleton _, ?_⟩
    intro value member fresh single
    rw [List.map_singleton, List.mem_singleton] at single
    rcases List.mem_map.mp member with ⟨p, old, rfl⟩
    rw [single]
    exact other p old
  refine ⟨apart _ seated.owners owner, apart _ seated.places place, ?_⟩
  intro p member
  rcases List.mem_append.mp member with old | fresh
  · exact seated.inside p old
  · rw [List.mem_singleton.mp fresh]
    exact inside

/-! ## One change -/

/-- What deciding a change does, and what it has checked. -/
inductive BoundaryWork.Decides (maxSeats : Nat) (work : BoundaryWork) (change : QueuedSeatChange) :
    BoundaryWork → Prop where
  | rejects (reason : String)
      (full : reason = "no_open_seat" → change.changeType = .join ∧
        ∀ k < maxSeats, ∃ p ∈ work.seats, p.seatIndex = (k : Int)) :
      Decides maxSeats work change (work.reject change reason)
  | leaves (isLeave : change.changeType = .leave) (p : EpochParticipant)
      (found : work.seats.find? (fun p => p.ownerId = change.ownerId) = some p)
      (free : p.allIn = false) :
      Decides maxSeats work change
        { work with
          seats :=
            work.seats.eraseIdx (work.seats.findIdx fun p => p.ownerId = change.ownerId)
          leaves := work.leaves ++ [change]
          appliedIds := work.appliedIds ++ [change.id] }
  | tops (isTopUp : change.changeType = .topUp) :
      Decides maxSeats work change
        { work with
          seats :=
            work.seats.modify (work.seats.findIdx fun s => s.ownerId = change.ownerId)
              fun p => { p with stack := p.stack + change.amount.getD 0 }
          topUps := work.topUps ++ [change]
          appliedIds := work.appliedIds ++ [change.id] }
  | joins (isJoin : change.changeType = .join) (seat : Nat) (inside : seat < maxSeats)
      (empty : ∀ p ∈ work.seats, p.seatIndex ≠ seat)
      (new : ∀ p ∈ work.seats, p.ownerId ≠ change.ownerId) :
      Decides maxSeats work change
        { work with
          seats :=
            work.seats ++ [⟨change.ownerId, seat, change.amount.getD 0, false, change.agentId⟩]
          joins := work.joins ++ [{ change with seatIndex := some (seat : Int) }]
          appliedIds := work.appliedIds ++ [change.id] }

/-- Without a seat for a joiner every seat is taken. -/
theorem taken_of_preferredSeat_eq_none (preferred : work.preferredSeat change maxSeats = none)
    {k : Nat} (inside : k < maxSeats) : ∃ p ∈ work.seats, p.seatIndex = (k : Int) := by
  simp only [BoundaryWork.preferredSeat] at preferred
  have none := List.head?_eq_none_iff.mp (Option.or_eq_none_iff.mp preferred).2
  by_contra free
  have empty : (k : Int) ∈ emptySeatIndices work.seats maxSeats := by
    rw [emptySeatIndices, List.mem_filter]
    refine ⟨List.mem_map_of_mem (List.mem_range.mpr inside), ?_⟩
    rw [List.all_eq_true]
    intro p member
    exact decide_eq_true fun same => free ⟨p, member, same⟩
  rw [none] at empty
  cases empty

theorem decides_applyChange : work.Decides maxSeats change (work.applyChange maxSeats change) := by
  rw [BoundaryWork.applyChange]
  split
  case h_1 isLeave =>
    rw [BoundaryWork.applyLeave]
    split
    case h_1 => exact .rejects _ fun other => absurd other (by decide)
    case h_2 p found =>
      split
      · exact .rejects _ fun other => absurd other (by decide)
      case isFalse free =>
        exact .leaves isLeave p found (Bool.eq_false_iff.mpr free)
  case h_2 isTopUp =>
    rw [BoundaryWork.applyTopUp]
    split
    · exact .rejects _ fun other => absurd other (by decide)
    · split
      · exact .rejects _ fun other => absurd other (by decide)
      · exact .tops isTopUp
  case h_3 isJoin =>
    rw [BoundaryWork.applyJoin]
    split
    · exact .rejects _ fun other => absurd other (by decide)
    case isFalse new =>
      split
      · exact .rejects _ fun other => absurd other (by decide)
      · split
        case h_1 full =>
          exact .rejects _ fun _ =>
            ⟨isJoin, fun k inside => taken_of_preferredSeat_eq_none full inside⟩
        case h_2 seat preferred =>
          rcases preferredSeat_eq_some preferred with ⟨k, rfl, inside, empty⟩
          refine .joins isJoin k inside empty fun p member same => new ?_
          exact List.any_eq_true.mpr ⟨p, member, decide_eq_true same⟩

/-! ## All changes -/

/-- What later changes of a kind still find. -/
structure WorkInOrder (work : BoundaryWork) (rest : List QueuedSeatChange) : Prop where
  sorted : ByRank rest
  leaves : ∀ change ∈ rest, change.changeType = .leave → work.topUps = [] ∧ work.joins = [] ∧
      ∀ entry ∈ work.rejected, entry.reason ≠ "no_open_seat"
  topUps : ∀ change ∈ rest, change.changeType = .topUp → work.joins = []

/-- The plan so far, against the participants it is made from. -/
structure ExactWork (maxSeats : Nat) (participants : List EpochParticipant)
    (work : BoundaryWork) : Prop where
  seated : Seated maxSeats work.seats
  seats : work.seats = executed participants work.leaves work.topUps work.joins
  allIn : ∀ p ∈ participants, p.allIn = true →
    ∃ q ∈ work.seats, q.ownerId = p.ownerId ∧ q.seatIndex = p.seatIndex ∧ q.allIn = true
  full : ∀ entry ∈ work.rejected, entry.reason = "no_open_seat" →
    ∀ k < maxSeats, ∃ p ∈ work.seats, p.seatIndex = (k : Int)

theorem WorkInOrder.step {rest : List QueuedSeatChange} (order : WorkInOrder work (change :: rest))
    (decides : work.Decides maxSeats change after) : WorkInOrder after rest := by
  rcases List.pairwise_cons.mp order.sorted with ⟨least, sorted⟩
  have later (other : QueuedSeatChange) (member : other ∈ rest) :
      other ∈ change :: rest := List.mem_cons_of_mem _ member
  have behind {type : SeatChangeType} (is : change.changeType = type)
      (other : QueuedSeatChange) (member : other ∈ rest)
      (lower : other.changeType.rank < type.rank) : False := by
    have rank := least other member
    rw [is] at rank
    exact absurd lower (Nat.not_lt.mpr rank)
  cases decides with
  | rejects reason full =>
    refine ⟨sorted, ?_, fun other member => order.topUps other (later other member)⟩
    intro other member isLeave
    rcases order.leaves other (later other member) isLeave with ⟨noTopUps, noJoins, open_⟩
    refine ⟨noTopUps, noJoins, ?_⟩
    intro entry inside same
    rcases List.mem_append.mp inside with old | new
    · exact open_ entry old same
    · rw [List.mem_singleton.mp new] at same
      exact behind (full same).1 other member (by rw [isLeave]; decide)
  | leaves isLeave p found free =>
    refine ⟨sorted, ?_, ?_⟩
    · intro other member _
      exact order.leaves change List.mem_cons_self isLeave
    · intro other member _
      exact (order.leaves change List.mem_cons_self isLeave).2.1
  | tops isTopUp =>
    refine ⟨sorted, ?_, ?_⟩
    · intro other member other_is
      exact (behind isTopUp other member (by rw [other_is]; decide)).elim
    · intro other member _
      exact order.topUps change List.mem_cons_self isTopUp
  | joins isJoin seat inside empty new =>
    refine ⟨sorted, ?_, ?_⟩
    · intro other member other_is
      exact (behind isJoin other member (by rw [other_is]; decide)).elim
    · intro other member other_is
      exact (behind isJoin other member (by rw [other_is]; decide)).elim

theorem ExactWork.step {rest : List QueuedSeatChange}
    (exactly : ExactWork maxSeats participants work) (order : WorkInOrder work (change :: rest))
    (decides : work.Decides maxSeats change after) :
    ExactWork maxSeats participants after := by
  have owners := exactly.seated.owners
  cases decides with
  | rejects reason full =>
    refine ⟨exactly.seated, exactly.seats, exactly.allIn, ?_⟩
    intro entry inside same
    rcases List.mem_append.mp inside with old | new
    · exact exactly.full entry old same
    · rw [List.mem_singleton.mp new] at same
      exact (full same).2
  | leaves isLeave leaver found free =>
    rcases order.leaves change List.mem_cons_self isLeave with ⟨noTopUps, noJoins, open_⟩
    have stood := @eraseIdx_findIdx_eq_standUp change work.seats owners
    refine ⟨?_, ?_, ?_, ?_⟩
    · show Seated maxSeats (work.seats.eraseIdx _)
      rw [stood]
      exact exactly.seated.standUp
    · show work.seats.eraseIdx _ = executed _ _ work.topUps work.joins
      have seats := exactly.seats
      rw [noTopUps, noJoins] at seats ⊢
      rw [stood, seats]
      exact executed_leave.symm
    · intro p member allIn
      rcases exactly.allIn p member allIn with ⟨q, seated, owner, place, stays⟩
      refine ⟨q, ?_, owner, place, stays⟩
      apply mem_eraseIdx_findIdx seated
      intro same
      have isLeaver : q = leaver := by
        have taken := List.find?_some found
        have there := List.mem_of_find?_eq_some found
        exact List.inj_on_of_nodup_map owners seated there
          (same.trans (of_decide_eq_true taken).symm)
      rw [← isLeaver, stays] at free
      cases free
    · intro entry inside same
      exact absurd same (open_ entry inside)
  | tops isTopUp =>
    have noJoins := order.topUps change List.mem_cons_self isTopUp
    have topped := @modify_findIdx_eq_addChips change work.seats owners
    have kept (q : EpochParticipant) (seated : q ∈ work.seats) :
        ∃ r ∈ addChips work.seats change, r.ownerId = q.ownerId ∧
          r.seatIndex = q.seatIndex ∧ r.allIn = q.allIn := by
      refine ⟨_, List.mem_map_of_mem seated, ?_⟩
      split <;> exact ⟨rfl, rfl, rfl⟩
    refine ⟨?_, ?_, ?_, ?_⟩
    · show Seated maxSeats (work.seats.modify _ _)
      rw [topped]
      exact exactly.seated.addChips
    · show work.seats.modify _ _ = executed _ work.leaves _ work.joins
      have seats := exactly.seats
      rw [noJoins] at seats ⊢
      rw [topped, seats]
      exact executed_topUp.symm
    · intro p member allIn
      rcases exactly.allIn p member allIn with ⟨q, seated, owner, place, stays⟩
      rcases kept q seated with ⟨r, there, sameOwner, samePlace, same⟩
      refine ⟨r, ?_, sameOwner.trans owner, samePlace.trans place, same.trans stays⟩
      show r ∈ work.seats.modify _ _
      rw [topped]
      exact there
    · intro entry inside same k bound
      rcases exactly.full entry inside same k bound with ⟨p, seated, place⟩
      rcases kept p seated with ⟨r, there, _, samePlace, _⟩
      refine ⟨r, ?_, samePlace.trans place⟩
      show r ∈ work.seats.modify _ _
      rw [topped]
      exact there
  | joins isJoin seat inside empty new =>
    refine ⟨exactly.seated.append new empty ⟨seat, inside, rfl⟩, ?_, ?_, ?_⟩
    · show work.seats ++ _ = executed _ work.leaves work.topUps _
      rw [executed_join, ← exactly.seats]
      rfl
    · intro p member allIn
      rcases exactly.allIn p member allIn with ⟨q, seated, same⟩
      exact ⟨q, List.mem_append_left _ seated, same⟩
    · intro entry member same k bound
      rcases exactly.full entry member same k bound with ⟨p, seated, place⟩
      exact ⟨p, List.mem_append_left _ seated, place⟩

theorem ExactWork.foldl {changes : List QueuedSeatChange}
    (exactly : ExactWork maxSeats participants work) (order : WorkInOrder work changes) :
    ExactWork maxSeats participants
      (changes.foldl (fun work change => work.applyChange maxSeats change) work) := by
  induction changes generalizing work with
  | nil => exact exactly
  | cons change changes induction =>
    exact induction (exactly.step order decides_applyChange)
      (order.step (@decides_applyChange maxSeats work change))

/-! ## Plans -/

/-- The changes an epoch boundary looks at. -/
def QueuedSeatChange.Aimed (currentEpoch : Nat) (change : QueuedSeatChange) : Prop :=
  change.status = .pending ∧ (change.targetEpoch = currentEpoch ∨
      change.targetEpoch = currentEpoch + 1)

/-- A plan that is sound and complete for the changes aimed at it. -/
structure ExactPlan (currentEpoch : Nat) (participants : List EpochParticipant)
    (pending : List QueuedSeatChange) (maxSeats : Nat) (plan : EpochBoundaryPlan) : Prop where
  decided : ∀ change ∈ pending, change.Aimed currentEpoch → Xor' (change.id ∈ plan.appliedIds)
      (change.id ∈ plan.rejected.map (·.id))
  once : plan.ids.Nodup
  aimed : ∀ id ∈ plan.ids, ∃ change ∈ pending, change.id = id ∧ change.Aimed currentEpoch
  applied : plan.appliedIds.Perm ((plan.leaves ++ plan.topUps ++ plan.joins).map (·.id))
  leaves : ∀ leave ∈ plan.leaves, leave ∈ pending ∧ leave.changeType = .leave
  topUps : ∀ topUp ∈ plan.topUps, topUp ∈ pending ∧ topUp.changeType = .topUp
  joins : ∀ join ∈ plan.joins, ∃ change ∈ pending, change.changeType = .join ∧
      ∃ k < maxSeats, join = { change with seatIndex := some (k : Int) }
  seated : Seated maxSeats plan.nextParticipants
  result : plan.nextParticipants =
    (executed participants plan.leaves plan.topUps plan.joins).insertionSort
      fun a b => a.seatIndex ≤ b.seatIndex
  unnamed : ∀ p ∈ participants, (∀ change ∈ plan.leaves ++ plan.topUps ++ plan.joins,
      change.ownerId ≠ p.ownerId) → p ∈ plan.nextParticipants
  allIn : ∀ p ∈ participants, p.allIn = true → ∃ q ∈ plan.nextParticipants,
      q.ownerId = p.ownerId ∧ q.seatIndex = p.seatIndex ∧ q.allIn = true
  full : ∀ entry ∈ plan.rejected, entry.reason = "no_open_seat" →
    ∀ k < maxSeats, ∃ p ∈ plan.nextParticipants, p.seatIndex = (k : Int)

namespace Replays

def leaveOf (targetEpoch : Nat) : QueuedSeatChange where
  id := "l"
  targetEpoch := targetEpoch
  changeType := .leave
  status := .pending
  ownerId := "a"
  agentId := none
  agentConfigId := none
  seatIndex := none
  amount := none
  profileKey := none
  payload := ""
  requestedAt := none

def sitter : EpochParticipant := ⟨"a", 0, 10, false, none⟩

end Replays

end Mozetto.Database
