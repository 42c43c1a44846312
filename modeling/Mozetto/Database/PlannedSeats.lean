import Mozetto.Database.EpochRotation

/-!
# The seats of a plan

What a plan says about the seats: who is not planned to leave keeps the seat,
and every planned join has a seat of its own that nobody keeps.  The changes
that are marked as applied are the planned ones.
-/

namespace Mozetto.Database

variable {maxSeats : Nat}
variable {work after : BoundaryWork} {change : QueuedSeatChange}
variable {participants : List EpochParticipant}

/-! ## One change -/

/-- What applying a change does to the plan so far. -/
inductive BoundaryWork.Applies (maxSeats : Nat) (work : BoundaryWork) (change : QueuedSeatChange) :
    BoundaryWork → Prop where
  | rejects (reason : String) : Applies maxSeats work change (work.reject change reason)
  | leaves (isLeave : change.changeType = .leave) :
      Applies maxSeats work change
        { work with
          seats :=
            work.seats.eraseIdx (work.seats.findIdx fun p => p.ownerId = change.ownerId)
          leaves := work.leaves ++ [change]
          appliedIds := work.appliedIds ++ [change.id] }
  | tops (isTopUp : change.changeType = .topUp) (positive : 0 < change.amount.getD 0) :
      Applies maxSeats work change
        { work with
          seats :=
            work.seats.modify (work.seats.findIdx fun s => s.ownerId = change.ownerId)
              fun p => { p with stack := p.stack + change.amount.getD 0 }
          topUps := work.topUps ++ [change]
          appliedIds := work.appliedIds ++ [change.id] }
  | joins (isJoin : change.changeType = .join) (seat : Nat) (inside : seat < maxSeats)
      (empty : ∀ p ∈ work.seats, p.seatIndex ≠ seat) :
      Applies maxSeats work change
        { work with
          seats :=
            work.seats ++ [⟨change.ownerId, seat, change.amount.getD 0, false, change.agentId⟩]
          joins := work.joins ++ [{ change with seatIndex := some (seat : Int) }]
          appliedIds := work.appliedIds ++ [change.id] }

/-- A planned seat is one that nobody has. -/
theorem preferredSeat_eq_some {seat : Int}
    (preferred : work.preferredSeat change maxSeats = some seat) :
    ∃ k : Nat, seat = k ∧ k < maxSeats ∧ ∀ p ∈ work.seats, p.seatIndex ≠ k := by
  have empty : seat ∈ emptySeatIndices work.seats maxSeats := by
    simp only [BoundaryWork.preferredSeat] at preferred
    rcases Option.or_eq_some_iff.mp preferred with asked | ⟨-, first⟩
    · rw [Option.filter_eq_some_iff] at asked
      exact of_decide_eq_true asked.2
    · exact List.mem_of_mem_head? first
  simp only [emptySeatIndices, List.mem_filter, List.mem_map,
    List.mem_range, List.all_eq_true, decide_eq_true_eq] at empty
  rcases empty with ⟨⟨k, inside, rfl⟩, free⟩
  exact ⟨k, rfl, inside, free⟩

theorem applies_applyChange : work.Applies maxSeats change (work.applyChange maxSeats change) := by
  rw [BoundaryWork.applyChange]
  split
  case h_1 isLeave =>
    rw [BoundaryWork.applyLeave]
    split
    · exact .rejects _
    · split
      · exact .rejects _
      · exact .leaves isLeave
  case h_2 isTopUp =>
    rw [BoundaryWork.applyTopUp]
    split
    · exact .rejects _
    · split
      · exact .rejects _
      case isFalse positive => exact .tops isTopUp (Decidable.not_not.mp positive)
  case h_3 isJoin =>
    rw [BoundaryWork.applyJoin]
    split
    · exact .rejects _
    · split
      · exact .rejects _
      · split
        case h_1 => exact .rejects _
        case h_2 seat preferred =>
          rcases preferredSeat_eq_some preferred with ⟨k, rfl, inside, empty⟩
          exact .joins isJoin k inside empty

theorem BoundaryWork.Applies.joins_eq (applies : work.Applies maxSeats change after)
    (other : change.changeType ≠ .join) : after.joins = work.joins := by
  cases applies with
  | joins isJoin seat inside empty => exact absurd isJoin other
  | _ => rfl

/-! ## Leaves come first -/

/-- Changes in the order in which they are applied. -/
def ByRank (changes : List QueuedSeatChange) : Prop :=
  changes.Pairwise fun a b => a.changeType.rank ≤ b.changeType.rank

theorem byRank_orderedInsert {localeCompare : String → String → Int}
    {changes : List QueuedSeatChange} (sorted : ByRank changes) : ByRank
    (changes.orderedInsert (QueuedSeatChange.Before localeCompare) change) := by
  induction changes with
  | nil => exact List.pairwise_singleton _ _
  | cons first changes induction =>
    rcases List.pairwise_cons.mp sorted with ⟨least, sorted⟩
    rw [List.orderedInsert_cons]
    split
    case isTrue ahead =>
      have lower : change.changeType.rank ≤ first.changeType.rank := by
        rcases ahead with less | ⟨equal, -⟩
        · exact less.le
        · exact equal.le
      refine List.pairwise_cons.mpr ⟨?_, List.pairwise_cons.mpr ⟨least, sorted⟩⟩
      intro other mem
      rcases List.mem_cons.mp mem with rfl | mem
      · exact lower
      · exact lower.trans (least other mem)
    case isFalse behind =>
      refine List.pairwise_cons.mpr ⟨?_, induction sorted⟩
      intro other mem
      rw [List.mem_orderedInsert] at mem
      rcases mem with rfl | mem
      · by_contra less
        exact behind (.inl (not_le.mp less))
      · exact least other mem

theorem byRank_relevantChanges {localeCompare : String → String → Int} {currentEpoch : Nat}
    {pending : List QueuedSeatChange} :
    ByRank (relevantChanges localeCompare currentEpoch pending) := by
  rw [relevantChanges]
  generalize (List.filter _ _ : List QueuedSeatChange) = changes
  induction changes with
  | nil => exact List.Pairwise.nil
  | cons change changes induction =>
    rw [List.insertionSort_cons]
    exact byRank_orderedInsert induction

/-! ## Seats -/

/-- A participant whose leave is not planned. -/
def Stays (leaves : List QueuedSeatChange) (p : EpochParticipant) : Prop :=
  ∀ leave ∈ leaves, leave.ownerId ≠ p.ownerId

/-- The seats while a plan is made. -/
structure SeatsPlanned (maxSeats : Nat) (participants : List EpochParticipant)
    (work : BoundaryWork) : Prop where
  keeps : ∀ p ∈ participants, Stays work.leaves p →
      ∃ q ∈ work.seats, q.seatIndex = p.seatIndex ∧ q.ownerId = p.ownerId
  spares : ∀ join ∈ work.joins, ∀ p ∈ participants, Stays work.leaves p →
      join.seatIndex ≠ some p.seatIndex
  held : ∀ join ∈ work.joins, ∃ q ∈ work.seats, join.seatIndex = some q.seatIndex
  inside : ∀ join ∈ work.joins, ∃ k < maxSeats, join.seatIndex = some (k : Int)
  apart : (work.joins.map (·.seatIndex)).Nodup

theorem Stays.of_append {leaves : List QueuedSeatChange}
    {p : EpochParticipant} (stays : Stays (leaves ++ [change]) p) :
    Stays leaves p ∧ change.ownerId ≠ p.ownerId :=
  ⟨fun leave mem => stays leave (List.mem_append_left _ mem),
    stays change (List.mem_append_right _ List.mem_cons_self)⟩

/-- Adding chips to a participant moves nobody. -/
theorem exists_mem_modify {seats : List EpochParticipant} {index : Nat} {amount : Float}
    {q : EpochParticipant} (mem : q ∈ seats) :
    ∃ r ∈ seats.modify index fun p => { p with stack := p.stack + amount },
      r.seatIndex = q.seatIndex ∧ r.ownerId = q.ownerId := by
  rcases List.mem_iff_getElem?.mp mem with ⟨k, found⟩
  by_cases same : index = k
  · refine ⟨{ q with stack := q.stack + amount }, ?_, rfl, rfl⟩
    rw [List.mem_iff_getElem?]
    refine ⟨k, ?_⟩
    rw [List.getElem?_modify, found, same]
    simp
  · refine ⟨q, ?_, rfl, rfl⟩
    rw [List.mem_iff_getElem?]
    refine ⟨k, ?_⟩
    rw [List.getElem?_modify, found]
    simp [same]

/-- Taking out the leaver takes out nobody else. -/
theorem mem_eraseIdx_findIdx {seats : List EpochParticipant} {ownerId : String}
    {q : EpochParticipant} (mem : q ∈ seats) (other : q.ownerId ≠ ownerId) :
    q ∈ seats.eraseIdx (seats.findIdx fun p => p.ownerId = ownerId) := by
  rcases List.mem_iff_getElem?.mp mem with ⟨k, found⟩
  rw [List.mem_eraseIdx_iff_getElem?]
  refine ⟨k, ?_, found⟩
  rintro rfl
  rcases List.getElem?_eq_some_iff.mp found with ⟨bound, here⟩
  have holds := List.findIdx_getElem (w := bound)
  rw [here, decide_eq_true_eq] at holds
  exact other holds

theorem SeatsPlanned.applies (planned : SeatsPlanned maxSeats participants work)
    (applies : work.Applies maxSeats change after)
    (first : change.changeType = .leave → work.joins = []) :
    SeatsPlanned maxSeats participants after := by
  cases applies with
  | rejects reason => exact { planned with }
  | leaves isLeave =>
    have none := first isLeave
    refine ⟨?_, ?_, ?_, ?_, ?_⟩
    · intro p mem stays
      rcases stays.of_append with ⟨stays, other⟩
      rcases planned.keeps p mem stays with ⟨q, seated, place, owner⟩
      refine ⟨q, ?_, place, owner⟩
      apply mem_eraseIdx_findIdx seated
      rw [owner]
      exact other.symm
    all_goals simp [none]
  | tops isTopUp positive =>
    refine ⟨?_, planned.spares, ?_, planned.inside, planned.apart⟩
    · intro p mem stays
      rcases planned.keeps p mem stays with ⟨q, seated, place, owner⟩
      rcases exists_mem_modify seated with ⟨r, mem, samePlace, sameOwner⟩
      exact ⟨r, mem, samePlace.trans place, sameOwner.trans owner⟩
    · intro join mem
      rcases planned.held join mem with ⟨q, seated, place⟩
      rcases exists_mem_modify seated with ⟨r, mem, samePlace, -⟩
      exact ⟨r, mem, by rw [place, samePlace]⟩
  | joins isJoin seat inside empty =>
    refine ⟨?_, ?_, ?_, ?_, ?_⟩
    · intro p mem stays
      rcases planned.keeps p mem stays with ⟨q, seated, same⟩
      exact ⟨q, List.mem_append_left _ seated, same⟩
    · intro join mem p participant stays
      rcases List.mem_append.mp mem with before | new
      · exact planned.spares join before p participant stays
      · rw [List.mem_singleton.mp new]
        intro same
        rcases planned.keeps p participant stays with ⟨q, seated, place, -⟩
        apply empty q seated
        rw [place]
        exact (Option.some.inj same).symm
    · intro join mem
      rcases List.mem_append.mp mem with before | new
      · rcases planned.held join before with ⟨q, seated, place⟩
        exact ⟨q, List.mem_append_left _ seated, place⟩
      · rw [List.mem_singleton.mp new]
        exact ⟨_, List.mem_append_right _ List.mem_cons_self, rfl⟩
    · intro join mem
      rcases List.mem_append.mp mem with before | new
      · exact planned.inside join before
      · rw [List.mem_singleton.mp new]
        exact ⟨seat, inside, rfl⟩
    · rw [List.map_append, List.nodup_append]
      refine ⟨planned.apart, List.nodup_singleton _, ?_⟩
      intro taken mem fresh new same
      rw [List.map_singleton, List.mem_singleton] at new
      rcases List.mem_map.mp mem with ⟨join, before, rfl⟩
      rcases planned.held join before with ⟨q, seated, place⟩
      apply empty q seated
      rw [new, place] at same
      exact Option.some.inj same

/-- Joins are planned only once no more leaves follow. -/
def LeavesFirst (work : BoundaryWork) (rest : List QueuedSeatChange) : Prop :=
  work.joins = [] ∨ ∀ change ∈ rest, change.changeType ≠ .leave

theorem SeatsPlanned.foldl {changes : List QueuedSeatChange}
    (planned : SeatsPlanned maxSeats participants work)
    (sorted : ByRank changes) (leavesFirst : LeavesFirst work changes) :
    SeatsPlanned maxSeats participants
      (changes.foldl (fun work change => work.applyChange maxSeats change) work) := by
  induction changes generalizing work with
  | nil => exact planned
  | cons change changes induction =>
    rcases List.pairwise_cons.mp sorted with ⟨least, sorted⟩
    have applies := @applies_applyChange maxSeats work change
    refine induction (planned.applies applies ?_) sorted ?_
    · intro isLeave
      rcases leavesFirst with none | others
      · exact none
      · exact absurd isLeave (others change List.mem_cons_self)
    · rw [LeavesFirst]
      rcases leavesFirst with none | others
      · cases isJoin : change.changeType with
        | join =>
          right
          intro other mem isLeave
          have rank := least other mem
          rw [isJoin, isLeave] at rank
          exact absurd rank (by decide)
        | leave =>
          left
          rw [applies.joins_eq (by simp [isJoin]), none]
        | topUp =>
          left
          rw [applies.joins_eq (by simp [isJoin]), none]
      · right
        intro other mem
        exact others other (List.mem_cons_of_mem _ mem)

/-! ## Marks -/

/-- The lists of a plan hold the changes that are marked as applied. -/
structure Marked (changes : List QueuedSeatChange) (work : BoundaryWork) : Prop where
  ids : work.appliedIds.Perm ((work.leaves ++ work.topUps ++ work.joins).map (·.id))
  leaves : ∀ change ∈ work.leaves, change ∈ changes ∧ change.changeType = .leave
  topUps : ∀ change ∈ work.topUps, change ∈ changes ∧ change.changeType = .topUp ∧
        0 < change.amount.getD 0
  joins :
    ∀ join ∈ work.joins, ∃ change ∈ changes, change.changeType = .join ∧
          join = { change with seatIndex := join.seatIndex }

theorem Marked.applies {changes : List QueuedSeatChange} (marked : Marked changes work)
    (mem : change ∈ changes) (applies : work.Applies maxSeats change after) :
    Marked changes after := by
  cases applies with
  | rejects reason => exact { marked with }
  | leaves isLeave =>
    refine ⟨?_, ?_, marked.topUps, marked.joins⟩
    · simp only [List.map_append, List.append_assoc, List.map_cons, List.map_nil]
      refine (marked.ids.append_right _).trans ?_
      simp only [List.map_append, List.append_assoc]
      refine List.Perm.append_left _ ?_
      rw [← List.append_assoc]
      exact List.perm_append_comm
    · intro other member
      rcases List.mem_append.mp member with before | new
      · exact marked.leaves other before
      · rw [List.mem_singleton.mp new]
        exact ⟨mem, isLeave⟩
  | tops isTopUp positive =>
    refine ⟨?_, marked.leaves, ?_, marked.joins⟩
    · simp only [List.map_append, List.append_assoc, List.map_cons, List.map_nil]
      refine (marked.ids.append_right _).trans ?_
      simp only [List.map_append, List.append_assoc]
      exact (List.perm_append_comm.append_left _).append_left _
    · intro other member
      rcases List.mem_append.mp member with before | new
      · exact marked.topUps other before
      · rw [List.mem_singleton.mp new]
        exact ⟨mem, isTopUp, positive⟩
  | joins isJoin seat inside empty =>
    refine ⟨?_, marked.leaves, marked.topUps, ?_⟩
    · simp only [List.map_append, List.map_cons, List.map_nil]
      refine (marked.ids.append_right _).trans ?_
      simp only [List.map_append, List.append_assoc]
      exact List.Perm.refl _
    · intro join member
      rcases List.mem_append.mp member with before | new
      · exact marked.joins join before
      · rw [List.mem_singleton.mp new]
        exact ⟨change, mem, isJoin, rfl⟩

theorem Marked.foldl {changes rest : List QueuedSeatChange} (marked : Marked changes work)
    (within : ∀ change ∈ rest, change ∈ changes) : Marked changes
    (rest.foldl (fun work change => work.applyChange maxSeats change) work) := by
  induction rest generalizing work with
  | nil => exact marked
  | cons change rest induction =>
    apply induction (marked.applies (within change List.mem_cons_self) applies_applyChange)
    intro other mem
    exact within other (List.mem_cons_of_mem _ mem)

end Mozetto.Database
