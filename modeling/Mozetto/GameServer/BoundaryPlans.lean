import Mozetto.Database.PlannedSeats
import Mozetto.GameServer.EpochBoundary

/-!
# What a boundary records

A boundary has done what it records exactly when none of the planned changes
is refused.  Leaves are never refused; a refused top-up is one that is missing
from its stack, and a refused join leaves the planned seat empty, because no
other change of the plan is for that seat.
-/

namespace Mozetto.GameServer.Boundary

open Mozetto.Engine
open Mozetto.Database

variable {seatCount : Nat}
variable {game before after : BoundaryTable seatCount}
variable {plan : EpochBoundaryPlan}
variable {change : QueuedSeatChange}
variable {userId agentId : String}
variable {i j : Fin seatCount}

/-! ## Seats -/

/-- Nobody has two seats. -/
def OneSeatEach (game : BoundaryTable seatCount) : Prop :=
  ∀ i j, (game.seat i).playerId ≠ "" → (game.seat i).playerId = (game.seat j).playerId → i = j

/-- Player and stack of a seat. -/
def SameSitter (seat other : SeatState) : Prop :=
  other.playerId = seat.playerId ∧ other.stack = seat.stack

theorem SameSitter.refl (seat : SeatState) : SameSitter seat seat := ⟨rfl, rfl⟩

/-- Seats are left as they are, or emptied. -/
def Vacates (before after : BoundaryTable seatCount) : Prop :=
  ∀ i,
    (after.seat i).playerId = "" ∨ SameSitter (before.seat i) (after.seat i)

theorem Vacates.refl : Vacates game game := fun _ => .inr (.refl _)

theorem Vacates.trans {middle : BoundaryTable seatCount}
    (first : Vacates before middle) (second : Vacates middle after) :
    Vacates before after := by
  intro i
  rcases second i with empty | ⟨player, stack⟩
  · exact .inl empty
  · rcases first i with empty | ⟨samePlayer, sameStack⟩
    · exact .inl (player.trans empty)
    · exact .inr ⟨player.trans samePlayer, stack.trans sameStack⟩

theorem Vacates.oneSeatEach (vacates : Vacates before after) (single : OneSeatEach before) :
    OneSeatEach after := by
  intro i j seated same
  rcases vacates i with empty | ⟨left, -⟩
  · exact absurd empty seated
  · rcases vacates j with empty | ⟨right, -⟩
    · exact absurd (same.trans empty) seated
    · apply single i j
      · rwa [← left]
      · rw [← left, ← right]
        exact same

theorem seatOf_eq_some (found : game.table.seatOf userId = some i) :
    (game.seat i).playerId = userId := by
  have holds := List.find?_some found
  rwa [decide_eq_true_eq] at holds

theorem exists_seatOf (seated : (game.seat i).playerId = userId) :
    ∃ j, game.table.seatOf userId = some j := by
  cases found : game.table.seatOf userId with
  | some j => exact ⟨j, rfl⟩
  | none =>
    have absent := List.find?_eq_none.mp found i (List.mem_finRange i)
    exact absurd (decide_eq_true seated) absent

/-- A user is found in the only seat. -/
theorem OneSeatEach.seatOf
    (single : OneSeatEach game) (named : userId ≠ "")
    (seated : (game.seat i).playerId = userId) :
    game.table.seatOf userId = some i := by
  rcases exists_seatOf seated with ⟨j, found⟩
  have there := seatOf_eq_some found
  have same : i = j := by
    apply single i j
    · rwa [seated]
    · rw [seated, there]
  rw [found, same]

/-! ## Leaving -/

theorem vacates_resetToWaiting :
    Vacates game { game with table := game.table.resetToWaiting fun _ => none } :=
  fun _ => .inr ⟨rfl, rfl⟩

theorem vacates_vacateAll : Vacates game game.vacateAll := by
  intro i
  left
  show (if (game.seat i).playerId = "" then game.seat i
      else (clearSeat game.table.state i).seats i).playerId = ""
  split
  case isTrue empty => exact empty
  case isFalse => simp [clearSeat, mapSeat]

theorem vacates_close : Vacates game game.closeOnchainTableAfterUndermannedLeave := by
  simp only [BoundaryTable.closeOnchainTableAfterUndermannedLeave]
  split
  · exact fun _ => .inr ⟨rfl, rfl⟩
  · split
    · exact fun _ => .inr ⟨rfl, rfl⟩
    · have vacated := @vacates_vacateAll _ game.loadOnchainSession
      exact fun i => vacated i

theorem vacates_resetIfAlone : Vacates game game.resetIfAlone := by
  simp only [BoundaryTable.resetIfAlone]
  split
  · exact vacates_resetToWaiting
  · exact .refl

theorem seat_vacate : (game.vacate userId i).seat j =
    if j = i then (clearSeat game.table.state i).seats i
    else game.seat j := by
  show (clearSeat game.table.state i).seats j = _
  by_cases same : j = i
  · rw [same, if_pos rfl]
  · have other : j.val ≠ i.val := fun equal => same (Fin.ext equal)
    rw [if_neg same]
    simp [clearSeat, mapSeat, other, BoundaryTable.seat]

theorem vacates_vacate : Vacates game (game.vacate userId i) := by
  intro j
  rw [seat_vacate]
  split
  · left
    simp [clearSeat, mapSeat]
  · exact .inr (.refl _)

/-- A leave empties the seat of its player, and no seat gets a new one. -/
theorem leaveUnlocked_spec (single : OneSeatEach game) (named : userId ≠ "") :
    Vacates game (game.leaveUnlocked userId) ∧
      ∀ i, ((game.leaveUnlocked userId).seat i).playerId ≠ userId := by
  rw [BoundaryTable.leaveUnlocked]
  split
  case h_1 absent =>
    have nowhere : ∀ i, (game.seat i).playerId ≠ userId := by
      intro i seated
      have found := single.seatOf named seated
      rw [found, Option.filter_some, if_pos] at absent
      · cases absent
      · rw [seated]
        exact decide_eq_true named
    split
    · exact ⟨fun _ => .inr ⟨rfl, rfl⟩, nowhere⟩
    · exact ⟨fun _ => .inr ⟨rfl, rfl⟩, nowhere⟩
  case h_2 i found =>
    rw [Option.filter_eq_some_iff] at found
    have there := seatOf_eq_some found.1
    have vacates := @vacates_vacate _ game userId i
    have gone : ∀ j, ((game.vacate userId i).seat j).playerId ≠ userId := by
      intro j seated
      rw [seat_vacate] at seated
      split at seated
      case isTrue =>
        simp only [clearSeat, mapSeat, if_true] at seated
        exact named seated.symm
      case isFalse other =>
        apply other
        apply single j i
        · rwa [seated]
        · rw [seated, there]
    have kept {after : BoundaryTable seatCount} (later : Vacates (game.vacate userId i) after) :
        Vacates game after ∧ ∀ j, (after.seat j).playerId ≠ userId := by
      refine ⟨vacates.trans later, ?_⟩
      intro j seated
      rcases later j with empty | ⟨player, -⟩
      · exact named (seated.symm.trans empty)
      · exact gone j (player.symm.trans seated)
    simp only
    split
    · exact kept (vacates_resetIfAlone.trans vacates_close)
    · exact kept vacates_resetIfAlone

/-! ## Topping up -/

theorem seat_addChips {chips : Int} :
    SameSitter
      { game.seat j with
        stack := (game.seat j).stack + if j = i then chips else 0 }
      ((game.table.addChips i chips).state.seats j) := by
  have apart (other : j ≠ i) : j.val ≠ i.val := fun equal => other (Fin.ext equal)
  rw [SitOuts.TableRuntime.addChips]
  by_cases same : j = i
  · subst same
    simp only [if_true]
    split
    · simp [SameSitter, mapSeat, BoundaryTable.seat]
    · split <;> simp [SameSitter, mapSeat, BoundaryTable.seat]
  · simp only [if_neg same, add_zero]
    split
    · simp [SameSitter, mapSeat, apart same, BoundaryTable.seat]
    · split <;>
        simp [SameSitter, mapSeat, apart same, BoundaryTable.seat]

/-- A top-up pays the seat of its player. -/
theorem seat_payTopUp {amount : Float}
    (single : OneSeatEach game) (named : userId ≠ "")
    (seated : ∃ i, (game.seat i).playerId = userId) (j : Fin seatCount) :
    SameSitter
      { game.seat j with
        stack :=
          (game.seat j).stack + if (game.seat j).playerId = userId then usdToChips amount
            else 0 }
      ((game.payTopUp userId amount).seat j) := by
  rcases seated with ⟨i, there⟩
  have found := single.seatOf named there
  have here : (game.seat j).playerId = userId ↔ j = i := by
    constructor
    · intro seated
      apply single j i
      · rwa [seated]
      · rw [seated, there]
    · rintro rfl
      exact there
  have paid := @seat_addChips _ game i j (usdToChips amount)
  simp only [here]
  rw [BoundaryTable.payTopUp, found]
  exact paid

/-- Players stay where they are. -/
def SamePlayers (before after : BoundaryTable seatCount) : Prop :=
  ∀ i, (after.seat i).playerId = (before.seat i).playerId

theorem SamePlayers.oneSeatEach (same : SamePlayers before after) (single : OneSeatEach before) :
    OneSeatEach after := by
  intro i j seated equal
  rw [same i] at seated equal
  rw [same j] at equal
  exact single i j seated equal

theorem seated_of_topUpRefusal {amount : Float}
    (accepted : game.topUpRefusal userId amount = none) :
    0 < amount ∧ ∃ i, (game.seat i).playerId = userId := by
  rw [BoundaryTable.topUpRefusal] at accepted
  split at accepted
  case isTrue => cases accepted
  case isFalse positive =>
    split at accepted
    case h_1 => cases accepted
    case h_2 i found =>
      exact ⟨Decidable.not_not.mp positive, i, seatOf_eq_some found⟩

theorem toppedUp_cons {top : QueuedSeatChange} {topUps : List QueuedSeatChange} :
    toppedUp (top :: topUps) userId =
      (if userId = top.ownerId then usdToChips (top.amount.getD 0) else 0) +
        toppedUp topUps userId := by
  by_cases same : userId = top.ownerId
  · subst same
    simp [toppedUp]
  · have other : ¬ top.ownerId = userId := fun equal => same equal.symm
    simp [toppedUp, same, other]

/-- Accepted top-ups pay every stack what is planned for it. -/
theorem seat_payTopUps {topUps : List QueuedSeatChange} (single : OneSeatEach game)
    (named : ∀ top ∈ topUps, top.ownerId ≠ "")
    (accepted : TopUpsAccepted game topUps) :
    OneSeatEach (payTopUps game topUps) ∧ ∀ j, SameSitter
          { game.seat j with
            stack :=
              (game.seat j).stack + toppedUp topUps (game.seat j).playerId }
          ((payTopUps game topUps).seat j) := by
  induction topUps generalizing game with
  | nil =>
    refine ⟨single, fun j => ⟨rfl, ?_⟩⟩
    simp [toppedUp, payTopUps]
  | cons top topUps induction =>
    have seated := (seated_of_topUpRefusal accepted.1).2
    have name := named top List.mem_cons_self
    have paid := @seat_payTopUp _ _ _ (top.amount.getD 0) single name seated
    have stays : SamePlayers game (game.payTopUp top.ownerId (top.amount.getD 0)) :=
      fun j => (paid j).1
    have rest :=
      induction (stays.oneSeatEach single)
        (fun other mem => named other (List.mem_cons_of_mem _ mem)) accepted.2
    refine ⟨rest.1, fun j => ⟨?_, ?_⟩⟩
    · exact (rest.2 j).1.trans (paid j).1
    · have stack := (rest.2 j).2
      rw [(paid j).1, (paid j).2] at stack
      rw [toppedUp_cons, ← add_assoc]
      exact stack

/-- Whoever is topped up has a seat. -/
theorem seated_of_topUpsAccepted {topUps : List QueuedSeatChange} (single : OneSeatEach game)
    (named : ∀ top ∈ topUps, top.ownerId ≠ "")
    (accepted : TopUpsAccepted game topUps) :
    ∀ top ∈ topUps, ∃ i, (game.seat i).playerId = top.ownerId := by
  induction topUps generalizing game with
  | nil =>
    intro top mem
    cases mem
  | cons first topUps induction =>
    have seated := (seated_of_topUpRefusal accepted.1).2
    have paid :=
      @seat_payTopUp _ _ _ (first.amount.getD 0) single (named first List.mem_cons_self) seated
    have stays : SamePlayers game (game.payTopUp first.ownerId (first.amount.getD 0)) :=
      fun j => (paid j).1
    intro top mem
    rcases List.mem_cons.mp mem with rfl | mem
    · exact seated
    · rcases induction (stays.oneSeatEach single)
            (fun other mem => named other (List.mem_cons_of_mem _ mem)) accepted.2 top mem with
        ⟨i, there⟩
      exact ⟨i, (stays i).symm.trans there⟩

theorem toppedUp_append {done rest : List QueuedSeatChange} : toppedUp (done ++ rest) userId =
    toppedUp done userId + toppedUp rest userId := by
  simp [toppedUp]

theorem toppedUp_nonneg {topUps : List QueuedSeatChange}
    (cents : ∀ top ∈ topUps, 0 < usdToChips (top.amount.getD 0)) : 0 ≤ toppedUp topUps userId := by
  apply List.sum_nonneg
  intro chips mem
  rcases List.mem_map.mp mem with ⟨top, member, rfl⟩
  exact (cents top (List.mem_of_mem_filter member)).le

/-- What the loop over the top-ups has done when it ends. -/
theorem applyTopUps_spec (topUps : List QueuedSeatChange) : ∀ game : BoundaryTable seatCount,
    (∀ top ∈ topUps, 0 < top.amount.getD 0) → TopUpsAccepted game topUps ∧
          BoundaryTable.applyTopUps game topUps = (payTopUps game topUps, none) ∨
        ¬ TopUpsAccepted game topUps ∧ ∃ done top rest err,
            topUps = done ++ top :: rest ∧ TopUpsAccepted game done ∧
              BoundaryTable.applyTopUps game topUps = (payTopUps game done, some err) := by
  induction topUps with
  | nil =>
    intro game _
    exact .inl ⟨trivial, rfl⟩
  | cons top topUps induction =>
    intro game positive
    have amount := positive top List.mem_cons_self
    rw [BoundaryTable.applyTopUps]
    simp only [if_pos amount, BoundaryTable.topUp]
    cases refusal : game.topUpRefusal top.ownerId (top.amount.getD 0) with
    | some err =>
      refine .inr ⟨?_, [], top, topUps, err, rfl, trivial, rfl⟩
      intro accepted
      rw [TopUpsAccepted, refusal] at accepted
      cases accepted.1
    | none =>
      rcases induction (game.payTopUp top.ownerId (top.amount.getD 0))
            (fun other mem => positive other (List.mem_cons_of_mem _ mem))
        with ⟨accepted, carried⟩ | ⟨refused, done, next, rest, err, split, accepted, carried⟩
      · exact .inl ⟨⟨refusal, accepted⟩, carried⟩
      · refine .inr ⟨fun accepted => refused accepted.2, top :: done, next, rest,
              err, ?_, ⟨refusal, accepted⟩, carried⟩
        rw [split]
        rfl

/-! ## Joining -/

theorem seat_takeSession : game.takeSession.seat = game.seat := by
  rw [BoundaryTable.takeSession]
  split <;> rfl

theorem emptySeat_eq_some {assignedSeat : Int} (found : game.emptySeat assignedSeat = some i) :
    (i.val : Int) = assignedSeat ∧ (game.seat i).playerId = "" := by
  have holds := List.find?_some found
  simpa using holds

/-- Sitting down changes the seat that was assigned, and no other. -/
theorem seat_seatJoiner {buyIn : Float} {assignedSeat : Int}
    (other : (j.val : Int) ≠ assignedSeat) :
    (game.seatJoiner userId agentId buyIn assignedSeat).seat j =
      game.seat j := by
  rw [BoundaryTable.seatJoiner]
  split
  case h_1 => rfl
  case h_2 i found =>
    have there := (emptySeat_eq_some found).1
    have apart : j.val ≠ i.val := by
      intro equal
      exact other (by rw [equal, there])
    show (seatPlayer game.table.state i userId agentId (usdToChips buyIn)).seats j = game.seat j
    simp [seatPlayer, mapSeat, apart, BoundaryTable.seat]

/-- A join that is carried out seats its player in the planned seat. -/
theorem JoinAccepted.seat {reader : PayloadReader} {blocked : Bool} {join : QueuedSeatChange}
    (accepted : JoinAccepted reader blocked game join) : ∃ i : Fin seatCount,
    (i.val : Int) = join.seatIndex.getD 0 ∧
      (game.seat i).playerId = "" ∧
      BoundaryTable.applyJoin reader blocked game join =
        game.takeSession.seatJoiner join.ownerId (join.agentId.getD "")
          (join.amount.getD 0) (join.seatIndex.getD 0) ∧
      ((BoundaryTable.applyJoin reader blocked game join).seat i).playerId = join.ownerId ∧
      ((BoundaryTable.applyJoin reader blocked game join).seat i).stack =
        usdToChips (join.amount.getD 0) := by
  rcases accepted with ⟨wanted, early, stranger, late⟩
  have applied : BoundaryTable.applyJoin reader blocked game join =
      game.takeSession.seatJoiner join.ownerId (join.agentId.getD "")
        (join.amount.getD 0) (join.seatIndex.getD 0) := by
    rw [BoundaryTable.applyJoin, wanted]
    simp [BoundaryTable.joinUnlocked, early, late, stranger]
  cases found : game.takeSession.emptySeat (join.seatIndex.getD 0) with
  | none =>
    simp only [BoundaryTable.lateRefusal, stranger, found] at late
    split at late
    · cases late
    · split at late
      · cases late
      · split at late
        case isTrue => contradiction
        case isFalse =>
          split at late
          · cases late
          · simp at late
  | some i =>
    rcases emptySeat_eq_some found with ⟨there, empty⟩
    rw [seat_takeSession] at empty
    refine ⟨i, there, empty, applied, ?_, ?_⟩
    · rw [applied, BoundaryTable.seatJoiner, found]
      show ((seatPlayer game.takeSession.table.state i join.ownerId
        (join.agentId.getD "") _).seats i).playerId = join.ownerId
      simp [seatPlayer, mapSeat]
    · rw [applied, BoundaryTable.seatJoiner, found]
      show ((seatPlayer game.takeSession.table.state i join.ownerId
        (join.agentId.getD "") _).seats i).stack = _
      simp [seatPlayer, mapSeat]

/-- A join that is not carried out leaves the seats as they are. -/
theorem seat_applyJoin_of_not_accepted
    {reader : PayloadReader} {blocked : Bool} {join : QueuedSeatChange}
    (refused : ¬ JoinAccepted reader blocked game join) :
    (BoundaryTable.applyJoin reader blocked game join).seat =
      game.seat := by
  rw [BoundaryTable.applyJoin]
  split
  case isTrue => rfl
  case isFalse wanted =>
    rw [Bool.not_eq_true] at wanted
    simp only [BoundaryTable.joinUnlocked]
    split
    case h_1 => rfl
    case h_2 early =>
      split
      case h_1 => exact seat_takeSession
      case h_2 late =>
        split
        case isTrue => exact seat_takeSession
        case isFalse stranger =>
          rw [Bool.not_eq_true] at stranger
          exact absurd ⟨wanted, early, stranger, late⟩ refused

/-- A join changes no seat but the planned one. -/
theorem seat_applyJoin {reader : PayloadReader} {blocked : Bool} {join : QueuedSeatChange}
    (other : (j.val : Int) ≠ join.seatIndex.getD 0) :
    (BoundaryTable.applyJoin reader blocked game join).seat j =
      game.seat j := by
  by_cases accepted : JoinAccepted reader blocked game join
  · rcases accepted.seat with ⟨-, -, -, applied, -⟩
    rw [applied, seat_seatJoiner other, seat_takeSession]
  · rw [seat_applyJoin_of_not_accepted accepted]

/-- A join changes no seat with a player. -/
theorem seat_applyJoin_of_seated {reader : PayloadReader} {blocked : Bool} {join : QueuedSeatChange}
    (seated : (game.seat j).playerId ≠ "") :
    (BoundaryTable.applyJoin reader blocked game join).seat j =
      game.seat j := by
  by_cases accepted : JoinAccepted reader blocked game join
  · rcases accepted.seat with ⟨i, there, empty, -⟩
    apply seat_applyJoin
    intro same
    have equal : j = i := by
      apply Fin.ext
      exact_mod_cast same.trans there.symm
    rw [equal] at seated
    exact seated empty
  · rw [seat_applyJoin_of_not_accepted accepted]

section Joins

variable {reader : PayloadReader} {blocked : Bool}
variable {joins : List QueuedSeatChange}

/-- A seat with a player stays as it is through the joins. -/
theorem seat_applyJoins_of_seated
    (seated : (game.seat j).playerId ≠ "") :
    (joins.foldl (BoundaryTable.applyJoin reader blocked) game).seat j =
      game.seat j := by
  induction joins generalizing game with
  | nil => rfl
  | cons join joins induction =>
    have first := @seat_applyJoin_of_seated _ game j reader blocked join seated
    rw [List.foldl_cons, induction (by rwa [first]), first]

/-- A seat that no join is planned for stays as it is. -/
theorem seat_applyJoins (other : ∀ join ∈ joins, (j.val : Int) ≠ join.seatIndex.getD 0) :
    (joins.foldl (BoundaryTable.applyJoin reader blocked) game).seat j =
      game.seat j := by
  induction joins generalizing game with
  | nil => rfl
  | cons join joins induction =>
    rw [List.foldl_cons, induction fun later mem => other later (List.mem_cons_of_mem _ mem),
      seat_applyJoin (other join List.mem_cons_self)]

/-- A seat that was empty is empty after the joins, or has a joiner. -/
theorem seat_applyJoins_of_empty
    (empty : (game.seat j).playerId = "") :
    ((joins.foldl (BoundaryTable.applyJoin reader blocked) game).seat
          j).playerId = "" ∨
      ∃ join ∈ joins, (j.val : Int) = join.seatIndex.getD 0 ∧
          ((joins.foldl (BoundaryTable.applyJoin reader blocked) game).seat
            j).playerId = join.ownerId := by
  induction joins generalizing game with
  | nil => exact .inl empty
  | cons join joins induction =>
    rw [List.foldl_cons]
    by_cases still : ((BoundaryTable.applyJoin reader blocked game join).seat
        j).playerId = ""
    · rcases induction still with gone | ⟨later, mem, there, player⟩
      · exact .inl gone
      · exact .inr ⟨later, List.mem_cons_of_mem _ mem, there, player⟩
    · right
      refine ⟨join, List.mem_cons_self, ?_, ?_⟩
      · by_contra other
        rw [seat_applyJoin other] at still
        exact still empty
      · rw [seat_applyJoins_of_seated still]
        by_cases accepted : JoinAccepted reader blocked game join
        · rcases accepted.seat with ⟨i, there, -, -, player, -⟩
          by_cases same : (j.val : Int) = join.seatIndex.getD 0
          · have equal : j = i := by
              apply Fin.ext
              exact_mod_cast same.trans there.symm
            rw [equal]
            exact player
          · rw [seat_applyJoin same] at still
            exact absurd empty still
        · rw [seat_applyJoin_of_not_accepted accepted] at still
          exact absurd empty still

/-- Joins for different seats that are empty are all carried out exactly when
everybody sits in the planned seat with the planned buy-in. -/
theorem joinsAccepted_iff
    (named : ∀ join ∈ joins, join.ownerId ≠ "")
    (planned : ∀ join ∈ joins, ∃ i : Fin seatCount, join.seatIndex = some (i.val : Int) ∧
          (game.seat i).playerId = "")
    (apart : (joins.map (·.seatIndex)).Nodup) :
    JoinsAccepted reader blocked game joins ↔ ∀ join ∈ joins, SatDown
          (joins.foldl (BoundaryTable.applyJoin reader blocked) game)
          join := by
  induction joins generalizing game with
  | nil => simp [JoinsAccepted]
  | cons join joins induction =>
    rw [List.map_cons, List.nodup_cons] at apart
    rcases planned join List.mem_cons_self with ⟨i, assigned, empty⟩
    have elsewhere : ∀ later ∈ joins, (i.val : Int) ≠ later.seatIndex.getD 0 := by
      intro later mem same
      rcases planned later (List.mem_cons_of_mem _ mem) with ⟨k, other, -⟩
      apply apart.1
      rw [List.mem_map]
      refine ⟨later, mem, ?_⟩
      rw [other, Option.getD_some] at same
      rw [other, assigned, same]
    have rest : ∀ later ∈ joins, ∃ k : Fin seatCount, later.seatIndex = some (k.val : Int) ∧
          ((BoundaryTable.applyJoin reader blocked game join).seat
            k).playerId = "" := by
      intro later mem
      rcases planned later (List.mem_cons_of_mem _ mem) with ⟨k, other, vacant⟩
      refine ⟨k, other, ?_⟩
      rw [seat_applyJoin, vacant]
      rw [assigned, Option.getD_some]
      intro same
      have away := elsewhere later mem
      rw [other, Option.getD_some] at away
      exact away same.symm
    have later :=
      @induction (BoundaryTable.applyJoin reader blocked game join)
        (fun other mem => named other (List.mem_cons_of_mem _ mem)) rest apart.2
    have stays : ((join :: joins).foldl (BoundaryTable.applyJoin reader blocked) game).seat i =
        (BoundaryTable.applyJoin reader blocked game join).seat i := seat_applyJoins elsewhere
    rw [JoinsAccepted, List.forall_mem_cons]
    constructor
    · rintro ⟨accepted, others⟩
      rcases accepted.seat with ⟨k, there, -, applied, player, stack⟩
      rw [assigned, Option.getD_some] at there
      have same : k = i := Fin.ext (by exact_mod_cast there)
      subst same
      rw [← applied] at others
      refine ⟨⟨k, assigned, ?_, ?_⟩, later.mp others⟩
      · rw [stays, player]
      · rw [stays, stack]
    · rintro ⟨⟨k, there, player, -⟩, others⟩
      by_cases accepted : JoinAccepted reader blocked game join
      · refine ⟨accepted, ?_⟩
        rcases accepted.seat with ⟨-, -, -, applied, -⟩
        rw [← applied]
        exact later.mpr others
      · rw [assigned, Option.some.injEq] at there
        have same : i = k := Fin.ext (by exact_mod_cast there)
        subst same
        rw [stays, seat_applyJoin_of_not_accepted accepted, empty] at player
        exact absurd player.symm (named join List.mem_cons_self)

end Joins

/-! ## The plan -/

/-- The leaves of a plan empty the seats of the leavers. -/
theorem leaves_spec {leaves : List QueuedSeatChange} (single : OneSeatEach game)
    (named : ∀ leave ∈ leaves, leave.ownerId ≠ "") :
    OneSeatEach (leaves.foldl BoundaryTable.applyLeave game) ∧
      Vacates game (leaves.foldl BoundaryTable.applyLeave game) ∧ ∀ leave ∈ leaves, ∀ i,
        ((leaves.foldl BoundaryTable.applyLeave game).seat i).playerId ≠
          leave.ownerId := by
  induction leaves generalizing game with
  | nil => exact ⟨single, .refl, by simp⟩
  | cons leave leaves induction =>
    have name := named leave List.mem_cons_self
    have left := leaveUnlocked_spec single name
    have rest :=
      @induction (game.applyLeave leave) (left.1.oneSeatEach single)
        fun other mem => named other (List.mem_cons_of_mem _ mem)
    refine ⟨rest.1, left.1.trans rest.2.1, ?_⟩
    intro other mem i seated
    rcases List.mem_cons.mp mem with rfl | mem
    · rcases rest.2.1 i with empty | ⟨player, -⟩
      · exact name (seated.symm.trans empty)
      · exact left.2 i (player.symm.trans seated)
    · exact rest.2.2 other mem i seated

section Plan

variable {localeCompare : String → String → Int} {reader : PayloadReader}
variable {currentEpoch : Nat} {pending : List QueuedSeatChange}

/-- A plan that is made from the participants of a table. -/
structure PlannedFrom (game : BoundaryTable seatCount) (pending : List QueuedSeatChange)
    (plan : EpochBoundaryPlan) : Prop where
  ids : plan.appliedIds.Perm ((plan.leaves ++ plan.topUps ++ plan.joins).map (·.id))
  leaves : ∀ change ∈ plan.leaves, change ∈ pending ∧ change.changeType = .leave
  topUps : ∀ change ∈ plan.topUps, change ∈ pending ∧ change.changeType = .topUp ∧
        0 < change.amount.getD 0
  joins :
    ∀ join ∈ plan.joins, ∃ change ∈ pending, change.changeType = .join ∧
          join = { change with seatIndex := join.seatIndex }
  spares : ∀ join ∈ plan.joins, ∃ i : Fin seatCount, join.seatIndex = some (i.val : Int) ∧
        ((game.seat i).playerId = "" ∨ ∃ leave ∈ plan.leaves,
            leave.ownerId = (game.seat i).playerId)
  apart : (plan.joins.map (·.seatIndex)).Nodup

theorem plannedFrom_plan : PlannedFrom game pending
    (game.plan localeCompare currentEpoch pending) := by
  have relevant : ∀ change ∈ relevantChanges localeCompare currentEpoch pending, change ∈ pending :=
    fun change mem => (mem_relevantChanges.mp mem).1
  have planned :=
    @SeatsPlanned.foldl seatCount
      ⟨game.epochParticipants.map fun p => { p with allIn := false }, [], [], [], [], []⟩
      (game.epochParticipants.map fun p => { p with allIn := false })
      (relevantChanges localeCompare currentEpoch pending)
      ⟨fun p mem _ => ⟨p, mem, rfl, rfl⟩, by simp, by simp, by simp, List.nodup_nil⟩
      byRank_relevantChanges (.inl rfl)
  have marked :=
    @Marked.foldl seatCount ⟨game.epochParticipants.map fun p => { p with allIn := false }, [], [],
        [], [], []⟩ (relevantChanges localeCompare currentEpoch pending)
      (relevantChanges localeCompare currentEpoch pending)
      ⟨List.Perm.refl _, by simp, by simp, by simp⟩ fun _ mem => mem
  refine ⟨marked.ids, ?_, ?_, ?_, ?_, planned.apart⟩
  · intro change mem
    have found := marked.leaves change mem
    exact ⟨relevant change found.1, found.2⟩
  · intro change mem
    have found := marked.topUps change mem
    exact ⟨relevant change found.1, found.2⟩
  · intro join mem
    rcases marked.joins join mem with ⟨change, found, isJoin, same⟩
    exact ⟨change, relevant change found, isJoin, same⟩
  · intro join mem
    rcases planned.inside join mem with ⟨k, inside, assigned⟩
    refine ⟨⟨k, inside⟩, assigned, ?_⟩
    by_contra taken
    rw [not_or] at taken
    have participant : ∃ p ∈ game.epochParticipants.map fun p => { p with allIn := false },
        p.seatIndex = (k : Int) ∧ p.ownerId = (game.seat ⟨k, inside⟩).playerId := by
      rw [BoundaryTable.epochParticipants, List.map_map]
      refine ⟨_, List.mem_map_of_mem (a := (⟨k, inside⟩ : Fin seatCount)) ?_, rfl, rfl⟩
      rw [BoundaryTable.occupied, mem_seatsWith]
      exact decide_eq_true taken.1
    rcases participant with ⟨p, member, place, owner⟩
    apply planned.spares join mem p member
    · intro leave planned same
      exact taken.2 ⟨leave, planned, same.trans owner⟩
    · rw [assigned, place]

/-- The changes of the plan have taken effect. -/
structure ListsTookEffect (before after : BoundaryTable seatCount) (plan : EpochBoundaryPlan) :
    Prop where
  leaves : ∀ leave ∈ plan.leaves, LeftTable before after plan leave.ownerId
  topUps : ∀ top ∈ plan.topUps, StackGrown before after plan top.ownerId
  joins : ∀ join ∈ plan.joins, SatDown after join

theorem mem_of_id_mem {changes : List QueuedSeatChange}
    {planned : QueuedSeatChange} (distinct : (pending.map (·.id)).Nodup)
    (within : ∀ change ∈ changes, change ∈ pending)
    (queued : change ∈ pending) (mem : planned ∈ changes)
    (same : planned.id = change.id) : change ∈ changes := by
  have equal := List.inj_on_of_nodup_map distinct (within planned mem) queued same
  rwa [← equal]

/-- The marks of a plan are about the changes that it lists. -/
theorem PlannedFrom.recorded_changes_iff (planned : PlannedFrom game pending plan)
    (distinct : (pending.map (·.id)).Nodup) (decided : plan.appliedIds.Nodup) :
    DoesWhatItRecords before after plan pending ↔
      ListsTookEffect before after plan := by
  have ids := planned.ids
  have single := ids.nodup_iff.mp decided
  constructor
  · intro records
    refine ⟨?_, ?_, ?_⟩
    · intro leave mem
      have found := planned.leaves leave mem
      have effect := records leave found.1 (ids.mem_iff.mpr (by
        simp only [List.map_append, List.mem_append, List.mem_map]
        exact .inl (.inl ⟨leave, mem, rfl⟩)))
      simpa only [TookEffect, found.2] using effect
    · intro top mem
      have found := planned.topUps top mem
      have effect := records top found.1 (ids.mem_iff.mpr (by
        simp only [List.map_append, List.mem_append, List.mem_map]
        exact .inl (.inr ⟨top, mem, rfl⟩)))
      simpa only [TookEffect, found.2.1] using effect
    · intro join mem
      rcases planned.joins join mem with ⟨change, queued, isJoin, same⟩
      have sameId : join.id = change.id := by rw [same]
      have effect := records change queued (ids.mem_iff.mpr (by
        simp only [List.map_append, List.mem_append, List.mem_map]
        exact .inr ⟨join, mem, sameId⟩))
      simp only [TookEffect, isJoin] at effect
      rcases effect with ⟨other, listed, otherId, sat⟩
      rw [List.map_append, List.nodup_append] at single
      have equal :=
        List.inj_on_of_nodup_map single.2.1 listed mem (otherId.trans sameId.symm)
      rwa [← equal]
  · intro lists change queued marked
    rw [ids.mem_iff, List.map_append, List.map_append, List.mem_append,
      List.mem_append, List.mem_map, List.mem_map, List.mem_map] at marked
    rcases marked with (⟨leave, mem, same⟩ | ⟨top, mem, same⟩) | ⟨join, mem, same⟩
    · have found :=
        mem_of_id_mem distinct (fun c mem => (planned.leaves c mem).1) queued mem same
      simp only [TookEffect, (planned.leaves change found).2]
      exact lists.leaves change found
    · have found :=
        mem_of_id_mem distinct (fun c mem => (planned.topUps c mem).1) queued mem same
      simp only [TookEffect, (planned.topUps change found).2.1]
      exact lists.topUps change found
    · rcases planned.joins join mem with ⟨other, queuedOther, isJoin, copied⟩
      have sameId : other.id = change.id := by rw [← same, copied]
      have equal := List.inj_on_of_nodup_map distinct queuedOther queued sameId
      subst equal
      simp only [TookEffect, isJoin]
      exact ⟨join, mem, same, lists.joins join mem⟩

/-- Leavers are gone after the leaves and top-ups, whatever the joins do. -/
theorem leftTable_of_joins {blocked : Bool} {topped : BoundaryTable seatCount}
    (planned : PlannedFrom game pending plan)
    (vacant : ∀ i, (game.seat i).playerId = userId →
        (topped.seat i).playerId = "") :
    LeftTable game (plan.joins.foldl (BoundaryTable.applyJoin reader blocked) topped)
      plan userId := by
  intro i there
  rcases @seat_applyJoins_of_empty _ topped i reader blocked plan.joins (vacant i there) with
    empty | ⟨join, mem, place, player⟩
  · exact .inl empty
  · right
    rcases planned.spares join mem with ⟨k, assigned, -⟩
    refine ⟨join, mem, ?_, player⟩
    rw [assigned, Option.getD_some] at place
    rw [assigned, place]

/-- A plan takes effect exactly when none of its changes is refused. -/
theorem listsTookEffect_iff (planned : PlannedFrom game pending plan) (single : OneSeatEach game)
    (named : ∀ change ∈ pending, change.ownerId ≠ "")
    (cents : ∀ change ∈ pending, 0 < change.amount.getD 0 → 0 < usdToChips (change.amount.getD 0)) :
    ListsTookEffect game (game.carryOut reader plan).1 plan ↔
      PlanAccepted reader game plan := by
  have namedLeaves : ∀ leave ∈ plan.leaves, leave.ownerId ≠ "" :=
    fun leave mem => named leave (planned.leaves leave mem).1
  have namedTopUps : ∀ top ∈ plan.topUps, top.ownerId ≠ "" :=
    fun top mem => named top (planned.topUps top mem).1
  have namedJoins : ∀ join ∈ plan.joins, join.ownerId ≠ "" := by
    intro join mem
    rcases planned.joins join mem with ⟨change, queued, -, same⟩
    rw [same]
    exact named change queued
  have chips : ∀ top ∈ plan.topUps, 0 < usdToChips (top.amount.getD 0) :=
    fun top mem =>
      cents top (planned.topUps top mem).1 (planned.topUps top mem).2.2
  rcases leaves_spec single namedLeaves with ⟨singleLeft, vacates, gone⟩
  rw [PlanAccepted, BoundaryTable.carryOut]
  simp only
  generalize plan.leaves.foldl BoundaryTable.applyLeave game = left at singleLeft vacates gone ⊢
  have leaver (leave : QueuedSeatChange) (mem : leave ∈ plan.leaves) (i : Fin seatCount)
      (there : (game.seat i).playerId = leave.ownerId) :
      (left.seat i).playerId = "" := by
    rcases vacates i with empty | ⟨player, -⟩
    · exact empty
    · exact absurd (player.trans there) (gone leave mem i)
  rcases applyTopUps_spec plan.topUps left (fun top mem => (planned.topUps top mem).2.2) with
    ⟨accepted, carried⟩ |
      ⟨refused, done, top, rest, err, parts, accepted, carried⟩
  · rw [carried]
    simp only [if_true]
    rcases seat_payTopUps singleLeft namedTopUps accepted with ⟨-, paid⟩
    have empties : ∀ join ∈ plan.joins, ∃ i : Fin seatCount, join.seatIndex = some (i.val : Int) ∧
          ((payTopUps left plan.topUps).seat i).playerId = "" := by
      intro join mem
      rcases planned.spares join mem with ⟨i, assigned, free⟩
      refine ⟨i, assigned, (paid i).1.trans ?_⟩
      rcases free with empty | ⟨leave, leaves, owner⟩
      · rcases vacates i with vacated | ⟨player, -⟩
        · exact vacated
        · exact player.trans empty
      · exact leaver leave leaves i owner.symm
    have joined :=
      @joinsAccepted_iff _ (payTopUps left plan.topUps) reader
        (payTopUps left plan.topUps).controlBlocksJoins plan.joins namedJoins empties planned.apart
    rw [joined]
    constructor
    · intro lists
      exact ⟨accepted, lists.joins⟩
    · rintro ⟨-, sat⟩
      refine ⟨?_, ?_, sat⟩
      · intro leave mem
        apply leftTable_of_joins planned
        intro i there
        exact (paid i).1.trans (leaver leave mem i there)
      · intro top mem
        rcases seated_of_topUpsAccepted singleLeft namedTopUps accepted top mem with ⟨i, there⟩
        have name := namedTopUps top mem
        have stays :
            ((payTopUps left plan.topUps).seat i).playerId ≠ "" := by
          rw [(paid i).1]
          exact fun empty => name (there.symm.trans empty)
        rcases vacates i with empty | ⟨player, stack⟩
        · exact absurd (there.symm.trans empty) name
        · refine ⟨i, player.symm.trans there, ?_, ?_⟩
          · rw [seat_applyJoins_of_seated stays, (paid i).1]
            exact there
          · rw [seat_applyJoins_of_seated stays, (paid i).2, there, stack]
  · rw [carried]
    simp only [reduceCtorEq, if_false]
    constructor
    · intro lists
      have mem : top ∈ plan.topUps := by
        rw [parts]
        exact List.mem_append_right _ List.mem_cons_self
      have within : ∀ other ∈ done, other ∈ plan.topUps := by
        intro other member
        rw [parts]
        exact List.mem_append_left _ member
      rcases seat_payTopUps singleLeft (fun other member => namedTopUps other (within other member))
          accepted with
        ⟨-, paid⟩
      rcases lists.topUps top mem with ⟨i, before, after, grown⟩
      rw [(paid i).1] at after
      rw [(paid i).2] at grown
      have name := namedTopUps top mem
      have missing : toppedUp done top.ownerId < toppedUp plan.topUps top.ownerId := by
        have behind : 0 ≤ toppedUp rest top.ownerId := by
          apply toppedUp_nonneg
          intro other member
          apply chips
          rw [parts]
          exact List.mem_append_right _ (List.mem_cons_of_mem _ member)
        have own := chips top mem
        rw [parts, toppedUp_append, toppedUp_cons, if_pos rfl]
        omega
      rcases vacates i with empty | ⟨player, stack⟩
      · exact absurd (after.symm.trans empty) name
      · have sum : (left.seat i).stack + toppedUp done (left.seat i).playerId =
            (game.seat i).stack + toppedUp plan.topUps top.ownerId := grown
        rw [after, stack] at sum
        omega
    · intro plannedAll
      exact absurd plannedAll.1 refused

/--
Between hands, every change that a boundary marks as applied has taken effect
exactly when no planned change is refused: no top-up throws, and no join is
passed over or rejected.
-/
theorem doesWhatItRecords_iff
    (between : game.table.state.midHand = false)
    (single : OneSeatEach game)
    (named : ∀ change ∈ pending, change.ownerId ≠ "")
    (distinct : (pending.map (·.id)).Nodup)
    (cents :
      ∀ change ∈ pending,
        0 < change.amount.getD 0 → 0 < usdToChips (change.amount.getD 0)) :
    DoesWhatItRecords game
        (game.applyEpochBoundary localeCompare reader currentEpoch
          pending).1
        (game.plan localeCompare currentEpoch pending) pending ↔
      PlanAccepted reader game
        (game.plan localeCompare currentEpoch pending) := by
  have planned :=
    @plannedFrom_plan _ game localeCompare currentEpoch pending
  have decided :
      (game.plan localeCompare currentEpoch pending).appliedIds.Nodup :=
    (List.nodup_append.mp (nodup_ids_planEpochBoundary distinct)).1
  rw [planned.recorded_changes_iff distinct decided,
    BoundaryTable.applyEpochBoundary, between]
  exact listsTookEffect_iff planned single named cents

end Plan

/-! ## A table for three -/

/-- A ledger table with blinds of five and ten cents; `a` has `stack` cents
and `b` has 500. -/
def cashTable (stack : Int) : BoundaryTable 3 where
  table :=
    { onchain := false
      variantId := "nlhe_6max"
      maxStack := 1000
      state :=
        seatPlayer (seatPlayer (plainTable 3) 0 "a" "agent" stack) 1 "b"
          "agent" 500
      awaitingBigBlind := [] }
  matchClosed := false
  minBuyIn := 2
  maxBuyIn := 10
  bigBlind := 0.1
  sessions userId := userId = "a" || userId = "b"
  available _ := 5000
  custody :=
    { sessionId := none
      loadable := none
      openSession := none
      disableNewSeats := false
      pauseAfterHand := false
      sealedPlayers := []
      finishedPlayers := []
      handsDealt := true
      ticketsQueued := false }

def queuedChange (id : String) (changeType : SeatChangeType) (ownerId : String)
    (amount : Option Float) : QueuedSeatChange where
  id := id
  targetEpoch := 1
  changeType := changeType
  status := .pending
  ownerId := ownerId
  agentId := some "agent"
  agentConfigId := some "config"
  seatIndex := none
  amount := amount
  profileKey := none
  payload := ""
  requestedAt := none

/-- A top-up by one dollar and a join with five. -/
def toppingAndJoining : List QueuedSeatChange :=
  [queuedChange "top" .topUp "a" (some 1),
    queuedChange "join" .join "c" (some 5)]

/-- A top-up above the cap throws: neither it nor the join behind it takes
effect, and both are marked as applied. -/
theorem refused_topUp_ends_boundary :
    ¬ ∀ (game : BoundaryTable 3) (pending : List QueuedSeatChange),
      game.table.state.midHand = false → OneSeatEach game →
        (∀ change ∈ pending, change.ownerId ≠ "") →
        (pending.map (·.id)).Nodup →
        (∀ change ∈ pending,
          0 < change.amount.getD 0 →
            0 < usdToChips (change.amount.getD 0)) →
        DoesWhatItRecords game
          (game.applyEpochBoundary (fun _ _ => 0) (fun _ => "") 1 pending).1
          (game.plan (fun _ _ => 0) 1 pending) pending := by
  intro always
  have single : OneSeatEach (cashTable 1000) := by
    unfold OneSeatEach
    decide +kernel
  have records :=
    always (cashTable 1000) toppingAndJoining (by decide +kernel) single
      (by decide +kernel) (by decide +kernel) (by decide +kernel)
  revert records
  decide +kernel

/-- Below the cap both take effect. -/
theorem doesWhatItRecords_cashTable :
    ((cashTable 800).plan (fun _ _ => 0) 1 toppingAndJoining).appliedIds =
        ["top", "join"] ∧
      DoesWhatItRecords (cashTable 800)
        ((cashTable 800).applyEpochBoundary (fun _ _ => 0) (fun _ => "") 1
          toppingAndJoining).1
        ((cashTable 800).plan (fun _ _ => 0) 1 toppingAndJoining)
        toppingAndJoining := by
  have single : OneSeatEach (cashTable 800) := by
    unfold OneSeatEach
    decide +kernel
  refine ⟨by decide +kernel, ?_⟩
  apply
    (doesWhatItRecords_iff (by decide +kernel) single (by decide +kernel)
      (by decide +kernel) (by decide +kernel)).mpr
  decide +kernel

end Mozetto.GameServer.Boundary
