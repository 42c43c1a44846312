import Mozetto.GameServer.SitOuts

/-!
# Coming back for the big blind

Whoever comes back was the predicted big blind when let in.  As long as a
top-up lets nobody in who owes the blind, a release lets in one seat, and no
call moves the big blind away from a seat that is back, the prediction is
right when the hand is dealt.
-/

namespace Mozetto.GameServer.SitOuts

open Mozetto.Engine
open Mozetto.Library.Guarded
open Mozetto.Library.RingSearch
open Mozetto.Library.TransitionSystem

variable {seatCount : Nat}
variable {hashes : Hashes}
variable {table after : TableRuntime seatCount}
variable {run later : SeatHistory seatCount}
variable {call : SeatCall seatCount}
variable {i j : Fin seatCount}

/-! ## One seat is let in -/

/-- The predicted big blind is dealt in. -/
theorem eligibleWith_of_nextBigBlind {state : HoldemState seatCount} {extra : List (Fin seatCount)}
    (predicted : nextBigBlind state extra = some i) : eligibleWith state.seats extra i = true := by
  rw [nextBigBlind, nextBlindSeats, blindsAmong, Option.map_eq_some_iff] at predicted
  rcases predicted with ⟨blinds, chosen, rfl⟩
  split at chosen
  case h_1 first second others players =>
    simp only [Option.bind_eq_some_iff] at chosen
    rcases chosen with ⟨afterButton, found, chosen⟩
    split at chosen
    case isTrue =>
      cases chosen
      exact nextPlace_holds found
    case isFalse =>
      rw [Option.map_eq_some_iff] at chosen
      rcases chosen with ⟨bb, searched, rfl⟩
      exact nextPlace_holds searched
  case h_2 => cases chosen

/-- The calls after which the runs of a table go on as promised. -/
structure LetsInFairly (missed : Finset (Fin seatCount)) (table after : TableRuntime seatCount) :
    Prop where
  vacant : VacantSitOut after.state.seats
  returns : ∀ i ∈ missed,
      (table.state.seats i).playerId ≠ "" →
        (after.state.seats i).playerId = (table.state.seats i).playerId →
          (table.state.seats i).sitOut = true → (after.state.seats i).sitOut = false →
              nextBigBlind after.state [] = some i

variable {missed : Finset (Fin seatCount)}

theorem letsInFairly_of_keepsSitters (vacant : VacantSitOut table.state.seats)
    (keeps : KeepsSitters table.state.seats after.state.seats) :
    LetsInFairly missed table after := by
  constructor
  · intro i empty
    exact (keeps i).2 (vacant i ((keeps i).1.symm.trans empty))
  · intro i _ _ _ out back
    rw [(keeps i).2 out] at back
    cases back

theorem sitOut_letIn : ((table.letIn i).state.seats j).sitOut =
    if j = i then false else (table.state.seats j).sitOut := by
  simp only [TableRuntime.letIn, setSitOut, mapSeat, Bool.false_eq_true, if_false]
  by_cases same : j = i
  · simp [same]
  · have other : j.val ≠ i.val := fun equal => same (Fin.ext equal)
    simp [same, other]

/-- Letting a seat in changes nothing else at the table. -/
theorem letIn_seat :
    (table.letIn i).state.seats j =
      { table.state.seats j with
        sitOut := ((table.letIn i).state.seats j).sitOut } := by
  simp only [TableRuntime.letIn, setSitOut, mapSeat, Bool.false_eq_true, if_false]
  split <;> rfl

theorem letsInFairly_letIn (vacant : VacantSitOut table.state.seats)
    (predicted : nextBigBlind table.state [i] = some i) :
    LetsInFairly missed table (table.letIn i) := by
  have dealtIn := eligibleWith_of_nextBigBlind predicted
  simp only [eligibleWith, Bool.and_eq_true, decide_eq_true_eq] at dealtIn
  constructor
  · intro j empty
    rw [letIn_seat] at empty
    rw [sitOut_letIn, if_neg, vacant j empty]
    rintro rfl
    exact dealtIn.1.1 empty
  · intro j _ _ _ out back
    rw [sitOut_letIn] at back
    split at back
    case isTrue same =>
      subst same
      exact nextBigBlind_setSitOut.trans predicted
    case isFalse =>
      rw [out] at back
      cases back

/-! ## The release -/

/-- What a release has done so far, begun at `table`. -/
structure ReleasedSoFar (table after : TableRuntime seatCount) : Prop where
  button : after.state.button = table.state.button
  seats :
    ∀ j, after.state.seats j =
        { table.state.seats j with
          sitOut := (after.state.seats j).sitOut }
  opens : ∀ j, (after.state.seats j).sitOut = true → (table.state.seats j).sitOut = true
  players : ∀ j,
      (table.state.seats j).playerId = "" →
        (after.state.seats j).sitOut = (table.state.seats j).sitOut
  alone : ∀ j, (table.state.seats j).sitOut = true → (after.state.seats j).sitOut = false →
          (∀ k, k ≠ j → (after.state.seats k).sitOut = (table.state.seats k).sitOut) →
            nextBigBlind table.state [j] = some j

theorem ReleasedSoFar.refl : ReleasedSoFar table table where
  button := rfl
  seats _ := rfl
  opens _ out := out
  players _ _ := rfl
  alone j out back := by
    rw [out] at back
    cases back

/-- Who would be dealt in with a seat that alone is let in. -/
theorem ReleasedSoFar.nextBigBlind_eq (released : ReleasedSoFar table after)
    (others : ∀ k, k ≠ j → (after.state.seats k).sitOut = (table.state.seats k).sitOut) :
    nextBigBlind after.state [j] = nextBigBlind table.state [j] := by
  have same : eligibleWith after.state.seats [j] = eligibleWith table.state.seats [j] := by
    funext k
    simp only [eligibleWith, List.mem_singleton]
    rw [released.seats k]
    by_cases here : k = j
    · simp [here]
    · simp [here, others k here]
  rw [nextBigBlind, nextBlindSeats, same, released.button]
  rfl

theorem ReleasedSoFar.letIn (released : ReleasedSoFar table after)
    (seated : (table.state.seats i).playerId ≠ "")
    (predicted : nextBigBlind after.state [i] = some i) :
    ReleasedSoFar table (after.letIn i) where
  button := released.button
  seats j := by
    rw [letIn_seat, released.seats j]
  opens j out := by
    rw [sitOut_letIn] at out
    split at out
    · cases out
    · exact released.opens j out
  players j empty := by
    rw [sitOut_letIn, if_neg]
    · exact released.players j empty
    · rintro rfl
      exact seated empty
  alone j out back others := by
    by_cases same : j = i
    · subst same
      rw [← released.nextBigBlind_eq]
      · exact predicted
      · intro k other
        have unchanged := others k other
        rwa [sitOut_letIn, if_neg other] at unchanged
    · have closed := others i fun equal => same equal.symm
      rw [sitOut_letIn, if_pos rfl] at closed
      apply released.alone j out
      · rwa [sitOut_letIn, if_neg same] at back
      · intro k other
        by_cases here : k = i
        · subst here
          cases stays : (after.state.seats k).sitOut with
          | true => exact (released.opens k stays).symm
          | false => exact closed
        · have unchanged := others k other
          rwa [sitOut_letIn, if_neg here] at unchanged

theorem ReleasedSoFar.releaseSeat (released : ReleasedSoFar table after) :
    ReleasedSoFar table (after.releaseSeat i) := by
  rw [TableRuntime.releaseSeat]
  split
  case isTrue => exact { released with }
  case isFalse worthy =>
    split
    case isTrue predicted =>
      rw [not_or] at worthy
      apply released.letIn _ predicted
      have seated := worthy.1
      rwa [released.seats i] at seated
    case isFalse => exact released

theorem releasedSoFar_release : ReleasedSoFar table table.releaseSeatsAwaitingBigBlind := by
  rw [TableRuntime.releaseSeatsAwaitingBigBlind]
  have kept (waiting : List (Fin seatCount)) : ∀ after, ReleasedSoFar table after →
      ReleasedSoFar table (waiting.foldl TableRuntime.releaseSeat after) := by
    induction waiting with
    | nil => exact fun _ released => released
    | cons i waiting induction =>
      exact fun _ released => induction _ released.releaseSeat
  exact kept _ table .refl

theorem eq_of_length_le_one {seats : List (Fin seatCount)} (single : seats.length ≤ 1)
    (first : i ∈ seats) (second : j ∈ seats) : i = j := by
  rcases seats with _ | ⟨k, _ | ⟨l, seats⟩⟩
  · cases first
  · rw [List.mem_singleton] at first second
    exact first.trans second.symm
  · simp at single

/-- A release of at most one seat. -/
theorem letsInFairly_release (vacant : VacantSitOut table.state.seats)
    (single : table.released.length ≤ 1) :
    LetsInFairly missed table table.releaseSeatsAwaitingBigBlind := by
  have released := @releasedSoFar_release _ table
  constructor
  · intro j empty
    rw [released.seats j] at empty
    rw [released.players j empty]
    exact vacant j empty
  · intro j _ _ _ out back
    have others : ∀ k, k ≠ j → (table.releaseSeatsAwaitingBigBlind.state.seats k).sitOut =
          (table.state.seats k).sitOut := by
      intro k other
      cases stays : (table.releaseSeatsAwaitingBigBlind.state.seats k).sitOut with
      | true => exact (released.opens k stays).symm
      | false =>
        cases before : (table.state.seats k).sitOut with
        | false => rfl
        | true =>
          have mem (l : Fin seatCount) (out : (table.state.seats l).sitOut = true)
              (back : (table.releaseSeatsAwaitingBigBlind.state.seats l).sitOut = false) :
              l ∈ table.released := by
            simp [TableRuntime.released, out, back]
          exact absurd (eq_of_length_le_one single (mem k before stays) (mem j out back)) other
    have predicted := released.alone j out back others
    rw [← released.nextBigBlind_eq others] at predicted
    have same : eligibleWith table.releaseSeatsAwaitingBigBlind.state.seats [j] =
        eligibleWith table.releaseSeatsAwaitingBigBlind.state.seats [] := by
      funext k
      by_cases here : k = j
      · subst here
        simp [eligibleWith, back]
      · simp [eligibleWith, here]
    rwa [nextBigBlind, nextBlindSeats, same] at predicted

/-! ## The other calls -/

theorem letsInFairly_setPlayerSitOut {userId : String} {sitOut : Bool}
    (vacant : VacantSitOut table.state.seats)
    (ok : table.setPlayerSitOut userId sitOut = .ok after) :
    LetsInFairly missed table after := by
  rw [TableRuntime.setPlayerSitOut] at ok
  split at ok
  case h_1 => cases ok
  case h_2 i found =>
    split at ok
    case isTrue =>
      cases ok
      exact letsInFairly_of_keepsSitters vacant
          (keepsSitters_mapSeat fun seat => ⟨rfl, fun _ => rfl⟩)
    case isFalse =>
      split at ok
      case isTrue predicted =>
        cases ok
        exact letsInFairly_letIn vacant predicted
      case isFalse =>
        cases ok
        exact letsInFairly_of_keepsSitters vacant .refl

/-- New chips in a seat that does not owe the blind, or that is told to wait. -/
theorem letsInFairly_addChips {chips : Int} (vacant : VacantSitOut table.state.seats)
    (seated : (table.state.seats i).playerId ≠ "")
    (waits : i ∈ missed → (table.state.seats i).sitOut = true → table.waitsAfterTopUp i = true) :
    LetsInFairly missed table (table.addChips i chips) := by
  have elsewhere (j : Fin seatCount) (other : j ≠ i) :
      (table.addChips i chips).state.seats j = table.state.seats j := by
    have apart : j.val ≠ i.val := fun equal => other (Fin.ext equal)
    rw [TableRuntime.addChips]
    split
    · simp [mapSeat, apart]
    · split <;> simp [mapSeat, apart]
  have player : ((table.addChips i chips).state.seats i).playerId =
      (table.state.seats i).playerId := by
    rw [TableRuntime.addChips]
    split
    · simp [mapSeat]
    · split <;> simp [mapSeat]
  constructor
  · intro j empty
    by_cases same : j = i
    · subst same
      rw [player] at empty
      exact absurd empty seated
    · rw [elsewhere j same] at empty ⊢
      exact vacant j empty
  · intro j owes _ _ out back
    by_cases same : j = i
    · subst same
      rw [TableRuntime.addChips, if_pos (waits owes out)] at back
      simp [mapSeat] at back
    · rw [elsewhere j same, out] at back
      cases back

theorem letsInFairly_topUp {userId : String} {chips : Nat} {opts : TopUpOptions}
    (vacant : VacantSitOut table.state.seats)
    (waits : ∀ i ∈ table.seatOf userId, i ∈ missed → (table.state.seats i).sitOut = true →
          table.queuesTopUp opts = true ∨ table.waitsAfterTopUp i = true)
    (ok : table.topUp userId chips opts = .ok after) :
    LetsInFairly missed table after := by
  rw [TableRuntime.topUp] at ok
  split at ok
  case h_1 => cases ok
  case h_2 i found =>
    split at ok
    case isTrue => cases ok
    case isFalse =>
      split at ok
      case isTrue => cases ok
      case isFalse =>
        split at ok
        case isTrue =>
          cases ok
          exact letsInFairly_of_keepsSitters vacant .refl
        case isFalse unqueued =>
          split at ok
          case isTrue => cases ok
          case isFalse named =>
            cases ok
            have player := List.find?_some found
            rw [decide_eq_true_eq] at player
            apply letsInFairly_addChips vacant (by rwa [player])
            intro owes out
            exact (waits i found owes out).resolve_left unqueued

theorem letsInFairly_joinUnlocked
    {userId agentId : String} {buyIn : Int} {assignedSeat : Option Nat} {forceImmediate : Bool}
    (vacant : VacantSitOut table.state.seats)
    (ok : table.joinUnlocked userId agentId buyIn assignedSeat forceImmediate = .ok after) :
    LetsInFairly missed table after := by
  simp only [TableRuntime.joinUnlocked] at ok
  split at ok
  case isTrue =>
    cases ok
    exact letsInFairly_of_keepsSitters vacant .refl
  case isFalse =>
    split at ok
    case isTrue => cases ok
    case isFalse stranger =>
      split at ok
      case isTrue =>
        cases ok
        exact letsInFairly_of_keepsSitters vacant .refl
      case isFalse =>
        split at ok
        case h_1 => cases ok
        case h_2 i found =>
          cases ok
          have empty := List.find?_some found
          simp only [Bool.and_eq_true, decide_eq_true_eq] at empty
          have named : userId ≠ "" := by
            rintro rfl
            apply stranger
            rw [TableRuntime.seatOf, List.find?_isSome]
            exact ⟨i, List.mem_finRange i, by simpa using empty.2⟩
          constructor
          · intro j vacated
            by_cases same : j.val = i.val
            · simp only [seatPlayer, mapSeat, if_pos same] at vacated
              exact absurd vacated named
            · simp only [seatPlayer, mapSeat, if_neg same] at vacated ⊢
              exact vacant j vacated
          · intro j _ seated player out back
            by_cases same : j.val = i.val
            · cases Fin.ext same
              exact absurd empty.2 seated
            · simp only [seatPlayer, mapSeat, if_neg same, out] at back
              cases back

theorem letsInFairly_leaveUnlocked {userId : String} {forceImmediate : Bool}
    (vacant : VacantSitOut table.state.seats)
    (ok : table.leaveUnlocked userId forceImmediate = .ok after) :
    LetsInFairly missed table after := by
  rw [TableRuntime.leaveUnlocked] at ok
  split at ok
  case h_1 =>
    cases ok
    exact letsInFairly_of_keepsSitters vacant .refl
  case h_2 i found =>
    split at ok
    case isTrue =>
      cases ok
      exact letsInFairly_of_keepsSitters vacant .refl
    case isFalse =>
      split at ok
      case isTrue =>
        cases ok
        exact letsInFairly_of_keepsSitters vacant .refl
      case isFalse =>
        cases ok
        constructor
        · intro j empty
          by_cases same : j.val = i.val
          · simp [clearSeat, mapSeat, same]
          · simp only [clearSeat, mapSeat, if_neg same] at empty ⊢
            exact vacant j empty
        · intro j _ _ _ out back
          by_cases same : j.val = i.val
          · simp [clearSeat, mapSeat, same] at back
          · simp only [clearSeat, mapSeat, if_neg same, out] at back
            cases back

theorem keepsSitters_sitOutBroke :
    KeepsSitters table.state.seats table.sitOutBroke.state.seats := by
  intro i
  simp only [TableRuntime.sitOutBroke]
  split
  · exact ⟨rfl, fun _ => rfl⟩
  · exact ⟨rfl, id⟩

/-! ## Runs -/

/-- What holds in every run that lets nobody come back for free. -/
structure Sound (run : SeatHistory seatCount) : Prop where
  vacant : VacantSitOut run.table.state.seats
  seated : ∀ i ∈ run.missed, (run.table.state.seats i).playerId ≠ ""
  ready : run.table.state.midHand = false → ∀ i ∈ run.missed,
        (run.table.state.seats i).eligible = true → nextBigBlind run.table.state [] = some i

/-- Every call but a deal lets seats in fairly. -/
theorem letsInFairly_perform (vacant : VacantSitOut run.table.state.seats) (waits : call.Waits run)
    (noDeal : ∀ handNumber seed name, call ≠ .deal handNumber seed name)
    (ok : call.perform hashes run.table = .ok after) : LetsInFairly run.missed run.table after := by
  cases call with
  | setPlayerSitOut userId sitOut =>
    exact letsInFairly_setPlayerSitOut vacant ok
  | topUp userId chips opts => exact letsInFairly_topUp vacant waits ok
  | join userId agentId buyIn assignedSeat forceImmediate =>
    exact letsInFairly_joinUnlocked vacant ok
  | leave userId forceImmediate =>
    exact letsInFairly_leaveUnlocked vacant ok
  | releaseSeatsAwaitingBigBlind =>
    cases ok
    exact letsInFairly_release vacant waits
  | deal handNumber seed name => exact absurd rfl (noDeal _ _ _)
  | play call =>
    rcases map_eq_ok_iff.mp ok with ⟨state, played, rfl⟩
    exact letsInFairly_of_keepsSitters vacant
        (keepsSitters_runtimeStep (mapError_eq_ok_iff.mp played))
  | sitOutBroke =>
    cases ok
    exact letsInFairly_of_keepsSitters vacant keepsSitters_sitOutBroke
  | resetToWaiting restoreStacks =>
    cases ok
    exact letsInFairly_of_keepsSitters vacant fun _ => ⟨rfl, id⟩

/-- A deal, with what it leaves at the table. -/
theorem perform_deal_eq_ok {handNumber : Nat} {seed name : String}
    (ok : SeatCall.perform hashes table (.deal handNumber seed name) = .ok after) :
    ∃ events, table.state.midHand = false ∧ table.deal hashes handNumber seed name =
          .ok (after.state, events) := by
  rw [SeatCall.perform] at ok
  split at ok
  case isTrue => cases ok
  case isFalse between =>
    rcases map_eq_ok_iff.mp ok with ⟨⟨state, events⟩, dealt, rfl⟩
    exact ⟨events, Bool.not_eq_true _ ▸ between, mapError_eq_ok_iff.mp dealt⟩

theorem Sound.deal {handNumber : Nat} {seed name : String} (sound : Sound run)
    (ok : SeatCall.perform hashes run.table (.deal handNumber seed name) = .ok after) :
    Sound ⟨after, run.missedAfter after (.deal handNumber seed name)⟩ := by
  rcases perform_deal_eq_ok ok with ⟨events, -, dealt⟩
  rcases startHand_eq_ok dealt with ⟨button, sb, bb, started⟩
  constructor
  · intro i empty
    rw [(started.sitting i).1] at empty
    rw [(started.sitting i).2]
    exact sound.vacant i empty
  · intro i owes
    simp only [SeatHistory.missedAfter, Finset.mem_filter, Finset.mem_univ, true_and] at owes
    rw [(started.sitting i).1]
    exact owes.1
  · intro between
    have named : "hand_" ++ name ≠ "" := by
      intro equal
      have length := congrArg String.length equal
      rw [String.length_append] at length
      have five : "hand_".length = 5 := rfl
      have none : "".length = 0 := rfl
      omega
    rw [started.rest] at between
    simp [HoldemState.midHand, HoldemState.hasHandId, named] at between

theorem Sound.other (sound : Sound run) (fair : call.Fair hashes run)
    (noDeal : ∀ handNumber seed name, call ≠ .deal handNumber seed name)
    (ok : call.perform hashes run.table = .ok after) :
    Sound ⟨after, run.missedAfter after call⟩ := by
  have fairly := letsInFairly_perform sound.vacant fair.waits noDeal ok
  have forgets : ∀ i ∈ run.missedAfter after call, i ∈ run.missed ∧ (after.state.seats i).playerId =
          (run.table.state.seats i).playerId := by
    intro i owes
    cases call with
    | deal handNumber seed name => exact absurd rfl (noDeal _ _ _)
    | _ => exact Finset.mem_filter.mp owes
  constructor
  · exact fairly.vacant
  · intro i owes
    rcases forgets i owes with ⟨owed, player⟩
    rw [player]
    exact sound.seated i owed
  · intro between i owes dealtIn
    rcases forgets i owes with ⟨owed, player⟩
    cases out : (run.table.state.seats i).sitOut with
    | false => exact fair.stays after ok between i owed out dealtIn
    | true =>
      apply fairly.returns i owed (sound.seated i owed) player out
      simp only [SeatState.eligible, Bool.and_eq_true, Bool.not_eq_true'] at dealtIn
      exact dealtIn.1.1

theorem Sound.step (sound : Sound run) (fair : call.Fair hashes run)
    (ok : run.step hashes call = .ok later) : Sound later := by
  rcases map_eq_ok_iff.mp ok with ⟨after, performed, rfl⟩
  cases call with
  | deal handNumber seed name => exact sound.deal performed
  | _ =>
    apply sound.other fair _ performed
    intro handNumber seed name equal
    cases equal

/-- In a sound state the next deal charges whoever comes back. -/
theorem Sound.noDodge (sound : Sound run) : NoDodge hashes run := by
  intro handNumber seed name after events between dealt i owes dealtIn
  have vacant :
      VacantSitOut ({ run.table.state with handNumber := handNumber } :
          HoldemState seatCount).seats :=
    sound.vacant
  rcases startHand_posts vacant.undealt dealt with
    ⟨blinds, small, big, pot, cards, predicted, listed, players⟩
  have eligible : (run.table.state.seats i).eligible = true := by
    rcases dealtIn with ⟨event, happened, given⟩
    rw [listed] at happened
    simp only [List.mem_cons, List.not_mem_nil, or_false] at happened
    rcases happened with rfl | rfl | rfl | rfl
    · cases given
    · cases given
    · cases given
    · rcases List.mem_map.mp given with ⟨⟨j, hole⟩, mem, rfl⟩
      exact players j hole mem
  have charged := sound.ready between i owes eligible
  have chosen : nextBlindSeats run.table.state [] = some blinds := predicted
  rw [nextBigBlind, chosen, Option.map_some, Option.some.injEq] at charged
  rw [← charged, listed]
  exact ⟨.blindsPosted (blinds.sb, small) (blinds.bb, big) pot,
      List.mem_cons_of_mem _ List.mem_cons_self, rfl⟩

/-- Five players with 500 chips each and a big blind of 10. -/
def fivePlayers : SeatHistory 5 where
  table :=
    { onchain := false
      variantId := "nlhe_6max"
      maxStack := 1000
      state :=
        ["a", "b", "c", "d", "e"].zipIdx.foldl (fun state player =>
            seatPlayer state player.2 player.1 "agent" 500)
          (plainTable 5)
      awaitingBigBlind := [] }
  missed := ∅

/-- A hand of three that the blinds fold, or the button and a blind. -/
def foldedHand : List (SeatCall 5) :=
  [.deal 0 "seed" "1", .play (.act .fold none), .play (.act .fold none),
    .sitOutBroke, .resetToWaiting fun _ => none]

theorem reachable_fivePlayers {allowed : SeatHistory 5 → SeatCall 5 → Prop} :
    (tableRuns plainHashes 5).Reachable allowed fivePlayers := by
  apply System.Reachable.start
  refine ⟨rfl, rfl, by decide +kernel, ?_⟩
  unfold VacantSitOut
  decide +kernel

/-- Whether a seat dodges the big blind in a next deal of more than two. -/
def dodges (run : SeatHistory seatCount) (i : Fin seatCount) : Bool :=
  run.table.state.midHand = false &&
    2 < (seatsWith run.table.state.seats SeatState.eligible).length && i ∈ run.missed &&
    (run.table.deal plainHashes 1 "seed" "2").toOption.any fun result =>
      DealtIn result.2 i && !decide (PostsBigBlind result.2 i)

/-- A run that ends with a seat that dodges the big blind. -/
def DodgingRun (calls : List (SeatCall 5)) : Prop :=
  ∃ run, (tableRuns plainHashes 5).Reachable (fun run call => call.Crowded run) run ∧
      2 < (seatsWith run.table.state.seats SeatState.eligible).length ∧ ¬ NoDodge plainHashes run ∧
      (tableRuns plainHashes 5).replay (fun run call => call.Crowded run) fivePlayers calls =
        some run

theorem dodgingRun_of_dodges {calls : List (SeatCall 5)} {i : Fin 5}
    (observed : ((tableRuns plainHashes 5).replay
          (fun run call => call.Crowded run) fivePlayers calls).any
        (fun run => dodges run i) = true) :
    DodgingRun calls := by
  rw [Option.any_eq_true] at observed
  rcases observed with ⟨run, replayed, dodged⟩
  have reached := reachable_fivePlayers.replay replayed
  simp only [dodges, Bool.and_eq_true, decide_eq_true_eq,
    Option.any_eq_true, Bool.not_eq_true', decide_eq_false_iff_not] at dodged
  rcases dodged with ⟨⟨⟨between, crowded⟩, owes⟩, ⟨after, events⟩, dealt, dealtIn, free⟩
  refine ⟨run, reached, crowded, ?_, replayed⟩
  intro noDodge
  exact free
      (noDodge 1 "seed" "2" after events between (mem_toOption_iff.mp dealt) i owes dealtIn)

/-- A seat that sits out during a hand tops up by one dollar. -/
def toppingUp : List (SeatCall 5) :=
  [.leave "e" false, .setPlayerSitOut "b" true] ++ foldedHand ++
    [.topUp "b" 100 ⟨false, false⟩]

/-- A new player sits down in front of the next big blind. -/
def joining : List (SeatCall 5) :=
  [.leave "d" false, .setPlayerSitOut "e" true] ++ foldedHand ++
    [.setPlayerSitOut "e" false, .join "f" "agent" 500 none false]

/-- The next small blind leaves. -/
def leaving : List (SeatCall 5) :=
  [.leave "d" false, .setPlayerSitOut "e" true] ++ foldedHand ++
    [.setPlayerSitOut "e" false, .leave "c" false]

end Mozetto.GameServer.SitOuts
