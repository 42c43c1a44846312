import Mathlib.Algebra.Order.BigOperators.Group.Finset
import Mozetto.GameServer.TableEscrow

/-!
# Escrow and chips

The escrow of a player follows the stack only where every change of stack is
a whole number of dollars: the change is rounded in dollars before it is
booked.  Where hands pay out what was bet, in whole dollars each, the escrow
of every player is the stack, clearing ends every hand as it was, and a leave
empties the escrow.
-/

namespace Mozetto.GameServer

open Mozetto.Database
open Mozetto.Library.DoubleEntry
open Mozetto.Library.Guarded
open Mozetto.Library.TransitionSystem

variable {maxSeats : Nat}

/-! ## The condition -/

namespace TableRuntime

variable (limits : TableLimits) (table : TableRuntime maxSeats)

/-- The sum over the players of a table. -/
def total (amount : Seat → Nat) : Nat := ∑ i, (table.seats i).elim 0 amount

/-- The baseline that `syncStacks` compares a stack with. -/
def baselineOf (userId : UserId) (stack : Nat) : Float :=
  (table.stackBaseline userId).getD (chipsToUsd stack)

/-- The hand pays out what was bet, and every stack changes by whole
dollars. -/
structure PaysWholeDollars (paid : Fin maxSeats → Nat) (rake : Nat) : Prop where
  conserved : (table.paidOut paid).total (·.stack) + rake = table.total (·.stack) + table.pot
  whole : ∀ i, ∀ seat ∈ table.seats i, ChangesWhole (table.baselineOf seat.playerId (paid i))
        (seat.stack + seat.totalBet) (paid i)

/-- A leaver has bet whole dollars, and has no other leave booked at that
time. -/
def LeavesWholeDollars (userId : UserId) (now : Nat) (seat : Seat) : Prop :=
  if table.baselineOf userId seat.stack != chipsToUsd seat.stack then
    ChangesWhole (table.baselineOf userId seat.stack) (seat.stack + seat.totalBet) seat.stack ∧
      ¬ Posted table.ledger (.handLoss .demo (.leave limits.tableId userId now) userId) ∧
      ¬ Posted table.ledger (.handWin .demo (.leave limits.tableId userId now) userId)
  else seat.totalBet = 0

/-- No two top-ups of a session at one time, hands that pay out what was bet,
stacks that change by whole dollars, and no hand that is given up. -/
def InWholeDollars : TableAction maxSeats → Prop
  | .topUp userId _ now =>
      ∀ sessionId ∈ table.sessions userId,
        ¬ Posted table.ledger (.buyin .demo (.topUp sessionId now))
  | .settle paid rake => table.PaysWholeDollars paid rake
  | .reset => table.pot = 0
  | .leave userId now =>
      ∀ i ∈ table.seatOf userId, ∀ seat ∈ table.seats i,
        table.LeavesWholeDollars limits userId now seat
  | _ => True

/-! ## The property -/

/-- The escrow of a player that this table has booked. -/
def escrowHere (opening : Ledger) (userId : UserId) : Int :=
  balance table.ledger (userTableEscrow userId .demo) -
    balance opening (userTableEscrow userId .demo)

/-- Between hands, escrow is the stack and clearing is as it was. -/
structure TracksChips (opening : Ledger) : Prop where
  escrow : ∀ i, ∀ seat ∈ table.seats i, table.escrowHere opening seat.playerId = seat.stack
  clearing : balance table.ledger (systemClearing .demo) = balance opening (systemClearing .demo)

/-- A leave finds escrow at the stack before the cash-out, empties it, and
makes exactly the stack available. -/
structure CashesOut (opening : Ledger) (after : TableRuntime maxSeats) (userId : UserId)
    (now : Nat) (seat : Seat) : Prop where
  rebalanced :
    ∃ ledger, table.rebalancedOnLeave limits userId seat.stack now = .ok ledger ∧
        ({ table with ledger := ledger } : TableRuntime maxSeats).escrowHere
            opening userId = seat.stack
  escrow : after.escrowHere opening userId = 0
  available : balance after.ledger (userAvailable userId .demo) =
      balance table.ledger (userAvailable userId .demo) + seat.stack

/-! ## Seats -/

section Seats

variable {table} {userId : UserId} {i : Fin maxSeats} {seat : Seat}

theorem seatOf_eq_none_iff : table.seatOf userId = none ↔
    ∀ i, ∀ seat ∈ table.seats i, seat.playerId ≠ userId := by
  rw [seatOf, List.find?_eq_none]
  simp only [List.mem_finRange, forall_const, Option.any_eq_true,
    decide_eq_true_eq, not_exists, not_and, Option.mem_def]

theorem exists_seat_of_seatOf (seated : table.seatOf userId = some i) :
    ∃ seat, table.seats i = some seat ∧ seat.playerId = userId := by
  have found := List.find?_some seated
  simpa only [Option.any_eq_true, decide_eq_true_eq] using found

@[simp]
theorem seats_setSeat (seat : Option Seat) :
    (table.setSeat i seat).seats = Function.update table.seats i seat := rfl

@[simp]
theorem pot_setSeat (seat : Option Seat) : (table.setSeat i seat).pot = table.pot := rfl

/-- The sum over the players after a seat has changed. -/
theorem total_setSeat (seat : Option Seat) (amount : Seat → Nat) :
    (table.setSeat i seat).total amount + (table.seats i).elim 0 amount =
      table.total amount + seat.elim 0 amount := by
  rw [total, total, ← Finset.add_sum_erase _ _ (Finset.mem_univ i),
    ← Finset.add_sum_erase Finset.univ (fun i => (table.seats i).elim 0 amount) (Finset.mem_univ i)]
  have others : ∑ j ∈ Finset.univ.erase i, ((table.setSeat i seat).seats j).elim 0 amount =
      ∑ j ∈ Finset.univ.erase i, (table.seats j).elim 0 amount := by
    apply Finset.sum_congr rfl
    intro j member
    rw [seats_setSeat, Function.update_of_ne (Finset.ne_of_mem_erase member)]
  rw [others, seats_setSeat, Function.update_self]
  omega

theorem le_total (held : table.seats i = some seat) (amount : Seat → Nat) :
    amount seat ≤ table.total amount := by
  have single :=
    Finset.single_le_sum (fun j _ => Nat.zero_le ((table.seats j).elim 0 amount))
      (Finset.mem_univ i)
  rwa [held] at single

end Seats

/-! ## What every step keeps -/

/-- The chips of a player at a seat, with those in the pot. -/
def chipsOf (userId : UserId) (s : Seat) : Nat :=
  if s.playerId = userId then s.stack + s.totalBet else 0

/-- The invariant of the runs in whole dollars. -/
structure Kept (opening : Ledger) : Prop where
  distinct : ∀ i j, ∀ seat ∈ table.seats i, ∀ other ∈ table.seats j,
      seat.playerId = other.playerId → i = j
  escrow : ∀ userId, table.escrowHere opening userId = table.total (chipsOf userId)
  clearing : balance table.ledger (systemClearing .demo) + table.total (·.totalBet) =
      balance opening (systemClearing .demo) + table.pot
  bets : table.total (·.totalBet) ≤ table.pot
  idle : table.handId = none → table.pot = 0

/-- Keys that later steps post are still free. -/
structure Fresh : Prop where
  session : ∀ i, ∀ seat ∈ table.seats i, (table.sessions seat.playerId).isSome
  held : ∀ userId, ∀ sessionId ∈ table.sessions userId, sessionId < table.nextId ∧
        ¬ Posted table.ledger (.cashout .demo sessionId)
  apart : ∀ userId other, ∀ sessionId ∈ table.sessions userId,
      sessionId ∈ table.sessions other → userId = other
  older : ∀ key, Posted table.ledger key → OlderThan table.nextId key
  hand : ∀ handId ∈ table.handId,
      handId < table.nextId ∧ ¬ Posted table.ledger (.rake .demo handId) ∧
        ∀ userId key, IsRoundKey .demo (.hand handId) userId key → ¬ Posted table.ledger key

/-! ## Joining -/

section Steps

variable {limits table} {after : TableRuntime maxSeats} {opening : Ledger}
variable {userId : UserId}

theorem mapError_map_eq_ok_iff {run : Except LedgerError Ledger}
    {build : Ledger → TableRuntime maxSeats} :
    (run.mapError TableError.ledger).map build = .ok after ↔
      ∃ ledger, run = .ok ledger ∧ build ledger = after := by
  cases run with
  | error reason => simp [Except.mapError, Except.map]
  | ok ledger => simp [Except.mapError, Except.map]

theorem mapError_eq_ok_iff {run : Except LedgerError Ledger} {ledger : Ledger} :
    run.mapError TableError.ledger = .ok ledger ↔ run = .ok ledger := by
  cases run with
  | error reason => simp [Except.mapError]
  | ok other => simp [Except.mapError]

/-- A join writes nothing, or takes an empty seat for a new buy-in. -/
theorem joinUnlocked_cases {buyIn : Nat} {seatIndex : Option (Fin maxSeats)}
    (run : table.joinUnlocked limits userId buyIn seatIndex = .ok after) :
    after = table ∨ ∃ i ledger, table.seatOf userId = none ∧ table.handId = none ∧
          table.seats i = none ∧ lockBuyIn table.ledger userId buyIn (.session table.nextId) .demo =
            .ok ledger ∧ after =
            { table.setSeat i (some ⟨userId, buyIn, 0⟩) with
              sessions := Function.update table.sessions userId (some table.nextId)
              stackBaseline :=
                Function.update table.stackBaseline userId (some (chipsToUsd buyIn))
              ledger := ledger
              nextId := table.nextId + 1 } := by
  rw [joinUnlocked] at run
  split at run
  case isTrue => cases run
  case isFalse =>
    split at run
    case isTrue => exact Or.inl (Except.ok.inj run).symm
    case isFalse absent =>
      split at run
      case isTrue => exact Or.inl (Except.ok.inj run).symm
      case isFalse waiting =>
        split at run
        case h_1 => cases run
        case h_2 i found =>
          rcases mapError_map_eq_ok_iff.mp run with ⟨ledger, locked, same⟩
          have empty := List.find?_some found
          rw [decide_eq_true_eq] at empty
          exact Or.inr ⟨i, ledger, Option.not_isSome_iff_eq_none.mp absent,
                Option.not_isSome_iff_eq_none.mp waiting, empty.2, locked, same.symm⟩

theorem fresh_of_not_older {key : LedgerKey} (fresh : table.Fresh)
    (next : ¬ OlderThan table.nextId key) : ¬ Posted table.ledger key :=
  fun posted => next (fresh.older key posted)

/-- A change of one seat, with what it moves between escrow and elsewhere. -/
theorem Kept.setSeat {i : Fin maxSeats} {seat : Option Seat} {ledger : Ledger} {pot : Nat}
    {other : Account} {amount : Int} {keys : LedgerKey → Prop} (kept : table.Kept opening)
    (distinct : ∀ s ∈ seat, ∀ j, j ≠ i → ∀ s' ∈ table.seats j, s.playerId ≠ s'.playerId)
    (moved : Moved table.ledger ledger other (userTableEscrow userId .demo) amount keys)
    (elsewhere : ∀ userId, other ≠ userTableEscrow userId .demo)
    (chips : ∀ w, ((seat.elim 0 (chipsOf w) : Nat) : Int) =
          ((table.seats i).elim 0 (chipsOf w) : Nat) + if userId = w then amount else 0)
    (clearing : (if other = systemClearing .demo then amount else 0) +
          ((table.seats i).elim 0 (·.totalBet) : Nat) + pot =
        (seat.elim 0 (·.totalBet) : Nat) + table.pot)
    (bets : seat.elim 0 (·.totalBet) + table.pot ≤ (table.seats i).elim 0 (·.totalBet) + pot)
    (idle : after.handId = none → pot = 0)
    (seats : after.seats = Function.update table.seats i seat)
    (ledgers : after.ledger = ledger) (pots : after.pot = pot) :
    after.Kept opening := by
  have totals (measure : Seat → Nat) : after.total measure + (table.seats i).elim 0 measure =
      table.total measure + seat.elim 0 measure := by
    have same : after.total measure = (table.setSeat i seat).total measure := by
      rw [total, total, seats_setSeat, seats]
    rw [same]
    exact total_setSeat seat measure
  constructor
  · intro j k s atJ s' atK same
    rw [seats] at atJ atK
    by_cases first : j = i
    · by_cases second : k = i
      · rw [first, second]
      · rw [first, Function.update_self] at atJ
        rw [Function.update_of_ne second] at atK
        exact absurd same (distinct s atJ k second s' atK)
    · rw [Function.update_of_ne first] at atJ
      by_cases second : k = i
      · rw [second, Function.update_self] at atK
        exact absurd same.symm (distinct s' atK j first s atJ)
      · rw [Function.update_of_ne second] at atK
        exact kept.distinct j k s atJ s' atK same
  · intro w
    have before := kept.escrow w
    have change := totals (chipsOf w)
    have moves := moved.balance (userTableEscrow w .demo)
    have here := chips w
    rw [if_neg (elsewhere w)] at moves
    simp only [userTableEscrow, Account.mk.injEq, Option.some.injEq, and_true] at moves
    rw [escrowHere] at before ⊢
    simp only [ledgers, userTableEscrow] at before ⊢
    omega
  · have change := totals (·.totalBet)
    have moves := moved.balance (systemClearing .demo)
    have apart : userTableEscrow userId .demo ≠ systemClearing .demo := by
      simp [userTableEscrow, systemClearing]
    rw [if_neg apart] at moves
    have before := kept.clearing
    rw [ledgers, pots]
    omega
  · have change := totals (·.totalBet)
    have before := kept.bets
    rw [pots]
    omega
  · intro waiting
    rw [pots]
    exact idle waiting

theorem OlderThan.mono {next later : Uuid} {key : LedgerKey}
    (older : OlderThan next key) (le : next ≤ later) : OlderThan later key := by
  cases key with
  | buyin mode reference =>
    cases reference with
    | session id => exact Nat.lt_of_lt_of_le older le
    | topUp id now => exact Nat.lt_of_lt_of_le older le
  | cashout mode id => exact Nat.lt_of_lt_of_le older le
  | rake mode id => exact Nat.lt_of_lt_of_le older le
  | handLoss mode round other =>
    cases round with
    | hand id => exact Nat.lt_of_lt_of_le older le
    | leave tableId leaver now => trivial
  | handWin mode round other =>
    cases round with
    | hand id => exact Nat.lt_of_lt_of_le older le
    | leave tableId leaver now => trivial
  | onchainDeposit hash => trivial
  | onchainBuyinWallet hash logIndex => trivial
  | onchainPayout hash logIndex => trivial
  | onchainWithdraw hash => trivial
  | onchainReorg hash => trivial

/-- Keys stay free when the new ones are of none of the sessions and hands
that go on. -/
theorem Fresh.step {new : LedgerKey → Prop} (fresh : table.Fresh)
    (posted : ∀ key, Posted after.ledger key → Posted table.ledger key ∨ new key)
    (le : table.nextId ≤ after.nextId)
    (older : ∀ key, new key → OlderThan after.nextId key)
    (session : ∀ i, ∀ seat ∈ after.seats i, (after.sessions seat.playerId).isSome)
    (sessions : ∀ userId, ∀ sessionId ∈ after.sessions userId, (sessionId ∈ table.sessions userId ∨
            sessionId = table.nextId ∧ table.nextId < after.nextId) ∧
          ¬ new (.cashout .demo sessionId))
    (apart : ∀ userId other, ∀ sessionId ∈ after.sessions userId,
        sessionId ∈ after.sessions other → userId = other)
    (hand : ∀ handId ∈ after.handId, (handId ∈ table.handId ∨
            handId = table.nextId ∧ table.nextId < after.nextId) ∧ ¬ new (.rake .demo handId) ∧
            ∀ userId key, IsRoundKey .demo (.hand handId) userId key → ¬ new key) :
    after.Fresh where
  session := session
  held := by
    intro userId sessionId active
    rcases sessions userId sessionId active with ⟨origin, unused⟩
    rcases origin with old | ⟨rfl, below⟩
    · rcases fresh.held userId sessionId old with ⟨below, free⟩
      refine ⟨Nat.lt_of_lt_of_le below le, fun used => ?_⟩
      exact (posted _ used).elim free unused
    · refine ⟨below, fun used => ?_⟩
      exact (posted _ used).elim (fresh_of_not_older fresh (Nat.lt_irrefl table.nextId)) unused
  apart := apart
  older := by
    intro key used
    rcases posted key used with old | added
    · exact OlderThan.mono (fresh.older key old) le
    · exact older key added
  hand := by
    intro handId active
    rcases hand handId active with ⟨origin, rake, round⟩
    rcases origin with old | ⟨rfl, below⟩
    · rcases fresh.hand handId old with ⟨below, freeRake, freeRound⟩
      refine ⟨Nat.lt_of_lt_of_le below le, fun used => ?_, fun userId key named used => ?_⟩
      · exact (posted _ used).elim freeRake rake
      · exact (posted _ used).elim (freeRound userId key named) (round userId key named)
    · refine ⟨below, fun used => ?_, fun userId key named used => ?_⟩
      · exact (posted _ used).elim (fresh_of_not_older fresh (Nat.lt_irrefl table.nextId)) rake
      · have next : ¬ OlderThan table.nextId key := by
          rcases named with rfl | rfl
          · exact Nat.lt_irrefl table.nextId
          · exact Nat.lt_irrefl table.nextId
        exact (posted _ used).elim (fresh_of_not_older fresh next) (round userId key named)

/-! ## Joins, top-ups and bets -/

theorem kept_of_join {buyIn : Nat} {seatIndex : Option (Fin maxSeats)}
    (kept : table.Kept opening) (fresh : table.Fresh)
    (run : table.joinUnlocked limits userId buyIn seatIndex = .ok after) :
    after.Kept opening ∧ after.Fresh := by
  rcases joinUnlocked_cases run with
    rfl | ⟨i, ledger, absent, waiting, empty, locked, rfl⟩
  · exact ⟨kept, fresh⟩
  · rw [seatOf_eq_none_iff] at absent
    have unused : ¬ Posted table.ledger (.buyin .demo (.session table.nextId)) :=
      fresh_of_not_older fresh (Nat.lt_irrefl table.nextId)
    have moved := moved_of_lockBuyIn locked unused
    constructor
    · refine kept.setSeat ?_ moved ?_ ?_ ?_ ?_ ?_ rfl rfl rfl
      · intro s new j _ s' atJ
        cases new
        exact fun same => absent j s' atJ same.symm
      · intro w
        simp [userAvailable, userTableEscrow]
      · intro w
        rw [empty]
        simp only [Option.elim_some, Option.elim_none, chipsOf]
        split <;> simp
      · rw [empty]
        simp [userAvailable, systemClearing]
      · rw [empty]
        simp
      · exact kept.idle
    · refine fresh.step moved.posted (Nat.le_succ _) ?_ ?_ ?_ ?_ ?_
      · rintro key rfl
        exact Nat.lt_succ_self _
      · intro j seat atJ
        simp only [seats_setSeat] at atJ ⊢
        by_cases own : seat.playerId = userId
        · rw [own, Function.update_self]
          rfl
        · rw [Function.update_of_ne own]
          have other : j ≠ i := by
            rintro rfl
            rw [Function.update_self] at atJ
            exact own (Option.some.inj atJ.symm ▸ rfl)
          rw [Function.update_of_ne other] at atJ
          exact fresh.session j seat atJ
      · intro w sessionId active
        refine ⟨?_, LedgerKey.noConfusion⟩
        by_cases own : w = userId
        · rw [own] at active
          simp only [Function.update_self] at active
          exact Or.inr ⟨(Option.some.inj active).symm, Nat.lt_succ_self _⟩
        · simp only [Function.update_of_ne own] at active
          exact Or.inl active
      · intro w other sessionId first second
        by_cases own : w = userId
        · by_cases also : other = userId
          · rw [own, also]
          · rw [own] at first
            simp only [Function.update_self, Function.update_of_ne also] at first second
            have below := (fresh.held other sessionId second).1
            rw [← Option.some.inj first] at below
            exact absurd below (Nat.lt_irrefl _)
        · by_cases also : other = userId
          · rw [also] at second
            simp only [Function.update_self, Function.update_of_ne own] at first second
            have below := (fresh.held w sessionId first).1
            rw [← Option.some.inj second] at below
            exact absurd below (Nat.lt_irrefl _)
          · simp only [Function.update_of_ne own, Function.update_of_ne also] at first second
            exact fresh.apart w other sessionId first second
      · intro handId active
        cases waiting.symm.trans active

/-- A top-up writes nothing, or adds to a stack and its baseline. -/
theorem topUp_cases {amount now : Nat} (run : table.topUp limits userId amount now = .ok after) :
    after = table ∨ ∃ i seat sessionId ledger, table.seats i = some seat ∧ seat.playerId = userId ∧
          table.handId = none ∧ table.sessions userId = some sessionId ∧
          lockBuyIn table.ledger userId amount (.topUp sessionId now) .demo = .ok ledger ∧ after =
            { table.setSeat i (some { seat with stack := seat.stack + amount }) with
              stackBaseline :=
                Function.update table.stackBaseline userId (some
                    ((table.stackBaseline userId).getD 0 + chipsToUsd amount))
              ledger := ledger } := by
  rw [topUp] at run
  split at run
  case isTrue => cases run
  case isFalse =>
    split at run
    case h_1 => cases run
    case h_2 i seated =>
      rcases exists_seat_of_seatOf seated with ⟨seat, here, own⟩
      simp only [here, Option.getD_some] at run
      split at run
      case isTrue => cases run
      case isFalse =>
        split at run
        case isTrue => exact Or.inl (Except.ok.inj run).symm
        case isFalse waiting =>
          split at run
          case h_1 => cases run
          case h_2 sessionId active =>
            rcases mapError_map_eq_ok_iff.mp run with ⟨ledger, locked, same⟩
            exact Or.inr ⟨i, seat, sessionId, ledger, here, own,
                  Option.not_isSome_iff_eq_none.mp waiting, active, locked, same.symm⟩

/-- A player is not at another seat too. -/
theorem Kept.elsewhere {i j : Fin maxSeats} {seat other : Seat}
    (kept : table.Kept opening) (here : table.seats i = some seat)
    (apart : j ≠ i) (there : other ∈ table.seats j) : seat.playerId ≠ other.playerId :=
  fun same => apart (kept.distinct i j seat here other there same).symm

/-- A seat that keeps its player keeps its session. -/
theorem Fresh.session_setSeat {i j : Fin maxSeats} {seat new other : Seat}
    (fresh : table.Fresh) (here : table.seats i = some seat)
    (there : other ∈ Function.update table.seats i (some new) j)
    (player : new.playerId = seat.playerId) : (table.sessions other.playerId).isSome := by
  by_cases same : j = i
  · rw [same, Function.update_self] at there
    rw [← Option.some.inj there, player]
    exact fresh.session i seat here
  · rw [Function.update_of_ne same] at there
    exact fresh.session j other there

theorem kept_of_topUp {amount now : Nat} (kept : table.Kept opening) (fresh : table.Fresh)
    (unused : ∀ sessionId ∈ table.sessions userId,
        ¬ Posted table.ledger (.buyin .demo (.topUp sessionId now)))
    (run : table.topUp limits userId amount now = .ok after) :
    after.Kept opening ∧ after.Fresh := by
  rcases topUp_cases run with
    rfl | ⟨i, seat, sessionId, ledger, here, own, waiting, active, locked, rfl⟩
  · exact ⟨kept, fresh⟩
  · have moved := moved_of_lockBuyIn locked (unused sessionId active)
    constructor
    · refine kept.setSeat ?_ moved ?_ ?_ ?_ ?_ ?_ rfl rfl rfl
      · intro s new j apart s' atJ
        cases new
        show seat.playerId ≠ s'.playerId
        exact kept.elsewhere here apart atJ
      · intro w
        simp [userAvailable, userTableEscrow]
      · intro w
        rw [here]
        simp only [Option.elim_some, chipsOf, own]
        split
        · push_cast
          omega
        · simp
      · rw [here]
        simp [userAvailable, systemClearing]
      · rw [here]
        simp
      · exact kept.idle
    · refine fresh.step moved.posted (Nat.le_refl _) ?_ ?_ ?_ ?_ ?_
      · rintro key rfl
        exact (fresh.held userId sessionId active).1
      · intro j other atJ
        exact fresh.session_setSeat here atJ rfl
      · intro w session held
        exact ⟨Or.inl held, LedgerKey.noConfusion⟩
      · exact fresh.apart
      · intro handId running
        cases waiting.symm.trans running

theorem bet_cases {i : Fin maxSeats} {chips : Nat} (run : table.bet i chips = .ok after) :
    ∃ handId seat, table.handId = some handId ∧ table.seats i = some seat ∧ chips ≤ seat.stack ∧
        after =
          { table.setSeat i (some
                { seat with
                  stack := seat.stack - chips
                  totalBet := seat.totalBet + chips }) with
            pot := table.pot + chips } := by
  rw [bet] at run
  split at run
  case h_1 handId seat running here =>
    split at run
    case isTrue enough =>
      exact ⟨handId, seat, running, here, enough, (Except.ok.inj run).symm⟩
    case isFalse => cases run
  case h_2 => cases run

theorem kept_of_bet {i : Fin maxSeats} {chips : Nat}
    (kept : table.Kept opening) (fresh : table.Fresh) (run : table.bet i chips = .ok after) :
    after.Kept opening ∧ after.Fresh := by
  rcases bet_cases run with ⟨handId, seat, running, here, enough, rfl⟩
  have moved : Moved table.ledger table.ledger (userAvailable seat.playerId .demo)
      (userTableEscrow seat.playerId .demo) 0 fun _ => False := .nothing
  constructor
  · refine kept.setSeat ?_ moved ?_ ?_ ?_ ?_ ?_ rfl rfl rfl
    · intro s new j apart s' atJ
      cases new
      show seat.playerId ≠ s'.playerId
      exact kept.elsewhere here apart atJ
    · intro w
      simp [userAvailable, userTableEscrow]
    · intro w
      rw [here]
      simp only [Option.elim_some, chipsOf]
      split
      · omega
      · simp
    · rw [here]
      simp only [Option.elim_some, ite_self]
      omega
    · rw [here]
      simp only [Option.elim_some]
      omega
    · intro waiting
      cases running.symm.trans waiting
  · refine fresh.step moved.posted (Nat.le_refl _) ?_ ?_ ?_ ?_ ?_
    · exact fun _ => False.elim
    · intro j other atJ
      exact fresh.session_setSeat here atJ rfl
    · exact fun w session held => ⟨Or.inl held, not_false⟩
    · exact fresh.apart
    · exact fun hand active =>
      ⟨Or.inl active, not_false, fun _ _ _ => not_false⟩

/-! ## Hands -/

theorem beginHand_cases (run : table.beginHand = .ok after) :
    table.handId = none ∧ after =
        { table with
          handId := some table.nextId
          nextId := table.nextId + 1 } := by
  rw [beginHand] at run
  split at run
  case isTrue => cases run
  case isFalse waiting =>
    exact ⟨Option.not_isSome_iff_eq_none.mp waiting, (Except.ok.inj run).symm⟩

theorem kept_of_beginHand (kept : table.Kept opening) (fresh : table.Fresh)
    (run : table.beginHand = .ok after) : after.Kept opening ∧ after.Fresh := by
  rcases beginHand_cases run with ⟨waiting, rfl⟩
  constructor
  · exact ⟨kept.distinct, kept.escrow, kept.clearing, kept.bets, fun idle => nomatch idle⟩
  · refine @Fresh.step _ _ _ (fun _ => False) fresh (fun _ => Or.inl)
        (Nat.le_succ _) ?_ fresh.session ?_ fresh.apart ?_
    · exact fun _ => False.elim
    · exact fun w session held => ⟨Or.inl held, not_false⟩
    · intro handId running
      refine ⟨Or.inr ⟨?_, Nat.lt_succ_self _⟩, not_false, ?_⟩
      · exact (Option.some.inj running).symm
      · exact fun _ _ _ => not_false

/-- Between hands nothing is in the pot. -/
theorem Kept.totalBet_eq_zero {i : Fin maxSeats} {seat : Seat}
    (kept : table.Kept opening) (empty : table.pot = 0)
    (here : table.seats i = some seat) : seat.totalBet = 0 := by
  have bound := le_total here (·.totalBet)
  have bets := kept.bets
  omega

@[simp]
theorem seats_resetToWaiting (i : Fin maxSeats) :
    table.resetToWaiting.seats i = (table.seats i).map fun s => { s with totalBet := 0 } :=
  rfl

@[simp]
theorem seats_paidOut (paid : Fin maxSeats → Nat) (i : Fin maxSeats) :
    (table.paidOut paid).seats i = (table.seats i).map fun s => { s with stack := paid i } := rfl

theorem total_resetToWaiting (measure : Seat → Nat) :
    table.resetToWaiting.total measure = table.total fun s => measure { s with totalBet := 0 } := by
  rw [total, total]
  apply Finset.sum_congr rfl
  intro i _
  rw [seats_resetToWaiting]
  cases table.seats i with
  | none => rfl
  | some seat => rfl

/-- A hand that is given up with nothing in the pot changes nothing. -/
theorem kept_of_reset (kept : table.Kept opening) (fresh : table.Fresh) (empty : table.pot = 0) :
    table.resetToWaiting.Kept opening ∧ table.resetToWaiting.Fresh := by
  have same : table.resetToWaiting.seats = table.seats := by
    funext i
    rw [seats_resetToWaiting]
    cases here : table.seats i with
    | none => simp [here]
    | some seat =>
      have zero := kept.totalBet_eq_zero empty here
      simp only [here, Option.map_some, ← zero]
  have totals (measure : Seat → Nat) :
      table.resetToWaiting.total measure = table.total measure := by
    rw [total, total, same]
  constructor
  · constructor
    · rw [same]
      exact kept.distinct
    · intro w
      rw [totals]
      exact kept.escrow w
    · rw [totals]
      have before := kept.clearing
      rw [empty] at before
      exact before
    · rw [totals]
      have before := kept.bets
      rw [empty] at before
      exact before
    · exact fun _ => rfl
  · refine @Fresh.step _ _ _ (fun _ => False) fresh (fun _ => Or.inl)
        (Nat.le_refl _) ?_ ?_ ?_ fresh.apart ?_
    · exact fun _ => False.elim
    · rw [same]
      exact fresh.session
    · exact fun w session held => ⟨Or.inl held, not_false⟩
    · exact fun handId running => nomatch running

/-- The change of stack at a seat that a hand pays. -/
def paidChange (table : TableRuntime maxSeats) (paid : Fin maxSeats → Nat)
    (i : Fin maxSeats) (s : Seat) : StackChange where
  userId := s.playerId
  prevStack := table.baselineOf s.playerId (paid i)
  nextStack := chipsToUsd (paid i)

theorem stackChanges_paidOut (paid : Fin maxSeats → Nat) : (table.paidOut paid).stackChanges =
    (List.finRange maxSeats).filterMap fun i =>
      (table.seats i).map (table.paidChange paid i) := by
  rw [stackChanges]
  congr 1
  funext i
  rw [seats_paidOut, Option.map_map]
  rfl

/-- A sum over a filtered list is a sum over the list. -/
theorem sum_filterMap {α β : Type} (choose : α → Option β) (measure : β → Int) (entries : List α) :
    ((entries.filterMap choose).map measure).sum =
      (entries.map fun entry => (choose entry).elim 0 measure).sum := by
  induction entries with
  | nil => rfl
  | cons entry rest induction =>
    rw [List.filterMap_cons, List.map_cons, List.sum_cons, ← induction]
    cases choose entry with
    | none => simp
    | some image => simp

theorem sum_stackChanges (paid : Fin maxSeats → Nat) (measure : StackChange → Int) :
    ((table.paidOut paid).stackChanges.map measure).sum = ∑ i, (table.seats i).elim 0 fun s =>
      measure (table.paidChange paid i s) := by
  rw [stackChanges_paidOut, sum_filterMap, Fin.sum_univ_def]
  congr 1
  apply List.map_congr_left
  intro i _
  cases table.seats i with
  | none => rfl
  | some seat => rfl

theorem nodup_stackChanges (kept : table.Kept opening) (paid : Fin maxSeats → Nat) :
    ((table.paidOut paid).stackChanges.map (·.userId)).Nodup := by
  rw [stackChanges_paidOut, List.map_filterMap]
  apply List.Nodup.filterMap _ (List.nodup_finRange maxSeats)
  intro i j player atI atJ
  simp only [Option.map_map, Option.mem_def, Option.map_eq_some_iff, Function.comp_apply] at atI atJ
  rcases atI with ⟨seat, here, rfl⟩
  rcases atJ with ⟨other, there, same⟩
  exact kept.distinct i j seat here other there same.symm

theorem settle_cases {paid : Fin maxSeats → Nat} {rake : Nat}
    (run : table.settle paid rake = .ok after) :
    ∃ handId raked ledger, table.handId = some handId ∧
        postRake table.ledger rake handId .demo = .ok raked ∧
        rebalanceEscrowToStacks raked (.hand handId)
            (table.paidOut paid).stackChanges .demo = .ok ledger ∧ after =
          { (table.paidOut paid).resetToWaiting with
            stackBaseline := (table.paidOut paid).syncedBaseline
            ledger := ledger } := by
  rw [settle] at run
  split at run
  case h_1 => cases run
  case h_2 handId running =>
    rw [bind_eq_ok_iff] at run
    rcases run with ⟨raked, posted, run⟩
    rw [bind_eq_ok_iff] at run
    rcases run with ⟨synced, changes, run⟩
    rw [syncStacks, mapError_map_eq_ok_iff] at changes
    rcases changes with ⟨ledger, changes, rfl⟩
    cases run
    exact ⟨handId, raked, ledger, running, mapError_eq_ok_iff.mp posted, changes, rfl⟩

/-- The cents of a change, as they are booked. -/
def bookedCents (c : StackChange) : Int :=
  ((mathRound (c.nextStack - c.prevStack)).map (100 * ·)).getD 0

theorem PaysWholeDollars.rounded {paid : Fin maxSeats → Nat} {rake : Nat}
    {i : Fin maxSeats} {seat : Seat} (pays : table.PaysWholeDollars paid rake)
    (here : table.seats i = some seat) : (mathRound ((table.paidChange paid i seat).nextStack -
          (table.paidChange paid i seat).prevStack)).map (100 * ·) =
    some ((paid i : Int) - (seat.stack + seat.totalBet : Nat)) := (pays.whole i seat here).roundsTo

theorem PaysWholeDollars.bookedCents_eq
    {paid : Fin maxSeats → Nat} {rake : Nat} {i : Fin maxSeats} {seat : Seat}
    (pays : table.PaysWholeDollars paid rake) (here : table.seats i = some seat) :
    bookedCents (table.paidChange paid i seat) = paid i - (seat.stack + seat.totalBet : Nat) := by
  rw [bookedCents, pays.rounded here, Option.getD_some]

/-- The table after a hand has been paid out. -/
def settled (table : TableRuntime maxSeats) (paid : Fin maxSeats → Nat) :
    TableRuntime maxSeats :=
  (table.paidOut paid).resetToWaiting

theorem total_settled (paid : Fin maxSeats → Nat) (measure : Seat → Nat) :
    (table.settled paid).total measure =
      ∑ i, (table.seats i).elim 0 fun s => measure ⟨s.playerId, paid i, 0⟩ := by
  rw [settled, total]
  apply Finset.sum_congr rfl
  intro i _
  rw [seats_resetToWaiting, seats_paidOut]
  cases table.seats i with
  | none => rfl
  | some seat => rfl

/-- What is booked for some of the players is what their chips change. -/
theorem PaysWholeDollars.sum_bookedCents {paid : Fin maxSeats → Nat} {rake : Nat}
    (pays : table.PaysWholeDollars paid rake) (chosen : UserId → Bool) :
    ((table.paidOut paid).stackChanges.map fun c =>
      if chosen c.userId then bookedCents c else 0).sum =
      (table.settled paid).total (fun s => if chosen s.playerId then s.stack + s.totalBet else 0) -
        table.total fun s => if chosen s.playerId then s.stack + s.totalBet else 0 := by
  rw [sum_stackChanges, total_settled, total, Nat.cast_sum, Nat.cast_sum, ← Finset.sum_sub_distrib]
  apply Finset.sum_congr rfl
  intro i _
  cases here : table.seats i with
  | none => rfl
  | some seat =>
    have booked := pays.bookedCents_eq here
    show (if chosen seat.playerId then
          bookedCents (table.paidChange paid i seat)
        else 0) =
        ((if chosen seat.playerId then paid i + 0 else 0 : Nat) : Int) -
          (if chosen seat.playerId then seat.stack + seat.totalBet
            else 0 : Nat)
    rw [booked]
    split
    · omega
    · rfl

/-- What a hand in whole dollars books. -/
theorem PaysWholeDollars.balances {paid : Fin maxSeats → Nat} {rake : Nat} {handId : Uuid}
    {raked ledger : Ledger} (pays : table.PaysWholeDollars paid rake) (kept : table.Kept opening)
    (fresh : table.Fresh) (running : table.handId = some handId)
    (posted : postRake table.ledger rake handId .demo = .ok raked)
    (changes : rebalanceEscrowToStacks raked (.hand handId)
        (table.paidOut paid).stackChanges .demo = .ok ledger) :
    (∀ account, balance ledger account = balance table.ledger account +
                (if platformRake .demo = account then (rake : Int) else 0) -
              (if systemClearing .demo = account then (rake : Int) else 0) +
            ((table.paidOut paid).stackChanges.map fun c =>
              (if userTableEscrow c.userId .demo = account then bookedCents c
                else 0) -
                (if systemClearing .demo = account then bookedCents c
                  else 0)).sum) ∧
      ∀ key, Posted ledger key → Posted table.ledger key ∨ key = .rake .demo handId ∨
          ∃ userId, IsRoundKey .demo (.hand handId) userId key := by
  rcases fresh.hand handId running with ⟨below, freeRake, freeRound⟩
  have moved := moved_of_postRake posted freeRake
  have rounded : ∀ c ∈ (table.paidOut paid).stackChanges,
      (mathRound (c.nextStack - c.prevStack)).map (100 * ·) = some (bookedCents c) := by
    intro c member
    rw [stackChanges_paidOut, List.mem_filterMap] at member
    rcases member with ⟨i, -, member⟩
    rcases Option.map_eq_some_iff.mp member with ⟨seat, here, rfl⟩
    rw [pays.bookedCents_eq here, pays.rounded here]
  have free : ∀ c ∈ (table.paidOut paid).stackChanges, ∀ key,
      IsRoundKey .demo (.hand handId) c.userId key → ¬ Posted raked key := by
    intro c member key named used
    rcases moved.posted key used with old | rfl
    · exact freeRound _ key named old
    · rcases named with rake | rake
      · cases rake
      · cases rake
  rcases balance_of_rebalance bookedCents changes (nodup_stackChanges kept paid)
      rounded free with ⟨balances, keys⟩
  constructor
  · intro account
    rw [balances account, moved.balance account]
  · intro key used
    rcases keys key used with old | ⟨c, -, named⟩
    · rcases moved.posted key old with older | same
      · exact Or.inl older
      · exact Or.inr (Or.inl same)
    · exact Or.inr (Or.inr ⟨c.userId, named⟩)

/-- The sum of stacks and bets is the sum of both. -/
theorem total_add (first second : Seat → Nat) : (table.total fun s => first s + second s) =
    table.total first + table.total second := by
  rw [total, total, total, ← Finset.sum_add_distrib]
  apply Finset.sum_congr rfl
  intro i _
  cases table.seats i with
  | none => rfl
  | some seat => rfl

theorem total_settled_stack (paid : Fin maxSeats → Nat) : (table.settled paid).total (·.stack) =
    (table.paidOut paid).total (·.stack) := total_resetToWaiting (·.stack)

theorem total_settled_totalBet (paid : Fin maxSeats → Nat) :
    (table.settled paid).total (·.totalBet) = 0 := by
  rw [total_settled]
  apply Finset.sum_eq_zero
  intro i _
  cases table.seats i with
  | none => rfl
  | some seat => rfl

theorem kept_of_settle {paid : Fin maxSeats → Nat} {rake : Nat}
    (kept : table.Kept opening) (fresh : table.Fresh) (pays : table.PaysWholeDollars paid rake)
    (run : table.settle paid rake = .ok after) : after.Kept opening ∧ after.Fresh := by
  rcases settle_cases run with ⟨handId, raked, ledger, running, posted, changes, rfl⟩
  rcases pays.balances kept fresh running posted changes with ⟨balances, keys⟩
  constructor
  · constructor
    · intro i j seat atI other atJ same
      simp only [seats_resetToWaiting, seats_paidOut, Option.mem_def,
        Option.map_eq_some_iff] at atI atJ
      rcases atI with ⟨_, ⟨first, here, rfl⟩, rfl⟩
      rcases atJ with ⟨_, ⟨second, there, rfl⟩, rfl⟩
      exact kept.distinct i j first here second there same
    · intro w
      have before := kept.escrow w
      have moves := balances (userTableEscrow w .demo)
      have chips := pays.sum_bookedCents fun userId => decide (userId = w)
      simp only [decide_eq_true_eq] at chips
      simp only [platformRake_ne_userTableEscrow,
        systemClearing_ne_userTableEscrow, userTableEscrow_inj, if_false,
        Int.sub_zero, Int.add_zero, chips] at moves
      rw [escrowHere] at before
      show balance ledger (userTableEscrow w .demo) - balance opening (userTableEscrow w .demo) =
          ((table.settled paid).total (chipsOf w) : Int)
      have same : chipsOf w = fun s => if s.playerId = w then s.stack + s.totalBet else 0 := rfl
      rw [same] at before ⊢
      omega
    · have before := kept.clearing
      have moves := balances (systemClearing .demo)
      have chips := pays.sum_bookedCents fun _ => true
      simp only [if_true] at chips
      simp only [platformRake_ne_systemClearing,
        userTableEscrow_ne_systemClearing, if_false, if_true, Int.zero_sub, Int.add_zero] at moves
      have sums : ((table.paidOut paid).stackChanges.map fun c =>
            -bookedCents c).sum =
          -((table.paidOut paid).stackChanges.map bookedCents).sum := by
        rw [List.sum_neg, List.map_map]
        rfl
      rw [sums, chips] at moves
      have chipsAfter := @total_add _ (table.settled paid) (·.stack) (·.totalBet)
      have chipsBefore := @total_add _ table (·.stack) (·.totalBet)
      rw [total_settled_totalBet] at chipsAfter
      have conserved := pays.conserved
      rw [← total_settled_stack] at conserved
      show balance ledger (systemClearing .demo) + ((table.settled paid).total (·.totalBet) : Int) =
          balance opening (systemClearing .demo) + (0 : Nat)
      rw [total_settled_totalBet]
      omega
    · show (table.settled paid).total (·.totalBet) ≤ 0
      rw [total_settled_totalBet]
    · exact fun _ => rfl
  · refine @Fresh.step _ _ _ (fun key =>
          key = .rake .demo handId ∨ ∃ userId, IsRoundKey .demo (.hand handId) userId key)
        fresh keys (Nat.le_refl _) ?_ ?_ ?_ fresh.apart ?_
    · rintro key (rfl | ⟨userId, rfl | rfl⟩)
      · exact (fresh.hand handId running).1
      · exact (fresh.hand handId running).1
      · exact (fresh.hand handId running).1
    · intro i seat atI
      simp only [seats_resetToWaiting, seats_paidOut, Option.mem_def, Option.map_eq_some_iff] at atI
      rcases atI with ⟨_, ⟨first, here, rfl⟩, rfl⟩
      exact fresh.session i first here
    · intro w sessionId held
      refine ⟨Or.inl held, ?_⟩
      rintro (rake | ⟨userId, loss | win⟩)
      · cases rake
      · cases loss
      · cases win
    · intro other active
      exact absurd active (Option.not_mem_none other)

/-! ## Leaves -/

/-- A seated player has in escrow what the seat holds. -/
theorem Kept.escrow_seat {i : Fin maxSeats} {seat : Seat}
    (kept : table.Kept opening) (here : table.seats i = some seat) :
    table.escrowHere opening seat.playerId = seat.stack + seat.totalBet := by
  rw [kept.escrow, total, Finset.sum_eq_single i]
  · rw [here, Option.elim_some, chipsOf, if_pos rfl, Nat.cast_add]
  · intro j _ apart
    cases there : table.seats j with
    | none => rfl
    | some other =>
      rw [Option.elim_some, chipsOf, if_neg]
      exact (kept.elsewhere here apart there).symm
  · exact fun outside => absurd (Finset.mem_univ i) outside

/-- Who is not seated has nothing in escrow. -/
theorem Kept.escrow_absent (kept : table.Kept opening)
    (absent : ∀ i, ∀ seat ∈ table.seats i, seat.playerId ≠ userId) :
    table.escrowHere opening userId = 0 := by
  rw [kept.escrow, total, Finset.sum_eq_zero]
  · rfl
  · intro i _
    cases here : table.seats i with
    | none => rfl
    | some seat => rw [Option.elim_some, chipsOf, if_neg (absent i seat here)]

theorem leaveUnlocked_cases {now : Nat} (run : table.leaveUnlocked limits userId now = .ok after) :
    table.seatOf userId = none ∧ after = table ∨ ∃ i seat rebalanced ledger,
        table.seatOf userId = some i ∧ table.seats i = some seat ∧ seat.playerId = userId ∧
          table.rebalancedOnLeave limits userId seat.stack now = .ok rebalanced ∧
          (∀ sessionId, table.sessions userId = some sessionId →
            releaseSession rebalanced userId seat.stack sessionId .demo = .ok ledger) ∧ after =
            { table.setSeat i none with
              sessions := Function.update table.sessions userId none
              stackBaseline := Function.update table.stackBaseline userId none
              ledger := ledger } := by
  rw [leaveUnlocked] at run
  split at run
  case h_1 absent => exact Or.inl ⟨absent, (Except.ok.inj run).symm⟩
  case h_2 i seated =>
    rcases exists_seat_of_seatOf seated with ⟨seat, here, own⟩
    rw [here, bind_eq_ok_iff] at run
    rcases run with ⟨rebalanced, moves, run⟩
    rw [bind_eq_ok_iff] at run
    rcases run with ⟨ledger, releases, run⟩
    refine Or.inr ⟨i, seat, rebalanced, ledger, seated, here, own, moves, ?_,
          (Except.ok.inj run).symm⟩
    intro sessionId active
    rw [releasedOnLeave, active, Option.elim_some] at releases
    exact mapError_eq_ok_iff.mp releases

/-- Before the cash-out, what was bet has left the escrow. -/
theorem moved_of_rebalancedOnLeave {now : Nat} {seat : Seat} {rebalanced : Ledger}
    (whole : table.LeavesWholeDollars limits userId now seat)
    (run : table.rebalancedOnLeave limits userId seat.stack now = .ok rebalanced) :
    Moved table.ledger rebalanced (systemClearing .demo)
      (userTableEscrow userId .demo) (-(seat.totalBet : Int))
      (IsRoundKey .demo (.leave limits.tableId userId now) userId) := by
  rw [rebalancedOnLeave] at run
  rw [LeavesWholeDollars] at whole
  split at whole
  case isTrue differs =>
    rcases whole with ⟨rounds, loss, win⟩
    rw [baselineOf] at differs rounds
    simp only [differs, if_true] at run
    have change := mapError_eq_ok_iff.mp run
    rw [rebalanceEscrowToStacks, List.foldlM_cons, bind_eq_ok_iff] at change
    rcases change with ⟨changed, change, same⟩
    cases same
    rcases Option.map_eq_some_iff.mp rounds.roundsTo with ⟨delta, rounded, cents⟩
    have moved := moved_of_rebalanceChange change rounded loss win
    rw [cents] at moved
    have bet : (seat.stack : Int) - (seat.stack + seat.totalBet : Nat) =
        -(seat.totalBet : Int) := by
      omega
    rw [bet] at moved
    exact moved
  case isFalse equal =>
    rw [baselineOf] at equal
    simp only [equal] at run
    cases run
    rw [whole]
    exact .nothing

theorem kept_of_leave {now : Nat} (kept : table.Kept opening) (fresh : table.Fresh)
    (whole : ∀ i ∈ table.seatOf userId, ∀ seat ∈ table.seats i,
        table.LeavesWholeDollars limits userId now seat)
    (run : table.leaveUnlocked limits userId now = .ok after) :
    after.Kept opening ∧ after.Fresh ∧ ∀ i ∈ table.seatOf userId, ∀ seat ∈ table.seats i,
        table.CashesOut limits opening after userId now seat := by
  rcases leaveUnlocked_cases run with ⟨absent, rfl⟩ |
      ⟨i, seat, rebalanced, ledger, seated, here, own, moves, releases, rfl⟩
  · refine ⟨kept, fresh, ?_⟩
    intro i seated
    cases absent.symm.trans seated
  · have moved := moved_of_rebalancedOnLeave (whole i seated seat here) moves
    have seatHeld := fresh.session i seat here
    rw [own] at seatHeld
    rcases Option.isSome_iff_exists.mp seatHeld with ⟨sessionId, active⟩
    rcases fresh.held userId sessionId active with ⟨below, free⟩
    have freeLater : ¬ Posted rebalanced (.cashout .demo sessionId) := by
      intro used
      rcases moved.posted _ used with old | loss | win
      · exact free old
      · cases loss
      · cases win
    have released := moved_of_releaseSession (releases sessionId active) freeLater
    have middle :
        Kept
          { table.setSeat i (some { seat with totalBet := 0 }) with
            ledger := rebalanced } opening := by
      refine kept.setSeat ?_ moved ?_ ?_ ?_ ?_ ?_ rfl rfl rfl
      · intro s new j apart s' atJ
        cases new
        show seat.playerId ≠ s'.playerId
        exact kept.elsewhere here apart atJ
      · intro w
        simp
      · intro w
        rw [here]
        simp only [Option.elim_some, chipsOf, own]
        split <;> omega
      · rw [here]
        simp
      · rw [here]
        simp
      · exact kept.idle
    have middleSeat :
        ({ table.setSeat i (some { seat with totalBet := 0 }) with
            ledger := rebalanced } : TableRuntime maxSeats).seats i =
          some { seat with totalBet := 0 } :=
      Function.update_self i _ table.seats
    have last :
        Kept
          { table.setSeat i none with
            sessions := Function.update table.sessions userId none
            stackBaseline := Function.update table.stackBaseline userId none
            ledger := ledger } opening := by
      refine @Kept.setSeat _ _ _ _ _ i none _ _ _ _ _ middle
          (fun s new => absurd new (Option.not_mem_none s)) released.symm ?_ ?_ ?_ ?_ ?_ ?_ rfl rfl
      · intro w
        simp
      · intro w
        rw [middleSeat]
        simp only [Option.elim_none, Option.elim_some, chipsOf, own]
        split <;> omega
      · rw [middleSeat]
        simp
      · rw [middleSeat]
        simp
      · exact kept.idle
      · exact (Function.update_idem _ _ _).symm
    refine ⟨last, ?_, ?_⟩
    · refine @Fresh.step _ _ _ (fun key =>
            IsRoundKey .demo (.leave limits.tableId userId now) userId key ∨
              key = .cashout .demo sessionId)
          fresh ?_ (Nat.le_refl _) ?_ ?_ ?_ ?_ ?_
      · intro key used
        rcases released.posted key used with old | same
        · rcases moved.posted key old with older | named
          · exact Or.inl older
          · exact Or.inr (Or.inl named)
        · exact Or.inr (Or.inr same)
      · rintro key ((rfl | rfl) | rfl)
        · trivial
        · trivial
        · exact below
      · intro k other there
        simp only [seats_setSeat] at there ⊢
        by_cases same : k = i
        · rw [same, Function.update_self] at there
          cases there
        · rw [Function.update_of_ne same] at there
          have apart : other.playerId ≠ userId := by
            rw [← own]
            exact (kept.elsewhere here same there).symm
          rw [Function.update_of_ne apart]
          exact fresh.session k other there
      · intro w other held
        by_cases same : w = userId
        · rw [same] at held
          simp only [Function.update_self] at held
          cases held
        · simp only [Function.update_of_ne same] at held
          refine ⟨Or.inl held, ?_⟩
          rintro ((loss | win) | cashout)
          · cases loss
          · cases win
          · rw [(LedgerKey.cashout.inj cashout).2] at held
            exact same (fresh.apart w userId sessionId held active)
      · intro w other session first second
        by_cases own' : w = userId
        · rw [own'] at first
          simp only [Function.update_self] at first
          cases first
        · by_cases own'' : other = userId
          · rw [own''] at second
            simp only [Function.update_self] at second
            cases second
          · simp only [Function.update_of_ne own', Function.update_of_ne own''] at first second
            exact fresh.apart w other session first second
      · intro handId running
        refine ⟨Or.inl running, ?_, ?_⟩
        · rintro ((loss | win) | cashout)
          · cases loss
          · cases win
          · cases cashout
        · rintro w key (rfl | rfl) ((loss | win) | cashout)
          · cases loss
          · cases win
          · cases cashout
          · cases loss
          · cases win
          · cases cashout
    · intro j seated' seat' atJ
      cases seated.symm.trans seated'
      cases here.symm.trans atJ
      constructor
      · refine ⟨rebalanced, moves, ?_⟩
        have held := middle.escrow_seat middleSeat
        rw [own] at held
        simpa [escrowHere] using held
      · apply last.escrow_absent
        intro k other there
        rw [seats_setSeat] at there
        by_cases same : k = i
        · rw [same, Function.update_self] at there
          cases there
        · rw [Function.update_of_ne same] at there
          rw [← own]
          exact (kept.elsewhere here same there).symm
      · have first := moved.balance (userAvailable userId .demo)
        have second := released.balance (userAvailable userId .demo)
        simp at first second
        show balance ledger (userAvailable userId .demo) = _
        omega

/-! ## Runs -/

theorem kept_of_step {action : TableAction maxSeats}
    (kept : table.Kept opening) (fresh : table.Fresh) (whole : table.InWholeDollars limits action)
    (run : table.step limits action = .ok after) : after.Kept opening ∧ after.Fresh := by
  cases action with
  | join userId buyIn seatIndex => exact kept_of_join kept fresh run
  | topUp userId amount now => exact kept_of_topUp kept fresh whole run
  | beginHand => exact kept_of_beginHand kept fresh run
  | bet i chips => exact kept_of_bet kept fresh run
  | settle paid rake => exact kept_of_settle kept fresh whole run
  | reset =>
    cases run
    exact kept_of_reset kept fresh whole
  | leave userId now =>
    rcases kept_of_leave kept fresh whole run with ⟨kept, fresh, -⟩
    exact ⟨kept, fresh⟩

theorem kept_of_vacant (vacant : Vacant opening table) : table.Kept opening ∧ table.Fresh := by
  have nobody (i : Fin maxSeats) : table.seats i = none := by
    rw [vacant.seats]
  have nothing (measure : Seat → Nat) : table.total measure = 0 := by
    rw [total]
    apply Finset.sum_eq_zero
    intro i _
    rw [nobody i]
    rfl
  constructor
  · constructor
    · intro i j seat atI
      cases (nobody i).symm.trans atI
    · intro w
      rw [escrowHere, vacant.ledger, nothing, Int.sub_self]
      rfl
    · rw [vacant.ledger, nothing, vacant.pot]
    · rw [nothing]
      exact Nat.zero_le _
    · exact fun _ => vacant.pot
  · constructor
    · intro i seat atI
      cases (nobody i).symm.trans atI
    · intro w sessionId held
      rw [vacant.sessions] at held
      cases held
    · intro w other sessionId held
      rw [vacant.sessions] at held
      cases held
    · intro key used
      rw [vacant.ledger] at used
      exact vacant.older key used
    · intro handId running
      rw [vacant.handId] at running
      cases running

theorem kept_of_reachable
    (reached : (tableRuns limits opening).Reachable (InWholeDollars limits) table) :
    table.Kept opening ∧ table.Fresh :=
  reached.invariant (fun _ vacant => kept_of_vacant vacant)
    fun _ _ _ both whole run => kept_of_step both.1 both.2 whole run

end Steps

end TableRuntime

/--
In the runs in whole dollars the escrow of every player is the stack between
hands, hands leave clearing as it was, and leaves cash out exactly the stack.
-/
theorem escrow_tracks_chips
    {limits : TableLimits} {opening : Ledger} {table : TableRuntime maxSeats}
    (reached :
      (tableRuns limits opening).Reachable
        (TableRuntime.InWholeDollars limits) table) :
    (table.handId = none → table.TracksChips opening) ∧
      ∀ userId now after,
        table.InWholeDollars limits (.leave userId now) →
          table.leaveUnlocked limits userId now = .ok after →
          ∀ i ∈ table.seatOf userId, ∀ seat ∈ table.seats i,
            table.CashesOut limits opening after userId now seat := by
  rcases TableRuntime.kept_of_reachable reached with ⟨kept, fresh⟩
  constructor
  · intro waiting
    have empty := kept.idle waiting
    constructor
    · intro i seat here
      rw [kept.escrow_seat here, kept.totalBet_eq_zero empty here]
      exact Int.add_zero _
    · have clearing := kept.clearing
      have bets := kept.bets
      rw [empty] at clearing bets
      omega
  · intro userId now after whole run
    exact (TableRuntime.kept_of_leave kept fresh whole run).2.2

/-! ## Dollars and cents -/

namespace TableRuntime

variable (limits : TableLimits) (table : TableRuntime maxSeats)

/-- Hands pay out what was bet, and players leave between hands. -/
def Conserves : TableAction maxSeats → Prop
  | .topUp userId _ now =>
      ∀ sessionId ∈ table.sessions userId,
        ¬ Posted table.ledger (.buyin .demo (.topUp sessionId now))
  | .settle paid rake =>
      (table.paidOut paid).total (·.stack) + rake = table.total (·.stack) + table.pot
  | .reset => table.pot = 0
  | .leave _ _ => table.handId = none
  | _ => True

instance (action : TableAction maxSeats) : Decidable (table.Conserves action) :=
  match action with
  | .join _ _ _ => inferInstanceAs (Decidable True)
  | .topUp userId _ now =>
      inferInstanceAs (Decidable (∀ sessionId ∈ table.sessions userId, _))
  | .beginHand => inferInstanceAs (Decidable True)
  | .bet _ _ => inferInstanceAs (Decidable True)
  | .settle _ _ => inferInstanceAs (Decidable (_ = _))
  | .reset => inferInstanceAs (Decidable (_ = _))
  | .leave _ _ => inferInstanceAs (Decidable (_ = _))

instance (paid : Fin maxSeats → Nat) (rake : Nat) : Decidable (table.PaysWholeDollars paid rake) :=
  decidable_of_iff (_ ∧ _)
    ⟨fun parts => ⟨parts.1, parts.2⟩, fun pays => ⟨pays.conserved, pays.whole⟩⟩

instance (userId : UserId) (now : Nat) (seat : Seat) :
    Decidable (table.LeavesWholeDollars limits userId now seat) :=
  inferInstanceAs (Decidable (if table.baselineOf userId seat.stack != chipsToUsd seat.stack then
        ChangesWhole (table.baselineOf userId seat.stack) (seat.stack + seat.totalBet) seat.stack ∧
          ¬ Posted table.ledger (.handLoss .demo (.leave limits.tableId userId now) userId) ∧
          ¬ Posted table.ledger (.handWin .demo (.leave limits.tableId userId now) userId)
      else seat.totalBet = 0))

instance (action : TableAction maxSeats) : Decidable (table.InWholeDollars limits action) :=
  match action with
  | .join _ _ _ => inferInstanceAs (Decidable True)
  | .topUp userId _ now =>
      inferInstanceAs (Decidable (∀ sessionId ∈ table.sessions userId, _))
  | .beginHand => inferInstanceAs (Decidable True)
  | .bet _ _ => inferInstanceAs (Decidable True)
  | .settle paid rake =>
      inferInstanceAs (Decidable (table.PaysWholeDollars paid rake))
  | .reset => inferInstanceAs (Decidable (_ = _))
  | .leave userId now =>
      inferInstanceAs (Decidable (∀ i ∈ table.seatOf userId, ∀ seat ∈ table.seats i,
            table.LeavesWholeDollars limits userId now seat))

end TableRuntime

namespace Example

def limits : TableLimits where
  tableId := 0
  minBuyIn := 100
  maxBuyIn := 10000
  bigBlind := 100

/-- Users `1` and `2` have a hundred dollars each. -/
def opening : Ledger :=
  [⟨.onchainDeposit 1, systemClearing .demo, userAvailable 1 .demo, 10000⟩,
    ⟨.onchainDeposit 2, systemClearing .demo, userAvailable 2 .demo, 10000⟩]

def vacantTable : TableRuntime 2 where
  seats := fun _ => none
  pot := 0
  handId := none
  sessions := fun _ => none
  stackBaseline := fun _ => none
  ledger := opening
  nextId := 1

theorem vacant_vacantTable : Vacant opening vacantTable where
  seats := rfl
  pot := rfl
  handId := rfl
  sessions := rfl
  stackBaseline := rfl
  ledger := rfl
  older := by
    rintro key ⟨posting, member, rfl⟩
    simp only [opening, List.mem_cons, List.not_mem_nil, or_false] at member
    rcases member with rfl | rfl
    · trivial
    · trivial

/-- Both players bet as much, and the first wins it. -/
def wonHand (chips rake : Nat) : List (TableAction 2) :=
  [.join 1 300 none, .join 2 300 none, .beginHand,
    .bet ⟨0, Nat.zero_lt_two⟩ chips, .bet ⟨1, Nat.one_lt_two⟩ chips,
    .settle ![300 + chips - rake, 300 - chips] rake]

/-- Thirty cents that are won never reach the escrow. -/
theorem cents_are_not_booked :
    ¬ ∀ (limits : TableLimits) (opening : Ledger) (table : TableRuntime 2),
        (tableRuns limits opening).Reachable TableRuntime.Conserves table →
        table.handId = none → table.TracksChips opening := by
  intro tracked
  have start :
      (tableRuns limits opening).Reachable TableRuntime.Conserves
        vacantTable :=
    .start vacant_vacantTable
  have played :
      ((tableRuns limits opening).replay TableRuntime.Conserves vacantTable
          (wonHand 30 0)).any
        (fun table =>
          table.handId.isNone &&
            decide (table.seats 0 = some ⟨1, 330, 0⟩) &&
            decide (table.escrowHere opening 1 = 300)) = true := by
    decide +kernel
  rcases start.exists_replay played with ⟨table, reached, observed⟩
  simp only [Bool.and_eq_true, Option.isNone_iff_eq_none,
    decide_eq_true_eq] at observed
  rcases observed with ⟨⟨waiting, here⟩, escrow⟩
  have tracks := (tracked limits opening table reached waiting).escrow 0 _ here
  rw [escrow] at tracks
  cases tracks

/-- Two dollars and a raked dollar are booked, and cashed out. -/
theorem escrow_tracks_chips_won :
    ∃ table after : TableRuntime 2,
      table.handId = none ∧ table.seats 0 = some ⟨1, 400, 0⟩ ∧
        table.TracksChips opening ∧
        table.leaveUnlocked limits 1 9 = .ok after ∧
        table.CashesOut limits opening after 1 9 ⟨1, 400, 0⟩ := by
  have start :
      (tableRuns limits opening).Reachable
        (TableRuntime.InWholeDollars limits) vacantTable :=
    .start vacant_vacantTable
  have played :
      ((tableRuns limits opening).replay (TableRuntime.InWholeDollars limits)
          vacantTable (wonHand 200 100)).any
        (fun table =>
          table.handId.isNone &&
            decide (table.seats 0 = some ⟨1, 400, 0⟩) &&
            decide (table.seatOf 1 = some 0) &&
            decide (table.InWholeDollars limits (.leave 1 9)) &&
            (table.leaveUnlocked limits 1 9).toOption.isSome) = true := by
    decide +kernel
  rcases start.exists_replay played with ⟨table, reached, observed⟩
  simp only [Bool.and_eq_true, Option.isNone_iff_eq_none,
    decide_eq_true_eq] at observed
  rcases observed with ⟨⟨⟨⟨waiting, here⟩, seated⟩, whole⟩, leaves⟩
  rcases escrow_tracks_chips reached with ⟨tracks, cashes⟩
  cases run : table.leaveUnlocked limits 1 9 with
  | error reason =>
      rw [run] at leaves
      cases leaves
  | ok after =>
      exact
        ⟨table, after, waiting, here, tracks waiting, run,
          cashes 1 9 after whole run 0 seated _ here⟩

end Example

end Mozetto.GameServer
