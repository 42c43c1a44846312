import Mathlib.Algebra.BigOperators.Fin
import Mozetto.Database.Ledger
import Mozetto.Library.TransitionSystem
import Mozetto.Library.NormalDoubles

/-!
# The escrow of a table

`TableRuntime` of the game server in ledger mode: players join and top up with
`lockBuyIn`, hands are settled with `postRake` and `syncStacks`, players leave
with `releaseSession`.  Chips are cents.  What a hand pays out is an input;
the engine is modelled elsewhere.  Event log, clients and queued changes move
no money and are left out.
-/

namespace Mozetto.GameServer

open Mozetto.Database
open Mozetto.Library.DoubleEntry
open Mozetto.Library.TransitionSystem

/-- `Number(chips) / 100`; stacks are far below `2 ^ 53`. -/
def chipsToUsd (chips : Nat) : Float := chips.toUInt64.toFloat / 100

/-- A seat with a player; `totalBet` has left the stack in this hand. -/
structure Seat where
  playerId : UserId
  stack : Nat
  totalBet : Nat
deriving DecidableEq

structure TableLimits where
  tableId : Uuid
  minBuyIn : Nat
  maxBuyIn : Nat
  bigBlind : Nat

/-- The table with the ledger it writes to; `nextId` is what `randomUUID`
returns next. -/
structure TableRuntime (maxSeats : Nat) where
  seats : Fin maxSeats → Option Seat
  pot : Nat
  handId : Option Uuid
  sessions : UserId → Option Uuid
  stackBaseline : UserId → Option Float
  ledger : Ledger
  nextId : Uuid

inductive TableError where
  | buyInOutOfRange
  | invalidTopUp
  | notSeated
  | aboveTableCap
  | noOpenSeat
  | noActiveSession
  | noHand
  | handActive
  | cannotBet
  | ledger (reason : LedgerError)
deriving DecidableEq, Repr

variable {maxSeats : Nat}

namespace TableRuntime

variable (limits : TableLimits) (table : TableRuntime maxSeats)

def handActive : Bool := table.handId.isSome

/-- The seat of a player. -/
def seatOf (userId : UserId) : Option (Fin maxSeats) :=
  (List.finRange maxSeats).find? fun i =>
    (table.seats i).any fun s => s.playerId = userId

def setSeat (i : Fin maxSeats) (seat : Option Seat) : TableRuntime maxSeats :=
  { table with seats := Function.update table.seats i seat }

/-- Who is seated already is not seated again, and a join during a hand is
queued: both write nothing. -/
def joinUnlocked (userId : UserId) (buyIn : Nat) (seatIndex : Option (Fin maxSeats)) :
    Except TableError (TableRuntime maxSeats) :=
  if buyIn < limits.minBuyIn ∨ limits.maxBuyIn < buyIn then
    .error .buyInOutOfRange
  else if (table.seatOf userId).isSome then .ok table
  else if table.handActive then .ok table
  else
    match (List.finRange maxSeats).find? fun i =>
      (seatIndex = none ∨ some i = seatIndex) ∧ table.seats i = none with
    | none => .error .noOpenSeat
    | some empty =>
      ((lockBuyIn table.ledger userId buyIn (.session table.nextId)
        .demo).mapError .ledger).map fun ledger =>
          { table.setSeat empty (some ⟨userId, buyIn, 0⟩) with
            sessions := Function.update table.sessions userId (some table.nextId)
            stackBaseline :=
              Function.update table.stackBaseline userId (some (chipsToUsd buyIn))
            ledger := ledger
            nextId := table.nextId + 1 }

/-- A top-up during a hand is queued; it writes nothing. -/
def topUp (userId : UserId) (amount now : Nat) : Except TableError (TableRuntime maxSeats) :=
  if amount = 0 then .error .invalidTopUp
  else
    match table.seatOf userId with
    | none => .error .notSeated
    | some i =>
      let seat := (table.seats i).getD ⟨userId, 0, 0⟩
      let maxStackUsd := chipsToUsd limits.bigBlind * 100
      if maxStackUsd + 1e-9 < chipsToUsd seat.stack + chipsToUsd amount then
        .error .aboveTableCap
      else if table.handActive then .ok table
      else
        match table.sessions userId with
        | none => .error .noActiveSession
        | some sessionId =>
          ((lockBuyIn table.ledger userId amount (.topUp sessionId now)
            .demo).mapError .ledger).map fun ledger =>
              { table.setSeat i (some { seat with stack := seat.stack + amount }) with
                stackBaseline :=
                  Function.update table.stackBaseline userId (some
                      ((table.stackBaseline userId).getD 0 + chipsToUsd amount))
                ledger := ledger }

def beginHand : Except TableError (TableRuntime maxSeats) :=
  if table.handActive then .error .handActive
  else
    .ok { table with handId := some table.nextId, nextId := table.nextId + 1 }

/-- Chips of a stack go into the pot: a blind, a call or a raise. -/
def bet (i : Fin maxSeats) (chips : Nat) : Except TableError (TableRuntime maxSeats) :=
  match table.handId, table.seats i with
  | some _, some seat =>
    if chips ≤ seat.stack then
      .ok
        { table.setSeat i (some
              { seat with
                stack := seat.stack - chips
                totalBet := seat.totalBet + chips }) with
          pot := table.pot + chips }
    else .error .cannotBet
  | _, _ => .error .cannotBet

/-- The changes `syncStacks` collects, in the order of the seats. -/
def stackChanges : List StackChange :=
  (List.finRange maxSeats).filterMap fun i =>
    (table.seats i).map fun s =>
      let nextUsd := chipsToUsd s.stack
      { userId := s.playerId
        prevStack := (table.stackBaseline s.playerId).getD nextUsd
        nextStack := nextUsd }

/-- The baselines after `syncStacks`. -/
def syncedBaseline (userId : UserId) : Option Float :=
  match (table.seatOf userId).bind table.seats with
  | some s => some (chipsToUsd s.stack)
  | none => table.stackBaseline userId

def syncStacks (handId : Uuid) : Except TableError (TableRuntime maxSeats) :=
  ((rebalanceEscrowToStacks table.ledger (.hand handId) table.stackChanges
    .demo).mapError .ledger).map fun ledger =>
      { table with stackBaseline := table.syncedBaseline, ledger := ledger }

/-- Stacks as the engine has paid them out. -/
def paidOut (paid : Fin maxSeats → Nat) : TableRuntime maxSeats :=
  { table with
    seats := fun i => (table.seats i).map fun s => { s with stack := paid i } }

/-- Between two hands nothing is bet. -/
def resetToWaiting : TableRuntime maxSeats :=
  { table with
    seats := fun i => (table.seats i).map fun s => { s with totalBet := 0 }
    handId := none
    pot := 0 }

/-- A hand is settled: the rake is posted, and stacks are synchronised. -/
def settle (paid : Fin maxSeats → Nat) (rake : Nat) : Except TableError (TableRuntime maxSeats) :=
  match table.handId with
  | none => .error .noHand
  | some handId => do
      let ledger ← (postRake table.ledger rake handId .demo).mapError TableError.ledger
      let synced ← { table.paidOut paid with ledger := ledger }.syncStacks handId
      return synced.resetToWaiting

/-- The ledger of a leave, before the cash-out: what the player has put into
the pot leaves the escrow. -/
def rebalancedOnLeave (userId : UserId) (stack now : Nat) :
    Except TableError Ledger :=
  let nextUsd := chipsToUsd stack
  let baseline := (table.stackBaseline userId).getD nextUsd
  if baseline != nextUsd then
    (rebalanceEscrowToStacks table.ledger (.leave limits.tableId userId now)
      [⟨userId, baseline, nextUsd⟩] .demo).mapError .ledger
  else .ok table.ledger

/-- The ledger of a leave, after the cash-out. -/
def releasedOnLeave (rebalanced : Ledger) (userId : UserId) (stack : Nat) :
    Except TableError Ledger :=
  (table.sessions userId).elim (.ok rebalanced) fun sessionId =>
    (releaseSession rebalanced userId stack sessionId .demo).mapError .ledger

/--
A leave at once.  A fold that ends the hand is settled before, and leaves the
stack of the leaver as it is; that is a `settle`, and then a leave.
-/
def leaveUnlocked (userId : UserId) (now : Nat) : Except TableError (TableRuntime maxSeats) :=
  match table.seatOf userId with
  | none => .ok table
  | some i => do
      let stack := ((table.seats i).map (·.stack)).getD 0
      let rebalanced ← table.rebalancedOnLeave limits userId stack now
      let ledger ← table.releasedOnLeave rebalanced userId stack
      return { table.setSeat i none with
        sessions := Function.update table.sessions userId none
        stackBaseline := Function.update table.stackBaseline userId none
        ledger := ledger }

end TableRuntime

/-! ## Runs -/

inductive TableAction (maxSeats : Nat) where
  | join (userId : UserId) (buyIn : Nat) (seatIndex : Option (Fin maxSeats))
  | topUp (userId : UserId) (amount now : Nat)
  | beginHand
  | bet (i : Fin maxSeats) (chips : Nat)
  | settle (paid : Fin maxSeats → Nat) (rake : Nat)
  | reset
  | leave (userId : UserId) (now : Nat)

def TableRuntime.step (limits : TableLimits) (table : TableRuntime maxSeats) :
    TableAction maxSeats → Except TableError (TableRuntime maxSeats)
  | .join userId buyIn seatIndex =>
    table.joinUnlocked limits userId buyIn seatIndex
  | .topUp userId amount now => table.topUp limits userId amount now
  | .beginHand => table.beginHand
  | .bet i chips => table.bet i chips
  | .settle paid rake => table.settle paid rake
  | .reset => .ok table.resetToWaiting
  | .leave userId now => table.leaveUnlocked limits userId now

/-- Sessions and hands that a key names have an older identifier. -/
def OlderThan (next : Uuid) : LedgerKey → Prop
  | .buyin _ (.session id) => id < next
  | .buyin _ (.topUp id _) => id < next
  | .cashout _ id => id < next
  | .rake _ id => id < next
  | .handLoss _ (.hand id) _ => id < next
  | .handWin _ (.hand id) _ => id < next
  | _ => True

/-- A table nobody has joined, over a ledger with older identifiers. -/
structure Vacant (opening : Ledger) (table : TableRuntime maxSeats) : Prop where
  seats : table.seats = fun _ => none
  pot : table.pot = 0
  handId : table.handId = none
  sessions : table.sessions = fun _ => none
  stackBaseline : table.stackBaseline = fun _ => none
  ledger : table.ledger = opening
  older : ∀ key, Posted opening key → OlderThan table.nextId key

/-- The runs of a table over a ledger. -/
def tableRuns (limits : TableLimits) (opening : Ledger) :
    System (TableRuntime maxSeats) (TableAction maxSeats) TableError where
  initial := Vacant opening
  step := TableRuntime.step limits

end Mozetto.GameServer

/-!
## Whole dollars

For a baseline that is the number of a stack, the rounded difference of two
stacks is their change exactly when the change is a whole number of dollars.
The three roundings stay far below the half that the rounding allows.
-/

namespace Mozetto.GameServer

open Float.Model Float.Model.UnpackedFloat
open Mozetto.Database
open Mozetto.Library.NormalDoubles
open Mozetto.Library.SignedDoubles

/-- The difference of a stack from its baseline, rounded to dollars, is the
change in cents. -/
def RoundsTo (baseline : Float) (prev next : Nat) : Prop :=
  (mathRound (chipsToUsd next - baseline)).map (100 * ·) = some ((next : Int) - prev)

instance (baseline : Float) (prev next : Nat) : Decidable (RoundsTo baseline prev next) :=
  inferInstanceAs (Decidable (_ = _))

/-- A positive number near a whole number is rounded to it, and its negation
to the negation. -/
theorem round_of_normal {range : Int} {value : ℚ} {mantissa whole : Nat} {exponent : Int}
    {positive : 0 < mantissa}
    (normal : Normal range value (.finite .positive mantissa exponent positive))
    (near : |value - whole| < 1 / 2) (sign : Sign) :
    (if 0 ≤ exponent then sign.apply (mantissa * 2 ^ exponent.toNat)
      else
        (2 * sign.apply mantissa + 2 ^ (-exponent).toNat) / (2 * 2 ^ (-exponent).toNat)) =
      sign.apply whole := by
  cases normal with
  | finite full short low high same =>
    rw [abs_lt] at near
    split
    case isTrue integral =>
      have power : exponent = (exponent.toNat : Int) := by omega
      rw [same, power, zpow_natCast] at near
      have exactly : mantissa * 2 ^ exponent.toNat = whole := by
        have above : (mantissa * 2 ^ exponent.toNat : Nat) < whole + 1 := by
          have cast : ((mantissa * 2 ^ exponent.toNat : Nat) : ℚ) < whole + 1 := by
            push_cast
            linarith
          exact_mod_cast cast
        have below : whole < mantissa * 2 ^ exponent.toNat + 1 := by
          have cast : (whole : ℚ) < (mantissa * 2 ^ exponent.toNat : Nat) + 1 := by
            push_cast
            linarith
          exact_mod_cast cast
        omega
      rw [← exactly]
      push_cast
      rfl
    case isFalse fraction =>
      have power : exponent = -((-exponent).toNat : Int) := by omega
      have unit : (0 : ℚ) < 2 ^ (-exponent).toNat := by positivity
      rw [same, power, zpow_neg, zpow_natCast, ← div_eq_mul_inv] at near
      have low : (whole : ℚ) - 1 / 2 < mantissa / 2 ^ (-exponent).toNat := by
        linarith
      have high : (mantissa : ℚ) / 2 ^ (-exponent).toNat < whole + 1 / 2 := by
        linarith
      rw [lt_div_iff₀ unit] at low
      rw [div_lt_iff₀ unit] at high
      have least : 2 * whole * 2 ^ (-exponent).toNat < 2 * mantissa + 2 ^ (-exponent).toNat := by
        have cast : ((2 * whole * 2 ^ (-exponent).toNat : Nat) : ℚ) <
            (2 * mantissa + 2 ^ (-exponent).toNat : Nat) := by
          push_cast
          linarith
        exact_mod_cast cast
      have most : 2 * mantissa < 2 * whole * 2 ^ (-exponent).toNat + 2 ^ (-exponent).toNat := by
        have cast : ((2 * mantissa : Nat) : ℚ) < (2 * whole * 2 ^ (-exponent).toNat +
              2 ^ (-exponent).toNat : Nat) := by
          push_cast
          linarith
        exact_mod_cast cast
      have pos := Nat.two_pow_pos (-exponent).toNat
      have casts : ((2 ^ (-exponent).toNat : Nat) : Int) = 2 ^ (-exponent).toNat := by
        push_cast
        rfl
      rw [← casts]
      generalize 2 ^ (-exponent).toNat = unitNat at least most pos ⊢
      have lower : 2 * (whole : Int) * unitNat < 2 * mantissa + unitNat := by
        exact_mod_cast least
      have upper : 2 * (mantissa : Int) < 2 * whole * unitNat + unitNat := by
        exact_mod_cast most
      have divisor : (0 : Int) < 2 * unitNat := by omega
      cases sign with
      | positive =>
        have quotient :=
          @Int.ediv_emod_unique (2 * mantissa + unitNat) (2 * unitNat)
            (2 * mantissa + unitNat - 2 * whole * unitNat) whole divisor
        exact (quotient.mpr ⟨by ring, by linarith, by linarith⟩).1
      | negative =>
        have quotient :=
          @Int.ediv_emod_unique (2 * -mantissa + unitNat) (2 * unitNat)
            (2 * -mantissa + unitNat + 2 * whole * unitNat) (-whole) divisor
        exact (quotient.mpr ⟨by ring, by linarith, by linarith⟩).1

/-- A difference near a whole number is rounded to it. -/
theorem mathRound_of_difference {range : Int} {first second : ℚ} {number : Float} {whole : Int}
    (difference : Difference range first second number.toModel.unpack)
    (near : |first - second - whole| < 1 / 4) (small : |first - second| < 2 ^ 40) :
    mathRound number = some whole := by
  rw [mathRound]
  generalize number.toModel.unpack = read at difference ⊢
  rw [abs_lt] at near small
  cases difference with
  | equal same =>
    have low : (-1 : ℚ) < whole := by linarith
    have high : (whole : ℚ) < 1 := by linarith
    have least : -1 < whole := by exact_mod_cast low
    have most : whole < 1 := by exact_mod_cast high
    have zero : whole = 0 := by omega
    rw [zero]
  | @above value _ less normal close =>
    have low : (-1 : ℚ) < whole := by linarith
    have least : -1 < whole := by exact_mod_cast low
    rcases Int.eq_ofNat_of_zero_le (by omega : 0 ≤ whole) with ⟨count, rfl⟩
    rw [Close, abs_le] at close
    have nearer : |value - (count : ℚ)| < 1 / 2 := by
      rw [Int.cast_natCast] at near
      rw [abs_lt]
      constructor <;> linarith
    cases normal with
    | @finite mantissa exponent positive full short low high same =>
      have again : Normal range value (.finite .positive mantissa exponent positive) :=
        .finite full short low high same
      exact congrArg some (round_of_normal again nearer .positive)
  | @below value _ less normal close =>
    have high : (whole : ℚ) < 1 := by linarith
    have most : whole < 1 := by exact_mod_cast high
    rcases Int.eq_ofNat_of_zero_le (by omega : 0 ≤ -whole) with ⟨count, negated⟩
    have whole_eq : whole = -(count : Int) := by omega
    rw [Close, abs_le] at close
    rw [whole_eq] at near ⊢
    have nearer : |value - (count : ℚ)| < 1 / 2 := by
      rw [Int.cast_neg, Int.cast_natCast] at near
      rw [abs_lt]
      constructor <;> linarith
    cases normal with
    | @finite mantissa exponent positive full short low high same =>
      have again : Normal range value (.finite .positive mantissa exponent positive) :=
        .finite full short low high same
      exact congrArg some (round_of_normal again nearer .negative)

/-! ### Stacks -/

theorem hundred_normal : Normal 100 100 (100 : Float).toModel.unpack := by
  have read : (100 : Float).toModel.unpack =
      .finite .positive (100 * 2 ^ 46) (-46) (by decide) := rfl
  rw [read]
  exact .finite (by decide) (by decide) (by decide) (by decide) (by norm_num)

/-- The number of a stack is within two roundings of it. -/
theorem chipsToUsd_normal {chips : Nat} (positive : 0 < chips) (small : chips < 2 ^ 40) : ∃ usd,
    Normal 255 usd (chipsToUsd chips).toModel.unpack ∧
      |usd - chips / 100| < 1 / 32 := by
  rcases exists_ofNat positive (by omega) with ⟨whole, normal, close⟩
  rcases normal.div hundred_normal (by decide) with ⟨usd, divided, closer⟩
  refine ⟨usd, divided, ?_⟩
  have bound : (chips : ℚ) < 2 ^ 40 := by exact_mod_cast small
  have least : (1 : ℚ) ≤ chips := by exact_mod_cast positive
  simp only [Close, abs_le] at close closer
  rw [abs_lt]
  constructor <;> linarith

theorem chipsToUsd_zero : (chipsToUsd 0).toModel.unpack = .zero .positive := rfl

theorem toModel_sub (first second : Float) : (first - second).toModel.unpack = (Float.Model.pack
      (UnpackedFloat.sub Format.binary64 first.toModel.unpack second.toModel.unpack)).unpack := rfl

/-- A normal number is close to itself. -/
theorem close_self {value : ℚ} (positive : 0 < value) : Close value value := by
  rw [Close, sub_self, abs_zero]
  positivity

theorem Normal.pos {range : Int} {value : ℚ} {number : UnpackedFloat}
    (normal : Normal range value number) : 0 < value := by
  cases normal with
  | @finite mantissa exponent positive full short low high same =>
    rw [same]
    have whole : (0 : ℚ) < mantissa := by exact_mod_cast positive
    exact mul_pos whole (zpow_pos two_pos _)

/-- What the numbers of two stacks differ by. -/
theorem exists_difference {prev next : Nat} (smallPrev : prev < 2 ^ 40)
    (smallNext : next < 2 ^ 40) : ∃ range first second, Difference range first second
        (chipsToUsd next - chipsToUsd prev).toModel.unpack ∧
      |first - next / 100| < 1 / 32 ∧ |second - prev / 100| < 1 / 32 := by
  rw [toModel_sub]
  rcases Nat.eq_zero_or_pos prev with rfl | positivePrev
  · rw [chipsToUsd_zero]
    rcases Nat.eq_zero_or_pos next with rfl | positiveNext
    · rw [chipsToUsd_zero]
      exact ⟨0, 0, 0, .equal rfl, by norm_num, by norm_num⟩
    · rcases chipsToUsd_normal positiveNext smallNext with ⟨usd, normal, near⟩
      have less := Normal.pos normal
      have stored := normal.stored (by decide)
      generalize (chipsToUsd next).toModel.unpack = read at normal stored ⊢
      have itself : UnpackedFloat.sub Format.binary64 read (.zero .positive) = read := by
        cases normal
        rfl
      rw [itself, stored]
      refine ⟨255, usd, 0, .above less normal ?_, near, by norm_num⟩
      rw [sub_zero]
      exact close_self less
  · rcases chipsToUsd_normal positivePrev smallPrev with ⟨usd, normal, near⟩
    rcases Nat.eq_zero_or_pos next with rfl | positiveNext
    · rw [chipsToUsd_zero]
      have less := Normal.pos normal
      have stored := Normal.stored_neg normal (by decide)
      generalize (chipsToUsd prev).toModel.unpack = read at normal stored ⊢
      have negated : UnpackedFloat.sub Format.binary64 (.zero .positive) read =
          read.neg := by
        cases normal
        rfl
      rw [negated, stored]
      refine ⟨255, 0, usd, .below less normal ?_, by norm_num, near⟩
      rw [sub_zero]
      exact close_self less
    · rcases chipsToUsd_normal positiveNext smallNext with ⟨other, also, nearer⟩
      exact ⟨310, other, usd, Normal.sub also normal (by decide), nearer, near⟩

/-- Stacks that differ by whole dollars round to their difference. -/
theorem mathRound_chipsToUsd {prev next : Nat} {whole : Int} (smallPrev : prev < 2 ^ 40)
    (smallNext : next < 2 ^ 40) (dollars : (next : Int) - prev = 100 * whole) :
    mathRound (chipsToUsd next - chipsToUsd prev) = some whole := by
  have exactly : (next : ℚ) / 100 - prev / 100 = whole := by
    have cast : (next : ℚ) - prev = 100 * whole := by exact_mod_cast dollars
    linarith
  have boundPrev : (prev : ℚ) < 2 ^ 40 := by exact_mod_cast smallPrev
  have boundNext : (next : ℚ) < 2 ^ 40 := by exact_mod_cast smallNext
  have leastPrev : (0 : ℚ) ≤ prev := Nat.cast_nonneg prev
  have leastNext : (0 : ℚ) ≤ next := Nat.cast_nonneg next
  rcases exists_difference smallPrev smallNext with ⟨range, first, second, difference, near, nearer⟩
  rw [abs_lt] at near nearer
  apply mathRound_of_difference difference
  · rw [abs_lt]
    constructor <;> linarith
  · rw [abs_lt]
    constructor <;> linarith

/-- For a baseline that is the number of the stack before, the condition is
that the stack changes by a whole number of dollars. -/
theorem roundsTo_iff_dvd {prev next : Nat} (smallPrev : prev < 2 ^ 40) (smallNext : next < 2 ^ 40) :
    RoundsTo (chipsToUsd prev) prev next ↔ (100 : Int) ∣ next - prev := by
  rw [RoundsTo]
  constructor
  · intro rounds
    rcases Option.map_eq_some_iff.mp rounds with ⟨whole, -, same⟩
    exact ⟨whole, same.symm⟩
  · rintro ⟨whole, dollars⟩
    rw [mathRound_chipsToUsd smallPrev smallNext dollars, Option.map_some, dollars]

/--
A stack changes by whole dollars, from a baseline that is its own number, or
from one that top-ups have left near enough.
-/
structure ChangesWhole (baseline : Float) (prev next : Nat) : Prop where
  dollars : (100 : Int) ∣ next - prev
  near : baseline = chipsToUsd prev ∧ prev < 2 ^ 40 ∧ next < 2 ^ 40 ∨ RoundsTo baseline prev next

instance (baseline : Float) (prev next : Nat) : Decidable (ChangesWhole baseline prev next) :=
  decidable_of_iff (_ ∧ _)
    ⟨fun parts => ⟨parts.1, parts.2⟩, fun whole => ⟨whole.dollars, whole.near⟩⟩

theorem ChangesWhole.roundsTo {baseline : Float} {prev next : Nat}
    (whole : ChangesWhole baseline prev next) :
    RoundsTo baseline prev next := by
  rcases whole.near with ⟨rfl, smallPrev, smallNext⟩ | rounds
  · exact (roundsTo_iff_dvd smallPrev smallNext).mpr whole.dollars
  · exact rounds

end Mozetto.GameServer
