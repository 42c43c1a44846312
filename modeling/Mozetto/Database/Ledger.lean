import Mathlib.Algebra.Order.Ring.Int
import Mozetto.Library.DoubleEntry
import Mozetto.Library.Guarded

/-!
# The ledger

`ledger.ts` of the database package: every movement of money is a transfer
between two accounts under an idempotency key.  Entries are stored with two
decimals, so that amounts are whole cents here; only the rounding of a change
of stack is done on dollars, in binary floating point.
-/

namespace Mozetto.Database

open Mozetto.Library.DoubleEntry

abbrev UserId := Nat

abbrev Uuid := Nat

abbrev TxHash := Nat

inductive ArenaMode where
  | demo
  | onchain
deriving DecidableEq, Repr

inductive AccountKind where
  | user_available
  | user_table_escrow
  | system_clearing
  | platform_rake
deriving DecidableEq, Repr

structure Account where
  ownerId : Option UserId
  kind : AccountKind
  arenaMode : ArenaMode
deriving DecidableEq, Repr

def userAvailable (userId : UserId) (mode : ArenaMode) : Account :=
  ⟨some userId, .user_available, mode⟩

def userTableEscrow (userId : UserId) (mode : ArenaMode) : Account :=
  ⟨some userId, .user_table_escrow, mode⟩

def systemClearing (mode : ArenaMode) : Account := ⟨none, .system_clearing, mode⟩

def platformRake (mode : ArenaMode) : Account := ⟨none, .platform_rake, mode⟩

section Accounts

variable {userId other : UserId} {mode : ArenaMode}

@[simp]
theorem userTableEscrow_inj : userTableEscrow userId mode = userTableEscrow other mode ↔
    userId = other := by
  simp [userTableEscrow]

@[simp]
theorem userAvailable_ne_userTableEscrow :
    userAvailable userId mode ≠ userTableEscrow other mode := by
  simp [userAvailable, userTableEscrow]

@[simp]
theorem userTableEscrow_ne_userAvailable :
    userTableEscrow userId mode ≠ userAvailable other mode := by
  simp [userAvailable, userTableEscrow]

@[simp]
theorem userAvailable_ne_systemClearing : userAvailable userId mode ≠ systemClearing mode := by
  simp [userAvailable, systemClearing]

@[simp]
theorem systemClearing_ne_userAvailable : systemClearing mode ≠ userAvailable userId mode := by
  simp [userAvailable, systemClearing]

@[simp]
theorem userTableEscrow_ne_systemClearing : userTableEscrow userId mode ≠ systemClearing mode := by
  simp [userTableEscrow, systemClearing]

@[simp]
theorem systemClearing_ne_userTableEscrow : systemClearing mode ≠ userTableEscrow userId mode := by
  simp [userTableEscrow, systemClearing]

@[simp]
theorem platformRake_ne_userTableEscrow : platformRake mode ≠ userTableEscrow userId mode := by
  simp [platformRake, userTableEscrow]

@[simp]
theorem platformRake_ne_systemClearing : platformRake mode ≠ systemClearing mode := by
  simp [platformRake, systemClearing]

end Accounts

/-- What a buy-in is booked for: a session, or a top-up at some time. -/
inductive BuyInReference where
  | session (id : Uuid)
  | topUp (id : Uuid) (now : Nat)
deriving DecidableEq, Repr

/-- What a change of stacks is booked for. -/
inductive RoundReference where
  | hand (handId : Uuid)
  | leave (tableId : Uuid) (userId : UserId) (now : Nat)
deriving DecidableEq, Repr

/-- Idempotency keys, each in the form of the text the source builds. -/
inductive LedgerKey where
  | buyin (mode : ArenaMode) (reference : BuyInReference)
  | cashout (mode : ArenaMode) (sessionId : Uuid)
  | rake (mode : ArenaMode) (handId : Uuid)
  | handLoss (mode : ArenaMode) (round : RoundReference) (userId : UserId)
  | handWin (mode : ArenaMode) (round : RoundReference) (userId : UserId)
  | onchainDeposit (hash : TxHash)
  | onchainBuyinWallet (hash : TxHash) (logIndex : Nat)
  | onchainPayout (hash : TxHash) (logIndex : Nat)
  | onchainWithdraw (hash : TxHash)
  | onchainReorg (hash : TxHash)
deriving DecidableEq, Repr

/-- Transactions with their two entries, the newest first. -/
abbrev Ledger := Book LedgerKey Account

inductive LedgerError where
  | amountMustBePositive
  | insufficientAvailableBalance
  | notANumber
deriving DecidableEq, Repr

/-! ## Transfers -/

/-- A transfer under a key that is in use changes nothing. -/
def transfer (opts : Posting LedgerKey Account) (ledger : Ledger) :
    Except LedgerError Ledger :=
  if opts.amount ≤ 0 then .error .amountMustBePositive
  else .ok (post opts ledger)

def lockBuyIn (ledger : Ledger) (userId : UserId) (amount : Int)
    (reference : BuyInReference) (mode : ArenaMode) :
    Except LedgerError Ledger :=
  if balance ledger (userAvailable userId mode) < amount then
    .error .insufficientAvailableBalance
  else
    transfer
      { key := .buyin mode reference
        source := userAvailable userId mode
        target := userTableEscrow userId mode
        amount := amount } ledger

/-- On chain, a settlement has paid the wallet; the mirror is cleared. -/
def releaseSession (ledger : Ledger) (userId : UserId) (amount : Int) (sessionId : Uuid)
    (mode : ArenaMode) : Except LedgerError Ledger :=
  if amount ≤ 0 then .ok ledger
  else
    transfer
      { key := .cashout mode sessionId
        source := userTableEscrow userId mode
        target :=
          if mode = .onchain then systemClearing .onchain
          else userAvailable userId mode
        amount := amount } ledger

def postRake (ledger : Ledger) (amount : Int) (handId : Uuid)
    (mode : ArenaMode) : Except LedgerError Ledger :=
  if amount ≤ 0 then .ok ledger
  else
    transfer
      { key := .rake mode handId
        source := systemClearing mode
        target := platformRake mode
        amount := amount } ledger

/-! ## Escrow and stacks -/

/-- `Math.round`: the nearest integer, the larger one of two; `none` for what
is not finite. -/
def mathRound (number : Float) : Option Int :=
  match number.toModel.unpack with
  | .zero _ => some 0
  | .finite sign mantissa exponent _ =>
      some (if 0 ≤ exponent then sign.apply (mantissa * 2 ^ exponent.toNat)
        else
          (2 * sign.apply mantissa + 2 ^ (-exponent).toNat) / (2 * 2 ^ (-exponent).toNat))
  | _ => none

/-- Stacks in dollars. -/
structure StackChange where
  userId : UserId
  prevStack : Float
  nextStack : Float

/-- One turn of the loop; the database refuses an amount that is no number. -/
def rebalanceChange (round : RoundReference) (mode : ArenaMode) (ledger : Ledger)
    (c : StackChange) : Except LedgerError Ledger :=
  match mathRound (c.nextStack - c.prevStack) with
  | none => .error .notANumber
  | some delta =>
      if delta = 0 then .ok ledger
      else if delta < 0 then
        transfer
          { key := .handLoss mode round c.userId
            source := userTableEscrow c.userId mode
            target := systemClearing mode
            amount := 100 * -delta } ledger
      else
        transfer
          { key := .handWin mode round c.userId
            source := systemClearing mode
            target := userTableEscrow c.userId mode
            amount := 100 * delta } ledger

def rebalanceEscrowToStacks (ledger : Ledger) (round : RoundReference) (changes : List StackChange)
    (mode : ArenaMode) : Except LedgerError Ledger :=
  changes.foldlM (rebalanceChange round mode) ledger

/-! ## What transfers change -/

/-- An amount has moved between two accounts, and keys are old or admitted. -/
structure Moved (ledger after : Ledger) (source target : Account) (amount : Int)
    (keys : LedgerKey → Prop) : Prop where
  balance : ∀ account, balance after account =
        balance ledger account + (if target = account then amount else 0) -
          (if source = account then amount else 0)
  posted : ∀ key, Posted after key → Posted ledger key ∨ keys key

section Transfers

variable {opts : Posting LedgerKey Account} {ledger after : Ledger}
variable {source target : Account} {mode : ArenaMode} {userId : UserId}
variable {amount : Int} {keys : LedgerKey → Prop}

theorem Moved.nothing : Moved ledger ledger source target 0 keys where
  balance := by simp
  posted := fun _ => Or.inl

/-- Moving backwards is moving the opposite amount. -/
theorem Moved.symm (moved : Moved ledger after source target amount keys) :
    Moved ledger after target source (-amount) keys where
  balance := by
    intro account
    rw [moved.balance account]
    split <;> split <;> omega
  posted := moved.posted

theorem transfer_eq_ok_iff : transfer opts ledger = .ok after ↔
    0 < opts.amount ∧ post opts ledger = after := by
  rw [transfer]
  split
  case isTrue small =>
    constructor
    · intro equal
      cases equal
    · rintro ⟨positive, -⟩
      exact absurd positive (not_lt.mpr small)
  case isFalse positive =>
    rw [Except.ok.injEq]
    exact ⟨fun same => ⟨not_le.mp positive, same⟩, fun parts => parts.2⟩

/-- A transfer moves its amount, if its key is new. -/
theorem moved_of_transfer (run : transfer opts ledger = .ok after)
    (fresh : ¬ Posted ledger opts.key) (admitted : keys opts.key) :
    Moved ledger after opts.source opts.target opts.amount keys := by
  rcases transfer_eq_ok_iff.mp run with ⟨-, rfl⟩
  rw [post_of_fresh fresh]
  constructor
  · intro account
    rw [balance_cons, Posting.change]
    omega
  · intro key posted
    rcases posted_cons.mp posted with rfl | kept
    · exact Or.inr admitted
    · exact Or.inl kept

theorem moved_of_lockBuyIn {reference : BuyInReference}
    (run : lockBuyIn ledger userId amount reference mode = .ok after)
    (fresh : ¬ Posted ledger (.buyin mode reference)) :
    Moved ledger after (userAvailable userId mode)
      (userTableEscrow userId mode) amount (· = .buyin mode reference) := by
  rw [lockBuyIn] at run
  split at run
  case isTrue => cases run
  case isFalse => exact moved_of_transfer run fresh rfl

/-- In the demo, a release goes back to what is available. -/
theorem moved_of_releaseSession {sessionId : Uuid} {chips : Nat}
    (run : releaseSession ledger userId chips sessionId .demo = .ok after)
    (fresh : ¬ Posted ledger (.cashout .demo sessionId)) :
    Moved ledger after (userTableEscrow userId .demo)
      (userAvailable userId .demo) chips (· = .cashout .demo sessionId) := by
  rw [releaseSession] at run
  split at run
  case isTrue small =>
    have zero : (chips : Int) = 0 := by omega
    rw [zero]
    cases run
    exact .nothing
  case isFalse => exact moved_of_transfer run fresh rfl

theorem moved_of_postRake {handId : Uuid} {chips : Nat}
    (run : postRake ledger chips handId mode = .ok after)
    (fresh : ¬ Posted ledger (.rake mode handId)) :
    Moved ledger after (systemClearing mode) (platformRake mode) chips (· = .rake mode handId) := by
  rw [postRake] at run
  split at run
  case isTrue small =>
    have zero : (chips : Int) = 0 := by omega
    rw [zero]
    cases run
    exact .nothing
  case isFalse => exact moved_of_transfer run fresh rfl

/-- A change of stack moves the rounded difference, in whole dollars. -/
theorem moved_of_rebalanceChange {round : RoundReference} {c : StackChange} {delta : Int}
    (run : rebalanceChange round mode ledger c = .ok after)
    (rounded : mathRound (c.nextStack - c.prevStack) = some delta)
    (freshLoss : ¬ Posted ledger (.handLoss mode round c.userId))
    (freshWin : ¬ Posted ledger (.handWin mode round c.userId)) :
    Moved ledger after (systemClearing mode) (userTableEscrow c.userId mode) (100 * delta)
      fun key =>
        key = .handLoss mode round c.userId ∨ key = .handWin mode round c.userId := by
  rw [rebalanceChange, rounded] at run
  dsimp only at run
  split at run
  case isTrue zero =>
    cases run
    rw [zero]
    exact .nothing
  case isFalse =>
    split at run
    case isTrue =>
      have opposite : 100 * delta = -(100 * -delta) := by omega
      rw [opposite]
      exact (moved_of_transfer run freshLoss (Or.inl rfl)).symm
    case isFalse => exact moved_of_transfer run freshWin (Or.inr rfl)

/-- A key of a change of stacks in a round. -/
def IsRoundKey (mode : ArenaMode) (round : RoundReference) (userId : UserId)
    (key : LedgerKey) : Prop := key = .handLoss mode round userId ∨ key = .handWin mode round userId

/-- Changes of stacks that are whole dollars move exactly as many cents. -/
theorem balance_of_rebalance {round : RoundReference}
    {changes : List StackChange} (cents : StackChange → Int)
    (run : rebalanceEscrowToStacks ledger round changes mode = .ok after)
    (distinct : (changes.map (·.userId)).Nodup)
    (rounded : ∀ c ∈ changes, (mathRound (c.nextStack - c.prevStack)).map (100 * ·) =
          some (cents c))
    (fresh : ∀ c ∈ changes, ∀ key, IsRoundKey mode round c.userId key → ¬ Posted ledger key) :
    (∀ account, balance after account = balance ledger account + (changes.map fun c =>
              (if userTableEscrow c.userId mode = account then cents c
                else 0) -
                (if systemClearing mode = account then cents c
                  else 0)).sum) ∧
      ∀ key, Posted after key → Posted ledger key ∨
          ∃ c ∈ changes, IsRoundKey mode round c.userId key := by
  induction changes generalizing ledger with
  | nil =>
    cases run
    simp
  | cons c rest induction =>
    rw [rebalanceEscrowToStacks, List.foldlM_cons, Library.Guarded.bind_eq_ok_iff] at run
    rcases run with ⟨middle, first, others⟩
    rw [List.map_cons, List.nodup_cons] at distinct
    rw [List.forall_mem_cons] at rounded fresh
    rcases Option.map_eq_some_iff.mp rounded.1 with ⟨delta, round_eq, same⟩
    have moved :=
      moved_of_rebalanceChange first round_eq (fresh.1 _ (Or.inl rfl)) (fresh.1 _ (Or.inr rfl))
    have later : ∀ other ∈ rest, ∀ key,
        IsRoundKey mode round other.userId key → ¬ Posted middle key := by
      intro other member key named posted
      rcases moved.posted key posted with old | new
      · exact fresh.2 other member key named old
      · have equal : other.userId = c.userId := by
          rcases named with rfl | rfl
          · rcases new with loss | win
            · exact (LedgerKey.handLoss.inj loss).2.2
            · cases win
          · rcases new with loss | win
            · cases loss
            · exact (LedgerKey.handWin.inj win).2.2
        exact distinct.1 (List.mem_map.mpr ⟨other, member, equal⟩)
    rcases induction others distinct.2 rounded.2 later with ⟨balances, keys⟩
    constructor
    · intro account
      rw [balances account, moved.balance account, List.map_cons, List.sum_cons, same]
      omega
    · intro key posted
      rcases keys key posted with inside | ⟨other, member, named⟩
      · rcases moved.posted key inside with old | new
        · exact Or.inl old
        · exact Or.inr ⟨c, List.mem_cons_self, new⟩
      · exact Or.inr ⟨other, List.mem_cons_of_mem _ member, named⟩

end Transfers

end Mozetto.Database
