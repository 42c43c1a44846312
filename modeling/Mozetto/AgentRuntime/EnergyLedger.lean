import Mozetto.AgentRuntime.AgentState
import Mozetto.SessionSeal.Commitments

/-!
# The energy of a seat in a hand

A seat is granted one hundred units of energy for a hand.  Work that has been
carried out is debited and recorded with what remains; work in the background
has to leave a reserve for the action on turn.
-/

namespace Mozetto.AgentRuntime

open Mozetto.Chain
open Mozetto.SessionSeal

/-! ## Costs -/

inductive EnergyOperationType
  | deterministicIngest
  | lightUpdate
  | timingUpdate
  | opponentUpdate
  | streetPlan
  | memoryRetrieval
  | standardFinalDecision
  | deepFinalDecision
  | maximumFinalDecision
deriving DecidableEq, Repr

def EnergyOperationType.code : EnergyOperationType → Nat
  | deterministicIngest => 1
  | lightUpdate => 2
  | timingUpdate => 3
  | opponentUpdate => 4
  | streetPlan => 5
  | memoryRetrieval => 6
  | standardFinalDecision => 7
  | deepFinalDecision => 8
  | maximumFinalDecision => 9

def handEnergy : Nat := 100
def mandatoryReserve : Nat := 12

/-- The table of the season. -/
def costOf : EnergyOperationType → Nat
  | .deterministicIngest => 0
  | .lightUpdate => 2
  | .timingUpdate => 2
  | .opponentUpdate => 4
  | .streetPlan => 6
  | .memoryRetrieval => 3
  | .standardFinalDecision => 8
  | .deepFinalDecision => 16
  | .maximumFinalDecision => 24

inductive EnergySpendClass
  | background
  | final
deriving DecidableEq, Repr

def defaultSpendClass : EnergyOperationType → EnergySpendClass
  | .standardFinalDecision | .deepFinalDecision | .maximumFinalDecision => .final
  | _ => .background

def combinedFinalDebit (decisionMode : EnergyOperationType) (includeMemoryRetrieval : Bool) : Nat :=
  costOf decisionMode + if includeMemoryRetrieval then costOf .memoryRetrieval else 0

/-! ## Ledgers -/

structure EnergyLedgerKey where
  sessionId : Bytes32
  handId : Bytes32
  seat : Int

structure EnergyOpFields where
  opIndex : Nat
  operationType : EnergyOperationType
  energyDebit : Nat
  remainingEnergy : Nat
  providerRequestId : Bytes32
  observationHash : Bytes32
  resultHash : Bytes32
  fallbackFlag : Bool
  spendClass : EnergySpendClass
deriving DecidableEq, Repr

structure EnergyOpRecord extends EnergyOpFields where
  opHash : Bytes32
deriving DecidableEq, Repr

inductive EnergyLedgerStatus
  | opened
  | expired
deriving DecidableEq, Repr

structure EnergyLedger extends EnergyLedgerKey where
  energyPolicyHash : Bytes32
  startingEnergy : Nat
  remainingEnergy : Nat
  seatActive : Bool
  status : EnergyLedgerStatus
  ops : List EnergyOpRecord
  endingEnergy : Option Nat
  opsRoot : Option Bytes32
  ledgerHash : Option Bytes32

/-- A debit is of the cost in the table unless another one is named. -/
structure EnergyOpInput where
  operationType : EnergyOperationType
  energyDebit : Option Int := none
  spendClass : Option EnergySpendClass := none
  providerRequestId : Option Bytes32 := none
  observationHash : Bytes32
  resultHash : Bytes32
  fallbackFlag : Option Bool := none
  executed : Option Bool := none

inductive EnergyDebitRejectReason
  | ledgerExpired
  | notExecuted
  | invalidDebit
  | overspend
  | reserveBreach
  | startingEnergyInvalid
deriving DecidableEq, Repr

def EnergyDebitRejectReason.text : EnergyDebitRejectReason → String
  | ledgerExpired => "ledger_expired"
  | notExecuted => "not_executed"
  | invalidDebit => "invalid_debit"
  | overspend => "overspend"
  | reserveBreach => "reserve_breach"
  | startingEnergyInvalid => "starting_energy_invalid"

/-- A debit that is turned down, or whose record cannot be encoded. -/
inductive EnergyRefusal
  | rejected (reason : EnergyDebitRejectReason) (message : String)
  | thrown (error : SealError)
deriving DecidableEq, Repr

structure EnergyAffordability where
  reason : Option EnergyDebitRejectReason
  remainingEnergy : Nat
  requiredReserve : Nat
  spendable : Nat
deriving DecidableEq, Repr

def EnergyAffordability.affordable (check : EnergyAffordability) : Bool := check.reason.isNone

section Commitments

variable (deployment : Deployment)

def attachOpHash (ledger : EnergyLedgerKey) (fields : EnergyOpFields) :
    Except SealError EnergyOpRecord := do
  let opHash ← hashEnc deployment
    [(256, domainTag deployment "MOZETTO_ENERGY_OP_V1"), (256, ledger.sessionId),
      (256, ledger.handId), (8, ledger.seat.toNat), (32, fields.opIndex),
      (16, fields.operationType.code), (16, fields.energyDebit),
      (16, fields.remainingEnergy), (256, fields.providerRequestId),
      (256, fields.observationHash), (256, fields.resultHash), (1, boolWord fields.fallbackFlag)]
  return { fields with opHash := opHash }

/-! ## Operations -/

def grantHandEnergy (key : EnergyLedgerKey) (seatActive : Option Bool := none)
    (energyPolicyHash : Option Bytes32 := none) : Except String EnergyLedger :=
  if key.seat < 0 ∨ 255 < key.seat then
    .error s!"seat out of uint8 range: {key.seat}"
  else
    .ok
      { key with
        energyPolicyHash :=
          energyPolicyHash.getD (domainTag deployment "energy-policy-season1-100-v1")
        startingEnergy := handEnergy
        remainingEnergy := handEnergy
        seatActive := seatActive.getD true
        status := .opened
        ops := []
        endingEnergy := none
        opsRoot := none
        ledgerHash := none }

end Commitments

namespace EnergyLedger

def spendableBackground (ledger : EnergyLedger) : Nat :=
  if ledger.status ≠ .opened then 0
  else if !ledger.seatActive then ledger.remainingEnergy
  else ledger.remainingEnergy - mandatoryReserve

def spendableFinal (ledger : EnergyLedger) : Nat :=
  if ledger.status ≠ .opened then 0 else ledger.remainingEnergy

def requiredReserve (ledger : EnergyLedger) : Nat :=
  if ledger.status ≠ .opened ∨ !ledger.seatActive then 0 else mandatoryReserve

end EnergyLedger

/-- `none` for a debit that is not one. -/
def resolveDebit (operationType : EnergyOperationType) (energyDebit : Option Int) : Option Nat :=
  match energyDebit with
  | none => some (costOf operationType)
  | some debit =>
    if debit < 0 ∨ (handEnergy : Int) < debit then none else some debit.toNat

def canAfford (ledger : EnergyLedger) (operationType : EnergyOperationType)
    (energyDebit : Option Int := none)
    (spendClass : Option EnergySpendClass := none) : EnergyAffordability :=
  let spendClass := spendClass.getD (defaultSpendClass operationType)
  let answer (reason : Option EnergyDebitRejectReason) : EnergyAffordability :=
    { reason := reason
      remainingEnergy := ledger.remainingEnergy
      requiredReserve := ledger.requiredReserve
      spendable :=
        if spendClass = .final then ledger.spendableFinal
        else ledger.spendableBackground }
  if ledger.status ≠ .opened then answer (some .ledgerExpired)
  else if ledger.startingEnergy ≠ handEnergy then
    answer (some .startingEnergyInvalid)
  else
    match resolveDebit operationType energyDebit with
    | none => answer (some .invalidDebit)
    | some debit =>
      if ledger.remainingEnergy < debit then answer (some .overspend)
      else if spendClass = .background ∧ ledger.seatActive ∧
          ledger.remainingEnergy - debit < mandatoryReserve then
        answer (some .reserveBreach)
      else answer none

def rejectMessage (reason : EnergyDebitRejectReason) (operationType : EnergyOperationType)
    (check : EnergyAffordability) : String :=
  match reason with
  | .overspend =>
    s!"overspend: op {operationType.code} would exceed remaining {check.remainingEnergy}"
  | .reserveBreach =>
    s!"reserve_breach: background spend must leave ≥ {mandatoryReserve} while " ++
      s!"seat active (have {check.remainingEnergy}, spendable {check.spendable})"
  | .ledgerExpired => "ledger expired"
  | .invalidDebit => "invalid energyDebit"
  | .startingEnergyInvalid => s!"Season 1 startingEnergy MUST be {handEnergy}"
  | .notExecuted => "not executed"

section Debits

variable (deployment : Deployment)

def debitEnergy (ledger : EnergyLedger) (input : EnergyOpInput) :
    Except EnergyRefusal (EnergyLedger × EnergyOpRecord) :=
  if ledger.status ≠ .opened then
    .error (.rejected .ledgerExpired "Energy ledger already expired for this hand")
  else if input.executed = some false then
    .error (.rejected .notExecuted
      "MUST NOT charge Energy for cancelled/preempted provider calls")
  else
    let spendClass := input.spendClass.getD (defaultSpendClass input.operationType)
    let check := canAfford ledger input.operationType input.energyDebit (some spendClass)
    match check.reason with
    | some reason =>
      .error (.rejected reason (rejectMessage reason input.operationType check))
    | none =>
      let debit := (resolveDebit input.operationType input.energyDebit).getD 0
      match attachOpHash deployment ledger.toEnergyLedgerKey
          { opIndex := ledger.ops.length
            operationType := input.operationType
            energyDebit := debit
            remainingEnergy := ledger.remainingEnergy - debit
            providerRequestId := input.providerRequestId.getD 0
            observationHash := input.observationHash
            resultHash := input.resultHash
            fallbackFlag := input.fallbackFlag.getD false
            spendClass := spendClass } with
      | .error error => .error (.thrown error)
      | .ok op =>
        .ok
          ({ ledger with
              remainingEnergy := ledger.remainingEnergy - debit
              ops := ledger.ops ++ [op]
              opsRoot := none
              ledgerHash := none
              endingEnergy := none }, op)

end Debits

/-! ## What a debit does -/

section Debited

variable {deployment : Deployment} {ledger after : EnergyLedger}
variable {input : EnergyOpInput} {op : EnergyOpRecord}

theorem canAfford_reason_eq_none_iff
    {operationType : EnergyOperationType} {energyDebit : Option Int}
    {spendClass : EnergySpendClass} :
    (canAfford ledger operationType energyDebit (some spendClass)).reason = none ↔
      ledger.status = .opened ∧ ledger.startingEnergy = handEnergy ∧
        ∃ debit, resolveDebit operationType energyDebit = some debit ∧
          debit ≤ ledger.remainingEnergy ∧ (spendClass = .background → ledger.seatActive = true →
            mandatoryReserve ≤ ledger.remainingEnergy - debit) := by
  rw [canAfford]
  dsimp only [Option.getD_some]
  by_cases opened : ledger.status = .opened
  · rw [if_neg (not_not.mpr opened), and_iff_right opened]
    by_cases starts : ledger.startingEnergy = handEnergy
    · rw [if_neg (not_not.mpr starts), and_iff_right starts]
      cases resolveDebit operationType energyDebit with
      | none => exact ⟨nofun, fun ⟨_, resolved, _⟩ => nomatch resolved⟩
      | some debit =>
        dsimp only
        simp only [Option.some.injEq, exists_eq_left']
        by_cases covered : ledger.remainingEnergy < debit
        · rw [if_pos covered]
          exact ⟨nofun, fun affordable => absurd affordable.1 covered.not_ge⟩
        · rw [if_neg covered, and_iff_right (Nat.not_lt.mp covered)]
          split
          · rename_i breach
            exact ⟨nofun, fun left =>
              absurd (left breach.1 breach.2.1) breach.2.2.not_ge⟩
          · rename_i left
            exact ⟨fun _ background active =>
              Nat.not_lt.mp fun below => left ⟨background, active, below⟩, fun _ => rfl⟩
    · rw [if_pos starts]
      exact ⟨nofun, fun affordable => absurd affordable.1 starts⟩
  · rw [if_pos opened]
    exact ⟨nofun, fun affordable => absurd affordable.1 opened⟩

theorem attachOpHash_eq_ok {key : EnergyLedgerKey} {fields : EnergyOpFields}
    (attached : attachOpHash deployment key fields = .ok op) : op.toEnergyOpFields = fields := by
  rw [attachOpHash] at attached
  rcases Library.Guarded.bind_eq_ok_iff.mp attached with ⟨hash, -, same⟩
  cases same
  rfl

/-- All that an accepted debit does. -/
structure Debit (deployment : Deployment) (ledger : EnergyLedger) (input : EnergyOpInput)
    (after : EnergyLedger) (op : EnergyOpRecord) : Prop where
  executed : input.executed ≠ some false
  opened : ledger.status = .opened
  resolved : resolveDebit input.operationType input.energyDebit = some op.energyDebit
  spendClass : op.spendClass = input.spendClass.getD (defaultSpendClass input.operationType)
  opIndex : op.opIndex = ledger.ops.length
  remaining : op.remainingEnergy + op.energyDebit = ledger.remainingEnergy
  reserve : op.spendClass = .background → ledger.seatActive = true →
      mandatoryReserve ≤ op.remainingEnergy
  hashed : attachOpHash deployment ledger.toEnergyLedgerKey op.toEnergyOpFields = .ok op
  result :
    after =
      { ledger with
        remainingEnergy := op.remainingEnergy
        ops := ledger.ops ++ [op]
        opsRoot := none
        ledgerHash := none
        endingEnergy := none }

theorem debitEnergy_eq_ok (charged : debitEnergy deployment ledger input = .ok (after, op)) :
    Debit deployment ledger input after op := by
  rw [debitEnergy] at charged
  split at charged
  · cases charged
  · rename_i opened
    split at charged
    · cases charged
    · rename_i executed
      dsimp only at charged
      split at charged
      · cases charged
      · rename_i affordable
        rcases canAfford_reason_eq_none_iff.mp affordable with
          ⟨_, -, debit, resolved, covered, reserve⟩
        rw [resolved, Option.getD_some] at charged
        split at charged
        · cases charged
        · rename_i op attached
          cases charged
          have fields := attachOpHash_eq_ok attached
          have remaining := congrArg EnergyOpFields.remainingEnergy fields
          have amount := congrArg EnergyOpFields.energyDebit fields
          have background := congrArg EnergyOpFields.spendClass fields
          rw [← fields] at attached
          exact
            { executed := executed
              opened := not_not.mp opened
              resolved := resolved.trans (congrArg some amount.symm)
              spendClass := background
              opIndex := congrArg EnergyOpFields.opIndex fields
              remaining := by rw [remaining, amount]; exact Nat.sub_add_cancel covered
              reserve := fun isBackground active =>
                (reserve (background.symm.trans isBackground) active).trans_eq remaining.symm
              hashed := attached
              result := by rw [remaining] }

/-! ### Accounts -/

def debited (ops : List EnergyOpRecord) : Nat := (ops.map fun op => op.energyDebit).sum

@[simp]
theorem debited_append (ops later : List EnergyOpRecord) :
    debited (ops ++ later) = debited ops + debited later := by
  rw [debited, List.map_append, List.sum_append]
  rfl

/-- Every unit of the hand remains or has been debited, at every operation. -/
structure Accounts (deployment : Deployment) (ledger : EnergyLedger) : Prop where
  starting : ledger.startingEnergy = handEnergy
  balance : ledger.remainingEnergy + debited ledger.ops = handEnergy
  recorded : ∀ index op, ledger.ops[index]? = some op → op.opIndex = index ∧
        op.remainingEnergy + debited (ledger.ops.take (index + 1)) = handEnergy
  hashed : ∀ op ∈ ledger.ops,
      attachOpHash deployment ledger.toEnergyLedgerKey op.toEnergyOpFields = .ok op

theorem Accounts.debit
    (accounts : Accounts deployment ledger) (debit : Debit deployment ledger input after op) :
    Accounts deployment after := by
  have balance : op.remainingEnergy + debited (ledger.ops ++ [op]) = handEnergy := by
    have total : debited [op] = op.energyDebit := rfl
    rw [debited_append, total, ← accounts.balance, ← debit.remaining]
    omega
  rw [debit.result]
  refine ⟨accounts.starting, balance, ?_, ?_⟩
  · intro index found here
    rcases Nat.lt_or_ge index ledger.ops.length with before | after
    · rw [List.getElem?_append_left before] at here
      dsimp only
      rw [List.take_append_of_le_length before]
      exact accounts.recorded index found here
    · rw [List.getElem?_append_right after, List.getElem?_singleton] at here
      split at here
      · rename_i last
        have same : index = ledger.ops.length := by omega
        cases here
        subst same
        refine ⟨debit.opIndex, ?_⟩
        dsimp only
        rw [List.take_of_length_le (by rw [List.length_append]; rfl)]
        exact balance
      · cases here
  · intro found member
    rcases List.mem_append.mp member with earlier | new
    · exact accounts.hashed found earlier
    · rw [List.mem_singleton.mp new]
      exact debit.hashed

theorem accounts_of_grant
    {key : EnergyLedgerKey} {seatActive : Option Bool} {policy : Option Bytes32}
    (granted : grantHandEnergy deployment key seatActive policy = .ok ledger) :
    Accounts deployment ledger ∧ ledger.status = .opened ∧ ledger.ops = [] ∧
      ledger.seatActive = seatActive.getD true := by
  rw [grantHandEnergy] at granted
  split at granted
  · cases granted
  · cases granted
    exact ⟨⟨rfl, rfl, nofun, nofun⟩, rfl, rfl, rfl⟩

end Debited

end Mozetto.AgentRuntime
