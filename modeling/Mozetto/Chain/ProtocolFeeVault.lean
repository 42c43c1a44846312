import Mozetto.Chain.Token

/-!
# ProtocolFeeVault

The fee-only sink of the vault: deposits by authorised depositors, sweeps to
the treasury safe and the timelocked change of that safe.  The period and
session metadata of deposits and sweeps go to events only.
-/

namespace Mozetto.Chain

open Mozetto.Library.Guarded
open Mozetto.Library.Mapping

/-- The storage of the fee vault. -/
structure ProtocolFeeVault where
  owner : Address
  paused : Bool
  treasurySafe : Address
  emergencyGuardian : Address
  minDelay : Nat
  accruedFees : Nat
  depositors : Address → Bool
  pendingTreasury : Address × Nat

namespace ProtocolFeeVault

def setDepositor (msg : Msg) (feeVault : ProtocolFeeVault) (depositor : Address)
    (allowed : Bool) : Except Revert ProtocolFeeVault := do
  onlyOwner msg feeVault.owner
  revertIf (depositor = 0) .zeroAddress
  return { feeVault with
    depositors := write feeVault.depositors depositor allowed }

def setEmergencyGuardian (msg : Msg) (feeVault : ProtocolFeeVault) (guardian : Address) :
    Except Revert ProtocolFeeVault := do
  onlyOwner msg feeVault.owner
  return { feeVault with emergencyGuardian := guardian }

def setMinDelay (msg : Msg) (feeVault : ProtocolFeeVault) (newDelay : Nat) :
    Except Revert ProtocolFeeVault := do
  onlyOwner msg feeVault.owner
  return { feeVault with minDelay := newDelay }

def scheduleTreasuryUpdate (msg : Msg) (feeVault : ProtocolFeeVault) (newTreasury : Address) :
    Except Revert ProtocolFeeVault := do
  onlyOwner msg feeVault.owner
  revertIf (newTreasury = 0) .zeroAddress
  revertIf (feeVault.pendingTreasury.2 ≠ 0) .operationPending
  let eta ← checkedAdd64 msg.timestamp feeVault.minDelay
  return { feeVault with pendingTreasury := (newTreasury, eta) }

def executeTreasuryUpdate (msg : Msg) (feeVault : ProtocolFeeVault) :
    Except Revert ProtocolFeeVault := do
  onlyOwner msg feeVault.owner
  let (newTreasury, eta) := feeVault.pendingTreasury
  revertIf (eta = 0) .noPendingOperation
  revertIf (msg.timestamp < eta) (.timelockNotReady eta)
  return { feeVault with
    treasurySafe := newTreasury
    pendingTreasury := (0, 0) }

def cancelTreasuryUpdate (msg : Msg) (feeVault : ProtocolFeeVault) :
    Except Revert ProtocolFeeVault := do
  onlyOwner msg feeVault.owner
  revertIf (feeVault.pendingTreasury.2 = 0) .noPendingOperation
  return { feeVault with pendingTreasury := (0, 0) }

/-- `pause`: by the owner or the guardian, and not while already paused. -/
def pause (msg : Msg) (feeVault : ProtocolFeeVault) :
    Except Revert ProtocolFeeVault := do
  revertIf (msg.sender ≠ feeVault.owner ∧ msg.sender ≠ feeVault.emergencyGuardian) .unauthorized
  revertIf (feeVault.paused = true) .enforcedPause
  return { feeVault with paused := true }

def unpause (msg : Msg) (feeVault : ProtocolFeeVault) :
    Except Revert ProtocolFeeVault := do
  onlyOwner msg feeVault.owner
  revertIf (feeVault.paused = false) .expectedPause
  return { feeVault with paused := false }

def changeOwner (msg : Msg) (feeVault : ProtocolFeeVault) (call : OwnableCall) :
    Except Revert ProtocolFeeVault := do
  let owner ← call.newOwner msg feeVault.owner
  return { feeVault with owner := owner }

/-- `depositFees`: pull fees from the depositor that calls. -/
def depositFees (deployment : Deployment) (msg : Msg) (feeVault : ProtocolFeeVault)
    (tokens : Tokens) (amount : Nat) : Except Revert (ProtocolFeeVault × Tokens) := do
  revertIf (feeVault.depositors msg.sender = false) .unauthorized
  revertIf (amount = 0) .zeroAmount
  let accrued ← checkedAdd feeVault.accruedFees amount
  let pulled ← tokens.transferFrom deployment.feeVaultUsdc deployment.feeVault
      msg.sender deployment.feeVault amount
  return ({ feeVault with accruedFees := accrued }, pulled)

/-- `sweep` accrued fees to the treasury safe. -/
def sweep (deployment : Deployment) (msg : Msg) (feeVault : ProtocolFeeVault)
    (tokens : Tokens) (amount : Nat) : Except Revert (ProtocolFeeVault × Tokens) := do
  onlyOwner msg feeVault.owner
  revertIf (feeVault.paused = true) .enforcedPause
  revertIf (amount = 0) .zeroAmount
  revertIf (feeVault.accruedFees < amount) .insufficientFees
  let swept ← tokens.transfer deployment.feeVaultUsdc deployment.feeVault
      feeVault.treasurySafe amount
  return ({ feeVault with accruedFees := feeVault.accruedFees - amount }, swept)

/-! ## What deposits and sweeps move -/

theorem depositFees_eq_ok {deployment : Deployment} {msg : Msg} {feeVault : ProtocolFeeVault}
    {tokens : Tokens} {amount : Nat} {result : ProtocolFeeVault × Tokens}
    (deposited : depositFees deployment msg feeVault tokens amount = .ok result) :
    tokens.transferFrom deployment.feeVaultUsdc deployment.feeVault
      msg.sender deployment.feeVault amount = .ok result.2 := by
  simp only [depositFees, bind_eq_ok_iff, revertIf_eq_ok_iff,
    checkedAdd_eq_ok_iff, pure_eq_ok_iff, exists_const] at deposited
  obtain ⟨-, -, accrued, -, pulled, moved, equal⟩ := deposited
  subst equal
  exact moved

theorem sweep_eq_ok {deployment : Deployment} {msg : Msg} {feeVault : ProtocolFeeVault}
    {tokens : Tokens} {amount : Nat} {result : ProtocolFeeVault × Tokens}
    (swept : sweep deployment msg feeVault tokens amount = .ok result) :
    tokens.transfer deployment.feeVaultUsdc deployment.feeVault
      feeVault.treasurySafe amount = .ok result.2 := by
  simp only [sweep, onlyOwner_eq_ok_iff, bind_eq_ok_iff, revertIf_eq_ok_iff,
    pure_eq_ok_iff, exists_const] at swept
  obtain ⟨-, -, -, -, paid, moved, equal⟩ := swept
  subst equal
  exact moved

end ProtocolFeeVault

end Mozetto.Chain
