import Mathlib.Order.Basic
import Mozetto.Chain.Consistency

/-!
# Which calls raise locks

Only tickets raise locks: those of a session that is opened, sealed, topped
up or bought into again.  No other call raises any, and a ticket raises the
lock of its own player and session only.
-/

namespace Mozetto.Chain

open Mozetto.Library.Guarded
open Mozetto.Library.Mapping
open Mozetto.Library.CustodyLedger

/-- The calls that raise no lock. -/
def raisesNoLock : Operation → Bool
  | .vault (.sealAndFundSession _ _ _) => false
  | .vault (.openSession _ _ _) => false
  | .vault (.topUpSession _ _ _) => false
  | .vault (.rebuySession _ _ _) => false
  | _ => true

section Locks

variable {deployment : Deployment} {before after : World}
variable {sessionId : Bytes32}

/-- Equal ledgers have equal locks. -/
theorem lockedBySession_of_ledger {ledger : Ledger Bytes32 Address}
    (same : after.vault.ledger = ledger) : after.vault.lockedBySession = ledger.locked :=
  congrArg Ledger.locked same

theorem Quiet.lockedBySession (unchanged : Quiet deployment before after) :
    after.vault.lockedBySession = before.vault.lockedBySession :=
  lockedBySession_of_ledger unchanged.ledger

/-- Taking from one lock raises none. -/
theorem write₂_sub_le (locked : Bytes32 → Address → Nat) (account : Address) (amount : Nat) :
    write₂ locked sessionId account (locked sessionId account - amount) ≤
      locked := by
  intro other entry
  by_cases same : other = sessionId ∧ entry = account
  · obtain ⟨rfl, rfl⟩ := same
    rw [write₂_self]
    exact Nat.sub_le _ _
  · rw [write₂_of_ne _ _ same]

theorem locked_le_of_settle {msg : Msg} {players : List SettlementPlayer} {rake : Nat}
    (run : ArenaVaultV2.settleSession deployment msg before sessionId players rake = .ok after) :
    after.vault.lockedBySession ≤ before.vault.lockedBySession := by
  obtain ⟨-, -, -, -, released, releases, closed, close, notified⟩ :=
    ArenaVaultV2.settleSession_eq_ok_iff.mp run
  obtain ⟨-, rfl⟩ := ArenaVaultV2.notifyLifecycleSettled_eq_ok_iff.mp notified
  obtain ⟨-, rfl⟩ := ArenaVaultV2.closeSession_eq_ok_iff.mp close
  rw [ArenaVaultV2.hooked_frame]
  refine foldlM_preserves (motive := fun state =>
        state.vault.lockedBySession ≤ before.vault.lockedBySession)
      ?_ le_rfl releases
  intro state row result _ lowered step
  obtain ⟨-, tokens, -, rfl⟩ := ArenaVaultV2.releaseRow_eq_ok_iff_pays.mp step
  exact le_trans (write₂_sub_le _ _ _) lowered

theorem locked_le_of_exit {msg : Msg} {player : Address} {tableBalance : Nat}
    (run : ArenaVaultV2.payoutEmergencyExit deployment msg before sessionId player
        tableBalance = .ok after) :
    after.vault.lockedBySession ≤ before.vault.lockedBySession := by
  obtain ⟨-, -, tokens, -, rfl⟩ := ArenaVaultV2.payoutEmergencyExit_eq_ok_iff.mp run
  rw [ArenaVaultV2.hooked_frame]
  exact write₂_sub_le _ _ _

/-- A call without tickets raises no lock. -/
theorem Effect.locked_le {operation : Operation} (effect : Effect deployment operation before after)
    (noLock : raisesNoLock operation = true) :
    after.vault.lockedBySession ≤ before.vault.lockedBySession := by
  cases effect with
  | quiet unchanged => exact le_of_eq unchanged.lockedBySession
  | funded => cases noLock
  | opened => cases noLock
  | toppedUp => cases noLock
  | rebought => cases noLock
  | settled recorded run =>
    rw [← recorded.lockedBySession]
    exact locked_le_of_settle run
  | withdrew run =>
    obtain ⟨-, ledger, -, -⟩ := ArenaVaultV2.withdrawProtocolFees_eq_ok run
    exact le_of_eq (lockedBySession_of_ledger ledger)
  | exited ready run => exact locked_le_of_exit run

/-- A ticket raises the lock of its player only. -/
theorem ArenaVaultV2.LockEffect.locked_cases {account : Address} {amount : Nat}
    (effect : LockEffect deployment before after sessionId account amount)
    {other : Bytes32} {entry : Address}
    (locked : after.vault.lockedBySession other entry ≠ 0) :
    before.vault.lockedBySession other entry ≠ 0 ∨ (other = sessionId ∧ entry = account) := by
  rw [lockedBySession_of_ledger effect.ledger] at locked
  by_cases same : other = sessionId ∧ entry = account
  · exact Or.inr same
  · left
    have kept : (before.vault.ledger.join sessionId account amount).locked other
        entry = before.vault.lockedBySession other entry := write₂_of_ne _ _ same
    rw [kept] at locked
    exact locked

/-- Opening a session locks for the players of its tickets only. -/
theorem locked_of_openSession {msg : Msg} {config : SessionConfig} {tickets : List SeatTicket}
    {signatures : List Bytes}
    (run : ArenaVaultV2.openSession deployment msg before config tickets signatures = .ok after)
    {other : Bytes32} {entry : Address}
    (locked : after.vault.lockedBySession other entry ≠ 0) :
    before.vault.lockedBySession other entry ≠ 0 ∨ (other = config.sessionId ∧
        ∃ ticket ∈ tickets, entry = ticket.player) := by
  obtain ⟨opened, openedAs, locks⟩ := ArenaVaultV2.openSession_eq_ok run
  revert locked
  refine foldlM_preserves (motive := fun state =>
        state.vault.lockedBySession other entry ≠ 0 → before.vault.lockedBySession other entry ≠ 0 ∨
            (other = config.sessionId ∧ ∃ ticket ∈ tickets, entry = ticket.player))
      ?_ ?_ locks
  · intro state seat result member earlier locked lockedAfter
    have effect := ArenaVaultV2.lockFromTicket_eq_ok locked
    rcases effect.locked_cases lockedAfter with held | ⟨session, player⟩
    · exact earlier held
    · exact Or.inr ⟨session, seat.1, (List.of_mem_zip member).1, player⟩
  · intro locked
    left
    rw [lockedBySession_of_ledger openedAs.effect.ledger] at locked
    exact locked

end Locks

end Mozetto.Chain
