import Mozetto.Chain.Operations

/-!
# Consistency of every reachable world

Each effect unfolds into elementary custody steps, so that consistency of
the contracts with each other holds throughout every run.
-/

namespace Mozetto.Chain

open Mozetto.Library.Guarded
open Mozetto.Library.TransitionSystem

namespace CustodySteps

variable {deployment : Deployment} {msg : Msg} {before after : World}
variable {sessionId : Bytes32}

/-- A change of the lifecycle contract alone. -/
theorem of_lifecycle {lifecycle : SessionLifecycleV2} :
    CustodySteps deployment before { before with lifecycle := lifecycle } :=
  .single (.quiet (Quiet.of_tokens rfl rfl rfl le_rfl))

/-- A fold of locks after opening: every round locks for a new participant. -/
theorem of_locks {ι : Type} {entries : List ι} {opened : World}
    {lock : World → ι → Except Revert World}
    (started : (opened.vault.sessions sessionId).openedAt ≠ 0)
    (locks : ∀ state entry result, lock state entry = .ok result → ∃ account amount,
          ArenaVaultV2.LockEffect deployment state result sessionId account amount)
    (run : entries.foldlM lock opened = .ok after) :
    CustodySteps deployment opened after := by
  have kept : CustodySteps deployment opened after ∧
      (after.vault.sessions sessionId).openedAt ≠ 0 := by
    refine foldlM_preserves (motive := fun state =>
          CustodySteps deployment opened state ∧ (state.vault.sessions sessionId).openedAt ≠ 0)
        ?_ ⟨.refl, started⟩ run
    rintro state entry result - ⟨steps, stillOpened⟩ locked
    obtain ⟨account, amount, effect⟩ := locks state entry result locked
    refine ⟨steps.tail (.locked stillOpened effect), ?_⟩
    have sessions : result.vault.sessions = state.vault.sessions := by
      have same := congrArg (fun world => world.vault.sessions) effect.frame
      exact same
    rw [sessions]
    exact stillOpened
  exact kept.1

theorem of_releases {players : List SettlementPlayer}
    (run : players.foldlM (ArenaVaultV2.releaseRow deployment msg sessionId) before = .ok after) :
    CustodySteps deployment before after := by
  refine foldlM_preserves (motive := CustodySteps deployment before) ?_ .refl run
  rintro state row result - steps released
  obtain ⟨releasable, tokens, -, rfl⟩ := ArenaVaultV2.releaseRow_eq_ok_iff_pays.mp released
  exact steps.tail (.released releasable)

theorem of_settle {players : List SettlementPlayer} {rake : Nat}
    (run : ArenaVaultV2.settleSession deployment msg before sessionId players rake = .ok after) :
    CustodySteps deployment before after := by
  obtain ⟨-, -, -, -, released, releases, closed, close, notified⟩ :=
    ArenaVaultV2.settleSession_eq_ok_iff.mp run
  obtain ⟨-, rfl⟩ := ArenaVaultV2.notifyLifecycleSettled_eq_ok_iff.mp notified
  rw [ArenaVaultV2.hooked_frame]
  exact ((of_releases releases).tail (.closed close)).trans of_lifecycle

theorem of_exit {player : Address} {tableBalance : Nat}
    (run : ArenaVaultV2.payoutEmergencyExit deployment msg before sessionId player
        tableBalance = .ok after) :
    CustodySteps deployment before after := by
  obtain ⟨releasable, -, tokens, -, rfl⟩ := ArenaVaultV2.payoutEmergencyExit_eq_ok_iff.mp run
  rw [ArenaVaultV2.hooked_frame]
  have marked : CustodyStep deployment before (ArenaVaultV2.markClaimed before sessionId player) :=
    .quiet (Quiet.of_vault rfl)
  have stillReleasable : ArenaVaultV2.Releasable deployment
      (ArenaVaultV2.markClaimed before sessionId player) sessionId player
      tableBalance := by
    obtain ⟨locked, total, custodian, opened, exposed⟩ := releasable
    exact ⟨locked, total, custodian, opened, exposed⟩
  exact ((Relation.ReflTransGen.single marked).tail (.released stillReleasable)).trans of_lifecycle

theorem of_effect {operation : Operation} (effect : Effect deployment operation before after) :
    CustodySteps deployment before after := by
  cases effect with
  | quiet unchanged => exact .single (.quiet unchanged)
  | funded run =>
    obtain ⟨opened, funded, openedAs, locks, notified⟩ :=
      ArenaVaultV2.sealAndFundSession_eq_ok run
    rw [ArenaVaultV2.notifyLifecycleSealed_frame notified]
    have steps :
        CustodySteps deployment opened funded := by
      refine of_locks openedAs.started ?_ locks
      intro state entry result locked
      exact ⟨_, _, (ArenaVaultV2.lockFromTicketV3_eq_ok locked).1⟩
    exact ((Relation.ReflTransGen.single (.opened openedAs.effect)).trans
        steps).trans of_lifecycle
  | opened run =>
    obtain ⟨opened, openedAs, locks⟩ := ArenaVaultV2.openSession_eq_ok run
    have steps :
        CustodySteps deployment opened after := by
      refine of_locks openedAs.started ?_ locks
      intro state entry result locked
      exact ⟨_, _, ArenaVaultV2.lockFromTicket_eq_ok locked⟩
    exact (Relation.ReflTransGen.single (.opened openedAs.effect)).trans steps
  | toppedUp run =>
    obtain ⟨opened, effect⟩ := ArenaVaultV2.topUpSession_eq_ok run
    exact .single (.locked opened effect)
  | rebought run =>
    obtain ⟨participant, effect⟩ := ArenaVaultV2.rebuySession_eq_ok run
    exact .single (.raised participant effect)
  | settled recorded run =>
    exact (Relation.ReflTransGen.single (.quiet recorded)).trans (of_settle run)
  | withdrew run =>
    obtain ⟨-, ledger, -, frame⟩ := ArenaVaultV2.withdrawProtocolFees_eq_ok run
    have factory := congrArg World.factory frame
    have accounts := congrArg World.accounts frame
    exact .single (.feesPaid ledger factory accounts)
  | exited ready run => exact of_exit run

end CustodySteps

namespace World

variable {deployment : Deployment} {world : World}

/-- One accepted call keeps the contracts consistent. -/
theorem Consistent.step_protocol {after : World} {call : ExternalCall deployment}
    (consistent : world.Consistent deployment)
    (accepted : (protocol deployment).step world call = .ok after) :
    after.Consistent deployment :=
  consistent.steps (CustodySteps.of_effect
      (Effect.of_stepOperation consistent.registered call.outside accepted))

/-- The contracts are consistent in every reachable world. -/
theorem Reachable.consistent (reached : Reachable deployment world) :
    world.Consistent deployment :=
  System.Reachable.invariant (fun _ initial => Consistent.initially initial)
    (fun _ _ _ holds _ accepted => holds.step_protocol accepted) reached

end World

end Mozetto.Chain
