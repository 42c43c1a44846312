import Mozetto.Chain.Consistency

/-!
# When settlements and exits are accepted

In a consistent world the accounts add nothing to the vault's own checks but
one: an account whose lock is zero has forgotten the session, so that even a
release of zero reverts.  Settlements and exits are accepted exactly under
the conditions collected here.
-/

namespace Mozetto.Chain

open Mozetto.Library.Mapping

namespace World

variable {deployment : Deployment} {before world : World}
variable {sessionId : Bytes32}

/-- An account holds exposure for the vault exactly while its lock is positive. -/
theorem Consistent.exposure_of_locked {account : Address} (consistent : world.Consistent deployment)
    (positive : world.vault.lockedBySession sessionId account ≠ 0) :
    (world.accounts account).sessionVault sessionId = deployment.vault ∧
      (world.accounts account).sessionExposure sessionId =
        world.vault.lockedBySession sessionId account := by
  have mirror := congrFun (congrFun consistent.mirror sessionId) account
  simp only [held, ArenaAccount.heldFor] at mirror
  by_cases custodian : (world.accounts account).sessionVault sessionId = deployment.vault
  · rw [if_pos custodian] at mirror
    exact ⟨custodian, mirror⟩
  · rw [if_neg custodian] at mirror
    exact absurd mirror.symm positive

/-- A part of a lock can be released exactly while the lock is positive. -/
theorem Consistent.releasable_iff {account : Address} {amount : Nat}
    (consistent : world.Consistent deployment) :
    ArenaVaultV2.Releasable deployment world sessionId account amount ↔
      amount ≤ world.vault.lockedBySession sessionId account ∧
        world.vault.lockedBySession sessionId account ≠ 0 := by
  constructor
  · rintro ⟨locked, -, custodian, opened, -⟩
    refine ⟨locked, ?_⟩
    have mirror := congrFun (congrFun consistent.mirror sessionId) account
    simp only [held, ArenaAccount.heldFor, custodian, if_true] at mirror
    rw [← mirror]
    exact opened
  · rintro ⟨locked, positive⟩
    obtain ⟨custodian, exposure⟩ := consistent.exposure_of_locked positive
    have total := consistent.formed.locked_le_total sessionId account
    simp only [ArenaVaultV2.ledger] at total
    constructor
    · exact locked
    · omega
    · exact custodian
    · rw [exposure]
      exact positive
    · rw [exposure]
      exact locked

/-- The rows of an accepted payload are payees the vault may pay. -/
theorem payees_of_payload {sessionId : Bytes32} {players : List SettlementPlayer} {rake : Nat}
    (registered : before.Registered deployment)
    (payload : ArenaVaultV2.Payload before sessionId players rake) :
    ArenaVaultV2.Payees deployment players where
  nodup := payload.nodup
  ne_zero := fun row member => (payload.rows row member).ne_zero
  ne_vault := fun row member =>
    registered.ne_vault (payload.rows row member).registered

/-- Exactly when a settlement of the vault goes through. -/
theorem Consistent.exists_settleSession_iff
    {msg : Msg} {players : List SettlementPlayer} {rake : Nat}
    (consistent : world.Consistent deployment) : (∃ after,
    ArenaVaultV2.settleSession deployment msg world sessionId players rake = .ok after) ↔
    msg.sender = world.vault.settlementHub ∧ (world.vault.sessions sessionId).openedAt ≠ 0 ∧
      (world.vault.sessions sessionId).settled = false ∧
      ArenaVaultV2.Payload world sessionId players rake ∧ (∀ row ∈ players, row.startLocked ≠ 0) ∧
      endTotal players ≤ world.usdcBalance deployment ∧ (rake = 0 ∨
        world.vault.accruedProtocolFees + rake < uint256Size) ∧
      ArenaVaultV2.hookAccepts deployment world sessionId := by
  simp only [ArenaVaultV2.settleSession_eq_ok_iff]
  constructor
  · rintro ⟨after, caller, opened, unsettled, payload, released, releases, closed, close, notified⟩
    have payees := payees_of_payload consistent.registered payload
    obtain ⟨releasable, enough⟩ :=
      (ArenaVaultV2.exists_releaseRows_iff payees).mp ⟨released, releases⟩
    have frame := (ArenaVaultV2.releaseRows_eq_ok payees releases).frame
    obtain ⟨fits, rfl⟩ := ArenaVaultV2.closeSession_eq_ok_iff.mp close
    obtain ⟨accepts, -⟩ := ArenaVaultV2.notifyLifecycleSettled_eq_ok_iff.mp notified
    rw [frame] at fits accepts
    refine ⟨caller, opened, unsettled, payload, ?_, enough, fits, accepts⟩
    intro row member
    have positive := (consistent.releasable_iff.mp (releasable row member)).2
    rwa [(payload.rows row member).locked] at positive
  · rintro ⟨caller, opened, unsettled, payload, positive, enough, fits, accepts⟩
    have payees := payees_of_payload consistent.registered payload
    have releasable : ∀ row ∈ players, ArenaVaultV2.Releasable deployment world sessionId row.user
          row.startLocked := by
      intro row member
      have locked := (payload.rows row member).locked
      apply consistent.releasable_iff.mpr
      constructor
      · exact locked.ge
      · rw [locked]
        exact positive row member
    have run : ∃ released, players.foldlM (ArenaVaultV2.releaseRow deployment msg sessionId)
          world = .ok released :=
      (ArenaVaultV2.exists_releaseRows_iff payees).mpr ⟨releasable, enough⟩
    obtain ⟨released, releases⟩ := run
    have frame := (ArenaVaultV2.releaseRows_eq_ok payees releases).frame
    have fitsReleased : rake = 0 ∨ released.vault.accruedProtocolFees + rake < uint256Size := by
      rw [frame]
      exact fits
    have acceptsReleased :
        ArenaVaultV2.hookAccepts deployment
          { released with
            vault := { released.vault with
              accruedProtocolFees := released.vault.accruedProtocolFees + rake
              sessions :=
                write released.vault.sessions sessionId
                  { released.vault.sessions sessionId with
                    settled := true } } }
          sessionId := by
      rw [frame]
      exact accepts
    exact ⟨_, caller, opened, unsettled, payload, released, releases, _,
        ArenaVaultV2.closeSession_eq_ok_iff.mpr ⟨fitsReleased, rfl⟩,
        ArenaVaultV2.notifyLifecycleSettled_eq_ok_iff.mpr ⟨acceptsReleased, rfl⟩⟩

/-- Exactly when the payout of an exit goes through. -/
theorem Consistent.exists_payoutEmergencyExit_iff
    {msg : Msg} {player : Address} {tableBalance : Nat}
    (consistent : world.Consistent deployment) (nonzero : player ≠ 0) : (∃ after,
    ArenaVaultV2.payoutEmergencyExit deployment msg world sessionId player
      tableBalance = .ok after) ↔ tableBalance ≤ world.vault.lockedBySession sessionId player ∧
      world.vault.lockedBySession sessionId player ≠ 0 ∧
      tableBalance ≤ world.usdcBalance deployment ∧
      ArenaVaultV2.hookAccepts deployment world sessionId := by
  simp only [ArenaVaultV2.payoutEmergencyExit_eq_ok_iff,
    consistent.releasable_iff, Tokens.transfer_eq_ok_iff]
  constructor
  · rintro ⟨after, ⟨locked, positive⟩, accepts, tokens, ⟨-, enough, -⟩, -⟩
    exact ⟨locked, positive, enough, accepts⟩
  · rintro ⟨locked, positive, enough, accepts⟩
    exact ⟨_, ⟨locked, positive⟩, accepts, _, ⟨nonzero, enough, rfl⟩, rfl⟩

end World

end Mozetto.Chain
