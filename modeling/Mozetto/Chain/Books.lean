import Mozetto.Chain.Consistency
import Mozetto.Library.FiniteTotals

/-!
# The books of the vault and of the accounts

The vault keeps locks, their totals and a participant count; every account
keeps its exposures, their sum and their number.  Each of the books is exact
in every reachable world, so that the saturating branches of
`releaseExposure` never lose anything.
-/

namespace Mozetto.Chain

open Mozetto.Library.Guarded
open Mozetto.Library.Mapping
open Mozetto.Library.CustodyLedger
open Mozetto.Library.TransitionSystem
open Mozetto.Library.FiniteTotals

/-! ## The books of one account -/

/-- The counters of an account are exact. -/
structure ArenaAccount.Balanced (account : ArenaAccount) : Prop where
  atRisk : SumsTo account.sessionExposure account.gameAuth.activeAtRisk
  games : Counts (fun sessionId => account.sessionExposure sessionId ≠ 0)
      account.gameAuth.activeGames

namespace ArenaAccount

theorem balanced_initializeAccount (owner factory : Address) :
    (initializeAccount owner factory).Balanced where
  atRisk := sumsTo_zero
  games := Counts.none fun _ exposed => exposed rfl

namespace Balanced

variable {account after : ArenaAccount} {sessionId : Bytes32}
variable {amount : Nat}

/-- The owner's calls keep exposures and counters. -/
theorem of_counters (balanced : account.Balanced)
    (exposure : after.sessionExposure = account.sessionExposure)
    (atRisk : after.gameAuth.activeAtRisk = account.gameAuth.activeAtRisk)
    (games : after.gameAuth.activeGames = account.gameAuth.activeGames) : after.Balanced where
  atRisk := by
    rw [exposure, atRisk]
    exact balanced.atRisk
  games := by
    rw [exposure, games]
    exact balanced.games

theorem setGamePermission {deployment : Deployment} {msg : Msg} {self : Address}
    {permission : GamePermission} (balanced : account.Balanced)
    (permitted : ArenaAccount.setGamePermission deployment msg self account permission =
        .ok after) :
    after.Balanced := by
  simp only [ArenaAccount.setGamePermission, bind_eq_ok_iff,
    revertIf_eq_ok_iff, checkedAdd_eq_ok_iff, exists_const] at permitted
  rcases permitted with ⟨-, -, nonce, -, permitted⟩
  split at permitted
  · simp only [pure_eq_ok_iff] at permitted
    subst permitted
    exact balanced.of_counters rfl rfl rfl
  · simp only [bind_eq_ok_iff, revertIf_eq_ok_iff, pure_eq_ok_iff, exists_const] at permitted
    rcases permitted with ⟨-, -, -, -, -, rfl⟩
    exact balanced.of_counters rfl rfl rfl

theorem revokeGamePermission {msg : Msg} (balanced : account.Balanced)
    (revoked : ArenaAccount.revokeGamePermission msg account = .ok after) :
    after.Balanced := by
  simp only [ArenaAccount.revokeGamePermission, bind_eq_ok_iff,
    revertIf_eq_ok_iff, pure_eq_ok_iff, exists_const] at revoked
  rcases revoked with ⟨-, rfl⟩
  exact balanced.of_counters rfl rfl rfl

theorem lockBuyIn {msg : Msg} {self : Address} {tokens : Tokens} {buyIn : Nat}
    {gameTemplateId : Bytes32} {leagueBit : Nat} {rated : Bool} {result : ArenaAccount × Tokens}
    (balanced : account.Balanced)
    (locked : ArenaAccount.lockBuyIn msg self account tokens sessionId buyIn
        gameTemplateId leagueBit rated = .ok result) :
    result.1.Balanced := by
  rcases lockBuyIn_eq_ok locked with ⟨positive, -, closed, -, equal⟩
  rw [equal]
  constructor
  · apply balanced.atRisk.credit
    · show write account.sessionExposure sessionId buyIn sessionId = _
      rw [write_self, closed, Nat.zero_add]
    · intro other ne
      exact write_of_ne _ _ ne
  · apply balanced.games.gain
    · exact not_not.mpr closed
    · show write account.sessionExposure sessionId buyIn sessionId ≠ 0
      rw [write_self]
      exact positive
    · intro other ne
      show write account.sessionExposure sessionId buyIn other ≠ 0 ↔ _
      rw [write_of_ne _ _ ne]

theorem increaseBuyIn {msg : Msg} {self : Address} {tokens : Tokens} {buyIn : Nat}
    {gameTemplateId : Bytes32} {leagueBit : Nat} {rated : Bool} {result : ArenaAccount × Tokens}
    (balanced : account.Balanced)
    (increased : ArenaAccount.increaseBuyIn msg self account tokens sessionId buyIn
        gameTemplateId leagueBit rated = .ok result) :
    result.1.Balanced := by
  rcases increaseBuyIn_eq_ok increased with ⟨opened, -, -, -, equal⟩
  rw [equal]
  constructor
  · apply balanced.atRisk.credit
    · exact write_self account.sessionExposure sessionId _
    · intro other ne
      exact write_of_ne _ _ ne
  · apply balanced.games.congr
    intro other
    by_cases same : other = sessionId
    · subst same
      simp only [write_self]
      constructor
      · intro _
        exact opened
      · intro _
        omega
    · simp only [write_of_ne _ _ same]

/-- Of a balanced account, releasing subtracts exactly. -/
theorem lowerExposure_counters (balanced : account.Balanced)
    (opened : account.sessionExposure sessionId ≠ 0)
    (enough : amount ≤ account.sessionExposure sessionId) :
    (account.lowerExposure sessionId amount).gameAuth.activeAtRisk + amount =
        account.gameAuth.activeAtRisk ∧
      (account.lowerExposure sessionId amount).gameAuth.activeGames +
          (if account.sessionExposure sessionId = amount then 1 else 0) =
        account.gameAuth.activeGames := by
  have within := balanced.atRisk.entry_le sessionId
  have playing := balanced.games.pos opened
  unfold lowerExposure
  by_cases last : account.sessionExposure sessionId = amount
  · have zero : account.sessionExposure sessionId - amount = 0 := by
      omega
    rw [if_pos last]
    by_cases whole : account.gameAuth.activeAtRisk ≤ amount
    · simp only [zero, if_true, whole, playing]
      omega
    · simp only [zero, if_true, whole, if_false, playing]
      omega
  · have remaining : ¬ account.sessionExposure sessionId - amount = 0 := by
      omega
    rw [if_neg last]
    by_cases whole : account.gameAuth.activeAtRisk ≤ amount
    · simp only [remaining, if_false, whole, if_true]
      omega
    · simp only [remaining, if_false, whole]
      omega

theorem lowerExposure (balanced : account.Balanced) (opened : account.sessionExposure sessionId ≠ 0)
    (enough : amount ≤ account.sessionExposure sessionId) :
    (account.lowerExposure sessionId amount).Balanced := by
  rcases balanced.lowerExposure_counters opened enough with ⟨atRisk, games⟩
  constructor
  · have lowered : (account.lowerExposure sessionId amount).gameAuth.activeAtRisk =
        account.gameAuth.activeAtRisk - amount := by
      omega
    rw [lowered, lowerExposure_sessionExposure]
    apply balanced.atRisk.debit enough (write_self _ _ _)
    intro other ne
    exact write_of_ne _ _ ne
  · rw [lowerExposure_sessionExposure]
    by_cases last : account.sessionExposure sessionId = amount
    · rw [if_pos last] at games
      have lowered : (account.lowerExposure sessionId amount).gameAuth.activeGames =
          account.gameAuth.activeGames - 1 := by
        omega
      rw [lowered]
      apply balanced.games.lose opened
      · rw [write_self, last, Nat.sub_self]
        exact not_not.mpr rfl
      · intro other ne
        rw [write_of_ne _ _ ne]
    · rw [if_neg last, Nat.add_zero] at games
      rw [games]
      apply balanced.games.congr
      intro other
      by_cases same : other = sessionId
      · subst same
        rw [write_self]
        constructor
        · intro _
          exact opened
        · intro _
          omega
      · rw [write_of_ne _ _ same]

end Balanced

end ArenaAccount

/-! ## The books of all accounts -/

/-- The counters of every account are exact. -/
def World.Balanced (world : World) : Prop := ∀ account, (world.accounts account).Balanced

namespace World.Balanced

variable {deployment : Deployment} {msg : Msg} {world after : World}
variable {sessionId : Bytes32}

/-- Calls that leave the accounts alone keep their books. -/
theorem of_accounts (balanced : world.Balanced) (accounts : after.accounts = world.accounts) :
    after.Balanced := by
  intro account
  rw [accounts]
  exact balanced account

/-- Calls that replace one account by a balanced one. -/
theorem of_write {target : Address} {record : ArenaAccount}
    (balanced : world.Balanced) (kept : record.Balanced)
    (accounts : after.accounts = write world.accounts target record) :
    after.Balanced := by
  intro account
  rw [accounts]
  by_cases same : account = target
  · rw [same, write_self]
    exact kept
  · rw [write_of_ne _ _ same]
    exact balanced account

/-! ### Locks -/

theorem callLockBuyIn {account : Address} {amount : Nat} {gameTemplateId : Bytes32}
    {leagueBit : Nat} {rated : Bool} (balanced : world.Balanced)
    (called : ArenaVaultV2.callLockBuyIn deployment msg world account sessionId
        amount gameTemplateId leagueBit rated = .ok after) :
    after.Balanced := by
  simp only [ArenaVaultV2.callLockBuyIn, bind_eq_ok_iff, pure_eq_ok_iff] at called
  rcases called with ⟨result, locked, rfl⟩
  exact balanced.of_write ((balanced account).lockBuyIn locked) rfl

theorem callIncreaseBuyIn {account : Address} {amount : Nat} {gameTemplateId : Bytes32}
    {leagueBit : Nat} {rated : Bool} (balanced : world.Balanced)
    (called : ArenaVaultV2.callIncreaseBuyIn deployment msg world account sessionId
        amount gameTemplateId leagueBit rated = .ok after) :
    after.Balanced := by
  simp only [ArenaVaultV2.callIncreaseBuyIn, bind_eq_ok_iff, pure_eq_ok_iff] at called
  rcases called with ⟨result, increased, rfl⟩
  exact balanced.of_write ((balanced account).increaseBuyIn increased) rfl

theorem lockFromTicketV3 {templateId : Bytes32} {ticket : SeatTicketV3} {signature : Bytes}
    (balanced : world.Balanced)
    (ok : ArenaVaultV2.lockFromTicketV3 deployment msg world sessionId templateId
        ticket signature = .ok after) :
    after.Balanced := by
  simp only [ArenaVaultV2.lockFromTicketV3, bind_eq_ok_iff,
    revertIf_eq_ok_iff, pure_eq_ok_iff, exists_const] at ok
  rcases ok with ⟨-, -, -, -, -, -, -, -, -, -, -, -, paid, called, credited, -, seated, -, rfl⟩
  have used :
      World.Balanced
        { world with
          vault :=
            ArenaVaultV2.useNonce world.vault ticket.arenaAccount ticket.nonce } :=
    balanced.of_accounts rfl
  exact (used.callLockBuyIn called).of_accounts rfl

theorem lockFromTicket {templateId : Bytes32} {ticket : SeatTicket} {signature : Bytes}
    (balanced : world.Balanced)
    (ok : ArenaVaultV2.lockFromTicket deployment msg world sessionId templateId
        ticket signature = .ok after) :
    after.Balanced := by
  simp only [ArenaVaultV2.lockFromTicket, bind_eq_ok_iff,
    revertIf_eq_ok_iff, pure_eq_ok_iff, exists_const] at ok
  rcases ok with ⟨-, -, -, -, -, -, -, done, -, paid, called, credited, -, seated, -, rfl⟩
  have used :
      World.Balanced
        { world with
          vault := ArenaVaultV2.useNonce world.vault ticket.player ticket.nonce } :=
    balanced.of_accounts rfl
  exact (used.callLockBuyIn called).of_accounts rfl

theorem rebuyFromTicket {templateId : Bytes32} {ticket : SeatTicket} {signature : Bytes}
    (balanced : world.Balanced)
    (ok : ArenaVaultV2.rebuyFromTicket deployment msg world sessionId templateId
        ticket signature = .ok after) :
    after.Balanced := by
  simp only [ArenaVaultV2.rebuyFromTicket, bind_eq_ok_iff,
    revertIf_eq_ok_iff, pure_eq_ok_iff, exists_const] at ok
  rcases ok with ⟨-, -, -, -, -, -, done, -, paid, called, credited, -, rfl⟩
  have used :
      World.Balanced
        { world with
          vault := ArenaVaultV2.useNonce world.vault ticket.player ticket.nonce } :=
    balanced.of_accounts rfl
  exact (used.callIncreaseBuyIn called).of_accounts rfl

/-- A fold of locks keeps the books of all accounts. -/
theorem locks {ι : Type} {entries : List ι} {lock : World → ι → Except Revert World}
    (balanced : world.Balanced)
    (each : ∀ state entry result, state.Balanced → lock state entry = .ok result → result.Balanced)
    (run : entries.foldlM lock world = .ok after) :
    after.Balanced :=
  foldlM_preserves (motive := World.Balanced)
    (fun state entry result _ => each state entry result) balanced run

theorem sealAndFundSession {descriptor : SessionDescriptor} {tickets : List SeatTicketV3}
    {signatures : List Bytes} (balanced : world.Balanced)
    (ok : ArenaVaultV2.sealAndFundSession deployment msg world descriptor tickets
        signatures = .ok after) :
    after.Balanced := by
  rcases ArenaVaultV2.sealAndFundSession_eq_ok ok with ⟨opened, funded, openedAs, run, notified⟩
  have begun := balanced.of_accounts openedAs.effect.accounts
  have locked := begun.locks (fun _ _ _ kept lock => kept.lockFromTicketV3 lock) run
  rw [ArenaVaultV2.notifyLifecycleSealed_frame notified]
  exact locked.of_accounts rfl

theorem openSession {config : SessionConfig} {tickets : List SeatTicket} {signatures : List Bytes}
    (balanced : world.Balanced)
    (ok : ArenaVaultV2.openSession deployment msg world config tickets signatures = .ok after) :
    after.Balanced := by
  rcases ArenaVaultV2.openSession_eq_ok ok with ⟨opened, openedAs, run⟩
  have begun := balanced.of_accounts openedAs.effect.accounts
  exact begun.locks (fun _ _ _ kept lock => kept.lockFromTicket lock) run

theorem topUpSession {ticket : SeatTicket} {signature : Bytes} (balanced : world.Balanced)
    (ok : ArenaVaultV2.topUpSession deployment msg world sessionId ticket signature = .ok after) :
    after.Balanced := by
  simp only [ArenaVaultV2.topUpSession, bind_eq_ok_iff] at ok
  rcases ok with ⟨-, -, -, -, -, -, locked⟩
  exact balanced.lockFromTicket locked

theorem rebuySession {ticket : SeatTicket} {signature : Bytes} (balanced : world.Balanced)
    (ok : ArenaVaultV2.rebuySession deployment msg world sessionId ticket signature = .ok after) :
    after.Balanced := by
  simp only [ArenaVaultV2.rebuySession, bind_eq_ok_iff] at ok
  rcases ok with ⟨-, -, -, -, -, -, -, -, raised⟩
  exact balanced.rebuyFromTicket raised

/-! ### Releases -/

theorem releasedWorld {account : Address} {amount : Nat} (balanced : world.Balanced)
    (releasable : ArenaVaultV2.Releasable deployment world sessionId account amount) :
    (ArenaVaultV2.releasedWorld world sessionId account amount).Balanced :=
  balanced.of_write ((balanced account).lowerExposure releasable.opened releasable.exposed) rfl

theorem settleSession {players : List SettlementPlayer} {rake : Nat} (balanced : world.Balanced)
    (ok : ArenaVaultV2.settleSession deployment msg world sessionId players rake = .ok after) :
    after.Balanced := by
  rcases ArenaVaultV2.settleSession_eq_ok_iff.mp ok with
    ⟨-, -, -, -, released, releases, closed, close, notified⟩
  rcases ArenaVaultV2.notifyLifecycleSettled_eq_ok_iff.mp notified with ⟨-, rfl⟩
  have lowered : released.Balanced := by
    apply balanced.locks _ releases
    intro state row result kept release
    rcases ArenaVaultV2.releaseRow_eq_ok_iff_pays.mp release with ⟨releasable, tokens, -, rfl⟩
    exact (kept.releasedWorld releasable).of_accounts rfl
  rw [ArenaVaultV2.hooked_frame]
  exact lowered.of_accounts rfl

theorem payoutEmergencyExit {player : Address} {tableBalance : Nat} (balanced : world.Balanced)
    (ok : ArenaVaultV2.payoutEmergencyExit deployment msg world sessionId player
        tableBalance = .ok after) :
    after.Balanced := by
  rcases ArenaVaultV2.payoutEmergencyExit_eq_ok_iff.mp ok with ⟨releasable, -, tokens, -, rfl⟩
  rw [ArenaVaultV2.hooked_frame]
  exact (balanced.releasedWorld releasable).of_accounts rfl

/-! ### All operations -/

theorem stepAccount {target : Address} {call : AccountCall} (balanced : world.Balanced)
    (ok : world.stepAccount deployment msg target call = .ok after) :
    after.Balanced := by
  cases call with
  | setGamePermission permission =>
    simp only [World.stepAccount, bind_eq_ok_iff, pure_eq_ok_iff] at ok
    rcases ok with ⟨record, permitted, rfl⟩
    exact balanced.of_write ((balanced target).setGamePermission permitted) rfl
  | revokeGamePermission =>
    simp only [World.stepAccount, bind_eq_ok_iff, pure_eq_ok_iff] at ok
    rcases ok with ⟨record, revoked, rfl⟩
    exact balanced.of_write ((balanced target).revokeGamePermission revoked) rfl
  | emergencyInvalidatePermissions =>
    simp only [World.stepAccount, bind_eq_ok_iff, pure_eq_ok_iff] at ok
    rcases ok with ⟨record, revoked, rfl⟩
    exact balanced.of_write ((balanced target).revokeGamePermission revoked) rfl
  | transferOwnership newOwner =>
    simp only [World.stepAccount, ArenaAccount.transferOwnership,
      bind_eq_ok_iff, revertIf_eq_ok_iff, pure_eq_ok_iff, exists_const] at ok
    rcases ok with ⟨record, ⟨-, -, rfl⟩, rfl⟩
    refine balanced.of_write ?_ rfl
    exact (balanced target).of_counters rfl rfl rfl
  | acceptOwnership =>
    simp only [World.stepAccount, ArenaAccountFactory.acceptOwnership,
      bind_eq_ok_iff, revertIf_eq_ok_iff, pure_eq_ok_iff, exists_const] at ok
    rcases ok with ⟨result, ⟨-, synced, -, rfl⟩, rfl⟩
    refine balanced.of_write ?_ rfl
    exact (balanced target).of_counters rfl rfl rfl
  | withdraw token amount recipient =>
    simp only [World.stepAccount, bind_eq_ok_iff, pure_eq_ok_iff] at ok
    rcases ok with ⟨tokens, -, rfl⟩
    exact balanced.of_accounts rfl
  | lockBuyIn sessionId buyIn gameTemplateId leagueBit rated =>
    simp only [World.stepAccount, bind_eq_ok_iff, pure_eq_ok_iff] at ok
    rcases ok with ⟨result, locked, rfl⟩
    exact balanced.of_write ((balanced target).lockBuyIn locked) rfl
  | increaseBuyIn sessionId buyIn gameTemplateId leagueBit rated =>
    simp only [World.stepAccount, bind_eq_ok_iff, pure_eq_ok_iff] at ok
    rcases ok with ⟨result, increased, rfl⟩
    exact balanced.of_write ((balanced target).increaseBuyIn increased) rfl
  | releaseExposure sessionId amount =>
    simp only [World.stepAccount, bind_eq_ok_iff, pure_eq_ok_iff] at ok
    rcases ok with ⟨record, released, rfl⟩
    rcases ArenaAccount.releaseExposure_eq_ok_iff.mp released with ⟨-, opened, enough, rfl⟩
    exact balanced.of_write ((balanced target).lowerExposure opened enough) rfl

theorem stepVault {call : VaultCall} (balanced : world.Balanced)
    (ok : world.stepVault deployment msg call = .ok after) :
    after.Balanced := by
  cases call with
  | sealAndFundSession descriptor tickets signatures =>
    exact balanced.sealAndFundSession ok
  | openSession config tickets signatures => exact balanced.openSession ok
  | topUpSession sessionId ticket signature => exact balanced.topUpSession ok
  | rebuySession sessionId ticket signature => exact balanced.rebuySession ok
  | applyCheckpoint sessionId sequence balanceRoot =>
    rcases ArenaVaultV2.applyCheckpoint_eq_ok_iff.mp ok with ⟨-, -, -, -, rfl⟩
    exact balanced.of_accounts rfl
  | settleSession sessionId players rake => exact balanced.settleSession ok
  | withdrawProtocolFees amount =>
    rcases ArenaVaultV2.withdrawProtocolFees_eq_ok ok with ⟨-, -, -, frame⟩
    have accounts := congrArg World.accounts frame
    exact balanced.of_accounts accounts
  | emergencyExit sessionId player tableBalance lastSequence proof =>
    rcases ArenaVaultV2.emergencyExit_eq_ok_iff.mp ok with ⟨-, -, -, -, paid⟩
    exact balanced.payoutEmergencyExit paid
  | emergencyExitWithBalanceLeaf sessionId claim proof siblingIsLeft =>
    rcases ArenaVaultV2.emergencyExitWithBalanceLeaf_eq_ok_iff.mp ok with ⟨-, -, -, -, -, -, paid⟩
    exact balanced.payoutEmergencyExit paid
  | admin call =>
    simp only [World.stepVault, bind_eq_ok_iff, pure_eq_ok_iff] at ok
    rcases ok with ⟨vault, -, rfl⟩
    exact balanced.of_accounts rfl

theorem settleWith {settlement : FinalSettlementV3} {players : List SettlementPlayer}
    {proof : Bytes} {verifierPolicyId : Bytes32} (balanced : world.Balanced)
    (ok : PokerSettlementHubV3.settleWith deployment msg world settlement players
        proof verifierPolicyId = .ok after) :
    after.Balanced := by
  simp only [PokerSettlementHubV3.settleWith, bind_eq_ok_iff,
    revertIf_eq_ok_iff, exists_const] at ok
  rcases ok with ⟨-, -, sums, -, -, -, -, -, -, recorded, -, checkpointed, checkpoint, settled⟩
  have middle : checkpointed.Balanced := by
    rcases ArenaVaultV2.applyCheckpoint_eq_ok_iff.mp checkpoint with ⟨-, -, -, -, rfl⟩
    exact balanced.of_accounts rfl
  exact middle.settleSession settled

theorem stepHub {call : HubCall} (balanced : world.Balanced)
    (ok : world.stepHub deployment msg call = .ok after) :
    after.Balanced := by
  cases call with
  | settle settlement players signatures verifierPolicyId =>
    exact balanced.settleWith ok
  | settleWithProof settlement players proof verifierPolicyId =>
    exact balanced.settleWith ok
  | emergencyRelease sessionId player tableBalance lastSequence proof =>
    rcases ArenaVaultV2.emergencyExit_eq_ok_iff.mp ok with ⟨-, -, -, -, paid⟩
    exact balanced.payoutEmergencyExit paid
  | emergencyReleaseWithBalanceLeaf sessionId claim proof siblingIsLeft =>
    rcases ArenaVaultV2.emergencyExitWithBalanceLeaf_eq_ok_iff.mp ok with ⟨-, -, -, -, -, -, paid⟩
    exact balanced.payoutEmergencyExit paid
  | admin call =>
    simp only [World.stepHub, bind_eq_ok_iff, pure_eq_ok_iff] at ok
    rcases ok with ⟨hub, -, rfl⟩
    exact balanced.of_accounts rfl

/-- Every accepted operation keeps the books of all accounts. -/
theorem stepOperation {operation : Operation} (balanced : world.Balanced)
    (ok : world.stepOperation deployment msg operation = .ok after) :
    after.Balanced := by
  cases operation with
  | createAccount owner =>
    simp only [World.stepOperation, bind_eq_ok_iff, pure_eq_ok_iff] at ok
    rcases ok with ⟨result, created, rfl⟩
    rcases ArenaAccountFactory.createAccount_ownerOf created with
      equal | ⟨-, -, -, accounts⟩
    · rw [equal]
      exact balanced
    · exact balanced.of_write (ArenaAccount.balanced_initializeAccount _ _) accounts
  | account target call =>
    simp only [World.stepOperation, bind_eq_ok_iff, revertIf_eq_ok_iff, exists_const] at ok
    exact balanced.stepAccount ok.2
  | vault call => exact balanced.stepVault ok
  | hub call => exact balanced.stepHub ok
  | mint token recipient amount =>
    simp only [World.stepOperation, pure_eq_ok_iff] at ok
    subst ok
    exact balanced.of_accounts rfl
  | transfer | router | lifecycle | feeVault =>
    simp only [World.stepOperation, bind_eq_ok_iff, pure_eq_ok_iff] at ok
    rcases ok with ⟨changed, -, rfl⟩
    exact balanced.of_accounts rfl

end World.Balanced

/-! ## The totals of the vault -/

/-- The total of every account is the sum of its locks. -/
def World.Totalled (world : World) : Prop :=
  ∀ account, SumsTo (fun sessionId => world.vault.ledger.locked sessionId account)
      (world.vault.ledger.total account)

namespace World.Totalled

variable {deployment : Deployment} {before after : World}
variable {sessionId : Bytes32} {account : Address} {amount : Nat}

theorem of_locks {ledger : Ledger Bytes32 Address} (totalled : before.Totalled)
    (same : after.vault.ledger = ledger) (locked : ledger.locked = before.vault.ledger.locked)
    (total : ledger.total = before.vault.ledger.total) :
    after.Totalled := by
  intro entry
  rw [same, locked, total]
  exact totalled entry

/-- A raised lock raises the total of its account. -/
theorem raised {ledger : Ledger Bytes32 Address} (totalled : before.Totalled)
    (same : after.vault.ledger = ledger)
    (locked : ledger.locked = (before.vault.ledger.raise sessionId account amount).locked)
    (total : ledger.total = (before.vault.ledger.raise sessionId account amount).total) :
    after.Totalled := by
  intro entry
  rw [same, locked, total]
  by_cases same : entry = account
  · subst same
    have credited : SumsTo (fun other =>
          (before.vault.ledger.raise sessionId entry amount).locked other entry)
        (before.vault.ledger.total entry + amount) := by
      apply (totalled entry).credit
      · exact write₂_self before.vault.ledger.locked sessionId entry _
      · intro other ne
        exact write₂_of_ne _ _ (fun both => ne both.1)
    simpa [Ledger.raise] using credited
  · simpa [Ledger.raise, write, write₂, same] using totalled entry

/-- A released lock lowers the total of its account. -/
theorem released (totalled : before.Totalled)
    (enough : amount ≤ before.vault.ledger.locked sessionId account)
    (ledger : after.vault.ledger = before.vault.ledger.release sessionId account amount) :
    after.Totalled := by
  intro entry
  rw [ledger]
  by_cases same : entry = account
  · subst same
    have debited : SumsTo (fun other =>
          (before.vault.ledger.release sessionId entry amount).locked other entry)
        (before.vault.ledger.total entry - amount) := by
      apply (totalled entry).debit enough
      · exact write₂_self before.vault.ledger.locked sessionId entry _
      · intro other ne
        exact write₂_of_ne _ _ (fun both => ne both.1)
    simpa [Ledger.release] using debited
  · simpa [Ledger.release, write, write₂, same] using totalled entry

/-- Every elementary step of custody keeps the totals. -/
theorem step (totalled : before.Totalled) (taken : CustodyStep deployment before after) :
    after.Totalled := by
  cases taken with
  | quiet unchanged => exact totalled.of_locks unchanged.ledger rfl rfl
  | opened effect => exact totalled.of_locks effect.ledger rfl rfl
  | locked opened effect => exact totalled.raised effect.ledger rfl rfl
  | raised participant effect => exact totalled.raised effect.ledger rfl rfl
  | released releasable => exact totalled.released releasable.locked rfl
  | closed ok =>
    exact totalled.of_locks (ArenaVaultV2.closeSession_ledger ok) rfl rfl
  | feesPaid ledger factory accounts => exact totalled.of_locks ledger rfl rfl

theorem steps (totalled : before.Totalled) (taken : CustodySteps deployment before after) :
    after.Totalled := by
  induction taken with
  | refl => exact totalled
  | tail _ last kept => exact kept.step last

end World.Totalled

/-! ## All books -/

/-- The counters of the accounts and the totals of the vault are exact. -/
structure World.Booked (world : World) : Prop where
  balanced : world.Balanced
  totalled : world.Totalled

theorem World.Initial.booked {world : World} (initial : world.Initial) : world.Booked where
  balanced := by
    intro account
    rw [initial.accounts]
    exact ArenaAccount.balanced_initializeAccount 0 0
  totalled := by
    intro account
    have locked : world.vault.ledger.locked = fun _ _ => 0 := initial.lockedBySession
    have total : world.vault.ledger.total = fun _ => 0 := initial.totalLocked
    rw [locked, total]
    exact sumsTo_zero

theorem World.Reachable.booked {deployment : Deployment} {world : World}
    (reached : World.Reachable deployment world) :
    world.Booked := by
  refine reached.invariant_with (fun state arrived => World.Reachable.consistent arrived)
      (fun state initial => initial.booked) ?_
  rintro state call after consistent ⟨balanced, totalled⟩ _ accepted
  constructor
  · exact balanced.stepOperation accepted
  · exact totalled.steps (CustodySteps.of_effect
          (Effect.of_stepOperation consistent.registered call.outside accepted))

/-- What the five books say of each other. -/
structure BooksMirror (deployment : Deployment) (world : World) : Prop where
  exposure : ∀ sessionId account, world.vault.lockedBySession sessionId account =
        if (world.accounts account).sessionVault sessionId = deployment.vault then
          (world.accounts account).sessionExposure sessionId
        else 0
  totalLocked : ∀ account, SumsTo (fun sessionId => world.vault.lockedBySession sessionId account)
        (world.vault.totalLocked account)
  activeAtRisk : ∀ account, SumsTo (world.accounts account).sessionExposure
        (world.accounts account).gameAuth.activeAtRisk
  activeGames : ∀ account, Counts (fun sessionId =>
          (world.accounts account).sessionExposure sessionId ≠ 0)
        (world.accounts account).gameAuth.activeGames
  participants : ∀ sessionId, Counts (fun account =>
          world.vault.sessionParticipants sessionId account = true)
        (world.vault.sessionParticipantCount sessionId)
  released : ∀ (msg : Msg) account sessionId amount after,
      (world.accounts account).releaseExposure msg sessionId amount = .ok after →
        after.gameAuth.activeAtRisk + amount = (world.accounts account).gameAuth.activeAtRisk ∧
          after.gameAuth.activeGames + (if (world.accounts account).sessionExposure sessionId =
                  amount then 1 else 0) = (world.accounts account).gameAuth.activeGames

/--
In every reachable world the locks of the vault, their totals, the exposures
of the accounts and their counters agree, and no release is clamped.
-/
theorem books_mirror
    {deployment : Deployment} {world : World}
    (reached : World.Reachable deployment world) :
    BooksMirror deployment world := by
  have consistent := World.Reachable.consistent reached
  rcases World.Reachable.booked reached with ⟨balanced, totalled⟩
  constructor
  · intro sessionId account
    rw [← consistent.mirror]
    rfl
  · exact totalled
  · exact fun account => (balanced account).atRisk
  · exact fun account => (balanced account).games
  · intro sessionId
    rcases consistent.formed.roster sessionId with ⟨members, card, mem_iff⟩
    exact ⟨members, mem_iff, card⟩
  · intro msg account sessionId amount after released
    rcases ArenaAccount.releaseExposure_eq_ok_iff.mp released with
      ⟨-, opened, enough, rfl⟩
    exact (balanced account).lowerExposure_counters opened enough

/-- The books of a table with two players. -/
theorem books_mirror_pairedTable :
    ∃ world : World,
      world.vault.totalLocked (Example.accountOf 1) = 100 ∧
        BooksMirror Example.deployment world := by
  have start : World.Reachable Example.deployment (Example.world 0) :=
    .start (Example.initial_world 0)
  have observed :
      ((World.protocol Example.deployment).replay AnyCall (Example.world 0)
          Example.pairedTable).any
        (fun state =>
          state.vault.totalLocked (Example.accountOf 1) == 100) =
        true := by
    decide +kernel
  rcases start.exists_replay observed with ⟨world, reached, locked⟩
  exact ⟨world, beq_iff_eq.mp locked, books_mirror reached⟩

end Mozetto.Chain
