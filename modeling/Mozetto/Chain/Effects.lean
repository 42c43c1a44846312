import Mathlib.Logic.Relation
import Mozetto.Chain.Settlement

/-!
# Accepted calls as custody steps

Every accepted call either leaves custody alone or is one of the vault's
operations, and every operation of the vault is a sequence of elementary
custody steps.  The invariants of the deployment are then proved once, for
the elementary steps.
-/

namespace Mozetto.Chain

open Mozetto.Library.Mapping
open Mozetto.Library.CustodyLedger

/-- Every registered account has an address the factory computed. -/
def World.Registered (deployment : Deployment) (world : World) : Prop :=
  ∀ account, world.factory.ownerOf account ≠ 0 →
    ∃ salt, account = deployment.predictDeterministicAddress salt

theorem World.Registered.ne_vault {deployment : Deployment} {world : World} {account : Address}
    (registered : world.Registered deployment) (owned : world.factory.ownerOf account ≠ 0) :
    account ≠ deployment.vault := by
  obtain ⟨salt, rfl⟩ := registered account owned
  exact deployment.predict_ne_vault salt

theorem World.Registered.ne_zero {deployment : Deployment} {world : World} {account : Address}
    (registered : world.Registered deployment) (owned : world.factory.ownerOf account ≠ 0) :
    account ≠ 0 := by
  obtain ⟨salt, rfl⟩ := registered account owned
  exact deployment.predict_ne_zero salt

/-- A call that leaves the custody of the vault alone. -/
structure Quiet (deployment : Deployment) (before after : World) : Prop where
  ledger : after.vault.ledger = before.vault.ledger
  funds : before.usdcBalance deployment ≤ after.usdcBalance deployment
  owned : ∀ account, before.factory.ownerOf account ≠ 0 → after.factory.ownerOf account ≠ 0
  predicted : ∀ account, after.factory.ownerOf account ≠ 0 → before.factory.ownerOf account ≠ 0 ∨
        ∃ salt, account = deployment.predictDeterministicAddress salt
  held : ∀ sessionId account, after.held deployment sessionId account =
          before.held deployment sessionId account ∨ (before.factory.ownerOf account = 0 ∧
          after.held deployment sessionId account = 0)

namespace Quiet

variable {deployment : Deployment} {before after : World}

theorem refl (world : World) : Quiet deployment world world where
  ledger := rfl
  funds := le_rfl
  owned := fun _ owned => owned
  predicted := fun _ owned => Or.inl owned
  held := fun _ _ => Or.inl rfl

/-- Calls that touch neither factory, accounts nor ledger are quiet. -/
theorem of_tokens (ledger : after.vault.ledger = before.vault.ledger)
    (factory : after.factory = before.factory) (accounts : after.accounts = before.accounts)
    (funds : before.usdcBalance deployment ≤ after.usdcBalance deployment) :
    Quiet deployment before after where
  ledger := ledger
  funds := funds
  owned := by
    intro account owned
    rw [factory]
    exact owned
  predicted := by
    intro account owned
    rw [factory] at owned
    exact Or.inl owned
  held := by
    intro sessionId account
    left
    unfold World.held
    rw [accounts]

/-- Calls on one account that keep its exposure to the vault are quiet. -/
theorem of_account {target : Address} {record : ArenaAccount}
    (held : record.heldFor deployment.vault = (before.accounts target).heldFor deployment.vault)
    (accounts : after.accounts = write before.accounts target record)
    (ledger : after.vault.ledger = before.vault.ledger)
    (factory : after.factory = before.factory)
    (funds : before.usdcBalance deployment ≤ after.usdcBalance deployment) :
    Quiet deployment before after where
  ledger := ledger
  funds := funds
  owned := by
    intro account owned
    rw [factory]
    exact owned
  predicted := by
    intro account owned
    rw [factory] at owned
    exact Or.inl owned
  held := by
    intro sessionId account
    left
    have same := World.held_write_accounts_same held
    unfold World.held at same ⊢
    rw [accounts]
    exact congrFun (congrFun same sessionId) account

end Quiet

/-- A sealed or V2 session is opened with nothing locked. -/
structure OpenEffect (before after : World) (sessionId : Bytes32) : Prop where
  fresh : (before.vault.sessions sessionId).openedAt = 0
  ledger : after.vault.ledger = before.vault.ledger.openSession sessionId
  tokens : after.tokens = before.tokens
  factory : after.factory = before.factory
  accounts : after.accounts = before.accounts

/-- The elementary steps of custody. -/
inductive CustodyStep (deployment : Deployment) : World → World → Prop where
  | quiet {before after : World} (unchanged : Quiet deployment before after) :
      CustodyStep deployment before after
  | opened {before after : World} {sessionId : Bytes32}
      (effect : OpenEffect before after sessionId) : CustodyStep deployment before after
  | locked {before after : World} {sessionId : Bytes32} {account : Address} {amount : Nat}
      (opened : (before.vault.sessions sessionId).openedAt ≠ 0)
      (effect : ArenaVaultV2.LockEffect deployment before after sessionId account amount) :
      CustodyStep deployment before after
  | raised {before after : World} {sessionId : Bytes32} {account : Address} {amount : Nat}
      (participant : before.vault.sessionParticipants sessionId account = true)
      (effect : ArenaVaultV2.RaiseEffect deployment before after sessionId account amount) :
      CustodyStep deployment before after
  | released {before : World} {sessionId : Bytes32} {account : Address}
      {amount : Nat} {tokens : Tokens}
      (releasable : ArenaVaultV2.Releasable deployment before sessionId account amount) :
      CustodyStep deployment before
        { ArenaVaultV2.releasedWorld before sessionId account amount with
          tokens := tokens }
  | closed {before : World} {sessionId : Bytes32} {rake : Nat} {vault : ArenaVaultV2}
      (ok : ArenaVaultV2.closeSession before.vault sessionId rake = .ok vault) :
      CustodyStep deployment before { before with vault := vault }
  | feesPaid {before after : World} {amount : Nat}
      (ledger : after.vault.ledger = before.vault.ledger.payFees amount)
      (factory : after.factory = before.factory) (accounts : after.accounts = before.accounts) :
      CustodyStep deployment before after

/-- Sequences of elementary steps. -/
abbrev CustodySteps (deployment : Deployment) : World → World → Prop :=
  Relation.ReflTransGen (CustodyStep deployment)

/-! ## Consistency of the deployment -/

/--
What holds between the contracts at any time: the vault's ledger is well
formed, accounts mirror its locks, and participants are registered accounts.
-/
structure World.Consistent (deployment : Deployment) (world : World) : Prop where
  formed : world.vault.ledger.WellFormed
  mirror : world.held deployment = world.vault.lockedBySession
  participants : ∀ sessionId account, world.vault.sessionParticipants sessionId account = true →
        world.factory.ownerOf account ≠ 0
  registered : world.Registered deployment
  accrued_lt : world.vault.accruedProtocolFees < uint256Size

namespace World.Consistent

variable {deployment : Deployment} {before after : World}

theorem initially {world : World} (initial : world.Initial) : world.Consistent deployment where
  formed := by
    have ledger : world.vault.ledger = Ledger.empty := by
      unfold ArenaVaultV2.ledger Ledger.empty
      rw [initial.lockedBySession, initial.totalLocked,
        initial.sessionParticipants, initial.sessionParticipantCount,
        initial.accruedProtocolFees, initial.sessions]
      rfl
    rw [ledger]
    exact Ledger.wellFormed_empty
  mirror := by
    unfold World.held
    rw [initial.accounts, initial.lockedBySession]
    funext sessionId account
    exact ite_self 0
  participants := by
    intro sessionId account member
    rw [initial.sessionParticipants] at member
    cases member
  registered := by
    intro account owned
    rw [initial.ownerOf] at owned
    exact absurd rfl owned
  accrued_lt := by
    rw [initial.accruedProtocolFees]
    decide

/-- A lock belongs to a participant, hence to a registered account. -/
theorem owned_of_locked (consistent : before.Consistent deployment)
    {sessionId : Bytes32} {account : Address}
    (locked : before.vault.lockedBySession sessionId account ≠ 0) :
    before.factory.ownerOf account ≠ 0 :=
  consistent.participants sessionId account
    (consistent.formed.participant_of_locked sessionId account locked)

theorem quiet (consistent : before.Consistent deployment)
    (unchanged : Quiet deployment before after) :
    after.Consistent deployment := by
  have locked : after.vault.lockedBySession = before.vault.lockedBySession :=
    congrArg Ledger.locked unchanged.ledger
  have participant : after.vault.sessionParticipants = before.vault.sessionParticipants :=
    congrArg Ledger.participant unchanged.ledger
  have accrued : after.vault.accruedProtocolFees = before.vault.accruedProtocolFees :=
    congrArg Ledger.accrued unchanged.ledger
  constructor
  · rw [unchanged.ledger]
    exact consistent.formed
  · funext sessionId account
    rw [locked, ← consistent.mirror]
    rcases unchanged.held sessionId account with same | ⟨unowned, zero⟩
    · exact same
    · rw [zero, consistent.mirror]
      by_contra nonzero
      exact consistent.owned_of_locked (Ne.symm nonzero) unowned
  · intro sessionId account member
    rw [participant] at member
    exact unchanged.owned account (consistent.participants sessionId account member)
  · intro account owned
    rcases unchanged.predicted account owned with earlier | predicted
    · exact consistent.registered account earlier
    · exact predicted
  · rw [accrued]
    exact consistent.accrued_lt

theorem opened {sessionId : Bytes32} (consistent : before.Consistent deployment)
    (effect : OpenEffect before after sessionId) :
    after.Consistent deployment := by
  have participant : after.vault.sessionParticipants = before.vault.sessionParticipants :=
    congrArg Ledger.participant effect.ledger
  have accrued : after.vault.accruedProtocolFees = before.vault.accruedProtocolFees :=
    congrArg Ledger.accrued effect.ledger
  constructor
  · rw [effect.ledger]
    exact consistent.formed.openSession sessionId
  · have locked : after.vault.lockedBySession = before.vault.lockedBySession :=
      congrArg Ledger.locked effect.ledger
    rw [locked, ← consistent.mirror]
    unfold World.held
    rw [effect.accounts]
  · intro other account member
    rw [participant] at member
    rw [effect.factory]
    exact consistent.participants other account member
  · intro account owned
    rw [effect.factory] at owned
    exact consistent.registered account owned
  · rw [accrued]
    exact consistent.accrued_lt

theorem locked {sessionId : Bytes32} {account : Address} {amount : Nat}
    (consistent : before.Consistent deployment)
    (opened : (before.vault.sessions sessionId).openedAt ≠ 0)
    (effect : ArenaVaultV2.LockEffect deployment before after sessionId account amount) :
    after.Consistent deployment := by
  have factory := effect.factory
  have accrued : after.vault.accruedProtocolFees = before.vault.accruedProtocolFees :=
    congrArg Ledger.accrued effect.ledger
  have lockedEq : after.vault.lockedBySession =
      (before.vault.ledger.join sessionId account amount).locked :=
    congrArg Ledger.locked effect.ledger
  have participantEq : after.vault.sessionParticipants =
      (before.vault.ledger.join sessionId account amount).participant :=
    congrArg Ledger.participant effect.ledger
  constructor
  · rw [effect.ledger]
    exact consistent.formed.join (by simpa [ArenaVaultV2.ledger] using opened) effect.fresh amount
  · have unlocked : before.vault.lockedBySession sessionId account = 0 := by
      rw [← consistent.mirror]
      exact effect.unheld
    rw [effect.held, lockedEq, consistent.mirror]
    simp [Ledger.join, Ledger.raise, ArenaVaultV2.ledger, unlocked]
  · intro other entry member
    rw [factory]
    by_cases same : other = sessionId ∧ entry = account
    · rw [same.2]
      exact effect.registered
    · rw [participantEq] at member
      simp only [Ledger.join, write₂_of_ne _ _ same] at member
      exact consistent.participants other entry member
  · intro entry owned
    rw [factory] at owned
    exact consistent.registered entry owned
  · rw [accrued]
    exact consistent.accrued_lt

theorem raised {sessionId : Bytes32} {account : Address} {amount : Nat}
    (consistent : before.Consistent deployment)
    (participant : before.vault.sessionParticipants sessionId account = true)
    (effect : ArenaVaultV2.RaiseEffect deployment before after sessionId account amount) :
    after.Consistent deployment := by
  have factory := effect.factory
  have accrued : after.vault.accruedProtocolFees = before.vault.accruedProtocolFees :=
    congrArg Ledger.accrued effect.ledger
  have lockedEq : after.vault.lockedBySession =
      (before.vault.ledger.raise sessionId account amount).locked :=
    congrArg Ledger.locked effect.ledger
  have participantEq : after.vault.sessionParticipants = before.vault.sessionParticipants :=
    congrArg Ledger.participant effect.ledger
  constructor
  · rw [effect.ledger]
    exact consistent.formed.raise participant amount
  · rw [effect.held, lockedEq, consistent.mirror]
    rfl
  · intro other entry member
    rw [participantEq] at member
    rw [factory]
    exact consistent.participants other entry member
  · intro entry owned
    rw [factory] at owned
    exact consistent.registered entry owned
  · rw [accrued]
    exact consistent.accrued_lt

theorem released {sessionId : Bytes32} {account : Address} {amount : Nat} {tokens : Tokens}
    (consistent : before.Consistent deployment)
    (releasable : ArenaVaultV2.Releasable deployment before sessionId account amount) :
    Consistent deployment
      { ArenaVaultV2.releasedWorld before sessionId account amount with
        tokens := tokens } where
  formed := consistent.formed.release releasable.locked
  mirror := by
    have held := ArenaVaultV2.releasedWorld_held releasable
    rw [consistent.mirror] at held
    exact held
  participants := consistent.participants
  registered := consistent.registered
  accrued_lt := consistent.accrued_lt

theorem closed {sessionId : Bytes32} {rake : Nat} {vault : ArenaVaultV2}
    (consistent : before.Consistent deployment)
    (ok : ArenaVaultV2.closeSession before.vault sessionId rake = .ok vault) :
    Consistent deployment { before with vault := vault } := by
  obtain ⟨fits, equal⟩ := ArenaVaultV2.closeSession_eq_ok_iff.mp ok
  constructor
  · rw [ArenaVaultV2.closeSession_ledger ok]
    exact consistent.formed.close sessionId rake
  · rw [equal]
    exact consistent.mirror
  · rw [equal]
    exact consistent.participants
  · exact consistent.registered
  · rw [equal]
    rcases fits with zero | fits
    · simpa [zero] using consistent.accrued_lt
    · exact fits

theorem feesPaid {amount : Nat} (consistent : before.Consistent deployment)
    (ledger : after.vault.ledger = before.vault.ledger.payFees amount)
    (factory : after.factory = before.factory) (accounts : after.accounts = before.accounts) :
    after.Consistent deployment := by
  have locked : after.vault.lockedBySession = before.vault.lockedBySession :=
    congrArg Ledger.locked ledger
  have participant : after.vault.sessionParticipants = before.vault.sessionParticipants :=
    congrArg Ledger.participant ledger
  have accrued : after.vault.accruedProtocolFees = before.vault.accruedProtocolFees - amount :=
    congrArg Ledger.accrued ledger
  constructor
  · rw [ledger]
    exact consistent.formed.payFees amount
  · rw [locked, ← consistent.mirror]
    unfold World.held
    rw [accounts]
  · intro sessionId account member
    rw [participant] at member
    rw [factory]
    exact consistent.participants sessionId account member
  · intro account owned
    rw [factory] at owned
    exact consistent.registered account owned
  · rw [accrued]
    have bound := consistent.accrued_lt
    omega

/-- Consistency is kept by every elementary step. -/
theorem step (consistent : before.Consistent deployment)
    (taken : CustodyStep deployment before after) :
    after.Consistent deployment := by
  cases taken with
  | quiet unchanged => exact consistent.quiet unchanged
  | opened effect => exact consistent.opened effect
  | locked opened effect => exact consistent.locked opened effect
  | raised participant effect => exact consistent.raised participant effect
  | released releasable => exact consistent.released releasable
  | closed ok => exact consistent.closed ok
  | feesPaid ledger factory accounts =>
    exact consistent.feesPaid ledger factory accounts

/-- Consistency is kept by every sequence of elementary steps. -/
theorem steps (consistent : before.Consistent deployment)
    (taken : CustodySteps deployment before after) :
    after.Consistent deployment := by
  induction taken with
  | refl => exact consistent
  | tail _ last kept => exact kept.step last

end World.Consistent

end Mozetto.Chain
