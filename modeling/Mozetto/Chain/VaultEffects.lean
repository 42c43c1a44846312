import Mozetto.Chain.Protocol
import Mozetto.Library.CustodyLedger

/-!
# What the operations of the vault do

The ledger that the vault's storage represents, the exposure that accounts
hold for the vault, and one specification for every internal operation: what
it requires, how it moves the ledger, the exposure and the tokens, and which
fields it may write at all.
-/

namespace Mozetto.Chain

open Mozetto.Library.Guarded
open Mozetto.Library.Mapping
open Mozetto.Library.CustodyLedger

/-- The ledger represented by the storage of the vault. -/
def ArenaVaultV2.ledger (vault : ArenaVaultV2) : Ledger Bytes32 Address where
  opened := fun sessionId => decide ((vault.sessions sessionId).openedAt ≠ 0)
  settled := fun sessionId => (vault.sessions sessionId).settled
  locked := vault.lockedBySession
  total := vault.totalLocked
  participant := vault.sessionParticipants
  count := vault.sessionParticipantCount
  accrued := vault.accruedProtocolFees

/-- The exposure an account holds for a session locked by `vault`. -/
def ArenaAccount.heldFor (account : ArenaAccount) (vault : Address) (sessionId : Bytes32) : Nat :=
  if account.sessionVault sessionId = vault then
    account.sessionExposure sessionId
  else 0

/-- The exposure every account holds for the vault. -/
def World.held (deployment : Deployment) (world : World) : Bytes32 → Address → Nat :=
  fun sessionId account =>
    (world.accounts account).heldFor deployment.vault sessionId

namespace ArenaAccount

/-- Exposure is a matter of the two session mappings alone. -/
theorem heldFor_congr {account after : ArenaAccount}
    (exposure : after.sessionExposure = account.sessionExposure)
    (custodian : after.sessionVault = account.sessionVault) (vault : Address) :
    after.heldFor vault = account.heldFor vault := by
  funext sessionId
  simp only [heldFor, exposure, custodian]

theorem heldFor_setGamePermission {deployment : Deployment} {msg : Msg} {self : Address}
    {account after : ArenaAccount} {permission : GamePermission}
    (permitted : setGamePermission deployment msg self account permission = .ok after)
    (vault : Address) :
    after.heldFor vault = account.heldFor vault := by
  simp only [setGamePermission, bind_eq_ok_iff, revertIf_eq_ok_iff,
    checkedAdd_eq_ok_iff, exists_const] at permitted
  obtain ⟨-, -, nonce, -, permitted⟩ := permitted
  split at permitted
  · simp only [pure_eq_ok_iff] at permitted
    subst permitted
    exact heldFor_congr rfl rfl vault
  · simp only [bind_eq_ok_iff, revertIf_eq_ok_iff, pure_eq_ok_iff, exists_const] at permitted
    obtain ⟨-, -, -, -, -, rfl⟩ := permitted
    exact heldFor_congr rfl rfl vault

theorem heldFor_revokeGamePermission {msg : Msg} {account after : ArenaAccount}
    (revoked : revokeGamePermission msg account = .ok after) (vault : Address) :
    after.heldFor vault = account.heldFor vault := by
  simp only [revokeGamePermission, bind_eq_ok_iff, revertIf_eq_ok_iff,
    pure_eq_ok_iff, exists_const] at revoked
  obtain ⟨-, rfl⟩ := revoked
  exact heldFor_congr rfl rfl vault

theorem heldFor_lockBuyIn {msg : Msg} {self : Address} {account : ArenaAccount}
    {tokens : Tokens} {sessionId : Bytes32} {buyIn : Nat}
    {gameTemplateId : Bytes32} {leagueBit : Nat} {rated : Bool} {result : ArenaAccount × Tokens}
    (locked : lockBuyIn msg self account tokens sessionId buyIn gameTemplateId
        leagueBit rated = .ok result)
    (vault : Address) :
    account.heldFor vault sessionId = 0 ∧ result.1.heldFor vault = if msg.sender = vault then
          write (account.heldFor vault) sessionId buyIn
        else account.heldFor vault := by
  obtain ⟨-, -, closed, -, equal⟩ := lockBuyIn_eq_ok locked
  refine ⟨by simp [heldFor, closed], ?_⟩
  funext other
  by_cases caller : msg.sender = vault
  · by_cases same : other = sessionId
    · subst same
      simp [equal, heldFor, caller]
    · simp [equal, heldFor, caller, write, same]
  · by_cases same : other = sessionId
    · subst same
      simp [equal, heldFor, caller, closed]
    · simp [equal, heldFor, caller, write, same]

theorem heldFor_increaseBuyIn {msg : Msg} {self : Address} {account : ArenaAccount}
    {tokens : Tokens} {sessionId : Bytes32} {buyIn : Nat}
    {gameTemplateId : Bytes32} {leagueBit : Nat} {rated : Bool} {result : ArenaAccount × Tokens}
    (increased : increaseBuyIn msg self account tokens sessionId buyIn gameTemplateId
        leagueBit rated = .ok result)
    (vault : Address) :
    result.1.heldFor vault = if msg.sender = vault then
        write (account.heldFor vault) sessionId (account.heldFor vault sessionId + buyIn)
      else account.heldFor vault := by
  obtain ⟨-, custodian, -, -, equal⟩ := increaseBuyIn_eq_ok increased
  funext other
  by_cases caller : msg.sender = vault
  · by_cases same : other = sessionId
    · subst same
      simp [equal, heldFor, caller, custodian]
    · simp [equal, heldFor, caller, write, same]
  · by_cases same : other = sessionId
    · subst same
      simp [equal, heldFor, caller, custodian]
    · simp [equal, heldFor, caller, write, same]

/-- Lowering an exposure moves it for its custodian only. -/
theorem heldFor_lowerExposure (account : ArenaAccount) (sessionId : Bytes32) (amount : Nat)
    (vault : Address) : (account.lowerExposure sessionId amount).heldFor vault =
    if account.sessionVault sessionId = vault then
      write (account.heldFor vault) sessionId (account.heldFor vault sessionId - amount)
    else account.heldFor vault := by
  funext other
  by_cases same : other = sessionId
  · subst same
    by_cases custodian : account.sessionVault other = vault
    · by_cases empty : account.sessionExposure other - amount = 0
      · simp [heldFor, custodian, empty]
      · simp [heldFor, custodian, empty]
    · by_cases empty : account.sessionExposure other - amount = 0
      · simp [heldFor, custodian, empty]
      · simp [heldFor, custodian, empty]
  · have elsewhere : (account.lowerExposure sessionId amount).heldFor vault other =
        account.heldFor vault other := by
      simp only [heldFor, lowerExposure_sessionExposure,
        lowerExposure_sessionVault, write_of_ne _ _ same]
      by_cases empty : account.sessionExposure sessionId - amount = 0
      · simp only [empty, if_true, write_of_ne _ _ same]
      · simp only [empty, if_false]
    by_cases custodian : account.sessionVault sessionId = vault
    · simp only [custodian, if_true, write_of_ne _ _ same, elsewhere]
    · simp only [custodian, if_false, elsewhere]

end ArenaAccount

/-! ## Calls of the vault into one account -/

namespace World

/-- One account's exposure for one session moves, and nothing else. -/
theorem held_write_accounts {deployment : Deployment} {world : World} {account : Address}
    {record : ArenaAccount} {sessionId : Bytes32} {amount : Nat}
    (moved : record.heldFor deployment.vault =
        write ((world.accounts account).heldFor deployment.vault) sessionId amount) :
    held deployment { world with accounts := write world.accounts account record } =
      write₂ (world.held deployment) sessionId account amount := by
  funext other entry
  by_cases isAccount : entry = account
  · subst isAccount
    by_cases same : other = sessionId
    · simp [held, write₂, moved, same]
    · simp [held, write₂, moved, write, same]
  · simp [held, write₂, write, isAccount]

/-- An account whose exposure to the vault stays leaves all exposure as it was. -/
theorem held_write_accounts_same {deployment : Deployment} {world : World} {account : Address}
    {record : ArenaAccount}
    (kept : record.heldFor deployment.vault = (world.accounts account).heldFor deployment.vault) :
    held deployment { world with accounts := write world.accounts account record } =
      world.held deployment := by
  funext other entry
  by_cases isAccount : entry = account
  · subst isAccount
    simp [held, kept]
  · simp [held, write, isAccount]

end World

namespace ArenaVaultV2

variable {deployment : Deployment} {msg : Msg} {world after : World}
variable {sessionId : Bytes32} {account : Address} {amount : Nat}

theorem callLockBuyIn_eq_ok {gameTemplateId : Bytes32} {leagueBit : Nat} {rated : Bool}
    (called : callLockBuyIn deployment msg world account sessionId amount
        gameTemplateId leagueBit rated = .ok after) :
    after = { world with tokens := after.tokens, accounts := after.accounts } ∧
      world.tokens.transfer (world.accounts account).gameAuth.usdc account
        deployment.vault amount = .ok after.tokens ∧ world.held deployment sessionId account = 0 ∧
      after.held deployment = write₂ (world.held deployment) sessionId account amount ∧ ∀ entry,
        (after.accounts entry).gameAuth.usdc = (world.accounts entry).gameAuth.usdc := by
  simp only [callLockBuyIn, bind_eq_ok_iff, pure_eq_ok_iff] at called
  obtain ⟨result, locked, equal⟩ := called
  subst equal
  obtain ⟨closed, held⟩ := ArenaAccount.heldFor_lockBuyIn locked deployment.vault
  obtain ⟨-, -, -, moved, record⟩ := ArenaAccount.lockBuyIn_eq_ok locked
  refine ⟨rfl, moved, closed, ?_, ?_⟩
  · exact World.held_write_accounts (by simpa [Msg.calledBy] using held)
  · intro entry
    by_cases same : entry = account
    · simp [same, record]
    · simp [write_of_ne _ _ same]

theorem callIncreaseBuyIn_eq_ok {gameTemplateId : Bytes32} {leagueBit : Nat} {rated : Bool}
    (called : callIncreaseBuyIn deployment msg world account sessionId amount
        gameTemplateId leagueBit rated = .ok after) :
    after = { world with tokens := after.tokens, accounts := after.accounts } ∧
      world.tokens.transfer (world.accounts account).gameAuth.usdc account
        deployment.vault amount = .ok after.tokens ∧ after.held deployment =
        write₂ (world.held deployment) sessionId account
          (world.held deployment sessionId account + amount) := by
  simp only [callIncreaseBuyIn, bind_eq_ok_iff, pure_eq_ok_iff] at called
  obtain ⟨result, increased, equal⟩ := called
  subst equal
  have held := ArenaAccount.heldFor_increaseBuyIn increased deployment.vault
  obtain ⟨-, -, -, moved, -⟩ := ArenaAccount.increaseBuyIn_eq_ok increased
  refine ⟨rfl, moved, ?_⟩
  exact World.held_write_accounts (by simpa [Msg.calledBy, World.held] using held)

theorem callReleaseExposure_eq_ok_iff :
    callReleaseExposure deployment msg world account sessionId amount = .ok after ↔
      (world.accounts account).sessionVault sessionId = deployment.vault ∧
        (world.accounts account).sessionExposure sessionId ≠ 0 ∧
        amount ≤ (world.accounts account).sessionExposure sessionId ∧
        after = { world with
          accounts :=
            write world.accounts account
              ((world.accounts account).lowerExposure sessionId amount) } := by
  simp only [callReleaseExposure, bind_eq_ok_iff, pure_eq_ok_iff,
    ArenaAccount.releaseExposure_eq_ok_iff, Msg.calledBy]
  constructor
  · rintro ⟨record, ⟨custodian, opened, enough, rfl⟩, rfl⟩
    exact ⟨custodian, opened, enough, rfl⟩
  · rintro ⟨custodian, opened, enough, rfl⟩
    exact ⟨_, ⟨custodian, opened, enough, rfl⟩, rfl⟩

theorem callTransfer_eq_ok_iff {recipient : Address} :
    callTransfer deployment world recipient amount = .ok after ↔ ∃ tokens,
        world.tokens.transfer deployment.usdc deployment.vault recipient amount = .ok tokens ∧
          after = { world with tokens := tokens } := by
  simp only [callTransfer, bind_eq_ok_iff, pure_eq_ok_iff]
  constructor
  · rintro ⟨tokens, moved, rfl⟩
    exact ⟨tokens, moved, rfl⟩
  · rintro ⟨tokens, moved, rfl⟩
    exact ⟨tokens, moved, rfl⟩

/-! ## Updates of the ledger -/

theorem creditLock_eq_ok {vault credited : ArenaVaultV2}
    (ok : creditLock vault sessionId account amount = .ok credited) :
    credited =
        { vault with
          lockedBySession := credited.lockedBySession
          totalLocked := credited.totalLocked } ∧
      credited.ledger = vault.ledger.raise sessionId account amount := by
  simp only [creditLock, bind_eq_ok_iff, checkedAdd_eq_ok_iff, pure_eq_ok_iff] at ok
  obtain ⟨locked, ⟨-, rfl⟩, total, ⟨-, rfl⟩, rfl⟩ := ok
  exact ⟨rfl, rfl⟩

theorem addParticipant_eq_ok {vault seated : ArenaVaultV2}
    (ok : addParticipant vault sessionId account = .ok seated) :
    seated = { vault with
      sessionParticipants := write₂ vault.sessionParticipants sessionId account true
      sessionParticipantCount :=
        write vault.sessionParticipantCount sessionId
          (vault.sessionParticipantCount sessionId + 1) } := by
  simp only [addParticipant, bind_eq_ok_iff, checkedAdd_eq_ok_iff, pure_eq_ok_iff] at ok
  obtain ⟨count, ⟨-, rfl⟩, rfl⟩ := ok
  rfl

/-- A lock of a new participant. -/
structure LockEffect (deployment : Deployment) (before after : World) (sessionId : Bytes32)
    (account : Address) (amount : Nat) : Prop where
  registered : before.factory.ownerOf account ≠ 0
  fresh : before.vault.sessionParticipants sessionId account = false
  ledger : after.vault.ledger = before.vault.ledger.join sessionId account amount
  held : after.held deployment = write₂ (before.held deployment) sessionId account amount
  unheld : before.held deployment sessionId account = 0
  moved : before.tokens.transfer (before.accounts account).gameAuth.usdc account
      deployment.vault amount = .ok after.tokens
  usdc : ∀ entry, (after.accounts entry).gameAuth.usdc = (before.accounts entry).gameAuth.usdc
  frame :
    after = { before with
      tokens := after.tokens
      accounts := after.accounts
      vault := { before.vault with
        usedNonces := after.vault.usedNonces
        lockedBySession := after.vault.lockedBySession
        totalLocked := after.vault.totalLocked
        sessionParticipants := after.vault.sessionParticipants
        sessionParticipantCount := after.vault.sessionParticipantCount } }

/-- A raised lock of a participant. -/
structure RaiseEffect (deployment : Deployment) (before after : World) (sessionId : Bytes32)
    (account : Address) (amount : Nat) : Prop where
  registered : before.factory.ownerOf account ≠ 0
  ledger : after.vault.ledger = before.vault.ledger.raise sessionId account amount
  held : after.held deployment = write₂ (before.held deployment) sessionId account
        (before.held deployment sessionId account + amount)
  moved : before.tokens.transfer (before.accounts account).gameAuth.usdc account
      deployment.vault amount = .ok after.tokens
  frame :
    after = { before with
      tokens := after.tokens
      accounts := after.accounts
      vault := { before.vault with
        usedNonces := after.vault.usedNonces
        lockedBySession := after.vault.lockedBySession
        totalLocked := after.vault.totalLocked } }

theorem LockEffect.factory {before after : World}
    (effect : LockEffect deployment before after sessionId account amount) :
    after.factory = before.factory := by
  have same := congrArg World.factory effect.frame
  exact same

theorem RaiseEffect.factory {before after : World}
    (effect : RaiseEffect deployment before after sessionId account amount) :
    after.factory = before.factory := by
  have same := congrArg World.factory effect.frame
  exact same

/-- The common end of the two ways a ticket locks a buy-in. -/
theorem lock_eq_ok {nonce : Nat} {gameTemplateId : Bytes32} {leagueBit : Nat}
    {rated : Bool} {paid : World} {credited seated : ArenaVaultV2}
    (registered : world.factory.ownerOf account ≠ 0)
    (fresh : world.vault.sessionParticipants sessionId account = false)
    (called :
      callLockBuyIn deployment msg
        { world with vault := useNonce world.vault account nonce } account
        sessionId amount gameTemplateId leagueBit rated = .ok paid)
    (credit : creditLock paid.vault sessionId account amount = .ok credited)
    (seat : addParticipant credited sessionId account = .ok seated) :
    LockEffect deployment world { paid with vault := seated } sessionId
      account amount := by
  obtain ⟨frame, moved, unheld, held, usdc⟩ := callLockBuyIn_eq_ok called
  obtain ⟨creditFrame, raised⟩ := creditLock_eq_ok credit
  have vaultEq : paid.vault = useNonce world.vault account nonce := congrArg World.vault frame
  have seatFrame := addParticipant_eq_ok seat
  have joined : seated.ledger = world.vault.ledger.join sessionId account amount := by
    have ledgerEq :
        seated.ledger =
          { credited.ledger with
            participant := write₂ credited.ledger.participant sessionId account true
            count :=
              write credited.ledger.count sessionId (credited.ledger.count sessionId + 1) } := by
      rw [seatFrame]
      rfl
    rw [ledgerEq, raised, vaultEq]
    rfl
  constructor
  · exact registered
  · exact fresh
  · exact joined
  · exact held
  · exact unheld
  · exact moved
  · exact usdc
  · rw [frame]
    rw [seatFrame, creditFrame, vaultEq]
    rfl

theorem lockFromTicketV3_eq_ok {templateId : Bytes32} {ticket : SeatTicketV3} {signature : Bytes}
    (ok : lockFromTicketV3 deployment msg world sessionId templateId ticket signature = .ok after) :
    LockEffect deployment world after sessionId ticket.arenaAccount ticket.buyIn ∧
      (world.accounts ticket.arenaAccount).gameAuth.usdc =
        deployment.usdc := by
  simp only [lockFromTicketV3, bind_eq_ok_iff, revertIf_eq_ok_iff,
    pure_eq_ok_iff, exists_const] at ok
  obtain ⟨-, -, -, -, -, -, -, fresh, registered, -, usdc, -, paid, called,
    credited, credit, seated, seat, equal⟩ := ok
  subst equal
  exact ⟨lock_eq_ok registered (by simpa using fresh) called credit seat, not_not.mp usdc⟩

theorem requireTicketSigned_eq_ok {ticket : SeatTicket} {signature : Bytes} {done : Unit}
    (ok : requireTicketSigned deployment msg world ticket signature = .ok done) :
    world.factory.ownerOf ticket.player ≠ 0 := by
  simp only [requireTicketSigned, bind_eq_ok_iff, revertIf_eq_ok_iff, exists_const] at ok
  exact ok.1

theorem lockFromTicket_eq_ok {templateId : Bytes32} {ticket : SeatTicket} {signature : Bytes}
    (ok : lockFromTicket deployment msg world sessionId templateId ticket signature = .ok after) :
    LockEffect deployment world after sessionId ticket.player
      ticket.buyIn := by
  simp only [lockFromTicket, bind_eq_ok_iff, revertIf_eq_ok_iff, pure_eq_ok_iff, exists_const] at ok
  obtain ⟨-, -, -, -, -, -, fresh, done, signed, paid, called, credited,
    credit, seated, seat, equal⟩ := ok
  subst equal
  exact lock_eq_ok (requireTicketSigned_eq_ok signed) (by simpa using fresh) called credit seat

theorem rebuyFromTicket_eq_ok {templateId : Bytes32} {ticket : SeatTicket} {signature : Bytes}
    (ok : rebuyFromTicket deployment msg world sessionId templateId ticket signature = .ok after) :
    RaiseEffect deployment world after sessionId ticket.player
      ticket.buyIn := by
  simp only [rebuyFromTicket, bind_eq_ok_iff, revertIf_eq_ok_iff,
    pure_eq_ok_iff, exists_const] at ok
  obtain ⟨-, -, -, -, -, -, done, signed, paid, called, credited, credit, equal⟩ := ok
  subst equal
  obtain ⟨frame, moved, held⟩ := callIncreaseBuyIn_eq_ok called
  obtain ⟨creditFrame, raised⟩ := creditLock_eq_ok credit
  have vaultEq : paid.vault = useNonce world.vault ticket.player ticket.nonce :=
    congrArg World.vault frame
  constructor
  · exact requireTicketSigned_eq_ok signed
  · rw [raised, vaultEq]
    rfl
  · exact held
  · exact moved
  · rw [frame]
    rw [creditFrame, vaultEq]
    rfl

/-! ## Releases -/

theorem debitLock_eq_ok_iff {vault debited : ArenaVaultV2} :
    debitLock vault sessionId account amount = .ok debited ↔
      amount ≤ vault.lockedBySession sessionId account ∧ amount ≤ vault.totalLocked account ∧
        debited = { vault with
          lockedBySession :=
            write₂ vault.lockedBySession sessionId account
              (vault.lockedBySession sessionId account - amount)
          totalLocked :=
            write vault.totalLocked account (vault.totalLocked account - amount) } := by
  simp only [debitLock, bind_eq_ok_iff, checkedSub_eq_ok_iff, pure_eq_ok_iff]
  constructor
  · rintro ⟨locked, ⟨enough, rfl⟩, total, ⟨covered, rfl⟩, rfl⟩
    exact ⟨enough, covered, rfl⟩
  · rintro ⟨enough, covered, rfl⟩
    exact ⟨_, ⟨enough, rfl⟩, _, ⟨covered, rfl⟩, rfl⟩

/-- The conditions on one account under which `amount` can be released. -/
structure Releasable (deployment : Deployment) (world : World) (sessionId : Bytes32)
    (account : Address) (amount : Nat) : Prop where
  locked : amount ≤ world.vault.lockedBySession sessionId account
  total : amount ≤ world.vault.totalLocked account
  custodian : (world.accounts account).sessionVault sessionId = deployment.vault
  opened : (world.accounts account).sessionExposure sessionId ≠ 0
  exposed : amount ≤ (world.accounts account).sessionExposure sessionId

/-- The world after `amount` of a lock is released, before any payment. -/
def releasedWorld (world : World) (sessionId : Bytes32) (account : Address)
    (amount : Nat) : World :=
  { world with
    accounts :=
      write world.accounts account ((world.accounts account).lowerExposure sessionId amount)
    vault := { world.vault with
      lockedBySession :=
        write₂ world.vault.lockedBySession sessionId account
          (world.vault.lockedBySession sessionId account - amount)
      totalLocked :=
        write world.vault.totalLocked account (world.vault.totalLocked account - amount) } }

theorem releaseRow_eq_ok_iff {row : SettlementPlayer} :
    releaseRow deployment msg sessionId world row = .ok after ↔
      Releasable deployment world sessionId row.user row.startLocked ∧ ∃ tokens,
          (if 0 < row.endBalance then
            world.tokens.transfer deployment.usdc deployment.vault row.user
                row.endBalance = .ok tokens
          else tokens = world.tokens) ∧
          after = { releasedWorld world sessionId row.user row.startLocked with
            tokens := tokens } := by
  simp only [releaseRow, bind_eq_ok_iff, debitLock_eq_ok_iff, callReleaseExposure_eq_ok_iff]
  constructor
  · rintro ⟨debited, ⟨locked, total, rfl⟩, released, ⟨custodian, opened, exposed, rfl⟩, paid⟩
    refine ⟨⟨locked, total, custodian, opened, exposed⟩, ?_⟩
    by_cases positive : 0 < row.endBalance
    · simp only [positive, if_true, callTransfer_eq_ok_iff] at paid ⊢
      exact paid
    · simp only [positive, if_false, pure_eq_ok_iff] at paid ⊢
      exact ⟨_, rfl, paid.symm⟩
  · rintro ⟨⟨locked, total, custodian, opened, exposed⟩, tokens, moved, rfl⟩
    refine ⟨_, ⟨locked, total, rfl⟩, _, ⟨custodian, opened, exposed, rfl⟩, ?_⟩
    by_cases positive : 0 < row.endBalance
    · simp only [positive, if_true, callTransfer_eq_ok_iff] at moved ⊢
      exact ⟨tokens, moved, rfl⟩
    · simp only [positive, if_false, pure_eq_ok_iff] at moved ⊢
      subst moved
      rfl

theorem releasedWorld_held
    (releasable : Releasable deployment world sessionId account amount) :
    (releasedWorld world sessionId account amount).held deployment =
      write₂ (world.held deployment) sessionId account
        (world.held deployment sessionId account - amount) := by
  apply World.held_write_accounts
  rw [ArenaAccount.heldFor_lowerExposure, if_pos releasable.custodian]
  rfl

end ArenaVaultV2

end Mozetto.Chain
