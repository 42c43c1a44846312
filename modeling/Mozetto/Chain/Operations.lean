import Mozetto.Chain.Effects

/-!
# The operations as sequences of custody steps

One specification for every external operation of the vault, and the
classification of all accepted calls: a call is quiet, or it is one of the
vault's operations, possibly relayed by the hub.  Consistency then holds in
every reachable world.
-/

namespace Mozetto.Chain

open Mozetto.Library.Guarded
open Mozetto.Library.Mapping
open Mozetto.Library.CustodyLedger

namespace ArenaVaultV2

variable {deployment : Deployment} {msg : Msg} {world after : World}
variable {sessionId : Bytes32}

/-! ## Lifecycle hooks -/

theorem callLifecycle_eq_ok_iff
    {hook : Msg → SessionLifecycleV2 → Except Revert SessionLifecycleV2} :
    callLifecycle deployment msg world hook = .ok after ↔
      world.vault.sessionLifecycle = deployment.lifecycle ∧ ∃ lifecycle,
          hook (msg.calledBy deployment.vault) world.lifecycle = .ok lifecycle ∧
            after = { world with lifecycle := lifecycle } := by
  simp only [callLifecycle, bind_eq_ok_iff, revertIf_eq_ok_iff,
    pure_eq_ok_iff, exists_const, ne_eq, not_not]
  constructor
  · rintro ⟨configured, lifecycle, called, rfl⟩
    exact ⟨configured, lifecycle, called, rfl⟩
  · rintro ⟨configured, lifecycle, called, rfl⟩
    exact ⟨configured, lifecycle, called, rfl⟩

theorem notifyLifecycleSealed_frame {descriptor : SessionDescriptor}
    (notified : notifyLifecycleSealed deployment msg world descriptor = .ok after) :
    after = { world with lifecycle := after.lifecycle } := by
  by_cases unset : world.vault.sessionLifecycle = 0
  · simp only [notifyLifecycleSealed, unset, if_true, Except.ok.injEq] at notified
    rw [← notified]
  · simp only [notifyLifecycleSealed, unset, if_false, callLifecycle_eq_ok_iff] at notified
    obtain ⟨-, lifecycle, -, rfl⟩ := notified
    rfl

/-- When the hook of a settlement or of an exit goes through, and its result. -/
def hookAccepts (deployment : Deployment) (world : World) (sessionId : Bytes32) : Prop :=
  world.vault.sessionLifecycle = 0 ∨ world.vault.sessionSealedV3 sessionId = false ∨
    (world.vault.sessionLifecycle = deployment.lifecycle ∧
      (deployment.vault = world.lifecycle.vault ∨ deployment.vault = world.lifecycle.owner) ∧
      (world.lifecycle.sessions sessionId).state.acceptsVaultHook = true)

instance (deployment : Deployment) (world : World) (sessionId : Bytes32) :
    Decidable (hookAccepts deployment world sessionId) := by
  unfold hookAccepts
  infer_instance

/-- The world after such a hook went through. -/
def hooked (msg : Msg) (world : World) (sessionId : Bytes32) (target : LifecycleState) : World :=
  if world.vault.sessionLifecycle = 0 then world
  else if world.vault.sessionSealedV3 sessionId = false then world
  else { world with
    lifecycle := world.lifecycle.moveTo msg sessionId target }

/-- The two hooks proceed alike and differ in the state they record. -/
theorem notify_eq_ok_iff {hook : Msg → SessionLifecycleV2 → Except Revert SessionLifecycleV2}
    {target : LifecycleState}
    (hook_iff : ∀ lifecycle result, hook (msg.calledBy deployment.vault) lifecycle = .ok result ↔
          (deployment.vault = lifecycle.vault ∨ deployment.vault = lifecycle.owner) ∧
            (lifecycle.sessions sessionId).state.acceptsVaultHook = true ∧
            lifecycle.moveTo msg sessionId target = result) :
    (if world.vault.sessionLifecycle = 0 then .ok world
      else if world.vault.sessionSealedV3 sessionId = false then .ok world
      else callLifecycle deployment msg world hook) = .ok after ↔
      hookAccepts deployment world sessionId ∧ after = hooked msg world sessionId target := by
  unfold hookAccepts hooked
  by_cases unset : world.vault.sessionLifecycle = 0
  · simp only [unset, if_true, Except.ok.injEq, true_or, true_and]
    exact eq_comm
  · by_cases unsealed : world.vault.sessionSealedV3 sessionId = false
    · simp only [unset, unsealed, if_true, if_false, Except.ok.injEq, true_or, or_true, true_and]
      exact eq_comm
    · simp only [unset, unsealed, if_false, false_or,
        Bool.true_eq_false, callLifecycle_eq_ok_iff, hook_iff]
      constructor
      · rintro ⟨configured, lifecycle, ⟨caller, accepts, rfl⟩, rfl⟩
        exact ⟨⟨configured, caller, accepts⟩, rfl⟩
      · rintro ⟨⟨configured, caller, accepts⟩, rfl⟩
        exact ⟨configured, _, ⟨caller, accepts, rfl⟩, rfl⟩

theorem notifyLifecycleSettled_eq_ok_iff :
    notifyLifecycleSettled deployment msg world sessionId = .ok after ↔
      hookAccepts deployment world sessionId ∧ after = hooked msg world sessionId .settled :=
  notify_eq_ok_iff fun _ _ => SessionLifecycleV2.recordSettled_eq_ok_iff

theorem notifyLifecycleEmergencyExit_eq_ok_iff :
    notifyLifecycleEmergencyExit deployment msg world sessionId = .ok after ↔
      hookAccepts deployment world sessionId ∧ after = hooked msg world sessionId .emergencyExit :=
  notify_eq_ok_iff fun _ _ =>
    SessionLifecycleV2.recordEmergencyExit_eq_ok_iff

theorem hooked_frame (msg : Msg) (world : World) (sessionId : Bytes32) (target : LifecycleState) :
    hooked msg world sessionId target =
      { world with
        lifecycle := (hooked msg world sessionId target).lifecycle } := by
  unfold hooked
  split
  · rfl
  · split <;> rfl

/-! ## Opening sessions -/

/-- What opening a session writes besides the session record. -/
structure OpenedAs (before opened : World) (sessionId : Bytes32) (sealedV3 : Bool) : Prop where
  effect : OpenEffect before opened sessionId
  started : (opened.vault.sessions sessionId).openedAt ≠ 0
  sealed : opened.vault.sessionSealedV3 =
      if sealedV3 then write before.vault.sessionSealedV3 sessionId true
      else before.vault.sessionSealedV3
  frame :
    opened = { before with
      vault := { before.vault with
        sessions := opened.vault.sessions
        sessionDescriptors := opened.vault.sessionDescriptors
        sessionSealedV3 := opened.vault.sessionSealedV3 } }

theorem openRecord_ledger (vault : ArenaVaultV2) (session : Session)
    (opened : session.openedAt ≠ 0) (unsettled : session.settled = false) :
    (openRecord vault session).ledger = vault.ledger.openSession session.sessionId := by
  unfold ledger openRecord Ledger.openSession
  congr
  · funext other
    by_cases same : other = session.sessionId
    · simp [write, same, opened]
    · simp [write, same]
  · funext other
    by_cases same : other = session.sessionId
    · simp [write, same, unsettled]
    · simp [write, same]

theorem sealAndFundSession_eq_ok {descriptor : SessionDescriptor} {tickets : List SeatTicketV3}
    {signatures : List Bytes}
    (ok : sealAndFundSession deployment msg world descriptor tickets signatures = .ok after) :
    ∃ opened funded, OpenedAs world opened descriptor.sessionId true ∧
        (tickets.zip signatures).foldlM (fun state entry =>
              lockFromTicketV3 deployment msg state descriptor.sessionId
                descriptor.gameTemplateId entry.1 entry.2)
            opened = .ok funded ∧
        notifyLifecycleSealed deployment msg funded descriptor = .ok after := by
  simp only [sealAndFundSession, bind_eq_ok_iff, revertIf_eq_ok_iff,
    checkedAdd64_eq_ok_iff, exists_const, ne_eq, not_not] at ok
  obtain ⟨-, -, -, -, -, -, -, fresh, -, -, -, -, -, leaves, -, -, -,
    exitAfter, -, funded, run, notified⟩ := ok
  refine ⟨_, funded, ?_, run, notified⟩
  refine ⟨⟨fresh, ?_, rfl, rfl, rfl⟩, ?_, rfl, rfl⟩
  · have positive : msg.timestamp ≠ 0 := Nat.pos_iff_ne_zero.mp msg.timestamp_pos
    exact openRecord_ledger world.vault _ positive rfl
  · simpa [openRecord] using Nat.pos_iff_ne_zero.mp msg.timestamp_pos

theorem openSession_eq_ok {config : SessionConfig} {tickets : List SeatTicket}
    {signatures : List Bytes}
    (ok : openSession deployment msg world config tickets signatures = .ok after) :
    ∃ opened, OpenedAs world opened config.sessionId false ∧ (tickets.zip signatures).foldlM
            (fun state entry =>
              lockFromTicket deployment msg state config.sessionId
                config.gameTemplateId entry.1 entry.2)
            opened = .ok after := by
  simp only [openSession, bind_eq_ok_iff, revertIf_eq_ok_iff,
    checkedAdd64_eq_ok_iff, exists_const, ne_eq, not_not] at ok
  obtain ⟨-, -, -, -, fresh, -, -, -, exitAfter, -, run⟩ := ok
  refine ⟨_, ?_, run⟩
  refine ⟨⟨fresh, ?_, rfl, rfl, rfl⟩, ?_, rfl, rfl⟩
  · have positive : msg.timestamp ≠ 0 := Nat.pos_iff_ne_zero.mp msg.timestamp_pos
    exact openRecord_ledger world.vault _ positive rfl
  · simpa [openRecord] using Nat.pos_iff_ne_zero.mp msg.timestamp_pos

theorem requireMutableSession_eq_ok_iff {done : Unit} :
    requireMutableSession world sessionId = .ok done ↔
      (world.vault.sessions sessionId).openedAt ≠ 0 ∧
        (world.vault.sessions sessionId).settled = false ∧
        world.vault.sessionSealedV3 sessionId = false := by
  simp only [requireMutableSession, bind_eq_ok_iff, revertIf_eq_ok_iff,
    exists_const, Bool.not_eq_true, ne_eq]

theorem topUpSession_eq_ok {ticket : SeatTicket} {signature : Bytes}
    (ok : topUpSession deployment msg world sessionId ticket signature = .ok after) :
    (world.vault.sessions sessionId).openedAt ≠ 0 ∧
      LockEffect deployment world after sessionId ticket.player
        ticket.buyIn := by
  simp only [topUpSession, bind_eq_ok_iff, requireMutableSession_eq_ok_iff] at ok
  obtain ⟨-, -, -, -, -, ⟨opened, -, -⟩, locked⟩ := ok
  exact ⟨opened, lockFromTicket_eq_ok locked⟩

theorem rebuySession_eq_ok {ticket : SeatTicket} {signature : Bytes}
    (ok : rebuySession deployment msg world sessionId ticket signature = .ok after) :
    world.vault.sessionParticipants sessionId ticket.player = true ∧
      RaiseEffect deployment world after sessionId ticket.player
        ticket.buyIn := by
  simp only [rebuySession, bind_eq_ok_iff, revertIf_eq_ok_iff,
    exists_const, Bool.not_eq_false] at ok
  obtain ⟨-, -, -, -, -, -, participant, raised⟩ := ok
  exact ⟨participant, rebuyFromTicket_eq_ok raised⟩

/-! ## Checkpoints, fees and exits -/

theorem applyCheckpoint_eq_ok_iff {sequence : Nat} {balanceRoot : Bytes32} :
    applyCheckpoint msg world sessionId sequence balanceRoot = .ok after ↔
      msg.sender = world.vault.settlementHub ∧ (world.vault.sessions sessionId).openedAt ≠ 0 ∧
        (world.vault.sessions sessionId).settled = false ∧
        (world.vault.sessions sessionId).lastSequence < sequence ∧
        after = { world with
          vault := { world.vault with
            sessions :=
              write world.vault.sessions sessionId
                { world.vault.sessions sessionId with
                  lastSequence := sequence
                  lastBalanceRoot := balanceRoot } } } := by
  simp only [applyCheckpoint, onlySettlement, bind_eq_ok_iff,
    revertIf_eq_ok_iff, pure_eq_ok_iff, exists_const, ne_eq, not_not, Bool.not_eq_true, Nat.not_le]
  constructor
  · rintro ⟨caller, opened, unsettled, later, rfl⟩
    exact ⟨caller, opened, unsettled, later, rfl⟩
  · rintro ⟨caller, opened, unsettled, later, rfl⟩
    exact ⟨caller, opened, unsettled, later, rfl⟩

theorem applyCheckpoint_ledger {sequence : Nat} {balanceRoot : Bytes32}
    (ok : applyCheckpoint msg world sessionId sequence balanceRoot = .ok after) :
    after.vault.ledger = world.vault.ledger := by
  obtain ⟨-, -, -, -, rfl⟩ := applyCheckpoint_eq_ok_iff.mp ok
  unfold ledger
  congr
  · funext other
    by_cases same : other = sessionId
    · simp [write, same]
    · simp [write, same]
  · funext other
    by_cases same : other = sessionId
    · simp [write, same]
    · simp [write, same]

theorem withdrawProtocolFees_eq_ok {amount : Nat}
    (ok : withdrawProtocolFees deployment msg world amount = .ok after) :
    amount ≤ world.vault.accruedProtocolFees ∧
      after.vault.ledger = world.vault.ledger.payFees amount ∧ (∃ spent : Tokens,
        spent.balanceOf = world.tokens.balanceOf ∧
          spent.transfer deployment.feeVaultUsdc deployment.vault
            deployment.feeVault amount = .ok after.tokens) ∧
      after = { world with
        tokens := after.tokens
        feeVault := after.feeVault
        vault := { world.vault with
          accruedProtocolFees := after.vault.accruedProtocolFees } } := by
  simp only [withdrawProtocolFees, bind_eq_ok_iff, revertIf_eq_ok_iff,
    pure_eq_ok_iff, exists_const, Nat.not_lt] at ok
  obtain ⟨-, -, -, within, -, -, result, deposited, rfl⟩ := ok
  have pulled := ProtocolFeeVault.depositFees_eq_ok deposited
  obtain ⟨spent, balances, moved⟩ := Tokens.transferFrom_balance pulled
  exact ⟨within, rfl, ⟨spent, balances, moved⟩, rfl⟩

/-- The conditions under which an exit of `player` is ready. -/
structure ExitReady (msg : Msg) (world : World) (sessionId : Bytes32) (player : Address) :
    Prop where
  opened : (world.vault.sessions sessionId).openedAt ≠ 0
  unsettled : (world.vault.sessions sessionId).settled = false
  due : (world.vault.sessions sessionId).emergencyExitAfter ≤ msg.timestamp
  checkpointed : (world.vault.sessions sessionId).lastBalanceRoot ≠ 0
  ne_zero : player ≠ 0
  ne_feeTreasury : player ≠ world.vault.feeTreasury
  registered : world.factory.ownerOf player ≠ 0
  participant : world.vault.sessionParticipants sessionId player = true
  unclaimed : world.vault.emergencyExitClaimed sessionId player = false

theorem requireEmergencyExitReady_eq_ok_iff {player : Address} {done : Unit} :
    requireEmergencyExitReady msg world sessionId player = .ok done ↔
      ExitReady msg world sessionId player := by
  simp only [requireEmergencyExitReady, bind_eq_ok_iff, revertIf_eq_ok_iff,
    exists_const, not_or, Nat.not_lt, Bool.not_eq_true, Bool.not_eq_false]
  constructor
  · rintro ⟨opened, unsettled, due, checkpointed, ⟨nonzero, notTreasury⟩,
      registered, participant, unclaimed⟩
    exact ⟨opened, unsettled, due, checkpointed, nonzero, notTreasury,
        registered, participant, unclaimed⟩
  · rintro ⟨opened, unsettled, due, checkpointed, nonzero, notTreasury,
      registered, participant, unclaimed⟩
    exact ⟨opened, unsettled, due, checkpointed, ⟨nonzero, notTreasury⟩,
        registered, participant, unclaimed⟩

/-- Mark the claim of one account on a session as made. -/
def markClaimed (world : World) (sessionId : Bytes32) (player : Address) :
    World :=
  { world with
    vault := { world.vault with
      emergencyExitClaimed := write₂ world.vault.emergencyExitClaimed sessionId player true } }

theorem payoutEmergencyExit_eq_ok_iff {player : Address} {tableBalance : Nat} :
    payoutEmergencyExit deployment msg world sessionId player tableBalance = .ok after ↔
      Releasable deployment world sessionId player tableBalance ∧
        hookAccepts deployment world sessionId ∧ ∃ tokens,
          world.tokens.transfer deployment.usdc deployment.vault player tableBalance = .ok tokens ∧
            after = hooked msg
                { releasedWorld (markClaimed world sessionId player) sessionId
                    player tableBalance with
                  tokens := tokens }
                sessionId .emergencyExit := by
  simp only [payoutEmergencyExit, bind_eq_ok_iff, revertIf_eq_ok_iff,
    exists_const, Nat.not_lt, debitLock_eq_ok_iff,
    callReleaseExposure_eq_ok_iff, callTransfer_eq_ok_iff, notifyLifecycleEmergencyExit_eq_ok_iff]
  constructor
  · rintro ⟨-, debited, ⟨locked, total, rfl⟩, released,
      ⟨custodian, opened, exposed, rfl⟩, paid, ⟨tokens, moved, rfl⟩, accepts, rfl⟩
    exact ⟨⟨locked, total, custodian, opened, exposed⟩, accepts, tokens, moved, rfl⟩
  · rintro ⟨⟨locked, total, custodian, opened, exposed⟩, accepts, tokens, moved, rfl⟩
    exact ⟨locked, _, ⟨locked, total, rfl⟩, _,
        ⟨custodian, opened, exposed, rfl⟩, _, ⟨tokens, moved, rfl⟩, accepts, rfl⟩

theorem emergencyExit_eq_ok_iff {player : Address} {tableBalance lastSequence : Nat}
    {proof : List Bytes32} : emergencyExit deployment msg world sessionId player tableBalance
      lastSequence proof = .ok after ↔ world.vault.paused = false ∧
      ExitReady msg world sessionId player ∧
      lastSequence = (world.vault.sessions sessionId).lastSequence ∧ verifyMerkleProof deployment
          (packedLeafHash deployment player tableBalance lastSequence)
          (world.vault.sessions sessionId).lastBalanceRoot proof = true ∧
      payoutEmergencyExit deployment msg world sessionId player tableBalance = .ok after := by
  simp only [emergencyExit, whenNotPaused, bind_eq_ok_iff,
    revertIf_eq_ok_iff, exists_const, requireEmergencyExitReady_eq_ok_iff,
    ne_eq, not_not, Bool.not_eq_true, Bool.not_eq_false]

theorem emergencyExitWithBalanceLeaf_eq_ok_iff {claim : BalanceLeafClaim} {proof : List Bytes32}
    {siblingIsLeft : List Bool} :
    emergencyExitWithBalanceLeaf deployment msg world sessionId claim proof
        siblingIsLeft = .ok after ↔ world.vault.paused = false ∧
        proof.length = siblingIsLeft.length ∧ claim.sessionId = sessionId ∧
        ExitReady msg world sessionId claim.arenaAccount ∧ claim.lastSequence =
          (world.vault.sessions sessionId).lastSequence ∧ verifyOrderedMerkleProof deployment
            (balanceLeafHash deployment claim)
            (world.vault.sessions sessionId).lastBalanceRoot proof siblingIsLeft = true ∧
        payoutEmergencyExit deployment msg world sessionId
          claim.arenaAccount claim.currentBalance = .ok after := by
  simp only [emergencyExitWithBalanceLeaf, whenNotPaused, bind_eq_ok_iff,
    revertIf_eq_ok_iff, exists_const, requireEmergencyExitReady_eq_ok_iff,
    ne_eq, not_not, Bool.not_eq_true, Bool.not_eq_false]

theorem administer_ledger {vault administered : ArenaVaultV2} {call : Admin}
    (ok : administer msg vault call = .ok administered) : administered.ledger = vault.ledger := by
  cases call <;>
    simp only [administer, bind_eq_ok_iff, revertIf_eq_ok_iff,
      onlyOwner_eq_ok_iff, pure_eq_ok_iff, exists_const] at ok
  case setFeeTreasury | setDefaultEmergencyExitDelay | pause | unpause =>
    obtain ⟨-, -, rfl⟩ := ok
    rfl
  case ownable =>
    obtain ⟨owner, -, rfl⟩ := ok
    rfl
  all_goals
    obtain ⟨-, rfl⟩ := ok
    rfl

end ArenaVaultV2

/-! ## Quiet calls -/

namespace Quiet

variable {deployment : Deployment} {msg : Msg} {world after : World}

theorem createAccount {owner : Address} {result : ArenaAccountFactory × (Address → ArenaAccount)}
    (created : ArenaAccountFactory.createAccount deployment world.factory
        world.accounts owner = .ok result) :
    Quiet deployment world { world with factory := result.1, accounts := result.2 } := by
  rcases ArenaAccountFactory.createAccount_ownerOf created with
    equal | ⟨nonzero, fresh, ownerOf, accounts⟩
  · rw [equal]
    exact Quiet.refl world
  · constructor
    · rfl
    · exact le_rfl
    · intro account owned
      by_cases same : account = ArenaAccountFactory.predictAddress deployment owner
      · simpa [ownerOf, same] using nonzero
      · simpa [ownerOf, write_of_ne _ _ same] using owned
    · intro account owned
      by_cases same : account = ArenaAccountFactory.predictAddress deployment owner
      · exact Or.inr ⟨ArenaAccountFactory.saltFor owner, same⟩
      · left
        simpa [ownerOf, write_of_ne _ _ same] using owned
    · intro sessionId account
      by_cases same : account = ArenaAccountFactory.predictAddress deployment owner
      · right
        refine ⟨by rw [same]; exact fresh, ?_⟩
        simp only [World.held, accounts, same, write_self]
        exact ite_self 0
      · left
        simp only [World.held, accounts, write_of_ne _ _ same]

/-- Paying out of a registered account never lowers the vault's balance. -/
theorem usdcBalance_le_of_account_transfer
    {target token recipient : Address} {amount : Nat} {tokens : Tokens}
    (registered : world.Registered deployment) (owned : world.factory.ownerOf target ≠ 0)
    (moved : world.tokens.transfer token target recipient amount = .ok tokens) :
    world.usdcBalance deployment ≤ tokens.balanceOf deployment.usdc deployment.vault :=
  Tokens.transfer_balance_le moved (Or.inr (registered.ne_vault owned).symm)

theorem stepAccount {target : Address} {call : AccountCall}
    (registered : world.Registered deployment) (outside : Outside deployment msg.sender)
    (owned : world.factory.ownerOf target ≠ 0)
    (ok : world.stepAccount deployment msg target call = .ok after) :
    Quiet deployment world after := by
  cases call with
  | setGamePermission permission =>
    simp only [World.stepAccount, bind_eq_ok_iff, pure_eq_ok_iff] at ok
    obtain ⟨record, permitted, rfl⟩ := ok
    exact of_account (ArenaAccount.heldFor_setGamePermission permitted deployment.vault)
        rfl rfl rfl le_rfl
  | revokeGamePermission =>
    simp only [World.stepAccount, bind_eq_ok_iff, pure_eq_ok_iff] at ok
    obtain ⟨record, revoked, rfl⟩ := ok
    exact of_account (ArenaAccount.heldFor_revokeGamePermission revoked deployment.vault)
        rfl rfl rfl le_rfl
  | emergencyInvalidatePermissions =>
    simp only [World.stepAccount, bind_eq_ok_iff, pure_eq_ok_iff] at ok
    obtain ⟨record, revoked, rfl⟩ := ok
    exact of_account (ArenaAccount.heldFor_revokeGamePermission revoked deployment.vault)
        rfl rfl rfl le_rfl
  | transferOwnership newOwner =>
    simp only [World.stepAccount, ArenaAccount.transferOwnership,
      bind_eq_ok_iff, revertIf_eq_ok_iff, pure_eq_ok_iff, exists_const] at ok
    obtain ⟨record, ⟨-, -, rfl⟩, rfl⟩ := ok
    refine of_account ?_ rfl rfl rfl le_rfl
    exact ArenaAccount.heldFor_congr rfl rfl deployment.vault
  | acceptOwnership =>
    simp only [World.stepAccount, ArenaAccountFactory.acceptOwnership,
      bind_eq_ok_iff, revertIf_eq_ok_iff, pure_eq_ok_iff, exists_const] at ok
    obtain ⟨result, ⟨-, synced, sync, rfl⟩, rfl⟩ := ok
    obtain ⟨-, nonzero, ownerOf⟩ := ArenaAccountFactory.syncOwner_ownerOf sync
    have account :
        Quiet deployment world (world.putAccount target
            { world.accounts target with
              pendingOwner := 0
              owner := (world.accounts target).pendingOwner }) := by
      refine of_account ?_ rfl rfl rfl le_rfl
      exact ArenaAccount.heldFor_congr rfl rfl deployment.vault
    constructor
    · rfl
    · exact le_rfl
    · intro entry ownedEntry
      by_cases same : entry = target
      · simpa [ownerOf, same] using nonzero
      · simpa [ownerOf, write_of_ne _ _ same] using ownedEntry
    · intro entry ownedEntry
      left
      by_cases same : entry = target
      · rw [same]
        exact owned
      · simpa [ownerOf, write_of_ne _ _ same] using ownedEntry
    · exact account.held
  | withdraw token amount recipient =>
    simp only [World.stepAccount, ArenaAccount.withdraw, bind_eq_ok_iff,
      revertIf_eq_ok_iff, pure_eq_ok_iff, exists_const] at ok
    obtain ⟨tokens, ⟨-, -, -, moved⟩, rfl⟩ := ok
    exact of_tokens rfl rfl rfl (usdcBalance_le_of_account_transfer registered owned moved)
  | lockBuyIn sessionId buyIn gameTemplateId leagueBit rated =>
    simp only [World.stepAccount, bind_eq_ok_iff, pure_eq_ok_iff] at ok
    obtain ⟨result, locked, rfl⟩ := ok
    obtain ⟨-, held⟩ := ArenaAccount.heldFor_lockBuyIn locked deployment.vault
    obtain ⟨-, -, -, moved, -⟩ := ArenaAccount.lockBuyIn_eq_ok locked
    rw [if_neg outside.ne_vault] at held
    exact of_account held rfl rfl rfl (usdcBalance_le_of_account_transfer registered owned moved)
  | increaseBuyIn sessionId buyIn gameTemplateId leagueBit rated =>
    simp only [World.stepAccount, bind_eq_ok_iff, pure_eq_ok_iff] at ok
    obtain ⟨result, increased, rfl⟩ := ok
    have held := ArenaAccount.heldFor_increaseBuyIn increased deployment.vault
    obtain ⟨-, -, -, moved, -⟩ := ArenaAccount.increaseBuyIn_eq_ok increased
    rw [if_neg outside.ne_vault] at held
    exact of_account held rfl rfl rfl (usdcBalance_le_of_account_transfer registered owned moved)
  | releaseExposure sessionId amount =>
    simp only [World.stepAccount, bind_eq_ok_iff, pure_eq_ok_iff] at ok
    obtain ⟨record, released, rfl⟩ := ok
    obtain ⟨custodian, -, -, rfl⟩ := ArenaAccount.releaseExposure_eq_ok_iff.mp released
    have held :=
      ArenaAccount.heldFor_lowerExposure (world.accounts target) sessionId amount deployment.vault
    rw [if_neg (custodian ▸ outside.ne_vault)] at held
    exact of_account held rfl rfl rfl le_rfl

theorem stepFeeVault {call : FeeVaultCall} {result : ProtocolFeeVault × Tokens}
    (outside : Outside deployment msg.sender)
    (ok : World.callFeeVault deployment msg world.feeVault world.tokens call = .ok result) :
    Quiet deployment world { world with feeVault := result.1, tokens := result.2 } := by
  have funds : world.usdcBalance deployment ≤
      result.2.balanceOf deployment.usdc deployment.vault := by
    cases call with
    | depositFees amount =>
      obtain ⟨spent, balances, moved⟩ :=
        Tokens.transferFrom_balance (ProtocolFeeVault.depositFees_eq_ok ok)
      have grown : spent.balanceOf deployment.usdc deployment.vault ≤
          result.2.balanceOf deployment.usdc deployment.vault :=
        Tokens.transfer_balance_le moved (Or.inr outside.ne_vault.symm)
      rwa [balances] at grown
    | sweep amount =>
      exact Tokens.transfer_balance_le (ProtocolFeeVault.sweep_eq_ok ok)
          (Or.inr deployment.feeVault_ne_vault.symm)
    | _ =>
      simp only [World.callFeeVault, bind_eq_ok_iff, pure_eq_ok_iff] at ok
      obtain ⟨changed, -, rfl⟩ := ok
      exact le_rfl
  exact of_tokens rfl rfl rfl funds

/-- A change of the vault that keeps its ledger. -/
theorem of_vault {vault : ArenaVaultV2} (ledger : vault.ledger = world.vault.ledger) :
    Quiet deployment world { world with vault := vault } := of_tokens ledger rfl rfl le_rfl

end Quiet

/-! ## Classification of accepted calls -/

/--
What an accepted operation does to custody.  The hub relays settlements,
after recording them, and emergency exits; the sender of the operation is
then the hub.
-/
inductive Effect (deployment : Deployment) : Operation → World → World → Prop where
  | quiet {operation : Operation} {before after : World}
      (unchanged : Quiet deployment before after) : Effect deployment operation before after
  | funded {before after : World} {msg : Msg}
      {descriptor : SessionDescriptor} {tickets : List SeatTicketV3} {signatures : List Bytes}
      (run : ArenaVaultV2.sealAndFundSession deployment msg before descriptor
          tickets signatures = .ok after) :
      Effect deployment (.vault (.sealAndFundSession descriptor tickets signatures)) before after
  | opened {before after : World} {msg : Msg} {config : SessionConfig}
      {tickets : List SeatTicket} {signatures : List Bytes}
      (run : ArenaVaultV2.openSession deployment msg before config tickets signatures = .ok after) :
      Effect deployment (.vault (.openSession config tickets signatures)) before after
  | toppedUp {before after : World} {msg : Msg} {sessionId : Bytes32}
      {ticket : SeatTicket} {signature : Bytes}
      (run : ArenaVaultV2.topUpSession deployment msg before sessionId ticket
          signature = .ok after) :
      Effect deployment (.vault (.topUpSession sessionId ticket signature)) before after
  | rebought {before after : World} {msg : Msg} {sessionId : Bytes32}
      {ticket : SeatTicket} {signature : Bytes}
      (run : ArenaVaultV2.rebuySession deployment msg before sessionId ticket
          signature = .ok after) :
      Effect deployment (.vault (.rebuySession sessionId ticket signature)) before after
  | settled {operation : Operation} {before middle after : World}
      {msg : Msg} {sessionId : Bytes32} {players : List SettlementPlayer} {rake : Nat}
      (recorded : Quiet deployment before middle)
      (run : ArenaVaultV2.settleSession deployment msg middle sessionId players rake = .ok after) :
      Effect deployment operation before after
  | withdrew {operation : Operation} {before after : World} {msg : Msg} {amount : Nat}
      (run : ArenaVaultV2.withdrawProtocolFees deployment msg before amount = .ok after) :
      Effect deployment operation before after
  | exited {operation : Operation} {before after : World} {msg : Msg}
      {sessionId : Bytes32} {player : Address} {tableBalance : Nat}
      (ready : ArenaVaultV2.ExitReady msg before sessionId player)
      (run : ArenaVaultV2.payoutEmergencyExit deployment msg before sessionId
          player tableBalance = .ok after) :
      Effect deployment operation before after

namespace Effect

variable {deployment : Deployment} {msg : Msg} {world after : World}

theorem of_stepVault {call : VaultCall} (ok : world.stepVault deployment msg call = .ok after) :
    Effect deployment (.vault call) world after := by
  cases call with
  | sealAndFundSession descriptor tickets signatures => exact .funded ok
  | openSession config tickets signatures => exact .opened ok
  | topUpSession sessionId ticket signature => exact .toppedUp ok
  | rebuySession sessionId ticket signature => exact .rebought ok
  | applyCheckpoint sessionId sequence balanceRoot =>
    obtain ⟨-, -, -, -, equal⟩ := ArenaVaultV2.applyCheckpoint_eq_ok_iff.mp ok
    have ledger := ArenaVaultV2.applyCheckpoint_ledger ok
    rw [equal] at ledger ⊢
    exact .quiet (Quiet.of_vault ledger)
  | settleSession sessionId players rake =>
    exact .settled (Quiet.refl world) ok
  | withdrawProtocolFees amount => exact .withdrew ok
  | emergencyExit sessionId player tableBalance lastSequence proof =>
    obtain ⟨-, ready, -, -, paid⟩ := ArenaVaultV2.emergencyExit_eq_ok_iff.mp ok
    exact .exited ready paid
  | emergencyExitWithBalanceLeaf sessionId claim proof siblingIsLeft =>
    obtain ⟨-, -, -, ready, -, -, paid⟩ :=
      ArenaVaultV2.emergencyExitWithBalanceLeaf_eq_ok_iff.mp ok
    exact .exited ready paid
  | admin call =>
    simp only [World.stepVault, bind_eq_ok_iff, pure_eq_ok_iff] at ok
    obtain ⟨vault, administered, rfl⟩ := ok
    exact .quiet (Quiet.of_vault (ArenaVaultV2.administer_ledger administered))

/-- Recording a settlement and its checkpoint is quiet. -/
theorem quiet_checkpoint {context : Msg} {hub : PokerSettlementHubV3} {checkpointed : World}
    {sessionId : Bytes32} {sequence : Nat} {balanceRoot : Bytes32}
    (ok : ArenaVaultV2.applyCheckpoint context { world with hub := hub } sessionId
        sequence balanceRoot = .ok checkpointed) :
    Quiet deployment world checkpointed := by
  have ledger := ArenaVaultV2.applyCheckpoint_ledger ok
  obtain ⟨-, -, -, -, equal⟩ := ArenaVaultV2.applyCheckpoint_eq_ok_iff.mp ok
  rw [equal] at ledger ⊢
  exact Quiet.of_tokens ledger rfl rfl le_rfl

theorem of_settleWith {operation : Operation} {settlement : FinalSettlementV3}
    {players : List SettlementPlayer} {proof : Bytes} {verifierPolicyId : Bytes32}
    (ok : PokerSettlementHubV3.settleWith deployment msg world settlement players
        proof verifierPolicyId = .ok after) :
    Effect deployment operation world after := by
  simp only [PokerSettlementHubV3.settleWith, bind_eq_ok_iff,
    revertIf_eq_ok_iff, exists_const] at ok
  obtain ⟨-, -, sums, -, -, -, -, -, -, recorded, -, checkpointed, checkpoint, settled⟩ := ok
  exact .settled (quiet_checkpoint checkpoint) settled

theorem of_stepHub {call : HubCall} (ok : world.stepHub deployment msg call = .ok after) :
    Effect deployment (.hub call) world after := by
  cases call with
  | settle settlement players signatures verifierPolicyId =>
    exact of_settleWith ok
  | settleWithProof settlement players proof verifierPolicyId =>
    exact of_settleWith ok
  | emergencyRelease sessionId player tableBalance lastSequence proof =>
    obtain ⟨-, ready, -, -, paid⟩ := ArenaVaultV2.emergencyExit_eq_ok_iff.mp ok
    exact .exited ready paid
  | emergencyReleaseWithBalanceLeaf sessionId claim proof siblingIsLeft =>
    obtain ⟨-, -, -, ready, -, -, paid⟩ :=
      ArenaVaultV2.emergencyExitWithBalanceLeaf_eq_ok_iff.mp ok
    exact .exited ready paid
  | admin call =>
    simp only [World.stepHub, bind_eq_ok_iff, pure_eq_ok_iff] at ok
    obtain ⟨hub, -, rfl⟩ := ok
    exact .quiet (Quiet.of_tokens rfl rfl rfl le_rfl)

/-- Every accepted operation is one of the effects. -/
theorem of_stepOperation {operation : Operation} (registered : world.Registered deployment)
    (outside : Outside deployment msg.sender)
    (ok : world.stepOperation deployment msg operation = .ok after) :
    Effect deployment operation world after := by
  cases operation with
  | createAccount owner =>
    simp only [World.stepOperation, bind_eq_ok_iff, pure_eq_ok_iff] at ok
    obtain ⟨result, created, rfl⟩ := ok
    exact .quiet (Quiet.createAccount created)
  | account target call =>
    simp only [World.stepOperation, bind_eq_ok_iff, revertIf_eq_ok_iff, exists_const] at ok
    exact .quiet (Quiet.stepAccount registered outside ok.1 ok.2)
  | transfer token recipient amount =>
    simp only [World.stepOperation, bind_eq_ok_iff, pure_eq_ok_iff] at ok
    obtain ⟨tokens, moved, rfl⟩ := ok
    exact .quiet (Quiet.of_tokens rfl rfl rfl (Tokens.transfer_balance_le moved
            (Or.inr outside.ne_vault.symm)))
  | mint token recipient amount =>
    simp only [World.stepOperation, pure_eq_ok_iff] at ok
    subst ok
    exact .quiet (Quiet.of_tokens rfl rfl rfl
          (Tokens.mint_balance_le world.tokens token recipient amount _ _))
  | vault call => exact of_stepVault ok
  | hub call => exact of_stepHub ok
  | router call =>
    simp only [World.stepOperation, bind_eq_ok_iff, pure_eq_ok_iff] at ok
    obtain ⟨router, -, rfl⟩ := ok
    exact .quiet (Quiet.of_tokens rfl rfl rfl le_rfl)
  | lifecycle call =>
    simp only [World.stepOperation, bind_eq_ok_iff, pure_eq_ok_iff] at ok
    obtain ⟨lifecycle, -, rfl⟩ := ok
    exact .quiet (Quiet.of_tokens rfl rfl rfl le_rfl)
  | feeVault call =>
    simp only [World.stepOperation, bind_eq_ok_iff, pure_eq_ok_iff] at ok
    obtain ⟨result, called, rfl⟩ := ok
    exact .quiet (Quiet.stepFeeVault outside called)

end Effect

end Mozetto.Chain
