import Mozetto.Chain.Acceptance

/-!
# Solvency of the vault

The vault is solvent when its own balance of its token covers every lock and
the accrued fees.  A V3 ticket is refused unless the account's permission
names the vault's token; a V2 ticket is not, although the buy-in is pulled in
whatever token the permission names.  Runs whose V2 tickets all come from
accounts that permit the vault's token keep the vault solvent, and a single
other V2 ticket may break it.
-/

namespace Mozetto.Chain

open Mozetto.Library.Guarded
open Mozetto.Library.Mapping
open Mozetto.Library.CustodyLedger
open Mozetto.Library.TransitionSystem

/-- The account's current permission names the vault's token. -/
def PermitsUsdc (deployment : Deployment) (world : World) (account : Address) : Prop :=
  (world.accounts account).gameAuth.usdc = deployment.usdc

instance (deployment : Deployment) (world : World) (account : Address) :
    Decidable (PermitsUsdc deployment world account) := by
  unfold PermitsUsdc
  infer_instance

/-- Every V2 ticket of the operation is from an account that permits the token. -/
def UsdcTickets (deployment : Deployment) (world : World) : Operation → Prop
  | .vault (.openSession _ tickets _) =>
      ∀ ticket ∈ tickets, PermitsUsdc deployment world ticket.player
  | .vault (.topUpSession _ ticket _) =>
      PermitsUsdc deployment world ticket.player
  | .vault (.rebuySession _ ticket _) =>
      PermitsUsdc deployment world ticket.player
  | _ => True

instance (deployment : Deployment) (world : World) (operation : Operation) :
    Decidable (UsdcTickets deployment world operation) := by
  unfold UsdcTickets
  split <;> infer_instance

namespace World

variable {deployment : Deployment} {before after world : World}

/-- The vault's balance covers all locks and the accrued fees. -/
def Solvent (deployment : Deployment) (world : World) : Prop :=
  world.vault.ledger.Solvent (world.usdcBalance deployment)

theorem Solvent.of_ledger (solvent : before.Solvent deployment)
    (locked : after.vault.lockedBySession = before.vault.lockedBySession)
    (accrued : after.vault.accruedProtocolFees = before.vault.accruedProtocolFees)
    (funds : before.usdcBalance deployment ≤ after.usdcBalance deployment) :
    after.Solvent deployment := by
  have covered : after.vault.ledger.Solvent (before.usdcBalance deployment) :=
    Ledger.Solvent.of_locks solvent locked accrued
  exact covered.mono funds

theorem Solvent.quiet (solvent : before.Solvent deployment)
    (unchanged : Quiet deployment before after) :
    after.Solvent deployment :=
  solvent.of_ledger (congrArg Ledger.locked unchanged.ledger)
    (congrArg Ledger.accrued unchanged.ledger) unchanged.funds

/-- A raised lock is covered by the same amount of the vault's token. -/
theorem Solvent.raised {sessionId : Bytes32} {account : Address} {amount : Nat}
    (solvent : before.Solvent deployment) (notVault : account ≠ deployment.vault)
    (permits : PermitsUsdc deployment before account)
    (moved : before.tokens.transfer (before.accounts account).gameAuth.usdc account
        deployment.vault amount = .ok after.tokens)
    (locked : after.vault.lockedBySession =
        (before.vault.ledger.raise sessionId account amount).locked)
    (accrued : after.vault.accruedProtocolFees = before.vault.accruedProtocolFees) :
    after.Solvent deployment := by
  rw [permits] at moved
  have paid := Tokens.transfer_balance_recipient moved notVault.symm
  have credited := Ledger.Solvent.raise solvent sessionId account amount
  have covered : after.vault.ledger.Solvent (before.usdcBalance deployment + amount) :=
    Ledger.Solvent.of_locks credited locked accrued
  unfold Solvent World.usdcBalance
  rw [paid]
  exact covered

theorem Solvent.locked {sessionId : Bytes32} {account : Address} {amount : Nat}
    (solvent : before.Solvent deployment) (registered : before.Registered deployment)
    (permits : PermitsUsdc deployment before account)
    (effect : ArenaVaultV2.LockEffect deployment before after sessionId account amount) :
    after.Solvent deployment :=
  solvent.raised (registered.ne_vault effect.registered) permits effect.moved
    (congrArg Ledger.locked effect.ledger) (congrArg Ledger.accrued effect.ledger)

/-- A fold of locks in the vault's token keeps the vault solvent. -/
theorem Solvent.locks {ι : Type} {entries : List ι} {lock : World → ι → Except Revert World}
    (solvent : before.Solvent deployment) (registered : before.Registered deployment)
    (locks : ∀ state entry result, entry ∈ entries → (∀ account,
          (state.accounts account).gameAuth.usdc = (before.accounts account).gameAuth.usdc) →
        lock state entry = .ok result → ∃ sessionId account amount,
          PermitsUsdc deployment state account ∧
            ArenaVaultV2.LockEffect deployment state result sessionId account amount)
    (run : entries.foldlM lock before = .ok after) :
    after.Solvent deployment := by
  have kept : after.Solvent deployment ∧ after.factory = before.factory ∧ ∀ account,
        (after.accounts account).gameAuth.usdc = (before.accounts account).gameAuth.usdc := by
    refine foldlM_preserves (motive := fun state =>
          state.Solvent deployment ∧ state.factory = before.factory ∧ ∀ account,
              (state.accounts account).gameAuth.usdc = (before.accounts account).gameAuth.usdc)
        ?_ ⟨solvent, rfl, fun _ => rfl⟩ run
    rintro state entry result member ⟨solventState, factory, usdc⟩ locked
    obtain ⟨sessionId, account, amount, permits, effect⟩ :=
      locks state entry result member usdc locked
    have registeredState : state.Registered deployment := by
      unfold Registered
      rw [factory]
      exact registered
    refine ⟨solventState.locked registeredState permits effect, ?_, ?_⟩
    · rw [effect.factory, factory]
    · intro other
      rw [effect.usdc other, usdc other]
  exact kept.1

theorem Solvent.opened {sessionId : Bytes32} (solvent : before.Solvent deployment)
    (effect : OpenEffect before after sessionId) :
    after.Solvent deployment := by
  refine solvent.of_ledger (congrArg Ledger.locked effect.ledger)
      (congrArg Ledger.accrued effect.ledger) ?_
  unfold usdcBalance
  rw [effect.tokens]

/-! ## Settlement, exits and fees -/

/-- The locks of the users of an accepted payload sum to its start total. -/
theorem sum_locked_of_payload {sessionId : Bytes32} {players : List SettlementPlayer} {rake : Nat}
    (payload : ArenaVaultV2.Payload before sessionId players rake) :
    ∑ account ∈ (players.map (·.user)).toFinset, before.vault.lockedBySession sessionId account =
      startTotal players := by
  rw [List.sum_toFinset _ payload.nodup, List.map_map]
  unfold startTotal
  congr 1
  apply List.map_congr_left
  intro row member
  exact (payload.rows row member).locked

theorem Solvent.settled {msg : Msg} {sessionId : Bytes32} {players : List SettlementPlayer}
    {rake : Nat} (solvent : before.Solvent deployment) (registered : before.Registered deployment)
    (run : ArenaVaultV2.settleSession deployment msg before sessionId players rake = .ok after) :
    after.Solvent deployment := by
  obtain ⟨-, -, -, payload, released, releases, closed, close, notified⟩ :=
    ArenaVaultV2.settleSession_eq_ok_iff.mp run
  obtain ⟨-, rfl⟩ := ArenaVaultV2.notifyLifecycleSettled_eq_ok_iff.mp notified
  obtain ⟨-, rfl⟩ := ArenaVaultV2.closeSession_eq_ok_iff.mp close
  have payees := payees_of_payload registered payload
  have rows := ArenaVaultV2.releaseRows_eq_ok payees releases
  have sums := sum_locked_of_payload payload
  have accrued : released.vault.accruedProtocolFees =
      before.vault.accruedProtocolFees := by
    have same := congrArg (fun world => world.vault.accruedProtocolFees) rows.frame
    exact same
  have conserved := payload.conserved
  let settled : ArenaVaultV2 :=
    { released.vault with
      accruedProtocolFees := released.vault.accruedProtocolFees + rake
      sessions :=
        write released.vault.sessions sessionId
          { released.vault.sessions sessionId with settled := true } }
  let members := (players.map (·.user)).toFinset
  have covered : settled.ledger.Solvent (before.usdcBalance deployment -
        ((∑ account ∈ members, before.vault.ledger.locked sessionId account) - rake)) := by
    apply Ledger.Solvent.settle solvent sessionId members
    · intro account member
      obtain ⟨row, inside, rfl⟩ := List.mem_map.mp (List.mem_toFinset.mp member)
      have lowered := rows.row row inside
      have matching := (payload.rows row inside).locked
      simp only [settled, ArenaVaultV2.ledger]
      omega
    · intro other account outside
      apply rows.elsewhere
      rintro ⟨rfl, row, inside, rfl⟩
      apply outside
      exact ⟨rfl, List.mem_toFinset.mpr (List.mem_map.mpr ⟨row, inside, rfl⟩)⟩
    · simp only [settled, ArenaVaultV2.ledger, accrued]
    · simp only [members, ArenaVaultV2.ledger, sums]
      omega
  rw [ArenaVaultV2.hooked_frame]
  refine covered.mono ?_
  have reserve := rows.reserve
  simp only [members, ArenaVaultV2.ledger, sums]
  simp only [usdcBalance] at reserve ⊢
  omega

theorem Solvent.withdrew {msg : Msg} {amount : Nat} (solvent : before.Solvent deployment)
    (run : ArenaVaultV2.withdrawProtocolFees deployment msg before amount = .ok after) :
    after.Solvent deployment := by
  obtain ⟨within, ledger, ⟨spent, balances, moved⟩, -⟩ :=
    ArenaVaultV2.withdrawProtocolFees_eq_ok run
  have paid := Ledger.Solvent.payFees solvent within
  unfold Solvent
  rw [ledger]
  refine paid.mono ?_
  unfold usdcBalance
  rw [← balances]
  by_cases same : deployment.usdc = deployment.feeVaultUsdc
  · rw [same]
    rw [Tokens.transfer_balance_holder moved deployment.feeVault_ne_vault]
  · rw [Tokens.transfer_balance_other moved (Or.inl same)]
    exact Nat.sub_le _ _

theorem Solvent.exited {msg : Msg} {sessionId : Bytes32} {player : Address} {tableBalance : Nat}
    (solvent : before.Solvent deployment) (notVault : player ≠ deployment.vault)
    (run : ArenaVaultV2.payoutEmergencyExit deployment msg before sessionId player
        tableBalance = .ok after) :
    after.Solvent deployment := by
  obtain ⟨releasable, -, tokens, moved, rfl⟩ := ArenaVaultV2.payoutEmergencyExit_eq_ok_iff.mp run
  have paid := Ledger.Solvent.release solvent releasable.locked
  have balance := Tokens.transfer_balance_holder moved notVault
  rw [ArenaVaultV2.hooked_frame]
  unfold Solvent usdcBalance
  simp only [balance]
  exact paid

/-- Each effect whose V2 tickets permit the token keeps the vault solvent. -/
theorem Solvent.effect {operation : Operation} (solvent : before.Solvent deployment)
    (registered : before.Registered deployment)
    (permitted : UsdcTickets deployment before operation)
    (effect : Effect deployment operation before after) :
    after.Solvent deployment := by
  cases effect with
  | quiet unchanged => exact solvent.quiet unchanged
  | funded run =>
    obtain ⟨opened, funded, openedAs, locks, notified⟩ :=
      ArenaVaultV2.sealAndFundSession_eq_ok run
    have registeredOpened : opened.Registered deployment := by
      unfold Registered
      rw [openedAs.effect.factory]
      exact registered
    have solventFunded : funded.Solvent deployment := by
      refine (solvent.opened openedAs.effect).locks registeredOpened ?_ locks
      rintro state entry result - - locked
      obtain ⟨effect, usdc⟩ := ArenaVaultV2.lockFromTicketV3_eq_ok locked
      exact ⟨_, _, _, usdc, effect⟩
    rw [ArenaVaultV2.notifyLifecycleSealed_frame notified]
    exact solventFunded
  | opened run =>
    obtain ⟨opened, openedAs, locks⟩ := ArenaVaultV2.openSession_eq_ok run
    have registeredOpened : opened.Registered deployment := by
      unfold Registered
      rw [openedAs.effect.factory]
      exact registered
    refine (solvent.opened openedAs.effect).locks registeredOpened ?_ locks
    rintro state ⟨ticket, signature⟩ result member usdc locked
    refine ⟨_, _, _, ?_, ArenaVaultV2.lockFromTicket_eq_ok locked⟩
    unfold PermitsUsdc
    rw [usdc, openedAs.effect.accounts]
    exact permitted ticket (List.of_mem_zip member).1
  | toppedUp run =>
    obtain ⟨-, effect⟩ := ArenaVaultV2.topUpSession_eq_ok run
    exact solvent.locked registered permitted effect
  | rebought run =>
    obtain ⟨-, effect⟩ := ArenaVaultV2.rebuySession_eq_ok run
    exact solvent.raised (registered.ne_vault effect.registered) permitted
        effect.moved (congrArg Ledger.locked effect.ledger)
        (congrArg Ledger.accrued effect.ledger)
  | settled recorded run =>
    exact (solvent.quiet recorded).settled (fun account owned =>
          (recorded.predicted account owned).elim (registered account) id)
        run
  | withdrew run => exact solvent.withdrew run
  | exited ready run =>
    exact solvent.exited (registered.ne_vault ready.registered) run

end World

/-! ## Runs -/

/--
In every run whose V2 tickets come from accounts that permit the vault's
token, the vault's balance covers all locks and the accrued fees.
-/
theorem solvent_of_usdcTickets
    {deployment : Deployment} {world : World}
    (reached :
      (World.protocol deployment).Reachable
        (fun state call => UsdcTickets deployment state call.operation)
        world)
    (keys : Finset (Bytes32 × Address)) :
    (∑ key ∈ keys, world.vault.lockedBySession key.1 key.2) +
        world.vault.accruedProtocolFees ≤
      world.usdcBalance deployment := by
  have solvent : world.Solvent deployment := by
    refine
      reached.invariant_with
        (fun state arrived =>
          World.Reachable.consistent
            (arrived.mono fun _ _ _ => trivial))
        ?_ ?_
    · intro state initial
      have empty : state.vault.ledger.Solvent (state.usdcBalance deployment) :=
        Ledger.Solvent.of_locks
          (Ledger.solvent_empty (state.usdcBalance deployment))
          initial.lockedBySession initial.accruedProtocolFees
      exact empty
    · intro state call after consistent solvent permitted accepted
      exact
        solvent.effect consistent.registered permitted
          (Effect.of_stepOperation consistent.registered call.outside
            accepted)
  exact solvent.sum_locked_add_accrued_le keys

/-- A table opened in the vault's token is reached and covered. -/
theorem solvent_of_usdcTickets_table :
    ∃ world : World,
      world.vault.lockedBySession 5 (Example.accountOf 1) = 100 ∧
        (∑ key ∈ {((5 : Bytes32), (Example.accountOf 1 : Address))},
            world.vault.lockedBySession key.1 key.2) +
            world.vault.accruedProtocolFees ≤
          world.usdcBalance Example.deployment := by
  have start :
      (World.protocol Example.deployment).Reachable
        (fun state call =>
          UsdcTickets Example.deployment state call.operation)
        (Example.world 0) :=
    .start (Example.initial_world 0)
  have observed :
      ((World.protocol Example.deployment).replay
          (fun state call =>
            UsdcTickets Example.deployment state call.operation)
          (Example.world 0)
          (Example.enrol 1 7 1000 ++ [Example.openTable [(1, 100)]])).any
        (fun world =>
          world.vault.lockedBySession 5 (Example.accountOf 1) == 100) =
        true := by
    decide +kernel
  obtain ⟨world, reached, locked⟩ := start.exists_replay observed
  exact ⟨world, by simpa using locked, solvent_of_usdcTickets reached _⟩

/--
A table opened with a ticket of an account that permits another token: its
lock is backed by nothing.
-/
theorem exists_insolvent_run :
    ¬ ∀ (deployment : Deployment) (world : World),
      World.Reachable deployment world →
        ∀ keys : Finset (Bytes32 × Address),
          (∑ key ∈ keys, world.vault.lockedBySession key.1 key.2) +
              world.vault.accruedProtocolFees ≤
            world.usdcBalance deployment := by
  intro solvent
  have start : World.Reachable Example.deployment (Example.world 0) :=
    .start (Example.initial_world 0)
  have observed :
      ((World.protocol Example.deployment).replay AnyCall (Example.world 0)
          (Example.enrol 1 8 1000 ++ [Example.openTable [(1, 100)]])).any
        (fun world =>
          world.vault.lockedBySession 5 (Example.accountOf 1) == 100 &&
            world.usdcBalance Example.deployment == 0) =
        true := by
    decide +kernel
  obtain ⟨world, reached, facts⟩ := start.exists_replay observed
  obtain ⟨locked, empty⟩ := Bool.and_eq_true_iff.mp facts
  have covered :=
    solvent Example.deployment world reached {(5, Example.accountOf 1)}
  rw [Finset.sum_singleton, beq_iff_eq.mp locked, beq_iff_eq.mp empty]
    at covered
  omega

end Mozetto.Chain
