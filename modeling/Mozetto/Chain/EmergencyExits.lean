import Mozetto.Chain.Acceptance

/-!
# Emergency exits of different participants

Two claims on one session write different claim flags, locks and accounts;
what they share is the vault's balance and the lifecycle record of the
session.  The first exit of a sealed session moves that record to a terminal
state, from which the hook of the second one reverts.  Exits of different
participants are independent exactly when no lifecycle record is involved
and the vault can pay both.
-/

namespace Mozetto.Chain

open Mozetto.Library.Mapping
open Mozetto.Library.TransitionSystem

/-- A claim against the last checkpoint, with either kind of leaf. -/
inductive ExitClaim where
  | packed (player : Address) (tableBalance lastSequence : Nat) (proof : List Bytes32)
  | balanceLeaf (claim : BalanceLeafClaim) (proof : List Bytes32) (siblingIsLeft : List Bool)

namespace ExitClaim

def player : ExitClaim → Address
  | packed player _ _ _ => player
  | balanceLeaf claim _ _ => claim.arenaAccount

def amount : ExitClaim → Nat
  | packed _ tableBalance _ _ => tableBalance
  | balanceLeaf claim _ _ => claim.currentBalance

/-- The call of the vault that makes the claim. -/
def run (deployment : Deployment) (msg : Msg) (world : World)
    (sessionId : Bytes32) : ExitClaim → Except Revert World
  | packed player tableBalance lastSequence proof =>
      ArenaVaultV2.emergencyExit deployment msg world sessionId player
        tableBalance lastSequence proof
  | balanceLeaf claim proof siblingIsLeft =>
      ArenaVaultV2.emergencyExitWithBalanceLeaf deployment msg world
        sessionId claim proof siblingIsLeft

/-- The leaf of the claim is proved against a checkpoint. -/
def Proved (deployment : Deployment) (sessionId : Bytes32) (session : Session) : ExitClaim → Prop
  | packed player tableBalance lastSequence proof =>
      lastSequence = session.lastSequence ∧ ArenaVaultV2.verifyMerkleProof deployment
            (ArenaVaultV2.packedLeafHash deployment player tableBalance lastSequence)
            session.lastBalanceRoot proof = true
  | balanceLeaf claim proof siblingIsLeft =>
      proof.length = siblingIsLeft.length ∧ claim.sessionId = sessionId ∧
        claim.lastSequence = session.lastSequence ∧ ArenaVaultV2.verifyOrderedMerkleProof deployment
            (ArenaVaultV2.balanceLeafHash deployment claim)
            session.lastBalanceRoot proof siblingIsLeft = true

/-- Both kinds of claims make the same checks and the same payout. -/
theorem run_eq_ok_iff {deployment : Deployment} {msg : Msg} {world after : World}
    {sessionId : Bytes32} (claim : ExitClaim) :
    claim.run deployment msg world sessionId = .ok after ↔ world.vault.paused = false ∧
        ArenaVaultV2.ExitReady msg world sessionId claim.player ∧
        claim.Proved deployment sessionId (world.vault.sessions sessionId) ∧
        ArenaVaultV2.payoutEmergencyExit deployment msg world sessionId
          claim.player claim.amount = .ok after := by
  cases claim with
  | packed player tableBalance lastSequence proof =>
    simp only [run, ArenaVaultV2.emergencyExit_eq_ok_iff, Proved,
      ExitClaim.player, amount, and_assoc]
  | balanceLeaf claim proof siblingIsLeft =>
    simp only [run, ArenaVaultV2.emergencyExitWithBalanceLeaf_eq_ok_iff,
      Proved, ExitClaim.player, amount]
    constructor
    · rintro ⟨running, lengths, session, ready, sequence, proved, paid⟩
      exact ⟨running, ready, ⟨lengths, session, sequence, proved⟩, paid⟩
    · rintro ⟨running, ready, ⟨lengths, session, sequence, proved⟩, paid⟩
      exact ⟨running, lengths, session, ready, sequence, proved, paid⟩

end ExitClaim

section OtherParticipant

variable {deployment : Deployment} {msg context : Msg}
variable {world after : World} {sessionId : Bytes32}

/-- The world after the payout of an exit, as far as custody is concerned. -/
theorem payout_frame {player : Address} {tableBalance : Nat}
    (paid : ArenaVaultV2.payoutEmergencyExit deployment msg world sessionId player
        tableBalance = .ok after) :
    after = { world with
      tokens := after.tokens
      accounts :=
        write world.accounts player ((world.accounts player).lowerExposure sessionId tableBalance)
      vault := { world.vault with
        emergencyExitClaimed := write₂ world.vault.emergencyExitClaimed sessionId player true
        lockedBySession :=
          write₂ world.vault.lockedBySession sessionId player
            (world.vault.lockedBySession sessionId player - tableBalance)
        totalLocked :=
          write world.vault.totalLocked player (world.vault.totalLocked player - tableBalance) }
      lifecycle := after.lifecycle } := by
  obtain ⟨-, -, tokens, -, rfl⟩ := ArenaVaultV2.payoutEmergencyExit_eq_ok_iff.mp paid
  rw [ArenaVaultV2.hooked_frame]
  rfl

/-- An exit of one participant leaves the readiness of another as it was. -/
theorem exitReady_after_payout_iff
    {player other : Address} {tableBalance : Nat} (ne : other ≠ player)
    (paid : ArenaVaultV2.payoutEmergencyExit deployment msg world sessionId player
        tableBalance = .ok after) :
    ArenaVaultV2.ExitReady context after sessionId other ↔
      ArenaVaultV2.ExitReady context world sessionId other := by
  rw [payout_frame paid]
  have unclaimed : write₂ world.vault.emergencyExitClaimed sessionId player true sessionId other =
      world.vault.emergencyExitClaimed sessionId other := by
    simp [write₂, ne]
  constructor
  · rintro ⟨opened, unsettled, due, checkpointed, nonzero, notTreasury,
      registered, participant, claimed⟩
    exact ⟨opened, unsettled, due, checkpointed, nonzero, notTreasury,
        registered, participant, unclaimed ▸ claimed⟩
  · rintro ⟨opened, unsettled, due, checkpointed, nonzero, notTreasury,
      registered, participant, claimed⟩
    constructor
    · exact opened
    · exact unsettled
    · exact due
    · exact checkpointed
    · exact nonzero
    · exact notTreasury
    · exact registered
    · exact participant
    · exact unclaimed.trans claimed

/-- Whether a lifecycle record takes part in the exits of a session. -/
def LifecycleInvolved (world : World) (sessionId : Bytes32) : Prop :=
  world.vault.sessionLifecycle ≠ 0 ∧ world.vault.sessionSealedV3 sessionId = true

/-- After an exit the hook accepts another one only without a record. -/
theorem hookAccepts_after_payout_iff {player : Address} {tableBalance : Nat}
    (paid : ArenaVaultV2.payoutEmergencyExit deployment msg world sessionId player
        tableBalance = .ok after) :
    ArenaVaultV2.hookAccepts deployment after sessionId ↔ ¬ LifecycleInvolved world sessionId := by
  have frame := payout_frame paid
  have lifecycle : after.vault.sessionLifecycle = world.vault.sessionLifecycle := by
    rw [frame]
  have sealedV3 : after.vault.sessionSealedV3 = world.vault.sessionSealedV3 := by
    rw [frame]
  unfold ArenaVaultV2.hookAccepts LifecycleInvolved
  rw [lifecycle, sealedV3]
  constructor
  · rintro (unset | unsealed | ⟨-, -, accepts⟩) ⟨set, isSealed⟩
    · exact set unset
    · rw [isSealed] at unsealed
      cases unsealed
    · obtain ⟨-, -, tokens, -, rfl⟩ := ArenaVaultV2.payoutEmergencyExit_eq_ok_iff.mp paid
      have isSealedAfter : (ArenaVaultV2.releasedWorld
            (ArenaVaultV2.markClaimed world sessionId player) sessionId
            player tableBalance).vault.sessionSealedV3 sessionId =
          true :=
        isSealed
      have setAfter : (ArenaVaultV2.releasedWorld
          (ArenaVaultV2.markClaimed world sessionId player) sessionId
          player tableBalance).vault.sessionLifecycle ≠ 0 := set
      simp [ArenaVaultV2.hooked, isSealedAfter, setAfter,
        LifecycleState.acceptsVaultHook] at accepts
  · intro involved
    by_cases unset : world.vault.sessionLifecycle = 0
    · exact Or.inl unset
    · right
      left
      cases isSealed : world.vault.sessionSealedV3 sessionId with
      | false => rfl
      | true => exact absurd ⟨unset, isSealed⟩ involved

/-- Exactly when a claim is still accepted after one of another participant. -/
theorem exists_run_after_iff {first second : ExitClaim} {later : World}
    (consistent : world.Consistent deployment) (ne : second.player ≠ first.player)
    (ranFirst : first.run deployment msg world sessionId = .ok after)
    (ranSecond : second.run deployment context world sessionId = .ok later) :
    (∃ both, second.run deployment context after sessionId = .ok both) ↔
      ¬ LifecycleInvolved world sessionId ∧
        first.amount + second.amount ≤ world.usdcBalance deployment := by
  obtain ⟨-, readyFirst, -, paidFirst⟩ := first.run_eq_ok_iff.mp ranFirst
  obtain ⟨running, ready, proved, paidSecond⟩ := second.run_eq_ok_iff.mp ranSecond
  have nonzero := consistent.registered.ne_zero ready.registered
  have notVault := consistent.registered.ne_vault readyFirst.registered
  have consistentAfter : after.Consistent deployment :=
    consistent.steps (CustodySteps.of_exit paidFirst)
  obtain ⟨within, positive, -, -⟩ :=
    (consistent.exists_payoutEmergencyExit_iff nonzero).mp ⟨_, paidSecond⟩
  have balance : after.usdcBalance deployment = world.usdcBalance deployment - first.amount ∧
      first.amount ≤ world.usdcBalance deployment := by
    obtain ⟨-, -, tokens, moved, equal⟩ := ArenaVaultV2.payoutEmergencyExit_eq_ok_iff.mp paidFirst
    have lowered := Tokens.transfer_balance_holder moved notVault
    have enough := (Tokens.transfer_eq_ok_iff.mp moved).2.1
    refine ⟨?_, enough⟩
    rw [equal, ArenaVaultV2.hooked_frame]
    exact lowered
  have locked : after.vault.lockedBySession sessionId second.player =
      world.vault.lockedBySession sessionId second.player := by
    rw [payout_frame paidFirst]
    simp [write₂, ne]
  have payout : (∃ both, ArenaVaultV2.payoutEmergencyExit deployment context after sessionId
        second.player second.amount = .ok both) ↔ _ :=
    consistentAfter.exists_payoutEmergencyExit_iff nonzero
  rw [hookAccepts_after_payout_iff paidFirst, locked, balance.1] at payout
  have ran : (∃ both, second.run deployment context after sessionId = .ok both) ↔ ∃ both,
        ArenaVaultV2.payoutEmergencyExit deployment context after sessionId
          second.player second.amount = .ok both := by
    have sessions : after.vault.sessions = world.vault.sessions := by
      rw [payout_frame paidFirst]
    have paused : after.vault.paused = world.vault.paused := by
      rw [payout_frame paidFirst]
    simp only [second.run_eq_ok_iff, exitReady_after_payout_iff ne paidFirst,
      sessions, paused, running, ready, proved, true_and]
  rw [ran, payout]
  constructor
  · rintro ⟨-, -, enough, free⟩
    exact ⟨free, by omega⟩
  · rintro ⟨free, enough⟩
    exact ⟨within, positive, by omega, free⟩

/-- Two exits in a row, in terms of the world before both. -/
theorem payout_payout_frame
    {player other : Address} {tableBalance otherBalance : Nat} {both : World} (ne : other ≠ player)
    (paid : ArenaVaultV2.payoutEmergencyExit deployment msg world sessionId player
        tableBalance = .ok after)
    (paidOther : ArenaVaultV2.payoutEmergencyExit deployment context after sessionId
        other otherBalance = .ok both) :
    both.accounts = write (write world.accounts player
            ((world.accounts player).lowerExposure sessionId tableBalance)) other
          ((world.accounts other).lowerExposure sessionId otherBalance) ∧
      both.vault = { world.vault with
        emergencyExitClaimed :=
          write₂ (write₂ world.vault.emergencyExitClaimed sessionId player true)
            sessionId other true
        lockedBySession :=
          write₂ (write₂ world.vault.lockedBySession sessionId player
              (world.vault.lockedBySession sessionId player - tableBalance)) sessionId other
            (world.vault.lockedBySession sessionId other - otherBalance)
        totalLocked :=
          write (write world.vault.totalLocked player
              (world.vault.totalLocked player - tableBalance))
            other (world.vault.totalLocked other - otherBalance) } := by
  have first := payout_frame paid
  have second := payout_frame paidOther
  have accounts : after.accounts = write world.accounts player
        ((world.accounts player).lowerExposure sessionId tableBalance) := by
    rw [first]
  have vault :
      after.vault = { world.vault with
        emergencyExitClaimed := write₂ world.vault.emergencyExitClaimed sessionId player true
        lockedBySession :=
          write₂ world.vault.lockedBySession sessionId player
            (world.vault.lockedBySession sessionId player - tableBalance)
        totalLocked :=
          write world.vault.totalLocked player
            (world.vault.totalLocked player - tableBalance) } := by
    rw [first]
  constructor
  · rw [second]
    simp [accounts, write_of_ne _ _ ne]
  · rw [second]
    simp [vault, write_of_ne _ _ ne, write₂, ne]

/-- The tokens an exit pays are one transfer to the player. -/
theorem payout_transfer {player : Address} {tableBalance : Nat}
    (paid : ArenaVaultV2.payoutEmergencyExit deployment msg world sessionId player
        tableBalance = .ok after) :
    world.tokens.transfer deployment.usdc deployment.vault player
      tableBalance = .ok after.tokens := by
  obtain ⟨-, -, tokens, moved, rfl⟩ := ArenaVaultV2.payoutEmergencyExit_eq_ok_iff.mp paid
  rw [ArenaVaultV2.hooked_frame]
  exact moved

end OtherParticipant

/--
Each of two claims is still accepted after the other one, and both orders
end in the same vault, accounts and tokens.
-/
def ExitsIndependent (deployment : Deployment) (world : World) (sessionId : Bytes32)
    (msg context : Msg) (first second : ExitClaim) : Prop :=
  ∃ afterFirst afterSecond firstThenSecond secondThenFirst,
    first.run deployment msg world sessionId = .ok afterFirst ∧
      second.run deployment context world sessionId = .ok afterSecond ∧
      second.run deployment context afterFirst sessionId = .ok firstThenSecond ∧
      first.run deployment msg afterSecond sessionId = .ok secondThenFirst ∧
      firstThenSecond.vault = secondThenFirst.vault ∧
      firstThenSecond.accounts = secondThenFirst.accounts ∧
      firstThenSecond.tokens = secondThenFirst.tokens

/--
Claims of two participants that would each be accepted are independent
exactly when no lifecycle record takes part and the vault can pay both.
-/
theorem exitsIndependent_iff
    {deployment : Deployment} {world afterFirst afterSecond : World}
    {sessionId : Bytes32} {msg context : Msg} {first second : ExitClaim}
    (reached : World.Reachable deployment world)
    (ne : first.player ≠ second.player)
    (ranFirst :
      first.run deployment msg world sessionId = .ok afterFirst)
    (ranSecond :
      second.run deployment context world sessionId = .ok afterSecond) :
    ExitsIndependent deployment world sessionId msg context first second ↔
      (world.vault.sessionLifecycle = 0 ∨
          world.vault.sessionSealedV3 sessionId = false) ∧
        first.amount + second.amount ≤ world.usdcBalance deployment := by
  have consistent := reached.consistent
  have free_iff :
      ¬ LifecycleInvolved world sessionId ↔
        world.vault.sessionLifecycle = 0 ∨
          world.vault.sessionSealedV3 sessionId = false := by
    unfold LifecycleInvolved
    rw [not_and_or, not_not, Bool.not_eq_true]
  rw [← free_iff, ← exists_run_after_iff consistent ne.symm ranFirst ranSecond]
  constructor
  · rintro ⟨one, two, both, other, runOne, -, runBoth, -⟩
    rw [runOne, Except.ok.injEq] at ranFirst
    subst ranFirst
    exact ⟨both, runBoth⟩
  · rintro ⟨both, runBoth⟩
    obtain ⟨free, enough⟩ :=
      (exists_run_after_iff consistent ne.symm ranFirst ranSecond).mp
        ⟨both, runBoth⟩
    obtain ⟨other, runOther⟩ :=
      (exists_run_after_iff consistent ne ranSecond ranFirst).mpr
        ⟨free, by omega⟩
    obtain ⟨-, readyFirst, -, paidFirst⟩ := first.run_eq_ok_iff.mp ranFirst
    obtain ⟨-, readySecond, -, paidSecond⟩ :=
      second.run_eq_ok_iff.mp ranSecond
    obtain ⟨-, -, -, paidBoth⟩ := second.run_eq_ok_iff.mp runBoth
    obtain ⟨-, -, -, paidOther⟩ := first.run_eq_ok_iff.mp runOther
    obtain ⟨accounts, vault⟩ :=
      payout_payout_frame ne.symm paidFirst paidBoth
    obtain ⟨accountsOther, vaultOther⟩ :=
      payout_payout_frame ne paidSecond paidOther
    refine
      ⟨afterFirst, afterSecond, both, other, ranFirst, ranSecond, runBoth,
        runOther, ?_, ?_, ?_⟩
    · rw [vault, vaultOther, write₂_comm _ _ ne, write₂_comm _ _ ne,
        write_comm _ ne]
    · rw [accounts, accountsOther, write_comm _ ne]
    · exact
        Tokens.transfer_comm ne
          (consistent.registered.ne_vault readyFirst.registered)
          (consistent.registered.ne_vault readySecond.registered)
          (payout_transfer paidFirst) (payout_transfer paidBoth)
          (payout_transfer paidSecond) (payout_transfer paidOther)

/-! ## Two exits with and without a lifecycle record -/

namespace Example

/-- The packed leaf of a user in the first checkpoint. -/
def exitLeaf (index : Fin 900) (amount : Nat) : Bytes32 :=
  ArenaVaultV2.packedLeafHash deployment (accountOf index) amount 1

/-- The root over the leaves of users `1` and `2`. -/
def exitRoot (first second : Nat) : Bytes32 :=
  if exitLeaf 1 first < exitLeaf 2 second then
    ArenaVaultV2.merkleParent deployment (exitLeaf 1 first) (exitLeaf 2 second)
  else
    ArenaVaultV2.merkleParent deployment (exitLeaf 2 second) (exitLeaf 1 first)

/-- The claim of one user, proved with the leaf of the other. -/
def exitClaim (index other : Fin 900) (amount otherAmount : Nat) : ExitClaim :=
  .packed (accountOf index) amount 1 [exitLeaf other otherAmount]

/-- Both claims of `60` and `40` are accepted on their own. -/
def bothExit (sessionId : Bytes32) (state : World) : Bool :=
  ((exitClaim 1 2 60 40).run deployment (message (user 1) 200) state sessionId).isOk &&
    ((exitClaim 2 1 40 60).run deployment (message (user 2) 200) state sessionId).isOk

theorem exists_bothExit {sessionId : Bytes32} {state : World}
    (both : bothExit sessionId state = true) : ∃ afterFirst afterSecond,
    (exitClaim 1 2 60 40).run deployment (message (user 1) 200) state sessionId = .ok afterFirst ∧
      (exitClaim 2 1 40 60).run deployment (message (user 2) 200) state
        sessionId = .ok afterSecond := by
  obtain ⟨one, two⟩ := Bool.and_eq_true_iff.mp both
  cases first : (exitClaim 1 2 60 40).run deployment (message (user 1) 200) state sessionId with
  | error err =>
    rw [first] at one
    cases one
  | ok afterFirst =>
    cases second : (exitClaim 2 1 40 60).run deployment (message (user 2) 200) state
        sessionId with
    | error err =>
      rw [second] at two
      cases two
    | ok afterSecond => exact ⟨afterFirst, afterSecond, rfl, rfl⟩

/-- The session of the sealed table of users `1` and `2`. -/
def sealedId : Bytes32 := (descriptor [(1, 100), (2, 100)]).sessionId

/-- A sealed table of users `1` and `2` with a checkpoint of `60` and `40`. -/
def sealedTable : List (ExternalCall deployment) :=
  enrol 1 7 100 ++ enrol 2 7 100 ++ [sealTable [(1, 100), (2, 100)]] ++
    checkpoint sealedId (exitRoot 60 40)

end Example

/-- At a V2 table of two players both exits go through in either order. -/
theorem exitsIndependent_iff_pairedTable :
    ∃ world : World,
      World.Reachable Example.deployment world ∧
        ExitsIndependent Example.deployment world 5
          (Example.message (Example.user 1) 200)
          (Example.message (Example.user 2) 200)
          (Example.exitClaim 1 2 60 40) (Example.exitClaim 2 1 40 60) := by
  have start :
      World.Reachable Example.deployment
        (Example.world Example.deployment.lifecycle) :=
    .start (Example.initial_world _)
  have observed :
      ((World.protocol Example.deployment).replay AnyCall
          (Example.world Example.deployment.lifecycle)
          (Example.pairedTable ++
            Example.checkpoint 5 (Example.exitRoot 60 40))).any
        (fun state =>
          Example.bothExit 5 state &&
            (state.vault.sessionSealedV3 5 == false &&
              state.usdcBalance Example.deployment == 200)) =
        true := by
    decide +kernel
  obtain ⟨world, reached, facts⟩ := start.exists_replay observed
  obtain ⟨both, rest⟩ := Bool.and_eq_true_iff.mp facts
  obtain ⟨unsealed, balance⟩ := Bool.and_eq_true_iff.mp rest
  obtain ⟨afterFirst, afterSecond, ranFirst, ranSecond⟩ :=
    Example.exists_bothExit both
  refine ⟨world, reached, ?_⟩
  apply (exitsIndependent_iff reached (by decide) ranFirst ranSecond).mpr
  refine ⟨Or.inr (beq_iff_eq.mp unsealed), ?_⟩
  rw [beq_iff_eq.mp balance]
  decide

/--
At a sealed table the first exit makes the second one revert, although each
would be accepted on its own.
-/
theorem exists_dependent_exits :
    ¬ ∀ (deployment : Deployment) (world afterFirst afterSecond : World)
        (sessionId : Bytes32) (msg context : Msg) (first second : ExitClaim),
      World.Reachable deployment world →
        first.player ≠ second.player →
          first.run deployment msg world sessionId = .ok afterFirst →
            second.run deployment context world sessionId =
                .ok afterSecond →
              ExitsIndependent deployment world sessionId msg context first
                second := by
  intro independent
  have start :
      World.Reachable Example.deployment
        (Example.world Example.deployment.lifecycle) :=
    .start (Example.initial_world _)
  have observed :
      ((World.protocol Example.deployment).replay AnyCall
          (Example.world Example.deployment.lifecycle)
          Example.sealedTable).any
        (fun state =>
          Example.bothExit Example.sealedId state &&
            (((Example.exitClaim 1 2 60 40).run Example.deployment
                (Example.message (Example.user 1) 200) state
                Example.sealedId).toOption.any fun after =>
              !((Example.exitClaim 2 1 40 60).run Example.deployment
                (Example.message (Example.user 2) 200) after
                Example.sealedId).isOk)) =
        true := by
    decide +kernel
  obtain ⟨world, reached, facts⟩ := start.exists_replay observed
  obtain ⟨both, refused⟩ := Bool.and_eq_true_iff.mp facts
  obtain ⟨afterFirst, afterSecond, ranFirst, ranSecond⟩ :=
    Example.exists_bothExit both
  obtain ⟨one, two, three, four, runOne, -, runThree, -⟩ :=
    independent Example.deployment world afterFirst afterSecond
      Example.sealedId _ _ _ _ reached (by decide) ranFirst ranSecond
  rw [runOne] at refused
  simp only [Except.toOption, Option.any_some, runThree] at refused
  cases refused

end Mozetto.Chain
