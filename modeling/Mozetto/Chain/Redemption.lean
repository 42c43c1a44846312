import Mozetto.Chain.Settleable

/-!
# Redeeming a checkpoint

A checkpoint may give a participant more than it bought in with: the balances
of its leaves redistribute the pool of the session.  The payout of an exit is
checked against the claimant's own lock, however, so that a proved balance is
redeemed exactly while the claimant still has a positive lock that covers it.
-/

namespace Mozetto.Chain

open Mozetto.Library.Mapping
open Mozetto.Library.TransitionSystem

/-- The balance leaves of the checkpoint an open session was last given. -/
structure AcceptedCheckpoint (deployment : Deployment) (world : World) (sessionId : Bytes32)
    (leaves : List BalanceLeafClaim) : Prop where
  opened : (world.vault.sessions sessionId).openedAt ≠ 0
  unsettled : (world.vault.sessions sessionId).settled = false
  accepted : (world.vault.sessions sessionId).lastBalanceRoot ≠ 0
  root : (world.vault.sessions sessionId).lastBalanceRoot =
      ArenaVaultV2.orderedMerkleRoot deployment
        (leaves.map (ArenaVaultV2.balanceLeafHash deployment))
  labels : ∀ leaf ∈ leaves, leaf.sessionId = sessionId ∧
        leaf.lastSequence = (world.vault.sessions sessionId).lastSequence
  listed : ∀ account, account ∈ leaves.map (·.arenaAccount) ↔
        world.vault.sessionParticipants sessionId account = true
  nodup : (leaves.map (·.arenaAccount)).Nodup

/-- The balances of the leaves fit into what the session has locked. -/
def WithinPool (world : World) (sessionId : Bytes32) (leaves : List BalanceLeafClaim) :
    Prop :=
  (leaves.map (·.currentBalance)).sum ≤
    poolOf world sessionId (leaves.map (·.arenaAccount)).toFinset

/-- A leaf of the checkpoint with a proof, after the emergency delay. -/
structure ProvedLeaf (deployment : Deployment) (msg : Msg) (world : World)
    (sessionId : Bytes32) (leaves : List BalanceLeafClaim)
    (claim : BalanceLeafClaim) (proof : List Bytes32) (siblingIsLeft : List Bool) : Prop where
  member : claim ∈ leaves
  lengths : proof.length = siblingIsLeft.length
  proved : ArenaVaultV2.verifyOrderedMerkleProof deployment
      (ArenaVaultV2.balanceLeafHash deployment claim)
      (world.vault.sessions sessionId).lastBalanceRoot proof siblingIsLeft = true
  due : (world.vault.sessions sessionId).emergencyExitAfter ≤ msg.timestamp

/-- The claimant was paid its balance, which left its lock for good. -/
structure Redeemed (deployment : Deployment) (before after : World) (sessionId : Bytes32)
    (claim : BalanceLeafClaim) : Prop where
  paid : after.tokens.balanceOf deployment.usdc claim.arenaAccount =
      before.tokens.balanceOf deployment.usdc claim.arenaAccount + claim.currentBalance
  locked : after.vault.lockedBySession sessionId claim.arenaAccount + claim.currentBalance =
      before.vault.lockedBySession sessionId claim.arenaAccount
  claimed : after.vault.emergencyExitClaimed sessionId claim.arenaAccount = true

/-- What the vault asks of a proved claim. -/
structure Redeemable (deployment : Deployment) (world : World) (sessionId : Bytes32)
    (claim : BalanceLeafClaim) : Prop where
  running : world.vault.paused = false
  unclaimed : world.vault.emergencyExitClaimed sessionId claim.arenaAccount = false
  ne_feeTreasury : claim.arenaAccount ≠ world.vault.feeTreasury
  locked : world.vault.lockedBySession sessionId claim.arenaAccount ≠ 0
  within : claim.currentBalance ≤ world.vault.lockedBySession sessionId claim.arenaAccount
  covered : claim.currentBalance ≤ world.usdcBalance deployment
  accepts : ArenaVaultV2.hookAccepts deployment world sessionId

section Redemption

variable {deployment : Deployment} {msg : Msg} {world after : World}
variable {sessionId : Bytes32} {leaves : List BalanceLeafClaim}
variable {claim : BalanceLeafClaim} {proof : List Bytes32}
variable {siblingIsLeft : List Bool}

/-- An accepted exit pays exactly the balance of its leaf. -/
theorem redeemed_of_exit (consistent : world.Consistent deployment)
    (run : ArenaVaultV2.emergencyExitWithBalanceLeaf deployment msg world
        sessionId claim proof siblingIsLeft = .ok after) :
    Redeemed deployment world after sessionId claim := by
  rcases ArenaVaultV2.emergencyExitWithBalanceLeaf_eq_ok_iff.mp run with
    ⟨-, -, -, ready, -, -, paid⟩
  have notVault := consistent.registered.ne_vault ready.registered
  have frame := payout_frame paid
  rcases ArenaVaultV2.payoutEmergencyExit_eq_ok_iff.mp paid with ⟨releasable, -⟩
  constructor
  · exact Tokens.transfer_balance_recipient (payout_transfer paid) notVault
  · rw [frame]
    simp only [write₂_self]
    exact Nat.sub_add_cancel releasable.locked
  · rw [frame]
    exact write₂_self _ _ _ _

/-- A proved claim of a participant is accepted exactly when redeemable. -/
theorem exists_exit_iff (consistent : world.Consistent deployment)
    (checkpoint : AcceptedCheckpoint deployment world sessionId leaves)
    (leaf : ProvedLeaf deployment msg world sessionId leaves claim proof siblingIsLeft) :
    (∃ after, ArenaVaultV2.emergencyExitWithBalanceLeaf deployment msg world
        sessionId claim proof siblingIsLeft = .ok after) ↔
      Redeemable deployment world sessionId claim := by
  have participant : world.vault.sessionParticipants sessionId claim.arenaAccount = true :=
    (checkpoint.listed claim.arenaAccount).mp (List.mem_map.mpr ⟨claim, leaf.member, rfl⟩)
  have registered := consistent.participants sessionId claim.arenaAccount participant
  have nonzero := consistent.registered.ne_zero registered
  rcases checkpoint.labels claim leaf.member with ⟨session, sequence⟩
  have payable : (∃ after, ArenaVaultV2.payoutEmergencyExit deployment msg world sessionId
        claim.arenaAccount claim.currentBalance = .ok after) ↔ _ :=
    consistent.exists_payoutEmergencyExit_iff nonzero
  simp only [ArenaVaultV2.emergencyExitWithBalanceLeaf_eq_ok_iff]
  constructor
  · rintro ⟨after, running, -, -, ready, -, -, paid⟩
    rcases payable.mp ⟨after, paid⟩ with ⟨within, locked, covered, accepts⟩
    exact ⟨running, ready.unclaimed, ready.ne_feeTreasury, locked, within, covered, accepts⟩
  · rintro ⟨running, unclaimed, notTreasury, locked, within, covered, accepts⟩
    rcases payable.mpr ⟨within, locked, covered, accepts⟩ with ⟨after, paid⟩
    exact ⟨after, running, leaf.lengths, session,
        ⟨checkpoint.opened, checkpoint.unsettled, leaf.due,
          checkpoint.accepted, nonzero, notTreasury, registered, participant, unclaimed⟩,
        sequence, leaf.proved, paid⟩

/--
Every exit with a proved leaf that the vault accepts pays exactly the balance
of the leaf, and the vault accepts it exactly when it is redeemable: above
all, when the balance does not exceed the claimant's own lock.
-/
theorem redeemed_iff_redeemable
    (reached : World.Reachable deployment world)
    (checkpoint : AcceptedCheckpoint deployment world sessionId leaves)
    (leaf :
      ProvedLeaf deployment msg world sessionId leaves claim proof
        siblingIsLeft) :
    (∃ after,
      ArenaVaultV2.emergencyExitWithBalanceLeaf deployment msg world
          sessionId claim proof siblingIsLeft = .ok after ∧
        Redeemed deployment world after sessionId claim) ↔
      Redeemable deployment world sessionId claim := by
  have consistent := World.Reachable.consistent reached
  rw [← exists_exit_iff consistent checkpoint leaf]
  constructor
  · rintro ⟨after, run, -⟩
    exact ⟨after, run⟩
  · rintro ⟨after, run⟩
    exact ⟨after, run, redeemed_of_exit consistent run⟩

end Redemption

/-! ## A table where one player has won -/

namespace Example

/-- The balance leaf of a user at table `5`. -/
def balanceLeaf (index : Fin 900) (seat balance : Nat) : BalanceLeafClaim where
  sessionId := 5
  epoch := 0
  arenaAccount := accountOf index
  seat := seat
  openingBalance := 100
  currentBalance := balance
  cumulativeRake := 0
  lastSequence := 1

/-- User `2` has won `40` from user `1`. -/
def wonLeaves : List BalanceLeafClaim := [balanceLeaf 1 0 60, balanceLeaf 2 1 140]

def leafHashes : List Bytes32 := wonLeaves.map (ArenaVaultV2.balanceLeafHash deployment)

/-- The paired table with a checkpoint of `60` and `140`. -/
def wonTable : List (ExternalCall deployment) :=
  pairedTable ++ checkpoint 5 (ArenaVaultV2.orderedMerkleRoot deployment leafHashes)

/-- What the examples read of the table. -/
def wonFacts (state : World) : Bool :=
  state.vault.sessionParticipants 5 (accountOf 1) &&
    state.vault.sessionParticipants 5 (accountOf 2) && state.vault.sessionParticipantCount 5 == 2 &&
    state.vault.lockedBySession 5 (accountOf 1) == 100 &&
    state.vault.lockedBySession 5 (accountOf 2) == 100 &&
    decide ((state.vault.sessions 5).openedAt ≠ 0) && !(state.vault.sessions 5).settled &&
    decide ((state.vault.sessions 5).lastBalanceRoot ≠ 0) &&
    (state.vault.sessions 5).lastBalanceRoot ==
      ArenaVaultV2.orderedMerkleRoot deployment leafHashes &&
    (state.vault.sessions 5).lastSequence == 1 &&
    decide ((state.vault.sessions 5).emergencyExitAfter ≤ 201) && !state.vault.paused &&
    !state.vault.emergencyExitClaimed 5 (accountOf 1) &&
    decide (accountOf 1 ≠ state.vault.feeTreasury) && decide (60 ≤ state.usdcBalance deployment) &&
    state.vault.sessionLifecycle == 0

/-- The table is reached, and its checkpoint lists both players. -/
theorem exists_wonTable : ∃ state : World,
    World.Reachable deployment state ∧ wonFacts state = true ∧
      AcceptedCheckpoint deployment state 5 wonLeaves ∧ WithinPool state 5 wonLeaves := by
  have start : World.Reachable deployment (world 0) := .start (initial_world 0)
  have observed : ((World.protocol deployment).replay AnyCall (world 0) wonTable).any
      wonFacts = true := by
    decide +kernel
  rcases start.exists_replay observed with ⟨state, reached, holds⟩
  refine ⟨state, reached, holds, ?_⟩
  simp only [wonFacts, Bool.and_eq_true, beq_iff_eq, Bool.not_eq_true', decide_eq_true_eq] at holds
  rcases holds with ⟨⟨⟨⟨⟨⟨⟨⟨⟨⟨⟨⟨⟨⟨⟨memberFirst, memberSecond⟩, count⟩, first⟩,
    second⟩, opened⟩, unsettled⟩, accepted⟩, root⟩, sequence⟩, -⟩, -⟩, -⟩, -⟩, -⟩, -⟩
  rcases (World.Reachable.consistent reached).exists_roster 5 with ⟨members, roster, card⟩
  have pair : {accountOf 1, accountOf 2} = members := by
    apply Finset.eq_of_subset_of_card_le
    · intro account inside
      simp only [Finset.mem_insert, Finset.mem_singleton] at inside
      rcases inside with rfl | rfl
      · exact (roster _).mpr memberFirst
      · exact (roster _).mpr memberSecond
    · rw [card, count]
      decide
  constructor
  · constructor
    · exact opened
    · exact unsettled
    · exact accepted
    · exact root
    · rw [sequence]
      decide
    · intro account
      rw [← roster account, ← pair]
      simp [wonLeaves, balanceLeaf]
    · decide
  · have accounts : (wonLeaves.map (·.arenaAccount)).toFinset = {accountOf 1, accountOf 2} := by
      decide
    unfold WithinPool poolOf
    rw [accounts, Finset.sum_pair (by decide), first, second]
    decide

end Example

/-- The player who lost redeems what the checkpoint leaves him. -/
theorem redeemed_iff_redeemable_wonTable :
    ∃ before after : World,
      World.Reachable Example.deployment before ∧
        Redeemed Example.deployment before after 5
          (Example.balanceLeaf 1 0 60) := by
  rcases Example.exists_wonTable with ⟨state, reached, holds, checkpoint, -⟩
  simp only [Example.wonFacts, Bool.and_eq_true, beq_iff_eq,
    Bool.not_eq_true', decide_eq_true_eq] at holds
  rcases holds with ⟨⟨⟨⟨⟨⟨⟨⟨⟨⟨⟨⟨⟨⟨⟨-, -⟩, -⟩, first⟩, -⟩, -⟩, -⟩, -⟩, root⟩,
    -⟩, due⟩, running⟩, unclaimed⟩, notTreasury⟩, covered⟩, lifecycle⟩
  have leaf :
      ProvedLeaf Example.deployment (Example.message (Example.user 1) 200)
        state 5 Example.wonLeaves (Example.balanceLeaf 1 0 60)
        [ArenaVaultV2.balanceLeafHash Example.deployment
          (Example.balanceLeaf 2 1 140)]
        [false] := by
    constructor
    · decide
    · decide
    · rw [root]
      decide +kernel
    · exact due
  have redeems :=
    (redeemed_iff_redeemable reached checkpoint leaf).mpr
      ⟨running, unclaimed, notTreasury,
        by
          show state.vault.lockedBySession 5 (Example.accountOf 1) ≠ 0
          rw [first]
          decide,
        by
          show 60 ≤ state.vault.lockedBySession 5 (Example.accountOf 1)
          rw [first]
          decide,
        covered, Or.inl lifecycle⟩
  rcases redeems with ⟨after, -, redeemed⟩
  exact ⟨state, after, reached, redeemed⟩

/-- The player who won has a proved balance above the own lock. -/
theorem exists_unredeemable :
    ¬ ∀ (deployment : Deployment) (msg : Msg) (world : World)
        (sessionId : Bytes32) (leaves : List BalanceLeafClaim)
        (claim : BalanceLeafClaim) (proof : List Bytes32)
        (siblingIsLeft : List Bool),
      World.Reachable deployment world →
        AcceptedCheckpoint deployment world sessionId leaves →
          WithinPool world sessionId leaves →
            ProvedLeaf deployment msg world sessionId leaves claim proof
                siblingIsLeft →
              ∃ after,
                ArenaVaultV2.emergencyExitWithBalanceLeaf deployment msg
                    world sessionId claim proof siblingIsLeft = .ok after ∧
                  Redeemed deployment world after sessionId claim := by
  intro redeems
  rcases Example.exists_wonTable with
    ⟨state, reached, holds, checkpoint, within⟩
  simp only [Example.wonFacts, Bool.and_eq_true, beq_iff_eq,
    Bool.not_eq_true', decide_eq_true_eq] at holds
  rcases holds with ⟨⟨⟨⟨⟨⟨⟨⟨⟨⟨⟨⟨⟨⟨⟨-, -⟩, -⟩, -⟩, second⟩, -⟩, -⟩, -⟩, root⟩,
    -⟩, due⟩, -⟩, -⟩, -⟩, -⟩, -⟩
  have leaf :
      ProvedLeaf Example.deployment (Example.message (Example.user 2) 200)
        state 5 Example.wonLeaves (Example.balanceLeaf 2 1 140)
        [ArenaVaultV2.balanceLeafHash Example.deployment
          (Example.balanceLeaf 1 0 60)]
        [true] := by
    constructor
    · decide
    · decide
    · rw [root]
      decide +kernel
    · exact due
  rcases redeems Example.deployment _ state 5 Example.wonLeaves _ _ _ reached
      checkpoint within leaf with ⟨after, run, -⟩
  have redeemable :=
    (exists_exit_iff (World.Reachable.consistent reached) checkpoint
      leaf).mp ⟨after, run⟩
  have above : 140 ≤ state.vault.lockedBySession 5 (Example.accountOf 2) :=
    redeemable.within
  rw [second] at above
  omega

end Mozetto.Chain
