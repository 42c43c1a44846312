import Mozetto.Chain.EmergencyExits
import Mozetto.Chain.Payouts
import Mozetto.Chain.Solvency

/-!
# Sessions that can still be settled

A settlement names every participant once, also those whose lock is zero,
and releases exposure in every account it names.  A full emergency exit
makes the account forget the session, so that no payload can be accepted
afterwards.  This module says exactly in which worlds some payload settles a
session.
-/

namespace Mozetto.Chain

open Mozetto.Library.TransitionSystem

/-- A settlement payload that succeeds and clears every lock of the session. -/
def CanSettle (deployment : Deployment) (world : World) (sessionId : Bytes32) : Prop :=
  ∃ (msg : Msg) (players : List SettlementPlayer) (rake : Nat) (after : World),
    msg.sender = world.vault.settlementHub ∧
      ArenaVaultV2.settleSession deployment msg world sessionId players rake = .ok after ∧
      ∀ account, after.vault.lockedBySession sessionId account = 0

/-- The participants of a session as a finite set. -/
def IsRoster (world : World) (sessionId : Bytes32) (members : Finset Address) : Prop :=
  ∀ account, account ∈ members ↔ world.vault.sessionParticipants sessionId account = true

/-- What the participants of a session have locked together. -/
def poolOf (world : World) (sessionId : Bytes32) (members : Finset Address) : Nat :=
  ∑ account ∈ members, world.vault.lockedBySession sessionId account

/--
The condition under which a session can be settled: every participant still
has a lock, the fee treasury is none of them, the lifecycle hook passes, and
the amounts stay within the word size.
-/
structure Settleable (deployment : Deployment) (world : World) (sessionId : Bytes32)
    (members : Finset Address) : Prop where
  locked : ∀ account ∈ members, world.vault.lockedBySession sessionId account ≠ 0
  feeTreasury : world.vault.feeTreasury ∉ members
  hook : ArenaVaultV2.hookAccepts deployment world sessionId
  pool_lt : poolOf world sessionId members < uint256Size
  fees_lt : world.vault.accruedProtocolFees +
        (poolOf world sessionId members - world.usdcBalance deployment) < uint256Size

section Payloads

variable {deployment : Deployment} {world : World} {sessionId : Bytes32}
variable {members : Finset Address} {players : List SettlementPlayer}
variable {rake : Nat}

/-- A consistent world counts each session's participants in a finite set. -/
theorem World.Consistent.exists_roster
    (consistent : world.Consistent deployment) (sessionId : Bytes32) :
    ∃ members, IsRoster world sessionId members ∧
      members.card = world.vault.sessionParticipantCount sessionId := by
  obtain ⟨members, card, mem_iff⟩ := consistent.formed.roster sessionId
  exact ⟨members, mem_iff, card⟩

theorem IsRoster.unique {others : Finset Address} (roster : IsRoster world sessionId members)
    (same : IsRoster world sessionId others) : members = others := by
  ext account
  rw [roster account, same account]

theorem IsRoster.card (consistent : world.Consistent deployment)
    (roster : IsRoster world sessionId members) :
    members.card = world.vault.sessionParticipantCount sessionId := by
  obtain ⟨others, same, card⟩ := consistent.exists_roster sessionId
  rw [roster.unique same, card]

/-- The users of an accepted payload are all participants. -/
theorem users_of_payload (consistent : world.Consistent deployment)
    (roster : IsRoster world sessionId members)
    (payload : ArenaVaultV2.Payload world sessionId players rake) :
    (players.map (·.user)).toFinset = members := by
  apply Finset.eq_of_subset_of_card_le
  · intro account member
    obtain ⟨row, inside, rfl⟩ := List.mem_map.mp (List.mem_toFinset.mp member)
    exact (roster row.user).mpr (payload.rows row inside).participant
  · rw [roster.card consistent, List.toFinset_card_of_nodup payload.nodup,
      List.length_map, payload.count]

/-- The payload with one row for every participant, paying nothing yet. -/
noncomputable def fullPayload (world : World) (sessionId : Bytes32) (members : Finset Address) :
    List SettlementPlayer :=
  members.toList.map fun account =>
    { user := account
      startLocked := world.vault.lockedBySession sessionId account
      endBalance := 0 }

theorem fullPayload_users :
    (fullPayload world sessionId members).map (·.user) = members.toList := by
  simp [fullPayload, Function.comp_def]

theorem startTotal_fullPayload : startTotal (fullPayload world sessionId members) =
    poolOf world sessionId members := by
  simp only [startTotal, fullPayload, List.map_map, poolOf, Function.comp_def]
  exact Finset.sum_map_toList members _

/-- Rows for all participants that pay out `paid` altogether. -/
theorem exists_payload_paying (consistent : world.Consistent deployment)
    (roster : IsRoster world sessionId members) (treasury : world.vault.feeTreasury ∉ members)
    (fits : poolOf world sessionId members < uint256Size)
    {paid : Nat} (within : paid ≤ poolOf world sessionId members) : ∃ players,
    ArenaVaultV2.Payload world sessionId players (poolOf world sessionId members - paid) ∧
      endTotal players = paid ∧ ∀ row ∈ players, row.user ∈ members ∧ row.startLocked =
            world.vault.lockedBySession sessionId row.user := by
  have build : ∀ rows : List SettlementPlayer, rows.map (fun row => (row.user, row.startLocked)) =
          (fullPayload world sessionId members).map (fun row => (row.user, row.startLocked)) →
        endTotal rows = paid → ArenaVaultV2.Payload world sessionId rows
              (poolOf world sessionId members - paid) ∧ endTotal rows = paid ∧ ∀ row ∈ rows,
              row.user ∈ members ∧ row.startLocked =
                  world.vault.lockedBySession sessionId row.user := by
    intro rows same ending
    have users : rows.map (·.user) = members.toList := by
      have projected := congrArg (List.map Prod.fst) same
      simp only [List.map_map, Function.comp_def] at projected
      rw [projected]
      exact fullPayload_users
    have starts : startTotal rows = poolOf world sessionId members := by
      have projected := congrArg (List.map Prod.snd) same
      simp only [List.map_map, Function.comp_def] at projected
      unfold startTotal
      rw [projected]
      exact startTotal_fullPayload
    have shape : ∀ row ∈ rows, row.user ∈ members ∧ row.startLocked =
            world.vault.lockedBySession sessionId row.user := by
      intro row inside
      have pair : (row.user, row.startLocked) ∈ rows.map (fun row => (row.user, row.startLocked)) :=
        List.mem_map.mpr ⟨row, inside, rfl⟩
      rw [same] at pair
      simp only [fullPayload, List.map_map, List.mem_map, Function.comp_def,
        Finset.mem_toList, Prod.mk.injEq] at pair
      obtain ⟨account, member, user, start⟩ := pair
      rw [← user, ← start]
      exact ⟨member, rfl⟩
    refine ⟨⟨?_, ?_, ?_, ?_, ?_⟩, ending, shape⟩
    · have length := congrArg List.length users
      simp only [List.length_map, Finset.length_toList] at length
      rw [length, roster.card consistent]
    · intro row inside
      obtain ⟨member, start⟩ := shape row inside
      have participant := (roster row.user).mp member
      have registered := consistent.participants sessionId row.user participant
      exact ⟨consistent.registered.ne_zero registered,
          fun equal => treasury (equal ▸ member), registered, participant, start.symm⟩
    · rw [users]
      exact members.nodup_toList
    · rw [starts]
      exact fits
    · rw [starts, ending]
      omega
  by_cases nobody : members = ∅
  · have empty : poolOf world sessionId members = 0 := by
      simp [poolOf, nobody]
    refine ⟨fullPayload world sessionId members, build _ rfl ?_⟩
    simp only [fullPayload, nobody, Finset.toList_empty, List.map_nil, endTotal_nil]
    omega
  · obtain ⟨target, member⟩ := Finset.nonempty_of_ne_empty nobody
    refine ⟨payAll target paid (fullPayload world sessionId members), build _ ?_ ?_⟩
    · simp [payAll, Function.comp_def]
    · apply endTotal_payAll
      · rw [fullPayload_users]
        exact members.nodup_toList
      · rw [fullPayload_users]
        exact Finset.mem_toList.mpr member

/-- A settled session has nothing locked any more. -/
theorem locked_after_settle {msg : Msg} {after : World} (consistent : world.Consistent deployment)
    (settled : ArenaVaultV2.settleSession deployment msg world sessionId players rake = .ok after)
    (account : Address) :
    after.vault.lockedBySession sessionId account = 0 := by
  obtain ⟨-, -, -, payload, released, releases, closed, close, notified⟩ :=
    ArenaVaultV2.settleSession_eq_ok_iff.mp settled
  obtain ⟨-, rfl⟩ := ArenaVaultV2.notifyLifecycleSettled_eq_ok_iff.mp notified
  obtain ⟨-, rfl⟩ := ArenaVaultV2.closeSession_eq_ok_iff.mp close
  have payees := World.payees_of_payload consistent.registered payload
  have rows := ArenaVaultV2.releaseRows_eq_ok payees releases
  rw [ArenaVaultV2.hooked_frame]
  show released.vault.lockedBySession sessionId account = 0
  by_cases listed : ∃ row ∈ players, row.user = account
  · obtain ⟨row, inside, rfl⟩ := listed
    have lowered := rows.row row inside
    have matching := (payload.rows row inside).locked
    omega
  · rw [rows.elsewhere sessionId account (fun both => listed both.2)]
    by_contra locked
    obtain ⟨members, roster, -⟩ := consistent.exists_roster sessionId
    have participant := consistent.formed.participant_of_locked sessionId account locked
    have member := (roster account).mpr participant
    rw [← users_of_payload consistent roster payload] at member
    exact listed (List.mem_map.mp (List.mem_toFinset.mp member))

end Payloads

section Conditions

variable {deployment : Deployment} {world : World} {sessionId : Bytes32}
variable {members : Finset Address}

/-- Whatever settles a session shows that it is settleable. -/
theorem CanSettle.settleable (settles : CanSettle deployment world sessionId)
    (consistent : world.Consistent deployment) (roster : IsRoster world sessionId members) :
    Settleable deployment world sessionId members := by
  obtain ⟨msg, players, rake, after, -, settled, -⟩ := settles
  obtain ⟨-, -, -, payload, positive, enough, fits, accepts⟩ :=
    consistent.exists_settleSession_iff.mp ⟨after, settled⟩
  have users := users_of_payload consistent roster payload
  have pool : poolOf world sessionId members = startTotal players := by
    have sums := World.sum_locked_of_payload payload
    rw [users] at sums
    exact sums
  have conserved := payload.conserved
  constructor
  · intro account member
    rw [← users] at member
    obtain ⟨row, inside, rfl⟩ := List.mem_map.mp (List.mem_toFinset.mp member)
    rw [(payload.rows row inside).locked]
    exact positive row inside
  · intro member
    rw [← users] at member
    obtain ⟨row, inside, equal⟩ := List.mem_map.mp (List.mem_toFinset.mp member)
    exact (payload.rows row inside).ne_feeTreasury equal
  · exact accepts
  · rw [pool]
    exact payload.fits
  · rw [pool]
    have bound := consistent.accrued_lt
    rcases fits with zero | fits
    · omega
    · omega

/-- The hub as a caller, with contracts outside the deployment silent. -/
def hubContext (world : World) : Msg where
  sender := world.vault.settlementHub
  timestamp := 1
  timestamp_pos := Nat.one_pos
  timestamp_lt := one_lt_uint64Size
  isValidSignatureNow := fun _ _ _ => false
  isActiveForNewSessions := fun _ _ => none
  buyInBand := fun _ _ => none
  settlementVerify := fun _ _ _ _ => none
  isSequenceAccepted := fun _ _ => none

/-- A settleable session is settled by paying out what the vault has. -/
theorem Settleable.canSettle (settleable : Settleable deployment world sessionId members)
    (consistent : world.Consistent deployment)
    (opened : (world.vault.sessions sessionId).openedAt ≠ 0)
    (unsettled : (world.vault.sessions sessionId).settled = false)
    (roster : IsRoster world sessionId members) :
    CanSettle deployment world sessionId := by
  obtain ⟨locked, treasury, accepts, pool, fees⟩ := settleable
  obtain ⟨players, payload, ending, shape⟩ :=
    exists_payload_paying consistent roster treasury pool
      (Nat.min_le_left (poolOf world sessionId members) (world.usdcBalance deployment))
  have settles : ∃ after, ArenaVaultV2.settleSession deployment (hubContext world) world
        sessionId players (poolOf world sessionId members - min (poolOf world sessionId members)
            (world.usdcBalance deployment)) = .ok after := by
    apply consistent.exists_settleSession_iff.mpr
    refine ⟨rfl, opened, unsettled, payload, ?_, ?_, ?_, accepts⟩
    · intro row inside
      obtain ⟨member, start⟩ := shape row inside
      rw [start]
      exact locked row.user member
    · rw [ending]
      exact Nat.min_le_right _ _
    · right
      omega
  obtain ⟨after, settled⟩ := settles
  exact ⟨hubContext world, players, _, after, rfl, settled, locked_after_settle consistent settled⟩

end Conditions

/--
In a reachable world an open session can be settled exactly when it is
settleable: in particular every participant must still have a lock.
-/
theorem canSettle_iff
    {deployment : Deployment} {world : World} {sessionId : Bytes32}
    {members : Finset Address}
    (reached : World.Reachable deployment world)
    (opened : (world.vault.sessions sessionId).openedAt ≠ 0)
    (unsettled : (world.vault.sessions sessionId).settled = false)
    (roster : IsRoster world sessionId members) :
    CanSettle deployment world sessionId ↔
      Settleable deployment world sessionId members := by
  constructor
  · intro settles
    exact settles.settleable reached.consistent roster
  · intro settleable
    exact
      settleable.canSettle reached.consistent opened unsettled roster

/-! ## Partial and full exits at a V2 table -/

namespace Example

/-- User `1` exits with `first` at table `5`, proved next to `second`. -/
def exitedTable (first second : Nat) : List (ExternalCall deployment) :=
  pairedTable ++ checkpoint 5 (exitRoot first second) ++ [call 1 200 (.vault
        (.emergencyExit 5 (accountOf 1) first 1 [exitLeaf 2 second]))]

/-- The table after user `1` left `remaining` locked. -/
def leftLocked (remaining : Nat) (state : World) : Bool :=
  state.vault.lockedBySession 5 (accountOf 1) == remaining &&
    state.vault.lockedBySession 5 (accountOf 2) == 100 &&
    state.vault.sessionParticipants 5 (accountOf 1) &&
    state.vault.sessionParticipants 5 (accountOf 2) && state.vault.sessionParticipantCount 5 == 2 &&
    (state.vault.sessions 5).openedAt == 1 && !(state.vault.sessions 5).settled &&
    state.vault.sessionLifecycle == 0 && state.vault.feeTreasury == deployment.feeVault &&
    state.vault.accruedProtocolFees == 0

end Example

/-- After a partial exit the table can still be settled. -/
theorem canSettle_iff_partialExit :
    ∃ world : World,
      World.Reachable Example.deployment world ∧
        world.vault.lockedBySession 5 (Example.accountOf 1) = 40 ∧
        CanSettle Example.deployment world 5 := by
  have start : World.Reachable Example.deployment (Example.world 0) :=
    .start (Example.initial_world 0)
  have observed :
      ((World.protocol Example.deployment).replay AnyCall (Example.world 0)
          (Example.exitedTable 60 40)).any (Example.leftLocked 40) =
        true := by
    decide +kernel
  obtain ⟨world, reached, facts⟩ := start.exists_replay observed
  simp only [Example.leftLocked, Bool.and_eq_true, beq_iff_eq,
    Bool.not_eq_true'] at facts
  obtain ⟨⟨⟨⟨⟨⟨⟨⟨⟨first, second⟩, memberFirst⟩, memberSecond⟩, count⟩,
    opened⟩, unsettled⟩, lifecycle⟩, treasury⟩, accrued⟩ := facts
  obtain ⟨members, roster, card⟩ := (World.Reachable.consistent reached).exists_roster 5
  have pair : {Example.accountOf 1, Example.accountOf 2} = members := by
    apply Finset.eq_of_subset_of_card_le
    · intro account inside
      simp only [Finset.mem_insert, Finset.mem_singleton] at inside
      rcases inside with rfl | rfl
      · exact (roster _).mpr memberFirst
      · exact (roster _).mpr memberSecond
    · rw [card, count]
      decide
  have pool : poolOf world 5 members = 140 := by
    unfold poolOf
    rw [← pair, Finset.sum_pair (by decide), first, second]
  refine ⟨world, reached, first, ?_⟩
  apply (canSettle_iff reached (by omega) unsettled roster).mpr
  constructor
  · rw [← pair]
    simp [first, second]
  · rw [← pair, treasury]
    decide
  · exact Or.inl lifecycle
  · rw [pool]
    decide
  · rw [pool, accrued]
    have large : 140 < uint256Size := by decide
    omega

/-- After a full exit of one player the table can never be settled. -/
theorem exists_unsettleable :
    ¬ ∀ (deployment : Deployment) (world : World) (sessionId : Bytes32),
      World.Reachable deployment world →
        (world.vault.sessions sessionId).openedAt ≠ 0 →
          (world.vault.sessions sessionId).settled = false →
            CanSettle deployment world sessionId := by
  intro settles
  have start : World.Reachable Example.deployment (Example.world 0) :=
    .start (Example.initial_world 0)
  have observed :
      ((World.protocol Example.deployment).replay AnyCall (Example.world 0)
          (Example.exitedTable 100 100)).any (Example.leftLocked 0) =
        true := by
    decide +kernel
  obtain ⟨world, reached, facts⟩ := start.exists_replay observed
  simp only [Example.leftLocked, Bool.and_eq_true, beq_iff_eq,
    Bool.not_eq_true'] at facts
  obtain ⟨⟨⟨⟨⟨⟨⟨⟨⟨first, -⟩, member⟩, -⟩, -⟩, opened⟩, unsettled⟩, -⟩, -⟩,
    -⟩ := facts
  obtain ⟨members, roster, -⟩ := (World.Reachable.consistent reached).exists_roster 5
  have settleable :=
    (settles Example.deployment world 5 reached (by omega)
      unsettled).settleable (World.Reachable.consistent reached) roster
  exact settleable.locked _ ((roster _).mpr member) first

end Mozetto.Chain
