import Mozetto.Chain.Settleable

/-!
# Settlements leave nothing behind

A settlement never iterates over the participants of its session.  That it
clears every lock follows by counting: its rows name different participants,
there are as many rows as participants, and only participants have locks.
Afterwards the session is out of reach of every operation that moves locks.
-/

namespace Mozetto.Chain

open Mozetto.Library.Guarded
open Mozetto.Library.TransitionSystem

/-! ## Settled sessions -/

namespace ArenaVaultV2

variable {deployment : Deployment} {msg : Msg} {before after : World}
variable {sessionId other : Bytes32}

/-- Topping up and rebuying are refused once the session is settled. -/
theorem topUpSession_open {ticket : SeatTicket} {signature : Bytes}
    (ok : topUpSession deployment msg before sessionId ticket signature = .ok after) :
    (before.vault.sessions sessionId).settled = false := by
  simp only [topUpSession, bind_eq_ok_iff, requireMutableSession_eq_ok_iff] at ok
  rcases ok with ⟨-, -, -, -, -, ⟨-, unsettled, -⟩, -⟩
  exact unsettled

theorem rebuySession_open {ticket : SeatTicket} {signature : Bytes}
    (ok : rebuySession deployment msg before sessionId ticket signature = .ok after) :
    (before.vault.sessions sessionId).settled = false := by
  simp only [rebuySession, bind_eq_ok_iff, requireMutableSession_eq_ok_iff] at ok
  rcases ok with ⟨-, -, -, -, -, ⟨-, unsettled, -⟩, -⟩
  exact unsettled

variable (deployment) in
/-- A fold of locks for one session keeps every other session. -/
theorem sameSession_of_locks {ι : Type} {entries : List ι} {lock : World → ι → Except Revert World}
    (ne : other ≠ sessionId)
    (locks : ∀ state entry result, lock state entry = .ok result → ∃ account amount,
          LockEffect deployment state result sessionId account amount)
    (run : entries.foldlM lock before = .ok after) :
    before.vault.ledger.SameSession other after.vault.ledger := by
  refine foldlM_preserves (motive := fun state : World =>
        before.vault.ledger.SameSession other state.vault.ledger)
      ?_ (.refl other before.vault.ledger) run
  intro state entry result _ same locked
  rcases locks state entry result locked with ⟨account, amount, effect⟩
  rw [effect.ledger]
  exact same.trans (.join ne account amount)

/-- A fold of releases from one session keeps every other session. -/
theorem sameSession_of_releases {players : List SettlementPlayer} (ne : other ≠ sessionId)
    (run : players.foldlM (releaseRow deployment msg sessionId) before = .ok after) :
    before.vault.ledger.SameSession other after.vault.ledger := by
  refine foldlM_preserves (motive := fun state : World =>
        before.vault.ledger.SameSession other state.vault.ledger)
      ?_ (.refl other before.vault.ledger) run
  intro state row result _ same released
  rcases releaseRow_eq_ok_iff_pays.mp released with ⟨-, tokens, -, rfl⟩
  exact same.trans (.release ne row.user row.startLocked)

theorem sameSession_of_settle {players : List SettlementPlayer} {rake : Nat}
    (ne : other ≠ sessionId)
    (run : settleSession deployment msg before sessionId players rake = .ok after) :
    before.vault.ledger.SameSession other after.vault.ledger := by
  rcases settleSession_eq_ok_iff.mp run with
    ⟨-, -, -, -, released, releases, closed, close, notified⟩
  rcases notifyLifecycleSettled_eq_ok_iff.mp notified with ⟨-, rfl⟩
  rw [hooked_frame]
  apply (sameSession_of_releases ne releases).trans
  have ledger := closeSession_ledger close
  show released.vault.ledger.SameSession other closed.ledger
  rw [ledger]
  exact .close ne rake

theorem sameSession_of_exit {player : Address} {tableBalance : Nat} (ne : other ≠ sessionId)
    (run : payoutEmergencyExit deployment msg before sessionId player tableBalance = .ok after) :
    before.vault.ledger.SameSession other after.vault.ledger := by
  rcases payoutEmergencyExit_eq_ok_iff.mp run with ⟨-, -, tokens, -, rfl⟩
  rw [hooked_frame]
  exact .release ne player tableBalance

end ArenaVaultV2

/-- The session was opened and settled. -/
structure Finished (world : World) (sessionId : Bytes32) : Prop where
  opened : world.vault.ledger.opened sessionId = true
  settled : world.vault.ledger.settled sessionId = true

namespace Finished

variable {deployment : Deployment} {before after : World}
variable {sessionId other : Bytes32}

theorem of_sameSession (finished : Finished before sessionId)
    (same : before.vault.ledger.SameSession sessionId after.vault.ledger) :
    Finished after sessionId where
  opened := same.opened.trans finished.opened
  settled := same.settled.trans finished.settled

/-- A session that was never opened is another one. -/
theorem ne_of_unopened (finished : Finished before sessionId)
    (fresh : (before.vault.sessions other).openedAt = 0) : sessionId ≠ other := by
  rintro rfl
  have opened := finished.opened
  simp [ArenaVaultV2.ledger, fresh] at opened

/-- A session that is not settled is another one. -/
theorem ne_of_unsettled (finished : Finished before sessionId)
    (unsettled : (before.vault.sessions other).settled = false) : sessionId ≠ other := by
  rintro rfl
  have settled : (before.vault.sessions sessionId).settled = true := finished.settled
  rw [unsettled] at settled
  cases settled

/-- No accepted call touches a finished session. -/
theorem sameSession {operation : Operation} (finished : Finished before sessionId)
    (effect : Effect deployment operation before after) :
    before.vault.ledger.SameSession sessionId after.vault.ledger := by
  cases effect with
  | quiet unchanged =>
    rw [unchanged.ledger]
    exact .refl sessionId before.vault.ledger
  | funded run =>
    rcases ArenaVaultV2.sealAndFundSession_eq_ok run with
      ⟨opened, funded, openedAs, locks, notified⟩
    have ne := finished.ne_of_unopened openedAs.effect.fresh
    rw [ArenaVaultV2.notifyLifecycleSealed_frame notified]
    have begun : before.vault.ledger.SameSession sessionId
        opened.vault.ledger := by
      rw [openedAs.effect.ledger]
      exact .openSession ne
    have seated : opened.vault.ledger.SameSession sessionId
        funded.vault.ledger := by
      refine ArenaVaultV2.sameSession_of_locks deployment ne ?_ locks
      intro state entry result locked
      exact ⟨_, _, (ArenaVaultV2.lockFromTicketV3_eq_ok locked).1⟩
    exact begun.trans seated
  | opened run =>
    rcases ArenaVaultV2.openSession_eq_ok run with ⟨opened, openedAs, locks⟩
    have ne := finished.ne_of_unopened openedAs.effect.fresh
    have begun : before.vault.ledger.SameSession sessionId
        opened.vault.ledger := by
      rw [openedAs.effect.ledger]
      exact .openSession ne
    have seated : opened.vault.ledger.SameSession sessionId
        after.vault.ledger := by
      refine ArenaVaultV2.sameSession_of_locks deployment ne ?_ locks
      intro state entry result locked
      exact ⟨_, _, ArenaVaultV2.lockFromTicket_eq_ok locked⟩
    exact begun.trans seated
  | toppedUp run =>
    have effect := (ArenaVaultV2.topUpSession_eq_ok run).2
    have ne := finished.ne_of_unsettled (ArenaVaultV2.topUpSession_open run)
    rw [effect.ledger]
    exact .join ne _ _
  | rebought run =>
    have effect := (ArenaVaultV2.rebuySession_eq_ok run).2
    have ne := finished.ne_of_unsettled (ArenaVaultV2.rebuySession_open run)
    rw [effect.ledger]
    exact .raise ne _ _
  | @settled _ _ middle _ _ _ _ _ recorded run =>
    have unsettled := (ArenaVaultV2.settleSession_eq_ok_iff.mp run).2.2.1
    have same : before.vault.ledger.SameSession sessionId
        middle.vault.ledger := by
      rw [recorded.ledger]
      exact .refl sessionId before.vault.ledger
    have ne := (finished.of_sameSession same).ne_of_unsettled unsettled
    exact same.trans (ArenaVaultV2.sameSession_of_settle ne run)
  | withdrew run =>
    rcases ArenaVaultV2.withdrawProtocolFees_eq_ok run with ⟨-, ledger, -, -⟩
    rw [ledger]
    exact .payFees _
  | exited ready run =>
    have ne := finished.ne_of_unsettled ready.unsettled
    exact ArenaVaultV2.sameSession_of_exit ne run

/-- Whatever happens after, a finished session stays as it is. -/
theorem continued (reached : World.Reachable deployment before)
    (finished : Finished before sessionId)
    (run : ((World.protocol deployment).startingAt before).Reachable AnyCall after) :
    before.vault.ledger.SameSession sessionId after.vault.ledger := by
  induction run with
  | start initial =>
    rw [show _ = before from initial]
    exact .refl sessionId before.vault.ledger
  | @next middle last call run admitted accepted same =>
    have consistent := World.Reachable.consistent (reached.continue run)
    have effect := Effect.of_stepOperation consistent.registered call.outside accepted
    have step := (finished.of_sameSession same).sameSession effect
    exact same.trans step

end Finished

/-! ## What a settlement does -/

/-- What an operation settles, directly or relayed by the hub. -/
def settlementOf : Operation → Option (Bytes32 × List SettlementPlayer × Nat)
  | .vault (.settleSession sessionId players rake) =>
      some (sessionId, players, rake)
  | .hub (.settle settlement players _ _) =>
      some (settlement.sessionId, players, settlement.totalRake)
  | .hub (.settleWithProof settlement players _ _) =>
      some (settlement.sessionId, players, settlement.totalRake)
  | _ => none

/-- What the rows of a payload pay to one account. -/
def payoutOf (players : List SettlementPlayer) (account : Address) : Nat :=
  endTotal (players.filter fun row => row.user = account)

section Payouts

variable {players : List SettlementPlayer} {account : Address}

theorem payoutOf_of_not_mem (absent : ∀ row ∈ players, row.user ≠ account) :
    payoutOf players account = 0 := by
  have none : players.filter (fun row => row.user = account) = [] := by
    rw [List.filter_eq_nil_iff]
    intro row inside
    simpa using absent row inside
  rw [payoutOf, none, endTotal_nil]

theorem payoutOf_of_mem {row : SettlementPlayer}
    (nodup : (players.map (·.user)).Nodup) (inside : row ∈ players) :
    payoutOf players row.user = row.endBalance := by
  induction players with
  | nil => cases inside
  | cons first rest induction =>
    simp only [List.map_cons, List.nodup_cons, List.mem_map, not_exists, not_and] at nodup
    rcases List.mem_cons.mp inside with rfl | later
    · have others : payoutOf rest row.user = 0 := payoutOf_of_not_mem nodup.1
      unfold payoutOf at others ⊢
      rw [List.filter_cons_of_pos (by simp), endTotal_cons, others, Nat.add_zero]
    · have ne : first.user ≠ row.user := fun equal => nodup.1 row later equal.symm
      have kept := induction nodup.2 later
      unfold payoutOf at kept ⊢
      rw [List.filter_cons_of_neg (by simpa using ne), kept]

theorem sum_payoutOf (nodup : (players.map (·.user)).Nodup) :
    ∑ account ∈ (players.map (·.user)).toFinset, payoutOf players account =
      endTotal players := by
  rw [List.sum_toFinset _ nodup, List.map_map]
  unfold endTotal
  congr 1
  apply List.map_congr_left
  intro row inside
  exact payoutOf_of_mem nodup inside

end Payouts

/-- A settlement pays out and clears the whole pool of its session. -/
structure SettledWholly (deployment : Deployment) (before after : World) (sessionId : Bytes32)
    (players : List SettlementPlayer) (rake : Nat) : Prop where
  cleared : ∀ account, after.vault.lockedBySession sessionId account = 0
  paid : ∀ holder, holder ≠ deployment.vault → after.tokens.balanceOf deployment.usdc holder =
        before.tokens.balanceOf deployment.usdc holder + payoutOf players holder
  participants : ∀ account, payoutOf players account ≠ 0 →
      before.vault.sessionParticipants sessionId account = true
  whole : ∃ members : Finset Address, (∀ account, account ∉ members →
        before.vault.lockedBySession sessionId account = 0 ∧ payoutOf players account = 0) ∧
      ∑ account ∈ members, payoutOf players account + rake =
        ∑ account ∈ members, before.vault.lockedBySession sessionId account

section Settlements

variable {deployment : Deployment} {msg : Msg} {before after : World}
variable {sessionId : Bytes32} {players : List SettlementPlayer}
variable {rake : Nat}

theorem settledWholly_of_settle (consistent : before.Consistent deployment)
    (run : ArenaVaultV2.settleSession deployment msg before sessionId players rake = .ok after) :
    SettledWholly deployment before after sessionId players rake := by
  have cleared := locked_after_settle consistent run
  rcases ArenaVaultV2.settleSession_eq_ok_iff.mp run with
    ⟨-, -, -, payload, released, releases, closed, close, notified⟩
  rcases ArenaVaultV2.notifyLifecycleSettled_eq_ok_iff.mp notified with ⟨-, equal⟩
  have tokens : after.tokens = released.tokens := by
    rw [equal, ArenaVaultV2.hooked_frame]
  have payees := World.payees_of_payload consistent.registered payload
  have rows := ArenaVaultV2.releaseRows_eq_ok payees releases
  rcases consistent.exists_roster sessionId with ⟨members, roster, -⟩
  have users := users_of_payload consistent roster payload
  have row_of_member : ∀ account, account ∈ members ↔ ∃ row ∈ players, row.user = account := by
    intro account
    rw [← users]
    simp only [List.mem_toFinset, List.mem_map]
  have outside : ∀ account, account ∉ members → payoutOf players account = 0 := by
    intro account absent
    apply payoutOf_of_not_mem
    intro row inside equal
    exact absent ((row_of_member account).mpr ⟨row, inside, equal⟩)
  constructor
  · exact cleared
  · intro holder notVault
    rw [tokens]
    by_cases listed : holder ∈ members
    · rcases (row_of_member holder).mp listed with ⟨row, inside, rfl⟩
      rw [rows.paid row inside, payoutOf_of_mem payload.nodup inside]
    · rw [outside holder listed, Nat.add_zero]
      apply rows.unpaid holder notVault
      intro row inside equal
      exact listed ((row_of_member holder).mpr ⟨row, inside, equal⟩)
  · intro account paid
    by_contra stranger
    exact paid (outside account (fun inside => stranger ((roster account).mp inside)))
  · refine ⟨members, ?_, ?_⟩
    · intro account absent
      refine ⟨?_, outside account absent⟩
      by_contra locked
      apply absent
      apply (roster account).mpr
      exact consistent.formed.participant_of_locked sessionId account locked
    · have paid := sum_payoutOf payload.nodup
      have locked := World.sum_locked_of_payload payload
      rw [users] at paid locked
      rw [paid, locked]
      exact payload.conserved.symm

theorem finished_of_settle (consistent : before.Consistent deployment)
    (run : ArenaVaultV2.settleSession deployment msg before sessionId players rake = .ok after) :
    Finished after sessionId := by
  rcases ArenaVaultV2.settleSession_eq_ok_iff.mp run with
    ⟨-, opened, -, payload, released, releases, closed, close, notified⟩
  rcases ArenaVaultV2.notifyLifecycleSettled_eq_ok_iff.mp notified with ⟨-, rfl⟩
  rcases ArenaVaultV2.closeSession_eq_ok_iff.mp close with ⟨-, rfl⟩
  have payees := World.payees_of_payload consistent.registered payload
  have rows := ArenaVaultV2.releaseRows_eq_ok payees releases
  have sessions : released.vault.sessions = before.vault.sessions := by
    have same := congrArg (fun world => world.vault.sessions) rows.frame
    exact same
  rw [ArenaVaultV2.hooked_frame]
  constructor
  · simpa [ArenaVaultV2.ledger, sessions] using opened
  · simp [ArenaVaultV2.ledger]

/-- A settlement relayed by the hub does what a direct one does. -/
theorem settled_of_settleWith {settlement : FinalSettlementV3} {proof : Bytes}
    {verifierPolicyId : Bytes32} (consistent : before.Consistent deployment)
    (run : PokerSettlementHubV3.settleWith deployment msg before settlement
        players proof verifierPolicyId = .ok after) :
    SettledWholly deployment before after settlement.sessionId players settlement.totalRake ∧
      Finished after settlement.sessionId := by
  rcases PokerSettlementHubV3.settleWith_eq_ok_iff.mp run with
    ⟨-, -, -, -, -, -, -, recorded, -, checkpointed, checkpoint, settled⟩
  have middle : checkpointed.Consistent deployment :=
    consistent.quiet (Effect.quiet_checkpoint checkpoint)
  have wholly := settledWholly_of_settle middle settled
  have finished := finished_of_settle middle settled
  rcases ArenaVaultV2.applyCheckpoint_eq_ok_iff.mp checkpoint with ⟨-, -, -, -, rfl⟩
  rcases wholly with ⟨cleared, paid, participants, whole⟩
  exact ⟨⟨cleared, paid, participants, whole⟩, finished⟩

/-- Every accepted settlement clears its session and finishes it. -/
theorem settled_of_settlement {operation : Operation} (consistent : before.Consistent deployment)
    (settles : settlementOf operation = some (sessionId, players, rake))
    (accepted : before.stepOperation deployment msg operation = .ok after) :
    SettledWholly deployment before after sessionId players rake ∧
      Finished after sessionId := by
  cases operation with
  | vault call =>
    cases call with
    | settleSession =>
      cases settles
      exact ⟨settledWholly_of_settle consistent accepted,
          finished_of_settle consistent accepted⟩
    | _ => cases settles
  | hub call =>
    cases call with
    | settle =>
      cases settles
      exact settled_of_settleWith consistent accepted
    | settleWithProof =>
      cases settles
      exact settled_of_settleWith consistent accepted
    | _ => cases settles
  | _ => cases settles

end Settlements

/--
A settlement accepted in a reachable world clears every lock of its session,
pays participants only, pays and accrues together what was locked, and no
operation ever moves a lock of the session again.
-/
theorem settlement_final
    {deployment : Deployment} {before after : World}
    {call : ExternalCall deployment} {sessionId : Bytes32}
    {players : List SettlementPlayer} {rake : Nat}
    (reached : World.Reachable deployment before)
    (settles :
      settlementOf call.operation = some (sessionId, players, rake))
    (accepted :
      (World.protocol deployment).step before call = .ok after) :
    SettledWholly deployment before after sessionId players rake ∧
      ∀ later,
        ((World.protocol deployment).startingAt after).Reachable AnyCall
            later →
          later.vault.lockedBySession sessionId =
            after.vault.lockedBySession sessionId := by
  rcases settled_of_settlement reached.consistent settles accepted with
    ⟨wholly, finished⟩
  refine ⟨wholly, ?_⟩
  intro later run
  have arrived : World.Reachable deployment after :=
    .next reached trivial accepted
  exact (finished.continued arrived run).locked

namespace Example

/-- A sealed table whose settlement hub is user `5`. -/
def awaitingSettlement : List (ExternalCall deployment) :=
  enrol 1 7 100 ++ enrol 2 7 100 ++ [sealTable [(1, 100), (2, 100)],
      call 0 0 (.vault (.admin (.setSettlementHub (user 5))))]

/-- User `5` settles the sealed table. -/
def settleCall : ExternalCall deployment :=
  call 5 0 (.vault (.settleSession sealedId [⟨accountOf 1, 100, 120⟩, ⟨accountOf 2, 100, 75⟩] 5))

/-- The settlement is about to go through. -/
def settles (state : World) : Bool :=
  state.vault.lockedBySession sealedId (accountOf 1) == 100 &&
    ((World.protocol deployment).step state settleCall).toBool

end Example

/-- The settlement of a sealed table of two players. -/
theorem settlement_final_sealedTable :
    ∃ before after : World,
      before.vault.lockedBySession Example.sealedId (Example.accountOf 1) =
          100 ∧
        SettledWholly Example.deployment before after Example.sealedId
          [⟨Example.accountOf 1, 100, 120⟩, ⟨Example.accountOf 2, 100, 75⟩]
          5 := by
  have start :
      World.Reachable Example.deployment
        (Example.world Example.deployment.lifecycle) :=
    .start (Example.initial_world _)
  have observed :
      ((World.protocol Example.deployment).replay AnyCall
          (Example.world Example.deployment.lifecycle)
          Example.awaitingSettlement).any Example.settles =
        true := by
    decide +kernel
  rcases start.exists_replay observed with ⟨before, reached, facts⟩
  rcases Bool.and_eq_true_iff.mp facts with ⟨locked, settles⟩
  cases accepted :
      (World.protocol Example.deployment).step before Example.settleCall with
  | error err =>
      rw [accepted] at settles
      cases settles
  | ok after =>
      exact
        ⟨before, after, beq_iff_eq.mp locked,
          (settlement_final reached rfl accepted).1⟩

end Mozetto.Chain
