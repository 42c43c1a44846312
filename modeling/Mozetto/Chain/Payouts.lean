import Mozetto.Chain.Acceptance

/-!
# Payouts of a signed settlement

The hub compares the payout rows with the signed statement through two sums
only, and the vault compares them with its locks through the start column
only.  The end column is therefore free as long as its sum stays: an accepted
payload may be split anew among its users.  The rows are determined by the
statement exactly when there is nothing to split or nobody to split it with.
-/

namespace Mozetto.Chain

open Mozetto.Library.Guarded
open Mozetto.Library.TransitionSystem

namespace PokerSettlementHubV3

variable {deployment : Deployment} {msg : Msg} {world after : World}
variable {settlement : FinalSettlementV3} {players : List SettlementPlayer}
variable {proof : Bytes} {verifierPolicyId : Bytes32}

/-- The sums of the hub are the totals of the rows, within the word size. -/
theorem playerSums_eq_ok_iff {sums : Nat × Nat} : playerSums players = .ok sums ↔
    startTotal players < uint256Size ∧ endTotal players < uint256Size ∧
      sums = (startTotal players, endTotal players) := by
  have general : ∀ (rows : List SettlementPlayer) (begin : Nat × Nat),
      begin.1 < uint256Size → begin.2 < uint256Size → (rows.foldlM (fun sums row => do
              let startSum ← checkedAdd sums.1 row.startLocked
              let endSum ← checkedAdd sums.2 row.endBalance
              return (startSum, endSum))
            begin = .ok sums ↔
          begin.1 + startTotal rows < uint256Size ∧ begin.2 + endTotal rows < uint256Size ∧ sums =
              (begin.1 + startTotal rows, begin.2 + endTotal rows)) := by
    intro rows
    induction rows with
    | nil =>
      intro begin startFits endFits
      simp only [List.foldlM_nil, pure_eq_ok_iff, startTotal_nil,
        endTotal_nil, Nat.add_zero, startFits, endFits, true_and]
      exact eq_comm
    | cons row rest induction =>
      intro begin startFits endFits
      simp only [List.foldlM_cons, bind_eq_ok_iff, checkedAdd_eq_ok_iff,
        pure_eq_ok_iff, startTotal_cons, endTotal_cons]
      constructor
      · rintro ⟨next, ⟨start, ⟨startNext, rfl⟩, ending, ⟨endNext, rfl⟩, rfl⟩, run⟩
        have rest := (induction _ startNext endNext).mp run
        simpa only [Nat.add_assoc] using rest
      · rintro ⟨starts, endings, equal⟩
        have startNext : begin.1 + row.startLocked < uint256Size := by
          omega
        have endNext : begin.2 + row.endBalance < uint256Size := by
          omega
        refine ⟨_, ⟨_, ⟨startNext, rfl⟩, _, ⟨endNext, rfl⟩, rfl⟩, ?_⟩
        apply (induction _ startNext endNext).mpr
        simpa only [Nat.add_assoc] using ⟨starts, endings, equal⟩
  have zero : (0 : Nat) < uint256Size := by decide
  have run := general players (0, 0) zero zero
  simp only [Nat.zero_add] at run
  exact run

theorem settleWith_eq_ok_iff :
    settleWith deployment msg world settlement players proof verifierPolicyId = .ok after ↔
      requireFresh msg world settlement = .ok ⟨⟩ ∧ startTotal players = settlement.openingTotal ∧
        endTotal players = settlement.endingPlayerTotal ∧ startTotal players < uint256Size ∧
        endTotal players < uint256Size ∧
        requireBatch msg world.hub settlement.proofBatchSequence = .ok ⟨⟩ ∧
        callVerify deployment msg world verifierPolicyId
            settlement.sessionId (hashSettlement deployment settlement) proof = .ok ⟨⟩ ∧ ∃ recorded,
          recordSettlement world.hub settlement = .ok recorded ∧ ∃ checkpointed,
              ArenaVaultV2.applyCheckpoint (msg.calledBy deployment.hub)
                  { world with hub := recorded } settlement.sessionId
                  settlement.finalSequence settlement.balanceRoot = .ok checkpointed ∧
                ArenaVaultV2.settleSession deployment (msg.calledBy deployment.hub) checkpointed
                    settlement.sessionId players settlement.totalRake = .ok after := by
  simp only [settleWith, bind_eq_ok_iff, revertIf_eq_ok_iff, playerSums_eq_ok_iff, exists_const]
  constructor
  · rintro ⟨⟨⟩, fresh, sums, ⟨starts, endings, rfl⟩, totals, ⟨⟩, batch,
      ⟨⟩, verified, recorded, record, checkpointed, checkpoint, settled⟩
    simp only [ne_eq, not_or, not_not] at totals
    exact ⟨fresh, totals.1, totals.2, starts, endings, batch, verified,
        recorded, record, checkpointed, checkpoint, settled⟩
  · rintro ⟨fresh, opening, ending, starts, endings, batch, verified,
      recorded, record, checkpointed, checkpoint, settled⟩
    exact ⟨_, fresh, _, ⟨starts, endings, rfl⟩, by simp [opening, ending], _,
        batch, _, verified, recorded, record, checkpointed, checkpoint, settled⟩

end PokerSettlementHubV3

/-! ## Splitting an accepted payload anew -/

/-- The same rows up to what they pay, with the same sum of payments. -/
structure Resplit (left right : List SettlementPlayer) : Prop where
  rows : right.map (fun row => (row.user, row.startLocked)) =
      left.map (fun row => (row.user, row.startLocked))
  total : endTotal right = endTotal left

namespace Resplit

variable {left right : List SettlementPlayer}

theorem users (resplit : Resplit left right) : right.map (·.user) = left.map (·.user) := by
  have projected := congrArg (List.map Prod.fst) resplit.rows
  simpa [List.map_map, Function.comp_def] using projected

theorem starts (resplit : Resplit left right) :
    right.map (·.startLocked) = left.map (·.startLocked) := by
  have projected := congrArg (List.map Prod.snd) resplit.rows
  simpa [List.map_map, Function.comp_def] using projected

theorem startTotal_eq (resplit : Resplit left right) : startTotal right = startTotal left := by
  unfold startTotal
  rw [resplit.starts]

/-- Every row has a counterpart with its user and its lock. -/
theorem exists_row (resplit : Resplit left right) {row : SettlementPlayer} (member : row ∈ right) :
    ∃ other ∈ left, other.user = row.user ∧ other.startLocked = row.startLocked := by
  have inside : (row.user, row.startLocked) ∈ right.map (fun row => (row.user, row.startLocked)) :=
    List.mem_map.mpr ⟨row, member, rfl⟩
  rw [resplit.rows] at inside
  obtain ⟨other, otherMember, equal⟩ := List.mem_map.mp inside
  simp only [Prod.mk.injEq] at equal
  exact ⟨other, otherMember, equal.1, equal.2⟩

theorem payload {world : World} {sessionId : Bytes32} {rake : Nat} (resplit : Resplit left right)
    (payload : ArenaVaultV2.Payload world sessionId left rake) :
    ArenaVaultV2.Payload world sessionId right rake where
  count := by
    have length := congrArg List.length resplit.rows
    simp only [List.length_map] at length
    rw [length]
    exact payload.count
  rows := by
    intro row member
    obtain ⟨other, inside, user, start⟩ := resplit.exists_row member
    obtain ⟨nonzero, notTreasury, registered, participant, locked⟩ := payload.rows other inside
    rw [user] at nonzero notTreasury registered participant locked
    exact ⟨nonzero, notTreasury, registered, participant, locked.trans start⟩
  nodup := by
    rw [resplit.users]
    exact payload.nodup
  fits := by
    rw [resplit.startTotal_eq]
    exact payload.fits
  conserved := by
    rw [resplit.startTotal_eq, resplit.total]
    exact payload.conserved

/-- Whoever can settle one split can settle every other one. -/
theorem exists_settleWith {deployment : Deployment} {msg : Msg} {world after : World}
    {settlement : FinalSettlementV3} {proof : Bytes} {verifierPolicyId : Bytes32}
    (resplit : Resplit left right) (consistent : world.Consistent deployment)
    (accepted : PokerSettlementHubV3.settleWith deployment msg world settlement left
        proof verifierPolicyId = .ok after) :
    ∃ other, PokerSettlementHubV3.settleWith deployment msg world settlement right
        proof verifierPolicyId = .ok other := by
  obtain ⟨fresh, opening, ending, starts, endings, batch, verified, recorded,
    record, checkpointed, checkpoint, settled⟩ :=
    PokerSettlementHubV3.settleWith_eq_ok_iff.mp accepted
  have consistentCheckpoint : checkpointed.Consistent deployment :=
    consistent.quiet (Effect.quiet_checkpoint checkpoint)
  obtain ⟨caller, opened, unsettled, payload, positive, enough, fits, accepts⟩ :=
    consistentCheckpoint.exists_settleSession_iff.mp ⟨after, settled⟩
  have settles : ∃ other, ArenaVaultV2.settleSession deployment (msg.calledBy deployment.hub)
        checkpointed settlement.sessionId right settlement.totalRake = .ok other := by
    apply consistentCheckpoint.exists_settleSession_iff.mpr
    refine ⟨caller, opened, unsettled, resplit.payload payload, ?_, ?_, fits, accepts⟩
    · intro row member
      obtain ⟨other, inside, -, start⟩ := resplit.exists_row member
      rw [← start]
      exact positive other inside
    · rw [resplit.total]
      exact enough
  obtain ⟨other, settled⟩ := settles
  refine ⟨other, PokerSettlementHubV3.settleWith_eq_ok_iff.mpr ?_⟩
  rw [resplit.startTotal_eq, resplit.total]
  exact ⟨fresh, opening, ending, starts, endings, batch, verified, recorded,
      record, checkpointed, checkpoint, settled⟩

end Resplit

/-- Pay the whole sum to one user. -/
def payAll (target : Address) (total : Nat) (players : List SettlementPlayer) :
    List SettlementPlayer :=
  players.map fun row =>
    { row with endBalance := if row.user = target then total else 0 }

theorem endTotal_payAll_of_not_mem
    {target : Address} (total : Nat) {players : List SettlementPlayer}
    (absent : target ∉ players.map (·.user)) : endTotal (payAll target total players) = 0 := by
  induction players with
  | nil => rfl
  | cons row rest induction =>
    simp only [List.map_cons, List.mem_cons, not_or] at absent
    have tail := induction absent.2
    simp only [payAll] at tail
    simp [payAll, Ne.symm absent.1, tail]

theorem endTotal_payAll {target : Address} (total : Nat) {players : List SettlementPlayer}
    (nodup : (players.map (·.user)).Nodup) (member : target ∈ players.map (·.user)) :
    endTotal (payAll target total players) = total := by
  induction players with
  | nil => cases member
  | cons row rest induction =>
    simp only [List.map_cons, List.nodup_cons] at nodup
    by_cases same : row.user = target
    · subst same
      have tail := endTotal_payAll_of_not_mem total nodup.1
      simp only [payAll] at tail
      simp [payAll, tail]
    · have inside : target ∈ rest.map (·.user) := by
        simpa [Ne.symm same] using member
      have tail := induction nodup.2 inside
      simp only [payAll] at tail
      simp [payAll, same, tail]

theorem resplit_payAll (target : Address) {players : List SettlementPlayer}
    (nodup : (players.map (·.user)).Nodup) (member : target ∈ players.map (·.user)) :
    Resplit players (payAll target (endTotal players) players) where
  rows := by simp [payAll, Function.comp_def]
  total := endTotal_payAll _ nodup member

/-! ## When payouts are determined -/

/--
All payout rows accepted for a settlement and a proof in one world give the
same account the same payout.
-/
def PayoutsDetermined (deployment : Deployment) (world : World)
    (settlement : FinalSettlementV3) (proof : Bytes) (verifierPolicyId : Bytes32) : Prop :=
  ∀ (msg context : Msg) (left right : List SettlementPlayer) (afterLeft afterRight : World),
    PokerSettlementHubV3.settleWith deployment msg world settlement left
        proof verifierPolicyId = .ok afterLeft →
      PokerSettlementHubV3.settleWith deployment context world settlement
          right proof verifierPolicyId = .ok afterRight →
        ∀ row ∈ left, ∀ other ∈ right, row.user = other.user → row.endBalance = other.endBalance

theorem endBalance_le_endTotal {players : List SettlementPlayer} {row : SettlementPlayer}
    (member : row ∈ players) : row.endBalance ≤ endTotal players := by
  unfold endTotal
  exact List.single_le_sum (by simp) _ (List.mem_map.mpr ⟨row, member, rfl⟩)

/--
Once some rows are accepted for a signed settlement, the rows are determined
exactly when the settlement pays nothing or has at most one participant.
-/
theorem payoutsDetermined_iff
    {deployment : Deployment} {msg : Msg} {world after : World}
    {settlement : FinalSettlementV3} {players : List SettlementPlayer}
    {proof : Bytes} {verifierPolicyId : Bytes32}
    (reached : World.Reachable deployment world)
    (accepted :
      PokerSettlementHubV3.settleWith deployment msg world settlement players
        proof verifierPolicyId = .ok after) :
    PayoutsDetermined deployment world settlement proof verifierPolicyId ↔
      settlement.endingPlayerTotal = 0 ∨
        world.vault.sessionParticipantCount settlement.sessionId ≤ 1 := by
  have payloadOf :
      ∀ {context : Msg} {rows : List SettlementPlayer} {result : World},
        PokerSettlementHubV3.settleWith deployment context world settlement
            rows proof verifierPolicyId = .ok result →
          endTotal rows = settlement.endingPlayerTotal ∧
            (rows.map (·.user)).Nodup ∧
            rows.length =
              world.vault.sessionParticipantCount settlement.sessionId := by
    intro context rows result ok
    obtain ⟨-, -, ending, -, -, -, -, recorded, -, checkpointed, checkpoint,
      settled⟩ := PokerSettlementHubV3.settleWith_eq_ok_iff.mp ok
    obtain ⟨-, -, -, payload, -⟩ :=
      ArenaVaultV2.settleSession_eq_ok_iff.mp settled
    obtain ⟨-, -, -, -, rfl⟩ :=
      ArenaVaultV2.applyCheckpoint_eq_ok_iff.mp checkpoint
    exact ⟨ending, payload.nodup, payload.count⟩
  constructor
  · intro determined
    by_contra undetermined
    rw [not_or, Nat.not_le] at undetermined
    obtain ⟨paying, several⟩ := undetermined
    obtain ⟨ending, nodup, length⟩ := payloadOf accepted
    match players, ending, nodup, length, accepted with
    | [], _, _, length, _ =>
        simp only [List.length_nil] at length
        omega
    | [_], _, _, length, _ =>
        simp only [List.length_singleton] at length
        omega
    | first :: second :: rest, ending, nodup, _, accepted =>
        have distinct : second.user ≠ first.user := by
          simp only [List.map_cons, List.nodup_cons, List.mem_cons,
            not_or] at nodup
          exact Ne.symm nodup.1.1
        obtain ⟨toFirst, paidFirst⟩ :=
          (resplit_payAll first.user nodup
            (by simp)).exists_settleWith reached.consistent accepted
        obtain ⟨toSecond, paidSecond⟩ :=
          (resplit_payAll second.user nodup
            (by simp)).exists_settleWith reached.consistent accepted
        have same :=
          determined msg msg _ _ toFirst toSecond paidFirst paidSecond
            { first with
              endBalance := endTotal (first :: second :: rest) }
            (by simp [payAll])
            { first with endBalance := 0 }
            (by simp [payAll, Ne.symm distinct])
            rfl
        exact paying (ending ▸ same)
  · rintro (nothing | alone)
    · intro one two left right afterLeft afterRight okLeft okRight row member
        other inside _
      obtain ⟨endingLeft, -, -⟩ := payloadOf okLeft
      obtain ⟨endingRight, -, -⟩ := payloadOf okRight
      have rowBound := endBalance_le_endTotal member
      have otherBound := endBalance_le_endTotal inside
      omega
    · intro one two left right afterLeft afterRight okLeft okRight row member
        other inside _
      obtain ⟨endingLeft, -, lengthLeft⟩ := payloadOf okLeft
      obtain ⟨endingRight, -, lengthRight⟩ := payloadOf okRight
      have single :
          ∀ {rows : List SettlementPlayer} {entry : SettlementPlayer},
            rows.length ≤ 1 → entry ∈ rows →
              entry.endBalance = endTotal rows := by
        intro rows entry short found
        match rows, short, found with
        | [only], _, found =>
            simp only [List.mem_singleton] at found
            subst found
            simp
      rw [single (by omega) member, single (by omega) inside, endingLeft,
        endingRight]

/-! ## One signature set, two payouts -/

namespace Example

/-- A statement that pays out the `200` locked at table `5` without rake. -/
def statement : FinalSettlementV3 where
  sessionId := 5
  finalSequence := 1
  finalEventRoot := 11
  handRoot := 12
  balanceRoot := 13
  randomnessEpochId := 0
  openingTotal := 200
  endingPlayerTotal := 200
  totalRake := 0
  proofBatchSequence := 0
  modelPolicyHash := 0
  profileSetHash := 0
  gameTemplateId := 1
  engineHash := 0
  deadline := 1000

/-- The proof the attestors give for the statement. -/
def statementProof : Bytes := [PokerSettlementHubV3.hashSettlement deployment statement]

/-- The rows that pay `first` to user `1` and `second` to user `2`. -/
def pays (first second : Nat) : List SettlementPlayer :=
  [⟨accountOf 1, 100, first⟩, ⟨accountOf 2, 100, second⟩]

/-- The settlement of the statement with given rows. -/
def settlePaying (first second : Nat) (state : World) :
    Except Revert World :=
  PokerSettlementHubV3.settleWith deployment (message (user 3) 0) state
    statement (pays first second) statementProof 0

end Example

/-- At a table of two players the accepted payout rows are not determined. -/
theorem payoutsDetermined_iff_pairedTable :
    ∃ world : World,
      world.vault.sessionParticipantCount 5 = 2 ∧
        ¬ PayoutsDetermined Example.deployment world Example.statement
          Example.statementProof 0 := by
  have start : World.Reachable Example.deployment (Example.world 0) :=
    .start (Example.initial_world 0)
  have observed :
      ((World.protocol Example.deployment).replay AnyCall (Example.world 0)
          Example.pairedTable).any
        (fun state =>
          state.vault.sessionParticipantCount 5 == 2 &&
            (Example.settlePaying 120 80 state).isOk) =
        true := by
    decide +kernel
  obtain ⟨world, reached, facts⟩ := start.exists_replay observed
  obtain ⟨count, settles⟩ := Bool.and_eq_true_iff.mp facts
  have two : world.vault.sessionParticipantCount 5 = 2 := beq_iff_eq.mp count
  refine ⟨world, two, ?_⟩
  cases accepted : Example.settlePaying 120 80 world with
  | error err =>
      rw [accepted] at settles
      cases settles
  | ok after =>
      rw [payoutsDetermined_iff reached accepted]
      show ¬ ((200 : Nat) = 0 ∨ world.vault.sessionParticipantCount 5 ≤ 1)
      omega

/-- The same statement and proof settle `(120, 80)` and `(80, 120)`. -/
theorem exists_two_payouts :
    ¬ ∀ (deployment : Deployment) (world : World)
        (settlement : FinalSettlementV3) (proof : Bytes)
        (verifierPolicyId : Bytes32),
      World.Reachable deployment world →
        PayoutsDetermined deployment world settlement proof
          verifierPolicyId := by
  intro determined
  have start : World.Reachable Example.deployment (Example.world 0) :=
    .start (Example.initial_world 0)
  have observed :
      ((World.protocol Example.deployment).replay AnyCall (Example.world 0)
          Example.pairedTable).any
        (fun state =>
          (Example.settlePaying 120 80 state).isOk &&
            (Example.settlePaying 80 120 state).isOk) =
        true := by
    decide +kernel
  obtain ⟨world, reached, facts⟩ := start.exists_replay observed
  obtain ⟨settlesLeft, settlesRight⟩ := Bool.and_eq_true_iff.mp facts
  cases left : Example.settlePaying 120 80 world with
  | error err =>
      rw [left] at settlesLeft
      cases settlesLeft
  | ok afterLeft =>
      cases right : Example.settlePaying 80 120 world with
      | error err =>
          rw [right] at settlesRight
          cases settlesRight
      | ok afterRight =>
          have same :=
            determined Example.deployment world Example.statement
              Example.statementProof 0 reached _ _ _ _ afterLeft afterRight
              left right ⟨Example.accountOf 1, 100, 120⟩
              (by simp [Example.pays]) ⟨Example.accountOf 1, 100, 80⟩
              (by simp [Example.pays]) rfl
          cases same

end Mozetto.Chain
