import Mathlib.Algebra.BigOperators.Group.List.Basic
import Mozetto.Chain.VaultEffects

/-!
# Settlement payloads

Exactly which payloads `settleSession` accepts and what it does with them.
The first loop of the source checks every row against the vault, the second
releases and pays the rows one after another; both are characterised for
lists of any length.
-/

namespace Mozetto.Chain

open Mozetto.Library.Guarded
open Mozetto.Library.Mapping
open Mozetto.Library.CustodyLedger

/-- The sum of the locks that the rows of a payload name. -/
def startTotal (players : List SettlementPlayer) : Nat := (players.map (·.startLocked)).sum

/-- The sum of the balances that the rows of a payload pay. -/
def endTotal (players : List SettlementPlayer) : Nat := (players.map (·.endBalance)).sum

@[simp]
theorem startTotal_nil : startTotal [] = 0 := rfl

@[simp]
theorem endTotal_nil : endTotal [] = 0 := rfl

@[simp]
theorem startTotal_cons (row : SettlementPlayer) (rest : List SettlementPlayer) :
    startTotal (row :: rest) = row.startLocked + startTotal rest := by
  simp [startTotal]

@[simp]
theorem endTotal_cons (row : SettlementPlayer) (rest : List SettlementPlayer) :
    endTotal (row :: rest) = row.endBalance + endTotal rest := by
  simp [endTotal]

/-! ## The first loop -/

/-- What the first settlement loop checks of one row. -/
structure RowMatches (world : World) (sessionId : Bytes32) (row : SettlementPlayer) : Prop where
  ne_zero : row.user ≠ 0
  ne_feeTreasury : row.user ≠ world.vault.feeTreasury
  registered : world.factory.ownerOf row.user ≠ 0
  participant : world.vault.sessionParticipants sessionId row.user = true
  locked : world.vault.lockedBySession sessionId row.user = row.startLocked

namespace ArenaVaultV2

variable {deployment : Deployment} {msg : Msg} {world after : World}
variable {sessionId : Bytes32} {players : List SettlementPlayer}
variable {rake : Nat}

theorem checkRow_eq_ok_iff {row : SettlementPlayer} {sums result : PayloadSums} :
    checkRow world sessionId sums row = .ok result ↔
      RowMatches world sessionId row ∧ row.user ∉ sums.seen ∧
        sums.startSum + row.startLocked < uint256Size ∧ sums.endSum + row.endBalance < uint256Size ∧
        result =
          { startSum := sums.startSum + row.startLocked
            endSum := sums.endSum + row.endBalance
            seen := row.user :: sums.seen } := by
  simp only [checkRow, bind_eq_ok_iff, revertIf_eq_ok_iff,
    checkedAdd_eq_ok_iff, pure_eq_ok_iff, exists_const, ne_eq, not_not, not_or, Bool.not_eq_false]
  constructor
  · rintro ⟨⟨nonzero, notTreasury⟩, registered, participant, unseen, start,
      ⟨startFits, rfl⟩, ending, ⟨endFits, rfl⟩, locked, rfl⟩
    exact ⟨⟨nonzero, notTreasury, registered, participant, locked⟩, unseen, startFits, endFits, rfl⟩
  · rintro ⟨⟨nonzero, notTreasury, registered, participant, locked⟩, unseen,
      startFits, endFits, rfl⟩
    exact ⟨⟨nonzero, notTreasury⟩, registered, participant, unseen, _,
        ⟨startFits, rfl⟩, _, ⟨endFits, rfl⟩, locked, rfl⟩

/-- The first loop accepts exactly distinct matching rows within the word size. -/
theorem checkRows_eq_ok_iff {sums result : PayloadSums} (startFits : sums.startSum < uint256Size)
    (endFits : sums.endSum < uint256Size) :
    players.foldlM (checkRow world sessionId) sums = .ok result ↔
      (∀ row ∈ players, RowMatches world sessionId row) ∧ (players.map (·.user)).Nodup ∧
        (∀ row ∈ players, row.user ∉ sums.seen) ∧ sums.startSum + startTotal players < uint256Size ∧
        sums.endSum + endTotal players < uint256Size ∧ result =
          { startSum := sums.startSum + startTotal players
            endSum := sums.endSum + endTotal players
            seen := (players.map (·.user)).reverse ++ sums.seen } := by
  induction players generalizing sums with
  | nil =>
    simp only [List.foldlM_nil, pure_eq_ok_iff]
    constructor
    · rintro rfl
      simp [startFits, endFits]
    · rintro ⟨-, -, -, -, -, rfl⟩
      simp
  | cons row rest induction =>
    rw [List.foldlM_cons, bind_eq_ok_iff]
    constructor
    · rintro ⟨middle, first, run⟩
      obtain ⟨matching, unseen, start, ending, rfl⟩ := checkRow_eq_ok_iff.mp first
      obtain ⟨matchings, nodup, others, starts, endings, rfl⟩ := (induction start ending).mp run
      refine ⟨?_, ?_, ?_, ?_, ?_, ?_⟩
      · simpa [matching] using matchings
      · simp only [List.map_cons, List.nodup_cons]
        refine ⟨?_, nodup⟩
        intro member
        obtain ⟨other, inside, equal⟩ := List.mem_map.mp member
        exact others other inside (by simp [equal])
      · intro other member
        rcases List.mem_cons.mp member with rfl | inside
        · exact unseen
        · intro seen
          exact others other inside (by simp [seen])
      · simpa [Nat.add_assoc] using starts
      · simpa [Nat.add_assoc] using endings
      · simp [Nat.add_assoc]
    · rintro ⟨matchings, nodup, unseen, starts, endings, rfl⟩
      simp only [startTotal_cons, endTotal_cons] at starts endings
      simp only [List.map_cons, List.nodup_cons] at nodup
      have start : sums.startSum + row.startLocked < uint256Size := by
        omega
      have ending : sums.endSum + row.endBalance < uint256Size := by
        omega
      refine ⟨_, checkRow_eq_ok_iff.mpr
          ⟨matchings row (by simp), unseen row (by simp), start, ending, rfl⟩, ?_⟩
      refine (induction start ending).mpr ⟨?_, nodup.2, ?_, ?_, ?_, ?_⟩
      · intro other member
        exact matchings other (by simp [member])
      · intro other member seen
        rcases List.mem_cons.mp seen with equal | earlier
        · exact nodup.1 (List.mem_map.mpr ⟨other, member, equal⟩)
        · exact unseen other (by simp [member]) earlier
      · simpa [Nat.add_assoc] using starts
      · simpa [Nat.add_assoc] using endings
      · simp [Nat.add_assoc]

/-- The payloads that pass the checks made before the first release. -/
structure Payload (world : World) (sessionId : Bytes32) (players : List SettlementPlayer)
    (rake : Nat) : Prop where
  count : players.length = world.vault.sessionParticipantCount sessionId
  rows : ∀ row ∈ players, RowMatches world sessionId row
  nodup : (players.map (·.user)).Nodup
  fits : startTotal players < uint256Size
  conserved : startTotal players = endTotal players + rake

theorem settleSession_eq_ok_iff :
    settleSession deployment msg world sessionId players rake = .ok after ↔
      msg.sender = world.vault.settlementHub ∧ (world.vault.sessions sessionId).openedAt ≠ 0 ∧
        (world.vault.sessions sessionId).settled = false ∧ Payload world sessionId players rake ∧
        ∃ released, players.foldlM (releaseRow deployment msg sessionId) world = .ok released ∧
            ∃ closed, closeSession released.vault sessionId rake = .ok closed ∧
                notifyLifecycleSettled deployment msg
                  { released with vault := closed } sessionId = .ok after := by
  have zero : (0 : Nat) < uint256Size := by decide
  simp only [settleSession, onlySettlement, bind_eq_ok_iff,
    revertIf_eq_ok_iff, exists_const, ne_eq, not_not, checkedAdd_eq_ok_iff, Bool.not_eq_true]
  constructor
  · rintro ⟨caller, opened, unsettled, count, sums, checked, claimed,
      ⟨fits, rfl⟩, conserved, released, run, closed, close, notified⟩
    obtain ⟨rows, nodup, -, starts, endings, rfl⟩ := (checkRows_eq_ok_iff zero zero).mp checked
    simp only [Nat.zero_add] at starts endings conserved
    exact ⟨caller, opened, unsettled,
        ⟨count, rows, nodup, starts, conserved⟩, released, run, closed, close, notified⟩
  · rintro ⟨caller, opened, unsettled,
      ⟨count, rows, nodup, starts, conserved⟩, released, run, closed, close, notified⟩
    refine ⟨caller, opened, unsettled, count, _, (checkRows_eq_ok_iff zero zero).mpr
          ⟨rows, nodup, by simp, by simpa using starts, ?_, rfl⟩,
        _, ⟨?_, rfl⟩, ?_, released, run, closed, close, notified⟩
    · simp only [Nat.zero_add]
      omega
    · simp only [Nat.zero_add]
      omega
    · simpa using conserved

theorem closeSession_eq_ok_iff {vault closed : ArenaVaultV2} :
    closeSession vault sessionId rake = .ok closed ↔
      (rake = 0 ∨ vault.accruedProtocolFees + rake < uint256Size) ∧
        closed = { vault with
          accruedProtocolFees := vault.accruedProtocolFees + rake
          sessions :=
            write vault.sessions sessionId { vault.sessions sessionId with settled := true } } := by
  by_cases positive : 0 < rake
  · have nonzero : rake ≠ 0 := by omega
    simp only [closeSession, positive, if_true, bind_eq_ok_iff,
      checkedAdd_eq_ok_iff, pure_eq_ok_iff, nonzero, false_or]
    constructor
    · rintro ⟨accrued, ⟨fits, rfl⟩, rfl⟩
      exact ⟨fits, rfl⟩
    · rintro ⟨fits, rfl⟩
      exact ⟨_, ⟨fits, rfl⟩, rfl⟩
  · have zero : rake = 0 := by omega
    subst zero
    simp only [closeSession, lt_irrefl, if_false, bind_eq_ok_iff,
      Except.ok.injEq, pure_eq_ok_iff, true_or, true_and, Nat.add_zero]
    constructor
    · rintro ⟨accrued, rfl, rfl⟩
      rfl
    · rintro rfl
      exact ⟨_, rfl, rfl⟩

theorem closeSession_ledger {vault closed : ArenaVaultV2}
    (ok : closeSession vault sessionId rake = .ok closed) :
    closed.ledger = vault.ledger.close sessionId rake := by
  obtain ⟨-, rfl⟩ := closeSession_eq_ok_iff.mp ok
  unfold ledger Ledger.close
  congr
  · funext other
    by_cases same : other = sessionId
    · simp [write, same]
    · simp [write, same]
  · funext other
    by_cases same : other = sessionId
    · simp [write, same]
    · simp [write, same]

/-! ## The second loop -/

/-- A payout of the vault; rows that pay nothing make no transfer. -/
def Pays (deployment : Deployment) (tokens : Tokens) (row : SettlementPlayer)
    (paid : Tokens) : Prop :=
  if 0 < row.endBalance then
    tokens.transfer deployment.usdc deployment.vault row.user row.endBalance = .ok paid
  else paid = tokens

theorem exists_pays_iff {tokens : Tokens} {row : SettlementPlayer} (nonzero : row.user ≠ 0) :
    (∃ paid, Pays deployment tokens row paid) ↔
      row.endBalance ≤ tokens.balanceOf deployment.usdc deployment.vault := by
  by_cases positive : 0 < row.endBalance
  · simp only [Pays, positive, if_true, Tokens.transfer_eq_ok_iff]
    constructor
    · rintro ⟨paid, -, enough, -⟩
      exact enough
    · intro enough
      exact ⟨_, nonzero, enough, rfl⟩
  · simp only [Pays, positive, if_false, exists_eq, true_iff]
    omega

theorem Pays.balance_vault {tokens paid : Tokens} {row : SettlementPlayer}
    (pays : Pays deployment tokens row paid) (ne : row.user ≠ deployment.vault) :
    row.endBalance ≤ tokens.balanceOf deployment.usdc deployment.vault ∧
      paid.balanceOf deployment.usdc deployment.vault =
        tokens.balanceOf deployment.usdc deployment.vault -
          row.endBalance := by
  by_cases positive : 0 < row.endBalance
  · simp only [Pays, positive, if_true] at pays
    exact ⟨(Tokens.transfer_eq_ok_iff.mp pays).2.1, Tokens.transfer_balance_holder pays ne⟩
  · simp only [Pays, positive, if_false] at pays
    subst pays
    omega

theorem Pays.balance_user {tokens paid : Tokens} {row : SettlementPlayer}
    (pays : Pays deployment tokens row paid) (ne : row.user ≠ deployment.vault) :
    paid.balanceOf deployment.usdc row.user =
      tokens.balanceOf deployment.usdc row.user + row.endBalance := by
  by_cases positive : 0 < row.endBalance
  · simp only [Pays, positive, if_true] at pays
    exact Tokens.transfer_balance_recipient pays ne
  · simp only [Pays, positive, if_false] at pays
    subst pays
    omega

theorem Pays.balance_other {tokens paid : Tokens} {row : SettlementPlayer}
    (pays : Pays deployment tokens row paid) {holder : Address}
    (notUser : holder ≠ row.user) (notVault : holder ≠ deployment.vault) :
    paid.balanceOf deployment.usdc holder = tokens.balanceOf deployment.usdc holder := by
  by_cases positive : 0 < row.endBalance
  · simp only [Pays, positive, if_true] at pays
    exact Tokens.transfer_balance_other pays (Or.inr ⟨notVault, notUser⟩)
  · simp only [Pays, positive, if_false] at pays
    rw [pays]

theorem releaseRow_eq_ok_iff_pays {row : SettlementPlayer} :
    releaseRow deployment msg sessionId world row = .ok after ↔
      Releasable deployment world sessionId row.user row.startLocked ∧ ∃ paid,
          Pays deployment world.tokens row paid ∧ after =
              { releasedWorld world sessionId row.user row.startLocked with
                tokens := paid } :=
  releaseRow_eq_ok_iff

/-- Releasing one account does not touch what another one may release. -/
theorem releasable_releasedWorld_iff {user other : Address} {amount wanted : Nat} {tokens : Tokens}
    (ne : other ≠ user) :
    Releasable deployment { releasedWorld world sessionId user amount with tokens := tokens }
        sessionId other wanted ↔
      Releasable deployment world sessionId other wanted := by
  have lockEq : (releasedWorld world sessionId user amount).vault.lockedBySession sessionId other =
      world.vault.lockedBySession sessionId other := by
    simp [releasedWorld, write₂, ne]
  have totalEq : (releasedWorld world sessionId user amount).vault.totalLocked other =
      world.vault.totalLocked other := by
    simp [releasedWorld, write, ne]
  have accountEq : (releasedWorld world sessionId user amount).accounts other =
      world.accounts other := by
    simp [releasedWorld, write, ne]
  constructor
  · rintro ⟨locked, total, custodian, opened, exposed⟩
    exact ⟨lockEq ▸ locked, totalEq ▸ total, accountEq ▸ custodian,
        accountEq ▸ opened, accountEq ▸ exposed⟩
  · rintro ⟨locked, total, custodian, opened, exposed⟩
    constructor
    · simpa only [lockEq] using locked
    · simpa only [totalEq] using total
    · simpa only [accountEq] using custodian
    · simpa only [accountEq] using opened
    · simpa only [accountEq] using exposed

/-- The rows of a payload as the second loop needs them. -/
structure Payees (deployment : Deployment) (players : List SettlementPlayer) : Prop where
  nodup : (players.map (·.user)).Nodup
  ne_zero : ∀ row ∈ players, row.user ≠ 0
  ne_vault : ∀ row ∈ players, row.user ≠ deployment.vault

theorem Payees.tail {row : SettlementPlayer} {rest : List SettlementPlayer}
    (payees : Payees deployment (row :: rest)) :
    Payees deployment rest ∧ ∀ other ∈ rest, other.user ≠ row.user := by
  obtain ⟨nodup, nonzero, notVault⟩ := payees
  simp only [List.map_cons, List.nodup_cons] at nodup
  refine ⟨⟨nodup.2, ?_, ?_⟩, ?_⟩
  · intro other member
    exact nonzero other (by simp [member])
  · intro other member
    exact notVault other (by simp [member])
  · intro other member equal
    exact nodup.1 (List.mem_map.mpr ⟨other, member, equal⟩)

/-- The second loop succeeds when every row releases and the vault can pay. -/
theorem exists_releaseRows_iff (payees : Payees deployment players) : (∃ result,
    players.foldlM (releaseRow deployment msg sessionId) world = .ok result) ↔ (∀ row ∈ players,
      Releasable deployment world sessionId row.user row.startLocked) ∧
      endTotal players ≤ world.usdcBalance deployment := by
  induction players generalizing world with
  | nil => simp
  | cons row rest induction =>
    obtain ⟨payeesRest, distinct⟩ := payees.tail
    have notVault := payees.ne_vault row (by simp)
    have nonzero := payees.ne_zero row (by simp)
    simp only [List.foldlM_cons, bind_eq_ok_iff]
    constructor
    · rintro ⟨result, middle, first, run⟩
      obtain ⟨releasable, paid, pays, rfl⟩ := releaseRow_eq_ok_iff_pays.mp first
      obtain ⟨releasables, enough⟩ := (induction payeesRest).mp ⟨result, run⟩
      obtain ⟨within, balance⟩ := pays.balance_vault notVault
      constructor
      · intro other member
        rcases List.mem_cons.mp member with rfl | inside
        · exact releasable
        · exact (releasable_releasedWorld_iff (distinct other inside)).mp
              (releasables other inside)
      · simp only [World.usdcBalance, endTotal_cons] at enough ⊢
        omega
    · rintro ⟨releasables, enough⟩
      simp only [World.usdcBalance, endTotal_cons] at enough
      have payable : ∃ paid, Pays deployment world.tokens row paid :=
        (exists_pays_iff nonzero).mpr (by omega)
      obtain ⟨paid, pays⟩ := payable
      obtain ⟨within, balance⟩ := pays.balance_vault notVault
      have others :
          ∃ result, rest.foldlM (releaseRow deployment msg sessionId)
                { releasedWorld world sessionId row.user row.startLocked with
                  tokens := paid } =
              .ok result := by
        apply (induction payeesRest).mpr
        constructor
        · intro other inside
          exact (releasable_releasedWorld_iff (distinct other inside)).mpr
              (releasables other (by simp [inside]))
        · simp only [World.usdcBalance]
          omega
      obtain ⟨result, run⟩ := others
      exact ⟨result, _, releaseRow_eq_ok_iff_pays.mpr
            ⟨releasables row (by simp), paid, pays, rfl⟩, run⟩

/-- What the second loop has done once it is through. -/
structure RowsReleased (deployment : Deployment) (before after : World) (sessionId : Bytes32)
    (players : List SettlementPlayer) : Prop where
  row : ∀ row ∈ players, after.vault.lockedBySession sessionId row.user =
        before.vault.lockedBySession sessionId row.user - row.startLocked
  elsewhere : ∀ other account, ¬ (other = sessionId ∧ ∃ row ∈ players, row.user = account) →
        after.vault.lockedBySession other account = before.vault.lockedBySession other account
  reserve : after.usdcBalance deployment + endTotal players = before.usdcBalance deployment
  paid : ∀ row ∈ players, after.tokens.balanceOf deployment.usdc row.user =
        before.tokens.balanceOf deployment.usdc row.user + row.endBalance
  unpaid : ∀ holder, holder ≠ deployment.vault → (∀ row ∈ players, row.user ≠ holder) →
        after.tokens.balanceOf deployment.usdc holder =
          before.tokens.balanceOf deployment.usdc holder
  frame :
    after = { before with
      tokens := after.tokens
      accounts := after.accounts
      vault := { before.vault with
        lockedBySession := after.vault.lockedBySession
        totalLocked := after.vault.totalLocked } }

theorem releaseRows_eq_ok (payees : Payees deployment players)
    (run : players.foldlM (releaseRow deployment msg sessionId) world = .ok after) :
    RowsReleased deployment world after sessionId players := by
  induction players generalizing world with
  | nil =>
    simp only [List.foldlM_nil, pure_eq_ok_iff] at run
    subst run
    constructor <;> simp
  | cons row rest induction =>
    obtain ⟨payeesRest, distinct⟩ := payees.tail
    have notVault := payees.ne_vault row (by simp)
    rw [List.foldlM_cons, bind_eq_ok_iff] at run
    obtain ⟨middle, first, run⟩ := run
    obtain ⟨releasable, tokens, pays, rfl⟩ := releaseRow_eq_ok_iff_pays.mp first
    have tail := induction payeesRest run
    obtain ⟨within, reserve⟩ := pays.balance_vault notVault
    have kept : after.vault.lockedBySession sessionId row.user =
        (releasedWorld world sessionId row.user
          row.startLocked).vault.lockedBySession sessionId row.user := by
      apply tail.elsewhere
      rintro ⟨-, other, inside, equal⟩
      exact distinct other inside equal
    constructor
    · intro other member
      rcases List.mem_cons.mp member with rfl | inside
      · rw [kept]
        simp [releasedWorld]
      · rw [tail.row other inside]
        simp [releasedWorld, write₂, distinct other inside]
    · intro other account outside
      rw [tail.elsewhere other account]
      · have different : ¬ (other = sessionId ∧ account = row.user) := by
          rintro ⟨rfl, rfl⟩
          exact outside ⟨rfl, row, by simp, rfl⟩
        simp [releasedWorld, write₂, different]
      · rintro ⟨rfl, inside, member, equal⟩
        exact outside ⟨rfl, inside, by simp [member], equal⟩
    · have rest := tail.reserve
      simp only [World.usdcBalance, endTotal_cons] at rest ⊢
      omega
    · intro other member
      rcases List.mem_cons.mp member with rfl | inside
      · rw [tail.unpaid other.user notVault distinct]
        exact pays.balance_user notVault
      · rw [tail.paid other inside]
        rw [pays.balance_other (distinct other inside) (payees.ne_vault other (by simp [inside]))]
    · intro holder holderNe outside
      rw [tail.unpaid holder holderNe (fun other inside => outside other (by simp [inside]))]
      exact pays.balance_other (Ne.symm (outside row (by simp))) holderNe
    · rw [tail.frame]
      rfl

end ArenaVaultV2

end Mozetto.Chain
