import Mathlib.Data.List.Induction
import Mozetto.Custody.SessionRows

/-!
# The order of the statuses of a session

Along pending, opened, playing, settling and settled a session moves forwards
only; settled and emergency are final, and blocked is left for settling and
settled.  Most writers ask for the statuses they move a session from.  The
others keep the order exactly for the rows on which they come in time, and a
run whose statements all come in time never moves a session backwards.
-/

namespace Mozetto.Matchmaking.SessionStatus

/-- The place of a status along the life of a session. -/
def stage : SessionStatus → Nat
  | pending => 0
  | opened => 1
  | playing => 2
  | settling => 3
  | settled => 4
  | blocked => 3
  | emergency => 5

/-- Nothing follows a final status. -/
def isFinal (status : SessionStatus) : Bool := status = settled ∨ status = emergency

/-- The statuses that a session may have after it had this one. -/
def MayBecome (status later : SessionStatus) : Prop :=
  later = status ∨ (status.isFinal = false ∧
      if status = blocked then later = settling ∨ later = settled
      else later = blocked ∨ later = emergency ∨ status.stage ≤ later.stage)

instance (status later : SessionStatus) : Decidable (status.MayBecome later) :=
  inferInstanceAs (Decidable (_ ∨ _ ∧ ite _ _ _))

theorem MayBecome.refl (status : SessionStatus) : status.MayBecome status := Or.inl rfl

/-- The statuses that a session may have after any number of changes. -/
def MayReach (status later : SessionStatus) : Prop :=
  status.MayBecome later ∨ status = blocked ∧ later = emergency

theorem MayReach.refl (status : SessionStatus) : status.MayReach status := Or.inl (.refl status)

theorem MayReach.trans {first second third : SessionStatus}
    (earlier : first.MayReach second) (later : second.MayReach third) :
    first.MayReach third := by
  revert earlier later
  simp only [MayReach]
  cases first <;> cases second <;> cases third <;> decide

/-- The statuses of a session for which this one does not come too late. -/
def earlier : SessionStatus → List SessionStatus
  | pending => [pending]
  | opened => [pending, opened]
  | playing => [pending, opened, playing]
  | settling => [pending, opened, playing, settling, blocked]
  | settled => [pending, opened, playing, settling, settled, blocked]
  | blocked => [pending, opened, playing, settling, blocked]
  | emergency => [pending, opened, playing, settling, emergency]

theorem mem_earlier_iff (status later : SessionStatus) :
    status ∈ later.earlier ↔ status.MayBecome later := by
  cases status <;> cases later <;> decide

/-- Keeping opened and making anything else pending comes too late after it. -/
theorem mayBecome_pending_unless_opened_iff (status : SessionStatus) :
    status.MayBecome (if status = opened then status else pending) ↔ status ∈ opened.earlier := by
  cases status <;> decide

end Mozetto.Matchmaking.SessionStatus

namespace Mozetto.Custody

open Mozetto.Chain
open Mozetto.Library.Mapping
open Mozetto.Library.TransitionSystem
open Mozetto.Matchmaking (SessionStatus)

/-! ## Rows that keep the order -/

/-- Every session of the first rows is in the second with a related status. -/
def SessionDb.Related (related : SessionStatus → SessionStatus → Prop)
    (before after : SessionDb) : Prop :=
  ∀ id row, before.sessions id = some row → ∃ later, after.sessions id = some later ∧
      related row.status later.status

/-- No session changes its status to one that it may not have next. -/
def SessionDb.KeepsOrder : SessionDb → SessionDb → Prop := SessionDb.Related SessionStatus.MayBecome

/-- No session is, after any number of changes, where it must not be. -/
def SessionDb.Advances : SessionDb → SessionDb → Prop := SessionDb.Related SessionStatus.MayReach

theorem SessionDb.Advances.refl (db : SessionDb) : db.Advances db :=
  fun _ row found => ⟨row, found, .refl _⟩

theorem SessionDb.Advances.change {first second third : SessionDb}
    (advanced : first.Advances second) (kept : second.KeepsOrder third) :
    first.Advances third := by
  intro id row found
  rcases advanced id row found with ⟨middle, foundMiddle, moved⟩
  rcases kept id middle foundMiddle with ⟨last, foundLast, changed⟩
  exact ⟨last, foundLast, moved.trans (.inl changed)⟩

/-- Writing one session keeps the order exactly when that session does. -/
theorem keepsOrder_write_iff (db : SessionDb) (sessionId : Bytes32) (written : Option SessionRow) :
    db.KeepsOrder { db with sessions := write db.sessions sessionId written } ↔
      ∀ row, db.sessions sessionId = some row → ∃ later, written = some later ∧
          row.status.MayBecome later.status := by
  constructor
  · intro kept row found
    have later := kept sessionId row found
    simpa only [write_self] using later
  · intro moved id row found
    by_cases same : id = sessionId
    · subst same
      simpa only [write_self] using moved row found
    · refine ⟨row, ?_, .refl _⟩
      simpa only [write_of_ne db.sessions written same] using found

theorem keepsOrder_update_iff (db : SessionDb) (sessionId : Bytes32)
    (condition : SessionRow → Bool) (change : SessionRow → SessionRow) :
    db.KeepsOrder (db.update sessionId condition change) ↔
      ∀ row, db.sessions sessionId = some row → condition row = true →
        row.status.MayBecome (change row).status := by
  rw [SessionDb.update, keepsOrder_write_iff]
  apply forall_congr'
  intro row
  apply imp_congr_right
  intro found
  rw [found]
  by_cases chosen : condition row = true
  · simp [chosen]
  · simp [chosen, SessionStatus.MayBecome.refl]

theorem keepsOrder_upsert_iff (db : SessionDb) (sessionId : Bytes32)
    (new : SessionRow) (change : SessionRow → SessionRow) :
    db.KeepsOrder (db.upsert sessionId new change) ↔ ∀ row, db.sessions sessionId = some row →
        row.status.MayBecome (change row).status := by
  rw [SessionDb.upsert, keepsOrder_write_iff]
  apply forall_congr'
  intro row
  apply imp_congr_right
  intro found
  simp [found]

/-- Moving from listed statuses keeps the order if each may become the new. -/
theorem keepsOrder_moveFrom (db : SessionDb) (sessionId : Bytes32)
    {statuses : List SessionStatus} {status : SessionStatus}
    (forwards : ∀ earlier ∈ statuses, earlier.MayBecome status) :
    db.KeepsOrder (db.moveFrom sessionId statuses status) := by
  apply (keepsOrder_update_iff db sessionId _ _).2
  intro row _ listed
  exact forwards row.status (of_decide_eq_true listed)

/-! ## Statements in time -/

/-- The session, if there is one, has one of the statuses. -/
def SessionDb.IsAmong (db : SessionDb) (sessionId : Bytes32) (statuses : List SessionStatus) :
    Prop :=
  ∀ row ∈ db.sessions sessionId, row.status ∈ statuses

instance (db : SessionDb) (sessionId : Bytes32) (statuses : List SessionStatus) :
    Decidable (db.IsAmong sessionId statuses) :=
  inferInstanceAs (Decidable (∀ row ∈ db.sessions sessionId, _))

/--
A statement comes in time: the status that it gives without a condition of its
own is not given to a session which has passed it.
-/
def SessionWrite.InTime (db : SessionDb) : SessionWrite → Prop
  | .sessionOpened _ log =>
      ∀ opened ∈ log.delivered, db.IsAmong opened.1 SessionStatus.opened.earlier
  | .sessionSettled log =>
      ∀ settled ∈ log.delivered, db.IsAmong settled.1 SessionStatus.settled.earlier
  | .hubSettled log =>
      ∀ settled ∈ log.delivered, db.IsAmong settled.1 SessionStatus.settled.earlier
  | .sessionTransition log =>
      ∀ moved ∈ log.transition, db.IsAmong moved.1 moved.2.earlier
  | .createPending sessionId _ _ _ _ =>
      db.IsAmong sessionId SessionStatus.opened.earlier
  | .retireGhost sessionId =>
      ∀ row ∈ db.sessions sessionId, row.settlementTxHash = none →
        row.status ∈ SessionStatus.settled.earlier
  | .markSettling sessionId =>
      db.IsAmong sessionId SessionStatus.settling.earlier
  | .markSettled sessionId _ =>
      db.IsAmong sessionId SessionStatus.settled.earlier
  | .sessionSealed _ => True
  | .markOpened _ _ => True
  | .blockFailed _ => True
  | .blockOpenForChain _ => True
  | .markPlaying _ => True
  | .markReadyForSettlement _ => True
  | .closeForSettlement _ => True
  | .abandonUnseated _ => True
  | .forceLeave _ => True
  | .reapOrphan _ => True
  | .tableSession _ _ => True

instance (db : SessionDb) : (statement : SessionWrite) → Decidable (statement.InTime db)
  | .sessionOpened _ log =>
      inferInstanceAs (Decidable (∀ opened ∈ log.delivered, db.IsAmong _ _))
  | .sessionSettled log =>
      inferInstanceAs (Decidable (∀ settled ∈ log.delivered, db.IsAmong _ _))
  | .hubSettled log =>
      inferInstanceAs (Decidable (∀ settled ∈ log.delivered, db.IsAmong _ _))
  | .sessionTransition log =>
      inferInstanceAs (Decidable (∀ moved ∈ log.transition, db.IsAmong _ _))
  | .createPending _ _ _ _ _ =>
      inferInstanceAs (Decidable (db.IsAmong _ _))
  | .retireGhost sessionId =>
      inferInstanceAs (Decidable (∀ row ∈ db.sessions sessionId, _ → _))
  | .markSettling _ => inferInstanceAs (Decidable (db.IsAmong _ _))
  | .markSettled _ _ => inferInstanceAs (Decidable (db.IsAmong _ _))
  | .sessionSealed _ => inferInstanceAs (Decidable True)
  | .markOpened _ _ => inferInstanceAs (Decidable True)
  | .blockFailed _ => inferInstanceAs (Decidable True)
  | .blockOpenForChain _ => inferInstanceAs (Decidable True)
  | .markPlaying _ => inferInstanceAs (Decidable True)
  | .markReadyForSettlement _ => inferInstanceAs (Decidable True)
  | .closeForSettlement _ => inferInstanceAs (Decidable True)
  | .abandonUnseated _ => inferInstanceAs (Decidable True)
  | .forceLeave _ => inferInstanceAs (Decidable True)
  | .reapOrphan _ => inferInstanceAs (Decidable True)
  | .tableSession _ _ => inferInstanceAs (Decidable True)

/-- Giving a status to any row keeps the order when it is among the earlier. -/
theorem keepsOrder_set_iff (db : SessionDb) (sessionId : Bytes32) {status : SessionStatus}
    {change : SessionRow → SessionRow} (changes : ∀ row, (change row).status = status) :
    db.KeepsOrder (db.update sessionId (fun _ => true) change) ↔
      db.IsAmong sessionId status.earlier := by
  rw [keepsOrder_update_iff]
  apply forall_congr'
  intro row
  rw [changes row, SessionStatus.mem_earlier_iff]
  exact ⟨fun kept found => kept found rfl, fun kept found _ => kept found⟩

/-- A log that is dropped changes nothing. -/
theorem keepsOrder_elim_iff {α : Type} (db : SessionDb) (log : Option α)
    {project : α → SessionDb} {InTime : α → Prop}
    (decided : ∀ content, db.KeepsOrder (project content) ↔ InTime content) :
    db.KeepsOrder (log.elim db project) ↔ ∀ content ∈ log, InTime content := by
  cases log with
  | none =>
    refine ⟨fun _ _ absent => absurd absent (Option.not_mem_none _), ?_⟩
    intro _ id row found
    exact ⟨row, found, .refl _⟩
  | some content => simp [decided content]

theorem keepsOrder_sessionOpened_iff (db : SessionDb) (chainId : Nat) (log : SessionLog) :
    db.KeepsOrder (db.handleSessionOpened chainId log) ↔
      (SessionWrite.sessionOpened chainId log).InTime db := by
  apply keepsOrder_elim_iff
  intro opened
  rw [keepsOrder_upsert_iff]
  apply forall_congr'
  intro row
  exact imp_congr_right fun _ => (SessionStatus.mem_earlier_iff _ _).symm

theorem keepsOrder_sessionSealed (db : SessionDb) (log : SessionLog) :
    db.KeepsOrder (db.handleSessionSealed log) := by
  refine (keepsOrder_elim_iff db log.delivered ?_).2 (fun _ _ => trivial)
  intro content
  refine ⟨fun _ => trivial, fun _ => keepsOrder_moveFrom db _ ?_⟩
  decide

theorem keepsOrder_createPending_iff (db : SessionDb) (sessionId : Bytes32) (chainId : Nat)
    (gameTemplateId : Bytes32) (tableId : String) (openTxHash : Option Bytes32) : db.KeepsOrder
      (db.createOnchainSessionPending sessionId chainId gameTemplateId tableId openTxHash) ↔
    db.IsAmong sessionId SessionStatus.opened.earlier := by
  rw [SessionDb.createOnchainSessionPending, keepsOrder_upsert_iff]
  apply forall_congr'
  intro row
  exact imp_congr_right fun _ =>
    SessionStatus.mayBecome_pending_unless_opened_iff row.status

theorem keepsOrder_retireGhost_iff (db : SessionDb) (sessionId : Bytes32) :
    db.KeepsOrder (db.retireGhost sessionId) ↔ (SessionWrite.retireGhost sessionId).InTime db := by
  rw [SessionDb.retireGhost, keepsOrder_update_iff]
  apply forall_congr'
  intro row
  apply imp_congr_right
  intro _
  rw [Option.isNone_iff_eq_none, SessionStatus.mem_earlier_iff]

theorem keepsOrder_markOpened (db : SessionDb) (sessionId : Bytes32) (openTxHash : Option Bytes32) :
    db.KeepsOrder (db.markOnchainSessionOpened sessionId openTxHash) := by
  apply (keepsOrder_update_iff db sessionId _ _).2
  intro row _ listed
  have forwards : ∀ status ∈ [SessionStatus.pending, .opened], status.MayBecome .opened := by
    decide
  exact forwards row.status (of_decide_eq_true listed)

theorem keepsOrder_markReadyForSettlement (db : SessionDb) (sessionId : Bytes32) :
    db.KeepsOrder (db.markOnchainSessionReadyForSettlement sessionId) := by
  apply (keepsOrder_update_iff db sessionId _ _).2
  intro row _ chosen
  have forwards : ∀ status ∈ [SessionStatus.pending, .opened, .playing],
      status.MayBecome .settling := by
    decide
  exact forwards row.status (of_decide_eq_true chosen).1

theorem keepsOrder_blockOpenForChain (db : SessionDb) (chainId : Nat) :
    db.KeepsOrder (db.blockOpenOnchainSessionsForChain chainId) := by
  have forwards : ∀ status ∈ [SessionStatus.pending, .opened, .playing],
      status.MayBecome .blocked := by
    decide
  intro id row found
  by_cases chosen : row.chainId = chainId ∧ row.status ∈ [SessionStatus.pending, .opened, .playing]
  · refine ⟨SessionDb.withStatus .blocked row, ?_, forwards _ chosen.2⟩
    simp only [SessionDb.blockOpenOnchainSessionsForChain, found, Option.map_some, if_pos chosen]
  · refine ⟨row, ?_, .refl _⟩
    simp only [SessionDb.blockOpenOnchainSessionsForChain, found, Option.map_some, if_neg chosen]

/-- A statement keeps the order of the statuses exactly when it is in time. -/
theorem keepsOrder_perform_iff (db : SessionDb) (statement : SessionWrite) :
    db.KeepsOrder (db.perform statement) ↔ statement.InTime db := by
  cases statement with
  | sessionOpened chainId log => exact keepsOrder_sessionOpened_iff db _ log
  | sessionSettled log =>
    exact keepsOrder_elim_iff db log.delivered fun _ => keepsOrder_set_iff db _ fun _ => rfl
  | sessionSealed log =>
    exact iff_of_true (keepsOrder_sessionSealed db log) trivial
  | hubSettled log =>
    exact keepsOrder_elim_iff db log.delivered fun _ => keepsOrder_set_iff db _ fun _ => rfl
  | sessionTransition log =>
    exact keepsOrder_elim_iff db log.transition fun _ => keepsOrder_set_iff db _ fun _ => rfl
  | createPending => exact keepsOrder_createPending_iff db _ _ _ _ _
  | markOpened => exact iff_of_true (keepsOrder_markOpened db _ _) trivial
  | blockFailed =>
    exact iff_of_true (keepsOrder_moveFrom db _ (by decide)) trivial
  | blockOpenForChain =>
    exact iff_of_true (keepsOrder_blockOpenForChain db _) trivial
  | markPlaying =>
    exact iff_of_true (keepsOrder_moveFrom db _ (by decide)) trivial
  | markReadyForSettlement =>
    exact iff_of_true (keepsOrder_markReadyForSettlement db _) trivial
  | closeForSettlement =>
    exact iff_of_true (keepsOrder_moveFrom db _ (by decide)) trivial
  | abandonUnseated =>
    exact iff_of_true (keepsOrder_moveFrom db _ (by decide)) trivial
  | forceLeave =>
    exact iff_of_true (keepsOrder_moveFrom db _ (by decide)) trivial
  | reapOrphan =>
    exact iff_of_true (keepsOrder_moveFrom db _ (by decide)) trivial
  | retireGhost => exact keepsOrder_retireGhost_iff db _
  | markSettling => exact keepsOrder_set_iff db _ fun _ => rfl
  | markSettled => exact keepsOrder_set_iff db _ fun _ => rfl
  | tableSession =>
    exact iff_of_true (fun _ row found => ⟨row, found, .refl _⟩) trivial

/-! ## Runs -/

/-- A run whose statements come in time moves no session backwards. -/
theorem advances_of_inTime {db later : SessionDb}
    (reached : (sessionRuns.startingAt db).Reachable
        (fun state statement => statement.InTime state) later) :
    db.Advances later := by
  induction reached with
  | start initial =>
    cases initial
    exact .refl db
  | next _ inTime accepted advanced =>
    cases accepted
    exact advanced.change ((keepsOrder_perform_iff _ _).2 inTime)

/-- Every list of statements is a run. -/
theorem reachable_foldl (statements : List SessionWrite) (db : SessionDb) :
    (sessionRuns.startingAt db).Reachable AnyCall (statements.foldl SessionDb.perform db) := by
  induction statements using List.reverseRecOn with
  | nil => exact .start rfl
  | append_singleton earlier last induction =>
    rw [List.foldl_concat]
    exact .next induction trivial rfl

namespace Example

/-- No session yet. -/
def noSessions : SessionDb where
  sessions := fun _ => none
  hasActiveSession := fun _ => false

/-- The log of the opening of session 7, in transaction 70. -/
def opening : SessionLog where
  sessionId := some 7
  transactionHash := some 70
  removed := false
  blockNumber := some 12
  templateId := some 3
  toState := none

/-- The session is created, opened and started before its log comes. -/
def matched : List SessionWrite :=
  [.createPending 7 84532 3 "table" none, .markOpened 7 (some 70), .markPlaying 7]

end Example

end Mozetto.Custody
