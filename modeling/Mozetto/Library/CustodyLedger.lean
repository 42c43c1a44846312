import Mathlib.Algebra.BigOperators.Option
import Mathlib.Data.Finset.Card
import Mozetto.Library.Coverage
import Mozetto.Library.Mapping

/-!
# An abstract custody ledger

A ledger locks amounts for members of sessions and accrues fees.  It is the
book-keeping purpose of a custody contract, stated without its storage, its
callers or its tokens: sessions are opened once, members join with a lock,
locks are raised and released, and closing a session accrues a fee.  The
module proves which of these operations keep a ledger well formed, and how a
reserve has to move to keep it covered.
-/

namespace Mozetto.Library.CustodyLedger

open Mozetto.Library.Coverage
open Mozetto.Library.Mapping

/-- Locks of the members of sessions, with their totals and accrued fees. -/
structure Ledger (σ α : Type) where
  opened : σ → Bool
  settled : σ → Bool
  locked : σ → α → Nat
  total : α → Nat
  participant : σ → α → Bool
  count : σ → Nat
  accrued : Nat

namespace Ledger

variable {σ α : Type} [DecidableEq σ] [DecidableEq α]

/-- The ledger before anything happened. -/
def empty : Ledger σ α where
  opened := fun _ => false
  settled := fun _ => false
  locked := fun _ _ => 0
  total := fun _ => 0
  participant := fun _ _ => false
  count := fun _ => 0
  accrued := 0

/-! ## Operations -/

def openSession (ledger : Ledger σ α) (session : σ) : Ledger σ α :=
  { ledger with
    opened := write ledger.opened session true
    settled := write ledger.settled session false }

/-- Add to the lock of one account and to its total. -/
def raise (ledger : Ledger σ α) (session : σ) (account : α) (amount : Nat) : Ledger σ α :=
  { ledger with
    locked :=
      write₂ ledger.locked session account (ledger.locked session account + amount)
    total := write ledger.total account (ledger.total account + amount) }

/-- A new member with its first lock. -/
def join (ledger : Ledger σ α) (session : σ) (account : α) (amount : Nat) : Ledger σ α :=
  { ledger.raise session account amount with
    participant := write₂ ledger.participant session account true
    count := write ledger.count session (ledger.count session + 1) }

/-- Take from the lock of one account and from its total. -/
def release (ledger : Ledger σ α) (session : σ) (account : α) (amount : Nat) : Ledger σ α :=
  { ledger with
    locked :=
      write₂ ledger.locked session account (ledger.locked session account - amount)
    total := write ledger.total account (ledger.total account - amount) }

/-- Close a session and accrue a fee. -/
def close (ledger : Ledger σ α) (session : σ) (fee : Nat) : Ledger σ α :=
  { ledger with
    settled := write ledger.settled session true
    accrued := ledger.accrued + fee }

/-- Pay out accrued fees. -/
def payFees (ledger : Ledger σ α) (amount : Nat) : Ledger σ α :=
  { ledger with accrued := ledger.accrued - amount }

/-! ## Well-formed ledgers -/

/--
What holds of a ledger at any time: members only in opened sessions, as many
as counted, locks only of members, and totals that cover the locks.
-/
structure WellFormed (ledger : Ledger σ α) : Prop where
  opened_of_participant : ∀ session account, ledger.participant session account = true →
      ledger.opened session = true
  roster : ∀ session, ∃ members : Finset α, members.card = ledger.count session ∧ ∀ account,
          account ∈ members ↔ ledger.participant session account = true
  participant_of_locked : ∀ session account, ledger.locked session account ≠ 0 →
      ledger.participant session account = true
  totals : ∀ account, Covers (ledger.total account) (fun session => ledger.locked session account)

omit [DecidableEq σ] [DecidableEq α] in
theorem wellFormed_empty : WellFormed (empty : Ledger σ α) where
  opened_of_participant := by
    intro session account member
    cases member
  roster := by
    intro session
    exact ⟨∅, rfl, by simp [empty]⟩
  participant_of_locked := by
    intro session account locked
    exact absurd rfl locked
  totals := fun account => covers_zero 0

omit [DecidableEq α] in
theorem WellFormed.openSession {ledger : Ledger σ α} (formed : WellFormed ledger) (session : σ) :
    WellFormed (ledger.openSession session) where
  opened_of_participant := by
    intro other account member
    by_cases same : other = session
    · simp [Ledger.openSession, write, same]
    · simpa [Ledger.openSession, write, same] using
        formed.opened_of_participant other account member
  roster := formed.roster
  participant_of_locked := formed.participant_of_locked
  totals := formed.totals

theorem totals_raise {ledger : Ledger σ α} (formed : WellFormed ledger)
    (session : σ) (account : α) (amount : Nat) (entry : α) :
    Covers ((ledger.raise session account amount).total entry)
      (fun other => (ledger.raise session account amount).locked other entry) := by
  by_cases same : entry = account
  · subst same
    have credited : Covers (ledger.total entry + amount) (fun other =>
          (ledger.raise session entry amount).locked other entry) := by
      apply Covers.credit (formed.totals entry) session amount
      · simp [raise, write₂]
      · intro other ne
        simp [raise, write₂, ne]
    simpa [raise, write] using credited
  · simpa [raise, write, write₂, same] using formed.totals entry

theorem WellFormed.raise {ledger : Ledger σ α} (formed : WellFormed ledger)
    {session : σ} {account : α}
    (member : ledger.participant session account = true) (amount : Nat) :
    WellFormed (ledger.raise session account amount) where
  opened_of_participant := formed.opened_of_participant
  roster := formed.roster
  participant_of_locked := by
    intro other entry locked
    by_cases same : other = session ∧ entry = account
    · obtain ⟨rfl, rfl⟩ := same
      exact member
    · simp only [Ledger.raise, write₂, same, if_false] at locked
      exact formed.participant_of_locked other entry locked
  totals := totals_raise formed session account amount

theorem WellFormed.join {ledger : Ledger σ α} (formed : WellFormed ledger)
    {session : σ} {account : α} (opened : ledger.opened session = true)
    (fresh : ledger.participant session account = false) (amount : Nat) :
    WellFormed (ledger.join session account amount) where
  opened_of_participant := by
    intro other entry member
    by_cases same : other = session ∧ entry = account
    · rw [same.1]
      exact opened
    · simp only [Ledger.join, write₂, same, if_false] at member
      exact formed.opened_of_participant other entry member
  roster := by
    intro other
    obtain ⟨members, card, mem_iff⟩ := formed.roster other
    by_cases same : other = session
    · subst same
      have absent : account ∉ members := by
        rw [mem_iff, fresh]
        simp
      refine ⟨insert account members, ?_, ?_⟩
      · simp [Finset.card_insert_of_notMem absent, card, Ledger.join, write]
      · intro entry
        by_cases equal : entry = account
        · simp [Ledger.join, equal]
        · simp [Ledger.join, write₂, equal, mem_iff]
    · refine ⟨members, ?_, ?_⟩
      · simp [Ledger.join, write, same, card, Ledger.raise]
      · intro entry
        simp [Ledger.join, write₂, same, mem_iff]
  participant_of_locked := by
    intro other entry locked
    by_cases same : other = session ∧ entry = account
    · simp [Ledger.join, write₂, same]
    · simp only [Ledger.join, Ledger.raise, write₂, same, if_false] at locked ⊢
      exact formed.participant_of_locked other entry locked
  totals := totals_raise formed session account amount

theorem WellFormed.release {ledger : Ledger σ α} (formed : WellFormed ledger)
    {session : σ} {account : α} {amount : Nat} (enough : amount ≤ ledger.locked session account) :
    WellFormed (ledger.release session account amount) where
  opened_of_participant := formed.opened_of_participant
  roster := formed.roster
  participant_of_locked := by
    intro other entry locked
    apply formed.participant_of_locked other entry
    by_cases same : other = session ∧ entry = account
    · simp only [Ledger.release, write₂, same, and_self, if_true] at locked
      rw [same.1, same.2]
      omega
    · simpa only [Ledger.release, write₂, same, if_false] using locked
  totals := by
    intro entry
    by_cases same : entry = account
    · subst same
      have debited : Covers (ledger.total entry - amount) (fun other =>
            (ledger.release session entry amount).locked other entry) := by
        apply Covers.debit (formed.totals entry) session amount enough
        · simp [Ledger.release, write₂]
        · intro other ne
          simp [Ledger.release, write₂, ne]
      simpa [Ledger.release, write] using debited
    · simpa [Ledger.release, write, write₂, same] using formed.totals entry

omit [DecidableEq α] in
theorem WellFormed.close {ledger : Ledger σ α} (formed : WellFormed ledger)
    (session : σ) (fee : Nat) : WellFormed (ledger.close session fee) :=
  { opened_of_participant := formed.opened_of_participant
    roster := formed.roster
    participant_of_locked := formed.participant_of_locked
    totals := formed.totals }

omit [DecidableEq σ] [DecidableEq α] in
theorem WellFormed.payFees {ledger : Ledger σ α} (formed : WellFormed ledger) (amount : Nat) :
    WellFormed (ledger.payFees amount) :=
  { opened_of_participant := formed.opened_of_participant
    roster := formed.roster
    participant_of_locked := formed.participant_of_locked
    totals := formed.totals }

omit [DecidableEq σ] [DecidableEq α] in
/-- A lock never exceeds the total of its account. -/
theorem WellFormed.locked_le_total {ledger : Ledger σ α} (formed : WellFormed ledger)
    (session : σ) (account : α) : ledger.locked session account ≤ ledger.total account :=
  (formed.totals account).entry_le session

/-! ## Solvency -/

/-- What the reserve owes: every lock, and the accrued fees under `none`. -/
def liability (ledger : Ledger σ α) : Option (σ × α) → Nat
  | none => ledger.accrued
  | some (session, account) => ledger.locked session account

/-- The reserve covers every lock and the accrued fees. -/
def Solvent (reserve : Nat) (ledger : Ledger σ α) : Prop := Covers reserve ledger.liability

omit [DecidableEq σ] [DecidableEq α] in
theorem solvent_empty (reserve : Nat) : Solvent reserve (empty : Ledger σ α) := by
  intro keys
  have zero : ∑ key ∈ keys, (empty : Ledger σ α).liability key = 0 :=
    Finset.sum_eq_zero (by
      rintro (_ | ⟨session, account⟩) - <;> rfl)
  omega

omit [DecidableEq σ] [DecidableEq α] in
/-- The sums of any finite set of locks, together with the fees. -/
theorem Solvent.sum_locked_add_accrued_le {reserve : Nat} {ledger : Ledger σ α}
    (solvent : Solvent reserve ledger) (keys : Finset (σ × α)) :
    (∑ key ∈ keys, ledger.locked key.1 key.2) + ledger.accrued ≤
      reserve := by
  have whole := solvent (Finset.insertNone keys)
  rw [Finset.sum_insertNone] at whole
  simp only [liability] at whole
  omega

theorem Solvent.raise {reserve : Nat} {ledger : Ledger σ α} (solvent : Solvent reserve ledger)
    (session : σ) (account : α) (amount : Nat) :
    Solvent (reserve + amount) (ledger.raise session account amount) := by
  apply Covers.credit solvent (some (session, account)) amount
  · simp [liability, Ledger.raise, write₂]
  · rintro (_ | ⟨other, entry⟩) ne
    · rfl
    · have different : ¬ (other = session ∧ entry = account) := by
        rintro ⟨rfl, rfl⟩
        exact ne rfl
      simp [liability, Ledger.raise, write₂, different]

omit [DecidableEq σ] [DecidableEq α] in
theorem Solvent.of_locks {reserve : Nat} {ledger other : Ledger σ α}
    (solvent : Solvent reserve ledger) (locked : other.locked = ledger.locked)
    (accrued : other.accrued = ledger.accrued) :
    Solvent reserve other := by
  have same : other.liability = ledger.liability := by
    funext key
    cases key with
    | none => exact accrued
    | some entry => exact congrFun (congrFun locked entry.1) entry.2
  unfold Solvent
  rw [same]
  exact solvent

theorem Solvent.release {reserve : Nat} {ledger : Ledger σ α} (solvent : Solvent reserve ledger)
    {session : σ} {account : α} {amount : Nat} (enough : amount ≤ ledger.locked session account) :
    Solvent (reserve - amount) (ledger.release session account amount) := by
  apply Covers.debit solvent (some (session, account)) amount enough
  · simp [liability, Ledger.release, write₂]
  · rintro (_ | ⟨other, entry⟩) ne
    · rfl
    · have different : ¬ (other = session ∧ entry = account) := by
        rintro ⟨rfl, rfl⟩
        exact ne rfl
      simp [liability, Ledger.release, write₂, different]

theorem Solvent.payFees {reserve : Nat} {ledger : Ledger σ α}
    (solvent : Solvent reserve ledger) {amount : Nat} (enough : amount ≤ ledger.accrued) :
    Solvent (reserve - amount) (ledger.payFees amount) := by
  apply Covers.debit solvent none amount enough
  · rfl
  · rintro (_ | ⟨other, entry⟩) ne
    · exact absurd rfl ne
    · rfl

/--
Clearing the locks of some members of a session while a part of their sum
becomes a fee: the reserve may pay out the rest.
-/
theorem Solvent.settle {reserve fee : Nat} {ledger after : Ledger σ α}
    (solvent : Solvent reserve ledger) (session : σ) (members : Finset α)
    (cleared : ∀ account ∈ members, after.locked session account = 0)
    (kept : ∀ other account, ¬ (other = session ∧ account ∈ members) →
        after.locked other account = ledger.locked other account)
    (accrued : after.accrued = ledger.accrued + fee)
    (within : fee ≤ ∑ account ∈ members, ledger.locked session account) :
    Solvent (reserve - ((∑ account ∈ members, ledger.locked session account) - fee))
      after := by
  let keys : Finset (Option (σ × α)) :=
    members.map ⟨fun account => some (session, account), by
        intro left right equal
        simpa using equal⟩
  have sum_keys : ∑ key ∈ keys, ledger.liability key =
      ∑ account ∈ members, ledger.locked session account := by
    rw [Finset.sum_map]
    rfl
  let between : Option (σ × α) → Nat
    | none => ledger.accrued
    | some (other, account) => after.locked other account
  have freed : Covers (reserve - ∑ key ∈ keys, ledger.liability key) between := by
    apply Covers.clear solvent keys
    · intro key inside
      obtain ⟨account, member, rfl⟩ := Finset.mem_map.mp inside
      exact cleared account member
    · rintro (_ | ⟨other, account⟩) outside
      · rfl
      · apply kept
        rintro ⟨rfl, member⟩
        exact outside (Finset.mem_map.mpr ⟨account, member, rfl⟩)
  have charged : Covers (reserve - (∑ key ∈ keys, ledger.liability key) + fee)
      after.liability := by
    apply Covers.credit freed none fee
    · exact accrued
    · rintro (_ | ⟨other, account⟩) ne
      · exact absurd rfl ne
      · rfl
  have bound := solvent keys
  refine Covers.mono charged ?_
  rw [sum_keys] at bound ⊢
  omega

/-! ## What operations leave of other sessions -/

/-- One session looks the same in two ledgers: its record and its locks. -/
structure SameSession (session : σ) (ledger other : Ledger σ α) : Prop where
  opened : other.opened session = ledger.opened session
  settled : other.settled session = ledger.settled session
  locked : other.locked session = ledger.locked session

namespace SameSession

variable {session other : σ} {ledger middle last : Ledger σ α}

omit [DecidableEq σ] [DecidableEq α] in
theorem refl (session : σ) (ledger : Ledger σ α) :
    SameSession session ledger ledger :=
  ⟨rfl, rfl, rfl⟩

omit [DecidableEq σ] [DecidableEq α] in
theorem trans (first : SameSession session ledger middle)
    (second : SameSession session middle last) : SameSession session ledger last where
  opened := second.opened.trans first.opened
  settled := second.settled.trans first.settled
  locked := second.locked.trans first.locked

omit [DecidableEq α] in
theorem openSession (ne : session ≠ other) :
    SameSession session ledger (ledger.openSession other) where
  opened := write_of_ne _ _ ne
  settled := write_of_ne _ _ ne
  locked := rfl

theorem raise (ne : session ≠ other) (account : α) (amount : Nat) :
    SameSession session ledger (ledger.raise other account amount) where
  opened := rfl
  settled := rfl
  locked := by
    funext entry
    exact write₂_of_ne _ _ (fun both => ne both.1)

theorem join (ne : session ≠ other) (account : α) (amount : Nat) :
    SameSession session ledger (ledger.join other account amount) where
  opened := rfl
  settled := rfl
  locked := (raise ne account amount).locked

theorem release (ne : session ≠ other) (account : α) (amount : Nat) :
    SameSession session ledger (ledger.release other account amount) where
  opened := rfl
  settled := rfl
  locked := by
    funext entry
    exact write₂_of_ne _ _ (fun both => ne both.1)

omit [DecidableEq α] in
theorem close (ne : session ≠ other) (fee : Nat) :
    SameSession session ledger (ledger.close other fee) where
  opened := rfl
  settled := write_of_ne _ _ ne
  locked := rfl

omit [DecidableEq σ] [DecidableEq α] in
theorem payFees (amount : Nat) : SameSession session ledger (ledger.payFees amount) :=
  ⟨rfl, rfl, rfl⟩

end SameSession

end Ledger

end Mozetto.Library.CustodyLedger
