import Mozetto.Chain.Protocol

/-!
# Discovery of accounts

The address of an account is derived from the owner it is created for, and
ownership moves later.  The factory's two maps follow every handover, so they
stay inverse to each other and agree with the accounts.  The derived address
does not follow: an owner who has handed over the account created for it is
pointed at an account that somebody else owns.
-/

namespace Mozetto.Chain

open Mozetto.Library.Guarded
open Mozetto.Library.Mapping
open Mozetto.Library.TransitionSystem

/--
The factory with its accounts, and the owners for whom an account has been
deployed.
-/
structure AccountBook where
  factory : ArenaAccountFactory
  accounts : Address → ArenaAccount
  deployedFor : List Address

/-- The calls that create accounts or move their ownership. -/
inductive OwnershipCall where
  | createAccount (owner : Address)
  | transferOwnership (target newOwner : Address)
  | acceptOwnership (target : Address)

namespace AccountBook

variable (deployment : Deployment)

/-- One call; a call on an address without an account's code fails. -/
def step (book : AccountBook) (call : Msg × OwnershipCall) :
    Except Revert AccountBook :=
  let msg := call.1
  match call.2 with
  | .createAccount owner => do
      let (factory, accounts) ← ArenaAccountFactory.createAccount deployment book.factory
          book.accounts owner
      return {
        factory := factory
        accounts := accounts
        deployedFor :=
          if book.factory.accountOf owner ≠ 0 then book.deployedFor
          else owner :: book.deployedFor }
  | .transferOwnership target newOwner => do
      revertIf (book.factory.ownerOf target = 0) .callFailed
      let account ← (book.accounts target).transferOwnership msg newOwner
      return { book with accounts := write book.accounts target account }
  | .acceptOwnership target => do
      revertIf (book.factory.ownerOf target = 0) .callFailed
      let (account, factory) ← ArenaAccountFactory.acceptOwnership msg target
          (book.accounts target) book.factory
      return { book with
        factory := factory
        accounts := write book.accounts target account }

/-- A fresh factory without accounts. -/
def empty : AccountBook where
  factory := ⟨fun _ => 0, fun _ => 0⟩
  accounts := fun _ => ArenaAccount.initializeAccount 0 0
  deployedFor := []

def system : System AccountBook (Msg × OwnershipCall) Revert where
  initial := fun book => book = empty
  step := step deployment

/-! ## The maps and the accounts -/

/-- The two maps of the factory are inverse to each other. -/
def MapsInverse (book : AccountBook) : Prop :=
  ∀ owner account, (account ≠ 0 ∧ book.factory.accountOf owner = account) ↔
      (owner ≠ 0 ∧ book.factory.ownerOf account = owner)

/-- An account has been deployed at the address. -/
def Deployed (book : AccountBook) (account : Address) : Prop :=
  ∃ owner ∈ book.deployedFor, ArenaAccountFactory.predictAddress deployment owner = account

/-- What the factory records about its accounts is so. -/
structure Recorded (book : AccountBook) : Prop where
  inverse : book.MapsInverse
  owner : ∀ account, (book.accounts account).owner = book.factory.ownerOf account
  deployed : ∀ account, book.Deployed deployment account ↔ book.factory.ownerOf account ≠ 0

variable {deployment} {book after : AccountBook} {msg : Msg}

theorem empty_recorded : empty.Recorded deployment where
  inverse := by
    intro owner account
    constructor
    · rintro ⟨nonzero, none⟩
      exact absurd none.symm nonzero
    · rintro ⟨nonzero, none⟩
      exact absurd none.symm nonzero
  owner := fun _ => rfl
  deployed := by
    intro account
    simp [Deployed, empty]

theorem MapsInverse.ownerOf_zero (inverse : book.MapsInverse) : book.factory.ownerOf 0 = 0 := by
  by_contra nonzero
  exact ((inverse _ 0).mpr ⟨nonzero, rfl⟩).1 rfl

/-- Creation returns an existing account or deploys the derived one. -/
theorem created {owner : Address}
    (accepted : step deployment book (msg, .createAccount owner) = .ok after) :
    after = book ∨ owner ≠ 0 ∧ book.factory.accountOf owner = 0 ∧ book.factory.ownerOf
          (ArenaAccountFactory.predictAddress deployment owner) = 0 ∧ after =
          { factory :=
              { accountOf :=
                  write book.factory.accountOf owner
                    (ArenaAccountFactory.predictAddress deployment owner)
                ownerOf :=
                  write book.factory.ownerOf (ArenaAccountFactory.predictAddress deployment owner)
                    owner }
            accounts :=
              write book.accounts (ArenaAccountFactory.predictAddress deployment owner)
                (ArenaAccount.initializeAccount owner deployment.factory)
            deployedFor := owner :: book.deployedFor } := by
  simp only [step, ArenaAccountFactory.createAccount, bind_eq_ok_iff,
    revertIf_eq_ok_iff, exists_const, pure_eq_ok_iff] at accepted
  rcases accepted with ⟨⟨factory, accounts⟩, ⟨nonzero, made⟩, rfl⟩
  by_cases existing : book.factory.accountOf owner ≠ 0
  · left
    rw [if_pos existing, pure_eq_ok_iff] at made
    cases made
    rw [if_pos existing]
  · right
    simp only [if_neg existing, bind_eq_ok_iff, revertIf_eq_ok_iff,
      exists_const, pure_eq_ok_iff] at made
    rcases made with ⟨vacant, equal⟩
    cases equal
    rw [if_neg existing]
    exact ⟨nonzero, not_not.mp existing, not_not.mp vacant, rfl⟩

theorem Recorded.create {owner : Address} (recorded : book.Recorded deployment)
    (accepted : step deployment book (msg, .createAccount owner) = .ok after) :
    after.Recorded deployment := by
  rcases created accepted with rfl | ⟨nonzero, unmapped, unowned, rfl⟩
  · exact recorded
  have predicted : ArenaAccountFactory.predictAddress deployment owner ≠ 0 :=
    deployment.predict_ne_zero _
  constructor
  · intro other account
    have before := recorded.inverse other account
    by_cases isOwner : other = owner
    · subst isOwner
      by_cases isAccount : account = ArenaAccountFactory.predictAddress deployment other
      · subst isAccount
        simp [predicted, nonzero]
      · simp only [write_self, write_of_ne _ _ isAccount]
        rw [← before, unmapped]
        constructor
        · rintro ⟨-, equal⟩
          exact absurd equal.symm isAccount
        · rintro ⟨some, none⟩
          exact absurd none.symm some
    · simp only [write_of_ne _ _ isOwner]
      by_cases isAccount : account = ArenaAccountFactory.predictAddress deployment owner
      · subst isAccount
        rw [write_self, before, unowned]
        constructor
        · rintro ⟨some, none⟩
          exact absurd none.symm some
        · rintro ⟨-, equal⟩
          exact absurd equal.symm isOwner
      · rw [write_of_ne _ _ isAccount]
        exact before
  · intro account
    by_cases isAccount : account = ArenaAccountFactory.predictAddress deployment owner
    · subst isAccount
      simp [ArenaAccount.initializeAccount]
    · simp only [write_of_ne _ _ isAccount]
      exact recorded.owner account
  · intro account
    have before := recorded.deployed account
    by_cases isAccount : account = ArenaAccountFactory.predictAddress deployment owner
    · subst isAccount
      simp only [write_self]
      exact iff_of_true ⟨owner, List.mem_cons_self, rfl⟩ nonzero
    · simp only [write_of_ne _ _ isAccount]
      rw [← before]
      constructor
      · rintro ⟨other, member, equal⟩
        rcases List.mem_cons.mp member with same | member
        · rw [same] at equal
          exact absurd equal.symm isAccount
        · exact ⟨other, member, equal⟩
      · rintro ⟨other, member, equal⟩
        exact ⟨other, List.mem_cons_of_mem _ member, equal⟩

theorem Recorded.transfer {target newOwner : Address} (recorded : book.Recorded deployment)
    (accepted : step deployment book (msg, .transferOwnership target newOwner) = .ok after) :
    after.Recorded deployment := by
  simp only [step, ArenaAccount.transferOwnership, bind_eq_ok_iff,
    revertIf_eq_ok_iff, exists_const, pure_eq_ok_iff] at accepted
  rcases accepted with ⟨-, account, ⟨-, -, rfl⟩, rfl⟩
  refine ⟨recorded.inverse, ?_, recorded.deployed⟩
  intro other
  by_cases same : other = target
  · subst same
    simpa using recorded.owner other
  · simp only [write_of_ne _ _ same]
    exact recorded.owner other

/-- An accepted handover moves one account between two known owners. -/
theorem handover {target : Address}
    (accepted : step deployment book (msg, .acceptOwnership target) = .ok after) :
    ∃ previous next, previous ≠ 0 ∧ next ≠ 0 ∧ book.factory.ownerOf target = previous ∧
      book.factory.accountOf previous = target ∧ book.factory.accountOf next = 0 ∧
      after.factory.accountOf = write (write book.factory.accountOf previous 0) next target ∧
      after.factory.ownerOf = write book.factory.ownerOf target next ∧ (∀ account,
        (after.accounts account).owner =
          write (fun other => (book.accounts other).owner) target next account) ∧
      after.deployedFor = book.deployedFor := by
  simp only [step, ArenaAccountFactory.acceptOwnership,
    ArenaAccountFactory.syncOwner, bind_eq_ok_iff, revertIf_eq_ok_iff,
    exists_const, pure_eq_ok_iff, ne_eq, not_not] at accepted
  rcases accepted with ⟨owned, ⟨record, factory⟩, ⟨-, synced⟩, rfl⟩
  rcases synced with ⟨factory, ⟨previous, account, nonzero, free, rfl⟩, equal⟩
  cases equal
  refine ⟨(book.accounts target).owner, (book.accounts target).pendingOwner,
    ?_, nonzero, previous, account, free, rfl, rfl, ?_, rfl⟩
  · rw [← previous]
    exact owned
  · intro other
    by_cases same : other = target
    · subst same
      simp
    · simp only [write_of_ne _ _ same]

theorem Recorded.accept {target : Address} (recorded : book.Recorded deployment)
    (accepted : step deployment book (msg, .acceptOwnership target) = .ok after) :
    after.Recorded deployment := by
  rcases handover accepted with ⟨previous, next, previousSet, nextSet, owned, held, free, accountOf,
      ownerOf, owners, deployedFor⟩
  have targetSet : target ≠ 0 := by
    intro zero
    rw [zero, recorded.inverse.ownerOf_zero] at owned
    exact previousSet owned.symm
  have different : previous ≠ next := by
    intro same
    rw [same, free] at held
    exact targetSet held.symm
  constructor
  · intro owner account
    have before := recorded.inverse owner account
    rw [accountOf, ownerOf]
    by_cases isNext : owner = next
    · subst isNext
      rw [write_self]
      by_cases isTarget : account = target
      · subst isTarget
        simp [targetSet, nextSet]
      · rw [write_of_ne _ _ isTarget, ← before, free]
        constructor
        · rintro ⟨-, equal⟩
          exact absurd equal.symm isTarget
        · rintro ⟨some, none⟩
          exact absurd none.symm some
    · rw [write_of_ne _ _ isNext]
      by_cases isPrevious : owner = previous
      · subst isPrevious
        rw [write_self]
        by_cases isTarget : account = target
        · subst isTarget
          rw [write_self]
          constructor
          · rintro ⟨some, none⟩
            exact absurd none.symm some
          · rintro ⟨-, equal⟩
            exact absurd equal.symm isNext
        · rw [write_of_ne _ _ isTarget, ← before, held]
          constructor
          · rintro ⟨some, none⟩
            exact absurd none.symm some
          · rintro ⟨-, equal⟩
            exact absurd equal.symm isTarget
      · rw [write_of_ne _ _ isPrevious]
        by_cases isTarget : account = target
        · subst isTarget
          rw [write_self, before, owned]
          constructor
          · rintro ⟨-, equal⟩
            exact absurd equal.symm isPrevious
          · rintro ⟨-, equal⟩
            exact absurd equal.symm isNext
        · rw [write_of_ne _ _ isTarget]
          exact before
  · intro account
    rw [owners, ownerOf]
    by_cases isTarget : account = target
    · subst isTarget
      rw [write_self, write_self]
    · rw [write_of_ne _ _ isTarget, write_of_ne _ _ isTarget]
      exact recorded.owner account
  · intro account
    rw [Deployed, deployedFor, ownerOf]
    by_cases isTarget : account = target
    · subst isTarget
      rw [write_self]
      refine iff_of_true ?_ nextSet
      apply (recorded.deployed account).mpr
      rw [owned]
      exact previousSet
    · rw [write_of_ne _ _ isTarget]
      exact recorded.deployed account

theorem recorded_of_reachable (reached : (system deployment).Reachable AnyCall book) :
    book.Recorded deployment := by
  induction reached with
  | start initial =>
    rw [show _ = empty from initial]
    exact empty_recorded
  | @next before after call _ _ accepted recorded =>
    rcases call with ⟨msg, call⟩
    have accepted : step deployment before (msg, call) = .ok after := accepted
    cases call with
    | createAccount owner => exact recorded.create accepted
    | transferOwnership target newOwner => exact recorded.transfer accepted
    | acceptOwnership target => exact recorded.accept accepted

/-! ## What discovery returns -/

variable (deployment) in
/-- Discovery returns an account of the owner, or one not deployed yet. -/
def Discovers (book : AccountBook) (owner : Address) : Prop :=
  let account := (ArenaAccountFactory.getOrPredict deployment book.factory owner).1
  (book.accounts account).owner = owner ∨ ¬ book.Deployed deployment account

theorem Recorded.deployedFor_iff (recorded : book.Recorded deployment) (owner : Address) :
    owner ∈ book.deployedFor ↔ book.factory.ownerOf
        (ArenaAccountFactory.predictAddress deployment owner) ≠ 0 := by
  rw [← recorded.deployed]
  constructor
  · exact fun member => ⟨owner, member, rfl⟩
  · rintro ⟨other, member, equal⟩
    have same : other = owner := deployment.predict_injective equal
    rw [← same]
    exact member

theorem Recorded.discovers_iff (recorded : book.Recorded deployment) (owner : Address) :
    book.Discovers deployment owner ↔
      (owner ∈ book.deployedFor → book.factory.accountOf owner ≠ 0) := by
  rw [recorded.deployedFor_iff]
  by_cases mapped : book.factory.accountOf owner ≠ 0
  · refine iff_of_true ?_ (fun _ => mapped)
    left
    rw [ArenaAccountFactory.getOrPredict, if_pos mapped, recorded.owner]
    exact ((recorded.inverse owner _).mp ⟨mapped, rfl⟩).2
  · rw [Discovers, ArenaAccountFactory.getOrPredict, if_neg mapped,
      recorded.deployed, recorded.owner]
    constructor
    · rintro (owned | vacant) deployed
      · rw [owned] at deployed
        have account := (recorded.inverse owner _).mpr ⟨deployed, owned⟩
        exact absurd (account.2 ▸ account.1) mapped
      · exact absurd deployed vacant
    · exact fun kept => .inr fun deployed => mapped (kept deployed)

/--
In every state the maps are inverse to each other and agree with the
accounts; discovery is right for an owner exactly when the owner has an
account or none was ever deployed for it.
-/
theorem discovery_iff
    (reached : (system deployment).Reachable AnyCall book) :
    book.MapsInverse ∧
      (∀ account,
        (book.accounts account).owner = book.factory.ownerOf account) ∧
      ∀ owner,
        book.Discovers deployment owner ↔
          (owner ∈ book.deployedFor →
            book.factory.accountOf owner ≠ 0) := by
  have recorded := recorded_of_reachable reached
  exact ⟨recorded.inverse, recorded.owner, recorded.discovers_iff⟩

/-! ## Handing over an account -/

/-- A user calls. -/
def byUser (index : Fin 900) (call : OwnershipCall) : Msg × OwnershipCall :=
  (Example.message (Example.user index) 0, call)

/-- The first user's account is created and handed over to the second. -/
def handedOver : List (Msg × OwnershipCall) :=
  [byUser 0 (.createAccount (Example.user 0)),
    byUser 0 (.transferOwnership (Example.accountOf 0) (Example.user 1)),
    byUser 1 (.acceptOwnership (Example.accountOf 0))]

/-- Discovery is right for the new owner of an account. -/
theorem discovery_iff_handedOver :
    ∃ book,
      (system Example.deployment).Reachable AnyCall book ∧
        book.factory.accountOf (Example.user 1) = Example.accountOf 0 ∧
        book.MapsInverse ∧
        book.Discovers Example.deployment (Example.user 1) := by
  have played :
      ((system Example.deployment).replay AnyCall empty handedOver).any
        (fun book =>
          decide
            (book.factory.accountOf (Example.user 1) =
              Example.accountOf 0)) = true := by
    decide +kernel
  rcases System.Reachable.exists_replay (.start rfl) played with
    ⟨book, reached, observed⟩
  have account := of_decide_eq_true observed
  rcases discovery_iff reached with ⟨inverse, -, discovers⟩
  refine ⟨book, reached, account, inverse, ?_⟩
  apply (discovers (Example.user 1)).mpr
  intro _
  rw [account]
  decide

/-- The previous owner is pointed at the account that was handed over. -/
theorem exists_foreign_account :
    ∃ book,
      (system Example.deployment).Reachable AnyCall book ∧
        ¬ book.Discovers Example.deployment (Example.user 0) := by
  have played :
      ((system Example.deployment).replay AnyCall empty handedOver).any
        (fun book =>
          decide
            ((book.accounts (Example.accountOf 0)).owner = Example.user 1 ∧
              (ArenaAccountFactory.getOrPredict Example.deployment
                book.factory (Example.user 0)).1 = Example.accountOf 0 ∧
              Example.user 0 ∈ book.deployedFor)) = true := by
    decide +kernel
  rcases System.Reachable.exists_replay (.start rfl) played with
    ⟨book, reached, observed⟩
  rcases of_decide_eq_true observed with ⟨foreign, returned, deployed⟩
  refine ⟨book, reached, ?_⟩
  rw [Discovers, returned, foreign]
  rintro (same | undeployed)
  · exact absurd same (by decide)
  · exact undeployed ⟨Example.user 0, deployed, rfl⟩

end AccountBook

end Mozetto.Chain
