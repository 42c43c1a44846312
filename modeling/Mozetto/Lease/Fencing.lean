import Mozetto.Lease.Manager

/-!
# Lease versions

Histories of calls to a backend, and the versions of the leases they grant.
Versions count up from the stored record, so they increase for as long as the
record is there; once it is removed they start again from one.
-/

namespace Mozetto.Lease

open Mozetto.Library.Mapping

/-! ## Histories -/

/-- A call, or the expiry of a key, at a time of the backend's clock. -/
inductive Event where
  | call (clock : Int) (call : Call)
  | keyExpiry (clock : Int) (tableId : String)
deriving DecidableEq, Repr

def Event.tableId : Event → String
  | .call _ asked => asked.tableId
  | .keyExpiry _ tableId => tableId

/-- What came of an event: its answer, and whether the record was removed. -/
structure Entry where
  tableId : String
  answer : Option Answer
  removed : Bool
deriving DecidableEq, Repr

def Backend.after (backend : Backend) (store : Store) : Event → Store × Option Answer
  | .call clock call =>
      let performed := backend.perform store clock call
      (performed.1, some performed.2)
  | .keyExpiry clock tableId =>
      (backend.keyExpiry store clock tableId, none)

def Backend.entry (backend : Backend) (store : Store) (event : Event) : Entry where
  tableId := event.tableId
  answer := (backend.after store event).2
  removed :=
    (store.leases event.tableId).isSome &&
      ((backend.after store event).1.leases event.tableId).isNone

/-- The store after a history. -/
def Backend.run (backend : Backend) : Store → List Event → Store
  | store, [] => store
  | store, event :: rest => backend.run (backend.after store event).1 rest

/-- The entries of a history, in their order. -/
def Backend.entries (backend : Backend) : Store → List Event → List Entry
  | _, [] => []
  | store, event :: rest =>
      backend.entry store event :: backend.entries (backend.after store event).1 rest

/-- The answers of a history. -/
def Backend.answers (backend : Backend) (store : Store) (events : List Event) : List Answer :=
  (backend.entries store events).filterMap Entry.answer

/-! ## Versions -/

/-- The version that an entry returns for a table, if it grants a lease. -/
def Entry.granted (entry : Entry) (tableId : String) : Option Nat :=
  match entry.answer with
  | some (.acquired (.ok lease _)) =>
      if lease.tableId = tableId then some lease.leaseVersion else none
  | _ => none

def Entry.Removes (entry : Entry) (tableId : String) : Prop :=
  entry.tableId = tableId ∧ entry.removed = true

instance (entry : Entry) (tableId : String) : Decidable (entry.Removes tableId) :=
  inferInstanceAs (Decidable (_ ∧ _))

/-- Every version returned for a table exceeds all those returned before. -/
def Fencing (entries : List Entry) : Prop :=
  ∀ tableId earlier first between second later version newer,
    entries = earlier ++ first :: (between ++ second :: later) →
      first.granted tableId = some version → second.granted tableId = some newer → version < newer

/-- The same, for versions between which the record was not removed. -/
def FencingUntilRemoved (entries : List Entry) : Prop :=
  ∀ tableId earlier first between second later version newer,
    entries = earlier ++ first :: (between ++ second :: later) →
      (∀ entry ∈ between, ¬ entry.Removes tableId) → first.granted tableId = some version →
          second.granted tableId = some newer → version < newer

/-- No expired lease is read, and no key reaches its deadline. -/
def NoCleanUp : Store → List Event → Prop
  | _, [] => True
  | store, event :: rest =>
      (match event with
      | .call _ (.get tableId now) =>
          ∀ cur ∈ store.leases tableId, now < cur.expiresAt
      | .call _ _ => True
      | .keyExpiry clock tableId =>
          store.leases tableId = none ∨ clock < store.deadlines tableId) ∧
        NoCleanUp (Backend.redis.after store event).1 rest

variable {backend : Backend} {store : Store} {event : Event}
variable {tableId : String} {version : Nat} {cur : LeaseRecord}

/-! ## One event -/

/-- An event changes nothing, stores a next version, or removes a record. -/
theorem after_leases (backend : Backend) (store : Store) (event : Event) :
    (backend.after store event).1.leases = store.leases ∨ (∃ lease : LeaseRecord,
        lease.leaseVersion = nextVersion (store.leases lease.tableId) ∧
          (backend.after store event).1.leases = write store.leases lease.tableId (some lease)) ∨
      (backend.after store event).1.leases = write store.leases event.tableId none := by
  cases event with
  | keyExpiry clock table =>
    cases backend with
    | memory => exact .inl rfl
    | redis =>
      simp only [Backend.after, Backend.keyExpiry, Redis.keyExpiry]
      split
      · exact .inr (.inr rfl)
      · exact .inl rfl
  | call clock call =>
    have effect := backend.effect store clock call
    simp only [Backend.after]
    generalize (backend.perform store clock call).1.leases = leases at *
    generalize (backend.perform store clock call).2 = answer at *
    cases effect with
    | kept => exact .inl rfl
    | acquired => exact .inr (.inl ⟨⟨_, _, _, _⟩, rfl, rfl⟩)
    | renewed => exact .inr (.inl ⟨⟨_, _, _, _⟩, rfl, rfl⟩)
    | released => exact .inr (.inr rfl)
    | cleaned => exact .inr (.inr rfl)

/-- A granted version is the next one, and is then the stored one. -/
theorem granted_version (granted : (backend.entry store event).granted tableId = some version) :
    version = nextVersion (store.leases tableId) ∧
      ∃ lease, (backend.after store event).1.leases tableId = some lease ∧
        lease.leaseVersion = version := by
  cases event with
  | keyExpiry clock table => cases granted
  | call clock call =>
    have effect := backend.effect store clock call
    simp only [Backend.entry, Backend.after, Entry.granted] at granted ⊢
    generalize (backend.perform store clock call).1.leases = leases at *
    generalize (backend.perform store clock call).2 = answer at *
    cases effect with
    | kept noGrant =>
      split at granted
      · rename_i lease reclaimed equal
        exact absurd (Option.some.inj equal) (noGrant lease reclaimed)
      · cases granted
    | acquired free =>
      simp only [Option.ite_none_right_eq_some, Option.some.injEq] at granted
      rcases granted with ⟨rfl, rfl⟩
      exact ⟨rfl, _, write_self _ _ _, rfl⟩
    | renewed stored holder matching =>
      simp only [Option.ite_none_right_eq_some, Option.some.injEq] at granted
      rcases granted with ⟨rfl, rfl⟩
      exact ⟨rfl, _, write_self _ _ _, rfl⟩
    | released => cases granted
    | cleaned => cases granted

/-- A record that is not removed stays, and its version does not go back. -/
theorem version_kept (stored : store.leases tableId = some cur)
    (noRemoval : ¬ (backend.entry store event).Removes tableId) :
    ∃ lease, (backend.after store event).1.leases tableId = some lease ∧
      cur.leaseVersion ≤ lease.leaseVersion := by
  rcases after_leases backend store event with
    same | ⟨lease, version, granted⟩ | removed
  · rw [same]
    exact ⟨cur, stored, Nat.le_refl _⟩
  · rw [granted]
    by_cases equal : tableId = lease.tableId
    · rw [equal] at stored ⊢
      rw [stored] at version
      exact ⟨lease, write_self _ _ _, by rw [version]; exact Nat.le_succ _⟩
    · rw [write_of_ne _ _ equal]
      exact ⟨cur, stored, Nat.le_refl _⟩
  · by_cases equal : tableId = event.tableId
    · refine absurd ⟨equal.symm, ?_⟩ noRemoval
      rw [equal] at stored
      simp [Backend.entry, stored, removed]
    · rw [removed, write_of_ne _ _ equal]
      exact ⟨cur, stored, Nat.le_refl _⟩

/-! ## Histories -/

/-- Versions granted while the record stays exceed its version. -/
theorem version_lt_of_stored {events : List Event} {between later : List Entry} {second : Entry}
    {newer : Nat} (stored : store.leases tableId = some cur)
    (entries : backend.entries store events = between ++ second :: later)
    (noRemoval : ∀ entry ∈ between, ¬ entry.Removes tableId)
    (granted : second.granted tableId = some newer) :
    cur.leaseVersion < newer := by
  induction between generalizing store events cur with
  | nil =>
    cases events with
    | nil => cases entries
    | cons event rest =>
      rcases List.cons.inj entries with ⟨rfl, -⟩
      have next := (granted_version granted).1
      rw [stored] at next
      rw [next]
      exact Nat.lt_succ_self _
  | cons entry between induction =>
    cases events with
    | nil => cases entries
    | cons event rest =>
      rcases List.cons.inj entries with ⟨rfl, tail⟩
      rcases version_kept stored (noRemoval _ List.mem_cons_self) with ⟨lease, stored', older⟩
      exact Nat.lt_of_le_of_lt older (induction stored' tail fun entry member =>
        noRemoval entry (List.mem_cons_of_mem _ member))

/-- Versions increase for as long as the record is not removed. -/
theorem fencingUntilRemoved (events : List Event) :
    FencingUntilRemoved (backend.entries store events) := by
  intro tableId earlier first between second later version newer entries noRemoval granted granted'
  induction earlier generalizing store events with
  | nil =>
    cases events with
    | nil => cases entries
    | cons event rest =>
      rcases List.cons.inj entries with ⟨rfl, tail⟩
      rcases (granted_version granted).2 with ⟨lease, stored, rfl⟩
      exact version_lt_of_stored stored tail noRemoval granted'
  | cons entry earlier induction =>
    cases events with
    | nil => cases entries
    | cons event rest =>
      exact induction rest (List.cons.inj entries).2

/-- Without clean-up the backends give the same answers. -/
theorem answers_eq_of_noCleanUp {events : List Event} {other : Store}
    (noCleanUp : NoCleanUp store events) (same : other.leases = store.leases) :
    Backend.memory.answers other events =
      Backend.redis.answers store events := by
  induction events generalizing store other with
  | nil => rfl
  | cons event rest induction =>
    rcases noCleanUp with ⟨first, rest⟩
    simp only [Backend.answers, Backend.entries, List.filterMap_cons, Backend.entry]
    cases event with
    | keyExpiry clock tableId =>
      have kept : (Backend.redis.after store (.keyExpiry clock tableId)).1.leases =
          store.leases := by
        simp only [Backend.after, Backend.keyExpiry, Redis.keyExpiry]
        split
        case isFalse => rfl
        case isTrue late =>
          rcases first with missing | early
          · funext table
            by_cases equal : table = tableId
            · rw [equal, missing]
              exact write_self _ _ _
            · exact write_of_ne _ _ equal
          · exact absurd early (Int.not_lt.mpr late)
      exact induction rest (same.trans kept.symm)
    | call clock call =>
      have alike := Redis.perform_eq store clock call same
        fun tableId now cur isGet stored => by
          rw [isGet] at first
          exact first cur stored
      have answers := induction rest alike.1.symm
      simp only [Backend.answers] at answers
      simp only [Backend.after, Backend.perform, alike.2]
      exact congrArg _ answers

/--
In every history of either backend the versions returned for a table increase
until its record is removed, and without clean-up the two backends give the
same answers.
-/
theorem leases_fenced_until_removed :
    (∀ (backend : Backend) (events : List Event),
      FencingUntilRemoved (backend.entries emptyStore events)) ∧
      ∀ events, NoCleanUp emptyStore events →
        Backend.memory.answers emptyStore events =
          Backend.redis.answers emptyStore events :=
  ⟨fun _ events => fencingUntilRemoved events,
    fun _ noCleanUp => answers_eq_of_noCleanUp noCleanUp rfl⟩

namespace Example

/-- One actor acquires and releases, then another acquires. -/
def handOver : List Event :=
  [.call 1000 (.tryAcquire "table" "a" 5000 1000),
    .call 1001 (.renew "table" "a" 1 5000 1001),
    .call 1002 (.release "table" "a" (some 2)),
    .call 1003 (.tryAcquire "table" "b" 5000 1003)]

/-- An expired lease is read before another actor acquires. -/
def readExpired : List Event :=
  [.call 0 (.tryAcquire "table" "a" 100 0), .call 200 (.get "table" 200),
    .call 200 (.tryAcquire "table" "b" 100 200)]

/-- A key reaches its deadline before another actor acquires. -/
def keyExpired : List Event :=
  [.call 0 (.tryAcquire "table" "a" 100 0), .keyExpiry 1000 "table",
    .call 1000 (.tryAcquire "table" "b" 100 1000)]

end Example

theorem leases_fenced_handOver :
    FencingUntilRemoved
        (Backend.redis.entries emptyStore Example.handOver) ∧
      Backend.memory.answers emptyStore Example.handOver =
        Backend.redis.answers emptyStore Example.handOver := by
  have noCleanUp : NoCleanUp emptyStore Example.handOver :=
    ⟨trivial, trivial, trivial, trivial, trivial⟩
  exact ⟨leases_fenced_until_removed.1 .redis Example.handOver,
    leases_fenced_until_removed.2 Example.handOver noCleanUp⟩

/--
A removed record gives its versions to the next holder: after a release in
both backends, after reading an expired lease in memory, and after the
deadline of a key in Redis; the backends then answer differently.
-/
theorem exists_version_reused :
    (∀ backend : Backend,
      ¬ Fencing (backend.entries emptyStore Example.handOver)) ∧
      ¬ Fencing (Backend.memory.entries emptyStore Example.readExpired) ∧
      ¬ Fencing (Backend.redis.entries emptyStore Example.keyExpired) ∧
      Backend.memory.answers emptyStore Example.readExpired ≠
        Backend.redis.answers emptyStore Example.readExpired ∧
      Backend.memory.answers emptyStore Example.keyExpired ≠
        Backend.redis.answers emptyStore Example.keyExpired := by
  refine ⟨fun backend => ?_, ?_, ?_, by decide, by decide⟩
  · intro fencing
    cases backend with
    | memory =>
        exact absurd
          (fencing "table" [] _ [_, _] _ [] 1 1 rfl (by decide) (by decide))
          (Nat.lt_irrefl 1)
    | redis =>
        exact absurd
          (fencing "table" [] _ [_, _] _ [] 1 1 rfl (by decide) (by decide))
          (Nat.lt_irrefl 1)
  · intro fencing
    exact absurd
      (fencing "table" [] _ [_] _ [] 1 1 rfl (by decide) (by decide))
      (Nat.lt_irrefl 1)
  · intro fencing
    exact absurd
      (fencing "table" [] _ [_] _ [] 1 1 rfl (by decide) (by decide))
      (Nat.lt_irrefl 1)

end Mozetto.Lease
