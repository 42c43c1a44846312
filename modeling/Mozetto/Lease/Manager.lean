import Mozetto.Library.Mapping
import Mozetto.Library.TransitionSystem

/-!
# Lease backends

The leases of the tables' actors, kept in memory or in Redis.  The two stores
are written as the source writes them, the one as methods of a class, the
other as scripts; what is shown about both is that they grant the same leases
as long as nothing is cleaned up.
-/

namespace Mozetto.Lease

open Mozetto.Library.Mapping

structure LeaseRecord where
  tableId : String
  actorInstanceId : String
  leaseVersion : Nat
  expiresAt : Int
deriving DecidableEq, Repr

inductive FailReason where
  | heldByOther
  | versionMismatch
  | storeUnavailable
deriving DecidableEq, Repr

inductive AcquireResult where
  | ok (lease : LeaseRecord) (reclaimed : Bool)
  | fail (reason : FailReason) (holder : Option LeaseRecord)
deriving DecidableEq, Repr

/-- What a backend is asked; `now` is the caller's reading of the clock. -/
inductive Call where
  | get (tableId : String) (now : Int)
  | tryAcquire (tableId actorInstanceId : String) (ttlMs now : Int)
  | renew (tableId actorInstanceId : String) (expectedVersion : Nat) (ttlMs now : Int)
  | release (tableId actorInstanceId : String) (expectedVersion : Option Nat)
deriving DecidableEq, Repr

def Call.tableId : Call → String
  | get tableId _ => tableId
  | tryAcquire tableId _ _ _ => tableId
  | renew tableId _ _ _ _ => tableId
  | release tableId _ _ => tableId

inductive Answer where
  | record (lease : Option LeaseRecord)
  | acquired (result : AcquireResult)
  | released (done : Bool)
deriving DecidableEq, Repr

/-- The stored leases, and in Redis when a key expires. -/
structure Store where
  leases : String → Option LeaseRecord
  deadlines : String → Int

def emptyStore : Store := ⟨fun _ => none, fun _ => 0⟩

def Store.remove (store : Store) (tableId : String) : Store :=
  { store with leases := write store.leases tableId none }

/-! ## In memory -/

namespace Memory

def put (store : Store) (lease : LeaseRecord) : Store :=
  { store with leases := write store.leases lease.tableId (some lease) }

/-- An expired lease is removed when it is read. -/
def get (store : Store) (tableId : String) (now : Int) : Store × Answer :=
  match store.leases tableId with
  | none => (store, .record none)
  | some cur =>
      if cur.expiresAt ≤ now then (store.remove tableId, .record none)
      else (store, .record (some cur))

def tryAcquire (store : Store) (tableId actorInstanceId : String) (ttlMs now : Int) :
    Store × Answer :=
  let grant (leaseVersion : Nat) (reclaimed : Bool) : Store × Answer :=
    let lease : LeaseRecord := ⟨tableId, actorInstanceId, leaseVersion, now + ttlMs⟩
    (put store lease, .acquired (.ok lease reclaimed))
  match store.leases tableId with
  | some cur =>
      if cur.expiresAt > now then
        if cur.actorInstanceId = actorInstanceId then
          grant (cur.leaseVersion + 1) false
        else (store, .acquired (.fail .heldByOther (some cur)))
      else grant (cur.leaseVersion + 1) true
  | none => grant 1 false

def renew (store : Store) (tableId actorInstanceId : String)
    (expectedVersion : Nat) (ttlMs now : Int) : Store × Answer :=
  match store.leases tableId with
  | none => (store, .acquired (.fail .versionMismatch none))
  | some cur =>
      if cur.expiresAt ≤ now then
        (store, .acquired (.fail .versionMismatch none))
      else if cur.actorInstanceId ≠ actorInstanceId ∨ cur.leaseVersion ≠ expectedVersion then
        (store, .acquired (.fail (if cur.actorInstanceId ≠ actorInstanceId then .heldByOther
              else .versionMismatch)
              (some cur)))
      else
        let lease : LeaseRecord := ⟨tableId, actorInstanceId, cur.leaseVersion + 1, now + ttlMs⟩
        (put store lease, .acquired (.ok lease false))

def release (store : Store) (tableId actorInstanceId : String)
    (expectedVersion : Option Nat) : Store × Answer :=
  match store.leases tableId with
  | none => (store, .released false)
  | some cur =>
      if cur.actorInstanceId ≠ actorInstanceId then (store, .released false)
      else if expectedVersion.any fun version => cur.leaseVersion ≠ version then
        (store, .released false)
      else (store.remove tableId, .released true)

def perform (store : Store) : Call → Store × Answer
  | .get tableId now => get store tableId now
  | .tryAcquire tableId actor ttlMs now =>
      tryAcquire store tableId actor ttlMs now
  | .renew tableId actor expectedVersion ttlMs now =>
      renew store tableId actor expectedVersion ttlMs now
  | .release tableId actor expectedVersion =>
      release store tableId actor expectedVersion

end Memory

/-! ## In Redis -/

namespace Redis

/-- The lifetime of a key: whole seconds, one at least. -/
def ttlSec (ttlMs : Int) : Int := max 1 ((ttlMs + 999) / 1000)

/-- `SET` with an expiry, at a time of the server's clock. -/
def set (store : Store) (clock : Int) (lease : LeaseRecord) (ttlMs : Int) : Store where
  leases := write store.leases lease.tableId (some lease)
  deadlines := write store.deadlines lease.tableId (clock + 1000 * ttlSec ttlMs)

/-- Reading does not change anything. -/
def get (store : Store) (tableId : String) (now : Int) : Store × Answer :=
  match store.leases tableId with
  | none => (store, .record none)
  | some stored =>
      if stored.expiresAt ≤ now then (store, .record none)
      else (store, .record (some stored))

def tryAcquire (store : Store) (clock : Int) (tableId actorInstanceId : String)
    (ttlMs now : Int) : Store × Answer :=
  match store.leases tableId with
  | some obj =>
      if obj.expiresAt > now then
        if obj.actorInstanceId = actorInstanceId then
          let lease : LeaseRecord := ⟨tableId, actorInstanceId, obj.leaseVersion + 1, now + ttlMs⟩
          (set store clock lease ttlMs, .acquired (.ok lease false))
        else (store, .acquired (.fail .heldByOther (some obj)))
      else
        let lease : LeaseRecord := ⟨tableId, actorInstanceId, obj.leaseVersion + 1, now + ttlMs⟩
        (set store clock lease ttlMs, .acquired (.ok lease true))
  | none =>
      let lease : LeaseRecord := ⟨tableId, actorInstanceId, 1, now + ttlMs⟩
      (set store clock lease ttlMs, .acquired (.ok lease false))

def renew (store : Store) (clock : Int) (tableId actorInstanceId : String)
    (expectedVersion : Nat) (ttlMs now : Int) : Store × Answer :=
  match store.leases tableId with
  | none => (store, .acquired (.fail .versionMismatch none))
  | some obj =>
      if obj.expiresAt ≤ now then
        (store, .acquired (.fail .versionMismatch none))
      else if obj.actorInstanceId ≠ actorInstanceId then
        (store, .acquired (.fail .heldByOther (some obj)))
      else if obj.leaseVersion ≠ expectedVersion then
        (store, .acquired (.fail .versionMismatch (some obj)))
      else
        let lease : LeaseRecord := ⟨tableId, actorInstanceId, obj.leaseVersion + 1, now + ttlMs⟩
        (set store clock lease ttlMs, .acquired (.ok lease false))

def release (store : Store) (tableId actorInstanceId : String)
    (expectedVersion : Option Nat) : Store × Answer :=
  match store.leases tableId with
  | none => (store, .released false)
  | some obj =>
      if obj.actorInstanceId ≠ actorInstanceId then (store, .released false)
      else if expectedVersion.any fun version => obj.leaseVersion ≠ version then
        (store, .released false)
      else (store.remove tableId, .released true)

def perform (store : Store) (clock : Int) : Call → Store × Answer
  | .get tableId now => get store tableId now
  | .tryAcquire tableId actor ttlMs now =>
      tryAcquire store clock tableId actor ttlMs now
  | .renew tableId actor expectedVersion ttlMs now =>
      renew store clock tableId actor expectedVersion ttlMs now
  | .release tableId actor expectedVersion =>
      release store tableId actor expectedVersion

/-- A key disappears at its deadline. -/
def keyExpiry (store : Store) (clock : Int) (tableId : String) : Store :=
  if store.deadlines tableId ≤ clock then store.remove tableId else store

end Redis

inductive Backend where
  | memory
  | redis
deriving DecidableEq, Repr

/-- Carry out a call, at a time of the backend's clock. -/
def Backend.perform (backend : Backend) (store : Store) (clock : Int)
    (call : Call) : Store × Answer :=
  match backend with
  | .memory => Memory.perform store call
  | .redis => Redis.perform store clock call

/-- Keys expire in Redis only. -/
def Backend.keyExpiry (backend : Backend) (store : Store) (clock : Int)
    (tableId : String) : Store :=
  match backend with
  | .memory => store
  | .redis => Redis.keyExpiry store clock tableId

/-! ## What a call can do -/

/-- The version of the next lease of a table. -/
def nextVersion : Option LeaseRecord → Nat
  | none => 1
  | some cur => cur.leaseVersion + 1

/-- An answer that grants no lease. -/
def Answer.NoGrant (answer : Answer) : Prop :=
  ∀ lease reclaimed, answer ≠ .acquired (.ok lease reclaimed)

/--
What a call can do to the leases: nothing, grant the next version to an actor
that holds the table's lease or finds none in force, or remove a lease that is
released by its holder or read after it expired.
-/
inductive Effect (leases : String → Option LeaseRecord) :
    Call → (String → Option LeaseRecord) → Answer → Prop where
  | kept {call : Call} {answer : Answer} (noGrant : answer.NoGrant) :
      Effect leases call leases answer
  | acquired {tableId actor : String} {ttlMs now : Int} {reclaimed : Bool}
      (free : ∀ cur, leases tableId = some cur →
          cur.actorInstanceId = actor ∨ cur.expiresAt ≤ now) :
      Effect leases (.tryAcquire tableId actor ttlMs now) (write leases tableId
          (some ⟨tableId, actor, nextVersion (leases tableId), now + ttlMs⟩)) (.acquired
          (.ok ⟨tableId, actor, nextVersion (leases tableId), now + ttlMs⟩ reclaimed))
  | renewed {tableId actor : String} {expectedVersion : Nat} {ttlMs now : Int} {cur : LeaseRecord}
      (stored : leases tableId = some cur) (holder : cur.actorInstanceId = actor)
      (version : cur.leaseVersion = expectedVersion) :
      Effect leases (.renew tableId actor expectedVersion ttlMs now) (write leases tableId
          (some ⟨tableId, actor, nextVersion (leases tableId), now + ttlMs⟩)) (.acquired
          (.ok ⟨tableId, actor, nextVersion (leases tableId), now + ttlMs⟩ false))
  | released {tableId actor : String} {expectedVersion : Option Nat} {cur : LeaseRecord}
      (stored : leases tableId = some cur) (holder : cur.actorInstanceId = actor) :
      Effect leases (.release tableId actor expectedVersion)
        (write leases tableId none) (.released true)
  | cleaned {tableId : String} {now : Int} {cur : LeaseRecord}
      (stored : leases tableId = some cur) (expired : cur.expiresAt ≤ now) :
      Effect leases (.get tableId now) (write leases tableId none) (.record none)

theorem noGrant_record {lease : Option LeaseRecord} : (Answer.record lease).NoGrant := nofun

theorem noGrant_released {done : Bool} : (Answer.released done).NoGrant := nofun

theorem noGrant_fail {reason : FailReason} {holder : Option LeaseRecord} :
    (Answer.acquired (.fail reason holder)).NoGrant := nofun

variable (store : Store) (clock : Int) (call : Call)

theorem Memory.effect : Effect store.leases call (Memory.perform store call).1.leases
    (Memory.perform store call).2 := by
  cases call with
  | get tableId now =>
    simp only [Memory.perform, Memory.get]
    split
    · exact .kept noGrant_record
    · rename_i cur stored
      split
      case isTrue expired => exact .cleaned stored expired
      case isFalse => exact .kept noGrant_record
  | tryAcquire tableId actor ttlMs now =>
    simp only [Memory.perform, Memory.tryAcquire]
    split
    · rename_i cur stored
      have next : cur.leaseVersion + 1 = nextVersion (store.leases tableId) := by rw [stored]; rfl
      split
      case isTrue inForce =>
        split
        case isTrue holder =>
          rw [next]
          refine .acquired fun other found => .inl ?_
          rw [stored] at found
          rw [← Option.some.inj found]
          exact holder
        case isFalse => exact .kept noGrant_fail
      case isFalse expired =>
        rw [next]
        refine .acquired fun other found => .inr ?_
        rw [stored] at found
        rw [← Option.some.inj found]
        exact Int.not_lt.mp expired
    · rename_i missing
      have next : 1 = nextVersion (store.leases tableId) := by
        rw [missing]
        rfl
      rw [next]
      refine .acquired fun other found => ?_
      rw [missing] at found
      cases found
  | renew tableId actor expectedVersion ttlMs now =>
    simp only [Memory.perform, Memory.renew]
    split
    · exact .kept noGrant_fail
    · rename_i cur stored
      have next : cur.leaseVersion + 1 = nextVersion (store.leases tableId) := by rw [stored]; rfl
      split
      case isTrue => exact .kept noGrant_fail
      case isFalse =>
        split
        case isTrue => exact .kept noGrant_fail
        case isFalse matching =>
          rw [next]
          exact .renewed stored (not_not.mp (not_or.mp matching).1)
            (not_not.mp (not_or.mp matching).2)
  | release tableId actor expectedVersion =>
    simp only [Memory.perform, Memory.release]
    split
    · exact .kept noGrant_released
    · rename_i cur stored
      split
      case isTrue => exact .kept noGrant_released
      case isFalse holder =>
        split
        case isTrue => exact .kept noGrant_released
        case isFalse => exact .released stored (not_not.mp holder)

/-- The two backends answer alike and differ in what they clean up only. -/
theorem Redis.perform_eq {other : Store} (same : other.leases = store.leases)
    (noCleanUp : ∀ tableId now cur, call = .get tableId now →
        store.leases tableId = some cur → now < cur.expiresAt) :
    (Redis.perform store clock call).1.leases = (Memory.perform other call).1.leases ∧
      (Redis.perform store clock call).2 = (Memory.perform other call).2 := by
  rcases store with ⟨leases, deadlines⟩
  rcases other with ⟨leases', deadlines'⟩
  cases same
  cases call with
  | get tableId now =>
    simp only [Memory.perform, Memory.get, Redis.perform, Redis.get]
    split
    · exact ⟨rfl, rfl⟩
    · rename_i cur stored
      have inForce := noCleanUp tableId now cur rfl stored
      rw [if_neg (Int.not_le.mpr inForce), if_neg (Int.not_le.mpr inForce)]
      exact ⟨rfl, rfl⟩
  | tryAcquire tableId actor ttlMs now =>
    simp only [Memory.perform, Memory.tryAcquire, Redis.perform, Redis.tryAcquire]
    split
    · split
      · split <;> exact ⟨rfl, rfl⟩
      · exact ⟨rfl, rfl⟩
    · exact ⟨rfl, rfl⟩
  | renew tableId actor expectedVersion ttlMs now =>
    simp only [Memory.perform, Memory.renew, Redis.perform, Redis.renew]
    split
    · exact ⟨rfl, rfl⟩
    · rename_i cur stored
      by_cases expired : cur.expiresAt ≤ now
      · simp [expired]
      · by_cases holder : cur.actorInstanceId = actor <;>
          by_cases version : cur.leaseVersion = expectedVersion <;>
            simp [expired, holder, version, Redis.set, Memory.put]
  | release tableId actor expectedVersion =>
    simp only [Memory.perform, Memory.release, Redis.perform, Redis.release]
    split
    · exact ⟨rfl, rfl⟩
    · split
      · exact ⟨rfl, rfl⟩
      · split <;> exact ⟨rfl, rfl⟩

theorem Backend.effect (backend : Backend) :
    Effect store.leases call (backend.perform store clock call).1.leases
      (backend.perform store clock call).2 := by
  cases backend with
  | memory => exact Memory.effect store call
  | redis =>
    by_cases isGet : ∃ tableId now, call = .get tableId now
    · rcases isGet with ⟨tableId, now, rfl⟩
      simp only [Backend.perform, Redis.perform, Redis.get]
      split
      · exact .kept noGrant_record
      · split <;> exact .kept noGrant_record
    · have same := Redis.perform_eq store clock call rfl
        fun tableId now _ equal => absurd ⟨tableId, now, equal⟩ isGet
      have effect := Memory.effect store call
      rw [← same.1, ← same.2] at effect
      exact effect

end Mozetto.Lease

/-!
## Lease managers

Any number of `TableActorLeaseManager` instances over one backend and one
clock.  Each instance keeps its own copies of the leases it was granted; its
operations issue a call, wait until the backend has carried it out, and act on
the answer when it arrives.  Calls are carried out and answered in any order.
-/

namespace Mozetto.Lease

open Mozetto.Library.Mapping
open Mozetto.Library.TransitionSystem

/-! ### Operations -/

inductive Kind where
  | acquire (deadline : Int)
  | renew (expectedVersion : Nat)
  | release (expectedVersion : Nat)
deriving DecidableEq, Repr

/-- Where an operation stands; `now` was read when the call was issued. -/
inductive Stage where
  | issued (now : Int)
  | answered (answer : Answer)
  | asleep
  | finished
deriving DecidableEq, Repr

structure Operation (ι : Type) where
  manager : ι
  tableId : String
  kind : Kind
  stage : Stage
deriving DecidableEq, Repr

/-- Who the instances are, and for how long each asks. -/
structure Managers (ι : Type) where
  actorInstanceId : ι → String
  ttlMs : ι → Int

/-- The clock, the backend, the copies of all instances, their operations. -/
structure Cluster (ι : Type) where
  clock : Int
  store : Store
  held : ι → String → Option LeaseRecord
  operations : List (Operation ι)

section Steps

variable {ι : Type} [DecidableEq ι]
variable (managers : Managers ι) (backend : Backend)

/-- The call that an operation issues. -/
def Operation.call (operation : Operation ι) (now : Int) : Call :=
  let actor := managers.actorInstanceId operation.manager
  let ttlMs := managers.ttlMs operation.manager
  match operation.kind with
  | .acquire _ => .tryAcquire operation.tableId actor ttlMs now
  | .renew expectedVersion =>
      .renew operation.tableId actor expectedVersion ttlMs now
  | .release expectedVersion =>
      .release operation.tableId actor (some expectedVersion)

def Cluster.keep (state : Cluster ι) (manager : ι) (tableId : String)
    (lease : Option LeaseRecord) : Cluster ι :=
  { state with held := write₂ state.held manager tableId lease }

def Cluster.goTo (state : Cluster ι) (index : Nat) (operation : Operation ι)
    (stage : Stage) : Cluster ι :=
  { state with
    operations := state.operations.set index { operation with stage := stage } }

def Cluster.issue (state : Cluster ι) (manager : ι) (tableId : String) (kind : Kind) : Cluster ι :=
  { state with
    operations := state.operations ++ [⟨manager, tableId, kind, .issued state.clock⟩] }

/-- `assertHeld` returns a lease. -/
def Cluster.AssertHeldSucceeds (state : Cluster ι) (manager : ι) (tableId : String) : Prop :=
  ∃ lease ∈ state.held manager tableId, state.clock < lease.expiresAt

/-- An expired copy is dropped by the check. -/
def Cluster.assertHeld (state : Cluster ι) (manager : ι) (tableId : String) : Cluster ι :=
  match state.held manager tableId with
  | none => state
  | some lease =>
      if lease.expiresAt ≤ state.clock then state.keep manager tableId none
      else state

/-- The backend carries a call out. -/
def Cluster.carryOut (state : Cluster ι) (index : Nat) (operation : Operation ι) (now : Int) :
    Cluster ι :=
  let performed := backend.perform state.store state.clock (operation.call managers now)
  { state with store := performed.1 }.goTo index operation (.answered performed.2)

/-- An answer arrives. -/
def Cluster.deliver (state : Cluster ι) (index : Nat) (operation : Operation ι)
    (answer : Answer) : Cluster ι :=
  match operation.kind, answer with
  | .acquire _, .acquired (.ok lease _) =>
      (state.keep operation.manager operation.tableId (some lease)).goTo index operation .finished
  | .acquire deadline, .acquired (.fail reason _) =>
      state.goTo index operation
        (if reason = .storeUnavailable ∨ deadline ≤ state.clock then .finished
        else .asleep)
  | .renew _, .acquired (.ok lease _) =>
      (state.keep operation.manager operation.tableId (some lease)).goTo index operation .finished
  | .renew _, _ =>
      (state.keep operation.manager operation.tableId none).goTo index operation .finished
  | .release _, _ =>
      (state.keep operation.manager operation.tableId none).goTo index operation .finished
  | .acquire _, _ => state.goTo index operation .finished

/-- A call throws; a release drops the copy all the same. -/
def Cluster.fail (state : Cluster ι) (index : Nat) (operation : Operation ι) : Cluster ι :=
  match operation.kind with
  | .release _ =>
      (state.keep operation.manager operation.tableId none).goTo index operation .finished
  | _ => state.goTo index operation .finished

/-! ### Runs -/

inductive Action (ι : Type) where
  | tick (ms : Nat)
  | acquire (manager : ι) (tableId : String) (waitMs : Int)
  | renew (manager : ι) (tableId : String)
  | release (manager : ι) (tableId : String)
  | assertHeld (manager : ι) (tableId : String)
  | carryOut (index : Nat)
  | deliver (index : Nat)
  | wake (index : Nat)
  | fail (index : Nat)
  | keyExpiry (tableId : String)
deriving DecidableEq, Repr

def Cluster.perform (state : Cluster ι) : Action ι → Except String (Cluster ι)
  | .tick ms => .ok { state with clock := state.clock + ms }
  | .acquire manager tableId waitMs =>
      .ok (state.issue manager tableId (.acquire (state.clock + waitMs)))
  | .renew manager tableId =>
      match state.held manager tableId with
      | none => .ok state
      | some cur => .ok (state.issue manager tableId (.renew cur.leaseVersion))
  | .release manager tableId =>
      match state.held manager tableId with
      | none => .ok state
      | some cur =>
          .ok (state.issue manager tableId (.release cur.leaseVersion))
  | .assertHeld manager tableId => .ok (state.assertHeld manager tableId)
  | .keyExpiry tableId =>
      .ok { state with
        store := backend.keyExpiry state.store state.clock tableId }
  | .carryOut index =>
      match state.operations[index]? with
      | none => .error "no such operation"
      | some operation =>
          match operation.stage with
          | .issued now =>
              .ok (state.carryOut managers backend index operation now)
          | _ => .error "nothing to carry out"
  | .deliver index =>
      match state.operations[index]? with
      | none => .error "no such operation"
      | some operation =>
          match operation.stage with
          | .answered answer => .ok (state.deliver index operation answer)
          | _ => .error "nothing to deliver"
  | .wake index =>
      match state.operations[index]? with
      | none => .error "no such operation"
      | some operation =>
          match operation.stage with
          | .asleep => .ok (state.goTo index operation (.issued state.clock))
          | _ => .error "not asleep"
  | .fail index =>
      match state.operations[index]? with
      | none => .error "no such operation"
      | some operation =>
          match operation.stage with
          | .issued _ => .ok (state.fail index operation)
          | .answered _ => .ok (state.fail index operation)
          | _ => .error "no call under way"

section Outcomes

variable {managers backend}
variable {state after : Cluster ι} {index : Nat}

/-- A call is carried out of an operation that has issued it. -/
theorem Cluster.perform_carryOut
    (performed : state.perform managers backend (.carryOut index) = .ok after) :
    ∃ operation now, state.operations[index]? = some operation ∧ operation.stage = .issued now ∧
      after = state.carryOut managers backend index operation now := by
  rw [Cluster.perform] at performed
  cases found : state.operations[index]? with
  | none =>
    rw [found] at performed
    cases performed
  | some operation =>
    rw [found] at performed
    cases stage : operation.stage <;> simp only [stage] at performed <;>
      cases performed
    exact ⟨operation, _, rfl, stage, rfl⟩

/-- An answer arrives at an operation that has been answered. -/
theorem Cluster.perform_deliver
    (performed : state.perform managers backend (.deliver index) = .ok after) :
    ∃ operation answer, state.operations[index]? = some operation ∧
      operation.stage = .answered answer ∧ after = state.deliver index operation answer := by
  rw [Cluster.perform] at performed
  cases found : state.operations[index]? with
  | none =>
    rw [found] at performed
    cases performed
  | some operation =>
    rw [found] at performed
    cases stage : operation.stage <;> simp only [stage] at performed <;>
      cases performed
    exact ⟨operation, _, rfl, stage, rfl⟩

/-- A sleeping operation asks once more, at the current time. -/
theorem Cluster.perform_wake
    (performed : state.perform managers backend (.wake index) = .ok after) :
    ∃ operation, state.operations[index]? = some operation ∧
      after = state.goTo index operation (.issued state.clock) := by
  rw [Cluster.perform] at performed
  cases found : state.operations[index]? with
  | none =>
    rw [found] at performed
    cases performed
  | some operation =>
    rw [found] at performed
    cases stage : operation.stage <;> simp only [stage] at performed <;>
      cases performed
    exact ⟨operation, rfl, rfl⟩

theorem Cluster.perform_fail
    (performed : state.perform managers backend (.fail index) = .ok after) :
    ∃ operation, state.operations[index]? = some operation ∧
      after = state.fail index operation := by
  rw [Cluster.perform] at performed
  cases found : state.operations[index]? with
  | none =>
    rw [found] at performed
    cases performed
  | some operation =>
    rw [found] at performed
    cases stage : operation.stage <;> simp only [stage] at performed <;>
      cases performed
    · exact ⟨operation, rfl, rfl⟩
    · exact ⟨operation, rfl, rfl⟩

end Outcomes

/-- All runs of the instances, which hold nothing at first. -/
def leaseRuns : System (Cluster ι) (Action ι) String where
  initial := fun state =>
    ∃ clock store, state = ⟨clock, store, fun _ _ => none, []⟩
  step := Cluster.perform managers backend

end Steps

end Mozetto.Lease
