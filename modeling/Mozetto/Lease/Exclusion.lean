import Mathlib.Data.Fintype.Basic
import Mozetto.Lease.Manager

/-!
# Mutual exclusion

A copy of a lease is with its instance, or on its way there.  As long as a
copy has not expired the backend keeps a record for its instance that lasts at
least as long, unless a release has removed the record; a lease granted in
that moment is what two instances can come to hold.
-/

namespace Mozetto.Lease

open Mozetto.Library.Mapping
open Mozetto.Library.TransitionSystem

/-! ## Copies -/

section Copies

variable {ι : Type} [DecidableEq ι]

/-- The lease that an operation's answer brings to its instance. -/
def Operation.granted (operation : Operation ι) : Option LeaseRecord :=
  match operation.stage with
  | .answered (.acquired (.ok lease _)) => some lease
  | _ => none

/-- A copy of a table's lease is held, or on its way. -/
def Cluster.HasCopy (state : Cluster ι) (manager : ι) (tableId : String)
    (lease : LeaseRecord) : Prop :=
  state.held manager tableId = some lease ∨
    ∃ operation ∈ state.operations, operation.manager = manager ∧
      operation.tableId = tableId ∧ operation.granted = some lease

/-- All copies of an instance expire by a time, or have expired. -/
def Cluster.CopiesEndBy (state : Cluster ι) (manager : ι) (tableId : String) (time : Int) :
    Prop :=
  (∀ lease ∈ state.held manager tableId, state.clock < lease.expiresAt → lease.expiresAt ≤ time) ∧
    ∀ operation ∈ state.operations, operation.manager = manager →
      operation.tableId = tableId → ∀ lease ∈ operation.granted,
        state.clock < lease.expiresAt → lease.expiresAt ≤ time

instance (state : Cluster ι) (manager : ι) (tableId : String) (time : Int) :
    Decidable (state.CopiesEndBy manager tableId time) := inferInstanceAs (Decidable (_ ∧ _))

/--
A lease is granted with care when no copy its instance already has lasts
longer, and when the table has no record only if no other instance still has a
copy that has not expired.
-/
def Cluster.WithCare (state : Cluster ι) (operation : Operation ι) : Answer → Prop
  | .acquired (.ok lease _) =>
      state.CopiesEndBy operation.manager operation.tableId lease.expiresAt ∧
        (state.store.leases operation.tableId = none → ∀ other, other ≠ operation.manager →
            state.CopiesEndBy other operation.tableId state.clock)
  | _ => True

variable (managers : Managers ι) (backend : Backend)

/-- The lease that a call would be granted, if any, is granted with care. -/
def Cluster.CarriesOutWithCare (state : Cluster ι) (operation : Operation ι) : Stage → Prop
  | .issued now =>
      state.WithCare operation (backend.perform state.store state.clock
          (operation.call managers now)).2
  | _ => True

/-- Every lease of the step is granted with care. -/
def Cluster.Careful (state : Cluster ι) : Action ι → Prop
  | .carryOut index =>
      ∀ operation ∈ state.operations[index]?,
        state.CarriesOutWithCare managers backend operation operation.stage
  | _ => True

section Decidable

variable [Fintype ι]

instance (state : Cluster ι) (operation : Operation ι) (answer : Answer) :
    Decidable (state.WithCare operation answer) :=
  match answer with
  | .acquired (.ok _ _) => inferInstanceAs (Decidable (_ ∧ (_ → _)))
  | .acquired (.fail _ _) => isTrue trivial
  | .record _ => isTrue trivial
  | .released _ => isTrue trivial

instance (state : Cluster ι) (operation : Operation ι) (stage : Stage) : Decidable
    (state.CarriesOutWithCare managers backend operation stage) :=
  match stage with
  | .issued now =>
      inferInstanceAs (Decidable (state.WithCare operation (backend.perform state.store state.clock
          (operation.call managers now)).2))
  | .answered _ => isTrue trivial
  | .asleep => isTrue trivial
  | .finished => isTrue trivial

instance (state : Cluster ι) (action : Action ι) :
    Decidable (state.Careful managers backend action) :=
  match action with
  | .carryOut index =>
      inferInstanceAs (Decidable (∀ operation ∈ state.operations[index]?,
        state.CarriesOutWithCare managers backend operation operation.stage))
  | .tick _ => isTrue trivial
  | .acquire _ _ _ => isTrue trivial
  | .renew _ _ => isTrue trivial
  | .release _ _ => isTrue trivial
  | .assertHeld _ _ => isTrue trivial
  | .deliver _ => isTrue trivial
  | .wake _ => isTrue trivial
  | .fail _ => isTrue trivial
  | .keyExpiry _ => isTrue trivial

instance (state : Cluster ι) (manager : ι) (tableId : String) :
    Decidable (state.AssertHeldSucceeds manager tableId) :=
  inferInstanceAs (Decidable (∃ lease ∈ state.held manager tableId, state.clock < lease.expiresAt))

end Decidable

end Copies

section Invariant

variable {ι : Type}
variable {managers : Managers ι} {backend : Backend}
variable {state : Cluster ι} {manager other : ι} {tableId : String}
variable {lease lease' : LeaseRecord}

theorem Cluster.CopiesEndBy.le {time : Int} (ends : state.CopiesEndBy manager tableId time)
    (copy : state.HasCopy manager tableId lease)
    (valid : state.clock < lease.expiresAt) : lease.expiresAt ≤ time := by
  rcases copy with held | ⟨operation, member, rfl, rfl, granted⟩
  · exact ends.1 lease held valid
  · exact ends.2 operation member rfl rfl lease granted valid

/--
Copies that have not expired belong to one instance, and the record, if there
is one, is that instance's and lasts at least as long.
-/
structure Cluster.Exclusive (managers : Managers ι) (state : Cluster ι) : Prop where
  one : ∀ tableId manager other lease lease', state.HasCopy manager tableId lease →
        state.HasCopy other tableId lease' →
          state.clock < lease.expiresAt → state.clock < lease'.expiresAt → manager = other
  backed : ∀ tableId manager lease cur, state.HasCopy manager tableId lease →
      state.clock < lease.expiresAt → state.store.leases tableId = some cur →
          cur.actorInstanceId = managers.actorInstanceId manager ∧ lease.expiresAt ≤ cur.expiresAt
  issued : ∀ operation ∈ state.operations, ∀ now, operation.stage = .issued now → now ≤ state.clock

/-- Fewer copies, a later clock and fewer records keep the invariant. -/
theorem Cluster.Exclusive.weaken (exclusive : state.Exclusive managers) {after : Cluster ι}
    (later : state.clock ≤ after.clock)
    (copies : ∀ manager tableId lease, after.HasCopy manager tableId lease →
        state.HasCopy manager tableId lease)
    (records : ∀ tableId cur, after.store.leases tableId = some cur →
        state.store.leases tableId = some cur)
    (issued : ∀ operation ∈ after.operations, ∀ now,
        operation.stage = .issued now → now ≤ after.clock) :
    after.Exclusive managers where
  one := by
    intro tableId manager other lease lease' copy copy' valid valid'
    exact exclusive.one tableId manager other lease lease'
      (copies _ _ _ copy) (copies _ _ _ copy') (by omega) (by omega)
  backed := by
    intro tableId manager lease cur copy valid stored
    exact exclusive.backed tableId manager lease cur (copies _ _ _ copy)
      (by omega) (records _ _ stored)
  issued := issued

/-- What an operation has once it stands at another stage. -/
theorem hasCopy_goTo {index : Nat} {operation : Operation ι} {stage : Stage}
    (copy : (state.goTo index operation stage).HasCopy manager tableId lease) :
    state.HasCopy manager tableId lease ∨
      operation.manager = manager ∧ operation.tableId = tableId ∧
        Operation.granted { operation with stage := stage } = some lease := by
  rcases copy with held | ⟨found, member, rfl, rfl, granted⟩
  · exact .inl (.inl held)
  · rcases List.mem_or_eq_of_mem_set member with old | rfl
    · exact .inl (.inr ⟨found, old, rfl, rfl, granted⟩)
    · exact .inr ⟨rfl, rfl, granted⟩

theorem issued_goTo (exclusive : state.Exclusive managers)
    {index : Nat} {operation : Operation ι} {stage : Stage}
    (notLater : ∀ now, stage = .issued now → now ≤ state.clock) :
    ∀ found ∈ (state.goTo index operation stage).operations, ∀ now,
      found.stage = .issued now → now ≤ state.clock := by
  intro found member now equal
  rcases List.mem_or_eq_of_mem_set member with old | rfl
  · exact exclusive.issued found old now equal
  · exact notLater now equal

/-! ## Steps -/

/-- An operation that goes on without a lease keeps the invariant. -/
theorem Cluster.Exclusive.goTo (exclusive : state.Exclusive managers)
    {index : Nat} {operation : Operation ι} {stage : Stage}
    (noLease : Operation.granted { operation with stage := stage } = none)
    (notLater : ∀ now, stage = .issued now → now ≤ state.clock) :
    (state.goTo index operation stage).Exclusive managers := by
  refine exclusive.weaken (Int.le_refl _) ?_ (fun _ _ stored => stored)
    (issued_goTo exclusive notLater)
  intro manager tableId lease copy
  rcases hasCopy_goTo copy with old | ⟨-, -, granted⟩
  · exact old
  · rw [noLease] at granted
    cases granted

variable [DecidableEq ι]

theorem hasCopy_keep {kept : Option LeaseRecord} {owner : ι} {table : String}
    (copy : (state.keep owner table kept).HasCopy manager tableId lease) :
    state.HasCopy manager tableId lease ∨
      manager = owner ∧ tableId = table ∧ kept = some lease := by
  rcases copy with held | underway
  · have written : write₂ state.held owner table kept manager tableId = some lease := held
    by_cases here : manager = owner ∧ tableId = table
    · rw [here.1, here.2, write₂_self] at written
      exact .inr ⟨here.1, here.2, written⟩
    · rw [write₂_of_ne _ _ here] at written
      exact .inl (.inl written)
  · exact .inl (.inr underway)

/-- Storing a copy that is on its way, or dropping one. -/
theorem Cluster.Exclusive.keep (exclusive : state.Exclusive managers)
    {owner : ι} {table : String} {kept : Option LeaseRecord}
    (onItsWay : ∀ lease, kept = some lease → state.HasCopy owner table lease) :
    (state.keep owner table kept).Exclusive managers := by
  refine exclusive.weaken (Int.le_refl _) ?_ (fun _ _ stored => stored) exclusive.issued
  intro manager tableId lease copy
  rcases hasCopy_keep copy with old | ⟨rfl, rfl, stored⟩
  · exact old
  · exact onItsWay lease stored

theorem Cluster.Exclusive.drop (exclusive : state.Exclusive managers) {owner : ι} {table : String} :
    (state.keep owner table none).Exclusive managers := exclusive.keep nofun

theorem Cluster.Exclusive.deliver (exclusive : state.Exclusive managers)
    {index : Nat} {operation : Operation ι} {answer : Answer}
    (found : state.operations[index]? = some operation)
    (answered : operation.stage = .answered answer) :
    (state.deliver index operation answer).Exclusive managers := by
  have member := List.mem_of_getElem? found
  have arrives : ∀ lease reclaimed, answer = .acquired (.ok lease reclaimed) →
      ∀ kept, some lease = some kept → state.HasCopy operation.manager operation.tableId kept := by
    rintro lease reclaimed rfl kept ⟨⟩
    refine .inr ⟨operation, member, rfl, rfl, ?_⟩
    rw [Operation.granted, answered]
  unfold Cluster.deliver
  cases operation.kind with
  | release expectedVersion => exact exclusive.drop.goTo rfl nofun
  | renew expectedVersion =>
    cases answer with
    | record lease => exact exclusive.drop.goTo rfl nofun
    | released done => exact exclusive.drop.goTo rfl nofun
    | acquired result =>
      cases result with
      | fail reason holder => exact exclusive.drop.goTo rfl nofun
      | ok lease reclaimed =>
        exact (exclusive.keep (arrives lease reclaimed rfl)).goTo rfl nofun
  | acquire deadline =>
    cases answer with
    | record lease => exact exclusive.goTo rfl nofun
    | released done => exact exclusive.goTo rfl nofun
    | acquired result =>
      cases result with
      | ok lease reclaimed =>
        exact (exclusive.keep (arrives lease reclaimed rfl)).goTo rfl nofun
      | fail reason holder =>
        simp only
        split
        · exact exclusive.goTo rfl nofun
        · exact exclusive.goTo rfl nofun

theorem Cluster.Exclusive.fail (exclusive : state.Exclusive managers)
    {index : Nat} {operation : Operation ι} : (state.fail index operation).Exclusive managers := by
  unfold Cluster.fail
  split
  · exact exclusive.drop.goTo rfl nofun
  · exact exclusive.goTo rfl nofun

/-- A lease granted with care has no rivals. -/
theorem Cluster.Exclusive.grant (exclusive : state.Exclusive managers)
    (distinct : Function.Injective managers.actorInstanceId)
    {index : Nat} {operation : Operation ι} {store : Store} {reclaimed : Bool}
    (holder : lease.actorInstanceId = managers.actorInstanceId operation.manager)
    (stored : store.leases = write state.store.leases operation.tableId (some lease))
    (free : ∀ cur, state.store.leases operation.tableId = some cur →
        cur.actorInstanceId = managers.actorInstanceId operation.manager ∨
          cur.expiresAt ≤ state.clock)
    (outlives : state.CopiesEndBy operation.manager operation.tableId lease.expiresAt)
    (noRecord : state.store.leases operation.tableId = none → ∀ other, other ≠ operation.manager →
          state.CopiesEndBy other operation.tableId state.clock) :
    ({ state with store := store }.goTo index operation
      (.answered (.acquired (.ok lease reclaimed)))).Exclusive managers := by
  have own : ∀ other lease', state.HasCopy other operation.tableId lease' →
      state.clock < lease'.expiresAt → other = operation.manager := by
    intro other lease' copy valid
    by_contra differs
    cases record : state.store.leases operation.tableId with
    | none =>
      have ended := (noRecord record other differs).le copy valid
      omega
    | some cur =>
      rcases exclusive.backed operation.tableId other lease' cur copy valid
        record with ⟨its, lasts⟩
      rcases free cur record with mine | expired
      · exact differs (distinct (its.symm.trans mine))
      · omega
  have split :
      ∀ manager tableId lease', ({ state with store := store }.goTo index operation
          (.answered (.acquired (.ok lease reclaimed)))).HasCopy manager tableId lease' →
          state.HasCopy manager tableId lease' ∨
            manager = operation.manager ∧ tableId = operation.tableId ∧ lease' = lease := by
    intro manager tableId lease' copy
    rcases hasCopy_goTo copy with old | ⟨rfl, rfl, granted⟩
    · exact .inl old
    · exact .inr ⟨rfl, rfl, (Option.some.inj granted).symm⟩
  constructor
  case one =>
    intro tableId manager other lease' lease'' copy copy' valid valid'
    rcases split _ _ _ copy with old | ⟨rfl, rfl, rfl⟩ <;>
      rcases split _ _ _ copy' with old' | ⟨rfl, same, rfl⟩
    · exact exclusive.one tableId manager other lease' lease'' old old' valid valid'
    · exact own manager lease' (same ▸ old) valid
    · exact (own other lease'' old' valid').symm
    · rfl
  case backed =>
    intro tableId manager lease' cur copy valid record
    have written : write state.store.leases operation.tableId (some lease) tableId =
        some cur := by
      rw [← stored]
      exact record
    by_cases here : tableId = operation.tableId
    · rw [here, write_self] at written
      cases written
      rcases split _ _ _ copy with old | ⟨rfl, -, rfl⟩
      · rw [here] at old
        have mine := own manager lease' old valid
        rw [mine] at old ⊢
        exact ⟨holder, outlives.le old valid⟩
      · exact ⟨holder, Int.le_refl _⟩
    · rw [write_of_ne _ _ here] at written
      rcases split _ _ _ copy with old | ⟨-, same, -⟩
      · exact exclusive.backed tableId manager lease' cur old valid written
      · exact absurd same here
  case issued => exact issued_goTo exclusive nofun

omit [DecidableEq ι] in
/-- An operation asks for its own instance, at the time of its call. -/
theorem call_eq_tryAcquire {operation : Operation ι} {actor : String} {ttlMs now time : Int}
    (call : operation.call managers now = .tryAcquire tableId actor ttlMs time) :
    tableId = operation.tableId ∧
      actor = managers.actorInstanceId operation.manager ∧ time = now := by
  rw [Operation.call] at call
  cases kind : operation.kind with
  | acquire deadline =>
    rw [kind] at call
    cases call
    exact ⟨rfl, rfl, rfl⟩
  | renew expectedVersion =>
    rw [kind] at call
    cases call
  | release expectedVersion =>
    rw [kind] at call
    cases call

omit [DecidableEq ι] in
theorem call_eq_renew {operation : Operation ι} {actor : String} {version : Nat}
    {ttlMs now time : Int}
    (call : operation.call managers now = .renew tableId actor version ttlMs time) :
    tableId = operation.tableId ∧ actor = managers.actorInstanceId operation.manager := by
  rw [Operation.call] at call
  cases kind : operation.kind with
  | renew expectedVersion =>
    rw [kind] at call
    cases call
    exact ⟨rfl, rfl⟩
  | acquire deadline =>
    rw [kind] at call
    cases call
  | release expectedVersion =>
    rw [kind] at call
    cases call

omit [DecidableEq ι] in
/-- A call that grants nothing keeps the invariant. -/
theorem Cluster.Exclusive.refuse (exclusive : state.Exclusive managers)
    {index : Nat} {operation : Operation ι} {store : Store} {answer : Answer}
    (noGrant : answer.NoGrant)
    (records : ∀ table cur, store.leases table = some cur → state.store.leases table = some cur) :
    ({ state with store := store }.goTo index operation (.answered answer)).Exclusive managers := by
  refine exclusive.weaken (Int.le_refl _) ?_ records (issued_goTo exclusive nofun)
  intro manager tableId lease copy
  rcases hasCopy_goTo copy with old | ⟨-, -, granted⟩
  · exact old
  · rw [Operation.granted] at granted
    split at granted
    · rename_i lease reclaimed equal
      exact absurd (Stage.answered.inj equal) (noGrant lease reclaimed)
    · cases granted

theorem stored_of_removed {leases : String → Option LeaseRecord} {table : String}
    {cur : LeaseRecord} (stored : write leases table none tableId = some cur) :
    leases tableId = some cur := by
  by_cases same : tableId = table
  · rw [same, write_self] at stored
    cases stored
  · rwa [write_of_ne _ _ same] at stored

/-- Carrying out a call with care keeps the invariant. -/
theorem Cluster.Exclusive.carryOut (exclusive : state.Exclusive managers)
    (distinct : Function.Injective managers.actorInstanceId)
    {index : Nat} {operation : Operation ι} {now : Int} (notLater : now ≤ state.clock)
    (care : state.CarriesOutWithCare managers backend operation (.issued now)) :
    (state.carryOut managers backend index operation now).Exclusive
      managers := by
  have effect := backend.effect state.store state.clock (operation.call managers now)
  rw [Cluster.CarriesOutWithCare] at care
  rw [Cluster.carryOut]
  generalize backend.perform state.store state.clock (operation.call managers now) = performed at *
  generalize issued : operation.call managers now = call at *
  rcases performed with ⟨store, answer⟩
  generalize after : store.leases = leases at *
  cases effect with
  | kept noGrant =>
    exact exclusive.refuse noGrant fun _ _ stored => after ▸ stored
  | released stored holder =>
    refine exclusive.refuse noGrant_released fun table cur found => ?_
    rw [after] at found
    exact stored_of_removed found
  | cleaned stored expired =>
    refine exclusive.refuse noGrant_record fun table cur found => ?_
    rw [after] at found
    exact stored_of_removed found
  | acquired free =>
    rcases call_eq_tryAcquire issued with ⟨rfl, rfl, rfl⟩
    refine exclusive.grant distinct rfl after ?_ care.1 care.2
    intro cur found
    rcases free cur found with mine | expired
    · exact .inl mine
    · exact .inr (expired.trans notLater)
  | @renewed _ _ _ _ _ cur stored holder version =>
    rcases call_eq_renew issued with ⟨rfl, rfl⟩
    refine exclusive.grant distinct rfl after ?_ care.1 care.2
    intro other found
    rw [stored] at found
    cases found
    exact .inl holder

omit [DecidableEq ι] in
theorem Cluster.Exclusive.keyExpiry (exclusive : state.Exclusive managers) {table : String} :
    Cluster.Exclusive managers
      { state with
        store := backend.keyExpiry state.store state.clock table } := by
  refine exclusive.weaken (Int.le_refl _) (fun _ _ _ copy => copy) ?_ exclusive.issued
  intro tableId cur stored
  cases backend with
  | memory => exact stored
  | redis =>
    simp only [Backend.keyExpiry, Redis.keyExpiry] at stored
    split at stored
    · exact stored_of_removed stored
    · exact stored

omit [DecidableEq ι] in
theorem Cluster.Exclusive.issue (exclusive : state.Exclusive managers) {kind : Kind} :
    (state.issue manager tableId kind).Exclusive managers := by
  refine exclusive.weaken (Int.le_refl _) ?_ (fun _ _ stored => stored) ?_
  · intro owner table lease copy
    rcases copy with held | ⟨operation, member, rfl, rfl, granted⟩
    · exact .inl held
    · rcases List.mem_append.mp member with old | new
      · exact .inr ⟨operation, old, rfl, rfl, granted⟩
      · rw [List.mem_singleton.mp new] at granted
        cases granted
  · intro operation member now equal
    rcases List.mem_append.mp member with old | new
    · exact exclusive.issued operation old now equal
    · rw [List.mem_singleton.mp new] at equal
      cases equal
      exact Int.le_refl _

theorem Cluster.Exclusive.perform (exclusive : state.Exclusive managers)
    (distinct : Function.Injective managers.actorInstanceId) {action : Action ι} {after : Cluster ι}
    (careful : state.Careful managers backend action)
    (performed : state.perform managers backend action = .ok after) :
    after.Exclusive managers := by
  cases action with
  | tick ms =>
    cases performed
    refine exclusive.weaken (Int.le_add_of_nonneg_right (Int.natCast_nonneg ms))
      (fun _ _ _ copy => copy) (fun _ _ stored => stored) ?_
    intro operation member now equal
    have before := exclusive.issued operation member now equal
    simp only
    omega
  | acquire manager tableId waitMs =>
    cases performed
    exact exclusive.issue
  | renew manager tableId =>
    rw [Cluster.perform] at performed
    split at performed <;> cases performed
    · exact exclusive
    · exact exclusive.issue
  | release manager tableId =>
    rw [Cluster.perform] at performed
    split at performed <;> cases performed
    · exact exclusive
    · exact exclusive.issue
  | assertHeld manager tableId =>
    cases performed
    rw [Cluster.assertHeld]
    split
    · exact exclusive
    · split
      · exact exclusive.drop
      · exact exclusive
  | keyExpiry tableId =>
    cases performed
    exact exclusive.keyExpiry
  | carryOut index =>
    rcases Cluster.perform_carryOut performed with ⟨operation, now, found, stage, rfl⟩
    have care := careful operation found
    rw [stage] at care
    exact exclusive.carryOut distinct
      (exclusive.issued operation (List.mem_of_getElem? found) now stage) care
  | deliver index =>
    rcases Cluster.perform_deliver performed with ⟨operation, answer, found, stage, rfl⟩
    exact exclusive.deliver found stage
  | wake index =>
    rcases Cluster.perform_wake performed with ⟨operation, found, rfl⟩
    refine exclusive.goTo rfl ?_
    rintro now ⟨⟩
    exact Int.le_refl _
  | fail index =>
    rcases Cluster.perform_fail performed with ⟨operation, found, rfl⟩
    exact exclusive.fail

/-! ## Runs -/

/--
In every run whose leases are granted with care, at most one instance's
`assertHeld` succeeds for a table at any moment.
-/
theorem leases_exclusive
    (distinct : Function.Injective managers.actorInstanceId)
    (reached :
      (leaseRuns managers backend).Reachable
        (Cluster.Careful managers backend) state)
    (first : state.AssertHeldSucceeds manager tableId)
    (second : state.AssertHeldSucceeds other tableId) :
    manager = other := by
  have exclusive : state.Exclusive managers := by
    refine reached.invariant ?_ ?_
    · rintro _ ⟨clock, store, rfl⟩
      have noCopy :
          ∀ (manager : ι) tableId lease,
            ¬ Cluster.HasCopy ⟨clock, store, fun _ _ => none, []⟩
              manager tableId lease := by
        rintro manager tableId lease (held | ⟨operation, member, -⟩)
        · cases held
        · cases member
      exact {
        one := fun _ _ _ _ _ copy => absurd copy (noCopy _ _ _)
        backed := fun _ _ _ _ copy => absurd copy (noCopy _ _ _)
        issued := nofun }
    · intro before action after exclusive careful performed
      exact exclusive.perform distinct careful performed
  rcases first with ⟨lease, held, valid⟩
  rcases second with ⟨lease', held', valid'⟩
  exact exclusive.one tableId manager other lease lease' (.inl held)
    (.inl held') valid valid'

end Invariant

namespace Example

/-- Two instances. -/
def managers : Managers Bool where
  actorInstanceId := fun second => if second then "b" else "a"
  ttlMs := fun _ => 30000

def fresh : Cluster Bool := ⟨1000, emptyStore, fun _ _ => none, []⟩

/-- The first instance's lease expires and the second takes over. -/
def takeOver : List (Action Bool) :=
  [.acquire false "table" 0, .carryOut 0, .deliver 0,
    .renew false "table", .carryOut 1, .deliver 1,
    .tick 30000, .acquire true "table" 0, .carryOut 2, .deliver 2]

/-- The second acquires before the first learns that it has released. -/
def handOverEarly : List (Action Bool) :=
  [.acquire false "table" 0, .carryOut 0, .deliver 0,
    .release false "table", .carryOut 1,
    .acquire true "table" 0, .carryOut 2, .deliver 2]

theorem distinct : Function.Injective managers.actorInstanceId := by
  decide

end Example

theorem leases_exclusive_takeOver :
    ∃ state,
      (leaseRuns Example.managers .redis).Reachable
          (Cluster.Careful Example.managers .redis) state ∧
        state.AssertHeldSucceeds true "table" ∧
        ∀ other, state.AssertHeldSucceeds other "table" → other = true := by
  have start :
      (leaseRuns Example.managers .redis).Reachable
        (Cluster.Careful Example.managers .redis) Example.fresh :=
    .start ⟨1000, emptyStore, rfl⟩
  have played :
      ((leaseRuns Example.managers .redis).replay
        (Cluster.Careful Example.managers .redis) Example.fresh
        Example.takeOver).any (fun state =>
          decide (state.AssertHeldSucceeds true "table")) = true := by
    decide +kernel
  rcases start.exists_replay played with ⟨state, reached, observed⟩
  have holds := of_decide_eq_true observed
  exact ⟨state, reached, holds, fun other succeeds =>
    leases_exclusive Example.distinct reached succeeds holds⟩

theorem twoHolders (backend : Backend) : ∃ state,
    (leaseRuns Example.managers backend).Reachable AnyCall state ∧
      state.AssertHeldSucceeds false "table" ∧
      state.AssertHeldSucceeds true "table" := by
  have start : (leaseRuns Example.managers backend).Reachable AnyCall
      Example.fresh :=
    .start ⟨1000, emptyStore, rfl⟩
  have played : ((leaseRuns Example.managers backend).replay AnyCall Example.fresh
      Example.handOverEarly).any (fun state =>
        decide
          (state.AssertHeldSucceeds false "table" ∧
            state.AssertHeldSucceeds true "table")) = true := by
    cases backend <;> decide +kernel
  rcases start.exists_replay played with ⟨state, reached, observed⟩
  rcases of_decide_eq_true observed with ⟨first, second⟩
  exact ⟨state, reached, first, second⟩

/-- Two instances hold the lease of one table, with either backend. -/
theorem exists_two_holders :
    (∃ state,
      (leaseRuns Example.managers .memory).Reachable AnyCall state ∧
        state.AssertHeldSucceeds false "table" ∧
        state.AssertHeldSucceeds true "table") ∧
      ∃ state,
        (leaseRuns Example.managers .redis).Reachable AnyCall state ∧
          state.AssertHeldSucceeds false "table" ∧
          state.AssertHeldSucceeds true "table" :=
  ⟨twoHolders .memory, twoHolders .redis⟩

end Mozetto.Lease
