import Mozetto.Lease.Exclusion

/-!
# Leases in force

An instance's lease is in force when its copy has not expired and the backend
still keeps a record for it that lasts as long as all its copies.  What takes
a lease out of force is said step by step; nothing another instance does is
among it, so that two instances never have one table's lease in force.
-/

namespace Mozetto.Lease

open Mozetto.Library.Mapping

/-! ## What spares a lease -/

section Definitions

variable {ι : Type} [DecidableEq ι]
variable (managers : Managers ι) (backend : Backend)

/-- The backend's record is the instance's and outlasts its copies. -/
def Cluster.Recorded (state : Cluster ι) (manager : ι) (tableId : String) : Prop :=
  ∃ cur ∈ state.store.leases tableId, cur.actorInstanceId = managers.actorInstanceId manager ∧
      state.CopiesEndBy manager tableId cur.expiresAt

def Cluster.InForce (state : Cluster ι) (manager : ι) (tableId : String) : Prop :=
  state.AssertHeldSucceeds manager tableId ∧ state.Recorded managers manager tableId

/-- No copy outlasts what is granted, and nothing is released. -/
def Cluster.OutlivedBy (state : Cluster ι) (manager : ι) (tableId : String) : Answer → Prop
  | .acquired (.ok lease _) =>
      state.CopiesEndBy manager tableId lease.expiresAt
  | .released done => done = false
  | _ => True

def Kind.IsRelease : Kind → Prop
  | .release _ => True
  | _ => False

/-- The answer does not cost the instance its copy. -/
def Kind.LeavesCopy (kind : Kind) (clock : Int) (answer : Answer) : Prop :=
  match kind, answer with
  | .release _, _ => False
  | .renew _, .acquired (.ok lease _) => clock < lease.expiresAt
  | .renew _, _ => False
  | .acquire _, .acquired (.ok lease _) => clock < lease.expiresAt
  | .acquire _, _ => True

/-- The backend's answer to a call under way lasts. -/
def Cluster.Lasts (state : Cluster ι) (operation : Operation ι) : Stage → Prop
  | .issued now =>
      state.OutlivedBy operation.manager operation.tableId (backend.perform state.store state.clock
          (operation.call managers now)).2
  | _ => True

/-- The answer that has come to an operation leaves its instance's copy. -/
def Operation.LeavesCopy (operation : Operation ι) (clock : Int) : Stage → Prop
  | .answered answer => operation.kind.LeavesCopy clock answer
  | _ => True

/-- The step does not take an instance's lease out of force. -/
def Cluster.Spares (state : Cluster ι) (manager : ι) (tableId : String) : Action ι → Prop
  | .tick ms =>
      ∀ lease ∈ state.held manager tableId, state.clock + ms < lease.expiresAt
  | .carryOut index =>
      ∀ operation ∈ state.operations[index]?,
        operation.manager = manager → operation.tableId = tableId →
          state.Lasts managers backend operation operation.stage
  | .deliver index =>
      ∀ operation ∈ state.operations[index]?,
        operation.manager = manager → operation.tableId = tableId →
          operation.LeavesCopy state.clock operation.stage
  | .fail index =>
      ∀ operation ∈ state.operations[index]?,
        operation.manager = manager → operation.tableId = tableId → ¬ operation.kind.IsRelease
  | _ => True

/-- Calls carry past times, and a key lasts as long as its lease. -/
structure Cluster.Timed (state : Cluster ι) : Prop where
  issued : ∀ operation ∈ state.operations, ∀ now, operation.stage = .issued now → now ≤ state.clock
  deadline : backend = .redis → ∀ tableId cur, state.store.leases tableId = some cur →
        cur.expiresAt ≤ state.store.deadlines tableId

section Decidable

variable [Fintype ι]

instance (state : Cluster ι) (manager : ι) (tableId : String) :
    Decidable (state.Recorded managers manager tableId) :=
  inferInstanceAs (Decidable (∃ cur ∈ state.store.leases tableId,
    cur.actorInstanceId = managers.actorInstanceId manager ∧
      state.CopiesEndBy manager tableId cur.expiresAt))

instance (state : Cluster ι) (manager : ι) (tableId : String) :
    Decidable (state.InForce managers manager tableId) := inferInstanceAs (Decidable (_ ∧ _))

instance (state : Cluster ι) (manager : ι) (tableId : String) (answer : Answer) :
    Decidable (state.OutlivedBy manager tableId answer) :=
  match answer with
  | .acquired (.ok lease _) =>
      inferInstanceAs (Decidable (state.CopiesEndBy manager tableId lease.expiresAt))
  | .acquired (.fail _ _) => isTrue trivial
  | .record _ => isTrue trivial
  | .released done => inferInstanceAs (Decidable (done = false))

instance (kind : Kind) : Decidable kind.IsRelease :=
  match kind with
  | .release _ => isTrue trivial
  | .renew _ => isFalse nofun
  | .acquire _ => isFalse nofun

instance (kind : Kind) (clock : Int) (answer : Answer) : Decidable (kind.LeavesCopy clock answer) :=
  match kind, answer with
  | .release _, _ => isFalse nofun
  | .renew _, .acquired (.ok lease _) =>
      inferInstanceAs (Decidable (clock < lease.expiresAt))
  | .renew _, .acquired (.fail _ _) => isFalse nofun
  | .renew _, .record _ => isFalse nofun
  | .renew _, .released _ => isFalse nofun
  | .acquire _, .acquired (.ok lease _) =>
      inferInstanceAs (Decidable (clock < lease.expiresAt))
  | .acquire _, .acquired (.fail _ _) => isTrue trivial
  | .acquire _, .record _ => isTrue trivial
  | .acquire _, .released _ => isTrue trivial

instance (state : Cluster ι) (operation : Operation ι) (stage : Stage) :
    Decidable (state.Lasts managers backend operation stage) :=
  match stage with
  | .issued now =>
      inferInstanceAs (Decidable (state.OutlivedBy operation.manager operation.tableId
          (backend.perform state.store state.clock (operation.call managers now)).2))
  | .answered _ => isTrue trivial
  | .asleep => isTrue trivial
  | .finished => isTrue trivial

instance (operation : Operation ι) (clock : Int) (stage : Stage) :
    Decidable (operation.LeavesCopy clock stage) :=
  match stage with
  | .issued _ => isTrue trivial
  | .answered answer =>
      inferInstanceAs (Decidable (operation.kind.LeavesCopy clock answer))
  | .asleep => isTrue trivial
  | .finished => isTrue trivial

instance (state : Cluster ι) (manager : ι) (tableId : String) (action : Action ι) :
    Decidable (state.Spares managers backend manager tableId action) :=
  match action with
  | .tick ms =>
      inferInstanceAs (Decidable (∀ lease ∈ state.held manager tableId,
        state.clock + ms < lease.expiresAt))
  | .carryOut index =>
      inferInstanceAs (Decidable (∀ operation ∈ state.operations[index]?,
        operation.manager = manager → operation.tableId = tableId →
          state.Lasts managers backend operation operation.stage))
  | .deliver index =>
      inferInstanceAs (Decidable (∀ operation ∈ state.operations[index]?,
        operation.manager = manager → operation.tableId = tableId →
          operation.LeavesCopy state.clock operation.stage))
  | .fail index =>
      inferInstanceAs (Decidable (∀ operation ∈ state.operations[index]?,
        operation.manager = manager → operation.tableId = tableId → ¬ operation.kind.IsRelease))
  | .acquire _ _ _ => isTrue trivial
  | .renew _ _ => isTrue trivial
  | .release _ _ => isTrue trivial
  | .assertHeld _ _ => isTrue trivial
  | .wake _ => isTrue trivial
  | .keyExpiry _ => isTrue trivial

end Decidable

end Definitions

section Steps

variable {ι : Type}
variable {managers : Managers ι} {backend : Backend}
variable {state after : Cluster ι} {manager other : ι} {tableId : String}

/-! ## Copies -/

theorem Cluster.copiesEndBy_iff {time : Int} : state.CopiesEndBy manager tableId time ↔
    ∀ lease, state.HasCopy manager tableId lease →
      state.clock < lease.expiresAt → lease.expiresAt ≤ time := by
  constructor
  · intro ends lease copy valid
    exact ends.le copy valid
  · intro ends
    constructor
    · intro lease held valid
      exact ends lease (.inl held) valid
    · intro operation member owner table lease granted valid
      exact ends lease (.inr ⟨operation, member, owner, table, granted⟩) valid

/-- Fewer copies at a later time end no later. -/
theorem Cluster.CopiesEndBy.weaken {time : Int} (ends : state.CopiesEndBy manager tableId time)
    (later : state.clock ≤ after.clock)
    (copies : ∀ lease, after.HasCopy manager tableId lease → state.HasCopy manager tableId lease) :
    after.CopiesEndBy manager tableId time := by
  rw [Cluster.copiesEndBy_iff] at ends ⊢
  intro lease copy valid
  exact ends lease (copies lease copy) (later.trans_lt valid)

/-- A record that stays keeps the lease that has not expired in force. -/
theorem Cluster.InForce.weaken (inForce : state.InForce managers manager tableId)
    (later : state.clock ≤ after.clock) (valid : after.AssertHeldSucceeds manager tableId)
    (copies : ∀ lease, after.HasCopy manager tableId lease → state.HasCopy manager tableId lease)
    (records : after.store.leases tableId = state.store.leases tableId) :
    after.InForce managers manager tableId := by
  rcases inForce with ⟨-, cur, recorded, owner, ends⟩
  refine ⟨valid, cur, ?_, owner, ends.weaken later copies⟩
  rw [records]
  exact recorded

/-- The record of a lease in force has not expired. -/
theorem Cluster.InForce.unexpired (inForce : state.InForce managers manager tableId) :
    ∃ cur, state.store.leases tableId = some cur ∧
      cur.actorInstanceId = managers.actorInstanceId manager ∧ state.clock < cur.expiresAt := by
  rcases inForce with ⟨⟨lease, held, valid⟩, cur, recorded, owner, ends⟩
  exact ⟨cur, recorded, owner, valid.trans_le (ends.1 lease held valid)⟩

/-- A table's lease is in force for one instance. -/
theorem Cluster.InForce.manager_eq (distinct : Function.Injective managers.actorInstanceId)
    (first : state.InForce managers manager tableId)
    (second : state.InForce managers other tableId) : manager = other := by
  rcases first.unexpired with ⟨cur, recorded, owner, -⟩
  rcases second.unexpired with ⟨cur', recorded', owner', -⟩
  rw [recorded] at recorded'
  cases recorded'
  exact distinct (owner.symm.trans owner')

/-! ## Operations -/

theorem Cluster.InForce.goTo (inForce : state.InForce managers manager tableId)
    {index : Nat} {operation : Operation ι} {stage : Stage}
    (noLease : Operation.granted { operation with stage := stage } = none) :
    (state.goTo index operation stage).InForce managers manager tableId := by
  refine inForce.weaken (Int.le_refl _) inForce.1 ?_ rfl
  intro lease copy
  rcases hasCopy_goTo copy with old | ⟨-, -, granted⟩
  · exact old
  · rw [noLease] at granted
    cases granted

theorem Cluster.InForce.issue (inForce : state.InForce managers manager tableId)
    {owner : ι} {table : String} {kind : Kind} :
    (state.issue owner table kind).InForce managers manager tableId := by
  refine inForce.weaken (Int.le_refl _) inForce.1 ?_ rfl
  rintro lease (held | ⟨operation, member, rfl, rfl, granted⟩)
  · exact .inl held
  · rcases List.mem_append.mp member with old | new
    · exact .inr ⟨operation, old, rfl, rfl, granted⟩
    · rw [List.mem_singleton.mp new] at granted
      cases granted

variable [DecidableEq ι]

/-- Another copy is kept, or one of the instance that has not expired. -/
theorem Cluster.InForce.keep (inForce : state.InForce managers manager tableId)
    {owner : ι} {table : String} {kept : Option LeaseRecord}
    (onItsWay : ∀ lease, kept = some lease → state.HasCopy owner table lease)
    (valid : manager = owner → tableId = table → ∃ lease ∈ kept, state.clock < lease.expiresAt) :
    (state.keep owner table kept).InForce managers manager tableId := by
  refine inForce.weaken (Int.le_refl _) ?_ ?_ rfl
  · by_cases here : manager = owner ∧ tableId = table
    · rcases valid here.1 here.2 with ⟨lease, stored, unexpired⟩
      refine ⟨lease, ?_, unexpired⟩
      rw [here.1, here.2]
      exact (write₂_self state.held owner table kept).trans stored
    · rcases inForce.1 with ⟨lease, held, unexpired⟩
      exact ⟨lease, (write₂_of_ne state.held kept here).trans held, unexpired⟩
  · intro lease copy
    rcases hasCopy_keep copy with old | ⟨rfl, rfl, stored⟩
    · exact old
    · exact onItsWay lease stored

theorem Cluster.InForce.drop (inForce : state.InForce managers manager tableId)
    {owner : ι} {table : String} (other : ¬ (manager = owner ∧ tableId = table)) :
    (state.keep owner table none).InForce managers manager tableId :=
  inForce.keep (fun _ same => by cases same) fun owned same => absurd ⟨owned, same⟩ other

theorem Cluster.InForce.deliver (inForce : state.InForce managers manager tableId)
    {index : Nat} {operation : Operation ι} {answer : Answer}
    (found : state.operations[index]? = some operation)
    (answered : operation.stage = .answered answer)
    (leaves : operation.manager = manager → operation.tableId = tableId →
        operation.kind.LeavesCopy state.clock answer) :
    (state.deliver index operation answer).InForce managers manager
      tableId := by
  have member := List.mem_of_getElem? found
  have drops (lost : ¬ operation.kind.LeavesCopy state.clock answer) :
      ¬ (manager = operation.manager ∧ tableId = operation.tableId) :=
    fun here => lost (leaves here.1.symm here.2.symm)
  have keeps {lease : LeaseRecord} {reclaimed : Bool}
      (granted : answer = .acquired (.ok lease reclaimed))
      (unexpired : operation.kind.LeavesCopy state.clock answer → state.clock < lease.expiresAt) :
      (state.keep operation.manager operation.tableId (some lease)).InForce
        managers manager tableId := by
    refine inForce.keep ?_ fun owned same =>
      ⟨lease, rfl, unexpired (leaves owned.symm same.symm)⟩
    rintro kept ⟨⟩
    refine .inr ⟨operation, member, rfl, rfl, ?_⟩
    rw [Operation.granted, answered, granted]
  unfold Cluster.deliver
  cases kind : operation.kind with
  | release expectedVersion =>
    rw [kind] at drops
    exact (inForce.drop (drops id)).goTo rfl
  | renew expectedVersion =>
    rw [kind] at drops keeps
    cases answer with
    | record lease => exact (inForce.drop (drops id)).goTo rfl
    | released done => exact (inForce.drop (drops id)).goTo rfl
    | acquired result =>
      cases result with
      | ok lease reclaimed => exact (keeps rfl id).goTo rfl
      | fail reason holder =>
        exact (inForce.drop (drops id)).goTo rfl
  | acquire deadline =>
    rw [kind] at keeps
    cases answer with
    | record lease => exact inForce.goTo rfl
    | released done => exact inForce.goTo rfl
    | acquired result =>
      cases result with
      | ok lease reclaimed => exact (keeps rfl id).goTo rfl
      | fail reason holder =>
        simp only
        split
        · exact inForce.goTo rfl
        · exact inForce.goTo rfl

theorem Cluster.InForce.fail (inForce : state.InForce managers manager tableId)
    {index : Nat} {operation : Operation ι}
    (noRelease : operation.manager = manager → operation.tableId = tableId →
        ¬ operation.kind.IsRelease) :
    (state.fail index operation).InForce managers manager tableId := by
  unfold Cluster.fail
  split
  · rename_i version kind
    rw [kind] at noRelease
    refine (inForce.drop fun here => ?_).goTo rfl
    exact noRelease here.1.symm here.2.symm trivial
  · exact inForce.goTo rfl

/-! ## Calls carried out -/

/-- A granted lease is the record of its instance. -/
theorem Cluster.InForce.grant (inForce : state.InForce managers manager tableId)
    {index : Nat} {operation : Operation ι} {store : Store} {lease : LeaseRecord} {reclaimed : Bool}
    (owner : operation.manager = manager) (table : operation.tableId = tableId)
    (holder : lease.actorInstanceId = managers.actorInstanceId manager)
    (stored : store.leases tableId = some lease)
    (outlives : state.CopiesEndBy manager tableId lease.expiresAt) :
    ({ state with store := store }.goTo index operation
      (.answered (.acquired (.ok lease reclaimed)))).InForce managers manager
        tableId := by
  refine ⟨inForce.1, lease, stored, holder, ?_⟩
  rw [Cluster.copiesEndBy_iff] at outlives ⊢
  intro copy has valid
  rcases hasCopy_goTo has with old | ⟨-, -, granted⟩
  · exact outlives copy old valid
  · cases granted
    exact Int.le_refl _

/-- What is granted for another table or to no one, with the record kept. -/
theorem Cluster.InForce.elsewhere (inForce : state.InForce managers manager tableId)
    {index : Nat} {operation : Operation ι} {store : Store} {answer : Answer}
    (notHere : operation.manager = manager → operation.tableId = tableId → answer.NoGrant)
    (kept : store.leases tableId = state.store.leases tableId) :
    ({ state with store := store }.goTo index operation
      (.answered answer)).InForce managers manager tableId := by
  refine inForce.weaken (Int.le_refl _) inForce.1 ?_ kept
  intro lease copy
  rcases hasCopy_goTo copy with old | ⟨owner, table, granted⟩
  · exact old
  · rw [Operation.granted] at granted
    split at granted
    · rename_i granting reclaimed equal
      exact absurd (Stage.answered.inj equal) (notHere owner table granting reclaimed)
    · cases granted

omit [DecidableEq ι] in
theorem call_eq_release {operation : Operation ι} {actor table : String} {version : Option Nat}
    {now : Int} (call : operation.call managers now = .release table actor version) :
    table = operation.tableId ∧ actor = managers.actorInstanceId operation.manager := by
  rw [Operation.call] at call
  cases kind : operation.kind with
  | release expectedVersion =>
    rw [kind] at call
    cases call
    exact ⟨rfl, rfl⟩
  | acquire deadline =>
    rw [kind] at call
    cases call
  | renew expectedVersion =>
    rw [kind] at call
    cases call

omit [DecidableEq ι] in
theorem call_ne_get {operation : Operation ι} {table : String} {now time : Int} :
    operation.call managers now ≠ .get table time := by
  rw [Operation.call]
  cases operation.kind <;> exact fun same => by cases same

/-- A call of the instance itself that lasts, or any call of another one. -/
theorem Cluster.InForce.carryOut (inForce : state.InForce managers manager tableId)
    (distinct : Function.Injective managers.actorInstanceId)
    {index : Nat} {operation : Operation ι} {now : Int} (notLater : now ≤ state.clock)
    (lasts : operation.manager = manager → operation.tableId = tableId →
        state.Lasts managers backend operation (.issued now)) :
    (state.carryOut managers backend index operation now).InForce managers
      manager tableId := by
  rcases inForce.unexpired with ⟨cur, recorded, holder, unexpired⟩
  have effect := backend.effect state.store state.clock (operation.call managers now)
  simp only [Cluster.Lasts] at lasts
  rw [Cluster.carryOut]
  generalize backend.perform state.store state.clock (operation.call managers now) = performed at *
  generalize issued : operation.call managers now = call at *
  rcases performed with ⟨store, answer⟩
  generalize after : store.leases = leases at *
  cases effect with
  | kept noGrant =>
    exact inForce.elsewhere (fun _ _ => noGrant) (congrFun after tableId)
  | cleaned stored expired => exact absurd issued call_ne_get
  | @released table actor expectedVersion cur' stored mine =>
    rcases call_eq_release issued with ⟨rfl, rfl⟩
    refine inForce.elsewhere (fun _ _ => noGrant_released) ?_
    rw [after]
    refine write_of_ne _ _ fun same => ?_
    rw [← same, recorded] at stored
    cases stored
    have own := distinct (mine.symm.trans holder)
    exact absurd (lasts own same.symm) (by simp [Cluster.OutlivedBy])
  | @acquired table actor ttlMs time reclaimed free =>
    rcases call_eq_tryAcquire issued with ⟨rfl, rfl, rfl⟩
    by_cases same : operation.tableId = tableId
    · subst same
      have own : operation.manager = manager := by
        rcases free cur recorded with mine | expired
        · exact distinct (mine.symm.trans holder)
        · omega
      subst own
      refine inForce.grant rfl rfl rfl ?_ (lasts rfl rfl)
      rw [after]
      exact write_self _ _ _
    · refine inForce.elsewhere (fun _ there => absurd there same) ?_
      rw [after]
      exact write_of_ne _ _ (Ne.symm same)
  | @renewed table actor expectedVersion ttlMs time cur' stored mine version =>
    rcases call_eq_renew issued with ⟨rfl, rfl⟩
    by_cases same : operation.tableId = tableId
    · subst same
      rw [recorded] at stored
      cases stored
      have own := distinct (mine.symm.trans holder)
      subst own
      refine inForce.grant rfl rfl rfl ?_ (lasts rfl rfl)
      rw [after]
      exact write_self _ _ _
    · refine inForce.elsewhere (fun _ there => absurd there same) ?_
      rw [after]
      exact write_of_ne _ _ (Ne.symm same)

/-! ## Keys -/

omit [DecidableEq ι] in
/-- A key does not disappear before its lease has expired. -/
theorem Cluster.InForce.keyExpiry (inForce : state.InForce managers manager tableId)
    (timed : state.Timed backend) {table : String} :
    Cluster.InForce managers
      { state with
        store := backend.keyExpiry state.store state.clock table }
      manager tableId := by
  rcases inForce.unexpired with ⟨cur, recorded, -, unexpired⟩
  refine inForce.weaken (Int.le_refl _) inForce.1 (fun _ copy => copy) ?_
  cases backend with
  | memory => rfl
  | redis =>
    simp only [Backend.keyExpiry, Redis.keyExpiry]
    split
    · rename_i passed
      refine write_of_ne _ _ fun same => ?_
      have lasts := timed.deadline rfl tableId cur recorded
      rw [same] at lasts
      omega
    · rfl

theorem ttl_le (ttlMs : Int) : ttlMs ≤ 1000 * Redis.ttlSec ttlMs := by
  rw [Redis.ttlSec]
  omega

/-- Every record's key lasts as long as the record. -/
def Store.KeysLast (store : Store) : Prop :=
  ∀ tableId cur, store.leases tableId = some cur → cur.expiresAt ≤ store.deadlines tableId

theorem Store.KeysLast.set {store : Store} (last : store.KeysLast) {clock now ttlMs : Int}
    {actor table : String} {version : Nat} (notLater : now ≤ clock) :
    (Redis.set store clock ⟨table, actor, version, now + ttlMs⟩ ttlMs).KeysLast := by
  intro tableId cur stored
  have lasts := ttl_le ttlMs
  simp only [Redis.set] at stored ⊢
  by_cases same : tableId = table
  · rw [same, write_self] at stored ⊢
    cases stored
    exact Int.add_le_add notLater lasts
  · rw [write_of_ne _ _ same] at stored ⊢
    exact last tableId cur stored

theorem Store.KeysLast.remove {store : Store} (last : store.KeysLast) {table : String} :
    (store.remove table).KeysLast := by
  intro tableId cur stored
  exact last tableId cur (stored_of_removed stored)

omit [DecidableEq ι] in
theorem Store.KeysLast.perform {store : Store} (last : store.KeysLast) {operation : Operation ι}
    {clock now : Int} (notLater : now ≤ clock) : (Redis.perform store clock
    (operation.call managers now)).1.KeysLast := by
  rw [Operation.call]
  cases operation.kind with
  | acquire deadline =>
    simp only [Redis.perform, Redis.tryAcquire]
    split
    · split
      · split
        · exact last.set notLater
        · exact last
      · exact last.set notLater
    · exact last.set notLater
  | renew expectedVersion =>
    simp only [Redis.perform, Redis.renew]
    split
    · exact last
    · split
      · exact last
      · split
        · exact last
        · split
          · exact last
          · exact last.set notLater
  | release expectedVersion =>
    simp only [Redis.perform, Redis.release]
    split
    · exact last
    · split
      · exact last
      · split
        · exact last
        · exact last.remove

/-! ## Steps -/

omit [DecidableEq ι] in
/-- An operation moves on, with no call from the future. -/
theorem Cluster.Timed.goTo (timed : state.Timed backend)
    {index : Nat} {operation : Operation ι} {stage : Stage}
    (notLater : ∀ now, stage = .issued now → now ≤ state.clock) :
    (state.goTo index operation stage).Timed backend where
  issued := by
    intro found member now equal
    rcases List.mem_or_eq_of_mem_set member with old | rfl
    · exact timed.issued found old now equal
    · exact notLater now equal
  deadline := timed.deadline

omit [DecidableEq ι] in
theorem Cluster.Timed.issue (timed : state.Timed backend)
    {owner : ι} {table : String} {kind : Kind} : (state.issue owner table kind).Timed backend where
  issued := by
    intro operation member now equal
    rcases List.mem_append.mp member with old | new
    · exact timed.issued operation old now equal
    · rw [List.mem_singleton.mp new] at equal
      cases equal
      exact Int.le_refl _
  deadline := timed.deadline

theorem Cluster.Timed.keep (timed : state.Timed backend)
    {owner : ι} {table : String} {kept : Option LeaseRecord} :
    (state.keep owner table kept).Timed backend := ⟨timed.issued, timed.deadline⟩

theorem Cluster.Timed.deliver (timed : state.Timed backend)
    {index : Nat} {operation : Operation ι} {answer : Answer} :
    (state.deliver index operation answer).Timed backend := by
  have moves (kept : Option LeaseRecord) :
      ((state.keep operation.manager operation.tableId kept).goTo index
        operation .finished).Timed backend := timed.keep.goTo fun _ same => by cases same
  have stays : (state.goTo index operation .finished).Timed backend :=
    timed.goTo fun _ same => by cases same
  unfold Cluster.deliver
  split
  · exact moves _
  · split
    · exact stays
    · exact timed.goTo fun _ same => by cases same
  · exact moves _
  · exact moves _
  · exact moves _
  · exact stays

/-- Every step keeps calls in the past and keys long enough. -/
theorem Cluster.Timed.perform (timed : state.Timed backend) {action : Action ι}
    (performed : state.perform managers backend action = .ok after) :
    after.Timed backend := by
  cases action with
  | tick ms =>
    cases performed
    refine ⟨?_, timed.deadline⟩
    intro operation member now equal
    exact (timed.issued operation member now equal).trans
      (Int.le_add_of_nonneg_right (Int.natCast_nonneg ms))
  | acquire manager tableId waitMs =>
    cases performed
    exact timed.issue
  | renew manager tableId =>
    rw [Cluster.perform] at performed
    split at performed <;> cases performed
    · exact timed
    · exact timed.issue
  | release manager tableId =>
    rw [Cluster.perform] at performed
    split at performed <;> cases performed
    · exact timed
    · exact timed.issue
  | assertHeld manager tableId =>
    cases performed
    rw [Cluster.assertHeld]
    split
    · exact timed
    · split
      · exact timed.keep
      · exact timed
  | keyExpiry table =>
    cases performed
    refine ⟨timed.issued, fun redis => ?_⟩
    have last : state.store.KeysLast := timed.deadline redis
    subst redis
    simp only [Backend.keyExpiry, Redis.keyExpiry]
    split
    · exact last.remove
    · exact last
  | carryOut index =>
    rcases Cluster.perform_carryOut performed with ⟨operation, now, found, stage, rfl⟩
    have notLater := timed.issued operation (List.mem_of_getElem? found) now stage
    have served :
        Cluster.Timed backend
          { state with
            store :=
              (backend.perform state.store state.clock (operation.call managers now)).1 } := by
      refine ⟨timed.issued, fun redis => ?_⟩
      have last : state.store.KeysLast := timed.deadline redis
      subst redis
      exact last.perform notLater
    exact served.goTo fun _ same => by cases same
  | deliver index =>
    rcases Cluster.perform_deliver performed with ⟨operation, answer, -, -, rfl⟩
    exact timed.deliver
  | wake index =>
    rcases Cluster.perform_wake performed with ⟨operation, -, rfl⟩
    refine timed.goTo ?_
    rintro now ⟨⟩
    exact Int.le_refl _
  | fail index =>
    rcases Cluster.perform_fail performed with ⟨operation, -, rfl⟩
    unfold Cluster.fail
    split
    · exact timed.keep.goTo fun _ same => by cases same
    · exact timed.goTo fun _ same => by cases same

/-- A step that spares a lease in force leaves it in force. -/
theorem Cluster.InForce.perform (inForce : state.InForce managers manager tableId)
    (distinct : Function.Injective managers.actorInstanceId)
    (timed : state.Timed backend) {action : Action ι}
    (spares : state.Spares managers backend manager tableId action)
    (performed : state.perform managers backend action = .ok after) :
    after.InForce managers manager tableId := by
  cases action with
  | tick ms =>
    cases performed
    rcases inForce.1 with ⟨lease, held, -⟩
    exact inForce.weaken (Int.le_add_of_nonneg_right (Int.natCast_nonneg ms))
      ⟨lease, held, spares lease held⟩ (fun _ copy => copy) rfl
  | acquire owner table waitMs =>
    cases performed
    exact inForce.issue
  | renew owner table =>
    rw [Cluster.perform] at performed
    split at performed <;> cases performed
    · exact inForce
    · exact inForce.issue
  | release owner table =>
    rw [Cluster.perform] at performed
    split at performed <;> cases performed
    · exact inForce
    · exact inForce.issue
  | assertHeld owner table =>
    cases performed
    rw [Cluster.assertHeld]
    split
    · exact inForce
    · rename_i lease held
      split
      · rename_i expired
        refine inForce.drop ?_
        rintro ⟨rfl, rfl⟩
        rcases inForce.1 with ⟨lease', held', valid⟩
        rw [held] at held'
        cases held'
        omega
      · exact inForce
  | keyExpiry table =>
    cases performed
    exact inForce.keyExpiry timed
  | carryOut index =>
    rcases Cluster.perform_carryOut performed with ⟨operation, now, found, stage, rfl⟩
    refine inForce.carryOut distinct
      (timed.issued operation (List.mem_of_getElem? found) now stage) ?_
    intro owner table
    have lasts := spares operation found owner table
    rw [stage] at lasts
    exact lasts
  | deliver index =>
    rcases Cluster.perform_deliver performed with ⟨operation, answer, found, stage, rfl⟩
    refine inForce.deliver found stage ?_
    intro owner table
    have leaves := spares operation found owner table
    rw [stage] at leaves
    exact leaves
  | wake index =>
    rcases Cluster.perform_wake performed with ⟨operation, -, rfl⟩
    exact inForce.goTo rfl
  | fail index =>
    rcases Cluster.perform_fail performed with ⟨operation, found, rfl⟩
    exact inForce.fail (spares operation found)

end Steps

end Mozetto.Lease
