import Mozetto.GameServer.TableActors
import Mozetto.Library.Guarded

/-!
# One actor for each table

The invariant of orderly runs: what stands in a server's map is a runtime of
that server, whose lease is in force while it is active, and what stands in no
map has been stopped at rest.  Every orderly step keeps it, and where it holds
at most one runtime of a table is active.
-/

namespace Mozetto.GameServer.Actors

open Mozetto.Lease
open Mozetto.Library.Guarded
open Mozetto.Library.Mapping
open Mozetto.Library.TransitionSystem

/-! ## The invariant -/

section Invariant

variable {ι : Type}
variable {managers : Managers ι} {backend : Backend}
variable {servers after : Servers ι} {manager other : ι} {tableId : String}

/-- The runtime that a call has found or made. -/
def Progress.runtime? : Progress → Option Nat
  | .renewing runtime _ => some runtime
  | .renewed runtime _ => some runtime
  | .returned runtime => some runtime
  | _ => none

/-- A call's runtime is one of its server for its table. -/
def Request.Names (request : Request ι) (runtimes : List (TableRuntime ι)) :
    Prop :=
  ∀ runtime ∈ request.progress.runtime?,
    ∃ rt, runtimes[runtime]? = some rt ∧ rt.manager = request.manager ∧ rt.tableId = request.tableId

/--
What is in a map is a runtime of its server and table, what is in none has
been stopped where it could not store, an active runtime of a map has its
lease in force, and no two of one table are active.
-/
structure Servers.Sound (managers : Managers ι) (backend : Backend) (servers : Servers ι) :
    Prop where
  timed : servers.cluster.Timed backend
  placed : ∀ manager tableId runtime, servers.tables manager tableId = some runtime →
        ∃ rt, servers.runtimes[runtime]? = some rt ∧ rt.manager = manager ∧ rt.tableId = tableId
  unloaded : ∀ (runtime : Nat) rt, servers.runtimes[runtime]? = some rt →
      servers.tables rt.manager rt.tableId ≠ some runtime →
        rt.stopped = true ∧ rt.running = false ∧ ¬ rt.Storing
  inForce : ∀ manager tableId, servers.Serves manager tableId →
      servers.cluster.InForce managers manager tableId
  one : ∀ (first second : Nat) rt rt', servers.runtimes[first]? = some rt →
        servers.runtimes[second]? = some rt' → rt.tableId = rt'.tableId →
          rt.Active → rt'.Active → first = second
  named : ∀ request ∈ servers.requests, request.Names servers.runtimes
  stored : ∀ stored ∈ servers.stored, stored.InLease

theorem TableRuntime.Storing.active {rt : TableRuntime ι} (storing : rt.Storing) : rt.Active := by
  rcases storing with body | calls
  · exact .inl (List.ne_nil_of_mem body)
  · exact .inr calls

/-- A runtime that may store is in its server's map, with a live lease. -/
theorem Servers.Sound.leased (sound : servers.Sound managers backend) {runtime : Nat}
    {rt : TableRuntime ι} (found : servers.runtimes[runtime]? = some rt) (storing : rt.Storing) :
    servers.tables rt.manager rt.tableId = some runtime ∧
      servers.cluster.AssertHeldSucceeds rt.manager rt.tableId := by
  have loaded : servers.tables rt.manager rt.tableId = some runtime := by
    by_contra elsewhere
    exact (sound.unloaded runtime rt found elsewhere).2.2 storing
  exact ⟨loaded, (sound.inForce _ _ ⟨runtime, loaded, rt, found, storing.active⟩).1⟩

theorem Progress.runtime_of_returned {progress : Progress} {runtime : Nat}
    (returned : runtime ∈ progress.returned?) : runtime ∈ progress.runtime? := by
  cases progress with
  | returned runtime => exact returned
  | acquiring operation => cases returned
  | loading lease => cases returned
  | renewing runtime operation => cases returned
  | renewed runtime lease => cases returned
  | threw message => cases returned

/-- The law follows from the invariant. -/
theorem Servers.Sound.singleActor
    (sound : servers.Sound managers backend) : servers.SingleActor where
  one := sound.one
  same := by
    intro request member request' member' owner table first returned second
      returned' rt found rt' found' runs runs'
    have current {request : Request ι} (member : request ∈ servers.requests)
        {runtime : Nat} (returned : runtime ∈ request.progress.returned?)
        {rt : TableRuntime ι} (found : rt ∈ servers.runtimes[runtime]?)
        (runs : rt.stopped = false) :
        servers.tables request.manager request.tableId = some runtime := by
      rcases sound.named request member runtime (Progress.runtime_of_returned returned) with
        ⟨rt', found', owner, table⟩
      rw [show servers.runtimes[runtime]? = some rt from found] at found'
      cases found'
      by_contra elsewhere
      rw [← owner, ← table] at elsewhere
      have stopped := (sound.unloaded runtime rt found elsewhere).1
      rw [runs] at stopped
      cases stopped
    have loaded := current member returned found runs
    have loaded' := current member' returned' found' runs'
    rw [← owner, ← table, loaded] at loaded'
    exact Option.some.inj loaded'
  leased := fun _ _ found storing => sound.leased found storing
  stored := sound.stored

/-! ## Quiet changes -/

/-- The servers' runtimes and maps stay, and so do the leases they rely on. -/
theorem Servers.Sound.manage_of (sound : servers.Sound managers backend)
    (timed : after.cluster.Timed backend)
    (inForce : ∀ manager tableId, servers.Serves manager tableId →
        after.cluster.InForce managers manager tableId)
    (runtimes : after.runtimes = servers.runtimes)
    (tables : after.tables = servers.tables)
    (named : ∀ request ∈ after.requests, request.Names servers.runtimes)
    (stored : after.stored = servers.stored) :
    after.Sound managers backend where
  timed := timed
  placed := by
    rw [runtimes, tables]
    exact sound.placed
  unloaded := by
    rw [runtimes, tables]
    exact sound.unloaded
  inForce := by
    intro manager tableId serves
    rw [Servers.Serves, runtimes, tables] at serves
    exact inForce manager tableId serves
  one := by
    rw [runtimes]
    exact sound.one
  named := by
    rw [runtimes]
    exact named
  stored := by
    rw [stored]
    exact sound.stored

/-- A change of a runtime that makes it neither active nor storing. -/
structure TableRuntime.Quiet (before after : TableRuntime ι) : Prop where
  manager : after.manager = before.manager
  tableId : after.tableId = before.tableId
  active : after.Active → before.Active
  stopped : before.stopped = true ∧ before.running = false ∧ ¬ before.Storing →
      after.stopped = true ∧ after.running = false ∧ ¬ after.Storing

theorem getElem?_update {change : TableRuntime ι → TableRuntime ι} {runtime index : Nat}
    {rt : TableRuntime ι} (found : (servers.update runtime change).runtimes[index]? = some rt) :
    ∃ old, servers.runtimes[index]? = some old ∧
      (index = runtime ∧ rt = change old ∨ index ≠ runtime ∧ rt = old) := by
  simp only [Servers.update, List.getElem?_modify] at found
  rcases Option.map_eq_some_iff.mp found with ⟨old, was, rfl⟩
  refine ⟨old, was, ?_⟩
  by_cases same : runtime = index
  · exact .inl ⟨same.symm, if_pos same⟩
  · exact .inr ⟨Ne.symm same, if_neg same⟩

/-- A change that keeps a runtime's server and table. -/
theorem exists_update (change : TableRuntime ι → TableRuntime ι) (runtime : Nat) {index : Nat}
    {rt : TableRuntime ι} (manager : ∀ rt, (change rt).manager = rt.manager)
    (table : ∀ rt, (change rt).tableId = rt.tableId) (found : servers.runtimes[index]? = some rt) :
    ∃ changed, (servers.update runtime change).runtimes[index]? = some changed ∧
        changed.manager = rt.manager ∧ changed.tableId = rt.tableId := by
  simp only [Servers.update, List.getElem?_modify, found, Option.map_some]
  by_cases same : runtime = index
  · exact ⟨change rt, congrArg some (if_pos same), manager rt, table rt⟩
  · exact ⟨rt, congrArg some (if_neg same), rfl, rfl⟩

theorem Request.Names.update {request : Request ι} (names : request.Names servers.runtimes)
    {change : TableRuntime ι → TableRuntime ι} {runtime : Nat}
    (manager : ∀ rt, (change rt).manager = rt.manager)
    (table : ∀ rt, (change rt).tableId = rt.tableId) :
    request.Names (servers.update runtime change).runtimes := by
  intro index named
  rcases names index named with ⟨rt, found, owner, place⟩
  rcases exists_update change runtime manager table found with ⟨changed, found', own, here⟩
  exact ⟨changed, found', own.trans owner, here.trans place⟩

/-- A runtime changes quietly. -/
theorem Servers.Sound.update (sound : servers.Sound managers backend)
    {change : TableRuntime ι → TableRuntime ι} {runtime : Nat}
    (manager : ∀ rt, (change rt).manager = rt.manager)
    (table : ∀ rt, (change rt).tableId = rt.tableId)
    (quiet : ∀ rt, servers.runtimes[runtime]? = some rt → rt.Quiet (change rt)) :
    (servers.update runtime change).Sound managers backend := by
  have was {index : Nat} {rt : TableRuntime ι}
      (found : (servers.update runtime change).runtimes[index]? = some rt) :
      ∃ old, servers.runtimes[index]? = some old ∧ old.Quiet rt := by
    rcases getElem?_update found with ⟨old, before, ⟨rfl, rfl⟩ | ⟨-, rfl⟩⟩
    · exact ⟨old, before, quiet old before⟩
    · exact ⟨rt, before, rfl, rfl, id, id⟩
  refine ⟨sound.timed, ?_, ?_, ?_, ?_, ?_, sound.stored⟩
  · intro owner place index loaded
    rcases sound.placed owner place index loaded with ⟨rt, found, own, here⟩
    rcases exists_update change runtime manager table found with ⟨changed, found', owner', place'⟩
    exact ⟨changed, found', owner'.trans own, place'.trans here⟩
  · intro index rt found elsewhere
    rcases was found with ⟨old, before, quiet⟩
    refine quiet.stopped (sound.unloaded index old before ?_)
    rw [← quiet.manager, ← quiet.tableId]
    exact elsewhere
  · rintro owner place ⟨index, loaded, rt, found, active⟩
    rcases was found with ⟨old, before, quiet⟩
    exact sound.inForce owner place ⟨index, loaded, old, before, quiet.active active⟩
  · intro first second rt rt' found found' table active active'
    rcases was found with ⟨old, before, quiet⟩
    rcases was found' with ⟨old', before', quiet'⟩
    rw [quiet.tableId, quiet'.tableId] at table
    exact sound.one first second old old' before before' table
      (quiet.active active) (quiet'.active active')
  · intro request member
    exact (sound.named request member).update manager table

/-! ### Changes of one runtime -/

section Quiet

variable (rt : TableRuntime ι)

theorem quiet_bindLease (actorInstanceId : String) (leaseVersion : Nat) :
    rt.Quiet (rt.bindLease actorInstanceId leaseVersion) := ⟨rfl, rfl, id, id⟩

/-- A call under way may start the loop. -/
theorem quiet_ensureLoop (calling : rt.calls ≠ 0) : rt.Quiet rt.ensureLoop := by
  rw [TableRuntime.ensureLoop]
  split
  · exact ⟨rfl, rfl, id, id⟩
  · split
    · exact ⟨rfl, rfl, id, id⟩
    · exact ⟨rfl, rfl, fun _ => .inr calling, fun stopped => absurd (.inr calling) stopped.2.2⟩

theorem quiet_endCall (calling : rt.calls ≠ 0) : rt.Quiet rt.endCall :=
  ⟨rfl, rfl, fun _ => .inr calling, fun stopped => absurd (.inr calling) stopped.2.2⟩

theorem quiet_testLoop {loop : Nat} (waits : rt.loops[loop]? = some .test) :
    rt.Quiet (rt.testLoop loop) := by
  have looping : rt.Active := .inl (List.ne_nil_of_mem (List.mem_of_getElem? waits))
  rw [TableRuntime.testLoop]
  split
  · rename_i running
    refine ⟨rfl, rfl, fun _ => looping, fun stopped => ?_⟩
    rw [running] at stopped
    cases stopped.2.1
  · refine ⟨rfl, rfl, fun _ => looping, fun stopped => ?_⟩
    refine ⟨stopped.1, stopped.2.1, ?_⟩
    rintro (body | calls)
    · exact stopped.2.2 (.inl (List.mem_of_mem_eraseIdx body))
    · exact stopped.2.2 (.inr calls)

theorem quiet_endRound {loop : Nat} (inside : rt.loops[loop]? = some .body) :
    rt.Quiet (rt.endRound loop) := by
  have body := List.mem_of_getElem? inside
  exact ⟨rfl, rfl, fun _ => .inl (List.ne_nil_of_mem body),
    fun stopped => absurd (.inl body) stopped.2.2⟩

end Quiet

/-! ## Leases -/

variable [DecidableEq ι]

theorem timed_callManager {cluster : Cluster ι} (timed : cluster.Timed backend)
    (action : Action ι) : (callManager managers backend cluster action).Timed backend := by
  rw [callManager]
  cases performed : cluster.perform managers backend action with
  | error err => exact timed
  | ok after => exact timed.perform performed

theorem inForce_callManager {cluster : Cluster ι}
    (inForce : cluster.InForce managers manager tableId)
    (distinct : Function.Injective managers.actorInstanceId)
    (timed : cluster.Timed backend) {action : Action ι}
    (spares : cluster.Spares managers backend manager tableId action) :
    (callManager managers backend cluster action).InForce managers manager
      tableId := by
  rw [callManager]
  cases performed : cluster.perform managers backend action with
  | error err => exact inForce
  | ok after => exact inForce.perform distinct timed spares performed

/-- An operation of the lease manager that spares every lease. -/
theorem Servers.Sound.manage (sound : servers.Sound managers backend)
    (distinct : Function.Injective managers.actorInstanceId) (action : Action ι)
    (spares : ∀ manager tableId, servers.cluster.Spares managers backend manager tableId action) :
    (servers.manage managers backend action).Sound managers backend :=
  sound.manage_of (timed_callManager sound.timed action) (fun manager tableId serves =>
    inForce_callManager (sound.inForce manager tableId serves) distinct
      sound.timed (spares manager tableId))
    rfl rfl sound.named rfl

theorem Servers.Sound.release (sound : servers.Sound managers backend)
    (distinct : Function.Injective managers.actorInstanceId) (manager : ι) (tableId : String) :
    (servers.manage managers backend (.release manager tableId)).Sound
      managers backend :=
  sound.manage distinct (.release manager tableId) fun _ _ => trivial

/-- A step of the backend or the clock that spares the leases relied on. -/
theorem Servers.Sound.leaseStep (sound : servers.Sound managers backend)
    (distinct : Function.Injective managers.actorInstanceId)
    {action : Action ι} (spared : servers.Spared managers backend action)
    (stepped : servers.leaseStep managers backend action = .ok after) :
    after.Sound managers backend := by
  rcases map_eq_ok_iff.mp stepped with ⟨cluster, performed, rfl⟩
  refine sound.manage_of (sound.timed.perform performed) ?_ rfl rfl sound.named rfl
  intro manager tableId serves
  refine (sound.inForce manager tableId serves).perform distinct sound.timed ?_ performed
  rcases serves with ⟨runtime, loaded, rt, found, active⟩
  rcases sound.placed manager tableId runtime loaded with ⟨rt', found', rfl, rfl⟩
  exact spared rt' (List.mem_of_getElem? found') ⟨runtime, loaded, rt, found, active⟩

omit [DecidableEq ι] in
/-- Calls of `getRuntime` and beats move on without another runtime. -/
theorem Servers.Sound.with_requests (sound : servers.Sound managers backend)
    {requests : List (Request ι)} {beats : List (Beat ι)} {heartbeats : ι → String → Bool}
    (named : ∀ request ∈ requests, request.Names servers.runtimes) :
    Servers.Sound managers backend
      { servers with
        requests := requests, beats := beats, heartbeats := heartbeats } :=
  sound.manage_of sound.timed sound.inForce rfl rfl named rfl

omit [DecidableEq ι] in
theorem Servers.Sound.advance (sound : servers.Sound managers backend)
    {index : Nat} {request : Request ι} {progress : Progress}
    (named : Request.Names { request with progress := progress } servers.runtimes) :
    (servers.advance index request progress).Sound managers backend := by
  refine sound.with_requests fun found member => ?_
  rcases List.mem_or_eq_of_mem_set member with old | rfl
  · exact sound.named found old
  · exact named

omit [DecidableEq ι] in
theorem names_threw {request : Request ι} {message : String} {runtimes : List (TableRuntime ι)} :
    Request.Names { request with progress := .threw message } runtimes := nofun

omit [DecidableEq ι] in
theorem Progress.runtime_settle {operation : Nat} {outcome : Except String (Option LeaseRecord)}
    {progress : Progress} {runtime : Nat}
    (has : runtime ∈ (progress.settle operation outcome).runtime?) :
    runtime ∈ progress.runtime? := by
  cases progress with
  | acquiring awaited =>
    simp only [Progress.settle] at has
    split at has
    · split at has <;> cases has
    · exact has
  | renewing found awaited =>
    simp only [Progress.settle] at has
    split at has
    · split at has
      · exact has
      · cases has
    · exact has
  | loading lease => exact has
  | renewed found lease => exact has
  | returned found => exact has
  | threw message => exact has

omit [DecidableEq ι] in
theorem Servers.Sound.settle (sound : servers.Sound managers backend) {operation : Nat}
    {outcome : Option (Except String (Option LeaseRecord))} :
    (servers.settle operation outcome).Sound managers backend := by
  cases outcome with
  | none => exact sound
  | some outcome =>
    refine sound.with_requests fun request member => ?_
    rcases List.mem_map.mp member with ⟨found, was, rfl⟩
    intro runtime has
    exact sound.named found was runtime (Progress.runtime_settle has)

/-! ## Maps -/

/-- A runtime that has been stopped at rest leaves the map. -/
theorem Servers.Sound.forget (sound : servers.Sound managers backend) {runtime : Nat}
    {rt : TableRuntime ι} (loaded : servers.tables manager tableId = some runtime)
    (found : servers.runtimes[runtime]? = some rt)
    (rest : rt.stopped = true ∧ rt.running = false ∧ ¬ rt.Storing) :
    Servers.Sound managers backend
      { servers with
        tables := write₂ servers.tables manager tableId none } := by
  have was {other : ι} {table : String} {index : Nat}
      (kept : write₂ servers.tables manager tableId none other table = some index) :
      servers.tables other table = some index := by
    by_cases here : other = manager ∧ table = tableId
    · rw [here.1, here.2, write₂_self] at kept
      cases kept
    · rwa [write₂_of_ne _ _ here] at kept
  refine ⟨sound.timed, ?_, ?_, ?_, sound.one, sound.named, sound.stored⟩
  · intro other table index kept
    exact sound.placed other table index (was kept)
  · intro index rt' found' elsewhere
    by_cases same : index = runtime
    · subst same
      rw [found] at found'
      cases found'
      exact rest
    · refine sound.unloaded index rt' found' fun loaded' => elsewhere ?_
      refine (write₂_of_ne _ _ fun here => ?_).trans loaded'
      rw [here.1, here.2, loaded] at loaded'
      exact same (Option.some.inj loaded').symm
  · rintro other table ⟨index, kept, serving⟩
    exact sound.inForce other table ⟨index, was kept, serving⟩

/-- A table is unloaded while its runtime is at rest. -/
theorem Servers.Sound.unloadTable (sound : servers.Sound managers backend)
    (distinct : Function.Injective managers.actorInstanceId)
    (rest : servers.AtRest manager tableId) :
    (servers.unloadTable managers backend manager tableId).Sound managers
      backend := by
  rw [Servers.unloadTable]
  cases loaded : servers.tables manager tableId with
  | none =>
    exact (sound.release distinct manager tableId).with_requests sound.named
  | some runtime =>
    rcases sound.placed manager tableId runtime loaded with ⟨rt, found, -, -⟩
    have calm := rest runtime loaded rt found
    have stopped : (servers.update runtime TableRuntime.stopLoop).Sound managers
        backend := by
      refine sound.update (fun _ => rfl) (fun _ => rfl) fun old found' => ?_
      rw [found] at found'
      cases found'
      exact ⟨rfl, rfl, id, fun _ => ⟨rfl, rfl, calm⟩⟩
    have found' : (servers.update runtime TableRuntime.stopLoop).runtimes[runtime]? =
        some rt.stopLoop := by
      rw [Servers.update, List.getElem?_modify_eq, found]
      rfl
    have forgotten := stopped.forget loaded found' ⟨rfl, rfl, calm⟩
    exact (forgotten.release distinct manager tableId).with_requests forgotten.named

/-- Where a runtime may act, the active one of the table is its server's. -/
theorem Servers.Sound.alone (sound : servers.Sound managers backend)
    (distinct : Function.Injective managers.actorInstanceId)
    (mayAct : servers.MayAct managers manager tableId) {index : Nat} {rt : TableRuntime ι}
    (found : servers.runtimes[index]? = some rt)
    (table : rt.tableId = tableId) (active : rt.Active) :
    servers.tables manager tableId = some index := by
  have bound := (List.getElem?_eq_some_iff.mp found).1
  have loaded := mayAct.2 index bound rt found table active
  have theirs := sound.inForce rt.manager tableId ⟨index, loaded, rt, found, active⟩
  rw [mayAct.1.manager_eq distinct theirs]
  exact loaded

/-- A call of a loaded runtime begins. -/
theorem Servers.Sound.beginCall (sound : servers.Sound managers backend)
    (distinct : Function.Injective managers.actorInstanceId) {runtime : Nat} {rt : TableRuntime ι}
    (found : servers.runtimes[runtime]? = some rt)
    (loaded : servers.tables rt.manager rt.tableId = some runtime)
    (mayAct : servers.MayAct managers rt.manager rt.tableId) :
    (servers.update runtime TableRuntime.beginCall).Sound managers
      backend := by
  have only {index : Nat} {rt' : TableRuntime ι} (found' : servers.runtimes[index]? = some rt')
      (table : rt'.tableId = rt.tableId) (active : rt'.Active) : index = runtime := by
    have here := sound.alone distinct mayAct found' table active
    rw [loaded] at here
    exact (Option.some.inj here).symm
  refine ⟨sound.timed, ?_, ?_, ?_, ?_, ?_, sound.stored⟩
  · intro owner place index kept
    rcases sound.placed owner place index kept with ⟨old, was, own, here⟩
    rcases exists_update TableRuntime.beginCall runtime (fun _ => rfl) (fun _ => rfl) was with
      ⟨changed, now, own', here'⟩
    exact ⟨changed, now, own'.trans own, here'.trans here⟩
  · intro index rt' found' elsewhere
    rcases getElem?_update found' with ⟨old, was, ⟨rfl, rfl⟩ | ⟨-, rfl⟩⟩
    · rw [found] at was
      cases was
      exact absurd loaded elsewhere
    · exact sound.unloaded index rt' was elsewhere
  · rintro owner place ⟨index, kept, rt', found', active⟩
    rcases getElem?_update found' with ⟨old, was, ⟨rfl, rfl⟩ | ⟨-, rfl⟩⟩
    · rcases sound.placed owner place index kept with ⟨rt', was', rfl, rfl⟩
      rw [found] at was'
      cases was'
      exact mayAct.1
    · exact sound.inForce owner place ⟨index, kept, rt', was, active⟩
  · intro first second one two found' found'' table active active'
    rcases getElem?_update found' with ⟨old, was, ⟨rfl, rfl⟩ | ⟨-, rfl⟩⟩ <;>
      rcases getElem?_update found'' with ⟨old', was', ⟨rfl, rfl⟩ | ⟨-, rfl⟩⟩
    · rfl
    · rw [found] at was
      cases was
      exact (only was' table.symm active').symm
    · rw [found] at was'
      cases was'
      exact only was table active
    · exact sound.one first second _ _ was was' table active active'
  · intro request member
    exact (sound.named request member).update (fun _ => rfl) (fun _ => rfl)

/-! ## Loads -/

section Loads

variable (owner : ι) (place : String) (ok : Bool) (lease : LeaseRecord)

/-- The runtime that a load puts into the map. -/
def loadedRuntime : TableRuntime ι :=
  ((TableRuntime.load owner place ok).bindLease lease.actorInstanceId lease.leaseVersion).ensureLoop

omit [DecidableEq ι] in
theorem loadedRuntime_manager : (loadedRuntime owner place ok lease).manager = owner := by
  cases ok <;> rfl

omit [DecidableEq ι] in
theorem loadedRuntime_tableId : (loadedRuntime owner place ok lease).tableId = place := by
  cases ok <;> rfl

omit [DecidableEq ι] in
/-- A broken event chain keeps the loop from starting. -/
theorem ok_of_loadedRuntime_active
    (active : (loadedRuntime owner place ok lease).Active) : ok = true := by
  cases ok with
  | true => rfl
  | false =>
    rcases active with loops | calls
    · exact absurd rfl loops
    · exact absurd rfl calls

end Loads

/-- A load that ends puts its runtime into an empty place of the map. -/
theorem Servers.Sound.loaded (sound : servers.Sound managers backend)
    (distinct : Function.Injective managers.actorInstanceId)
    {index : Nat} {request : Request ι} {lease : LeaseRecord} {ok : Bool} {issues : List String}
    (orderly : (ok || request.allowBrokenChain) = true →
        servers.tables request.manager request.tableId = none ∧ (ok = true →
            servers.MayAct managers request.manager request.tableId)) :
    (servers.loaded managers backend index request lease ok issues).Sound
      managers backend := by
  rw [Servers.loaded]
  split
  case isFalse =>
    exact (sound.release distinct request.manager request.tableId).advance names_threw
  case isTrue accepted =>
    rcases orderly accepted with ⟨empty, mayAct⟩
    generalize made : ((TableRuntime.load request.manager request.tableId
      ok).bindLease lease.actorInstanceId lease.leaseVersion).ensureLoop = new
    have owner : new.manager = request.manager := by
      rw [← made]
      exact loadedRuntime_manager _ _ ok lease
    have place : new.tableId = request.tableId := by
      rw [← made]
      exact loadedRuntime_tableId _ _ ok lease
    have acts : new.Active → ok = true := by
      rw [← made]
      exact ok_of_loadedRuntime_active _ _ ok lease
    have appended {runtime : Nat} {rt : TableRuntime ι}
        (found : (servers.runtimes ++ [new])[runtime]? = some rt) :
        servers.runtimes[runtime]? = some rt ∨ runtime = servers.runtimes.length ∧ rt = new := by
      by_cases earlier : runtime < servers.runtimes.length
      · rw [List.getElem?_append_left earlier] at found
        exact .inl found
      · rw [List.getElem?_append_right (Nat.le_of_not_lt earlier), List.getElem?_singleton] at found
        split at found
        · cases found
          exact .inr ⟨by omega, rfl⟩
        · cases found
    have old {runtime : Nat} {rt : TableRuntime ι} (found : servers.runtimes[runtime]? = some rt) :
        (servers.runtimes ++ [new])[runtime]? = some rt := by
      rw [List.getElem?_append_left (List.getElem?_eq_some_iff.mp found).1]
      exact found
    have fresh : (servers.runtimes ++ [new])[servers.runtimes.length]? = some new :=
      List.getElem?_concat_length
    have others {rt : TableRuntime ι} {runtime : Nat} (found : servers.runtimes[runtime]? = some rt)
        (table : rt.tableId = new.tableId) (active : rt.Active) (acting : new.Active) : False := by
      have here := sound.alone distinct (mayAct (acts acting)) found (table.trans place) active
      rw [empty] at here
      cases here
    refine ⟨sound.timed, ?_, ?_, ?_, ?_, ?_, sound.stored⟩
    · intro manager tableId runtime kept
      by_cases here : manager = request.manager ∧ tableId = request.tableId
      · have kept' : write₂ servers.tables request.manager request.tableId
            (some servers.runtimes.length) manager tableId =
              some runtime := kept
        rw [here.1, here.2, write₂_self] at kept'
        cases kept'
        exact ⟨new, fresh, owner.trans here.1.symm, place.trans here.2.symm⟩
      · have kept' := (write₂_of_ne _ _ here).symm.trans kept
        rcases sound.placed manager tableId runtime kept' with ⟨rt, found, own, table⟩
        exact ⟨rt, old found, own, table⟩
    · intro runtime rt found elsewhere
      rcases appended found with was | ⟨rfl, rfl⟩
      · refine sound.unloaded runtime rt was fun kept => elsewhere ?_
        refine (write₂_of_ne _ _ fun here => ?_).trans kept
        rw [here.1, here.2, empty] at kept
        cases kept
      · refine absurd ?_ elsewhere
        rw [owner, place]
        exact write₂_self _ _ _ _
    · rintro manager tableId ⟨runtime, kept, rt, found, active⟩
      by_cases here : manager = request.manager ∧ tableId = request.tableId
      · have kept' : write₂ servers.tables request.manager request.tableId
            (some servers.runtimes.length) manager tableId =
              some runtime := kept
        rw [here.1, here.2, write₂_self] at kept'
        cases kept'
        rw [show _ = some rt from found] at fresh
        cases fresh
        rw [here.1, here.2]
        exact (mayAct (acts active)).1
      · have kept' := (write₂_of_ne _ _ here).symm.trans kept
        rcases sound.placed manager tableId runtime kept' with ⟨rt', found', -, -⟩
        have same := old found'
        rw [show _ = some rt from found] at same
        cases same
        exact sound.inForce manager tableId ⟨runtime, kept', rt, found', active⟩
    · intro first second rt rt' found found' table active active'
      rcases appended found with was | ⟨rfl, rfl⟩ <;>
        rcases appended found' with was' | ⟨rfl, rfl⟩
      · exact sound.one first second rt rt' was was' table active active'
      · exact (others was table active active').elim
      · exact (others was' table.symm active' active).elim
      · rfl
    · intro found member
      rcases List.mem_or_eq_of_mem_set member with was | rfl
      · intro runtime named
        rcases sound.named found was runtime named with ⟨rt, present, own, table⟩
        exact ⟨rt, old present, own, table⟩
      · rintro runtime ⟨⟩
        exact ⟨new, fresh, owner, place⟩

/-! ## The end of a process -/

section Exit

variable {gone : ι}

/-- What is left of a runtime when a process ends. -/
theorem exit_runtime {runtime : Nat} {rt : TableRuntime ι}
    (found : (servers.exit gone).runtimes[runtime]? = some rt) :
    ∃ old, servers.runtimes[runtime]? = some old ∧ (old.manager = gone ∧ rt = old.halt ∨
        old.manager ≠ gone ∧ rt = old) := by
  simp only [Servers.exit, List.getElem?_map] at found
  rcases Option.map_eq_some_iff.mp found with ⟨old, was, rfl⟩
  refine ⟨old, was, ?_⟩
  by_cases here : old.manager = gone
  · exact .inl ⟨here, if_pos here⟩
  · exact .inr ⟨here, if_neg here⟩

theorem exit_runtime_of {runtime : Nat} {rt : TableRuntime ι}
    (found : servers.runtimes[runtime]? = some rt) :
    ∃ after, (servers.exit gone).runtimes[runtime]? = some after ∧
      after.manager = rt.manager ∧ after.tableId = rt.tableId := by
  simp only [Servers.exit, List.getElem?_map, found, Option.map_some]
  by_cases here : rt.manager = gone
  · exact ⟨rt.halt, congrArg some (if_pos here), rfl, rfl⟩
  · exact ⟨rt, congrArg some (if_neg here), rfl, rfl⟩

theorem exit_tables {runtime : Nat}
    (kept : (servers.exit gone).tables manager tableId = some runtime) :
    manager ≠ gone ∧ servers.tables manager tableId = some runtime := by
  simp only [Servers.exit] at kept
  split at kept
  · cases kept
  · rename_i other
    exact ⟨other, kept⟩

/-- The copies of the other processes stay. -/
theorem exit_inForce (inForce : servers.cluster.InForce managers manager tableId)
    (other : manager ≠ gone) : (servers.exit gone).cluster.InForce managers manager tableId := by
  have held : (servers.exit gone).cluster.held manager =
      servers.cluster.held manager :=
    if_neg other
  refine inForce.weaken (Int.le_refl _) ?_ ?_ rfl
  · rcases inForce.1 with ⟨lease, copy, valid⟩
    exact ⟨lease, (congrFun held tableId).trans copy, valid⟩
  · rintro lease (copy | underway)
    · exact .inl ((congrFun held tableId).symm.trans copy)
    · exact .inr underway

theorem Servers.Sound.exit (sound : servers.Sound managers backend) (gone : ι) :
    (servers.exit gone).Sound managers backend := by
  have still {runtime : Nat} {rt : TableRuntime ι}
      (found : (servers.exit gone).runtimes[runtime]? = some rt)
      (active : rt.Active) : servers.runtimes[runtime]? = some rt := by
    rcases exit_runtime found with ⟨old, was, ⟨-, rfl⟩ | ⟨-, rfl⟩⟩
    · rcases active with loops | calls
      · exact absurd rfl loops
      · exact absurd rfl calls
    · exact was
  refine ⟨⟨sound.timed.issued, sound.timed.deadline⟩, ?_, ?_, ?_, ?_, ?_, sound.stored⟩
  · intro manager tableId runtime kept
    rcases exit_tables kept with ⟨-, was⟩
    rcases sound.placed manager tableId runtime was with ⟨rt, found, own, table⟩
    rcases exit_runtime_of found with ⟨after, now, own', table'⟩
    exact ⟨after, now, own'.trans own, table'.trans table⟩
  · intro runtime rt found elsewhere
    rcases exit_runtime found with ⟨old, was, ⟨-, rfl⟩ | ⟨other, rfl⟩⟩
    · refine ⟨rfl, rfl, ?_⟩
      rintro (body | calls)
      · cases body
      · exact calls rfl
    · refine sound.unloaded runtime rt was fun kept => elsewhere ?_
      simp only [Servers.exit, if_neg other]
      exact kept
  · rintro manager tableId ⟨runtime, kept, rt, found, active⟩
    rcases exit_tables kept with ⟨other, was⟩
    exact exit_inForce (sound.inForce manager tableId
        ⟨runtime, was, rt, still found active, active⟩) other
  · intro first second rt rt' found found' table active active'
    exact sound.one first second rt rt' (still found active)
      (still found' active') table active active'
  · intro request member
    rcases List.mem_map.mp member with ⟨old, was, rfl⟩
    split
    · exact names_threw
    · intro runtime named
      rcases sound.named old was runtime named with ⟨rt, found, own, table⟩
      rcases exit_runtime_of found with ⟨after, now, own', table'⟩
      exact ⟨after, now, own'.trans own, table'.trans table⟩

end Exit

/-! ## Steps -/

omit [DecidableEq ι] in
/-- A request is in the place that its step names. -/
theorem requestStep_eq_ok {index : Nat} {change : Request ι → Option (Servers ι)}
    (stepped : servers.requestStep index change = .ok after) :
    ∃ request, servers.requests[index]? = some request ∧ change request = some after := by
  rw [Servers.requestStep] at stepped
  cases bound : (servers.requests[index]?).bind change with
  | none =>
    rw [bound] at stepped
    cases stepped
  | some result =>
    rw [bound] at stepped
    cases stepped
    exact Option.bind_eq_some_iff.mp bound

omit [DecidableEq ι] in
theorem runtimeStep_eq_ok {runtime : Nat} {possible : TableRuntime ι → Bool}
    {change : TableRuntime ι → TableRuntime ι}
    (stepped : servers.runtimeStep runtime possible change = .ok after) :
    ∃ rt, servers.runtimes[runtime]? = some rt ∧ possible rt = true ∧
      after = servers.update runtime change := by
  rw [Servers.runtimeStep] at stepped
  split at stepped
  · rename_i any
    cases stepped
    rcases (Option.any_eq_true _ _).mp any with ⟨rt, found, holds⟩
    exact ⟨rt, found, holds, rfl⟩
  · cases stepped

/-- A runtime changes quietly, where that is possible. -/
theorem Servers.Sound.runtimeStep (sound : servers.Sound managers backend)
    {runtime : Nat} {possible : TableRuntime ι → Bool} {change : TableRuntime ι → TableRuntime ι}
    (stepped : servers.runtimeStep runtime possible change = .ok after)
    (manager : ∀ rt, (change rt).manager = rt.manager)
    (table : ∀ rt, (change rt).tableId = rt.tableId)
    (quiet : ∀ rt, possible rt = true → rt.Quiet (change rt)) :
    after.Sound managers backend := by
  rcases runtimeStep_eq_ok stepped with ⟨rt, found, holds, rfl⟩
  refine sound.update manager table fun rt' found' => ?_
  rw [found] at found'
  cases found'
  exact quiet rt holds

theorem Servers.Sound.getRuntime (sound : servers.Sound managers backend)
    (distinct : Function.Injective managers.actorInstanceId)
    {leaseWaitMs : ι → Int} {allowBrokenChain : Bool} :
    (servers.getRuntime managers backend leaseWaitMs manager tableId
      allowBrokenChain).Sound managers backend := by
  have called {progress : Progress}
      (named : Request.Names ⟨manager, tableId, allowBrokenChain, progress⟩ servers.runtimes) :
      ∀ request ∈ servers.requests ++ [⟨manager, tableId, allowBrokenChain, progress⟩],
        request.Names servers.runtimes := by
    intro request member
    rcases List.mem_append.mp member with old | new
    · exact sound.named request old
    · rw [List.mem_singleton.mp new]
      exact named
  rw [Servers.getRuntime]
  split
  · exact (sound.manage distinct (.acquire manager tableId (leaseWaitMs manager))
      fun _ _ => trivial).with_requests (called nofun)
  · rename_i runtime loaded
    split
    · exact (sound.manage distinct (.assertHeld manager tableId)
        fun _ _ => trivial).with_requests (called nofun)
    · refine (sound.manage distinct (.renew manager tableId)
        fun _ _ => trivial).with_requests (called ?_)
      rintro found ⟨⟩
      exact sound.placed manager tableId runtime loaded

theorem Servers.Sound.resumed (sound : servers.Sound managers backend)
    (distinct : Function.Injective managers.actorInstanceId)
    {index : Nat} {request : Request ι} {runtime : Nat} {renewed : Option LeaseRecord}
    (member : request ∈ servers.requests) (progress : request.progress = .renewed runtime renewed)
    (rest : request.progress.LostLease → servers.AtRest request.manager request.tableId) :
    (servers.resumed managers backend index request runtime renewed).Sound
      managers backend := by
  rw [progress] at rest
  cases renewed with
  | none =>
    exact (sound.unloadTable distinct (rest trivial)).advance names_threw
  | some lease =>
    have bound : (servers.update runtime fun rt =>
      rt.bindLease lease.actorInstanceId lease.leaseVersion).Sound
        managers backend :=
      sound.update (fun _ => rfl) (fun _ => rfl) fun rt _ => quiet_bindLease rt _ _
    refine bound.advance ?_
    rintro found ⟨⟩
    refine bound.named request member runtime ?_
    rw [progress]
    rfl

theorem Servers.Sound.serve (sound : servers.Sound managers backend)
    (distinct : Function.Injective managers.actorInstanceId)
    {index : Nat} {request : Request ι} {runtime : Nat}
    (orderly : assertHeldError servers.cluster request.manager request.tableId = none →
        servers.tables request.manager request.tableId = some runtime ∧
          servers.MayAct managers request.manager request.tableId) :
    (servers.serve managers backend index request runtime).Sound managers
      backend := by
  rw [Servers.serve]
  split
  · exact (sound.manage distinct (.assertHeld request.manager request.tableId)
      fun _ _ => trivial).advance names_threw
  · rename_i passed
    rcases orderly passed with ⟨loaded, mayAct⟩
    rcases sound.placed _ _ runtime loaded with ⟨rt, found, own, table⟩
    rw [← own, ← table] at loaded mayAct
    exact sound.beginCall distinct found loaded mayAct

theorem Servers.Sound.heartbeat (sound : servers.Sound managers backend)
    (distinct : Function.Injective managers.actorInstanceId) :
    (servers.heartbeat managers backend manager tableId).Sound managers
      backend := by
  rw [Servers.heartbeat]
  split
  · exact sound.with_requests sound.named
  · exact (sound.manage distinct (.renew manager tableId)
      fun _ _ => trivial).with_requests sound.named

theorem Servers.Sound.beaten (sound : servers.Sound managers backend)
    (distinct : Function.Injective managers.actorInstanceId)
    {index : Nat} {beat : Beat ι} {lease : Option LeaseRecord}
    (progress : beat.progress = .renewed lease)
    (rest : beat.progress.LostLease → servers.AtRest beat.manager beat.tableId) :
    (servers.beaten managers backend index beat lease).Sound managers
      backend := by
  have after :
      Servers.Sound managers backend
        { servers with
          beats := servers.beats.set index { beat with progress := .finished } } :=
    sound.with_requests sound.named
  rw [progress] at rest
  cases lease with
  | none => exact after.unloadTable distinct (rest trivial)
  | some lease => exact after

/-- What is stored is stored under a lease. -/
theorem Servers.Sound.store (sound : servers.Sound managers backend) {runtime : Nat}
    {rt : TableRuntime ι} (found : servers.runtimes[runtime]? = some rt) (storing : rt.Storing) :
    Servers.Sound managers backend
      { servers with
        stored :=
          servers.stored ++ [⟨runtime, servers.cluster.clock,
              servers.cluster.held rt.manager rt.tableId⟩] } := by
  refine ⟨sound.timed, sound.placed, sound.unloaded, sound.inForce, sound.one, sound.named, ?_⟩
  intro stored member
  rcases List.mem_append.mp member with old | new
  · exact sound.stored stored old
  · rw [List.mem_singleton.mp new]
    exact (sound.leased found storing).2

/-- Every orderly step keeps the invariant. -/
theorem Servers.Sound.step (sound : servers.Sound managers backend)
    (distinct : Function.Injective managers.actorInstanceId) {leaseWaitMs : ι → Int} {step : Step ι}
    (orderly : servers.Orderly managers backend step)
    (stepped : servers.step managers backend leaseWaitMs step = .ok after) :
    after.Sound managers backend := by
  cases step with
  | tick ms => exact sound.leaseStep distinct orderly stepped
  | carryOut operation => exact sound.leaseStep distinct orderly stepped
  | wake operation =>
    have spared : servers.Spared managers backend (.wake operation) := fun _ _ _ => trivial
    exact sound.leaseStep distinct spared stepped
  | keyExpiry tableId =>
    have spared : servers.Spared managers backend (.keyExpiry tableId) := fun _ _ _ => trivial
    exact sound.leaseStep distinct spared stepped
  | deliver operation =>
    rcases map_eq_ok_iff.mp stepped with ⟨between, delivered, rfl⟩
    exact (sound.leaseStep distinct orderly delivered).settle
  | fail operation message =>
    rcases map_eq_ok_iff.mp stepped with ⟨between, failed, rfl⟩
    exact (sound.leaseStep distinct orderly failed).settle
  | getRuntime manager tableId allowBrokenChain =>
    cases stepped
    exact sound.getRuntime distinct
  | loaded index ok issues =>
    rcases requestStep_eq_ok stepped with ⟨request, found, changed⟩
    have empty := orderly request found
    split at changed
    · cases changed
      exact sound.loaded distinct empty
    · cases changed
  | loadFails index message =>
    rcases requestStep_eq_ok stepped with ⟨request, found, changed⟩
    split at changed
    · cases changed
      exact (sound.release distinct request.manager request.tableId).advance names_threw
    · cases changed
  | resume index =>
    rcases requestStep_eq_ok stepped with ⟨request, found, changed⟩
    have rest := orderly request found
    split at changed
    · rename_i runtime renewed progress
      cases changed
      exact sound.resumed distinct (List.mem_of_getElem? found) progress rest
    · cases changed
  | serve index =>
    rcases requestStep_eq_ok stepped with ⟨request, found, changed⟩
    have mayServe := orderly request found
    split at changed
    · rename_i runtime progress
      cases changed
      rw [progress] at mayServe
      exact sound.serve distinct (mayServe runtime rfl)
    · cases changed
  | disconnectLeave runtime =>
    rcases runtimeStep_eq_ok stepped with ⟨rt, found, -, rfl⟩
    rcases orderly rt found with ⟨loaded, mayAct⟩
    exact sound.beginCall distinct found loaded mayAct
  | ensureLoop runtime =>
    refine sound.runtimeStep stepped (fun rt => ?_) (fun rt => ?_)
      fun rt calling => quiet_ensureLoop rt (bne_iff_ne.mp calling)
    · rw [TableRuntime.ensureLoop]
      split
      · rfl
      · split <;> rfl
    · rw [TableRuntime.ensureLoop]
      split
      · rfl
      · split <;> rfl
  | store runtime =>
    rw [Servers.step] at stepped
    cases found : servers.runtimes[runtime]? with
    | none =>
      rw [found] at stepped
      cases stepped
    | some rt =>
      rw [found] at stepped
      simp only at stepped
      split at stepped
      · rename_i storing
        cases stepped
        exact sound.store found storing
      · cases stepped
  | endCall runtime =>
    exact sound.runtimeStep stepped (fun _ => rfl) (fun _ => rfl)
      fun rt calling => quiet_endCall rt (bne_iff_ne.mp calling)
  | testLoop runtime loop =>
    refine sound.runtimeStep stepped (fun rt => ?_) (fun rt => ?_)
      fun rt waits => quiet_testLoop rt (beq_iff_eq.mp waits)
    · rw [TableRuntime.testLoop]
      split <;> rfl
    · rw [TableRuntime.testLoop]
      split <;> rfl
  | endRound runtime loop =>
    exact sound.runtimeStep stepped (fun _ => rfl) (fun _ => rfl)
      fun rt inside => quiet_endRound rt (beq_iff_eq.mp inside)
  | heartbeat manager tableId =>
    rw [Servers.step] at stepped
    split at stepped
    · cases stepped
      exact sound.heartbeat distinct
    · cases stepped
  | beatResumes index =>
    rw [Servers.step] at stepped
    cases found : servers.beats[index]? with
    | none =>
      rw [found] at stepped
      cases stepped
    | some beat =>
      have rest := orderly beat found
      rw [found] at stepped
      simp only at stepped
      split at stepped
      · rename_i lease progress
        cases stepped
        exact sound.beaten distinct progress rest
      · cases stepped
  | unloadTable manager tableId =>
    cases stepped
    exact sound.unloadTable distinct orderly
  | release manager tableId =>
    cases stepped
    exact sound.release distinct manager tableId
  | exit manager =>
    cases stepped
    exact sound.exit manager

/-! ## Runs -/

/-- Servers that have loaded nothing. -/
theorem sound_of_initial {leaseWaitMs : ι → Int}
    (initial : (serverRuns managers backend leaseWaitMs).initial servers) :
    servers.Sound managers backend := by
  rcases initial with ⟨clock, store, last, rfl⟩
  exact {
    timed := ⟨nofun, fun _ => last⟩
    placed := nofun
    unloaded := nofun
    inForce := by
      rintro manager tableId ⟨runtime, kept, -⟩
      cases kept
    one := nofun
    named := nofun
    stored := nofun }

/--
In every run of orderly steps at most one runtime of a table is active, calls
of `getRuntime` agree on it, and it stores only under its server's lease.
-/
theorem singleActor_of_orderly
    (distinct : Function.Injective managers.actorInstanceId)
    {leaseWaitMs : ι → Int}
    (reached :
      (serverRuns managers backend leaseWaitMs).Reachable
        (Servers.Orderly managers backend) servers) :
    servers.SingleActor := by
  have sound : servers.Sound managers backend := by
    refine reached.invariant ?_ ?_
    · intro state initial
      exact sound_of_initial initial
    · intro before step after sound orderly stepped
      exact sound.step distinct orderly stepped
  exact sound.singleActor

end Invariant

namespace Example

open Mozetto.Lease.Example

def unloaded : Servers Bool :=
  ⟨⟨1000, emptyStore, fun _ _ => none, []⟩, [], fun _ _ => none, fun _ _ => false, [], [], []⟩

/-- The second server takes a table over from the first. -/
def handOver : List (Step Bool) :=
  [.getRuntime false "table" false, .carryOut 0, .deliver 0,
    .loaded 0 true [], .store 0, .heartbeat false "table", .carryOut 1,
    .deliver 1, .beatResumes 0, .endRound 0 0, .unloadTable false "table",
    .testLoop 0 0, .carryOut 2, .getRuntime true "table" false, .carryOut 3,
    .deliver 3, .deliver 2, .loaded 1 true [], .store 1]

/-- Two calls find the table unloaded. -/
def twoLoads : List (Step Bool) :=
  [.getRuntime false "table" false, .getRuntime false "table" false,
    .carryOut 0, .carryOut 1, .deliver 0, .deliver 1, .loaded 0 true [], .loaded 1 true []]

/-- The first server unloads the table in the middle of a hand. -/
def unloadedInHand : List (Step Bool) :=
  [.getRuntime false "table" false, .carryOut 0, .deliver 0,
    .loaded 0 true [], .unloadTable false "table", .carryOut 1, .deliver 1,
    .getRuntime true "table" false, .carryOut 2, .deliver 2,
    .loaded 1 true [], .store 1, .store 0]

theorem unloaded_initial (backend : Backend) (leaseWaitMs : Bool → Int) :
    (serverRuns managers backend leaseWaitMs).initial unloaded := ⟨1000, emptyStore, nofun, rfl⟩

end Example

theorem singleActor_handOver :
    ∃ servers,
      (serverRuns Example.managers .redis fun _ => 30000).Reachable
          (Servers.Orderly Example.managers .redis) servers ∧
        servers.stored.map Stored.runtime = [0, 1] ∧
          servers.SingleActor := by
  have start :
      (serverRuns Example.managers .redis fun _ => 30000).Reachable
        (Servers.Orderly Example.managers .redis) Example.unloaded :=
    .start (Example.unloaded_initial _ _)
  have played :
      ((serverRuns Example.managers .redis fun _ => 30000).replay
        (Servers.Orderly Example.managers .redis) Example.unloaded
        Example.handOver).any (fun servers =>
          decide (servers.stored.map Stored.runtime = [0, 1])) = true := by
    decide +kernel
  rcases start.exists_replay played with ⟨servers, reached, observed⟩
  exact ⟨servers, reached, of_decide_eq_true observed,
    singleActor_of_orderly Example.distinct reached⟩

/-- Two calls each load a runtime, and both enter their loops. -/
theorem reachable_twoLoads : ∃ servers,
    (serverRuns Example.managers .redis fun _ => 30000).Reachable AnyCall servers ∧
      servers.requests.map Request.progress = [.returned 0, .returned 1] ∧
      servers.runtimes.map TableRuntime.tableId = ["table", "table"] ∧
      servers.runtimes.map TableRuntime.loops = [[.body], [.body]] := by
  have start : (serverRuns Example.managers .redis fun _ => 30000).Reachable AnyCall
      Example.unloaded :=
    .start (Example.unloaded_initial _ _)
  have played : ((serverRuns Example.managers .redis fun _ => 30000).replay AnyCall
      Example.unloaded Example.twoLoads).any (fun servers =>
        decide (servers.requests.map Request.progress = [.returned 0, .returned 1] ∧
            servers.runtimes.map TableRuntime.tableId =
                ["table", "table"] ∧
              servers.runtimes.map TableRuntime.loops = [[.body], [.body]])) = true := by
    decide +kernel
  rcases start.exists_replay played with ⟨servers, reached, observed⟩
  exact ⟨servers, reached, of_decide_eq_true observed⟩

/-- A runtime goes on to store after its server has released the lease. -/
theorem reachable_unloadedInHand : ∃ servers,
    (serverRuns Example.managers .redis fun _ => 30000).Reachable AnyCall servers ∧
      servers.stored.map Stored.runtime = [1, 0] ∧
      servers.stored.map (fun stored => stored.lease.isSome) = [true, false] := by
  have start : (serverRuns Example.managers .redis fun _ => 30000).Reachable AnyCall
      Example.unloaded :=
    .start (Example.unloaded_initial _ _)
  have played : ((serverRuns Example.managers .redis fun _ => 30000).replay AnyCall
      Example.unloaded Example.unloadedInHand).any (fun servers =>
        decide (servers.stored.map Stored.runtime = [1, 0] ∧
            servers.stored.map (fun stored => stored.lease.isSome) = [true, false])) = true := by
    decide +kernel
  rcases start.exists_replay played with ⟨servers, reached, observed⟩
  exact ⟨servers, reached, of_decide_eq_true observed⟩

/-- Two runs in which a table has two actors. -/
theorem exists_two_actors :
    (∃ servers,
      (serverRuns Example.managers .redis fun _ => 30000).Reachable AnyCall
          servers ∧
        servers.requests.map Request.progress =
          [.returned 0, .returned 1] ∧
        ¬ servers.SingleActor) ∧
      ∃ servers,
        (serverRuns Example.managers .redis fun _ => 30000).Reachable AnyCall
            servers ∧
          servers.stored.map Stored.runtime = [1, 0] ∧
          ¬ servers.SingleActor := by
  constructor
  · rcases reachable_twoLoads with
      ⟨servers, reached, returned, tables, loops⟩
    refine ⟨servers, reached, returned, fun single => ?_⟩
    rcases List.map_eq_cons_iff.mp tables with
      ⟨first, rest, two, table, tables'⟩
    rcases List.map_eq_singleton_iff.mp tables' with ⟨second, rfl, table'⟩
    rw [two] at loops
    injection loops with inside loops
    injection loops with inside' _
    have same :=
      single.one 0 1 first second (by rw [two]; rfl) (by rw [two]; rfl)
        (table.trans table'.symm)
        (.inl (by rw [inside]; nofun)) (.inl (by rw [inside']; nofun))
    cases same
  · rcases reachable_unloadedInHand with ⟨servers, reached, stored, leases⟩
    refine ⟨servers, reached, stored, fun single => ?_⟩
    rcases List.map_eq_cons_iff.mp leases with
      ⟨first, rest, two, -, leases'⟩
    rcases List.map_eq_singleton_iff.mp leases' with
      ⟨second, rfl, released⟩
    have member : second ∈ servers.stored := by
      rw [two]
      exact List.mem_cons_of_mem _ (List.mem_singleton_self second)
    rcases single.stored second member with ⟨lease, held, -⟩
    rw [show second.lease = some lease from held] at released
    cases released

end Mozetto.GameServer.Actors
