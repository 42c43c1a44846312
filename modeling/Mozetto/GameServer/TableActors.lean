import Mozetto.Lease.InForce

/-!
# Table actors

Any number of game servers over one lease backend.  A server loads a table's
runtime after it has acquired the table's lease, keeps it in its map `tables`
while a heartbeat renews the lease, and unloads it when the lease is lost, on
a failed renewal and at shutdown.  Between two awaits a server runs alone; the
awaits are the answers of the backend, the load of a runtime, the calls of a
runtime's methods, and the waits inside its loop.

A loop looks at `running` only before it begins a round.  Stopping a runtime
therefore leaves alone the round its loop is in, and the calls of its methods
that have not returned.
-/

namespace Mozetto.GameServer.Actors

open Mozetto.Lease
open Mozetto.Library.Mapping
open Mozetto.Library.TransitionSystem

/-! ## Runtimes -/

/-- Whether a loop is about to look at `running`, or inside a round. -/
inductive LoopAt where
  | test
  | body
deriving DecidableEq, Repr

/-- `stopped` says that `stopLoop` was called; nothing reads it. -/
structure TableRuntime (ι : Type) where
  manager : ι
  tableId : String
  durableChainOk : Bool
  leaseActorId : Option String
  leaseVersion : Option Nat
  running : Bool
  stopped : Bool
  loops : List LoopAt
  calls : Nat
deriving DecidableEq, Repr

namespace TableRuntime

variable {ι : Type}

def load (manager : ι) (tableId : String) (durableChainOk : Bool) : TableRuntime ι where
  manager := manager
  tableId := tableId
  durableChainOk := durableChainOk
  leaseActorId := none
  leaseVersion := none
  running := false
  stopped := false
  loops := []
  calls := 0

variable (runtime : TableRuntime ι)

def bindLease (actorInstanceId : String) (leaseVersion : Nat) : TableRuntime ι :=
  { runtime with
    leaseActorId := some actorInstanceId
    leaseVersion := some leaseVersion }

def clearLease : TableRuntime ι := { runtime with leaseActorId := none, leaseVersion := none }

/-- The loop runs up to its first await at once. -/
def ensureLoop : TableRuntime ι :=
  if runtime.durableChainOk = false then runtime
  else if runtime.running then runtime
  else { runtime with running := true, loops := runtime.loops ++ [.body] }

def stopLoop : TableRuntime ι := { runtime.clearLease with running := false, stopped := true }

/-- A loop wakes up before a round: it begins one, or returns. -/
def testLoop (loop : Nat) : TableRuntime ι :=
  if runtime.running then { runtime with loops := runtime.loops.set loop .body }
  else { runtime with loops := runtime.loops.eraseIdx loop }

def endRound (loop : Nat) : TableRuntime ι := { runtime with loops := runtime.loops.set loop .test }

def beginCall : TableRuntime ι := { runtime with calls := runtime.calls + 1 }

def endCall : TableRuntime ι := { runtime with calls := runtime.calls - 1 }

/-- Its process ends. -/
def halt : TableRuntime ι := { runtime.stopLoop with loops := [], calls := 0 }

/-- Inside its loop, or inside a call of one of its methods. -/
def Active : Prop := runtime.loops ≠ [] ∨ runtime.calls ≠ 0

/-- Where events and stacks may be stored. -/
def Storing : Prop := .body ∈ runtime.loops ∨ runtime.calls ≠ 0

instance : Decidable runtime.Active := inferInstanceAs (Decidable (_ ∨ _))

instance : Decidable runtime.Storing := inferInstanceAs (Decidable (_ ∨ _))

end TableRuntime

/-! ## Servers -/

/-- How far a call of `getRuntime` is. -/
inductive Progress where
  | acquiring (operation : Nat)
  | loading (lease : LeaseRecord)
  | renewing (runtime operation : Nat)
  | renewed (runtime : Nat) (lease : Option LeaseRecord)
  | returned (runtime : Nat)
  | threw (message : String)
deriving DecidableEq, Repr

structure Request (ι : Type) where
  manager : ι
  tableId : String
  allowBrokenChain : Bool
  progress : Progress
deriving DecidableEq, Repr

/-- How far a beat of a heartbeat is. -/
inductive BeatProgress where
  | renewing (operation : Nat)
  | renewed (lease : Option LeaseRecord)
  | finished
deriving DecidableEq, Repr

structure Beat (ι : Type) where
  manager : ι
  tableId : String
  progress : BeatProgress
deriving DecidableEq, Repr

/-- What a runtime stored, with its server's copy of the lease at the time. -/
structure Stored where
  runtime : Nat
  storedAt : Int
  lease : Option LeaseRecord
deriving DecidableEq, Repr

/-- All runtimes that were ever loaded stand in `runtimes`. -/
structure Servers (ι : Type) where
  cluster : Cluster ι
  runtimes : List (TableRuntime ι)
  tables : ι → String → Option Nat
  heartbeats : ι → String → Bool
  requests : List (Request ι)
  beats : List (Beat ι)
  stored : List Stored

/-! ## Promises -/

section Promises

variable {ι : Type}

/-- What an operation's promise settles to as its answer arrives. -/
def settled (operation : Operation ι) (clock : Int) : Option (Except String (Option LeaseRecord)) :=
  match operation.kind, operation.stage with
  | .acquire _, .answered (.acquired (.ok lease _)) => some (.ok (some lease))
  | .acquire deadline, .answered (.acquired (.fail reason _)) =>
    if reason = .storeUnavailable then
      some (.error "table_lease_store_unavailable")
    else if deadline ≤ clock then some (.ok none)
    else none
  | .renew _, .answered (.acquired (.ok lease _)) => some (.ok (some lease))
  | .renew _, .answered _ => some (.ok none)
  | _, _ => none

def Progress.settle (operation : Nat) (outcome : Except String (Option LeaseRecord))
    (progress : Progress) : Progress :=
  match progress with
  | .acquiring awaited =>
    if awaited = operation then
      match outcome with
      | .ok (some lease) => .loading lease
      | .ok none => .threw "table_lease_held_by_another_replica"
      | .error message => .threw message
    else progress
  | .renewing runtime awaited =>
    if awaited = operation then
      match outcome with
      | .ok lease => .renewed runtime lease
      | .error message => .threw message
    else progress
  | _ => progress

/-- A beat whose renewal throws is rejected, and nobody looks. -/
def BeatProgress.settle (operation : Nat) (outcome : Except String (Option LeaseRecord))
    (progress : BeatProgress) : BeatProgress :=
  match progress with
  | .renewing awaited =>
    if awaited = operation then
      match outcome with
      | .ok lease => .renewed lease
      | .error _ => .finished
    else progress
  | _ => progress

variable (servers : Servers ι)

/-- Whoever awaits an operation learns how it ended. -/
def Servers.settle (operation : Nat) (outcome : Option (Except String (Option LeaseRecord))) :
    Servers ι :=
  match outcome with
  | none => servers
  | some outcome =>
    { servers with
      requests := servers.requests.map fun request =>
        { request with
          progress := request.progress.settle operation outcome }
      beats := servers.beats.map fun beat =>
        { beat with progress := beat.progress.settle operation outcome } }

def Servers.update (runtime : Nat) (change : TableRuntime ι → TableRuntime ι) : Servers ι :=
  { servers with runtimes := servers.runtimes.modify runtime change }

def Servers.advance (index : Nat) (request : Request ι) (progress : Progress) : Servers ι :=
  { servers with
    requests := servers.requests.set index { request with progress := progress } }

/-- Why `assertHeld` throws. -/
def assertHeldError (cluster : Cluster ι) (manager : ι) (tableId : String) :
    Option String :=
  match cluster.held manager tableId with
  | none => some "table_lease_not_held"
  | some lease =>
    if lease.expiresAt ≤ cluster.clock then some "table_lease_expired"
    else none

end Promises

/-! ## Steps -/

section Steps

variable {ι : Type} [DecidableEq ι]
variable (managers : Managers ι) (backend : Backend) (leaseWaitMs : ι → Int)

/-- The lease manager is called, which is always possible. -/
def callManager (cluster : Cluster ι) (action : Action ι) : Cluster ι :=
  (cluster.perform managers backend action).toOption.getD cluster

variable (servers : Servers ι)

def Servers.manage (action : Action ι) : Servers ι :=
  { servers with cluster := callManager managers backend servers.cluster action }

/-- The part of `unloadTable` before its await. -/
def Servers.unloadTable (manager : ι) (tableId : String) : Servers ι :=
  let stopped :=
    match servers.tables manager tableId with
    | none => servers
    | some runtime =>
      { servers.update runtime TableRuntime.stopLoop with
        tables := write₂ servers.tables manager tableId none }
  { stopped.manage managers backend (.release manager tableId) with
    heartbeats := write₂ servers.heartbeats manager tableId false }

/-- `getRuntime` up to its first await. -/
def Servers.getRuntime (manager : ι) (tableId : String) (allowBrokenChain : Bool) : Servers ι :=
  let called (progress : Progress) : List (Request ι) :=
    servers.requests ++ [⟨manager, tableId, allowBrokenChain, progress⟩]
  let operation := servers.cluster.operations.length
  match servers.tables manager tableId with
  | none =>
    { servers.manage managers backend (.acquire manager tableId (leaseWaitMs manager)) with
      requests := called (.acquiring operation) }
  | some runtime =>
    match assertHeldError servers.cluster manager tableId with
    | some message =>
      { servers.manage managers backend (.assertHeld manager tableId) with
        requests := called (.threw message) }
    | none =>
      { servers.manage managers backend (.renew manager tableId) with
        requests := called (.renewing runtime operation) }

def brokenChain (issues : List String) : String :=
  let listed := "; ".intercalate issues
  "table_durable_chain_broken: " ++ if listed = "" then "unknown" else listed

/-- `getRuntime` after `TableRuntime.load` has returned. -/
def Servers.loaded (index : Nat) (request : Request ι) (lease : LeaseRecord)
    (durableChainOk : Bool) (durableChainIssues : List String) : Servers ι :=
  let manager := request.manager
  let tableId := request.tableId
  let runtime := servers.runtimes.length
  if durableChainOk || request.allowBrokenChain then
    { servers.advance index request (.returned runtime) with
      runtimes :=
        servers.runtimes ++ [((TableRuntime.load manager tableId durableChainOk).bindLease
            lease.actorInstanceId lease.leaseVersion).ensureLoop]
      tables := write₂ servers.tables manager tableId (some runtime)
      heartbeats := write₂ servers.heartbeats manager tableId true }
  else
    (servers.manage managers backend (.release manager tableId)).advance
      index request (.threw (brokenChain durableChainIssues))

/-- `getRuntime` after a renewal. -/
def Servers.resumed (index : Nat) (request : Request ι) (runtime : Nat)
    (renewed : Option LeaseRecord) : Servers ι :=
  match renewed with
  | none =>
    (servers.unloadTable managers backend request.manager
      request.tableId).advance index request (.threw "table_lease_lost")
  | some lease =>
    (servers.update runtime fun rt =>
      rt.bindLease lease.actorInstanceId lease.leaseVersion).advance
      index request (.returned runtime)

/-- A handler checks the lease and calls a method of its runtime. -/
def Servers.serve (index : Nat) (request : Request ι) (runtime : Nat) : Servers ι :=
  match assertHeldError servers.cluster request.manager request.tableId with
  | some message =>
    (servers.manage managers backend
      (.assertHeld request.manager request.tableId)).advance index request (.threw message)
  | none => servers.update runtime TableRuntime.beginCall

/-- The timer of a heartbeat fires. -/
def Servers.heartbeat (manager : ι) (tableId : String) : Servers ι :=
  let begun (progress : BeatProgress) : List (Beat ι) :=
    servers.beats ++ [⟨manager, tableId, progress⟩]
  match servers.cluster.held manager tableId with
  | none => { servers with beats := begun (.renewed none) }
  | some _ =>
    { servers.manage managers backend (.renew manager tableId) with
      beats := begun (.renewing servers.cluster.operations.length) }

/-- A beat goes on after its renewal; without a lease the table is unloaded. -/
def Servers.beaten (index : Nat) (beat : Beat ι) (lease : Option LeaseRecord) : Servers ι :=
  let after : Servers ι :=
    { servers with
      beats := servers.beats.set index { beat with progress := .finished } }
  match lease with
  | none => after.unloadTable managers backend beat.manager beat.tableId
  | some _ => after

/-- A server's process ends, with everything it has in memory. -/
def Servers.exit (manager : ι) : Servers ι :=
  { servers with
    cluster :=
      { servers.cluster with
        held := fun other =>
          if other = manager then fun _ => none
          else servers.cluster.held other }
    runtimes :=
      servers.runtimes.map fun runtime =>
        if runtime.manager = manager then runtime.halt else runtime
    tables := fun other =>
      if other = manager then fun _ => none else servers.tables other
    heartbeats := fun other =>
      if other = manager then fun _ => false else servers.heartbeats other
    requests :=
      servers.requests.map fun request =>
        if request.manager = manager then
          { request with progress := .threw "exit" }
        else request
    beats :=
      servers.beats.map fun beat =>
        if beat.manager = manager then { beat with progress := .finished }
        else beat }

inductive Step (ι : Type) where
  | tick (ms : Nat)
  | carryOut (operation : Nat)
  | deliver (operation : Nat)
  | wake (operation : Nat)
  | fail (operation : Nat) (message : String)
  | keyExpiry (tableId : String)
  | getRuntime (manager : ι) (tableId : String) (allowBrokenChain : Bool)
  | loaded (request : Nat) (durableChainOk : Bool) (durableChainIssues : List String)
  | loadFails (request : Nat) (message : String)
  | resume (request : Nat)
  | serve (request : Nat)
  | disconnectLeave (runtime : Nat)
  | ensureLoop (runtime : Nat)
  | store (runtime : Nat)
  | endCall (runtime : Nat)
  | testLoop (runtime loop : Nat)
  | endRound (runtime loop : Nat)
  | heartbeat (manager : ι) (tableId : String)
  | beatResumes (beat : Nat)
  | unloadTable (manager : ι) (tableId : String)
  | release (manager : ι) (tableId : String)
  | exit (manager : ι)
deriving DecidableEq, Repr

/-- A step of the lease backend, or of the clock. -/
def Servers.leaseStep (action : Action ι) : Except String (Servers ι) :=
  (servers.cluster.perform managers backend action).map fun cluster =>
    { servers with cluster := cluster }

/-- A step of a runtime that is possible in some states only. -/
def Servers.runtimeStep (runtime : Nat) (possible : TableRuntime ι → Bool)
    (change : TableRuntime ι → TableRuntime ι) : Except String (Servers ι) :=
  if (servers.runtimes[runtime]?).any possible then
    .ok (servers.update runtime change)
  else .error "not possible"

def Servers.requestStep (index : Nat) (change : Request ι → Option (Servers ι)) :
    Except String (Servers ι) :=
  match (servers.requests[index]?).bind change with
  | some after => .ok after
  | none => .error "not possible"

def Servers.step (servers : Servers ι) : Step ι → Except String (Servers ι)
  | .tick ms => servers.leaseStep managers backend (.tick ms)
  | .carryOut operation =>
    servers.leaseStep managers backend (.carryOut operation)
  | .deliver operation =>
    (servers.leaseStep managers backend (.deliver operation)).map fun after =>
      after.settle operation ((servers.cluster.operations[operation]?).bind fun found =>
        settled found servers.cluster.clock)
  | .wake operation => servers.leaseStep managers backend (.wake operation)
  | .fail operation message =>
    (servers.leaseStep managers backend (.fail operation)).map fun after =>
      after.settle operation (some (.error message))
  | .keyExpiry tableId =>
    servers.leaseStep managers backend (.keyExpiry tableId)
  | .getRuntime manager tableId allowBrokenChain =>
    .ok (servers.getRuntime managers backend leaseWaitMs manager tableId allowBrokenChain)
  | .loaded index durableChainOk durableChainIssues =>
    servers.requestStep index fun request =>
      match request.progress with
      | .loading lease =>
        some (servers.loaded managers backend index request lease
          durableChainOk durableChainIssues)
      | _ => none
  | .loadFails index message =>
    servers.requestStep index fun request =>
      match request.progress with
      | .loading _ =>
        some ((servers.manage managers backend
          (.release request.manager request.tableId)).advance index request (.threw message))
      | _ => none
  | .resume index =>
    servers.requestStep index fun request =>
      match request.progress with
      | .renewed runtime lease =>
        some (servers.resumed managers backend index request runtime lease)
      | _ => none
  | .serve index =>
    servers.requestStep index fun request =>
      match request.progress with
      | .returned runtime =>
        some (servers.serve managers backend index request runtime)
      | _ => none
  | .disconnectLeave runtime =>
    servers.runtimeStep runtime (fun _ => true) TableRuntime.beginCall
  | .ensureLoop runtime =>
    servers.runtimeStep runtime (fun rt => rt.calls != 0) TableRuntime.ensureLoop
  | .store runtime =>
    match servers.runtimes[runtime]? with
    | none => .error "no such runtime"
    | some rt =>
      if rt.Storing then
        .ok { servers with
          stored :=
            servers.stored ++ [⟨runtime, servers.cluster.clock,
                servers.cluster.held rt.manager rt.tableId⟩] }
      else .error "not possible"
  | .endCall runtime =>
    servers.runtimeStep runtime (fun rt => rt.calls != 0) TableRuntime.endCall
  | .testLoop runtime loop =>
    servers.runtimeStep runtime (fun rt => rt.loops[loop]? == some .test)
      fun rt => rt.testLoop loop
  | .endRound runtime loop =>
    servers.runtimeStep runtime (fun rt => rt.loops[loop]? == some .body)
      fun rt => rt.endRound loop
  | .heartbeat manager tableId =>
    if servers.heartbeats manager tableId then
      .ok (servers.heartbeat managers backend manager tableId)
    else .error "no timer"
  | .beatResumes index =>
    match servers.beats[index]? with
    | none => .error "no such beat"
    | some beat =>
      match beat.progress with
      | .renewed lease =>
        .ok (servers.beaten managers backend index beat lease)
      | _ => .error "not renewed"
  | .unloadTable manager tableId =>
    .ok (servers.unloadTable managers backend manager tableId)
  | .release manager tableId =>
    .ok (servers.manage managers backend (.release manager tableId))
  | .exit manager => .ok (servers.exit manager)

/-- All runs of the servers, which have loaded nothing at first. -/
def serverRuns : System (Servers ι) (Step ι) String where
  initial := fun servers =>
    ∃ clock store, store.KeysLast ∧ servers =
        ⟨⟨clock, store, fun _ _ => none, []⟩, [], fun _ _ => none, fun _ _ => false, [], [], []⟩
  step := Servers.step managers backend leaseWaitMs

end Steps

end Mozetto.GameServer.Actors

/-!
## Orderly runs of table actors

What one actor for each table means, and the steps under which it lasts: no
lease goes out of force under an active runtime, a load that ends finds its
table still unloaded, and a table is unloaded while its runtime stores
nothing.  None of this is checked by the servers, whose runtimes store without
a fencing token.
-/

namespace Mozetto.GameServer.Actors

open Mozetto.Lease

/-! ### The law -/

section Law

variable {ι : Type}

def Progress.returned? : Progress → Option Nat
  | .returned runtime => some runtime
  | _ => none

def Progress.LostLease : Progress → Prop
  | .renewed _ none => True
  | _ => False

def BeatProgress.LostLease : BeatProgress → Prop
  | .renewed none => True
  | _ => False

/-- The copy of the lease had not expired. -/
def Stored.InLease (stored : Stored) : Prop :=
  ∃ lease ∈ stored.lease, stored.storedAt < lease.expiresAt

/--
At most one runtime of each table is active; what two calls of `getRuntime`
return to one server for one table is one runtime, unless one of them has
been stopped since; a runtime that may store stands in its server's map and
has a live lease, and so had every one that did.
-/
structure Servers.SingleActor (servers : Servers ι) : Prop where
  one : ∀ (first second : Nat) rt rt', servers.runtimes[first]? = some rt →
        servers.runtimes[second]? = some rt' → rt.tableId = rt'.tableId →
          rt.Active → rt'.Active → first = second
  same : ∀ request ∈ servers.requests, ∀ request' ∈ servers.requests,
      request.manager = request'.manager → request.tableId = request'.tableId →
          ∀ first ∈ request.progress.returned?, ∀ second ∈ request'.progress.returned?,
              ∀ rt ∈ servers.runtimes[first]?, ∀ rt' ∈ servers.runtimes[second]?,
                  rt.stopped = false → rt'.stopped = false → first = second
  leased : ∀ (runtime : Nat) rt, servers.runtimes[runtime]? = some rt → rt.Storing →
        servers.tables rt.manager rt.tableId = some runtime ∧
          servers.cluster.AssertHeldSucceeds rt.manager rt.tableId
  stored : ∀ stored ∈ servers.stored, stored.InLease

end Law

/-! ### Runs that keep it -/

section Conditions

variable {ι : Type} [DecidableEq ι]
variable (managers : Managers ι) (backend : Backend)
variable (servers : Servers ι)

/-- The server's map has a runtime for the table that is active. -/
def Servers.Serves (manager : ι) (tableId : String) : Prop :=
  ∃ runtime ∈ servers.tables manager tableId, ∃ rt ∈ servers.runtimes[runtime]?, rt.Active

/-- No runtime that was unloaded is still in its loop. -/
def Servers.NoneLeaving (tableId : String) : Prop :=
  ∀ runtime < servers.runtimes.length,
    ∀ rt ∈ servers.runtimes[runtime]?, rt.tableId = tableId → rt.Active →
      servers.tables rt.manager tableId = some runtime

/-- The server may let its runtime act. -/
def Servers.MayAct (manager : ι) (tableId : String) : Prop :=
  servers.cluster.InForce managers manager tableId ∧ servers.NoneLeaving tableId

/-- The table's runtime may be stopped: it is not where it could store. -/
def Servers.AtRest (manager : ι) (tableId : String) : Prop :=
  ∀ runtime ∈ servers.tables manager tableId, ∀ rt ∈ servers.runtimes[runtime]?, ¬ rt.Storing

/-- No lease that an active runtime relies on goes out of force. -/
def Servers.Spared (action : Action ι) : Prop :=
  ∀ rt ∈ servers.runtimes, servers.Serves rt.manager rt.tableId →
    servers.cluster.Spares managers backend rt.manager rt.tableId action

/-- The steps that the law rests on. -/
def Servers.Orderly : Step ι → Prop
  | .tick ms => servers.Spared managers backend (.tick ms)
  | .carryOut operation =>
    servers.Spared managers backend (.carryOut operation)
  | .deliver operation => servers.Spared managers backend (.deliver operation)
  | .fail operation _ => servers.Spared managers backend (.fail operation)
  | .loaded index durableChainOk _ =>
    ∀ request ∈ servers.requests[index]?, (durableChainOk || request.allowBrokenChain) = true →
        servers.tables request.manager request.tableId = none ∧ (durableChainOk = true →
            servers.MayAct managers request.manager request.tableId)
  | .resume index =>
    ∀ request ∈ servers.requests[index]?, request.progress.LostLease →
      servers.AtRest request.manager request.tableId
  | .serve index =>
    ∀ request ∈ servers.requests[index]?, ∀ runtime ∈ request.progress.returned?,
        assertHeldError servers.cluster request.manager request.tableId = none →
          servers.tables request.manager request.tableId = some runtime ∧
            servers.MayAct managers request.manager request.tableId
  | .disconnectLeave runtime =>
    ∀ rt ∈ servers.runtimes[runtime]?, servers.tables rt.manager rt.tableId = some runtime ∧
        servers.MayAct managers rt.manager rt.tableId
  | .beatResumes index =>
    ∀ beat ∈ servers.beats[index]?, beat.progress.LostLease →
      servers.AtRest beat.manager beat.tableId
  | .unloadTable manager tableId => servers.AtRest manager tableId
  | _ => True

section Decidable

variable [Fintype ι]

instance (manager : ι) (tableId : String) : Decidable (servers.Serves manager tableId) :=
  inferInstanceAs (Decidable (∃ runtime ∈ servers.tables manager tableId,
    ∃ rt ∈ servers.runtimes[runtime]?, rt.Active))

instance (tableId : String) : Decidable (servers.NoneLeaving tableId) :=
  inferInstanceAs (Decidable (∀ runtime < servers.runtimes.length,
    ∀ rt ∈ servers.runtimes[runtime]?, rt.tableId = tableId → rt.Active →
      servers.tables rt.manager tableId = some runtime))

instance (manager : ι) (tableId : String) : Decidable (servers.MayAct managers manager tableId) :=
  inferInstanceAs (Decidable (_ ∧ _))

instance (manager : ι) (tableId : String) : Decidable (servers.AtRest manager tableId) :=
  inferInstanceAs (Decidable (∀ runtime ∈ servers.tables manager tableId,
    ∀ rt ∈ servers.runtimes[runtime]?, ¬ rt.Storing))

instance (action : Action ι) : Decidable (servers.Spared managers backend action) :=
  inferInstanceAs (Decidable (∀ rt ∈ servers.runtimes, servers.Serves rt.manager rt.tableId →
      servers.cluster.Spares managers backend rt.manager rt.tableId action))

omit [DecidableEq ι] [Fintype ι] in
instance (progress : Progress) : Decidable progress.LostLease :=
  match progress with
  | .renewed _ none => isTrue trivial
  | .renewed _ (some _) => isFalse nofun
  | .acquiring _ => isFalse nofun
  | .loading _ => isFalse nofun
  | .renewing _ _ => isFalse nofun
  | .returned _ => isFalse nofun
  | .threw _ => isFalse nofun

omit [DecidableEq ι] [Fintype ι] in
instance (progress : BeatProgress) : Decidable progress.LostLease :=
  match progress with
  | .renewed none => isTrue trivial
  | .renewed (some _) => isFalse nofun
  | .renewing _ => isFalse nofun
  | .finished => isFalse nofun

instance (step : Step ι) : Decidable (servers.Orderly managers backend step) :=
  match step with
  | .tick ms =>
    inferInstanceAs (Decidable (servers.Spared managers backend (.tick ms)))
  | .carryOut operation =>
    inferInstanceAs (Decidable (servers.Spared managers backend (.carryOut operation)))
  | .deliver operation =>
    inferInstanceAs (Decidable (servers.Spared managers backend (.deliver operation)))
  | .fail operation _ =>
    inferInstanceAs (Decidable (servers.Spared managers backend (.fail operation)))
  | .loaded index durableChainOk _ =>
    inferInstanceAs (Decidable (∀ request ∈ servers.requests[index]?,
      (durableChainOk || request.allowBrokenChain) = true →
        servers.tables request.manager request.tableId = none ∧ (durableChainOk = true →
            servers.MayAct managers request.manager request.tableId)))
  | .resume index =>
    inferInstanceAs (Decidable (∀ request ∈ servers.requests[index]?, request.progress.LostLease →
        servers.AtRest request.manager request.tableId))
  | .serve index =>
    inferInstanceAs (Decidable (∀ request ∈ servers.requests[index]?,
      ∀ runtime ∈ request.progress.returned?,
        assertHeldError servers.cluster request.manager request.tableId = none →
          servers.tables request.manager request.tableId = some runtime ∧
            servers.MayAct managers request.manager request.tableId))
  | .disconnectLeave runtime =>
    inferInstanceAs (Decidable (∀ rt ∈ servers.runtimes[runtime]?,
      servers.tables rt.manager rt.tableId = some runtime ∧
        servers.MayAct managers rt.manager rt.tableId))
  | .beatResumes index =>
    inferInstanceAs (Decidable (∀ beat ∈ servers.beats[index]?, beat.progress.LostLease →
        servers.AtRest beat.manager beat.tableId))
  | .unloadTable manager tableId =>
    inferInstanceAs (Decidable (servers.AtRest manager tableId))
  | .wake _ => isTrue trivial
  | .keyExpiry _ => isTrue trivial
  | .getRuntime _ _ _ => isTrue trivial
  | .loadFails _ _ => isTrue trivial
  | .ensureLoop _ => isTrue trivial
  | .store _ => isTrue trivial
  | .endCall _ => isTrue trivial
  | .testLoop _ _ => isTrue trivial
  | .endRound _ _ => isTrue trivial
  | .heartbeat _ _ => isTrue trivial
  | .release _ _ => isTrue trivial
  | .exit _ => isTrue trivial

end Decidable

end Conditions

end Mozetto.GameServer.Actors
