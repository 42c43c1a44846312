import Mathlib.Data.List.Infix
import Mozetto.Library.Interleaving
import Mozetto.Replay.Attestations

/-!
# What operators set on a session

The row that a session has in `admin_session_ops`, the incidents and the audit
rows beside it, and `mutateSessionOps` as a program that issues its statements
one after the other.  The rows are those of one session; a statement that
fails leaves them as they are.
-/

namespace Mozetto.Database

open Mozetto.Library.Interleaving
open Mozetto.Library.TransitionSystem

inductive SessionOpsAction where
  | pauseAfterHand
  | clearPauseAfterHand
  | markUnderReview
  | clearUnderReview
  | requestReplay
  | clearReplay
  | drainTable
  | clearDrainTable
  | resume
deriving DecidableEq, Repr

def SessionOpsAction.text : SessionOpsAction → String
  | .pauseAfterHand => "pause_after_hand"
  | .clearPauseAfterHand => "clear_pause_after_hand"
  | .markUnderReview => "mark_under_review"
  | .clearUnderReview => "clear_under_review"
  | .requestReplay => "request_replay"
  | .clearReplay => "clear_replay"
  | .drainTable => "drain_table"
  | .clearDrainTable => "clear_drain_table"
  | .resume => "resume"

structure SessionOpsFlags where
  pauseAfterHand : Bool
  underReview : Bool
  replayRequested : Bool
  disableNewSeats : Bool
deriving DecidableEq, Repr

structure AdminSessionOps extends SessionOpsFlags where
  sessionId : String
  notes : Option String
  updatedAt : Nat
  updatedBy : Option String
deriving DecidableEq, Repr

/-- The flags of a row, none of them set where there is no row. -/
def baseFlags (current : Option AdminSessionOps) : SessionOpsFlags :=
  current.elim ⟨false, false, false, false⟩ (·.toSessionOpsFlags)

def applySessionOpsAction (current : Option AdminSessionOps) : SessionOpsAction → SessionOpsFlags
  | .pauseAfterHand => { baseFlags current with pauseAfterHand := true }
  | .clearPauseAfterHand => { baseFlags current with pauseAfterHand := false }
  | .markUnderReview => { baseFlags current with underReview := true }
  | .clearUnderReview => { baseFlags current with underReview := false }
  | .requestReplay => { baseFlags current with replayRequested := true }
  | .clearReplay => { baseFlags current with replayRequested := false }
  | .drainTable =>
      { baseFlags current with pauseAfterHand := true, disableNewSeats := true }
  | .clearDrainTable => { baseFlags current with disableNewSeats := false }
  | .resume =>
      { baseFlags current with
        pauseAfterHand := false, disableNewSeats := false }

/-- A row of `admin_actions`. -/
structure AdminAction where
  adminId : Option String
  role : String
  action : String
  reason : Option String
  previousState : Option AdminSessionOps
  newState : Option AdminSessionOps
  requestId : Option String
  safeTxId : Option String
  actorLabel : Option String
  entityType : Option String
  entityId : Option String
  capability : Option String
  ip : Option String
  userAgent : Option String
deriving DecidableEq, Repr

/-! ## Incidents -/

structure SecurityIncident where
  id : String
  status : String
  severity : Option String
  autoSourceKey : Option String
  detail : Option String
  summary : Option String
  title : Option String
deriving DecidableEq, Repr

/-- `like '%' || session || '%'`: a session id has no wildcards. -/
def mentions (sessionId : String) (text : Option String) : Bool :=
  sessionId.toList <:+: (text.getD "").toList

namespace SecurityIncident

variable (sessionId : String) (incident : SecurityIncident)

def isOpen : Bool :=
  ["open", "acknowledged", "investigating"].contains incident.status

def isSevere : Bool :=
  ["critical", "high", "sev1", "sev2"].contains
    (incident.severity.getD "").toLower

/-- An open critical or high incident of the session. -/
def blocksResume : Bool :=
  incident.isOpen && incident.isSevere && (mentions sessionId incident.autoSourceKey ||
      mentions sessionId incident.detail ||
        mentions sessionId incident.summary ||
          mentions sessionId incident.title)

end SecurityIncident

/-- The incidents for which a session is not resumed. -/
def openIncidents (sessionId : String) (incidents : List SecurityIncident) :
    List SecurityIncident :=
  incidents.filter (·.blocksResume sessionId)

/-- What other code does to the incidents. -/
inductive IncidentChange where
  | inserted (incident : SecurityIncident)
  | updated (incident : SecurityIncident)
deriving DecidableEq

def IncidentChange.apply (incidents : List SecurityIncident) :
    IncidentChange → List SecurityIncident
  | .inserted incident => incidents ++ [incident]
  | .updated incident =>
      incidents.map fun row => if row.id = incident.id then incident else row

/-! ## Statements -/

/-- The rows that concern one session. -/
structure SessionOpsDb where
  sessionExists : Bool
  ops : Option AdminSessionOps
  incidents : List SecurityIncident
  adminActions : List AdminAction

inductive SessionOpsStatement where
  | selectSession
  | selectOps
  | selectIncident
  | upsertOps (flags : SessionOpsFlags) (notes updatedBy : Option String)
  | insertAction (action : AdminAction)
  | changeIncidents (change : IncidentChange)

/-- The rows that a statement returns; an id is a `uuid`. -/
def SessionOpsReply : SessionOpsStatement → Type
  | .selectSession => Bool
  | .selectOps => Option AdminSessionOps
  | .selectIncident => Option String
  | .upsertOps _ _ _ => AdminSessionOps
  | .insertAction _ => Nat
  | .changeIncidents _ => Unit

/-- A statement fails, or is executed at a time and may draw an id. -/
inductive SessionOpsChoice where
  | fails
  | executed (now uuid : Nat)

section Session

variable (sessionId : String)

def upsertedOps (flags : SessionOpsFlags) (notes updatedBy : Option String) (now : Nat) :
    AdminSessionOps where
  toSessionOpsFlags := flags
  sessionId := sessionId
  notes := notes
  updatedAt := now
  updatedBy := updatedBy

def SessionOpsDb.execute (db : SessionOpsDb) (now uuid : Nat) : (statement : SessionOpsStatement) →
    SessionOpsDb × SessionOpsReply statement
  | .selectSession => (db, db.sessionExists)
  | .selectOps => (db, db.ops)
  | .selectIncident =>
      (db, (openIncidents sessionId db.incidents).head?.map (·.id))
  | .upsertOps flags notes updatedBy =>
      ({ db with ops := some (upsertedOps sessionId flags notes updatedBy now) },
        upsertedOps sessionId flags notes updatedBy now)
  | .insertAction action =>
      ({ db with adminActions := action :: db.adminActions }, uuid)
  | .changeIncidents change =>
      ({ db with incidents := change.apply db.incidents }, ())

/-! ## `mutateSessionOps` -/

open SessionOpsStatement

abbrev SessionOpsProgram := Program SessionOpsStatement SessionOpsReply

/-- What is thrown: a message, or what a statement that failed throws. -/
abbrev Thrown := Option String

structure MutateSessionOpsInput where
  action : SessionOpsAction
  reason : String
  role : String
  actorLabel : Option String
  requestId : Option String
  ip : Option String
  userAgent : Option String
deriving DecidableEq

structure MutatedSessionOps where
  ops : AdminSessionOps
  auditId : Nat

/-- Failing to read the incidents counts as there being none. -/
def assertNoIncident : SessionOpsProgram (Except Thrown Unit) := do
  let incident ← Program.query selectIncident
  if incident.join.isSome then
    return .error (some "resume_blocked_open_incident")
  else return .ok ()

/-- `assertSessionResumeSafe` with what it has read of the row. -/
def assertReviewed : Option (Option AdminSessionOps) → SessionOpsProgram (Except Thrown Unit)
  | none => return .error none
  | some ops =>
      if ops.any (·.underReview) then
        return .error (some "resume_blocked_under_review")
      else assertNoIncident

def assertSessionResumeSafe : SessionOpsProgram (Except Thrown Unit) := do
  let ops ← Program.query selectOps
  assertReviewed ops

namespace MutateSessionOpsInput

variable (input : MutateSessionOpsInput)

def trimmedReason : String := String.ofList (Replay.trim input.reason)

/-- The actions before which the session is checked. -/
def needsSafety : Bool :=
  input.action = .resume ∨ input.action = .clearPauseAfterHand ∨ input.action = .clearDrainTable

def audit (previous : Option AdminSessionOps) (ops : AdminSessionOps) : AdminAction where
  adminId := none
  role := input.role
  action := "session_ops." ++ input.action.text
  reason := some input.trimmedReason
  previousState := previous
  newState := some ops
  requestId := input.requestId
  safeTxId := none
  actorLabel := input.actorLabel
  entityType := some "onchain_session"
  entityId := some sessionId
  capability := some "mutate"
  ip := input.ip
  userAgent := input.userAgent

/-- The end of `mutateSessionOps`, by what the audit row's insertion returned. -/
def audited (ops : AdminSessionOps) :
    Option Nat → SessionOpsProgram (Except Thrown MutatedSessionOps)
  | none => return .error none
  | some auditId => return .ok ⟨ops, auditId⟩

/-- `mutateSessionOps` once the row is written, `none` where that failed. -/
def upserted (previous : Option AdminSessionOps) : Option AdminSessionOps →
    SessionOpsProgram (Except Thrown MutatedSessionOps)
  | none => return .error none
  | some ops => do
      let auditId ← Program.query (insertAction (input.audit sessionId previous ops))
      audited ops auditId

/-- `mutateSessionOps` with what it has read, `none` where that failed. -/
def change : Option (Option AdminSessionOps) → SessionOpsProgram (Except Thrown MutatedSessionOps)
  | none => return .error none
  | some previous => do
      let upsert ← Program.query (upsertOps (applySessionOpsAction previous input.action)
            (some input.trimmedReason) input.actorLabel)
      input.upserted sessionId previous upsert

/-- `mutateSessionOps` once the session is known to be safe, or not. -/
def checked : Except Thrown Unit → SessionOpsProgram (Except Thrown MutatedSessionOps)
  | .error thrown => return .error thrown
  | .ok () => do
      let previous ← Program.query selectOps
      input.change sessionId previous

/-- `mutateSessionOps` once the session has been looked for. -/
def found : Option Bool → SessionOpsProgram (Except Thrown MutatedSessionOps)
  | none => return .error none
  | some false => return .error (some "session_not_found")
  | some true =>
      if input.needsSafety then do
        let safe ← assertSessionResumeSafe
        input.checked sessionId safe
      else input.checked sessionId (.ok ())

end MutateSessionOpsInput

def mutateSessionOps (input : MutateSessionOpsInput) :
    SessionOpsProgram (Except Thrown MutatedSessionOps) := do
  if Replay.trim input.reason = [] then return .error (some "reason_required")
  else
    let existing ← Program.query selectSession
    input.found sessionId existing

/-! ## Runs -/

inductive SessionOpsCall where
  | mutate (input : MutateSessionOpsInput)
  | incident (change : IncidentChange)
deriving DecidableEq

inductive SessionOpsResult where
  | mutated (result : Except Thrown MutatedSessionOps)
  | incidentChanged

def sessionOpsMachine : Machine SessionOpsDb SessionOpsStatement SessionOpsReply SessionOpsCall
    SessionOpsResult SessionOpsChoice where
  body
    | .mutate input => return .mutated (← mutateSessionOps sessionId input)
    | .incident change => do
        let _ ← Program.query (changeIncidents change)
        return .incidentChanged
  execute db choice statement :=
    match choice with
    | .fails => (db, none)
    | .executed now uuid =>
        ((db.execute sessionId now uuid statement).1,
          some (db.execute sessionId now uuid statement).2)

abbrev SessionOpsWorld :=
  World SessionOpsDb SessionOpsStatement SessionOpsReply SessionOpsCall SessionOpsResult

/-- All interleavings of the calls, from one state of the rows. -/
def sessionOpsRuns (initially : SessionOpsDb) :
    System SessionOpsWorld (Action SessionOpsCall SessionOpsChoice) Unit :=
  (sessionOpsMachine sessionId).system (· = initially)

end Session

end Mozetto.Database

/-!
## Sequential orders of operators' actions

What it means that the calls of `mutateSessionOps` act as if they ran one
after the other, and the order of statements in which they do: a row is
written from the row that is still there, a session does not come under review
and no incident is opened between the checks of a call and what it writes, and
the statements whose failure goes unseen do not fail.
-/

namespace Mozetto.Database

open Mozetto.Library.Interleaving
open Mozetto.Library.TransitionSystem

abbrev SessionOpsEvent := Event SessionOpsStatement SessionOpsReply SessionOpsCall SessionOpsResult

/-! ### Points of a history -/

/-- This was the event after the first `point` ones. -/
def HappenedAt (history : List SessionOpsEvent) (point : Nat) (event : SessionOpsEvent) :
    Prop :=
  ∃ later earlier, history = later ++ event :: earlier ∧ earlier.length = point

/-- The first `point` events. -/
def historyAt (history : List SessionOpsEvent) (point : Nat) :
    List SessionOpsEvent :=
  history.drop (history.length - point)

/-- The incidents, by how they were changed. -/
def incidentsAfter (initially : List SecurityIncident) :
    List SessionOpsEvent → List SecurityIncident
  | [] => initially
  | .executed _ (.changeIncidents change) (some _) :: earlier =>
      change.apply (incidentsAfter initially earlier)
  | _ :: earlier => incidentsAfter initially earlier

def incidentsAt (initially : List SecurityIncident) (history : List SessionOpsEvent)
    (point : Nat) : List SecurityIncident := incidentsAfter initially (historyAt history point)

/-! ### Sequential orders -/

/-- A call takes effect at a point: the row that it leaves. -/
structure OpsEffect where
  call : Nat
  input : MutateSessionOpsInput
  point : Nat
  row : AdminSessionOps

/-- The row after the effects, the latest first. -/
def opsAfter (initially : Option AdminSessionOps) : List OpsEffect → Option AdminSessionOps
  | [] => initially
  | latest :: _ => some latest.row

namespace OpsEffect

variable (sessionId : String) (effect : OpsEffect)

/-- The row is what the action makes of the row before it. -/
structure Applies (previous : Option AdminSessionOps) : Prop where
  flags : effect.row.toSessionOpsFlags = applySessionOpsAction previous effect.input.action
  sessionId : effect.row.sessionId = sessionId
  notes : effect.row.notes = some effect.input.trimmedReason
  updatedBy : effect.row.updatedBy = effect.input.actorLabel

/-- An action that needs it takes effect where nothing speaks against it. -/
def Safe (previous : Option AdminSessionOps) (incidents : List SecurityIncident) :
    Prop :=
  effect.input.needsSafety = true → previous.any (·.underReview) = false ∧
      openIncidents sessionId incidents = []

end OpsEffect

/-- Each effect follows from those before it. -/
def Sequence (sessionId : String) (initially : SessionOpsDb)
    (history : List SessionOpsEvent) : List OpsEffect → Prop
  | [] => True
  | latest :: earlier =>
      latest.Applies sessionId (opsAfter initially.ops earlier) ∧
        latest.Safe sessionId (opsAfter initially.ops earlier)
          (incidentsAt initially.incidents history latest.point) ∧
          Sequence sessionId initially history earlier

/-- The audit rows of the effects. -/
def auditsOf (sessionId : String) (initially : Option AdminSessionOps) :
    List OpsEffect → List AdminAction
  | [] => []
  | latest :: earlier =>
      latest.input.audit sessionId (opsAfter initially earlier) latest.row ::
        auditsOf sessionId initially earlier

/-- The call has returned a row. -/
def SucceededAt (history : List SessionOpsEvent) (id point : Nat) : Prop :=
  ∃ result, HappenedAt history point (.returned id (.mutated (.ok result)))

/-- The point lies between a call's beginning and its success. -/
def OpsEffect.During (history : List SessionOpsEvent) (effect : OpsEffect) : Prop :=
  (∃ began, HappenedAt history began (.started effect.call (.mutate effect.input)) ∧
        began < effect.point) ∧
    ∃ ended, SucceededAt history effect.call ended ∧ effect.point < ended

/--
The successful calls in an order that agrees with when they ran: each takes
effect once, safely and as recorded, and together they leave this row.
-/
structure SequentialOrder (sessionId : String) (initially : SessionOpsDb) (world : SessionOpsWorld)
    (order : List OpsEffect) : Prop where
  points : order.Pairwise fun later earlier => earlier.point < later.point
  calls : (order.map (·.call)).Nodup
  successful : ∀ id, (∃ ended, SucceededAt world.history id ended) ↔ id ∈ order.map (·.call)
  during : ∀ effect ∈ order, effect.During world.history
  sequence : Sequence sessionId initially world.history order
  ops : world.shared.ops = opsAfter initially.ops order
  adminActions : world.shared.adminActions.Perm
      (auditsOf sessionId initially.ops order ++ initially.adminActions)

/-- No call is running. -/
def Settled (world : SessionOpsWorld) : Prop :=
  ∀ id statement next, world.calls id ≠ .running statement next

/-- Once no call is running, the successful ones have run in some order. -/
def OperatorsHeeded (sessionId : String) (initially : SessionOpsDb) (world : SessionOpsWorld) :
    Prop :=
  Settled world → ∃ order, SequentialOrder sessionId initially world order

/-! ### The order of statements -/

/-- What a call has read of the row, the latest first. -/
def readsOf (id : Nat) : List SessionOpsEvent → List (Option AdminSessionOps)
  | [] => []
  | .executed other .selectOps (some ops) :: earlier =>
      if other = id then ops :: readsOf id earlier else readsOf id earlier
  | _ :: earlier => readsOf id earlier

/-- Where a call has looked for incidents last. -/
def checkOf (id : Nat) : List SessionOpsEvent → Option Nat
  | [] => none
  | .executed other .selectIncident _ :: earlier =>
      if other = id then some earlier.length else checkOf id earlier
  | _ :: earlier => checkOf id earlier

section Order

variable (sessionId : String) (initially : SessionOpsDb)

/-- The row is still the one that the call has read last. -/
def UpToDate (history : List SessionOpsEvent) (db : SessionOpsDb) (id : Nat) : Prop :=
  (readsOf id history).head? = some db.ops

/-- No incident that is open was opened since this point. -/
def NoneOpenedSince (history : List SessionOpsEvent) (db : SessionOpsDb) (point : Nat) :
    Prop :=
  ∀ incident ∈ openIncidents sessionId db.incidents, incident ∈
      openIncidents sessionId (incidentsAt initially.incidents history point)

/-- The session did not come under review since the call has read the row. -/
def NotReviewedSince (history : List SessionOpsEvent) (db : SessionOpsDb) (id : Nat) : Prop :=
  ∀ read ∈ readsOf id history, db.ops.any (·.underReview) = true → read.any (·.underReview) = true

/-- A call that has checked the session writes while that still holds. -/
def CheckHolds (history : List SessionOpsEvent) (db : SessionOpsDb) (id : Nat) : Prop :=
  ∀ point ∈ checkOf id history, NoneOpenedSince sessionId initially history db point ∧
      NotReviewedSince history db id

/-- When a statement is in order. -/
def OpsInTime (history : List SessionOpsEvent) (db : SessionOpsDb) (id : Nat)
    (statement : SessionOpsStatement) (choice : SessionOpsChoice) : Prop :=
  match statement, choice with
  | .selectIncident, .fails => openIncidents sessionId db.incidents = []
  | .upsertOps _ _ _, .executed _ _ =>
      UpToDate history db id ∧ CheckHolds sessionId initially history db id
  | .insertAction _, .fails => False
  | _, _ => True

/-- All statements are in order. -/
def OpsInOrder (world : SessionOpsWorld) : Action SessionOpsCall SessionOpsChoice → Prop :=
  world.Admits (fun _ => True) (OpsInTime sessionId initially world.history world.shared)

/-! ### The order can be checked -/

variable (history : List SessionOpsEvent) (db : SessionOpsDb)

instance (id : Nat) : Decidable (UpToDate history db id) :=
  inferInstanceAs (Decidable (_ = some db.ops))

instance (id : Nat) : Decidable (CheckHolds sessionId initially history db id) :=
  inferInstanceAs (Decidable (∀ point ∈ checkOf id history,
        (∀ incident ∈ openIncidents sessionId db.incidents, incident ∈ openIncidents sessionId
                (incidentsAt initially.incidents history point)) ∧ ∀ read ∈ readsOf id history,
            db.ops.any (·.underReview) = true → read.any (·.underReview) = true))

instance (id : Nat) (statement : SessionOpsStatement) (choice : SessionOpsChoice) :
    Decidable (OpsInTime sessionId initially history db id statement choice) :=
  match statement, choice with
  | .selectIncident, .fails =>
      inferInstanceAs (Decidable (openIncidents sessionId db.incidents = []))
  | .selectIncident, .executed _ _ => .isTrue trivial
  | .upsertOps _ _ _, .executed _ _ => inferInstanceAs (Decidable (_ ∧ _))
  | .upsertOps _ _ _, .fails => .isTrue trivial
  | .insertAction _, .fails => .isFalse fun impossible => impossible
  | .insertAction _, .executed _ _ => .isTrue trivial
  | .selectSession, _ => .isTrue trivial
  | .selectOps, _ => .isTrue trivial
  | .changeIncidents _, _ => .isTrue trivial

instance (world : SessionOpsWorld) (action : Action SessionOpsCall SessionOpsChoice) :
    Decidable (OpsInOrder sessionId initially world action) :=
  inferInstanceAs (Decidable (world.Admits _ _ action))

end Order

end Mozetto.Database
