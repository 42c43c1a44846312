import Mozetto.AgentRuntime.EnergyLedger
import Mozetto.AgentRuntime.Patches

/-!
# The scheduler of background cognition

For each public event the scheduler may queue a job.  One loop takes the jobs
by priority, asks the provider for a patch and charges for it once it has been
applied.  The final action of the seat on turn withdraws what waits and aborts
what runs.  Calls wait for the provider and for the stores; between two waits a
call runs alone, and in every wait any other call may go on.
-/

namespace Mozetto.AgentRuntime

open Mozetto.Chain
open Mozetto.Library.BoundedLists

/-! ## Modes -/

inductive SchedulerMode
  | ignore
  | deterministicUpdate
  | lightUpdate
  | opponentUpdate
  | streetPlan
  | deepReevaluation
deriving DecidableEq, Repr

namespace SchedulerMode

def text : SchedulerMode → String
  | ignore => "IGNORE"
  | deterministicUpdate => "DETERMINISTIC_UPDATE"
  | lightUpdate => "LIGHT_UPDATE"
  | opponentUpdate => "OPPONENT_UPDATE"
  | streetPlan => "STREET_PLAN"
  | deepReevaluation => "DEEP_REEVALUATION"

/-- `MODEL_BACKGROUND_MODES`. -/
def asksModel : SchedulerMode → Bool
  | ignore | deterministicUpdate => false
  | _ => true

/-- `MODE_TO_OPERATION`; a job to ignore is none. -/
def operation : SchedulerMode → EnergyOperationType
  | ignore | deterministicUpdate => .deterministicIngest
  | lightUpdate => .lightUpdate
  | opponentUpdate => .opponentUpdate
  | streetPlan | deepReevaluation => .streetPlan

theorem defaultSpendClass_operation (mode : SchedulerMode) :
    defaultSpendClass mode.operation = .background := by
  cases mode <;> rfl

/-- `MODE_BASE_PRIORITY`. -/
def basePriority : SchedulerMode → Nat
  | ignore => 0
  | deterministicUpdate => 10
  | lightUpdate => 20
  | opponentUpdate => 40
  | streetPlan => 60
  | deepReevaluation => 80

/-- `SCHEDULER_MODE_FLAG`. -/
def flag : SchedulerMode → Nat
  | ignore => 0x01
  | deterministicUpdate => 0x02
  | lightUpdate => 0x04
  | opponentUpdate => 0x08
  | streetPlan => 0x10
  | deepReevaluation => 0x20

def isModeAllowed (mode : SchedulerMode) (allowedSchedulerWeights : Nat) : Bool :=
  !mode.asksModel || allowedSchedulerWeights &&& mode.flag ≠ 0 ||
    allowedSchedulerWeights &&& 0xff = 0xff

end SchedulerMode

/-- What a scheduler is made for; of the axes those it reads. -/
structure CognitionOptions where
  sessionId : String
  handId : String
  seat : Int
  profileHash : String
  opponentAdaptation : Int
  energyConservation : Int
  allowedSchedulerWeights : Option Nat := none
  autoDrain : Bool := true

structure SchedulerContext where
  options : CognitionOptions
  seatActive : Bool
  proximityToOwnTurn : Bool
  providerCongested : Bool
  uncertainty : Int

structure ModeSelection where
  mode : SchedulerMode
  priority : Nat
  reason : String
  energyGated : Bool

def ModeSelection.operationType (selection : ModeSelection) : EnergyOperationType :=
  selection.mode.operation

def withPriority
    (mode : SchedulerMode) (ctx : SchedulerContext) (reason : String) : ModeSelection where
  mode := mode
  priority := mode.basePriority + if mode ≠ .ignore ∧ ctx.proximityToOwnTurn then 100 else 0
  reason := reason
  energyGated := false

def gateEnergy (selection : ModeSelection) (spendableBackground : Nat) : ModeSelection :=
  let cost := costOf selection.operationType
  if selection.mode.asksModel ∧ spendableBackground < cost then
    { mode := .deterministicUpdate
      priority := SchedulerMode.deterministicUpdate.basePriority
      reason :=
        s!"{selection.reason}; energy_gate→DETERMINISTIC (need {cost}, " ++
          s!"spendable {spendableBackground}, reserve {mandatoryReserve})"
      energyGated := true }
  else selection

def maybeConserve (mode : SchedulerMode) (ctx : SchedulerContext) : SchedulerMode :=
  if ctx.options.energyConservation < 65 then mode
  else
    match mode with
    | .deepReevaluation => .streetPlan
    | .streetPlan | .opponentUpdate => .lightUpdate
    | mode => mode

def PublicEventKind.text : PublicEventKind → String
  | handStart => "hand_start"
  | street => "street"
  | action => "action"
  | board => "board"
  | showdown => "showdown"
  | handEnd => "hand_end"
  | other => "other"

/-- What an event calls for, before energy and permission are looked at. -/
def modeOfEvent (event : PublicTableEvent) (ctx : SchedulerContext) : SchedulerMode × String :=
  match event.kind with
  | .street | .board =>
    if 75 ≤ ctx.uncertainty then (.deepReevaluation, "street_board_high_uncertainty")
    else (.streetPlan, "street_board_change")
  | .action =>
    let isOther : Bool := event.actorSeat.any fun seat => seat ≠ ctx.options.seat
    let actionType := event.actionType.getD 0
    if isOther ∧ actionType = 10 then (.deterministicUpdate, "other_seat_fold")
    else if isOther ∧ (actionType = 13 ∨ actionType = 12 ∨ actionType = 15) ∧
        60 ≤ ctx.options.opponentAdaptation then
      (.opponentUpdate, "aggressive_opponent_action")
    else if isOther ∧ event.publicCadenceMs.any (11000 <= ·) then
      (.lightUpdate, "unusual_public_cadence")
    else if isOther then (.lightUpdate, "other_seat_action")
    else (.deterministicUpdate, "own_or_unknown_action")
  | .showdown => (.opponentUpdate, "showdown_evidence")
  | .handStart =>
    (if 55 ≤ ctx.uncertainty then .streetPlan else .lightUpdate, "hand_start")
  | kind => (.deterministicUpdate, s!"kind_{kind.text}")

def selectSchedulerMode
    (event : PublicTableEvent) (ctx : SchedulerContext) (spendableBackground : Nat) :
    ModeSelection :=
  if !ctx.seatActive then
    gateEnergy (withPriority .deterministicUpdate ctx "seat_inactive") spendableBackground
  else if ctx.providerCongested then
    gateEnergy (withPriority .deterministicUpdate ctx "provider_congested") spendableBackground
  else
    let chosen := modeOfEvent event ctx
    let mode := maybeConserve chosen.1 ctx
    let permitted : SchedulerMode × String :=
      if mode.isModeAllowed (ctx.options.allowedSchedulerWeights.getD 0x00ff00ff) then
        (mode, chosen.2)
      else (.deterministicUpdate, chosen.2 ++ "; mode_not_allowed→DETERMINISTIC")
    let near : SchedulerMode × String :=
      if ctx.proximityToOwnTurn ∧ (permitted.1 = .deepReevaluation ∨ permitted.1 = .streetPlan) ∧
          spendableBackground < costOf .streetPlan + 8 then
        (.lightUpdate, permitted.2 ++ "; near_turn_conserve")
      else permitted
    gateEnergy (withPriority near.1 ctx near.2) spendableBackground

/-! ## Jobs -/

inductive CognitionJobStatus
  | queued
  | running
  | completed
  | cancelled
  | skipped
  | failed
deriving DecidableEq, Repr

/-- The job `cog-` and its number. -/
structure CognitionJob where
  id : Nat
  priority : Nat
  mode : SchedulerMode
  event : PublicTableEvent
  observationHash : Bytes32
  enqueuedAtMs : Int
  status : CognitionJobStatus := .queued
  aborted : Bool := false
  note : Option Text := none

def CognitionJob.operationType (job : CognitionJob) : EnergyOperationType := job.mode.operation

/-- Higher priorities first, then earlier times. -/
def CognitionJob.place (job : CognitionJob) : Lex (Int × Int) :=
  toLex (-(job.priority : Int), job.enqueuedAtMs)

def enqueue (items : List CognitionJob) (job : CognitionJob) : List CognitionJob :=
  sortBy CognitionJob.place (items ++ [job])

def CognitionJob.cancel (note : Text) (job : CognitionJob) : CognitionJob :=
  { job with status := .cancelled, note := some note, aborted := true }

structure BackgroundCognitionResult where
  applied : Bool
  note : Text := []
  statePatch : Option BackgroundStatePatch := none
  providerRequestId : Option Text := none
  cancelled : Bool := false

structure FinalDecision where
  actionType : Int
  amount : String
  fallbackUsed : Bool

/-- Of the observation of a final action what its energy depends on. -/
structure DecisionObservation where
  potBb : Option Float := none
  pot : Option Float := none
  spr : Option Float := none
  effectiveStackBb : Option Float := none
  street : Option StreetName := none

structure FinalRequest where
  observation : DecisionObservation := {}
  operationType : Option EnergyOperationType := none
  includeMemoryRetrieval : Option Bool := none
  observationHash : Option Bytes32 := none

/-- A final action that waits for its decision. -/
structure PendingFinal where
  operationType : EnergyOperationType
  energyDebit : Nat
  observationHash : Option Bytes32

/--
Where the loop over the queue is: not running, before its next job, or in a job
that waits for the provider or for the stores.  `inFlight` tells whether the
job is still the one a final action would abort.
-/
inductive Drain
  | idle
  | resting
  | asking (job : CognitionJob) (inFlight : Bool)
  | storing (job : CognitionJob) (inFlight : Bool) (outcome : CognitionJobStatus) (note : Text)

/-- What the calls tell: the jobs they queue, charge, withdraw and end. -/
inductive Report
  | enqueued (job : CognitionJob)
  | debited (job : CognitionJob) (energyDebit : Nat)
  | cancelled (waiting : List CognitionJob) (running : Option CognitionJob)
  | finished (job : CognitionJob) (outcome : CognitionJobStatus)
  | finalDebited (energyDebit : Nat)

/-- What the jobs of a scheduler work on. -/
structure CognitionWork where
  ledger : EnergyLedger
  state : AgentState
  queue : List CognitionJob
  drain : Drain
  jobSeq : Nat

structure Scheduler extends CognitionWork where
  seatActive : Bool
  proximityToOwnTurn : Bool
  providerCongested : Bool
  uncertainty : Int
  persisting : List PublicTableEvent
  deciding : List PendingFinal

/-! ## Texts that are hashed -/

/-- The code units of a text. -/
def utf16 (text : String) : Text :=
  text.toList.flatMap fun letter =>
    let code := letter.toNat
    if code < 0x10000 then [code.toUInt16]
    else
      [(0xD800 + (code - 0x10000) / 0x400).toUInt16, (0xDC00 + (code - 0x10000) % 0x400).toUInt16]

def observationLabel (event : PublicTableEvent) (mode : SchedulerMode) : Text :=
  let eventId := event.eventId.getD ""
  utf16 s!"obs:{event.cursor}:{event.kind.text}:{mode.text}:{eventId}"

def resultLabel (applied : Bool) (note : Text) : Text :=
  utf16 (if applied then "result:1:" else "result:0:") ++ note.take 64

/-- `note || other`. -/
def orElse (note other : Text) : Text := if note.isEmpty then other else note

/-! ## Patches without a provider's own -/

def deterministicStructuredPatch (event : PublicTableEvent) (mode : SchedulerMode) (ownSeat : Int) :
    BackgroundStatePatch :=
  let opponent := event.actorSeat.filter fun seat => seat ≠ ownSeat
  { streetPlan :=
      if mode = .streetPlan ∨ mode = .deepReevaluation then
        some
          { focusTags :=
              some [utf16 event.street.text,
                utf16 (if mode = .deepReevaluation then "deep" else "plan")]
            note := some (utf16 s!"{event.kind.text}_{event.street.text}") }
      else none
    opponentConfidenceDelta :=
      if mode = .opponentUpdate ∨ mode = .deepReevaluation ∨ mode = .lightUpdate then
        opponent.map fun seat =>
          [{ seat := seat, delta := if mode = .opponentUpdate then 3 else 1 }]
      else none
    timingSamples :=
      match mode, event.publicCadenceMs, opponent with
      | .lightUpdate, some cadence, some seat =>
        some [{ seat := seat, publicCadenceMs := cadence }]
      | _, _, _ => none
    rangeHypotheses :=
      if mode = .deepReevaluation then
        opponent.map fun seat =>
          [{ seat := seat, street := event.street, confidence := 40,
             bucket := utf16 "unknown" }]
      else none }

/-! ## The calls -/

section Calls

variable (deployment : Deployment) (locale : Locale) (toLowerCase : Text → Text)
variable (asHex32 : Text → Bytes32) (options : CognitionOptions)

/-- A scheduler as it is constructed, with a fresh ledger and an empty memory. -/
def newScheduler : Except String Scheduler := do
  let ledger ← grantHandEnergy deployment
    { sessionId := asHex32 (utf16 s!"session:{options.sessionId}")
      handId := asHex32 (utf16 s!"hand:{options.handId}")
      seat := options.seat }
  pure
    { ledger := ledger
      state := createEmptyAgentState locale
        { sessionId := options.sessionId
          handId := options.handId
          seat := options.seat
          profileHash := options.profileHash
          energyRemaining := some ledger.remainingEnergy }
      queue := []
      drain := .idle
      jobSeq := 0
      seatActive := true
      proximityToOwnTurn := false
      providerCongested := false
      uncertainty := 40
      persisting := []
      deciding := [] }

/-- The job leaves the loop, which waits before it goes on. -/
def CognitionWork.finish (work : CognitionWork) (job : CognitionJob) (outcome : CognitionJobStatus)
    (note : Text) : CognitionWork × List Report :=
  ({ work with drain := .resting },
    [.finished { job with status := outcome, note := some note } outcome])

/-- The part of `runJob` before the provider is asked. -/
def CognitionWork.runJob (work : CognitionWork) (job : CognitionJob) :
    CognitionWork × List Report :=
  if job.aborted then work.finish job .cancelled (utf16 "aborted_before_start")
  else
    match (canAfford work.ledger job.operationType none (some .background)).reason with
    | some reason =>
      work.finish job .skipped (utf16 ("not_affordable:" ++ reason.text))
    | none =>
      if !job.mode.asksModel then work.finish job .skipped (utf16 "not_model_mode")
      else ({ work with drain := .asking { job with status := .running } true }, [])

/-- The loop of `drain`, to its next wait. -/
def CognitionWork.drainNext (work : CognitionWork) : List CognitionJob → CognitionWork × List Report
  | [] => ({ work with queue := [], drain := .idle }, [])
  | job :: rest =>
    if job.status = .cancelled then
      let later := { work with queue := rest }.drainNext rest
      (later.1, .finished job .cancelled :: later.2)
    else { work with queue := rest }.runJob job

/-- `drain()`, which returns at once while a loop is running. -/
def CognitionWork.startDrain (work : CognitionWork) : CognitionWork × List Report :=
  match work.drain with
  | .idle => work.drainNext work.queue
  | _ => (work, [])

def Scheduler.ctx (scheduler : Scheduler) : SchedulerContext where
  options := options
  seatActive := scheduler.seatActive
  proximityToOwnTurn := scheduler.proximityToOwnTurn
  providerCongested := scheduler.providerCongested
  uncertainty := scheduler.uncertainty

def CognitionWork.addJob
    (work : CognitionWork) (selection : ModeSelection) (event : PublicTableEvent)
    (nowMs : Int) : CognitionWork × List Report :=
  let job : CognitionJob :=
    { id := work.jobSeq + 1
      priority := selection.priority
      mode := selection.mode
      event := event
      observationHash := asHex32 (observationLabel event selection.mode)
      enqueuedAtMs := nowMs }
  let added := { work with queue := enqueue work.queue job, jobSeq := work.jobSeq + 1 }
  let drained := if options.autoDrain then added.startDrain else (added, [])
  (drained.1, .enqueued job :: drained.2)

/-- The part of `onPublicEvent` after the stores. -/
def Scheduler.chooseMode (scheduler : Scheduler) (event : PublicTableEvent) (nowMs : Int) :
    Scheduler × List Report :=
  let selection := selectSchedulerMode event (scheduler.ctx options)
    scheduler.ledger.spendableBackground
  if !selection.mode.asksModel then (scheduler, [])
  else
    let added := scheduler.toCognitionWork.addJob asHex32 options selection event nowMs
    ({ scheduler with toCognitionWork := added.1 }, added.2)

/-- The energy of a ledger goes into the memory. -/
def CognitionWork.charge (work : CognitionWork) (ledger : EnergyLedger) : CognitionWork :=
  { work with
    ledger := ledger
    state := setEnergyRemaining locale work.state ledger.remainingEnergy }

/-- A call that throws is over; what it changed before stays. -/
def Scheduler.onPublicEvent (scheduler : Scheduler) (event : PublicTableEvent) (nowMs : Int) :
    Scheduler × List Report :=
  if scheduler.state.publicEventCursor < event.cursor then
    match applyPublicEventDeterministic locale scheduler.state event with
    | .error _ => (scheduler, [])
    | .ok state =>
      let applied := { scheduler.toCognitionWork with state := state }
      let waiting := scheduler.persisting ++ [event]
      match debitEnergy deployment scheduler.ledger
          { operationType := .deterministicIngest
            observationHash := asHex32 (observationLabel event .deterministicUpdate)
            resultHash := asHex32 (resultLabel true (utf16 "deterministic_ingest"))
            executed := some true } with
      | .error (.thrown _) => ({ scheduler with toCognitionWork := applied }, [])
      | .error (.rejected _ _) =>
        ({ scheduler with toCognitionWork := applied, persisting := waiting }, [])
      | .ok (ledger, _) =>
        ({ scheduler with
            toCognitionWork := applied.charge locale ledger
            persisting := waiting }, [])
  else scheduler.chooseMode asHex32 options event nowMs

/-- The stores have answered to one of the calls. -/
def Scheduler.persisted (scheduler : Scheduler) (index : Nat) (stored : Bool) (nowMs : Int) :
    Scheduler × List Report :=
  match scheduler.persisting[index]? with
  | none => (scheduler, [])
  | some event =>
    let left := { scheduler with persisting := scheduler.persisting.eraseIdx index }
    if stored then left.chooseMode asHex32 options event nowMs else (left, [])

/-- A patch is applied, then charged for. -/
def CognitionWork.applyAnswer (work : CognitionWork) (job : CognitionJob) (inFlight : Bool)
    (bg : BackgroundCognitionResult) : CognitionWork × List Report :=
  let patch := bg.statePatch.getD (deterministicStructuredPatch job.event job.mode options.seat)
  let patched :=
    { work with
      state := applyBackgroundPatch locale toLowerCase work.state patch job.event.cursor }
  match debitEnergy deployment work.ledger
      { operationType := job.operationType
        observationHash := job.observationHash
        resultHash := asHex32 (resultLabel true (orElse bg.note (utf16 job.mode.text)))
        providerRequestId := (bg.providerRequestId.filter (!·.isEmpty)).map asHex32
        executed := some true } with
  | .error (.thrown error) => patched.finish job .failed (utf16 (reprStr error))
  | .error (.rejected reason _) =>
    let note := utf16 ("debit_rejected:" ++ reason.text)
    ({ patched with
        drain := .storing { job with status := .skipped, note := some note } inFlight
          .skipped note }, [])
  | .ok (ledger, op) =>
    ({ patched.charge locale ledger with
        drain := .storing job inFlight .completed (orElse bg.note (utf16 "applied")) },
      [.debited job op.energyDebit])

/-- The provider has answered, or failed. -/
def CognitionWork.answered (work : CognitionWork) (answer : Except Text BackgroundCognitionResult) :
    CognitionWork × List Report :=
  match work.drain, answer with
  | .asking job _, .error message =>
    if job.aborted then work.finish job .cancelled (utf16 "cancelled_on_error")
    else work.finish job .failed message
  | .asking job inFlight, .ok bg =>
    if bg.cancelled || job.aborted then
      work.finish job .cancelled (orElse bg.note (utf16 "cancelled_no_debit"))
    else if !bg.applied && utf16 "skip_no_debit" <:+: bg.note then
      work.finish job .skipped bg.note
    else if bg.applied || bg.statePatch.any BackgroundStatePatch.hasKeys then
      work.applyAnswer deployment locale toLowerCase asHex32 options job inFlight bg
    else work.finish job .skipped (orElse bg.note (utf16 "not_applied"))
  | _, _ => (work, [])

/-- The stores have answered to the job, or failed. -/
def CognitionWork.stored (work : CognitionWork) (failure : Option Text) :
    CognitionWork × List Report :=
  match work.drain, failure with
  | .storing job _ outcome note, none => work.finish job outcome note
  | .storing job _ _ _, some message =>
    if job.aborted then work.finish job .cancelled (utf16 "cancelled_on_error")
    else work.finish job .failed message
  | _, _ => (work, [])

/-- The job that a final action aborts. -/
def Drain.inFlightJob : Drain → Option CognitionJob
  | .asking job true | .storing job true _ _ => some job
  | _ => none

def Drain.abort (note : Text) : Drain → Drain
  | .asking job true => .asking (job.cancel note) false
  | .storing job true outcome last => .storing (job.cancel note) false outcome last
  | drain => drain

def CognitionWork.preempt (work : CognitionWork) (note : Text) : CognitionWork × List Report :=
  ({ work with queue := [], drain := work.drain.abort note },
    [.cancelled (work.queue.map (CognitionJob.cancel note))
      (work.drain.inFlightJob.map (CognitionJob.cancel note))])

/-- A large pot, a short stack behind or the last street. -/
def DecisionObservation.important (observation : DecisionObservation) : Bool :=
  let potBb := (observation.potBb <|> observation.pot).getD 0
  let spr := (observation.spr <|> observation.effectiveStackBb).getD 0
  20 <= potBb || (0 < spr && spr <= 8) || observation.street = some .river

def FinalRequest.pending (request : FinalRequest) : PendingFinal :=
  let important := request.observation.important
  let operationType := request.operationType.getD
    (if important then .deepFinalDecision else .standardFinalDecision)
  { operationType := operationType
    energyDebit := combinedFinalDebit operationType (request.includeMemoryRetrieval.getD important)
    observationHash := request.observationHash }

/-- `runFinalAction` until the provider has decided. -/
def Scheduler.runFinalAction
    (scheduler : Scheduler) (request : FinalRequest) : Scheduler × List Report :=
  let preempted := scheduler.toCognitionWork.preempt (utf16 "preempt_final_action")
  ({ scheduler with
      toCognitionWork := preempted.1
      proximityToOwnTurn := true
      deciding := scheduler.deciding ++ [request.pending] }, preempted.2)

def CognitionWork.chargeFinal
    (work : CognitionWork) (pending : PendingFinal) (decision : FinalDecision)
    (nowMs : Int) : CognitionWork × List Report :=
  let flag := if decision.fallbackUsed then 1 else 0
  if (canAfford work.ledger pending.operationType (some pending.energyDebit)
      (some .final)).affordable then
    match debitEnergy deployment work.ledger
        { operationType := pending.operationType
          energyDebit := some pending.energyDebit
          spendClass := some .final
          observationHash := pending.observationHash.getD
            (asHex32 (utf16 s!"final-obs:{options.handId}:{options.seat}:{nowMs}"))
          resultHash := asHex32
            (utf16 s!"final-res:{decision.actionType}:{decision.amount}:{flag}")
          fallbackFlag := some decision.fallbackUsed
          executed := some true } with
    | .error _ => (work, [])
    | .ok (ledger, op) => (work.charge locale ledger, [.finalDebited op.energyDebit])
  else (work, [])

/-- One of the final actions has its decision, or none. -/
def Scheduler.decided (scheduler : Scheduler) (index : Nat) (decision : Option FinalDecision)
    (nowMs : Int) : Scheduler × List Report :=
  match scheduler.deciding[index]?, decision with
  | none, _ => (scheduler, [])
  | some _, none => ({ scheduler with deciding := scheduler.deciding.eraseIdx index }, [])
  | some pending, some decision =>
    let charged := scheduler.toCognitionWork.chargeFinal deployment locale asHex32
      options pending decision nowMs
    ({ scheduler with
        toCognitionWork := charged.1
        deciding := scheduler.deciding.eraseIdx index }, charged.2)

end Calls

/-! ## Events -/

/-- A call that is made, or an answer that a waiting call goes on with. -/
inductive CognitionEvent
  | publicEvent (event : PublicTableEvent) (nowMs : Int)
  | persisted (index : Nat) (stored : Bool) (nowMs : Int)
  | drain
  | resumed
  | answered (answer : Except Text BackgroundCognitionResult)
  | stored (failure : Option Text)
  | preempt (note : Text)
  | finalAction (request : FinalRequest)
  | decided (index : Nat) (decision : Option FinalDecision) (nowMs : Int)
  | setSeatActive (active : Bool)
  | setProximityToOwnTurn (near : Bool)
  | setProviderCongested (congested : Bool)
  | setUncertainty (value : Int)

section Events

variable (deployment : Deployment) (locale : Locale) (toLowerCase : Text → Text)
variable (asHex32 : Text → Bytes32) (options : CognitionOptions)

/-- The event changes the work of the jobs alone. -/
def Scheduler.working (scheduler : Scheduler) (worked : CognitionWork × List Report) :
    Scheduler × List Report := ({ scheduler with toCognitionWork := worked.1 }, worked.2)

/-- An answer that nobody waits for changes nothing. -/
def Scheduler.step (scheduler : Scheduler) : CognitionEvent → Scheduler × List Report
  | .publicEvent event nowMs =>
    scheduler.onPublicEvent deployment locale asHex32 options event nowMs
  | .persisted index stored nowMs =>
    scheduler.persisted asHex32 options index stored nowMs
  | .drain => scheduler.working scheduler.startDrain
  | .resumed =>
    match scheduler.drain with
    | .resting => scheduler.working (scheduler.drainNext scheduler.queue)
    | _ => (scheduler, [])
  | .answered answer =>
    scheduler.working (scheduler.answered deployment locale toLowerCase asHex32 options answer)
  | .stored failure => scheduler.working (scheduler.stored failure)
  | .preempt note => scheduler.working (scheduler.preempt note)
  | .finalAction request => scheduler.runFinalAction request
  | .decided index decision nowMs =>
    scheduler.decided deployment locale asHex32 options index decision nowMs
  | .setSeatActive active =>
    ({ scheduler with
        seatActive := active
        ledger := { scheduler.ledger with seatActive := active } }, [])
  | .setProximityToOwnTurn near => ({ scheduler with proximityToOwnTurn := near }, [])
  | .setProviderCongested congested =>
    ({ scheduler with providerCongested := congested }, [])
  | .setUncertainty value => ({ scheduler with uncertainty := min 100 (max 0 value) }, [])

/-- A run, with all that its calls have told. -/
def Scheduler.run (scheduler : Scheduler) : List CognitionEvent → Scheduler × List Report
  | [] => (scheduler, [])
  | event :: later =>
    let next := scheduler.step deployment locale toLowerCase asHex32 options event
    let rest := next.1.run later
    (rest.1, next.2 ++ rest.2)

end Events

end Mozetto.AgentRuntime
