import Mozetto.AgentRuntime.Prune

/-!
# Taking in public events

An event whose cursor follows the one of the memory is taken in: the table as
last seen and the latest observations change, and so may the models of the
opponent who acted or of the opponents who showed their cards.  Every change
ends with a pruning.
-/

namespace Mozetto.AgentRuntime

open Mozetto.Library.BoundedLists

structure CreateAgentStateInput where
  sessionId : String
  handId : String
  seat : Int
  profileHash : String
  energyRemaining : Option Int := none
  street : Option StreetName := none
deriving DecidableEq, Repr

variable (locale : Locale)

def createEmptyAgentState (input : CreateAgentStateInput) : AgentState :=
  let street := input.street.getD .waiting
  pruneAgentState locale.localeCompare
    { schemaVersion := agentStateSchemaVersion
      sessionId := input.sessionId
      handId := input.handId
      seat := input.seat
      profileHash := input.profileHash
      energyRemaining := input.energyRemaining.getD energyPerHand
      publicEventCursor := -1
      streetPlan := { street := street, focusTags := [], note := [], updatedAtCursor := -1 }
      opponentModels := []
      rangeHypotheses := []
      timingModels := []
      tableImage :=
        { street := street, pot := "0", stacksBySeat := [], boardCardCount := 0,
          activeSeats := [], note := [], updatedAtCursor := -1 }
      recentObservations := []
      selfStrategyState :=
        { posture := asciiText "default", note := [], updatedAtCursor := -1 }
      memoryVersion := 0 }

def bump (state : AgentState) : AgentState :=
  pruneAgentState locale.localeCompare { state with memoryVersion := state.memoryVersion + 1 }

/-! ## Texts of an event -/

/-- `String(value)`. -/
def stringOf : StringOrNumber → String
  | .string text => text
  | .number value => locale.numberText value

def stringifyStacks (amounts : List (String × StringOrNumber)) : List (String × String) :=
  amounts.map fun entry => (entry.1, stringOf locale entry.2)

def deriveSummaryCode (event : PublicTableEvent) : String :=
  match event.kind, event.actionType with
  | .action, some actionType => s!"ACTION_{actionType}"
  | .board, _ => "BOARD_" ++ event.street.upperCase
  | .street, _ => "STREET_" ++ event.street.upperCase
  | kind, _ => kind.upperCase

def actionFreqKey (event : PublicTableEvent) : String :=
  event.street.firstTwo ++ "_" ++ toString (event.actionType.getD 0)

def PublicTableEvent.ref (event : PublicTableEvent) : EventRef where
  cursor := event.cursor
  eventId := event.eventId

/-! ## Models of opponents -/

/-- One more action counted under a label. -/
def countAction (label : String) (freq : List (String × Nat)) : List (String × Nat) :=
  setItem Prod.fst (label, ((findKey Prod.fst label freq).map Prod.snd).getD 0 + 1) freq

def touchOpponentFromAction
    (state : AgentState) (event : PublicTableEvent) (seat : Int) : AgentState :=
  match findKey OpponentModel.seat seat state.opponentModels with
  | none =>
    { state with
      opponentModels := state.opponentModels ++
        [{ seat := seat
           confidence := 10
           recency := event.cursor
           actionFrequencies := [(actionFreqKey event, 1)]
           avgPublicCadenceMs := event.publicCadenceMs
           showdownEvidence := []
           profileHypothesis := none
           sourceEventRefs := [event.ref]
           updatedAtCursor := event.cursor }] }
  | some existing =>
    { state with
      opponentModels := state.opponentModels.map fun model =>
        if model.seat = seat then
          { model with
            confidence := min 100 (model.confidence + 1)
            recency := event.cursor
            actionFrequencies := countAction (actionFreqKey event) existing.actionFrequencies
            sourceEventRefs := model.sourceEventRefs ++ [event.ref]
            updatedAtCursor := event.cursor }
        else model }

/-- What a showdown says about a seat. -/
def touchShowdownSeat (event : PublicTableEvent) (models : List OpponentModel) (seat : Int) :
    List OpponentModel :=
  setItem OpponentModel.seat (match findKey OpponentModel.seat seat models with
      | none =>
        { seat := seat
          confidence := 20
          recency := event.cursor
          actionFrequencies := []
          avgPublicCadenceMs := none
          showdownEvidence := [event.ref]
          profileHypothesis := none
          sourceEventRefs := [event.ref]
          updatedAtCursor := event.cursor }
      | some model =>
        { model with
          confidence := min 100 (model.confidence + 5)
          recency := event.cursor
          showdownEvidence := model.showdownEvidence ++ [event.ref]
          updatedAtCursor := event.cursor })
    models

def touchShowdownEvidence
    (state : AgentState) (event : PublicTableEvent) (showdownSeats : List Int) :
    AgentState :=
  { state with
    opponentModels :=
      ((showdownSeats.filter fun seat => seat ≠ state.seat).eraseDups).foldl
        (touchShowdownSeat event) state.opponentModels }

/-- A missing mean counts as zero. -/
def nextMean (existing : TimingModel) (cadence : Float) : Float :=
  (existing.meanPublicCadenceMs.getD 0 * existing.sampleCount.toFloat + cadence) /
    (existing.sampleCount + 1).toFloat

def touchTimingFromCadence (state : AgentState) (event : PublicTableEvent) (seat : Int)
    (cadence : Float) : AgentState :=
  match findKey TimingModel.seat seat state.timingModels with
  | none =>
    { state with
      timingModels := state.timingModels ++
        [{ seat := seat
           sampleCount := 1
           meanPublicCadenceMs := some cadence
           lastPublicCadenceMs := some cadence
           sourceEventRefs := [event.ref]
           updatedAtCursor := event.cursor }] }
  | some existing =>
    { state with
      timingModels := state.timingModels.map fun model =>
        if model.seat = seat then
          { model with
            sampleCount := existing.sampleCount + 1
            meanPublicCadenceMs := some (nextMean existing cadence)
            lastPublicCadenceMs := some cadence
            sourceEventRefs := model.sourceEventRefs ++ [event.ref]
            updatedAtCursor := event.cursor }
        else model }

/-! ## The event -/

/-- The table and the observations after an event. -/
def seen (state : AgentState) (event : PublicTableEvent) : AgentState :=
  { state with
    publicEventCursor := event.cursor
    recentObservations := state.recentObservations ++
      [{ cursor := event.cursor
         eventId := event.eventId
         kind := event.kind
         actorSeat := event.actorSeat
         street := event.street
         summaryCode := event.summaryCode.getD (deriveSummaryCode event)
         amount := event.amount.map (stringOf locale)
         publicCadenceMs := event.publicCadenceMs }]
    tableImage :=
      { street := event.street
        pot := (event.pot.map (stringOf locale)).getD state.tableImage.pot
        stacksBySeat :=
          (event.stacksBySeat.map (stringifyStacks locale)).getD state.tableImage.stacksBySeat
        boardCardCount := event.boardCardCount.getD state.tableImage.boardCardCount
        activeSeats := event.activeSeats.getD state.tableImage.activeSeats
        note := state.tableImage.note
        updatedAtCursor := event.cursor }
    streetPlan :=
      if event.kind = .street ∨ event.street ≠ state.streetPlan.street then
        { state.streetPlan with
          street := event.street
          updatedAtCursor := event.cursor }
      else state.streetPlan }

/-- The actor of an event, unless it is the seat itself. -/
def opponentActor (state : AgentState) (event : PublicTableEvent) : Option Int :=
  event.actorSeat.filter fun seat => seat ≠ state.seat

def withAction (state : AgentState) (event : PublicTableEvent) : AgentState :=
  match event.kind, opponentActor state event with
  | .action, some seat => touchOpponentFromAction state event seat
  | _, _ => state

def withShowdown (state : AgentState) (event : PublicTableEvent) : AgentState :=
  match event.kind, event.showdownSeats with
  | .showdown, some (seat :: seats) =>
    touchShowdownEvidence state event (seat :: seats)
  | _, _ => state

def withCadence (state : AgentState) (event : PublicTableEvent) : AgentState :=
  match event.publicCadenceMs, opponentActor state event with
  | some cadence, some seat => touchTimingFromCadence state event seat cadence
  | _, _ => state

/-- The memory after an event that follows it. -/
def ingested (state : AgentState) (event : PublicTableEvent) : AgentState :=
  bump locale (withCadence (withShowdown (withAction (seen locale state event) event) event) event)

def applyPublicEventDeterministic
    (state : AgentState) (event : PublicTableEvent) : Except String AgentState :=
  if event.cursor ≤ state.publicEventCursor then .ok state
  else if event.cursor ≠ state.publicEventCursor + 1 then
    .error s!"publicEventCursor gap: have {state.publicEventCursor}, got {event.cursor}"
  else .ok (ingested locale state event)

/-! ## Copies through a text -/

/-- A double that went through a text: what is not finite has no number. -/
def jsonNumber (value : Float) : Option Float :=
  if value.isFinite then some (if value == 0 then 0 else value) else none

def OpponentModel.clone (model : OpponentModel) : OpponentModel :=
  { model with avgPublicCadenceMs := model.avgPublicCadenceMs.bind jsonNumber }

def TimingModel.clone (model : TimingModel) : TimingModel :=
  { model with
    meanPublicCadenceMs := model.meanPublicCadenceMs.bind jsonNumber
    lastPublicCadenceMs := model.lastPublicCadenceMs.bind jsonNumber }

def ObservationSummary.clone (summary : ObservationSummary) :
    ObservationSummary :=
  { summary with publicCadenceMs := summary.publicCadenceMs.bind jsonNumber }

/-- `JSON.parse(JSON.stringify(state))`. -/
def cloneAgentState (state : AgentState) : AgentState :=
  { state with
    opponentModels := state.opponentModels.map OpponentModel.clone
    timingModels := state.timingModels.map TimingModel.clone
    recentObservations := state.recentObservations.map ObservationSummary.clone }

end Mozetto.AgentRuntime

/-!
## What every memory keeps

Taking in an event leaves the seat, the hand and the session alone, never makes
a model of the seat itself, and ends with a memory that pruning leaves alone.
A memory whose doubles all have a number in a text is its own copy.
-/

namespace Mozetto.AgentRuntime

open Mozetto.Library.BoundedLists

variable {locale : Locale} {state : AgentState} {event : PublicTableEvent}

/-! ### What an event leaves alone -/

theorem withAction_eq :
    withAction state event =
      { state with opponentModels := (withAction state event).opponentModels } := by
  rw [withAction]
  split
  · rw [touchOpponentFromAction]
    split <;> rfl
  · rfl

theorem withShowdown_eq :
    withShowdown state event =
      { state with
        opponentModels := (withShowdown state event).opponentModels } := by
  rw [withShowdown]
  split <;> rfl

theorem withCadence_eq :
    withCadence state event =
      { state with timingModels := (withCadence state event).timingModels } := by
  rw [withCadence]
  split
  · rw [touchTimingFromCadence]
    split <;> rfl
  · rfl

/-- The models alone are left to the last three steps. -/
theorem ingested_eq :
    ∃ opponentModels timingModels, ingested locale state event = bump locale
          { seen locale state event with
            opponentModels := opponentModels, timingModels := timingModels } := by
  rw [ingested, withCadence_eq, withShowdown_eq, withAction_eq]
  exact ⟨_, _, rfl⟩

@[simp]
theorem ingested_publicEventCursor :
    (ingested locale state event).publicEventCursor = event.cursor := by
  rcases @ingested_eq locale state event with ⟨_, _, same⟩
  rw [same]
  rfl

@[simp]
theorem pruneAgentState_ingested :
    pruneAgentState locale.localeCompare (ingested locale state event) =
      ingested locale state event :=
  pruneAgentState_again _ _

/-! ### Whose memory it is -/

/-- The identity that a memory is made for. -/
structure MadeFor (created : CreateAgentStateInput) (state : AgentState) : Prop where
  sessionId : state.sessionId = created.sessionId
  handId : state.handId = created.handId
  seat : state.seat = created.seat
  profileHash : state.profileHash = created.profileHash

theorem madeFor_createEmptyAgentState (created : CreateAgentStateInput) :
    MadeFor created (createEmptyAgentState locale created) := ⟨rfl, rfl, rfl, rfl⟩

theorem MadeFor.afterEvent {created : CreateAgentStateInput} (made : MadeFor created state) :
    MadeFor created (ingested locale state event) := by
  rcases @ingested_eq locale state event with ⟨_, _, same⟩
  rw [same]
  exact ⟨made.sessionId, made.handId, made.seat, made.profileHash⟩

theorem MadeFor.overwritten {created : CreateAgentStateInput} (made : MadeFor created state) :
    { state with
      sessionId := created.sessionId
      handId := created.handId
      seat := created.seat
      profileHash := created.profileHash } = state := by
  rw [← made.sessionId, ← made.handId, ← made.seat, ← made.profileHash]

/-! ### No model of the seat itself -/

/-- Every model is one of another seat. -/
structure NoOwnModel (state : AgentState) : Prop where
  opponents : ∀ model ∈ state.opponentModels, model.seat ≠ state.seat
  ranges : ∀ hypothesis ∈ state.rangeHypotheses, hypothesis.seat ≠ state.seat
  timings : ∀ model ∈ state.timingModels, model.seat ≠ state.seat

theorem NoOwnModel.pruned {localeCompare : String → String → Int} (none : NoOwnModel state) :
    NoOwnModel (pruneAgentState localeCompare state) where
  opponents model left := by
    rcases exists_of_mem_pruneOpponentModels left with ⟨source, member, rfl⟩
    exact none.opponents source member
  ranges hypothesis left := by
    rcases exists_of_mem_pruneRangeHypotheses left with ⟨source, member, rfl⟩
    exact none.ranges source member
  timings model left := by
    rcases exists_of_mem_pruneTimingModels left with ⟨source, member, rfl⟩
    exact none.timings source member

theorem noOwnModel_createEmptyAgentState (created : CreateAgentStateInput) :
    NoOwnModel (createEmptyAgentState locale created) := by
  apply NoOwnModel.pruned
  exact ⟨nofun, nofun, nofun⟩

theorem opponentActor_ne {seat : Int} (actor : opponentActor state event = some seat) :
    seat ≠ state.seat := by
  rw [opponentActor, Option.filter_eq_some_iff] at actor
  exact of_decide_eq_true actor.2

theorem seats_touchOpponentFromAction {seat : Int} {model : OpponentModel}
    (member : model ∈ (touchOpponentFromAction state event seat).opponentModels) :
    model.seat = seat ∨ ∃ source ∈ state.opponentModels, model.seat = source.seat := by
  rw [touchOpponentFromAction] at member
  split at member
  · rcases List.mem_append.mp member with old | new
    · exact .inr ⟨model, old, rfl⟩
    · rw [List.mem_singleton.mp new]
      exact .inl rfl
  · rcases List.mem_map.mp member with ⟨source, old, rfl⟩
    refine .inr ⟨source, old, ?_⟩
    split <;> rfl

theorem seats_touchTimingFromCadence {seat : Int} {cadence : Float} {model : TimingModel}
    (member : model ∈ (touchTimingFromCadence state event seat cadence).timingModels) :
    model.seat = seat ∨ ∃ source ∈ state.timingModels, model.seat = source.seat := by
  rw [touchTimingFromCadence] at member
  split at member
  · rcases List.mem_append.mp member with old | new
    · exact .inr ⟨model, old, rfl⟩
    · rw [List.mem_singleton.mp new]
      exact .inl rfl
  · rcases List.mem_map.mp member with ⟨source, old, rfl⟩
    refine .inr ⟨source, old, ?_⟩
    split <;> rfl

/-- A model of another seat may come from a showdown, or have been there. -/
theorem seats_touchShowdownSeat {models : List OpponentModel} {seat own : Int} (other : seat ≠ own)
    (before : ∀ model ∈ models, model.seat ≠ own) :
    ∀ model ∈ touchShowdownSeat event models seat, model.seat ≠ own := by
  intro model member
  rcases mem_setItem member with set | old
  · rw [set]
    split
    · exact other
    · rename_i existing found
      exact before existing (List.mem_of_find?_eq_some found)
  · exact before model old

theorem seats_foldl_touchShowdownSeat {seats : List Int} {models : List OpponentModel} {own : Int}
    (others : ∀ seat ∈ seats, seat ≠ own) (before : ∀ model ∈ models, model.seat ≠ own) :
    ∀ model ∈ seats.foldl (touchShowdownSeat event) models, model.seat ≠ own := by
  induction seats generalizing models with
  | nil => exact before
  | cons seat rest induction =>
    apply induction fun later member => others later (List.mem_cons_of_mem _ member)
    exact seats_touchShowdownSeat (others seat List.mem_cons_self) before

theorem NoOwnModel.afterAction (none : NoOwnModel state) : NoOwnModel (withAction state event) := by
  rw [withAction_eq]
  refine ⟨?_, none.ranges, none.timings⟩
  intro model member
  show model.seat ≠ state.seat
  change model ∈ (withAction state event).opponentModels at member
  rw [withAction] at member
  split at member
  · rename_i actor
    rcases seats_touchOpponentFromAction member with same | ⟨source, old, same⟩
    · rw [same]
      exact opponentActor_ne actor
    · rw [same]
      exact none.opponents source old
  · exact none.opponents model member

theorem NoOwnModel.afterShowdown (none : NoOwnModel state) :
    NoOwnModel (withShowdown state event) := by
  rw [withShowdown_eq]
  refine ⟨?_, none.ranges, none.timings⟩
  intro model member
  show model.seat ≠ state.seat
  change model ∈ (withShowdown state event).opponentModels at member
  rw [withShowdown] at member
  split at member
  · apply seats_foldl_touchShowdownSeat _ none.opponents model member
    intro seat shown
    rw [List.mem_eraseDups, List.mem_filter] at shown
    exact of_decide_eq_true shown.2
  · exact none.opponents model member

theorem NoOwnModel.afterCadence (none : NoOwnModel state) :
    NoOwnModel (withCadence state event) := by
  rw [withCadence_eq]
  refine ⟨none.opponents, none.ranges, ?_⟩
  intro model member
  show model.seat ≠ state.seat
  change model ∈ (withCadence state event).timingModels at member
  rw [withCadence] at member
  split at member
  · rename_i actor
    rcases seats_touchTimingFromCadence member with same | ⟨source, old, same⟩
    · rw [same]
      exact opponentActor_ne actor
    · rw [same]
      exact none.timings source old
  · exact none.timings model member

theorem NoOwnModel.afterEvent (none : NoOwnModel state) :
    NoOwnModel (ingested locale state event) := by
  have before : NoOwnModel (seen locale state event) := ⟨none.opponents, none.ranges, none.timings⟩
  have after : NoOwnModel (withCadence (withShowdown (withAction
      (seen locale state event) event) event) event) :=
    before.afterAction.afterShowdown.afterCadence
  apply NoOwnModel.pruned
  exact ⟨after.opponents, after.ranges, after.timings⟩

/-! ### Copies -/

/-- A double that a text has a number for. -/
def HasNumber (value : Option Float) : Prop := value.bind jsonNumber = value

instance {value : Option Float} : Decidable (HasNumber value) :=
  inferInstanceAs (Decidable (value.bind jsonNumber = value))

/-- Every double of a memory has a number in a text. -/
structure AgentState.JsonSafe (state : AgentState) : Prop where
  averages : ∀ model ∈ state.opponentModels, HasNumber model.avgPublicCadenceMs
  means : ∀ model ∈ state.timingModels, HasNumber model.meanPublicCadenceMs
  lasts : ∀ model ∈ state.timingModels, HasNumber model.lastPublicCadenceMs
  observed : ∀ summary ∈ state.recentObservations, HasNumber summary.publicCadenceMs

/-- Such a memory is its own copy. -/
theorem AgentState.JsonSafe.copied (safe : state.JsonSafe) : cloneAgentState state = state := by
  have opponents : state.opponentModels.map OpponentModel.clone =
      state.opponentModels := by
    apply map_of_fixed
    intro model member
    rw [OpponentModel.clone, safe.averages model member]
  have timings : state.timingModels.map TimingModel.clone =
      state.timingModels := by
    apply map_of_fixed
    intro model member
    rw [TimingModel.clone, safe.means model member, safe.lasts model member]
  have observed : state.recentObservations.map ObservationSummary.clone =
      state.recentObservations := by
    apply map_of_fixed
    intro summary member
    rw [ObservationSummary.clone, safe.observed summary member]
  rw [cloneAgentState, opponents, timings, observed]

end Mozetto.AgentRuntime
