import Mozetto.AgentRuntime.Ingest

/-!
# Patches of a memory

Work in the background changes a memory only through a structured patch.  What
a patch says is cut to size, brought into range or left out, so that whatever
the provider answers the memory stays that of its seat, within its bounds and
without a model of the seat itself.
-/

namespace Mozetto.AgentRuntime

open Mozetto.Library.BoundedLists

/-! ## Mutators -/

section Mutators

variable (locale : Locale)

def setEnergyRemaining (state : AgentState) (energyRemaining : Int) : AgentState :=
  bump locale { state with energyRemaining := max 0 energyRemaining }

def upsertOpponentModel (state : AgentState) (model : OpponentModel) : AgentState :=
  if model.seat = state.seat then state
  else
    bump locale
      { state with
        opponentModels :=
          (state.opponentModels.filter fun other => other.seat ≠ model.seat) ++ [model] }

def upsertRangeHypothesis (state : AgentState) (hypothesis : RangeHypothesis) : AgentState :=
  if hypothesis.seat = state.seat then state
  else
    bump locale
      { state with
        rangeHypotheses :=
          (state.rangeHypotheses.filter fun other =>
            ¬(other.seat = hypothesis.seat ∧ other.street = hypothesis.street ∧
              other.bucket = hypothesis.bucket)) ++ [hypothesis] }

def upsertTimingModel (state : AgentState) (model : TimingModel) : AgentState :=
  if model.seat = state.seat then state
  else
    bump locale
      { state with
        timingModels :=
          (state.timingModels.filter fun other => other.seat ≠ model.seat) ++ [model] }

def setStreetPlan (state : AgentState) (focusTags : Option (List Text)) (note : Option Text)
    (updatedAtCursor : Int) : AgentState :=
  bump locale
    { state with
      streetPlan :=
        { state.streetPlan with
          focusTags := focusTags.getD state.streetPlan.focusTags
          note := note.getD state.streetPlan.note
          updatedAtCursor := updatedAtCursor } }

def setSelfStrategy (state : AgentState) (posture note : Option Text) (updatedAtCursor : Int) :
    AgentState :=
  bump locale
    { state with
      selfStrategyState :=
        { posture := posture.getD state.selfStrategyState.posture
          note := note.getD state.selfStrategyState.note
          updatedAtCursor := updatedAtCursor } }

end Mutators

/-! ## What a patch may say -/

structure StreetPlanPatch where
  focusTags : Option (List Text) := none
  note : Option Text := none

structure SelfStrategyPatch where
  posture : Option Text := none
  note : Option Text := none

/-- The hypothesis may be left as it is, taken back, or replaced. -/
structure OpponentConfidenceDelta where
  seat : Int
  delta : Float
  profileHypothesis : Option (Option Text) := none

structure RangeSuggestion where
  seat : Int
  street : StreetName
  confidence : Float
  bucket : Text

structure TimingSample where
  seat : Int
  publicCadenceMs : Float

structure BackgroundStatePatch where
  streetPlan : Option StreetPlanPatch := none
  selfStrategy : Option SelfStrategyPatch := none
  opponentConfidenceDelta : Option (List OpponentConfidenceDelta) := none
  rangeHypotheses : Option (List RangeSuggestion) := none
  timingSamples : Option (List TimingSample) := none

/-- `Object.keys(patch).length > 0`. -/
def BackgroundStatePatch.hasKeys (patch : BackgroundStatePatch) : Bool :=
  patch.streetPlan.isSome || patch.selfStrategy.isSome ||
    patch.opponentConfidenceDelta.isSome || patch.rangeHypotheses.isSome ||
    patch.timingSamples.isSome

def ALLOWED_POSTURES : List Text :=
  ["default", "pressure", "pot_control", "probe", "trap", "bluff_catch", "value",
    "fold_equity"].map asciiText

def ALLOWED_BUCKETS : List Text :=
  ["strong", "medium", "draw", "air", "polarized", "capped", "unknown"].map asciiText

/-- The nearest whole number from nought to a hundred; halves go up. -/
def clamp01_100 (n : Float) : Int :=
  if !n.isFinite || n <= 0 then 0
  else if 100 <= n then 100
  else (if 0.5 <= n - n.floor then n.floor + 1 else n.floor).toUInt8.toNat

/-- White space and line ends of the language. -/
def isSpace (letter : UInt16) : Bool :=
  (9 ≤ letter && letter ≤ 13) || (0x2000 ≤ letter && letter ≤ 0x200A) ||
    [32, 0xA0, 0x1680, 0x2028, 0x2029, 0x202F, 0x205F, 0x3000, 0xFEFF].contains letter

/-- `text.trim()`. -/
def trimmed (text : Text) : Text := (((text.dropWhile isSpace).reverse).dropWhile isSpace).reverse

def sanitizeNote (note : Option Text) (max : Nat := 64) : Option Text :=
  (note.map fun text => (trimmed text).take max).filter fun text => !text.isEmpty

/-- `/^[a-z0-9_]+$/`. -/
def isTag (text : Text) : Bool :=
  !text.isEmpty && text.all fun letter =>
    (97 ≤ letter && letter ≤ 122) || (48 ≤ letter && letter ≤ 57) || letter = 95

section Patch

variable (locale : Locale) (toLowerCase : Text → Text)

def sanitizeTags (tags : Option (List Text)) (max : Nat := 4) : Option (List Text) :=
  match tags with
  | none | some [] => none
  | some tags =>
    some (((tags.map fun tag => (toLowerCase (trimmed tag)).take 24).filter isTag).take max)

def applyStreetPlan (cursor : Int) (state : AgentState) (plan : StreetPlanPatch) : AgentState :=
  setStreetPlan locale state (sanitizeTags toLowerCase plan.focusTags)
    (sanitizeNote plan.note) cursor

def applySelfStrategy
    (cursor : Int) (state : AgentState) (strategy : SelfStrategyPatch) : AgentState :=
  setSelfStrategy locale state
    ((strategy.posture.map fun posture => toLowerCase (trimmed posture)).filter
      ALLOWED_POSTURES.contains) (sanitizeNote strategy.note) cursor

def applyOpponentDelta
    (cursor : Int) (state : AgentState) (d : OpponentConfidenceDelta) : AgentState :=
  if d.seat = state.seat then state
  else
    let existing := findKey OpponentModel.seat d.seat state.opponentModels
    upsertOpponentModel locale state
      { seat := d.seat
        confidence :=
          clamp01_100 (Float.ofInt ((existing.map OpponentModel.confidence).getD 10) + d.delta)
        recency := cursor
        actionFrequencies := (existing.map OpponentModel.actionFrequencies).getD []
        avgPublicCadenceMs := existing.bind OpponentModel.avgPublicCadenceMs
        showdownEvidence := (existing.map OpponentModel.showdownEvidence).getD []
        profileHypothesis :=
          match d.profileHypothesis with
          | none => existing.bind OpponentModel.profileHypothesis
          | some hypothesis => sanitizeNote hypothesis 24
        sourceEventRefs :=
          lastItems 4 ((existing.map OpponentModel.sourceEventRefs).getD [] ++ [⟨cursor, none⟩])
        updatedAtCursor := cursor }

def applyRangeSuggestion (cursor : Int) (state : AgentState) (h : RangeSuggestion) : AgentState :=
  let bucket := toLowerCase (trimmed h.bucket)
  if h.seat = state.seat then state
  else if !ALLOWED_BUCKETS.contains bucket then state
  else
    upsertRangeHypothesis locale state
      { seat := h.seat
        street := h.street
        confidence := clamp01_100 h.confidence
        bucket := bucket
        sourceEventRefs := [⟨cursor, none⟩]
        updatedAtCursor := cursor }

def applyTimingSample (cursor : Int) (state : AgentState) (t : TimingSample) : AgentState :=
  if t.seat = state.seat then state
  else if !t.publicCadenceMs.isFinite || t.publicCadenceMs < 0 then state
  else
    let existing := findKey TimingModel.seat t.seat state.timingModels
    upsertTimingModel locale state
      { seat := t.seat
        sampleCount := (existing.map TimingModel.sampleCount).getD 0 + 1
        meanPublicCadenceMs :=
          some ((existing.map fun model => nextMean model t.publicCadenceMs).getD t.publicCadenceMs)
        lastPublicCadenceMs := some t.publicCadenceMs
        sourceEventRefs :=
          lastItems 4 ((existing.map TimingModel.sourceEventRefs).getD [] ++ [⟨cursor, none⟩])
        updatedAtCursor := cursor }

/-- One change after the other; those with nothing to say change nothing. -/
def applyBackgroundPatch
    (state : AgentState) (patch : BackgroundStatePatch) (cursor : Int) : AgentState :=
  let planned := patch.streetPlan.toList.foldl (applyStreetPlan locale toLowerCase cursor) state
  let postured :=
    patch.selfStrategy.toList.foldl (applySelfStrategy locale toLowerCase cursor) planned
  let modelled :=
    (patch.opponentConfidenceDelta.getD []).foldl (applyOpponentDelta locale cursor) postured
  let ranged :=
    (patch.rangeHypotheses.getD []).foldl (applyRangeSuggestion locale toLowerCase cursor) modelled
  (patch.timingSamples.getD []).foldl (applyTimingSample locale cursor) ranged

end Patch

/-! ## What a patch leaves alone -/

/-- Pruned, and without a model of the seat itself. -/
structure Tidy (locale : Locale) (state : AgentState) : Prop where
  pruned : pruneAgentState locale.localeCompare state = state
  others : NoOwnModel state

theorem Tidy.within {locale : Locale} {state : AgentState} (tidy : Tidy locale state) :
    exceedsBounds state = false := by
  rw [← tidy.pruned]
  exact exceedsBounds_pruneAgentState

/-- The memory of the same seat, no earlier, with the same energy. -/
structure Remembered (locale : Locale) (before after : AgentState) : Prop where
  madeFor : ∀ created, MadeFor created before → MadeFor created after
  publicEventCursor : before.publicEventCursor ≤ after.publicEventCursor
  energyRemaining : after.energyRemaining = before.energyRemaining
  tidy : Tidy locale before → Tidy locale after

namespace Remembered

variable {locale : Locale} {toLowerCase : Text → Text} {cursor : Int}
variable {before middle after state : AgentState}

theorem refl (state : AgentState) : Remembered locale state state :=
  ⟨fun _ made => made, le_rfl, rfl, fun tidy => tidy⟩

theorem trans (earlier : Remembered locale before middle) (later : Remembered locale middle after) :
    Remembered locale before after where
  madeFor created made := later.madeFor created (earlier.madeFor created made)
  publicEventCursor := earlier.publicEventCursor.trans later.publicEventCursor
  energyRemaining := later.energyRemaining.trans earlier.energyRemaining
  tidy tidy := later.tidy (earlier.tidy tidy)

theorem foldl {Change : Type} {apply : AgentState → Change → AgentState}
    (each : ∀ state change, Remembered locale state (apply state change))
    (changes : List Change) (state : AgentState) :
    Remembered locale state (changes.foldl apply state) := by
  induction changes generalizing state with
  | nil => exact refl state
  | cons change rest induction => exact (each state change).trans (induction _)

/-- What a patch changes, pruned. -/
theorem bumped {streetPlan : StreetPlan} {opponentModels : List OpponentModel}
    {rangeHypotheses : List RangeHypothesis} {timingModels : List TimingModel}
    {selfStrategyState : SelfStrategyState}
    (opponents : NoOwnModel before → ∀ model ∈ opponentModels, model.seat ≠ before.seat)
    (ranges : NoOwnModel before → ∀ model ∈ rangeHypotheses, model.seat ≠ before.seat)
    (timings : NoOwnModel before → ∀ model ∈ timingModels, model.seat ≠ before.seat) :
    Remembered locale before (bump locale
        { before with
          streetPlan := streetPlan
          opponentModels := opponentModels
          rangeHypotheses := rangeHypotheses
          timingModels := timingModels
          selfStrategyState := selfStrategyState }) where
  madeFor _ made := ⟨made.sessionId, made.handId, made.seat, made.profileHash⟩
  publicEventCursor := le_rfl
  energyRemaining := rfl
  tidy tidy :=
    ⟨pruneAgentState_again _ _, NoOwnModel.pruned
      ⟨opponents tidy.others, ranges tidy.others, timings tidy.others⟩⟩

theorem of_ingested {event : PublicTableEvent} (next : state.publicEventCursor < event.cursor) :
    Remembered locale state (ingested locale state event) := by
  refine ⟨fun _ made => made.afterEvent, ?_, ?_, fun tidy => ?_⟩
  · rw [ingested_publicEventCursor]
    exact next.le
  · rcases @ingested_eq locale state event with ⟨_, _, same⟩
    rw [same]
    rfl
  · exact ⟨pruneAgentState_ingested, tidy.others.afterEvent⟩

/-! ### The changes of a patch -/

theorem setStreetPlan (focusTags : Option (List Text)) (note : Option Text) :
    Remembered locale state (AgentRuntime.setStreetPlan locale state focusTags note cursor) :=
  bumped NoOwnModel.opponents NoOwnModel.ranges NoOwnModel.timings

theorem setSelfStrategy (posture note : Option Text) : Remembered locale state
    (AgentRuntime.setSelfStrategy locale state posture note cursor) :=
  bumped NoOwnModel.opponents NoOwnModel.ranges NoOwnModel.timings

/-- One more model of another seat. -/
theorem all_of_filter_append {Model : Type} {seat : Model → Int} {own : Int}
    {models : List Model} {keep : Model → Bool} {model : Model} (other : seat model ≠ own)
    (others : ∀ model ∈ models, seat model ≠ own) :
    ∀ found ∈ models.filter keep ++ [model], seat found ≠ own := by
  intro found member
  rcases List.mem_append.mp member with earlier | new
  · exact others found (List.mem_of_mem_filter earlier)
  · rw [List.mem_singleton.mp new]
    exact other

theorem upsertOpponentModel (model : OpponentModel) :
    Remembered locale state (AgentRuntime.upsertOpponentModel locale state model) := by
  rw [AgentRuntime.upsertOpponentModel]
  split
  · exact refl state
  · rename_i other
    exact bumped (fun kept => all_of_filter_append other kept.opponents) NoOwnModel.ranges
      NoOwnModel.timings

theorem upsertRangeHypothesis (hypothesis : RangeHypothesis) : Remembered locale state
    (AgentRuntime.upsertRangeHypothesis locale state hypothesis) := by
  rw [AgentRuntime.upsertRangeHypothesis]
  split
  · exact refl state
  · rename_i other
    exact bumped NoOwnModel.opponents
      (fun kept => all_of_filter_append other kept.ranges) NoOwnModel.timings

theorem upsertTimingModel (model : TimingModel) :
    Remembered locale state (AgentRuntime.upsertTimingModel locale state model) := by
  rw [AgentRuntime.upsertTimingModel]
  split
  · exact refl state
  · rename_i other
    exact bumped NoOwnModel.opponents NoOwnModel.ranges fun kept =>
      all_of_filter_append other kept.timings

theorem applyOpponentDelta (d : OpponentConfidenceDelta) :
    Remembered locale state (AgentRuntime.applyOpponentDelta locale cursor state d) := by
  rw [AgentRuntime.applyOpponentDelta]
  split
  · exact refl state
  · exact upsertOpponentModel _

theorem applyRangeSuggestion (h : RangeSuggestion) : Remembered locale state
    (AgentRuntime.applyRangeSuggestion locale toLowerCase cursor state h) := by
  rw [AgentRuntime.applyRangeSuggestion]
  split
  · exact refl state
  · split
    · exact refl state
    · exact upsertRangeHypothesis _

theorem applyTimingSample (t : TimingSample) :
    Remembered locale state (AgentRuntime.applyTimingSample locale cursor state t) := by
  rw [AgentRuntime.applyTimingSample]
  split
  · exact refl state
  · split
    · exact refl state
    · exact upsertTimingModel _

end Remembered

/--
Whatever the provider answers, the memory stays that of its seat, with its
energy and its place in the hand, within its bounds and without a model of the
seat itself.
-/
theorem remembered_applyBackgroundPatch
    {locale : Locale} {toLowerCase : Text → Text} {state : AgentState}
    (patch : BackgroundStatePatch) (cursor : Int) : Remembered locale state
    (applyBackgroundPatch locale toLowerCase state patch cursor) :=
  ((((Remembered.foldl (fun _ _ => Remembered.setStreetPlan _ _) _ _).trans
    (Remembered.foldl (fun _ _ => Remembered.setSelfStrategy _ _) _ _)).trans
    (Remembered.foldl (fun _ _ => Remembered.applyOpponentDelta _) _ _)).trans
    (Remembered.foldl (fun _ _ => Remembered.applyRangeSuggestion _) _ _)).trans
    (Remembered.foldl (fun _ _ => Remembered.applyTimingSample _) _ _)

end Mozetto.AgentRuntime
