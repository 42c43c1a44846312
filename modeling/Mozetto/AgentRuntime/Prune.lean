import Mozetto.AgentRuntime.AgentState
import Mozetto.Library.BoundedLists
import Mathlib.Data.Prod.Lex

/-!
# Pruning a memory

Every list of a memory has a cap.  Of the opponents the ones with the highest
score are kept, of the range hypotheses the most confident, of the timing
models the latest, and of observations and references the last by cursor.
-/

namespace Mozetto.AgentRuntime

open Mozetto.Library.BoundedLists

def clampInt (value low high : Int) : Int := min high (max low value)

def truncateChars (text : Text) (max : Nat) : Text :=
  if text.length ≤ max then text else text.take max

def pruneEventRefs (refs : List EventRef) : List EventRef :=
  if refs.length ≤ maxSourceEventRefs then refs
  else lastItems maxSourceEventRefs (sortBy EventRef.cursor refs)

/-- Higher counts first; equal counts in the order of the locale. -/
def frequencyBefore (localeCompare : String → String → Int) (first second : String × Nat) : Bool :=
  if second.2 ≠ first.2 then second.2 < first.2
  else localeCompare first.1 second.1 ≤ 0

def pruneActionFrequencies (localeCompare : String → String → Int) (freq : List (String × Nat)) :
    List (String × Nat) :=
  if freq.length ≤ maxActionFreqKeys then freq
  else
    (freq.insertionSort fun first second =>
      frequencyBefore localeCompare first second = true).take maxActionFreqKeys

/-! ## Models of opponents -/

def opponentScore (model : OpponentModel) : Int :=
  model.recency * 1000 + model.confidence * 10 + (100 - model.seat)

/-- An empty hypothesis is none. -/
def prunedHypothesis : Option Text → Option Text
  | none => none
  | some [] => none
  | some (letter :: letters) => some (truncateChars (letter :: letters) 32)

def OpponentModel.pruned (localeCompare : String → String → Int) (model : OpponentModel) :
    OpponentModel :=
  { model with
    confidence := clampInt model.confidence 0 100
    recency := clampInt model.recency 0 1000000
    actionFrequencies := pruneActionFrequencies localeCompare model.actionFrequencies
    showdownEvidence := lastItems maxShowdownEvidence (pruneEventRefs model.showdownEvidence)
    sourceEventRefs := pruneEventRefs model.sourceEventRefs
    profileHypothesis := prunedHypothesis model.profileHypothesis }

def pruneOpponentModels (localeCompare : String → String → Int) (models : List OpponentModel) :
    List OpponentModel :=
  capped maxOpponentModels
    (fun model => toLex (-opponentScore model, model.seat)) OpponentModel.seat
    (onePerKey OpponentModel.seat (fun model earlier => opponentScore earlier ≤ opponentScore model)
      (OpponentModel.pruned localeCompare) models)

/-! ## Range hypotheses and timing models -/

def RangeHypothesis.pruned (hypothesis : RangeHypothesis) : RangeHypothesis :=
  { hypothesis with
    confidence := clampInt hypothesis.confidence 0 100
    bucket := truncateChars hypothesis.bucket 32
    sourceEventRefs := pruneEventRefs hypothesis.sourceEventRefs }

def pruneRangeHypotheses (items : List RangeHypothesis) : List RangeHypothesis :=
  capped maxRangeHypotheses (fun item =>
    toLex (-item.confidence, toLex (-item.updatedAtCursor, item.seat)))
    (fun item => toLex (item.seat, item.updatedAtCursor))
    (items.map RangeHypothesis.pruned)

def TimingModel.pruned (model : TimingModel) : TimingModel :=
  { model with sourceEventRefs := pruneEventRefs model.sourceEventRefs }

def pruneTimingModels (items : List TimingModel) : List TimingModel :=
  capped maxTimingModels (fun model => toLex (-model.updatedAtCursor, model.seat)) TimingModel.seat
    (onePerKey TimingModel.seat
      (fun model earlier => earlier.updatedAtCursor ≤ model.updatedAtCursor)
      TimingModel.pruned items)

def pruneObservations (items : List ObservationSummary) :
    List ObservationSummary :=
  lastItems maxRecentObservations (sortBy ObservationSummary.cursor items)

/-! ## The whole memory -/

def StreetPlan.pruned (plan : StreetPlan) : StreetPlan :=
  { plan with
    focusTags := (plan.focusTags.map fun tag => truncateChars tag 24).take maxStreetPlanTags
    note := truncateChars plan.note maxStreetPlanNoteChars }

def TableImage.pruned (image : TableImage) : TableImage :=
  { image with
    note := truncateChars image.note maxTableImageNoteChars
    activeSeats := sortBy id image.activeSeats }

def SelfStrategyState.pruned (strategy : SelfStrategyState) : SelfStrategyState :=
  { strategy with
    posture := truncateChars strategy.posture 32
    note := truncateChars strategy.note maxSelfStrategyNoteChars }

def pruneAgentState (localeCompare : String → String → Int) (state : AgentState) : AgentState :=
  { state with
    streetPlan := state.streetPlan.pruned
    opponentModels := pruneOpponentModels localeCompare state.opponentModels
    rangeHypotheses := pruneRangeHypotheses state.rangeHypotheses
    timingModels := pruneTimingModels state.timingModels
    tableImage := state.tableImage.pruned
    recentObservations := pruneObservations state.recentObservations
    selfStrategyState := state.selfStrategyState.pruned }

def exceedsBounds (state : AgentState) : Bool :=
  maxOpponentModels < state.opponentModels.length ||
    maxRangeHypotheses < state.rangeHypotheses.length ||
    maxTimingModels < state.timingModels.length ||
    maxRecentObservations < state.recentObservations.length ||
    maxStreetPlanTags < state.streetPlan.focusTags.length ||
    state.opponentModels.any fun model =>
      maxActionFreqKeys < model.actionFrequencies.length ||
        maxShowdownEvidence < model.showdownEvidence.length ||
        maxSourceEventRefs < model.sourceEventRefs.length

/-! ## Pruning twice -/

theorem clampInt_again {value low high : Int} (ordered : low ≤ high) :
    clampInt (clampInt value low high) low high = clampInt value low high := by
  simp only [clampInt]
  omega

theorem length_truncateChars_le (text : Text) (max : Nat) :
    (truncateChars text max).length ≤ max := by
  rw [truncateChars]
  split
  · assumption
  · exact List.length_take_le _ _

@[simp]
theorem truncateChars_again (text : Text) (max : Nat) :
    truncateChars (truncateChars text max) max = truncateChars text max := by
  conv_lhs => rw [truncateChars, if_pos (length_truncateChars_le text max)]

theorem length_pruneEventRefs_le (refs : List EventRef) :
    (pruneEventRefs refs).length ≤ maxSourceEventRefs := by
  rw [pruneEventRefs]
  split
  · assumption
  · exact length_lastItems_le _ _

@[simp]
theorem pruneEventRefs_again (refs : List EventRef) :
    pruneEventRefs (pruneEventRefs refs) = pruneEventRefs refs := by
  conv_lhs => rw [pruneEventRefs, if_pos (length_pruneEventRefs_le refs)]

/-- The references left by their own cap are within that of the evidence. -/
theorem lastItems_pruneEventRefs (refs : List EventRef) :
    lastItems maxShowdownEvidence (pruneEventRefs refs) = pruneEventRefs refs :=
  lastItems_of_short ((length_pruneEventRefs_le refs).trans (by decide))

theorem length_pruneActionFrequencies_le
    (localeCompare : String → String → Int) (freq : List (String × Nat)) :
    (pruneActionFrequencies localeCompare freq).length ≤ maxActionFreqKeys := by
  rw [pruneActionFrequencies]
  split
  · assumption
  · exact List.length_take_le _ _

@[simp]
theorem pruneActionFrequencies_again
    (localeCompare : String → String → Int) (freq : List (String × Nat)) :
    pruneActionFrequencies localeCompare (pruneActionFrequencies localeCompare freq) =
      pruneActionFrequencies localeCompare freq := by
  conv_lhs =>
    rw [pruneActionFrequencies, if_pos (length_pruneActionFrequencies_le localeCompare freq)]

@[simp]
theorem prunedHypothesis_again (hypothesis : Option Text) :
    prunedHypothesis (prunedHypothesis hypothesis) =
      prunedHypothesis hypothesis := by
  rcases hypothesis with _ | _ | ⟨letter, letters⟩
  · rfl
  · rfl
  · have starts : ∃ rest, truncateChars (letter :: letters) 32 = letter :: rest := by
      rw [truncateChars]
      split
      · exact ⟨letters, rfl⟩
      · exact ⟨letters.take 31, rfl⟩
    rcases starts with ⟨rest, same⟩
    have again := truncateChars_again (letter :: letters) 32
    rw [same] at again
    rw [prunedHypothesis, same, prunedHypothesis, again]

theorem OpponentModel.pruned_again (localeCompare : String → String → Int) (model : OpponentModel) :
    (model.pruned localeCompare).pruned localeCompare =
      model.pruned localeCompare := by
  simp only [OpponentModel.pruned, lastItems_pruneEventRefs,
    pruneActionFrequencies_again, pruneEventRefs_again, prunedHypothesis_again,
    clampInt_again (show (0 : Int) ≤ 100 by decide),
    clampInt_again (show (0 : Int) ≤ 1000000 by decide)]

theorem RangeHypothesis.pruned_again (hypothesis : RangeHypothesis) :
    hypothesis.pruned.pruned = hypothesis.pruned := by
  simp only [RangeHypothesis.pruned, truncateChars_again, pruneEventRefs_again,
    clampInt_again (show (0 : Int) ≤ 100 by decide)]

theorem TimingModel.pruned_again (model : TimingModel) : model.pruned.pruned = model.pruned := by
  simp only [TimingModel.pruned, pruneEventRefs_again]

theorem pruneOpponentModels_again
    (localeCompare : String → String → Int) (models : List OpponentModel) :
    pruneOpponentModels localeCompare (pruneOpponentModels localeCompare models) =
      pruneOpponentModels localeCompare models :=
  capped_onePerKey_again (fun _ => rfl) (OpponentModel.pruned_again localeCompare)

theorem pruneRangeHypotheses_again (items : List RangeHypothesis) :
    pruneRangeHypotheses (pruneRangeHypotheses items) =
      pruneRangeHypotheses items :=
  capped_map_capped_map RangeHypothesis.pruned_again

theorem pruneTimingModels_again (items : List TimingModel) :
    pruneTimingModels (pruneTimingModels items) = pruneTimingModels items :=
  capped_onePerKey_again (fun _ => rfl) TimingModel.pruned_again

theorem pruneObservations_again (items : List ObservationSummary) :
    pruneObservations (pruneObservations items) = pruneObservations items := by
  have sorted := (pairwise_sortBy ObservationSummary.cursor items).sublist
    (lastItems_sublist maxRecentObservations _)
  rw [pruneObservations, pruneObservations, sortBy_of_pairwise sorted]
  exact lastItems_of_short (length_lastItems_le _ _)

theorem StreetPlan.pruned_again (plan : StreetPlan) : plan.pruned.pruned = plan.pruned := by
  have tags : ((plan.focusTags.map fun tag => truncateChars tag 24).take
      maxStreetPlanTags).map (fun tag => truncateChars tag 24) =
        (plan.focusTags.map fun tag => truncateChars tag 24).take
          maxStreetPlanTags := by
    apply map_of_fixed
    intro tag member
    rcases List.mem_map.mp (List.mem_of_mem_take member) with ⟨source, -, rfl⟩
    exact truncateChars_again source 24
  simp only [StreetPlan.pruned, tags, List.take_take, min_self, truncateChars_again]

theorem TableImage.pruned_again (image : TableImage) : image.pruned.pruned = image.pruned := by
  simp only [TableImage.pruned, truncateChars_again,
    sortBy_of_pairwise (pairwise_sortBy id image.activeSeats)]

theorem SelfStrategyState.pruned_again (strategy : SelfStrategyState) :
    strategy.pruned.pruned = strategy.pruned := by
  simp only [SelfStrategyState.pruned, truncateChars_again]

/-- Pruning what was pruned changes nothing. -/
@[simp]
theorem pruneAgentState_again (localeCompare : String → String → Int) (state : AgentState) :
    pruneAgentState localeCompare (pruneAgentState localeCompare state) =
      pruneAgentState localeCompare state := by
  simp only [pruneAgentState, StreetPlan.pruned_again, TableImage.pruned_again,
    SelfStrategyState.pruned_again, pruneOpponentModels_again,
    pruneRangeHypotheses_again, pruneTimingModels_again, pruneObservations_again]

/-! ## What pruning leaves -/

section Left

variable {localeCompare : String → String → Int} {state : AgentState}

theorem exists_of_mem_pruneOpponentModels {models : List OpponentModel} {model : OpponentModel}
    (left : model ∈ pruneOpponentModels localeCompare models) :
    ∃ source ∈ models, model = source.pruned localeCompare :=
  exists_of_mem_onePerKey (mem_of_mem_capped left)

theorem exists_of_mem_pruneTimingModels {items : List TimingModel} {model : TimingModel}
    (left : model ∈ pruneTimingModels items) : ∃ source ∈ items, model = source.pruned :=
  exists_of_mem_onePerKey (mem_of_mem_capped left)

theorem exists_of_mem_pruneRangeHypotheses
    {items : List RangeHypothesis} {hypothesis : RangeHypothesis}
    (left : hypothesis ∈ pruneRangeHypotheses items) :
    ∃ source ∈ items, hypothesis = source.pruned := by
  rcases List.mem_map.mp (mem_of_mem_capped left) with ⟨source, member, same⟩
  exact ⟨source, member, same.symm⟩

theorem length_prunedTags_le (plan : StreetPlan) :
    plan.pruned.focusTags.length ≤ maxStreetPlanTags := List.length_take_le _ _

theorem not_above {length cap : Nat} (within : length ≤ cap) : decide (cap < length) = false :=
  decide_eq_false (Nat.not_lt.mpr within)

/-- What is left is within every cap. -/
theorem exceedsBounds_pruneAgentState :
    exceedsBounds (pruneAgentState localeCompare state) = false := by
  have each : ((pruneOpponentModels localeCompare state.opponentModels).any fun model =>
        maxActionFreqKeys < model.actionFrequencies.length ||
          maxShowdownEvidence < model.showdownEvidence.length ||
          maxSourceEventRefs < model.sourceEventRefs.length) = false := by
    rw [List.any_eq_false]
    intro model left
    rcases exists_of_mem_pruneOpponentModels left with ⟨source, -, rfl⟩
    rw [Bool.not_eq_true]
    have keys := not_above (length_pruneActionFrequencies_le localeCompare source.actionFrequencies)
    have evidence := not_above (length_lastItems_le maxShowdownEvidence
      (pruneEventRefs source.showdownEvidence))
    have refs := not_above (length_pruneEventRefs_le source.sourceEventRefs)
    exact Bool.or_eq_false_iff.mpr ⟨Bool.or_eq_false_iff.mpr ⟨keys, evidence⟩, refs⟩
  have opponents : (pruneOpponentModels localeCompare
      state.opponentModels).length ≤ maxOpponentModels := length_capped_le
  have ranges : (pruneRangeHypotheses state.rangeHypotheses).length ≤
      maxRangeHypotheses := length_capped_le
  have timings : (pruneTimingModels state.timingModels).length ≤
      maxTimingModels := length_capped_le
  have observed : (pruneObservations state.recentObservations).length ≤
      maxRecentObservations := length_lastItems_le _ _
  have tags := length_prunedTags_le state.streetPlan
  rw [exceedsBounds]
  simp only [pruneAgentState, each, Bool.or_false, Bool.or_eq_false_iff]
  exact ⟨⟨⟨⟨not_above opponents, not_above ranges⟩, not_above timings⟩,
    not_above observed⟩, not_above tags⟩

end Left

end Mozetto.AgentRuntime
