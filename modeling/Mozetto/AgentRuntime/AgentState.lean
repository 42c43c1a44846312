import Mathlib.Data.List.Basic

/-!
# The private memory of a seat

What the agent of one seat remembers about the public course of a hand: the
table as last seen, the latest observations, and one model for each opponent.
A checkpoint is such a memory with the seat and the hand it belongs to.

A cadence is a double; all other numbers are whole.  A text that may be cut
short is a list of code units.  The entries of a record stand in the order in
which they are listed.
-/

namespace Mozetto.AgentRuntime

inductive StreetName
  | waiting
  | dealing
  | preflop
  | flop
  | turn
  | river
  | showdown
  | settlement
deriving DecidableEq, Repr

def StreetName.text : StreetName → String
  | waiting => "waiting"
  | dealing => "dealing"
  | preflop => "preflop"
  | flop => "flop"
  | turn => "turn"
  | river => "river"
  | showdown => "showdown"
  | settlement => "settlement"

def StreetName.upperCase : StreetName → String
  | waiting => "WAITING"
  | dealing => "DEALING"
  | preflop => "PREFLOP"
  | flop => "FLOP"
  | turn => "TURN"
  | river => "RIVER"
  | showdown => "SHOWDOWN"
  | settlement => "SETTLEMENT"

/-- `street.slice(0, 2)`. -/
def StreetName.firstTwo : StreetName → String
  | waiting => "wa"
  | dealing => "de"
  | preflop => "pr"
  | flop => "fl"
  | turn => "tu"
  | river => "ri"
  | showdown => "sh"
  | settlement => "se"

inductive PublicEventKind
  | handStart
  | street
  | action
  | board
  | showdown
  | handEnd
  | other
deriving DecidableEq, Repr

def PublicEventKind.upperCase : PublicEventKind → String
  | handStart => "HAND_START"
  | street => "STREET"
  | action => "ACTION"
  | board => "BOARD"
  | showdown => "SHOWDOWN"
  | handEnd => "HAND_END"
  | other => "OTHER"

/-- The code units of a text. -/
abbrev Text := List UInt16

def asciiText (text : String) : Text := text.toList.map fun letter => letter.toNat.toUInt16

/-- An amount as an event carries it. -/
inductive StringOrNumber
  | string (text : String)
  | number (value : Float)
deriving DecidableEq, Repr

/-! ## What a seat remembers -/

structure EventRef where
  cursor : Int
  eventId : Option String
deriving DecidableEq, Repr

structure StreetPlan where
  street : StreetName
  focusTags : List Text
  note : Text
  updatedAtCursor : Int
deriving DecidableEq, Repr

structure OpponentModel where
  seat : Int
  confidence : Int
  recency : Int
  actionFrequencies : List (String × Nat)
  avgPublicCadenceMs : Option Float
  showdownEvidence : List EventRef
  profileHypothesis : Option Text
  sourceEventRefs : List EventRef
  updatedAtCursor : Int
deriving DecidableEq, Repr

structure RangeHypothesis where
  seat : Int
  street : StreetName
  confidence : Int
  bucket : Text
  sourceEventRefs : List EventRef
  updatedAtCursor : Int
deriving DecidableEq, Repr

/-- The mean is missing when it went through a text that had no number for it. -/
structure TimingModel where
  seat : Int
  sampleCount : Nat
  meanPublicCadenceMs : Option Float
  lastPublicCadenceMs : Option Float
  sourceEventRefs : List EventRef
  updatedAtCursor : Int
deriving DecidableEq, Repr

structure TableImage where
  street : StreetName
  pot : String
  stacksBySeat : List (String × String)
  boardCardCount : Nat
  activeSeats : List Int
  note : Text
  updatedAtCursor : Int
deriving DecidableEq, Repr

structure ObservationSummary where
  cursor : Int
  eventId : Option String
  kind : PublicEventKind
  actorSeat : Option Int
  street : StreetName
  summaryCode : String
  amount : Option String
  publicCadenceMs : Option Float
deriving DecidableEq, Repr

structure SelfStrategyState where
  posture : Text
  note : Text
  updatedAtCursor : Int
deriving DecidableEq, Repr

structure AgentState where
  schemaVersion : Nat
  sessionId : String
  handId : String
  seat : Int
  profileHash : String
  energyRemaining : Int
  publicEventCursor : Int
  streetPlan : StreetPlan
  opponentModels : List OpponentModel
  rangeHypotheses : List RangeHypothesis
  timingModels : List TimingModel
  tableImage : TableImage
  recentObservations : List ObservationSummary
  selfStrategyState : SelfStrategyState
  memoryVersion : Nat
deriving DecidableEq, Repr

/-! ## What a seat is told -/

structure PublicTableEvent where
  cursor : Int
  eventId : Option String := none
  kind : PublicEventKind
  street : StreetName
  actorSeat : Option Int := none
  actionType : Option Int := none
  amount : Option StringOrNumber := none
  pot : Option StringOrNumber := none
  stacksBySeat : Option (List (String × StringOrNumber)) := none
  activeSeats : Option (List Int) := none
  boardCardCount : Option Nat := none
  publicCadenceMs : Option Float := none
  summaryCode : Option String := none
  showdownSeats : Option (List Int) := none
deriving DecidableEq, Repr

/-! ## Checkpoints -/

structure AgentStateKey where
  sessionId : String
  handId : String
  seat : Int
deriving DecidableEq, Repr

structure AgentStateCheckpoint where
  schemaVersion : Nat
  key : AgentStateKey
  memoryVersion : Nat
  publicEventCursor : Int
  state : AgentState
  savedAtMs : Int
  checkpointId : String
deriving DecidableEq, Repr

def stateKeyOf (state : AgentState) : AgentStateKey where
  sessionId := state.sessionId
  handId := state.handId
  seat := state.seat

/-! ## Bounds -/

def agentStateSchemaVersion : Nat := 1
def energyPerHand : Int := 100
def maxOpponentModels : Nat := 5
def maxRangeHypotheses : Nat := 8
def maxTimingModels : Nat := 5
def maxRecentObservations : Nat := 32
def maxActionFreqKeys : Nat := 16
def maxShowdownEvidence : Nat := 8
def maxSourceEventRefs : Nat := 4
def maxStreetPlanNoteChars : Nat := 128
def maxStreetPlanTags : Nat := 6
def maxSelfStrategyNoteChars : Nat := 96
def maxTableImageNoteChars : Nat := 64

/--
What the language does with texts and numbers: the order of two texts in the
locale, and the text of a number.
-/
structure Locale where
  localeCompare : String → String → Int
  numberText : Float → String

end Mozetto.AgentRuntime
