import Mathlib.Data.List.Basic
import Mathlib.Tactic.Common
import Mathlib.Data.List.Induction
import Mozetto.Library.PrefixFilter
import Mozetto.Library.TransitionSystem

/-!
# The delay buffer of spectators

Frames of messages wait in a queue until they are old enough.  A flush takes
the frames that have become due and marks them as delivered; delivered frames
stay for spectators who subscribe late, until they are too old and leave at the
front.
-/

namespace Mozetto.GameServer

/-- A message, by its type and its other fields. -/
structure SpectatorOutboundMessage (Fields : Type) where
  type : String
  fields : Fields
deriving DecidableEq

structure SpectatorBufferedFrame (Fields : Type) where
  enqueuedAt : Int
  messages : List (SpectatorOutboundMessage Fields)
  delivered : Bool
deriving DecidableEq

structure SpectatorDelayBuffer (Fields : Type) where
  delayMs : Int
  maxRetainMs : Int
  frames : List (SpectatorBufferedFrame Fields)

variable {Fields : Type}

/-- A time at which something enqueued then is old enough. -/
def isDue (delayMs enqueuedAt time : Int) : Bool := !(time - enqueuedAt < delayMs)

/-- The last snapshot among messages, or else an earlier one. -/
def latestSnapshot (best : Option (SpectatorOutboundMessage Fields))
    (messages : List (SpectatorOutboundMessage Fields)) :
    Option (SpectatorOutboundMessage Fields) :=
  messages.foldl
    (fun best message => if message.type = "snapshot" then some message else best)
    best

/-- The lesser of a wait and the least before it, if there is one. -/
def sooner (min : Option Int) (clamped : Int) : Option Int :=
  match min with
  | none => some clamped
  | some least => if clamped < least then some clamped else some least

namespace SpectatorDelayBuffer

variable (buffer : SpectatorDelayBuffer Fields)

/-- Delivered frames that are too old leave at the front. -/
def trim (time : Int) : SpectatorDelayBuffer Fields :=
  { buffer with
    frames :=
      buffer.frames.dropWhile fun head =>
        !(time - buffer.maxRetainMs ≤ head.enqueuedAt) && head.delivered }

def enqueue (messages : List (SpectatorOutboundMessage Fields)) (time : Int) :
    SpectatorDelayBuffer Fields :=
  if messages.isEmpty then buffer
  else
    trim
      { buffer with
        frames :=
          buffer.frames ++ [{ enqueuedAt := time, messages := messages, delivered := false }] }
      time

/-- A frame that a flush takes. -/
def newlyDue (time : Int) (frame : SpectatorBufferedFrame Fields) : Bool :=
  !frame.delivered && isDue buffer.delayMs frame.enqueuedAt time

/-- The frames that are newly due; they are marked as delivered. -/
def takeDue (time : Int) : List (SpectatorBufferedFrame Fields) × SpectatorDelayBuffer Fields :=
  ((buffer.frames.filter (buffer.newlyDue time)).map fun frame =>
      { frame with delivered := true },
    trim
      { buffer with
        frames :=
          buffer.frames.map fun frame =>
            if buffer.newlyDue time frame then { frame with delivered := true }
            else frame }
      time)

/-- The latest snapshot that is due, for a spectator who subscribes. -/
def latestDueSnapshot (time : Int) : Option (SpectatorOutboundMessage Fields) :=
  (buffer.frames.filter fun frame =>
    isDue buffer.delayMs frame.enqueuedAt time).foldl
      (fun best frame => latestSnapshot best frame.messages) none

/-- The time until a frame becomes due. -/
def clampedWait (time : Int) (frame : SpectatorBufferedFrame Fields) : Int :=
  let wait := buffer.delayMs - (time - frame.enqueuedAt)
  max 0 wait

/-- The time until the next frame becomes due, if any waits. -/
def msUntilNextDue (time : Int) : Option Int :=
  (buffer.frames.filter fun frame => !frame.delivered).foldl
    (fun min frame => sooner min (buffer.clampedWait time frame)) none

end SpectatorDelayBuffer

end Mozetto.GameServer

/-!
## Runs of the delay buffer

A run keeps beside the buffer all frames that were ever enqueued, with what has
become of each, and the frames that flushes have returned.  The buffer holds
those of them that have not been dropped.
-/

namespace Mozetto.GameServer

open Mozetto.Library.PrefixFilter
open Mozetto.Library.TransitionSystem

variable {Fields : Type}

/-! ### Runs -/

/-- A frame that was enqueued, and what has become of it. -/
structure EnqueuedFrame (Fields : Type) where
  enqueuedAt : Int
  messages : List (SpectatorOutboundMessage Fields)
  returned : Bool
  dropped : Bool
deriving DecidableEq

namespace EnqueuedFrame

/-- A frame that has just been enqueued. -/
def enqueued (messages : List (SpectatorOutboundMessage Fields)) (time : Int) :
    EnqueuedFrame Fields where
  enqueuedAt := time
  messages := messages
  returned := false
  dropped := false

/-- The frame as the buffer holds it. -/
def held (frame : EnqueuedFrame Fields) : SpectatorBufferedFrame Fields where
  enqueuedAt := frame.enqueuedAt
  messages := frame.messages
  delivered := frame.returned

/-- The frame as a flush returns it. -/
def delivered (frame : EnqueuedFrame Fields) : SpectatorBufferedFrame Fields where
  enqueuedAt := frame.enqueuedAt
  messages := frame.messages
  delivered := true

/-- A flush returns the frame once it is due. -/
def flush (delayMs time : Int) (frame : EnqueuedFrame Fields) :
    EnqueuedFrame Fields :=
  { frame with
    returned := frame.returned || isDue delayMs frame.enqueuedAt time }

/-- Enqueued so long ago that it need not be kept. -/
def isOld (maxRetainMs time : Int) (frame : EnqueuedFrame Fields) : Bool :=
  !(time - maxRetainMs ≤ frame.enqueuedAt)

/-- A frame that has been returned is dropped when it is found old. -/
def drop (maxRetainMs time : Int) (frame : EnqueuedFrame Fields) :
    EnqueuedFrame Fields :=
  { frame with
    dropped := frame.dropped || frame.isOld maxRetainMs time && frame.returned }

def hasSnapshot (frame : EnqueuedFrame Fields) : Bool :=
  frame.messages.any (·.type = "snapshot")

/-- The snapshot of a frame. -/
def snapshot (frame : EnqueuedFrame Fields) : Option (SpectatorOutboundMessage Fields) :=
  latestSnapshot none frame.messages

end EnqueuedFrame

structure SpectatorRun (Fields : Type) where
  buffer : SpectatorDelayBuffer Fields
  clock : Int
  enqueued : List (EnqueuedFrame Fields)
  taken : List (SpectatorBufferedFrame Fields)

inductive SpectatorCall (Fields : Type) where
  | enqueue (messages : List (SpectatorOutboundMessage Fields)) (time : Int)
  | takeDue (time : Int)
  | latestDueSnapshot (time : Int)
  | msUntilNextDue (time : Int)

def SpectatorCall.time : SpectatorCall Fields → Int
  | .enqueue _ time => time
  | .takeDue time => time
  | .latestDueSnapshot time => time
  | .msUntilNextDue time => time

namespace SpectatorRun

variable (run : SpectatorRun Fields)

def step : SpectatorCall Fields → SpectatorRun Fields
  | .enqueue messages time =>
      { run with
        buffer := run.buffer.enqueue messages time
        clock := time
        enqueued :=
          if messages.isEmpty then run.enqueued
          else
            (run.enqueued ++ [EnqueuedFrame.enqueued messages time]).map
              (EnqueuedFrame.drop run.buffer.maxRetainMs time) }
  | .takeDue time =>
      { buffer := (run.buffer.takeDue time).2
        clock := time
        enqueued :=
          (run.enqueued.map (EnqueuedFrame.flush run.buffer.delayMs time)).map
            (EnqueuedFrame.drop run.buffer.maxRetainMs time)
        taken := run.taken ++ (run.buffer.takeDue time).1 }
  | .latestDueSnapshot time => { run with clock := time }
  | .msUntilNextDue time => { run with clock := time }

/-- Times do not decrease. -/
def InOrder (call : SpectatorCall Fields) : Prop := run.clock ≤ call.time

instance (call : SpectatorCall Fields) : Decidable (run.InOrder call) :=
  inferInstanceAs (Decidable (_ ≤ _))

end SpectatorRun

/-- The runs of a buffer that is made with a delay and a time to retain. -/
def spectatorRuns (delayMs maxRetainMs : Int) :
    System (SpectatorRun Fields) (SpectatorCall Fields) Unit where
  initial run :=
    run.buffer = ⟨delayMs, maxRetainMs, []⟩ ∧ run.enqueued = [] ∧ run.taken = []
  step run call := .ok (run.step call)

/-! ### The law -/

section Law

variable (run : SpectatorRun Fields)

namespace SpectatorRun

/-- The enqueued frames that are due. -/
def due (time : Int) : List (EnqueuedFrame Fields) :=
  run.enqueued.filter fun frame =>
    isDue run.buffer.delayMs frame.enqueuedAt time

/-- The latest enqueued frame that is due and has a snapshot. -/
def latestDue (time : Int) : Option (EnqueuedFrame Fields) :=
  ((run.due time).filter EnqueuedFrame.hasSnapshot).getLast?

/-- Frames are late, and none is missed. -/
structure Punctual : Prop where
  lateFrames : ∀ time, run.clock ≤ time → ∀ frame ∈ (run.buffer.takeDue time).1,
      run.buffer.delayMs ≤ time - frame.enqueuedAt
  lateSnapshot : ∀ time, run.clock ≤ time → ∀ message ∈ run.buffer.latestDueSnapshot time,
        ∃ frame ∈ run.enqueued, message ∈ frame.messages ∧
          run.buffer.delayMs ≤ time - frame.enqueuedAt
  inOrder : run.taken <+: run.enqueued.map EnqueuedFrame.delivered
  once : ∀ time, run.clock ≤ time → run.taken ++ (run.buffer.takeDue time).1 =
        (run.due time).map EnqueuedFrame.delivered
  next : ∀ time, run.clock ≤ time → (run.buffer.msUntilNextDue time = some 0 ↔
        (run.buffer.takeDue time).1 ≠ [])

/-- The latest snapshot that is due is found, however old it is. -/
def CatchesUp : Prop :=
  ∀ time, run.clock ≤ time → run.buffer.latestDueSnapshot time =
      (run.latestDue time).bind EnqueuedFrame.snapshot

/-- The latest snapshot that is due is found, unless it has been dropped. -/
def CatchesUpWithRetained : Prop :=
  ∀ time, run.clock ≤ time → run.buffer.latestDueSnapshot time =
      (run.latestDue time).bind fun frame =>
        if frame.dropped then none else frame.snapshot

end SpectatorRun

end Law

/-! ### Frames in the buffer -/

section Frames

variable {delayMs maxRetainMs time : Int}
variable {frames : List (EnqueuedFrame Fields)}

/-- The frames that have not been dropped, as the buffer holds them. -/
def heldFrames (frames : List (EnqueuedFrame Fields)) : List (SpectatorBufferedFrame Fields) :=
  (frames.filter fun frame => !frame.dropped).map EnqueuedFrame.held

/-- Frames in the order of their times. -/
def Sorted (frames : List (EnqueuedFrame Fields)) : Prop :=
  frames.Pairwise fun earlier later => earlier.enqueuedAt ≤ later.enqueuedAt

theorem isDue_iff {enqueuedAt : Int} :
    isDue delayMs enqueuedAt time = true ↔ delayMs ≤ time - enqueuedAt := by
  rw [isDue, Bool.not_eq_true', decide_eq_false_iff_not, Int.not_lt]

theorem EnqueuedFrame.isOld_iff {frame : EnqueuedFrame Fields} :
    frame.isOld maxRetainMs time = true ↔ frame.enqueuedAt < time - maxRetainMs := by
  rw [EnqueuedFrame.isOld, Bool.not_eq_true', decide_eq_false_iff_not, Int.not_le]

theorem due_downward (sorted : Sorted frames) :
    Downward (fun frame => isDue delayMs frame.enqueuedAt time) frames := by
  refine sorted.imp fun {earlier later} before due => ?_
  rw [isDue_iff] at due ⊢
  exact Int.le_trans due (Int.sub_le_sub_left before time)

theorem old_downward (sorted : Sorted frames) (returned : Downward (·.returned) frames) : Downward
    (fun frame => frame.isOld maxRetainMs time && frame.returned) frames := by
  refine (sorted.and returned).imp fun {earlier later} both old => ?_
  rw [Bool.and_eq_true, EnqueuedFrame.isOld_iff] at old ⊢
  exact ⟨Int.lt_of_le_of_lt both.1 old.1, both.2 old.2⟩

/-- Trimming drops what is old. -/
theorem heldFrames_drop (sorted : Sorted frames) (returned : Downward (·.returned) frames) :
    ((heldFrames frames).dropWhile fun head =>
      !(time - maxRetainMs ≤ head.enqueuedAt) && head.delivered) =
      heldFrames (frames.map (EnqueuedFrame.drop maxRetainMs time)) := by
  have old : Downward (fun frame => frame.isOld maxRetainMs time && frame.returned)
      (frames.filter fun frame => !frame.dropped) :=
    (old_downward sorted returned).sublist List.filter_sublist
  rw [heldFrames, heldFrames, List.dropWhile_map, List.filter_map, List.map_map]
  have kept := old.dropWhile_eq_filter
  rw [List.filter_filter] at kept
  refine (congrArg (List.map EnqueuedFrame.held) kept).trans ?_
  refine congrArg (List.map EnqueuedFrame.held) (List.filter_congr ?_)
  intro frame _
  rw [Function.comp_apply, EnqueuedFrame.drop, Bool.not_or, Bool.and_comm]

/-- A flush marks what is due. -/
theorem heldFrames_flush (buffer : SpectatorDelayBuffer Fields) :
    ((heldFrames frames).map fun frame =>
      if buffer.newlyDue time frame then { frame with delivered := true }
      else frame) =
      heldFrames (frames.map (EnqueuedFrame.flush buffer.delayMs time)) := by
  rw [heldFrames, heldFrames, List.map_map, List.filter_map, List.map_map]
  refine List.map_congr_left fun frame _ => ?_
  rw [Function.comp_apply, Function.comp_apply, EnqueuedFrame.held,
    EnqueuedFrame.held, EnqueuedFrame.flush, SpectatorDelayBuffer.newlyDue]
  cases frame.returned with
  | true => rfl
  | false =>
    cases isDue buffer.delayMs frame.enqueuedAt time with
    | true => rfl
    | false => rfl

/-- What a flush returns is what is due and has not been returned. -/
theorem newlyDue_heldFrames (buffer : SpectatorDelayBuffer Fields)
    (dropped : ∀ frame ∈ frames, frame.dropped = true → frame.returned = true) :
    (((heldFrames frames).filter (buffer.newlyDue time)).map fun frame =>
      { frame with delivered := true }) =
      (frames.filter fun frame =>
        !frame.returned && isDue buffer.delayMs frame.enqueuedAt time).map
          EnqueuedFrame.delivered := by
  rw [heldFrames, List.filter_map, List.map_map, List.filter_filter]
  refine congrArg (List.map EnqueuedFrame.delivered) (List.filter_congr ?_)
  intro frame member
  rw [Function.comp_apply, SpectatorDelayBuffer.newlyDue, EnqueuedFrame.held]
  cases gone : frame.dropped with
  | true =>
    rw [dropped frame member gone]
    rfl
  | false => exact Bool.and_true _

end Frames

/-! ### The invariant -/

namespace SpectatorRun

/-- The buffer holds what has been enqueued and not dropped; frames are
returned in order, when they are due, and dropped after that. -/
structure Inv (run : SpectatorRun Fields) : Prop where
  frames : run.buffer.frames = heldFrames run.enqueued
  sorted : Sorted run.enqueued
  past : ∀ frame ∈ run.enqueued, frame.enqueuedAt ≤ run.clock
  returned : Downward (·.returned) run.enqueued
  dropped : Downward (·.dropped) run.enqueued
  droppedReturned : ∀ frame ∈ run.enqueued, frame.dropped = true → frame.returned = true
  returnedDue : ∀ frame ∈ run.enqueued, frame.returned = true →
      isDue run.buffer.delayMs frame.enqueuedAt run.clock = true
  taken : run.taken = (run.enqueued.filter (·.returned)).map EnqueuedFrame.delivered

variable {run : SpectatorRun Fields} {time : Int}

theorem isDue_mono {delayMs enqueuedAt later : Int} (inOrder : time ≤ later)
    (due : isDue delayMs enqueuedAt time = true) : isDue delayMs enqueuedAt later = true := by
  rw [isDue_iff] at due ⊢
  exact Int.le_trans due (Int.sub_le_sub_right inOrder enqueuedAt)

namespace Inv

/-- A later time. -/
theorem wait (inv : run.Inv) (inOrder : run.clock ≤ time) :
    ({ run with clock := time } : SpectatorRun Fields).Inv where
  frames := inv.frames
  sorted := inv.sorted
  past frame member := Int.le_trans (inv.past frame member) inOrder
  returned := inv.returned
  dropped := inv.dropped
  droppedReturned := inv.droppedReturned
  returnedDue frame member returned := isDue_mono inOrder (inv.returnedDue frame member returned)
  taken := inv.taken

/-- The buffer is trimmed. -/
theorem trim (inv : run.Inv) (time : Int) :
    ({ run with
        buffer := run.buffer.trim time
        enqueued :=
          run.enqueued.map (EnqueuedFrame.drop run.buffer.maxRetainMs time) } :
      SpectatorRun Fields).Inv where
  frames := by
    rw [SpectatorDelayBuffer.trim, inv.frames]
    exact heldFrames_drop inv.sorted inv.returned
  sorted := List.pairwise_map.mpr inv.sorted
  past := List.forall_mem_map.mpr inv.past
  returned := List.pairwise_map.mpr inv.returned
  dropped := by
    refine List.pairwise_map.mpr ?_
    refine (inv.dropped.and (@old_downward _ run.buffer.maxRetainMs time _ inv.sorted
          inv.returned)).imp ?_
    intro earlier later both gone
    rcases (Bool.or_eq_true _ _).mp gone with before | now
    · exact (Bool.or_eq_true _ _).mpr (.inl (both.1 before))
    · exact (Bool.or_eq_true _ _).mpr (.inr (both.2 now))
  droppedReturned := by
    refine List.forall_mem_map.mpr fun frame member gone => ?_
    rcases (Bool.or_eq_true _ _).mp gone with before | now
    · exact inv.droppedReturned frame member before
    · exact ((Bool.and_eq_true _ _).mp now).2
  returnedDue := List.forall_mem_map.mpr inv.returnedDue
  taken := by
    rw [List.filter_map, List.map_map]
    exact inv.taken

/-- A frame is enqueued. -/
theorem append (inv : run.Inv) (inOrder : run.clock ≤ time)
    (messages : List (SpectatorOutboundMessage Fields)) :
    ({ run with
        buffer :=
          { run.buffer with
            frames :=
              run.buffer.frames ++
                [{ enqueuedAt := time
                   messages := messages
                   delivered := false }] }
        clock := time
        enqueued := run.enqueued ++ [EnqueuedFrame.enqueued messages time] } :
      SpectatorRun Fields).Inv := by
  have waited := inv.wait inOrder
  constructor
  · rw [inv.frames, heldFrames, heldFrames, List.filter_append, List.map_append]
    rfl
  · refine List.pairwise_append.mpr ⟨inv.sorted, List.pairwise_singleton _ _, ?_⟩
    intro earlier member later last
    rw [List.mem_singleton.mp last]
    exact waited.past earlier member
  · intro frame member
    rcases List.mem_append.mp member with before | last
    · exact waited.past frame before
    · rw [List.mem_singleton.mp last]
      exact Int.le_refl time
  · refine List.pairwise_append.mpr ⟨inv.returned, List.pairwise_singleton _ _, ?_⟩
    intro earlier _ later last isReturned
    rw [List.mem_singleton.mp last] at isReturned
    cases isReturned
  · refine List.pairwise_append.mpr ⟨inv.dropped, List.pairwise_singleton _ _, ?_⟩
    intro earlier _ later last isDropped
    rw [List.mem_singleton.mp last] at isDropped
    cases isDropped
  · intro frame member isDropped
    rcases List.mem_append.mp member with before | last
    · exact inv.droppedReturned frame before isDropped
    · rw [List.mem_singleton.mp last] at isDropped
      cases isDropped
  · intro frame member isReturned
    rcases List.mem_append.mp member with before | last
    · exact waited.returnedDue frame before isReturned
    · rw [List.mem_singleton.mp last] at isReturned
      cases isReturned
  · rw [List.filter_append, List.map_append]
    exact inv.taken.trans (List.append_nil _).symm

/-- What was returned and what a flush returns is all that is due. -/
theorem taken_append_takeDue (inv : run.Inv) (inOrder : run.clock ≤ time) :
    run.taken ++ (run.buffer.takeDue time).1 = (run.due time).map EnqueuedFrame.delivered := by
  have due : ∀ frame ∈ run.enqueued, frame.returned = true →
      isDue run.buffer.delayMs frame.enqueuedAt time = true :=
    fun frame member returned =>
      isDue_mono inOrder (inv.returnedDue frame member returned)
  rw [inv.taken, SpectatorDelayBuffer.takeDue, inv.frames,
    newlyDue_heldFrames _ inv.droppedReturned, ← List.map_append,
    inv.returned.filter_append_filter due]
  rfl

/-- A flush. -/
theorem flush (inv : run.Inv) (inOrder : run.clock ≤ time) :
    ({ buffer :=
        { run.buffer with
          frames :=
            run.buffer.frames.map fun frame =>
              if run.buffer.newlyDue time frame then
                { frame with delivered := true }
              else frame }
       clock := time
       enqueued := run.enqueued.map (EnqueuedFrame.flush run.buffer.delayMs time)
       taken := run.taken ++ (run.buffer.takeDue time).1 } :
      SpectatorRun Fields).Inv where
  frames := by
    rw [inv.frames]
    exact heldFrames_flush run.buffer
  sorted := List.pairwise_map.mpr inv.sorted
  past := List.forall_mem_map.mpr (inv.wait inOrder).past
  returned := by
    refine List.pairwise_map.mpr ?_
    refine (inv.returned.and (@due_downward _ run.buffer.delayMs time _ inv.sorted)).imp ?_
    intro earlier later both returned
    rcases (Bool.or_eq_true _ _).mp returned with before | now
    · exact (Bool.or_eq_true _ _).mpr (.inl (both.1 before))
    · exact (Bool.or_eq_true _ _).mpr (.inr (both.2 now))
  dropped := List.pairwise_map.mpr inv.dropped
  droppedReturned := by
    refine List.forall_mem_map.mpr fun frame member gone => ?_
    exact (Bool.or_eq_true _ _).mpr (.inl (inv.droppedReturned frame member gone))
  returnedDue := by
    refine List.forall_mem_map.mpr fun frame member returned => ?_
    rcases (Bool.or_eq_true _ _).mp returned with before | now
    · exact (inv.wait inOrder).returnedDue frame member before
    · exact now
  taken := by
    rw [inv.taken_append_takeDue inOrder, List.filter_map, List.map_map, SpectatorRun.due]
    refine congrArg (List.map EnqueuedFrame.delivered) (List.filter_congr ?_)
    intro frame member
    rw [Function.comp_apply, EnqueuedFrame.flush]
    cases returned : frame.returned with
    | true => exact (inv.wait inOrder).returnedDue frame member returned
    | false => exact (Bool.false_or _).symm

/-- Every call keeps the invariant. -/
theorem step (inv : run.Inv) {call : SpectatorCall Fields}
    (inOrder : run.InOrder call) : (run.step call).Inv := by
  cases call with
  | enqueue messages time =>
    cases none : messages.isEmpty with
    | true =>
      have same : run.step (.enqueue messages time) = { run with clock := time } := by
        rw [SpectatorRun.step, SpectatorDelayBuffer.enqueue, none]
        rfl
      rw [same]
      exact inv.wait inOrder
    | false =>
      have appended := (inv.append inOrder messages).trim time
      rw [SpectatorRun.step, SpectatorDelayBuffer.enqueue, none]
      exact appended
  | takeDue time => exact (inv.flush inOrder).trim time
  | latestDueSnapshot time => exact inv.wait inOrder
  | msUntilNextDue time => exact inv.wait inOrder

end Inv

end SpectatorRun

/-! ### Reads -/

section Reads

variable {frames : List (EnqueuedFrame Fields)}
variable {best : Option (SpectatorOutboundMessage Fields)}
variable {messages : List (SpectatorOutboundMessage Fields)}
variable {message : SpectatorOutboundMessage Fields} {time : Int}

theorem latestSnapshot_eq_or :
    latestSnapshot best messages = (latestSnapshot none messages).or best := by
  induction messages using List.reverseRecOn with
  | nil => rfl
  | append_singleton front last induction =>
    unfold latestSnapshot at induction ⊢
    rw [List.foldl_concat, List.foldl_concat]
    split
    · rfl
    · exact induction

theorem mem_of_latestSnapshot (found : latestSnapshot none messages = some message) :
    message ∈ messages := by
  induction messages using List.reverseRecOn with
  | nil => cases found
  | append_singleton front last induction =>
    unfold latestSnapshot at induction found
    rw [List.foldl_concat] at found
    split at found
    · cases found
      exact List.mem_append_right _ (List.mem_singleton_self _)
    · exact List.mem_append_left _ (induction found)

theorem EnqueuedFrame.isSome_snapshot (frame : EnqueuedFrame Fields) :
    frame.snapshot.isSome = frame.hasSnapshot := by
  rw [EnqueuedFrame.snapshot, EnqueuedFrame.hasSnapshot]
  induction frame.messages using List.reverseRecOn with
  | nil => rfl
  | append_singleton front last induction =>
    unfold latestSnapshot at induction ⊢
    rw [List.foldl_concat, List.any_append, List.any_cons, List.any_nil, Bool.or_false]
    split
    case isTrue isSnapshot =>
      rw [decide_eq_true isSnapshot, Bool.or_true]
      rfl
    case isFalse other =>
      rw [decide_eq_false other, Bool.or_false]
      exact induction

/-- Looking through frames finds the snapshot of the last that has one. -/
theorem foldl_latestSnapshot : (frames.map EnqueuedFrame.held).foldl
      (fun best frame => latestSnapshot best frame.messages) none =
    (frames.filter EnqueuedFrame.hasSnapshot).getLast?.bind
      EnqueuedFrame.snapshot := by
  induction frames using List.reverseRecOn with
  | nil => rfl
  | append_singleton front last induction =>
    rw [List.map_append, List.map_singleton, List.foldl_concat, induction,
      latestSnapshot_eq_or, List.filter_append]
    change (last.snapshot).or _ = _
    have present := last.isSome_snapshot
    cases has : last.hasSnapshot with
    | true =>
      rw [has] at present
      rcases Option.isSome_iff_exists.mp present with ⟨message, isLast⟩
      rw [List.filter_cons, has, if_pos rfl, List.filter_nil, List.getLast?_concat, isLast]
      exact isLast.symm
    | false =>
      rw [has, Option.isSome_eq_false_iff, Option.isNone_iff_eq_none] at present
      rw [List.filter_cons, has, if_neg Bool.false_ne_true,
        List.filter_nil, List.append_nil, present]
      rfl

theorem foldl_sooner (waits : List Int) : waits.foldl sooner none = waits.min? := by
  have accumulated : ∀ (rest : List Int) (least : Int),
      rest.foldl sooner (some least) = some (rest.foldl min least) := by
    intro rest
    induction rest with
    | nil => exact fun _ => rfl
    | cons wait rest induction =>
      intro least
      have lesser : sooner (some least) wait = some (min least wait) := by
        rw [sooner]
        split
        case isTrue less => rw [Int.min_eq_right (Int.le_of_lt less)]
        case isFalse more => rw [Int.min_eq_left (Int.not_lt.mp more)]
      rw [List.foldl_cons, lesser, List.foldl_cons]
      exact induction _
  cases waits with
  | nil => rfl
  | cons wait rest => exact accumulated rest wait

end Reads

/-! ### The law in every run -/

namespace SpectatorRun.Inv

variable {run : SpectatorRun Fields} {time : Int}

theorem punctual (inv : run.Inv) : run.Punctual where
  lateFrames time _ frame member := by
    rcases List.mem_map.mp member with ⟨held, taken, rfl⟩
    have due := ((Bool.and_eq_true _ _).mp (List.mem_filter.mp taken).2).2
    exact isDue_iff.mp due
  lateSnapshot time _ message found := by
    rw [SpectatorDelayBuffer.latestDueSnapshot, inv.frames, heldFrames,
      List.filter_map, foldl_latestSnapshot, Option.mem_def, Option.bind_eq_some_iff] at found
    rcases found with ⟨frame, last, isSnapshot⟩
    have listed := List.mem_of_getLast? last
    rcases List.mem_filter.mp listed with ⟨listed, -⟩
    rcases List.mem_filter.mp listed with ⟨listed, due⟩
    exact ⟨frame, (List.mem_filter.mp listed).1, mem_of_latestSnapshot isSnapshot, isDue_iff.mp due⟩
  inOrder := by
    rw [inv.taken]
    exact inv.returned.filter_prefix.map _
  once time inOrder := inv.taken_append_takeDue inOrder
  next time _ := by
    rw [SpectatorDelayBuffer.msUntilNextDue, ← List.foldl_map, foldl_sooner,
      List.min?_eq_some_iff, SpectatorDelayBuffer.takeDue, Ne,
      List.map_eq_nil_iff, List.filter_eq_nil_iff]
    push Not
    constructor
    · rintro ⟨least, -⟩
      rcases List.mem_map.mp least with ⟨frame, member, zero⟩
      rcases List.mem_filter.mp member with ⟨listed, undelivered⟩
      refine ⟨frame, listed, ?_⟩
      rw [SpectatorDelayBuffer.newlyDue, undelivered, Bool.true_and, isDue_iff]
      have wait : max 0 (run.buffer.delayMs - (time - frame.enqueuedAt)) = 0 := zero
      omega
    · rintro ⟨frame, listed, newlyDue⟩
      rw [SpectatorDelayBuffer.newlyDue, Bool.and_eq_true, isDue_iff] at newlyDue
      constructor
      · refine List.mem_map.mpr ⟨frame, List.mem_filter.mpr ⟨listed, newlyDue.1⟩, ?_⟩
        refine Int.max_eq_left ?_
        omega
      · intro wait member
        rcases List.mem_map.mp member with ⟨other, -, rfl⟩
        exact Int.le_max_left _ _

theorem catchesUpWithRetained (inv : run.Inv) :
    run.CatchesUpWithRetained := by
  intro time _
  have dropped : Downward (·.dropped) ((run.due time).filter EnqueuedFrame.hasSnapshot) :=
    (inv.dropped.sublist List.filter_sublist).sublist List.filter_sublist
  have kept := dropped.getLast?_filter_not
  rw [SpectatorDelayBuffer.latestDueSnapshot, inv.frames, heldFrames,
    List.filter_map, foldl_latestSnapshot, latestDue]
  have same : ((run.enqueued.filter fun frame => !frame.dropped).filter ((fun frame =>
            isDue run.buffer.delayMs frame.enqueuedAt time) ∘
              EnqueuedFrame.held)).filter EnqueuedFrame.hasSnapshot =
      ((run.due time).filter EnqueuedFrame.hasSnapshot).filter fun frame =>
        !frame.dropped := by
    rw [due, List.filter_filter, List.filter_filter, List.filter_filter, List.filter_filter]
    refine List.filter_congr fun frame _ => ?_
    exact (Bool.and_comm _ _).trans (Bool.and_assoc _ _ _).symm
  rw [same, kept]
  cases ((run.due time).filter EnqueuedFrame.hasSnapshot).getLast? with
  | none => rfl
  | some frame =>
    rw [Option.filter_some, Option.bind_some]
    cases frame.dropped with
    | true => rfl
    | false => rfl

theorem initially {delayMs maxRetainMs : Int}
    (initial : (spectatorRuns delayMs maxRetainMs).initial run) : run.Inv := by
  rcases initial with ⟨buffer, enqueued, taken⟩
  constructor
  · rw [buffer, enqueued]
    rfl
  · rw [enqueued]
    exact List.Pairwise.nil
  · rw [enqueued]
    exact fun _ member => absurd member List.not_mem_nil
  · rw [enqueued]
    exact List.Pairwise.nil
  · rw [enqueued]
    exact List.Pairwise.nil
  · rw [enqueued]
    exact fun _ member => absurd member List.not_mem_nil
  · rw [enqueued]
    exact fun _ member => absurd member List.not_mem_nil
  · rw [taken, enqueued]
    rfl

end SpectatorRun.Inv

/--
In every run with times that do not decrease no frame or snapshot is returned
too early, flushes return the enqueued frames in order and each once, the wait
is over exactly when a flush returns a frame, and the snapshot of the latest
frame that is due and has one is found, unless the frame has been dropped.
-/
theorem spectators_punctual
    {delayMs maxRetainMs : Int} {run : SpectatorRun Fields}
    (reached :
      (spectatorRuns delayMs maxRetainMs).Reachable SpectatorRun.InOrder run) :
    run.Punctual ∧ run.CatchesUpWithRetained := by
  have inv : run.Inv := by
    refine @System.Reachable.invariant _ _ _
      (spectatorRuns delayMs maxRetainMs) SpectatorRun.InOrder
      SpectatorRun.Inv ?_ ?_ _ reached
    · exact fun _ initial => SpectatorRun.Inv.initially initial
    · rintro _ _ _ inv inOrder ⟨⟩
      exact inv.step inOrder
  exact ⟨inv.punctual, inv.catchesUpWithRetained⟩

namespace Replays

def snapshotMessage : SpectatorOutboundMessage Nat := ⟨"snapshot", 1⟩

def emptyRun : SpectatorRun Nat := ⟨⟨90000, 180000, []⟩, 0, [], []⟩

theorem emptyRun_initial : (spectatorRuns 90000 180000).initial emptyRun := ⟨rfl, rfl, rfl⟩

/-- A frame is enqueued, flushed when it is due, and flushed over later. -/
def quietTable : List (SpectatorCall Nat) :=
  [.enqueue [snapshotMessage] 0, .takeDue 89999, .takeDue 90000,
    .latestDueSnapshot 90001, .takeDue 180001]

theorem spectators_punctual_quietTable :
    ∃ run,
      (spectatorRuns 90000 180000).Reachable SpectatorRun.InOrder run ∧
        run.taken = [⟨0, [snapshotMessage], true⟩] ∧
          run.Punctual ∧ run.CatchesUpWithRetained := by
  have played :
      ((spectatorRuns 90000 180000).replay SpectatorRun.InOrder emptyRun
          quietTable).any
        (fun run => decide (run.taken = [⟨0, [snapshotMessage], true⟩])) =
        true := by
    decide
  rcases System.Reachable.exists_replay (.start emptyRun_initial) played with
    ⟨run, reached, observed⟩
  rcases spectators_punctual reached with ⟨punctual, catchesUp⟩
  exact ⟨run, reached, of_decide_eq_true observed, punctual, catchesUp⟩

/-- A spectator who subscribes to a quiet table finds no snapshot. -/
theorem snapshot_is_dropped :
    ¬ ∀ delayMs maxRetainMs : Int,
        0 ≤ delayMs → delayMs ≤ maxRetainMs →
          ∀ run : SpectatorRun Nat,
            (spectatorRuns delayMs maxRetainMs).Reachable SpectatorRun.InOrder
                run →
              run.CatchesUp := by
  intro claimed
  have played :
      ((spectatorRuns 90000 180000).replay SpectatorRun.InOrder emptyRun
          quietTable).any
        (fun run =>
          decide
            (run.clock = 180001 ∧ run.buffer.latestDueSnapshot 180001 = none ∧
              (run.latestDue 180001).bind EnqueuedFrame.snapshot =
                some snapshotMessage)) =
        true := by
    decide
  rcases System.Reachable.exists_replay (.start emptyRun_initial) played with
    ⟨run, reached, observed⟩
  rcases of_decide_eq_true observed with ⟨clock, none, latest⟩
  have found :=
    claimed 90000 180000 (by decide) (by decide) run reached 180001
      (Int.le_of_eq clock)
  rw [none, latest] at found
  cases found

end Replays

end Mozetto.GameServer
