import Mozetto.AgentRuntime.ExactReplay
import Mozetto.AgentRuntime.Scheduler

/-!
# Runs of the scheduler

Whatever order the calls and the answers come in, an event makes one move after
the other on the work of the jobs.  What every move keeps holds over every run:
each job is in one place, a job is charged for at most once and never after it
was cancelled, the energy adds up, the reserve is left for the action on turn,
and the memory stays that of the seat, within its bounds.
-/

namespace Mozetto.AgentRuntime

open Mozetto.Chain
open Mozetto.Library.BoundedLists

/-! ## Moves -/

/-- The job of the loop. -/
def Drain.current : Drain → Option CognitionJob
  | .asking job _ | .storing job _ _ _ => some job
  | _ => none

theorem Drain.current_asking (job : CognitionJob) (inFlight : Bool) :
    (Drain.asking job inFlight).current = some job := rfl

theorem Drain.current_resting : Drain.resting.current = none := rfl

section Moves

variable (deployment : Deployment) (locale : Locale) (settings : Bool → Prop)

/-- What a call does between two waits; `settings` are those of the seat. -/
inductive Move (before : CognitionWork) : List Report → CognitionWork → Prop
  | remembered {state : AgentState} (kept : Remembered locale before.state state) :
      Move before [] { before with state := state }
  | ingested {input : EnergyOpInput} {ledger : EnergyLedger} {op : EnergyOpRecord}
      (debit : Debit deployment before.ledger input ledger op) (free : op.energyDebit = 0)
      (background : op.spendClass = .background) : Move before [] (before.charge locale ledger)
  | enqueued {job : CognitionJob} (number : job.id = before.jobSeq + 1) :
      Move before [.enqueued job]
        { before with queue := enqueue before.queue job, jobSeq := before.jobSeq + 1 }
  | rested {drain : Drain} (vacant : before.drain.current = none)
      (still : drain.current = none) : Move before [] { before with drain := drain }
  | started {job : CognitionJob} {rest : List CognitionJob}
      (vacant : before.drain.current = none) (waits : before.queue = job :: rest) :
      Move before []
        { before with
          queue := rest
          drain := .asking { job with status := .running } true }
  | dropped {job ended : CognitionJob} {rest : List CognitionJob}
      {outcome : CognitionJobStatus} (vacant : before.drain.current = none)
      (waits : before.queue = job :: rest) (same : ended.id = job.id) :
      Move before [.finished ended outcome] { before with queue := rest }
  | debited {job : CognitionJob} {inFlight : Bool} {input : EnergyOpInput}
      {ledger : EnergyLedger} {op : EnergyOpRecord} {note : Text}
      (asks : before.drain = .asking job inFlight) (live : job.aborted = false)
      (debit : Debit deployment before.ledger input ledger op)
      (background : op.spendClass = .background) :
      Move before [.debited job op.energyDebit]
        { before.charge locale ledger with
          drain := .storing job inFlight .completed note }
  | rejected {job later : CognitionJob} {inFlight : Bool} {note : Text}
      (asks : before.drain = .asking job inFlight) (same : later.id = job.id) :
      Move before [] { before with drain := .storing later inFlight .skipped note }
  | ended {job last : CognitionJob} {outcome : CognitionJobStatus}
      (current : before.drain.current = some job) (same : last.id = job.id) :
      Move before [.finished last outcome] { before with drain := .resting }
  | cancelled (note : Text) : Move before (before.preempt note).2 (before.preempt note).1
  | finalDebited {input : EnergyOpInput} {ledger : EnergyLedger} {op : EnergyOpRecord}
      (debit : Debit deployment before.ledger input ledger op) :
      Move before [.finalDebited op.energyDebit] (before.charge locale ledger)
  | seated {active : Bool} (set : settings active) :
      Move before [] { before with ledger := { before.ledger with seatActive := active } }

/-- One move after the other. -/
inductive Moves (first : CognitionWork) : List Report → CognitionWork → Prop
  | start : Moves first [] first
  | later {reports more : List Report} {middle last : CognitionWork}
      (earlier : Moves first reports middle)
      (move : Move deployment locale settings middle more last) : Moves first (reports ++ more) last

/-- What a call does and tells, as moves. -/
def CognitionWork.Reaches (work : CognitionWork) (told : CognitionWork × List Report) : Prop :=
  Moves deployment locale settings work told.2 told.1

def Scheduler.Reaches (scheduler : Scheduler) (told : Scheduler × List Report) : Prop :=
  Moves deployment locale settings scheduler.toCognitionWork told.2 told.1.toCognitionWork

end Moves

section Runs

variable {deployment : Deployment} {locale : Locale} {settings : Bool → Prop}
variable {toLowerCase : Text → Text} {asHex32 : Text → Bytes32}
variable {options : CognitionOptions}
variable {first middle last work : CognitionWork} {reports more : List Report}

theorem Moves.one (move : Move deployment locale settings first reports last) :
    Moves deployment locale settings first reports last :=
  .later .start move

theorem Moves.append (earlier : Moves deployment locale settings first reports middle)
    (later : Moves deployment locale settings middle more last) :
    Moves deployment locale settings first (reports ++ more) last := by
  induction later with
  | start => rwa [List.append_nil]
  | later _ move induction =>
    rw [← List.append_assoc]
    exact .later induction move

/-! ### Every event makes moves -/

theorem moves_dropped
    {job : CognitionJob} {rest : List CognitionJob} (vacant : work.drain.current = none)
    (waits : work.queue = job :: rest) (outcome : CognitionJobStatus) (note : Text) :
    work.Reaches deployment locale settings
      ({ work with queue := rest }.finish job outcome note) := by
  have dropped : Moves deployment locale settings work
      [.finished { job with status := outcome, note := some note } outcome]
      { work with queue := rest } := .one (.dropped vacant waits rfl)
  exact dropped.append (.one (.rested vacant rfl))

theorem moves_drainNext (queue : List CognitionJob) (vacant : work.drain.current = none)
    (same : work.queue = queue) :
    work.Reaches deployment locale settings (work.drainNext queue) := by
  induction queue generalizing work with
  | nil =>
    cases work
    subst same
    exact .one (.rested vacant rfl)
  | cons job rest induction =>
    rw [CognitionWork.drainNext]
    split
    · exact (Moves.one (.dropped vacant same rfl)).append
        (@induction { work with queue := rest } vacant rfl)
    · rw [CognitionWork.runJob]
      split
      · exact moves_dropped vacant same _ _
      · split
        · exact moves_dropped vacant same _ _
        · split
          · exact moves_dropped vacant same _ _
          · exact .one (.started vacant same)

theorem moves_startDrain : work.Reaches deployment locale settings work.startDrain := by
  rw [CognitionWork.startDrain]
  split
  · rename_i idle
    exact moves_drainNext _ (by rw [idle]; rfl) rfl
  · exact .start

theorem moves_addJob (selection : ModeSelection) (event : PublicTableEvent) (nowMs : Int) :
    work.Reaches deployment locale settings
      (work.addJob asHex32 options selection event nowMs) := by
  rw [CognitionWork.addJob]
  apply (Moves.one (.enqueued rfl)).append
  split
  · exact moves_startDrain
  · exact .start

theorem moves_chooseMode (scheduler : Scheduler) (event : PublicTableEvent) (nowMs : Int) :
    scheduler.Reaches deployment locale settings
      (scheduler.chooseMode asHex32 options event nowMs) := by
  rw [Scheduler.chooseMode]
  dsimp only
  split
  · exact .start
  · exact moves_addJob _ _ _

theorem moves_onPublicEvent (scheduler : Scheduler) (event : PublicTableEvent) (nowMs : Int) :
    scheduler.Reaches deployment locale settings
      (scheduler.onPublicEvent deployment locale asHex32 options event nowMs) := by
  rw [Scheduler.onPublicEvent]
  split
  · rename_i next
    rw [applyPublicEventDeterministic, if_neg (not_le.mpr next)]
    split
    · exact .start
    · rename_i applied
      split at applied
      · cases applied
      · cases applied
        have remembered : Moves deployment locale settings scheduler.toCognitionWork []
            { scheduler.toCognitionWork with
              state := ingested locale scheduler.state event } :=
          .one (.remembered (Remembered.of_ingested next))
        dsimp only
        split
        · exact remembered
        · exact remembered
        · rename_i charged
          have debit := debitEnergy_eq_ok charged
          exact remembered.append
            (.one (.ingested debit (Option.some.inj debit.resolved).symm debit.spendClass))
  · exact moves_chooseMode _ _ _

theorem moves_finish {job : CognitionJob} (current : work.drain.current = some job)
    (outcome : CognitionJobStatus) (note : Text) :
    work.Reaches deployment locale settings (work.finish job outcome note) :=
  .one (.ended current rfl)

theorem moves_applyAnswer
    {job : CognitionJob} {inFlight : Bool} (asks : work.drain = .asking job inFlight)
    (live : job.aborted = false) (bg : BackgroundCognitionResult) :
    work.Reaches deployment locale settings
      (work.applyAnswer deployment locale toLowerCase asHex32 options job inFlight bg) := by
  rw [CognitionWork.applyAnswer]
  dsimp only
  have patched := @Moves.one deployment locale settings _ _ _
    (.remembered (@remembered_applyBackgroundPatch locale toLowerCase work.state
      (bg.statePatch.getD (deterministicStructuredPatch job.event job.mode options.seat))
      job.event.cursor))
  split
  · exact patched.append (moves_finish (by rw [asks]; rfl) _ _)
  · exact patched.append (.one (.rejected asks rfl))
  · rename_i charged
    have debit := debitEnergy_eq_ok charged
    exact patched.append (.one (.debited asks live debit
      (debit.spendClass.trans (SchedulerMode.defaultSpendClass_operation _))))

theorem moves_answered (answer : Except Text BackgroundCognitionResult) :
    work.Reaches deployment locale settings
      (work.answered deployment locale toLowerCase asHex32 options answer) := by
  rw [CognitionWork.answered.eq_def]
  split
  · rename_i job _ _ asks
    have current : work.drain.current = some job := by
      rw [asks]
      rfl
    split <;> exact moves_finish current _ _
  · rename_i job _ _ asks
    have current : work.drain.current = some job := by
      rw [asks]
      rfl
    split
    · exact moves_finish current _ _
    · rename_i live
      split
      · exact moves_finish current _ _
      · split
        · exact moves_applyAnswer asks (by simpa using (Bool.or_eq_false_iff.mp
            (Bool.not_eq_true _ ▸ live)).2) _
        · exact moves_finish current _ _
  · exact .start

theorem moves_stored (failure : Option Text) :
    work.Reaches deployment locale settings (work.stored failure) := by
  rw [CognitionWork.stored.eq_def]
  split
  · rename_i stores
    exact moves_finish (by rw [stores]; rfl) _ _
  · rename_i stores
    split <;> exact moves_finish (by rw [stores]; rfl) _ _
  · exact .start

theorem moves_chargeFinal (pending : PendingFinal) (decision : FinalDecision) (nowMs : Int) :
    work.Reaches deployment locale settings
      (work.chargeFinal deployment locale asHex32 options pending decision nowMs) := by
  rw [CognitionWork.chargeFinal]
  split
  · split
    · exact .start
    · rename_i charged
      exact .one (.finalDebited (debitEnergy_eq_ok charged))
  · exact .start

theorem moves_step (scheduler : Scheduler) (event : CognitionEvent)
    (allowed : ∀ active, event = .setSeatActive active → settings active) :
    scheduler.Reaches deployment locale settings
      (scheduler.step deployment locale toLowerCase asHex32 options event) := by
  cases event with
  | publicEvent event nowMs => exact moves_onPublicEvent _ _ _
  | persisted index stored nowMs =>
    rw [Scheduler.step, Scheduler.persisted]
    split
    · exact .start
    · dsimp only
      split
      · exact moves_chooseMode
          { scheduler with persisting := scheduler.persisting.eraseIdx index } _ _
      · exact .start
  | drain => exact moves_startDrain
  | resumed =>
    rw [Scheduler.step]
    split
    · rename_i resting
      exact moves_drainNext _ (by rw [resting]; rfl) rfl
    · exact .start
  | answered answer => exact moves_answered answer
  | stored failure => exact moves_stored failure
  | preempt note => exact .one (.cancelled note)
  | finalAction request => exact .one (.cancelled _)
  | decided index decision nowMs =>
    rw [Scheduler.step, Scheduler.decided.eq_def]
    split
    · exact .start
    · exact .start
    · exact moves_chargeFinal _ _ _
  | setSeatActive active => exact .one (.seated (allowed active rfl))
  | setProximityToOwnTurn near => exact .start
  | setProviderCongested congested => exact .start
  | setUncertainty value => exact .start

theorem moves_run (scheduler : Scheduler) (events : List CognitionEvent)
    (allowed : ∀ active, .setSeatActive active ∈ events → settings active) :
    scheduler.Reaches deployment locale settings
      (scheduler.run deployment locale toLowerCase asHex32 options events) := by
  induction events generalizing scheduler with
  | nil => exact .start
  | cons event later induction =>
    apply (moves_step scheduler event ?_).append
    · exact induction _ fun active member =>
      allowed active (List.mem_cons_of_mem _ member)
    · intro active same
      exact allowed active (same ▸ List.mem_cons_self)

/-! ## Energy -/

def Report.amount : Report → Nat
  | debited _ amount | finalDebited amount => amount
  | _ => 0

/-- What the jobs and the final actions have been charged. -/
def spent (reports : List Report) : Nat := (reports.map Report.amount).sum

@[simp]
theorem spent_append (reports more : List Report) :
    spent (reports ++ more) = spent reports + spent more := by
  rw [spent, List.map_append, List.sum_append]
  rfl

/-- The ledger is open and adds up with what was charged; the memory knows it. -/
structure Balanced
    (deployment : Deployment) (work : CognitionWork) (reports : List Report) : Prop where
  accounts : Accounts deployment work.ledger
  opened : work.ledger.status = .opened
  charged : work.ledger.remainingEnergy + spent reports = handEnergy
  mirrored : work.state.energyRemaining = work.ledger.remainingEnergy

theorem Balanced.charge {input : EnergyOpInput} {ledger : EnergyLedger} {op : EnergyOpRecord}
    (balanced : Balanced deployment work reports)
    (debit : Debit deployment work.ledger input ledger op)
    (reported : spent more = op.energyDebit) :
    Balanced deployment (work.charge locale ledger) (reports ++ more) where
  accounts := balanced.accounts.debit debit
  opened := (congrArg EnergyLedger.status debit.result).trans debit.opened
  charged := by
    have total := balanced.charged
    have remaining : ledger.remainingEnergy = op.remainingEnergy :=
      congrArg EnergyLedger.remainingEnergy debit.result
    rw [spent_append, reported, CognitionWork.charge, remaining, ← total, ← debit.remaining]
    omega
  mirrored := max_eq_right (Int.natCast_nonneg _)

/-- A move that leaves ledger and energy alone and charges nothing. -/
theorem Balanced.kept
    (balanced : Balanced deployment work reports) (ledger : last.ledger = work.ledger)
    (energy : last.state.energyRemaining = work.state.energyRemaining)
    (free : spent more = 0) : Balanced deployment last (reports ++ more) where
  accounts := ledger ▸ balanced.accounts
  opened := ledger ▸ balanced.opened
  charged := by rw [spent_append, free, ledger, Nat.add_zero, balanced.charged]
  mirrored := by rw [energy, ledger, balanced.mirrored]

theorem Balanced.move (balanced : Balanced deployment work reports)
    (move : Move deployment locale settings work more last) :
    Balanced deployment last (reports ++ more) := by
  cases move with
  | remembered kept => exact balanced.kept rfl kept.energyRemaining rfl
  | ingested debit free background => exact balanced.charge debit free.symm
  | @debited job _ _ ledger op _ asks live debit background =>
    have charged : Balanced deployment (work.charge locale ledger)
        (reports ++ [.debited job op.energyDebit]) := balanced.charge debit rfl
    exact ⟨charged.accounts, charged.opened, charged.charged, charged.mirrored⟩
  | finalDebited debit => exact balanced.charge debit rfl
  | seated set =>
    have same := balanced.accounts
    refine ⟨⟨same.starting, same.balance, same.recorded, same.hashed⟩, balanced.opened,
      ?_, balanced.mirrored⟩
    rw [List.append_nil]
    exact balanced.charged
  | enqueued | rested | started | dropped | rejected | ended | cancelled =>
    exact balanced.kept rfl rfl rfl

/-! ## The reserve -/

/-- While the seat is in the hand, background work leaves the reserve. -/
structure Reserved (work : CognitionWork) (reports : List Report) : Prop where
  active : work.ledger.seatActive = true
  background : ∀ op ∈ work.ledger.ops, op.spendClass = .background →
      mandatoryReserve ≤ op.remainingEnergy
  untouched : (∀ amount, .finalDebited amount ∉ reports) →
      mandatoryReserve ≤ work.ledger.remainingEnergy

theorem Reserved.kept (reserved : Reserved work reports) (ledger : last.ledger = work.ledger) :
    Reserved last (reports ++ more) where
  active := ledger ▸ reserved.active
  background := ledger ▸ reserved.background
  untouched none :=
    ledger ▸ reserved.untouched fun amount member =>
      none amount (List.mem_append_left _ member)

theorem Reserved.charge {input : EnergyOpInput} {ledger : EnergyLedger} {op : EnergyOpRecord}
    (reserved : Reserved work reports) (debit : Debit deployment work.ledger input ledger op)
    (classed : op.spendClass = .background ∨ ∃ amount, .finalDebited amount ∈ more) :
    Reserved (work.charge locale ledger) (reports ++ more) := by
  rw [debit.result]
  refine ⟨reserved.active, fun found member background => ?_, fun none => ?_⟩
  · rcases List.mem_append.mp member with earlier | new
    · exact reserved.background found earlier background
    · rw [List.mem_singleton.mp new] at background ⊢
      exact debit.reserve background reserved.active
  · rcases classed with background | ⟨amount, told⟩
    · exact debit.reserve background reserved.active
    · cases none amount (List.mem_append_right _ told)

theorem Reserved.move (reserved : Reserved work reports)
    (move : Move deployment locale (· = true) work more last) :
    Reserved last (reports ++ more) := by
  cases move with
  | ingested debit free background => exact reserved.charge debit (.inl background)
  | @debited job _ _ ledger op _ asks live debit background =>
    have charged : Reserved (work.charge locale ledger)
        (reports ++ [.debited job op.energyDebit]) := reserved.charge debit (.inl background)
    exact ⟨charged.active, charged.background, charged.untouched⟩
  | finalDebited debit =>
    exact reserved.charge debit (.inr ⟨_, List.mem_singleton_self _⟩)
  | seated set =>
    rw [List.append_nil, set]
    exact ⟨rfl, reserved.background, reserved.untouched⟩
  | remembered | enqueued | rested | started | dropped | rejected | ended | cancelled =>
    exact reserved.kept rfl

theorem Reserved.moves (initially : Reserved first [])
    (moves : Moves deployment locale (· = true) first reports last) :
    Reserved last reports := by
  induction moves with
  | start => exact initially
  | later _ move induction => exact induction.move move

/-! ## Jobs -/

def CognitionWork.numbers (work : CognitionWork) : List Nat :=
  work.queue.map CognitionJob.id ++ work.drain.current.toList.map CognitionJob.id

/-- The jobs that have left the scheduler. -/
def Report.left : Report → List Nat
  | finished job _ => [job.id]
  | cancelled waiting _ => waiting.map CognitionJob.id
  | _ => []

/-- The jobs that are over, or charged for, or withdrawn. -/
def Report.closes (id : Nat) : Report → Prop
  | debited job _ | finished job _ => job.id = id
  | cancelled waiting running => ∃ job ∈ waiting ++ running.toList, job.id = id
  | _ => False

/-- Each job that was queued waits, runs or has left; what waits is in order. -/
structure Placed (work : CognitionWork) (reports : List Report) : Prop where
  places : (work.numbers ++ reports.flatMap Report.left).Perm (List.range' 1 work.jobSeq)
  ordered : work.queue.Pairwise fun first second => first.place ≤ second.place

theorem numbers_enqueue (job : CognitionJob) (queue : List CognitionJob) :
    ((enqueue queue job).map CognitionJob.id).Perm (queue.map CognitionJob.id ++ [job.id]) := by
  rw [← List.map_singleton, ← List.map_append]
  exact (sortBy_perm _ _).map _

@[simp]
theorem map_id_cancel (note : Text) (jobs : List CognitionJob) :
    (jobs.map (CognitionJob.cancel note)).map CognitionJob.id = jobs.map CognitionJob.id := by
  rw [List.map_map]
  rfl

theorem current_abort (note : Text) (drain : Drain) :
    (drain.abort note).current.map CognitionJob.id = drain.current.map CognitionJob.id := by
  rw [Drain.abort.eq_def]
  split <;> rfl

/-- A move that keeps the numbers and the order, and lets no job leave. -/
theorem Placed.kept (placed : Placed work reports) (queue : last.queue = work.queue)
    (current : last.drain.current.map CognitionJob.id = work.drain.current.map CognitionJob.id)
    (jobSeq : last.jobSeq = work.jobSeq) (none : more.flatMap Report.left = []) :
    Placed last (reports ++ more) := by
  have numbers : last.numbers = work.numbers := by
    rw [CognitionWork.numbers, CognitionWork.numbers, queue, ← Option.toList_map,
      ← Option.toList_map, current]
  refine ⟨?_, queue ▸ placed.ordered⟩
  rw [numbers, jobSeq, List.flatMap_append, none, List.append_nil]
  exact placed.places

theorem Placed.move (placed : Placed work reports)
    (move : Move deployment locale settings work more last) : Placed last (reports ++ more) := by
  have places := List.perm_iff_count.mp placed.places
  have ordered := placed.ordered
  simp only [CognitionWork.numbers, List.count_append] at places
  cases move with
  | remembered | ingested | finalDebited | seated =>
    exact placed.kept rfl rfl rfl rfl
  | rested vacant still => exact placed.kept rfl (by rw [vacant, still]) rfl rfl
  | debited asks live debit background => exact placed.kept rfl (by rw [asks]; rfl) rfl rfl
  | rejected asks same =>
    exact placed.kept rfl (by rw [asks]; exact congrArg some same) rfl rfl
  | @enqueued job number =>
    refine ⟨List.perm_iff_count.mpr fun id => ?_, pairwise_sortBy _ _⟩
    have added := List.perm_iff_count.mp (numbers_enqueue job work.queue) id
    have before := places id
    simp only [CognitionWork.numbers, List.count_append, List.flatMap_append,
      List.range'_1_concat] at added ⊢
    rw [added, ← before, number, Nat.add_comm 1]
    simp only [List.flatMap_cons, Report.left, List.flatMap_nil, List.append_nil, List.count_nil]
    omega
  | @started job rest vacant waits =>
    rw [waits] at places ordered
    refine ⟨List.perm_iff_count.mpr fun id => ?_, (List.pairwise_cons.mp ordered).2⟩
    rw [← places id]
    simp only [CognitionWork.numbers, List.count_append, List.append_nil, vacant,
      Drain.current_asking, Option.toList_none, Option.toList_some, List.map_cons,
      List.map_nil, List.count_cons, List.count_nil]
    omega
  | @dropped job ended rest outcome vacant waits same =>
    rw [waits] at places ordered
    refine ⟨List.perm_iff_count.mpr fun id => ?_, (List.pairwise_cons.mp ordered).2⟩
    rw [← places id]
    simp only [CognitionWork.numbers, List.count_append, List.flatMap_append, vacant,
      List.flatMap_cons, List.flatMap_nil, Report.left, same, List.map_cons,
      List.count_cons, List.count_nil]
    omega
  | @ended job ended outcome current same =>
    refine ⟨List.perm_iff_count.mpr fun id => ?_, ordered⟩
    rw [← places id]
    simp only [CognitionWork.numbers, List.count_append, List.flatMap_append, current,
      Drain.current_resting, Option.toList_none, Option.toList_some,
      List.flatMap_cons, List.flatMap_nil, Report.left, same, List.map_cons, List.map_nil, List.count_cons, List.count_nil]
    omega
  | cancelled note =>
    refine ⟨List.perm_iff_count.mpr fun id => (?_ : _ = _).trans (places id), .nil⟩
    simp only [CognitionWork.numbers, CognitionWork.preempt, List.count_append,
      List.flatMap_append, List.flatMap_cons, List.flatMap_nil, Report.left,
      map_id_cancel, List.append_nil, ← Option.toList_map, current_abort, List.map_nil,
      List.count_nil]
    omega

theorem Placed.numbers_nodup (placed : Placed work reports) : work.numbers.Nodup :=
  (placed.places.nodup_iff.mpr List.nodup_range').of_append_left

theorem Placed.le (placed : Placed work reports) {id : Nat} (member : id ∈ work.numbers) :
    id ≤ work.jobSeq := by
  have inside := placed.places.subset (List.mem_append_left _ member)
  rw [List.mem_range'_1] at inside
  omega

/-- What waits is not what runs. -/
theorem Placed.apart
    (placed : Placed work reports) {job running : CognitionJob} (waits : job ∈ work.queue)
    (runs : work.drain.current = some running) : running.id ≠ job.id := by
  have nodup := placed.numbers_nodup
  rw [CognitionWork.numbers, runs] at nodup
  exact ((List.nodup_append.mp nodup).2.2 _ (List.mem_map_of_mem waits) _
    (List.mem_singleton_self _)).symm

/-! ## Charges -/

/-- No job that is over, charged for or withdrawn is charged for again. -/
structure Fresh (work : CognitionWork) (reports : List Report) : Prop where
  known : ∀ report ∈ reports, ∀ id, report.closes id → id ≤ work.jobSeq
  waiting : ∀ job ∈ work.queue, ∀ report ∈ reports, ¬report.closes job.id
  asked : ∀ job inFlight, work.drain = .asking job inFlight → job.aborted = false →
      ∀ report ∈ reports, ¬report.closes job.id
  charges : reports.Pairwise fun earlier later =>
      ∀ job amount, later = .debited job amount → ¬earlier.closes job.id

/-- A move that closes no job; what it asks for was not closed before. -/
theorem Fresh.quiet (fresh : Fresh work reports) (jobSeq : last.jobSeq = work.jobSeq)
    (queue : ∀ job ∈ last.queue, job ∈ work.queue)
    (asked : ∀ job inFlight, last.drain = .asking job inFlight → job.aborted = false →
      ∀ report ∈ reports, ¬report.closes job.id) (silent : more = []) :
    Fresh last (reports ++ more) := by
  rw [silent, List.append_nil]
  exact ⟨jobSeq ▸ fresh.known, fun job member => fresh.waiting job (queue job member),
    asked, fresh.charges⟩

/-- A move with one report on a job that is running or was first in line. -/
theorem Fresh.told
    {report : Report} (fresh : Fresh work reports) (jobSeq : work.jobSeq ≤ last.jobSeq)
    (known : ∀ id, report.closes id → id ≤ last.jobSeq)
    (waiting : ∀ job ∈ last.queue, ¬report.closes job.id ∧
      ∀ earlier ∈ reports, ¬earlier.closes job.id)
    (asked : ∀ job inFlight, last.drain = .asking job inFlight → job.aborted = false →
      ¬report.closes job.id ∧ ∀ earlier ∈ reports, ¬earlier.closes job.id)
    (charge : ∀ job amount, report = .debited job amount →
      ∀ earlier ∈ reports, ¬earlier.closes job.id) : Fresh last (reports ++ [report]) := by
  have both {id : Nat} (not : ¬report.closes id ∧ ∀ earlier ∈ reports, ¬earlier.closes id) :
      ∀ told ∈ reports ++ [report], ¬told.closes id := by
    intro told member
    rcases List.mem_append.mp member with earlier | new
    · exact not.2 told earlier
    · rw [List.mem_singleton.mp new]
      exact not.1
  refine ⟨?_, fun job member => both (waiting job member),
    fun job inFlight asks live => both (asked job inFlight asks live), ?_⟩
  · intro told member id closes
    rcases List.mem_append.mp member with earlier | new
    · exact (fresh.known told earlier id closes).trans jobSeq
    · rw [List.mem_singleton.mp new] at closes
      exact known id closes
  · refine List.pairwise_append.mpr ⟨fresh.charges, List.pairwise_singleton _ _, ?_⟩
    intro earlier member later new job amount same
    exact charge job amount ((List.mem_singleton.mp new).symm.trans same) earlier member

theorem current_of_inFlightJob
    {drain : Drain} {job : CognitionJob} (flies : drain.inFlightJob = some job) :
    drain.current = some job := by
  rw [Drain.inFlightJob.eq_def] at flies
  split at flies
  · exact flies
  · exact flies
  · cases flies

/-- What still asks, unaborted, after a cancellation was not the job in flight. -/
theorem asking_of_abort {note : Text} {drain : Drain} {job : CognitionJob} {inFlight : Bool}
    (asks : drain.abort note = .asking job inFlight) (live : job.aborted = false) :
    drain = .asking job inFlight ∧ drain.inFlightJob = none := by
  rw [Drain.abort.eq_def] at asks
  split at asks
  · cases asks
    cases live
  · cases asks
  · rename_i flying _
    subst asks
    refine ⟨rfl, ?_⟩
    cases inFlight with
    | true => exact absurd rfl (flying job)
    | false => rfl

theorem Fresh.move (placed : Placed work reports) (fresh : Fresh work reports)
    (move : Move deployment locale settings work more last) : Fresh last (reports ++ more) := by
  have waiting : ∀ job ∈ work.queue, job.id ≤ work.jobSeq := fun job member =>
    placed.le (List.mem_append_left _ (List.mem_map_of_mem member))
  have running {job : CognitionJob} (runs : work.drain.current = some job) : job.id ≤ work.jobSeq :=
    placed.le (List.mem_append_right _ (by rw [runs]; exact List.mem_singleton_self _))
  cases move with
  | remembered | ingested | seated =>
    exact fresh.quiet rfl (fun _ member => member) fresh.asked rfl
  | @rested drain vacant still =>
    refine fresh.quiet rfl (fun _ member => member) ?_ rfl
    rintro job inFlight (asks : drain = _)
    rw [asks] at still
    cases still
  | rejected asks same =>
    exact fresh.quiet rfl (fun _ member => member) (fun _ _ asks => nomatch asks) rfl
  | @started job rest vacant waits =>
    refine fresh.quiet rfl (fun _ member => waits ▸ List.mem_cons_of_mem _ member) ?_ rfl
    intro asked inFlight asks live
    cases asks
    exact fresh.waiting job (waits ▸ List.mem_cons_self)
  | finalDebited debit =>
    exact fresh.told le_rfl (fun _ closes => closes.elim)
      (fun job member => ⟨id, fresh.waiting job member⟩)
      (fun job inFlight asks live => ⟨id, fresh.asked job inFlight asks live⟩)
      (fun _ _ same => nomatch same)
  | @enqueued job number =>
    refine fresh.told (Nat.le_succ _) (fun _ closes => closes.elim) ?_
      (fun job inFlight asks live => ⟨id, fresh.asked job inFlight asks live⟩)
      (fun _ _ same => nomatch same)
    intro other member
    refine ⟨id, fun earlier told closes => ?_⟩
    rcases List.mem_append.mp (mem_sortBy.mp member) with before | new
    · exact fresh.waiting other before earlier told closes
    · rw [List.mem_singleton.mp new, number] at closes
      exact absurd (fresh.known earlier told _ closes) (Nat.not_succ_le_self _)
  | @dropped job ended rest outcome vacant waits same =>
    have nodup := (List.nodup_append.mp placed.numbers_nodup).1
    rw [waits, List.map_cons, List.nodup_cons] at nodup
    refine fresh.told le_rfl ?_ ?_ ?_ (fun _ _ same => nomatch same)
    · rintro id (rfl : ended.id = id)
      rw [same]
      exact waiting job (waits ▸ List.mem_cons_self)
    · intro other member
      refine ⟨?_, fresh.waiting other (waits ▸ List.mem_cons_of_mem _ member)⟩
      rintro (repeated : ended.id = other.id)
      rw [← same, repeated] at nodup
      exact nodup.1 (List.mem_map_of_mem member)
    · intro other inFlight asks
      rw [show work.drain = _ from asks] at vacant
      cases vacant
  | @debited job inFlight input ledger op note asks live debit background =>
    have runs : work.drain.current = some job := by
      rw [asks]
      rfl
    refine fresh.told le_rfl ?_ ?_ (fun _ _ asks => nomatch asks) ?_
    · rintro id (rfl : job.id = id)
      exact running runs
    · intro other member
      exact ⟨placed.apart member runs, fresh.waiting other member⟩
    · intro other amount same
      cases same
      exact fresh.asked job inFlight asks live
  | @ended job ended outcome runs same =>
    refine fresh.told le_rfl ?_ ?_ (fun _ _ asks => nomatch asks) (fun _ _ same => nomatch same)
    · rintro id (rfl : ended.id = id)
      rw [same]
      exact running runs
    · intro other member
      refine ⟨?_, fresh.waiting other member⟩
      rintro (repeated : ended.id = other.id)
      exact placed.apart member runs (same.symm.trans repeated)
  | cancelled note =>
    have idOf {cancelled : CognitionJob} {id : Nat}
        (member : cancelled ∈ work.queue.map (CognitionJob.cancel note) ++
          (work.drain.inFlightJob.map (CognitionJob.cancel note)).toList)
        (same : cancelled.id = id) : (∃ job ∈ work.queue, job.id = id) ∨
        ∃ job, work.drain.inFlightJob = some job ∧ job.id = id := by
      rcases List.mem_append.mp member with waits | flies
      · rcases List.mem_map.mp waits with ⟨job, inside, rfl⟩
        exact .inl ⟨job, inside, same⟩
      · rw [Option.mem_toList, Option.map_eq_some_iff] at flies
        rcases flies with ⟨job, inside, rfl⟩
        exact .inr ⟨job, inside, same⟩
    refine fresh.told le_rfl ?_ (fun _ member => absurd member List.not_mem_nil) ?_
      (fun _ _ same => nomatch same)
    · rintro id ⟨cancelled, member, same⟩
      rcases idOf member same with ⟨job, inside, rfl⟩ | ⟨job, flies, rfl⟩
      · exact waiting job inside
      · exact running (current_of_inFlightJob flies)
    · intro job inFlight asks live
      rcases asking_of_abort asks live with ⟨asked, grounded⟩
      refine ⟨?_, fresh.asked job inFlight asked live⟩
      rintro ⟨cancelled, member, same⟩
      rcases idOf member same with ⟨other, inside, repeated⟩ | ⟨other, flies, -⟩
      · exact placed.apart inside (by rw [asked]; rfl) repeated.symm
      · rw [grounded] at flies
        cases flies

/-! ## The memory -/

/-- The memory of a seat, pruned and without a model of the seat itself. -/
structure Remembers
    (locale : Locale) (created : CreateAgentStateInput) (state : AgentState) : Prop where
  madeFor : MadeFor created state
  tidy : Tidy locale state

theorem Remembers.setEnergyRemaining {created : CreateAgentStateInput} {state : AgentState}
    (remembers : Remembers locale created state) (energy : Int) :
    Remembers locale created (setEnergyRemaining locale state energy) :=
  have made := remembers.madeFor
  have kept := remembers.tidy.others
  ⟨⟨made.sessionId, made.handId, made.seat, made.profileHash⟩, pruneAgentState_again _ _,
    NoOwnModel.pruned ⟨kept.opponents, kept.ranges, kept.timings⟩⟩

theorem Remembers.move
    {created : CreateAgentStateInput} (remembers : Remembers locale created work.state)
    (move : Move deployment locale settings work more last) :
    Remembers locale created last.state := by
  cases move with
  | remembered kept => exact ⟨kept.madeFor _ remembers.madeFor, kept.tidy remembers.tidy⟩
  | ingested | debited | finalDebited => exact remembers.setEnergyRemaining _
  | enqueued | rested | started | dropped | rejected | ended | cancelled | seated =>
    exact remembers

/-! ## Every run of a new scheduler -/

def CognitionOptions.memory (options : CognitionOptions) : CreateAgentStateInput where
  sessionId := options.sessionId
  handId := options.handId
  seat := options.seat
  profileHash := options.profileHash

/-- What holds between any two calls. -/
structure Well (deployment : Deployment) (locale : Locale) (options : CognitionOptions)
    (work : CognitionWork) (reports : List Report) : Prop where
  balanced : Balanced deployment work reports
  placed : Placed work reports
  fresh : Fresh work reports
  remembers : Remembers locale options.memory work.state

theorem Well.moves (well : Well deployment locale options first [])
    (moves : Moves deployment locale settings first reports last) :
    Well deployment locale options last reports := by
  induction moves with
  | start => exact well
  | later _ move induction =>
    exact
      { balanced := induction.balanced.move move
        placed := induction.placed.move move
        fresh := induction.fresh.move induction.placed move
        remembers := induction.remembers.move move }

variable {scheduler : Scheduler}

theorem well_newScheduler (made : newScheduler deployment locale asHex32 options = .ok scheduler) :
    Well deployment locale options scheduler.toCognitionWork [] ∧
      Reserved scheduler.toCognitionWork [] := by
  rw [newScheduler] at made
  rcases Library.Guarded.bind_eq_ok_iff.mp made with ⟨ledger, granted, same⟩
  cases same
  rcases accounts_of_grant granted with ⟨accounts, opened, empty, active⟩
  have full : ledger.remainingEnergy = handEnergy := by
    have balance := accounts.balance
    rw [empty] at balance
    exact balance
  refine ⟨⟨⟨accounts, opened, full, rfl⟩, ⟨.rfl, .nil⟩, ?_, ?_⟩, active, ?_, fun _ => ?_⟩
  · exact
      { known := fun _ member => absurd member List.not_mem_nil
        waiting := fun _ member => absurd member List.not_mem_nil
        asked := fun _ _ asks => nomatch asks
        charges := .nil }
  · exact ⟨⟨rfl, rfl, rfl, rfl⟩, pruneAgentState_again _ _, noOwnModel_createEmptyAgentState _⟩
  · intro op member
    rw [empty] at member
    cases member
  · rw [full]
    decide

theorem well_run (made : newScheduler deployment locale asHex32 options = .ok scheduler)
    (events : List CognitionEvent) :
    let run := scheduler.run deployment locale toLowerCase asHex32 options events
    Well deployment locale options run.1.toCognitionWork run.2 :=
  (well_newScheduler made).1.moves
    (@moves_run _ _ (fun _ => True) _ _ _ scheduler events fun _ _ => trivial)

/--
In whatever order calls and answers come, what remains and what jobs and final
actions were charged make up the energy of the hand, each operation is recorded
with what it left, and the memory knows what remains.
-/
theorem energy_adds_up (made : newScheduler deployment locale asHex32 options = .ok scheduler)
    (events : List CognitionEvent) :
    let run := scheduler.run deployment locale toLowerCase asHex32 options events
    Balanced deployment run.1.toCognitionWork run.2 :=
  (well_run made events).balanced

/-- No job is charged for twice, after its end, or after it was cancelled. -/
theorem charged_once_and_never_after_cancellation
    (made : newScheduler deployment locale asHex32 options = .ok scheduler)
    (events : List CognitionEvent) :
    (scheduler.run deployment locale toLowerCase asHex32 options events).2.Pairwise
      fun earlier later =>
        ∀ job amount, later = .debited job amount → ¬earlier.closes job.id :=
  (well_run made events).fresh.charges

/-- Of the jobs queued so far each waits, runs or has left, once; the queue is in order. -/
theorem every_job_in_one_place
    (made : newScheduler deployment locale asHex32 options = .ok scheduler)
    (events : List CognitionEvent) :
    let run := scheduler.run deployment locale toLowerCase asHex32 options events
    Placed run.1.toCognitionWork run.2 :=
  (well_run made events).placed

/--
Whatever the provider answers and whenever, the memory is that of the seat, is
left alone by pruning, exceeds no bound and has no model of the seat itself.
-/
theorem memory_kept_within_bounds
    (made : newScheduler deployment locale asHex32 options = .ok scheduler)
    (events : List CognitionEvent) :
    let run := scheduler.run deployment locale toLowerCase asHex32 options events
    Remembers locale options.memory run.1.state ∧ exceedsBounds run.1.state = false :=
  have remembers := (well_run made events).remembers
  ⟨remembers, remembers.tidy.within⟩

/--
As long as the seat is in the hand, background work leaves the reserve, and
the first final action in the standard mode can be paid for.
-/
theorem reserve_left_for_the_turn
    (made : newScheduler deployment locale asHex32 options = .ok scheduler)
    (events : List CognitionEvent) (stays : .setSeatActive false ∉ events) :
    let run := scheduler.run deployment locale toLowerCase asHex32 options events
    (∀ op ∈ run.1.ledger.ops, op.spendClass = .background → mandatoryReserve ≤ op.remainingEnergy) ∧
      ((∀ amount, .finalDebited amount ∉ run.2) → ∀ memory,
        (canAfford run.1.ledger .standardFinalDecision
          (some (combinedFinalDebit .standardFinalDecision memory))
          (some .final)).affordable = true) := by
  have active : ∀ setting, .setSeatActive setting ∈ events → setting = true := by
    intro setting member
    cases setting with
    | false => exact absurd member stays
    | true => rfl
  have reserved := (well_newScheduler made).2.moves
    (@moves_run deployment locale (· = true) toLowerCase asHex32 options scheduler events active)
  have balanced := (@well_run deployment locale toLowerCase asHex32 options _ made events).balanced
  refine ⟨reserved.background, fun none memory => ?_⟩
  rw [EnergyAffordability.affordable, canAfford_reason_eq_none_iff.mpr]
  · rfl
  · refine ⟨balanced.opened, balanced.accounts.starting,
      combinedFinalDebit .standardFinalDecision memory, ?_, ?_, nofun⟩
    · cases memory <;> rfl
    · exact (show _ ≤ mandatoryReserve by cases memory <;> decide).trans (reserved.untouched none)

end Runs

/-! ### A raise is thought over and charged for; a second one is cut short -/

namespace Course

def fox : CognitionOptions where
  sessionId := "session"
  handId := "hand"
  seat := 0
  profileHash := "profile"
  opponentAdaptation := 85
  energyConservation := 20

def raised (cursor : Int) : PublicTableEvent where
  cursor := cursor
  kind := .action
  street := .preflop
  actorSeat := some 1
  actionType := some 13

/-- The second answer comes after the final action has aborted its job. -/
def events : List CognitionEvent :=
  [.publicEvent (raised 0) 0, .persisted 0 true 0, .answered (.ok { applied := true }),
    .stored none, .resumed, .publicEvent (raised 1) 5, .persisted 0 true 5,
    .finalAction {}, .answered (.ok { applied := true }), .resumed,
    .decided 0 (some { actionType := 11, amount := "0", fallbackUsed := false }) 9]

def asHex32 (text : Text) : Bytes32 := text.length

/-- Made for a fox, the scheduler has the property after the events. -/
def Holds (property : Scheduler × List Report → Prop) : Prop :=
  ∃ scheduler, newScheduler Example.deployment Replays.plain asHex32 fox = .ok scheduler ∧
    property (scheduler.run Example.deployment Replays.plain id asHex32 fox events)

theorem energy_adds_up_course : Holds fun run =>
  Balanced Example.deployment run.1.toCognitionWork run.2 ∧ run.1.ledger.remainingEnergy = 88 :=
  ⟨_, rfl, energy_adds_up rfl events, by decide +kernel⟩

theorem charged_once_course : Holds fun run =>
  (run.2.Pairwise fun earlier later =>
    ∀ job amount, later = .debited job amount → ¬earlier.closes job.id) ∧
    spent run.2 = 12 :=
  ⟨_, rfl, charged_once_and_never_after_cancellation rfl events, by decide +kernel⟩

theorem every_job_course : Holds fun run =>
  Placed run.1.toCognitionWork run.2 ∧ run.2.flatMap Report.left = [1, 2] :=
  ⟨_, rfl, every_job_in_one_place rfl events, by decide +kernel⟩

theorem memory_kept_course : Holds fun run =>
  Remembers Replays.plain fox.memory run.1.state ∧ exceedsBounds run.1.state = false :=
  ⟨_, rfl, memory_kept_within_bounds rfl events⟩

theorem reserve_left_course : Holds fun run =>
  (∀ op ∈ run.1.ledger.ops, op.spendClass = .background → mandatoryReserve ≤ op.remainingEnergy) ∧
    ((∀ amount, .finalDebited amount ∉ run.2) → ∀ memory,
      (canAfford run.1.ledger .standardFinalDecision
        (some (combinedFinalDebit .standardFinalDecision memory))
        (some .final)).affordable = true) :=
  ⟨_, rfl, reserve_left_for_the_turn rfl events (by simp [events])⟩

end Course

end Mozetto.AgentRuntime
