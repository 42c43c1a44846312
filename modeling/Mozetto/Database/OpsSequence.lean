import Mozetto.Database.SessionOps

/-!
# Operators' actions in order

While the statements on one session are in order, its calls act as if they ran
one after the other, each at the point where it writes the row.  The effects
are collected where the row is written, and what is left to do is one audit
row for each call that has written and not returned.
-/

namespace Mozetto.Database

open Mozetto.Library.Interleaving
open Mozetto.Library.Mapping (write_self)
open Mozetto.Library.TransitionSystem

/-! ## Longer histories -/

section Histories

variable {history : List SessionOpsEvent} {event other : SessionOpsEvent}
variable {point id : Nat}

theorem happenedAt_cons_iff : HappenedAt (event :: history) point other ↔
    (other = event ∧ point = history.length) ∨
      HappenedAt history point other := by
  constructor
  · intro happened
    rcases happened with ⟨later, earlier, split, length⟩
    cases later with
    | nil =>
      cases split
      exact Or.inl ⟨rfl, length.symm⟩
    | cons first later =>
      cases split
      exact Or.inr ⟨later, earlier, rfl, length⟩
  · intro happened
    rcases happened with ⟨rfl, rfl⟩ | ⟨later, earlier, rfl, length⟩
    · exact ⟨[], history, rfl, rfl⟩
    · exact ⟨event :: later, earlier, rfl, length⟩

theorem HappenedAt.cons (happened : HappenedAt history point other) :
    HappenedAt (event :: history) point other := happenedAt_cons_iff.mpr (Or.inr happened)

theorem HappenedAt.lt (happened : HappenedAt history point other) : point < history.length := by
  rcases happened with ⟨later, earlier, rfl, rfl⟩
  rw [List.length_append, List.length_cons]
  omega

theorem SucceededAt.cons (succeeded : SucceededAt history id point) :
    SucceededAt (event :: history) id point := succeeded.imp fun _ happened => happened.cons

@[simp]
theorem historyAt_length : historyAt history history.length = history := by
  rw [historyAt, Nat.sub_self, List.drop_zero]

theorem historyAt_cons (le : point ≤ history.length) :
    historyAt (event :: history) point = historyAt history point := by
  rw [historyAt, historyAt, List.length_cons, Nat.succ_sub le, List.drop_succ_cons]

theorem incidentsAt_cons {initially : List SecurityIncident} (le : point ≤ history.length) :
    incidentsAt initially (event :: history) point =
      incidentsAt initially history point := by
  rw [incidentsAt, historyAt_cons le, incidentsAt]

theorem Sequence.cons {sessionId : String} {initially : SessionOpsDb} {order : List OpsEffect}
    (below : ∀ effect ∈ order, effect.point < history.length)
    (sequence : Sequence sessionId initially history order) :
    Sequence sessionId initially (event :: history) order := by
  induction order with
  | nil => trivial
  | cons latest earlier induction =>
    rcases sequence with ⟨applies, safe, sequence⟩
    refine ⟨applies, ?_, induction (fun _ member =>
      below _ (List.mem_cons_of_mem _ member)) sequence⟩
    rw [incidentsAt_cons (below _ List.mem_cons_self).le]
    exact safe

/-- The call that an event belongs to. -/
def callOf : SessionOpsEvent → Nat
  | .started id _ => id
  | .executed id _ _ => id
  | .returned id _ => id

theorem readsOf_cons (ne : callOf event ≠ id) :
    readsOf id (event :: history) = readsOf id history := by
  cases event with
  | started => rfl
  | returned => rfl
  | executed by_ statement reply =>
    cases statement with
    | selectOps =>
      cases reply with
      | none => rfl
      | some ops => exact if_neg ne
    | _ => rfl

theorem checkOf_cons (ne : callOf event ≠ id) :
    checkOf id (event :: history) = checkOf id history := by
  cases event with
  | started => rfl
  | returned => rfl
  | executed by_ statement reply =>
    cases statement with
    | selectIncident => exact if_neg ne
    | _ => rfl

theorem readsOf_own {ops : SessionOpsReply .selectOps} :
    readsOf id (.executed id .selectOps (some ops) :: history) = ops :: readsOf id history :=
  if_pos rfl

theorem mem_readsOf_own {ops : SessionOpsReply .selectOps} :
    ops ∈ readsOf id (.executed id .selectOps (some ops) :: history) := by
  rw [readsOf_own]
  exact List.mem_cons_self

theorem mem_readsOf_again {reply : Option (SessionOpsReply .selectOps)}
    {read : Option AdminSessionOps} (member : read ∈ readsOf id history) :
    read ∈ readsOf id (.executed id .selectOps reply :: history) := by
  cases reply with
  | none => exact member
  | some ops =>
    rw [readsOf_own]
    exact List.mem_cons_of_mem _ member

theorem checkOf_own {reply : Option (SessionOpsReply .selectIncident)} :
    checkOf id (.executed id .selectIncident reply :: history) = some history.length := if_pos rfl

theorem checkOf_lt (checked : checkOf id history = some point) : point < history.length := by
  induction history with
  | nil => cases checked
  | cons event earlier induction =>
    rw [List.length_cons]
    by_cases same : callOf event = id
    case neg =>
      rw [checkOf_cons same] at checked
      exact (induction checked).trans (Nat.lt_succ_self _)
    case pos =>
      cases event with
      | started => exact (induction checked).trans (Nat.lt_succ_self _)
      | returned => exact (induction checked).trans (Nat.lt_succ_self _)
      | executed by_ statement reply =>
        cases statement with
        | selectIncident =>
          have found : some earlier.length = some point := by
            rw [← checked]
            exact (if_pos same).symm
          cases found
          exact Nat.lt_succ_self _
        | _ => exact (induction checked).trans (Nat.lt_succ_self _)

end Histories

/-! ## What a running call has to do -/

section Session

variable {sessionId : String} {initially : SessionOpsDb}

/-- A call goes on with a part of `mutateSessionOps`. -/
def mutated (program : SessionOpsProgram (Except Thrown MutatedSessionOps)) :
    SessionOpsProgram SessionOpsResult := do
  return .mutated (← program)

/-- The call has found nothing against its action. -/
def PassedChecks (sessionId : String) (initially : SessionOpsDb)
    (history : List SessionOpsEvent) (id : Nat) : Prop :=
  (∃ point ∈ checkOf id history, openIncidents sessionId
        (incidentsAt initially.incidents history point) = []) ∧
    ∃ read ∈ readsOf id history, read.any (·.underReview) = false

/-- The call has begun with this input. -/
def Began (history : List SessionOpsEvent) (id : Nat) (input : MutateSessionOpsInput) : Prop :=
  ∃ began, HappenedAt history began (.started id (.mutate input))

/-- What a call has before it that has not written the row. -/
inductive Unwritten (sessionId : String) (initially : SessionOpsDb)
    (history : List SessionOpsEvent) (id : Nat) : SessionOpsProgram SessionOpsResult → Prop where
  | finding (input : MutateSessionOpsInput) (began : Began history id input) :
      Unwritten sessionId initially history id
        (mutated (Program.query .selectSession >>= input.found sessionId))
  | reviewing (input : MutateSessionOpsInput) (began : Began history id input) :
      Unwritten sessionId initially history id
        (mutated (assertSessionResumeSafe >>= input.checked sessionId))
  | checking (input : MutateSessionOpsInput) (began : Began history id input)
      (reviewed : ∃ read ∈ readsOf id history, read.any (·.underReview) = false) :
      Unwritten sessionId initially history id
        (mutated (assertNoIncident >>= input.checked sessionId))
  | reading (input : MutateSessionOpsInput) (began : Began history id input)
      (passed : input.needsSafety = true → PassedChecks sessionId initially history id) :
      Unwritten sessionId initially history id (mutated (input.checked sessionId (.ok ())))
  | writing (input : MutateSessionOpsInput)
      (previous : Option AdminSessionOps) (began : Began history id input)
      (passed : input.needsSafety = true → PassedChecks sessionId initially history id)
      (read : (readsOf id history).head? = some previous) : Unwritten sessionId initially history id
      (mutated (input.change sessionId (some previous)))
  | incident (change : IncidentChange) : Unwritten sessionId initially history id (do
        let _ ← Program.query (.changeIncidents change)
        return .incidentChanged)

/-- A call returns without success, or has this before it. -/
inductive Continues (sessionId : String) (initially : SessionOpsDb)
    (history : List SessionOpsEvent) (id : Nat) : SessionOpsProgram SessionOpsResult → Prop where
  | threw (thrown : Thrown) :
      Continues sessionId initially history id (.done (.mutated (.error thrown)))
  | incidentChanged : Continues sessionId initially history id (.done .incidentChanged)
  | unwritten {program : SessionOpsProgram SessionOpsResult}
      (unwritten : Unwritten sessionId initially history id program) :
      Continues sessionId initially history id program

variable {history : List SessionOpsEvent} {event : SessionOpsEvent} {id : Nat}
variable {program : SessionOpsProgram SessionOpsResult}

theorem PassedChecks.cons (ne : callOf event ≠ id)
    (passed : PassedChecks sessionId initially history id) :
    PassedChecks sessionId initially (event :: history) id := by
  rcases passed with ⟨⟨point, check, none⟩, reviewed⟩
  refine ⟨⟨point, ?_, ?_⟩, ?_⟩
  · rw [checkOf_cons ne]
    exact check
  · rw [incidentsAt_cons (checkOf_lt check).le]
    exact none
  · rw [readsOf_cons ne]
    exact reviewed

/-- Reading the row again keeps what was found before. -/
theorem PassedChecks.read {reply : Option (SessionOpsReply .selectOps)}
    (passed : PassedChecks sessionId initially history id) : PassedChecks sessionId initially
    (.executed id .selectOps reply :: history) id := by
  rcases passed with ⟨⟨point, check, none⟩, read, member, reviewed⟩
  refine ⟨⟨point, check, ?_⟩, read, mem_readsOf_again member, reviewed⟩
  rw [incidentsAt_cons (checkOf_lt check).le]
  exact none

/-- A check that finds no incident completes the checks. -/
theorem PassedChecks.checked {reply : Option (SessionOpsReply .selectIncident)}
    (reviewed : ∃ read ∈ readsOf id history, read.any (·.underReview) = false)
    (none : openIncidents sessionId (incidentsAfter initially.incidents history) = []) :
    PassedChecks sessionId initially (.executed id .selectIncident reply :: history) id := by
  refine ⟨⟨history.length, checkOf_own, ?_⟩, reviewed⟩
  rw [incidentsAt_cons le_rfl, incidentsAt, historyAt_length]
  exact none

theorem Began.cons {input : MutateSessionOpsInput} (began : Began history id input) :
    Began (event :: history) id input := began.imp fun _ happened => happened.cons

/-- What another call does leaves this as it is. -/
theorem Unwritten.cons (ne : callOf event ≠ id)
    (unwritten : Unwritten sessionId initially history id program) :
    Unwritten sessionId initially (event :: history) id program := by
  cases unwritten with
  | finding input began => exact .finding input began.cons
  | reviewing input began => exact .reviewing input began.cons
  | checking input began reviewed =>
    refine .checking input began.cons ?_
    rw [readsOf_cons ne]
    exact reviewed
  | reading input began passed =>
    exact .reading input began.cons fun needs => (passed needs).cons ne
  | writing input previous began passed read =>
    refine .writing input previous began.cons (fun needs => (passed needs).cons ne) ?_
    rw [readsOf_cons ne]
    exact read
  | incident change => exact .incident change

/-! ## The invariant -/

/-- The rows, by the effects so far and the audit rows still to be written. -/
structure Recorded (sessionId : String) (initially db : SessionOpsDb)
    (history : List SessionOpsEvent) (order : List OpsEffect)
    (pending : List (Nat × AdminAction)) : Prop where
  incidents : db.incidents = incidentsAfter initially.incidents history
  points : order.Pairwise fun later earlier => earlier.point < later.point
  below : ∀ effect ∈ order, effect.point < history.length
  calls : (order.map (·.call)).Nodup
  began : ∀ effect ∈ order, ∃ began,
      HappenedAt history began (.started effect.call (.mutate effect.input)) ∧ began < effect.point
  sequence : Sequence sessionId initially history order
  ops : db.ops = opsAfter initially.ops order
  adminActions : (pending.map (·.2) ++ db.adminActions).Perm
      (auditsOf sessionId initially.ops order ++ initially.adminActions)
  succeeded : ∀ id ended, SucceededAt history id ended →
        ∃ effect ∈ order, effect.call = id ∧ effect.point < ended
  pendingCalls : (pending.map (·.1)).Nodup
  pendingOrdered : ∀ id ∈ pending.map (·.1), id ∈ order.map (·.call)

/-- The calls, by the effects so far and the audit rows still to be written. -/
structure Tracked (sessionId : String) (initially : SessionOpsDb) (world : SessionOpsWorld)
    (order : List OpsEffect) (pending : List (Nat × AdminAction)) : Prop where
  auditing : ∀ entry ∈ pending, ∃ input previous ops, world.Runs entry.1 (mutated
            (MutateSessionOpsInput.upserted sessionId input previous (some ops))) ∧
        entry.2 = input.audit sessionId previous ops
  ordered : ∀ effect ∈ order, effect.call ∈ pending.map (·.1) ∨
        world.calls effect.call = .returned ∧ ∃ ended, SucceededAt world.history effect.call ended
  running : ∀ id program, world.Runs id program → id ∈ pending.map (·.1) ∨
          Unwritten sessionId initially world.history id program

/-- What holds while all statements are in order. -/
def OperatorsInOrder (sessionId : String) (initially : SessionOpsDb) (world : SessionOpsWorld) :
    Prop :=
  ∃ order pending, Recorded sessionId initially world.shared world.history order pending ∧
      Tracked sessionId initially world order pending

variable {db after : SessionOpsDb} {order : List OpsEffect}
variable {pending : List (Nat × AdminAction)}
variable {world : SessionOpsWorld}

/-- An event that is no success is recorded. -/
theorem Recorded.cons (recorded : Recorded sessionId initially db history order pending)
    (ops : after.ops = db.ops) (adminActions : after.adminActions = db.adminActions)
    (incidents : after.incidents = incidentsAfter initially.incidents (event :: history))
    (unsuccessful : ∀ result, event ≠ .returned id (.mutated (.ok result)))
    (own : callOf event = id) :
    Recorded sessionId initially after (event :: history) order pending where
  incidents := incidents
  points := recorded.points
  below effect member := (recorded.below effect member).trans (Nat.lt_succ_self _)
  calls := recorded.calls
  began effect member := by
    rcases recorded.began effect member with ⟨began, happened, before⟩
    exact ⟨began, happened.cons, before⟩
  sequence := recorded.sequence.cons recorded.below
  ops := ops.trans recorded.ops
  adminActions := by
    rw [adminActions]
    exact recorded.adminActions
  succeeded other ended succeeded := by
    rcases succeeded with ⟨result, happened⟩
    rcases happenedAt_cons_iff.mp happened with ⟨same, _⟩ | earlier
    · rw [← same] at own
      rw [show other = id from own] at same
      exact absurd same.symm (unsuccessful result)
    · exact recorded.succeeded other ended ⟨result, earlier⟩
  pendingCalls := recorded.pendingCalls
  pendingOrdered := recorded.pendingOrdered

/-- A call that goes on without success records nothing. -/
theorem Recorded.resume
    (recorded : Recorded sessionId initially world.shared world.history order pending)
    (continues : Continues sessionId initially world.history id program) :
    Recorded sessionId initially (world.resume id program).shared
      (world.resume id program).history order pending := by
  rw [World.shared_resume]
  cases continues with
  | threw thrown =>
    exact recorded.cons rfl rfl recorded.incidents (fun result same => nomatch same) rfl
  | incidentChanged =>
    exact recorded.cons rfl rfl recorded.incidents (fun result same => nomatch same) rfl
  | unwritten unwritten =>
    cases unwritten with
    | _ => exact recorded

/-- The event of a call that has returned belongs to it. -/
theorem unwritten_of_resume {other : Nat} {running : SessionOpsProgram SessionOpsResult}
    (ne : other ≠ id)
    (unwritten : Unwritten sessionId initially world.history other running) :
    Unwritten sessionId initially (world.resume id program).history other
      running := by
  cases program with
  | done result => exact unwritten.cons ne.symm
  | issue => exact unwritten

theorem succeededAt_resume {other ended : Nat} (succeeded : SucceededAt world.history other ended) :
    SucceededAt (world.resume id program).history other ended := by
  cases program with
  | done result => exact succeeded.cons
  | issue => exact succeeded

/-- The other calls are where they were when one call goes on. -/
theorem Tracked.goesOn (tracked : Tracked sessionId initially world order pending)
    (unpending : id ∉ pending.map (·.1)) (unordered : id ∉ order.map (·.call))
    (own : callOf event = id)
    (continues : Continues sessionId initially (event :: world.history) id program) :
    Tracked sessionId initially ((world.record event after).resume id program) order pending where
  auditing entry member := by
    rcases tracked.auditing entry member with ⟨input, previous, ops, runs, audit⟩
    have ne : entry.1 ≠ id := fun same =>
      unpending (same ▸ List.mem_map_of_mem member)
    exact ⟨input, previous, ops, (World.runs_resume_of_ne ne).mpr runs, audit⟩
  ordered effect member := by
    have ne : effect.call ≠ id := fun same =>
      unordered (same ▸ List.mem_map_of_mem member)
    rcases tracked.ordered effect member with left | ⟨returned, ended, done⟩
    · exact Or.inl left
    · rw [World.calls_resume_of_ne ne]
      refine Or.inr ⟨returned, ended, ?_⟩
      apply succeededAt_resume
      exact done.cons
  running other running runs := by
    by_cases same : other = id
    case neg =>
      have before : (world.record event after).Runs other running :=
        (World.runs_resume_of_ne same).mp runs
      have ne : callOf event ≠ other := fun equal =>
        same (equal.symm.trans own)
      rcases tracked.running other running before with left | unwritten
      · exact Or.inl left
      · right
        apply unwritten_of_resume same
        exact unwritten.cons ne
    case pos =>
      subst same
      have goesOn := World.eq_of_runs_resume runs
      subst goesOn
      rcases runs with ⟨statement, next, _, rfl⟩
      cases continues with
      | unwritten unwritten =>
        right
        exact unwritten

/-- A call that has not written the row goes on without writing it. -/
theorem OperatorsInOrder.goesOn
    (recorded : Recorded sessionId initially world.shared world.history order pending)
    (tracked : Tracked sessionId initially world order pending)
    (unpending : id ∉ pending.map (·.1))
    (unordered : id ∉ order.map (·.call))
    (own : callOf event = id)
    (unsuccessful : ∀ result, event ≠ .returned id (.mutated (.ok result)))
    (ops : after.ops = world.shared.ops)
    (adminActions : after.adminActions = world.shared.adminActions)
    (incidents : after.incidents = incidentsAfter initially.incidents (event :: world.history))
    (continues : Continues sessionId initially (event :: world.history) id program) :
    OperatorsInOrder sessionId initially ((world.record event after).resume id program) :=
  ⟨order, pending, @Recorded.resume _ _ _ _ _ _ (world.record event after)
      (recorded.cons ops adminActions incidents unsuccessful own) continues,
    tracked.goesOn unpending unordered own continues⟩

/-- A call writes the row and has its audit row to write. -/
theorem OperatorsInOrder.writes {input : MutateSessionOpsInput} {row : AdminSessionOps}
    {flags : SessionOpsFlags} {notes updatedBy : Option String}
    (recorded : Recorded sessionId initially world.shared world.history order pending)
    (tracked : Tracked sessionId initially world order pending)
    (unpending : id ∉ pending.map (·.1))
    (unordered : id ∉ order.map (·.call))
    (began : Began world.history id input)
    (applies : OpsEffect.Applies sessionId ⟨id, input, world.history.length, row⟩ world.shared.ops)
    (safe : OpsEffect.Safe sessionId ⟨id, input, world.history.length, row⟩
        world.shared.ops world.shared.incidents) :
    OperatorsInOrder sessionId initially ((world.record
          (.executed id (.upsertOps flags notes updatedBy) (some row))
          { world.shared with ops := some row }).resume id (mutated
          (input.upserted sessionId world.shared.ops (some row)))) := by
  refine ⟨⟨id, input, world.history.length, row⟩ :: order,
    (id, input.audit sessionId world.shared.ops row) :: pending, ?_, ?_⟩
  · constructor
    case incidents => exact recorded.incidents
    case points =>
      exact List.pairwise_cons.mpr ⟨recorded.below, recorded.points⟩
    case below =>
      intro effect member
      rcases List.mem_cons.mp member with rfl | member
      · exact Nat.lt_succ_self _
      · exact (recorded.below effect member).trans (Nat.lt_succ_self _)
    case calls => exact List.nodup_cons.mpr ⟨unordered, recorded.calls⟩
    case began =>
      intro effect member
      rcases List.mem_cons.mp member with rfl | member
      · rcases began with ⟨point, happened⟩
        exact ⟨point, happened.cons, happened.lt⟩
      · rcases recorded.began effect member with ⟨point, happened, before⟩
        exact ⟨point, happened.cons, before⟩
    case sequence =>
      refine ⟨?_, ?_, recorded.sequence.cons recorded.below⟩
      · rw [← recorded.ops]
        exact applies
      · show OpsEffect.Safe _ _ _ (incidentsAt initially.incidents (_ :: _) _)
        rw [← recorded.ops, incidentsAt_cons le_rfl, incidentsAt,
          historyAt_length, ← recorded.incidents]
        exact safe
    case ops => rfl
    case adminActions =>
      show (_ :: _).Perm (_ :: _)
      rw [← recorded.ops]
      exact recorded.adminActions.cons _
    case succeeded =>
      intro other ended succeeded
      rcases succeeded with ⟨result, happened⟩
      rcases happenedAt_cons_iff.mp happened with ⟨same, _⟩ | earlier
      · cases same
      · rcases recorded.succeeded other ended ⟨result, earlier⟩ with ⟨effect, member, facts⟩
        exact ⟨effect, List.mem_cons_of_mem _ member, facts⟩
    case pendingCalls =>
      exact List.nodup_cons.mpr ⟨unpending, recorded.pendingCalls⟩
    case pendingOrdered =>
      intro other member
      rcases List.mem_cons.mp member with rfl | member
      · exact List.mem_cons_self
      · exact List.mem_cons_of_mem _ (recorded.pendingOrdered other member)
  · constructor
    case auditing =>
      intro entry member
      rcases List.mem_cons.mp member with rfl | member
      · exact ⟨input, world.shared.ops, row, World.runs_resume_issue, rfl⟩
      · rcases tracked.auditing entry member with ⟨input, previous, ops, runs, audit⟩
        have ne : entry.1 ≠ id := fun same =>
          unpending (same ▸ List.mem_map_of_mem member)
        exact ⟨input, previous, ops, (World.runs_resume_of_ne ne).mpr runs, audit⟩
    case ordered =>
      intro effect member
      rcases List.mem_cons.mp member with rfl | member
      · exact Or.inl List.mem_cons_self
      · have ne : effect.call ≠ id := fun same =>
        unordered (same ▸ List.mem_map_of_mem member)
        rcases tracked.ordered effect member with left | ⟨returned, ended, done⟩
        · exact Or.inl (List.mem_cons_of_mem _ left)
        · rw [World.calls_resume_of_ne ne]
          exact Or.inr ⟨returned, ended, done.cons⟩
    case running =>
      intro other running runs
      by_cases same : other = id
      case neg =>
        have before : (world.record _ _).Runs other running :=
          (World.runs_resume_of_ne same).mp runs
        rcases tracked.running other running before with left | unwritten
        · exact Or.inl (List.mem_cons_of_mem _ left)
        · exact Or.inr (unwritten.cons (Ne.symm same))
      case pos =>
        subst same
        exact Or.inl List.mem_cons_self

/-- A call writes its audit row and returns. -/
theorem OperatorsInOrder.audits {input : MutateSessionOpsInput} {previous : Option AdminSessionOps}
    {ops : AdminSessionOps} {uuid : Nat}
    (recorded : Recorded sessionId initially world.shared world.history order pending)
    (tracked : Tracked sessionId initially world order pending)
    (member : (id, input.audit sessionId previous ops) ∈ pending) :
    OperatorsInOrder sessionId initially ((world.record (.executed id
            (.insertAction (input.audit sessionId previous ops)) (some uuid))
          { world.shared with
            adminActions :=
              input.audit sessionId previous ops :: world.shared.adminActions }).resume id
        (mutated (MutateSessionOpsInput.audited ops (some uuid)))) := by
  have succeeds : SucceededAt (.returned id (.mutated (.ok ⟨ops, uuid⟩)) ::
        .executed id (.insertAction (input.audit sessionId previous ops))
          (some uuid) :: world.history) id (world.history.length + 1) :=
    ⟨⟨ops, uuid⟩, [], _, rfl, rfl⟩
  have moved := List.perm_cons_erase member
  have keys := moved.map (·.1)
  have others := List.nodup_cons.mp (keys.nodup_iff.mp recorded.pendingCalls)
  have still {other : Nat} (ne : other ≠ id) (left : other ∈ pending.map (·.1)) : other ∈
      (pending.erase (id, input.audit sessionId previous ops)).map (·.1) :=
    (List.mem_cons.mp (keys.mem_iff.mp left)).resolve_left ne
  refine ⟨order, pending.erase (id, input.audit sessionId previous ops), ?_, ?_⟩
  · constructor
    case incidents => exact recorded.incidents
    case points => exact recorded.points
    case below =>
      intro effect member
      have below := recorded.below effect member
      show _ < world.history.length + 1 + 1
      omega
    case calls => exact recorded.calls
    case began =>
      intro effect member
      rcases recorded.began effect member with ⟨point, happened, before⟩
      exact ⟨point, happened.cons.cons, before⟩
    case sequence =>
      apply Sequence.cons
      · intro effect member
        exact (recorded.below effect member).trans (Nat.lt_succ_self _)
      · exact recorded.sequence.cons recorded.below
    case ops => exact recorded.ops
    case adminActions =>
      apply List.Perm.trans _ recorded.adminActions
      have rows := (moved.map (·.2)).symm
      exact List.perm_middle.trans (rows.append_right _)
    case succeeded =>
      intro other ended succeeded
      rcases succeeded with ⟨result, happened⟩
      rcases happenedAt_cons_iff.mp happened with ⟨same, rfl⟩ | happened
      · cases same
        have ordered := recorded.pendingOrdered id (List.mem_map_of_mem member)
        rcases List.mem_map.mp ordered with ⟨effect, ordered, same⟩
        have below := recorded.below effect ordered
        exact ⟨effect, ordered, same, below.trans (Nat.lt_succ_self _)⟩
      · rcases happenedAt_cons_iff.mp happened with ⟨same, _⟩ | happened
        · cases same
        · exact recorded.succeeded other ended ⟨result, happened⟩
    case pendingCalls => exact others.2
    case pendingOrdered =>
      intro other left
      have left := keys.mem_iff.mpr (List.mem_cons_of_mem _ left)
      exact recorded.pendingOrdered other left
  · constructor
    case auditing =>
      intro entry left
      rcases tracked.auditing entry (List.mem_of_mem_erase left) with
        ⟨input, previous, ops, runs, audit⟩
      have ne : entry.1 ≠ id := by
        intro same
        have keyed := List.mem_map_of_mem (f := Prod.fst) left
        rw [same] at keyed
        exact others.1 keyed
      exact ⟨input, previous, ops, (World.runs_resume_of_ne ne).mpr runs, audit⟩
    case ordered =>
      intro effect ordered
      by_cases same : effect.call = id
      case pos =>
        rw [same]
        exact Or.inr ⟨write_self _ _ _, _, succeeds⟩
      case neg =>
        rcases tracked.ordered effect ordered with left | ⟨returned, ended, done⟩
        · exact Or.inl (still same left)
        · rw [World.calls_resume_of_ne same]
          exact Or.inr ⟨returned, ended, done.cons.cons⟩
    case running =>
      intro other running runs
      by_cases same : other = id
      case pos =>
        subst same
        have goesOn := World.eq_of_runs_resume runs
        rcases runs with ⟨statement, next, _, issued⟩
        cases goesOn.symm.trans issued
      case neg =>
        have before : (world.record _ _).Runs other running :=
          (World.runs_resume_of_ne same).mp runs
        rcases tracked.running other running before with left | unwritten
        · exact Or.inl (still same left)
        · exact Or.inr ((unwritten.cons (Ne.symm same)).cons (Ne.symm same))

/-! ## Steps -/

/-- A call that has neither returned nor an audit row to write is not there. -/
theorem Tracked.unordered (tracked : Tracked sessionId initially world order pending)
    (unpending : id ∉ pending.map (·.1)) (unreturned : world.calls id ≠ .returned) :
    id ∉ order.map (·.call) := by
  intro ordered
  rcases List.mem_map.mp ordered with ⟨effect, member, rfl⟩
  rcases tracked.ordered effect member with left | ⟨returned, _⟩
  · exact unpending left
  · exact unreturned returned

theorem Tracked.unpending_of_idle (tracked : Tracked sessionId initially world order pending)
    (idle : world.calls id = .idle) : id ∉ pending.map (·.1) := by
  intro left
  rcases List.mem_map.mp left with ⟨entry, member, rfl⟩
  rcases tracked.auditing entry member with ⟨_, _, _, ⟨statement, next, running, _⟩, _⟩
  cases idle.symm.trans running

/-- How a call begins. -/
theorem continues_of_start (call : SessionOpsCall) :
    Continues sessionId initially (.started id call :: history) id
      ((sessionOpsMachine sessionId).body call) := by
  cases call with
  | incident change => exact .unwritten (.incident change)
  | mutate input =>
    have began : Began (.started id (.mutate input) :: history) id input :=
      ⟨_, [], history, rfl, rfl⟩
    show Continues _ _ _ _ (mutated (mutateSessionOps sessionId input))
    rw [mutateSessionOps]
    split
    · exact .threw _
    · exact .unwritten (.finding input began)

theorem OperatorsInOrder.start (invariant : OperatorsInOrder sessionId initially world)
    (idle : world.calls id = .idle) (call : SessionOpsCall) : OperatorsInOrder sessionId initially
    ((world.record (.started id call) world.shared).resume id
      ((sessionOpsMachine sessionId).body call)) := by
  rcases invariant with ⟨order, pending, recorded, tracked⟩
  have unpending := tracked.unpending_of_idle idle
  apply OperatorsInOrder.goesOn recorded tracked unpending
  · apply tracked.unordered unpending
    rw [idle]
    exact fun same => nomatch same
  · rfl
  · exact fun result same => nomatch same
  · rfl
  · rfl
  · exact recorded.incidents
  · exact continues_of_start call

/-- What has been checked still holds where the call writes the row. -/
theorem PassedChecks.safe {db : SessionOpsDb} (passed : PassedChecks sessionId initially history id)
    (holds : CheckHolds sessionId initially history db id) : db.ops.any (·.underReview) = false ∧
    openIncidents sessionId db.incidents = [] := by
  rcases passed with ⟨⟨point, check, none⟩, read, member, reviewed⟩
  rcases holds point check with ⟨opened, review⟩
  constructor
  · apply Bool.eq_false_iff.mpr
    intro under
    rw [review read member under] at reviewed
    cases reviewed
  · apply List.eq_nil_iff_forall_not_mem.mpr
    intro incident blocks
    have before := opened incident blocks
    rw [none] at before
    cases before

variable {statement : SessionOpsStatement}
variable {next :
  Option (SessionOpsReply statement) → SessionOpsProgram SessionOpsResult}
variable {choice : SessionOpsChoice}

/-- A statement that only reads, or fails. -/
theorem OperatorsInOrder.looks {reply : Option (SessionOpsReply statement)}
    (recorded : Recorded sessionId initially world.shared world.history order pending)
    (tracked : Tracked sessionId initially world order pending)
    (unpending : id ∉ pending.map (·.1))
    (unordered : id ∉ order.map (·.call))
    (incidents : world.shared.incidents = incidentsAfter initially.incidents
          (.executed id statement reply :: world.history))
    (continues : Continues sessionId initially
        (.executed id statement reply :: world.history) id program) :
    OperatorsInOrder sessionId initially
      ((world.record (.executed id statement reply) world.shared).resume id program) :=
  OperatorsInOrder.goesOn recorded tracked unpending unordered rfl
    (fun _ same => nomatch same) rfl rfl incidents continues

/-- A call that finds no incident has completed its checks. -/
theorem continues_of_check {input : MutateSessionOpsInput}
    {reply : Option (SessionOpsReply .selectIncident)} (began : Began history id input)
    (reviewed : ∃ read ∈ readsOf id history, read.any (·.underReview) = false)
    (unblocked : Option.join reply = none → openIncidents sessionId
          (incidentsAfter initially.incidents history) = []) :
    Continues sessionId initially (.executed id .selectIncident reply :: history) id (mutated
        ((if (Option.join reply).isSome then
            return .error (some "resume_blocked_open_incident")
          else return .ok ()) >>= input.checked sessionId)) := by
  split
  case isTrue => exact .threw _
  case isFalse none =>
    apply Continues.unwritten
    apply Unwritten.reading input began.cons
    intro _
    exact .checked reviewed (unblocked (Option.not_isSome_iff_eq_none.mp none))

/-- The statement of a call that has not written the row. -/
theorem OperatorsInOrder.unwritten
    (recorded : Recorded sessionId initially world.shared world.history order pending)
    (tracked : Tracked sessionId initially world order pending)
    (unpending : id ∉ pending.map (·.1))
    (unordered : id ∉ order.map (·.call))
    (unwritten : Unwritten sessionId initially world.history id (.issue statement next))
    (inTime : OpsInTime sessionId initially world.history world.shared id statement choice) :
    OperatorsInOrder sessionId initially ((world.record (.executed id statement
            ((sessionOpsMachine sessionId).execute world.shared choice statement).2)
          ((sessionOpsMachine sessionId).execute world.shared choice statement).1).resume id (next
          ((sessionOpsMachine sessionId).execute world.shared choice statement).2)) := by
  generalize issued : Program.issue statement next = program at unwritten
  cases unwritten with
  | finding input began =>
    cases issued
    cases choice with
    | fails =>
      apply OperatorsInOrder.looks recorded tracked unpending unordered
      · exact recorded.incidents
      · exact .threw none
    | executed now uuid =>
      apply OperatorsInOrder.looks recorded tracked unpending unordered
        (by exact recorded.incidents)
      show Continues _ _ _ _ (mutated (input.found sessionId (some world.shared.sessionExists)))
      cases world.shared.sessionExists with
      | false => exact .threw _
      | true =>
        rw [MutateSessionOpsInput.found]
        split
        · exact .unwritten (.reviewing input began.cons)
        · apply Continues.unwritten
          exact .reading input began.cons fun needs =>
            absurd needs (by assumption)
  | reviewing input began =>
    cases issued
    cases choice with
    | fails =>
      apply OperatorsInOrder.looks recorded tracked unpending unordered
      · exact recorded.incidents
      · exact .threw none
    | executed now uuid =>
      apply OperatorsInOrder.looks recorded tracked unpending unordered
        (by exact recorded.incidents)
      show Continues _ _ _ _ (mutated (assertReviewed (some world.shared.ops) >>=
            input.checked sessionId))
      rw [assertReviewed]
      split
      case isTrue => exact .threw _
      case isFalse notUnder =>
        apply Continues.unwritten
        refine .checking input began.cons ⟨world.shared.ops, ?_, ?_⟩
        · exact mem_readsOf_own
        · exact Bool.eq_false_iff.mpr notUnder
  | checking input began reviewed =>
    cases issued
    cases choice with
    | fails =>
      apply OperatorsInOrder.looks recorded tracked unpending unordered
        (by exact recorded.incidents)
      apply continues_of_check began reviewed
      intro _
      rw [← recorded.incidents]
      exact inTime
    | executed now uuid =>
      apply OperatorsInOrder.looks recorded tracked unpending unordered
        (by exact recorded.incidents)
      apply continues_of_check began reviewed
      intro unblocked
      rw [← recorded.incidents]
      exact List.head?_eq_none_iff.mp (Option.map_eq_none_iff.mp unblocked)
  | reading input began passed =>
    cases issued
    cases choice with
    | fails =>
      apply OperatorsInOrder.looks recorded tracked unpending unordered
      · exact recorded.incidents
      · exact .threw none
    | executed now uuid =>
      apply OperatorsInOrder.looks recorded tracked unpending unordered
        (by exact recorded.incidents)
      apply Continues.unwritten
      refine .writing input world.shared.ops began.cons ?_ ?_
      · intro needs
        exact (passed needs).read
      · exact congrArg List.head? readsOf_own
  | writing input previous began passed read =>
    cases issued
    cases choice with
    | fails =>
      apply OperatorsInOrder.looks recorded tracked unpending unordered
      · exact recorded.incidents
      · exact .threw none
    | executed now uuid =>
      rcases inTime with ⟨upToDate, holds⟩
      cases read.symm.trans upToDate
      apply OperatorsInOrder.writes recorded tracked unpending unordered began
      · exact ⟨rfl, rfl, rfl, rfl⟩
      · exact fun needs => (passed needs).safe holds
  | incident change =>
    cases issued
    cases choice with
    | fails =>
      apply OperatorsInOrder.looks recorded tracked unpending unordered
      · exact recorded.incidents
      · exact .incidentChanged
    | executed now uuid =>
      apply OperatorsInOrder.goesOn recorded tracked unpending unordered
      · rfl
      · exact fun result same => nomatch same
      · rfl
      · rfl
      · show change.apply _ = change.apply _
        rw [recorded.incidents]
      · exact .incidentChanged

/-- What the call that executes a statement makes of it. -/
theorem OperatorsInOrder.perform (invariant : OperatorsInOrder sessionId initially world)
    (running : world.calls id = .running statement next)
    (inTime : OpsInTime sessionId initially world.history world.shared id statement choice) :
    OperatorsInOrder sessionId initially ((world.record (.executed id statement
            ((sessionOpsMachine sessionId).execute world.shared choice statement).2)
          ((sessionOpsMachine sessionId).execute world.shared choice statement).1).resume id (next
          ((sessionOpsMachine sessionId).execute world.shared choice statement).2)) := by
  rcases invariant with ⟨order, pending, recorded, tracked⟩
  have runs : world.Runs id (.issue statement next) := ⟨statement, next, running, rfl⟩
  by_cases left : id ∈ pending.map (·.1)
  case pos =>
    rcases List.mem_map.mp left with ⟨entry, member, rfl⟩
    rcases tracked.auditing entry member with ⟨input, previous, ops, ⟨_, _, same, issued⟩, audit⟩
    cases running.symm.trans same
    cases issued
    cases choice with
    | fails => exact inTime.elim
    | executed now uuid =>
      apply OperatorsInOrder.audits recorded tracked
      rw [← audit]
      exact member
  case neg =>
    have unordered : id ∉ order.map (·.call) := by
      apply tracked.unordered left
      rw [running]
      exact fun same => nomatch same
    have unwritten := (tracked.running _ _ runs).resolve_left left
    exact OperatorsInOrder.unwritten recorded tracked left unordered unwritten inTime

/-- Before any call has begun, there is nothing to order. -/
theorem OperatorsInOrder.begins (begins : Machine.Begins (· = initially) world) :
    OperatorsInOrder sessionId initially world := by
  have shared : world.shared = initially := begins.shared
  refine ⟨[], [], ?_, ?_⟩
  · rw [shared, begins.history]
    constructor
    case succeeded =>
      rintro id ended ⟨result, later, earlier, split, _⟩
      exact absurd split.symm (List.append_ne_nil_of_right_ne_nil _ (List.cons_ne_nil _ _))
    case adminActions => exact List.Perm.refl _
    case sequence => trivial
    all_goals first | exact .nil | rfl | exact fun _ none => nomatch none
  · constructor
    case auditing => exact fun _ none => nomatch none
    case ordered => exact fun _ none => nomatch none
    case running =>
      rintro id program ⟨statement, next, running, _⟩
      rw [begins.calls] at running
      cases running

theorem operatorsInOrder_of_reachable
    (reached : (sessionOpsRuns sessionId initially).Reachable
        (OpsInOrder sessionId initially) world) :
    OperatorsInOrder sessionId initially world := by
  refine reached.invariant (fun world begins => .begins begins) ?_
  intro before action later invariant admitted accepted
  rcases Machine.step_cases accepted with ⟨id, call, rfl, idle, rfl⟩ |
    ⟨id, choice, statement, next, rfl, running, rfl⟩
  · exact invariant.start idle call
  · exact invariant.perform running ((World.admits_perform running).mp admitted)

/-- Once no call is running, the effects so far are the order. -/
theorem OperatorsInOrder.heeded (invariant : OperatorsInOrder sessionId initially world) :
    OperatorsHeeded sessionId initially world := by
  intro settled
  rcases invariant with ⟨order, pending, recorded, tracked⟩
  have audited : pending = [] := by
    apply List.eq_nil_iff_forall_not_mem.mpr
    intro entry member
    rcases tracked.auditing entry member with ⟨_, _, _, ⟨statement, next, running, _⟩, _⟩
    exact settled entry.1 statement next running
  subst audited
  have returned (effect : OpsEffect) (member : effect ∈ order) :
      ∃ ended, SucceededAt world.history effect.call ended :=
    ((tracked.ordered effect member).resolve_left (List.not_mem_nil)).2
  refine ⟨order, ?_⟩
  constructor
  case points => exact recorded.points
  case calls => exact recorded.calls
  case successful =>
    intro id
    constructor
    · rintro ⟨ended, succeeded⟩
      rcases recorded.succeeded id ended succeeded with ⟨effect, member, rfl, _⟩
      exact List.mem_map_of_mem member
    · intro ordered
      rcases List.mem_map.mp ordered with ⟨effect, member, rfl⟩
      exact returned effect member
  case during =>
    intro effect member
    rcases returned effect member with ⟨ended, succeeded⟩
    rcases recorded.succeeded _ ended succeeded with ⟨other, others, same, before⟩
    have equal : other = effect := List.inj_on_of_nodup_map recorded.calls others member same
    rw [equal] at before
    exact ⟨recorded.began effect member, ended, succeeded, before⟩
  case sequence => exact recorded.sequence
  case ops => exact recorded.ops
  case adminActions => exact recorded.adminActions

end Session

/-- While the statements are in order, operators' actions are heeded. -/
theorem operators_heeded
    (sessionId : String) (initially : SessionOpsDb) (world : SessionOpsWorld)
    (reached :
      (sessionOpsRuns sessionId initially).Reachable
        (OpsInOrder sessionId initially) world) :
    OperatorsHeeded sessionId initially world :=
  (operatorsInOrder_of_reachable reached).heeded

/-! ## A flag that is lost -/

/-- The review flag that an action leaves. -/
theorem underReview_apply (current : Option AdminSessionOps) (action : SessionOpsAction)
    (keeps : action ≠ .clearUnderReview)
    (under : action = .markUnderReview ∨ current.any (·.underReview) = true) :
    (applySessionOpsAction current action).underReview = true := by
  rcases under with rfl | under
  · rfl
  · cases current with
    | none => cases under
    | some row =>
      cases action with
      | clearUnderReview => exact absurd rfl keeps
      | markUnderReview => rfl
      | _ => exact under

/-- Unless it is cleared, a review that was marked is there in the end. -/
theorem Sequence.underReview {sessionId : String} {initially : SessionOpsDb}
    {history : List SessionOpsEvent} {order : List OpsEffect}
    (sequence : Sequence sessionId initially history order)
    (kept : ∀ effect ∈ order, effect.input.action ≠ .clearUnderReview)
    (marked : ∃ effect ∈ order, effect.input.action = .markUnderReview) :
    (opsAfter initially.ops order).any (·.underReview) = true := by
  induction order with
  | nil =>
    rcases marked with ⟨_, member, _⟩
    cases member
  | cons latest earlier induction =>
    rcases sequence with ⟨applies, _, sequence⟩
    show latest.row.toSessionOpsFlags.underReview = true
    rw [applies.flags]
    apply underReview_apply _ _ (kept latest List.mem_cons_self)
    rcases marked with ⟨effect, member, mark⟩
    rcases List.mem_cons.mp member with rfl | member
    · exact Or.inl mark
    · right
      apply induction sequence _ ⟨effect, member, mark⟩
      exact fun other others =>
        kept other (List.mem_cons_of_mem _ others)

namespace Operators

def input (action : SessionOpsAction) : MutateSessionOpsInput where
  action := action
  reason := "incident"
  role := "operator"
  actorLabel := none
  requestId := none
  ip := none
  userAgent := none

/-- A session for which nothing has been set. -/
def untouched : SessionOpsDb := ⟨true, none, [], []⟩

def noCall : SessionOpsWorld := ⟨untouched, fun _ => .idle, []⟩

theorem begins_noCall : Machine.Begins (· = untouched) noCall := ⟨rfl, rfl, rfl⟩

def answered (id : Nat) : Action SessionOpsCall SessionOpsChoice := .perform id (.executed 0 id)

/-- Both read that there is no row, and the pause is written last. -/
def overlapping : List (Action SessionOpsCall SessionOpsChoice) :=
  [.start 0 (.mutate (input .markUnderReview)), .start 1 (.mutate (input .pauseAfterHand)),
    answered 0, answered 0, answered 1, answered 1, answered 0, answered 0, answered 1, answered 1]

/-- The pause begins once the review is marked. -/
def inTurn : List (Action SessionOpsCall SessionOpsChoice) :=
  [.start 0 (.mutate (input .markUnderReview)), answered 0, answered 0, answered 0, answered 0,
    .start 1 (.mutate (input .pauseAfterHand)), answered 1, answered 1, answered 1, answered 1]

/-- The calls that have begun. -/
def startedCalls (history : List SessionOpsEvent) : List (Nat × SessionOpsCall) :=
  history.filterMap fun event =>
    event.casesOn (fun id call => some (id, call)) (fun _ _ _ => none) fun _ _ => none

/-- Whether a call has returned a row. -/
def succeeded (history : List SessionOpsEvent) (id : Nat) : Bool :=
  history.any fun event =>
    event.casesOn (fun _ _ => false) (fun _ _ _ => false) fun other result =>
        other = id && result.casesOn (fun outcome => outcome.isOk) false

def isReturned (world : SessionOpsWorld) (id : Nat) : Bool :=
  (world.calls id).casesOn false (fun _ _ => false) true

variable {world : SessionOpsWorld} {id : Nat}

theorem mem_startedCalls {call : SessionOpsCall} (member : .started id call ∈ world.history) :
    (id, call) ∈ startedCalls world.history := List.mem_filterMap.mpr ⟨_, member, rfl⟩

theorem succeededAt_of_succeeded (returned : succeeded world.history id = true) :
    ∃ ended, SucceededAt world.history id ended := by
  rcases List.any_eq_true.mp returned with ⟨event, member, matched⟩
  rcases List.append_of_mem member with ⟨later, earlier, split⟩
  cases event with
  | started => cases matched
  | executed => cases matched
  | returned other result =>
    cases result with
    | incidentChanged =>
      cases (Bool.and_eq_true_iff.mp matched).2
    | mutated outcome =>
      cases outcome with
      | error => cases (Bool.and_eq_true_iff.mp matched).2
      | ok row =>
        cases of_decide_eq_true (Bool.and_eq_true_iff.mp matched).1
        exact ⟨earlier.length, row, later, earlier, split, rfl⟩

/-- The first two calls have returned, and no other has begun. -/
theorem settled_of_returned
    {allowed : SessionOpsWorld → Action SessionOpsCall SessionOpsChoice → Prop}
    {first second : SessionOpsCall}
    (reached : (sessionOpsRuns "s" untouched).Reachable allowed world)
    (started : startedCalls world.history = [(1, second), (0, first)])
    (returned : isReturned world 0 = true ∧ isReturned world 1 = true) :
    Settled world := by
  intro id statement next running
  have busy : world.calls id ≠ .idle := by
    rw [running]
    exact fun same => nomatch same
  rcases Machine.exists_started reached busy with ⟨call, member⟩
  have listed := mem_startedCalls member
  have unfinished : isReturned world id = false := by
    rw [isReturned, running]
  rw [started] at listed
  rcases List.mem_cons.mp listed with same | listed
  · cases same
    exact absurd returned.2 (Bool.eq_false_iff.mp unfinished)
  · cases List.mem_singleton.mp listed
    exact absurd returned.1 (Bool.eq_false_iff.mp unfinished)

/-- What there is to see of two calls that have returned a row. -/
def bothReturned (first second : SessionOpsAction) (underReview : Bool)
    (world : SessionOpsWorld) : Bool :=
  startedCalls world.history = [(1, .mutate (input second)), (0, .mutate (input first))] ∧
    (isReturned world 0 = true ∧ isReturned world 1 = true) ∧ succeeded world.history 0 = true ∧
        world.shared.ops.any (·.underReview) = underReview

/-- The pause is written from a row that was read before the mark. -/
theorem overlapping_mark_is_lost :
    ¬ ∀ (sessionId : String) (initially : SessionOpsDb)
        (world : SessionOpsWorld),
        (sessionOpsRuns sessionId initially).Reachable AnyCall world →
          OperatorsHeeded sessionId initially world := by
  intro heeded
  have start : (sessionOpsRuns "s" untouched).Reachable AnyCall noCall :=
    .start begins_noCall
  have played :
      ((sessionOpsRuns "s" untouched).replay AnyCall noCall
          overlapping).any
        (bothReturned .markUnderReview .pauseAfterHand false) = true := by
    decide +kernel
  rcases start.exists_replay played with ⟨world, reached, observed⟩
  rcases of_decide_eq_true observed with ⟨started, returned, marked, lost⟩
  rcases heeded "s" untouched world reached
      (settled_of_returned reached started returned) with ⟨order, ordered⟩
  have known (effect : OpsEffect) (member : effect ∈ order) :
      (effect.call, SessionOpsCall.mutate effect.input) ∈
        [(1, .mutate (input .pauseAfterHand)),
          (0, .mutate (input .markUnderReview))] := by
    rcases (ordered.during effect member).1 with
      ⟨_, ⟨later, earlier, split, _⟩, _⟩
    rw [← started]
    apply mem_startedCalls
    rw [split]
    exact List.mem_append_right _ List.mem_cons_self
  have kept : ∀ effect ∈ order, effect.input.action ≠ .clearUnderReview := by
    intro effect member clears
    rcases List.mem_cons.mp (known effect member) with same | listed
    · have input_eq := congrArg Prod.snd same
      cases effect with
      | mk call input point row =>
          cases input_eq
          cases clears
    · have input_eq := congrArg Prod.snd (List.mem_singleton.mp listed)
      cases effect with
      | mk call input point row =>
          cases input_eq
          cases clears
  have present : ∃ effect ∈ order, effect.input.action = .markUnderReview := by
    have member :=
      (ordered.successful 0).mp (succeededAt_of_succeeded marked)
    rcases List.mem_map.mp member with ⟨effect, member, zero⟩
    refine ⟨effect, member, ?_⟩
    cases effect with
    | mk call input point row =>
        cases zero
        rcases List.mem_cons.mp (known _ member) with same | listed
        · cases congrArg Prod.fst same
        · cases congrArg Prod.snd (List.mem_singleton.mp listed)
          rfl
  have under := ordered.sequence.underReview kept present
  rw [← ordered.ops, lost] at under
  cases under

/-- One after the other, the review stays. -/
theorem operators_heeded_inTurn :
    ∃ world : SessionOpsWorld,
      bothReturned .markUnderReview .pauseAfterHand true world = true ∧
        OperatorsHeeded "s" untouched world := by
  have start :
      (sessionOpsRuns "s" untouched).Reachable (OpsInOrder "s" untouched)
        noCall :=
    .start begins_noCall
  have played :
      ((sessionOpsRuns "s" untouched).replay (OpsInOrder "s" untouched) noCall
          inTurn).any
        (bothReturned .markUnderReview .pauseAfterHand true) = true := by
    decide +kernel
  rcases start.exists_replay played with ⟨world, reached, observed⟩
  exact ⟨world, observed, operators_heeded "s" untouched world reached⟩

end Operators

end Mozetto.Database
