import Mozetto.Chain.GameRegistryV2

/-!
# The timelock of game templates

Every call changes the status and the pending operation of one template in one
of seven ways.  From this it follows that pending operations fit the status,
that an active template has been scheduled and has waited, and that sealed
bodies and deactivations are final.
-/

namespace Mozetto.Chain.GameRegistryV2

open Mozetto.Library.Guarded
open Mozetto.Library.Mapping
open Mozetto.Library.TransitionSystem

/-- The status record and the pending operation of one template. -/
def slot (registry : GameRegistryV2) (templateId : Bytes32) : TemplateRecord × TimelockOp :=
  (registry.templates templateId, registry.pending templateId)

/-- The call cancels the pending operation of a template. -/
def Call.Cancels (templateId : Bytes32) : Call → Prop
  | .cancelOperation target => target = templateId
  | _ => False

/-- The ways in which a call changes what belongs to one template. -/
inductive SlotMoves (keccak256 : Bytes → Bytes32) (time minDelay : Nat)
    (templateId : Bytes32) (record : TemplateRecord) (pending : TimelockOp) :
    Call → TemplateRecord × TimelockOp → Prop where
  | register {template : GameTemplateV2} (vacant : record.status = .none)
      (named : template.templateId = templateId) :
      SlotMoves keccak256 time minDelay templateId record pending (.registerTemplate template)
        (⟨template, hashTemplate keccak256 template, .registered, time, 0, 0⟩, pending)
  | scheduleActivation (registered : record.status = .registered) (free : pending.op = .none) :
      SlotMoves keccak256 time minDelay templateId record pending (.scheduleActivation templateId)
        (record, ⟨.activate, time + minDelay⟩)
  | executeActivation (due : pending.op = .activate) (elapsed : pending.eta ≤ time)
      (registered : record.status = .registered) :
      SlotMoves keccak256 time minDelay templateId record pending (.executeActivation templateId)
        ({ record with status := .active, activatedAt := time }, .unset)
  | scheduleDeactivation (active : record.status = .active) (free : pending.op = .none) :
      SlotMoves keccak256 time minDelay templateId record pending (.scheduleDeactivation templateId)
        (record, ⟨.deactivate, time + minDelay⟩)
  | executeDeactivation (due : pending.op = .deactivate) (elapsed : pending.eta ≤ time)
      (active : record.status = .active) :
      SlotMoves keccak256 time minDelay templateId record pending (.executeDeactivation templateId)
        ({ record with status := .deactivated, deactivatedAt := time }, .unset)
  | emergencyDeactivate (known : record.status ≠ .none) (live : record.status ≠ .deactivated) :
      SlotMoves keccak256 time minDelay templateId record pending (.emergencyDeactivate templateId)
        ({ record with status := .deactivated, deactivatedAt := time }, .unset)
  | cancelOperation (some : pending.op ≠ .none) :
      SlotMoves keccak256 time minDelay templateId record pending
        (.cancelOperation templateId) (record, .unset)

variable {keccak256 : Bytes → Bytes32}

/-- What one accepted call does to one template. -/
def SlotStep (keccak256 : Bytes → Bytes32) (time minDelay : Nat) (call : Call)
    (templateId : Bytes32) (before after : GameRegistryV2) : Prop :=
  (after.slot templateId = before.slot templateId ∧ ¬ call.Cancels templateId) ∨
    SlotMoves keccak256 time minDelay templateId
      (before.templates templateId) (before.pending templateId) call (after.slot templateId)

variable {msg : Msg} {before after registry : GameRegistryV2}
variable {templateId : Bytes32} {call : Call}

/-- Writes for one template leave the others alone. -/
theorem slotStep_of_writes {target : Bytes32} {record : TemplateRecord} {pending : TimelockOp}
    (templates : after.templates = write before.templates target record)
    (pendings : after.pending = write before.pending target pending)
    (cancels : templateId ≠ target → ¬ call.Cancels templateId)
    (moves : SlotMoves keccak256 msg.timestamp before.minDelay target
        (before.templates target) (before.pending target) call (record, pending)) :
    SlotStep keccak256 msg.timestamp before.minDelay call templateId before
      after := by
  by_cases same : templateId = target
  · subst same
    right
    rw [slot, templates, pendings, write_self, write_self]
    exact moves
  · left
    rw [slot, templates, pendings, write_of_ne _ _ same, write_of_ne _ _ same]
    exact ⟨rfl, cancels same⟩

/-- Writing an entry back changes nothing. -/
theorem write_current {α : Type} (mapping : Bytes32 → α) (key : Bytes32) :
    write mapping key (mapping key) = mapping := by
  funext other
  by_cases same : other = key
  · rw [same, write_self]
  · exact write_of_ne _ _ same

theorem schedule_ok_iff {required : TemplateStatus} {op : PendingOp} {target : Bytes32}
    (proper : required ≠ .none) :
    schedule required op msg before target = .ok after ↔ msg.sender = before.owner ∧
        (before.templates target).status = required ∧ (before.pending target).op = .none ∧
        msg.timestamp + before.minDelay < uint64Size ∧
        { before with
          pending :=
            write before.pending target ⟨op, msg.timestamp + before.minDelay⟩ } = after := by
  simp only [schedule, bind_eq_ok_iff, mapError_eq_ok_iff,
    onlyOwner_eq_ok_iff, revertIf_eq_ok_iff, exists_const, pure_eq_ok_iff,
    ne_eq, not_not, Nat.not_le]
  constructor
  · rintro ⟨owner, -, status, free, fits, stored⟩
    exact ⟨owner, status, free, fits, stored⟩
  · rintro ⟨owner, status, free, fits, stored⟩
    refine ⟨owner, ?_, status, free, fits, stored⟩
    rw [status]
    exact proper

theorem execute_ok_iff {required : TemplateStatus} {op : PendingOp}
    {finish : Nat → TemplateRecord → TemplateRecord} {target : Bytes32} :
    execute required op finish msg before target = .ok after ↔ (before.pending target).op = op ∧
        (before.pending target).eta ≤ msg.timestamp ∧ (before.templates target).status = required ∧
        { before with
          pending := write before.pending target .unset
          templates :=
            write before.templates target (finish msg.timestamp (before.templates target)) } =
          after := by
  simp only [execute, bind_eq_ok_iff, revertIf_eq_ok_iff, exists_const,
    pure_eq_ok_iff, ne_eq, not_not, Nat.not_lt]

theorem perform_slot (accepted : perform keccak256 msg before call = .ok after) :
    SlotStep keccak256 msg.timestamp before.minDelay call templateId before
      after := by
  cases call with
  | setEmergencyGuardian guardian =>
    simp only [perform, setEmergencyGuardian, bind_eq_ok_iff, pure_eq_ok_iff] at accepted
    rcases accepted with ⟨-, -, rfl⟩
    exact .inl ⟨rfl, id⟩
  | setMinDelay newDelay =>
    simp only [perform, setMinDelay, bind_eq_ok_iff, pure_eq_ok_iff] at accepted
    rcases accepted with ⟨-, -, rfl⟩
    exact .inl ⟨rfl, id⟩
  | ownable ownableCall =>
    simp only [perform, changeOwner, bind_eq_ok_iff, pure_eq_ok_iff] at accepted
    rcases accepted with ⟨-, -, rfl⟩
    exact .inl ⟨rfl, id⟩
  | registerTemplate template =>
    simp only [perform, registerTemplate, bind_eq_ok_iff,
      revertIf_eq_ok_iff, exists_const, pure_eq_ok_iff, ne_eq, not_not] at accepted
    rcases accepted with ⟨-, -, -, vacant, -, -, rfl⟩
    exact slotStep_of_writes rfl (write_current _ _).symm (fun _ => id) (.register vacant rfl)
  | scheduleActivation target =>
    rcases (schedule_ok_iff (by decide)).mp accepted with ⟨-, registered, free, -, rfl⟩
    exact slotStep_of_writes (write_current _ _).symm rfl
      (fun _ => id) (.scheduleActivation registered free)
  | executeActivation target =>
    have run : executeActivation msg before target = .ok after := accepted
    rw [executeActivation, execute_ok_iff] at run
    rcases run with ⟨due, elapsed, registered, rfl⟩
    exact slotStep_of_writes rfl rfl (fun _ => id) (.executeActivation due elapsed registered)
  | scheduleDeactivation target =>
    rcases (schedule_ok_iff (by decide)).mp accepted with ⟨-, active, free, -, rfl⟩
    exact slotStep_of_writes (write_current _ _).symm rfl
      (fun _ => id) (.scheduleDeactivation active free)
  | executeDeactivation target =>
    have run : executeDeactivation msg before target = .ok after := accepted
    rw [executeDeactivation, execute_ok_iff] at run
    rcases run with ⟨due, elapsed, active, rfl⟩
    exact slotStep_of_writes rfl rfl (fun _ => id) (.executeDeactivation due elapsed active)
  | emergencyDeactivate target =>
    simp only [perform, emergencyDeactivate, bind_eq_ok_iff,
      revertIf_eq_ok_iff, exists_const, pure_eq_ok_iff] at accepted
    rcases accepted with ⟨-, known, live, rfl⟩
    exact slotStep_of_writes rfl rfl (fun _ => id) (.emergencyDeactivate known live)
  | cancelOperation target =>
    simp only [perform, cancelOperation, bind_eq_ok_iff,
      revertIf_eq_ok_iff, exists_const, pure_eq_ok_iff] at accepted
    rcases accepted with ⟨-, -, some, rfl⟩
    exact slotStep_of_writes (write_current _ _).symm rfl
      (fun ne same => ne same.symm) (.cancelOperation some)

/-! ## The history of an activation -/

/-- An activation due at `eta` was scheduled and has not been cancelled. -/
def ActivationScheduled (history : List Event) (templateId : Bytes32) (eta : Nat) : Prop :=
  ∃ since scheduled earlier, history = since ++ scheduled :: earlier ∧
      scheduled.call = .scheduleActivation templateId ∧ scheduled.time + scheduled.minDelay = eta ∧
      ∀ event ∈ since, ¬ event.call.Cancels templateId

/-- An activation was executed when it had been scheduled and was due. -/
def ActivationExecuted (history : List Event) (templateId : Bytes32) : Prop :=
  ∃ since executed earlier eta, history = since ++ executed :: earlier ∧
      executed.call = .executeActivation templateId ∧
      ActivationScheduled earlier templateId eta ∧ eta ≤ executed.time

theorem ActivationScheduled.cons {history : List Event} {event : Event} {eta : Nat}
    (scheduled : ActivationScheduled history templateId eta)
    (cancels : ¬ event.call.Cancels templateId) :
    ActivationScheduled (event :: history) templateId eta := by
  rcases scheduled with ⟨since, scheduled, earlier, rfl, named, due, kept⟩
  refine ⟨event :: since, scheduled, earlier, rfl, named, due, ?_⟩
  intro other member
  rcases List.mem_cons.mp member with rfl | member
  · exact cancels
  · exact kept other member

theorem ActivationExecuted.cons {history : List Event} (event : Event)
    (executed : ActivationExecuted history templateId) :
    ActivationExecuted (event :: history) templateId := by
  rcases executed with ⟨since, executed, earlier, eta, rfl, named, rest⟩
  exact ⟨event :: since, executed, earlier, eta, rfl, named, rest⟩

/-- The status, the pending operation and the history fit together. -/
structure Timelocked (keccak256 : Bytes → Bytes32) (templateId : Bytes32)
    (history : List Event) (record : TemplateRecord) (pending : TimelockOp) : Prop where
  activate : pending.op = .activate → record.status = .registered ∧
        ActivationScheduled history templateId pending.eta
  deactivate : pending.op = .deactivate → record.status = .active
  active : record.status = .active → ActivationExecuted history templateId
  sealed : record.status ≠ .none → record.templateHash = hashTemplate keccak256 record.body

theorem unset_timelocked : Timelocked keccak256 templateId [] .unset .unset where
  activate := nofun
  deactivate := nofun
  active := nofun
  sealed := fun known => absurd rfl known

theorem Timelocked.cons {history : List Event} {record : TemplateRecord} {pending : TimelockOp}
    {event : Event} (locked : Timelocked keccak256 templateId history record pending)
    (cancels : ¬ event.call.Cancels templateId) :
    Timelocked keccak256 templateId (event :: history) record pending where
  activate := by
    intro due
    rcases locked.activate due with ⟨registered, scheduled⟩
    exact ⟨registered, scheduled.cons cancels⟩
  deactivate := locked.deactivate
  active := fun active => (locked.active active).cons event
  sealed := locked.sealed

theorem Timelocked.move {history : List Event} {record : TemplateRecord} {pending : TimelockOp}
    {time minDelay : Nat} {result : TemplateRecord × TimelockOp}
    (locked : Timelocked keccak256 templateId history record pending)
    (moves : SlotMoves keccak256 time minDelay templateId record pending call result) :
    Timelocked keccak256 templateId (⟨time, minDelay, call⟩ :: history) result.1 result.2 := by
  cases moves with
  | register vacant named =>
    constructor
    · intro due
      have registered := (locked.activate due).1
      rw [vacant] at registered
      cases registered
    · intro due
      have active := locked.deactivate due
      rw [vacant] at active
      cases active
    · nofun
    · exact fun _ => rfl
  | scheduleActivation registered free =>
    constructor
    · intro _
      exact ⟨registered, [], _, history, rfl, rfl, rfl, nofun⟩
    · nofun
    · intro active
      rw [registered] at active
      cases active
    · exact locked.sealed
  | executeActivation due elapsed registered =>
    constructor
    · nofun
    · nofun
    · intro _
      rcases locked.activate due with ⟨-, scheduled⟩
      exact ⟨[], _, history, pending.eta, rfl, rfl, scheduled, elapsed⟩
    · intro _
      apply locked.sealed
      rw [registered]
      nofun
  | scheduleDeactivation active free =>
    constructor
    · nofun
    · exact fun _ => active
    · exact fun isActive => (locked.active isActive).cons _
    · exact locked.sealed
  | executeDeactivation due elapsed active =>
    constructor
    · nofun
    · nofun
    · nofun
    · intro _
      apply locked.sealed
      rw [active]
      nofun
  | emergencyDeactivate known live =>
    constructor
    · nofun
    · nofun
    · nofun
    · exact fun _ => locked.sealed known
  | cancelOperation some =>
    constructor
    · nofun
    · nofun
    · exact fun isActive => (locked.active isActive).cons _
    · exact locked.sealed

/-- Every template of the state is timelocked. -/
def State.Timelocked (keccak256 : Bytes → Bytes32) (state : State) : Prop :=
  ∀ templateId, GameRegistryV2.Timelocked keccak256 templateId state.history
      (state.registry.templates templateId) (state.registry.pending templateId)

theorem timelocked_of_reachable {state : State}
    (reached : (system keccak256).Reachable AnyCall state) :
    state.Timelocked keccak256 := by
  induction reached with
  | start initial =>
    rcases initial with ⟨owner, guardian, minDelay, -, rfl⟩
    exact fun templateId => unset_timelocked
  | @next before after call _ _ accepted locked =>
    rcases bind_eq_ok_iff.mp accepted with ⟨registry, performed, stored⟩
    cases pure_eq_ok_iff.mp stored
    intro templateId
    have stepped : SlotStep _ _ _ _ templateId _ _ := perform_slot performed
    rcases stepped with ⟨same, kept⟩ | moves
    · have records := congrArg Prod.fst same
      have pendings := congrArg Prod.snd same
      simp only [slot] at records pendings
      simp only [records, pendings]
      exact (locked templateId).cons kept
    · exact (locked templateId).move moves

/-! ## Final records -/

/-- Registered bodies are sealed, and deactivation is for good. -/
structure Seals (before after : TemplateRecord) : Prop where
  body : before.status ≠ .none → after.body = before.body
  templateHash : before.status ≠ .none → after.templateHash = before.templateHash
  registered : before.status ≠ .none → after.status ≠ .none
  deactivated : before.status = .deactivated → after.status = .deactivated

theorem Seals.refl (record : TemplateRecord) : Seals record record :=
  ⟨fun _ => rfl, fun _ => rfl, id, id⟩

theorem Seals.trans {first second third : TemplateRecord}
    (earlier : Seals first second) (later : Seals second third) : Seals first third where
  body := by
    intro known
    rw [later.body (earlier.registered known), earlier.body known]
  templateHash := by
    intro known
    rw [later.templateHash (earlier.registered known), earlier.templateHash known]
  registered := fun known => later.registered (earlier.registered known)
  deactivated := fun done => later.deactivated (earlier.deactivated done)

theorem SlotMoves.seals {record : TemplateRecord} {pending : TimelockOp} {time minDelay : Nat}
    {result : TemplateRecord × TimelockOp}
    (moves : SlotMoves keccak256 time minDelay templateId record pending call result) :
    Seals record result.1 := by
  cases moves with
  | register vacant named =>
    refine ⟨?_, ?_, ?_, ?_⟩
    · exact fun known => absurd vacant known
    · exact fun known => absurd vacant known
    · exact fun known => absurd vacant known
    · intro done
      rw [vacant] at done
      cases done
  | scheduleActivation registered free => exact .refl record
  | executeActivation due elapsed registered =>
    refine ⟨fun _ => rfl, fun _ => rfl, nofun, ?_⟩
    intro done
    rw [registered] at done
    cases done
  | scheduleDeactivation active free => exact .refl record
  | executeDeactivation due elapsed active =>
    exact ⟨fun _ => rfl, fun _ => rfl, nofun, fun _ => rfl⟩
  | emergencyDeactivate known live =>
    exact ⟨fun _ => rfl, fun _ => rfl, nofun, fun _ => rfl⟩
  | cancelOperation some => exact .refl record

theorem seals_of_run {state later : State}
    (continued : ((system keccak256).startingAt state).Reachable AnyCall later) :
    Seals (state.registry.templates templateId) (later.registry.templates templateId) := by
  induction continued with
  | start initial =>
    rw [show _ = state from initial]
    exact .refl _
  | next _ _ accepted sealed =>
    rcases bind_eq_ok_iff.mp accepted with ⟨registry, performed, stored⟩
    cases pure_eq_ok_iff.mp stored
    apply sealed.trans
    have stepped : SlotStep _ _ _ _ templateId _ _ := perform_slot performed
    rcases stepped with ⟨same, -⟩ | moves
    · have records := congrArg Prod.fst same
      simp only [slot] at records
      simp only [records]
      exact .refl _
    · exact moves.seals

/-! ## Executable operations -/

/-- A pending operation whose status is as required is not refused for it. -/
theorem execute_ne_invalidStatus {required : TemplateStatus} {op : PendingOp}
    {finish : Nat → TemplateRecord → TemplateRecord} {target : Bytes32}
    (fits : (before.pending target).op = op → (before.templates target).status = required) :
    execute required op finish msg before target ≠ .error .invalidStatus := by
  intro refused
  by_cases named : (before.pending target).op = op
  · by_cases early : msg.timestamp < (before.pending target).eta
    · simp [execute, revertIf, named, early, bind, Except.bind] at refused
    · simp [execute, revertIf, named, early, fits named, bind,
        Except.bind, pure, Except.pure] at refused
  · simp [execute, revertIf, named, bind, Except.bind] at refused

/--
In every run: an active template was scheduled for activation at some time,
was not cancelled until the activation was executed, and the execution came no
earlier than that time plus the delay then in force.  Bodies and hashes are
sealed by registration and deactivation is final.  Pending operations fit the
status, so executing one never fails for the status.
-/
theorem templates_timelocked
    {state : State}
    (reached : (system keccak256).Reachable AnyCall state) :
    (∀ templateId,
        (state.registry.templates templateId).status = .active →
          ∃ since executed waiting scheduled earlier,
            state.history =
                since ++ executed :: (waiting ++ scheduled :: earlier) ∧
              executed.call = .executeActivation templateId ∧
              scheduled.call = .scheduleActivation templateId ∧
              (∀ event ∈ waiting, ¬ event.call.Cancels templateId) ∧
              scheduled.time + scheduled.minDelay ≤ executed.time) ∧
      (∀ templateId later,
        ((system keccak256).startingAt state).Reachable AnyCall later →
          Seals (state.registry.templates templateId)
            (later.registry.templates templateId)) ∧
      (∀ templateId,
        ((state.registry.pending templateId).op = .activate →
            (state.registry.templates templateId).status =
              .registered) ∧
          ((state.registry.pending templateId).op = .deactivate →
            (state.registry.templates templateId).status = .active)) ∧
      ∀ msg templateId,
        executeActivation msg state.registry templateId ≠
            .error .invalidStatus ∧
          executeDeactivation msg state.registry templateId ≠
            .error .invalidStatus := by
  have locked := timelocked_of_reachable reached
  refine ⟨?_, ?_, ?_, ?_⟩
  · intro templateId active
    rcases (locked templateId).active active with
      ⟨since, executed, before, eta, split, execution, scheduling, due⟩
    rcases scheduling with
      ⟨waiting, scheduled, earlier, rfl, named, rfl, kept⟩
    exact ⟨since, executed, waiting, scheduled, earlier, split, execution,
      named, kept, due⟩
  · exact fun templateId later continued => seals_of_run continued
  · exact fun templateId =>
      ⟨fun due => ((locked templateId).activate due).1,
        (locked templateId).deactivate⟩
  · intro msg templateId
    constructor
    · exact execute_ne_invalidStatus
        fun due => ((locked templateId).activate due).1
    · exact execute_ne_invalidStatus (locked templateId).deactivate

/-- A template for tables of two to six seats. -/
def exampleTemplate : GameTemplateV2 :=
  ⟨4, 3, 5, 6, 2, 10, 20, 800, 2000, 7, 8, 0, 0, 0, 0, 0, 30000, 60, true, true, 1⟩

/-- A template is registered, scheduled and activated after the delay. -/
theorem templates_timelocked_activated :
    ∃ state,
      (system digits).Reachable AnyCall state ∧
        (state.registry.templates 4).status = .active ∧
        ∃ scheduled ∈ state.history, ∃ executed ∈ state.history,
          scheduled.call = .scheduleActivation 4 ∧
            executed.call = .executeActivation 4 ∧
            scheduled.time + scheduled.minDelay ≤ executed.time := by
  have played :
      ((system digits).replay AnyCall ⟨constructed 1 2 100, []⟩
        [(.plain 1 1 (by decide) (by decide),
            .registerTemplate exampleTemplate),
          (.plain 1 2 (by decide) (by decide), .scheduleActivation 4),
          (.plain 1 3 (by decide) (by decide), .setMinDelay 0),
          (.plain 9 102 (by decide) (by decide),
            .executeActivation 4)]).any
        (fun state =>
          decide ((state.registry.templates 4).status = .active)) = true := by
    decide +kernel
  have start :
      (system digits).Reachable AnyCall ⟨constructed 1 2 100, []⟩ :=
    .start ⟨1, 2, 100, by decide, rfl⟩
  rcases System.Reachable.exists_replay start played with
    ⟨state, reached, observed⟩
  have active := of_decide_eq_true observed
  rcases (templates_timelocked reached).1 4 active with
    ⟨since, executed, waiting, scheduled, earlier, split, execution, named,
      -, due⟩
  refine ⟨state, reached, active, scheduled, ?_, executed, ?_, named,
    execution, due⟩ <;> simp [split]

end Mozetto.Chain.GameRegistryV2
