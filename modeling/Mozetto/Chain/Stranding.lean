import Mozetto.Chain.Settleable

/-!
# Lifecycle records and locked funds

With the vault and the lifecycle contract wired to each other, a terminal
record refuses every later hook of the vault, so that neither a settlement
nor an exit of its session can succeed again.  Locks are stranded as soon as
a call moves the record of a session that still has some to a terminal state.
-/

namespace Mozetto.Chain

open Mozetto.Library.Guarded
open Mozetto.Library.Mapping
open Mozetto.Library.CustodyLedger
open Mozetto.Library.TransitionSystem

/-! ## Runs of the wired contracts -/

/--
The calls of a wired deployment of sealed sessions: the wiring stays as it
is, V2 sessions are not opened, and the hooks are left to the vault.
-/
def inScope : Operation → Bool
  | .vault (.openSession _ _ _) => false
  | .vault (.admin (.setSessionLifecycle _)) => false
  | .lifecycle (.setVault _) => false
  | .lifecycle (.recordSealed _ _) => false
  | .lifecycle (.recordSettled _) => false
  | .lifecycle (.recordEmergencyExit _) => false
  | _ => true

/-- The contracts, deployed with the vault and the lifecycle wired. -/
def wiredProtocol (deployment : Deployment) : System World (ExternalCall deployment) Revert where
  initial := fun world =>
    world.Initial ∧ world.vault.sessionLifecycle = deployment.lifecycle ∧
      world.lifecycle.vault = deployment.vault
  step := (World.protocol deployment).step

/-- How a call may close a session's record. -/
inductive Closing where
  | leavesOpen
  | terminates (sessionId : Bytes32)
  | exits (sessionId : Bytes32) (player : Address) (amount : Nat)
deriving DecidableEq

/-- Terminal relayer calls and emergency exits; settlements clear the locks. -/
def closing : Operation → Closing
  | .lifecycle (.markSettled sessionId) => .terminates sessionId
  | .lifecycle (.abort sessionId) => .terminates sessionId
  | .lifecycle (.markEmergencyExit sessionId) => .terminates sessionId
  | .vault (.emergencyExit sessionId player tableBalance _ _) =>
      .exits sessionId player tableBalance
  | .vault (.emergencyExitWithBalanceLeaf sessionId claim _ _) =>
      .exits sessionId claim.arenaAccount claim.currentBalance
  | .hub (.emergencyRelease sessionId player tableBalance _ _) =>
      .exits sessionId player tableBalance
  | .hub (.emergencyReleaseWithBalanceLeaf sessionId claim _ _) =>
      .exits sessionId claim.arenaAccount claim.currentBalance
  | _ => .leavesOpen

/--
A relayer call that closes a record finds no locks, and an exit takes the
last ones.
-/
def LeavesNothing (world : World) : Closing → Prop
  | .leavesOpen => True
  | .terminates sessionId =>
      ∀ account, world.vault.lockedBySession sessionId account = 0
  | .exits sessionId player amount =>
      world.vault.lockedBySession sessionId player = amount ∧ ∀ account, account ≠ player →
          world.vault.lockedBySession sessionId account = 0

/-- A settlement or an exit of the session. -/
def Releases (sessionId : Bytes32) : VaultCall → Prop
  | .settleSession other _ _ => other = sessionId
  | .emergencyExit other _ _ _ _ => other = sessionId
  | .emergencyExitWithBalanceLeaf other _ _ _ => other = sessionId
  | _ => False

/-- After some continuation of the run a release of the session succeeds. -/
def CanRelease (deployment : Deployment) (world : World) (sessionId : Bytes32) : Prop :=
  ∃ later, ((wiredProtocol deployment).startingAt world).Reachable
        (fun _ call => inScope call.operation = true) later ∧
      ∃ (msg : Msg) (call : VaultCall) (after : World), Releases sessionId call ∧
          later.stepVault deployment msg call = .ok after

/-- Whatever a terminal session still has locked can be released. -/
def NothingStranded (deployment : Deployment) (world : World) : Prop :=
  ∀ sessionId, (world.lifecycle.sessions sessionId).state.isTerminal = true →
      (∃ account, world.vault.lockedBySession sessionId account ≠ 0) →
        CanRelease deployment world sessionId

/-! ## What calls do to the records and the locks -/

/-- One live record moves to `target`. -/
structure RecordMoved (before after : World) (sessionId : Bytes32)
    (target : LifecycleState) : Prop where
  live : (before.lifecycle.sessions sessionId).state.isTerminal = false
  states : ∀ other, (after.lifecycle.sessions other).state = if other = sessionId then target
        else (before.lifecycle.sessions other).state

/-- The locks of all other sessions stay. -/
def LocksElsewhere (before after : World) (sessionId : Bytes32) : Prop :=
  ∀ other account, other ≠ sessionId → after.vault.lockedBySession other account =
      before.vault.lockedBySession other account

/-- What an accepted call in scope does. -/
inductive RecordEffect (before after : World) : Closing → Prop where
  | still
      (states : ∀ sessionId, (after.lifecycle.sessions sessionId).state =
            (before.lifecycle.sessions sessionId).state)
      (locks : after.vault.lockedBySession = before.vault.lockedBySession) :
      RecordEffect before after .leavesOpen
  | advanced {sessionId : Bytes32} {target : LifecycleState}
      (moved : RecordMoved before after sessionId target) (live : target.isTerminal = false)
      (elsewhere : LocksElsewhere before after sessionId) : RecordEffect before after .leavesOpen
  | settled {sessionId : Bytes32} (moved : RecordMoved before after sessionId .settled)
      (cleared : ∀ account, after.vault.lockedBySession sessionId account = 0)
      (elsewhere : LocksElsewhere before after sessionId) :
      RecordEffect before after .leavesOpen
  | terminated {sessionId : Bytes32} {target : LifecycleState}
      (moved : RecordMoved before after sessionId target) (terminal : target.isTerminal = true)
      (locks : after.vault.lockedBySession = before.vault.lockedBySession) :
      RecordEffect before after (.terminates sessionId)
  | exited {sessionId : Bytes32} {player : Address} {amount : Nat}
      (moved : RecordMoved before after sessionId .emergencyExit)
      (within : amount ≤ before.vault.lockedBySession sessionId player)
      (locks : after.vault.lockedBySession = write₂ before.vault.lockedBySession sessionId player
            (before.vault.lockedBySession sessionId player - amount)) :
      RecordEffect before after (.exits sessionId player amount)

/-- No session with a terminal record has anything locked. -/
def Cleared (world : World) : Prop :=
  ∀ sessionId, (world.lifecycle.sessions sessionId).state.isTerminal = true →
      ∀ account, world.vault.lockedBySession sessionId account = 0

section Effects

variable {before after : World} {kind : Closing}

/-- A moved record leaves the other sessions as clear as they were. -/
theorem Cleared.of_moved {sessionId : Bytes32} {target : LifecycleState} (cleared : Cleared before)
    (moved : RecordMoved before after sessionId target)
    (elsewhere : LocksElsewhere before after sessionId)
    (own : target.isTerminal = true →
        ∀ account, after.vault.lockedBySession sessionId account = 0) :
    Cleared after := by
  intro other terminal account
  by_cases same : other = sessionId
  · subst same
    rw [moved.states other, if_pos rfl] at terminal
    exact own terminal account
  · rw [moved.states other, if_neg same] at terminal
    rw [elsewhere other account same]
    exact cleared other terminal account

/-- Calls keep terminal sessions clear exactly when they leave nothing. -/
theorem RecordEffect.cleared_iff
    (effect : RecordEffect before after kind) (cleared : Cleared before) :
    Cleared after ↔ LeavesNothing before kind := by
  cases effect with
  | still states locks =>
    simp only [LeavesNothing, iff_true]
    intro sessionId terminal account
    rw [states] at terminal
    rw [locks]
    exact cleared sessionId terminal account
  | advanced moved live elsewhere =>
    simp only [LeavesNothing, iff_true]
    apply cleared.of_moved moved elsewhere
    intro terminal
    rw [live] at terminal
    cases terminal
  | settled moved own elsewhere =>
    simp only [LeavesNothing, iff_true]
    exact cleared.of_moved moved elsewhere fun _ => own
  | @terminated sessionId target moved terminal locks =>
    constructor
    · intro clear account
      have ended : (after.lifecycle.sessions sessionId).state.isTerminal = true := by
        rw [moved.states sessionId, if_pos rfl]
        exact terminal
      rw [← locks]
      exact clear sessionId ended account
    · intro nothing
      apply cleared.of_moved moved
      · intro other account _
        rw [locks]
      · intro _ account
        rw [locks]
        exact nothing account
  | @exited sessionId player amount moved within locks =>
    constructor
    · intro clear
      have ended : (after.lifecycle.sessions sessionId).state.isTerminal = true := by
        rw [moved.states sessionId, if_pos rfl]
        rfl
      constructor
      · have rest := clear sessionId ended player
        rw [locks, write₂_self] at rest
        omega
      · intro account different
        have rest := clear sessionId ended account
        rw [locks] at rest
        simpa [write₂, different] using rest
    · rintro ⟨whole, others⟩
      apply cleared.of_moved moved
      · intro other account different
        rw [locks]
        simp [write₂, different]
      · intro _ account
        rw [locks]
        by_cases same : account = player
        · subst same
          simp [write₂, whole]
        · simpa [write₂, same] using others account same

/-- A terminal record stays terminal. -/
theorem RecordEffect.terminal (effect : RecordEffect before after kind) {sessionId : Bytes32}
    (terminal : (before.lifecycle.sessions sessionId).state.isTerminal = true) :
    (after.lifecycle.sessions sessionId).state.isTerminal = true := by
  have keep : ∀ {moving : Bytes32} {target : LifecycleState},
      RecordMoved before after moving target →
        (after.lifecycle.sessions sessionId).state.isTerminal = true := by
    intro moving target moved
    have different : sessionId ≠ moving := by
      rintro rfl
      rw [moved.live] at terminal
      cases terminal
    rw [moved.states, if_neg different]
    exact terminal
  cases effect with
  | still states locks =>
    rw [states]
    exact terminal
  | advanced moved live elsewhere => exact keep moved
  | settled moved own elsewhere => exact keep moved
  | terminated moved ended locks => exact keep moved
  | exited moved within locks => exact keep moved

/-- The effect depends on the records and the locks of the world before. -/
theorem RecordEffect.of_same {middle : World} (effect : RecordEffect middle after kind)
    (lifecycle : middle.lifecycle = before.lifecycle)
    (locks : middle.vault.lockedBySession = before.vault.lockedBySession) :
    RecordEffect before after kind := by
  have movedFrom : ∀ {sessionId : Bytes32} {target : LifecycleState},
      RecordMoved middle after sessionId target →
        RecordMoved before after sessionId target := by
    rintro sessionId target ⟨live, states⟩
    rw [lifecycle] at live
    simp only [lifecycle] at states
    exact ⟨live, states⟩
  have elsewhereFrom : ∀ {sessionId : Bytes32}, LocksElsewhere middle after sessionId →
        LocksElsewhere before after sessionId := by
    intro sessionId elsewhere other account different
    rw [elsewhere other account different, locks]
  cases effect with
  | still states same =>
    rw [lifecycle] at states
    exact .still states (same.trans locks)
  | advanced moved live elsewhere =>
    exact .advanced (movedFrom moved) live (elsewhereFrom elsewhere)
  | settled moved own elsewhere =>
    exact .settled (movedFrom moved) own (elsewhereFrom elsewhere)
  | terminated moved ended same =>
    exact .terminated (movedFrom moved) ended (same.trans locks)
  | exited moved within lowered =>
    rw [locks] at within lowered
    exact .exited (movedFrom moved) within lowered

end Effects

/-! ## The wiring is kept -/

/-- The two contracts point at each other and all open sessions are sealed. -/
structure Wired (deployment : Deployment) (world : World) : Prop where
  configured : world.vault.sessionLifecycle = deployment.lifecycle
  caller : world.lifecycle.vault = deployment.vault
  sealedV3 : ∀ sessionId, (world.vault.sessions sessionId).openedAt ≠ 0 →
      world.vault.sessionSealedV3 sessionId = true

namespace Wired

variable {deployment : Deployment} {before after world : World}
variable {sessionId : Bytes32}

theorem of_vault (wired : Wired deployment before)
    (caller : after.lifecycle.vault = before.lifecycle.vault)
    (configured : after.vault.sessionLifecycle = before.vault.sessionLifecycle)
    (sealedV3 : after.vault.sessionSealedV3 = before.vault.sessionSealedV3)
    (opened : ∀ sessionId, (after.vault.sessions sessionId).openedAt ≠ 0 →
        (before.vault.sessions sessionId).openedAt ≠ 0) :
    Wired deployment after where
  configured := configured.trans wired.configured
  caller := caller.trans wired.caller
  sealedV3 := by
    intro other started
    rw [sealedV3]
    exact wired.sealedV3 other (opened other started)

/-- In a wired world the hook of an open session checks its record. -/
theorem hookAccepts_iff (wired : Wired deployment world)
    (opened : (world.vault.sessions sessionId).openedAt ≠ 0) :
    ArenaVaultV2.hookAccepts deployment world sessionId ↔
      (world.lifecycle.sessions sessionId).state.acceptsVaultHook = true := by
  have sealedV3 := wired.sealedV3 sessionId opened
  have configured : world.vault.sessionLifecycle ≠ 0 := by
    rw [wired.configured]
    exact deployment.lifecycle_ne_zero
  unfold ArenaVaultV2.hookAccepts
  constructor
  · rintro (unset | unsealed | ⟨-, -, accepts⟩)
    · exact absurd unset configured
    · rw [sealedV3] at unsealed
      cases unsealed
    · exact accepts
  · intro accepts
    exact Or.inr (Or.inr ⟨wired.configured, Or.inl wired.caller.symm, accepts⟩)

/-- The hook then moves exactly the record of the session. -/
theorem hooked_lifecycle (wired : Wired deployment world)
    (opened : (world.vault.sessions sessionId).openedAt ≠ 0) (msg : Msg) (target : LifecycleState) :
    (ArenaVaultV2.hooked msg world sessionId target).lifecycle =
      world.lifecycle.moveTo msg sessionId target := by
  have configured : world.vault.sessionLifecycle ≠ 0 := by
    rw [wired.configured]
    exact deployment.lifecycle_ne_zero
  unfold ArenaVaultV2.hooked
  rw [if_neg configured, if_neg]
  rw [wired.sealedV3 sessionId opened]
  decide

end Wired

/-- A state the hooks accept is live. -/
theorem LifecycleState.live_of_acceptsVaultHook
    {state : LifecycleState} (accepts : state.acceptsVaultHook = true) :
    state.isTerminal = false := by
  cases state <;> simp_all [LifecycleState.isTerminal, LifecycleState.acceptsVaultHook]

/-- What a call in scope does, together with the wiring it keeps. -/
structure InScopeEffect (deployment : Deployment) (before after : World) (kind : Closing) :
    Prop where
  effect : RecordEffect before after kind
  wired : Wired deployment after

namespace InScopeEffect

variable {deployment : Deployment} {msg : Msg} {world after : World}
variable {sessionId : Bytes32}

/-- Calls elsewhere leave records, locks and wiring alone. -/
theorem of_frame (wired : Wired deployment world) (vault : after.vault = world.vault)
    (lifecycle : after.lifecycle = world.lifecycle) :
    InScopeEffect deployment world after .leavesOpen := by
  constructor
  · apply RecordEffect.still
    · intro sessionId
      rw [lifecycle]
    · rw [vault]
  · apply wired.of_vault
    · rw [lifecycle]
    · rw [vault]
    · rw [vault]
    · intro sessionId started
      rw [vault] at started
      exact started

/-- An exit in a wired world. -/
theorem of_exit {player : Address} {tableBalance : Nat} (wired : Wired deployment world)
    (ready : ArenaVaultV2.ExitReady msg world sessionId player)
    (paid : ArenaVaultV2.payoutEmergencyExit deployment msg world sessionId player
        tableBalance = .ok after) :
    InScopeEffect deployment world after (.exits sessionId player tableBalance) := by
  obtain ⟨releasable, accepts, tokens, -, rfl⟩ := ArenaVaultV2.payoutEmergencyExit_eq_ok_iff.mp paid
  have accepted := (wired.hookAccepts_iff ready.opened).mp accepts
  let released : World :=
    { ArenaVaultV2.releasedWorld (ArenaVaultV2.markClaimed world sessionId player) sessionId player
        tableBalance with
      tokens := tokens }
  have wiredReleased : Wired deployment released :=
    wired.of_vault rfl rfl rfl fun _ started => started
  have lifecycle : (ArenaVaultV2.hooked msg released sessionId .emergencyExit).lifecycle =
      world.lifecycle.moveTo msg sessionId .emergencyExit :=
    wiredReleased.hooked_lifecycle ready.opened msg .emergencyExit
  constructor
  · apply RecordEffect.exited
    · constructor
      · exact LifecycleState.live_of_acceptsVaultHook accepted
      · intro other
        show ((ArenaVaultV2.hooked msg released sessionId
          .emergencyExit).lifecycle.sessions other).state = _
        rw [lifecycle]
        exact SessionLifecycleV2.moveTo_sessions_state msg world.lifecycle
            sessionId .emergencyExit other
    · exact releasable.locked
    · rw [ArenaVaultV2.hooked_frame]
      rfl
  · rw [ArenaVaultV2.hooked_frame]
    apply wiredReleased.of_vault
    · rw [lifecycle]
      rfl
    · rfl
    · rfl
    · intro _ started
      exact started

/-- A settlement in a wired world. -/
theorem of_settle {players : List SettlementPlayer} {rake : Nat} (wired : Wired deployment world)
    (consistent : world.Consistent deployment)
    (settled : ArenaVaultV2.settleSession deployment msg world sessionId players rake = .ok after) :
    InScopeEffect deployment world after .leavesOpen := by
  have cleared := locked_after_settle consistent settled
  obtain ⟨-, opened, -, payload, released, releases, closed, close,
    notified⟩ := ArenaVaultV2.settleSession_eq_ok_iff.mp settled
  obtain ⟨accepts, rfl⟩ := ArenaVaultV2.notifyLifecycleSettled_eq_ok_iff.mp notified
  obtain ⟨-, rfl⟩ := ArenaVaultV2.closeSession_eq_ok_iff.mp close
  have payees := World.payees_of_payload consistent.registered payload
  have rows := ArenaVaultV2.releaseRows_eq_ok payees releases
  have sessions : released.vault.sessions = world.vault.sessions :=
    congrArg (fun state => state.vault.sessions) rows.frame
  have lifecycle : released.lifecycle = world.lifecycle :=
    congrArg (fun state => state.lifecycle) rows.frame
  have wiredReleased : Wired deployment released := by
    apply wired.of_vault
    · rw [lifecycle]
    · have same := congrArg (fun state => state.vault.sessionLifecycle) rows.frame
      exact same
    · have same := congrArg (fun state => state.vault.sessionSealedV3) rows.frame
      exact same
    · intro other started
      rw [sessions] at started
      exact started
  let done : World :=
    { released with
      vault := { released.vault with
        accruedProtocolFees := released.vault.accruedProtocolFees + rake
        sessions :=
          write released.vault.sessions sessionId
            { released.vault.sessions sessionId with settled := true } } }
  have reopened : ∀ other, (done.vault.sessions other).openedAt =
      (world.vault.sessions other).openedAt := by
    intro other
    by_cases same : other = sessionId
    · subst same
      simp [done, sessions]
    · simp [done, sessions, write, same]
  have wiredDone : Wired deployment done := by
    apply wiredReleased.of_vault
    · rfl
    · rfl
    · rfl
    · intro other started
      rw [reopened] at started
      rwa [sessions]
  have openedDone : (done.vault.sessions sessionId).openedAt ≠ 0 := by
    rw [reopened]
    exact opened
  have accepted := (wiredDone.hookAccepts_iff openedDone).mp accepts
  have moved : (ArenaVaultV2.hooked msg done sessionId .settled).lifecycle =
      world.lifecycle.moveTo msg sessionId .settled := by
    rw [wiredDone.hooked_lifecycle openedDone msg .settled]
    show released.lifecycle.moveTo msg sessionId .settled = _
    rw [lifecycle]
  constructor
  · refine RecordEffect.settled ?_ cleared ?_
    · constructor
      · rw [← lifecycle]
        exact LifecycleState.live_of_acceptsVaultHook accepted
      · intro other
        show ((ArenaVaultV2.hooked msg done sessionId .settled).lifecycle.sessions other).state = _
        rw [moved]
        exact SessionLifecycleV2.moveTo_sessions_state msg world.lifecycle sessionId .settled other
    · intro other account different
      rw [ArenaVaultV2.hooked_frame]
      exact rows.elsewhere other account fun both => different both.1
  · rw [ArenaVaultV2.hooked_frame]
    apply wiredDone.of_vault
    · rw [moved, ← lifecycle]
      rfl
    · rfl
    · rfl
    · intro _ started
      exact started

/-- Sealing and funding a session in a wired world. -/
theorem of_fund {descriptor : SessionDescriptor} {tickets : List SeatTicketV3}
    {signatures : List Bytes} (wired : Wired deployment world)
    (sealedWith : ArenaVaultV2.sealAndFundSession deployment msg world descriptor tickets
        signatures = .ok after) :
    InScopeEffect deployment world after .leavesOpen := by
  obtain ⟨opened, funded, openedAs, locks, notified⟩ :=
    ArenaVaultV2.sealAndFundSession_eq_ok sealedWith
  have wiredOpened : Wired deployment opened := by
    constructor
    · rw [openedAs.frame]
      exact wired.configured
    · rw [openedAs.frame]
      exact wired.caller
    · intro other started
      rw [openedAs.sealed, if_pos rfl]
      by_cases same : other = descriptor.sessionId
      · simp [write, same]
      · rw [write_of_ne _ _ same]
        apply wired.sealedV3 other
        have flags := congrArg (fun ledger => ledger.opened other) openedAs.effect.ledger
        simp only [ArenaVaultV2.ledger, Ledger.openSession, write_of_ne _ _ same] at flags
        simpa [started] using flags
  have untouched : opened.lifecycle = world.lifecycle :=
    congrArg (fun state => state.lifecycle) openedAs.frame
  obtain ⟨wiredFunded, sameLifecycle, elsewhere⟩ :
      Wired deployment funded ∧ funded.lifecycle = opened.lifecycle ∧
        LocksElsewhere opened funded descriptor.sessionId := by
    refine foldlM_preserves (motive := fun state =>
          Wired deployment state ∧ state.lifecycle = opened.lifecycle ∧
            LocksElsewhere opened state descriptor.sessionId)
        ?_ ⟨wiredOpened, rfl, fun _ _ _ => rfl⟩ locks
    rintro state entry result - ⟨wiredState, lifecycle, elsewhere⟩ locked
    obtain ⟨effect, -⟩ := ArenaVaultV2.lockFromTicketV3_eq_ok locked
    have frame := effect.frame
    refine ⟨?_, ?_, ?_⟩
    · rw [frame]
      exact wiredState.of_vault rfl rfl rfl fun _ started => started
    · rw [frame]
      exact lifecycle
    · intro other account different
      rw [← elsewhere other account different]
      have raised := congrArg Ledger.locked effect.ledger
      have entry := congrFun (congrFun raised other) account
      simpa [ArenaVaultV2.ledger, Ledger.join, Ledger.raise, write₂, different] using entry
  have configured : funded.vault.sessionLifecycle ≠ 0 := by
    rw [wiredFunded.configured]
    exact deployment.lifecycle_ne_zero
  rw [ArenaVaultV2.notifyLifecycleSealed, if_neg configured,
    ArenaVaultV2.callLifecycle_eq_ok_iff] at notified
  obtain ⟨-, lifecycle, called, rfl⟩ := notified
  simp only [SessionLifecycleV2.recordSealed, bind_eq_ok_iff,
    revertIf_eq_ok_iff, pure_eq_ok_iff, exists_const, not_and, ne_eq, not_not] at called
  obtain ⟨-, -, -, -, source, -, -, -, rfl⟩ := called
  have before : (world.lifecycle.sessions descriptor.sessionId).state.isTerminal =
      false := by
    rw [← untouched, ← sameLifecycle]
    by_cases unset : (funded.lifecycle.sessions descriptor.sessionId).state = .none
    · rw [unset]
      rfl
    · rw [source unset]
      rfl
  constructor
  · refine RecordEffect.advanced (?_ : RecordMoved world _ descriptor.sessionId .sealed) rfl ?_
    · constructor
      · exact before
      · intro other
        rw [← untouched, ← sameLifecycle]
        by_cases same : other = descriptor.sessionId
        · simp [SessionLifecycleV2.put, same]
        · simp [SessionLifecycleV2.put, write, same]
    · intro other account different
      have opening :=
        congrArg (fun ledger => ledger.locked other account) openedAs.effect.ledger
      exact (elsewhere other account different).trans opening
  · exact wiredFunded.of_vault rfl rfl rfl fun _ started => started

/-- A record that stays live is put in place of a live one. -/
theorem of_put {record : SessionRecord} (wired : Wired deployment world)
    (live : (world.lifecycle.sessions sessionId).state.isTerminal = false)
    (stays : record.state.isTerminal = false) :
    InScopeEffect deployment world { world with lifecycle := world.lifecycle.put sessionId record }
      .leavesOpen := by
  constructor
  · refine RecordEffect.advanced ⟨live, ?_⟩ stays fun _ _ _ => rfl
    intro other
    by_cases same : other = sessionId
    · simp [SessionLifecycleV2.put, same]
    · simp [SessionLifecycleV2.put, write, same]
  · exact wired.of_vault rfl rfl rfl fun _ started => started

/-- Administration of the lifecycle contract keeps all records. -/
theorem of_records {lifecycle : SessionLifecycleV2} (wired : Wired deployment world)
    (sessions : lifecycle.sessions = world.lifecycle.sessions)
    (vault : lifecycle.vault = world.lifecycle.vault) :
    InScopeEffect deployment world { world with lifecycle := lifecycle } .leavesOpen := by
  constructor
  · refine RecordEffect.still ?_ rfl
    intro sessionId
    show (lifecycle.sessions sessionId).state = _
    rw [sessions]
  · exact wired.of_vault vault rfl rfl fun _ started => started

theorem requireState_eq_ok_iff {lifecycle : SessionLifecycleV2} {expected : LifecycleState}
    {done : Unit} : SessionLifecycleV2.requireState lifecycle sessionId expected = .ok done ↔
    (lifecycle.sessions sessionId).state ≠ .none ∧
      (lifecycle.sessions sessionId).state = expected := by
  simp only [SessionLifecycleV2.requireState, bind_eq_ok_iff,
    revertIf_eq_ok_iff, exists_const, ne_eq, not_not]

/-- A relayer step between two states that are not terminal. -/
theorem of_advance {lifecycle : SessionLifecycleV2} {source target : LifecycleState}
    (wired : Wired deployment world) (live : source.isTerminal = false)
    (stays : target.isTerminal = false)
    (ok : SessionLifecycleV2.advance source target msg world.lifecycle sessionId = .ok lifecycle) :
    InScopeEffect deployment world { world with lifecycle := lifecycle } .leavesOpen := by
  simp only [SessionLifecycleV2.advance, bind_eq_ok_iff, pure_eq_ok_iff,
    exists_const, requireState_eq_ok_iff] at ok
  obtain ⟨-, -, ⟨-, stateBefore⟩, rfl⟩ := ok
  apply of_put wired
  · rw [stateBefore]
    exact live
  · exact stays

/-- A relayer step from a live state to a terminal one. -/
theorem of_ending {target : LifecycleState} (wired : Wired deployment world)
    (live : (world.lifecycle.sessions sessionId).state.isTerminal = false)
    (terminal : target.isTerminal = true) :
    InScopeEffect deployment world
      { world with lifecycle := world.lifecycle.moveTo msg sessionId target }
      (.terminates sessionId) := by
  constructor
  · refine RecordEffect.terminated ⟨live, ?_⟩ terminal rfl
    intro other
    exact SessionLifecycleV2.moveTo_sessions_state msg world.lifecycle sessionId target other
  · exact wired.of_vault rfl rfl rfl fun _ started => started

theorem of_terminate {lifecycle : SessionLifecycleV2} {sources : List LifecycleState}
    {target : LifecycleState} (wired : Wired deployment world)
    (live : ∀ state ∈ sources, state.isTerminal = false) (terminal : target.isTerminal = true)
    (ok : SessionLifecycleV2.terminate sources target msg world.lifecycle
        sessionId = .ok lifecycle) :
    InScopeEffect deployment world { world with lifecycle := lifecycle }
      (.terminates sessionId) := by
  simp only [SessionLifecycleV2.terminate, bind_eq_ok_iff,
    revertIf_eq_ok_iff, pure_eq_ok_iff, exists_const, not_not] at ok
  obtain ⟨-, -, -, source, rfl⟩ := ok
  exact of_ending wired (live _ source) terminal

/-! ## Classification of the calls in scope -/

theorem of_stepAccount {target : Address} {call : AccountCall} (wired : Wired deployment world)
    (ok : world.stepAccount deployment msg target call = .ok after) :
    InScopeEffect deployment world after .leavesOpen := by
  cases call <;>
    simp only [World.stepAccount, bind_eq_ok_iff, pure_eq_ok_iff] at ok <;>
    obtain ⟨result, -, rfl⟩ := ok <;>
    exact of_frame wired rfl rfl

theorem of_lifecycle {lifecycle : SessionLifecycleV2} {call : LifecycleCall}
    (wired : Wired deployment world) (scope : inScope (.lifecycle call) = true)
    (ok : World.callLifecycle msg world.lifecycle call = .ok lifecycle) :
    InScopeEffect deployment world { world with lifecycle := lifecycle }
      (closing (.lifecycle call)) := by
  cases call with
  | createDraft sessionId gameTemplateId =>
    simp only [World.callLifecycle, SessionLifecycleV2.createDraft,
      bind_eq_ok_iff, revertIf_eq_ok_iff, pure_eq_ok_iff, exists_const, ne_eq, not_not] at ok
    obtain ⟨-, -, -, unset, -, -, rfl⟩ := ok
    apply of_put wired
    · rw [unset]
      rfl
    · rfl
  | setDraftCommitments sessionId participantRoot openingBalanceRoot controllerRoot profileRoot =>
    simp only [World.callLifecycle, SessionLifecycleV2.setDraftCommitments, bind_eq_ok_iff,
      revertIf_eq_ok_iff, pure_eq_ok_iff, exists_const, ne_eq, not_not] at ok
    obtain ⟨-, -, -, draft, rfl⟩ := ok
    apply of_put wired
    · rw [draft]
      rfl
    · show (world.lifecycle.sessions sessionId).state.isTerminal = false
      rw [draft]
      rfl
  | sealDraft sessionId sessionDescriptorHash dealerSecretRoot =>
    simp only [World.callLifecycle, SessionLifecycleV2.sealDraft,
      bind_eq_ok_iff, revertIf_eq_ok_iff, pure_eq_ok_iff, exists_const, ne_eq, not_not] at ok
    obtain ⟨-, -, draft, -, rfl⟩ := ok
    apply of_put wired
    · rw [draft]
      rfl
    · rfl
  | beginRandomness sessionId vrfRequestId =>
    simp only [World.callLifecycle, SessionLifecycleV2.beginRandomness,
      bind_eq_ok_iff, pure_eq_ok_iff, exists_const, requireState_eq_ok_iff] at ok
    obtain ⟨-, -, ⟨-, source⟩, rfl⟩ := ok
    apply of_put wired
    · rw [source]
      rfl
    · rfl
  | markReady sessionId deckBatchRoot =>
    simp only [World.callLifecycle, SessionLifecycleV2.markReady,
      bind_eq_ok_iff, pure_eq_ok_iff, exists_const, requireState_eq_ok_iff] at ok
    obtain ⟨-, -, ⟨-, source⟩, rfl⟩ := ok
    apply of_put wired
    · rw [source]
      rfl
    · rfl
  | activate sessionId => exact of_advance wired rfl rfl ok
  | beginSettling sessionId => exact of_advance wired rfl rfl ok
  | markSettled sessionId =>
    simp only [World.callLifecycle, SessionLifecycleV2.markSettled,
      SessionLifecycleV2.advance, bind_eq_ok_iff, pure_eq_ok_iff,
      exists_const, requireState_eq_ok_iff] at ok
    obtain ⟨-, -, ⟨-, source⟩, rfl⟩ := ok
    apply of_ending wired
    · rw [source]
      rfl
    · rfl
  | abort sessionId => exact of_terminate wired (by decide) rfl ok
  | markEmergencyExit sessionId =>
    exact of_terminate wired (by decide) rfl ok
  | setSessionRelayer relayer =>
    simp only [World.callLifecycle, SessionLifecycleV2.setSessionRelayer,
      bind_eq_ok_iff, pure_eq_ok_iff] at ok
    obtain ⟨-, -, rfl⟩ := ok
    exact of_records wired rfl rfl
  | setGameRegistry registry =>
    simp only [World.callLifecycle, SessionLifecycleV2.setGameRegistry,
      bind_eq_ok_iff, pure_eq_ok_iff] at ok
    obtain ⟨-, -, rfl⟩ := ok
    exact of_records wired rfl rfl
  | ownable call =>
    simp only [World.callLifecycle, SessionLifecycleV2.changeOwner,
      bind_eq_ok_iff, pure_eq_ok_iff] at ok
    obtain ⟨owner, -, rfl⟩ := ok
    exact of_records wired rfl rfl
  | recordSealed sessionId commitments => cases scope
  | recordSettled sessionId => cases scope
  | recordEmergencyExit sessionId => cases scope
  | setVault vault => cases scope

/-- A checkpoint keeps records, locks and wiring. -/
theorem of_checkpoint {sequence : Nat} {balanceRoot : Bytes32} (wired : Wired deployment world)
    (ok : ArenaVaultV2.applyCheckpoint msg world sessionId sequence balanceRoot = .ok after) :
    InScopeEffect deployment world after .leavesOpen := by
  obtain ⟨-, -, -, -, rfl⟩ := ArenaVaultV2.applyCheckpoint_eq_ok_iff.mp ok
  constructor
  · exact RecordEffect.still (fun _ => rfl) rfl
  · refine wired.of_vault rfl rfl rfl ?_
    intro other started
    by_cases same : other = sessionId
    · subst same
      simpa using started
    · simpa [write, same] using started

theorem of_stepVault {call : VaultCall} (wired : Wired deployment world)
    (consistent : world.Consistent deployment) (scope : inScope (.vault call) = true)
    (ok : world.stepVault deployment msg call = .ok after) :
    InScopeEffect deployment world after (closing (.vault call)) := by
  cases call with
  | sealAndFundSession descriptor tickets signatures => exact of_fund wired ok
  | openSession config tickets signatures => cases scope
  | topUpSession sessionId ticket signature =>
    simp only [World.stepVault, ArenaVaultV2.topUpSession, bind_eq_ok_iff,
      ArenaVaultV2.requireMutableSession_eq_ok_iff] at ok
    obtain ⟨-, -, -, -, -, ⟨opened, -, unsealed⟩, -⟩ := ok
    rw [wired.sealedV3 sessionId opened] at unsealed
    cases unsealed
  | rebuySession sessionId ticket signature =>
    simp only [World.stepVault, ArenaVaultV2.rebuySession, bind_eq_ok_iff,
      ArenaVaultV2.requireMutableSession_eq_ok_iff] at ok
    obtain ⟨-, -, -, -, -, ⟨opened, -, unsealed⟩, -⟩ := ok
    rw [wired.sealedV3 sessionId opened] at unsealed
    cases unsealed
  | applyCheckpoint sessionId sequence balanceRoot =>
    exact of_checkpoint wired ok
  | settleSession sessionId players rake => exact of_settle wired consistent ok
  | withdrawProtocolFees amount =>
    obtain ⟨-, -, -, frame⟩ := ArenaVaultV2.withdrawProtocolFees_eq_ok ok
    rw [frame]
    constructor
    · exact RecordEffect.still (fun _ => rfl) rfl
    · exact wired.of_vault rfl rfl rfl fun _ started => started
  | emergencyExit sessionId player tableBalance lastSequence proof =>
    obtain ⟨-, ready, -, -, paid⟩ := ArenaVaultV2.emergencyExit_eq_ok_iff.mp ok
    exact of_exit wired ready paid
  | emergencyExitWithBalanceLeaf sessionId claim proof siblingIsLeft =>
    obtain ⟨-, -, -, ready, -, -, paid⟩ :=
      ArenaVaultV2.emergencyExitWithBalanceLeaf_eq_ok_iff.mp ok
    exact of_exit wired ready paid
  | admin call =>
    simp only [World.stepVault, bind_eq_ok_iff, pure_eq_ok_iff] at ok
    obtain ⟨vault, administered, rfl⟩ := ok
    have kept : vault.sessionLifecycle = world.vault.sessionLifecycle ∧
        vault.sessionSealedV3 = world.vault.sessionSealedV3 ∧
        vault.sessions = world.vault.sessions ∧
        vault.lockedBySession = world.vault.lockedBySession := by
      cases call <;>
        simp only [ArenaVaultV2.administer, bind_eq_ok_iff,
          revertIf_eq_ok_iff, onlyOwner_eq_ok_iff, pure_eq_ok_iff, exists_const] at administered
      case setSessionLifecycle => cases scope
      case setFeeTreasury | setDefaultEmergencyExitDelay | pause |
          unpause =>
        obtain ⟨-, -, rfl⟩ := administered
        exact ⟨rfl, rfl, rfl, rfl⟩
      case ownable =>
        obtain ⟨owner, -, rfl⟩ := administered
        exact ⟨rfl, rfl, rfl, rfl⟩
      all_goals
        obtain ⟨-, rfl⟩ := administered
        exact ⟨rfl, rfl, rfl, rfl⟩
    obtain ⟨configured, sealedV3, sessions, locks⟩ := kept
    constructor
    · exact RecordEffect.still (fun _ => rfl) locks
    · refine wired.of_vault rfl configured sealedV3 ?_
      intro other started
      rw [← sessions]
      exact started

theorem of_settleWith {settlement : FinalSettlementV3} {players : List SettlementPlayer}
    {proof : Bytes} {verifierPolicyId : Bytes32} (wired : Wired deployment world)
    (consistent : world.Consistent deployment)
    (ok : PokerSettlementHubV3.settleWith deployment msg world settlement players
        proof verifierPolicyId = .ok after) :
    InScopeEffect deployment world after .leavesOpen := by
  obtain ⟨-, -, -, -, -, -, -, recorded, -, checkpointed, checkpoint,
    settled⟩ := PokerSettlementHubV3.settleWith_eq_ok_iff.mp ok
  have quiet : Quiet deployment world checkpointed := Effect.quiet_checkpoint checkpoint
  have wiredRecorded : Wired deployment { world with hub := recorded } :=
    wired.of_vault rfl rfl rfl fun _ started => started
  have wiredCheckpointed := (of_checkpoint wiredRecorded checkpoint).wired
  obtain ⟨effect, wiredAfter⟩ := of_settle wiredCheckpointed (consistent.quiet quiet) settled
  have locks := congrArg Ledger.locked quiet.ledger
  obtain ⟨-, -, -, -, rfl⟩ := ArenaVaultV2.applyCheckpoint_eq_ok_iff.mp checkpoint
  exact ⟨effect.of_same rfl locks, wiredAfter⟩

theorem of_stepHub {call : HubCall} (wired : Wired deployment world)
    (consistent : world.Consistent deployment)
    (ok : world.stepHub deployment msg call = .ok after) :
    InScopeEffect deployment world after (closing (.hub call)) := by
  cases call with
  | settle settlement players signatures verifierPolicyId =>
    exact of_settleWith wired consistent ok
  | settleWithProof settlement players proof verifierPolicyId =>
    exact of_settleWith wired consistent ok
  | emergencyRelease sessionId player tableBalance lastSequence proof =>
    obtain ⟨-, ready, -, -, paid⟩ := ArenaVaultV2.emergencyExit_eq_ok_iff.mp ok
    exact of_exit wired ready paid
  | emergencyReleaseWithBalanceLeaf sessionId claim proof siblingIsLeft =>
    obtain ⟨-, -, -, ready, -, -, paid⟩ :=
      ArenaVaultV2.emergencyExitWithBalanceLeaf_eq_ok_iff.mp ok
    exact of_exit wired ready paid
  | admin call =>
    simp only [World.stepHub, bind_eq_ok_iff, pure_eq_ok_iff] at ok
    obtain ⟨hub, -, rfl⟩ := ok
    exact of_frame wired rfl rfl

/-- Every accepted call in scope has one of the effects and keeps the wiring. -/
theorem of_stepOperation {operation : Operation} (wired : Wired deployment world)
    (consistent : world.Consistent deployment) (scope : inScope operation = true)
    (ok : world.stepOperation deployment msg operation = .ok after) :
    InScopeEffect deployment world after (closing operation) := by
  cases operation with
  | createAccount owner =>
    simp only [World.stepOperation, bind_eq_ok_iff, pure_eq_ok_iff] at ok
    obtain ⟨result, -, rfl⟩ := ok
    exact of_frame wired rfl rfl
  | account target call =>
    simp only [World.stepOperation, bind_eq_ok_iff, revertIf_eq_ok_iff, exists_const] at ok
    exact of_stepAccount wired ok.2
  | transfer token recipient amount =>
    simp only [World.stepOperation, bind_eq_ok_iff, pure_eq_ok_iff] at ok
    obtain ⟨tokens, -, rfl⟩ := ok
    exact of_frame wired rfl rfl
  | mint token recipient amount =>
    simp only [World.stepOperation, pure_eq_ok_iff] at ok
    subst ok
    exact of_frame wired rfl rfl
  | vault call => exact of_stepVault wired consistent scope ok
  | hub call => exact of_stepHub wired consistent ok
  | router call =>
    simp only [World.stepOperation, bind_eq_ok_iff, pure_eq_ok_iff] at ok
    obtain ⟨router, -, rfl⟩ := ok
    exact of_frame wired rfl rfl
  | lifecycle call =>
    simp only [World.stepOperation, bind_eq_ok_iff, pure_eq_ok_iff] at ok
    obtain ⟨lifecycle, called, rfl⟩ := ok
    exact of_lifecycle wired scope called
  | feeVault call =>
    simp only [World.stepOperation, bind_eq_ok_iff, pure_eq_ok_iff] at ok
    obtain ⟨result, -, rfl⟩ := ok
    exact of_frame wired rfl rfl

end InScopeEffect

/-! ## Stranded locks -/

section Runs

variable {deployment : Deployment} {world : World}

/-- A wired run is a run of the contracts. -/
theorem reachable_of_wired {allowed : World → ExternalCall deployment → Prop}
    (reached : (wiredProtocol deployment).Reachable allowed world) :
    World.Reachable deployment world := by
  induction reached with
  | start initial => exact .start initial.1
  | next _ _ accepted reached => exact .next reached trivial accepted

/-- The wiring holds in all runs of calls in scope. -/
theorem wired_of_reachable
    (reached : (wiredProtocol deployment).Reachable
        (fun _ call => inScope call.operation = true) world) :
    Wired deployment world := by
  refine reached.invariant_with (fun _ arrived =>
        World.Reachable.consistent (reachable_of_wired arrived)) ?_ ?_
  · rintro state ⟨initial, configured, caller⟩
    refine ⟨configured, caller, ?_⟩
    intro sessionId started
    rw [initial.sessions] at started
    exact absurd rfl started
  · intro state call after consistent wired scope accepted
    exact (InScopeEffect.of_stepOperation wired consistent scope accepted).wired

/-- A terminal record stays terminal in every continuation. -/
theorem terminal_of_continued {later : World} {sessionId : Bytes32}
    (reached : (wiredProtocol deployment).Reachable
        (fun _ call => inScope call.operation = true) world)
    (terminal : (world.lifecycle.sessions sessionId).state.isTerminal = true)
    (continued : ((wiredProtocol deployment).startingAt world).Reachable
        (fun _ call => inScope call.operation = true) later) :
    (later.lifecycle.sessions sessionId).state.isTerminal = true := by
  induction continued with
  | start initial =>
    rw [show _ = world from initial]
    exact terminal
  | next arrived scope accepted ended =>
    have joined := reached.continue arrived
    have wired := wired_of_reachable joined
    have consistent := World.Reachable.consistent (reachable_of_wired joined)
    exact (InScopeEffect.of_stepOperation wired consistent scope accepted).effect.terminal ended

/-- Behind a terminal record no release succeeds any more. -/
theorem not_canRelease {sessionId : Bytes32}
    (reached : (wiredProtocol deployment).Reachable
        (fun _ call => inScope call.operation = true) world)
    (terminal : (world.lifecycle.sessions sessionId).state.isTerminal = true) :
    ¬ CanRelease deployment world sessionId := by
  rintro ⟨later, continued, msg, call, after, releases, accepted⟩
  have ended := terminal_of_continued reached terminal continued
  have joined := reached.continue continued
  have wired := wired_of_reachable joined
  have consistent := World.Reachable.consistent (reachable_of_wired joined)
  have live : (later.lifecycle.sessions sessionId).state.isTerminal = false := by
    cases call with
    | settleSession other players rake =>
      obtain rfl : other = sessionId := releases
      obtain ⟨-, opened, -, payload, -, -, -, accepts⟩ :=
        consistent.exists_settleSession_iff.mp ⟨after, accepted⟩
      exact LifecycleState.live_of_acceptsVaultHook ((wired.hookAccepts_iff opened).mp accepts)
    | emergencyExit other player tableBalance lastSequence proof =>
      obtain rfl : other = sessionId := releases
      obtain ⟨-, ready, -, -, paid⟩ := ArenaVaultV2.emergencyExit_eq_ok_iff.mp accepted
      obtain ⟨-, accepts, -⟩ := ArenaVaultV2.payoutEmergencyExit_eq_ok_iff.mp paid
      exact LifecycleState.live_of_acceptsVaultHook
          ((wired.hookAccepts_iff ready.opened).mp accepts)
    | emergencyExitWithBalanceLeaf other claim proof siblingIsLeft =>
      obtain rfl : other = sessionId := releases
      obtain ⟨-, -, -, ready, -, -, paid⟩ :=
        ArenaVaultV2.emergencyExitWithBalanceLeaf_eq_ok_iff.mp accepted
      obtain ⟨-, accepts, -⟩ := ArenaVaultV2.payoutEmergencyExit_eq_ok_iff.mp paid
      exact LifecycleState.live_of_acceptsVaultHook
          ((wired.hookAccepts_iff ready.opened).mp accepts)
    | _ => exact releases.elim
  rw [ended] at live
  cases live

/-- Nothing is stranded exactly when all terminal sessions are clear. -/
theorem nothingStranded_iff_cleared
    (reached : (wiredProtocol deployment).Reachable
        (fun _ call => inScope call.operation = true) world) :
    NothingStranded deployment world ↔ Cleared world := by
  constructor
  · intro released sessionId terminal account
    by_contra locked
    exact not_canRelease reached terminal (released sessionId terminal ⟨account, locked⟩)
  · rintro cleared sessionId terminal ⟨account, locked⟩
    exact absurd (cleared sessionId terminal account) locked

end Runs

/-- A call in scope that leaves no lock behind a record it closes. -/
def KeepsReleasable {deployment : Deployment} (world : World)
    (call : ExternalCall deployment) : Prop :=
  inScope call.operation = true ∧ LeavesNothing world (closing call.operation)

/--
As long as relayer calls close only records of sessions without locks, and
exits that close a record take the last lock, nothing is stranded; and any
other accepted call in scope strands the locks that are left.
-/
theorem nothingStranded_and_step_iff
    {deployment : Deployment} {world : World}
    (reached :
      (wiredProtocol deployment).Reachable KeepsReleasable world) :
    NothingStranded deployment world ∧
      ∀ (call : ExternalCall deployment) (after : World),
        inScope call.operation = true →
          (wiredProtocol deployment).step world call = .ok after →
            (NothingStranded deployment after ↔
              LeavesNothing world (closing call.operation)) := by
  have inScopeRun :
      ∀ {state : World},
        (wiredProtocol deployment).Reachable KeepsReleasable state →
          (wiredProtocol deployment).Reachable
            (fun _ call => inScope call.operation = true) state :=
    fun run => run.mono fun _ _ keeps => keeps.1
  have facts :
      ∀ {state : World},
        (wiredProtocol deployment).Reachable KeepsReleasable state →
          Wired deployment state ∧ state.Consistent deployment := by
    intro state run
    exact
      ⟨wired_of_reachable (inScopeRun run),
        World.Reachable.consistent (reachable_of_wired run)⟩
  have cleared : Cleared world := by
    refine reached.invariant_with (fun _ arrived => facts arrived) ?_ ?_
    · rintro state ⟨initial, -, -⟩ sessionId - account
      rw [initial.lockedBySession]
    · rintro state call after ⟨wired, consistent⟩ cleared ⟨scope, nothing⟩
        accepted
      have effect :=
        (InScopeEffect.of_stepOperation wired consistent scope
          accepted).effect
      exact (effect.cleared_iff cleared).mpr nothing
  constructor
  · exact (nothingStranded_iff_cleared (inScopeRun reached)).mpr cleared
  · intro call after scope accepted
    obtain ⟨wired, consistent⟩ := facts reached
    have effect :=
      (InScopeEffect.of_stepOperation wired consistent scope accepted).effect
    have continued := inScopeRun reached
    rw [nothingStranded_iff_cleared (.next continued scope accepted)]
    exact effect.cleared_iff cleared

/-! ## A settled and an aborted table -/

namespace Example

/-- Another settlement hub, user `5`, settles the sealed table. -/
def settleSealed : List (ExternalCall deployment) :=
  [call 0 0 (.vault (.admin (.setSettlementHub (user 5)))), call 5 0 (.vault
        (.settleSession sealedId [⟨accountOf 1, 100, 120⟩, ⟨accountOf 2, 100, 80⟩] 0))]

/-- Users `1` and `2` seal a table with `100` locked each. -/
def sealedOnly : List (ExternalCall deployment) :=
  enrol 1 7 100 ++ enrol 2 7 100 ++ [sealTable [(1, 100), (2, 100)]]

/-- The relayer aborts the sealed table. -/
def abortSealed : ExternalCall deployment := call 0 0 (.lifecycle (.abort sealedId))

theorem wired_world : (wiredProtocol deployment).initial (world deployment.lifecycle) :=
  ⟨initial_world _, rfl, rfl⟩

end Example

/-- A sealed table that was settled has a terminal record and no locks. -/
theorem nothingStranded_settledTable :
    ∃ world : World,
      (world.lifecycle.sessions Example.sealedId).state = .settled ∧
        NothingStranded Example.deployment world := by
  have start :
      (wiredProtocol Example.deployment).Reachable
        (fun _ call =>
          inScope call.operation = true ∧
            closing call.operation = .leavesOpen)
        (Example.world Example.deployment.lifecycle) :=
    .start Example.wired_world
  have observed :
      ((wiredProtocol Example.deployment).replay
          (fun _ call =>
            inScope call.operation = true ∧
              closing call.operation = .leavesOpen)
          (Example.world Example.deployment.lifecycle)
          (Example.sealedOnly ++ Example.settleSealed)).any
        (fun state =>
          (state.lifecycle.sessions Example.sealedId).state ==
            .settled) =
        true := by
    decide +kernel
  obtain ⟨world, reached, settled⟩ := start.exists_replay observed
  have keeps :
      (wiredProtocol Example.deployment).Reachable KeepsReleasable world := by
    refine reached.mono ?_
    rintro state call ⟨scope, leaves⟩
    refine ⟨scope, ?_⟩
    rw [leaves]
    trivial
  exact
    ⟨world, beq_iff_eq.mp settled, (nothingStranded_and_step_iff keeps).1⟩

/-- A relayer aborts a funded table: its locks can never be released. -/
theorem exists_strandedTable :
    ¬ ∀ (deployment : Deployment) (world : World),
      (wiredProtocol deployment).Reachable
          (fun _ call => inScope call.operation = true) world →
        NothingStranded deployment world := by
  intro released
  have start :
      (wiredProtocol Example.deployment).Reachable
        (fun _ call => inScope call.operation = true)
        (Example.world Example.deployment.lifecycle) :=
    .start Example.wired_world
  have observed :
      ((wiredProtocol Example.deployment).replay
          (fun _ call => inScope call.operation = true)
          (Example.world Example.deployment.lifecycle)
          (Example.sealedOnly ++ [Example.abortSealed])).any
        (fun state =>
          (state.lifecycle.sessions Example.sealedId).state.isTerminal &&
            state.vault.lockedBySession Example.sealedId
              (Example.accountOf 1) == 100) =
        true := by
    decide +kernel
  obtain ⟨world, reached, facts⟩ := start.exists_replay observed
  obtain ⟨terminal, locked⟩ := Bool.and_eq_true_iff.mp facts
  have positive :
      world.vault.lockedBySession Example.sealedId (Example.accountOf 1) ≠
        0 := by
    rw [beq_iff_eq.mp locked]
    decide
  exact
    not_canRelease reached terminal
      (released Example.deployment world reached Example.sealedId terminal
        ⟨_, positive⟩)

end Mozetto.Chain
