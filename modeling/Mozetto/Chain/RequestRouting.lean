import Mozetto.Chain.RandomnessBeaconV2
import Mathlib.Tactic.Common

/-!
# Routing of VRF requests

The records of a beacon only grow: this holds in every run.  That the two maps
between epochs and request identifiers agree does not.  The counter may run
into an identifier that was supplied from outside, a supplied identifier may
belong to another epoch already, and an epoch may be rebound again.  Runs
without such calls keep the maps in step, and each such call breaks them.
-/

namespace Mozetto.Chain

open Mozetto.Library.Guarded
open Mozetto.Library.Mapping
open Mozetto.Library.TransitionSystem

namespace BeaconState

open RandomnessBeaconV2

variable {keccak256 : Bytes → Bytes32} {call : Msg × BeaconCall}
variable {before after state later : BeaconState}

/-! ## Records only grow -/

/-- No epoch loses what it had recorded. -/
def Keeps (before after : BeaconState) : Prop :=
  ∀ key, (before.beacon.epochs key).Keeps (after.beacon.epochs key)

/-- The calls that neither draw nor supply a request identifier. -/
def NamesNoRequest : BeaconCall → Prop
  | .requestVrf _ _ => False
  | .bindExternalRequestId _ _ _ => False
  | _ => True

theorem quiet_of_namesNoRequest (accepted : step keccak256 before call = .ok after)
    (names : NamesNoRequest call.2) : (∀ key,
      (before.beacon.epochs key).Moves (after.beacon.epochs key)) ∧
    Quiet before.beacon after.beacon ∧ after.rebindings = before.rebindings := by
  rcases call with ⟨msg, call⟩
  cases call with
  | administer call =>
    rcases map_eq_ok_iff.mp accepted with ⟨beacon, run, rfl⟩
    rcases administer_frame run with ⟨epochs, requestIds⟩
    refine ⟨?_, Quiet.of_frame epochs requestIds, rfl⟩
    intro key
    show (before.beacon.epochs key).Moves (beacon.epochs key)
    rw [epochs]
    exact .keep
  | commitSecretRoot =>
    rcases map_eq_ok_iff.mp accepted with ⟨beacon, run, rfl⟩
    rcases commitSecretRoot_ok run with ⟨moves, quiet⟩
    exact ⟨moves, quiet, rfl⟩
  | requestVrf => exact names.elim
  | bindExternalRequestId => exact names.elim
  | fulfillMock =>
    rcases map_eq_ok_iff.mp accepted with ⟨beacon, run, rfl⟩
    rcases fulfillMock_ok run with ⟨moves, quiet⟩
    exact ⟨moves, quiet, rfl⟩
  | fulfillVrf =>
    rcases map_eq_ok_iff.mp accepted with ⟨beacon, run, rfl⟩
    rcases fulfillVrf_ok run with ⟨moves, quiet⟩
    exact ⟨moves, quiet, rfl⟩
  | registerDeckBatch =>
    rcases map_eq_ok_iff.mp accepted with ⟨beacon, run, rfl⟩
    rcases registerDeckBatch_ok run with ⟨moves, quiet⟩
    exact ⟨moves, quiet, rfl⟩

theorem moves_of_step (accepted : step keccak256 before call = .ok after) (key : Bytes32) :
    (before.beacon.epochs key).Moves (after.beacon.epochs key) := by
  rcases call with ⟨msg, call⟩
  cases call with
  | requestVrf sessionId epoch =>
    rcases map_eq_ok_iff.mp accepted with ⟨beacon, run, rfl⟩
    rcases requestVrf_ok_iff.mp run with ⟨-, committed, -, rfl⟩
    exact moves_of_write (.request committed) key
  | bindExternalRequestId sessionId epoch externalRequestId =>
    rcases map_eq_ok_iff.mp accepted with ⟨beacon, run, rfl⟩
    rcases bindExternalRequestId_ok_iff.mp run with ⟨-, -, requested, rfl⟩
    exact moves_of_write (.rebind requested) key
  | administer call => exact (quiet_of_namesNoRequest accepted trivial).1 key
  | commitSecretRoot =>
    exact (quiet_of_namesNoRequest accepted trivial).1 key
  | fulfillMock => exact (quiet_of_namesNoRequest accepted trivial).1 key
  | fulfillVrf => exact (quiet_of_namesNoRequest accepted trivial).1 key
  | registerDeckBatch =>
    exact (quiet_of_namesNoRequest accepted trivial).1 key

theorem wellPhased_of_reachable {allowed : BeaconState → Msg × BeaconCall → Prop}
    (reached : (system keccak256).Reachable allowed state) (key : Bytes32) :
    (state.beacon.epochs key).WellPhased := by
  induction reached with
  | start initial =>
    rcases initial with ⟨owner, mockVrfEnabled, -, rfl⟩
    exact EpochRecord.unset_wellPhased
  | next _ _ accepted holds =>
    exact (moves_of_step accepted key).wellPhased holds

theorem keeps_of_run (reached : (system keccak256).Reachable AnyCall state)
    (continued : ((system keccak256).startingAt state).Reachable AnyCall later) :
    state.Keeps later := by
  induction continued with
  | start initial =>
    rw [show _ = state from initial]
    exact fun key => .refl _
  | next continued _ accepted kept =>
    intro key
    have wellPhased := wellPhased_of_reachable (reached.continue continued) key
    exact (kept key).trans ((moves_of_step accepted key).keeps wellPhased)

/-! ## Requests reach their epochs -/

/-- Epochs and request identifiers determine one another. -/
structure Routed (state : BeaconState) : Prop where
  routes : ∀ key, (state.beacon.epochs key).phase = .vrfRequested → state.beacon.requestIdToEpochKey
        (state.beacon.epochs key).vrfRequestId = key
  distinct : ∀ left right, left ≠ right → (state.beacon.epochs left).Requested →
      (state.beacon.epochs right).Requested → (state.beacon.epochs left).vrfRequestId ≠
          (state.beacon.epochs right).vrfRequestId
  reboundOnce : ∀ key, state.rebindings key ≤ 1

/-- No requested epoch but possibly the named one has the identifier. -/
def Unused (state : BeaconState) (key : Bytes32) (requestId : Nat) : Prop :=
  ∀ other, other ≠ key → (state.beacon.epochs other).Requested →
    (state.beacon.epochs other).vrfRequestId ≠ requestId

/--
A request draws an identifier that no epoch has; an external identifier is
one that no other epoch has, and is the first for its epoch.
-/
def NamesFreshRequest (keccak256 : Bytes → Bytes32) (state : BeaconState)
    (call : Msg × BeaconCall) : Prop :=
  match call.2 with
  | .requestVrf sessionId epoch =>
      state.Unused (epochKey keccak256 sessionId epoch) state.beacon.nextRequestId
  | .bindExternalRequestId sessionId epoch externalRequestId =>
      state.rebindings (epochKey keccak256 sessionId epoch) = 0 ∧
        state.Unused (epochKey keccak256 sessionId epoch) externalRequestId
  | _ => True

theorem Routed.of_quiet (routed : before.Routed) (quiet : Quiet before.beacon after.beacon)
    (rebindings : after.rebindings = before.rebindings) : after.Routed where
  routes := by
    intro key pending
    rw [quiet.requestIdToEpochKey, quiet.vrfRequestId]
    exact routed.routes key (quiet.pending key pending)
  distinct := by
    intro left right ne leftRequested rightRequested
    rw [quiet.vrfRequestId, quiet.vrfRequestId]
    exact routed.distinct left right ne ((quiet.requested left).mp leftRequested)
      ((quiet.requested right).mp rightRequested)
  reboundOnce := by
    rw [rebindings]
    exact routed.reboundOnce

/--
Giving one epoch an identifier nobody else has keeps the maps in step, when
the entries of the other pending epochs stay.
-/
theorem Routed.of_assigned {key requestId : Nat} (routed : before.Routed)
    (unused : before.Unused key requestId)
    (others : ∀ other, other ≠ key → after.beacon.epochs other = before.beacon.epochs other)
    (assigned : (after.beacon.epochs key).vrfRequestId = requestId)
    (mapped : after.beacon.requestIdToEpochKey requestId = key)
    (kept : ∀ other, other ≠ key → (before.beacon.epochs other).phase = .vrfRequested →
          after.beacon.requestIdToEpochKey (before.beacon.epochs other).vrfRequestId =
            before.beacon.requestIdToEpochKey (before.beacon.epochs other).vrfRequestId)
    (reboundOnce : ∀ key, after.rebindings key ≤ 1) :
    after.Routed where
  routes := by
    intro other pending
    by_cases same : other = key
    · subst same
      rw [assigned, mapped]
    · rw [others other same] at pending ⊢
      rw [kept other same pending]
      exact routed.routes other pending
  distinct := by
    intro left right ne leftRequested rightRequested
    by_cases isLeft : left = key
    · subst isLeft
      have notRight : right ≠ left := fun same => ne same.symm
      rw [others right notRight] at rightRequested ⊢
      rw [assigned]
      exact fun equal => unused right notRight rightRequested equal.symm
    · rw [others left isLeft] at leftRequested ⊢
      by_cases isRight : right = key
      · subst isRight
        rw [assigned]
        exact unused left isLeft leftRequested
      · rw [others right isRight] at rightRequested ⊢
        exact routed.distinct left right ne leftRequested rightRequested
  reboundOnce := reboundOnce

/-- An identifier that two requested epochs have is not distinct. -/
theorem unused_of_distinct {key requestId : Nat}
    (distinct : ∀ left right, left ≠ right → (after.beacon.epochs left).Requested →
        (after.beacon.epochs right).Requested → (after.beacon.epochs left).vrfRequestId ≠
            (after.beacon.epochs right).vrfRequestId)
    (others : ∀ other, other ≠ key → after.beacon.epochs other = before.beacon.epochs other)
    (requested : (after.beacon.epochs key).Requested)
    (assigned : (after.beacon.epochs key).vrfRequestId = requestId) :
    before.Unused key requestId := by
  intro other ne otherRequested
  rw [← others other ne] at otherRequested ⊢
  rw [← assigned]
  exact distinct other key ne otherRequested requested

theorem requested_of_vrfRequested {record : EpochRecord} (pending : record.phase = .vrfRequested) :
    record.Requested := by
  show Phase.vrfRequested.index ≤ record.phase.index
  exact Nat.le_of_eq (congrArg Phase.index pending).symm

theorem request_routed_iff {msg : Msg} {sessionId : Bytes32} {epoch : Nat} (routed : before.Routed)
    (accepted : step keccak256 before (msg, .requestVrf sessionId epoch) = .ok after) :
    after.Routed ↔ before.Unused (epochKey keccak256 sessionId epoch)
        before.beacon.nextRequestId := by
  rcases map_eq_ok_iff.mp accepted with ⟨beacon, run, rfl⟩
  rcases requestVrf_ok_iff.mp run with ⟨-, committed, -, rfl⟩
  constructor
  · intro holds
    refine unused_of_distinct holds.distinct ?_ ?_ ?_
    · exact fun other ne => write_of_ne _ _ ne
    · apply requested_of_vrfRequested
      simp
    · simp
  · intro unused
    refine routed.of_assigned unused ?_ ?_ ?_ ?_ routed.reboundOnce
    · exact fun other ne => write_of_ne _ _ ne
    · simp
    · simp
    · intro other ne pending
      exact write_of_ne _ _ (unused other ne (requested_of_vrfRequested pending))

/-- Binding an unused identifier keeps the entries of other epochs. -/
theorem boundIds_of_other {key other externalRequestId : Nat} (routed : before.Routed)
    (pending : (before.beacon.epochs key).phase = .vrfRequested) (ne : other ≠ key)
    (otherPending : (before.beacon.epochs other).phase = .vrfRequested)
    (unused : (before.beacon.epochs other).vrfRequestId ≠ externalRequestId) :
    boundIds before.beacon key externalRequestId (before.beacon.epochs other).vrfRequestId =
      before.beacon.requestIdToEpochKey (before.beacon.epochs other).vrfRequestId := by
  have notOld : (before.beacon.epochs other).vrfRequestId ≠
      (before.beacon.epochs key).vrfRequestId :=
    routed.distinct other key ne (requested_of_vrfRequested otherPending)
      (requested_of_vrfRequested pending)
  rw [boundIds, write_of_ne _ _ unused]
  split
  · exact write_of_ne _ _ notOld
  · rfl

theorem bind_routed_iff {msg : Msg} {sessionId : Bytes32} {epoch externalRequestId : Nat}
    (routed : before.Routed)
    (accepted : step keccak256 before
          (msg, .bindExternalRequestId sessionId epoch externalRequestId) = .ok after) :
    after.Routed ↔ before.rebindings (epochKey keccak256 sessionId epoch) = 0 ∧
        before.Unused (epochKey keccak256 sessionId epoch)
          externalRequestId := by
  rcases map_eq_ok_iff.mp accepted with ⟨beacon, run, rfl⟩
  rcases bindExternalRequestId_ok_iff.mp run with ⟨-, -, pending, rfl⟩
  constructor
  · intro holds
    constructor
    · have once := holds.reboundOnce (epochKey keccak256 sessionId epoch)
      simp only [write_self] at once
      omega
    · refine unused_of_distinct holds.distinct ?_ ?_ ?_
      · exact fun other ne => write_of_ne _ _ ne
      · apply requested_of_vrfRequested
        simpa using pending
      · simp
  · rintro ⟨first, unused⟩
    refine routed.of_assigned unused ?_ ?_ ?_ ?_ ?_
    · exact fun other ne => write_of_ne _ _ ne
    · simp
    · exact write_self _ _ _
    · intro other ne otherPending
      exact boundIds_of_other routed pending ne otherPending
        (unused other ne (requested_of_vrfRequested otherPending))
    · intro key
      by_cases same : key = epochKey keccak256 sessionId epoch
      · subst same
        simp [first]
      · simp only [write_of_ne _ _ same]
        exact routed.reboundOnce key

/-- A call keeps the maps in step exactly when it names a fresh request. -/
theorem step_routed_iff (routed : before.Routed)
    (accepted : step keccak256 before call = .ok after) :
    after.Routed ↔ NamesFreshRequest keccak256 before call := by
  have quietly (names : NamesNoRequest call.2) : after.Routed := by
    rcases quiet_of_namesNoRequest accepted names with ⟨-, quiet, rebindings⟩
    exact routed.of_quiet quiet rebindings
  rcases call with ⟨msg, call⟩
  cases call with
  | requestVrf sessionId epoch => exact request_routed_iff routed accepted
  | bindExternalRequestId sessionId epoch externalRequestId =>
    exact bind_routed_iff routed accepted
  | administer => exact iff_of_true (quietly trivial) trivial
  | commitSecretRoot => exact iff_of_true (quietly trivial) trivial
  | fulfillMock => exact iff_of_true (quietly trivial) trivial
  | fulfillVrf => exact iff_of_true (quietly trivial) trivial
  | registerDeckBatch => exact iff_of_true (quietly trivial) trivial

theorem constructed_routed (owner : Address) (mockVrfEnabled : Bool) :
    Routed ⟨constructed owner mockVrfEnabled, fun _ => 0⟩ where
  routes := by
    intro key pending
    cases pending
  distinct := by
    intro left right _ requested
    simp [EpochRecord.Requested, constructed, EpochRecord.unset, Phase.index] at requested
  reboundOnce := fun _ => Nat.zero_le 1

theorem routed_of_reachable
    (reached : (system keccak256).Reachable (NamesFreshRequest keccak256) state) :
    state.Routed := by
  induction reached with
  | start initial =>
    rcases initial with ⟨owner, mockVrfEnabled, -, rfl⟩
    exact constructed_routed owner mockVrfEnabled
  | next _ fresh accepted routed =>
    exact (step_routed_iff routed accepted).mpr fresh

/-- A fulfilment by an epoch's identifier writes that epoch only. -/
def FulfilmentsReach (state : BeaconState) : Prop :=
  ∀ key msg vrfResult fulfilled, (state.beacon.epochs key).phase = .vrfRequested →
    fulfillVrf msg state.beacon (state.beacon.epochs key).vrfRequestId vrfResult = .ok fulfilled →
      (fulfilled.epochs key).phase = .vrfFulfilled ∧ (fulfilled.epochs key).vrfResult = vrfResult ∧
        ∀ other, other ≠ key → fulfilled.epochs other = state.beacon.epochs other

theorem Routed.fulfilmentsReach (routed : state.Routed) :
    state.FulfilmentsReach := by
  intro key msg vrfResult fulfilled pending accepted
  simp only [fulfillVrf, onlyFulfillerOrOwner, revertIf_bind_eq_ok_iff,
    routed.routes key pending] at accepted
  rcases accepted with ⟨-, -, -, accepted⟩
  rcases fulfill_ok_iff.mp accepted with ⟨-, -, rfl⟩
  refine ⟨?_, ?_, ?_⟩
  · simp [put]
  · simp [put]
  · exact fun other ne => write_of_ne _ _ ne

/--
No run changes what an epoch has recorded.  In a run whose requests are
fresh, identifiers and epochs determine one another, each epoch is rebound at
most once and fulfilments reach their epochs; a further call keeps this
exactly when it names a fresh request.
-/
theorem requests_routed (keccak256 : Bytes → Bytes32) :
    (∀ state later,
        (system keccak256).Reachable AnyCall state →
        ((system keccak256).startingAt state).Reachable AnyCall later →
          state.Keeps later) ∧
      ∀ state,
        (system keccak256).Reachable (NamesFreshRequest keccak256) state →
          state.Routed ∧ state.FulfilmentsReach ∧
            ∀ call after, step keccak256 state call = .ok after →
              (after.Routed ↔ NamesFreshRequest keccak256 state call) := by
  constructor
  · intro state later reached continued
    exact keeps_of_run reached continued
  · intro state reached
    have routed := routed_of_reachable reached
    exact ⟨routed, routed.fulfilmentsReach,
      fun call after accepted => step_routed_iff routed accepted⟩

/-! ## Two runs -/

/-- The beacon after its construction by the first account. -/
def fresh : BeaconState := ⟨constructed 1 true, fun _ => 0⟩

theorem fresh_reachable {allowed : BeaconState → Msg × BeaconCall → Prop} :
    (system digits).Reachable allowed fresh := .start ⟨1, true, by decide, rfl⟩

/-- A call of the owner. -/
def byOwner (call : BeaconCall) : Msg × BeaconCall :=
  (.plain 1 1 Nat.one_pos one_lt_uint64Size, call)

/-- A committed and requested epoch is routed to by its identifier. -/
theorem requests_routed_requested :
    ∃ state,
      (system digits).Reachable (NamesFreshRequest digits) state ∧
        (state.beacon.epochs (epochKey digits 5 0)).phase = .vrfRequested ∧
        state.Routed ∧ state.FulfilmentsReach := by
  have played :
      ((step digits fresh (byOwner (.commitSecretRoot 5 0 8 9 10))).toOption.any
        fun state =>
          (step digits state (byOwner (.requestVrf 5 0))).toOption.any
            fun state =>
              decide
                ((state.beacon.epochs (epochKey digits 5 0)).phase =
                  .vrfRequested)) = true := by
    decide +kernel
  cases first : step digits fresh (byOwner (.commitSecretRoot 5 0 8 9 10)) with
  | error err =>
      rw [first] at played
      cases played
  | ok committed =>
      rw [first] at played
      cases second : step digits committed (byOwner (.requestVrf 5 0)) with
      | error err =>
          simp only [Except.toOption, Option.any_some, second] at played
          cases played
      | ok requested =>
          simp only [Except.toOption, Option.any_some, second,
            decide_eq_true_eq] at played
          rcases quiet_of_namesNoRequest first trivial with ⟨-, quiet, -⟩
          have unused :
              NamesFreshRequest digits committed
                (byOwner (.requestVrf 5 0)) := by
            intro other _ asked
            have never := (quiet.requested other).mp asked
            simp [EpochRecord.Requested, fresh, constructed,
              EpochRecord.unset, Phase.index] at never
          have committing :
              NamesFreshRequest digits fresh
                (byOwner (.commitSecretRoot 5 0 8 9 10)) := trivial
          have reached :
              (system digits).Reachable (NamesFreshRequest digits)
                requested :=
            .next (.next fresh_reachable committing first) unused second
          have routed := (requests_routed digits).2 requested reached
          exact ⟨requested, reached, played, routed.1, routed.2.1⟩

/--
The first of two requested epochs is given the identifier of the second: the
second is still waiting for its word, which now goes to the first.
-/
theorem exists_request_misrouted :
    ∃ state, (system digits).Reachable AnyCall state ∧ ¬ state.Routed := by
  have played :
      ((system digits).replay AnyCall fresh
        [byOwner (.commitSecretRoot 5 0 8 9 10),
          byOwner (.commitSecretRoot 6 0 7 9 10),
          byOwner (.requestVrf 5 0),
          byOwner (.requestVrf 6 0),
          byOwner (.bindExternalRequestId 5 0 2)]).any
        (fun state =>
          decide
            ((state.beacon.epochs (epochKey digits 6 0)).phase =
                .vrfRequested ∧
              state.beacon.requestIdToEpochKey
                  (state.beacon.epochs
                    (epochKey digits 6 0)).vrfRequestId ≠
                epochKey digits 6 0)) = true := by
    decide +kernel
  rcases System.Reachable.exists_replay fresh_reachable played with
    ⟨state, reached, observed⟩
  rcases of_decide_eq_true observed with ⟨pending, elsewhere⟩
  refine ⟨state, reached, ?_⟩
  intro routed
  exact elsewhere (routed.routes _ pending)

end BeaconState

end Mozetto.Chain
