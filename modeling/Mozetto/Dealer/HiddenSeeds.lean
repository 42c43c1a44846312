import Mathlib.Logic.Equiv.Basic
import Mathlib.Logic.Encodable.Basic
import Mathlib.Logic.Equiv.List
import Mozetto.Dealer.SeedProvenance

/-!
# Hidden seeds

The seed of a live hand is hidden when no other hand had it, no settled hand
revealed it, and other secrets of the dealer would have given another seed.
A hand's seed is hidden exactly when the dealer answered the request for it
and no earlier hand was derived from the same batch, at the same index and
with the same VRF word.  The index is the hand number modulo `256`.
-/

namespace Mozetto.Dealer

open Mozetto.Chain

/-- The public side of a session's run. -/
structure OnchainSession where
  hashes : Hashes
  sessionId : String
  handNumber : Nat
  fulfillments : List String

namespace OnchainSession

variable (session : OnchainSession)

/-- The state after some calls, with given draws of the dealer. -/
def after (draws : Nat → Bytes32) (calls : List SeedCall) :
    SeedState Bytes32 ServerSeed :=
  run session.hashes (dealerSource session.hashes draws) session.sessionId
    (.initially session.handNumber session.fulfillments) calls

/-- The hand that `call` starts after `earlier`. -/
def started (draws : Nat → Bytes32) (earlier : List SeedCall) (call : SeedCall) :
    Option (HandRecord Bytes32 ServerSeed) :=
  startedHand session.hashes (dealerSource session.hashes draws)
    session.sessionId (session.after draws earlier) call

end OnchainSession

/-- Whatever the dealer draws, the same calls give this seed. -/
def PublicSeed (session : OnchainSession) (earlier : List SeedCall) (call : SeedCall)
    (seed : ServerSeed) : Prop :=
  ∀ draws : Nat → Bytes32, Function.Injective draws →
    ∃ hand, session.started draws earlier call = some hand ∧ hand.serverSeed = seed

/-- The seed of a hand that `call` starts is hidden. -/
structure SeedHidden (session : OnchainSession) (draws : Nat → Bytes32)
    (earlier : List SeedCall) (call : SeedCall) (hand : HandRecord Bytes32 ServerSeed) : Prop where
  distinct : ∀ other ∈ (session.after draws earlier).hands, other.serverSeed ≠ hand.serverSeed
  unrevealed : hand.serverSeed ∉ (session.after draws earlier).revealed
  secret : ¬ PublicSeed session earlier call hand.serverSeed

/-- The seeds of all hands of a run are hidden when the hands start. -/
def SeedsHidden (session : OnchainSession) (draws : Nat → Bytes32) (calls : List SeedCall) : Prop :=
  ∀ place call, calls[place]? = some call →
    ∀ hand, session.started draws (calls.take place) call = some hand →
      SeedHidden session draws (calls.take place) call hand

/-- Two hands of one batch, at one index and with one VRF word. -/
def SameDerivation {Secret Seed : Type}
    (hashes : Hashes) (hand other : HandRecord Secret Seed) : Prop :=
  other.batch = hand.batch ∧ other.handNumber % 256 = hand.handNumber % 256 ∧
    normalizeBytes32 hashes other.vrfWord = normalizeBytes32 hashes hand.vrfWord

/-- The dealer answered, and no earlier hand had the same derivation. -/
def FreshDerivation {Secret Seed : Type} (hashes : Hashes) (state : SeedState Secret Seed)
    (hand : HandRecord Secret Seed) : Prop :=
  hand.batch ≠ none ∧ ∀ other ∈ state.hands, ¬ SameDerivation hashes hand other

instance (hashes : Hashes) (hand other : HandRecord Bytes32 ServerSeed) :
    Decidable (SameDerivation hashes hand other) := by
  unfold SameDerivation
  infer_instance

instance (hashes : Hashes) (state : SeedState Bytes32 ServerSeed)
    (hand : HandRecord Bytes32 ServerSeed) : Decidable (FreshDerivation hashes state hand) := by
  unfold FreshDerivation
  infer_instance

section Hand

variable {session : OnchainSession} {draws : Nat → Bytes32}
variable {earlier : List SeedCall} {call : SeedCall}

/-- The symbolic state behind the real one. -/
def OnchainSession.symbolic (session : OnchainSession) (calls : List SeedCall) :
    SeedState Nat SymbolicSeed :=
  run session.hashes symbolicSource session.sessionId
    (.initially session.handNumber session.fulfillments) calls

theorem after_eq_map (session : OnchainSession) (draws : Nat → Bytes32) (calls : List SeedCall) :
    session.after draws calls =
      (session.symbolic calls).map draws (interpret session.hashes draws) :=
  run_map (symbolicSource_maps session.hashes draws) session.sessionId
    (.initially session.handNumber session.fulfillments) calls

theorem started_eq_map (session : OnchainSession) (draws : Nat → Bytes32)
    (earlier : List SeedCall) (call : SeedCall) : session.started draws earlier call =
    (startedHand session.hashes symbolicSource session.sessionId
        (session.symbolic earlier) call).map
      (HandRecord.map draws (interpret session.hashes draws)) := by
  unfold OnchainSession.started
  rw [after_eq_map]
  exact startedHand_map (symbolicSource_maps session.hashes draws)
      session.sessionId (session.symbolic earlier) call

/-- A symbolic hand that starts next to coherent earlier ones. -/
structure StartedSymbolic (hashes : Hashes) (state : SeedState Nat SymbolicSeed)
    (hand : HandRecord Nat SymbolicSeed) : Prop where
  derived : Derivation hashes hand
  others : ∀ other ∈ state.hands, Derivation hashes other
  apart : ∀ other ∈ state.hands, ∀ left right, other.batch = some left → hand.batch = some right →
        ∀ draw ∈ left.secrets, draw ∈ right.secrets → left = right
  revealed : ∀ seed ∈ state.revealed, ∃ other ∈ state.hands, other.serverSeed = seed

theorem startedSymbolic {symbolicHand : HandRecord Nat SymbolicSeed}
    (started : startedHand session.hashes symbolicSource session.sessionId
        (session.symbolic earlier) call = some symbolicHand) :
    StartedSymbolic session.hashes (session.symbolic earlier)
      symbolicHand := by
  have coherent : Coherent session.hashes (session.symbolic earlier) :=
    (Coherent.initially session.handNumber session.fulfillments).run earlier
  match call, started with
  | .beginHand vrfRead reply true, started =>
    simp only [startedHand, Option.some.injEq] at started
    obtain ⟨kept, hands, derived, seen⟩ :=
      prepareHand_spec coherent session.sessionId vrfRead reply
    rw [started] at derived seen
    refine ⟨derived, coherent.derived, ?_, coherent.revealed⟩
    intro other member left right batchLeft batchRight
    apply kept.apart left right
    · right
      rw [hands]
      exact ⟨other, member, batchLeft⟩
    · exact seen right batchRight

/-- Hands with equal symbolic seeds have the same derivation. -/
theorem StartedSymbolic.sameDerivation_iff {hashes : Hashes} {state : SeedState Nat SymbolicSeed}
    {hand other : HandRecord Nat SymbolicSeed} (begun : StartedSymbolic hashes state hand)
    (answered : hand.batch ≠ none) (member : other ∈ state.hands) :
    SameDerivation hashes hand other ↔ other.serverSeed = hand.serverSeed := by
  obtain ⟨batch, batchOf⟩ := Option.ne_none_iff_exists'.mp answered
  have derived := begun.derived
  simp only [Derivation, batchOf] at derived
  obtain ⟨draw, found, seed⟩ := derived
  constructor
  · rintro ⟨sameBatch, sameIndex, sameWord⟩
    have derivedOther := begun.others other member
    rw [batchOf] at sameBatch
    simp only [Derivation, sameBatch, sameIndex, sameWord] at derivedOther
    obtain ⟨drawOther, foundOther, seedOther⟩ := derivedOther
    rw [found, Option.some.injEq] at foundOther
    rw [seed, seedOther, foundOther]
  · intro same
    have derivedOther := begun.others other member
    cases batchOther : other.batch with
    | none =>
      simp only [Derivation, batchOther] at derivedOther
      obtain ⟨params, fallback⟩ := derivedOther
      rw [seed, fallback] at same
      cases same
    | some left =>
      simp only [Derivation, batchOther] at derivedOther
      obtain ⟨drawOther, foundOther, seedOther⟩ := derivedOther
      rw [seed, seedOther] at same
      simp only [SymbolicSeed.derived.injEq] at same
      obtain ⟨rfl, word, -, -, index⟩ := same
      have equal :=
        begun.apart other member left batch batchOther batchOf drawOther
          (List.mem_of_getElem? foundOther) (List.mem_of_getElem? found)
      refine ⟨?_, index, word⟩
      rw [batchOther, batchOf, equal]

/-- A seed is hidden exactly when its derivation is fresh. -/
theorem seedHidden_iff {hand : HandRecord Bytes32 ServerSeed}
    (collisionFree : session.hashes.CollisionFree) (distinct : Function.Injective draws)
    (started : session.started draws earlier call = some hand) :
    SeedHidden session draws earlier call hand ↔
      FreshDerivation session.hashes (session.after draws earlier) hand := by
  have image := started
  rw [started_eq_map, Option.map_eq_some_iff] at image
  obtain ⟨symbolicHand, begins, rfl⟩ := image
  have begun := startedSymbolic begins
  have handsOf : ∀ {other}, other ∈ (session.after draws earlier).hands ↔
        ∃ origin ∈ (session.symbolic earlier).hands,
          origin.map draws (interpret session.hashes draws) = other := by
    intro other
    rw [after_eq_map]
    exact List.mem_map
  have sameOf : ∀ {origin}, SameDerivation session.hashes
          (symbolicHand.map draws (interpret session.hashes draws))
          (origin.map draws (interpret session.hashes draws)) ↔
        SameDerivation session.hashes symbolicHand origin := by
    intro origin
    have batches : (origin.batch.map (DealerBatch.map draws) =
          symbolicHand.batch.map (DealerBatch.map draws)) ↔ origin.batch = symbolicHand.batch :=
      (Option.map_injective (DealerBatch.map_injective distinct)).eq_iff
    simp only [SameDerivation, HandRecord.map, batches]
  constructor
  · intro hidden
    have answered : symbolicHand.batch ≠ none := by
      intro unanswered
      apply hidden.secret
      intro others _
      refine ⟨symbolicHand.map others (interpret session.hashes others), ?_, ?_⟩
      · rw [started_eq_map, begins]
        rfl
      · have derived := begun.derived
        simp only [Derivation, unanswered] at derived
        obtain ⟨params, fallback⟩ := derived
        simp only [HandRecord.map, fallback, interpret]
    refine ⟨?_, ?_⟩
    · simpa [HandRecord.map] using answered
    · intro other member same
      obtain ⟨origin, inside, rfl⟩ := handsOf.mp member
      have equal := (begun.sameDerivation_iff answered inside).mp (sameOf.mp same)
      apply hidden.distinct _ member
      simp only [HandRecord.map, equal]
  · rintro ⟨mapped, fresh⟩
    have answered : symbolicHand.batch ≠ none := by
      simpa [HandRecord.map] using mapped
    obtain ⟨batch, batchOf⟩ := Option.ne_none_iff_exists'.mp answered
    have derived := begun.derived
    simp only [Derivation, batchOf] at derived
    obtain ⟨draw, found, seed⟩ := derived
    have apartFrom : ∀ origin ∈ (session.symbolic earlier).hands,
        interpret session.hashes draws origin.serverSeed ≠
          interpret session.hashes draws symbolicHand.serverSeed := by
      intro origin inside equal
      rw [seed] at equal
      have same := eq_derived_of_interpret_eq collisionFree distinct equal
      rw [← seed] at same
      exact fresh _ (handsOf.mpr ⟨origin, inside, rfl⟩) (sameOf.mpr
            ((begun.sameDerivation_iff answered inside).mpr same))
    constructor
    · intro other member
      obtain ⟨origin, inside, rfl⟩ := handsOf.mp member
      exact apartFrom origin inside
    · intro published
      rw [after_eq_map] at published
      obtain ⟨revealed, member, equal⟩ := List.mem_map.mp published
      obtain ⟨origin, inside, rfl⟩ := begun.revealed revealed member
      exact apartFrom origin inside equal
    · intro isPublic
      obtain ⟨other, again, equal⟩ :=
        isPublic (draws ∘ Equiv.swap draw (draw + 1)) (distinct.comp (Equiv.injective _))
      rw [started_eq_map, begins, Option.map_some, Option.some.injEq] at again
      subst again
      simp only [HandRecord.map, seed, interpret, handSeedV2,
        Function.comp_apply, Equiv.swap_apply_left, ServerSeed.derived.injEq] at equal
      have words := collisionFree _ _ equal
      simp only [List.cons.injEq, and_true, true_and] at words
      have next := distinct words
      omega

end Hand

/--
In every run, with the dealer down, restarted or answering at any point, all
seeds are hidden exactly when all derivations are fresh.
-/
theorem seedsHidden_iff
    {session : OnchainSession} {draws : Nat → Bytes32}
    {calls : List SeedCall}
    (collisionFree : session.hashes.CollisionFree)
    (distinct : Function.Injective draws) :
    SeedsHidden session draws calls ↔
      ∀ place call, calls[place]? = some call →
        ∀ hand, session.started draws (calls.take place) call = some hand →
          FreshDerivation session.hashes
            (session.after draws (calls.take place)) hand := by
  constructor
  · intro hidden place call found hand started
    exact
      (seedHidden_iff collisionFree distinct started).mp
        (hidden place call found hand started)
  · intro fresh place call found hand started
    exact
      (seedHidden_iff collisionFree distinct started).mpr
        (fresh place call found hand started)

/-! ## Two hands from the dealer, and one from the fallback -/

namespace Example

/-- Lists of words are hashed to their codes. -/
def hashes : Hashes where
  keccak256
    | .bytes raw => raw.sum
    | .words words => Encodable.encode words
  sha256 := String.length

theorem collisionFree_hashes : hashes.CollisionFree := by
  intro left right same
  exact Encodable.encode_injective same

def session : OnchainSession where
  hashes := hashes
  sessionId := "session"
  handNumber := 0
  fulfillments := []

/-- A batch, a VRF word, and two hands with a settlement between them. -/
def twoHands : List SeedCall :=
  [.commit "session" (some 0) (some 4), .fulfill "7", .beginHand true .answered true, .settleHand,
    .beginHand true .answered true]

/-- The hand that the call at `place` starts has a fresh derivation. -/
def freshAt (place : Nat) : Bool :=
  (twoHands[place]?).all fun call =>
    (session.started id (twoHands.take place) call).all fun hand =>
      decide (FreshDerivation hashes (session.after id (twoHands.take place)) hand)

end Example

theorem seedsHidden_iff_twoHands :
    SeedsHidden Example.session id Example.twoHands := by
  apply
    (seedsHidden_iff Example.collisionFree_hashes
      Function.injective_id).mpr
  have fresh : ∀ place < 5, Example.freshAt place = true := by
    decide +kernel
  intro place call found hand started
  have inside : place < 5 := (List.getElem?_eq_some_iff.mp found).1
  have checked := fresh place inside
  simp only [Example.freshAt, found, started, Option.all_some,
    decide_eq_true_eq] at checked
  exact checked

/-- A hand dealt while the dealer is unreachable has a public seed. -/
theorem exists_publicSeed :
    ¬ ∀ (session : OnchainSession) (draws : Nat → Bytes32)
        (calls : List SeedCall),
      session.hashes.CollisionFree → Function.Injective draws →
        SeedsHidden session draws calls := by
  intro hidden
  have seeds :=
    hidden Example.session id [.beginHand true .unreachable true]
      Example.collisionFree_hashes Function.injective_id
  have first := seeds 0 (.beginHand true .unreachable true) rfl _ rfl
  apply first.secret
  intro draws _
  exact ⟨_, rfl, rfl⟩

end Mozetto.Dealer
