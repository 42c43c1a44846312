import Mozetto.Dealer.HandSeeds

/-!
# Where hand seeds come from

A run of the dealer can be read symbolically: a secret is its position among
the dealer's draws, and a seed is what it was derived from.  Every run with
real hashes is the image of the symbolic one.  So a seed depends on the draws
exactly when the dealer derived it, and two derived seeds are equal exactly
when they come from the same secret, index and VRF word.
-/

namespace Mozetto.Dealer

open Mozetto.Chain
open Mozetto.Library.Mapping

/-! ## Images of runs -/

section Images

variable {Secret Seed Secret' Seed' : Type}
variable (onSecret : Secret → Secret') (onSeed : Seed → Seed')

def DealerBatch.map (batch : DealerBatch Secret) : DealerBatch Secret' where
  sessionIdBytes32 := batch.sessionIdBytes32
  randomnessEpoch := batch.randomnessEpoch
  secrets := batch.secrets.map onSecret

def HandRecord.map (hand : HandRecord Secret Seed) : HandRecord Secret' Seed' where
  handNumber := hand.handNumber
  vrfWord := hand.vrfWord
  batch := hand.batch.map (DealerBatch.map onSecret)
  serverSeed := onSeed hand.serverSeed

def SeedState.map (state : SeedState Secret Seed) : SeedState Secret' Seed' where
  batches := fun sessionId =>
    (state.batches sessionId).map (DealerBatch.map onSecret)
  drawn := state.drawn
  fulfillments := state.fulfillments
  handNumber := state.handNumber
  hands := state.hands.map (HandRecord.map onSecret onSeed)
  live := state.live.map onSeed
  revealed := state.revealed.map onSeed

/-- `target` is the image of `source`. -/
structure SeedSource.Maps (source : SeedSource Secret Seed) (target : SeedSource Secret' Seed') :
    Prop where
  randomBytes : ∀ place, target.randomBytes place = onSecret (source.randomBytes place)
  handSeed : ∀ secret vrfR sessionId epoch index,
      target.handSeed (onSecret secret) vrfR sessionId epoch index =
        onSeed (source.handSeed secret vrfR sessionId epoch index)
  fallbackHandSeed : ∀ params,
      target.fallbackHandSeed params = onSeed (source.fallbackHandSeed params)

variable {onSecret onSeed} {hashes : Hashes}
variable {source : SeedSource Secret Seed}
variable {target : SeedSource Secret' Seed'}
variable (maps : source.Maps onSecret onSeed target)

include maps

theorem createBatch_map (state : SeedState Secret Seed) (sessionId : String)
    (randomnessEpoch secretCount : Nat) :
    createBatch hashes target (state.map onSecret onSeed) sessionId randomnessEpoch secretCount =
      ((createBatch hashes source state sessionId randomnessEpoch
          secretCount).1.map onSecret onSeed,
        (createBatch hashes source state sessionId randomnessEpoch
          secretCount).2.map (DealerBatch.map onSecret)) := by
  have secrets : (List.range secretCount).map (fun i => target.randomBytes (state.drawn + i)) =
      ((List.range secretCount).map
        (fun i => source.randomBytes (state.drawn + i))).map onSecret := by
    rw [List.map_map]
    apply List.map_congr_left
    intro i _
    exact maps.randomBytes _
  by_cases fits : randomnessEpoch < uint64Size
  · simp only [createBatch, SeedState.map, fits, if_true, secrets,
      Option.map_some, DealerBatch.map, Prod.mk.injEq, SeedState.mk.injEq, and_true]
    funext other
    by_cases same : other = sessionId
    · simp [write, same, DealerBatch.map]
    · simp [write, same]
  · simp only [createBatch, SeedState.map, fits, if_false, Option.map_none]

theorem resolveBatch_map (state : SeedState Secret Seed) (sessionId : String) :
    resolveBatch hashes target (state.map onSecret onSeed) sessionId =
      ((resolveBatch hashes source state sessionId).1.map onSecret onSeed,
        (resolveBatch hashes source state sessionId).2.map (DealerBatch.map onSecret)) := by
  cases held : state.batches sessionId with
  | none =>
    simp only [resolveBatch, SeedState.map, held, Option.map_none]
    exact createBatch_map maps state sessionId 0 defaultBatchSize
  | some batch =>
    simp only [resolveBatch, SeedState.map, held, Option.map_some]

theorem deriveHandSeed_map (batch : DealerBatch Secret) (params : HandSeedParams) :
    deriveHandSeed hashes target (batch.map onSecret) params =
      (deriveHandSeed hashes source batch params).map onSeed := by
  simp only [deriveHandSeed, DealerBatch.map, List.getElem?_map, Option.map_map]
  congr 1
  funext secret
  exact maps.handSeed _ _ _ _ _

theorem answerHandSeed_map (state : SeedState Secret Seed) (params : HandSeedParams) :
    answerHandSeed hashes target (state.map onSecret onSeed) params =
      ((answerHandSeed hashes source state params).1.map onSecret onSeed,
        (answerHandSeed hashes source state params).2.map
          (Prod.map (DealerBatch.map onSecret) onSeed)) := by
  by_cases refused :
      params.sessionId = "" ∨ params.vrfWord = "" ∨ 255 < params.secretIndex
  · simp only [answerHandSeed, refused, if_true, Option.map_none]
  · simp only [answerHandSeed, refused, if_false, resolveBatch_map maps state params.sessionId]
    rcases resolveBatch hashes source state params.sessionId with ⟨resolved, none | batch⟩
    · rfl
    · simp only [Option.map_some, deriveHandSeed_map maps batch params, Option.map_map]
      rfl

theorem fetchHandSeed_map (state : SeedState Secret Seed) (params : HandSeedParams)
    (reply : DealerReply) : fetchHandSeed hashes target (state.map onSecret onSeed) params reply =
    ((fetchHandSeed hashes source state params reply).1.map onSecret onSeed,
      (fetchHandSeed hashes source state params reply).2.map
        (Prod.map (DealerBatch.map onSecret) onSeed)) := by
  cases reply with
  | unreachable => rfl
  | lost =>
    simp only [fetchHandSeed, answerHandSeed_map maps state params, Option.map_none]
  | answered => exact answerHandSeed_map maps state params

theorem prepareHand_map (sessionId : String) (state : SeedState Secret Seed) (vrfRead : Bool)
    (reply : DealerReply) : prepareHand hashes target sessionId (state.map onSecret onSeed) vrfRead
      reply = ((prepareHand hashes source sessionId state vrfRead reply).1.map onSecret onSeed,
      (prepareHand hashes source sessionId state vrfRead reply).2.map onSecret onSeed) := by
  have params : handSeedParams sessionId (state.map onSecret onSeed) vrfRead =
      handSeedParams sessionId state vrfRead := rfl
  simp only [prepareHand, params,
    fetchHandSeed_map maps state (handSeedParams sessionId state vrfRead) reply]
  rcases fetchHandSeed hashes source state (handSeedParams sessionId state vrfRead) reply with
    ⟨asked, none | ⟨batch, handSeed⟩⟩
  · simp only [Option.map_none, HandRecord.map, maps.fallbackHandSeed]
  · rfl

/-- The hand a call starts in the image is the image of the hand. -/
theorem startedHand_map (sessionId : String) (state : SeedState Secret Seed) (call : SeedCall) :
    startedHand hashes target sessionId (state.map onSecret onSeed) call =
      (startedHand hashes source sessionId state call).map (HandRecord.map onSecret onSeed) := by
  cases call with
  | beginHand vrfRead reply inserted =>
    cases inserted with
    | false => rfl
    | true =>
      simp only [startedHand, prepareHand_map maps, Option.map_some]
  | _ => rfl

theorem step_map (sessionId : String) (state : SeedState Secret Seed) (call : SeedCall) :
    step hashes target sessionId (state.map onSecret onSeed) call =
      (step hashes source sessionId state call).map onSecret onSeed := by
  cases call with
  | commit committed randomnessEpoch secretCount =>
    simp only [step, createBatch_map maps]
    split <;> rfl
  | resolve resolved =>
    simp only [step, resolveBatch_map maps]
    split <;> rfl
  | restartDealer => rfl
  | fulfill vrfWord => rfl
  | beginHand vrfRead reply inserted =>
    simp only [step, prepareHand_map maps]
    cases inserted <;> rfl
  | settleHand =>
    simp only [step, SeedState.map, List.map_append, Option.map_none,
      SeedState.mk.injEq, true_and]
    cases state.live <;> rfl
  | resetToWaiting => rfl

theorem run_map (sessionId : String) (state : SeedState Secret Seed) (calls : List SeedCall) :
    run hashes target sessionId (state.map onSecret onSeed) calls =
      (run hashes source sessionId state calls).map onSecret onSeed := by
  induction calls generalizing state with
  | nil => rfl
  | cons call rest induction =>
    simp only [run, List.foldl_cons] at induction ⊢
    rw [step_map maps, induction]

end Images

/-! ## The symbolic reading -/

/-- What a seed was derived from; `draw` is the position of the secret. -/
inductive SymbolicSeed where
  | derived (draw : Nat) (vrfR sessionId : Bytes32) (epoch index : Nat)
  | fallback (params : HandSeedParams)
deriving DecidableEq

def symbolicSource : SeedSource Nat SymbolicSeed where
  randomBytes := id
  handSeed := .derived
  fallbackHandSeed := .fallback

/-- The seed that a symbolic one stands for under given draws. -/
def interpret (hashes : Hashes) (draws : Nat → Bytes32) : SymbolicSeed → ServerSeed
  | .derived draw vrfR sessionId epoch index =>
      handSeedV2 hashes (draws draw) vrfR sessionId epoch index
  | .fallback params => fallbackHandSeed hashes params

theorem symbolicSource_maps (hashes : Hashes) (draws : Nat → Bytes32) :
    symbolicSource.Maps draws (interpret hashes draws) (dealerSource hashes draws) where
  randomBytes := fun _ => rfl
  handSeed := fun _ _ _ _ _ => rfl
  fallbackHandSeed := fun _ => rfl

/-- Distinct lists of words have distinct hashes. -/
def Hashes.CollisionFree (hashes : Hashes) : Prop :=
  ∀ left right, hashes.keccak256 (.words left) = hashes.keccak256 (.words right) → left = right

section Symbolic

variable {hashes : Hashes} {draws : Nat → Bytes32} {sessionId : String}

/-- A derived seed tells what it was derived from. -/
theorem eq_derived_of_interpret_eq (collisionFree : hashes.CollisionFree)
    (distinct : Function.Injective draws) {draw : Nat} {vrfR session : Bytes32} {epoch index : Nat}
    {other : SymbolicSeed}
    (same : interpret hashes draws other =
        interpret hashes draws (.derived draw vrfR session epoch index)) :
    other = .derived draw vrfR session epoch index := by
  cases other with
  | derived draw' vrfR' session' epoch' index' =>
    simp only [interpret, handSeedV2, ServerSeed.derived.injEq] at same
    have words := collisionFree _ _ same
    simp only [List.cons.injEq, and_true, true_and] at words
    obtain ⟨secret, rfl, rfl, rfl, rfl⟩ := words
    rw [distinct secret]
  | fallback params => cases same

theorem DealerBatch.map_injective (distinct : Function.Injective draws) :
    Function.Injective (DealerBatch.map draws) := by
  rintro ⟨session, epoch, secrets⟩ ⟨session', epoch', secrets'⟩ same
  simp only [DealerBatch.map, DealerBatch.mk.injEq] at same
  obtain ⟨rfl, rfl, secretsEqual⟩ := same
  rw [List.map_injective_iff.mpr distinct secretsEqual]

/-- Batches the dealer has, or has answered a hand from. -/
def Seen {Secret Seed : Type} (state : SeedState Secret Seed) (batch : DealerBatch Secret) : Prop :=
  (∃ session, state.batches session = some batch) ∨ ∃ hand ∈ state.hands, hand.batch = some batch

/-- How the seed of a hand was derived. -/
def Derivation (hashes : Hashes) (hand : HandRecord Nat SymbolicSeed) : Prop :=
  match hand.batch with
  | none => ∃ params, hand.serverSeed = .fallback params
  | some batch =>
      ∃ draw, batch.secrets[hand.handNumber % 256]? = some draw ∧ hand.serverSeed =
          .derived draw (normalizeBytes32 hashes hand.vrfWord)
            batch.sessionIdBytes32 batch.randomnessEpoch (hand.handNumber % 256)

/--
What holds along symbolic runs: batches never share a draw, every seed has
its derivation, and only seeds of started hands are revealed.
-/
structure Coherent (hashes : Hashes) (state : SeedState Nat SymbolicSeed) : Prop where
  drawn : ∀ batch, Seen state batch → ∀ draw ∈ batch.secrets, draw < state.drawn
  apart : ∀ left right, Seen state left → Seen state right →
      ∀ draw ∈ left.secrets, draw ∈ right.secrets → left = right
  derived : ∀ hand ∈ state.hands, Derivation hashes hand
  live : ∀ seed, state.live = some seed → ∃ hand ∈ state.hands, hand.serverSeed = seed
  revealed : ∀ seed ∈ state.revealed, ∃ hand ∈ state.hands, hand.serverSeed = seed

namespace Coherent

variable {state : SeedState Nat SymbolicSeed}

theorem initially (handNumber : Nat) (fulfillments : List String) :
    Coherent hashes (.initially handNumber fulfillments) where
  drawn := by
    rintro batch (⟨session, held⟩ | ⟨hand, member, -⟩)
    · cases held
    · cases member
  apart := by
    rintro left right (⟨session, held⟩ | ⟨hand, member, -⟩)
    · cases held
    · cases member
  derived := by
    intro hand member
    cases member
  live := by
    intro seed alive
    cases alive
  revealed := by
    intro seed member
    cases member

/-- A new batch takes fresh draws only. -/
theorem createBatch (coherent : Coherent hashes state) (session : String)
    (randomnessEpoch secretCount : Nat) : Coherent hashes
    (createBatch hashes symbolicSource state session randomnessEpoch secretCount).1 := by
  by_cases fits : randomnessEpoch < uint64Size
  · simp only [Dealer.createBatch, fits, if_true]
    have fresh : ∀ draw ∈ (List.range secretCount).map
          (fun i => symbolicSource.randomBytes (state.drawn + i)),
        state.drawn ≤ draw ∧ draw < state.drawn + secretCount := by
      intro draw member
      obtain ⟨i, inside, rfl⟩ := List.mem_map.mp member
      have bound := List.mem_range.mp inside
      simp only [symbolicSource, id]
      omega
    have classify :
        ∀ {batch : DealerBatch Nat} {batches : String → Option (DealerBatch Nat)}
          {created : DealerBatch Nat}, batches = write state.batches session (some created) →
            Seen { state with
              drawn := state.drawn + secretCount
              batches := batches } batch →
              batch = created ∨ Seen state batch := by
      rintro batch batches created rfl (⟨other, held⟩ | ⟨hand, member, answered⟩)
      · by_cases same : other = session
        · left
          simpa [same, eq_comm] using held
        · right
          exact Or.inl ⟨other, by simpa [write, same] using held⟩
      · exact Or.inr (Or.inr ⟨hand, member, answered⟩)
    constructor
    · intro batch seen draw member
      rcases classify rfl seen with rfl | before
      · exact (fresh draw member).2
      · have bound := coherent.drawn batch before draw member
        show draw < state.drawn + secretCount
        omega
    · intro left right seenLeft seenRight draw inLeft inRight
      rcases classify rfl seenLeft with rfl | beforeLeft
      · rcases classify rfl seenRight with rfl | beforeRight
        · rfl
        · have bound := coherent.drawn right beforeRight draw inRight
          have new := (fresh draw inLeft).1
          omega
      · rcases classify rfl seenRight with rfl | beforeRight
        · have bound := coherent.drawn left beforeLeft draw inLeft
          have new := (fresh draw inRight).1
          omega
        · exact coherent.apart left right beforeLeft beforeRight draw inLeft inRight
    · exact coherent.derived
    · exact coherent.live
    · exact coherent.revealed
  · simp only [Dealer.createBatch, fits, if_false]
    refine ⟨?_, coherent.apart, coherent.derived, coherent.live, coherent.revealed⟩
    intro batch seen draw member
    have bound := coherent.drawn batch seen draw member
    show draw < state.drawn + secretCount
    omega

theorem resolveBatch (coherent : Coherent hashes state) (session : String) : Coherent hashes
    (resolveBatch hashes symbolicSource state session).1 := by
  cases held : state.batches session with
  | some batch =>
    simp only [Dealer.resolveBatch, held]
    exact coherent
  | none =>
    simp only [Dealer.resolveBatch, held]
    exact coherent.createBatch session 0 defaultBatchSize

end Coherent

/-- A resolved batch is the one the dealer now has for the session. -/
theorem held_of_resolveBatch {Secret Seed : Type} {source : SeedSource Secret Seed}
    {state : SeedState Secret Seed} {session : String} {batch : DealerBatch Secret}
    (resolved : (resolveBatch hashes source state session).2 = some batch) :
    (resolveBatch hashes source state session).1.batches session =
      some batch := by
  cases held : state.batches session with
  | some present =>
    simp only [resolveBatch, held] at resolved ⊢
    exact resolved
  | none =>
    by_cases fits : (0 : Nat) < uint64Size
    · simp only [resolveBatch, held, createBatch, fits, if_true] at resolved ⊢
      rw [write_self]
      exact resolved
    · simp [resolveBatch, held, createBatch, fits] at resolved

/-- Resolving a batch does not touch the hands. -/
theorem hands_of_resolveBatch {Secret Seed : Type} (source : SeedSource Secret Seed)
    (state : SeedState Secret Seed) (session : String) :
    (resolveBatch hashes source state session).1.hands = state.hands := by
  unfold resolveBatch createBatch
  cases state.batches session with
  | some batch => rfl
  | none => simp only; split <;> rfl

/-- What an answered request returns. -/
structure Answered (hashes : Hashes) (state : SeedState Nat SymbolicSeed)
    (params : HandSeedParams) (batch : DealerBatch Nat) (handSeed : SymbolicSeed) : Prop where
  held : ∃ session, state.batches session = some batch
  derived : ∃ draw, batch.secrets[params.secretIndex]? = some draw ∧ handSeed =
        .derived draw (normalizeBytes32 hashes params.vrfWord)
          batch.sessionIdBytes32 batch.randomnessEpoch params.secretIndex

theorem answerHandSeed_spec {state : SeedState Nat SymbolicSeed}
    (coherent : Coherent hashes state) (params : HandSeedParams) :
    Coherent hashes (answerHandSeed hashes symbolicSource state params).1 ∧
      (answerHandSeed hashes symbolicSource state params).1.hands = state.hands ∧ ∀ answer,
        (answerHandSeed hashes symbolicSource state params).2 = some answer → Answered hashes
            (answerHandSeed hashes symbolicSource state params).1 params answer.1 answer.2 := by
  by_cases refused :
      params.sessionId = "" ∨ params.vrfWord = "" ∨ 255 < params.secretIndex
  · simp only [answerHandSeed, refused, if_true]
    refine ⟨coherent, trivial, ?_⟩
    intro answer none
    cases none
  · have kept := coherent.resolveBatch params.sessionId
    have hands : (resolveBatch hashes symbolicSource state params.sessionId).1.hands =
        state.hands :=
      hands_of_resolveBatch _ _ _
    have present : ∀ {batch}, (resolveBatch hashes symbolicSource state params.sessionId).2 =
            some batch → (resolveBatch hashes symbolicSource state
              params.sessionId).1.batches params.sessionId = some batch := held_of_resolveBatch
    simp only [answerHandSeed, refused, if_false]
    cases resolved : resolveBatch hashes symbolicSource state params.sessionId with
    | mk asked found =>
      simp only [resolved] at kept hands present
      cases found with
      | none =>
        refine ⟨kept, hands, ?_⟩
        intro answer none
        cases none
      | some batch =>
        have held : asked.batches params.sessionId = some batch := present rfl
        refine ⟨kept, hands, ?_⟩
        rintro ⟨answered, handSeed⟩ equal
        simp only [Option.map_eq_some_iff, Prod.mk.injEq] at equal
        obtain ⟨seed, derived, rfl, rfl⟩ := equal
        simp only [deriveHandSeed, Option.map_eq_some_iff] at derived
        obtain ⟨draw, found, rfl⟩ := derived
        exact ⟨⟨params.sessionId, held⟩, draw, found, rfl⟩

theorem fetchHandSeed_spec {state : SeedState Nat SymbolicSeed}
    (coherent : Coherent hashes state) (params : HandSeedParams) (reply : DealerReply) :
    Coherent hashes (fetchHandSeed hashes symbolicSource state params reply).1 ∧
      (fetchHandSeed hashes symbolicSource state params reply).1.hands = state.hands ∧ ∀ answer,
        (fetchHandSeed hashes symbolicSource state params reply).2 = some answer → Answered hashes
            (fetchHandSeed hashes symbolicSource state params reply).1
            params answer.1 answer.2 := by
  cases reply with
  | unreachable =>
    refine ⟨coherent, rfl, ?_⟩
    intro answer none
    cases none
  | lost =>
    obtain ⟨kept, hands, -⟩ := answerHandSeed_spec coherent params
    refine ⟨kept, hands, ?_⟩
    intro answer none
    cases none
  | answered => exact answerHandSeed_spec coherent params

/-- A prepared hand has its derivation, from a batch the dealer has. -/
theorem prepareHand_spec {state : SeedState Nat SymbolicSeed}
    (coherent : Coherent hashes state) (sessionId : String) (vrfRead : Bool) (reply : DealerReply) :
    Coherent hashes (prepareHand hashes symbolicSource sessionId state vrfRead reply).1 ∧
      (prepareHand hashes symbolicSource sessionId state vrfRead reply).1.hands = state.hands ∧
      Derivation hashes (prepareHand hashes symbolicSource sessionId state vrfRead reply).2 ∧
      ∀ batch, (prepareHand hashes symbolicSource sessionId state vrfRead
            reply).2.batch = some batch → Seen
            (prepareHand hashes symbolicSource sessionId state vrfRead reply).1
            batch := by
  obtain ⟨kept, hands, answers⟩ :=
    fetchHandSeed_spec coherent (handSeedParams sessionId state vrfRead) reply
  simp only [prepareHand]
  cases fetched : fetchHandSeed hashes symbolicSource state
      (handSeedParams sessionId state vrfRead) reply with
  | mk asked fromDealer =>
    rw [fetched] at kept hands answers
    refine ⟨kept, hands, ?_, ?_⟩
    · cases fromDealer with
      | none => exact ⟨_, rfl⟩
      | some answer => exact (answers answer rfl).derived
    · intro batch equal
      cases fromDealer with
      | none => cases equal
      | some answer =>
        simp only [Option.map_some, Option.some.injEq] at equal
        subst equal
        exact Or.inl (answers answer rfl).held

namespace Coherent

variable {state : SeedState Nat SymbolicSeed}

/-- Appending a prepared hand. -/
theorem cons {hand : HandRecord Nat SymbolicSeed}
    (coherent : Coherent hashes state) (derived : Derivation hashes hand)
    (seen : ∀ batch, hand.batch = some batch → Seen state batch) :
    Coherent hashes
      { state with
        handNumber := hand.handNumber
        hands := hand :: state.hands
        live := some hand.serverSeed } := by
  have before :
      ∀ {batch : DealerBatch Nat},
        Seen { state with
          handNumber := hand.handNumber
          hands := hand :: state.hands
          live := some hand.serverSeed } batch → Seen state batch := by
    rintro batch (held | ⟨other, member, answered⟩)
    · exact Or.inl held
    · rcases List.mem_cons.mp member with rfl | member
      · exact seen batch answered
      · exact Or.inr ⟨other, member, answered⟩
  constructor
  · intro batch present
    exact coherent.drawn batch (before present)
  · intro left right inLeft inRight
    exact coherent.apart left right (before inLeft) (before inRight)
  · intro other member
    rcases List.mem_cons.mp member with rfl | member
    · exact derived
    · exact coherent.derived other member
  · intro seed alive
    simp only [Option.some.injEq] at alive
    exact ⟨hand, List.mem_cons_self, alive⟩
  · intro seed member
    obtain ⟨other, inside, equal⟩ := coherent.revealed seed member
    exact ⟨other, List.mem_cons_of_mem _ inside, equal⟩

/-- Without a live hand nothing else changes. -/
theorem quit (coherent : Coherent hashes state) : Coherent hashes { state with live := none } where
  drawn := coherent.drawn
  apart := coherent.apart
  derived := coherent.derived
  live := by
    intro seed alive
    cases alive
  revealed := coherent.revealed

theorem step (coherent : Coherent hashes state) (call : SeedCall) : Coherent hashes
    (step hashes symbolicSource sessionId state call) := by
  cases call with
  | commit committed randomnessEpoch secretCount =>
    simp only [Dealer.step]
    split
    · exact coherent
    · exact coherent.createBatch _ _ _
  | resolve resolved =>
    simp only [Dealer.step]
    split
    · exact coherent
    · exact coherent.resolveBatch _
  | restartDealer =>
    have before :
        ∀ {batch : DealerBatch Nat}, Seen { state with batches := fun _ => none } batch →
            Seen state batch := by
      rintro batch (⟨session, held⟩ | played)
      · cases held
      · exact Or.inr played
    exact ⟨fun batch seen => coherent.drawn batch (before seen), fun left right inLeft inRight =>
          coherent.apart left right (before inLeft) (before inRight),
        coherent.derived, coherent.live, coherent.revealed⟩
  | fulfill vrfWord =>
    exact ⟨coherent.drawn, coherent.apart, coherent.derived, coherent.live, coherent.revealed⟩
  | beginHand vrfRead reply inserted =>
    obtain ⟨kept, hands, derived, seen⟩ := prepareHand_spec coherent sessionId vrfRead reply
    cases inserted with
    | true => exact kept.cons derived seen
    | false => exact kept.quit
  | settleHand =>
    refine ⟨coherent.drawn, coherent.apart, coherent.derived, ?_, ?_⟩
    · intro seed alive
      cases alive
    · intro seed member
      rcases List.mem_append.mp member with alive | member
      · exact coherent.live seed (by simpa using alive)
      · exact coherent.revealed seed member
  | resetToWaiting => exact coherent.quit

theorem run (coherent : Coherent hashes state) (calls : List SeedCall) : Coherent hashes
    (run hashes symbolicSource sessionId state calls) := by
  induction calls generalizing state with
  | nil => exact coherent
  | cons call rest induction => exact induction (coherent.step call)

end Coherent

end Symbolic

end Mozetto.Dealer
