import Mozetto.Commitments.Merkle
import Mozetto.Dealer.HandSeeds

/-!
# Committed decks

The deck library of the dealers: hand seeds, the shuffle, the leaves of secrets
and cards, and the openings of single cards.  Every hash is one of words.  A
shuffle draws until a sample is not rejected, for which it gets so much fuel;
with none left it does not return.
-/

namespace Mozetto.DealerEnclave

open Mozetto.Chain
open Mozetto.Commitments
open Mozetto.Dealer (Hashes HashInput)

/-- A call that throws, or does not return. -/
inductive Failure where
  | threw (message : String)
  | endless
deriving DecidableEq, Repr

section Library

variable (hashes : Hashes)

/-! ## Hashes -/

def domainTag (domainString : String) : Bytes32 := hashes.keccak256 (.bytes (utf8 domainString))

def secretLeaf (sessionId : Bytes32) (randomnessEpoch index : Nat) (secret : Bytes32) : Bytes32 :=
  hashes.keccak256 (.words
      [domainTag hashes "MOZETTO_SECRET_LEAF_V1", sessionId, randomnessEpoch, index, secret])

def handSeedV2 (secret vrfR sessionId : Bytes32) (epoch index : Nat) :
    Bytes32 :=
  hashes.keccak256 (.words
      [domainTag hashes "MOZETTO_HAND_SEED_V1", secret, vrfR, sessionId, epoch, index])

def deriveHandId (sessionId : Bytes32) (epoch handNumber : Nat) : Bytes32 :=
  hashes.keccak256 (.words
      [domainTag hashes "MOZETTO_HAND_ID_V1", sessionId, epoch, handNumber])

def cardLeaf (handId : Bytes32) (position cardCode : Nat) (cardSalt : Bytes32) : Bytes32 :=
  hashes.keccak256 (.words
      [domainTag hashes "MOZETTO_CARD_LEAF_V1", handId, position, cardCode, cardSalt])

/-- `bytes32("MOZETTO_CARD_SALT_V1")`, filled up with zeros on the right. -/
def CARD_SALT_DOMAIN : Bytes32 :=
  (utf8 "MOZETTO_CARD_SALT_V1" ++ List.replicate 12 0).foldl
    (fun value byte => value * 256 + byte) 0

def productionCardSalt (handSeed : Bytes32) (position : Nat) : Bytes32 :=
  hashes.keccak256 (.words [handSeed, position, CARD_SALT_DOMAIN])

/-! ## Merkle trees -/

/-- The hash of two words, one after the other. -/
def parent (left right : Bytes32) : Bytes32 := hashes.keccak256 (.words [left, right])

def merkleRoot (leaves : List Bytes32) : Bytes32 := WordTree.merkleRoot (parent hashes) leaves

def merkleProof (leaves : List Bytes32) (index : Nat) : List (Bytes32 × Bool) :=
  WordTree.merkleProof (parent hashes) leaves index

def verifyMerkleProof (leaf : Bytes32) (proof : List (Bytes32 × Bool))
    (expectedRoot : Bytes32) : Bool :=
  WordTree.verifyMerkleProof (parent hashes) leaf proof expectedRoot

/-! ## Shuffles -/

/-- The words of 32 bits of the stream, eight to a block. -/
def uint32At (handSeed : Bytes32) (draw : Nat) : Nat :=
  hashes.keccak256 (.words [handSeed, draw / 8]) / 2 ^ (32 * (7 - draw % 8)) % 2 ^ 32

/-- A sample below a bound, and the number of words drawn. -/
def uniformBelow (nextUint32 : Nat → Nat) (bound : Nat) : Nat → Nat → Option (Nat × Nat)
  | 0, _ => none
  | fuel + 1, draw =>
      if nextUint32 draw < 2 ^ 32 / bound * bound then
        some (nextUint32 draw % bound, draw + 1)
      else uniformBelow nextUint32 bound fuel (draw + 1)

def swapped (deck : List Nat) (i j : Nat) : List Nat :=
  (deck.set i (deck.getD j 0)).set j (deck.getD i 0)

/-- The loop from `i` down to one. -/
def shuffleFrom (nextUint32 : Nat → Nat) (fuel : Nat) : Nat → Nat → List Nat → Option (List Nat)
  | 0, _, deck => some deck
  | i + 1, draw, deck =>
      match uniformBelow nextUint32 (i + 2) fuel draw with
      | none => none
      | some (j, next) =>
          shuffleFrom nextUint32 fuel i next (swapped deck (i + 1) j)

abbrev DECK_SIZE : Nat := 52

def shuffleDeckV2 (fuel : Nat) (handSeed : Bytes32) : Option (List Nat) :=
  shuffleFrom (uint32At hashes handSeed) fuel (DECK_SIZE - 1) 0 (List.range DECK_SIZE)

/-- The loop of `assertValidDeck` over the cards, with those seen so far. -/
def assertUnseen : List Nat → List Nat → Except Failure Unit
  | [], _ => .ok ()
  | code :: rest, seen =>
      if DECK_SIZE ≤ code then .error (.threw s!"invalid card code {code}")
      else if seen.contains code then
        .error (.threw s!"duplicate card code {code}")
      else assertUnseen rest (code :: seen)

def assertValidDeck (deck : List Nat) : Except Failure Unit :=
  if deck.length ≠ DECK_SIZE then
    .error (.threw s!"deck length {deck.length} !== {DECK_SIZE}")
  else assertUnseen deck []

/-! ## Decks -/

structure PreparedHandDeck where
  handId : Bytes32
  handSeed : Bytes32
  index : Nat
  deck : List Nat
  cardSalts : List Bytes32
  cardLeaves : List Bytes32
  deckRoot : Bytes32
deriving DecidableEq

structure CardOpening where
  position : Nat
  cardCode : Nat
  cardSalt : Bytes32
  cardLeaf : Bytes32
  proof : List (Bytes32 × Bool)
deriving DecidableEq

def buildSecretLeaves (sessionId : Bytes32) (randomnessEpoch : Nat)
    (secrets : List Bytes32) : List Bytes32 :=
  secrets.mapIdx fun index secret =>
    secretLeaf hashes sessionId randomnessEpoch index secret

def cardSaltsForDeck (handSeed : Bytes32) (count : Nat) : List Bytes32 :=
  (List.range count).map (productionCardSalt hashes handSeed)

def buildCardLeaves (handId : Bytes32) (deck : List Nat) (salts : List Bytes32) : List Bytes32 :=
  (deck.zip salts).mapIdx fun position card =>
    cardLeaf hashes handId position card.1 card.2

def prepareHandDeck (fuel : Nat) (handId handSeed : Bytes32) (index : Nat) :
    Except Failure PreparedHandDeck :=
  match shuffleDeckV2 hashes fuel handSeed with
  | none => .error .endless
  | some deck => do
      assertValidDeck deck
      let cardSalts := cardSaltsForDeck hashes handSeed deck.length
      let cardLeaves := buildCardLeaves hashes handId deck cardSalts
      return {
        handId := handId
        handSeed := handSeed
        index := index
        deck := deck
        cardSalts := cardSalts
        cardLeaves := cardLeaves
        deckRoot := merkleRoot hashes cardLeaves }

/-- The card of a position, with the proof of its leaf. -/
def openingAt (prepared : PreparedHandDeck) (position : Nat) : CardOpening where
  position := position
  cardCode := prepared.deck.getD position 0
  cardSalt := prepared.cardSalts.getD position 0
  cardLeaf :=
    cardLeaf hashes prepared.handId position (prepared.deck.getD position 0)
      (prepared.cardSalts.getD position 0)
  proof :=
    merkleProof hashes (buildCardLeaves hashes prepared.handId prepared.deck prepared.cardSalts)
      position

def openCard (prepared : PreparedHandDeck) (position : Nat) :
    Except Failure CardOpening :=
  let opening := openingAt hashes prepared position
  if prepared.deck.length ≤ position then
    .error (.threw s!"position out of range: {position}")
  else if verifyMerkleProof hashes opening.cardLeaf opening.proof prepared.deckRoot then
    .ok opening
  else .error (.threw "internal: opening proof does not verify")

end Library

/-! ## Openings verify -/

section Proofs

variable {hashes : Hashes}

/-- A prepared deck, by its parts. -/
structure Prepared (hashes : Hashes) (handId handSeed : Bytes32)
    (prepared : PreparedHandDeck) : Prop where
  length : prepared.deck.length = DECK_SIZE
  nodup : prepared.deck.Nodup
  handId : prepared.handId = handId
  handSeed : prepared.handSeed = handSeed
  cardSalts : prepared.cardSalts = cardSaltsForDeck hashes prepared.handSeed prepared.deck.length
  cardLeaves : prepared.cardLeaves =
      buildCardLeaves hashes prepared.handId prepared.deck prepared.cardSalts
  deckRoot : prepared.deckRoot = merkleRoot hashes prepared.cardLeaves

/-- Cards that pass are new and differ from each other. -/
theorem nodup_of_assertUnseen {deck seen : List Nat} (valid : assertUnseen deck seen = .ok ()) :
    deck.Nodup ∧ ∀ code ∈ deck, code ∉ seen := by
  induction deck generalizing seen with
  | nil => exact ⟨List.nodup_nil, fun _ member => absurd member List.not_mem_nil⟩
  | cons code rest induction =>
    rw [assertUnseen] at valid
    split at valid
    · cases valid
    · split at valid
      · cases valid
      · rename_i unseen
        rcases induction valid with ⟨nodup, new⟩
        have first : code ∉ rest := fun member =>
          new code member List.mem_cons_self
        refine ⟨List.nodup_cons.mpr ⟨first, nodup⟩, ?_⟩
        intro other member known
        rcases List.mem_cons.mp member with rfl | later
        · exact unseen (List.contains_iff_mem.mpr known)
        · exact new other later (List.mem_cons_of_mem _ known)

theorem valid_of_assertValidDeck {deck : List Nat} (valid : assertValidDeck deck = .ok ()) :
    deck.length = DECK_SIZE ∧ deck.Nodup := by
  rw [assertValidDeck] at valid
  split at valid
  · cases valid
  · rename_i length
    exact ⟨not_not.mp length, (nodup_of_assertUnseen valid).1⟩

theorem prepared_of_prepareHandDeck {fuel index : Nat} {handId handSeed : Bytes32}
    {prepared : PreparedHandDeck}
    (made : prepareHandDeck hashes fuel handId handSeed index = .ok prepared) :
    Prepared hashes handId handSeed prepared := by
  rw [prepareHandDeck] at made
  cases shuffled : shuffleDeckV2 hashes fuel handSeed with
  | none =>
    rw [shuffled] at made
    cases made
  | some deck =>
    rw [shuffled] at made
    cases valid : assertValidDeck deck with
    | error failure =>
      simp only [valid] at made
      cases made
    | ok checked =>
      simp only [valid] at made
      cases made
      rcases valid_of_assertValidDeck valid with ⟨length, nodup⟩
      exact ⟨length, nodup, rfl, rfl, rfl, rfl, rfl⟩

/-- The self-check of an opening never fails on a prepared deck. -/
theorem openCard_of_prepared
    {handId handSeed : Bytes32} {prepared : PreparedHandDeck} {position : Nat}
    (made : Prepared hashes handId handSeed prepared) (inside : position < DECK_SIZE) :
    openCard hashes prepared position = .ok (openingAt hashes prepared position) := by
  have bound : position < prepared.deck.length := by
    rw [made.length]
    exact inside
  have salted : position < prepared.cardSalts.length := by
    rw [made.cardSalts, cardSaltsForDeck, List.length_map, List.length_range]
    exact bound
  have given : prepared.cardLeaves[position]? =
      some (openingAt hashes prepared position).cardLeaf := by
    have both : position < (prepared.deck.zip prepared.cardSalts).length := by
      rw [List.length_zip]
      exact lt_min bound salted
    rw [made.cardLeaves, buildCardLeaves, List.getElem?_mapIdx,
      List.getElem?_eq_getElem both, List.getElem_zip, Option.map_some,
      openingAt, List.getD_eq_getElem _ _ bound, List.getD_eq_getElem _ _ salted]
  have verifies : verifyMerkleProof hashes (openingAt hashes prepared position).cardLeaf
        (merkleProof hashes prepared.cardLeaves position) (merkleRoot hashes prepared.cardLeaves) =
      true :=
    WordTree.verifyMerkleProof_merkleProof given
  rw [← made.deckRoot, made.cardLeaves] at verifies
  rw [openCard, if_neg (Nat.not_le.mpr bound)]
  exact if_pos verifies

/-- What is opened verifies. -/
theorem verifies_of_openCard {prepared : PreparedHandDeck} {position : Nat} {opening : CardOpening}
    (opened : openCard hashes prepared position = .ok opening) : opening.position = position ∧
    verifyMerkleProof hashes opening.cardLeaf opening.proof prepared.deckRoot =
      true := by
  simp only [openCard] at opened
  split at opened
  · cases opened
  · split at opened
    · rename_i verifies
      cases opened
      exact ⟨rfl, verifies⟩
    · cases opened

end Proofs

end Mozetto.DealerEnclave
