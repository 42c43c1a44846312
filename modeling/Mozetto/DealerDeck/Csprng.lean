import Mathlib.Tactic.IntervalCases
import Mozetto.DealerEnclave.Decks
import Mozetto.Library.FisherYates
import Mozetto.Library.RejectionSampling

/-!
# The generator of hand seeds

The generator of `csprng.ts` with its blocks and forced words, and the shuffle
of `shuffle.ts` on a deck of any size.  A sample draws until a word is not
rejected, for which it gets so much fuel.  A generator without forced words is
the stream of words the committed decks are shuffled with.
-/

namespace Mozetto.DealerDeck

open Mozetto.Chain
open Mozetto.Dealer (Hashes HashInput)
open Mozetto.DealerEnclave (Failure uint32At)

/-! ## The generator -/

structure HandSeedCsprng where
  handSeed : Bytes32
  blockCounter : Nat
  block : List Nat
  offset : Nat
  draws : Nat
  forced : List Nat
deriving DecidableEq

/-- The constructor. -/
def HandSeedCsprng.new (handSeed : Bytes32) : HandSeedCsprng where
  handSeed := handSeed
  blockCounter := 0
  block := []
  offset := 0
  draws := 0
  forced := []

def HandSeedCsprng.forceUint32Sequence
    (rng : HandSeedCsprng) (values : List Nat) : HandSeedCsprng := { rng with forced := values }

section Draws

variable (hashes : Hashes)

/-- The bytes of a hash, the highest first. -/
def blockBytes (hash : Bytes32) : List Nat :=
  (List.range 32).map fun index => hash / 256 ^ (31 - index) % 256

def refill (rng : HandSeedCsprng) : HandSeedCsprng :=
  { rng with
    blockCounter := rng.blockCounter + 1
    block :=
      blockBytes (hashes.keccak256 (.words [rng.handSeed, rng.blockCounter]))
    offset := 0 }

/-- The big-endian word at an offset of the block. -/
def wordAt (block : List Nat) (o : Nat) : Nat :=
  block.getD o 0 * 2 ^ 24 + block.getD (o + 1) 0 * 2 ^ 16 +
    block.getD (o + 2) 0 * 2 ^ 8 + block.getD (o + 3) 0

def readBlock (rng : HandSeedCsprng) : Nat × HandSeedCsprng :=
  (wordAt rng.block rng.offset, { rng with offset := rng.offset + 4, draws := rng.draws + 1 })

def nextUint32 (rng : HandSeedCsprng) : Nat × HandSeedCsprng :=
  match rng.forced with
  | value :: rest =>
      (value % 2 ^ 32, { rng with forced := rest, draws := rng.draws + 1 })
  | [] =>
      if rng.block.length < rng.offset + 4 then readBlock (refill hashes rng)
      else readBlock rng

/-- The loop of `uniformBelow`. -/
def sampleBelow (bound : Nat) : Nat → HandSeedCsprng → Except Failure (Nat × HandSeedCsprng)
  | 0, _ => .error .endless
  | fuel + 1, rng =>
      let drawn := nextUint32 hashes rng
      if drawn.1 < 2 ^ 32 / bound * bound then
        .ok (drawn.1 % bound, drawn.2)
      else sampleBelow bound fuel drawn.2

def uniformBelow (fuel bound : Nat) (rng : HandSeedCsprng) :
    Except Failure (Nat × HandSeedCsprng) :=
  if bound < 1 ∨ 2 ^ 32 < bound then
    .error (.threw s!"uniformBelow: invalid bound {bound}")
  else if bound = 1 then .ok (0, rng)
  else sampleBelow hashes bound fuel rng

/-- The loop of the shuffle, from a position down to one. -/
def shuffleFrom {Item : Type} (fuel : Nat) : Nat → HandSeedCsprng → List Item →
    Except Failure (List Item × HandSeedCsprng)
  | 0, rng, deck => .ok (deck, rng)
  | i + 1, rng, deck =>
      match uniformBelow hashes fuel (i + 2) rng with
      | .error failure => .error failure
      | .ok (j, rng) =>
          shuffleFrom fuel i rng (FisherYates.exchanged deck (i + 1) j)

/-- The shuffle of a deck with a generator. -/
def shuffleWith {Item : Type} (fuel : Nat) (rng : HandSeedCsprng) (deck : List Item) :
    Except Failure (List Item × HandSeedCsprng) :=
  shuffleFrom hashes fuel (deck.length - 1) rng deck

def shuffleDeckV2 (fuel : Nat) (handSeed : Bytes32) : Except Failure (List Nat × HandSeedCsprng) :=
  shuffleWith hashes fuel (.new handSeed) (List.range DealerEnclave.DECK_SIZE)

end Draws

section Proofs

variable {hashes : Hashes}

/-! ## The stream of words -/

/-- The generator after so many draws. -/
def advanced (hashes : Hashes) (rng : HandSeedCsprng) : Nat → HandSeedCsprng
  | 0 => rng
  | count + 1 => advanced hashes (nextUint32 hashes rng).2 count

/-- A draw is one draw. -/
theorem draws_nextUint32 (rng : HandSeedCsprng) :
    (nextUint32 hashes rng).2.draws = rng.draws + 1 := by
  rw [nextUint32]
  split
  · rfl
  · split <;> rfl

theorem draws_advanced (rng : HandSeedCsprng) (count : Nat) :
    (advanced hashes rng count).draws = rng.draws + count := by
  induction count generalizing rng with
  | zero => rfl
  | succ count induction =>
    rw [advanced, induction, draws_nextUint32]
    exact Nat.add_right_comm _ _ _

/--
A sample is the rest of the first word that is not rejected, and the
rejected ones before it only move the generator on.
-/
theorem sampleBelow_ok_iff {bound fuel sample : Nat} {rng after : HandSeedCsprng} :
    sampleBelow hashes bound fuel rng = .ok (sample, after) ↔ ∃ rejected, rejected < fuel ∧
        (∀ earlier, earlier < rejected → 2 ^ 32 / bound * bound ≤
            (nextUint32 hashes (advanced hashes rng earlier)).1) ∧
        (nextUint32 hashes (advanced hashes rng rejected)).1 < 2 ^ 32 / bound * bound ∧ sample =
          (nextUint32 hashes (advanced hashes rng rejected)).1 % bound ∧
        after = advanced hashes rng (rejected + 1) := by
  induction fuel generalizing rng with
  | zero =>
    constructor
    · intro drawn
      cases drawn
    · rintro ⟨rejected, impossible, _⟩
      cases impossible
  | succ fuel induction =>
    rw [sampleBelow]
    by_cases accepted : (nextUint32 hashes rng).1 < 2 ^ 32 / bound * bound
    · rw [if_pos accepted]
      constructor
      · intro drawn
        cases drawn
        exact ⟨0, Nat.succ_pos fuel, fun _ before => absurd before (Nat.not_lt_zero _),
          accepted, rfl, rfl⟩
      · rintro ⟨rejected, _, before, _, equal, rest⟩
        cases rejected with
        | zero =>
          rw [equal, rest]
          rfl
        | succ rejected =>
          exact absurd accepted (Nat.not_lt.mpr (before 0 (Nat.succ_pos rejected)))
    · rw [if_neg accepted, induction]
      constructor
      · rintro ⟨rejected, within, before, accepts, equal, rest⟩
        refine ⟨rejected + 1, Nat.succ_lt_succ within, ?_, accepts, equal, rest⟩
        intro earlier sooner
        cases earlier with
        | zero => exact Nat.le_of_not_lt accepted
        | succ earlier =>
          exact before earlier (Nat.lt_of_succ_lt_succ sooner)
      · rintro ⟨rejected, within, before, accepts, equal, rest⟩
        cases rejected with
        | zero => exact absurd accepts accepted
        | succ rejected =>
          exact ⟨rejected, Nat.lt_of_succ_lt_succ within, fun earlier sooner =>
            before (earlier + 1) (Nat.succ_lt_succ sooner),
            accepts, equal, rest⟩

/-! ## Streams of seeds -/

/-- What a generator without forced words is after so many draws. -/
def AtDraw (hashes : Hashes) (handSeed : Bytes32) (draw : Nat) (rng : HandSeedCsprng) : Prop :=
  rng.handSeed = handSeed ∧ rng.forced = [] ∧
    ((draw = 0 ∧ rng.block = [] ∧ rng.offset = 0 ∧ rng.blockCounter = 0) ∨
      ∃ block taken, draw = 8 * block + taken ∧ 0 < taken ∧ taken ≤ 8 ∧
        rng.blockCounter = block + 1 ∧ rng.offset = 4 * taken ∧ rng.block =
          blockBytes (hashes.keccak256 (.words [handSeed, block])))

theorem atDraw_new (handSeed : Bytes32) : AtDraw hashes handSeed 0 (.new handSeed) :=
  ⟨rfl, rfl, .inl ⟨rfl, rfl, rfl, rfl⟩⟩

@[simp]
theorem length_blockBytes (hash : Bytes32) : (blockBytes hash).length = 32 := by
  rw [blockBytes, List.length_map, List.length_range]

theorem getD_blockBytes {hash index : Nat} (inside : index < 32) :
    (blockBytes hash).getD index 0 = hash / 256 ^ (31 - index) % 256 := by
  rw [List.getD_eq_getElem?_getD, blockBytes, List.getElem?_map, List.getElem?_range inside]
  rfl

/-- Four bytes of a number are its digit of 32 bits. -/
theorem word_of_bytes (value : Nat) :
    value / 256 ^ 3 % 256 * 2 ^ 24 + value / 256 ^ 2 % 256 * 2 ^ 16 +
        value / 256 % 256 * 2 ^ 8 + value % 256 = value % 2 ^ 32 := by
  omega

/-- The words of a block are the digits of its hash. -/
theorem wordAt_blockBytes {hash taken : Nat} (inside : taken < 8) :
    wordAt (blockBytes hash) (4 * taken) = hash / 2 ^ (32 * (7 - taken)) % 2 ^ 32 := by
  have scaled : ∀ extra, extra ≤ 3 → hash / 256 ^ (31 - (4 * taken + (3 - extra))) =
        hash / 2 ^ (32 * (7 - taken)) / 256 ^ extra := by
    intro extra few
    have power : (256 : Nat) ^ (31 - (4 * taken + (3 - extra))) =
        2 ^ (32 * (7 - taken)) * 256 ^ extra := by
      rw [show (256 : Nat) = 2 ^ 8 from rfl, ← pow_mul, ← pow_mul, ← pow_add]
      congr 1
      omega
    rw [power, Nat.div_div_eq_div_mul]
  rw [wordAt, getD_blockBytes (by omega), getD_blockBytes (by omega),
    getD_blockBytes (by omega), getD_blockBytes (by omega)]
  have three := scaled 3 (Nat.le_refl 3)
  have two := scaled 2 (by decide)
  have one := scaled 1 (by decide)
  have none := scaled 0 (by decide)
  rw [Nat.sub_self, Nat.add_zero] at three
  rw [pow_one] at one
  rw [pow_zero, Nat.div_one] at none
  rw [three, two, one, none]
  exact word_of_bytes _

/-- The next word of a generator without forced words. -/
theorem nextUint32_atDraw {handSeed : Bytes32} {draw : Nat} {rng : HandSeedCsprng}
    (here : AtDraw hashes handSeed draw rng) :
    (nextUint32 hashes rng).1 = uint32At hashes handSeed draw ∧
      AtDraw hashes handSeed (draw + 1) (nextUint32 hashes rng).2 := by
  rcases here with ⟨seeded, unforced, ⟨rfl, empty, start, counter⟩ |
    ⟨block, taken, rfl, _, few, counter, offset, bytes⟩⟩
  · have next : nextUint32 hashes rng = readBlock (refill hashes rng) := by
      rw [nextUint32, unforced]
      simp only [empty, start]
      rfl
    have hash : (refill hashes rng).block =
        blockBytes (hashes.keccak256 (.words [handSeed, 0])) := by
      rw [refill, seeded, counter]
    rw [next]
    refine ⟨?_, seeded, unforced, .inr ⟨0, 1, rfl, Nat.one_pos, by decide, ?_, rfl, hash⟩⟩
    · have first :=
        @wordAt_blockBytes (hashes.keccak256 (.words [handSeed, 0])) 0 (by decide)
      rw [readBlock, hash]
      exact first
    · exact congrArg (· + 1) counter
  · rcases Nat.eq_or_lt_of_le few with rfl | more
    · have next : nextUint32 hashes rng = readBlock (refill hashes rng) := by
        rw [nextUint32, unforced]
        simp only [bytes, offset, length_blockBytes]
        rfl
      have hash : (refill hashes rng).block = blockBytes
            (hashes.keccak256 (.words [handSeed, block + 1])) := by
        rw [refill, seeded, counter]
      rw [next]
      refine ⟨?_, seeded, unforced, .inr ⟨block + 1, 1, rfl, Nat.one_pos, by decide, ?_, rfl, hash⟩⟩
      · have first :=
          @wordAt_blockBytes (hashes.keccak256 (.words [handSeed, block + 1])) 0 (by decide)
        have place : (8 * block + 8) / 8 = block + 1 ∧ (8 * block + 8) % 8 = 0 := by
          omega
        rw [readBlock, hash, uint32At, place.1, place.2]
        exact first
      · exact congrArg (· + 1) counter
    · have inside : ¬ 32 < 4 * taken + 4 := by
        omega
      have next : nextUint32 hashes rng = readBlock rng := by
        rw [nextUint32, unforced]
        simp only [bytes, offset, length_blockBytes]
        rw [if_neg inside]
      rw [next]
      refine ⟨?_, seeded, unforced, .inr ⟨block, taken + 1, rfl,
        Nat.succ_pos taken, more, counter, ?_, bytes⟩⟩
      · have place : (8 * block + taken) / 8 = block ∧ (8 * block + taken) % 8 = taken := by
          omega
        rw [readBlock, bytes, offset, uint32At, place.1, place.2]
        exact wordAt_blockBytes more
      · show rng.offset + 4 = _
        rw [offset]
        rfl

/-- What a generator gives is what the stream of its seed gives. -/
inductive Streams (hashes : Hashes) (handSeed : Bytes32) :
    Except Failure (Nat × HandSeedCsprng) → Option (Nat × Nat) → Prop where
  | stopped (failure : Failure) : Streams hashes handSeed (.error failure) none
  | drawn (sample : Nat) (after : HandSeedCsprng) (next : Nat)
      (there : AtDraw hashes handSeed next after) :
      Streams hashes handSeed (.ok (sample, after)) (some (sample, next))

theorem sampleBelow_streams {handSeed : Bytes32} {bound draw : Nat} {rng : HandSeedCsprng}
    (fuel : Nat) (here : AtDraw hashes handSeed draw rng) :
    Streams hashes handSeed (sampleBelow hashes bound fuel rng)
      (DealerEnclave.uniformBelow (uint32At hashes handSeed) bound fuel draw) := by
  induction fuel generalizing draw rng with
  | zero => exact .stopped .endless
  | succ fuel induction =>
    rcases nextUint32_atDraw here with ⟨word, there⟩
    rw [sampleBelow, DealerEnclave.uniformBelow]
    simp only [word]
    split
    · exact .drawn _ _ _ there
    · exact induction there

/-- An exchange of two cards of a deck is one of two positions. -/
theorem swapped_eq_exchanged {deck : List Nat} {i j : Nat}
    (inside : i < deck.length) (before : j ≤ i) :
    DealerEnclave.swapped deck i j = FisherYates.exchanged deck i j := by
  have chosen : j < deck.length := Nat.lt_of_le_of_lt before inside
  rw [FisherYates.exchanged_eq inside chosen, DealerEnclave.swapped,
    List.getD_eq_getElem _ _ inside, List.getD_eq_getElem _ _ chosen]

theorem sampleBelow_lt {bound fuel sample : Nat} {rng after : HandSeedCsprng} (positive : 0 < bound)
    (drawn : sampleBelow hashes bound fuel rng = .ok (sample, after)) : sample < bound := by
  rcases sampleBelow_ok_iff.mp drawn with ⟨_, _, _, _, equal, _⟩
  rw [equal]
  exact Nat.mod_lt _ positive

/-- Bounds above one and up to the number of words sample. -/
theorem uniformBelow_eq {fuel bound : Nat} {rng : HandSeedCsprng}
    (many : 1 < bound) (fits : bound ≤ 2 ^ 32) : uniformBelow hashes fuel bound rng =
    sampleBelow hashes bound fuel rng := by
  have valid : ¬ (bound < 1 ∨ 2 ^ 32 < bound) := by
    rintro (small | large)
    · exact absurd many (Nat.lt_asymm small)
    · exact absurd fits (Nat.not_le.mpr large)
  rw [uniformBelow, if_neg valid, if_neg (Nat.ne_of_gt many)]

/-- The shuffle of a hand seed is the one the committed decks are of. -/
theorem shuffleFrom_streams {handSeed : Bytes32} {fuel last draw : Nat} {rng : HandSeedCsprng}
    {deck : List Nat} (here : AtDraw hashes handSeed draw rng)
    (inside : last < deck.length) (fits : last < 2 ^ 32) :
    ((shuffleFrom hashes fuel last rng deck).toOption.map Prod.fst) =
      DealerEnclave.shuffleFrom (uint32At hashes handSeed) fuel last draw
        deck := by
  induction last generalizing draw rng deck with
  | zero => rfl
  | succ last induction =>
    have many : 1 < last + 2 := Nat.succ_lt_succ (Nat.succ_pos last)
    rw [shuffleFrom, DealerEnclave.shuffleFrom, uniformBelow_eq many fits]
    have streams := @sampleBelow_streams hashes handSeed (last + 2) draw rng fuel here
    cases sampled : sampleBelow hashes (last + 2) fuel rng with
    | error failure =>
      rw [sampled] at streams
      generalize streamed : DealerEnclave.uniformBelow _ _ _ _ = words at streams ⊢
      cases streams
      rfl
    | ok drawn =>
      rcases drawn with ⟨sample, after⟩
      rw [sampled] at streams
      generalize streamed : DealerEnclave.uniformBelow _ _ _ _ = words at streams ⊢
      cases streams with
      | drawn _ _ next there =>
        have before : sample ≤ last + 1 :=
          Nat.le_of_lt_succ (sampleBelow_lt (Nat.lt_of_succ_lt many) sampled)
        show _ = DealerEnclave.shuffleFrom (uint32At hashes handSeed) fuel
            last next (DealerEnclave.swapped deck (last + 1) sample)
        rw [swapped_eq_exchanged inside before]
        exact induction there (by
            rw [FisherYates.length_exchanged]
            exact Nat.lt_of_succ_lt inside)
          (Nat.lt_of_succ_lt fits)

theorem shuffleDeckV2_eq (fuel : Nat) (handSeed : Bytes32) :
    (shuffleDeckV2 hashes fuel handSeed).toOption.map Prod.fst =
      DealerEnclave.shuffleDeckV2 hashes fuel handSeed :=
  shuffleFrom_streams (atDraw_new handSeed) (by decide) (by decide)

end Proofs

end Mozetto.DealerDeck

/-!
## Shuffles of given words

A generator that is given its first words draws these one after the other, so
a shuffle that needs no more of them is the Fisher–Yates loop on the samples
of the words.
-/

namespace Mozetto.DealerDeck

open Mozetto.Chain
open Mozetto.Dealer (Hashes)
open Mozetto.DealerEnclave (Failure)
open Mozetto.RejectionSampling

/-- The bounds of a shuffle that starts from a position. -/
def bounds : Nat → List Nat
  | 0 => []
  | i + 1 => (i + 2) :: bounds i

@[simp]
theorem length_bounds (last : Nat) : (bounds last).length = last := by
  induction last with
  | zero => rfl
  | succ last induction => rw [bounds, List.length_cons, induction]

theorem mem_bounds {last bound : Nat} (member : bound ∈ bounds last) :
    1 < bound ∧ bound ≤ last + 1 := by
  induction last with
  | zero => cases member
  | succ last induction =>
    rcases List.mem_cons.mp member with rfl | later
    · exact ⟨Nat.succ_lt_succ (Nat.succ_pos last), Nat.le_refl _⟩
    · exact ⟨(induction later).1, Nat.le_succ_of_le (induction later).2⟩

/-- Choices are allowed if they are below the bounds. -/
theorem allowed_iff_below {last : Nat} {choices : List Nat} :
    choices.length = last ∧ FisherYates.Allowed choices ↔
      List.Forall₂ (· < ·) choices (bounds last) := by
  induction choices generalizing last with
  | nil =>
    cases last with
    | zero => exact ⟨fun _ => .nil, fun _ => ⟨rfl, trivial⟩⟩
    | succ last =>
      constructor
      · rintro ⟨impossible, _⟩
        cases impossible
      · intro impossible
        cases impossible
  | cons choice later induction =>
    cases last with
    | zero =>
      constructor
      · rintro ⟨impossible, _⟩
        cases impossible
      · intro impossible
        cases impossible
    | succ last =>
      rw [bounds, List.forall₂_cons, ← induction, List.length_cons]
      constructor
      · rintro ⟨length, first, allowed⟩
        have same : later.length = last := Nat.succ.inj length
        rw [same] at first
        exact ⟨Nat.lt_succ_of_le first, same, allowed⟩
      · rintro ⟨first, same, allowed⟩
        refine ⟨congrArg (· + 1) same, ?_, allowed⟩
        rw [same]
        exact Nat.le_of_lt_succ first

section Proofs

variable {hashes : Hashes}

/-- A generator with so many draws to make from its given words. -/
structure Given (words : List Nat) (total : Nat) (rng : HandSeedCsprng) : Prop where
  forced : rng.forced = words
  draws : rng.draws + words.length = total
  small : ∀ word ∈ words, word < 2 ^ 32

theorem given_new {words : List Nat} (handSeed : Bytes32) (small : ∀ word ∈ words, word < 2 ^ 32) :
    Given words words.length ((HandSeedCsprng.new handSeed).forceUint32Sequence words) :=
  ⟨rfl, Nat.zero_add _, small⟩

/-- A given word is drawn as it is. -/
theorem nextUint32_given {word : Nat} {words : List Nat} {total : Nat} {rng : HandSeedCsprng}
    (given : Given (word :: words) total rng) : (nextUint32 hashes rng).1 = word ∧
    Given words total (nextUint32 hashes rng).2 := by
  rw [nextUint32, given.forced]
  refine ⟨Nat.mod_eq_of_lt (given.small word List.mem_cons_self), rfl, ?_,
    fun other member => given.small other (List.mem_cons_of_mem _ member)⟩
  have draws := given.draws
  rw [List.length_cons] at draws
  show rng.draws + 1 + words.length = total
  rw [← draws, Nat.add_right_comm, Nat.add_assoc]

/-- Samples only move on in the stream. -/
theorem draws_sampleBelow {bound fuel sample : Nat} {rng after : HandSeedCsprng}
    (drawn : sampleBelow hashes bound fuel rng = .ok (sample, after)) :
    rng.draws < after.draws := by
  rcases sampleBelow_ok_iff.mp drawn with ⟨rejected, _, _, _, _, rfl⟩
  rw [draws_advanced]
  exact Nat.lt_add_of_pos_right (Nat.succ_pos rejected)

/-- A sample that stays within the given words is one of these. -/
theorem sample_of_sampleBelow {bound fuel result total : Nat} {words : List Nat}
    {rng after : HandSeedCsprng} (given : Given words total rng)
    (drawn : sampleBelow hashes bound fuel rng = .ok (result, after))
    (within : after.draws ≤ total) : ∃ rest, sample (2 ^ 32) bound words = some (result, rest) ∧
    Given rest total after := by
  induction fuel generalizing words rng with
  | zero => cases drawn
  | succ fuel induction =>
    cases words with
    | nil =>
      have spent : rng.draws = total := given.draws
      rw [← spent] at within
      exact absurd (draws_sampleBelow drawn) (Nat.not_lt.mpr within)
    | cons word words =>
      rcases @nextUint32_given hashes _ _ _ _ given with ⟨value, next⟩
      rw [sampleBelow] at drawn
      simp only [value] at drawn
      rw [sample]
      by_cases accepted : word < 2 ^ 32 / bound * bound
      · rw [if_pos accepted] at drawn ⊢
        cases drawn
        exact ⟨words, rfl, next⟩
      · rw [if_neg accepted] at drawn ⊢
        exact induction next drawn

/-- A sample of the given words is drawn. -/
theorem sampleBelow_of_sample {bound fuel result total : Nat} {words rest : List Nat}
    {rng : HandSeedCsprng} (given : Given words total rng) (fueled : words.length ≤ fuel)
    (taken : sample (2 ^ 32) bound words = some (result, rest)) :
    ∃ after, sampleBelow hashes bound fuel rng = .ok (result, after) ∧
      Given rest total after := by
  induction words generalizing fuel rng with
  | nil => cases taken
  | cons word words induction =>
    cases fuel with
    | zero => exact absurd fueled (Nat.not_succ_le_zero _)
    | succ fuel =>
      rcases @nextUint32_given hashes _ _ _ _ given with ⟨value, next⟩
      rw [sampleBelow]
      simp only [value]
      rw [sample] at taken
      by_cases accepted : word < 2 ^ 32 / bound * bound
      · rw [if_pos accepted] at taken ⊢
        cases taken
        exact ⟨_, rfl, next⟩
      · rw [if_neg accepted] at taken ⊢
        exact induction next (Nat.le_of_succ_le_succ fueled) taken

variable {Item : Type}

/-- A shuffle exchanges what a sample says, and goes on. -/
theorem shuffleFrom_of_sampleBelow
    {fuel last choice : Nat} {rng after : HandSeedCsprng} {deck : List Item}
    (fits : last + 1 < 2 ^ 32)
    (drawn : sampleBelow hashes (last + 2) fuel rng = .ok (choice, after)) :
    shuffleFrom hashes fuel (last + 1) rng deck = shuffleFrom hashes fuel last after
        (FisherYates.exchanged deck (last + 1) choice) := by
  have many : 1 < last + 2 := Nat.succ_lt_succ (Nat.succ_pos last)
  rw [shuffleFrom, uniformBelow_eq many fits, drawn]

theorem sampleBelow_of_shuffleFrom
    {fuel last : Nat} {rng after : HandSeedCsprng} {deck order : List Item}
    (fits : last + 1 < 2 ^ 32)
    (shuffled : shuffleFrom hashes fuel (last + 1) rng deck = .ok (order, after)) :
    ∃ choice next, sampleBelow hashes (last + 2) fuel rng = .ok (choice, next) ∧
        shuffleFrom hashes fuel last next (FisherYates.exchanged deck (last + 1) choice) =
            .ok (order, after) := by
  have many : 1 < last + 2 := Nat.succ_lt_succ (Nat.succ_pos last)
  rw [shuffleFrom, uniformBelow_eq many fits] at shuffled
  cases drawn : sampleBelow hashes (last + 2) fuel rng with
  | error failure =>
    rw [drawn] at shuffled
    cases shuffled
  | ok taken =>
    rw [drawn] at shuffled
    exact ⟨taken.1, taken.2, rfl, shuffled⟩

/-- Samples of words are allowed choices. -/
theorem allowed_of_samples {last : Nat} {words choices rest : List Nat}
    (taken : samples (2 ^ 32) (bounds last) words = some (choices, rest)) :
    choices.length = last ∧ FisherYates.Allowed choices :=
  allowed_iff_below.mpr (samples_below
      (fun _ member => Nat.lt_of_succ_lt (mem_bounds member).1) taken)

/-- A shuffle is the loop on allowed choices. -/
theorem choices_of_shuffleFrom
    {fuel last : Nat} {rng after : HandSeedCsprng} {deck order : List Item} (fits : last < 2 ^ 32)
    (shuffled : shuffleFrom hashes fuel last rng deck = .ok (order, after)) :
    ∃ choices : List Nat, choices.length = last ∧ FisherYates.Allowed choices ∧
      FisherYates.shuffled choices deck = order ∧ rng.draws ≤ after.draws := by
  induction last generalizing rng deck with
  | zero =>
    cases shuffled
    exact ⟨[], rfl, trivial, rfl, Nat.le_refl _⟩
  | succ last induction =>
    rcases sampleBelow_of_shuffleFrom fits shuffled with ⟨choice, next, drawn, remaining⟩
    rcases induction (Nat.lt_of_succ_lt fits) remaining with
      ⟨later, length, allowed, reached, moved⟩
    refine ⟨choice :: later, congrArg (· + 1) length, ⟨?_, allowed⟩, ?_, ?_⟩
    · rw [length]
      exact Nat.le_of_lt_succ (sampleBelow_lt (Nat.succ_pos _) drawn)
    · rw [FisherYates.shuffled, length]
      exact reached
    · exact Nat.le_trans (Nat.le_of_lt (draws_sampleBelow drawn)) moved

/-- A shuffle that stays within the given words is of their samples. -/
theorem samples_of_shuffleFrom
    {fuel last total : Nat} {words : List Nat} {rng after : HandSeedCsprng}
    {deck order : List Item} (fits : last < 2 ^ 32) (given : Given words total rng)
    (shuffled : shuffleFrom hashes fuel last rng deck = .ok (order, after))
    (within : after.draws ≤ total) : ∃ choices rest,
    samples (2 ^ 32) (bounds last) words = some (choices, rest) ∧
      FisherYates.shuffled choices deck = order := by
  induction last generalizing words rng deck with
  | zero =>
    cases shuffled
    exact ⟨[], words, rfl, rfl⟩
  | succ last induction =>
    rcases sampleBelow_of_shuffleFrom fits shuffled with ⟨choice, next, drawn, remaining⟩
    have lower : last < 2 ^ 32 := Nat.lt_of_succ_lt fits
    rcases choices_of_shuffleFrom lower remaining with ⟨_, _, _, _, moved⟩
    rcases sample_of_sampleBelow given drawn (Nat.le_trans moved within) with ⟨rest, first, left⟩
    rcases induction lower left remaining with ⟨choices, others, taken, reached⟩
    refine ⟨choice :: choices, others, ?_, ?_⟩
    · rw [bounds, samples]
      simp only [first, taken, Option.map_some]
    · rw [FisherYates.shuffled, (allowed_of_samples taken).1]
      exact reached

/-- The samples of given words are shuffled with. -/
theorem shuffleFrom_of_samples {fuel last total : Nat} {words choices rest : List Nat}
    {rng : HandSeedCsprng} {deck : List Item} (fits : last < 2 ^ 32)
    (given : Given words total rng) (fueled : words.length ≤ fuel)
    (taken : samples (2 ^ 32) (bounds last) words = some (choices, rest)) : ∃ after,
    shuffleFrom hashes fuel last rng deck = .ok (FisherYates.shuffled choices deck, after) ∧
      after.draws ≤ total := by
  induction last generalizing words choices rng deck with
  | zero =>
    cases taken
    exact ⟨rng, rfl, given.draws ▸ Nat.le_add_right _ _⟩
  | succ last induction =>
    rw [bounds, samples] at taken
    cases first : sample (2 ^ 32) (last + 2) words with
    | none =>
      rw [first] at taken
      cases taken
    | some drawn =>
      rw [first] at taken
      rcases Option.map_eq_some_iff.mp taken with ⟨others, next, equal⟩
      cases equal
      rcases @sampleBelow_of_sample hashes _ _ _ _ _ _ _ given fueled first with
        ⟨after, sampled, left⟩
      have shorter : drawn.2.length ≤ fuel :=
        Nat.le_trans (Nat.le_of_lt (length_sample first)) fueled
      rcases @induction _ _ after (FisherYates.exchanged deck (last + 1) drawn.1)
          (Nat.lt_of_succ_lt fits) left shorter next with
        ⟨last, reached, within⟩
      refine ⟨last, ?_, within⟩
      rw [shuffleFrom_of_sampleBelow fits sampled,
        FisherYates.shuffled, (allowed_of_samples next).1]
      exact reached

end Proofs

end Mozetto.DealerDeck
