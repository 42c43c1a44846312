import Mathlib.Data.List.Permutation
import Mathlib.Data.Nat.Prime.Basic
import Mozetto.DealerDeck.Csprng
import Mozetto.Engine.Cards

/-!
# Unbiased shuffles

The shuffle of hand seeds rejects the words that do not fit its bounds, so
equally many lists of words give each order of a deck.  The live shuffle of
the engine takes the rest of a word by its bound as it is.  Equally many
lists of words would then be a part of a power of two for each of the orders,
of which there is a multiple of three as soon as there are three cards.
-/

namespace Mozetto.DealerDeck

open Mozetto.Chain
open Mozetto.Dealer (Hashes)
open Mozetto.DealerEnclave (Failure)
open Mozetto.Engine (Card fullDeck)
open Mozetto.RejectionSampling

/-! ## Equally likely orders -/

/-- The lists of so many words of 32 bits. -/
def Words (count : Nat) : Set (List Nat) :=
  {words | words.length = count ∧ ∀ word ∈ words, word < 2 ^ 32}

/--
Of the lists of words of each length, equally many give one order of the deck
as another.
-/
def EquallyLikely {Item : Type} (gives : List Nat → List Item → Prop) (deck : List Item) : Prop :=
  ∀ count first second, first.Perm deck → second.Perm deck →
    {words | words ∈ Words count ∧ gives words first}.ncard =
      {words | words ∈ Words count ∧ gives words second}.ncard

/-- The words are enough for the shuffle of hand seeds and give the order. -/
def SeedGives {Item : Type} (hashes : Hashes) (handSeed : Bytes32) (deck : List Item)
    (words : List Nat) (order : List Item) : Prop :=
  ∃ fuel rng, shuffleWith hashes fuel
        ((HandSeedCsprng.new handSeed).forceUint32Sequence words) deck = .ok (order, rng) ∧
    rng.draws ≤ words.length

/-- The loop of the live shuffle, on a deck of any size. -/
def liveShuffleFrom {Item : Type} (next : Nat → Nat) : Nat → Nat → List Item → List Item
  | 0, _, deck => deck
  | i + 1, counter, deck =>
      liveShuffleFrom next i (counter + 1)
        (FisherYates.exchanged deck (i + 1) (next counter % (i + 2)))

/-- The words are enough for the live shuffle and give the order. -/
def LiveGives {Item : Type} (deck : List Item) (words : List Nat) (order : List Item) : Prop :=
  deck.length - 1 ≤ words.length ∧ liveShuffleFrom (fun counter => words.getD counter 0)
        (deck.length - 1) 0 deck = order

/-- The samples of the words give the order. -/
def SamplesGive {Item : Type} (deck : List Item) (words : List Nat) (order : List Item) : Prop :=
  ∃ choices rest, samples (2 ^ 32) (bounds (deck.length - 1)) words = some (choices, rest) ∧
      FisherYates.shuffled choices deck = order

section Proofs

variable {Item : Type} {deck : List Item}

/-- Orders are given by the words that give their choices. -/
theorem samplesGive_eq {order : List Item} {choices : List Nat} (distinct : deck.Nodup)
    (below : List.Forall₂ (· < ·) choices (bounds (deck.length - 1)))
    (reached : FisherYates.shuffled choices deck = order) (count : Nat) :
    {words | words ∈ Words count ∧ SamplesGive deck words order} =
      Giving (2 ^ 32) (bounds (deck.length - 1)) choices count := by
  ext words
  constructor
  · rintro ⟨⟨length, small⟩, others, rest, taken, equal⟩
    have same : others = choices :=
      (FisherYates.shuffled_bijOn distinct).injOn
        (allowed_of_samples taken) (allowed_iff_below.mpr below) (equal.trans reached.symm)
    rw [same] at taken
    exact ⟨length, small, rest, taken⟩
  · rintro ⟨length, small, rest, taken⟩
    exact ⟨⟨length, small⟩, choices, rest, taken, reached⟩

theorem exists_below {order : List Item} (distinct : deck.Nodup) (orders : order.Perm deck) :
    ∃ choices, List.Forall₂ (· < ·) choices (bounds (deck.length - 1)) ∧
        FisherYates.shuffled choices deck = order := by
  rcases (FisherYates.shuffled_bijOn distinct).surjOn orders with ⟨choices, allowed, reached⟩
  exact ⟨choices, allowed_iff_below.mp allowed, reached⟩

/-- Samples are unbiased. -/
theorem samplesGive_equallyLikely (distinct : deck.Nodup) :
    EquallyLikely (SamplesGive deck) deck := by
  intro count first second firstOrders secondOrders
  rcases exists_below distinct firstOrders with ⟨firstChoices, firstBelow, firstReached⟩
  rcases exists_below distinct secondOrders with ⟨secondChoices, secondBelow, secondReached⟩
  rw [samplesGive_eq distinct firstBelow firstReached,
    samplesGive_eq distinct secondBelow secondReached]
  exact ncard_giving count firstBelow secondBelow

theorem equallyLikely_congr {gives others : List Nat → List Item → Prop}
    (same : ∀ count, ∀ words ∈ Words count, ∀ order, gives words order ↔ others words order)
    (likely : EquallyLikely others deck) : EquallyLikely gives deck := by
  intro count first second firstOrders secondOrders
  have sets : ∀ order, {words | words ∈ Words count ∧ gives words order} =
        {words | words ∈ Words count ∧ others words order} := by
    intro order
    ext words
    exact and_congr_right fun member => same count words member order
  rw [sets first, sets second]
  exact likely count first second firstOrders secondOrders

/-! ## The shuffle of hand seeds -/

variable {hashes : Hashes} {handSeed : Bytes32}

theorem seedGives_iff {words : List Nat} {order : List Item} (fits : deck.length - 1 < 2 ^ 32)
    (small : ∀ word ∈ words, word < 2 ^ 32) : SeedGives hashes handSeed deck words order ↔
    SamplesGive deck words order := by
  constructor
  · rintro ⟨fuel, rng, shuffled, within⟩
    exact samples_of_shuffleFrom fits (given_new handSeed small) shuffled within
  · rintro ⟨choices, rest, taken, rfl⟩
    rcases @shuffleFrom_of_samples hashes Item words.length _ _ _ _ _ _ deck
        fits (given_new handSeed small) (Nat.le_refl _) taken with
      ⟨rng, shuffled, within⟩
    exact ⟨words.length, rng, shuffled, within⟩

/-- A deck of more cards than there are words is not shuffled. -/
theorem not_shuffleWith_of_large {fuel : Nat} {rng : HandSeedCsprng}
    {result : List Item × HandSeedCsprng} (large : 2 ^ 32 < deck.length) :
    ¬ shuffleWith hashes fuel rng deck = .ok result := by
  intro shuffled
  cases size : deck.length - 1 with
  | zero =>
    have positive : 1 < deck.length := Nat.lt_trans (by decide) large
    exact absurd size (Nat.sub_ne_zero_of_lt positive)
  | succ last =>
    have total : 2 ^ 32 < last + 2 := by
      omega
    have invalid : last + 2 < 1 ∨ 2 ^ 32 < last + 2 := .inr total
    rw [shuffleWith, size, shuffleFrom, uniformBelow, if_pos invalid] at shuffled
    cases shuffled

theorem seedGives_equallyLikely (distinct : deck.Nodup) :
    EquallyLikely (SeedGives hashes handSeed deck) deck := by
  by_cases large : 2 ^ 32 < deck.length
  · intro count first second _ _
    have none : ∀ order : List Item,
        {words | words ∈ Words count ∧ SeedGives hashes handSeed deck words order} = ∅ := by
      intro order
      apply Set.eq_empty_of_forall_notMem
      rintro words ⟨_, fuel, rng, shuffled, _⟩
      exact not_shuffleWith_of_large large shuffled
    rw [none first, none second]
  · apply equallyLikely_congr _ (samplesGive_equallyLikely distinct)
    intro count words member order
    have fits : deck.length - 1 < 2 ^ 32 := by
      omega
    exact seedGives_iff fits member.2

/-- Every order is given by some words. -/
theorem exists_words_seedGives {order : List Item} (distinct : deck.Nodup)
    (fits : deck.length ≤ 2 ^ 32) (orders : order.Perm deck) :
    ∃ words, words ∈ Words (deck.length - 1) ∧
      SeedGives hashes handSeed deck words order := by
  rcases exists_below distinct orders with ⟨choices, below, reached⟩
  have size : deck.length - 1 < 2 ^ 32 := by
    omega
  have bounded : ∀ bound ∈ bounds (deck.length - 1), bound ≤ 2 ^ 32 :=
    fun bound member => Nat.le_trans (mem_bounds member).2 size
  have small : ∀ choice ∈ choices, choice < 2 ^ 32 := by
    intro choice member
    rcases (List.forall₂_iff_get.mp below) with ⟨lengths, each⟩
    rcases List.mem_iff_getElem.mp member with ⟨place, inside, rfl⟩
    have within : place < (bounds (deck.length - 1)).length := by
      rw [← lengths]
      exact inside
    exact Nat.lt_of_lt_of_le (each place inside within) (bounded _ (List.getElem_mem within))
  refine ⟨choices, ⟨?_, small⟩, (seedGives_iff size small).mpr ?_⟩
  · exact below.length_eq.trans (length_bounds _)
  · exact ⟨choices, [], samples_self bounded below, reached⟩

end Proofs

/-! ## The live shuffle -/

theorem engine_swap_eq (deck : List Card) (i j : Nat) :
    Engine.swap deck i j = FisherYates.exchanged deck i j := by
  rw [Engine.swap, FisherYates.exchanged]
  cases deck[i]? <;> cases deck[j]? <;> rfl

/-- The engine shuffles its deck with the live loop. -/
theorem engine_shuffleFrom_eq (next : Nat → Nat) (last counter : Nat) (deck : List Card) :
    Engine.shuffleFrom next last counter deck =
      liveShuffleFrom next last counter deck := by
  induction last generalizing counter deck with
  | zero => rfl
  | succ last induction =>
    rw [Engine.shuffleFrom, liveShuffleFrom, induction, engine_swap_eq]

section Live

variable {Item : Type} {deck order : List Item} {words : List Nat}

/-- The choices of the live shuffle. -/
def remainders (last : Nat) (words : List Nat) : List Nat :=
  List.zipWith (fun word bound => word % bound) words (bounds last)

theorem liveShuffleFrom_eq {last counter : Nat} (enough : counter + last ≤ words.length) :
    liveShuffleFrom (fun counter => words.getD counter 0) last counter deck =
      FisherYates.shuffled (remainders last (words.drop counter)) deck := by
  induction last generalizing counter deck with
  | zero =>
    rw [remainders, bounds, List.zipWith_nil_right]
    rfl
  | succ last induction =>
    have inside : counter < words.length :=
      Nat.lt_of_lt_of_le (Nat.lt_add_of_pos_right (Nat.succ_pos last)) enough
    have following : counter + 1 + last ≤ words.length := by
      rw [Nat.add_right_comm]
      exact enough
    have length : (remainders last (words.drop (counter + 1))).length = last := by
      rw [remainders, List.length_zipWith, length_bounds, List.length_drop]
      exact Nat.min_eq_right (Nat.le_sub_of_add_le' following)
    have first : words.getD counter 0 = words[counter] := List.getD_eq_getElem words 0 inside
    rw [liveShuffleFrom, induction following, List.drop_eq_getElem_cons inside]
    show _ = FisherYates.shuffled (words[counter] % (last + 2) ::
        remainders last (words.drop (counter + 1))) deck
    rw [FisherYates.shuffled, length, first]

theorem liveGives_iff : LiveGives deck words order ↔ deck.length - 1 ≤ words.length ∧
      FisherYates.shuffled (remainders (deck.length - 1) words) deck =
        order := by
  apply and_congr_right
  intro enough
  rw [liveShuffleFrom_eq ((Nat.zero_add _).le.trans enough), List.drop_zero]

/-- Where the bounds divide the number of words, the live shuffle samples. -/
theorem liveGives_iff_samplesGive (divides : ∀ bound ∈ bounds (deck.length - 1), bound ∣ 2 ^ 32)
    (small : ∀ word ∈ words, word < 2 ^ 32) :
    LiveGives deck words order ↔ SamplesGive deck words order := by
  rw [liveGives_iff]
  constructor
  · rintro ⟨enough, reached⟩
    refine ⟨_, _, samples_of_dvd divides small ?_, reached⟩
    rw [length_bounds]
    exact enough
  · rintro ⟨choices, rest, taken, reached⟩
    have enough : deck.length - 1 ≤ words.length := by
      have counted := length_samples taken
      rw [length_bounds] at counted
      exact Nat.le_of_add_right_le counted
    have all :=
      samples_of_dvd divides small (by rw [length_bounds]; exact enough)
    rw [all] at taken
    cases taken
    exact ⟨enough, reached⟩

theorem live_equallyLikely_of_small (distinct : deck.Nodup) (small : deck.length ≤ 2) :
    EquallyLikely (LiveGives deck) deck := by
  apply equallyLikely_congr _ (samplesGive_equallyLikely distinct)
  intro count words member order
  apply liveGives_iff_samplesGive _ member.2
  intro bound inside
  rcases mem_bounds inside with ⟨many, few⟩
  have two : bound = 2 := by
    omega
  rw [two]
  exact ⟨2 ^ 31, rfl⟩

/-- The live loop is the Fisher–Yates loop on allowed choices. -/
theorem choices_of_liveShuffleFrom (next : Nat → Nat) (last counter : Nat) (deck : List Item) :
    ∃ choices : List Nat, choices.length = last ∧ FisherYates.Allowed choices ∧
      FisherYates.shuffled choices deck =
        liveShuffleFrom next last counter deck := by
  induction last generalizing counter deck with
  | zero => exact ⟨[], rfl, trivial, rfl⟩
  | succ last induction =>
    rcases induction (counter + 1) (FisherYates.exchanged deck (last + 1)
          (next counter % (last + 2))) with
      ⟨later, length, allowed, reached⟩
    refine ⟨next counter % (last + 2) :: later, congrArg (· + 1) length, ⟨?_, allowed⟩, ?_⟩
    · rw [length]
      exact Nat.le_of_lt_succ (Nat.mod_lt _ (Nat.succ_pos _))
    · rw [FisherYates.shuffled, length]
      exact reached

theorem liveShuffleFrom_perm (next : Nat → Nat) (last counter : Nat) (deck : List Item) :
    (liveShuffleFrom next last counter deck).Perm deck := by
  rcases choices_of_liveShuffleFrom next last counter deck with ⟨choices, _, _, reached⟩
  rw [← reached]
  exact FisherYates.shuffled_perm choices deck

/-- With equally likely orders their number divides that of the words. -/
theorem factorial_dvd_of_equallyLikely
    (distinct : deck.Nodup) (likely : EquallyLikely (LiveGives deck) deck) :
    deck.length.factorial ∣ (2 ^ 32) ^ (deck.length - 1) := by
  classical
  let count := deck.length - 1
  let given : List Nat → List Item := fun words =>
    liveShuffleFrom (fun counter => words.getD counter 0) count 0 deck
  have finite : (Words count).Finite := finite_words count
  let orders := deck.permutations.toFinset
  have each : ∀ order ∈ orders, {words ∈ finite.toFinset | given words = order}.card =
        {words | words ∈ Words count ∧ LiveGives deck words deck}.ncard := by
    intro order member
    have permuted : order.Perm deck := List.mem_permutations.mp (List.mem_toFinset.mp member)
    rw [← likely count order deck permuted (List.Perm.refl deck), ← Set.ncard_coe_finset]
    congr 1
    ext words
    rw [Finset.mem_coe, Finset.mem_filter, Set.Finite.mem_toFinset]
    refine and_congr_right fun inside => ?_
    exact ⟨fun equal => ⟨inside.1.ge, equal⟩, fun gives => gives.2⟩
  have total : finite.toFinset.card = (2 ^ 32) ^ count := by
    rw [← Set.ncard_eq_toFinset_card (Words count) finite]
    exact ncard_words count
  have permutes : ∀ words ∈ finite.toFinset, given words ∈ orders :=
    fun words _ =>
      List.mem_toFinset.mpr (List.mem_permutations.mpr (liveShuffleFrom_perm _ _ _ deck))
  have fibres := Finset.card_eq_sum_card_fiberwise permutes
  rw [total, Finset.sum_congr rfl each, Finset.sum_const,
    List.toFinset_card_of_nodup (List.nodup_permutations deck distinct),
    List.length_permutations, smul_eq_mul] at fibres
  exact ⟨_, fibres⟩

/-- The live shuffle is unbiased on decks of at most two cards only. -/
theorem live_equallyLikely_iff (distinct : deck.Nodup) :
    EquallyLikely (LiveGives deck) deck ↔ deck.length ≤ 2 := by
  constructor
  · intro likely
    by_contra large
    have three : 3 ∣ deck.length.factorial := Nat.dvd_factorial (by decide) (Nat.lt_of_not_le large)
    have power : 3 ∣ (2 ^ 32) ^ (deck.length - 1) :=
      three.trans (factorial_dvd_of_equallyLikely distinct likely)
    have prime : Nat.Prime 3 := Nat.prime_three
    exact absurd (prime.dvd_of_dvd_pow (prime.dvd_of_dvd_pow power)) (by decide)
  · exact live_equallyLikely_of_small distinct

end Live

/-! ## Both shuffles -/

/--
Both loops are the Fisher–Yates loop on allowed choices, which correspond one
to one to the orders of the deck.
-/
structure OneToOne {Item : Type} (hashes : Hashes) (deck : List Item) : Prop where
  choices : Set.BijOn (fun choices => FisherYates.shuffled choices deck)
      {choices |
        choices.length = deck.length - 1 ∧ FisherYates.Allowed choices}
      {order | order.Perm deck}
  seed : ∀ fuel rng order after, shuffleWith hashes fuel rng deck = .ok (order, after) →
      ∃ choices : List Nat, choices.length = deck.length - 1 ∧ FisherYates.Allowed choices ∧
        FisherYates.shuffled choices deck = order
  live : ∀ next : Nat → Nat, ∃ choices : List Nat, choices.length = deck.length - 1 ∧
      FisherYates.Allowed choices ∧ FisherYates.shuffled choices deck =
        liveShuffleFrom next (deck.length - 1) 0 deck

/--
Equally many words give each sample below a bound, and a word that is
rejected moves the generator on by itself alone.
-/
structure FairSamples (hashes : Hashes) (handSeed : Bytes32) : Prop where
  accepted : ∀ bound residue, bound ≤ 2 ^ 32 → residue < bound →
    {word | word < 2 ^ 32 ∧ ∃ after, uniformBelow hashes 1 bound
            ((HandSeedCsprng.new handSeed).forceUint32Sequence [word]) =
          .ok (residue, after)}.ncard = 2 ^ 32 / bound
  rejected : ∀ fuel bound rng, 1 < bound → bound ≤ 2 ^ 32 →
    2 ^ 32 / bound * bound ≤ (nextUint32 hashes rng).1 → uniformBelow hashes (fuel + 1) bound rng =
        uniformBelow hashes fuel bound (nextUint32 hashes rng).2

theorem oneToOne {Item : Type} {deck : List Item}
    (hashes : Hashes) (distinct : deck.Nodup) : OneToOne hashes deck where
  choices := FisherYates.shuffled_bijOn distinct
  seed := by
    intro fuel rng order after shuffled
    by_cases large : 2 ^ 32 < deck.length
    · exact absurd shuffled (not_shuffleWith_of_large large)
    · have fits : deck.length - 1 < 2 ^ 32 := by
        omega
      rcases choices_of_shuffleFrom fits shuffled with ⟨choices, length, allowed, reached, _⟩
      exact ⟨choices, length, allowed, reached⟩
  live := fun next =>
    choices_of_liveShuffleFrom next (deck.length - 1) 0 deck

/-- One given word, sampled below a bound. -/
theorem uniformBelow_one_iff {hashes : Hashes} {handSeed : Bytes32} {bound word residue : Nat}
    (many : 1 < bound) (fits : bound ≤ 2 ^ 32) (small : word < 2 ^ 32) : (∃ after,
    uniformBelow hashes 1 bound ((HandSeedCsprng.new handSeed).forceUint32Sequence [word]) =
      .ok (residue, after)) ↔ word < 2 ^ 32 / bound * bound ∧ word % bound = residue := by
  have given : Given [word] 1 ((HandSeedCsprng.new handSeed).forceUint32Sequence [word]) :=
    given_new handSeed fun other member => by
      rw [List.mem_singleton.mp member]
      exact small
  have value := (@nextUint32_given hashes _ _ _ _ given).1
  rw [uniformBelow_eq many fits, sampleBelow]
  simp only [value]
  by_cases accepted : word < 2 ^ 32 / bound * bound
  · rw [if_pos accepted]
    constructor
    · rintro ⟨after, drawn⟩
      cases drawn
      exact ⟨accepted, rfl⟩
    · rintro ⟨_, rfl⟩
      exact ⟨_, rfl⟩
  · rw [if_neg accepted]
    constructor
    · rintro ⟨after, drawn⟩
      cases drawn
    · rintro ⟨impossible, _⟩
      exact absurd impossible accepted

theorem fairSamples (hashes : Hashes) (handSeed : Bytes32) : FairSamples hashes handSeed where
  accepted := by
    intro bound residue fits below
    rcases Nat.eq_or_lt_of_le (Nat.zero_lt_of_lt below) with one | many
    · have least : residue = 0 := by
        omega
      subst least
      have single : bound = 1 := one.symm
      subst single
      have all :
          {word | word < 2 ^ 32 ∧ ∃ after, uniformBelow hashes 1 1
                  ((HandSeedCsprng.new handSeed).forceUint32Sequence [word]) =
                .ok (0, after)} = Set.Iio (2 ^ 32) := by
        ext word
        exact ⟨fun member => member.1, fun small => ⟨small, _, rfl⟩⟩
      rw [all, ← Finset.coe_range, Set.ncard_coe_finset, Finset.card_range, Nat.div_one]
    · have accepts := @ncard_accepted (2 ^ 32) bound residue below
      rw [← accepts]
      congr 1
      ext word
      constructor
      · rintro ⟨small, drawn⟩
        exact (uniformBelow_one_iff many fits small).mp drawn
      · rintro ⟨accepted, equal⟩
        have small : word < 2 ^ 32 := accepted_lt_size accepted
        exact ⟨small, (uniformBelow_one_iff many fits small).mpr ⟨accepted, equal⟩⟩
  rejected := by
    intro fuel bound rng many fits rejected
    rw [uniformBelow_eq many fits, uniformBelow_eq many fits, sampleBelow,
      if_neg (Nat.not_lt.mpr rejected)]

/--
Both shuffles go one to one through the orders of a deck, samples are fair,
and the shuffle of hand seeds is unbiased.  The live shuffle is unbiased if
and only if the deck has at most two cards.
-/
theorem shuffles_unbiased {Item : Type}
    (hashes : Hashes) (handSeed : Bytes32) (deck : List Item)
    (distinct : deck.Nodup) :
    OneToOne hashes deck ∧ FairSamples hashes handSeed ∧
      EquallyLikely (SeedGives hashes handSeed deck) deck ∧
      (deck.length ≤ 2 ^ 32 → ∀ order : List Item, order.Perm deck →
        ∃ words ∈ Words (deck.length - 1),
          SeedGives hashes handSeed deck words order) ∧
      (EquallyLikely (LiveGives deck) deck ↔ deck.length ≤ 2) :=
  ⟨oneToOne hashes distinct, fairSamples hashes handSeed,
    seedGives_equallyLikely distinct,
    fun fits _ orders => exists_words_seedGives distinct fits orders,
    live_equallyLikely_iff distinct⟩

namespace Replays

theorem nodup_fullDeck : fullDeck.Nodup := by decide

/-- The words of a deck of three cards. -/
theorem shuffles_unbiased_threeCards :
    [0, 1, 2].Nodup ∧
      (EquallyLikely (LiveGives [0, 1, 2]) [0, 1, 2] ↔
        [0, 1, 2].length ≤ 2) :=
  ⟨by decide,
    (shuffles_unbiased (Hashes.mk (fun _ => 0) fun _ => 0) 0 [0, 1, 2]
      (by decide)).2.2.2.2⟩

/-- The orders of the full deck are not equally likely in the engine. -/
theorem fullDeck_is_biased :
    ¬ EquallyLikely
      (fun words order =>
        fullDeck.length - 1 ≤ words.length ∧
          Engine.shuffleFrom (fun counter => words.getD counter 0)
              (fullDeck.length - 1) 0 fullDeck =
            order)
      fullDeck := by
  simp only [engine_shuffleFrom_eq]
  intro likely
  exact absurd ((live_equallyLikely_iff nodup_fullDeck).mp likely)
    (by decide)

end Replays

end Mozetto.DealerDeck
