import Mathlib.Data.Fin.VecNotation
import Mozetto.Engine.HandOrder

/-!
# What five cards are

The categories of poker in terms of the cards: how often values occur, whether
they are in a row and whether the suits are the same.  Ranking five cards
gives exactly the category and the kickers of that classification.
-/

namespace Mozetto.Engine

/-! ## The classification -/

/-- The values of cards. -/
def cardValues (cards : List Card) : List Nat := cards.map fun card => rankValue card.rank

def Suited (cards : List Card) : Prop := ∀ first ∈ cards, ∀ second ∈ cards, first.suit = second.suit

/-- Five values in a row; the ace is above the king or below the two. -/
def Run (values : List Nat) (high : Nat) : Prop :=
  (∃ low, high = low + 4 ∧ values.Perm [low + 4, low + 3, low + 2, low + 1, low]) ∨
  high = 5 ∧ values.Perm [14, 5, 4, 3, 2]

/--
How often values occur, with the kickers that order hands of one category.
Five equal values, which one deck does not have, are a high card.
-/
inductive Shape (values : List Nat) : HandCategory → List Nat → Prop where
  | fourKind {quad kicker : Nat} (apart : quad ≠ kicker)
      (perm : values.Perm [quad, quad, quad, quad, kicker]) : Shape values .fourKind [quad, kicker]
  | fullHouse {three two : Nat} (apart : three ≠ two)
      (perm : values.Perm [three, three, three, two, two]) : Shape values .fullHouse [three, two]
  | threeKind {three high low : Nat} (order : low < high) (apart : three ≠ high ∧ three ≠ low)
      (perm : values.Perm [three, three, three, high, low]) :
      Shape values .threeKind [three, high, low]
  | twoPair {high low kicker : Nat} (order : low < high) (apart : high ≠ kicker ∧ low ≠ kicker)
      (perm : values.Perm [high, high, low, low, kicker]) :
      Shape values .twoPair [high, low, kicker]
  | pair {two high middle low : Nat} (order : low < middle ∧ middle < high)
      (apart : two ≠ high ∧ two ≠ middle ∧ two ≠ low)
      (perm : values.Perm [two, two, high, middle, low]) :
      Shape values .pair [two, high, middle, low]
  | highCard {first second third fourth fifth : Nat}
      (order : fifth < fourth ∧ fourth < third ∧ third < second ∧ second < first)
      (perm : values.Perm [first, second, third, fourth, fifth]) :
      Shape values .highCard [first, second, third, fourth, fifth]
  | alike {value : Nat} (perm : values.Perm [value, value, value, value, value]) :
      Shape values .highCard [value, value, value, value, value]

/-- The shapes that are worth more than a flush and a straight. -/
def HandCategory.Strong (category : HandCategory) : Prop :=
  category = .fourKind ∨ category = .fullHouse

/-- What cards are, with their kickers. -/
inductive Classified (cards : List Card) : HandCategory → List Nat → Prop where
  | straightFlush {high : Nat} (suited : Suited cards) (run : Run (cardValues cards) high) :
      Classified cards .straightFlush [high]
  | strong {category : HandCategory} {kickers : List Nat}
      (shape : Shape (cardValues cards) category kickers) (above : category.Strong) :
      Classified cards category kickers
  | flush {category : HandCategory} {others kickers : List Nat}
      (suited : Suited cards) (broken : ∀ high, ¬ Run (cardValues cards) high)
      (shape : Shape (cardValues cards) category others) (below : ¬ category.Strong)
      (perm : kickers.Perm (cardValues cards)) (descending : kickers.Pairwise (· ≥ ·)) :
      Classified cards .flush kickers
  | straight {high : Nat} (mixed : ¬ Suited cards) (run : Run (cardValues cards) high) :
      Classified cards .straight [high]
  | plain {category : HandCategory} {kickers : List Nat}
      (mixed : ¬ Suited cards) (broken : ∀ high, ¬ Run (cardValues cards) high)
      (shape : Shape (cardValues cards) category kickers) (below : ¬ category.Strong) :
      Classified cards category kickers

/-! ## Counted values -/

/-- More often first, then the greater value. -/
def Before (first second : Nat × Nat) : Prop :=
  second.2 < first.2 ∨ second.2 = first.2 ∧ second.1 ≤ first.1

instance : DecidableRel Before := fun first second =>
  inferInstanceAs (Decidable (second.2 < first.2 ∨ second.2 = first.2 ∧ second.1 ≤ first.1))

instance : Std.Total Before where
  total first second := by
    unfold Before
    omega

instance : IsTrans (Nat × Nat) Before where
  trans first second third := by
    unfold Before
    omega

instance : Std.Antisymm Before where
  antisymm first second forth back := by
    apply Prod.ext <;> unfold Before at forth back <;> omega

/-- The counts of values, by what they are a permutation of. -/
theorem byCount_eq {values expanded : List Nat} {counts : List (Nat × Nat)}
    (perm : values.Perm expanded) (keys : (counts.map Prod.fst).Nodup)
    (members : ∀ value, value ∈ counts.map Prod.fst ↔ value ∈ expanded)
    (counted : ∀ entry ∈ counts, expanded.count entry.1 = entry.2)
    (sorted : counts.Pairwise Before) : byCount values = counts := by
  have distinct : values.reverse.dedup.reverse.Nodup := List.nodup_reverse.mpr (List.nodup_dedup _)
  have keyed : values.reverse.dedup.reverse.Perm (counts.map Prod.fst) := by
    rw [List.perm_ext_iff_of_nodup distinct keys]
    intro value
    rw [List.mem_reverse, List.mem_dedup, List.mem_reverse, members, perm.mem_iff]
  have entries : (counts.map Prod.fst).map (fun value => (value, values.count value)) =
      counts := by
    rw [List.map_map]
    apply (List.map_congr_left ?_).trans (List.map_id counts)
    intro entry member
    exact Prod.ext rfl ((perm.count_eq entry.1).trans (counted entry member))
  have listed : (countValues values).Perm counts := by
    have mapped := keyed.map fun value => (value, values.count value)
    rw [entries] at mapped
    exact mapped
  exact List.Perm.eq_of_pairwise' (r := Before) (List.pairwise_insertionSort Before _) sorted
    ((List.perm_insertionSort Before _).trans listed)

/-! ## Straights -/

theorem windows_of_short {values : List Nat} (short : values.length < 5) : windows values = [] := by
  cases values with
  | nil => rfl
  | cons value rest => rw [windows, if_neg (Nat.not_le.mpr short)]

/-- Five values have one window. -/
theorem windows_five (first second third fourth fifth : Nat) :
    windows [first, second, third, fourth, fifth] = [[first, second, third, fourth, fifth]] := by
  have long : 5 ≤ [first, second, third, fourth, fifth].length := Nat.le_refl 5
  have short : [second, third, fourth, fifth].length < 5 := Nat.lt_succ_self 4
  rw [windows, if_pos long, windows_of_short short]
  rfl

theorem windows_six (first second third fourth fifth sixth : Nat) :
    windows [first, second, third, fourth, fifth, sixth] = [[first, second, third, fourth, fifth],
        [second, third, fourth, fifth, sixth]] := by
  have long : 5 ≤ [first, second, third, fourth, fifth, sixth].length := Nat.le_succ 5
  rw [windows, if_pos long, windows_five]
  rfl

/-- Four values and the ace below them are not in a row. -/
theorem find_descending_of_short {values : List Nat} (few : values.length ≤ 4)
    (descending : values.Pairwise (· ≥ ·))
    (bounded : ∀ value ∈ values, value ≤ 14) (apart : List Nat → Bool) :
    (windows (if 14 ∈ values then values ++ [1] else values)).find? (fun slice =>
          slice.getD 0 0 = slice.getD 4 0 + 4 && apart slice) =
      none := by
  by_cases ace : 14 ∈ values
  · rw [if_pos ace]
    by_cases four : values.length = 4
    · match values, four with
      | [first, second, third, fourth], _ =>
        have high : first = 14 := by
          rcases List.pairwise_cons.mp descending with ⟨above, _⟩
          have limit := bounded first List.mem_cons_self
          rcases List.mem_cons.mp ace with equal | later
          · exact equal.symm
          · exact Nat.le_antisymm limit (above 14 later)
        subst high
        rw [List.cons_append, List.cons_append, List.cons_append,
          List.cons_append, List.nil_append, windows_five]
        rfl
    · have short : (values ++ [1]).length < 5 := by
        rw [List.length_append, List.length_singleton]
        omega
      rw [windows_of_short short]
      rfl
  · rw [if_neg ace, windows_of_short (Nat.lt_succ_of_le few)]
    rfl

theorem find_ascending_of_short {values : List Nat} (few : values.length ≤ 4)
    (ascending : values.Pairwise (· ≤ ·)) (bounded : ∀ value ∈ values, value ≤ 14) :
    (windows (if 14 ∈ values then 1 :: values else values)).find? (fun slice =>
          [1, 2, 3, 4].all fun j => slice.getD j 0 = slice.getD 0 0 + j) =
      none := by
  by_cases ace : 14 ∈ values
  · rw [if_pos ace]
    by_cases four : values.length = 4
    · match values, four with
      | [first, second, third, fourth], _ =>
        have high : fourth = 14 := by
          have limit :=
            bounded fourth (by simp only [List.mem_cons, true_or, or_true])
          simp only [List.pairwise_cons, List.mem_cons, forall_eq_or_imp] at ascending
          simp only [List.mem_cons, List.not_mem_nil, or_false] at ace
          omega
        subst high
        rw [windows_five]
        simp
    · have short : (1 :: values).length < 5 := by
        rw [List.length_cons]
        omega
      rw [windows_of_short short]
      rfl
  · rw [if_neg ace, windows_of_short (Nat.lt_succ_of_le few)]
    rfl

/-- With a value twice there is no straight. -/
theorem isStraight_of_repeat {vals : List Nat} (few : vals.dedup.length ≤ 4)
    (bounded : ∀ value ∈ vals, value ≤ 14) : isStraight vals = none := by
  have within (order : Nat → Nat → Prop) [DecidableRel order] :
      (vals.dedup.insertionSort order).length ≤ 4 ∧
        ∀ value ∈ vals.dedup.insertionSort order, value ≤ 14 := by
    refine ⟨(List.length_insertionSort _ _).le.trans few, ?_⟩
    intro value member
    exact bounded value (List.mem_dedup.mp ((List.mem_insertionSort _).mp member))
  have first :=
    find_descending_of_short (within (· ≥ ·)).1 (List.pairwise_insertionSort _ _) (within (· ≥ ·)).2
      fun slice => slice.dedup.length = 5
  have second :=
    find_ascending_of_short (within (· ≤ ·)).1 (List.pairwise_insertionSort _ _) (within (· ≤ ·)).2
  simp only [isStraight, first, second, Option.map_none]

/-- Five different values, the greatest first. -/
structure Descending (a b c d e : Nat) : Prop where
  fourth : e < d
  third : d < c
  second : c < b
  first : b < a
  low : 2 ≤ e
  high : a ≤ 14

theorem isStraight_descending {a b c d e : Nat} (order : Descending a b c d e) :
    isStraight [a, b, c, d, e] = if a = e + 4 then some a
      else if a = 14 ∧ b = 5 then some 5
      else none := by
  rcases order with ⟨_, _, _, _, _, _⟩
  have distinct : [a, b, c, d, e].Nodup := by
    simp only [List.nodup_cons, List.mem_cons, List.not_mem_nil, or_false,
      not_or, List.nodup_nil, not_false_eq_true, and_true]
    omega
  have withAce : [b, c, d, e, 1].Nodup := by
    simp only [List.nodup_cons, List.mem_cons, List.not_mem_nil, or_false,
      not_or, List.nodup_nil, not_false_eq_true, and_true]
    omega
  have descending : [a, b, c, d, e].Pairwise (· ≥ ·) := by
    simp only [List.pairwise_cons, List.mem_cons, List.not_mem_nil,
      or_false, forall_eq_or_imp, forall_eq, false_implies, implies_true,
      List.Pairwise.nil, and_true]
    omega
  have ascending : [e, d, c, b, a].Pairwise (· ≤ ·) := by
    simp only [List.pairwise_cons, List.mem_cons, List.not_mem_nil,
      or_false, forall_eq_or_imp, forall_eq, false_implies, implies_true,
      List.Pairwise.nil, and_true]
    omega
  have down : [a, b, c, d, e].dedup.insertionSort (· ≥ ·) = [a, b, c, d, e] := by
    rw [distinct.dedup, descending.insertionSort_eq]
  have up : [a, b, c, d, e].dedup.insertionSort (· ≤ ·) = [e, d, c, b, a] := by
    rw [distinct.dedup]
    apply List.Perm.eq_of_pairwise' (List.pairwise_insertionSort _ _) ascending
    exact (List.perm_insertionSort _ _).trans (List.reverse_perm [e, d, c, b, a])
  have ace : 14 ∈ [a, b, c, d, e] ↔ a = 14 := by
    simp only [List.mem_cons, List.not_mem_nil, or_false]
    omega
  have acesUp : 14 ∈ [e, d, c, b, a] ↔ a = 14 := by
    simp only [List.mem_cons, List.not_mem_nil, or_false]
    omega
  have ladder : ([1, 2, 3, 4].all fun j =>
    decide ([e, d, c, b, a].getD j 0 = e + j)) =
    decide (a = e + 4) := by
    rw [Bool.eq_iff_iff]
    simp only [List.all_cons, List.all_nil, List.getD_cons_succ,
      List.getD_cons_zero, Bool.and_eq_true, decide_eq_true_eq, and_true]
    omega
  have wheel : ([1, 2, 3, 4].all fun j =>
    decide ([1, e, d, c, b].getD j 0 = 1 + j)) =
    decide (b = 5) := by
    rw [Bool.eq_iff_iff]
    simp only [List.all_cons, List.all_nil, List.getD_cons_succ,
      List.getD_cons_zero, Bool.and_eq_true, decide_eq_true_eq, and_true]
    omega
  simp only [isStraight, down, up, ace, acesUp]
  by_cases high : a = 14
  · have apart : ¬ (a = 14 ∧ e = 1) := by
      omega
    simp only [if_pos high, List.cons_append, List.nil_append, windows_six,
      List.find?_cons, List.getD_cons_zero, List.getD_cons_succ,
      distinct.dedup, withAce.dedup, List.length_cons, List.length_nil, ladder, wheel]
    by_cases run : a = e + 4
    · simp [run, apart]
    · by_cases five : b = 5
      · simp [run, five]
        exact high
      · simp [run, five]
  · simp only [if_neg high, windows_five, List.find?_cons,
      List.getD_cons_zero, List.getD_cons_succ, distinct.dedup,
      List.length_cons, List.length_nil, ladder]
    by_cases run : a = e + 4
    · simp [run]
    · simp [run, high]

/-- A run is what the detection of straights finds. -/
theorem isStraight_iff_run {vals : List Nat} {high : Nat} (five : vals.length = 5)
    (descending : vals.Pairwise (· ≥ ·)) (bounded : ∀ value ∈ vals, 2 ≤ value ∧ value ≤ 14) :
    isStraight vals = some high ↔ Run vals high := by
  by_cases distinct : vals.Nodup
  · have strict : vals.Pairwise (· > ·) := by
      apply (descending.and distinct).imp
      intro first second both
      exact Nat.lt_of_le_of_ne both.1 both.2.symm
    match vals, five with
    | [a, b, c, d, e], _ =>
      have order : Descending a b c d e := by
        simp only [List.pairwise_cons, List.mem_cons, List.not_mem_nil,
          or_false, forall_eq_or_imp, forall_eq] at strict bounded
        constructor <;> omega
      have exact_of (others : List Nat) (sorted : others.Pairwise (· > ·)) :
          [a, b, c, d, e].Perm others ↔ [a, b, c, d, e] = others :=
        ⟨fun perm => perm.eq_of_pairwise' strict sorted, fun equal => equal ▸ List.Perm.refl _⟩
      have ladder (low : Nat) : [low + 4, low + 3, low + 2, low + 1, low].Pairwise (· > ·) := by
        simp only [List.pairwise_cons, List.mem_cons, List.not_mem_nil,
          or_false, forall_eq_or_imp, forall_eq, false_implies,
          implies_true, List.Pairwise.nil, and_true]
        omega
      rcases order with ⟨_, _, _, _, _, _⟩
      rw [isStraight_descending ⟨‹_›, ‹_›, ‹_›, ‹_›, ‹_›, ‹_›⟩, Run,
        exact_of [14, 5, 4, 3, 2] (by decide)]
      simp only [exact_of _ (ladder _), List.cons.injEq, and_true]
      constructor
      · intro found
        split at found
        · cases found
          exact .inl ⟨e, by omega⟩
        · split at found
          · cases found
            exact .inr (by omega)
          · cases found
      · rintro (⟨low, rfl, equal⟩ | ⟨rfl, equal⟩)
        · rw [if_pos (by omega)]
          exact congrArg some (by omega)
        · rw [if_neg (by omega), if_pos (by omega)]
  · have few : vals.dedup.length ≤ 4 := by
      have shorter : vals.dedup.length < vals.length := by
        apply Nat.lt_of_le_of_ne (List.dedup_sublist vals).length_le
        intro same
        apply distinct
        rw [← (List.dedup_sublist vals).eq_of_length same]
        exact List.nodup_dedup vals
      omega
    rw [isStraight_of_repeat few fun value member => (bounded value member).2]
    constructor
    · intro impossible
      cases impossible
    · rintro (⟨low, _, perm⟩ | ⟨_, perm⟩)
      · refine absurd (perm.nodup_iff.mpr ?_) distinct
        simp
      · exact absurd (perm.nodup_iff.mpr (by decide)) distinct

/-! ## Shapes -/

/-- Two blocks of a list, one before the other. -/
theorem perm_blocks (front middle back : List Nat) :
    (front ++ middle ++ back).Perm (middle ++ front ++ back) :=
  List.perm_append_comm.append_right back

/-- Five values, the greatest first, have a shape. -/
theorem exists_shape {vals : List Nat} (five : vals.length = 5)
    (descending : vals.Pairwise (· ≥ ·)) : ∃ category kickers, Shape vals category kickers := by
  match vals, five with
  | [a, b, c, d, e], _ =>
    simp only [List.pairwise_cons, List.mem_cons, List.not_mem_nil,
      or_false, forall_eq_or_imp, forall_eq] at descending
    have ab : b ≤ a := descending.1.1
    have bc : c ≤ b := descending.2.1.1
    have cd : d ≤ c := descending.2.2.1.1
    have de : e ≤ d := descending.2.2.2.1
    rcases Nat.eq_or_lt_of_le ab with rfl | ab <;>
      rcases Nat.eq_or_lt_of_le bc with rfl | bc <;>
      rcases Nat.eq_or_lt_of_le cd with rfl | cd <;>
      rcases Nat.eq_or_lt_of_le de with rfl | de
    · exact ⟨_, _, .alike (List.Perm.refl _)⟩
    · exact ⟨_, _, .fourKind (by omega) (List.Perm.refl _)⟩
    · exact ⟨_, _, .fullHouse (by omega) (List.Perm.refl _)⟩
    · exact ⟨_, _, .threeKind de (by omega) (List.Perm.refl _)⟩
    · exact ⟨_, _, .fullHouse (by omega) (perm_blocks [_, _] [_, _, _] [])⟩
    · exact ⟨_, _, .twoPair bc (by omega) (List.Perm.refl _)⟩
    · exact ⟨_, _, .twoPair (Nat.lt_trans cd bc) (by omega)
        ((perm_blocks [_] [_, _] []).append_left [_, _])⟩
    · exact ⟨_, _, .pair ⟨de, cd⟩ (by omega) (List.Perm.refl _)⟩
    · exact ⟨_, _, .fourKind (by omega) (perm_blocks [_] [_, _, _, _] [])⟩
    · exact ⟨_, _, .threeKind (by omega) (by omega) (perm_blocks [_] [_, _, _] [_])⟩
    · exact ⟨_, _, .twoPair cd (by omega) (perm_blocks [_] [_, _, _, _] [])⟩
    · exact ⟨_, _, .pair ⟨de, by omega⟩ (by omega) (perm_blocks [_] [_, _] [_, _])⟩
    · exact ⟨_, _, .threeKind ab (by omega) (perm_blocks [_, _] [_, _, _] [])⟩
    · exact ⟨_, _, .pair ⟨by omega, ab⟩ (by omega) (perm_blocks [_, _] [_, _] [_])⟩
    · exact ⟨_, _, .pair ⟨bc, ab⟩ (by omega) (perm_blocks [_, _, _] [_, _] [])⟩
    · exact ⟨_, _, .highCard ⟨de, cd, bc, ab⟩ (List.Perm.refl _)⟩

/-! ## Ranking -/

/-- The ranking of five cards by what it looks at. -/
def ranked (flush : Bool) (straight : Option Nat) (counts : List (Nat × Nat))
    (vals : List Nat) : RankedHand :=
  let first := counts.getD 0 (0, 0)
  let second := counts.getD 1 (0, 0)
  let kicker := (kickers counts).headD 0
  match flush, straight with
  | true, some straightHigh =>
      { category := .straightFlush
        score := [HandCategory.straightFlush.score, straightHigh]
        label :=
          if straightHigh = 14 then "Royal flush" else "Straight flush" }
  | flush, straightHigh =>
      if first.2 = 4 then
        { category := .fourKind
          score := [HandCategory.fourKind.score, first.1, kicker]
          label := "Four of a kind" }
      else if first.2 = 3 ∧ second.2 = 2 then
        { category := .fullHouse
          score := [HandCategory.fullHouse.score, first.1, second.1]
          label := "Full house" }
      else if flush then
        { category := .flush
          score := HandCategory.flush.score :: vals
          label := "Flush" }
      else
        match straightHigh with
        | some straightHigh =>
            { category := .straight
              score := [HandCategory.straight.score, straightHigh]
              label := "Straight" }
        | none =>
            if first.2 = 3 then
              { category := .threeKind
                score := HandCategory.threeKind.score :: first.1 :: kickers counts
                label := "Three of a kind" }
            else if first.2 = 2 ∧ second.2 = 2 then
              { category := .twoPair
                score :=
                  [HandCategory.twoPair.score, max first.1 second.1, min first.1 second.1, kicker]
                label := "Two pair" }
            else if first.2 = 2 then
              { category := .pair
                score := HandCategory.pair.score :: first.1 :: kickers counts
                label := "Pair" }
            else
              { category := .highCard
                score := HandCategory.highCard.score :: vals
                label := "High card" }

def flushOf (cards : List Card) : Bool :=
  cards.all fun card => some card.suit = cards.head?.map Card.suit

def sortedValues (cards : List Card) : List Nat := (cardValues cards).insertionSort (· ≥ ·)

theorem rankFive_eq_ranked (cards : List Card) : rankFive cards =
    ranked (flushOf cards) (isStraight (sortedValues cards))
      (byCount (sortedValues cards)) (sortedValues cards) := rfl

theorem flushOf_iff {cards : List Card} : flushOf cards = true ↔ Suited cards := by
  cases cards with
  | nil => exact ⟨fun _ first member => absurd member List.not_mem_nil, fun _ => rfl⟩
  | cons head rest =>
    rw [flushOf, List.all_eq_true]
    constructor
    · intro same first member second other
      have one := of_decide_eq_true (same first member)
      have two := of_decide_eq_true (same second other)
      exact Option.some.inj (one.trans two.symm)
    · intro suited card member
      exact decide_eq_true (congrArg some (suited card member head List.mem_cons_self))

/-- The category and the score of a hand. -/
def Outcome (hand : RankedHand) (category : HandCategory) (kickers : List Nat) :
    Prop :=
  hand.category = category ∧ hand.score = category.score :: kickers

/-- A strong shape is ranked before flushes and straights. -/
theorem ranked_strong {vals kickers : List Nat} {category : HandCategory} (flush : Bool)
    (shape : Shape vals category kickers) (above : category.Strong) :
    Outcome (ranked flush none (byCount vals) vals) category kickers := by
  cases shape with
  | @fourKind quad kicker apart perm =>
    have counts : byCount vals = [(quad, 4), (kicker, 1)] := by
      apply byCount_eq perm
      · simp [apart]
      · simp
      · simp [List.count_cons, apart, apart.symm]
      · simp [Before]
    rw [counts]
    cases flush <;> exact ⟨rfl, rfl⟩
  | @fullHouse three two apart perm =>
    have counts : byCount vals = [(three, 3), (two, 2)] := by
      apply byCount_eq perm
      · simp [apart]
      · simp
      · simp [List.count_cons, apart, apart.symm]
      · simp [Before]
    rw [counts]
    cases flush <;> exact ⟨rfl, rfl⟩
  | threeKind | twoPair | pair | highCard | alike =>
    rcases above with impossible | impossible <;> cases impossible

/-- The counts of a weak shape are below those of the strong ones. -/
theorem ranked_weak {vals kickers : List Nat} {category : HandCategory}
    (descending : vals.Pairwise (· ≥ ·))
    (shape : Shape vals category kickers) (below : ¬ category.Strong) :
    Outcome (ranked true none (byCount vals) vals) .flush vals ∧
      (∀ high, Outcome (ranked false (some high) (byCount vals) vals) .straight [high]) ∧
      Outcome (ranked false none (byCount vals) vals) category kickers := by
  cases shape with
  | fourKind => exact absurd (.inl rfl) below
  | fullHouse => exact absurd (.inr rfl) below
  | @threeKind three high low order apart perm =>
    have counts : byCount vals = [(three, 3), (high, 1), (low, 1)] := by
      apply byCount_eq perm
      · simp [apart, order.ne']
      · simp
      · simp [List.count_cons, apart.1, apart.2, apart.1.symm, apart.2.symm, order.ne, order.ne']
      · simp [Before, order.le]
    rw [counts]
    exact ⟨⟨rfl, rfl⟩, fun _ => ⟨rfl, rfl⟩, rfl, rfl⟩
  | @twoPair high low kicker order apart perm =>
    have counts : byCount vals = [(high, 2), (low, 2), (kicker, 1)] := by
      apply byCount_eq perm
      · simp [apart, order.ne']
      · simp
      · simp [List.count_cons, apart.1, apart.2, apart.1.symm, apart.2.symm, order.ne, order.ne']
      · simp [Before, order.le]
    rw [counts]
    refine ⟨⟨rfl, rfl⟩, fun _ => ⟨rfl, rfl⟩, rfl, ?_⟩
    show [_, max high low, min high low, _] = _
    rw [Nat.max_eq_left order.le, Nat.min_eq_right order.le]
    rfl
  | @pair two high middle low order apart perm =>
    have counts : byCount vals = [(two, 2), (high, 1), (middle, 1), (low, 1)] := by
      rcases order with ⟨lower, upper⟩
      have outer := lower.trans upper
      rcases apart with ⟨one, other, last⟩
      apply byCount_eq perm
      · simp [one, other, last, upper.ne', lower.ne', outer.ne']
      · simp
      · simp [List.count_cons, one, other, last, one.symm, other.symm,
          last.symm, upper.ne, upper.ne', lower.ne, lower.ne', outer.ne, outer.ne']
      · simp [Before, upper.le, lower.le, outer.le]
    rw [counts]
    exact ⟨⟨rfl, rfl⟩, fun _ => ⟨rfl, rfl⟩, rfl, rfl⟩
  | @highCard a b c d e order perm =>
    rcases order with ⟨de, cd, bc, ab⟩
    have strict : [a, b, c, d, e].Pairwise (· > ·) := by
      simp only [List.pairwise_cons, List.mem_cons, List.not_mem_nil,
        or_false, forall_eq_or_imp, forall_eq, false_implies,
        implies_true, List.Pairwise.nil, and_true]
      omega
    have distinct : [a, b, c, d, e].Nodup := strict.imp Nat.ne_of_gt
    have sorted : vals = [a, b, c, d, e] :=
      perm.eq_of_pairwise' descending (strict.imp Nat.le_of_lt)
    have counts : byCount vals = [a, b, c, d, e].map fun value => (value, 1) := by
      apply byCount_eq perm
      · rw [List.map_map]
        exact (List.map_id [a, b, c, d, e]).symm ▸ distinct
      · intro value
        rw [List.map_map]
        exact (List.map_id [a, b, c, d, e]).symm ▸ Iff.rfl
      · intro entry member
        rcases List.mem_map.mp member with ⟨value, inside, rfl⟩
        exact List.count_eq_one_of_mem distinct inside
      · rw [List.pairwise_map]
        exact strict.imp fun less => .inr ⟨rfl, Nat.le_of_lt less⟩
    rw [counts, sorted]
    exact ⟨⟨rfl, rfl⟩, fun _ => ⟨rfl, rfl⟩, rfl, rfl⟩
  | @alike value perm =>
    have repeated : vals.Perm (List.replicate 5 value) := perm
    have sorted : vals = [value, value, value, value, value] := List.perm_replicate.mp repeated
    have counts : byCount vals = [(value, 5)] := by
      apply byCount_eq perm
      · simp
      · simp
      · simp
      · simp
    rw [counts, sorted]
    exact ⟨⟨rfl, rfl⟩, fun _ => ⟨rfl, rfl⟩, rfl, rfl⟩

/-! ## Five cards -/

theorem rankValue_bounds (rank : Rank) : 2 ≤ rankValue rank ∧ rankValue rank ≤ 14 := by
  cases rank <;> decide

theorem sortedValues_perm (cards : List Card) : (sortedValues cards).Perm (cardValues cards) :=
  List.perm_insertionSort _ _

theorem sortedValues_descending (cards : List Card) : (sortedValues cards).Pairwise (· ≥ ·) :=
  List.pairwise_insertionSort _ _

theorem length_sortedValues (cards : List Card) : (sortedValues cards).length = cards.length :=
  (sortedValues_perm cards).length_eq.trans (List.length_map _)

theorem isStraight_sortedValues_iff {cards : List Card} {high : Nat} (five : cards.length = 5) :
    isStraight (sortedValues cards) = some high ↔ Run (cardValues cards) high := by
  have bounded : ∀ value ∈ sortedValues cards, 2 ≤ value ∧ value ≤ 14 := by
    intro value member
    rcases List.mem_map.mp ((sortedValues_perm cards).mem_iff.mp member) with ⟨card, _, rfl⟩
    exact rankValue_bounds card.rank
  rw [isStraight_iff_run ((length_sortedValues cards).trans five)
    (sortedValues_descending cards) bounded]
  have same (others : List Nat) :
      (sortedValues cards).Perm others ↔ (cardValues cards).Perm others :=
    ⟨(sortedValues_perm cards).symm.trans, (sortedValues_perm cards).trans⟩
  simp only [Run, same]

theorem isStraight_eq_none_iff {cards : List Card} (five : cards.length = 5) :
    isStraight (sortedValues cards) = none ↔ ∀ high, ¬ Run (cardValues cards) high := by
  rw [Option.eq_none_iff_forall_ne_some]
  exact forall_congr' fun high =>
    not_congr (isStraight_sortedValues_iff five)

theorem Shape.of_perm {values others kickers : List Nat} {category : HandCategory}
    (shape : Shape values category kickers) (same : others.Perm values) :
    Shape others category kickers := by
  cases shape with
  | fourKind apart perm => exact .fourKind apart (same.trans perm)
  | fullHouse apart perm => exact .fullHouse apart (same.trans perm)
  | threeKind order apart perm =>
    exact .threeKind order apart (same.trans perm)
  | twoPair order apart perm => exact .twoPair order apart (same.trans perm)
  | pair order apart perm => exact .pair order apart (same.trans perm)
  | highCard order perm => exact .highCard order (same.trans perm)
  | alike perm => exact .alike (same.trans perm)

/-- Values in a row are all different. -/
theorem Run.nodup {values : List Nat} {high : Nat} (run : Run values high) :
    values.Nodup := by
  rcases run with ⟨low, _, perm⟩ | ⟨_, perm⟩
  · apply perm.nodup_iff.mpr
    simp
  · exact perm.nodup_iff.mpr (by decide)

theorem Shape.not_run_of_strong {values kickers : List Nat} {category : HandCategory}
    (shape : Shape values category kickers) (above : category.Strong)
    (high : Nat) : ¬ Run values high := by
  intro run
  have distinct := run.nodup
  cases shape with
  | fourKind apart perm =>
    have impossible := perm.nodup_iff.mp distinct
    simp at impossible
  | fullHouse apart perm =>
    have impossible := perm.nodup_iff.mp distinct
    simp at impossible
  | threeKind | twoPair | pair | highCard | alike =>
    rcases above with impossible | impossible <;> cases impossible

/-- Cards are ranked as what they are. -/
theorem rankFive_of_classified {cards : List Card} {category : HandCategory} {kickers : List Nat}
    (five : cards.length = 5) (classified : Classified cards category kickers) :
    Outcome (rankFive cards) category kickers := by
  have descending := sortedValues_descending cards
  rw [rankFive_eq_ranked]
  cases classified with
  | straightFlush suited run =>
    rw [flushOf_iff.mpr suited, (isStraight_sortedValues_iff five).mpr run]
    exact ⟨rfl, rfl⟩
  | strong shape above =>
    rw [(isStraight_eq_none_iff five).mpr (shape.not_run_of_strong above)]
    exact ranked_strong _ (shape.of_perm (sortedValues_perm cards)) above
  | flush suited broken shape below perm order =>
    have sorted : sortedValues cards = kickers :=
      ((sortedValues_perm cards).trans perm.symm).eq_of_pairwise' descending order
    rw [flushOf_iff.mpr suited, (isStraight_eq_none_iff five).mpr broken, ← sorted]
    exact (ranked_weak descending (shape.of_perm (sortedValues_perm cards)) below).1
  | straight mixed run =>
    rw [Bool.eq_false_iff.mpr (mt flushOf_iff.mp mixed),
      (isStraight_sortedValues_iff five).mpr run]
    rcases exists_shape ((length_sortedValues cards).trans five) descending with
      ⟨category, kickers, shape⟩
    have below : ¬ category.Strong := fun above =>
      (shape.of_perm (sortedValues_perm cards).symm).not_run_of_strong above _ run
    exact (ranked_weak descending shape below).2.1 _
  | plain mixed broken shape below =>
    rw [Bool.eq_false_iff.mpr (mt flushOf_iff.mp mixed), (isStraight_eq_none_iff five).mpr broken]
    exact (ranked_weak descending (shape.of_perm (sortedValues_perm cards)) below).2.2

/-- Five cards are something. -/
theorem exists_classified {cards : List Card} (five : cards.length = 5) :
    ∃ category kickers, Classified cards category kickers := by
  rcases exists_shape ((length_sortedValues cards).trans five) (sortedValues_descending cards) with
    ⟨category, kickers, sorted⟩
  have shape := sorted.of_perm (sortedValues_perm cards).symm
  by_cases above : category.Strong
  · exact ⟨category, kickers, .strong shape above⟩
  · by_cases suited : Suited cards
    · by_cases run : ∃ high, Run (cardValues cards) high
      · rcases run with ⟨high, run⟩
        exact ⟨_, _, .straightFlush suited run⟩
      · exact ⟨_, _, .flush suited (not_exists.mp run) shape above
          (sortedValues_perm cards) (sortedValues_descending cards)⟩
    · by_cases run : ∃ high, Run (cardValues cards) high
      · rcases run with ⟨high, run⟩
        exact ⟨_, _, .straight suited run⟩
      · exact ⟨_, _, .plain suited (not_exists.mp run) shape above⟩

end Mozetto.Engine
