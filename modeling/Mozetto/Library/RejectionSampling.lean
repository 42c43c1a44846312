import Mathlib.Data.Fintype.BigOperators
import Mathlib.Data.Set.Card
import Mathlib.Data.Set.Finite.List
import Mathlib.Order.Interval.Finset.Nat
import Mathlib.Tactic.Common
import Mathlib.Tactic.Ring

/-!
# Rejection sampling

Words are numbers below a size.  A sample below a bound takes the first word
below the largest multiple of the bound that the size holds, and is the rest
of that word by the bound.  Equally many words give each sample, and so
equally many lists of words give each list of samples.
-/

namespace Mozetto.RejectionSampling

variable (size : Nat)

/-- The first sample of a list of words, and the words after it. -/
def sample (bound : Nat) : List Nat → Option (Nat × List Nat)
  | [] => none
  | word :: words =>
      if word < size / bound * bound then some (word % bound, words)
      else sample bound words

/-- One sample for each bound. -/
def samples : List Nat → List Nat → Option (List Nat × List Nat)
  | [], words => some ([], words)
  | bound :: bounds, words =>
      match sample size bound words with
      | none => none
      | some (first, rest) =>
          (samples bounds rest).map fun drawn => (first :: drawn.1, drawn.2)

/-- The words of a length that give a list of samples. -/
def Giving (bounds results : List Nat) (count : Nat) : Set (List Nat) :=
  {words | words.length = count ∧ (∀ word ∈ words, word < size) ∧
    ∃ rest, samples size bounds words = some (results, rest)}

variable {size}

/-! ## One word -/

/-- The words that give a sample are as many as the bound fits in the size. -/
theorem ncard_accepted {bound result : Nat} (below : result < bound) :
    {word | word < size / bound * bound ∧ word % bound = result}.ncard = size / bound := by
  have positive : 0 < bound := Nat.zero_lt_of_lt below
  have image : {word | word < size / bound * bound ∧ word % bound = result} =
      (fun multiple => bound * multiple + result) '' (Set.Iio (size / bound)) := by
    ext word
    constructor
    · rintro ⟨accepted, rfl⟩
      refine ⟨word / bound, ?_, Nat.div_add_mod word bound⟩
      exact (Nat.div_lt_iff_lt_mul positive).mpr accepted
    · rintro ⟨multiple, fits, rfl⟩
      refine ⟨?_, ?_⟩
      · calc
          bound * multiple + result < bound * multiple + bound := Nat.add_lt_add_left below _
          _ = (multiple + 1) * bound := by ring
          _ ≤ size / bound * bound := Nat.mul_le_mul_right bound fits
      · rw [Nat.mul_add_mod, Nat.mod_eq_of_lt below]
  rw [image, Set.ncard_image_of_injective]
  · rw [← Finset.coe_range, Set.ncard_coe_finset, Finset.card_range]
  · intro multiple other same
    exact Nat.eq_of_mul_eq_mul_left positive (Nat.add_right_cancel same)

/-- A word that gives one sample, changed to give another. -/
theorem retargeted {word bound target : Nat}
    (accepted : word < size / bound * bound) (below : target < bound) :
    word - word % bound + target < size / bound * bound ∧
      (word - word % bound + target) % bound = target ∧
      word - word % bound + target - target + word % bound = word := by
  have positive : 0 < bound := Nat.zero_lt_of_lt below
  have whole : word - word % bound = bound * (word / bound) :=
    (Nat.sub_eq_iff_eq_add (Nat.mod_le _ _)).mpr (Nat.div_add_mod word bound).symm
  rw [whole]
  refine ⟨?_, ?_, ?_⟩
  · have fits : word / bound < size / bound := (Nat.div_lt_iff_lt_mul positive).mpr accepted
    calc
      bound * (word / bound) + target < bound * (word / bound) + bound :=
        Nat.add_lt_add_left below _
      _ = (word / bound + 1) * bound := by ring
      _ ≤ size / bound * bound := Nat.mul_le_mul_right bound fits
  · rw [Nat.mul_add_mod, Nat.mod_eq_of_lt below]
  · rw [Nat.add_sub_cancel]
    exact Nat.div_add_mod word bound

/-! ## Lists of words -/

/-- The words, with those that give samples changed to give others. -/
def retarget (size : Nat) : List Nat → List Nat → List Nat → List Nat
  | bound :: bounds, target :: targets, word :: words =>
      if word < size / bound * bound then
        (word - word % bound + target) :: retarget size bounds targets words
      else word :: retarget size (bound :: bounds) (target :: targets) words
  | _, _, words => words

theorem accepted_lt_size {bound word : Nat}
    (accepted : word < size / bound * bound) : word < size :=
  Nat.lt_of_lt_of_le accepted (Nat.div_mul_le_self size bound)

/-- Changed words give the other samples, and can be changed back. -/
theorem samples_retarget {bounds results targets words rest : List Nat}
    (below : List.Forall₂ (· < ·) targets bounds)
    (drawn : samples size bounds words = some (results, rest)) :
    samples size bounds (retarget size bounds targets words) = some (targets, rest) ∧
      (retarget size bounds targets words).length = words.length ∧ ((∀ word ∈ words, word < size) →
        ∀ word ∈ retarget size bounds targets words, word < size) ∧
      retarget size bounds results (retarget size bounds targets words) =
        words := by
  induction words generalizing bounds results targets with
  | nil =>
    cases below with
    | nil =>
      cases drawn
      exact ⟨rfl, rfl, fun small => small, rfl⟩
    | cons => cases drawn
  | cons word words induction =>
    cases below with
    | nil =>
      cases drawn
      exact ⟨rfl, rfl, fun small => small, rfl⟩
    | @cons target bound targets bounds first later =>
      rw [samples, sample] at drawn
      by_cases accepted : word < size / bound * bound
      · rw [if_pos accepted] at drawn
        rcases Option.map_eq_some_iff.mp drawn with ⟨⟨others, left⟩, next, equal⟩
        cases equal
        rcases induction later next with ⟨gives, same, small, back⟩
        rcases retargeted accepted first with ⟨fits, gets, returns⟩
        have changed : retarget size (bound :: bounds) (target :: targets) (word :: words) =
            (word - word % bound + target) ::
              retarget size bounds targets words := by
          rw [retarget, if_pos accepted]
        rw [changed]
        refine ⟨?_, ?_, ?_, ?_⟩
        · rw [samples, sample, if_pos fits]
          simp only [gets, gives, Option.map_some]
        · rw [List.length_cons, List.length_cons, same]
        · intro every other member
          rcases List.mem_cons.mp member with rfl | member
          · exact accepted_lt_size fits
          · exact small (fun word member =>
                every word (List.mem_cons_of_mem _ member))
              other member
        · rw [retarget, if_pos fits, back, gets, returns]
      · rw [if_neg accepted] at drawn
        have remaining : samples size (bound :: bounds) words = some (results, rest) := drawn
        rcases induction (List.Forall₂.cons first later) remaining with
          ⟨gives, same, small, back⟩
        have changed : retarget size (bound :: bounds) (target :: targets) (word :: words) =
            word :: retarget size (bound :: bounds) (target :: targets)
                words := by
          rw [retarget, if_neg accepted]
        rw [changed]
        refine ⟨?_, ?_, ?_, ?_⟩
        · rw [samples, sample, if_neg accepted]
          exact gives
        · rw [List.length_cons, List.length_cons, same]
        · intro every other member
          rcases List.mem_cons.mp member with rfl | member
          · exact every _ List.mem_cons_self
          · exact small (fun word member =>
                every word (List.mem_cons_of_mem _ member))
              other member
        · cases results with
          | nil =>
            rw [samples] at remaining
            split at remaining
            · cases remaining
            · rcases Option.map_eq_some_iff.mp remaining with ⟨_, _, equal⟩
              cases equal
          | cons result results =>
            rw [retarget, if_neg accepted, back]

theorem sample_lt {bound result : Nat} {words rest : List Nat} (positive : 0 < bound)
    (drawn : sample size bound words = some (result, rest)) : result < bound := by
  induction words with
  | nil => cases drawn
  | cons word words induction =>
    rw [sample] at drawn
    split at drawn
    · cases drawn
      exact Nat.mod_lt _ positive
    · exact induction drawn

/-- Samples are below their bounds. -/
theorem samples_below {bounds results words rest : List Nat}
    (positive : ∀ bound ∈ bounds, 0 < bound)
    (drawn : samples size bounds words = some (results, rest)) :
    List.Forall₂ (· < ·) results bounds := by
  induction bounds generalizing results words with
  | nil =>
    cases drawn
    exact .nil
  | cons bound bounds induction =>
    rw [samples] at drawn
    cases first : sample size bound words with
    | none =>
      rw [first] at drawn
      cases drawn
    | some taken =>
      rw [first] at drawn
      rcases Option.map_eq_some_iff.mp drawn with ⟨others, next, equal⟩
      cases equal
      exact .cons (sample_lt (positive bound List.mem_cons_self) first) (induction
          (fun other member =>
            positive other (List.mem_cons_of_mem _ member))
          next)

/-- Numbers below the bounds, taken as words, give themselves. -/
theorem samples_self {bounds results : List Nat} (fits : ∀ bound ∈ bounds, bound ≤ size)
    (below : List.Forall₂ (· < ·) results bounds) :
    samples size bounds results = some (results, []) := by
  induction below with
  | nil => rfl
  | @cons result bound results bounds first _ induction =>
    have whole : bound ≤ size / bound * bound :=
      Nat.le_mul_of_pos_left bound (Nat.div_pos (fits bound List.mem_cons_self)
          (Nat.zero_lt_of_lt first))
    rw [samples, sample, if_pos (Nat.lt_of_lt_of_le first whole)]
    simp only [induction fun other member =>
      fits other (List.mem_cons_of_mem _ member),
      Option.map_some, Nat.mod_eq_of_lt first]

/-- Where every bound divides the size, no word is rejected. -/
theorem samples_of_dvd {bounds words : List Nat} (divides : ∀ bound ∈ bounds, bound ∣ size)
    (small : ∀ word ∈ words, word < size) (enough : bounds.length ≤ words.length) :
    samples size bounds words = some (List.zipWith (fun word bound => word % bound) words bounds,
        words.drop bounds.length) := by
  induction bounds generalizing words with
  | nil =>
    rw [List.zipWith_nil_right]
    rfl
  | cons bound bounds induction =>
    cases words with
    | nil => exact absurd enough (Nat.not_succ_le_zero _)
    | cons word words =>
      have whole : size / bound * bound = size :=
        Nat.div_mul_cancel (divides bound List.mem_cons_self)
      have remaining :=
        induction (fun other member =>
          divides other (List.mem_cons_of_mem _ member))
          (fun other member =>
            small other (List.mem_cons_of_mem _ member))
          (Nat.le_of_succ_le_succ enough)
      rw [samples, sample, whole, if_pos (small word List.mem_cons_self)]
      simp only [remaining, Option.map_some, List.zipWith_cons_cons,
        List.length_cons, List.drop_succ_cons]

theorem length_sample {bound result : Nat} {words rest : List Nat}
    (drawn : sample size bound words = some (result, rest)) : rest.length < words.length := by
  induction words with
  | nil => cases drawn
  | cons word words induction =>
    rw [sample] at drawn
    split at drawn
    · cases drawn
      exact Nat.lt_succ_self _
    · exact Nat.lt_succ_of_lt (induction drawn)

/-- Every sample takes a word. -/
theorem length_samples {bounds results words rest : List Nat}
    (drawn : samples size bounds words = some (results, rest)) :
    bounds.length + rest.length ≤ words.length := by
  induction bounds generalizing results words with
  | nil =>
    cases drawn
    exact (Nat.zero_add _).le
  | cons bound bounds induction =>
    rw [samples] at drawn
    cases first : sample size bound words with
    | none =>
      rw [first] at drawn
      cases drawn
    | some taken =>
      rw [first] at drawn
      rcases Option.map_eq_some_iff.mp drawn with ⟨others, next, equal⟩
      cases equal
      rw [List.length_cons, Nat.add_right_comm]
      exact Nat.lt_of_le_of_lt (induction next) (length_sample first)

/-- The words of a length are the lists of numbers below the size. -/
theorem image_words (count : Nat) :
    List.map Fin.val '' {words : List (Fin size) | words.length = count} =
      {words | words.length = count ∧ ∀ word ∈ words, word < size} := by
  ext words
  constructor
  · rintro ⟨letters, length, rfl⟩
    refine ⟨(List.length_map _).trans length, ?_⟩
    intro word member
    rcases List.mem_map.mp member with ⟨letter, _, rfl⟩
    exact letter.isLt
  · rintro ⟨length, small⟩
    refine ⟨words.attach.map fun word => ⟨word.1, small word.1 word.2⟩, ?_, ?_⟩
    · exact (List.length_map _).trans (List.length_attach.trans length)
    · rw [List.map_map]
      exact List.attach_map_subtype_val words

/-- There are finitely many lists of words of a length. -/
theorem finite_words (count : Nat) :
    {words : List Nat |
      words.length = count ∧ ∀ word ∈ words, word < size}.Finite := by
  rw [← image_words]
  exact (List.finite_length_eq (Fin size) count).image (List.map Fin.val)

/-- The lists of words of a length are a power of the size. -/
theorem ncard_words (count : Nat) :
    {words : List Nat |
      words.length = count ∧ ∀ word ∈ words, word < size}.ncard = size ^ count := by
  rw [← image_words, Set.ncard_image_of_injective _ (List.map_injective_iff.mpr Fin.val_injective)]
  have vectors : Nat.card (List.Vector (Fin size) count) = size ^ count := by
    rw [Nat.card_eq_fintype_card, card_vector, Fintype.card_fin]
  exact vectors

theorem finite_giving (bounds results : List Nat) (count : Nat) :
    (Giving size bounds results count).Finite :=
  (finite_words count).subset fun _ member => ⟨member.1, member.2.1⟩

/-- At least as many lists of words give one list of samples as another. -/
theorem ncard_giving_le {bounds results targets : List Nat} (count : Nat)
    (below : List.Forall₂ (· < ·) targets bounds) : (Giving size bounds results count).ncard ≤
    (Giving size bounds targets count).ncard := by
  refine Set.ncard_le_ncard_of_injOn (retarget size bounds targets) ?_ ?_
    (finite_giving bounds targets count)
  · rintro words ⟨length, small, rest, drawn⟩
    rcases samples_retarget below drawn with ⟨gives, same, keeps, _⟩
    exact ⟨same.trans length, keeps small, rest, gives⟩
  · rintro words ⟨_, _, _, drawn⟩ others ⟨_, _, _, otherDrawn⟩ same
    rw [← (samples_retarget below drawn).2.2.2, same, (samples_retarget below otherDrawn).2.2.2]

/-- Equally many lists of words give each list of samples below the bounds. -/
theorem ncard_giving {bounds results targets : List Nat} (count : Nat)
    (resultsBelow : List.Forall₂ (· < ·) results bounds)
    (targetsBelow : List.Forall₂ (· < ·) targets bounds) :
    (Giving size bounds results count).ncard = (Giving size bounds targets count).ncard :=
  Nat.le_antisymm (ncard_giving_le count targetsBelow) (ncard_giving_le count resultsBelow)

end Mozetto.RejectionSampling
