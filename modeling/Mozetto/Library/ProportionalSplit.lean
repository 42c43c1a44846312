import Mathlib.Algebra.BigOperators.Group.List.Basic
import Mathlib.Tactic.Linarith
import Mathlib.Tactic.Ring

/-!
# Splitting an amount in proportion to weights

Every weight but the last receives its share rounded down, and the last one
receives what is left.  Nothing is lost, and the weights that receive nothing
are characterised.
-/

namespace Mozetto.Library.ProportionalSplit

/-- The rest of a split of which `allocated` is given out already. -/
def splitFrom (target total : Nat) : Nat → List Nat → List Nat
  | _, [] => []
  | allocated, [_] => [target - allocated]
  | allocated, weight :: next :: rest =>
      weight * target / total :: splitFrom target total (allocated + weight * target / total)
          (next :: rest)

variable {target total allocated weight : Nat} {weights : List Nat}

/-- What was given out, with what the remaining weights are worth. -/
def Within (target total allocated : Nat) (weights : List Nat) : Prop :=
  allocated * total + weights.sum * target ≤ target * total

/-- Giving out a share rounded down stays within the target. -/
theorem Within.tail (within : Within target total allocated (weight :: weights)) :
    Within target total (allocated + weight * target / total) weights := by
  have rounded : weight * target / total * total ≤ weight * target := Nat.div_mul_le_self _ _
  unfold Within at within ⊢
  rw [List.sum_cons] at within
  calc
    (allocated + weight * target / total) * total + weights.sum * target =
        allocated * total + weight * target / total * total + weights.sum * target := by ring
    _ ≤ allocated * total + weight * target + weights.sum * target := by
      omega
    _ = allocated * total + (weight + weights.sum) * target := by ring
    _ ≤ target * total := within

theorem Within.allocated_le
    (positive : 0 < total) (within : Within target total allocated weights) :
    allocated ≤ target := by
  unfold Within at within
  apply Nat.le_of_mul_le_mul_right _ positive
  omega

/-- Everything is given out. -/
theorem sum_splitFrom (positive : 0 < total) (nonempty : weights ≠ [])
    (within : Within target total allocated weights) :
    allocated + (splitFrom target total allocated weights).sum = target := by
  induction weights generalizing allocated with
  | nil => exact absurd rfl nonempty
  | cons first rest induction =>
    cases rest with
    | nil =>
      have bound := within.allocated_le positive
      simp only [splitFrom, List.sum_singleton]
      omega
    | cons second rest =>
      have rest := induction (List.cons_ne_nil _ _) within.tail
      rw [splitFrom, List.sum_cons]
      omega

/-- A split of the whole target in proportion to the weights. -/
theorem within_of_sum (sum : weights.sum = total) : Within target total 0 weights := by
  unfold Within
  rw [sum, Nat.zero_mul, Nat.zero_add, Nat.mul_comm]

/-- The part of a split before its last weight. -/
theorem splitFrom_append (first second : List Nat) (nonempty : second ≠ []) :
    splitFrom target total allocated (first ++ second) =
      first.map (fun entry => entry * target / total) ++ splitFrom target total (allocated +
            (first.map fun entry => entry * target / total).sum)
          second := by
  induction first generalizing allocated with
  | nil => simp
  | cons entry rest induction =>
    cases joined : rest ++ second with
    | nil =>
      exact absurd (List.append_eq_nil_iff.mp joined).2 nonempty
    | cons next others =>
      rw [List.cons_append, joined, splitFrom, ← joined, induction,
        List.map_cons, List.cons_append, List.sum_cons, Nat.add_assoc]

/--
A weight receives nothing: its share is below one, and if it is the last
one the shares of the others are exact and leave no rest.
-/
def ReceivesNothing (target total : Nat) (before : List Nat) (weight : Nat)
    (later : List Nat) : Prop :=
  if later = [] then
    weight * target = 0 ∧ ∀ entry ∈ before, total ∣ entry * target
  else weight * target < total

/-- The shares rounded down reach the target only when all are exact. -/
theorem sum_shares_eq_iff (positive : 0 < total)
    {before : List Nat} (sum : before.sum + weight = total) :
    (before.map fun entry => entry * target / total).sum = target ↔
      weight * target = 0 ∧ ∀ entry ∈ before, total ∣ entry * target := by
  have rounded : ∀ entries : List Nat,
      (entries.map fun entry => entry * target / total).sum * total ≤ entries.sum * target ∧
        ((entries.map fun entry => entry * target / total).sum * total = entries.sum * target ↔
          ∀ entry ∈ entries, total ∣ entry * target) := by
    intro entries
    induction entries with
    | nil => simp
    | cons entry rest induction =>
      obtain ⟨bound, exact_iff⟩ := induction
      have share : entry * target / total * total ≤ entry * target := Nat.div_mul_le_self _ _
      have dvd_iff : entry * target / total * total = entry * target ↔
          total ∣ entry * target := by
        constructor
        · intro same
          exact Dvd.intro_left _ same
        · exact Nat.div_mul_cancel
      simp only [List.map_cons, List.sum_cons, Nat.add_mul, List.mem_cons, forall_eq_or_imp]
      constructor
      · omega
      · rw [← dvd_iff, ← exact_iff]
        omega
  obtain ⟨bound, exact_iff⟩ := rounded before
  have whole : before.sum * target + weight * target = target * total := by
    rw [← Nat.add_mul, sum, Nat.mul_comm]
  rw [← exact_iff]
  constructor
  · intro reached
    rw [reached] at bound ⊢
    omega
  · rintro ⟨nothing, same⟩
    apply Nat.eq_of_mul_eq_mul_right positive
    omega

/-- Who receives nothing of a split. -/
theorem getElem_splitFrom_eq_zero_iff {before later : List Nat} (positive : 0 < total)
    (sum : (before ++ weight :: later).sum = total) :
    (splitFrom target total 0 (before ++ weight :: later))[before.length]? = some 0 ↔
      ReceivesNothing target total before weight later := by
  rw [splitFrom_append before (weight :: later) (List.cons_ne_nil _ _)]
  rw [List.getElem?_append_right (by simp)]
  simp only [List.length_map, Nat.sub_self, Nat.zero_add]
  unfold ReceivesNothing
  cases later with
  | nil =>
    have total_eq : before.sum + weight = total := by
      simpa using sum
    have within : Within target total (0 + (before.map fun entry => entry * target / total).sum)
        [weight] := by
      have shares : ∀ (entries : List Nat) (allocated : Nat),
          Within target total allocated (entries ++ [weight]) → Within target total (allocated +
                (entries.map fun entry =>
                  entry * target / total).sum)
              [weight] := by
        intro entries
        induction entries with
        | nil =>
          intro allocated within
          exact within
        | cons entry rest induction =>
          intro allocated within
          have tail := induction _ within.tail
          rw [List.map_cons, List.sum_cons, ← Nat.add_assoc]
          exact tail
      exact shares before 0 (within_of_sum sum)
    have bound := within.allocated_le positive
    rw [if_pos rfl, ← sum_shares_eq_iff positive total_eq]
    simp only [splitFrom, List.getElem?_cons_zero, Option.some.injEq]
    omega
  | cons next rest =>
    rw [if_neg (List.cons_ne_nil _ _)]
    simp only [splitFrom, List.getElem?_cons_zero, Option.some.injEq]
    exact Nat.div_eq_zero_iff_lt positive

/-! ## How far a part is from its share -/

/-- The shares of some weights, rounded down. -/
def shares (target total : Nat) (weights : List Nat) : List Nat :=
  weights.map fun entry => entry * target / total

theorem splitFrom_concat (front : List Nat) (last : Nat) :
    splitFrom target total allocated (front ++ [last]) = shares target total front ++
        [target - (allocated + (shares target total front).sum)] :=
  splitFrom_append front [last] (List.cons_ne_nil _ _)

/-- Rounding down takes less than one from every share. -/
theorem shares_near (positive : 0 < total) (weights : List Nat) :
    (shares target total weights).sum * total ≤ weights.sum * target ∧ weights.sum * target ≤
        ((shares target total weights).sum + weights.length) * total := by
  induction weights with
  | nil =>
    rw [shares, List.map_nil, List.sum_nil, Nat.zero_mul, Nat.zero_mul]
    exact ⟨Nat.le_refl 0, Nat.zero_le _⟩
  | cons weight rest induction =>
    rcases induction with ⟨below, above⟩
    have floor := Nat.div_mul_le_self (weight * target) total
    have ceiling := Nat.lt_div_mul_add (a := weight * target) positive
    rw [shares, List.map_cons, List.sum_cons, List.sum_cons, List.length_cons, ← shares]
    constructor
    · rw [Nat.add_mul, Nat.add_mul]
      exact Nat.add_le_add floor below
    · calc
        (weight + rest.sum) * target = weight * target + rest.sum * target := Nat.add_mul _ _ _
        _ ≤ (weight * target / total * total + total) +
              ((shares target total rest).sum + rest.length) * total :=
          Nat.add_le_add (Nat.le_of_lt ceiling) above
        _ = (weight * target / total + (shares target total rest).sum +
              (rest.length + 1)) * total := by ring

/-- The last part is at least its share, and exceeds it by rounding only. -/
theorem rest_near (positive : 0 < total) {front : List Nat} {last : Nat}
    (sum : (front ++ [last]).sum = total) : (shares target total front).sum ≤ target ∧
    last * target ≤ (target - (shares target total front).sum) * total ∧
      (target - (shares target total front).sum) * total ≤
        last * target + front.length * total := by
  rcases @shares_near target _ positive front with ⟨below, above⟩
  have whole : front.sum * target + last * target = target * total := by
    rw [← Nat.add_mul, Nat.mul_comm target, ← sum, List.sum_append, List.sum_singleton]
  have given : (shares target total front).sum ≤ target := by
    refine Nat.le_of_mul_le_mul_right ?_ positive
    omega
  refine ⟨given, ?_, ?_⟩
  · rw [Nat.sub_mul]
    omega
  · rw [Nat.sub_mul]
    rw [Nat.add_mul] at above
    omega

/-- A part that is not the last is its share, rounded down. -/
theorem getElem?_splitFrom_of_lt {index : Nat} (found : weights[index]? = some weight)
    (before : index + 1 < weights.length) : (splitFrom target total allocated weights)[index]? =
    some (weight * target / total) := by
  rcases List.eq_nil_or_concat weights with rfl | ⟨front, last, rfl⟩
  · cases found
  · rw [List.concat_eq_append] at found before ⊢
    rw [List.length_append, List.length_singleton] at before
    have inside : index < front.length := Nat.lt_of_succ_lt_succ before
    rw [List.getElem?_append_left inside] at found
    rw [splitFrom_concat, List.getElem?_append_left, shares, List.getElem?_map, found]
    · rfl
    · rwa [shares, List.length_map]

/-- Every part is near its share. -/
theorem splitFrom_near (positive : 0 < total) (sum : weights.sum = total)
    {index part : Nat} (found : weights[index]? = some weight)
    (split : (splitFrom target total 0 weights)[index]? = some part) :
    weight * target < (part + 1) * total ∧
      (part + 1) * total ≤ weight * target + weights.length * total := by
  rcases List.getElem?_eq_some_iff.mp found with ⟨inside, -⟩
  rcases Nat.lt_or_eq_of_le inside with before | isLast
  · rw [getElem?_splitFrom_of_lt found before] at split
    cases split
    constructor
    · have ceiling := Nat.lt_div_mul_add (a := weight * target) positive
      rwa [Nat.add_mul, Nat.one_mul]
    · have floor := Nat.div_mul_le_self (weight * target) total
      have some_ : 1 * total ≤ weights.length * total :=
        Nat.mul_le_mul_right total (Nat.one_le_of_lt inside)
      rw [Nat.add_mul]
      exact Nat.add_le_add floor some_
  · rcases List.eq_nil_or_concat weights with rfl | ⟨front, last, rfl⟩
    · cases found
    · rw [List.concat_eq_append] at found isLast sum split ⊢
      rw [List.length_append, List.length_singleton] at isLast
      cases isLast
      rw [List.getElem?_concat_length] at found
      cases found
      rcases @rest_near target _ positive _ _ sum with ⟨-, below, above⟩
      have here : (splitFrom target total 0 (front ++ [weight]))[front.length]? =
          some (target - (shares target total front).sum) := by
        rw [splitFrom_concat, Nat.zero_add]
        have same : front.length = (shares target total front).length := by
          rw [shares, List.length_map]
        rw [same]
        exact List.getElem?_concat_length
      cases here.symm.trans split
      rw [List.length_append, List.length_singleton, Nat.add_mul, Nat.add_mul]
      omega

/-- A larger weight, in the same or another split of the target, has a larger
part, up to the rounding. -/
theorem splitFrom_lt {others : List Nat} (positive : 0 < total) (sum : weights.sum = total)
    (sum' : others.sum = total) {index other larger part part' : Nat}
    (found : weights[index]? = some larger)
    (found' : others[other]? = some weight) (more : weight ≤ larger)
    (split : (splitFrom target total 0 weights)[index]? = some part)
    (split' : (splitFrom target total 0 others)[other]? = some part') :
    part' < part + others.length := by
  have enough := (splitFrom_near positive sum found split).1
  have limited := (splitFrom_near positive sum' found' split').2
  have worth : weight * target ≤ larger * target := Nat.mul_le_mul_right target more
  refine Nat.lt_of_mul_lt_mul_right (a := total) ?_
  rw [Nat.add_mul] at enough limited ⊢
  omega

/-- A larger weight has a larger part than one that is not the last. -/
theorem splitFrom_le (positive : 0 < total) (sum : weights.sum = total)
    {index other larger part part' : Nat} (found : weights[index]? = some larger)
    (found' : weights[other]? = some weight) (more : weight ≤ larger)
    (before : other + 1 < weights.length)
    (split : (splitFrom target total 0 weights)[index]? = some part)
    (split' : (splitFrom target total 0 weights)[other]? = some part') : part' ≤ part := by
  have enough := (splitFrom_near positive sum found split).1
  rw [getElem?_splitFrom_of_lt found' before] at split'
  cases split'
  refine Nat.le_of_lt_succ (Nat.div_lt_of_lt_mul ?_)
  rw [Nat.mul_comm total]
  exact Nat.lt_of_le_of_lt (Nat.mul_le_mul_right target more) enough

end Mozetto.Library.ProportionalSplit
