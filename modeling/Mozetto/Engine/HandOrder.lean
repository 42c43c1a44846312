import Mathlib.Data.List.Perm.Subperm
import Mozetto.Engine.Cards
import Mozetto.Library.PaddedOrder

/-!
# The order of hands

Scores are compared as lists filled up with zeros, so the best of several
hands has the greatest of their scores.
-/

namespace Mozetto.Engine

open Mozetto.PaddedOrder

/-! ## Scores -/

/-- A comparison is negative, zero or positive as the scores are ordered. -/
theorem compareScores_cases (first second : List Nat) :
    compareScores first second < 0 ∧ padded first < padded second ∨
      compareScores first second = 0 ∧ padded first = padded second ∨
      0 < compareScores first second ∧ padded second < padded first := by
  induction first generalizing second with
  | nil =>
    induction second with
    | nil => exact .inr (.inl ⟨rfl, rfl⟩)
    | cons score rest induction =>
      have zeros := padded_headD_tail []
      rw [← zeros]
      show _ ∨ _
      by_cases zero : score = 0
      · subst zero
        have later : compareScores [] (0 :: rest) = compareScores [] rest := by
          rw [compareScores, compareScores, List.find?_cons_of_neg]
          exact fun impossible => of_decide_eq_true impossible rfl
        rw [later]
        rcases induction with ⟨sign, less⟩ | ⟨sign, same⟩ | ⟨sign, more⟩
        · exact .inl ⟨sign, padded_cons_lt_iff.mpr (.inr ⟨rfl, less⟩)⟩
        · exact .inr (.inl ⟨sign, padded_cons_eq_iff.mpr ⟨rfl, same⟩⟩)
        · exact .inr (.inr ⟨sign, padded_cons_lt_iff.mpr (.inr ⟨rfl, more⟩)⟩)
      · refine .inl ⟨?_, padded_cons_lt_iff.mpr (.inl (Nat.pos_of_ne_zero zero))⟩
        have found : (score :: rest).find? (· ≠ 0) = some score :=
          List.find?_cons_of_pos (decide_eq_true zero)
        rw [compareScores, found]
        show -(score : Int) < 0
        omega
  | cons score rest induction =>
    rw [← padded_headD_tail second, compareScores]
    by_cases same : (score : Int) - second.headD 0 = 0
    · have equal : score = second.headD 0 := Int.natCast_inj.mp (Int.sub_eq_zero.mp same)
      rw [if_neg (fun differs => differs same)]
      rcases induction second.tail with ⟨sign, less⟩ | ⟨sign, others⟩ | ⟨sign, more⟩
      · exact .inl ⟨sign, padded_cons_lt_iff.mpr (.inr ⟨equal, less⟩)⟩
      · exact .inr (.inl ⟨sign, padded_cons_eq_iff.mpr ⟨equal, others⟩⟩)
      · exact .inr (.inr ⟨sign, padded_cons_lt_iff.mpr (.inr ⟨equal.symm, more⟩)⟩)
    · rw [if_pos same]
      rcases lt_or_gt_of_ne same with less | more
      · refine .inl ⟨less, padded_cons_lt_iff.mpr (.inl ?_)⟩
        exact Int.ofNat_lt.mp (Int.lt_of_sub_neg less)
      · refine .inr (.inr ⟨more, padded_cons_lt_iff.mpr (.inl ?_)⟩)
        exact Int.ofNat_lt.mp (Int.sub_pos.mp more)

theorem compareScores_pos_iff {first second : List Nat} :
    0 < compareScores first second ↔ padded second < padded first := by
  rcases compareScores_cases first second with ⟨sign, order⟩ | ⟨sign, order⟩ | ⟨sign, order⟩
  · exact ⟨fun more => absurd more (not_lt.mpr sign.le), fun more => absurd more (lt_asymm order)⟩
  · rw [sign, order]
    exact ⟨fun more => absurd more (lt_irrefl _), fun more => absurd more (lt_irrefl _)⟩
  · exact ⟨fun _ => order, fun _ => sign⟩

theorem compareScores_eq_zero_iff {first second : List Nat} :
    compareScores first second = 0 ↔ padded first = padded second := by
  rcases compareScores_cases first second with ⟨sign, order⟩ | ⟨sign, order⟩ | ⟨sign, order⟩
  · exact ⟨fun zero => absurd zero sign.ne, fun same => absurd same order.ne⟩
  · exact ⟨fun _ => order, fun _ => sign⟩
  · exact ⟨fun zero => absurd zero sign.ne', fun same => absurd same order.ne'⟩

theorem compareScores_nonpos_iff {first second : List Nat} :
    compareScores first second ≤ 0 ↔ padded first ≤ padded second := by
  rw [← not_lt, compareScores_pos_iff]
  exact not_lt

theorem compareScores_nonneg_iff {first second : List Nat} :
    0 ≤ compareScores first second ↔ padded second ≤ padded first := by
  rcases compareScores_cases first second with ⟨sign, order⟩ | ⟨sign, order⟩ | ⟨sign, order⟩
  · exact ⟨fun more => absurd more (not_le.mpr sign), fun more => absurd more (not_le.mpr order)⟩
  · exact ⟨fun _ => order.ge, fun _ => sign.ge⟩
  · exact ⟨fun _ => order.le, fun _ => sign.le⟩

/-! ## Choices of five -/

/-- The combinations are the sublists of a length. -/
theorem mem_combinations_iff {α : Type} {items chosen : List α} {count : Nat} :
    chosen ∈ combinations items count ↔ chosen.Sublist items ∧ chosen.length = count := by
  induction items generalizing chosen count with
  | nil =>
    cases count with
    | zero =>
      rw [combinations, List.mem_singleton, List.sublist_nil]
      exact ⟨fun empty => ⟨empty, List.length_eq_zero_iff.mpr empty⟩, And.left⟩
    | succ count =>
      rw [combinations, List.sublist_nil]
      constructor
      · intro impossible
        cases impossible
      · rintro ⟨rfl, impossible⟩
        cases impossible
  | cons head tail induction =>
    cases count with
    | zero =>
      rw [combinations, List.mem_singleton]
      constructor
      · rintro rfl
        exact ⟨List.nil_sublist _, rfl⟩
      · exact fun both => List.length_eq_zero_iff.mp both.2
    | succ count =>
      rw [combinations, List.mem_append, List.mem_map, induction]
      constructor
      · rintro (⟨rest, member, rfl⟩ | ⟨sublist, length⟩)
        · rcases induction.mp member with ⟨sublist, length⟩
          exact ⟨sublist.cons_cons head, congrArg (· + 1) length⟩
        · exact ⟨sublist.cons head, length⟩
      · rintro ⟨sublist, length⟩
        cases sublist with
        | cons _ later => exact .inr ⟨later, length⟩
        | cons_cons _ later =>
          exact .inl ⟨_, induction.mpr ⟨later, Nat.succ.inj length⟩, rfl⟩

/-! ## The best hand -/

/-- One hand is chosen, and none has a greater score. -/
theorem bestRanked_some (hands : List RankedHand) (best : RankedHand) :
    ∃ chosen, bestRanked hands (some best) = some chosen ∧ (chosen = best ∨ chosen ∈ hands) ∧
      padded best.score ≤ padded chosen.score ∧
      ∀ hand ∈ hands, padded hand.score ≤ padded chosen.score := by
  induction hands generalizing best with
  | nil =>
    exact ⟨best, rfl, .inl rfl, le_refl _, fun hand member => absurd member List.not_mem_nil⟩
  | cons ranked rest induction =>
    rw [bestRanked]
    by_cases better : compareScores ranked.score best.score > 0
    · rw [if_pos better]
      rcases induction ranked with ⟨chosen, equal, source, above, greatest⟩
      have improves := (compareScores_pos_iff.mp better).le
      refine ⟨chosen, equal, ?_, improves.trans above, ?_⟩
      · rcases source with rfl | member
        · exact .inr List.mem_cons_self
        · exact .inr (List.mem_cons_of_mem _ member)
      · intro hand member
        rcases List.mem_cons.mp member with rfl | later
        · exact above
        · exact greatest hand later
    · rw [if_neg better]
      rcases induction best with ⟨chosen, equal, source, above, greatest⟩
      have keeps := compareScores_nonpos_iff.mp (not_lt.mp better)
      refine ⟨chosen, equal, ?_, above, ?_⟩
      · rcases source with rfl | member
        · exact .inl rfl
        · exact .inr (List.mem_cons_of_mem _ member)
      · intro hand member
        rcases List.mem_cons.mp member with rfl | later
        · exact keeps.trans above
        · exact greatest hand later

theorem bestRanked_none {hands : List RankedHand} (some : hands ≠ []) :
    ∃ chosen ∈ hands, bestRanked hands none = .some chosen ∧
      ∀ hand ∈ hands, padded hand.score ≤ padded chosen.score := by
  cases hands with
  | nil => exact absurd rfl some
  | cons first rest =>
    rcases bestRanked_some rest first with ⟨chosen, equal, source, above, greatest⟩
    refine ⟨chosen, List.mem_cons.mpr source, equal, ?_⟩
    intro hand member
    rcases List.mem_cons.mp member with rfl | later
    · exact above
    · exact greatest hand later

end Mozetto.Engine
