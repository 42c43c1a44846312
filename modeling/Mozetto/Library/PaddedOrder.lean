import Mathlib.Data.List.Lex
import Mathlib.Order.PiLex
import Mathlib.Tactic.Common

/-!
# Lists of numbers, filled up with zeros

Two lists of numbers are compared at the first place at which they differ,
where missing entries count as zero.  The endless lists this fills them up to
are linearly ordered; on lists of one length the order is the lexicographic
one.
-/

namespace Mozetto.PaddedOrder

/-- A list with zeros after it. -/
def padded (entries : List Nat) : Lex (Nat → Nat) := toLex fun place => entries.getD place 0

theorem padded_lt_iff {first second : List Nat} : padded first < padded second ↔ ∃ place,
      (∀ earlier, earlier < place → first.getD earlier 0 = second.getD earlier 0) ∧
      first.getD place 0 < second.getD place 0 := Iff.rfl

theorem padded_eq_iff {first second : List Nat} : padded first = padded second ↔
    ∀ place, first.getD place 0 = second.getD place 0 := toLex_inj.trans funext_iff

/-- A missing entry is a zero. -/
theorem padded_headD_tail (entries : List Nat) :
    padded (entries.headD 0 :: entries.tail) = padded entries := by
  cases entries with
  | nil =>
    rw [padded_eq_iff]
    intro place
    cases place <;> rfl
  | cons first rest => rfl

/-- The first entries decide, then the others. -/
theorem padded_cons_lt_iff {first second : Nat} {rest others : List Nat} :
    padded (first :: rest) < padded (second :: others) ↔
      first < second ∨ first = second ∧ padded rest < padded others := by
  rw [padded_lt_iff, padded_lt_iff]
  constructor
  · rintro ⟨place, same, less⟩
    cases place with
    | zero => exact .inl less
    | succ place =>
      refine .inr ⟨same 0 (Nat.succ_pos place), place, ?_, less⟩
      intro earlier before
      exact same (earlier + 1) (Nat.succ_lt_succ before)
  · rintro (less | ⟨rfl, place, same, less⟩)
    · exact ⟨0, fun earlier before => absurd before (Nat.not_lt_zero _), less⟩
    · refine ⟨place + 1, ?_, less⟩
      intro earlier before
      cases earlier with
      | zero => rfl
      | succ earlier => exact same earlier (Nat.lt_of_succ_lt_succ before)

theorem padded_cons_eq_iff {first second : Nat} {rest others : List Nat} :
    padded (first :: rest) = padded (second :: others) ↔
      first = second ∧ padded rest = padded others := by
  rw [padded_eq_iff, padded_eq_iff]
  constructor
  · intro same
    exact ⟨same 0, fun place => same (place + 1)⟩
  · rintro ⟨rfl, same⟩ place
    cases place with
    | zero => rfl
    | succ place => exact same place

/-- Lists of one length differ if they are filled up differently. -/
theorem padded_injective_of_length {first second : List Nat}
    (lengths : first.length = second.length)
    (same : padded first = padded second) : first = second := by
  induction first generalizing second with
  | nil => exact (List.length_eq_zero_iff.mp lengths.symm).symm
  | cons entry rest induction =>
    cases second with
    | nil => cases lengths
    | cons other others =>
      rcases padded_cons_eq_iff.mp same with ⟨rfl, later⟩
      rw [induction (Nat.succ.inj lengths) later]

/-- On lists of one length the order is the lexicographic one. -/
theorem padded_lt_iff_lex {first second : List Nat} (lengths : first.length = second.length) :
    padded first < padded second ↔ List.Lex (· < ·) first second := by
  induction first generalizing second with
  | nil =>
    rw [List.length_eq_zero_iff.mp lengths.symm]
    exact ⟨fun less => absurd less (lt_irrefl _), fun less => by cases less⟩
  | cons entry rest induction =>
    cases second with
    | nil => cases lengths
    | cons other others =>
      rw [padded_cons_lt_iff, induction (Nat.succ.inj lengths)]
      constructor
      · rintro (less | ⟨rfl, later⟩)
        · exact .rel less
        · exact .cons later
      · intro less
        cases less with
        | rel less => exact .inl less
        | cons later => exact .inr ⟨rfl, later⟩

end Mozetto.PaddedOrder
