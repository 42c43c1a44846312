import Mathlib.Tactic.Common

/-!
# Updates of mappings

Writing one entry of a mapping or of a nested mapping, and what such writes
leave alone.
-/

namespace Mozetto.Library.Mapping

/-- Write one entry of a mapping. -/
def write {κ α : Type} [DecidableEq κ] (mapping : κ → α) (key : κ) (value : α) : κ → α :=
  fun other => if other = key then value else mapping other

/-- Write one entry of a nested mapping. -/
def write₂ {κ ι α : Type} [DecidableEq κ] [DecidableEq ι]
    (mapping : κ → ι → α) (outer : κ) (inner : ι) (value : α) : κ → ι → α :=
  fun other entry =>
    if other = outer ∧ entry = inner then value else mapping other entry

section Writes

variable {κ ι α : Type} [DecidableEq κ] [DecidableEq ι]

@[simp]
theorem write_self (mapping : κ → α) (key : κ) (value : α) :
    write mapping key value key = value := by
  simp [write]

theorem write_of_ne (mapping : κ → α) {key other : κ} (value : α) (ne : other ≠ key) :
    write mapping key value other = mapping other := by
  simp [write, ne]

@[simp]
theorem write₂_self (mapping : κ → ι → α) (outer : κ) (inner : ι) (value : α) :
    write₂ mapping outer inner value outer inner = value := by
  simp [write₂]

theorem write₂_of_ne (mapping : κ → ι → α) {outer other : κ} {inner entry : ι} (value : α)
    (ne : ¬ (other = outer ∧ entry = inner)) :
    write₂ mapping outer inner value other entry = mapping other entry := by
  simp only [write₂, ne, if_false]

end Writes

/-- Writes to different entries may be made in either order. -/
theorem write_comm {κ α : Type} [DecidableEq κ]
    (mapping : κ → α) {left right : κ} (ne : left ≠ right) (first second : α) :
    write (write mapping left first) right second =
      write (write mapping right second) left first := by
  funext key
  by_cases isLeft : key = left
  · have notRight : key ≠ right := isLeft ▸ ne
    simp [write, isLeft, ne]
  · simp [write, isLeft]

theorem write₂_comm {κ ι α : Type} [DecidableEq κ] [DecidableEq ι]
    (mapping : κ → ι → α) (outer : κ) {left right : ι} (ne : left ≠ right) (first second : α) :
    write₂ (write₂ mapping outer left first) outer right second =
      write₂ (write₂ mapping outer right second) outer left first := by
  funext key entry
  by_cases isLeft : key = outer ∧ entry = left
  · simp [write₂, isLeft, ne]
  · simp [write₂, isLeft]

end Mozetto.Library.Mapping
