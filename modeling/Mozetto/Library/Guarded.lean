import Mathlib.Data.List.Forall2
import Mathlib.Tactic.Common

/-!
# Guarded computations in `Except`

A call of a contract or of a handler either stops with an error and changes
nothing, or returns its new state.  This module collects the inversion rules
for such computations: what is known of a sequence of guards, of checked
arithmetic and of a fold over a list once the result is `Except.ok`.
-/

namespace Mozetto.Library.Guarded

universe u

variable {ε : Type u} {α β σ ι : Type u}

/-- Stop with `err` when `condition` holds. -/
def revertIf (condition : Prop) [Decidable condition] (err : ε) : Except ε PUnit.{u + 1} :=
  if condition then .error err else .ok ⟨⟩

theorem bind_eq_ok_iff {first : Except ε α} {next : α → Except ε β} {result : β} :
    first >>= next = .ok result ↔ ∃ value, first = .ok value ∧ next value = .ok result := by
  cases first with
  | error err =>
    constructor
    · intro equal
      cases equal
    · rintro ⟨value, equal, -⟩
      cases equal
  | ok value =>
    constructor
    · intro equal
      exact ⟨value, rfl, equal⟩
    · rintro ⟨other, equal, rest⟩
      cases equal
      exact rest

theorem revertIf_eq_ok_iff {condition : Prop} [Decidable condition] {err : ε} {value : PUnit} :
    revertIf condition err = .ok value ↔ ¬ condition := by
  by_cases holds : condition <;> simp [revertIf, holds]

@[simp]
theorem revertIf_bind_eq_ok_iff {condition : Prop} [Decidable condition] {err : ε}
    {next : PUnit → Except ε β} {result : β} : revertIf condition err >>= next = .ok result ↔
    ¬ condition ∧ next ⟨⟩ = .ok result := by
  by_cases holds : condition
  · simp [revertIf, holds, bind, Except.bind]
  · simp [revertIf, holds, bind, Except.bind]

@[simp]
theorem pure_eq_ok_iff {value result : α} :
    (pure value : Except ε α) = .ok result ↔ value = result := by
  simp [pure, Except.pure]

/-- Renaming the errors of a computation keeps its results. -/
theorem mapError_eq_ok_iff {δ : Type u} {rename : ε → δ} {first : Except ε α} {value : α} :
    first.mapError rename = .ok value ↔ first = .ok value := by
  cases first <;> simp [Except.mapError]

/-- What a mapped computation returns. -/
theorem map_eq_ok_iff {next : α → β} {first : Except ε α} {result : β} :
    next <$> first = .ok result ↔ ∃ value, first = .ok value ∧ next value = result := by
  cases first <;> simp [Functor.map, Except.map]

/-- An invariant kept by every step of a fold holds of its result. -/
theorem foldlM_preserves {step : σ → ι → Except ε σ} {motive : σ → Prop} {items : List ι}
    (keeps : ∀ before item after, item ∈ items → motive before →
        step before item = .ok after → motive after)
    {start result : σ}
    (holds : motive start)
    (run : items.foldlM step start = .ok result) :
    motive result := by
  induction items generalizing start with
  | nil =>
    simp only [List.foldlM_nil, pure_eq_ok_iff] at run
    subst run
    exact holds
  | cons item rest induction =>
    rw [List.foldlM_cons, bind_eq_ok_iff] at run
    obtain ⟨middle, first, run⟩ := run
    have holdsMiddle : motive middle := keeps start item middle (by simp) holds first
    exact induction (fun before other after member =>
          keeps before other after (by simp [member]))
        holdsMiddle run

/-- Every result of a mapped list is that of one of its items. -/
theorem exists_of_mem_mapM {next : ι → Except ε β} {items : List ι} {results : List β}
    (run : items.mapM next = .ok results) {result : β} (member : result ∈ results) :
    ∃ item ∈ items, next item = .ok result := by
  induction items generalizing results with
  | nil =>
    cases run
    exact absurd member List.not_mem_nil
  | cons item rest induction =>
    rw [List.mapM_cons, bind_eq_ok_iff] at run
    rcases run with ⟨first, made, run⟩
    rw [bind_eq_ok_iff] at run
    rcases run with ⟨others, later, run⟩
    cases run
    rcases List.mem_cons.mp member with rfl | member
    · exact ⟨item, List.mem_cons_self, made⟩
    · rcases induction later member with ⟨other, listed, equal⟩
      exact ⟨other, List.mem_cons_of_mem _ listed, equal⟩

/-- The results of a mapped list are those of its items, one by one. -/
theorem mapM_eq_ok_iff_forall₂ {next : ι → Except ε β} {items : List ι} {results : List β} :
    items.mapM next = .ok results ↔ List.Forall₂ (fun item result => next item = .ok result) items
        results := by
  induction items generalizing results with
  | nil =>
    rw [List.mapM_nil, pure_eq_ok_iff, List.forall₂_nil_left_iff]
    exact eq_comm
  | cons item rest induction =>
    simp only [List.mapM_cons, bind_eq_ok_iff, pure_eq_ok_iff, induction,
      List.forall₂_cons_left_iff]
    constructor
    · rintro ⟨first, made, others, later, rfl⟩
      exact ⟨first, others, made, later, rfl⟩
    · rintro ⟨first, others, made, later, rfl⟩
      exact ⟨first, made, others, later, rfl⟩

end Mozetto.Library.Guarded
