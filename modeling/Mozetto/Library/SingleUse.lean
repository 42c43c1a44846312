import Mathlib.Data.List.Nodup

/-!
# Keys that are used once

Holders hold at most one key each, and some keys have been used.  A holder may
take a key that nobody holds and that has not been used, let its key go, or
use it.  Then no key is held twice, held after its use, or used twice.
-/

namespace Mozetto.Library.SingleUse

variable {Holder Key : Type}
variable {held : Holder → Option Key} {holders : List Holder}
variable {used : List Key} {old new : Holder} {key : Key} {index : Nat}

/-- No key is held twice, held after its use, or used twice. -/
def UsedOnce (held : Holder → Option Key) (holders : List Holder) (used : List Key) :
    Prop :=
  (holders.filterMap held ++ used).Nodup

/-- The key of one holder, apart from those of the others. -/
theorem exists_keys_perm (held : Holder → Option Key) (found : holders[index]? = some old) :
    ∃ others : List Key, (holders.filterMap held).Perm ((held old).toList ++ others) ∧ ∀ new,
          ((holders.set index new).filterMap held).Perm ((held new).toList ++ others) := by
  have split (earlier later : List Holder) (holder : Holder) :
      ((earlier ++ holder :: later).filterMap held).Perm ((held holder).toList ++
          (earlier.filterMap held ++ later.filterMap held)) := by
    rw [List.filterMap_append, ← List.append_assoc]
    cases known : held holder with
    | none =>
      rw [List.filterMap_cons_none known]
      exact List.Perm.refl _
    | some key =>
      rw [List.filterMap_cons_some known]
      exact List.perm_middle
  rcases List.getElem?_eq_some_iff.mp found with ⟨bound, here⟩
  have parts : ∃ earlier later, holders = earlier ++ holders[index] :: later ∧
      earlier.length = index ∧ holders.set index old = earlier ++ old :: later :=
    List.exists_of_set bound
  rcases parts with ⟨earlier, later, before, length, -⟩
  rw [here] at before
  refine ⟨earlier.filterMap held ++ later.filterMap held, ?_, ?_⟩
  · rw [before]
    exact split earlier later old
  · intro new
    rw [before, ← length, List.set_append_right _ _ (Nat.le_refl _), Nat.sub_self]
    exact split earlier later new

namespace UsedOnce

theorem nil (held : Holder → Option Key) : UsedOnce held [] [] := List.nodup_nil

theorem used_nodup (once : UsedOnce held holders used) : used.Nodup :=
  (List.nodup_append.mp once).2.1

/-- A holder that holds nothing joins. -/
theorem join (once : UsedOnce held holders used) (holds : held new = none) :
    UsedOnce held (holders ++ [new]) used := by
  rw [UsedOnce, List.filterMap_append, List.filterMap_cons_none holds,
    List.filterMap_nil, List.append_nil]
  exact once

/-- A holder goes on with the key that it holds. -/
theorem keep (once : UsedOnce held holders used)
    (found : holders[index]? = some old) (same : held new = held old) :
    UsedOnce held (holders.set index new) used := by
  rcases exists_keys_perm held found with ⟨others, before, after⟩
  have equal := (after new).trans ((same ▸ before).symm)
  exact (equal.append_right used).nodup_iff.mpr once

theorem release (once : UsedOnce held holders used)
    (found : holders[index]? = some old) (holds : held new = none) :
    UsedOnce held (holders.set index new) used := by
  rcases exists_keys_perm held found with ⟨others, before, after⟩
  have left := after new
  rw [holds] at left
  refine (left.append_right used).nodup_iff.mpr ?_
  have kept := (before.append_right used).nodup_iff.mp once
  rw [List.append_assoc] at kept
  exact (List.nodup_append.mp kept).2.1

/-- A holder of nothing takes a key. -/
theorem take (once : UsedOnce held holders used)
    (found : holders[index]? = some old) (empty : held old = none) (holds : held new = some key)
    (free : ∀ holder ∈ holders, held holder ≠ some key) (unused : key ∉ used) :
    UsedOnce held (holders.set index new) used := by
  rcases exists_keys_perm held found with ⟨others, before, after⟩
  have taken := after new
  rw [empty] at before
  rw [holds] at taken
  refine (taken.append_right used).nodup_iff.mpr ?_
  refine List.nodup_cons.mpr ⟨?_, ?_⟩
  · intro member
    rcases List.mem_append.mp member with other | known
    · rcases List.mem_filterMap.mp (before.mem_iff.mpr other) with ⟨holder, member, same⟩
      exact free holder member same
    · exact unused known
  · exact (before.append_right used).nodup_iff.mp once

/-- A holder uses its key. -/
theorem use (once : UsedOnce held holders used)
    (found : holders[index]? = some old) (holds : held old = some key) (empty : held new = none) :
    UsedOnce held (holders.set index new) (key :: used) := by
  rcases exists_keys_perm held found with ⟨others, before, after⟩
  have left := after new
  rw [empty] at left
  rw [holds] at before
  refine (left.append_right (key :: used)).nodup_iff.mpr ?_
  refine List.perm_middle.nodup_iff.mpr ?_
  exact (before.append_right used).nodup_iff.mp once

end UsedOnce

end Mozetto.Library.SingleUse
