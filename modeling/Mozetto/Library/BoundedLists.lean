import Mathlib.Data.List.Sort
import Mathlib.Data.List.Nodup
import Mathlib.Data.Int.Order.Basic
import Mathlib.Tactic.Common

/-!
# Lists that are kept short

A list is kept short by dropping all but its last items, by dropping all but
the best of a ranking, or by keeping one item for each key.  What has been kept
once is kept again: on a list that is short, sorted and free of repeated keys
each of these changes nothing.
-/

namespace Mozetto.Library.BoundedLists

universe u v w x

variable {α : Type u} {κ : Type v} {ρ : Type w} {ι : Type x}

/-! ## The last items -/

/-- At most so many items, from the end. -/
def lastItems (cap : Nat) (items : List α) : List α := items.drop (items.length - cap)

theorem length_lastItems_le (cap : Nat) (items : List α) : (lastItems cap items).length ≤ cap := by
  rw [lastItems, List.length_drop]
  omega

theorem lastItems_of_short {cap : Nat} {items : List α} (short : items.length ≤ cap) :
    lastItems cap items = items := by
  rw [lastItems, Nat.sub_eq_zero_of_le short, List.drop_zero]

theorem lastItems_sublist (cap : Nat) (items : List α) : (lastItems cap items).Sublist items :=
  List.drop_sublist _ _

/-! ## Sorting by a key -/

section Sorting

variable [LinearOrder κ]

/-- Sorted by a key; items of one key stay in their order. -/
def sortBy (key : α → κ) (items : List α) : List α :=
  items.insertionSort fun first second => key first ≤ key second

variable {key : α → κ} {items : List α}

theorem sortBy_perm (key : α → κ) (items : List α) : (sortBy key items).Perm items :=
  List.perm_insertionSort _ items

@[simp]
theorem mem_sortBy {item : α} : item ∈ sortBy key items ↔ item ∈ items :=
  (sortBy_perm key items).mem_iff

@[simp]
theorem length_sortBy : (sortBy key items).length = items.length :=
  (sortBy_perm key items).length_eq

theorem pairwise_sortBy (key : α → κ) (items : List α) :
    (sortBy key items).Pairwise fun first second => key first ≤ key second := by
  haveI : Std.Total fun first second : α => key first ≤ key second :=
    ⟨fun first second => le_total (key first) (key second)⟩
  haveI : IsTrans α fun first second => key first ≤ key second := ⟨fun _ _ _ => le_trans⟩
  exact List.pairwise_insertionSort _ items

theorem sortBy_of_pairwise (sorted : items.Pairwise fun first second => key first ≤ key second) :
    sortBy key items = items := sorted.insertionSort_eq

/-- Sorted lists of the same items are equal when no key is repeated. -/
theorem eq_of_sorted {other : List α} (same : items.Perm other)
    (sorted : items.Pairwise fun first second => key first < key second)
    (also : other.Pairwise fun first second => key first < key second) : items = other :=
  same.eq_of_pairwise (fun _ _ _ _ before after => absurd after before.asymm) sorted also

/-- Without repeated keys a sorted list is strictly sorted. -/
theorem strictly_sortBy (distinct : (items.map key).Nodup) :
    (sortBy key items).Pairwise fun first second => key first < key second := by
  have apart : (sortBy key items).Pairwise fun first second =>
    key first ≠ key second :=
    List.pairwise_map.mp (((sortBy_perm key items).map key).nodup_iff.mpr distinct)
  exact (pairwise_sortBy key items).imp₂ (fun _ _ below differ => lt_of_le_of_ne below differ) apart

/-! ## The best of a ranking -/

variable [LinearOrder ρ]

/-- At most so many items, the best of a ranking, sorted by a key. -/
def capped (cap : Nat) (rank : α → ρ) (key : α → κ) (items : List α) : List α :=
  if items.length ≤ cap then sortBy key items
  else sortBy key ((sortBy rank items).take cap)

variable {cap : Nat} {rank : α → ρ}

theorem length_capped_le : (capped cap rank key items).length ≤ cap := by
  rw [capped]
  split
  · rename_i short
    rw [length_sortBy]
    exact short
  · rw [length_sortBy]
    exact List.length_take_le _ _

theorem mem_of_mem_capped {item : α} (kept : item ∈ capped cap rank key items) : item ∈ items := by
  rw [capped] at kept
  split at kept
  · exact mem_sortBy.mp kept
  · exact mem_sortBy.mp (List.mem_of_mem_take (mem_sortBy.mp kept))

theorem pairwise_capped : (capped cap rank key items).Pairwise fun first second =>
  key first ≤ key second := by
  rw [capped]
  split <;> exact pairwise_sortBy key _

theorem capped_of_kept (short : items.length ≤ cap)
    (sorted : items.Pairwise fun first second => key first ≤ key second) :
    capped cap rank key items = items := by
  rw [capped, if_pos short, sortBy_of_pairwise sorted]

theorem nodup_map_capped {label : α → ι} (distinct : (items.map label).Nodup) :
    ((capped cap rank key items).map label).Nodup := by
  rw [capped]
  split
  · exact ((sortBy_perm key items).map label).nodup_iff.mpr distinct
  · apply ((sortBy_perm key _).map label).nodup_iff.mpr
    exact (((List.take_sublist cap _).map label).nodup
      (((sortBy_perm rank items).map label).nodup_iff.mpr distinct))

end Sorting

/-! ## One item for each key -/

section Keyed

variable [DecidableEq κ]

/-- The item in the place of the first one of its key, or else at the end. -/
def setItem (key : α → κ) (item : α) : List α → List α
  | [] => [item]
  | first :: rest =>
      if key first = key item then item :: rest
      else first :: setItem key item rest

/-- The first item of a key. -/
def findKey (key : α → κ) (wanted : κ) (items : List α) : Option α :=
  items.find? fun item => key item = wanted

variable {key : α → κ} {items : List α}

theorem mem_setItem {item other : α} (found : other ∈ setItem key item items) :
    other = item ∨ other ∈ items := by
  induction items with
  | nil => exact .inl (List.mem_singleton.mp found)
  | cons first rest induction =>
    rw [setItem] at found
    split at found
    · rcases List.mem_cons.mp found with same | later
      · exact .inl same
      · exact .inr (List.mem_cons_of_mem _ later)
    · rcases List.mem_cons.mp found with same | later
      · exact .inr (same ▸ List.mem_cons_self)
      · exact (induction later).imp_right (List.mem_cons_of_mem _)

theorem setItem_of_absent {item : α} (absent : ∀ other ∈ items, key other ≠ key item) :
    setItem key item items = items ++ [item] := by
  induction items with
  | nil => rfl
  | cons first rest induction =>
    rw [setItem, if_neg (absent first List.mem_cons_self),
      induction fun other member => absent other (List.mem_cons_of_mem _ member)]
    rfl

theorem nodup_setItem {item : α} (distinct : (items.map key).Nodup) :
    ((setItem key item items).map key).Nodup := by
  induction items with
  | nil => exact List.nodup_singleton _
  | cons first rest induction =>
    rw [List.map_cons, List.nodup_cons] at distinct
    rw [setItem]
    split
    · rename_i same
      rw [List.map_cons, List.nodup_cons, ← same]
      exact distinct
    · rename_i differ
      rw [List.map_cons, List.nodup_cons]
      refine ⟨?_, induction distinct.2⟩
      intro repeated
      rcases List.mem_map.mp repeated with ⟨other, member, same⟩
      rcases mem_setItem member with rfl | earlier
      · exact differ same.symm
      · exact distinct.1 (List.mem_map.mpr ⟨other, earlier, same⟩)

/-- One item kept for its key, unless what was kept before is better. -/
def keepOne (key : α → κ) (replaces : α → α → Bool) (normal : α → α)
    (kept : List α) (item : α) : List α :=
  match findKey key (key item) kept with
  | none => setItem key (normal item) kept
  | some earlier =>
      if replaces item earlier then setItem key (normal item) kept else kept

/-- For each key one item, brought to a normal form. -/
def onePerKey (key : α → κ) (replaces : α → α → Bool) (normal : α → α) (items : List α) : List α :=
  items.foldl (keepOne key replaces normal) []

variable {replaces : α → α → Bool} {normal : α → α}

theorem keepOne_eq (kept : List α) (item : α) :
    keepOne key replaces normal kept item = setItem key (normal item) kept ∨
      keepOne key replaces normal kept item = kept := by
  rw [keepOne]
  split
  · exact .inl rfl
  · split
    · exact .inl rfl
    · exact .inr rfl

theorem nodup_onePerKey : ((onePerKey key replaces normal items).map key).Nodup := by
  rw [onePerKey]
  generalize start : ([] : List α) = kept
  have distinct : (kept.map key).Nodup := start ▸ List.nodup_nil
  clear start
  induction items generalizing kept with
  | nil => exact distinct
  | cons item rest induction =>
    apply induction
    rcases @keepOne_eq _ _ _ key replaces normal kept item with set | same
    · rw [set]
      exact nodup_setItem distinct
    · rw [same]
      exact distinct

theorem mem_foldl_keepOne {kept : List α} {found : α}
    (member : found ∈ items.foldl (keepOne key replaces normal) kept) :
    found ∈ kept ∨ ∃ item ∈ items, found = normal item := by
  induction items generalizing kept with
  | nil => exact .inl member
  | cons item rest induction =>
    rcases induction member with before | ⟨later, inside, same⟩
    · rcases @keepOne_eq _ _ _ key replaces normal kept item with set | same
      · rw [set] at before
        rcases mem_setItem before with new | old
        · exact .inr ⟨item, List.mem_cons_self, new⟩
        · exact .inl old
      · rw [same] at before
        exact .inl before
    · exact .inr ⟨later, List.mem_cons_of_mem _ inside, same⟩

theorem exists_of_mem_onePerKey {found : α} (member : found ∈ onePerKey key replaces normal items) :
    ∃ item ∈ items, found = normal item := (mem_foldl_keepOne member).resolve_left List.not_mem_nil

theorem foldl_keepOne_of_distinct (keeps : ∀ item, key (normal item) = key item)
    {kept : List α} (distinct : ((kept ++ items).map key).Nodup) :
    items.foldl (keepOne key replaces normal) kept = kept ++ items.map normal := by
  induction items generalizing kept with
  | nil => exact (List.append_nil kept).symm
  | cons item rest induction =>
    have apart : ∀ other ∈ kept, key other ≠ key item := by
      intro other member same
      rw [List.map_append, List.nodup_append] at distinct
      exact distinct.2.2 (key other) (List.mem_map_of_mem member) (key item)
        (List.mem_map_of_mem List.mem_cons_self) same
    have absent : findKey key (key item) kept = none :=
      List.find?_eq_none.mpr fun other member =>
        by simpa using apart other member
    rw [List.foldl_cons, keepOne, absent]
    dsimp only
    rw [setItem_of_absent (by rw [keeps]; exact apart), induction,
      List.map_cons, List.append_assoc, List.singleton_append]
    rw [List.map_append, List.map_append, List.map_singleton, keeps, List.append_assoc]
    rw [List.map_append] at distinct
    exact distinct

/-- Without repeated keys every item is kept. -/
theorem onePerKey_of_distinct (keeps : ∀ item, key (normal item) = key item)
    (distinct : (items.map key).Nodup) : onePerKey key replaces normal items = items.map normal :=
  foldl_keepOne_of_distinct keeps distinct

end Keyed

/-! ## Keeping what was kept -/

theorem map_of_fixed {normal : α → α} {items : List α}
    (fixed : ∀ item ∈ items, normal item = item) : items.map normal = items := by
  calc
    items.map normal = items.map id := List.map_congr_left fixed
    _ = items := List.map_id items

variable [LinearOrder κ] [LinearOrder ρ] {cap : Nat} {rank : α → ρ} {key : α → κ}
  {normal : α → α} {items : List α}

/-- Normal forms, capped once, are capped and normal. -/
theorem capped_map_capped_map (idempotent : ∀ item, normal (normal item) = normal item) :
    capped cap rank key ((capped cap rank key (items.map normal)).map normal) =
      capped cap rank key (items.map normal) := by
  rw [map_of_fixed]
  · exact capped_of_kept length_capped_le pairwise_capped
  · intro item kept
    rcases List.mem_map.mp (mem_of_mem_capped kept) with ⟨source, -, rfl⟩
    exact idempotent source

/-- One item for each key, capped once, is capped and one for each key. -/
theorem capped_onePerKey_again [DecidableEq ι] {label : α → ι} {replaces : α → α → Bool}
    (keeps : ∀ item, label (normal item) = label item)
    (idempotent : ∀ item, normal (normal item) = normal item) : capped cap rank key
      (onePerKey label replaces normal
        (capped cap rank key (onePerKey label replaces normal items))) =
    capped cap rank key (onePerKey label replaces normal items) := by
  rw [onePerKey_of_distinct keeps (nodup_map_capped nodup_onePerKey), map_of_fixed]
  · exact capped_of_kept length_capped_le pairwise_capped
  · intro item kept
    rcases exists_of_mem_onePerKey (mem_of_mem_capped kept) with ⟨source, -, rfl⟩
    exact idempotent source

end Mozetto.Library.BoundedLists
