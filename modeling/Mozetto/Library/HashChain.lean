import Mathlib.Data.List.Basic
import Mathlib.Data.List.Forall2
import Mathlib.Data.List.Induction

/-!
# Chains of entries

Entries that each carry a tip and fit on the tip before them, at consecutive
positions.  A chain may be read from its front, as a check of a stored list
does, or from its end, as appending does; the two readings agree.
-/

namespace Mozetto.Library.HashChain

universe u v

variable {Entry : Type u} {Tip : Type v}

/-- The tip after a list of entries. -/
def tipAfter (tipOf : Entry → Tip) (tip : Tip) : List Entry → Tip
  | [] => tip
  | entry :: rest => tipAfter tipOf (tipOf entry) rest

/-- Every entry fits on the tip before it, at its position. -/
def Linked (tipOf : Entry → Tip) (Fits : Tip → Nat → Entry → Prop) : Tip → Nat → List Entry → Prop
  | _, _, [] => True
  | tip, position, entry :: rest =>
      Fits tip position entry ∧ Linked tipOf Fits (tipOf entry) (position + 1) rest

variable {tipOf : Entry → Tip} {Fits : Tip → Nat → Entry → Prop}
variable {tip : Tip} {position : Nat}

@[simp]
theorem tipAfter_concat (entries : List Entry) (entry : Entry) :
    tipAfter tipOf tip (entries ++ [entry]) = tipOf entry := by
  induction entries generalizing tip with
  | nil => rfl
  | cons first rest induction => exact induction

/-- Reading a chain from its end. -/
theorem linked_concat_iff {entries : List Entry} {entry : Entry} :
    Linked tipOf Fits tip position (entries ++ [entry]) ↔ Linked tipOf Fits tip position entries ∧
        Fits (tipAfter tipOf tip entries) (position + entries.length)
          entry := by
  induction entries generalizing tip position with
  | nil => simp [Linked, tipAfter]
  | cons first rest induction =>
    simp only [List.cons_append, Linked, tipAfter, induction, List.length_cons, and_assoc]
    rw [Nat.add_assoc, Nat.add_comm 1]

/-- A condition on entries alone can be checked apart from the links. -/
theorem linked_and_iff {Proper : Entry → Prop} {entries : List Entry} :
    Linked tipOf (fun tip position entry => Fits tip position entry ∧ Proper entry)
        tip position entries ↔ Linked tipOf Fits tip position entries ∧
        ∀ entry ∈ entries, Proper entry := by
  induction entries generalizing tip position with
  | nil => simp [Linked]
  | cons first rest induction =>
    simp only [Linked, induction, List.forall_mem_cons]
    constructor
    · rintro ⟨⟨fits, proper⟩, linked, others⟩
      exact ⟨⟨fits, linked⟩, proper, others⟩
    · rintro ⟨⟨fits, linked⟩, proper, others⟩
      exact ⟨⟨fits, proper⟩, linked, others⟩

/-- A condition on entries and positions can be checked apart from the links. -/
theorem linked_and_at_iff {At : Nat → Entry → Prop} {entries : List Entry} : Linked tipOf
      (fun tip position entry => Fits tip position entry ∧ At position entry) tip position entries ↔
    Linked tipOf Fits tip position entries ∧ ∀ index entry, entries[index]? = some entry →
        At (position + index) entry := by
  induction entries generalizing tip position with
  | nil => simp [Linked]
  | cons first rest induction =>
    simp only [Linked, induction]
    constructor
    · rintro ⟨⟨fits, here⟩, linked, others⟩
      refine ⟨⟨fits, linked⟩, ?_⟩
      intro index entry found
      cases index with
      | zero =>
        cases found
        exact here
      | succ index =>
        have later := others index entry found
        rwa [Nat.add_assoc, Nat.add_comm 1] at later
    · rintro ⟨⟨fits, linked⟩, all⟩
      refine ⟨⟨fits, all 0 first rfl⟩, linked, ?_⟩
      intro index entry found
      have later := all (index + 1) entry found
      rwa [Nat.add_assoc, Nat.add_comm 1]

/-- Every entry of a chain fits somewhere. -/
theorem Linked.fits_of_mem {entries : List Entry} {entry : Entry}
    (linked : Linked tipOf Fits tip position entries)
    (member : entry ∈ entries) : ∃ tip position, Fits tip position entry := by
  induction entries generalizing tip position with
  | nil => cases member
  | cons first rest induction =>
    rcases List.mem_cons.mp member with rfl | later
    · exact ⟨tip, position, linked.1⟩
    · exact induction linked.2 later

theorem Linked.mono {Fits' : Tip → Nat → Entry → Prop} {entries : List Entry}
    (weaker : ∀ tip position entry, Fits tip position entry → Fits' tip position entry)
    (linked : Linked tipOf Fits tip position entries) :
    Linked tipOf Fits' tip position entries := by
  induction entries generalizing tip position with
  | nil => trivial
  | cons first rest induction =>
    exact ⟨weaker _ _ _ linked.1, induction linked.2⟩

/--
Two chains with the same tip are the same, where equal tips belong to the same
entries and the same entries fit at one position and after one tip.
-/
theorem Linked.bound_by_tip {Same : Entry → Entry → Prop} (SameTip : Tip → Tip → Prop)
    {entries others : List Entry}
    (bind : ∀ entry ∈ entries, ∀ other ∈ others,
        SameTip (tipOf entry) (tipOf other) → Same entry other)
    (fits : ∀ {entry other earlier earlier' place place'}, Same entry other →
        Fits earlier place entry → Fits earlier' place' other →
          place = place' ∧ SameTip earlier earlier')
    (linked : Linked tipOf Fits tip position entries)
    (linked' : Linked tipOf Fits tip position others)
    (nonempty : entries ≠ []) (nonempty' : others ≠ [])
    (tips : SameTip (tipAfter tipOf tip entries) (tipAfter tipOf tip others)) :
    List.Forall₂ Same entries others := by
  induction entries using List.reverseRecOn generalizing others with
  | nil => exact absurd rfl nonempty
  | append_singleton entries entry induction =>
    cases others using List.reverseRecOn with
    | nil => exact absurd rfl nonempty'
    | append_singleton others other =>
      rw [tipAfter_concat, tipAfter_concat] at tips
      have last := bind entry (by simp) other (by simp) tips
      rcases linked_concat_iff.mp linked with ⟨earlier, fitsLast⟩
      rcases linked_concat_iff.mp linked' with ⟨earlier', fitsLast'⟩
      rcases fits last fitsLast fitsLast' with ⟨places, tipsBefore⟩
      have lengths : entries.length = others.length := Nat.add_left_cancel places
      have before : List.Forall₂ Same entries others := by
        cases entries with
        | nil =>
          rw [List.eq_nil_of_length_eq_zero lengths.symm]
          exact List.Forall₂.nil
        | cons first rest =>
          have given : others ≠ [] := by
            rintro rfl
            cases lengths
          exact induction (fun entry member other member' =>
                bind entry (List.mem_append_left _ member) other
                  (List.mem_append_left _ member'))
              earlier earlier' (List.cons_ne_nil first rest) given
              tipsBefore
      exact List.rel_append before (List.Forall₂.cons last List.Forall₂.nil)

section Related

variable {Entry' : Type u} {Tip' : Type v}
variable {tipOf' : Entry' → Tip'} {Fits' : Tip' → Nat → Entry' → Prop}
variable {SameTip : Tip → Tip' → Prop} {Same : Entry → Entry' → Prop}
variable {tip' : Tip'} {entries : List Entry} {others : List Entry'}

/-- Related entries lead to related tips. -/
theorem tipAfter_related
    (tips : ∀ entry other, Same entry other → SameTip (tipOf entry) (tipOf' other))
    (sameTip : SameTip tip tip')
    (same : List.Forall₂ Same entries others) :
    SameTip (tipAfter tipOf tip entries) (tipAfter tipOf' tip' others) := by
  induction same generalizing tip tip' with
  | nil => exact sameTip
  | cons first rest induction => exact induction (tips _ _ first)

/-- A list whose entries are related to those of a chain is a chain. -/
theorem Linked.of_related
    (tips : ∀ entry other, Same entry other → SameTip (tipOf entry) (tipOf' other))
    (fits : ∀ tip tip' position entry other, SameTip tip tip' →
        Same entry other → Fits tip position entry → Fits' tip' position other)
    (sameTip : SameTip tip tip')
    (same : List.Forall₂ Same entries others)
    (linked : Linked tipOf Fits tip position entries) :
    Linked tipOf' Fits' tip' position others := by
  induction same generalizing tip tip' position with
  | nil => trivial
  | cons first rest induction =>
    exact ⟨fits _ _ _ _ _ sameTip first linked.1, induction (tips _ _ first) linked.2⟩

end Related

end Mozetto.Library.HashChain
