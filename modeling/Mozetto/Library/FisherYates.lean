import Mathlib.Data.List.Perm.Basic
import Mathlib.Data.Set.Function
import Mathlib.Tactic.Common

/-!
# The Fisher–Yates loop

The loop goes from the last position of a deck down to position one and
exchanges each with a chosen one at or before it.  On a deck without
duplicates the lists of choices correspond one to one to the orders of the
deck.
-/

namespace Mozetto.FisherYates

variable {Item : Type*}

/-! ## Exchanges -/

/-- The deck with the items of two positions exchanged. -/
def exchanged (deck : List Item) (i j : Nat) : List Item :=
  match deck[i]?, deck[j]? with
  | some first, some second => (deck.set i second).set j first
  | _, _ => deck

theorem exchanged_eq {deck : List Item} {i j : Nat}
    (inside : i < deck.length) (chosen : j < deck.length) :
    exchanged deck i j = (deck.set i deck[j]).set j deck[i] := by
  rw [exchanged, List.getElem?_eq_getElem inside, List.getElem?_eq_getElem chosen]

/-- An exchange keeps the items. -/
theorem exchanged_perm (deck : List Item) (i j : Nat) : (exchanged deck i j).Perm deck := by
  by_cases inside : i < deck.length
  · by_cases chosen : j < deck.length
    · rw [exchanged_eq inside chosen]
      exact List.set_set_perm inside chosen
    · rw [exchanged, List.getElem?_eq_none (Nat.le_of_not_lt chosen)]
      cases deck[i]? <;> exact List.Perm.refl deck
  · rw [exchanged, List.getElem?_eq_none (Nat.le_of_not_lt inside)]

@[simp]
theorem length_exchanged (deck : List Item) (i j : Nat) :
    (exchanged deck i j).length = deck.length := (exchanged_perm deck i j).length_eq

/-- The later position gets the chosen item. -/
theorem getElem?_exchanged_self {deck : List Item} {i j : Nat}
    (inside : i < deck.length) (before : j ≤ i) : (exchanged deck i j)[i]? = deck[j]? := by
  have chosen : j < deck.length := Nat.lt_of_le_of_lt before inside
  rw [exchanged_eq inside chosen, List.getElem?_eq_getElem chosen]
  by_cases same : j = i
  · subst same
    simp [chosen]
  · rw [List.getElem?_set_ne same, List.getElem?_set_self inside]

/-- Positions after both stay as they are. -/
theorem getElem?_exchanged_after {deck : List Item} {i j position : Nat}
    (inside : i < deck.length) (before : j ≤ i) (after : i < position) :
    (exchanged deck i j)[position]? = deck[position]? := by
  have chosen : j < deck.length := Nat.lt_of_le_of_lt before inside
  rw [exchanged_eq inside chosen,
    List.getElem?_set_ne (Nat.ne_of_lt (Nat.lt_of_le_of_lt before after)),
    List.getElem?_set_ne (Nat.ne_of_lt after)]

/-! ## The loop -/

/-- The loop on its choices, that of the last position first. -/
def shuffled : List Nat → List Item → List Item
  | [], deck => deck
  | choice :: later, deck =>
      shuffled later (exchanged deck (later.length + 1) choice)

/-- Every choice is at or before the position it is made for. -/
def Allowed : List Nat → Prop
  | [] => True
  | choice :: later => choice ≤ later.length + 1 ∧ Allowed later

/-- Whatever is chosen, the result is an order of the deck. -/
theorem shuffled_perm (choices : List Nat) (deck : List Item) :
    (shuffled choices deck).Perm deck := by
  induction choices generalizing deck with
  | nil => exact List.Perm.refl deck
  | cons choice later induction =>
    exact (induction _).trans (exchanged_perm deck _ choice)

/-- The loop leaves the positions after the one it starts from. -/
theorem getElem?_shuffled_after {choices : List Nat} {deck : List Item} {position : Nat}
    (allowed : Allowed choices) (short : choices.length < deck.length)
    (after : choices.length < position) : (shuffled choices deck)[position]? = deck[position]? := by
  induction choices generalizing deck with
  | nil => rfl
  | cons choice later induction =>
    rw [List.length_cons] at short after
    rw [shuffled, induction allowed.2 (by rw [length_exchanged]; exact Nat.lt_of_succ_lt short)
        (Nat.lt_of_succ_lt after)]
    exact getElem?_exchanged_after short allowed.1 after

/-- The position the loop starts from gets the item chosen for it. -/
theorem getElem?_shuffled_cons {choice : Nat} {later : List Nat} {deck : List Item}
    (allowed : Allowed (choice :: later)) (short : (choice :: later).length < deck.length) :
    (shuffled (choice :: later) deck)[later.length + 1]? = deck[choice]? := by
  rw [List.length_cons] at short
  rw [shuffled, getElem?_shuffled_after allowed.2
      (by rw [length_exchanged]; exact Nat.lt_of_succ_lt short) (Nat.lt_succ_self _)]
  exact getElem?_exchanged_self short allowed.1

/-- Different choices give different orders. -/
theorem shuffled_injective {choices others : List Nat} {deck : List Item}
    (distinct : deck.Nodup) (equal : choices.length = others.length)
    (short : choices.length < deck.length)
    (allowed : Allowed choices) (otherAllowed : Allowed others)
    (same : shuffled choices deck = shuffled others deck) : choices = others := by
  induction choices generalizing others deck with
  | nil => exact (List.length_eq_zero_iff.mp equal.symm).symm
  | cons choice later induction =>
    cases others with
    | nil => cases equal
    | cons other rest =>
      have lengths : later.length = rest.length := Nat.succ.inj equal
      have chosen := getElem?_shuffled_cons allowed short
      rw [same, lengths, getElem?_shuffled_cons otherAllowed
          (by rw [← equal]; exact short)] at chosen
      rw [List.length_cons] at short
      have bound : choice < deck.length := Nat.lt_of_le_of_lt allowed.1 short
      have first : choice = other := (List.getElem?_inj bound distinct).mp chosen.symm
      subst first
      rw [shuffled, shuffled, ← lengths] at same
      have remaining :=
        induction ((exchanged_perm deck _ choice).nodup_iff.mpr distinct) lengths
          (by rw [length_exchanged]; exact Nat.lt_of_succ_lt short)
          allowed.2 otherAllowed.2 same
      rw [remaining]

/-- The item an order has at the last open position is at an open one. -/
theorem exists_choice {deck order : List Item} {last : Nat}
    (distinct : deck.Nodup) (orders : order.Perm deck) (inside : last < deck.length)
    (settled : ∀ position, last < position → order[position]? = deck[position]?) :
    ∃ choice, choice ≤ last ∧ deck[choice]? = order[last]? := by
  have within : last < order.length := by
    rw [orders.length_eq]
    exact inside
  have member : order[last] ∈ deck := orders.mem_iff.mp (List.getElem_mem within)
  rcases List.mem_iff_getElem?.mp member with ⟨choice, found⟩
  refine ⟨choice, ?_, ?_⟩
  · by_contra later
    have after : last < choice := Nat.lt_of_not_le later
    have there : order[last]? = order[choice]? := by
      rw [settled choice after, found, List.getElem?_eq_getElem within]
    have same := (List.getElem?_inj within (orders.nodup_iff.mpr distinct)).mp there
    exact Nat.ne_of_lt after same
  · rw [found, List.getElem?_eq_getElem within]

/-- Every order that keeps the positions after the start is reached. -/
theorem exists_choices {last : Nat} {deck order : List Item}
    (distinct : deck.Nodup) (orders : order.Perm deck) (inside : last < deck.length)
    (settled : ∀ position, last < position → order[position]? = deck[position]?) :
    ∃ choices : List Nat, choices.length = last ∧ Allowed choices ∧
        shuffled choices deck = order := by
  induction last generalizing deck with
  | zero =>
    refine ⟨[], rfl, trivial, ?_⟩
    apply List.ext_getElem?
    intro position
    rcases Nat.eq_zero_or_pos position with rfl | after
    · rcases exists_choice distinct orders inside settled with ⟨choice, before, found⟩
      rw [Nat.le_zero.mp before] at found
      exact found
    · exact (settled position after).symm
  | succ last induction =>
    rcases exists_choice distinct orders inside settled with ⟨choice, before, found⟩
    have exchange := exchanged_perm deck (last + 1) choice
    have keeps : ∀ position, last < position → order[position]? =
          (exchanged deck (last + 1) choice)[position]? := by
      intro position after
      rcases Nat.eq_or_lt_of_le after with rfl | later
      · rw [getElem?_exchanged_self inside before]
        exact found.symm
      · rw [getElem?_exchanged_after inside before later]
        exact settled position later
    rcases induction (exchange.nodup_iff.mpr distinct) (orders.trans exchange.symm)
        (by rw [length_exchanged]; exact Nat.lt_of_succ_lt inside) keeps with
      ⟨later, length, allowed, reached⟩
    refine ⟨choice :: later, by rw [List.length_cons, length], ?_, ?_⟩
    · exact ⟨by rw [length]; exact before, allowed⟩
    · rw [shuffled, length]
      exact reached

/--
The allowed choices correspond one to one to the orders of a deck without
duplicates.
-/
theorem shuffled_bijOn {deck : List Item} (distinct : deck.Nodup) :
    Set.BijOn (fun choices => shuffled choices deck)
      {choices | choices.length = deck.length - 1 ∧ Allowed choices} {order | order.Perm deck} := by
  cases deck with
  | nil =>
    refine ⟨fun choices _ => shuffled_perm choices [], ?_, ?_⟩
    · intro choices member others otherMember _
      rw [List.length_eq_zero_iff.mp member.1, List.length_eq_zero_iff.mp otherMember.1]
    · intro order orders
      refine ⟨[], ⟨rfl, trivial⟩, ?_⟩
      exact (List.Perm.eq_nil orders).symm
  | cons item rest =>
    have length : (item :: rest).length - 1 = rest.length := rfl
    rw [length]
    refine ⟨fun choices _ => shuffled_perm choices _, ?_, ?_⟩
    · intro choices member others otherMember same
      exact shuffled_injective distinct (member.1.trans otherMember.1.symm)
        (by rw [member.1]; exact Nat.lt_succ_self _) member.2 otherMember.2 same
    · intro order orders
      have bound : order.length = rest.length + 1 := orders.length_eq
      have settled : ∀ position, rest.length < position →
          order[position]? = (item :: rest)[position]? := by
        intro position after
        rw [List.getElem?_eq_none (by rw [bound]; exact after), List.getElem?_eq_none after]
      rcases exists_choices distinct orders (Nat.lt_succ_self rest.length) settled with
        ⟨choices, chosen, allowed, reached⟩
      exact ⟨choices, ⟨chosen, allowed⟩, reached⟩

end Mozetto.FisherYates
