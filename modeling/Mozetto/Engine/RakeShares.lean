import Mozetto.Engine.SidePots

/-!
# Whose award pays the rake

The rake of a hand is laid on the awards in proportion, rounded down, and the
last seat in button order is charged what is left.  Rounding down never takes
more than an award as long as the rake is at most the total, so that only the
last seat is ever clamped, and the second pass adds to tabs and takes nothing
away.
-/

namespace Mozetto.Engine

variable {seatCount : Nat}
variable {button : Nat}

/-! ## Proportional shares -/

/-- A share that is rounded down fits into its award. -/
theorem clampShare_share {amount rake total : Int} (nonneg : 0 ≤ amount) (rakeNonneg : 0 ≤ rake)
    (covered : rake ≤ total) (positive : 0 < total) :
    clampShare amount ((amount * rake).tdiv total) = (amount * rake).tdiv total := by
  have product := mul_nonneg nonneg rakeNonneg
  have quotient : 0 ≤ (amount * rake).tdiv total := Int.tdiv_nonneg product positive.le
  have fits : (amount * rake).tdiv total ≤ amount := by
    rw [Int.tdiv_eq_ediv_of_nonneg product]
    calc
      amount * rake / total ≤ amount * total / total :=
        Int.ediv_le_ediv positive (mul_le_mul_of_nonneg_left covered nonneg)
      _ = amount := Int.mul_ediv_cancel amount positive.ne'
  simp only [clampShare]
  rw [if_neg (not_lt.mpr fits), if_neg (not_lt.mpr quotient)]

/-- Every tab but the last is a share, rounded down. -/
theorem tabsFrom_dropLast {rake total allocated : Int} {pays : List (Pay seatCount)}
    (nonneg : ∀ pay ∈ pays, 0 ≤ pay.amount) (rakeNonneg : 0 ≤ rake)
    (covered : rake ≤ total) (positive : 0 < total) :
    (tabsFrom rake total allocated pays).dropLast =
      pays.dropLast.map fun pay => (pay, (pay.amount * rake).tdiv total) := by
  induction pays generalizing allocated with
  | nil => rfl
  | cons pay pays induction =>
    cases pays with
    | nil => rfl
    | cons next pays =>
      have later : tabsFrom rake total (allocated +
              clampShare pay.amount ((pay.amount * rake).tdiv total)) (next :: pays) ≠ [] := by
        cases pays <;> nofun
      rw [tabsFrom, List.dropLast_cons_of_ne_nil later, induction fun other member =>
        nonneg other (List.mem_cons_of_mem _ member),
        clampShare_share (nonneg pay List.mem_cons_self) rakeNonneg covered positive]
      rfl

/-- The second pass takes nothing away. -/
theorem exists_mem_topUpTabs {remaining tab : Int} {tabs : List (Pay seatCount × Int)}
    {pay : Pay seatCount} (member : (pay, tab) ∈ tabs) :
    ∃ after, (pay, after) ∈ topUpTabs remaining tabs ∧ tab ≤ after := by
  induction tabs generalizing remaining with
  | nil => cases member
  | cons first tabs induction =>
    rcases first with ⟨payer, paid⟩
    rw [topUpTabs]
    split
    · exact ⟨tab, member, le_rfl⟩
    · split
      · rcases List.mem_cons.mp member with same | later
        · cases same
          exact ⟨tab, List.mem_cons_self, le_rfl⟩
        · rcases induction later with ⟨after, inside, grown⟩
          exact ⟨after, List.mem_cons_of_mem _ inside, grown⟩
      · rcases List.mem_cons.mp member with same | later
        · cases same
          refine ⟨_, List.mem_cons_self, ?_⟩
          omega
        · rcases induction later with ⟨after, inside, grown⟩
          exact ⟨after, List.mem_cons_of_mem _ inside, grown⟩

/-! ## The last seat -/

section Order

variable {pays : List (Pay seatCount)}

instance : Std.Total fun a b : Pay seatCount =>
    buttonRank button a.seatIndex ≤ buttonRank button b.seatIndex where
  total _ _ := le_total _ _

instance : IsTrans (Pay seatCount) fun a b =>
    buttonRank button a.seatIndex ≤ buttonRank button b.seatIndex where
  trans _ _ _ first second := first.trans second

/-- The last award in button order. -/
def LastInButtonOrder (button : Nat) (pays : List (Pay seatCount)) (pay : Pay seatCount) :
    Prop :=
  ∀ other ∈ pays, buttonRank button other.seatIndex ≤ buttonRank button pay.seatIndex

/-- Whoever is not last in button order does not stand at the end. -/
theorem mem_dropLast_inButtonOrder {pay : Pay seatCount} (member : pay ∈ pays)
    (early : ¬ LastInButtonOrder button pays pay) : pay ∈ (inButtonOrder button pays).dropLast := by
  have perm := @perm_inButtonOrder _ button pays
  have sorted := List.pairwise_insertionSort (fun a b : Pay seatCount =>
    buttonRank button a.seatIndex ≤ buttonRank button b.seatIndex) pays
  have inside := perm.mem_iff.mpr member
  have nonempty := List.ne_nil_of_mem inside
  rw [← List.dropLast_append_getLast nonempty] at inside
  rcases List.mem_append.mp inside with before | last
  · exact before
  · refine absurd (fun other present => ?_) early
    have ends := List.mem_singleton.mp last
    have placed := perm.mem_iff.mpr present
    rw [← List.dropLast_append_getLast nonempty] at placed
    rcases List.mem_append.mp placed with earlier | same
    · have ordered : (inButtonOrder button pays).Pairwise fun a b =>
          buttonRank button a.seatIndex ≤ buttonRank button b.seatIndex :=
        sorted
      rw [← List.dropLast_append_getLast nonempty, List.pairwise_append] at ordered
      rw [ends]
      exact ordered.2.2 other earlier _ (List.mem_singleton_self _)
    · rw [List.mem_singleton.mp same, ends]

end Order

/-! ## The tabs of a rake -/

theorem tabOf_of_mem {tabs : List (Fin seatCount × Int)} {i : Fin seatCount} {tab : Int}
    (distinct : (tabs.map Prod.fst).Nodup) (member : (i, tab) ∈ tabs) : tabOf tabs i = tab := by
  induction tabs with
  | nil => cases member
  | cons first tabs induction =>
    rw [List.map_cons, List.nodup_cons] at distinct
    rw [tabOf, List.find?_cons]
    by_cases here : first.1 = i
    · rcases List.mem_cons.mp member with rfl | later
      · simp
      · refine absurd ?_ distinct.1
        rw [here]
        exact List.mem_map_of_mem later
    · rcases List.mem_cons.mp member with rfl | later
      · exact absurd rfl here
      · have found := induction distinct.2 later
        rw [tabOf] at found
        simpa [here] using found

/--
The tabs of a rake within the awards sum to the rake, each lies between zero
and its seat's award, and each but the one of the last seat in button order
is at least its share rounded down.
-/
theorem allocateRakeByAwards_exact
    (grossPays : List (Pay seatCount)) (handRake : Int) (button : Nat)
    (distinct : (grossPays.map Pay.seatIndex).Nodup)
    (awards : ∀ pay ∈ grossPays, 0 ≤ pay.amount)
    (rakeNonneg : 0 ≤ handRake)
    (covered : handRake ≤ (grossPays.map Pay.amount).sum) :
    ((allocateRakeByAwards grossPays handRake button).map Prod.snd).sum =
        handRake ∧
      ((allocateRakeByAwards grossPays handRake button).map
        Prod.fst).Nodup ∧
      (∀ tab ∈ allocateRakeByAwards grossPays handRake button,
        ∃ pay ∈ grossPays, pay.seatIndex = tab.1 ∧ 0 ≤ tab.2 ∧
          tab.2 ≤ pay.amount) ∧
      ∀ pay ∈ grossPays, ¬ LastInButtonOrder button grossPays pay →
        pay.amount * handRake / (grossPays.map Pay.amount).sum ≤
          tabOf (allocateRakeByAwards grossPays handRake button)
            pay.seatIndex := by
  rw [allocateRakeByAwards_eq]
  split
  case isTrue skipped =>
    have none := eq_zero_of_uncharged rakeNonneg covered skipped
    subst none
    refine ⟨rfl, List.nodup_nil, nofun, fun pay _ _ => ?_⟩
    rw [mul_zero, Int.zero_ediv]
    rfl
  case isFalse charged =>
    rw [not_or, not_or, not_le, not_le] at charged
    have positive := charged.2.2
    rcases @rakeTabs_spec _ button _ _ awards rakeNonneg covered
        positive with
      ⟨on, sum⟩
    have perm := @perm_inButtonOrder _ button grossPays
    have seats :
        (tabEntries (rakeTabs grossPays handRake button)).map Prod.fst =
          (inButtonOrder button grossPays).map Pay.seatIndex := by
      rw [← on.pays, tabEntries, List.map_map, List.map_map]
      rfl
    have nodup :
        ((tabEntries (rakeTabs grossPays handRake button)).map
          Prod.fst).Nodup := by
      rw [seats, (perm.map _).nodup_iff]
      exact distinct
    refine ⟨?_, nodup, ?_, ?_⟩
    · rw [tabEntries, List.map_map]
      exact sum
    · intro tab member
      rcases List.mem_map.mp member with ⟨⟨pay, paid⟩, inside, rfl⟩
      have awarded : pay ∈ inButtonOrder button grossPays := by
        rw [← on.pays]
        exact List.mem_map_of_mem inside
      exact ⟨pay, perm.mem_iff.mp awarded, rfl, on.nonneg _ inside,
        on.within _ inside⟩
    · intro pay member early
      have first := mem_dropLast_inButtonOrder member early
      have nonneg :
          ∀ pay ∈ inButtonOrder button grossPays, 0 ≤ pay.amount :=
        fun pay inside => awards pay (perm.mem_iff.mp inside)
      have share :
          (pay,
              (pay.amount * handRake).tdiv
                (grossPays.map Pay.amount).sum) ∈
            tabsFrom handRake (grossPays.map Pay.amount).sum 0
              (inButtonOrder button grossPays) := by
        apply List.mem_of_mem_dropLast
        rw [tabsFrom_dropLast nonneg rakeNonneg covered positive]
        exact List.mem_map_of_mem first
      rcases exists_mem_topUpTabs share with ⟨tab, topped, grown⟩
      have entry :
          (pay.seatIndex, tab) ∈
            tabEntries (rakeTabs grossPays handRake button) :=
        List.mem_map_of_mem topped
      rw [tabOf_of_mem nodup entry]
      rw [Int.tdiv_eq_ediv_of_nonneg
        (mul_nonneg (awards _ member) rakeNonneg)] at grown
      exact grown

/-- Three awards with a rake that does not divide. -/
def threeAwards : List (Pay 3) :=
  (List.finRange 3).zipWith (fun i amount => ⟨i, amount, ""⟩) [50, 30, 1]

theorem allocateRakeByAwards_exact_threeAwards :
    ((allocateRakeByAwards threeAwards 7 2).map Prod.snd).sum = 7 ∧
      50 * 7 / 81 ≤ tabOf (allocateRakeByAwards threeAwards 7 2) 0 := by
  have charged :=
    allocateRakeByAwards_exact threeAwards 7 2 (by decide) (by decide)
      (by decide) (by decide)
  refine ⟨charged.1, charged.2.2.2 ⟨0, 50, ""⟩ List.mem_cons_self ?_⟩
  intro last
  exact absurd (last ⟨2, 1, ""⟩ (by decide)) (by decide)

end Mozetto.Engine
