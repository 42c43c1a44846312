import Mozetto.Engine.Pots
import Mathlib.Tactic.Linarith
import Mathlib.Tactic.Ring

/-!
# Awards and their rake

A layer is split without a rest among its winners, the awards of a seat are
collected under one entry, and the rake is laid on the entries without taking
more from a seat than it was awarded.
-/

namespace Mozetto.Engine

open Mozetto.Library.Guarded

variable {seatCount : Nat}
variable {seats : Fin seatCount → SeatState}
variable {board : List (Option Card)}
variable {ranked : List (RankedSeat seatCount)}
variable {layer : PotLayer seatCount}
variable {button : Nat}
variable {i : Fin seatCount}

/-! ## Shares -/

@[simp]
theorem length_sharesFrom {share remainder : Int} {winners : Nat} :
    (sharesFrom share remainder winners).length = winners := by
  induction winners generalizing remainder with
  | zero => rfl
  | succ winners induction => simp [sharesFrom, induction]

theorem sum_sharesFrom {share remainder : Int} {winners : Nat} (nonneg : 0 ≤ remainder)
    (bound : remainder ≤ winners) : (sharesFrom share remainder winners).sum =
    share * winners + remainder := by
  induction winners generalizing remainder with
  | zero =>
    have none : remainder = 0 := by omega
    simp [sharesFrom, none]
  | succ winners induction =>
    rw [sharesFrom, List.sum_cons]
    have expand : share * ((winners + 1 : Nat) : Int) = share * winners + share := by
      push_cast
      ring
    rw [expand]
    by_cases odd : 0 < remainder
    · rw [if_pos odd, if_pos odd, induction (by omega) (by omega)]
      omega
    · rw [if_neg odd, if_neg odd, induction nonneg (by omega)]
      omega

theorem sharesFrom_nonneg {share remainder : Int} {winners : Nat} (nonneg : 0 ≤ share)
    {amount : Int} (member : amount ∈ sharesFrom share remainder winners) : 0 ≤ amount := by
  induction winners generalizing remainder with
  | zero => cases member
  | succ winners induction =>
    rw [sharesFrom] at member
    rcases List.mem_cons.mp member with rfl | member
    · split <;> omega
    · exact induction member

@[simp]
theorem length_splitPotShares {amount : Int} {winners : Nat} :
    (splitPotShares amount winners).length = winners := by
  simp [splitPotShares]

/-- A layer is split without a rest. -/
theorem sum_splitPotShares {amount : Int} {winners : Nat} (nonneg : 0 ≤ amount)
    (somebody : 0 < winners) : (splitPotShares amount winners).sum = amount := by
  have divided := Int.emod_add_mul_ediv amount winners
  have rest := Int.emod_nonneg amount (b := winners) (by omega)
  have bound := Int.emod_lt_of_pos amount (b := winners) (by omega)
  rw [splitPotShares, Int.tdiv_eq_ediv_of_nonneg nonneg]
  rw [Int.mul_comm] at divided
  rw [sum_sharesFrom (by omega) (by omega)]
  omega

theorem splitPotShares_nonneg {amount : Int} {winners : Nat} (nonneg : 0 ≤ amount)
    {share : Int} (member : share ∈ splitPotShares amount winners) : 0 ≤ share := by
  refine sharesFrom_nonneg ?_ member
  exact Int.tdiv_nonneg nonneg (Int.natCast_nonneg winners)

/-! ## Winners of a layer -/

theorem compareScores_self (score : List Nat) : compareScores score score = 0 := by
  induction score with
  | nil => rfl
  | cons value score induction => simp [compareScores, induction]

/-- The hands of a showdown are those of the seats that show. -/
theorem rankSeat_eq_ok {entry : RankedSeat seatCount} (ok : rankSeat seats board i = .ok entry) :
    entry.seatIndex = i := by
  rw [rankSeat] at ok
  split at ok
  · cases ok
  · cases ok
    rfl

theorem seats_of_mapM {order : List (Fin seatCount)}
    (ok : order.mapM (rankSeat seats board) = .ok ranked) :
    ranked.map RankedSeat.seatIndex = order := by
  induction order generalizing ranked with
  | nil =>
    rw [List.mapM_nil, pure_eq_ok_iff] at ok
    subst ok
    rfl
  | cons i order induction =>
    rw [List.mapM_cons, bind_eq_ok_iff] at ok
    rcases ok with ⟨entry, first, ok⟩
    rw [bind_eq_ok_iff] at ok
    rcases ok with ⟨rest, others, ok⟩
    rw [pure_eq_ok_iff] at ok
    subst ok
    rw [List.map_cons, rankSeat_eq_ok first, induction others]

/-- The hand of a seat, if it shows one. -/
def handOf (ranked : List (RankedSeat seatCount)) (i : Fin seatCount) :
    Option (RankedSeat seatCount) := ranked.find? fun entry => entry.seatIndex = i

theorem exists_handOf (shown : i ∈ ranked.map RankedSeat.seatIndex) :
    ∃ entry, handOf ranked i = some entry := by
  rw [List.mem_map] at shown
  rcases shown with ⟨entry, member, same⟩
  cases found : handOf ranked i with
  | some entry => exact ⟨entry, rfl⟩
  | none =>
    rw [handOf, List.find?_eq_none] at found
    exact absurd same (by simpa using found entry member)

/-- A layer has a winner as soon as an eligible seat shows its hand. -/
theorem layerWinners_ne_nil (eligible : i ∈ layer.eligible)
    (shown : i ∈ ranked.map RankedSeat.seatIndex) : layerWinners ranked button layer ≠ [] := by
  rcases exists_handOf shown with ⟨entry, found⟩
  have contender : entry ∈ layer.eligible.filterMap fun i =>
        ranked.find? fun entry => entry.seatIndex = i := by
    rw [List.mem_filterMap]
    exact ⟨i, eligible, found⟩
  rw [layerWinners]
  split
  case h_1 none =>
    rw [← List.mem_insertionSort (fun a b : RankedSeat seatCount =>
      compareScores b.score a.score ≤ 0), none] at contender
    cases contender
  case h_2 top rest listed =>
    have member : top ∈ (top :: rest).filter fun entry =>
          compareScores entry.score top.score = 0 := by
      rw [List.mem_filter]
      exact ⟨List.mem_cons_self, by simp [compareScores_self]⟩
    rw [listed]
    apply List.ne_nil_of_mem (a := top)
    rw [List.mem_insertionSort]
    exact member

theorem map_amount_layerAwards (positive : 0 < layer.amount) (somebody : layer.eligible ≠ []) :
    (layerAwards ranked button layer).map Pay.amount = splitPotShares layer.amount
        (layerWinners ranked button layer).length := by
  rw [layerAwards, if_neg (by simp [somebody]; omega), List.map_map]
  apply List.map_snd_zip
  simp

/-- The awards of a layer are its chips. -/
theorem sum_layerAwards (winnable : Winnable seats layer)
    (shown : ∀ i ∈ layer.eligible, i ∈ ranked.map RankedSeat.seatIndex) :
    ((layerAwards ranked button layer).map Pay.amount).sum =
      layer.amount := by
  rcases winnable with ⟨positive, somebody, -⟩
  rcases List.exists_mem_of_ne_nil _ somebody with ⟨i, eligible⟩
  rw [map_amount_layerAwards positive somebody]
  apply sum_splitPotShares positive.le
  rw [List.length_pos_iff]
  exact layerWinners_ne_nil eligible (shown i eligible)

theorem layerAwards_nonneg
    {award : Pay seatCount} (member : award ∈ layerAwards ranked button layer) :
    0 ≤ award.amount := by
  have amount := List.mem_map_of_mem (f := Pay.amount) member
  by_cases skipped : layer.amount ≤ 0 ∨ layer.eligible = []
  · rw [layerAwards, if_pos skipped] at member
    cases member
  · rw [not_or, not_le] at skipped
    rw [map_amount_layerAwards skipped.1 skipped.2] at amount
    exact splitPotShares_nonneg skipped.1.le amount

/-! ## Entries -/

theorem credited_addWon {won : List (Pay seatCount)} {award : Pay seatCount} :
    credited (entriesOf (addWon won award)) i = credited (entriesOf won) i +
        if award.seatIndex = i then award.amount else 0 := by
  induction won with
  | nil => simp [addWon, entriesOf]
  | cons pay won induction =>
    rw [addWon]
    split
    case isTrue same =>
      simp only [entriesOf, List.map_cons, credited_cons]
      rw [← same]
      split <;> omega
    case isFalse =>
      simp only [entriesOf, List.map_cons, credited_cons] at induction ⊢
      rw [induction]
      omega

/-- Collecting awards keeps what each seat receives. -/
theorem credited_foldl_addWon {awards won : List (Pay seatCount)} :
    credited (entriesOf (awards.foldl addWon won)) i =
      credited (entriesOf won) i + credited (entriesOf awards) i := by
  induction awards generalizing won with
  | nil => simp [entriesOf]
  | cons award awards induction =>
    rw [List.foldl_cons, induction, credited_addWon]
    simp only [entriesOf, List.map_cons, credited_cons]
    omega

theorem addWon_nonneg {won : List (Pay seatCount)} {award : Pay seatCount}
    (awarded : 0 ≤ award.amount) (nonneg : ∀ pay ∈ won, 0 ≤ pay.amount) :
    ∀ pay ∈ addWon won award, 0 ≤ pay.amount := by
  induction won with
  | nil =>
    intro pay member
    rw [addWon, List.mem_singleton] at member
    rwa [member]
  | cons first won induction =>
    have firstNonneg := nonneg first (by simp)
    intro pay member
    rw [addWon] at member
    split at member
    · rcases List.mem_cons.mp member with rfl | member
      · simp only
        omega
      · exact nonneg pay (by simp [member])
    · rcases List.mem_cons.mp member with rfl | member
      · exact firstNonneg
      · exact induction (fun pay later => nonneg pay (by simp [later])) pay member

theorem foldl_addWon_nonneg {awards won : List (Pay seatCount)}
    (awarded : ∀ award ∈ awards, 0 ≤ award.amount) (nonneg : ∀ pay ∈ won, 0 ≤ pay.amount) :
    ∀ pay ∈ awards.foldl addWon won, 0 ≤ pay.amount := by
  induction awards generalizing won with
  | nil => exact nonneg
  | cons award awards induction =>
    exact induction (fun award later => awarded award (by simp [later]))
        (addWon_nonneg (awarded award (by simp)) nonneg)

/-! ## The rake of a showdown -/

/-- Tabs that are laid on these payments within their amounts. -/
structure TabsOn (pays : List (Pay seatCount)) (tabs : List (Pay seatCount × Int)) : Prop where
  pays : tabs.map Prod.fst = pays
  nonneg : ∀ tab ∈ tabs, 0 ≤ tab.2
  within : ∀ tab ∈ tabs, tab.2 ≤ tab.1.amount

theorem clampShare_bounds {award share : Int} (nonneg : 0 ≤ award) :
    0 ≤ clampShare award share ∧ clampShare award share ≤ award ∧
      clampShare award share ≤ max share 0 := by
  simp only [clampShare]
  split <;> split <;> omega

/-- The proportional tabs stay within the awards and within the rake. -/
theorem tabsFrom_spec {handRake totalGross allocated : Int} {pays : List (Pay seatCount)}
    (positive : 0 < totalGross) (rake : 0 ≤ handRake) (nonneg : ∀ pay ∈ pays, 0 ≤ pay.amount)
    (share : allocated * totalGross + (pays.map Pay.amount).sum * handRake ≤
        handRake * totalGross) :
    TabsOn pays (tabsFrom handRake totalGross allocated pays) ∧ allocated +
          ((tabsFrom handRake totalGross allocated pays).map Prod.snd).sum ≤
        handRake := by
  induction pays generalizing allocated with
  | nil =>
    refine ⟨⟨rfl, by simp [tabsFrom], by simp [tabsFrom]⟩, ?_⟩
    simp only [List.map_nil, List.sum_nil, zero_mul, add_zero] at share
    simp only [tabsFrom, List.map_nil, List.sum_nil, add_zero]
    exact le_of_mul_le_mul_right share positive
  | cons pay pays induction =>
    have payNonneg := nonneg pay (by simp)
    have restNonneg : ∀ pay ∈ pays, 0 ≤ pay.amount :=
      fun pay later => nonneg pay (by simp [later])
    have restSum : 0 ≤ (pays.map Pay.amount).sum := by
      apply List.sum_nonneg
      intro amount member
      rcases List.mem_map.mp member with ⟨pay, later, rfl⟩
      exact restNonneg pay later
    rw [List.map_cons, List.sum_cons] at share
    cases pays with
    | nil =>
      rcases @clampShare_bounds _ (handRake - allocated) payNonneg
        with ⟨low, high, bound⟩
      have fits : allocated ≤ handRake := by
        refine le_of_mul_le_mul_right ?_ positive
        have part := mul_nonneg payNonneg rake
        simp only [List.map_nil, List.sum_nil, add_zero] at share
        linarith
      refine ⟨⟨rfl, ?_, ?_⟩, ?_⟩
      · simpa [tabsFrom] using low
      · simpa [tabsFrom] using high
      · simp only [tabsFrom, List.map_cons, List.map_nil, List.sum_cons, List.sum_nil]
        omega
    | cons next pays =>
      have product := mul_nonneg payNonneg rake
      have quotient : 0 ≤ (pay.amount * handRake).tdiv totalGross :=
        Int.tdiv_nonneg product positive.le
      have rounded : (pay.amount * handRake).tdiv totalGross * totalGross ≤
          pay.amount * handRake := by
        rw [Int.tdiv_eq_ediv_of_nonneg product]
        exact Int.ediv_mul_le _ positive.ne'
      rcases @clampShare_bounds _ ((pay.amount * handRake).tdiv totalGross) payNonneg
        with ⟨low, high, bound⟩
      rw [max_eq_left quotient] at bound
      have scaled := mul_le_mul_of_nonneg_right bound positive.le
      have tail := @induction (allocated + clampShare pay.amount
            ((pay.amount * handRake).tdiv totalGross))
        restNonneg (by rw [add_mul]; rw [add_mul] at share; linarith)
      rcases tail with ⟨tabs, total⟩
      refine ⟨⟨?_, ?_, ?_⟩, ?_⟩
      · rw [tabsFrom, List.map_cons, tabs.pays]
      · intro tab member
        rw [tabsFrom] at member
        rcases List.mem_cons.mp member with rfl | member
        · exact low
        · exact tabs.nonneg tab member
      · intro tab member
        rw [tabsFrom] at member
        rcases List.mem_cons.mp member with rfl | member
        · exact high
        · exact tabs.within tab member
      · rw [tabsFrom, List.map_cons, List.sum_cons]
        simp only
        omega

/-- The room a list of tabs leaves below the awards. -/
def room (tabs : List (Pay seatCount × Int)) : Int := (tabs.map fun tab => tab.1.amount - tab.2).sum

theorem room_nonneg {tabs : List (Pay seatCount × Int)}
    (within : ∀ tab ∈ tabs, tab.2 ≤ tab.1.amount) : 0 ≤ room tabs := by
  apply List.sum_nonneg
  intro amount member
  rcases List.mem_map.mp member with ⟨tab, inside, rfl⟩
  have bound := within tab inside
  omega

/-- Topping up places a remainder that there is room for. -/
theorem topUpTabs_spec {remaining : Int} {pays : List (Pay seatCount)}
    {tabs : List (Pay seatCount × Int)} (on : TabsOn pays tabs)
    (nonneg : 0 ≤ remaining) (fits : remaining ≤ room tabs) :
    TabsOn pays (topUpTabs remaining tabs) ∧ ((topUpTabs remaining tabs).map Prod.snd).sum =
        (tabs.map Prod.snd).sum + remaining := by
  induction tabs generalizing remaining pays with
  | nil =>
    have none : remaining = 0 := by
      simp only [room, List.map_nil, List.sum_nil] at fits
      omega
    exact ⟨on, by simp [topUpTabs, none]⟩
  | cons tab tabs induction =>
    rcases tab with ⟨pay, tab⟩
    rcases on with ⟨rfl, tabNonneg, within⟩
    have low := tabNonneg (pay, tab) (by simp)
    have high := within (pay, tab) (by simp)
    simp only at low high
    simp only [room, List.map_cons, List.sum_cons] at fits
    have rest : ∀ remaining, 0 ≤ remaining → remaining ≤ room tabs →
        TabsOn (tabs.map Prod.fst) (topUpTabs remaining tabs) ∧
          ((topUpTabs remaining tabs).map Prod.snd).sum =
            (tabs.map Prod.snd).sum + remaining := by
      intro remaining nonneg fits
      exact induction ⟨rfl, fun tab later => tabNonneg tab (by simp [later]),
            fun tab later => within tab (by simp [later])⟩ nonneg fits
    have restRoom : 0 ≤ room tabs := room_nonneg fun tab later => within tab (by simp [later])
    have extend : ∀ remaining added, 0 ≤ added → tab + added ≤ pay.amount →
        0 ≤ remaining → remaining ≤ room tabs → TabsOn (((pay, tab) :: tabs).map Prod.fst)
            ((pay, tab + added) :: topUpTabs remaining tabs) ∧
          (((pay, tab + added) :: topUpTabs remaining tabs).map Prod.snd).sum =
            (((pay, tab) :: tabs).map Prod.snd).sum + (added + remaining) := by
      intro remaining added addedNonneg addedFits nonneg fits
      rcases rest remaining nonneg fits with ⟨on, sum⟩
      refine ⟨⟨?_, ?_, ?_⟩, ?_⟩
      · rw [List.map_cons, on.pays, List.map_cons]
      · intro other member
        rcases List.mem_cons.mp member with rfl | member
        · simp only
          omega
        · exact on.nonneg other member
      · intro other member
        rcases List.mem_cons.mp member with rfl | member
        · exact addedFits
        · exact on.within other member
      · simp only [List.map_cons, List.sum_cons]
        omega
    rw [topUpTabs]
    unfold room at restRoom rest extend
    split
    case isTrue done =>
      have none : remaining = 0 := by omega
      refine ⟨⟨rfl, tabNonneg, within⟩, ?_⟩
      omega
    case isFalse more =>
      split
      case isTrue noRoom =>
        have same := extend remaining 0 le_rfl (by omega) nonneg (by omega)
        simpa using same
      case isFalse someRoom =>
        have same :=
          extend (remaining - min remaining (pay.amount - tab))
            (min remaining (pay.amount - tab)) (by omega) (by omega) (by omega) (by omega)
        have total : min remaining (pay.amount - tab) +
              (remaining - min remaining (pay.amount - tab)) =
            remaining := by
          omega
        rw [total] at same
        exact same

/-- The tabs as entries of their seats. -/
def tabEntries (tabs : List (Pay seatCount × Int)) : List (Fin seatCount × Int) :=
  tabs.map fun tab => (tab.1.seatIndex, tab.2)

theorem credited_tabs_bounds {pays : List (Pay seatCount)} {tabs : List (Pay seatCount × Int)}
    (on : TabsOn pays tabs) : 0 ≤ credited (tabEntries tabs) i ∧
    credited (tabEntries tabs) i ≤ credited (entriesOf pays) i := by
  rcases on with ⟨rfl, nonneg, within⟩
  induction tabs with
  | nil => exact ⟨le_rfl, le_rfl⟩
  | cons tab tabs induction =>
    have low := nonneg tab (by simp)
    have high := within tab (by simp)
    rcases induction (fun other later => nonneg other (by simp [later]))
        (fun other later => within other (by simp [later])) with
      ⟨restLow, restHigh⟩
    simp only [tabEntries, entriesOf, List.map_cons, credited_cons] at *
    split <;> omega

theorem credited_perm {first second : List (Fin seatCount × Int)} (perm : first.Perm second) :
    credited first i = credited second i := (perm.map _).sum_eq

/-- The seats in the order in which the rake is laid on them. -/
def inButtonOrder (button : Nat) (pays : List (Pay seatCount)) : List (Pay seatCount) :=
  pays.insertionSort fun a b =>
    buttonRank button a.seatIndex ≤ buttonRank button b.seatIndex

theorem perm_inButtonOrder (pays : List (Pay seatCount)) : (inButtonOrder button pays).Perm pays :=
  List.perm_insertionSort _ pays

theorem room_eq {tabs : List (Pay seatCount × Int)} : room tabs =
    ((tabs.map Prod.fst).map Pay.amount).sum - (tabs.map Prod.snd).sum := by
  induction tabs with
  | nil => rfl
  | cons tab tabs induction =>
    simp only [room, List.map_cons, List.sum_cons] at induction ⊢
    omega

/-- The tabs that the rake leaves, laid on the awards in button order. -/
def rakeTabs (pays : List (Pay seatCount)) (rake : Int) (button : Nat) :
    List (Pay seatCount × Int) :=
  let tabs := tabsFrom rake (pays.map Pay.amount).sum 0 (inButtonOrder button pays)
  topUpTabs (rake - (tabs.map Prod.snd).sum) tabs

/-- A rake that is charged lays tabs within the awards, without a rest. -/
theorem rakeTabs_spec {pays : List (Pay seatCount)} {rake : Int}
    (nonneg : ∀ pay ∈ pays, 0 ≤ pay.amount) (rakeNonneg : 0 ≤ rake)
    (covered : rake ≤ (pays.map Pay.amount).sum) (positive : 0 < (pays.map Pay.amount).sum) :
    TabsOn (inButtonOrder button pays) (rakeTabs pays rake button) ∧
      ((rakeTabs pays rake button).map Prod.snd).sum = rake := by
  have perm := @perm_inButtonOrder _ button pays
  rw [rakeTabs]
  generalize inButtonOrder button pays = ordered at perm ⊢
  have orderedNonneg : ∀ pay ∈ ordered, 0 ≤ pay.amount :=
    fun pay member => nonneg pay (perm.mem_iff.mp member)
  have orderedSum : (ordered.map Pay.amount).sum = (pays.map Pay.amount).sum := (perm.map _).sum_eq
  rcases @tabsFrom_spec _ rake _ 0 ordered positive rakeNonneg
      orderedNonneg (by rw [orderedSum]; linarith) with
    ⟨on, total⟩
  generalize tabsFrom rake (pays.map Pay.amount).sum 0 ordered = tabs at on total ⊢
  have left := @room_eq _ tabs
  rw [on.pays] at left
  rcases @topUpTabs_spec _ (rake - (tabs.map Prod.snd).sum) _ _ on (by omega) (by omega) with
    ⟨topped, sum⟩
  refine ⟨topped, ?_⟩
  omega

/-- Nothing is charged without a rake or an award. -/
theorem allocateRakeByAwards_eq {pays : List (Pay seatCount)} {rake : Int} :
    allocateRakeByAwards pays rake button =
      if rake ≤ 0 ∨ pays = [] ∨ (pays.map Pay.amount).sum ≤ 0 then []
      else tabEntries (rakeTabs pays rake button) :=
  rfl

theorem eq_zero_of_uncharged {pays : List (Pay seatCount)} {rake : Int} (rakeNonneg : 0 ≤ rake)
    (covered : rake ≤ (pays.map Pay.amount).sum)
    (skipped : rake ≤ 0 ∨ pays = [] ∨ (pays.map Pay.amount).sum ≤ 0) :
    rake = 0 := by
  rcases skipped with free | nobody | empty
  · omega
  · rw [nobody] at covered
    simp only [List.map_nil, List.sum_nil] at covered
    omega
  · omega

/-- The whole rake is charged, and no seat is charged more than its award. -/
theorem allocateRakeByAwards_spec {pays : List (Pay seatCount)} {rake : Int}
    (nonneg : ∀ pay ∈ pays, 0 ≤ pay.amount) (rakeNonneg : 0 ≤ rake)
    (covered : rake ≤ (pays.map Pay.amount).sum) :
    ∑ i, credited (allocateRakeByAwards pays rake button) i = rake ∧ ∀ i,
        0 ≤ credited (allocateRakeByAwards pays rake button) i ∧
          credited (allocateRakeByAwards pays rake button) i ≤ credited (entriesOf pays) i := by
  have entriesNonneg : ∀ i, 0 ≤ credited (entriesOf pays) i := by
    intro i
    apply List.sum_nonneg
    intro amount member
    simp only [entriesOf, List.map_map, List.mem_map, Function.comp_apply] at member
    rcases member with ⟨pay, inside, rfl⟩
    have positive := nonneg pay inside
    split <;> omega
  rw [allocateRakeByAwards_eq]
  split
  case isTrue skipped =>
    have none := eq_zero_of_uncharged rakeNonneg covered skipped
    subst none
    exact ⟨by simp, fun i => ⟨le_rfl, entriesNonneg i⟩⟩
  case isFalse charged =>
    rw [not_or, not_or, not_le, not_le] at charged
    rcases rakeTabs_spec nonneg rakeNonneg covered charged.2.2 with ⟨topped, sum⟩
    have perm := @perm_inButtonOrder _ button pays
    generalize rakeTabs pays rake button = final at topped sum ⊢
    generalize inButtonOrder button pays = ordered at topped perm
    constructor
    · have entries := sum_credited (tabEntries final)
      rw [tabEntries, List.map_map] at entries
      refine entries.trans ?_
      have same : (Prod.snd ∘ fun tab : Pay seatCount × Int =>
        (tab.1.seatIndex, tab.2)) = Prod.snd := rfl
      rw [same, sum]
    · intro i
      have bounds := credited_tabs_bounds (i := i) topped
      have same : credited (entriesOf ordered) i = credited (entriesOf pays) i := by
        apply credited_perm
        exact perm.map _
      rw [same] at bounds
      exact bounds

end Mozetto.Engine
