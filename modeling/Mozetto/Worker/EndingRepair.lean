import Mathlib.Algebra.BigOperators.Ring.Finset
import Mathlib.Algebra.Order.BigOperators.Group.List
import Mathlib.Algebra.Order.Group.Unbundled.Abs
import Mozetto.Worker.ProposalAcceptance

/-!
# The repair of ending balances

When the balances of a session exceed what the vault has locked for it, they
are scaled down so that they cover the locks less the rake.  Balances are
rounded down, and the last player receives what is left.
-/

namespace Mozetto.Worker.VaultLocks

open Mozetto.Library.ProportionalSplit

/-! ## The repair -/

structure VaultLockPlayer where
  startLocked : Int
  endBalance : Int
deriving DecidableEq

/-- The answer of the repair, with the players as it leaves them. -/
structure EndingRepair where
  repaired : Bool
  targetEnding : Int
  players : List VaultLockPlayer
deriving DecidableEq

def totalLocked (players : List VaultLockPlayer) : Int := (players.map (·.startLocked)).sum

def totalEnding (players : List VaultLockPlayer) : Int := (players.map (·.endBalance)).sum

/-- The loop of the repair, with what it has allocated so far. -/
def scaleEndings (targetEnding ending : Int) : Int → List VaultLockPlayer → List VaultLockPlayer
  | _, [] => []
  | allocated, [player] =>
    [{ player with endBalance := targetEnding - allocated }]
  | allocated, player :: next :: rest =>
    let scaled := (player.endBalance * targetEnding).tdiv ending
    { player with endBalance := scaled } ::
      scaleEndings targetEnding ending (allocated + scaled) (next :: rest)

def repairEndingBalancesForVaultLocks
    (players : List VaultLockPlayer) (dbOpeningRaw : Int) : EndingRepair :=
  let opening := totalLocked players
  let ending := totalEnding players
  if ending ≤ opening then ⟨false, ending, players⟩
  else
    let intendedRake := if ending ≤ dbOpeningRaw then dbOpeningRaw - ending else 0
    let targetEnding := if intendedRake < opening then opening - intendedRake else opening
    if ending = 0 then ⟨false, ending, players⟩
    else ⟨true, targetEnding, scaleEndings targetEnding ending 0 players⟩

/-! ## Fairness -/

/-- No amount is negative. -/
def NonNegative (players : List VaultLockPlayer) : Prop :=
  ∀ player ∈ players, 0 ≤ player.startLocked ∧ 0 ≤ player.endBalance

instance (players : List VaultLockPlayer) : Decidable (NonNegative players) :=
  inferInstanceAs (Decidable (∀ player ∈ players, _))

/-- The repair gives out the target, which the locks cover, without a negative
balance, and leaves balances alone that the locks cover. -/
structure Conserving (players : List VaultLockPlayer) (dbOpeningRaw : Int)
    (repair : EndingRepair) : Prop where
  nonNegative : NonNegative repair.players
  locks : repair.players.map (·.startLocked) = players.map (·.startLocked)
  given : totalEnding repair.players = repair.targetEnding
  covered : repair.targetEnding ≤ totalLocked players
  unchanged : totalEnding players ≤ totalLocked players → repair.players = players

/-- Every player ends near a proportional share. -/
def NearShares (players : List VaultLockPlayer) (repair : EndingRepair) :
    Prop :=
  totalEnding players ≠ 0 → ∀ (index : Nat) (player after : VaultLockPlayer),
      players[index]? = some player → repair.players[index]? = some after →
        |after.endBalance * totalEnding players - player.endBalance * repair.targetEnding| <
          players.length * totalEnding players

/-- Nobody who was busted has anything, if `counts` him. -/
def BustedStay (counts : Nat → Prop) (players : List VaultLockPlayer)
    (repair : EndingRepair) : Prop :=
  ∀ (index : Nat) (player after : VaultLockPlayer), counts index →
    players[index]? = some player → repair.players[index]? = some after →
      player.endBalance = 0 → after.endBalance = 0

/-- Who had at least as much as another has less than `slack` units less. -/
def KeepsOrder (slack : Nat → Int) (players : List VaultLockPlayer)
    (repair : EndingRepair) : Prop :=
  ∀ (index other : Nat) (first second first' second' : VaultLockPlayer),
    players[index]? = some first → players[other]? = some second →
      repair.players[index]? = some first' → repair.players[other]? = some second' →
          second.endBalance ≤ first.endBalance →
            second'.endBalance < first'.endBalance + slack other

/-- The units that rounding may give to the player at a place: as many as there
are players for the last one, and none for the others. -/
def dust (players : List VaultLockPlayer) (index : Nat) : Int :=
  if index + 1 < players.length then 1 else players.length

/-- A player ends with the same, up to rounding, in whatever order the players
are listed. -/
def OrderFree (players : List VaultLockPlayer) (dbOpeningRaw : Int) : Prop :=
  ∀ others : List VaultLockPlayer, others.Perm players →
    ∀ (index other : Nat) (player after after' : VaultLockPlayer),
      players[index]? = some player → others[other]? = some player →
        (repairEndingBalancesForVaultLocks players dbOpeningRaw).players[index]? = some after →
          (repairEndingBalancesForVaultLocks others dbOpeningRaw).players[other]? = some after' →
            |after'.endBalance - after.endBalance| < players.length

/-! ## The split of the weights -/

/-- Balances as weights of a split. -/
def weights (players : List VaultLockPlayer) : List Nat := players.map (·.endBalance.toNat)

variable {players others : List VaultLockPlayer} {dbOpeningRaw : Int}
variable {target total allocated : Nat}

theorem NonNegative.tail
    {player : VaultLockPlayer} (nonNegative : NonNegative (player :: players)) :
    NonNegative players :=
  fun other member => nonNegative other (List.mem_cons_of_mem _ member)

theorem NonNegative.totalEnding_eq (nonNegative : NonNegative players) :
    totalEnding players = (weights players).sum := by
  induction players with
  | nil => rfl
  | cons player rest induction =>
    have here := (nonNegative player List.mem_cons_self).2
    have later := induction nonNegative.tail
    rw [totalEnding] at later ⊢
    rw [weights, List.map_cons, List.map_cons, List.sum_cons, List.sum_cons,
      ← weights, later, Nat.cast_add, Int.toNat_of_nonneg here]

theorem NonNegative.totalLocked_nonneg (nonNegative : NonNegative players) :
    0 ≤ totalLocked players := by
  refine List.sum_nonneg fun amount member => ?_
  rcases List.mem_map.mp member with ⟨player, listed, rfl⟩
  exact (nonNegative player listed).1

/-- The loop splits the target by the weights, and leaves the locks. -/
theorem scaleEndings_eq (positive : 0 < total) (nonNegative : NonNegative players)
    (within : Within target total allocated (weights players)) :
    (scaleEndings target total allocated players).map (·.endBalance) =
        (splitFrom target total allocated (weights players)).map Nat.cast ∧
      (scaleEndings target total allocated players).map (·.startLocked) =
        players.map (·.startLocked) := by
  induction players generalizing allocated with
  | nil => exact ⟨rfl, rfl⟩
  | cons player rest induction =>
    cases rest with
    | nil =>
      have enough := within.allocated_le positive
      constructor
      · rw [scaleEndings, weights, List.map_singleton, List.map_singleton,
          splitFrom, List.map_singleton, Nat.cast_sub enough]
      · rfl
    | cons next others =>
      have here := (nonNegative player List.mem_cons_self).2
      have share : (player.endBalance * target).tdiv total =
          ((player.endBalance.toNat * target / total : Nat) : Int) := by
        rw [Int.tdiv_eq_ediv_of_nonneg, Int.natCast_ediv,
          Nat.cast_mul, Int.toNat_of_nonneg here]
        exact Int.mul_nonneg here (Int.natCast_nonneg target)
      rcases induction nonNegative.tail within.tail with ⟨ends, locks⟩
      rw [Nat.cast_add, ← share] at ends locks
      constructor
      · rw [scaleEndings, List.map_cons, ends, share]
        rfl
      · rw [scaleEndings, List.map_cons, locks]
        rfl

/-! ## The target -/

/-- What is given out when the locks do not cover the balances. -/
def targetOf (opening ending dbOpeningRaw : Int) : Int :=
  let intendedRake := if ending ≤ dbOpeningRaw then dbOpeningRaw - ending else 0
  if intendedRake < opening then opening - intendedRake else opening

theorem targetOf_bounds {opening : Int} (ending dbOpeningRaw : Int) (locked : 0 ≤ opening) :
    0 ≤ targetOf opening ending dbOpeningRaw ∧ targetOf opening ending dbOpeningRaw ≤ opening := by
  rw [targetOf]
  split <;> split <;> omega

theorem repair_of_covered (covered : totalEnding players ≤ totalLocked players) :
    repairEndingBalancesForVaultLocks players dbOpeningRaw =
      ⟨false, totalEnding players, players⟩ := if_pos covered

/-- The balances exceed the locks, and the target is split by the weights. -/
structure Split (players : List VaultLockPlayer) (dbOpeningRaw : Int) (target : Nat) : Prop where
  positive : 0 < (weights players).sum
  isTarget : targetOf (totalLocked players) (totalEnding players) dbOpeningRaw = target
  repair : repairEndingBalancesForVaultLocks players dbOpeningRaw =
      ⟨true, target, scaleEndings target (weights players).sum 0 players⟩

theorem exists_split (nonNegative : NonNegative players)
    (more : ¬ totalEnding players ≤ totalLocked players) :
    ∃ target, Split players dbOpeningRaw target := by
  have locked := nonNegative.totalLocked_nonneg
  have ending := nonNegative.totalEnding_eq
  have nonzero : totalEnding players ≠ 0 := by omega
  rcases Int.eq_ofNat_of_zero_le (targetOf_bounds (totalEnding players) dbOpeningRaw locked).1 with
    ⟨target, same⟩
  refine ⟨target, by omega, same, ?_⟩
  rw [← ending, ← same]
  exact (if_neg more).trans (if_neg nonzero)

namespace Split

variable {index : Nat} {player after : VaultLockPlayer}

theorem ends (split : Split players dbOpeningRaw target) (nonNegative : NonNegative players) :
    (repairEndingBalancesForVaultLocks players dbOpeningRaw).players.map (·.endBalance) =
      (splitFrom target (weights players).sum 0 (weights players)).map
        Nat.cast := by
  rw [split.repair]
  exact (scaleEndings_eq split.positive nonNegative (within_of_sum rfl)).1

/-- The part of a player. -/
theorem part (split : Split players dbOpeningRaw target) (nonNegative : NonNegative players)
    (found : players[index]? = some player)
    (left : (repairEndingBalancesForVaultLocks players dbOpeningRaw).players[index]? = some after) :
    ∃ part : Nat, after.endBalance = part ∧
      (splitFrom target (weights players).sum 0 (weights players))[index]? = some part ∧
        (weights players)[index]? = some player.endBalance.toNat ∧ 0 ≤ player.endBalance := by
  have here := congrArg (·[index]?) (split.ends nonNegative)
  simp only [List.getElem?_map] at here
  rw [left] at here
  rcases Option.map_eq_some_iff.mp here.symm with ⟨part, isPart, same⟩
  refine ⟨part, same.symm, isPart, ?_, ?_⟩
  · rw [weights, List.getElem?_map, found]
    rfl
  · exact (nonNegative player (List.mem_of_getElem? found)).2

theorem given (split : Split players dbOpeningRaw target) (nonNegative : NonNegative players) :
    totalEnding (repairEndingBalancesForVaultLocks players dbOpeningRaw).players =
      target := by
  have nonempty : weights players ≠ [] := by
    intro none
    have positive := split.positive
    rw [none] at positive
    exact Nat.lt_irrefl 0 positive
  have sum :=
    sum_splitFrom split.positive nonempty (@within_of_sum target _ _ rfl)
  rw [Nat.zero_add] at sum
  rw [totalEnding, split.ends nonNegative, ← Nat.cast_list_sum, sum]

end Split

/-! ## Fairness of the repair -/

theorem conserving_of_nonNegative (nonNegative : NonNegative players) (dbOpeningRaw : Int) :
    Conserving players dbOpeningRaw (repairEndingBalancesForVaultLocks players dbOpeningRaw) := by
  by_cases covered : totalEnding players ≤ totalLocked players
  · rw [repair_of_covered covered]
    exact ⟨nonNegative, rfl, rfl, covered, fun _ => rfl⟩
  · rcases @exists_split _ dbOpeningRaw nonNegative covered with ⟨target, split⟩
    have sameLocks : (repairEndingBalancesForVaultLocks players
            dbOpeningRaw).players.map (·.startLocked) = players.map (·.startLocked) := by
      rw [split.repair]
      exact (scaleEndings_eq split.positive nonNegative (within_of_sum rfl)).2
    have given := split.given nonNegative
    have bounds :=
      targetOf_bounds (totalEnding players) dbOpeningRaw nonNegative.totalLocked_nonneg
    rw [split.isTarget] at bounds
    refine ⟨?_, sameLocks, ?_, ?_, fun less => absurd less covered⟩
    · intro after member
      rcases List.getElem?_of_mem member with ⟨index, here⟩
      have there := congrArg (·[index]?) sameLocks
      simp only [List.getElem?_map] at there
      rw [here] at there
      rcases Option.map_eq_some_iff.mp there.symm with ⟨player, found, same⟩
      rcases split.part nonNegative found here with ⟨part, isPart, -⟩
      have same : player.startLocked = after.startLocked := same
      rw [isPart, ← same]
      exact ⟨(nonNegative player (List.mem_of_getElem? found)).1, Int.natCast_nonneg part⟩
    · rw [given, split.repair]
    · rw [split.repair]
      exact bounds.2

theorem nearShares_of_nonNegative (nonNegative : NonNegative players) (dbOpeningRaw : Int) :
    NearShares players (repairEndingBalancesForVaultLocks players dbOpeningRaw) := by
  intro some_ index player after found left
  have ending := nonNegative.totalEnding_eq
  rcases List.getElem?_eq_some_iff.mp found with ⟨inside, -⟩
  have listed : 1 ≤ players.length := Nat.one_le_of_lt inside
  by_cases covered : totalEnding players ≤ totalLocked players
  · rw [repair_of_covered covered] at left ⊢
    cases found.symm.trans left
    rw [sub_self, abs_zero]
    refine Int.mul_pos ?_ ?_
    · omega
    · omega
  · rcases @exists_split _ dbOpeningRaw nonNegative covered with ⟨target, split⟩
    rcases split.part nonNegative found left with ⟨part, isPart, isSplit, isWeight, positive⟩
    rcases splitFrom_near split.positive rfl isWeight isSplit with ⟨enough, limited⟩
    have weighed : ((player.endBalance.toNat : Nat) : Int) = player.endBalance :=
      Int.toNat_of_nonneg positive
    have lengths : (weights players).length = players.length := List.length_map _
    rw [lengths] at limited
    have least : 1 * (weights players).sum ≤ players.length * (weights players).sum :=
      Nat.mul_le_mul_right _ listed
    have some_ := split.positive
    rw [split.repair, isPart, ending, abs_lt]
    generalize (weights players).sum = total at enough limited least some_
    zify at enough limited least some_
    rw [weighed, add_mul, one_mul] at enough limited
    constructor
    · linarith
    · linarith

/-- Of the players that are not last only the busted end with nothing less. -/
theorem bustedStay_of_nonNegative (nonNegative : NonNegative players) (dbOpeningRaw : Int) :
    BustedStay (fun index => index + 1 < players.length) players
      (repairEndingBalancesForVaultLocks players dbOpeningRaw) := by
  intro index player after before found left busted
  by_cases covered : totalEnding players ≤ totalLocked players
  · rw [repair_of_covered covered] at left
    cases found.symm.trans left
    exact busted
  · rcases @exists_split _ dbOpeningRaw nonNegative covered with ⟨target, split⟩
    rcases split.part nonNegative found left with ⟨part, isPart, isSplit, isWeight, -⟩
    rw [busted] at isWeight
    have here :=
      @getElem?_splitFrom_of_lt target (weights players).sum 0 _ _ _ isWeight
        (by rwa [weights, List.length_map])
    cases here.symm.trans isSplit
    rw [isPart, Int.toNat_zero, Nat.zero_mul, Nat.zero_div]
    rfl

theorem keepsOrder_of_nonNegative (nonNegative : NonNegative players) (dbOpeningRaw : Int) :
    KeepsOrder (dust players) players (repairEndingBalancesForVaultLocks players dbOpeningRaw) := by
  intro index other first second first' second' found found' left left' more
  rcases List.getElem?_eq_some_iff.mp found with ⟨inside, -⟩
  have listed : 1 ≤ players.length := Nat.one_le_of_lt inside
  by_cases covered : totalEnding players ≤ totalLocked players
  · rw [repair_of_covered covered] at left left'
    cases found.symm.trans left
    cases found'.symm.trans left'
    rw [dust]
    split <;> omega
  · rcases @exists_split _ dbOpeningRaw nonNegative covered with ⟨target, split⟩
    rcases split.part nonNegative found left with ⟨part, isPart, isSplit, isWeight, positive⟩
    rcases split.part nonNegative found' left' with ⟨part', isPart', isSplit', isWeight', positive'⟩
    have larger : second.endBalance.toNat ≤ first.endBalance.toNat := Int.toNat_le_toNat more
    have lengths : (weights players).length = players.length := List.length_map _
    rw [isPart, isPart', dust]
    split
    case isTrue before =>
      have below :=
        splitFrom_le split.positive rfl isWeight isWeight' larger
          (by rwa [lengths]) isSplit isSplit'
      omega
    case isFalse =>
      have below :=
        splitFrom_lt split.positive rfl rfl isWeight isWeight' larger isSplit isSplit'
      omega

theorem orderFree_of_nonNegative (nonNegative : NonNegative players) (dbOpeningRaw : Int) :
    OrderFree players dbOpeningRaw := by
  intro others perm index other player after after' found found' left left'
  have nonNegative' : NonNegative others :=
    fun player member => nonNegative player (perm.mem_iff.mp member)
  have sameLocked : totalLocked others = totalLocked players := (perm.map _).sum_eq
  have sameEnding : totalEnding others = totalEnding players := (perm.map _).sum_eq
  have sameWeights : (weights others).sum = (weights players).sum := (perm.map _).sum_eq
  rcases List.getElem?_eq_some_iff.mp found with ⟨inside, -⟩
  have listed : 1 ≤ players.length := Nat.one_le_of_lt inside
  by_cases covered : totalEnding players ≤ totalLocked players
  · rw [repair_of_covered covered] at left
    rw [repair_of_covered (by rwa [sameLocked, sameEnding])] at left'
    cases found.symm.trans left
    cases found'.symm.trans left'
    rw [sub_self, abs_zero]
    omega
  · rcases @exists_split _ dbOpeningRaw nonNegative covered with ⟨target, split⟩
    rcases @exists_split _ dbOpeningRaw nonNegative' (by rwa [sameLocked, sameEnding]) with
      ⟨target', split'⟩
    have sameTarget : target' = target := by
      have same := split'.isTarget
      rw [sameLocked, sameEnding, split.isTarget] at same
      exact_mod_cast same.symm
    subst sameTarget
    rcases split.part nonNegative found left with ⟨part, isPart, isSplit, isWeight, -⟩
    rcases split'.part nonNegative' found' left' with ⟨part', isPart', isSplit', isWeight', -⟩
    rw [sameWeights] at isSplit'
    have below :=
      splitFrom_lt split.positive rfl sameWeights isWeight isWeight'
        (Nat.le_refl _) isSplit isSplit'
    have above :=
      splitFrom_lt split.positive sameWeights rfl isWeight' isWeight
        (Nat.le_refl _) isSplit' isSplit
    have lengths : (weights players).length = players.length := List.length_map _
    have lengths' : (weights others).length = players.length :=
      (List.length_map _).trans perm.length_eq
    rw [isPart, isPart', abs_lt]
    constructor
    · omega
    · omega

/-! ## The players of a proposal -/

/-- The amounts of a player of a proposal. -/
def vaultLockPlayer (player : PlayerStackInput) : VaultLockPlayer where
  startLocked := player.startLocked
  endBalance := player.endBalance

theorem targetOf_cast (opening ending dbOpening : Nat) : targetOf opening ending dbOpening =
    (Worker.targetEnding opening ending dbOpening : Nat) := by
  rw [targetOf, Worker.targetEnding]
  split <;> split <;> split <;> split <;> omega

/-- On the players of a proposal it is the repair that the proposal makes. -/
theorem repair_vaultLockPlayer (players : List PlayerStackInput) (dbOpening : Nat) :
    (repairEndingBalancesForVaultLocks (players.map vaultLockPlayer)
          dbOpening).players.map (·.endBalance) =
      (Worker.repairEndingBalancesForVaultLocks players dbOpening).map
        fun player => (player.endBalance : Int) := by
  have nonNegative : NonNegative (players.map vaultLockPlayer) :=
    List.forall_mem_map.mpr fun player _ =>
      ⟨Int.natCast_nonneg _, Int.natCast_nonneg _⟩
  have weighed : weights (players.map vaultLockPlayer) = players.map (·.endBalance) := by
    rw [weights, List.map_map]
    rfl
  have ending := nonNegative.totalEnding_eq
  rw [weighed] at ending
  have locked : totalLocked (players.map vaultLockPlayer) =
      ((players.map (·.startLocked)).sum : Nat) := by
    rw [totalLocked, Nat.cast_list_sum, List.map_map, List.map_map]
    rfl
  unfold Worker.repairEndingBalancesForVaultLocks
  dsimp only
  by_cases covered : (players.map (·.endBalance)).sum ≤ (players.map (·.startLocked)).sum
  · rw [if_pos covered, repair_of_covered, List.map_map]
    · rfl
    · rw [ending, locked]
      exact_mod_cast covered
  · rw [if_neg covered]
    have more : ¬ totalEnding (players.map vaultLockPlayer) ≤
        totalLocked (players.map vaultLockPlayer) := by
      rw [ending, locked]
      exact_mod_cast covered
    rcases @exists_split _ dbOpening nonNegative more with ⟨target, split⟩
    have sameTarget := split.isTarget
    rw [ending, locked, targetOf_cast] at sameTarget
    have sameTarget : Worker.targetEnding _ _ dbOpening = target := Nat.cast_inj.mp sameTarget
    rw [split.ends nonNegative, weighed, sameTarget, ← scaleFrom_eq.2, List.map_map]
    rfl

/--
For all amounts that are not negative the repair gives out a target that the
locks cover and changes nothing that they cover already; everyone ends within
the number of players of a proportional share, nobody but the last player has
more than nothing after he was busted, who had more has no less but for the
rounding that the last player receives, and the order of the players makes no
difference but for the rounding.
-/
theorem repair_fair
    (nonNegative : NonNegative players) (dbOpeningRaw : Int) :
    Conserving players dbOpeningRaw
        (repairEndingBalancesForVaultLocks players dbOpeningRaw) ∧
      NearShares players
          (repairEndingBalancesForVaultLocks players dbOpeningRaw) ∧
        BustedStay (fun index => index + 1 < players.length) players
            (repairEndingBalancesForVaultLocks players dbOpeningRaw) ∧
          KeepsOrder (dust players) players
              (repairEndingBalancesForVaultLocks players dbOpeningRaw) ∧
            OrderFree players dbOpeningRaw :=
  ⟨conserving_of_nonNegative nonNegative dbOpeningRaw,
    nearShares_of_nonNegative nonNegative dbOpeningRaw,
    bustedStay_of_nonNegative nonNegative dbOpeningRaw,
    keepsOrder_of_nonNegative nonNegative dbOpeningRaw,
    orderFree_of_nonNegative nonNegative dbOpeningRaw⟩

/-- Three players with locks of a hundred each; the last one is busted. -/
def inflated : List VaultLockPlayer := [⟨100, 151⟩, ⟨100, 150⟩, ⟨100, 0⟩]

theorem repair_fair_inflated :
    (repairEndingBalancesForVaultLocks inflated 300).players =
        [⟨100, 150⟩, ⟨100, 149⟩, ⟨100, 1⟩] ∧
      Conserving inflated 300
        (repairEndingBalancesForVaultLocks inflated 300) :=
  ⟨by decide, (repair_fair (by decide) 300).1⟩

/-- The last player is busted and ends with a unit. -/
theorem busted_ends_with_dust :
    ¬ ∀ players : List VaultLockPlayer, NonNegative players →
        ∀ dbOpeningRaw,
          BustedStay (fun _ => True) players
            (repairEndingBalancesForVaultLocks players dbOpeningRaw) := by
  intro claimed
  have nothing :=
    claimed inflated (by decide) 300 2 ⟨100, 0⟩ ⟨100, 1⟩ trivial rfl
      (by decide) rfl
  cases nothing

end Mozetto.Worker.VaultLocks
