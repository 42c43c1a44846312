import Mathlib.Data.List.Forall2
import Mathlib.Data.List.GetD
import Mathlib.Data.List.Induction
import Mathlib.Data.Nat.Bitwise
import Mathlib.Data.Nat.Log

/-!
# Ordered Merkle trees

A complete binary tree over a sequence of leaves, its levels as lists, and
the walks from a leaf to the root.  A walk along the path of a place arrives
at the root; and where hashing keeps apart what the tree and a walk combine,
a walk that arrives at the root is as long as the tree is high and started at
the leaf whose place its directions spell.
-/

namespace Mozetto.Library.MerkleTree

universe u v

variable {Node : Type u} (pair : Node → Node → Node) (leaf : Nat → Node)

/-! ## Trees -/

/-- The node at a height, with so many nodes of that height before it. -/
def node : Nat → Nat → Node
  | 0, place => leaf place
  | height + 1, place =>
      pair (node height (2 * place)) (node height (2 * place + 1))

/-- The first nodes of a height. -/
def level (height width : Nat) : List Node := (List.range width).map (node pair leaf height)

/-- The levels above a height, each half as wide as the one below. -/
def tower : Nat → Nat → List (List Node)
  | height, 0 => [level pair leaf height 1]
  | height, width + 1 =>
      level pair leaf height (2 ^ (width + 1)) :: tower (height + 1) width

/-- The parents of adjacent nodes. -/
def parents : List Node → List Node
  | left :: right :: rest => pair left right :: parents rest
  | _ => []

/-- A level and the levels above it, down to a single node. -/
def levels : Nat → List Node → List (List Node)
  | 0, nodes => [nodes]
  | fuel + 1, nodes =>
      if 1 < nodes.length then nodes :: levels fuel (parents pair nodes)
      else [nodes]

/-- Halve a level until a single node is left. -/
def halved : Nat → List Node → List Node
  | 0, nodes => nodes
  | fuel + 1, nodes =>
      if 1 < nodes.length then halved fuel (parents pair nodes) else nodes

/-- The leaves of a list, followed by a filler. -/
def padded (zero : Node) (leaves : List Node) (place : Nat) : Node := leaves.getD place zero

/-- The height of the tree over so many leaves. -/
def depth (count : Nat) : Nat := Nat.clog 2 count

@[simp]
theorem length_level (height width : Nat) : (level pair leaf height width).length = width := by
  simp [level]

theorem parents_map_range (nodes : Nat → Node) (width : Nat) :
    parents pair ((List.range (2 * width)).map nodes) = (List.range width).map fun place =>
      pair (nodes (2 * place)) (nodes (2 * place + 1)) := by
  induction width generalizing nodes with
  | zero => rfl
  | succ width induction =>
    have shifted := induction fun place => nodes (place + 2)
    rw [Nat.mul_succ, List.range_succ_eq_map, List.range_succ_eq_map, List.range_succ_eq_map]
    simpa [parents, Function.comp_def, Nat.mul_add, Nat.add_right_comm] using shifted

@[simp]
theorem parents_level (height width : Nat) : parents pair (level pair leaf height (2 * width)) =
    level pair leaf (height + 1) width := parents_map_range pair (node pair leaf height) width

/-- The levels above a level whose width is a power of two. -/
theorem levels_level {fuel height width : Nat} (enough : width ≤ fuel) :
    levels pair fuel (level pair leaf height (2 ^ width)) =
      tower pair leaf height width := by
  induction width generalizing fuel height with
  | zero =>
    cases fuel with
    | zero => rfl
    | succ fuel => simp [levels, tower]
  | succ width induction =>
    cases fuel with
    | zero => exact absurd enough (Nat.not_succ_le_zero width)
    | succ fuel =>
      have wide : 1 < 2 ^ (width + 1) := Nat.one_lt_two_pow (Nat.succ_ne_zero width)
      rw [levels, length_level, if_pos wide, tower,
        ← induction (Nat.le_of_succ_le_succ enough), Nat.pow_succ', parents_level]

theorem length_tower (height width : Nat) : (tower pair leaf height width).length = width + 1 := by
  induction width generalizing height with
  | zero => rfl
  | succ width induction => rw [tower, List.length_cons, induction]

/-- On top of a tower stands a single node. -/
theorem getLast?_tower (height width : Nat) : (tower pair leaf height width).getLast? =
    some [node pair leaf (height + width) 0] := by
  induction width generalizing height with
  | zero => rfl
  | succ width induction =>
    rw [tower, List.getLast?_cons, induction, Option.getD_some, Nat.add_right_comm, Nat.add_assoc]

/-- Halving a level whose width is a power of two ends at one node. -/
theorem halved_level {fuel height width : Nat} (enough : width ≤ fuel) :
    halved pair fuel (level pair leaf height (2 ^ width)) =
      [node pair leaf (height + width) 0] := by
  induction width generalizing fuel height with
  | zero =>
    cases fuel with
    | zero => rfl
    | succ fuel => simp [halved, level]
  | succ width induction =>
    cases fuel with
    | zero => exact absurd enough (Nat.not_succ_le_zero width)
    | succ fuel =>
      have wide : 1 < 2 ^ (width + 1) := Nat.one_lt_two_pow (Nat.succ_ne_zero width)
      rw [halved, length_level, if_pos wide, Nat.pow_succ', parents_level,
        induction (Nat.le_of_succ_le_succ enough), Nat.add_right_comm, Nat.add_assoc]

/-- The bottom of the tree over a list of leaves. -/
theorem append_replicate_eq_level {zero : Node} {leaves : List Node} {width : Nat}
    (wide : leaves.length ≤ width) : leaves ++ List.replicate (width - leaves.length) zero =
    level pair (padded zero leaves) 0 width := by
  apply List.ext_getElem
  · simp [wide]
  · intro place inside inside'
    by_cases given : place < leaves.length
    · simp [level, node, padded, List.getElem_append_left given, given]
    · simp [level, node, padded, List.getElem_append_right (not_lt.mp given), not_lt.mp given]

theorem length_le_two_pow_depth (count : Nat) : count ≤ 2 ^ depth count :=
  Nat.le_pow_clog Nat.one_lt_two count

theorem depth_le (count : Nat) : depth count ≤ count := Nat.clog_le_of_le_pow Nat.lt_two_pow_self.le

/-! ## Walks -/

/-- A sibling and a node in their order. -/
def oriented (step : Node × Bool) (current : Node) : Node × Node :=
  if step.2 then (step.1, current) else (current, step.1)

/-- One step of a walk. -/
def ascend (current : Node) (step : Node × Bool) : Node :=
  pair (oriented step current).1 (oriented step current).2

/-- A walk along siblings with their sides. -/
def climb (start : Node) (steps : List (Node × Bool)) : Node := steps.foldl (ascend pair) start

/-- The siblings on the way up from a node. -/
def path : Nat → Nat → Nat → List (Node × Bool)
  | _, _, 0 => []
  | height, place, above + 1 =>
      (node pair leaf height (place ^^^ 1), decide (place ^^^ 1 < place)) ::
        path (height + 1) (place / 2) above

/-- The siblings of a place in the levels of a tree, with their sides. -/
def siblings (zero : Node) : List (List Node) → Nat → List (Node × Bool)
  | layer :: next :: rest, place =>
      (layer.getD (place ^^^ 1) zero, decide (place ^^^ 1 < place)) ::
        siblings zero (next :: rest) (place / 2)
  | _, _ => []

/-- The place that the sides of a walk spell. -/
def position : List Bool → Nat
  | [] => 0
  | siblingIsLeft :: rest => siblingIsLeft.toNat + 2 * position rest

@[simp]
theorem ascend_left (current sibling : Node) :
    ascend pair current (sibling, true) = pair sibling current := rfl

@[simp]
theorem ascend_right (current sibling : Node) :
    ascend pair current (sibling, false) = pair current sibling := rfl

theorem ascend_path (height place : Nat) : ascend pair (node pair leaf height place)
      (node pair leaf height (place ^^^ 1), decide (place ^^^ 1 < place)) =
    node pair leaf (height + 1) (place / 2) := by
  rcases Nat.even_or_odd' place with ⟨half, even | odd⟩
  · have sibling : place ^^^ 1 = place + 1 := Nat.xor_one_of_even ⟨half, by rw [even, Nat.two_mul]⟩
    have side : decide (place + 1 < place) = false := by simp
    have above : place / 2 = half := by
      rw [even, Nat.mul_div_cancel_left half Nat.two_pos]
    rw [sibling, side, ascend_right, above, node, even]
  · have sibling : place ^^^ 1 = 2 * half := by
      rw [Nat.xor_one_of_odd ⟨half, odd⟩, odd, Nat.add_sub_cancel]
    have side : decide (2 * half < place) = true := by
      simp [odd]
    have above : place / 2 = half := by omega
    rw [sibling, side, ascend_left, above, node, odd]

/-- A walk along the path of a node arrives above it. -/
theorem climb_path (height place above : Nat) : climb pair (node pair leaf height place)
      (path pair leaf height place above) =
    node pair leaf (height + above) (place / 2 ^ above) := by
  induction above generalizing height place with
  | zero => simp [path, climb]
  | succ above induction =>
    have onward := induction (height + 1) (place / 2)
    rw [climb] at onward
    rw [climb, path, List.foldl_cons, ascend_path, onward,
      Nat.add_right_comm, Nat.div_div_eq_div_mul, ← Nat.pow_succ', Nat.add_assoc]

/-- The siblings in the levels of a tree are the path. -/
theorem siblings_tower (zero : Node) {height width place : Nat} (inside : place < 2 ^ width) :
    siblings zero (tower pair leaf height width) place =
      path pair leaf height place width := by
  induction width generalizing height place with
  | zero => rfl
  | succ width induction =>
    have half : place / 2 < 2 ^ width := Nat.div_lt_of_lt_mul (by rwa [← Nat.pow_succ'])
    have sibling : place ^^^ 1 < 2 ^ (width + 1) :=
      Nat.xor_lt_two_pow inside (Nat.one_lt_two_pow (Nat.succ_ne_zero width))
    have first : (level pair leaf height (2 ^ (width + 1))).getD (place ^^^ 1) zero =
        node pair leaf height (place ^^^ 1) := by
      simp [level, sibling]
    have onward := @induction (height + 1) _ half
    rw [tower, path, ← onward]
    cases width with
    | zero => rw [tower, siblings, first]
    | succ width => rw [tower, siblings, first]

theorem position_concat (sides : List Bool) (side : Bool) : position (sides ++ [side]) =
    2 ^ sides.length * side.toNat + position sides := by
  induction sides with
  | nil => simp [position]
  | cons first rest induction =>
    rw [List.cons_append, position, induction, position, List.length_cons,
      Nat.pow_succ', Nat.mul_add, Nat.mul_assoc, Nat.add_left_comm]

/-! ## What is combined -/

/-- The pairs that are combined below a node. -/
def treePairs : Nat → Nat → List (Node × Node)
  | 0, _ => []
  | height + 1, place =>
      (node pair leaf height (2 * place), node pair leaf height (2 * place + 1)) ::
        (treePairs height (2 * place) ++ treePairs height (2 * place + 1))

/-- The pairs that a walk combines. -/
def walkPairs : Node → List (Node × Bool) → List (Node × Node)
  | _, [] => []
  | current, step :: rest =>
      oriented step current :: walkPairs (ascend pair current step) rest

theorem walkPairs_concat (start : Node) (steps : List (Node × Bool)) (step : Node × Bool) :
    walkPairs pair start (steps ++ [step]) =
      walkPairs pair start steps ++ [oriented step (climb pair start steps)] := by
  induction steps generalizing start with
  | nil => rfl
  | cons first rest induction =>
    rw [List.cons_append, walkPairs, induction]
    rfl

theorem climb_concat (start : Node) (steps : List (Node × Bool)) (step : Node × Bool) :
    climb pair start (steps ++ [step]) = ascend pair (climb pair start steps) step := by
  rw [climb, List.foldl_append]
  rfl

section Closed

variable {pair leaf} (Good : Node → Prop)

theorem node_good (pairs : ∀ {left right}, Good left → Good right → Good (pair left right))
    (leaves : ∀ place, Good (leaf place)) (height place : Nat) :
    Good (node pair leaf height place) := by
  induction height generalizing place with
  | zero => exact leaves place
  | succ height induction => exact pairs (induction _) (induction _)

theorem treePairs_good (pairs : ∀ {left right}, Good left → Good right → Good (pair left right))
    (leaves : ∀ place, Good (leaf place)) {height place : Nat}
    {combined : Node × Node} (member : combined ∈ treePairs pair leaf height place) :
    Good combined.1 ∧ Good combined.2 := by
  induction height generalizing place with
  | zero => cases member
  | succ height induction =>
    rcases List.mem_cons.mp member with rfl | below
    · exact ⟨node_good Good pairs leaves _ _, node_good Good pairs leaves _ _⟩
    · rcases List.mem_append.mp below with left | right
      · exact induction left
      · exact induction right

theorem walkPairs_good (pairs : ∀ {left right}, Good left → Good right → Good (pair left right))
    {start : Node} {steps : List (Node × Bool)} (started : Good start)
    (siblings : ∀ step ∈ steps, Good step.1)
    {walked : Node × Node} (member : walked ∈ walkPairs pair start steps) :
    Good walked.1 ∧ Good walked.2 := by
  induction steps generalizing start with
  | nil => cases member
  | cons step rest induction =>
    have sibling := siblings step List.mem_cons_self
    have first : Good (oriented step start).1 ∧ Good (oriented step start).2 := by
      rcases step with ⟨other, side⟩
      cases side with
      | false => exact ⟨started, sibling⟩
      | true => exact ⟨sibling, started⟩
    rcases List.mem_cons.mp member with rfl | later
    · exact first
    · exact induction (pairs first.1 first.2)
          (fun step inRest => siblings step (List.mem_cons_of_mem _ inRest)) later

end Closed

/-! ## Walks that arrive -/

/--
What a walk combines is kept apart from what the tree combines, where the
walk started from the tree's inner nodes, and the tree's leaves from the
nodes of the walk.
-/
structure Apart (height place : Nat) (start : Node) (steps : List (Node × Bool)) : Prop where
  pairs : ∀ walked ∈ walkPairs pair start steps, ∀ combined ∈ treePairs pair leaf height place,
        pair walked.1 walked.2 = pair combined.1 combined.2 → walked = combined
  start_ne : ∀ combined ∈ treePairs pair leaf height place, pair combined.1 combined.2 ≠ start
  leaf_ne : ∀ walked ∈ walkPairs pair start steps, ∀ index, pair walked.1 walked.2 ≠ leaf index

variable {pair leaf}
variable {height place : Nat} {start : Node}
variable {steps : List (Node × Bool)} {step : Node × Bool}

/-- The walk without its last step stays apart from either subtree. -/
theorem Apart.below (apart : Apart pair leaf (height + 1) place start (steps ++ [step]))
    (side : Bool) : Apart pair leaf height (2 * place + side.toNat) start steps := by
  have earlier : ∀ walked ∈ walkPairs pair start steps,
      walked ∈ walkPairs pair start (steps ++ [step]) := by
    intro walked member
    rw [walkPairs_concat]
    exact List.mem_append_left _ member
  have lower : ∀ combined ∈ treePairs pair leaf height (2 * place + side.toNat),
      combined ∈ treePairs pair leaf (height + 1) place := by
    intro combined member
    apply List.mem_cons_of_mem
    cases side with
    | false => exact List.mem_append_left _ member
    | true => exact List.mem_append_right _ member
  exact
    { pairs := fun walked walkedMember combined combinedMember =>
      apart.pairs walked (earlier walked walkedMember) combined (lower combined combinedMember)
      start_ne := fun combined member =>
        apart.start_ne combined (lower combined member)
      leaf_ne := fun walked member =>
        apart.leaf_ne walked (earlier walked member) }

/-- The last step of a walk that arrives comes from one of the two children. -/
theorem Apart.last_step (apart : Apart pair leaf (height + 1) place start (steps ++ [step]))
    (arrives : climb pair start (steps ++ [step]) = node pair leaf (height + 1) place) :
    climb pair start steps = node pair leaf height (2 * place + step.2.toNat) := by
  rw [climb_concat] at arrives
  have last : oriented step (climb pair start steps) ∈ walkPairs pair start (steps ++ [step]) := by
    rw [walkPairs_concat]
    exact List.mem_append_right _ List.mem_cons_self
  have same := apart.pairs _ last _ List.mem_cons_self arrives
  rcases step with ⟨sibling, side⟩
  cases side with
  | false => exact congrArg Prod.fst same
  | true => exact congrArg Prod.snd same

/--
A walk that arrives at a node is as long as the node is high, and started at
the leaf whose place below the node its sides spell.
-/
theorem climb_sound (apart : Apart pair leaf height place start steps)
    (arrives : climb pair start steps = node pair leaf height place) : steps.length = height ∧
    leaf (2 ^ height * place + position (steps.map Prod.snd)) = start := by
  induction steps using List.reverseRecOn generalizing height place with
  | nil =>
    cases height with
    | zero => simpa [node, climb, position] using arrives.symm
    | succ height =>
      exact absurd arrives.symm (apart.start_ne _ List.mem_cons_self)
  | append_singleton steps step induction =>
    cases height with
    | zero =>
      rw [climb_concat] at arrives
      have last : oriented step (climb pair start steps) ∈
          walkPairs pair start (steps ++ [step]) := by
        rw [walkPairs_concat]
        exact List.mem_append_right _ List.mem_cons_self
      exact absurd arrives (apart.leaf_ne _ last place)
    | succ height =>
      have below := induction (apart.below step.2) (apart.last_step arrives)
      rcases below with ⟨lengths, started⟩
      constructor
      · rw [List.length_append, lengths, List.length_singleton]
      · rw [List.map_append, List.map_singleton, position_concat,
          List.length_map, lengths, ← Nat.add_assoc, Nat.pow_succ, Nat.mul_assoc, ← Nat.mul_add]
        exact started

/-! ## Trees with one root -/

section Bound

variable {leaf' : Nat → Node} {height' place' : Nat}

/--
What two trees combine is kept apart, and so are the leaves of either from
the inner nodes of the other.
-/
structure TreesApart (pair : Node → Node → Node) (leaf leaf' : Nat → Node)
    (height place height' place' : Nat) : Prop where
  pairs : ∀ combined ∈ treePairs pair leaf height place,
      ∀ combined' ∈ treePairs pair leaf' height' place',
        pair combined.1 combined.2 = pair combined'.1 combined'.2 → combined = combined'
  leaf_ne : ∀ combined' ∈ treePairs pair leaf' height' place',
      ∀ index, pair combined'.1 combined'.2 ≠ leaf index
  leaf_ne' : ∀ combined ∈ treePairs pair leaf height place,
      ∀ index, pair combined.1 combined.2 ≠ leaf' index

theorem treePairs_child_subset (side : Bool) {combined : Node × Node}
    (member : combined ∈ treePairs pair leaf height (2 * place + side.toNat)) :
    combined ∈ treePairs pair leaf (height + 1) place := by
  apply List.mem_cons_of_mem
  cases side with
  | false => exact List.mem_append_left _ member
  | true => exact List.mem_append_right _ member

/-- What two trees combine is kept apart. -/
def PairsApart (pair : Node → Node → Node) (leaf leaf' : Nat → Node)
    (height place height' place' : Nat) : Prop :=
  ∀ combined ∈ treePairs pair leaf height place, ∀ combined' ∈ treePairs pair leaf' height' place',
      pair combined.1 combined.2 = pair combined'.1 combined'.2 → combined = combined'

theorem PairsApart.child
    (apart : PairsApart pair leaf leaf' (height + 1) place (height' + 1) place') (side : Bool) :
    PairsApart pair leaf leaf' height (2 * place + side.toNat) height' (2 * place' + side.toNat) :=
  fun combined member combined' member' =>
    apart combined (treePairs_child_subset side member) combined'
      (treePairs_child_subset side member')

/-- Trees of one height with one root have the same leaves. -/
theorem leaf_eq_of_node_eq (apart : PairsApart pair leaf leaf' height place height place')
    (equal : node pair leaf height place = node pair leaf' height place')
    {index : Nat} (below : index < 2 ^ height) :
    leaf (2 ^ height * place + index) = leaf' (2 ^ height * place' + index) := by
  induction height generalizing place place' index with
  | zero =>
    rw [Nat.pow_zero, Nat.lt_one_iff] at below
    rw [below, Nat.pow_zero, Nat.one_mul, Nat.one_mul]
    exact equal
  | succ height induction =>
    have children := apart _ List.mem_cons_self _ List.mem_cons_self equal
    have double : 2 ^ (height + 1) = 2 ^ height + 2 ^ height := by
      rw [Nat.pow_succ, Nat.mul_two]
    by_cases low : index < 2 ^ height
    · have same := induction (apart.child false) (congrArg Prod.fst children) low
      rw [Nat.pow_succ, Nat.mul_assoc, Nat.mul_assoc]
      exact same
    · have rest : index - 2 ^ height < 2 ^ height := by omega
      have same := induction (apart.child true) (congrArg Prod.snd children) rest
      have shift (place : Nat) : 2 ^ height * (2 * place + 1) + (index - 2 ^ height) =
          2 ^ (height + 1) * place + index := by
        have product : 2 ^ height * (2 * place) = 2 ^ (height + 1) * place := by
          rw [← Nat.mul_assoc, Nat.pow_succ]
        rw [Nat.mul_add, Nat.mul_one, product]
        omega
      rwa [Bool.toNat_true, shift, shift] at same

/--
Trees with one root are of one height, where the first leaf of either is no
inner node of the other.
-/
theorem height_eq_of_node_eq (apart : PairsApart pair leaf leaf' height place height' place')
    (first_ne : ∀ combined' ∈ treePairs pair leaf' height' place',
        pair combined'.1 combined'.2 ≠ leaf (2 ^ height * place))
    (first_ne' : ∀ combined ∈ treePairs pair leaf height place,
        pair combined.1 combined.2 ≠ leaf' (2 ^ height' * place'))
    (equal : node pair leaf height place = node pair leaf' height' place') :
    height = height' := by
  induction height generalizing height' place place' with
  | zero =>
    cases height' with
    | zero => rfl
    | succ height' =>
      apply absurd equal.symm
      rw [node, node]
      have apart_first := first_ne _ List.mem_cons_self
      rwa [Nat.pow_zero, Nat.one_mul] at apart_first
  | succ height induction =>
    cases height' with
    | zero =>
      apply absurd equal
      rw [node, node]
      have apart_first := first_ne' _ List.mem_cons_self
      rwa [Nat.pow_zero, Nat.one_mul] at apart_first
    | succ height' =>
      have children := apart _ List.mem_cons_self _ List.mem_cons_self equal
      have start (height place : Nat) :
          2 ^ height * (2 * place) = 2 ^ (height + 1) * place := by
        rw [← Nat.mul_assoc, Nat.pow_succ]
      apply congrArg (· + 1) (induction (apart.child false) _ _ (congrArg Prod.fst children))
      · intro combined' member'
        rw [Bool.toNat_false, Nat.add_zero, start]
        exact first_ne combined' (treePairs_child_subset false member')
      · intro combined member
        rw [Bool.toNat_false, Nat.add_zero, start]
        exact first_ne' combined (treePairs_child_subset false member)

/-- Trees with one root are of one height and have the same leaves. -/
theorem node_bound (apart : TreesApart pair leaf leaf' height place height' place')
    (equal : node pair leaf height place = node pair leaf' height' place') : height = height' ∧
    ∀ index < 2 ^ height, leaf (2 ^ height * place + index) =
        leaf' (2 ^ height * place' + index) := by
  have high :=
    height_eq_of_node_eq apart.pairs (fun combined' member' => apart.leaf_ne combined' member' _)
      (fun combined member => apart.leaf_ne' combined member _) equal
  cases high
  exact ⟨rfl, fun index below => leaf_eq_of_node_eq apart.pairs equal below⟩

end Bound

/-! ## Two trees of one shape -/

section Related

variable {Node' : Type v} {pair' : Node' → Node' → Node'}
variable {leaf' : Nat → Node'} {Same : Node → Node' → Prop}

/-- Trees over related leaves have related nodes. -/
theorem node_related
    (pairs : ∀ {left right left' right'}, Same left left' → Same right right' →
        Same (pair left right) (pair' left' right'))
    (leaves : ∀ place, Same (leaf place) (leaf' place))
    (height place : Nat) :
    Same (node pair leaf height place) (node pair' leaf' height place) := by
  induction height generalizing place with
  | zero => exact leaves place
  | succ height induction => exact pairs (induction _) (induction _)

/-- Paths in trees over related leaves have related siblings. -/
theorem path_related
    (pairs : ∀ {left right left' right'}, Same left left' → Same right right' →
        Same (pair left right) (pair' left' right'))
    (leaves : ∀ place, Same (leaf place) (leaf' place))
    (height place above : Nat) :
    List.Forall₂ (fun step step' => Same step.1 step'.1 ∧ step.2 = step'.2)
      (path pair leaf height place above) (path pair' leaf' height place above) := by
  induction above generalizing height place with
  | zero => exact List.Forall₂.nil
  | succ above induction =>
    exact List.Forall₂.cons ⟨node_related pairs leaves _ _, rfl⟩ (induction _ _)

end Related

end Mozetto.Library.MerkleTree
