import Mozetto.Commitments.Merkle
import Mozetto.Chain.Protocol

/-!
# One root and one kind of proof

The four roots are the root of one tree, and the two proof checks are the
walk of that tree.
-/

namespace Mozetto.Commitments

open Mozetto.Chain
open Mozetto.EventStore
open Mozetto.Library.MerkleTree

/-! ## Roots of words -/

section Words

variable (keccak256 : Bytes → Bytes32) (leaves : List Bytes32)

/-- The root of the tree over the leaves. -/
def treeRoot : Bytes32 := node (parentWord keccak256) (padded 0 leaves) (depth leaves.length) 0

/-- Doubling ends at the power of two that the tree is wide. -/
theorem paddedSize_eq {count fuel exponent : Nat} (below : exponent ≤ depth count)
    (enough : depth count ≤ exponent + fuel) :
    ArenaVaultV2.paddedSize count fuel (2 ^ exponent) = 2 ^ depth count := by
  induction fuel generalizing exponent with
  | zero =>
    rw [le_antisymm below enough]
    rfl
  | succ fuel induction =>
    rw [ArenaVaultV2.paddedSize]
    split
    case isTrue short =>
      have above : exponent < depth count := (Nat.lt_clog_iff_pow_lt Nat.one_lt_two).mpr short
      rw [← Nat.pow_succ']
      exact induction above (by omega)
    case isFalse wide =>
      have above : depth count ≤ exponent := Nat.clog_le_of_le_pow (not_lt.mp wide)
      rw [le_antisymm below above]

theorem paddedSize_one (count : Nat) : ArenaVaultV2.paddedSize count count 1 = 2 ^ depth count := by
  have bound := depth_le count
  exact paddedSize_eq (Nat.zero_le _) (by omega)

/-- The arrays of the contracts are the bottom of the tree. -/
theorem append_zeros_eq_level :
    leaves ++ List.replicate (2 ^ depth leaves.length - leaves.length) 0 =
      level (parentWord keccak256) (padded 0 leaves) 0 (2 ^ depth leaves.length) :=
  append_replicate_eq_level _ (length_le_two_pow_depth leaves.length)

theorem nextLevel_eq_parents (deployment : Deployment) (nodes : List Bytes32) :
    ArenaVaultV2.nextLevel deployment nodes = parents (parentWord deployment.keccak256) nodes := by
  induction nodes using parents.induct with
  | case1 left right rest induction =>
    rw [ArenaVaultV2.nextLevel, parents, induction]
    rfl
  | case2 nodes short =>
    cases nodes with
    | nil => rfl
    | cons left rest =>
      cases rest with
      | nil => rfl
      | cons right rest => exact absurd rfl (short left right rest)

theorem foldLevels_eq_halved (deployment : Deployment) (fuel : Nat) (nodes : List Bytes32) :
    ArenaVaultV2.foldLevels deployment fuel nodes =
      (halved (parentWord deployment.keccak256) fuel nodes).headD 0 := by
  induction fuel generalizing nodes with
  | zero =>
    rcases nodes with - | ⟨left, - | ⟨right, rest⟩⟩ <;> rfl
  | succ fuel induction =>
    rcases nodes with - | ⟨left, - | ⟨right, rest⟩⟩
    · rfl
    · rfl
    · have wide : 1 < (left :: right :: rest).length := by simp
      rw [ArenaVaultV2.foldLevels, induction, nextLevel_eq_parents, halved, if_pos wide]
      · intro empty
        cases empty
      · intro root single
        cases single

/-- `_orderedMerkleRoot` of the vault. -/
theorem orderedMerkleRoot_eq (deployment : Deployment) :
    ArenaVaultV2.orderedMerkleRoot deployment leaves = treeRoot deployment.keccak256 leaves := by
  rw [ArenaVaultV2.orderedMerkleRoot, paddedSize_one,
    append_zeros_eq_level deployment.keccak256, foldLevels_eq_halved,
    halved_level _ _ (depth_le leaves.length), Nat.zero_add]
  rfl

/-- `computeGlobalRoot` of the proof batch registry. -/
theorem computeGlobalRoot_eq : computeGlobalRoot keccak256 leaves = treeRoot keccak256 leaves := by
  rw [computeGlobalRoot]
  split
  case isTrue empty =>
    rw [List.eq_nil_of_length_eq_zero empty]
    rfl
  case isFalse =>
    simp only [paddedSize_one]
    rw [append_zeros_eq_level keccak256, halved_level _ _ Nat.lt_two_pow_self.le, Nat.zero_add]
    rfl

/-- `merkle_root` of the Rust crate. -/
theorem merkle_root_eq : merkle_root keccak256 leaves = treeRoot keccak256 leaves := by
  rw [merkle_root]
  split
  case isTrue empty =>
    rw [List.isEmpty_iff.mp empty]
    rfl
  case isFalse nonempty =>
    have positive : 0 < leaves.length := by
      rwa [List.length_pos_iff, ne_eq, ← List.isEmpty_iff]
    simp only [pushZeros_leaves (parentWord keccak256) positive, length_level]
    rw [halved_level _ _ Nat.lt_two_pow_self.le, Nat.zero_add]
    rfl

end Words

/-! ## Roots of texts -/

section Texts

variable (package : HashPackage) (texts : List Hex)

/-- The layers are the levels of the tree over the texts. -/
theorem layers_merkleRoot : (merkleRoot package texts).layers =
    tower (parentText package) (padded ZERO32 texts) 0 (depth texts.length) := by
  rw [merkleRoot]
  split
  case isTrue empty =>
    rw [List.eq_nil_of_length_eq_zero empty]
    rfl
  case isFalse nonempty =>
    have positive := Nat.pos_of_ne_zero nonempty
    simp only [pushZeros_leaves (parentText package) positive, length_level]
    exact levels_level _ _ Nat.lt_two_pow_self.le

theorem length_layers : (merkleRoot package texts).layers.length = depth texts.length + 1 := by
  rw [layers_merkleRoot, length_tower]

theorem root_merkleRoot : (merkleRoot package texts).root =
    node (parentText package) (padded ZERO32 texts) (depth texts.length) 0 := by
  by_cases empty : texts.length = 0
  · rw [List.eq_nil_of_length_eq_zero empty]
    rfl
  · have layers := layers_merkleRoot package texts
    rw [merkleRoot, if_neg empty] at layers ⊢
    simp only at layers ⊢
    rw [layers, List.getLastD_eq_getLast?, getLast?_tower, Nat.zero_add]
    rfl

/-- The steps of a proof are the path of its index. -/
theorem proofSteps_tower
    (leaf : Nat → Hex) {height width place : Nat} (inside : place < 2 ^ width) :
    proofSteps (tower (parentText package) leaf height width) place =
      (path (parentText package) leaf height place width).map fun step =>
        { sibling := step.1, isLeft := step.2 } := by
  induction width generalizing height place with
  | zero => rfl
  | succ width induction =>
    have half : place / 2 < 2 ^ width := Nat.div_lt_of_lt_mul (by rwa [← Nat.pow_succ'])
    have sibling : place ^^^ 1 < 2 ^ (width + 1) :=
      Nat.xor_lt_two_pow inside (Nat.one_lt_two_pow (Nat.succ_ne_zero width))
    have first : (level (parentText package) leaf height (2 ^ (width + 1))).getD
          (place ^^^ 1) "" =
        node (parentText package) leaf height (place ^^^ 1) := by
      simp [level, sibling]
    have onward := @induction (height + 1) _ half
    rw [tower, path, List.map_cons, ← onward]
    cases width with
    | zero => rw [tower, proofSteps, first]
    | succ width => rw [tower, proofSteps, first]

/-- The proof of an index is the path of that place. -/
theorem merkleProof_eq_path {index : Nat} (inside : index < texts.length) :
    merkleProof package texts index = (path (parentText package) (padded ZERO32 texts) 0 index
          (depth texts.length)).map fun step =>
        { sibling := step.1, isLeft := step.2 } := by
  rw [merkleProof, layers_merkleRoot, proofSteps_tower _ _
      (lt_of_lt_of_le inside (length_le_two_pow_depth texts.length))]

end Texts

/-! ## Texts of the words -/

section Written

variable {package : HashPackage} {keccak256 : Bytes → Bytes32}
variable {texts : List Hex} {leaves : List Bytes32}

/-- The package hashes the bytes that two 32-byte texts write. -/
def HashesPairs (package : HashPackage) (keccak256 : Bytes → Bytes32) : Prop :=
  ∀ {left right : Hex} {word word' : Nat}, TextOf left word → TextOf right word' →
      TextOf (package.keccak256 (package.concat [left, right]))
        (keccak256 (bytesOf 32 word ++ bytesOf 32 word'))

theorem textOf_padded (written : List.Forall₂ TextOf texts leaves) (place : Nat) :
    TextOf (padded ZERO32 texts place) (padded 0 leaves place) := by
  induction written generalizing place with
  | nil => exact textOf_wordHex (by norm_num)
  | cons first rest induction =>
    cases place with
    | zero => exact first
    | succ place => exact induction place

theorem textOf_getElem? (written : List.Forall₂ TextOf texts leaves)
    {index : Nat} {text : Hex} {leaf : Bytes32} (givenText : texts[index]? = some text)
    (given : leaves[index]? = some leaf) :
    TextOf text leaf := by
  have padding := textOf_padded written index
  rwa [padded, padded, List.getD_eq_getElem?_getD,
    List.getD_eq_getElem?_getD, givenText, given, Option.getD_some, Option.getD_some] at padding

theorem textOf_node (hashes : HashesPairs package keccak256)
    (written : List.Forall₂ TextOf texts leaves) (height place : Nat) :
    TextOf (node (parentText package) (padded ZERO32 texts) height place)
      (node (parentWord keccak256) (padded 0 leaves) height place) :=
  node_related (fun left right => hashes left right) (textOf_padded written) height place

/-- The root of the texts writes the root of the words. -/
theorem textOf_root (hashes : HashesPairs package keccak256)
    (written : List.Forall₂ TextOf texts leaves) :
    TextOf (merkleRoot package texts).root (treeRoot keccak256 leaves) := by
  rw [root_merkleRoot, treeRoot, ← written.length_eq]
  exact textOf_node hashes written _ _

/-- A text step writes a step of words. -/
def StepOf (step : MerkleProofStep) (words : Bytes32 × Bool) : Prop :=
  TextOf step.sibling words.1 ∧ step.isLeft = words.2

variable {proof : List MerkleProofStep} {steps : List (Bytes32 × Bool)}
variable {leafText rootText : Hex} {leaf root : Bytes32}

/-- The node that a step computes writes the parent, in lower case. -/
theorem textOf_verifyStep {current : Hex} {word : Bytes32} {step : MerkleProofStep}
    {words : Bytes32 × Bool} (hashes : HashesPairs package keccak256)
    (written : TextOf current word) (writtenStep : StepOf step words) :
    TextOf (verifyStep package current step) (ascend (parentWord keccak256) word words) := by
  rcases step with ⟨sibling, side⟩
  rcases words with ⟨other, isLeft⟩
  rcases writtenStep with ⟨writtenSibling, rfl⟩
  have lower := writtenSibling.normalizeHex
  cases side with
  | false => exact (hashes written lower).normalizeHex
  | true => exact (hashes lower written).normalizeHex

theorem textOf_foldl_verifyStep {current : Hex} {word : Bytes32}
    (hashes : HashesPairs package keccak256) (writtenProof : List.Forall₂ StepOf proof steps)
    (written : TextOf current word) : TextOf (proof.foldl (verifyStep package) current)
    (climb (parentWord keccak256) word steps) := by
  induction writtenProof generalizing current word with
  | nil => exact written
  | cons first rest induction =>
    exact induction (textOf_verifyStep hashes written first)

/-- Every node of a walk is in lower case. -/
theorem normalizeHex_foldl_verifyStep {current : Hex} (lower : normalizeHex current = current) :
    normalizeHex (proof.foldl (verifyStep package) current) =
      proof.foldl (verifyStep package) current := by
  induction proof generalizing current with
  | nil => exact lower
  | cons step rest induction => exact induction (normalizeHex_normalizeHex _)

/-- The check of the root builder is the walk of the tree. -/
theorem verifyMerkleProof_iff (hashes : HashesPairs package keccak256)
    (writtenProof : List.Forall₂ StepOf proof steps)
    (writtenLeaf : TextOf leafText leaf) (writtenRoot : TextOf rootText root) :
    verifyMerkleProof package leafText proof rootText = true ↔
      climb (parentWord keccak256) leaf steps = root := by
  have walked := textOf_foldl_verifyStep hashes writtenProof writtenLeaf.normalizeHex
  have lower : normalizeHex (normalizeHex leafText) = normalizeHex leafText :=
    normalizeHex_normalizeHex leafText
  rw [verifyMerkleProof, decide_eq_true_iff, ← normalizeHex_foldl_verifyStep lower]
  exact walked.same_iff writtenRoot

/-- The check of the vault is the walk of the tree, with a side for every
sibling. -/
theorem walkOrderedProof_eq_some_iff {siblings : List Bytes32} {siblingIsLeft : List Bool} :
    walkOrderedProof keccak256 leaf siblings siblingIsLeft = some root ↔
      siblings.length ≤ siblingIsLeft.length ∧
        climb (parentWord keccak256) leaf (siblings.zip siblingIsLeft) =
          root := by
  induction siblings generalizing leaf siblingIsLeft with
  | nil => simp [walkOrderedProof, climb]
  | cons sibling siblings induction =>
    cases siblingIsLeft with
    | nil => simp [walkOrderedProof]
    | cons left siblingIsLeft =>
      rw [walkOrderedProof, induction]
      cases left <;> simp [climb]

/-- On arrays of one length the check is the one the vault was modelled with. -/
theorem orderedProofAccepted_eq (deployment : Deployment) {siblings : List Bytes32}
    {siblingIsLeft : List Bool} (lengths : siblings.length = siblingIsLeft.length) :
    orderedProofAccepted deployment.keccak256 leaf root siblings siblingIsLeft =
      ArenaVaultV2.verifyOrderedMerkleProof deployment leaf root siblings
        siblingIsLeft := by
  have same : (fun (computed : Bytes32) (step : Bytes32 × Bool) =>
        if step.2 = true then
          ArenaVaultV2.merkleParent deployment step.1 computed
        else ArenaVaultV2.merkleParent deployment computed step.1) =
      ascend (parentWord deployment.keccak256) := by
    funext computed step
    rcases step with ⟨sibling, left⟩
    cases left <;> rfl
  rw [Bool.eq_iff_iff, orderedProofAccepted, decide_eq_true_iff,
    walkOrderedProof_eq_some_iff, ArenaVaultV2.verifyOrderedMerkleProof, decide_eq_true_iff, same]
  exact ⟨fun accepted => accepted.2, fun arrives => ⟨lengths.le, arrives⟩⟩

end Written

end Mozetto.Commitments

/-!
## Proofs of membership

A proof made for an index is accepted by both checks.  Conversely, as long as
`keccak256` has no collision among what the tree and the walk of a proof hash,
and no leaf is zero or one of these hashes, an accepted proof is as long as
the tree is high and starts at the leaf that its sides spell.
-/

namespace Mozetto.Commitments

open Mozetto.Chain
open Mozetto.EventStore
open Mozetto.Library.MerkleTree

variable {package : HashPackage} {keccak256 : Bytes → Bytes32}
variable {texts : List Hex} {leaves : List Bytes32}

/-! ### Acceptance -/

/-- The steps of a proof write the path of its index. -/
theorem stepOf_merkleProof (hashes : HashesPairs package keccak256)
    (written : List.Forall₂ TextOf texts leaves) {index : Nat} (inside : index < texts.length) :
    List.Forall₂ StepOf (merkleProof package texts index)
      (path (parentWord keccak256) (padded 0 leaves) 0 index (depth leaves.length)) := by
  rw [merkleProof_eq_path package texts inside, List.forall₂_map_left_iff, ← written.length_eq]
  exact path_related (fun left right => hashes left right) (textOf_padded written)
      _ _ _

/-- The path of a leaf arrives at the root. -/
theorem climb_path_of_leaf {index : Nat} {leaf : Bytes32} (given : leaves[index]? = some leaf) :
    climb (parentWord keccak256) leaf (path (parentWord keccak256) (padded 0 leaves) 0 index
          (depth leaves.length)) =
      treeRoot keccak256 leaves := by
  have inside : index < leaves.length := (List.getElem?_eq_some_iff.mp given).1
  have start : leaf = node (parentWord keccak256) (padded 0 leaves) 0 index := by
    rw [node, padded, List.getD_eq_getElem?_getD, given, Option.getD_some]
  have below : index < 2 ^ depth leaves.length :=
    lt_of_lt_of_le inside (length_le_two_pow_depth leaves.length)
  rw [start, climb_path, Nat.zero_add, Nat.div_eq_of_lt below]
  rfl

theorem forall₂_fst {proof : List MerkleProofStep} {steps : List (Bytes32 × Bool)}
    (writtenProof : List.Forall₂ StepOf proof steps) :
    List.Forall₂ TextOf (proof.map MerkleProofStep.sibling) (steps.map Prod.fst) ∧
      proof.map MerkleProofStep.isLeft = steps.map Prod.snd := by
  induction writtenProof with
  | nil => exact ⟨List.Forall₂.nil, rfl⟩
  | cons first rest induction =>
    rcases first with ⟨sibling, side⟩
    exact ⟨List.Forall₂.cons sibling induction.1, congrArg₂ _ side induction.2⟩

theorem forall₂_stepOf {proof : List MerkleProofStep} {siblings : List Bytes32}
    (writtenProof : List.Forall₂ TextOf (proof.map MerkleProofStep.sibling) siblings) :
    List.Forall₂ StepOf proof (siblings.zip (proof.map MerkleProofStep.isLeft)) := by
  induction proof generalizing siblings with
  | nil =>
    rw [List.forall₂_nil_left_iff.mp writtenProof]
    exact List.Forall₂.nil
  | cons step rest induction =>
    rcases List.forall₂_cons_left_iff.mp writtenProof with ⟨sibling, siblings, first, others, rfl⟩
    exact List.Forall₂.cons ⟨first, rfl⟩ (induction others)

/-- A proof made for an index is accepted by the vault. -/
theorem orderedProofAccepted_path
    {index : Nat} {leaf : Bytes32} (given : leaves[index]? = some leaf)
    {steps : List (Bytes32 × Bool)}
    (made : steps = path (parentWord keccak256) (padded 0 leaves) 0 index (depth leaves.length)) :
    orderedProofAccepted keccak256 leaf (treeRoot keccak256 leaves)
        (steps.map Prod.fst) (steps.map Prod.snd) =
      true := by
  have pairs : (steps.map Prod.fst).zip (steps.map Prod.snd) = steps := by
    rw [List.zip_map']
    exact List.map_id steps
  rw [orderedProofAccepted, decide_eq_true_iff, walkOrderedProof_eq_some_iff, pairs, made]
  exact ⟨by simp, climb_path_of_leaf given⟩

/-! ### Soundness -/

/-- What is hashed in building the tree and in walking a proof. -/
def hashedInputs (keccak256 : Bytes → Bytes32) (leaves : List Bytes32) (leaf : Bytes32)
    (steps : List (Bytes32 × Bool)) : List Bytes :=
  (treePairs (parentWord keccak256) (padded 0 leaves) (depth leaves.length) 0 ++
      walkPairs (parentWord keccak256) leaf steps).map fun words =>
    bytesOf 32 words.1 ++ bytesOf 32 words.2

/-- No collision, no zero and no leaf among these hashes. -/
structure CollisionFree (keccak256 : Bytes → Bytes32) (leaves : List Bytes32) (leaf : Bytes32)
    (steps : List (Bytes32 × Bool)) : Prop where
  injective : ∀ input ∈ hashedInputs keccak256 leaves leaf steps,
      ∀ other ∈ hashedInputs keccak256 leaves leaf steps,
        keccak256 input = keccak256 other → input = other
  ne_zero : ∀ input ∈ hashedInputs keccak256 leaves leaf steps, keccak256 input ≠ 0
  leaf_ne : ∀ word ∈ leaf :: leaves, word ≠ 0 ∧ ∀ input ∈ hashedInputs keccak256 leaves leaf steps,
          keccak256 input ≠ word

instance (keccak256 : Bytes → Bytes32) (leaves : List Bytes32) (leaf : Bytes32)
    (steps : List (Bytes32 × Bool)) : Decidable (CollisionFree keccak256 leaves leaf steps) :=
  decidable_of_iff (_ ∧ _ ∧ _) ⟨fun parts => ⟨parts.1, parts.2.1, parts.2.2⟩,
      fun free => ⟨free.injective, free.ne_zero, free.leaf_ne⟩⟩

variable {leaf : Bytes32} {steps : List (Bytes32 × Bool)}

/-- An injective hash that is never zero or a leaf is free of collisions. -/
theorem CollisionFree.of_injective (injective : Function.Injective keccak256)
    (ne_zero : ∀ input, keccak256 input ≠ 0)
    (leaf_ne : ∀ word ∈ leaf :: leaves, word ≠ 0 ∧ ∀ input, keccak256 input ≠ word) :
    CollisionFree keccak256 leaves leaf steps where
  injective := fun _ _ _ _ equal => injective equal
  ne_zero := fun input _ => ne_zero input
  leaf_ne := fun word member =>
    ⟨(leaf_ne word member).1, fun input _ => (leaf_ne word member).2 input⟩

theorem parentWord_lt (hashes : HashesPairs package keccak256) {left right : Bytes32}
    (fits : left < 2 ^ 256) (fits' : right < 2 ^ 256) : parentWord keccak256 left right < 2 ^ 256 :=
  (hashes (textOf_wordHex fits) (textOf_wordHex fits')).fits

/-- Words that are kept apart as bytes are kept apart as pairs. -/
theorem CollisionFree.apart (hashes : HashesPairs package keccak256)
    (written : List.Forall₂ TextOf texts leaves) (fits : leaf < 2 ^ 256)
    (siblings : ∀ step ∈ steps, step.1 < 2 ^ 256)
    (free : CollisionFree keccak256 leaves leaf steps) :
    Apart (parentWord keccak256) (padded 0 leaves) (depth leaves.length) 0 leaf
      steps := by
  have pairs : ∀ {left right : Bytes32}, left < 2 ^ 256 → right < 2 ^ 256 →
      parentWord keccak256 left right < 2 ^ 256 := fun left right => parentWord_lt hashes left right
  have inTree : ∀ words ∈ treePairs (parentWord keccak256) (padded 0 leaves)
          (depth leaves.length) 0, bytesOf 32 words.1 ++ bytesOf 32 words.2 ∈
        hashedInputs keccak256 leaves leaf steps :=
    fun words member =>
      List.mem_map.mpr ⟨words, List.mem_append_left _ member, rfl⟩
  have inWalk : ∀ words ∈ walkPairs (parentWord keccak256) leaf steps,
      bytesOf 32 words.1 ++ bytesOf 32 words.2 ∈
        hashedInputs keccak256 leaves leaf steps :=
    fun words member =>
      List.mem_map.mpr ⟨words, List.mem_append_right _ member, rfl⟩
  constructor
  · intro walked walkedMember combined combinedMember equal
    have inputs :=
      free.injective _ (inWalk walked walkedMember) _ (inTree combined combinedMember) equal
    have walkedFit := walkPairs_good (· < 2 ^ 256) pairs fits siblings walkedMember
    have combinedFit :=
      treePairs_good (· < 2 ^ 256) pairs (fun place => (textOf_padded written place).fits)
        combinedMember
    have same :=
      word_pair_injective walkedFit.1 combinedFit.1 walkedFit.2 combinedFit.2 inputs
    exact Prod.ext same.1 same.2
  · intro combined member
    exact (free.leaf_ne leaf List.mem_cons_self).2 _ (inTree combined member)
  · intro walked member index
    by_cases inside : index < leaves.length
    · rw [padded, List.getD_eq_getElem _ _ inside]
      exact (free.leaf_ne _ (List.mem_cons_of_mem _ (List.getElem_mem inside))).2 _
          (inWalk walked member)
    · rw [padded, List.getD_eq_default _ _ (not_lt.mp inside)]
      exact free.ne_zero _ (inWalk walked member)

/-- A walk that arrives at the root started at the leaf its sides spell. -/
theorem climb_eq_treeRoot (hashes : HashesPairs package keccak256)
    (written : List.Forall₂ TextOf texts leaves) (fits : leaf < 2 ^ 256)
    (siblings : ∀ step ∈ steps, step.1 < 2 ^ 256) (free : CollisionFree keccak256 leaves leaf steps)
    (arrives : climb (parentWord keccak256) leaf steps = treeRoot keccak256 leaves) :
    leaves[position (steps.map Prod.snd)]? = some leaf ∧ steps.length = depth leaves.length := by
  have sound := climb_sound (free.apart hashes written fits siblings) arrives
  rcases sound with ⟨lengths, started⟩
  rw [Nat.mul_zero, Nat.zero_add, padded, List.getD_eq_getElem?_getD] at started
  cases found : leaves[position (steps.map Prod.snd)]? with
  | none =>
    rw [found, Option.getD_none] at started
    exact absurd started.symm (free.leaf_ne leaf List.mem_cons_self).1
  | some word =>
    rw [found, Option.getD_some] at started
    exact ⟨congrArg some started, lengths⟩

/-- The check of the root builder accepts leaves in place only. -/
theorem verifyMerkleProof_sound (hashes : HashesPairs package keccak256)
    (written : List.Forall₂ TextOf texts leaves)
    {text : Hex} {proof : List MerkleProofStep} {siblings : List Bytes32}
    (writtenLeaf : TextOf text leaf)
    (writtenProof : List.Forall₂ TextOf (proof.map MerkleProofStep.sibling) siblings)
    (free : CollisionFree keccak256 leaves leaf (siblings.zip (proof.map MerkleProofStep.isLeft)))
    (accepted : verifyMerkleProof package text proof (merkleRoot package texts).root = true) :
    leaves[position (proof.map MerkleProofStep.isLeft)]? = some leaf ∧
      proof.length = depth leaves.length := by
  have steps := forall₂_stepOf writtenProof
  have arrives :=
    (verifyMerkleProof_iff hashes steps writtenLeaf (textOf_root hashes written)).mp accepted
  have words : ∀ step ∈ siblings.zip (proof.map MerkleProofStep.isLeft), step.1 < 2 ^ 256 := by
    intro step member
    rcases List.getElem_of_mem (List.of_mem_zip member).1 with ⟨place, inside, equal⟩
    have inProof := inside
    rw [← writtenProof.length_eq] at inProof
    rw [← equal]
    exact (writtenProof.get inProof inside).fits
  have lengths : (proof.map MerkleProofStep.isLeft).length = siblings.length := by
    rw [← writtenProof.length_eq, List.length_map, List.length_map]
  have sound := climb_eq_treeRoot hashes written writtenLeaf.fits words free arrives
  rwa [List.map_snd_zip lengths.le, List.length_zip, lengths, Nat.min_self,
    ← lengths, List.length_map] at sound

/-- The check of the vault accepts leaves in place only. -/
theorem orderedProofAccepted_sound (hashes : HashesPairs package keccak256)
    (written : List.Forall₂ TextOf texts leaves)
    {siblings : List Bytes32} {siblingIsLeft : List Bool}
    (fits : leaf < 2 ^ 256) (words : ∀ sibling ∈ siblings, sibling < 2 ^ 256)
    (free : CollisionFree keccak256 leaves leaf (siblings.zip siblingIsLeft))
    (accepted : orderedProofAccepted keccak256 leaf (treeRoot keccak256 leaves) siblings
        siblingIsLeft = true) :
    leaves[position (siblingIsLeft.take siblings.length)]? = some leaf ∧
      siblings.length = depth leaves.length := by
  rw [orderedProofAccepted, decide_eq_true_iff, walkOrderedProof_eq_some_iff] at accepted
  rcases accepted with ⟨enough, arrives⟩
  have sound :=
    climb_eq_treeRoot hashes written fits
      (fun step member => words step.1 (List.of_mem_zip member).1) free arrives
  have sides : (siblings.zip siblingIsLeft).map Prod.snd = siblingIsLeft.take siblings.length := by
    rw [List.zip_eq_zip_take_min, Nat.min_eq_left enough, List.map_snd_zip (by simp)]
  rwa [sides, List.length_zip, Nat.min_eq_left enough] at sound

/-! ### One tree everywhere -/

/--
The four roots of a list are one; the proof of an index is accepted by both
checks; and what either check accepts is the leaf at the place that the sides
spell, with a sibling for every level of the tree.
-/
theorem one_merkle_tree
    (deployment : Deployment) (package : HashPackage)
    (hashes : HashesPairs package deployment.keccak256)
    (texts : List Hex) (leaves : List Bytes32)
    (written : List.Forall₂ TextOf texts leaves) :
    (TextOf (merkleRoot package texts).root
        (ArenaVaultV2.orderedMerkleRoot deployment leaves) ∧
      merkle_root deployment.keccak256 leaves =
        ArenaVaultV2.orderedMerkleRoot deployment leaves ∧
      computeGlobalRoot deployment.keccak256 leaves =
        ArenaVaultV2.orderedMerkleRoot deployment leaves) ∧
    (∀ (index : Nat) (text : Hex) (leaf : Bytes32),
      texts[index]? = some text → leaves[index]? = some leaf →
        verifyMerkleProof package text (merkleProof package texts index)
            (merkleRoot package texts).root = true ∧
          ∃ siblings : List Bytes32,
            List.Forall₂ TextOf
                ((merkleProof package texts index).map
                  MerkleProofStep.sibling)
                siblings ∧
              orderedProofAccepted deployment.keccak256 leaf
                  (ArenaVaultV2.orderedMerkleRoot deployment leaves) siblings
                  ((merkleProof package texts index).map
                    MerkleProofStep.isLeft) =
                true) ∧
    (∀ (text : Hex) (leaf : Bytes32) (proof : List MerkleProofStep)
        (siblings : List Bytes32),
      TextOf text leaf →
        List.Forall₂ TextOf (proof.map MerkleProofStep.sibling) siblings →
          CollisionFree deployment.keccak256 leaves leaf
              (siblings.zip (proof.map MerkleProofStep.isLeft)) →
            verifyMerkleProof package text proof
                (merkleRoot package texts).root = true →
              leaves[position (proof.map MerkleProofStep.isLeft)]? =
                  some leaf ∧
                proof.length + 1 =
                  (merkleRoot package texts).layers.length) ∧
    (∀ (leaf : Bytes32) (siblings : List Bytes32) (siblingIsLeft : List Bool),
      leaf < 2 ^ 256 → (∀ sibling ∈ siblings, sibling < 2 ^ 256) →
        CollisionFree deployment.keccak256 leaves leaf
            (siblings.zip siblingIsLeft) →
          orderedProofAccepted deployment.keccak256 leaf
              (ArenaVaultV2.orderedMerkleRoot deployment leaves) siblings
              siblingIsLeft = true →
            leaves[position (siblingIsLeft.take siblings.length)]? =
                some leaf ∧
              siblings.length + 1 =
                (merkleRoot package texts).layers.length) := by
  have root := textOf_root hashes written
  have high :
      (merkleRoot package texts).layers.length = depth leaves.length + 1 := by
    rw [length_layers, written.length_eq]
  rw [orderedMerkleRoot_eq, high]
  refine ⟨⟨root, ?_, ?_⟩, ?_, ?_, ?_⟩
  · exact merkle_root_eq deployment.keccak256 leaves
  · exact computeGlobalRoot_eq deployment.keccak256 leaves
  · intro index text leaf givenText given
    have inside : index < texts.length :=
      (List.getElem?_eq_some_iff.mp givenText).1
    have steps := stepOf_merkleProof hashes written inside
    have writtenLeaf := textOf_getElem? written givenText given
    rcases forall₂_fst steps with ⟨siblings, sides⟩
    refine ⟨?_, _, siblings, ?_⟩
    · exact
        (verifyMerkleProof_iff hashes steps writtenLeaf root).mpr
          (climb_path_of_leaf given)
    · rw [sides]
      exact orderedProofAccepted_path given rfl
  · intro text leaf proof siblings writtenLeaf writtenProof free accepted
    have sound :=
      verifyMerkleProof_sound hashes written writtenLeaf writtenProof free
        accepted
    exact ⟨sound.1, congrArg (· + 1) sound.2⟩
  · intro leaf siblings siblingIsLeft fits words free accepted
    have sound :=
      orderedProofAccepted_sound hashes written fits words free accepted
    exact ⟨sound.1, congrArg (· + 1) sound.2⟩

/-! ### An example package -/

namespace Example

open Mozetto.Library.HexText

/-- Concatenation of digits, and a stand-in hash of the bytes they write. -/
def hexPackage : HashPackage where
  concat := fun values =>
    String.ofList ('0' :: 'x' :: values.flatMap fun value => value.toList.drop 2)
  keccak256 := fun value =>
    let digits := (value.toList.drop 2).map Char.toLower
    wordHex (Chain.Example.mix (bytesOf (digits.length / 2) (hexValue digits)))

theorem mix_lt (bytes : Bytes) : Chain.Example.mix bytes < 2 ^ 256 := by
  induction bytes using List.reverseRecOn with
  | nil => decide
  | append_singleton bytes byte induction =>
    rw [Chain.Example.mix, List.foldl_append]
    exact Nat.mod_lt _ (by decide)

theorem hexValue_concat (digits : List Char) (last : Char) :
    hexValue (digits ++ [last]) = 16 * hexValue digits + digitValue last := by
  rw [hexValue, List.foldl_append]
  rfl

/-- The number that digits write, one text after the other. -/
theorem hexValue_append (digits others : List Char) : hexValue (digits ++ others) =
    hexValue digits * 16 ^ others.length + hexValue others := by
  induction others using List.reverseRecOn with
  | nil => simp [hexValue]
  | append_singleton others last induction =>
    rw [← List.append_assoc, hexValue_concat, induction, hexValue_concat,
      List.length_append, List.length_singleton, Nat.pow_succ]
    ring

theorem hashesPairs : HashesPairs hexPackage Chain.Example.mix := by
  intro left right word word' written written'
  have fits : word < 16 ^ 64 := written.fits.trans_eq (by norm_num)
  have fits' : word' < 16 ^ 64 := written'.fits.trans_eq (by norm_num)
  have digits : ((hexPackage.concat [left, right]).toList.drop 2).map Char.toLower =
      padded 64 word ++ padded 64 word' := by
    simp [hexPackage, ← written.lowered, ← written'.lowered]
  have high : (word * 256 ^ 32 + word') / 256 ^ 32 = word := by
    have small := lt_bytes_of_word written'.fits
    omega
  have low : bytesOf 32 (word * 256 ^ 32 + word') = bytesOf 32 word' :=
    bytesOf_add_mul 32 word' word
  have bytes : bytesOf ((padded 64 word ++ padded 64 word').length / 2)
        (hexValue (padded 64 word ++ padded 64 word')) = bytesOf 32 word ++ bytesOf 32 word' := by
    rw [hexValue_append, hexValue_padded, hexValue_padded, List.length_append,
      length_padded (by decide) fits, length_padded (by decide) fits',
      show (64 + 64) / 2 = 32 + 32 by decide, bytesOf_add,
      show (16 : Nat) ^ 64 = 256 ^ 32 by norm_num, high, low]
  show TextOf (wordHex (Chain.Example.mix (bytesOf _ _))) _
  rw [digits, bytes]
  exact textOf_wordHex (mix_lt _)

def threeLeaves : List Bytes32 := [5, 7, 11]

def threeTexts : List Hex := threeLeaves.map wordHex

theorem threeTexts_written : List.Forall₂ TextOf threeTexts threeLeaves :=
  textOf_map_wordHex (by decide)

/-- The siblings of the third leaf: a filler, and the parent of the others. -/
def thirdSiblings : List Bytes32 := [0, parentWord Chain.Example.mix 5 7]

end Example

open Example in
/-- The proof of the third of three leaves. -/
theorem one_merkle_tree_three_leaves :
    TextOf (merkleRoot hexPackage threeTexts).root
        (ArenaVaultV2.orderedMerkleRoot Chain.Example.deployment threeLeaves) ∧
      verifyMerkleProof hexPackage (wordHex 11)
          (merkleProof hexPackage threeTexts 2)
          (merkleRoot hexPackage threeTexts).root = true ∧
      (threeLeaves[position [false, true]]? = some 11 ∧
        2 + 1 = (merkleRoot hexPackage threeTexts).layers.length) := by
  rcases
      one_merkle_tree Chain.Example.deployment hexPackage hashesPairs
        threeTexts threeLeaves threeTexts_written with
    ⟨roots, complete, sound, vault⟩
  have accepted := complete 2 (wordHex 11) 11 rfl rfl
  have free :
      CollisionFree Chain.Example.mix threeLeaves 11
        (thirdSiblings.zip [false, true]) := by
    decide +kernel
  have inVault :=
    vault 11 thirdSiblings [false, true] (by decide) (by decide +kernel) free
      (by decide +kernel)
  exact ⟨roots.1, accepted.1, inVault⟩

end Mozetto.Commitments
