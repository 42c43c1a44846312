import Mozetto.Commitments.MerkleProofs

/-!
# The balance root

`buildBalanceRoot` of the root builder: balance leaves in the order of their
seats, each hashed as the vault hashes it, under one ordered Merkle root.
Where `keccak256` has no collision and no zero among what is hashed, the root
determines the leaves.
-/

namespace Mozetto.Commitments

open Mozetto.Chain
open Mozetto.Library.Guarded
open Mozetto.Library.MerkleTree

/-! ## Building the root -/

abbrev BalanceLeafInput := BalanceLeafClaim

inductive RootBuilderError where
  | duplicateSeat (message : String)
  | emptyLeaves (message : String)
  | encoding
deriving DecidableEq, Repr

/-- The values of a leaf fit their ABI types. -/
def Encodable (fields : BalanceLeafInput) : Prop :=
  fields.sessionId < 2 ^ 256 ∧ fields.epoch < 2 ^ 64 ∧
    fields.arenaAccount < 2 ^ 160 ∧ fields.seat < 2 ^ 8 ∧
    fields.openingBalance < 2 ^ 256 ∧ fields.currentBalance < 2 ^ 256 ∧
    fields.cumulativeRake < 2 ^ 256 ∧ fields.lastSequence < 2 ^ 64

instance (fields : BalanceLeafInput) : Decidable (Encodable fields) :=
  inferInstanceAs (Decidable (_ ∧ _))

variable (deployment : Deployment)

/-- The hash of a leaf; encoding refuses values that do not fit. -/
def encodeOne (fields : BalanceLeafInput) : Except RootBuilderError Bytes32 :=
  if Encodable fields then
    .ok (ArenaVaultV2.balanceLeafHash deployment fields)
  else .error .encoding

/-- The loop that refuses a seat it has seen. -/
def refuseDuplicates : List Nat → List BalanceLeafInput → Except RootBuilderError Unit
  | _, [] => .ok ()
  | seats, leaf :: rest =>
    if leaf.seat ∈ seats then
      .error (.duplicateSeat ("duplicate seat " ++ toString leaf.seat))
    else refuseDuplicates (leaf.seat :: seats) rest

/-- Leaves by ascending seat. -/
def orderedBySeat (inputs : List BalanceLeafInput) : List BalanceLeafInput :=
  inputs.mergeSort fun leaf other => leaf.seat ≤ other.seat

/-- The root of `merkleRoot` over the leaf hashes, as a word. -/
def buildBalanceRoot (inputs : List BalanceLeafInput) :
    Except RootBuilderError Bytes32 := do
  revertIf (inputs.length = 0)
    (.emptyLeaves "balance root requires at least one leaf")
  refuseDuplicates [] inputs
  let leaves ← (orderedBySeat inputs).mapM (encodeOne deployment)
  return merkle_root deployment.keccak256 leaves

variable {deployment}

/-! ## What the root is of -/

theorem refuseDuplicates_eq_ok_iff
    {seats : List Nat} {inputs : List BalanceLeafInput} {done : Unit} :
    refuseDuplicates seats inputs = .ok done ↔
      (inputs.map (·.seat)).Nodup ∧ ∀ leaf ∈ inputs, leaf.seat ∉ seats := by
  induction inputs generalizing seats with
  | nil => simp [refuseDuplicates]
  | cons leaf rest induction =>
    rw [refuseDuplicates]
    split
    case isTrue seen =>
      constructor
      · intro equal
        cases equal
      · rintro ⟨-, unseen⟩
        exact absurd seen (unseen leaf List.mem_cons_self)
    case isFalse unseen =>
      rw [induction, List.map_cons, List.nodup_cons]
      simp only [List.mem_map, List.mem_cons, not_or, forall_eq_or_imp]
      constructor
      · rintro ⟨distinct, others⟩
        refine ⟨⟨?_, distinct⟩, unseen, fun other member => (others other member).2⟩
        rintro ⟨other, member, equal⟩
        exact (others other member).1 equal
      · rintro ⟨⟨fresh, distinct⟩, -, others⟩
        exact ⟨distinct, fun other member =>
          ⟨fun equal => fresh ⟨other, member, equal⟩, others other member⟩⟩

theorem mapM_encodeOne_eq_ok_iff {inputs : List BalanceLeafInput} {leaves : List Bytes32} :
    inputs.mapM (encodeOne deployment) = .ok leaves ↔ (∀ leaf ∈ inputs, Encodable leaf) ∧
        inputs.map (ArenaVaultV2.balanceLeafHash deployment) = leaves := by
  induction inputs generalizing leaves with
  | nil => simp
  | cons leaf rest induction =>
    simp only [List.mapM_cons, bind_eq_ok_iff, pure_eq_ok_iff, induction,
      List.forall_mem_cons, List.map_cons, encodeOne]
    by_cases fits : Encodable leaf
    · simp [fits]
    · simp [fits]

/-- A root is built exactly of leaves that fit, in distinct seats. -/
theorem buildBalanceRoot_eq_ok_iff {inputs : List BalanceLeafInput} {root : Bytes32} :
    buildBalanceRoot deployment inputs = .ok root ↔ inputs ≠ [] ∧ (inputs.map (·.seat)).Nodup ∧
        (∀ leaf ∈ inputs, Encodable leaf) ∧ treeRoot deployment.keccak256
            ((orderedBySeat inputs).map (ArenaVaultV2.balanceLeafHash deployment)) = root := by
  rw [buildBalanceRoot, revertIf_bind_eq_ok_iff]
  simp only [bind_eq_ok_iff, refuseDuplicates_eq_ok_iff,
    mapM_encodeOne_eq_ok_iff, pure_eq_ok_iff, List.length_eq_zero_iff, merkle_root_eq, exists_const]
  have members : (∀ leaf ∈ orderedBySeat inputs, Encodable leaf) ↔
      ∀ leaf ∈ inputs, Encodable leaf := by
    simp [orderedBySeat]
  rw [members]
  constructor
  · rintro ⟨nonempty, ⟨distinct, -⟩, leaves, ⟨fits, rfl⟩, same⟩
    exact ⟨nonempty, distinct, fits, same⟩
  · rintro ⟨nonempty, distinct, fits, same⟩
    exact ⟨nonempty, ⟨distinct, fun leaf _ => List.not_mem_nil⟩, _, ⟨fits, rfl⟩, same⟩

/-! ## The root determines the leaves -/

/-- The bytes of a leaf. -/
def leafBytes (deployment : Deployment) (leaf : BalanceLeafInput) : Bytes :=
  abiEncode
    [ArenaVaultV2.domain deployment "MOZETTO_BALANCE_LEAF_V1", leaf.sessionId,
      leaf.epoch, leaf.arenaAccount, leaf.seat, leaf.openingBalance,
      leaf.currentBalance, leaf.cumulativeRake, leaf.lastSequence]

/-- The bytes of two words. -/
def pairBytes (words : Bytes32 × Bytes32) : Bytes := bytesOf 32 words.1 ++ bytesOf 32 words.2

theorem length_pairBytes (words : Bytes32 × Bytes32) : (pairBytes words).length = 64 := by
  simp [pairBytes]

theorem length_leafBytes (leaf : BalanceLeafInput) : (leafBytes deployment leaf).length = 288 := by
  simp [leafBytes, abiEncode]

/-- The pairs that are combined over the leaf hashes. -/
def balancePairs (deployment : Deployment) (inputs : List BalanceLeafInput) :
    List (Bytes32 × Bytes32) :=
  treePairs (parentWord deployment.keccak256) (padded 0
      ((orderedBySeat inputs).map (ArenaVaultV2.balanceLeafHash deployment)))
    (depth (orderedBySeat inputs).length) 0

/-- What is hashed for a balance root. -/
def balanceInputs (deployment : Deployment) (inputs : List BalanceLeafInput) :
    List Bytes :=
  inputs.map (leafBytes deployment) ++ (balancePairs deployment inputs).map pairBytes

/-- No collision and no zero among the hashes of two balance roots. -/
structure RootsApart (deployment : Deployment) (inputs inputs' : List BalanceLeafInput) : Prop where
  injective : ∀ bytes ∈ balanceInputs deployment inputs ++ balanceInputs deployment inputs',
      ∀ bytes' ∈ balanceInputs deployment inputs ++ balanceInputs deployment inputs',
        deployment.keccak256 bytes = deployment.keccak256 bytes' → bytes = bytes'
  ne_zero : ∀ bytes ∈ balanceInputs deployment inputs ++ balanceInputs deployment inputs',
      deployment.keccak256 bytes ≠ 0

instance (inputs inputs' : List BalanceLeafInput) :
    Decidable (RootsApart deployment inputs inputs') :=
  decidable_of_iff (_ ∧ _)
    ⟨fun parts => ⟨parts.1, parts.2⟩, fun apart => ⟨apart.injective, apart.ne_zero⟩⟩

/-- Where trees are kept apart and no leaf is zero, the root determines the
leaves. -/
theorem treeRoot_injective {keccak256 : Bytes → Bytes32} {leaves leaves' : List Bytes32}
    (apart : TreesApart (parentWord keccak256) (padded 0 leaves) (padded 0 leaves')
        (depth leaves.length) 0 (depth leaves'.length) 0)
    (ne_zero : 0 ∉ leaves) (ne_zero' : 0 ∉ leaves')
    (equal : treeRoot keccak256 leaves = treeRoot keccak256 leaves') :
    leaves = leaves' := by
  rcases node_bound apart equal with ⟨high, same⟩
  simp only [Nat.mul_zero, Nat.zero_add] at same
  have wide := length_le_two_pow_depth leaves.length
  have wide' := length_le_two_pow_depth leaves'.length
  rw [← high] at wide'
  have absent {leaves : List Bytes32} {index : Nat}
      (given : 0 ∉ leaves) (inside : index < leaves.length) : padded 0 leaves index ≠ 0 := by
    rw [padded, List.getD_eq_getElem _ _ inside]
    exact fun zero => given (zero ▸ List.getElem_mem inside)
  have outside {leaves : List Bytes32} {index : Nat}
      (past : leaves.length ≤ index) : padded 0 leaves index = 0 := List.getD_eq_default _ _ past
  have lengths : leaves.length = leaves'.length := by
    rcases Nat.lt_trichotomy leaves.length leaves'.length with
      shorter | lengths | longer
    · have filled := same leaves.length (by omega)
      rw [outside le_rfl] at filled
      exact absurd filled.symm (absent ne_zero' shorter)
    · exact lengths
    · have filled := same leaves'.length (by omega)
      rw [outside (le_refl leaves'.length)] at filled
      exact absurd filled (absent ne_zero longer)
  apply List.ext_getElem lengths
  intro index inside inside'
  have here := same index (by omega)
  rwa [padded, padded, List.getD_eq_getElem _ _ inside, List.getD_eq_getElem _ _ inside'] at here

section Determined

variable {inputs inputs' : List BalanceLeafInput} {root : Bytes32}

theorem pairBytes_mem_balanceInputs {words : Bytes32 × Bytes32}
    (member : words ∈ balancePairs deployment inputs) :
    pairBytes words ∈ balanceInputs deployment inputs :=
  List.mem_append_right _ (List.mem_map_of_mem member)

theorem leafBytes_mem_balanceInputs {leaf : BalanceLeafInput}
    (member : leaf ∈ orderedBySeat inputs) :
    leafBytes deployment leaf ∈ balanceInputs deployment inputs := by
  have given : leaf ∈ inputs := by
    rwa [orderedBySeat, List.mem_mergeSort] at member
  exact List.mem_append_left _ (List.mem_map_of_mem given)

/-- The hashes of pairs are no leaves, and no fillers. -/
theorem RootsApart.pair_ne_leaf
    (apart : RootsApart deployment inputs inputs') {words : Bytes32 × Bytes32}
    (member : pairBytes words ∈ balanceInputs deployment inputs ++ balanceInputs deployment inputs')
    {others : List BalanceLeafInput}
    (among : ∀ leaf ∈ orderedBySeat others, leafBytes deployment leaf ∈
          balanceInputs deployment inputs ++ balanceInputs deployment inputs')
    (index : Nat) :
    parentWord deployment.keccak256 words.1 words.2 ≠ padded 0
        ((orderedBySeat others).map (ArenaVaultV2.balanceLeafHash deployment))
        index := by
  by_cases inside : index < (orderedBySeat others).length
  · have given : (orderedBySeat others)[index] ∈ orderedBySeat others := List.getElem_mem inside
    rw [padded, List.getD_eq_getElem _ _ (by rwa [List.length_map]), List.getElem_map]
    intro equal
    have bytes := apart.injective _ member _ (among _ given) equal
    have lengths := congrArg List.length bytes
    rw [length_pairBytes, length_leafBytes] at lengths
    cases lengths
  · rw [padded, List.getD_eq_default _ _ (by rw [List.length_map]; exact not_lt.mp inside)]
    exact apart.ne_zero _ member

/-- The leaf hashes and the inner nodes are words. -/
theorem padded_hashes_lt (typed : ∀ bytes, deployment.keccak256 bytes < 2 ^ 256)
    (leaves : List BalanceLeafInput) (index : Nat) :
    padded 0 (leaves.map (ArenaVaultV2.balanceLeafHash deployment)) index < 2 ^ 256 := by
  by_cases inside : index < leaves.length
  · rw [padded, List.getD_eq_getElem _ _ (by rwa [List.length_map]), List.getElem_map]
    exact typed _
  · rw [padded, List.getD_eq_default _ _ (by rw [List.length_map]; exact not_lt.mp inside)]
    norm_num

theorem balancePairs_lt (typed : ∀ bytes, deployment.keccak256 bytes < 2 ^ 256)
    {words : Bytes32 × Bytes32} (member : words ∈ balancePairs deployment inputs) :
    words.1 < 2 ^ 256 ∧ words.2 < 2 ^ 256 :=
  treePairs_good (· < 2 ^ 256) (fun _ _ => typed _)
    (padded_hashes_lt typed (orderedBySeat inputs)) member

theorem RootsApart.treesApart (typed : ∀ bytes, deployment.keccak256 bytes < 2 ^ 256)
    (apart : RootsApart deployment inputs inputs') : TreesApart (parentWord deployment.keccak256)
    (padded 0 ((orderedBySeat inputs).map (ArenaVaultV2.balanceLeafHash deployment))) (padded 0
      ((orderedBySeat inputs').map (ArenaVaultV2.balanceLeafHash deployment)))
    (depth (orderedBySeat inputs).length) 0 (depth (orderedBySeat inputs').length) 0 where
  pairs := by
    intro words member words' member' equal
    have bytes :=
      apart.injective _ (List.mem_append_left _ (pairBytes_mem_balanceInputs member)) _
        (List.mem_append_right _ (pairBytes_mem_balanceInputs member')) equal
    have fits := balancePairs_lt typed member
    have fits' := balancePairs_lt typed member'
    have same := word_pair_injective fits.1 fits'.1 fits.2 fits'.2 bytes
    exact Prod.ext same.1 same.2
  leaf_ne := by
    intro words' member'
    exact apart.pair_ne_leaf (List.mem_append_right _ (pairBytes_mem_balanceInputs member'))
        fun leaf given =>
          List.mem_append_left _ (leafBytes_mem_balanceInputs given)
  leaf_ne' := by
    intro words member
    exact apart.pair_ne_leaf (List.mem_append_left _ (pairBytes_mem_balanceInputs member))
        fun leaf given =>
          List.mem_append_right _ (leafBytes_mem_balanceInputs given)

/-- A leaf is determined by its bytes. -/
theorem leafBytes_injective (typed : ∀ bytes, deployment.keccak256 bytes < 2 ^ 256)
    {leaf leaf' : BalanceLeafInput} (fits : Encodable leaf) (fits' : Encodable leaf')
    (equal : leafBytes deployment leaf = leafBytes deployment leaf') : leaf = leaf' := by
  have small {value bits : Nat} (below : value < 2 ^ bits) (few : bits ≤ 256) : value < 2 ^ 256 :=
    lt_of_lt_of_le below (Nat.pow_le_pow_right Nat.two_pos few)
  have words (leaf : BalanceLeafInput) (fits : Encodable leaf) : ∀ word ∈
        [ArenaVaultV2.domain deployment "MOZETTO_BALANCE_LEAF_V1",
          leaf.sessionId, leaf.epoch, leaf.arenaAccount, leaf.seat,
          leaf.openingBalance, leaf.currentBalance, leaf.cumulativeRake, leaf.lastSequence],
      word < 2 ^ 256 := by
    rcases fits with ⟨session, epoch, account, seat, opening, current, rake, last⟩
    simp only [List.forall_mem_cons, List.not_mem_nil, false_implies, implies_true, and_true]
    exact ⟨typed _, session, small epoch (by decide), small account (by decide),
        small seat (by decide), opening, current, rake, small last (by decide)⟩
  have same := abiEncode_injective (words leaf fits) (words leaf' fits') equal
  rcases leaf with ⟨session, epoch, account, seat, opening, current, rake, last⟩
  simp only [List.cons.injEq, true_and, and_true] at same
  rcases same with ⟨rfl, rfl, rfl, rfl, rfl, rfl, rfl, rfl⟩
  rfl

theorem RootsApart.zero_not_mem (apart : RootsApart deployment inputs inputs')
    {leaves : List BalanceLeafInput}
    (among : ∀ leaf ∈ leaves, leafBytes deployment leaf ∈
          balanceInputs deployment inputs ++ balanceInputs deployment inputs') :
    0 ∉ leaves.map (ArenaVaultV2.balanceLeafHash deployment) := by
  intro member
  rcases List.mem_map.mp member with ⟨leaf, given, zero⟩
  exact apart.ne_zero _ (among leaf given) zero

/-- Leaves of equal hashes are the same, one by one. -/
theorem eq_of_map_balanceLeafHash_eq {leaves leaves' : List BalanceLeafInput}
    (determined : ∀ leaf ∈ leaves, ∀ leaf' ∈ leaves', ArenaVaultV2.balanceLeafHash deployment leaf =
            ArenaVaultV2.balanceLeafHash deployment leaf' → leaf = leaf')
    (equal : leaves.map (ArenaVaultV2.balanceLeafHash deployment) =
        leaves'.map (ArenaVaultV2.balanceLeafHash deployment)) :
    leaves = leaves' := by
  have lengths := congrArg List.length equal
  rw [List.length_map, List.length_map] at lengths
  apply List.ext_getElem lengths
  intro index inside inside'
  apply determined _ (List.getElem_mem inside) _ (List.getElem_mem inside')
  have here := List.getElem_of_eq equal (by rwa [List.length_map])
  rwa [List.getElem_map, List.getElem_map] at here

/-- Two balance roots that are equal are of the same leaves. -/
theorem buildBalanceRoot_injective (typed : ∀ bytes, deployment.keccak256 bytes < 2 ^ 256)
    (apart : RootsApart deployment inputs inputs')
    (built : buildBalanceRoot deployment inputs = .ok root)
    (built' : buildBalanceRoot deployment inputs' = .ok root) :
    inputs.Perm inputs' := by
  rcases buildBalanceRoot_eq_ok_iff.mp built with ⟨-, -, fits, same⟩
  rcases buildBalanceRoot_eq_ok_iff.mp built' with ⟨-, -, fits', same'⟩
  have left : ∀ leaf ∈ orderedBySeat inputs, leafBytes deployment leaf ∈
        balanceInputs deployment inputs ++ balanceInputs deployment inputs' :=
    fun leaf given =>
      List.mem_append_left _ (leafBytes_mem_balanceInputs given)
  have right : ∀ leaf ∈ orderedBySeat inputs', leafBytes deployment leaf ∈
        balanceInputs deployment inputs ++ balanceInputs deployment inputs' :=
    fun leaf given =>
      List.mem_append_right _ (leafBytes_mem_balanceInputs given)
  have trees := apart.treesApart typed
  have hashes : (orderedBySeat inputs).map (ArenaVaultV2.balanceLeafHash deployment) =
      (orderedBySeat inputs').map (ArenaVaultV2.balanceLeafHash deployment) := by
    apply @treeRoot_injective deployment.keccak256 _ _ _
        (apart.zero_not_mem left) (apart.zero_not_mem right) (same.trans same'.symm)
    rwa [List.length_map, List.length_map]
  have member {leaves : List BalanceLeafInput} {leaf : BalanceLeafInput}
      (given : leaf ∈ orderedBySeat leaves) : leaf ∈ leaves := by
    rwa [orderedBySeat, List.mem_mergeSort] at given
  have ordered : orderedBySeat inputs = orderedBySeat inputs' := by
    apply eq_of_map_balanceLeafHash_eq _ hashes
    intro leaf given leaf' given' equal
    exact leafBytes_injective typed (fits leaf (member given)) (fits' leaf' (member given'))
        (apart.injective _ (left leaf given) _ (right leaf' given') equal)
  have sorted := (List.mergeSort_perm inputs fun leaf other =>
    decide (leaf.seat ≤ other.seat)).symm
  have sorted' := List.mergeSort_perm inputs' fun leaf other =>
    decide (leaf.seat ≤ other.seat)
  rw [orderedBySeat, orderedBySeat] at ordered
  rw [ordered] at sorted
  exact sorted.trans sorted'

end Determined

end Mozetto.Commitments
