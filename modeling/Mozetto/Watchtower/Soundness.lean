import Mozetto.Commitments.MerkleProofs
import Mozetto.Library.Guarded
import Mozetto.Watchtower.Checks

/-!
# Verified reports

A verified report is sound of exactly the packages that name each root once:
section by section, what the checks that passed say of the package, and what
they leave to it.
-/

namespace Mozetto.Watchtower

open Mozetto.Commitments
open Mozetto.EventStore
open Mozetto.Library.Guarded
open Mozetto.Library.MerkleTree
open Mozetto.Outbox (JsValue Runtime)

/-! ## Checks that pass -/

/-- Every check that was made has succeeded. -/
def Passing (checks : List CheckResult) : Prop :=
  ∀ check ∈ checks, check.skipped = false → check.ok = true

section Passing

variable {checks others : List CheckResult} {check : CheckResult}
variable {id passing failing : String} {ok : Bool}

theorem passing_append_iff : Passing (checks ++ others) ↔ Passing checks ∧ Passing others := by
  constructor
  · intro all
    exact ⟨fun check member => all check (List.mem_append_left _ member),
        fun check member => all check (List.mem_append_right _ member)⟩
  · rintro ⟨first, second⟩ check member
    rcases List.mem_append.mp member with left | right
    · exact first check left
    · exact second check right

theorem passing_cons_iff : Passing (check :: checks) ↔
    (check.skipped = false → check.ok = true) ∧ Passing checks := List.forall_mem_cons

theorem passing_checkOf_cons_iff : Passing (checkOf id ok passing failing :: checks) ↔
    ok = true ∧ Passing checks := by
  rw [passing_cons_iff]
  exact and_congr_left' ⟨fun made => made rfl, fun holds _ => holds⟩

/-- A report is verified only where every check that was made has passed. -/
theorem passing_of_verified {packageId : Option String} {pending : Pending}
    (verified : (summarizeChecks checks packageId pending).ok = true) :
    Passing checks := by
  have none : (checks.filter fun c => !c.ok && !c.skipped).length = 0 :=
    of_decide_eq_true (Bool.and_eq_true_iff.mp verified).1
  intro check member made
  have kept := List.filter_eq_nil_iff.mp (List.length_eq_zero_iff.mp none) check member
  rw [made] at kept
  cases passed : check.ok with
  | true => rfl
  | false =>
    rw [passed] at kept
    exact absurd rfl kept

end Passing

section Texts

variable {a b c : Hex}

theorem eqHex_iff : eqHex a b = true ↔ normalizeHex a = normalizeHex b := decide_eq_true_iff

@[simp]
theorem eqHex_normalizeHex_right : eqHex a (normalizeHex b) = eqHex a b := by
  rw [eqHex, normalizeHex_normalizeHex, eqHex]

theorem asHex_eq_ok_iff {text label : String} {hex : Hex} : asHex text label = .ok hex ↔
    ['0', 'x'].isPrefixOf text.toList = true ∧ hex = normalizeHex text := by
  rw [asHex]
  split
  case isTrue marked =>
    rw [Except.ok.injEq]
    exact ⟨fun same => ⟨marked, same.symm⟩, fun parts => parts.2.symm⟩
  case isFalse unmarked =>
    constructor
    · intro same
      cases same
    · intro parts
      exact absurd parts.1 unmarked

variable {package : HashPackage} {leaf : Hex} {proof : List MerkleProofStep}

@[simp]
theorem verifyMerkleProof_normalizeHex_leaf :
    verifyMerkleProof package (normalizeHex leaf) proof b =
      verifyMerkleProof package leaf proof b := by
  rw [verifyMerkleProof, normalizeHex_normalizeHex, verifyMerkleProof]

@[simp]
theorem verifyMerkleProof_normalizeHex_root :
    verifyMerkleProof package leaf proof (normalizeHex b) =
      verifyMerkleProof package leaf proof b := by
  rw [verifyMerkleProof, normalizeHex_normalizeHex, verifyMerkleProof]

/-- A proof leads to one root. -/
theorem verifyMerkleProof_iff_eqHex (accepted : verifyMerkleProof package leaf proof b = true) :
    verifyMerkleProof package leaf proof c = true ↔ eqHex b c = true := by
  rw [verifyMerkleProof, decide_eq_true_iff] at accepted ⊢
  rw [accepted, eqHex_iff]

end Texts

/-! ## Trees in lower case -/

/-- Hashes are written in lower case. -/
def LowerCaseHashes (package : HashPackage) : Prop :=
  ∀ input, normalizeHex (package.keccak256 input) = package.keccak256 input

section Trees

variable {package : HashPackage} {texts : List Hex}

/-- Every node above leaves in lower case is in lower case. -/
theorem normalizeHex_node (hashes : LowerCaseHashes package)
    (lower : ∀ text ∈ texts, normalizeHex text = text) (height place : Nat) : normalizeHex
      (node (parentText package) (padded ZERO32 texts) height place) =
    node (parentText package) (padded ZERO32 texts) height place := by
  cases height with
  | succ height => exact hashes _
  | zero =>
    rw [node, padded, List.getD_eq_getElem?_getD]
    cases found : texts[place]? with
    | none => exact normalizeHex_wordHex 0
    | some text => exact lower text (List.mem_of_getElem? found)

/-- The walk of the root builder is the walk of the tree. -/
theorem foldl_verifyStep_path (hashes : LowerCaseHashes package)
    (lower : ∀ text ∈ texts, normalizeHex text = text) (height place above : Nat) (start : Hex) :
    ((path (parentText package) (padded ZERO32 texts) height place above).map
          fun step => (⟨step.1, step.2⟩ : MerkleProofStep)).foldl (verifyStep package) start =
      climb (parentText package) start (path (parentText package) (padded ZERO32 texts) height place
          above) := by
  induction above generalizing height place start with
  | zero => rfl
  | succ above induction =>
    rw [path, List.map_cons, List.foldl_cons, climb, List.foldl_cons, ← climb, ← induction]
    congr 1
    rw [verifyStep, normalizeHex_node hashes lower]
    by_cases side : place ^^^ 1 < place
    · rw [ascend, oriented]
      simp only [side, decide_true, if_true]
      exact hashes _
    · rw [ascend, oriented]
      simp only [side, decide_false, Bool.false_eq_true, if_false]
      exact hashes _

/-- The proof of a leaf leads to the root and nowhere else. -/
theorem verifyMerkleProof_proofForIndex (hashes : LowerCaseHashes package)
    (lower : ∀ text ∈ texts, normalizeHex text = text)
    {index : Nat} {leaf root : Hex} (found : texts[index]? = some leaf) :
    verifyMerkleProof package leaf (proofForIndex package texts index) root =
      eqHex (merkleRoot package texts).root root := by
  have inside : index < texts.length := (List.getElem?_eq_some_iff.mp found).1
  have start : leaf = node (parentText package) (padded ZERO32 texts) 0 index := by
    rw [node, padded, List.getD_eq_getElem?_getD, found, Option.getD_some]
  have below : index < 2 ^ depth texts.length :=
    lt_of_lt_of_le inside (length_le_two_pow_depth texts.length)
  rw [verifyMerkleProof, proofForIndex, merkleProof_eq_path package texts inside,
    foldl_verifyStep_path hashes lower,
    lower leaf (List.mem_of_getElem? found), start, climb_path, Nat.zero_add,
    Nat.div_eq_of_lt below, eqHex, root_merkleRoot, normalizeHex_node hashes lower]

end Trees

/-! ## The claimed batch -/

section Batch

variable {viem : Viem} {runtime : Runtime} {batch : PublicBatch}
variable {checkPrefix : String} {checks : List CheckResult}

theorem mapM_asHex_eq_ok {label : String} {texts hexes : List Hex}
    (read : texts.mapM (asHex · label) = .ok hexes) : hexes = texts.map normalizeHex := by
  induction texts generalizing hexes with
  | nil =>
    cases read
    rfl
  | cons text rest induction =>
    rw [List.mapM_cons] at read
    rcases bind_eq_ok_iff.mp read with ⟨hex, first, read⟩
    rcases bind_eq_ok_iff.mp read with ⟨others, remaining, same⟩
    cases same
    rw [(asHex_eq_ok_iff.mp first).2, induction remaining, List.map_cons]

/-- A leaf that was read has its root in lower case. -/
theorem lower_of_mapM_leaves {items : List PublicCheckpointLeaf} {leaves : List CheckpointLeaf}
    (read : (items.mapM fun c => do
        let sessionId ← asHex c.sessionId "sessionId"
        let checkpointId ← asBigInt runtime c.checkpointId
        let checkpointRoot ← asHex c.checkpointRoot "checkpointRoot"
        return (⟨sessionId, checkpointId, checkpointRoot⟩ : CheckpointLeaf)) = .ok leaves) :
    leaves.length = items.length ∧ ∀ leaf ∈ leaves,
        normalizeHex leaf.checkpointRoot = leaf.checkpointRoot := by
  induction items generalizing leaves with
  | nil =>
    cases read
    exact ⟨rfl, fun _ none => nomatch none⟩
  | cons item rest induction =>
    rw [List.mapM_cons] at read
    rcases bind_eq_ok_iff.mp read with ⟨leaf, first, read⟩
    rcases bind_eq_ok_iff.mp read with ⟨others, remaining, same⟩
    cases same
    rcases induction remaining with ⟨length, lower⟩
    constructor
    · rw [List.length_cons, List.length_cons, length]
    · rcases bind_eq_ok_iff.mp first with ⟨sessionId, _, first⟩
      rcases bind_eq_ok_iff.mp first with ⟨checkpointId, _, first⟩
      rcases bind_eq_ok_iff.mp first with ⟨root, readRoot, same⟩
      cases same
      intro leaf member
      rcases List.mem_cons.mp member with rfl | member
      · show normalizeHex root = root
        rw [(asHex_eq_ok_iff.mp readRoot).2, normalizeHex_normalizeHex]
      · exact lower leaf member

/-- The checkpoints of a batch in order, with roots in lower case. -/
theorem sortedCheckpoints_eq_ok {leaves : List CheckpointLeaf}
    (read : sortedCheckpoints runtime batch = .ok leaves) :
    (listed batch.checkpoints ≠ [] → leaves ≠ []) ∧
      ∀ root ∈ leaves.map (·.checkpointRoot), normalizeHex root = root := by
  rcases bind_eq_ok_iff.mp read with ⟨unsorted, readLeaves, same⟩
  cases same
  rcases lower_of_mapM_leaves readLeaves with ⟨length, lower⟩
  have sorted := List.perm_insertionSort (fun x y : CheckpointLeaf => x.notAfter y = true) unsorted
  constructor
  · intro some none
    have empty : unsorted = [] := List.perm_nil.mp (none ▸ sorted.symm)
    rw [empty] at length
    exact some (List.length_eq_zero_iff.mp length.symm)
  · intro root member
    rcases List.mem_map.mp member with ⟨leaf, leafMember, rfl⟩
    exact lower leaf (sorted.mem_iff.mp leafMember)

/-- Where a batch lists its roots, and how they are read. -/
theorem checkpointRoots_cases {roots : Option (List Hex)}
    (read : checkpointRootsFromPackage runtime batch = .ok roots) :
    (listed batch.checkpointRoots ≠ [] ∧
        roots = some ((listed batch.checkpointRoots).map normalizeHex)) ∨
      (listed batch.checkpointRoots = [] ∧ listed batch.checkpoints ≠ [] ∧ ∃ leaves,
          sortedCheckpoints runtime batch = .ok leaves ∧
            roots = some (leaves.map (·.checkpointRoot))) ∨
        listed batch.checkpointRoots = [] ∧ listed batch.checkpoints = [] ∧ roots = none := by
  rw [checkpointRootsFromPackage] at read
  split at read
  case isTrue given =>
    rcases bind_eq_ok_iff.mp read with ⟨hexes, readHexes, same⟩
    cases same
    exact Or.inl ⟨given, congrArg some (mapM_asHex_eq_ok readHexes)⟩
  case isFalse none =>
    have none := not_not.mp none
    split at read
    case isTrue given =>
      rcases bind_eq_ok_iff.mp read with ⟨leaves, readLeaves, same⟩
      cases same
      exact Or.inr (Or.inl ⟨none, given, leaves, readLeaves, rfl⟩)
    case isFalse empty =>
      cases read
      exact Or.inr (Or.inr ⟨none, not_not.mp empty, rfl⟩)

/-- What the checks of a claimed batch consist of. -/
structure BatchRun (viem : Viem) (runtime : Runtime) (batch : PublicBatch)
    (checkPrefix : String) (checks : List CheckResult) where
  fields : BatchFields
  roots : Option (List Hex)
  rebuilt : List CheckResult
  globalRoot : fields.claimedGlobal = normalizeHex batch.globalRoot
  readRoots : checkpointRootsFromPackage runtime batch = .ok roots
  ran : rebuiltChecks viem runtime batch checkPrefix fields roots = .ok rebuilt
  checks_eq : checks = genesisPrevCheck checkPrefix fields.sequence fields.previousBatchRoot ++
        nonZeroGlobalRootCheck checkPrefix fields.claimedGlobal :: rebuilt

theorem exists_batchRun
    (ran : verifyProofBatchClaim viem runtime batch checkPrefix = .ok checks) :
    Nonempty (BatchRun viem runtime batch checkPrefix checks) := by
  rcases bind_eq_ok_iff.mp ran with ⟨fields, readFields, ran⟩
  rcases bind_eq_ok_iff.mp ran with ⟨roots, readRoots, ran⟩
  rcases bind_eq_ok_iff.mp ran with ⟨rebuilt, ranChecks, same⟩
  cases same
  rcases bind_eq_ok_iff.mp readFields with ⟨sequence, _, readFields⟩
  rcases bind_eq_ok_iff.mp readFields with ⟨previous, _, readFields⟩
  rcases bind_eq_ok_iff.mp readFields with ⟨globalRoot, read, readFields⟩
  rcases bind_eq_ok_iff.mp readFields with ⟨manifest, _, readFields⟩
  rcases bind_eq_ok_iff.mp readFields with ⟨createdAt, _, same⟩
  cases same
  exact ⟨⟨_, roots, rebuilt, (asHex_eq_ok_iff.mp read).2, readRoots, ranChecks, rfl⟩⟩

/-- With roots listed, they are rebuilt and the proofs are checked. -/
theorem rebuiltChecks_some {fields : BatchFields} {roots : List Hex}
    (ran : rebuiltChecks viem runtime batch checkPrefix fields (some roots) = .ok checks) :
    ∃ hashCheck inclusions, (∃ rebuilt,
          proofBatchHashCheck checkPrefix rebuilt batch.proofBatchHash = .ok hashCheck) ∧
        verifyInclusions viem runtime batch checkPrefix fields.claimedGlobal = .ok inclusions ∧
          checks = globalRootCheck checkPrefix (buildGlobalProofBatchRoot viem roots)
                fields.claimedGlobal :: hashCheck :: inclusions := by
  rcases bind_eq_ok_iff.mp ran with ⟨rebuilt, _, ran⟩
  rcases bind_eq_ok_iff.mp ran with ⟨hashCheck, readHash, ran⟩
  rcases bind_eq_ok_iff.mp ran with ⟨inclusions, included, same⟩
  cases same
  exact ⟨hashCheck, inclusions, ⟨rebuilt, readHash⟩, included, rfl⟩

/-- Inclusion proofs are checked under the roots that they name. -/
theorem inclusionChecks_passing {claims : List (PublicInclusionClaim × Nat)}
    (ran : inclusionChecks viem checkPrefix claims = .ok checks) (passed : Passing checks) :
    ∀ claim ∈ claims, verifyMerkleProof viem.toHashPackage claim.1.checkpointRoot
        claim.1.proof claim.1.globalRoot = true := by
  induction claims generalizing checks with
  | nil => exact fun _ none => nomatch none
  | cons first rest induction =>
    rcases bind_eq_ok_iff.mp ran with ⟨ok, verified, ran⟩
    rcases bind_eq_ok_iff.mp ran with ⟨others, remaining, same⟩
    cases same
    rcases passing_checkOf_cons_iff.mp passed with ⟨rfl, othersPassed⟩
    intro claim member
    rcases List.mem_cons.mp member with rfl | member
    · rcases bind_eq_ok_iff.mp verified with ⟨leaf, readLeaf, verified⟩
      rcases bind_eq_ok_iff.mp verified with ⟨root, readRoot, same⟩
      have accepted := Except.ok.inj same
      rw [(asHex_eq_ok_iff.mp readLeaf).2, (asHex_eq_ok_iff.mp readRoot).2,
        verifyMerkleProof_normalizeHex_leaf, verifyMerkleProof_normalizeHex_root] at accepted
      exact accepted
    · exact induction remaining othersPassed claim member

/-- Proofs that are built from the checkpoints lead to their root. -/
theorem selfInclusionChecks_passing {ordered : List Hex} {claimedGlobal : Hex}
    (hashes : LowerCaseHashes viem.toHashPackage)
    (lower : ∀ root ∈ ordered, normalizeHex root = root) (some : ordered ≠ [])
    (passed : Passing (selfInclusionChecks viem checkPrefix ordered claimedGlobal)) :
    eqHex (buildGlobalProofBatchRoot viem ordered) claimedGlobal = true := by
  rcases List.exists_cons_of_ne_nil some with ⟨first, rest, rfl⟩
  rw [selfInclusionChecks, List.mapIdx_cons] at passed
  have accepted := (passing_checkOf_cons_iff.mp passed).1
  rw [verifyMerkleProof_proofForIndex hashes lower rfl] at accepted
  exact accepted

/-- What the checks that passed say of the roots of a batch. -/
theorem BatchRun.roots_sound (run : BatchRun viem runtime batch checkPrefix checks)
    (passed : Passing checks) {roots : List Hex} (given : run.roots = some roots) :
    eqHex (buildGlobalProofBatchRoot viem roots) batch.globalRoot = true ∧ ∃ inclusions,
        verifyInclusions viem runtime batch checkPrefix
            (normalizeHex batch.globalRoot) = .ok inclusions ∧
          Passing inclusions := by
  have ran := run.ran
  rw [given] at ran
  rcases rebuiltChecks_some ran with ⟨hashCheck, inclusions, _, included, rebuilt⟩
  rw [run.checks_eq, rebuilt] at passed
  have passed := (passing_append_iff.mp passed).2
  have passed := (passing_cons_iff.mp passed).2
  rcases passing_checkOf_cons_iff.mp passed with ⟨rebuiltRoot, passed⟩
  rw [run.globalRoot, eqHex_normalizeHex_right] at rebuiltRoot
  rw [run.globalRoot] at included
  exact ⟨rebuiltRoot, inclusions, included, (passing_cons_iff.mp passed).2⟩

/-- Where a batch lists roots, they are read. -/
theorem BatchRun.exists_roots (run : BatchRun viem runtime batch checkPrefix checks)
    (given : listed batch.checkpointRoots ≠ [] ∨ listed batch.checkpoints ≠ []) :
    ∃ roots, run.roots = some roots := by
  rcases checkpointRoots_cases run.readRoots with
    ⟨_, read⟩ | ⟨_, _, leaves, _, read⟩ | ⟨none, empty, _⟩
  · exact ⟨_, read⟩
  · exact ⟨_, read⟩
  · rcases given with some | some
    · exact absurd none some
    · exact absurd empty some

/-- The inclusion proofs of a batch that lists roots lead to their roots. -/
theorem BatchRun.inclusions_own (run : BatchRun viem runtime batch checkPrefix checks)
    (passed : Passing checks)
    (given : listed batch.checkpointRoots ≠ [] ∨ listed batch.checkpoints ≠ []) :
    ∀ claim ∈ listed batch.inclusionProofs,
      verifyMerkleProof viem.toHashPackage claim.checkpointRoot claim.proof
        claim.globalRoot = true := by
  rcases run.exists_roots given with ⟨roots, read⟩
  rcases run.roots_sound passed read with ⟨_, inclusions, included, passed⟩
  intro claim member
  rw [verifyInclusions, if_pos (List.ne_nil_of_mem member)] at included
  rcases List.getElem_of_mem member with ⟨place, inside, rfl⟩
  exact inclusionChecks_passing included passed (_, place) (List.mk_mem_zipIdx_iff_getElem?.mpr
      (List.getElem?_eq_getElem inside))

/-- The checks that passed make a batch without contradictions sound. -/
theorem BatchRun.sound (hashes : LowerCaseHashes viem.toHashPackage)
    (run : BatchRun viem runtime batch checkPrefix checks)
    (passed : Passing checks) (plain : BatchPlain batch) : BatchSound viem runtime batch where
  inclusions := by
    intro claim member
    have given := plain.rootsListed (Or.inl (List.ne_nil_of_mem member))
    have own := run.inclusions_own passed given claim member
    exact (verifyMerkleProof_iff_eqHex own).mpr (plain.ownRoot claim member)
  checkpointRoots := by
    intro given
    rcases checkpointRoots_cases run.readRoots with ⟨_, read⟩ | ⟨none, _⟩ | ⟨none, _⟩
    · exact (run.roots_sound passed read).1
    · exact absurd none given
    · exact absurd none given
  checkpoints := by
    intro given
    rcases checkpointRoots_cases run.readRoots with
      ⟨also, read⟩ | ⟨_, _, leaves, readLeaves, read⟩ | ⟨_, none, _⟩
    · rcases run.roots_sound passed read with ⟨_, inclusions, included, passed⟩
      rw [verifyInclusions, if_neg (not_not.mpr (plain.oneList also given)),
        if_pos given] at included
      rcases bind_eq_ok_iff.mp included with ⟨leaves, readLeaves, same⟩
      cases same
      rcases sortedCheckpoints_eq_ok readLeaves with ⟨nonempty, lower⟩
      have rebuilt := selfInclusionChecks_passing hashes lower
        (fun none => nonempty given (List.map_eq_nil_iff.mp none)) passed
      rw [eqHex_normalizeHex_right] at rebuilt
      exact ⟨leaves, readLeaves, rebuilt⟩
    · exact ⟨leaves, readLeaves, (run.roots_sound passed read).1⟩
    · exact absurd none given

end Batch

end Mozetto.Watchtower
