import Mozetto.Chain.Basic
import Mozetto.EventStore.EventHashChain
import Mozetto.Chain.ArenaVaultV2
import Mozetto.Library.MerkleTree

/-!
# Texts and bytes of 32-byte words

The TypeScript packages handle 32-byte words as hexadecimal texts, in either
case; the contracts and the Rust crates handle the words and hash their bytes.
-/

namespace Mozetto.Commitments

open Mozetto.Chain
open Mozetto.EventStore
open Mozetto.Library.HexText

/-! ## Texts -/

/-- A text of 64 digits after `0x` that writes a word. -/
structure TextOf (text : Hex) (word : Nat) : Prop where
  fits : word < 2 ^ 256
  marked : ['0', 'x'].isPrefixOf text.toList = true
  digits : normalizeHex text = wordHex word

instance (text : Hex) (word : Nat) : Decidable (TextOf text word) :=
  decidable_of_iff (word < 2 ^ 256 ∧ ['0', 'x'].isPrefixOf text.toList = true ∧
      normalizeHex text = wordHex word) ⟨fun parts => ⟨parts.1, parts.2.1, parts.2.2⟩,
      fun written => ⟨written.fits, written.marked, written.digits⟩⟩

theorem wordHex_injective : Function.Injective wordHex := by
  intro word other equal
  have lists := congrArg String.toList equal
  rw [toList_wordHex, toList_wordHex] at lists
  exact padded_injective (List.cons.inj (List.cons.inj lists).2).2

@[simp]
theorem normalizeHex_wordHex (word : Nat) : normalizeHex (wordHex word) = wordHex word := by
  apply String.toList_injective
  rw [normalizeHex, String.toLower, String.toList_map, toList_wordHex, List.map_cons, List.map_cons]
  have digits : (padded 64 word).map Char.toLower = padded 64 word := by
    have kept : (padded 64 word).map Char.toLower = (padded 64 word).map id :=
      List.map_congr_left fun digit member => toLower_of_mem_padded member
    rwa [List.map_id] at kept
  rw [digits]
  rfl

theorem textOf_wordHex {word : Nat} (fits : word < 2 ^ 256) : TextOf (wordHex word) word where
  fits := fits
  marked := by
    rw [toList_wordHex]
    rfl
  digits := normalizeHex_wordHex word

/-- Every list of words is written by texts. -/
theorem textOf_map_wordHex {words : List Nat} (fits : ∀ word ∈ words, word < 2 ^ 256) :
    List.Forall₂ TextOf (words.map wordHex) words := by
  rw [List.forall₂_map_left_iff, List.forall₂_same]
  exact fun word member => textOf_wordHex (fits word member)

variable {text other : Hex} {word word' : Nat}

theorem TextOf.normalizeHex (written : TextOf text word) :
    TextOf (EventStore.normalizeHex text) word := by
  rw [written.digits]
  exact textOf_wordHex written.fits

/-- Texts are the same up to case exactly when they write the same word. -/
theorem TextOf.same_iff (written : TextOf text word) (written' : TextOf other word') :
    EventStore.normalizeHex text = EventStore.normalizeHex other ↔ word = word' := by
  rw [written.digits, written'.digits]
  exact wordHex_injective.eq_iff

theorem TextOf.unique (written : TextOf text word) (written' : TextOf text word') : word = word' :=
  (written.same_iff written').mp rfl

/-- The digits of a text in lower case. -/
theorem TextOf.lowered (written : TextOf text word) :
    (text.toList.drop 2).map Char.toLower = padded 64 word := by
  have lists := congrArg String.toList written.digits
  rw [EventStore.normalizeHex, String.toLower, String.toList_map, toList_wordHex] at lists
  rw [List.map_drop, lists]
  rfl

/-- The number that the digits of a text write. -/
def textValue (text : Hex) : Nat := hexValue ((text.toList.drop 2).map Char.toLower)

theorem TextOf.textValue_eq (written : TextOf text word) : textValue text = word := by
  rw [textValue, written.lowered, hexValue_padded]

/-- The word that a text writes, if it is one. -/
def readWord (text : Hex) : Option Nat :=
  if TextOf text (textValue text) then some (textValue text) else none

theorem readWord_eq_some_iff : readWord text = some word ↔ TextOf text word := by
  rw [readWord]
  constructor
  · intro read
    split at read
    case isTrue written =>
      cases read
      exact written
    case isFalse => cases read
  · intro written
    rw [written.textValue_eq, if_pos written]

/-! ## Bytes -/

/-- The number that bytes write, the first byte being the highest. -/
def byteValue (bytes : Bytes) : Nat := bytes.foldl (fun value byte => value * 256 + byte) 0

theorem bytesOf_succ (width value : Nat) :
    bytesOf (width + 1) value = bytesOf width (value / 256) ++ [value % 256] := by
  simp [bytesOf, List.range_succ_eq_map, Function.comp_def, Nat.pow_succ', Nat.div_div_eq_div_mul]

/-- The high bytes of a value and its low bytes. -/
theorem bytesOf_add (width low value : Nat) : bytesOf (width + low) value =
    bytesOf width (value / 256 ^ low) ++ bytesOf low value := by
  induction low generalizing value with
  | zero => simp [bytesOf]
  | succ low induction =>
    rw [← Nat.add_assoc, bytesOf_succ, induction, bytesOf_succ,
      List.append_assoc, Nat.div_div_eq_div_mul, ← Nat.pow_succ']

/-- The low bytes do not depend on what stands above them. -/
theorem bytesOf_add_mul (width value high : Nat) :
    bytesOf width (high * 256 ^ width + value) = bytesOf width value := by
  induction width generalizing value with
  | zero => rfl
  | succ width induction =>
    have above : (high * 256 ^ (width + 1) + value) / 256 = high * 256 ^ width + value / 256 := by
      rw [Nat.pow_succ, ← Nat.mul_assoc]
      omega
    have last : (high * 256 ^ (width + 1) + value) % 256 = value % 256 := by
      rw [Nat.pow_succ, ← Nat.mul_assoc]
      omega
    rw [bytesOf_succ, above, last, induction, ← bytesOf_succ]

@[simp]
theorem length_bytesOf (width value : Nat) : (bytesOf width value).length = width := by
  simp [bytesOf]

/-- Reading the bytes of a value that fits gives the value. -/
theorem byteValue_append_bytesOf {width value : Nat} (bytes : Bytes) (fits : value < 256 ^ width) :
    byteValue (bytes ++ bytesOf width value) = byteValue bytes * 256 ^ width + value := by
  induction width generalizing value with
  | zero =>
    rw [Nat.pow_zero, Nat.lt_one_iff] at fits
    simp [bytesOf, fits]
  | succ width induction =>
    have high : value / 256 < 256 ^ width := Nat.div_lt_of_lt_mul (by rwa [← Nat.pow_succ'])
    have earlier := induction high
    rw [byteValue] at earlier
    rw [bytesOf_succ, ← List.append_assoc, byteValue, List.foldl_append,
      earlier, List.foldl_cons, List.foldl_nil, Nat.pow_succ, ← Nat.mul_assoc]
    omega

theorem bytesOf_injective {width value value' : Nat}
    (fits : value < 256 ^ width) (fits' : value' < 256 ^ width)
    (equal : bytesOf width value = bytesOf width value') : value = value' := by
  have read := byteValue_append_bytesOf [] fits
  have read' := byteValue_append_bytesOf [] fits'
  rw [equal] at read
  exact Nat.add_left_cancel (read.symm.trans read')

theorem lt_bytes_of_word (fits : word < 2 ^ 256) : word < 256 ^ 32 := fits.trans_eq (by norm_num)

/-- Two words can be told from their bytes, one after the other. -/
theorem word_pair_injective {left left' right right' : Nat}
    (fits : left < 2 ^ 256) (fits' : left' < 2 ^ 256)
    (fitsRight : right < 2 ^ 256) (fitsRight' : right' < 2 ^ 256)
    (equal : bytesOf 32 left ++ bytesOf 32 right = bytesOf 32 left' ++ bytesOf 32 right') :
    left = left' ∧ right = right' := by
  rcases List.append_inj equal (by simp) with ⟨lefts, rights⟩
  exact ⟨bytesOf_injective (lt_bytes_of_word fits) (lt_bytes_of_word fits') lefts,
      bytesOf_injective (lt_bytes_of_word fitsRight) (lt_bytes_of_word fitsRight') rights⟩

/-- Words can be told from their encoding. -/
theorem abiEncode_injective {words words' : List Nat} (fits : ∀ word ∈ words, word < 2 ^ 256)
    (fits' : ∀ word ∈ words', word < 2 ^ 256) (equal : abiEncode words = abiEncode words') :
    words = words' := by
  have lengths := congrArg List.length equal
  simp only [abiEncode, List.length_flatMap, length_bytesOf,
    List.map_const', List.sum_replicate, smul_eq_mul] at lengths
  induction words generalizing words' with
  | nil =>
    cases words' with
    | nil => rfl
    | cons word' rest' =>
      rw [List.length_nil, List.length_cons] at lengths
      omega
  | cons word rest induction =>
    cases words' with
    | nil =>
      rw [List.length_nil, List.length_cons] at lengths
      omega
    | cons word' rest' =>
      rw [List.forall_mem_cons] at fits fits'
      rcases List.append_inj equal (by simp) with ⟨first, others⟩
      have heads :=
        bytesOf_injective (lt_bytes_of_word fits.1) (lt_bytes_of_word fits'.1) first
      have tails :=
        induction fits.2 fits'.2 others
          (by rw [List.length_cons, List.length_cons] at lengths; omega)
      rw [heads, tails]

end Mozetto.Commitments

/-!
## The Merkle roots of the packages and the contracts

`merkleRoot` and `merkleProof` of the protocol vectors, `verifyMerkleProof`
of the root builder, `merkle_root` of the Rust crate, and the root and proof
checks of the contracts.  Each root is the root of the complete tree over the
leaves filled up with zeros.  Concatenation and `keccak256` of the package
`viem` are parameters.  Arrays stay so short that the 32-bit operators on
their lengths and indices are those of the numbers.
-/

namespace Mozetto.Commitments

open Mozetto.Chain
open Mozetto.EventStore
open Mozetto.Library.MerkleTree

/-! ### Padding -/

/-- Push a filler while the length is not a power of two. -/
def pushZeros {Node : Type} (zero : Node) : Nat → List Node → List Node
  | 0, level => level
  | fuel + 1, level =>
    if level.length &&& (level.length - 1) ≠ 0 then
      pushZeros zero fuel (level ++ [zero])
    else level

section Padding

variable {Node : Type} {zero : Node} {level leaves : List Node}

/-- Short of the next power of two no length is one. -/
theorem and_pred_ne_zero_iff {count : Nat} (positive : 0 < count) :
    count &&& (count - 1) ≠ 0 ↔ count < 2 ^ depth count := by
  rw [ne_eq, Nat.and_sub_one_eq_zero_iff_isPowerOfTwo positive.ne']
  constructor
  · intro notPower
    exact lt_of_le_of_ne (length_le_two_pow_depth count) fun equal => notPower ⟨depth count, equal⟩
  · rintro short ⟨exponent, rfl⟩
    rw [depth, Nat.clog_pow 2 exponent Nat.one_lt_two] at short
    exact absurd short (lt_irrefl _)

theorem depth_succ {count : Nat} (short : count < 2 ^ depth count) :
    depth (count + 1) = depth count := by
  apply le_antisymm
  · exact Nat.clog_le_of_le_pow short
  · exact Nat.clog_mono_right 2 (Nat.le_succ count)

/-- The loop ends at the next power of two. -/
theorem pushZeros_eq {fuel : Nat} (nonempty : 0 < level.length)
    (enough : 2 ^ depth level.length - level.length ≤ fuel) : pushZeros zero fuel level = level ++
      List.replicate (2 ^ depth level.length - level.length) zero := by
  induction fuel generalizing level with
  | zero =>
    rw [Nat.le_zero.mp enough, List.replicate_zero, List.append_nil]
    rfl
  | succ fuel induction =>
    have bound := length_le_two_pow_depth level.length
    by_cases short : level.length < 2 ^ depth level.length
    · have longer : (level ++ [zero]).length = level.length + 1 := by
        simp
      have same := depth_succ short
      have rest : 2 ^ depth level.length - level.length =
          2 ^ depth level.length - (level.length + 1) + 1 := by
        omega
      rw [pushZeros, if_pos ((and_pred_ne_zero_iff nonempty).mpr short),
        induction (by omega) (by rw [longer, same]; omega), longer, same,
        rest, List.replicate_succ, List.append_assoc, List.singleton_append]
    · rw [pushZeros, if_neg fun power =>
          short ((and_pred_ne_zero_iff nonempty).mp power),
        show 2 ^ depth level.length - level.length = 0 by omega,
        List.replicate_zero, List.append_nil]

theorem two_pow_depth_le_double {count : Nat} (positive : 0 < count) :
    2 ^ depth count ≤ 2 * count := by
  rcases Nat.lt_or_ge 1 count with many | one
  · have below := Nat.pow_pred_clog_lt_self Nat.one_lt_two many
    have higher : 0 < depth count := Nat.clog_pos Nat.one_lt_two many
    rw [← Nat.succ_pred_eq_of_pos higher, Nat.pow_succ']
    exact Nat.mul_le_mul_left 2 below.le
  · rw [show count = 1 by omega]
    decide

/-- The pushed leaves are the bottom of the tree. -/
theorem pushZeros_leaves (pair : Node → Node → Node) (nonempty : 0 < leaves.length) :
    pushZeros zero leaves.length leaves = Library.MerkleTree.level pair (padded zero leaves) 0
        (2 ^ depth leaves.length) := by
  have double := two_pow_depth_le_double nonempty
  rw [pushZeros_eq nonempty (by omega)]
  exact append_replicate_eq_level pair (length_le_two_pow_depth leaves.length)

end Padding

/-! ### The protocol vectors in TypeScript -/

/-- The functions of `viem` that the trees use. -/
structure HashPackage where
  concat : List Hex → Hex
  keccak256 : Hex → Hex

def ZERO32 : Hex := wordHex 0

structure MerkleRoot where
  root : Hex
  layers : List (List Hex)

/-- A proof step; `isLeft` when the sibling is the left child. -/
structure MerkleProofStep where
  sibling : Hex
  isLeft : Bool
deriving DecidableEq, Repr

section Packages

variable (package : HashPackage)

def parentText (left right : Hex) : Hex := package.keccak256 (package.concat [left, right])

def merkleRoot (leaves : List Hex) : MerkleRoot :=
  if leaves.length = 0 then { root := ZERO32, layers := [[ZERO32]] }
  else
    let level := pushZeros ZERO32 leaves.length leaves
    let layers := levels (parentText package) level.length level
    { root := (layers.getLastD []).headD ZERO32, layers := layers }

/-- The steps on the layers below the last; a sibling that is not there is
the empty text. -/
def proofSteps : List (List Hex) → Nat → List MerkleProofStep
  | layer :: next :: rest, idx =>
    let sibling := idx ^^^ 1
    { sibling := layer.getD sibling "", isLeft := sibling < idx } ::
      proofSteps (next :: rest) (idx / 2)
  | _, _ => []

def merkleProof (leaves : List Hex) (index : Nat) : List MerkleProofStep :=
  proofSteps (merkleRoot package leaves).layers index

/-! ### The root builder -/

def verifyStep (h : Hex) (step : MerkleProofStep) : Hex :=
  let sibling := normalizeHex step.sibling
  normalizeHex (if step.isLeft then package.keccak256 (package.concat [sibling, h])
    else package.keccak256 (package.concat [h, sibling]))

def verifyMerkleProof (leaf : Hex) (proof : List MerkleProofStep) (expectedRoot : Hex) : Bool :=
  proof.foldl (verifyStep package) (normalizeHex leaf) = normalizeHex expectedRoot

def proofForIndex (leaves : List Hex) (index : Nat) : List MerkleProofStep :=
  merkleProof package leaves index

end Packages

/-! ### The protocol vectors in Rust -/

section Words

variable (keccak256 : Bytes → Bytes32)

/-- The hash of two words, one after the other. -/
def parentWord (left right : Bytes32) : Bytes32 := keccak256 (bytesOf 32 left ++ bytesOf 32 right)

def merkle_root (leaves : List Bytes32) : Bytes32 :=
  if leaves.isEmpty then 0
  else
    let level := pushZeros 0 leaves.length leaves
    (halved (parentWord keccak256) level.length level).headD 0

/-! ### The contracts -/

/-- `ProofBatchRegistryV1.computeGlobalRoot`. -/
def computeGlobalRoot (checkpointRoots : List Bytes32) : Bytes32 :=
  let n := checkpointRoots.length
  if n = 0 then 0
  else
    let size := ArenaVaultV2.paddedSize n n 1
    (halved (parentWord keccak256) size (checkpointRoots ++ List.replicate (size - n) 0)).headD 0

/-- The walk of `_verifyOrderedMerkleProof`; reading a side that is not there
is a panic. -/
def walkOrderedProof : Bytes32 → List Bytes32 → List Bool → Option Bytes32
  | computed, [], _ => some computed
  | computed, sibling :: proof, left :: siblingIsLeft =>
    walkOrderedProof (if left then parentWord keccak256 sibling computed
      else parentWord keccak256 computed sibling)
      proof siblingIsLeft
  | _, _ :: _, [] => none

/-- `_verifyOrderedMerkleProof` for arrays of any two lengths. -/
def orderedProofAccepted (leaf root : Bytes32) (proof : List Bytes32)
    (siblingIsLeft : List Bool) : Bool :=
  walkOrderedProof keccak256 leaf proof siblingIsLeft = some root

end Words

end Mozetto.Commitments

/-!
## Trees of words

`merkleRoot`, `merkleProof` and `verifyMerkleProof` on words, for any hash of
two words.  A proof of an index leads from its leaf to the root.
-/

namespace Mozetto.Commitments.WordTree

open Mozetto.Chain
open Mozetto.Library.MerkleTree

variable (pair : Bytes32 → Bytes32 → Bytes32) (leaves : List Bytes32)

def merkleLayers : List (List Bytes32) :=
  if leaves.length = 0 then [[0]]
  else
    let level := pushZeros 0 leaves.length leaves
    levels pair level.length level

def merkleRoot : Bytes32 := ((merkleLayers pair leaves).getLastD []).headD 0

/-- The siblings of an index; the side is that of the sibling. -/
def merkleProof (index : Nat) : List (Bytes32 × Bool) := siblings 0 (merkleLayers pair leaves) index

def verifyMerkleProof (leaf : Bytes32) (proof : List (Bytes32 × Bool))
    (expectedRoot : Bytes32) : Bool := climb pair leaf proof = expectedRoot

variable {pair leaves}

theorem merkleLayers_eq : merkleLayers pair leaves =
    tower pair (padded 0 leaves) 0 (depth leaves.length) := by
  rw [merkleLayers]
  split
  case isTrue empty =>
    rw [List.eq_nil_of_length_eq_zero empty]
    rfl
  case isFalse nonempty =>
    have positive := Nat.pos_of_ne_zero nonempty
    simp only [pushZeros_leaves pair positive, length_level]
    exact levels_level _ _ Nat.lt_two_pow_self.le

theorem merkleRoot_eq : merkleRoot pair leaves =
    node pair (padded 0 leaves) (depth leaves.length) 0 := by
  rw [merkleRoot, merkleLayers_eq, List.getLastD_eq_getLast?, getLast?_tower, Nat.zero_add]
  rfl

/-- The proof of an index leads from its leaf to the root. -/
theorem verifyMerkleProof_merkleProof
    {index : Nat} {leaf : Bytes32} (given : leaves[index]? = some leaf) :
    verifyMerkleProof pair leaf (merkleProof pair leaves index) (merkleRoot pair leaves) =
      true := by
  have inside : index < leaves.length := (List.getElem?_eq_some_iff.mp given).1
  have below : index < 2 ^ depth leaves.length :=
    lt_of_lt_of_le inside (length_le_two_pow_depth leaves.length)
  have start : leaf = node pair (padded 0 leaves) 0 index := by
    rw [node, padded, List.getD_eq_getElem?_getD, given, Option.getD_some]
  rw [verifyMerkleProof, decide_eq_true_iff, merkleProof, merkleLayers_eq,
    siblings_tower _ _ _ below, start, climb_path, Nat.zero_add,
    Nat.div_eq_of_lt below, merkleRoot_eq]

end Mozetto.Commitments.WordTree
