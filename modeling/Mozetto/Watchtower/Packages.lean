import Mozetto.Commitments.Merkle
import Mozetto.Outbox.Schema
import Mozetto.Replay.Attestations

/-!
# Public packages

What a public package claims, as the watchtower reads it, and the roots and
hashes that it rebuilds.  Hashing, ABI encoding and the checksum of addresses
are those of the package `viem`; the suite of golden vectors and the check of
a card opening are those of the randomness verifier.
-/

namespace Mozetto.Watchtower

open Mozetto.Commitments
open Mozetto.EventStore
open Mozetto.Outbox (JsNumber JsValue Runtime)

/-- `bigint | string | number`. -/
inductive BigIntish where
  | bigint (value : Int)
  | string (value : String)
  | number (value : JsNumber)

/-- A checkpoint that a batch lists. -/
structure PublicCheckpointLeaf where
  sessionId : Hex
  checkpointId : BigIntish
  checkpointRoot : Hex

structure PublicInclusionClaim where
  checkpointRoot : Hex
  proof : List MerkleProofStep
  globalRoot : Hex

/-- A batch of the chain of batches. -/
structure PublicBatchEntry where
  sequence : BigIntish
  previousBatchRoot : Hex
  globalRoot : Hex
  dataManifestHash : Hex
  createdAt : BigIntish
  proofBatchHash : Option Hex
  checkpointRoots : Option (List Hex)

/-- The batch that a package claims. -/
structure PublicBatch extends PublicBatchEntry where
  checkpoints : Option (List PublicCheckpointLeaf)
  inclusionProofs : Option (List PublicInclusionClaim)

structure PublicBalanceLeaf where
  sessionId : Hex
  epoch : BigIntish
  arenaAccount : String
  seat : JsNumber
  openingBalance : BigIntish
  currentBalance : BigIntish
  cumulativeRake : BigIntish
  lastSequence : BigIntish

structure PublicBalances where
  balanceRoot : Hex
  leaves : List PublicBalanceLeaf

structure PublicBalanceInclusion where
  leaf : PublicBalanceLeaf
  leafHash : Option Hex
  balanceRoot : Hex
  proof : List MerkleProofStep

structure PublicSettlement where
  openingTotal : BigIntish
  endingPlayerTotal : BigIntish
  totalRake : BigIntish
  anchoredOnChain : Option Bool

structure CardOpeningInput where
  handId : Hex
  deckRoot : Hex
  position : JsNumber
  cardCode : JsNumber
  cardSalt : Hex
  proof : List MerkleProofStep

structure PublicRandomness where
  runGoldenSuite : Option Bool
  vectorsDir : Option String
  opening : Option CardOpeningInput

structure PendingFlags where
  baseAnchor : Option Bool
  settlement : Option Bool
  privateDealerAttested : Option Bool

structure PublicVerifyPackage where
  packageId : Option String
  proofBatch : Option PublicBatch
  batchChain : Option (List PublicBatchEntry)
  balances : Option PublicBalances
  balanceInclusion : Option PublicBalanceInclusion
  settlement : Option PublicSettlement
  randomness : Option PublicRandomness
  pending : Option PendingFlags

/-- A batch as the registry stores it. -/
structure PublicProofBatch where
  sequence : Int
  previousBatchRoot : Hex
  globalRoot : Hex
  dataManifestHash : Hex
  createdAt : Int
  proofBatchHash : Option Hex

/-- What one check says; a check of absent data is skipped. -/
structure CheckResult where
  id : String
  ok : Bool
  skipped : Bool
  detail : String
deriving DecidableEq, Repr

/-! ## What other packages do -/

inductive AbiValue where
  | hex (text : Hex)
  | bigint (value : Int)
  | number (value : JsNumber)

structure Viem extends HashPackage where
  toBytes : String → Hex
  encodeAbiParameters : String → List AbiValue → Except String Hex
  getAddress : String → Except String String

structure GoldenReport where
  ok : Bool
  passed : Nat
  failed : Nat
  checks : List CheckResult

structure OpeningVerifyResult where
  ok : Bool
  cardLeaf : Hex
  detail : String

structure RandomnessVerifier where
  defaultVectorsDir : String
  runRandomnessVerification : String → Except String GoldenReport
  verifyCardOpening : CardOpeningInput → Except String OpeningVerifyResult

/-! ## Reading values -/

section Reading

variable (runtime : Runtime)

def ZERO_ROOT : Hex :=
  "0x0000000000000000000000000000000000000000000000000000000000000000"

def asHex (text : String) (label : String) : Except String Hex :=
  if ['0', 'x'].isPrefixOf text.toList then .ok (normalizeHex text)
  else .error ("expected " ++ label ++ " hex string, got string")

/-- `BigInt` of a text; a blank one is zero. -/
def bigIntOfString (text : String) : Except String Int :=
  if Replay.trim text = [] then .ok 0
  else
    (Replay.bigIntOfText text).elim
      (.error ("Cannot convert " ++ text ++ " to a BigInt")) .ok

def asBigInt : BigIntish → Except String Int
  | .bigint value => .ok value
  | .number (.finite value) => Outbox.toBigInt runtime value
  | .number value =>
    .error ("The number " ++ JsValue.numberString runtime value ++
      " cannot be converted to a BigInt because it is not an integer")
  | .string text => bigIntOfString text

/-- How a value is written in a text. -/
def BigIntish.toText : BigIntish → String
  | .bigint value => toString value
  | .string text => text
  | .number value => JsValue.numberString runtime value

def eqHex (a b : Hex) : Bool := normalizeHex a = normalizeHex b

/-- `slice(0, 18)` with an ellipsis. -/
def shortened (text : Hex) : String :=
  String.ofList (text.toList.take 18) ++ "…"

/-- The value of an optional text that is not empty. -/
def claimed (text : Option Hex) : Option Hex :=
  text.filter (· ≠ "")

/-- An optional list, empty where there is none. -/
def listed {α : Type} (items : Option (List α)) : List α := items.getD []

end Reading

/-! ## Roots and hashes -/

section Roots

variable (viem : Viem)

def buildGlobalProofBatchRoot (checkpointRoots : List Hex) : Hex :=
  (merkleRoot viem.toHashPackage checkpointRoots).root

def domainTag (text : String) : Hex := viem.keccak256 (viem.toBytes text)

def hashEnc (types : String) (values : List AbiValue) : Except String Hex := do
  let canonicalBytesHex ← viem.encodeAbiParameters types values
  return viem.keccak256 canonicalBytesHex

structure ProofBatchInput where
  sequence : Int
  previousBatchRoot : Hex
  checkpointRoots : List Hex
  dataManifestHash : Hex
  createdAt : Int

/-- The hash of `buildProofBatch`. -/
def buildProofBatch (input : ProofBatchInput) : Except String Hex :=
  hashEnc viem
    "bytes32 domain, uint64 sequence, bytes32 previousBatchRoot, bytes32 globalRoot, bytes32 dataManifestHash, uint64 createdAt"
    [.hex (domainTag viem "MOZETTO_PROOF_BATCH_V1"), .bigint input.sequence,
      .hex input.previousBatchRoot, .hex (buildGlobalProofBatchRoot viem input.checkpointRoots),
      .hex input.dataManifestHash, .bigint input.createdAt]

structure CheckpointLeaf where
  sessionId : Hex
  checkpointId : Int
  checkpointRoot : Hex

/-- The leaf stands before the other or beside it. -/
def CheckpointLeaf.notAfter (x y : CheckpointLeaf) : Bool :=
  normalizeHex x.sessionId < normalizeHex y.sessionId ||
    (eqHex x.sessionId y.sessionId && decide (x.checkpointId ≤ y.checkpointId))

def sortCheckpointLeaves (leaves : List CheckpointLeaf) :
    List CheckpointLeaf :=
  leaves.insertionSort fun x y => x.notAfter y = true

structure BalanceLeafFields where
  sessionId : Hex
  epoch : Int
  arenaAccount : String
  seat : JsNumber
  openingBalance : Int
  currentBalance : Int
  cumulativeRake : Int
  lastSequence : Int

variable (runtime : Runtime)

/-- The leaf hash of `encodeBalanceLeaf`. -/
def encodeBalanceLeaf (fields : BalanceLeafFields) : Except String Hex :=
  if fields.currentBalance < 0 ∨ fields.openingBalance < 0 then
    .error ("seat " ++ JsValue.numberString runtime fields.seat ++
      ": balances must be unsigned non-negative")
  else
    hashEnc viem
      "bytes32 domain, bytes32 sessionId, uint64 epoch, address arenaAccount, uint8 seat, uint256 openingBalance, uint256 currentBalance, uint256 cumulativeRake, uint64 lastSequence"
      [.hex (domainTag viem "MOZETTO_BALANCE_LEAF_V1"), .hex fields.sessionId,
        .bigint fields.epoch, .hex fields.arenaAccount, .number fields.seat,
        .bigint fields.openingBalance, .bigint fields.currentBalance,
        .bigint fields.cumulativeRake, .bigint fields.lastSequence]

/-- The texts of numbers that a `Set` takes as one. -/
def sameSeat : JsNumber → JsNumber → Bool
  | .finite value, .finite other => value = other
  | .infinity negative, .infinity other => negative = other
  | .nan, .nan => true
  | _, _ => false

/-- A seat is not after another where their difference is not positive. -/
def seatNotAfter : JsNumber → JsNumber → Bool
  | .finite value, .finite other => value ≤ other
  | .infinity negative, .infinity other => negative || !other
  | .infinity negative, .finite _ => negative
  | .finite _, .infinity negative => !negative
  | _, _ => true

def refuseDuplicateSeats : List JsNumber → List BalanceLeafFields → Except String Unit
  | _, [] => .ok ()
  | seats, leaf :: rest =>
    if seats.any (sameSeat leaf.seat) then
      .error ("duplicate seat " ++ JsValue.numberString runtime leaf.seat)
    else refuseDuplicateSeats (leaf.seat :: seats) rest

def buildBalanceRoot (inputs : List BalanceLeafFields) :
    Except String Hex := do
  if inputs.isEmpty then
    .error "balance root requires at least one leaf"
  refuseDuplicateSeats runtime [] inputs
  let leaves ← (inputs.insertionSort fun a b => seatNotAfter a.seat b.seat = true).mapM
      (encodeBalanceLeaf viem runtime)
  return (merkleRoot viem.toHashPackage leaves).root

end Roots

end Mozetto.Watchtower
