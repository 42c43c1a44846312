import Mozetto.Watchtower.Packages

/-!
# The checks of the watchtower

`runWatchtower` of a public package, check by check: the claimed batch and its
inclusion proofs, the chain of batches, the balances, the settlement totals
and the randomness section, and the report that sums them up.
-/

namespace Mozetto.Watchtower

open Mozetto.Commitments
open Mozetto.EventStore
open Mozetto.Outbox (JsValue Runtime)

/-- A check that was made, with the detail of its outcome. -/
def checkOf (id : String) (ok : Bool) (passing failing : String) :
    CheckResult :=
  ⟨id, ok, false, if ok then passing else failing⟩

/-- A check that was not made. -/
def skipOf (id detail : String) : CheckResult := ⟨id, true, true, detail⟩

section Checks

variable (viem : Viem) (runtime : Runtime)

/-! ## Batches -/

/-- The text that stands between two others. -/
def between (before text after : String) : String := before ++ text ++ after

/-- The checkpoints that a batch lists, in the order of the tree. -/
def sortedCheckpoints (batch : PublicBatch) : Except String (List CheckpointLeaf) := do
  let leaves ← (listed batch.checkpoints).mapM fun c => do
    let sessionId ← asHex c.sessionId "sessionId"
    let checkpointId ← asBigInt runtime c.checkpointId
    let checkpointRoot ← asHex c.checkpointRoot "checkpointRoot"
    return (⟨sessionId, checkpointId, checkpointRoot⟩ : CheckpointLeaf)
  return sortCheckpointLeaves leaves

def checkpointRootsFromPackage (batch : PublicBatch) : Except String (Option (List Hex)) := do
  if listed batch.checkpointRoots ≠ [] then
    let roots ←
      (listed batch.checkpointRoots).mapM (asHex · "checkpointRoot")
    return some roots
  else if listed batch.checkpoints ≠ [] then
    let leaves ← sortedCheckpoints runtime batch
    return some (leaves.map (·.checkpointRoot))
  else return none

def verifyInclusionClaim (claim : PublicInclusionClaim) :
    Except String Bool := do
  let checkpointRoot ← asHex claim.checkpointRoot "hex"
  let globalRoot ← asHex claim.globalRoot "hex"
  return verifyMerkleProof viem.toHashPackage checkpointRoot claim.proof globalRoot

/-- The inclusion proofs that a batch gives, each with its place. -/
def inclusionChecks (checkPrefix : String) :
    List (PublicInclusionClaim × Nat) → Except String (List CheckResult)
  | [] => return []
  | (claim, i) :: rest => do
      let ok ← verifyInclusionClaim viem claim
      let others ← inclusionChecks checkPrefix rest
      return checkOf (checkPrefix ++ between ".inclusion[" (toString i) "]") ok
        ("checkpoint inclusion under " ++ shortened claim.globalRoot)
        ("inclusion proof failed for leaf " ++ shortened claim.checkpointRoot) :: others

/-- Inclusion proofs that are built from the checkpoints themselves. -/
def selfInclusionChecks (checkPrefix : String) (ordered : List Hex) (claimedGlobal : Hex) :
    List CheckResult :=
  ordered.mapIdx fun i leaf =>
    checkOf (checkPrefix ++ between ".selfInclusion[" (toString i) "]")
      (verifyMerkleProof viem.toHashPackage leaf
        (proofForIndex viem.toHashPackage ordered i) claimedGlobal)
      ("self-built inclusion for leaf " ++ toString i)
      ("self-built inclusion failed for leaf " ++ toString i)

/-- The inclusion proofs of a batch, or self-built ones. -/
def verifyInclusions (batch : PublicBatch) (checkPrefix : String) (claimedGlobal : Hex) :
    Except String (List CheckResult) := do
  if listed batch.inclusionProofs ≠ [] then
    inclusionChecks viem checkPrefix (listed batch.inclusionProofs).zipIdx
  else if listed batch.checkpoints ≠ [] then
    let leaves ← sortedCheckpoints runtime batch
    return selfInclusionChecks viem checkPrefix (leaves.map (·.checkpointRoot)) claimedGlobal
  else return []

def genesisPrevCheck (checkPrefix : String) (sequence : Int) (previousBatchRoot : Hex) :
    List CheckResult :=
  if sequence = 0 then
    [checkOf (checkPrefix ++ ".genesisPrev") (eqHex previousBatchRoot ZERO_ROOT)
      "sequence 0 previousBatchRoot == bytes32(0)"
      ("sequence 0 requires previousBatchRoot == 0, got " ++ previousBatchRoot)]
  else []

def nonZeroGlobalRootCheck (checkPrefix : String) (claimedGlobal : Hex) :
    CheckResult :=
  checkOf (checkPrefix ++ ".nonZeroGlobalRoot") (!eqHex claimedGlobal ZERO_ROOT)
    "globalRoot non-zero" "globalRoot must be non-zero"

def globalRootCheck (checkPrefix : String) (rebuilt claimedGlobal : Hex) :
    CheckResult :=
  checkOf (checkPrefix ++ ".globalRoot") (eqHex rebuilt claimedGlobal)
    (between "rebuilt globalRoot matches claimed (" (shortened claimedGlobal)
      ")")
    (between "globalRoot mismatch: rebuilt=" rebuilt
      (" claimed=" ++ claimedGlobal))

/-- The hash that a batch claims; one that is not claimed is skipped. -/
def proofBatchHashCheck (checkPrefix : String) (rebuilt : Hex) (proofBatchHash : Option Hex) :
    Except String CheckResult :=
  match claimed proofBatchHash with
  | none =>
    return skipOf (checkPrefix ++ ".proofBatchHash")
      "proofBatchHash not claimed — rebuilt hash recorded only"
  | some text => do
      let hash ← asHex text "proofBatchHash"
      return checkOf (checkPrefix ++ ".proofBatchHash") (eqHex rebuilt hash)
        (between "proofBatchHash matches (" (shortened rebuilt) ")")
        (between "proofBatchHash mismatch: rebuilt=" rebuilt
          (" claimed=" ++ text))

/-- The fields of a batch, read before its checks. -/
structure BatchFields where
  sequence : Int
  previousBatchRoot : Hex
  claimedGlobal : Hex
  dataManifestHash : Hex
  createdAt : Int

def batchFields (batch : PublicBatch) : Except String BatchFields := do
  let sequence ← asBigInt runtime batch.sequence
  let previousBatchRoot ← asHex batch.previousBatchRoot "previousBatchRoot"
  let claimedGlobal ← asHex batch.globalRoot "globalRoot"
  let dataManifestHash ← asHex batch.dataManifestHash "dataManifestHash"
  let createdAt ← asBigInt runtime batch.createdAt
  return ⟨sequence, previousBatchRoot, claimedGlobal, dataManifestHash, createdAt⟩

/-- The checks that rebuild a batch from the roots it lists. -/
def rebuiltChecks (batch : PublicBatch) (checkPrefix : String) (fields : BatchFields) :
    Option (List Hex) → Except String (List CheckResult)
  | none =>
    return [skipOf (checkPrefix ++ ".checkpointRoots")
      "no checkpoint roots in package — cannot rebuild globalRoot"]
  | some roots => do
      let rebuiltHash ← buildProofBatch viem ⟨fields.sequence, fields.previousBatchRoot, roots,
            fields.dataManifestHash, fields.createdAt⟩
      let hashCheck ← proofBatchHashCheck checkPrefix rebuiltHash batch.proofBatchHash
      let inclusions ← verifyInclusions viem runtime batch checkPrefix fields.claimedGlobal
      return globalRootCheck checkPrefix
          (buildGlobalProofBatchRoot viem roots) fields.claimedGlobal :: hashCheck :: inclusions

def verifyProofBatchClaim (batch : PublicBatch) (checkPrefix : String) :
    Except String (List CheckResult) := do
  let fields ← batchFields runtime batch
  let roots ← checkpointRootsFromPackage runtime batch
  let rebuilt ← rebuiltChecks viem runtime batch checkPrefix fields roots
  return genesisPrevCheck checkPrefix fields.sequence fields.previousBatchRoot ++
    nonZeroGlobalRootCheck checkPrefix fields.claimedGlobal :: rebuilt

def toPublicProofBatch (batch : PublicBatchEntry) :
    Except String PublicProofBatch := do
  let sequence ← asBigInt runtime batch.sequence
  let previousBatchRoot ← asHex batch.previousBatchRoot "hex"
  let globalRoot ← asHex batch.globalRoot "hex"
  let dataManifestHash ← asHex batch.dataManifestHash "hex"
  let createdAt ← asBigInt runtime batch.createdAt
  let proofBatchHash ← (claimed batch.proofBatchHash).mapM (asHex · "hex")
  return ⟨sequence, previousBatchRoot, globalRoot, dataManifestHash, createdAt, proofBatchHash⟩

/-! ## The chain of batches -/

/-- `[sequence]` after the name of the walk. -/
def placed (checkPrefix : String) (batch : PublicProofBatch) (name : String) :
    String :=
  checkPrefix ++ between "[" (toString batch.sequence) "]." ++ name

/-- The first batch of a walk. -/
def startCheck (checkPrefix : String) (b : PublicProofBatch) : CheckResult :=
  if b.sequence = 0 then
    checkOf (placed checkPrefix b "genesis") (eqHex b.previousBatchRoot ZERO_ROOT)
      "genesis previousBatchRoot == 0" "genesis previousBatchRoot must be 0"
  else
    skipOf (placed checkPrefix b "start")
      (between "chain starts at sequence " (toString b.sequence)
        " (prior root not in package)")

/-- Each batch after the first, with the one before it. -/
def linkChecks (checkPrefix : String) : PublicProofBatch → List PublicProofBatch → List CheckResult
  | _, [] => []
  | prev, b :: rest =>
    checkOf (placed checkPrefix b "sequence") (b.sequence = prev.sequence + 1)
        ("sequence " ++ between (toString prev.sequence) " → " (toString b.sequence))
        ("sequence gap: prior=" ++ between (toString prev.sequence)
          " current=" (toString b.sequence)) ::
      checkOf (placed checkPrefix b "prevRoot") (eqHex b.previousBatchRoot prev.globalRoot)
        "previousBatchRoot == prior.globalRoot"
        ("continuity broken: previousBatchRoot=" ++
          between b.previousBatchRoot " prior.globalRoot=" prev.globalRoot) ::
        linkChecks checkPrefix b rest

/-- The roots of a walk, with those seen before. -/
def uniqueRootChecks (checkPrefix : String) : List Hex → List PublicProofBatch → List CheckResult
  | _, [] => []
  | seen, b :: rest =>
    checkOf (placed checkPrefix b "uniqueRoot") (!seen.contains (normalizeHex b.globalRoot))
        "globalRoot unique in walk" ("duplicate globalRoot " ++ b.globalRoot) ::
      uniqueRootChecks checkPrefix (normalizeHex b.globalRoot :: seen) rest

/-- The batches by ascending sequence. -/
def bySequence (batches : List PublicProofBatch) : List PublicProofBatch :=
  batches.insertionSort fun a b => a.sequence ≤ b.sequence

def verifyBatchContinuity (batches : List PublicProofBatch) (checkPrefix : String) :
    List CheckResult :=
  match bySequence batches with
  | [] => [skipOf (checkPrefix ++ ".empty") "no batches to walk"]
  | first :: rest =>
    startCheck checkPrefix first :: linkChecks checkPrefix first rest ++
      uniqueRootChecks checkPrefix [] (first :: rest)

/-- The batch of a chain as one that is claimed. -/
def PublicBatchEntry.asBatch (entry : PublicBatchEntry) : PublicBatch where
  toPublicBatchEntry := entry
  checkpoints := none
  inclusionProofs := none

/-- A batch of a chain, where it lists its checkpoint roots. -/
def listedEntryChecks (entry : PublicBatchEntry) : Except String (List CheckResult) :=
  if listed entry.checkpointRoots ≠ [] then
    verifyProofBatchClaim viem runtime entry.asBatch
      (between "batchChain[" (entry.sequence.toText runtime) "]")
  else return []

def entryChecks : List PublicBatchEntry → Except String (List CheckResult)
  | [] => return []
  | entry :: rest => do
      let checks ← listedEntryChecks viem runtime entry
      let others ← entryChecks rest
      return checks ++ others

def chainChecks (batchChain : List PublicBatchEntry) : Except String (List CheckResult) := do
  if batchChain = [] then return []
  else
    let chain ← batchChain.mapM (toPublicProofBatch runtime)
    let entries ← entryChecks viem runtime batchChain
    return verifyBatchContinuity chain "continuity" ++ entries

/-! ## The registry -/

/-- A field of the package beside that of the registry. -/
def fieldCheck (checkPrefix name : String) (a b : Hex) : CheckResult :=
  checkOf (checkPrefix ++ "." ++ name) (eqHex a b)
    (name ++ " matches registry")
    (name ++ between " mismatch package=" a (" registry=" ++ b))

/-- The hashes, where both are there. -/
def registryHashChecks (checkPrefix : String) : Option Hex → Option Hex → List CheckResult
  | some a, some b =>
    [checkOf (checkPrefix ++ ".proofBatchHash") (eqHex a b)
      "proofBatchHash matches registry"
      (between "proofBatchHash mismatch package=" a (" registry=" ++ b))]
  | _, _ => []

/-- A claimed batch beside what the registry has at its sequence. -/
def verifyAgainstBatchSource (batch : PublicProofBatch)
    (getBatch : Int → Except String (Option PublicProofBatch))
    (checkPrefix : String) : Except String (List CheckResult) := do
  let onchain ← getBatch batch.sequence
  match onchain with
  | none =>
    return [⟨checkPrefix ++ ".present", false, false,
      between "sequence " (toString batch.sequence)
        " not accepted on public registry source"⟩]
  | some onchain =>
    return [
      ⟨checkPrefix ++ ".present", true, false,
        between "sequence " (toString batch.sequence)
          " present on registry source"⟩,
      checkOf (checkPrefix ++ ".createdAt") (batch.createdAt = onchain.createdAt)
        ("createdAt=" ++ toString batch.createdAt)
        (between "createdAt mismatch package=" (toString batch.createdAt)
          (" chain=" ++ toString onchain.createdAt)),
      fieldCheck checkPrefix "previousBatchRoot" batch.previousBatchRoot
        onchain.previousBatchRoot,
      fieldCheck checkPrefix "globalRoot" batch.globalRoot onchain.globalRoot,
      fieldCheck checkPrefix "dataManifestHash" batch.dataManifestHash
        onchain.dataManifestHash] ++
      registryHashChecks checkPrefix (claimed batch.proofBatchHash)
        (claimed onchain.proofBatchHash)

/-! ## Balances and totals -/

def toLeafInput (leaf : PublicBalanceLeaf) :
    Except String BalanceLeafFields := do
  let sessionId ← asHex leaf.sessionId "sessionId"
  let epoch ← asBigInt runtime leaf.epoch
  let arenaAccount ← viem.getAddress leaf.arenaAccount
  let openingBalance ← asBigInt runtime leaf.openingBalance
  let currentBalance ← asBigInt runtime leaf.currentBalance
  let cumulativeRake ← asBigInt runtime leaf.cumulativeRake
  let lastSequence ← asBigInt runtime leaf.lastSequence
  return ⟨sessionId, epoch, arenaAccount, leaf.seat, openingBalance,
    currentBalance, cumulativeRake, lastSequence⟩

/-- The root that is rebuilt from the leaves of a package. -/
def rebuiltBalanceRoot (balances : PublicBalances) : Except String Hex := do
  let leaves ← balances.leaves.mapM (toLeafInput viem runtime)
  buildBalanceRoot viem runtime leaves

def verifyBalances (balances : PublicBalances) : Except String (List CheckResult) := do
  let claimedRoot ← asHex balances.balanceRoot "balanceRoot"
  match rebuiltBalanceRoot viem runtime balances with
  | .ok balanceRoot =>
    return [checkOf "balances.balanceRoot" (eqHex balanceRoot claimedRoot)
      (between "rebuilt balanceRoot matches (" (shortened claimedRoot) ")")
      (between "balanceRoot mismatch: rebuilt=" balanceRoot
        (" claimed=" ++ claimedRoot))]
  | .error message =>
    return [⟨"balances.balanceRoot", false, false,
      "balance root rebuild failed: " ++ message⟩]

/-- The leaf hash that a claim gives. -/
def leafHashCheck (encoded : Hex) (leafHash : Option Hex) : Except String (List CheckResult) :=
  match claimed leafHash with
  | none => return []
  | some text => do
      let hash ← asHex text "leafHash"
      return [checkOf "balanceInclusion.leafHash" (eqHex encoded hash)
        "encoded leafHash matches claim"
        (between "leafHash mismatch: rebuilt=" encoded (" claimed=" ++ text))]

def verifyBalanceInclusionClaim (claim : PublicBalanceInclusion) :
    Except String (List CheckResult) := do
  let leaf ← toLeafInput viem runtime claim.leaf
  let encoded ← encodeBalanceLeaf viem runtime leaf
  let hashChecks ← leafHashCheck encoded claim.leafHash
  let root ← asHex claim.balanceRoot "balanceRoot"
  return hashChecks ++
    [checkOf "balanceInclusion.merkle"
      (verifyMerkleProof viem.toHashPackage encoded claim.proof root)
      ("leaf included under balanceRoot " ++ shortened root)
      "balance leaf Merkle inclusion failed"]

def checkConservation (openingTotal endingPlayerTotal totalRake : Int) : Bool :=
  openingTotal = endingPlayerTotal + totalRake

def verifySettlementConservation (settlement : PublicSettlement) :
    Except String (List CheckResult) := do
  let opening ← asBigInt runtime settlement.openingTotal
  let ending ← asBigInt runtime settlement.endingPlayerTotal
  let rake ← asBigInt runtime settlement.totalRake
  return [checkOf "settlement.conservation" (checkConservation opening ending rake)
    (between "opening=" (toString opening) " == ending=" ++
      between (toString ending) " + rake=" (toString rake))
    (between "conservation broken: " (toString opening) " != " ++
      between (toString ending) " + " (toString rake))]

/-! ## Randomness -/

variable (verifier : RandomnessVerifier)

/-- The suite of golden vectors and the first checks of it that fail. -/
def goldenChecks (vectorsDir : Option String) : Except String (List CheckResult) := do
  let report ← verifier.runRandomnessVerification (vectorsDir.getD verifier.defaultVectorsDir)
  return checkOf "randomness.goldenSuite" report.ok
      (between "MOZETTO_RANDOMNESS_V2 golden+mutations "
        (between (toString report.passed) "/"
          (toString (report.passed + report.failed))) " pass")
      (between "randomness golden suite failed: " (toString report.failed)
        " check(s)") ::
    ((report.checks.filter fun c => !c.ok).take 3).map fun c =>
      ⟨"randomness.golden." ++ c.id, false, false, c.detail⟩

def openingChecks (opening : CardOpeningInput) : Except String (List CheckResult) := do
  let handId ← asHex opening.handId "handId"
  let deckRoot ← asHex opening.deckRoot "deckRoot"
  let cardSalt ← asHex opening.cardSalt "cardSalt"
  let result ← verifier.verifyCardOpening
      { opening with
        handId := handId, deckRoot := deckRoot, cardSalt := cardSalt }
  return [checkOf "randomness.opening" result.ok
    ("card opening ok leaf=" ++ shortened result.cardLeaf)
    ("card opening failed: " ++ result.detail)]

/-- The suite, where it is asked for. -/
def goldenSection (runGoldenSuite : Bool) (vectorsDir : Option String) :
    Except String (List CheckResult) :=
  if runGoldenSuite then goldenChecks verifier vectorsDir else return []

def openingSection (opening : Option CardOpeningInput) : Except String (List CheckResult) :=
  match opening with
  | none => return []
  | some opening => openingChecks verifier opening

def verifyRandomnessSection (runGoldenSuite : Bool) (vectorsDir : Option String)
    (opening : Option CardOpeningInput) : Except String (List CheckResult) := do
  let golden ← goldenSection verifier runGoldenSuite vectorsDir
  let opened ← openingSection verifier opening
  let absent :=
    if !runGoldenSuite && opening.isNone then
      [skipOf "randomness" "randomness section present but empty"]
    else []
  return golden ++ opened ++ absent

end Checks

/-! ## The report -/

inductive WatchtowerStatus where
  | verified
  | verifiedWithAttestedPrivateDealer
  | pendingBaseAnchor
  | pendingSettlement
  | incompletePublicData
  | verificationFailed
deriving DecidableEq, Repr

structure WatchtowerReport where
  workPacket : String
  packageId : Option String
  ok : Bool
  status : WatchtowerStatus
  passed : Nat
  failed : Nat
  skipped : Nat
  checks : List CheckResult

/-- The flags that `runWatchtower` passes on. -/
structure Pending where
  baseAnchor : Bool
  settlement : Bool
  privateDealerAttested : Bool

def resolveStatus (failed : Nat) (checks : List CheckResult) (pending : Pending) :
    WatchtowerStatus :=
  if failed > 0 then .verificationFailed
  else if pending.baseAnchor then .pendingBaseAnchor
  else if pending.settlement then .pendingSettlement
  else if (checks.filter fun c => !c.skipped).isEmpty then
    .incompletePublicData
  else if pending.privateDealerAttested then
    .verifiedWithAttestedPrivateDealer
  else .verified

def WatchtowerStatus.isVerified (status : WatchtowerStatus) : Bool :=
  status = .verified ∨ status = .verifiedWithAttestedPrivateDealer

def summarizeChecks (checks : List CheckResult) (packageId : Option String)
    (pending : Pending) : WatchtowerReport :=
  let failed := (checks.filter fun c => !c.ok && !c.skipped).length
  let status := resolveStatus failed checks pending
  { workPacket := "WP-095"
    packageId := packageId
    ok := failed = 0 && status.isVerified
    status := status
    passed := (checks.filter fun c => c.ok && !c.skipped).length
    failed := failed
    skipped := (checks.filter (·.skipped)).length
    checks := checks }

structure RunWatchtowerOptions where
  pkg : PublicVerifyPackage
  /-- What a registry answers for a sequence, where one is given. -/
  batchSource : Option (Int → Except String (Option PublicProofBatch))
  includeRandomnessGolden : Option Bool
  vectorsDir : Option String

section Run

variable (viem : Viem) (runtime : Runtime) (verifier : RandomnessVerifier)
variable (opts : RunWatchtowerOptions)

/-- The claimed batch beside the registry. -/
def sourceChecks (batch : PublicBatch) : Except String (List CheckResult) :=
  match opts.batchSource with
  | none => return []
  | some getBatch => do
      let own ← toPublicProofBatch runtime batch.toPublicBatchEntry
      verifyAgainstBatchSource own getBatch "registry"

def batchSection : Except String (List CheckResult) :=
  match opts.pkg.proofBatch with
  | none =>
    return [skipOf "proofBatch" "no proofBatch in public package"]
  | some batch => do
      let checks ← verifyProofBatchClaim viem runtime batch "proofBatch"
      let registry ← sourceChecks runtime opts batch
      return checks ++ registry

def balancesSection : Except String (List CheckResult) :=
  match opts.pkg.balances with
  | none => return [skipOf "balances" "no balances in public package"]
  | some balances => verifyBalances viem runtime balances

def balanceInclusionSection : Except String (List CheckResult) :=
  match opts.pkg.balanceInclusion with
  | none => return []
  | some claim => verifyBalanceInclusionClaim viem runtime claim

def settlementSection : Except String (List CheckResult) :=
  match opts.pkg.settlement with
  | none =>
    return [skipOf "settlement" "no settlement totals in public package"]
  | some settlement => verifySettlementConservation runtime settlement

/-- The randomness section of the package, empty where there is none. -/
def randomness : PublicRandomness := opts.pkg.randomness.getD ⟨none, none, none⟩

def runGolden : Bool :=
  (randomness opts).runGoldenSuite = some true ∨ (opts.includeRandomnessGolden = some true ∧
      (randomness opts).runGoldenSuite ≠ some false)

def randomnessSection : Except String (List CheckResult) :=
  if runGolden opts || (randomness opts).opening.isSome then
    verifyRandomnessSection verifier (runGolden opts)
      ((randomness opts).vectorsDir.or opts.vectorsDir) (randomness opts).opening
  else return [skipOf "randomness" "randomness suite not requested"]

/-- A flag of the package that is set. -/
def isPending (flag : PendingFlags → Option Bool) : Bool := opts.pkg.pending.bind flag = some true

def pendingOf : Pending where
  baseAnchor := isPending opts (·.baseAnchor)
  settlement :=
    isPending opts (·.settlement) ||
      opts.pkg.settlement.any fun settlement =>
        settlement.anchoredOnChain = some false
  privateDealerAttested := isPending opts (·.privateDealerAttested)

/-- The checks of all sections. -/
def watchtowerChecks : Except String (List CheckResult) := do
  let batch ← batchSection viem runtime opts
  let chain ← chainChecks viem runtime (listed opts.pkg.batchChain)
  let balances ← balancesSection viem runtime opts
  let inclusion ← balanceInclusionSection viem runtime opts
  let settlement ← settlementSection runtime opts
  let random ← randomnessSection verifier opts
  return batch ++ chain ++ balances ++ inclusion ++ settlement ++ random

def runWatchtower : Except String WatchtowerReport := do
  let checks ← watchtowerChecks viem runtime verifier opts
  return summarizeChecks checks opts.pkg.packageId (pendingOf opts)

end Run

end Mozetto.Watchtower

/-!
## What a verified report stands for

What it means that a package is what a verified report says of it: proofs and
roots agree with the roots of the package itself, the chain of batches is
linked, and what the package claims is checked or reported as unchecked.  A
package names each root once where its parts do not contradict each other.
-/

namespace Mozetto.Watchtower

open Mozetto.Commitments
open Mozetto.EventStore
open Mozetto.Outbox (Runtime)

/-! ### Parts of a package -/

/-- The claims that a package may make. -/
inductive Part where
  | checkpointRoots
  | checkpoints
  | proofBatchHash
  | inclusionProof (i : Nat)
  | entryRoots (entry : PublicBatchEntry)
  | entryHash (entry : PublicBatchEntry)
  | balances
  | balanceInclusion
  | leafHash
  | settlement
  | opening
  | goldenSuite

namespace Part

/-- The package makes this claim. -/
def Given (pkg : PublicVerifyPackage) : Part → Prop
  | checkpointRoots =>
    ∃ batch ∈ pkg.proofBatch, listed batch.checkpointRoots ≠ []
  | checkpoints => ∃ batch ∈ pkg.proofBatch, listed batch.checkpoints ≠ []
  | proofBatchHash =>
    ∃ batch ∈ pkg.proofBatch, (claimed batch.proofBatchHash).isSome = true
  | inclusionProof i =>
    ∃ batch ∈ pkg.proofBatch, i < (listed batch.inclusionProofs).length
  | entryRoots entry =>
    entry ∈ listed pkg.batchChain ∧ listed entry.checkpointRoots ≠ []
  | entryHash entry =>
    entry ∈ listed pkg.batchChain ∧ (claimed entry.proofBatchHash).isSome = true
  | balances => pkg.balances.isSome = true
  | balanceInclusion => pkg.balanceInclusion.isSome = true
  | leafHash =>
    ∃ claim ∈ pkg.balanceInclusion, (claimed claim.leafHash).isSome = true
  | settlement => pkg.settlement.isSome = true
  | opening => ∃ section_ ∈ pkg.randomness, section_.opening.isSome = true
  | goldenSuite =>
    ∃ section_ ∈ pkg.randomness, section_.runGoldenSuite = some true

/-- The name that the checks of a chain's batch begin with. -/
def entryPrefix (runtime : Runtime) (entry : PublicBatchEntry) : String :=
  between "batchChain[" (entry.sequence.toText runtime) "]"

/-- The checks that examine a claim, or say that they were skipped. -/
def examinedBy (runtime : Runtime) (pkg : PublicVerifyPackage) : Part → List String
  | checkpointRoots => ["proofBatch.globalRoot"]
  | checkpoints =>
    if pkg.proofBatch.all fun batch => listed batch.checkpointRoots = [] then
      ["proofBatch.globalRoot", "proofBatch.selfInclusion[0]"]
    else ["proofBatch.selfInclusion[0]"]
  | proofBatchHash => ["proofBatch.proofBatchHash"]
  | inclusionProof i => ["proofBatch" ++ between ".inclusion[" (toString i) "]"]
  | entryRoots entry => [entryPrefix runtime entry ++ ".globalRoot"]
  | entryHash entry => [entryPrefix runtime entry ++ ".proofBatchHash"]
  | balances => ["balances.balanceRoot"]
  | balanceInclusion => ["balanceInclusion.merkle"]
  | leafHash => ["balanceInclusion.leafHash"]
  | settlement => ["settlement.conservation"]
  | opening => ["randomness.opening"]
  | goldenSuite => ["randomness.goldenSuite"]

/-- The claim was checked or is reported as skipped. -/
def Accounted (runtime : Runtime) (pkg : PublicVerifyPackage)
    (report : WatchtowerReport) (part : Part) : Prop :=
  ∃ check ∈ report.checks, check.id ∈ part.examinedBy runtime pkg

end Part

/-! ### What a verified report says -/

/-- A batch follows the one before it. -/
structure Follows (prev b : PublicProofBatch) : Prop where
  sequence : b.sequence = prev.sequence + 1
  previousBatchRoot : eqHex b.previousBatchRoot prev.globalRoot = true

/-- Two accounts of one batch. -/
structure Agrees (own other : PublicProofBatch) : Prop where
  previousBatchRoot : eqHex own.previousBatchRoot other.previousBatchRoot = true
  globalRoot : eqHex own.globalRoot other.globalRoot = true
  dataManifestHash : eqHex own.dataManifestHash other.dataManifestHash = true
  createdAt : own.createdAt = other.createdAt
  proofBatchHash : ∀ hash ∈ own.proofBatchHash, ∀ expected ∈ other.proofBatchHash,
      eqHex hash expected = true

section Verdict

variable (viem : Viem) (runtime : Runtime)

/-- What a batch lists is what its root is of, and its proofs lead there. -/
structure BatchSound (batch : PublicBatch) : Prop where
  inclusions : ∀ claim ∈ listed batch.inclusionProofs,
      verifyMerkleProof viem.toHashPackage claim.checkpointRoot claim.proof batch.globalRoot = true
  checkpointRoots : listed batch.checkpointRoots ≠ [] → eqHex (buildGlobalProofBatchRoot viem
          ((listed batch.checkpointRoots).map normalizeHex)) batch.globalRoot = true
  checkpoints : listed batch.checkpoints ≠ [] → ∃ leaves,
        sortedCheckpoints runtime batch = .ok leaves ∧ eqHex
            (buildGlobalProofBatchRoot viem (leaves.map (·.checkpointRoot))) batch.globalRoot = true

/-- The leaf of a claim lies under this root. -/
def LeafUnder (claim : PublicBalanceInclusion) (balanceRoot : Hex) : Prop :=
  ∃ fields leafHash, toLeafInput viem runtime claim.leaf = .ok fields ∧
      encodeBalanceLeaf viem runtime fields = .ok leafHash ∧
        verifyMerkleProof viem.toHashPackage leafHash claim.proof balanceRoot = true

/-- The batches of the chain, in the order of their sequences, are linked. -/
def ChainLinked (batchChain : List PublicBatchEntry) : Prop :=
  ∃ batches ordered : List PublicProofBatch,
    batchChain.mapM (toPublicProofBatch runtime) = .ok batches ∧
      ordered.Perm batches ∧ ordered.IsChain Follows

/-- The chain has the claimed batch as it is claimed, if at all. -/
def ChainAgrees (batchChain : List PublicBatchEntry) (batch : PublicBatch) : Prop :=
  ∀ entry ∈ batchChain, ∀ own other, toPublicProofBatch runtime batch.toPublicBatchEntry = .ok own →
      toPublicProofBatch runtime entry = .ok other →
        own.sequence = other.sequence → Agrees own other

/-- What a verified report says of a package. -/
structure Sound (pkg : PublicVerifyPackage) (report : WatchtowerReport) : Prop where
  proofBatch : ∀ batch ∈ pkg.proofBatch, BatchSound viem runtime batch
  batchChain : ChainLinked runtime (listed pkg.batchChain)
  chainAgrees : ∀ batch ∈ pkg.proofBatch, ChainAgrees runtime (listed pkg.batchChain) batch
  balanceInclusion : ∀ balances ∈ pkg.balances, ∀ claim ∈ pkg.balanceInclusion,
      LeafUnder viem runtime claim balances.balanceRoot
  accounted : ∀ part : Part, part.Given pkg → part.Accounted runtime pkg report

/-! ### Packages without contradictions -/

/-- A batch lists what its hash and its proofs need, once, and its proofs
name its own root. -/
structure BatchPlain (batch : PublicBatch) : Prop where
  ownRoot : ∀ claim ∈ listed batch.inclusionProofs, eqHex claim.globalRoot batch.globalRoot = true
  rootsListed : listed batch.inclusionProofs ≠ [] ∨ (claimed batch.proofBatchHash).isSome = true →
      listed batch.checkpointRoots ≠ [] ∨ listed batch.checkpoints ≠ []
  oneList : listed batch.checkpointRoots ≠ [] → listed batch.checkpoints ≠ [] →
      listed batch.inclusionProofs = []

/-- A batch of the chain that claims a hash lists its roots. -/
def HashesListed (batchChain : List PublicBatchEntry) : Prop :=
  ∀ entry ∈ batchChain, (claimed entry.proofBatchHash).isSome = true → ∃ other ∈ batchChain,
        listed other.checkpointRoots ≠ [] ∧
          other.sequence.toText runtime = entry.sequence.toText runtime

/-- Each root is named once, or twice the same. -/
structure Plain (pkg : PublicVerifyPackage) : Prop where
  proofBatch : ∀ batch ∈ pkg.proofBatch, BatchPlain batch
  chainHashes : HashesListed runtime (listed pkg.batchChain)
  chainAgrees : ∀ batch ∈ pkg.proofBatch, ChainAgrees runtime (listed pkg.batchChain) batch
  balanceRoots : ∀ balances ∈ pkg.balances, ∀ claim ∈ pkg.balanceInclusion,
      eqHex claim.balanceRoot balances.balanceRoot = true

end Verdict

end Mozetto.Watchtower
