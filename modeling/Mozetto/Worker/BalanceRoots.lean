import Mozetto.Commitments.BalanceRoot
import Mozetto.Commitments.MerkleProofs
import Mozetto.Worker.ProposalAcceptance

/-!
# The balance root of a proposal

`resolveSettlementRoots` takes the balance root of a stored checkpoint when
there is one, and builds it of the proposed players only otherwise.  The
proposal carries what it returns; nothing compares the stored root with the
balances that are paid out.
-/

namespace Mozetto.Worker

open Mozetto.Chain
open Mozetto.Commitments
open Mozetto.EventStore
open Mozetto.Library.Guarded
open Mozetto.Library.HexText
open Mozetto.Library.MerkleTree

/-! ## Resolving roots -/

/-- The last 64 digits of a text, filled up with zeros. -/
def toBytes32 (raw : String) : Hex :=
  let hex :=
    if ['0', 'x'].isPrefixOf raw.toList then raw.toList.drop 2
    else raw.toList
  let digits := List.replicate (64 - hex.length) '0' ++ hex
  String.ofList ('0' :: 'x' :: digits.drop (digits.length - 64))

/-- The variables of the environment that forbid stub roots. -/
structure RootGate where
  REQUIRE_REAL_ROOTS : Option String
  MOZETTO_GOLDEN : Option String

def isSwitchedOn (setting : Option String) : Bool :=
  ["1", "true", "yes"].contains (setting.getD "").toLower

def requireRealRoots (env : RootGate) : Bool :=
  isSwitchedOn env.REQUIRE_REAL_ROOTS || isSwitchedOn env.MOZETTO_GOLDEN

inductive RootsError where
  | stub (code message : String)
  | builder (reason : RootBuilderError)
deriving DecidableEq, Repr

/-- Refuse a root that is no word, or zero. -/
def assertRealRoot (value : Hex) (label : String) : Except RootsError Unit :=
  if (readWord value).isNone then
    .error (.stub "STUB_FORBIDDEN"
      ("REQUIRE_REAL_ROOTS: " ++ label ++ " missing or not bytes32"))
  else if normalizeHex value = ZERO32 then
    .error (.stub "STUB_FORBIDDEN"
      ("REQUIRE_REAL_ROOTS: " ++ label ++ " must not be bytes32(0)"))
  else .ok ()

/-- The first rows of the queries for stored roots; `none` for no row. -/
structure StoredRoots where
  storedEventRoot : Option String
  storedHandRoot : Option String
  storedBalanceRoot : Option String

/-- A stored text that counts as given: an empty one does not. -/
def given (text : Option String) : Option String :=
  text.filter (· ≠ "")

structure ResolveRootsInput where
  sessionId : String
  stored : StoredRoots
  finalSequence : Nat
  balanceLeaves : List BalanceLeafInput
  noPlay : Bool

structure ResolvedRoots where
  finalEventRoot : Hex
  handRoot : Hex
  balanceRoot : Hex
  usedStub : Bool

section Resolving

variable (deployment : Deployment) (keccakLike : String → Hex)

def noPlayEventRoot (sessionId : String) : Hex :=
  keccakLike ("mozetto:no-play:events:v1:" ++ sessionId)

def noPlayHandRoot (sessionId : String) : Hex :=
  keccakLike ("mozetto:no-play:hands:v1:" ++ sessionId)

/-- The event root, and whether it is a stub. -/
def resolveEventRoot (gated : Bool) (input : ResolveRootsInput) : Except RootsError (Hex × Bool) :=
  (given input.stored.storedEventRoot).elim
    (if input.noPlay then .ok (noPlayEventRoot keccakLike input.sessionId, false)
    else if gated then
      .error (.stub "MISSING_EVENT_ROOT"
        ("REQUIRE_REAL_ROOTS: no canonical event tip for session " ++ input.sessionId))
    else
      .ok (keccakLike
            ("events:" ++ input.sessionId ++ ":" ++ toString input.finalSequence), true))
    fun root => .ok (toBytes32 root, false)

/-- The hand root, and whether it is a stub. -/
def resolveHandRoot (gated : Bool) (input : ResolveRootsInput) : Except RootsError (Hex × Bool) :=
  (given input.stored.storedHandRoot).elim
    (if input.noPlay then .ok (noPlayHandRoot keccakLike input.sessionId, false)
    else if gated then
      .error (.stub "MISSING_HAND_ROOT"
        ("REQUIRE_REAL_ROOTS: no hand_roots row for session " ++ input.sessionId))
    else .ok (keccakLike ("hands:" ++ input.sessionId), true))
    fun root => .ok (toBytes32 root, false)

/-- The balance root, and whether it is a stub. -/
def resolveBalanceRoot (gated : Bool) (input : ResolveRootsInput) :
    Except RootsError (Hex × Bool) :=
  (given input.stored.storedBalanceRoot).elim (if 0 < input.balanceLeaves.length then
      ((buildBalanceRoot deployment input.balanceLeaves).mapError .builder).map
        fun root => (wordHex root, false)
    else if gated then
      .error (.stub "MISSING_BALANCE_ROOT"
        ("REQUIRE_REAL_ROOTS: cannot build balanceRoot for session " ++ input.sessionId))
    else
      .ok (keccakLike
            ("balances:" ++ input.sessionId ++ ":" ++ toString input.finalSequence), true))
    fun root => .ok (toBytes32 root, false)

def resolveSettlementRoots (env : RootGate) (input : ResolveRootsInput) :
    Except RootsError ResolvedRoots := do
  let gated := requireRealRoots env
  let eventRoot ← resolveEventRoot keccakLike gated input
  let handRoot ← resolveHandRoot keccakLike gated input
  let balanceRoot ← resolveBalanceRoot deployment keccakLike gated input
  if gated then
    assertRealRoot eventRoot.1 "finalEventRoot"
    assertRealRoot handRoot.1 "handRoot"
    assertRealRoot balanceRoot.1 "balanceRoot"
  return {
    finalEventRoot := eventRoot.1
    handRoot := handRoot.1
    balanceRoot := balanceRoot.1
    usedStub := eventRoot.2 || handRoot.2 || balanceRoot.2 }

end Resolving

/-- The leaves of the proposed players. -/
def balanceLeavesFromPlayers (sessionId : Bytes32) (finalSequence : Nat)
    (players : List PlayerStackInput) : List BalanceLeafInput :=
  players.map fun p =>
    { sessionId := sessionId
      epoch := 0
      arenaAccount := p.user
      seat := p.seat
      openingBalance := p.startLocked
      currentBalance := p.endBalance
      cumulativeRake := 0
      lastSequence := finalSequence }

/-- The roots as the words of a settlement; the digest refuses other texts. -/
def ResolvedRoots.words (roots : ResolvedRoots) : Option Roots := do
  let finalEventRoot ← readWord roots.finalEventRoot
  let handRoot ← readWord roots.handRoot
  let balanceRoot ← readWord roots.balanceRoot
  return {
    finalEventRoot := finalEventRoot
    handRoot := handRoot
    balanceRoot := balanceRoot }

/-! ## Proposals with resolved roots -/

/-- What the worker resolves roots with. -/
structure RootSetup where
  deployment : Deployment
  keccakLike : String → Hex
  gate : RootGate
  stored : StoredRoots

namespace RootSetup

variable (setup : RootSetup)

/-- What a session's roots are resolved to. -/
def resolve (finalSequence : Nat) (session : SessionRow) (noPlay : Bool)
    (players : List PlayerStackInput) : Except RootsError ResolvedRoots :=
  resolveSettlementRoots setup.deployment setup.keccakLike setup.gate
    { sessionId := wordHex session.sessionId
      stored := setup.stored
      finalSequence := finalSequence
      balanceLeaves := balanceLeavesFromPlayers session.sessionId finalSequence players
      noPlay := noPlay }

/-- The worker's environment with these roots. -/
def environment (env : WorkerEnv) (finalSequence : Nat) : WorkerEnv :=
  { env with
    resolveSettlementRoots := fun session noPlay players =>
      (setup.resolve finalSequence session noPlay players).toOption.bind ResolvedRoots.words }

/-- `buildProposalV3FromDb` with these roots. -/
def build (env : WorkerEnv) (reads : Reads) (db : WorkerDb)
    (session : SessionRow) : Option V3Proposal :=
  buildProposalV3FromDb (setup.environment env reads.finalSequence) reads db session

end RootSetup

/-! ## The players that are paid out -/

/-- The players of a proposal, with their end balances after the repair. -/
def payoutPlayers (reads : Reads) (db : WorkerDb) (session : SessionRow) :
    Option (List PlayerStackInput) := do
  let stackRows := if reads.stackQuery then db.loadStacks session else []
  if stackRows.isEmpty then none
  let merged ← mergedPlayers reads (reads.noPlay db session) stackRows
  let dbOpening ← dbOpeningRaw stackRows
  return repairEndingBalancesForVaultLocks merged dbOpening

/-- The leaves of the players that are paid out. -/
def payoutLeaves (reads : Reads) (db : WorkerDb) (session : SessionRow) :
    List BalanceLeafInput :=
  balanceLeavesFromPlayers session.sessionId reads.finalSequence
    ((payoutPlayers reads db session).getD [])

/-- The row of a player in a settlement. -/
def paidRow (leaf : BalanceLeafInput) : SettlementPlayer where
  user := leaf.arenaAccount
  startLocked := leaf.openingBalance
  endBalance := leaf.currentBalance

/-- A proposal pays out the players, and its balance root is theirs. -/
structure Describes (deployment : Deployment) (reads : Reads) (db : WorkerDb)
    (session : SessionRow) (proposal : V3Proposal) : Prop where
  players : proposal.players = (payoutLeaves reads db session).map paidRow
  finalSequence : proposal.settlement.finalSequence = reads.finalSequence
  balanceRoot : buildBalanceRoot deployment (payoutLeaves reads db session) =
      .ok proposal.settlement.balanceRoot

/-- No balance root is stored for the session, or it is the root of the
players that are paid out. -/
def StoredDescribes (setup : RootSetup) (reads : Reads) (db : WorkerDb)
    (session : SessionRow) : Prop :=
  ∀ text, given setup.stored.storedBalanceRoot = some text →
    ∃ root, readWord (toBytes32 text) = some root ∧
      buildBalanceRoot setup.deployment (payoutLeaves reads db session) = .ok root

section Built

variable {setup : RootSetup} {env : WorkerEnv} {reads : Reads} {db : WorkerDb}
variable {session : SessionRow} {proposal : V3Proposal}

/-- What a built proposal is made of. -/
structure BuiltOf (setup : RootSetup) (reads : Reads) (db : WorkerDb) (session : SessionRow)
    (proposal : V3Proposal) (players : List PlayerStackInput)
    (resolved : ResolvedRoots) : Prop where
  paid : payoutPlayers reads db session = some players
  nonempty : players ≠ []
  resolves : setup.resolve reads.finalSequence session (reads.noPlay db session)
      players = .ok resolved
  rows : proposal.players = (payoutLeaves reads db session).map paidRow
  finalSequence : proposal.settlement.finalSequence = reads.finalSequence
  balanceRoot : TextOf resolved.balanceRoot proposal.settlement.balanceRoot

theorem ResolvedRoots.words_eq_some_iff {resolved : ResolvedRoots} {roots : Roots} :
    resolved.words = some roots ↔ TextOf resolved.finalEventRoot roots.finalEventRoot ∧
        TextOf resolved.handRoot roots.handRoot ∧
        TextOf resolved.balanceRoot roots.balanceRoot := by
  simp only [ResolvedRoots.words, Option.bind_eq_bind, Option.bind_eq_some_iff,
    Option.pure_def, Option.some.injEq, readWord_eq_some_iff]
  constructor
  · rintro ⟨event, hasEvent, hand, hasHand, balance, hasBalance, rfl⟩
    exact ⟨hasEvent, hasHand, hasBalance⟩
  · rintro ⟨hasEvent, hasHand, hasBalance⟩
    exact ⟨_, hasEvent, _, hasHand, _, hasBalance, rfl⟩

theorem buildV3Proposal_eq_some {env : WorkerEnv} {sessionId : Bytes32} {finalSequence : Nat}
    {roots : Roots} {inputs : List PlayerStackInput}
    (made : buildV3Proposal env sessionId finalSequence roots inputs = some proposal) :
    inputs ≠ [] ∧ proposal.players =
        (balanceLeavesFromPlayers sessionId finalSequence inputs).map paidRow ∧
      proposal.settlement.finalSequence = finalSequence ∧
      proposal.settlement.balanceRoot = roots.balanceRoot := by
  rw [buildV3Proposal] at made
  split at made
  case isTrue => cases made
  case isFalse taken =>
    cases made
    refine ⟨?_, ?_, rfl, rfl⟩
    · rintro rfl
      exact taken rfl
    · rw [balanceLeavesFromPlayers, List.map_map]
      rfl

theorem exists_builtOf (built : setup.build env reads db session = some proposal) :
    ∃ players resolved,
      BuiltOf setup reads db session proposal players resolved := by
  unfold RootSetup.build buildProposalV3FromDb at built
  cases queried : reads.stackQuery with
  | false =>
    rw [queried] at built
    cases built
  | true =>
    rw [queried] at built
    simp only [if_true, Option.bind_eq_bind] at built
    split at built
    case isTrue => cases built
    case isFalse rows =>
      simp only [Option.bind_eq_some_iff] at built
      rcases built with ⟨merged, run, dbOpening, stored, roots, resolves, result, build, inserted⟩
      split at inserted
      case isFalse => cases inserted
      case isTrue =>
        cases inserted
        rcases buildV3Proposal_eq_some build with ⟨nonempty, players, sequence, root⟩
        rcases Option.bind_eq_some_iff.mp resolves with ⟨resolved, answer, words⟩
        have paid : payoutPlayers reads db session = some
              (repairEndingBalancesForVaultLocks merged dbOpening) := by
          unfold payoutPlayers
          rw [queried, if_pos rfl]
          simp only [Option.bind_eq_bind]
          rw [if_neg rows, run, stored]
          rfl
        refine ⟨_, resolved, paid, nonempty, ?_, ?_, sequence, ?_⟩
        · cases run : setup.resolve reads.finalSequence session (reads.noPlay db session)
              (repairEndingBalancesForVaultLocks merged dbOpening) with
          | error reason =>
            rw [run] at answer
            cases answer
          | ok other =>
            rw [run] at answer
            cases answer
            rfl
        · rw [payoutLeaves, paid, Option.getD_some]
          exact players
        · rw [root]
          exact (ResolvedRoots.words_eq_some_iff.mp words).2.2

theorem BuiltOf.payoutLeaves_eq {players : List PlayerStackInput} {resolved : ResolvedRoots}
    (made : BuiltOf setup reads db session proposal players resolved) :
    payoutLeaves reads db session = balanceLeavesFromPlayers session.sessionId reads.finalSequence
        players := by
  rw [payoutLeaves, made.paid, Option.getD_some]

/-- The balance root of a proposal is the one that was resolved. -/
theorem BuiltOf.exists_resolved {players : List PlayerStackInput} {resolved : ResolvedRoots}
    (made : BuiltOf setup reads db session proposal players resolved) :
    ∃ stub, resolveBalanceRoot setup.deployment setup.keccakLike (requireRealRoots setup.gate)
          { sessionId := wordHex session.sessionId
            stored := setup.stored
            finalSequence := reads.finalSequence
            balanceLeaves := payoutLeaves reads db session
            noPlay := reads.noPlay db session } =
        .ok (resolved.balanceRoot, stub) := by
  have resolves := made.resolves
  rw [RootSetup.resolve, resolveSettlementRoots, ← made.payoutLeaves_eq, bind_eq_ok_iff] at resolves
  rcases resolves with ⟨event, -, resolves⟩
  rw [bind_eq_ok_iff] at resolves
  rcases resolves with ⟨hand, -, resolves⟩
  rw [bind_eq_ok_iff] at resolves
  rcases resolves with ⟨balance, found, resolves⟩
  dsimp only at resolves
  have kept : balance.1 = resolved.balanceRoot := by
    split at resolves
    case isTrue =>
      simp only [bind_eq_ok_iff, pure_eq_ok_iff] at resolves
      rcases resolves with ⟨-, -, -, -, -, -, rfl⟩
      rfl
    case isFalse =>
      rw [pure_eq_ok_iff] at resolves
      rw [← resolves]
  exact ⟨balance.2, by rw [found, ← kept]⟩

theorem BuiltOf.payoutLeaves_ne_nil {players : List PlayerStackInput} {resolved : ResolvedRoots}
    (made : BuiltOf setup reads db session proposal players resolved) :
    payoutLeaves reads db session ≠ [] := by
  rw [made.payoutLeaves_eq, balanceLeavesFromPlayers]
  exact fun empty => made.nonempty (List.map_eq_nil_iff.mp empty)

/-- A stored root becomes the root of the proposal. -/
theorem readWord_of_stored {text : String}
    (built : setup.build env reads db session = some proposal)
    (stored : given setup.stored.storedBalanceRoot = some text) :
    readWord (toBytes32 text) = some proposal.settlement.balanceRoot := by
  rcases exists_builtOf built with ⟨players, resolved, made⟩
  rcases made.exists_resolved with ⟨stub, found⟩
  rw [resolveBalanceRoot, stored, Option.elim_some] at found
  have kept : toBytes32 text = resolved.balanceRoot := congrArg Prod.fst (Except.ok.inj found)
  rw [kept]
  exact readWord_eq_some_iff.mpr made.balanceRoot

/-- Where no root is stored, the root is built of the players. -/
theorem buildBalanceRoot_of_not_stored (built : setup.build env reads db session = some proposal)
    (missing : given setup.stored.storedBalanceRoot = none) :
    buildBalanceRoot setup.deployment (payoutLeaves reads db session) =
      .ok proposal.settlement.balanceRoot := by
  rcases exists_builtOf built with ⟨players, resolved, made⟩
  rcases made.exists_resolved with ⟨stub, found⟩
  rw [resolveBalanceRoot, missing, Option.elim_none,
    if_pos (List.length_pos_iff.mpr made.payoutLeaves_ne_nil)] at found
  cases root : buildBalanceRoot setup.deployment (payoutLeaves reads db session) with
  | error reason =>
    rw [root] at found
    cases found
  | ok word =>
    rw [root] at found
    have kept : wordHex word = resolved.balanceRoot := congrArg Prod.fst (Except.ok.inj found)
    have written := made.balanceRoot.digits
    rw [← kept, normalizeHex_wordHex] at written
    rw [wordHex_injective written]

/-- A proposal describes what it pays out exactly when no other balance root
is stored. -/
theorem describes_iff (built : setup.build env reads db session = some proposal) :
    Describes setup.deployment reads db session proposal ↔
      StoredDescribes setup reads db session := by
  rcases exists_builtOf built with ⟨players, resolved, made⟩
  constructor
  · intro describes text stored
    exact ⟨_, readWord_of_stored built stored, describes.balanceRoot⟩
  · intro stored
    refine ⟨made.rows, made.finalSequence, ?_⟩
    cases checkpoint : given setup.stored.storedBalanceRoot with
    | none => exact buildBalanceRoot_of_not_stored built checkpoint
    | some text =>
      rcases stored text checkpoint with ⟨root, read, builds⟩
      rw [readWord_of_stored built checkpoint] at read
      cases read
      exact builds

/-- Proposals that describe what they pay out, and have one balance root, pay
out the same. -/
theorem Describes.players_perm {deployment : Deployment} {reads' : Reads} {db' : WorkerDb}
    {session' : SessionRow} {proposal' : V3Proposal}
    (typed : ∀ bytes, deployment.keccak256 bytes < 2 ^ 256)
    (apart : RootsApart deployment (payoutLeaves reads db session)
        (payoutLeaves reads' db' session'))
    (describes : Describes deployment reads db session proposal)
    (describes' : Describes deployment reads' db' session' proposal')
    (equal : proposal.settlement.balanceRoot = proposal'.settlement.balanceRoot) :
    proposal.players.Perm proposal'.players := by
  rw [describes.players, describes'.players]
  apply List.Perm.map
  apply buildBalanceRoot_injective typed apart describes.balanceRoot
  rw [equal]
  exact describes'.balanceRoot

end Built

/-- A word that may be a root: it fits, and is not zero. -/
structure RealRoot (word : Bytes32) : Prop where
  fits : word < 2 ^ 256
  ne_zero : word ≠ 0

section RealRoots

variable {word event hand balance : Bytes32}

theorem RealRoot.toBytes32_wordHex (real : RealRoot word) :
    toBytes32 (wordHex word) = wordHex word := by
  have length : (padded 64 word).length = 64 :=
    length_padded (by decide) (real.fits.trans_eq (by norm_num))
  apply String.toList_injective
  rw [toBytes32, toList_wordHex]
  simp [length, List.isPrefixOf]

theorem RealRoot.readWord_wordHex (real : RealRoot word) : readWord (wordHex word) = some word :=
  readWord_eq_some_iff.mpr (textOf_wordHex real.fits)

theorem RealRoot.assertRealRoot_wordHex (real : RealRoot word) (label : String) :
    assertRealRoot (wordHex word) label = .ok () := by
  have nonzero : wordHex word ≠ ZERO32 := fun equal => real.ne_zero (wordHex_injective equal)
  simp [assertRealRoot, real.readWord_wordHex, nonzero]

@[simp]
theorem given_wordHex (word : Bytes32) : given (some (wordHex word)) = some (wordHex word) := by
  have nonempty : wordHex word ≠ "" := by
    intro empty
    have lists := congrArg String.toList empty
    rw [toList_wordHex] at lists
    cases lists
  simp [given, nonempty]

/-- Roots that are stored as words. -/
def storedWords (event hand balance : Bytes32) : StoredRoots where
  storedEventRoot := some (wordHex event)
  storedHandRoot := some (wordHex hand)
  storedBalanceRoot := some (wordHex balance)

variable {setup : RootSetup}

theorem RootSetup.resolve_of_storedWords (realEvent : RealRoot event) (realHand : RealRoot hand)
    (realBalance : RealRoot balance) (stored : setup.stored = storedWords event hand balance)
    (finalSequence : Nat) (session : SessionRow) (noPlay : Bool) (players : List PlayerStackInput) :
    setup.resolve finalSequence session noPlay players = .ok
        { finalEventRoot := wordHex event
          handRoot := wordHex hand
          balanceRoot := wordHex balance
          usedStub := false } := by
  rw [RootSetup.resolve, resolveSettlementRoots, stored]
  simp only [storedWords, resolveEventRoot, resolveHandRoot,
    resolveBalanceRoot, given_wordHex, Option.elim_some,
    realEvent.toBytes32_wordHex, realHand.toBytes32_wordHex, realBalance.toBytes32_wordHex]
  cases requireRealRoots setup.gate with
  | false => simp [bind, Except.bind, pure, Except.pure]
  | true =>
    simp [bind, Except.bind, pure, Except.pure,
      realEvent.assertRealRoot_wordHex, realHand.assertRealRoot_wordHex,
      realBalance.assertRealRoot_wordHex]

/-- Real roots that are stored are what a proposal carries. -/
theorem RootSetup.environment_of_storedWords (realEvent : RealRoot event) (realHand : RealRoot hand)
    (realBalance : RealRoot balance) (stored : setup.stored = storedWords event hand balance)
    (env : WorkerEnv) (finalSequence : Nat) :
    setup.environment env finalSequence =
      { env with
        resolveSettlementRoots := fun _ _ _ => some ⟨event, hand, balance⟩ } := by
  rw [RootSetup.environment]
  congr 1
  funext session noPlay players
  rw [RootSetup.resolve_of_storedWords realEvent realHand realBalance stored,
    Except.toOption, Option.bind_some, ResolvedRoots.words_eq_some_iff]
  exact ⟨textOf_wordHex realEvent.fits, textOf_wordHex realHand.fits,
      textOf_wordHex realBalance.fits⟩

end RealRoots

/-! ## Stored checkpoints -/

namespace Example

open Mozetto.Chain.Example (deployment)

/-- Both players have locked as much as they bought in with. -/
def lockedReads : Reads where
  stackQuery := true
  dealtQuery := true
  inserted := true
  finalSequence := 3
  vaultLocks := some fun _ => 20000

/-- The same table, where nobody has won anything. -/
def evenDb : WorkerDb := { db with tableSessions := [tableSession 1 2, tableSession 2 2] }

/-- Stub roots are forbidden; all roots are stored. -/
def setupWith (balanceRoot : Bytes32) : RootSetup where
  deployment := deployment
  keccakLike := fun _ => wordHex 9
  gate := { REQUIRE_REAL_ROOTS := some "1", MOZETTO_GOLDEN := none }
  stored := storedWords 77 78 balanceRoot

/-- The leaf of a player at that table with this end balance. -/
def leafOf (index : Fin 900) (endBalance : Nat) : BalanceLeafInput where
  sessionId := 5
  epoch := 0
  arenaAccount := Chain.Example.accountOf index
  seat := index
  openingBalance := 20000
  currentBalance := endBalance
  cumulativeRake := 0
  lastSequence := 3

def wonLeaves : List BalanceLeafInput := [leafOf 1 30000, leafOf 2 10000]

def evenLeaves : List BalanceLeafInput := [leafOf 1 20000, leafOf 2 20000]

theorem payoutLeaves_db : payoutLeaves lockedReads db session = wonLeaves := by
  decide +kernel

theorem payoutLeaves_evenDb : payoutLeaves lockedReads evenDb session = evenLeaves := by
  decide +kernel

/-- The root of leaves in the order of their seats. -/
def rootOf (leaves : List BalanceLeafInput) : Bytes32 :=
  treeRoot deployment.keccak256 (leaves.map (ArenaVaultV2.balanceLeafHash deployment))

/-- Leaves that fit, one for each seat and in the order of the seats. -/
structure Orderly (leaves : List BalanceLeafInput) : Prop where
  ordered : leaves.Pairwise fun leaf other => decide (leaf.seat ≤ other.seat) = true
  nonempty : leaves ≠ []
  distinct : (leaves.map (·.seat)).Nodup
  encodable : ∀ leaf ∈ leaves, Encodable leaf

theorem orderly_wonLeaves : Orderly wonLeaves where
  ordered := by decide
  nonempty := by decide
  distinct := by decide
  encodable := by decide +kernel

theorem orderly_evenLeaves : Orderly evenLeaves where
  ordered := by decide
  nonempty := by decide
  distinct := by decide
  encodable := by decide +kernel

section Leaves

variable {leaves : List BalanceLeafInput} {root : Bytes32}

theorem Orderly.orderedBySeat (orderly : Orderly leaves) :
    Commitments.orderedBySeat leaves = leaves := List.mergeSort_of_pairwise orderly.ordered

theorem Orderly.buildBalanceRoot_iff (orderly : Orderly leaves) :
    buildBalanceRoot deployment leaves = .ok root ↔ rootOf leaves = root := by
  rw [buildBalanceRoot_eq_ok_iff, orderly.orderedBySeat]
  exact ⟨fun parts => parts.2.2.2, fun same =>
    ⟨orderly.nonempty, orderly.distinct, orderly.encodable, same⟩⟩

/-- What is hashed for the root of leaves in order. -/
theorem Orderly.balanceInputs_eq (orderly : Orderly leaves) : balanceInputs deployment leaves =
    leaves.map (leafBytes deployment) ++ (treePairs (parentWord deployment.keccak256) (padded 0
          (leaves.map (ArenaVaultV2.balanceLeafHash deployment)))
        (depth leaves.length) 0).map pairBytes := by
  rw [balanceInputs, balancePairs, orderly.orderedBySeat]

end Leaves

/-- The worker's environment when these roots are stored. -/
def envWith (balanceRoot : Bytes32) : WorkerEnv :=
  { env with
    resolveSettlementRoots := fun _ _ _ => some ⟨77, 78, balanceRoot⟩ }

theorem build_setupWith {root : Bytes32} (real : RealRoot root) (db : WorkerDb) :
    (setupWith root).build env lockedReads db session =
      buildProposalV3FromDb (envWith root) lockedReads db session := by
  rw [RootSetup.build, RootSetup.environment_of_storedWords ⟨by decide, by decide⟩
      ⟨by decide, by decide⟩ real rfl]
  rfl

theorem realRoot_wonLeaves : RealRoot (rootOf wonLeaves) where
  fits := by decide +kernel
  ne_zero := by decide +kernel

theorem realRoot_evenLeaves : RealRoot (rootOf evenLeaves) where
  fits := by decide +kernel
  ne_zero := by decide +kernel

theorem rootsApart_leaves : RootsApart deployment wonLeaves evenLeaves := by
  constructor
  · rw [orderly_wonLeaves.balanceInputs_eq, orderly_evenLeaves.balanceInputs_eq]
    decide +kernel
  · rw [orderly_wonLeaves.balanceInputs_eq, orderly_evenLeaves.balanceInputs_eq]
    decide +kernel

theorem storedDescribes_rootOf
    {db : WorkerDb} {leaves : List BalanceLeafInput} (orderly : Orderly leaves)
    (paid : payoutLeaves lockedReads db session = leaves) (real : RealRoot (rootOf leaves)) :
    StoredDescribes (setupWith (rootOf leaves)) lockedReads db session := by
  intro text found
  have equal := (given_wordHex (rootOf leaves)).symm.trans found
  rw [← Option.some.inj equal, real.toBytes32_wordHex, paid]
  exact ⟨rootOf leaves, real.readWord_wordHex, orderly.buildBalanceRoot_iff.mpr rfl⟩

end Example

end Mozetto.Worker
