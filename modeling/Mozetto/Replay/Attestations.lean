import Mozetto.EventStore.EventHashChain
import Mozetto.Outbox.Schema
import Mozetto.Worker.Proposal

/-!
# Verification of stored sessions

The replay verifier reads the rows of `canonical_game_events` of a session and
checks them as one of two kinds: chains of JSON texts, written before the
typed events were, and chains of typed events.  A column that a row of the
other kind leaves empty is read as its default.
-/

namespace Mozetto.Replay

open Mozetto.EventStore
open Mozetto.Library.Guarded
open Mozetto.Outbox (JsNumber JsValue Runtime)

/-! ## Rows -/

inductive SchemaKind where
  | legacy_json
  | poker_event_v1
deriving DecidableEq, Repr

/-- A row of `canonical_game_events`, in the columns that are selected. -/
structure DbEventRow where
  sessionId : String
  sequence : Int
  eventHash : String
  previousEventHash : String
  eventType : String
  schemaKind : SchemaKind
  epoch : Option Int
  handNumber : Option Int
  protocolVersion : Option Int
  eventTypeCode : Option Int
  hasActorSeat : Option Bool
  actorSeat : Option Int
  publicPayloadHash : Option String
  privatePayloadCommitment : Option String
  elapsedMs : Option Int
  engineHash : Option String
  publicPayload : JsValue
  handId : Option String
  timestampMs : Option Int

structure LegacyCanonicalRow where
  sequence : Int
  eventHash : String
  previousEventHash : String
  eventType : String
  publicPayload : JsValue
  handId : Option String
  privatePayloadCommitment : Option String
  timestampMs : Option Int
  sessionId : String

structure PokerEventV1Row where
  sequence : Int
  epoch : Option Int
  handNumber : Option Int
  protocolVersion : Int
  eventTypeCode : Int
  hasActorSeat : Bool
  actorSeat : Int
  publicPayloadHash : String
  privatePayloadCommitment : Option String
  elapsedMs : Int
  previousEventHash : String
  engineHash : String
  eventHash : String
  sessionId : String

/-- The code of an issue is its text in the answers. -/
structure VerifyIssue where
  sequence : Option String
  code : String
  detail : String
deriving DecidableEq, Repr

structure ChainVerifyOutcome where
  ok : Bool
  schemaKind : SchemaKind
  schema : String
  eventRoot : Hex
  finalSequence : Int
  eventCount : Nat
  issues : List VerifyIssue
deriving DecidableEq, Repr

/-- Lower case, with the prefix that may be missing. -/
def asHex (raw : String) : Hex :=
  normalizeHex (if ['0', 'x'].isPrefixOf raw.toList then raw
    else String.ofList ('0' :: 'x' :: raw.toList))

/-! ## Chains of JSON texts -/

structure CanonicalPokerEvent where
  schemaVersion : String
  sessionId : String
  handId : Option String
  sequence : JsNumber
  eventType : String
  publicPayload : JsValue
  privatePayloadCommitment : Option String
  previousEventHash : Hex
  timestampMs : JsNumber

def CANONICAL_SCHEMA : String := "mozetto-poker-v1"

/-- A text, or `null` without one. -/
def orNull (text : Option String) : JsValue := text.elim .null .string

section Json

variable (viem : Viem) (runtime : Runtime)

/-- The hash before the first event of a session. -/
def GENESIS_EVENT_HASH : Hex :=
  viem.keccak256 (viem.toBytes (CANONICAL_SCHEMA ++ ":genesis"))

def canonicalJson (event : CanonicalPokerEvent) : Except String String :=
  JsValue.stringify runtime
    [("schemaVersion", .string event.schemaVersion),
      ("sessionId", .string event.sessionId),
      ("handId", orNull event.handId),
      ("sequence", .number event.sequence),
      ("eventType", .string event.eventType),
      ("publicPayload", event.publicPayload),
      ("privatePayloadCommitment", orNull event.privatePayloadCommitment),
      ("previousEventHash", .string event.previousEventHash),
      ("timestampMs", .number event.timestampMs)]

def hashEvent (event : CanonicalPokerEvent) : Except String Hex :=
  (canonicalJson runtime event).map fun json =>
    viem.keccak256 (viem.toBytes json)

/-- `Number` of a whole number. -/
def numberOf (value : Int) : JsNumber := (runtime.number (toString value)).elim .nan .finite

/-- Whether a value counts as true; of numbers, zero and `NaN` do not. -/
def isTruthy : JsValue → Bool
  | .undefined => false
  | .null => false
  | .bool value => value
  | .number (.finite value) => value ≠ 0
  | .number (.infinity _) => true
  | .number .nan => false
  | .bigint value => value ≠ 0
  | .string value => value ≠ ""
  | .array _ => true
  | .object _ => true

/-- The event of a row, whose time is 0 where it has none. -/
def LegacyCanonicalRow.event (row : LegacyCanonicalRow) : CanonicalPokerEvent where
  schemaVersion := CANONICAL_SCHEMA
  sessionId := row.sessionId
  handId := row.handId
  sequence := numberOf runtime row.sequence
  eventType := row.eventType
  publicPayload := row.publicPayload
  privatePayloadCommitment := row.privatePayloadCommitment
  previousEventHash := asHex row.previousEventHash
  timestampMs := row.timestampMs.elim (.finite 0) (numberOf runtime)

/-- The hash of a row is computed again only when it has all it takes. -/
def LegacyCanonicalRow.isRecomputed (row : LegacyCanonicalRow) : Bool :=
  isTruthy row.publicPayload && row.timestampMs.isSome

/-- The issues of one row, found after the given hash. -/
def legacyRowIssues (expectedPrev : Hex) (row : LegacyCanonicalRow) :
    Except String (List VerifyIssue) := do
  let prev := asHex row.previousEventHash
  let stored := asHex row.eventHash
  let broken :=
    if prev ≠ normalizeHex expectedPrev then
      [⟨some (toString row.sequence), "PREV_BREAK",
        "previous_event_hash " ++ prev ++ " != expected " ++ expectedPrev⟩]
    else []
  if row.isRecomputed then
    let recomputed ← hashEvent viem runtime (row.event runtime)
    let mismatch :=
      if normalizeHex recomputed ≠ stored then
        [⟨some (toString row.sequence), "HASH_MISMATCH",
          "stored " ++ stored ++ " != recomputed " ++ recomputed⟩]
      else []
    return broken ++ mismatch
  else return broken

/-- The loop of `verifyLegacyHashChain`: the issues, and the tip. -/
def legacyIssuesFrom (expectedPrev : Hex) :
    List LegacyCanonicalRow → Except String (List VerifyIssue × Hex)
  | [] => return ([], expectedPrev)
  | row :: rest => do
      let here ← legacyRowIssues viem runtime expectedPrev row
      let more ← legacyIssuesFrom (asHex row.eventHash) rest
      return (here ++ more.1, more.2)

/-- What is answered without any row. -/
def emptyChain (kind : SchemaKind) (schema : String) (genesis : Hex) : ChainVerifyOutcome where
  ok := false
  schemaKind := kind
  schema := schema
  eventRoot := genesis
  finalSequence := 0
  eventCount := 0
  issues := [⟨none, "EMPTY_CHAIN", "no canonical events"⟩]

def verifyLegacyHashChain (rows : List LegacyCanonicalRow) :
    Except String ChainVerifyOutcome :=
  rows.getLast?.elim (.ok (emptyChain .legacy_json CANONICAL_SCHEMA (GENESIS_EVENT_HASH viem)))
    fun last => do
      let (issues, tip) ← legacyIssuesFrom viem runtime (GENESIS_EVENT_HASH viem) rows
      return {
        ok := issues.isEmpty
        schemaKind := .legacy_json
        schema := CANONICAL_SCHEMA
        eventRoot := tip
        finalSequence := last.sequence
        eventCount := rows.length
        issues := issues }

end Json

/-! ## Chains of typed events -/

def rowToEvent (row : PokerEventV1Row) (sessionId : String) (epoch : Int) : PokerEventV1 where
  protocolVersion := row.protocolVersion
  sessionId := asHex (if row.sessionId = "" then sessionId else row.sessionId)
  epoch := row.epoch.getD epoch
  handNumber := row.handNumber.getD 0
  sequence := row.sequence
  eventType := row.eventTypeCode
  hasActorSeat := row.hasActorSeat
  actorSeat := row.actorSeat
  publicPayloadHash := asHex row.publicPayloadHash
  privatePayloadCommitment := asHex (row.privatePayloadCommitment.getD ZERO_EVENT_HASH)
  elapsedMs := row.elapsedMs
  previousEventHash := asHex row.previousEventHash
  engineHash := asHex row.engineHash

/-- The text of a code of the store. -/
def codeText : ErrorCode → String
  | .sessionMismatch => "SESSION_MISMATCH"
  | .epochMismatch => "EPOCH_MISMATCH"
  | .unknownEventType => "UNKNOWN_EVENT_TYPE"
  | .actorSeatInvalid => "ACTOR_SEAT_INVALID"
  | .sequenceGap => "SEQUENCE_GAP"
  | .prevBreak => "PREV_BREAK"
  | .hashMismatch => "HASH_MISMATCH"
  | .canonicalBytesMismatch => "CANONICAL_BYTES_MISMATCH"

def mapStoreIssues (issues : List EventHashChain.ChainVerifyIssue) :
    List VerifyIssue :=
  issues.map fun issue =>
    ⟨some (toString issue.sequence), codeText issue.code, issue.detail⟩

/-- The text of an error that is thrown. -/
def errorText : EventStoreError → String
  | .store _ message => message
  | .encoding reason => reason

section Typed

variable (viem : Viem)

def verifyPokerEventV1Chain (sessionId : String) (epoch : Int) (rows : List PokerEventV1Row) :
    Except String ChainVerifyOutcome :=
  rows.getLast?.elim
    (.ok (emptyChain .poker_event_v1 "MOZETTO_EVENT_V1" ZERO_EVENT_HASH))
    fun last => do
      let check ← (verifyEventHashChain viem (rows.map (rowToEvent · sessionId epoch))
          (some (rows.map (asHex ·.eventHash)))).mapError errorText
      return {
        ok := check.ok
        schemaKind := .poker_event_v1
        schema := "MOZETTO_EVENT_V1"
        eventRoot := check.tip
        finalSequence := last.sequence
        eventCount := rows.length
        issues := mapStoreIssues check.issues }

/-! ## Rows of either kind -/

/-- Rows of both kinds together are checked as typed events. -/
def detectSchemaKind (rows : List DbEventRow) : SchemaKind :=
  if SchemaKind.poker_event_v1 ∈ rows.map (·.schemaKind) then .poker_event_v1
  else .legacy_json

/-- A row read as a typed event. -/
def DbEventRow.typed (row : DbEventRow) : PokerEventV1Row where
  sequence := row.sequence
  epoch := row.epoch
  handNumber := row.handNumber
  protocolVersion := row.protocolVersion.getD 3
  eventTypeCode := row.eventTypeCode.getD 0
  hasActorSeat := row.hasActorSeat.getD false
  actorSeat := row.actorSeat.getD 0
  publicPayloadHash := row.publicPayloadHash.getD (GENESIS_EVENT_HASH viem)
  privatePayloadCommitment := row.privatePayloadCommitment
  elapsedMs := row.elapsedMs.getD 0
  previousEventHash := row.previousEventHash
  engineHash := row.engineHash.getD (GENESIS_EVENT_HASH viem)
  eventHash := row.eventHash
  sessionId := row.sessionId

/-- A row read as a JSON event. -/
def DbEventRow.legacy (row : DbEventRow) : LegacyCanonicalRow where
  sequence := row.sequence
  eventHash := row.eventHash
  previousEventHash := row.previousEventHash
  eventType := row.eventType
  publicPayload := row.publicPayload
  handId := row.handId
  privatePayloadCommitment := row.privatePayloadCommitment
  timestampMs := row.timestampMs
  sessionId := row.sessionId

/-- The epoch of the first row stands in for those that have none. -/
def firstEpoch (rows : List DbEventRow) : Int := (rows.head?.bind (·.epoch)).getD 0

variable (runtime : Runtime)

def verifyDbRows (sessionId : String) (rows : List DbEventRow) :
    Except String ChainVerifyOutcome :=
  if detectSchemaKind rows = .poker_event_v1 then
    verifyPokerEventV1Chain viem sessionId (firstEpoch rows) (rows.map (·.typed viem))
  else verifyLegacyHashChain viem runtime (rows.map (·.legacy))

end Typed

/-! ## Proposals -/

structure SettlementProposalInput where
  finalSequence : Int
  eventRoot : Hex

/-- The issues of a proposal for a chain; it is fine without any. -/
def verifySettlementProposal (chain : ChainVerifyOutcome) (proposal : SettlementProposalInput) :
    List VerifyIssue :=
  (if chain.ok = false then
      [⟨none, "CHAIN_INVALID",
        "cannot attest settlement against an invalid event chain"⟩]
    else []) ++
    (if asHex proposal.eventRoot ≠ normalizeHex chain.eventRoot then
      [⟨none, "PROPOSAL_ROOT_MISMATCH",
        "proposal eventRoot " ++ proposal.eventRoot ++ " != chain tip " ++ chain.eventRoot⟩]
    else []) ++
    if proposal.finalSequence ≠ chain.finalSequence then
      [⟨none, "PROPOSAL_SEQUENCE_MISMATCH",
        "proposal finalSequence " ++ toString proposal.finalSequence ++
          " != chain " ++ toString chain.finalSequence⟩]
    else []

end Mozetto.Replay

/-!
## Attestations of the replay verifier

The two endpoints of the replay verifier that return a signature:
`/v1/verify-session`, which checks the stored rows first, and
`/v1/attest-settlement-v3`, which signs what it is sent.  Keys and signing
come from a package outside the repository; a signature is kept together with
what it signs.
-/

namespace Mozetto.Replay

open Mozetto.EventStore
open Mozetto.Library.Guarded
open Mozetto.Outbox (JsNumber JsValue Runtime)
open Mozetto.Worker (Numeric)

/-! ### Words of texts -/

/-- The digits of a text without its prefix. -/
def hexDigits (raw : String) : List Char :=
  if ['0', 'x'].isPrefixOf raw.toList then raw.toList.drop 2 else raw.toList

/-- The last 64 digits, filled up with zeros. -/
def lastWord (digits : List Char) : List Char :=
  let filled := List.replicate (64 - digits.length) '0' ++ digits
  filled.drop (filled.length - 64)

def toBytes32 (raw : String) : Hex := String.ofList ('0' :: 'x' :: lastWord (hexDigits raw))

def isHexDigit (char : Char) : Bool :=
  char.isDigit || ('a' ≤ char && char ≤ 'f') || ('A' ≤ char && char ≤ 'F')

/-- 64 digits are taken in lower case, any other text is hashed. -/
def sessionIdToBytes32 (viem : Viem) (sessionId : String) : Hex :=
  let digits := hexDigits sessionId
  if digits.length = 64 ∧ digits.all isHexDigit then
    normalizeHex (String.ofList ('0' :: 'x' :: digits))
  else viem.keccak256 (viem.toBytes sessionId)

/-! ### What is signed -/

structure FinalSettlement where
  chainId : Int
  verifyingContract : String
  sessionId : Hex
  finalSequence : Int
  eventRoot : Hex
  handRoot : Hex
  balanceRoot : Hex
  totalRake : Nat
  deadline : Int
deriving DecidableEq

structure FinalSettlementV3Message where
  sessionId : Hex
  finalSequence : Int
  finalEventRoot : Hex
  handRoot : Hex
  balanceRoot : Hex
  randomnessEpochId : Hex
  openingTotal : Int
  endingPlayerTotal : Int
  totalRake : Int
  proofBatchSequence : Int
  modelPolicyHash : Hex
  profileSetHash : Hex
  gameTemplateId : Hex
  engineHash : Hex
  deadline : Int
  chainId : Int
  verifyingContract : String
deriving DecidableEq

inductive Content where
  | finalSettlement (message : FinalSettlement)
  | text (message : String)
  | finalSettlementV3 (message : FinalSettlementV3Message)
deriving DecidableEq

structure Signature where
  content : Content
  signature : Hex
deriving DecidableEq

/-- Checksummed addresses and signing, either of which may be refused. -/
structure Wallet where
  getAddress : String → Except String String
  sign : String → Content → Except String Hex

/-- Sign with a private key. -/
def Wallet.signature (wallet : Wallet) (key : String) (content : Content) :
    Except String Signature :=
  (wallet.sign key content).map fun signature => ⟨content, signature⟩

/-- The variables of the environment. -/
structure Env where
  REPLAY_ATTESTOR_PRIVATE_KEY : Option String
  SETTLEMENT_HUB_ADDRESS : Option String
  CHAIN_ID : Int

/-! ### The database -/

/-- A row of `settlement_proposals`, in the columns that are selected. -/
structure SettlementProposalRow where
  eventRoot : String
  handRoot : String
  balanceRoot : String
  totalRake : Numeric
  deadline : Int
  finalSequence : Int

/--
The rows of a session in the order of their sequences, and the newest open
proposal for it; reading the proposal may fail.
-/
structure Database where
  canonicalGameEvents : String → List DbEventRow
  settlementProposal : String → Except String (Option SettlementProposalRow)

/-! ### Verifying a session -/

/-- The body of a request, with the field that may be left out. -/
structure VerifyBody where
  sessionId : String
  requireProposalMatch : Option Bool

structure VerifySessionReply where
  ok : Bool
  error : Option String
  chain : ChainVerifyOutcome
  issues : List VerifyIssue
  proposalOk : Option Bool
  signature : Option Signature

section Endpoints

variable (viem : Viem) (runtime : Runtime) (wallet : Wallet)
variable (db : Database) (env : Env)

/-- A proposal that cannot be read counts as none. -/
def Database.proposal (sessionId : String) : Option SettlementProposalRow :=
  (db.settlementProposal sessionId).toOption.join

def SettlementProposalRow.input (row : SettlementProposalRow) : SettlementProposalInput where
  finalSequence := row.finalSequence
  eventRoot := toBytes32 row.eventRoot

/-- `first || second` of texts. -/
def orText (first second : String) : String :=
  if first = "" then second else first

/-- The settlement that is signed for a chain and a proposal. -/
def SettlementProposalRow.settlement (row : SettlementProposalRow) (sessionId : String)
    (chain : ChainVerifyOutcome) : Except String FinalSettlement :=
  row.totalRake.atoms.elim (.error "RangeError") fun totalRake =>
    .ok
      { chainId := env.CHAIN_ID
        verifyingContract :=
          env.SETTLEMENT_HUB_ADDRESS.getD (String.ofList ('0' :: 'x' :: List.replicate 40 '0'))
        sessionId := sessionIdToBytes32 viem sessionId
        finalSequence := chain.finalSequence
        eventRoot := toBytes32 (orText row.eventRoot chain.eventRoot)
        handRoot := toBytes32 row.handRoot
        balanceRoot := toBytes32 row.balanceRoot
        totalRake := totalRake
        deadline := row.deadline }

/-- What is signed for a session: its settlement, or that its replay is ok. -/
def sessionContent (sessionId : String) (chain : ChainVerifyOutcome) :
    Except String Content :=
  (db.proposal sessionId).elim
    (.ok (.text ("replay-ok:" ++ sessionId ++ ":" ++ chain.eventRoot)))
    fun row => (row.settlement viem env sessionId chain).map .finalSettlement

/-- The signature, when a key is configured. -/
def signSession (sessionId : String) (chain : ChainVerifyOutcome) :
    Except String (Option Signature) :=
  let key := env.REPLAY_ATTESTOR_PRIVATE_KEY.getD ""
  if key = "" then .ok none
  else do
    let content ← sessionContent viem db env sessionId chain
    return some (← wallet.signature key content)

/-- The issues of the proposal, if there is one. -/
def proposalCheck (sessionId : String) (chain : ChainVerifyOutcome) : Option (List VerifyIssue) :=
  (db.proposal sessionId).map fun row =>
    verifySettlementProposal chain row.input

/-- The detail of the first issue. -/
def firstDetail (issues : List VerifyIssue) (otherwise : String) : String :=
  (issues.head?.map (·.detail)).getD otherwise

/-- `/v1/verify-session`; an error is the answer to a bad body or a throw. -/
def verifySession (body : VerifyBody) : Except String VerifySessionReply := do
  revertIf (body.sessionId = "") "sessionId: too short"
  let chain ← verifyDbRows viem runtime body.sessionId (db.canonicalGameEvents body.sessionId)
  if chain.ok = false then
    return {
      ok := false
      error := some (firstDetail chain.issues "chain verification failed")
      chain := chain
      issues := chain.issues
      proposalOk := none
      signature := none }
  else
    let check := proposalCheck db body.sessionId chain
    if body.requireProposalMatch.getD true ∧ check.any (fun issues => !issues.isEmpty) then
      return {
        ok := false
        error :=
          some (firstDetail (check.getD []) "settlement proposal mismatch")
        chain := chain
        issues := chain.issues ++ check.getD []
        proposalOk := some false
        signature := none }
    else
      let signature ← signSession viem wallet db env body.sessionId chain
      return {
        ok := true
        error := none
        chain := chain
        issues := []
        proposalOk := check.map List.isEmpty
        signature := signature }

/-! ### Attesting a settlement -/

structure AttestorKeyError where
  code : String
  message : String
deriving DecidableEq, Repr

def invalidBody (message : String) : AttestorKeyError :=
  ⟨"INVALID_HTTP_BODY", message⟩

/-- White space, which `trim` takes off. -/
def isSpace (char : Char) : Bool :=
  [9, 10, 11, 12, 13, 32, 160, 5760, 8232, 8233, 8239, 8287, 12288, 65279].contains char.toNat ||
    (8192 ≤ char.toNat && char.toNat ≤ 8202)

def trim (text : String) : List Char :=
  ((text.toList.dropWhile isSpace).reverse.dropWhile isSpace).reverse

def asHex32 (raw : JsValue) (field : String) : Except AttestorKeyError Hex :=
  match raw with
  | .string text =>
    if trim text = [] then
      .error (invalidBody (field ++ " must be a hex string"))
    else if hexDigits text ≠ [] ∧ (hexDigits text).all isHexDigit then
      .ok (normalizeHex (toBytes32 text))
    else .error (invalidBody (field ++ " is not hex"))
  | _ => .error (invalidBody (field ++ " must be a hex string"))

/-- The value of digits in a base, unless one is none. -/
def digitsIn (base : Nat) (digits : List Char) : Option Nat :=
  let valueOf (char : Char) : Nat :=
    if char.isDigit then char.toNat - '0'.toNat
    else if 'a' ≤ char ∧ char ≤ 'f' then char.toNat - 'a'.toNat + 10
    else if 'A' ≤ char ∧ char ≤ 'F' then char.toNat - 'A'.toNat + 10
    else base
  if digits = [] ∨ digits.any (fun char => base ≤ valueOf char) then none
  else some (digits.foldl (fun value char => value * base + valueOf char) 0)

/-- `BigInt` of a text that is not blank. -/
def bigIntOfText (text : String) : Option Int :=
  match trim text with
  | '0' :: 'x' :: digits => (digitsIn 16 digits).map Int.ofNat
  | '0' :: 'X' :: digits => (digitsIn 16 digits).map Int.ofNat
  | '0' :: 'o' :: digits => (digitsIn 8 digits).map Int.ofNat
  | '0' :: 'O' :: digits => (digitsIn 8 digits).map Int.ofNat
  | '0' :: 'b' :: digits => (digitsIn 2 digits).map Int.ofNat
  | '0' :: 'B' :: digits => (digitsIn 2 digits).map Int.ofNat
  | '-' :: digits => (digitsIn 10 digits).map fun value => -(value : Int)
  | '+' :: digits => (digitsIn 10 digits).map Int.ofNat
  | digits => (digitsIn 10 digits).map Int.ofNat

def asBigIntField (raw : JsValue) (field : String) :
    Except AttestorKeyError Int :=
  match raw with
  | .bigint value => .ok value
  | .number (.finite value) => .ok (value.num.tdiv value.den)
  | .string text =>
    if trim text = [] then
      .error (invalidBody (field ++ " is required"))
    else
      (bigIntOfText text).elim
        (.error (invalidBody (field ++ " is not a valid integer"))) .ok
  | _ => .error (invalidBody (field ++ " is required"))

def asAddress (raw : JsValue) (field : String) :
    Except AttestorKeyError String :=
  match raw with
  | .string text =>
    if trim text = [] then
      .error (invalidBody (field ++ " must be an address"))
    else
      (wallet.getAddress text).mapError fun _ =>
        invalidBody (field ++ " is not a valid address")
  | _ => .error (invalidBody (field ++ " must be an address"))

/-- The keys of an object body; those of a list are none of the fields. -/
def bodyFields : JsValue → Except AttestorKeyError Mozetto.Outbox.Payload
  | .object fields => .ok fields
  | .array _ => .ok []
  | _ => .error (invalidBody "body must be a JSON object")

def parseFinalSettlementV3FromHttp (raw : JsValue) :
    Except AttestorKeyError FinalSettlementV3Message := do
  let fields ← bodyFields raw
  let get (field : String) : JsValue := JsValue.get fields field
  return {
    sessionId := ← asHex32 (get "sessionId") "sessionId"
    finalSequence := ← asBigIntField (get "finalSequence") "finalSequence"
    finalEventRoot := ← asHex32 (get "finalEventRoot") "finalEventRoot"
    handRoot := ← asHex32 (get "handRoot") "handRoot"
    balanceRoot := ← asHex32 (get "balanceRoot") "balanceRoot"
    randomnessEpochId :=
      ← asHex32 (get "randomnessEpochId") "randomnessEpochId"
    openingTotal := ← asBigIntField (get "openingTotal") "openingTotal"
    endingPlayerTotal :=
      ← asBigIntField (get "endingPlayerTotal") "endingPlayerTotal"
    totalRake := ← asBigIntField (get "totalRake") "totalRake"
    proofBatchSequence :=
      ← asBigIntField (get "proofBatchSequence") "proofBatchSequence"
    modelPolicyHash := ← asHex32 (get "modelPolicyHash") "modelPolicyHash"
    profileSetHash := ← asHex32 (get "profileSetHash") "profileSetHash"
    gameTemplateId := ← asHex32 (get "gameTemplateId") "gameTemplateId"
    engineHash := ← asHex32 (get "engineHash") "engineHash"
    deadline := ← asBigIntField (get "deadline") "deadline"
    chainId := ← asBigIntField (get "chainId") "chainId"
    verifyingContract :=
      ← asAddress wallet (get "verifyingContract") "verifyingContract" }

/-- A private key of 32 bytes, in lower case and with its prefix. -/
def normalizePrivateKey (raw : String) : Except AttestorKeyError Hex :=
  let trimmed := String.ofList (trim raw)
  let digits := hexDigits trimmed
  if digits.length = 64 ∧ digits.all isHexDigit then .ok (asHex trimmed)
  else
    .error
      ⟨"INVALID_PRIVATE_KEY",
        "REPLAY_ATTESTOR_PRIVATE_KEY must be a 32-byte hex private key"⟩

def loadAttestorKey : Except AttestorKeyError Hex :=
  let raw := env.REPLAY_ATTESTOR_PRIVATE_KEY.getD ""
  if trim raw = [] then
    .error
      ⟨"MISSING_KEY",
        "REPLAY_ATTESTOR_PRIVATE_KEY is required for attestor role 'replay'"⟩
  else normalizePrivateKey raw

/-- Signing a settlement whose totals are conserved. -/
def signFinalSettlementV3 (key : Hex) (settlement : FinalSettlementV3Message) :
    Except AttestorKeyError Signature :=
  if settlement.openingTotal = settlement.endingPlayerTotal + settlement.totalRake then
    (wallet.signature key (.finalSettlementV3 settlement)).mapError
      fun message => ⟨"SIGN_FAILED", message⟩
  else
    .error
      ⟨"SIGN_FAILED",
        "openingTotal " ++ toString settlement.openingTotal ++
          " != endingPlayerTotal " ++
          toString settlement.endingPlayerTotal ++ " + totalRake " ++
          toString settlement.totalRake⟩

def attestSettlementV3AsReplay (body : JsValue) :
    Except AttestorKeyError Signature := do
  let settlement ← parseFinalSettlementV3FromHttp wallet body
  let key ← loadAttestorKey env
  signFinalSettlementV3 wallet key settlement

/-- The status with which an error is answered. -/
def attestStatus (error : AttestorKeyError) : Nat :=
  if error.code = "MISSING_KEY" then 503 else 400

/-! ### Requests -/

inductive Request where
  | verifySession (body : VerifyBody)
  | attestSettlementV3 (body : JsValue)

/-- The signature in the answer to a request. -/
def answeredSignature : Request → Option Signature
  | .verifySession body =>
    (verifySession viem runtime wallet db env body).toOption.bind (·.signature)
  | .attestSettlementV3 body =>
    (attestSettlementV3AsReplay wallet env body).toOption

end Endpoints

end Mozetto.Replay
