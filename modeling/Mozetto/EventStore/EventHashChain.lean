import Mathlib
import Mozetto.Library.Guarded
import Mozetto.Library.HexText
import Mozetto.Library.HashChain

/-!
# Canonical hashes of poker events

The event record of `PokerEventV1`, its hash and the hashes of its public
payloads.  ABI encoding and `keccak256` come from a package outside the
repository; they are parameters of the model, of which nothing is assumed
unless a statement says so.
-/

namespace Mozetto.EventStore

open Mozetto.Library.Guarded
open Mozetto.Library.HexText

/-! ## Hexadecimal text -/

abbrev Hex := String

/-- Lower case: two spellings of the same bytes become equal. -/
def normalizeHex (h : Hex) : Hex := h.toLower

theorem toLower_toLower (char : Char) : char.toLower.toLower = char.toLower := by
  by_cases small : char.toNat < 128
  · have ascii : ∀ code < 128, (Char.ofNat code).toLower.toLower = (Char.ofNat code).toLower := by
      decide
    have known := ascii char.toNat small
    rwa [Char.ofNat_toNat] at known
  · have kept : char.toLower = char := by
      rw [Char.toLower, dif_neg]
      rintro ⟨-, upper⟩
      have below : char.toNat ≤ 90 := upper
      omega
    rw [kept, kept]

@[simp]
theorem normalizeHex_normalizeHex (h : Hex) : normalizeHex (normalizeHex h) = normalizeHex h := by
  rw [normalizeHex, normalizeHex, String.toLower, String.toLower, String.map_map]
  congr
  funext char
  exact toLower_toLower char

/-- `bytes32(0)`, which precedes the first event of a chain. -/
def ZERO_EVENT_HASH : Hex :=
  "0x0000000000000000000000000000000000000000000000000000000000000000"

/-! ## The hash package -/

/-- The values that are ABI-encoded. -/
inductive AbiValue where
  | hex (value : Hex)
  | number (value : Int)
  | bool (value : Bool)
deriving DecidableEq, Repr

/-- ABI encoding by a list of types, which may be refused, and hashing. -/
structure Viem where
  encodeAbiParameters : String → List AbiValue → Except String Hex
  keccak256 : Hex → Hex
  toBytes : String → Hex

structure HashResult where
  canonicalBytesHex : Hex
  hash : Hex
deriving DecidableEq, Repr

variable (viem : Viem)

def enc (types : String) (values : List AbiValue) : Except String Hex :=
  viem.encodeAbiParameters types values

def hashEnc (types : String) (values : List AbiValue) :
    Except String HashResult := do
  let bytes ← viem.encodeAbiParameters types values
  return { canonicalBytesHex := bytes, hash := viem.keccak256 bytes }

def domainTag (domainString : String) : Hex := viem.keccak256 (viem.toBytes domainString)

/-! ## Event types -/

/-- The event type codes; every other code is unknown. -/
def EVENT_TYPE : List (String × Int) :=
  [("HAND_START", 1), ("POST_BLIND", 2), ("DEAL_HOLE", 3),
    ("ACTION_FOLD", 10), ("ACTION_CHECK", 11), ("ACTION_CALL", 12),
    ("ACTION_BET", 13), ("ACTION_RAISE", 14), ("ACTION_ALL_IN", 15),
    ("STREET_FLOP", 20), ("STREET_TURN", 21), ("STREET_RIVER", 22),
    ("SHOWDOWN", 30), ("HAND_END", 40), ("HAND_ABORT", 50)]

def isKnownEventType (code : Int) : Bool := (EVENT_TYPE.map Prod.snd).contains code

/-! ## Events -/

/-- The fields of an event, in the order in which they are hashed. -/
structure PokerEventV1 where
  protocolVersion : Int
  sessionId : Hex
  epoch : Int
  handNumber : Int
  sequence : Int
  eventType : Int
  hasActorSeat : Bool
  actorSeat : Int
  publicPayloadHash : Hex
  privatePayloadCommitment : Hex
  elapsedMs : Int
  previousEventHash : Hex
  engineHash : Hex
deriving DecidableEq, Repr

/-- `eventHash` of the protocol vectors. -/
def eventHash (event : PokerEventV1) : Except String HashResult :=
  hashEnc viem
    ("bytes32 domain, uint16 protocolVersion, bytes32 sessionId, " ++
      "uint64 epoch, uint64 handNumber, uint64 sequence, " ++
      "uint16 eventType, bool hasActorSeat, uint8 actorSeat, " ++
      "bytes32 publicPayloadHash, bytes32 privatePayloadCommitment, " ++
      "uint64 elapsedMs, bytes32 previousEventHash, bytes32 engineHash")
    [.hex (domainTag viem "MOZETTO_EVENT_V1"), .number event.protocolVersion, .hex event.sessionId,
      .number event.epoch, .number event.handNumber,
      .number event.sequence, .number event.eventType,
      .bool event.hasActorSeat, .number event.actorSeat,
      .hex event.publicPayloadHash, .hex event.privatePayloadCommitment,
      .number event.elapsedMs, .hex event.previousEventHash, .hex event.engineHash]

def hashPokerEventV1 (event : PokerEventV1) : Except String HashResult := eventHash viem event

/-! ## Public payloads -/

def hashActionPayload (seat action amount : Int) : Except String Hex :=
  viem.keccak256 <$>
    enc viem "uint8 seat, uint16 action, uint256 amount"
      [.number seat, .number action, .number amount]

def hashBlindPayload (seat amount : Int) : Except String Hex :=
  viem.keccak256 <$>
    enc viem "uint8 seat, uint256 amount" [.number seat, .number amount]

/-- The card codes as one number, the first card in its lowest byte. -/
def cardsWord (cardCodes : List Int) : Nat :=
  cardCodes.foldr (fun code word => (code % 256).toNat + 256 * word) 0

/-- A word as 64 hexadecimal digits. -/
def wordHex (word : Nat) : Hex :=
  let digits := String.ofList (Nat.toDigits 16 word)
  "0x" ++ String.ofList (List.replicate (64 - digits.length) '0') ++ digits

@[simp]
theorem toList_wordHex (word : Nat) : (wordHex word).toList = '0' :: 'x' :: padded 64 word := by
  simp [wordHex, padded]

theorem cardsWord_lt (cardCodes : List Int) : cardsWord cardCodes < 256 ^ cardCodes.length := by
  induction cardCodes with
  | nil => decide
  | cons code rest induction =>
    rw [cardsWord] at induction
    rw [cardsWord, List.foldr_cons, List.length_cons, Nat.pow_succ]
    omega

/-- As many codes as before are read back from their word, up to a byte. -/
theorem cardsWord_injective {cardCodes others : List Int}
    (lengths : cardCodes.length = others.length) (equal : cardsWord cardCodes = cardsWord others) :
    cardCodes.map (· % 256) = others.map (· % 256) := by
  induction cardCodes generalizing others with
  | nil =>
    rw [List.eq_nil_of_length_eq_zero lengths.symm]
  | cons code rest induction =>
    rcases others with - | ⟨other, others⟩
    · cases lengths
    · simp only [cardsWord, List.foldr_cons] at equal induction
      have tails := induction (Nat.succ.inj lengths) (by omega)
      have heads : code % 256 = other % 256 := by omega
      rw [List.map_cons, List.map_cons, heads, tails]

def hashStreetPayload (cardCodes : List Int) : Except String Hex := do
  revertIf (cardCodes.length > 5) "street payload supports at most 5 cards"
  viem.keccak256 <$>
    enc viem "uint8 nCards, bytes32 cardsWord"
      [.number cardCodes.length, .hex (wordHex (cardsWord cardCodes))]

/-! ## Errors -/

/-- The codes of the store's errors. -/
inductive ErrorCode where
  | sessionMismatch
  | epochMismatch
  | unknownEventType
  | actorSeatInvalid
  | sequenceGap
  | prevBreak
  | hashMismatch
  | canonicalBytesMismatch
deriving DecidableEq, Repr

/-- An error of the store, or one thrown while encoding. -/
inductive EventStoreError where
  | store (code : ErrorCode) (message : String)
  | encoding (reason : String)
deriving DecidableEq, Repr

def assertActorSeatValid (hasActorSeat : Bool) (actorSeat : Int) :
    Except EventStoreError Unit := do
  revertIf (hasActorSeat = false ∧ actorSeat ≠ 0) (.store .actorSeatInvalid
      ("actorSeat MUST be 0 when hasActorSeat=false " ++
        "(MOZETTO_POKER_EVENT_V1 §11)"))
  revertIf (actorSeat < 0 ∨ actorSeat > 255) (.store .actorSeatInvalid
      ("actorSeat out of uint8 range: " ++ toString actorSeat))

end Mozetto.EventStore

/-!
## EventHashChain

The hash chain of the events of one session and epoch: appending an event,
checking a chain, and rebuilding one from stored rows.  Appending and checking
are written separately; here each is brought to the same predicate on rows.
-/

namespace Mozetto.EventStore

open Mozetto.Library.Guarded
open Mozetto.Library.HashChain

/-! ### Rows -/

/-- What is kept next to an event without entering its hash. -/
structure Unhashed where
  resultingStateHash : Option Hex
  publicPayloadJson : Option String
  privatePayloadCiphertext : Option (List Nat)
  actorIdentity : Option String
deriving DecidableEq, Repr

structure StoredEvent where
  event : PokerEventV1
  eventHash : Hex
  canonicalBytesHex : Hex
  unhashed : Unhashed
  persistedAtMs : Int
deriving DecidableEq, Repr

/-- The input of an append; `none` stands for a field left out. -/
structure AppendEventInput where
  protocolVersion : Option Int
  sessionId : Hex
  epoch : Int
  handNumber : Int
  sequence : Option Int
  eventType : Int
  hasActorSeat : Bool
  actorSeat : Int
  publicPayloadHash : Hex
  privatePayloadCommitment : Option Hex
  elapsedMs : Int
  previousEventHash : Option Hex
  engineHash : Hex
  unhashed : Unhashed
deriving DecidableEq, Repr

structure EventHashChain where
  sessionId : Hex
  epoch : Int
  rows : List StoredEvent
  tipHash : Hex
deriving DecidableEq, Repr

def DEFAULT_PROTOCOL_VERSION : Int := 3

/-- Lower case, where an empty text counts as none. -/
def normalizeOptional (hash : Option Hex) : Option Hex :=
  match hash with
  | some hash => if hash = "" then none else some (normalizeHex hash)
  | none => none

namespace EventHashChain

/-- `new EventHashChain`. -/
def fresh (sessionId : Hex) (epoch : Int) : EventHashChain where
  sessionId := normalizeHex sessionId
  epoch := epoch
  rows := []
  tipHash := ZERO_EVENT_HASH

def nextSequence (chain : EventHashChain) : Int := chain.rows.length

/-! ### Appending -/

variable (viem : Viem)

/-- The hash of an event, with a refused encoding as an error. -/
def hashed (event : PokerEventV1) : Except EventStoreError HashResult :=
  (hashPokerEventV1 viem event).mapError .encoding

def append (chain : EventHashChain) (input : AppendEventInput) (nowMs : Int) :
    Except EventStoreError (EventHashChain × StoredEvent) := do
  revertIf (normalizeHex input.sessionId ≠ chain.sessionId) (.store .sessionMismatch
      ("append sessionId " ++ input.sessionId ++ " != chain " ++ chain.sessionId))
  revertIf (input.epoch ≠ chain.epoch) (.store .epochMismatch
      ("append epoch " ++ toString input.epoch ++ " != chain " ++ toString chain.epoch))
  revertIf (isKnownEventType input.eventType = false) (.store .unknownEventType
      ("unknown PokerEventV1 eventType " ++ toString input.eventType))
  assertActorSeatValid input.hasActorSeat input.actorSeat
  let sequence := input.sequence.getD chain.nextSequence
  let expectedSeq := chain.nextSequence
  revertIf (sequence ≠ expectedSeq) (.store .sequenceGap
      ("expected sequence " ++ toString expectedSeq ++ ", got " ++ toString sequence))
  let previousEventHash := input.previousEventHash.getD chain.tipHash
  revertIf (normalizeHex previousEventHash ≠ normalizeHex chain.tipHash) (.store .prevBreak
      ("previousEventHash " ++ previousEventHash ++ " != tip " ++ chain.tipHash))
  let event : PokerEventV1 :=
    { protocolVersion :=
        input.protocolVersion.getD DEFAULT_PROTOCOL_VERSION
      sessionId := chain.sessionId
      epoch := chain.epoch
      handNumber := input.handNumber
      sequence := sequence
      eventType := input.eventType
      hasActorSeat := input.hasActorSeat
      actorSeat := input.actorSeat
      publicPayloadHash := normalizeHex input.publicPayloadHash
      privatePayloadCommitment := normalizeHex (input.privatePayloadCommitment.getD ZERO_EVENT_HASH)
      elapsedMs := input.elapsedMs
      previousEventHash := normalizeHex previousEventHash
      engineHash := normalizeHex input.engineHash }
  let result ← hashed viem event
  let stored : StoredEvent :=
    { event := event
      eventHash := result.hash
      canonicalBytesHex := result.canonicalBytesHex
      unhashed :=
        { input.unhashed with
          resultingStateHash := normalizeOptional input.unhashed.resultingStateHash }
      persistedAtMs := nowMs }
  return ({ chain with
    rows := chain.rows ++ [stored]
    tipHash := result.hash }, stored)

/-! ### Checking -/

structure ChainVerifyIssue where
  sequence : Int
  code : ErrorCode
  detail : String
deriving DecidableEq, Repr

/-- An issue when a condition holds. -/
def issueIf (condition : Prop) [Decidable condition] (issue : ChainVerifyIssue) :
    List ChainVerifyIssue :=
  if condition then [issue] else []

/-- The issue of an actor seat that is not valid. -/
def actorSeatIssues (event : PokerEventV1) : List ChainVerifyIssue :=
  match assertActorSeatValid event.hasActorSeat event.actorSeat with
  | .ok _ => []
  | .error (.store _ message) =>
      [⟨event.sequence, .actorSeatInvalid, message⟩]
  | .error (.encoding reason) =>
      [⟨event.sequence, .actorSeatInvalid, reason⟩]

/-- The issues of one row, found after the given hash at the given index. -/
def rowIssues (expectedPrev : Hex) (index : Nat) (row : StoredEvent) :
    Except EventStoreError (List ChainVerifyIssue) := do
  let seq := row.event.sequence
  let gap :=
    issueIf (seq ≠ index) ⟨seq, .sequenceGap,
        "index " ++ toString index ++ " has sequence " ++ toString seq⟩
  let unknown :=
    issueIf (isKnownEventType row.event.eventType = false) ⟨seq, .unknownEventType,
        "eventType " ++ toString row.event.eventType⟩
  let seat := actorSeatIssues row.event
  let broken :=
    issueIf (normalizeHex row.event.previousEventHash ≠ normalizeHex expectedPrev) ⟨seq, .prevBreak,
        "previousEventHash " ++ row.event.previousEventHash ++
          " != expected " ++ expectedPrev⟩
  let recomputed ← hashed viem row.event
  let mismatch :=
    issueIf (normalizeHex recomputed.hash ≠ normalizeHex row.eventHash) ⟨seq, .hashMismatch,
        "stored " ++ row.eventHash ++ " != recomputed " ++ recomputed.hash⟩
  let bytes :=
    issueIf (normalizeHex recomputed.canonicalBytesHex ≠ normalizeHex row.canonicalBytesHex)
      ⟨seq, .canonicalBytesMismatch,
        "stored canonicalBytesHex != ABI re-encode"⟩
  return gap ++ unknown ++ seat ++ broken ++ mismatch ++ bytes

/-- The loop of `verify`, from an index on. -/
def verifyFrom (expectedPrev : Hex) (index : Nat) :
    List StoredEvent → Except EventStoreError (List ChainVerifyIssue)
  | [] => return []
  | row :: rest => do
      let here ← rowIssues viem expectedPrev index row
      let more ← verifyFrom row.eventHash (index + 1) rest
      return here ++ more

/-- The issues that `verify` reports. -/
def verify (chain : EventHashChain) : Except EventStoreError (List ChainVerifyIssue) :=
  verifyFrom viem ZERO_EVENT_HASH 0 chain.rows

/-! ### Rebuilding -/

/-- A stored row in lower case. -/
def normalizeRow (row : StoredEvent) : StoredEvent :=
  { row with
    event := { row.event with
      sessionId := normalizeHex row.event.sessionId
      publicPayloadHash := normalizeHex row.event.publicPayloadHash
      privatePayloadCommitment := normalizeHex row.event.privatePayloadCommitment
      previousEventHash := normalizeHex row.event.previousEventHash
      engineHash := normalizeHex row.event.engineHash }
    eventHash := normalizeHex row.eventHash
    canonicalBytesHex := normalizeHex row.canonicalBytesHex
    unhashed := { row.unhashed with
      resultingStateHash := normalizeOptional row.unhashed.resultingStateHash } }

/-- The chain that the loop of `fromStored` builds before checking it. -/
def loaded (sessionId : Hex) (epoch : Int) (stored : List StoredEvent) :
    EventHashChain :=
  { fresh sessionId epoch with
    rows := stored.map normalizeRow
    tipHash :=
      tipAfter (fun row => normalizeHex row.eventHash) ZERO_EVENT_HASH stored }

def fromStored (sessionId : Hex) (epoch : Int) (stored : List StoredEvent) :
    Except EventStoreError EventHashChain := do
  let chain := loaded sessionId epoch stored
  match ← chain.verify viem with
  | [] => return chain
  | first :: _ => .error (.store first.code first.detail)

/-! ### What is checked of a row -/

/-- A row fits after the given hash at the given index. -/
structure Fits (expectedPrev : Hex) (index : Nat) (row : StoredEvent) : Prop where
  sequence : row.event.sequence = index
  known : isKnownEventType row.event.eventType = true
  seat : assertActorSeatValid row.event.hasActorSeat row.event.actorSeat = .ok ⟨⟩
  previous : normalizeHex row.event.previousEventHash = normalizeHex expectedPrev
  hashed : ∃ result, hashPokerEventV1 viem row.event = .ok result ∧
      normalizeHex result.hash = normalizeHex row.eventHash ∧
      normalizeHex result.canonicalBytesHex = normalizeHex row.canonicalBytesHex

variable {viem}

theorem issueIf_eq_nil_iff {condition : Prop} [Decidable condition] {issue : ChainVerifyIssue} :
    issueIf condition issue = [] ↔ ¬ condition := by
  by_cases holds : condition <;> simp [issueIf, holds]

theorem actorSeatIssues_eq_nil_iff {event : PokerEventV1} : actorSeatIssues event = [] ↔
    assertActorSeatValid event.hasActorSeat event.actorSeat = .ok ⟨⟩ := by
  rw [actorSeatIssues]
  split
  · simp_all
  · simp_all
  · simp_all

theorem hashed_eq_ok_iff {event : PokerEventV1} {result : HashResult} :
    hashed viem event = .ok result ↔ hashPokerEventV1 viem event = .ok result := by
  rw [hashed]
  cases hashPokerEventV1 viem event <;> simp [Except.mapError]

theorem rowIssues_eq_nil_iff {expectedPrev : Hex} {index : Nat} {row : StoredEvent} :
    rowIssues viem expectedPrev index row = .ok [] ↔
      Fits viem expectedPrev index row := by
  simp only [rowIssues, bind_eq_ok_iff, pure_eq_ok_iff,
    hashed_eq_ok_iff, List.append_eq_nil_iff, issueIf_eq_nil_iff,
    actorSeatIssues_eq_nil_iff, ne_eq, not_not, Bool.not_eq_false]
  constructor
  · rintro ⟨result, hash, ⟨⟨⟨⟨⟨sequence, known⟩, seat⟩, previous⟩, same⟩, bytes⟩⟩
    exact ⟨sequence, known, seat, previous, result, hash, same, bytes⟩
  · rintro ⟨sequence, known, seat, previous, result, hash, same, bytes⟩
    exact ⟨result, hash, ⟨⟨⟨⟨⟨sequence, known⟩, seat⟩, previous⟩, same⟩, bytes⟩⟩

/-- A check without issues finds every row fitting. -/
theorem verifyFrom_eq_nil_iff {expectedPrev : Hex} {index : Nat} {rows : List StoredEvent} :
    verifyFrom viem expectedPrev index rows = .ok [] ↔
      Linked StoredEvent.eventHash (Fits viem) expectedPrev index rows := by
  induction rows generalizing expectedPrev index with
  | nil => simp [verifyFrom, Linked]
  | cons row rest induction =>
    simp only [verifyFrom, Linked, bind_eq_ok_iff, pure_eq_ok_iff, List.append_eq_nil_iff]
    rw [← rowIssues_eq_nil_iff, ← induction]
    constructor
    · rintro ⟨here, first, more, others, rfl, rfl⟩
      exact ⟨first, others⟩
    · rintro ⟨first, others⟩
      exact ⟨[], first, [], others, rfl, rfl⟩

theorem fromStored_eq_ok_iff {sessionId : Hex} {epoch : Int} {stored : List StoredEvent}
    {chain : EventHashChain} : fromStored viem sessionId epoch stored = .ok chain ↔
    Linked StoredEvent.eventHash (Fits viem) ZERO_EVENT_HASH 0 (stored.map normalizeRow) ∧
      loaded sessionId epoch stored = chain := by
  rw [← verifyFrom_eq_nil_iff]
  simp only [fromStored, bind_eq_ok_iff]
  constructor
  · rintro ⟨issues, verified, result⟩
    cases issues with
    | nil => exact ⟨verified, pure_eq_ok_iff.mp result⟩
    | cons first rest => cases result
  · rintro ⟨verified, same⟩
    exact ⟨[], verified, pure_eq_ok_iff.mpr same⟩

/-! ### What an append does -/

/-- The event that an accepted append stores. -/
def appended (chain : EventHashChain) (input : AppendEventInput) : PokerEventV1 where
  protocolVersion := input.protocolVersion.getD DEFAULT_PROTOCOL_VERSION
  sessionId := chain.sessionId
  epoch := chain.epoch
  handNumber := input.handNumber
  sequence := chain.nextSequence
  eventType := input.eventType
  hasActorSeat := input.hasActorSeat
  actorSeat := input.actorSeat
  publicPayloadHash := normalizeHex input.publicPayloadHash
  privatePayloadCommitment := normalizeHex (input.privatePayloadCommitment.getD ZERO_EVENT_HASH)
  elapsedMs := input.elapsedMs
  previousEventHash := normalizeHex chain.tipHash
  engineHash := normalizeHex input.engineHash

/-- The row made of an event, its hash and the rest of the input. -/
def rowOf (event : PokerEventV1) (result : HashResult) (input : AppendEventInput)
    (nowMs : Int) : StoredEvent where
  event := event
  eventHash := result.hash
  canonicalBytesHex := result.canonicalBytesHex
  unhashed :=
    { input.unhashed with
      resultingStateHash := normalizeOptional input.unhashed.resultingStateHash }
  persistedAtMs := nowMs

/-- The guards of an append. -/
structure Accepts (chain : EventHashChain) (input : AppendEventInput) : Prop where
  sessionId : normalizeHex input.sessionId = chain.sessionId
  epoch : input.epoch = chain.epoch
  known : isKnownEventType input.eventType = true
  seat : assertActorSeatValid input.hasActorSeat input.actorSeat = .ok ⟨⟩
  sequence : input.sequence.getD chain.nextSequence = chain.nextSequence
  previous : normalizeHex (input.previousEventHash.getD chain.tipHash) = normalizeHex chain.tipHash

theorem append_eq_ok_iff {chain : EventHashChain} {input : AppendEventInput} {nowMs : Int}
    {result : EventHashChain × StoredEvent} :
    append viem chain input nowMs = .ok result ↔ chain.Accepts input ∧ ∃ hash,
          hashPokerEventV1 viem (chain.appended input) = .ok hash ∧
            ({ chain with
                rows :=
                  chain.rows ++ [rowOf (chain.appended input) hash input nowMs]
                tipHash := hash.hash },
              rowOf (chain.appended input) hash input nowMs) = result := by
  simp only [append, bind_eq_ok_iff, revertIf_eq_ok_iff, exists_const,
    hashed_eq_ok_iff, pure_eq_ok_iff, ne_eq, not_not, Bool.not_eq_false]
  constructor
  · rintro ⟨sessionId, epoch, known, done, seat, sequence, previous, hash, made, rfl⟩
    simp only [sequence, previous] at made ⊢
    exact ⟨⟨sessionId, epoch, known, seat, sequence, previous⟩, hash, made, rfl⟩
  · rintro ⟨⟨sessionId, epoch, known, seat, sequence, previous⟩, hash, made, rfl⟩
    refine ⟨sessionId, epoch, known, ⟨⟩, seat, sequence, previous, ?_⟩
    simp only [sequence, previous]
    exact ⟨hash, made, rfl⟩

end EventHashChain

/-! ### Checking a list of events -/

section Standalone

open EventHashChain

structure ChainVerifyResult where
  ok : Bool
  tip : Hex
  length : Nat
  issues : List ChainVerifyIssue
deriving DecidableEq, Repr

variable (viem : Viem)

/-- The issue of a stored hash that is not the recomputed one; reading a hash
that is not there throws. -/
def storedHashIssues (storedHashes : Option (List Hex)) (index : Nat) (event : PokerEventV1)
    (recomputed : Hex) : Except EventStoreError (List ChainVerifyIssue) :=
  storedHashes.elim (.ok []) fun hashes =>
    hashes[index]?.elim (.error (.encoding "TypeError")) fun stored =>
      .ok (issueIf (normalizeHex stored ≠ normalizeHex recomputed) ⟨event.sequence, .hashMismatch,
            "stored hash != recomputed at " ++ toString event.sequence⟩)

/-- The loop of `verifyEventHashChain`: the issues, and the tip. -/
def verifyEventsFrom (storedHashes : Option (List Hex)) (expectedPrev : Hex) (index : Nat) :
    List PokerEventV1 → Except EventStoreError (List ChainVerifyIssue × Hex)
  | [] => return ([], expectedPrev)
  | event :: rest => do
      let gap :=
        issueIf (event.sequence ≠ index) ⟨event.sequence, .sequenceGap,
            "index " ++ toString index ++ " has sequence " ++ toString event.sequence⟩
      let broken :=
        issueIf (normalizeHex event.previousEventHash ≠ normalizeHex expectedPrev)
          ⟨event.sequence, .prevBreak,
            "previousEventHash break at " ++ toString event.sequence⟩
      let recomputed ← hashed viem event
      let mismatch ← storedHashIssues storedHashes index event recomputed.hash
      let more ← verifyEventsFrom storedHashes recomputed.hash (index + 1) rest
      return (gap ++ broken ++ mismatch ++ more.1, more.2)

def verifyEventHashChain (events : List PokerEventV1) (storedHashes : Option (List Hex)) :
    Except EventStoreError ChainVerifyResult := do
  let (issues, tip) ← verifyEventsFrom viem storedHashes ZERO_EVENT_HASH 0 events
  return {
    ok := issues.isEmpty
    tip := tip
    length := events.length
    issues := issues }

/-- An event and its stored hash fit after the given hash. -/
structure Matches (expectedPrev : Hex) (index : Nat) (row : StoredEvent) : Prop where
  sequence : row.event.sequence = index
  previous : normalizeHex row.event.previousEventHash = normalizeHex expectedPrev
  hashed : ∃ result, hashPokerEventV1 viem row.event = .ok result ∧
      normalizeHex result.hash = normalizeHex row.eventHash

variable {viem}

/-- Only the bytes of the hash before a row matter, not their case. -/
theorem linked_matches_of_normalizeHex
    {expectedPrev expectedPrev' : Hex} {index : Nat} {rows : List StoredEvent}
    (same : normalizeHex expectedPrev = normalizeHex expectedPrev') :
    Linked StoredEvent.eventHash (Matches viem) expectedPrev index rows ↔
      Linked StoredEvent.eventHash (Matches viem) expectedPrev' index rows := by
  cases rows with
  | nil => exact Iff.rfl
  | cons row rest =>
    have first : Matches viem expectedPrev index row ↔
        Matches viem expectedPrev' index row := by
      constructor
      · rintro ⟨sequence, previous, hash⟩
        exact ⟨sequence, previous.trans same, hash⟩
      · rintro ⟨sequence, previous, hash⟩
        exact ⟨sequence, previous.trans same.symm, hash⟩
    rw [Linked, Linked, first]

theorem storedHashIssues_eq_nil_iff
    {front rest : List Hex} {stored recomputed : Hex} {event : PokerEventV1}
    {issues : List ChainVerifyIssue} :
    storedHashIssues (some (front ++ stored :: rest)) front.length event
          recomputed = .ok issues ∧ issues = [] ↔
      issues = [] ∧ normalizeHex recomputed = normalizeHex stored := by
  have found : (front ++ stored :: rest)[front.length]? = some stored := by
    simp
  rw [storedHashIssues, Option.elim_some, found, Option.elim_some, Except.ok.injEq]
  constructor
  · rintro ⟨equal, rfl⟩
    rw [issueIf_eq_nil_iff, not_not] at equal
    exact ⟨rfl, equal.symm⟩
  · rintro ⟨rfl, same⟩
    rw [issueIf_eq_nil_iff, not_not]
    exact ⟨same.symm, rfl⟩

/-- Without issues, every row matches. -/
theorem verifyEventsFrom_eq_nil_iff
    {expectedPrev : Hex} {front : List Hex} {rows : List StoredEvent} : (∃ tip,
      verifyEventsFrom viem (some (front ++ rows.map StoredEvent.eventHash))
          expectedPrev front.length (rows.map StoredEvent.event) = .ok ([], tip)) ↔
    Linked StoredEvent.eventHash (Matches viem) expectedPrev front.length
      rows := by
  induction rows generalizing expectedPrev front with
  | nil => simp [verifyEventsFrom, Linked]
  | cons row rest induction =>
    have onward (recomputed : Hex) := @induction recomputed (front ++ [row.eventHash])
    simp only [List.append_assoc, List.singleton_append, List.length_append,
      List.length_singleton] at onward
    simp only [List.map_cons, verifyEventsFrom, bind_eq_ok_iff,
      hashed_eq_ok_iff, pure_eq_ok_iff, Prod.mk.injEq,
      List.append_eq_nil_iff, issueIf_eq_nil_iff, ne_eq, not_not, Linked]
    constructor
    · rintro ⟨tip, result, hash, mismatch, stored, more, verified,
        ⟨⟨⟨sequence, previous⟩, rfl⟩, clean⟩, rfl⟩
      have same := (storedHashIssues_eq_nil_iff.mp ⟨stored, rfl⟩).2
      refine ⟨⟨sequence, previous, result, hash, same⟩, ?_⟩
      rw [← linked_matches_of_normalizeHex same, ← onward]
      exact ⟨more.2, verified.trans (by rw [← clean])⟩
    · rintro ⟨⟨sequence, previous, result, hash, same⟩, linked⟩
      rw [← linked_matches_of_normalizeHex same, ← onward] at linked
      rcases linked with ⟨tip, verified⟩
      exact ⟨tip, result, hash, [], (storedHashIssues_eq_nil_iff.mpr ⟨rfl, same⟩).1, ([], tip),
          verified, ⟨⟨⟨sequence, previous⟩, rfl⟩, rfl⟩, rfl⟩

/-- Lists of events and stored hashes are accepted exactly when they match. -/
theorem verifyEventHashChain_ok_iff {rows : List StoredEvent} : (∃ result,
      verifyEventHashChain viem (rows.map StoredEvent.event)
          (some (rows.map StoredEvent.eventHash)) = .ok result ∧ result.ok = true) ↔
    Linked StoredEvent.eventHash (Matches viem) ZERO_EVENT_HASH 0 rows := by
  have loop := @verifyEventsFrom_eq_nil_iff viem ZERO_EVENT_HASH [] rows
  rw [List.nil_append, List.length_nil] at loop
  rw [← loop]
  simp only [verifyEventHashChain, bind_eq_ok_iff, pure_eq_ok_iff]
  constructor
  · rintro ⟨result, ⟨⟨issues, tip⟩, verified, rfl⟩, accepted⟩
    cases List.isEmpty_iff.mp accepted
    exact ⟨tip, verified⟩
  · rintro ⟨tip, verified⟩
    exact ⟨_, ⟨([], tip), verified, rfl⟩, rfl⟩

/-- What the chain checks of a row beyond what the list of events is
checked for. -/
structure Proper (viem : Viem) (row : StoredEvent) : Prop where
  known : isKnownEventType row.event.eventType = true
  seat : assertActorSeatValid row.event.hasActorSeat row.event.actorSeat = .ok ⟨⟩
  bytes : ∀ result, hashPokerEventV1 viem row.event = .ok result →
      normalizeHex result.canonicalBytesHex = normalizeHex row.canonicalBytesHex

theorem fits_iff {expectedPrev : Hex} {index : Nat} {row : StoredEvent} :
    Fits viem expectedPrev index row ↔ Matches viem expectedPrev index row ∧ Proper viem row := by
  constructor
  · rintro ⟨sequence, known, seat, previous, result, hash, same, bytes⟩
    refine ⟨⟨sequence, previous, result, hash, same⟩, known, seat, ?_⟩
    intro other hash'
    rw [hash] at hash'
    cases hash'
    exact bytes
  · rintro ⟨⟨sequence, previous, result, hash, same⟩, known, seat, bytes⟩
    exact ⟨sequence, known, seat, previous, result, hash, same, bytes result hash⟩

/-- The chain accepts exactly the lists that match and are proper. -/
theorem verify_eq_nil_iff {chain : EventHashChain} : chain.verify viem = .ok [] ↔
    Linked StoredEvent.eventHash (Matches viem) ZERO_EVENT_HASH 0 chain.rows ∧
      ∀ row ∈ chain.rows, Proper viem row := by
  rw [EventHashChain.verify, verifyFrom_eq_nil_iff, ← linked_and_iff]
  constructor
  · exact Linked.mono fun tip position row => fits_iff.mp
  · exact Linked.mono fun tip position row => fits_iff.mpr

end Standalone

end Mozetto.EventStore
