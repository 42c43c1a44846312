import Mozetto.Commitments.Merkle
import Mozetto.Library.HashChain

/-!
# verify_poker_event_v1_chain

The verifier of event transcripts in Rust: it parses the 32-byte words of
every event, computes the hash of the event again, and compares it with the
stored one and with the hash that the next event names.  Parsing and
`keccak256` come from the crate `alloy`.
-/

namespace Mozetto.Replay

open Mozetto.Chain
open Mozetto.Commitments
open Mozetto.EventStore
open Mozetto.Library.HashChain

/-- The functions of `alloy` on 32-byte words; a text that is no word makes
the parser panic. -/
structure Alloy where
  parse_b256 : String → Option Bytes32
  keccak256 : Bytes → Bytes32
  parse_lt : ∀ {text word}, parse_b256 text = some word → word < 2 ^ 256
  keccak_lt : ∀ bytes, keccak256 bytes < 2 ^ 256

/-! ## The hash of an event -/

/-- The words that are hashed for an event. -/
structure EventPreimage where
  domain : Bytes32
  protocolVersion : UInt16
  sessionId : Bytes32
  epoch : UInt64
  handNumber : UInt64
  sequence : UInt64
  eventType : UInt16
  hasActorSeat : Bool
  actorSeat : UInt8
  publicPayloadHash : Bytes32
  privatePayloadCommitment : Bytes32
  elapsedMs : UInt64
  previousEventHash : Bytes32
  engineHash : Bytes32
deriving DecidableEq

namespace EventPreimage

def words (preimage : EventPreimage) : List Nat :=
  [preimage.domain, preimage.protocolVersion.toNat, preimage.sessionId,
    preimage.epoch.toNat, preimage.handNumber.toNat,
    preimage.sequence.toNat, preimage.eventType.toNat,
    boolWord preimage.hasActorSeat, preimage.actorSeat.toNat,
    preimage.publicPayloadHash, preimage.privatePayloadCommitment,
    preimage.elapsedMs.toNat, preimage.previousEventHash, preimage.engineHash]

def abi_encode (preimage : EventPreimage) : Bytes := abiEncode preimage.words

/-- The words of a preimage are 32-byte words. -/
def Fits (preimage : EventPreimage) : Prop := ∀ word ∈ preimage.words, word < 2 ^ 256

/-- The numbers of a preimage fit in any case. -/
theorem fits_of_words {preimage : EventPreimage} (domain : preimage.domain < 2 ^ 256)
    (session : preimage.sessionId < 2 ^ 256) (payload : preimage.publicPayloadHash < 2 ^ 256)
    (commitment : preimage.privatePayloadCommitment < 2 ^ 256)
    (previous : preimage.previousEventHash < 2 ^ 256)
    (engine : preimage.engineHash < 2 ^ 256) : preimage.Fits := by
  have small16 (number : UInt16) : number.toNat < 2 ^ 256 := number.toNat_lt.trans (by norm_num)
  have small64 (number : UInt64) : number.toNat < 2 ^ 256 := number.toNat_lt.trans (by norm_num)
  have small8 (number : UInt8) : number.toNat < 2 ^ 256 := number.toNat_lt.trans (by norm_num)
  have flag (value : Bool) : boolWord value < 2 ^ 256 := by
    cases value <;> norm_num [boolWord]
  simp only [Fits, words, List.forall_mem_cons, List.not_mem_nil,
    false_implies, implies_true, and_true]
  exact ⟨domain, small16 _, session, small64 _, small64 _, small64 _,
    small16 _, flag _, small8 _, payload, commitment, small64 _, previous, engine⟩

theorem boolWord_injective : Function.Injective boolWord := by
  decide

theorem words_injective : Function.Injective words := by
  intro preimage other equal
  rcases preimage with ⟨domain, version, session, epoch, hand, sequence, type, flag, seat, payload,
      commitment, elapsed, previous, engine⟩
  rcases other with ⟨domain', version', session', epoch', hand', sequence', type', flag', seat',
      payload', commitment', elapsed', previous', engine'⟩
  simp only [words, List.cons.injEq, and_true, UInt16.toNat_inj,
    UInt64.toNat_inj, UInt8.toNat_inj, boolWord_injective.eq_iff] at equal
  rcases equal with ⟨rfl, rfl, rfl, rfl, rfl, rfl, rfl, rfl, rfl, rfl, rfl, rfl, rfl, rfl⟩
  rfl

/-- The bytes of a preimage determine it. -/
theorem abi_encode_injective {preimage other : EventPreimage} (fits : preimage.Fits)
    (fits' : other.Fits) (equal : preimage.abi_encode = other.abi_encode) : preimage = other :=
  words_injective (abiEncode_injective fits fits' equal)

end EventPreimage

variable (alloy : Alloy)

def event_hash (preimage : EventPreimage) : Bytes32 := alloy.keccak256 preimage.abi_encode

/-- The domain word of events. -/
def event_v1 : Bytes32 :=
  alloy.keccak256 (utf8 "MOZETTO_EVENT_V1")

/-! ## Events and reports -/

structure PokerEventV1Json where
  protocol_version : UInt16
  session_id : String
  epoch : UInt64
  hand_number : UInt64
  sequence : UInt64
  event_type : UInt16
  has_actor_seat : Bool
  actor_seat : UInt8
  public_payload_hash : String
  private_payload_commitment : String
  elapsed_ms : UInt64
  previous_event_hash : String
  engine_hash : String
  event_hash : Option String
deriving DecidableEq

structure SettlementProposalJson where
  final_sequence : UInt64
  event_root : String
deriving DecidableEq

inductive ChainIssueCode where
  | hashMismatch
  | prevBreak
  | sequenceGap
  | actorSeatInvalid
  | tipMismatch
  | proposalRootMismatch
  | proposalSequenceMismatch
  | emptyChain
deriving DecidableEq, Repr

structure ChainIssue where
  sequence : Option UInt64
  code : ChainIssueCode
  detail : String
deriving DecidableEq

structure ChainVerifyReport where
  work_packet : String
  verifier_build_id : String
  schema_kind : String
  ok : Bool
  tip : String
  final_sequence : Option UInt64
  event_count : Nat
  issues : List ChainIssue
  proposal_ok : Option Bool
deriving DecidableEq

def VERIFIER_BUILD_ID : String := "mozetto-poker-replay-wp064"

/-- An issue when a condition holds. -/
def issueWhen (condition : Prop) [Decidable condition] (issue : ChainIssue) :
    List ChainIssue :=
  if condition then [issue] else []

@[simp]
theorem issueWhen_eq_nil_iff {condition : Prop} [Decidable condition] {issue : ChainIssue} :
    issueWhen condition issue = [] ↔ ¬ condition := by
  by_cases holds : condition <;> simp [issueWhen, holds]

/-- A word as `0x` and 64 digits. -/
def fmt_b256 (word : Bytes32) : String := wordHex word

/-! ## The loop -/

/-- The words of an event, and its stored hash. -/
structure ParsedEvent where
  preimage : EventPreimage
  stored : Option Bytes32
deriving DecidableEq

def parseStored : Option String → Option (Option Bytes32)
  | none => some none
  | some text => some <$> alloy.parse_b256 text

/-- Parse the words of an event; `none` for a panic. -/
def parseEvent (ev : PokerEventV1Json) : Option ParsedEvent := do
  let prev ← alloy.parse_b256 ev.previous_event_hash
  let session_id ← alloy.parse_b256 ev.session_id
  let public_payload_hash ← alloy.parse_b256 ev.public_payload_hash
  let private_payload_commitment ← alloy.parse_b256 ev.private_payload_commitment
  let engine_hash ← alloy.parse_b256 ev.engine_hash
  let stored ← parseStored alloy ev.event_hash
  return {
    preimage := {
      domain := event_v1 alloy
      protocolVersion := ev.protocol_version
      sessionId := session_id
      epoch := ev.epoch
      handNumber := ev.hand_number
      sequence := ev.sequence
      eventType := ev.event_type
      hasActorSeat := ev.has_actor_seat
      actorSeat := ev.actor_seat
      publicPayloadHash := public_payload_hash
      privatePayloadCommitment := private_payload_commitment
      elapsedMs := ev.elapsed_ms
      previousEventHash := prev
      engineHash := engine_hash }
    stored := stored }

/-- The issues of one event, after the given hash at the given index. -/
def eventIssues (expected_prev : Bytes32) (i : Nat) (event : ParsedEvent) :
    List ChainIssue :=
  let ev := event.preimage
  let recomputed := event_hash alloy ev
  issueWhen (ev.sequence.toNat ≠ i) ⟨some ev.sequence, .sequenceGap,
        "index " ++ toString i ++ " has sequence " ++ toString ev.sequence.toNat⟩ ++
    issueWhen (ev.hasActorSeat = false ∧ ev.actorSeat ≠ 0) ⟨some ev.sequence, .actorSeatInvalid,
        "actorSeat MUST be 0 when hasActorSeat=false"⟩ ++
    issueWhen (ev.previousEventHash ≠ expected_prev) ⟨some ev.sequence, .prevBreak,
        "previousEventHash " ++ fmt_b256 ev.previousEventHash ++
          " != expected " ++ fmt_b256 expected_prev⟩ ++
    (event.stored.elim [] fun stored_h =>
      issueWhen (stored_h ≠ recomputed) ⟨some ev.sequence, .hashMismatch,
          "stored " ++ fmt_b256 stored_h ++ " != recomputed " ++ fmt_b256 recomputed⟩)

/-- The issues of all events, the tip and the last sequence. -/
def verifyEvents (expected_prev : Bytes32) (last_seq : UInt64) (i : Nat) :
    List PokerEventV1Json → Option (List ChainIssue × Bytes32 × UInt64)
  | [] => some ([], expected_prev, last_seq)
  | ev :: rest => do
      let event ← parseEvent alloy ev
      let (issues, tip, last) ← verifyEvents (event_hash alloy event.preimage)
          event.preimage.sequence (i + 1) rest
      return (eventIssues alloy expected_prev i event ++ issues, tip, last)

/-- The issue of a tip that is not the expected one. -/
def tipIssues (tip : Bytes32) (last_seq : UInt64) : Option String → Option (List ChainIssue)
  | none => some []
  | some text => do
      let exp_h ← alloy.parse_b256 text
      return issueWhen (exp_h ≠ tip) ⟨some last_seq, .tipMismatch,
          "expected tip " ++ fmt_b256 exp_h ++ " != recomputed " ++ fmt_b256 tip⟩

/-- The issues of a proposal that does not name the tip and last sequence. -/
def proposalIssues (tip : Bytes32) (last_seq : UInt64) :
    Option SettlementProposalJson → Option (List ChainIssue × Option Bool)
  | none => some ([], none)
  | some p => do
      let claimed ← alloy.parse_b256 p.event_root
      let issues :=
        issueWhen (claimed ≠ tip) ⟨some last_seq, .proposalRootMismatch,
              "proposal eventRoot " ++ fmt_b256 claimed ++
                " != chain tip " ++ fmt_b256 tip⟩ ++
          issueWhen (p.final_sequence ≠ last_seq) ⟨some last_seq, .proposalSequenceMismatch,
              "proposal finalSequence " ++
                toString p.final_sequence.toNat ++ " != last sequence " ++
                toString last_seq.toNat⟩
      return (issues, some issues.isEmpty)

def verify_poker_event_v1_chain (events : List PokerEventV1Json) (expected_tip : Option String)
    (proposal : Option SettlementProposalJson) : Option ChainVerifyReport :=
  if events.isEmpty then
    some
      { work_packet := "WP-064"
        verifier_build_id := VERIFIER_BUILD_ID
        schema_kind := "poker_event_v1"
        ok := false
        tip := fmt_b256 0
        final_sequence := none
        event_count := 0
        issues := [⟨none, .emptyChain, "no events"⟩]
        proposal_ok := none }
  else do
    let (chain, tip, last_seq) ← verifyEvents alloy 0 0 0 events
    let expected ← tipIssues alloy tip last_seq expected_tip
    let (proposed, proposal_ok) ← proposalIssues alloy tip last_seq proposal
    let issues := chain ++ expected ++ proposed
    return {
      work_packet := "WP-064"
      verifier_build_id := VERIFIER_BUILD_ID
      schema_kind := "poker_event_v1"
      ok := issues.isEmpty
      tip := fmt_b256 tip
      final_sequence := some last_seq
      event_count := events.length
      issues := issues
      proposal_ok := proposal_ok }

/-! ## What is checked of an event -/

variable {alloy}

/-- A parsed event fits after the given hash at the given index. -/
structure FitsEvent (alloy : Alloy) (expected_prev : Bytes32) (i : Nat)
    (event : ParsedEvent) : Prop where
  sequence : event.preimage.sequence.toNat = i
  seat : event.preimage.hasActorSeat = false → event.preimage.actorSeat = 0
  previous : event.preimage.previousEventHash = expected_prev
  stored : ∀ stored_h ∈ event.stored, stored_h = event_hash alloy event.preimage

/-- What parsing takes from an event. -/
structure ParsedAs (alloy : Alloy) (ev : PokerEventV1Json) (event : ParsedEvent) : Prop where
  domain : event.preimage.domain = event_v1 alloy
  protocol_version : event.preimage.protocolVersion = ev.protocol_version
  session_id : alloy.parse_b256 ev.session_id = some event.preimage.sessionId
  epoch : event.preimage.epoch = ev.epoch
  hand_number : event.preimage.handNumber = ev.hand_number
  sequence : event.preimage.sequence = ev.sequence
  event_type : event.preimage.eventType = ev.event_type
  has_actor_seat : event.preimage.hasActorSeat = ev.has_actor_seat
  actor_seat : event.preimage.actorSeat = ev.actor_seat
  public_payload_hash : alloy.parse_b256 ev.public_payload_hash =
      some event.preimage.publicPayloadHash
  private_payload_commitment : alloy.parse_b256 ev.private_payload_commitment =
      some event.preimage.privatePayloadCommitment
  elapsed_ms : event.preimage.elapsedMs = ev.elapsed_ms
  previous_event_hash : alloy.parse_b256 ev.previous_event_hash =
      some event.preimage.previousEventHash
  engine_hash : alloy.parse_b256 ev.engine_hash = some event.preimage.engineHash
  stored : parseStored alloy ev.event_hash = some event.stored

theorem parseEvent_eq_some_iff {ev : PokerEventV1Json} {event : ParsedEvent} :
    parseEvent alloy ev = some event ↔ ParsedAs alloy ev event := by
  simp only [parseEvent, Option.bind_eq_bind, Option.bind_eq_some_iff,
    Option.pure_def, Option.some.injEq]
  constructor
  · rintro ⟨prev, hasPrev, session, hasSession, payload, hasPayload,
      commitment, hasCommitment, engine, hasEngine, stored, hasStored, rfl⟩
    exact ⟨rfl, rfl, hasSession, rfl, rfl, rfl, rfl, rfl, rfl, hasPayload,
      hasCommitment, rfl, hasPrev, hasEngine, hasStored⟩
  · intro parsed
    rcases event with ⟨preimage, stored⟩
    rcases preimage with ⟨domain, version, session, epoch, hand, sequence, type, flag, seat,
        payload, commitment, elapsed, previous, engine⟩
    rcases parsed with ⟨rfl, rfl, hasSession, rfl, rfl, rfl, rfl, rfl, rfl, hasPayload,
        hasCommitment, rfl, hasPrev, hasEngine, hasStored⟩
    exact ⟨previous, hasPrev, session, hasSession, payload, hasPayload,
      commitment, hasCommitment, engine, hasEngine, stored, hasStored, rfl⟩

/-- What is parsed are words. -/
theorem ParsedAs.fits {ev : PokerEventV1Json} {event : ParsedEvent}
    (parsed : ParsedAs alloy ev event) : event.preimage.Fits := by
  have domain : event.preimage.domain < 2 ^ 256 := by
    rw [parsed.domain]
    exact alloy.keccak_lt _
  exact EventPreimage.fits_of_words domain (alloy.parse_lt parsed.session_id)
      (alloy.parse_lt parsed.public_payload_hash) (alloy.parse_lt parsed.private_payload_commitment)
      (alloy.parse_lt parsed.previous_event_hash) (alloy.parse_lt parsed.engine_hash)

/-- The hash computed again for a parsed event. -/
def recomputed (alloy : Alloy) (event : ParsedEvent) : Bytes32 := event_hash alloy event.preimage

/-- The parsed form of every event. -/
def Parsed (alloy : Alloy) (events : List PokerEventV1Json) (parsed : List ParsedEvent) : Prop :=
  List.Forall₂ (fun ev event => parseEvent alloy ev = some event) events parsed

theorem eventIssues_eq_nil_iff {expected_prev : Bytes32} {i : Nat} {event : ParsedEvent} :
    eventIssues alloy expected_prev i event = [] ↔
      FitsEvent alloy expected_prev i event := by
  have stored : (event.stored.elim [] fun stored_h =>
        issueWhen (stored_h ≠ event_hash alloy event.preimage)
          ⟨some event.preimage.sequence, .hashMismatch,
            "stored " ++ fmt_b256 stored_h ++ " != recomputed " ++
              fmt_b256 (event_hash alloy event.preimage)⟩) = [] ↔
      ∀ stored_h ∈ event.stored, stored_h = event_hash alloy event.preimage := by
    cases event.stored with
    | none => simp
    | some stored_h => simp
  simp only [eventIssues, List.append_eq_nil_iff, issueWhen_eq_nil_iff, stored,
    ne_eq, not_not, not_and]
  constructor
  · rintro ⟨⟨⟨sequence, seat⟩, previous⟩, same⟩
    exact ⟨sequence, seat, previous, same⟩
  · rintro ⟨sequence, seat, previous, same⟩
    exact ⟨⟨⟨sequence, seat⟩, previous⟩, same⟩

/-- The loop parses every event, and ends without issues exactly on chains. -/
theorem verifyEvents_eq_some {expected_prev tip : Bytes32} {last_seq last : UInt64} {i : Nat}
    {events : List PokerEventV1Json} {issues : List ChainIssue}
    (verified : verifyEvents alloy expected_prev last_seq i events = some (issues, tip, last)) :
    ∃ parsed, Parsed alloy events parsed ∧ (issues = [] ↔
          Linked (recomputed alloy) (FitsEvent alloy) expected_prev i parsed) ∧
        tip = tipAfter (recomputed alloy) expected_prev parsed := by
  induction events generalizing expected_prev last_seq i issues tip last with
  | nil =>
    cases verified
    exact ⟨[], List.Forall₂.nil, by simp [Linked], rfl⟩
  | cons ev rest induction =>
    simp only [verifyEvents, Option.bind_eq_bind, Option.bind_eq_some_iff,
      Option.pure_def, Option.some.injEq, Prod.mk.injEq] at verified
    rcases verified with ⟨event, parsedEvent, ⟨more, tip', last'⟩, onward, rfl, rfl, rfl⟩
    rcases induction onward with ⟨parsed, all, linked, ends⟩
    refine ⟨event :: parsed, List.Forall₂.cons parsedEvent all, ?_, ends⟩
    rw [List.append_eq_nil_iff, eventIssues_eq_nil_iff, linked]
    rfl

/-- An accepted list is a chain of parsed events that ends at the tip. -/
theorem verify_accepts {events : List PokerEventV1Json} {expected_tip : Option String}
    {proposal : Option SettlementProposalJson} {report : ChainVerifyReport}
    (verified : verify_poker_event_v1_chain alloy events expected_tip proposal = some report)
    (accepted : report.ok = true) :
    ∃ parsed, Parsed alloy events parsed ∧ Linked (recomputed alloy) (FitsEvent alloy) 0 0 parsed ∧
        report.tip = fmt_b256 (tipAfter (recomputed alloy) 0 parsed) := by
  rw [verify_poker_event_v1_chain] at verified
  split at verified
  case isTrue =>
    cases verified
    cases accepted
  case isFalse =>
    simp only [Option.bind_eq_bind, Option.bind_eq_some_iff, Option.pure_def,
      Option.some.injEq] at verified
    rcases verified with ⟨⟨chain, tip, last⟩, looped, expected, -, ⟨proposed, ok⟩, -, rfl⟩
    simp only [List.isEmpty_iff, List.append_eq_nil_iff] at accepted
    rcases verifyEvents_eq_some looped with ⟨parsed, all, linked, ends⟩
    exact ⟨parsed, all, linked.mp accepted.1.1, congrArg fmt_b256 ends⟩

/-- Parsing has one result. -/
theorem Parsed.unique {events : List PokerEventV1Json} {parsed parsed' : List ParsedEvent}
    (all : Parsed alloy events parsed) (all' : Parsed alloy events parsed') : parsed = parsed' := by
  induction all generalizing parsed' with
  | nil =>
    cases all'
    rfl
  | cons first rest induction =>
    rcases List.forall₂_cons_left_iff.mp all' with ⟨event', others, first', rest', rfl⟩
    rw [Option.some.inj (first.symm.trans first'), induction rest']

/-- The loop gets through when every event is parsed. -/
theorem verifyEvents_of_parsed {events : List PokerEventV1Json} {parsed : List ParsedEvent}
    (all : Parsed alloy events parsed) (expected_prev : Bytes32) (last_seq : UInt64) (i : Nat) :
    ∃ issues tip last, verifyEvents alloy expected_prev last_seq i events =
        some (issues, tip, last) := by
  induction all generalizing expected_prev last_seq i with
  | nil => exact ⟨_, _, _, rfl⟩
  | @cons ev event events parsed first rest induction =>
    rcases induction (event_hash alloy event.preimage) event.preimage.sequence (i + 1) with
      ⟨issues, tip, last, onward⟩
    refine ⟨eventIssues alloy expected_prev i event ++ issues, tip, last, ?_⟩
    simp only [verifyEvents, first, onward, Option.bind_eq_bind,
      Option.bind_some, Option.pure_def]

/-- Without expectations, chains of parsed events are what is accepted. -/
theorem verify_plain_accepts_iff {events : List PokerEventV1Json} {parsed : List ParsedEvent}
    (nonempty : events ≠ []) (all : Parsed alloy events parsed) : (∃ report,
      verify_poker_event_v1_chain alloy events none none = some report ∧ report.ok = true) ↔
    Linked (recomputed alloy) (FitsEvent alloy) 0 0 parsed := by
  constructor
  · rintro ⟨report, verified, accepted⟩
    rcases verify_accepts verified accepted with ⟨others, all', linked, -⟩
    rwa [all.unique all']
  · intro linked
    rcases verifyEvents_of_parsed all 0 0 0 with ⟨issues, tip, last, looped⟩
    rcases verifyEvents_eq_some looped with ⟨others, all', clean, -⟩
    rw [← all.unique all'] at clean
    have given : events.isEmpty = false := by
      rwa [Bool.eq_false_iff, ne_eq, List.isEmpty_iff]
    rw [clean.mpr linked] at looped
    rw [verify_poker_event_v1_chain, given, looped]
    exact ⟨_, rfl, rfl⟩

/-! ## The tip commits to the transcript -/

/-- The bytes that are hashed for the events of a list. -/
def hashedBytes (alloy : Alloy) (events : List PokerEventV1Json) : Set Bytes :=
  {bytes | ∃ ev ∈ events, ∃ event, parseEvent alloy ev = some event ∧
    bytes = event.preimage.abi_encode}

/-- Two events with the same value in every hashed field. -/
structure SameFields (alloy : Alloy) (ev other : PokerEventV1Json) : Prop where
  protocol_version : ev.protocol_version = other.protocol_version
  session_id : alloy.parse_b256 ev.session_id = alloy.parse_b256 other.session_id
  epoch : ev.epoch = other.epoch
  hand_number : ev.hand_number = other.hand_number
  sequence : ev.sequence = other.sequence
  event_type : ev.event_type = other.event_type
  has_actor_seat : ev.has_actor_seat = other.has_actor_seat
  actor_seat : ev.actor_seat = other.actor_seat
  public_payload_hash : alloy.parse_b256 ev.public_payload_hash =
      alloy.parse_b256 other.public_payload_hash
  private_payload_commitment : alloy.parse_b256 ev.private_payload_commitment =
      alloy.parse_b256 other.private_payload_commitment
  elapsed_ms : ev.elapsed_ms = other.elapsed_ms
  previous_event_hash : alloy.parse_b256 ev.previous_event_hash =
      alloy.parse_b256 other.previous_event_hash
  engine_hash : alloy.parse_b256 ev.engine_hash = alloy.parse_b256 other.engine_hash

theorem ParsedAs.sameFields {ev other : PokerEventV1Json} {event event' : ParsedEvent}
    (parsed : ParsedAs alloy ev event) (parsed' : ParsedAs alloy other event')
    (same : event.preimage = event'.preimage) : SameFields alloy ev other where
  protocol_version := by
    rw [← parsed.protocol_version, same, parsed'.protocol_version]
  session_id := by rw [parsed.session_id, same, parsed'.session_id]
  epoch := by rw [← parsed.epoch, same, parsed'.epoch]
  hand_number := by rw [← parsed.hand_number, same, parsed'.hand_number]
  sequence := by rw [← parsed.sequence, same, parsed'.sequence]
  event_type := by rw [← parsed.event_type, same, parsed'.event_type]
  has_actor_seat := by
    rw [← parsed.has_actor_seat, same, parsed'.has_actor_seat]
  actor_seat := by rw [← parsed.actor_seat, same, parsed'.actor_seat]
  public_payload_hash := by
    rw [parsed.public_payload_hash, same, parsed'.public_payload_hash]
  private_payload_commitment := by
    rw [parsed.private_payload_commitment, same, parsed'.private_payload_commitment]
  elapsed_ms := by rw [← parsed.elapsed_ms, same, parsed'.elapsed_ms]
  previous_event_hash := by
    rw [parsed.previous_event_hash, same, parsed'.previous_event_hash]
  engine_hash := by rw [parsed.engine_hash, same, parsed'.engine_hash]

theorem Parsed.exists_event {events : List PokerEventV1Json} {parsed : List ParsedEvent}
    (all : Parsed alloy events parsed) {event : ParsedEvent} (member : event ∈ parsed) :
    ∃ ev ∈ events, parseEvent alloy ev = some event := by
  rcases List.getElem_of_mem member with ⟨place, inside, rfl⟩
  have given := inside
  rw [← List.Forall₂.length_eq all] at given
  exact ⟨events[place], List.getElem_mem given, List.Forall₂.get all given inside⟩

/-- Parsed events of one hash are the same, where no hashes collide. -/
theorem preimage_eq_of_recomputed_eq {events events' : List PokerEventV1Json}
    {parsed parsed' : List ParsedEvent}
    (all : Parsed alloy events parsed) (all' : Parsed alloy events' parsed')
    (injective : Set.InjOn alloy.keccak256 (hashedBytes alloy events ∪ hashedBytes alloy events'))
    {event event' : ParsedEvent} (member : event ∈ parsed)
    (member' : event' ∈ parsed')
    (same : recomputed alloy event = recomputed alloy event') :
    event.preimage = event'.preimage := by
  rcases all.exists_event member with ⟨ev, given, from_⟩
  rcases all'.exists_event member' with ⟨ev', given', from_'⟩
  have bytes :=
    injective (.inl ⟨ev, given, event, from_, rfl⟩) (.inr ⟨ev', given', event', from_', rfl⟩) same
  exact EventPreimage.abi_encode_injective (parseEvent_eq_some_iff.mp from_).fits
      (parseEvent_eq_some_iff.mp from_').fits bytes

/-- Accepted lists with one tip have the same parsed events. -/
theorem parsed_bound_by_tip {events events' : List PokerEventV1Json}
    {parsed parsed' : List ParsedEvent}
    (all : Parsed alloy events parsed) (all' : Parsed alloy events' parsed')
    (nonempty : parsed ≠ []) (nonempty' : parsed' ≠ [])
    (injective : Set.InjOn alloy.keccak256 (hashedBytes alloy events ∪ hashedBytes alloy events'))
    (linked : Linked (recomputed alloy) (FitsEvent alloy) 0 0 parsed)
    (linked' : Linked (recomputed alloy) (FitsEvent alloy) 0 0 parsed')
    (tips : tipAfter (recomputed alloy) 0 parsed = tipAfter (recomputed alloy) 0 parsed') :
    List.Forall₂ (fun event event' => event.preimage = event'.preimage) parsed
      parsed' := by
  apply linked.bound_by_tip Eq _ _ linked' nonempty nonempty' tips
  · intro event member event' member' same
    exact preimage_eq_of_recomputed_eq all all' injective member member' same
  · intro event event' earlier earlier' place place' same fits fits'
    constructor
    · rw [← fits.sequence, ← fits'.sequence, same]
    · rw [← fits.previous, ← fits'.previous, same]

theorem Parsed.sameFields {events events' : List PokerEventV1Json}
    {parsed parsed' : List ParsedEvent}
    (all : Parsed alloy events parsed) (all' : Parsed alloy events' parsed')
    (same : List.Forall₂ (fun event event' => event.preimage = event'.preimage) parsed parsed') :
    List.Forall₂ (SameFields alloy) events events' := by
  induction same generalizing events events' with
  | nil =>
    rw [List.forall₂_nil_right_iff.mp all, List.forall₂_nil_right_iff.mp all']
    exact List.Forall₂.nil
  | cons first rest induction =>
    rcases List.forall₂_cons_right_iff.mp all with ⟨ev, events, here, more, rfl⟩
    rcases List.forall₂_cons_right_iff.mp all' with ⟨ev', events', here', more', rfl⟩
    exact List.Forall₂.cons ((parseEvent_eq_some_iff.mp here).sameFields
          (parseEvent_eq_some_iff.mp here') first) (induction more more')

/-- Two accepted lists with the same tip agree in every hashed field. -/
theorem verify_poker_event_v1_chain_binds {events events' : List PokerEventV1Json}
    {expected_tip expected_tip' : Option String}
    {proposal proposal' : Option SettlementProposalJson} {report report' : ChainVerifyReport}
    (injective : Set.InjOn alloy.keccak256 (hashedBytes alloy events ∪ hashedBytes alloy events'))
    (nonempty : events ≠ []) (nonempty' : events' ≠ [])
    (verified : verify_poker_event_v1_chain alloy events expected_tip proposal = some report)
    (verified' : verify_poker_event_v1_chain alloy events' expected_tip' proposal' = some report')
    (accepted : report.ok = true) (accepted' : report'.ok = true)
    (tips : report.tip = report'.tip) :
    List.Forall₂ (SameFields alloy) events events' := by
  rcases verify_accepts verified accepted with ⟨parsed, all, linked, tip⟩
  rcases verify_accepts verified' accepted' with ⟨parsed', all', linked', tip'⟩
  rw [tip, tip'] at tips
  have given : parsed ≠ [] := by
    rintro rfl
    exact nonempty (List.forall₂_nil_right_iff.mp all)
  have given' : parsed' ≠ [] := by
    rintro rfl
    exact nonempty' (List.forall₂_nil_right_iff.mp all')
  exact all.sameFields all' (parsed_bound_by_tip all all' given given' injective linked linked'
        (wordHex_injective tips))

end Mozetto.Replay
