import Mozetto.Commitments.MerkleProofs
import Mozetto.EventStore.EventHashChain
import Mozetto.Replay.EventChain

/-!
# The verifiers of event chains

The two verifiers of the event store and the one in Rust check the same links
of the same hashes.  The chain also checks the event types, the canonical
bytes and the actor seats, the Rust verifier the actor seats, and the
standalone verifier neither.
-/

namespace Mozetto.Replay

open Mozetto.Chain
open Mozetto.Commitments
open Mozetto.EventStore
open Mozetto.EventStore.EventHashChain
open Mozetto.Library.HashChain

/-! ## What the packages agree on -/

/-- The ABI types of an event. -/
inductive AbiType where
  | uint (bits : Nat)
  | bool
  | bytes32
deriving DecidableEq

/-- The word as which a value of a type is encoded. -/
def Encodes : AbiType → AbiValue → Nat → Prop
  | .uint bits, .number value, word => value = word ∧ word < 2 ^ bits
  | .bool, .bool value, word => word = boolWord value
  | .bytes32, .hex text, word => TextOf text word
  | _, _, _ => False

def EVENT_SIGNATURE : String :=
  "bytes32 domain, uint16 protocolVersion, bytes32 sessionId, " ++
    "uint64 epoch, uint64 handNumber, uint64 sequence, " ++
    "uint16 eventType, bool hasActorSeat, uint8 actorSeat, " ++
    "bytes32 publicPayloadHash, bytes32 privatePayloadCommitment, " ++
    "uint64 elapsedMs, bytes32 previousEventHash, bytes32 engineHash"

/-- The types that the signature names. -/
def EVENT_TYPES : List AbiType :=
  [.bytes32, .uint 16, .bytes32, .uint 64, .uint 64, .uint 64, .uint 16, .bool,
    .uint 8, .bytes32, .bytes32, .uint 64, .bytes32, .bytes32]

/--
Both packages encode by words and hash the bytes: values that fit their types
are taken, numbers that do not are refused.
-/
structure HashesEvents (viem : Viem) (keccak256 : Bytes → Bytes32) : Prop where
  label :
    TextOf (domainTag viem "MOZETTO_EVENT_V1")
      (keccak256 (utf8 "MOZETTO_EVENT_V1"))
  taken : ∀ (values : List AbiValue) (words : List Nat), values.length = EVENT_TYPES.length →
      List.Forall₂ (fun typed word => Encodes typed.1 typed.2 word) (EVENT_TYPES.zip values) words →
        ∃ bytes, viem.encodeAbiParameters EVENT_SIGNATURE values = .ok bytes ∧
            TextOf (viem.keccak256 bytes) (keccak256 (abiEncode words))
  refused : ∀ (values : List AbiValue) (bytes : Hex),
      viem.encodeAbiParameters EVENT_SIGNATURE values = .ok bytes →
        ∀ bits value, (AbiType.uint bits, AbiValue.number value) ∈ EVENT_TYPES.zip values →
          0 ≤ value ∧ value < 2 ^ bits

/-- The words that an event is hashed as. -/
structure PreimageOf (event : PokerEventV1) (preimage : EventPreimage) : Prop where
  protocolVersion : event.protocolVersion = preimage.protocolVersion.toNat
  sessionId : TextOf event.sessionId preimage.sessionId
  epoch : event.epoch = preimage.epoch.toNat
  handNumber : event.handNumber = preimage.handNumber.toNat
  sequence : event.sequence = preimage.sequence.toNat
  eventType : event.eventType = preimage.eventType.toNat
  hasActorSeat : event.hasActorSeat = preimage.hasActorSeat
  actorSeat : event.actorSeat = preimage.actorSeat.toNat
  publicPayloadHash : TextOf event.publicPayloadHash preimage.publicPayloadHash
  privatePayloadCommitment : TextOf event.privatePayloadCommitment preimage.privatePayloadCommitment
  elapsedMs : event.elapsedMs = preimage.elapsedMs.toNat
  previousEventHash : TextOf event.previousEventHash preimage.previousEventHash
  engineHash : TextOf event.engineHash preimage.engineHash

/-- The values that are encoded for an event. -/
def eventValues (viem : Viem) (event : PokerEventV1) : List AbiValue :=
  [.hex (domainTag viem "MOZETTO_EVENT_V1"), .number event.protocolVersion,
    .hex event.sessionId, .number event.epoch, .number event.handNumber,
    .number event.sequence, .number event.eventType,
    .bool event.hasActorSeat, .number event.actorSeat,
    .hex event.publicPayloadHash, .hex event.privatePayloadCommitment,
    .number event.elapsedMs, .hex event.previousEventHash, .hex event.engineHash]

variable {viem : Viem} {alloy : Alloy}

theorem length_eventValues (event : PokerEventV1) :
    (eventValues viem event).length = EVENT_TYPES.length := rfl

theorem hashPokerEventV1_eq_ok_iff {event : PokerEventV1} {result : HashResult} :
    hashPokerEventV1 viem event = .ok result ↔ ∃ bytes,
        viem.encodeAbiParameters EVENT_SIGNATURE (eventValues viem event) = .ok bytes ∧
          ⟨bytes, viem.keccak256 bytes⟩ = result := by
  rw [hashPokerEventV1, eventHash, hashEnc]
  show (viem.encodeAbiParameters EVENT_SIGNATURE _ >>= _) = _ ↔ _
  rw [Library.Guarded.bind_eq_ok_iff]
  simp only [Library.Guarded.pure_eq_ok_iff]
  exact Iff.rfl

/-- The values of an event are encoded as its words. -/
theorem encodes_eventValues {event : PokerEventV1} {preimage : EventPreimage}
    (label : TextOf (domainTag viem "MOZETTO_EVENT_V1") preimage.domain)
    (written : PreimageOf event preimage) :
    List.Forall₂ (fun typed word => Encodes typed.1 typed.2 word)
      (EVENT_TYPES.zip (eventValues viem event)) preimage.words := by
  have small16 (number : UInt16) : number.toNat < 2 ^ 16 := number.toNat_lt
  have small64 (number : UInt64) : number.toNat < 2 ^ 64 := number.toNat_lt
  have small8 (number : UInt8) : number.toNat < 2 ^ 8 := number.toNat_lt
  simp only [EVENT_TYPES, eventValues, EventPreimage.words,
    List.zip_cons_cons, List.zip_nil_left, List.forall₂_cons, Encodes,
    written.protocolVersion, written.epoch, written.handNumber,
    written.sequence, written.eventType, written.hasActorSeat,
    written.actorSeat, written.elapsedMs, small16, small64, small8, label,
    written.sessionId, written.publicPayloadHash,
    written.privatePayloadCommitment, written.previousEventHash,
    written.engineHash, true_and, and_self, List.Forall₂.nil]

/-- Both sides hash the words of an event. -/
theorem hashPokerEventV1_of_preimage (hashes : HashesEvents viem alloy.keccak256)
    {event : PokerEventV1} {preimage : EventPreimage} (written : PreimageOf event preimage)
    (domain : preimage.domain = event_v1 alloy) : ∃ result,
    hashPokerEventV1 viem event = .ok result ∧ TextOf result.hash (event_hash alloy preimage) := by
  have label : TextOf (domainTag viem "MOZETTO_EVENT_V1") preimage.domain := by
    rw [domain]
    exact hashes.label
  rcases hashes.taken _ _ (length_eventValues event) (encodes_eventValues label written) with
    ⟨bytes, encoded, hash⟩
  exact ⟨⟨bytes, viem.keccak256 bytes⟩, hashPokerEventV1_eq_ok_iff.mpr ⟨bytes, encoded, rfl⟩, hash⟩

/-- The texts of an event are 32-byte words. -/
structure WordFields (event : PokerEventV1) : Prop where
  sessionId : ∃ word, TextOf event.sessionId word
  publicPayloadHash : ∃ word, TextOf event.publicPayloadHash word
  privatePayloadCommitment : ∃ word, TextOf event.privatePayloadCommitment word
  previousEventHash : ∃ word, TextOf event.previousEventHash word
  engineHash : ∃ word, TextOf event.engineHash word

theorem exists_uint16 {value : Int} (fits : 0 ≤ value ∧ value < 2 ^ 16) :
    ∃ number : UInt16, value = number.toNat := by
  have small : value.toNat < UInt16.size := by
    show value.toNat < 2 ^ 16
    omega
  refine ⟨UInt16.ofNat value.toNat, ?_⟩
  rw [UInt16.toNat_ofNat_of_lt' small, Int.toNat_of_nonneg fits.1]

theorem exists_uint64 {value : Int} (fits : 0 ≤ value ∧ value < 2 ^ 64) :
    ∃ number : UInt64, value = number.toNat := by
  have small : value.toNat < UInt64.size := by
    show value.toNat < 2 ^ 64
    omega
  refine ⟨UInt64.ofNat value.toNat, ?_⟩
  rw [UInt64.toNat_ofNat_of_lt' small, Int.toNat_of_nonneg fits.1]

theorem exists_uint8 {value : Int} (fits : 0 ≤ value ∧ value < 2 ^ 8) :
    ∃ number : UInt8, value = number.toNat := by
  have small : value.toNat < UInt8.size := by
    show value.toNat < 2 ^ 8
    omega
  refine ⟨UInt8.ofNat value.toNat, ?_⟩
  rw [UInt8.toNat_ofNat_of_lt' small, Int.toNat_of_nonneg fits.1]

/-- An event that is hashed has the words it is hashed as. -/
theorem exists_preimage (hashes : HashesEvents viem alloy.keccak256)
    {event : PokerEventV1} {result : HashResult} (typed : WordFields event)
    (hashed : hashPokerEventV1 viem event = .ok result) : ∃ preimage : EventPreimage,
    PreimageOf event preimage ∧ preimage.domain = event_v1 alloy ∧
      TextOf result.hash (event_hash alloy preimage) := by
  rcases hashPokerEventV1_eq_ok_iff.mp hashed with ⟨bytes, encoded, -⟩
  have fits := hashes.refused _ _ encoded
  rcases exists_uint16 (fits 16 event.protocolVersion (by
    simp [EVENT_TYPES, eventValues])) with ⟨version, hasVersion⟩
  rcases exists_uint64 (fits 64 event.epoch (by
    simp [EVENT_TYPES, eventValues])) with ⟨epoch, hasEpoch⟩
  rcases exists_uint64 (fits 64 event.handNumber (by
    simp [EVENT_TYPES, eventValues])) with ⟨hand, hasHand⟩
  rcases exists_uint64 (fits 64 event.sequence (by
    simp [EVENT_TYPES, eventValues])) with ⟨sequence, hasSequence⟩
  rcases exists_uint16 (fits 16 event.eventType (by
    simp [EVENT_TYPES, eventValues])) with ⟨type, hasType⟩
  rcases exists_uint8 (fits 8 event.actorSeat (by
    simp [EVENT_TYPES, eventValues])) with ⟨seat, hasSeat⟩
  rcases exists_uint64 (fits 64 event.elapsedMs (by
    simp [EVENT_TYPES, eventValues])) with ⟨elapsed, hasElapsed⟩
  rcases typed with ⟨⟨session, hasSession⟩, ⟨payload, hasPayload⟩,
      ⟨commitment, hasCommitment⟩, ⟨previous, hasPrevious⟩, ⟨engine, hasEngine⟩⟩
  have written : PreimageOf event ⟨event_v1 alloy, version, session, epoch, hand, sequence, type,
        event.hasActorSeat, seat, payload, commitment, elapsed, previous, engine⟩ :=
    ⟨hasVersion, hasSession, hasEpoch, hasHand, hasSequence, hasType, rfl,
      hasSeat, hasPayload, hasCommitment, hasElapsed, hasPrevious, hasEngine⟩
  rcases hashPokerEventV1_of_preimage hashes written rfl with ⟨other, hashed', hash⟩
  rw [hashed] at hashed'
  cases hashed'
  exact ⟨_, written, rfl, hash⟩

/-- The words of an event are 32-byte words. -/
theorem PreimageOf.fits {event : PokerEventV1} {preimage : EventPreimage}
    (written : PreimageOf event preimage)
    (domain : preimage.domain = event_v1 alloy) : preimage.Fits := by
  have small : preimage.domain < 2 ^ 256 := by
    rw [domain]
    exact alloy.keccak_lt _
  exact EventPreimage.fits_of_words small written.sessionId.fits
      written.publicPayloadHash.fits written.privatePayloadCommitment.fits
      written.previousEventHash.fits written.engineHash.fits

/-! ## The tip commits to the rows -/

/-- An event with its texts in lower case. -/
def lowerEvent (event : PokerEventV1) : PokerEventV1 :=
  { event with
    sessionId := normalizeHex event.sessionId
    publicPayloadHash := normalizeHex event.publicPayloadHash
    privatePayloadCommitment := normalizeHex event.privatePayloadCommitment
    previousEventHash := normalizeHex event.previousEventHash
    engineHash := normalizeHex event.engineHash }

/-- Events of the same words have the same fields, up to case. -/
theorem PreimageOf.lowerEvent_eq {event event' : PokerEventV1} {preimage : EventPreimage}
    (written : PreimageOf event preimage) (written' : PreimageOf event' preimage) :
    lowerEvent event = lowerEvent event' := by
  simp only [lowerEvent, PokerEventV1.mk.injEq, written.protocolVersion,
    written'.protocolVersion, written.epoch, written'.epoch,
    written.handNumber, written'.handNumber, written.sequence,
    written'.sequence, written.eventType, written'.eventType,
    written.hasActorSeat, written'.hasActorSeat, written.actorSeat,
    written'.actorSeat, written.elapsedMs, written'.elapsedMs, true_and,
    (written.sessionId.same_iff written'.sessionId).mpr rfl,
    (written.publicPayloadHash.same_iff written'.publicPayloadHash).mpr rfl,
    (written.privatePayloadCommitment.same_iff written'.privatePayloadCommitment).mpr rfl,
    (written.previousEventHash.same_iff written'.previousEventHash).mpr rfl,
    (written.engineHash.same_iff written'.engineHash).mpr rfl]

/-- The bytes that are hashed for the events of rows. -/
def rowBytes (alloy : Alloy) (rows : List StoredEvent) : Set Bytes :=
  {bytes | ∃ row ∈ rows, ∃ preimage, PreimageOf row.event preimage ∧
    preimage.domain = event_v1 alloy ∧ bytes = preimage.abi_encode}

/-- The hash of the last row, computed again. -/
def recomputedTip (viem : Viem) (rows : List StoredEvent) : Option Hex :=
  rows.getLast?.bind fun row =>
    (hashPokerEventV1 viem row.event).toOption.map fun result =>
      normalizeHex result.hash

section Tips

variable {rows rows' : List StoredEvent}

/-- The recomputed tip of a chain is its last stored hash, up to case. -/
theorem recomputedTip_eq {tip : Hex} (nonempty : rows ≠ [])
    (linked : Linked StoredEvent.eventHash (Matches viem) tip 0 rows) : recomputedTip viem rows =
    some (normalizeHex (tipAfter StoredEvent.eventHash tip rows)) := by
  cases rows using List.reverseRecOn with
  | nil => exact absurd rfl nonempty
  | append_singleton rows row =>
    rcases (linked_concat_iff.mp linked).2.hashed with ⟨result, hash, same⟩
    rw [recomputedTip, List.getLast?_concat, Option.bind_some, hash, tipAfter_concat, ← same]
    rfl

/-- Rows of one hash have the same fields, where no hashes collide. -/
theorem lowerEvent_eq_of_hash_eq (hashes : HashesEvents viem alloy.keccak256)
    (injective : Set.InjOn alloy.keccak256 (rowBytes alloy rows ∪ rowBytes alloy rows'))
    {row row' : StoredEvent} (member : row ∈ rows) (member' : row' ∈ rows')
    (typed : WordFields row.event) (typed' : WordFields row'.event)
    {result result' : HashResult}
    (hashed : hashPokerEventV1 viem row.event = .ok result)
    (hashed' : hashPokerEventV1 viem row'.event = .ok result')
    (same : normalizeHex result.hash = normalizeHex result'.hash) :
    lowerEvent row.event = lowerEvent row'.event := by
  rcases exists_preimage hashes typed hashed with ⟨preimage, written, domain, hash⟩
  rcases exists_preimage hashes typed' hashed' with ⟨preimage', written', domain', hash'⟩
  have bytes :=
    injective (.inl ⟨row, member, preimage, written, domain, rfl⟩)
      (.inr ⟨row', member', preimage', written', domain', rfl⟩) ((hash.same_iff hash').mp same)
  cases EventPreimage.abi_encode_injective (written.fits domain) (written'.fits domain') bytes
  exact written.lowerEvent_eq written'

/-- Two accepted chains with the same tip agree in every hashed field. -/
theorem linked_rows_bound_by_tip (hashes : HashesEvents viem alloy.keccak256)
    (injective : Set.InjOn alloy.keccak256 (rowBytes alloy rows ∪ rowBytes alloy rows'))
    (nonempty : rows ≠ []) (nonempty' : rows' ≠ [])
    (typed : ∀ row ∈ rows, WordFields row.event)
    (typed' : ∀ row ∈ rows', WordFields row.event)
    (linked : Linked StoredEvent.eventHash (Matches viem) ZERO_EVENT_HASH 0 rows)
    (linked' : Linked StoredEvent.eventHash (Matches viem) ZERO_EVENT_HASH 0 rows')
    (tips : recomputedTip viem rows = recomputedTip viem rows') :
    List.Forall₂ (fun row row' => lowerEvent row.event = lowerEvent row'.event) rows
      rows' := by
  rw [recomputedTip_eq nonempty linked, recomputedTip_eq nonempty' linked',
    Option.some.injEq] at tips
  apply linked.bound_by_tip (fun hash hash' => normalizeHex hash = normalizeHex hash') _ _ linked'
      nonempty nonempty' tips
  · intro row member row' member' same
    rcases linked.fits_of_mem member with ⟨_, _, matched⟩
    rcases linked'.fits_of_mem member' with ⟨_, _, matched'⟩
    rcases matched.hashed with ⟨result, hash, stored⟩
    rcases matched'.hashed with ⟨result', hash', stored'⟩
    exact lowerEvent_eq_of_hash_eq hashes injective member member'
        (typed row member) (typed' row' member') hash hash' (by rw [stored, stored', same])
  · intro row row' earlier earlier' place place' same fits fits'
    have sequences := congrArg PokerEventV1.sequence same
    have previous := congrArg PokerEventV1.previousEventHash same
    constructor
    · have places : (place : Int) = place' := by
        rw [← fits.sequence, ← fits'.sequence]
        exact sequences
      exact Int.ofNat_inj.mp places
    · rw [← fits.previous, ← fits'.previous]
      exact previous

end Tips

/-! ## The verifiers agree -/

/-- A row and the JSON event that carries the same values. -/
structure SameRow (row : StoredEvent) (ev : PokerEventV1Json) : Prop where
  protocol_version : row.event.protocolVersion = ev.protocol_version.toNat
  session_id : ev.session_id = row.event.sessionId
  epoch : row.event.epoch = ev.epoch.toNat
  hand_number : row.event.handNumber = ev.hand_number.toNat
  sequence : row.event.sequence = ev.sequence.toNat
  event_type : row.event.eventType = ev.event_type.toNat
  has_actor_seat : row.event.hasActorSeat = ev.has_actor_seat
  actor_seat : row.event.actorSeat = ev.actor_seat.toNat
  public_payload_hash : ev.public_payload_hash = row.event.publicPayloadHash
  private_payload_commitment : ev.private_payload_commitment = row.event.privatePayloadCommitment
  elapsed_ms : row.event.elapsedMs = ev.elapsed_ms.toNat
  previous_event_hash : ev.previous_event_hash = row.event.previousEventHash
  engine_hash : ev.engine_hash = row.event.engineHash
  event_hash : ev.event_hash = some row.eventHash

/-- A row whose texts are 32-byte words. -/
structure WordRow (row : StoredEvent) : Prop where
  fields : WordFields row.event
  stored : ∃ word, TextOf row.eventHash word

/-- The parser reads 32-byte words. -/
def ParsesWords (alloy : Alloy) : Prop :=
  ∀ {text : Hex} {word : Nat}, TextOf text word → alloy.parse_b256 text = some word

/-- A parsed event has the words of its row. -/
structure WordsOf (alloy : Alloy) (row : StoredEvent) (event : ParsedEvent) : Prop where
  written : PreimageOf row.event event.preimage
  domain : event.preimage.domain = event_v1 alloy
  stored : ∃ word, event.stored = some word ∧ TextOf row.eventHash word

theorem parseStored_of_textOf (parses : ParsesWords alloy) {text : Hex} {word : Nat}
    (written : TextOf text word) : parseStored alloy (some text) = some (some word) := by
  rw [parseStored, parses written]
  rfl

theorem exists_parsed (parses : ParsesWords alloy) {row : StoredEvent} {ev : PokerEventV1Json}
    (same : SameRow row ev) (typed : WordRow row) :
    ∃ event, parseEvent alloy ev = some event ∧ WordsOf alloy row event := by
  rcases typed with ⟨⟨⟨session, hasSession⟩, ⟨payload, hasPayload⟩,
      ⟨commitment, hasCommitment⟩, ⟨previous, hasPrevious⟩, ⟨engine, hasEngine⟩⟩,
      ⟨stored, hasStored⟩⟩
  refine ⟨⟨⟨event_v1 alloy, ev.protocol_version, session, ev.epoch, ev.hand_number,
        ev.sequence, ev.event_type, ev.has_actor_seat, ev.actor_seat, payload,
        commitment, ev.elapsed_ms, previous, engine⟩, some stored⟩, ?_, ?_⟩
  · apply parseEvent_eq_some_iff.mpr
    exact
      { domain := rfl
        protocol_version := rfl
        session_id := by rw [same.session_id, parses hasSession]
        epoch := rfl
        hand_number := rfl
        sequence := rfl
        event_type := rfl
        has_actor_seat := rfl
        actor_seat := rfl
        public_payload_hash := by
          rw [same.public_payload_hash, parses hasPayload]
        private_payload_commitment := by
          rw [same.private_payload_commitment, parses hasCommitment]
        elapsed_ms := rfl
        previous_event_hash := by
          rw [same.previous_event_hash, parses hasPrevious]
        engine_hash := by rw [same.engine_hash, parses hasEngine]
        stored := by
          rw [same.event_hash, parseStored_of_textOf parses hasStored] }
  · exact ⟨⟨same.protocol_version, hasSession, same.epoch, same.hand_number,
          same.sequence, same.event_type, same.has_actor_seat, same.actor_seat,
          hasPayload, hasCommitment, same.elapsed_ms, hasPrevious, hasEngine⟩,
        rfl, stored, rfl, hasStored⟩

theorem exists_all_parsed (parses : ParsesWords alloy) {rows : List StoredEvent}
    {events : List PokerEventV1Json} (same : List.Forall₂ SameRow rows events)
    (typed : ∀ row ∈ rows, WordRow row) : ∃ parsed, Parsed alloy events parsed ∧
      List.Forall₂ (WordsOf alloy) rows parsed := by
  induction same with
  | nil => exact ⟨[], List.Forall₂.nil, List.Forall₂.nil⟩
  | cons first rest induction =>
    rw [List.forall_mem_cons] at typed
    rcases exists_parsed parses first typed.1 with ⟨event, here, words⟩
    rcases induction typed.2 with ⟨parsed, more, others⟩
    exact ⟨event :: parsed, List.Forall₂.cons here more, List.Forall₂.cons words others⟩

/-- The seat check of the Rust verifier. -/
def SeatValid (row : StoredEvent) : Prop :=
  assertActorSeatValid row.event.hasActorSeat row.event.actorSeat = .ok ⟨⟩

theorem WordsOf.seat_iff {row : StoredEvent} {event : ParsedEvent}
    (words : WordsOf alloy row event) : SeatValid row ↔ (event.preimage.hasActorSeat = false →
      event.preimage.actorSeat = 0) := by
  have bound : event.preimage.actorSeat.toNat < 256 := event.preimage.actorSeat.toNat_lt
  have zero : (event.preimage.actorSeat.toNat : Int) = 0 ↔ event.preimage.actorSeat = 0 := by
    rw [← UInt8.toNat_inj]
    exact Int.ofNat_inj
  have range : ¬ ((event.preimage.actorSeat.toNat : Int) < 0 ∨
      (event.preimage.actorSeat.toNat : Int) > 255) := by
    omega
  rw [SeatValid, assertActorSeatValid, words.written.hasActorSeat, words.written.actorSeat]
  simp only [Library.Guarded.revertIf_bind_eq_ok_iff,
    Library.Guarded.revertIf_eq_ok_iff, range, not_false_eq_true, and_true,
    ne_eq, not_and, not_not, zero]

/-- A row fits for Rust when it matches and its seat is valid. -/
theorem fitsEvent_iff (hashes : HashesEvents viem alloy.keccak256)
    {row : StoredEvent} {event : ParsedEvent} {expectedPrev : Hex}
    {expected_prev : Bytes32} {place : Nat} (words : WordsOf alloy row event)
    (tips : TextOf expectedPrev expected_prev) : FitsEvent alloy expected_prev place event ↔
    Matches viem expectedPrev place row ∧ SeatValid row := by
  rcases hashPokerEventV1_of_preimage hashes words.written words.domain with ⟨result, hashed, hash⟩
  rcases words.stored with ⟨stored, hasStored, writtenStored⟩
  have sequence : event.preimage.sequence.toNat = place ↔ row.event.sequence = (place : Int) := by
    rw [words.written.sequence]
    exact Int.ofNat_inj.symm
  have previous : event.preimage.previousEventHash = expected_prev ↔
      normalizeHex row.event.previousEventHash =
        normalizeHex expectedPrev :=
    (words.written.previousEventHash.same_iff tips).symm
  have same : stored = event_hash alloy event.preimage ↔
      normalizeHex result.hash = normalizeHex row.eventHash := by
    rw [hash.same_iff writtenStored]
    exact eq_comm
  rw [words.seat_iff]
  constructor
  · rintro ⟨place, seat, link, matched⟩
    exact ⟨⟨sequence.mp place, previous.mp link, result, hashed,
        same.mp (matched stored hasStored)⟩, seat⟩
  · rintro ⟨⟨place, link, other, hashed', matched⟩, seat⟩
    rw [hashed] at hashed'
    cases hashed'
    refine ⟨sequence.mpr place, seat, previous.mpr link, ?_⟩
    intro stored' hasStored'
    rw [hasStored] at hasStored'
    cases hasStored'
    exact same.mpr matched

/-- The stored hash of a matching row writes the recomputed hash. -/
theorem WordsOf.textOf_recomputed (hashes : HashesEvents viem alloy.keccak256)
    {row : StoredEvent} {event : ParsedEvent} {expectedPrev : Hex}
    {place : Nat} (words : WordsOf alloy row event)
    (matched : Matches viem expectedPrev place row) :
    TextOf row.eventHash (recomputed alloy event) := by
  rcases hashPokerEventV1_of_preimage hashes words.written words.domain with ⟨result, hashed, hash⟩
  rcases words.stored with ⟨stored, -, writtenStored⟩
  rcases matched.hashed with ⟨other, hashed', same⟩
  rw [hashed] at hashed'
  cases hashed'
  have equal := (hash.same_iff writtenStored).mp same
  rw [recomputed, equal]
  exact writtenStored

/-- The Rust chains are the matching rows whose seats are valid. -/
theorem linked_parsed_iff (hashes : HashesEvents viem alloy.keccak256)
    {rows : List StoredEvent} {parsed : List ParsedEvent} {expectedPrev : Hex}
    {expected_prev : Bytes32} {place : Nat} (words : List.Forall₂ (WordsOf alloy) rows parsed)
    (tips : TextOf expectedPrev expected_prev) :
    Linked (recomputed alloy) (FitsEvent alloy) expected_prev place parsed ↔
      Linked StoredEvent.eventHash (fun tip place row => Matches viem tip place row ∧ SeatValid row)
        expectedPrev place rows := by
  induction words generalizing expectedPrev expected_prev place with
  | nil => exact Iff.rfl
  | @cons row event rows parsed first rest induction =>
    rw [Linked, Linked, fitsEvent_iff hashes first tips]
    apply and_congr_right
    intro fits
    exact induction (first.textOf_recomputed hashes fits.1)

/-! ## Acceptance -/

/-- The chain reports no issue. -/
def ChainAccepts (viem : Viem) (rows : List StoredEvent) : Prop :=
  ∀ chain : EventHashChain, chain.rows = rows → chain.verify viem = .ok []

/-- The standalone verifier finds the list in order. -/
def ListAccepts (viem : Viem) (rows : List StoredEvent) : Prop :=
  ∃ result, verifyEventHashChain viem (rows.map StoredEvent.event)
        (some (rows.map StoredEvent.eventHash)) = .ok result ∧ result.ok = true

/-- The Rust verifier finds the list in order. -/
def RustAccepts (alloy : Alloy) (events : List PokerEventV1Json) : Prop :=
  ∃ report, verify_poker_event_v1_chain alloy events none none = some report ∧ report.ok = true

theorem textOf_ZERO_EVENT_HASH : TextOf ZERO_EVENT_HASH 0 := by
  decide +kernel

/-- Rust accepts what the standalone verifier accepts with valid seats. -/
theorem rustAccepts_iff (hashes : HashesEvents viem alloy.keccak256) (parses : ParsesWords alloy)
    {rows : List StoredEvent} {events : List PokerEventV1Json}
    (nonempty : rows ≠ []) (same : List.Forall₂ SameRow rows events)
    (typed : ∀ row ∈ rows, WordRow row) : RustAccepts alloy events ↔
    ListAccepts viem rows ∧ ∀ row ∈ rows, SeatValid row := by
  rcases exists_all_parsed parses same typed with ⟨parsed, all, words⟩
  have given : events ≠ [] := by
    rintro rfl
    exact nonempty (List.forall₂_nil_right_iff.mp same)
  rw [RustAccepts, verify_plain_accepts_iff given all, ListAccepts,
    verifyEventHashChain_ok_iff, ← linked_and_iff]
  exact linked_parsed_iff hashes words textOf_ZERO_EVENT_HASH

/-- The chain accepts what the standalone verifier accepts, for proper rows. -/
theorem chainAccepts_iff {rows : List StoredEvent} : ChainAccepts viem rows ↔
    ListAccepts viem rows ∧ ∀ row ∈ rows, Proper viem row := by
  rw [ListAccepts, verifyEventHashChain_ok_iff]
  constructor
  · intro accepts
    exact verify_eq_nil_iff.mp (accepts ⟨ZERO_EVENT_HASH, 0, rows, ZERO_EVENT_HASH⟩ rfl)
  · rintro accepted chain rfl
    exact verify_eq_nil_iff.mpr accepted

/-- An event in the sense of the specification: its type is one of the codes,
its seat is zero unless it has an actor, and its bytes are its encoding. -/
structure WellFormed (viem : Viem) (row : StoredEvent) : Prop where
  words : WordRow row
  proper : Proper viem row

/--
The tip of an accepted list commits to every hashed field of every event, for
the Rust verifier and for the chain; and on lists of 32-byte words the three
verifiers differ only in what they check of a single row, so that they accept
the same lists of well-formed events.
-/
theorem event_chain_commits
    (viem : Viem) (alloy : Alloy) (hashes : HashesEvents viem alloy.keccak256)
    (parses : ParsesWords alloy) :
    (∀ (events events' : List PokerEventV1Json)
        (expected_tip expected_tip' : Option String)
        (proposal proposal' : Option SettlementProposalJson)
        (report report' : ChainVerifyReport),
      Set.InjOn alloy.keccak256
          (hashedBytes alloy events ∪ hashedBytes alloy events') →
        events ≠ [] → events' ≠ [] →
          verify_poker_event_v1_chain alloy events expected_tip proposal =
              some report →
            verify_poker_event_v1_chain alloy events' expected_tip'
                proposal' = some report' →
              report.ok = true → report'.ok = true →
                report.tip = report'.tip →
                  List.Forall₂ (SameFields alloy) events events') ∧
    (∀ chain chain' : EventHashChain,
      Set.InjOn alloy.keccak256
          (rowBytes alloy chain.rows ∪ rowBytes alloy chain'.rows) →
        chain.rows ≠ [] → chain'.rows ≠ [] →
          (∀ row ∈ chain.rows, WordFields row.event) →
            (∀ row ∈ chain'.rows, WordFields row.event) →
              chain.verify viem = .ok [] → chain'.verify viem = .ok [] →
                recomputedTip viem chain.rows =
                    recomputedTip viem chain'.rows →
                  List.Forall₂
                    (fun row row' =>
                      lowerEvent row.event = lowerEvent row'.event)
                    chain.rows chain'.rows) ∧
    (∀ (rows : List StoredEvent) (events : List PokerEventV1Json),
      rows ≠ [] → List.Forall₂ SameRow rows events →
        (∀ row ∈ rows, WordRow row) →
          (RustAccepts alloy events ↔
              ListAccepts viem rows ∧ ∀ row ∈ rows, SeatValid row) ∧
            (ChainAccepts viem rows ↔
              ListAccepts viem rows ∧ ∀ row ∈ rows, Proper viem row)) ∧
    (∀ (rows : List StoredEvent) (events : List PokerEventV1Json),
      rows ≠ [] → List.Forall₂ SameRow rows events →
        (∀ row ∈ rows, WellFormed viem row) →
          (ChainAccepts viem rows ↔ ListAccepts viem rows) ∧
            (ListAccepts viem rows ↔ RustAccepts alloy events)) := by
  refine ⟨?_, ?_, ?_, ?_⟩
  · intro events events' expected expected' proposal proposal' report report'
      injective nonempty nonempty' verified verified' accepted accepted' tips
    exact
      verify_poker_event_v1_chain_binds injective nonempty nonempty' verified
        verified' accepted accepted' tips
  · intro chain chain' injective nonempty nonempty' typed typed' accepted
      accepted' tips
    exact
      linked_rows_bound_by_tip hashes injective nonempty nonempty' typed typed'
        (verify_eq_nil_iff.mp accepted).1 (verify_eq_nil_iff.mp accepted').1
        tips
  · intro rows events nonempty same typed
    exact ⟨rustAccepts_iff hashes parses nonempty same typed, chainAccepts_iff⟩
  · intro rows events nonempty same wellFormed
    have typed : ∀ row ∈ rows, WordRow row :=
      fun row member => (wellFormed row member).words
    have seats : ∀ row ∈ rows, SeatValid row :=
      fun row member => (wellFormed row member).proper.seat
    have proper : ∀ row ∈ rows, Proper viem row :=
      fun row member => (wellFormed row member).proper
    constructor
    · rw [chainAccepts_iff]
      exact and_iff_left proper
    · rw [rustAccepts_iff hashes parses nonempty same typed]
      exact (and_iff_left seats).symm

/-! ## Example packages -/

namespace Example

open Mozetto.Library.HexText

def mixAlloy : Alloy where
  parse_b256 := readWord
  keccak256 := Chain.Example.mix
  parse_lt := fun parsed => (readWord_eq_some_iff.mp parsed).fits
  keccak_lt := Commitments.Example.mix_lt

theorem parsesWords : ParsesWords mixAlloy := fun written => readWord_eq_some_iff.mpr written

def wordOf : AbiType → AbiValue → Except String Nat
  | .uint bits, .number value =>
    if 0 ≤ value ∧ value < 2 ^ bits then .ok value.toNat
    else .error "integer out of range"
  | .bool, .bool value => .ok (boolWord value)
  | .bytes32, .hex text =>
    if TextOf text (textValue text) then .ok (textValue text)
    else .error "wrong size"
  | _, _ => .error "wrong kind of value"

def wordsOf : List (AbiType × AbiValue) → Except String (List Nat)
  | [] => .ok []
  | typed :: rest => do
      let word ← wordOf typed.1 typed.2
      let words ← wordsOf rest
      return word :: words

/-- Encoding of events by words, with the stand-in hash of their bytes. -/
def mixViem : Viem where
  encodeAbiParameters := fun types values =>
    if types = EVENT_SIGNATURE ∧ values.length = EVENT_TYPES.length then
      (fun words => String.ofList ('0' :: 'x' :: wordsText 64 words)) <$>
        wordsOf (EVENT_TYPES.zip values)
    else .error "wrong number of values"
  keccak256 := Commitments.Example.hexPackage.keccak256
  toBytes := fun text =>
    String.ofList ('0' :: 'x' :: wordsText 2 (utf8 text))

theorem encodeAbiParameters_eq (types : String) (values : List AbiValue) :
    mixViem.encodeAbiParameters types values =
      if types = EVENT_SIGNATURE ∧ values.length = EVENT_TYPES.length then
        (fun words => String.ofList ('0' :: 'x' :: wordsText 64 words)) <$>
          wordsOf (EVENT_TYPES.zip values)
      else .error "wrong number of values" :=
  rfl

theorem wordOf_of_encodes {type : AbiType} {value : AbiValue} {word : Nat}
    (encodes : Encodes type value word) : wordOf type value = .ok word := by
  cases type with
  | uint bits =>
    cases value with
    | number value =>
      rcases encodes with ⟨rfl, small⟩
      rw [wordOf, if_pos ⟨Int.natCast_nonneg word, by exact_mod_cast small⟩, Int.toNat_natCast]
    | hex text => cases encodes
    | bool value => cases encodes
  | bool =>
    cases value with
    | bool value =>
      cases encodes
      rfl
    | hex text => cases encodes
    | number value => cases encodes
  | bytes32 =>
    cases value with
    | hex text =>
      have written : TextOf text word := encodes
      rw [wordOf, written.textValue_eq, if_pos written]
    | bool value => cases encodes
    | number value => cases encodes

theorem wordsOf_of_encodes {typed : List (AbiType × AbiValue)} {words : List Nat}
    (encodes : List.Forall₂ (fun typed word => Encodes typed.1 typed.2 word) typed words) :
    wordsOf typed = .ok words := by
  induction encodes with
  | nil => rfl
  | cons first rest induction =>
    rw [wordsOf, wordOf_of_encodes first, induction]
    rfl

/-- Numbers that are encoded fit. -/
theorem fits_of_wordsOf {typed : List (AbiType × AbiValue)} {words : List Nat} {bits : Nat}
    {value : Int} (encoded : wordsOf typed = .ok words)
    (member : (AbiType.uint bits, AbiValue.number value) ∈ typed) :
    0 ≤ value ∧ value < 2 ^ bits := by
  induction typed generalizing words with
  | nil => cases member
  | cons first rest induction =>
    simp only [wordsOf, Library.Guarded.bind_eq_ok_iff, Library.Guarded.pure_eq_ok_iff] at encoded
    rcases encoded with ⟨word, here, others, more, rfl⟩
    rcases List.mem_cons.mp member with rfl | later
    · rw [wordOf] at here
      split at here
      case isTrue fits => exact fits
      case isFalse => cases here
    · exact induction more later

/-- The words of an event are 32-byte words. -/
theorem small_of_encodes {typed : List (AbiType × AbiValue)} {words : List Nat}
    (encodes : List.Forall₂ (fun typed word => Encodes typed.1 typed.2 word) typed words)
    (narrow : ∀ type ∈ typed.map Prod.fst, type ∈ EVENT_TYPES) :
    ∀ word ∈ words, word < 2 ^ 256 := by
  induction encodes with
  | nil => exact fun word member => nomatch member
  | @cons typed word rest words first others induction =>
    rw [List.map_cons, List.forall_mem_cons] at narrow
    rw [List.forall_mem_cons]
    refine ⟨?_, induction narrow.2⟩
    rcases typed with ⟨type, value⟩
    cases type with
    | uint bits =>
      have bound : bits ≤ 256 := by
        have known := narrow.1
        simp only [EVENT_TYPES, List.mem_cons, AbiType.uint.injEq,
          reduceCtorEq, false_or, List.not_mem_nil, or_false] at known
        omega
      have below : (2 : Nat) ^ bits ≤ 2 ^ 256 := Nat.pow_le_pow_right Nat.two_pos bound
      cases value with
      | number value => exact lt_of_lt_of_le first.2 below
      | hex text => cases first
      | bool value => cases first
    | bool =>
      cases value with
      | bool value =>
        cases first
        cases value <;> norm_num [boolWord]
      | hex text => cases first
      | number value => cases first
    | bytes32 =>
      cases value with
      | hex text => exact first.fits
      | bool value => cases first
      | number value => cases first

/-- The bytes of a text of words. -/
theorem bytesOf_wordsText {words : List Nat} (fits : ∀ word ∈ words, word < 2 ^ 256) :
    bytesOf (32 * words.length) (hexValue (wordsText 64 words)) =
      abiEncode words := by
  induction words using List.reverseRecOn with
  | nil => rfl
  | append_singleton words word induction =>
    have small : word < 2 ^ 256 := fits word (by simp)
    have digits : (padded 64 word).length = 64 :=
      length_padded (by decide) (small.trans_eq (by norm_num))
    have earlier := induction fun word member => fits word (List.mem_append_left _ member)
    have high : (hexValue (wordsText 64 words) * 256 ^ 32 + word) / 256 ^ 32 =
        hexValue (wordsText 64 words) := by
      have below := lt_bytes_of_word small
      omega
    rw [wordsText, List.flatMap_append, List.flatMap_singleton,
      Commitments.Example.hexValue_append, digits, hexValue_padded,
      show (16 : Nat) ^ 64 = 256 ^ 32 by norm_num, List.length_append,
      List.length_singleton, Nat.mul_succ, bytesOf_add]
    rw [wordsText] at high earlier
    rw [high, bytesOf_add_mul, earlier, abiEncode, abiEncode,
      List.flatMap_append, List.flatMap_singleton]

/-- The stand-in hash of a text of words is the hash of their bytes. -/
theorem textOf_keccak256_words {words : List Nat} (fits : ∀ word ∈ words, word < 2 ^ 256) : TextOf
    (mixViem.keccak256 (String.ofList ('0' :: 'x' :: wordsText 64 words)))
    (Chain.Example.mix (abiEncode words)) := by
  have lower : (wordsText 64 words).map Char.toLower = wordsText 64 words := by
    have kept : (wordsText 64 words).map Char.toLower = (wordsText 64 words).map id :=
      List.map_congr_left fun digit member => toLower_of_mem_wordsText member
    rwa [List.map_id] at kept
  have length : (wordsText 64 words).length / 2 = 32 * words.length := by
    have total : (wordsText 64 words).length = 64 * words.length := by
      clear lower
      induction words with
      | nil => rfl
      | cons word rest induction =>
        rw [List.forall_mem_cons] at fits
        have digits : (padded 64 word).length = 64 :=
          length_padded (by decide) (fits.1.trans_eq (by norm_num))
        rw [wordsText, List.flatMap_cons, List.length_append, digits,
          ← wordsText, induction fits.2, List.length_cons]
        omega
    omega
  show TextOf (wordHex (Chain.Example.mix (bytesOf _ _))) _
  rw [String.toList_ofList]
  show TextOf (wordHex (Chain.Example.mix
      (bytesOf (((wordsText 64 words).map Char.toLower).length / 2)
        (hexValue ((wordsText 64 words).map Char.toLower))))) _
  rw [lower, length, bytesOf_wordsText fits]
  exact textOf_wordHex (Commitments.Example.mix_lt _)

theorem hashesEvents : HashesEvents mixViem mixAlloy.keccak256 where
  label := by decide +kernel
  taken := by
    intro values words lengths encodes
    have types : (EVENT_TYPES.zip values).map Prod.fst = EVENT_TYPES := List.map_fst_zip lengths.ge
    have fits : ∀ word ∈ words, word < 2 ^ 256 := by
      apply small_of_encodes encodes
      rw [types]
      exact fun type member => member
    refine ⟨_, ?_, textOf_keccak256_words fits⟩
    rw [encodeAbiParameters_eq, if_pos ⟨rfl, lengths⟩, wordsOf_of_encodes encodes]
    rfl
  refused := by
    intro values bytes encoded bits value member
    rw [encodeAbiParameters_eq] at encoded
    split at encoded
    case isTrue =>
      rcases Library.Guarded.map_eq_ok_iff.mp encoded with ⟨words, words', -⟩
      exact fits_of_wordsOf words' member
    case isFalse => cases encoded

/-! ### The start of a hand -/

def startPreimage : EventPreimage where
  domain := event_v1 mixAlloy
  protocolVersion := 3
  sessionId := 171
  epoch := 0
  handNumber := 1
  sequence := 0
  eventType := 1
  hasActorSeat := false
  actorSeat := 0
  publicPayloadHash := 17
  privatePayloadCommitment := 0
  elapsedMs := 0
  previousEventHash := 0
  engineHash := 23

def startHash : Hex := wordHex (event_hash mixAlloy startPreimage)

def startEvent : PokerEventV1Json where
  protocol_version := 3
  session_id := wordHex 171
  epoch := 0
  hand_number := 1
  sequence := 0
  event_type := 1
  has_actor_seat := false
  actor_seat := 0
  public_payload_hash := wordHex 17
  private_payload_commitment := wordHex 0
  elapsed_ms := 0
  previous_event_hash := wordHex 0
  engine_hash := wordHex 23
  event_hash := some startHash

/-- The same event with its session in upper case. -/
def upperEvent : PokerEventV1Json :=
  { startEvent with
    session_id :=
      "0x00000000000000000000000000000000000000000000000000000000000000AB" }

def startRow : StoredEvent where
  event :=
    { protocolVersion := 3
      sessionId := wordHex 171
      epoch := 0
      handNumber := 1
      sequence := 0
      eventType := 1
      hasActorSeat := false
      actorSeat := 0
      publicPayloadHash := wordHex 17
      privatePayloadCommitment := wordHex 0
      elapsedMs := 0
      previousEventHash := wordHex 0
      engineHash := wordHex 23 }
  eventHash := startHash
  canonicalBytesHex := String.ofList ('0' :: 'x' :: wordsText 64 startPreimage.words)
  unhashed := ⟨none, none, none, none⟩
  persistedAtMs := 0

def startParsed : ParsedEvent where
  preimage := startPreimage
  stored := some (event_hash mixAlloy startPreimage)

theorem parsedAs_startEvent : ParsedAs mixAlloy startEvent startParsed where
  domain := rfl
  protocol_version := rfl
  session_id := parsesWords (textOf_wordHex (by norm_num))
  epoch := rfl
  hand_number := rfl
  sequence := rfl
  event_type := rfl
  has_actor_seat := rfl
  actor_seat := rfl
  public_payload_hash := parsesWords (textOf_wordHex (by norm_num))
  private_payload_commitment := parsesWords (textOf_wordHex (by norm_num))
  elapsed_ms := rfl
  previous_event_hash := parsesWords (textOf_wordHex (by norm_num))
  engine_hash := parsesWords (textOf_wordHex (by norm_num))
  stored :=
    parseStored_of_textOf parsesWords (textOf_wordHex (mixAlloy.keccak_lt startPreimage.abi_encode))

theorem parsedAs_upperEvent : ParsedAs mixAlloy upperEvent startParsed :=
  { parsedAs_startEvent with
    session_id := parsesWords (by decide +kernel) }

theorem parsed_startEvent : Parsed mixAlloy [startEvent] [startParsed] :=
  List.Forall₂.cons (parseEvent_eq_some_iff.mpr parsedAs_startEvent) List.Forall₂.nil

theorem parsed_upperEvent : Parsed mixAlloy [upperEvent] [startParsed] :=
  List.Forall₂.cons (parseEvent_eq_some_iff.mpr parsedAs_upperEvent) List.Forall₂.nil

theorem linked_startParsed :
    Linked (recomputed mixAlloy) (FitsEvent mixAlloy) 0 0 [startParsed] := by
  refine ⟨⟨rfl, fun _ => rfl, rfl, ?_⟩, trivial⟩
  intro stored hasStored
  exact (Option.some.inj hasStored).symm

/-- Every report of an accepted list of this event has its hash as tip. -/
theorem tip_of_accepted {events : List PokerEventV1Json} {report : ChainVerifyReport}
    (all : Parsed mixAlloy events [startParsed])
    (verified : verify_poker_event_v1_chain mixAlloy events none none = some report)
    (accepted : report.ok = true) :
    report.tip = fmt_b256 (recomputed mixAlloy startParsed) := by
  rcases verify_accepts verified accepted with ⟨parsed, all', -, tip⟩
  rw [tip, ← all.unique all']
  rfl

/-- Both spellings are hashed from the same bytes. -/
theorem injOn_startBytes : Set.InjOn mixAlloy.keccak256
    (hashedBytes mixAlloy [startEvent] ∪ hashedBytes mixAlloy [upperEvent]) := by
  have only : ∀ {ev event}, ParsedAs mixAlloy ev startParsed → parseEvent mixAlloy ev = some event →
        event.preimage.abi_encode = startPreimage.abi_encode := by
    intro ev event known parsed
    rw [parseEvent_eq_some_iff.mpr known] at parsed
    rw [← Option.some.inj parsed]
    rfl
  have all : ∀ bytes ∈ hashedBytes mixAlloy [startEvent] ∪ hashedBytes mixAlloy [upperEvent],
      bytes = startPreimage.abi_encode := by
    rintro bytes (⟨ev, member, event, parsed, rfl⟩ |
      ⟨ev, member, event, parsed, rfl⟩)
    · rw [List.mem_singleton.mp member] at parsed
      exact only parsedAs_startEvent parsed
    · rw [List.mem_singleton.mp member] at parsed
      exact only parsedAs_upperEvent parsed
  intro bytes member bytes' member' _
  rw [all bytes member, all bytes' member']

theorem sameRow_startRow : SameRow startRow startEvent := by
  constructor <;> rfl

theorem preimageOf_startRow : PreimageOf startRow.event startPreimage where
  protocolVersion := rfl
  sessionId := textOf_wordHex (by norm_num)
  epoch := rfl
  handNumber := rfl
  sequence := rfl
  eventType := rfl
  hasActorSeat := rfl
  actorSeat := rfl
  publicPayloadHash := textOf_wordHex (by norm_num)
  privatePayloadCommitment := textOf_wordHex (by norm_num)
  elapsedMs := rfl
  previousEventHash := textOf_wordHex (by norm_num)
  engineHash := textOf_wordHex (by norm_num)

theorem wellFormed_startRow : WellFormed mixViem startRow where
  words :=
    ⟨⟨⟨_, preimageOf_startRow.sessionId⟩, ⟨_, preimageOf_startRow.publicPayloadHash⟩,
        ⟨_, preimageOf_startRow.privatePayloadCommitment⟩,
        ⟨_, preimageOf_startRow.previousEventHash⟩, ⟨_, preimageOf_startRow.engineHash⟩⟩,
      ⟨_, textOf_wordHex (mixAlloy.keccak_lt _)⟩⟩
  proper :=
    { known := by decide
      seat := rfl
      bytes := by
        intro result hashed
        rcases hashPokerEventV1_eq_ok_iff.mp hashed with ⟨bytes, encoded, rfl⟩
        have label :
            TextOf (domainTag mixViem "MOZETTO_EVENT_V1")
              startPreimage.domain := by
          rw [startPreimage, event_v1]
          exact hashesEvents.label
        have encodes := encodes_eventValues label preimageOf_startRow
        have lengths := @length_eventValues mixViem startRow.event
        rw [encodeAbiParameters_eq, if_pos ⟨rfl, lengths⟩, wordsOf_of_encodes encodes] at encoded
        rw [← Except.ok.inj encoded, startRow] }

end Example

open Example in
/-- The start of a hand, in lower and in upper case. -/
theorem event_chain_commits_start :
    List.Forall₂ (SameFields mixAlloy) [startEvent] [upperEvent] ∧
      (ChainAccepts mixViem [startRow] ↔ ListAccepts mixViem [startRow]) ∧
      (ListAccepts mixViem [startRow] ↔ RustAccepts mixAlloy [startEvent]) := by
  rcases event_chain_commits mixViem mixAlloy hashesEvents parsesWords with
    ⟨binds, -, -, agree⟩
  rcases
      (verify_plain_accepts_iff (List.cons_ne_nil _ _) parsed_startEvent).mpr
        linked_startParsed with
    ⟨report, verified, accepted⟩
  rcases
      (verify_plain_accepts_iff (List.cons_ne_nil _ _) parsed_upperEvent).mpr
        linked_startParsed with
    ⟨report', verified', accepted'⟩
  have tips : report.tip = report'.tip := by
    rw [tip_of_accepted parsed_startEvent verified accepted,
      tip_of_accepted parsed_upperEvent verified' accepted']
  constructor
  · exact
      binds [startEvent] [upperEvent] none none none none report report'
        injOn_startBytes (List.cons_ne_nil _ _) (List.cons_ne_nil _ _) verified
        verified' accepted accepted' tips
  · exact
      agree [startRow] [startEvent] (List.cons_ne_nil _ _)
        (List.Forall₂.cons sameRow_startRow List.Forall₂.nil)
        (List.forall_mem_singleton.mpr wellFormed_startRow)

end Mozetto.Replay
