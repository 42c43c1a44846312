import Mozetto.EventStore.EventHashChain
import Mozetto.Library.TransitionSystem
import Mathlib.Data.List.Forall2
import Mathlib.Data.List.Induction

/-!
# Reloading a chain

A list of stored rows is what a fresh chain holds after some appends exactly
when its rows are linked and carry the session and the epoch of the chain.
Reloading checks the first and not the second, so it also accepts a linked
list of another session.  Appends to a reloaded chain go on as on the chain it
was stored from.
-/

namespace Mozetto.EventStore.EventHashChain

open Mozetto.Library.Guarded
open Mozetto.Library.HashChain
open Mozetto.Library.TransitionSystem

variable (viem : Viem) (sessionId : Hex) (epoch : Int)

/-! ## Chains made by appending -/

/-- A fresh chain and its accepted appends. -/
def appends : System EventHashChain (AppendEventInput × Int) EventStoreError where
  initial := fun chain => chain = fresh sessionId epoch
  step := fun chain call => Prod.fst <$> append viem chain call.1 call.2

/-- The hashed part of a row in lower case. -/
def hashedPart (row : StoredEvent) : PokerEventV1 × Hex × Hex :=
  ((normalizeRow row).event, (normalizeRow row).eventHash, (normalizeRow row).canonicalBytesHex)

/-- Two lists of rows agree up to hex case and what is not hashed. -/
def SameRows (stored rows : List StoredEvent) : Prop :=
  List.Forall₂ (fun row other => hashedPart row = hashedPart other) stored rows

/-- The list is what a fresh chain holds after some appends. -/
def Held (stored : List StoredEvent) : Prop :=
  ∃ chain, (appends viem sessionId epoch).Reachable AnyCall chain ∧ SameRows stored chain.rows

/-- Sequences, types, seats, links and hashes of the list are in order. -/
def WellLinked (stored : List StoredEvent) : Prop :=
  Linked StoredEvent.eventHash (Fits viem) ZERO_EVENT_HASH 0 (stored.map normalizeRow)

/-- The row belongs to the session and the epoch. -/
def Carries (row : StoredEvent) : Prop :=
  normalizeHex row.event.sessionId = normalizeHex sessionId ∧ row.event.epoch = epoch

instance (row : StoredEvent) : Decidable (Carries sessionId epoch row) :=
  inferInstanceAs (Decidable (_ ∧ _))

/-- What appending keeps. -/
structure Kept (chain : EventHashChain) : Prop where
  session : chain.sessionId = normalizeHex sessionId
  sameEpoch : chain.epoch = epoch
  normal : ∀ row ∈ chain.rows, (normalizeRow row).event = row.event
  carries : ∀ row ∈ chain.rows,
      row.event.sessionId = normalizeHex sessionId ∧ row.event.epoch = epoch
  tip : chain.tipHash = tipAfter StoredEvent.eventHash ZERO_EVENT_HASH chain.rows
  linked : Linked StoredEvent.eventHash (Fits viem) ZERO_EVENT_HASH 0 chain.rows

variable {viem sessionId epoch}
variable {chain reloaded original : EventHashChain}
variable {stored : List StoredEvent}

theorem fresh_kept : Kept viem sessionId epoch (fresh sessionId epoch) where
  session := rfl
  sameEpoch := rfl
  normal := fun _ member => absurd member List.not_mem_nil
  carries := fun _ member => absurd member List.not_mem_nil
  tip := rfl
  linked := trivial

theorem Kept.append {input : AppendEventInput} {nowMs : Int} {result : EventHashChain × StoredEvent}
    (kept : Kept viem sessionId epoch chain)
    (accepted : append viem chain input nowMs = .ok result) :
    Kept viem sessionId epoch result.1 := by
  rcases append_eq_ok_iff.mp accepted with ⟨accepts, hash, made, rfl⟩
  constructor
  · exact kept.session
  · exact kept.sameEpoch
  · intro row member
    rcases List.mem_append.mp member with member | member
    · exact kept.normal row member
    · rw [List.mem_singleton.mp member]
      simp [normalizeRow, rowOf, appended, kept.session]
  · intro row member
    rcases List.mem_append.mp member with member | member
    · exact kept.carries row member
    · rw [List.mem_singleton.mp member]
      exact ⟨kept.session, kept.sameEpoch⟩
  · rw [tipAfter_concat]
    rfl
  · rw [linked_concat_iff, Nat.zero_add, ← kept.tip]
    refine ⟨kept.linked, rfl, accepts.known, accepts.seat, ?_, hash, made, rfl, rfl⟩
    simp [rowOf, appended]

theorem kept_of_reachable (reached : (appends viem sessionId epoch).Reachable AnyCall chain) :
    Kept viem sessionId epoch chain := by
  induction reached with
  | start initial =>
    rw [show _ = fresh sessionId epoch from initial]
    exact fresh_kept
  | next _ _ accepted kept =>
    rcases map_eq_ok_iff.mp accepted with ⟨result, appended, rfl⟩
    exact kept.append appended

/-! ## Held lists are linked and carry the session -/

/-- Two rows with the same event and the same hash up to case. -/
def Alike (row other : StoredEvent) : Prop :=
  row.event = other.event ∧ normalizeHex row.eventHash = normalizeHex other.eventHash ∧
    normalizeHex row.canonicalBytesHex = normalizeHex other.canonicalBytesHex

/-- Two hashes that differ in case only. -/
def SameHash (left right : Hex) : Prop := normalizeHex left = normalizeHex right

theorem Fits.of_alike {left right : Hex} {index : Nat} {row other : StoredEvent}
    (same : SameHash left right) (alike : Alike row other) (fits : Fits viem left index row) :
    Fits viem right index other := by
  rcases alike with ⟨event, hash, bytes⟩
  rcases fits with ⟨sequence, known, seat, previous, result, made, rest⟩
  rw [event] at sequence known seat previous made
  rw [hash, bytes] at rest
  exact ⟨sequence, known, seat, previous.trans same, result, made, rest⟩

theorem alike_of_hashedPart {row other : StoredEvent}
    (normal : (normalizeRow row).event = row.event) (same : hashedPart other = hashedPart row) :
    Alike row (normalizeRow other) := by
  simp only [hashedPart, Prod.mk.injEq] at same
  rcases same with ⟨event, hash, bytes⟩
  refine ⟨?_, ?_, ?_⟩
  · rw [event, normal]
  · rw [hash]
    simp [normalizeRow]
  · rw [bytes]
    simp [normalizeRow]

/-- The rows of a kept chain are alike to a list that agrees with them. -/
theorem alike_of_sameRows (kept : Kept viem sessionId epoch chain)
    (same : SameRows stored chain.rows) :
    List.Forall₂ Alike chain.rows (stored.map normalizeRow) := by
  rw [List.forall₂_map_right_iff]
  have normal := kept.normal
  generalize chain.rows = rows at same normal
  induction same with
  | nil => exact .nil
  | cons first rest induction =>
    refine .cons ?_ (induction fun row member =>
      normal row (List.mem_cons_of_mem _ member))
    exact alike_of_hashedPart (normal _ List.mem_cons_self) first

theorem Kept.wellLinked (kept : Kept viem sessionId epoch chain)
    (same : SameRows stored chain.rows) :
    WellLinked viem stored := by
  have sameTip : SameHash ZERO_EVENT_HASH ZERO_EVENT_HASH := rfl
  exact kept.linked.of_related (fun _ _ alike => alike.2.1)
    (fun _ _ _ _ _ sameTip alike fits => fits.of_alike sameTip alike)
    sameTip (alike_of_sameRows kept same)

theorem Kept.carries_of_sameRows (kept : Kept viem sessionId epoch chain)
    (same : SameRows stored chain.rows) : ∀ row ∈ stored, Carries sessionId epoch row := by
  have carries := kept.carries
  generalize chain.rows = rows at same carries
  induction same with
  | nil => exact fun row member => absurd member List.not_mem_nil
  | @cons row other _ _ first rest induction =>
    intro entry member
    rcases List.mem_cons.mp member with rfl | member
    · have event := congrArg Prod.fst first
      rcases carries other List.mem_cons_self with ⟨session, sameEpoch⟩
      have sessions := congrArg PokerEventV1.sessionId event
      have epochs := congrArg PokerEventV1.epoch event
      simp only [hashedPart, normalizeRow] at sessions epochs
      rw [session, normalizeHex_normalizeHex] at sessions
      exact ⟨sessions, epochs.trans sameEpoch⟩
    · exact induction (fun row member => carries row (List.mem_cons_of_mem _ member)) entry member

/-! ## Linked lists of the session are held -/

/-- The input whose append stores a given row. -/
def inputOf (row : StoredEvent) : AppendEventInput where
  protocolVersion := some row.event.protocolVersion
  sessionId := row.event.sessionId
  epoch := row.event.epoch
  handNumber := row.event.handNumber
  sequence := none
  eventType := row.event.eventType
  hasActorSeat := row.event.hasActorSeat
  actorSeat := row.event.actorSeat
  publicPayloadHash := row.event.publicPayloadHash
  privatePayloadCommitment := some row.event.privatePayloadCommitment
  elapsedMs := row.event.elapsedMs
  previousEventHash := none
  engineHash := row.event.engineHash
  unhashed := row.unhashed

/-- The tip of a chain is that of a list that agrees with it. -/
theorem sameHash_tip (kept : Kept viem sessionId epoch chain) (same : SameRows stored chain.rows) :
    SameHash chain.tipHash (tipAfter StoredEvent.eventHash ZERO_EVENT_HASH
        (stored.map normalizeRow)) := by
  rw [kept.tip]
  have sameTip : SameHash ZERO_EVENT_HASH ZERO_EVENT_HASH := rfl
  exact tipAfter_related (fun _ _ alike => alike.2.1) sameTip (alike_of_sameRows kept same)

/-- A row that fits at the end of an agreeing list can be appended. -/
theorem append_fitting {row : StoredEvent} (kept : Kept viem sessionId epoch chain)
    (same : SameRows stored chain.rows) (carries : Carries sessionId epoch row)
    (fits : Fits viem (tipAfter StoredEvent.eventHash ZERO_EVENT_HASH (stored.map normalizeRow))
        stored.length (normalizeRow row)) :
    ∃ result, append viem chain (inputOf row) 0 = .ok result ∧
      SameRows (stored ++ [row]) result.1.rows := by
  rcases carries with ⟨session, sameEpoch⟩
  rcases fits with ⟨sequence, known, seat, previous, hash, made, sameHash⟩
  have event : chain.appended (inputOf row) = (normalizeRow row).event := by
    have sequences : chain.nextSequence = row.event.sequence := by
      rw [nextSequence, ← same.length_eq]
      exact sequence.symm
    have previousHash : normalizeHex chain.tipHash = normalizeHex row.event.previousEventHash := by
      rw [sameHash_tip kept same, ← previous]
      simp [normalizeRow]
    simp [appended, inputOf, normalizeRow, sequences, previousHash,
      kept.session, kept.sameEpoch, session, sameEpoch]
  refine ⟨_, append_eq_ok_iff.mpr ⟨?_, hash, ?_, rfl⟩, ?_⟩
  · refine ⟨?_, ?_, known, seat, rfl, rfl⟩
    · exact session.trans kept.session.symm
    · exact sameEpoch.trans kept.sameEpoch.symm
  · rw [event]
    exact made
  · refine List.rel_append same (.cons ?_ .nil)
    simp only [hashedPart, Prod.mk.injEq]
    refine ⟨?_, ?_, ?_⟩
    · simp [normalizeRow, rowOf, event]
    · have hashes := sameHash.1
      simp only [normalizeRow, normalizeHex_normalizeHex] at hashes
      exact hashes.symm
    · have bytes := sameHash.2
      simp only [normalizeRow, normalizeHex_normalizeHex] at bytes
      exact bytes.symm

theorem held_of_wellLinked (linked : WellLinked viem stored)
    (carries : ∀ row ∈ stored, Carries sessionId epoch row) :
    Held viem sessionId epoch stored := by
  induction stored using List.reverseRecOn with
  | nil => exact ⟨_, .start rfl, .nil⟩
  | append_singleton stored row induction =>
    rw [WellLinked, List.map_append, List.map_singleton,
      linked_concat_iff, Nat.zero_add, List.length_map] at linked
    rcases induction linked.1 (fun other member => carries other (by simp [member])) with
      ⟨chain, reached, same⟩
    have kept := kept_of_reachable reached
    rcases append_fitting kept same (carries row (by simp)) linked.2 with
      ⟨result, appended, agrees⟩
    have accepted : (appends viem sessionId epoch).step chain (inputOf row, 0) = .ok result.1 :=
      map_eq_ok_iff.mpr ⟨result, appended, rfl⟩
    exact ⟨result.1, .next reached trivial accepted, agrees⟩

theorem held_iff : Held viem sessionId epoch stored ↔ WellLinked viem stored ∧
      ∀ row ∈ stored, Carries sessionId epoch row := by
  constructor
  · rintro ⟨chain, reached, same⟩
    have kept := kept_of_reachable reached
    exact ⟨kept.wellLinked same, kept.carries_of_sameRows same⟩
  · rintro ⟨linked, carries⟩
    exact held_of_wellLinked linked carries

theorem reloads_iff : (∃ reloaded, fromStored viem sessionId epoch stored = .ok reloaded) ↔
    WellLinked viem stored := by
  constructor
  · rintro ⟨reloaded, succeeded⟩
    exact (fromStored_eq_ok_iff.mp succeeded).1
  · exact fun linked => ⟨_, fromStored_eq_ok_iff.mpr ⟨linked, rfl⟩⟩

/-! ## Appending after a reload -/

variable (viem) in
/-- Try an append; a refused one leaves the chain as it is. -/
def attempt (chain : EventHashChain) (call : AppendEventInput × Int) :
    EventHashChain × Option StoredEvent :=
  match append viem chain call.1 call.2 with
  | .ok (next, row) => (next, some row)
  | .error _ => (chain, none)

variable (viem) in
/-- What a sequence of appends returns, `none` for a refused one. -/
def attempts : EventHashChain → List (AppendEventInput × Int) → List (Option StoredEvent)
  | _, [] => []
  | chain, call :: rest =>
      (attempt viem chain call).2 :: attempts (attempt viem chain call).1 rest

/-- Two chains to which the same events can be appended. -/
structure Matches (left right : EventHashChain) : Prop where
  session : left.sessionId = right.sessionId
  sameEpoch : left.epoch = right.epoch
  length : left.rows.length = right.rows.length
  tip : SameHash left.tipHash right.tipHash

theorem Matches.symm {left right : EventHashChain} (same : Matches left right) :
    Matches right left :=
  ⟨same.session.symm, same.sameEpoch.symm, same.length.symm, same.tip.symm⟩

/-- Matching chains accept the same appends with the same results. -/
theorem Matches.append {left right : EventHashChain} {input : AppendEventInput} {nowMs : Int}
    {result : EventHashChain × StoredEvent} (same : Matches left right)
    (accepted : append viem left input nowMs = .ok result) :
    ∃ other, append viem right input nowMs = .ok other ∧
      other.2 = result.2 ∧ Matches result.1 other.1 := by
  rcases append_eq_ok_iff.mp accepted with ⟨accepts, hash, made, rfl⟩
  have sequences : left.nextSequence = right.nextSequence := congrArg Nat.cast same.length
  have events : left.appended input = right.appended input := by
    have tips := same.tip
    rw [SameHash] at tips
    simp [appended, same.session, same.sameEpoch, sequences, tips]
  have accepted :
      EventHashChain.append viem right input nowMs =
        .ok ({ right with
          rows := right.rows ++ [rowOf (right.appended input) hash input nowMs]
          tipHash := hash.hash },
          rowOf (right.appended input) hash input nowMs) := by
    refine append_eq_ok_iff.mpr ⟨?_, hash, events ▸ made, rfl⟩
    refine ⟨?_, ?_, accepts.known, accepts.seat, ?_, ?_⟩
    · exact accepts.sessionId.trans same.session
    · exact accepts.epoch.trans same.sameEpoch
    · rw [← sequences]
      exact accepts.sequence
    · have previous := accepts.previous
      cases given : input.previousEventHash with
      | none => rfl
      | some previousHash =>
        rw [given] at previous
        exact previous.trans same.tip
  refine ⟨_, accepted, ?_, ?_⟩
  · rw [events]
  · exact ⟨same.session, same.sameEpoch, by simp [same.length], rfl⟩

theorem Matches.attempt {left right : EventHashChain} (same : Matches left right)
    (call : AppendEventInput × Int) : (attempt viem right call).2 = (attempt viem left call).2 ∧
    Matches (attempt viem left call).1 (attempt viem right call).1 := by
  cases onLeft : EventHashChain.append viem left call.1 call.2 with
  | ok result =>
    rcases same.append onLeft with ⟨other, onRight, row, matching⟩
    simp only [EventHashChain.attempt, onLeft, onRight]
    exact ⟨congrArg some row, matching⟩
  | error err =>
    cases onRight : EventHashChain.append viem right call.1 call.2 with
    | ok result =>
      rcases same.symm.append onRight with ⟨other, accepted, -⟩
      rw [onLeft] at accepted
      cases accepted
    | error err =>
      simp only [EventHashChain.attempt, onLeft, onRight]
      exact ⟨trivial, same⟩

theorem Matches.attempts {left right : EventHashChain} (same : Matches left right)
    (calls : List (AppendEventInput × Int)) :
    attempts viem right calls = attempts viem left calls := by
  induction calls generalizing left right with
  | nil => rfl
  | cons call rest induction =>
    rcases same.attempt call with ⟨row, matching⟩
    simp only [EventHashChain.attempts]
    rw [row, induction matching]

theorem matches_of_reloaded
    (succeeded : fromStored viem sessionId epoch stored = .ok reloaded)
    (reached : (appends viem sessionId epoch).Reachable AnyCall original)
    (same : SameRows stored original.rows) :
    Matches original reloaded := by
  rcases fromStored_eq_ok_iff.mp succeeded with ⟨-, rfl⟩
  have kept := kept_of_reachable reached
  refine ⟨kept.session, kept.sameEpoch, ?_, ?_⟩
  · simpa [loaded] using same.length_eq.symm
  · have tips := sameHash_tip kept same
    refine tips.trans ?_
    have related : List.Forall₂ (fun row other => row = normalizeRow other)
        (stored.map normalizeRow) stored := by
      rw [List.forall₂_map_left_iff]
      exact List.forall₂_same.mpr fun _ _ => rfl
    have sameTip : SameHash ZERO_EVENT_HASH ZERO_EVENT_HASH := rfl
    refine tipAfter_related ?_ sameTip related
    intro row other equal
    rw [equal]
    simp [SameHash, normalizeRow]

/--
A list is what some appends leave exactly when it is linked and carries the
session and the epoch.  Reloading it succeeds for exactly these lists if and
only if it carries them in case it is linked.  What a reloaded chain does on
further appends is what the chain it agrees with does.
-/
theorem reload_exact_iff
    (viem : Viem) (sessionId : Hex) (epoch : Int)
    (stored : List StoredEvent) :
    (Held viem sessionId epoch stored ↔
        WellLinked viem stored ∧
          ∀ row ∈ stored, Carries sessionId epoch row) ∧
      (((∃ reloaded,
            fromStored viem sessionId epoch stored = .ok reloaded) ↔
          Held viem sessionId epoch stored) ↔
        (WellLinked viem stored →
          ∀ row ∈ stored, Carries sessionId epoch row)) ∧
      ∀ reloaded original,
        fromStored viem sessionId epoch stored = .ok reloaded →
        (appends viem sessionId epoch).Reachable AnyCall original →
        SameRows stored original.rows →
          ∀ calls,
            attempts viem reloaded calls = attempts viem original calls := by
  refine ⟨held_iff, ?_, ?_⟩
  · rw [reloads_iff, held_iff]
    constructor
    · exact fun exact_ linked => (exact_.mp linked).2
    · intro carries
      exact ⟨fun linked => ⟨linked, carries linked⟩, And.left⟩
  · intro reloaded original succeeded reached same calls
    exact (matches_of_reloaded succeeded reached same).attempts calls

/-! ## A list of another session -/

/-- Encodings that spell their values out; a hash that marks its input. -/
def spelled : Viem where
  encodeAbiParameters := fun _ values =>
    .ok (values.foldl (fun text value =>
        text ++ match value with
          | .hex value => value
          | .number value => toString value
          | .bool value => toString value)
      "0x")
  keccak256 := fun bytes => "0x" ++ bytes
  toBytes := fun text => text

/-- The start of a hand of one session. -/
def handStart : AppendEventInput where
  protocolVersion := none
  sessionId := "0xaa"
  epoch := 0
  handNumber := 1
  sequence := none
  eventType := 1
  hasActorSeat := false
  actorSeat := 0
  publicPayloadHash := "0x01"
  privatePayloadCommitment := none
  elapsedMs := 0
  previousEventHash := none
  engineHash := "0x02"
  unhashed := ⟨none, none, none, none⟩

/-- The stored row of one session is reloaded as one of another. -/
theorem exists_foreign_reload :
    ∃ stored,
      (∃ reloaded,
          fromStored spelled "0xbb" 0 stored = .ok reloaded) ∧
        ¬ Held spelled "0xbb" 0 stored := by
  have accepts : (fresh "0xaa" 0).Accepts handStart :=
    ⟨by decide +kernel, rfl, by decide, by decide, rfl, rfl⟩
  have encoded :
      ∃ hash,
        hashPokerEventV1 spelled ((fresh "0xaa" 0).appended handStart) =
          .ok hash := ⟨_, rfl⟩
  rcases encoded with ⟨hash, made⟩
  have accepted :=
    (@append_eq_ok_iff spelled (fresh "0xaa" 0) handStart 0 _).mpr
      ⟨accepts, hash, made, rfl⟩
  have kept := fresh_kept.append accepted
  refine
    ⟨[rowOf ((fresh "0xaa" 0).appended handStart) hash handStart 0],
      reloads_iff.mpr (kept.wellLinked ?_), ?_⟩
  · exact List.forall₂_same.mpr fun _ _ => rfl
  · intro held
    have carried := (held_iff.mp held).2 _ (List.mem_singleton.mpr rfl)
    have session :
        normalizeHex (normalizeHex "0xaa") = normalizeHex "0xbb" :=
      carried.1
    exact absurd session (by decide +kernel)

end Mozetto.EventStore.EventHashChain
