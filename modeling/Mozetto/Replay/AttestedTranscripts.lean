import Mozetto.Replay.Attestations

/-!
# What an attestation stands for

A settlement attested by the replay verifier is meant to be that of a valid
transcript: every stored hash is that of the stored fields, the sequences
follow each other, every row continues the one before it, and what is signed
are the last hash and the last sequence.  Typed rows are checked for all of
it.  JSON rows are checked for their links only, and for their hashes where
they have all it takes; and the endpoint for settlements of the third version
checks nothing of the rows.
-/

namespace Mozetto.Replay

open Mozetto.EventStore
open Mozetto.Library.Guarded
open Mozetto.Library.HashChain
open Mozetto.Outbox (JsNumber JsValue Runtime)
open Mozetto.Worker (Numeric)

/-! ## Valid transcripts -/

section Transcripts

variable (viem : Viem) (runtime : Runtime)

/-- The hash of the stored fields of a row, as its session is hashed. -/
def recomputedHash (sessionId : String) (rows : List DbEventRow) (row : DbEventRow) :
    Except String Hex :=
  if detectSchemaKind rows = .poker_event_v1 then
    (hashPokerEventV1 viem (rowToEvent (row.typed viem) sessionId (firstEpoch rows))).map (·.hash)
  else hashEvent viem runtime (row.legacy.event runtime)

/-- The hash that the first row continues. -/
def genesisOf (rows : List DbEventRow) : Hex :=
  if detectSchemaKind rows = .poker_event_v1 then ZERO_EVENT_HASH
  else GENESIS_EVENT_HASH viem

/-- The stored hash of a row is that of its stored fields. -/
def HashedRow (sessionId : String) (rows : List DbEventRow) (row : DbEventRow) : Prop :=
  ∃ hash, recomputedHash viem runtime sessionId rows row = .ok hash ∧
    normalizeHex hash = asHex row.eventHash

/-- The previous hash of a row is the given one. -/
def LinkedRow (expectedPrev : Hex) (_ : Nat) (row : DbEventRow) : Prop :=
  asHex row.previousEventHash = normalizeHex expectedPrev

/-- Every row continues the one before it. -/
def LinkedRows (rows : List DbEventRow) : Prop :=
  Linked (asHex ·.eventHash) LinkedRow (genesisOf viem rows) 0 rows

/-- The sequences are consecutive from that of the first row. -/
def Consecutive (rows : List DbEventRow) : Prop :=
  ∃ first : Int, ∀ (index : Nat) row, rows[index]? = some row → row.sequence = first + index

/-- A valid transcript with its root and its final sequence. -/
structure ValidTranscript (sessionId : String) (rows : List DbEventRow)
    (root : Hex) (finalSequence : Int) : Prop where
  linked : LinkedRows viem rows
  hashed : ∀ row ∈ rows, HashedRow viem runtime sessionId rows row
  consecutive : Consecutive rows
  ends : ∃ last, rows.getLast? = some last ∧ root = asHex last.eventHash ∧
      finalSequence = last.sequence

/-- What is signed names a session, a root and, in settlements, a sequence. -/
def Content.Carries (sessionId : String) (root : Hex) (finalSequence : Int) : Content → Prop
  | .finalSettlement message =>
    message.sessionId = sessionIdToBytes32 viem sessionId ∧
      normalizeHex message.eventRoot = root ∧ message.finalSequence = finalSequence
  | .text message =>
    message = "replay-ok:" ++ sessionId ++ ":" ++ root
  | .finalSettlementV3 message =>
    message.sessionId = sessionIdToBytes32 viem sessionId ∧
      normalizeHex message.finalEventRoot = root ∧ message.finalSequence = finalSequence

/-- The signed content is that of the valid transcript of a session. -/
def Attested (db : Database) (sessionId : String) (content : Content) : Prop :=
  ∃ root finalSequence, ValidTranscript viem runtime sessionId (db.canonicalGameEvents sessionId)
        root finalSequence ∧ content.Carries viem sessionId root finalSequence

/-- The answer to a request attests the session that the request is about. -/
def Request.Attests (db : Database) (content : Content) : Request → Prop
  | .verifySession body => Attested viem runtime db body.sessionId content
  | .attestSettlementV3 _ =>
    ∃ sessionId, Attested viem runtime db sessionId content

/-! ## What the verifier leaves out -/

/-- JSON rows pass what is not checked of them. -/
structure LegacyPasses (sessionId : String) (rows : List DbEventRow) : Prop where
  hashed : ∀ row ∈ rows, row.legacy.isRecomputed = false → HashedRow viem runtime sessionId rows row
  consecutive : Consecutive rows

/-- A proposal that need not match has the last stored hash as its root. -/
def ProposalNames (rows : List DbEventRow) (row : SettlementProposalRow) :
    Prop :=
  ∀ last, rows.getLast? = some last →
    normalizeHex (toBytes32 (orText row.eventRoot (asHex last.eventHash))) = asHex last.eventHash

/-- The settlement sent is that of a valid transcript in the database. -/
def SentStored (db : Database) (settlement : FinalSettlementV3Message) :
    Prop :=
  ∃ sessionId, settlement.sessionId = sessionIdToBytes32 viem sessionId ∧
      ValidTranscript viem runtime sessionId (db.canonicalGameEvents sessionId)
        (normalizeHex settlement.finalEventRoot) settlement.finalSequence

/-- What is not checked holds all the same. -/
def Request.Passes (wallet : Wallet) (db : Database) : Request → Prop
  | .verifySession body =>
    let rows := db.canonicalGameEvents body.sessionId
    (detectSchemaKind rows = .legacy_json → LegacyPasses viem runtime body.sessionId rows) ∧
      (body.requireProposalMatch = some false →
        ∀ row ∈ db.proposal body.sessionId, ProposalNames rows row)
  | .attestSettlementV3 body =>
    ∀ settlement, parseFinalSettlementV3FromHttp wallet body = .ok settlement →
      SentStored viem runtime db settlement

end Transcripts

/-! ## Texts -/

/-- The hash package writes hashes in lower case. -/
def LowerHashes (viem : Viem) : Prop :=
  ∀ bytes, normalizeHex (viem.keccak256 bytes) = viem.keccak256 bytes

@[simp]
theorem normalizeHex_asHex (raw : String) : normalizeHex (asHex raw) = asHex raw :=
  normalizeHex_normalizeHex _

/-- A text with its prefix is only put in lower case. -/
theorem asHex_prefixed (digits : List Char) : asHex (String.ofList ('0' :: 'x' :: digits)) =
    normalizeHex (String.ofList ('0' :: 'x' :: digits)) := by
  rw [asHex, String.toList_ofList, if_pos]
  rfl

theorem asHex_toBytes32 (raw : String) : asHex (toBytes32 raw) = normalizeHex (toBytes32 raw) :=
  asHex_prefixed _

theorem mapError_eq_ok {α : Type} {result : Except EventStoreError α} {value : α}
    (mapped : result.mapError errorText = .ok value) : result = .ok value := by
  cases result with
  | ok => exact congrArg _ (Except.ok.inj mapped)
  | error => cases mapped

theorem eq_ok_of_toOption {ε α : Type} {result : Except ε α} {value : α}
    (found : result.toOption = some value) : result = .ok value := by
  cases result with
  | ok => exact congrArg _ (Option.some.inj found)
  | error => cases found

/-! ## Chains of JSON texts -/

section Legacy

variable {viem : Viem} {runtime : Runtime}

/-- What is checked of a JSON row. -/
def CheckedHash (viem : Viem) (runtime : Runtime) (row : LegacyCanonicalRow) :
    Prop :=
  row.isRecomputed = true → ∃ hash, hashEvent viem runtime (row.event runtime) = .ok hash ∧
      normalizeHex hash = asHex row.eventHash

theorem legacyRowIssues_eq_nil_iff {expectedPrev : Hex} {row : LegacyCanonicalRow} :
    legacyRowIssues viem runtime expectedPrev row = .ok [] ↔
      asHex row.previousEventHash = normalizeHex expectedPrev ∧
        CheckedHash viem runtime row := by
  rw [legacyRowIssues, CheckedHash]
  by_cases complete : row.isRecomputed = true
  · simp only [complete, if_true, bind_eq_ok_iff, pure_eq_ok_iff,
      List.append_eq_nil_iff, ite_eq_right_iff, List.cons_ne_nil, imp_false,
      not_not, ne_eq, forall_const]
    constructor
    · rintro ⟨hash, hashed, same, equal⟩
      exact ⟨same, hash, hashed, equal⟩
    · rintro ⟨same, hash, hashed, equal⟩
      exact ⟨hash, hashed, same, equal⟩
  · simp [complete, pure_eq_ok_iff]

/-- Without issues, the rows are linked and their checked hashes are right. -/
theorem legacyIssuesFrom_eq_nil {expectedPrev tip : Hex} {position : Nat} {rows : List DbEventRow}
    (verified : legacyIssuesFrom viem runtime expectedPrev (rows.map (·.legacy)) = .ok ([], tip)) :
    Linked (asHex ·.eventHash) LinkedRow expectedPrev position rows ∧
      (∀ row ∈ rows, CheckedHash viem runtime row.legacy) ∧
      tip = tipAfter (asHex ·.eventHash) expectedPrev rows := by
  induction rows generalizing expectedPrev position with
  | nil =>
    cases verified
    exact ⟨trivial, fun row member => absurd member List.not_mem_nil, rfl⟩
  | cons row rest induction =>
    simp only [List.map_cons, legacyIssuesFrom, bind_eq_ok_iff,
      pure_eq_ok_iff, Prod.mk.injEq, List.append_eq_nil_iff] at verified
    rcases verified with ⟨here, first, ⟨issues, last⟩, others, ⟨rfl, none⟩, rfl⟩
    rcases legacyRowIssues_eq_nil_iff.mp first with ⟨linked, checked⟩
    cases none
    rcases @induction _ (position + 1) others with ⟨links, all, tips⟩
    exact ⟨⟨linked, links⟩, List.forall_mem_cons.mpr ⟨checked, all⟩, tips⟩

end Legacy

/-! ## Chains of typed events -/

section Typed

variable {viem : Viem} {runtime : Runtime}

/-- A row as the store would have read it. -/
def DbEventRow.stored (viem : Viem) (sessionId : String) (epoch : Int) (row : DbEventRow) :
    StoredEvent where
  event := rowToEvent (row.typed viem) sessionId epoch
  eventHash := asHex row.eventHash
  canonicalBytesHex := ""
  unhashed := ⟨none, none, none, none⟩
  persistedAtMs := 0

/-- Only the case of a tip depends on the case of the first one. -/
theorem normalizeHex_tipAfter {tip tip' : Hex} (same : normalizeHex tip = normalizeHex tip')
    (rows : List StoredEvent) : normalizeHex (tipAfter StoredEvent.eventHash tip rows) =
    normalizeHex (tipAfter StoredEvent.eventHash tip' rows) := by
  cases rows with
  | nil => exact same
  | cons row rest => rfl

/-- The tip of events without issues is their last stored hash, up to case. -/
theorem tip_of_verifyEventsFrom
    {expectedPrev tip : Hex} {front : List Hex} {rows : List StoredEvent}
    (verified : verifyEventsFrom viem (some (front ++ rows.map StoredEvent.eventHash))
          expectedPrev front.length (rows.map StoredEvent.event) = .ok ([], tip)) :
    normalizeHex tip = normalizeHex (tipAfter StoredEvent.eventHash expectedPrev rows) := by
  induction rows generalizing expectedPrev front with
  | nil =>
    cases verified
    rfl
  | cons row rest induction =>
    have onward (recomputed : Hex) := @induction recomputed (front ++ [row.eventHash])
    simp only [List.append_assoc, List.singleton_append, List.length_append,
      List.length_singleton] at onward
    simp only [List.map_cons, verifyEventsFrom, bind_eq_ok_iff,
      pure_eq_ok_iff, Prod.mk.injEq, List.append_eq_nil_iff] at verified
    rcases verified with ⟨result, hash, mismatch, stored, more, others,
      ⟨⟨⟨gap, broken⟩, rfl⟩, clean⟩, rfl⟩
    have same := (storedHashIssues_eq_nil_iff.mp ⟨stored, rfl⟩).2
    rw [onward result.hash (others.trans (by rw [← clean]))]
    exact normalizeHex_tipAfter same rest

/-- The tip is in lower case, as hashes are. -/
theorem normalizeHex_tip (lower : LowerHashes viem)
    {hashes : Option (List Hex)} {expectedPrev : Hex} {index : Nat} {events : List PokerEventV1}
    {issues : List EventHashChain.ChainVerifyIssue} {tip : Hex}
    (lowerPrev : normalizeHex expectedPrev = expectedPrev)
    (verified : verifyEventsFrom viem hashes expectedPrev index events = .ok (issues, tip)) :
    normalizeHex tip = tip := by
  induction events generalizing expectedPrev index issues with
  | nil =>
    cases verified
    exact lowerPrev
  | cons event rest induction =>
    simp only [verifyEventsFrom, bind_eq_ok_iff, pure_eq_ok_iff,
      Prod.mk.injEq, EventHashChain.hashed_eq_ok_iff] at verified
    rcases verified with ⟨result, hash, mismatch, stored, more, others, -, rfl⟩
    rcases result with ⟨bytes, hashText⟩
    simp only [hashPokerEventV1, eventHash, hashEnc, bind_eq_ok_iff,
      pure_eq_ok_iff, HashResult.mk.injEq] at hash
    rcases hash with ⟨encoded, -, -, rfl⟩
    exact induction (lower encoded) others

/-- Rows that match as stored events are linked, hashed and consecutive. -/
theorem linked_stored {sessionId : String} {epoch : Int} {expectedPrev : Hex} {position : Nat}
    {rows : List DbEventRow}
    (linked : Linked StoredEvent.eventHash (Matches viem) expectedPrev
        position (rows.map (·.stored viem sessionId epoch))) :
    Linked (asHex ·.eventHash) (fun prev index row =>
      (LinkedRow prev index row ∧ row.sequence = (index : Int)) ∧ ∃ result, hashPokerEventV1 viem
              (rowToEvent (row.typed viem) sessionId epoch) = .ok result ∧
            normalizeHex result.hash = asHex row.eventHash)
      expectedPrev position rows := by
  induction rows generalizing expectedPrev position with
  | nil => trivial
  | cons row rest induction =>
    rcases linked with ⟨⟨sequence, previous, result, hash, same⟩, others⟩
    have before : normalizeHex (asHex row.previousEventHash) =
        normalizeHex expectedPrev := previous
    have stored : normalizeHex result.hash = normalizeHex (asHex row.eventHash) := same
    rw [normalizeHex_asHex] at before stored
    exact ⟨⟨⟨before, sequence⟩, result, hash, stored⟩, induction others⟩

theorem tipAfter_stored {sessionId : String} {epoch : Int} (tip : Hex) (rows : List DbEventRow) :
    tipAfter StoredEvent.eventHash tip (rows.map (·.stored viem sessionId epoch)) =
      tipAfter (asHex ·.eventHash) tip rows := by
  induction rows generalizing tip with
  | nil => rfl
  | cons row rest induction => exact induction (asHex row.eventHash)

/-- Typed rows that are found fine are linked, and their tip is the last. -/
theorem linked_of_verifyEventHashChain (lower : LowerHashes viem)
    {sessionId : String} {epoch : Int} {rows : List DbEventRow} {check : ChainVerifyResult}
    (verified : verifyEventHashChain viem
          ((rows.map (·.typed viem)).map (rowToEvent · sessionId epoch))
          (some ((rows.map (·.typed viem)).map (asHex ·.eventHash))) = .ok check)
    (ok : check.ok = true) :
    Linked (asHex ·.eventHash) (fun prev index row =>
          (LinkedRow prev index row ∧ row.sequence = (index : Int)) ∧ ∃ result,
              hashPokerEventV1 viem (rowToEvent (row.typed viem) sessionId epoch) = .ok result ∧
                normalizeHex result.hash = asHex row.eventHash)
        ZERO_EVENT_HASH 0 rows ∧
      check.tip = normalizeHex (tipAfter (asHex ·.eventHash) ZERO_EVENT_HASH rows) := by
  have events : (rows.map (·.typed viem)).map (rowToEvent · sessionId epoch) =
      (rows.map (·.stored viem sessionId epoch)).map StoredEvent.event := by
    rw [List.map_map, List.map_map]
    rfl
  have hashes : (rows.map (·.typed viem)).map (asHex ·.eventHash) =
      (rows.map (·.stored viem sessionId epoch)).map
        StoredEvent.eventHash := by
    rw [List.map_map, List.map_map]
    rfl
  rw [events, hashes] at verified
  have linked := verifyEventHashChain_ok_iff.mp ⟨check, verified, ok⟩
  refine ⟨linked_stored linked, ?_⟩
  simp only [verifyEventHashChain, bind_eq_ok_iff, pure_eq_ok_iff] at verified
  rcases verified with ⟨⟨issues, tip⟩, loop, rfl⟩
  cases List.isEmpty_iff.mp ok
  have zero : normalizeHex ZERO_EVENT_HASH = ZERO_EVENT_HASH := by
    decide +kernel
  have same := @tip_of_verifyEventsFrom viem _ _ [] _ loop
  rw [normalizeHex_tip lower zero loop, tipAfter_stored] at same
  exact same

end Typed

/-! ## What the verifier checks -/

section Checked

variable {viem : Viem} {runtime : Runtime}
variable {sessionId : String} {rows : List DbEventRow}
variable {chain : ChainVerifyOutcome}

/-- What a chain that is found fine has been checked for. -/
structure CheckedRows (viem : Viem) (runtime : Runtime) (sessionId : String)
    (rows : List DbEventRow) (chain : ChainVerifyOutcome) : Prop where
  linked : LinkedRows viem rows
  hashed : ∀ row ∈ rows, detectSchemaKind rows = .poker_event_v1 ∨ row.legacy.isRecomputed = true →
        HashedRow viem runtime sessionId rows row
  consecutive : detectSchemaKind rows = .poker_event_v1 → Consecutive rows
  ends : ∃ last, rows.getLast? = some last ∧ chain.eventRoot = asHex last.eventHash ∧
      chain.finalSequence = last.sequence

theorem checkedRows_of_legacy (legacy : detectSchemaKind rows ≠ .poker_event_v1)
    (verified : verifyLegacyHashChain viem runtime (rows.map (·.legacy)) = .ok chain)
    (ok : chain.ok = true) : CheckedRows viem runtime sessionId rows chain := by
  cases rows using List.reverseRecOn with
  | nil =>
    cases verified
    cases ok
  | append_singleton earlier last =>
    rw [verifyLegacyHashChain, List.map_append, List.map_singleton,
      List.getLast?_concat, Option.elim_some] at verified
    simp only [bind_eq_ok_iff, pure_eq_ok_iff] at verified
    rcases verified with ⟨⟨issues, tip⟩, loop, rfl⟩
    cases List.isEmpty_iff.mp ok
    rw [← List.map_singleton, ← List.map_append] at loop
    rcases legacyIssuesFrom_eq_nil loop with ⟨linked, hashes, tips⟩
    refine ⟨?_, ?_, fun typed => absurd typed legacy, last, ?_, ?_, rfl⟩
    · rw [LinkedRows, genesisOf, if_neg legacy]
      exact linked
    · intro row member complete
      rcases complete with typed | complete
      · exact absurd typed legacy
      · rcases hashes row member complete with ⟨hash, hashed, same⟩
        refine ⟨hash, ?_, same⟩
        rw [recomputedHash, if_neg legacy]
        exact hashed
    · exact List.getLast?_concat
    · rw [tips, tipAfter_concat]

theorem checkedRows_of_typed (lower : LowerHashes viem)
    (typed : detectSchemaKind rows = .poker_event_v1)
    (verified : verifyPokerEventV1Chain viem sessionId (firstEpoch rows)
        (rows.map (·.typed viem)) = .ok chain)
    (ok : chain.ok = true) : CheckedRows viem runtime sessionId rows chain := by
  cases rows using List.reverseRecOn with
  | nil => cases typed
  | append_singleton earlier last =>
    generalize epochOf : firstEpoch (earlier ++ [last]) = epoch at verified
    rw [verifyPokerEventV1Chain, List.map_append, List.map_singleton,
      List.getLast?_concat, Option.elim_some] at verified
    rw [← List.map_singleton, ← List.map_append] at verified
    rcases bind_eq_ok_iff.mp verified with ⟨check, checked, built⟩
    cases built
    rcases linked_of_verifyEventHashChain lower (mapError_eq_ok checked) ok
      with ⟨linked, tip⟩
    rcases linked_and_iff.mp linked with ⟨placed, hashed⟩
    rcases linked_and_at_iff.mp placed with ⟨links, places⟩
    have sequences : ∀ (index : Nat) row, (earlier ++ [last])[index]? = some row →
        row.sequence = 0 + (index : Int) := by
      intro index row found
      simpa using places index row found
    have consecutive : Consecutive (earlier ++ [last]) := ⟨0, sequences⟩
    refine ⟨?_, ?_, fun _ => consecutive, last, List.getLast?_concat, ?_, rfl⟩
    · rw [LinkedRows, genesisOf, if_pos typed]
      exact links
    · intro row member _
      rcases hashed row member with ⟨result, hash, same⟩
      refine ⟨result.hash, ?_, same⟩
      rw [recomputedHash, if_pos typed, epochOf, hash]
      rfl
    · show check.tip = _
      rw [tip, tipAfter_concat, normalizeHex_asHex]

theorem checkedRows (lower : LowerHashes viem)
    (verified : verifyDbRows viem runtime sessionId rows = .ok chain)
    (ok : chain.ok = true) : CheckedRows viem runtime sessionId rows chain := by
  rw [verifyDbRows] at verified
  by_cases typed : detectSchemaKind rows = .poker_event_v1
  · rw [if_pos typed] at verified
    exact checkedRows_of_typed lower typed verified ok
  · rw [if_neg typed] at verified
    exact checkedRows_of_legacy typed verified ok

/-- Checked rows are a valid transcript when the rest passes. -/
theorem CheckedRows.valid_iff (checked : CheckedRows viem runtime sessionId rows chain) :
    ValidTranscript viem runtime sessionId rows chain.eventRoot chain.finalSequence ↔
      (detectSchemaKind rows = .legacy_json → LegacyPasses viem runtime sessionId rows) := by
  constructor
  · intro valid _
    exact ⟨fun row member _ => valid.hashed row member, valid.consecutive⟩
  · intro passes
    cases kind : detectSchemaKind rows with
    | poker_event_v1 =>
      exact ⟨checked.linked, fun row member => checked.hashed row member (Or.inl kind),
          checked.consecutive kind, checked.ends⟩
    | legacy_json =>
      refine ⟨checked.linked, ?_, (passes kind).consecutive, checked.ends⟩
      intro row member
      cases complete : row.legacy.isRecomputed with
      | true => exact checked.hashed row member (Or.inr complete)
      | false => exact (passes kind).hashed row member complete

/-- What attests a checked chain names its tip and its last sequence. -/
theorem CheckedRows.attested_iff {db : Database} {content : Content}
    (checked : CheckedRows viem runtime sessionId (db.canonicalGameEvents sessionId) chain) :
    Attested viem runtime db sessionId content ↔
      (detectSchemaKind (db.canonicalGameEvents sessionId) = .legacy_json →
          LegacyPasses viem runtime sessionId (db.canonicalGameEvents sessionId)) ∧
        content.Carries viem sessionId chain.eventRoot chain.finalSequence := by
  rw [← checked.valid_iff]
  constructor
  · rintro ⟨root, finalSequence, valid, carries⟩
    rcases valid.ends with ⟨last, found, rfl, rfl⟩
    rcases checked.ends with ⟨last', found', root, sequence⟩
    rw [found] at found'
    cases found'
    rw [root, sequence]
    exact ⟨valid, carries⟩
  · rintro ⟨valid, carries⟩
    exact ⟨_, _, valid, carries⟩

end Checked

/-! ## What is signed -/

section Signed

variable {viem : Viem} {runtime : Runtime} {wallet : Wallet}
variable {db : Database} {env : Env}
variable {chain : ChainVerifyOutcome} {rows : List DbEventRow}

theorem Wallet.signature_content {key : String} {content : Content} {signature : Signature}
    (signed : wallet.signature key content = .ok signature) : signature.content = content := by
  rcases Library.Guarded.map_eq_ok_iff.mp signed with ⟨bytes, -, rfl⟩
  rfl

theorem verifySettlementProposal_eq_nil {input : SettlementProposalInput}
    (fine : verifySettlementProposal chain input = []) :
    asHex input.eventRoot = normalizeHex chain.eventRoot := by
  simp only [verifySettlementProposal, List.append_eq_nil_iff,
    ite_eq_right_iff, List.cons_ne_nil, imp_false, ne_eq, not_not] at fine
  exact fine.1.2

/-- A proposal that is not found to differ has no issues. -/
theorem fine_of_matching {sessionId : String} {required : Option Bool} {row : SettlementProposalRow}
    (wanted : required ≠ some false)
    (matching : ¬ (required.getD true = true ∧
        (proposalCheck db sessionId chain).any (fun issues => !issues.isEmpty) = true))
    (found : row ∈ db.proposal sessionId) :
    verifySettlementProposal chain row.input = [] := by
  have asked : required.getD true = true := by
    rcases required with _ | _ | _
    · rfl
    · exact absurd rfl wanted
    · rfl
  have proposal : db.proposal sessionId = some row := found
  by_contra issues
  apply matching
  refine ⟨asked, ?_⟩
  simpa [proposalCheck, proposal] using issues

/-- The signature for a session is made for a chain that was found fine. -/
theorem verifySession_signed
    {body : VerifyBody} {reply : VerifySessionReply} {signature : Signature}
    (replied : verifySession viem runtime wallet db env body = .ok reply)
    (signed : reply.signature = some signature) : ∃ chain, verifyDbRows viem runtime body.sessionId
        (db.canonicalGameEvents body.sessionId) = .ok chain ∧ chain.ok = true ∧
      (body.requireProposalMatch ≠ some false → ∀ row ∈ db.proposal body.sessionId,
          verifySettlementProposal chain row.input = []) ∧
      sessionContent viem db env body.sessionId chain = .ok signature.content := by
  rw [verifySession] at replied
  rcases revertIf_bind_eq_ok_iff.mp replied with ⟨-, replied⟩
  rcases bind_eq_ok_iff.mp replied with ⟨chain, verified, replied⟩
  split at replied
  case isTrue =>
    cases replied
    cases signed
  case isFalse ok =>
    dsimp only at replied
    split at replied
    case isTrue =>
      cases replied
      cases signed
    case isFalse matching =>
      rcases bind_eq_ok_iff.mp replied with ⟨made, signing, built⟩
      cases built
      cases signed
      refine ⟨chain, verified, Bool.eq_true_of_not_eq_false ok, ?_, ?_⟩
      · intro required row found
        exact fine_of_matching required matching found
      · rw [signSession] at signing
        split at signing
        case isTrue => cases signing
        case isFalse =>
          rcases bind_eq_ok_iff.mp signing with ⟨content, contents, signing⟩
          rcases bind_eq_ok_iff.mp signing with ⟨other, signing, same⟩
          cases same
          rw [Wallet.signature_content signing, contents]

/-- The word of an empty text is its own word. -/
theorem toBytes32_empty :
    normalizeHex (toBytes32 (normalizeHex (toBytes32 ""))) =
      normalizeHex (toBytes32 "") := by
  have zeros : toBytes32 "" = String.ofList ('0' :: 'x' :: List.replicate 64 '0') := rfl
  have lower : normalizeHex (String.ofList ('0' :: 'x' :: List.replicate 64 '0')) =
      String.ofList ('0' :: 'x' :: List.replicate 64 '0') := by
    apply String.toList_injective
    rw [normalizeHex, String.toLower, String.toList_map, String.toList_ofList]
    rfl
  have again : toBytes32 (String.ofList ('0' :: 'x' :: List.replicate 64 '0')) =
      String.ofList ('0' :: 'x' :: List.replicate 64 '0') := by
    rw [toBytes32, hexDigits, String.toList_ofList]
    rfl
  rw [zeros, lower, again, lower]

/-- A proposal found to match names the tip of the chain. -/
theorem root_of_matching {row : SettlementProposalRow}
    (tip : normalizeHex chain.eventRoot = chain.eventRoot)
    (fine : verifySettlementProposal chain row.input = []) :
    normalizeHex (toBytes32 (orText row.eventRoot chain.eventRoot)) =
      chain.eventRoot := by
  have same := verifySettlementProposal_eq_nil fine
  rw [SettlementProposalRow.input, asHex_toBytes32, tip] at same
  by_cases empty : row.eventRoot = ""
  · rw [empty] at same
    rw [orText, if_pos empty]
    have known := toBytes32_empty
    rw [same] at known
    exact known
  · rw [orText, if_neg empty]
    exact same

theorem settlement_of_map {made : Except String FinalSettlement} {content : Content}
    (contents : made.map Content.finalSettlement = .ok content) :
    ∃ message, made = .ok message ∧ content = .finalSettlement message := by
  cases made with
  | error => cases contents
  | ok message =>
    cases contents
    exact ⟨message, rfl, rfl⟩

theorem settlement_eq_ok {row : SettlementProposalRow} {sessionId : String}
    {message : FinalSettlement} (made : row.settlement viem env sessionId chain = .ok message) :
    message.sessionId = sessionIdToBytes32 viem sessionId ∧
      message.finalSequence = chain.finalSequence ∧ message.eventRoot =
        toBytes32 (orText row.eventRoot chain.eventRoot) := by
  rw [SettlementProposalRow.settlement] at made
  cases rake : row.totalRake.atoms with
  | none =>
    rw [rake] at made
    cases made
  | some totalRake =>
    rw [rake] at made
    cases made
    exact ⟨rfl, rfl, rfl⟩

/-- The content signed for a checked chain carries its tip if the proposal
does. -/
theorem carries_iff {body : VerifyBody} {content : Content}
    (checked : CheckedRows viem runtime body.sessionId
        (db.canonicalGameEvents body.sessionId) chain)
    (matching : body.requireProposalMatch ≠ some false → ∀ row ∈ db.proposal body.sessionId,
          verifySettlementProposal chain row.input = [])
    (contents : sessionContent viem db env body.sessionId chain = .ok content) :
    content.Carries viem body.sessionId chain.eventRoot chain.finalSequence ↔
      (body.requireProposalMatch = some false → ∀ row ∈ db.proposal body.sessionId,
          ProposalNames (db.canonicalGameEvents body.sessionId) row) := by
  rcases checked.ends with ⟨last, found, root, -⟩
  rw [sessionContent] at contents
  cases proposed : db.proposal body.sessionId with
  | none =>
    rw [proposed] at contents
    cases contents
    exact iff_of_true rfl fun _ row absent => absurd absent (Option.not_mem_none _)
  | some row =>
    rw [proposed] at contents matching
    rcases settlement_of_map contents with ⟨message, made, rfl⟩
    rcases settlement_eq_ok made with ⟨sessionId, sequence, eventRoot⟩
    have carries : (Content.finalSettlement message).Carries viem body.sessionId
          chain.eventRoot chain.finalSequence ↔
        normalizeHex (toBytes32 (orText row.eventRoot chain.eventRoot)) =
          chain.eventRoot := by
      rw [Content.Carries, sessionId, sequence, eventRoot]
      exact ⟨fun all => all.2.1, fun same => ⟨rfl, same, rfl⟩⟩
    have names : ProposalNames (db.canonicalGameEvents body.sessionId) row ↔
        normalizeHex (toBytes32 (orText row.eventRoot chain.eventRoot)) =
          chain.eventRoot := by
      rw [ProposalNames, found, root]
      exact ⟨fun all => all last rfl, fun same other equal => by
        cases equal
        exact same⟩
    rw [carries]
    by_cases optional : body.requireProposalMatch = some false
    · constructor
      · intro same _ other equal
        cases equal
        exact names.mpr same
      · intro all
        exact names.mp (all optional row rfl)
    · have tip : normalizeHex chain.eventRoot = chain.eventRoot := by
        rw [root, normalizeHex_asHex]
      exact iff_of_true (root_of_matching tip (matching optional row rfl))
          fun not => absurd not optional

/-- A signature for a session attests it exactly when the rest passes. -/
theorem verifySession_attests_iff
    (lower : LowerHashes viem) {body : VerifyBody} {signature : Signature}
    (answered : answeredSignature viem runtime wallet db env (.verifySession body) =
        some signature) :
    Attested viem runtime db body.sessionId signature.content ↔
      (Request.verifySession body).Passes viem runtime wallet db := by
  rw [answeredSignature] at answered
  rcases Option.bind_eq_some_iff.mp answered with ⟨reply, replied, signed⟩
  have replied : verifySession viem runtime wallet db env body = .ok reply :=
    eq_ok_of_toOption replied
  rcases verifySession_signed replied signed with ⟨chain, verified, ok, matching, contents⟩
  have checked := checkedRows lower verified ok
  rw [checked.attested_iff, carries_iff checked matching contents]
  rfl

/-- The signature for a sent settlement is made whatever the rows are. -/
theorem attestSettlementV3_signed {body : JsValue} {signature : Signature}
    (answered : answeredSignature viem runtime wallet db env (.attestSettlementV3 body) =
        some signature) :
    ∃ settlement, parseFinalSettlementV3FromHttp wallet body = .ok settlement ∧
        signature.content = .finalSettlementV3 settlement := by
  have attested : attestSettlementV3AsReplay wallet env body = .ok signature :=
    eq_ok_of_toOption answered
  rcases bind_eq_ok_iff.mp attested with ⟨settlement, parsed, attested⟩
  rcases bind_eq_ok_iff.mp attested with ⟨key, -, signed⟩
  rw [signFinalSettlementV3] at signed
  split at signed
  case isTrue =>
    refine ⟨settlement, parsed, ?_⟩
    cases made : wallet.signature key (.finalSettlementV3 settlement) with
    | error =>
      rw [made] at signed
      cases signed
    | ok other =>
      rw [made] at signed
      cases signed
      exact Wallet.signature_content made
  case isFalse => cases signed

/-- What attests a sent settlement is that it is stored. -/
theorem attested_finalSettlementV3_iff {settlement : FinalSettlementV3Message} : (∃ sessionId,
      Attested viem runtime db sessionId (.finalSettlementV3 settlement)) ↔
    SentStored viem runtime db settlement := by
  constructor
  · rintro ⟨sessionId, root, finalSequence, valid, session, rfl, rfl⟩
    exact ⟨sessionId, session, valid⟩
  · rintro ⟨sessionId, session, valid⟩
    exact ⟨sessionId, _, _, valid, session, rfl, rfl⟩

end Signed

namespace Example

/-- Every text has the same hash and every address is taken. -/
def constantHash : Hex := "0x07"

def constantViem : Viem where
  encodeAbiParameters := fun _ _ => .ok ""
  keccak256 := fun _ => constantHash
  toBytes := fun _ => ""

def plainRuntime : Runtime where
  number := fun text => text.toInt?.map fun value => (value : ℚ)
  numberText := fun value => toString value.num
  toLowerCase := String.toLower

def plainWallet : Wallet where
  getAddress := .ok
  sign := fun _ _ => .ok "0x01"

def attestor : Env where
  REPLAY_ATTESTOR_PRIVATE_KEY := some (String.ofList (List.replicate 64 '1'))
  SETTLEMENT_HUB_ADDRESS := none
  CHAIN_ID := 31337

/-- One JSON row without a payload, at the start of its session. -/
def firstRow : DbEventRow where
  sessionId := "s"
  sequence := 1
  eventHash := constantHash
  previousEventHash := constantHash
  eventType := "HAND_START"
  schemaKind := .legacy_json
  epoch := none
  handNumber := none
  protocolVersion := none
  eventTypeCode := none
  hasActorSeat := none
  actorSeat := none
  publicPayloadHash := none
  privatePayloadCommitment := none
  elapsedMs := none
  engineHash := none
  publicPayload := .null
  handId := none
  timestampMs := some 5

def oneRow : Database where
  canonicalGameEvents := fun _ => [firstRow]
  settlementProposal := fun _ => .ok none

def firstSession : Request := .verifySession ⟨"s", none⟩

def firstSignature : Signature := ⟨.text "replay-ok:s:0x07", "0x01"⟩

theorem lowerHashes : LowerHashes constantViem := by
  intro bytes
  show normalizeHex constantHash = constantHash
  decide +kernel

/-- A settlement with its totals and words, of a session nobody played. -/
def madeUp : JsValue :=
  .object
    [("sessionId", .string "0x0a"), ("finalSequence", .string "9"),
      ("finalEventRoot", .string "0x0b"), ("handRoot", .string "0x0c"),
      ("balanceRoot", .string "0x0d"),
      ("randomnessEpochId", .string "0x0e"), ("openingTotal", .string "5"),
      ("endingPlayerTotal", .string "5"), ("totalRake", .string "0"),
      ("proofBatchSequence", .string "1"),
      ("modelPolicyHash", .string "0x0f"),
      ("profileSetHash", .string "0x10"), ("gameTemplateId", .string "0x11"),
      ("engineHash", .string "0x12"), ("deadline", .string "99"),
      ("chainId", .string "31337"), ("verifyingContract", .string "0x13")]

def noRows : Database where
  canonicalGameEvents := fun _ => []
  settlementProposal := fun _ => .ok none

end Example

end Mozetto.Replay
