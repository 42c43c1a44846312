import Mozetto.DealerDeck.Csprng
import Mozetto.DealerEnclave.Calls
import Mozetto.Library.Guarded

/-!
# Dealers that are bound

In every run of calls in order the dealers are bound by what they committed to
and attested: secrets and roots stay, every deck comes from the bound VRF word,
cards verify against attested decks, no secret serves two hands and no card is
both delivered and opened.  Out of order they are not: a second commit draws
other secrets for the same session and epoch.
-/

namespace Mozetto.DealerEnclave

open Mozetto.Chain
open Mozetto.Dealer (Hashes normalizeBytes32)
open Mozetto.Library.Guarded
open Mozetto.Library.Mapping
open Mozetto.Library.TransitionSystem

/-! ## Answers that leave a reading alone -/

section Readings

variable {log : List DealerEvent}

/-- Neither a commitment nor an attestation. -/
def DealerEvent.Incidental : DealerEvent → Prop
  | .committed _ _ _ => False
  | .attested _ _ => False
  | _ => True

theorem commits_append_incidental {added : List DealerEvent}
    (incidental : ∀ event ∈ added, event.Incidental) (dealer : Dealer) (sessionId : String) :
    commits (added ++ log) dealer sessionId = commits log dealer sessionId := by
  have none : added.filterMap (DealerEvent.committedBatch dealer sessionId) = [] := by
    refine List.filterMap_eq_nil_iff.mpr ?_
    intro event member
    have silent := incidental event member
    cases event with
    | committed other session batch => exact silent.elim
    | _ => rfl
  rw [commits, List.filterMap_append, none]
  rfl

theorem attestedDecks_append_incidental {added : List DealerEvent}
    (incidental : ∀ event ∈ added, event.Incidental) (sessionId : String) (epoch : Nat) :
    attestedDecks (added ++ log) sessionId epoch =
      attestedDecks log sessionId epoch := by
  have none : added.findSome? (DealerEvent.attestedDecks sessionId epoch) = none := by
    refine List.findSome?_eq_none_iff.mpr ?_
    intro event member
    have silent := incidental event member
    cases event with
    | attested session decks => exact silent.elim
    | _ => rfl
  rw [attestedDecks, List.findSome?_append, none]
  rfl

theorem commits_committed {other : Dealer} {session : String} {batch : SecretBatch}
    (dealer : Dealer) (sessionId : String) :
    commits (.committed other session batch :: log) dealer sessionId =
      if other = dealer ∧ session = sessionId then
        batch :: commits log dealer sessionId
      else commits log dealer sessionId := by
  rw [commits, List.filterMap_cons, DealerEvent.committedBatch]
  by_cases matching : other = dealer ∧ session = sessionId
  · rw [if_pos matching, if_pos matching]
    rfl
  · rw [if_neg matching, if_neg matching]
    rfl

theorem attestedDecks_attested {session : String} {decks : AttestedDecks}
    (sessionId : String) (epoch : Nat) :
    attestedDecks (.attested session decks :: log) sessionId epoch =
      if session = sessionId ∧ decks.attestation.epoch = epoch then some decks
      else attestedDecks log sessionId epoch := by
  rw [attestedDecks, List.findSome?_cons, DealerEvent.attestedDecks]
  by_cases matching : session = sessionId ∧ decks.attestation.epoch = epoch
  · rw [if_pos matching, if_pos matching]
  · rw [if_neg matching, if_neg matching]
    rfl

end Readings

/-! ## The invariant -/

section Invariant

variable (config : DealerConfig) (resultHash : Bytes32 → Bytes32)

namespace DealerState

/-- The hands of a deck batch are those that its batch of secrets gives. -/
structure Attests (state : DealerState) (sessionId : String) (epoch : Nat)
    (decks : AttestedDecks) : Prop where
  root : decks.attestation.deckBatchRoot = merkleRoot config.hashes (decks.hands.map (·.deckRoot))
  hands : ∃ batch, state.held (sessionId, epoch) = some batch ∧ ∀ hand ∈ decks.hands,
        attestedHand config batch decks.vrfR (hand.handNumber, hand.secretIndex) = .ok hand

structure Inv (state : DealerState) : Prop where
  lawful : Lawful config.hashes resultHash state.log
  keeps : ∀ dealer sessionId, ∀ batch ∈ commits state.log dealer sessionId,
      state.Keeps sessionId batch dealer
  committed : ∀ sessionId epoch batch, state.held (sessionId, epoch) = some batch →
      batch.epoch = epoch ∧ batch ∈ commits state.log .enclave sessionId
  attested : ∀ sessionId epoch decks, attestedDecks state.log sessionId epoch = some decks →
        state.Attests config sessionId epoch decks

variable {config resultHash} {state after : DealerState}

namespace Inv

/-- Incidental answers, and batches that the local dealer creates. -/
theorem extend (inv : state.Inv config resultHash) {added : List DealerEvent}
    (incidental : ∀ event ∈ added, event.Incidental) (log : after.log = added ++ state.log)
    (held : ∀ key, after.held key = state.held key)
    (batches : ∀ sessionId batch, state.batches sessionId = some batch →
        after.batches sessionId = some batch)
    (lawful : Lawful config.hashes resultHash after.log) :
    after.Inv config resultHash where
  lawful := lawful
  keeps dealer sessionId batch member := by
    rw [log, commits_append_incidental incidental] at member
    have kept := inv.keeps dealer sessionId batch member
    cases dealer with
    | enclave => exact (held _).trans kept
    | localDealer =>
      rcases kept with ⟨holds, found, same⟩
      exact ⟨holds, batches _ _ found, same⟩
  committed sessionId epoch batch holds := by
    rw [log, commits_append_incidental incidental]
    exact inv.committed sessionId epoch batch ((held _).symm.trans holds)
  attested sessionId epoch decks found := by
    rw [log, attestedDecks_append_incidental incidental] at found
    rcases inv.attested sessionId epoch decks found with ⟨root, batch, holds, same⟩
    exact ⟨root, batch, (held _).trans holds, same⟩

/-- What the enclave holds is what it has committed to. -/
theorem committed_of_held (inv : state.Inv config resultHash) {sessionId : String} {epoch : Nat}
    {batch : SecretBatch} (holds : state.held (sessionId, epoch) = some batch) :
    Committed state.log .enclave sessionId batch := by
  intro other member same
  have kept : state.held (sessionId, other.epoch) = some other :=
    inv.keeps .enclave sessionId other member
  rw [same, (inv.committed _ _ _ holds).1, holds] at kept
  cases kept
  exact ⟨rfl, rfl⟩

/-- So does the local dealer, where it has. -/
theorem committed_of_batch (inv : state.Inv config resultHash) {sessionId : String}
    {batch : SecretBatch} (holds : state.batches sessionId = some batch) :
    Committed state.log .localDealer sessionId batch := by
  intro other member same
  rcases inv.keeps .localDealer sessionId other member with ⟨held, found, kept⟩
  rw [holds] at found
  cases found
  rw [kept same.symm]
  exact ⟨rfl, rfl⟩

theorem initially (started : Started state) : state.Inv config resultHash where
  lawful := by
    rw [started.log]
    trivial
  keeps := by
    rw [started.log]
    exact fun _ _ _ member => absurd member List.not_mem_nil
  committed := by
    intro sessionId epoch batch holds
    rw [held, started.sessions] at holds
    cases holds
  attested := by
    rw [started.log]
    intro sessionId epoch decks found
    cases found

end Inv

end DealerState

/-! ## Deriving -/

/-- Hands derived in a row, each from a secret of its own. -/
theorem lawful_derivations {config : DealerConfig} {resultHash : Bytes32 → Bytes32}
    {log : List DealerEvent} {sessionId : String} {batch : SecretBatch}
    {vrfR : Bytes32} {hands : List (Nat × Nat)} (lawful : Lawful config.hashes resultHash log)
    (committed : Committed log .enclave sessionId batch)
    (bound : WordBound resultHash log sessionId batch.epoch vrfR)
    (own : ∀ hand ∈ hands, IndexFor log .enclave sessionId batch.epoch hand.2 hand.1)
    (single : hands.Pairwise fun first second =>
      first.2 = second.2 → first.1 = second.1) :
    Lawful config.hashes resultHash
      ((hands.map (DealerState.derivationOf sessionId batch vrfR)).reverse ++ log) := by
  induction hands generalizing log with
  | nil => exact lawful
  | cons hand rest induction =>
    rcases List.pairwise_cons.mp single with ⟨apart, single⟩
    rw [List.map_cons, List.reverse_cons, List.append_assoc, List.singleton_append]
    have follows : Follows config.hashes resultHash log
        (DealerState.derivationOf sessionId batch vrfR hand) :=
      ⟨committed, bound, own hand List.mem_cons_self⟩
    refine induction ⟨follows, lawful⟩ committed bound ?_ single
    intro other member known listed same
    rcases List.mem_cons.mp listed with rfl | listed
    · exact apart other member same.2.2.2
    · exact own other (List.mem_cons_of_mem _ member) known listed same

namespace DealerState

variable {config : DealerConfig} {resultHash : Bytes32 → Bytes32}
variable {state after : DealerState}

theorem incidental_derivations {sessionId : String} {batch : SecretBatch} {vrfR : Bytes32}
    {hands : List (Nat × Nat)} {event : DealerEvent}
    (member : event ∈ (hands.map (derivationOf sessionId batch vrfR)).reverse) :
    event.Incidental := by
  rcases List.mem_map.mp (List.mem_reverse.mp member) with ⟨hand, -, rfl⟩
  trivial

/-- One derivation, of either dealer. -/
theorem Inv.derive (inv : state.Inv config resultHash) {derivation : Derivation}
    (committed : Committed state.log derivation.dealer derivation.sessionId derivation.batch)
    (bound : WordBound resultHash state.log derivation.sessionId
        derivation.batch.epoch derivation.vrfR)
    (own : IndexFor state.log derivation.dealer derivation.sessionId
        derivation.batch.epoch derivation.secretIndex derivation.handNumber) :
    (state.record (.derived derivation)).Inv config resultHash := by
  have incidental : ∀ event ∈ [DealerEvent.derived derivation], event.Incidental := by
    intro event member
    rw [List.mem_singleton.mp member]
    trivial
  exact inv.extend incidental rfl (fun _ => rfl) (fun _ _ found => found)
      ⟨⟨committed, bound, own⟩, inv.lawful⟩

/-! ## Decks that are attested -/

theorem attestedHand_eq_ok {batch : SecretBatch} {vrfR : Bytes32} {hand : Nat × Nat}
    {attested : AttestedHand} (made : attestedHand config batch vrfR hand = .ok attested) :
    ∃ prepared, prepareOne config batch hand.1 hand.2 vrfR = .ok prepared ∧
      attested = ⟨hand.1, prepared.handId, prepared.deckRoot, hand.2⟩ := by
  rw [attestedHand, bind_eq_ok_iff] at made
  rcases made with ⟨prepared, prepares, made⟩
  cases made
  exact ⟨prepared, prepares, rfl⟩

/-- A deck that is prepared again has the root that was attested. -/
theorem Inv.deckAttested (inv : state.Inv config resultHash) {sessionId : String}
    {epoch handNumber secretIndex : Nat} {vrfWord : String}
    {batch : SecretBatch} {prepared : PreparedHandDeck}
    (holds : state.held (sessionId, epoch) = some batch)
    (attested : state.HandAttested config.hashes sessionId epoch vrfWord (handNumber, secretIndex))
    (prepares : prepareOne config batch handNumber secretIndex
          (normalizeBytes32 config.hashes vrfWord) = .ok prepared) :
    DeckAttested config.hashes state.log ⟨sessionId, epoch, handNumber, prepared.deckRoot⟩ := by
  rcases attested with ⟨decks, found, word, hand, member, number, index⟩
  rcases inv.attested _ _ decks found with ⟨root, other, held, hands⟩
  rw [holds] at held
  cases held
  rcases attestedHand_eq_ok (hands hand member) with ⟨again, made, same⟩
  simp only [number, index, word] at made
  rw [prepares] at made
  cases made
  refine ⟨decks, found, root, hand, member, number, ?_⟩
  rw [same]

/-! ## The enclave -/

theorem epoch_of_drawBatch
    {drawn epoch secretCount : Nat} {sessionId : String} {batch : SecretBatch}
    (made : drawBatch config drawn sessionId epoch secretCount = .ok batch) :
    batch.epoch = epoch := by
  simp only [drawBatch] at made
  split at made
  · cases made
    rfl
  · cases made

/-- What a commit of the enclave changes. -/
theorem commitBatch_eq_ok {sessionId : String} {epoch : Nat} {secretCount : Option Nat}
    (accepted : state.commitBatch config sessionId epoch secretCount = .ok after) :
    ∃ batch, batch.epoch = epoch ∧ after.log = .committed .enclave sessionId batch :: state.log ∧
        after.held = write state.held (sessionId, epoch) (some batch) ∧
          after.batches = state.batches := by
  simp only [DealerState.commitBatch, bind_eq_ok_iff, pure_eq_ok_iff] at accepted
  rcases accepted with ⟨batch, drawn, rfl⟩
  refine ⟨batch, epoch_of_drawBatch drawn, rfl, ?_, rfl⟩
  ext1 key
  by_cases here : key = (sessionId, epoch)
  · rw [here, write_self]
    exact congrArg (Option.map _) (write_self _ _ _)
  · rw [write_of_ne _ _ here]
    exact congrArg (Option.map _) (write_of_ne _ _ here)

theorem Inv.commitBatch (inv : state.Inv config resultHash) {sessionId : String} {epoch : Nat}
    {secretCount : Option Nat}
    (inOrder : ∀ batch ∈ commits state.log .enclave sessionId, batch.epoch ≠ epoch)
    (accepted : state.commitBatch config sessionId epoch secretCount = .ok after) :
    after.Inv config resultHash := by
  rcases commitBatch_eq_ok accepted with ⟨batch, same, log, holds, batches⟩
  refine
    { lawful := ?_
      keeps := ?_
      committed := ?_
      attested := ?_ }
  · rw [log]
    refine ⟨?_, inv.lawful⟩
    intro other member equal
    exact absurd (equal.trans same) (inOrder other member)
  · intro dealer session other member
    rw [log, commits_committed] at member
    split at member
    case isTrue matching =>
      rcases matching with ⟨rfl, rfl⟩
      rcases List.mem_cons.mp member with rfl | member
      · rw [Keeps, holds, same, write_self]
      · have apart : (sessionId, other.epoch) ≠ (sessionId, epoch) :=
          fun equal => inOrder other member (congrArg Prod.snd equal)
        rw [Keeps, holds, write_of_ne _ _ apart]
        exact inv.keeps .enclave sessionId other member
    case isFalse different =>
      have kept := inv.keeps dealer session other member
      cases dealer with
      | localDealer =>
        rw [Keeps, batches]
        exact kept
      | enclave =>
        have apart : (session, other.epoch) ≠ (sessionId, epoch) :=
          fun equal => different ⟨rfl, (congrArg Prod.fst equal).symm⟩
        rw [Keeps, holds, write_of_ne _ _ apart]
        exact kept
  · intro session other found held
    rw [log, commits_committed]
    rw [holds] at held
    by_cases here : (session, other) = (sessionId, epoch)
    · cases here
      rw [write_self] at held
      cases held
      rw [if_pos ⟨rfl, rfl⟩]
      exact ⟨same, List.mem_cons_self⟩
    · rw [write_of_ne _ _ here] at held
      rcases inv.committed session other found held with ⟨equal, member⟩
      refine ⟨equal, ?_⟩
      split
      case isTrue => exact List.mem_cons_of_mem _ member
      case isFalse => exact member
  · intro session other decks found
    rw [log] at found
    rcases inv.attested session other decks found with ⟨root, secrets, kept, hands⟩
    have committed := inv.committed session other secrets kept
    have apart : (session, other) ≠ (sessionId, epoch) := by
      intro equal
      cases equal
      exact inOrder secrets committed.2 committed.1
    refine ⟨root, secrets, ?_, hands⟩
    rw [holds, write_of_ne _ _ apart]
    exact kept

/-- Writing back a session with its batch leaves what is held. -/
theorem held_write {key : String × Nat} {session changed : EnclaveSessionState}
    (found : state.sessions key = some session)
    (same : changed.toSecretBatch = session.toSecretBatch) (other : String × Nat) :
    (write state.sessions key (some changed) other).map (·.toSecretBatch) =
      state.held other := by
  by_cases here : other = key
  · rw [here, write_self, held, found, Option.map_some, Option.map_some, same]
  · rw [write_of_ne _ _ here, held]

theorem requireSession_eq_ok {sessionId : String} {epoch : Nat} {session : EnclaveSessionState}
    (accepted : state.requireSession sessionId epoch = .ok session) :
    state.sessions (sessionId, epoch) = some session := by
  rw [requireSession] at accepted
  split at accepted
  case h_1 => cases accepted
  case h_2 found =>
    cases accepted
    exact found

theorem Inv.bindVrf (inv : state.Inv config resultHash) {sessionId : String} {epoch : Nat}
    {vrfRequestId vrfResultHash : String} (inOrder : bindings state.log sessionId epoch = [])
    (accepted : state.bindVrf config sessionId epoch vrfRequestId vrfResultHash = .ok after) :
    after.Inv config resultHash := by
  simp only [DealerState.bindVrf, bind_eq_ok_iff, pure_eq_ok_iff] at accepted
  rcases accepted with ⟨session, required, rfl⟩
  have found := requireSession_eq_ok required
  have incidental : ∀ event ∈ [DealerEvent.bound sessionId epoch
        (normalizeBytes32 config.hashes vrfRequestId)
        (normalizeBytes32 config.hashes vrfResultHash)],
      event.Incidental := by
    intro event member
    rw [List.mem_singleton.mp member]
    trivial
  exact inv.extend incidental rfl (held_write found rfl)
      (fun _ _ listed => listed) ⟨inOrder, inv.lawful⟩

/-- The batch that the enclave derives from, and its epoch. -/
theorem Inv.ofSession (inv : state.Inv config resultHash) {sessionId : String} {epoch : Nat}
    {session : EnclaveSessionState}
    (required : state.requireSession sessionId epoch = .ok session) :
    state.held (sessionId, epoch) = some session.toSecretBatch ∧ session.epoch = epoch := by
  have holds : state.held (sessionId, epoch) = some session.toSecretBatch := by
    rw [held, requireSession_eq_ok required]
    rfl
  exact ⟨holds, (inv.committed _ _ _ holds).1⟩

/-- A deck batch is attested, of the secrets that are held. -/
theorem Inv.attest (inv : state.Inv config resultHash) {sessionId : String} {decks : AttestedDecks}
    (log : after.log = .attested sessionId decks :: state.log)
    (held : ∀ key, after.held key = state.held key) (batches : after.batches = state.batches)
    (attests : state.Attests config sessionId decks.attestation.epoch decks)
    (root : ∀ other ∈ commits state.log .enclave sessionId, other.epoch = decks.attestation.epoch →
          other.root = decks.attestation.dealerSecretRoot) :
    after.Inv config resultHash where
  lawful := by
    rw [log]
    exact ⟨⟨attests.root, root⟩, inv.lawful⟩
  keeps dealer session batch member := by
    rw [log] at member
    have kept := inv.keeps dealer session batch member
    cases dealer with
    | enclave => exact (held _).trans kept
    | localDealer =>
      rw [Keeps, batches]
      exact kept
  committed session epoch batch holds := by
    rw [log]
    exact inv.committed session epoch batch ((held _).symm.trans holds)
  attested session epoch other found := by
    rw [log, attestedDecks_attested] at found
    have known : state.Attests config session epoch other := by
      split at found
      case isTrue matching =>
        cases found
        rcases matching with ⟨rfl, rfl⟩
        exact attests
      case isFalse => exact inv.attested session epoch other found
    rcases known with ⟨batchRoot, batch, holds, hands⟩
    exact ⟨batchRoot, batch, (held _).trans holds, hands⟩

theorem Inv.prepareDecks (inv : state.Inv config resultHash) {sessionId : String} {epoch : Nat}
    {handNumbers secretIndices : List Nat} {vrfWord : String}
    (may : ∀ hand ∈ handNumbers.zip secretIndices,
        state.MayDerive config.hashes resultHash .enclave sessionId epoch vrfWord hand)
    (single : (handNumbers.zip secretIndices).Pairwise fun first second =>
      first.2 = second.2 → first.1 = second.1)
    (accepted : state.prepareDecks config sessionId epoch handNumbers secretIndices vrfWord =
        .ok after) :
    after.Inv config resultHash := by
  rw [DealerState.prepareDecks, bind_eq_ok_iff] at accepted
  rcases accepted with ⟨session, required, accepted⟩
  rcases inv.ofSession required with ⟨holds, sameEpoch⟩
  cases bound : session.vrfResultHash with
  | none =>
    simp only [bound] at accepted
    cases accepted
  | some vrfResultHash =>
    simp only [bound] at accepted
    split at accepted
    case isTrue => cases accepted
    case isFalse =>
      simp only [bind_eq_ok_iff, pure_eq_ok_iff] at accepted
      rcases accepted with ⟨hands, made, rfl⟩
      have derived :
          ({ state with
              log :=
                ((handNumbers.zip secretIndices).map (derivationOf sessionId session.toSecretBatch
                    (normalizeBytes32 config.hashes vrfWord))).reverse ++
                  state.log } : DealerState).Inv config resultHash := by
        refine inv.extend (fun _ => incidental_derivations) rfl (fun _ => rfl)
            (fun _ _ found => found) ?_
        cases hands : handNumbers.zip secretIndices with
        | nil => exact inv.lawful
        | cons first rest =>
          rw [hands] at may single
          have bound := (may first List.mem_cons_self).1
          refine lawful_derivations inv.lawful (inv.committed_of_held holds) ?_ ?_ single
          · rw [sameEpoch]
            exact bound
          · intro hand member
            rw [sameEpoch]
            exact (may hand member).2
      refine derived.attest rfl (held_write (requireSession_eq_ok required) rfl)
          rfl ⟨rfl, session.toSecretBatch, holds, ?_⟩ ?_
      · intro hand member
        rcases exists_of_mem_mapM made member with ⟨pair, -, attested⟩
        rcases attestedHand_eq_ok attested with ⟨prepared, -, same⟩
        rw [same]
        rw [same] at attested
        exact attested
      · intro other member same
        exact (derived.committed_of_held holds other member (same.trans sameEpoch.symm)).2

/-- The enclave derives a hand that it may derive. -/
theorem Inv.deriveHand (inv : state.Inv config resultHash) {sessionId : String} {epoch : Nat}
    {vrfWord : String} {hand : Nat × Nat} {batch : SecretBatch}
    (holds : state.held (sessionId, epoch) = some batch)
    (may : state.MayDerive config.hashes resultHash .enclave sessionId epoch vrfWord hand) :
    (state.record (derivationOf sessionId batch (normalizeBytes32 config.hashes vrfWord) hand)).Inv
      config resultHash := by
  rcases may with ⟨bound, own⟩
  rw [← (inv.committed _ _ _ holds).1] at bound own
  exact inv.derive (inv.committed_of_held holds) bound own

theorem Inv.openPublicCard (inv : state.Inv config resultHash) {sessionId : String}
    {epoch handNumber secretIndex : Nat} {vrfWord : String} {position : Nat}
    (may : state.MayDerive config.hashes resultHash .enclave sessionId epoch vrfWord
        (handNumber, secretIndex))
    (attested : state.HandAttested config.hashes sessionId epoch vrfWord (handNumber, secretIndex))
    (undelivered : position ∉ deliveredPositions state.log (sessionId, epoch, handNumber))
    (accepted : state.openPublicCard config sessionId epoch handNumber secretIndex
          vrfWord position = .ok after) :
    after.Inv config resultHash := by
  simp only [DealerState.openPublicCard, bind_eq_ok_iff] at accepted
  rcases accepted with ⟨session, required, prepared, prepares, opening, opens, accepted⟩
  have holds := (inv.ofSession required).1
  have derived := inv.deriveHand holds may
  have deck := inv.deckAttested holds attested prepares
  rcases verifies_of_openCard opens with ⟨same, verifies⟩
  rw [if_pos verifies] at accepted
  cases accepted
  refine @Inv.extend _ _ _ _ derived
      [.opened .enclave ⟨sessionId, epoch, handNumber, prepared.deckRoot⟩ opening]
      ?_ rfl (fun _ => rfl) (fun _ _ found => found) ⟨⟨deck, verifies, ?_⟩, derived.lawful⟩
  · intro event member
    rw [List.mem_singleton.mp member]
    trivial
  · rw [same]
    exact undelivered

/-- Cards of one hand, delivered seat by seat. -/
theorem lawful_deliveries {log added : List DealerEvent} {hand : DealtHand}
    (lawful : Lawful config.hashes resultHash log) (deck : DeckAttested config.hashes log hand)
    (delivered : ∀ event ∈ added, ∃ seatIndex cards, event = .delivered hand seatIndex cards ∧
          ∀ card ∈ cards, CardVerifies config.hashes hand card ∧
              card.position ∉ openedPositions log hand.key) :
    (∀ event ∈ added, event.Incidental) ∧ Lawful config.hashes resultHash (added ++ log) := by
  induction added with
  | nil => exact ⟨fun _ member => absurd member List.not_mem_nil, lawful⟩
  | cons event rest induction =>
    have others := fun other member =>
      delivered other (List.mem_cons_of_mem _ member)
    rcases induction others with ⟨incidental, follows⟩
    rcases delivered event List.mem_cons_self with ⟨seatIndex, cards, rfl, verified⟩
    have still : DeckAttested config.hashes (rest ++ log) hand := by
      rw [DeckAttested, attestedDecks_append_incidental incidental]
      exact deck
    have silent : openedPositions (rest ++ log) hand.key = openedPositions log hand.key := by
      have none : rest.flatMap (DealerEvent.openedPositions hand.key) = [] := by
        refine List.flatMap_eq_nil_iff.mpr ?_
        intro other member
        rcases others other member with ⟨_, _, rfl, -⟩
        rfl
      rw [openedPositions, List.flatMap_append, none]
      rfl
    rw [← silent] at verified
    refine ⟨?_, ⟨still, verified⟩, follows⟩
    intro other member
    rcases List.mem_cons.mp member with rfl | member
    · trivial
    · exact incidental other member

theorem Inv.deliverPrivateCards (inv : state.Inv config resultHash) {sessionId : String}
    {epoch handNumber secretIndex : Nat} {vrfWord : String} {deals : List (Nat × List Nat)}
    (may : state.MayDerive config.hashes resultHash .enclave sessionId epoch vrfWord
        (handNumber, secretIndex))
    (attested : state.HandAttested config.hashes sessionId epoch vrfWord (handNumber, secretIndex))
    (unopened : ∀ deal ∈ deals, ∀ position ∈ deal.2,
        position ∉ openedPositions state.log (sessionId, epoch, handNumber))
    (accepted : state.deliverPrivateCards config sessionId epoch handNumber secretIndex
          vrfWord deals = .ok after) :
    after.Inv config resultHash := by
  simp only [DealerState.deliverPrivateCards, bind_eq_ok_iff, pure_eq_ok_iff] at accepted
  rcases accepted with ⟨session, required, prepared, prepares, delivered, made, rfl⟩
  have holds := (inv.ofSession required).1
  have derived := inv.deriveHand holds may
  have deck := inv.deckAttested holds attested prepares
  have deliveries : ∀ event ∈ delivered.reverse, ∃ seatIndex cards, event =
          .delivered ⟨sessionId, epoch, handNumber, prepared.deckRoot⟩ seatIndex cards ∧
        ∀ card ∈ cards, CardVerifies config.hashes
              ⟨sessionId, epoch, handNumber, prepared.deckRoot⟩ card ∧ card.position ∉
              openedPositions state.log (sessionId, epoch, handNumber) := by
    intro event member
    rcases exists_of_mem_mapM made (List.mem_reverse.mp member) with ⟨deal, listed, delivers⟩
    rw [deliverTo, bind_eq_ok_iff] at delivers
    rcases delivers with ⟨cards, opened, same⟩
    cases same
    refine ⟨deal.1, cards, rfl, ?_⟩
    intro card member
    rcases exists_of_mem_mapM opened member with ⟨position, dealt, opens⟩
    rcases verifies_of_openCard opens with ⟨same, verifies⟩
    refine ⟨verifies, ?_⟩
    rw [same]
    exact unopened deal listed position dealt
  rcases lawful_deliveries derived.lawful deck deliveries with ⟨incidental, lawful⟩
  exact derived.extend incidental rfl (fun _ => rfl) (fun _ _ found => found) lawful

/-! ## The local dealer -/

/-- The batch that the local dealer answers from is there. -/
theorem Inv.resolveBatch (inv : state.Inv config resultHash) {sessionId : String}
    {resolved : DealerState} {batch : SecretBatch}
    (accepted : state.resolveBatch config sessionId = .ok (resolved, batch)) :
    resolved.Inv config resultHash ∧ resolved.log = state.log ∧
      resolved.batches sessionId = some batch ∧ batch.epoch = state.localEpoch sessionId := by
  rw [DealerState.resolveBatch] at accepted
  cases found : state.batches sessionId with
  | some held =>
    rw [found] at accepted
    cases accepted
    refine ⟨inv, rfl, found, ?_⟩
    rw [localEpoch, found]
    rfl
  | none =>
    rw [found] at accepted
    simp only [createBatch, bind_eq_ok_iff, pure_eq_ok_iff] at accepted
    rcases accepted with ⟨created, drawn, same⟩
    cases same
    refine ⟨?_, rfl, write_self _ _ _, ?_⟩
    · refine @Inv.extend _ _ _ _ inv [] ?_ rfl (fun _ => rfl) ?_ inv.lawful
      · exact fun _ member => absurd member List.not_mem_nil
      · intro session other held
        have apart : session ≠ sessionId := by
          rintro rfl
          rw [found] at held
          cases held
        exact (write_of_ne _ _ apart).trans held
    · rw [epoch_of_drawBatch drawn, localEpoch, found]
      rfl

/-- A seed or deck of the local dealer. -/
theorem Inv.localDerive (inv : state.Inv config resultHash) {sessionId : String}
    {handNumber secretIndex : Nat} {vrfWord : String} {batch : SecretBatch}
    (holds : state.batches sessionId = some batch)
    (may : state.MayDerive config.hashes resultHash .localDealer sessionId
        batch.epoch vrfWord (handNumber, secretIndex)) :
    (state.record (localDerivation config sessionId batch handNumber vrfWord secretIndex)).Inv
      config resultHash :=
  inv.derive (inv.committed_of_batch holds) may.1 may.2

/-- A call on the batch of a session, whether it throws or not. -/
theorem Inv.onBatch (inv : state.Inv config resultHash) {sessionId : String}
    {handNumber secretIndex : Nat} {vrfWord : String}
    {answer : DealerState → SecretBatch → Except Failure DealerState}
    (may : state.MayDerive config.hashes resultHash .localDealer sessionId
        (state.localEpoch sessionId) vrfWord (handNumber, secretIndex))
    (derives : ∀ resolved batch result, answer resolved batch = .ok result → result =
          resolved.record (localDerivation config sessionId batch handNumber vrfWord secretIndex))
    (accepted : state.onBatch config sessionId answer = .ok after) :
    after.Inv config resultHash := by
  rw [DealerState.onBatch] at accepted
  split at accepted
  case h_1 => cases accepted
  case h_2 resolved batch found =>
    rcases inv.resolveBatch found with ⟨kept, log, holds, epoch⟩
    have mayStill : resolved.MayDerive config.hashes resultHash .localDealer sessionId
        batch.epoch vrfWord (handNumber, secretIndex) := by
      rw [MayDerive, log, epoch]
      exact may
    split at accepted
    case h_1 result answered =>
      cases accepted
      rw [derives resolved batch after answered]
      exact kept.localDerive holds mayStill
    case h_2 =>
      cases accepted
      exact kept

theorem Inv.localCommit (inv : state.Inv config resultHash) {sessionId : String}
    {randomnessEpoch secretCount : Option Nat}
    (inOrder : ∀ batch ∈ commits state.log .localDealer sessionId,
        batch.epoch ≠ randomnessEpoch.getD 0)
    (accepted : state.localCommit config sessionId randomnessEpoch secretCount = .ok after) :
    after.Inv config resultHash := by
  simp only [DealerState.localCommit, createBatch, bind_eq_ok_iff, pure_eq_ok_iff] at accepted
  rcases accepted with ⟨_, ⟨batch, drawn, rfl⟩, rfl⟩
  have same := epoch_of_drawBatch drawn
  refine
    { lawful := ⟨?_, inv.lawful⟩
      keeps := ?_
      committed := ?_
      attested := ?_ }
  · intro other member equal
    exact absurd (equal.trans same) (inOrder other member)
  · intro dealer session other member
    rw [record, commits_committed] at member
    split at member
    case isTrue matching =>
      rcases matching with ⟨rfl, rfl⟩
      refine ⟨batch, write_self _ _ _, ?_⟩
      intro equal
      rcases List.mem_cons.mp member with rfl | member
      · rfl
      · exact absurd (equal.symm.trans same) (inOrder other member)
    case isFalse different =>
      have kept := inv.keeps dealer session other member
      cases dealer with
      | enclave => exact kept
      | localDealer =>
        have apart : session ≠ sessionId := fun equal => different ⟨rfl, equal.symm⟩
        rcases kept with ⟨held, found, kept⟩
        exact ⟨held, (write_of_ne _ _ apart).trans found, kept⟩
  · intro session epoch other holds
    rw [record, commits_committed, if_neg (fun both => by cases both.1)]
    exact inv.committed session epoch other holds
  · intro session epoch decks found
    rcases inv.attested session epoch decks found with ⟨root, batch, holds, hands⟩
    exact ⟨root, batch, holds, hands⟩

/-! ## Runs -/

/-- Whatever is called in order keeps the dealers bound. -/
theorem Inv.step (inv : state.Inv config resultHash) {call : DealerCall}
    (inOrder : state.InOrder config.hashes resultHash call)
    (accepted : state.step config call = .ok after) :
    after.Inv config resultHash := by
  rw [DealerState.step] at accepted
  split at accepted
  case isFalse => cases accepted
  case isTrue =>
    cases call with
    | commitBatch sessionId epoch secretCount =>
      exact inv.commitBatch inOrder accepted
    | bindVrf sessionId epoch vrfRequestId vrfResultHash =>
      exact inv.bindVrf inOrder accepted
    | prepareDecks sessionId epoch handNumbers secretIndices vrfWord =>
      exact inv.prepareDecks inOrder.1 inOrder.2 accepted
    | openPublicCard sessionId epoch handNumber secretIndex vrfWord position =>
      exact inv.openPublicCard inOrder.1 inOrder.2.1 inOrder.2.2 accepted
    | deliverPrivateCards sessionId epoch handNumber secretIndex vrfWord deals =>
      exact inv.deliverPrivateCards inOrder.1 inOrder.2.1 inOrder.2.2 accepted
    | localCommit sessionId randomnessEpoch secretCount =>
      exact inv.localCommit inOrder accepted
    | localHandSeed sessionId handNumber vrfWord secretIndex =>
      refine inv.onBatch inOrder ?_ accepted
      intro resolved batch result answered
      simp only [DealerState.localHandSeed, bind_eq_ok_iff, pure_eq_ok_iff] at answered
      rcases answered with ⟨_, -, same⟩
      exact same.symm
    | localPrepareDeck sessionId handNumber vrfWord secretIndex =>
      refine inv.onBatch inOrder ?_ accepted
      intro resolved batch result answered
      simp only [DealerState.localPrepareDeck, bind_eq_ok_iff, pure_eq_ok_iff] at answered
      rcases answered with ⟨_, -, same⟩
      exact same.symm
    | localOpenPublicCard sessionId handNumber vrfWord secretIndex position =>
      exact inOrder.elim

end DealerState

end Invariant

namespace Replays

/-- A mixing function in the place of the hash. -/
def mixed (words : List Nat) : Bytes32 :=
  words.foldl (fun value word => (value * 31 + word + 7) * 6364136223846793005 % 2 ^ 256) 5

def plainConfig : DealerConfig where
  hashes :=
    { keccak256 := fun
        | .bytes raw => mixed raw
        | .words words => mixed words
      sha256 := fun text => mixed (utf8 text) }
  fuel := 4
  randomBytes index := 1000 + index

def started : DealerState := ⟨fun _ => none, fun _ => none, 0, []⟩

theorem started_initial : Started started := ⟨rfl, rfl, rfl⟩

/-- Two commits for one session and epoch. -/
def recommits : List DealerCall :=
  [.commitBatch "s" 0 (some 1), .commitBatch "s" 0 (some 1)]

/-- Decks are prepared for two hands; one card of each kind is dealt. -/
def inOrderRun : List DealerCall :=
  [.commitBatch "s" 0 (some 2), .bindVrf "s" 0 "request" "word",
    .prepareDecks "s" 0 [0, 1] [0, 1] "word",
    .deliverPrivateCards "s" 0 0 0 "word" [(0, [0, 1]), (1, [2, 3])],
    .openPublicCard "s" 0 0 0 "word" 4,
    .openPublicCard "s" 0 1 1 "word" 0]

end Replays

/-! ## Every card opens -/

theorem lt_of_assertUnseen {deck seen : List Nat} (valid : assertUnseen deck seen = .ok ()) :
    ∀ code ∈ deck, code < DECK_SIZE := by
  induction deck generalizing seen with
  | nil => exact fun _ member => absurd member List.not_mem_nil
  | cons code rest induction =>
    rw [assertUnseen] at valid
    split at valid
    · cases valid
    · rename_i small
      split at valid
      · cases valid
      · exact List.forall_mem_cons.mpr ⟨Nat.not_le.mp small, induction valid⟩

theorem perm_of_assertValidDeck {deck : List Nat} (valid : assertValidDeck deck = .ok ()) :
    deck.Perm (List.range DECK_SIZE) := by
  rcases valid_of_assertValidDeck valid with ⟨length, nodup⟩
  rw [assertValidDeck, if_neg (not_not.mpr length)] at valid
  have among : deck ⊆ List.range DECK_SIZE := fun code member =>
    List.mem_range.mpr (lt_of_assertUnseen valid code member)
  refine (List.subperm_of_subset nodup among).perm_of_length_le ?_
  rw [List.length_range, length]

/--
What is prepared for a hand is the shuffle that its seed gives, with every card
once; each position opens its card, with a proof that verifies under the root.
-/
theorem every_card_opens {hashes : Hashes} {fuel index : Nat} {handId handSeed : Bytes32}
    {prepared : PreparedHandDeck}
    (made : prepareHandDeck hashes fuel handId handSeed index = .ok prepared) :
    (DealerDeck.shuffleDeckV2 hashes fuel handSeed).toOption.map Prod.fst =
        some prepared.deck ∧
      prepared.deck.Perm (List.range DECK_SIZE) ∧
      (∀ position code, prepared.deck[position]? = some code →
        ∃ opening, openCard hashes prepared position = .ok opening ∧
          opening.position = position ∧ opening.cardCode = code ∧
          opening.cardLeaf = cardLeaf hashes handId position code opening.cardSalt ∧
          verifyMerkleProof hashes opening.cardLeaf opening.proof prepared.deckRoot = true) ∧
      ∀ position, DECK_SIZE ≤ position →
        openCard hashes prepared position = .error (.threw s!"position out of range: {position}") := by
  have facts := prepared_of_prepareHandDeck made
  have shuffled : shuffleDeckV2 hashes fuel handSeed = some prepared.deck ∧
      assertValidDeck prepared.deck = .ok () := by
    rw [prepareHandDeck] at made
    split at made
    · cases made
    · rename_i deck shuffled
      cases valid : assertValidDeck deck with
      | error failure =>
        simp only [valid] at made
        cases made
      | ok checked =>
        simp only [valid] at made
        cases made
        exact ⟨shuffled, valid⟩
  refine ⟨(DealerDeck.shuffleDeckV2_eq fuel handSeed).trans shuffled.1,
    perm_of_assertValidDeck shuffled.2, ?_, ?_⟩
  · intro position code found
    rcases List.getElem?_eq_some_iff.mp found with ⟨inside, rfl⟩
    have opened := openCard_of_prepared facts (facts.length ▸ inside)
    refine ⟨_, opened, rfl, List.getD_eq_getElem _ _ inside, ?_, (verifies_of_openCard opened).2⟩
    rw [openingAt, facts.handId, List.getD_eq_getElem _ _ inside]
  · intro position outside
    rw [openCard, if_pos (facts.length.trans_le outside)]

namespace Replays

theorem every_card_opens_plain :
    ∃ prepared, prepareHandDeck plainConfig.hashes 4 7 9 0 = .ok prepared ∧
      prepared.deck.Perm (List.range DECK_SIZE) := by
  have succeeds : (prepareHandDeck plainConfig.hashes 4 7 9 0).toOption.isSome = true := by
    decide +kernel
  cases made : prepareHandDeck plainConfig.hashes 4 7 9 0 with
  | error failure =>
    rw [made] at succeeds
    cases succeeds
  | ok prepared => exact ⟨prepared, rfl, (every_card_opens made).2.1⟩

end Replays

end Mozetto.DealerEnclave
