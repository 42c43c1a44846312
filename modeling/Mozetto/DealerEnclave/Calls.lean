import Mozetto.DealerEnclave.Decks
import Mozetto.Library.TransitionSystem

/-!
# The dealers' calls

The routes of the enclave dealer and of the local dealer.  The enclave keeps a
batch of secrets for each session and epoch, the local dealer one for each
session; both prepare a deck anew for every call, from the hand number, the
secret index and the VRF word that the call names.  What the dealers have
answered is recorded, the latest first.
-/

namespace Mozetto.DealerEnclave

open Mozetto.Chain
open Mozetto.Dealer (Hashes normalizeBytes32 sessionIdToBytes32)
open Mozetto.Library.Mapping
open Mozetto.Library.TransitionSystem

inductive Dealer where
  | enclave
  | localDealer
deriving DecidableEq, Repr

/-- The secrets of a session and epoch, and the root that commits to them. -/
structure SecretBatch where
  sessionIdBytes32 : Bytes32
  epoch : Nat
  secrets : List Bytes32
  root : Bytes32
deriving DecidableEq, Repr

structure DealerBatchAttestation where
  sessionId : Bytes32
  epoch : Nat
  dealerSecretRoot : Bytes32
  vrfRequestId : Option Bytes32
  vrfResultHash : Bytes32
  deckBatchRoot : Bytes32
deriving DecidableEq, Repr

structure EnclaveSessionState extends SecretBatch where
  vrfRequestId : Option Bytes32
  vrfResultHash : Option Bytes32
  deckRoots : List Bytes32
  deckBatchRoot : Option Bytes32
  attestation : Option DealerBatchAttestation
deriving DecidableEq, Repr

/-! ## What has been answered -/

/-- A seed was derived from a secret, for a hand. -/
structure Derivation where
  dealer : Dealer
  sessionId : String
  batch : SecretBatch
  handNumber : Nat
  secretIndex : Nat
  vrfR : Bytes32
deriving DecidableEq, Repr

/-- A hand of `prepareDecks`. -/
structure AttestedHand where
  handNumber : Nat
  handId : Bytes32
  deckRoot : Bytes32
  secretIndex : Nat
deriving DecidableEq, Repr

/-- What `prepareDecks` answers, and the word that it derived from. -/
structure AttestedDecks where
  attestation : DealerBatchAttestation
  vrfR : Bytes32
  hands : List AttestedHand
deriving DecidableEq, Repr

/-- The hand that a card is of, and the root that its deck has. -/
structure DealtHand where
  sessionId : String
  epoch : Nat
  handNumber : Nat
  deckRoot : Bytes32
deriving DecidableEq, Repr

inductive DealerEvent where
  | committed (dealer : Dealer) (sessionId : String) (batch : SecretBatch)
  | bound (sessionId : String) (epoch : Nat) (vrfRequestId vrfResultHash : Bytes32)
  | derived (derivation : Derivation)
  | attested (sessionId : String) (decks : AttestedDecks)
  | opened (dealer : Dealer) (hand : DealtHand) (opening : CardOpening)
  | delivered (hand : DealtHand) (seatIndex : Nat) (cards : List CardOpening)
deriving DecidableEq

/-- The dealers' memories, the secrets drawn, and what has been answered. -/
structure DealerState where
  sessions : String × Nat → Option EnclaveSessionState
  batches : String → Option SecretBatch
  drawn : Nat
  log : List DealerEvent

/-- The calls; an epoch is what its text or number stands for. -/
inductive DealerCall where
  | commitBatch (sessionId : String) (epoch : Nat) (secretCount : Option Nat)
  | bindVrf (sessionId : String) (epoch : Nat) (vrfRequestId vrfResultHash : String)
  | prepareDecks (sessionId : String) (epoch : Nat)
      (handNumbers secretIndices : List Nat) (vrfWord : String)
  | openPublicCard (sessionId : String) (epoch handNumber secretIndex : Nat)
      (vrfWord : String) (position : Nat)
  | deliverPrivateCards (sessionId : String) (epoch handNumber secretIndex : Nat) (vrfWord : String)
      (deals : List (Nat × List Nat))
  | localCommit (sessionId : String) (randomnessEpoch secretCount : Option Nat)
  | localHandSeed (sessionId : String) (handNumber : Nat) (vrfWord : String) (secretIndex : Nat)
  | localPrepareDeck (sessionId : String) (handNumber : Nat) (vrfWord : String) (secretIndex : Nat)
  | localOpenPublicCard (sessionId : String) (handNumber : Nat)
      (vrfWord : String) (secretIndex position : Nat)
deriving DecidableEq, Repr

/-- Hashes, the draws a sample may take, and the secrets drawn. -/
structure DealerConfig where
  hashes : Hashes
  fuel : Nat
  randomBytes : Nat → Bytes32

section Handlers

variable (config : DealerConfig)

/-! ## Secrets and decks -/

/-- New secrets and their root; the epoch is encoded in 64 bits. -/
def drawBatch (drawn : Nat) (sessionId : String) (epoch secretCount : Nat) :
    Except Failure SecretBatch :=
  let sessionIdBytes32 := sessionIdToBytes32 config.hashes sessionId
  let secrets := (List.range secretCount).map fun i => config.randomBytes (drawn + i)
  if epoch < uint64Size then
    .ok {
      sessionIdBytes32 := sessionIdBytes32
      epoch := epoch
      secrets := secrets
      root :=
        merkleRoot config.hashes (buildSecretLeaves config.hashes sessionIdBytes32 epoch secrets) }
  else .error (.threw "integer out of range")

/-- The seed of a hand, with the text that is thrown for an index too large. -/
def deriveHandSeed (batch : SecretBatch) (secretIndex : Nat) (vrfR : Bytes32)
    (outOfRange : String) : Except Failure Bytes32 :=
  match batch.secrets[secretIndex]? with
  | none => .error (.threw outOfRange)
  | some secret =>
    .ok (handSeedV2 config.hashes secret vrfR batch.sessionIdBytes32 batch.epoch secretIndex)

/-- The deck of a hand; the hand number is encoded in 64 bits. -/
def prepareDeckForHand (batch : SecretBatch) (handNumber secretIndex : Nat)
    (vrfR : Bytes32) (outOfRange : String) :
    Except Failure PreparedHandDeck := do
  let handSeed ← deriveHandSeed config batch secretIndex vrfR outOfRange
  if uint64Size ≤ handNumber then .error (.threw "integer out of range")
  else
    prepareHandDeck config.hashes config.fuel
      (deriveHandId config.hashes batch.sessionIdBytes32 batch.epoch handNumber)
      handSeed secretIndex

/-- `prepareOne` of the enclave. -/
def prepareOne (batch : SecretBatch) (handNumber secretIndex : Nat)
    (vrfR : Bytes32) : Except Failure PreparedHandDeck :=
  prepareDeckForHand config batch handNumber secretIndex vrfR
    s!"secretIndex {secretIndex} out of range"

namespace DealerState

variable (state : DealerState)

def record (event : DealerEvent) : DealerState := { state with log := event :: state.log }

/-! ## The enclave -/

def requireSession (sessionId : String) (epoch : Nat) :
    Except Failure EnclaveSessionState :=
  match state.sessions (sessionId, epoch) with
  | none =>
    .error (.threw s!"no enclave session for {sessionId} epoch {epoch}")
  | some session => .ok session

def commitBatch (sessionId : String) (epoch : Nat)
    (secretCount : Option Nat) : Except Failure DealerState := do
  let count := secretCount.getD 32
  let batch ← drawBatch config state.drawn sessionId epoch count
  return { state with
    sessions :=
      write state.sessions (sessionId, epoch) (some
          { toSecretBatch := batch
            vrfRequestId := none
            vrfResultHash := none
            deckRoots := []
            deckBatchRoot := none
            attestation := none })
    drawn := state.drawn + count
    log := .committed .enclave sessionId batch :: state.log }

def bindVrf (sessionId : String) (epoch : Nat)
    (vrfRequestId vrfResultHash : String) : Except Failure DealerState := do
  let session ← state.requireSession sessionId epoch
  let requestId := normalizeBytes32 config.hashes vrfRequestId
  let resultHash := normalizeBytes32 config.hashes vrfResultHash
  return { state with
    sessions :=
      write state.sessions (sessionId, epoch) (some
          { session with
            vrfRequestId := some requestId
            vrfResultHash := some resultHash })
    log := .bound sessionId epoch requestId resultHash :: state.log }

/-- One hand of `prepareDecks`. -/
def attestedHand (batch : SecretBatch) (vrfR : Bytes32) (hand : Nat × Nat) :
    Except Failure AttestedHand := do
  let prepared ← prepareOne config batch hand.1 hand.2 vrfR
  return {
    handNumber := hand.1
    handId := prepared.handId
    deckRoot := prepared.deckRoot
    secretIndex := hand.2 }

/-- A hand of `prepareDecks` is derived. -/
def derivationOf (sessionId : String) (batch : SecretBatch) (vrfR : Bytes32)
    (hand : Nat × Nat) : DealerEvent := .derived ⟨.enclave, sessionId, batch, hand.1, hand.2, vrfR⟩

def prepareDecks (sessionId : String) (epoch : Nat)
    (handNumbers secretIndices : List Nat) (vrfWord : String) :
    Except Failure DealerState := do
  let session ← state.requireSession sessionId epoch
  match session.vrfResultHash with
  | none => .error (.threw "VRF not bound — call bind-vrf first")
  | some vrfResultHash =>
    if handNumbers.length ≠ secretIndices.length then
      .error (.threw "handNumbers and secretIndices length mismatch")
    else
      let vrfR := normalizeBytes32 config.hashes vrfWord
      let pairs := handNumbers.zip secretIndices
      let hands ← pairs.mapM (attestedHand config session.toSecretBatch vrfR)
      let deckRoots := hands.map (·.deckRoot)
      let deckBatchRoot := merkleRoot config.hashes deckRoots
      let attestation : DealerBatchAttestation :=
        { sessionId := session.sessionIdBytes32
          epoch := epoch
          dealerSecretRoot := session.root
          vrfRequestId := session.vrfRequestId
          vrfResultHash := vrfResultHash
          deckBatchRoot := deckBatchRoot }
      return { state with
        sessions :=
          write state.sessions (sessionId, epoch) (some
              { session with
                deckRoots := deckRoots
                deckBatchRoot := some deckBatchRoot
                attestation := some attestation })
        log :=
          .attested sessionId ⟨attestation, vrfR, hands⟩ :: ((pairs.map
              (derivationOf sessionId session.toSecretBatch vrfR)).reverse ++ state.log) }

def openPublicCard (sessionId : String) (epoch handNumber secretIndex : Nat)
    (vrfWord : String) (position : Nat) : Except Failure DealerState := do
  let session ← state.requireSession sessionId epoch
  let vrfR := normalizeBytes32 config.hashes vrfWord
  let prepared ← prepareOne config session.toSecretBatch handNumber secretIndex vrfR
  let opening ← openCard config.hashes prepared position
  if verifyMerkleProof config.hashes opening.cardLeaf opening.proof prepared.deckRoot then
    let derived :=
      state.record (derivationOf sessionId session.toSecretBatch vrfR (handNumber, secretIndex))
    return derived.record (.opened .enclave ⟨sessionId, epoch, handNumber, prepared.deckRoot⟩
        opening)
  else .error (.threw "proof self-check failed")

/-- The cards of one seat are sealed to its key. -/
def deliverTo (prepared : PreparedHandDeck) (hand : DealtHand)
    (deal : Nat × List Nat) : Except Failure DealerEvent := do
  let cards ← deal.2.mapM (openCard config.hashes prepared)
  return .delivered hand deal.1 cards

def deliverPrivateCards (sessionId : String) (epoch handNumber secretIndex : Nat) (vrfWord : String)
    (deals : List (Nat × List Nat)) : Except Failure DealerState := do
  let session ← state.requireSession sessionId epoch
  let vrfR := normalizeBytes32 config.hashes vrfWord
  let prepared ← prepareOne config session.toSecretBatch handNumber secretIndex vrfR
  let sealed ← deals.mapM (deliverTo config prepared
        ⟨sessionId, epoch, handNumber, prepared.deckRoot⟩)
  return { state with
    log :=
      sealed.reverse ++ derivationOf sessionId session.toSecretBatch vrfR
          (handNumber, secretIndex) :: state.log }

/-! ## The local dealer -/

/-- `createBatch`, and the batch that it leaves. -/
def createBatch (sessionId : String) (randomnessEpoch secretCount : Nat) :
    Except Failure (DealerState × SecretBatch) := do
  let batch ← drawBatch config state.drawn sessionId randomnessEpoch secretCount
  return (
    { state with
      batches := write state.batches sessionId (some batch)
      drawn := state.drawn + secretCount },
    batch)

abbrev DEFAULT_BATCH_SIZE : Nat := 256

/-- The batch of a session, created where there is none. -/
def resolveBatch (sessionId : String) : Except Failure (DealerState × SecretBatch) :=
  match state.batches sessionId with
  | some batch => .ok (state, batch)
  | none => state.createBatch config sessionId 0 DEFAULT_BATCH_SIZE

def localCommit (sessionId : String) (randomnessEpoch secretCount : Option Nat) :
    Except Failure DealerState := do
  let created ← state.createBatch config sessionId (randomnessEpoch.getD 0)
      (secretCount.getD DEFAULT_BATCH_SIZE)
  return created.1.record (.committed .localDealer sessionId created.2)

/-- The seed or deck of a hand was derived by the local dealer. -/
def localDerivation (sessionId : String) (batch : SecretBatch)
    (handNumber : Nat) (vrfWord : String) (secretIndex : Nat) : DealerEvent :=
  .derived ⟨.localDealer, sessionId, batch, handNumber, secretIndex,
      normalizeBytes32 config.hashes vrfWord⟩

def localHandSeed (batch : SecretBatch) (sessionId : String)
    (handNumber : Nat) (vrfWord : String) (secretIndex : Nat) :
    Except Failure DealerState := do
  let _ ← deriveHandSeed config batch secretIndex
      (normalizeBytes32 config.hashes vrfWord) "secretIndex out of range"
  return state.record (localDerivation config sessionId batch handNumber vrfWord secretIndex)

def localPrepareDeck (batch : SecretBatch) (sessionId : String)
    (handNumber : Nat) (vrfWord : String) (secretIndex : Nat) :
    Except Failure DealerState := do
  let _ ← prepareDeckForHand config batch handNumber secretIndex
      (normalizeBytes32 config.hashes vrfWord) "secretIndex out of range"
  return state.record (localDerivation config sessionId batch handNumber vrfWord secretIndex)

def localOpenPublicCard (batch : SecretBatch) (sessionId : String)
    (handNumber : Nat) (vrfWord : String) (secretIndex position : Nat) :
    Except Failure DealerState := do
  let prepared ← prepareDeckForHand config batch handNumber secretIndex
      (normalizeBytes32 config.hashes vrfWord) "secretIndex out of range"
  let opening ← openCard config.hashes prepared position
  if verifyMerkleProof config.hashes opening.cardLeaf opening.proof prepared.deckRoot then
    let derived :=
      state.record (localDerivation config sessionId batch handNumber vrfWord secretIndex)
    return derived.record (.opened .localDealer
        ⟨sessionId, batch.epoch, handNumber, prepared.deckRoot⟩ opening)
  else .error (.threw "proof self-check failed")

end DealerState

/-! ## Bodies -/

/-- What the schemas of the bodies accept. -/
def DealerCall.parses : DealerCall → Prop
  | .commitBatch sessionId _ secretCount =>
    sessionId ≠ "" ∧ ∀ count ∈ secretCount, 1 ≤ count ∧ count ≤ 256
  | .bindVrf sessionId _ vrfRequestId vrfResultHash =>
    sessionId ≠ "" ∧ vrfRequestId ≠ "" ∧ vrfResultHash ≠ ""
  | .prepareDecks sessionId _ handNumbers secretIndices vrfWord =>
    sessionId ≠ "" ∧ vrfWord ≠ "" ∧ (1 ≤ handNumbers.length ∧ handNumbers.length ≤ 256) ∧
        (1 ≤ secretIndices.length ∧ secretIndices.length ≤ 256) ∧
          ∀ index ∈ secretIndices, index ≤ 255
  | .openPublicCard sessionId _ _ secretIndex vrfWord position =>
    sessionId ≠ "" ∧ vrfWord ≠ "" ∧ secretIndex ≤ 255 ∧ position ≤ 51
  | .deliverPrivateCards sessionId _ _ secretIndex vrfWord deals =>
    sessionId ≠ "" ∧ vrfWord ≠ "" ∧ secretIndex ≤ 255 ∧ (1 ≤ deals.length ∧ deals.length ≤ 9) ∧
        ∀ deal ∈ deals, deal.1 ≤ 9 ∧ (1 ≤ deal.2.length ∧ deal.2.length ≤ 2) ∧
            ∀ position ∈ deal.2, position ≤ 51
  | .localCommit sessionId _ secretCount =>
    sessionId ≠ "" ∧ ∀ count ∈ secretCount, 1 ≤ count ∧ count ≤ 256
  | .localHandSeed sessionId _ vrfWord secretIndex =>
    sessionId ≠ "" ∧ vrfWord ≠ "" ∧ secretIndex ≤ 255
  | .localPrepareDeck sessionId _ vrfWord secretIndex =>
    sessionId ≠ "" ∧ vrfWord ≠ "" ∧ secretIndex ≤ 255
  | .localOpenPublicCard sessionId _ vrfWord secretIndex position =>
    sessionId ≠ "" ∧ vrfWord ≠ "" ∧ secretIndex ≤ 255 ∧ position ≤ 51

instance (call : DealerCall) : Decidable call.parses := by
  cases call <;> exact inferInstanceAs (Decidable (_ ∧ _))

/-! ## Runs -/

namespace DealerState

variable (state : DealerState)

/-- A call of the local dealer, on the batch of its session. -/
def onBatch (sessionId : String) (answer : DealerState → SecretBatch → Except Failure DealerState) :
    Except Failure DealerState :=
  match state.resolveBatch config sessionId with
  | .error failure => .error failure
  | .ok (resolved, batch) =>
    -- a batch that was created stays, whether the call throws or not
    match answer resolved batch with
    | .ok after => .ok after
    | .error _ => .ok resolved

def answer : DealerCall → Except Failure DealerState
  | .commitBatch sessionId epoch secretCount =>
    state.commitBatch config sessionId epoch secretCount
  | .bindVrf sessionId epoch vrfRequestId vrfResultHash =>
    state.bindVrf config sessionId epoch vrfRequestId vrfResultHash
  | .prepareDecks sessionId epoch handNumbers secretIndices vrfWord =>
    state.prepareDecks config sessionId epoch handNumbers secretIndices vrfWord
  | .openPublicCard sessionId epoch handNumber secretIndex vrfWord position =>
    state.openPublicCard config sessionId epoch handNumber secretIndex vrfWord position
  | .deliverPrivateCards sessionId epoch handNumber secretIndex vrfWord deals =>
    state.deliverPrivateCards config sessionId epoch handNumber secretIndex vrfWord deals
  | .localCommit sessionId randomnessEpoch secretCount =>
    state.localCommit config sessionId randomnessEpoch secretCount
  | .localHandSeed sessionId handNumber vrfWord secretIndex =>
    state.onBatch config sessionId fun resolved batch =>
      resolved.localHandSeed config batch sessionId handNumber vrfWord secretIndex
  | .localPrepareDeck sessionId handNumber vrfWord secretIndex =>
    state.onBatch config sessionId fun resolved batch =>
      resolved.localPrepareDeck config batch sessionId handNumber vrfWord secretIndex
  | .localOpenPublicCard sessionId handNumber vrfWord secretIndex position =>
    state.onBatch config sessionId fun resolved batch =>
      resolved.localOpenPublicCard config batch sessionId handNumber vrfWord secretIndex position

/-- A call that does not parse or throws is refused. -/
def step (call : DealerCall) : Except Failure DealerState :=
  if call.parses then state.answer config call
  else .error (.threw "bad request")

end DealerState

/-- The dealers have just been started. -/
structure Started (state : DealerState) : Prop where
  sessions : state.sessions = fun _ => none
  batches : state.batches = fun _ => none
  log : state.log = []

/-- All sequences of calls; one that is refused changes nothing. -/
def dealerRuns : System DealerState DealerCall Failure where
  initial := Started
  step := DealerState.step config

end Handlers

end Mozetto.DealerEnclave

/-!
## What binds the dealers

Each answer of the dealers is judged by the answers before it: secrets and
roots stay as they were committed, one VRF result is bound and every deck is
derived from it, cards verify against decks that are attested, a secret serves
one hand, and no card is both delivered and opened.  No call asks for any of
this.  Calls in order are those whose caller keeps to it.
-/

namespace Mozetto.DealerEnclave

open Mozetto.Chain
open Mozetto.Dealer (Hashes normalizeBytes32)

/-! ### Reading the answers -/

namespace DealerEvent

def committedBatch (dealer : Dealer) (sessionId : String) : DealerEvent → Option SecretBatch
  | .committed other session batch =>
    if other = dealer ∧ session = sessionId then some batch else none
  | _ => none

def boundResult (sessionId : String) (epoch : Nat) : DealerEvent → Option Bytes32
  | .bound session other _ vrfResultHash =>
    if session = sessionId ∧ other = epoch then some vrfResultHash else none
  | _ => none

def derivation : DealerEvent → Option Derivation
  | .derived derivation => some derivation
  | _ => none

def attestedDecks (sessionId : String) (epoch : Nat) : DealerEvent → Option AttestedDecks
  | .attested session decks =>
    if session = sessionId ∧ decks.attestation.epoch = epoch then some decks
    else none
  | _ => none

end DealerEvent

/-- The session, epoch and number of a hand. -/
abbrev HandKey : Type := String × Nat × Nat

def DealtHand.key (hand : DealtHand) : HandKey := (hand.sessionId, hand.epoch, hand.handNumber)

namespace DealerEvent

def openedPositions (hand : HandKey) : DealerEvent → List Nat
  | .opened _ dealt opening =>
    if dealt.key = hand then [opening.position] else []
  | _ => []

def deliveredPositions (hand : HandKey) : DealerEvent → List Nat
  | .delivered dealt _ cards =>
    if dealt.key = hand then cards.map (·.position) else []
  | _ => []

end DealerEvent

section Readings

variable (log : List DealerEvent)

def commits (dealer : Dealer) (sessionId : String) : List SecretBatch :=
  log.filterMap (DealerEvent.committedBatch dealer sessionId)

def bindings (sessionId : String) (epoch : Nat) : List Bytes32 :=
  log.filterMap (DealerEvent.boundResult sessionId epoch)

def derivations : List Derivation := log.filterMap DealerEvent.derivation

/-- What was attested last for a session and epoch. -/
def attestedDecks (sessionId : String) (epoch : Nat) : Option AttestedDecks :=
  log.findSome? (DealerEvent.attestedDecks sessionId epoch)

def openedPositions (hand : HandKey) : List Nat := log.flatMap (DealerEvent.openedPositions hand)

def deliveredPositions (hand : HandKey) : List Nat :=
  log.flatMap (DealerEvent.deliveredPositions hand)

end Readings

/-! ### The law -/

section Law

variable (hashes : Hashes) (resultHash : Bytes32 → Bytes32)

/-- Secrets and a root are those committed to earlier, if any were. -/
def Committed (earlier : List DealerEvent) (dealer : Dealer)
    (sessionId : String) (batch : SecretBatch) : Prop :=
  ∀ other ∈ commits earlier dealer sessionId, other.epoch = batch.epoch →
      other.secrets = batch.secrets ∧ other.root = batch.root

/-- A VRF word is the bound result. -/
def WordBound (earlier : List DealerEvent) (sessionId : String) (epoch : Nat)
    (vrfR : Bytes32) : Prop := resultHash vrfR ∈ bindings earlier sessionId epoch

/-- A secret has served no other hand. -/
def IndexFor (earlier : List DealerEvent) (dealer : Dealer)
    (sessionId : String) (epoch secretIndex handNumber : Nat) : Prop :=
  ∀ other ∈ derivations earlier, other.dealer = dealer ∧ other.sessionId = sessionId ∧
        other.batch.epoch = epoch ∧ other.secretIndex = secretIndex → other.handNumber = handNumber

/-- The deck of a hand is a leaf of the deck batch attested last. -/
def DeckAttested (earlier : List DealerEvent) (hand : DealtHand) : Prop :=
  ∃ decks, attestedDecks earlier hand.sessionId hand.epoch = some decks ∧
    decks.attestation.deckBatchRoot = merkleRoot hashes (decks.hands.map (·.deckRoot)) ∧
      ∃ attested ∈ decks.hands, attested.handNumber = hand.handNumber ∧
          attested.deckRoot = hand.deckRoot

/-- A card verifies against the deck of its hand. -/
def CardVerifies (hand : DealtHand) (card : CardOpening) : Prop :=
  verifyMerkleProof hashes card.cardLeaf card.proof hand.deckRoot = true

/-- An answer follows from those before it. -/
def Follows (earlier : List DealerEvent) : DealerEvent → Prop
  | .committed dealer sessionId batch =>
    Committed earlier dealer sessionId batch
  | .bound sessionId epoch _ _ => bindings earlier sessionId epoch = []
  | .derived derivation =>
    Committed earlier derivation.dealer derivation.sessionId derivation.batch ∧
      WordBound resultHash earlier derivation.sessionId derivation.batch.epoch derivation.vrfR ∧
        IndexFor earlier derivation.dealer derivation.sessionId
          derivation.batch.epoch derivation.secretIndex derivation.handNumber
  | .attested sessionId decks =>
    decks.attestation.deckBatchRoot = merkleRoot hashes (decks.hands.map (·.deckRoot)) ∧
      ∀ other ∈ commits earlier .enclave sessionId, other.epoch = decks.attestation.epoch →
          other.root = decks.attestation.dealerSecretRoot
  | .opened _ hand opening =>
    DeckAttested hashes earlier hand ∧ CardVerifies hashes hand opening ∧
      opening.position ∉ deliveredPositions earlier hand.key
  | .delivered hand _ cards =>
    DeckAttested hashes earlier hand ∧ ∀ card ∈ cards, CardVerifies hashes hand card ∧
          card.position ∉ openedPositions earlier hand.key

/-- Every answer follows from those before it; the latest comes first. -/
def Lawful : List DealerEvent → Prop
  | [] => True
  | event :: earlier => Follows hashes resultHash earlier event ∧ Lawful earlier

/-- The batch that the enclave holds. -/
def DealerState.held (state : DealerState) (key : String × Nat) :
    Option SecretBatch :=
  (state.sessions key).map (·.toSecretBatch)

/-- A batch that was committed to is still the one that is held. -/
def DealerState.Keeps (state : DealerState) (sessionId : String)
    (batch : SecretBatch) : Dealer → Prop
  | .enclave => state.held (sessionId, batch.epoch) = some batch
  | .localDealer =>
    ∃ held, state.batches sessionId = some held ∧ (held.epoch = batch.epoch → held = batch)

/-- The dealers are bound by what they have answered. -/
structure DealerState.Bound (state : DealerState) : Prop where
  lawful : Lawful hashes resultHash state.log
  keeps : ∀ dealer sessionId, ∀ batch ∈ commits state.log dealer sessionId,
      state.Keeps sessionId batch dealer

end Law

/-! ### Calls in order -/

section Order

variable (hashes : Hashes) (resultHash : Bytes32 → Bytes32)

namespace DealerState

variable (state : DealerState)

/-- A hand may be derived: from the bound word and a secret of its own. -/
def MayDerive (dealer : Dealer) (sessionId : String) (epoch : Nat)
    (vrfWord : String) (hand : Nat × Nat) : Prop :=
  WordBound resultHash state.log sessionId epoch (normalizeBytes32 hashes vrfWord) ∧
    IndexFor state.log dealer sessionId epoch hand.2 hand.1

/-- A hand is one of those attested last, from the same word. -/
def HandAttested (sessionId : String) (epoch : Nat) (vrfWord : String) (hand : Nat × Nat) : Prop :=
  ∃ decks ∈ attestedDecks state.log sessionId epoch, decks.vrfR = normalizeBytes32 hashes vrfWord ∧
      ∃ attested ∈ decks.hands, attested.handNumber = hand.1 ∧ attested.secretIndex = hand.2

/-- The epoch of the batch that the local dealer answers from. -/
def localEpoch (sessionId : String) : Nat := ((state.batches sessionId).map (·.epoch)).getD 0

/--
Nothing is committed or bound twice for a session and epoch.  The enclave
derives from the bound word and with one hand for each secret, opens and
delivers cards of attested hands, and not the same.  The local dealer opens
none.
-/
def InOrder : DealerCall → Prop
  | .commitBatch sessionId epoch _ =>
    ∀ batch ∈ commits state.log .enclave sessionId, batch.epoch ≠ epoch
  | .bindVrf sessionId epoch _ _ => bindings state.log sessionId epoch = []
  | .prepareDecks sessionId epoch handNumbers secretIndices vrfWord =>
    (∀ hand ∈ handNumbers.zip secretIndices,
        state.MayDerive hashes resultHash .enclave sessionId epoch vrfWord hand) ∧
      (handNumbers.zip secretIndices).Pairwise fun first second =>
        first.2 = second.2 → first.1 = second.1
  | .openPublicCard sessionId epoch handNumber secretIndex vrfWord position =>
    state.MayDerive hashes resultHash .enclave sessionId epoch vrfWord (handNumber, secretIndex) ∧
      state.HandAttested hashes sessionId epoch vrfWord (handNumber, secretIndex) ∧ position ∉
          deliveredPositions state.log (sessionId, epoch, handNumber)
  | .deliverPrivateCards sessionId epoch handNumber secretIndex vrfWord deals =>
    state.MayDerive hashes resultHash .enclave sessionId epoch vrfWord (handNumber, secretIndex) ∧
      state.HandAttested hashes sessionId epoch vrfWord (handNumber, secretIndex) ∧
        ∀ deal ∈ deals, ∀ position ∈ deal.2, position ∉
            openedPositions state.log (sessionId, epoch, handNumber)
  | .localCommit sessionId randomnessEpoch _ =>
    ∀ batch ∈ commits state.log .localDealer sessionId, batch.epoch ≠ randomnessEpoch.getD 0
  | .localHandSeed sessionId handNumber vrfWord secretIndex =>
    state.MayDerive hashes resultHash .localDealer sessionId
      (state.localEpoch sessionId) vrfWord (handNumber, secretIndex)
  | .localPrepareDeck sessionId handNumber vrfWord secretIndex =>
    state.MayDerive hashes resultHash .localDealer sessionId
      (state.localEpoch sessionId) vrfWord (handNumber, secretIndex)
  | .localOpenPublicCard _ _ _ _ _ => False

end DealerState

instance (earlier : List DealerEvent) (sessionId : String) (epoch : Nat) (vrfR : Bytes32) :
    Decidable (WordBound resultHash earlier sessionId epoch vrfR) :=
  inferInstanceAs (Decidable (_ ∈ _))

instance (earlier : List DealerEvent) (dealer : Dealer) (sessionId : String)
    (epoch secretIndex handNumber : Nat) : Decidable
    (IndexFor earlier dealer sessionId epoch secretIndex handNumber) :=
  inferInstanceAs (Decidable (∀ other ∈ derivations earlier, _ → _))

instance (state : DealerState) (dealer : Dealer) (sessionId : String)
    (epoch : Nat) (vrfWord : String) (hand : Nat × Nat) : Decidable
    (state.MayDerive hashes resultHash dealer sessionId epoch vrfWord hand) :=
  inferInstanceAs (Decidable (_ ∧ _))

instance (state : DealerState) (sessionId : String) (epoch : Nat)
    (vrfWord : String) (hand : Nat × Nat) :
    Decidable (state.HandAttested hashes sessionId epoch vrfWord hand) :=
  inferInstanceAs (Decidable (∃ decks ∈ _, _ ∧ ∃ attested ∈ _, _ ∧ _))

instance (state : DealerState) (call : DealerCall) :
    Decidable (state.InOrder hashes resultHash call) :=
  match call with
  | .commitBatch sessionId _ _ =>
    inferInstanceAs (Decidable (∀ batch ∈ commits state.log .enclave sessionId, _))
  | .bindVrf _ _ _ _ => inferInstanceAs (Decidable (_ = []))
  | .prepareDecks _ _ handNumbers secretIndices _ =>
    inferInstanceAs (Decidable ((∀ hand ∈ handNumbers.zip secretIndices, _) ∧ List.Pairwise _ _))
  | .openPublicCard _ _ _ _ _ _ => inferInstanceAs (Decidable (_ ∧ _ ∧ _ ∉ _))
  | .deliverPrivateCards _ _ _ _ _ deals =>
    inferInstanceAs (Decidable (_ ∧ _ ∧ ∀ deal ∈ deals, ∀ position ∈ deal.2, position ∉ _))
  | .localCommit sessionId _ _ =>
    inferInstanceAs (Decidable (∀ batch ∈ commits state.log .localDealer sessionId, _))
  | .localHandSeed _ _ _ _ => inferInstanceAs (Decidable (_ ∧ _))
  | .localPrepareDeck _ _ _ _ => inferInstanceAs (Decidable (_ ∧ _))
  | .localOpenPublicCard _ _ _ _ _ => inferInstanceAs (Decidable False)

end Order

end Mozetto.DealerEnclave
