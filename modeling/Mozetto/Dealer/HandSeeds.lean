import Mozetto.Chain.Basic

/-!
# Hand seeds

The seed of every on-chain hand comes from the dealer service, which derives
it from one of the secrets of the session's batch and the session's VRF word.
The game server asks for the secret at the hand number modulo `256`, and falls
back to a hash of its own request when the dealer does not answer.  Batches
live in the memory of the dealer process only.

What the dealer draws and hashes is a parameter, so that a run can be read
with the real hashes or symbolically.
-/

namespace Mozetto.Dealer

open Mozetto.Chain
open Mozetto.Library.Mapping

/-! ## Hashes and 32-byte words -/

/--
What `keccak256` is applied to: byte strings, and `abi.encode` of static
words, which is kept as its list of words.
-/
inductive HashInput where
  | bytes (raw : Bytes)
  | words (words : List Bytes32)

structure Hashes where
  keccak256 : HashInput → Bytes32
  sha256 : String → Bytes32

def isHexDigit (digit : Char) : Bool :=
  digit.isDigit || ('a' ≤ digit && digit ≤ 'f') || ('A' ≤ digit && digit ≤ 'F')

def hexDigitValue (digit : Char) : Nat :=
  if digit.isDigit then digit.toNat - 48
  else if 'a' ≤ digit then digit.toNat - 87
  else digit.toNat - 55

/-- The value of hexadecimal digits, most significant first. -/
def hexValue (digits : List Char) : Nat :=
  digits.foldl (fun value digit => value * 16 + hexDigitValue digit) 0

/-- The bytes of hexadecimal digits; an odd first digit is a byte of its own. -/
def hexBytes (digits : List Char) : Bytes := bytesOf ((digits.length + 1) / 2) (hexValue digits)

/-- `toBytes` of a string: hexadecimal data after `0x`, UTF-8 otherwise. -/
def stringBytes (raw : String) : Bytes :=
  match raw.toList with
  | '0' :: 'x' :: digits =>
      if digits.all isHexDigit then hexBytes digits else utf8 raw
  | _ => utf8 raw

/-- Without a leading `0x`. -/
def withoutHexPrefix (raw : String) : List Char :=
  match raw.toList with
  | '0' :: 'x' :: digits => digits
  | all => all

/-- 64 hexadecimal digits are taken as they are, other texts are hashed. -/
def normalizeBytes32 (hashes : Hashes) (raw : String) : Bytes32 :=
  let digits := withoutHexPrefix raw
  if digits.length = 64 ∧ digits.all isHexDigit then hexValue digits
  else hashes.keccak256 (.bytes (stringBytes raw))

/-- The session identifier as a word, by the same rule. -/
def sessionIdToBytes32 (hashes : Hashes) (sessionId : String) : Bytes32 :=
  normalizeBytes32 hashes sessionId

/-! ## Seeds -/

structure HandSeedParams where
  sessionId : String
  handNumber : Nat
  vrfWord : String
  secretIndex : Nat
deriving DecidableEq

/--
The seed string given to the engine: a derived seed is `0x` and a digest, a
fallback seed the bare digest.
-/
inductive ServerSeed where
  | derived (digest : Bytes32)
  | fallback (digest : Bytes32)
deriving DecidableEq

/-- The seed derivation of the randomness specification. -/
def handSeedV2 (hashes : Hashes) (secret vrfR sessionId : Bytes32) (epoch index : Nat) :
    ServerSeed :=
  .derived (hashes.keccak256 (.words
        [hashes.keccak256 (.bytes (utf8 "MOZETTO_HAND_SEED_V1")), secret,
          vrfR, sessionId, epoch, index]))

/-- The fallback when the dealer service is unreachable. -/
def fallbackHandSeed (hashes : Hashes) (params : HandSeedParams) :
    ServerSeed :=
  .fallback (hashes.sha256
      ("mozetto-poker-v1:" ++ params.sessionId ++ ":" ++
        toString params.handNumber ++ ":" ++ params.vrfWord ++ ":" ++
        toString params.secretIndex))

/-- Where secrets and seeds come from. -/
structure SeedSource (Secret Seed : Type) where
  randomBytes : Nat → Secret
  handSeed : Secret → Bytes32 → Bytes32 → Nat → Nat → Seed
  fallbackHandSeed : HandSeedParams → Seed

/-- The real source; `draws` are the dealer's successive random values. -/
def dealerSource (hashes : Hashes) (draws : Nat → Bytes32) : SeedSource Bytes32 ServerSeed where
  randomBytes := draws
  handSeed := handSeedV2 hashes
  fallbackHandSeed := Dealer.fallbackHandSeed hashes

/-! ## The dealer and the game server -/

structure DealerBatch (Secret : Type) where
  sessionIdBytes32 : Bytes32
  randomnessEpoch : Nat
  secrets : List Secret
deriving DecidableEq

/-- A started hand; `batch` is the batch the dealer answered from, if any. -/
structure HandRecord (Secret Seed : Type) where
  handNumber : Nat
  vrfWord : String
  batch : Option (DealerBatch Secret)
  serverSeed : Seed

/--
The dealer's batches, how many secrets it has drawn, the fulfilled VRF words
of the session, and the hands of its table, the latest first.
-/
structure SeedState (Secret Seed : Type) where
  batches : String → Option (DealerBatch Secret)
  drawn : Nat
  fulfillments : List String
  handNumber : Nat
  hands : List (HandRecord Secret Seed)
  live : Option Seed
  revealed : List Seed

/-- What becomes of a request to the dealer. -/
inductive DealerReply where
  | unreachable
  | lost
  | answered
deriving DecidableEq

/--
What happens around the hands of one session.  `resolve` stands for the
dealer's other routes, which create a missing batch as well; a `beginHand`
has passed the gates before the seed is fetched.
-/
inductive SeedCall where
  | commit (sessionId : String) (randomnessEpoch secretCount : Option Nat)
  | resolve (sessionId : String)
  | restartDealer
  | fulfill (vrfWord : String)
  | beginHand (vrfRead : Bool) (reply : DealerReply) (inserted : Bool)
  | settleHand
  | resetToWaiting
deriving DecidableEq

section Steps

variable {Secret Seed : Type}
variable (hashes : Hashes) (source : SeedSource Secret Seed)

abbrev defaultBatchSize : Nat := 256

/-- A new batch; the encoding of its leaves fails on a too large epoch. -/
def createBatch (state : SeedState Secret Seed) (sessionId : String)
    (randomnessEpoch secretCount : Nat) : SeedState Secret Seed × Option (DealerBatch Secret) :=
  let secrets := (List.range secretCount).map fun i => source.randomBytes (state.drawn + i)
  let drawn := { state with drawn := state.drawn + secretCount }
  if randomnessEpoch < uint64Size then
    let batch : DealerBatch Secret :=
      { sessionIdBytes32 := sessionIdToBytes32 hashes sessionId
        randomnessEpoch := randomnessEpoch
        secrets := secrets }
    ({ drawn with batches := write state.batches sessionId (some batch) }, some batch)
  else (drawn, none)

/-- The batch of a session, created when the process has none. -/
def resolveBatch (state : SeedState Secret Seed) (sessionId : String) :
    SeedState Secret Seed × Option (DealerBatch Secret) :=
  match state.batches sessionId with
  | some batch => (state, some batch)
  | none => createBatch hashes source state sessionId 0 defaultBatchSize

/-- `none` when the secret index is out of range. -/
def deriveHandSeed (batch : DealerBatch Secret) (params : HandSeedParams) : Option Seed :=
  (batch.secrets[params.secretIndex]?).map fun secret =>
    source.handSeed secret (normalizeBytes32 hashes params.vrfWord)
      batch.sessionIdBytes32 batch.randomnessEpoch params.secretIndex

/--
The route `/v1/dealer/hand-seed`; the batch stands for the `dealerRoot` of
the response.
-/
def answerHandSeed (state : SeedState Secret Seed) (params : HandSeedParams) :
    SeedState Secret Seed × Option (DealerBatch Secret × Seed) :=
  if params.sessionId = "" ∨ params.vrfWord = "" ∨ 255 < params.secretIndex
  then (state, none)
  else
    match resolveBatch hashes source state params.sessionId with
    | (resolved, none) => (resolved, none)
    | (resolved, some batch) =>
        (resolved, (deriveHandSeed hashes source batch params).map fun handSeed =>
            (batch, handSeed))

def fetchHandSeed (state : SeedState Secret Seed) (params : HandSeedParams) : DealerReply →
    SeedState Secret Seed × Option (DealerBatch Secret × Seed)
  | .unreachable => (state, none)
  | .lost => ((answerHandSeed hashes source state params).1, none)
  | .answered => answerHandSeed hashes source state params

/-- The request for the next hand's seed. -/
def handSeedParams (sessionId : String) (state : SeedState Secret Seed) (vrfRead : Bool) :
    HandSeedParams :=
  let nextHandNumber := state.handNumber + 1
  { sessionId := sessionId
    handNumber := nextHandNumber
    vrfWord := if vrfRead then state.fulfillments.head?.getD "0" else "0"
    secretIndex := nextHandNumber % 256 }

/-- The state after the request, and the hand that `startHand` is to start. -/
def prepareHand (sessionId : String) (state : SeedState Secret Seed) (vrfRead : Bool)
    (reply : DealerReply) : SeedState Secret Seed × HandRecord Secret Seed :=
  let params := handSeedParams sessionId state vrfRead
  let (asked, fromDealer) := fetchHandSeed hashes source state params reply
  (asked,
    { handNumber := params.handNumber
      vrfWord := params.vrfWord
      batch := fromDealer.map Prod.fst
      serverSeed :=
        match fromDealer with
        | some (_, handSeed) => handSeed
        | none => source.fallbackHandSeed params })

/-- The hand a call starts. -/
def startedHand (sessionId : String) (state : SeedState Secret Seed) :
    SeedCall → Option (HandRecord Secret Seed)
  | .beginHand vrfRead reply true =>
      some (prepareHand hashes source sessionId state vrfRead reply).2
  | _ => none

/-- One call; a hand whose row was not inserted does not exist. -/
def step (sessionId : String) (state : SeedState Secret Seed) : SeedCall → SeedState Secret Seed
  | .commit committed randomnessEpoch secretCount =>
      let count := secretCount.getD defaultBatchSize
      if committed = "" ∨ count = 0 ∨ 256 < count then state
      else
        (createBatch hashes source state committed (randomnessEpoch.getD 0) count).1
  | .resolve resolved =>
      if resolved = "" then state
      else (resolveBatch hashes source state resolved).1
  | .restartDealer => { state with batches := fun _ => none }
  | .fulfill vrfWord =>
      { state with fulfillments := vrfWord :: state.fulfillments }
  | .beginHand vrfRead reply inserted =>
      let (asked, hand) := prepareHand hashes source sessionId state vrfRead reply
      if inserted then
        { asked with
          handNumber := hand.handNumber
          hands := hand :: asked.hands
          live := some hand.serverSeed }
      else { asked with live := none }
  | .settleHand =>
      { state with
        live := none
        revealed := state.live.toList ++ state.revealed }
  | .resetToWaiting => { state with live := none }

/-- A run of calls. -/
def run (sessionId : String) (state : SeedState Secret Seed)
    (calls : List SeedCall) : SeedState Secret Seed :=
  calls.foldl (step hashes source sessionId) state

end Steps

/-- The dealer process has just started and no hand of the session has. -/
def SeedState.initially {Secret Seed : Type} (handNumber : Nat) (fulfillments : List String) :
    SeedState Secret Seed where
  batches := fun _ => none
  drawn := 0
  fulfillments := fulfillments
  handNumber := handNumber
  hands := []
  live := none
  revealed := []

end Mozetto.Dealer
