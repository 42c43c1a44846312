import Mozetto.Engine.Cards
import Mozetto.Outbox.AbiWords
import Mozetto.Outbox.Schema

/-!
# What the hash of a public payload binds

A payload reports an acting seat with an amount, a blind, the cards of a
street or, for all other events, its JSON text.  The hash of the payload is
compared with what is reported.
-/

namespace Mozetto.Outbox

open Mozetto.Engine
open Mozetto.EventStore
open Mozetto.Library.Guarded
open JsValue

/-! ## What a payload reports -/

inductive Facts where
  | action (seat amount : Nat)
  | blind (seat amount : Nat)
  | street (cards : List Card)
  | other (text : String)
deriving DecidableEq

/-- A card given as an object of the engine, as a text or as a code. -/
inductive GivesCard : JsValue → Card → Prop where
  | object {fields : List (String × JsValue)} {card : Card}
      (rank : get fields "rank" = .string card.rank.letter)
      (suit : get fields "suit" = .string card.suit.letter) :
      GivesCard (.object fields) card
  | text (card : Card) : GivesCard (.string (cardKey card)) card
  | code (card : Card) : GivesCard (.number (.finite (cardCode card))) card

/-- The cards of a street; no cards are given by leaving them out. -/
inductive GivesBoard : JsValue → List Card → Prop where
  | absent {value : JsValue} (nullish : value.isNullish = true) : GivesBoard value []
  | cards {values : List JsValue} {cards : List Card} (each : List.Forall₂ GivesCard values cards) :
      GivesBoard (.array values) cards

inductive GivesAmount : JsValue → Nat → Prop where
  | bigint (amount : Nat) : GivesAmount (.bigint amount) amount
  | number (amount : Nat) : GivesAmount (.number (.finite amount)) amount
  | text {text : String} {amount : Nat} (digits : decimal text = some amount) :
      GivesAmount (.string text) amount

section Events

variable (runtime : Runtime) (viem : Viem)

inductive GivesSeat : JsValue → Nat → Prop where
  | number (seat : Nat) : GivesSeat (.number (.finite seat)) seat
  | text {text : String} {seat : Nat} (written : isBlank text = false)
      (read : runtime.number text = some (seat : ℚ)) : GivesSeat (.string text) seat

/-- What a payload tells under a type code. -/
inductive Tells (code : Int) (payload : Payload) : Facts → Prop where
  | action {seat amount : Nat} (known : code ∈ actionCodes)
      (actor : GivesSeat runtime (seatField payload) seat)
      (chips : GivesAmount (amountField payload) amount) : Tells code payload (.action seat amount)
  | blind {seat amount : Nat}
      (known : code = typeCode "POST_BLIND")
      (actor : GivesSeat runtime (seatField payload) seat)
      (chips : GivesAmount (amountField payload) amount) :
      Tells code payload (.blind seat amount)
  | street {cards : List Card} (known : code ∈ streetCodes)
      (board : GivesBoard (cardsField payload) cards) : Tells code payload (.street cards)
  | other {text : String}
      (known :
        code ∉ actionCodes ∧ code ≠ typeCode "POST_BLIND" ∧ code ∉ streetCodes)
      (written : stringify runtime payload = .ok text) :
      Tells code payload (.other text)

/-- A mapped event and what it reports. -/
structure Reports (eventType : String) (payload : Payload) (code : Int) (facts : Facts) : Prop where
  mapped : mapEventTypeCode runtime eventType (some payload) = some code
  told : Tells runtime code payload facts

/-! ## Binding -/

/-- The hash of the public payload of an event. -/
def payloadHash (code : Int) (payload : Payload) : Except String Hex :=
  PublicHash.publicPayloadHash <$> encodePokerEventV1PublicHash runtime viem code payload

/-- The hash that a street's cards have by their canonical codes. -/
def streetHash (cards : List Card) : Except String Hex :=
  hashStreetPayload viem (cards.map fun card => (cardCode card : Int))

/-- Both are computed, and they differ. -/
def Differ (left right : Except String Hex) : Prop :=
  ∃ hash hash', left = .ok hash ∧ right = .ok hash' ∧ hash ≠ hash'

/--
Two events of one code whose facts differ have different hashes, and the hash
of a street is that of its canonical card codes.
-/
structure Binds (code : Int) (left right : Payload) (facts facts' : Facts) : Prop where
  differ : facts ≠ facts' → Differ (payloadHash runtime viem code left)
        (payloadHash runtime viem code right)
  canonical : ∀ cards, facts = .street cards →
      payloadHash runtime viem code left = streetHash viem cards
  canonical' : ∀ cards, facts' = .street cards →
      payloadHash runtime viem code right = streetHash viem cards

/-- The facts fit the words they are encoded in. -/
def Facts.Fits : Facts → Prop
  | action seat amount => seat < 2 ^ 8 ∧ amount < 2 ^ 256
  | blind seat amount => seat < 2 ^ 8 ∧ amount < 2 ^ 256
  | street cards => cards.length ≤ 5
  | other _ => True

/--
A card given by its code is kept; one given as a text is kept when the first
byte of the text's hash happens to be its code; of the objects only the two
of clubs, whose code is zero, is kept.
-/
def KeepsCard : JsValue → Card → Prop
  | .number _, _ => True
  | .string text, card =>
      firstByte (viem.keccak256 (viem.toBytes text)) % 256 = cardCode card
  | _, card => card = ⟨.two, .c⟩

/-- All cards of a street of at most five cards are kept. -/
def KeepsBoard (payload : Payload) : Facts → Prop
  | .street cards =>
      cards.length ≤ 5 → ∀ values, cardsField payload = .array values →
          List.Forall₂ (KeepsCard viem) values cards
  | _ => True

end Events

variable {runtime : Runtime} {viem : Viem}
variable {code : Int} {payload left right : Payload}
variable {facts facts' : Facts}

/-! ## Reading a payload -/

theorem asSeat_of_gives {seat : Nat} (gives : GivesSeat runtime (seatField payload) seat) :
    asSeat runtime payload = some (seat : ℚ) := by
  rw [asSeat]
  generalize seatField payload = value at gives
  cases gives with
  | number => rfl
  | text written read => simp [written, read]

theorem toBigInt_natCast (seat : Nat) : toBigInt runtime (seat : ℚ) = .ok (seat : Int) := by
  rw [toBigInt, Rat.den_natCast, if_pos rfl, Rat.num_natCast]

theorem asAmount_of_gives {amount : Nat} (gives : GivesAmount (amountField payload) amount) :
    asAmount payload = amount := by
  rw [asAmount]
  generalize amountField payload = value at gives
  cases gives with
  | bigint => rfl
  | number => simp [truncate]
  | text digits => simp [digits]

theorem length_cardCodes {cards : List Card} (board : GivesBoard (cardsField payload) cards) :
    (cardCodes viem payload).length = cards.length := by
  rw [cardCodes]
  generalize cardsField payload = value at board
  cases board with
  | absent nullish => cases value <;> first | rfl | cases nullish
  | cards each => simpa using each.length_eq

/-- A card is kept exactly when the bridge takes its code for it. -/
theorem keepsCard_iff {value : JsValue} {card : Card} (gives : GivesCard value card) :
    KeepsCard viem value card ↔ codeOfCard viem value % 256 = (cardCode card : Int) % 256 := by
  have small := cardCode_lt card
  cases gives with
  | object rank suit =>
    rw [KeepsCard, codeOfCard]
    constructor
    · rintro rfl
      rfl
    · intro equal
      apply cardCode_injective
      show cardCode card = 0
      omega
    all_goals simp
  | text =>
    rw [KeepsCard, codeOfCard]
    omega
  | code => simp [KeepsCard, codeOfCard, truncate]

theorem keepsBoard_iff {cards : List Card} (board : GivesBoard (cardsField payload) cards) :
    KeepsBoard viem payload (.street cards) ↔ (cards.length ≤ 5 →
        (cardCodes viem payload).map (· % 256) =
          cards.map fun card => (cardCode card : Int) % 256) := by
  simp only [KeepsBoard, cardCodes]
  generalize cardsField payload = value at board
  cases board with
  | absent nullish => cases value <;> simp
  | @cards values cards each =>
    refine imp_congr_right fun few => ?_
    simp only [JsValue.array.injEq, forall_eq', List.map_map]
    clear few
    induction each with
    | nil => simp
    | cons first rest induction =>
      rw [List.forall₂_cons, List.map_cons, List.map_cons,
        List.cons.injEq, induction, keepsCard_iff first]
      rfl

/-! ## The hash of each kind of event -/

theorem payloadHash_action {seat amount : Nat} (known : code ∈ actionCodes)
    (actor : GivesSeat runtime (seatField payload) seat)
    (chips : GivesAmount (amountField payload) amount) : payloadHash runtime viem code payload =
    hashActionPayload viem seat code amount := by
  rw [payloadHash, encodePokerEventV1PublicHash, if_pos known,
    asSeat_of_gives actor, asAmount_of_gives chips, Option.getD_some, toBigInt_natCast]
  show _ <$> (hashActionPayload viem seat code amount >>= _) = _
  cases hashActionPayload viem seat code amount <;> rfl

theorem payloadHash_blind
    {seat amount : Nat} (known : code = typeCode "POST_BLIND")
    (actor : GivesSeat runtime (seatField payload) seat)
    (chips : GivesAmount (amountField payload) amount) :
    payloadHash runtime viem code payload =
      hashBlindPayload viem seat amount := by
  have noAction : typeCode "POST_BLIND" ∉ actionCodes := by decide
  rw [known, payloadHash, encodePokerEventV1PublicHash, if_neg noAction,
    if_pos rfl, asSeat_of_gives actor, asAmount_of_gives chips, Option.getD_some, toBigInt_natCast]
  show _ <$> (hashBlindPayload viem seat amount >>= _) = _
  cases hashBlindPayload viem seat amount <;> rfl

theorem payloadHash_street (known : code ∈ streetCodes) : payloadHash runtime viem code payload =
    hashStreetPayload viem (cardCodes viem payload) := by
  have others : ∀ code ∈ streetCodes,
      code ∉ actionCodes ∧ code ≠ typeCode "POST_BLIND" := by
    decide
  rcases others code known with ⟨noAction, noBlind⟩
  rw [payloadHash, encodePokerEventV1PublicHash, if_neg noAction, if_neg noBlind, if_pos known]
  cases hashStreetPayload viem (cardCodes viem payload) <;> rfl

theorem payloadHash_other {text : String}
    (known :
      code ∉ actionCodes ∧ code ≠ typeCode "POST_BLIND" ∧ code ∉ streetCodes)
    (written : stringify runtime payload = .ok text) :
    payloadHash runtime viem code payload = .ok (viem.keccak256 (viem.toBytes text)) := by
  rw [payloadHash, encodePokerEventV1PublicHash, if_neg known.1,
    if_neg known.2.1, if_neg known.2.2, written]
  rfl

/-! ## Hashes that are kept apart -/

/-- Two hashes of one kind are computed and differ. -/
theorem differ_iff {left right : Except String Hex} {Fits Fits' Same : Prop}
    (computed : (∃ hash, left = .ok hash) ↔ Fits) (computed' : (∃ hash, right = .ok hash) ↔ Fits')
    (apart : ∀ hash, left = .ok hash → right = .ok hash → Same) (different : ¬ Same) :
    Differ left right ↔ Fits ∧ Fits' := by
  rw [← computed, ← computed']
  constructor
  · rintro ⟨hash, hash', ok, ok', -⟩
    exact ⟨⟨hash, ok⟩, hash', ok'⟩
  · rintro ⟨⟨hash, ok⟩, hash', ok'⟩
    refine ⟨hash, hash', ok, ok', ?_⟩
    rintro rfl
    exact different (apart hash ok ok')

section Numbers

variable {types : String} {widths : List Nat} {values others : List Int}

theorem exists_hash_iff (encodes : EncodesNumbers viem types widths) : (∃ hash,
    viem.keccak256 <$> enc viem types (values.map .number) = .ok hash) ↔
    List.Forall₂ FitsWord widths values := by
  rw [← encodes.accepted]
  constructor
  · rintro ⟨hash, hashed⟩
    rcases map_eq_ok_iff.mp hashed with ⟨bytes, encoded, -⟩
    exact ⟨bytes, encoded⟩
  · rintro ⟨bytes, encoded⟩
    exact ⟨viem.keccak256 bytes, map_eq_ok_iff.mpr ⟨bytes, encoded, rfl⟩⟩

theorem numbers_eq_of_hash (apart : KeepsApart viem) (encodes : EncodesNumbers viem types widths)
    {hash : Hex}
    (hashed : viem.keccak256 <$> enc viem types (values.map .number) = .ok hash)
    (hashed' : viem.keccak256 <$> enc viem types (others.map .number) = .ok hash) :
    values = others := by
  rcases map_eq_ok_iff.mp hashed with ⟨bytes, encoded, hashOf⟩
  rcases map_eq_ok_iff.mp hashed' with ⟨bytes', encoded', hashOf'⟩
  have same := apart.keccak bytes bytes' (hashOf.trans hashOf'.symm)
  exact encodes.injective values others bytes bytes' encoded encoded' same

theorem differ_numbers (apart : KeepsApart viem) (encodes : EncodesNumbers viem types widths)
    (different : values ≠ others) : Differ (viem.keccak256 <$> enc viem types (values.map .number))
      (viem.keccak256 <$> enc viem types (others.map .number)) ↔
    List.Forall₂ FitsWord widths values ∧
      List.Forall₂ FitsWord widths others :=
  differ_iff (exists_hash_iff encodes) (exists_hash_iff encodes)
    (fun _ => numbers_eq_of_hash apart encodes) different

end Numbers

theorem differ_action (apart : KeepsApart viem) {seat amount seat' amount' : Nat}
    (known : code ∈ actionCodes) (different : Facts.action seat amount ≠ .action seat' amount') :
    Differ (hashActionPayload viem seat code amount) (hashActionPayload viem seat' code amount') ↔
      (Facts.action seat amount).Fits ∧ (Facts.action seat' amount').Fits := by
  have small : ∀ code ∈ actionCodes, FitsWord 16 code := by decide
  have inWord := small code known
  have fits : ∀ seat amount : Nat, List.Forall₂ FitsWord [8, 16, 256] [(seat : Int), code, amount] ↔
        (Facts.action seat amount).Fits := by
    intro seat amount
    simp [FitsWord, Facts.Fits] at inWord ⊢
    omega
  have apartNumbers : [(seat : Int), code, amount] ≠ [(seat' : Int), code, amount'] := by
    intro same
    simp only [List.cons.injEq, Int.natCast_inj] at same
    exact different (by rw [same.1, same.2.2.1])
  rw [← fits, ← fits]
  exact differ_numbers apart apart.action apartNumbers

theorem differ_blind (apart : KeepsApart viem) {seat amount seat' amount' : Nat}
    (different : Facts.blind seat amount ≠ .blind seat' amount') :
    Differ (hashBlindPayload viem seat amount) (hashBlindPayload viem seat' amount') ↔
      (Facts.blind seat amount).Fits ∧ (Facts.blind seat' amount').Fits := by
  have fits : ∀ seat amount : Nat, List.Forall₂ FitsWord [8, 256] [(seat : Int), (amount : Int)] ↔
        (Facts.blind seat amount).Fits := by
    intro seat amount
    simp only [List.forall₂_cons, List.forall₂_nil_left_iff, and_true, FitsWord, Facts.Fits]
    omega
  have apartNumbers : [(seat : Int), (amount : Int)] ≠ [(seat' : Int), (amount' : Int)] := by
    intro same
    simp only [List.cons.injEq, Int.natCast_inj] at same
    exact different (by rw [same.1, same.2.1])
  rw [← fits, ← fits]
  exact differ_numbers apart apart.blind apartNumbers

section Cards

variable {codes others : List Int}

/-- What a street's hash is made of. -/
theorem hashStreetPayload_eq_ok_iff {hash : Hex} : hashStreetPayload viem codes = .ok hash ↔
    codes.length ≤ 5 ∧ ∃ bytes,
        viem.encodeAbiParameters "uint8 nCards, bytes32 cardsWord"
            [.number codes.length, .hex (wordHex (cardsWord codes))] = .ok bytes ∧
        viem.keccak256 bytes = hash := by
  rw [hashStreetPayload, revertIf_bind_eq_ok_iff, map_eq_ok_iff, gt_iff_lt, Nat.not_lt]
  rfl

theorem exists_streetHash_iff (apart : KeepsApart viem) :
    (∃ hash, hashStreetPayload viem codes = .ok hash) ↔ codes.length ≤ 5 := by
  constructor
  · rintro ⟨hash, hashed⟩
    exact (hashStreetPayload_eq_ok_iff.mp hashed).1
  · intro few
    have fits : cardsWord codes < 2 ^ 256 := by
      apply (cardsWord_lt codes).trans_le
      calc
        256 ^ codes.length ≤ 256 ^ 5 := Nat.pow_le_pow_right (by decide) few
        _ ≤ 2 ^ 256 := by decide
    rcases apart.street.accepted codes.length (cardsWord codes) (by omega)
      fits with ⟨bytes, encoded⟩
    exact ⟨viem.keccak256 bytes, hashStreetPayload_eq_ok_iff.mpr ⟨few, bytes, encoded, rfl⟩⟩

/-- Streets of one hash have as many cards, with the same codes. -/
theorem codes_eq_of_hash (apart : KeepsApart viem) {hash : Hex}
    (hashed : hashStreetPayload viem codes = .ok hash)
    (hashed' : hashStreetPayload viem others = .ok hash) :
    codes.map (· % 256) = others.map (· % 256) := by
  rcases hashStreetPayload_eq_ok_iff.mp hashed with ⟨-, bytes, encoded, hashOf⟩
  rcases hashStreetPayload_eq_ok_iff.mp hashed' with ⟨-, bytes', encoded', hashOf'⟩
  have same := apart.keccak bytes bytes' (hashOf.trans hashOf'.symm)
  rcases apart.street.injective _ _ _ _ bytes bytes' encoded encoded' same with ⟨lengths, words⟩
  exact cardsWord_injective lengths words

/-- The hash depends on the lowest byte of each code only. -/
theorem hashStreetPayload_congr (same : codes.map (· % 256) = others.map (· % 256)) :
    hashStreetPayload viem codes = hashStreetPayload viem others := by
  have lengths : codes.length = others.length := by
    simpa using congrArg List.length same
  have word : ∀ codes : List Int, cardsWord codes = (codes.map (· % 256)).foldr
          (fun byte word => byte.toNat + 256 * word) 0 := by
    intro codes
    rw [List.foldr_map]
    rfl
  rw [hashStreetPayload, hashStreetPayload, lengths, word codes, same, ← word others]

theorem hashStreetPayload_eq_iff
    (apart : KeepsApart viem) (lengths : codes.length = others.length) :
    hashStreetPayload viem codes = hashStreetPayload viem others ↔ (codes.length ≤ 5 →
        codes.map (· % 256) = others.map (· % 256)) := by
  constructor
  · intro equal few
    rcases (exists_streetHash_iff apart).mpr few with ⟨hash, hashed⟩
    exact codes_eq_of_hash apart hashed (equal ▸ hashed)
  · intro same
    by_cases few : codes.length ≤ 5
    · exact hashStreetPayload_congr (same few)
    · have many : others.length > 5 := by omega
      rw [hashStreetPayload, hashStreetPayload, revertIf, revertIf,
        if_pos (Nat.not_le.mp few), if_pos many]
      rfl

end Cards

theorem differ_street (apart : KeepsApart viem) {cards cards' : List Card}
    (different : Facts.street cards ≠ .street cards') :
    Differ (streetHash viem cards) (streetHash viem cards') ↔
      (Facts.street cards).Fits ∧ (Facts.street cards').Fits := by
  have computed : ∀ cards : List Card, (∃ hash, streetHash viem cards = .ok hash) ↔
        (Facts.street cards).Fits := by
    intro cards
    rw [streetHash, exists_streetHash_iff apart, List.length_map]
    rfl
  refine differ_iff (computed cards) (computed cards')
    (fun hash hashed hashed' => codes_eq_of_hash apart hashed hashed') ?_
  intro same
  rw [List.map_map, List.map_map] at same
  have byte : Function.Injective fun card => (cardCode card : Int) % 256 := by
    intro card other equal
    have small := cardCode_lt card
    have small' := cardCode_lt other
    exact cardCode_injective (by simp only at equal; omega)
  exact different (congrArg Facts.street (byte.list_map same))

theorem differ_other (apart : KeepsApart viem) {text text' : String}
    (written : stringify runtime left = .ok text) (written' : stringify runtime right = .ok text')
    (different : Facts.other text ≠ .other text') :
    Differ (.ok (viem.keccak256 (viem.toBytes text)))
      (.ok (viem.keccak256 (viem.toBytes text'))) := by
  have braced : ∀ {payload text}, stringify runtime payload = .ok text →
      ¬ ['0', 'x'].isPrefixOf text.toList := by
    intro payload text written
    rw [stringify] at written
    rcases bind_eq_ok_iff.mp written with ⟨texts, -, returned⟩
    rw [← pure_eq_ok_iff.mp returned]
    simp
  refine ⟨_, _, rfl, rfl, fun equal => different ?_⟩
  have bytes := apart.keccak _ _ equal
  rw [apart.text text text' (braced written) (braced written') bytes]

/-! ## What is bound -/

/-- A street has its canonical hash exactly when its cards are kept. -/
theorem canonical_iff (apart : KeepsApart viem) (told : Tells runtime code payload facts) :
    (∀ cards, facts = .street cards →
      payloadHash runtime viem code payload = streetHash viem cards) ↔
      KeepsBoard viem payload facts := by
  cases told with
  | action known actor chips => simp [KeepsBoard]
  | blind known actor chips => simp [KeepsBoard]
  | other known written => simp [KeepsBoard]
  | @street cards known board =>
    have lengths : (cardCodes viem payload).length =
        (cards.map fun card => (cardCode card : Int)).length := by
      rw [length_cardCodes board, List.length_map]
    simp only [Facts.street.injEq, forall_eq', payloadHash_street known]
    rw [streetHash, hashStreetPayload_eq_iff apart lengths,
      keepsBoard_iff board, length_cardCodes board, List.map_map]
    rfl

/-- Differing facts have different hashes exactly when they fit. -/
theorem differ_iff_fits (apart : KeepsApart viem) (told : Tells runtime code left facts)
    (told' : Tells runtime code right facts') (keeps : KeepsBoard viem left facts)
    (keeps' : KeepsBoard viem right facts') (different : facts ≠ facts') :
    Differ (payloadHash runtime viem code left) (payloadHash runtime viem code right) ↔
      facts.Fits ∧ facts'.Fits := by
  have kinds : (∀ code ∈ actionCodes,
      code ≠ typeCode "POST_BLIND" ∧ code ∉ streetCodes) ∧
      typeCode "POST_BLIND" ∉ streetCodes := by
    decide
  have street := (canonical_iff apart told).mpr keeps
  have street' := (canonical_iff apart told').mpr keeps'
  cases told with
  | action known actor chips =>
    cases told' with
    | action known' actor' chips' =>
      rw [payloadHash_action known actor chips, payloadHash_action known actor' chips']
      exact differ_action apart known different
    | blind known' => exact absurd known' (kinds.1 code known).1
    | street known' => exact absurd known' (kinds.1 code known).2
    | other known' => exact absurd known known'.1
  | blind known actor chips =>
    cases told' with
    | action known' => exact absurd known (kinds.1 code known').1
    | blind known' actor' chips' =>
      rw [payloadHash_blind known actor chips, payloadHash_blind known actor' chips']
      exact differ_blind apart different
    | street known' => exact absurd (known ▸ known') kinds.2
    | other known' => exact absurd known known'.2.1
  | street known board =>
    cases told' with
    | action known' => exact absurd known (kinds.1 code known').2
    | blind known' => exact absurd (known' ▸ known) kinds.2
    | street known' board' =>
      rw [street _ rfl, street' _ rfl]
      exact differ_street apart different
    | other known' => exact absurd known known'.2.2
  | other known written =>
    cases told' with
    | action known' => exact absurd known' known.1
    | blind known' => exact absurd known' known.2.1
    | street known' => exact absurd known' known.2.2
    | other known' written' =>
      rw [payloadHash_other known written, payloadHash_other known' written']
      exact iff_of_true (differ_other apart written written' different) ⟨trivial, trivial⟩

/--
Two mapped events of one code are bound by their hashes exactly when facts
that differ fit their words and the cards of every street are kept.
-/
theorem encoding_binds_iff
    {eventType eventType' : String}
    (apart : KeepsApart viem)
    (reports : Reports runtime eventType left code facts)
    (reports' : Reports runtime eventType' right code facts') :
    Binds runtime viem code left right facts facts' ↔
      (facts ≠ facts' → facts.Fits ∧ facts'.Fits) ∧
        KeepsBoard viem left facts ∧ KeepsBoard viem right facts' := by
  rw [← canonical_iff apart reports.told,
    ← canonical_iff apart reports'.told]
  constructor
  · intro binds
    have keeps := (canonical_iff apart reports.told).mp binds.canonical
    have keeps' := (canonical_iff apart reports'.told).mp binds.canonical'
    refine ⟨fun different => ?_, binds.canonical, binds.canonical'⟩
    exact (differ_iff_fits apart reports.told reports'.told keeps keeps'
      different).mp (binds.differ different)
  · rintro ⟨fits, canonical, canonical'⟩
    have keeps := (canonical_iff apart reports.told).mp canonical
    have keeps' := (canonical_iff apart reports'.told).mp canonical'
    refine ⟨fun different => ?_, canonical, canonical'⟩
    exact (differ_iff_fits apart reports.told reports'.told keeps keeps'
      different).mpr (fits different)

/-! ## Streets as the engine deals them -/

/-- A card as an object of the engine. -/
def cardObject (card : Card) : JsValue :=
  .object
    [("rank", .string card.rank.letter), ("suit", .string card.suit.letter)]

/-- The event with which the engine deals a street. -/
def streetDealt (street : String) (cards : List Card) : Payload :=
  [("type", .string "STREET_DEALT"), ("street", .string street),
    ("cards", .array (cards.map cardObject))]

variable {cards : List Card}

theorem reports_streetDealt {street : String}
    (known : STREET_STRING_TO_CODE.lookup (runtime.toLowerCase street) = some code)
    (isStreet : code ∈ streetCodes) :
    Reports runtime "STREET_DEALT" (streetDealt street cards) code (.street cards) where
  mapped := known
  told := by
    refine .street isStreet (.cards ?_)
    induction cards with
    | nil => exact .nil
    | cons card rest induction => exact .cons (.object rfl rfl) induction

/-- The hash of a dealt street tells how many cards were dealt, no more. -/
theorem payloadHash_streetDealt {street : String} (isStreet : code ∈ streetCodes) :
    payloadHash runtime viem code (streetDealt street cards) =
      hashStreetPayload viem (List.replicate cards.length 0) := by
  rw [payloadHash_street isStreet]
  show hashStreetPayload viem ((cards.map cardObject).map (codeOfCard viem)) = _
  congr 1
  rw [List.map_map, List.eq_replicate_iff]
  refine ⟨List.length_map _, fun code member => ?_⟩
  rcases List.mem_map.mp member with ⟨card, -, rfl⟩
  rfl

namespace Example

def flop : List Card := [⟨.two, .c⟩, ⟨.three, .c⟩, ⟨.four, .c⟩]

def otherFlop : List Card := [⟨.ace, .d⟩, ⟨.king, .d⟩, ⟨.queen, .d⟩]

/-- A hash with the values of `keccak256` on the two flops and on zeros. -/
def keccak256 (bytes : Hex) : Hex :=
  ((Equiv.swap (hexText 64 [3, 0])
      ("0x101e368776582e57ab3d116ffe2517c0" ++
        "a585cd5b23174b01e275c2d8329c3d83")).trans
    ((Equiv.swap (hexText 64 [3, 0x020100])
      ("0x1670bf348da94e8e58d7fc20edc8a7f4" ++
        "9ed88f75ab526652f3f636402c541dae")).trans
    (Equiv.swap (hexText 64 [3, 0x171819])
      ("0x37a66e53ca7eba385144aafad32ab8a0" ++
        "6cc502da6b00c003c8c678576cd54de0"))))
    (normalizeHex bytes)

def asciiRuntime : Runtime where
  number := fun text => (decimal text).map fun value => (value : ℚ)
  numberText := fun value => toString value.num
  toLowerCase := fun text => String.ofList (text.toList.map Char.toLower)

theorem keepsApart : KeepsApart (abiWords keccak256) :=
  keepsApart_abiWords fun _ _ equal => (Equiv.injective _) equal

theorem reports_flop (cards : List Card) :
    Reports asciiRuntime "STREET_DEALT" (streetDealt "flop" cards) 20 (.street cards) :=
  reports_streetDealt (by decide +kernel) (by decide)

end Example

theorem encoding_binds_flops :
    Binds Example.asciiRuntime (abiWords Example.keccak256) 20
        (streetDealt "flop" Example.flop)
        (streetDealt "flop" Example.otherFlop)
        (.street Example.flop) (.street Example.otherFlop) ↔
      (Facts.street Example.flop ≠ .street Example.otherFlop →
        (Facts.street Example.flop).Fits ∧
          (Facts.street Example.otherFlop).Fits) ∧
        KeepsBoard (abiWords Example.keccak256)
          (streetDealt "flop" Example.flop) (.street Example.flop) ∧
        KeepsBoard (abiWords Example.keccak256)
          (streetDealt "flop" Example.otherFlop)
          (.street Example.otherFlop) :=
  encoding_binds_iff Example.keepsApart (Example.reports_flop _)
    (Example.reports_flop _)

/-- Two different flops have one hash, which binds neither. -/
theorem exists_flops_of_one_hash :
    KeepsApart (abiWords Example.keccak256) ∧
      Reports Example.asciiRuntime "STREET_DEALT"
        (streetDealt "flop" Example.flop) 20 (.street Example.flop) ∧
      Reports Example.asciiRuntime "STREET_DEALT"
        (streetDealt "flop" Example.otherFlop) 20
        (.street Example.otherFlop) ∧
      Example.flop ≠ Example.otherFlop ∧
      payloadHash Example.asciiRuntime (abiWords Example.keccak256) 20
          (streetDealt "flop" Example.flop) =
        payloadHash Example.asciiRuntime (abiWords Example.keccak256) 20
          (streetDealt "flop" Example.otherFlop) ∧
      ¬ Binds Example.asciiRuntime (abiWords Example.keccak256) 20
        (streetDealt "flop" Example.flop)
        (streetDealt "flop" Example.otherFlop)
        (.street Example.flop) (.street Example.otherFlop) := by
  have alike :
      payloadHash Example.asciiRuntime (abiWords Example.keccak256) 20
          (streetDealt "flop" Example.flop) =
        payloadHash Example.asciiRuntime (abiWords Example.keccak256) 20
          (streetDealt "flop" Example.otherFlop) := by
    rw [payloadHash_streetDealt (by decide),
      payloadHash_streetDealt (by decide)]
    rfl
  refine ⟨Example.keepsApart, Example.reports_flop _,
    Example.reports_flop _, by decide, alike, fun binds => ?_⟩
  rcases binds.differ (by decide) with ⟨hash, hash', ok, ok', different⟩
  rw [alike, ok'] at ok
  exact different (Except.ok.inj ok).symm

end Mozetto.Outbox
