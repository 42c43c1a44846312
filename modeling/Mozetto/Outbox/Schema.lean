import Mathlib.Data.Rat.Defs
import Mozetto.EventStore.EventHashChain
import Mozetto.Library.HexText

/-!
# Values of event payloads

The payloads of the table's events are objects of free form.  This module
holds the values they are made of, reading their keys, their text and their
JSON text.  The conversions between texts and floating-point numbers and the
lower case of Unicode texts are parameters of the model.
-/

namespace Mozetto.Outbox

/-- A number of the language; minus zero is not kept apart from zero. -/
inductive JsNumber where
  | finite (value : ℚ)
  | infinity (negative : Bool)
  | nan

/-- A value of a payload; an object lists its own keys in their order. -/
inductive JsValue where
  | undefined
  | null
  | bool (value : Bool)
  | number (value : JsNumber)
  | bigint (value : Int)
  | string (value : String)
  | array (items : List JsValue)
  | object (fields : List (String × JsValue))

abbrev Payload := List (String × JsValue)

/--
The conversions of the runtime: the finite number a text is read as, the text
of a finite number, and lower case.
-/
structure Runtime where
  number : String → Option ℚ
  numberText : ℚ → String
  toLowerCase : String → String

namespace JsValue

/-- The value under a key, `undefined` without one. -/
def get (payload : Payload) (key : String) : JsValue := (payload.lookup key).getD undefined

def isNullish : JsValue → Bool
  | undefined => true
  | null => true
  | _ => false

/-- `first ?? second`. -/
def orElse (first second : JsValue) : JsValue := if first.isNullish then second else first

/-! ## Text -/

variable (runtime : Runtime)

def numberString : JsNumber → String
  | .finite value => runtime.numberText value
  | .infinity negative => if negative then "-Infinity" else "Infinity"
  | .nan => "NaN"

mutual

/-- `String(value)`. -/
def toText : JsValue → String
  | undefined => "undefined"
  | null => "null"
  | bool value => toString value
  | number value => numberString runtime value
  | bigint value => toString value
  | string value => value
  | array items => ",".intercalate (itemTexts items)
  | object _ => "[object Object]"

def itemTexts : List JsValue → List String
  | [] => []
  | item :: rest =>
      (if item.isNullish then "" else toText item) :: itemTexts rest

end

/-! ## JSON text -/

/-- A control character in its four-digit form. -/
def escaped (char : Char) : String :=
  "\\u00" ++ String.ofList [(char.toNat / 16).digitChar, (char.toNat % 16).digitChar]

def quoteChar (char : Char) : String :=
  if char = '"' then "\\\""
  else if char = '\\' then "\\\\"
  else if char.toNat = 8 then "\\b"
  else if char.toNat = 9 then "\\t"
  else if char.toNat = 10 then "\\n"
  else if char.toNat = 12 then "\\f"
  else if char.toNat = 13 then "\\r"
  else if char.toNat < 32 then escaped char
  else char.toString

def quote (text : String) : String :=
  "\"" ++ String.join (text.toList.map quoteChar) ++ "\""

mutual

/-- The JSON text of a value; `none` where there is none. -/
def json : JsValue → Except String (Option String)
  | undefined => return none
  | null => return some "null"
  | bool value => return some (toString value)
  | number (.finite value) => return some (runtime.numberText value)
  | number _ => return some "null"
  | bigint _ => .error "Do not know how to serialize a BigInt"
  | string value => return some (quote value)
  | array items => do
      let texts ← jsonItems items
      return some ("[" ++ ",".intercalate texts ++ "]")
  | object fields => do
      let texts ← jsonFields fields
      return some ("\x7b" ++ ",".intercalate texts ++ "\x7d")

def jsonItems : List JsValue → Except String (List String)
  | [] => return []
  | item :: rest => do
      let text ← json item
      let texts ← jsonItems rest
      return text.getD "null" :: texts

/-- The keys whose value has no text are left out. -/
def jsonFields : List (String × JsValue) → Except String (List String)
  | [] => return []
  | (key, value) :: rest => do
      let text ← json value
      let texts ← jsonFields rest
      match text with
      | none => return texts
      | some text => return (quote key ++ ":" ++ text) :: texts

end

/-- `JSON.stringify` of a payload. -/
def stringify (payload : Payload) : Except String String := do
  let texts ← jsonFields runtime payload
  return "\x7b" ++ ",".intercalate texts ++ "\x7d"

end JsValue

end Mozetto.Outbox

/-!
## The bridge from live events to `PokerEventV1`

The type code of a live event and the hash of its public payload, as
`outbox/schema.ts` computes them from a payload of free form.  The bridge
guesses the names of the fields and takes a default where it finds nothing.
-/

namespace Mozetto.Outbox

open Mozetto.EventStore
open Mozetto.Library.HexText
open JsValue

/-! ### Type codes -/

/-- The code of a canonical event type. -/
def typeCode (name : String) : Int := (EVENT_TYPE.lookup name).getD 0

def STRING_TO_CODE : List (String × Int) :=
  [("HAND_START", typeCode "HAND_START"),
    ("HAND_STARTED", typeCode "HAND_START"),
    ("POST_BLIND", typeCode "POST_BLIND"),
    ("DEAL_HOLE", typeCode "DEAL_HOLE"),
    ("HOLE_CARDS_DEALT", typeCode "DEAL_HOLE"),
    ("ACTION_FOLD", typeCode "ACTION_FOLD"),
    ("FOLD", typeCode "ACTION_FOLD"),
    ("ACTION_CHECK", typeCode "ACTION_CHECK"),
    ("CHECK", typeCode "ACTION_CHECK"),
    ("ACTION_CALL", typeCode "ACTION_CALL"),
    ("CALL", typeCode "ACTION_CALL"),
    ("ACTION_BET", typeCode "ACTION_BET"),
    ("BET", typeCode "ACTION_BET"),
    ("ACTION_RAISE", typeCode "ACTION_RAISE"),
    ("RAISE", typeCode "ACTION_RAISE"),
    ("ACTION_ALL_IN", typeCode "ACTION_ALL_IN"),
    ("ALL_IN", typeCode "ACTION_ALL_IN"),
    ("STREET_FLOP", typeCode "STREET_FLOP"),
    ("FLOP", typeCode "STREET_FLOP"),
    ("STREET_TURN", typeCode "STREET_TURN"),
    ("TURN", typeCode "STREET_TURN"),
    ("STREET_RIVER", typeCode "STREET_RIVER"),
    ("RIVER", typeCode "STREET_RIVER"),
    ("SHOWDOWN", typeCode "SHOWDOWN"),
    ("SHOWDOWN_REVEALED", typeCode "SHOWDOWN"),
    ("HAND_END", typeCode "HAND_END"),
    ("HAND_COMPLETE", typeCode "HAND_END"),
    ("HAND_SETTLED", typeCode "HAND_END"),
    ("HAND_ABORT", typeCode "HAND_ABORT")]

def ACTION_STRING_TO_CODE : List (String × Int) :=
  [("fold", typeCode "ACTION_FOLD"), ("check", typeCode "ACTION_CHECK"),
    ("call", typeCode "ACTION_CALL"), ("bet", typeCode "ACTION_BET"),
    ("raise", typeCode "ACTION_RAISE"),
    ("all_in", typeCode "ACTION_ALL_IN"),
    ("allin", typeCode "ACTION_ALL_IN"),
    ("all-in", typeCode "ACTION_ALL_IN")]

def STREET_STRING_TO_CODE : List (String × Int) :=
  [("flop", typeCode "STREET_FLOP"), ("turn", typeCode "STREET_TURN"),
    ("river", typeCode "STREET_RIVER")]

/-- The codes of the actions of a player. -/
def actionCodes : List Int :=
  [typeCode "ACTION_FOLD", typeCode "ACTION_CHECK", typeCode "ACTION_CALL",
    typeCode "ACTION_BET", typeCode "ACTION_RAISE",
    typeCode "ACTION_ALL_IN"]

def streetCodes : List Int :=
  [typeCode "STREET_FLOP", typeCode "STREET_TURN", typeCode "STREET_RIVER"]

section Encoding

variable (runtime : Runtime) (viem : Viem)

/-- `String(payload[key] ?? "").toLowerCase()`. -/
def lowerText (payload : Payload) (key : String) : String :=
  runtime.toLowerCase
    (toText runtime (orElse (get payload key) (.string "")))

def mapEventTypeCode (eventType : String) (publicPayload : Option Payload) : Option Int :=
  match STRING_TO_CODE.lookup eventType, publicPayload with
  | some direct, _ => some direct
  | none, none => none
  | none, some payload =>
      if eventType = "PLAYER_ACTED" then
        ACTION_STRING_TO_CODE.lookup (lowerText runtime payload "action")
      else if eventType = "STREET_DEALT" then
        STREET_STRING_TO_CODE.lookup (lowerText runtime payload "street")
      else if
          eventType = "BLINDS_POSTED" ∧
            (orElse (get payload "seatIndex")
              (get payload "seat")).isNullish = false ∧
            (get payload "amount").isNullish = false then
        some (typeCode "POST_BLIND")
      else none

/-! ### Fields of a payload -/

/-- The whitespace that `trim` removes. -/
def isBlank (text : String) : Bool :=
  text.toList.all fun char =>
    [9, 10, 11, 12, 13, 32, 0xa0, 0x1680, 0x2028, 0x2029, 0x202f, 0x205f,
      0x3000, 0xfeff].contains char.toNat ||
      (0x2000 ≤ char.toNat && char.toNat ≤ 0x200a)

/-- The number that a text of decimal digits writes. -/
def decimal (text : String) : Option Nat :=
  if text.toList ≠ [] ∧ text.toList.all Char.isDigit then
    some (Nat.ofDigitChars 10 text.toList 0)
  else none

/-- `Math.trunc`. -/
def truncate (value : ℚ) : Int := value.num.tdiv value.den

def seatField (payload : Payload) : JsValue :=
  orElse (orElse (get payload "seatIndex") (get payload "seat"))
    (get payload "actorSeat")

def asSeat (payload : Payload) : Option ℚ :=
  match seatField payload with
  | .number (.finite value) => some value
  | .string text => if isBlank text then none else runtime.number text
  | _ => none

def amountField (payload : Payload) : JsValue :=
  orElse
    (orElse (orElse (get payload "amount") (get payload "chips"))
      (get payload "bet"))
    (.number (.finite 0))

def asAmount (payload : Payload) : Int :=
  match amountField payload with
  | .bigint value => value
  | .number (.finite value) => truncate value
  | .string text => (decimal text).getD 0
  | _ => 0

def isHexDigit (char : Char) : Bool :=
  char.isDigit || ('a' ≤ char && char ≤ 'f') || ('A' ≤ char && char ≤ 'F')

/-- The first byte of a hash; digits that cannot be read count as zero. -/
def firstByte (hash : Hex) : Nat :=
  hexValue ((((hash.toList.drop 2).take 2).takeWhile isHexDigit).map Char.toLower)

/-- The code the bridge takes for one card. -/
def codeOfCard : JsValue → Int
  | .number (.finite value) => truncate value % 256
  | .number _ => 0
  | .string text => firstByte (viem.keccak256 (viem.toBytes text)) % 256
  | _ => 0

def cardsField (payload : Payload) : JsValue :=
  orElse (orElse (get payload "cards") (get payload "board"))
    (get payload "community")

def cardCodes (payload : Payload) : List Int :=
  match cardsField payload with
  | .array cards => cards.map (codeOfCard viem)
  | _ => []

/-! ### The hash of a public payload -/

structure PublicHash where
  publicPayloadHash : Hex
  hasActorSeat : Bool
  actorSeat : ℚ
deriving DecidableEq

/-- A number as the encoder takes it; a fraction is refused. -/
def toBigInt (value : ℚ) : Except String Int :=
  if value.den = 1 then .ok value.num
  else .error ("The number " ++ runtime.numberText value ++
    " cannot be converted to a BigInt because it is not an integer")

def encodePokerEventV1PublicHash (eventTypeCode : Int) (publicPayload : Payload) :
    Except String PublicHash :=
  let seat := (asSeat runtime publicPayload).getD 0
  if eventTypeCode ∈ actionCodes then do
    let actor ← toBigInt runtime seat
    let hash ← hashActionPayload viem actor eventTypeCode (asAmount publicPayload)
    return ⟨hash, true, seat⟩
  else if eventTypeCode = typeCode "POST_BLIND" then do
    let actor ← toBigInt runtime seat
    let hash ← hashBlindPayload viem actor (asAmount publicPayload)
    return ⟨hash, true, seat⟩
  else if eventTypeCode ∈ streetCodes then do
    let hash ← hashStreetPayload viem (cardCodes viem publicPayload)
    return ⟨hash, false, 0⟩
  else do
    let text ← stringify runtime publicPayload
    return ⟨viem.keccak256 (viem.toBytes text), false, 0⟩

end Encoding

end Mozetto.Outbox
