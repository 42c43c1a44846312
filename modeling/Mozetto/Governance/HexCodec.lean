import Mozetto.Governance.Timelock

/-!
# Calldata in hexadecimal digits

An encoder of calldata that does what is assumed of the package: a selector,
and the arguments by words and offsets.  It takes addresses in lower case
only.
-/

namespace Mozetto.Governance

open Mozetto.Dealer (isHexDigit)
open Mozetto.EventStore (AbiValue Hex)
open Mozetto.Library.AbiEncoding (Fits Item Kind decode decode_encode encode
  heads padding tail tails)
open Mozetto.Library.Guarded
open Mozetto.Library.HexText
open Mozetto.Outbox (JsNumber JsValue Payload Runtime)

/-! ## The encoder -/

/-- The first four bytes of the hashes of the signatures. -/
def SELECTORS : List Nat :=
  [0xf2fde38b, 0x7d7b1659, 0xa338df38, 0xcbbd8da1, 0x246ca1cf, 0x7d76b404,
    0x5509d768, 0xbeadf957, 0x6f860d74, 0x2e409784, 0xd236b9c6, 0x00e4abe3,
    0x453f3054, 0x01bc98a5, 0x190fdf45, 0x404c1359, 0x8456cb59, 0x3f4ba83a,
    0xbed21611, 0xbfa37e37, 0x82170a9b, 0xa692b9ef, 0x907fa5c8, 0x41724dd0,
    0x5a546098, 0xc0d78655, 0x5574e325, 0x5b068d0c, 0x01d5062a, 0x134008d3, 0xc4d252f5]

def selectorOf (fn : AbiFunction) : Nat := ((FUNCTIONS.zip SELECTORS).lookup fn).getD 0

def AbiType.kind : AbiType → Kind
  | .bytes => .bytes
  | _ => .word

/-- No address has a checksum to check. -/
def isLowerAddress (text : String) : Bool :=
  (readWord 40 text).isSome && text.toList.all fun char => char.toLower = char

def fitsType : AbiType → AbiValue → Bool
  | .address, .hex text => isLowerAddress text
  | .uint bits, .number value => 0 ≤ value && value < 2 ^ bits
  | .bool, .bool _ => true
  | .bytes32, .hex text => (readWord 64 text).isSome
  | .bytes, .hex text => (readBytes text).isSome && text.length < 2 ^ 200
  | _, _ => false

def allFit : List AbiType → List AbiValue → Bool
  | [], [] => true
  | type :: types, value :: values => fitsType type value && allFit types values
  | _, _ => false

def calldata (fn : AbiFunction) (items : List Item) : Hex :=
  String.ofList ('0' :: 'x' :: (padded 8 (selectorOf fn) ++ encode items))

def encodeCalldata (fn : AbiFunction) (values : List AbiValue) :
    Except String Hex :=
  if allFit fn.inputs values then
    .ok (calldata fn ((meanings fn.inputs values).getD []))
  else .error "invalid argument"

def decodeCalldata (data : Hex) : Option (AbiFunction × List Item) :=
  match readDigits data with
  | none => none
  | some digits =>
    (FUNCTIONS.find? fun fn => selectorOf fn = hexValue (digits.take 8)).map
      fun fn => (fn, decode (fn.inputs.map AbiType.kind) (digits.drop 8))

def hexViem : Viem where
  isAddress := isLowerAddress
  getAddress := fun text => text
  isHex := fun text => (readDigits text).isSome
  keccak256 := fun _ => zeroHash
  encodeAbiParameters := fun label _ => label
  fits := fitsType
  encodeFunctionData := encodeCalldata
  decodeFunctionData := decodeCalldata

theorem recognises_hexViem : hexViem.Recognises where
  isHex := fun text => Iff.rfl
  isAddress := by
    intro text known
    exact (Bool.and_eq_true_iff.mp known).1
  getAddress := fun text known => ⟨known, rfl, rfl⟩
  keccak256 := fun _ => by
    show (readWord 64 zeroHash).isSome = true
    decide

/-! ## Digits in lower case -/

/-- A digit that reading leaves as it is. -/
def Lower (digit : Char) : Prop := isHexDigit digit = true ∧ digit.toLower = digit

instance (digit : Char) : Decidable (Lower digit) := inferInstanceAs (Decidable (_ ∧ _))

theorem toNat_lt_of_isHexDigit {digit : Char}
    (hex : isHexDigit digit = true) : digit.toNat < 128 := by
  simp only [isHexDigit, Char.isDigit, Char.le_def, UInt32.le_iff_toNat_le,
    Bool.or_eq_true, Bool.and_eq_true, decide_eq_true_eq] at hex
  have top : digit.toNat = digit.val.toNat := rfl
  rcases hex with (⟨-, below⟩ | ⟨-, below⟩) | ⟨-, below⟩
  · have nine : '9'.val.toNat = 57 := rfl
    omega
  · have last : 'f'.val.toNat = 102 := rfl
    omega
  · have last : 'F'.val.toNat = 70 := rfl
    omega

theorem lower_of_isHexDigit {digit : Char} (hex : isHexDigit digit = true) :
    Lower digit.toLower := by
  have known : ∀ code < 128, isHexDigit (Char.ofNat code) = true →
      Lower (Char.ofNat code).toLower := by
    decide
  have own := known digit.toNat (toNat_lt_of_isHexDigit hex)
  rw [Char.ofNat_toNat] at own
  exact own hex

theorem lower_of_readDigits {text : String} {digits : List Char}
    (read : readDigits text = some digits) : ∀ digit ∈ digits, Lower digit := by
  rcases readDigits_eq_some_iff.mp read with ⟨raw, -, hex, rfl⟩
  intro digit member
  rcases List.mem_map.mp member with ⟨given, listed, rfl⟩
  exact lower_of_isHexDigit (List.all_eq_true.mp hex given listed)

theorem lower_digitChar {number : Nat} (small : number < 16) : Lower number.digitChar := by
  have known : ∀ digit < 16, Lower digit.digitChar := by decide
  exact known number small

theorem lower_of_mem_padded {width number : Nat} {digit : Char}
    (member : digit ∈ padded width number) : Lower digit := by
  rcases List.mem_append.mp member with zero | digits
  · rw [List.eq_of_mem_replicate zero]
    decide
  · clear member
    induction number using Nat.strongRecOn with
    | ind number induction =>
      rw [Nat.toDigits_eq_if (by decide)] at digits
      split at digits
      case isTrue small =>
        rw [List.mem_singleton.mp digits]
        exact lower_digitChar small
      case isFalse large =>
        rcases List.mem_append.mp digits with earlier | last
        · exact induction (number / 16) (by omega) earlier
        · rw [List.mem_singleton.mp last]
          exact lower_digitChar (Nat.mod_lt number (by decide))

theorem digitValue_lt {digit : Char} (lower : Lower digit) : digitValue digit < 16 := by
  have known : ∀ code < 128, Lower (Char.ofNat code) → digitValue (Char.ofNat code) < 16 := by
    decide
  have own := known digit.toNat (toNat_lt_of_isHexDigit lower.1)
  rw [Char.ofNat_toNat] at own
  exact own lower

/-- So many digits write a number below that power of sixteen. -/
theorem hexValue_lt {digits : List Char} (lower : ∀ digit ∈ digits, Lower digit) :
    hexValue digits < 16 ^ digits.length := by
  induction digits using List.reverseRecOn with
  | nil => decide
  | append_singleton digits digit induction =>
    have earlier :=
      induction fun other member =>
        lower other (List.mem_append_left _ member)
    have last := digitValue_lt (lower digit (List.mem_append_right _ (by simp)))
    rw [hexValue, List.foldl_append, List.foldl_cons, List.foldl_nil,
      List.length_append, List.length_singleton, pow_succ]
    rw [hexValue] at earlier
    omega

/-- The digits of encoded items are in lower case, if their bytes are. -/
def LowerItem : Item → Prop
  | .word _ => True
  | .bytes digits => ∀ digit ∈ digits, Lower digit

theorem lower_of_mem_heads {items : List Item} {offset : Nat} {digit : Char}
    (member : digit ∈ heads offset items) : Lower digit := by
  induction items generalizing offset with
  | nil => exact absurd member List.not_mem_nil
  | cons item rest induction =>
    cases item with
    | word number =>
      rcases List.mem_append.mp member with own | later
      · exact lower_of_mem_padded own
      · exact induction later
    | bytes digits =>
      rcases List.mem_append.mp member with own | later
      · exact lower_of_mem_padded own
      · exact induction later

theorem lower_of_mem_encode {items : List Item}
    (lower : ∀ item ∈ items, LowerItem item) {digit : Char}
    (member : digit ∈ encode items) : Lower digit := by
  rcases List.mem_append.mp member with places | behind
  · exact lower_of_mem_heads places
  · rcases List.mem_flatMap.mp behind with ⟨item, listed, inTail⟩
    cases item with
    | word number => exact absurd inTail List.not_mem_nil
    | bytes digits =>
      rcases List.mem_append.mp inTail with length | content
      · exact lower_of_mem_padded length
      · rcases List.mem_append.mp content with own | zeros
        · exact lower _ listed digit own
        · rw [List.eq_of_mem_replicate zeros]
          decide

/-! ## What fits is written and read -/

theorem readWord_lt {width : Nat} {text : String} {item : Item}
    (written : readWord width text = some item) :
    ∃ number, item = .word number ∧ number < 16 ^ width := by
  rcases readWord_eq_some_iff.mp written with ⟨digits, read, rfl, rfl⟩
  exact ⟨_, rfl, hexValue_lt (lower_of_readDigits read)⟩

/-- An item that is written for a narrow type can be encoded. -/
structure Encodable (type : AbiType) (item : Item) : Prop where
  kind : item.kind = type.kind
  fits : Fits item
  lower : LowerItem item
  short : (tail item).length ≤ 2 ^ 201

def AbiType.narrow : AbiType → Bool
  | .uint bits => bits ≤ 256
  | _ => true

theorem encodable_word {type : AbiType} (word : type.kind = .word)
    {number : Nat} (fits : number < 16 ^ 64) : Encodable type (.word number) :=
  ⟨word.symm, fits, trivial, Nat.zero_le _⟩

theorem encodable_of_fits {type : AbiType} {value : AbiValue} {item : Item}
    (narrow : type.narrow = true) (taken : fitsType type value = true)
    (means : meaning type value = some item) : Encodable type item := by
  cases type with
  | address =>
    cases value with
    | hex text =>
      rcases readWord_lt means with ⟨number, rfl, small⟩
      exact encodable_word rfl (small.trans (by decide))
    | number _ => cases means
    | bool _ => cases means
  | uint bits =>
    cases value with
    | number value =>
      simp only [fitsType, Bool.and_eq_true, decide_eq_true_eq] at taken
      simp only [AbiType.narrow, decide_eq_true_eq] at narrow
      rw [meaning, if_pos taken.1] at means
      cases means
      apply encodable_word rfl
      have wide : (2 : Int) ^ bits ≤ 2 ^ 256 := pow_le_pow_right₀ (by decide) narrow
      have below := taken.2.trans_le wide
      have same : (2 : Int) ^ 256 = ((16 ^ 64 : Nat) : Int) := by norm_num
      omega
    | hex _ => cases means
    | bool _ => cases means
  | bool =>
    cases value with
    | bool value =>
      cases means
      apply encodable_word rfl
      cases value <;> decide
    | hex _ => cases means
    | number _ => cases means
  | bytes32 =>
    cases value with
    | hex text =>
      rcases readWord_lt means with ⟨number, rfl, small⟩
      exact encodable_word rfl small
    | number _ => cases means
    | bool _ => cases means
  | bytes =>
    cases value with
    | hex text =>
      simp only [fitsType, Bool.and_eq_true, decide_eq_true_eq] at taken
      rcases readBytes_eq_some_iff.mp means with ⟨digits, read, even, rfl⟩
      have length := length_of_readDigits read
      refine ⟨rfl, even, lower_of_readDigits read, ?_⟩
      have shortLength : digits.length / 2 < 16 ^ 64 := by
        have bound := taken.2
        omega
      simp only [tail, padding, List.length_append, List.length_replicate,
        length_padded (by decide : 0 < 64) shortLength]
      have bound := taken.2
      omega
    | number _ => cases means
    | bool _ => cases means

theorem encodable_of_allFit {types : List AbiType} {values : List AbiValue} {items : List Item}
    (narrow : ∀ type ∈ types, type.narrow = true) (taken : allFit types values = true)
    (means : meanings types values = some items) :
    List.Forall₂ Encodable types items := by
  induction types generalizing values items with
  | nil =>
    cases values with
    | nil =>
      cases means
      exact .nil
    | cons value values => cases taken
  | cons type types induction =>
    cases values with
    | nil => cases taken
    | cons value values =>
      rw [allFit, Bool.and_eq_true] at taken
      rw [meanings] at means
      split at means
      case h_1 item others own rest =>
        cases means
        exact .cons (encodable_of_fits (narrow type List.mem_cons_self) taken.1 own) (induction
              (fun other member =>
                narrow other (List.mem_cons_of_mem _ member))
              taken.2 rest)
      case h_2 => cases means

/-! ## The encoder does what is assumed -/

theorem allFit_iff {types : List AbiType} {values : List AbiValue} : allFit types values = true ↔
    List.Forall₂ (fun type value => fitsType type value = true) types
      values := by
  induction types generalizing values with
  | nil => cases values <;> simp [allFit]
  | cons type types induction =>
    cases values with
    | nil => simp [allFit]
    | cons value values =>
      rw [allFit, Bool.and_eq_true, List.forall₂_cons, induction]

theorem narrow_FUNCTIONS : ∀ fn ∈ FUNCTIONS,
    fn.inputs.length ≤ 6 ∧ ∀ type ∈ fn.inputs, type.narrow = true := by
  decide

theorem find_selectorOf : ∀ fn ∈ FUNCTIONS,
    (FUNCTIONS.find? fun other => selectorOf other = selectorOf fn) = some fn ∧
      selectorOf fn < 16 ^ 8 := by
  decide +kernel

theorem length_tails_le {types : List AbiType} {items : List Item}
    (encodable : List.Forall₂ Encodable types items) :
    (tails items).length ≤ types.length * 2 ^ 201 := by
  induction encodable with
  | nil => exact Nat.zero_le _
  | cons own others induction =>
    have short := own.short
    rw [Library.AbiEncoding.tails_cons, List.length_append, List.length_cons]
    omega

section Encodable

variable {types : List AbiType} {items : List Item}

theorem fits_of_encodable (encodable : List.Forall₂ Encodable types items) :
    ∀ item ∈ items, Fits item ∧ LowerItem item ∧ (tail item).length ≤ 2 ^ 201 := by
  induction encodable with
  | nil => exact fun item absent => absurd absent List.not_mem_nil
  | cons own others induction =>
    intro item member
    rcases List.mem_cons.mp member with rfl | later
    · exact ⟨own.fits, own.lower, own.short⟩
    · exact induction item later

theorem kinds_of_encodable (encodable : List.Forall₂ Encodable types items) :
    types.map AbiType.kind = items.map Item.kind := by
  induction encodable with
  | nil => rfl
  | cons own others induction =>
    rw [List.map_cons, List.map_cons, own.kind, induction]

/-- What is encoded for a function is decoded for it. -/
theorem decode_of_encodable
    (few : types.length ≤ 6) (encodable : List.Forall₂ Encodable types items) :
    decode (types.map AbiType.kind) (encode items) = items := by
  have tailsShort := length_tails_le encodable
  have lengths := encodable.length_eq
  rw [kinds_of_encodable encodable]
  apply decode_encode fun item member => (fits_of_encodable encodable item member).1
  omega

/-- Encoded items fill whole bytes. -/
theorem even_length_encode
    (few : types.length ≤ 6) (encodable : List.Forall₂ Encodable types items) :
    (encode items).length % 2 = 0 := by
  have fits := fits_of_encodable encodable
  have tailsShort := length_tails_le encodable
  have lengths := encodable.length_eq
  have places :=
    @Library.AbiEncoding.length_heads items (32 * items.length)
      (fun item member => (fits item member).1) (by omega)
  have behind : (tails items).length % 2 = 0 := by
    clear places tailsShort lengths few encodable
    induction items with
    | nil => rfl
    | cons item rest induction =>
      have own := fits item List.mem_cons_self
      have short := own.2.2
      have even := Library.AbiEncoding.length_tail_even own.1 (by omega)
      have others :=
        induction fun other member =>
          fits other (List.mem_cons_of_mem _ member)
      rw [Library.AbiEncoding.tails_cons, List.length_append]
      omega
  rw [encode, List.length_append, places]
  omega

theorem readDigits_calldata {fn : AbiFunction} (encodable : List.Forall₂ Encodable types items) :
    readDigits (calldata fn items) = some (padded 8 (selectorOf fn) ++ encode items) := by
  have lower : ∀ digit ∈ padded 8 (selectorOf fn) ++ encode items, Lower digit := by
    intro digit member
    rcases List.mem_append.mp member with selector | arguments
    · exact lower_of_mem_padded selector
    · exact lower_of_mem_encode (fun item listed => (fits_of_encodable encodable item listed).2.1)
          arguments
  rw [readDigits_eq_some_iff]
  refine ⟨_, String.toList_ofList, ?_, ?_⟩
  · rw [List.all_eq_true]
    exact fun digit member => (lower digit member).1
  · exact (List.map_congr_left fun digit member => (lower digit member).2).trans (List.map_id _)

end Encodable

theorem encodes_hexViem : hexViem.Encodes where
  taken := by
    intro fn _ values
    refine Iff.trans ?_ allFit_iff
    show (∃ data, encodeCalldata fn values = .ok data) ↔ _
    rw [encodeCalldata]
    by_cases fit : allFit fn.inputs values = true
    · simp [fit]
    · simp [fit]
  address := fun text => Iff.rfl
  uint := by
    intro bits value
    show fitsType (.uint bits) (.number value) = true ↔ _
    simp [fitsType]
  bool := fun value => rfl
  bytes32 := fun text _ => Iff.rfl
  decoded := by
    intro fn member values items data means encoded
    replace encoded : encodeCalldata fn values = .ok data := encoded
    rw [encodeCalldata, means] at encoded
    split at encoded
    case isTrue fit =>
      cases encoded
      rcases narrow_FUNCTIONS fn member with ⟨few, narrow⟩
      rcases find_selectorOf fn member with ⟨found, small⟩
      have encodable := encodable_of_allFit narrow fit means
      have width := length_padded (by decide : 0 < 8) small
      show decodeCalldata (calldata fn items) = _
      rw [decodeCalldata, readDigits_calldata encodable]
      simp only [List.take_left' width, List.drop_left' width,
        hexValue_padded, found, Option.map_some, decode_of_encodable few encodable]
    case isFalse => cases encoded
  wholeBytes := by
    intro fn member values items data means encoded
    replace encoded : encodeCalldata fn values = .ok data := encoded
    rw [encodeCalldata, means] at encoded
    split at encoded
    case isTrue fit =>
      cases encoded
      rcases narrow_FUNCTIONS fn member with ⟨few, narrow⟩
      rcases find_selectorOf fn member with ⟨-, small⟩
      have encodable := encodable_of_allFit narrow fit means
      have width := length_padded (by decide : 0 < 8) small
      have even := even_length_encode few encodable
      rw [Option.isSome_iff_exists]
      refine ⟨_, readBytes_eq_some_iff.mpr ⟨_, readDigits_calldata encodable, ?_, rfl⟩⟩
      show (padded 8 (selectorOf fn) ++ encode items).length % 2 = 0
      rw [List.length_append, width]
      omega
    case isFalse => cases encoded

namespace Replays

/-! ## An execution without its data -/

/-- The texts of numbers are not read here. -/
def plainRuntime : Runtime :=
  ⟨fun _ => none, fun _ => "", fun text => text⟩

def registry : Hex := "0x1111111111111111111111111111111111111111"

def newOwner : Hex := "0x4444444444444444444444444444444444444444"

/-- Calldata of `pause()` for the registry, without its mark. -/
def unmarked : Payload :=
  [("target", .string registry), ("data", .string "8456cb59")]

/-- The execution that is encoded calls the registry without data. -/
theorem malformed_data_is_dropped :
    ¬ ∀ actionId target args,
      EncodesAsked hexViem plainRuntime actionId target args := by
  intro exact
  have encoded :
      (encodeOwnerAction hexViem plainRuntime .timelockExecute registry
        unmarked).isOk = true := by
    decide +kernel
  cases call :
      encodeOwnerAction hexViem plainRuntime .timelockExecute registry
        unmarked with
  | error err =>
      rw [call] at encoded
      cases encoded
  | ok reached =>
      rcases exact .timelockExecute registry unmarked reached call with
        ⟨-, items, -, asked⟩
      have sound :=
        sound_of_forall₂ asked ⟨.bytes, "data", .hexOr "0x"⟩ (by decide)
      rcases sound with ⟨item, ⟨given⟩ | ⟨nothing, -, -⟩⟩
      · cases given with
        | bytes written =>
            have unread : readBytes "8456cb59" = none := by decide
            have same : readBytes "8456cb59" = some item := written
            rw [unread] at same
            cases same
      · cases nothing

/-- An ownership is transferred as it was asked. -/
theorem governance_signs_transfer :
    EncodesAsked hexViem plainRuntime .ownableTransferOwnership registry
        [("newOwner", .string newOwner)] ∧
      encodeOwnerAction hexViem plainRuntime .ownableTransferOwnership registry
          [("newOwner", .string newOwner)] =
        .ok
          ⟨.ownableTransferOwnership, registry,
            "0xf2fde38b" ++ "000000000000000000000000" ++
              "4444444444444444444444444444444444444444",
            "0", false⟩ := by
  refine ⟨?_, by decide +kernel⟩
  rw [(governance_signs_what_was_asked recognises_hexViem encodes_hexViem).1]
  right
  intro argument member
  rw [List.mem_singleton.mp member]
  have written : (readWord 40 newOwner).isSome = true := by decide
  rcases Option.isSome_iff_exists.mp written with ⟨item, read⟩
  exact ⟨item, .given (.address read)⟩

end Replays

end Mozetto.Governance
