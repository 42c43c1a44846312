import Mozetto.Governance.Encode

/-!
# Calldata that says what was asked

The calldata of an action is decoded to its function, with every argument as
it was given, or its default where it was absent.  A text that is given and
malformed is replaced by the default as well, unless another argument is
refused; this is the only way to sign something else.
-/

namespace Mozetto.Governance

open Mozetto.Dealer (isHexDigit)
open Mozetto.EventStore (AbiValue Hex)
open Mozetto.Library.AbiEncoding (Item)
open Mozetto.Library.Guarded
open Mozetto.Library.HexText (hexValue)
open Mozetto.Outbox (JsNumber JsValue Payload Runtime)

variable {viem : Viem} {runtime : Runtime}
variable {actionId : ActionId} {target : String} {args : Payload}
variable {argument : Argument} {value : JsValue} {item : Item}

/-! ## What is asked -/

/-- A value, in any of its representations, asks for an item of a type. -/
inductive Asked : AbiType → JsValue → Item → Prop where
  | address {text : String} {item : Item} (written : readWord 40 text = some item) :
      Asked .address (.string text) item
  | bytes32 {text : String} {item : Item} (written : readWord 64 text = some item) :
      Asked .bytes32 (.string text) item
  | bytes {text : String} {item : Item} (written : readBytes text = some item) :
      Asked .bytes (.string text) item
  | bigint (bits number : Nat) : Asked (.uint bits) (.bigint number) (.word number)
  | number (bits number : Nat) : Asked (.uint bits) (.number (.finite number)) (.word number)
  | text (bits : Nat) {text : String} {number : Nat} (written : bigIntOfText text = some number) :
      Asked (.uint bits) (.string text) (.word number)
  | bool (value : Bool) : Asked .bool (.bool value) (.word (if value then 1 else 0))
  | yes {text : String} (written : text = "true" ∨ text = "1") :
      Asked .bool (.string text) (.word 1)
  | no {text : String} (written : text = "false" ∨ text = "0") :
      Asked .bool (.string text) (.word 0)

/-- The default of an argument, if it has one. -/
def Argument.fallback (argument : Argument) : Option AbiValue :=
  match argument.reading with
  | .uintOrZero => some (.number 0)
  | .hexOr fallback => some (.hex fallback)
  | .saltOr fallback => some (.hex fallback)
  | _ => none

/-- What a value, or its absence, asks for an argument. -/
inductive Argument.AskedFor (argument : Argument) (value : JsValue) (item : Item) : Prop where
  | given (asked : Asked argument.type value item)
  | absent (nothing : value.isNullish = true) {fallback : AbiValue}
      (default : argument.fallback = some fallback)
      (written : meaning argument.type fallback = some item)

/-- A value that asks for something. -/
def Argument.Sound (argument : Argument) (value : JsValue) : Prop :=
  ∃ item, argument.AskedFor value item

/-! ## Arguments that are taken -/

/-- An argument is read as a value of its type, and so is its default. -/
def Argument.wellTyped (argument : Argument) : Bool :=
  match argument.reading, argument.type with
  | .requireAddress, .address => true
  | .requireBytes32, .bytes32 => true
  | .requireUint, .uint _ => true
  | .requireBool, .bool => true
  | .uintOrZero, .uint _ => true
  | .hexOr fallback, .bytes32 => (readWord 64 fallback).isSome
  | .hexOr fallback, .bytes => (readBytes fallback).isSome
  | .saltOr fallback, .bytes32 => (readWord 64 fallback).isSome
  | _, _ => false

theorem wellTyped_ENCODERS (actionId : ActionId) :
    ∀ argument ∈ (ENCODERS actionId).arguments, argument.wellTyped = true := by
  cases actionId <;> decide

theorem readDigits_eq_some_iff {text : String} {digits : List Char} :
    readDigits text = some digits ↔
      ∃ raw, text.toList = '0' :: 'x' :: raw ∧ raw.all isHexDigit = true ∧
        raw.map Char.toLower = digits := by
  rw [readDigits]
  split
  case h_1 raw marked =>
    rw [marked]
    by_cases hex : raw.all isHexDigit = true
    · rw [if_pos hex]
      constructor
      · rintro ⟨⟩
        exact ⟨raw, rfl, hex, rfl⟩
      · rintro ⟨other, same, -, lowered⟩
        cases same
        exact congrArg some lowered
    · rw [if_neg hex]
      constructor
      · rintro ⟨⟩
      · rintro ⟨other, same, others, -⟩
        cases same
        exact absurd others hex
  case h_2 unmarked =>
    constructor
    · rintro ⟨⟩
    · rintro ⟨raw, marked, -⟩
      exact absurd marked (unmarked raw)

theorem length_of_readDigits {text : String} {digits : List Char}
    (read : readDigits text = some digits) : text.length = digits.length + 2 := by
  rcases readDigits_eq_some_iff.mp read with ⟨raw, marked, -, rfl⟩
  rw [← String.length_toList, marked]
  simp

theorem readWord_eq_some_iff {width : Nat} {text : String} : readWord width text = some item ↔
    ∃ digits, readDigits text = some digits ∧ digits.length = width ∧
      .word (hexValue digits) = item := by
  rw [readWord]
  cases readDigits text with
  | none => simp
  | some digits =>
    by_cases wide : digits.length = width
    · simp [wide]
    · simp [wide]

theorem readBytes_eq_some_iff {text : String} : readBytes text = some item ↔
    ∃ digits, readDigits text = some digits ∧ digits.length % 2 = 0 ∧ .bytes digits = item := by
  rw [readBytes]
  cases readDigits text with
  | none => simp
  | some digits =>
    by_cases whole : digits.length % 2 = 0
    · simp [whole]
    · simp [whole]

/-- Texts that are recognised and have the length of a word are words. -/
theorem exists_readWord (recognises : viem.Recognises) {text : String}
    (hex : viem.isHex text = true) (length : text.length = 66) :
    ∃ item, readWord 64 text = some item := by
  rw [recognises.isHex, Option.isSome_iff_exists] at hex
  rcases hex with ⟨digits, read⟩
  have width := length_of_readDigits read
  exact ⟨_, readWord_eq_some_iff.mpr ⟨digits, read, by omega, rfl⟩⟩

theorem recognised_of_readWord (recognises : viem.Recognises) {text : String}
    (written : readWord 64 text = some item) : viem.isHex text = true ∧ text.length = 66 := by
  rcases readWord_eq_some_iff.mp written with ⟨digits, read, width, -⟩
  refine ⟨?_, ?_⟩
  · rw [recognises.isHex, read]
    rfl
  · rw [length_of_readDigits read, width]

theorem recognised_of_readBytes (recognises : viem.Recognises) {text : String}
    (written : readBytes text = some item) : viem.isHex text = true := by
  rcases readBytes_eq_some_iff.mp written with ⟨digits, read, -⟩
  rw [recognises.isHex, read]
  rfl

/-! ### What the validators accept -/

theorem requireAddress_eq_ok (recognises : viem.Recognises) {field : String} {text : Hex}
    (ok : requireAddress viem runtime value field = .ok text) :
    ∃ item, meaning .address (.hex text) = some item ∧ Asked .address value item := by
  cases value with
  | string given =>
    rw [requireAddress] at ok
    split at ok
    case isTrue known =>
      cases ok
      rcases Option.isSome_iff_exists.mp (recognises.isAddress given known)
        with ⟨item, written⟩
      have same := (recognises.getAddress given known).2.2
      refine ⟨item, ?_, .address written⟩
      rw [meaning, readWord, same]
      exact written
    case isFalse => cases ok
  | _ => cases ok

theorem requireBytes32_eq_ok (recognises : viem.Recognises) {field : String} {text : Hex}
    (ok : requireBytes32 viem runtime value field = .ok text) :
    ∃ item, meaning .bytes32 (.hex text) = some item ∧ Asked .bytes32 value item := by
  cases value with
  | string given =>
    rw [requireBytes32] at ok
    split at ok
    case isTrue known =>
      cases ok
      rcases exists_readWord recognises known.1 known.2 with ⟨item, written⟩
      exact ⟨item, written, .bytes32 written⟩
    case isFalse => cases ok
  | _ => cases ok

theorem bigIntOfText_nonneg {text : String} {number : Int}
    (read : bigIntOfText text = some number) : ∃ natural : Nat, number = natural := by
  rw [bigIntOfText] at read
  split at read <;> split at read <;> cases read <;> exact ⟨_, rfl⟩

/-- Numbers that fit are the numbers that were given. -/
theorem requireUint_eq_ok {field : String} {number : Int} (bits : Nat) (nonneg : 0 ≤ number)
    (ok : requireUint runtime value field = .ok number) :
    Asked (.uint bits) value (.word number.toNat) := by
  cases value with
  | bigint given =>
    cases ok
    rcases Int.eq_ofNat_of_zero_le nonneg with ⟨natural, rfl⟩
    exact .bigint bits natural
  | number given =>
    cases given with
    | finite rational =>
      rw [requireUint] at ok
      split at ok
      case isTrue positive =>
        rw [bigIntOfNumber] at ok
        split at ok
        case isTrue whole =>
          cases ok
          rcases Int.eq_ofNat_of_zero_le nonneg with ⟨natural, same⟩
          have equal : rational = (natural : ℚ) := by
            rw [← Rat.coe_int_num_of_den_eq_one whole, same]
            rfl
          rw [same, equal]
          exact .number bits natural
        case isFalse => cases ok
      case isFalse => cases ok
    | infinity negative => cases ok
    | nan => cases ok
  | string given =>
    rw [requireUint] at ok
    split at ok
    case h_1 other read =>
      cases ok
      rcases bigIntOfText_nonneg read with ⟨natural, rfl⟩
      exact .text bits read
    case h_2 => cases ok
  | undefined => cases ok
  | null => cases ok
  | bool _ => cases ok
  | array _ => cases ok
  | object _ => cases ok

theorem requireBool_eq_ok {field : String} {taken : Bool}
    (ok : requireBool runtime value field = .ok taken) :
    Asked .bool value (.word (if taken then 1 else 0)) := by
  cases value with
  | bool given =>
    cases ok
    exact .bool _
  | string given =>
    rw [requireBool] at ok
    split at ok
    case isTrue written =>
      cases ok
      exact .yes written
    case isFalse =>
      split at ok
      case isTrue written =>
        cases ok
        exact .no written
      case isFalse => cases ok
  | _ => cases ok

/-! ## Arguments one by one -/

/-- A text that is given, with the bytes of its type, is passed on. -/
theorem hexOr_eq (recognises : viem.Recognises) {type : AbiType} {fallback : Hex}
    (kind : type = .bytes32 ∨ type = .bytes) (asked : Asked type value item) :
    meaning type (.hex (hexOr viem fallback value)) = some item := by
  rcases kind with rfl | rfl
  · cases asked with
    | bytes32 written =>
      have known := (recognised_of_readWord recognises written).1
      rw [hexOr, if_pos known]
      exact written
  · cases asked with
    | bytes written =>
      have known := recognised_of_readBytes recognises written
      rw [hexOr, if_pos known]
      exact written

theorem saltOr_eq (recognises : viem.Recognises) {fallback : Hex}
    (asked : Asked .bytes32 value item) :
    meaning .bytes32 (.hex (saltOr viem fallback value)) = some item := by
  cases asked with
  | bytes32 written =>
    have known := recognised_of_readWord recognises written
    rw [saltOr, if_pos known]
    exact written

/-- Nothing is no text. -/
theorem hexOr_of_isNullish {fallback : Hex} (nothing : value.isNullish = true) :
    hexOr viem fallback value = fallback ∧ saltOr viem fallback value = fallback := by
  cases value <;> simp [JsValue.isNullish] at nothing <;> exact ⟨rfl, rfl⟩

/-- An argument that is taken for what it asks, or for its default. -/
theorem Argument.exists_item (recognises : viem.Recognises) (encodes : viem.Encodes)
    (typed : argument.wellTyped = true) {read : AbiValue}
    (ok : argument.read viem runtime value = .ok read) (taken : viem.fits argument.type read = true)
    (sound : argument.Sound value) : ∃ item, meaning argument.type read = some item ∧
    argument.AskedFor value item := by
  rcases argument with ⟨type, field, reading⟩
  cases reading with
  | requireAddress =>
    cases type <;> simp [Argument.wellTyped] at typed
    rcases map_eq_ok_iff.mp ok with ⟨text, required, rfl⟩
    rcases requireAddress_eq_ok recognises required with ⟨item, same, asked⟩
    exact ⟨item, same, .given asked⟩
  | requireBytes32 =>
    cases type <;> simp [Argument.wellTyped] at typed
    rcases map_eq_ok_iff.mp ok with ⟨text, required, rfl⟩
    rcases requireBytes32_eq_ok recognises required with ⟨item, same, asked⟩
    exact ⟨item, same, .given asked⟩
  | requireUint =>
    cases type <;> simp [Argument.wellTyped] at typed
    rcases map_eq_ok_iff.mp ok with ⟨number, required, rfl⟩
    have nonneg := ((encodes.uint _ _).mp taken).1
    exact ⟨_, if_pos nonneg, .given (requireUint_eq_ok _ nonneg required)⟩
  | requireBool =>
    cases type <;> simp [Argument.wellTyped] at typed
    rcases map_eq_ok_iff.mp ok with ⟨given, required, rfl⟩
    exact ⟨_, rfl, .given (requireBool_eq_ok required)⟩
  | uintOrZero =>
    cases type <;> simp [Argument.wellTyped] at typed
    rcases map_eq_ok_iff.mp ok with ⟨number, required, rfl⟩
    have nonneg := ((encodes.uint _ _).mp taken).1
    refine ⟨_, if_pos nonneg, ?_⟩
    rw [JsValue.orElse] at required
    split at required
    case isTrue nothing =>
      cases required
      exact .absent nothing rfl rfl
    case isFalse => exact .given (requireUint_eq_ok _ nonneg required)
  | hexOr fallback =>
    cases ok
    have kind : type = .bytes32 ∨ type = .bytes := by
      cases type <;> simp [Argument.wellTyped] at typed ⊢
    rcases sound with ⟨item, ⟨asked⟩ | ⟨nothing, default, written⟩⟩
    · exact ⟨item, hexOr_eq recognises kind asked, .given asked⟩
    · cases default
      refine ⟨item, ?_, .absent nothing rfl written⟩
      rw [(hexOr_of_isNullish nothing).1]
      exact written
  | saltOr fallback =>
    cases ok
    cases type <;> simp [Argument.wellTyped] at typed
    rcases sound with ⟨item, ⟨asked⟩ | ⟨nothing, default, written⟩⟩
    · exact ⟨item, saltOr_eq recognises asked, .given asked⟩
    · cases default
      refine ⟨item, ?_, .absent nothing rfl written⟩
      rw [(hexOr_of_isNullish nothing).2]
      exact written

/-! ## Actions -/

/-- The argument is refused, by its validator or for its type. -/
def Argument.Refused (viem : Viem) (runtime : Runtime) (argument : Argument) (value : JsValue) :
    Prop :=
  ∀ read, argument.read viem runtime value = .ok read → viem.fits argument.type read = false

/-- The target or some argument is refused. -/
def RefusedAnyway (viem : Viem) (runtime : Runtime) (actionId : ActionId) (target : String)
    (args : Payload) : Prop :=
  viem.isAddress target = false ∨ ∃ argument ∈ (ENCODERS actionId).arguments,
      argument.Refused viem runtime (JsValue.get args argument.field)

/-- What is encoded goes to the target, and is decoded to the function of the
action with what was asked. -/
def EncodesAsked (viem : Viem) (runtime : Runtime) (actionId : ActionId) (target : String)
    (args : Payload) : Prop :=
  ∀ call, encodeOwnerAction viem runtime actionId target args = .ok call →
    readDigits call.target = readDigits target ∧ ∃ items, viem.decodeFunctionData call.data =
          some ((ENCODERS actionId).fn, items) ∧ List.Forall₂ (fun argument item =>
            argument.AskedFor (JsValue.get args argument.field) item)
          (ENCODERS actionId).arguments items

theorem encodeOwnerAction_eq_ok_iff {call : EncodedCall} :
    encodeOwnerAction viem runtime actionId target args = .ok call ↔ viem.isAddress target = true ∧
        ∃ values data, readArguments viem runtime args (ENCODERS actionId).arguments = .ok values ∧
            viem.encodeFunctionData (ENCODERS actionId).fn values = .ok data ∧
            (⟨actionId, viem.getAddress target, data, "0",
                (ENCODERS actionId).contractTimelocked⟩ : EncodedCall) =
              call := by
  rw [encodeOwnerAction]
  by_cases known : viem.isAddress target = true
  · rw [if_pos known]
    simp only [bind_eq_ok_iff, mapError_eq_ok_iff, pure_eq_ok_iff, known, true_and]
    constructor
    · rintro ⟨values, read, data, encoded, same⟩
      exact ⟨values, data, read, encoded, same⟩
    · rintro ⟨values, data, read, encoded, same⟩
      exact ⟨values, read, data, encoded, same⟩
  · rw [if_neg known]
    simp [known]

/-- Arguments that are not refused are read as values that are taken. -/
theorem exists_values {arguments : List Argument}
    (unrefused : ∀ argument ∈ arguments,
        ¬ argument.Refused viem runtime (JsValue.get args argument.field)) :
    ∃ values, readArguments viem runtime args arguments = .ok values ∧
      List.Forall₂ (fun type value => viem.fits type value = true)
        (arguments.map Argument.type) values := by
  simp only [readArguments, mapM_eq_ok_iff_forall₂]
  induction arguments with
  | nil => exact ⟨[], .nil, .nil⟩
  | cons argument rest induction =>
    rcases induction fun other member =>
      unrefused other (List.mem_cons_of_mem _ member) with
      ⟨values, reads, fits⟩
    have own := unrefused argument List.mem_cons_self
    simp only [Argument.Refused, not_forall, Bool.not_eq_false] at own
    rcases own with ⟨value, read, taken⟩
    exact ⟨value :: values, .cons read reads, .cons taken fits⟩

/-- Arguments that are read as values that are taken are not refused. -/
theorem not_refused_of_values {arguments : List Argument} {values : List AbiValue}
    (reads : readArguments viem runtime args arguments = .ok values)
    (fits : List.Forall₂ (fun type value => viem.fits type value = true)
        (arguments.map Argument.type) values) :
    ∀ argument ∈ arguments, ¬ argument.Refused viem runtime (JsValue.get args argument.field) := by
  rw [readArguments, mapM_eq_ok_iff_forall₂] at reads
  induction reads with
  | nil => exact fun argument absent => absurd absent List.not_mem_nil
  | @cons first value rest values read reads induction =>
    rw [List.map_cons, List.forall₂_cons] at fits
    intro argument member refused
    rcases List.mem_cons.mp member with rfl | later
    · have untaken := refused value read
      rw [fits.1] at untaken
      cases untaken
    · exact induction fits.2 argument later refused

theorem sound_of_forall₂ {arguments : List Argument} {items : List Item}
    (asked : List.Forall₂ (fun argument item =>
          argument.AskedFor (JsValue.get args argument.field) item)
        arguments items) :
    ∀ argument ∈ arguments, argument.Sound (JsValue.get args argument.field) := by
  induction asked with
  | nil => exact fun argument absent => absurd absent List.not_mem_nil
  | @cons first item rest items own others induction =>
    intro argument member
    rcases List.mem_cons.mp member with rfl | later
    · exact ⟨item, own⟩
    · exact induction argument later

/-- What is read of sound arguments means what they ask. -/
theorem exists_items (recognises : viem.Recognises) (encodes : viem.Encodes)
    {arguments : List Argument} {values : List AbiValue}
    (typed : ∀ argument ∈ arguments, argument.wellTyped = true)
    (reads : readArguments viem runtime args arguments = .ok values)
    (fits : List.Forall₂ (fun type value => viem.fits type value = true)
        (arguments.map Argument.type) values)
    (sound : ∀ argument ∈ arguments, argument.Sound (JsValue.get args argument.field)) :
    ∃ items, meanings (arguments.map Argument.type) values = some items ∧ List.Forall₂
        (fun argument item =>
          argument.AskedFor (JsValue.get args argument.field) item)
        arguments items := by
  rw [readArguments, mapM_eq_ok_iff_forall₂] at reads
  induction reads with
  | nil => exact ⟨[], rfl, .nil⟩
  | @cons argument value rest values read reads induction =>
    rw [List.map_cons, List.forall₂_cons] at fits
    rcases induction (fun other member => typed other (List.mem_cons_of_mem _ member)) fits.2
        (fun other member => sound other (List.mem_cons_of_mem _ member)) with
      ⟨items, written, asked⟩
    rcases argument.exists_item recognises encodes (typed argument List.mem_cons_self) read fits.1
        (sound argument List.mem_cons_self) with
      ⟨item, means, askedFor⟩
    refine ⟨item :: items, ?_, .cons askedFor asked⟩
    rw [List.map_cons, meanings, means, written]

/--
What is encoded is what was asked exactly if it is refused anyway, or every
argument that is given is well formed, and the others have defaults.
-/
theorem encodesAsked_iff (recognises : viem.Recognises) (encodes : viem.Encodes) :
    EncodesAsked viem runtime actionId target args ↔
      RefusedAnyway viem runtime actionId target args ∨ ∀ argument ∈ (ENCODERS actionId).arguments,
          argument.Sound (JsValue.get args argument.field) := by
  have types := types_ENCODERS actionId
  constructor
  · intro exact
    rw [or_iff_not_imp_left]
    intro unrefused
    simp only [RefusedAnyway, not_or, Bool.not_eq_false, not_exists, not_and] at unrefused
    rcases exists_values unrefused.2 with ⟨values, reads, fits⟩
    rw [types.2] at fits
    rcases (encodes.taken _ types.1 values).mpr fits with ⟨data, encoded⟩
    rcases exact _ (encodeOwnerAction_eq_ok_iff.mpr
          ⟨unrefused.1, values, data, reads, encoded, rfl⟩) with
      ⟨-, items, -, asked⟩
    exact sound_of_forall₂ asked
  · intro condition call ok
    rcases encodeOwnerAction_eq_ok_iff.mp ok with ⟨known, values, data, reads, encoded, rfl⟩
    have fits := (encodes.taken _ types.1 values).mp ⟨data, encoded⟩
    refine ⟨(recognises.getAddress target known).2.2, ?_⟩
    rw [← types.2] at fits
    rcases condition with (unknown | ⟨argument, member, refused⟩) | sound
    · rw [known] at unknown
      cases unknown
    · exact absurd refused (not_refused_of_values reads fits argument member)
    · rcases exists_items recognises encodes (wellTyped_ENCODERS actionId) reads fits sound with
        ⟨items, written, asked⟩
      rw [types.2] at written
      exact ⟨items, encodes.decoded _ types.1 values items data written encoded, asked⟩

end Mozetto.Governance
