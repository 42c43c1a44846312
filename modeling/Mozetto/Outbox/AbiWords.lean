import Mathlib.Logic.Equiv.Basic
import Mozetto.EventStore.EventHashChain

/-!
# Encoding by words

The assumptions on the package that encodes and hashes the payloads: it takes
the numbers that fit their types and keeps different inputs apart.  The
encoding by 32-byte words satisfies them with any hash that is injective.
-/

namespace Mozetto.Outbox

open Mozetto.EventStore
open Mozetto.Library.Guarded
open Mozetto.Library.HexText

variable (viem : Viem)

/-! ## The assumptions -/

def FitsWord (bits : Nat) (value : Int) : Prop := 0 ≤ value ∧ value < 2 ^ bits

instance (bits : Nat) (value : Int) : Decidable (FitsWord bits value) :=
  inferInstanceAs (Decidable (_ ∧ _))

/-- Numbers of the given widths are taken and kept apart. -/
structure EncodesNumbers (types : String) (widths : List Nat) : Prop where
  accepted : ∀ values : List Int, (∃ bytes,
        viem.encodeAbiParameters types (values.map .number) = .ok bytes) ↔
        List.Forall₂ FitsWord widths values
  injective : ∀ (values others : List Int) (bytes bytes' : Hex),
      viem.encodeAbiParameters types (values.map .number) = .ok bytes →
        viem.encodeAbiParameters types (others.map .number) = .ok bytes' →
          normalizeHex bytes = normalizeHex bytes' → values = others

/-- A count of cards and their word are taken and kept apart. -/
structure EncodesCards (types : String) : Prop where
  accepted : ∀ count word : Nat, count < 2 ^ 8 → word < 2 ^ 256 → ∃ bytes,
        viem.encodeAbiParameters types [.number count, .hex (wordHex word)] = .ok bytes
  injective : ∀ (count count' word word' : Nat) (bytes bytes' : Hex), viem.encodeAbiParameters types
          [.number count, .hex (wordHex word)] = .ok bytes → viem.encodeAbiParameters types
            [.number count', .hex (wordHex word')] = .ok bytes' →
          normalizeHex bytes = normalizeHex bytes' → count = count' ∧ word = word'

/-- Hashing is injective on bytes, and encoding on what is encoded here. -/
structure KeepsApart : Prop where
  keccak : ∀ bytes bytes', viem.keccak256 bytes = viem.keccak256 bytes' →
      normalizeHex bytes = normalizeHex bytes'
  action :
    EncodesNumbers viem "uint8 seat, uint16 action, uint256 amount" [8, 16, 256]
  blind : EncodesNumbers viem "uint8 seat, uint256 amount" [8, 256]
  street : EncodesCards viem "uint8 nCards, bytes32 cardsWord"
  text : ∀ text text' : String, ¬ ['0', 'x'].isPrefixOf text.toList →
      ¬ ['0', 'x'].isPrefixOf text'.toList →
        normalizeHex (viem.toBytes text) = normalizeHex (viem.toBytes text') → text = text'

/-! ## Words -/

/-- The types of the payloads. -/
inductive WordType where
  | uint (bits : Nat)
  | bytes32

/-- The types that a signature names; only those of the payloads are read. -/
def wordTypes (types : String) : List WordType :=
  if types = "uint8 seat, uint16 action, uint256 amount" then
    [.uint 8, .uint 16, .uint 256]
  else if types = "uint8 seat, uint256 amount" then [.uint 8, .uint 256]
  else if types = "uint8 nCards, bytes32 cardsWord" then
    [.uint 8, .bytes32]
  else []

def wordOf : WordType → AbiValue → Except String Nat
  | .uint bits, .number value =>
      if FitsWord bits value then .ok value.toNat
      else .error "integer out of range"
  | .bytes32, .hex text =>
      if text.toList.length = 66 then
        .ok (hexValue ((text.toList.drop 2).map Char.toLower))
      else .error "wrong size"
  | _, _ => .error "wrong kind of value"

def wordsOf : List WordType → List AbiValue → Except String (List Nat)
  | [], [] => .ok []
  | type :: types, value :: values => do
      let word ← wordOf type value
      let words ← wordsOf types values
      return word :: words
  | _, _ => .error "wrong number of values"

def hexText (width : Nat) (numbers : List Nat) : Hex :=
  String.ofList ('0' :: 'x' :: wordsText width numbers)

/-- Encoding by words, with a given hash. -/
def abiWords (keccak256 : Hex → Hex) : Viem where
  encodeAbiParameters := fun types values =>
    hexText 64 <$> wordsOf (wordTypes types) values
  keccak256 := keccak256
  toBytes := fun text =>
    hexText 2 (text.toUTF8.data.toList.map UInt8.toNat)

variable {keccak256 : Hex → Hex}
variable {width : Nat} {numbers others : List Nat}

/-! ## Words are kept apart -/

/-- The text of words that fit determines them, in whatever case it is. -/
theorem hexText_injective (positive : 0 < width) (fits : ∀ number ∈ numbers, number < 16 ^ width)
    (fits' : ∀ number ∈ others, number < 16 ^ width)
    (equal : normalizeHex (hexText width numbers) = normalizeHex (hexText width others)) :
    numbers = others := by
  have lower : ∀ numbers : List Nat, (normalizeHex (hexText width numbers)).toList =
        '0' :: 'x' :: wordsText width numbers := by
    intro numbers
    have digits : (wordsText width numbers).map Char.toLower = (wordsText width numbers).map id :=
      List.map_congr_left fun digit member => toLower_of_mem_wordsText member
    rw [normalizeHex, String.toLower, String.toList_map, hexText,
      String.toList_ofList, List.map_cons, List.map_cons, digits, List.map_id]
    rfl
  have texts := congrArg String.toList equal
  rw [lower, lower] at texts
  exact wordsText_injective positive fits fits' (List.cons.inj (List.cons.inj texts).2).2

section Numbers

variable {widths : List Nat} {values : List Int} {words : List Nat}

theorem wordsOf_numbers : wordsOf (widths.map .uint) (values.map .number) = .ok words ↔
    List.Forall₂ FitsWord widths values ∧ values.map Int.toNat = words := by
  induction widths generalizing values words with
  | nil =>
    cases values with
    | nil => simp [wordsOf]
    | cons value values =>
      constructor
      · intro equal
        cases equal
      · rintro ⟨fits, -⟩
        cases fits
  | cons width widths induction =>
    cases values with
    | nil =>
      constructor
      · intro equal
        cases equal
      · rintro ⟨fits, -⟩
        cases fits
    | cons value values =>
      simp only [List.map_cons, wordsOf, wordOf, bind_eq_ok_iff,
        pure_eq_ok_iff, List.forall₂_cons, induction]
      by_cases fits : FitsWord width value
      · simp only [fits, if_true, Except.ok.injEq, exists_eq_left', true_and, and_assoc]
        constructor
        · rintro ⟨words, rest, rfl, equal⟩
          exact ⟨rest, equal⟩
        · rintro ⟨rest, equal⟩
          exact ⟨_, rest, rfl, equal⟩
      · simp [fits]

/-- Numbers that fit narrow types are words. -/
theorem small_of_fits (fits : List.Forall₂ FitsWord widths values)
    (narrow : ∀ width ∈ widths, width ≤ 256) :
    ∀ number ∈ values.map Int.toNat, number < 16 ^ 64 := by
  induction fits with
  | nil => simp
  | @cons width value widths values fits rest induction =>
    have small : value < 2 ^ 256 := by
      have power : (2 : Int) ^ width ≤ 2 ^ 256 := by
        exact_mod_cast Nat.pow_le_pow_right (by decide : 0 < 2) (narrow width List.mem_cons_self)
      have below := fits.2
      omega
    have smallRest :=
      induction fun width member =>
        narrow width (List.mem_cons_of_mem _ member)
    intro number member
    rw [List.map_cons] at member
    rcases List.mem_cons.mp member with rfl | later
    · omega
    · exact smallRest number later

theorem toNat_injective_of_fits {widths' : List Nat} {values' : List Int}
    (fits : List.Forall₂ FitsWord widths values) (fits' : List.Forall₂ FitsWord widths' values')
    (equal : values.map Int.toNat = values'.map Int.toNat) : values = values' := by
  induction fits generalizing widths' values' with
  | nil => simpa using equal.symm
  | cons first rest induction =>
    cases fits' with
    | nil => cases equal
    | cons first' rest' =>
      have heads := (List.cons.inj equal).1
      have tails := (List.cons.inj equal).2
      have nonneg := first.1
      have nonneg' := first'.1
      rw [induction rest' tails]
      congr 1
      omega

theorem encodesNumbers_abiWords {types : String} (named : wordTypes types = widths.map .uint)
    (narrow : ∀ width ∈ widths, width ≤ 256) :
    EncodesNumbers (abiWords keccak256) types widths where
  accepted := by
    intro values
    simp only [abiWords, named, map_eq_ok_iff, wordsOf_numbers]
    constructor
    · rintro ⟨bytes, words, ⟨fits, -⟩, -⟩
      exact fits
    · intro fits
      exact ⟨_, _, ⟨fits, rfl⟩, rfl⟩
  injective := by
    intro values others bytes bytes' encoded encoded' equal
    simp only [abiWords, named, map_eq_ok_iff, wordsOf_numbers] at encoded encoded'
    rcases encoded with ⟨words, ⟨fits, rfl⟩, rfl⟩
    rcases encoded' with ⟨words', ⟨fits', rfl⟩, rfl⟩
    have same :=
      hexText_injective (by decide) (small_of_fits fits narrow) (small_of_fits fits' narrow) equal
    exact toNat_injective_of_fits fits fits' same

end Numbers

theorem wordsOf_cards {count word : Nat} {words : List Nat} :
    wordsOf [.uint 8, .bytes32] [.number count, .hex (wordHex word)] = .ok words ↔
      count < 2 ^ 8 ∧ word < 2 ^ 256 ∧ [count, word] = words := by
  have restored : ((wordHex word).toList.drop 2).map Char.toLower = padded 64 word := by
    rw [toList_wordHex]
    exact (List.map_congr_left fun digit member =>
      toLower_of_mem_padded member).trans (List.map_id _)
  have length : (wordHex word).toList.length = 66 ↔ word < 2 ^ 256 := by
    rw [show (2 : Nat) ^ 256 = 16 ^ 64 by decide,
      ← length_padded_iff (by decide : 0 < 64), toList_wordHex, List.length_cons, List.length_cons]
    omega
  have small : FitsWord 8 (count : Int) ↔ count < 2 ^ 8 := by
    constructor
    · intro fits
      exact Int.ofNat_lt.mp fits.2
    · intro fits
      exact ⟨Int.natCast_nonneg count, Int.ofNat_lt.mpr fits⟩
  simp only [wordsOf, wordOf, small, length, restored, hexValue_padded,
    Int.toNat_natCast, bind_eq_ok_iff, pure_eq_ok_iff]
  constructor
  · rintro ⟨first, fitsFirst, rest, ⟨second, fitsSecond, last, none, rfl⟩, rfl⟩
    cases none
    split at fitsFirst
    case isFalse => cases fitsFirst
    case isTrue few =>
      split at fitsSecond
      case isFalse => cases fitsSecond
      case isTrue fits =>
        cases fitsFirst
        cases fitsSecond
        exact ⟨few, fits, rfl⟩
  · rintro ⟨few, fits, rfl⟩
    exact ⟨count, if_pos few, [word], ⟨word, if_pos fits, [], rfl, rfl⟩, rfl⟩

theorem encodesCards_abiWords : EncodesCards (abiWords keccak256)
    "uint8 nCards, bytes32 cardsWord" where
  accepted := by
    intro count word few fits
    simp only [abiWords, map_eq_ok_iff]
    exact ⟨_, _, wordsOf_cards.mpr ⟨few, fits, rfl⟩, rfl⟩
  injective := by
    intro count count' word word' bytes bytes' encoded encoded' equal
    rcases map_eq_ok_iff.mp encoded with ⟨words, taken, rfl⟩
    rcases map_eq_ok_iff.mp encoded' with ⟨words', taken', rfl⟩
    rcases wordsOf_cards.mp taken with ⟨few, fits, rfl⟩
    rcases wordsOf_cards.mp taken' with ⟨few', fits', rfl⟩
    have same := hexText_injective (by decide) (by simp; omega) (by simp; omega) equal
    simpa using same

/-- Encoding by words keeps apart what an injective hash keeps apart. -/
theorem keepsApart_abiWords
    (injective : ∀ bytes bytes', keccak256 bytes = keccak256 bytes' →
        normalizeHex bytes = normalizeHex bytes') :
    KeepsApart (abiWords keccak256) where
  keccak := injective
  action := encodesNumbers_abiWords rfl (by decide)
  blind := encodesNumbers_abiWords rfl (by decide)
  street := encodesCards_abiWords
  text := by
    intro text text' _ _ equal
    have bytes : ∀ text : String, ∀ number ∈ text.toUTF8.data.toList.map UInt8.toNat,
          number < 16 ^ 2 := by
      intro text number member
      rcases List.mem_map.mp member with ⟨byte, -, rfl⟩
      exact byte.toNat_lt
    have same := hexText_injective (by decide) (bytes text) (bytes text') equal
    have data := (List.map_injective_iff.mpr fun _ _ => UInt8.toNat_inj.mp) same
    exact String.toByteArray_inj.mp (ByteArray.ext (Array.toList_inj.mp data))

end Mozetto.Outbox
