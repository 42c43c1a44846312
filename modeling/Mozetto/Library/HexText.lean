import Mathlib.Algebra.Group.Nat.Defs
import Mathlib.Data.List.Basic
import Mathlib.Tactic.Common

/-!
# Hexadecimal digits of numbers

Numbers are written with their hexadecimal digits, filled up with zeros to a
fixed width.  Reading the digits gives the number back, so the text of a word
determines it, and texts of equal width can be told apart when they stand one
after the other.
-/

namespace Mozetto.Library.HexText

/-- The value of a lower-case hexadecimal digit. -/
def digitValue (digit : Char) : Nat :=
  if digit.toNat < 97 then digit.toNat - 48 else digit.toNat - 87

/-- The number that hexadecimal digits write. -/
def hexValue (digits : List Char) : Nat :=
  digits.foldl (fun value digit => 16 * value + digitValue digit) 0

/-- The digits of a number, filled up with zeros to `width`. -/
def padded (width number : Nat) : List Char :=
  List.replicate (width - (Nat.toDigits 16 number).length) '0' ++ Nat.toDigits 16 number

variable {width number other : Nat}

theorem digitValue_digitChar (small : number < 16) : digitValue number.digitChar = number := by
  have known : ∀ digit < 16, digitValue digit.digitChar = digit := by
    decide
  exact known number small

theorem toLower_digitChar (small : number < 16) : number.digitChar.toLower = number.digitChar := by
  have known : ∀ digit < 16, digit.digitChar.toLower = digit.digitChar := by
    decide
  exact known number small

/-- Reading the digits of a number gives the number. -/
@[simp]
theorem hexValue_toDigits (number : Nat) : hexValue (Nat.toDigits 16 number) = number := by
  induction number using Nat.strongRecOn with
  | ind number induction =>
    rw [Nat.toDigits_eq_if (by decide)]
    split
    case isTrue small =>
      simpa [hexValue] using digitValue_digitChar small
    case isFalse large =>
      have value := induction (number / 16) (by omega)
      have digit := digitValue_digitChar (Nat.mod_lt number (by decide))
      simp only [hexValue, List.foldl_append, List.foldl_cons, List.foldl_nil] at value ⊢
      rw [value, digit]
      omega

/-- The digits of a number are in lower case. -/
theorem toLower_of_mem_toDigits {digit : Char} (member : digit ∈ Nat.toDigits 16 number) :
    digit.toLower = digit := by
  induction number using Nat.strongRecOn with
  | ind number induction =>
    rw [Nat.toDigits_eq_if (by decide)] at member
    split at member
    case isTrue small =>
      rw [List.mem_singleton.mp member]
      exact toLower_digitChar small
    case isFalse large =>
      rcases List.mem_append.mp member with earlier | last
      · exact induction (number / 16) (by omega) earlier
      · rw [List.mem_singleton.mp last]
        exact toLower_digitChar (Nat.mod_lt number (by decide))

theorem hexValue_replicate (count : Nat) : hexValue (List.replicate count '0') = 0 := by
  induction count with
  | zero => rfl
  | succ count induction =>
    rw [List.replicate_succ', hexValue, List.foldl_append]
    rw [hexValue] at induction
    rw [induction]
    rfl

/-- Leading zeros do not change the number. -/
@[simp]
theorem hexValue_padded (width number : Nat) : hexValue (padded width number) = number := by
  have zeros := hexValue_replicate (width - (Nat.toDigits 16 number).length)
  have value := hexValue_toDigits number
  rw [hexValue] at zeros value
  rw [hexValue, padded, List.foldl_append, zeros, value]

/-- The digits of a number determine it. -/
theorem padded_injective (equal : padded width number = padded width other) : number = other := by
  have values := congrArg hexValue equal
  rwa [hexValue_padded, hexValue_padded] at values

theorem toLower_of_mem_padded {digit : Char} (member : digit ∈ padded width number) :
    digit.toLower = digit := by
  rcases List.mem_append.mp member with zero | digits
  · rw [List.eq_of_mem_replicate zero]
    rfl
  · exact toLower_of_mem_toDigits digits

/-- The digits of a number fill the width exactly when the number fits. -/
theorem length_padded_iff (positive : 0 < width) :
    (padded width number).length = width ↔ number < 16 ^ width := by
  rw [← Nat.length_toDigits_le_iff (by decide) positive, padded,
    List.length_append, List.length_replicate]
  omega

theorem length_padded (positive : 0 < width) (fits : number < 16 ^ width) :
    (padded width number).length = width := (length_padded_iff positive).mpr fits

/-- Words of equal width that stand one after the other can be told apart. -/
theorem padded_append_injective {rest rest' : List Char} (positive : 0 < width)
    (fits : number < 16 ^ width) (fits' : other < 16 ^ width)
    (equal : padded width number ++ rest = padded width other ++ rest') :
    number = other ∧ rest = rest' := by
  have lengths : (padded width number).length = (padded width other).length := by
    rw [length_padded positive fits, length_padded positive fits']
  rcases List.append_inj equal lengths with ⟨words, rests⟩
  exact ⟨padded_injective words, rests⟩

/-- Numbers one after the other, each at the given width. -/
def wordsText (width : Nat) (numbers : List Nat) : List Char := numbers.flatMap (padded width)

theorem toLower_of_mem_wordsText {digit : Char} {numbers : List Nat}
    (member : digit ∈ wordsText width numbers) : digit.toLower = digit := by
  rcases List.mem_flatMap.mp member with ⟨number, -, inWord⟩
  exact toLower_of_mem_padded inWord

/-- The text of words that fit determines them, and how many there are. -/
theorem wordsText_injective {numbers others : List Nat} (positive : 0 < width)
    (fits : ∀ number ∈ numbers, number < 16 ^ width)
    (fits' : ∀ number ∈ others, number < 16 ^ width)
    (equal : wordsText width numbers = wordsText width others) : numbers = others := by
  have nonempty : ∀ number rest, number < 16 ^ width → padded width number ++ rest ≠ [] := by
    intro number rest small empty
    have lengths := congrArg List.length empty
    rw [List.length_append, length_padded positive small, List.length_nil] at lengths
    omega
  induction numbers generalizing others with
  | nil =>
    cases others with
    | nil => rfl
    | cons other others =>
      exact absurd equal.symm (nonempty other _ (fits' other List.mem_cons_self))
  | cons number numbers induction =>
    have small := fits number List.mem_cons_self
    cases others with
    | nil => exact absurd equal (nonempty number _ small)
    | cons other others =>
      have small' := fits' other List.mem_cons_self
      rcases padded_append_injective positive small small' equal with ⟨heads, tails⟩
      rw [heads, induction (fun number member =>
            fits number (List.mem_cons_of_mem _ member))
          (fun number member =>
            fits' number (List.mem_cons_of_mem _ member))
          tails]

end Mozetto.Library.HexText
