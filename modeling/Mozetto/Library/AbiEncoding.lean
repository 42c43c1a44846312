import Mozetto.Library.HexText

/-!
# Words and byte strings with their offsets

The encoding of argument lists by 32-byte words, in hexadecimal digits.  A
number is a word in its place; in the place of a byte string stands the offset
of its tail, which has the length, the bytes, and zeros up to the next word.
Decoding a list by its kinds gives the list back.
-/

namespace Mozetto.Library.AbiEncoding

open Mozetto.Library.HexText

/-- A word, or a byte string as its digits. -/
inductive Item where
  | word (number : Nat)
  | bytes (digits : List Char)
deriving DecidableEq

inductive Kind where
  | word
  | bytes
deriving DecidableEq

def Item.kind : Item → Kind
  | .word _ => .word
  | .bytes _ => .bytes

/-! ## Encoding -/

/-- The zeros after a byte string, up to the next word. -/
def padding (digits : List Char) : List Char := List.replicate ((64 - digits.length % 64) % 64) '0'

/-- What stands behind the places of the list. -/
def tail : Item → List Char
  | .word _ => []
  | .bytes digits =>
      padded 64 (digits.length / 2) ++ (digits ++ padding digits)

/-- The places of a list whose tails begin at an offset, in bytes. -/
def heads (offset : Nat) : List Item → List Char
  | [] => []
  | .word number :: rest => padded 64 number ++ heads offset rest
  | .bytes digits :: rest =>
      padded 64 offset ++ heads (offset + (tail (.bytes digits)).length / 2) rest

def tails (items : List Item) : List Char := items.flatMap tail

def encode (items : List Item) : List Char := heads (32 * items.length) items ++ tails items

/-! ## Decoding -/

/-- The word at an offset, in bytes. -/
def wordAt (data : List Char) (offset : Nat) : Nat := hexValue ((data.drop (2 * offset)).take 64)

def readItem (data : List Char) (index : Nat) : Kind → Item
  | .word => .word (wordAt data (32 * index))
  | .bytes =>
      let offset := wordAt data (32 * index)
      .bytes ((data.drop (2 * (offset + 32))).take (2 * wordAt data offset))

/-- The items whose places begin with the one of an index. -/
def decodeFrom (data : List Char) (index : Nat) : List Kind → List Item
  | [] => []
  | kind :: rest => readItem data index kind :: decodeFrom data (index + 1) rest

def decode (kinds : List Kind) (data : List Char) : List Item := decodeFrom data 0 kinds

/-! ## Decoding what was encoded -/

variable {items rest : List Item} {digits data front : List Char}
variable {offset number index : Nat}

/-- Words are words, and byte strings have whole bytes. -/
def Fits : Item → Prop
  | .word number => number < 16 ^ 64
  | .bytes digits => digits.length % 2 = 0

/-- A byte string of a writable length fills whole bytes with its tail. -/
theorem length_tail_even {item : Item} (fits : Fits item) (small : (tail item).length < 16 ^ 64) :
    2 * ((tail item).length / 2) = (tail item).length := by
  cases item with
  | word number => simp [tail]
  | bytes digits =>
    have even : digits.length % 2 = 0 := fits
    have short : digits.length / 2 < 16 ^ 64 := by
      simp only [tail, List.length_append] at small
      omega
    simp only [tail, padding, List.length_append, List.length_replicate,
      length_padded (by decide : 0 < 64) short]
    omega

theorem tails_cons (item : Item) : tails (item :: rest) = tail item ++ tails rest := rfl

/-- Every item takes one place. -/
theorem length_heads (fits : ∀ item ∈ items, Fits item)
    (small : 2 * offset + (tails items).length < 16 ^ 64) :
    (heads offset items).length = 64 * items.length := by
  induction items generalizing offset with
  | nil => rfl
  | cons item rest induction =>
    have own := fits item List.mem_cons_self
    have others : ∀ item ∈ rest, Fits item :=
      fun item member => fits item (List.mem_cons_of_mem _ member)
    rw [tails_cons, List.length_append] at small
    cases item with
    | word number =>
      have width := length_padded (by decide : 0 < 64) own
      rw [heads, List.length_append, width, induction others (by omega), List.length_cons]
      omega
    | bytes digits =>
      have width :=
        length_padded (by decide : 0 < 64) (show offset < 16 ^ 64 by omega)
      have even := length_tail_even own (by omega)
      rw [heads, List.length_append, width, induction others (by omega), List.length_cons]
      omega

/-- A word in front of the data behind an offset. -/
theorem wordAt_of_eq_append (split : data = front ++ (padded 64 number ++ digits))
    (place : front.length = 2 * offset) (fits : number < 16 ^ 64) :
    wordAt data offset = number := by
  have width := length_padded (by decide : 0 < 64) fits
  rw [wordAt, split, ← place, List.drop_left, List.take_left' width, hexValue_padded]

/-- A byte string behind its length. -/
theorem take_of_eq_append {content : List Char}
    (split : data = front ++ (padded 64 number ++ (content ++ digits)))
    (place : front.length = 2 * offset) (fits : number < 16 ^ 64)
    (whole : content.length = 2 * number) :
    (data.drop (2 * (offset + 32))).take (2 * number) = content := by
  have width := length_padded (by decide : 0 < 64) fits
  have before : (front ++ padded 64 number).length = 2 * (offset + 32) := by
    rw [List.length_append, width, place]
    omega
  rw [split, ← List.append_assoc, ← before, List.drop_left, List.take_left' whole]

/-- Items whose places stand behind `front`, and whose tails stand behind
`middle`, are decoded. -/
theorem decodeFrom_eq {middle after : List Char} (fits : ∀ item ∈ items, Fits item)
    (split : data = front ++ (heads offset items ++ (middle ++ (tails items ++ after))))
    (place : front.length = 64 * index)
    (reach : 2 * offset = front.length + 64 * items.length + middle.length)
    (small : 2 * offset + (tails items).length < 16 ^ 64) :
    decodeFrom data index (items.map Item.kind) = items := by
  induction items generalizing front middle offset index with
  | nil => rfl
  | cons item rest induction =>
    have own := fits item List.mem_cons_self
    have others : ∀ item ∈ rest, Fits item :=
      fun item member => fits item (List.mem_cons_of_mem _ member)
    have here : front.length = 2 * (32 * index) := by omega
    rw [tails_cons, List.length_append] at small
    rw [List.length_cons] at reach
    cases item with
    | word number =>
      have width := length_padded (by decide : 0 < 64) own
      have first : data = front ++ (padded 64 number ++
            (heads offset rest ++ (middle ++ (tails rest ++ after)))) := by
        rw [split, heads, tails_cons]
        simp [tail]
      have read : wordAt data (32 * index) = number := wordAt_of_eq_append first here own
      have later :=
        @induction (front ++ padded 64 number) offset (index + 1) middle others
          (by rw [first, List.append_assoc]) (by rw [List.length_append, width]; omega)
          (by rw [List.length_append, width]; omega) (by omega)
      rw [List.map_cons, decodeFrom, later]
      simp only [Item.kind, readItem, read]
    | bytes digits =>
      have reachable : offset < 16 ^ 64 := by omega
      have width := length_padded (by decide : 0 < 64) reachable
      have even := length_tail_even own (by omega)
      have whole : digits.length % 2 = 0 := own
      have short : digits.length / 2 < 16 ^ 64 := by
        simp only [tail, List.length_append] at small
        omega
      have places :=
        @length_heads rest (offset + (tail (.bytes digits)).length / 2) others (by omega)
      have first : data = front ++ (padded 64 offset ++
            (heads (offset + (tail (.bytes digits)).length / 2) rest ++ (middle ++
                (tail (.bytes digits) ++ (tails rest ++ after))))) := by
        rw [split, heads, tails_cons]
        simp
      have read : wordAt data (32 * index) = offset := wordAt_of_eq_append first here reachable
      have behind : data = (front ++ (padded 64 offset ++
              (heads (offset + (tail (.bytes digits)).length / 2) rest ++ middle))) ++
            (padded 64 (digits.length / 2) ++
              (digits ++ (padding digits ++ (tails rest ++ after)))) := by
        rw [first]
        simp [tail]
      have far : (front ++ (padded 64 offset ++
              (heads (offset + (tail (.bytes digits)).length / 2) rest ++ middle))).length =
          2 * offset := by
        simp only [List.length_append, width, places]
        omega
      have length : wordAt data offset = digits.length / 2 :=
        wordAt_of_eq_append behind far short
      have content : (data.drop (2 * (offset + 32))).take (2 * (digits.length / 2)) = digits :=
        take_of_eq_append behind far short (by omega)
      have later :=
        @induction (front ++ padded 64 offset)
          (offset + (tail (.bytes digits)).length / 2) (index + 1)
          (middle ++ tail (.bytes digits)) others (by rw [first]; simp)
          (by rw [List.length_append, width]; omega)
          (by simp only [List.length_append, width]; omega) (by omega)
      rw [List.map_cons, decodeFrom, later]
      simp only [Item.kind, readItem, read, length, content]

/-- Decoding by its kinds gives back a list that is not astronomic. -/
theorem decode_encode (fits : ∀ item ∈ items, Fits item)
    (small : 64 * items.length + (tails items).length < 16 ^ 64) :
    decode (items.map Item.kind) (encode items) = items := by
  rw [decode]
  apply @decodeFrom_eq items (encode items) [] (32 * items.length) 0 [] [] fits
  · simp [encode]
  · rfl
  · simp only [List.length_nil]
    omega
  · omega

end Mozetto.Library.AbiEncoding
