import Mathlib.Data.BitVec
import Mathlib.Data.Int.Log
import Mathlib.Algebra.Order.Round
import Mathlib.Data.Rat.Floor

/-! # Words, checksums and doubles as bytes

Words are stored with the least significant byte first. A double is stored as its
sixty-four bits and read as an exact rational.
-/

namespace M3Midi.Foundation

/-- A byte. -/
abbrev Byte := BitVec 8

/-- The low bytes of a word, the least significant one first. -/
def toBytes : Nat → Nat → List Byte
  | 0, _ => []
  | count + 1, word => BitVec.ofNat 8 word :: toBytes count (word / 256)

/-- The number of some bytes, the lowest one first. -/
def ofBytes : List Byte → Nat
  | [] => 0
  | byte :: rest => byte.toNat + 256 * ofBytes rest

/-- The word of a number of bytes at an offset. -/
def wordAt (bytes : List Byte) (offset count : Nat) : Nat :=
  ofBytes ((bytes.drop offset).take count)

/-- One bit of the checksum. -/
def crcBit (crc : BitVec 32) : BitVec 32 :=
  (crc >>> 1) ^^^ (0xEDB88320 &&& (0 - (crc &&& 1)))

/-- The checksum of some bytes. -/
def crc32 (data : List Byte) : BitVec 32 :=
  data.foldl (fun crc byte => crcBit^[8] (crc ^^^ byte.setWidth 32)) 0xFFFFFFFF ^^^ 0xFFFFFFFF

/-- The value of a double; absent for infinities and for what is not a number. -/
def doubleOfBits (bits : Nat) : Option ℚ :=
  let fraction := bits % 2 ^ 52
  let exponent := bits / 2 ^ 52 % 2 ^ 11
  let magnitude : ℚ :=
    (if exponent = 0 then fraction else 2 ^ 52 + fraction : Nat) *
      (2 : ℚ) ^ ((max exponent 1 : Nat) - 1075 : ℤ)
  if exponent = 2047 then none
  else some (if bits / 2 ^ 63 % 2 = 1 then -magnitude else magnitude)

/-- The nearest integer, the even one of two. -/
def roundHalfEven (value : ℚ) : ℤ :=
  if Int.fract value = 1 / 2 ∧ Even ⌊value⌋ then ⌊value⌋ else round value

/-- The bits of the double nearest to a value below the overflow threshold. -/
def bitsOfDouble (value : ℚ) : Nat :=
  let exponent := max (Int.log 2 |value|) (-1022)
  let significand := roundHalfEven (|value| * (2 : ℚ) ^ (52 - exponent))
  if value = 0 then 0
  else (if value < 0 then 2 ^ 63 else 0) + ((exponent + 1022) * 2 ^ 52 + significand).toNat

/-- A number is written in as many bytes as are asked for. -/
@[simp] theorem length_toBytes (count word : Nat) : (toBytes count word).length = count := by
  induction count generalizing word with
  | zero => rfl
  | succ count ih => rw [toBytes, List.length_cons, ih]

/-- A number is read back from its bytes, as far as they hold it. -/
theorem ofBytes_toBytes (count word : Nat) : ofBytes (toBytes count word) = word % 256 ^ count := by
  induction count generalizing word with
  | zero => rw [toBytes, ofBytes, pow_zero, Nat.mod_one]
  | succ count ih =>
      rw [toBytes, ofBytes, ih, BitVec.toNat_ofNat, pow_succ' 256 count, Nat.mod_mul]

/-- Words that fit are told apart by their bytes. -/
theorem toBytes_inj {count first second : Nat} (firstFits : first < 256 ^ count)
    (secondFits : second < 256 ^ count) (same : toBytes count first = toBytes count second) :
    first = second := by
  have values := congrArg ofBytes same
  rwa [ofBytes_toBytes, ofBytes_toBytes, Nat.mod_eq_of_lt firstFits,
    Nat.mod_eq_of_lt secondFits] at values

/-- Chunks of one length are told apart by what they join to. -/
theorem flatMap_inj {Item Value : Type*} {first second : Item → List Value} {size : Nat}
    (firstSize : ∀ item, (first item).length = size)
    (secondSize : ∀ item, (second item).length = size) {items : List Item}
    (same : items.flatMap first = items.flatMap second) :
    ∀ item ∈ items, first item = second item := by
  induction items with
  | nil => exact fun item member => absurd member List.not_mem_nil
  | cons head items ih =>
      rw [List.flatMap_cons, List.flatMap_cons] at same
      obtain ⟨heads, tails⟩ := List.append_inj same ((firstSize head).trans (secondSize head).symm)
      intro item member
      rcases List.mem_cons.mp member with rfl | later
      · exact heads
      · exact ih tails item later

/-- Chunks of one size make up as many times that size. -/
theorem length_flatMap_const {Item Value : Type*} {chunk : Item → List Value} {size : Nat}
    (chunkSize : ∀ item, (chunk item).length = size) (items : List Item) :
    (items.flatMap chunk).length = items.length * size := by
  rw [List.length_flatMap, List.map_congr_left (fun item _ => chunkSize item), List.map_const',
    List.sum_replicate_nat]

end M3Midi.Foundation
