import M3Midi.Foundation.ByteCodec
import Mathlib.Data.List.FinRange

/-! # Slices of byte strings

A slice of a byte string is a number of its bytes from an offset, so that the word
at an offset is read from a slice. A word's bytes are written back from the slice
it was read from (`M3Midi.Foundation.toBytes_wordAt`), and adjacent slices join to
one (`M3Midi.Foundation.slice_append_slice`,
`M3Midi.Foundation.flatMap_slice`): a string is put together again from the fields
a decoder read.
-/

namespace M3Midi.Foundation

variable {bytes front back : List Byte} {offset count first second : Nat}

/-- A number of bytes from an offset. -/
def slice (bytes : List Byte) (offset count : Nat) : List Byte := (bytes.drop offset).take count

/-- A slice within the bytes has the length that is asked for. -/
theorem length_slice (inside : offset + count ≤ bytes.length) :
    (slice bytes offset count).length = count := by
  rw [slice, List.length_take, List.length_drop]
  omega

/-- The slice of everything is everything. -/
theorem slice_zero_length : slice bytes 0 bytes.length = bytes := List.take_length

/-- A slice that reaches the end is what is left of the string. -/
theorem slice_eq_drop (reaches : bytes.length ≤ offset + count) :
    slice bytes offset count = bytes.drop offset := by
  rw [slice, List.take_of_length_le]
  rw [List.length_drop]
  omega

/-- A slice of what is left after some bytes lies as much further on. -/
@[simp] theorem slice_drop (start : Nat) :
    slice (bytes.drop start) offset count = slice bytes (start + offset) count := by
  rw [slice, slice, List.drop_drop]

/-- Adjacent slices are one slice. -/
theorem slice_append_slice {next : Nat} (adjacent : next = offset + first) :
    slice bytes offset first ++ slice bytes next second = slice bytes offset (first + second) := by
  rw [adjacent, slice, slice, slice, List.take_add, List.drop_drop]

/-- A slice within the first part does not see the second. -/
theorem slice_append_left (inside : offset + count ≤ front.length) :
    slice (front ++ back) offset count = slice front offset count := by
  rw [slice, slice, List.drop_append_of_le_length (by omega), List.take_append_of_le_length]
  rw [List.length_drop]
  omega

/-- A slice behind the first part does not see the first. -/
theorem slice_append_right :
    slice (front ++ back) (front.length + offset) count = slice back offset count := by
  rw [slice, slice, List.drop_append, List.drop_of_length_le (by omega), List.nil_append,
    Nat.add_sub_cancel_left]

/-- A slice inside a slice is a slice. -/
theorem slice_slice {start length : Nat} (inside : offset + count ≤ length) :
    slice (slice bytes start length) offset count = slice bytes (start + offset) count := by
  rw [slice, slice, slice, List.drop_take, List.take_take, List.drop_drop,
    Nat.min_eq_left (by omega)]

/-- The slices of a table of chunks are the chunks. -/
theorem slice_flatMap {entries size : Nat} {chunk : Fin entries → List Byte}
    (chunkSize : ∀ entry, (chunk entry).length = size) (entry : Fin entries) :
    slice ((List.finRange entries).flatMap chunk) (entry * size) size = chunk entry := by
  induction entries with
  | zero => exact entry.elim0
  | succ entries ih =>
      rw [List.finRange_succ, List.flatMap_cons, List.flatMap_map]
      cases entry using Fin.cases with
      | zero =>
          rw [Fin.val_zero, Nat.zero_mul, slice_append_left (by rw [chunkSize]; omega)]
          rw [← chunkSize 0]
          exact slice_zero_length
      | succ entry =>
          have past : (entry.succ : Nat) * size = (chunk 0).length + entry * size := by
            rw [chunkSize, Fin.val_succ, Nat.succ_mul, Nat.add_comm]
          rw [past, slice_append_right]
          exact ih (fun other => chunkSize other.succ) entry

/-- Adjacent slices of one size are one slice. -/
theorem flatMap_slice (bytes : List Byte) (entries start size : Nat) :
    ((List.finRange entries).flatMap fun entry : Fin entries => slice bytes (start + entry * size) size) =
      slice bytes start (entries * size) := by
  induction entries generalizing start with
  | zero => rw [List.finRange_zero, List.flatMap_nil, Nat.zero_mul, slice, List.take_zero]
  | succ entries ih =>
      have shifted (entry : Fin entries) :
          start + (entry.succ : Nat) * size = start + size + entry * size := by
        rw [Fin.val_succ, Nat.succ_mul]
        omega
      rw [List.finRange_succ, List.flatMap_cons, List.flatMap_map]
      simp only [shifted, ih]
      rw [Fin.val_zero, Nat.zero_mul, Nat.add_zero, slice_append_slice rfl, Nat.succ_mul,
        Nat.add_comm size]

/-- The number of some bytes is below the power of their count. -/
theorem ofBytes_lt (bytes : List Byte) : ofBytes bytes < 256 ^ bytes.length := by
  induction bytes with
  | nil => exact Nat.one_pos
  | cons byte rest ih =>
      rw [ofBytes, List.length_cons, pow_succ']
      have small := byte.isLt
      omega

/-- Bytes are read back from their number. -/
theorem toBytes_ofBytes (bytes : List Byte) : toBytes bytes.length (ofBytes bytes) = bytes := by
  induction bytes with
  | nil => rfl
  | cons byte rest ih =>
      have low : BitVec.ofNat 8 (byte.toNat + 256 * ofBytes rest) = byte := by
        apply BitVec.eq_of_toNat_eq
        rw [BitVec.toNat_ofNat]
        have small := byte.isLt
        omega
      have high : (byte.toNat + 256 * ofBytes rest) / 256 = ofBytes rest := by
        have small := byte.isLt
        omega
      rw [ofBytes, List.length_cons, toBytes, low, high, ih]

/-- The bytes of a word that was read are the bytes it was read from. -/
theorem toBytes_wordAt (inside : offset + count ≤ bytes.length) :
    toBytes count (wordAt bytes offset count) = slice bytes offset count := by
  have written := toBytes_ofBytes (slice bytes offset count)
  rwa [length_slice inside] at written

/-- A word within the bytes is below the power of its size. -/
theorem wordAt_lt (inside : offset + count ≤ bytes.length) :
    wordAt bytes offset count < 256 ^ count := by
  have small := ofBytes_lt (slice bytes offset count)
  rwa [length_slice inside] at small

/-- A word within the first part does not see the second. -/
theorem wordAt_append_left (inside : offset + count ≤ front.length) :
    wordAt (front ++ back) offset count = wordAt front offset count :=
  congrArg ofBytes (slice_append_left inside)

/-- A word is read back where it was appended. -/
theorem wordAt_append_toBytes (word : Nat) (place : offset = front.length) :
    wordAt (front ++ toBytes count word) offset count = word % 256 ^ count := by
  have read : slice (front ++ toBytes count word) (front.length + 0) count = toBytes count word := by
    rw [slice_append_right, slice, List.drop_zero, List.take_of_length_le (length_toBytes _ _).le]
  rw [place]
  exact (congrArg ofBytes read).trans (ofBytes_toBytes count word)

/-- A sixteen-bit field of a string, written back. -/
theorem toBytes_field (inside : offset + 2 ≤ bytes.length) :
    toBytes 2 (BitVec.ofNat 16 (wordAt bytes offset 2)).toNat = slice bytes offset 2 := by
  have small : wordAt bytes offset 2 < 2 ^ 16 := wordAt_lt inside
  rw [BitVec.toNat_ofNat, Nat.mod_eq_of_lt small, toBytes_wordAt inside]

/-- A byte of a string, written back. -/
theorem byte_field (inside : offset + 1 ≤ bytes.length) :
    [BitVec.ofNat 8 (wordAt bytes offset 1)] = slice bytes offset 1 :=
  toBytes_wordAt inside

end M3Midi.Foundation
