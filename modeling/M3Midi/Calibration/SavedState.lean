import M3Midi.Calibration.ImageCodec
import M3Midi.Parameter.ImageCodec

/-! # A saved state, whole and in parts

What is saved loads again, with every value on its nearest step (`M3Midi.loadState_saved`). A
part of it loads only where the first image ends, and nothing loads with more behind it
(`M3Midi.loadState_truncated`, `M3Midi.loadState_excess`).
-/

namespace M3Midi

open Foundation

/-- Records of finite doubles are accepted. -/
theorem decodeRecords_finite {bits : PersistentField → Nat} (fields : List PersistentField)
    (finite : ∀ field ∈ fields, bits field < 2 ^ 64 ∧
      ∃ stored, doubleOfBits (bits field) = some stored) (candidate : PersistentConfig) :
    ∃ config, decodeRecords fields (fields.flatMap (stateRecord bits)) candidate = some config := by
  induction fields generalizing candidate with
  | nil => exact ⟨candidate, rfl⟩
  | cons field fields ih =>
      obtain ⟨spec, found, -⟩ := findParameter_field field
      obtain ⟨small, stored, read⟩ := finite field List.mem_cons_self
      obtain ⟨config, decoded⟩ := ih (fun other member => finite other (List.mem_cons_of_mem _ member))
        (setField field (roundToStep spec stored) candidate)
      obtain ⟨named, word⟩ := wordAt_stateRecord bits field (fields.flatMap (stateRecord bits))
      refine ⟨config, (decodeRecords_cons found ..).mpr ?_⟩
      rw [List.flatMap_cons, word, Nat.mod_eq_of_lt (show bits field < 256 ^ 8 by omega),
        List.drop_left' (length_stateRecord bits field)]
      exact ⟨named, stored, read, decoded⟩

/-- An image of finite doubles decodes to the steps nearest to them. -/
theorem decodeState_finite {bits : PersistentField → Nat}
    (finite : ∀ field, bits field < 2 ^ 64 ∧ ∃ stored, doubleOfBits (bits field) = some stored) :
    ∃ config, decodeState (stateImage bits) = some config ∧
      ∀ field, HoldsStep config (bits field) field := by
  obtain ⟨config, decoded⟩ := decodeRecords_finite PersistentField.all
    (fun field _ => finite field) {}
  obtain ⟨others, same, holds, -⟩ :=
    (decodeRecords_iff nodup_fields (length_records bits) {} config).mp decoded
  have equal : ∀ field, others field = bits field := by
    intro field
    have record := flatMap_inj (length_stateRecord bits) (length_stateRecord others) same field
      (mem_fields field)
    have small := (holds field (mem_fields field)).1
    exact (toBytes_inj (show bits field < 256 ^ 8 from (finite field).1)
      (show others field < 256 ^ 8 by omega) (List.append_inj record rfl).2).symm
  refine ⟨config, decodeState_iff.mpr ⟨bits, rfl, fun field => ?_⟩, fun field => ?_⟩
  · exact ⟨(finite field).1, equal field ▸ (holds field (mem_fields field)).2⟩
  · exact equal field ▸ (holds field (mem_fields field)).2

/-- The double of a value in its range is finite. -/
theorem finite_fieldBits {config : PersistentConfig} (inside : ∀ field, InRange config field)
    (field : PersistentField) : fieldBits config field < 2 ^ 64 ∧
      ∃ stored, doubleOfBits (fieldBits config field) = some stored := by
  obtain ⟨spec, found, -⟩ := findParameter_field field
  obtain ⟨low, high⟩ := inside field spec found
  obtain ⟨least, greatest, -⟩ := parameters_coarse (findParameter_self found).2
  have size : |fieldValue config field| < (2 : ℚ) ^ (10 : ℤ) := by
    rw [show ((2 : ℚ) ^ (10 : ℤ)) = 1024 by norm_num]
    exact abs_lt.mpr ⟨by linarith, by linarith⟩
  obtain ⟨small, stored, read, -⟩ := doubleOfBits_bitsOfDouble
    (size.trans_le (zpow_le_zpow_right₀ (one_le_two (α := ℚ)) (by norm_num)))
  exact ⟨small, stored, read⟩

/-- The image of a configuration has its fixed size. -/
theorem length_of_encodeState {config : PersistentConfig} {image : List Byte}
    (encoded : encodeState config = some image) : image.length = stateSize := by
  obtain ⟨-, rfl⟩ := encodeState_iff.mp encoded
  exact (stateImage_spec _).1

/-- A configuration in its ranges is read back with every value on its nearest step. -/
theorem decodeState_of_encoded_rounded {config : PersistentConfig} {image : List Byte}
    (encoded : encodeState config = some image) :
    ∃ rounded, decodeState image = some rounded ∧
      (∀ field, HoldsStep rounded (fieldBits config field) field) ∧
      (Canonical config → rounded = config) := by
  obtain ⟨inside, rfl⟩ := encodeState_iff.mp encoded
  obtain ⟨rounded, decoded, holds⟩ := decodeState_finite (finite_fieldBits inside)
  refine ⟨rounded, decoded, holds, fun canonical => ?_⟩
  exact Option.some.inj (decoded.symm.trans (decodeState_of_encoded canonical encoded))

/-- Only images of that size are read. -/
theorem decodeState_length {bytes : List Byte} {config : PersistentConfig}
    (decoded : decodeState bytes = some config) : bytes.length = stateSize := by
  obtain ⟨bits, rfl, -⟩ := decodeState_iff.mp decoded
  exact (stateImage_spec bits).1

/-- The bytes of a calibration image (`kCalibrationStateSize`). -/
def calibrationStateSize : ℕ :=
  calibrationStateHeaderSize + calibrationPayloadSize calibrationPointStateSize

/-- The image of a bank has its fixed size and the present version. -/
theorem encodeCalibrationState_version {bank : StringCalibrationBank} {image : List Byte}
    (encoded : encodeCalibrationState bank = some image) :
    image.length = calibrationStateSize ∧ wordAt image 4 2 = 2 := by
  have version := hasVersion_spec (encodeCalibrationState_spec encoded).2.2.1
  exact ⟨version.2.1, version.1⟩

/-- No image that is read as a bank is larger. -/
theorem decodeCalibrationState_length_le {bytes : List Byte} {bank : StringCalibrationBank}
    (decoded : decodeCalibrationState bytes = some bank) : bytes.length ≤ calibrationStateSize := by
  obtain ⟨-, -, -, -, -, -, -, ⟨has, -⟩ | ⟨-, has, -⟩⟩ := decodeCalibrationState_spec decoded
  · exact (hasVersion_spec has).2.1.le
  · rw [(hasVersion_spec has).2.1]
    decide

/-- Bytes that announce the current version and do not have its size are refused. -/
theorem decodeCalibrationState_other_length {bytes : List Byte}
    (announced : 6 ≤ bytes.length → wordAt bytes 4 2 = 2)
    (other : bytes.length ≠ calibrationStateSize) : decodeCalibrationState bytes = none := by
  by_contra accepted
  obtain ⟨bank, decoded⟩ := Option.ne_none_iff_exists'.mp accepted
  obtain ⟨-, -, -, -, -, -, -, ⟨has, -⟩ | ⟨-, has, -⟩⟩ := decodeCalibrationState_spec decoded
  · exact other (hasVersion_spec has).2.1
  · obtain ⟨version, long, -⟩ := hasVersion_spec has
    have longer : 6 ≤ bytes.length := by
      rw [long]
      decide
    exact absurd ((announced longer).symm.trans version) (by decide)

section Saved

variable {config : PersistentConfig} {bank : StringCalibrationBank} {state image : List Byte}

/-- A state is read as a configuration and, if there is more, as a bank behind it. -/
theorem loadState_append {first second : List Byte} (long : first.length = stateSize) :
    loadState (first ++ second) = (decodeState first).bind fun config =>
      if second = [] then some (config, {})
      else (decodeCalibrationState second).map fun bank => (config, bank) := by
  rw [loadState, List.take_left' long, List.drop_left' long]

/-- What follows the state image has to be a calibration image. -/
theorem loadState_refused {first second : List Byte} (long : first.length = stateSize)
    (more : second ≠ []) (refused : decodeCalibrationState second = none) :
    loadState (first ++ second) = none := by
  rw [loadState_append long]
  refine Option.bind_eq_none_iff.mpr fun config _ => ?_
  rw [if_neg more, refused]
  rfl

/-- **What was saved loads**, with every value on its nearest step. -/
theorem loadState_saved (stateEncoded : encodeState config = some state)
    (imageEncoded : encodeCalibrationState bank = some image) :
    ∃ rounded, decodeState state = some rounded ∧
      loadState (state ++ image) = some (rounded, bank) ∧
      (∀ field, HoldsStep rounded (fieldBits config field) field) ∧
      (Canonical config → rounded = config) := by
  obtain ⟨rounded, decoded, holds, same⟩ := decodeState_of_encoded_rounded stateEncoded
  refine ⟨rounded, decoded, ?_, holds, same⟩
  have some : image ≠ [] := by
    rintro rfl
    have long := (encodeCalibrationState_version imageEncoded).1
    exact absurd long (by decide)
  rw [loadState_append (length_of_encodeState stateEncoded), decoded, Option.bind_some, if_neg some,
    decodeCalibrationState_of_encoded imageEncoded]
  rfl

/-- A state image alone loads with an empty bank. -/
theorem loadState_legacy {bytes : List Byte} (decoded : decodeState bytes = some config) :
    loadState bytes = some (config, {}) := by
  have alone := @loadState_append bytes [] (decodeState_length decoded)
  rwa [List.append_nil, decoded, Option.bind_some, if_pos rfl] at alone

/-- A part of what was saved does not load, unless it ends with the first image. The second image
has its length in its header, so that a shorter one is noticed. -/
theorem loadState_truncated (stateEncoded : encodeState config = some state)
    (imageEncoded : encodeCalibrationState bank = some image) {count : ℕ}
    (part : count < (state ++ image).length) (inside : count ≠ stateSize) :
    loadState ((state ++ image).take count) = none := by
  have long := length_of_encodeState stateEncoded
  obtain ⟨size, version⟩ := encodeCalibrationState_version imageEncoded
  rw [List.length_append, long, size] at part
  rcases Nat.lt_or_ge count stateSize with short | reaches
  · have refused : decodeState (((state ++ image).take count).take stateSize) = none := by
      by_contra accepted
      obtain ⟨config, decoded⟩ := Option.ne_none_iff_exists'.mp accepted
      have whole := decodeState_length decoded
      rw [List.length_take, List.length_take] at whole
      omega
    rw [loadState, refused, Option.bind_none]
  · have more : 0 < count - stateSize := by omega
    have less : count - stateSize < image.length := by omega
    have cut : (image.take (count - stateSize)).length = count - stateSize := by
      rw [List.length_take]
      omega
    have rest : image.take (count - stateSize) ≠ [] := by
      intro none
      rw [none, List.length_nil] at cut
      omega
    have refused : decodeCalibrationState (image.take (count - stateSize)) = none := by
      refine decodeCalibrationState_other_length (fun room => ?_) (by omega)
      have word := @wordAt_append_left (image.take (count - stateSize))
        (image.drop (count - stateSize)) 4 2 room
      rw [List.take_append_drop] at word
      exact word.symm.trans version
    rw [List.take_append, List.take_of_length_le (by omega), long]
    exact loadState_refused long rest refused

/-- Nothing may follow what was saved. -/
theorem loadState_excess (stateEncoded : encodeState config = some state)
    (imageEncoded : encodeCalibrationState bank = some image) {excess : List Byte}
    (more : excess ≠ []) : loadState (state ++ image ++ excess) = none := by
  have long := length_of_encodeState stateEncoded
  obtain ⟨size, version⟩ := encodeCalibrationState_version imageEncoded
  have longer := List.length_pos_iff.mpr more
  have refused : decodeCalibrationState (image ++ excess) = none := by
    refine decodeCalibrationState_other_length (fun _ => ?_) ?_
    · rw [wordAt_append_left]
      · exact version
      · rw [size]
        decide
    · rw [List.length_append, size]
      omega
  rw [List.append_assoc]
  exact loadState_refused long (List.append_ne_nil_of_right_ne_nil _ more) refused

end Saved

end M3Midi
