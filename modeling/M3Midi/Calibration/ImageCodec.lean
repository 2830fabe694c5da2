import M3Midi.Foundation.ByteSlice
import M3Midi.Calibration.StateImage

/-! # The calibration image, written and read

The decoder reads each field from the bytes the encoder puts it in, and checks all
the others. So what it accepts in the current version is the image of the bank it
returns (`M3Midi.encodeCalibrationState_of_decoded`), and since an image
determines its bank, every image decodes to the bank it was written for
(`M3Midi.decodeCalibrationState_of_encoded`).
-/

namespace M3Midi

open Foundation

/-- The call on a destination: it answers whether it accepts, and writes only then. -/
def decodeCalibrationStateInto (bytes : List Byte) (output : StringCalibrationBank) :
    Bool × StringCalibrationBank :=
  match decodeCalibrationState bytes with
  | none => (false, output)
  | some candidate => (true, candidate)

/-- The version word of an image. -/
def calibrationVersion (bytes : List Byte) : Nat := wordAt bytes 4 2

/-- No point of the bank has a partial detuning. -/
def WithoutDetuning (bank : StringCalibrationBank) : Prop :=
  ∀ string fret, (bank.points string fret).partialDetuningQ8 = (fun _ => 0) ∧
    (bank.points string fret).partialDetuningValidMask = 0

section Point

variable {record : List Byte} {point : StringCalibrationPoint}

/-- A quality that a number stands for has that number. -/
theorem CalibrationPointQuality.toNat_of_ofNat? {value : Nat} {quality : CalibrationPointQuality}
    (named : CalibrationPointQuality.ofNat? value = some quality) : quality.toNat = value := by
  unfold CalibrationPointQuality.ofNat? at named
  split at named
  all_goals first | (obtain rfl := Option.some.inj named; rfl) | exact absurd named (by simp)

/-- A quality is read back from its number. -/
theorem CalibrationPointQuality.ofNat?_toNat (quality : CalibrationPointQuality) :
    CalibrationPointQuality.ofNat? quality.toNat = some quality := by
  cases quality <;> rfl

/-- A table of sixteen-bit fields, written back. -/
theorem flatMap_fields (start : Nat)
    (inside : start + calibrationHarmonicCount * 2 ≤ record.length) :
    ((List.finRange calibrationHarmonicCount).flatMap fun harmonic : Fin calibrationHarmonicCount =>
        toBytes 2 (BitVec.ofNat 16 (wordAt record (start + 2 * harmonic) 2)).toNat) =
      slice record start (calibrationHarmonicCount * 2) := by
  rw [← flatMap_slice]
  refine List.flatMap_congr fun harmonic _ => ?_
  have below := harmonic.isLt
  rw [toBytes_field (by omega), Nat.mul_comm 2]

/-- The record of a decoded point is the one it was read from. -/
theorem encodePoint_of_decoded (long : calibrationPointStateSize ≤ record.length)
    (decoded : decodePoint true record = some point) :
    encodePoint point = slice record 0 calibrationPointStateSize := by
  unfold calibrationPointStateSize at long ⊢
  obtain ⟨quality, named, rfl⟩ := Option.map_eq_some_iff.mp decoded
  unfold encodePoint
  dsimp only
  rw [CalibrationPointQuality.toNat_of_ofNat? named]
  simp only [if_true]
  rw [toBytes_field (by omega), toBytes_field (by omega), toBytes_field (by omega),
    byte_field (by omega), flatMap_fields 2 (le_trans (by decide) long),
    flatMap_fields 14 (le_trans (by decide) long), toBytes_wordAt (by omega)]
  rw [slice_append_slice (by rfl), slice_append_slice (by rfl), slice_append_slice (by rfl),
    slice_append_slice (by rfl), slice_append_slice (by rfl), slice_append_slice (by rfl)]
  rfl

/-- A record without detunings gives a point without them. -/
theorem decodePoint_without (decoded : decodePoint false record = some point) :
    point.partialDetuningQ8 = (fun _ => 0) ∧ point.partialDetuningValidMask = 0 := by
  obtain ⟨quality, -, rfl⟩ := Option.map_eq_some_iff.mp decoded
  exact ⟨rfl, rfl⟩

/-- A record with a known quality decodes. -/
theorem decodePoint_isSome {quality : CalibrationPointQuality}
    (named : wordAt record 31 1 = quality.toNat) : (decodePoint true record).isSome = true := by
  change ((CalibrationPointQuality.ofNat? (wordAt record 31 1)).map _).isSome = true
  rw [Option.isSome_map, named, CalibrationPointQuality.ofNat?_toNat]
  rfl

/-- A point is read from the bytes of its record only. -/
theorem decodePoint_take (detuned : Bool) (record : List Byte) :
    decodePoint detuned
        (record.take (if detuned then calibrationPointStateSize else calibrationPointStateV1Size)) =
      decodePoint detuned record := by
  have word {size offset count : Nat} (inside : offset + count ≤ size) :
      wordAt (record.take size) offset count = wordAt record offset count := by
    have read : slice (slice record 0 size) offset count = slice record (0 + offset) count :=
      slice_slice inside
    rw [Nat.zero_add] at read
    exact congrArg ofBytes read
  have fields {size start : Nat} (inside : start + calibrationHarmonicCount * 2 ≤ size) :
      (fun harmonic : Fin calibrationHarmonicCount =>
        BitVec.ofNat 16 (wordAt (record.take size) (start + 2 * harmonic) 2)) =
      fun harmonic : Fin calibrationHarmonicCount =>
        BitVec.ofNat 16 (wordAt record (start + 2 * harmonic) 2) := by
    funext harmonic
    have below := harmonic.isLt
    rw [word (by omega)]
  cases detuned with
  | false =>
      change decodePoint false (record.take 19) = _
      simp only [decodePoint, Bool.false_eq_true, if_false]
      rw [word (by decide), word (by decide), word (by decide), word (by decide),
        fields (show 2 + calibrationHarmonicCount * 2 ≤ 19 by decide)]
  | true =>
      change decodePoint true (record.take 32) = _
      simp only [decodePoint, if_true]
      rw [word (by decide), word (by decide), word (by decide), word (by decide),
        word (by decide), fields (show 2 + calibrationHarmonicCount * 2 ≤ 32 by decide),
        fields (show 14 + calibrationHarmonicCount * 2 ≤ 32 by decide)]

/-- The quality of a point is read back from its last byte. -/
theorem quality_of_encodePoint (point : StringCalibrationPoint) :
    wordAt (encodePoint point) 31 1 = point.quality.toNat := by
  have small : point.quality.toNat < 256 ^ 1 := by cases point.quality <;> decide
  unfold encodePoint
  dsimp only
  rw [wordAt_append_toBytes, Nat.mod_eq_of_lt small]
  simp [length_flatMap_const (fun _ => length_toBytes 2 _), calibrationHarmonicCount]

/-- A point is read back from its record. -/
theorem decodePoint_encodePoint (point : StringCalibrationPoint) :
    decodePoint true (encodePoint point) = some point := by
  obtain ⟨other, decoded⟩ :=
    Option.isSome_iff_exists.mp (decodePoint_isSome (quality_of_encodePoint point))
  have long := length_encodePoint point
  have same := encodePoint_of_decoded long.ge decoded
  rw [← long, slice_zero_length] at same
  rw [decoded, encodePoint_inj same]

end Point

section Bank

variable {detuned : Bool} {payload : List Byte} {bank : StringCalibrationBank}

/-- A mask, then the records of all points by string and fret. -/
def bankRecords (mask : Byte)
    (record : Fin maxVoices → Fin calibrationFretCount → List Byte) : List Byte :=
  mask :: (List.finRange maxVoices).flatMap fun string =>
    (List.finRange calibrationFretCount).flatMap fun fret => record string fret

section Records

variable {mask : Byte} {record : Fin maxVoices → Fin calibrationFretCount → List Byte} {size : Nat}
  (long : ∀ string fret, (record string fret).length = size)

include long

/-- The records of a bank fill the payload. -/
theorem length_bankRecords : (bankRecords mask record).length = calibrationPayloadSize size := by
  have strings (string : Fin maxVoices) :
      ((List.finRange calibrationFretCount).flatMap fun fret => record string fret).length =
        calibrationFretCount * size := by
    rw [length_flatMap_const (long string), List.length_finRange]
  unfold bankRecords calibrationPayloadSize
  rw [List.length_cons, length_flatMap_const strings, List.length_finRange, Nat.mul_assoc,
    Nat.add_comm]

/-- The record of a point, where it stands. -/
theorem slice_bankRecords (string : Fin maxVoices) (fret : Fin calibrationFretCount) :
    slice (bankRecords mask record) (1 + (string * calibrationFretCount + fret) * size) size =
      record string fret := by
  have place : (string * calibrationFretCount + fret) * size =
      string * (calibrationFretCount * size) + fret * size := by
    rw [Nat.add_mul, Nat.mul_assoc]
  have inside : fret.val * size + size ≤ calibrationFretCount * size := by
    rw [← Nat.succ_mul]
    exact Nat.mul_le_mul_right size fret.isLt
  have strings (string : Fin maxVoices) :
      ((List.finRange calibrationFretCount).flatMap fun fret => record string fret).length =
        calibrationFretCount * size := by
    rw [length_flatMap_const (long string), List.length_finRange]
  have past (payload : List Byte) (offset : Nat) :
      slice (mask :: payload) (1 + offset) size = slice payload offset size := by
    rw [← List.singleton_append]
    exact slice_append_right
  unfold bankRecords
  rw [past, place, ← slice_slice inside, slice_flatMap strings string,
    slice_flatMap (long string) fret]

end Records

theorem length_encodeBank (bank : StringCalibrationBank) :
    (encodeBank bank).length = calibrationPayloadSize calibrationPointStateSize :=
  length_bankRecords fun _ _ => length_encodePoint _

/-- The points of a decoded bank are read one by one. -/
theorem decodeBank_spec (decoded : decodeBank detuned payload = some bank) :
    (∀ (string : Fin maxVoices) (fret : Fin calibrationFretCount),
        decodePoint detuned (payload.drop (1 + (string * calibrationFretCount + fret) *
          if detuned then calibrationPointStateSize else calibrationPointStateV1Size)) =
            some (bank.points string fret)) ∧
      bank.calibratedStringMask = BitVec.ofNat 8 (wordAt payload 0 1) := by
  unfold decodeBank at decoded
  dsimp only at decoded
  rw [Option.ite_none_right_eq_some] at decoded
  obtain ⟨known, same⟩ := decoded
  obtain rfl := Option.some.inj same
  refine ⟨fun string fret => ?_, rfl⟩
  have present := List.all_eq_true.mp (List.all_eq_true.mp known string (List.mem_finRange string))
    fret (List.mem_finRange fret)
  obtain ⟨point, found⟩ := Option.isSome_iff_exists.mp present
  dsimp only
  rw [found, Option.getD_some]

/-- The payload of a decoded bank is the one it was read from. Every point is written as it was
read, since no two records are read as the same point. -/
theorem encodeBank_of_decoded (long : payload.length = calibrationPayloadSize calibrationPointStateSize)
    (decoded : decodeBank true payload = some bank) : encodeBank bank = payload := by
  obtain ⟨points, mask⟩ := decodeBank_spec decoded
  have size : calibrationPayloadSize calibrationPointStateSize = 1 + 8 * (25 * 32) := rfl
  rw [size] at long
  have record (string : Fin maxVoices) (fret : Fin calibrationFretCount) :
      encodePoint (bank.points string fret) =
        slice payload (1 + string * (25 * 32) + fret * 32) 32 := by
    have fretBelow := fret.isLt
    have stringBelow := string.isLt
    have place : 1 + (string * calibrationFretCount + fret) * 32 + 0 =
        1 + string * (25 * 32) + fret * 32 := by
      change 1 + (string.val * 25 + fret.val) * 32 + 0 = 1 + string * (25 * 32) + fret * 32
      omega
    have inside : calibrationPointStateSize ≤
        (payload.drop (1 + (string * calibrationFretCount + fret) * 32)).length := by
      rw [List.length_drop, long]
      change 32 ≤ 1 + 8 * (25 * 32) - (1 + (string.val * 25 + fret.val) * 32)
      change string.val < 8 at stringBelow
      change fret.val < 25 at fretBelow
      omega
    rw [encodePoint_of_decoded inside (points string fret), slice_drop, place]
    rfl
  have maskByte : [bank.calibratedStringMask] = slice payload 0 1 := by
    rw [mask, byte_field (by omega)]
  have strings (string : Fin maxVoices) :
      ((List.finRange calibrationFretCount).flatMap fun fret =>
        encodePoint (bank.points string fret)) =
          slice payload (1 + string * (25 * 32)) (25 * 32) := by
    rw [List.flatMap_congr fun fret _ => record string fret]
    exact flatMap_slice payload calibrationFretCount (1 + string * (25 * 32)) 32
  have all : ((List.finRange maxVoices).flatMap fun string =>
      (List.finRange calibrationFretCount).flatMap fun fret =>
        encodePoint (bank.points string fret)) = slice payload 1 (8 * (25 * 32)) := by
    rw [List.flatMap_congr fun string _ => strings string]
    exact flatMap_slice payload maxVoices 1 (25 * 32)
  unfold encodeBank
  rw [all, ← List.singleton_append, maskByte, slice_append_slice rfl, ← long, slice_zero_length]

/-- A bank is read from the records of its points. -/
theorem decodeBank_bankRecords {mask : Byte}
    {record : Fin maxVoices → Fin calibrationFretCount → List Byte}
    {points : Fin maxVoices → Fin calibrationFretCount → StringCalibrationPoint}
    (long : ∀ string fret, (record string fret).length =
      if detuned then calibrationPointStateSize else calibrationPointStateV1Size)
    (read : ∀ string fret, decodePoint detuned (record string fret) = some (points string fret)) :
    decodeBank detuned (bankRecords mask record) =
      some { points, calibratedStringMask := mask } := by
  have there (string : Fin maxVoices) (fret : Fin calibrationFretCount) :
      decodePoint detuned ((bankRecords mask record).drop
        (1 + (string * calibrationFretCount + fret) *
          if detuned then calibrationPointStateSize else calibrationPointStateV1Size)) =
        some (points string fret) := by
    rw [← read, ← slice_bankRecords long string fret, slice, decodePoint_take]
  have first : BitVec.ofNat 8 (wordAt (bankRecords mask record) 0 1) = mask :=
    BitVec.eq_of_toNat_eq (by
      rw [BitVec.toNat_ofNat]
      change (mask.toNat + 256 * 0) % 2 ^ 8 = mask.toNat
      exact Nat.mod_eq_of_lt mask.isLt)
  unfold decodeBank
  dsimp only
  rw [if_pos, first]
  · refine congrArg some (StringCalibrationBank.mk.injEq .. |>.mpr ⟨?_, rfl⟩)
    funext string fret
    rw [there, Option.getD_some]
  · refine List.all_eq_true.mpr fun string _ => List.all_eq_true.mpr fun fret _ => ?_
    rw [there]
    rfl

/-- A bank is read back from its payload. -/
theorem decodeBank_encodeBank (bank : StringCalibrationBank) :
    decodeBank true (encodeBank bank) = some bank :=
  decodeBank_bankRecords (fun _ _ => length_encodePoint _) fun _ _ => decodePoint_encodePoint _

end Bank

section Image

variable {bytes image : List Byte} {bank : StringCalibrationBank}

/-- What the decoder has checked when it accepts. -/
theorem decodeCalibrationState_spec (decoded : decodeCalibrationState bytes = some bank) :
    bytes.take 4 = calibrationMagic ∧ wordAt bytes 6 2 = maxVoices ∧
      wordAt bytes 8 2 = calibrationFretCount ∧ wordAt bytes 10 2 = calibrationHarmonicCount ∧
      wordAt bytes 20 4 = 0 ∧
      wordAt bytes 16 4 = (crc32 (bytes.drop calibrationStateHeaderSize)).toNat ∧
      validBank bank = true ∧
      ((hasVersion bytes 2 calibrationPointStateSize = true ∧
          decodeBank true (bytes.drop calibrationStateHeaderSize) = some bank) ∨
        (hasVersion bytes 2 calibrationPointStateSize = false ∧
          hasVersion bytes 1 calibrationPointStateV1Size = true ∧
          decodeBank false (bytes.drop calibrationStateHeaderSize) = some bank)) := by
  unfold decodeCalibrationState at decoded
  dsimp only at decoded
  rw [Option.ite_none_left_eq_some] at decoded
  obtain ⟨checks, accepted⟩ := decoded
  obtain ⟨read, valid⟩ := Option.filter_eq_some_iff.mp accepted
  simp only [not_or, not_not, ne_eq] at checks
  obtain ⟨magic, voices, frets, harmonics, reserved, checksum, version⟩ := checks
  refine ⟨magic, voices, frets, harmonics, reserved, checksum, valid, ?_⟩
  cases current : hasVersion bytes 2 calibrationPointStateSize with
  | true => exact .inl ⟨rfl, current ▸ read⟩
  | false =>
      rw [current] at read version
      exact .inr ⟨rfl, by simpa using version, read⟩

/-- What the check of a header says about an image. -/
theorem hasVersion_spec {version pointSize : Nat} (has : hasVersion bytes version pointSize = true) :
    calibrationVersion bytes = version ∧
      bytes.length = calibrationStateHeaderSize + calibrationPayloadSize pointSize ∧
      wordAt bytes 12 4 = calibrationPayloadSize pointSize := by
  simpa only [calibrationVersion, hasVersion, Bool.and_eq_true, decide_eq_true_eq, and_assoc] using
    has

/-- **What is read in the current version is written back.** -/
theorem encodeCalibrationState_of_decoded (decoded : decodeCalibrationState bytes = some bank)
    (current : calibrationVersion bytes = 2) : encodeCalibrationState bank = some bytes := by
  obtain ⟨magic, voices, frets, harmonics, reserved, checksum, valid, version⟩ :=
    decodeCalibrationState_spec decoded
  rcases version with ⟨has, read⟩ | ⟨-, has, -⟩
  · obtain ⟨number, long, payloadSize⟩ := hasVersion_spec has
    have room : 24 ≤ bytes.length := by
      rw [long]
      decide
    have payload : encodeBank bank = bytes.drop calibrationStateHeaderSize := by
      refine encodeBank_of_decoded ?_ read
      rw [List.length_drop, long, Nat.add_sub_cancel_left]
    have field (offset count : Nat) (inside : offset + count ≤ 24) :
        slice bytes offset count = toBytes count (wordAt bytes offset count) :=
      (toBytes_wordAt (inside.trans room)).symm
    have rest : slice bytes 24 (calibrationPayloadSize calibrationPointStateSize) =
        bytes.drop calibrationStateHeaderSize := slice_eq_drop long.le
    have together : bytes = slice bytes 0 4 ++ slice bytes 4 2 ++ slice bytes 6 2 ++
        slice bytes 8 2 ++ slice bytes 10 2 ++ slice bytes 12 4 ++ slice bytes 16 4 ++
        slice bytes 20 4 ++ slice bytes 24 (calibrationPayloadSize calibrationPointStateSize) := by
      rw [slice_append_slice (by rfl), slice_append_slice (by rfl), slice_append_slice (by rfl),
        slice_append_slice (by rfl), slice_append_slice (by rfl), slice_append_slice (by rfl),
        slice_append_slice (by rfl), slice_append_slice (by rfl)]
      exact (slice_zero_length.symm.trans (congrArg (slice bytes 0) long))
    have letters : slice bytes 0 4 = calibrationMagic := magic
    change wordAt bytes 4 2 = 2 at number
    unfold encodeCalibrationState
    rw [if_pos valid]
    dsimp only
    rw [payload, ← rest, ← letters]
    conv_rhs => rw [together]
    rw [field 4 2 (by omega), field 6 2 (by omega), field 8 2 (by omega), field 10 2 (by omega),
      field 12 4 (by omega), field 16 4 (by omega), field 20 4 (by omega), number, voices, frets,
      harmonics, payloadSize, checksum, reserved, rest]
  · exact absurd (current.symm.trans (hasVersion_spec has).1) (by decide)

/-- A payload behind the header of some version. -/
def versionImage (version pointSize : Nat) (payload : List Byte) : List Byte :=
  calibrationMagic ++ toBytes 2 version ++ toBytes 2 maxVoices ++ toBytes 2 calibrationFretCount ++
    toBytes 2 calibrationHarmonicCount ++ toBytes 4 (calibrationPayloadSize pointSize) ++
    toBytes 4 (crc32 payload).toNat ++ toBytes 4 0 ++ payload

/-- What the decoder checks in the header of an image. Magic, version, sizes and checksum are read
back from where they are written. -/
theorem versionImage_spec {version pointSize : Nat} {payload : List Byte}
    (known : version < 256 ^ 2) (small : calibrationPayloadSize pointSize < 256 ^ 4)
    (long : payload.length = calibrationPayloadSize pointSize) :
    let image := versionImage version pointSize payload
    image.take 4 = calibrationMagic ∧ hasVersion image version pointSize = true ∧
      calibrationVersion image = version ∧ wordAt image 6 2 = maxVoices ∧
      wordAt image 8 2 = calibrationFretCount ∧ wordAt image 10 2 = calibrationHarmonicCount ∧
      wordAt image 20 4 = 0 ∧ wordAt image 16 4 = (crc32 payload).toNat ∧
      image.drop calibrationStateHeaderSize = payload := by
  have checksum : (crc32 payload).toNat < 256 ^ 4 := (crc32 payload).isLt
  have number : wordAt (versionImage version pointSize payload) 4 2 = version := by
    simp (disch := simp [calibrationMagic]) only [versionImage, wordAt_append_left,
      wordAt_append_toBytes]
    exact Nat.mod_eq_of_lt known
  have size : wordAt (versionImage version pointSize payload) 12 4 =
      calibrationPayloadSize pointSize := by
    simp (disch := simp [calibrationMagic]) only [versionImage, wordAt_append_left,
      wordAt_append_toBytes]
    exact Nat.mod_eq_of_lt small
  refine ⟨rfl, ?_, number, ?_, ?_, ?_, ?_, ?_, ?_⟩
  · rw [hasVersion, number, size, versionImage]
    simp [long, calibrationMagic, calibrationStateHeaderSize]
    omega
  · simp (disch := simp [calibrationMagic]) only [versionImage, wordAt_append_left,
      wordAt_append_toBytes]
    decide
  · simp (disch := simp [calibrationMagic]) only [versionImage, wordAt_append_left,
      wordAt_append_toBytes]
    decide
  · simp (disch := simp [calibrationMagic]) only [versionImage, wordAt_append_left,
      wordAt_append_toBytes]
    decide
  · simp (disch := simp [calibrationMagic]) only [versionImage, wordAt_append_left,
      wordAt_append_toBytes]
    decide
  · simp (disch := simp [calibrationMagic]) only [versionImage, wordAt_append_left,
      wordAt_append_toBytes]
    exact Nat.mod_eq_of_lt checksum
  · exact List.drop_left' (by simp [calibrationMagic, calibrationStateHeaderSize])

/-- The fields of a written image. -/
theorem encodeCalibrationState_spec (encoded : encodeCalibrationState bank = some image) :
    validBank bank = true ∧ image.take 4 = calibrationMagic ∧
      hasVersion image 2 calibrationPointStateSize = true ∧ calibrationVersion image = 2 ∧
      wordAt image 6 2 = maxVoices ∧ wordAt image 8 2 = calibrationFretCount ∧
      wordAt image 10 2 = calibrationHarmonicCount ∧ wordAt image 20 4 = 0 ∧
      wordAt image 16 4 = (crc32 (encodeBank bank)).toNat ∧
      image.drop calibrationStateHeaderSize = encodeBank bank := by
  unfold encodeCalibrationState at encoded
  split_ifs at encoded with valid
  obtain rfl := Option.some.inj encoded
  exact ⟨valid, versionImage_spec (by decide) (by decide) (length_encodeBank bank)⟩

/-- **An image decodes to the bank it was written for.** -/
theorem decodeCalibrationState_of_encoded (encoded : encodeCalibrationState bank = some image) :
    decodeCalibrationState image = some bank := by
  obtain ⟨valid, magic, version, -, voices, frets, harmonics, reserved, checksum, payload⟩ :=
    encodeCalibrationState_spec encoded
  unfold decodeCalibrationState
  dsimp only
  rw [payload, if_neg (by simp [magic, version, voices, frets, harmonics, reserved, checksum]),
    version, decodeBank_encodeBank, Option.filter_some, if_pos valid]

/-- A call that is refused leaves its destination, and one that is not writes a valid
bank. -/
theorem decodeCalibrationStateInto_spec (bytes : List Byte) (output : StringCalibrationBank) :
    (decodeCalibrationStateInto bytes output = (false, output) ∧
        decodeCalibrationState bytes = none) ∨
      ∃ candidate, decodeCalibrationStateInto bytes output = (true, candidate) ∧
        decodeCalibrationState bytes = some candidate := by
  unfold decodeCalibrationStateInto
  cases decodeCalibrationState bytes with
  | none => exact .inl ⟨rfl, rfl⟩
  | some candidate => exact .inr ⟨candidate, rfl, rfl⟩

/-- **The calibration codec.** An image decodes to the bank it was written for. A
refused call leaves its destination; an accepted one writes a valid bank, whose image
in the current version is the string that was read, and in the first version has no
detuning and is the image of the same bank. -/
theorem calibration_image_codec :
    (∀ (bank : StringCalibrationBank) (image : List Byte) (output : StringCalibrationBank),
      encodeCalibrationState bank = some image →
        decodeCalibrationStateInto image output = (true, bank)) ∧
    ∀ (bytes : List Byte) (output : StringCalibrationBank),
      decodeCalibrationStateInto bytes output = (false, output) ∨
        ∃ bank, decodeCalibrationStateInto bytes output = (true, bank) ∧ validBank bank = true ∧
          (calibrationVersion bytes = 2 ∧ encodeCalibrationState bank = some bytes ∨
            calibrationVersion bytes = 1 ∧ WithoutDetuning bank ∧
              ∃ image, encodeCalibrationState bank = some image ∧ calibrationVersion image = 2 ∧
                decodeCalibrationState image = some bank) := by
  refine ⟨fun bank image output encoded => ?_, fun bytes output => ?_⟩
  · rw [decodeCalibrationStateInto, decodeCalibrationState_of_encoded encoded]
  · rcases decodeCalibrationStateInto_spec bytes output with
      ⟨refused, -⟩ | ⟨bank, accepted, decoded⟩
    · exact .inl refused
    · obtain ⟨-, -, -, -, -, -, valid, version⟩ := decodeCalibrationState_spec decoded
      refine .inr ⟨bank, accepted, valid, ?_⟩
      rcases version with ⟨has, -⟩ | ⟨-, has, read⟩
      · have current := (hasVersion_spec has).1
        exact .inl ⟨current, encodeCalibrationState_of_decoded decoded current⟩
      · obtain ⟨image, encoded⟩ := Option.isSome_iff_exists.mp
          (encodeCalibrationState_isSome.trans valid)
        have written := (encodeCalibrationState_spec encoded).2.2.2.1
        refine .inr ⟨(hasVersion_spec has).1, fun string fret => ?_, image, encoded,
          written, decodeCalibrationState_of_encoded encoded⟩
        exact decodePoint_without ((decodeBank_spec read).1 string fret)

/-- An image of the first version decodes to the bank of its records. -/
theorem decodeCalibrationState_firstVersion {mask : Byte}
    {record : Fin maxVoices → Fin calibrationFretCount → List Byte}
    {points : Fin maxVoices → Fin calibrationFretCount → StringCalibrationPoint}
    (long : ∀ string fret, (record string fret).length = calibrationPointStateV1Size)
    (read : ∀ string fret, decodePoint false (record string fret) = some (points string fret))
    (valid : validBank { points, calibratedStringMask := mask } = true) :
    decodeCalibrationState (versionImage 1 calibrationPointStateV1Size (bankRecords mask record)) =
      some { points, calibratedStringMask := mask } := by
  obtain ⟨magic, version, number, voices, frets, harmonics, reserved, checksum, payload⟩ :=
    versionImage_spec (show 1 < 256 ^ 2 by decide)
      (show calibrationPayloadSize calibrationPointStateV1Size < 256 ^ 4 by decide)
      (@length_bankRecords mask record _ long)
  have other : hasVersion (versionImage 1 calibrationPointStateV1Size (bankRecords mask record)) 2
      calibrationPointStateSize = false :=
    Bool.eq_false_iff.mpr fun second => absurd ((hasVersion_spec second).1.symm.trans number)
      (by decide)
  unfold decodeCalibrationState
  dsimp only
  rw [payload, if_neg (by simp [magic, version, voices, frets, harmonics, reserved, checksum]),
    other, decodeBank_bankRecords long read, Option.filter_some, if_pos valid]

/-- The first string calibrated, a quarter of a semitone sharp and without partial detunings. -/
def sharpBank : StringCalibrationBank where
  points string _ :=
    if string.val = 0 then
      { centsOffsetQ8 := 6400, confidenceQ15 := 16384, observationCount := 1, quality := .measured }
    else {}
  calibratedStringMask := 1

/-- A point of the first string, with one partial detuning on its open fret. -/
def detunedPoint (fret : Fin calibrationFretCount) : StringCalibrationPoint where
  confidenceQ15 := 16384
  observationCount := 1
  quality := .measured
  partialDetuningQ8 harmonic := if fret.val = 0 ∧ harmonic.val = 1 then 320 else 0
  partialDetuningValidMask := if fret.val = 0 then 2 else 0

/-- The first string calibrated, with one detuned partial. -/
def detunedBank : StringCalibrationBank where
  points string fret := if string.val = 0 then detunedPoint fret else {}
  calibratedStringMask := 1

/-- The bank without detunings can be saved. -/
theorem sharpBank_encodes : (encodeCalibrationState sharpBank).isSome = true := by
  rw [encodeCalibrationState_isSome]
  decide +kernel

theorem detunedBank_encodes : (encodeCalibrationState detunedBank).isSome = true := by
  rw [encodeCalibrationState_isSome]
  decide +kernel

/-- The records of the sharp bank as the first version wrote them. -/
def sharpRecord (string : Fin maxVoices) : List Byte :=
  if string.val = 0 then
    toBytes 2 6400 ++ List.replicate 12 0 ++ toBytes 2 16384 ++ toBytes 2 1 ++ toBytes 1 1
  else List.replicate 19 0

/-- The image of the sharp bank as the first version wrote it. -/
def sharpImage : List Byte :=
  versionImage 1 calibrationPointStateV1Size (bankRecords 1 fun string _ => sharpRecord string)

/-- The points of the first bank are read back from records of the first version. -/
theorem decodePoint_sharpRecord (string : Fin maxVoices) (fret : Fin calibrationFretCount) :
    decodePoint false (sharpRecord string) = some (sharpBank.points string fret) := by
  unfold sharpRecord sharpBank
  dsimp only
  by_cases first : string.val = 0
  · rw [if_pos first, if_pos first]
    exact congrArg some (StringCalibrationPoint.mk.injEq .. |>.mpr
      ⟨rfl, funext (by decide), rfl, rfl, rfl, rfl, rfl⟩)
  · rw [if_neg first, if_neg first]
    exact congrArg some (StringCalibrationPoint.mk.injEq .. |>.mpr
      ⟨rfl, funext (by decide), rfl, rfl, rfl, rfl, rfl⟩)

theorem decodeCalibrationState_sharpImage : decodeCalibrationState sharpImage = some sharpBank := by
  have valid := encodeCalibrationState_isSome.symm.trans sharpBank_encodes
  exact decodeCalibrationState_firstVersion (by decide +kernel) decodePoint_sharpRecord valid

/-- A bank with a detuned partial is written and read back. An image of the first version is read,
and the bank it holds is written in the second. -/
theorem calibration_image_codec_detuned :
    (∃ image, encodeCalibrationState detunedBank = some image ∧
      decodeCalibrationStateInto image sharpBank = (true, detunedBank)) ∧
    decodeCalibrationStateInto sharpImage detunedBank = (true, sharpBank) ∧
      WithoutDetuning sharpBank ∧ ∃ image, encodeCalibrationState sharpBank = some image ∧
        calibrationVersion image = 2 ∧ decodeCalibrationState image = some sharpBank := by
  obtain ⟨written, read⟩ := calibration_image_codec
  obtain ⟨image, encoded⟩ := Option.isSome_iff_exists.mp detunedBank_encodes
  have accepted : decodeCalibrationStateInto sharpImage detunedBank = (true, sharpBank) := by
    rw [decodeCalibrationStateInto, decodeCalibrationState_sharpImage]
  refine ⟨⟨image, encoded, written detunedBank image sharpBank encoded⟩, accepted, ?_⟩
  rcases read sharpImage detunedBank with refused | ⟨bank, decoded, -, version⟩
  · exact absurd (accepted.symm.trans refused) (by simp)
  · obtain rfl := (Prod.ext_iff.mp (decoded.symm.trans accepted)).2
    have first : calibrationVersion sharpImage = 1 := by decide +kernel
    rcases version with ⟨second, -⟩ | ⟨-, without, rewritten⟩
    · exact absurd (first.symm.trans second) (by decide)
    · exact ⟨without, rewritten⟩

end Image

end M3Midi
