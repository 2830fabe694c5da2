import M3Midi.Foundation.ByteSlice
import M3Midi.Foundation.DoubleRounding
import M3Midi.Parameter.Acceptance

/-! # The state image, written and read

The decoder accepts exactly the strings that the encoder's layout gives for some
finite doubles, and each field then holds the step nearest to its double
(`M3Midi.decodeState_iff`). A double lies much closer to a canonical value than half
a step, so a canonical configuration is read back as it was written
(`M3Midi.decodeState_of_encoded`).
-/

namespace M3Midi

open Foundation

/-- The call on a destination: it answers whether it accepts, and writes only then. -/
def decodeStateInto (bytes : List Byte) (output : PersistentConfig) : Bool × PersistentConfig :=
  match decodeState bytes with
  | none => (false, output)
  | some candidate => (true, candidate)

/-- Every field holds a value that its parameter rounds to itself. -/
def Canonical (config : PersistentConfig) : Prop :=
  ∀ field spec, findParameter field.id = some spec →
    canonicalPlain spec (some (fieldValue config field)) = some (fieldValue config field)

/-- A record: the identifier of the field, and the bits of its double. -/
def stateRecord (bits : PersistentField → Nat) (field : PersistentField) : List Byte :=
  toBytes 4 field.id ++ toBytes 8 (bits field)

/-- The encoder's layout, for the bits of every field. -/
def stateImage (bits : PersistentField → Nat) : List Byte :=
  let payload := PersistentField.all.flatMap (stateRecord bits)
  stateMagic ++ toBytes 2 stateVersion ++ toBytes 2 PersistentField.all.length ++
    toBytes 4 statePayloadSize ++ toBytes 4 (crc32 payload).toNat ++ payload

/-- The field holds the step nearest to the double of these bits. -/
def HoldsStep (config : PersistentConfig) (bits : Nat) (field : PersistentField) : Prop :=
  ∃ stored spec, doubleOfBits bits = some stored ∧ findParameter field.id = some spec ∧
    fieldValue config field = roundToStep spec stored

@[simp] theorem length_stateRecord (bits : PersistentField → Nat) (field : PersistentField) :
    (stateRecord bits field).length = stateRecordSize := by
  rw [stateRecord, List.length_append, length_toBytes, length_toBytes]
  rfl

/-- The number and the value of a record are read back from its bytes. -/
theorem wordAt_stateRecord (bits : PersistentField → Nat) (field : PersistentField)
    (rest : List Byte) :
    wordAt (stateRecord bits field ++ rest) 0 4 = field.id ∧
      wordAt (stateRecord bits field ++ rest) 4 8 = bits field % 256 ^ 8 := by
  have small : field.id < 256 ^ 4 := by cases field <;> decide
  have name : wordAt (toBytes 4 field.id) 0 4 = field.id % 256 ^ 4 := by
    rw [← List.nil_append (toBytes 4 field.id)]
    exact wordAt_append_toBytes field.id rfl
  constructor
  · rw [wordAt_append_left (by simp [stateRecordSize]), stateRecord,
      wordAt_append_left (by simp), name, Nat.mod_eq_of_lt small]
  · rw [wordAt_append_left (by simp [stateRecordSize]), stateRecord,
      wordAt_append_toBytes _ (by simp)]

/-- No field's parameter is read-only or panics: a finite value is always written. -/
theorem applyParameter_field {field : PersistentField} {spec : ParameterSpec}
    (found : findParameter field.id = some spec) (config : PersistentConfig) (value : ℚ) :
    applyParameter config field.id (some value) =
      (if fieldValue config field = roundToStep spec value then .unchanged else .changed,
        setField field (roundToStep spec value) config) := by
  have valid : validSpec spec = true := (parameters_valid (findParameter_self found).2).1
  have writable : spec.readOnly = false := by
    cases field <;> obtain rfl := Option.some.inj found <;> rfl
  have other : field.id ≠ panicParameterId := by cases field <;> decide
  unfold applyParameter
  rw [found]
  dsimp only
  rw [if_neg (by simp [writable]), canonicalPlain, if_pos valid, Option.map_some]
  dsimp only
  rw [if_neg other, fieldOfId_id]

/-- One record is accepted when it names its field and its double is finite. -/
theorem decodeRecords_cons {field : PersistentField} {spec : ParameterSpec}
    (found : findParameter field.id = some spec) (fields : List PersistentField)
    (records : List Byte) (candidate config : PersistentConfig) :
    decodeRecords (field :: fields) records candidate = some config ↔
      wordAt records 0 4 = field.id ∧ ∃ stored, doubleOfBits (wordAt records 4 8) = some stored ∧
        decodeRecords fields (records.drop stateRecordSize)
          (setField field (roundToStep spec stored) candidate) = some config := by
  rw [decodeRecords]
  by_cases named : wordAt records 0 4 = field.id
  · rw [if_neg (not_not.mpr named)]
    cases doubleOfBits (wordAt records 4 8) with
    | none => simp
    | some stored =>
        dsimp only
        rw [applyParameter_field found]
        split_ifs <;> simp [named]
  · rw [if_pos named]
    simp [named]

/-- A field that is set to a value on a step has that value. -/
theorem fieldValue_setField_step {field : PersistentField} {spec : ParameterSpec}
    (found : findParameter field.id = some spec) (config : PersistentConfig) (value : ℚ) :
    fieldValue (setField field (roundToStep spec value) config) field = roundToStep spec value := by
  rw [fieldValue_setField_self, storedValue_roundToStep found]

/-- The records of distinct fields are accepted exactly when they are laid out for
finite doubles; then these fields hold their steps, and the others stay. -/
theorem decodeRecords_iff {fields : List PersistentField} (distinct : fields.Nodup)
    {records : List Byte} (long : records.length = fields.length * stateRecordSize)
    (candidate config : PersistentConfig) :
    decodeRecords fields records candidate = some config ↔
      ∃ bits : PersistentField → Nat, records = fields.flatMap (stateRecord bits) ∧
        (∀ field ∈ fields, bits field < 2 ^ 64 ∧ HoldsStep config (bits field) field) ∧
          ∀ field, field ∉ fields → fieldValue config field = fieldValue candidate field := by
  induction fields generalizing records candidate with
  | nil =>
      obtain rfl := List.length_eq_zero_iff.mp (long.trans (Nat.zero_mul _))
      constructor
      · intro decoded
        obtain rfl := Option.some.inj decoded
        exact ⟨fun _ => 0, rfl, fun _ member => absurd member List.not_mem_nil, fun _ _ => rfl⟩
      · rintro ⟨-, -, -, same⟩
        exact congrArg some (config_ext fun field => (same field List.not_mem_nil).symm)
  | cons field fields ih =>
      obtain ⟨fresh, others⟩ := List.nodup_cons.mp distinct
      obtain ⟨spec, found, -⟩ := findParameter_field field
      have rest : (records.drop stateRecordSize).length = fields.length * stateRecordSize := by
        rw [List.length_drop, long, List.length_cons, Nat.succ_mul, Nat.add_sub_cancel]
      have room : 12 ≤ records.length := by
        rw [long, List.length_cons, Nat.succ_mul]
        exact Nat.le_add_left _ _
      rw [decodeRecords_cons found]
      constructor
      · rintro ⟨named, stored, finite, decoded⟩
        obtain ⟨bits, laid, holds, kept⟩ := (ih others rest _).mp decoded
        have elsewhere (other : PersistentField) (member : other ∈ fields) : other ≠ field := by
          rintro rfl
          exact fresh member
        refine ⟨Function.update bits field (wordAt records 4 8), ?_, ?_, fun other outside => ?_⟩
        · have tail : fields.flatMap
              (stateRecord (Function.update bits field (wordAt records 4 8))) =
                records.drop stateRecordSize := by
            rw [laid]
            refine List.flatMap_congr fun other member => ?_
            rw [stateRecord, stateRecord, Function.update_of_ne (elsewhere other member)]
          have head : stateRecord (Function.update bits field (wordAt records 4 8)) field =
              records.take 12 := by
            rw [stateRecord, Function.update_self, ← named, toBytes_wordAt (by omega),
              toBytes_wordAt (by omega), slice_append_slice rfl]
            rfl
          rw [List.flatMap_cons, head, tail]
          exact (List.take_append_drop 12 records).symm
        · intro other member
          rcases List.mem_cons.mp member with rfl | later
          · rw [Function.update_self]
            have small : wordAt records 4 8 < 256 ^ 8 := wordAt_lt (by omega)
            refine ⟨by omega, stored, spec, finite, found, ?_⟩
            rw [kept other fresh, fieldValue_setField_step found]
          · rw [Function.update_of_ne (elsewhere other later)]
            exact holds other later
        · obtain ⟨different, absent⟩ := not_or.mp (mt List.mem_cons.mpr outside)
          rw [kept other absent, fieldValue_setField_other _ _ different]
      · rintro ⟨bits, rfl, holds, kept⟩
        obtain ⟨small, stored, other, finite, otherFound, step⟩ := holds field List.mem_cons_self
        obtain rfl := Option.some.inj (found.symm.trans otherFound)
        rw [List.flatMap_cons] at rest ⊢
        obtain ⟨named, word⟩ := wordAt_stateRecord bits field (fields.flatMap (stateRecord bits))
        have tail : (stateRecord bits field ++ fields.flatMap (stateRecord bits)).drop
            stateRecordSize = fields.flatMap (stateRecord bits) :=
          List.drop_left' (length_stateRecord bits field)
        rw [tail] at rest ⊢
        rw [named, word, Nat.mod_eq_of_lt (show bits field < 256 ^ 8 by omega)]
        refine ⟨rfl, stored, finite, (ih others rest _).mpr ⟨bits, rfl, ?_, ?_⟩⟩
        · exact fun other member => holds other (List.mem_cons_of_mem _ member)
        · intro other outside
          by_cases same : other = field
          · rw [same, step, fieldValue_setField_step found]
          · rw [fieldValue_setField_other _ _ same]
            exact kept other (fun member => (List.mem_cons.mp member).elim same outside)

/-- No field is listed twice. -/
theorem nodup_fields : PersistentField.all.Nodup := by decide

/-- Every field is listed. -/
theorem mem_fields (field : PersistentField) : field ∈ PersistentField.all := by
  cases field <;> decide

/-- The records of all fields fill the payload. -/
theorem length_records (bits : PersistentField → Nat) :
    (PersistentField.all.flatMap (stateRecord bits)).length = statePayloadSize := by
  rw [length_flatMap_const (length_stateRecord bits)]
  rfl

/-- The fields of a laid out image. -/
theorem stateImage_spec (bits : PersistentField → Nat) :
    (stateImage bits).length = stateSize ∧ (stateImage bits).take 4 = stateMagic ∧
      wordAt (stateImage bits) 4 2 = stateVersion ∧
      wordAt (stateImage bits) 6 2 = PersistentField.all.length ∧
      wordAt (stateImage bits) 8 4 = statePayloadSize ∧
      (stateImage bits).drop stateHeaderSize = PersistentField.all.flatMap (stateRecord bits) ∧
      wordAt (stateImage bits) 12 4 =
        (crc32 (PersistentField.all.flatMap (stateRecord bits))).toNat := by
  have size := length_records bits
  unfold stateImage
  dsimp only
  generalize PersistentField.all.flatMap (stateRecord bits) = payload at size ⊢
  have checksum : (crc32 payload).toNat < 256 ^ 4 := (crc32 payload).isLt
  refine ⟨?_, rfl, ?_, ?_, ?_, ?_, ?_⟩
  · simp only [List.length_append, length_toBytes, size]
    rfl
  · simp (disch := simp [stateMagic]) only [wordAt_append_left, wordAt_append_toBytes]
    decide
  · simp (disch := simp [stateMagic]) only [wordAt_append_left, wordAt_append_toBytes]
    decide
  · simp (disch := simp [stateMagic]) only [wordAt_append_left, wordAt_append_toBytes]
    decide
  · exact List.drop_left' (by simp [stateMagic, stateHeaderSize])
  · simp (disch := simp [stateMagic]) only [wordAt_append_left, wordAt_append_toBytes]
    exact Nat.mod_eq_of_lt checksum

/-- A string with the header and checksum of an image is its header and its payload. -/
theorem eq_header_append {bytes : List Byte} (long : bytes.length = stateSize)
    (magic : bytes.take 4 = stateMagic) (version : wordAt bytes 4 2 = stateVersion)
    (count : wordAt bytes 6 2 = PersistentField.all.length)
    (size : wordAt bytes 8 4 = statePayloadSize) :
    bytes = stateMagic ++ toBytes 2 stateVersion ++ toBytes 2 PersistentField.all.length ++
      toBytes 4 statePayloadSize ++ toBytes 4 (wordAt bytes 12 4) ++ bytes.drop stateHeaderSize := by
  have room : 16 ≤ bytes.length := long ▸ (by decide)
  have letters : slice bytes 0 4 = stateMagic := magic
  rw [← version, ← count, ← size, toBytes_wordAt (by omega), toBytes_wordAt (by omega),
    toBytes_wordAt (by omega), toBytes_wordAt (by omega), ← letters, slice_append_slice rfl,
    slice_append_slice rfl, slice_append_slice rfl, slice_append_slice rfl]
  exact (List.take_append_drop 16 bytes).symm

/-- **What the decoder accepts.** The layout of the encoder for finite doubles; each
field then holds the step nearest to its double. -/
theorem decodeState_iff {bytes : List Byte} {config : PersistentConfig} :
    decodeState bytes = some config ↔
      ∃ bits : PersistentField → Nat, bytes = stateImage bits ∧
        ∀ field, bits field < 2 ^ 64 ∧ HoldsStep config (bits field) field := by
  have records (payload : List Byte) (long : payload.length = statePayloadSize) :
      decodeRecords PersistentField.all payload {} = some config ↔
        ∃ bits : PersistentField → Nat, payload = PersistentField.all.flatMap (stateRecord bits) ∧
          ∀ field, bits field < 2 ^ 64 ∧ HoldsStep config (bits field) field := by
    rw [decodeRecords_iff nodup_fields long]
    constructor
    · rintro ⟨bits, laid, holds, -⟩
      exact ⟨bits, laid, fun field => holds field (mem_fields field)⟩
    · rintro ⟨bits, laid, holds⟩
      exact ⟨bits, laid, fun field _ => holds field,
        fun field outside => absurd (mem_fields field) outside⟩
  constructor
  · intro decoded
    unfold decodeState at decoded
    dsimp only at decoded
    rw [Option.ite_none_left_eq_some] at decoded
    obtain ⟨checks, read⟩ := decoded
    simp only [not_or, not_not, ne_eq] at checks
    obtain ⟨long, magic, version, count, size, checksum⟩ := checks
    have payload : (bytes.drop stateHeaderSize).length = statePayloadSize := by
      rw [List.length_drop, long]
      rfl
    obtain ⟨bits, laid, holds⟩ := (records _ payload).mp read
    refine ⟨bits, ?_, holds⟩
    have together := eq_header_append long magic version count size
    rw [checksum, laid] at together
    exact together
  · rintro ⟨bits, rfl, holds⟩
    obtain ⟨long, magic, version, count, size, payload, checksum⟩ := stateImage_spec bits
    unfold decodeState
    dsimp only
    rw [payload, if_neg (by simp [long, magic, version, count, size, checksum])]
    exact (records _ (length_records bits)).mpr ⟨bits, rfl, holds⟩

/-- The field's value lies in its parameter's range. -/
def InRange (config : PersistentConfig) (field : PersistentField) : Prop :=
  ∀ spec, findParameter field.id = some spec →
    spec.minimum ≤ fieldValue config field ∧ fieldValue config field ≤ spec.maximum

/-- The bits of every field's value. -/
def fieldBits (config : PersistentConfig) (field : PersistentField) : Nat :=
  bitsOfDouble (fieldValue config field)

/-- A field is encoded exactly if its value is in range, and then as its record. -/
theorem encodeRecord_iff {config : PersistentConfig} {field : PersistentField}
    {record : List Byte} :
    encodeRecord config field = some record ↔
      InRange config field ∧ record = stateRecord (fieldBits config) field := by
  obtain ⟨spec, found, -⟩ := findParameter_field field
  have range : InRange config field ↔
      ¬(fieldValue config field < spec.minimum ∨ fieldValue config field > spec.maximum) := by
    rw [not_or, not_lt, gt_iff_lt, not_lt]
    constructor
    · exact fun inside => inside spec found
    · intro inside other otherFound
      obtain rfl := Option.some.inj (found.symm.trans otherFound)
      exact inside
  unfold encodeRecord
  rw [found, Option.bind_some, range]
  dsimp only
  rw [Option.ite_none_left_eq_some]
  exact and_congr_right fun _ => Option.some_inj.trans eq_comm

/-- A list is converted item by item, when each item's conversion is known. -/
theorem mapM_eq_some_iff {Item Value : Type*} {convert : Item → Option Value}
    {converts : Item → Prop} {value : Item → Value}
    (known : ∀ item other, convert item = some other ↔ converts item ∧ other = value item)
    (items : List Item) (values : List Value) :
    items.mapM convert = some values ↔
      (∀ item ∈ items, converts item) ∧ values = items.map value := by
  induction items generalizing values with
  | nil => simp [eq_comm]
  | cons head items ih =>
      rw [List.mapM_cons, Option.bind_eq_bind, Option.bind_eq_some_iff, List.forall_mem_cons,
        List.map_cons]
      constructor
      · rintro ⟨first, converted, rest⟩
        obtain ⟨others, restConverted, same⟩ := Option.bind_eq_some_iff.mp rest
        obtain ⟨fits, rfl⟩ := (known head first).mp converted
        obtain ⟨tail, rfl⟩ := (ih others).mp restConverted
        exact ⟨⟨fits, tail⟩, (Option.some.inj same).symm⟩
      · rintro ⟨⟨fits, tail⟩, rfl⟩
        exact ⟨value head, (known head _).mpr ⟨fits, rfl⟩,
          Option.bind_eq_some_iff.mpr ⟨_, (ih _).mpr ⟨tail, rfl⟩, rfl⟩⟩

/-- The encoder accepts values inside their ranges, and lays out their doubles. -/
theorem encodeState_iff {config : PersistentConfig} {image : List Byte} :
    encodeState config = some image ↔
      (∀ field, InRange config field) ∧ image = stateImage (fieldBits config) := by
  have known (field : PersistentField) (record : List Byte) :
      encodeRecord config field = some record ↔
        InRange config field ∧ record = stateRecord (fieldBits config) field := encodeRecord_iff
  have records := mapM_eq_some_iff known PersistentField.all
  unfold encodeState
  rw [Option.map_eq_some_iff]
  constructor
  · rintro ⟨values, converted, rfl⟩
    obtain ⟨inside, rfl⟩ := (records values).mp converted
    exact ⟨fun field => inside field (mem_fields field), rfl⟩
  · rintro ⟨inside, rfl⟩
    exact ⟨_, (records _).mpr ⟨fun field _ => inside field, rfl⟩, rfl⟩

/-- Rounding takes what is nearer than half a step to a step back to that step. -/
theorem roundToStep_near {spec : ParameterSpec} (member : spec ∈ parameters) {value near : ℚ}
    (step : roundToStep spec value = value) (close : |near - value| < spec.increment / 2) :
    roundToStep spec near = value := by
  obtain ⟨-, positive, range⟩ := parameters_valid member
  obtain ⟨count, above, below, named⟩ := roundToStep_eq_step positive range value
  obtain ⟨least, greatest⟩ := clamp_step positive range above below
  rw [step] at named
  have low : spec.minimum ≤ value := named ▸ le_add_of_nonneg_right
    (mul_nonneg (by exact_mod_cast above) positive.le)
  have high : value ≤ spec.maximum := by rw [named, ← least]; exact min_le_right _ _
  obtain ⟨bounded, clamped⟩ : ∃ bounded, max spec.minimum (min near spec.maximum) = bounded :=
    ⟨_, rfl⟩
  obtain ⟨left, right⟩ := abs_lt.mp close
  have under : bounded < value + spec.increment / 2 := by
    rw [← clamped]
    exact max_lt (by linarith) (min_lt_of_left_lt (by linarith))
  have within : value - spec.increment / 2 < bounded := by
    rw [← clamped]
    exact lt_max_of_lt_right (lt_min (by linarith) (by linarith))
  have whole : ⌊(bounded - spec.minimum) / spec.increment + 1 / 2⌋ = count := by
    have half : (bounded - spec.minimum) / spec.increment + 1 / 2 =
        (bounded - value + spec.increment / 2) / spec.increment + count := by
      rw [named]
      field_simp
      ring
    rw [half, Int.floor_add_intCast, add_eq_right]
    refine Int.floor_eq_zero_iff.mpr ⟨div_nonneg (by linarith) positive.le, ?_⟩
    rw [div_lt_one positive]
    linarith
  unfold roundToStep
  dsimp only
  rw [clamped, whole, least, greatest, ← named]

/-- No parameter's range reaches as far as a thousand, and no step is finer than a
tenth. -/
theorem parameters_coarse {spec : ParameterSpec} (member : spec ∈ parameters) :
    -1024 < spec.minimum ∧ spec.maximum < 1024 ∧ 1 / 10 ≤ spec.increment := by
  simp only [parameters, List.mem_cons, List.not_mem_nil, or_false] at member
  rcases member with rfl | rfl | rfl | rfl | rfl | rfl | rfl | rfl | rfl | rfl | rfl | rfl | rfl |
    rfl | rfl | rfl <;> norm_num

/-- The fields of a canonical configuration lie on their steps. -/
theorem Canonical.step {config : PersistentConfig} (canonical : Canonical config)
    {field : PersistentField} {spec : ParameterSpec} (found : findParameter field.id = some spec) :
    roundToStep spec (fieldValue config field) = fieldValue config field := by
  have rounded := canonical field spec found
  unfold canonicalPlain at rounded
  split_ifs at rounded
  exact Option.some.inj rounded

/-- The double of a canonical value lies nearer to it than half a step. -/
theorem Canonical.holdsStep {config : PersistentConfig} (canonical : Canonical config)
    (field : PersistentField) :
    fieldBits config field < 2 ^ 64 ∧ HoldsStep config (fieldBits config field) field := by
  obtain ⟨spec, found, ordered⟩ := findParameter_field field
  have member := (findParameter_self found).2
  have step := canonical.step found
  obtain ⟨low, high⟩ := roundToStep_mem spec (fieldValue config field) ordered
  rw [step] at low high
  obtain ⟨least, greatest, increment⟩ := parameters_coarse member
  have size : |fieldValue config field| < (2 : ℚ) ^ (10 : ℤ) := by
    rw [show ((2 : ℚ) ^ (10 : ℤ)) = 1024 by norm_num]
    exact abs_lt.mpr ⟨by linarith, by linarith⟩
  obtain ⟨small, near, read, close⟩ := doubleOfBits_bitsOfDouble
    (size.trans_le (zpow_le_zpow_right₀ (one_le_two (α := ℚ)) (by norm_num)))
  refine ⟨small, near, spec, read, found, (roundToStep_near member step ?_).symm⟩
  have exponent : max (Int.log 2 |fieldValue config field|) (-1022) - 53 ≤ (-43 : ℤ) := by
    have logarithm : Int.log 2 |fieldValue config field| < 10 ∨ fieldValue config field = 0 := by
      by_cases zero : fieldValue config field = 0
      · exact .inr zero
      · refine .inl ((Int.lt_zpow_iff_log_lt one_lt_two (abs_pos.mpr zero)).mp ?_)
        rwa [Nat.cast_ofNat]
    rcases logarithm with less | zero
    · omega
    · rw [zero, abs_zero, Int.log_zero_right]
      norm_num
  have tiny : (2 : ℚ) ^ (max (Int.log 2 |fieldValue config field|) (-1022) - 53) ≤
      (2 : ℚ) ^ (-43 : ℤ) := zpow_le_zpow_right₀ one_le_two exponent
  have finer : (2 : ℚ) ^ (-43 : ℤ) < 1 / 20 := by norm_num
  exact close.trans_lt (tiny.trans_lt (finer.trans_le (by linarith)))

/-- A configuration is canonical exactly if all of its fields are in range and on a step. -/
theorem canonical_iff_onSteps {config : PersistentConfig} : Canonical config ↔ OnSteps config := by
  constructor
  · intro canonical field spec found
    exact ⟨_, (canonical.step found).symm⟩
  · intro steps field spec found
    obtain ⟨value, step⟩ := steps field spec found
    have member := (findParameter_self found).2
    rw [canonicalPlain, if_pos (parameters_valid member).1, Option.map_some, step,
      roundToStep_idem member]

/-- **A canonical configuration is read back.** -/
theorem decodeState_of_encoded {config : PersistentConfig} (canonical : Canonical config)
    {image : List Byte} (encoded : encodeState config = some image) :
    decodeState image = some config := by
  obtain ⟨-, rfl⟩ := encodeState_iff.mp encoded
  exact decodeState_iff.mpr ⟨fieldBits config, rfl, canonical.holdsStep⟩

/-- **The state codec.** A canonical configuration has an image, which decodes to it. A
refused call leaves its destination; an accepted one was given the encoder's layout,
with its header, checksum and identifiers, for some finite doubles, and writes the
canonical configuration of the steps nearest to them, whose image decodes to it. -/
theorem state_image_codec :
    (∀ (config output : PersistentConfig), Canonical config →
      ∃ image, encodeState config = some image ∧ decodeStateInto image output = (true, config)) ∧
    ∀ (bytes : List Byte) (output : PersistentConfig),
      decodeStateInto bytes output = (false, output) ∨
        ∃ config, decodeStateInto bytes output = (true, config) ∧ Canonical config ∧
          (∃ bits : PersistentField → Nat, bytes = stateImage bits ∧
            ∀ field, bits field < 2 ^ 64 ∧ HoldsStep config (bits field) field) ∧
          ∃ image, encodeState config = some image ∧ image = stateImage (fieldBits config) ∧
            decodeState image = some config := by
  have encodes (config : PersistentConfig) (canonical : Canonical config) :
      ∃ image, encodeState config = some image ∧ image = stateImage (fieldBits config) ∧
        decodeState image = some config := by
    obtain ⟨image, encoded⟩ :=
      Option.isSome_iff_exists.mp (canonical_iff_onSteps.mp canonical).encodes
    exact ⟨image, encoded, (encodeState_iff.mp encoded).2, decodeState_of_encoded canonical encoded⟩
  refine ⟨fun config output canonical => ?_, fun bytes output => ?_⟩
  · obtain ⟨image, encoded, -, decoded⟩ := encodes config canonical
    exact ⟨image, encoded, by rw [decodeStateInto, decoded]⟩
  · unfold decodeStateInto
    cases decoded : decodeState bytes with
    | none => exact .inl rfl
    | some config =>
        have canonical := canonical_iff_onSteps.mpr (decodeState_onSteps decoded)
        exact .inr ⟨config, rfl, canonical, decodeState_iff.mp decoded, encodes config canonical⟩

/-- A concert pitch of 441.5 Hz, and a lowest note of 40. -/
def editedConfig : PersistentConfig :=
  (applyParameter (applyParameter {} 0x4D330003 (some (883 / 2))).2 0x4D330007 (some 40)).2

/-- The example's configuration is canonical. -/
theorem canonical_editedConfig : Canonical editedConfig := by
  refine canonical_iff_onSteps.mpr ?_
  exact (onSteps_default.applyParameter 0x4D330003 _).applyParameter 0x4D330007 _

/-- An edited configuration is written, and read back over another one. -/
theorem state_image_codec_edited :
    (editedConfig.a4Hz = 883 / 2 ∧ editedConfig.lowestNote = 40) ∧
      ∃ image, encodeState editedConfig = some image ∧
        decodeStateInto image { sensitivity := 0 } = (true, editedConfig) :=
  ⟨by decide +kernel, state_image_codec.1 editedConfig _ canonical_editedConfig⟩

end M3Midi
