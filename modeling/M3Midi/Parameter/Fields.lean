import M3Midi.Parameter.Contract
import Mathlib.Tactic.Linarith
import Mathlib.Tactic.NormNum

/-! # Configurations as independent fields

A configuration is what its fields read, and writing a parameter decides one
field. Every value a parameter writes is a step inside the parameter's range.
-/

namespace M3Midi

open Foundation

/-- What a field reads once a value is written to it. -/
def storedValue : PersistentField → ℚ → ℚ
  | .midiRouting, value | .profileMode, value | .velocityMode, value =>
      if unsignedOfValue value = 0 then 0 else 1
  | .a4Hz, value | .inputTrimDb, value => value
  | .dryPassthrough, value => if value ≥ 1 then 1 else 0
  | _, value => unsignedOfValue value

/-- A field that is set has the value that is stored for it. -/
theorem fieldValue_setField_self (field : PersistentField) (value : ℚ)
    (config : PersistentConfig) :
    fieldValue (setField field value config) field = storedValue field value := by
  cases field with
  | midiRouting | profileMode | velocityMode =>
      by_cases zero : unsignedOfValue value = 0 <;>
        simp [fieldValue, setField, storedValue, zero]
  | dryPassthrough => simp [fieldValue, setField, storedValue]
  | _ => rfl

/-- The other fields keep theirs. -/
theorem fieldValue_setField_other {field other : PersistentField} (value : ℚ)
    (config : PersistentConfig) (different : other ≠ field) :
    fieldValue (setField field value config) other = fieldValue config other := by
  cases field <;> cases other <;> first | rfl | exact absurd rfl different

/-- A configuration is determined by its fields. -/
theorem config_ext {first second : PersistentConfig}
    (same : ∀ field, fieldValue first field = fieldValue second field) : first = second := by
  have natural (field : PersistentField) {left right : Nat}
      (reads : (left : ℚ) = fieldValue first field) (others : fieldValue second field = right) :
      left = right := Nat.cast_injective (reads.trans ((same field).trans others))
  have routing : first.midiRouting = second.midiRouting := by
    have read := same .midiRouting
    cases left : first.midiRouting <;> cases right : second.midiRouting <;>
      simp [fieldValue, left, right] at read ⊢
  have profile : first.profileMode = second.profileMode := by
    have read := same .profileMode
    cases left : first.profileMode <;> cases right : second.profileMode <;>
      simp [fieldValue, left, right] at read ⊢
  have velocity : first.velocityMode = second.velocityMode := by
    have read := same .velocityMode
    cases left : first.velocityMode <;> cases right : second.velocityMode <;>
      simp [fieldValue, left, right] at read ⊢
  have dry : first.dryPassthrough = second.dryPassthrough := by
    have read := same .dryPassthrough
    cases left : first.dryPassthrough <;> cases right : second.dryPassthrough <;>
      simp [fieldValue, left, right] at read ⊢
  have a4Hz : first.a4Hz = second.a4Hz := same .a4Hz
  have inputTrimDb : first.inputTrimDb = second.inputTrimDb := same .inputTrimDb
  have sensitivity : first.sensitivity = second.sensitivity := natural .sensitivity rfl rfl
  have response : first.response = second.response := natural .response rfl rfl
  have lowestNote : first.lowestNote = second.lowestNote := natural .lowestNote rfl rfl
  have highestNote : first.highestNote = second.highestNote := natural .highestNote rfl rfl
  have maxPolyphony : first.maxPolyphony = second.maxPolyphony := natural .maxPolyphony rfl rfl
  have maxFret : first.maxFret = second.maxFret := natural .maxFret rfl rfl
  have fixedVelocity : first.fixedVelocity = second.fixedVelocity := natural .fixedVelocity rfl rfl
  have midiChannel : first.midiChannel = second.midiChannel := natural .midiChannel rfl rfl
  cases first
  cases second
  simp_all only

/-- The fields of a configuration, written by canonical values. -/
def configFields : Fields PersistentField ℚ ℚ PersistentConfig where
  write := setField
  read field config := fieldValue config field
  stored := storedValue
  read_write_self := fieldValue_setField_self
  read_write_other _ _ value config different := fieldValue_setField_other value config different
  ext _ _ same := config_ext same

/-- A value that is rounded to a step is in range. -/
theorem roundToStep_mem (spec : ParameterSpec) (value : ℚ) (ordered : spec.minimum ≤ spec.maximum) :
    spec.minimum ≤ roundToStep spec value ∧ roundToStep spec value ≤ spec.maximum :=
  ⟨le_max_left _ _, max_le ordered (min_le_right _ _)⟩

/-- A parameter that steps by one between naturals takes natural values. -/
theorem roundToStep_natural {spec : ParameterSpec} {low high : Nat}
    (minimum : spec.minimum = low) (maximum : spec.maximum = high) (increment : spec.increment = 1)
    (ordered : low ≤ high) (value : ℚ) :
    ∃ step : Nat, low ≤ step ∧ step ≤ high ∧ roundToStep spec value = step := by
  obtain ⟨steps, rounded⟩ : ∃ steps : ℤ,
      roundToStep spec value = max (low : ℚ) (min ((low : ℚ) + steps) high) := by
    refine ⟨⌊(max spec.minimum (min value spec.maximum) - spec.minimum) / spec.increment +
      1 / 2⌋, ?_⟩
    unfold roundToStep
    dsimp only
    rw [minimum, maximum, increment, mul_one]
  have bounded : (low : ℤ) ≤ max (low : ℤ) (min (low + steps) high) := le_max_left _ _
  have below : max (low : ℤ) (min (low + steps) high) ≤ high :=
    max_le (by exact_mod_cast ordered) (min_le_right _ _)
  obtain ⟨step, same⟩ := Int.eq_ofNat_of_zero_le ((Int.natCast_nonneg low).trans bounded)
  refine ⟨step, by omega, by omega, ?_⟩
  rw [rounded]
  exact_mod_cast same

/-- All fields but the two real ones hold naturals, and store them as they are. -/
theorem natural_field {field : PersistentField} {spec : ParameterSpec}
    (found : findParameter field.id = some spec) (tuning : field ≠ .a4Hz)
    (trim : field ≠ .inputTrimDb) :
    ∃ low high : Nat, low ≤ high ∧ spec.minimum = low ∧ spec.maximum = high ∧
      spec.increment = 1 ∧ ∀ step : Nat, low ≤ step → step ≤ high →
        storedValue field step = step := by
  have whole (step : Nat) : unsignedOfValue (step : ℚ) = step := by
    simp [unsignedOfValue]
  cases field with
  | a4Hz => exact absurd rfl tuning
  | inputTrimDb => exact absurd rfl trim
  | midiRouting | profileMode | velocityMode | dryPassthrough =>
      obtain rfl := Option.some.inj found
      refine ⟨0, 1, by omega, by norm_num, by norm_num, rfl, fun step _ below => ?_⟩
      rcases Nat.le_one_iff_eq_zero_or_eq_one.mp below with rfl | rfl <;>
        simp [storedValue, unsignedOfValue]
  | sensitivity | response =>
      obtain rfl := Option.some.inj found
      exact ⟨0, 100, by omega, by norm_num, by norm_num, rfl,
        fun step _ _ => congrArg Nat.cast (whole step)⟩
  | lowestNote | highestNote =>
      obtain rfl := Option.some.inj found
      exact ⟨24, 108, by omega, by norm_num, by norm_num, rfl,
        fun step _ _ => congrArg Nat.cast (whole step)⟩
  | maxPolyphony =>
      obtain rfl := Option.some.inj found
      exact ⟨1, 8, by omega, by norm_num, by norm_num, rfl,
        fun step _ _ => congrArg Nat.cast (whole step)⟩
  | maxFret =>
      obtain rfl := Option.some.inj found
      exact ⟨0, 36, by omega, by norm_num, by norm_num, rfl,
        fun step _ _ => congrArg Nat.cast (whole step)⟩
  | fixedVelocity =>
      obtain rfl := Option.some.inj found
      exact ⟨1, 127, by omega, by norm_num, by norm_num, rfl,
        fun step _ _ => congrArg Nat.cast (whole step)⟩
  | midiChannel =>
      obtain rfl := Option.some.inj found
      exact ⟨1, 16, by omega, by norm_num, by norm_num, rfl,
        fun step _ _ => congrArg Nat.cast (whole step)⟩

/-- A field stores a canonical value as it is. -/
theorem storedValue_roundToStep {field : PersistentField} {spec : ParameterSpec}
    (found : findParameter field.id = some spec) (value : ℚ) :
    storedValue field (roundToStep spec value) = roundToStep spec value := by
  by_cases tuning : field = .a4Hz
  · subst tuning
    rfl
  by_cases trim : field = .inputTrimDb
  · subst trim
    rfl
  obtain ⟨low, high, ordered, minimum, maximum, increment, stores⟩ :=
    natural_field found tuning trim
  obtain ⟨step, above, below, rounded⟩ :=
    roundToStep_natural minimum maximum increment ordered value
  rw [rounded]
  exact stores step above below

/-- A written canonical value is read back. -/
theorem fieldValue_setField_canonical {field : PersistentField} {spec : ParameterSpec}
    (found : findParameter field.id = some spec) {plain : Option ℚ} {value : ℚ}
    (canonical : canonicalPlain spec plain = some value) (config : PersistentConfig) :
    fieldValue (setField field value config) field = value := by
  unfold canonicalPlain at canonical
  split_ifs at canonical
  obtain ⟨source, -, rfl⟩ := Option.map_eq_some_iff.mp canonical
  rw [fieldValue_setField_self, storedValue_roundToStep found]

/-- Each field has a parameter, whose range is not empty. -/
theorem findParameter_field (field : PersistentField) :
    ∃ spec, findParameter field.id = some spec ∧ spec.minimum ≤ spec.maximum := by
  cases field <;> exact ⟨_, rfl, by norm_num⟩

end M3Midi
