import M3Midi.Parameter.Batch
import M3Midi.Parameter.StateImage
import M3Midi.Exchange.Staging
import M3Midi.Detector.Configuration

/-! # The configurations the validators accept

A configuration comes from a state image, from applied parameters or from the
stage that prepares it. Each of these checks the fields one by one, so that every
field lies in its range, or a staging tolerance outside of it. The detector also
compares the fields with each other.
-/

namespace M3Midi

open Foundation

/-- What `apply_parameter` can make of the default configuration. -/
inductive Applied : PersistentConfig → Prop
  | default : Applied {}
  | apply {config : PersistentConfig} (id : ParameterId) (plain : Option ℚ) :
      Applied config → (applyParameter config id plain).1 ≠ .rejected →
        Applied (applyParameter config id plain).2

/-- The configurations that one of the validators accepts at a sample rate. They come from state
images, from parameters, and from the preparation of a requested configuration. -/
inductive AcceptedConfig (rate : ℚ) : PersistentConfig → Prop
  | decoded {bytes : List Byte} {config : PersistentConfig} :
      decodeState bytes = some config → AcceptedConfig rate config
  | applied {config : PersistentConfig} : Applied config → AcceptedConfig rate config
  | staged {config : PersistentConfig} {prepared : PreparedConfig} :
      stagePreparedConfig config (some rate) = some prepared → AcceptedConfig rate config

/-- Every field holds a step of its parameter. -/
def OnSteps (config : PersistentConfig) : Prop :=
  ∀ field spec, findParameter field.id = some spec →
    ∃ value, fieldValue config field = roundToStep spec value

/-- Every field lies within the staging tolerance of its parameter's range. -/
def NearRange (config : PersistentConfig) : Prop :=
  ∀ field spec, findParameter field.id = some spec →
    spec.minimum - stagingTolerance ≤ fieldValue config field ∧
      fieldValue config field ≤ spec.maximum + stagingTolerance

/-- The defaults are steps of their own parameters. -/
theorem onSteps_default : OnSteps {} := by
  intro field spec found
  refine ⟨fieldValue {} field, ?_⟩
  cases field <;> obtain rfl := Option.some.inj found <;> decide +kernel

/-- Writing a canonical value keeps every field on a step. -/
theorem OnSteps.setField {config : PersistentConfig} (steps : OnSteps config)
    {field : PersistentField} {spec : ParameterSpec} (found : findParameter field.id = some spec)
    {plain : Option ℚ} {value : ℚ} (canonical : canonicalPlain spec plain = some value) :
    OnSteps (setField field value config) := by
  intro other otherSpec otherFound
  by_cases same : other = field
  · subst same
    obtain rfl := Option.some.inj (found.symm.trans otherFound)
    rw [fieldValue_setField_canonical found canonical]
    unfold canonicalPlain at canonical
    split_ifs at canonical
    obtain ⟨source, -, rounded⟩ := Option.map_eq_some_iff.mp canonical
    exact ⟨source, rounded.symm⟩
  · rw [fieldValue_setField_other value config same]
    exact steps other otherSpec otherFound

/-- No parameter takes a configuration off its steps. -/
theorem OnSteps.applyParameter {config : PersistentConfig} (steps : OnSteps config)
    (id : ParameterId) (plain : Option ℚ) : OnSteps (applyParameter config id plain).2 := by
  rcases applyParameter_cases config id plain with
    rejected | ⟨spec, value, found, canonical, -, written, -⟩
  · rw [rejected]
    exact steps
  · rw [written]
    cases target : fieldOfId id with
    | none => simpa [idFields, target] using steps
    | some field =>
        have named := id_of_fieldOfId target
        simpa [idFields, target] using steps.setField (named ▸ found) canonical

/-- What has been applied lies on its steps. -/
theorem Applied.onSteps {config : PersistentConfig} (applied : Applied config) :
    OnSteps config := by
  induction applied with
  | default => exact onSteps_default
  | apply id plain _ _ ih => exact ih.applyParameter id plain

/-- Every record of an image keeps the fields on their steps. -/
theorem decodeRecords_onSteps {fields : List PersistentField} {records : List Byte}
    {candidate config : PersistentConfig} (steps : OnSteps candidate)
    (decoded : decodeRecords fields records candidate = some config) : OnSteps config := by
  induction fields generalizing records candidate with
  | nil =>
      obtain rfl := Option.some.inj decoded
      exact steps
  | cons field fields ih =>
      rw [decodeRecords] at decoded
      split_ifs at decoded with named
      cases stored : doubleOfBits (wordAt records 4 8) with
      | none => simp [stored] at decoded
      | some value =>
          rw [stored] at decoded
          dsimp only at decoded
          have next := steps.applyParameter field.id (some value)
          split at decoded
          · exact nomatch decoded
          · exact nomatch decoded
          · rename_i outcome
            rw [outcome] at next
            exact ih next decoded

/-- What has been decoded lies on its steps. -/
theorem decodeState_onSteps {bytes : List Byte} {config : PersistentConfig}
    (decoded : decodeState bytes = some config) : OnSteps config := by
  unfold decodeState at decoded
  dsimp only at decoded
  split_ifs at decoded
  exact decodeRecords_onSteps onSteps_default decoded

/-- A list whose entries can all be converted can be converted. -/
theorem mapM_isSome {Item Value : Type*} {convert : Item → Option Value} {items : List Item}
    (converts : ∀ item ∈ items, (convert item).isSome = true) :
    (items.mapM convert).isSome = true := by
  induction items with
  | nil => rfl
  | cons head items ih =>
      obtain ⟨first, rest⟩ := List.forall_mem_cons.mp converts
      obtain ⟨value, found⟩ := Option.isSome_iff_exists.mp first
      obtain ⟨values, others⟩ := Option.isSome_iff_exists.mp (ih rest)
      rw [List.mapM_cons, found, others]
      rfl

/-- A configuration on its steps has an image. -/
theorem OnSteps.encodes {config : PersistentConfig} (steps : OnSteps config) :
    (encodeState config).isSome = true := by
  unfold encodeState
  rw [Option.isSome_map]
  refine mapM_isSome fun field _ => ?_
  obtain ⟨spec, found, ordered⟩ := findParameter_field field
  obtain ⟨value, step⟩ := steps field spec found
  obtain ⟨above, below⟩ := roundToStep_mem spec value ordered
  unfold encodeRecord
  rw [found, Option.bind_some]
  dsimp only
  rw [step, if_neg (not_or.mpr ⟨not_lt.mpr above, not_lt.mpr below⟩)]
  rfl

/-- Each parameter has a valid specification, and its range is its number of steps. -/
theorem parameters_valid {spec : ParameterSpec} (member : spec ∈ parameters) :
    validSpec spec = true ∧ 0 < spec.increment ∧
      spec.maximum = spec.minimum + spec.stepCount * spec.increment := by
  simp only [parameters, List.mem_cons, List.not_mem_nil, or_false] at member
  rcases member with rfl | rfl | rfl | rfl | rfl | rfl | rfl | rfl | rfl | rfl | rfl | rfl | rfl |
    rfl | rfl | rfl <;> norm_num [validSpec]

/-- Inside the range, the clamps of a whole number of steps do nothing. -/
theorem clamp_step {spec : ParameterSpec} (positive : 0 < spec.increment)
    (range : spec.maximum = spec.minimum + spec.stepCount * spec.increment) {step : ℤ}
    (above : 0 ≤ step) (below : step ≤ spec.stepCount) :
    min (spec.minimum + step * spec.increment) spec.maximum = spec.minimum + step * spec.increment ∧
      max spec.minimum (spec.minimum + step * spec.increment) =
        spec.minimum + step * spec.increment := by
  constructor
  · refine min_eq_left ?_
    rw [range]
    gcongr
    exact_mod_cast below
  · exact max_eq_right (le_add_of_nonneg_right (mul_nonneg (by exact_mod_cast above) positive.le))

/-- Rounding gives a whole number of steps inside the range. -/
theorem roundToStep_eq_step {spec : ParameterSpec} (positive : 0 < spec.increment)
    (range : spec.maximum = spec.minimum + spec.stepCount * spec.increment) (value : ℚ) :
    ∃ step : ℤ, 0 ≤ step ∧ step ≤ spec.stepCount ∧
      roundToStep spec value = spec.minimum + step * spec.increment := by
  have ordered : spec.minimum ≤ spec.maximum := by
    rw [range]
    exact le_add_of_nonneg_right (by positivity)
  obtain ⟨bounded, low, high, clamped⟩ : ∃ bounded, spec.minimum ≤ bounded ∧
      bounded ≤ spec.maximum ∧ max spec.minimum (min value spec.maximum) = bounded :=
    ⟨_, le_max_left _ _, max_le ordered (min_le_right _ _), rfl⟩
  have from_ : 0 ≤ (bounded - spec.minimum) / spec.increment :=
    div_nonneg (by linarith) positive.le
  have upto : (bounded - spec.minimum) / spec.increment ≤ spec.stepCount := by
    rw [div_le_iff₀ positive]
    linarith
  have above : 0 ≤ ⌊(bounded - spec.minimum) / spec.increment + 1 / 2⌋ :=
    Int.floor_nonneg.mpr (by linarith)
  have below : ⌊(bounded - spec.minimum) / spec.increment + 1 / 2⌋ ≤ (spec.stepCount : ℤ) := by
    refine Int.lt_add_one_iff.mp (Int.floor_lt.mpr ?_)
    push_cast
    linarith
  refine ⟨_, above, below, ?_⟩
  obtain ⟨least, greatest⟩ := clamp_step positive range above below
  unfold roundToStep
  dsimp only
  rw [clamped, least, greatest]

/-- Rounding to a step is idempotent. -/
theorem roundToStep_idem {spec : ParameterSpec} (member : spec ∈ parameters) (value : ℚ) :
    roundToStep spec (roundToStep spec value) = roundToStep spec value := by
  obtain ⟨-, positive, range⟩ := parameters_valid member
  obtain ⟨step, above, below, rounded⟩ := roundToStep_eq_step positive range value
  obtain ⟨least, greatest⟩ := clamp_step positive range above below
  have whole : ⌊(step : ℚ) + 1 / 2⌋ = step := by
    rw [Int.floor_intCast_add]
    norm_num
  rw [rounded]
  unfold roundToStep
  dsimp only
  rw [least, greatest, add_sub_cancel_left, mul_div_cancel_right₀ _ positive.ne', whole, least,
    greatest]

/-- The stage accepts every configuration on steps. -/
theorem OnSteps.valid {config : PersistentConfig} (steps : OnSteps config) :
    validRequestedConfig config = true := by
  refine List.all_eq_true.mpr fun field _ => ?_
  obtain ⟨spec, found, -⟩ := findParameter_field field
  obtain ⟨value, step⟩ := steps field spec found
  have member := (findParameter_self found).2
  unfold validRequestedField canonicalPlain
  rw [found]
  simp only [(parameters_valid member).1, if_true, Option.map_some, Option.any_some, step,
    roundToStep_idem member, sub_self, abs_zero]
  norm_num [stagingTolerance]

/-- A valid request lies near its ranges. -/
theorem near_of_valid {config : PersistentConfig} (valid : validRequestedConfig config = true) :
    NearRange config := by
  intro field spec found
  have checked : validRequestedField config field = true :=
    List.all_eq_true.mp valid field (by cases field <;> decide)
  unfold validRequestedField at checked
  rw [found] at checked
  dsimp only at checked
  obtain ⟨other, same, ordered⟩ := findParameter_field field
  obtain rfl := Option.some.inj (found.symm.trans same)
  unfold canonicalPlain at checked
  split_ifs at checked
  · rw [Option.map_some, Option.any_some] at checked
    obtain ⟨above, below⟩ := roundToStep_mem spec (fieldValue config field) ordered
    obtain ⟨low, high⟩ := abs_le.mp (of_decide_eq_true checked)
    exact ⟨by linarith, by linarith⟩
  · exact nomatch checked

/-- The stage succeeds on valid requests, at every positive rate. -/
theorem stagePreparedConfig_isSome {config : PersistentConfig} {rate : ℚ} (positive : 0 < rate) :
    (stagePreparedConfig config (some rate)).isSome = validRequestedConfig config := by
  have decision : (0 : ℚ) < decisionQuantum / rate := by
    have quantum : (0 : ℚ) < decisionQuantum := by norm_num [decisionQuantum]
    positivity
  unfold stagePreparedConfig
  dsimp only
  cases valid : validRequestedConfig config with
  | false => simp
  | true => rw [if_neg (by simp [positive, decision])]; rfl

/-- Whatever one validator accepts, the stage accepts. -/
theorem AcceptedConfig.valid {rate : ℚ} {config : PersistentConfig} (positive : 0 < rate)
    (accepted : AcceptedConfig rate config) : validRequestedConfig config = true := by
  cases accepted with
  | decoded image => exact (decodeState_onSteps image).valid
  | applied applied => exact applied.onSteps.valid
  | staged staged => rw [← stagePreparedConfig_isSome positive, staged, Option.isSome_some]

/-- A natural within the tolerance of a range of naturals lies in it. -/
theorem natural_mem_of_near {low high value : Nat} (above : (low : ℚ) - stagingTolerance ≤ value)
    (below : (value : ℚ) ≤ high + stagingTolerance) : low ≤ value ∧ value ≤ high := by
  have small : stagingTolerance < 1 := by norm_num [stagingTolerance]
  constructor
  · have nearly : (low : ℚ) < value + 1 := by linarith
    exact Nat.lt_succ_iff.mp (by exact_mod_cast nearly)
  · have nearly : (value : ℚ) < high + 1 := by linarith
    exact Nat.lt_succ_iff.mp (by exact_mod_cast nearly)

/-- Of a configuration whose fields are checked one by one, the detector still
refuses an empty note range and a reference pitch outside its own range. -/
theorem validConfig_iff {config : PersistentConfig} (near : NearRange config) {rate : ℚ}
    (positive : 0 < rate) :
    validConfig (some rate) config = true ↔
      config.lowestNote ≤ config.highestNote ∧
        minimumA4Hz ≤ config.a4Hz ∧ config.a4Hz ≤ maximumA4Hz := by
  have range (field : PersistentField) {spec : ParameterSpec}
      (found : findParameter field.id = some spec) {low high value : Nat}
      (minimum : spec.minimum = low) (maximum : spec.maximum = high)
      (reads : fieldValue config field = value) : low ≤ value ∧ value ≤ high := by
    obtain ⟨above, below⟩ := near field spec found
    rw [minimum, reads] at above
    rw [maximum, reads] at below
    exact natural_mem_of_near above below
  obtain ⟨lowest, -⟩ : 24 ≤ config.lowestNote ∧ config.lowestNote ≤ 108 :=
    range .lowestNote rfl (by norm_num) (by norm_num) rfl
  obtain ⟨-, highest⟩ : 24 ≤ config.highestNote ∧ config.highestNote ≤ 108 :=
    range .highestNote rfl (by norm_num) (by norm_num) rfl
  obtain ⟨one, voices⟩ : 1 ≤ config.maxPolyphony ∧ config.maxPolyphony ≤ 8 :=
    range .maxPolyphony rfl (by norm_num) (by norm_num) rfl
  obtain ⟨-, frets⟩ : 0 ≤ config.maxFret ∧ config.maxFret ≤ 36 :=
    range .maxFret rfl (by norm_num) (by norm_num) rfl
  have profile : config.profileMode = .m3 ∨ config.profileMode = .general := by
    cases config.profileMode <;> simp
  have span : config.highestNote - config.lowestNote + 1 ≤ maxCandidates := by
    unfold maxCandidates
    omega
  simp only [validConfig, Option.any_some, positive, minimumMidiNote, lowest, maximumMidiNote,
    highest, one, maxVoices, voices, frets, span, Bool.and_eq_true, Bool.or_eq_true,
    decide_eq_true_eq, profile, and_true, true_and, and_assoc]
  tauto

end M3Midi
