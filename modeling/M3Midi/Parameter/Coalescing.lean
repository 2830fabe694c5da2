import M3Midi.Parameter.Batch
import M3Midi.Component.Process

/-! # A block's parameters, all or none

An accepted block leaves each field at the canonical value of the last point its
queues hold for that field's parameter, and raises its flags exactly when a field
they are about differs. A refused block reaches no parameter and no panic request:
the call only fails the output (`M3Midi.M3Component.block_parameters_exact`).
-/

namespace M3Midi

open Foundation

/-- The queue's points when it carries the parameter. -/
def queuePoints (id : ParameterId) (queue : Option ParamValueQueue) :
    List (Option (Int × Option ℚ)) :=
  match queue with
  | none => []
  | some queue => if queue.parameterId = id then queue.points.getD [] else []

/-- All points a block holds for a parameter, in the host's order. -/
def ParameterChanges.points (changes : ParameterChanges) (id : ParameterId) :
    List (Option (Int × Option ℚ)) :=
  (changes.queues.getD []).flatMap (queuePoints id)

/-- The normalized values of a parameter's points. -/
def pointValues (changes : Option ParameterChanges) (id : ParameterId) : List (Option ℚ) :=
  (changes.elim [] fun changes => changes.points id).map fun point => point.bind (·.2)

/-- The normalized value of a parameter's last point. -/
def lastPointValue (changes : Option ParameterChanges) (id : ParameterId) : Option ℚ :=
  (pointValues changes id).getLast?.join

/-- The canonical plain value of a host's normalized value. -/
def canonicalValue (id : ParameterId) (normalized : ℚ) : Option ℚ :=
  (findParameter id).bind fun spec => canonicalNormalizedValue spec (some normalized)

/-- A field whose change needs a new preparation of the detector. -/
def PersistentField.Structural (field : PersistentField) : Prop :=
  ∃ spec, findParameter field.id = some spec ∧ spec.updateClass = .structural

/-- Each field holds the canonical value of its last point, or what it held before,
and each flag is raised exactly when a field it is about differs. -/
structure ParameterBatch.Exact (batch : ParameterBatch) (changes : Option ParameterChanges)
    (current : PersistentConfig) : Prop where
  fields : ∀ field, some (fieldValue batch.candidate field) =
    match lastPointValue changes field.id with
    | none => some (fieldValue current field)
    | some normalized => canonicalValue field.id normalized
  changed : batch.changed = true ↔
    ∃ field, fieldValue batch.candidate field ≠ fieldValue current field
  structural : batch.structural = true ↔
    ∃ field : PersistentField, field.Structural ∧
      fieldValue batch.candidate field ≠ fieldValue current field

/-! ## Canonical values are steps -/

/-- The parameter's range is a whole number of its increments. -/
structure ParameterSpec.Stepped (spec : ParameterSpec) : Prop where
  positive : 0 < spec.increment
  span : spec.maximum = spec.minimum + spec.stepCount * spec.increment

/-- Every parameter of the table has its range in steps. -/
theorem stepped_of_mem {spec : ParameterSpec} (member : spec ∈ parameters) : spec.Stepped := by
  have table : ∀ spec ∈ parameters, 0 < spec.increment ∧
      spec.maximum = spec.minimum + spec.stepCount * spec.increment := by
    decide +kernel
  exact ⟨(table spec member).1, (table spec member).2⟩

namespace ParameterSpec.Stepped

variable {spec : ParameterSpec} (stepped : spec.Stepped)
include stepped

/-- A step within the count is in range. -/
theorem step_le {step : ℕ} (within : step ≤ spec.stepCount) :
    spec.minimum + step * spec.increment ≤ spec.maximum := by
  have counted : (step : ℚ) ≤ spec.stepCount := by exact_mod_cast within
  have grown := mul_le_mul_of_nonneg_right counted stepped.positive.le
  rw [stepped.span]
  linarith

/-- No step lies below the range. -/
theorem minimum_le_step (step : ℕ) : spec.minimum ≤ spec.minimum + step * spec.increment := by
  have grown : 0 ≤ (step : ℚ) * spec.increment :=
    mul_nonneg step.cast_nonneg stepped.positive.le
  linarith

/-- Rounding lands on a step of the range. -/
theorem roundToStep_step (value : ℚ) :
    ∃ step ≤ spec.stepCount, roundToStep spec value = spec.minimum + step * spec.increment := by
  have low : 0 ≤ (max spec.minimum (min value spec.maximum) - spec.minimum) / spec.increment :=
    div_nonneg (sub_nonneg.mpr (le_max_left _ _)) stepped.positive.le
  have ordered : spec.minimum ≤ spec.maximum := by
    simpa using stepped.step_le (Nat.zero_le _)
  have high : (max spec.minimum (min value spec.maximum) - spec.minimum) / spec.increment ≤
      spec.stepCount := by
    rw [div_le_iff₀ stepped.positive]
    have bounded : max spec.minimum (min value spec.maximum) ≤ spec.maximum :=
      max_le ordered (min_le_right _ _)
    linarith [stepped.span]
  obtain ⟨step, counted⟩ := Int.eq_ofNat_of_zero_le
    (Int.floor_nonneg.mpr (add_nonneg low (by norm_num : (0 : ℚ) ≤ 1 / 2)))
  have within : step ≤ spec.stepCount := by
    have below := Int.floor_le
      ((max spec.minimum (min value spec.maximum) - spec.minimum) / spec.increment + 1 / 2)
    rw [counted] at below
    have strict : (step : ℚ) < spec.stepCount + 1 := by
      rw [Int.cast_natCast] at below
      linarith
    exact Nat.lt_succ_iff.mp (by exact_mod_cast strict)
  refine ⟨step, within, ?_⟩
  unfold roundToStep
  dsimp only
  rw [counted, Int.cast_natCast, min_eq_left (stepped.step_le within),
    max_eq_right (stepped.minimum_le_step step)]

/-- A step of the range rounds to itself. -/
theorem roundToStep_self {step : ℕ} (within : step ≤ spec.stepCount) :
    roundToStep spec (spec.minimum + step * spec.increment) =
      spec.minimum + step * spec.increment := by
  have whole : ⌊(step : ℚ) + 1 / 2⌋ = step := by
    rw [Int.floor_eq_iff]
    constructor <;> push_cast <;> linarith
  unfold roundToStep
  dsimp only
  rw [min_eq_left (stepped.step_le within), max_eq_right (stepped.minimum_le_step step),
    add_sub_cancel_left, mul_div_cancel_right₀ _ stepped.positive.ne', whole, Int.cast_natCast,
    min_eq_left (stepped.step_le within), max_eq_right (stepped.minimum_le_step step)]

/-- A value on a step is rounded to itself. -/
theorem roundToStep_idem (value : ℚ) :
    roundToStep spec (roundToStep spec value) = roundToStep spec value := by
  obtain ⟨step, within, rounded⟩ := stepped.roundToStep_step value
  rw [rounded, stepped.roundToStep_self within]

end ParameterSpec.Stepped

/-- A canonical value is canonical. -/
theorem canonicalPlain_canonicalNormalized {spec : ParameterSpec} (stepped : spec.Stepped)
    {normalized : Option ℚ} {plain : ℚ}
    (canonical : canonicalNormalizedValue spec normalized = some plain) :
    canonicalPlain spec (some plain) = some plain := by
  obtain ⟨value, accepted⟩ := Option.isSome_iff_exists.mp (canonicalPlain_isSome canonical)
  cases normalized with
  | none => simp [canonicalNormalizedValue] at canonical
  | some normalized =>
      have converted : normalizedToPlain spec (some normalized) = some plain := by
        unfold canonicalNormalizedValue at canonical
        dsimp only at canonical
        by_cases outside : normalized < 0 ∨ normalized > 1
        · simp [outside] at canonical
        · rw [if_neg outside] at canonical
          split at canonical
          · exact nomatch canonical
          · split_ifs at canonical
            exact canonical
      unfold canonicalPlain at accepted ⊢
      split_ifs at accepted ⊢ with valid
      rw [normalizedToPlain, Option.bind_some, canonicalPlain, if_pos valid, Option.map_some,
        Option.some.injEq] at converted
      rw [Option.map_some, ← converted, stepped.roundToStep_idem]

/-- The value a write stores is the canonical value of the host's. -/
theorem plainValue_eq_canonicalValue (id : ParameterId) (normalized : ℚ) :
    plainValue id normalized = canonicalValue id normalized := by
  unfold plainValue canonicalValue
  cases found : findParameter id with
  | none => rfl
  | some spec =>
      rw [Option.bind_some, Option.bind_some]
      cases canonical : canonicalNormalizedValue spec (some normalized) with
      | none => rfl
      | some plain =>
          exact canonicalPlain_canonicalNormalized
            (stepped_of_mem (findParameter_self found).2) canonical

/-! ## The last point of a parameter -/

/-- What each result keeps of its input carries over to the lists. -/
theorem map_of_mapM {Input Output Kept : Type} {read : Input → Option Output}
    {keep : Output → Kept} {source : Input → Kept}
    (keeps : ∀ {input output}, read input = some output → keep output = source input)
    {inputs : List Input} {outputs : List Output} (mapped : inputs.mapM read = some outputs) :
    outputs.map keep = inputs.map source := by
  induction inputs generalizing outputs with
  | nil =>
      obtain rfl := Option.some.inj mapped
      rfl
  | cons input rest ih =>
      rw [List.mapM_cons] at mapped
      obtain ⟨head, first, others⟩ := Option.bind_eq_some_iff.mp mapped
      obtain ⟨tail, remaining, joined⟩ := Option.bind_eq_some_iff.mp others
      obtain rfl := Option.some.inj joined
      rw [List.map_cons, List.map_cons, keeps first, ih remaining]

/-- An accepted point writes its own value under its parameter. -/
theorem readPoint_write {numSamples : Int} {spec : ParameterSpec}
    {point : Option (Int × Option ℚ)} {write : ParameterId × ℚ}
    (read : readPoint numSamples spec point = some write) :
    write.1 = spec.id ∧ some write.2 = point.bind (·.2) := by
  unfold readPoint at read
  cases point with
  | none => exact nomatch read
  | some sample =>
      obtain ⟨offset, normalized⟩ := sample
      dsimp only at read
      by_cases late : offset < 0 ∨ (if numSamples = 0 then offset ≠ 0 else offset ≥ numSamples)
      · simp [late] at read
      · rw [if_neg late] at read
        split_ifs at read
        obtain ⟨value, rfl, rfl⟩ := Option.map_eq_some_iff.mp read
        exact ⟨rfl, rfl⟩

/-- The values a list of writes gives one parameter. -/
def writtenValues (id : ParameterId) (writes : List (ParameterId × ℚ)) : List (Option ℚ) :=
  (writes.filter fun write => write.1 = id).map fun write => some write.2

/-- An accepted queue writes the values of its points to a parameter of the table. -/
theorem readQueue_values {numSamples : Int} {queue : Option ParamValueQueue}
    {writes : List (ParameterId × ℚ)} {id : ParameterId} (known : (findParameter id).isSome)
    (read : readQueue numSamples queue = some writes) :
    writtenValues id writes = (queuePoints id queue).map fun point => point.bind (·.2) := by
  unfold readQueue at read
  cases queue with
  | none => exact nomatch read
  | some queue =>
      dsimp only [queuePoints] at read ⊢
      cases found : findParameter queue.parameterId with
      | none =>
          rw [found] at read
          dsimp only at read
          split_ifs at read
          obtain rfl := Option.some.inj read
          have other : queue.parameterId ≠ id := by
            rintro rfl
            simp [found] at known
          rw [if_neg other]
          rfl
      | some spec =>
          rw [found] at read
          dsimp only at read
          cases listed : queue.points with
          | none => simp [listed] at read
          | some points =>
              rw [listed] at read
              dsimp only at read
              split_ifs at read
              have named : ∀ write ∈ writes, write.1 = queue.parameterId := by
                intro write member
                obtain ⟨point, -, accepted⟩ := mem_of_mapM read member
                exact (readPoint_write accepted).1.trans (findParameter_self found).1
              unfold writtenValues
              by_cases same : queue.parameterId = id
              · rw [if_pos same, List.filter_eq_self.mpr]
                · exact map_of_mapM (fun accepted => (readPoint_write accepted).2) read
                · intro write member
                  simpa using (named write member).trans same
              · rw [if_neg same, List.filter_eq_nil_iff.mpr]
                · rfl
                · intro write member
                  simpa [named write member] using same

/-- An accepted block writes the values of its points, in the host's order. -/
theorem boundaryWrites_values {numSamples : Int} {changes : Option ParameterChanges}
    {writes : List (ParameterId × ℚ)} {id : ParameterId} (known : (findParameter id).isSome)
    (read : boundaryWrites numSamples changes = some writes) :
    writtenValues id writes = pointValues changes id := by
  unfold boundaryWrites at read
  split_ifs at read
  cases changes with
  | none =>
      obtain rfl := Option.some.inj read
      rfl
  | some changes =>
      dsimp only [pointValues, Option.elim, ParameterChanges.points] at read ⊢
      cases listed : changes.queues with
      | none => simp [listed] at read
      | some queues =>
          rw [listed] at read
          dsimp only at read
          split_ifs at read
          obtain ⟨lists, mapped, rfl⟩ := Option.map_eq_some_iff.mp read
          have each := map_of_mapM (fun accepted => readQueue_values known accepted) mapped
          rw [Option.getD_some, List.map_flatMap, List.flatMap, ← each, writtenValues,
            List.filter_flatten, List.map_flatten, List.map_map]
          rfl

/-- The last write of a parameter is the value of its last point. -/
theorem lastWrite_eq_lastPointValue {numSamples : Int} {changes : Option ParameterChanges}
    {writes : List (ParameterId × ℚ)} {id : ParameterId} (known : (findParameter id).isSome)
    (read : boundaryWrites numSamples changes = some writes) :
    lastWrite id writes = lastPointValue changes id := by
  rw [lastWrite_eq_getLast?, lastPointValue, ← boundaryWrites_values known read, writtenValues,
    List.getLast?_map]
  cases ((writes.filter fun write => write.1 = id).getLast?) <;> rfl

/-! ## Accepted and refused blocks -/

/-- Every field has its parameter. -/
theorem findParameter_field_isSome (field : PersistentField) : (findParameter field.id).isSome := by
  obtain ⟨spec, found, -⟩ := findParameter_field field
  rw [found]
  rfl

/-- A parameter whose reading differs has a field that differs. -/
theorem field_of_read_ne {spec : ParameterSpec} {left right : PersistentConfig}
    (differs : idFields.read spec.id left ≠ idFields.read spec.id right) :
    ∃ field : PersistentField, field.id = spec.id ∧ fieldValue left field ≠ fieldValue right field := by
  cases found : fieldOfId spec.id with
  | none => simp [idFields, found] at differs
  | some field =>
      refine ⟨field, id_of_fieldOfId found, fun same => differs ?_⟩
      simp [idFields, found, same]

/-- An accepted block is applied exactly. The last point of each parameter is found, and rounding
takes it to its step. -/
theorem readLastBoundaryValues_exact {changes : Option ParameterChanges} {numSamples : Int}
    {current : PersistentConfig} {batch : ParameterBatch}
    (read : readLastBoundaryValues changes numSamples current = some batch) :
    batch.Exact changes current := by
  obtain ⟨writes, accepted, candidate, tracks⟩ := readLastBoundaryValues_spec read
  refine ⟨fun field => ?_, ⟨fun raised => ?_, fun ⟨field, differs⟩ => ?_⟩,
    ⟨fun raised => ?_, fun ⟨field, ⟨spec, found, structural⟩, differs⟩ => ?_⟩⟩
  · have known := findParameter_field_isSome field
    have reading := idFields.read_writeAll current (plainWrites writes) field.id
    rw [← candidate, ← lastPlain_eq_lastWrite (boundaryWrites_convert accepted), lastPlain,
      lastWrite_eq_lastPointValue known accepted] at reading
    cases last : lastPointValue changes field.id with
    | none =>
        rw [last] at reading
        simpa [idFields, fieldOfId_id] using reading
    | some normalized =>
        rw [last, Option.bind_some, plainValue_eq_canonicalValue] at reading
        have written : (field.id, normalized) ∈ writes :=
          mem_of_lastWrite ((lastWrite_eq_lastPointValue known accepted).trans last)
        have converts := boundaryWrites_convert accepted _ written
        rw [Converts, plainValue_eq_canonicalValue] at converts
        obtain ⟨plain, canonical⟩ := Option.isSome_iff_exists.mp converts
        obtain ⟨spec, found⟩ := Option.isSome_iff_exists.mp known
        have fixed : canonicalPlain spec (some plain) = some plain := by
          have normal : canonicalNormalizedValue spec (some normalized) = some plain := by
            simpa [canonicalValue, found] using canonical
          exact canonicalPlain_canonicalNormalized
            (stepped_of_mem (findParameter_self found).2) normal
        have stored := fieldValue_setField_canonical found fixed current
        rw [fieldValue_setField_self] at stored
        rw [canonical] at reading
        simpa [idFields, fieldOfId_id, canonical, stored] using reading
  · obtain ⟨spec, -, -, differs⟩ := @readLastBoundaryValues_flag (·.changed) (fun _ => True)
      (fun member applied raised =>
        ((applyBoundaryValue_flags member applied).1 raised).imp_right fun shown => ⟨trivial, shown⟩)
      _ _ _ _ read raised rfl
    obtain ⟨field, -, shown⟩ := field_of_read_ne differs
    exact ⟨field, shown⟩
  · by_contra lowered
    exact differs (by rw [tracks.unchanged (Bool.not_eq_true _ ▸ lowered)])
  · obtain ⟨spec, member, structural, differs⟩ :=
      readLastBoundaryValues_structural_field read raised
    obtain ⟨field, named, shown⟩ := field_of_read_ne differs
    exact ⟨field, ⟨spec, named ▸ findParameter_of_mem member, structural⟩, shown⟩
  · by_contra lowered
    obtain ⟨named, member⟩ := findParameter_self found
    have same := read_of_structuralConfigEqual member structural
      (tracks.runtime (Bool.not_eq_true _ ▸ lowered))
    rw [named] at same
    exact differs (by simpa [idFields, fieldOfId_id] using same)

namespace M3Component

/-- What parameters, panic requests and structural changes reach is as it was. -/
structure ParametersUntouched (before after : M3Component) : Prop where
  audioRequestedConfig : after.audioRequestedConfig = before.audioRequestedConfig
  activeConfig : after.activeConfig = before.activeConfig
  mainConfig : after.mainConfig = before.mainConfig
  controllerConfig : after.controllerConfig = before.controllerConfig
  configRequest : after.configRequest = before.configRequest
  detector : after.detector = before.detector
  pendingStructuralConfig : after.pendingStructuralConfig = before.pendingStructuralConfig
  structuralBoundaryPending : after.structuralBoundaryPending = before.structuralBoundaryPending
  releaseChannelPending : after.releaseChannelPending = before.releaseChannelPending
  preparedExchange : after.preparedExchange = before.preparedExchange
  preparedClaimPending : after.preparedClaimPending = before.preparedClaimPending
  panicRequested : after.panicRequested = before.panicRequested
  panicHold : after.generatedNotes.panicHold = before.generatedNotes.panicHold
  recoveryRequested :
    after.generatedNotes.recoveryRequested = before.generatedNotes.recoveryRequested

/-- A refused call raises the status and fails the output, and nothing else. -/
theorem refuseCall_untouched (component : M3Component) :
    component.ParametersUntouched component.refuseCall := by
  unfold refuseCall raiseStatus
  split_ifs <;> constructor <;> rfl

/-- Parameters of a block are all applied exactly, or the call reaches none of them. -/
theorem block_parameters_exact (component : M3Component) (data : ProcessData) :
    match readLastBoundaryValues data.inputParameterChanges data.numSamples
        component.audioRequestedConfig with
    | none => (component.process data).1 = false ∧ (component.process data).2.pushed = [] ∧
        component.ParametersUntouched (component.process data).2.component
    | some batch => batch.Exact data.inputParameterChanges component.audioRequestedConfig := by
  cases read : readLastBoundaryValues data.inputParameterChanges data.numSamples
      component.audioRequestedConfig with
  | none =>
      have refused : component.readBatch data = none := by
        unfold readBatch
        split_ifs
        · exact read
        · rfl
      unfold process
      rw [refused]
      exact ⟨rfl, rfl, component.refuseCall_untouched⟩
  | some batch => exact readLastBoundaryValues_exact read

end M3Component

end M3Midi
