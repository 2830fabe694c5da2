import M3Midi.Parameter.Fields

/-! # Parameter changes at a block boundary

A host delivers a block's parameter changes as queues of points. Each point is
checked, the last point of each parameter counts, and the parameters are applied
in table order to the current configuration: all of them, or none when a check
fails.
-/

namespace M3Midi

open Foundation

/-- The read-only note of the tuner. -/
def tunerNoteParameterId : ParameterId := 0x4D33FF02

/-- The read-only cents of the tuner. -/
def tunerCentsParameterId : ParameterId := 0x4D33FF03

/-- Most queues a block may deliver (`kMaxParameterQueues`). -/
def maxParameterQueues : Nat := 18

/-- Most points a queue may hold (`kMaxParameterPointsPerQueue`). -/
def maxParameterPointsPerQueue : Nat := 64

/-- Largest distance of a host's value from a step (`kHostNormalizedTolerance`). -/
def hostNormalizedTolerance : ℚ := 1 / 1000000

/-- A parameter's queue. The points are absent when the host reports a negative
count; a point is absent when the host fails to return it. -/
structure ParamValueQueue where
  parameterId : ParameterId
  points : Option (List (Option (Int × Option ℚ)))

/-- A block's queues; absent counts and queues are those the host fails to return. -/
structure ParameterChanges where
  queues : Option (List (Option ParamValueQueue))

/-- A block's changes that set one parameter once, at its first sample. -/
def ParameterChanges.single (id : ParameterId) (normalized : ℚ) : ParameterChanges where
  queues := some [some { parameterId := id, points := some [some (0, some normalized)] }]

/-- What the parameters of a block come to. It is built parameter by parameter, and reaches the
component only as a whole. -/
structure ParameterBatch where
  candidate : PersistentConfig
  changed : Bool := false
  structural : Bool := false
  panic : Bool := false
  deriving DecidableEq, Repr

/-- The plain value of a host's normalized value, when that lies on a step. A value that is further
from a step than the tolerance is refused. -/
def canonicalNormalizedValue (spec : ParameterSpec) (normalized : Option ℚ) : Option ℚ :=
  match normalized with
  | none => none
  | some value =>
      if value < 0 ∨ value > 1 then none
      else
        let candidate := normalizedToPlain spec (some value)
        match plainToNormalized spec candidate with
        | none => none
        | some canonical =>
            if |value - canonical| > hostNormalizedTolerance then none else candidate

/-- The write one point makes; a bad offset or value is refused. -/
def readPoint (numSamples : Int) (spec : ParameterSpec) (point : Option (Int × Option ℚ)) :
    Option (ParameterId × ℚ) :=
  match point with
  | none => none
  | some (offset, normalized) =>
      if offset < 0 ∨ (if numSamples = 0 then offset ≠ 0 else offset ≥ numSamples) then none
      else if spec.readOnly ∨ (canonicalNormalizedValue spec normalized).isNone then none
      else normalized.map fun value => (spec.id, value)

/-- The writes of one queue; an unknown parameter writes nothing. All of its points have to be
valid, and a queue for a read-only parameter of the tuner is refused. -/
def readQueue (numSamples : Int) (queue : Option ParamValueQueue) :
    Option (List (ParameterId × ℚ)) :=
  match queue with
  | none => none
  | some queue =>
      match findParameter queue.parameterId with
      | none =>
          if queue.parameterId = tunerNoteParameterId ∨
              queue.parameterId = tunerCentsParameterId then none
          else some []
      | some spec =>
          match queue.points with
          | none => none
          | some points =>
              if points.length > maxParameterPointsPerQueue then none
              else points.mapM (readPoint numSamples spec)

/-- The writes to `last_values` that a block's queues make, in order. -/
def boundaryWrites (numSamples : Int) (changes : Option ParameterChanges) :
    Option (List (ParameterId × ℚ)) :=
  if numSamples < 0 then none
  else match changes with
    | none => some []
    | some changes =>
        match changes.queues with
        | none => none
        | some queues =>
            if queues.length > maxParameterQueues then none
            else (queues.mapM (readQueue numSamples)).map List.flatten

/-- Apply the last value of one parameter to the candidate. A value that changes nothing marks
nothing, and one that is structural opens a boundary. -/
def applyBoundaryValue (writes : List (ParameterId × ℚ)) (batch : ParameterBatch)
    (spec : ParameterSpec) : Option ParameterBatch :=
  match lastWrite spec.id writes with
  | none => some batch
  | some normalized =>
      match canonicalNormalizedValue spec (some normalized) with
      | none => none
      | some plain =>
          match applyParameter batch.candidate spec.id (some plain) with
          | (.rejected, _) => none
          | (.panic, candidate) => some { batch with candidate, panic := true }
          | (.unchanged, candidate) => some { batch with candidate }
          | (.changed, candidate) =>
              some { batch with
                candidate
                changed := true
                structural := batch.structural || spec.updateClass = .structural }

/-- The block's changes applied to the current configuration. -/
def readLastBoundaryValues (changes : Option ParameterChanges) (numSamples : Int)
    (current : PersistentConfig) : Option ParameterBatch :=
  match boundaryWrites numSamples changes with
  | none => none
  | some writes => parameters.foldlM (applyBoundaryValue writes) { candidate := current }

/-- Do two configurations need no new preparation of the detector? -/
def structuralConfigEqual (left right : PersistentConfig) : Bool :=
  left.midiRouting = right.midiRouting && left.profileMode = right.profileMode &&
    left.a4Hz = right.a4Hz && left.lowestNote = right.lowestNote &&
    left.highestNote = right.highestNote && left.maxPolyphony = right.maxPolyphony &&
    left.maxFret = right.maxFret && left.midiChannel = right.midiChannel

/-- `copy_runtime_config`: one configuration with the runtime values of another. -/
def copyRuntimeConfig (destination source : PersistentConfig) : PersistentConfig :=
  { destination with
    inputTrimDb := source.inputTrimDb
    sensitivity := source.sensitivity
    response := source.response
    velocityMode := source.velocityMode
    fixedVelocity := source.fixedVelocity
    dryPassthrough := source.dryPassthrough }

/-- `same_persistent_config` -/
def samePersistentConfig (left right : PersistentConfig) : Bool :=
  structuralConfigEqual left right && left.inputTrimDb = right.inputTrimDb &&
    left.sensitivity = right.sensitivity && left.response = right.response &&
    left.velocityMode = right.velocityMode && left.fixedVelocity = right.fixedVelocity &&
    left.dryPassthrough = right.dryPassthrough

/-- Two configurations are the same exactly if they are equal. -/
theorem samePersistentConfig_iff {left right : PersistentConfig} :
    samePersistentConfig left right = true ↔ left = right := by
  cases left
  cases right
  simp only [samePersistentConfig, structuralConfigEqual, Bool.and_eq_true, decide_eq_true_eq,
    PersistentConfig.mk.injEq]
  tauto

/-- A configuration with another's structure becomes it once it has its runtime fields. -/
theorem copyRuntimeConfig_eq {destination source : PersistentConfig}
    (same : structuralConfigEqual destination source = true) :
    copyRuntimeConfig destination source = source := by
  cases destination
  cases source
  simp only [structuralConfigEqual, Bool.and_eq_true, decide_eq_true_eq] at same
  simp only [copyRuntimeConfig, PersistentConfig.mk.injEq]
  tauto

/-- A configuration has its own structure. -/
theorem structuralConfigEqual_refl (config : PersistentConfig) :
    structuralConfigEqual config config = true := by
  simp [structuralConfigEqual]

/-- If one has the structure of the other, the other has its. -/
theorem structuralConfigEqual_symm {left right : PersistentConfig}
    (same : structuralConfigEqual left right = true) : structuralConfigEqual right left = true := by
  simp only [structuralConfigEqual, Bool.and_eq_true, decide_eq_true_eq] at same ⊢
  tauto

/-- Structures can be compared step by step. -/
theorem structuralConfigEqual_trans {first second third : PersistentConfig}
    (left : structuralConfigEqual first second = true)
    (right : structuralConfigEqual second third = true) :
    structuralConfigEqual first third = true := by
  simp only [structuralConfigEqual, Bool.and_eq_true, decide_eq_true_eq] at left right ⊢
  grind

/-- Copying runtime fields keeps the structure. -/
theorem structuralConfigEqual_copyRuntime (destination source : PersistentConfig) :
    structuralConfigEqual (copyRuntimeConfig destination source) destination = true := by
  simp [structuralConfigEqual, copyRuntimeConfig]

end M3Midi
