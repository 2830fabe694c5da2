import M3Midi.Types
import M3Midi.Foundation.LastWrite
import Mathlib.Algebra.Order.Floor.Ring
import Mathlib.Data.Rat.Floor

/-! # The parameter contract

Sixteen parameters with their ranges and steps. A host's value is rounded to the
nearest step and clamped before it is written, so that every field of a
configuration holds a canonical value. The arithmetic is exact; a value that is
not finite is absent.
-/

namespace M3Midi

open Foundation

/-- The number by which hosts know a parameter. -/
abbrev ParameterId := Nat

/-- The action that releases all notes. -/
def panicParameterId : ParameterId := 0x4D33000E

/-- The read-only status of the plug-in. -/
def statusParameterId : ParameterId := 0x4D33FF01

/-- What a change of a parameter takes. -/
inductive ParameterUpdateClass
  | structural
  | runtime
  | action
  | telemetry
  deriving DecidableEq, Repr

/-- What has become of a value that was offered to a configuration. -/
inductive ParameterApplyResult
  | rejected
  | unchanged
  | changed
  | panic
  deriving DecidableEq, Repr

/-- `ParameterSpec`: the range of a parameter, its steps, and its class. All conversions between
hosts and configurations go by it. -/
structure ParameterSpec where
  id : ParameterId
  minimum : ℚ
  maximum : ℚ
  increment : ℚ
  defaultValue : ℚ
  stepCount : Nat
  updateClass : ParameterUpdateClass
  readOnly : Bool := false
  deriving DecidableEq, Repr

/-- The parameter table, in its order (`kParameters`). -/
def parameters : List ParameterSpec := [
  { id := 0x4D330001, minimum := 0, maximum := 1, increment := 1, defaultValue := 0,
    stepCount := 1, updateClass := .structural },
  { id := 0x4D330002, minimum := 0, maximum := 1, increment := 1, defaultValue := 0,
    stepCount := 1, updateClass := .structural },
  { id := 0x4D330003, minimum := 400, maximum := 480, increment := 1 / 10, defaultValue := 440,
    stepCount := 800, updateClass := .structural },
  { id := 0x4D330004, minimum := -24, maximum := 24, increment := 1 / 10, defaultValue := 0,
    stepCount := 480, updateClass := .runtime },
  { id := 0x4D330005, minimum := 0, maximum := 100, increment := 1, defaultValue := 50,
    stepCount := 100, updateClass := .runtime },
  { id := 0x4D330006, minimum := 0, maximum := 100, increment := 1, defaultValue := 25,
    stepCount := 100, updateClass := .runtime },
  { id := 0x4D330007, minimum := 24, maximum := 108, increment := 1, defaultValue := 32,
    stepCount := 84, updateClass := .structural },
  { id := 0x4D330008, minimum := 24, maximum := 108, increment := 1, defaultValue := 84,
    stepCount := 84, updateClass := .structural },
  { id := 0x4D330009, minimum := 1, maximum := 8, increment := 1, defaultValue := 8,
    stepCount := 7, updateClass := .structural },
  { id := 0x4D33000A, minimum := 0, maximum := 36, increment := 1, defaultValue := 24,
    stepCount := 36, updateClass := .structural },
  { id := 0x4D33000B, minimum := 0, maximum := 1, increment := 1, defaultValue := 1,
    stepCount := 1, updateClass := .runtime },
  { id := 0x4D33000C, minimum := 1, maximum := 127, increment := 1, defaultValue := 100,
    stepCount := 126, updateClass := .runtime },
  { id := 0x4D33000D, minimum := 1, maximum := 16, increment := 1, defaultValue := 1,
    stepCount := 15, updateClass := .structural },
  { id := panicParameterId, minimum := 0, maximum := 1, increment := 1, defaultValue := 0,
    stepCount := 1, updateClass := .action },
  { id := 0x4D33000F, minimum := 0, maximum := 1, increment := 1, defaultValue := 1,
    stepCount := 1, updateClass := .runtime },
  { id := statusParameterId, minimum := 0, maximum := 5, increment := 1, defaultValue := 0,
    stepCount := 5, updateClass := .telemetry, readOnly := true }]

/-- The fields of a configuration, in the order a state image stores them. Each has a parameter of
its own, and a place in the record of a state. -/
inductive PersistentField
  | midiRouting
  | profileMode
  | a4Hz
  | inputTrimDb
  | sensitivity
  | response
  | lowestNote
  | highestNote
  | maxPolyphony
  | maxFret
  | velocityMode
  | fixedVelocity
  | midiChannel
  | dryPassthrough
  deriving DecidableEq, Repr

namespace PersistentField

/-- All fields, in the order of the table. -/
def all : List PersistentField :=
  [midiRouting, profileMode, a4Hz, inputTrimDb, sensitivity, response, lowestNote, highestNote,
    maxPolyphony, maxFret, velocityMode, fixedVelocity, midiChannel, dryPassthrough]

/-- The parameter that writes the field (`kPersistentIds`). -/
def id : PersistentField → ParameterId
  | midiRouting => 0x4D330001
  | profileMode => 0x4D330002
  | a4Hz => 0x4D330003
  | inputTrimDb => 0x4D330004
  | sensitivity => 0x4D330005
  | response => 0x4D330006
  | lowestNote => 0x4D330007
  | highestNote => 0x4D330008
  | maxPolyphony => 0x4D330009
  | maxFret => 0x4D33000A
  | velocityMode => 0x4D33000B
  | fixedVelocity => 0x4D33000C
  | midiChannel => 0x4D33000D
  | dryPassthrough => 0x4D33000F

end PersistentField

/-- The field that a number stands for, if it is the one of a field. -/
def fieldOfId (id : ParameterId) : Option PersistentField :=
  PersistentField.all.find? fun field => field.id = id

/-- `find_parameter`, in the table of all parameters. -/
def findParameter (id : ParameterId) : Option ParameterSpec :=
  parameters.find? fun spec => spec.id = id

/-- A specification that values can be converted by. -/
def validSpec (spec : ParameterSpec) : Bool :=
  spec.maximum > spec.minimum && spec.increment > 0 && spec.stepCount > 0

/-- The nearest step inside the range, halves away from the minimum. -/
def roundToStep (spec : ParameterSpec) (value : ℚ) : ℚ :=
  let bounded := max spec.minimum (min value spec.maximum)
  let steps := ⌊(bounded - spec.minimum) / spec.increment + 1 / 2⌋
  max spec.minimum (min (spec.minimum + steps * spec.increment) spec.maximum)

/-- Absent for a value that is not finite (`canonical_plain`). -/
def canonicalPlain (spec : ParameterSpec) (value : Option ℚ) : Option ℚ :=
  if validSpec spec then value.map (roundToStep spec) else none

/-- `plain_to_normalized`: the share of the range, for a value on a step. -/
def plainToNormalized (spec : ParameterSpec) (value : Option ℚ) : Option ℚ :=
  (canonicalPlain spec value).map fun plain =>
    max 0 (min ((plain - spec.minimum) / (spec.maximum - spec.minimum)) 1)

/-- `normalized_to_plain`: the step that is nearest to a share of the range. -/
def normalizedToPlain (spec : ParameterSpec) (value : Option ℚ) : Option ℚ :=
  value.bind fun normalized =>
    canonicalPlain spec
      (some (spec.minimum + max 0 (min normalized 1) * (spec.maximum - spec.minimum)))

/-- An unsigned integer of a value, as the casts of `apply_parameter` make it. -/
def unsignedOfValue (value : ℚ) : Nat := ⌊value⌋.toNat

/-- The plain value of a field in a configuration. -/
def fieldValue (config : PersistentConfig) : PersistentField → ℚ
  | .midiRouting => match config.midiRouting with | .single => 0 | .perVoice => 1
  | .profileMode => match config.profileMode with | .m3 => 0 | .general => 1
  | .a4Hz => config.a4Hz
  | .inputTrimDb => config.inputTrimDb
  | .sensitivity => config.sensitivity
  | .response => config.response
  | .lowestNote => config.lowestNote
  | .highestNote => config.highestNote
  | .maxPolyphony => config.maxPolyphony
  | .maxFret => config.maxFret
  | .velocityMode => match config.velocityMode with | .fixed => 0 | .dynamic => 1
  | .fixedVelocity => config.fixedVelocity
  | .midiChannel => config.midiChannel
  | .dryPassthrough => if config.dryPassthrough then 1 else 0

/-- The assignment `apply_parameter` makes for a canonical value. The value has been rounded to a
step before, so that the casts lose nothing. -/
def setField (field : PersistentField) (value : ℚ) (config : PersistentConfig) :
    PersistentConfig :=
  match field with
  | .midiRouting =>
      { config with midiRouting := if unsignedOfValue value = 0 then .single else .perVoice }
  | .profileMode =>
      { config with profileMode := if unsignedOfValue value = 0 then .m3 else .general }
  | .a4Hz => { config with a4Hz := value }
  | .inputTrimDb => { config with inputTrimDb := value }
  | .sensitivity => { config with sensitivity := unsignedOfValue value }
  | .response => { config with response := unsignedOfValue value }
  | .lowestNote => { config with lowestNote := unsignedOfValue value }
  | .highestNote => { config with highestNote := unsignedOfValue value }
  | .maxPolyphony => { config with maxPolyphony := unsignedOfValue value }
  | .maxFret => { config with maxFret := unsignedOfValue value }
  | .velocityMode =>
      { config with velocityMode := if unsignedOfValue value = 0 then .fixed else .dynamic }
  | .fixedVelocity => { config with fixedVelocity := unsignedOfValue value }
  | .midiChannel => { config with midiChannel := unsignedOfValue value }
  | .dryPassthrough => { config with dryPassthrough := decide (value ≥ 1) }

/-- Write one parameter; a rejected or panicking call writes nothing. The value is taken to its
nearest step within the range. -/
def applyParameter (config : PersistentConfig) (id : ParameterId) (plainValue : Option ℚ) :
    ParameterApplyResult × PersistentConfig :=
  match findParameter id with
  | none => (.rejected, config)
  | some spec =>
      if spec.readOnly then (.rejected, config)
      else match canonicalPlain spec plainValue with
        | none => (.rejected, config)
        | some value =>
            if id = panicParameterId then
              (if value ≥ 1 then .panic else .unchanged, config)
            else match fieldOfId id with
              | none => (.rejected, config)
              | some field =>
                  (if fieldValue config field = value then .unchanged else .changed,
                    setField field value config)

end M3Midi
