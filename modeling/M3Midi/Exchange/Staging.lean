import M3Midi.Parameter.Contract

/-! # Staging a prepared configuration

The main thread checks a configuration field by field, each against its own
parameter, and prepares it for a sample rate before it publishes it.
-/

namespace M3Midi

/-- `PreparedConfig`, a configuration with what has been computed from it. -/
structure PreparedConfig where
  requested : PersistentConfig := {}
  sampleRate : ℚ := 0
  samplePeriod : ℚ := 0
  decisionPeriod : ℚ := 0
  deriving DecidableEq, Repr

/-- Largest distance of a staged value from a step. -/
def stagingTolerance : ℚ := 1 / 1000000000000

/-- Is the field's value a step of its parameter? -/
def validRequestedField (config : PersistentConfig) (field : PersistentField) : Bool :=
  match findParameter field.id with
  | none => false
  | some spec =>
      (canonicalPlain spec (some (fieldValue config field))).any fun canonical =>
        |fieldValue config field - canonical| ≤ stagingTolerance

/-- The checks on a requested configuration. -/
def validRequestedConfig (config : PersistentConfig) : Bool :=
  PersistentField.all.all (validRequestedField config)

/-- The sample rate is absent when it is not finite. A configuration is prepared only if it passes
the checks at that rate. -/
def stagePreparedConfig (requested : PersistentConfig) (sampleRate : Option ℚ) :
    Option PreparedConfig :=
  match sampleRate with
  | none => none
  | some rate =>
      let samplePeriod := 1 / rate
      let decisionPeriod := decisionQuantum / rate
      if rate ≤ 0 ∨ samplePeriod ≤ 0 ∨ decisionPeriod ≤ 0 ∨
          validRequestedConfig requested = false then
        none
      else some { requested, sampleRate := rate, samplePeriod, decisionPeriod }

end M3Midi
