import M3Midi.Types

/-! # The detector's configuration

`configure` checks a configuration as a whole, its fields against each other, and
takes it over; a configuration that fails the check leaves the detector
unconfigured, and a detector that is not configured emits nothing.
-/

namespace M3Midi

/-- Lowest and highest reference pitch (`kMinimumA4Hz`, `kMaximumA4Hz`). -/
def minimumA4Hz : ℚ := 400

/-- `kMaximumA4Hz` -/
def maximumA4Hz : ℚ := 480

/-- `kMinimumMidiNote` -/
def minimumMidiNote : Nat := 24

/-- `kMaximumMidiNote` -/
def maximumMidiNote : Nat := 108

/-- Candidates the detector can hold (`kMaxCandidates`). -/
def maxCandidates : Nat := 87

/-- What `configure` and `set_runtime_config` set. The note range and the rate are fixed until the
next `configure`. The rest may change while the detector runs. -/
structure DetectorConfiguration where
  configured : Bool := false
  sampleRate : ℚ := 0
  lowestNote : Nat := 0
  candidateCount : Nat := 0
  midiRouting : MidiRouting := .single
  profileMode : ProfileMode := .m3
  sensitivity : Nat := 50
  response : Nat := 25
  fixedVelocity : Nat := 100
  velocityMode : VelocityMode := .dynamic
  maxPolyphony : Nat := 8
  maxFret : Nat := 24
  deriving DecidableEq, Repr

/-- The checks of `configure`; the sample rate is absent when it is not finite. -/
def validConfig (sampleRate : Option ℚ) (config : PersistentConfig) : Bool :=
  sampleRate.any (0 < ·) && minimumA4Hz ≤ config.a4Hz && config.a4Hz ≤ maximumA4Hz &&
    minimumMidiNote ≤ config.lowestNote && config.lowestNote ≤ config.highestNote &&
    config.highestNote ≤ maximumMidiNote && 1 ≤ config.maxPolyphony &&
    config.maxPolyphony ≤ maxVoices && config.maxFret ≤ 36 &&
    (config.profileMode = .m3 || config.profileMode = .general) &&
    config.highestNote - config.lowestNote + 1 ≤ maxCandidates

namespace DetectorConfiguration

/-- `set_runtime_config`: the values that may change while the detector runs. -/
def setRuntimeConfig (detector : DetectorConfiguration) (config : PersistentConfig) :
    DetectorConfiguration :=
  { detector with
    midiRouting := config.midiRouting
    profileMode := config.profileMode
    sensitivity := min config.sensitivity 100
    response := min config.response 100
    fixedVelocity := max 1 (min config.fixedVelocity 127)
    velocityMode := config.velocityMode
    maxPolyphony := max 1 (min config.maxPolyphony maxVoices)
    maxFret := min config.maxFret 36 }

/-- Take over a configuration, or be left without one. -/
def configure (detector : DetectorConfiguration) (sampleRate : Option ℚ)
    (config : PersistentConfig) : Bool × DetectorConfiguration :=
  if validConfig sampleRate config = false then (false, { detector with configured := false })
  else
    (true, { detector.setRuntimeConfig config with
      configured := true
      sampleRate := sampleRate.getD 0
      lowestNote := config.lowestNote
      candidateCount := config.highestNote - config.lowestNote + 1 })

end DetectorConfiguration

end M3Midi
