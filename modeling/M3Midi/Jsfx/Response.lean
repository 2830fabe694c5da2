import M3Midi.Jsfx.Lifecycle

/-! # The response of the lifecycle

The host turns one response control, the sample rate and the detector's threshold into
the times and levels that an update is given.
-/

namespace M3Midi.Jsfx

/-- `M3_PROFILE_MODE_M3` and `M3_PROFILE_MODE_GENERAL`. -/
inductive ProfileMode
  | m3
  | general
  deriving DecidableEq, Repr

/-- The words from `response_base` on, and the attack times beside them. -/
structure LifecycleResponse where
  attackSamples : ℤ
  releaseSamples : ℤ
  dropoutSamples : ℤ
  onThreshold : ℚ
  offThreshold : ℚ
  subGsharpAttackSamples : ℤ
  m3FastOpenAttackSamples : ℤ
  m3GuardedOpenAttackSamples : ℤ
  m3HighOpenAttackSamples : ℤ
  m3LowChordAttackSamples : ℤ
  generalCappedAttackSamples : ℤ := 0
  deriving DecidableEq, Repr

/-- A time in samples, to the nearest sample. -/
def roundSamples (samples : ℚ) : ℤ := floor (samples + 1 / 2)

/-- `m3_lifecycle_response`. -/
def lifecycleResponse (response sampleRate selectionThreshold : ℚ) : LifecycleResponse :=
  let value := clamp response 0 1
  let rate := max 1 sampleRate
  let onThreshold := clamp (43 / 100 + 70 / 100 * clamp selectionThreshold 0 1) 0 1
  { attackSamples := max 1 (roundSamples ((4 + value * 18) * rate / 1000))
    releaseSamples := max 1 (roundSamples ((18 + value * 42) * rate / 1000))
    dropoutSamples := max 1 (roundSamples ((6 + value * 18) * rate / 1000))
    onThreshold
    offThreshold := max 0 (onThreshold - 14 / 100)
    subGsharpAttackSamples := max 1 (roundSamples (4 / 1000 * rate))
    m3FastOpenAttackSamples := max 1 (roundSamples (2 / 1000 * rate))
    m3GuardedOpenAttackSamples := max 1 (roundSamples (5 / 1000 * rate))
    m3HighOpenAttackSamples := max 1 (roundSamples (9 / 1000 * rate))
    m3LowChordAttackSamples := max 1 (roundSamples (40 / 1000 * rate)) }

/-- `m3_lifecycle_response_for_profile`. -/
def lifecycleResponseForProfile (profileMode : ProfileMode)
    (response sampleRate selectionThreshold : ℚ) : LifecycleResponse :=
  let plain := lifecycleResponse response sampleRate selectionThreshold
  let rate := max 1 sampleRate
  let baseThreshold := clamp selectionThreshold 0 1
  let minimumAttack : ℚ := if profileMode = .m3 then 9 / 1000 else 8 / 1000
  let onMargin : ℚ := if profileMode = .m3 then 8 / 100 else 23 / 100
  { plain with
    attackSamples := max plain.attackSamples (roundSamples (minimumAttack * rate))
    releaseSamples := max plain.releaseSamples (roundSamples (48 / 1000 * rate))
    dropoutSamples := max plain.dropoutSamples (roundSamples (24 / 1000 * rate))
    onThreshold := baseThreshold + onMargin * (1 - baseThreshold)
    offThreshold := baseThreshold
    generalCappedAttackSamples := max 1 (roundSamples (60 / 1000 * rate)) }

end M3Midi.Jsfx
