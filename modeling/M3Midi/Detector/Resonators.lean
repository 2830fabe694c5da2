import M3Midi.Detector.DecisionEvidence
import M3Midi.Foundation.Follower
import Mathlib.Algebra.BigOperators.Fin
import Mathlib.Algebra.Order.BigOperators.Group.Finset
import Mathlib.Tactic.LinearCombination
import Mathlib.Tactic.NormNum

/-! # The resonators

Every candidate has a cell for each of its harmonics: a phasor that turns once for each period,
and the signal multiplied by it and followed. No cell ever has more energy than the signal
(`M3Midi.Cell.energy_update`). Arithmetic is exact, and so are the turns of a phasor
(`M3Midi.StandardMath`).
-/

namespace M3Midi

open Foundation

/-- The functions of the C++ library that are not exact on the rationals. They are parameters with
the properties that the detector relies on. The properties are those of the real functions, and
exact: the squares of cosine and sine sum to one, which rounded doubles meet only nearly. -/
structure StandardMath where
  exp : ℚ → ℚ
  exp2 : ℚ → ℚ
  pow : ℚ → ℚ → ℚ
  log10 : ℚ → ℚ
  sqrt : ℚ → ℚ
  cos : ℚ → ℚ
  sin : ℚ → ℚ
  exp_mem : ∀ exponent < 0, 0 ≤ exp exponent ∧ exp exponent < 1
  pow_pos : ∀ base exponent, 0 < base → 0 < pow base exponent
  cos_sin : ∀ angle, cos angle ^ 2 + sin angle ^ 2 = 1

/-- `kTwoPi` -/
def twoPi : ℚ := 628318530717958647692 / 10 ^ 20

/-- The number of harmonics that a candidate has cells for. -/
def harmonicCount : ℕ := 6

/-- The fundamental. -/
def firstHarmonic : Fin harmonicCount := ⟨0, Nat.succ_pos 5⟩

/-- The weight of a harmonic (`kHarmonicWeights`). -/
def harmonicWeight (harmonic : Fin harmonicCount) : ℚ :=
  [100, 72, 55, 42, 34, 28].getD harmonic 0 / 100

/-- How many harmonics of a note are looked at. -/
def harmonicLimit (note : ℕ) : ℕ :=
  if note ≤ 52 then 6 else if 76 ≤ note then 3 else 4

/-- `midi_to_frequency` -/
def midiToFrequency (math : StandardMath) (midiNote a4Hz : ℚ) : ℚ :=
  a4Hz * math.exp2 ((midiNote - 69) / 12)

/-- A phasor that turns by its step, and the signal against it. Phasor and energies are exact
rationals here, so that the phasor keeps its length without rounding, and no product is infinite or
undefined. -/
structure Cell where
  cosine : ℚ := 1
  sine : ℚ := 0
  cosineStep : ℚ := 1
  sineStep : ℚ := 0
  fastReal : ℚ := 0
  fastImaginary : ℚ := 0
  enabled : Bool := false
  turned : cosine ^ 2 + sine ^ 2 = 1 := by norm_num
  turns : cosineStep ^ 2 + sineStep ^ 2 = 1 := by norm_num

namespace Cell

/-- A phasor of length one that is turned by one of length one has length one again. -/
theorem turned_again {cosine sine cosineStep sineStep : ℚ} (turned : cosine ^ 2 + sine ^ 2 = 1)
    (turns : cosineStep ^ 2 + sineStep ^ 2 = 1) :
    (cosine * cosineStep - sine * sineStep) ^ 2 + (sine * cosineStep + cosine * sineStep) ^ 2 =
      1 := by
  have product : (cosine * cosineStep - sine * sineStep) ^ 2 +
      (sine * cosineStep + cosine * sineStep) ^ 2 =
        (cosine ^ 2 + sine ^ 2) * (cosineStep ^ 2 + sineStep ^ 2) := by ring
  rw [product, turned, turns, one_mul]

/-- `update_cell`. The phasor turns by its step, and the product with the sample is followed. -/
def update (correlationDecay : ℚ) (cell : Cell) (sample : ℚ) : Cell :=
  let nextCosine := cell.cosine * cell.cosineStep - cell.sine * cell.sineStep
  let nextSine := cell.sine * cell.cosineStep + cell.cosine * cell.sineStep
  let mix := 1 - correlationDecay
  { cell with
    cosine := nextCosine
    sine := nextSine
    fastReal := correlationDecay * cell.fastReal + mix * sample * nextCosine
    fastImaginary := correlationDecay * cell.fastImaginary - mix * sample * nextSine
    turned := turned_again cell.turned cell.turns }

/-- The energy that a cell has gathered. -/
def energy (cell : Cell) : ℚ :=
  cell.fastReal * cell.fastReal + cell.fastImaginary * cell.fastImaginary

/-- A cell takes in no more energy than the sample has. -/
theorem energy_update {correlationDecay : ℚ} (keeps : 0 ≤ correlationDecay)
    (loses : correlationDecay ≤ 1) (cell : Cell) (sample : ℚ) :
    (cell.update correlationDecay sample).energy ≤
      follow correlationDecay cell.energy (sample * sample) := by
  let next := cell.update correlationDecay sample
  have real : next.fastReal = follow correlationDecay cell.fastReal (sample * next.cosine) := by
    change correlationDecay * cell.fastReal + (1 - correlationDecay) * sample * next.cosine = _
    unfold follow
    ring
  have imaginary : next.fastImaginary =
      follow correlationDecay cell.fastImaginary (-(sample * next.sine)) := by
    change correlationDecay * cell.fastImaginary - (1 - correlationDecay) * sample * next.sine = _
    unfold follow
    ring
  have turned : sample * sample = (sample * next.cosine) ^ 2 + (-(sample * next.sine)) ^ 2 := by
    have unit := next.turned
    linear_combination -(sample * sample) * unit
  calc next.energy = next.fastReal ^ 2 + next.fastImaginary ^ 2 := by
        unfold energy
        ring
    _ ≤ follow correlationDecay (cell.fastReal ^ 2) ((sample * next.cosine) ^ 2) +
          follow correlationDecay (cell.fastImaginary ^ 2) ((-(sample * next.sine)) ^ 2) := by
        rw [real, imaginary]
        exact add_le_add (sq_follow_le keeps loses) (sq_follow_le keeps loses)
    _ = follow correlationDecay cell.energy (sample * sample) := by
        rw [turned]
        unfold follow energy
        ring

end Cell

/-- The cells of all candidates. -/
abbrev Resonators (count : ℕ) := Fin count → Fin harmonicCount → Cell

namespace Resonators

variable {count : ℕ}

/-- The cells as `configure` sets them up: those with a harmonic that the rate can carry. -/
def configure (math : StandardMath) (detector : DetectorConfiguration) (a4Hz : ℚ) :
    Resonators count := fun candidate harmonic =>
  let note := detector.lowestNote + (candidate : ℕ)
  if (harmonic : ℕ) < harmonicLimit note then
    let frequency := midiToFrequency math note a4Hz * (harmonic + 1 : ℕ)
    if frequency ≤ 0 ∨ 45 / 100 * detector.sampleRate < frequency then {}
    else
      let rotation := twoPi * frequency / detector.sampleRate
      { cosineStep := math.cos rotation
        sineStep := math.sin rotation
        enabled := true
        turns := math.cos_sin rotation }
  else {}

variable (cells : Resonators count)

/-- All cells that are enabled hear a sample. -/
def hear (correlationDecay sample : ℚ) : Resonators count := fun candidate harmonic =>
  let cell := cells candidate harmonic
  if cell.enabled then cell.update correlationDecay sample else cell

/-- The energy that a cell contributes. -/
def cellEnergy (candidate : Fin count) (harmonic : Fin harmonicCount) : ℚ :=
  let cell := cells candidate harmonic
  if cell.enabled then cell.energy else 0

/-- The energy of a candidate's fundamental. -/
def fundamental (candidate : Fin count) : ℚ := cells.cellEnergy candidate firstHarmonic

/-- The weighted energies of a candidate's harmonics. -/
def score (candidate : Fin count) : ℚ :=
  ∑ harmonic, harmonicWeight harmonic * cells.cellEnergy candidate harmonic

/-- No cell contributes more energy than a limit. -/
def Within (limit : ℚ) : Prop :=
  ∀ candidate harmonic, cells.cellEnergy candidate harmonic ≤ limit

variable {cells} {limit : ℚ}

/-- The cells stay within what follows the energy of the samples. -/
theorem Within.hear (within : cells.Within limit) (some : 0 ≤ limit) {correlationDecay : ℚ}
    (keeps : 0 ≤ correlationDecay) (loses : correlationDecay ≤ 1) (sample : ℚ) :
    (cells.hear correlationDecay sample).Within
      (follow correlationDecay limit (sample * sample)) := by
  intro candidate harmonic
  have before := within candidate harmonic
  unfold cellEnergy at before ⊢
  unfold Resonators.hear
  dsimp only at before ⊢
  by_cases enabled : (cells candidate harmonic).enabled = true
  · have still : ((cells candidate harmonic).update correlationDecay sample).enabled = true :=
      enabled
    rw [if_pos enabled] at before
    rw [if_pos enabled, if_pos still]
    exact (Cell.energy_update keeps loses _ sample).trans (follow_mono keeps loses before le_rfl)
  · rw [if_neg enabled, if_neg enabled]
    exact follow_nonneg keeps loses some (mul_self_nonneg sample)

/-- Cells that have been configured anew have gathered nothing. -/
theorem within_configure (math : StandardMath) (detector : DetectorConfiguration) (a4Hz : ℚ) :
    (configure math detector a4Hz : Resonators count).Within 0 := by
  intro candidate harmonic
  unfold cellEnergy configure
  dsimp only
  split_ifs <;> simp [Cell.energy]

/-- No harmonic counts against its candidate. -/
theorem harmonicWeight_nonneg (harmonic : Fin harmonicCount) : 0 ≤ harmonicWeight harmonic := by
  revert harmonic
  decide +kernel

/-- The weights add up to 3.31. -/
theorem score_le (within : cells.Within limit) (candidate : Fin count) :
    cells.score candidate ≤ 331 / 100 * limit := by
  have weights : ∑ harmonic, harmonicWeight harmonic = 331 / 100 := by decide +kernel
  rw [← weights, Finset.sum_mul]
  apply Finset.sum_le_sum
  intro harmonic _
  exact mul_le_mul_of_nonneg_left (within candidate harmonic) (harmonicWeight_nonneg harmonic)

end Resonators

end M3Midi
