import M3Midi.Calibration.SweepCalibrator

/-! # The samples of a sweep

Beside the calibrator this machine keeps the samples that its window has taken, and
reports what they come to: a sample of the open string, or a window that is given to the
sums of a fret. The calibrator goes on as it does alone
(`M3Midi.TracedSweep.run_calibrator`), and an observation is one of eight steps
(`M3Midi.TracedSweep.observe_step`).
-/

namespace M3Midi

open Foundation

/-- What an observation on a fret of a sweep does. -/
inductive FretTurn
  | unrequested
  | untuned
  | grows
  | completes
  | opens
  deriving DecidableEq

namespace SweepCalibrator

/-- The window with one observation more. -/
def grown (calibrator : SweepCalibrator) (sample : CalibrationSample) : StableWindow :=
  (calibrator.stableWindow.widen sample).add sample

/-- The branch that `observe` takes for a sample after the open string. -/
def fretTurn (calibrator : SweepCalibrator) (sample : CalibrationSample) : FretTurn :=
  let status := calibrator.status
  let window := calibrator.grown sample
  if sample.fret.val ≠ status.requestedFret then .unrequested
  else if status.phase = .descending ∧ status.requestedFret = 0 ∧ 8 < |sample.cents| then .untuned
  else if calibrator.stableWindow.keeps status.phase sample then
    if window.established = false ∧
        window.pending.count < calibrator.stableWindowObservations then .grows
    else .completes
  else .opens

/-- The calibrator after the sample that completes a window. -/
def completed (sqrt : ℚ → ℚ) (calibrator : SweepCalibrator) (sample : CalibrationSample) :
    SweepCalibrator :=
  { (({ calibrator with stableWindow := calibrator.grown sample }).mergeWindow
      sample.fret).advance sqrt sample.fret with stableWindow := {} }

/-- The calibrator after a sample of the open string. -/
def heard (calibrator : SweepCalibrator) (sample : CalibrationSample) : SweepCalibrator :=
  { calibrator with
    ascending :=
      Function.update calibrator.ascending sample.fret
        ((calibrator.ascending sample.fret).add sample)
    status :=
      { calibrator.status with
        acceptedObservations := calibrator.status.acceptedObservations + 1 } }

/-- The calibrator after the sample that locks the open string. -/
def locked (calibrator : SweepCalibrator) (sample : CalibrationSample) : SweepCalibrator :=
  { calibrator.heard sample with
    stableWindow := {}
    status :=
      { (calibrator.heard sample).status with phase := .ascending, requestedFret := 1 } }

/-- The calibrator after a sample that leaves the open string too uneven. -/
def reopened (calibrator : SweepCalibrator) (sample : CalibrationSample) : SweepCalibrator :=
  { calibrator.heard sample with
    ascending := Function.update calibrator.ascending sample.fret {} }

/-- The observation of the open string, as one of the four things it can do. -/
theorem observeOpen_eq (sqrt : ℚ → ℚ) (calibrator : SweepCalibrator)
    (sample : CalibrationSample) :
    calibrator.observeOpen sqrt sample =
      if sample.fret.val ≠ 0 ∨ 8 < |sample.cents| then calibrator.reject
      else
        (true,
          let opened := (calibrator.ascending sample.fret).add sample
          if opened.count < calibrator.openLockObservations then calibrator.heard sample
          else if sqrt opened.centsVariance ≤ 6 then calibrator.locked sample
          else calibrator.reopened sample) := by
  rw [observeOpen]
  by_cases opens : sample.fret.val = 0
  · have same : sample.fret = 0 := Fin.ext opens
    rw [reopened, locked, heard, same]
    by_cases wide : 8 < |sample.cents|
    · rw [if_pos (.inr wide), if_pos (.inr wide)]
    · rw [if_neg (not_or.mpr ⟨fun differs => differs rfl, wide⟩),
        if_neg (not_or.mpr ⟨fun differs => differs rfl, wide⟩)]
  · rw [if_pos (.inl fun same => opens (congrArg Fin.val same)), if_pos (.inl opens)]

/-- The observation of a fret, by the turn it takes. -/
theorem observeFret_eq (sqrt : ℚ → ℚ) (calibrator : SweepCalibrator)
    (sample : CalibrationSample) :
    calibrator.observeFret sqrt sample =
      match calibrator.fretTurn sample with
      | .unrequested => { calibrator with stableWindow := {} }.reject
      | .untuned => calibrator.reject
      | .grows => (true, { calibrator with stableWindow := calibrator.grown sample })
      | .completes => (true, calibrator.completed sqrt sample)
      | .opens =>
          (true, { calibrator with
            stableWindow := StableWindow.opened calibrator.status.phase sample }) := by
  rw [observeFret, fretTurn, grown]
  dsimp only
  split_ifs <;> rfl

/-- The sample of an observation, when the sweep is under way and its checks pass. -/
def taken (calibrator : SweepCalibrator) (observation : CalibrationObservation) :
    Option CalibrationSample :=
  if calibrator.active then observation.sample calibrator.status.stringIndex else none

/-- An observation is refused, heard for the open string or heard for its fret. -/
theorem observe_eq (sqrt : ℚ → ℚ) (calibrator : SweepCalibrator)
    (observation : CalibrationObservation) :
    calibrator.observe sqrt observation =
      match calibrator.taken observation with
      | none => calibrator.reject
      | some sample =>
          if calibrator.status.phase = .waitingOpen then calibrator.observeOpen sqrt sample
          else calibrator.observeFret sqrt sample := by
  rw [observe, taken]
  by_cases active : calibrator.active = true
  · have sampled : (if calibrator.active then
        observation.sample calibrator.status.stringIndex else none) =
        observation.sample calibrator.status.stringIndex := if_pos active
    rw [sampled]
    refine (if_pos active).trans ?_
    cases observation.sample calibrator.status.stringIndex <;> rfl
  · rw [if_neg active, if_neg active]

end SweepCalibrator

/-- What the samples of a sweep come to. A report names the samples that a window consisted of,
which the calibrator itself does not keep. -/
inductive SweepReport
  /-- A sample is added to the sums of the open string. -/
  | heard (sample : CalibrationSample)
  /-- The sums of the open string are given up. -/
  | reopened
  /-- A stable window is added to the sums of a fret in a direction. -/
  | contributed (phase : CalibrationSweepPhase) (fret : Fin calibrationFretCount)
      (samples : List CalibrationSample)

/-- The samples that a report is about. -/
def SweepReport.samples : SweepReport → List CalibrationSample
  | .heard sample => [sample]
  | .reopened => []
  | .contributed _ _ samples => samples

/-- The reports of a sample while the open string is awaited. -/
def SweepCalibrator.openReports (sqrt : ℚ → ℚ) (calibrator : SweepCalibrator)
    (sample : CalibrationSample) : List SweepReport :=
  let opened := (calibrator.ascending sample.fret).add sample
  if sample.fret.val ≠ 0 ∨ 8 < |sample.cents| then []
  else if opened.count < calibrator.openLockObservations ∨ sqrt opened.centsVariance ≤ 6 then
    [.heard sample]
  else [.heard sample, .reopened]

/-- The calibrator with the samples of its window. The samples are kept beside the sums, so that
the sums can be compared with them. -/
structure TracedSweep where
  calibrator : SweepCalibrator
  samples : List CalibrationSample := []

namespace TracedSweep

variable {sqrt : ℚ → ℚ}

/-- An observation, with the samples of the window after it and what they come to. -/
def observe (sqrt : ℚ → ℚ) (traced : TracedSweep) (observation : CalibrationObservation) :
    TracedSweep × List SweepReport :=
  let calibrator := (traced.calibrator.observe sqrt observation).2
  let phase := traced.calibrator.status.phase
  match traced.calibrator.taken observation with
  | none => ({ calibrator, samples := traced.samples }, [])
  | some sample =>
      if phase = .waitingOpen then
        ({ calibrator, samples := traced.samples }, traced.calibrator.openReports sqrt sample)
      else
        match traced.calibrator.fretTurn sample with
        | .unrequested => ({ calibrator }, [])
        | .untuned => ({ calibrator, samples := traced.samples }, [])
        | .grows => ({ calibrator, samples := traced.samples ++ [sample] }, [])
        | .completes =>
            ({ calibrator }, [.contributed phase sample.fret (traced.samples ++ [sample])])
        | .opens => ({ calibrator, samples := [sample] }, [])

/-- The observations of a sweep. -/
def machine (sqrt : ℚ → ℚ) : Transducer CalibrationObservation TracedSweep SweepReport where
  step := observe sqrt

/-- The traced sweep does what the calibrator does. -/
theorem observe_calibrator (traced : TracedSweep) (observation : CalibrationObservation) :
    (traced.observe sqrt observation).1.calibrator =
      (traced.calibrator.observe sqrt observation).2 := by
  rw [observe]
  cases traced.calibrator.taken observation with
  | none => rfl
  | some sample =>
      dsimp only
      split_ifs
      · rfl
      · cases traced.calibrator.fretTurn sample <;> rfl

/-- The samples that are kept beside it leave the calibrator as it is alone. -/
theorem run_calibrator (traced : TracedSweep) (observations : List CalibrationObservation) :
    ((machine sqrt).run traced observations).1.calibrator =
      ((SweepCalibrator.machine sqrt).run traced.calibrator (observations.map .observe)).1 := by
  induction observations generalizing traced with
  | nil => rfl
  | cons observation rest ih =>
      rw [List.map_cons, (machine sqrt).run_cons, (SweepCalibrator.machine sqrt).run_cons]
      exact (ih _).trans (congrArg (fun calibrator =>
        ((SweepCalibrator.machine sqrt).run calibrator (rest.map .observe)).1)
        (observe_calibrator traced observation))

/-- What an observation can do, with whether it is accepted. -/
inductive Step (sqrt : ℚ → ℚ) (before : TracedSweep) :
    Bool → TracedSweep → List SweepReport → Prop
  | rejects : Step sqrt before false { before with calibrator := before.calibrator.reject.2 } []
  /-- The sample of another fret ends the window. -/
  | strays :
      Step sqrt before false
        { calibrator := { before.calibrator with stableWindow := {} }.reject.2 } []
  | hears (sample : CalibrationSample) (waits : before.calibrator.status.phase = .waitingOpen)
      (opens : sample.fret.val = 0)
      (few : ((before.calibrator.ascending sample.fret).add sample).count <
        before.calibrator.openLockObservations) :
      Step sqrt before true { before with calibrator := before.calibrator.heard sample }
        [.heard sample]
  | locks (sample : CalibrationSample) (waits : before.calibrator.status.phase = .waitingOpen)
      (opens : sample.fret.val = 0)
      (enough : before.calibrator.openLockObservations ≤
        ((before.calibrator.ascending sample.fret).add sample).count) :
      Step sqrt before true { before with calibrator := before.calibrator.locked sample }
        [.heard sample]
  | reopens (sample : CalibrationSample) (waits : before.calibrator.status.phase = .waitingOpen)
      (opens : sample.fret.val = 0) :
      Step sqrt before true { before with calibrator := before.calibrator.reopened sample }
        [.heard sample, .reopened]
  | grows (sample : CalibrationSample) (active : before.calibrator.active = true)
      (past : before.calibrator.status.phase ≠ .waitingOpen)
      (requested : sample.fret.val = before.calibrator.status.requestedFret)
      (keeps : before.calibrator.stableWindow.keeps before.calibrator.status.phase sample = true)
      (few : (before.calibrator.grown sample).pending.count <
        before.calibrator.stableWindowObservations) :
      Step sqrt before true
        { calibrator := { before.calibrator with stableWindow := before.calibrator.grown sample }
          samples := before.samples ++ [sample] } []
  | completes (sample : CalibrationSample) (active : before.calibrator.active = true)
      (past : before.calibrator.status.phase ≠ .waitingOpen)
      (requested : sample.fret.val = before.calibrator.status.requestedFret)
      (keeps : before.calibrator.stableWindow.keeps before.calibrator.status.phase sample = true)
      (enough : (before.calibrator.grown sample).established = false →
        before.calibrator.stableWindowObservations ≤
          (before.calibrator.grown sample).pending.count) :
      Step sqrt before true { calibrator := before.calibrator.completed sqrt sample }
        [.contributed before.calibrator.status.phase sample.fret (before.samples ++ [sample])]
  | opens (sample : CalibrationSample) (active : before.calibrator.active = true)
      (past : before.calibrator.status.phase ≠ .waitingOpen)
      (requested : sample.fret.val = before.calibrator.status.requestedFret) :
      Step sqrt before true
        { calibrator := { before.calibrator with
            stableWindow := StableWindow.opened before.calibrator.status.phase sample }
          samples := [sample] } []

/-- The observation of the open string is a step of the trace. -/
theorem observeOpen_step (traced : TracedSweep) (sample : CalibrationSample)
    (waits : traced.calibrator.status.phase = .waitingOpen) :
    Step sqrt traced (traced.calibrator.observeOpen sqrt sample).1
      { traced with calibrator := (traced.calibrator.observeOpen sqrt sample).2 }
      (traced.calibrator.openReports sqrt sample) := by
  rw [SweepCalibrator.observeOpen_eq, SweepCalibrator.openReports]
  by_cases refused : sample.fret.val ≠ 0 ∨ 8 < |sample.cents|
  · rw [if_pos refused, if_pos refused]
    exact .rejects
  · have opens : sample.fret.val = 0 := not_not.mp fun other => refused (.inl other)
    rw [if_neg refused, if_neg refused]
    dsimp only
    by_cases few : ((traced.calibrator.ascending sample.fret).add sample).count <
        traced.calibrator.openLockObservations
    · rw [if_pos few, if_pos (.inl few)]
      exact .hears sample waits opens few
    · by_cases even : sqrt ((traced.calibrator.ascending sample.fret).add sample).centsVariance ≤ 6
      · rw [if_neg few, if_pos even, if_pos (.inr even)]
        exact .locks sample waits opens (Nat.le_of_not_lt few)
      · rw [if_neg few, if_neg even, if_neg (not_or.mpr ⟨few, even⟩)]
        exact .reopens sample waits opens

theorem observe_step (traced : TracedSweep) (observation : CalibrationObservation) :
    Step sqrt traced (traced.calibrator.observe sqrt observation).1
      (traced.observe sqrt observation).1 (traced.observe sqrt observation).2 := by
  rw [observe, SweepCalibrator.observe_eq]
  cases took : traced.calibrator.taken observation with
  | none => exact .rejects
  | some sample =>
      have active : traced.calibrator.active = true := by
        by_contra idle
        rw [SweepCalibrator.taken, if_neg idle] at took
        cases took
      dsimp only
      by_cases waits : traced.calibrator.status.phase = .waitingOpen
      · simp only [if_pos waits]
        exact observeOpen_step traced sample waits
      · simp only [if_neg waits]
        rw [SweepCalibrator.observeFret_eq, SweepCalibrator.fretTurn]
        by_cases other : sample.fret.val ≠ traced.calibrator.status.requestedFret
        · rw [if_pos other]
          exact .strays
        have requested := not_not.mp other
        rw [if_neg other]
        by_cases untuned : traced.calibrator.status.phase = .descending ∧
            traced.calibrator.status.requestedFret = 0 ∧ 8 < |sample.cents|
        · rw [if_pos untuned]
          exact .rejects
        rw [if_neg untuned]
        by_cases keeps : traced.calibrator.stableWindow.keeps traced.calibrator.status.phase sample
        · rw [if_pos keeps]
          by_cases grows : (traced.calibrator.grown sample).established = false ∧
              (traced.calibrator.grown sample).pending.count <
                traced.calibrator.stableWindowObservations
          · rw [if_pos grows]
            exact .grows sample active waits requested keeps grows.2
          · rw [if_neg grows]
            exact .completes sample active waits requested keeps fun fresh =>
              Nat.le_of_not_lt fun few => grows ⟨fresh, few⟩
        · rw [if_neg keeps]
          exact .opens sample active waits requested

end TracedSweep

end M3Midi
