import M3Midi.Calibration.SweepSums

/-! # Sound sweeps

Along a sweep the sums of a fret in a direction are those over the samples that its trace
reports for them, and the window holds the sums over samples of the requested fret. Every
observation keeps that (`M3Midi.TracedSweep.Step.sound`).
-/

namespace M3Midi

open Foundation

/-! ## The completion of a window -/

namespace SweepCalibrator

variable {sqrt : ℚ → ℚ} {calibrator : SweepCalibrator} {sample : CalibrationSample}

/-- The phase and the requested fret. -/
def position (calibrator : SweepCalibrator) : CalibrationSweepPhase × ℕ :=
  (calibrator.status.phase, calibrator.status.requestedFret)

/-- The status with the samples of a window counted. -/
def countedStatus (calibrator : SweepCalibrator) (sample : CalibrationSample) :
    CalibrationSweepStatus :=
  { calibrator.status with
    acceptedObservations :=
      calibrator.status.acceptedObservations +
        BitVec.ofNat 32 (calibrator.grown sample).pending.count }

/-- The sums of the directions with those of a window added at its fret. -/
def merged (calibrator : SweepCalibrator)
    (sums : Fin calibrationFretCount → CalibrationAccumulator) (sample : CalibrationSample) :
    Fin calibrationFretCount → CalibrationAccumulator :=
  Function.update sums sample.fret
    ((sums sample.fret).merge (calibrator.grown sample).pending)

/-- The calibrator when a window is added to a fret on the way up. -/
def addedUp (calibrator : SweepCalibrator) (sample : CalibrationSample) : SweepCalibrator :=
  { calibrator with
    ascending := calibrator.merged calibrator.ascending sample
    stableWindow := { calibrator.grown sample with established := true }
    status := calibrator.countedStatus sample }

/-- The calibrator when a window is added to a fret on the way down. -/
def addedDown (calibrator : SweepCalibrator) (sample : CalibrationSample) : SweepCalibrator :=
  { calibrator with
    descending := calibrator.merged calibrator.descending sample
    stableWindow := { calibrator.grown sample with established := true }
    status := calibrator.countedStatus sample }

section Completed

variable (fresh : (calibrator.grown sample).established = false)

include fresh

/-- On the way up, a completed window is added to the ascending sums, and the sweep advances. -/
theorem completed_up (ascends : calibrator.status.phase = .ascending) :
    calibrator.completed sqrt sample =
      { (calibrator.addedUp sample).advance sqrt sample.fret with stableWindow := {} } := by
  have differs : calibrator.status.phase ≠ .descending := by
    rw [ascends]
    exact CalibrationSweepPhase.noConfusion
  rw [completed, mergeWindow]
  dsimp only
  rw [if_neg (ne_true_of_eq_false fresh), if_neg differs]
  rfl

/-- On the way down it is added to the descending sums. -/
theorem completed_down (descends : calibrator.status.phase = .descending) :
    calibrator.completed sqrt sample =
      { (calibrator.addedDown sample).advance sqrt sample.fret with stableWindow := {} } := by
  rw [completed, mergeWindow]
  dsimp only
  rw [if_neg (ne_true_of_eq_false fresh), if_pos descends]
  rfl

/-- A window below the last fret asks for the next one. -/
theorem completed_climbs (ascends : calibrator.status.phase = .ascending)
    (below : sample.fret.val + 1 < calibrationFretCount) :
    calibrator.completed sqrt sample =
      { calibrator.addedUp sample with
        stableWindow := {}
        status :=
          { calibrator.countedStatus sample with
            highestFret := max calibrator.status.highestFret sample.fret
            requestedFret := sample.fret + 1 } } := by
  rw [completed_up fresh ascends, advance]
  dsimp only
  rw [if_pos (show (calibrator.addedUp sample).status.phase = .ascending from ascends),
    if_pos below]
  rfl

/-- The window of the last fret is the first one on the way down. -/
theorem completed_turns (ascends : calibrator.status.phase = .ascending)
    (last : ¬ sample.fret.val + 1 < calibrationFretCount) :
    calibrator.completed sqrt sample =
      { calibrator.addedUp sample with
        descending :=
          Function.update calibrator.descending sample.fret
            (calibrator.merged calibrator.ascending sample sample.fret)
        stableWindow := {}
        status :=
          { calibrator.countedStatus sample with
            highestFret := max calibrator.status.highestFret sample.fret
            phase := .descending
            requestedFret := sample.fret - 1 } } := by
  rw [completed_up fresh ascends, advance]
  dsimp only
  rw [if_pos (show (calibrator.addedUp sample).status.phase = .ascending from ascends),
    if_neg last]
  rfl

/-- Above the open string, the sweep then asks for the fret below. -/
theorem completed_falls (descends : calibrator.status.phase = .descending)
    (above : sample.fret.val ≠ 0) :
    calibrator.completed sqrt sample =
      { calibrator.addedDown sample with
        stableWindow := {}
        status := { calibrator.countedStatus sample with requestedFret := sample.fret - 1 } } := by
  have differs : (calibrator.addedDown sample).status.phase ≠ .ascending := by
    change calibrator.status.phase ≠ .ascending
    rw [descends]
    exact CalibrationSweepPhase.noConfusion
  rw [completed_down fresh descends, advance]
  dsimp only
  rw [if_neg differs, if_neg above]
  rfl

/-- The window of the open string on the way down ends the sweep. -/
theorem completed_ends (descends : calibrator.status.phase = .descending)
    (opens : sample.fret.val = 0) :
    calibrator.completed sqrt sample =
      { (calibrator.addedDown sample).finalize sqrt with stableWindow := {} } := by
  have differs : (calibrator.addedDown sample).status.phase ≠ .ascending := by
    change calibrator.status.phase ≠ .ascending
    rw [descends]
    exact CalibrationSweepPhase.noConfusion
  rw [completed_down fresh descends, advance]
  dsimp only
  rw [if_neg differs, if_pos opens]

end Completed

/-- The points of the frets that are measured. -/
def measuredPoints (sqrt : ℚ → ℚ) (calibrator : SweepCalibrator) : StringPoints := fun fret =>
  FretDirections.point ⟨calibrator.ascending fret, calibrator.descending fret⟩ sqrt

/-- A sweep that is complete leaves the points of its string between measured ends. -/
def Ended (sqrt : ℚ → ℚ) (calibrator : SweepCalibrator) : Prop :=
  (calibrator.measuredPoints sqrt).measuredAt 0 = true ∧
    (calibrator.measuredPoints sqrt).measuredAt (calibrationFretCount - 1) = true ∧
    calibrator.bank.points calibrator.status.stringIndex =
      (calibrator.measuredPoints sqrt).interpolate.1

/-- The end of a sweep leaves the sums as they are. -/
theorem finalize_cases (sqrt : ℚ → ℚ) (calibrator : SweepCalibrator) :
    let after := calibrator.finalize sqrt
    (after.ascending = calibrator.ascending ∧ after.descending = calibrator.descending) ∧
      (after.stableWindowObservations = calibrator.stableWindowObservations ∧
        after.openLockObservations = calibrator.openLockObservations) ∧
      after.status.requestedFret = calibrator.status.requestedFret ∧
      (after.status.phase = .insufficient ∨ after.status.phase = .complete ∧ after.Ended sqrt) := by
  dsimp only
  rw [finalize]
  dsimp only
  split_ifs with ends
  · refine ⟨⟨rfl, rfl⟩, ⟨rfl, rfl⟩, rfl, .inr ⟨rfl, ends.1, ends.2.1, ?_⟩⟩
    exact Function.update_self ..
  · exact ⟨⟨rfl, rfl⟩, ⟨rfl, rfl⟩, rfl, .inl rfl⟩

end SweepCalibrator

/-! ## What a trace keeps -/

namespace TracedSweep

open CalibrationAccumulator SweepReport SweepCalibrator

variable {sqrt : ℚ → ℚ} {traced before after : TracedSweep} {log reports : List SweepReport}
  {sample : CalibrationSample} {accepted : Bool}

/-- The window holds the sums over its samples, which are too few yet, near one another, and
near the fret from the second on. -/
structure Windowed (traced : TracedSweep) : Prop where
  fret : traced.calibrator.stableWindow.fret = traced.calibrator.status.requestedFret
  phase : traced.calibrator.stableWindow.phase = traced.calibrator.status.phase
  fresh : traced.calibrator.stableWindow.established = false
  pending : traced.calibrator.stableWindow.pending = sums traced.samples
  few : traced.samples.length < traced.calibrator.stableWindowObservations
  requested : ∀ sample ∈ traced.samples,
    sample.fret.val = traced.calibrator.status.requestedFret
  covers : ∀ sample ∈ traced.samples,
    traced.calibrator.stableWindow.minimumCents ≤ sample.cents ∧
      sample.cents ≤ traced.calibrator.stableWindow.maximumCents
  centred : ∀ sample ∈ traced.samples.tail, |sample.cents| ≤ 12
  opened : traced.samples ≠ []
  past : traced.calibrator.status.phase ≠ .waitingOpen

/-- The positions of a sweep that has begun. -/
def OnPath : CalibrationSweepPhase × ℕ → Prop
  | (.idle, _) => False
  | (.waitingOpen, fret) => fret = 0
  | (.ascending, fret) => 1 ≤ fret ∧ fret < calibrationFretCount
  | (.descending, fret) => fret + 1 < calibrationFretCount
  | (.complete, fret) | (.insufficient, fret) => fret = 0

/-- The last fret is not copied before the way down. -/
def Uncopied (calibrator : SweepCalibrator) (fret : Fin calibrationFretCount) : Prop :=
  fret.val + 1 = calibrationFretCount ∧
    (calibrator.status.phase = .waitingOpen ∨ calibrator.status.phase = .ascending)

/-- What holds of a sweep and of the reports of its trace. -/
structure Sound (sqrt : ℚ → ℚ) (log : List SweepReport) (traced : TracedSweep) : Prop where
  least : minimumStableWindowObservations ≤ traced.calibrator.stableWindowObservations
  most : traced.calibrator.stableWindowObservations ≤ counterLimit
  lock : traced.calibrator.openLockObservations ≤ counterLimit
  path : OnPath traced.calibrator.position
  window : traced.calibrator.stableWindow = {} ∧ traced.samples = [] ∨ traced.Windowed
  up : ∀ fret, traced.calibrator.ascending fret = sums (gathered .ascending fret log)
  uncopied : ∀ fret, Uncopied traced.calibrator fret → traced.calibrator.descending fret = {}
  down : ∀ fret, ¬ Uncopied traced.calibrator fret →
    traced.calibrator.descending fret = sums (gathered .descending fret log)
  waits : traced.calibrator.status.phase = .waitingOpen →
    (gathered .ascending 0 log).length < traced.calibrator.openLockObservations
  reported : ∀ report ∈ log, report.Reported traced.calibrator.stableWindowObservations
  ended : traced.calibrator.status.phase = .complete → traced.calibrator.Ended sqrt

/-- A sample that keeps the window finds it opened. -/
theorem windowed_of_keeps (sound : traced.Sound sqrt log)
    (keeps : traced.calibrator.stableWindow.keeps traced.calibrator.status.phase sample = true) :
    traced.Windowed := by
  refine sound.window.resolve_left ?_
  rintro ⟨none, -⟩
  rw [none, StableWindow.keeps, Bool.and_eq_true, Bool.and_eq_true, Bool.and_eq_true] at keeps
  have beyond : calibrationFretCount = sample.fret.val := of_decide_eq_true keeps.1.1.1
  exact absurd sample.fret.isLt (by omega)

/-- The window with the sample that keeps it. -/
theorem grown_spec (sound : traced.Sound sqrt log)
    (keeps : traced.calibrator.stableWindow.keeps traced.calibrator.status.phase sample = true) :
    (traced.calibrator.grown sample).established = false ∧
      (traced.calibrator.grown sample).pending = sums (traced.samples ++ [sample]) ∧
      (traced.calibrator.grown sample).pending.count = traced.samples.length + 1 := by
  have windowed := windowed_of_keeps sound keeps
  have few := windowed.few
  have most := sound.most
  have fresh : ¬ (traced.calibrator.stableWindow.widen sample).established = true :=
    ne_true_of_eq_false windowed.fresh
  have pending : (traced.calibrator.grown sample).pending = sums (traced.samples ++ [sample]) := by
    rw [grown, StableWindow.add, if_neg fresh]
    change traced.calibrator.stableWindow.pending.addSample sample = _
    rw [windowed.pending]
    exact addSample_sums (by omega) sample
  refine ⟨?_, pending, ?_⟩
  · rw [grown, StableWindow.add, if_neg fresh]
    exact windowed.fresh
  · rw [pending, count_sums, List.length_append, List.length_singleton]
    omega

/-- What an observation leaves when it moves neither the position nor any sums. -/
structure Kept (before after : SweepCalibrator) : Prop where
  bank : after.bank = before.bank
  ascending : after.ascending = before.ascending
  descending : after.descending = before.descending
  stringIndex : after.status.stringIndex = before.status.stringIndex
  phase : after.status.phase = before.status.phase
  requestedFret : after.status.requestedFret = before.status.requestedFret
  window : after.stableWindowObservations = before.stableWindowObservations
  lock : after.openLockObservations = before.openLockObservations

/-- A rejected observation keeps all that has been measured. -/
theorem kept_reject (calibrator : SweepCalibrator) : Kept calibrator calibrator.reject.2 := by
  rw [reject]
  dsimp only
  split_ifs <;> exact ⟨rfl, rfl, rfl, rfl, rfl, rfl, rfl, rfl⟩

/-- A rejected observation leaves the window as it is. -/
theorem stableWindow_reject (calibrator : SweepCalibrator) :
    calibrator.reject.2.stableWindow = calibrator.stableWindow := by
  rw [reject]
  dsimp only
  split_ifs <;> rfl

/-- A sweep stays sound when only its window changes. -/
theorem Sound.of_kept (sound : before.Sound sqrt log)
    (kept : Kept before.calibrator after.calibrator)
    (window : after.calibrator.stableWindow = {} ∧ after.samples = [] ∨ after.Windowed) :
    after.Sound sqrt log where
  least := kept.window ▸ sound.least
  most := kept.window ▸ sound.most
  lock := kept.lock ▸ sound.lock
  path := by
    rw [position, kept.phase, kept.requestedFret]
    exact sound.path
  window := window
  up fret := by
    rw [kept.ascending]
    exact sound.up fret
  uncopied fret := by
    rw [Uncopied, kept.phase, kept.descending]
    exact sound.uncopied fret
  down fret := by
    rw [Uncopied, kept.phase, kept.descending]
    exact sound.down fret
  waits := by
    rw [kept.phase, kept.lock]
    exact sound.waits
  reported := by
    rw [kept.window]
    exact sound.reported
  ended := by
    have points : after.calibrator.measuredPoints sqrt = before.calibrator.measuredPoints sqrt := by
      funext fret
      rw [measuredPoints, kept.ascending, kept.descending, measuredPoints]
    rw [kept.phase, Ended, points, kept.bank, kept.stringIndex]
    exact sound.ended

/-- The window goes with the calibrator when no other field of it matters. -/
theorem Windowed.of_kept (windowed : before.Windowed)
    (kept : Kept before.calibrator after.calibrator)
    (window : after.calibrator.stableWindow = before.calibrator.stableWindow)
    (samples : after.samples = before.samples) : after.Windowed where
  fret := by
    rw [window, kept.requestedFret]
    exact windowed.fret
  phase := by
    rw [window, kept.phase]
    exact windowed.phase
  fresh := window ▸ windowed.fresh
  pending := by
    rw [window, samples]
    exact windowed.pending
  few := by
    rw [samples, kept.window]
    exact windowed.few
  requested := by
    rw [samples, kept.requestedFret]
    exact windowed.requested
  covers := by
    rw [samples, window]
    exact windowed.covers
  centred := samples ▸ windowed.centred
  opened := samples ▸ windowed.opened
  past := kept.phase ▸ windowed.past

/-- A sample that opens a window is the first of it. -/
theorem windowed_opened (sound : before.Sound sqrt log)
    (past : before.calibrator.status.phase ≠ .waitingOpen)
    (requested : sample.fret.val = before.calibrator.status.requestedFret) :
    Windowed
      { calibrator := { before.calibrator with
          stableWindow := StableWindow.opened before.calibrator.status.phase sample }
        samples := [sample] } where
  fret := requested
  phase := rfl
  fresh := rfl
  pending := @addSample_sums [] (by decide) sample
  few := Nat.lt_of_lt_of_le (show 1 < minimumStableWindowObservations by decide) sound.least
  requested other member := by
    rw [List.mem_singleton.mp member]
    exact requested
  covers other member := by
    rw [List.mem_singleton.mp member]
    exact ⟨le_rfl, le_rfl⟩
  centred _ member := absurd member List.not_mem_nil
  opened := List.cons_ne_nil _ _
  past := past

/-- The window with the sample that keeps it covers the samples, and is centred from the second
one on. -/
theorem grown_covers (sound : before.Sound sqrt log)
    (keeps : before.calibrator.stableWindow.keeps before.calibrator.status.phase sample = true) :
    let widened := before.calibrator.stableWindow.widen sample
    (∀ other ∈ before.samples ++ [sample],
        widened.minimumCents ≤ other.cents ∧ other.cents ≤ widened.maximumCents) ∧
      widened.maximumCents - widened.minimumCents ≤ 8 ∧
      ∀ other ∈ (before.samples ++ [sample]).tail, |other.cents| ≤ 12 := by
  have windowed := windowed_of_keeps sound keeps
  rw [StableWindow.keeps, Bool.and_eq_true, Bool.and_eq_true] at keeps
  refine ⟨fun other member => ?_, of_decide_eq_true keeps.1.2, fun other member => ?_⟩
  · rcases List.mem_append.mp member with earlier | new
    · obtain ⟨above, below⟩ := windowed.covers other earlier
      exact ⟨(min_le_left _ _).trans above, below.trans (le_max_left _ _)⟩
    · rw [List.mem_singleton.mp new]
      exact ⟨min_le_right _ _, le_max_right _ _⟩
  · rw [List.tail_append_of_ne_nil windowed.opened] at member
    rcases List.mem_append.mp member with earlier | new
    · exact windowed.centred other earlier
    · rw [List.mem_singleton.mp new]
      exact of_decide_eq_true keeps.2

/-- A window that takes one observation more, and is not complete by it, still belongs to the
requested fret. -/
theorem windowed_grown (sound : before.Sound sqrt log)
    (requested : sample.fret.val = before.calibrator.status.requestedFret)
    (keeps : before.calibrator.stableWindow.keeps before.calibrator.status.phase sample = true)
    (few : (before.calibrator.grown sample).pending.count <
      before.calibrator.stableWindowObservations) :
    Windowed
      { calibrator := { before.calibrator with stableWindow := before.calibrator.grown sample }
        samples := before.samples ++ [sample] } := by
  have windowed := windowed_of_keeps sound keeps
  obtain ⟨fresh, pending, count⟩ := grown_spec sound keeps
  obtain ⟨covers, -, centred⟩ := grown_covers sound keeps
  have grows : before.calibrator.grown sample =
      { before.calibrator.stableWindow.widen sample with
        pending := (before.calibrator.stableWindow.widen sample).pending.addSample sample } := by
    rw [grown, StableWindow.add]
    exact if_neg (ne_true_of_eq_false windowed.fresh)
  exact
    { fret := by
        rw [grows]
        exact windowed.fret
      phase := by
        rw [grows]
        exact windowed.phase
      fresh := fresh
      pending := pending
      few := by
        rw [List.length_append, List.length_singleton]
        exact count ▸ few
      requested := by
        intro other member
        rcases List.mem_append.mp member with earlier | new
        · exact windowed.requested other earlier
        · rw [List.mem_singleton.mp new]
          exact requested
      covers := by
        rw [grows]
        exact covers
      centred := centred
      opened := List.append_ne_nil_of_right_ne_nil _ (List.cons_ne_nil _ _)
      past := windowed.past }

/-- A sample of the open string goes to its sums. -/
theorem up_heard (sound : before.Sound sqrt log) (opens : sample.fret.val = 0)
    (fret : Fin calibrationFretCount) :
    (before.calibrator.heard sample).ascending fret =
      sums (gathered .ascending fret (log ++ [.heard sample])) := by
  rw [gathered_heard, SweepCalibrator.heard]
  dsimp only
  by_cases same : fret = sample.fret
  · rw [same, Function.update_self, if_pos ⟨rfl, opens⟩, sums_concat, sound.up]
  · have other : fret.val ≠ 0 := fun zero => same (Fin.ext (zero.trans opens.symm))
    rw [Function.update_of_ne same, if_neg fun both => other both.2]
    exact sound.up fret

/-- Nothing is gathered on the way down while the open string is awaited. -/
theorem down_waiting {direction : CalibrationSweepPhase} (other : direction ≠ .ascending)
    (fret : ℕ) :
    gathered direction fret (log ++ [.heard sample]) = gathered direction fret log ∧
      gathered direction fret (log ++ [.heard sample, .reopened]) =
        gathered direction fret log := by
  rw [gathered_heard, gathered_reopened]
  exact ⟨if_neg fun both => other both.1, if_neg fun both => other both.1⟩

/-- Reports that satisfy the protocol can be put together. -/
theorem reported_append {windowObservations : ℕ}
    (old : ∀ report ∈ log, Reported windowObservations report)
    (new : ∀ report ∈ reports, Reported windowObservations report) :
    ∀ report ∈ log ++ reports, Reported windowObservations report :=
  fun report member => (List.mem_append.mp member).elim (old report) (new report)

/-- A report of the open string satisfies the protocol. -/
theorem reported_heard {windowObservations : ℕ} (opens : sample.fret.val = 0) :
    ∀ report ∈ [SweepReport.heard sample], Reported windowObservations report := by
  intro report member
  rw [List.mem_singleton.mp member]
  exact opens

/-- While the open string is awaited, the counter of its sums tells the samples. -/
theorem count_heard (sound : before.Sound sqrt log)
    (waits : before.calibrator.status.phase = .waitingOpen) (opens : sample.fret.val = 0) :
    ((before.calibrator.ascending sample.fret).add sample).count =
      (gathered .ascending 0 log).length + 1 := by
  have few := sound.waits waits
  have lock := sound.lock
  rw [sound.up, ← sums_concat, count_sums, List.length_append, List.length_singleton, opens]
  omega

/-- The window is empty while the open string is awaited. -/
theorem samples_waiting (sound : before.Sound sqrt log)
    (waits : before.calibrator.status.phase = .waitingOpen) :
    before.calibrator.stableWindow = {} ∧ before.samples = [] :=
  sound.window.resolve_right fun windowed => windowed.past waits

/-- The open string is heard once more, and the sweep keeps waiting. -/
theorem sound_hears (sound : before.Sound sqrt log)
    (waits : before.calibrator.status.phase = .waitingOpen) (opens : sample.fret.val = 0)
    (few : ((before.calibrator.ascending sample.fret).add sample).count <
      before.calibrator.openLockObservations) :
    Sound sqrt (log ++ [.heard sample])
      { before with calibrator := before.calibrator.heard sample } where
  least := sound.least
  most := sound.most
  lock := sound.lock
  path := sound.path
  window :=
    have none := samples_waiting sound waits
    .inl none
  up := up_heard sound opens
  uncopied := sound.uncopied
  down fret copied := by
    rw [(down_waiting CalibrationSweepPhase.noConfusion _).1]
    exact sound.down fret copied
  waits _ := by
    rw [gathered_heard, if_pos ⟨rfl, rfl⟩, List.length_append, List.length_singleton,
      ← count_heard sound waits opens]
    exact few
  reported := reported_append sound.reported (reported_heard opens)
  ended complete := CalibrationSweepPhase.noConfusion (waits.symm.trans complete)

/-- The open string has been heard steadily for long enough, and the sweep goes up. -/
theorem sound_locks (sound : before.Sound sqrt log)
    (waits : before.calibrator.status.phase = .waitingOpen) (opens : sample.fret.val = 0) :
    Sound sqrt (log ++ [.heard sample])
      { before with calibrator := before.calibrator.locked sample } where
  least := sound.least
  most := sound.most
  lock := sound.lock
  path := ⟨le_rfl, show 1 < calibrationFretCount by decide⟩
  window := .inl ⟨rfl, (samples_waiting sound waits).2⟩
  up := up_heard sound opens
  uncopied fret last := sound.uncopied fret ⟨last.1, .inl waits⟩
  down fret copied := by
    rw [(down_waiting CalibrationSweepPhase.noConfusion _).1]
    exact sound.down fret fun last => copied ⟨last.1, .inr rfl⟩
  waits := CalibrationSweepPhase.noConfusion
  reported := reported_append sound.reported (reported_heard opens)
  ended := CalibrationSweepPhase.noConfusion

/-- The open string has been heard for long enough, but it varied, and the sweep begins anew. -/
theorem sound_reopens (sound : before.Sound sqrt log)
    (waits : before.calibrator.status.phase = .waitingOpen) (opens : sample.fret.val = 0) :
    Sound sqrt (log ++ [.heard sample, .reopened])
      { before with calibrator := before.calibrator.reopened sample } where
  least := sound.least
  most := sound.most
  lock := sound.lock
  path := sound.path
  window :=
    have none := samples_waiting sound waits
    .inl none
  up fret := by
    rw [gathered_reopened, SweepCalibrator.reopened]
    dsimp only
    by_cases same : fret = sample.fret
    · rw [same, Function.update_self, if_pos ⟨rfl, opens⟩]
      rfl
    · have other : fret.val ≠ 0 := fun zero => same (Fin.ext (zero.trans opens.symm))
      rw [Function.update_of_ne same, if_neg fun both => other both.2]
      exact sound.up fret
  uncopied := sound.uncopied
  down fret copied := by
    rw [(down_waiting CalibrationSweepPhase.noConfusion _).2]
    exact sound.down fret copied
  waits _ := by
    rw [gathered_reopened, if_pos ⟨rfl, rfl⟩]
    exact Nat.zero_lt_of_lt (sound.waits waits)
  reported := by
    refine reported_append sound.reported fun report member => ?_
    rcases List.mem_cons.mp member with first | second
    · rw [first]
      exact opens
    · rw [List.mem_singleton.mp second]
      trivial
  ended complete := CalibrationSweepPhase.noConfusion (waits.symm.trans complete)

/-- A sweep that is past the open string goes either up or down. -/
theorem direction_cases (active : before.calibrator.active = true)
    (past : before.calibrator.status.phase ≠ .waitingOpen) :
    before.calibrator.status.phase = .ascending ∨ before.calibrator.status.phase = .descending := by
  rw [SweepCalibrator.active] at active
  cases phase : before.calibrator.status.phase with
  | ascending => exact .inl rfl
  | descending => exact .inr rfl
  | waitingOpen => exact absurd phase past
  | idle | complete | insufficient =>
      rw [phase] at active
      exact absurd active Bool.false_ne_true

/-- A sample that completes a window, and what is known of the window. -/
structure Completes (sqrt : ℚ → ℚ) (log : List SweepReport) (before : TracedSweep)
    (sample : CalibrationSample) : Prop where
  sound : before.Sound sqrt log
  requested : sample.fret.val = before.calibrator.status.requestedFret
  keeps : before.calibrator.stableWindow.keeps before.calibrator.status.phase sample = true
  enough : (before.calibrator.grown sample).established = false →
    before.calibrator.stableWindowObservations ≤ (before.calibrator.grown sample).pending.count

namespace Completes

variable (completes : Completes sqrt log before sample)

include completes

/-- A window that is still growing is not established. -/
theorem fresh : (before.calibrator.grown sample).established = false :=
  (grown_spec completes.sound completes.keeps).1

/-- The window has the sums over its observations, with the new one. -/
theorem pending : (before.calibrator.grown sample).pending = sums (before.samples ++ [sample]) :=
  (grown_spec completes.sound completes.keeps).2.1

/-- The window is long enough, and all of the requested fret. -/
theorem window : before.calibrator.stableWindowObservations ≤ (before.samples ++ [sample]).length ∧
    ∀ other ∈ before.samples ++ [sample], other.fret = sample.fret := by
  constructor
  · have enough := completes.enough completes.fresh
    rw [(grown_spec completes.sound completes.keeps).2.2] at enough
    rw [List.length_append, List.length_singleton]
    exact enough
  · intro other member
    rcases List.mem_append.mp member with earlier | new
    · have windowed := windowed_of_keeps completes.sound completes.keeps
      exact Fin.ext ((windowed.requested other earlier).trans completes.requested.symm)
    · rw [List.mem_singleton.mp new]

/-- The observations of a complete window are reported with the fret they belong to. -/
theorem reported (phase : CalibrationSweepPhase) :
    ∀ report ∈ log ++ [.contributed phase sample.fret (before.samples ++ [sample])],
      report.Reported before.calibrator.stableWindowObservations := by
  refine reported_append completes.sound.reported fun report member => ?_
  rw [List.mem_singleton.mp member]
  exact completes.window

/-- On the way up the window goes to the sums of its fret. -/
theorem up (fret : Fin calibrationFretCount) :
    before.calibrator.merged before.calibrator.ascending sample fret =
      sums (gathered .ascending fret
        (log ++ [.contributed .ascending sample.fret (before.samples ++ [sample])])) := by
  rw [gathered_contributed]
  by_cases same : fret = sample.fret
  · rw [same, if_pos ⟨rfl, .inl rfl⟩, merged, Function.update_self, completes.sound.up,
      completes.pending, merge_sums]
  · rw [if_neg fun both => same (Fin.ext both.1.symm), merged, Function.update_of_ne same]
    exact completes.sound.up fret

/-- The sweep moves one fret up. -/
theorem sound_climbs (ascends : before.calibrator.status.phase = .ascending)
    (below : sample.fret.val + 1 < calibrationFretCount) :
    Sound sqrt (log ++ [.contributed .ascending sample.fret (before.samples ++ [sample])])
      { calibrator := before.calibrator.completed sqrt sample } := by
  rw [completed_climbs completes.fresh ascends below]
  exact
    { least := completes.sound.least
      most := completes.sound.most
      lock := completes.sound.lock
      path := by
        change OnPath (before.calibrator.status.phase, sample.fret.val + 1)
        rw [ascends]
        exact ⟨Nat.le_add_left 1 _, below⟩
      window := .inl ⟨rfl, rfl⟩
      up := completes.up
      uncopied := completes.sound.uncopied
      down := fun fret copied => by
        rw [gathered_aside (.inr below)]
        exact completes.sound.down fret copied
      waits := fun waits => CalibrationSweepPhase.noConfusion (ascends.symm.trans waits)
      reported := completes.reported _
      ended := fun complete => CalibrationSweepPhase.noConfusion (ascends.symm.trans complete) }

/-- The sweep has reached the last fret, and turns. -/
theorem sound_turns (ascends : before.calibrator.status.phase = .ascending)
    (last : ¬ sample.fret.val + 1 < calibrationFretCount) :
    Sound sqrt (log ++ [.contributed .ascending sample.fret (before.samples ++ [sample])])
      { calibrator := before.calibrator.completed sqrt sample } := by
  have top : sample.fret.val + 1 = calibrationFretCount := by
    have inside := sample.fret.isLt
    omega
  rw [completed_turns completes.fresh ascends last]
  exact
    { least := completes.sound.least
      most := completes.sound.most
      lock := completes.sound.lock
      path := by
        have frets : calibrationFretCount = 25 := rfl
        change sample.fret.val - 1 + 1 < calibrationFretCount
        omega
      window := .inl ⟨rfl, rfl⟩
      up := completes.up
      uncopied := by
        rintro fret ⟨-, waits | climbs⟩
        · exact CalibrationSweepPhase.noConfusion waits
        · exact CalibrationSweepPhase.noConfusion climbs
      down := by
        intro fret _
        dsimp only
        by_cases same : fret = sample.fret
        · rw [same, Function.update_self, completes.up]
          exact congrArg sums (gathered_last top _ _ _)
        · rw [Function.update_of_ne same, gathered_aside (.inl same)]
          refine completes.sound.down fret fun uncopied => same (Fin.ext ?_)
          exact Nat.succ_injective (uncopied.1.trans top.symm)
      waits := CalibrationSweepPhase.noConfusion
      reported := completes.reported _
      ended := CalibrationSweepPhase.noConfusion }

/-- On the way down the requested fret is below the last one. -/
theorem below (descends : before.calibrator.status.phase = .descending) :
    sample.fret.val + 1 < calibrationFretCount := by
  have path := completes.sound.path
  rw [position, descends, ← completes.requested] at path
  exact path

/-- On the way down the window goes to the sums of its fret. -/
theorem down (descends : before.calibrator.status.phase = .descending)
    (fret : Fin calibrationFretCount) :
    before.calibrator.merged before.calibrator.descending sample fret =
      sums (gathered .descending fret
        (log ++ [.contributed .descending sample.fret (before.samples ++ [sample])])) := by
  have copied (fret : Fin calibrationFretCount) : ¬ Uncopied before.calibrator fret := by
    rintro ⟨-, waits | ascends⟩
    · exact CalibrationSweepPhase.noConfusion (descends.symm.trans waits)
    · exact CalibrationSweepPhase.noConfusion (descends.symm.trans ascends)
  rw [gathered_contributed]
  by_cases same : fret = sample.fret
  · rw [same, if_pos ⟨rfl, .inl rfl⟩, merged, Function.update_self,
      completes.sound.down _ (copied _), completes.pending, merge_sums]
  · rw [if_neg fun both => same (Fin.ext both.1.symm), merged, Function.update_of_ne same]
    exact completes.sound.down fret (copied fret)

/-- The sweep moves one fret down. -/
theorem sound_falls (descends : before.calibrator.status.phase = .descending)
    (above : sample.fret.val ≠ 0) :
    Sound sqrt (log ++ [.contributed .descending sample.fret (before.samples ++ [sample])])
      { calibrator := before.calibrator.completed sqrt sample } := by
  have below := completes.below descends
  rw [completed_falls completes.fresh descends above]
  exact
    { least := completes.sound.least
      most := completes.sound.most
      lock := completes.sound.lock
      path := by
        change OnPath (before.calibrator.status.phase, sample.fret.val - 1)
        rw [descends]
        exact (Nat.succ_le_succ (Nat.sub_le _ _)).trans_lt below
      window := .inl ⟨rfl, rfl⟩
      up := fun fret => by
        rw [gathered_below below]
        exact completes.sound.up fret
      uncopied := by
        rintro fret ⟨-, waits | climbs⟩
        · exact CalibrationSweepPhase.noConfusion (descends.symm.trans waits)
        · exact CalibrationSweepPhase.noConfusion (descends.symm.trans climbs)
      down := fun fret _ => completes.down descends fret
      waits := fun waits => CalibrationSweepPhase.noConfusion (descends.symm.trans waits)
      reported := completes.reported _
      ended := fun complete => CalibrationSweepPhase.noConfusion (descends.symm.trans complete) }

/-- The sweep has come back to the open string, and ends. -/
theorem sound_ends (descends : before.calibrator.status.phase = .descending)
    (opens : sample.fret.val = 0) :
    Sound sqrt (log ++ [.contributed .descending sample.fret (before.samples ++ [sample])])
      { calibrator := before.calibrator.completed sqrt sample } := by
  have below := completes.below descends
  rw [completed_ends completes.fresh descends opens]
  obtain ⟨⟨up, down⟩, ⟨window, lock⟩, requested, ends⟩ :=
    finalize_cases sqrt (before.calibrator.addedDown sample)
  have zero : ((before.calibrator.addedDown sample).finalize sqrt).status.requestedFret = 0 :=
    requested.trans (completes.requested.symm.trans opens)
  have gone : ((before.calibrator.addedDown sample).finalize sqrt).status.phase ≠ .waitingOpen ∧
      ((before.calibrator.addedDown sample).finalize sqrt).status.phase ≠ .ascending := by
    rcases ends with fails | ⟨complete, -⟩
    · rw [fails]
      exact ⟨CalibrationSweepPhase.noConfusion, CalibrationSweepPhase.noConfusion⟩
    · rw [complete]
      exact ⟨CalibrationSweepPhase.noConfusion, CalibrationSweepPhase.noConfusion⟩
  exact
    { least := window ▸ completes.sound.least
      most := window ▸ completes.sound.most
      lock := lock ▸ completes.sound.lock
      path := by
        change OnPath (((before.calibrator.addedDown sample).finalize sqrt).status.phase, _)
        rcases ends with fails | ⟨complete, -⟩
        · rw [fails]
          exact zero
        · rw [complete]
          exact zero
      window := .inl ⟨rfl, rfl⟩
      up := fun fret => by
        rw [gathered_below below]
        exact (congrFun up fret).trans (completes.sound.up fret)
      uncopied := by
        rintro fret ⟨-, waits | climbs⟩
        · exact absurd waits gone.1
        · exact absurd climbs gone.2
      down := fun fret _ => (congrFun down fret).trans (completes.down descends fret)
      waits := fun waits => absurd waits gone.1
      reported := window ▸ completes.reported _
      ended := fun complete => ends.elim
        (fun fails => CalibrationSweepPhase.noConfusion (complete.symm.trans fails)) And.right }

end Completes

/-- An observation keeps a sweep sound. The cases are those of the step, and each has its own
lemma. -/
theorem Step.sound (step : Step sqrt before accepted after reports)
    (sound : before.Sound sqrt log) : after.Sound sqrt (log ++ reports) := by
  cases step with
  | rejects =>
      rw [List.append_nil]
      refine sound.of_kept (kept_reject _) (sound.window.imp ?_ ?_)
      · rintro ⟨none, empty⟩
        exact ⟨(stableWindow_reject _).trans none, empty⟩
      · exact fun windowed => windowed.of_kept (kept_reject _) (stableWindow_reject _) rfl
  | strays =>
      rw [List.append_nil]
      obtain ⟨bank, up, down, string, phase, requested, window, lock⟩ :=
        kept_reject { before.calibrator with stableWindow := {} }
      exact sound.of_kept ⟨bank, up, down, string, phase, requested, window, lock⟩
        (.inl ⟨stableWindow_reject _, rfl⟩)
  | hears sample waits opens few => exact sound_hears sound waits opens few
  | locks sample waits opens => exact sound_locks sound waits opens
  | reopens sample waits opens => exact sound_reopens sound waits opens
  | grows sample active past requested keeps few =>
      rw [List.append_nil]
      exact sound.of_kept ⟨rfl, rfl, rfl, rfl, rfl, rfl, rfl, rfl⟩
        (.inr (windowed_grown sound requested keeps few))
  | completes sample active past requested keeps enough =>
      have completes : Completes sqrt log before sample := ⟨sound, requested, keeps, enough⟩
      rcases direction_cases active past with ascends | descends
      · rw [ascends]
        by_cases below : sample.fret.val + 1 < calibrationFretCount
        · exact completes.sound_climbs ascends below
        · exact completes.sound_turns ascends below
      · rw [descends]
        by_cases opens : sample.fret.val = 0
        · exact completes.sound_ends descends opens
        · exact completes.sound_falls descends opens
  | opens sample active past requested =>
      rw [List.append_nil]
      exact sound.of_kept ⟨rfl, rfl, rfl, rfl, rfl, rfl, rfl, rfl⟩
        (.inr (windowed_opened sound past requested))

/-- A sweep is sound when it begins. -/
theorem sound_begin {calibrator start : SweepCalibrator} {stringIndex : ℕ} {rate : Option ℚ}
    (starts : calibrator.begin stringIndex rate = (true, start)) :
    Sound sqrt [] { calibrator := start } := by
  cases rate with
  | none => exact Bool.noConfusion (congrArg Prod.fst starts)
  | some rate =>
      rw [begin] at starts
      split_ifs at starts with inside refused
      · exact Bool.noConfusion (congrArg Prod.fst starts)
      · obtain rfl := congrArg Prod.snd starts
        exact
          { least := le_max_left _ _
            most := max_le (by decide) (min_le_left _ _)
            lock := max_le (by decide) (min_le_left _ _)
            path := rfl
            window := .inl ⟨rfl, rfl⟩
            up := fun _ => rfl
            uncopied := fun _ _ => rfl
            down := fun _ _ => rfl
            waits := fun _ => Nat.lt_of_lt_of_le Nat.zero_lt_one (le_max_left _ _)
            reported := fun _ member => absurd member List.not_mem_nil
            ended := CalibrationSweepPhase.noConfusion }
      · exact Bool.noConfusion (congrArg Prod.fst starts)

/-- From the beginning of a sweep on, every run of observations keeps the sweep sound with what it
has reported. -/
theorem sound_run {calibrator start : SweepCalibrator} {stringIndex : ℕ} {rate : Option ℚ}
    (starts : calibrator.begin stringIndex rate = (true, start))
    (observations : List CalibrationObservation) :
    Sound sqrt ((machine sqrt).run { calibrator := start } observations).2
      ((machine sqrt).run { calibrator := start } observations).1 :=
  (machine sqrt).run_invariant (fun _ traced observation sound =>
    (observe_step traced observation).sound sound) (sound_begin starts) observations

end TracedSweep

end M3Midi
