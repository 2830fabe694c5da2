import M3Midi.Calibration.SweepProtocol

/-! # Where the samples of a window lie

A sample keeps a window only near the fret, but a sample that is too far off opens the next
one and is counted with it. So the windows of a sweep are narrow, and they are centred just
when none of them is completed that was opened off the fret
(`M3Midi.TracedSweep.stable_windows_centred_iff`).
-/

namespace M3Midi

open Foundation

namespace TracedSweep

open SweepCalibrator

variable {sqrt : ℚ → ℚ} {traced : TracedSweep} {log : List SweepReport}
  {sample : CalibrationSample}

/-- The samples span at most eight cents (`kMaximumStableWindowSpanCents`). -/
def Narrow (samples : List CalibrationSample) : Prop :=
  ∀ one ∈ samples, ∀ two ∈ samples, one.cents - two.cents ≤ 8

/-- The samples are within twelve cents of the fret (`kMaximumStableCenterErrorCents`). -/
def Centred (samples : List CalibrationSample) : Prop :=
  ∀ sample ∈ samples, |sample.cents| ≤ 12

/-- A property holds of all windows that are added to a fret. -/
def OfWindows (property : List CalibrationSample → Prop) (log : List SweepReport) : Prop :=
  ∀ phase fret samples, .contributed phase fret samples ∈ log → property samples

/-- The observation does not complete a window that a sample off the fret has opened. -/
def OpenedNear (traced : TracedSweep) (observation : CalibrationObservation) : Prop :=
  ∀ sample, traced.calibrator.taken observation = some sample →
    traced.calibrator.status.phase ≠ .waitingOpen →
    traced.calibrator.fretTurn sample = .completes →
    ∀ first ∈ traced.samples.head?, |first.cents| ≤ 12

/-- All windows of two logs have a property exactly if those of each of them do. -/
theorem ofWindows_append {property : List CalibrationSample → Prop}
    {one two : List SweepReport} :
    OfWindows property (one ++ two) ↔ OfWindows property one ∧ OfWindows property two := by
  constructor
  · intro holds
    exact ⟨fun phase fret samples member =>
        holds phase fret samples (List.mem_append_left _ member),
      fun phase fret samples member =>
        holds phase fret samples (List.mem_append_right _ member)⟩
  · rintro ⟨first, second⟩ phase fret samples member
    exact (List.mem_append.mp member).elim (first phase fret samples) (second phase fret samples)

/-- An empty log has no windows. -/
theorem ofWindows_nil (property : List CalibrationSample → Prop) : OfWindows property [] :=
  fun _ _ _ member => absurd member List.not_mem_nil

/-- A single report has one window. -/
theorem ofWindows_singleton {property : List CalibrationSample → Prop}
    {phase : CalibrationSweepPhase} {fret : Fin calibrationFretCount}
    {samples : List CalibrationSample} :
    OfWindows property [.contributed phase fret samples] ↔ property samples := by
  constructor
  · exact fun holds => holds phase fret samples (List.mem_singleton_self _)
  · intro holds other reached window member
    rw [(SweepReport.contributed.inj (List.mem_singleton.mp member)).2.2]
    exact holds

/-- No window is reported while the open string is awaited. -/
theorem ofWindows_openReports (property : List CalibrationSample → Prop)
    (calibrator : SweepCalibrator) (sample : CalibrationSample) :
    OfWindows property (calibrator.openReports sqrt sample) := by
  intro phase fret samples member
  rw [openReports] at member
  split_ifs at member
  · exact absurd member List.not_mem_nil
  · exact SweepReport.noConfusion (List.mem_singleton.mp member)
  · rcases List.mem_cons.mp member with first | second
    · exact SweepReport.noConfusion first
    · exact SweepReport.noConfusion (List.mem_singleton.mp second)

/-- The sample that completes a window keeps it. -/
theorem keeps_of_completes (completes : traced.calibrator.fretTurn sample = .completes) :
    traced.calibrator.stableWindow.keeps traced.calibrator.status.phase sample = true := by
  rw [fretTurn] at completes
  split_ifs at completes with _ _ keeps
  exact keeps

/-- The windows of one observation are narrow, and centred when the window was opened near the
fret. -/
theorem observe_windows (sound : traced.Sound sqrt log) (observation : CalibrationObservation) :
    OfWindows Narrow (traced.observe sqrt observation).2 ∧
      (OfWindows Centred (traced.observe sqrt observation).2 ↔ OpenedNear traced observation) := by
  have quiet {reports : List SweepReport}
      (none : ∀ property, OfWindows property reports)
      (near : OpenedNear traced observation) :
      OfWindows Narrow reports ∧ (OfWindows Centred reports ↔ OpenedNear traced observation) :=
    ⟨none Narrow, fun _ => near, fun _ => none Centred⟩
  rw [observe]
  cases took : traced.calibrator.taken observation with
  | none =>
      refine quiet ofWindows_nil fun sample taken => ?_
      exact absurd (took.symm.trans taken) (Option.some_ne_none sample).symm
  | some sample =>
      have only {other : CalibrationSample}
          (taken : traced.calibrator.taken observation = some other) : other = sample :=
        Option.some.inj (taken.symm.trans took)
      dsimp only
      by_cases waits : traced.calibrator.status.phase = .waitingOpen
      · rw [if_pos waits]
        exact quiet (fun property => ofWindows_openReports property _ _)
          fun _ _ past => absurd waits past
      · rw [if_neg waits]
        cases turn : traced.calibrator.fretTurn sample with
        | completes =>
            have keeps := keeps_of_completes turn
            obtain ⟨covers, span, centred⟩ := grown_covers sound keeps
            obtain ⟨first, rest, opened⟩ :=
              List.exists_cons_of_ne_nil (windowed_of_keeps sound keeps).opened
            dsimp only
            rw [ofWindows_singleton, ofWindows_singleton]
            refine ⟨fun one oneMember two twoMember => ?_, fun near => ?_, fun near => ?_⟩
            · have below := (covers one oneMember).2
              have above := (covers two twoMember).1
              linarith
            · intro _ _ _ _ head member
              refine near head (List.mem_append_left _ (List.mem_of_mem_head? member))
            · intro other member
              rw [opened, List.cons_append] at member
              rw [opened, List.cons_append] at centred
              rcases List.mem_cons.mp member with same | later
              · rw [same]
                refine near sample took waits turn first ?_
                rw [opened]
                rfl
              · exact centred other later
        | unrequested | untuned | grows | opens =>
            refine quiet ofWindows_nil fun other taken _ completes => ?_
            rw [only taken, turn] at completes
            exact FretTurn.noConfusion completes

/-- After any observations the windows that were added to a fret are narrow. They are centred as
well just when every window that was completed had been opened near its fret. -/
theorem stable_windows_centred_iff (sqrt : ℚ → ℚ) {calibrator start : SweepCalibrator}
    {stringIndex : ℕ} {rate : Option ℚ} (starts : calibrator.begin stringIndex rate = (true, start))
    (observations : List CalibrationObservation) :
    let log := ((machine sqrt).run { calibrator := start } observations).2
    OfWindows Narrow log ∧
      (OfWindows (fun samples => Centred samples ∧ Narrow samples) log ↔
        (machine sqrt).Meets OpenedNear { calibrator := start } observations) := by
  have windows : OfWindows Narrow ((machine sqrt).run { calibrator := start } observations).2 ∧
      (OfWindows Centred ((machine sqrt).run { calibrator := start } observations).2 ↔
        (machine sqrt).Meets OpenedNear { calibrator := start } observations) := by
    induction observations using List.reverseRecOn with
    | nil => exact ⟨ofWindows_nil _, fun _ => trivial, fun _ => ofWindows_nil _⟩
    | append_singleton observations observation ih =>
        obtain ⟨narrow, centred⟩ := ih
        obtain ⟨stepNarrow, stepCentred⟩ :=
          observe_windows (@sound_run sqrt _ _ _ _ starts observations) observation
        rw [(machine sqrt).run_concat, (machine sqrt).meets_concat, ofWindows_append,
          ofWindows_append]
        exact ⟨⟨narrow, stepNarrow⟩, and_congr centred stepCentred⟩
  obtain ⟨narrow, centred⟩ := windows
  refine ⟨narrow, Iff.trans ⟨fun both => ?_, fun near => ?_⟩ centred⟩
  · exact fun phase fret samples member => (both phase fret samples member).1
  · exact fun phase fret samples member =>
      ⟨near phase fret samples member, narrow phase fret samples member⟩

/-- A tone on a fret of the first string, some cents off. -/
def offsetTone (fret : ℕ) (cents : ℚ) : CalibrationObservation :=
  { pureTone fret with midiPitch := some (32 + fret + cents / 100) }

/-- The open string, and three tones on the first fret, where one more cent would be too much for
the later two. -/
def offsetTones : List CalibrationObservation :=
  [offsetTone 0 0, offsetTone 0 0, offsetTone 0 0, offsetTone 1 13, offsetTone 1 12,
    offsetTone 1 12]

/-- The cents of the samples of a window. -/
def windowCents : SweepReport → Option (List ℚ)
  | .contributed _ _ samples => some (samples.map CalibrationSample.cents)
  | _ => none

/-- A window with an observation far off is not centred. -/
theorem not_centred_of_windowCents {log : List SweepReport} {cents : List ℚ} {far : ℚ}
    (window : cents ∈ log.filterMap windowCents) (member : far ∈ cents) (off : ¬ |far| ≤ 12) :
    ¬ OfWindows Centred log := by
  intro centred
  obtain ⟨report, reported, has⟩ := List.mem_filterMap.mp window
  cases report with
  | contributed phase fret samples =>
      rw [← Option.some.inj has] at member
      obtain ⟨sample, inside, rfl⟩ := List.mem_map.mp member
      exact off (centred phase fret samples reported sample inside)
  | heard | reopened => exact absurd has (Option.some_ne_none cents).symm

/-- The window of the example, whose first tone is off. -/
theorem offsetTones_window : [13, 12, 12] ∈
    ((machine id).run { calibrator := startedSweep } offsetTones).2.filterMap windowCents := by
  decide +kernel

/-- A window that a sample of thirteen cents has opened is added to the first fret. -/
theorem offsetTones_uncentred :
    ¬ OfWindows Centred ((machine id).run { calibrator := startedSweep } offsetTones).2 :=
  not_centred_of_windowCents offsetTones_window (List.mem_cons_self ..) (by norm_num)

/-- The window is narrow all the same; it was not opened near its fret. -/
theorem stable_windows_centred_iff_offsetTones :
    OfWindows Narrow ((machine id).run { calibrator := startedSweep } offsetTones).2 ∧
      ¬ (machine id).Meets OpenedNear { calibrator := startedSweep } offsetTones := by
  obtain ⟨narrow, iff⟩ := stable_windows_centred_iff id begin_startedSweep offsetTones
  refine ⟨narrow, fun near => ?_⟩
  refine not_centred_of_windowCents offsetTones_window (List.mem_cons_self ..) (by norm_num) ?_
  exact fun phase fret samples member => (iff.mpr near phase fret samples member).1

end TracedSweep

end M3Midi
