import M3Midi.Calibration.SweepTrace

/-! # What a sweep adds up

The sums of a fret are those over some samples, and the sums over two lists add up to those
over both (`M3Midi.CalibrationAccumulator.merge_sums`). The reports of a trace say which
samples those are (`M3Midi.SweepReport.gathered`).
-/

namespace M3Midi

/-! ## Sums over samples -/

namespace CalibrationAccumulator

variable {samples more : List CalibrationSample}

/-- The sums over some samples. -/
def sums (samples : List CalibrationSample) : CalibrationAccumulator :=
  samples.foldl add {}

/-- The sums with one sample more. -/
theorem sums_concat (samples : List CalibrationSample) (sample : CalibrationSample) :
    sums (samples ++ [sample]) = (sums samples).add sample :=
  List.foldl_concat ..

/-- The count is that of the samples, up to where the counter saturates. -/
theorem count_sums (samples : List CalibrationSample) :
    (sums samples).count = min samples.length counterLimit := by
  induction samples using List.reverseRecOn with
  | nil => rfl
  | append_singleton samples sample ih =>
      rw [sums_concat, List.length_append, List.length_singleton]
      change min ((sums samples).count + 1) counterLimit = _
      rw [ih]
      omega

/-- The counters of the detunings saturate as well. -/
theorem partialDetuningCount_sums_le (samples : List CalibrationSample)
    (harmonic : Fin calibrationHarmonicCount) :
    (sums samples).partialDetuningCount harmonic ≤ counterLimit := by
  induction samples using List.reverseRecOn with
  | nil => exact Nat.zero_le _
  | append_singleton samples sample ih =>
      rw [sums_concat, add]
      dsimp only
      split_ifs
      · exact min_le_right _ _
      · exact ih

/-- As long as the counter has room, a sample is added. -/
theorem addSample_sums (few : samples.length < counterLimit) (sample : CalibrationSample) :
    (sums samples).addSample sample = sums (samples ++ [sample]) := by
  rw [addSample, sums_concat]
  refine if_neg ?_
  rw [count_sums]
  omega

/-- To merge a longer window is to merge the shorter one and to add the last sample. -/
theorem merge_add (accumulator pending : CalibrationAccumulator) (sample : CalibrationSample) :
    accumulator.merge (pending.add sample) = (accumulator.merge pending).add sample := by
  have counts (left right : ℕ) : min (left + min (right + 1) counterLimit) counterLimit =
      min (min (left + right) counterLimit + 1) counterLimit := by omega
  rw [merge, merge, add, add]
  dsimp only
  congr 1
  · exact (add_assoc ..).symm
  · exact (add_assoc ..).symm
  · exact (add_assoc ..).symm
  · exact funext fun _ => (add_assoc ..).symm
  · exact funext fun _ => (add_assoc ..).symm
  · exact funext fun _ => (add_assoc ..).symm
  · exact funext fun _ => (add_assoc ..).symm
  · funext harmonic
    split_ifs
    · exact counts _ _
    · rfl
  · exact counts _ _

/-- The sums over two lists of samples are those over both. -/
theorem merge_sums (samples more : List CalibrationSample) :
    (sums samples).merge (sums more) = sums (samples ++ more) := by
  induction more using List.reverseRecOn with
  | nil =>
      rw [List.append_nil]
      have count : min ((sums samples).count + 0) counterLimit = (sums samples).count := by
        rw [count_sums]
        omega
      have detunings (harmonic : Fin calibrationHarmonicCount) :
          min ((sums samples).partialDetuningCount harmonic + 0) counterLimit =
            (sums samples).partialDetuningCount harmonic :=
        min_eq_left (partialDetuningCount_sums_le samples harmonic)
      change (sums samples).merge {} = _
      rw [merge]
      dsimp only
      simp only [add_zero] at count detunings ⊢
      rw [count, funext detunings]
  | append_singleton more sample ih =>
      rw [sums_concat, merge_add, ih, ← List.append_assoc, sums_concat]

end CalibrationAccumulator

/-! ## What a trace gathers -/

namespace SweepReport

/-- What a report does to the samples that are gathered for a fret in a direction. The last
fret is shared by both. -/
def gather (direction : CalibrationSweepPhase) (fret : ℕ) (gathered : List CalibrationSample) :
    SweepReport → List CalibrationSample
  | .heard sample => if direction = .ascending ∧ fret = 0 then gathered ++ [sample] else gathered
  | .reopened => if direction = .ascending ∧ fret = 0 then [] else gathered
  | .contributed phase reached samples =>
      if reached.val = fret ∧ (phase = direction ∨ fret + 1 = calibrationFretCount) then
        gathered ++ samples
      else gathered

/-- The samples that a trace gathers for a fret in a direction. -/
def gathered (direction : CalibrationSweepPhase) (fret : ℕ) (log : List SweepReport) :
    List CalibrationSample :=
  log.foldl (gather direction fret) []

/-- A report is about samples of its fret, and about enough of them for a window. -/
def Reported (windowObservations : ℕ) : SweepReport → Prop
  | .heard sample => sample.fret.val = 0
  | .reopened => True
  | .contributed _ fret samples =>
      windowObservations ≤ samples.length ∧ ∀ sample ∈ samples, sample.fret = fret

variable {direction : CalibrationSweepPhase} {fret : ℕ} {log : List SweepReport}

/-- What has been gathered for a fret grows with the log. -/
theorem gathered_append (log reports : List SweepReport) :
    gathered direction fret (log ++ reports) =
      reports.foldl (gather direction fret) (gathered direction fret log) :=
  List.foldl_append

/-- An observation of the open string counts for the ascending open string. -/
theorem gathered_heard (log : List SweepReport) (sample : CalibrationSample) :
    gathered direction fret (log ++ [.heard sample]) =
      if direction = .ascending ∧ fret = 0 then gathered direction fret log ++ [sample]
      else gathered direction fret log :=
  gathered_append ..

/-- If the sweep begins anew, nothing counts for it any more. -/
theorem gathered_reopened (log : List SweepReport) (sample : CalibrationSample) :
    gathered direction fret (log ++ [.heard sample, .reopened]) =
      if direction = .ascending ∧ fret = 0 then [] else gathered direction fret log := by
  refine (gathered_append ..).trans ?_
  change gather direction fret (gather direction fret _ (.heard sample)) .reopened = _
  rw [gather, gather]
  split_ifs <;> rfl

/-- A complete window counts for its fret in its direction. The last fret counts for both. -/
theorem gathered_contributed (log : List SweepReport) (phase : CalibrationSweepPhase)
    (reached : Fin calibrationFretCount) (samples : List CalibrationSample) :
    gathered direction fret (log ++ [.contributed phase reached samples]) =
      if reached.val = fret ∧ (phase = direction ∨ fret + 1 = calibrationFretCount) then
        gathered direction fret log ++ samples
      else gathered direction fret log :=
  gathered_append ..

/-- On the way up nothing is gathered for the way down, but at the last fret. -/
theorem gathered_aside {reached fret : Fin calibrationFretCount}
    (apart : fret ≠ reached ∨ reached.val + 1 < calibrationFretCount) (log : List SweepReport)
    (samples : List CalibrationSample) :
    gathered .descending fret (log ++ [.contributed .ascending reached samples]) =
      gathered .descending fret log := by
  rw [gathered_contributed]
  refine if_neg ?_
  rintro ⟨same, up | last⟩
  · exact CalibrationSweepPhase.noConfusion up
  · rcases apart with other | below
    · exact other (Fin.ext same.symm)
    · omega

/-- On the way down nothing is gathered for the way up. -/
theorem gathered_below {reached : Fin calibrationFretCount}
    (below : reached.val + 1 < calibrationFretCount) (fret : ℕ) (log : List SweepReport)
    (samples : List CalibrationSample) :
    gathered .ascending fret (log ++ [.contributed .descending reached samples]) =
      gathered .ascending fret log := by
  rw [gathered_contributed]
  refine if_neg ?_
  rintro ⟨same, down | last⟩
  · exact CalibrationSweepPhase.noConfusion down
  · omega

/-- The directions share what is gathered for the last fret. -/
theorem gathered_last (last : fret + 1 = calibrationFretCount)
    (one two : CalibrationSweepPhase) (log : List SweepReport) :
    gathered one fret log = gathered two fret log := by
  have other : fret ≠ 0 := by
    rintro rfl
    exact absurd last (by decide)
  induction log using List.reverseRecOn with
  | nil => rfl
  | append_singleton log report ih =>
      rw [gathered_append, gathered_append, ih]
      cases report with
      | heard sample =>
          exact (if_neg fun opens => other opens.2).trans (if_neg fun opens => other opens.2).symm
      | reopened =>
          exact (if_neg fun opens => other opens.2).trans (if_neg fun opens => other opens.2).symm
      | contributed phase reached samples =>
          rw [List.foldl_cons, List.foldl_cons, List.foldl_nil, List.foldl_nil, gather, gather]
          by_cases about : reached.val = fret
          · rw [if_pos ⟨about, .inr last⟩, if_pos ⟨about, .inr last⟩]
          · rw [if_neg fun both => about both.1, if_neg fun both => about both.1]

/-- Only samples of a fret are gathered for it. By induction on the log, report by report. -/
theorem fret_of_mem_gathered {windowObservations : ℕ}
    (reported : ∀ report ∈ log, Reported windowObservations report) :
    ∀ sample ∈ gathered direction fret log, sample.fret.val = fret := by
  induction log using List.reverseRecOn with
  | nil => exact fun _ member => absurd member List.not_mem_nil
  | append_singleton log report ih =>
      have before := ih fun earlier member => reported earlier (List.mem_append_left _ member)
      have last := reported report (List.mem_append_right _ (List.mem_singleton_self _))
      rw [gathered_append]
      change ∀ sample ∈ gather direction fret _ report, _
      cases report with
      | heard sample =>
          rw [gather]
          split_ifs with opens
          · intro other member
            rcases List.mem_append.mp member with earlier | new
            · exact before other earlier
            · rw [List.mem_singleton.mp new, opens.2]
              exact last
          · exact before
      | reopened =>
          rw [gather]
          split_ifs
          · exact fun _ member => absurd member List.not_mem_nil
          · exact before
      | contributed phase reached samples =>
          rw [gather]
          split_ifs with about
          · intro other member
            rcases List.mem_append.mp member with earlier | new
            · exact before other earlier
            · rw [last.2 other new, about.1]
          · exact before

end SweepReport

end M3Midi
