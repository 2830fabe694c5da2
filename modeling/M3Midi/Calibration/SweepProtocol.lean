import M3Midi.Calibration.SweepBank
import M3Midi.Calibration.SweepSound

/-! # The protocol of a sweep

A sweep goes up and down the frets by the windows that are reported, and writes only what
is requested. When it is complete, every point is measured from what was gathered for it in
both directions, or lies between two such points.
-/

namespace M3Midi

open Foundation

/-! ## The way of a sweep -/

/-- One step of a sweep, from a phase and a requested fret to the next. -/
inductive SweepMove : CalibrationSweepPhase × ℕ → CalibrationSweepPhase × ℕ → Prop
  | locks : SweepMove (.waitingOpen, 0) (.ascending, 1)
  | climbs (fret : ℕ) (begun : 1 ≤ fret) (below : fret + 1 < calibrationFretCount) :
      SweepMove (.ascending, fret) (.ascending, fret + 1)
  | turns : SweepMove (.ascending, calibrationFretCount - 1)
      (.descending, calibrationFretCount - 2)
  | falls (fret : ℕ) (below : fret + 2 < calibrationFretCount) :
      SweepMove (.descending, fret + 1) (.descending, fret)
  | completes : SweepMove (.descending, 0) (.complete, 0)
  | fails : SweepMove (.descending, 0) (.insufficient, 0)

/-! ## Points between measured ones -/

namespace StringPoints

variable {measured points : StringPoints}

/-- The search up does not go beyond the last fret. -/
theorem rightOf_le (points : StringPoints) (above : ℕ) :
    points.rightOf above ≤ calibrationFretCount - 1 := by
  induction above with
  | zero => exact le_rfl
  | succ above ih =>
      rw [rightOf]
      split_ifs
      · exact Nat.sub_le _ _
      · exact ih

/-- A point lies between two others on the string. -/
def LiesBetween (measured : StringPoints) (fret : ℕ) (point : StringCalibrationPoint) : Prop :=
  ∃ left right : ℕ, left < fret ∧ fret < right ∧ right < calibrationFretCount ∧
    measured.measuredAt left = true ∧ measured.measuredAt right = true ∧
    point = interpolatedPoint (measured.pointAt left) (measured.pointAt right)
      ((fret - left : ℕ) / (right - left : ℕ))

/-- The measured points are kept, and those so far that were not measured lie between them. -/
structure BetweenTo (measured : StringPoints) (frets : ℕ) (points : StringPoints) : Prop where
  kept : ∀ fret, points.measuredAt fret = measured.measuredAt fret
  same : ∀ fret, measured.measuredAt fret = true → points.pointAt fret = measured.pointAt fret
  between : ∀ fret < frets, measured.measuredAt fret = false →
    LiesBetween measured fret (points.pointAt fret)

/-- One turn of the loop puts one point between measured ones. It lies between the nearest measured
frets on both sides, in proportion to its distance from them. -/
theorem BetweenTo.interpolateFret (first : measured.measuredAt 0 = true)
    (last : measured.measuredAt (calibrationFretCount - 1) = true)
    {interpolation : StringPoints × ℕ} {fret : ℕ} (within : fret ≤ calibrationFretCount - 1)
    (so : BetweenTo measured fret interpolation.1) :
    BetweenTo measured (fret + 1) (interpolateFret interpolation fret).1 := by
  rw [StringPoints.interpolateFret]
  dsimp only
  cases here : interpolation.1.measuredAt fret with
  | true =>
      refine ⟨so.kept, so.same, fun other below unmeasured => ?_⟩
      rcases Nat.lt_succ_iff_lt_or_eq.mp below with before | rfl
      · exact so.between other before unmeasured
      · rw [so.kept, unmeasured] at here
        exact absurd here Bool.false_ne_true
  | false =>
      obtain ⟨leftLe, leftMeasured⟩ := leftOf_spec ((so.kept 0).trans first) fret
      obtain ⟨rightGe, rightMeasured⟩ :=
        rightOf_spec ((so.kept _).trans last) (calibrationFretCount - 1 - fret)
      have rightLe := rightOf_le interpolation.1 (calibrationFretCount - 1 - fret)
      rw [Nat.sub_sub_self within] at rightGe
      have before : interpolation.1.leftOf fret < fret := by
        refine lt_of_le_of_ne leftLe fun same => ?_
        rw [same, here] at leftMeasured
        exact Bool.false_ne_true leftMeasured
      have after : fret < interpolation.1.rightOf (calibrationFretCount - 1 - fret) := by
        refine lt_of_le_of_ne rightGe fun same => ?_
        rw [← same, here] at rightMeasured
        exact Bool.false_ne_true rightMeasured
      rw [if_neg Bool.false_ne_true,
        if_pos ⟨leftMeasured, rightMeasured, before.trans after⟩]
      generalize interpolation.1.leftOf fret = left at *
      generalize interpolation.1.rightOf (calibrationFretCount - 1 - fret) = right at *
      have frets : calibrationFretCount = 25 := rfl
      have unmeasured : measured.measuredAt fret = false := (so.kept fret).symm.trans here
      have alike {other : ℕ} (same : Fin.ofNat calibrationFretCount other =
          Fin.ofNat calibrationFretCount fret) :
          measured.measuredAt other = measured.measuredAt fret := by
        rw [measuredAt, measuredAt, pointAt, pointAt, same]
      rw [so.kept] at leftMeasured rightMeasured
      constructor
      · intro other
        rw [← so.kept other, measuredAt, pointAt_update]
        split_ifs with same
        · rw [so.kept, alike same, unmeasured]
          exact decide_eq_false CalibrationPointQuality.noConfusion
        · rfl
      · intro other otherMeasured
        rw [pointAt_update, if_neg, so.same other otherMeasured]
        intro same
        rw [alike same, unmeasured] at otherMeasured
        exact Bool.false_ne_true otherMeasured
      · intro other below otherUnmeasured
        rw [pointAt_update]
        split_ifs with same
        · have modulo : other % 25 = fret % 25 := congrArg Fin.val same
          obtain rfl : other = fret := by omega
          refine ⟨left, right, before, after, by omega, leftMeasured, rightMeasured, ?_⟩
          rw [so.same left leftMeasured, so.same right rightMeasured]
        · refine so.between other (lt_of_le_of_ne (Nat.lt_succ_iff.mp below) ?_) otherUnmeasured
          rintro rfl
          exact same rfl

/-- With both ends measured, a point that is not measured lies between two that are. -/
theorem interpolate_between (first : points.measuredAt 0 = true)
    (last : points.measuredAt (calibrationFretCount - 1) = true) :
    BetweenTo points calibrationFretCount points.interpolate.1 := by
  have frets : calibrationFretCount = 25 := rfl
  have loop : ∀ count ≤ calibrationFretCount - 2, BetweenTo points (1 + count)
      ((List.range' 1 count).foldl interpolateFret (points, 0)).1 := by
    intro count within
    induction count with
    | zero =>
        refine ⟨fun _ => rfl, fun _ _ => rfl, fun other below unmeasured => ?_⟩
        obtain rfl : other = 0 := Nat.lt_one_iff.mp below
        rw [first] at unmeasured
        exact absurd unmeasured.symm Bool.false_ne_true
    | succ count ih =>
        rw [List.range'_1_concat, List.foldl_concat]
        have inside : 1 + count ≤ calibrationFretCount - 1 := by omega
        exact (ih (Nat.le_of_succ_le within)).interpolateFret first last inside
  have filled : BetweenTo points (1 + (calibrationFretCount - 2)) points.interpolate.1 := by
    rw [interpolate]
    exact loop _ le_rfl
  refine ⟨filled.kept, filled.same, fun other below unmeasured => ?_⟩
  rcases Nat.lt_or_ge other (1 + (calibrationFretCount - 2)) with inside | top
  · exact filled.between other inside unmeasured
  · have final : other = calibrationFretCount - 1 := by omega
    rw [final, last] at unmeasured
    exact absurd unmeasured.symm Bool.false_ne_true

/-- What lies between measured points lies between them in the result, too. -/
theorem BetweenTo.liesBetween (so : BetweenTo measured calibrationFretCount points) {fret : ℕ}
    (inside : fret < calibrationFretCount) (unmeasured : measured.measuredAt fret = false) :
    LiesBetween points fret (points.pointAt fret) := by
  obtain ⟨left, right, before, after, within, leftMeasured, rightMeasured, lies⟩ :=
    so.between fret inside unmeasured
  refine ⟨left, right, before, after, within, ?_, ?_, ?_⟩
  · rw [so.kept, leftMeasured]
  · rw [so.kept, rightMeasured]
  · rw [so.same left leftMeasured, so.same right rightMeasured]
    exact lies

end StringPoints

/-! ## The moves of a sweep -/

namespace TracedSweep

open CalibrationAccumulator SweepReport SweepCalibrator

variable {sqrt : ℚ → ℚ} {traced before after : TracedSweep} {log reports : List SweepReport}
  {sample : CalibrationSample} {accepted : Bool}

/-- What an observation does to the position: nothing, or a move by the open string or by a
window. -/
def Advances (log : List SweepReport) (before after : TracedSweep) (reports : List SweepReport) :
    Prop :=
  let status := before.calibrator.status
  let windows := ∃ phase fret samples, SweepReport.contributed phase fret samples ∈ reports
  (¬ windows ∧ after.calibrator.position = before.calibrator.position) ∨
    (SweepMove before.calibrator.position after.calibrator.position ∧
      ((¬ windows ∧ status.phase = .waitingOpen ∧
          (gathered .ascending 0 (log ++ reports)).length =
            before.calibrator.openLockObservations) ∨
        ∃ fret samples, reports = [.contributed status.phase fret samples] ∧
          status.phase ≠ .waitingOpen ∧ fret.val = status.requestedFret ∧
          before.calibrator.stableWindowObservations ≤ samples.length ∧
          ∀ sample ∈ samples, sample.fret = fret))

/-- Sums are changed for the requested fret in the present direction only; those of the last fret
are copied once, at the turn. -/
def WritesRequested (before after : SweepCalibrator) : Prop :=
  (∀ fret, after.ascending fret ≠ before.ascending fret →
      fret.val = before.status.requestedFret ∧
        (before.status.phase = .waitingOpen ∨ before.status.phase = .ascending)) ∧
    ∀ fret, after.descending fret ≠ before.descending fret →
      fret.val = before.status.requestedFret ∧
        (before.status.phase = .descending ∨
          before.status.phase = .ascending ∧ after.status.phase = .descending ∧
            fret.val + 1 = calibrationFretCount ∧ after.descending fret = after.ascending fret)

/-- Only the window and the rejected observations differ. -/
def RejectedOnly (before after : SweepCalibrator) : Prop :=
  after =
    { before with
      stableWindow := after.stableWindow
      status :=
        { before.status with rejectedObservations := after.status.rejectedObservations } }

/-- The move of a sample that completes a window. -/
theorem Completes.move (completes : Completes sqrt log before sample)
    (direction : before.calibrator.status.phase = .ascending ∨
      before.calibrator.status.phase = .descending) :
    SweepMove before.calibrator.position (before.calibrator.completed sqrt sample).position := by
  have path := completes.sound.path
  have frets : calibrationFretCount = 25 := rfl
  have inside := sample.fret.isLt
  rcases direction with ascends | descends
  · have here : before.calibrator.position = (.ascending, sample.fret.val) := by
      rw [position, ascends, completes.requested]
    rw [here] at path ⊢
    by_cases below : sample.fret.val + 1 < calibrationFretCount
    · rw [completed_climbs completes.fresh ascends below]
      change SweepMove _ (before.calibrator.status.phase, sample.fret.val + 1)
      rw [ascends]
      exact .climbs _ path.1 below
    · rw [completed_turns completes.fresh ascends below]
      change SweepMove _ (.descending, sample.fret.val - 1)
      have top : sample.fret.val = calibrationFretCount - 1 := by omega
      rw [top]
      exact .turns
  · have here : before.calibrator.position = (.descending, sample.fret.val) := by
      rw [position, descends, completes.requested]
    rw [here]
    by_cases opens : sample.fret.val = 0
    · rw [completed_ends completes.fresh descends opens]
      obtain ⟨-, -, requested, ends⟩ := finalize_cases sqrt (before.calibrator.addedDown sample)
      change SweepMove _ (((before.calibrator.addedDown sample).finalize sqrt).status.phase,
        ((before.calibrator.addedDown sample).finalize sqrt).status.requestedFret)
      have zero : ((before.calibrator.addedDown sample).finalize sqrt).status.requestedFret = 0 :=
        requested.trans (completes.requested.symm.trans opens)
      rw [opens, zero]
      rcases ends with fails | ⟨complete, -⟩
      · rw [fails]
        exact .fails
      · rw [complete]
        exact .completes
    · have below := completes.below descends
      rw [completed_falls completes.fresh descends opens]
      change SweepMove _ (before.calibrator.status.phase, sample.fret.val - 1)
      rw [descends]
      obtain ⟨fret, follows⟩ := Nat.exists_eq_succ_of_ne_zero opens
      rw [follows] at below ⊢
      exact .falls fret below

/-- A step of the sweep advances it in the way of the protocol. The cases are those of the step:
nothing, the open string, a growing window or a complete one. -/
theorem Step.advances (step : Step sqrt before accepted after reports)
    (sound : before.Sound sqrt log) : Advances log before after reports := by
  have kept {calibrator : SweepCalibrator} (kept : Kept before.calibrator calibrator) :
      calibrator.position = before.calibrator.position := by
    rw [position, position, kept.phase, kept.requestedFret]
  cases step with
  | rejects =>
      refine .inl ⟨?_, kept (kept_reject _)⟩
      rintro ⟨_, _, _, member⟩
      exact List.not_mem_nil member
  | strays =>
      obtain ⟨bank, up, down, string, phase, requested, window, lock⟩ :=
        kept_reject { before.calibrator with stableWindow := {} }
      refine .inl ⟨?_, kept ⟨bank, up, down, string, phase, requested, window, lock⟩⟩
      rintro ⟨_, _, _, member⟩
      exact List.not_mem_nil member
  | hears sample waits opens few =>
      refine .inl ⟨?_, rfl⟩
      rintro ⟨_, _, _, member⟩
      exact SweepReport.noConfusion (List.mem_singleton.mp member)
  | locks sample waits opens enough =>
      have path := sound.path
      have few := sound.waits waits
      rw [count_heard sound waits opens] at enough
      rw [position, waits] at path
      refine .inr ⟨?_, .inl ⟨?_, waits, ?_⟩⟩
      · have here : before.calibrator.position = (.waitingOpen, 0) := by
          rw [position, waits, show before.calibrator.status.requestedFret = 0 from path]
        rw [here]
        exact .locks
      · rintro ⟨_, _, _, member⟩
        exact SweepReport.noConfusion (List.mem_singleton.mp member)
      · rw [gathered_heard, if_pos ⟨rfl, rfl⟩, List.length_append, List.length_singleton]
        omega
  | reopens sample waits opens =>
      refine .inl ⟨?_, rfl⟩
      rintro ⟨_, _, _, member⟩
      rcases List.mem_cons.mp member with first | second
      · exact SweepReport.noConfusion first
      · exact SweepReport.noConfusion (List.mem_singleton.mp second)
  | grows sample active past requested keeps few =>
      refine .inl ⟨?_, rfl⟩
      rintro ⟨_, _, _, member⟩
      exact List.not_mem_nil member
  | completes sample active past requested keeps enough =>
      have completes : Completes sqrt log before sample := ⟨sound, requested, keeps, enough⟩
      exact .inr ⟨completes.move (direction_cases active past), .inr ⟨sample.fret, _, rfl, past,
        requested, completes.window⟩⟩
  | opens sample active past requested =>
      refine .inl ⟨?_, rfl⟩
      rintro ⟨_, _, _, member⟩
      exact List.not_mem_nil member

/-- An observation that is not accepted leaves all but the window and its counter. -/
theorem Step.rejectedOnly (step : Step sqrt before accepted after reports)
    (refused : accepted = false) : RejectedOnly before.calibrator after.calibrator := by
  cases step with
  | rejects =>
      rw [RejectedOnly, reject]
      dsimp only
      split_ifs <;> rfl
  | strays =>
      rw [RejectedOnly, reject]
      dsimp only
      split_ifs <;> rfl
  | hears | locks | reopens | grows | completes | opens => exact Bool.noConfusion refused

/-- Sums change only at the fret of a sample. -/
theorem merged_of_ne {calibrator : SweepCalibrator}
    {sums' : Fin calibrationFretCount → CalibrationAccumulator} {fret : Fin calibrationFretCount}
    (changed : calibrator.merged sums' sample fret ≠ sums' fret) : fret = sample.fret := by
  by_contra other
  exact changed (Function.update_of_ne other _ _)

/-- A window that is completed writes to the requested fret only. -/
theorem Completes.writes (completes : Completes sqrt log before sample)
    (direction : before.calibrator.status.phase = .ascending ∨
      before.calibrator.status.phase = .descending) :
    WritesRequested before.calibrator (before.calibrator.completed sqrt sample) := by
  have requested {fret : Fin calibrationFretCount} (same : fret = sample.fret) :
      fret.val = before.calibrator.status.requestedFret := by
    rw [same]
    exact completes.requested
  rcases direction with ascends | descends
  · by_cases below : sample.fret.val + 1 < calibrationFretCount
    · rw [completed_climbs completes.fresh ascends below]
      refine ⟨fun fret changed => ⟨requested (merged_of_ne changed), .inr ascends⟩, ?_⟩
      exact fun fret changed => absurd rfl changed
    · have top : sample.fret.val + 1 = calibrationFretCount := by
        have inside := sample.fret.isLt
        omega
      rw [completed_turns completes.fresh ascends below]
      refine ⟨fun fret changed => ⟨requested (merged_of_ne changed), .inr ascends⟩, ?_⟩
      intro fret changed
      have same : fret = sample.fret := by
        by_contra other
        exact changed (Function.update_of_ne other _ _)
      subst same
      exact ⟨completes.requested, .inr ⟨ascends, rfl, top, Function.update_self ..⟩⟩
  · by_cases opens : sample.fret.val = 0
    · rw [completed_ends completes.fresh descends opens]
      obtain ⟨⟨up, down⟩, -, -, -⟩ := finalize_cases sqrt (before.calibrator.addedDown sample)
      refine ⟨fun fret changed => absurd (congrFun up fret) changed, fun fret changed => ?_⟩
      have differs : before.calibrator.merged before.calibrator.descending sample fret ≠
          before.calibrator.descending fret :=
        fun same => changed ((congrFun down fret).trans same)
      exact ⟨requested (merged_of_ne differs), .inl descends⟩
    · rw [completed_falls completes.fresh descends opens]
      refine ⟨fun fret changed => absurd rfl changed, fun fret changed => ?_⟩
      exact ⟨requested (merged_of_ne changed), .inl descends⟩

/-- Sums are written for what is requested. -/
theorem Step.writesRequested (step : Step sqrt before accepted after reports)
    (sound : before.Sound sqrt log) :
    WritesRequested before.calibrator after.calibrator := by
  have kept {calibrator : SweepCalibrator} (up : calibrator.ascending = before.calibrator.ascending)
      (down : calibrator.descending = before.calibrator.descending) :
      WritesRequested before.calibrator calibrator :=
    ⟨fun fret changed => absurd (congrFun up fret) changed,
      fun fret changed => absurd (congrFun down fret) changed⟩
  have awaited {sample : CalibrationSample} {sums : CalibrationAccumulator}
      (waits : before.calibrator.status.phase = .waitingOpen) (opens : sample.fret.val = 0)
      {fret : Fin calibrationFretCount}
      (changed : Function.update before.calibrator.ascending sample.fret sums fret ≠
        before.calibrator.ascending fret) :
      fret.val = before.calibrator.status.requestedFret ∧
        (before.calibrator.status.phase = .waitingOpen ∨
          before.calibrator.status.phase = .ascending) := by
    have path := sound.path
    rw [position, waits] at path
    have zero : before.calibrator.status.requestedFret = 0 := path
    have same : fret = sample.fret := by
      by_contra other
      exact changed (Function.update_of_ne other _ _)
    rw [same, opens, zero]
    exact ⟨rfl, .inl waits⟩
  cases step with
  | rejects => exact kept (kept_reject _).ascending (kept_reject _).descending
  | strays =>
      have same := kept_reject { before.calibrator with stableWindow := {} }
      exact kept same.ascending same.descending
  | hears sample waits opens few =>
      exact ⟨fun fret => awaited waits opens, fun fret changed => absurd rfl changed⟩
  | locks sample waits opens enough =>
      exact ⟨fun fret => awaited waits opens, fun fret changed => absurd rfl changed⟩
  | reopens sample waits opens =>
      exact ⟨fun fret => awaited waits opens, fun fret changed => absurd rfl changed⟩
  | grows => exact kept rfl rfl
  | completes sample active past requested keeps enough =>
      have completes : Completes sqrt log before sample := ⟨sound, requested, keeps, enough⟩
      exact completes.writes (direction_cases active past)
  | opens => exact kept rfl rfl

/-! ## The samples of a sweep -/

/-- What an observation reports and keeps in the window was kept before, or is its sample. -/
theorem observe_sublist (sound : before.Sound sqrt log) (observation : CalibrationObservation) :
    ((before.observe sqrt observation).2.flatMap SweepReport.samples ++
        (before.observe sqrt observation).1.samples).Sublist
      (before.samples ++
        (observation.sample before.calibrator.status.stringIndex).toList) := by
  rw [observe]
  cases took : before.calibrator.taken observation with
  | none => exact List.sublist_append_left ..
  | some sample =>
      have sampled : observation.sample before.calibrator.status.stringIndex = some sample := by
        rw [taken] at took
        split_ifs at took
        exact took
      rw [sampled]
      dsimp only
      by_cases waits : before.calibrator.status.phase = .waitingOpen
      · rw [if_pos waits, (samples_waiting sound waits).2, openReports]
        dsimp only
        split_ifs
        · exact List.nil_sublist _
        · exact List.Sublist.refl _
        · exact List.Sublist.refl _
      · rw [if_neg waits]
        cases before.calibrator.fretTurn sample with
        | unrequested => exact List.nil_sublist _
        | untuned => exact List.sublist_append_left ..
        | grows => exact List.Sublist.refl _
        | completes =>
            change ((before.samples ++ [sample]) ++ [] ++ []).Sublist (before.samples ++ [sample])
            rw [List.append_nil, List.append_nil]
        | opens => exact List.sublist_append_right ..

/-- An observation does not change the string of the sweep. -/
theorem observe_stringIndex (traced : TracedSweep) (observation : CalibrationObservation) :
    (traced.observe sqrt observation).1.calibrator.status.stringIndex =
      traced.calibrator.status.stringIndex := by
  rw [observe_calibrator]
  obtain ⟨evidence, -, comes⟩ := observe_follows sqrt traced.calibrator observation
  refine (congrArg StringSweepCalibrator.stringIndex comes).trans ?_
  rw [StringSweepCalibrator.observe.eq_def]
  split_ifs
  · cases evidence <;> rfl
  · rfl

/-- The samples of a sweep are those of its observations, in their order and at most once. -/
theorem run_sublist {start : TracedSweep} (sound : start.Sound sqrt []) (empty : start.samples = [])
    (observations : List CalibrationObservation) :
    (((machine sqrt).run start observations).2.flatMap SweepReport.samples ++
        ((machine sqrt).run start observations).1.samples).Sublist
      (observations.filterMap (·.sample start.calibrator.status.stringIndex)) ∧
    ((machine sqrt).run start observations).1.calibrator.status.stringIndex =
      start.calibrator.status.stringIndex := by
  induction observations using List.reverseRecOn with
  | nil =>
      rw [(machine sqrt).run_nil]
      refine ⟨?_, rfl⟩
      rw [empty]
      exact List.Sublist.refl _
  | append_singleton observations observation ih =>
      obtain ⟨before, string⟩ := ih
      have reached := (machine sqrt).run_invariant (fun _ traced observation sound =>
        (observe_step traced observation).sound sound) sound observations
      have step := observe_sublist reached observation
      rw [string] at step
      rw [(machine sqrt).run_concat]
      refine ⟨?_, (observe_stringIndex _ observation).trans string⟩
      rw [List.flatMap_append, List.append_assoc, List.filterMap_append]
      refine (List.Sublist.append_left step _).trans ?_
      rw [← List.append_assoc]
      refine List.Sublist.append before ?_
      rw [List.filterMap_cons]
      cases observation.sample start.calibrator.status.stringIndex <;> exact List.Sublist.refl _

/-! ## The points of a complete sweep -/

/-- A point is measured from at least three samples of its fret in each direction. -/
def MeasuredFrom (sqrt : ℚ → ℚ) (log : List SweepReport) (fret : Fin calibrationFretCount)
    (point : StringCalibrationPoint) : Prop :=
  let up := gathered .ascending fret log
  let down := gathered .descending fret log
  minimumObservationsPerDirection ≤ up.length ∧ minimumObservationsPerDirection ≤ down.length ∧
    (∀ sample ∈ up ++ down, sample.fret = fret) ∧
    point = FretDirections.measuredPoint ⟨sums up, sums down⟩ sqrt

/-- A measured fret of a complete sweep has been measured from its windows. -/
theorem Sound.measuredFrom (sound : traced.Sound sqrt log)
    (complete : traced.calibrator.status.phase = .complete) (fret : Fin calibrationFretCount)
    (measured : (traced.calibrator.measuredPoints sqrt fret).quality = .measured) :
    MeasuredFrom sqrt log fret (traced.calibrator.measuredPoints sqrt fret) := by
  have copied : ¬ Uncopied traced.calibrator fret := by
    rw [Uncopied, complete]
    rintro ⟨-, waits | ascends⟩
    · exact CalibrationSweepPhase.noConfusion waits
    · exact CalibrationSweepPhase.noConfusion ascends
  rw [measuredPoints, sound.up, sound.down fret copied] at measured ⊢
  rw [FretDirections.point] at measured ⊢
  split_ifs at measured ⊢ with measures
  · rw [FretDirections.measures, Bool.and_eq_true, Bool.and_eq_true, Bool.and_eq_true] at measures
    have up := of_decide_eq_true measures.1.1.1
    have down := of_decide_eq_true measures.1.1.2
    rw [count_sums] at up down
    refine ⟨up.trans (min_le_left _ _), down.trans (min_le_left _ _), ?_, rfl⟩
    intro sample member
    refine Fin.ext ?_
    rcases List.mem_append.mp member with gathers | gathers
    · exact fret_of_mem_gathered sound.reported sample gathers
    · exact fret_of_mem_gathered sound.reported sample gathers

/-- When a sweep is complete, a point is measured or lies between measured ones. Measured points
come from the sums, and the others from the interpolation between them. -/
theorem Sound.complete_points (sound : traced.Sound sqrt log)
    (complete : traced.calibrator.status.phase = .complete) (fret : Fin calibrationFretCount) :
    let points := traced.calibrator.bank.points traced.calibrator.status.stringIndex
    ((points fret).quality = .measured ∧ MeasuredFrom sqrt log fret (points fret)) ∨
      ((points fret).quality = .interpolated ∧ (points fret).observationCount = 0 ∧
        StringPoints.LiesBetween points fret (points fret)) := by
  dsimp only
  obtain ⟨first, last, bank⟩ := sound.ended complete
  have so := StringPoints.interpolate_between first last
  rw [← bank] at so
  have named (string : StringPoints) : string.pointAt fret = string fret :=
    congrArg string (Fin.ext (Nat.mod_eq_of_lt fret.isLt))
  cases measured : (traced.calibrator.measuredPoints sqrt).measuredAt fret with
  | true =>
      have quality := StringPoints.measuredAt_iff.mp measured
      have same := so.same fret measured
      rw [named, named] at same
      rw [named] at quality
      refine .inl ?_
      rw [same]
      exact ⟨quality, sound.measuredFrom complete fret quality⟩
  | false =>
      have lies := so.liesBetween fret.isLt measured
      rw [named] at lies
      obtain ⟨left, right, -, -, -, -, -, point⟩ := id lies
      refine .inr ⟨?_, ?_, lies⟩
      · rw [point]
        rfl
      · rw [point]
        rfl

/-- A sweep at any rate that `begin` accepts, after any observations. Its samples are those that
were observed; an observation moves it along its way by the samples that lock the open string or
by a window of the requested fret, changes next to nothing when it is refused, and writes only
the sums that are requested. When the sweep is complete, each point is measured from three
samples or more in each direction, or lies between two measured ones. -/
theorem sweep_protocol (sqrt : ℚ → ℚ) {calibrator start : SweepCalibrator} {stringIndex : ℕ}
    {rate : Option ℚ} (starts : calibrator.begin stringIndex rate = (true, start))
    (observations : List CalibrationObservation) :
    let reached := (machine sqrt).run { calibrator := start } observations
    let sweep := reached.1.calibrator
    sweep = ((SweepCalibrator.machine sqrt).run start (observations.map .observe)).1 ∧
      (reached.2.flatMap SweepReport.samples).Sublist
        (observations.filterMap (·.sample start.status.stringIndex)) ∧
      (∀ observation,
        let next := reached.1.observe sqrt observation
        next.1.calibrator = (sweep.observe sqrt observation).2 ∧
          Advances reached.2 reached.1 next.1 next.2 ∧
          ((sweep.observe sqrt observation).1 = false →
            RejectedOnly sweep next.1.calibrator) ∧
          WritesRequested sweep next.1.calibrator) ∧
      (sweep.status.phase = .complete → ∀ fret,
        let points := sweep.bank.points sweep.status.stringIndex
        ((points fret).quality = .measured ∧ MeasuredFrom sqrt reached.2 fret (points fret)) ∨
          ((points fret).quality = .interpolated ∧ (points fret).observationCount = 0 ∧
            StringPoints.LiesBetween points fret (points fret))) := by
  intro reached sweep
  have sound : Sound sqrt reached.2 reached.1 := sound_run starts observations
  have samples := (@run_sublist sqrt _ (sound_begin starts) rfl observations).1
  refine ⟨run_calibrator _ observations, (List.sublist_append_left ..).trans samples, ?_,
    fun complete => sound.complete_points complete⟩
  intro observation next
  have step := @observe_step sqrt reached.1 observation
  exact ⟨observe_calibrator reached.1 observation, step.advances sound, step.rejectedOnly,
    step.writesRequested sound⟩

/-- Three observations of each fret of the first string, up and down. -/
def fretTones : List CalibrationObservation :=
  (List.range calibrationFretCount ++ (List.range (calibrationFretCount - 1)).reverse).flatMap
    fun fret => List.replicate 3 (SweepCalibrator.pureTone fret)

/-- The sweep of the first string at thirty observations a second. -/
def startedSweep : SweepCalibrator := (({} : SweepCalibrator).begin 0 (some 30)).2

/-- The example's sweep has begun. -/
theorem begin_startedSweep : ({} : SweepCalibrator).begin 0 (some 30) = (true, startedSweep) :=
  have accepted : (({} : SweepCalibrator).begin 0 (some 30)).1 = true := by decide +kernel
  Prod.mk.eta.symm.trans (congrArg (fun answer => (answer, startedSweep)) accepted)

/-- There three observations of each fret complete the sweep, with every point measured. -/
theorem sweep_protocol_fretTones :
    let reached := (machine id).run { calibrator := startedSweep } fretTones
    let sweep := reached.1.calibrator
    sweep.status.phase = .complete ∧
      ∀ fret, MeasuredFrom id reached.2 fret
        (sweep.bank.points sweep.status.stringIndex fret) := by
  have complete : ((machine id).run { calibrator := startedSweep } fretTones).1.calibrator.status.phase
      = .complete := by
    decide +kernel
  have measured : ∀ fret,
      (((machine id).run { calibrator := startedSweep } fretTones).1.calibrator.bank.points
        ((machine id).run { calibrator := startedSweep } fretTones).1.calibrator.status.stringIndex
        fret).quality = .measured := by
    decide +kernel
  have points := (sweep_protocol id begin_startedSweep fretTones).2.2.2
  dsimp only at points ⊢
  generalize (machine id).run { calibrator := startedSweep } fretTones = reached at *
  refine ⟨complete, fun fret => ?_⟩
  rcases points complete fret with ⟨-, gathers⟩ | ⟨interpolated, -⟩
  · exact gathers
  · exact CalibrationPointQuality.noConfusion ((measured fret).symm.trans interpolated)

/-- At one observation a second a single sample locks the open string, while a window takes
three. -/
theorem locks_below_window :
    let start := (({} : SweepCalibrator).begin 0 (some 1)).2
    let next := TracedSweep.observe id { calibrator := start } (SweepCalibrator.pureTone 0)
    (({} : SweepCalibrator).begin 0 (some 1)).1 = true ∧
      start.position = (.waitingOpen, 0) ∧ next.1.calibrator.position = (.ascending, 1) ∧
      (next.2.flatMap SweepReport.samples).length < start.stableWindowObservations := by
  decide +kernel

end TracedSweep

end M3Midi
