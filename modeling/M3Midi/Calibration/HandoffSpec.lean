import M3Midi.Calibration.HandoffStep

/-! # Which bank a project may be saved with

What counts is the bank that was restored last and the banks that were published since
the audio thread applied it. The calls of both threads keep to this: a thread's part is
in order when its generation says which restore it has seen.
-/

namespace M3Midi

open Foundation

/-- The restores so far, the bank of the last one, whether the audio thread has applied
it, and the banks it has published since. -/
structure HandoffSpec where
  restores : Nat := 0
  latest : StringCalibrationBank
  applied : Bool := true
  published : List StringCalibrationBank

namespace HandoffSpec

/-- A bank is published; it counts when the last restore has been applied. -/
def publish (spec : HandoffSpec) (applied : Bool) (bank : StringCalibrationBank) : HandoffSpec :=
  { spec with
    applied
    published := if applied then spec.published ++ [bank] else spec.published }

/-- The specification after one more report. -/
def after (spec : HandoffSpec) : HandoffReport → HandoffSpec
  | .restored bank _ =>
      { restores := spec.restores + 1, latest := bank, applied := false, published := [] }
  | .written _ => spec
  | .applied bank generation =>
      spec.publish (generation = BitVec.ofNat 32 spec.restores) bank
  | .cleared bank _ | .swept bank _ => spec.publish spec.applied bank

/-- The banks agree, their partial detunings apart. -/
def Agrees (first second : StringCalibrationBank) : Prop := transported first = transported second

/-- A project may be saved with the bank. -/
def Allows (spec : HandoffSpec) (bank : StringCalibrationBank) : Prop :=
  bank = spec.latest ∨ ∃ published ∈ spec.published, Agrees bank published

end HandoffSpec

/-- What the reports so far come to. -/
def handoffSpec (factory : StringCalibrationBank) (log : List HandoffReport) : HandoffSpec :=
  log.foldl HandoffSpec.after { latest := factory, published := [factory] }

/-- The report of a bank that the audio thread has published. -/
def HandoffReport.publishes : HandoffReport → Bool
  | .applied _ _ | .cleared _ _ | .swept _ _ => true
  | _ => false

/-- The report of a bank that the main thread restores. -/
def HandoffReport.restores : HandoffReport → Bool
  | .restored _ _ => true
  | _ => false

section Spec

variable {factory : StringCalibrationBank} {log : List HandoffReport} {report : HandoffReport}
  {spec : HandoffSpec} {bank : StringCalibrationBank}

/-- The specification of a log grows with the log. -/
theorem handoffSpec_concat :
    handoffSpec factory (log ++ [report]) = (handoffSpec factory log).after report := by
  unfold handoffSpec
  rw [List.foldl_append]
  rfl

/-- A publication is no restore. -/
theorem HandoffSpec.restores_after (published : report.publishes = true) :
    (spec.after report).restores = spec.restores := by
  cases report <;> first | rfl | exact absurd published (by simp [HandoffReport.publishes])

/-- The specification counts the restores of the log. -/
theorem handoffSpec_restores :
    (handoffSpec factory log).restores = log.countP HandoffReport.restores := by
  induction log using List.reverseRecOn with
  | nil => rfl
  | append_singleton log report ih =>
      rw [handoffSpec_concat, List.countP_append, List.countP_singleton, ← ih]
      cases report <;> rfl

/-- Saving changes nothing. -/
theorem handoffSpec_silent {late : List HandoffReport}
    (silent : ∀ report ∈ late, report.publishes = false ∧ report.restores = false) :
    handoffSpec factory (log ++ late) = handoffSpec factory log := by
  induction late using List.reverseRecOn with
  | nil => rw [List.append_nil]
  | append_singleton late report ih =>
      rw [← List.append_assoc, handoffSpec_concat,
        ih fun other member => silent other (List.mem_append_left _ member)]
      obtain ⟨publishes, restores⟩ :=
        silent report (List.mem_append_right _ (List.mem_singleton_self report))
      cases report with
      | written bank => rfl
      | restored bank generation => exact absurd restores (by simp [HandoffReport.restores])
      | _ => exact absurd publishes (by simp [HandoffReport.publishes])

/-- What was allowed stays so until the next restore. -/
theorem HandoffSpec.Allows.after (allowed : spec.Allows bank)
    (published : report.publishes = true) : (spec.after report).Allows bank := by
  have grows : ∀ applied other, (spec.publish applied other).Allows bank := by
    intro applied other
    rcases allowed with same | ⟨found, member, agrees⟩
    · exact .inl same
    · refine .inr ⟨found, ?_, agrees⟩
      unfold publish
      cases applied with
      | true => exact List.mem_append_left _ member
      | false => exact member
  cases report with
  | applied _ _ | cleared _ _ | swept _ _ => exact grows _ _
  | restored _ _ | written _ => exact absurd published (by simp [HandoffReport.publishes])

end Spec

/-- The generation of a restore that has been made. -/
def HandoffSpec.Known (spec : HandoffSpec) (generation : BitVec 32) : Prop :=
  ∃ restore ≤ spec.restores, generation = BitVec.ofNat 32 restore

/-- The main thread's part is in order. -/
structure MainSide.Fits (spec : HandoffSpec) (side : MainSide) : Prop where
  counter : side.restoreCounter = BitVec.ofNat 32 spec.restores
  generation : side.restoreGeneration = BitVec.ofNat 32 spec.restores
  bank : spec.Allows side.bank

/-- A sweep that has come to its end has been published. -/
def AudioSide.Settled (side : AudioSide) : Prop :=
  side.calibrator.phase = .complete → side.previousPhase = .complete

/-- The audio thread's part is in order. -/
structure AudioSide.Fits (spec : HandoffSpec) (side : AudioSide) : Prop where
  settled : side.Settled
  known : spec.Known side.restoreGeneration
  applied : spec.applied = true ↔ side.restoreGeneration = BitVec.ofNat 32 spec.restores

namespace MainSide

/-- `getState` once it has read. -/
def getStatePlan (side : MainSide) (found : Option CalibrationBankSnapshot) :
    HandoffPlan MainSide :=
  .returns (side.adopted found, [.written (side.adopted found).bank])

/-- The snapshot that `setState` publishes. -/
def restoring (side : MainSide) (calibration : StringCalibrationBank) : CalibrationBankSnapshot where
  bank := calibration
  generation := (side.restored calibration).restoreGeneration

/-- A save reads what was published last, and goes on by the plan for what it has found. -/
theorem getState_eq (side : MainSide) :
    side.getState = (HandoffProgram.readLatest .published >>= fun found =>
      (side.getStatePlan found).program .restore) := by
  unfold getState adoptPublishedCalibration
  rw [Program.bind_assoc]
  rfl

/-- A save follows the protocol of the restoring transport's writer. -/
theorem getState_follows (side : MainSide) :
    (HandoffView.protocol .restore).Follows HandoffView.fits
      (.fetching side.getStatePlan (.waiting 2)) side.getState := by
  rw [getState_eq]
  exact HandoffProgram.fetch_follows .restore side.getStatePlan

end MainSide

namespace AudioSide

/-- The snapshot that the audio thread publishes of its own bank. -/
def current (side : AudioSide) : CalibrationBankSnapshot where
  bank := side.calibrator.bank
  generation := side.restoreGeneration

/-- The side whose status has been published. -/
def reported (side : AudioSide) : AudioSide := { side with previousPhase := side.calibrator.phase }

/-- `publish_string_calibration_status`. -/
def statusPlan (side : AudioSide) : HandoffPlan AudioSide :=
  if side.calibrator.phase = .complete ∧ side.previousPhase ≠ .complete then
    .publishes side.current (side.reported, [.swept side.current.bank side.current.generation])
  else .returns (side.reported, [])

/-- `apply_calibration_restore` once it has read. -/
def restorePlan (side : AudioSide) : Option CalibrationBankSnapshot → HandoffPlan AudioSide
  | none => .returns (side, [])
  | some snapshot =>
      if snapshot.generation = side.restoreGeneration then .returns (side, [])
      else .publishes snapshot
        (side.restored snapshot, [.applied snapshot.bank snapshot.generation])

/-- The clear command. -/
def clearPlan (side : AudioSide) (factory : StringCalibrationBank) : HandoffPlan AudioSide :=
  .publishes (side.cleared factory).current ((side.cleared factory).reported,
    [.cleared (side.cleared factory).current.bank (side.cleared factory).current.generation])

/-- The status of a block is published by the plan of the side. -/
theorem publishStringCalibrationStatus_eq (side : AudioSide) :
    side.publishStringCalibrationStatus = side.statusPlan.program .published := by
  unfold publishStringCalibrationStatus statusPlan
  split_ifs <;> rfl

/-- Nothing is published for a sweep that has been published, or has not come to its end. -/
theorem statusPlan_of_settled {side : AudioSide} (settled : side.Settled) :
    side.statusPlan = .returns (side.reported, []) := by
  unfold statusPlan
  exact if_neg fun contrary => contrary.2 (settled contrary.1)

/-- A side whose calibrator has not just completed a sweep has nothing to publish. -/
theorem publishStatus_of_settled {side : AudioSide} (settled : side.Settled) :
    side.publishStringCalibrationStatus = pure (side.reported, []) := by
  rw [publishStringCalibrationStatus_eq, statusPlan_of_settled settled]
  rfl

/-- The audio thread reads what was restored last, and goes on by the plan for what it has found.
-/
theorem applyCalibrationRestore_eq (side : AudioSide) :
    side.applyCalibrationRestore = (HandoffProgram.readLatest .restore >>= fun found =>
      (side.restorePlan found).program .published) := by
  unfold applyCalibrationRestore
  refine congrArg (HandoffProgram.readLatest .restore >>= ·) (funext fun found => ?_)
  cases found with
  | none => rfl
  | some snapshot =>
      have settled : (side.restored snapshot).Settled := id
      unfold restorePlan
      dsimp only
      rw [publishStatus_of_settled settled]
      split_ifs <;> rfl

/-- It follows the protocol of the publishing transport's writer. -/
theorem applyCalibrationRestore_follows (side : AudioSide) :
    (HandoffView.protocol .published).Follows HandoffView.fits
      (.fetching side.restorePlan (.waiting 2)) side.applyCalibrationRestore := by
  rw [applyCalibrationRestore_eq]
  exact HandoffProgram.fetch_follows .published side.restorePlan

/-- The command to clear publishes by its plan. -/
theorem clear_eq (side : AudioSide) (factory : StringCalibrationBank) (playable : Bool) :
    side.applyStringCalibrationCommand factory playable .clear =
      (side.clearPlan factory).program .published := by
  have settled : (side.cleared factory).Settled := fun contrary => nomatch contrary
  unfold applyStringCalibrationCommand
  dsimp only
  rw [publishStatus_of_settled settled]
  rfl

/-- A sweep that is complete after it has been given up was complete before. -/
theorem phase_cancel (calibrator : StringSweepCalibrator) (complete : calibrator.cancel.phase = .complete) :
    calibrator.phase = .complete := by
  unfold StringSweepCalibrator.cancel at complete
  split_ifs at complete
  exact complete

/-- A bank that is taken over changes no phase. -/
theorem phase_setBank (calibrator : StringSweepCalibrator) (bank : StringCalibrationBank) :
    (calibrator.setBank bank).phase = calibrator.phase := by
  unfold StringSweepCalibrator.setBank
  split_ifs <;> rfl

end AudioSide

end M3Midi
