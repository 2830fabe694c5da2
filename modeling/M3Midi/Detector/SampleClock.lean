import M3Midi.Ledger.GeneratedNoteLedger
import Mathlib.Tactic.Linarith

/-! # The clock of the detector

The detector takes one sample at a time and decides on every 64th. What it keeps between samples
and how it decides is left open here; the clock bounds how many transitions a block can bring
(`M3Midi.PolyphonicPitchDetector.length_transitions`).
-/

namespace M3Midi

open Foundation

/-- The transitions of a decision, in a buffer of fixed size. Notes, velocities and lanes are
in range. -/
structure DetectorDecision where
  transitions : List VoiceTransition
  bounded : transitions.length ≤ maxTickTransitions
  valid : ∀ transition ∈ transitions, GeneratedNoteLedger.validTransition transition = true

/-- How the detector hears a sample, and how it decides. It decides every sixty-four samples,
whatever blocks they come in. -/
structure PolyphonicPitchDetector (State : Type) where
  hear : State → ℚ → State
  makeDecision : State → DetectorDecision × State

/-- A detector between two samples. -/
structure DetectorRun (State : Type) where
  decisionPhase : Fin decisionQuantum
  state : State

/-- The transitions a sample brings. -/
def transitionsOf (decision : Option DetectorDecision) : List VoiceTransition :=
  decision.elim [] DetectorDecision.transitions

/-- What a decision requests is valid for the ledger. -/
theorem transitionsOf_valid {decision : Option DetectorDecision} {transition : VoiceTransition}
    (member : transition ∈ transitionsOf decision) :
    GeneratedNoteLedger.validTransition transition = true := by
  cases decision with
  | none => cases member
  | some decision => exact decision.valid transition member

namespace PolyphonicPitchDetector

variable {State : Type} (detector : PolyphonicPitchDetector State)

/-- One sample; there is a decision when the quantum is full. -/
def processSample (run : DetectorRun State) (sample : ℚ) :
    Option DetectorDecision × DetectorRun State :=
  let heard := detector.hear run.state sample
  if more : run.decisionPhase + 1 < decisionQuantum then
    (none, { decisionPhase := ⟨run.decisionPhase + 1, more⟩, state := heard })
  else
    let decided := detector.makeDecision heard
    (some decided.1, { decisionPhase := ⟨0, by decide⟩, state := decided.2 })

/-- A detector that hears samples one after the other. -/
def samples : Transducer ℚ (DetectorRun State) (Option DetectorDecision) where
  step run sample :=
    let processed := detector.processSample run sample
    (processed.2, [processed.1])

variable {run : DetectorRun State}

/-- Each sample has its outcome. -/
theorem length_run (heard : List ℚ) : (detector.samples.run run heard).2.length = heard.length := by
  induction heard generalizing run with
  | nil => rfl
  | cons sample heard ih =>
      rw [Transducer.run_cons, List.length_append, ih, List.length_cons]
      exact Nat.add_comm _ _

/-- A decision comes once for each quantum of samples. -/
theorem decisions_run (heard : List ℚ) :
    decisionQuantum * ((detector.samples.run run heard).2.filter Option.isSome).length +
        (detector.samples.run run heard).1.decisionPhase =
      run.decisionPhase + heard.length := by
  induction heard generalizing run with
  | nil => exact Nat.zero_add _
  | cons sample heard ih =>
      have later := @ih (detector.processSample run sample).2
      have phase := run.decisionPhase.isLt
      rw [Transducer.run_cons, List.filter_append, List.length_append, List.length_cons]
      change _ * (([(detector.processSample run sample).1].filter Option.isSome).length +
        ((detector.samples.run (detector.processSample run sample).2 heard).2.filter
          Option.isSome).length) +
        ((detector.samples.run (detector.processSample run sample).2 heard).1.decisionPhase : ℕ) = _
      rw [Nat.mul_add, Nat.add_assoc, later]
      unfold processSample
      dsimp only
      split_ifs with more
      · change decisionQuantum * 0 + (run.decisionPhase + 1 + heard.length) = _
        omega
      · change decisionQuantum * 1 + (0 + heard.length) = _
        omega

/-- The transitions of as many samples as fit a number of quanta fit the buffers of as many
decisions. -/
theorem length_transitions (heard : List ℚ) {frames : ℕ} (few : heard.length ≤ frames) :
    ((detector.samples.run run heard).2.flatMap transitionsOf).length ≤
      (frames + decisionQuantum - 1) / decisionQuantum * maxTickTransitions := by
  have bounded (outcomes : List (Option DetectorDecision)) :
      (outcomes.flatMap transitionsOf).length ≤
        (outcomes.filter Option.isSome).length * maxTickTransitions := by
    induction outcomes with
    | nil => exact Nat.zero_le _
    | cons outcome outcomes ih =>
        rw [List.flatMap_cons, List.length_append]
        cases outcome with
        | none => simpa [transitionsOf] using ih
        | some decision =>
            have room := decision.bounded
            rw [List.filter_cons_of_pos rfl, List.length_cons, Nat.succ_mul]
            change decision.transitions.length + _ ≤ _
            omega
  have counted := @decisions_run _ detector run heard
  have phase := run.decisionPhase.isLt
  refine (bounded _).trans (Nat.mul_le_mul_right _ ?_)
  rw [Nat.le_div_iff_mul_le (by decide), Nat.mul_comm]
  omega

end PolyphonicPitchDetector

end M3Midi
