import M3Midi.Detector.VoiceEmission

/-! # The turns of a decision

What a candidate's turn can do in each of the three loops over the voices, with the keys it
closes and opens: a correction of its note, the continuation of its voice, and its attack.
-/

namespace M3Midi

open Foundation LaneMask CandidateDecision

variable {count : ℕ} {decision : CandidateDecision count} {candidate : Fin count}

section Correction

variable {detector : DetectorConfiguration} {evidence : DecisionEvidence count}
  {selected : Fin count → Bool}

/-- What a correction may change. -/
structure CandidateState.Corrects (before after : CandidateState) (allowed : Prop) : Prop where
  others : after = { before with
    emittedNote := after.emittedNote
    calibratedOutputTarget := after.calibratedOutputTarget
    calibratedOutputTicks := after.calibratedOutputTicks }
  note : after.emittedNote = before.emittedNote ∨ allowed

/-- A target that is noted for a voice corrects nothing yet. -/
theorem CandidateState.corrects_target (state : CandidateState) (target ticks : ℕ) (allowed : Prop) :
    state.Corrects { state with
      calibratedOutputTarget := target, calibratedOutputTicks := ticks } allowed :=
  ⟨rfl, .inl rfl⟩

/-- To drop the target corrects nothing, either. -/
theorem CandidateState.Corrects.clearTarget {before after : CandidateState} {allowed : Prop}
    (corrects : before.Corrects after allowed) : before.Corrects after.clearTarget allowed where
  others := by
    rw [CandidateState.clearTarget, corrects.others]
  note := corrects.note

/-- A correction of a voice that may be corrected. -/
theorem corrects_change (velocity note : ℕ) {allowed : Prop} (holds : allowed) :
    (decision.states candidate).Corrects
      ((decision.changeCandidateOutputNote detector candidate velocity note).states candidate)
      allowed where
  others := by
    rw [changeCandidateOutputNote_state]
  note := .inr holds

/-- A turn in the first loop: it emits what it changes, and changes the note of a voice only
where that is allowed. -/
structure CorrectionTurn (detector : DetectorConfiguration) (allowed : Prop)
    (decision next : CandidateDecision count) (candidate : Fin count) : Prop where
  emits : Emits detector decision next candidate
  activeCount : next.activeCount = decision.activeCount
  corrects : (decision.states candidate).Corrects (next.states candidate) allowed

variable {allowed : Prop} {next : CandidateDecision count}

namespace CorrectionTurn

/-- A turn of the correction that notes a target. -/
theorem target (detector : DetectorConfiguration) (allowed : Prop)
    (decision : CandidateDecision count) (candidate : Fin count) (target ticks : ℕ) :
    CorrectionTurn detector allowed decision (decision.setState candidate
      { decision.states candidate with
        calibratedOutputTarget := target, calibratedOutputTicks := ticks }) candidate where
  emits := emits_setState (voiceKeys_congr rfl rfl rfl)
  activeCount := rfl
  corrects := by
    rw [setState_self]
    exact CandidateState.corrects_target _ _ _ _

/-- A turn that changes the note of a voice that sounds. -/
theorem change {velocity : ℕ} (range : InRange detector count velocity)
    (m3 : detector.profileMode = .m3) (sounds : (decision.states candidate).active = true)
    (holds : allowed) (note : ℕ) :
    CorrectionTurn detector allowed decision
      (decision.changeCandidateOutputNote detector candidate velocity note) candidate where
  emits := changeCandidateOutputNote_emits range m3 sounds note
  activeCount := by
    unfold changeCandidateOutputNote
    dsimp only
    split_ifs
    · rfl
    · rfl
    · exact appendAll_activeCount
  corrects := corrects_change velocity note holds

/-- A turn that ends by dropping the target. -/
theorem clearTarget (turn : CorrectionTurn detector allowed decision next candidate) :
    CorrectionTurn detector allowed decision
      (next.setState candidate (next.states candidate).clearTarget) candidate where
  emits := turn.emits.setState (voiceKeys_congr rfl rfl rfl)
  activeCount := turn.activeCount
  corrects := by
    rw [setState_self]
    exact turn.corrects.clearTarget

/-- Another decision has agreed on the note before. -/
theorem after_target {target ticks : ℕ}
    (turn : CorrectionTurn detector allowed (decision.setState candidate
      { decision.states candidate with
        calibratedOutputTarget := target, calibratedOutputTicks := ticks }) next candidate) :
    CorrectionTurn detector allowed decision next candidate where
  emits := turn.emits.of_setState (voiceKeys_congr rfl rfl rfl)
  activeCount := turn.activeCount
  corrects := by
    have corrects := turn.corrects
    rw [setState_self] at corrects
    exact ⟨corrects.others, corrects.note⟩

variable {velocity : ℕ} (range : InRange detector count velocity)
  (m3 : detector.profileMode = .m3) (sounds : (decision.states candidate).active = true)
  (holds : allowed)

include range m3 sounds holds

/-- A turn that withdraws the corrected note. -/
theorem withdraw : CorrectionTurn detector allowed decision
    (decision.withdrawOutputNote detector candidate velocity) candidate := by
  unfold withdrawOutputNote
  dsimp only
  split_ifs
  · exact target detector allowed decision candidate _ _
  · exact target detector allowed decision candidate _ _
  · apply after_target
    refine (change range m3 ?_ holds _).clearTarget
    rw [setState_self]
    exact sounds
  · exact target detector allowed decision candidate _ _

/-- A turn of the correction, whichever way it goes. -/
theorem correct (note : ℕ) : CorrectionTurn detector allowed decision
    (decision.correctOutputNote detector selected candidate velocity note) candidate := by
  unfold correctOutputNote
  dsimp only
  split_ifs
  · exact (change range m3 sounds holds _).clearTarget
  · exact target detector allowed decision candidate _ _
  · exact target detector allowed decision candidate _ _
  · apply after_target
    refine change range m3 ?_ holds _
    rw [setState_self]
    exact sounds

end CorrectionTurn

/-- A turn in the first loop corrects the note of a selected voice, or none. -/
theorem updateCalibratedOutputNote_turn {velocity : ℕ} (range : InRange detector count velocity)
    (m3 : detector.profileMode = .m3) (selectedNoteCount : ℕ) :
    CorrectionTurn detector
      ((decision.states candidate).active = true ∧ selected candidate = true) decision
      (decision.updateCalibratedOutputNote detector evidence selected candidate selectedNoteCount
        velocity) candidate := by
  unfold updateCalibratedOutputNote
  dsimp only
  by_cases idle : selected candidate = false ∨ (decision.states candidate).active = false ∨
      selectedNoteCount < 2 ∨
      (decision.states candidate).ageTicks < detector.calibratedOutputMinimumAge ∨
      (evidence.candidate candidate).outputProjectionValid = false
  · rw [if_pos idle]
    exact .target _ _ _ _ _ _
  · rw [if_neg idle]
    push Not at idle
    have sounds : (decision.states candidate).active = true := Bool.not_eq_false _ |>.mp idle.2.1
    have chosen : selected candidate = true := Bool.not_eq_false _ |>.mp idle.1
    split
    · split
      · exact .withdraw range m3 sounds ⟨sounds, chosen⟩
      · exact .correct range m3 sounds ⟨sounds, chosen⟩ _
    · exact .target _ _ _ _ _ _

end Correction

section Continuation

variable {frame : DecisionFrame count}

/-- The voice with one more decision without its candidate selected. -/
def CandidateState.waited (state : CandidateState) : CandidateState :=
  { state with releaseTicks := min (state.releaseTicks + 1) wordLimit }

/-- The voice has waited long enough for its release. -/
def DecisionFrame.ReleaseDue (frame : DecisionFrame count) (decision : CandidateDecision count)
    (candidate : Fin count) : Prop :=
  frame.candidateReleaseDecisions decision candidate ≤
    (decision.states candidate).waited.releaseTicks

/-- Whether a release is due can be computed. -/
instance : Decidable (frame.ReleaseDue decision candidate) :=
  inferInstanceAs (Decidable (_ ≤ _))

/-- A selected voice goes on, with lanes on those it is projected on. -/
def CandidateState.kept (laned : Bool) (state : CandidateState) : CandidateState :=
  { state with
    releaseTicks := 0
    midiVoiceMask := if laned then state.projectedOutputStringMask else state.midiVoiceMask }

/-- What the second loop does to a candidate. -/
inductive ContinuationTurn (frame : DecisionFrame count) (decision : CandidateDecision count)
    (candidate : Fin count) : CandidateDecision count → Prop
  | silent (silent : (decision.states candidate).active = false) :
      ContinuationTurn frame decision candidate decision
  | kept (sounds : (decision.states candidate).active = true)
      (selected : frame.selected candidate = true) {next : CandidateDecision count}
      (counted : next.activeCount = decision.activeCount + 1)
      (state : next.states candidate = (decision.states candidate).kept frame.detector.laned)
      (emits : frame.detector.laned = true → Emits frame.detector decision next candidate)
      (plain : frame.detector.laned = false →
        next = (decision.setState candidate (next.states candidate)).countActive) :
      ContinuationTurn frame decision candidate next
  | ended (sounds : (decision.states candidate).active = true)
      (unselected : frame.selected candidate = false)
      (because : frame.handsOff decision candidate = true ∨ frame.ReleaseDue decision candidate) :
      ContinuationTurn frame decision candidate ((decision.appendAll
        (offTransitions frame.detector decision candidate)).setState candidate {})
  | waits (sounds : (decision.states candidate).active = true)
      (unselected : frame.selected candidate = false)
      (because : (frame.handsOff decision candidate = false ∧
          ¬ frame.ReleaseDue decision candidate) ∨
        maxTickTransitions < decision.transitions.length +
          (offTransitions frame.detector decision candidate).length ∨
        decision.transitions.length = maxTickTransitions) :
      ContinuationTurn frame decision candidate
        (decision.setState candidate (decision.states candidate).waited).countActive

/-- A voice that moves between lanes emits what its keys change by. -/
theorem moveLanes_emits (range : InRange frame.detector count frame.velocity)
    (laned : frame.detector.laned = true) (sounds : (decision.states candidate).active = true) :
    Emits frame.detector decision (frame.moveLanes decision candidate) candidate := by
  have low := outputNote_le range.notes candidate (decision.states candidate)
  unfold DecisionFrame.moveLanes
  dsimp only
  rw [← appendAll_append]
  refine ⟨fun other different => ?_, _, (appends_appendAll decision _).setState candidate _, ?_⟩
  · rw [setState_of_ne different, appendAll_states]
  · rw [setState_self, voiceKeys_laned laned sounds, voiceKeys_laned laned (by exact sounds)]
    have offs := keysOf_offLanes (outputNote frame.detector candidate (decision.states candidate))
      ((decision.states candidate).midiVoiceMask &&&
        ~~~(decision.states candidate).projectedOutputStringMask)
    have ons := keysOf_onLanes (outputNote frame.detector candidate (decision.states candidate))
      frame.velocity ((decision.states candidate).projectedOutputStringMask &&&
        ~~~(decision.states candidate).midiVoiceMask)
    refine ⟨?_, ?_, ?_⟩
    · rw [keysOf_append]
      refine (congrArg₂ _ offs.1 ons.2).trans ?_
      rw [add_zero, ← laneKeys_sdiff]
      rfl
    · rw [keysOf_append]
      refine (congrArg₂ _ offs.2 ons.1).trans ?_
      rw [zero_add, ← laneKeys_sdiff]
      rfl
    · intro transition member
      rcases List.mem_append.mp member with closing | opening
      · obtain ⟨string, -, rfl⟩ := List.mem_map.mp closing
        exact valid_off low (.inr string.isLt)
      · obtain ⟨string, -, rfl⟩ := List.mem_map.mp opening
        exact valid_on low ⟨range.velocity_pos, range.velocity_le⟩ (.inr string.isLt)

/-- It is counted as before. -/
theorem moveLanes_activeCount :
    (frame.moveLanes decision candidate).activeCount = decision.activeCount := by
  unfold DecisionFrame.moveLanes
  dsimp only
  rw [setState_activeCount, appendAll_activeCount, appendAll_activeCount]

/-- What is waited for does not change the release. -/
theorem offTransitions_waited : offTransitions frame.detector
      (decision.setState candidate (decision.states candidate).waited) candidate =
    offTransitions frame.detector decision candidate := by
  unfold offTransitions candidateOutputNote
  rw [setState_self]
  rfl

/-- An unselected voice waits or ends, and its turn says which and why. -/
theorem coast_turn (sounds : (decision.states candidate).active = true)
    (unselected : frame.selected candidate = false)
    (held : frame.handsOff decision candidate = false ∨
      maxTickTransitions < decision.transitions.length +
        (offTransitions frame.detector decision candidate).length ∨
      decision.transitions.length = maxTickTransitions) :
    ContinuationTurn frame decision candidate (frame.coast decision candidate) := by
  unfold DecisionFrame.coast
  dsimp only
  change ContinuationTurn frame decision candidate
    (if frame.ReleaseDue decision candidate then _ else _)
  by_cases due : frame.ReleaseDue decision candidate
  · rw [if_pos due]
    rcases appendCandidateNoteOff_cases frame.detector
      (decision.setState candidate (decision.states candidate).waited) candidate with
      released | ⟨refused, full⟩
    · have ends : (decision.setState candidate { decision.states candidate with
          releaseTicks := min ((decision.states candidate).releaseTicks + 1)
            wordLimit }).appendCandidateNoteOff frame.detector candidate = _ := released
      rw [ends, offTransitions_waited, setState_appendAll]
      dsimp only
      rw [setState_setState]
      exact .ended sounds unselected (.inr due)
    · have stays : (decision.setState candidate { decision.states candidate with
          releaseTicks := min ((decision.states candidate).releaseTicks + 1)
            wordLimit }).appendCandidateNoteOff frame.detector candidate = _ := refused
      rw [stays]
      rw [offTransitions_waited] at full
      exact .waits sounds unselected (.inr full)
  · rw [if_neg due]
    exact .waits sounds unselected (held.imp (fun stays => ⟨stays, due⟩) id)

/-- A turn in the second loop. -/
theorem continueVoice_turn (range : InRange frame.detector count frame.velocity) :
    ContinuationTurn frame decision candidate (frame.continueVoice decision candidate) := by
  unfold DecisionFrame.continueVoice
  dsimp only
  by_cases silent : (decision.states candidate).active = false
  · rw [if_pos silent]
    exact .silent silent
  rw [if_neg silent]
  have sounds : (decision.states candidate).active = true := (Bool.not_eq_false _).mp silent
  by_cases chosen : frame.selected candidate = true
  · rw [if_pos chosen]
    by_cases laned : frame.detector.laned = true
    · rw [if_pos laned]
      apply ContinuationTurn.kept sounds chosen
      · rw [countActive_activeCount, moveLanes_activeCount, setState_activeCount]
      · unfold DecisionFrame.moveLanes CandidateState.kept
        dsimp only
        rw [countActive_states, setState_self, setState_self, if_pos laned]
        rfl
      · intro _
        apply Emits.countActive
        apply Emits.of_setState (moveLanes_emits range laned ?_)
        · exact voiceKeys_congr rfl rfl rfl
        · rw [setState_self]
          exact sounds
      · intro single
        exact absurd (laned.symm.trans single) Bool.noConfusion
    · rw [if_neg laned]
      apply ContinuationTurn.kept sounds chosen
      · rfl
      · unfold CandidateState.kept
        rw [countActive_states, setState_self, if_neg laned]
      · intro other
        exact absurd other laned
      · intro _
        rw [countActive_states, setState_self]
  · rw [if_neg chosen]
    have unselected : frame.selected candidate = false := (Bool.not_eq_true _).mp chosen
    by_cases handsOff : frame.handsOff decision candidate = true
    · rw [if_pos handsOff]
      rcases appendCandidateNoteOff_cases frame.detector decision candidate with
        released | ⟨refused, full⟩
      · rw [released]
        exact .ended sounds unselected (.inl handsOff)
      · rw [refused]
        exact coast_turn sounds unselected (.inr full)
    · rw [if_neg handsOff]
      exact coast_turn sounds unselected (.inl ((Bool.not_eq_true _).mp handsOff))

end Continuation

section Attack

variable {frame : DecisionFrame count}

/-- The candidate may attack: there is a voice left for it, the energy is not falling, and it
has the evidence. -/
structure DecisionFrame.MayAttack (frame : DecisionFrame count)
    (decision : CandidateDecision count) (candidate : Fin count) : Prop where
  room : decision.activeCount < frame.detector.maxPolyphony
  energy : frame.evidence.attackEnergy = true
  evidence : (decision.states candidate).evidenceTicks ≠ 0
  enough : frame.hadActiveVoice = true →
    frame.preAttackEvidence ≤ (decision.states candidate).evidenceTicks

/-- A selected candidate with one more decision that attacks. -/
def CandidateState.attacked (state : CandidateState) : CandidateState :=
  { state with
    releaseTicks := 0
    attackTicks := min (state.attackTicks + 1) byteLimit
    ageTicks := min (state.ageTicks + 1) wordLimit }

/-- A candidate whose voice has begun. -/
def CandidateState.begun (detector : DetectorConfiguration) (note : ℕ) (state : CandidateState) :
    CandidateState :=
  { state with
    emittedNote := note
    midiVoiceMask := if detector.laned then state.assignedStrings else state.midiVoiceMask
    active := true
    attackTicks := 0
    evidenceTicks := 0 }

/-- The note-ons of a voice that begins. -/
def onTransitions (detector : DetectorConfiguration) (velocity : ℕ) (candidate : Fin count)
    (state : CandidateState) : List AppendedTransition :=
  let note := detectedNote detector candidate
  if detector.laned then
    (stringsOf state.assignedStrings).map fun string : Fin maxVoices =>
      { kind := .noteOn, note := note, velocity := velocity, voiceId := string }
  else [{ kind := .noteOn, note := note, velocity := velocity }]

/-- What the third loop does to a candidate. -/
inductive AttackTurn (frame : DecisionFrame count) (decision : CandidateDecision count)
    (candidate : Fin count) : CandidateDecision count → Prop
  | passed (unselected : frame.selected candidate = false)
      (sounds : (decision.states candidate).active = true) :
      AttackTurn frame decision candidate decision
  | rested (unselected : frame.selected candidate = false)
      (silent : (decision.states candidate).active = false) :
      AttackTurn frame decision candidate (decision.setState candidate
        { decision.states candidate with attackTicks := 0, ageTicks := 0 })
  | aged (selected : frame.selected candidate = true)
      (sounds : (decision.states candidate).active = true) :
      AttackTurn frame decision candidate (decision.setState candidate
        { decision.states candidate with
          releaseTicks := 0
          ageTicks := min ((decision.states candidate).ageTicks + 1) wordLimit })
  | refused (selected : frame.selected candidate = true)
      (silent : (decision.states candidate).active = false)
      (because : ¬ frame.MayAttack decision candidate) {state : CandidateState}
      (still : state.active = false) (ticks : state.attackTicks = 0)
      (rest : state.releaseTicks = 0) :
      AttackTurn frame decision candidate (decision.setState candidate state)
  | attacking (selected : frame.selected candidate = true)
      (silent : (decision.states candidate).active = false)
      (may : frame.MayAttack decision candidate)
      (early : (decision.states candidate).attacked.attackTicks < frame.detector.attackDecisions) :
      AttackTurn frame decision candidate
        (decision.setState candidate (decision.states candidate).attacked)
  | unplaced (selected : frame.selected candidate = true)
      (silent : (decision.states candidate).active = false)
      (may : frame.MayAttack decision candidate)
      (due : frame.detector.attackDecisions ≤ (decision.states candidate).attacked.attackTicks)
      (laned : frame.detector.laned = true)
      (nowhere : (decision.states candidate).assignedStrings = 0) :
      AttackTurn frame decision candidate (decision.setState candidate
        { (decision.states candidate).attacked with
          attackTicks := frame.detector.attackDecisions })
  | begun (selected : frame.selected candidate = true)
      (silent : (decision.states candidate).active = false)
      (may : frame.MayAttack decision candidate)
      (due : frame.detector.attackDecisions ≤ (decision.states candidate).attacked.attackTicks)
      (placed : frame.detector.laned = true → (decision.states candidate).assignedStrings ≠ 0) :
      AttackTurn frame decision candidate
        (((decision.appendAll (onTransitions frame.detector frame.velocity candidate
          (decision.states candidate))).setState candidate
            ((decision.states candidate).attacked.begun frame.detector
              (detectedNote frame.detector candidate))).countActive)

/-- A voice begins, or has no string to begin on. -/
theorem appendCandidateNoteOn_cases (detector : DetectorConfiguration) (velocity : ℕ)
    (decision : CandidateDecision count) (candidate : Fin count) :
    ((detector.laned = true → (decision.states candidate).assignedStrings ≠ 0) ∧
      decision.appendCandidateNoteOn detector candidate velocity =
        (true, (decision.appendAll (onTransitions detector velocity candidate
          (decision.states candidate))).setState candidate
            { decision.states candidate with
              emittedNote := detectedNote detector candidate
              midiVoiceMask := if detector.laned then (decision.states candidate).assignedStrings
                else (decision.states candidate).midiVoiceMask })) ∨
      (detector.laned = true ∧ (decision.states candidate).assignedStrings = 0 ∧
        decision.appendCandidateNoteOn detector candidate velocity = (false, decision)) := by
  unfold appendCandidateNoteOn onTransitions
  dsimp only
  by_cases laned : detector.laned = true
  · rw [if_pos laned, if_pos laned, if_pos laned]
    by_cases nowhere : (decision.states candidate).assignedStrings = 0
    · rw [if_pos nowhere]
      exact .inr ⟨laned, nowhere, rfl⟩
    · rw [if_neg nowhere]
      exact .inl ⟨fun _ => nowhere, rfl⟩
  · rw [if_neg laned, if_neg laned, if_neg laned]
    exact .inl ⟨fun other => absurd other laned, rfl⟩

/-- A candidate that may attack waits on, begins, or finds no room, and its turn says which. -/
theorem attack_turn (selected : frame.selected candidate = true)
    (silent : (decision.states candidate).active = false)
    (may : frame.MayAttack decision candidate) :
    AttackTurn frame decision candidate (frame.attack decision candidate
      { decision.states candidate with releaseTicks := 0 }) := by
  unfold DecisionFrame.attack
  dsimp only
  change AttackTurn frame decision candidate
    (if (decision.states candidate).attacked.attackTicks ≥ frame.detector.attackDecisions then _
      else decision.setState candidate (decision.states candidate).attacked)
  by_cases due : (decision.states candidate).attacked.attackTicks ≥ frame.detector.attackDecisions
  · rw [if_pos due]
    rcases appendCandidateNoteOn_cases frame.detector frame.velocity
      (decision.setState candidate (decision.states candidate).attacked) candidate with
      ⟨placed, outcome⟩ | ⟨laned, nowhere, outcome⟩
    · have begins : (decision.setState candidate { decision.states candidate with
          releaseTicks := 0
          attackTicks := min ((decision.states candidate).attackTicks + 1) byteLimit
          ageTicks := min ((decision.states candidate).ageTicks + 1)
            wordLimit }).appendCandidateNoteOn frame.detector candidate frame.velocity = _ := outcome
      rw [begins, setState_appendAll]
      dsimp only
      rw [setState_self, setState_self, setState_setState, setState_setState]
      rw [setState_self] at placed
      exact .begun selected silent may due placed
    · have refused : (decision.setState candidate { decision.states candidate with
          releaseTicks := 0
          attackTicks := min ((decision.states candidate).attackTicks + 1) byteLimit
          ageTicks := min ((decision.states candidate).ageTicks + 1)
            wordLimit }).appendCandidateNoteOn frame.detector candidate frame.velocity = _ := outcome
      rw [refused]
      dsimp only
      rw [setState_setState]
      rw [setState_self] at nowhere
      exact .unplaced selected silent may due laned nowhere
  · rw [if_neg due]
    exact .attacking selected silent may (not_le.mp due)

/-- A turn in the third loop. The cases are those of the guards, in the order in which the source
checks them. -/
theorem attackVoice_turn : AttackTurn frame decision candidate
    (frame.attackVoice decision candidate) := by
  unfold DecisionFrame.attackVoice
  dsimp only
  by_cases unselected : frame.selected candidate = false
  · rw [if_pos unselected]
    by_cases sounds : (decision.states candidate).active = true
    · rw [if_pos sounds]
      exact .passed unselected sounds
    · rw [if_neg sounds]
      exact .rested unselected ((Bool.not_eq_true _).mp sounds)
  rw [if_neg unselected]
  have selected : frame.selected candidate = true := (Bool.not_eq_false _).mp unselected
  by_cases sounds : (decision.states candidate).active = true
  · rw [if_pos sounds]
    exact .aged selected sounds
  rw [if_neg sounds]
  have silent : (decision.states candidate).active = false := (Bool.not_eq_true _).mp sounds
  by_cases full : decision.activeCount ≥ frame.detector.maxPolyphony
  · rw [if_pos full]
    exact .refused selected silent (fun may => absurd may.room (not_lt.mpr full)) rfl rfl rfl
  rw [if_neg full]
  by_cases falling : frame.evidence.attackEnergy = false
  · rw [if_pos falling]
    exact .refused selected silent
      (fun may => absurd (may.energy.symm.trans falling) Bool.noConfusion) silent rfl rfl
  rw [if_neg falling]
  by_cases nothing : (decision.states candidate).evidenceTicks = 0
  · rw [if_pos nothing]
    exact .refused selected silent (fun may => absurd nothing may.evidence) silent rfl rfl
  rw [if_neg nothing]
  by_cases less : frame.hadActiveVoice = true ∧
      (decision.states candidate).evidenceTicks < frame.preAttackEvidence
  · rw [if_pos less]
    exact .refused selected silent
      (fun may => absurd (may.enough less.1) (not_le.mpr less.2)) silent rfl rfl
  · rw [if_neg less]
    refine attack_turn selected silent ⟨not_le.mp full, (Bool.not_eq_false _).mp falling, nothing, ?_⟩
    intro before
    exact not_lt.mp fun few => less ⟨before, few⟩

end Attack

end M3Midi
