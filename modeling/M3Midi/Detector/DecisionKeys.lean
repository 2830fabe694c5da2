import M3Midi.Detector.VoiceTurns

/-! # The keys of a decision

What a decision requests closes exactly the keys that its candidates lose from the decision
before and opens those they gain, each once for each candidate
(`M3Midi.VoiceState.attacked_accounts`), provided that no voice with lanes changes its note and
its lanes in one decision.
-/

namespace M3Midi

open Foundation LaneMask CandidateDecision

variable {count : ℕ}

/-- The keys of the candidates. -/
def keyTable (detector : DetectorConfiguration) (states : Fin count → CandidateState) :
    Fin count → Finset VoiceKey :=
  fun candidate => voiceKeys detector candidate (states candidate)

section Turns

variable {frame : DecisionFrame count} {decision next : CandidateDecision count}
  {candidate : Fin count}

/-- The keys of a voice that begins are those of its note-ons. -/
theorem onTransitions_keys (detector : DetectorConfiguration) (velocity : ℕ)
    (candidate : Fin count) (state : CandidateState) (low : detectedNote detector candidate < 128) :
    keysOf .noteOn (onTransitions detector velocity candidate state) =
        (voiceKeys detector candidate
          (state.attacked.begun detector (detectedNote detector candidate))).val ∧
      keysOf .noteOff (onTransitions detector velocity candidate state) = 0 := by
  have note : outputNote detector candidate
      (state.attacked.begun detector (detectedNote detector candidate)) =
        detectedNote detector candidate := if_pos low
  unfold onTransitions
  by_cases laned : detector.laned = true
  · rw [if_pos laned, voiceKeys_laned laned rfl, note]
    unfold CandidateState.begun
    rw [if_pos laned]
    exact keysOf_onLanes _ velocity _
  · rw [if_neg laned, voiceKeys_single ((Bool.not_eq_true _).mp laned) rfl, note]
    exact ⟨rfl, rfl⟩

/-- What begins a voice consists of valid transitions. -/
theorem onTransitions_valid {detector : DetectorConfiguration} {velocity : ℕ}
    (range : InRange detector count velocity) (candidate : Fin count) (state : CandidateState) :
    ∀ transition ∈ onTransitions detector velocity candidate state, transition.Valid := by
  have low := detectedNote_le range.notes candidate
  intro transition member
  unfold onTransitions at member
  dsimp only at member
  split_ifs at member with laned
  · obtain ⟨string, -, rfl⟩ := List.mem_map.mp member
    exact valid_on low ⟨range.velocity_pos, range.velocity_le⟩ (.inr string.isLt)
  · rw [List.mem_singleton.mp member]
    exact valid_on low ⟨range.velocity_pos, range.velocity_le⟩ (.inl rfl)

/-- A turn in the third loop emits what it changes. -/
theorem AttackTurn.emits (range : InRange frame.detector count frame.velocity)
    (turn : AttackTurn frame decision candidate next) :
    Emits frame.detector decision next candidate := by
  cases turn with
  | passed unselected sounds => exact emits_refl _ _
  | rested unselected silent => exact emits_setState (voiceKeys_congr rfl rfl rfl)
  | aged selected sounds => exact emits_setState (voiceKeys_congr rfl rfl rfl)
  | refused selected silent because still ticks rest =>
      apply emits_setState
      rw [voiceKeys_inactive still, voiceKeys_inactive silent]
  | attacking selected silent may early => exact emits_setState (voiceKeys_congr rfl rfl rfl)
  | unplaced selected silent may due laned nowhere =>
      exact emits_setState (voiceKeys_congr rfl rfl rfl)
  | begun selected silent may due placed =>
      apply Emits.countActive
      have low := detectedNote_le range.notes candidate
      have keys := onTransitions_keys frame.detector frame.velocity candidate
        (decision.states candidate) (by omega)
      refine ⟨fun other different => ?_, _, (appends_appendAll decision _).setState candidate _, ?_⟩
      · rw [setState_of_ne different, appendAll_states]
      · rw [setState_self, voiceKeys_inactive silent, Finset.empty_sdiff, Finset.sdiff_empty]
        exact ⟨keys.2, keys.1, onTransitions_valid range candidate _⟩

/-- A turn in the third loop changes the keys of a candidate that did not sound only. -/
theorem AttackTurn.keys (turn : AttackTurn frame decision candidate next) :
    voiceKeys frame.detector candidate (next.states candidate) =
        voiceKeys frame.detector candidate (decision.states candidate) ∨
      (frame.selected candidate = true ∧ (decision.states candidate).active = false) := by
  cases turn with
  | passed unselected sounds => exact .inl rfl
  | rested unselected silent =>
      rw [setState_self]
      exact .inl (voiceKeys_congr rfl rfl rfl)
  | aged selected sounds =>
      rw [setState_self]
      exact .inl (voiceKeys_congr rfl rfl rfl)
  | refused selected silent because still ticks rest => exact .inr ⟨selected, silent⟩
  | attacking selected silent may early => exact .inr ⟨selected, silent⟩
  | unplaced selected silent may due laned nowhere => exact .inr ⟨selected, silent⟩
  | begun selected silent may due placed => exact .inr ⟨selected, silent⟩

/-- A turn in the second loop emits what it changes. -/
theorem ContinuationTurn.emits (range : InRange frame.detector count frame.velocity)
    (turn : ContinuationTurn frame decision candidate next) :
    Emits frame.detector decision next candidate := by
  cases turn with
  | silent silent => exact emits_refl _ _
  | kept sounds selected counted state emits plain =>
      by_cases laned : frame.detector.laned = true
      · exact emits laned
      · have single : frame.detector.laned = false := (Bool.not_eq_true _).mp laned
        have keys : voiceKeys frame.detector candidate (next.states candidate) =
            voiceKeys frame.detector candidate (decision.states candidate) := by
          rw [state, single]
          exact voiceKeys_congr rfl rfl rfl
        rw [plain single]
        exact (emits_setState keys).countActive
  | ended sounds unselected because =>
      have keys := @offTransitions_keys count decision candidate frame.detector sounds
      have silent : voiceKeys frame.detector candidate {} = ∅ := voiceKeys_inactive rfl
      refine ⟨fun other different => ?_, _, (appends_appendAll decision _).setState candidate _, ?_⟩
      · rw [setState_of_ne different, appendAll_states]
      · rw [setState_self, silent, Finset.sdiff_empty, Finset.empty_sdiff]
        exact ⟨keys.1, keys.2, offTransitions_valid range.notes⟩
  | waits sounds unselected because =>
      have keys : voiceKeys frame.detector candidate (decision.states candidate).waited =
          voiceKeys frame.detector candidate (decision.states candidate) :=
        voiceKeys_congr rfl rfl rfl
      exact (emits_setState keys).countActive

/-- A selected voice that keeps its lanes keeps its keys. -/
theorem ContinuationTurn.keys (turn : ContinuationTurn frame decision candidate next)
    (selected : frame.selected candidate = true)
    (stays : frame.detector.laned = true →
      (decision.states candidate).projectedOutputStringMask =
        (decision.states candidate).midiVoiceMask) :
    voiceKeys frame.detector candidate (next.states candidate) =
      voiceKeys frame.detector candidate (decision.states candidate) := by
  cases turn with
  | silent silent => rfl
  | kept sounds selected counted state emits plain =>
      have lanes : ((decision.states candidate).kept frame.detector.laned).midiVoiceMask =
          (decision.states candidate).midiVoiceMask := by
        unfold CandidateState.kept
        dsimp only
        split_ifs with laned
        · exact stays laned
        · rfl
      rw [state]
      exact voiceKeys_congr rfl rfl lanes
  | ended sounds unselected because => exact Bool.noConfusion (selected.symm.trans unselected)
  | waits sounds unselected because => exact Bool.noConfusion (selected.symm.trans unselected)

end Turns

namespace CandidateDecision

/-- What has been requested is valid, and the buffer holds the first of it. -/
structure Filled (decision : CandidateDecision count) : Prop where
  valid : ∀ transition ∈ decision.requested, transition.Valid
  stored : decision.Stored

/-- What has been requested is what the candidates have lost and gained since. This is the
invariant of the loops of a decision, candidate by candidate. -/
structure Accounts (detector : DetectorConfiguration) (before : Fin count → Finset VoiceKey)
    (decision : CandidateDecision count) : Prop where
  closed : keysOf .noteOff decision.requested =
    surplus (keyTable detector decision.states) before
  opened : keysOf .noteOn decision.requested =
    surplus before (keyTable detector decision.states)

variable {detector : DetectorConfiguration} {before : Fin count → Finset VoiceKey}
  {decision next : CandidateDecision count} {candidate : Fin count}

/-- A turn that emits what it changes keeps the buffer filled. -/
theorem Filled.turn (filled : decision.Filled) (emits : Emits detector decision next candidate) :
    next.Filled := by
  obtain ⟨appended, appends, -, -, valid⟩ := emits.emitted
  refine ⟨?_, appends.stored filled.stored⟩
  rw [appends.requested]
  intro transition member
  rcases List.mem_append.mp member with earlier | later
  · exact filled.valid transition earlier
  · exact valid transition later

/-- A loop over candidates keeps the buffer filled, by induction on the candidates. -/
theorem Filled.loop {turn : CandidateDecision count → Fin count → CandidateDecision count}
    (emits : ∀ decision candidate, Emits detector decision (turn decision candidate) candidate)
    (filled : decision.Filled) (candidates : List (Fin count)) :
    (candidates.foldl turn decision).Filled := by
  induction candidates generalizing decision with
  | nil => exact filled
  | cons candidate candidates ih => exact ih (filled.turn (emits decision candidate))

/-- The turn of a candidate that has not lost or gained anything yet, or that does not now. The
other candidates have the keys they had, so that only its own gains and losses are added. -/
theorem Accounts.turn (accounts : Accounts detector before decision)
    (emits : Emits detector decision next candidate)
    (once : voiceKeys detector candidate (decision.states candidate) = before candidate ∨
      voiceKeys detector candidate (next.states candidate) =
        voiceKeys detector candidate (decision.states candidate)) :
    Accounts detector before next := by
  obtain ⟨appended, appends, closed, opened, -⟩ := emits.emitted
  have table : keyTable detector next.states = Function.update (keyTable detector decision.states)
      candidate (voiceKeys detector candidate (next.states candidate)) := by
    funext other
    by_cases same : other = candidate
    · subst same
      rw [Function.update_self]
      rfl
    · rw [Function.update_of_ne same]
      exact congrArg (voiceKeys detector other) (emits.others other same)
  constructor
  case closed =>
    rw [appends.requested, keysOf_append, accounts.closed, closed, table]
    rcases once with unchanged | kept
    · rw [surplus_update_left unchanged]
      rfl
    · rw [kept, sdiff_self]
      have idle := Function.update_eq_self candidate (keyTable detector decision.states)
      change _ + (∅ : Finset VoiceKey).val = surplus (Function.update
        (keyTable detector decision.states) candidate (keyTable detector decision.states candidate))
        before
      rw [idle]
      exact add_zero _
  case opened =>
    rw [appends.requested, keysOf_append, accounts.opened, opened, table]
    rcases once with unchanged | kept
    · rw [surplus_update unchanged]
      rfl
    · rw [kept, sdiff_self]
      have idle := Function.update_eq_self candidate (keyTable detector decision.states)
      change _ + (∅ : Finset VoiceKey).val = surplus before (Function.update
        (keyTable detector decision.states) candidate (keyTable detector decision.states candidate))
      rw [idle]
      exact add_zero _

/-- A loop over candidates of which each has not lost or gained anything before its turn, or
does not in its turn. -/
theorem Accounts.loop {turn : CandidateDecision count → Fin count → CandidateDecision count}
    (emits : ∀ decision candidate, Emits detector decision (turn decision candidate) candidate)
    (accounts : Accounts detector before decision)
    (once : ∀ candidate met, met.states candidate = decision.states candidate →
      voiceKeys detector candidate (decision.states candidate) = before candidate ∨
        voiceKeys detector candidate ((turn met candidate).states candidate) =
          voiceKeys detector candidate (decision.states candidate))
    {candidates : List (Fin count)} (distinct : candidates.Nodup) :
    Accounts detector before (candidates.foldl turn decision) := by
  have swept := @sweep_invariant _ _ turn (fun visited met =>
    (∀ candidate ∉ visited, met.states candidate = decision.states candidate) ∧
      Accounts detector before met) candidates decision distinct ⟨fun _ _ => rfl, accounts⟩
  refine (swept ?_).2
  intro visited candidate met fresh ⟨same, holds⟩
  constructor
  · intro other outside
    rw [List.mem_append, List.mem_singleton, not_or] at outside
    rw [(emits met candidate).others other outside.2]
    exact same other outside.1
  · apply holds.turn (emits met candidate)
    have own := same candidate fresh
    rw [own]
    exact once candidate met own

/-- A decision that has requested nothing accounts for the keys as they are. -/
theorem accounts_start (nothing : decision.requested = []) :
    Accounts detector (keyTable detector decision.states) decision where
  closed := by
    rw [nothing, surplus_self]
    rfl
  opened := by
    rw [nothing, surplus_self]
    rfl

/-- What the candidates keep besides their keys does not matter. -/
theorem Accounts.of_states (accounts : Accounts detector before decision)
    (states : Fin count → CandidateState)
    (same : keyTable detector states = keyTable detector decision.states) :
    Accounts detector before { decision with states := states } where
  closed := by
    rw [same]
    exact accounts.closed
  opened := by
    rw [same]
    exact accounts.opened

/-- No more is requested than the keys there were and the keys there are. -/
theorem Accounts.length_le (accounts : Accounts detector before decision) :
    decision.requested.length ≤ ∑ candidate, (before candidate).card +
      ∑ candidate, (keyTable detector decision.states candidate).card := by
  rw [length_eq_card, accounts.closed, accounts.opened]
  exact Nat.add_le_add (card_surplus_le _ _) (card_surplus_le _ _)

/-- A loop over the candidates, when it comes to one of them. -/
def loopTo (turn : CandidateDecision count → Fin count → CandidateDecision count)
    (decision : CandidateDecision count) (candidate : Fin count) : CandidateDecision count :=
  ((List.finRange count).take candidate).foldl turn decision

/-- A loop over the candidates finds each of them as it was before the loop. -/
theorem loop_visit {turn : CandidateDecision count → Fin count → CandidateDecision count}
    (others : ∀ decision candidate other, other ≠ candidate →
      (turn decision candidate).states other = decision.states other)
    (decision : CandidateDecision count) (candidate : Fin count) :
    (loopTo turn decision candidate).states candidate = decision.states candidate ∧
      ((List.finRange count).foldl turn decision).states candidate =
        (turn (loopTo turn decision candidate) candidate).states candidate := by
  have split : (List.finRange count).take candidate ++
      candidate :: (List.finRange count).drop (candidate + 1) = List.finRange count := by
    have below : (candidate : ℕ) < (List.finRange count).length := by
      rw [List.length_finRange]
      exact candidate.isLt
    have here := List.drop_eq_getElem_cons below
    rw [List.getElem_finRange] at here
    exact (congrArg _ here.symm).trans (List.take_append_drop candidate _)
  have once := List.nodup_finRange count
  rw [← split] at once
  have visit := @sweep_visit _ _ _ turn CandidateDecision.states others _ _ candidate once decision
  rw [split] at visit
  exact visit

/-- The loop visits no candidate twice. -/
theorem nodup_loopTo (candidate : Fin count) : ((List.finRange count).take candidate).Nodup :=
  (List.nodup_finRange count).sublist (List.take_sublist _ _)

end CandidateDecision

/-- What a decision may change of a candidate before the loop over the voices that sound. -/
structure CandidateState.Prepares (before after : CandidateState) (allowed : Prop) : Prop where
  others : after = { before with
    emittedNote := after.emittedNote
    calibratedOutputTarget := after.calibratedOutputTarget
    calibratedOutputTicks := after.calibratedOutputTicks
    evidenceTicks := after.evidenceTicks
    evidenceGapTicks := after.evidenceGapTicks }
  note : after.emittedNote = before.emittedNote ∨ allowed

namespace CandidateState.Prepares

variable {before after : CandidateState} {allowed : Prop}

/-- A voice that is prepared is active as before. -/
theorem active (prepares : before.Prepares after allowed) : after.active = before.active := by
  rw [prepares.others]

/-- The lanes of its notes stay as they are. -/
theorem midiVoiceMask (prepares : before.Prepares after allowed) :
    after.midiVoiceMask = before.midiVoiceMask := by
  rw [prepares.others]

/-- The strings it is shown on stay as they are. -/
theorem projected (prepares : before.Prepares after allowed) :
    after.projectedOutputStringMask = before.projectedOutputStringMask := by
  rw [prepares.others]
  rfl

end CandidateState.Prepares

/-- Only the evidence of a candidate is kept track of. -/
theorem DecisionFrame.updateEvidence_eq (frame : DecisionFrame count)
    (states : Fin count → CandidateState) (candidate : Fin count) :
    ∃ ticks gap, frame.updateEvidence states candidate =
      { states candidate with evidenceTicks := ticks, evidenceGapTicks := gap } := by
  unfold updateEvidence
  dsimp only
  split_ifs <;> exact ⟨_, _, rfl⟩

/-- A corrected voice is prepared, whatever its counters of evidence are set to. -/
theorem CandidateState.Corrects.prepares {before after : CandidateState} {allowed : Prop}
    (corrects : before.Corrects after allowed) (ticks gap : ℕ) :
    before.Prepares { after with evidenceTicks := ticks, evidenceGapTicks := gap } allowed where
  others := congrArg (fun state : CandidateState =>
    { state with evidenceTicks := ticks, evidenceGapTicks := gap }) corrects.others
  note := corrects.note

namespace VoiceState

variable {detector : DetectorConfiguration} {evidence : DecisionEvidence count}
  {voices : VoiceState count}

/-- The notes and velocities of a decision are MIDI data. -/
def InRange (detector : DetectorConfiguration) (evidence : DecisionEvidence count) : Prop :=
  CandidateDecision.InRange detector count (detector.dynamicVelocity evidence.decibels)

/-- The look at the evidence changes no key. -/
theorem keyTable_observed :
    keyTable detector (voices.observed evidence) = keyTable detector voices.states := by
  funext candidate
  exact voiceKeys_congr rfl rfl rfl

/-- A voice may be corrected when it sounds and its candidate is selected. -/
def MayCorrect (detector : DetectorConfiguration) (evidence : DecisionEvidence count)
    (voices : VoiceState count) (candidate : Fin count) : Prop :=
  (voices.states candidate).active = true ∧
    selectedCandidate detector evidence voices.states candidate = true

/-- The correction of the outputs corrects every voice, where it may be corrected. -/
theorem corrected_corrects (range : InRange detector evidence) (candidate : Fin count) :
    (voices.observed evidence candidate).Corrects
      ((voices.corrected detector evidence).states candidate)
      (MayCorrect detector evidence voices candidate) := by
  unfold corrected updateCalibratedOutputNotes
  dsimp only
  by_cases general : detector.profileMode ≠ .m3
  · rw [if_pos general]
    exact ⟨rfl, .inl rfl⟩
  · rw [if_neg general]
    have turns := fun decision candidate => @updateCalibratedOutputNote_turn count decision
      candidate detector evidence (voices.frame detector evidence).selected _ range
      (not_not.mp general) (voices.frame detector evidence).selectedVoiceCount
    obtain ⟨found, left⟩ := loop_visit
      (fun decision candidate => (turns decision candidate).emits.others) (voices.start evidence)
      candidate
    generalize loopTo _ (voices.start evidence) candidate = met at found left
    have corrects := (turns met candidate).corrects
    rw [found, ← left] at corrects
    exact corrects

/-- Before the loop over the voices that sound only notes are corrected and evidence is kept
track of. -/
theorem weighed_prepares (range : InRange detector evidence) (candidate : Fin count) :
    (voices.observed evidence candidate).Prepares
      ((voices.weighed detector evidence).states candidate)
      (MayCorrect detector evidence voices candidate) := by
  have corrects := @corrected_corrects _ detector evidence voices range candidate
  obtain ⟨ticks, gap, weighs⟩ := (voices.frame detector evidence).updateEvidence_eq
    (voices.corrected detector evidence).states candidate
  change (voices.observed evidence candidate).Prepares
    ((voices.frame detector evidence).updateEvidence
      (voices.corrected detector evidence).states candidate) _
  rw [weighs]
  exact corrects.prepares ticks gap

/-- The count of the evidence changes no key. -/
theorem keyTable_weighed : keyTable detector (voices.weighed detector evidence).states =
    keyTable detector (voices.corrected detector evidence).states := by
  funext candidate
  obtain ⟨ticks, gap, weighs⟩ := (voices.frame detector evidence).updateEvidence_eq
    (voices.corrected detector evidence).states candidate
  change voiceKeys detector candidate ((voices.frame detector evidence).updateEvidence
    (voices.corrected detector evidence).states candidate) = _
  rw [weighs]
  exact voiceKeys_congr rfl rfl rfl

/-- The first loop emits what it changes of a candidate's keys. -/
theorem continueVoice_emits (range : InRange detector evidence)
    (decision : CandidateDecision count) (candidate : Fin count) :
    Emits detector decision
      ((voices.frame detector evidence).continueVoice decision candidate) candidate :=
  @ContinuationTurn.emits _ (voices.frame detector evidence) decision _ candidate range
    (continueVoice_turn range)

/-- The second loop emits what it changes of a candidate's keys. -/
theorem attackVoice_emits (range : InRange detector evidence)
    (decision : CandidateDecision count) (candidate : Fin count) :
    Emits detector decision
      ((voices.frame detector evidence).attackVoice decision candidate) candidate :=
  @AttackTurn.emits _ (voices.frame detector evidence) decision _ candidate range attackVoice_turn

/-- The loop over the voices that sound, when it comes to a candidate. -/
def continuing (detector : DetectorConfiguration) (evidence : DecisionEvidence count)
    (voices : VoiceState count) : Fin count → CandidateDecision count :=
  loopTo (voices.frame detector evidence).continueVoice (voices.weighed detector evidence)

/-- The loop over the candidates that may attack, when it comes to one. -/
def attacking (detector : DetectorConfiguration) (evidence : DecisionEvidence count)
    (voices : VoiceState count) : Fin count → CandidateDecision count :=
  loopTo (voices.frame detector evidence).attackVoice (voices.continued detector evidence)

/-- The turn of a candidate in the loop over the voices that sound. -/
theorem continued_visit (range : InRange detector evidence) (candidate : Fin count) :
    (voices.continuing detector evidence candidate).states candidate =
        (voices.weighed detector evidence).states candidate ∧
      (voices.continued detector evidence).states candidate =
        ((voices.frame detector evidence).continueVoice
          (voices.continuing detector evidence candidate) candidate).states candidate :=
  loop_visit (fun decision candidate => (@continueVoice_emits _ detector evidence voices range
    decision candidate).others) (voices.weighed detector evidence) candidate

/-- The turn of a candidate in the loop over those that may attack. -/
theorem attacked_visit (range : InRange detector evidence) (candidate : Fin count) :
    (voices.attacking detector evidence candidate).states candidate =
        (voices.continued detector evidence).states candidate ∧
      (voices.attacked detector evidence).states candidate =
        ((voices.frame detector evidence).attackVoice
          (voices.attacking detector evidence candidate) candidate).states candidate :=
  loop_visit (fun decision candidate => (@attackVoice_emits _ detector evidence voices range
    decision candidate).others) (voices.continued detector evidence) candidate

/-- The turns of a candidate in a decision, the one after the other. In the first one it may end or
move, and in the second one it may begin. -/
structure Turns (detector : DetectorConfiguration) (evidence : DecisionEvidence count)
    (voices : VoiceState count) (candidate : Fin count) (next after : CandidateDecision count) :
    Prop where
  prepares : (voices.observed evidence candidate).Prepares
    ((voices.continuing detector evidence candidate).states candidate)
    (MayCorrect detector evidence voices candidate)
  continuation : ContinuationTurn (voices.frame detector evidence)
    (voices.continuing detector evidence candidate) candidate next
  between : (voices.attacking detector evidence candidate).states candidate =
    next.states candidate
  attack : AttackTurn (voices.frame detector evidence)
    (voices.attacking detector evidence candidate) candidate after
  left : (voices.attacked detector evidence).states candidate = after.states candidate

/-- Every candidate takes its two turns in a decision. -/
theorem exists_turns (range : InRange detector evidence) (candidate : Fin count) :
    ∃ next after, Turns detector evidence voices candidate next after := by
  obtain ⟨found, stays⟩ := @continued_visit _ detector evidence voices range candidate
  obtain ⟨between, left⟩ := @attacked_visit _ detector evidence voices range candidate
  refine ⟨_, _, ?_, continueVoice_turn range, between.trans stays, attackVoice_turn, left⟩
  rw [found]
  exact weighed_prepares range candidate

/-- A selected candidate keeps sounding, or keeps silent, in the loop over the voices that
sound. -/
theorem continued_active (range : InRange detector evidence) {candidate : Fin count}
    (selected : selectedCandidate detector evidence voices.states candidate = true) :
    ((voices.continued detector evidence).states candidate).active =
      (voices.states candidate).active := by
  have prepared := (@weighed_prepares _ detector evidence voices range candidate).active
  obtain ⟨found, left⟩ := @continued_visit _ detector evidence voices range candidate
  rw [left]
  refine Eq.trans ?_ prepared
  rw [← found]
  have turn := @continueVoice_turn _ (voices.continuing detector evidence candidate) candidate
    (voices.frame detector evidence) range
  generalize (voices.frame detector evidence).continueVoice
    (voices.continuing detector evidence candidate) candidate = next at turn ⊢
  cases turn with
  | silent silent => rfl
  | kept sounds selected counted state emits plain =>
      rw [state]
      rfl
  | ended sounds unselected because => exact Bool.noConfusion (selected.symm.trans unselected)
  | waits sounds unselected because => exact Bool.noConfusion (selected.symm.trans unselected)

/-- No voice changes its note and its lanes in one decision. -/
def Steady (detector : DetectorConfiguration) (evidence : DecisionEvidence count)
    (voices : VoiceState count) : Prop :=
  detector.laned = true → ∀ candidate, (voices.states candidate).active = true →
    ((voices.weighed detector evidence).states candidate).emittedNote ≠
        (voices.states candidate).emittedNote →
      (voices.observed evidence candidate).projectedOutputStringMask =
        (voices.states candidate).midiVoiceMask

/-- Without lanes there is nothing to change besides the note. -/
theorem steady_of_single (single : detector.laned = false) :
    voices.Steady detector evidence :=
  fun laned => Bool.noConfusion (laned.symm.trans single)

section Accounts

variable (range : InRange detector evidence)

include range

/-- After the correction, the decision accounts for the keys. -/
theorem corrected_accounts : Accounts detector (keyTable detector voices.states)
    (voices.corrected detector evidence) := by
  have start : Accounts detector (keyTable detector voices.states) (voices.start evidence) := by
    rw [← @keyTable_observed _ detector evidence voices]
    exact @accounts_start _ detector (voices.start evidence) rfl
  unfold corrected updateCalibratedOutputNotes
  dsimp only
  by_cases general : detector.profileMode ≠ .m3
  · rw [if_pos general]
    exact start
  · rw [if_neg general]
    refine start.loop (fun decision candidate => (updateCalibratedOutputNote_turn range
      (not_not.mp general) _).emits) ?_ (List.nodup_finRange count)
    intro candidate met found
    exact .inl (congrFun keyTable_observed candidate)

/-- After the evidence has been counted, the buffer has every transition that fits. -/
theorem weighed_filled : (voices.weighed detector evidence).Filled := by
  have start : (voices.start evidence).Filled :=
    ⟨List.forall_mem_nil _, rfl, List.forall_mem_nil _⟩
  have corrected : (voices.corrected detector evidence).Filled := by
    unfold corrected updateCalibratedOutputNotes
    dsimp only
    by_cases general : detector.profileMode ≠ .m3
    · rw [if_pos general]
      exact start
    · rw [if_neg general]
      exact start.loop (fun decision candidate => (updateCalibratedOutputNote_turn range
        (not_not.mp general) _).emits) (List.finRange count)
  exact ⟨corrected.valid, corrected.stored.first, corrected.stored.unplaced⟩

/-- Whatever is requested is valid, and the buffer holds the first of it. -/
theorem attacked_filled : (voices.attacked detector evidence).Filled :=
  ((weighed_filled range).loop (continueVoice_emits range) _).loop (attackVoice_emits range) _

/-- After the evidence has been counted, the decision still accounts for the keys. -/
theorem weighed_accounts : Accounts detector (keyTable detector voices.states)
    (voices.weighed detector evidence) :=
  (corrected_accounts range).of_states _ keyTable_weighed

/-- The loop over the voices that sound, as far as it has come. -/
theorem continued_accounts (steady : voices.Steady detector evidence)
    {candidates : List (Fin count)} (distinct : candidates.Nodup) :
    Accounts detector (keyTable detector voices.states)
      (candidates.foldl (voices.frame detector evidence).continueVoice
        (voices.weighed detector evidence)) := by
  refine (weighed_accounts range).loop (continueVoice_emits range) ?_ distinct
  intro candidate met found
  have prepared := @weighed_prepares _ detector evidence voices range candidate
  by_cases same : ((voices.weighed detector evidence).states candidate).emittedNote =
      (voices.states candidate).emittedNote
  · exact .inl (voiceKeys_congr prepared.active same prepared.midiVoiceMask)
  · right
    obtain ⟨sounds, selected⟩ := prepared.note.resolve_left same
    rw [← found]
    apply (@continueVoice_turn _ met candidate (voices.frame detector evidence) range).keys selected
    intro laned
    rw [found, prepared.projected, prepared.midiVoiceMask]
    exact steady laned candidate sounds same

/-- The first loop keeps the buffer filled. -/
theorem continuing_filled (candidate : Fin count) :
    (voices.continuing detector evidence candidate).Filled :=
  (weighed_filled range).loop (continueVoice_emits range) _

/-- In a steady decision the first loop keeps account of the keys, up to every candidate it comes
to. -/
theorem continuing_accounts (steady : voices.Steady detector evidence) (candidate : Fin count) :
    Accounts detector (keyTable detector voices.states)
      (voices.continuing detector evidence candidate) :=
  continued_accounts range steady (nodup_loopTo candidate)

/-- **What a decision requests.** It closes exactly the keys that the candidates lose from the
decision before, and opens those that they gain, each once for each candidate. -/
theorem attacked_accounts (steady : voices.Steady detector evidence) :
    Accounts detector (keyTable detector voices.states) (voices.attacked detector evidence) := by
  refine (continued_accounts range steady (List.nodup_finRange count)).loop
    (attackVoice_emits range) ?_ (List.nodup_finRange count)
  intro candidate met found
  have continued : met.states candidate = (voices.continued detector evidence).states candidate :=
    found
  rcases (@attackVoice_turn _ met candidate (voices.frame detector evidence)).keys with
    same | ⟨selected, silent⟩
  · right
    rw [← found]
    exact same
  · left
    rw [continued] at silent
    have before := silent
    rw [continued_active range selected] at before
    exact (voiceKeys_inactive silent).trans (voiceKeys_inactive before).symm

end Accounts

end VoiceState

end M3Midi
