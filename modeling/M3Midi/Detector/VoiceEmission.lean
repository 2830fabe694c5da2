import M3Midi.Detector.EmittedKeys

/-! # What a candidate's turn emits

A turn in one of the loops of a decision changes one candidate. It closes the keys that the
candidate's voice loses and opens those that it gains, whatever the buffer still holds; what a
turn can do is said once for each loop.
-/

namespace M3Midi

open Foundation LaneMask

/-- A transition without its place and number. -/
def VoiceTransition.appended (transition : VoiceTransition) : AppendedTransition where
  kind := transition.kind
  note := transition.note
  velocity := transition.velocity
  voiceId := transition.voiceId

/-- A ledger would queue the transition. -/
def AppendedTransition.Valid (appended : AppendedTransition) : Prop :=
  ∀ sampleOffset sequence, GeneratedNoteLedger.validTransition
    { sampleOffset, kind := appended.kind, note := appended.note, velocity := appended.velocity,
      sequence, voiceId := appended.voiceId } = true

namespace CandidateDecision

variable {count : ℕ} {decision next : CandidateDecision count} {candidate other : Fin count}
  {state : CandidateState} {appended more : List AppendedTransition}

section Operations

@[simp] theorem setState_self : (decision.setState candidate state).states candidate = state :=
  Function.update_self _ _ _

/-- The change of one candidate's state leaves the others. -/
theorem setState_of_ne (different : other ≠ candidate) :
    (decision.setState candidate state).states other = decision.states other :=
  Function.update_of_ne different _ _

@[simp] theorem setState_activeCount :
    (decision.setState candidate state).activeCount = decision.activeCount := rfl

@[simp] theorem setState_setState {first second : CandidateState} :
    (decision.setState candidate first).setState candidate second =
      decision.setState candidate second := by
  unfold setState
  dsimp only
  rw [Function.update_idem]

@[simp] theorem countActive_states : decision.countActive.states = decision.states := rfl

@[simp] theorem countActive_activeCount :
    decision.countActive.activeCount = decision.activeCount + 1 := rfl

@[simp] theorem appendAll_states : (decision.appendAll appended).states = decision.states := by
  induction appended generalizing decision with
  | nil => rfl
  | cons transition appended ih => exact ih

@[simp] theorem appendAll_activeCount :
    (decision.appendAll appended).activeCount = decision.activeCount := by
  induction appended generalizing decision with
  | nil => rfl
  | cons transition appended ih => exact ih

/-- Transitions may be appended in two parts. -/
theorem appendAll_append :
    decision.appendAll (appended ++ more) = (decision.appendAll appended).appendAll more :=
  List.foldl_append

/-- Appending does not look at the candidates. -/
theorem setState_appendAll :
    (decision.setState candidate state).appendAll appended =
      (decision.appendAll appended).setState candidate state := by
  induction appended generalizing decision with
  | nil => rfl
  | cons transition appended ih => exact @ih (decision.appendTransition transition)

end Operations

section Buffer

/-- The buffer holds the first transitions that were requested. -/
structure Stored (decision : CandidateDecision count) : Prop where
  first : decision.transitions.map VoiceTransition.appended =
    decision.requested.take maxTickTransitions
  unplaced : ∀ transition ∈ decision.transitions, transition.sampleOffset = 0

/-- A decision goes on with a list of transitions. -/
structure Appends (decision next : CandidateDecision count) (appended : List AppendedTransition) :
    Prop where
  requested : next.requested = decision.requested ++ appended
  stored : decision.Stored → next.Stored

/-- As many transitions are stored as are requested, up to the size of the buffer. -/
theorem Stored.length (stored : decision.Stored) :
    decision.transitions.length = min maxTickTransitions decision.requested.length := by
  have mapped := congrArg List.length stored.first
  rwa [List.length_map, List.length_take] at mapped

/-- A transition that is appended is stored while there is room. -/
theorem Stored.appendTransition (stored : decision.Stored) (transition : AppendedTransition) :
    (decision.appendTransition transition).Stored := by
  have length := stored.length
  unfold CandidateDecision.appendTransition FixedVector.pushBack
  by_cases full : decision.transitions.length ≥ maxTickTransitions
  · rw [if_pos full]
    refine ⟨?_, stored.unplaced⟩
    change decision.transitions.map _ = (decision.requested ++ [transition]).take _
    rw [stored.first, List.take_append_of_le_length (by omega)]
  · rw [if_neg full]
    constructor
    · change (decision.transitions ++ [_]).map _ = (decision.requested ++ [transition]).take _
      rw [List.map_append, stored.first, List.take_of_length_le (by omega),
        List.take_of_length_le]
      · rfl
      · rw [List.length_append, List.length_singleton]
        omega
    · intro last member
      rcases List.mem_append.mp member with earlier | same
      · exact stored.unplaced last earlier
      · rw [List.mem_singleton.mp same]

/-- To append a list of transitions requests exactly these. -/
theorem appends_appendAll (decision : CandidateDecision count)
    (appended : List AppendedTransition) : decision.Appends (decision.appendAll appended) appended := by
  induction appended generalizing decision with
  | nil => exact ⟨(List.append_nil _).symm, id⟩
  | cons transition appended ih =>
      have rest := ih (decision.appendTransition transition)
      refine ⟨rest.requested.trans ?_, fun stored => rest.stored (stored.appendTransition _)⟩
      change (decision.requested ++ [transition]) ++ appended = _
      rw [List.append_assoc, List.singleton_append]

/-- A state that is changed behind the transitions requests nothing more. -/
theorem Appends.setState (appends : decision.Appends next appended) (candidate : Fin count)
    (state : CandidateState) : decision.Appends (next.setState candidate state) appended :=
  ⟨appends.requested, fun stored => ⟨(appends.stored stored).first,
    (appends.stored stored).unplaced⟩⟩

/-- A voice that is counted behind the transitions requests nothing more. -/
theorem Appends.countActive (appends : decision.Appends next appended) :
    decision.Appends next.countActive appended :=
  ⟨appends.requested, fun stored => ⟨(appends.stored stored).first,
    (appends.stored stored).unplaced⟩⟩

/-- A decision requests nothing of itself. -/
theorem appends_nil (decision : CandidateDecision count) : decision.Appends decision [] :=
  ⟨(List.append_nil _).symm, id⟩

end Buffer

/-- A turn of a candidate emits what its voice loses and gains. -/
structure Emits (detector : DetectorConfiguration) (decision next : CandidateDecision count)
    (candidate : Fin count) : Prop where
  others : ∀ other, other ≠ candidate → next.states other = decision.states other
  emitted : ∃ appended, decision.Appends next appended ∧
    keysOf .noteOff appended = (voiceKeys detector candidate (decision.states candidate) \
      voiceKeys detector candidate (next.states candidate)).val ∧
    keysOf .noteOn appended = (voiceKeys detector candidate (next.states candidate) \
      voiceKeys detector candidate (decision.states candidate)).val ∧
    ∀ transition ∈ appended, transition.Valid

section Emits

variable {detector : DetectorConfiguration}

/-- A decision that does nothing emits what the keys have changed by: nothing. -/
theorem emits_refl (decision : CandidateDecision count) (candidate : Fin count) :
    Emits detector decision decision candidate := by
  refine ⟨fun other _ => rfl, [], appends_nil decision, ?_, ?_, List.forall_mem_nil _⟩
  · rw [sdiff_self]
    rfl
  · rw [sdiff_self]
    rfl

/-- Afterwards the candidate is kept otherwise, with the same keys. -/
theorem Emits.setState (emits : Emits detector decision next candidate)
    (same : voiceKeys detector candidate state =
      voiceKeys detector candidate (next.states candidate)) :
    Emits detector decision (next.setState candidate state) candidate := by
  obtain ⟨appended, appends, closed, opened, valid⟩ := emits.emitted
  refine ⟨?_, appended, appends.setState candidate state, ?_, ?_, valid⟩
  · intro other different
    rw [setState_of_ne different]
    exact emits.others other different
  · rw [setState_self, same]
    exact closed
  · rw [setState_self, same]
    exact opened

/-- A voice that is counted changes no key. -/
theorem Emits.countActive (emits : Emits detector decision next candidate) :
    Emits detector decision next.countActive candidate := by
  obtain ⟨appended, appends, closed, opened, valid⟩ := emits.emitted
  exact ⟨emits.others, appended, appends.countActive, closed, opened, valid⟩

/-- Beforehand the candidate was kept otherwise, with the same keys. -/
theorem Emits.of_setState (emits : Emits detector (decision.setState candidate state) next candidate)
    (same : voiceKeys detector candidate state =
      voiceKeys detector candidate (decision.states candidate)) :
    Emits detector decision next candidate := by
  obtain ⟨appended, appends, closed, opened, valid⟩ := emits.emitted
  rw [setState_self, same] at closed opened
  refine ⟨?_, appended, ⟨appends.requested, fun stored => appends.stored ?_⟩, closed, opened, valid⟩
  · intro other different
    rw [emits.others other different, setState_of_ne different]
  · exact ⟨stored.first, stored.unplaced⟩

/-- A state with the same keys emits nothing. -/
theorem emits_setState (same : voiceKeys detector candidate state =
      voiceKeys detector candidate (decision.states candidate)) :
    Emits detector decision (decision.setState candidate state) candidate :=
  (emits_refl decision candidate).setState same

end Emits

section Transitions

variable {detector : DetectorConfiguration}

/-- The notes and velocities of a detector are MIDI data. -/
structure InRange (detector : DetectorConfiguration) (count velocity : ℕ) : Prop where
  notes : detector.lowestNote + count ≤ 128
  velocity_pos : 0 < velocity
  velocity_le : velocity ≤ 127

/-- A note-off of a MIDI note and a voice that exists is a valid transition. -/
theorem valid_off {note voiceId : ℕ} (low : note ≤ 127)
    (voice : voiceId = unassignedVoiceId ∨ voiceId < maxVoices) :
    AppendedTransition.Valid { kind := .noteOff, note := note, voiceId := voiceId } := by
  intro sampleOffset sequence
  unfold GeneratedNoteLedger.validTransition
  dsimp only
  rw [decide_eq_true low, decide_eq_true voice]
  rfl

/-- A note-on of a MIDI note, with a velocity and a voice that exist, is a valid transition. -/
theorem valid_on {note velocity voiceId : ℕ} (low : note ≤ 127)
    (range : 0 < velocity ∧ velocity ≤ 127)
    (voice : voiceId = unassignedVoiceId ∨ voiceId < maxVoices) :
    AppendedTransition.Valid
      { kind := .noteOn, note := note, velocity := velocity, voiceId := voiceId } := by
  intro sampleOffset sequence
  unfold GeneratedNoteLedger.validTransition
  dsimp only
  rw [decide_eq_true low, decide_eq_true range, decide_eq_true voice]
  rfl

/-- The note of a candidate is a MIDI note, when the range of the candidates is one. -/
theorem detectedNote_le (notes : detector.lowestNote + count ≤ 128) (candidate : Fin count) :
    detectedNote detector candidate ≤ 127 := by
  have below := candidate.isLt
  unfold detectedNote
  omega

/-- The note that a candidate puts out is a MIDI note. -/
theorem outputNote_le (notes : detector.lowestNote + count ≤ 128) (candidate : Fin count)
    (state : CandidateState) : outputNote detector candidate state ≤ 127 := by
  unfold outputNote
  split_ifs with emitted
  · omega
  · exact detectedNote_le notes candidate

/-- A state that has put out a MIDI note puts out that one. -/
theorem outputNote_of_lt {note : ℕ} (low : note < 128) (state : CandidateState) :
    outputNote detector candidate { state with emittedNote := note } = note := if_pos low

/-- In the M3 profile with per-voice routing the voices have lanes. -/
theorem laned_of_perVoice (m3 : detector.profileMode = .m3)
    (routing : detector.midiRouting = .perVoice) : detector.laned = true := by
  unfold DetectorConfiguration.laned
  rw [m3, routing]
  rfl

/-- With single routing the voices have no lanes. -/
theorem not_laned_of_single (routing : detector.midiRouting = .single) :
    detector.laned = false := by
  unfold DetectorConfiguration.laned
  rw [routing]
  exact Bool.and_false _

/-- A correction changes the emitted note and nothing else. -/
theorem changeCandidateOutputNote_state (velocity note : ℕ) :
    (decision.changeCandidateOutputNote detector candidate velocity note).states candidate =
      { decision.states candidate with
        emittedNote := ((decision.changeCandidateOutputNote detector candidate velocity
          note).states candidate).emittedNote } := by
  unfold changeCandidateOutputNote
  dsimp only
  split_ifs
  · rfl
  · rfl
  · rw [setState_self]

/-- A correction closes the voice under its old note and opens it under the new one. The keys that
it loses are those of the old note, and the keys that it gains those of the new one. -/
theorem changeCandidateOutputNote_emits {velocity : ℕ} (range : InRange detector count velocity)
    (m3 : detector.profileMode = .m3) (sounds : (decision.states candidate).active = true)
    (note : ℕ) :
    Emits detector decision (decision.changeCandidateOutputNote detector candidate velocity note)
      candidate := by
  unfold changeCandidateOutputNote
  dsimp only
  by_cases high : note ≥ 128
  · rw [if_pos high]
    exact emits_refl decision candidate
  by_cases same : decision.candidateOutputNote detector candidate = note
  · rw [if_neg high, if_pos same]
    exact emits_refl decision candidate
  rw [if_neg high, if_neg same]
  have low : note < 128 := not_le.mp high
  have old := outputNote_le range.notes candidate (decision.states candidate)
  have moved := @outputNote_of_lt count candidate detector note low (decision.states candidate)
  have different : outputNote detector candidate (decision.states candidate) ≠ note := same
  refine ⟨fun other different => ?_, _, (appends_appendAll decision _).setState candidate _, ?_⟩
  · rw [setState_of_ne different, appendAll_states]
  rw [setState_self]
  cases routing : detector.midiRouting with
  | perVoice =>
      have laned := laned_of_perVoice m3 routing
      have pairs := keysOf_flatMap (stringsOf (decision.states candidate).midiVoiceMask)
        (fun lane : Fin maxVoices =>
          { kind := .noteOff, note := decision.candidateOutputNote detector candidate
            voiceId := lane })
        (fun lane : Fin maxVoices =>
          { kind := .noteOn, note := note, velocity := velocity, voiceId := lane })
        (fun _ => rfl) (fun _ => rfl)
      rw [voiceKeys_laned laned sounds, voiceKeys_laned laned (by exact sounds), moved,
        laneKeys_sdiff_of_ne different, laneKeys_sdiff_of_ne different.symm, val_laneKeys, val_laneKeys]
      refine ⟨pairs.1, pairs.2, ?_⟩
      intro transition member
      obtain ⟨lane, -, pair⟩ := List.mem_flatMap.mp member
      rcases List.mem_cons.mp pair with rfl | second
      · exact valid_off old (.inr lane.isLt)
      · rw [List.mem_singleton.mp second]
        exact valid_on (by omega) ⟨range.velocity_pos, range.velocity_le⟩ (.inr lane.isLt)
  | single =>
      have single := not_laned_of_single routing
      rw [voiceKeys_single single sounds, voiceKeys_single single (by exact sounds), moved]
      have apart : ∀ first second : VoiceKey, first ≠ second →
          ({first} : Finset VoiceKey) \ {second} = {first} := by
        intro first second different
        apply Finset.sdiff_eq_self_of_disjoint
        rwa [Finset.disjoint_singleton]
      have keys : (outputNote detector candidate (decision.states candidate),
          unassignedVoiceId) ≠ (note, unassignedVoiceId) := fun equal =>
        different (congrArg Prod.fst equal)
      rw [apart _ _ keys, apart _ _ keys.symm]
      refine ⟨rfl, rfl, ?_⟩
      intro transition member
      rcases List.mem_cons.mp member with rfl | second
      · exact valid_off old (.inl rfl)
      · rw [List.mem_singleton.mp second]
        exact valid_on (by omega) ⟨range.velocity_pos, range.velocity_le⟩ (.inl rfl)

/-- The note-offs of a voice. -/
def offTransitions (detector : DetectorConfiguration) (decision : CandidateDecision count)
    (candidate : Fin count) : List AppendedTransition :=
  let note := decision.candidateOutputNote detector candidate
  if detector.laned then
    (stringsOf (decision.states candidate).midiVoiceMask).map fun string : Fin maxVoices =>
      { kind := .noteOff, note := note, voiceId := string }
  else [{ kind := .noteOff, note := note }]

/-- The note-offs close the keys of the voice. -/
theorem offTransitions_keys (sounds : (decision.states candidate).active = true) :
    keysOf .noteOff (offTransitions detector decision candidate) =
        (voiceKeys detector candidate (decision.states candidate)).val ∧
      keysOf .noteOn (offTransitions detector decision candidate) = 0 := by
  unfold offTransitions
  cases laned : detector.laned with
  | true =>
      rw [if_pos rfl, voiceKeys_laned laned sounds]
      exact keysOf_offLanes _ _
  | false =>
      rw [if_neg Bool.false_ne_true, voiceKeys_single laned sounds]
      exact ⟨rfl, rfl⟩

/-- What ends a voice consists of valid transitions. -/
theorem offTransitions_valid (notes : detector.lowestNote + count ≤ 128) :
    ∀ transition ∈ offTransitions detector decision candidate, transition.Valid := by
  have low := outputNote_le notes candidate (decision.states candidate)
  intro transition member
  unfold offTransitions at member
  dsimp only at member
  split_ifs at member with laned
  · obtain ⟨string, -, rfl⟩ := List.mem_map.mp member
    exact valid_off low (.inr string.isLt)
  · rw [List.mem_singleton.mp member]
    exact valid_off low (.inl rfl)

/-- A release appends the note-offs, or is refused for want of room. -/
theorem appendCandidateNoteOff_cases (detector : DetectorConfiguration)
    (decision : CandidateDecision count) (candidate : Fin count) :
    decision.appendCandidateNoteOff detector candidate =
        (true, decision.appendAll (offTransitions detector decision candidate)) ∨
      (decision.appendCandidateNoteOff detector candidate = (false, decision) ∧
        (maxTickTransitions < decision.transitions.length +
            (offTransitions detector decision candidate).length ∨
          decision.transitions.length = maxTickTransitions)) := by
  unfold appendCandidateNoteOff offTransitions
  dsimp only
  cases detector.laned with
  | true =>
      rw [if_pos rfl, if_pos rfl]
      split_ifs with full
      · right
        refine ⟨rfl, ?_⟩
        rw [List.length_map, length_stringsOf]
        omega
      · exact .inl rfl
  | false =>
      rw [if_neg Bool.false_ne_true, if_neg Bool.false_ne_true]
      split_ifs with full
      · exact .inr ⟨rfl, .inr full⟩
      · exact .inl rfl

end Transitions

end CandidateDecision

end M3Midi
