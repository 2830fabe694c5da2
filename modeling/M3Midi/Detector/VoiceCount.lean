import M3Midi.Detector.DecisionKeys

/-! # The number of voices

A decision counts the voices that go on, and begins new ones only while there are less than the
polyphony allows (`M3Midi.VoiceState.voiceCount_attacked`). A voice without lanes has one key,
so what such a decision requests fits its buffer with room to spare, and nothing is lost
(`M3Midi.VoiceState.attacked_complete`).
-/

namespace M3Midi

open Foundation CandidateDecision

variable {count : ℕ}

/-- The number of candidates that sound. -/
def voiceCount (states : Fin count → CandidateState) : ℕ :=
  ((List.finRange count).filter fun candidate => (states candidate).active).length

/-- The voices are counted one by one. -/
theorem voiceCount_eq_sum (states : Fin count → CandidateState) :
    voiceCount states = ∑ candidate, if (states candidate).active then 1 else 0 := by
  unfold voiceCount
  rw [← Finset.card_filter]
  change _ = ((List.finRange count).filter fun candidate =>
    decide ((states candidate).active = true)).length
  simp only [Bool.decide_eq_true]

/-- A candidate's turn changes the number of voices by its own. -/
theorem voiceCount_turn {before after : Fin count → CandidateState} {candidate : Fin count}
    (others : ∀ other, other ≠ candidate → after other = before other) :
    voiceCount after + (if (before candidate).active then 1 else 0) =
      voiceCount before + if (after candidate).active then 1 else 0 := by
  have rest : ∑ other ∈ Finset.univ.erase candidate, (if (after other).active then 1 else 0) =
      ∑ other ∈ Finset.univ.erase candidate, if (before other).active then 1 else 0 := by
    apply Finset.sum_congr rfl
    intro other member
    rw [others other (Finset.ne_of_mem_erase member)]
  rw [voiceCount_eq_sum, voiceCount_eq_sum, ← Finset.add_sum_erase _ _ (Finset.mem_univ candidate),
    ← Finset.add_sum_erase Finset.univ (fun other => if (before other).active then 1 else 0)
      (Finset.mem_univ candidate), rest]
  omega

/-- The count depends only on who sounds. -/
theorem voiceCount_congr {first second : Fin count → CandidateState}
    (same : ∀ candidate, (first candidate).active = (second candidate).active) :
    voiceCount first = voiceCount second := by
  unfold voiceCount
  congr 1
  apply List.filter_congr
  intro candidate _
  exact same candidate

/-- If all that sound before sound afterwards, there are no fewer. -/
theorem voiceCount_mono {first second : Fin count → CandidateState}
    (still : ∀ candidate, (first candidate).active = true → (second candidate).active = true) :
    voiceCount first ≤ voiceCount second := by
  apply List.Sublist.length_le
  apply List.monotone_filter_right
  exact still

/-- Without lanes there are as many keys as voices. -/
theorem sum_card_keys {detector : DetectorConfiguration} (single : detector.laned = false)
    (states : Fin count → CandidateState) :
    ∑ candidate, (keyTable detector states candidate).card = voiceCount states := by
  rw [voiceCount_eq_sum]
  apply Finset.sum_congr rfl
  intro candidate _
  exact card_voiceKeys_single single _

section Turns

variable {frame : DecisionFrame count} {decision next : CandidateDecision count}
  {candidate : Fin count}

/-- A voice that goes on is counted, and none begins in the loop over the voices that sound. -/
theorem ContinuationTurn.counts (turn : ContinuationTurn frame decision candidate next) :
    next.activeCount = decision.activeCount + (if (next.states candidate).active then 1 else 0) ∧
      ((next.states candidate).active = true → (decision.states candidate).active = true) := by
  cases turn with
  | silent silent =>
      rw [silent]
      exact ⟨rfl, id⟩
  | kept sounds selected counted state emits plain =>
      have active : (next.states candidate).active = true := by
        rw [state]
        exact sounds
      rw [active, counted]
      exact ⟨rfl, fun _ => sounds⟩
  | ended sounds unselected because =>
      rw [setState_self, setState_activeCount, appendAll_activeCount]
      exact ⟨rfl, fun _ => sounds⟩
  | waits sounds unselected because =>
      rw [countActive_states, setState_self, countActive_activeCount, setState_activeCount]
      refine ⟨?_, fun _ => sounds⟩
      change _ = _ + if (decision.states candidate).active then 1 else 0
      rw [sounds]
      rfl

/-- No voice ends in the loop over the candidates that may attack, and one begins only while
there are less than the polyphony allows. -/
theorem AttackTurn.counts (turn : AttackTurn frame decision candidate next) :
    next.activeCount + (if (decision.states candidate).active then 1 else 0) =
        decision.activeCount + (if (next.states candidate).active then 1 else 0) ∧
      next.activeCount ≤ max decision.activeCount frame.detector.maxPolyphony := by
  cases turn with
  | passed unselected sounds => exact ⟨rfl, le_max_left _ _⟩
  | rested unselected silent =>
      rw [setState_self, setState_activeCount]
      exact ⟨rfl, le_max_left _ _⟩
  | aged selected sounds =>
      rw [setState_self, setState_activeCount]
      exact ⟨rfl, le_max_left _ _⟩
  | refused selected silent because still ticks rest =>
      rw [setState_self, setState_activeCount, still, silent]
      exact ⟨rfl, le_max_left _ _⟩
  | attacking selected silent may early =>
      rw [setState_self, setState_activeCount]
      exact ⟨rfl, le_max_left _ _⟩
  | unplaced selected silent may due laned nowhere =>
      rw [setState_self, setState_activeCount]
      exact ⟨rfl, le_max_left _ _⟩
  | begun selected silent may due placed =>
      rw [countActive_states, setState_self, countActive_activeCount, setState_activeCount,
        appendAll_activeCount, silent]
      have room := may.room
      exact ⟨rfl, le_max_of_le_right room⟩

end Turns

namespace VoiceState

variable {detector : DetectorConfiguration} {evidence : DecisionEvidence count}
  {voices : VoiceState count}

section Counts

variable (range : InRange detector evidence)

include range

/-- When the evidence has been counted, no voice has been, yet. -/
theorem weighed_activeCount : (voices.weighed detector evidence).activeCount = 0 := by
  change (voices.corrected detector evidence).activeCount = 0
  unfold corrected updateCalibratedOutputNotes
  dsimp only
  by_cases general : detector.profileMode ≠ .m3
  · rw [if_pos general]
    rfl
  · rw [if_neg general]
    have kept := @sweep_invariant _ _ (fun decision candidate =>
      decision.updateCalibratedOutputNote detector evidence
        (voices.frame detector evidence).selected candidate
        (voices.frame detector evidence).selectedVoiceCount
        (voices.frame detector evidence).velocity) (fun _ met => met.activeCount = 0)
      (List.finRange count) (voices.start evidence) (List.nodup_finRange count) rfl
    apply kept
    intro visited candidate met _ none
    exact (updateCalibratedOutputNote_turn range (not_not.mp general) _).activeCount.trans none

/-- The voices of the candidates visited so far are counted, and no voice has begun. -/
theorem continued_counts {candidates : List (Fin count)} (distinct : candidates.Nodup) :
    let met := candidates.foldl (voices.frame detector evidence).continueVoice
      (voices.weighed detector evidence)
    met.activeCount = (candidates.filter fun candidate => (met.states candidate).active).length ∧
      ∀ candidate, (met.states candidate).active = true →
        (voices.states candidate).active = true := by
  refine @sweep_invariant _ _ (voices.frame detector evidence).continueVoice
    (fun visited met =>
      met.activeCount = (visited.filter fun candidate => (met.states candidate).active).length ∧
        ∀ candidate, (met.states candidate).active = true →
          (voices.states candidate).active = true) candidates _ distinct ?_ ?_
  · refine ⟨weighed_activeCount range, ?_⟩
    intro candidate sounds
    exact (@weighed_prepares _ detector evidence voices range candidate).active.symm.trans sounds
  · intro visited candidate met fresh ⟨counted, still⟩
    have others := (@continueVoice_emits _ detector evidence voices range met candidate).others
    obtain ⟨counts, sounded⟩ :=
      (@continueVoice_turn _ met candidate (voices.frame detector evidence) range).counts
    constructor
    · have same : (visited.filter fun other => (((voices.frame detector evidence).continueVoice
          met candidate).states other).active) =
          visited.filter fun other => (met.states other).active := by
        apply List.filter_congr
        intro other member
        rw [others other (ne_of_mem_of_not_mem member fresh)]
      rw [List.filter_append, List.length_append, same, ← counted, counts, List.filter_singleton]
      cases (((voices.frame detector evidence).continueVoice met candidate).states
        candidate).active <;> rfl
    · intro other sounds
      by_cases own : other = candidate
      · subst own
        exact still other (sounded sounds)
      · rw [others other own] at sounds
        exact still other sounds

/-- A decision ends with no more voices than there were, or than the polyphony allows. -/
theorem voiceCount_attacked : voiceCount (voices.attacked detector evidence).states ≤
    max (voiceCount voices.states) detector.maxPolyphony := by
  have continued := @continued_counts _ detector evidence voices range _ (List.nodup_finRange count)
  have swept := @sweep_invariant _ _ (voices.frame detector evidence).attackVoice
    (fun _ met => met.activeCount = voiceCount met.states ∧
      voiceCount met.states ≤ max (voiceCount voices.states) detector.maxPolyphony)
    (List.finRange count) (voices.continued detector evidence) (List.nodup_finRange count)
  refine (swept ⟨continued.1, ?_⟩ ?_).2
  · exact le_max_of_le_left (voiceCount_mono continued.2)
  · intro visited candidate met _ ⟨counted, few⟩
    have turn := @attackVoice_turn _ met candidate (voices.frame detector evidence)
    have change := voiceCount_turn
      (@attackVoice_emits _ detector evidence voices range met candidate).others
    obtain ⟨counts, most⟩ := turn.counts
    have same : ((voices.frame detector evidence).attackVoice met candidate).activeCount =
        voiceCount ((voices.frame detector evidence).attackVoice met candidate).states := by
      omega
    refine ⟨same, ?_⟩
    rw [← same]
    refine most.trans (max_le ?_ (le_max_right _ _))
    rw [counted]
    exact few

end Counts

section Room

/-- Two keys for each voice a decision may have, one before and one after it. -/
def singleTransitions : ℕ := 2 * maxVoices

variable (range : InRange detector evidence) (single : detector.laned = false)
  (few : voiceCount voices.states ≤ maxVoices) (polyphony : detector.maxPolyphony ≤ maxVoices)

include range single few

/-- When the loop over the voices that sound comes to a voice that is not selected, the buffer has
room for its release. -/
theorem continuing_room {candidate : Fin count}
    (unselected : selectedCandidate detector evidence voices.states candidate = false)
    (sounds : (voices.states candidate).active = true) :
    (voices.continuing detector evidence candidate).transitions.length + 1 ≤
      maxTickTransitions := by
  have accounts := @continuing_accounts _ detector evidence voices range (steady_of_single single)
    candidate
  have stored := (@continuing_filled _ detector evidence voices range candidate).stored.length
  have still : voiceCount (voices.continuing detector evidence candidate).states ≤
      voiceCount voices.states :=
    voiceCount_mono (continued_counts range (nodup_loopTo candidate)).2
  have prepared := @weighed_prepares _ detector evidence voices range candidate
  have found := (@continued_visit _ detector evidence voices range candidate).1
  have same : keyTable detector voices.states candidate =
      keyTable detector (voices.continuing detector evidence candidate).states candidate := by
    have note : ((voices.weighed detector evidence).states candidate).emittedNote =
        (voices.states candidate).emittedNote := by
      refine prepared.note.resolve_right fun allowed => ?_
      exact Bool.noConfusion (allowed.2.symm.trans unselected)
    unfold keyTable
    rw [found]
    exact (voiceKeys_congr prepared.active note prepared.midiVoiceMask).symm
  have own : (keyTable detector voices.states candidate).card = 1 := by
    unfold keyTable
    rw [card_voiceKeys_single single, if_pos sounds]
  have closed := card_surplus_add_le same.symm
  have opened := card_surplus_add_le same
  rw [sum_card_keys single, own] at closed
  rw [sum_card_keys single, ← same, own] at opened
  have length := @length_eq_card (voices.continuing detector evidence candidate).requested
  rw [accounts.closed, accounts.opened] at length
  unfold maxVoices at few
  unfold maxTickTransitions at stored ⊢
  omega

include polyphony

/-- Without lanes a decision requests no more transitions than fit. -/
theorem attacked_room : (voices.attacked detector evidence).requested.length ≤
    singleTransitions := by
  have accounts := @attacked_accounts _ detector evidence voices range (steady_of_single single)
  have after := @voiceCount_attacked _ detector evidence voices range
  have most := accounts.length_le
  rw [sum_card_keys single, sum_card_keys single] at most
  unfold singleTransitions
  omega

/-- Nothing that a decision without lanes requests is lost. -/
theorem attacked_complete : (voices.attacked detector evidence).transitions.map
      VoiceTransition.appended = (voices.attacked detector evidence).requested := by
  have room := attacked_room range single few polyphony
  have fits : singleTransitions ≤ maxTickTransitions := by decide
  rw [(@attacked_filled _ detector evidence voices range).stored.first]
  exact List.take_of_length_le (room.trans fits)

end Room

end VoiceState

end M3Midi
