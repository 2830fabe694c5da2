import M3Midi.Detector.LedgerAgreement
import M3Midi.Foundation.Streak

/-! # How long voices take

A voice begins when its candidate has been attacking for long enough without a break
(`M3Midi.DetectorSession.attack_streak`), and ends when it is handed off or its candidate has not
been selected for long enough without a break (`M3Midi.DetectorSession.release_streak`). Without
lanes it does end then (`M3Midi.DetectorSession.released_of_unselected`), and in the general
profile it goes on while its candidate is above the threshold
(`M3Midi.DetectorSession.sustained`).
-/

namespace M3Midi

open Foundation CandidateDecision GeneratedNoteLedger

variable {count : ℕ}

/-- A voice does not attack, and a silent candidate does not wait for a release. -/
structure CandidateState.Timed (state : CandidateState) : Prop where
  settled : state.active = true → state.attackTicks = 0
  rested : state.active = false → state.releaseTicks = 0

namespace VoiceState

variable {detector : DetectorConfiguration} {evidence : DecisionEvidence count}
  {voices : VoiceState count} {candidate : Fin count}

/-- The candidate is silent and selected, and the energy is not falling. -/
structure Attacking (detector : DetectorConfiguration) (evidence : DecisionEvidence count)
    (voices : VoiceState count) (candidate : Fin count) : Prop where
  silent : (voices.states candidate).active = false
  selected : selectedCandidate detector evidence voices.states candidate = true
  energy : evidence.attackEnergy = true

/-- The candidate sounds and is not selected. -/
structure Coasting (detector : DetectorConfiguration) (evidence : DecisionEvidence count)
    (voices : VoiceState count) (candidate : Fin count) : Prop where
  sounds : (voices.states candidate).active = true
  unselected : selectedCandidate detector evidence voices.states candidate = false

section Ticks

variable {next after : CandidateDecision count}
  (turns : Turns detector evidence voices candidate next after)

include turns

/-- The first loop leaves the count of the attack to the second. -/
theorem Turns.attackTicks_met :
    ((voices.continuing detector evidence candidate).states candidate).attackTicks = (voices.states candidate).attackTicks := by
  rw [turns.prepares.others]
  rfl

/-- The count of the release is as before when the first loop comes to the candidate. -/
theorem Turns.releaseTicks_met :
    ((voices.continuing detector evidence candidate).states candidate).releaseTicks = (voices.states candidate).releaseTicks := by
  rw [turns.prepares.others]
  rfl

theorem Turns.active_met :
    ((voices.continuing detector evidence candidate).states candidate).active =
      (voices.states candidate).active := turns.prepares.active

/-- A candidate that is silent after the loop over the voices that sound has been silent, or
ends in it. -/
theorem Turns.silent_next (silent : (next.states candidate).active = false) :
    ((voices.states candidate).active = false ∧
        (next.states candidate).attackTicks = (voices.states candidate).attackTicks ∧
        (next.states candidate).releaseTicks = (voices.states candidate).releaseTicks) ∨
      (Coasting detector evidence voices candidate ∧ next.states candidate = {}) := by
  have active := turns.active_met
  cases turns.continuation with
  | silent before =>
      exact .inl ⟨active.symm.trans before, turns.attackTicks_met, turns.releaseTicks_met⟩
  | kept sounds selected counted state emits plain =>
      rw [state] at silent
      exact absurd sounds (ne_true_of_eq_false silent)
  | ended sounds unselected because =>
      rw [setState_self]
      exact .inr ⟨⟨active.symm.trans sounds, unselected⟩, rfl⟩
  | waits sounds unselected because =>
      rw [countActive_states, setState_self] at silent
      exact absurd sounds (ne_true_of_eq_false silent)

/-- A candidate that sounds after the loop over the voices that sound has sounded. -/
theorem Turns.sounds_next (sounds : (next.states candidate).active = true) :
    (voices.states candidate).active = true ∧
      (next.states candidate).attackTicks = (voices.states candidate).attackTicks ∧
      ((next.states candidate).releaseTicks = 0 ∨
        (Coasting detector evidence voices candidate ∧
          (next.states candidate).releaseTicks =
            min ((voices.states candidate).releaseTicks + 1) wordLimit)) := by
  have active := turns.active_met
  have attacks := turns.attackTicks_met
  have releases := turns.releaseTicks_met
  cases turns.continuation with
  | silent before => exact absurd sounds (ne_true_of_eq_false before)
  | kept before selected counted state emits plain =>
      rw [state]
      exact ⟨active.symm.trans before, attacks, .inl rfl⟩
  | ended before unselected because =>
      rw [setState_self] at sounds
      cases sounds
  | waits before unselected because =>
      rw [countActive_states, setState_self]
      have waited : ((voices.continuing detector evidence candidate).states
          candidate).waited.releaseTicks = min ((voices.states candidate).releaseTicks + 1) wordLimit := by
        rw [← releases]
        rfl
      exact ⟨active.symm.trans before, attacks,
        .inr ⟨⟨active.symm.trans before, unselected⟩, waited⟩⟩

/-- In a decision a candidate attacks on, or starts again; a voice that begins has attacked for
long enough. -/
theorem Turns.attack_ticks (timed : (voices.states candidate).Timed) :
    ((after.states candidate).attackTicks = 0 ∨
        (Attacking detector evidence voices candidate ∧
          (after.states candidate).attackTicks ≤ (voices.states candidate).attackTicks + 1 ∧
          (after.states candidate).active = false)) ∧
      ((voices.states candidate).active = false → (after.states candidate).active = true →
        Attacking detector evidence voices candidate ∧
          detector.attackDecisions ≤ (voices.states candidate).attackTicks + 1) := by
  have between := turns.between
  have attacks : ((voices.attacking detector evidence candidate).states candidate).active = false →
      (voices.frame detector evidence).selected candidate = true →
      (voices.frame detector evidence).MayAttack (voices.attacking detector evidence candidate)
        candidate →
        Attacking detector evidence voices candidate ∧
          ((voices.attacking detector evidence candidate).states candidate).attackTicks =
            (voices.states candidate).attackTicks := by
    intro silent selected may
    rw [between] at silent ⊢
    rcases turns.silent_next silent with ⟨before, ticks, -⟩ | ⟨coasting, -⟩
    · exact ⟨⟨before, selected, may.energy⟩, ticks⟩
    · exact absurd selected (ne_true_of_eq_false coasting.unselected)
  have settled :
      ((voices.attacking detector evidence candidate).states candidate).active = true →
        ((voices.attacking detector evidence candidate).states candidate).attackTicks = 0 ∧
          (voices.states candidate).active = true := by
    intro sounds
    rw [between] at sounds ⊢
    obtain ⟨before, ticks, -⟩ := turns.sounds_next sounds
    exact ⟨ticks.trans (timed.settled before), before⟩
  cases turns.attack with
  | passed unselected sounds =>
      refine ⟨.inl (settled sounds).1, fun silent _ => ?_⟩
      exact absurd (settled sounds).2 (ne_true_of_eq_false silent)
  | rested unselected silent =>
      rw [setState_self]
      exact ⟨.inl rfl, fun _ sounds => absurd sounds (ne_true_of_eq_false silent)⟩
  | aged selected sounds =>
      rw [setState_self]
      refine ⟨.inl (settled sounds).1, fun silent _ => ?_⟩
      exact absurd (settled sounds).2 (ne_true_of_eq_false silent)
  | refused selected silent because still ticks rest =>
      rw [setState_self]
      exact ⟨.inl ticks, fun _ sounds => absurd sounds (ne_true_of_eq_false still)⟩
  | attacking selected silent may early =>
      obtain ⟨rising, ticks⟩ := attacks silent selected may
      rw [setState_self, ← ticks]
      exact ⟨.inr ⟨rising, Nat.min_le_left _ _, silent⟩,
        fun _ sounds => absurd sounds (ne_true_of_eq_false silent)⟩
  | unplaced selected silent may due laned nowhere =>
      obtain ⟨rising, ticks⟩ := attacks silent selected may
      rw [setState_self, ← ticks]
      exact ⟨.inr ⟨rising, due.trans (Nat.min_le_left _ _), silent⟩,
        fun _ sounds => absurd sounds (ne_true_of_eq_false silent)⟩
  | begun selected silent may due placed =>
      obtain ⟨rising, ticks⟩ := attacks silent selected may
      rw [countActive_states, setState_self, ← ticks]
      exact ⟨.inl rfl, fun _ _ => ⟨rising, due.trans (Nat.min_le_left _ _)⟩⟩

/-- In a decision a voice waits on, or does not wait any more. -/
theorem Turns.release_ticks (timed : (voices.states candidate).Timed) :
    (after.states candidate).releaseTicks = 0 ∨
      (Coasting detector evidence voices candidate ∧
        (after.states candidate).releaseTicks ≤ (voices.states candidate).releaseTicks + 1 ∧
        (after.states candidate).active = true) := by
  have between := turns.between
  cases turns.attack with
  | passed unselected sounds =>
      rw [between] at sounds ⊢
      obtain ⟨-, -, none | ⟨coasting, waited⟩⟩ := turns.sounds_next sounds
      · exact .inl none
      · exact .inr ⟨coasting, waited.trans_le (Nat.min_le_left _ _), sounds⟩
  | rested unselected silent =>
      rw [setState_self]
      change ((voices.attacking detector evidence candidate).states candidate).releaseTicks =
        0 ∨ _
      rw [between] at silent ⊢
      rcases turns.silent_next silent with ⟨before, -, ticks⟩ | ⟨-, ended⟩
      · exact .inl (ticks.trans (timed.rested before))
      · rw [ended]
        exact .inl rfl
  | aged selected sounds =>
      rw [setState_self]
      exact .inl rfl
  | refused selected silent because still ticks rest =>
      rw [setState_self]
      exact .inl rest
  | attacking selected silent may early =>
      rw [setState_self]
      exact .inl rfl
  | unplaced selected silent may due laned nowhere =>
      rw [setState_self]
      exact .inl rfl
  | begun selected silent may due placed =>
      rw [countActive_states, setState_self]
      exact .inl rfl

/-- After a decision a voice does not attack, and a silent candidate does not wait. -/
theorem Turns.timed (timed : (voices.states candidate).Timed) :
    (after.states candidate).Timed := by
  constructor
  · intro sounds
    rcases (turns.attack_ticks timed).1 with none | ⟨-, -, silent⟩
    · exact none
    · exact absurd sounds (ne_true_of_eq_false silent)
  · intro silent
    rcases turns.release_ticks timed with none | ⟨-, -, sounds⟩
    · exact none
    · exact absurd sounds (ne_true_of_eq_false silent)

/-- A voice that ends in a decision is handed off, or has waited for long enough. -/
theorem Turns.ends (sounds : (voices.states candidate).active = true)
    (silent : (after.states candidate).active = false) :
    Coasting detector evidence voices candidate ∧
      ((voices.frame detector evidence).handsOff (voices.continuing detector evidence candidate)
          candidate = true ∨
        detector.releaseDecisions ≤ (voices.states candidate).releaseTicks + 1) := by
  have ended : (next.states candidate).active = false := by
    rw [← turns.between]
    cases turns.attack with
    | passed unselected still => exact silent
    | rested unselected rests => exact rests
    | aged selected still =>
        rw [setState_self] at silent
        exact silent
    | refused selected rests because still ticks rest => exact rests
    | attacking selected rests may early => exact rests
    | unplaced selected rests may due laned nowhere => exact rests
    | begun selected rests may due placed => exact rests
  have active := turns.active_met
  have ticks := turns.releaseTicks_met
  cases turns.continuation with
  | silent before => exact absurd (active.symm.trans before) (ne_false_of_eq_true sounds)
  | kept before selected counted state emits plain =>
      rw [state] at ended
      exact absurd before (ne_true_of_eq_false ended)
  | ended before unselected because =>
      refine ⟨⟨sounds, unselected⟩, because.imp_right fun due => ?_⟩
      have least : detector.releaseDecisions ≤
          (voices.frame detector evidence).candidateReleaseDecisions
            (voices.continuing detector evidence candidate) candidate := by
        unfold DecisionFrame.candidateReleaseDecisions
        dsimp only
        split_ifs
        · exact le_rfl
        · exact le_max_left _ _
        · exact le_rfl
      have waited : ((voices.continuing detector evidence candidate).states
          candidate).waited.releaseTicks ≤ (voices.states candidate).releaseTicks + 1 := by
        rw [← ticks]
        exact Nat.min_le_left _ _
      exact (least.trans due).trans waited
  | waits before unselected because =>
      rw [countActive_states, setState_self] at ended
      exact absurd before (ne_true_of_eq_false ended)

/-- An unselected candidate that is silent stays silent. -/
theorem Turns.rests (unselected : selectedCandidate detector evidence voices.states candidate = false)
    (silent : (next.states candidate).active = false) : (after.states candidate).active = false := by
  have between := turns.between
  cases turns.attack with
  | passed other sounds =>
      rw [between] at sounds
      exact absurd sounds (ne_true_of_eq_false silent)
  | rested other rests =>
      rw [setState_self]
      exact rests
  | aged selected sounds => exact Bool.noConfusion (selected.symm.trans unselected)
  | refused selected rests because still ticks rest =>
      exact Bool.noConfusion (selected.symm.trans unselected)
  | attacking selected rests may early => exact Bool.noConfusion (selected.symm.trans unselected)
  | unplaced selected rests may due laned nowhere =>
      exact Bool.noConfusion (selected.symm.trans unselected)
  | begun selected rests may due placed => exact Bool.noConfusion (selected.symm.trans unselected)

/-- Without lanes an unselected voice ends, or waits on because it has not waited long enough. -/
theorem Turns.waits (range : InRange detector evidence) (single : detector.laned = false)
    (few : voiceCount voices.states ≤ maxVoices)
    (unselected : selectedCandidate detector evidence voices.states candidate = false)
    (sounds : (voices.states candidate).active = true) :
    (after.states candidate).active = false ∨
      ((after.states candidate).releaseTicks =
          min ((voices.states candidate).releaseTicks + 1) wordLimit ∧
        (after.states candidate).releaseTicks <
          (voices.frame detector evidence).candidateReleaseDecisions
            (voices.continuing detector evidence candidate) candidate) := by
  have between := turns.between
  have active := turns.active_met
  have ticks := turns.releaseTicks_met
  have room := @continuing_room _ detector evidence voices range single few candidate unselected
    sounds
  cases turns.continuation with
  | silent before => exact absurd (active.symm.trans before) (ne_false_of_eq_true sounds)
  | kept before selected counted state emits plain =>
      exact Bool.noConfusion (selected.symm.trans unselected)
  | ended before other because =>
      left
      apply turns.rests unselected
      rw [setState_self]
  | waits before other because =>
      right
      have one : (offTransitions (voices.frame detector evidence).detector
          (voices.continuing detector evidence candidate) candidate).length = 1 := by
        unfold offTransitions
        change (if detector.laned then _ else _ : List AppendedTransition).length = 1
        rw [if_neg (ne_true_of_eq_false single)]
        rfl
      have early : ¬ (voices.frame detector evidence).ReleaseDue
          (voices.continuing detector evidence candidate) candidate := by
        rcases because with ⟨-, early⟩ | full | full
        · exact early
        · omega
        · omega
      have waited : (after.states candidate).releaseTicks =
          ((voices.continuing detector evidence candidate).states
            candidate).waited.releaseTicks := by
        rw [countActive_states, setState_self] at between
        cases turns.attack with
        | passed other sounds => rw [between]
        | rested other rests => rw [setState_self, between]
        | aged selected sounds => exact Bool.noConfusion (selected.symm.trans unselected)
        | refused selected rests because still ticks rest =>
            exact Bool.noConfusion (selected.symm.trans unselected)
        | attacking selected rests may early =>
            exact Bool.noConfusion (selected.symm.trans unselected)
        | unplaced selected rests may due laned nowhere =>
            exact Bool.noConfusion (selected.symm.trans unselected)
        | begun selected rests may due placed =>
            exact Bool.noConfusion (selected.symm.trans unselected)
      rw [waited]
      refine ⟨?_, not_le.mp early⟩
      rw [← ticks]
      rfl

end Ticks

end VoiceState

namespace DetectorSession

variable {session : DetectorSession count}

/-- The candidates of a sound detector take their time. -/
structure Timed (session : DetectorSession count) : Prop where
  sound : session.Sound
  candidates : ∀ candidate, (session.voices.states candidate).Timed

/-- A decision weighs one, everything else nothing. -/
def decisions : DetectorEvent count → ℕ
  | .decide _ => 1
  | .loseSignal => 0
  | .retune _ => 0

/-- In a decision the candidate attacks. -/
def Attacks (candidate : Fin count) (session : DetectorSession count)
    (event : DetectorEvent count) : Prop :=
  ∀ evidence, event = .decide evidence →
    session.voices.Attacking session.detector evidence candidate

/-- In a decision the candidate sounds and is not selected. -/
def Coasts (candidate : Fin count) (session : DetectorSession count)
    (event : DetectorEvent count) : Prop :=
  ∀ evidence, event = .decide evidence →
    session.voices.Coasting session.detector evidence candidate

/-- Every event keeps the counts within their bounds. -/
theorem Timed.step (timed : session.Timed) (event : DetectorEvent count) :
    ((machine count).step session event).1.Timed := by
  refine ⟨timed.sound.step event, ?_⟩
  intro candidate
  have own := timed.candidates candidate
  cases event with
  | decide evidence =>
      obtain ⟨next, after, turns⟩ := @VoiceState.exists_turns _ session.detector
        evidence session.voices (timed.sound.inRange evidence) candidate
      have later := turns.timed own
      rw [← turns.left] at later
      exact ⟨later.settled, later.rested⟩
  | loseSignal => exact ⟨own.settled, own.rested⟩
  | retune candidate => exact own

/-- They are at zero at the start. -/
theorem start_timed {fresh : DetectorConfiguration} {sampleRate : Option ℚ}
    {config : PersistentConfig} (valid : validConfig sampleRate config = true) :
    (start fresh sampleRate config).Timed :=
  ⟨start_sound valid, fun _ => ⟨fun _ => rfl, fun _ => rfl⟩⟩

/-- The decisions for which a candidate has attacked are the latest ones. -/
theorem Timed.attack_ticks (timed : session.Timed) (candidate : Fin count)
    (event : DetectorEvent count) :
    let next := ((machine count).step session event).1
    (next.voices.states candidate).attackTicks = 0 ∨ (Attacks candidate session event ∧
      (next.voices.states candidate).attackTicks ≤
        (session.voices.states candidate).attackTicks + decisions event) := by
  cases event with
  | decide evidence =>
      obtain ⟨next, after, turns⟩ := @VoiceState.exists_turns _ session.detector
        evidence session.voices (timed.sound.inRange evidence) candidate
      have ticks := (turns.attack_ticks (timed.candidates candidate)).1
      rw [← turns.left] at ticks
      refine ticks.imp id fun ⟨attacks, counted, _⟩ => ⟨?_, counted⟩
      intro other same
      cases same
      exact attacks
  | loseSignal => exact .inr ⟨(fun _ same => nomatch same), le_rfl⟩
  | retune config => exact .inr ⟨(fun _ same => nomatch same), le_rfl⟩

/-- The decisions for which a voice has waited are the latest ones. -/
theorem Timed.release_ticks (timed : session.Timed) (candidate : Fin count)
    (event : DetectorEvent count) :
    let next := ((machine count).step session event).1
    (next.voices.states candidate).releaseTicks = 0 ∨ (Coasts candidate session event ∧
      (next.voices.states candidate).releaseTicks ≤
        (session.voices.states candidate).releaseTicks + decisions event) := by
  cases event with
  | decide evidence =>
      obtain ⟨next, after, turns⟩ := @VoiceState.exists_turns _ session.detector
        evidence session.voices (timed.sound.inRange evidence) candidate
      have ticks := turns.release_ticks (timed.candidates candidate)
      rw [← turns.left] at ticks
      refine ticks.imp id fun ⟨coasting, counted, _⟩ => ⟨?_, counted⟩
      intro other same
      cases same
      exact coasting
  | loseSignal => exact .inr ⟨(fun _ same => nomatch same), le_rfl⟩
  | retune config => exact .inr ⟨(fun _ same => nomatch same), le_rfl⟩

/-- **No voice begins too early.** When a decision begins a voice, it ends a streak of as many
decisions as an attack takes, throughout which the candidate was selected without sounding and
the energy was not falling. -/
theorem attack_streak {fresh : DetectorConfiguration} {sampleRate : Option ℚ}
    {config : PersistentConfig} (valid : validConfig sampleRate config = true)
    (events : List (DetectorEvent (config.highestNote - config.lowestNote + 1)))
    (evidence : DecisionEvidence (config.highestNote - config.lowestNote + 1))
    (candidate : Fin (config.highestNote - config.lowestNote + 1)) :
    let session := ((machine _).run (start fresh sampleRate config) events).1
    let next := ((machine _).step session (.decide evidence)).1
    (session.voices.states candidate).active = false →
      (next.voices.states candidate).active = true →
        (machine _).Streak (Attacks candidate) decisions (start fresh sampleRate config)
          (events ++ [.decide evidence]) session.detector.attackDecisions := by
  intro session next silent sounds
  have timed : session.Timed := @Transducer.run_preserves _ _ _ (machine _) Timed
    (fun _ event holds => holds.step event) _ (start_timed valid) events
  have streak := @Transducer.exists_streak _ _ _ (machine _) (Attacks candidate) decisions
    (start fresh sampleRate config) Timed
    (fun reached => (reached.voices.states candidate).attackTicks)
    (fun _ event holds => holds.step event)
    (fun _ event holds => holds.attack_ticks candidate event) (start_timed valid) rfl events
  obtain ⟨turn, after, turns⟩ := @VoiceState.exists_turns _ session.detector
    evidence session.voices (timed.sound.inRange evidence) candidate
  have begun := (turns.attack_ticks (timed.candidates candidate)).2 silent
  rw [← turns.left] at begun
  obtain ⟨attacks, long⟩ := begun sounds
  refine (streak.concat ?_).mono long
  intro other same
  cases same
  exact attacks

/-- **No voice ends too early.** When a decision ends a voice, the voice is handed off in the
candidate's turn, or the decision ends a streak of as many decisions as a release takes,
throughout which the candidate sounded without being selected. -/
theorem release_streak {fresh : DetectorConfiguration} {sampleRate : Option ℚ}
    {config : PersistentConfig} (valid : validConfig sampleRate config = true)
    (events : List (DetectorEvent (config.highestNote - config.lowestNote + 1)))
    (evidence : DecisionEvidence (config.highestNote - config.lowestNote + 1))
    (candidate : Fin (config.highestNote - config.lowestNote + 1)) :
    let session := ((machine _).run (start fresh sampleRate config) events).1
    let next := ((machine _).step session (.decide evidence)).1
    (session.voices.states candidate).active = true →
      (next.voices.states candidate).active = false →
        session.voices.Coasting session.detector evidence candidate ∧
          ((session.voices.frame session.detector evidence).handsOff
            (session.voices.continuing session.detector evidence candidate) candidate = true ∨
          (machine _).Streak (Coasts candidate) decisions (start fresh sampleRate config)
            (events ++ [.decide evidence]) session.detector.releaseDecisions) := by
  intro session next sounds silent
  have timed : session.Timed := @Transducer.run_preserves _ _ _ (machine _) Timed
    (fun _ event holds => holds.step event) _ (start_timed valid) events
  have streak := @Transducer.exists_streak _ _ _ (machine _) (Coasts candidate) decisions
    (start fresh sampleRate config) Timed
    (fun reached => (reached.voices.states candidate).releaseTicks)
    (fun _ event holds => holds.step event)
    (fun _ event holds => holds.release_ticks candidate event) (start_timed valid) rfl events
  obtain ⟨turn, after, turns⟩ := @VoiceState.exists_turns _ session.detector
    evidence session.voices (timed.sound.inRange evidence) candidate
  have ended := turns.ends sounds
  rw [← turns.left] at ended
  obtain ⟨coasting, handed | long⟩ := ended silent
  · exact ⟨coasting, .inl handed⟩
  · refine ⟨coasting, .inr ((streak.concat ?_).mono long)⟩
    intro other same
    cases same
    exact coasting

/-- Two energetic decisions in a row, after which the only candidate sounds. -/
theorem attack_streak_lone :
    (machine 1).Streak (Attacks 0) decisions (start {} (some 48000) loneConfig)
      [.decide loneEvidence, .decide loneEvidence]
      ((machine 1).run (start {} (some 48000) loneConfig)
        [.decide loneEvidence]).1.detector.attackDecisions :=
  @attack_streak {} (some 48000) loneConfig (by decide +kernel) [.decide loneEvidence] loneEvidence
    0 (by decide +kernel) (by decide +kernel)

/-- A single candidate in a quiet frame. -/
def quietEvidence : DecisionEvidence 1 where
  candidate _ := {}

/-- Of two voices the one that has faded ends with the fourth decision that leaves it out. -/
theorem release_streak_pair :
    let events := .decide (pairEvidence false) :: List.replicate 3 (.decide (pairEvidence true))
    let session := ((machine 8).run (start {} (some 4800) pairConfig) events).1
    session.detector.releaseDecisions = 4 ∧
      session.voices.Coasting session.detector (pairEvidence true) 0 ∧
      ((session.voices.frame session.detector (pairEvidence true)).handsOff
          (session.voices.continuing session.detector (pairEvidence true) 0) 0 = true ∨
        (machine 8).Streak (Coasts 0) decisions (start {} (some 4800) pairConfig)
          (events ++ [.decide (pairEvidence true)]) session.detector.releaseDecisions) :=
  ⟨by decide +kernel, @release_streak {} (some 4800) pairConfig pairConfig_valid
    (.decide (pairEvidence false) :: List.replicate 3 (.decide (pairEvidence true)))
    (pairEvidence true) 0 (by decide +kernel) (by decide +kernel)⟩

section Release

/-- The longest release there is. -/
def longestRelease (session : DetectorSession count) : ℕ :=
  session.detector.decisionsIn DetectorConfiguration.maximumReleaseSeconds wordLimit

/-- A decision does not select the candidate, and is quiet or waits no longer than a limit for
its group. -/
def Idles (limit : ℕ) (candidate : Fin count) (session : DetectorSession count)
    (event : DetectorEvent count) : Prop :=
  ∀ evidence, event = .decide evidence →
    selectedCandidate session.detector evidence session.voices.states candidate = false ∧
      (quietDecision session.detector evidence session.voices.states = true ∨
        (evidence.candidate candidate).unisonDropoutDecisions ≤ limit)

/-- An ordinary release takes no longer than the longest one. -/
theorem Sound.releaseDecisions_le (sound : session.Sound) :
    session.detector.releaseDecisions ≤ session.longestRelease := by
  have response : session.detector.response ≤ 100 := by
    have adopted := congrArg DetectorConfiguration.response sound.adopted
    change min session.config.response 100 = _ at adopted
    omega
  have most : (session.detector.response : ℚ) / 100 ≤ 1 := by
    rw [div_le_one (by norm_num)]
    exact_mod_cast response
  have quantum : (0 : ℚ) < decisionQuantum := by norm_num [decisionQuantum]
  have seconds : DetectorConfiguration.minimumReleaseSeconds + session.detector.response / 100 *
      (DetectorConfiguration.maximumReleaseSeconds - DetectorConfiguration.minimumReleaseSeconds) ≤
        DetectorConfiguration.maximumReleaseSeconds := by
    unfold DetectorConfiguration.minimumReleaseSeconds DetectorConfiguration.maximumReleaseSeconds
    linarith
  unfold DetectorConfiguration.releaseDecisions longestRelease DetectorConfiguration.decisionsIn
  apply max_le_max le_rfl
  apply min_le_min _ le_rfl
  apply Nat.ceil_mono
  have rate := sound.clocked.le
  gcongr

/-- A limit on the longest release is one on every candidate's, unless its unison drops out for
longer. -/
theorem Sound.releases_within (sound : session.Sound) {limit : ℕ}
    (longest : session.longestRelease ≤ limit) {evidence : DecisionEvidence count}
    {candidate : Fin count}
    (dropout : quietDecision session.detector evidence session.voices.states = true ∨
      (evidence.candidate candidate).unisonDropoutDecisions ≤ limit)
    (decision : CandidateDecision count) :
    (session.voices.frame session.detector evidence).candidateReleaseDecisions decision candidate ≤
      limit := by
  have ordinary := sound.releaseDecisions_le.trans longest
  unfold DecisionFrame.candidateReleaseDecisions
  dsimp only
  split_ifs with plain group
  · exact ordinary
  · exact max_le ordinary (dropout.resolve_left fun quiet => plain (.inl quiet))
  · exact ordinary

/-- A detector without lanes whose releases do not take longer than a limit. -/
structure Releasing (limit : ℕ) (session : DetectorSession count) : Prop where
  sound : session.Sound
  single : session.detector.laned = false
  longest : session.longestRelease ≤ limit

/-- Every event keeps an unselected voice within its limit, or ends it. -/
theorem Releasing.step {limit : ℕ} (releasing : session.Releasing limit)
    (event : DetectorEvent count) : ((machine count).step session event).1.Releasing limit := by
  have same := releasing.sound.sameStructure event
  refine ⟨releasing.sound.step event, same.laned.trans releasing.single, ?_⟩
  unfold longestRelease DetectorConfiguration.decisionsIn
  rw [same.sampleRate]
  exact releasing.longest

/-- A voice begins only for a candidate that is selected. -/
theorem Sound.selected_of_begins (sound : session.Sound) {evidence : DecisionEvidence count}
    {candidate : Fin count} (silent : (session.voices.states candidate).active = false)
    (begins : (((machine count).step session (.decide evidence)).1.voices.states
      candidate).active = true) :
    selectedCandidate session.detector evidence session.voices.states candidate = true := by
  obtain ⟨next, after, turns⟩ := @VoiceState.exists_turns _ session.detector evidence
    session.voices (sound.inRange evidence) candidate
  by_contra unselected
  change ((session.voices.attacked session.detector evidence).states candidate).active = true
    at begins
  rw [turns.left, turns.rests ((Bool.not_eq_true _).mp unselected) ?_] at begins
  · cases begins
  · by_contra sounds
    have before := (turns.sounds_next ((Bool.not_eq_false _).mp sounds)).1
    exact Bool.noConfusion (before.symm.trans silent)

/-- A silent candidate that is not selected stays silent. -/
theorem Releasing.stays_silent {limit : ℕ} (releasing : session.Releasing limit)
    {event : DetectorEvent count} {candidate : Fin count}
    (idles : Idles limit candidate session event)
    (silent : (session.voices.states candidate).active = false) :
    (((machine count).step session event).1.voices.states candidate).active = false := by
  cases event with
  | decide evidence =>
      by_contra begins
      have selected := releasing.sound.selected_of_begins silent ((Bool.not_eq_false _).mp begins)
      exact Bool.noConfusion (selected.symm.trans (idles evidence rfl).1)
  | loseSignal => exact silent
  | retune config => exact silent

/-- A voice that is not selected ends, or waits for one more decision of less than the limit. -/
theorem Releasing.counts {limit : ℕ} (releasing : session.Releasing limit)
    (short : limit ≤ wordLimit) {event : DetectorEvent count} {candidate : Fin count}
    (idles : Idles limit candidate session event)
    (sounds : ¬ (session.voices.states candidate).active = false) :
    let next := ((machine count).step session event).1
    (next.voices.states candidate).active = false ∨
      ((session.voices.states candidate).releaseTicks + decisions event ≤
          (next.voices.states candidate).releaseTicks ∧
        ((session.voices.states candidate).releaseTicks < limit ∨ 0 < decisions event →
          (next.voices.states candidate).releaseTicks < limit)) := by
  cases event with
  | decide evidence =>
      obtain ⟨unselected, dropout⟩ := idles evidence rfl
      have range := releasing.sound.inRange evidence
      obtain ⟨next, after, turns⟩ := @VoiceState.exists_turns _ session.detector evidence
        session.voices range candidate
      have few := releasing.sound.few.trans releasing.sound.polyphony
      have within := releasing.sound.releases_within releasing.longest dropout
        (session.voices.continuing session.detector evidence candidate)
      have waits := turns.waits range releasing.single few unselected
        ((Bool.not_eq_false _).mp sounds)
      rw [← turns.left] at waits
      refine waits.imp id fun ⟨counted, early⟩ => ?_
      change (session.voices.states candidate).releaseTicks + 1 ≤
        ((session.voices.attacked session.detector evidence).states candidate).releaseTicks ∧ (_ →
          ((session.voices.attacked session.detector evidence).states candidate).releaseTicks < limit)
      constructor
      · omega
      · intro _
        omega
  | loseSignal => exact .inr ⟨le_rfl, fun few => few.resolve_right (Nat.lt_irrefl 0)⟩
  | retune config => exact .inr ⟨le_rfl, fun few => few.resolve_right (Nat.lt_irrefl 0)⟩

/-- A voice that idles for as many decisions as a limit ends. -/
theorem Releasing.silent_of_idles {limit : ℕ} (releasing : session.Releasing limit)
    (short : limit ≤ wordLimit) {recent : List (DetectorEvent count)} {candidate : Fin count}
    (idles : (machine count).Meets (Idles limit candidate) session recent)
    (long : limit ≤ Transducer.weigh decisions recent) :
    (((machine count).run session recent).1.voices.states candidate).active = false := by
  have some : 0 < limit := lt_of_lt_of_le (lt_max_of_lt_left Nat.one_pos) releasing.longest
  exact @Transducer.Meets.done_of_streak _ _ _ (machine count) (Idles limit candidate) decisions
    session recent (Releasing limit)
    (fun reached => (reached.voices.states candidate).active = false)
    (fun reached => (reached.voices.states candidate).releaseTicks) limit
    (fun _ event holds => holds.step event) (fun _ _ holds idle => holds.stays_silent idle)
    (fun _ _ holds idle => holds.counts short idle) releasing idles some long

/-- **Without lanes a voice ends in time.** A candidate that no decision of the latest part of a
run has selected is silent, when these decisions are as many as the longest release takes, and
each of them is quiet or waits no longer for a group. -/
theorem released_of_unselected {fresh : DetectorConfiguration} {sampleRate : Option ℚ}
    {config : PersistentConfig} (valid : validConfig sampleRate config = true)
    (single : ¬ (config.profileMode = .m3 ∧ config.midiRouting = .perVoice)) {limit : ℕ}
    (longest : (start fresh sampleRate config).longestRelease ≤ limit)
    (short : limit ≤ wordLimit)
    (events recent : List (DetectorEvent (config.highestNote - config.lowestNote + 1)))
    {candidate : Fin (config.highestNote - config.lowestNote + 1)}
    (idles : (machine _).Meets (Idles limit candidate)
      ((machine _).run (start fresh sampleRate config) events).1 recent)
    (long : limit ≤ Transducer.weigh decisions recent) :
    (((machine _).run (start fresh sampleRate config) (events ++ recent)).1.voices.states
      candidate).active = false := by
  have started : (start fresh sampleRate config).Releasing limit :=
    ⟨start_sound valid, start_single valid single, longest⟩
  have releasing := @Transducer.run_preserves _ _ _ (machine _) (Releasing limit)
    (fun _ event holds => holds.step event) _ started events
  rw [Transducer.run_append]
  exact releasing.silent_of_idles short idles long

/-- Three quiet decisions, after which the voice has ended. -/
theorem released_of_unselected_lone :
    (((machine 1).run (start {} (some 640) loneConfig) [.decide loneEvidence,
      .decide quietEvidence, .decide quietEvidence, .decide quietEvidence]).1.voices.states
        0).active = false :=
  @released_of_unselected {} (some 640) loneConfig (by decide +kernel) (by decide) 3
    (by decide +kernel) (by decide) [.decide loneEvidence]
    [.decide quietEvidence, .decide quietEvidence, .decide quietEvidence] 0
    ⟨fun _ same => by cases same; decide +kernel, fun _ same => by cases same; decide +kernel,
      fun _ same => by cases same; decide +kernel, trivial⟩ (by decide)

end Release

section Sustain

/-- A decision that is not quiet, nor brings a group back, and finds the candidate above the
threshold. -/
def Sustains (candidate : Fin count) (session : DetectorSession count)
    (event : DetectorEvent count) : Prop :=
  ∀ evidence, event = .decide evidence →
    quietDecision session.detector evidence session.voices.states = false ∧
      evidence.activeResume session.detector = false ∧
      evidence.threshold < (evidence.candidate candidate).score

/-- In the general profile a decision that sustains a voice selects its candidate. -/
theorem selected_of_sustains (sound : session.Sound)
    (general : session.detector.profileMode = .general) {evidence : DecisionEvidence count}
    {candidate : Fin count} (sustains : Sustains candidate session (.decide evidence))
    (sounds : (session.voices.states candidate).active = true) :
    selectedCandidate session.detector evidence session.voices.states candidate = true := by
  obtain ⟨loud, ordinary, above⟩ := sustains evidence rfl
  unfold quietDecision at loud
  rw [Bool.or_eq_false_iff, Bool.not_eq_false'] at loud
  have score : evidence.threshold < evidence.scores session.detector session.voices.states
      candidate := by
    unfold DecisionEvidence.scores
    rw [if_neg (ne_true_of_eq_false loud.1)]
    exact above
  have chosen := @GreedySelector.mem_select_of_active _
    (greedySelector session.detector evidence session.voices.states) sound.few candidate sounds score
  unfold selectedCandidate selectedAtFirst
  dsimp only
  rw [loud.2, Bool.true_and, if_neg (ne_true_of_eq_false ordinary),
    if_neg (ne_true_of_eq_false loud.1), general]
  exact List.contains_iff_mem.mpr chosen

/-- A selected voice goes on. -/
theorem sounds_of_selected (sound : session.Sound) {evidence : DecisionEvidence count}
    {candidate : Fin count}
    (selected :
      selectedCandidate session.detector evidence session.voices.states candidate = true)
    (sounds : (session.voices.states candidate).active = true) :
    (((machine count).step session (.decide evidence)).1.voices.states candidate).active =
      true := by
  obtain ⟨next, after, turns⟩ := @VoiceState.exists_turns _ session.detector evidence
    session.voices (sound.inRange evidence) candidate
  change ((session.voices.attacked session.detector evidence).states candidate).active = true
  by_contra ends
  rw [turns.left] at ends
  have ended := (turns.ends sounds ((Bool.not_eq_true _).mp ends)).1.unselected
  exact Bool.noConfusion (selected.symm.trans ended)

/-- Nothing that a detector in the general profile emits is about a voice that goes on. In that
profile no note is corrected, so that the note of a transition is its candidate's own. -/
theorem Plain.unmoved (plain : session.Plain) (sound : session.Sound)
    (general : session.detector.profileMode ≠ .m3) {evidence : DecisionEvidence count}
    {candidate : Fin count} (sounds : (session.voices.states candidate).active = true)
    (stays : (((machine count).step session (.decide evidence)).1.voices.states
      candidate).active = true) :
    ∀ transition ∈ (session.voices.makeDecision session.detector evidence).1,
      transition.name ≠ (detectedNote session.detector candidate, unassignedVoiceId) := by
  have single : session.detector.laned = false := by
    unfold DetectorConfiguration.laned
    rw [decide_eq_false general, Bool.false_and]
  have steady := @VoiceState.steady_of_single _ session.detector evidence session.voices single
  have later := plain.decide sound general evidence
  have before := plain.distinct sound single
  have after := later.distinct (sound.step (.decide evidence)) single
  have accounts := VoiceState.attacked_accounts (sound.inRange evidence) steady
  have complete := sound.complete steady before after
  have had := (@Plain.mem_keys _ _ plain sound single candidate _).mpr ⟨sounds, rfl⟩
  have has := (@Plain.mem_keys _ _ later (sound.step (.decide evidence)) single candidate _).mpr
    ⟨stays, rfl⟩
  have same : ((machine count).step session (.decide evidence)).1.keys =
      keyTable session.detector (session.voices.attacked session.detector evidence).states :=
    keyTable_makeDecision evidence
  intro transition member about
  have named : transition.name ∈
      namesOf transition.kind (session.voices.makeDecision session.detector evidence).1 :=
    Multiset.mem_coe.mpr (List.mem_map_of_mem (List.mem_filter.mpr
      ⟨member, decide_eq_true rfl⟩))
  rw [namesOf_eq, complete, about] at named
  cases kind : transition.kind with
  | noteOff =>
      rw [kind, accounts.closed, ← same] at named
      obtain ⟨other, held, gone⟩ := mem_surplus.mp named
      by_cases own : other = candidate
      · subst own
        exact gone has
      · exact Finset.disjoint_left.mp (before.apart other candidate own) held had
  | noteOn =>
      rw [kind, accounts.opened, ← same] at named
      obtain ⟨other, held, fresh⟩ := mem_surplus.mp named
      by_cases own : other = candidate
      · subst own
        exact fresh had
      · exact Finset.disjoint_left.mp (after.apart other candidate own) held has

/-- A detector in the general profile with a voice that nothing emitted so far is about. -/
structure Sustained (lowest : ℕ) (candidate : Fin count) (log : List (List VoiceTransition))
    (session : DetectorSession count) : Prop where
  sound : session.Sound
  plain : session.Plain
  general : session.detector.profileMode = .general
  low : session.detector.lowestNote = lowest
  sounds : (session.voices.states candidate).active = true
  unmoved : ∀ transitions ∈ log, ∀ transition ∈ transitions,
    transition.name ≠ (lowest + candidate, unassignedVoiceId)

/-- A voice that every decision sustains sounds on, without a transition of its own. -/
theorem Sustained.step {lowest : ℕ} {candidate : Fin count} {log : List (List VoiceTransition)}
    (sustained : Sustained lowest candidate log session) {event : DetectorEvent count}
    (sustains : Sustains candidate session event) :
    Sustained lowest candidate (log ++ ((machine count).step session event).2)
      ((machine count).step session event).1 := by
  have same := sustained.sound.sameStructure event
  have outside : session.detector.profileMode ≠ .m3 := by
    rw [sustained.general]
    exact ProfileMode.noConfusion
  refine ⟨sustained.sound.step event, ?_, same.profile.trans sustained.general,
    same.lowest.trans sustained.low, ?_, ?_⟩
  · cases event with
    | decide evidence => exact sustained.plain.decide sustained.sound outside evidence
    | loseSignal => exact sustained.plain
    | retune config => exact sustained.plain
  · cases event with
    | decide evidence =>
        exact sounds_of_selected sustained.sound
          (selected_of_sustains sustained.sound sustained.general sustains sustained.sounds)
          sustained.sounds
    | loseSignal => exact sustained.sounds
    | retune config => exact sustained.sounds
  · intro transitions member
    rcases List.mem_append.mp member with earlier | latest
    · exact sustained.unmoved transitions earlier
    · cases event with
      | decide evidence =>
          rw [List.mem_singleton.mp latest, ← sustained.low]
          have stays := sounds_of_selected sustained.sound
            (selected_of_sustains sustained.sound sustained.general sustains sustained.sounds)
            sustained.sounds
          exact sustained.plain.unmoved sustained.sound outside sustained.sounds stays
      | loseSignal => exact absurd latest List.not_mem_nil
      | retune config => exact absurd latest List.not_mem_nil

/-- **A sustained note is not interrupted.** In the general profile a voice goes on as long as
every decision finds its candidate above the threshold, and nothing is emitted about it. -/
theorem sustained {fresh : DetectorConfiguration} {sampleRate : Option ℚ}
    {config : PersistentConfig} (valid : validConfig sampleRate config = true)
    (general : config.profileMode = .general)
    (events recent : List (DetectorEvent (config.highestNote - config.lowestNote + 1)))
    {candidate : Fin (config.highestNote - config.lowestNote + 1)} :
    let session := ((machine _).run (start fresh sampleRate config) events).1
    (session.voices.states candidate).active = true →
      (machine _).Meets (Sustains candidate) session recent →
        (((machine _).run session recent).1.voices.states candidate).active = true ∧
          ∀ transitions ∈ ((machine _).run session recent).2, ∀ transition ∈ transitions,
            transition.name ≠ (config.lowestNote + candidate, unassignedVoiceId) := by
  intro session sounds sustains
  have sound := @start_sound fresh sampleRate config valid
  have fields : (start fresh sampleRate config).detector.profileMode = .general ∧
      (start fresh sampleRate config).detector.lowestNote = config.lowestNote := by
    unfold start
    rw [configure_eq valid]
    exact ⟨general, rfl⟩
  have outside : (start fresh sampleRate config).detector.profileMode ≠ .m3 := by
    rw [fields.1]
    exact ProfileMode.noConfusion
  have plain : (start fresh sampleRate config).Plain := fun _ active => Bool.noConfusion active
  have same := sound.run_structure events
  have began : Sustained config.lowestNote candidate [] session :=
    ⟨sound.run events, (plain.meets sound outside events).2, same.profile.trans fields.1,
      same.lowest.trans fields.2, sounds, List.forall_mem_nil _⟩
  have ended := @Transducer.run_invariant_of_meets _ _ _ (machine _) (Sustains candidate)
    (Sustained config.lowestNote candidate) (fun _ _ _ holds meets => holds.step meets) [] session
    recent began sustains
  exact ⟨ended.sounds, ended.unmoved⟩

/-- One more decision for the only voice, which sounds on. -/
theorem sustained_lone :
    (((machine 1).run ((machine 1).run (start {} (some 4800) loneConfig)
        [.decide loneEvidence]).1 [.decide loneEvidence]).1.voices.states 0).active = true ∧
      ∀ transitions ∈ ((machine 1).run ((machine 1).run (start {} (some 4800) loneConfig)
          [.decide loneEvidence]).1 [.decide loneEvidence]).2, ∀ transition ∈ transitions,
        transition.name ≠ (40 + ((0 : Fin 1) : ℕ), unassignedVoiceId) :=
  @sustained {} (some 4800) loneConfig loneConfig_valid rfl [.decide loneEvidence]
    [.decide loneEvidence] 0 (by decide +kernel)
    ⟨fun _ same => by cases same; decide +kernel, trivial⟩

end Sustain

end DetectorSession

end M3Midi
