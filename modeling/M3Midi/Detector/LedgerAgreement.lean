import M3Midi.Detector.DetectorSession
import M3Midi.Ledger.SoundingKeys

/-! # The ledger sounds what the detector keeps

The detector and the ledger keep track of the voices each for itself, with nothing but
transitions between them. As long as no two voices have a key or a lane in common, and no voice
changes its note and its lanes at once, the ledger takes every decision as a whole and sounds
exactly the keys of the voices afterwards (`M3Midi.DetectorSession.agreement`). In the general
profile that is always so (`M3Midi.DetectorSession.general_agreement`).
-/

namespace M3Midi

open Foundation CandidateDecision GeneratedNoteLedger

variable {count : ℕ}

/-- A ledger names a transition by its key. -/
theorem namesOf_eq (kind : TransitionKind) (transitions : List VoiceTransition) :
    namesOf kind transitions = keysOf kind (transitions.map VoiceTransition.appended) := by
  unfold namesOf keysOf
  rw [List.filter_map, List.map_map]
  rfl

/-- The keys of a voice are on lanes where voices have lanes, and on none otherwise. -/
theorem lodged_voiceKeys {detector : DetectorConfiguration} {candidate : Fin count}
    {state : CandidateState} {key : VoiceKey} (member : key ∈ voiceKeys detector candidate state) :
    Lodged detector.laned key := by
  have sounds : state.active = true := by
    by_contra silent
    rw [voiceKeys_inactive ((Bool.not_eq_true _).mp silent)] at member
    exact Finset.notMem_empty key member
  unfold Lodged
  by_cases laned : detector.laned = true
  · rw [if_pos laned]
    rw [voiceKeys_laned laned sounds] at member
    obtain ⟨-, lane, -, same⟩ := mem_laneKeys.mp member
    rw [same]
    exact lane.isLt
  · rw [if_neg laned]
    rw [voiceKeys_single ((Bool.not_eq_true _).mp laned) sounds] at member
    rw [Finset.mem_singleton.mp member]

/-- Keys on lanes that are apart are no more than there are lanes. -/
theorem card_le_of_lanesApart {held : Finset VoiceKey} (apart : LanesApart true held)
    (lodged : ∀ key ∈ held, Lodged true key) : held.card ≤ maxVoices := by
  have image := Finset.card_image_of_injOn (apart rfl)
  have within : held.image Prod.snd ⊆ Finset.range maxVoices := by
    intro lane member
    obtain ⟨key, there, rfl⟩ := Finset.mem_image.mp member
    exact Finset.mem_range.mpr (lodged key there)
  have few := Finset.card_le_card within
  rwa [image, Finset.card_range] at few

namespace DetectorSession

variable {session : DetectorSession count}

/-- The keys of the candidates. -/
def keys (session : DetectorSession count) : Fin count → Finset VoiceKey :=
  keyTable session.detector session.voices.states

/-- No two voices have a key or a lane in common. This is what the ledger asks of the notes it is
given: it refuses a second one on a lane. -/
structure Distinct (session : DetectorSession count) : Prop where
  apart : HeldApart session.keys
  lanes : LanesApart session.detector.laned (heldItems session.keys)

/-- The step leaves the voices distinct, and changes no voice's note and lanes at once. -/
structure Orderly (session : DetectorSession count) (event : DetectorEvent count) : Prop where
  steady : ∀ evidence, event = .decide evidence →
    session.voices.Steady session.detector evidence
  distinct : ((machine count).step session event).1.Distinct

/-- The keys of a session are such that the ledger can lodge them. -/
theorem lodged_keys (key : VoiceKey) (member : key ∈ heldItems session.keys) :
    Lodged session.detector.laned key := by
  obtain ⟨candidate, own⟩ := mem_heldItems.mp member
  exact lodged_voiceKeys own

/-- There are no more keys than slots. -/
theorem Sound.card_keys (sound : session.Sound) (distinct : session.Distinct) :
    (heldItems session.keys).card ≤ maxVoices := by
  cases laned : session.detector.laned with
  | true =>
      apply card_le_of_lanesApart
      · rw [← laned]
        exact distinct.lanes
      · rw [← laned]
        exact lodged_keys
  | false =>
      rw [card_heldItems distinct.apart, keys, sum_card_keys laned]
      exact sound.few.trans sound.polyphony

/-- A decision between distinct voices emits all that it requests. -/
theorem Sound.complete (sound : session.Sound) {evidence : DecisionEvidence count}
    (steady : session.voices.Steady session.detector evidence) (distinct : session.Distinct)
    (after : ((machine count).step session (.decide evidence)).1.Distinct) :
    (session.voices.makeDecision session.detector evidence).1.map VoiceTransition.appended =
      (session.voices.attacked session.detector evidence).requested := by
  have accounts := VoiceState.attacked_accounts (sound.inRange evidence) steady
  have before := sound.card_keys distinct
  have left := (sound.step (.decide evidence)).card_keys after
  rw [card_heldItems distinct.apart] at before
  rw [card_heldItems after.apart] at left
  have same : ((machine count).step session (.decide evidence)).1.keys =
      keyTable session.detector (session.voices.attacked session.detector evidence).states :=
    keyTable_makeDecision evidence
  rw [same] at left
  have few := accounts.length_le
  have room : (session.voices.attacked session.detector evidence).requested.length ≤
      maxTickTransitions := by
    have fits : maxVoices + maxVoices ≤ maxTickTransitions := by decide
    exact (few.trans (Nat.add_le_add before left)).trans fits
  rw [← List.take_of_length_le room]
  exact (VoiceState.attacked_filled (sound.inRange evidence)).stored.first

variable {routing : MidiRouting} {startChannel : ℕ} {ledger : GeneratedNoteLedger}

/-- A decision, as the ledger takes it. The note-offs come first and free what the note-ons need.
-/
theorem Sound.decide_agrees (sound : session.Sound) (distinct : session.Distinct)
    (started : 1 ≤ startChannel ∧ startChannel ≤ 16)
    (plays : Plays session.detector.laned startChannel (heldItems session.keys) ledger)
    {evidence : DecisionEvidence count} (orderly : session.Orderly (.decide evidence)) :
    let next := ((machine count).step session (.decide evidence)).1
    ∃ taken, (takeEvents session.detector.midiRouting startChannel
        (tickQueue 0 (session.voices.makeDecision session.detector evidence).1 [])
          ledger).2 = some taken ∧
      Plays next.detector.laned startChannel (heldItems next.keys) taken := by
  intro next
  have steady := orderly.steady evidence rfl
  have accounts := VoiceState.attacked_accounts (sound.inRange evidence) steady
  have complete := sound.complete steady distinct orderly.distinct
  have same : next.keys = keyTable session.detector
      (session.voices.attacked session.detector evidence).states := keyTable_makeDecision evidence
  have closed : namesOf .noteOff (session.voices.makeDecision session.detector evidence).1 =
      surplus next.keys session.keys := by
    rw [namesOf_eq, complete, accounts.closed, same]
    rfl
  have opened : namesOf .noteOn (session.voices.makeDecision session.detector evidence).1 =
      surplus session.keys next.keys := by
    rw [namesOf_eq, complete, accounts.opened, same]
    rfl
  apply plays.tick started
  case routed =>
    intro laned
    unfold DetectorConfiguration.laned at laned
    exact of_decide_eq_true (Bool.and_eq_true_iff.mp laned).2
  case closedOnce =>
    rw [closed]
    exact nodup_surplus distinct.apart
  case closed =>
    rw [closed]
    exact fun name => lost_subset
  case openedOnce =>
    rw [opened]
    exact nodup_surplus orderly.distinct.apart
  case opened =>
    rw [opened, closed]
    exact fun name => gained_fresh orderly.distinct.apart
  case changed =>
    intro name
    rw [opened, closed]
    exact mem_heldItems_after distinct.apart
  case lodged => exact fun key member => @lodged_keys _ next key member
  case apart => exact orderly.distinct.lanes
  case room => exact (sound.step (.decide evidence)).card_keys orderly.distinct

/-- The keys depend on the voices and on what does not change between two resets. -/
theorem keys_congr {before after : DetectorSession count} (same : SameStructure before after)
    (voices : ∀ candidate,
      (after.voices.states candidate).active = (before.voices.states candidate).active ∧
        (after.voices.states candidate).emittedNote =
          (before.voices.states candidate).emittedNote ∧
        (after.voices.states candidate).midiVoiceMask =
          (before.voices.states candidate).midiVoiceMask) : after.keys = before.keys := by
  funext candidate
  obtain ⟨active, note, lanes⟩ := voices candidate
  change voiceKeys _ _ _ = voiceKeys _ _ _
  unfold voiceKeys outputNote detectedNote
  rw [same.laned, same.lowest, active, note, lanes]

/-- A detector and a ledger that has taken its transitions. The notes of the ledger are the keys of
the voices, each on the channel of its lane. -/
structure Agrees (start : DetectorSession count) (startChannel time : ℕ)
    (ledger : GeneratedNoteLedger) (log : List (List VoiceTransition))
    (session : DetectorSession count) : Prop where
  sound : session.Sound
  same : SameStructure start session
  distinct : session.Distinct
  taken : ∃ taken, (takeTicks start.detector.midiRouting startChannel time log ledger).2 =
      some taken ∧
    Plays session.detector.laned startChannel (heldItems session.keys) taken

/-- An event keeps the session and the ledger in agreement. -/
theorem Agrees.step {start : DetectorSession count} {time : ℕ}
    {log : List (List VoiceTransition)}
    (started : 1 ≤ startChannel ∧ startChannel ≤ 16)
    (agrees : Agrees start startChannel time ledger log session) {event : DetectorEvent count}
    (orderly : session.Orderly event) :
    Agrees start startChannel time ledger (log ++ ((machine count).step session event).2)
      ((machine count).step session event).1 := by
  refine ⟨agrees.sound.step event, agrees.same.trans (agrees.sound.sameStructure event),
    orderly.distinct, ?_⟩
  obtain ⟨middle, first, plays⟩ := agrees.taken
  cases event with
  | decide evidence =>
      obtain ⟨next, second, played⟩ := agrees.sound.decide_agrees agrees.distinct started plays
        orderly
      refine ⟨next, ?_, played⟩
      rw [agrees.same.routing] at second
      rw [takeTicks_append first]
      change (takeTicks _ _ _ [_] _).2 = _
      rw [takeTicks]
      dsimp only
      rw [second]
      rfl
  | loseSignal =>
      have still := keys_congr (agrees.sound.sameStructure .loseSignal) fun _ => ⟨rfl, rfl, rfl⟩
      refine ⟨middle, ?_, ?_⟩
      · exact (congrArg (fun log => (takeTicks _ _ _ log _).2) (List.append_nil log)).trans first
      · rw [still]
        exact plays
  | retune candidate =>
      have still := keys_congr (agrees.sound.sameStructure (.retune candidate))
        fun _ => ⟨rfl, rfl, rfl⟩
      refine ⟨middle, ?_, ?_⟩
      · exact (congrArg (fun log => (takeTicks _ _ _ log _).2) (List.append_nil log)).trans first
      · rw [still, (agrees.sound.sameStructure (.retune candidate)).laned]
        exact plays

/-- A detector without voices has no keys. -/
theorem keys_start {fresh : DetectorConfiguration} {sampleRate : Option ℚ}
    {config : PersistentConfig} : heldItems (start fresh sampleRate config).keys = ∅ := by
  apply Finset.eq_empty_of_forall_notMem
  intro key member
  obtain ⟨candidate, own⟩ := mem_heldItems.mp member
  exact Finset.notMem_empty key own

/-- They agree at the start, when nothing sounds on either side. -/
theorem agrees_start {fresh : DetectorConfiguration} {sampleRate : Option ℚ}
    {config : PersistentConfig} (valid : validConfig sampleRate config = true) (time : ℕ)
    (silent : ∀ slot, ledger.voices slot = {}) (uncounted : ledger.activeCount = 0) :
    Agrees (start fresh sampleRate config) startChannel time ledger []
      (start fresh sampleRate config) := by
  refine ⟨start_sound valid, ⟨rfl, rfl, rfl, rfl, rfl⟩, ⟨?_, ?_⟩, ledger, rfl, ?_⟩
  · intro first second _
    exact Finset.disjoint_left.mpr fun key own => absurd own (Finset.notMem_empty key)
  · rw [keys_start]
    intro _ key member
    exact absurd (Finset.mem_coe.mp member) (Finset.notMem_empty key)
  · rw [keys_start]
    exact plays_empty silent uncounted

/-- **The ledger sounds what the detector keeps.** In a run whose steps leave the voices distinct
and change no voice's note and lanes at once, an empty ledger takes all that the decisions emit,
and then sounds exactly the keys of the voices, each once. -/
theorem agreement {fresh : DetectorConfiguration} {sampleRate : Option ℚ}
    {config : PersistentConfig} (valid : validConfig sampleRate config = true)
    (started : 1 ≤ startChannel ∧ startChannel ≤ 16) (time : ℕ)
    (silent : ∀ slot, ledger.voices slot = {}) (uncounted : ledger.activeCount = 0)
    {events : List (DetectorEvent (config.highestNote - config.lowestNote + 1))}
    (orderly : (machine _).Meets Orderly (start fresh sampleRate config) events) :
    ∃ taken, (takeTicks config.midiRouting startChannel time
        ((machine _).run (start fresh sampleRate config) events).2 ledger).2 = some taken ∧
      taken.names =
        (heldItems ((machine _).run (start fresh sampleRate config) events).1.keys).val := by
  have agrees := @Transducer.run_invariant_of_meets _ _ _ (machine _) Orderly
    (Agrees (start fresh sampleRate config) startChannel time ledger)
    (fun log session event holds meets => holds.step started meets) []
    (start fresh sampleRate config) events (agrees_start valid time silent uncounted) orderly
  have routing : (start fresh sampleRate config).detector.midiRouting = config.midiRouting := by
    unfold start
    rw [configure_eq valid]
    rfl
  obtain ⟨taken, accepted, plays⟩ := agrees.taken
  rw [routing] at accepted
  exact ⟨taken, accepted, plays.names⟩

section Lanes

/-- A single candidate in the M3 profile, with lanes. -/
def laneConfig : PersistentConfig :=
  { midiRouting := .perVoice, response := 0, lowestNote := 40, highestNote := 40 }

/-- The voice of a single candidate begins on two lanes, and then moves by one. -/
def laneEvents : List (DetectorEvent 1) :=
  [.decide loneEvidence, .retune { fixedVelocity := 64 },
    .decide { loneEvidence with candidate := fun _ =>
      { score := 1, fundamental := 1, feasible := true, assignedStringMask := 6 } }]

/-- A single candidate is distinct. -/
theorem distinct_single (session : DetectorSession 1) : session.Distinct := by
  constructor
  · intro first second different
    exact absurd (Subsingleton.elim first second) different
  · intro laned first one second other same
    obtain ⟨candidate, own⟩ := mem_heldItems.mp one
    obtain ⟨also, owned⟩ := mem_heldItems.mp other
    obtain rfl := Subsingleton.elim candidate also
    change first ∈ voiceKeys _ _ _ at own
    change second ∈ voiceKeys _ _ _ at owned
    by_cases sounds : (session.voices.states candidate).active = true
    · rw [voiceKeys_laned laned sounds] at own owned
      exact Prod.ext ((mem_laneKeys.mp own).1.trans (mem_laneKeys.mp owned).1.symm) same
    · rw [voiceKeys_inactive ((Bool.not_eq_true _).mp sounds)] at own
      exact absurd own (Finset.notMem_empty first)

/-- A voice on a lane, and the note of the ledger. -/
theorem agreement_lanes :
    ∃ taken, (takeTicks .perVoice 1 0
        ((machine 1).run (start {} (some 4800) laneConfig) laneEvents).2 {}).2 = some taken ∧
      taken.names =
        (heldItems ((machine 1).run (start {} (some 4800) laneConfig) laneEvents).1.keys).val := by
  refine @agreement 1 {} {} (some 4800) laneConfig (by decide +kernel) (by decide) 0
    (fun _ => rfl) rfl laneEvents ⟨⟨?_, distinct_single _⟩, ⟨?_, distinct_single _⟩,
      ⟨?_, distinct_single _⟩, trivial⟩
  · intro evidence same
    cases same
    unfold VoiceState.Steady
    decide +kernel
  · exact fun _ same => nomatch same
  · intro evidence same
    cases same
    unfold VoiceState.Steady
    decide +kernel

end Lanes

section General

/-- Every voice has its detected note out. -/
def Plain (session : DetectorSession count) : Prop :=
  ∀ candidate, (session.voices.states candidate).active = true →
    (session.voices.states candidate).emittedNote = detectedNote session.detector candidate

/-- Outside the M3 profile no note is corrected. -/
theorem weighed_note {detector : DetectorConfiguration} {evidence : DecisionEvidence count}
    {voices : VoiceState count} (general : detector.profileMode ≠ .m3) (candidate : Fin count) :
    ((voices.weighed detector evidence).states candidate).emittedNote =
      (voices.states candidate).emittedNote := by
  obtain ⟨ticks, gap, weighs⟩ := (voices.frame detector evidence).updateEvidence_eq
    (voices.corrected detector evidence).states candidate
  change ((voices.frame detector evidence).updateEvidence
    (voices.corrected detector evidence).states candidate).emittedNote = _
  rw [weighs]
  change ((voices.corrected detector evidence).states candidate).emittedNote = _
  unfold VoiceState.corrected updateCalibratedOutputNotes
  dsimp only
  rw [if_pos general]
  rfl

/-- A voice that goes on keeps its note. -/
theorem continuation_note {frame : DecisionFrame count} {decision next : CandidateDecision count}
    {candidate : Fin count} (turn : ContinuationTurn frame decision candidate next)
    (sounds : (next.states candidate).active = true) :
    (decision.states candidate).active = true ∧
      (next.states candidate).emittedNote = (decision.states candidate).emittedNote := by
  cases turn with
  | silent silent => exact ⟨sounds, rfl⟩
  | kept before selected counted state emits plain =>
      rw [state]
      exact ⟨before, rfl⟩
  | ended before unselected because =>
      rw [setState_self] at sounds
      cases sounds
  | waits before unselected because =>
      rw [countActive_states, setState_self]
      exact ⟨before, rfl⟩

/-- A voice that begins has its detected note out. -/
theorem attack_note {frame : DecisionFrame count} {decision next : CandidateDecision count}
    {candidate : Fin count} (turn : AttackTurn frame decision candidate next)
    (sounds : (next.states candidate).active = true) :
    ((decision.states candidate).active = true ∧
        (next.states candidate).emittedNote = (decision.states candidate).emittedNote) ∨
      (next.states candidate).emittedNote = detectedNote frame.detector candidate := by
  cases turn with
  | passed unselected before => exact .inl ⟨before, rfl⟩
  | rested unselected silent =>
      rw [setState_self] at sounds
      exact absurd sounds (ne_true_of_eq_false silent)
  | aged selected before =>
      rw [setState_self]
      exact .inl ⟨before, rfl⟩
  | refused selected silent because still ticks rest =>
      rw [setState_self, still] at sounds
      cases sounds
  | attacking selected silent may early =>
      rw [setState_self] at sounds
      exact absurd sounds (ne_true_of_eq_false silent)
  | unplaced selected silent may due laned nowhere =>
      rw [setState_self] at sounds
      exact absurd sounds (ne_true_of_eq_false silent)
  | begun selected silent may due placed =>
      rw [countActive_states, setState_self]
      exact .inr rfl

/-- A decision of the general profile corrects no note. -/
theorem Plain.decide (sound : session.Sound) (plain : session.Plain)
    (general : session.detector.profileMode ≠ .m3) (evidence : DecisionEvidence count) :
    ((machine count).step session (.decide evidence)).1.Plain := by
  intro candidate sounds
  obtain ⟨next, after, turns⟩ := @VoiceState.exists_turns _ session.detector evidence
    session.voices (sound.inRange evidence) candidate
  obtain ⟨found, -⟩ := @VoiceState.continued_visit _ session.detector evidence session.voices
    (sound.inRange evidence) candidate
  change ((session.voices.attacked session.detector evidence).states candidate).active = true
    at sounds
  change ((session.voices.attacked session.detector evidence).states candidate).emittedNote = _
  rw [turns.left] at sounds ⊢
  rcases attack_note turns.attack sounds with ⟨before, same⟩ | detected
  · rw [turns.between] at before
    obtain ⟨earlier, kept⟩ := continuation_note turns.continuation before
    rw [turns.prepares.active] at earlier
    rw [same, turns.between, kept, found, weighed_note general]
    exact plain candidate earlier
  · exact detected

/-- Without lanes a voice that has its detected note out has this key. -/
theorem Plain.mem_keys (plain : session.Plain) (sound : session.Sound)
    (single : session.detector.laned = false) {candidate : Fin count} {key : VoiceKey} :
    key ∈ session.keys candidate ↔ (session.voices.states candidate).active = true ∧
      key = (detectedNote session.detector candidate, unassignedVoiceId) := by
  change key ∈ voiceKeys _ _ _ ↔ _
  by_cases sounds : (session.voices.states candidate).active = true
  · have low := detectedNote_le sound.notes candidate
    have note : outputNote session.detector candidate (session.voices.states candidate) =
        detectedNote session.detector candidate := by
      unfold outputNote
      rw [plain candidate sounds, if_pos (by omega)]
    rw [voiceKeys_single single sounds, Finset.mem_singleton, note, and_iff_right sounds]
  · rw [voiceKeys_inactive ((Bool.not_eq_true _).mp sounds)]
    exact iff_of_false (Finset.notMem_empty key) fun both => sounds both.1

/-- Voices that have their detected notes out are distinct. -/
theorem Plain.distinct (plain : session.Plain) (sound : session.Sound)
    (single : session.detector.laned = false) : session.Distinct := by
  constructor
  · intro first second different
    rw [Finset.disjoint_left]
    intro key one other
    have same := ((plain.mem_keys sound single).mp one).2.symm.trans
      ((plain.mem_keys sound single).mp other).2
    have notes := congrArg Prod.fst same
    dsimp only [detectedNote] at notes
    exact different (Fin.ext (by omega))
  · intro laned
    exact Bool.noConfusion (laned.symm.trans single)

/-- The keys of voices that have their detected notes out. -/
theorem Plain.heldItems_eq (plain : session.Plain) (sound : session.Sound)
    (single : session.detector.laned = false) :
    (heldItems session.keys).val = (((List.finRange count).filter
      fun candidate => (session.voices.states candidate).active).map
        fun candidate => (detectedNote session.detector candidate, unassignedVoiceId) :
          List VoiceKey) := by
  have injective : Function.Injective fun candidate : Fin count =>
      ((detectedNote session.detector candidate, unassignedVoiceId) : VoiceKey) := by
    intro first second same
    have notes := congrArg Prod.fst same
    dsimp only [detectedNote] at notes
    exact Fin.ext (by omega)
  have once : (((List.finRange count).filter fun candidate =>
      (session.voices.states candidate).active).map fun candidate =>
        ((detectedNote session.detector candidate, unassignedVoiceId) : VoiceKey)).Nodup :=
    ((List.nodup_finRange count).filter _).map injective
  apply (Multiset.Nodup.ext (Finset.nodup _) (Multiset.coe_nodup.mpr once)).mpr
  intro key
  rw [Finset.mem_val, mem_heldItems, Multiset.mem_coe, List.mem_map]
  constructor
  · intro ⟨candidate, member⟩
    obtain ⟨sounds, same⟩ := (plain.mem_keys sound single).mp member
    exact ⟨candidate, List.mem_filter.mpr ⟨List.mem_finRange candidate, sounds⟩, same.symm⟩
  · intro ⟨candidate, member, same⟩
    exact ⟨candidate, (plain.mem_keys sound single).mpr ⟨(List.mem_filter.mp member).2, same.symm⟩⟩

/-- Outside the M3 profile every run is orderly. -/
theorem Plain.meets (sound : session.Sound) (plain : session.Plain)
    (general : session.detector.profileMode ≠ .m3) (events : List (DetectorEvent count)) :
    (machine count).Meets Orderly session events ∧ ((machine count).run session events).1.Plain := by
  induction events generalizing session with
  | nil => exact ⟨trivial, plain⟩
  | cons event events ih =>
      have same := sound.sameStructure event
      have later : ((machine count).step session event).1.detector.profileMode ≠ .m3 := by
        rw [same.profile]
        exact general
      have single : session.detector.laned = false := by
        unfold DetectorConfiguration.laned
        rw [decide_eq_false general, Bool.false_and]
      have stays : ((machine count).step session event).1.Plain := by
        cases event with
        | decide evidence => exact plain.decide sound general evidence
        | loseSignal => exact plain
        | retune candidate => exact plain
      have distinct := stays.distinct (sound.step event) (same.laned.trans single)
      obtain ⟨meets, reached⟩ := ih (sound.step event) stays later
      exact ⟨⟨⟨fun _ _ => VoiceState.steady_of_single single, distinct⟩, meets⟩, reached⟩

/-- The detected notes of the voices. -/
def notes (session : DetectorSession count) : List ℕ :=
  ((List.finRange count).filter fun candidate =>
    (session.voices.states candidate).active).map (detectedNote session.detector)

/-- A detector in the general profile, as an empty ledger takes it. -/
theorem general_names {fresh : DetectorConfiguration} {sampleRate : Option ℚ}
    {config : PersistentConfig} (valid : validConfig sampleRate config = true)
    (general : config.profileMode = .general)
    (started : 1 ≤ startChannel ∧ startChannel ≤ 16) (time : ℕ)
    (silent : ∀ slot, ledger.voices slot = {}) (uncounted : ledger.activeCount = 0)
    (events : List (DetectorEvent (config.highestNote - config.lowestNote + 1))) :
    let reached := (machine _).run (start fresh sampleRate config) events
    ∃ taken, (takeTicks config.midiRouting startChannel time reached.2 ledger).2 = some taken ∧
      taken.names = (reached.1.notes.map fun note => (note, unassignedVoiceId) :
        List (ℕ × ℕ)) := by
  intro reached
  have sound := @start_sound fresh sampleRate config valid
  have fields : (start fresh sampleRate config).detector.profileMode = .general ∧
      (start fresh sampleRate config).detector.midiRouting = config.midiRouting := by
    unfold start
    rw [configure_eq valid]
    exact ⟨general, rfl⟩
  have outside : (start fresh sampleRate config).detector.profileMode ≠ .m3 := by
    rw [fields.1]
    exact ProfileMode.noConfusion
  have plain : (start fresh sampleRate config).Plain := fun _ sounds => Bool.noConfusion sounds
  obtain ⟨orderly, kept⟩ := plain.meets sound outside events
  have agrees := @Transducer.run_invariant_of_meets _ _ _ (machine _) Orderly
    (Agrees (start fresh sampleRate config) startChannel time ledger)
    (fun log session event holds meets => holds.step started meets) []
    (start fresh sampleRate config) events (agrees_start valid time silent uncounted) orderly
  obtain ⟨taken, accepted, plays⟩ := agrees.taken
  have same : SameStructure (start fresh sampleRate config) reached.1 := sound.run_structure events
  have single : reached.1.detector.laned = false := by
    unfold DetectorConfiguration.laned
    rw [same.profile, decide_eq_false outside, Bool.false_and]
  rw [fields.2] at accepted
  refine ⟨taken, accepted, plays.names.trans ?_⟩
  rw [kept.heldItems_eq (sound.run events) single, notes, List.map_map]
  rfl

/-- **The general profile.** Whatever a detector in the general profile is given, an empty ledger
takes all that it emits, and then sounds exactly the detected notes of the voices. -/
theorem general_agreement {fresh : DetectorConfiguration} {sampleRate : Option ℚ}
    {config : PersistentConfig} (valid : validConfig sampleRate config = true)
    (general : config.profileMode = .general)
    (started : 1 ≤ startChannel ∧ startChannel ≤ 16) (time : ℕ)
    (silent : ∀ slot, ledger.voices slot = {}) (uncounted : ledger.activeCount = 0)
    (events : List (DetectorEvent (config.highestNote - config.lowestNote + 1))) :
    let reached := (machine _).run (start fresh sampleRate config) events
    ∃ taken, (takeTicks config.midiRouting startChannel time reached.2 ledger).2 = some taken ∧
      taken.names = (((List.finRange (config.highestNote - config.lowestNote + 1)).filter
        fun candidate => (reached.1.voices.states candidate).active).map
          fun candidate : Fin _ => (config.lowestNote + candidate, unassignedVoiceId) :
            List (ℕ × ℕ)) := by
  intro reached
  obtain ⟨taken, accepted, names⟩ :=
    general_names valid general started time silent uncounted events
  have lowest : reached.1.detector.lowestNote = config.lowestNote := by
    rw [((start_sound valid).run_structure events).lowest, start, configure_eq valid]
  refine ⟨taken, accepted, names.trans ?_⟩
  unfold notes detectedNote
  rw [List.map_map, lowest]
  rfl

/-- A voice without a lane, and no note after the signal has been lost. -/
theorem general_agreement_lone :
    let reached := (machine 1).run (start {} (some 4800) loneConfig)
      [.decide loneEvidence, .loseSignal]
    ∃ taken, (takeTicks .single 1 0 reached.2 {}).2 = some taken ∧
      taken.names = (((List.finRange 1).filter
        fun candidate => (reached.1.voices.states candidate).active).map
          fun candidate : Fin _ => (40 + candidate, unassignedVoiceId) : List (ℕ × ℕ)) :=
  @general_agreement 1 {} {} (some 4800) loneConfig loneConfig_valid rfl (by decide) 0
    (fun _ => rfl) rfl _

end General

end DetectorSession

end M3Midi
