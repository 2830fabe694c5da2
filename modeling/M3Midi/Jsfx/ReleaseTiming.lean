import M3Midi.Jsfx.LifecyclePasses

/-! # The deadline of a sounding voice

A voice whose evidence stops has a deadline: the dropout time and the release time after its
last evidence. The cell of a voice knows the time of its last evidence in the states on and
release, and the first loop of an update ends the voice past the deadline, whether the voice
went through the state release or straight past it.
-/

namespace M3Midi.Jsfx

open Foundation

/-- The arguments of an update that set the deadline of a voice. -/
structure ReleaseSettings where
  releaseSamples : ℚ
  dropoutSamples : ℚ
  onThreshold : ℚ
  offThreshold : ℚ
  deriving DecidableEq, Repr

namespace ReleaseSettings

variable (timing : ReleaseSettings)

/-- The local variable `release_limit`. -/
def release : ℤ := max 0 (floor timing.releaseSamples)

/-- The local variable `dropout_limit`. -/
def dropout : ℤ := max 0 (floor timing.dropoutSamples)

/-- The local variable `on_level`. -/
def onLevel : ℚ := clamp timing.onThreshold 0 1

/-- The local variable `off_level`. -/
def offLevel : ℚ := min timing.onLevel (clamp timing.offThreshold 0 1)

/-- A time is past the deadline that the last evidence has set. -/
def Past (last now : ℤ) : Prop :=
  last + timing.dropout < now ∧ last + timing.dropout + timing.release ≤ now

/-- The time without evidence is not negative. -/
theorem dropout_nonneg : 0 ≤ timing.dropout := le_max_left _ _

/-- A voice goes off at no more than the level at which it goes on. -/
theorem offLevel_le : timing.offLevel ≤ timing.onLevel := min_le_left _ _

/-- That level is not negative, either. -/
theorem offLevel_nonneg : 0 ≤ timing.offLevel :=
  le_min (le_min zero_le_one (le_max_left _ _)) (le_min zero_le_one (le_max_left _ _))

end ReleaseSettings

/-- A finite cell for a note with at least a given confidence. -/
def SelectionCell.sustains (offLevel : ℚ) (note : ℕ) (cell : SelectionCell) : Bool :=
  match cell.note, cell.confidence, cell.energy with
  | some selected, some confidence, some _ =>
      decide (floor (selected + 1 / 2) = note) && decide (offLevel ≤ max 0 confidence)
  | _, _, _ => false

namespace UpdateArguments

/-- The part of the arguments that sets deadlines. -/
def releaseSettings (arguments : UpdateArguments) : ReleaseSettings where
  releaseSamples := arguments.releaseSamples
  dropoutSamples := arguments.dropoutSamples
  onThreshold := arguments.onThreshold
  offThreshold := arguments.offThreshold

/-- The time of an update. -/
def now (arguments : UpdateArguments) : ℤ := max 0 (floor arguments.absoluteSample)

/-- Whether an update finds evidence of a note that sustains its voice. -/
def hears (note : ℕ) (arguments : UpdateArguments) : Bool :=
  (arguments.selection.take maxVoices).any
    (SelectionCell.sustains arguments.releaseSettings.offLevel note)

end UpdateArguments

/-- A frame was entered with the settings of a run. -/
structure ReleaseSettings.Governs (timing : ReleaseSettings) (frame : UpdateFrame) : Prop where
  release : frame.releaseLimit = timing.release
  dropout : frame.dropoutLimit = timing.dropout
  onLevel : frame.onLevel = timing.onLevel
  offLevel : frame.offLevel = timing.offLevel
  sustain : frame.attackSustainLevel =
    if frame.settings.attackHysteresis then timing.offLevel else timing.onLevel

/-- The settings of an update govern what it does to the cells. -/
theorem governs_enter (settings : LifecycleSettings) (arguments : UpdateArguments) :
    arguments.releaseSettings.Governs (UpdateFrame.enter settings arguments) :=
  ⟨rfl, rfl, rfl, rfl, rfl⟩

/-- The evidence sustains a voice. -/
def Evidence.sustains (offLevel : ℚ) (evidence : Evidence) : Bool :=
  evidence.present && decide (offLevel ≤ evidence.confidence)

/-- A finite cell of the note raises the confidence. -/
theorem Evidence.sustains_raised (offLevel confidence energy : ℚ) (evidence : Evidence) :
    ({ present := true
       confidence := if !evidence.present || decide (evidence.confidence < confidence)
        then confidence else evidence.confidence
       energy } : Evidence).sustains offLevel =
      (evidence.sustains offLevel || decide (offLevel ≤ confidence)) := by
  unfold Evidence.sustains
  cases evidence.present with
  | false => rfl
  | true =>
      simp only [Bool.not_true, Bool.false_or, Bool.true_and, decide_eq_true_eq]
      rw [← Bool.decide_or, decide_eq_decide]
      split_ifs with higher
      · exact ⟨.inr, fun either => either.elim (fun low => low.trans higher.le) id⟩
      · exact ⟨.inl, fun either => either.elim id fun low => low.trans (not_lt.mp higher)⟩

/-- Another cell sustains a voice, or leaves what was found. -/
theorem Evidence.sustains_add (offLevel : ℚ) (note : ℕ) (evidence : Evidence)
    (cell : SelectionCell) :
    (evidence.add note cell).sustains offLevel =
      (evidence.sustains offLevel || cell.sustains offLevel note) := by
  obtain ⟨selected, confidence, energy⟩ := cell
  cases selected with
  | none => exact (Bool.or_false _).symm
  | some selected =>
    cases confidence with
    | none => exact (Bool.or_false _).symm
    | some confidence =>
      cases energy with
      | none => exact (Bool.or_false _).symm
      | some energy =>
        rw [Evidence.add, SelectionCell.sustains]
        dsimp only
        by_cases same : floor (selected + 1 / 2) = note
        · rw [if_pos same, decide_eq_true same, Bool.true_and]
          exact Evidence.sustains_raised offLevel (max 0 confidence) _ evidence
        · rw [if_neg same, decide_eq_false same, Bool.false_and, Bool.or_false]

/-- What an update finds sustains a voice when the update hears its note. -/
theorem sustains_evidence (settings : LifecycleSettings) (arguments : UpdateArguments)
    (note : ℕ) :
    ((UpdateFrame.enter settings arguments).evidence note).sustains
      arguments.releaseSettings.offLevel = arguments.hears note := by
  have folded : ∀ (cells : List SelectionCell) (evidence : Evidence),
      (cells.foldl (Evidence.add note) evidence).sustains arguments.releaseSettings.offLevel =
        (evidence.sustains arguments.releaseSettings.offLevel ||
          cells.any (SelectionCell.sustains arguments.releaseSettings.offLevel note)) := by
    intro cells
    induction cells with
    | nil => intro evidence; exact (Bool.or_false _).symm
    | cons cell cells ih =>
        intro evidence
        rw [List.foldl_cons, ih, Evidence.sustains_add, List.any_cons, Bool.or_assoc]
  exact folded _ {}

/-- What a cell knows between updates: the time of the last evidence of a sounding voice, and
that a released voice was found without evidence for the dropout time. An attack that missed
some evidence waits for more. -/
structure VoiceCell.Timely (timing : ReleaseSettings) (last : Option ℤ) (now : ℤ)
    (cell : VoiceCell) : Prop where
  attack : cell.state = .attack →
    last = some cell.lastEvidence ∨ (0 < timing.onLevel ∧ cell.confidence < timing.onLevel)
  on : cell.state = .on → last = some cell.lastEvidence
  release : cell.state = .release → last = some cell.lastEvidence ∧
    cell.stateEnter = cell.lastEvidence + timing.dropout ∧
    cell.lastEvidence + timing.dropout < now

/-- What becomes of a sounding voice whose last evidence is known: past the deadline it is
cleared, and else it still sounds. -/
def VoiceCell.Heeds (timing : ReleaseSettings) (last : Option ℤ) (now : ℤ) (cell : VoiceCell) :
    Prop :=
  ∃ time ∈ last, (timing.Past time now ∧ cell = {}) ∨
    (¬ timing.Past time now ∧ cell.active = true)

namespace VoiceCell.Timely

variable {math : EelMath} {frame : UpdateFrame} {timing : ReleaseSettings} {last : Option ℤ}
  {now : ℤ} {cell : VoiceCell} {evidence : Evidence} {conflict : Bool}

/-- A voice that is off knows nothing. -/
theorem of_off (off : cell.state = .off) : cell.Timely timing last now :=
  ⟨fun attack => absurd (off.symm.trans attack) (by decide),
    fun on => absurd (off.symm.trans on) (by decide),
    fun release => absurd (off.symm.trans release) (by decide)⟩

/-- An attack that has its last evidence. -/
theorem of_attack (attack : cell.state = .attack)
    (known : last = some cell.lastEvidence ∨
      (0 < timing.onLevel ∧ cell.confidence < timing.onLevel)) :
    cell.Timely timing last now :=
  ⟨fun _ => known, fun on => absurd (attack.symm.trans on) (by decide),
    fun release => absurd (attack.symm.trans release) (by decide)⟩

/-- A voice that is on and has its last evidence. -/
theorem of_on (on : cell.state = .on) (known : last = some cell.lastEvidence) :
    cell.Timely timing last now :=
  ⟨fun attack => absurd (on.symm.trans attack) (by decide), fun _ => known,
    fun release => absurd (on.symm.trans release) (by decide)⟩

/-- Time passes. -/
theorem mono {later : ℤ} (timely : cell.Timely timing last now) (le : now ≤ later) :
    cell.Timely timing last later :=
  ⟨timely.attack, timely.on, fun release =>
    ⟨(timely.release release).1, (timely.release release).2.1,
      (timely.release release).2.2.trans_le le⟩⟩

/-- The last evidence after an update. -/
def latest (timing : ReleaseSettings) (evidence : Evidence) (now : ℤ) (last : Option ℤ) :
    Option ℤ :=
  if evidence.sustains timing.offLevel then some now else last

/-- Evidence at the attack level sustains a voice. -/
theorem sustains_of_le {level : ℚ} (present : evidence.present = true)
    (high : level ≤ evidence.confidence) (above : timing.offLevel ≤ level) :
    evidence.sustains timing.offLevel = true := by
  rw [Evidence.sustains, present, Bool.true_and]
  exact decide_eq_true (above.trans high)

/-- A voice that is off knows of its evidence after an update, if it attacks now. -/
theorem observeOff (governs : timing.Governs frame) (off : cell.state = .off) :
    (cell.observeOff frame evidence conflict).Timely timing
      (latest timing evidence frame.now last) frame.now := by
  unfold VoiceCell.observeOff
  by_cases waits : cell.firstEvidence < 0
  · rw [if_pos waits]
    split_ifs
    · exact of_off off
    · exact of_off off
  · rw [if_neg waits]
    split
    next attacks =>
      simp only [Bool.and_eq_true, decide_eq_true_eq] at attacks
      have sustained := sustains_of_le attacks.1.2 attacks.2
        (governs.onLevel ▸ timing.offLevel_le)
      exact of_attack rfl (.inl (if_pos sustained))
    next => exact of_off off

/-- An attack knows of its evidence after an update, whether it is confirmed or given up. -/
theorem observeAttack (governs : timing.Governs frame) (attack : cell.state = .attack)
    (timely : cell.Timely timing last now) :
    (cell.observeAttack frame evidence conflict).Timely timing
      (latest timing evidence frame.now last) frame.now := by
  have above : timing.offLevel ≤ frame.attackSustainLevel := by
    rw [governs.sustain]
    split_ifs
    · exact le_rfl
    · exact timing.offLevel_le
  unfold VoiceCell.observeAttack
  split_ifs with _ _ confirms _ hysteresis
  · exact of_off rfl
  · exact of_off rfl
  · rw [Bool.and_eq_true, decide_eq_true_eq] at confirms
    have sustained := sustains_of_le confirms.1 confirms.2 above
    exact of_attack (VoiceCell.confirmAttack_silent attack).1 (.inl (if_pos sustained))
  · exact of_off rfl
  · -- with hysteresis all evidence that sustains a voice confirms an attack
    have unheard : ¬ evidence.sustains timing.offLevel = true := by
      rw [governs.sustain, if_pos hysteresis] at confirms
      exact confirms
    rw [latest, if_neg unheard]
    exact of_attack attack (timely.attack attack)
  · -- without it the confidence is lost, and only new evidence restores it
    rw [governs.sustain, if_neg hysteresis] at confirms
    by_cases heard : evidence.sustains timing.offLevel = true
    · rw [Evidence.sustains, Bool.and_eq_true, decide_eq_true_eq] at heard
      rw [Bool.and_eq_true, decide_eq_true_eq] at confirms
      have weak : evidence.confidence < timing.onLevel :=
        not_le.mp fun high => confirms ⟨heard.1, high⟩
      have positive := timing.offLevel_nonneg.trans_lt (heard.2.trans_lt weak)
      exact of_attack attack (.inr ⟨positive, positive⟩)
    · rw [latest, if_neg heard]
      rcases timely.attack attack with known | ⟨positive, -⟩
      · exact of_attack attack (.inl known)
      · exact of_attack attack (.inr ⟨positive, positive⟩)

/-- No time is past the deadline that it sets itself. -/
theorem not_past_self (timing : ReleaseSettings) (now : ℤ) : ¬ timing.Past now now := by
  intro past
  have nonneg := timing.dropout_nonneg
  have later := past.1
  omega

/-- Evidence sustains a sounding voice. -/
theorem sustain (heard : evidence.sustains timing.offLevel = true) (on : cell.state = .on)
    (active : cell.active = true) (known : cell.lastEvidence = frame.now) :
    cell.Timely timing (latest timing evidence frame.now last) frame.now ∧
      cell.Heeds timing (latest timing evidence frame.now last) frame.now := by
  rw [latest, if_pos heard]
  exact ⟨of_on on (known ▸ rfl), frame.now, rfl, .inr ⟨not_past_self timing _, active⟩⟩

/-- A released voice ends past its deadline. -/
theorem finish (governs : timing.Governs frame) (release : cell.state = .release)
    (active : cell.active = true) (known : last = some cell.lastEvidence)
    (entered : cell.stateEnter = cell.lastEvidence + timing.dropout)
    (dropped : cell.lastEvidence + timing.dropout < frame.now) {ended : VoiceCell}
    (ends : ended = if frame.releaseLimit ≤ frame.now - cell.stateEnter then {} else cell) :
    ended.Timely timing last frame.now ∧ ended.Heeds timing last frame.now := by
  rw [governs.release, entered] at ends
  split_ifs at ends with passed
  · subst ends
    refine ⟨of_off rfl, cell.lastEvidence, known, .inl ⟨⟨dropped, ?_⟩, rfl⟩⟩
    omega
  · subst ends
    refine ⟨⟨fun attack => ?_, fun on => ?_, fun _ => ⟨known, entered, dropped⟩⟩,
      ended.lastEvidence, known, .inr ⟨fun past => passed ?_, active⟩⟩
    · exact absurd (release.symm.trans attack) (by decide)
    · exact absurd (release.symm.trans on) (by decide)
    · have late := past.2
      omega

end VoiceCell.Timely

/-- With room in the list a released voice is cleared when its release time is over. -/
theorem Lifecycle.finishRelease_cell {frame : UpdateFrame} {note : ℕ} {lifecycle : Lifecycle}
    (room : lifecycle.list.events.length < maxEvents) :
    (lifecycle.finishRelease frame note).voices note =
      if frame.releaseLimit ≤ frame.now - (lifecycle.voices note).stateEnter then {}
      else lifecycle.voices note := by
  unfold Lifecycle.finishRelease
  split_ifs
  · rw [Lifecycle.releaseVoice_room room, Lifecycle.setVoice_self]
  · rfl

open VoiceCell.Timely in
/-- The pass of the first loop for a note keeps what its cell knows. It ends a sounding voice
past its deadline, and only then. -/
theorem Releases.observeNote_timely {math : EelMath} {frame : UpdateFrame}
    {timing : ReleaseSettings} {start : Finset ℕ} {sequence note : ℕ} {lifecycle : Lifecycle}
    {last : Option ℤ} {earlier : ℤ}
    (releases : Releases start sequence frame.outputOffset note lifecycle)
    (few : start.card ≤ maxVoices) (below : note < noteCount) (governs : timing.Governs frame)
    (timely : (lifecycle.voices note).Timely timing last earlier) (later : earlier ≤ frame.now) :
    ((lifecycle.observeNote math frame note).voices note).Timely timing
        (latest timing (frame.evidence note) frame.now last) frame.now ∧
      ((lifecycle.voices note).active = true →
        ((lifecycle.observeNote math frame note).voices note).Heeds timing
          (latest timing (frame.evidence note) frame.now last) frame.now) := by
  have consistent := releases.tracks.consistent note
  have offLevel : ((frame.evidence note).present &&
      decide (frame.offLevel ≤ (frame.evidence note).confidence)) =
        (frame.evidence note).sustains timing.offLevel := by
    rw [governs.offLevel]
    rfl
  unfold Lifecycle.observeNote
  dsimp only
  rw [offLevel]
  cases state : (lifecycle.voices note).state with
  | off =>
      have inactive := consistent.inactive (.inl state)
      dsimp only
      rw [lifecycle.setVoice_self, inactive]
      exact ⟨observeOff governs state, fun active => absurd active (by decide)⟩
  | attack =>
      have inactive := consistent.inactive (.inr state)
      dsimp only
      rw [lifecycle.setVoice_self, inactive]
      exact ⟨observeAttack governs state timely, fun active => absurd active (by decide)⟩
  | on =>
      have active := consistent.mpr (.inl state)
      have room := releases.room few below active
      have known := timely.on state
      dsimp only
      by_cases heard : (frame.evidence note).sustains timing.offLevel = true
      · rw [if_pos heard, lifecycle.setVoice_self]
        obtain ⟨kept, heeds⟩ := @VoiceCell.Timely.sustain frame timing last
          ((lifecycle.voices note).sustain frame (frame.evidence note) math) _ heard state active rfl
        exact ⟨kept, fun _ => heeds⟩
      · rw [if_neg heard, latest, if_neg heard]
        split_ifs with dropped
        · have entered := governs.dropout ▸ dropped
          rw [Lifecycle.finishRelease_cell (by exact room), lifecycle.setVoice_self]
          obtain ⟨kept, heeds⟩ := @VoiceCell.Timely.finish frame timing last
            { lifecycle.voices note with
              state := .release
              stateEnter := (lifecycle.voices note).lastEvidence + frame.dropoutLimit }
            governs rfl active known (by rw [governs.dropout]) (by dsimp only; omega) _ rfl
          exact ⟨kept, fun _ => heeds⟩
        · refine ⟨timely.mono later, fun _ => ⟨_, known, .inr ⟨fun past => dropped ?_, active⟩⟩⟩
          have late := past.1
          rw [governs.dropout]
          omega
  | release =>
      have active := consistent.mpr (.inr state)
      have room := releases.room few below active
      obtain ⟨known, entered, dropped⟩ := timely.release state
      dsimp only
      by_cases heard : (frame.evidence note).sustains timing.offLevel = true
      · rw [if_pos heard, lifecycle.setVoice_self]
        obtain ⟨kept, heeds⟩ := @VoiceCell.Timely.sustain frame timing last
          { (lifecycle.voices note).sustain frame (frame.evidence note) math with
            state := .on
            stateEnter := frame.now } _ heard rfl active rfl
        exact ⟨kept, fun _ => heeds⟩
      · rw [if_neg heard, latest, if_neg heard]
        obtain ⟨kept, heeds⟩ := VoiceCell.Timely.finish governs state active known
          entered (dropped.trans_le later) (Lifecycle.finishRelease_cell room)
        exact ⟨kept, fun _ => heeds⟩

namespace Lifecycle

variable {math : EelMath} {frame : UpdateFrame} {lifecycle : Lifecycle} {note other : ℕ}

/-- The event list does not touch the cells. -/
@[simp] theorem queueEvent_voices (type : EventType) (velocity offset : ℤ) :
    (lifecycle.queueEvent type note velocity offset).2.voices = lifecycle.voices := rfl

/-- The end of a release concerns its own note only. -/
theorem finishRelease_of_ne (apart : other ≠ note) :
    (lifecycle.finishRelease frame note).voices other = lifecycle.voices other := by
  unfold finishRelease releaseVoice
  dsimp only
  split_ifs
  · exact lifecycle.setVoice_of_ne apart
  · rfl
  · rfl

/-- A pass of the first loop changes one cell. -/
theorem observeNote_of_ne (apart : other ≠ note) :
    (lifecycle.observeNote math frame note).voices other = lifecycle.voices other := by
  unfold observeNote
  dsimp only
  cases (lifecycle.voices note).state with
  | off => exact lifecycle.setVoice_of_ne apart
  | attack => exact lifecycle.setVoice_of_ne apart
  | on =>
      dsimp only
      split_ifs
      · exact lifecycle.setVoice_of_ne apart
      · rw [finishRelease_of_ne apart, lifecycle.setVoice_of_ne apart]
      · rfl
  | release =>
      dsimp only
      split_ifs
      · exact lifecycle.setVoice_of_ne apart
      · exact finishRelease_of_ne apart

end Lifecycle

open VoiceCell.Timely in
/-- The first loop keeps what the cell of a note knows. It ends a sounding voice past its
deadline, and only then. -/
theorem observeAll_timely {math : EelMath} {frame : UpdateFrame} {timing : ReleaseSettings}
    {note : ℕ} {lifecycle : Lifecycle} {last : Option ℤ} {earlier : ℤ}
    (consistent : ∀ note, (lifecycle.voices note).Consistent)
    (few : (activeNotes lifecycle.voices).card ≤ maxVoices)
    (nonneg : 0 ≤ frame.outputOffset) (below : note < noteCount) (governs : timing.Governs frame)
    (timely : (lifecycle.voices note).Timely timing last earlier) (later : earlier ≤ frame.now) :
    ((lifecycle.observeAll math frame).voices note).Timely timing
        (latest timing (frame.evidence note) frame.now last) frame.now ∧
      ((lifecycle.voices note).active = true →
        ((lifecycle.observeAll math frame).voices note).Heeds timing
          (latest timing (frame.evidence note) frame.now last) frame.now) := by
  have walked := @countedLoop_invariant _ (Lifecycle.observeNote math frame)
    (fun index state =>
      Releases (activeNotes lifecycle.voices) lifecycle.list.sequence frame.outputOffset index
        state ∧
      (index ≤ note → state.voices note = lifecycle.voices note) ∧
      (note < index → (state.voices note).Timely timing
          (latest timing (frame.evidence note) frame.now last) frame.now ∧
        ((lifecycle.voices note).active = true →
          (state.voices note).Heeds timing (latest timing (frame.evidence note) frame.now last)
            frame.now)))
    noteCount { lifecycle with list := lifecycle.list.reset }
    ⟨Releases.enter consistent, fun _ => rfl, fun passed => absurd passed (Nat.not_lt_zero _)⟩ ?_
  · unfold Lifecycle.observeAll
    exact walked.2.2 below
  · rintro index inside state ⟨releases, before, after⟩
    refine ⟨releases.observeNote nonneg few inside, fun ahead => ?_, fun passed => ?_⟩
    · rw [Lifecycle.observeNote_of_ne (by omega : note ≠ index), before (by omega)]
    · rcases eq_or_ne note index with rfl | apart
      · have same := before le_rfl
        rw [← same] at timely ⊢
        exact releases.observeNote_timely few below governs timely later
      · rw [Lifecycle.observeNote_of_ne apart]
        exact after (by omega)

/-- What the third loop makes of a cell: it leaves it, starts a ready attack, or takes the voice
away. -/
inductive Admitted (frame : UpdateFrame) (cell : VoiceCell) : VoiceCell → Prop
  | same : Admitted frame cell cell
  | started (ready : Lifecycle.attackReady frame cell = true) (velocity : ℤ) :
      Admitted frame cell { cell with
        state := .on
        stateEnter := frame.now
        velocity
        active := true }
  | taken : Admitted frame cell {}

namespace Lifecycle.Admission

variable {math : EelMath} {frame : UpdateFrame} {admission : Admission} {note other : ℕ}

/-- A replacement takes one voice away, and not the one at hand. -/
theorem replaceHighest_voices :
    (admission.replaceHighest frame note).2.lifecycle.voices note =
        admission.lifecycle.voices note ∧
      ∀ other, (admission.replaceHighest frame note).2.lifecycle.voices other =
          admission.lifecycle.voices other ∨
        (admission.replaceHighest frame note).2.lifecycle.voices other = {} := by
  unfold replaceHighest
  cases must : admission.mustReplace frame note with
  | false => exact ⟨rfl, fun _ => .inl rfl⟩
  | true =>
      unfold mustReplace at must
      simp only [Bool.and_eq_true, decide_eq_true_eq] at must
      have apart : note ≠ admission.highestActiveNote.toNat := by
        have above := must.1.2
        omega
      rw [if_pos rfl]
      dsimp only
      split_ifs
      · refine ⟨Lifecycle.setVoice_of_ne _ apart, fun other => ?_⟩
        rcases eq_or_ne other admission.highestActiveNote.toNat with rfl | away
        · exact .inr (Lifecycle.setVoice_self ..)
        · exact .inl (Lifecycle.setVoice_of_ne _ away)
      · exact ⟨rfl, fun _ => .inl rfl⟩

/-- An activation changes the cell at hand at most. -/
theorem activate_voices :
    (∃ velocity, (admission.activate math frame note).lifecycle.voices note =
        { admission.lifecycle.voices note with
          state := .on
          stateEnter := frame.now
          velocity
          active := true } ∨
      (admission.activate math frame note).lifecycle.voices note =
        admission.lifecycle.voices note) ∧
      ∀ other, other ≠ note → (admission.activate math frame note).lifecycle.voices other =
        admission.lifecycle.voices other := by
  unfold activate
  dsimp only
  split_ifs
  · exact ⟨⟨_, .inl (Lifecycle.setVoice_self ..)⟩, fun _ apart =>
      Lifecycle.setVoice_of_ne _ apart⟩
  · exact ⟨⟨0, .inr rfl⟩, fun _ _ => rfl⟩

/-- To reserve a voice changes none. -/
theorem reserve_voices :
    (admission.reserve frame note).lifecycle.voices = admission.lifecycle.voices := by
  unfold reserve
  split_ifs <;> rfl

/-- An attack that may sound is ready. -/
theorem ready_of_mayAttack {highOpenContext : Bool}
    (may : mayAttack frame highOpenContext admission note = true) :
    attackReady frame (admission.lifecycle.voices note) = true := by
  unfold mayAttack at may
  simp only [Bool.and_eq_true] at may
  exact may.1.1.1.1.1.1.1.1.1

/-- Only an attack can be ready. -/
theorem state_of_ready {cell : VoiceCell} (ready : attackReady frame cell = true) :
    cell.state = .attack := by
  unfold attackReady at ready
  simp only [Bool.and_eq_true, decide_eq_true_eq] at ready
  exact ready.1.1.1

/-- A pass of the third loop takes a cell on. -/
theorem admitNote_voices {cell : VoiceCell} {highOpenContext : Bool}
    (admitted : Admitted frame cell (admission.lifecycle.voices other)) :
    Admitted frame cell
      ((admission.admitNote math frame highOpenContext note).lifecycle.voices other) := by
  unfold admitNote
  rw [reserve_voices]
  split_ifs with may
  · have ready := ready_of_mayAttack may
    obtain ⟨kept, replaced⟩ := @replaceHighest_voices frame admission note
    have remaining : Admitted frame cell
        ((admission.replaceHighest frame note).2.lifecycle.voices other) := by
      rcases replaced other with same | cleared
      · rwa [same]
      · rw [cleared]
        exact .taken
    dsimp only
    split_ifs
    · obtain ⟨⟨velocity, activated⟩, elsewhere⟩ :=
        @activate_voices math frame (admission.replaceHighest frame note).2 note
      rcases eq_or_ne other note with rfl | apart
      · rcases activated with started | same
        · rw [started, kept]
          rw [kept] at remaining
          -- only the cell that the loop has not yet touched is still attacking
          generalize admission.lifecycle.voices other = now at ready remaining
          cases remaining with
          | same => exact .started ready velocity
          | started => exact LifecycleState.noConfusion (state_of_ready ready)
          | taken => exact LifecycleState.noConfusion (state_of_ready ready)
        · rwa [same]
      · rwa [elsewhere other apart]
    · exact remaining
  · exact admitted

end Lifecycle.Admission

/-- The third loop takes every cell on. -/
theorem admitAll_voices {math : EelMath} {frame : UpdateFrame} {lifecycle : Lifecycle}
    (note : ℕ) :
    Admitted frame (lifecycle.voices note)
      ((lifecycle.admitAll math frame).lifecycle.voices note) := by
  unfold Lifecycle.admitAll
  dsimp only
  refine @countedLoop_invariant _ _ (fun _ (admission : Lifecycle.Admission) =>
    Admitted frame (lifecycle.voices note) (admission.lifecycle.voices note)) _ _ ?_ ?_
  · have same : ((Lifecycle.capAdmission frame (Lifecycle.takeSnapshot frame lifecycle).activeCount
        (Lifecycle.takeSnapshot frame lifecycle).lifecycle).voices note) =
          lifecycle.voices note := by
      unfold Lifecycle.capAdmission
      split_ifs <;> rfl
    rw [same]
    exact .same
  · exact fun _ _ _ admitted => Lifecycle.Admission.admitNote_voices admitted

end M3Midi.Jsfx
