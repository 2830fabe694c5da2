import M3Midi.Jsfx.LifecycleRuns
import M3Midi.Jsfx.ReleaseTiming
import M3Midi.Foundation.FirstPrefix

/-! # When a run releases a sounding voice

In a run with the same settings throughout, a voice ends in the first update past its deadline,
which only its last evidence sets. How many updates lie between makes no difference
(`run_release_timing`).
-/

namespace M3Midi.Jsfx

open Foundation

/-- The times of the updates in a list of calls. -/
def updateTimes (calls : List LifecycleCall) : List ℤ :=
  calls.filterMap fun
    | .update _ arguments => some arguments.now
    | .releaseAll _ => none

/-- The times of the updates that hear a note. -/
def evidenceTimes (note : ℕ) (calls : List LifecycleCall) : List ℤ :=
  calls.filterMap fun
    | .update _ arguments => if arguments.hears note then some arguments.now else none
    | .releaseAll _ => none

/-- The samples that the updates in a list of calls were given. -/
def updateSamples (calls : List LifecycleCall) : List ℚ :=
  calls.filterMap fun
    | .update _ arguments => some arguments.absoluteSample
    | .releaseAll _ => none

/-- All updates of a run have the same release, dropout and threshold settings, and none goes
back in time. -/
structure Steady (timing : ReleaseSettings) (calls : List LifecycleCall) : Prop where
  constant : ∀ settings arguments, LifecycleCall.update settings arguments ∈ calls →
    arguments.releaseSettings = timing
  ordered : (updateSamples calls).Pairwise (· ≤ ·)

/-- An update takes the voice of a note away to make room for a lower attack: the first loop
leaves it active, and the update does not. -/
def Lifecycle.Steals (math : EelMath) (lifecycle : Lifecycle) (note : ℕ)
    (update : LifecycleSettings × UpdateArguments) : Prop :=
  ((lifecycle.observeAll math (UpdateFrame.enter update.1 update.2)).voices note).active = true ∧
    ((lifecycle.update math update.1 update.2).voices note).active = false

/-- The list of a lifecycle has the note-off of a note. -/
def Lifecycle.Silences (lifecycle : Lifecycle) (note : ℕ) : Prop :=
  ∃ event ∈ lifecycle.list.events, event.type = .off ∧ event.note = note

/-- The calls of some updates. -/
def updateCalls (updates : List (LifecycleSettings × UpdateArguments)) : List LifecycleCall :=
  updates.map fun update => .update update.1 update.2

/-- After some calls, the last one an update, the time is past the deadline of a note. -/
def ReleaseSettings.Due (timing : ReleaseSettings) (note : ℕ) (calls : List LifecycleCall) : Prop :=
  ∃ last ∈ (evidenceTimes note calls).getLast?, ∃ now ∈ (updateTimes calls).getLast?,
    timing.Past last now

/-- After some calls a voice sounds, and in the updates that follow it is not taken away to make
room for another one. -/
structure HeldVoice (math : EelMath) (timing : ReleaseSettings) (note : ℕ)
    (calls : List LifecycleCall) (updates : List (LifecycleSettings × UpdateArguments)) :
    Prop where
  below : note < noteCount
  steady : Steady timing (calls ++ updateCalls updates)
  sounding : ((Lifecycle.init.run math calls).voices note).active = true
  kept : ∀ earlier update, earlier ++ [update] <+: updates →
    ¬ (Lifecycle.init.run math (calls ++ updateCalls earlier)).Steals math note update


variable {math : EelMath} {timing : ReleaseSettings} {lifecycle : Lifecycle}
  {calls : List LifecycleCall} {note : ℕ}

/-- A call queues the note-off of a note when it ends its voice. -/
theorem Upholds.silences_iff {limit : ℕ} {before after : Lifecycle}
    (upholds : Upholds limit before after) (below : note < noteCount) :
    after.Silences note ↔
      (before.voices note).active = true ∧ (after.voices note).active = false := by
  have once : ((after.list.events.map LifecycleEvent.mark).map Mark.item).Nodup := by
    rw [List.map_map]
    exact (List.map_congr_left fun event _ => mark_item event).symm ▸ upholds.once
  have reaches : note ∈ activeNotes after.voices ↔ _ :=
    upholds.reaches ▸ mem_switchAll_of_nodup once
  constructor
  · rintro ⟨event, listed, off, rfl⟩
    have closed : Mark.closed event.note ∈ after.list.events.map LifecycleEvent.mark :=
      List.mem_map.mpr ⟨event, listed, by rw [LifecycleEvent.mark, off]⟩
    have held := upholds.switches.mem_of_closed once closed
    refine ⟨(mem_activeNotes.mp held).2, Bool.eq_false_iff.mpr fun active => ?_⟩
    rcases reaches.mp (mem_activeNotes.mpr ⟨below, active⟩) with opened | ⟨-, unmentioned⟩
    · cases List.inj_on_of_nodup_map once opened closed rfl
    · exact unmentioned _ closed rfl
  · rintro ⟨active, inactive⟩
    have silent : note ∉ activeNotes after.voices := fun member =>
      absurd (mem_activeNotes.mp member).2 (by rw [inactive]; decide)
    rw [reaches, not_or, not_and] at silent
    have mentioned := silent.2 (mem_activeNotes.mpr ⟨below, active⟩)
    push Not at mentioned
    obtain ⟨mark, listed, named⟩ := mentioned
    obtain ⟨event, member, rfl⟩ := List.mem_map.mp listed
    rw [mark_item] at named
    refine ⟨event, member, ?_, named⟩
    cases type : event.type with
    | off => rfl
    | on =>
        refine absurd (List.mem_map.mpr ⟨event, member, ?_⟩) silent.1
        rw [LifecycleEvent.mark, type, named]

/-- The latest of the times at which updates were made. -/
def latestTime (calls : List LifecycleCall) : ℤ := (updateTimes calls).getLast?.getD 0

/-- The time of a run is that of its last update. -/
theorem latestTime_update (settings : LifecycleSettings) (arguments : UpdateArguments) :
    latestTime (calls ++ [.update settings arguments]) = arguments.now := by
  unfold latestTime updateTimes
  rw [List.filterMap_append, List.filterMap_cons, List.filterMap_nil, List.getLast?_concat]
  rfl

/-- A release of all voices takes no time. -/
theorem latestTime_releaseAll (blockOffset : ℚ) :
    latestTime (calls ++ [.releaseAll blockOffset]) = latestTime calls := by
  unfold latestTime updateTimes
  rw [List.filterMap_append, List.filterMap_cons, List.filterMap_nil, List.append_nil]

/-- An update adds its time to a note's if it brings evidence for the note. -/
theorem evidenceTimes_update (settings : LifecycleSettings) (arguments : UpdateArguments) :
    (evidenceTimes note (calls ++ [.update settings arguments])).getLast? =
      VoiceCell.Timely.latest arguments.releaseSettings
        ((UpdateFrame.enter settings arguments).evidence note) arguments.now
        (evidenceTimes note calls).getLast? := by
  unfold evidenceTimes VoiceCell.Timely.latest
  rw [List.filterMap_append, List.filterMap_cons, List.filterMap_nil, sustains_evidence]
  by_cases heard : arguments.hears note = true
  · simp only [heard, ↓reduceIte]
    exact List.getLast?_concat
  · simp only [heard, Bool.false_eq_true, ↓reduceIte, List.append_nil]

/-- A release of all voices brings no evidence. -/
theorem evidenceTimes_releaseAll (blockOffset : ℚ) :
    evidenceTimes note (calls ++ [.releaseAll blockOffset]) = evidenceTimes note calls := by
  unfold evidenceTimes
  rw [List.filterMap_append, List.filterMap_cons, List.filterMap_nil, List.append_nil]

/-- The beginning of a steady run is steady. -/
theorem Steady.of_append {later : List LifecycleCall} (steady : Steady timing (calls ++ later)) :
    Steady timing calls := by
  refine ⟨fun settings arguments member =>
    steady.constant settings arguments (List.mem_append_left _ member), ?_⟩
  have ordered := steady.ordered
  unfold updateSamples at ordered ⊢
  rw [List.filterMap_append] at ordered
  exact (List.pairwise_append.mp ordered).1

/-- The next update of a steady run is no earlier than the latest one. -/
theorem Steady.latestTime_le {settings : LifecycleSettings} {arguments : UpdateArguments}
    (steady : Steady timing (calls ++ [.update settings arguments])) :
    latestTime calls ≤ arguments.now := by
  unfold latestTime
  cases found : (updateTimes calls).getLast? with
  | none => exact le_max_left _ _
  | some time =>
      obtain ⟨call, member, timed⟩ := List.mem_filterMap.mp (List.mem_of_getLast? found)
      cases call with
      | releaseAll blockOffset => cases timed
      | update earlierSettings earlier =>
          obtain rfl := Option.some.inj timed
          have ordered := steady.ordered
          unfold updateSamples at ordered
          rw [List.filterMap_append] at ordered
          have le := (List.pairwise_append.mp ordered).2.2 earlier.absoluteSample
            (List.mem_filterMap.mpr ⟨_, member, rfl⟩) arguments.absoluteSample
            (List.mem_singleton_self _)
          exact max_le_max le_rfl (Rat.le_floor_iff.mpr ((Rat.floor_le _).trans le))

/-- What is known between the calls of a run: every cell has its last evidence. -/
structure Knows (timing : ReleaseSettings) (calls : List LifecycleCall) (lifecycle : Lifecycle) :
    Prop where
  consistent : ∀ note, (lifecycle.voices note).Consistent
  few : (activeNotes lifecycle.voices).card ≤ maxVoices
  timely : ∀ note < noteCount, (lifecycle.voices note).Timely timing
    (evidenceTimes note calls).getLast? (latestTime calls)

/-- At the start there is nothing to be known. -/
theorem Knows.init : Knows timing [] .init := by
  refine ⟨fun _ => VoiceCell.consistent_clear 0, ?_, fun _ _ => .of_off rfl⟩
  rw [activeNotes_init, Finset.card_empty]
  exact Nat.zero_le _

/-- The third loop keeps what a cell knows. -/
theorem VoiceCell.Timely.admitted {frame : UpdateFrame} {last : Option ℤ} {now : ℤ}
    {cell final : VoiceCell} (governs : timing.Governs frame)
    (timely : cell.Timely timing last now) (admitted : Admitted frame cell final) :
    final.Timely timing last now := by
  cases admitted with
  | same => exact timely
  | started ready velocity =>
      have attack := Lifecycle.Admission.state_of_ready ready
      refine of_on rfl ?_
      rcases timely.attack attack with known | ⟨-, weak⟩
      · exact known
      · unfold Lifecycle.attackReady at ready
        simp only [Bool.and_eq_true, decide_eq_true_eq] at ready
        rw [governs.onLevel] at ready
        exact absurd ready.1.1.2 (not_le.mpr weak)
  | taken => exact of_off rfl

/-- A voice that heeded its deadline in the first loop ends with the update past the deadline,
and only then, unless it is taken away. -/
theorem VoiceCell.Heeds.admitted {frame : UpdateFrame} {last : Option ℤ} {now : ℤ}
    {cell final : VoiceCell} (heeds : cell.Heeds timing last now)
    (admitted : Admitted frame cell final)
    (kept : ¬ (cell.active = true ∧ final.active = false)) :
    ∃ time ∈ last, (final.active = false ↔ timing.Past time now) := by
  obtain ⟨time, found, ⟨past, rfl⟩ | ⟨early, active⟩⟩ := heeds
  · refine ⟨time, found, iff_of_true ?_ past⟩
    cases admitted with
    | same => rfl
    | started ready => exact absurd (Lifecycle.Admission.state_of_ready ready) (by decide)
    | taken => rfl
  · exact ⟨time, found, iff_of_false (fun inactive => kept ⟨active, inactive⟩) early⟩

/-- The end of an update leaves the cells. -/
theorem Lifecycle.update_voices (settings : LifecycleSettings) (arguments : UpdateArguments) :
    (lifecycle.update math settings arguments).voices =
      ((lifecycle.observeAll math (UpdateFrame.enter settings arguments)).admitAll math
        (UpdateFrame.enter settings arguments)).lifecycle.voices := by
  unfold Lifecycle.update Lifecycle.Admission.finish
  rfl

/-- An update of a steady run keeps what is known, and ends a sounding voice past its deadline,
and only then, unless it is taken away. -/
theorem Knows.update (knows : Knows timing calls lifecycle) {settings : LifecycleSettings}
    {arguments : UpdateArguments}
    (steady : Steady timing (calls ++ [.update settings arguments])) :
    Knows timing (calls ++ [.update settings arguments])
        (lifecycle.update math settings arguments) ∧
      Upholds maxVoices lifecycle (lifecycle.update math settings arguments) ∧
      ∀ note < noteCount, (lifecycle.voices note).active = true →
        ¬ lifecycle.Steals math note (settings, arguments) →
        ∃ time ∈ (evidenceTimes note (calls ++ [.update settings arguments])).getLast?,
          (((lifecycle.update math settings arguments).voices note).active = false ↔
            timing.Past time arguments.now) := by
  obtain rfl := steady.constant settings arguments
    (List.mem_append_right _ (List.mem_singleton_self _))
  have governs := governs_enter settings arguments
  have upholds := @update_keeps math _ _ knows.consistent settings arguments
    (activeLimit_le settings).2.1 le_rfl knows.few
  have observed := fun note (below : note < noteCount) =>
    @observeAll_timely math _ _ note _ _ _ knows.consistent knows.few (le_max_left _ _) below
      governs (knows.timely note below) steady.latestTime_le
  have admitted : ∀ note, Admitted (UpdateFrame.enter settings arguments)
      ((lifecycle.observeAll math (UpdateFrame.enter settings arguments)).voices note)
      ((lifecycle.update math settings arguments).voices note) := by
    intro note
    rw [Lifecycle.update_voices]
    exact admitAll_voices note
  refine ⟨⟨upholds.consistent, upholds.limited, fun note below => ?_⟩, upholds,
    fun note below active kept => ?_⟩
  · rw [latestTime_update, evidenceTimes_update]
    exact (observed note below).1.admitted governs (admitted note)
  · rw [evidenceTimes_update]
    unfold Lifecycle.Steals at kept
    dsimp only at kept
    exact ((observed note below).2 active).admitted (admitted note) kept

/-- Releasing all voices keeps what is known. -/
theorem Knows.releaseAll (knows : Knows timing calls lifecycle) (blockOffset : ℚ) :
    Knows timing (calls ++ [.releaseAll blockOffset]) (lifecycle.releaseAll blockOffset) := by
  have upholds := releaseAll_upholds knows.consistent knows.few blockOffset
  refine ⟨upholds.consistent, upholds.limited.trans (Nat.zero_le _), fun note below => ?_⟩
  rw [latestTime_releaseAll, evidenceTimes_releaseAll]
  have cells : ((lifecycle.releaseAll blockOffset).voices note) = lifecycle.voices note ∨
      (lifecycle.releaseAll blockOffset).voices note = {} := by
    unfold Lifecycle.releaseAll
    dsimp only
    refine @countedLoop_invariant _ (Lifecycle.releaseNote (max 0 (floor blockOffset)))
      (fun _ (state : Lifecycle) =>
        state.voices note = lifecycle.voices note ∨ state.voices note = {}) _ _ (.inl rfl) ?_
    intro index _ state kept
    unfold Lifecycle.releaseNote Lifecycle.releaseVoice
    dsimp only
    rcases eq_or_ne note index with rfl | apart
    · split_ifs
      · exact .inr (Lifecycle.setVoice_self ..)
      · exact kept
      · exact .inr (Lifecycle.setVoice_self ..)
    · split_ifs
      · rwa [Lifecycle.setVoice_of_ne _ apart]
      · exact kept
      · rwa [Lifecycle.setVoice_of_ne _ apart]
  rcases cells with same | cleared
  · rw [same]
    exact knows.timely note below
  · rw [cleared]
    exact .of_off rfl

/-- What is known holds throughout a steady run. -/
theorem Knows.run (steady : Steady timing calls) :
    Knows timing calls (Lifecycle.init.run math calls) := by
  induction calls using List.reverseRecOn with
  | nil => exact .init
  | append_singleton calls call ih =>
      have knows := ih steady.of_append
      unfold Lifecycle.run at knows ⊢
      rw [List.foldl_concat]
      cases call with
      | update settings arguments => exact (knows.update steady).1
      | releaseAll blockOffset => exact knows.releaseAll blockOffset

namespace HeldVoice

variable {updates earlier : List (LifecycleSettings × UpdateArguments)}
  {update : LifecycleSettings × UpdateArguments}

/-- One more update is one more call. -/
theorem updateCalls_concat :
    calls ++ updateCalls (earlier ++ [update]) =
      (calls ++ updateCalls earlier) ++ [.update update.1 update.2] := by
  rw [updateCalls, List.map_append, List.append_assoc]
  rfl

/-- A run with one more call goes on from the run before. -/
theorem run_concat (call : LifecycleCall) :
    Lifecycle.init.run math (calls ++ [call]) =
      call.apply math (Lifecycle.init.run math calls) :=
  List.foldl_concat ..

/-- A voice that is held over some updates is held over the first of them. -/
theorem of_prefix (held : HeldVoice math timing note calls updates) (part : earlier <+: updates) :
    HeldVoice math timing note calls earlier := by
  obtain ⟨rest, rfl⟩ := part
  have steady := held.steady
  rw [updateCalls, List.map_append, ← List.append_assoc] at steady
  exact ⟨held.below, steady.of_append, held.sounding, fun before update within =>
    held.kept before update (within.trans (List.prefix_append _ _))⟩

/-- As long as a held voice sounds, an update ends it past the deadline, and only then. -/
theorem silences_iff (held : HeldVoice math timing note calls (earlier ++ [update]))
    (sounding : ((Lifecycle.init.run math (calls ++ updateCalls earlier)).voices note).active =
      true) :
    ((Lifecycle.init.run math (calls ++ updateCalls (earlier ++ [update]))).Silences note ↔
        timing.Due note (calls ++ updateCalls (earlier ++ [update]))) ∧
      (¬ (Lifecycle.init.run math (calls ++ updateCalls (earlier ++ [update]))).Silences note →
        ((Lifecycle.init.run math (calls ++ updateCalls (earlier ++ [update]))).voices
          note).active = true) := by
  have steady := held.steady
  have kept := held.kept earlier update List.prefix_rfl
  rw [updateCalls_concat] at steady ⊢
  have knows := @Knows.run math _ _ (steady.of_append)
  obtain ⟨-, upholds, ends⟩ := @Knows.update math _ _ _ knows _ _ steady
  obtain ⟨last, found, past⟩ := ends note held.below sounding kept
  have silences := upholds.silences_iff held.below
  rw [and_iff_right sounding] at silences
  rw [run_concat]
  refine ⟨silences.trans (past.trans ?_), fun sounds => ?_⟩
  · have now : (updateTimes (calls ++ updateCalls earlier ++
        [.update update.1 update.2])).getLast? = some update.2.now := by
      unfold updateTimes
      rw [List.filterMap_append]
      exact List.getLast?_concat
    refine ⟨fun late => ⟨last, found, _, now, late⟩, ?_⟩
    rintro ⟨other, foundOther, time, foundTime, late⟩
    obtain rfl := Option.mem_unique found foundOther
    obtain rfl := Option.some.inj (now.symm.trans foundTime)
    exact late
  · exact Bool.not_eq_false _ ▸ fun inactive => sounds (silences.mpr inactive)

/-- As long as no note-off was queued, a held voice sounds. -/
theorem sounds (held : HeldVoice math timing note calls updates)
    (unsilenced : ∀ part, part ≠ [] → part <+: updates →
      ¬ (Lifecycle.init.run math (calls ++ updateCalls part)).Silences note) :
    ((Lifecycle.init.run math (calls ++ updateCalls updates)).voices note).active = true := by
  induction updates using List.reverseRecOn with
  | nil =>
      rw [updateCalls, List.map_nil, List.append_nil]
      exact held.sounding
  | append_singleton earlier update ih =>
      have within := List.prefix_append earlier [update]
      have sounding := ih (held.of_prefix within) fun part nonempty inside =>
        unsilenced part nonempty (inside.trans within)
      refine (held.silences_iff sounding).2 (unsilenced _ ?_ List.prefix_rfl)
      exact List.append_ne_nil_of_right_ne_nil earlier (List.cons_ne_nil update [])

/-- The first note-off of a held voice is queued in the first update past its deadline. -/
theorem firstAt_iff (held : HeldVoice math timing note calls updates) (some : updates ≠ []) :
    FirstAt (fun part => (Lifecycle.init.run math (calls ++ updateCalls part)).Silences note)
        updates ↔
      FirstAt (fun part => timing.Due note (calls ++ updateCalls part)) updates := by
  refine firstAt_congr (fun earlier update within unsilenced => ?_) some
  have part := held.of_prefix within
  have sounding := (part.of_prefix (List.prefix_append earlier [update])).sounds unsilenced
  exact (part.silences_iff sounding).1

/-- A held voice has had evidence. -/
theorem last_mem (held : HeldVoice math timing note calls updates) :
    ∃ last, last ∈ (evidenceTimes note (calls ++ updateCalls updates)).getLast? := by
  have knows := @Knows.run math _ _ held.steady.of_append
  have timely := knows.timely note held.below
  have heard : evidenceTimes note calls ≠ [] := by
    intro none
    rw [none] at timely
    rcases (knows.consistent note).mp held.sounding with on | release
    · exact Option.some_ne_none _ (timely.on on).symm
    · exact Option.some_ne_none _ (timely.release release).1.symm
  have more : evidenceTimes note (calls ++ updateCalls updates) ≠ [] := by
    unfold evidenceTimes at heard ⊢
    rw [List.filterMap_append]
    exact List.append_ne_nil_of_left_ne_nil heard _
  exact ⟨_, List.getLast?_eq_some_getLast more⟩

/-- The first note-off of a held voice, with the deadline that its last evidence sets. -/
theorem firstAt_iff_past (held : HeldVoice math timing note calls updates)
    (some : updates ≠ []) {last : ℤ}
    (found : last ∈ (evidenceTimes note (calls ++ updateCalls updates)).getLast?) :
    FirstAt (fun part => (Lifecycle.init.run math (calls ++ updateCalls part)).Silences note)
        updates ↔
      timing.Past last (latestTime (calls ++ updateCalls updates)) ∧
        ∀ part, part ≠ [] → part <+: updates → part ≠ updates →
          ¬ timing.Due note (calls ++ updateCalls part) := by
  rw [held.firstAt_iff some]
  refine and_congr_left fun _ => ?_
  obtain ⟨earlier, update, rfl⟩ := (List.eq_nil_or_concat' updates).resolve_left some
  have now : (updateTimes (calls ++ updateCalls (earlier ++ [update]))).getLast? =
      .some (latestTime (calls ++ updateCalls (earlier ++ [update]))) := by
    rw [updateCalls_concat, latestTime_update]
    unfold updateTimes
    rw [List.filterMap_append]
    exact List.getLast?_concat
  constructor
  · rintro ⟨other, foundOther, time, foundTime, late⟩
    obtain rfl := Option.mem_unique found foundOther
    obtain rfl := Option.some.inj (now.symm.trans foundTime)
    exact late
  · exact fun late => ⟨last, found, _, now, late⟩

end HeldVoice

/-- In every steady run the first note-off of a held voice is queued in the first update past
the deadline that its last evidence sets, and a voice that does not sound gets none. Two runs
with the same evidence for the voice, whatever other updates they make, have the same
deadline. -/
theorem run_release_timing (math : EelMath) (timing : ReleaseSettings) (note : ℕ) :
    (∀ calls updates, HeldVoice math timing note calls updates → updates ≠ [] →
      (FirstAt (fun part => (Lifecycle.init.run math (calls ++ updateCalls part)).Silences note)
          updates ↔
        FirstAt (fun part => timing.Due note (calls ++ updateCalls part)) updates)) ∧
    (∀ calls settings arguments, note < noteCount →
      Steady timing (calls ++ [.update settings arguments]) →
      ((Lifecycle.init.run math calls).voices note).active = false →
      ¬ (Lifecycle.init.run math (calls ++ [.update settings arguments])).Silences note) ∧
    ∀ calls updates otherCalls otherUpdates, HeldVoice math timing note calls updates →
      HeldVoice math timing note otherCalls otherUpdates → updates ≠ [] → otherUpdates ≠ [] →
      evidenceTimes note (otherCalls ++ updateCalls otherUpdates) =
        evidenceTimes note (calls ++ updateCalls updates) →
      ∃ last ∈ (evidenceTimes note (calls ++ updateCalls updates)).getLast?,
        (FirstAt (fun part => (Lifecycle.init.run math (calls ++ updateCalls part)).Silences note)
            updates ↔
          timing.Past last (latestTime (calls ++ updateCalls updates)) ∧
            ∀ part, part ≠ [] → part <+: updates → part ≠ updates →
              ¬ timing.Due note (calls ++ updateCalls part)) ∧
        (FirstAt (fun part =>
            (Lifecycle.init.run math (otherCalls ++ updateCalls part)).Silences note)
            otherUpdates ↔
          timing.Past last (latestTime (otherCalls ++ updateCalls otherUpdates)) ∧
            ∀ part, part ≠ [] → part <+: otherUpdates → part ≠ otherUpdates →
              ¬ timing.Due note (otherCalls ++ updateCalls part)) := by
  refine ⟨fun calls updates held some => held.firstAt_iff some, ?_, ?_⟩
  · intro calls settings arguments below steady inactive silences
    obtain ⟨-, upholds, -⟩ := @Knows.update math _ _ _ (Knows.run steady.of_append) _ _ steady
    rw [HeldVoice.run_concat] at silences
    have active := ((upholds.silences_iff below).mp silences).1
    exact absurd (inactive.symm.trans active) (by decide)
  · intro calls updates otherCalls otherUpdates held otherHeld some otherSome same
    obtain ⟨last, found⟩ := held.last_mem
    exact ⟨last, found, held.firstAt_iff_past some found,
      otherHeld.firstAt_iff_past otherSome (same ▸ found)⟩

/-- An update with a dropout time of four samples and a release time of three. -/
def timedUpdate (selection : List SelectionCell) (absoluteSample : ℚ) :
    LifecycleSettings × UpdateArguments :=
  ({ maxActiveVoices := 2 },
    { selection, absoluteSample, dropoutSamples := 4, releaseSamples := 3
      onThreshold := 1 / 2, offThreshold := 1 / 4 })

/-- A voice starts in one update, and nothing is heard in the others. -/
def loneVoice : List LifecycleCall := updateCalls [timedUpdate [⟨some 60, some 1, some 1⟩] 0]

/-- Whether an update takes a voice away can be computed. -/
instance (lifecycle : Lifecycle) (update : LifecycleSettings × UpdateArguments) :
    Decidable (lifecycle.Steals math note update) :=
  inferInstanceAs (Decidable (_ ∧ _))

set_option maxRecDepth 4096 in
/-- A voice that is held over two updates. -/
theorem loneVoice_held_twice :
    HeldVoice plainMath (timedUpdate [] 0).2.releaseSettings 60 loneVoice
      [timedUpdate [] 5, timedUpdate [] 7] where
  below := by decide
  steady := by
    refine ⟨fun settings arguments member => ?_, by decide +kernel⟩
    simp only [loneVoice, updateCalls, List.map_cons, List.map_nil, List.cons_append,
      List.nil_append, List.mem_cons, List.not_mem_nil, or_false,
      LifecycleCall.update.injEq] at member
    rcases member with ⟨-, rfl⟩ | ⟨-, rfl⟩ | ⟨-, rfl⟩ <;> rfl
  sounding := by decide +kernel
  kept := by
    intro earlier update within
    rcases earlier with _ | ⟨first, _ | ⟨second, rest⟩⟩
    · obtain ⟨rfl, -⟩ := List.cons_prefix_cons.mp within
      decide +kernel
    · obtain ⟨rfl, later⟩ := List.cons_prefix_cons.mp within
      obtain ⟨rfl, -⟩ := List.cons_prefix_cons.mp later
      decide +kernel
    · have short := within.length_le
      simp only [List.length_append, List.length_cons, List.length_nil] at short
      omega

/-- A voice that ends with the first update past its deadline. -/
theorem loneVoice_held_once :
    HeldVoice plainMath (timedUpdate [] 0).2.releaseSettings 60 loneVoice [timedUpdate [] 9] where
  below := by decide
  steady := by
    refine ⟨fun settings arguments member => ?_, by decide +kernel⟩
    simp only [loneVoice, updateCalls, List.map_cons, List.map_nil, List.cons_append,
      List.nil_append, List.mem_cons, List.not_mem_nil, or_false,
      LifecycleCall.update.injEq] at member
    rcases member with ⟨-, rfl⟩ | ⟨-, rfl⟩ <;> rfl
  sounding := by decide +kernel
  kept := by
    intro earlier update within
    rcases earlier with _ | ⟨first, rest⟩
    · obtain ⟨rfl, -⟩ := List.cons_prefix_cons.mp within
      decide +kernel
    · have short := within.length_le
      simp only [List.length_append, List.length_cons, List.length_nil] at short
      omega

/-- Two runs release a voice after the same last evidence: one at time 7, after another update
at time 5, and one at time 9. -/
theorem run_release_timing_lone :
    ¬ (Lifecycle.init.run plainMath ([] ++ [.update (timedUpdate [] 0).1
        (timedUpdate [] 0).2])).Silences 60 ∧
    ∃ last ∈ (evidenceTimes 60 (loneVoice ++
        updateCalls [timedUpdate [] 5, timedUpdate [] 7])).getLast?,
      (FirstAt (fun part =>
          (Lifecycle.init.run plainMath (loneVoice ++ updateCalls part)).Silences 60)
          [timedUpdate [] 5, timedUpdate [] 7] ↔
        (timedUpdate [] 0).2.releaseSettings.Past last (latestTime (loneVoice ++
            updateCalls [timedUpdate [] 5, timedUpdate [] 7])) ∧
          ∀ part, part ≠ [] → part <+: [timedUpdate [] 5, timedUpdate [] 7] →
            part ≠ [timedUpdate [] 5, timedUpdate [] 7] →
            ¬ (timedUpdate [] 0).2.releaseSettings.Due 60 (loneVoice ++ updateCalls part)) ∧
      (FirstAt (fun part =>
          (Lifecycle.init.run plainMath (loneVoice ++ updateCalls part)).Silences 60)
          [timedUpdate [] 9] ↔
        (timedUpdate [] 0).2.releaseSettings.Past last (latestTime (loneVoice ++
            updateCalls [timedUpdate [] 9])) ∧
          ∀ part, part ≠ [] → part <+: [timedUpdate [] 9] → part ≠ [timedUpdate [] 9] →
            ¬ (timedUpdate [] 0).2.releaseSettings.Due 60 (loneVoice ++ updateCalls part)) := by
  obtain ⟨-, inactive, same⟩ :=
    run_release_timing plainMath (timedUpdate [] 0).2.releaseSettings 60
  refine ⟨inactive [] _ _ (by decide) ⟨fun settings arguments member => ?_, by decide +kernel⟩
    (by decide +kernel), ?_⟩
  · cases List.mem_singleton.mp member
    rfl
  · exact same _ _ _ _ loneVoice_held_twice loneVoice_held_once (List.cons_ne_nil _ _)
      (List.cons_ne_nil _ _) (by decide +kernel)

end M3Midi.Jsfx
