import M3Midi.Jsfx.LifecyclePasses

/-! # Runs of the lifecycle

Every call of the lifecycle leaves no more voices active than the limit it was given, and
an event list that takes the voices active before to the ones active after
(`run_upholds`). The limit may fall only when all voices have been released since the
last update.
-/

namespace M3Midi.Jsfx

open Foundation

/-- A call of the lifecycle, with the variables the host has set. -/
inductive LifecycleCall
  | update (settings : LifecycleSettings) (arguments : UpdateArguments)
  | releaseAll (blockOffset : ℚ)

namespace LifecycleCall

/-- The lifecycle after a call. -/
def apply (math : EelMath) (lifecycle : Lifecycle) : LifecycleCall → Lifecycle
  | .update settings arguments => lifecycle.update math settings arguments
  | .releaseAll blockOffset => lifecycle.releaseAll blockOffset

/-- The voices that may be active after a call. -/
def limit : LifecycleCall → ℕ
  | .update settings _ => settings.activeLimit
  | .releaseAll _ => 0

end LifecycleCall

/-- The lifecycle after a list of calls. -/
def Lifecycle.run (math : EelMath) (lifecycle : Lifecycle) (calls : List LifecycleCall) :
    Lifecycle :=
  calls.foldl (LifecycleCall.apply math) lifecycle

/-- The variable `m3_lifecycle_max_active_voices` is lowered only after all voices were
released; an earlier update may have left its limit. -/
def LowersAfterRelease : Option ℚ → List LifecycleCall → Prop
  | _, [] => True
  | earlier, .update settings _ :: calls =>
      (∀ limit ∈ earlier, limit ≤ settings.maxActiveVoices) ∧
        LowersAfterRelease (some settings.maxActiveVoices) calls
  | _, .releaseAll _ :: calls => LowersAfterRelease none calls

/-- The switch that an event stands for. -/
def LifecycleEvent.mark (event : LifecycleEvent) : Mark ℕ :=
  match event.type with
  | .off => .closed event.note
  | .on => .opened event.note

@[simp] theorem mark_item (event : LifecycleEvent) : event.mark.item = event.note := by
  unfold LifecycleEvent.mark
  cases event.type <;> rfl

/-- It closes the note if it is a note-off. -/
theorem mark_opens {event : LifecycleEvent} : event.mark.opens = false ↔ event.type = .off := by
  unfold LifecycleEvent.mark
  cases event.type <;> simp

/-- What a call upholds between the lifecycle before it and after it. -/
structure Upholds (limit : ℕ) (before after : Lifecycle) : Prop where
  /-- A voice is active in the states on and release, and only there. -/
  consistent : ∀ note, (after.voices note).active = true ↔
    (after.voices note).state = .on ∨ (after.voices note).state = .release
  /-- No more voices are active than the limit allows. -/
  limited : (activeNotes after.voices).card ≤ limit
  /-- The list has not overflowed. -/
  few : after.list.events.length ≤ maxEvents
  calm : after.list.overflow = false
  /-- Every event that was accepted is still in the list. -/
  kept : after.list.sequence = before.list.sequence + after.list.events.length
  /-- The list ends voices that were active and starts voices that were not, -/
  switches : Switches (activeNotes before.voices) (after.list.events.map LifecycleEvent.mark)
  /-- and takes the active voices to the ones active now, -/
  reaches : switchAll (activeNotes before.voices) (after.list.events.map LifecycleEvent.mark) =
    activeNotes after.voices
  /-- with one event at most for a note, and the note-offs first. -/
  once : (after.list.events.map LifecycleEvent.note).Nodup
  inside : ∀ event ∈ after.list.events, event.note < noteCount
  offsFirst : after.list.events.Pairwise fun earlier later =>
    earlier.type = .on → later.type = .on

variable {math : EelMath} {lifecycle : Lifecycle}

/-- A call that tracked its events ends by sorting them. Sorting keeps the events, and each note is
mentioned once, so that they switch the voices in any order. -/
theorem Tracks.upholds {before after : Lifecycle} {limit : ℕ} {offset : ℤ}
    (tracks : Tracks (activeNotes before.voices) before.list.sequence offset after)
    (few : (activeNotes before.voices).card ≤ maxVoices)
    (limited : (activeNotes after.voices).card ≤ limit) (bounded : limit ≤ maxVoices)
    {final : Lifecycle} (voices : final.voices = after.voices)
    (list : final.list = after.list.sortEvents) : Upholds limit before final := by
  have sorted := after.list.sortEvents_perm
  have counted := tracks.length_add
  have once : (after.list.sortEvents.events.map LifecycleEvent.note).Nodup :=
    (sorted.map LifecycleEvent.note).nodup_iff.mpr tracks.once
  have items : (after.list.sortEvents.events.map LifecycleEvent.mark).map Mark.item =
      after.list.sortEvents.events.map LifecycleEvent.note := by
    rw [List.map_map]
    exact List.map_congr_left fun event _ => mark_item event
  cases final
  dsimp only at voices list
  subst voices list
  constructor
  · exact tracks.consistent
  · exact limited
  · rw [sorted.length_eq]
    simp only [maxVoices, maxEvents] at few bounded ⊢
    omega
  · exact tracks.calm
  · rw [sorted.length_eq]
    exact tracks.numbered
  · refine switches_of_nodup (items ▸ once) fun mark member => ?_
    obtain ⟨event, listed, rfl⟩ := List.mem_map.mp member
    rw [mark_item, mark_opens]
    cases type : event.type with
    | off => exact iff_of_true (tracks.offs event (sorted.mem_iff.mp listed) type).1 rfl
    | on =>
        exact iff_of_false (tracks.ons event (sorted.mem_iff.mp listed) type).1 (by decide)
  · ext note
    rw [mem_switchAll_of_nodup (items ▸ once), @mem_activeNotes after.voices]
    constructor
    · rintro (opened | ⟨started, unmentioned⟩)
      · obtain ⟨event, listed, mark⟩ := List.mem_map.mp opened
        unfold LifecycleEvent.mark at mark
        cases type : event.type with
        | off => rw [type] at mark; cases mark
        | on =>
            rw [type] at mark
            cases mark
            have listed := sorted.mem_iff.mp listed
            exact ⟨(tracks.placed event listed).1, (tracks.ons event listed type).2⟩
      · have below := (mem_activeNotes.mp started).1
        refine ⟨below, (tracks.others note below fun event listed => ?_).mpr started⟩
        have apart := unmentioned event.mark (List.mem_map_of_mem (sorted.mem_iff.mpr listed))
        rwa [mark_item] at apart
    · rintro ⟨below, active⟩
      by_cases mentioned : ∀ event ∈ after.list.events, event.note ≠ note
      · refine .inr ⟨(tracks.others note below mentioned).mp active, fun mark member => ?_⟩
        obtain ⟨event, listed, rfl⟩ := List.mem_map.mp member
        rw [mark_item]
        exact mentioned event (sorted.mem_iff.mp listed)
      · push Not at mentioned
        obtain ⟨event, listed, rfl⟩ := mentioned
        refine .inl (List.mem_map.mpr ⟨event, sorted.mem_iff.mpr listed, ?_⟩)
        unfold LifecycleEvent.mark
        cases type : event.type with
        | off =>
            have cleared := (tracks.offs event listed type).2
            have inactive := (tracks.consistent event.note).inactive (.inl cleared)
            exact absurd active (by rw [inactive]; decide)
        | on => rfl
  · exact once
  · exact fun event listed => (tracks.placed event (sorted.mem_iff.mp listed)).1
  · exact EventList.sortEvents_offs_first fun event member => (tracks.placed event member).2

/-- The limit lies between one and eight, and not above the variable. -/
theorem activeLimit_le (settings : LifecycleSettings) :
    1 ≤ settings.activeLimit ∧ settings.activeLimit ≤ maxVoices ∧
      (settings.activeLimit : ℚ) ≤ max 1 settings.maxActiveVoices := by
  unfold LifecycleSettings.activeLimit floor clamp maxVoices
  have below := Rat.floor_le (min ((8 : ℕ) : ℚ) (max 1 settings.maxActiveVoices))
  have least : 1 ≤ (min ((8 : ℕ) : ℚ) (max 1 settings.maxActiveVoices)).floor :=
    Rat.le_floor_iff.mpr (le_min (by norm_num) (le_max_left _ _))
  generalize (min ((8 : ℕ) : ℚ) (max 1 settings.maxActiveVoices)).floor = limit at below least ⊢
  obtain ⟨count, rfl⟩ := Int.eq_ofNat_of_zero_le (by omega : 0 ≤ limit)
  rw [Int.toNat_natCast]
  have capped := le_min_iff.mp below
  rw [Int.cast_natCast] at capped
  exact ⟨by omega, by exact_mod_cast capped.1, capped.2⟩

/-- More voices that are allowed are no lower limit. -/
theorem activeLimit_mono {earlier later : LifecycleSettings}
    (le : earlier.maxActiveVoices ≤ later.maxActiveVoices) :
    earlier.activeLimit ≤ later.activeLimit := by
  unfold LifecycleSettings.activeLimit floor clamp
  refine Int.toNat_le_toNat (Rat.le_floor_iff.mpr ((Rat.floor_le _).trans ?_))
  exact min_le_min le_rfl (max_le_max le_rfl le)

/-- An update keeps every bound from its own limit up to eight. -/
theorem update_keeps {limit : ℕ} (consistent : ∀ note, (lifecycle.voices note).Consistent)
    (settings : LifecycleSettings) (arguments : UpdateArguments)
    (allowed : settings.activeLimit ≤ limit) (limited : limit ≤ maxVoices)
    (fits : (activeNotes lifecycle.voices).card ≤ limit) :
    Upholds limit lifecycle (lifecycle.update math settings arguments) := by
  have few := fits.trans limited
  have nonneg : 0 ≤ (UpdateFrame.enter settings arguments).outputOffset := le_max_left _ _
  have allowed : (UpdateFrame.enter settings arguments).activeLimit ≤ limit := allowed
  unfold Lifecycle.update
  dsimp only
  generalize UpdateFrame.enter settings arguments = frame at nonneg allowed
  have releases : Releases (activeNotes lifecycle.voices) lifecycle.list.sequence
      frame.outputOffset noteCount (lifecycle.observeAll math frame) :=
    countedLoop_invariant (Releases.enter consistent) fun note below _ releases =>
      releases.observeNote nonneg few below
  generalize lifecycle.observeAll math frame = observed at releases
  have started : Admits (activeNotes lifecycle.voices) lifecycle.list.sequence
      { frame with activeLimit := limit } 0
      { Lifecycle.takeSnapshot frame observed with
        lifecycle := Lifecycle.capAdmission frame (Lifecycle.takeSnapshot frame observed).activeCount
          (Lifecycle.takeSnapshot frame observed).lifecycle } := by
    have same : (Lifecycle.capAdmission frame (Lifecycle.takeSnapshot frame observed).activeCount
        (Lifecycle.takeSnapshot frame observed).lifecycle).voices = observed.voices ∧
        (Lifecycle.capAdmission frame (Lifecycle.takeSnapshot frame observed).activeCount
          (Lifecycle.takeSnapshot frame observed).lifecycle).list = observed.list := by
      unfold Lifecycle.capAdmission
      split_ifs <;> exact ⟨rfl, rfl⟩
    refine ⟨releases.tracks.congr same.1 same.2, ?_, ?_, ?_, ?_⟩ <;> dsimp only
    · rw [same.1]
      exact countActive_eq observed.voices
    · rw [same.1]
      exact (Finset.card_le_card releases.active_subset).trans fits
    · rw [same.1]
      exact isHighest_highestActive observed.voices
    · rw [same.2]
      intro event member on
      exact absurd (on.symm.trans (releases.passed event member).2) (by decide)
  have admitted : Admits (activeNotes lifecycle.voices) lifecycle.list.sequence
      { frame with activeLimit := limit } noteCount (observed.admitAll math frame) :=
    countedLoop_invariant started fun note below _ admits =>
      admits.admitNote allowed nonneg few limited below _
  exact admitted.tracks.upholds few admitted.fits limited rfl rfl

/-- An update upholds what a call upholds. -/
theorem update_upholds (consistent : ∀ note, (lifecycle.voices note).Consistent)
    (settings : LifecycleSettings) (arguments : UpdateArguments)
    (fits : (activeNotes lifecycle.voices).card ≤ settings.activeLimit) :
    Upholds settings.activeLimit lifecycle (lifecycle.update math settings arguments) :=
  update_keeps consistent settings arguments le_rfl (activeLimit_le settings).2.1 fits

/-- Releasing all voices upholds what a call upholds, and leaves none active. -/
theorem releaseAll_upholds (consistent : ∀ note, (lifecycle.voices note).Consistent)
    (few : (activeNotes lifecycle.voices).card ≤ maxVoices) (blockOffset : ℚ) :
    Upholds 0 lifecycle (lifecycle.releaseAll blockOffset) := by
  have nonneg : 0 ≤ max 0 (floor blockOffset) := le_max_left _ _
  unfold Lifecycle.releaseAll
  dsimp only
  generalize max 0 (floor blockOffset) = offset at nonneg
  have released : Releases (activeNotes lifecycle.voices) lifecycle.list.sequence offset noteCount
      (countedLoop (Lifecycle.releaseNote offset) noteCount
        { lifecycle with list := lifecycle.list.reset, cappedAdmissionNote := -1 }) ∧
      ∀ note < noteCount, ((countedLoop (Lifecycle.releaseNote offset) noteCount
        { lifecycle with list := lifecycle.list.reset, cappedAdmissionNote := -1 }).voices
          note).active = false := by
    refine @countedLoop_invariant _ _ (fun index state =>
      Releases (activeNotes lifecycle.voices) lifecycle.list.sequence offset index state ∧
        ∀ note < index, (state.voices note).active = false) _ _ ⟨?_, fun _ below => ?_⟩ ?_
    · exact ⟨(Tracks.enter consistent).congr rfl rfl, fun _ member => absurd member List.not_mem_nil⟩
    · exact absurd below (Nat.not_lt_zero _)
    · rintro index below state ⟨releases, silent⟩
      refine ⟨releases.releaseNote nonneg few below, fun note passed => ?_⟩
      rw [releases.releaseNote_voices few below]
      split_ifs with same
      · rfl
      · exact silent note (by omega)
  generalize countedLoop (Lifecycle.releaseNote offset) noteCount
    { lifecycle with list := lifecycle.list.reset, cappedAdmissionNote := -1 } = final at released
  obtain ⟨releases, silent⟩ := released
  have none : activeNotes final.voices = ∅ := by
    refine Finset.eq_empty_of_forall_notMem fun note member => ?_
    obtain ⟨below, active⟩ := mem_activeNotes.mp member
    exact absurd active (by rw [silent note below]; decide)
  exact releases.tracks.upholds few (by rw [none, Finset.card_empty]) (Nat.zero_le _) rfl rfl

/-- Between calls: the voices are consistent, and no more are active than an update may have
left since the last release. -/
structure Settled (earlier : Option ℚ) (lifecycle : Lifecycle) : Prop where
  consistent : ∀ note, (lifecycle.voices note).Consistent
  few : (activeNotes lifecycle.voices).card ≤ maxVoices
  fits : ∀ settings : LifecycleSettings, (∀ limit ∈ earlier, limit ≤ settings.maxActiveVoices) →
    (activeNotes lifecycle.voices).card ≤ settings.activeLimit

/-- At the start no note is active. -/
theorem activeNotes_init : activeNotes Lifecycle.init.voices = ∅ := by
  refine Finset.eq_empty_of_forall_notMem fun note member => ?_
  exact absurd (mem_activeNotes.mp member).2 Bool.false_ne_true

/-- At the start everything is settled. -/
theorem Settled.init : Settled none .init := by
  refine ⟨fun _ => VoiceCell.consistent_clear 0, ?_, fun settings _ => ?_⟩ <;>
    rw [activeNotes_init, Finset.card_empty] <;> exact Nat.zero_le _

/-- What the calls still allow after a call. -/
def LifecycleCall.leaves : LifecycleCall → Option ℚ
  | .update settings _ => some settings.maxActiveVoices
  | .releaseAll _ => none

/-- A call of a settled lifecycle upholds what a call upholds, and settles it again. -/
theorem Settled.apply {earlier : Option ℚ} (settled : Settled earlier lifecycle)
    {call : LifecycleCall} {calls : List LifecycleCall}
    (lowers : LowersAfterRelease earlier (call :: calls)) :
    Upholds call.limit lifecycle (call.apply math lifecycle) ∧
      Settled call.leaves (call.apply math lifecycle) ∧ LowersAfterRelease call.leaves calls := by
  cases call with
  | update settings arguments =>
      have upholds := @update_upholds math _ settled.consistent settings arguments
        (settled.fits settings lowers.1)
      refine ⟨upholds, ⟨upholds.consistent, ?_, fun later limits => ?_⟩, lowers.2⟩
      · exact upholds.limited.trans (activeLimit_le settings).2.1
      · exact upholds.limited.trans (activeLimit_mono (limits _ rfl))
  | releaseAll blockOffset =>
      have upholds := releaseAll_upholds settled.consistent settled.few blockOffset
      refine ⟨upholds, ⟨upholds.consistent, ?_, fun later _ => ?_⟩, lowers⟩
      · exact upholds.limited.trans (Nat.zero_le _)
      · exact upholds.limited.trans (Nat.zero_le _)

/-- A run of calls leaves the lifecycle settled. -/
theorem Settled.run {earlier : Option ℚ} (settled : Settled earlier lifecycle)
    {calls later : List LifecycleCall} (lowers : LowersAfterRelease earlier (calls ++ later)) :
    ∃ left, Settled left (lifecycle.run math calls) ∧ LowersAfterRelease left later := by
  induction calls generalizing earlier lifecycle with
  | nil => exact ⟨earlier, settled, lowers⟩
  | cons call calls ih =>
      obtain ⟨-, settled, lowers⟩ := @Settled.apply math _ _ settled _ _ lowers
      exact ih settled lowers

/-- Every call in every run upholds what a call upholds. The limit of an update is its
variable, taken between one and eight. -/
theorem run_upholds (math : EelMath) (calls : List LifecycleCall) (call : LifecycleCall)
    (lowers : LowersAfterRelease none (calls ++ [call])) :
    Upholds call.limit (Lifecycle.init.run math calls)
        (call.apply math (Lifecycle.init.run math calls)) ∧
      call.limit ≤ maxVoices ∧
      ∀ settings arguments, call = .update settings arguments →
        (call.limit : ℚ) ≤ max 1 settings.maxActiveVoices := by
  obtain ⟨left, settled, lowers⟩ := @Settled.run math _ _ Settled.init _ _ lowers
  refine ⟨(settled.apply lowers).1, ?_, ?_⟩
  · cases call with
    | update settings arguments => exact (activeLimit_le settings).2.1
    | releaseAll blockOffset => exact Nat.zero_le _
  · rintro settings arguments rfl
    exact (activeLimit_le settings).2.2

/-- Functions for the runtime that are right at zero. -/
def plainMath : EelMath where
  exp := fun _ => 1
  sqrt := fun value => value
  pow := fun base exponent => if exponent = 0 then 1 else base

/-- One note is selected and may attack at once. -/
def soloAttack : UpdateArguments := { selection := [⟨some 60, some 1, some 1⟩] }

/-- The limit rises, and is lowered after a release. -/
theorem run_upholds_lowered :
    Upholds 1
      (Lifecycle.init.run plainMath [.update { maxActiveVoices := 2 } soloAttack,
        .update { maxActiveVoices := 3 } soloAttack, .releaseAll 0])
      ((LifecycleCall.update { maxActiveVoices := 1 } soloAttack).apply plainMath
        (Lifecycle.init.run plainMath [.update { maxActiveVoices := 2 } soloAttack,
          .update { maxActiveVoices := 3 } soloAttack, .releaseAll 0])) :=
  (run_upholds plainMath [.update { maxActiveVoices := 2 } soloAttack,
      .update { maxActiveVoices := 3 } soloAttack, .releaseAll 0]
    (.update { maxActiveVoices := 1 } soloAttack)
    ⟨fun _ found => absurd found (Option.not_mem_none _),
      fun _ found => Option.some.inj found ▸ by norm_num,
      fun _ found => absurd found (Option.not_mem_none _), trivial⟩).1

/-- With the variable at zero one voice still may be active. -/
theorem run_above_zero :
    LowersAfterRelease none [.update { maxActiveVoices := 0 } soloAttack] ∧
      ¬ ((activeNotes (Lifecycle.init.run plainMath
        [.update { maxActiveVoices := 0 } soloAttack]).voices).card : ℚ) ≤ 0 := by
  refine ⟨⟨fun _ found => absurd found (Option.not_mem_none _), trivial⟩, fun none => ?_⟩
  have active : ((Lifecycle.init.update plainMath { maxActiveVoices := 0 } soloAttack).voices
      60).active = true := by decide +kernel
  have member : 60 ∈ activeNotes (Lifecycle.init.run plainMath
      [.update { maxActiveVoices := 0 } soloAttack]).voices :=
    mem_activeNotes.mpr ⟨by decide, active⟩
  have some := Finset.card_pos.mpr ⟨60, member⟩
  have empty : (activeNotes (Lifecycle.init.run plainMath
      [.update { maxActiveVoices := 0 } soloAttack]).voices).card ≤ 0 := by
    exact_mod_cast none
  omega

end M3Midi.Jsfx
