import M3Midi.Jsfx.Lifecycle
import M3Midi.Foundation.SwitchLog
import Mathlib.Algebra.Order.Ring.Int
import Mathlib.Data.Finset.Card

/-! # What one call of the lifecycle does

While a call runs, its event list tells how the active voices differ from those
that were active when it began (`Tracks`). Every note is mentioned at most once,
so the list has no more events than there were voices before and are after, and
never fills up.
-/

namespace M3Midi.Jsfx

open Foundation

/-- A cell is active in the states on and release, and only there. -/
def VoiceCell.Consistent (cell : VoiceCell) : Prop :=
  cell.active = true ↔ cell.state = .on ∨ cell.state = .release

/-- The notes whose voices are active. -/
def activeNotes (voices : VoiceTable) : Finset ℕ :=
  (Finset.range noteCount).filter fun note => (voices note).active = true

/-- The active notes are those whose cell is active. -/
theorem mem_activeNotes {voices : VoiceTable} {note : ℕ} :
    note ∈ activeNotes voices ↔ note < noteCount ∧ (voices note).active = true := by
  rw [activeNotes, Finset.mem_filter, Finset.mem_range]

namespace VoiceCell

/-- A cell that has been cleared is consistent. -/
theorem consistent_clear (firstEvidence : ℤ) :
    ({ firstEvidence } : VoiceCell).Consistent := by
  simp [Consistent]

variable {frame : UpdateFrame} {evidence : Evidence} {conflict : Bool} {cell : VoiceCell}

/-- A cell that is off or attacking is silent. -/
theorem Consistent.inactive (consistent : cell.Consistent)
    (silent : cell.state = .off ∨ cell.state = .attack) : cell.active = false := by
  rw [Bool.eq_false_iff]
  intro active
  rcases consistent.mp active with sounding | sounding <;> rcases silent with silent | silent <;>
    exact absurd (silent.symm.trans sounding) (by decide)

theorem consistent_of_silent (silent : cell.state = .off ∨ cell.state = .attack)
    (inactive : cell.active = false) : cell.Consistent := by
  rcases silent with silent | silent <;> simp [Consistent, silent, inactive]

/-- A silent voice stays silent while it gathers evidence. -/
theorem observeOff_silent (off : cell.state = .off) :
    ((cell.observeOff frame evidence conflict).state = .off ∨
      (cell.observeOff frame evidence conflict).state = .attack) ∧
      (cell.observeOff frame evidence conflict).active = cell.active := by
  unfold observeOff
  split_ifs <;> simp [off]

/-- An attack that is confirmed once more stays an attack. -/
theorem confirmAttack_silent (attack : cell.state = .attack) :
    (cell.confirmAttack frame evidence).state = .attack ∧
      (cell.confirmAttack frame evidence).active = cell.active := by
  unfold confirmAttack
  dsimp only
  split_ifs <;> exact ⟨attack, rfl⟩

/-- An attack that is observed goes on or is given up, and sounds in neither case. -/
theorem observeAttack_silent (attack : cell.state = .attack) (inactive : cell.active = false) :
    ((cell.observeAttack frame evidence conflict).state = .off ∨
      (cell.observeAttack frame evidence conflict).state = .attack) ∧
      (cell.observeAttack frame evidence conflict).active = false := by
  unfold observeAttack
  have confirmed := @confirmAttack_silent frame evidence cell attack
  split_ifs
  · exact ⟨.inl rfl, rfl⟩
  · exact ⟨.inl rfl, rfl⟩
  · exact ⟨.inr confirmed.1, confirmed.2.trans inactive⟩
  · exact ⟨.inl rfl, rfl⟩
  · exact ⟨.inr attack, inactive⟩
  · exact ⟨.inr attack, inactive⟩

end VoiceCell

namespace Lifecycle

/-- A voice that is set has its new cell. -/
theorem setVoice_self (lifecycle : Lifecycle) (note : ℕ) (cell : VoiceCell) :
    (lifecycle.setVoice note cell).voices note = cell := by
  unfold setVoice
  exact Function.update_self ..

/-- The other voices keep theirs. -/
theorem setVoice_of_ne (lifecycle : Lifecycle) {note other : ℕ} (apart : other ≠ note)
    {cell : VoiceCell} : (lifecycle.setVoice note cell).voices other = lifecycle.voices other := by
  unfold setVoice
  exact Function.update_of_ne apart ..

@[simp] theorem setVoice_list (lifecycle : Lifecycle) (note : ℕ) (cell : VoiceCell) :
    (lifecycle.setVoice note cell).list = lifecycle.list := rfl

end Lifecycle

/-- While a call runs, its events tell how the active voices differ from those at its
start. -/
structure Tracks (start : Finset ℕ) (sequence : ℕ) (offset : ℤ) (lifecycle : Lifecycle) :
    Prop where
  consistent : ∀ note, (lifecycle.voices note).Consistent
  calm : lifecycle.list.overflow = false
  numbered : lifecycle.list.sequence = sequence + lifecycle.list.events.length
  placed : ∀ event ∈ lifecycle.list.events, event.note < noteCount ∧ event.sample = offset
  once : (lifecycle.list.events.map LifecycleEvent.note).Nodup
  offs : ∀ event ∈ lifecycle.list.events, event.type = .off →
    event.note ∈ start ∧ (lifecycle.voices event.note).state = .off
  ons : ∀ event ∈ lifecycle.list.events, event.type = .on →
    event.note ∉ start ∧ (lifecycle.voices event.note).active = true
  others : ∀ note < noteCount, (∀ event ∈ lifecycle.list.events, event.note ≠ note) →
    ((lifecycle.voices note).active = true ↔ note ∈ start)

namespace Tracks

variable {start : Finset ℕ} {sequence : ℕ} {offset : ℤ} {lifecycle : Lifecycle}

/-- A call begins with an empty list. -/
theorem enter (consistent : ∀ note, (lifecycle.voices note).Consistent) :
    Tracks (activeNotes lifecycle.voices) lifecycle.list.sequence offset
      { lifecycle with list := lifecycle.list.reset } where
  consistent
  calm := rfl
  numbered := rfl
  placed := fun _ member => absurd member List.not_mem_nil
  once := List.nodup_nil
  offs := fun _ member => absurd member List.not_mem_nil
  ons := fun _ member => absurd member List.not_mem_nil
  others := fun _ below _ =>
    ⟨fun active => mem_activeNotes.mpr ⟨below, active⟩, fun member => (mem_activeNotes.mp member).2⟩

/-- What a call does beside the voices and the list is not tracked. -/
theorem congr {other : Lifecycle} (tracks : Tracks start sequence offset lifecycle)
    (voices : other.voices = lifecycle.voices) (list : other.list = lifecycle.list) :
    Tracks start sequence offset other := by
  cases lifecycle
  cases other
  dsimp only at voices list
  subst voices list
  exact { tracks with }

/-- A cell that no event mentions changes, but not whether it is active. -/
theorem setVoice (tracks : Tracks start sequence offset lifecycle) {note : ℕ} {cell : VoiceCell}
    (fresh : ∀ event ∈ lifecycle.list.events, event.note ≠ note)
    (same : cell.active = (lifecycle.voices note).active) (consistent : cell.Consistent) :
    Tracks start sequence offset (lifecycle.setVoice note cell) where
  consistent := fun other => by
    rcases eq_or_ne other note with rfl | apart
    · rwa [lifecycle.setVoice_self]
    · rw [lifecycle.setVoice_of_ne apart]
      exact tracks.consistent other
  calm := tracks.calm
  numbered := tracks.numbered
  placed := tracks.placed
  once := tracks.once
  offs := fun event member off => by
    rw [lifecycle.setVoice_of_ne (fresh event member)]
    exact tracks.offs event member off
  ons := fun event member on => by
    rw [lifecycle.setVoice_of_ne (fresh event member)]
    exact tracks.ons event member on
  others := fun other below unmentioned => by
    rcases eq_or_ne other note with rfl | apart
    · rw [lifecycle.setVoice_self, same]
      exact tracks.others other below unmentioned
    · rw [lifecycle.setVoice_of_ne apart]
      exact tracks.others other below unmentioned

/-- An event is queued for a note that no event mentions, and turns its voice. -/
theorem append (tracks : Tracks start sequence offset lifecycle) {event : LifecycleEvent}
    {cell : VoiceCell} (below : event.note < noteCount) (placed : event.sample = offset)
    (fresh : ∀ other ∈ lifecycle.list.events, other.note ≠ event.note)
    (consistent : cell.Consistent)
    (turns : (event.type = .off ∧ (lifecycle.voices event.note).active = true ∧
        cell.state = .off) ∨
      (event.type = .on ∧ (lifecycle.voices event.note).active = false ∧ cell.active = true)) :
    Tracks start sequence offset ({ lifecycle with
      list := { lifecycle.list with
        events := lifecycle.list.events ++ [event]
        sequence := lifecycle.list.sequence + 1 } }.setVoice event.note cell) := by
  have known := tracks.others event.note below fresh
  have elsewhere : ∀ other ∈ lifecycle.list.events,
      Function.update lifecycle.voices event.note cell other.note =
        lifecycle.voices other.note := fun other member =>
    Function.update_of_ne (fresh other member) _ _
  unfold Lifecycle.setVoice
  constructor <;> dsimp only
  · intro note
    rcases eq_or_ne note event.note with rfl | apart
    · rwa [Function.update_self]
    · rw [Function.update_of_ne apart]
      exact tracks.consistent note
  · exact tracks.calm
  · rw [tracks.numbered, List.length_append, List.length_singleton, Nat.add_assoc]
  · intro other member
    rcases List.mem_append.mp member with earlier | last
    · exact tracks.placed other earlier
    · obtain rfl := List.mem_singleton.mp last
      exact ⟨below, placed⟩
  · rw [List.map_append, List.map_singleton]
    refine List.Nodup.append tracks.once (List.nodup_singleton _) ?_
    intro note earlier last
    obtain ⟨other, member, rfl⟩ := List.mem_map.mp earlier
    exact fresh other member (List.mem_singleton.mp last)
  · intro other member off
    rcases List.mem_append.mp member with earlier | last
    · rw [elsewhere other earlier]
      exact tracks.offs other earlier off
    · obtain rfl := List.mem_singleton.mp last
      rcases turns with ⟨-, active, cleared⟩ | ⟨on, -⟩
      · rw [Function.update_self]
        exact ⟨known.mp active, cleared⟩
      · exact absurd (on.symm.trans off) (by decide)
  · intro other member on
    rcases List.mem_append.mp member with earlier | last
    · rw [elsewhere other earlier]
      exact tracks.ons other earlier on
    · obtain rfl := List.mem_singleton.mp last
      rcases turns with ⟨off, -⟩ | ⟨-, inactive, active⟩
      · exact absurd (off.symm.trans on) (by decide)
      · rw [Function.update_self]
        refine ⟨fun started => ?_, active⟩
        exact absurd (known.mpr started) (by rw [inactive]; decide)
  · intro note inside unmentioned
    have apart : note ≠ event.note := fun same =>
      unmentioned event (List.mem_append_right _ (List.mem_singleton_self event)) same.symm
    rw [Function.update_of_ne apart]
    exact tracks.others note inside fun other member =>
      unmentioned other (List.mem_append_left _ member)

/-- The list holds at most one event for each voice that was active at the start or is
now, and none for a voice that was and is. -/
theorem length_add (tracks : Tracks start sequence offset lifecycle) :
    lifecycle.list.events.length + 2 * (start ∩ activeNotes lifecycle.voices).card ≤
      start.card + (activeNotes lifecycle.voices).card := by
  have mentioned : (lifecycle.list.events.map LifecycleEvent.note).toFinset ⊆
      (start \ activeNotes lifecycle.voices) ∪ (activeNotes lifecycle.voices \ start) := by
    intro note member
    obtain ⟨event, listed, rfl⟩ := List.mem_map.mp (List.mem_toFinset.mp member)
    rw [Finset.mem_union, Finset.mem_sdiff, Finset.mem_sdiff, mem_activeNotes]
    cases type : event.type with
    | off =>
        obtain ⟨started, off⟩ := tracks.offs event listed type
        have inactive := (tracks.consistent event.note).inactive (.inl off)
        exact .inl ⟨started, fun active => absurd active.2 (by rw [inactive]; decide)⟩
    | on =>
        obtain ⟨unstarted, active⟩ := tracks.ons event listed type
        exact .inr ⟨⟨(tracks.placed event listed).1, active⟩, unstarted⟩
  have length : lifecycle.list.events.length =
      (lifecycle.list.events.map LifecycleEvent.note).toFinset.card := by
    rw [List.toFinset_card_of_nodup tracks.once, List.length_map]
  have bound := (Finset.card_le_card mentioned).trans (Finset.card_union_le _ _)
  have starting := Finset.card_sdiff_add_card_inter start (activeNotes lifecycle.voices)
  have ending := Finset.card_sdiff_add_card_inter (activeNotes lifecycle.voices) start
  rw [Finset.inter_comm] at ending
  omega

/-- An active voice that no event mentions was active at the start. -/
theorem mem_start (tracks : Tracks start sequence offset lifecycle) {note : ℕ}
    (below : note < noteCount) (active : (lifecycle.voices note).active = true)
    (fresh : ∀ event ∈ lifecycle.list.events, event.note ≠ note) :
    note ∈ start ∩ activeNotes lifecycle.voices :=
  Finset.mem_inter.mpr
    ⟨(tracks.others note below fresh).mp active, mem_activeNotes.mpr ⟨below, active⟩⟩

end Tracks

namespace Lifecycle

variable {lifecycle : Lifecycle} {note : ℕ} {offset : ℤ}

/-- An event for which there is room is queued behind the others. -/
theorem queueEvent_room (room : lifecycle.list.events.length < maxEvents) (type : EventType)
    (velocity : ℤ) :
    lifecycle.queueEvent type note velocity offset =
      (true, { lifecycle with
        list := { lifecycle.list with
          events := lifecycle.list.events ++ [lifecycle.list.cell type note velocity offset]
          sequence := lifecycle.list.sequence + 1 } }) := by
  unfold queueEvent
  rw [EventList.queueEvent_room room]

/-- With room in the list a released voice is cleared, and its note-off queued. -/
theorem releaseVoice_room (room : lifecycle.list.events.length < maxEvents) :
    lifecycle.releaseVoice note offset =
      { lifecycle with
        list := { lifecycle.list with
          events := lifecycle.list.events ++ [lifecycle.list.cell .off note 0 offset]
          sequence := lifecycle.list.sequence + 1 } }.setVoice note {} := by
  unfold releaseVoice
  rw [queueEvent_room room]
  rfl

end Lifecycle

/-- The cell of a queued event keeps a note of the table and a nonnegative offset. -/
theorem cell_note {list : EventList} {type : EventType} {note : ℕ} {velocity offset : ℤ}
    (below : note < noteCount) : (list.cell type note velocity offset).note = note := by
  have inside : note ≤ 127 := Nat.le_of_lt_succ below
  simp [EventList.cell, clamp, inside]

/-- An event lies at its offset in the block. -/
theorem cell_sample {list : EventList} {type : EventType} {note : ℕ} {velocity offset : ℤ}
    (nonneg : 0 ≤ offset) : (list.cell type note velocity offset).sample = offset :=
  max_eq_right nonneg

/-- A voice that no event mentions is released. -/
theorem Tracks.releaseVoice {start : Finset ℕ} {sequence : ℕ} {offset : ℤ}
    {lifecycle : Lifecycle} (tracks : Tracks start sequence offset lifecycle) {note : ℕ}
    (nonneg : 0 ≤ offset) (below : note < noteCount)
    (active : (lifecycle.voices note).active = true)
    (fresh : ∀ event ∈ lifecycle.list.events, event.note ≠ note)
    (room : lifecycle.list.events.length < maxEvents) :
    Tracks start sequence offset (lifecycle.releaseVoice note offset) := by
  rw [Lifecycle.releaseVoice_room room]
  have named := @cell_note lifecycle.list .off note 0 offset below
  have appended := @Tracks.append _ _ _ _ tracks (lifecycle.list.cell .off note 0 offset) {}
    (named.symm ▸ below) (cell_sample nonneg) (named.symm ▸ fresh)
    (VoiceCell.consistent_clear 0) (.inl ⟨rfl, named.symm ▸ active, rfl⟩)
  rwa [named] at appended

end M3Midi.Jsfx
