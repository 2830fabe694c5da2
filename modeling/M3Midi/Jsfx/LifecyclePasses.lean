import M3Midi.Jsfx.LifecycleCalls

/-! # The loops of the lifecycle

The first loop of an update and the loop of a release walk the table once and
queue a note-off for the voice at hand. The third loop walks it from the lowest
note up. The voice it takes away always is the highest one, and sounded before
the call; the voices it starts stay until the call ends.
-/

namespace M3Midi.Jsfx

open Foundation

variable {math : EelMath} {frame : UpdateFrame} {start : Finset ℕ} {sequence : ℕ} {offset : ℤ}
  {lifecycle : Lifecycle} {note : ℕ}

/-- Before a pass of a loop that only releases, the events are note-offs of the notes the
loop has passed. -/
structure Releases (start : Finset ℕ) (sequence : ℕ) (offset : ℤ) (index : ℕ)
    (lifecycle : Lifecycle) : Prop where
  tracks : Tracks start sequence offset lifecycle
  passed : ∀ event ∈ lifecycle.list.events, event.note < index ∧ event.type = .off

namespace Releases

/-- No event mentions the note at hand. -/
theorem fresh (releases : Releases start sequence offset note lifecycle) :
    ∀ event ∈ lifecycle.list.events, event.note ≠ note :=
  fun event member => (releases.passed event member).1.ne

/-- The note at hand keeps its activity. -/
theorem setVoice (releases : Releases start sequence offset note lifecycle) {cell : VoiceCell}
    (same : cell.active = (lifecycle.voices note).active) (consistent : cell.Consistent) :
    Releases start sequence offset note (lifecycle.setVoice note cell) :=
  ⟨releases.tracks.setVoice releases.fresh same consistent, releases.passed⟩

/-- Where nothing happens the loop goes on. -/
theorem next (releases : Releases start sequence offset note lifecycle) :
    Releases start sequence offset (note + 1) lifecycle :=
  ⟨releases.tracks, fun event member =>
    ⟨Nat.lt_succ_of_lt (releases.passed event member).1, (releases.passed event member).2⟩⟩

/-- While voices only end, every active one was active at the start. -/
theorem active_subset (releases : Releases start sequence offset note lifecycle) :
    activeNotes lifecycle.voices ⊆ start := by
  intro other member
  obtain ⟨below, active⟩ := mem_activeNotes.mp member
  refine (releases.tracks.others other below fun event listed same => ?_).mp active
  obtain ⟨-, off⟩ := releases.passed event listed
  have cleared := (releases.tracks.offs event listed off).2
  have inactive := (releases.tracks.consistent event.note).inactive (.inl cleared)
  rw [same, active] at inactive
  exact absurd inactive (by decide)

/-- The note-off of the active voice at hand finds room. -/
theorem room (releases : Releases start sequence offset note lifecycle)
    (few : start.card ≤ maxVoices) (below : note < noteCount)
    (active : (lifecycle.voices note).active = true) :
    lifecycle.list.events.length < maxEvents := by
  have ends := Finset.card_pos.mpr ⟨note, releases.tracks.mem_start below active releases.fresh⟩
  have counted := releases.tracks.length_add
  have fewer := Finset.card_le_card releases.active_subset
  simp only [maxVoices, maxEvents] at few ⊢
  omega

/-- The active voice at hand ends. -/
theorem release (releases : Releases start sequence offset note lifecycle) (nonneg : 0 ≤ offset)
    (few : start.card ≤ maxVoices) (below : note < noteCount)
    (active : (lifecycle.voices note).active = true) :
    Releases start sequence offset (note + 1) (lifecycle.releaseVoice note offset) := by
  have room := releases.room few below active
  refine ⟨releases.tracks.releaseVoice nonneg below active releases.fresh room, ?_⟩
  rw [Lifecycle.releaseVoice_room room]
  intro event member
  rcases List.mem_append.mp member with earlier | last
  · exact releases.next.passed event earlier
  · obtain rfl := List.mem_singleton.mp last
    rw [cell_note below]
    exact ⟨Nat.lt_succ_self note, rfl⟩

/-- A voice whose release is finished is released with one event, behind the others. -/
theorem finishRelease (releases : Releases start sequence frame.outputOffset note lifecycle)
    (nonneg : 0 ≤ frame.outputOffset) (few : start.card ≤ maxVoices) (below : note < noteCount)
    (active : (lifecycle.voices note).active = true) :
    Releases start sequence frame.outputOffset (note + 1)
      (lifecycle.finishRelease frame note) := by
  unfold Lifecycle.finishRelease
  split_ifs
  · exact releases.release nonneg few below active
  · exact releases.next

/-- A pass of the first loop. -/
theorem observeNote (releases : Releases start sequence frame.outputOffset note lifecycle)
    (nonneg : 0 ≤ frame.outputOffset) (few : start.card ≤ maxVoices) (below : note < noteCount) :
    Releases start sequence frame.outputOffset (note + 1)
      (lifecycle.observeNote math frame note) := by
  have consistent := releases.tracks.consistent note
  unfold Lifecycle.observeNote
  dsimp only
  cases state : (lifecycle.voices note).state with
  | off =>
      have silent := @VoiceCell.observeOff_silent frame (frame.evidence note)
        ((frame.evidence note).present &&
          m3LowStringConflict frame.settings lifecycle.voices note) _ state
      have inactive := consistent.inactive (.inl state)
      exact (releases.setVoice silent.2
        (VoiceCell.consistent_of_silent silent.1 (silent.2.trans inactive))).next
  | attack =>
      have inactive := consistent.inactive (.inr state)
      have silent := @VoiceCell.observeAttack_silent frame (frame.evidence note)
        ((frame.evidence note).present &&
          m3LowStringConflict frame.settings lifecycle.voices note) _ state inactive
      exact (releases.setVoice (silent.2.trans inactive.symm)
        (VoiceCell.consistent_of_silent silent.1 silent.2)).next
  | on =>
      have active := consistent.mpr (.inl state)
      dsimp only
      split_ifs
      · refine (releases.setVoice ?_ ?_).next
        · rfl
        · exact consistent
      · refine (releases.setVoice ?_ ?_).finishRelease nonneg few below ?_
        · rfl
        · exact iff_of_true active (.inr rfl)
        · rw [lifecycle.setVoice_self]
          exact active
      · exact releases.next
  | release =>
      have active := consistent.mpr (.inr state)
      dsimp only
      split_ifs
      · refine (releases.setVoice ?_ ?_).next
        · rfl
        · exact iff_of_true active (.inl rfl)
      · exact releases.finishRelease nonneg few below active

/-- A pass of the loop that releases every voice. -/
theorem releaseNote (releases : Releases start sequence offset note lifecycle)
    (nonneg : 0 ≤ offset) (few : start.card ≤ maxVoices) (below : note < noteCount) :
    Releases start sequence offset (note + 1) (lifecycle.releaseNote offset note) := by
  unfold Lifecycle.releaseNote
  split_ifs with active
  · exact releases.release nonneg few below active
  · exact (releases.setVoice (Bool.eq_false_iff.mpr active).symm
      (VoiceCell.consistent_clear 0)).next

/-- After its pass a voice is silent, and the other voices are as they were. -/
theorem releaseNote_voices (releases : Releases start sequence offset note lifecycle)
    (few : start.card ≤ maxVoices) (below : note < noteCount) (other : ℕ) :
    (lifecycle.releaseNote offset note).voices other =
      if other = note then {} else lifecycle.voices other := by
  unfold Lifecycle.releaseNote
  rcases eq_or_ne other note with rfl | apart
  · rw [if_pos rfl]
    split_ifs with active
    · rw [Lifecycle.releaseVoice_room (releases.room few below active), Lifecycle.setVoice_self]
    · rw [Lifecycle.setVoice_self]
  · rw [if_neg apart]
    split_ifs with active
    · rw [Lifecycle.releaseVoice_room (releases.room few below active),
        Lifecycle.setVoice_of_ne _ apart]
    · rw [Lifecycle.setVoice_of_ne _ apart]

end Releases

/-- A call begins with the voices that are active then. -/
theorem Releases.enter (consistent : ∀ note, (lifecycle.voices note).Consistent) :
    Releases (activeNotes lifecycle.voices) lifecycle.list.sequence offset 0
      { lifecycle with list := lifecycle.list.reset } :=
  ⟨Tracks.enter consistent, fun _ member => absurd member List.not_mem_nil⟩

/-- A number is the highest active note, or none is active and it is negative. -/
structure IsHighest (voices : VoiceTable) (highest : ℤ) : Prop where
  found : 0 ≤ highest → highest.toNat ∈ activeNotes voices
  upper : ∀ note ∈ activeNotes voices, (note : ℤ) ≤ highest

/-- The search over the voices finds the highest one that is active. -/
theorem isHighest_highestActive (voices : VoiceTable) :
    IsHighest voices (Lifecycle.highestActive voices) := by
  obtain ⟨-, found, upper⟩ :=
    countedLoop_highest (fun note => (voices note).active) noteCount
  refine ⟨fun nonneg => mem_activeNotes.mpr (found nonneg), fun note member => ?_⟩
  obtain ⟨below, active⟩ := mem_activeNotes.mp member
  exact upper note below active

/-- The count over the voices is the number of active notes. -/
theorem countActive_eq (voices : VoiceTable) :
    Lifecycle.countActive voices = (activeNotes voices).card :=
  countedLoop_count (fun note => (voices note).active) noteCount

/-- Before a pass of the third loop: what the loop has counted, and that it has started
voices only below the note at hand. -/
structure Admits (start : Finset ℕ) (sequence : ℕ) (frame : UpdateFrame) (index : ℕ)
    (admission : Lifecycle.Admission) : Prop where
  tracks : Tracks start sequence frame.outputOffset admission.lifecycle
  counted : admission.activeCount = (activeNotes admission.lifecycle.voices).card
  fits : (activeNotes admission.lifecycle.voices).card ≤ frame.activeLimit
  highest : IsHighest admission.lifecycle.voices admission.highestActiveNote
  passed : ∀ event ∈ admission.lifecycle.list.events, event.type = .on → event.note < index

namespace Admits

variable {admission : Lifecycle.Admission}

/-- What the third loop has done for a note holds for the next one. -/
theorem next (admits : Admits start sequence frame note admission) :
    Admits start sequence frame (note + 1) admission :=
  { admits with
    passed := fun event member on => Nat.lt_succ_of_lt (admits.passed event member on) }

/-- The note to be replaced is active, lies above the note at hand, and is not mentioned. -/
theorem replaced (admits : Admits start sequence frame note admission)
    (above : (note : ℤ) < admission.highestActiveNote) :
    admission.highestActiveNote.toNat ∈ activeNotes admission.lifecycle.voices ∧
      note < admission.highestActiveNote.toNat ∧
      ∀ event ∈ admission.lifecycle.list.events,
        event.note ≠ admission.highestActiveNote.toNat := by
  have member := admits.highest.found (by omega)
  have higher : note < admission.highestActiveNote.toNat := by omega
  refine ⟨member, higher, fun event listed same => ?_⟩
  cases type : event.type with
  | off =>
      have cleared := (admits.tracks.offs event listed type).2
      have inactive := (admits.tracks.consistent event.note).inactive (.inl cleared)
      rw [same, (mem_activeNotes.mp member).2] at inactive
      exact absurd inactive (by decide)
  | on => exact absurd (admits.passed event listed type) (by omega)

/-- Clearing an active voice takes it from the active notes. -/
theorem activeNotes_clear (voices : VoiceTable) (note : ℕ) :
    activeNotes (Function.update voices note {}) = (activeNotes voices).erase note := by
  ext other
  rw [Finset.mem_erase, mem_activeNotes, mem_activeNotes]
  rcases eq_or_ne other note with rfl | apart
  · simp
  · simp [apart]

/-- Starting a voice adds it to the active notes. -/
theorem activeNotes_start {voices : VoiceTable} {note : ℕ} {cell : VoiceCell}
    (below : note < noteCount) (active : cell.active = true) :
    activeNotes (Function.update voices note cell) = insert note (activeNotes voices) := by
  ext other
  rw [Finset.mem_insert, mem_activeNotes, mem_activeNotes]
  rcases eq_or_ne other note with rfl | apart
  · simp [below, active]
  · simp [apart]

variable {limit : ℕ}

/-- What a replacement leaves: if there is room, one voice fewer than the limit, and the
note at hand as it was. -/
theorem replaceHighest (allowed : frame.activeLimit ≤ limit)
    (admits : Admits start sequence { frame with activeLimit := limit } note admission)
    (nonneg : 0 ≤ frame.outputOffset) :
    Admits start sequence { frame with activeLimit := limit } note
        (admission.replaceHighest frame note).2 ∧
      (admission.replaceHighest frame note).2.lifecycle.voices note =
        admission.lifecycle.voices note ∧
      ((admission.replaceHighest frame note).1 = true →
        (activeNotes (admission.replaceHighest frame note).2.lifecycle.voices).card < limit) := by
  unfold Lifecycle.Admission.replaceHighest
  cases must : admission.mustReplace frame note with
  | false =>
      refine ⟨admits, rfl, fun available => ?_⟩
      have free := of_decide_eq_true available
      rw [admits.counted] at free
      exact (Nat.lt_of_le_of_lt (Nat.le_add_right _ _) free).trans_le allowed
  | true =>
      unfold Lifecycle.Admission.mustReplace at must
      simp only [Bool.and_eq_true, decide_eq_true_eq] at must
      obtain ⟨⟨⟨-, full⟩, above⟩, few⟩ := must
      obtain ⟨member, higher, fresh⟩ := admits.replaced above
      obtain ⟨below, active⟩ := mem_activeNotes.mp member
      have room : admission.lifecycle.list.events.length < maxEvents := by
        simp only [maxEvents] at few ⊢
        omega
      have tracks := admits.tracks.releaseVoice nonneg below active fresh room
      rw [Lifecycle.releaseVoice_room room] at tracks
      have fewer := Finset.card_erase_of_mem member
      have some := Finset.card_pos.mpr ⟨_, member⟩
      have fits : (activeNotes admission.lifecycle.voices).card ≤ limit := admits.fits
      rw [if_pos rfl]
      dsimp only
      rw [Lifecycle.queueEvent_room room, if_pos rfl]
      refine ⟨⟨tracks, ?_, ?_, isHighest_highestActive _, ?_⟩, ?_, fun _ => ?_⟩
      · unfold Lifecycle.setVoice
        rw [activeNotes_clear, fewer, ← admits.counted]
      · unfold Lifecycle.setVoice
        rw [activeNotes_clear, fewer]
        exact (Nat.sub_le _ _).trans fits
      · intro event listed on
        rcases List.mem_append.mp listed with earlier | last
        · exact admits.passed event earlier on
        · obtain rfl := List.mem_singleton.mp last
          exact EventType.noConfusion on
      · exact Lifecycle.setVoice_of_ne _ higher.ne
      · unfold Lifecycle.setVoice
        rw [activeNotes_clear, fewer]
        omega

/-- The attack of a silent note is admitted where a voice is free. The event is queued behind the
others, and for a note that none of them mentions. -/
theorem activate (admits : Admits start sequence frame note admission)
    (nonneg : 0 ≤ frame.outputOffset) (few : start.card ≤ maxVoices)
    (limited : frame.activeLimit ≤ maxVoices) (below : note < noteCount)
    (attack : (admission.lifecycle.voices note).state = .attack)
    (free : (activeNotes admission.lifecycle.voices).card < frame.activeLimit) :
    Admits start sequence frame (note + 1) (admission.activate math frame note) := by
  have inactive := (admits.tracks.consistent note).inactive (.inr attack)
  have silent : note ∉ activeNotes admission.lifecycle.voices := fun member =>
    absurd (mem_activeNotes.mp member).2 (by rw [inactive]; decide)
  have fresh : ∀ event ∈ admission.lifecycle.list.events, event.note ≠ note := by
    rintro event listed rfl
    cases type : event.type with
    | off => exact absurd (attack.symm.trans (admits.tracks.offs event listed type).2) (by decide)
    | on => exact absurd (admits.tracks.ons event listed type).2 (by rw [inactive]; decide)
  have counted := admits.tracks.length_add
  have room : admission.lifecycle.list.events.length < maxEvents := by
    simp only [maxVoices, maxEvents] at few limited ⊢
    omega
  unfold Lifecycle.Admission.activate
  dsimp only
  rw [Lifecycle.queueEvent_room room, if_pos rfl]
  generalize Lifecycle.velocity math _ frame.velocityMode frame.fixedVelocity = velocity
  have named := @cell_note admission.lifecycle.list .on note velocity frame.outputOffset below
  have tracks := @Tracks.append _ _ _ _ admits.tracks
    (admission.lifecycle.list.cell .on note velocity frame.outputOffset)
    { admission.lifecycle.voices note with
      state := .on, stateEnter := frame.now, velocity, active := true }
    (named.symm ▸ below) (cell_sample nonneg) (named.symm ▸ fresh) (iff_of_true rfl (.inl rfl))
    (.inr ⟨rfl, named.symm ▸ inactive, rfl⟩)
  rw [named] at tracks
  refine ⟨tracks, ?_, ?_, ⟨fun _ => ?_, ?_⟩, ?_⟩
  · unfold Lifecycle.setVoice
    rw [activeNotes_start below rfl, Finset.card_insert_of_notMem silent, admits.counted]
  · unfold Lifecycle.setVoice
    rw [activeNotes_start below rfl, Finset.card_insert_of_notMem silent]
    exact free
  · unfold Lifecycle.setVoice
    rw [activeNotes_start below rfl]
    rcases le_total admission.highestActiveNote note with lower | higher
    · rw [max_eq_right lower, Int.toNat_natCast]
      exact Finset.mem_insert_self _ _
    · rw [max_eq_left higher]
      exact Finset.mem_insert_of_mem (admits.highest.found (by omega))
  · unfold Lifecycle.setVoice
    rw [activeNotes_start below rfl]
    intro other member
    rcases Finset.mem_insert.mp member with rfl | earlier
    · exact le_max_right _ _
    · exact (admits.highest.upper other earlier).trans (le_max_left _ _)
  · intro event listed on
    rcases List.mem_append.mp listed with earlier | last
    · exact admits.next.passed event earlier on
    · obtain rfl := List.mem_singleton.mp last
      rw [named]
      exact Nat.lt_succ_self note

/-- To reserve a voice for another note changes nothing yet. -/
theorem reserve (admits : Admits start sequence frame note admission) (other : ℕ) :
    Admits start sequence frame note (admission.reserve frame other) := by
  unfold Lifecycle.Admission.reserve
  split_ifs
  · exact { admits with }
  · exact admits

/-- A pass of the third loop. -/
theorem admitNote (allowed : frame.activeLimit ≤ limit)
    (admits : Admits start sequence { frame with activeLimit := limit } note admission)
    (nonneg : 0 ≤ frame.outputOffset) (few : start.card ≤ maxVoices)
    (limited : limit ≤ maxVoices) (below : note < noteCount) (highOpenContext : Bool) :
    Admits start sequence { frame with activeLimit := limit } (note + 1)
      (admission.admitNote math frame highOpenContext note) := by
  unfold Lifecycle.Admission.admitNote
  refine Admits.reserve ?_ note
  cases may : Lifecycle.mayAttack frame highOpenContext admission note with
  | false => exact admits.next
  | true =>
      obtain ⟨replaced, same, free⟩ := admits.replaceHighest allowed nonneg
      rw [if_pos rfl]
      dsimp only
      split_ifs with room
      · refine replaced.activate nonneg few limited below ?_ (free room)
        rw [same]
        unfold Lifecycle.mayAttack Lifecycle.attackReady at may
        simp only [Bool.and_eq_true, decide_eq_true_eq] at may
        exact may.1.1.1.1.1.1.1.1.1.1.1.1
      · exact replaced.next

end Admits

end M3Midi.Jsfx
