import M3Midi.Ledger.PanicDelivery
import M3Midi.Ledger.TickDelivery

/-! # What a host has open

A host knows a note by its pitch and its channel. The events it gets of a stream open notes and
close notes that are open, and what stays open is what the slots of the ledger hold
(`M3Midi.GeneratedNoteLedger.replay_takeTicks`).
-/

namespace M3Midi

open Foundation GeneratedNoteLedger

/-- What a note event does at the host. -/
def TimedNote.mark (note : TimedNote) : Mark (ℕ × ℕ) :=
  match note.kind with
  | .noteOn => .opened (note.note, note.channel)
  | .noteOff => .closed (note.note, note.channel)

/-- The notes that are open at a host after note events; absent when one of them closes a note that
is not open. -/
def openNotes (notes : List TimedNote) : Option (Multiset (ℕ × ℕ)) :=
  replay 0 (notes.map TimedNote.mark)

namespace GeneratedNoteLedger

/-- The notes of the slots, as a host knows them. -/
def hostNotes (ledger : GeneratedNoteLedger) : Multiset (ℕ × ℕ) :=
  ledger.soundingNotes.map fun item => (item.note, item.channel)

variable {routing : MidiRouting} {startChannel : ℕ} {ledger : GeneratedNoteLedger}

/-- A slot that is cleared takes its note away from the host's. -/
theorem hostNotes_clearVoice {slot : Fin maxVoices} {item : SoundingNote}
    (sounding : (ledger.voices slot).sounding = some item) :
    (item.note, item.channel) ::ₘ (ledger.clearVoice slot).hostNotes = ledger.hostNotes := by
  have notes : item ::ₘ (ledger.clearVoice slot).soundingNotes = ledger.soundingNotes :=
    heldKeys_clear sounding rfl
  rw [hostNotes, hostNotes, ← notes, Multiset.map_cons]

/-- A slot that is filled adds its note to the host's. -/
theorem hostNotes_occupyVoice {slot : Fin maxVoices} (event : VoiceTransition) (channel : ℕ)
    (free : (ledger.voices slot).occupied = false) :
    (Delivery.occupyVoice slot event channel ledger).hostNotes =
      (event.note, channel) ::ₘ ledger.hostNotes := by
  have notes : (Delivery.occupyVoice slot event channel ledger).soundingNotes =
      ⟨event.note, event.voiceId, channel⟩ ::ₘ ledger.soundingNotes :=
    heldKeys_fill (sounding_eq_none.mpr free) rfl
  rw [hostNotes, hostNotes, notes, Multiset.map_cons]

/-- The names of the notes have their pitches. -/
theorem pitches_hostNotes : ledger.hostNotes.map Prod.fst = ledger.names.map Prod.fst := by
  rw [hostNotes, names, Multiset.map_map, Multiset.map_map]
  rfl

/-- An event that is taken opens or closes the note at the host that it fills or clears a slot
for. -/
theorem settle_takeEvent {event : VoiceTransition} {channel : ℕ} {next : GeneratedNoteLedger}
    (taken : takeEvent routing startChannel ledger event = some (channel, next)) (time : ℕ) :
    settle ledger.hostNotes (timedNote time event channel).mark = some next.hostNotes := by
  unfold takeEvent at taken
  cases kind : event.kind with
  | noteOff =>
      have closes : (timedNote time event channel).mark = .closed (event.note, channel) := by
        simp [TimedNote.mark, timedNote, kind]
      rw [kind] at taken
      obtain ⟨slot, found, sent⟩ := Option.bind_eq_some_iff.mp taken
      dsimp only at sent
      split_ifs at sent
      obtain ⟨rfl, rfl⟩ := Prod.mk.inj (Option.some.inj sent)
      have held := firstSlot_spec found
      unfold holds at held
      rw [Bool.and_eq_true, Bool.and_eq_true, decide_eq_true_eq] at held
      obtain ⟨⟨occupied, note⟩, -⟩ := held
      rw [closes, ← hostNotes_clearVoice (sounding_eq_some.mpr ⟨occupied, rfl⟩), note]
      exact settle_closed_cons _ _
  | noteOn =>
      have opens : (timedNote time event channel).mark = .opened (event.note, channel) := by
        simp [TimedNote.mark, timedNote, kind]
      rw [kind] at taken
      dsimp only at taken
      by_cases refused : Delivery.identityInUse ledger event ∨ ledger.activeCount ≥ maxVoices
      · rw [if_pos refused] at taken
        cases taken
      rw [if_neg refused] at taken
      obtain ⟨slot, found, sent⟩ := Option.bind_eq_some_iff.mp taken
      split_ifs at sent
      obtain ⟨rfl, rfl⟩ := Prod.mk.inj (Option.some.inj sent)
      have free := firstSlot_spec found
      rw [opens, hostNotes_occupyVoice _ _ (by simpa using free)]
      rfl

/-- Events that have been taken lead from the host's notes before to those afterwards. -/
theorem replay_takeEvents {events : List VoiceTransition} {next : GeneratedNoteLedger}
    (taken : (takeEvents routing startChannel events ledger).2 = some next) (time : ℕ) :
    replay ledger.hostNotes
      (((takeEvents routing startChannel events ledger).1.map fun event =>
        timedNote time event.1 event.2).map TimedNote.mark) = some next.hostNotes := by
  induction events generalizing ledger with
  | nil =>
      obtain rfl := Option.some.inj taken
      rfl
  | cons event events ih =>
      rw [takeEvents] at taken ⊢
      cases outcome : takeEvent routing startChannel ledger event with
      | none =>
          rw [outcome] at taken
          cases taken
      | some accepted =>
          obtain ⟨channel, middle⟩ := accepted
          rw [outcome] at taken
          dsimp only at taken ⊢
          rw [List.map_cons, List.map_cons, replay_cons, settle_takeEvent outcome time,
            Option.bind_some]
          exact ih taken

/-- **The host has open what the ledger holds**, as long as no event is refused. -/
theorem replay_takeTicks {ticks : List (List VoiceTransition)} {time : ℕ}
    {next : GeneratedNoteLedger}
    (taken : (takeTicks routing startChannel time ticks ledger).2 = some next) :
    replay ledger.hostNotes
      ((takeTicks routing startChannel time ticks ledger).1.map TimedNote.mark) =
        some next.hostNotes := by
  induction ticks generalizing time ledger with
  | nil =>
      obtain rfl := Option.some.inj taken
      rfl
  | cons transitions ticks ih =>
      rw [takeTicks] at taken ⊢
      dsimp only at taken ⊢
      cases outcome : (takeEvents routing startChannel (tickQueue 0 transitions []) ledger).2 with
      | none =>
          rw [outcome] at taken
          cases taken
      | some middle =>
          rw [outcome] at taken
          dsimp only at taken ⊢
          rw [List.map_append, replay_append, replay_takeEvents outcome time, Option.bind_some]
          exact ih taken

end GeneratedNoteLedger

/-- Samples without a decision bring the ledger nothing, and the time does not matter to it. -/
theorem takeTicks_decisions {routing : MidiRouting} {startChannel : ℕ}
    {ledger : GeneratedNoteLedger} (outcomes : List (Option DetectorDecision)) (time first : ℕ) :
    (takeTicks routing startChannel time (outcomes.map transitionsOf) ledger).2 =
      (takeTicks routing startChannel first
        (outcomes.filterMap (Option.map DetectorDecision.transitions)) ledger).2 := by
  induction outcomes generalizing time first ledger with
  | nil => rfl
  | cons outcome outcomes ih =>
      cases outcome with
      | none => exact ih (time + 1) first
      | some decision =>
          have kept : (some decision :: outcomes).filterMap
              (Option.map DetectorDecision.transitions) = decision.transitions ::
                outcomes.filterMap (Option.map DetectorDecision.transitions) := rfl
          rw [List.map_cons, kept, takeTicks, takeTicks]
          dsimp only [transitionsOf, Option.elim_some]
          cases (takeEvents routing startChannel (tickQueue 0 decision.transitions []) ledger).2 with
          | none => rfl
          | some next => exact ih (time + 1) (first + 1)

end M3Midi
