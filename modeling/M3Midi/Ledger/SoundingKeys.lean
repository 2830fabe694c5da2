import M3Midi.Ledger.BlockQueue
import M3Midi.Ledger.PanicDelivery
import M3Midi.Ledger.TickDelivery
import Mathlib.Data.Fintype.EquivFin

/-! # The keys a ledger sounds

A ledger that nothing disturbs sounds a set of keys, one in each occupied slot. It takes a
note-off for a key that sounds and a note-on for one that does not, as long as a slot is free and
the lane of the key; a decision that closes keys that sound and opens others is taken as a whole,
its note-offs first (`M3Midi.GeneratedNoteLedger.Plays.tick`).
-/

namespace M3Midi

open Foundation

namespace GeneratedNoteLedger

open Delivery

/-- A key is on a lane where voices have lanes, and on none otherwise. -/
def Lodged (laned : Bool) (key : ℕ × ℕ) : Prop :=
  if laned then key.2 < maxVoices else key.2 = unassignedVoiceId

/-- No two keys are on the same lane. -/
def LanesApart (laned : Bool) (held : Finset (ℕ × ℕ)) : Prop :=
  laned = true → Set.InjOn Prod.snd (held : Set (ℕ × ℕ))

/-- A ledger that sounds the keys, each where the routing puts it, with nothing pending. -/
structure Plays (laned : Bool) (startChannel : ℕ) (held : Finset (ℕ × ℕ))
    (ledger : GeneratedNoteLedger) : Prop where
  names : ledger.names = held.val
  counted : ledger.activeCount = held.card
  released : ∀ slot, (ledger.voices slot).pendingRelease = false
  channels : ∀ slot item, (ledger.voices slot).sounding = some item →
    validChannel item.channel = true ∧
      (laned = true → item.channel = laneChannel startChannel item.voiceId)
  lodged : ∀ key ∈ held, Lodged laned key

variable {laned : Bool} {routing : MidiRouting} {startChannel : ℕ} {held : Finset (ℕ × ℕ)}
  {ledger : GeneratedNoteLedger} {event : VoiceTransition}

/-- A key that is lodged names a lane that there is, or none. -/
theorem Lodged.valid {key : ℕ × ℕ} (lodged : Lodged laned key) :
    key.2 = unassignedVoiceId ∨ key.2 < maxVoices := by
  unfold Lodged at lodged
  split_ifs at lodged
  · exact .inr lodged
  · exact .inl lodged

/-- A slot that is cleared is the only one that changes. -/
theorem clearVoice_voices (slot : Fin maxVoices) :
    (ledger.clearVoice slot).voices = Function.update ledger.voices slot {} := rfl

/-- A slot that is filled is the only one that changes. -/
theorem occupyVoice_voices (slot : Fin maxVoices) (channel : ℕ) :
    (occupyVoice slot event channel ledger).voices = Function.update ledger.voices slot
      { active := true, pendingRelease := false, note := event.note, channel := channel
        voiceId := event.voiceId } := rfl

/-- A ledger without notes sounds nothing. -/
theorem plays_empty (silent : ∀ slot, ledger.voices slot = {}) (uncounted : ledger.activeCount = 0) :
    Plays laned startChannel ∅ ledger := by
  have unsounded : ∀ slot, (ledger.voices slot).sounding = none := by
    intro slot
    rw [silent slot]
    rfl
  constructor
  case names =>
    unfold GeneratedNoteLedger.names
    apply Multiset.eq_zero_of_forall_notMem
    intro name member
    obtain ⟨item, sounds, -⟩ := Multiset.mem_map.mp member
    obtain ⟨slot, holds⟩ := mem_soundingNotes.mp sounds
    rw [unsounded slot] at holds
    cases holds
  case counted => exact uncounted
  case released =>
    intro slot
    rw [silent slot]
  case channels =>
    intro slot item sounds
    rw [unsounded slot] at sounds
    cases sounds
  case lodged => exact fun key member => absurd member (Finset.notMem_empty key)

/-- A free slot leaves the channel of some lane unused. -/
theorem lane_unused {free : Fin maxVoices} (unoccupied : (ledger.voices free).occupied = false) :
    ∃ lane ∈ List.range maxVoices,
      ledger.channelUsed (laneChannel startChannel lane) = false := by
  by_contra none
  push Not at none
  have used : ∀ lane : Fin maxVoices, ∃ slot, (ledger.voices slot).occupied = true ∧
      (ledger.voices slot).channel = laneChannel startChannel lane := by
    intro lane
    have there := (Bool.not_eq_false _).mp (none lane (List.mem_range.mpr lane.isLt))
    unfold channelUsed at there
    obtain ⟨slot, -, both⟩ := List.any_eq_true.mp there
    rw [Bool.and_eq_true, decide_eq_true_eq] at both
    exact ⟨slot, both⟩
  choose slotOf occupied channel using used
  have injective : Function.Injective slotOf := by
    intro first second same
    have channels : laneChannel startChannel first = laneChannel startChannel second := by
      rw [← channel first, ← channel second, same]
    exact Fin.ext (laneChannel_injective first.isLt second.isLt channels)
  obtain ⟨lane, reached⟩ := (Finite.injective_iff_surjective.mp injective) free
  have taken := occupied lane
  rw [reached, unoccupied] at taken
  cases taken

namespace Plays

variable (plays : Plays laned startChannel held ledger)

include plays

/-- The names of the ledger are the keys that are held. -/
theorem mem_names {name : ℕ × ℕ} : name ∈ ledger.names ↔ name ∈ held := by
  rw [plays.names, Finset.mem_val]

/-- As many notes sound as keys are held. -/
theorem card_soundingNotes : ledger.soundingNotes.card = held.card := by
  have card := congrArg Multiset.card plays.names
  rwa [GeneratedNoteLedger.names, Multiset.card_map] at card

/-- Without pending releases, the occupied slots are the active ones. -/
theorem occupied_eq_active (slot : Fin maxVoices) :
    (ledger.voices slot).occupied = (ledger.voices slot).active := by
  unfold ActiveVoice.occupied
  rw [plays.released slot, Bool.or_false]

/-- With fewer keys than slots one of the slots is free. -/
theorem findFreeVoice_of_room (room : held.card < maxVoices) :
    ∃ slot, ledger.findFreeVoice = some slot ∧ (ledger.voices slot).occupied = false := by
  cases found : ledger.findFreeVoice with
  | some slot =>
      have free := firstSlot_spec found
      exact ⟨slot, rfl, by simpa using free⟩
  | none =>
      have full := firstSlot_eq_none.mp found
      have card := plays.card_soundingNotes
      rw [soundingNotes, card_heldKeys, Finset.filter_true_of_mem, Finset.card_univ,
        Fintype.card_fin] at card
      · omega
      · intro slot _
        have occupied : (ledger.voices slot).occupied = true := by simpa using full slot
        rw [ActiveVoice.sounding, if_pos occupied]
        rfl

/-- A note-off for a key that sounds is taken. -/
theorem takeOff (closes : event.kind = .noteOff) (sounds : event.name ∈ held) :
    ∃ channel next, takeEvent routing startChannel ledger event = some (channel, next) ∧
      Plays laned startChannel (held.erase event.name) next := by
  have valid := (plays.lodged _ sounds).valid
  obtain ⟨slot, found, sounding⟩ := findVoice_of_name (plays.mem_names.mpr sounds) valid
  obtain ⟨channel, -⟩ := plays.channels slot _ sounding
  have names := names_clearVoice sounding
  refine ⟨(ledger.voices slot).channel, ledger.clearVoice slot, ?_, ?_⟩
  · unfold takeEvent
    rw [closes]
    dsimp only
    rw [found, Option.bind_some, if_pos channel]
  · have occupied := (sounding_eq_some.mp sounding).1
    have active := (plays.occupied_eq_active slot).symm.trans occupied
    constructor
    case names =>
      rw [plays.names] at names
      rw [Finset.erase_val, ← names]
      exact (Multiset.erase_cons_head _ _).symm
    case counted =>
      have counted := plays.counted
      have positive := Finset.card_pos.mpr ⟨_, sounds⟩
      unfold clearVoice
      dsimp only
      rw [if_pos ⟨active, by omega⟩, Finset.card_erase_of_mem sounds, counted]
    case released =>
      intro other
      by_cases same : other = slot
      · rw [clearVoice_voices, same, Function.update_self]
      · rw [clearVoice_voices, Function.update_of_ne same]
        exact plays.released other
    case channels =>
      intro other item holds
      by_cases same : other = slot
      · rw [clearVoice_voices, same, Function.update_self] at holds
        cases holds
      · rw [clearVoice_voices, Function.update_of_ne same] at holds
        exact plays.channels other item holds
    case lodged => exact fun key member => plays.lodged key (Finset.mem_of_mem_erase member)

/-- A key that does not sound, on a lane of its own, is not in use. -/
theorem not_in_use (fresh : event.name ∉ held) (lodged : Lodged laned event.name)
    (alone : laned = true → ∀ key ∈ held, key.2 ≠ event.voiceId) :
    identityInUse ledger event = false := by
  have sounds : ∀ slot, (ledger.voices slot).occupied = true →
      ((ledger.voices slot).note, (ledger.voices slot).voiceId) ∈ held := by
    intro slot occupied
    rw [← plays.mem_names]
    refine Multiset.mem_map.mpr ⟨_, mem_soundingNotes.mpr ⟨slot, sounding_eq_some.mpr
      ⟨occupied, rfl⟩⟩, rfl⟩
  unfold identityInUse
  rw [Bool.or_eq_false_iff]
  constructor
  · rw [Option.isSome_eq_false_iff, Option.isNone_iff_eq_none]
    refine firstSlot_eq_none.mpr fun slot => Bool.eq_false_iff.mpr fun holds => fresh ?_
    unfold GeneratedNoteLedger.holds at holds
    rw [Bool.and_eq_true, Bool.and_eq_true, decide_eq_true_eq] at holds
    obtain ⟨⟨occupied, note⟩, voice⟩ := holds
    have same : (ledger.voices slot).voiceId = event.voiceId := by
      rcases lodged.valid with unassigned | lane
      · change event.voiceId = unassignedVoiceId at unassigned
        rw [unassigned, if_neg (by decide), decide_eq_true_eq] at voice
        rw [voice, unassigned]
      · change event.voiceId < maxVoices at lane
        rw [if_pos lane, decide_eq_true_eq] at voice
        exact voice
    have member := sounds slot occupied
    rw [note, same] at member
    exact member
  · by_cases lane : event.voiceId < maxVoices
    · rw [decide_eq_true lane, Bool.true_and, List.any_eq_false]
      intro slot _ both
      rw [Bool.and_eq_true, decide_eq_true_eq] at both
      have with_lanes : laned = true := by
        by_contra without
        have unassigned : event.voiceId = unassignedVoiceId := by
          unfold Lodged at lodged
          rwa [if_neg without] at lodged
        rw [unassigned] at lane
        exact absurd lane (by decide)
      exact alone with_lanes _ (sounds slot both.1) both.2
    · rw [decide_eq_false lane, Bool.false_and]

/-- The channel that a key gets. A lane has a channel of its own, as the lanes are fewer than the
channels. -/
theorem allocateChannel_valid (started : 1 ≤ startChannel ∧ startChannel ≤ 16)
    (routed : laned = true → routing = .perVoice) (lodged : Lodged laned event.name)
    (alone : laned = true → ∀ key ∈ held, key.2 ≠ event.voiceId)
    {free : Fin maxVoices} (unoccupied : (ledger.voices free).occupied = false) :
    validChannel (ledger.allocateChannel routing startChannel event) = true ∧
      (laned = true →
        ledger.allocateChannel routing startChannel event =
          laneChannel startChannel event.voiceId) := by
  have ranges : ∀ lane, validChannel (laneChannel startChannel lane) = true := by
    intro lane
    have range := laneChannel_range startChannel lane
    unfold validChannel
    rw [decide_eq_true range.1, decide_eq_true range.2]
    rfl
  unfold allocateChannel
  rw [if_neg (by omega)]
  cases laned with
  | true =>
      have lane : event.voiceId < maxVoices := lodged
      rw [routed rfl]
      dsimp only
      have unused : ledger.channelUsed (laneChannel startChannel event.voiceId) = false := by
        unfold channelUsed
        rw [List.any_eq_false]
        intro slot _ both
        rw [Bool.and_eq_true, decide_eq_true_eq] at both
        have sounding := sounding_eq_some.mpr ⟨both.1, rfl⟩
        have key : ((ledger.voices slot).note, (ledger.voices slot).voiceId) ∈ held := by
          rw [← plays.mem_names]
          exact Multiset.mem_map.mpr ⟨_, mem_soundingNotes.mpr ⟨slot, sounding⟩, rfl⟩
        have own := (plays.channels slot _ sounding).2 rfl
        have other : (ledger.voices slot).voiceId < maxVoices := plays.lodged _ key
        exact alone rfl _ key (laneChannel_injective other lane (own.symm.trans both.2))
      rw [if_pos lane, if_neg (ne_true_of_eq_false unused)]
      exact ⟨ranges _, fun _ => rfl⟩
  | false =>
      refine ⟨?_, fun with_lanes => Bool.noConfusion with_lanes⟩
      have unassigned : event.voiceId = unassignedVoiceId := lodged
      cases routing with
      | single =>
          unfold validChannel
          rw [decide_eq_true started.1, decide_eq_true started.2]
          rfl
      | perVoice =>
          dsimp only
          rw [unassigned, if_neg (by decide)]
          obtain ⟨lane, member, unused⟩ := @lane_unused startChannel ledger free unoccupied
          cases found : (List.range maxVoices).find? fun slot =>
              !ledger.channelUsed (laneChannel startChannel slot) with
          | some slot => exact ranges slot
          | none =>
              have used := List.find?_eq_none.mp found lane member
              rw [unused] at used
              exact absurd rfl used

/-- A note-on for a key that does not sound is taken while a slot is free, on a lane of its own. -/
theorem takeOn (opens : event.kind = .noteOn)
    (started : 1 ≤ startChannel ∧ startChannel ≤ 16)
    (routed : laned = true → routing = .perVoice) (fresh : event.name ∉ held)
    (lodged : Lodged laned event.name)
    (alone : laned = true → ∀ key ∈ held, key.2 ≠ event.voiceId) (room : held.card < maxVoices) :
    ∃ channel next, takeEvent routing startChannel ledger event = some (channel, next) ∧
      Plays laned startChannel (insert event.name held) next := by
  obtain ⟨slot, found, unoccupied⟩ := plays.findFreeVoice_of_room room
  obtain ⟨valid, placed⟩ :=
    plays.allocateChannel_valid started routed lodged alone unoccupied
  refine ⟨ledger.allocateChannel routing startChannel event,
    occupyVoice slot event (ledger.allocateChannel routing startChannel event) ledger, ?_, ?_⟩
  · unfold takeEvent
    rw [opens]
    dsimp only
    rw [if_neg, found, Option.bind_some, if_pos valid]
    rw [plays.not_in_use fresh lodged alone, plays.counted]
    exact fun refused => refused.elim Bool.noConfusion (not_le.mpr room)
  · constructor
    case names =>
      have notes : (occupyVoice slot event (ledger.allocateChannel routing startChannel event)
          ledger).soundingNotes = ⟨event.note, event.voiceId,
            ledger.allocateChannel routing startChannel event⟩ ::ₘ ledger.soundingNotes :=
        heldKeys_fill (sounding_eq_none.mpr unoccupied) rfl
      rw [GeneratedNoteLedger.names, notes, Multiset.map_cons,
        Finset.insert_val_of_notMem fresh, ← plays.names]
      rfl
    case counted =>
      change ledger.activeCount + 1 = _
      rw [Finset.card_insert_of_notMem fresh, plays.counted]
    case released =>
      intro other
      by_cases same : other = slot
      · rw [occupyVoice_voices, same, Function.update_self]
      · rw [occupyVoice_voices, Function.update_of_ne same]
        exact plays.released other
    case channels =>
      intro other item holds
      by_cases same : other = slot
      · rw [occupyVoice_voices, same, Function.update_self] at holds
        obtain ⟨-, rfl⟩ := sounding_eq_some.mp holds
        exact ⟨valid, placed⟩
      · rw [occupyVoice_voices, Function.update_of_ne same] at holds
        exact plays.channels other item holds
    case lodged =>
      intro key member
      rcases Finset.mem_insert.mp member with rfl | old
      · exact lodged
      · exact plays.lodged key old

end Plays

/-- A list in which nothing of one kind comes after something of the other. -/
theorem filter_append_filter {Item : Type*} {first second : Item → Bool}
    (others : ∀ item, second item = !first item) {items : List Item}
    (sorted : items.Pairwise fun earlier later => first later = true → first earlier = true) :
    items = items.filter first ++ items.filter second := by
  induction items with
  | nil => rfl
  | cons item items ih =>
      obtain ⟨below, rest⟩ := List.pairwise_cons.mp sorted
      cases kind : first item with
      | true =>
          have other : second item = false := by rw [others, kind]; rfl
          rw [List.filter_cons_of_pos kind, List.filter_cons_of_neg (ne_true_of_eq_false other),
            List.cons_append, ← ih rest]
      | false =>
          have other : second item = true := by rw [others, kind]; rfl
          have none : items.filter first = [] := by
            apply List.filter_eq_nil_iff.mpr
            intro later member holds
            exact ne_true_of_eq_false kind (below later member holds)
          have all : items.filter second = items := by
            apply List.filter_eq_self.mpr
            intro later member
            rw [others, Bool.not_eq_true']
            refine (Bool.not_eq_true _).mp fun holds => ?_
            exact ne_true_of_eq_false kind (below later member holds)
          rw [List.filter_cons_of_neg (ne_true_of_eq_false kind), List.filter_cons_of_pos other,
            none, all, List.nil_append]

/-- The names that transitions of one kind are about. -/
def namesOf (kind : TransitionKind) (transitions : List VoiceTransition) : Multiset (ℕ × ℕ) :=
  ((transitions.filter fun transition => transition.kind = kind).map VoiceTransition.name :
    List (ℕ × ℕ))

namespace Plays

/-- Note-offs for keys that sound, each once, are taken one after the other. -/
theorem takeOffs (plays : Plays laned startChannel held ledger) {offs : List VoiceTransition}
    (close : ∀ off ∈ offs, off.kind = .noteOff) (once : (offs.map VoiceTransition.name).Nodup)
    (sound : ∀ off ∈ offs, off.name ∈ held) :
    ∃ next, (takeEvents routing startChannel offs ledger).2 = some next ∧
      Plays laned startChannel (held \ (offs.map VoiceTransition.name).toFinset) next := by
  induction offs generalizing ledger held with
  | nil => exact ⟨ledger, rfl, by rwa [List.map_nil, List.toFinset_nil, Finset.sdiff_empty]⟩
  | cons off offs ih =>
      obtain ⟨channel, middle, taken, left⟩ := @takeOff _ routing _ _ _ off plays
        (close off List.mem_cons_self) (sound off List.mem_cons_self)
      rw [List.map_cons, List.nodup_cons] at once
      have still : ∀ other ∈ offs, other.name ∈ held.erase off.name := by
        intro other member
        refine Finset.mem_erase.mpr ⟨?_, sound other (List.mem_cons_of_mem off member)⟩
        intro same
        exact once.1 (same ▸ List.mem_map_of_mem member)
      obtain ⟨next, rest, plays_next⟩ := ih left
        (fun other member => close other (List.mem_cons_of_mem off member)) once.2 still
      refine ⟨next, ?_, ?_⟩
      · rw [takeEvents, taken]
        exact rest
      · rw [List.map_cons, List.toFinset_cons, Finset.sdiff_insert, ← Finset.erase_sdiff_comm]
        exact plays_next

/-- Note-ons for keys that do not sound, each once, are taken one after the other while there is
room, each on a lane of its own. -/
theorem takeOns (plays : Plays laned startChannel held ledger)
    (started : 1 ≤ startChannel ∧ startChannel ≤ 16)
    (routed : laned = true → routing = .perVoice) {ons : List VoiceTransition}
    (opens : ∀ on ∈ ons, on.kind = .noteOn) (once : (ons.map VoiceTransition.name).Nodup)
    (fresh : ∀ on ∈ ons, on.name ∉ held) (lodged : ∀ on ∈ ons, Lodged laned on.name)
    (apart : LanesApart laned (held ∪ (ons.map VoiceTransition.name).toFinset))
    (room : held.card + ons.length ≤ maxVoices) :
    ∃ next, (takeEvents routing startChannel ons ledger).2 = some next ∧
      Plays laned startChannel (held ∪ (ons.map VoiceTransition.name).toFinset) next := by
  induction ons generalizing ledger held with
  | nil => exact ⟨ledger, rfl, by rwa [List.map_nil, List.toFinset_nil, Finset.union_empty]⟩
  | cons on ons ih =>
      rw [List.map_cons, List.nodup_cons] at once
      rw [List.length_cons] at room
      have own := fresh on List.mem_cons_self
      have union : held ∪ ((on :: ons).map VoiceTransition.name).toFinset =
          insert on.name held ∪ (ons.map VoiceTransition.name).toFinset := by
        rw [List.map_cons, List.toFinset_cons, Finset.union_insert, Finset.insert_union]
      have alone : laned = true → ∀ key ∈ held, key.2 ≠ on.voiceId := by
        intro with_lanes key member same
        have equal := apart with_lanes (Finset.mem_coe.mpr (Finset.mem_union_left _ member))
          (Finset.mem_coe.mpr (Finset.mem_union_right held (List.mem_toFinset.mpr
            (List.mem_map_of_mem List.mem_cons_self)))) same
        rw [equal] at member
        exact own member
      obtain ⟨channel, middle, taken, played⟩ := @takeOn _ routing _ _ _ on plays
        (opens on List.mem_cons_self) started routed own (lodged on List.mem_cons_self) alone
        (by omega)
      have still : ∀ other ∈ ons, other.name ∉ insert on.name held := by
        intro other member inside
        rcases Finset.mem_insert.mp inside with same | old
        · exact once.1 (same ▸ List.mem_map_of_mem member)
        · exact fresh other (List.mem_cons_of_mem on member) old
      have left : (insert on.name held).card + ons.length ≤ maxVoices := by
        rw [Finset.card_insert_of_notMem own]
        omega
      rw [union] at apart ⊢
      obtain ⟨next, rest, plays_next⟩ := ih played
        (fun other member => opens other (List.mem_cons_of_mem on member)) once.2 still
        (fun other member => lodged other (List.mem_cons_of_mem on member)) apart left
      refine ⟨next, ?_, plays_next⟩
      rw [takeEvents, taken]
      exact rest

end Plays

/-- The queue of a decision holds its transitions, the note-offs first. The insertion sorts by
offset and kind, and all transitions of a decision have one offset. -/
theorem tickQueue_split (transitions : List VoiceTransition) :
    ∃ offs ons, tickQueue 0 transitions [] = offs ++ ons ∧
      (∀ off ∈ offs, off.kind = .noteOff) ∧ (∀ on ∈ ons, on.kind = .noteOn) ∧
      (offs.map VoiceTransition.name : Multiset (ℕ × ℕ)) = namesOf .noteOff transitions ∧
      (ons.map VoiceTransition.name : Multiset (ℕ × ℕ)) = namesOf .noteOn transitions := by
  have inserted : tickQueue 0 transitions [] =
      insertAll transitionBefore (transitions.map (·.atOffset 0)) := by
    rw [insertAll, List.foldl_map]
    rfl
  have sorted := @insertAll_stablySorted _ _ _ _ VoiceTransition.place
    (fun left right => @transitionBefore_iff left right) (transitions.map (·.atOffset 0))
  rw [← inserted] at sorted
  have unplaced : ∀ event ∈ tickQueue 0 transitions [], event.sampleOffset = 0 := by
    intro event member
    rcases mem_tickQueue member with none | ⟨transition, -, rfl⟩
    · cases none
    · rfl
  have split : tickQueue 0 transitions [] =
      (tickQueue 0 transitions []).filter (fun event => event.kind = .noteOff) ++
        (tickQueue 0 transitions []).filter fun event => event.kind = .noteOn := by
    refine filter_append_filter ?_ (sorted.ordered.imp_of_mem ?_)
    · intro event
      cases event.kind <;> rfl
    · intro earlier later here there ordered closing
      rw [decide_eq_true_eq] at closing ⊢
      by_contra opening
      have opens : earlier.kind = .noteOn := by
        cases kind : earlier.kind with
        | noteOff => exact absurd kind opening
        | noteOn => rfl
      have before : transitionBefore later earlier = true := by
        unfold transitionBefore
        rw [unplaced earlier here, unplaced later there, if_neg (not_not.mpr rfl), opens, closing]
        rfl
      exact not_lt.mpr ordered (transitionBefore_iff.mp before)
  have names (kind : TransitionKind) : (((tickQueue 0 transitions []).filter
      fun event => event.kind = kind).map VoiceTransition.name : Multiset (ℕ × ℕ)) =
        namesOf kind transitions := by
    have same := ((sorted.perm.filter fun event => event.kind = kind).map VoiceTransition.name)
    rw [List.filter_map, List.map_map] at same
    exact Multiset.coe_eq_coe.mpr same
  refine ⟨_, _, split, ?_, ?_, names .noteOff, names .noteOn⟩
  · intro off member
    exact of_decide_eq_true (List.mem_filter.mp member).2
  · intro on member
    exact of_decide_eq_true (List.mem_filter.mp member).2

/-- **A decision is taken as a whole.** A ledger that sounds some keys takes the transitions of a
decision that closes some of these and opens others, each once, and then sounds what is left, as
long as that fits the slots and no two keys share a lane. -/
theorem Plays.tick {before after : Finset (ℕ × ℕ)}
    (plays : Plays laned startChannel before ledger)
    (started : 1 ≤ startChannel ∧ startChannel ≤ 16)
    (routed : laned = true → routing = .perVoice) {transitions : List VoiceTransition}
    (closedOnce : (namesOf .noteOff transitions).Nodup)
    (closed : ∀ name ∈ namesOf .noteOff transitions, name ∈ before)
    (openedOnce : (namesOf .noteOn transitions).Nodup)
    (opened : ∀ name ∈ namesOf .noteOn transitions, name ∈ before →
      name ∈ namesOf .noteOff transitions)
    (changed : ∀ name, name ∈ after ↔
      (name ∈ before ∧ name ∉ namesOf .noteOff transitions) ∨
        name ∈ namesOf .noteOn transitions)
    (lodged : ∀ key ∈ after, Lodged laned key) (apart : LanesApart laned after)
    (room : after.card ≤ maxVoices) :
    ∃ next, (takeEvents routing startChannel (tickQueue 0 transitions []) ledger).2 = some next ∧
      Plays laned startChannel after next := by
  obtain ⟨offs, ons, split, closing, opening, closes, opens⟩ := tickQueue_split transitions
  rw [← closes] at closedOnce closed opened changed
  rw [← opens] at openedOnce opened changed
  have offsOnce := Multiset.coe_nodup.mp closedOnce
  have onsOnce := Multiset.coe_nodup.mp openedOnce
  obtain ⟨middle, first, left⟩ := @Plays.takeOffs _ routing _ _ _ plays offs closing offsOnce
    (fun off member => closed _ (Multiset.mem_coe.mpr (List.mem_map_of_mem member)))
  have reached : before \ (offs.map VoiceTransition.name).toFinset ∪
      (ons.map VoiceTransition.name).toFinset = after := by
    ext name
    rw [Finset.mem_union, Finset.mem_sdiff, List.mem_toFinset, List.mem_toFinset, changed name,
      Multiset.mem_coe, Multiset.mem_coe]
  have fresh : ∀ on ∈ ons, on.name ∉ before \ (offs.map VoiceTransition.name).toFinset := by
    intro on member inside
    obtain ⟨held, kept⟩ := Finset.mem_sdiff.mp inside
    have gone := opened _ (Multiset.mem_coe.mpr (List.mem_map_of_mem member)) held
    exact kept (List.mem_toFinset.mpr (Multiset.mem_coe.mp gone))
  have sizes : (before \ (offs.map VoiceTransition.name).toFinset).card + ons.length ≤
      maxVoices := by
    have disjoint : Disjoint (before \ (offs.map VoiceTransition.name).toFinset)
        (ons.map VoiceTransition.name).toFinset := by
      rw [Finset.disjoint_right]
      intro name member
      obtain ⟨on, there, rfl⟩ := List.mem_map.mp (List.mem_toFinset.mp member)
      exact fresh on there
    have card := Finset.card_union_of_disjoint disjoint
    rw [reached, List.toFinset_card_of_nodup onsOnce, List.length_map] at card
    omega
  rw [← reached] at lodged apart ⊢
  obtain ⟨next, second, played⟩ := left.takeOns started routed opening onsOnce fresh
    (fun on member => lodged _ (Finset.mem_union_right _ (List.mem_toFinset.mpr
      (List.mem_map_of_mem member)))) apart sizes
  refine ⟨next, ?_, played⟩
  rw [split, takeEvents_append first]
  exact second

end GeneratedNoteLedger

end M3Midi
