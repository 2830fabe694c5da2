import M3Midi.Detector.MakeDecision
import M3Midi.Foundation.HeldFamily

/-! # The keys of the voices

A voice has its note out on each of its lanes, or once without a lane; these are its keys. Every
operation on a candidate closes the keys its voice loses and opens the keys it gains, each once
(`M3Midi.CandidateDecision.Emits`).
-/

namespace M3Midi

open Foundation LaneMask

/-- A note and the lane it is out on. -/
abbrev VoiceKey := ℕ × ℕ

/-- The key of a transition: its note and its lane. -/
def AppendedTransition.key (appended : AppendedTransition) : VoiceKey :=
  (appended.note, appended.voiceId)

/-- The keys that transitions of one kind are about. -/
def keysOf (kind : TransitionKind) (appended : List AppendedTransition) : Multiset VoiceKey :=
  ((appended.filter fun transition => transition.kind = kind).map AppendedTransition.key :
    List VoiceKey)

section KeysOf

variable {kind : TransitionKind} {first second appended : List AppendedTransition}

@[simp] theorem keysOf_nil : keysOf kind [] = 0 := rfl

/-- The keys of two lists of transitions are those of both together. -/
theorem keysOf_append : keysOf kind (first ++ second) = keysOf kind first + keysOf kind second := by
  unfold keysOf
  rw [List.filter_append, List.map_append, Multiset.coe_add]

/-- The keys of a list, one transition after the other. -/
theorem keysOf_cons (transition : AppendedTransition) :
    keysOf kind (transition :: appended) =
      (if transition.kind = kind then {transition.key} else 0) + keysOf kind appended := by
  unfold keysOf
  by_cases same : transition.kind = kind
  · rw [if_pos same, List.filter_cons, decide_eq_true same, if_pos rfl, List.map_cons,
      Multiset.singleton_add, Multiset.cons_coe]
  · rw [if_neg same, zero_add, List.filter_cons, decide_eq_false same, if_neg Bool.false_ne_true]

/-- Transitions that are all of one kind. -/
theorem keysOf_map {Source : Type*} (sources : List Source) (make : Source → AppendedTransition)
    (all : ∀ source, (make source).kind = kind) :
    keysOf kind (sources.map make) = (sources.map fun source => (make source).key : List VoiceKey) := by
  unfold keysOf
  rw [List.filter_eq_self.mpr, List.map_map]
  · rfl
  · intro transition member
    obtain ⟨source, -, rfl⟩ := List.mem_map.mp member
    exact decide_eq_true (all source)

/-- Transitions of the other kind contribute no keys. -/
theorem keysOf_map_other {Source : Type*} (sources : List Source)
    (make : Source → AppendedTransition) (none : ∀ source, (make source).kind ≠ kind) :
    keysOf kind (sources.map make) = 0 := by
  unfold keysOf
  rw [List.filter_eq_nil_iff.mpr]
  · rfl
  · intro transition member
    obtain ⟨source, -, rfl⟩ := List.mem_map.mp member
    rw [decide_eq_true_eq]
    exact none source

/-- Transitions that come in pairs of an off and an on. -/
theorem keysOf_flatMap {Source : Type*} (sources : List Source)
    (off on : Source → AppendedTransition) (closes : ∀ source, (off source).kind = .noteOff)
    (opens : ∀ source, (on source).kind = .noteOn) :
    keysOf .noteOff (sources.flatMap fun source => [off source, on source]) =
        (sources.map fun source => (off source).key : List VoiceKey) ∧
      keysOf .noteOn (sources.flatMap fun source => [off source, on source]) =
        (sources.map fun source => (on source).key : List VoiceKey) := by
  induction sources with
  | nil => exact ⟨rfl, rfl⟩
  | cons source sources ih =>
      obtain ⟨closed, opened⟩ := ih
      rw [List.flatMap_cons, keysOf_append, keysOf_append, closed, opened]
      have own : keysOf .noteOff [off source, on source] = {(off source).key} ∧
          keysOf .noteOn [off source, on source] = {(on source).key} := by
        constructor
        · rw [keysOf_cons, keysOf_cons, if_pos (closes source), if_neg, keysOf_nil]
          · rfl
          · rw [opens source]
            exact TransitionKind.noConfusion
        · rw [keysOf_cons, keysOf_cons, if_neg, if_pos (opens source), keysOf_nil, zero_add,
            add_zero]
          rw [closes source]
          exact TransitionKind.noConfusion
      rw [own.1, own.2]
      exact ⟨rfl, rfl⟩

/-- Every transition is of one of the kinds. -/
theorem length_eq_card : appended.length =
    (keysOf .noteOff appended).card + (keysOf .noteOn appended).card := by
  induction appended with
  | nil => rfl
  | cons transition appended ih =>
      rw [List.length_cons, ih, keysOf_cons, keysOf_cons, Multiset.card_add, Multiset.card_add]
      cases transition.kind with
      | noteOff =>
          rw [if_pos rfl, if_neg TransitionKind.noConfusion, Multiset.card_singleton,
            Multiset.card_zero]
          omega
      | noteOn =>
          rw [if_pos rfl, if_neg TransitionKind.noConfusion, Multiset.card_singleton,
            Multiset.card_zero]
          omega

end KeysOf

/-- The strings of a mask are those whose bit is set. -/
theorem mem_stringsOf {mask : StringMask} {string : Fin maxVoices} :
    string ∈ stringsOf mask ↔ mask.getLsbD string = true := by
  unfold stringsOf
  rw [List.mem_filter]
  exact and_iff_right (List.mem_finRange string)

/-- No string is listed twice. -/
theorem nodup_stringsOf (mask : StringMask) : (stringsOf mask).Nodup :=
  (List.nodup_finRange maxVoices).filter _

/-- As a multiset, they are the lanes of the mask. -/
theorem stringsOf_val (mask : StringMask) :
    (stringsOf mask : Multiset (Fin maxVoices)) = (lanes mask).val := by
  apply (Multiset.Nodup.ext (Multiset.coe_nodup.mpr (nodup_stringsOf mask))
    (lanes mask).nodup).mpr
  intro string
  exact mem_stringsOf.trans mem_lanes_iff_getLsbD.symm

/-- There are as many as the mask has bits. -/
theorem length_stringsOf (mask : StringMask) : (stringsOf mask).length = stringCount mask := by
  have card := congrArg Multiset.card (stringsOf_val mask)
  rw [stringCount_eq]
  exact card

/-- A note on the lanes of a mask. -/
def laneKeys (note : ℕ) (mask : StringMask) : Finset VoiceKey :=
  (lanes mask).map ⟨fun lane : Fin 8 => (note, (lane : ℕ)),
    fun _ _ same => Fin.ext (congrArg Prod.snd same)⟩

/-- The keys of a note on a mask are that note on each of the mask's lanes. -/
theorem mem_laneKeys {note : ℕ} {mask : StringMask} {key : VoiceKey} :
    key ∈ laneKeys note mask ↔ key.1 = note ∧ ∃ lane ∈ lanes mask, key.2 = (lane : ℕ) := by
  unfold laneKeys
  rw [Finset.mem_map]
  constructor
  · intro ⟨lane, member, same⟩
    subst same
    exact ⟨rfl, lane, member, rfl⟩
  · intro ⟨note, lane, member, same⟩
    exact ⟨lane, member, Prod.ext note.symm same.symm⟩

/-- As a list, they follow the strings of the mask. -/
theorem val_laneKeys (note : ℕ) (mask : StringMask) :
    (laneKeys note mask).val = (((stringsOf mask).map fun lane : Fin maxVoices =>
      (note, (lane : ℕ))) : List VoiceKey) := by
  unfold laneKeys
  rw [Finset.map_val, ← stringsOf_val]
  rfl

/-- Note-offs on the lanes of a mask. -/
theorem keysOf_offLanes (note : ℕ) (mask : StringMask) :
    keysOf .noteOff ((stringsOf mask).map fun string : Fin maxVoices =>
        { kind := .noteOff, note := note, voiceId := string }) = (laneKeys note mask).val ∧
      keysOf .noteOn ((stringsOf mask).map fun string : Fin maxVoices =>
        { kind := .noteOff, note := note, voiceId := string }) = 0 := by
  constructor
  · rw [val_laneKeys]
    exact keysOf_map _ _ fun _ => rfl
  · apply keysOf_map_other
    intro string
    exact TransitionKind.noConfusion

/-- Note-ons on the lanes of a mask. -/
theorem keysOf_onLanes (note velocity : ℕ) (mask : StringMask) :
    keysOf .noteOn ((stringsOf mask).map fun string : Fin maxVoices =>
        { kind := .noteOn, note := note, velocity := velocity, voiceId := string }) =
        (laneKeys note mask).val ∧
      keysOf .noteOff ((stringsOf mask).map fun string : Fin maxVoices =>
        { kind := .noteOn, note := note, velocity := velocity, voiceId := string }) = 0 := by
  constructor
  · rw [val_laneKeys]
    exact keysOf_map _ _ fun _ => rfl
  · apply keysOf_map_other
    intro string
    exact TransitionKind.noConfusion

/-- The lanes of one note that another mask leaves out. -/
theorem laneKeys_sdiff (note : ℕ) (first second : StringMask) :
    laneKeys note first \ laneKeys note second = laneKeys note (first &&& ~~~second) := by
  unfold laneKeys
  rw [← Finset.map_sdiff, lanes_and, lanes_not, Finset.sdiff_eq_inter_compl]

/-- Different notes share no key, whatever their lanes are. -/
theorem laneKeys_sdiff_of_ne {note other : ℕ} (different : note ≠ other)
    (first second : StringMask) :
    laneKeys note first \ laneKeys other second = laneKeys note first := by
  apply Finset.sdiff_eq_self_of_disjoint
  rw [Finset.disjoint_left]
  intro key member also
  exact different ((mem_laneKeys.mp member).1.symm.trans (mem_laneKeys.mp also).1)

section Voices

variable {count : ℕ} (detector : DetectorConfiguration) (candidate : Fin count)

/-- The note that a voice has out. -/
def outputNote (state : CandidateState) : ℕ :=
  if state.emittedNote < 128 then state.emittedNote
  else CandidateDecision.detectedNote detector candidate

/-- The keys of a candidate's voice. -/
def voiceKeys (state : CandidateState) : Finset VoiceKey :=
  if state.active = false then ∅
  else if detector.laned then laneKeys (outputNote detector candidate state) state.midiVoiceMask
  else {(outputNote detector candidate state, unassignedVoiceId)}

variable {detector candidate} {state : CandidateState}

/-- A voice that does not sound has no keys. -/
theorem voiceKeys_inactive (silent : state.active = false) :
    voiceKeys detector candidate state = ∅ := if_pos silent

/-- With lanes, a voice has one key for each of its lanes. -/
theorem voiceKeys_laned (laned : detector.laned = true) (sounds : state.active = true) :
    voiceKeys detector candidate state =
      laneKeys (outputNote detector candidate state) state.midiVoiceMask := by
  unfold voiceKeys
  rw [if_neg (ne_false_of_eq_true sounds), if_pos laned]

/-- Without lanes it has one key. -/
theorem voiceKeys_single (single : detector.laned = false) (sounds : state.active = true) :
    voiceKeys detector candidate state =
      {(outputNote detector candidate state, unassignedVoiceId)} := by
  unfold voiceKeys
  rw [if_neg (ne_false_of_eq_true sounds),
    if_neg (ne_true_of_eq_false single)]

/-- The keys of a voice depend on its note and lanes only. -/
theorem voiceKeys_congr {other : CandidateState} (active : other.active = state.active)
    (note : other.emittedNote = state.emittedNote)
    (lanes : other.midiVoiceMask = state.midiVoiceMask) :
    voiceKeys detector candidate other = voiceKeys detector candidate state := by
  unfold voiceKeys outputNote
  rw [active, note, lanes]

/-- Without lanes a voice has one key at most. -/
theorem card_voiceKeys_single (single : detector.laned = false) (state : CandidateState) :
    (voiceKeys detector candidate state).card = if state.active then 1 else 0 := by
  cases sounds : state.active with
  | false => rw [voiceKeys_inactive sounds, Finset.card_empty, if_neg Bool.false_ne_true]
  | true => rw [voiceKeys_single single sounds, Finset.card_singleton, if_pos rfl]

end Voices

end M3Midi
