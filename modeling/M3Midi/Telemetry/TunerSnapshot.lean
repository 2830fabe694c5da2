import M3Midi.Types
import Mathlib.Data.BitVec
import Mathlib.Data.Fintype.Pi
import Mathlib.Data.Rat.Floor
import Mathlib.Tactic.IntervalCases
import Mathlib.Tactic.Linarith

/-! # Tuner snapshots and their words

A snapshot lists the voices that the detector hears. It travels as one header word
and three words a voice, into which values out of range are clamped: a reader that
unpacks the words of a snapshot obtains the clamped snapshot.
-/

namespace M3Midi

/-- What the tuner shows of the whole input: it is not available, it has no signal, or it follows
voices. -/
inductive TunerFrameState
  | unavailable
  | noSignal
  | tracking
  deriving DecidableEq, Repr

/-- What the tuner shows of a voice: it has just begun, it goes on without being selected, or it is
followed. -/
inductive TunerVoiceState
  | settling
  | coasting
  | tracking
  deriving DecidableEq, Repr

/-- The number under which a frame's state is packed. -/
def TunerFrameState.toNat : TunerFrameState → Nat
  | .unavailable => 0
  | .noSignal => 1
  | .tracking => 2

/-- The number under which a voice's state is packed. -/
def TunerVoiceState.toNat : TunerVoiceState → Nat
  | .settling => 0
  | .coasting => 1
  | .tracking => 2

/-- `kUnassignedTunerString`. -/
def unassignedTunerString : BitVec 8 := 0xFF

/-- `kUnassignedPitchEvidenceGroup`. -/
def unassignedPitchEvidenceGroup : BitVec 8 := 0

/-- Evidence groups are numbered up to the number of candidates (`kMaxCandidates`). -/
def maxEvidenceGroup : Nat := 87

/-- A voice as the detector hands it to the tuner. Cents and beats count in 256ths, the confidence
in 32768ths. -/
structure TunerVoice where
  midiNote : BitVec 8 := 0
  centsQ8 : BitVec 16 := 0
  confidenceQ15 : BitVec 16 := 0
  ageTicks : BitVec 16 := 0
  state : TunerVoiceState := .settling
  centsValid : Bool := false
  stringIndex : BitVec 8 := unassignedTunerString
  pitchEvidenceGroupId : BitVec 8 := unassignedPitchEvidenceGroup
  pitchEvidenceMemberMask : BitVec 8 := 0
  beatHzQ8 : BitVec 16 := 0
  deriving DecidableEq

/-- What the detector hands to the tuner at once: the state of the input, and its voices in their
order. -/
structure TunerSnapshot where
  generation : BitVec 32 := 0
  state : TunerFrameState := .unavailable
  voiceCount : BitVec 8 := 0
  maxPolyphony : BitVec 8 := 1
  inputPeakQ15 : BitVec 16 := 0
  voices : Fin maxVoices → TunerVoice := fun _ => {}
  deriving DecidableEq

/-- `kCentsValidBit`, bit 10 of a voice's first word. -/
def centsValidBit : BitVec 32 := 0x400

/-- `kStringValidBit`, bit 11. -/
def stringValidBit : BitVec 32 := 0x800

/-- The lowest offset of a voice that is packed as it is (`kMinimumCentsQ8`). -/
def TunerVoice.minimumCentsQ8 : Int := -50 * 256

/-- The highest offset of a voice that is packed as it is (`kMaximumCentsQ8`). -/
def TunerVoice.maximumCentsQ8 : Int := 50 * 256

/-- The highest confidence that is packed as it is (`kMaximumConfidenceQ15`). -/
def maximumConfidenceQ15 : Nat := 32767

/-- The word of a full scale input peak (`kMaximumInputPeakQ15`). -/
def maximumInputPeakQ15 : Nat := 32767

section Packing

/-- `std::min` on a byte or a word. -/
def atMost {w : Nat} (bound : Nat) (value : BitVec w) : BitVec w :=
  if bound < value.toNat then BitVec.ofNat w bound else value

/-- The first word of a snapshot: the number of voices in its low byte, the state, and how many
voices there may be. -/
def packHeader (state : TunerFrameState) (voiceCount maxPolyphony : BitVec 8) : BitVec 32 :=
  let safeState := BitVec.ofNat 32 (min state.toNat TunerFrameState.tracking.toNat)
  let safeCount := BitVec.ofNat 32 (min voiceCount.toNat maxVoices)
  let safeMax := BitVec.ofNat 32 (max 1 (min maxPolyphony.toNat maxVoices))
  (safeMax <<< 16) ||| (safeState <<< 8) ||| safeCount

/-- The state in a first word. A number that stands for no state is read as not available. -/
def unpackFrameState (header : BitVec 32) : TunerFrameState :=
  match ((header >>> 8) &&& 0xFF).toNat with
  | 1 => .noSignal
  | 2 => .tracking
  | _ => .unavailable

/-- The number of voices in a first word, at most as many as there can be. -/
def unpackVoiceCount (header : BitVec 32) : BitVec 8 :=
  BitVec.ofNat 8 (min (header &&& 0x0F).toNat maxVoices)

/-- How many voices there may be, from a first word; at least one, and at most as many as there can
be. -/
def unpackMaxPolyphony (header : BitVec 32) : BitVec 8 :=
  BitVec.ofNat 8 (max 1 (min (header >>> 16).toNat maxVoices))

/-- An offset that is packed, brought into the range. -/
def clampCents (cents : BitVec 16) : BitVec 16 :=
  if cents.toInt < TunerVoice.minimumCentsQ8 then BitVec.ofInt 16 TunerVoice.minimumCentsQ8
  else if TunerVoice.maximumCentsQ8 < cents.toInt then BitVec.ofInt 16 TunerVoice.maximumCentsQ8
  else cents

namespace TunerVoice

variable (voice : TunerVoice)

/-- The voice names one of the strings. -/
def stringValid : Bool := voice.stringIndex.toNat < maxVoices

/-- The voice names a group of pitch evidence, and one that there can be. -/
def groupValid : Bool :=
  voice.pitchEvidenceGroupId ≠ unassignedPitchEvidenceGroup &&
    voice.pitchEvidenceGroupId.toNat ≤ maxEvidenceGroup

/-- The first word of a voice: its note, its state, two flags, its string and its offset. -/
def packVoiceA : BitVec 32 :=
  let safeState := BitVec.ofNat 32 (min voice.state.toNat TunerVoiceState.tracking.toNat)
  (atMost 127 voice.midiNote).setWidth 32 ||| (safeState <<< 8) |||
    (if voice.centsValid then centsValidBit else 0) |||
    (if voice.stringValid then stringValidBit else 0) |||
    (if voice.stringValid then voice.stringIndex.setWidth 32 <<< 12 else 0) |||
    ((clampCents voice.centsQ8).setWidth 32 <<< 16)

/-- The second word of a voice: its confidence and its age. -/
def packVoiceB : BitVec 32 :=
  (atMost maximumConfidenceQ15 voice.confidenceQ15).setWidth 32 |||
    (voice.ageTicks.setWidth 32 <<< 16)

/-- The third word of a voice: its group, the members of the group and the beat between them. -/
def packVoiceC : BitVec 32 :=
  let group := if voice.groupValid then voice.pitchEvidenceGroupId else unassignedPitchEvidenceGroup
  let members := if voice.groupValid then voice.pitchEvidenceMemberMask else 0
  group.setWidth 32 ||| (members.setWidth 32 <<< 8) ||| (voice.beatHzQ8.setWidth 32 <<< 16)

/-- The voice with its values clamped into their ranges. -/
def normalized : TunerVoice :=
  { voice with
    midiNote := atMost 127 voice.midiNote
    centsQ8 := clampCents voice.centsQ8
    confidenceQ15 := atMost maximumConfidenceQ15 voice.confidenceQ15
    stringIndex := if voice.stringValid then voice.stringIndex else unassignedTunerString
    pitchEvidenceGroupId :=
      if voice.groupValid then voice.pitchEvidenceGroupId else unassignedPitchEvidenceGroup
    pitchEvidenceMemberMask := if voice.groupValid then voice.pitchEvidenceMemberMask else 0 }

end TunerVoice

/-- The voice in three words. What is not marked valid is read as its default. -/
def unpackVoice (wordA wordB wordC : BitVec 32) : TunerVoice where
  midiNote := (wordA &&& 0xFF).setWidth 8
  state :=
    match ((wordA >>> 8) &&& 0x03).toNat with
    | 1 => .coasting
    | 2 => .tracking
    | _ => .settling
  centsValid := wordA &&& centsValidBit ≠ 0
  stringIndex :=
    if wordA &&& stringValidBit ≠ 0 then ((wordA >>> 12) &&& 0x07).setWidth 8
    else unassignedTunerString
  centsQ8 := (wordA >>> 16).setWidth 16
  confidenceQ15 := (wordB &&& 0xFFFF).setWidth 16
  ageTicks := (wordB >>> 16).setWidth 16
  pitchEvidenceGroupId := (wordC &&& 0xFF).setWidth 8
  pitchEvidenceMemberMask := ((wordC >>> 8) &&& 0xFF).setWidth 8
  beatHzQ8 := (wordC >>> 16).setWidth 16

end Packing

/-! ## Words and back

Every field of a word is read back from its own bits. -/

namespace TunerVoice
variable (voice : TunerVoice)

/-- The note is read back from the first word, brought into the range of notes. -/
theorem midi_packVoiceA :
    (voice.packVoiceA &&& 0xFF).setWidth 8 = atMost 127 voice.midiNote := by
  refine BitVec.eq_of_getLsbD_eq fun bit inside => ?_
  rw [TunerVoice.packVoiceA]
  cases voice.centsValid <;> cases voice.stringValid <;> interval_cases bit <;>
    simp [centsValidBit, stringValidBit]

/-- The number of the voice's state is read back from the first word. -/
theorem state_packVoiceA :
    ((voice.packVoiceA >>> 8) &&& 0x03).setWidth 2 = BitVec.ofNat 2 voice.state.toNat := by
  refine BitVec.eq_of_getLsbD_eq fun bit inside => ?_
  rw [TunerVoice.packVoiceA]
  cases voice.centsValid <;> cases voice.stringValid <;> cases voice.state <;>
    interval_cases bit <;> simp [centsValidBit, stringValidBit, TunerVoiceState.toNat]

/-- The flag of the offset, wherever it is set in a word, is bit 10. -/
theorem and_centsValidBit (word : BitVec 32) :
    word &&& centsValidBit ≠ 0 ↔ word.getLsbD 10 = true := by
  rw [show centsValidBit = BitVec.twoPow 32 10 from rfl, BitVec.and_twoPow]
  cases word.getLsbD 10 with
  | false => simp
  | true => simpa using (by decide : BitVec.twoPow 32 10 ≠ 0#32)

/-- The flag of the string, wherever it is set in a word, is bit 11. -/
theorem and_stringValidBit (word : BitVec 32) :
    word &&& stringValidBit ≠ 0 ↔ word.getLsbD 11 = true := by
  rw [show stringValidBit = BitVec.twoPow 32 11 from rfl, BitVec.and_twoPow]
  cases word.getLsbD 11 with
  | false => simp
  | true => simpa using (by decide : BitVec.twoPow 32 11 ≠ 0#32)

/-- The flag of the offset is read back from the first word. -/
theorem centsValid_packVoiceA : voice.packVoiceA &&& centsValidBit ≠ 0 ↔ voice.centsValid = true := by
  rw [and_centsValidBit, TunerVoice.packVoiceA]
  cases voice.centsValid <;> cases voice.stringValid <;> cases voice.state <;>
    simp [centsValidBit, stringValidBit, TunerVoiceState.toNat]

/-- The flag of the string in the first word tells whether the voice names one. -/
theorem stringValid_packVoiceA : voice.packVoiceA &&& stringValidBit ≠ 0 ↔ voice.stringValid = true := by
  rw [and_stringValidBit, TunerVoice.packVoiceA]
  cases voice.centsValid <;> cases voice.stringValid <;> cases voice.state <;>
    simp [centsValidBit, stringValidBit, TunerVoiceState.toNat]

/-- A valid string index has three bits. -/
theorem stringIndex_high (valid : voice.stringValid = true) {bit : Nat} (large : 3 ≤ bit)
    (inside : bit < 8) : voice.stringIndex[bit] = false := by
  have small : voice.stringIndex.toNat < 2 ^ 3 := of_decide_eq_true valid
  exact Nat.testBit_lt_two_pow (lt_of_lt_of_le small (Nat.pow_le_pow_right Nat.two_pos large))

/-- A string that the voice names is read back from the first word. -/
theorem string_packVoiceA (valid : voice.stringValid = true) :
    ((voice.packVoiceA >>> 12) &&& 0x07).setWidth 8 = voice.stringIndex := by
  refine BitVec.eq_of_getLsbD_eq fun bit inside => ?_
  rw [TunerVoice.packVoiceA, valid]
  cases voice.centsValid <;> cases voice.state <;> interval_cases bit <;>
    simp [centsValidBit, stringValidBit, TunerVoiceState.toNat, voice.stringIndex_high valid]

/-- The offset is read back from the first word, brought into its range. -/
theorem cents_packVoiceA :
    (voice.packVoiceA >>> 16).setWidth 16 = clampCents voice.centsQ8 := by
  refine BitVec.eq_of_getLsbD_eq fun bit inside => ?_
  rw [TunerVoice.packVoiceA]
  cases valid : voice.stringValid with
  | false =>
      cases voice.centsValid <;> cases voice.state <;> interval_cases bit <;>
        simp [centsValidBit, TunerVoiceState.toNat]
  | true =>
      cases voice.centsValid <;> cases voice.state <;> interval_cases bit <;>
        simp [centsValidBit, stringValidBit, TunerVoiceState.toNat, voice.stringIndex_high valid]
/-- The confidence is read back from the second word, at most the highest. -/
theorem confidence_packVoiceB :
    (voice.packVoiceB &&& 0xFFFF).setWidth 16 = atMost maximumConfidenceQ15 voice.confidenceQ15 := by
  refine BitVec.eq_of_getLsbD_eq fun bit inside => ?_
  rw [TunerVoice.packVoiceB]
  interval_cases bit <;> simp

/-- The age is read back from the second word as it is. -/
theorem age_packVoiceB : (voice.packVoiceB >>> 16).setWidth 16 = voice.ageTicks := by
  refine BitVec.eq_of_getLsbD_eq fun bit inside => ?_
  rw [TunerVoice.packVoiceB]
  interval_cases bit <;> simp

/-- A valid group is read back from the third word; any other one as not assigned. -/
theorem group_packVoiceC : (voice.packVoiceC &&& 0xFF).setWidth 8 =
    if voice.groupValid then voice.pitchEvidenceGroupId else unassignedPitchEvidenceGroup := by
  refine BitVec.eq_of_getLsbD_eq fun bit inside => ?_
  rw [TunerVoice.packVoiceC]
  interval_cases bit <;> simp

/-- The members of a valid group are read back from the third word; those of any other one as none.
-/
theorem members_packVoiceC : ((voice.packVoiceC >>> 8) &&& 0xFF).setWidth 8 =
    if voice.groupValid then voice.pitchEvidenceMemberMask else 0 := by
  refine BitVec.eq_of_getLsbD_eq fun bit inside => ?_
  rw [TunerVoice.packVoiceC]
  interval_cases bit <;> simp

/-- The beat is read back from the third word as it is. -/
theorem beat_packVoiceC : (voice.packVoiceC >>> 16).setWidth 16 = voice.beatHzQ8 := by
  refine BitVec.eq_of_getLsbD_eq fun bit inside => ?_
  rw [TunerVoice.packVoiceC]
  interval_cases bit <;> simp

/-- A voice that has travelled as words arrives with its values clamped. -/
theorem unpackVoice_pack :
    unpackVoice voice.packVoiceA voice.packVoiceB voice.packVoiceC = voice.normalized := by
  have string : (if voice.packVoiceA &&& stringValidBit ≠ 0 then
        ((voice.packVoiceA >>> 12) &&& 0x07).setWidth 8 else unassignedTunerString) =
      if voice.stringValid then voice.stringIndex else unassignedTunerString := by
    cases valid : voice.stringValid with
    | true =>
        rw [if_pos ((voice.stringValid_packVoiceA).mpr valid), voice.string_packVoiceA valid]
        rfl
    | false =>
        rw [if_neg fun present =>
          Bool.false_ne_true (valid.symm.trans (voice.stringValid_packVoiceA.mp present))]
        rfl
  have state : (match ((voice.packVoiceA >>> 8) &&& 0x03).toNat with
      | 1 => TunerVoiceState.coasting
      | 2 => TunerVoiceState.tracking
      | _ => TunerVoiceState.settling) = voice.state := by
    have low : ((voice.packVoiceA >>> 8) &&& 0x03).toNat =
        (((voice.packVoiceA >>> 8) &&& 0x03).setWidth 2).toNat := by
      rw [BitVec.toNat_setWidth, BitVec.toNat_and]
      exact (Nat.mod_eq_of_lt (Nat.lt_succ_of_le Nat.and_le_right)).symm
    rw [low, voice.state_packVoiceA]
    cases voice.state <;> rfl
  have cents : decide (voice.packVoiceA &&& centsValidBit ≠ 0) = voice.centsValid :=
    Bool.eq_iff_iff.mpr (decide_eq_true_iff.trans voice.centsValid_packVoiceA)
  rw [unpackVoice, TunerVoice.normalized, voice.midi_packVoiceA, string, state, cents,
    voice.cents_packVoiceA, voice.confidence_packVoiceB, voice.age_packVoiceB,
    voice.group_packVoiceC, voice.members_packVoiceC, voice.beat_packVoiceC]

end TunerVoice

section Header

/-- The parts of a header are apart. -/
theorem header_parts : ∀ (safeMax safeCount : Fin 9) (safeState : Fin 3),
    let header := (BitVec.ofNat 32 safeMax <<< 16) ||| (BitVec.ofNat 32 safeState <<< 8) |||
      BitVec.ofNat 32 safeCount
    ((header >>> 8) &&& 0xFF).toNat = safeState ∧ (header &&& 0x0F).toNat = safeCount ∧
      (header >>> 16).toNat = safeMax := by
  decide +kernel

variable (state : TunerFrameState) (voiceCount maxPolyphony : BitVec 8)

/-- The three parts of a first word, as numbers. -/
theorem packHeader_parts :
    ((packHeader state voiceCount maxPolyphony >>> 8) &&& 0xFF).toNat = state.toNat ∧
      (packHeader state voiceCount maxPolyphony &&& 0x0F).toNat = min voiceCount.toNat maxVoices ∧
      (packHeader state voiceCount maxPolyphony >>> 16).toNat =
        max 1 (min maxPolyphony.toNat maxVoices) := by
  have bounded : max 1 (min maxPolyphony.toNat maxVoices) < 9 := by
    change max 1 (min maxPolyphony.toNat 8) < 9
    omega
  have counted : min voiceCount.toNat maxVoices < 9 := by
    change min voiceCount.toNat 8 < 9
    omega
  have known : min state.toNat TunerFrameState.tracking.toNat = state.toNat := by
    cases state <;> rfl
  have three : state.toNat < 3 := by
    cases state <;> decide
  rw [packHeader, known]
  exact header_parts ⟨_, bounded⟩ ⟨_, counted⟩ ⟨_, three⟩

/-- The state is read back from the first word. -/
theorem unpackFrameState_packHeader :
    unpackFrameState (packHeader state voiceCount maxPolyphony) = state := by
  rw [unpackFrameState, (packHeader_parts state voiceCount maxPolyphony).1]
  cases state <;> rfl

/-- The number of voices is read back from the first word, as far as there can be so many. -/
theorem unpackVoiceCount_packHeader :
    unpackVoiceCount (packHeader state voiceCount maxPolyphony) =
      BitVec.ofNat 8 (min voiceCount.toNat maxVoices) := by
  rw [unpackVoiceCount, (packHeader_parts state voiceCount maxPolyphony).2.1, min_assoc, min_self]

/-- How many voices there may be is read back from the first word, brought into its range. -/
theorem unpackMaxPolyphony_packHeader :
    unpackMaxPolyphony (packHeader state voiceCount maxPolyphony) =
      BitVec.ofNat 8 (max 1 (min maxPolyphony.toNat maxVoices)) := by
  rw [unpackMaxPolyphony, (packHeader_parts state voiceCount maxPolyphony).2.2]
  change BitVec.ofNat 8 (max 1 (min (max 1 (min maxPolyphony.toNat 8)) 8)) =
    BitVec.ofNat 8 (max 1 (min maxPolyphony.toNat 8))
  congr 1
  omega

end Header

end M3Midi
