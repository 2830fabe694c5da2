import Mathlib.Data.Fin.VecNotation
import Mathlib.Data.Rat.Defs

/-! # Shared types and constants

The values that the detector, the note ledger and the plug-in exchange. An
unsigned integer of the source is a natural number; a `double` that a host may
supply is an optional rational, absent when it is infinite or not a number.
-/

namespace M3Midi

/-- Frames between two decisions of the detector (`kDecisionQuantum`). -/
def decisionQuantum : Nat := 64

/-- Largest host block (`kMaxHostFrames`). -/
def maxHostFrames : Nat := 16384

/-- Sounding notes the ledger can track (`kMaxVoices`). -/
def maxVoices : Nat := 8

/-- The pitches of the open strings (`kM3OpenNotes`). -/
def m3OpenNotes : Fin maxVoices → ℕ := ![32, 36, 40, 44, 48, 52, 56, 60]

/-- Candidates one selection may hold (`kMaxInternalSelections`). -/
def maxInternalSelections : Nat := 16

/-- Transitions one decision may emit (`kMaxTickTransitions`). -/
def maxTickTransitions : Nat := 16

/-- The voice id of a note without a physical string (`kUnassignedVoiceId`). -/
def unassignedVoiceId : Nat := 0xFF

/-- `MidiRouting`: one channel for all voices, or one for each. -/
inductive MidiRouting
  | single
  | perVoice
  deriving DecidableEq, Repr

/-- `ProfileMode`: a stringed instrument, or any tonal input. -/
inductive ProfileMode
  | m3
  | general
  deriving DecidableEq, Repr

/-- `VelocityMode`: one velocity for all notes, or by their level. -/
inductive VelocityMode
  | fixed
  | dynamic
  deriving DecidableEq, Repr

/-- What the host is shown of the component. A panic that is held, a boundary that is open and a
blocked output have their own values, so that each can be taken back alone. -/
inductive Status
  | ready
  | panicHold
  | reconfiguring
  | midiOutputBlocked
  | invalidInputOrState
  | unsupportedLayout
  deriving DecidableEq, Repr

/-- `TransitionKind` -/
inductive TransitionKind
  | noteOff
  | noteOn
  deriving DecidableEq, Repr

/-- The configuration a project saves. The defaults are those of the source, and the fields stand
in its order. -/
structure PersistentConfig where
  midiRouting : MidiRouting := .single
  profileMode : ProfileMode := .m3
  a4Hz : ℚ := 440
  inputTrimDb : ℚ := 0
  sensitivity : Nat := 50
  response : Nat := 25
  lowestNote : Nat := 32
  highestNote : Nat := 84
  maxPolyphony : Nat := 8
  maxFret : Nat := 24
  velocityMode : VelocityMode := .dynamic
  fixedVelocity : Nat := 100
  midiChannel : Nat := 1
  dryPassthrough : Bool := true
  deriving DecidableEq, Repr

/-- One note-on or note-off that the detector emits. The ledger orders transitions by offset, kind
and sequence, and finds a note by its number and lane. -/
structure VoiceTransition where
  sampleOffset : Nat
  kind : TransitionKind
  note : Nat
  velocity : Nat
  sequence : Nat
  voiceId : Nat := unassignedVoiceId
  deriving DecidableEq, Repr

end M3Midi
