import M3Midi.Foundation.WhileLoop
import M3Midi.Calibration.SavedState

/-! # The state on a stream of the host

The host gives the plug-in a stream that moves as many bytes in a call as it likes and reports
how many. The adapters repeat their calls until an image is complete, and refuse a stream whose
call fails or whose progress is out of range. Where the state image ends they read on, to find a
calibration image or the end of the stream.
-/

namespace M3Midi

open Foundation

/-- What a call of a stream answers: its `tresult`, the number of bytes it reports, and, for a
read, what the buffer holds then. -/
structure StreamReply where
  result : Int
  count : Int
  buffer : List Byte := []
  deriving DecidableEq, Repr

/-- The calls of a stream of the host (`Steinberg::IBStream`), on the states the stream has. A call
answers with a result and a count, either of which may be anything. -/
structure IBStream (State : Type) where
  read : State → ℕ → StreamReply × State
  write : State → List Byte → StreamReply × State

/-- `kResultOk` -/
def kResultOk : Int := 0

/-- The interface gives both names to one value. -/
def kResultTrue : Int := kResultOk

/-- `result_ok`. -/
def resultOk (result : Int) : Bool :=
  decide (result = kResultOk) || decide (result = kResultTrue)

namespace StreamReply

/-- The bytes that a read reports. -/
def bytes (reply : StreamReply) : List Byte :=
  (List.range reply.count.toNat).map fun index => reply.buffer.getD index 0

/-- The call succeeded, and made progress within the request. -/
def progressed (reply : StreamReply) (request : ℕ) : Bool :=
  resultOk reply.result && decide (0 < reply.count) && decide (reply.count ≤ request)

@[simp] theorem length_bytes (reply : StreamReply) : reply.bytes.length = reply.count.toNat := by
  rw [bytes, List.length_map, List.length_range]

/-- Progress is positive, and lies within the request. -/
theorem count_of_progressed {reply : StreamReply} {request : ℕ}
    (progressed : reply.progressed request = true) :
    0 < reply.count.toNat ∧ reply.count.toNat ≤ request := by
  unfold StreamReply.progressed at progressed
  simp only [Bool.and_eq_true, decide_eq_true_eq] at progressed
  omega

end StreamReply

section Loops

variable {State : Type} (stream : IBStream State)

/-- A pass of the loop in `write_exact`, on the position and the stream. -/
def writePass (bytes : List Byte) : ℕ × State → (ℕ × State) ⊕ (Bool × State)
  | (position, state) =>
      if position < bytes.length then
        let (reply, next) := stream.write state (bytes.drop position)
        if reply.progressed (bytes.length - position) then
          .inl (position + reply.count.toNat, next)
        else .inr (false, next)
      else .inr (true, state)

/-- `write_exact`, with a bound on the passes of its loop. -/
def writeExact (passes : ℕ) (bytes : List Byte) (state : State) : Option (Bool × State) :=
  whileLoop (writePass stream bytes) passes (0, state)

/-- A pass of the loop in `read_exact`, on the bytes read and the stream. -/
def readPass (size : ℕ) : List Byte × State → (List Byte × State) ⊕ (Option (List Byte) × State)
  | (bytes, state) =>
      if bytes.length < size then
        let (reply, next) := stream.read state (size - bytes.length)
        if reply.progressed (size - bytes.length) then .inl (bytes ++ reply.bytes, next)
        else .inr (none, next)
      else .inr (some bytes, state)

/-- `read_exact`, with a bound on the passes of its loop. -/
def readExact (passes size : ℕ) (state : State) : Option (Option (List Byte) × State) :=
  whileLoop (readPass stream size) passes ([], state)

/-- `read_eof`. -/
def readEof (state : State) : Bool × State :=
  let (reply, next) := stream.read state 1
  (resultOk reply.result && decide (reply.count = 0), next)

/-- A pass of the loop in `read_bounded_to_eof`, on the bytes read and the stream. -/
def readToEofPass (capacity : ℕ) :
    List Byte × State → (List Byte × State) ⊕ (Option (List Byte) × State)
  | (bytes, state) =>
      if bytes.length < capacity then
        let (reply, next) := stream.read state (capacity - bytes.length)
        if !resultOk reply.result || decide (reply.count < 0) ||
            decide (((capacity - bytes.length : ℕ) : Int) < reply.count) then
          .inr (none, next)
        else if reply.count = 0 then .inr (some bytes, next)
        else .inl (bytes ++ reply.bytes, next)
      else
        let (atEnd, next) := readEof stream state
        .inr (if atEnd then some bytes else none, next)

/-- `read_bounded_to_eof`, with a bound on the passes of its loop. -/
def readBoundedToEof (passes capacity : ℕ) (state : State) :
    Option (Option (List Byte) × State) :=
  whileLoop (readToEofPass stream capacity) passes ([], state)

end Loops

section Adapters

variable {State : Type} (passes : ℕ)

/-- `save_vst3_state`. The host may pass no stream. -/
def saveVst3State (config : PersistentConfig) (stream : Option (IBStream State)) (state : State) :
    Option (Bool × State) :=
  match stream, encodeState config with
  | some stream, some image => writeExact stream passes image state
  | _, _ => some (false, state)

/-- `load_vst3_state`. -/
def loadVst3State (stream : Option (IBStream State)) (state : State) (output : PersistentConfig) :
    Option ((Bool × PersistentConfig) × State) :=
  match stream with
  | none => some ((false, output), state)
  | some stream => (readExact stream passes stateSize state).map fun (image, next) =>
      match image with
      | none => ((false, output), next)
      | some image =>
          let (atEnd, last) := readEof stream next
          (if atEnd then decodeStateInto image output else (false, output), last)

/-- `save_vst3_state_with_calibration`. -/
def saveVst3StateWithCalibration (config : PersistentConfig) (calibration : StringCalibrationBank)
    (stream : Option (IBStream State)) (state : State) : Option (Bool × State) :=
  match stream, encodeState config, encodeCalibrationState calibration with
  | some stream, some stateImage, some calibrationImage =>
      (writeExact stream passes stateImage state).bind fun (written, next) =>
        if written then writeExact stream passes calibrationImage next else some (false, next)
  | _, _, _ => some (false, state)

/-- The end of `load_vst3_state_with_calibration`: the bytes that follow the state image. -/
def finishLoad (configCandidate : PersistentConfig) (bytes : List Byte)
    (config : PersistentConfig) (calibration : StringCalibrationBank) :
    Bool × PersistentConfig × StringCalibrationBank :=
  if bytes.length = 0 then (true, configCandidate, {})
  else match decodeCalibrationState bytes with
    | none => (false, config, calibration)
    | some calibrationCandidate => (true, configCandidate, calibrationCandidate)

/-- `load_vst3_state_with_calibration`. -/
def loadVst3StateWithCalibration (stream : Option (IBStream State)) (state : State)
    (config : PersistentConfig) (calibration : StringCalibrationBank) :
    Option ((Bool × PersistentConfig × StringCalibrationBank) × State) :=
  match stream with
  | none => some ((false, config, calibration), state)
  | some stream => (readExact stream passes stateSize state).bind fun (image, next) =>
      match image.bind decodeState with
      | none => some ((false, config, calibration), next)
      | some configCandidate =>
          (readBoundedToEof stream passes calibrationStateSize next).map fun (bytes, last) =>
            match bytes with
            | none => ((false, config, calibration), last)
            | some bytes => (finishLoad configCandidate bytes config calibration, last)

end Adapters

end M3Midi
