import M3Midi.Jsfx.Response
import M3Midi.Jsfx.LifecycleRuns
import M3Midi.Foundation.Transducer

/-! # The sections of the JSFX program

The host runs `@slider` and `@serialize` when settings change, `@block` before every
block and `@sample` for every sample. `@block` cleans up when something changed that
the sounding notes depend on, updates the lifecycle and queues its events; `@sample`
sends what is queued. What the detector selects, and what it measures, is given with
each block.
-/

namespace M3Midi.Jsfx

open Foundation

/-- A sample, when it is a real number. -/
abbrev Sample := Option ℚ

/-- `m3_isfinite`. -/
def isFinite : Sample → Bool
  | some value => decide (|value| < 10 ^ 30)
  | none => false

/-- EEL2 takes numbers that are closer than this for equal. -/
def eelEqual (first second : ℚ) : Bool := decide (|first - second| < 1 / 100000)

/-- The slider variables `slider1` to `slider14`, as the host sets them. -/
structure Sliders where
  inputMode : ℚ
  profileMode : ℚ
  a4Reference : ℚ
  inputTrim : ℚ
  sensitivity : ℚ
  response : ℚ
  lowestNote : ℚ
  highestNote : ℚ
  maxPolyphony : ℚ
  maxFret : ℚ
  velocityMode : ℚ
  fixedVelocity : ℚ
  midiChannel : ℚ
  panic : ℚ
  deriving DecidableEq, Repr

/-- The settings that `@slider` requests and `@block` takes over. -/
structure HostSettings where
  inputMode : ℤ := 0
  profileMode : ProfileMode := .m3
  a4Reference : ℚ := 440
  inputTrimGain : ℚ := 1
  sensitivity : ℤ := 50
  response : ℚ := 1 / 4
  minNote : ℤ := 32
  maxNote : ℤ := 84
  maxPolyphony : ℤ := 8
  maxFret : ℤ := 24
  velocityMode : VelocityMode := .dynamic
  fixedVelocity : ℤ := 100
  midiChannel : ℤ := 1
  deriving DecidableEq, Repr

/-- `M3_FAULT_OK` to `M3_FAULT_MEMORY_CONTRACT`. -/
inductive Fault
  | ok
  | unsupportedChannels
  | invalidSamples
  | corruptBounds
  | eventOverflow
  | memoryContract
  deriving DecidableEq, Repr

/-- What the host and the detector have for a block. `selected` is what
`m3_profile_filter_selected` keeps of the detector's candidates. -/
structure BlockInput where
  channelCount : ℤ := 2
  sampleRate : ℚ := 44100
  playState : ℤ := 1
  samplesBlock : ℕ := 512
  fastEnergy : Reading := none
  slowEnergy : Reading := none
  effectiveThreshold : ℚ := 0
  selected : List SelectionCell := []
  deriving DecidableEq, Repr

/-- A message handed to `midisend`. -/
structure MidiMessage where
  offset : ℤ
  type : EventType
  channel : ℕ
  note : ℕ
  velocity : ℤ
  deriving DecidableEq, Repr

/-- The status byte of a message. -/
def MidiMessage.status (message : MidiMessage) : ℕ :=
  (if message.type = .on then 0x90 else 0x80) ||| message.channel

/-- What a section hands out: a message, or the end of a panic. -/
inductive JsfxReport
  | message (message : MidiMessage)
  | panicked
  deriving DecidableEq, Repr

/-- The variables of the program. Memory that is laid out in words there is typed here, and what
nothing reads is left out. -/
structure JsfxState where
  requested : HostSettings := {}
  settings : HostSettings := {}
  sliderProfileMode : Option ProfileMode := none
  boundsLow : ℤ := 0
  boundsHigh : ℤ := 0
  lastSampleRate : ℚ := 0
  lastPlayState : ℤ
  inputTrimGain : ℚ := 1
  inputTrimStep : ℚ := 0
  inputTrimRemaining : ℕ := 0
  reconfigurePending : Bool := true
  panicRequested : Bool := false
  panicHold : Bool := false
  sampleOffset : ℕ := 0
  absoluteSample : ℕ := 0
  samplesBlock : ℕ := 0
  eventCount : ℕ := 0
  emittedEventCount : ℕ := 0
  hostFault : Fault := .ok
  faultCleanupPending : Bool := false
  invalidInputLatched : Bool := false
  eventOverflowLatched : Bool := false
  detectionEnabled : Bool := false
  blockInputPeak : ℚ := 0
  acquisitionSamples : ℚ := 0
  lifecycle : Lifecycle := .init

/-- `m3_host_clamp_bounds`. -/
def hostClampBounds (low high : ℚ) : ℤ × ℤ :=
  let first := floor (clamp low 24 108 + 1 / 2)
  let second := floor (clamp high 24 108 + 1 / 2)
  (min first second, max first second)

/-- `m3_host_apply_bounds`. -/
def hostApplyBounds (profileMode : ProfileMode) (low high : ℚ) : ℤ × ℤ :=
  match profileMode with
  | .m3 => (32, 84)
  | .general => hostClampBounds low high

/-- The profile mode that a slider asks for. -/
def requestedProfileMode (slider : ℚ) : ProfileMode :=
  if floor (clamp slider 0 1) = 0 then .m3 else .general

/-- Whether `@slider` finds a setting changed that the detector is built for. -/
def hardConfigurationChanged (requested settings : HostSettings) : Bool :=
  decide (requested.inputMode ≠ settings.inputMode) ||
    decide (requested.profileMode ≠ settings.profileMode) ||
    !eelEqual requested.a4Reference settings.a4Reference ||
    decide (requested.minNote ≠ settings.minNote) ||
    decide (requested.maxNote ≠ settings.maxNote) ||
    decide (requested.maxPolyphony ≠ settings.maxPolyphony) ||
    decide (requested.maxFret ≠ settings.maxFret) ||
    decide (requested.midiChannel ≠ settings.midiChannel)

/-- `m3_host_memory_contract_ok`, for the regions of the constants file. -/
def hostMemoryContractOk : Bool :=
  let configBase := 0
  let conditionBase := 256
  let rateBase := 512
  let resonatorBase := 4096
  let salienceBase := 32768
  let selectionBase := 33792
  let scratchBase := 34048
  let voiceBase := 34816
  let eventBase := 36864
  let telemetryABase := 37888
  let telemetryBBase := 38912
  let uiLocalBase := 39936
  let memoryEnd := 40000
  decide (configBase = 0 ∧ 256 ≤ conditionBase ∧ conditionBase < rateBase ∧
    rateBase < resonatorBase ∧ resonatorBase < salienceBase ∧ salienceBase < selectionBase ∧
    selectionBase < scratchBase ∧ scratchBase < voiceBase ∧ voiceBase < eventBase ∧
    eventBase < telemetryABase ∧ telemetryABase < telemetryBBase ∧
    telemetryBBase < uiLocalBase ∧ uiLocalBase + 64 ≤ memoryEnd)

/-- `m3_host_fault_code`. -/
def hostFaultCode (channelCount : ℤ) (invalidSamples corruptBounds eventOverflow
    memoryContractOk : Bool) : Fault :=
  if !memoryContractOk then .memoryContract
  else if eventOverflow then .eventOverflow
  else if corruptBounds then .corruptBounds
  else if invalidSamples then .invalidSamples
  else if channelCount < 1 ∨ 2 < channelCount then .unsupportedChannels
  else .ok

/-- `m3_host_cleanup_reason` is not zero. -/
def hostCleanupReason (previousRate currentRate : ℚ) (previousPlayState currentPlayState : ℤ)
    (reconfigurePending panicRequested : Bool) : Bool :=
  (decide (0 < previousRate) && decide (1 / 2 < |previousRate - currentRate|)) ||
    (decide (previousPlayState = 1 ∨ previousPlayState = 5) &&
      decide (currentPlayState = 0 ∨ currentPlayState = 2 ∨ currentPlayState = 6)) ||
    reconfigurePending || panicRequested

/-- `m3_host_panic_hold_next`. -/
def hostPanicHoldNext (currentHold panicRequested : Bool) (previousBlockPeak : ℚ) : Bool :=
  panicRequested ||
    (currentHold && (!isFinite (some previousBlockPeak) ||
      decide (1 / 10000 ≤ |previousBlockPeak|)))

/-- `m3_host_detection_enabled`. -/
def hostDetectionEnabled (channelCount : ℤ) (fault : Fault) : Bool :=
  decide (fault = .ok ∧ 1 ≤ channelCount ∧ channelCount ≤ 2)

/-- `m3_host_signal_present`. -/
def hostSignalPresent : Reading → Bool
  | some fastEnergy => decide (1 / 100000000 ≤ fastEnergy)
  | none => false

/-- `m3_host_select_input`. -/
def hostSelectInput (inputMode : ℤ) (left right : Sample) : Sample :=
  if clamp inputMode 0 2 = 0 then left
  else if clamp inputMode 0 2 = 1 then right
  else do
    let left ← left
    let right ← right
    pure ((left + right) * (7071067811865476 / 10000000000000000))

/-- The channel that a message is sent on. -/
def channelIndex (channel : ℤ) : ℕ := (clamp channel 1 16 - 1).toNat &&& 15

/-- `m3_midi_encode_event`, for a cell of the list. -/
def encodeEvent (channel : ℤ) (blockSize : ℕ) (event : LifecycleEvent) : MidiMessage where
  offset := clamp event.sample 0 (max 1 (blockSize : ℤ) - 1)
  type := event.type
  channel := channelIndex channel
  note := clamp event.note 0 127
  velocity := if event.type = .on then clamp event.velocity 1 127 else 0

/-- `m3_midi_emit_event`, for cells of the list in order. -/
def emitEvents (channel : ℤ) (blockSize : ℕ) (events : List LifecycleEvent) : List JsfxReport :=
  events.map fun event => .message (encodeEvent channel blockSize event)

namespace JsfxState

variable (state : JsfxState)

/-- The settings that `@slider` reads from the sliders. -/
def requestedSettings (math : EelMath) (sliders : Sliders) (bounds : ℤ × ℤ) : HostSettings where
  inputMode := floor (clamp sliders.inputMode 0 2)
  profileMode := requestedProfileMode sliders.profileMode
  a4Reference := clamp sliders.a4Reference 400 480
  inputTrimGain := math.pow 10 (clamp sliders.inputTrim (-24) 24 / 20)
  sensitivity := floor (clamp sliders.sensitivity 0 100 + 1 / 2)
  response := (floor (clamp sliders.response 0 100 + 1 / 2) : ℚ) / 100
  minNote := bounds.1
  maxNote := bounds.2
  maxPolyphony := floor (clamp sliders.maxPolyphony 1 maxVoices + 1 / 2)
  maxFret := floor (clamp sliders.maxFret 0 36 + 1 / 2)
  velocityMode := if floor (clamp sliders.velocityMode 0 1) = 0 then .fixed else .dynamic
  fixedVelocity := floor (clamp sliders.fixedVelocity 1 127 + 1 / 2)
  midiChannel := floor (clamp sliders.midiChannel 1 16 + 1 / 2)

/-- `@slider`. What is requested takes effect with the next block. -/
def slider (math : EelMath) (sliders : Sliders) : JsfxState :=
  let profileMode := requestedProfileMode sliders.profileMode
  let bounds := if some profileMode ≠ state.sliderProfileMode
    then hostApplyBounds profileMode sliders.lowestNote sliders.highestNote
    else hostClampBounds sliders.lowestNote sliders.highestNote
  let requested := requestedSettings math sliders bounds
  { state with
    requested
    sliderProfileMode := some profileMode
    boundsLow := bounds.1
    boundsHigh := bounds.2
    reconfigurePending := hardConfigurationChanged requested state.settings ||
      state.reconfigurePending
    panicRequested := state.panicRequested || decide (1 / 2 ≤ sliders.panic) }

/-- `@serialize`, when it reads a state and when it writes one. -/
def serialize (reading : Bool) : JsfxState :=
  if reading then { state with reconfigurePending := true, panicRequested := true } else state

/-- `m3_midi_panic`. -/
def midiPanic (blockOffset : ℕ) : JsfxState × List JsfxReport :=
  let released := state.lifecycle.releaseAll blockOffset
  ({ state with lifecycle := { released with list := released.list.reset } },
    emitEvents state.settings.midiChannel state.samplesBlock released.list.events ++ [.panicked])

/-- What `@block` finds wrong. -/
def blockFault (input : BlockInput) : Fault :=
  hostFaultCode input.channelCount state.invalidInputLatched
    (decide (state.requested.minNote < 24 ∨ 108 < state.requested.minNote ∨
      state.requested.maxNote < 24 ∨ 108 < state.requested.maxNote ∨
      state.requested.maxNote < state.requested.minNote))
    state.eventOverflowLatched hostMemoryContractOk

/-- Whether `@block` cleans up. -/
def cleansUp (input : BlockInput) : Bool :=
  hostCleanupReason state.lastSampleRate input.sampleRate state.lastPlayState input.playState
      state.reconfigurePending state.panicRequested ||
    (decide (state.blockFault input ≠ .ok) &&
      (state.faultCleanupPending || decide (state.blockFault input ≠ state.hostFault)))

/-- `@block` takes over the requested settings; the gain moves to its target in 64 samples. -/
def takeSettings : JsfxState :=
  let ramped := if 1 / 1000000000 < |state.requested.inputTrimGain - state.inputTrimGain| then
      { state with
        inputTrimStep := (state.requested.inputTrimGain - state.inputTrimGain) / 64
        inputTrimRemaining := 64 }
    else state
  { ramped with settings := state.requested }

/-- `@block` resets the detector and the requests when it cleans up. -/
def resetDetector : JsfxState :=
  { state with
    lifecycle := .init
    acquisitionSamples := 0
    absoluteSample := 0
    invalidInputLatched := false
    eventOverflowLatched := false
    faultCleanupPending := false
    reconfigurePending := false
    panicRequested := false }

/-- The variables of the lifecycle that `@block` sets. -/
def lifecycleSettings (settings : HostSettings) (input : BlockInput)
    (response : LifecycleResponse) : LifecycleSettings where
  attackAdmission := hostSignalPresent input.fastEnergy &&
    attackAdmissionAllowed input.fastEnergy input.slowEnergy
  attackHysteresis := true
  reserveLowerAttacks := decide (settings.profileMode = .general ∧
    settings.maxPolyphony < maxVoices)
  generalOctaveGuard := decide (settings.profileMode = .general)
  m3LowStringGuard := decide (settings.profileMode = .m3)
  m3OctaveConfirmation := decide (settings.profileMode = .m3)
  m3LowOpenFastAttack := decide (settings.profileMode = .m3)
  attackBridgeSamples := 2 * input.samplesBlock
  attackEvidenceStepSamples := input.samplesBlock
  minAttackEnergy := if settings.profileMode = .general then 2 / 10000 else 0
  maxActiveVoices := settings.maxPolyphony
  subGsharpAttackSamples := response.subGsharpAttackSamples
  m3FastOpenAttackSamples := response.m3FastOpenAttackSamples
  m3GuardedOpenAttackSamples := response.m3GuardedOpenAttackSamples
  m3HighOpenAttackSamples := response.m3HighOpenAttackSamples
  m3LowChordAttackSamples := response.m3LowChordAttackSamples
  generalCappedAttackSamples := response.generalCappedAttackSamples

/-- The arguments that `@block` gives an update. -/
def updateArguments (settings : HostSettings) (input : BlockInput) (absoluteSample : ℕ)
    (acquisitionSamples : ℚ) (response : LifecycleResponse) : UpdateArguments where
  selection := if hostSignalPresent input.fastEnergy ∧
    2 / 1000 * input.sampleRate ≤ acquisitionSamples then input.selected else []
  absoluteSample := absoluteSample
  blockOffset := 0
  attackSamples := response.attackSamples
  releaseSamples := response.releaseSamples
  dropoutSamples := response.dropoutSamples
  onThreshold := response.onThreshold
  offThreshold := response.offThreshold
  velocityMode := settings.velocityMode
  fixedVelocity := settings.fixedVelocity

/-- `@block`, where detection is enabled: the lifecycle is updated and its events are
queued. -/
def detect (math : EelMath) (input : BlockInput) : JsfxState :=
  let acquisitionSamples := if hostSignalPresent input.fastEnergy
    then min input.sampleRate (state.acquisitionSamples + input.samplesBlock) else 0
  let response := lifecycleResponseForProfile state.settings.profileMode state.settings.response
    input.sampleRate input.effectiveThreshold
  let lifecycle := state.lifecycle.update math (lifecycleSettings state.settings input response)
    (updateArguments state.settings input state.absoluteSample acquisitionSamples response)
  let detected := { state with
    acquisitionSamples
    lifecycle
    eventCount := lifecycle.list.events.length }
  if lifecycle.list.overflow then
    { detected with
      eventOverflowLatched := true
      faultCleanupPending := true
      hostFault := .eventOverflow
      detectionEnabled := false }
  else detected

/-- The middle of `@block`: the counters of the last block are reset. -/
def startBlock (input : BlockInput) (fault : Fault) (panicHold : Bool) : JsfxState :=
  { state with
    hostFault := fault
    panicHold
    detectionEnabled := hostDetectionEnabled input.channelCount fault && !panicHold
    sampleOffset := 0
    samplesBlock := input.samplesBlock
    eventCount := 0
    emittedEventCount := 0
    blockInputPeak := 0
    lifecycle := { state.lifecycle with list := state.lifecycle.list.reset } }

/-- `@block`. Requests are taken over, faults and panics handled, and the detector and the
lifecycle set up for the samples. -/
def block (math : EelMath) (input : BlockInput) : JsfxState × List JsfxReport :=
  let fault := state.blockFault input
  let cleansUp := state.cleansUp input
  let panicHold := hostPanicHoldNext state.panicHold state.panicRequested state.blockInputPeak
  let entered := { state with samplesBlock := input.samplesBlock }
  let cleaned := if cleansUp then entered.midiPanic 0 else (entered, [])
  let taken := cleaned.1.takeSettings
  let started := (if cleansUp then taken.resetDetector else taken).startBlock input fault panicHold
  let detected := if started.detectionEnabled then started.detect math input else started
  ({ detected with
      lastSampleRate := input.sampleRate
      lastPlayState := input.playState }, cleaned.2)

/-- The events that are queued and not sent. -/
def pending : List LifecycleEvent :=
  (state.lifecycle.list.events.drop state.emittedEventCount).take
    (state.eventCount - state.emittedEventCount)

/-- `@sample`, where the input is not finite. -/
def rejectSample : JsfxState × List JsfxReport :=
  let cleaned := if state.hostFault ≠ .invalidSamples then state.midiPanic state.sampleOffset
    else (state, [])
  ({ cleaned.1 with
      invalidInputLatched := true
      faultCleanupPending := true
      hostFault := .invalidSamples
      detectionEnabled := false
      eventCount := 0
      emittedEventCount := 0 }, cleaned.2)

/-- The rest of `@sample`: the events that are queued are sent, and the gain moves on. Events go
out in their order, each on the channel of the settings. -/
def sendEvents (detectorIn : ℚ) : JsfxState × List JsfxReport :=
  let ramped := if 0 < state.inputTrimRemaining then
      if state.inputTrimRemaining = 1 then
        { state with
          inputTrimGain := state.settings.inputTrimGain
          inputTrimStep := 0
          inputTrimRemaining := 0 }
      else
        { state with
          inputTrimGain := state.inputTrimGain + state.inputTrimStep
          inputTrimRemaining := state.inputTrimRemaining - 1 }
    else state
  ({ ramped with
      blockInputPeak := max state.blockInputPeak |detectorIn * state.inputTrimGain|
      emittedEventCount := state.eventCount
      sampleOffset := state.sampleOffset + 1
      absoluteSample := state.absoluteSample + 1 },
    emitEvents state.settings.midiChannel state.samplesBlock state.pending)

/-- `@sample`. -/
def sample (left right : Sample) : JsfxState × List JsfxReport :=
  let detectorIn := hostSelectInput state.settings.inputMode left right
  let accepted := if isFinite detectorIn then (state, []) else state.rejectSample
  let sent := accepted.1.sendEvents
    (if isFinite detectorIn then detectorIn.getD 0 else 0)
  (sent.1, accepted.2 ++ sent.2)

end JsfxState

/-- One run of a section. The host runs the sections in the order it likes, with the variables it
has set. -/
inductive Section
  | slider (sliders : Sliders)
  | serialize (reading : Bool)
  | block (input : BlockInput)
  | sample (left right : Sample)

/-- The program, section by section. -/
def jsfxMachine (math : EelMath) : Transducer Section JsfxState JsfxReport where
  step state
    | .slider sliders => (state.slider math sliders, [])
    | .serialize reading => (state.serialize reading, [])
    | .block input => state.block math input
    | .sample left right => state.sample left right

/-- `@init`, in a play state of the host. -/
def JsfxState.init (playState : ℤ) : JsfxState := { lastPlayState := playState }

end M3Midi.Jsfx
