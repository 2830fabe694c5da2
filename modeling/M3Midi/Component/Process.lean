import M3Midi.Component.M3Component

/-! # Processing blocks

`process` applies a block's parameters, applies a restored calibration and, when the
block has samples, releases what is pending, commits a prepared configuration once
nothing is, runs the detector and delivers its notes. The block brings what the
host decides: the changes, the sink's answers, the layout and the detector's
decisions on the samples.
-/

namespace M3Midi

open Foundation

/-- The host's event list: its answer to an event, from the events offered before.
Absent when the host passes no list. -/
abbrev EventList := Option (List Push → VoiceTransition → Nat → Bool)

/-- The checks of `push_vst3_note` before it offers an event. -/
def validVst3Note (transition : VoiceTransition) (channel : Nat) : Bool :=
  let validVelocity := match transition.kind with
    | .noteOn => decide (0 < transition.velocity ∧ transition.velocity ≤ 127)
    | .noteOff => decide (transition.velocity = 0)
  1 ≤ channel && channel ≤ 16 && transition.note ≤ 127 && validVelocity &&
    transition.sampleOffset ≤ 2 ^ 31 - 1

/-- The sink of a block (`push_vst3_note`). -/
def vst3EventSink (events : EventList) : NoteEventSink :=
  some fun pushed transition channel =>
    match events with
    | none => false
    | some answer => validVst3Note transition channel && answer pushed transition channel

/-- The samples of a block with a supported layout, as their analysis and the
detector see them; the peak is absent when it is not finite. -/
structure AudioBlock where
  nonfiniteInput : Bool := false
  selectedPeak : Option ℚ := some 0
  /-- The transitions the detector decides at each frame. -/
  decisions : Nat → List VoiceTransition := fun _ => []

/-- What the host hands over for a block. The parameters, the samples and the host's event list are
what the component reads of it. -/
structure ProcessData where
  processMode : Nat := 0
  symbolicSampleSize : Nat := 0
  numSamples : Int := 0
  inputParameterChanges : Option ParameterChanges := none
  outputEvents : EventList := none
  /-- Absent when the layout is not supported. -/
  audio : Option AudioBlock := none

/-- A component in the middle of a call, with the pushes the call has made. The component and the
log of its pushes change side by side until the call is over. -/
structure Processing where
  component : M3Component
  pushed : List Push := []

namespace M3Component

/-- Does the outstanding claim hold the preparation the boundary waits for? -/
def claimMatches (component : M3Component) : Bool :=
  match component.preparedExchange.claim with
  | none => false
  | some claim =>
      let prepared := (component.preparedExchange.slots claim.index).prepared
      some prepared.sampleRate = component.processSetup.sampleRate &&
        structuralConfigEqual prepared.requested component.pendingStructuralConfig

/-- Claim the newest preparation if it is the one the boundary waits for. Another one is put back,
and the boundary waits on. -/
def claimMatchingPreparedConfig (component : M3Component) : M3Component :=
  if component.structuralBoundaryPending = false ∨ component.preparedClaimPending ∨
      component.preparedExchangeInitialized = false then
    component
  else
    let outcome := component.preparedExchange.claimLatest
    let scanned := { component with preparedExchange := outcome.2 }
    if outcome.1 = false then scanned.raiseStatus .reconfiguring
    else if scanned.claimMatches then { scanned with preparedClaimPending := true }
    else
      { scanned with preparedExchange := scanned.preparedExchange.cancel.2 }.raiseStatus
        .reconfiguring

/-- Give up the claim of an earlier boundary. -/
def dropClaim (component : M3Component) : M3Component :=
  if component.preparedClaimPending then
    { component with
      preparedExchange := component.preparedExchange.cancel.2
      preparedClaimPending := false }
  else component

/-- Wait for a configuration: release all notes, and claim its preparation. A boundary that waits
for the same one already goes on waiting. -/
def beginStructuralBoundary (component : M3Component) (config : PersistentConfig) : M3Component :=
  if component.structuralBoundaryPending ∧
      samePersistentConfig component.pendingStructuralConfig config then
    component
  else
    let dropped := component.dropClaim
    { dropped with
      pendingStructuralConfig := config
      structuralBoundaryPending := true
      releaseChannelPending := true
      generatedNotes := dropped.generatedNotes.requestReleaseAll }.claimMatchingPreparedConfig

/-- Adopt the claimed preparation, with the runtime fields the boundary waits for.
The answer of the detector is ignored. -/
def adoptPreparedConfig (component : M3Component) (claim : Claim) : M3Component :=
  let prepared := (component.preparedExchange.slots claim.index).prepared.requested
  let outcome := component.preparedExchange.commit
  if outcome.1 = false then
    { component with
      preparedExchange := outcome.2.cancel.2
      preparedClaimPending := false }.raiseStatus .invalidInputOrState
  else
    let activeConfig := copyRuntimeConfig prepared component.pendingStructuralConfig
    let adopted :=
      { component with
        preparedExchange := outcome.2
        preparedClaimPending := false
        activeConfig
        audioRequestedConfig := activeConfig
        activeGeneration := claim.generation
        structuralBoundaryPending := false
        releaseChannelPending := false }
    let configured := (adopted.configureDetector activeConfig).2
    if configured.status = .reconfiguring then { configured with status := .ready } else configured

/-- Commit the boundary's preparation once it is claimed and no release is pending. Until then the
old configuration goes on running, and blocks only release notes. -/
def commitPreparedConfigIfReleased (component : M3Component) : M3Component :=
  if component.structuralBoundaryPending = false then component
  else
    let claimed :=
      if component.preparedClaimPending then component else component.claimMatchingPreparedConfig
    if claimed.preparedClaimPending = false ∨ claimed.generatedNotes.releasePending then
      claimed.raiseStatus .reconfiguring
    else match claimed.preparedExchange.claim with
      | none => claimed
      | some claim => claimed.adoptPreparedConfig claim

/-- `update_delivery_status` -/
def updateDeliveryStatus (component : M3Component) (result : NoteDeliveryResult) : M3Component :=
  if result.outputBlocked then component.raiseStatus .midiOutputBlocked
  else if result.panicHold then component.raiseStatus .panicHold
  else if component.status = .midiOutputBlocked ∨ component.status = .panicHold then
    { component with status := .ready }
  else component

/-- All notes are released, and the ledger recovers. -/
def requestPanicRecovery (component : M3Component) : M3Component :=
  component.mapLedger fun ledger => ledger.requestReleaseAll.requestRecovery

/-- Hand a bank the main thread restored to the detector, once. It is published back under the
generation of the restore, for a save to find. -/
def applyCalibrationRestore (component : M3Component) : M3Component :=
  match component.calibrationRestore.readLatest with
  | none => component
  | some snapshot =>
      if snapshot.generation = component.audioCalibrationRestoreGeneration then component
      else
        { component with
          detector := { component.detector with calibrationBank := snapshot.bank }
          audioCalibrationRestoreGeneration := snapshot.generation
          calibrationPublished :=
            component.calibrationPublished.publish snapshot.bank snapshot.generation }

/-- The changes of a block take effect, at once or behind a structural boundary. A structural
change opens a boundary, and runtime values alone take effect at once. -/
def applyBatch (component : M3Component) (batch : ParameterBatch) : M3Component :=
  if batch.changed = false then component
  else if batch.structural then component.beginStructuralBoundary batch.candidate
  else
    let activeConfig := copyRuntimeConfig component.activeConfig batch.candidate
    { component with
      audioRequestedConfig := copyRuntimeConfig component.audioRequestedConfig batch.candidate
      activeConfig
      detector := { component.detector with
        configuration := component.detector.configuration.setRuntimeConfig activeConfig } }

/-- The transitions of one decision; a refused one fails the output. -/
def queueDecision (frames frame : Nat) :
    List VoiceTransition → GeneratedNoteLedger → GeneratedNoteLedger
  | [], ledger => ledger
  | transition :: rest, ledger =>
      match ledger.queueTransition { transition with sampleOffset := frame } frames with
      | (false, refused) => refused.reportOutputFailure
      | (true, queued) => queueDecision frames frame rest queued

/-- The detector's frames that remain, until the output is blocked. -/
def queueDecisions (frames : Nat) (decisions : Nat → List VoiceTransition) :
    List Nat → GeneratedNoteLedger → GeneratedNoteLedger
  | [], ledger => ledger
  | frame :: rest, ledger =>
      let queued := queueDecision frames frame (decisions frame) ledger
      if queued.outputBlocked then queued else queueDecisions frames decisions rest queued

/-- Do samples reach the detector in this block? -/
def detectorAllowed (component : M3Component) (audio : AudioBlock) : Bool :=
  !audio.nonfiniteInput && !component.structuralBoundaryPending &&
    !component.generatedNotes.releasePending && !component.generatedNotes.outputBlocked &&
    !component.generatedNotes.panicHold

/-- Run the detector; without a configuration it decides nothing. -/
def runDetector (component : M3Component) (frames : Nat) (audio : AudioBlock) : M3Component :=
  if component.detectorAllowed audio ∧ component.detector.configuration.configured then
    component.mapLedger (queueDecisions frames audio.decisions (List.range frames))
  else component

/-- Input that is not finite fails the output. -/
def checkInput (component : M3Component) (audio : AudioBlock) : M3Component :=
  if audio.nonfiniteInput then
    { component.raiseStatus .invalidInputOrState with
      releaseChannelPending := true }.mapLedger GeneratedNoteLedger.reportOutputFailure
  else component

/-- A refused call reports an invalid input and fails the output. -/
def refuseCall (component : M3Component) : M3Component :=
  (component.raiseStatus .invalidInputOrState).mapLedger GeneratedNoteLedger.reportOutputFailure

/-- The checks `process` makes before it reads the changes. -/
def acceptsCall (component : M3Component) (data : ProcessData) : Bool :=
  component.processing &&
    processModeCompatibleWithSetup component.processSetup.processMode data.processMode &&
    0 ≤ data.numSamples && data.numSamples ≤ component.processSetup.maxSamplesPerBlock &&
    data.numSamples ≤ maxHostFrames &&
    data.symbolicSampleSize = component.processSetup.symbolicSampleSize

/-- The block's changes, read against the configuration the audio thread requested. -/
def readBatch (component : M3Component) (data : ProcessData) : Option ParameterBatch :=
  if component.acceptsCall data then
    readLastBoundaryValues data.inputParameterChanges data.numSamples component.audioRequestedConfig
  else none

/-- A panic of the block or of the main thread starts a recovery. The main thread's request is
only looked at, and taken, when the block has none of its own. -/
def applyPanic (component : M3Component) (panic : Bool) : M3Component :=
  if panic then component.requestPanicRecovery
  else if component.panicRequested then
    { component with panicRequested := false }.requestPanicRecovery
  else component

/-- What an accepted call does before it looks at samples. -/
def applyBoundary (component : M3Component) (batch : ParameterBatch) : M3Component :=
  ((component.applyBatch batch).applyPanic batch.panic).applyCalibrationRestore

end M3Component

namespace Processing

/-- Part of a call that pushes nothing. -/
def map (processing : Processing) (change : M3Component → M3Component) : Processing :=
  { processing with component := change processing.component }

/-- The ledger's view of the call. -/
def delivery (processing : Processing) : Delivery where
  ledger := processing.component.generatedNotes
  pushed := processing.pushed

/-- Go on with the ledger and the pushes of a delivery. -/
def withDelivery (processing : Processing) (delivery : Delivery) : Processing where
  component := { processing.component with generatedNotes := delivery.ledger }
  pushed := delivery.pushed

/-- The pending releases are tried again, and a refusal shows in the status. -/
def retryPendingReleases (processing : Processing) (events : EventList) : Processing :=
  let outcome := processing.delivery.retryPendingReleases (vst3EventSink events)
  let retried := processing.withDelivery outcome.2
  if outcome.1 = false then retried.map (·.raiseStatus .midiOutputBlocked)
  else if retried.component.structuralBoundaryPending = false then
    retried.map fun component => { component with releaseChannelPending := false }
  else retried

/-- The queue is delivered, and the result shows in the status unless something worse is there. The
hold of a panic ends here, on finite and quiet input. -/
def deliverGeneratedNotes (processing : Processing) (data : ProcessData) (finiteInput : Bool)
    (supportedLayout : Bool) (selectedPeak : Option ℚ) : Processing :=
  let component := processing.component
  let outcome := processing.delivery.deliverQueued {
    frames := data.numSamples.toNat
    sink := vst3EventSink data.outputEvents
    selectedPeak, finiteInput, supportedLayout
    routing := component.activeConfig.midiRouting
    startChannel := component.activeConfig.midiChannel }
  let delivered := processing.withDelivery outcome.2
  if component.status = .unsupportedLayout ∨ component.status = .invalidInputOrState then delivered
  else delivered.map (·.updateDeliveryStatus outcome.1)

/-- A block without a supported layout fails the output. -/
def processUnsupported (processing : Processing) (data : ProcessData) : Processing :=
  let failed := processing.map fun component =>
    { component.raiseStatus .unsupportedLayout with
      releaseChannelPending := true }.mapLedger GeneratedNoteLedger.reportOutputFailure
  let delivered := (failed.retryPendingReleases data.outputEvents).deliverGeneratedNotes data
    true false (some 0)
  delivered.map (·.mapLedger GeneratedNoteLedger.beginBlock)

/-- A boundary that is still pending discards what has been queued. -/
def discardBehindBoundary (component : M3Component) : M3Component :=
  if component.structuralBoundaryPending then component.mapLedger GeneratedNoteLedger.beginBlock
  else component

/-- A block of samples (`process_samples`). -/
def processAudio (processing : Processing) (data : ProcessData) (audio : AudioBlock) : Processing :=
  let released := (processing.retryPendingReleases data.outputEvents).map
    M3Component.commitPreparedConfigIfReleased
  let decided := released.map fun component =>
    discardBehindBoundary ((component.checkInput audio).runDetector data.numSamples.toNat audio)
  let delivered :=
    decided.deliverGeneratedNotes data (!audio.nonfiniteInput) true audio.selectedPeak
  delivered.map (·.mapLedger GeneratedNoteLedger.beginBlock)

/-- The samples of a block, whose layout may not be supported. -/
def processSamples (processing : Processing) (data : ProcessData) : Processing :=
  match data.audio with
  | none => processing.processUnsupported data
  | some audio => processing.processAudio data audio

end Processing

namespace M3Component

/-- One call of the audio thread; the flag tells whether it was accepted. A refused call
blocks the output. An accepted one goes through its parameters, the releases and the samples. -/
def process (component : M3Component) (data : ProcessData) : Bool × Processing :=
  match component.readBatch data with
  | none => (false, { component := component.refuseCall })
  | some batch =>
      let bounded := component.applyBoundary batch
      if data.numSamples = 0 then
        let waiting :=
          if bounded.structuralBoundaryPending then bounded.raiseStatus .reconfiguring else bounded
        (true, { component := waiting })
      else (true, Processing.processSamples { component := bounded } data)

end M3Component

end M3Midi
