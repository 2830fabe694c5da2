import M3Midi.Ledger.GeneratedNoteLedger
import M3Midi.Exchange.Calls
import M3Midi.Exchange.Staging
import M3Midi.Parameter.Boundary
import M3Midi.Detector.Configuration
import M3Midi.Calibration.BankTransport
import M3Midi.Calibration.StateImage

/-! # The plug-in component

The component joins the main thread, which edits and saves the configuration, and
the audio thread, which runs it. The main thread stages structural changes and
publishes them; the audio thread holds a structural boundary open until every note
is released and the matching preparation can be claimed. The detector is known by
its configuration and its calibration bank, and its decisions are part of a block.
-/

namespace M3Midi

open Foundation

/-- The host's processing setup; the sample rate is absent when it is not finite. -/
structure ProcessSetup where
  processMode : Nat := 0
  symbolicSampleSize : Nat := 0
  maxSamplesPerBlock : Int := 0
  sampleRate : Option ℚ := some 0
  deriving DecidableEq

/-- `kRealtime`, `kPrefetch` and `kOffline` are zero, one and two. -/
def isProcessMode (mode : Nat) : Bool := mode ≤ 2

/-- `kOffline` -/
def offlineMode : Nat := 2

/-- Realtime and prefetch may alternate; offline needs a setup of its own. -/
def processModeCompatibleWithSetup (setupMode processMode : Nat) : Bool :=
  if isProcessMode setupMode = false ∨ isProcessMode processMode = false then false
  else if setupMode = offlineMode ∨ processMode = offlineMode then setupMode = processMode
  else true

/-- `kSample32` and `kSample64` are zero and one. -/
def canProcessSampleSize (size : Nat) : Bool := size ≤ 1

/-- `ConfigRequestSnapshot`, a requested configuration with its generation. A later request has a
newer generation. -/
structure ConfigRequestSnapshot where
  config : PersistentConfig := {}
  generation : Generation := 0
  deriving DecidableEq

/-- The request between threads, as one caller after another sees it
(`AtomicConfigRequest::publish`). -/
def ConfigRequestSnapshot.publish (request : ConfigRequestSnapshot) (config : PersistentConfig)
    (generation : Generation) : Bool × ConfigRequestSnapshot :=
  if generationNewer generation request.generation then (true, { config, generation })
  else (false, request)

/-- The detector as the component sees it. What it hears is left out here: a block brings the
transitions of its decisions with it. -/
structure ComponentDetector where
  configuration : DetectorConfiguration := {}
  calibrationBank : StringCalibrationBank := {}
  deriving DecidableEq

/-- The status a host sees, in rising order (`Status`). -/
def Status.rank : Status → Nat
  | .ready => 0
  | .panicHold => 1
  | .reconfiguring => 2
  | .midiOutputBlocked => 3
  | .invalidInputOrState => 4
  | .unsupportedLayout => 5

/-- `M3Component`: what the component keeps for the main thread and for the audio thread. Fields
that neither the configuration, the notes nor the calibration depend on are left out. -/
structure M3Component where
  initialized : Bool := false
  setupComplete : Bool := false
  active : Bool := false
  processing : Bool := false
  processingStartedOnce : Bool := false
  status : Status := .ready
  processSetup : ProcessSetup := {}
  mainConfig : PersistentConfig := {}
  controllerConfig : PersistentConfig := {}
  audioRequestedConfig : PersistentConfig := {}
  activeConfig : PersistentConfig := {}
  pendingStructuralConfig : PersistentConfig := {}
  configRequest : ConfigRequestSnapshot := {}
  setupPrepared : PreparedConfig := {}
  setupPreparedValid : Bool := false
  preparedExchange : PreparedConfigExchange PreparedConfig := { slots := fun _ => { prepared := {} } }
  preparedExchangeInitialized : Bool := false
  preparedClaimPending : Bool := false
  structuralBoundaryPending : Bool := false
  releaseChannelPending : Bool := false
  generatedNotes : GeneratedNoteLedger := {}
  detector : ComponentDetector := {}
  mainGeneration : Generation := 0
  setupGeneration : Generation := 0
  activeGeneration : Generation := 0
  panicRequested : Bool := false
  calibrationRestore : CalibrationBankTransport := .reset
  calibrationPublished : CalibrationBankTransport := .reset
  mainCalibrationBank : StringCalibrationBank := {}
  calibrationRestoreCounter : BitVec 32 := 0
  mainCalibrationRestoreGeneration : BitVec 32 := 0
  audioCalibrationRestoreGeneration : BitVec 32 := 0

namespace M3Component

/-- A status only rises until a commit or a delivery clears it. -/
def raiseStatus (component : M3Component) (status : Status) : M3Component :=
  if status.rank > component.status.rank then { component with status } else component

/-- A change to the ledger only. -/
def mapLedger (component : M3Component) (change : GeneratedNoteLedger → GeneratedNoteLedger) :
    M3Component :=
  { component with generatedNotes := change component.generatedNotes }

/-- The detector takes over a configuration, or is left unconfigured. -/
def configureDetector (component : M3Component) (config : PersistentConfig) :
    Bool × M3Component :=
  let outcome :=
    component.detector.configuration.configure component.processSetup.sampleRate config
  (outcome.1, { component with
    detector := { component.detector with configuration := outcome.2 } })

/-- `initialize`, with the factory's bank. -/
def initializeComponent (component : M3Component) (factory : StringCalibrationBank) :
    Bool × M3Component :=
  if component.initialized then (false, component)
  else
    (true, { component with
      initialized := true
      status := .ready
      mainConfig := {}
      controllerConfig := {}
      audioRequestedConfig := {}
      activeConfig := {}
      pendingStructuralConfig := {}
      mainGeneration := 1
      setupGeneration := 0
      activeGeneration := 0
      configRequest := { generation := 1 }
      setupPrepared := {}
      setupPreparedValid := false
      preparedExchange := component.preparedExchange.reset
      preparedExchangeInitialized := false
      preparedClaimPending := false
      structuralBoundaryPending := false
      releaseChannelPending := false
      generatedNotes := component.generatedNotes.deactivate
      calibrationRestore := .reset
      calibrationPublished := CalibrationBankTransport.reset.publish factory 0
      mainCalibrationBank := factory
      processingStartedOnce := false
      mainCalibrationRestoreGeneration := 0
      audioCalibrationRestoreGeneration := 0
      panicRequested := false
      calibrationRestoreCounter := 0 })

/-- `setupProcessing`: refused while the component is active, and prepared for the new rate
otherwise. -/
def setupProcessing (component : M3Component) (setup : ProcessSetup) : Bool × M3Component :=
  if component.initialized = false ∨ component.active ∨ component.processing ∨
      isProcessMode setup.processMode = false ∨ setup.sampleRate.any (0 < ·) = false ∨
      setup.maxSamplesPerBlock ≤ 0 ∨ setup.maxSamplesPerBlock > maxHostFrames ∨
      canProcessSampleSize setup.symbolicSampleSize = false then
    (false, component)
  else
    let snapshot := component.configRequest
    match stagePreparedConfig snapshot.config setup.sampleRate with
    | none => (false, component)
    | some prepared =>
        (true, { component with
          processSetup := setup
          setupPrepared := prepared
          setupGeneration := snapshot.generation
          setupPreparedValid := true
          mainConfig := snapshot.config
          mainGeneration := snapshot.generation
          setupComplete := true })

/-- The main thread takes the bank the audio thread published last, while no later
restore is under way. -/
def adoptPublishedCalibration (component : M3Component) : M3Component :=
  match component.calibrationPublished.readLatest with
  | none => component
  | some snapshot =>
      if snapshot.generation = component.mainCalibrationRestoreGeneration then
        { component with mainCalibrationBank := snapshot.bank }
      else component

/-- The preparation `setActive` uses: the setup's own, unless it is stale. -/
def preparationFor (component : M3Component) : Option PreparedConfig :=
  let snapshot := component.configRequest
  if component.setupPreparedValid = false ∨ component.setupGeneration ≠ snapshot.generation ∨
      some component.setupPrepared.sampleRate ≠ component.processSetup.sampleRate ∨
      samePersistentConfig component.setupPrepared.requested snapshot.config = false then
    stagePreparedConfig snapshot.config component.processSetup.sampleRate
  else some component.setupPrepared

/-- The activation, once the storage is allocated. The exchange starts with the prepared
configuration, and both threads with the requested one. -/
def activateWith (component : M3Component) (prepared : PreparedConfig) : M3Component :=
  let snapshot := component.configRequest
  let activeConfig := copyRuntimeConfig prepared.requested snapshot.config
  { component with
    preparedExchange :=
      component.preparedExchange.initializeExchange prepared snapshot.generation
    setupPrepared := prepared
    setupGeneration := snapshot.generation
    setupPreparedValid := true
    preparedExchangeInitialized := true
    activeGeneration := snapshot.generation
    mainConfig := snapshot.config
    mainGeneration := snapshot.generation
    activeConfig
    audioRequestedConfig := activeConfig }

/-- The end of a successful activation. -/
def startActive (component : M3Component) : M3Component :=
  { component with
    detector := { component.detector with calibrationBank := component.mainCalibrationBank }
    structuralBoundaryPending := false
    preparedClaimPending := false
    releaseChannelPending :=
      component.generatedNotes.releasePending && component.releaseChannelPending
    active := true
    status := if component.generatedNotes.panicHold then .panicHold else .ready }

/-- The exchange and the storage are given up; what sounds waits for its release. -/
def abandonActivation (component : M3Component) : M3Component :=
  { component with
    preparedExchange := component.preparedExchange.reset
    preparedExchangeInitialized := false
    generatedNotes := component.generatedNotes.releaseStoragePreservingPending }

/-- `setActive(true)`; `granted` tells whether the allocation succeeded. It is refused without a
set-up, and fails when the storage or the detector does. -/
def activate (component : M3Component) (granted : Bool) : Bool × M3Component :=
  if component.initialized = false ∨ component.setupComplete = false ∨ component.active ∨
      component.processing then
    (false, component)
  else match component.preparationFor with
    | none => (false, component)
    | some prepared =>
        match component.generatedNotes.activatePreservingPending
            component.processSetup.maxSamplesPerBlock.toNat granted with
        | (false, ledger) => (false, { component with generatedNotes := ledger })
        | (true, ledger) =>
            let activated := { component with generatedNotes := ledger }.activateWith prepared
            match activated.adoptPublishedCalibration.configureDetector activated.activeConfig with
            | (false, refused) => (false, refused.abandonActivation)
            | (true, configured) => (true, configured.startActive)

/-- `setActive(false)`. An open boundary and its claim are given up, and the notes wait for their
release. -/
def deactivate (component : M3Component) : Bool × M3Component :=
  if component.initialized = false then (false, component)
  else if component.active = false ∧ component.processing = false then (true, component)
  else if component.setupComplete = false ∨ component.processing then (false, component)
  else
    let exchange :=
      if component.preparedClaimPending then component.preparedExchange.cancel.2
      else component.preparedExchange
    (true, { component with
      preparedClaimPending := false
      preparedExchange := exchange.reset
      preparedExchangeInitialized := false
      structuralBoundaryPending := false
      active := false
      generatedNotes := component.generatedNotes.releaseStoragePreservingPending })

/-- `setProcessing`: a stop releases all notes, and a later start begins anew. -/
def setProcessing (component : M3Component) (state : Bool) : Bool × M3Component :=
  if component.initialized = false ∨ component.setupComplete = false ∨
      component.active = false then
    (false, component)
  else if state then
    if component.processing then (false, component)
    else
      let restarted :=
        if component.processingStartedOnce ∨ component.generatedNotes.releasePending then
          (component.mapLedger GeneratedNoteLedger.requestRecovery).raiseStatus .panicHold
        else component
      (true, { restarted with processing := true, processingStartedOnce := true })
  else if component.processing = false then (false, component)
  else
    let released := component.mapLedger GeneratedNoteLedger.requestReleaseAll
    let pending :=
      { released with
        releaseChannelPending :=
          released.generatedNotes.releasePending || released.releaseChannelPending }
    let stopped := (pending.mapLedger GeneratedNoteLedger.requestRecovery).raiseStatus .panicHold
    (true, { stopped with processing := false })

/-- Stage and publish a configuration of the main thread; a structural change also
reaches the audio thread. -/
def publishMainConfig (component : M3Component) (config : PersistentConfig) :
    Bool × M3Component :=
  if samePersistentConfig component.mainConfig config then
    (true, { component with mainConfig := config })
  else
    let structural := !structuralConfigEqual component.mainConfig config
    let staged :=
      if structural && component.setupComplete then
        stagePreparedConfig config component.processSetup.sampleRate
      else some {}
    match staged with
    | none => (false, component)
    | some prepared =>
        let generation := component.mainGeneration + 1
        let offered :=
          if structural && component.active && component.preparedExchangeInitialized then
            component.preparedExchange.publish prepared generation
          else (true, component.preparedExchange)
        let offering := { component with preparedExchange := offered.2 }
        if offered.1 = false then (false, offering)
        else match offering.configRequest.publish config generation with
          | (false, _) => (false, offering)
          | (true, request) =>
              let published :=
                { offering with
                  configRequest := request
                  mainConfig := config
                  mainGeneration := generation }
              if structural && component.setupComplete then
                (true, { published with
                  setupPrepared := prepared
                  setupGeneration := generation
                  setupPreparedValid := true })
              else (true, published)

/-- An edit from the host's controller; a refused edit changes nothing it reports. A panic is asked
of the audio thread, and every other edit publishes a configuration. -/
def setParamNormalized (component : M3Component) (id : ParameterId) (normalized : Option ℚ) :
    Bool × M3Component :=
  match findParameter id with
  | none => (false, component)
  | some spec =>
      if component.initialized = false ∨ spec.readOnly then (false, component)
      else match canonicalNormalizedValue spec normalized with
        | none => (false, component)
        | some plain =>
            match applyParameter component.mainConfig id (some plain) with
            | (.rejected, _) => (false, component)
            | (.panic, _) => (true, { component with panicRequested := true })
            | (_, candidate) =>
                match component.publishMainConfig candidate with
                | (false, refused) => (false, refused)
                | (true, published) => (true, { published with controllerConfig := candidate })

/-- `setState` with the bytes of a stream. The bank is restored only when the configuration has
been published. -/
def setState (component : M3Component) (factory : StringCalibrationBank) (bytes : List Byte) :
    Bool × M3Component :=
  if component.initialized = false then (false, component)
  else match loadState bytes with
    | none => (false, component)
    | some (candidate, loaded) =>
        let calibration := mergeFactoryCalibration factory loaded
        match component.publishMainConfig candidate with
        | (false, refused) => (false, refused)
        | (true, published) =>
            let generation := published.calibrationRestoreCounter + 1
            (true, { published with
              calibrationRestoreCounter := generation
              mainCalibrationBank := calibration
              mainCalibrationRestoreGeneration := generation
              calibrationRestore := published.calibrationRestore.publish calibration generation })

/-- `getState`, with the bytes it writes to a stream that takes them all. -/
def getState (component : M3Component) : Option (List Byte) × M3Component :=
  if component.initialized = false then (none, component)
  else
    let adopted := component.adoptPublishedCalibration
    (saveState component.configRequest.config adopted.mainCalibrationBank, adopted)

end M3Component

end M3Midi
