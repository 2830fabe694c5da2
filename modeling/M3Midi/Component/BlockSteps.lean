import M3Midi.Component.BlockStream

/-! # One block of an undisturbed stream

With no boundary pending and nothing waiting for its release, a finite block of a stream queues
what the detector decides and delivers it. A blocked output hears nothing more.
-/

namespace M3Midi

open Foundation GeneratedNoteLedger

namespace M3Component

/-- What a stream of blocks needs of the component, and leaves as it is. -/
structure Flowing (component : M3Component) (maxFrames : ℕ) (config : PersistentConfig) : Prop where
  processing : component.processing = true
  mode : processModeCompatibleWithSetup component.processSetup.processMode
    component.processSetup.processMode = true
  frames : component.processSetup.maxSamplesPerBlock = maxFrames
  limit : maxFrames ≤ maxHostFrames
  settled : component.structuralBoundaryPending = false
  calm : component.panicRequested = false
  configured : component.detector.configuration.configured = true
  active : component.activeConfig = config

variable {component : M3Component} {maxFrames : ℕ} {config : PersistentConfig}

namespace Flowing

/-- A component that runs without a boundary runs on, whatever happens to its ledger. -/
theorem mapLedger (flowing : Flowing component maxFrames config)
    (change : GeneratedNoteLedger → GeneratedNoteLedger) :
    Flowing (component.mapLedger change) maxFrames config :=
  ⟨flowing.processing, flowing.mode, flowing.frames, flowing.limit, flowing.settled, flowing.calm,
    flowing.configured, flowing.active⟩

/-- Its status does not matter, either. -/
theorem withStatus (flowing : Flowing component maxFrames config) (status : Status) :
    Flowing { component with status } maxFrames config :=
  ⟨flowing.processing, flowing.mode, flowing.frames, flowing.limit, flowing.settled, flowing.calm,
    flowing.configured, flowing.active⟩

/-- A status that is raised does not matter. -/
theorem raiseStatus (flowing : Flowing component maxFrames config) (status : Status) :
    Flowing (component.raiseStatus status) maxFrames config := by
  unfold M3Component.raiseStatus
  split_ifs
  · exact flowing.withStatus status
  · exact flowing

/-- The status after a delivery does not matter. -/
theorem updateDeliveryStatus (flowing : Flowing component maxFrames config)
    (result : NoteDeliveryResult) :
    Flowing (component.updateDeliveryStatus result) maxFrames config := by
  unfold M3Component.updateDeliveryStatus
  split_ifs
  · exact flowing.raiseStatus _
  · exact flowing.raiseStatus _
  · exact flowing.withStatus _
  · exact flowing

/-- Whether a channel is to be released does not matter. -/
theorem releaseChannel (flowing : Flowing component maxFrames config) (pending : Bool) :
    Flowing { component with releaseChannelPending := pending } maxFrames config :=
  ⟨flowing.processing, flowing.mode, flowing.frames, flowing.limit, flowing.settled, flowing.calm,
    flowing.configured, flowing.active⟩

/-- Without changes, a call only adopts a restored calibration. -/
theorem applyBoundary (flowing : Flowing component maxFrames config) {batch : ParameterBatch}
    (unchanged : batch.changed = false) (calm : batch.panic = false) :
    Flowing (component.applyBoundary batch) maxFrames config ∧
      (component.applyBoundary batch).generatedNotes = component.generatedNotes := by
  have batched : component.applyBatch batch = component := if_pos unchanged
  have quiet : component.applyPanic batch.panic = component := by
    rw [applyPanic, calm, flowing.calm, if_neg (by decide), if_neg (by decide)]
  unfold M3Component.applyBoundary
  rw [batched, quiet]
  unfold applyCalibrationRestore
  split
  · exact ⟨flowing, rfl⟩
  · split_ifs
    · exact ⟨flowing, rfl⟩
    · exact ⟨⟨flowing.processing, flowing.mode, flowing.frames, flowing.limit, flowing.settled,
        flowing.calm, flowing.configured, flowing.active⟩, rfl⟩

/-- No boundary waits for a commit. -/
theorem commit (flowing : Flowing component maxFrames config) :
    component.commitPreparedConfigIfReleased = component := if_pos flowing.settled

/-- Without a boundary nothing is dropped behind it. -/
theorem discard (flowing : Flowing component maxFrames config) :
    Processing.discardBehindBoundary component = component := by
  rw [Processing.discardBehindBoundary, flowing.settled]
  rfl

end Flowing

section Queue

variable {decisions : ℕ → List VoiceTransition} {ledger : GeneratedNoteLedger} {frames : ℕ}

/-- A decision that there is room for enters the queue behind the earlier frames. -/
theorem queueDecision_queued {frame : ℕ} {transitions front back : List VoiceTransition}
    (queued : ledger.queue = front ++ back) (earlier : ∀ event ∈ front, event.sampleOffset < frame)
    (allocated : ledger.allocated = true) (within : frame < frames)
    (fits : frames ≤ ledger.maxFrames)
    (room : ledger.queue.length + transitions.length ≤ ledger.capacity)
    (valid : ∀ transition ∈ transitions, validTransition transition = true) :
    queueDecision frames frame transitions ledger =
      { ledger with queue := front ++ tickQueue frame transitions back } := by
  induction transitions generalizing ledger back with
  | nil =>
      rw [queueDecision]
      change ledger = { ledger with queue := front ++ back }
      rw [← queued]
  | cons transition transitions ih =>
      obtain ⟨fine, others⟩ := List.forall_mem_cons.mp valid
      rw [List.length_cons] at room
      have checked : validTransition { transition with sampleOffset := frame } = true := fine
      have accepted : ledger.queueTransition { transition with sampleOffset := frame } frames =
          (true, { ledger with
            queue := insertFromBack transitionBefore (transition.atOffset frame) ledger.queue }) := by
        unfold queueTransition
        refine if_neg ?_
        rw [checked, allocated]
        simp only [Bool.true_eq_false, false_or, or_false, not_or]
        omega
      have stops := @tickQueue_append frame front earlier [transition] back
      have entered : insertFromBack transitionBefore (transition.atOffset frame) ledger.queue =
          front ++ insertFromBack transitionBefore (transition.atOffset frame) back := by
        rw [queued]
        exact stops
      rw [queueDecision, accepted]
      dsimp only
      rw [entered, tickQueue_cons]
      refine @ih { ledger with
        queue := front ++ insertFromBack transitionBefore (transition.atOffset frame) back } _ rfl
        allocated fits ?_ others
      rw [← entered]
      change (insertFromBack transitionBefore (transition.atOffset frame) ledger.queue).length +
        transitions.length ≤ ledger.capacity
      rw [length_insertFromBack]
      omega

/-- The detector loop comes to every frame and queues every decision. By induction on the frames of
the block. -/
theorem queueDecisions_queued {first count : ℕ} (unblocked : ledger.outputBlocked = false)
    (earlier : ∀ event ∈ ledger.queue, event.sampleOffset < first)
    (allocated : ledger.allocated = true) (within : first + count = frames)
    (fits : frames ≤ ledger.maxFrames)
    (room : ledger.queue.length + ((List.range' first count).flatMap decisions).length ≤
      ledger.capacity)
    (valid : ∀ frame, ∀ transition ∈ decisions frame, validTransition transition = true) :
    queueDecisions frames decisions (List.range' first count) ledger =
        { ledger with
          queue := ledger.queue ++ blockQueue decisions (List.range' first count) } ∧
      reachedFrames frames decisions (List.range' first count) ledger =
        List.range' first count := by
  induction count generalizing first ledger with
  | zero =>
      refine ⟨?_, rfl⟩
      change ledger = { ledger with queue := ledger.queue ++ [] }
      rw [List.append_nil]
  | succ count ih =>
      rw [List.range'_succ, List.flatMap_cons, List.length_append] at room
      have queued := queueDecision_queued (List.append_nil _).symm earlier allocated
        (by omega) fits (by omega) (valid first)
      rw [List.range'_succ, queueDecisions, reachedFrames, queued]
      dsimp only
      have open_ := Bool.eq_false_iff.mp unblocked
      rw [if_neg open_, if_neg open_]
      have later := @ih { ledger with
        queue := ledger.queue ++ tickQueue first (decisions first) [] } (first + 1) unblocked ?_
        allocated (by omega) fits ?_
      · rw [later.1, later.2]
        refine ⟨?_, rfl⟩
        dsimp only
        rw [List.append_assoc]
        rfl
      · intro event member
        rcases List.mem_append.mp member with before | here
        · exact Nat.lt_succ_of_lt (earlier event before)
        · rcases mem_tickQueue here with impossible | ⟨transition, -, rfl⟩
          · cases impossible
          · exact Nat.lt_succ_self first
      · change (ledger.queue ++ tickQueue first (decisions first) []).length + _ ≤ ledger.capacity
        rw [List.length_append, length_tickQueue, List.length_nil]
        omega

end Queue

section Call

variable {layout : ChannelLayout} {block : StreamBlock layout}
  {outcomes : ℕ → Option DetectorDecision}

/-- A block brings no changes. -/
theorem readBatch_stream (flowing : Flowing component maxFrames config)
    (sized : block.frames.length ≤ maxFrames) :
    component.readBatch (blockData component block outcomes) =
      some { candidate := component.audioRequestedConfig } := by
  have unwritten (specs : List ParameterSpec) (batch : ParameterBatch) :
      specs.foldlM (applyBoundaryValue []) batch = some batch := by
    induction specs with
    | nil => rfl
    | cons spec specs ih =>
        rw [List.foldlM_cons]
        exact ih
  have small : (block.frames.length : Int) ≤ component.processSetup.maxSamplesPerBlock := by
    rw [flowing.frames]
    exact_mod_cast sized
  have short : (block.frames.length : Int) ≤ maxHostFrames := by
    exact_mod_cast sized.trans flowing.limit
  have accepted : component.acceptsCall (blockData component block outcomes) = true := by
    unfold acceptsCall blockData
    dsimp only
    rw [flowing.processing, flowing.mode]
    simp [small, short]
  have writes : boundaryWrites (block.frames.length : Int) none = some [] :=
    if_neg (Int.not_lt.mpr (Int.natCast_nonneg _))
  unfold readBatch
  rw [if_pos accepted]
  change readLastBoundaryValues none (block.frames.length : Int) _ = _
  unfold readLastBoundaryValues
  rw [writes]
  exact unwritten _ _

/-- The call of a block comes to its samples as it was. -/
theorem process_stream (flowing : Flowing component maxFrames config)
    (sized : 1 ≤ block.frames.length ∧ block.frames.length ≤ maxFrames) {audio : AudioBlock}
    (samples : (blockData component block outcomes).audio = some audio) :
    ∃ bounded : M3Component, Flowing bounded maxFrames config ∧
      bounded.generatedNotes = component.generatedNotes ∧
      component.beforeCommit (blockData component block outcomes) =
        some (Processing.retryPendingReleases { component := bounded } acceptingEvents) ∧
      (component.process (blockData component block outcomes)).2 =
        Processing.processAudio { component := bounded } (blockData component block outcomes)
          audio := by
  have read := @readBatch_stream component maxFrames config layout block outcomes flowing sized.2
  have nonempty : ¬ (blockData component block outcomes).numSamples = 0 := by
    intro empty
    have none : (block.frames.length : Int) = 0 := empty
    omega
  obtain ⟨bounds, kept⟩ := @Flowing.applyBoundary component maxFrames config flowing
    { candidate := component.audioRequestedConfig } rfl rfl
  refine ⟨_, bounds, kept, ?_, ?_⟩
  · unfold beforeCommit
    rw [read, Option.bind_some, if_neg nonempty, samples]
    rfl
  · unfold process
    rw [read]
    dsimp only
    rw [if_neg nonempty]
    unfold Processing.processSamples
    rw [samples]

end Call

end M3Component

namespace Processing

open M3Component

variable {component : M3Component} {maxFrames : ℕ} {config : PersistentConfig}

/-- Releases that are tried again let the component run on. -/
theorem flowing_retry {processing : Processing}
    (flowing : Flowing processing.component maxFrames config) (events : EventList) :
    Flowing (processing.retryPendingReleases events).component maxFrames config := by
  have flows : Flowing (processing.withDelivery (processing.delivery.retryPendingReleases
      (vst3EventSink events)).2).component maxFrames config :=
    flowing.mapLedger fun _ => (processing.delivery.retryPendingReleases
      (vst3EventSink events)).2.ledger
  unfold Processing.retryPendingReleases
  dsimp only
  split_ifs
  · exact flows.raiseStatus _
  · exact flows.releaseChannel false
  · exact flows

theorem flowing_deliver {processing : Processing}
    (flowing : Flowing processing.component maxFrames config) (data : ProcessData)
    (finiteInput supported : Bool) (peak : Option ℚ) :
    Flowing (processing.deliverGeneratedNotes data finiteInput supported peak).component maxFrames
      config := by
  unfold Processing.deliverGeneratedNotes
  dsimp only
  split_ifs
  · exact flowing.mapLedger fun _ => _
  · exact (flowing.mapLedger fun _ => _).updateDeliveryStatus _

/-- A retry with nothing to release completes the cleanup. -/
theorem retry_idle (flowing : Flowing component maxFrames config)
    (receptive : Receptive maxFrames component.generatedNotes) (events : EventList) :
    let retried := Processing.retryPendingReleases { component := component } events
    Flowing retried.component maxFrames config ∧ retried.pushed = [] ∧
      Receptive maxFrames retried.component.generatedNotes ∧
      retried.component.generatedNotes = Delivery.completeCleanup component.generatedNotes := by
  have idle : Delivery.retryPendingReleases
      (Processing.delivery { component := component }) (vst3EventSink events) =
        (true, ⟨Delivery.completeCleanup component.generatedNotes, []⟩) :=
    if_pos receptive.releasePending
  have view := (SealedIn.retry_view { component := component } events).1
  rw [idle] at view
  have notes := congrArg Delivery.ledger view
  change (Processing.retryPendingReleases _ _).component.generatedNotes = _ at notes
  refine ⟨flowing_retry flowing events, congrArg Delivery.pushed view, ?_, notes⟩
  rw [notes]
  exact ⟨receptive.allocated, receptive.room, receptive.frames, receptive.awake,
    receptive.unblocked, receptive.released⟩

/-- The answers of the sink on a list that takes every event. -/
def acceptingAnswer (_pushed : List Push) (event : VoiceTransition) (channel : ℕ) : Bool :=
  validVst3Note event channel

/-- The host list that takes every event answers every push with yes. -/
theorem acceptingSink : vst3EventSink acceptingEvents = some acceptingAnswer := by
  refine congrArg some (funext fun pushed => funext fun event => funext fun channel => ?_)
  exact Bool.and_true _

/-- Such a sink takes a valid event on every channel. -/
theorem accepts_valid {event : VoiceTransition} (valid : validTransition event = true)
    (early : event.sampleOffset ≤ 2 ^ 31 - 1) : Delivery.Accepts acceptingAnswer event := by
  intro pushed channel there
  simp only [validChannel, Bool.and_eq_true, decide_eq_true_eq] at there
  unfold validTransition at valid
  unfold acceptingAnswer validVst3Note
  cases kind : event.kind with
  | noteOff =>
      rw [kind] at valid
      simp only [Bool.and_eq_true, decide_eq_true_eq] at valid ⊢
      exact ⟨⟨⟨there, valid.1.1⟩, valid.1.2⟩, early⟩
  | noteOn =>
      rw [kind] at valid
      simp only [Bool.and_eq_true, decide_eq_true_eq] at valid ⊢
      exact ⟨⟨⟨there, valid.1.1⟩, valid.1.2⟩, early⟩

variable {data : ProcessData} {audio : AudioBlock} {count : ℕ}

/-- In a finite block the detector loop queues every decision. -/
theorem detect_finite (flowing : Flowing component maxFrames config)
    (receptive : Receptive maxFrames component.generatedNotes)
    (empty : component.generatedNotes.queue = []) (finite : audio.nonfiniteInput = false)
    (small : count ≤ maxFrames)
    (room : ((List.range' 0 count).flatMap audio.decisions).length ≤
      (maxFrames + decisionQuantum - 1) / decisionQuantum * maxTickTransitions)
    (valid : ∀ frame, ∀ transition ∈ audio.decisions frame, validTransition transition = true) :
    discardBehindBoundary ((component.checkInput audio).runDetector count audio) =
        component.mapLedger (fun ledger =>
          { ledger with queue := blockQueue audio.decisions (List.range' 0 count) }) ∧
      (component.checkInput audio).detectorAllowed audio = true ∧
      reachedFrames count audio.decisions (List.range count)
        (component.checkInput audio).generatedNotes = List.range count := by
  have same : component.checkInput audio = component :=
    if_neg (Bool.eq_false_iff.mp finite)
  have allowed : component.detectorAllowed audio = true := by
    unfold detectorAllowed
    rw [finite, flowing.settled, receptive.releasePending, receptive.unblocked, receptive.awake]
    rfl
  have queued := @queueDecisions_queued audio.decisions component.generatedNotes count 0 count
    receptive.unblocked (by rw [empty]; exact fun _ member => absurd member List.not_mem_nil)
    receptive.allocated (Nat.zero_add _) (small.trans receptive.frames.ge)
    (by rw [empty]; simpa using room.trans receptive.room) valid
  rw [empty, List.nil_append, ← List.range_eq_range'] at queued
  rw [same]
  refine ⟨?_, allowed, queued.2⟩
  unfold M3Component.runDetector
  rw [if_pos ⟨allowed, flowing.configured⟩]
  have discarded := (flowing.mapLedger (queueDecisions count audio.decisions
    (List.range count))).discard
  rw [discarded, M3Component.mapLedger, queued.1, ← List.range_eq_range']
  rfl

/-- A valid queue is delivered up to the first event that is refused. The event that is refused
latches the output, and what stands behind it is not looked at. -/
theorem deliver_valid {processing : Processing}
    (flowing : Flowing processing.component maxFrames config)
    (receptive : Receptive maxFrames processing.component.generatedNotes)
    (events : data.outputEvents = acceptingEvents) (frames : data.numSamples = count)
    (sized : 1 ≤ count ∧ count ≤ maxFrames)
    (valid : ∀ event ∈ processing.component.generatedNotes.queue,
      validTransition event = true ∧ event.sampleOffset < count)
    (finiteInput supported : Bool) (peak : Option ℚ) :
    let after := processing.deliverGeneratedNotes data finiteInput supported peak
    ∃ invalid : Bool,
      let taken := takeEvents config.midiRouting config.midiChannel
        processing.component.generatedNotes.queue
        { processing.component.generatedNotes with invalidTransition := invalid }
      Flowing after.component maxFrames config ∧
        after.pushed = processing.pushed ++
          taken.1.map (fun event => ⟨event.1, event.2, true⟩) ∧
        after.component.generatedNotes.Ends taken.2 := by
  let request : DeliveryRequest := {
    frames := data.numSamples.toNat
    sink := vst3EventSink data.outputEvents
    selectedPeak := peak
    finiteInput := finiteInput
    supportedLayout := supported
    routing := processing.component.activeConfig.midiRouting
    startChannel := processing.component.activeConfig.midiChannel }
  have counted : request.frames = count := congrArg Int.toNat frames
  have short : count ≤ 2 ^ 31 :=
    sized.2.trans (flowing.limit.trans (by norm_num [maxHostFrames]))
  obtain ⟨invalid, pushed, outcome⟩ := @Delivery.deliverQueued_take processing.delivery request
    acceptingAnswer maxFrames receptive ((congrArg vst3EventSink events).trans acceptingSink)
    (counted.symm ▸ sized)
    (fun event member => accepts_valid (valid event member).1
      (Nat.le_sub_one_of_lt ((valid event member).2.trans_le short)))
    (fun event member => counted.symm ▸ (valid event member).2)
    fun event member => validTransition_note (valid event member).1
  have routed : request.routing = config.midiRouting :=
    congrArg PersistentConfig.midiRouting flowing.active
  have started : request.startChannel = config.midiChannel :=
    congrArg PersistentConfig.midiChannel flowing.active
  rw [routed, started] at pushed outcome
  have view := (SealedIn.deliver_view processing data finiteInput supported peak).1
  have ledgers := congrArg Delivery.ledger view
  change (processing.deliverGeneratedNotes _ _ _ _).component.generatedNotes = _ at ledgers
  refine ⟨invalid, flowing_deliver flowing data finiteInput supported peak,
    (congrArg Delivery.pushed view).trans pushed, ?_⟩
  rw [ledgers]
  exact outcome

/-- A finite block is queued and delivered, and the ledger is settled again. Parameters, decisions,
delivery and the end of the block are taken one after the other. -/
theorem processAudio_finite (flowing : Flowing component maxFrames config)
    (receptive : Receptive maxFrames component.generatedNotes)
    (empty : component.generatedNotes.queue = []) (finite : audio.nonfiniteInput = false)
    (events : data.outputEvents = acceptingEvents) (frames : data.numSamples = count)
    (sized : 1 ≤ count ∧ count ≤ maxFrames)
    (room : ((List.range' 0 count).flatMap audio.decisions).length ≤
      (maxFrames + decisionQuantum - 1) / decisionQuantum * maxTickTransitions)
    (valid : ∀ frame, ∀ transition ∈ audio.decisions frame, validTransition transition = true) :
    let after := Processing.processAudio { component := component } data audio
    let taken := takeEvents config.midiRouting config.midiChannel
      (blockQueue audio.decisions (List.range' 0 count)) component.generatedNotes.settled
    Flowing after.component maxFrames config ∧
      after.pushed = taken.1.map (fun event => ⟨event.1, event.2, true⟩) ∧
      after.component.generatedNotes.Ends taken.2 := by
  obtain ⟨flows, silent, ready, notes⟩ := retry_idle flowing receptive data.outputEvents
  generalize retried : Processing.retryPendingReleases { component := component }
    data.outputEvents = released at flows silent ready notes
  have idle : released.component.generatedNotes.queue = [] := by
    rw [notes]
    exact empty
  have detected := (detect_finite flows ready idle finite sized.2 room valid).1
  let queue := blockQueue audio.decisions (List.range' 0 count)
  let decided : Processing := { released with
    component := released.component.mapLedger fun ledger => { ledger with queue := queue } }
  have counted : data.numSamples.toNat = count := congrArg Int.toNat frames
  have inRange : ∀ event ∈ queue, validTransition event = true ∧ event.sampleOffset < count := by
    intro event member
    obtain ⟨frame, within, queued⟩ := List.mem_flatMap.mp member
    rcases mem_tickQueue queued with impossible | ⟨transition, decides, rfl⟩
    · cases impossible
    · have bound := (List.mem_range'_1.mp within).2
      rw [Nat.zero_add] at bound
      exact ⟨valid frame transition decides, bound⟩
  have receives : Receptive maxFrames decided.component.generatedNotes :=
    ⟨ready.allocated, ready.room, ready.frames, ready.awake, ready.unblocked, ready.released⟩
  obtain ⟨invalid, flowsOn, pushed, ends⟩ := @deliver_valid maxFrames config data count decided
    (flows.mapLedger fun ledger => { ledger with queue := queue }) receives events frames sized inRange true true audio.selectedPeak
  have processed : Processing.processAudio { component := component } data audio =
      (decided.deliverGeneratedNotes data true true audio.selectedPeak).map
        (·.mapLedger GeneratedNoteLedger.beginBlock) := by
    have committed : released.map commitPreparedConfigIfReleased = released := by
      rw [Processing.map, flows.commit]
    have ran : (released.map fun component =>
        discardBehindBoundary ((component.checkInput audio).runDetector count audio)) =
          decided := by
      rw [Processing.map, detected]
    unfold Processing.processAudio
    dsimp only
    rw [retried, committed, counted, ran, finite, Bool.not_false]
  have settles : { decided.component.generatedNotes with invalidTransition := invalid }.settled =
      component.generatedNotes.settled := by
    change { released.component.generatedNotes with invalidTransition := invalid }.settled = _
    rw [notes]
    rfl
  rw [processed, ← settles, takeEvents_settled]
  refine ⟨flowsOn.mapLedger _, pushed.trans ?_, ?_⟩
  · change released.pushed ++ _ = _
    rw [silent]
    rfl
  · have cleaned : ({ decided.component.generatedNotes with
        invalidTransition := invalid } : GeneratedNoteLedger).cleanupComplete = true := by
      change released.component.generatedNotes.cleanupComplete = true
      rw [notes]
      rfl
    exact ends.beginBlock fun next taken => (takeEvents_cleanupComplete taken).trans cleaned

/-- Every sample of a finite block is given to the detector. -/
theorem givenFrames_finite {caller : M3Component}
    (came : caller.beforeCommit data =
      some (Processing.retryPendingReleases { component := component } data.outputEvents))
    (samples : data.audio = some audio) (flowing : Flowing component maxFrames config)
    (receptive : Receptive maxFrames component.generatedNotes)
    (empty : component.generatedNotes.queue = []) (finite : audio.nonfiniteInput = false)
    (frames : data.numSamples = count) (small : count ≤ maxFrames)
    (room : ((List.range' 0 count).flatMap audio.decisions).length ≤
      (maxFrames + decisionQuantum - 1) / decisionQuantum * maxTickTransitions)
    (valid : ∀ frame, ∀ transition ∈ audio.decisions frame, validTransition transition = true) :
    caller.givenFrames data = List.range count := by
  obtain ⟨flows, -, ready, notes⟩ := retry_idle flowing receptive data.outputEvents
  generalize Processing.retryPendingReleases { component := component } data.outputEvents =
    released at came flows ready notes
  have idle : released.component.generatedNotes.queue = [] := by
    rw [notes]
    exact empty
  obtain ⟨-, allowed, reached⟩ := detect_finite flows ready idle finite small room valid
  have configured : (released.component.checkInput audio).detector.configuration.configured =
      true := by
    rw [M3Component.checkInput, if_neg (Bool.eq_false_iff.mp finite)]
    exact flows.configured
  have counted : data.numSamples.toNat = count := congrArg Int.toNat frames
  unfold givenFrames
  rw [came, samples]
  dsimp only
  rw [flows.commit, if_pos ⟨allowed, configured⟩, counted, reached]

/-- No slot holds a note. -/
def Unoccupied (ledger : GeneratedNoteLedger) : Prop :=
  ∀ slot, (ledger.voices slot).occupied = false

/-- Where no slot is occupied, none waits for its release. -/
theorem Unoccupied.releasePending {ledger : GeneratedNoteLedger} (unoccupied : Unoccupied ledger) :
    ledger.releasePending = false := by
  refine List.any_eq_false.mpr fun slot _ waits => ?_
  have free := unoccupied slot
  rw [ActiveVoice.occupied, waits, Bool.or_true] at free
  cases free

/-- The latch of the output occupies no slot. -/
theorem Unoccupied.enterBlocked {ledger : GeneratedNoteLedger} (unoccupied : Unoccupied ledger) :
    Unoccupied ledger.enterBlocked := by
  intro slot
  have free := unoccupied slot
  simp only [ActiveVoice.occupied, Bool.or_eq_false_iff] at free
  change ((ledger.voices slot).active ||
    ((ledger.voices slot).active || (ledger.voices slot).pendingRelease)) = false
  rw [free.1, free.2]
  rfl

/-- A retry keeps a blocked output blocked, and is silent where no slot holds a note. -/
theorem retry_blocked (awake : component.generatedNotes.panicHold = false) (events : EventList) :
    let retried := Processing.retryPendingReleases { component := component } events
    retried.component.generatedNotes.panicHold = false ∧
      (component.generatedNotes.outputBlocked = true →
        retried.component.generatedNotes.outputBlocked = true) ∧
      (Unoccupied component.generatedNotes →
        retried.pushed = [] ∧ Unoccupied retried.component.generatedNotes) := by
  let delivery : Delivery := Processing.delivery { component := component }
  have guards : Guards component.generatedNotes
      (delivery.retryPendingReleases (vst3EventSink events)).2.ledger :=
    @Delivery.retryPendingReleases_guards delivery (vst3EventSink events)
  have view := (SealedIn.retry_view { component := component } events).1
  have notes := congrArg Delivery.ledger view
  change (Processing.retryPendingReleases _ _).component.generatedNotes = _ at notes
  rw [← notes] at guards
  refine ⟨guards.hold.trans awake, guards.blocked, fun unoccupied => ?_⟩
  have idle : delivery.retryPendingReleases (vst3EventSink events) =
      (true, delivery.mapLedger Delivery.completeCleanup) := if_pos unoccupied.releasePending
  have silent := congrArg (fun outcome => outcome.2.pushed) idle
  have free := congrArg (fun outcome => outcome.2.ledger) idle
  refine ⟨(congrArg Delivery.pushed view).trans silent, ?_⟩
  rw [notes.trans free]
  exact unoccupied

/-- A delivery behind a blocked output pushes nothing and leaves it blocked. -/
theorem deliver_blocked {processing : Processing}
    (awake : processing.component.generatedNotes.panicHold = false)
    (blocked : processing.component.generatedNotes.outputBlocked = true)
    (finiteInput supported : Bool) (peak : Option ℚ) :
    let after := processing.deliverGeneratedNotes data finiteInput supported peak
    after.pushed = processing.pushed ∧
      after.component.generatedNotes.outputBlocked = true ∧
      after.component.generatedNotes.panicHold = false ∧
      after.component.generatedNotes.voices = processing.component.generatedNotes.voices := by
  let request : DeliveryRequest := {
    frames := data.numSamples.toNat
    sink := vst3EventSink data.outputEvents
    selectedPeak := peak
    finiteInput := finiteInput
    supportedLayout := supported
    routing := processing.component.activeConfig.midiRouting
    startChannel := processing.component.activeConfig.midiChannel }
  let checked := Delivery.checkRequest request processing.component.generatedNotes
  have outcome : ∃ invalid : Bool, (processing.delivery.deliverQueued request).2 =
      ⟨{ processing.component.generatedNotes with invalidTransition := invalid },
        processing.pushed⟩ := by
    rcases Delivery.deliverQueued_cases processing.delivery request with refused | ended
    · exact ⟨true, refused⟩
    · refine ⟨checked.invalidTransition, ended.trans ?_⟩
      have closed : ¬ (checked.releasePending = false ∧ checked.outputBlocked = false) := by
        rintro ⟨-, opened⟩
        exact Bool.noConfusion (blocked.symm.trans opened)
      have held : processing.delivery.beforeHold request =
          processing.delivery.mapLedger (Delivery.checkRequest request) := if_neg closed
      have still : checked.finishHold request = checked := if_pos awake
      rw [held]
      exact congrArg (fun ledger => (⟨ledger, processing.pushed⟩ : Delivery)) still
  obtain ⟨invalid, same⟩ := outcome
  have view := (SealedIn.deliver_view processing data finiteInput supported peak).1.trans same
  have ledgers := congrArg Delivery.ledger view
  change (processing.deliverGeneratedNotes _ _ _ _).component.generatedNotes = _ at ledgers
  dsimp only
  rw [ledgers]
  exact ⟨congrArg Delivery.pushed view, blocked, awake, rfl⟩

/-- Input that is not finite blocks the output. -/
theorem checkInput_unheard (flowing : Flowing component maxFrames config)
    (awake : component.generatedNotes.panicHold = false)
    (unheard : component.generatedNotes.outputBlocked = true ∨ audio.nonfiniteInput = true) :
    Flowing (component.checkInput audio) maxFrames config ∧
      (component.checkInput audio).generatedNotes.outputBlocked = true ∧
      (component.checkInput audio).generatedNotes.panicHold = false ∧
      (Unoccupied component.generatedNotes →
        Unoccupied (component.checkInput audio).generatedNotes) := by
  unfold M3Component.checkInput
  split_ifs with nonfinite
  · have raised : (component.raiseStatus .invalidInputOrState).generatedNotes =
        component.generatedNotes := by
      unfold M3Component.raiseStatus
      split_ifs <;> rfl
    refine ⟨((flowing.raiseStatus _).releaseChannel true).mapLedger _, rfl, ?_, ?_⟩
    · exact (congrArg panicHold raised).trans awake
    · intro unoccupied
      have free : Unoccupied (component.raiseStatus .invalidInputOrState).generatedNotes := by
        rw [raised]
        exact unoccupied
      exact free.enterBlocked
  · rcases unheard with blocked | impossible
    · exact ⟨flowing, blocked, awake, id⟩
    · exact absurd impossible nonfinite

/-- A blocked output keeps the detector from running. -/
theorem detectorAllowed_blocked (blocked : component.generatedNotes.outputBlocked = true) :
    component.detectorAllowed audio = false := by
  unfold M3Component.detectorAllowed
  rw [blocked, Bool.not_true, Bool.and_false, Bool.false_and]

/-- A block that is not heard: its output is blocked, or some sample is not finite. -/
theorem processAudio_unheard (flowing : Flowing component maxFrames config)
    (awake : component.generatedNotes.panicHold = false)
    (unheard : component.generatedNotes.outputBlocked = true ∨ audio.nonfiniteInput = true) :
    let after := Processing.processAudio { component := component } data audio
    Flowing after.component maxFrames config ∧
      after.component.generatedNotes.outputBlocked = true ∧
      after.component.generatedNotes.panicHold = false ∧
      (Unoccupied component.generatedNotes →
        after.pushed = [] ∧ Unoccupied after.component.generatedNotes) := by
  have flows := @flowing_retry maxFrames config { component := component } flowing
    data.outputEvents
  obtain ⟨hold, stays, quiet⟩ := @retry_blocked component awake data.outputEvents
  generalize retried : Processing.retryPendingReleases { component := component }
    data.outputEvents = released at flows hold stays quiet
  obtain ⟨checks, closed, calm, free⟩ := @checkInput_unheard released.component maxFrames config
    audio flows hold (unheard.imp stays id)
  let checked : Processing := { released with component := released.component.checkInput audio }
  have committed : released.map commitPreparedConfigIfReleased = released := by
    rw [Processing.map, flows.commit]
  have ran : (released.map fun component => discardBehindBoundary
      ((component.checkInput audio).runDetector data.numSamples.toNat audio)) = checked := by
    have idle : (released.component.checkInput audio).runDetector data.numSamples.toNat audio =
        released.component.checkInput audio := by
      refine if_neg fun allowed => ?_
      rw [detectorAllowed_blocked closed] at allowed
      exact Bool.noConfusion allowed.1
    rw [Processing.map, idle, checks.discard]
  have delivered := @flowing_deliver maxFrames config checked checks data (!audio.nonfiniteInput)
    true audio.selectedPeak
  obtain ⟨pushed, blocked, awakeStill, voices⟩ := @deliver_blocked data checked calm closed
    (!audio.nonfiniteInput) true audio.selectedPeak
  unfold Processing.processAudio
  dsimp only
  rw [retried, committed, ran]
  refine ⟨delivered.mapLedger _, blocked, awakeStill, fun unoccupied => ?_⟩
  obtain ⟨silent, still⟩ := quiet unoccupied
  refine ⟨pushed.trans silent, fun slot => ?_⟩
  have same := congrFun voices slot
  change (((checked.deliverGeneratedNotes data (!audio.nonfiniteInput) true
    audio.selectedPeak).component.generatedNotes.voices slot).occupied) = false
  rw [same]
  exact free still slot

/-- Nothing of such a block is given to the detector. -/
theorem givenFrames_unheard {caller : M3Component}
    (came : caller.beforeCommit data =
      some (Processing.retryPendingReleases { component := component } data.outputEvents))
    (samples : data.audio = some audio) (flowing : Flowing component maxFrames config)
    (awake : component.generatedNotes.panicHold = false)
    (unheard : component.generatedNotes.outputBlocked = true ∨ audio.nonfiniteInput = true) :
    caller.givenFrames data = [] := by
  have flows := @flowing_retry maxFrames config { component := component } flowing
    data.outputEvents
  obtain ⟨hold, stays, -⟩ := @retry_blocked component awake data.outputEvents
  generalize Processing.retryPendingReleases { component := component } data.outputEvents =
    released at came flows hold stays
  obtain ⟨-, closed, -, -⟩ := @checkInput_unheard released.component maxFrames config audio
    flows hold (unheard.imp stays id)
  unfold givenFrames
  rw [came, samples]
  dsimp only
  rw [flows.commit, detectorAllowed_blocked closed]
  exact if_neg fun allowed => Bool.noConfusion allowed.1

end Processing

end M3Midi
