import M3Midi.Component.Sealing
import M3Midi.Component.RequestedConfig

/-! # Configurations are swapped in silence

The commit of a configuration waits for the releases that its boundary asked for, so it
finds no note: all that was started before was released on its own channel, and nothing
is started from the opening of the boundary to its commit.
-/

namespace M3Midi

open Foundation

namespace SealedIn

open GeneratedNoteLedger

variable {log : List Push} {component : M3Component}

/-- What a retry at the start of a call pushes. -/
theorem retry_noteOff (events : EventList) {push : Push}
    (member : push ∈ (Processing.retryPendingReleases { component } events).pushed) :
    push.transition.kind = .noteOff := by
  have pushed := congrArg Delivery.pushed (retry_view { component } events).1
  change (Processing.retryPendingReleases { component } events).pushed = _ at pushed
  rw [pushed] at member
  exact (Delivery.retryPendingReleases_noteOff member).resolve_left List.not_mem_nil

end SealedIn

namespace Sealed

open GeneratedNoteLedger

variable {log : List Push} {component : M3Component}

/-- A block without a supported layout: behind a boundary it pushes releases only. -/
theorem processUnsupported (held : Sealed log component) (data : ProcessData) :
    let call := Processing.processUnsupported { component } data
    Sealed (log ++ call.pushed) call.component ∧
      (call.component.structuralBoundaryPending = true →
        ∀ push ∈ call.pushed, push.transition.kind = .noteOff) := by
  intro call
  let failing : M3Component :=
    { component.raiseStatus .unsupportedLayout with
      releaseChannelPending := true }.mapLedger reportOutputFailure
  have failed : Sealed log failing := by
    have raised := held.raise .unsupportedLayout
    exact ⟨enterBlocked_accounts raised.accounts, raised.idle, fun _ => Silenced.enterBlocked _⟩
  have retried := (SealedIn.enter failed).retryPendingReleases data.outputEvents
  obtain ⟨held, -, quiet, -⟩ := retried.finish data true false (some 0)
  refine ⟨held, fun pending push member => ?_⟩
  have pushed : call.pushed = _ := quiet pending
  rw [pushed] at member
  exact SealedIn.retry_noteOff data.outputEvents member

/-- A block of samples: what it pushes before its commit are releases, and when the
boundary stays open it pushes nothing else. -/
theorem processAudio (held : Sealed log component) (data : ProcessData) (audio : AudioBlock) :
    let released := Processing.retryPendingReleases { component } data.outputEvents
    let call := Processing.processAudio { component } data audio
    Sealed (log ++ call.pushed) call.component ∧ released.pushed <+: call.pushed ∧
      (call.component.structuralBoundaryPending = true → call.pushed = released.pushed) := by
  intro released call
  have retried : SealedIn log released := (SealedIn.enter held).retryPendingReleases data.outputEvents
  have committed : SealedIn log (released.map M3Component.commitPreparedConfigIfReleased) := by
    obtain ⟨notes, pending⟩ :=
      M3Component.commitPreparedConfigIfReleased_kept released.component
    refine ⟨?_, fun waits => ?_⟩
    · have same : (released.map M3Component.commitPreparedConfigIfReleased).delivery =
          released.delivery := congrArg (Delivery.mk · released.pushed) notes
      rw [same]
      exact retried.accounts
    · change Delivery.Waiting released.component.commitPreparedConfigIfReleased.generatedNotes
      rw [notes]
      exact retried.waits (pending waits)
  have decided := committed.decide_ data.numSamples.toNat audio
  obtain ⟨held, grows, quiet, -⟩ :=
    decided.finish data (!audio.nonfiniteInput) true audio.selectedPeak
  exact ⟨held, grows, quiet⟩

end Sealed

namespace M3Component

variable {component : M3Component} {data : ProcessData}

/-- A call does not close a boundary before its commit. -/
theorem applyBoundary_pending (pending : component.structuralBoundaryPending = true)
    (batch : ParameterBatch) : (component.applyBoundary batch).structuralBoundaryPending = true := by
  have batched : (component.applyBatch batch).structuralBoundaryPending = true := by
    unfold applyBatch
    split_ifs
    · exact pending
    · unfold beginStructuralBoundary
      split_ifs
      · exact pending
      · exact (claimMatchingPreparedConfig_frame _).1
    · exact pending
  have panicked : ((component.applyBatch batch).applyPanic
      batch.panic).structuralBoundaryPending = true := by
    unfold applyPanic
    split_ifs <;> exact batched
  unfold applyBoundary applyCalibrationRestore
  split
  · exact panicked
  · split_ifs <;> exact panicked

/-- A call that comes to no commit leaves an open boundary open. -/
theorem process_uncommitted (uncommitted : component.beforeCommit data = none)
    (pending : component.structuralBoundaryPending = true) :
    (component.process data).2.component.structuralBoundaryPending = true := by
  unfold beforeCommit at uncommitted
  unfold process
  cases read : component.readBatch data with
  | none => exact (pending_of_core (core_refuseCall component)).trans pending
  | some batch =>
      have bounded := applyBoundary_pending pending batch
      rw [read, Option.bind_some] at uncommitted
      dsimp only
      split_ifs at uncommitted ⊢ with empty
      · exact (pending_of_core (core_raiseStatus _ _)).trans bounded
      · unfold Processing.processSamples
        rw [Option.map_eq_none_iff.mp uncommitted]
        exact (pending_of_core (Processing.core_processUnsupported
          { component := component.applyBoundary batch } data)).trans bounded

/-- A call that comes to its commit is a block of samples. -/
theorem process_committed {released : Processing}
    (reached : component.beforeCommit data = some released) :
    ∃ batch audio, component.readBatch data = some batch ∧
      released = Processing.retryPendingReleases { component := component.applyBoundary batch }
        data.outputEvents ∧
      (component.process data).2 =
        Processing.processAudio { component := component.applyBoundary batch } data audio := by
  unfold beforeCommit at reached
  cases read : component.readBatch data with
  | none => rw [read] at reached; cases reached
  | some batch =>
      rw [read, Option.bind_some] at reached
      split_ifs at reached with empty
      obtain ⟨audio, found, same⟩ := Option.map_eq_some_iff.mp reached
      refine ⟨batch, audio, rfl, same.symm, ?_⟩
      unfold process
      rw [read]
      dsimp only
      rw [if_neg empty]
      unfold Processing.processSamples
      rw [found]

end M3Component

namespace Sealed

variable {log : List Push} {component : M3Component}

/-- Every call of the audio thread. -/
theorem process (held : Sealed log component) (data : ProcessData) :
    let call := (component.process data).2
    Sealed (log ++ call.pushed) call.component ∧
      (call.component.structuralBoundaryPending = true →
        ∀ push ∈ call.pushed, push.transition.kind = .noteOff) := by
  unfold M3Component.process
  cases component.readBatch data with
  | none =>
      refine ⟨?_, fun _ _ member => absurd member List.not_mem_nil⟩
      rw [List.append_nil]
      exact held.refuseCall
  | some batch =>
      have bounded := held.applyBoundary batch
      dsimp only
      split_ifs
      · refine ⟨?_, fun _ _ member => absurd member List.not_mem_nil⟩
        rw [List.append_nil]
        exact bounded.raise .reconfiguring
      · refine ⟨?_, fun _ _ member => absurd member List.not_mem_nil⟩
        rw [List.append_nil]
        exact bounded
      · unfold Processing.processSamples
        cases data.audio with
        | none => exact bounded.processUnsupported data
        | some audio =>
            obtain ⟨sealed, -, quiet⟩ := bounded.processAudio data audio
            refine ⟨sealed, fun pending push member => ?_⟩
            rw [quiet pending] at member
            exact SealedIn.retry_noteOff data.outputEvents member

/-- A configuration that the main thread publishes breaks no seal. -/
theorem publishMainConfig (held : Sealed log component) (config : PersistentConfig) :
    Sealed log (component.publishMainConfig config).2 := by
  rcases M3Component.publishMainConfig_cases component config with
    ⟨-, settled⟩ | ⟨exchange, failed⟩ | ⟨exchange, prepared, generation, valid, -, published⟩
  · rw [settled]
    exact held.of_same rfl id
  · rw [failed]
    exact held.of_same rfl id
  · rw [published]
    exact held.of_same rfl id

/-- An edited parameter breaks no seal. -/
theorem setParamNormalized (held : Sealed log component) (id : ParameterId)
    (normalized : Option ℚ) : Sealed log (component.setParamNormalized id normalized).2 := by
  rcases M3Component.setParamNormalized_cases component id normalized with
    refused | ⟨-, panic⟩ | ⟨spec, plain, -, -, -, edited⟩
  · rwa [refused]
  · rw [panic]
    exact held.of_same rfl fun pending => pending
  · have published := held.publishMainConfig
      (applyParameter component.mainConfig id (some plain)).2
    rw [edited]
    cases outcome : component.publishMainConfig
        (applyParameter component.mainConfig id (some plain)).2 with
    | mk accepted next =>
        rw [outcome] at published
        cases accepted with
        | false => exact published
        | true => exact published.of_same rfl fun pending => pending

/-- A loaded project breaks no seal. -/
theorem setState (held : Sealed log component) (factory : StringCalibrationBank)
    (bytes : List Byte) : Sealed log (component.setState factory bytes).2 := by
  rcases M3Component.setState_cases component factory bytes with
    refused | ⟨exchange, failed⟩ | ⟨config, bank, next, -, published, restored⟩
  · rwa [refused]
  · rw [failed]
    exact held.of_same rfl id
  · have kept := held.publishMainConfig config
    rw [published] at kept
    rw [restored]
    exact kept.of_same rfl id

/-- A set-up breaks no seal. -/
theorem setupProcessing (held : Sealed log component) (setup : ProcessSetup) :
    Sealed log (component.setupProcessing setup).2 := by
  unfold M3Component.setupProcessing
  split_ifs
  · exact held
  · dsimp only
    split
    · exact held
    · exact held.of_same rfl id

/-- A bank that the main thread adopts breaks no seal. -/
theorem adoptPublishedCalibration (held : Sealed log component) :
    Sealed log component.adoptPublishedCalibration := by
  rw [M3Component.adoptPublishedCalibration_eq]
  exact held.of_same rfl id

/-- A saved project breaks no seal. -/
theorem getState (held : Sealed log component) : Sealed log component.getState.2 := by
  unfold M3Component.getState
  split_ifs
  · exact held
  · exact held.adoptPublishedCalibration

/-- New storage holds the notes that were there. -/
theorem activatePreservingPending (held : Sealed log component) (maxFrames : Nat)
    (granted : Bool) : Sealed log
      { component with generatedNotes :=
          (component.generatedNotes.activatePreservingPending maxFrames granted).2 } := by
  have reset := GeneratedNoteLedger.resetStorage_accounts held.accounts
  have allocated := GeneratedNoteLedger.allocateStorage_accounts reset maxFrames granted
  have same : (component.generatedNotes.activatePreservingPending maxFrames granted).2.queue = [] ∧
      (component.generatedNotes.activatePreservingPending maxFrames granted).2.voices =
        component.generatedNotes.voices := by
    unfold GeneratedNoteLedger.activatePreservingPending GeneratedNoteLedger.allocateStorage
    dsimp only
    split_ifs <;> exact ⟨rfl, rfl⟩
  refine ⟨allocated, same.1, fun pending slot => ?_⟩
  change ((component.generatedNotes.activatePreservingPending maxFrames granted).2.voices
    slot).active = true → _
  dsimp only
  rw [same.2]
  exact held.silenced pending slot

/-- Giving up the storage asks for every release. -/
theorem releaseStoragePreservingPending {ledger : GeneratedNoteLedger}
    (accounts : GeneratedNoteLedger.Accounts log ledger) :
    GeneratedNoteLedger.Accounts log ledger.releaseStoragePreservingPending ∧
      Silenced ledger.releaseStoragePreservingPending :=
  ⟨GeneratedNoteLedger.resetStorage_accounts
    (GeneratedNoteLedger.requestReleaseAll_accounts accounts), Silenced.requestReleaseAll ledger⟩

/-- An activation starts with a boundary that is closed. -/
theorem activate (held : Sealed log component) (granted : Bool) :
    Sealed log (component.activate granted).2 := by
  unfold M3Component.activate
  split_ifs
  · exact held
  · cases component.preparationFor with
    | none => exact held
    | some prepared =>
        dsimp only
        have stored := held.activatePreservingPending
          component.processSetup.maxSamplesPerBlock.toNat granted
        cases outcome : component.generatedNotes.activatePreservingPending
            component.processSetup.maxSamplesPerBlock.toNat granted with
        | mk allocated ledger =>
            rw [outcome] at stored
            cases allocated with
            | false => exact stored
            | true =>
                have adopted : Sealed log ({ component with generatedNotes := ledger }.activateWith
                    prepared).adoptPublishedCalibration :=
                  adoptPublishedCalibration (stored.of_same rfl id)
                dsimp only
                generalize ({ component with generatedNotes := ledger }.activateWith
                  prepared).adoptPublishedCalibration = next at adopted ⊢
                cases configured : next.configureDetector _ with
                | mk answer detected =>
                    have notes : detected.generatedNotes = next.generatedNotes :=
                      (congrArg (fun outcome => outcome.2.generatedNotes) configured).symm
                    have accounts : GeneratedNoteLedger.Accounts log detected.generatedNotes :=
                      notes ▸ adopted.accounts
                    cases answer with
                    | false =>
                        obtain ⟨released, silenced⟩ := releaseStoragePreservingPending accounts
                        exact ⟨released, rfl, fun _ => silenced⟩
                    | true => exact ⟨accounts, notes ▸ adopted.idle, fun pending => absurd pending (by
                        change false ≠ true
                        simp)⟩

/-- After a deactivation nothing is pending. -/
theorem deactivate (held : Sealed log component) : Sealed log component.deactivate.2 := by
  obtain ⟨released, silenced⟩ := releaseStoragePreservingPending held.accounts
  unfold M3Component.deactivate
  split_ifs
  · exact held
  · exact held
  · exact held
  all_goals exact ⟨released, rfl, fun _ => silenced⟩

/-- Starting and stopping break no seal. -/
theorem setProcessing (held : Sealed log component) (state : Bool) :
    Sealed log (component.setProcessing state).2 := by
  unfold M3Component.setProcessing
  split_ifs
  · exact held
  · exact held
  · have asked : Sealed log (component.mapLedger GeneratedNoteLedger.requestRecovery) :=
      ⟨requestRecovery held.accounts, held.idle, held.silenced⟩
    exact (asked.raise .panicHold).of_same rfl id
  · exact held.of_same rfl id
  · exact held
  · let released := component.mapLedger GeneratedNoteLedger.requestReleaseAll
    have asked : Sealed log (M3Component.mapLedger
        { released with
          releaseChannelPending :=
            released.generatedNotes.releasePending || released.releaseChannelPending }
        GeneratedNoteLedger.requestRecovery) :=
      ⟨requestRecovery (GeneratedNoteLedger.requestReleaseAll_accounts held.accounts), held.idle,
        fun _ => Silenced.requestReleaseAll _⟩
    exact (asked.raise .panicHold).of_same rfl id

end Sealed

/-- What happens to a component: a call of the host, or a preparation that is published
on the exchange. -/
inductive ComponentCall
  | host (call : HostCall)
  | publishPrepared (prepared : PreparedConfig) (generation : Generation)

namespace M3Component

/-- The component after a call of the host, or after a publication from outside. -/
def componentStep (factory : StringCalibrationBank) (component : M3Component) :
    ComponentCall → M3Component
  | .host call => component.hostStep factory call
  | .publishPrepared prepared generation =>
      { component with
        preparedExchange := (component.preparedExchange.publish prepared generation).2 }

/-- What a call pushes to its host. -/
def callPushes (component : M3Component) : ComponentCall → List Push
  | .host (.process data) => (component.process data).2.pushed
  | _ => []

/-- The component as a machine that emits what it pushes. -/
def pushMachine (factory : StringCalibrationBank) :
    Transducer ComponentCall M3Component Push where
  step component call := (component.componentStep factory call, component.callPushes call)

end M3Component

namespace Sealed

variable {log : List Push} {component : M3Component}

/-- Every call keeps the seal, with what it pushes added to the log. -/
theorem step (held : Sealed log component) (factory : StringCalibrationBank)
    (call : ComponentCall) :
    Sealed (log ++ component.callPushes call) (component.componentStep factory call) := by
  have unpushed {next : M3Component} (kept : Sealed log next) : Sealed (log ++ []) next := by
    rwa [List.append_nil]
  cases call with
  | publishPrepared prepared generation => exact unpushed (held.of_same rfl id)
  | host call =>
      cases call with
      | setupProcessing setup => exact unpushed (held.setupProcessing setup)
      | activate granted => exact unpushed (held.activate granted)
      | deactivate => exact unpushed held.deactivate
      | setProcessing state => exact unpushed (held.setProcessing state)
      | process data => exact (held.process data).1
      | setParamNormalized id normalized => exact unpushed (held.setParamNormalized id normalized)
      | setState bytes => exact unpushed (held.setState factory bytes)
      | getState => exact unpushed held.getState

/-- Along every run from the initialization. -/
theorem run (factory : StringCalibrationBank) (calls : List ComponentCall) :
    Sealed ((M3Component.pushMachine factory).run (M3Component.start factory) calls).2
      ((M3Component.pushMachine factory).run (M3Component.start factory) calls).1 := by
  have begun : Sealed [] (M3Component.start factory) :=
    ⟨GeneratedNoteLedger.activate_accounts {} 0 false, rfl,
      fun pending => absurd (show false = true from pending) (by simp)⟩
  have preserved (log : List Push) (component : M3Component) (call : ComponentCall)
      (held : Sealed log component) :
      Sealed (log ++ ((M3Component.pushMachine factory).step component call).2)
        ((M3Component.pushMachine factory).step component call).1 := held.step factory call
  have run := (M3Component.pushMachine factory).run_invariant preserved begun calls
  rwa [List.nil_append] at run

end Sealed

namespace M3Component

/-- **A configuration is swapped in silence.** In every run of a component, with any
parameters, preparations and answers of the host, a call of the audio thread pushes
releases only as long as a boundary is open: in the whole call when the boundary is open
at its end, and up to the commit when the call commits. The commit replaces the running
configuration or the detector's only when no slot is occupied, and then replaying all
pushes so far has closed every note on the channel it was opened on. -/
theorem run_structural_swap (factory : StringCalibrationBank) (calls : List ComponentCall)
    (data : ProcessData) :
    let before := (pushMachine factory).run (start factory) calls
    let call := (before.1.process data).2
    replay 0 (marks (before.2 ++ call.pushed)) =
        some call.component.generatedNotes.soundingNotes ∧
      (call.component.structuralBoundaryPending = true →
        ∀ push ∈ call.pushed, push.transition.kind = .noteOff) ∧
      (before.1.beforeCommit data = none → before.1.structuralBoundaryPending = true →
        call.component.structuralBoundaryPending = true) ∧
      ∀ released, before.1.beforeCommit data = some released →
        call.component.core = released.component.commitPreparedConfigIfReleased.core ∧
        released.pushed <+: call.pushed ∧
        (∀ push ∈ released.pushed, push.transition.kind = .noteOff) ∧
        (released.component.Swaps →
          (∀ slot, (released.component.generatedNotes.voices slot).occupied = false) ∧
            replay 0 (marks (before.2 ++ released.pushed)) = some 0) := by
  intro before call
  have held : Sealed before.2 before.1 := Sealed.run factory calls
  obtain ⟨after, silent⟩ := held.process data
  refine ⟨after.accounts.replayed, silent, process_uncommitted, fun released reached => ?_⟩
  obtain ⟨batch, audio, -, rfl, processed⟩ := process_committed reached
  have bounded := held.applyBoundary batch
  have retried := (SealedIn.enter bounded).retryPendingReleases data.outputEvents
  obtain ⟨-, grows, -⟩ := bounded.processAudio data audio
  have core := Processing.core_processAudio
    { component := before.1.applyBoundary batch } data audio
  rw [← processed] at grows core
  refine ⟨core, grows, fun push member => SealedIn.retry_noteOff data.outputEvents member,
    fun swaps => ?_⟩
  obtain ⟨pending, idle⟩ := swaps.released
  have free := (retried.waits pending).2.free idle
  refine ⟨free, ?_⟩
  have replayed := GeneratedNoteLedger.Accounts.replayed retried.accounts
  have none : (Processing.retryPendingReleases { component := before.1.applyBoundary batch }
      data.outputEvents).component.generatedNotes.soundingNotes = 0 :=
    Multiset.eq_zero_of_forall_notMem fun item member => by
      obtain ⟨slot, sounds⟩ := mem_heldKeys.mp member
      have occupied := (GeneratedNoteLedger.sounding_eq_some.mp sounds).1
      exact absurd ((free slot).symm.trans occupied) (by simp)
  exact replayed.trans (congrArg some none)

/-- A block in which the detector decides one note. -/
def noteBlock : ProcessData :=
  { quietBlock with
    audio := some { decisions := fun frame =>
      if frame = 0 then
        [{ sampleOffset := 0, kind := .noteOn, note := 60, velocity := 64, sequence := 0 }]
      else [] } }

/-- A block of samples that edits the lowest note. -/
def editBlock : ProcessData :=
  { quietBlock with inputParameterChanges := some (.single 0x4D330007 (16 / 84)) }

/-- A sounding note is released in the block that swaps the lowest note. -/
theorem run_structural_swap_note :
    let before := (pushMachine (factoryCalibrationBank [])).run (start (factoryCalibrationBank []))
      [.host (.setupProcessing smallSetup), .host (.activate true), .host (.setProcessing true),
        .host (.process noteBlock), .host (.setParamNormalized 0x4D330007 (some (16 / 84)))]
    ∃ released,
      before.1.beforeCommit editBlock = some released ∧
        released.component.Swaps ∧ released.pushed.length = 1 ∧
        replay 0 (marks (before.2 ++ released.pushed)) = some 0 := by
  intro before
  have swaps : (before.1.beforeCommit editBlock).any fun released =>
      released.component.structuralBoundaryPending &&
        !released.component.commitPreparedConfigIfReleased.structuralBoundaryPending &&
        released.pushed.length = 1 := by decide +kernel
  obtain ⟨released, reached, commits⟩ := (Option.any_eq_true _ _).mp swaps
  simp only [Bool.and_eq_true, Bool.not_eq_true', decide_eq_true_eq] at commits
  obtain ⟨⟨pending, closed⟩, one⟩ := commits
  have swapped : released.component.Swaps :=
    .inr (.inr (by rw [pending, closed]; simp))
  exact ⟨released, reached, swapped, one,
    ((run_structural_swap _ _ _).2.2.2 released reached).2.2.2 swapped |>.2⟩

end M3Component

end M3Midi
