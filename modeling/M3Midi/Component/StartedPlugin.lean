import M3Midi.Component.AcceptedRuns
import M3Midi.Component.RestoredBank
import M3Midi.Component.StreamStart

/-! # A plug-in up to its first block

Before it activates a plug-in, a host sets it up, edits its parameters and loads and saves projects,
in any order. Whatever it does, a plug-in that it can then activate and start runs the requested
configuration, which the detector has accepted, and is ready for a stream
(`M3Midi.StartedPlugin.ready`).
-/

namespace M3Midi

open Foundation M3Component

/-- A call that prepares a plug-in and does not play it. -/
def HostCall.Prepares : HostCall → Prop
  | .setupProcessing _ => True
  | .activate _ => False
  | .deactivate => False
  | .setProcessing _ => False
  | .process _ => False
  | .setParamNormalized id _ => id ≠ panicParameterId
  | .setState _ => True
  | .getState => True

/-- A component that has only been prepared. -/
structure Unplayed (component : M3Component) : Prop where
  notes : component.generatedNotes = {}
  unstarted : component.processingStartedOnce = false
  calm : component.panicRequested = false
  requestSteps : OnSteps component.configRequest.config
  mainSteps : OnSteps component.mainConfig
  setup : component.setupComplete = true → isProcessMode component.processSetup.processMode = true ∧
    0 < component.processSetup.maxSamplesPerBlock ∧
      component.processSetup.maxSamplesPerBlock ≤ maxHostFrames

namespace Unplayed

variable {component : M3Component} {factory : StringCalibrationBank}

/-- A component that has just been made has not played. -/
theorem start (factory : StringCalibrationBank) : Unplayed (M3Component.start factory) :=
  ⟨rfl, rfl, rfl, onSteps_default, onSteps_default, fun complete => Bool.noConfusion complete⟩

/-- A set-up lets nothing sound. -/
theorem setupProcessing (unplayed : Unplayed component) (setup : ProcessSetup) :
    Unplayed (component.setupProcessing setup).2 := by
  unfold M3Component.setupProcessing
  by_cases refused : component.initialized = false ∨ component.active = true ∨
      component.processing = true ∨ isProcessMode setup.processMode = false ∨
      setup.sampleRate.any (0 < ·) = false ∨ setup.maxSamplesPerBlock ≤ 0 ∨
      setup.maxSamplesPerBlock > maxHostFrames ∨ canProcessSampleSize setup.symbolicSampleSize = false
  · rw [if_pos refused]
    exact unplayed
  rw [if_neg refused]
  simp only [not_or, Bool.not_eq_false, not_le, not_lt] at refused
  obtain ⟨-, -, -, mode, -, positive, small, -⟩ := refused
  dsimp only
  cases stagePreparedConfig component.configRequest.config setup.sampleRate with
  | none => exact unplayed
  | some prepared => exact { unplayed with
      mainSteps := unplayed.requestSteps
      setup := fun _ => ⟨mode, positive, small⟩ }

/-- A published configuration lets nothing sound. -/
theorem publishMainConfig (unplayed : Unplayed component) {config : PersistentConfig}
    (steps : OnSteps config) : Unplayed (component.publishMainConfig config).2 := by
  rcases publishMainConfig_cases component config with
    ⟨-, settled⟩ | ⟨exchange, failed⟩ | ⟨exchange, prepared, generation, valid, -, published⟩
  · rw [settled]
    exact { unplayed with mainSteps := steps }
  · rw [failed]
    exact { unplayed with }
  · rw [published]
    exact { unplayed with requestSteps := steps, mainSteps := steps }

theorem setParamNormalized (unplayed : Unplayed component) {id : ParameterId}
    (calm : id ≠ panicParameterId) (normalized : Option ℚ) :
    Unplayed (component.setParamNormalized id normalized).2 := by
  rcases setParamNormalized_cases component id normalized with
    refused | ⟨panic, -⟩ | ⟨spec, plain, -, -, -, edited⟩
  · rw [refused]
    exact unplayed
  · exact absurd panic calm
  · have published := unplayed.publishMainConfig
      (unplayed.mainSteps.applyParameter id (some plain))
    rw [edited]
    cases outcome : component.publishMainConfig
        (applyParameter component.mainConfig id (some plain)).2 with
    | mk accepted next =>
        rw [outcome] at published
        cases accepted with
        | false => exact published
        | true => exact { published with }

theorem setState (unplayed : Unplayed component) (bytes : List Byte) :
    Unplayed (component.setState factory bytes).2 := by
  rcases setState_cases component factory bytes with
    refused | ⟨exchange, failed⟩ | ⟨config, bank, next, loaded, published, restored⟩
  · rw [refused]
    exact unplayed
  · rw [failed]
    exact { unplayed with }
  · have kept := unplayed.publishMainConfig (loadState_valid loaded).1
    rw [published] at kept
    rw [restored]
    exact { kept with }

theorem getState (unplayed : Unplayed component) : Unplayed component.getState.2 := by
  unfold M3Component.getState
  split_ifs
  · exact unplayed
  · change Unplayed component.adoptPublishedCalibration
    rw [adoptPublishedCalibration_eq]
    exact { unplayed with }

/-- No call that prepares the plug-in lets anything sound. -/
theorem step (unplayed : Unplayed component) {call : HostCall} (prepares : call.Prepares) :
    Unplayed (component.hostStep factory call) := by
  cases call with
  | setupProcessing setup => exact unplayed.setupProcessing setup
  | activate granted => exact prepares.elim
  | deactivate => exact prepares.elim
  | setProcessing state => exact prepares.elim
  | process data => exact prepares.elim
  | setParamNormalized id normalized => exact unplayed.setParamNormalized prepares normalized
  | setState bytes => exact unplayed.setState bytes
  | getState => exact unplayed.getState

theorem run (unplayed : Unplayed component) {calls : List HostCall}
    (prepares : ∀ call ∈ calls, call.Prepares) :
    Unplayed (calls.foldl (hostStep factory) component) := by
  induction calls generalizing component with
  | nil => exact unplayed
  | cons call calls ih =>
      obtain ⟨first, rest⟩ := List.forall_mem_cons.mp prepares
      exact ih (unplayed.step first) rest

/-- The activation prepares the requested configuration. -/
theorem preparationFor_requested {prepared : PreparedConfig}
    (preparation : component.preparationFor = some prepared) :
    prepared.requested = component.configRequest.config := by
  unfold preparationFor at preparation
  dsimp only at preparation
  split_ifs at preparation with stale
  · exact stagePreparedConfig_requested preparation
  · simp only [not_or, Bool.not_eq_false] at stale
    obtain rfl := Option.some.inj preparation
    exact samePersistentConfig_iff.mp stale.2.2.2

end Unplayed

/-- The channel of a configuration on its steps is one of the sixteen. -/
theorem OnSteps.midiChannel {config : PersistentConfig} (steps : OnSteps config) :
    1 ≤ config.midiChannel ∧ config.midiChannel ≤ 16 := by
  obtain ⟨spec, found, ordered⟩ := findParameter_field .midiChannel
  obtain ⟨value, step⟩ := steps .midiChannel spec found
  obtain ⟨above, below⟩ := roundToStep_mem spec value ordered
  rw [← step] at above below
  obtain rfl := Option.some.inj found
  change (1 : ℚ) ≤ config.midiChannel at above
  change (config.midiChannel : ℚ) ≤ 16 at below
  exact ⟨by exact_mod_cast above, by exact_mod_cast below⟩

/-- A plug-in that a host has prepared, activated and started for the first time. The preparation
is part of the structure, so that only plug-ins that a host can have come to are considered. -/
structure StartedPlugin (factory : StringCalibrationBank) where
  calls : List HostCall
  prepares : ∀ call ∈ calls, call.Prepares
  active : M3Component
  component : M3Component
  activated :
    (calls.foldl (hostStep factory) (M3Component.start factory)).activate true = (true, active)
  started : active.setProcessing true = (true, component)

namespace StartedPlugin

variable {factory : StringCalibrationBank} (plugin : StartedPlugin factory)

/-- The component before its activation. -/
def prepared : M3Component := plugin.calls.foldl (hostStep factory) (M3Component.start factory)

/-- The rate of its setup. -/
def sampleRate : Option ℚ := plugin.prepared.processSetup.sampleRate

/-- The configuration that runs. -/
def config : PersistentConfig := plugin.component.activeConfig

/-- The longest block it takes. -/
def maxFrames : ℕ := plugin.prepared.processSetup.maxSamplesPerBlock.toNat

/-- The prepared plug-in has not played. -/
theorem unplayed : Unplayed plugin.prepared := (Unplayed.start factory).run plugin.prepares

/-- When it is started, it runs with the configuration it was prepared with. -/
theorem begun : Begun plugin.prepared plugin.component :=
  begun_of_activate plugin.unplayed.notes plugin.unplayed.unstarted plugin.activated plugin.started

/-- The detector has accepted the configuration. -/
theorem valid : validConfig plugin.sampleRate plugin.config = true := plugin.begun.valid

/-- The configuration that runs is the requested one. -/
theorem config_requested : plugin.config = plugin.prepared.configRequest.config := by
  obtain ⟨prepared, preparation, running⟩ := plugin.begun.requested
  have same := Unplayed.preparationFor_requested preparation
  unfold config
  rw [running, same]
  exact copyRuntimeConfig_eq (structuralConfigEqual_refl _)

/-- That configuration has one of the sixteen channels. -/
theorem midiChannel : 1 ≤ plugin.config.midiChannel ∧ plugin.config.midiChannel ≤ 16 := by
  rw [config_requested]
  exact plugin.unplayed.requestSteps.midiChannel

/-- A started plug-in is ready for a stream. -/
theorem ready {State : Type} (run : DetectorRun State) :
    Ready plugin.maxFrames plugin.config { component := plugin.component, detector := run } := by
  obtain ⟨may, -⟩ := activate_cases plugin.activated
  obtain ⟨mode, positive, small⟩ := plugin.unplayed.setup may.2.1
  exact plugin.begun.ready mode positive small plugin.unplayed.calm run

end StartedPlugin

end M3Midi
