import M3Midi.Clap.ParameterEvents
import M3Midi.Component.OneRegister
import M3Midi.Foundation.DoubleRounding

/-! # State load beside parameter events

The main thread loads a saved configuration while the audio thread applies parameter events
to the configuration it has last seen requested. Both publish a whole configuration through
one `AtomicConfigRequest`, under generations of one counter. Both are here with every atomic
action of a publish or a snapshot as a step of its own, in any order.
-/

namespace M3Midi

open Foundation

/-- The two threads of the adapter. -/
inductive ClapThread
  | main
  | audio
  deriving DecidableEq

/-- A configuration whose fields fit their types. -/
abbrev StorableConfig := { config : PersistentConfig // config.Storable }

/-- Words are read as what fits the fields' types. -/
theorem configOfWords_storable (words : RequestRegister → RequestWord) :
    (configOfWords words).Storable := by
  have double (word : RequestWord) : IsDouble (wordDouble word) := by
    unfold wordDouble
    cases read : doubleOfBits word.toNat with
    | none => exact ⟨by simp [bitsOfDouble], by simp [bitsOfDouble, doubleOfBits]⟩
    | some value => exact doubleOfBits_bitsOfDouble_doubleOfBits read
  refine ⟨double _, double _, ?_⟩
  have byte (word : RequestWord) : wordByte word < 256 := Nat.mod_lt _ (by decide)
  simp only [List.forall_mem_cons]
  exact ⟨byte _, byte _, byte _, byte _, byte _, byte _, byte _, byte _,
    fun _ member => absurd member List.not_mem_nil⟩

namespace StorableConfig

/-- The configuration as it is kept in memory, its numbers as the doubles nearest to them. -/
def ofConfig (config : PersistentConfig) : StorableConfig where
  val := configOfWords (ConfigRequestSnapshot.words ⟨config, 0⟩)
  property := configOfWords_storable _

/-- The request for a configuration under a generation. -/
def request (config : StorableConfig) (generation : Generation) : StorableRequest where
  config := config.val
  generation := generation
  storable := config.property

/-- A configuration that can be stored is stored as it is. -/
theorem ofConfig_val (config : StorableConfig) : ofConfig config.val = config :=
  Subtype.ext (congrArg ConfigRequestSnapshot.config (requestOfWords_words (config.request 0)))

/-- The loop body of `apply_parameter_events_to`, with whether an event has changed the
configuration in memory. -/
def applyEvent (progress : StorableConfig × Bool) (event : Option ParamValueEvent) :
    StorableConfig × Bool :=
  let outcome := applyParameterEvent 0 (progress.1.val, {}) event
  let stored := ofConfig outcome.1
  (stored, progress.2 || (outcome.2.changed && decide (stored ≠ progress.1)))

/-- `apply_parameter_events_to` -/
def applyEvents (config : StorableConfig) (input : ClapInputEvents) : StorableConfig × Bool :=
  match input with
  | none => (config, false)
  | some events => events.foldl applyEvent (config, false)

end StorableConfig

/-- The next action is the last one of a publish that is accepted. -/
def RequestProgram.completes : RequestProgram RequestReturn → Bool
  | .act (.storeSequence _) next =>
      match next () with
      | .done (.published _ accepted) => accepted
      | _ => false
  | _ => false

/-- Where the main thread is in `state_load`, with the attempts that are left. The stages follow
the source's loop over its attempts, with a program for each access to the register. -/
inductive LoadStage
  | idle
  /-- Before it takes a generation. -/
  | numbering (candidate : StorableConfig) (attempts : ℕ)
  | publishing (candidate : StorableConfig) (generation : Generation) (attempts : ℕ)

/-- Where the audio thread is in the handling of some input events. The audio thread publishes too,
when a block changes the configuration, and then takes its own steps. -/
inductive AudioStage
  | idle
  /-- Before it takes a generation for the publication that has failed before. -/
  | renumbering (input : ClapInputEvents)
  | republishing (input : ClapInputEvents) (generation : Generation)
  | synchronizing (input : ClapInputEvents)
  | applying (input : ClapInputEvents)
  /-- Before it takes a generation for what the events have changed. -/
  | numbering
  | publishing (generation : Generation)

/-- What the two threads know of the requested configuration. The register between the threads is
modelled access by access. What each thread knows by itself is plain state. -/
structure RequestAdapter where
  configRequest : RequestSystem ClapThread
  generationCounter : Generation
  mainConfig : StorableConfig
  mainGeneration : Generation
  audioRequestedConfig : StorableConfig
  audioRequestGeneration : Generation
  audioPublicationPending : Bool := false
  loadStage : LoadStage := .idle
  audioStage : AudioStage := .idle

/-- What happens to the adapter: a project is loaded, a block brings events, or a thread takes a
step. -/
inductive AdapterEvent
  | stateLoad (candidate : StorableConfig)
  | handle (input : ClapInputEvents)
  | step (thread : ClapThread)

/-- What becomes of the requested configuration. -/
inductive AdapterReport
  | loaded (candidate : StorableConfig)
  | refused
  | applied (input : ClapInputEvents)
  | published

namespace RequestAdapter

variable (adapter : RequestAdapter)

/-- The attempts of `state_load` at a publication. -/
def loadAttempts : ℕ := 3

/-- The attempts of a snapshot. -/
def snapshotAttempts : ℕ := 3

/-- A thread starts a call of the request. -/
def calls (thread : ClapThread) (call : RequestCall) : RequestAdapter :=
  { adapter with configRequest := (adapter.configRequest.step (.call thread call)).1 }

/-- `next_generation` -/
def nextGeneration : Generation := adapter.generationCounter + 1

/-- The adapter after it has drawn a generation. -/
def numbered : RequestAdapter := { adapter with generationCounter := adapter.nextGeneration }

/-- `state_load` goes on with what a publish has returned, or fails for good. -/
def loadReturns (candidate : StorableConfig) (generation : Generation) (attempts : ℕ)
    (accepted : Bool) : RequestAdapter × List AdapterReport :=
  if accepted then
    ({ adapter with mainConfig := candidate, mainGeneration := generation, loadStage := .idle },
      [.loaded candidate])
  else
    match attempts with
    | 0 => ({ adapter with loadStage := .idle }, [.refused])
    | attempts + 1 => ({ adapter with loadStage := .numbering candidate attempts }, [])

/-- `publish_audio_config` goes on with what the publish has returned, then with a stage. -/
def audioReturns (generation : Generation) (accepted : Bool) (stage : AudioStage) :
    RequestAdapter × List AdapterReport :=
  if accepted then
    ({ adapter with
        audioRequestGeneration := generation, audioPublicationPending := false
        audioStage := stage }, [.published])
  else ({ adapter with audioPublicationPending := true, audioStage := stage }, [])

/-- The snapshot of `synchronize_audio_request`. -/
def synchronize (input : ClapInputEvents) : RequestAdapter :=
  { adapter.calls .audio (.snapshot snapshotAttempts) with audioStage := .synchronizing input }

/-- A snapshot that is newer replaces what the audio thread has. Its own events are applied to that
afterwards. -/
def adopt (input : ClapInputEvents) (found : Option ConfigRequestSnapshot) : RequestAdapter :=
  match found with
  | none => { adapter with audioStage := .applying input }
  | some snapshot =>
      if generationNewer snapshot.generation adapter.audioRequestGeneration then
        { adapter with
          audioRequestedConfig := StorableConfig.ofConfig snapshot.config
          audioRequestGeneration := snapshot.generation
          audioStage := .applying input }
      else { adapter with audioStage := .applying input }

/-- The main thread goes on. -/
def mainStep : RequestAdapter × List AdapterReport :=
  match adapter.loadStage with
  | .idle => (adapter, [])
  | .numbering candidate attempts =>
      let generation := adapter.nextGeneration
      ({ adapter.numbered.calls .main (.publish (candidate.request generation)) with
          loadStage := .publishing candidate generation attempts }, [])
  | .publishing candidate generation attempts =>
      let next := adapter.configRequest.step (.step .main)
      let after := { adapter with configRequest := next.1 }
      match next.2 with
      | [(_, .published _ accepted)] => after.loadReturns candidate generation attempts accepted
      | _ => (after, [])

/-- The audio thread goes on. Between two stages it has read or written the register, and what it
does next depends on the answer. -/
def audioStep : RequestAdapter × List AdapterReport :=
  let generation := adapter.nextGeneration
  let publication := adapter.numbered.calls .audio
    (.publish (adapter.audioRequestedConfig.request generation))
  let next := adapter.configRequest.step (.step .audio)
  let after := { adapter with configRequest := next.1 }
  match adapter.audioStage with
  | .idle => (adapter, [])
  | .renumbering input =>
      ({ publication with audioStage := .republishing input generation }, [])
  | .republishing input generation =>
      match next.2 with
      | [(_, .published _ accepted)] =>
          -- The snapshot is skipped while the publication is pending.
          let returned := after.audioReturns generation accepted (.applying input)
          if accepted then (returned.1.synchronize input, returned.2) else returned
      | _ => (after, [])
  | .synchronizing input =>
      match next.2 with
      | [(_, .snapshot found)] => (after.adopt input found, [])
      | _ => (after, [])
  | .applying input =>
      let applied := adapter.audioRequestedConfig.applyEvents input
      if applied.2 then
        ({ adapter with audioRequestedConfig := applied.1, audioStage := .numbering },
          [.applied input])
      else ({ adapter with audioRequestedConfig := applied.1, audioStage := .idle }, [])
  | .numbering => ({ publication with audioStage := .publishing generation }, [])
  | .publishing generation =>
      match next.2 with
      | [(_, .published _ accepted)] => after.audioReturns generation accepted .idle
      | _ => (after, [])

/-- One event of the adapter, with what it reports. -/
def step : AdapterEvent → RequestAdapter × List AdapterReport
  | .stateLoad candidate =>
      match adapter.loadStage with
      | .idle =>
          ({ adapter with loadStage := .numbering candidate (loadAttempts - 1) }, [])
      | _ => (adapter, [])
  | .handle input =>
      match adapter.audioStage with
      | .idle =>
          if adapter.audioPublicationPending then
            ({ adapter with audioStage := .renumbering input }, [])
          else (adapter.synchronize input, [])
      | _ => (adapter, [])
  | .step .main => adapter.mainStep
  | .step .audio => adapter.audioStep

/-- The threads as a machine that reports what becomes of the requested configuration. -/
def machine : Transducer AdapterEvent RequestAdapter AdapterReport where
  step := step

/-- Both threads are done, and nothing is left to publish. -/
def finished : Bool :=
  (adapter.loadStage matches .idle) && (adapter.audioStage matches .idle) &&
    !adapter.audioPublicationPending

/-- The audio thread completes no publish while a state load is newer than what it has seen. -/
def SeesLoads : AdapterEvent → Prop
  | .step .audio => (adapter.configRequest.programs .audio).completes = true →
      generationNewer adapter.mainGeneration adapter.audioRequestGeneration = false
  | _ => True

/-- The condition can be computed from the adapter and the event. -/
instance (event : AdapterEvent) : Decidable (adapter.SeesLoads event) :=
  match event with
  | .step .audio => inferInstanceAs (Decidable (_ → _))
  | .step .main | .stateLoad _ | .handle _ => inferInstanceAs (Decidable True)

/-- The adapter when a configuration is requested and nothing goes on. -/
def start (config : StorableConfig) (generation : Generation) : RequestAdapter where
  configRequest := RequestSystem.start (config.request generation)
  generationCounter := generation
  mainConfig := config
  mainGeneration := generation
  audioRequestedConfig := config
  audioRequestGeneration := generation

end RequestAdapter

namespace StorableConfig

/-- A load replaces what is asked for, and events are applied to it. -/
def after (config : StorableConfig) : AdapterReport → StorableConfig
  | .loaded candidate => candidate
  | .applied input => (config.applyEvents input).1
  | .refused | .published => config

/-- The loads and the events one after the other, as they are reported. -/
def replay (config : StorableConfig) (log : List AdapterReport) : StorableConfig :=
  log.foldl after config

end StorableConfig

end M3Midi
