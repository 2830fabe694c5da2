import M3Midi.Component.BlockRuns
import M3Midi.Component.Activation

/-! # The start of a stream

A component that the host has set up, activated and started for the first time is ready for a
stream of blocks: its ledger has room for what a block can bring, and no note sounds.
-/

namespace M3Midi

open Foundation GeneratedNoteLedger M3Component

variable {State : Type}

/-- A stream at its start: the component is ready for a block, and no note sounds. -/
structure Ready (maxFrames : ℕ) (config : PersistentConfig) (stream : HostStream State) : Prop where
  taking : Taking maxFrames config stream stream.component.generatedNotes.settled
  unoccupied : Processing.Unoccupied stream.component.generatedNotes

/-- A setup that is accepted, taken apart. -/
theorem setUp_cases {factory : StringCalibrationBank} {setup : ProcessSetup}
    (accepted : ((({} : M3Component).initializeComponent factory).2.setupProcessing setup).1 =
      true) :
    isProcessMode setup.processMode = true ∧ 0 < setup.maxSamplesPerBlock ∧
      setup.maxSamplesPerBlock ≤ maxHostFrames ∧ (setUp factory setup).processSetup = setup ∧
      (setUp factory setup).generatedNotes = {} ∧
      (setUp factory setup).processingStartedOnce = false ∧
      (setUp factory setup).panicRequested = false := by
  unfold setUp
  unfold setupProcessing at accepted ⊢
  split_ifs at accepted ⊢ with refused
  simp only [not_or, Bool.not_eq_false, not_le, not_lt] at refused
  obtain ⟨-, -, -, mode, -, positive, small, -⟩ := refused
  dsimp only at accepted ⊢
  cases staged : stagePreparedConfig
      (({} : M3Component).initializeComponent factory).2.configRequest.config setup.sampleRate with
  | none =>
      rw [staged] at accepted
      cases accepted
  | some prepared => exact ⟨mode, positive, small, rfl, rfl, rfl, rfl⟩

/-- A mode is compatible with itself. -/
theorem processModeCompatible_self {mode : ℕ} (valid : isProcessMode mode = true) :
    processModeCompatibleWithSetup mode mode = true := by
  unfold processModeCompatibleWithSetup
  rw [if_neg (by rw [valid]; decide)]
  split_ifs
  · exact decide_eq_true rfl
  · rfl

/-- Storage that has been granted holds the transitions of a whole block. -/
theorem allocateStorage_granted {before ledger : GeneratedNoteLedger} {size : ℕ}
    (storage : before.allocateStorage size true = (true, ledger)) :
    ledger = { before with
      allocated := true
      capacity := (size + decisionQuantum - 1) / decisionQuantum * maxTickTransitions + maxVoices
      maxFrames := size } := by
  unfold allocateStorage at storage
  by_cases bad : size = 0 ∨ size > maxHostFrames
  · rw [if_pos bad] at storage
    cases congrArg Prod.fst storage
  · rw [if_neg bad] at storage
    dsimp only at storage
    by_cases many : (size + decisionQuantum - 1) / decisionQuantum >
        (2 ^ 64 - 1 - maxVoices) / maxTickTransitions
    · rw [if_pos many] at storage
      cases congrArg Prod.fst storage
    · rw [if_neg many, if_pos rfl] at storage
      exact (congrArg Prod.snd storage).symm

/-- A first start with nothing to release begins without a hold. -/
theorem setProcessing_fresh {active start : M3Component}
    (unstarted : active.processingStartedOnce = false)
    (idle : active.generatedNotes.releasePending = false)
    (started : active.setProcessing true = (true, start)) :
    start = { active with processing := true, processingStartedOnce := true } := by
  have fresh : ¬ (active.processingStartedOnce = true ∨
      active.generatedNotes.releasePending = true) := by
    rw [unstarted, idle]
    decide
  unfold setProcessing at started
  by_cases refused : active.initialized = false ∨ active.setupComplete = false ∨
      active.active = false
  · rw [if_pos refused] at started
    cases congrArg Prod.fst started
  · rw [if_neg refused, if_pos rfl] at started
    by_cases already : active.processing = true
    · rw [if_pos already] at started
      cases congrArg Prod.fst started
    · rw [if_neg already, if_neg fresh] at started
      exact (congrArg Prod.snd started).symm

/-- A component as its first activation and start leave it. -/
structure Begun (component start : M3Component) : Prop where
  processing : start.processing = true
  setup : start.processSetup = component.processSetup
  settled : start.structuralBoundaryPending = false
  calm : start.panicRequested = component.panicRequested
  configured : start.detector.configuration.configured = true
  valid : validConfig component.processSetup.sampleRate start.activeConfig = true
  requested : ∃ prepared, component.preparationFor = some prepared ∧
    start.activeConfig = copyRuntimeConfig prepared.requested component.configRequest.config
  notes : start.generatedNotes = { ({} : GeneratedNoteLedger) with
    allocated := true
    capacity := (component.processSetup.maxSamplesPerBlock.toNat + decisionQuantum - 1) /
      decisionQuantum * maxTickTransitions + maxVoices
    maxFrames := component.processSetup.maxSamplesPerBlock.toNat }

/-- A component that has played nothing begins without a hold. -/
theorem begun_of_activate {component active start : M3Component}
    (notes : component.generatedNotes = {}) (fresh : component.processingStartedOnce = false)
    (activated : component.activate true = (true, active))
    (started : active.setProcessing true = (true, start)) : Begun component start := by
  obtain ⟨may, prepared, ledger, preparation, storage, began⟩ := activate_cases activated
  have opened := activate_eq may preparation storage
  rw [activated] at opened
  let config := copyRuntimeConfig prepared.requested component.configRequest.config
  have answer := configureDetector_answer (component.activating prepared ledger) config
  have kept := configureDetector_configured (component.activating prepared ledger) config
  have setups : (component.activating prepared ledger).processSetup = component.processSetup := by
    rw [activating_eq]
    rfl
  rw [setups] at answer kept
  have valid : validConfig component.processSetup.sampleRate config = true := by
    rw [← answer]
    cases outcome : (component.activating prepared ledger).configureDetector config with
    | mk configured next =>
        rw [outcome] at opened
        cases configured with
        | false => cases opened
        | true => rfl
  have running : active.activeConfig = config := by
    rw [began, activating_eq]
    rfl
  have ledgers : active.generatedNotes = ledger := by
    rw [began, activating_eq]
    rfl
  have unstarted : active.processingStartedOnce = false := by
    rw [began, activating_eq]
    exact fresh
  rw [notes] at storage
  have stored := allocateStorage_granted storage
  have idle : active.generatedNotes.releasePending = false := by
    rw [ledgers, stored]
    rfl
  obtain rfl := setProcessing_fresh unstarted idle started
  refine ⟨rfl, ?_, ?_, ?_, ?_, ?_, ⟨prepared, preparation, running⟩, ledgers.trans stored⟩
  · change active.processSetup = _
    rw [began, activating_eq]
    rfl
  · change active.structuralBoundaryPending = false
    rw [began]
    rfl
  · change active.panicRequested = _
    rw [began, activating_eq]
    rfl
  · change active.detector.configuration.configured = true
    rw [began]
    exact kept.trans valid
  · change validConfig _ active.activeConfig = true
    rw [running]
    exact valid

/-- A component that has begun in a setup that was accepted is ready for a stream. -/
theorem Begun.ready {component start : M3Component} (begun : Begun component start)
    (mode : isProcessMode component.processSetup.processMode = true)
    (positive : 0 < component.processSetup.maxSamplesPerBlock)
    (small : component.processSetup.maxSamplesPerBlock ≤ maxHostFrames)
    (calm : component.panicRequested = false) (run : DetectorRun State) :
    Ready component.processSetup.maxSamplesPerBlock.toNat start.activeConfig
      { component := start, detector := run } := by
  have receptive : Receptive component.processSetup.maxSamplesPerBlock.toNat
      start.generatedNotes := by
    rw [begun.notes]
    exact ⟨rfl, Nat.le_add_right _ _, rfl, rfl, rfl, fun _ => rfl⟩
  refine ⟨⟨⟨begun.processing, ?_, ?_, ?_, begun.settled, begun.calm.trans calm, begun.configured,
    rfl⟩, receptive, ?_, rfl⟩, ?_⟩
  · change processModeCompatibleWithSetup start.processSetup.processMode
      start.processSetup.processMode = true
    rw [begun.setup]
    exact processModeCompatible_self mode
  · change start.processSetup.maxSamplesPerBlock = _
    rw [begun.setup]
    omega
  · omega
  · change start.generatedNotes.queue = []
    rw [begun.notes]
  · intro slot
    change (start.generatedNotes.voices slot).occupied = false
    rw [begun.notes]
    rfl

/-- A component that has been set up, activated and started is ready for a stream. -/
theorem ready_of_start {factory : StringCalibrationBank} {setup : ProcessSetup}
    {active start : M3Component}
    (accepted : ((({} : M3Component).initializeComponent factory).2.setupProcessing setup).1 = true)
    (activated : (setUp factory setup).activate true = (true, active))
    (started : active.setProcessing true = (true, start)) (run : DetectorRun State) :
    Ready setup.maxSamplesPerBlock.toNat start.activeConfig
      { component := start, detector := run } := by
  obtain ⟨mode, positive, small, setupKept, notes, fresh, calm⟩ := setUp_cases accepted
  have ready := @Begun.ready State _ _ (begun_of_activate notes fresh activated started)
  rw [setupKept] at ready
  exact ready mode positive small calm run

end M3Midi
