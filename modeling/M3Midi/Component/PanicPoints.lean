import M3Midi.Parameter.Coalescing
import M3Midi.Clap.ParameterEvents

/-! # Panic points of a block

Of a block's points only the last one of each parameter counts, also for the momentary
Panic parameter. A block whose Panic points end at zero asks for no recovery, where the
CLAP adapter, which reads the same values event by event, asks for one
(`M3Midi.lost_panic_point`). The block's panic is kept exactly when its last Panic point
is one, or the main thread has asked for a panic itself
(`M3Midi.M3Component.panic_points_iff`).
-/

namespace M3Midi

open Foundation

/-- A normalized value that stands for a panic. -/
def panicValue (normalized : Option ℚ) : Bool :=
  (normalized.bind (canonicalValue panicParameterId)) = some 1

/-- Some Panic point of the block has the value one. -/
def HoldsPanicPoint (changes : Option ParameterChanges) : Prop :=
  ∃ normalized ∈ pointValues changes panicParameterId, panicValue normalized = true

/-- The last Panic point of the block has the value one. -/
def lastPanicPoint (changes : Option ParameterChanges) : Bool :=
  panicValue (lastPointValue changes panicParameterId)

/-- The events carry the block's writes, with their plain values, in any order. -/
def CarriesWrites (events : List (Option ParamValueEvent)) (writes : List (ParameterId × ℚ)) :
    Prop :=
  (∀ event ∈ events, event.all (·.global)) ∧
    ((events.filterMap id).map fun event => (event.paramId, event.value)).Perm
      (writes.map fun write => (write.1, canonicalValue write.1 write.2))

/-- The Panic parameter is zero or one. -/
theorem canonicalValue_panic {normalized plain : ℚ}
    (canonical : canonicalValue panicParameterId normalized = some plain) :
    plain = 0 ∨ plain = 1 := by
  obtain ⟨spec, found, range⟩ : ∃ spec, findParameter panicParameterId = some spec ∧
      spec.minimum = 0 ∧ spec.increment = 1 ∧ spec.stepCount = 1 := ⟨_, rfl, rfl, rfl, rfl⟩
  obtain ⟨minimum, increment, steps⟩ := range
  have stepped := stepped_of_mem (findParameter_self found).2
  have normal : canonicalNormalizedValue spec (some normalized) = some plain := by
    simpa [canonicalValue, found] using canonical
  have fixed := canonicalPlain_canonicalNormalized stepped normal
  obtain ⟨step, within, rounded⟩ := stepped.roundToStep_step plain
  have same : roundToStep spec plain = plain := by
    unfold canonicalPlain at fixed
    split_ifs at fixed
    simpa using fixed
  rw [same, minimum, increment, zero_add, mul_one] at rounded
  rw [steps] at within
  rcases Nat.le_one_iff_eq_zero_or_eq_one.mp within with rfl | rfl
  · exact .inl (by simpa using rounded)
  · exact .inr (by simpa using rounded)

/-- An event with a canonical Panic value asks for a panic exactly when that is one. -/
theorem asksPanic_iff {event : ParamValueEvent} {normalized : ℚ} (whole : event.global = true)
    (named : event.paramId = panicParameterId)
    (value : event.value = canonicalValue panicParameterId normalized) :
    event.asksPanic = true ↔ panicValue (some normalized) = true := by
  obtain ⟨spec, found⟩ : ∃ spec, findParameter panicParameterId = some spec := ⟨_, rfl⟩
  unfold ParamValueEvent.asksPanic panicValue
  rw [whole, named, value, found]
  cases canonical : canonicalValue panicParameterId normalized with
  | none =>
      have absent : canonicalPlain spec none = none := by
        unfold canonicalPlain
        split_ifs <;> rfl
      simp [absent, canonical]
  | some plain =>
      have fixed : canonicalPlain spec (some plain) = some plain := by
        refine @canonicalPlain_canonicalNormalized spec
          (stepped_of_mem (findParameter_self found).2) (some normalized) plain ?_
        simpa [canonicalValue, found] using canonical
      rcases canonicalValue_panic canonical with rfl | rfl <;> simp [fixed, canonical]

/-- The CLAP adapter asks for a panic exactly when some Panic point is one. -/
theorem clap_panic_iff {numSamples : Int} {changes : Option ParameterChanges}
    {writes : List (ParameterId × ℚ)} (read : boundaryWrites numSamples changes = some writes)
    {events : List (Option ParamValueEvent)} (carries : CarriesWrites events writes)
    (config : PersistentConfig) (framesCount : Nat) :
    (applyParameterEventsTo config (some events) framesCount).2.panic = true ↔
      HoldsPanicPoint changes := by
  have values := @boundaryWrites_values numSamples changes writes panicParameterId rfl read
  obtain ⟨whole, same⟩ := carries
  rw [applyParameterEventsTo_panic, HoldsPanicPoint, ← values]
  constructor
  · rintro ⟨_ | event, member, asks⟩
    · exact nomatch asks
    rw [Option.any_some] at asks
    have named : event.paramId = panicParameterId := by
      unfold ParamValueEvent.asksPanic at asks
      simp only [Bool.and_eq_true, decide_eq_true_eq] at asks
      exact asks.1.2
    have carried : (event.paramId, event.value) ∈
        writes.map fun write => (write.1, canonicalValue write.1 write.2) :=
      same.mem_iff.mp (List.mem_map.mpr ⟨event, List.mem_filterMap.mpr ⟨_, member, rfl⟩, rfl⟩)
    obtain ⟨write, inWrites, pair⟩ := List.mem_map.mp carried
    obtain ⟨first, second⟩ := Prod.mk.injEq _ _ _ _ ▸ pair
    have target : write.1 = panicParameterId := first.trans named
    refine ⟨some write.2, ?_, ?_⟩
    · exact List.mem_map.mpr ⟨write, List.mem_filter.mpr ⟨inWrites, by simpa using target⟩, rfl⟩
    · exact (asksPanic_iff (by simpa using whole _ member) named
        (by rw [← second, target])).mp asks
  · rintro ⟨normalized, member, panic⟩
    obtain ⟨write, filtered, rfl⟩ := List.mem_map.mp member
    obtain ⟨inWrites, target⟩ := List.mem_filter.mp filtered
    have target : write.1 = panicParameterId := by simpa using target
    have carried := same.symm.mem_iff.mp (List.mem_map.mpr ⟨write, inWrites, rfl⟩)
    obtain ⟨event, inEvents, pair⟩ := List.mem_map.mp carried
    obtain ⟨source, inSource, rfl⟩ := List.mem_filterMap.mp inEvents
    obtain ⟨first, second⟩ := Prod.mk.injEq _ _ _ _ ▸ pair
    refine ⟨some event, inSource, ?_⟩
    exact (asksPanic_iff (by simpa using whole _ inSource) (first.trans target)
      (by rw [second, target])).mpr panic

/-! ## What the call remembers -/

/-- One table entry leaves the panic flag raised, or raises it for its last value. No other
parameter of the table is a panic. -/
theorem applyBoundaryValue_panic {writes : List (ParameterId × ℚ)} {spec : ParameterSpec}
    {batch next : ParameterBatch} (member : spec ∈ parameters)
    (applied : applyBoundaryValue writes batch spec = some next) :
    next.panic = true ↔ batch.panic = true ∨
      (spec.id = panicParameterId ∧ panicValue (lastWrite panicParameterId writes) = true) := by
  unfold applyBoundaryValue at applied
  cases written : lastWrite spec.id writes with
  | none =>
      rw [written] at applied
      obtain rfl := Option.some.inj applied
      refine ⟨.inl, ?_⟩
      rintro (raised | ⟨panic, value⟩)
      · exact raised
      · rw [panic] at written
        simp [written, panicValue] at value
  | some normalized =>
      rw [written] at applied
      dsimp only at applied
      cases canonical : canonicalNormalizedValue spec (some normalized) with
      | none => simp [canonical] at applied
      | some plain =>
          rw [canonical] at applied
          dsimp only at applied
          have found := findParameter_of_mem member
          have value : canonicalValue spec.id normalized = some plain := by
            simpa [canonicalValue, found] using canonical
          have asks : (applyParameter batch.candidate spec.id (some plain)).1 = .panic ↔
              spec.id = panicParameterId ∧
                panicValue (lastWrite panicParameterId writes) = true := by
            rw [applyParameter_panic_iff]
            refine and_congr_right fun panic => ?_
            rw [panic] at found written value
            rw [written, found, panicValue, Option.bind_some, Option.bind_some, value,
              canonicalPlain_canonicalNormalized (stepped_of_mem member) canonical]
            rcases canonicalValue_panic value with rfl | rfl <;> simp
          rw [← asks]
          cases outcome : applyParameter batch.candidate spec.id (some plain) with
          | mk result candidate =>
              rw [outcome] at applied
              cases result with
              | rejected => simp at applied
              | panic | unchanged | changed =>
                  obtain rfl := Option.some.inj applied
                  simp

/-- The parameters of a block ask for a panic only by the panic parameter. -/
theorem applyBoundaryValues_panic {writes : List (ParameterId × ℚ)} {specs : List ParameterSpec}
    {batch next : ParameterBatch} (members : ∀ spec ∈ specs, spec ∈ parameters)
    (applied : specs.foldlM (applyBoundaryValue writes) batch = some next) :
    next.panic = true ↔ batch.panic = true ∨ (panicParameterId ∈ specs.map (·.id) ∧
      panicValue (lastWrite panicParameterId writes) = true) := by
  induction specs generalizing batch with
  | nil =>
      obtain rfl := Option.some.inj applied
      simp
  | cons spec rest ih =>
      obtain ⟨first, remaining⟩ := List.forall_mem_cons.mp members
      rw [List.foldlM_cons] at applied
      obtain ⟨middle, step, tail⟩ := Option.bind_eq_some_iff.mp applied
      rw [ih remaining tail, applyBoundaryValue_panic first step, List.map_cons, List.mem_cons,
        or_assoc, or_and_right, @eq_comm _ panicParameterId spec.id]

/-- An accepted block asks for a panic exactly when its last Panic point is one. -/
theorem readLastBoundaryValues_panic {changes : Option ParameterChanges} {numSamples : Int}
    {current : PersistentConfig} {batch : ParameterBatch}
    (read : readLastBoundaryValues changes numSamples current = some batch) :
    batch.panic = lastPanicPoint changes := by
  unfold readLastBoundaryValues at read
  cases accepted : boundaryWrites numSamples changes with
  | none => simp [accepted] at read
  | some writes =>
      rw [accepted] at read
      have listed : panicParameterId ∈ parameters.map (·.id) := by
        decide
      have flag := applyBoundaryValues_panic (fun _ member => member) read
      have last := @lastWrite_eq_lastPointValue numSamples changes writes panicParameterId rfl
        accepted
      rw [Bool.eq_iff_iff, flag, lastPanicPoint, ← last]
      simp [listed]

namespace M3Component

/-- Does the call reach `request_panic_recovery`? -/
def requestsPanicRecovery (component : M3Component) (data : ProcessData) : Bool :=
  match component.readBatch data with
  | none => false
  | some batch => batch.panic || component.panicRequested

/-- A status that is raised leaves the request alone. -/
theorem raiseStatus_panicRequested (component : M3Component) (status : Status) :
    (component.raiseStatus status).panicRequested = component.panicRequested := by
  unfold raiseStatus
  split_ifs <;> rfl

theorem claimMatchingPreparedConfig_panicRequested (component : M3Component) :
    component.claimMatchingPreparedConfig.panicRequested = component.panicRequested := by
  unfold claimMatchingPreparedConfig
  dsimp only
  split_ifs
  · rfl
  · exact raiseStatus_panicRequested _ _
  · rfl
  · exact raiseStatus_panicRequested _ _

theorem dropClaim_panicRequested (component : M3Component) :
    component.dropClaim.panicRequested = component.panicRequested := by
  unfold dropClaim
  split_ifs <;> rfl

/-- Applying a block's parameters leaves the main thread's panic request. -/
theorem applyBatch_panicRequested (component : M3Component) (batch : ParameterBatch) :
    (component.applyBatch batch).panicRequested = component.panicRequested := by
  unfold applyBatch
  split_ifs
  · rfl
  · unfold beginStructuralBoundary
    split_ifs
    · rfl
    · dsimp only
      rw [claimMatchingPreparedConfig_panicRequested, dropClaim_panicRequested]
  · rfl

/-- Either panic releases the notes. -/
theorem applyPanic_generatedNotes (component : M3Component) (panic : Bool) :
    (component.applyPanic panic).generatedNotes =
      if panic = true ∨ component.panicRequested = true then
        component.generatedNotes.requestReleaseAll.requestRecovery
      else component.generatedNotes := by
  unfold applyPanic
  cases panic with
  | true => rfl
  | false =>
      rw [if_neg Bool.false_ne_true]
      by_cases requested : component.panicRequested = true
      · rw [if_pos requested, if_pos (.inr requested)]
        rfl
      · rw [if_neg requested, if_neg fun either => either.elim Bool.false_ne_true requested]

/-- A call that requests a recovery releases all notes and holds; another leaves the
ledger to the parameters. -/
theorem applyBoundary_generatedNotes {component : M3Component} {data : ProcessData}
    {batch : ParameterBatch} (accepted : component.readBatch data = some batch) :
    (component.applyBoundary batch).generatedNotes =
      if component.requestsPanicRecovery data then
        (component.applyBatch batch).generatedNotes.requestReleaseAll.requestRecovery
      else (component.applyBatch batch).generatedNotes := by
  have restored (other : M3Component) :
      other.applyCalibrationRestore.generatedNotes = other.generatedNotes := by
    unfold applyCalibrationRestore
    split
    · rfl
    · split_ifs <;> rfl
  have requested : component.requestsPanicRecovery data = true ↔
      (batch.panic = true ∨ (component.applyBatch batch).panicRequested = true) := by
    rw [applyBatch_panicRequested, requestsPanicRecovery, accepted, Bool.or_eq_true]
  rw [applyBoundary, restored, applyPanic_generatedNotes]
  by_cases panic : component.requestsPanicRecovery data = true
  · rw [if_pos panic, if_pos (requested.mp panic)]
  · rw [if_neg panic, if_neg (mt requested.mpr panic)]

/-- The panic of an accepted block is kept exactly when its last Panic point is one, or
the main thread asks for a panic itself. Event by event, it is always kept. -/
theorem panic_points_iff {component : M3Component} {data : ProcessData} {batch : ParameterBatch}
    (accepted : component.readBatch data = some batch)
    (point : HoldsPanicPoint data.inputParameterChanges) :
    (component.requestsPanicRecovery data = true ↔
      lastPanicPoint data.inputParameterChanges = true ∨ component.panicRequested = true) ∧
    ((component.applyBoundary batch).generatedNotes =
      if component.requestsPanicRecovery data then
        (component.applyBatch batch).generatedNotes.requestReleaseAll.requestRecovery
      else (component.applyBatch batch).generatedNotes) ∧
    ∀ writes events config framesCount,
      boundaryWrites data.numSamples data.inputParameterChanges = some writes →
      CarriesWrites events writes →
      (applyParameterEventsTo config (some events) framesCount).2.panic = true := by
  have read : readLastBoundaryValues data.inputParameterChanges data.numSamples
      component.audioRequestedConfig = some batch := by
    unfold readBatch at accepted
    split_ifs at accepted
    exact accepted
  refine ⟨?_, applyBoundary_generatedNotes accepted, ?_⟩
  · rw [requestsPanicRecovery, accepted, Bool.or_eq_true, readLastBoundaryValues_panic read]
  · intro writes events config framesCount written carries
    exact (clap_panic_iff written carries config framesCount).mpr point

/-- A component that runs blocks of 64 samples. -/
def runningComponent : M3Component where
  processing := true
  processSetup := { maxSamplesPerBlock := 64 }

end M3Component

/-- A block whose only queue holds Panic points. -/
def panicBlock (points : List (Int × ℚ)) : ProcessData where
  numSamples := 64
  inputParameterChanges := some { queues := some [some {
    parameterId := panicParameterId
    points := some (points.map fun point => some (point.1, some point.2)) }] }
  audio := some {}

/-- The points of a block as a CLAP host sends them. -/
def panicEvents (points : List (Int × ℚ)) : List (Option ParamValueEvent) :=
  points.map fun point =>
    some { time := point.1.toNat, paramId := panicParameterId, value := some point.2 }

/-- A pressed and released Panic leaves the notes as they are; event by event it asks
for a panic. -/
theorem lost_panic_point :
    (M3Component.runningComponent.readBatch (panicBlock [(0, 1), (1, 0)])).isSome = true ∧
    HoldsPanicPoint (panicBlock [(0, 1), (1, 0)]).inputParameterChanges ∧
    M3Component.runningComponent.requestsPanicRecovery (panicBlock [(0, 1), (1, 0)]) = false ∧
    (M3Component.runningComponent.process
      (panicBlock [(0, 1), (1, 0)])).2.component.generatedNotes.recoveryRequested = false ∧
    (applyParameterEventsTo {} (some (panicEvents [(0, 1), (1, 0)])) 64).2.panic = true := by
  refine ⟨by decide +kernel, ?_, by decide +kernel, by decide +kernel, by decide +kernel⟩
  exact ⟨some 1, by decide +kernel, by decide +kernel⟩

/-- A block in which the panic is pressed, and which recovers. -/
theorem panic_points_iff_pressed :
    M3Component.runningComponent.requestsPanicRecovery (panicBlock [(0, 0), (1, 1)]) = true := by
  obtain ⟨batch, accepted⟩ := Option.isSome_iff_exists.mp
    (show (M3Component.runningComponent.readBatch (panicBlock [(0, 0), (1, 1)])).isSome = true by
      decide +kernel)
  have point : HoldsPanicPoint (panicBlock [(0, 0), (1, 1)]).inputParameterChanges :=
    ⟨some 1, by decide +kernel, by decide +kernel⟩
  exact (M3Component.panic_points_iff accepted point).1.mpr (.inl (by decide +kernel))

end M3Midi
