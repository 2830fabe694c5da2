import M3Midi.Component.M3Component

/-! # What the main thread's calls do

A publication of the main thread changes nothing it reports unless every step of it
succeeds; then the request, the main configuration and, for a structural change of
an active component, the exchange hold the configuration.
-/

namespace M3Midi

open Foundation

/-- Only the panic parameter asks for a panic. -/
theorem applyParameter_panic {config : PersistentConfig} {id : ParameterId} {plain : Option ℚ}
    (panic : (applyParameter config id plain).1 = .panic) : id = panicParameterId := by
  unfold applyParameter at panic
  repeat' split at panic
  all_goals first
    | assumption
    | cases panic

namespace M3Component

/-- How an exchange goes on when a configuration is published: a structural change
of an active component offers its preparation. -/
def Offers (component : M3Component) (config : PersistentConfig)
    (exchange : PreparedConfigExchange PreparedConfig) : Prop :=
  if structuralConfigEqual component.mainConfig config = false ∧ component.active = true ∧
      component.preparedExchangeInitialized = true then
    ∃ prepared, (component.setupComplete = true →
        stagePreparedConfig config component.processSetup.sampleRate = some prepared) ∧
      component.preparedExchange.publish prepared (component.mainGeneration + 1) = (true, exchange)
  else exchange = component.preparedExchange

/-- A publication does nothing new, fails, or goes through as a whole. -/
theorem publishMainConfig_cases (component : M3Component) (config : PersistentConfig) :
    (samePersistentConfig component.mainConfig config = true ∧
        component.publishMainConfig config = (true, { component with mainConfig := config })) ∨
      (∃ exchange, component.publishMainConfig config =
        (false, { component with preparedExchange := exchange })) ∨
      ∃ exchange setupPrepared setupGeneration setupPreparedValid,
        component.Offers config exchange ∧
          component.publishMainConfig config = (true, { component with
            preparedExchange := exchange
            configRequest := { config, generation := component.mainGeneration + 1 }
            mainConfig := config
            mainGeneration := component.mainGeneration + 1
            setupPrepared, setupGeneration, setupPreparedValid }) := by
  unfold publishMainConfig
  by_cases same : samePersistentConfig component.mainConfig config = true
  · exact .inl ⟨same, if_pos same⟩
  · rw [if_neg same]
    refine .inr ?_
    dsimp only
    generalize staging : (if (!structuralConfigEqual component.mainConfig config &&
        component.setupComplete) = true then
      stagePreparedConfig config component.processSetup.sampleRate else some {}) = staged
    cases staged with
    | none => exact .inl ⟨component.preparedExchange, rfl⟩
    | some prepared =>
        dsimp only
        generalize offering : (if (!structuralConfigEqual component.mainConfig config &&
            component.active && component.preparedExchangeInitialized) = true then
          component.preparedExchange.publish prepared (component.mainGeneration + 1)
          else (true, component.preparedExchange)) = offered
        obtain ⟨accepted, exchange⟩ := offered
        cases accepted with
        | false => exact .inl ⟨exchange, rfl⟩
        | true =>
            have offers : component.Offers config exchange := by
              unfold Offers
              by_cases structural : structuralConfigEqual component.mainConfig config = false ∧
                  component.active = true ∧ component.preparedExchangeInitialized = true
              · obtain ⟨changed, active, initialized⟩ := structural
                rw [if_pos ⟨changed, active, initialized⟩]
                rw [if_pos (by simp [changed, active, initialized])] at offering
                refine ⟨prepared, fun setup => ?_, offering⟩
                rwa [if_pos (by simp [changed, setup])] at staging
              · rw [if_neg structural]
                rw [if_neg (by simpa [and_assoc] using structural)] at offering
                exact (congrArg Prod.snd offering).symm
            rw [if_neg (by simp)]
            unfold ConfigRequestSnapshot.publish
            by_cases newer : generationNewer (component.mainGeneration + 1)
                component.configRequest.generation = true
            · dsimp only
              rw [if_pos newer]
              dsimp only
              split_ifs
              · exact .inr ⟨exchange, _, _, _, offers, rfl⟩
              · exact .inr ⟨exchange, _, _, _, offers, rfl⟩
            · dsimp only
              rw [if_neg newer]
              exact .inl ⟨exchange, rfl⟩

/-- A controller's edit is refused, asks for a panic, or publishes what it writes. -/
theorem setParamNormalized_cases (component : M3Component) (id : ParameterId)
    (normalized : Option ℚ) :
    component.setParamNormalized id normalized = (false, component) ∨
      (id = panicParameterId ∧ component.setParamNormalized id normalized =
        (true, { component with panicRequested := true })) ∨
      ∃ spec plain, findParameter id = some spec ∧
        canonicalNormalizedValue spec normalized = some plain ∧
        (applyParameter component.mainConfig id (some plain)).1 ≠ .rejected ∧
        component.setParamNormalized id normalized =
          match component.publishMainConfig (applyParameter component.mainConfig id (some plain)).2 with
          | (false, refused) => (false, refused)
          | (true, published) => (true, { published with
              controllerConfig := (applyParameter component.mainConfig id (some plain)).2 }) := by
  unfold setParamNormalized
  cases found : findParameter id with
  | none => exact .inl rfl
  | some spec =>
      dsimp only
      by_cases refused : component.initialized = false ∨ spec.readOnly = true
      · exact .inl (if_pos refused)
      · rw [if_neg refused]
        cases canonical : canonicalNormalizedValue spec normalized with
        | none => exact .inl rfl
        | some plain =>
            dsimp only
            cases applied : applyParameter component.mainConfig id (some plain) with
            | mk result candidate =>
                cases result with
                | rejected => exact .inl rfl
                | panic =>
                    refine .inr (.inl ⟨?_, rfl⟩)
                    exact applyParameter_panic (by rw [applied])
                | unchanged =>
                    have accepted : (applyParameter component.mainConfig id (some plain)).1 ≠
                        .rejected := by simp [applied]
                    obtain rfl : (applyParameter component.mainConfig id (some plain)).2 = candidate :=
                      congrArg Prod.snd applied
                    exact .inr (.inr ⟨spec, plain, rfl, canonical, accepted, rfl⟩)
                | changed =>
                    have accepted : (applyParameter component.mainConfig id (some plain)).1 ≠
                        .rejected := by simp [applied]
                    obtain rfl : (applyParameter component.mainConfig id (some plain)).2 = candidate :=
                      congrArg Prod.snd applied
                    exact .inr (.inr ⟨spec, plain, rfl, canonical, accepted, rfl⟩)

/-- A restore is refused, fails to publish its configuration, or takes over the
project's bank, merged with the factory's. -/
theorem setState_cases (component : M3Component) (factory : StringCalibrationBank)
    (bytes : List Byte) :
    component.setState factory bytes = (false, component) ∨
      (∃ exchange, component.setState factory bytes =
        (false, { component with preparedExchange := exchange })) ∨
      ∃ config bank published, loadState bytes = some (config, bank) ∧
        component.publishMainConfig config = (true, published) ∧
        component.setState factory bytes = (true, { published with
          calibrationRestoreCounter := published.calibrationRestoreCounter + 1
          mainCalibrationBank := mergeFactoryCalibration factory bank
          mainCalibrationRestoreGeneration := published.calibrationRestoreCounter + 1
          calibrationRestore := published.calibrationRestore.publish
            (mergeFactoryCalibration factory bank) (published.calibrationRestoreCounter + 1) }) := by
  unfold setState
  by_cases uninitialized : component.initialized = false
  · exact .inl (if_pos uninitialized)
  · rw [if_neg uninitialized]
    cases loaded : loadState bytes with
    | none => exact .inl rfl
    | some project =>
        obtain ⟨config, bank⟩ := project
        dsimp only
        rcases publishMainConfig_cases component config with
          ⟨-, settled⟩ | ⟨exchange, failed⟩ | ⟨_, _, _, _, -, published⟩
        · rw [settled]
          exact .inr (.inr ⟨config, bank, _, rfl, settled, rfl⟩)
        · rw [failed]
          exact .inr (.inl ⟨exchange, rfl⟩)
        · rw [published]
          exact .inr (.inr ⟨config, bank, _, rfl, published, rfl⟩)

end M3Component

end M3Midi
