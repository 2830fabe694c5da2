import M3Midi.Parameter.Boundary

/-! # What an accepted batch does

An accepted batch writes to the current configuration exactly the last value of
each parameter it names. It is unchanged when it writes nothing new, and not
structural when it writes no structural field anew.
-/

namespace M3Midi

open Foundation

/-- Every field is found by its number. -/
theorem fieldOfId_id (field : PersistentField) : fieldOfId field.id = some field := by
  cases field <;> rfl

/-- A number that stands for a field is that field's. -/
theorem id_of_fieldOfId {id : ParameterId} {field : PersistentField}
    (found : fieldOfId id = some field) : field.id = id := by
  unfold fieldOfId at found
  simpa using List.find?_some found

/-- Parameters as keys: an identifier without a field writes and reads nothing. -/
def idFields : Fields ParameterId ℚ (Option ℚ) PersistentConfig where
  write id value config :=
    match fieldOfId id with
    | some field => setField field value config
    | none => config
  read id config := (fieldOfId id).map (fieldValue config)
  stored id value := (fieldOfId id).map fun field => storedValue field value
  read_write_self id value config := by
    cases found : fieldOfId id with
    | none => rfl
    | some field => simp [fieldValue_setField_self]
  read_write_other id other value config different := by
    cases found : fieldOfId id with
    | none => rfl
    | some field =>
        cases otherFound : fieldOfId other with
        | none => rfl
        | some otherField =>
            have first := id_of_fieldOfId found
            have second := id_of_fieldOfId otherFound
            have distinct : otherField ≠ field := by
              rintro rfl
              exact different (second.symm.trans first)
            simp [fieldValue_setField_other value config distinct]
  ext first second same := by
    refine config_ext fun field => ?_
    simpa [fieldOfId_id] using same field.id

/-- Writing what a field already reads changes nothing. -/
theorem setField_fieldValue (config : PersistentConfig) (field : PersistentField) :
    setField field (fieldValue config field) config = config := by
  refine config_ext fun other => ?_
  by_cases same : other = field
  · subst same
    rw [fieldValue_setField_self]
    cases other with
    | midiRouting =>
        cases mode : config.midiRouting <;> simp [fieldValue, storedValue, unsignedOfValue, mode]
    | profileMode =>
        cases mode : config.profileMode <;> simp [fieldValue, storedValue, unsignedOfValue, mode]
    | velocityMode =>
        cases mode : config.velocityMode <;> simp [fieldValue, storedValue, unsignedOfValue, mode]
    | dryPassthrough => cases dry : config.dryPassthrough <;> simp [fieldValue, storedValue, dry]
    | _ => simp [fieldValue, storedValue, unsignedOfValue]
  · exact fieldValue_setField_other _ _ same

/-- Each entry of the table is found by its identifier. -/
theorem findParameter_of_mem {spec : ParameterSpec} (member : spec ∈ parameters) :
    findParameter spec.id = some spec := by
  simp only [parameters, List.mem_cons, List.not_mem_nil, or_false] at member
  rcases member with rfl | rfl | rfl | rfl | rfl | rfl | rfl | rfl | rfl | rfl | rfl | rfl | rfl |
    rfl | rfl | rfl <;> rfl

/-- A parameter that is not structural writes no structural field. -/
theorem structuralConfigEqual_setField {spec : ParameterSpec} (member : spec ∈ parameters)
    (runtime : spec.updateClass ≠ .structural) {field : PersistentField}
    (found : fieldOfId spec.id = some field) (value : ℚ) (config : PersistentConfig) :
    structuralConfigEqual (setField field value config) config = true := by
  simp only [parameters, List.mem_cons, List.not_mem_nil, or_false] at member
  rcases member with rfl | rfl | rfl | rfl | rfl | rfl | rfl | rfl | rfl | rfl | rfl | rfl | rfl |
    rfl | rfl | rfl
  all_goals first | exact absurd rfl runtime | skip
  all_goals first
    | (obtain rfl := Option.some.inj found; simp [structuralConfigEqual, setField])
    | (have missing : (none : Option PersistentField) = some field := found
       cases missing)

/-- To write a parameter that is not structural leaves the structure as it was. -/
theorem structuralConfigEqual_write {spec : ParameterSpec} (member : spec ∈ parameters)
    (runtime : spec.updateClass ≠ .structural) (value : ℚ) (config : PersistentConfig) :
    structuralConfigEqual (idFields.write spec.id value config) config = true := by
  cases found : fieldOfId spec.id with
  | none => simpa [idFields, found] using structuralConfigEqual_refl config
  | some field =>
      simpa [idFields, found] using structuralConfigEqual_setField member runtime found value config

/-- The value a host's normalized value writes to a parameter. -/
def plainValue (id : ParameterId) (normalized : ℚ) : Option ℚ :=
  (findParameter id).bind fun spec =>
    (canonicalNormalizedValue spec (some normalized)).bind fun plain =>
      canonicalPlain spec (some plain)

/-- The values a list of normalized writes stands for. -/
def plainWrites (writes : List (ParameterId × ℚ)) : List (ParameterId × ℚ) :=
  writes.filterMap fun write => (plainValue write.1 write.2).map fun value => (write.1, value)

/-- A parameter is rejected, or its canonical value is written; unless it is
reported as changed, the configuration stays as it is. -/
theorem applyParameter_cases (config : PersistentConfig) (id : ParameterId)
    (plain : Option ℚ) :
    applyParameter config id plain = (.rejected, config) ∨
      ∃ spec value, findParameter id = some spec ∧ canonicalPlain spec plain = some value ∧
        (applyParameter config id plain).1 ≠ .rejected ∧
        (applyParameter config id plain).2 = idFields.write id value config ∧
        ((applyParameter config id plain).1 ≠ .changed →
          (applyParameter config id plain).2 = config) := by
  unfold applyParameter
  cases found : findParameter id with
  | none => exact .inl rfl
  | some spec =>
      dsimp only
      by_cases readOnly : spec.readOnly = true
      · exact .inl (if_pos readOnly)
      · rw [if_neg readOnly]
        cases canonical : canonicalPlain spec plain with
        | none => exact .inl rfl
        | some value =>
            dsimp only
            by_cases panic : id = panicParameterId
            · rw [if_pos panic]
              refine .inr ⟨spec, value, rfl, canonical, ?_, ?_, fun _ => rfl⟩
              · dsimp only
                split_ifs <;> simp
              · rw [panic]
                rfl
            · rw [if_neg panic]
              cases field : fieldOfId id with
              | none => exact .inl rfl
              | some target =>
                  refine .inr ⟨spec, value, rfl, canonical, ?_, ?_, fun unchanged => ?_⟩
                  · dsimp only
                    split_ifs <;> simp
                  · simp [idFields, field]
                  · by_cases same : fieldValue config target = value
                    · rw [← same]
                      exact setField_fieldValue config target
                    · exact absurd (if_neg same) unchanged

/-- What one parameter's last value writes, under the identifiers of the table. -/
def lastPlain (writes : List (ParameterId × ℚ)) (id : ParameterId) : Option ℚ :=
  (lastWrite id writes).bind (plainValue id)

/-- How far a batch under construction has changed the configuration it started from. -/
structure ParameterBatch.Tracks (batch : ParameterBatch) (start : PersistentConfig) : Prop where
  unchanged : batch.changed = false → batch.candidate = start
  runtime : batch.structural = false → structuralConfigEqual batch.candidate start = true

/-- One table entry writes its last value and raises the flags it has to. -/
theorem applyBoundaryValue_spec {writes : List (ParameterId × ℚ)} {spec : ParameterSpec}
    {start : PersistentConfig} {batch next : ParameterBatch} (member : spec ∈ parameters)
    (tracks : batch.Tracks start) (applied : applyBoundaryValue writes batch spec = some next) :
    next.candidate = idFields.writeAll batch.candidate
        ((lastPlain writes spec.id).map fun value => (spec.id, value)).toList ∧
      next.Tracks start := by
  unfold applyBoundaryValue at applied
  unfold lastPlain plainValue
  cases written : lastWrite spec.id writes with
  | none =>
      rw [written] at applied
      obtain rfl := Option.some.inj applied
      exact ⟨rfl, tracks⟩
  | some normalized =>
      rw [written] at applied
      dsimp only at applied
      cases canonical : canonicalNormalizedValue spec (some normalized) with
      | none => simp [canonical] at applied
      | some plain =>
          rw [canonical] at applied
          dsimp only at applied
          rcases applyParameter_cases batch.candidate spec.id (some plain) with
            rejected | ⟨other, value, found, plainCanonical, accepted, wrote, same⟩
          · simp [rejected] at applied
          · obtain rfl := Option.some.inj ((findParameter_of_mem member).symm.trans found)
            rw [found, Option.bind_some, Option.bind_some, canonical, Option.bind_some,
              plainCanonical]
            change next.candidate = idFields.write spec.id value batch.candidate ∧ _
            rw [← wrote]
            cases outcome : applyParameter batch.candidate spec.id (some plain) with
            | mk result candidate =>
                rw [outcome] at applied accepted same
                cases result with
                | rejected => exact absurd rfl accepted
                | panic =>
                    obtain rfl := Option.some.inj applied
                    have kept : candidate = batch.candidate := same (by simp)
                    subst kept
                    exact ⟨rfl, tracks.unchanged, tracks.runtime⟩
                | unchanged =>
                    obtain rfl := Option.some.inj applied
                    have kept : candidate = batch.candidate := same (by simp)
                    subst kept
                    exact ⟨rfl, tracks.unchanged, tracks.runtime⟩
                | changed =>
                    obtain rfl := Option.some.inj applied
                    refine ⟨rfl, by simp, fun runtime => ?_⟩
                    simp only [Bool.or_eq_false_iff, decide_eq_false_iff_not] at runtime
                    have before := tracks.runtime runtime.1
                    refine structuralConfigEqual_trans ?_ before
                    change structuralConfigEqual candidate batch.candidate = true
                    rw [outcome] at wrote
                    rw [show candidate = _ from wrote]
                    exact structuralConfigEqual_write member runtime.2 value batch.candidate

/-- The batch that comes out of the parameters at a boundary tracks what it has started from, by
induction on the parameters. -/
theorem applyBoundaryValues_spec {writes : List (ParameterId × ℚ)} {start : PersistentConfig}
    {specs : List ParameterSpec} {batch next : ParameterBatch}
    (members : ∀ spec ∈ specs, spec ∈ parameters) (tracks : batch.Tracks start)
    (applied : specs.foldlM (applyBoundaryValue writes) batch = some next) :
    next.candidate = idFields.writeAll batch.candidate
        ((specs.map (·.id)).filterMap fun id =>
          (lastPlain writes id).map fun value => (id, value)) ∧
      next.Tracks start := by
  induction specs generalizing batch with
  | nil =>
      obtain rfl := Option.some.inj applied
      exact ⟨rfl, tracks⟩
  | cons spec rest ih =>
      obtain ⟨first, remaining⟩ := List.forall_mem_cons.mp members
      rw [List.foldlM_cons] at applied
      obtain ⟨middle, step, tail⟩ := Option.bind_eq_some_iff.mp applied
      obtain ⟨written, stepTracks⟩ := applyBoundaryValue_spec first tracks step
      obtain ⟨final, nextTracks⟩ := ih remaining stepTracks tail
      refine ⟨?_, nextTracks⟩
      rw [final, written, ← idFields.writeAll_append, List.map_cons]
      cases value : lastPlain writes spec.id with
      | none => rw [List.filterMap_cons_none (by simp [value])]; rfl
      | some found => rw [List.filterMap_cons_some (by rw [value]; rfl)]; rfl

/-- A parameter reported as changed reads anew. -/
theorem applyParameter_changed {config next : PersistentConfig} {spec : ParameterSpec}
    (found : findParameter spec.id = some spec) {plain : Option ℚ}
    (changed : applyParameter config spec.id plain = (.changed, next)) :
    idFields.read spec.id next ≠ idFields.read spec.id config := by
  unfold applyParameter at changed
  rw [found] at changed
  dsimp only at changed
  by_cases readOnly : spec.readOnly = true
  · simp [readOnly] at changed
  rw [if_neg readOnly] at changed
  cases canonical : canonicalPlain spec plain with
  | none => simp [canonical] at changed
  | some value =>
      rw [canonical] at changed
      dsimp only at changed
      by_cases panic : spec.id = panicParameterId
      · rw [if_pos panic] at changed
        have result := congrArg Prod.fst changed
        dsimp only at result
        split_ifs at result
      · rw [if_neg panic] at changed
        cases target : fieldOfId spec.id with
        | none => simp [target] at changed
        | some field =>
            rw [target] at changed
            dsimp only at changed
            by_cases same : fieldValue config field = value
            · simp [same] at changed
            · have named := id_of_fieldOfId target
              have written : setField field value config = next := congrArg Prod.snd changed
              rw [← written]
              simpa [idFields, target, fieldValue_setField_canonical (named ▸ found) canonical]
                using Ne.symm same

/-- A table entry concerns its own parameter only. -/
theorem applyBoundaryValue_read {writes : List (ParameterId × ℚ)} {spec : ParameterSpec}
    {batch next : ParameterBatch} (member : spec ∈ parameters) {id : ParameterId}
    (different : id ≠ spec.id) (applied : applyBoundaryValue writes batch spec = some next) :
    idFields.read id next.candidate = idFields.read id batch.candidate := by
  have written := (applyBoundaryValue_spec member
    (⟨fun _ => rfl, fun _ => structuralConfigEqual_refl _⟩ : batch.Tracks batch.candidate)
    applied).1
  rw [written]
  cases lastPlain writes spec.id with
  | none => rfl
  | some value => exact idFields.read_write_other spec.id id value batch.candidate different

/-- A parameter that is not among those that are applied keeps its value. -/
theorem applyBoundaryValues_read {writes : List (ParameterId × ℚ)} {specs : List ParameterSpec}
    {batch next : ParameterBatch} (members : ∀ spec ∈ specs, spec ∈ parameters)
    {id : ParameterId} (outside : id ∉ specs.map (·.id))
    (applied : specs.foldlM (applyBoundaryValue writes) batch = some next) :
    idFields.read id next.candidate = idFields.read id batch.candidate := by
  induction specs generalizing batch with
  | nil =>
      obtain rfl := Option.some.inj applied
      rfl
  | cons spec rest ih =>
      obtain ⟨first, remaining⟩ := List.forall_mem_cons.mp members
      rw [List.map_cons, List.mem_cons, not_or] at outside
      rw [List.foldlM_cons] at applied
      obtain ⟨middle, step, tail⟩ := Option.bind_eq_some_iff.mp applied
      exact (ih remaining outside.2 tail).trans (applyBoundaryValue_read first outside.1 step)

/-- Two configurations of one structure read the same in every structural field. -/
theorem read_of_structuralConfigEqual {spec : ParameterSpec} (member : spec ∈ parameters)
    (structural : spec.updateClass = .structural) {left right : PersistentConfig}
    (same : structuralConfigEqual left right = true) :
    idFields.read spec.id left = idFields.read spec.id right := by
  simp only [structuralConfigEqual, Bool.and_eq_true, decide_eq_true_eq, and_assoc] at same
  obtain ⟨routing, profile, a4Hz, lowest, highest, polyphony, fret, channel⟩ := same
  simp only [parameters, List.mem_cons, List.not_mem_nil, or_false] at member
  rcases member with rfl | rfl | rfl | rfl | rfl | rfl | rfl | rfl | rfl | rfl | rfl | rfl | rfl |
    rfl | rfl | rfl
  all_goals first
    | exact absurd structural (by decide)
    | simp [idFields, fieldOfId, PersistentField.all, PersistentField.id, fieldValue, routing,
        profile, a4Hz, lowest, highest, polyphony, fret, channel]

/-- A table entry that raises a flag changes what its field reads. -/
theorem applyBoundaryValue_flags {writes : List (ParameterId × ℚ)} {spec : ParameterSpec}
    {batch next : ParameterBatch} (member : spec ∈ parameters)
    (applied : applyBoundaryValue writes batch spec = some next) :
    (next.changed = true → batch.changed = true ∨
        idFields.read spec.id next.candidate ≠ idFields.read spec.id batch.candidate) ∧
      (next.structural = true → batch.structural = true ∨ (spec.updateClass = .structural ∧
        idFields.read spec.id next.candidate ≠ idFields.read spec.id batch.candidate)) := by
  unfold applyBoundaryValue at applied
  cases written : lastWrite spec.id writes with
  | none =>
      rw [written] at applied
      obtain rfl := Option.some.inj applied
      exact ⟨.inl, .inl⟩
  | some normalized =>
      rw [written] at applied
      dsimp only at applied
      cases canonical : canonicalNormalizedValue spec (some normalized) with
      | none => simp [canonical] at applied
      | some plain =>
          rw [canonical] at applied
          dsimp only at applied
          cases outcome : applyParameter batch.candidate spec.id (some plain) with
          | mk result candidate =>
              rw [outcome] at applied
              cases result with
              | rejected => exact nomatch applied
              | panic | unchanged =>
                  obtain rfl := Option.some.inj applied
                  exact ⟨.inl, .inl⟩
              | changed =>
                  obtain rfl := Option.some.inj applied
                  have differs := applyParameter_changed (findParameter_of_mem member) outcome
                  refine ⟨fun _ => .inr differs, fun raised => ?_⟩
                  rcases Bool.or_eq_true_iff.mp raised with before | structural
                  · exact .inl before
                  · exact .inr ⟨of_decide_eq_true structural, differs⟩

/-- Over the table, a raised flag shows in a field whose entry can raise it. By induction on the
table. -/
theorem applyBoundaryValues_flag {writes : List (ParameterId × ℚ)} {flag : ParameterBatch → Bool}
    {eligible : ParameterSpec → Prop}
    (raises : ∀ {spec batch next}, spec ∈ parameters →
      applyBoundaryValue writes batch spec = some next → flag next = true →
      flag batch = true ∨ (eligible spec ∧
        idFields.read spec.id next.candidate ≠ idFields.read spec.id batch.candidate))
    {specs : List ParameterSpec} {batch next : ParameterBatch}
    (members : ∀ spec ∈ specs, spec ∈ parameters) (distinct : (specs.map (·.id)).Nodup)
    (applied : specs.foldlM (applyBoundaryValue writes) batch = some next)
    (raised : flag next = true) :
    flag batch = true ∨ ∃ spec ∈ specs, eligible spec ∧
      idFields.read spec.id next.candidate ≠ idFields.read spec.id batch.candidate := by
  induction specs generalizing batch with
  | nil =>
      obtain rfl := Option.some.inj applied
      exact .inl raised
  | cons spec rest ih =>
      obtain ⟨first, remaining⟩ := List.forall_mem_cons.mp members
      rw [List.map_cons, List.nodup_cons] at distinct
      rw [List.foldlM_cons] at applied
      obtain ⟨middle, step, tail⟩ := Option.bind_eq_some_iff.mp applied
      have later {id : ParameterId} (outside : id ∉ rest.map (·.id)) :
          idFields.read id next.candidate = idFields.read id middle.candidate :=
        applyBoundaryValues_read remaining outside tail
      rcases ih remaining distinct.2 tail with before | ⟨other, inRest, able, differs⟩
      · rcases raises first step before with start | ⟨able, differs⟩
        · exact .inl start
        · exact .inr ⟨spec, List.mem_cons_self, able, by rwa [later distinct.1]⟩
      · refine .inr ⟨other, List.mem_cons_of_mem _ inRest, able, ?_⟩
        have elsewhere : other.id ≠ spec.id := fun same =>
          distinct.1 (same ▸ List.mem_map_of_mem inRest)
        rwa [← applyBoundaryValue_read first elsewhere step]

/-- No two parameters share a number. -/
theorem nodup_parameterIds : (parameters.map (·.id)).Nodup := by
  decide

/-- A write that names a parameter of the table and converts to one of its steps. -/
def Converts (write : ParameterId × ℚ) : Prop :=
  (plainValue write.1 write.2).isSome

/-- A value that has a canonical form can be converted again. -/
theorem canonicalPlain_isSome {spec : ParameterSpec} {normalized : Option ℚ} {plain : ℚ}
    (canonical : canonicalNormalizedValue spec normalized = some plain) :
    (canonicalPlain spec (some plain)).isSome := by
  unfold canonicalNormalizedValue at canonical
  by_cases valid : validSpec spec = true
  · simp [canonicalPlain, valid]
  · cases normalized with
    | none => simp at canonical
    | some value => simp [plainToNormalized, canonicalPlain, valid] at canonical

/-- A write in canonical form is converted. -/
theorem converts_of_canonical {spec : ParameterSpec} {normalized : ℚ}
    (found : findParameter spec.id = some spec)
    (canonical : (canonicalNormalizedValue spec (some normalized)).isSome) :
    Converts (spec.id, normalized) := by
  obtain ⟨plain, value⟩ := Option.isSome_iff_exists.mp canonical
  simpa [Converts, plainValue, found, value] using canonicalPlain_isSome value

/-- A point that is read writes its parameter with a value that converts. -/
theorem readPoint_converts {numSamples : Int} {spec : ParameterSpec}
    {point : Option (Int × Option ℚ)} {write : ParameterId × ℚ}
    (found : findParameter spec.id = some spec)
    (read : readPoint numSamples spec point = some write) : Converts write := by
  unfold readPoint at read
  cases point with
  | none => simp at read
  | some sample =>
      obtain ⟨offset, normalized⟩ := sample
      dsimp only at read
      by_cases late : offset < 0 ∨ (if numSamples = 0 then offset ≠ 0 else offset ≥ numSamples)
      · simp [late] at read
      · rw [if_neg late] at read
        by_cases refused :
            spec.readOnly = true ∨ (canonicalNormalizedValue spec normalized).isNone = true
        · rw [if_pos refused] at read
          exact nomatch read
        · rw [if_neg refused] at read
          rw [not_or] at refused
          cases normalized with
          | none => simp at read
          | some value =>
              obtain rfl := Option.some.inj read
              refine converts_of_canonical found ?_
              simpa [Option.isSome_iff_ne_none] using refused.2

/-- The parameter that is found has the number it was looked for by, and is in the table. -/
theorem findParameter_self {id : ParameterId} {spec : ParameterSpec}
    (found : findParameter id = some spec) : spec.id = id ∧ spec ∈ parameters := by
  unfold findParameter at found
  exact ⟨by simpa using List.find?_some found, List.mem_of_find?_eq_some found⟩

/-- What a list is read as comes from one of its entries. -/
theorem mem_of_mapM {Input Output : Type} {read : Input → Option Output} {inputs : List Input}
    {outputs : List Output} (mapped : inputs.mapM read = some outputs) {output : Output}
    (member : output ∈ outputs) : ∃ input ∈ inputs, read input = some output := by
  induction inputs generalizing outputs with
  | nil =>
      obtain rfl := Option.some.inj mapped
      simp at member
  | cons input rest ih =>
      rw [List.mapM_cons] at mapped
      obtain ⟨head, first, others⟩ := Option.bind_eq_some_iff.mp mapped
      obtain ⟨tail, remaining, joined⟩ := Option.bind_eq_some_iff.mp others
      obtain rfl := Option.some.inj joined
      rcases List.mem_cons.mp member with rfl | inTail
      · exact ⟨input, List.mem_cons_self, first⟩
      · obtain ⟨source, inRest, found⟩ := ih remaining inTail
        exact ⟨source, List.mem_cons_of_mem _ inRest, found⟩

/-- The writes that a queue is read as can all be converted, since the queue is refused otherwise.
-/
theorem readQueue_converts {numSamples : Int} {queue : Option ParamValueQueue}
    {writes : List (ParameterId × ℚ)} (read : readQueue numSamples queue = some writes)
    {write : ParameterId × ℚ} (member : write ∈ writes) : Converts write := by
  unfold readQueue at read
  cases queue with
  | none => simp at read
  | some queue =>
      dsimp only at read
      cases found : findParameter queue.parameterId with
      | none =>
          rw [found] at read
          dsimp only at read
          split_ifs at read
          obtain rfl := Option.some.inj read
          simp at member
      | some spec =>
          rw [found] at read
          dsimp only at read
          cases points : queue.points with
          | none => simp [points] at read
          | some points =>
              rw [points] at read
              dsimp only at read
              split_ifs at read
              obtain ⟨point, -, pointRead⟩ := mem_of_mapM read member
              refine readPoint_converts ?_ pointRead
              rw [(findParameter_self found).1, found]

/-- Every write of an accepted block converts. -/
theorem boundaryWrites_convert {numSamples : Int} {changes : Option ParameterChanges}
    {writes : List (ParameterId × ℚ)} (read : boundaryWrites numSamples changes = some writes) :
    ∀ write ∈ writes, Converts write := by
  intro write member
  unfold boundaryWrites at read
  split_ifs at read
  cases changes with
  | none =>
      obtain rfl := Option.some.inj read
      simp at member
  | some changes =>
      dsimp only at read
      cases queues : changes.queues with
      | none => simp [queues] at read
      | some queues =>
          rw [queues] at read
          dsimp only at read
          split_ifs at read
          obtain ⟨lists, mapped, flattened⟩ := Option.map_eq_some_iff.mp read
          subst flattened
          obtain ⟨list, inLists, inList⟩ := List.mem_flatten.mp member
          obtain ⟨queue, -, queueRead⟩ := mem_of_mapM mapped inLists
          exact readQueue_converts queueRead inList

/-- The last value of a parameter in a batch is the last one written to its field. -/
theorem lastPlain_eq_lastWrite {writes : List (ParameterId × ℚ)}
    (convert : ∀ write ∈ writes, Converts write) (id : ParameterId) :
    lastPlain writes id = lastWrite id (plainWrites writes) :=
  (lastWrite_filterMap plainValue id convert).symm

/-- A parameter outside the table is never written. -/
theorem lastPlain_outside {writes : List (ParameterId × ℚ)} {id : ParameterId}
    (outside : id ∉ parameters.map (·.id)) : lastPlain writes id = none := by
  unfold lastPlain plainValue
  cases found : findParameter id with
  | none => simp
  | some spec =>
      obtain ⟨same, member⟩ := findParameter_self found
      exact absurd (List.mem_map.mpr ⟨spec, member, same⟩) outside

/-- An accepted batch writes the block's values in order, each parameter's last
one for good, and raises the flags it has to. -/
theorem readLastBoundaryValues_spec {changes : Option ParameterChanges} {numSamples : Int}
    {current : PersistentConfig} {batch : ParameterBatch}
    (read : readLastBoundaryValues changes numSamples current = some batch) :
    ∃ writes, boundaryWrites numSamples changes = some writes ∧
      batch.candidate = idFields.writeAll current (plainWrites writes) ∧
      batch.Tracks current := by
  unfold readLastBoundaryValues at read
  cases accepted : boundaryWrites numSamples changes with
  | none => simp [accepted] at read
  | some writes =>
      rw [accepted] at read
      have convert := boundaryWrites_convert accepted
      have start : ({ candidate := current } : ParameterBatch).Tracks current :=
        ⟨fun _ => rfl, fun _ => structuralConfigEqual_refl current⟩
      obtain ⟨candidate, tracks⟩ :=
        applyBoundaryValues_spec (fun _ member => member) start read
      refine ⟨writes, rfl, candidate.trans (idFields.writeAll_congr (fun id => ?_) current), tracks⟩
      rw [lastWrite_table, ← lastPlain_eq_lastWrite convert]
      split_ifs with member
      · rfl
      · exact (lastPlain_outside member).symm

/-- A raised flag shows in a field whose parameter can raise it. -/
theorem readLastBoundaryValues_flag {flag : ParameterBatch → Bool}
    {eligible : ParameterSpec → Prop}
    (raises : ∀ {writes spec batch next}, spec ∈ parameters →
      applyBoundaryValue writes batch spec = some next → flag next = true →
      flag batch = true ∨ (eligible spec ∧
        idFields.read spec.id next.candidate ≠ idFields.read spec.id batch.candidate))
    {changes : Option ParameterChanges} {numSamples : Int} {current : PersistentConfig}
    {batch : ParameterBatch} (read : readLastBoundaryValues changes numSamples current = some batch)
    (raised : flag batch = true) (lowered : flag { candidate := current } = false) :
    ∃ spec ∈ parameters, eligible spec ∧
      idFields.read spec.id batch.candidate ≠ idFields.read spec.id current := by
  unfold readLastBoundaryValues at read
  cases accepted : boundaryWrites numSamples changes with
  | none => simp [accepted] at read
  | some writes =>
      rw [accepted] at read
      rcases applyBoundaryValues_flag raises (fun _ member => member) nodup_parameterIds read
        raised with before | shown
      · exact absurd before (by simp [lowered])
      · exact shown

/-- A structural batch changes a structural field. -/
theorem readLastBoundaryValues_structural_field {changes : Option ParameterChanges}
    {numSamples : Int} {current : PersistentConfig} {batch : ParameterBatch}
    (read : readLastBoundaryValues changes numSamples current = some batch)
    (raised : batch.structural = true) :
    ∃ spec ∈ parameters, spec.updateClass = .structural ∧
      idFields.read spec.id batch.candidate ≠ idFields.read spec.id current :=
  readLastBoundaryValues_flag (fun member applied => (applyBoundaryValue_flags member applied).2)
    read raised rfl

/-- A structural batch changes the structure. -/
theorem readLastBoundaryValues_structural {changes : Option ParameterChanges} {numSamples : Int}
    {current : PersistentConfig} {batch : ParameterBatch}
    (read : readLastBoundaryValues changes numSamples current = some batch)
    (raised : batch.structural = true) :
    structuralConfigEqual batch.candidate current = false := by
  obtain ⟨spec, member, structural, differs⟩ := readLastBoundaryValues_structural_field read raised
  by_contra same
  rw [Bool.not_eq_false] at same
  exact differs (read_of_structuralConfigEqual member structural same)

end M3Midi
