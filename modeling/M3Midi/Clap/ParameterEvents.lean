import M3Midi.Parameter.Boundary

/-! # Parameter events of a CLAP host

A CLAP host delivers parameter values one event at a time. Each event that concerns
the whole plug-in is applied as it is read, so a panic in the list is remembered
whatever follows it (`M3Midi.applyParameterEventsTo_panic`).
-/

namespace M3Midi

/-- An event of the core space with a parameter's value; `-1` concerns the whole plug-in. -/
structure ParamValueEvent where
  time : Nat := 0
  noteId : Int := -1
  portIndex : Int := -1
  channel : Int := -1
  key : Int := -1
  paramId : ParameterId
  value : Option ℚ
  deriving DecidableEq, Repr

/-- The host's input events; absent events have no header, or are of another kind. -/
abbrev ClapInputEvents := Option (List (Option ParamValueEvent))

/-- `ParameterBatchResult`, what the events of a block come to. -/
structure ParameterBatchResult where
  changed : Bool := false
  structural : Bool := false
  panic : Bool := false
  panicOffset : Nat := 0
  deriving DecidableEq, Repr

namespace ParamValueEvent

/-- Does the event concern the whole plug-in? -/
def global (event : ParamValueEvent) : Bool :=
  event.noteId = -1 && event.portIndex = -1 && event.channel = -1 && event.key = -1

/-- The sample of the block a panic is requested at. -/
def panicOffset (event : ParamValueEvent) (framesCount : Nat) : Nat :=
  if framesCount = 0 then 0 else min event.time (framesCount - 1)

end ParamValueEvent

/-- The loop body of `apply_parameter_events_to`. -/
def applyParameterEvent (framesCount : Nat) (progress : PersistentConfig × ParameterBatchResult) :
    Option ParamValueEvent → PersistentConfig × ParameterBatchResult
  | none => progress
  | some event =>
      if event.global = false then progress
      else
        let outcome := applyParameter progress.1 event.paramId event.value
        match outcome.1 with
        | .panic => (outcome.2, { progress.2 with
            panic := true, panicOffset := event.panicOffset framesCount })
        | .changed => (outcome.2, { progress.2 with
            changed := true
            structural := progress.2.structural ||
              (findParameter event.paramId).any (·.updateClass = .structural) })
        | .unchanged | .rejected => (outcome.2, progress.2)

/-- `apply_parameter_events` on a configuration. -/
def applyParameterEventsTo (config : PersistentConfig) (input : ClapInputEvents)
    (framesCount : Nat) : PersistentConfig × ParameterBatchResult :=
  match input with
  | none => (config, {})
  | some events => events.foldl (applyParameterEvent framesCount) (config, {})

/-- Does the event ask for a panic? -/
def ParamValueEvent.asksPanic (event : ParamValueEvent) : Bool :=
  event.global && event.paramId = panicParameterId &&
    ((findParameter panicParameterId).bind fun spec => canonicalPlain spec event.value).any (1 ≤ ·)

/-- Writing a parameter asks for a panic exactly for the panic parameter at one. -/
theorem applyParameter_panic_iff (config : PersistentConfig) (id : ParameterId) (plain : Option ℚ) :
    (applyParameter config id plain).1 = .panic ↔ id = panicParameterId ∧
      ((findParameter panicParameterId).bind fun spec => canonicalPlain spec plain).any (1 ≤ ·) =
        true := by
  by_cases panic : id = panicParameterId
  · subst panic
    obtain ⟨spec, found, writable⟩ : ∃ spec, findParameter panicParameterId = some spec ∧
        spec.readOnly = false := ⟨_, rfl, rfl⟩
    unfold applyParameter
    rw [found, Option.bind_some]
    dsimp only
    rw [if_neg (by simp [writable])]
    cases canonicalPlain spec plain with
    | none => simp
    | some value =>
        dsimp only
        rw [if_pos rfl]
        by_cases one : value ≥ 1 <;> simp [one]
  · refine iff_of_false (fun outcome => ?_) fun held => panic held.1
    unfold applyParameter at outcome
    split at outcome
    · exact nomatch outcome
    · split_ifs at outcome
      split at outcome
      · exact nomatch outcome
      · split at outcome
        · exact nomatch outcome
        · dsimp only at outcome
          split_ifs at outcome

/-- One event leaves the panic flag raised, or raises it. -/
theorem applyParameterEvent_panic (framesCount : Nat)
    (progress : PersistentConfig × ParameterBatchResult) (event : Option ParamValueEvent) :
    (applyParameterEvent framesCount progress event).2.panic = true ↔
      progress.2.panic = true ∨ event.any (·.asksPanic) = true := by
  cases event with
  | none => simp [applyParameterEvent]
  | some event =>
      rw [Option.any_some]
      by_cases partly : event.global = false
      · simp [applyParameterEvent, ParamValueEvent.asksPanic, partly]
      · have whole : event.global = true := by simpa using partly
        have asks : event.asksPanic = true ↔
            (applyParameter progress.1 event.paramId event.value).1 = .panic := by
          rw [applyParameter_panic_iff, ParamValueEvent.asksPanic, whole, Bool.true_and,
            Bool.and_eq_true, decide_eq_true_eq]
        rw [asks, applyParameterEvent, if_neg partly]
        cases outcome : (applyParameter progress.1 event.paramId event.value).1 <;>
          simp [outcome]

/-- A block asks for a panic exactly when one of its events does. -/
theorem applyParameterEventsTo_panic (config : PersistentConfig)
    (events : List (Option ParamValueEvent)) (framesCount : Nat) :
    (applyParameterEventsTo config (some events) framesCount).2.panic = true ↔
      ∃ event ∈ events, event.any (·.asksPanic) = true := by
  unfold applyParameterEventsTo
  have run (progress : PersistentConfig × ParameterBatchResult) :
      (events.foldl (applyParameterEvent framesCount) progress).2.panic = true ↔
        progress.2.panic = true ∨ ∃ event ∈ events, event.any (·.asksPanic) = true := by
    induction events generalizing progress with
    | nil => simp
    | cons event rest ih =>
        rw [List.foldl_cons, ih, applyParameterEvent_panic, or_assoc, List.exists_mem_cons_iff]
  rw [run]
  simp

end M3Midi
