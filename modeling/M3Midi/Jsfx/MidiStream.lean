import M3Midi.Jsfx.Host

/-! # The MIDI stream and the voice table

The messages of a run switch notes on and off, and the events that are queued and not
yet sent lead from the notes that sound to the voices that are active (`Streams`). Every
section keeps that, unless a sample is rejected while events are queued: then the panic
forgets them.
-/

namespace M3Midi.Jsfx

open Foundation

/-- The switch that a report stands for, by channel and note. -/
def JsfxReport.mark : JsfxReport → Option (Mark (ℕ × ℕ))
  | .message sent =>
      match sent.type with
      | .off => some (.closed (sent.channel, sent.note))
      | .on => some (.opened (sent.channel, sent.note))
  | .panicked => none

/-- The switches of a log. -/
def marksOf (log : List JsfxReport) : List (Mark (ℕ × ℕ)) := log.filterMap JsfxReport.mark

/-- The notes that sound after a log, with their channels. -/
def soundingAfter (log : List JsfxReport) : Finset (ℕ × ℕ) := switchAll ∅ (marksOf log)

/-- The active voices, on the channel of the settings. -/
def voiceNotes (state : JsfxState) : Finset (ℕ × ℕ) :=
  (activeNotes state.lifecycle.voices).image (Prod.mk (channelIndex state.settings.midiChannel))

/-- The switches of events, on a channel. -/
def eventMarks (channel : ℤ) (events : List LifecycleEvent) : List (Mark (ℕ × ℕ)) :=
  (events.map LifecycleEvent.mark).map (Mark.map (Prod.mk (channelIndex channel)))

/-- The marks of two logs are those of the first and then those of the second. -/
theorem marksOf_append (first second : List JsfxReport) :
    marksOf (first ++ second) = marksOf first ++ marksOf second :=
  List.filterMap_append

@[simp] theorem marksOf_panicked : marksOf [.panicked] = [] := rfl

/-- What is sent of events are their switches. -/
theorem marksOf_emitEvents {channel : ℤ} {blockSize : ℕ} {events : List LifecycleEvent}
    (inside : ∀ event ∈ events, event.note < noteCount) :
    marksOf (emitEvents channel blockSize events) = eventMarks channel events := by
  unfold marksOf emitEvents eventMarks
  rw [List.filterMap_map, List.map_map]
  induction events with
  | nil => rfl
  | cons event events ih =>
      have below : event.note ≤ 127 :=
        Nat.le_of_lt_succ (inside event List.mem_cons_self)
      have note : clamp event.note 0 127 = event.note := by
        unfold clamp
        rw [max_eq_right (Nat.zero_le _), min_eq_right below]
      have sent : (JsfxReport.mark ∘ fun event =>
          JsfxReport.message (encodeEvent channel blockSize event)) event =
          some ((Mark.map (Prod.mk (channelIndex channel)) ∘ LifecycleEvent.mark) event) := by
        simp only [Function.comp, JsfxReport.mark, encodeEvent, LifecycleEvent.mark, note]
        cases event.type <;> rfl
      rw [List.filterMap_cons_some sent, List.map_cons,
        ih fun event member => inside event (List.mem_cons_of_mem _ member)]

/-- The marks of the queued events are their notes, on the channel they will be sent on. -/
theorem eventMarks_item (channel : ℤ) (events : List LifecycleEvent) :
    (eventMarks channel events).map Mark.item =
      (events.map LifecycleEvent.note).map (Prod.mk (channelIndex channel)) := by
  unfold eventMarks
  rw [List.map_map, List.map_map, List.map_map]
  refine List.map_congr_left fun event _ => ?_
  simp only [Function.comp, item_map, mark_item]

/-- Events with different notes have different marks. -/
theorem eventMarks_once {channel : ℤ} {events : List LifecycleEvent}
    (once : (events.map LifecycleEvent.note).Nodup) :
    ((eventMarks channel events).map Mark.item).Nodup := by
  rw [eventMarks_item]
  exact once.map (Prod.mk_right_injective _)

/-- The limit of the voices under some settings. -/
def HostSettings.activeLimit (settings : HostSettings) : ℕ :=
  ({ maxActiveVoices := settings.maxPolyphony } : LifecycleSettings).activeLimit

/-- The messages of a run and the events queued lead to the active voices. -/
structure Streams (log : List JsfxReport) (state : JsfxState) : Prop where
  switches : Switches ∅ (marksOf log ++ eventMarks state.settings.midiChannel state.pending)
  reaches : switchAll ∅ (marksOf log ++ eventMarks state.settings.midiChannel state.pending) =
    voiceNotes state
  panics : ∀ early late, log = early ++ .panicked :: late → soundingAfter early = ∅
  consistent : ∀ note, (state.lifecycle.voices note).Consistent
  fits : (activeNotes state.lifecycle.voices).card ≤ state.settings.activeLimit
  hard : state.reconfigurePending = true ∨
    (state.requested.maxPolyphony = state.settings.maxPolyphony ∧
      state.requested.midiChannel = state.settings.midiChannel)
  once : (state.pending.map LifecycleEvent.note).Nodup
  inside : ∀ event ∈ state.pending, event.note < noteCount
  ready : state.pending = [] ∨ state.hostFault = .ok

namespace Streams

variable {math : EelMath} {log : List JsfxReport} {state : JsfxState}

/-- Where nothing is queued, the notes that sound are the active voices. -/
theorem sounding (streams : Streams log state) (sent : state.pending = []) :
    Switches ∅ (marksOf log) ∧ soundingAfter log = voiceNotes state := by
  have switches := streams.switches
  have reaches := streams.reaches
  rw [sent] at switches reaches
  simp only [eventMarks, List.map_nil, List.append_nil] at switches reaches
  exact ⟨switches, reaches⟩

/-- There are never more active voices than lanes. -/
theorem few (streams : Streams log state) :
    (activeNotes state.lifecycle.voices).card ≤ maxVoices :=
  streams.fits.trans (activeLimit_le _).2.1

/-- A state that differs in nothing that matters here. -/
theorem congr (streams : Streams log state) {other : JsfxState}
    (lifecycle : other.lifecycle = state.lifecycle) (settings : other.settings = state.settings)
    (pending : other.pending = state.pending) (fault : other.hostFault = state.hostFault)
    (hard : other.reconfigurePending = true ∨
      (other.requested.maxPolyphony = state.settings.maxPolyphony ∧
        other.requested.midiChannel = state.settings.midiChannel)) :
    Streams log other := by
  refine ⟨?_, ?_, streams.panics, ?_, ?_, ?_, ?_, ?_, ?_⟩
  · rw [settings, pending]
    exact streams.switches
  · unfold voiceNotes
    rw [settings, pending, lifecycle]
    exact streams.reaches
  · rw [lifecycle]
    exact streams.consistent
  · rw [lifecycle, settings]
    exact streams.fits
  · rw [settings]
    exact hard
  · rw [pending]
    exact streams.once
  · rw [pending]
    exact streams.inside
  · rw [pending, fault]
    exact streams.ready

end Streams

/-- A panic leaves the settings and the requests as they are. -/
theorem midiPanic_keeps (state : JsfxState) (blockOffset : ℕ) :
    (state.midiPanic blockOffset).1.settings = state.settings ∧
      (state.midiPanic blockOffset).1.requested = state.requested ∧
      (state.midiPanic blockOffset).1.reconfigurePending = state.reconfigurePending := by
  unfold JsfxState.midiPanic
  exact ⟨rfl, rfl, rfl⟩

/-- What a panic hands out ends every active voice. -/
theorem midiPanic_spec (state : JsfxState) (blockOffset : ℕ)
    (consistent : ∀ note, (state.lifecycle.voices note).Consistent)
    (few : (activeNotes state.lifecycle.voices).card ≤ maxVoices) :
    ∃ marks, marksOf (state.midiPanic blockOffset).2 = marks ∧
      (∃ messages, (state.midiPanic blockOffset).2 = messages ++ [.panicked] ∧
        .panicked ∉ messages ∧ marksOf messages = marks) ∧
      Switches (voiceNotes state) marks ∧ switchAll (voiceNotes state) marks = ∅ ∧
      (∀ note, ((state.midiPanic blockOffset).1.lifecycle.voices note).Consistent) ∧
      activeNotes (state.midiPanic blockOffset).1.lifecycle.voices = ∅ := by
  have upholds := releaseAll_upholds consistent few blockOffset
  unfold JsfxState.midiPanic
  dsimp only
  generalize state.lifecycle.releaseAll blockOffset = released at upholds
  have emitted := @marksOf_emitEvents state.settings.midiChannel state.samplesBlock _
    upholds.inside
  have injective : Function.Injective
      (Prod.mk (channelIndex state.settings.midiChannel) : ℕ → ℕ × ℕ) :=
    Prod.mk_right_injective _
  have silent : activeNotes released.voices = ∅ :=
    Finset.card_eq_zero.mp (Nat.le_zero.mp upholds.limited)
  refine ⟨eventMarks state.settings.midiChannel released.list.events, ?_, ⟨_, rfl, ?_, emitted⟩,
    ?_, ?_, upholds.consistent, silent⟩
  · rw [marksOf_append, emitted, marksOf_panicked, List.append_nil]
  · unfold emitEvents
    intro member
    obtain ⟨event, -, contrary⟩ := List.mem_map.mp member
    exact JsfxReport.noConfusion contrary
  · exact (switches_map injective).mpr upholds.switches
  · unfold voiceNotes eventMarks
    rw [switchAll_map injective, upholds.reaches, silent]
    rfl

/-- A log goes on without a panic. -/
theorem panics_append {log sent : List JsfxReport}
    (panics : ∀ early late, log = early ++ .panicked :: late → soundingAfter early = ∅)
    (messages : .panicked ∉ sent) {early late : List JsfxReport}
    (split : log ++ sent = early ++ .panicked :: late) : soundingAfter early = ∅ := by
  rcases List.append_eq_append_iff.mp split with ⟨middle, rfl, tail⟩ | ⟨middle, rfl, tail⟩
  · exact absurd (tail ▸ List.mem_append_right middle List.mem_cons_self) messages
  · cases middle with
    | nil =>
        rw [List.nil_append] at tail
        exact absurd (tail ▸ List.mem_cons_self) messages
    | cons first middle =>
        obtain ⟨rfl, rfl⟩ := List.cons.inj tail
        exact panics early middle rfl

namespace Streams

variable {math : EelMath} {log : List JsfxReport} {state other : JsfxState}
  {input : BlockInput} {fault : Fault} {hold : Bool}

/-- After a panic nothing sounds, and the settings may change. -/
theorem panic (streams : Streams log state) (sent : state.pending = []) (blockOffset : ℕ)
    (consistent : ∀ note, (other.lifecycle.voices note).Consistent)
    (silent : activeNotes other.lifecycle.voices = ∅) (empty : other.pending = [])
    (hard : other.reconfigurePending = true ∨
      (other.requested.maxPolyphony = other.settings.maxPolyphony ∧
        other.requested.midiChannel = other.settings.midiChannel)) :
    Streams (log ++ (state.midiPanic blockOffset).2) other := by
  obtain ⟨marks, reported, ⟨messages, reports, unpanicked, told⟩, switches, ends, -, -⟩ :=
    midiPanic_spec state blockOffset streams.consistent streams.few
  obtain ⟨before, sounds⟩ := streams.sounding sent
  have after : switchAll ∅ (marksOf log ++ marks) = ∅ := by
    rw [switchAll_append]
    change switchAll (soundingAfter log) marks = ∅
    rw [sounds, ends]
  refine ⟨?_, ?_, ?_, consistent, ?_, hard, ?_, ?_, .inl empty⟩
  · rw [empty, marksOf_append, reported]
    simp only [eventMarks, List.map_nil, List.append_nil]
    refine switches_append.mpr ⟨before, ?_⟩
    change Switches (soundingAfter log) marks
    rwa [sounds]
  · unfold voiceNotes
    rw [empty, marksOf_append, reported, silent]
    simp only [eventMarks, List.map_nil, List.append_nil]
    exact after
  · intro early late split
    rw [reports, ← List.append_assoc] at split
    rcases List.append_eq_append_iff.mp split with ⟨middle, rfl, tail⟩ | ⟨middle, whole, tail⟩
    · cases middle with
      | nil =>
          unfold soundingAfter
          rw [List.append_nil, marksOf_append, told]
          exact after
      | cons first middle => simp at tail
    · cases middle with
      | nil =>
          rw [List.append_nil] at whole
          unfold soundingAfter
          rw [← whole, marksOf_append, told]
          exact after
      | cons first middle =>
          obtain ⟨rfl, -⟩ := List.cons.inj tail
          exact panics_append streams.panics unpanicked whole
  · rw [silent]
    exact Nat.zero_le _
  · rw [empty]
    exact List.nodup_nil
  · rw [empty]
    exact fun _ member => absurd member List.not_mem_nil

/-- The end of `@sample`: what is queued is sent. -/
theorem sendEvents (streams : Streams log state) (detectorIn : ℚ) :
    Streams (log ++ (state.sendEvents detectorIn).2) (state.sendEvents detectorIn).1 ∧
      (state.sendEvents detectorIn).1.pending = [] := by
  have sent : (state.sendEvents detectorIn).1.pending = [] := by
    unfold JsfxState.sendEvents JsfxState.pending
    dsimp only
    split_ifs <;> rw [Nat.sub_self, List.take_zero]
  have same : (state.sendEvents detectorIn).1.settings = state.settings ∧
      (state.sendEvents detectorIn).1.lifecycle = state.lifecycle ∧
      (state.sendEvents detectorIn).1.requested = state.requested ∧
      (state.sendEvents detectorIn).1.reconfigurePending = state.reconfigurePending := by
    unfold JsfxState.sendEvents
    dsimp only
    split_ifs <;> exact ⟨rfl, rfl, rfl, rfl⟩
  obtain ⟨settings, lifecycle, requested, reconfigure⟩ := same
  have told : marksOf (state.sendEvents detectorIn).2 =
      eventMarks state.settings.midiChannel state.pending :=
    marksOf_emitEvents streams.inside
  refine ⟨⟨?_, ?_, ?_, ?_, ?_, ?_, ?_, ?_, .inl sent⟩, sent⟩
  · rw [sent, marksOf_append, told]
    simp only [eventMarks, List.map_nil, List.append_nil]
    exact streams.switches
  · unfold voiceNotes
    rw [sent, marksOf_append, told, settings, lifecycle]
    simp only [eventMarks, List.map_nil, List.append_nil]
    exact streams.reaches
  · intro early late split
    refine panics_append streams.panics (fun member => ?_) split
    obtain ⟨event, -, contrary⟩ := List.mem_map.mp member
    exact JsfxReport.noConfusion contrary
  · rw [lifecycle]
    exact streams.consistent
  · rw [lifecycle, settings]
    exact streams.fits
  · rw [reconfigure, requested, settings]
    exact streams.hard
  · rw [sent]
    exact List.nodup_nil
  · rw [sent]
    exact fun _ member => absurd member List.not_mem_nil

/-- A rejected sample drops what was queued. -/
theorem pending_rejectSample (state : JsfxState) : state.rejectSample.1.pending = [] := by
  unfold JsfxState.rejectSample JsfxState.pending
  dsimp only
  rw [Nat.sub_self, List.take_zero]

/-- A sample is rejected while nothing is queued. -/
theorem rejectSample (streams : Streams log state) (sent : state.pending = []) :
    Streams (log ++ state.rejectSample.2) state.rejectSample.1 := by
  have empty := pending_rejectSample state
  unfold JsfxState.rejectSample at empty ⊢
  by_cases faulty : state.hostFault ≠ .invalidSamples
  · rw [if_pos faulty] at empty ⊢
    have spec := midiPanic_spec state state.sampleOffset streams.consistent streams.few
    have panicked := fun other => @panic log state other streams sent state.sampleOffset
    have kept := midiPanic_keeps state state.sampleOffset
    generalize state.midiPanic state.sampleOffset = cleaned at spec panicked kept empty ⊢
    obtain ⟨settings, requested, reconfigure⟩ := kept
    obtain ⟨-, -, -, -, -, consistent, silent⟩ := spec
    refine panicked _ consistent silent empty ?_
    dsimp only
    rw [settings, requested, reconfigure]
    exact streams.hard
  · rw [if_neg faulty] at empty ⊢
    rw [List.append_nil]
    obtain ⟨switches, reaches, panics, consistent, fits, hard, -, -, -⟩ := streams
    rw [sent] at switches reaches
    refine ⟨?_, ?_, panics, consistent, fits, hard, ?_, ?_, .inl empty⟩ <;> rw [empty]
    · exact switches
    · exact reaches
    · exact List.nodup_nil
    · exact fun _ member => absurd member List.not_mem_nil

/-- A sample that is accepted, or rejected while nothing is queued. -/
theorem sample (streams : Streams log state) {left right : Sample}
    (accepted : isFinite (hostSelectInput state.settings.inputMode left right) = true ∨
      state.pending = []) :
    Streams (log ++ (state.sample left right).2) (state.sample left right).1 ∧
      (state.sample left right).1.pending = [] := by
  unfold JsfxState.sample
  dsimp only
  rw [← List.append_assoc]
  split_ifs with finite
  · rw [List.append_nil]
    exact streams.sendEvents _
  · exact (streams.rejectSample (accepted.resolve_left finite)).sendEvents _

/-- A slider that is moved changes only what is requested. -/
theorem slider (streams : Streams log state) (sliders : Sliders) :
    Streams log (state.slider math sliders) := by
  refine streams.congr rfl rfl rfl rfl ?_
  unfold JsfxState.slider
  dsimp only
  generalize JsfxState.requestedSettings math sliders _ = requested
  rw [Bool.or_eq_true]
  by_cases changed : hardConfigurationChanged requested state.settings = true
  · exact .inl (.inl changed)
  · rcases streams.hard with pending | -
    · exact .inl (.inr pending)
    · refine .inr ?_
      unfold hardConfigurationChanged at changed
      simp only [Bool.or_eq_true, decide_eq_true_eq, not_or, not_not] at changed
      exact ⟨changed.1.1.2, changed.2⟩

/-- A state that is saved or loaded keeps the stream. -/
theorem serialize (streams : Streams log state) (reading : Bool) :
    Streams log (state.serialize reading) := by
  unfold JsfxState.serialize
  cases reading with
  | true => exact streams.congr rfl rfl rfl rfl (.inl rfl)
  | false => exact streams

/-- The detection of a block queues the events of its update. They are the difference between the
voices before and after it. -/
theorem detect (streams : Streams log state) (sent : state.pending = [])
    (ready : state.hostFault = .ok) (emitted : state.emittedEventCount = 0)
    (input : BlockInput) : Streams log (state.detect math input) := by
  obtain ⟨before, sounds⟩ := streams.sounding sent
  unfold JsfxState.detect
  dsimp only
  generalize lifecycleResponseForProfile _ _ _ _ = response
  have upholds := @update_upholds math _ streams.consistent
    (JsfxState.lifecycleSettings state.settings input response)
    (JsfxState.updateArguments state.settings input state.absoluteSample
      (if hostSignalPresent input.fastEnergy = true
        then min input.sampleRate (state.acquisitionSamples + input.samplesBlock) else 0)
      response) streams.fits
  generalize state.lifecycle.update math _ _ = lifecycle at upholds ⊢
  rw [upholds.calm, if_neg Bool.false_ne_true]
  have queued : JsfxState.pending { state with
      acquisitionSamples := if hostSignalPresent input.fastEnergy = true
        then min input.sampleRate (state.acquisitionSamples + input.samplesBlock) else 0
      lifecycle
      eventCount := lifecycle.list.events.length } = lifecycle.list.events := by
    unfold JsfxState.pending
    dsimp only
    rw [emitted, List.drop_zero, Nat.sub_zero, List.take_length]
  have injective : Function.Injective
      (Prod.mk (channelIndex state.settings.midiChannel) : ℕ → ℕ × ℕ) :=
    Prod.mk_right_injective _
  refine ⟨?_, ?_, streams.panics, upholds.consistent, upholds.limited, streams.hard, ?_, ?_,
    .inr ready⟩ <;> rw [queued]
  · refine switches_append.mpr ⟨before, ?_⟩
    change Switches (soundingAfter log) _
    rw [sounds]
    exact (switches_map injective).mpr upholds.switches
  · rw [switchAll_append]
    change switchAll (soundingAfter log) _ = _
    rw [sounds]
    unfold voiceNotes eventMarks
    rw [switchAll_map injective, upholds.reaches]
  · exact upholds.once
  · exact upholds.inside

/-- When the requested settings are taken over, the voices stay as they are. -/
theorem takeSettings_keeps (state : JsfxState) :
    state.takeSettings.settings = state.requested ∧
      state.takeSettings.requested = state.requested ∧
      state.takeSettings.lifecycle = state.lifecycle ∧
      state.takeSettings.reconfigurePending = state.reconfigurePending := by
  unfold JsfxState.takeSettings
  dsimp only
  split_ifs <;> exact ⟨rfl, rfl, rfl, rfl⟩

/-- A block starts with nothing queued. -/
theorem pending_startBlock (state : JsfxState) (input : BlockInput) (fault : Fault)
    (panicHold : Bool) : (state.startBlock input fault panicHold).pending = [] := by
  unfold JsfxState.startBlock JsfxState.pending
  exact List.take_nil

/-- `@block` up to the detection: either it cleaned up, or the channel and the polyphony
are the ones the voices were started with. -/
theorem startBlock (streams : Streams log state) (sent : state.pending = []) (input : BlockInput)
    (fault : Fault) (panicHold : Bool) :
    Streams (log ++ (({ state with samplesBlock := input.samplesBlock }).midiPanic 0).2)
        ((({ state with samplesBlock := input.samplesBlock }).midiPanic
          0).1.takeSettings.resetDetector.startBlock input fault panicHold) ∧
      (state.reconfigurePending = false →
        Streams log (({ state with
          samplesBlock := input.samplesBlock }).takeSettings.startBlock input fault panicHold)) := by
  have entered : Streams log { state with samplesBlock := input.samplesBlock } :=
    streams.congr rfl rfl rfl rfl streams.hard
  constructor
  · refine entered.panic sent 0 (fun _ => VoiceCell.consistent_clear 0) ?_
      (pending_startBlock _ input fault panicHold) ?_
    · exact activeNotes_init
    · obtain ⟨settings, requested, -, -⟩ := takeSettings_keeps
        (({ state with samplesBlock := input.samplesBlock }).midiPanic 0).1
      refine .inr ⟨?_, ?_⟩
      · exact congrArg HostSettings.maxPolyphony (requested.trans settings.symm)
      · exact congrArg HostSettings.midiChannel (requested.trans settings.symm)
  · intro settled
    have empty := pending_startBlock
      ({ state with samplesBlock := input.samplesBlock }).takeSettings input fault panicHold
    obtain ⟨settings, requested, lifecycle, -⟩ := takeSettings_keeps
      { state with samplesBlock := input.samplesBlock }
    generalize ({ state with samplesBlock := input.samplesBlock }).takeSettings = taken
      at settings requested lifecycle empty ⊢
    dsimp only at settings requested lifecycle
    obtain ⟨polyphony, channel⟩ := streams.hard.resolve_left (by rw [settled]; decide)
    obtain ⟨before, sounds⟩ := streams.sounding sent
    refine ⟨?_, ?_, streams.panics, ?_, ?_, ?_, ?_, ?_, .inl empty⟩
    · rw [empty]
      simpa only [eventMarks, List.map_nil, List.append_nil] using before
    · rw [empty]
      simp only [eventMarks, List.map_nil, List.append_nil]
      refine sounds.trans ?_
      unfold voiceNotes JsfxState.startBlock
      dsimp only
      rw [settings, lifecycle, channel]
    · unfold JsfxState.startBlock
      dsimp only
      rw [lifecycle]
      exact streams.consistent
    · have fits := streams.fits
      unfold HostSettings.activeLimit at fits ⊢
      unfold JsfxState.startBlock
      dsimp only
      rw [lifecycle, settings, polyphony]
      exact fits
    · refine .inr ⟨?_, ?_⟩
      · exact congrArg HostSettings.maxPolyphony (requested.trans settings.symm)
      · exact congrArg HostSettings.midiChannel (requested.trans settings.symm)
    · rw [empty]
      exact List.nodup_nil
    · rw [empty]
      exact fun _ member => absurd member List.not_mem_nil

/-- Detection, where it is enabled. -/
theorem maybeDetect (streams : Streams log (state.startBlock input fault hold)) :
    Streams log (if (state.startBlock input fault hold).detectionEnabled
      then (state.startBlock input fault hold).detect math input
      else state.startBlock input fault hold) := by
  split_ifs with enabled
  · refine streams.detect (pending_startBlock state input fault hold) ?_ rfl input
    unfold JsfxState.startBlock hostDetectionEnabled at enabled
    simp only [Bool.and_eq_true, decide_eq_true_eq] at enabled
    exact enabled.1.1
  · exact streams

/-- `@block`, where everything queued before has been sent. -/
theorem block (streams : Streams log state) (sent : state.pending = []) (input : BlockInput) :
    Streams (log ++ (state.block math input).2) (state.block math input).1 := by
  unfold JsfxState.block
  dsimp only
  generalize hostPanicHoldNext state.panicHold state.panicRequested state.blockInputPeak = hold
  obtain ⟨cleaned, kept⟩ := streams.startBlock sent input (state.blockFault input) hold
  cases cleans : state.cleansUp input with
  | true =>
      have detected := @maybeDetect math _ _ _ _ _ cleaned
      exact detected.congr rfl rfl rfl rfl detected.hard
  | false =>
      have settled : state.reconfigurePending = false := by
        unfold JsfxState.cleansUp hostCleanupReason at cleans
        simp only [Bool.or_eq_false_iff] at cleans
        exact cleans.1.1.2
      have detected := @maybeDetect math _ _ _ _ _ (kept settled)
      rw [if_neg Bool.false_ne_true, if_neg Bool.false_ne_true, List.append_nil]
      exact detected.congr rfl rfl rfl rfl detected.hard

end Streams

end M3Midi.Jsfx
