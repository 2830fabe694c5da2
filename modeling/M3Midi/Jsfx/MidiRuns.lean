import M3Midi.Jsfx.MidiStream

/-! # Runs of the JSFX program

The MIDI stream of a run agrees with its voice table if and only if no sample is
rejected while events of its block are still queued (`run_midi_agrees_iff`). Such a
sample makes the panic forget note-offs that were due, or end notes that were not
started.
-/

namespace M3Midi.Jsfx

open Foundation

/-- Whether the last block has had no sample yet, after more sections. -/
def awaitsSample : Bool → List Section → Bool
  | awaits, [] => awaits
  | _, .block _ :: sections => awaitsSample true sections
  | _, .sample _ _ :: sections => awaitsSample false sections
  | awaits, .slider _ :: sections => awaitsSample awaits sections
  | awaits, .serialize _ :: sections => awaitsSample awaits sections

/-- Every block is followed by a sample before the next one. -/
def BlocksSampled : Bool → List Section → Prop
  | _, [] => True
  | awaits, .block _ :: sections => awaits = false ∧ BlocksSampled true sections
  | _, .sample _ _ :: sections => BlocksSampled false sections
  | awaits, .slider _ :: sections => BlocksSampled awaits sections
  | awaits, .serialize _ :: sections => BlocksSampled awaits sections

/-- Whether a sample is due after two stretches depends on both, one after the other. -/
theorem awaitsSample_append (awaits : Bool) (early late : List Section) :
    awaitsSample awaits (early ++ late) = awaitsSample (awaitsSample awaits early) late := by
  induction early generalizing awaits with
  | nil => rfl
  | cons first early ih => cases first <;> exact ih _

/-- Every block has its samples in two stretches exactly if it has them in each of them. -/
theorem blocksSampled_append {awaits : Bool} {early late : List Section} :
    BlocksSampled awaits (early ++ late) ↔
      BlocksSampled awaits early ∧ BlocksSampled (awaitsSample awaits early) late := by
  induction early generalizing awaits with
  | nil => exact ⟨fun rest => ⟨trivial, rest⟩, And.right⟩
  | cons first early ih =>
      cases first with
      | block input => exact (and_congr_right fun _ => ih).trans and_assoc.symm
      | sample left right => exact ih
      | slider sliders => exact ih
      | serialize reading => exact ih

/-- The MIDI stream of a run agrees with its voice table. -/
structure MidiAgrees (math : EelMath) (playState : ℤ) (sections : List Section) : Prop where
  /-- For every channel and note the messages alternate note-on and note-off, and begin
  with a note-on. -/
  alternates : ∀ channel note, Alternates true
    (switchesOf (channel, note) (marksOf ((jsfxMachine math).run (.init playState) sections).2))
  /-- After every panic nothing sounds. -/
  panics : ∀ early late, ((jsfxMachine math).run (.init playState) sections).2 =
    early ++ .panicked :: late → soundingAfter early = ∅
  /-- When a block has had its samples, the active voices sound. -/
  blocks : ∀ early late, sections = early ++ late → awaitsSample false early = false →
    soundingAfter ((jsfxMachine math).run (.init playState) early).2 =
      voiceNotes ((jsfxMachine math).run (.init playState) early).1

/-- A section does not reject a sample while events are queued. -/
def SendsFirst (state : JsfxState) : Section → Prop
  | .sample left right =>
      isFinite (hostSelectInput state.settings.inputMode left right) = true ∨ state.pending = []
  | _ => True

variable {math : EelMath} {playState : ℤ}

/-- The notes of every channel alternate exactly if the marks switch them one by one. -/
theorem alternates_iff {marks : List (Mark (ℕ × ℕ))} :
    (∀ channel note, Alternates true (switchesOf (channel, note) marks)) ↔
      Switches ∅ marks := by
  constructor
  · intro alternates
    refine switches_of_alternate fun item => ?_
    rw [decide_eq_true (Finset.notMem_empty item)]
    exact alternates item.1 item.2
  · intro switches channel note
    have alternates := switches.alternate (channel, note)
    rwa [decide_eq_true (Finset.notMem_empty _)] at alternates

/-- A run starts with nothing sent and nothing active. -/
theorem Streams.init : Streams [] (.init playState) where
  switches := trivial
  reaches := by
    unfold voiceNotes
    rw [show (JsfxState.init playState).lifecycle = .init from rfl, activeNotes_init]
    rfl
  panics := fun early _ split => absurd split (by simp)
  consistent := fun _ => VoiceCell.consistent_clear 0
  fits := by
    rw [show (JsfxState.init playState).lifecycle = .init from rfl, activeNotes_init]
    exact Nat.zero_le _
  hard := .inl rfl
  once := List.nodup_nil
  inside := fun _ member => absurd member List.not_mem_nil
  ready := .inl rfl

/-- One section of a run whose blocks are sampled. -/
theorem Streams.step {log : List JsfxReport} {state : JsfxState} (streams : Streams log state)
    {awaits : Bool} (sent : awaits = false → state.pending = []) {event : Section}
    (sampled : BlocksSampled awaits [event]) (sends : SendsFirst state event) :
    Streams (log ++ ((jsfxMachine math).step state event).2)
        ((jsfxMachine math).step state event).1 ∧
      (awaitsSample awaits [event] = false →
        ((jsfxMachine math).step state event).1.pending = []) := by
  cases event with
  | slider sliders =>
      refine ⟨?_, fun settled => sent settled⟩
      change Streams (log ++ []) (state.slider math sliders)
      rw [List.append_nil]
      exact streams.slider sliders
  | serialize reading =>
      refine ⟨?_, fun settled => ?_⟩
      · change Streams (log ++ []) (state.serialize reading)
        rw [List.append_nil]
        exact streams.serialize reading
      · change (state.serialize reading).pending = []
        unfold JsfxState.serialize
        cases reading <;> exact sent settled
  | block input => exact ⟨streams.block (sent sampled.1) input, fun settled => nomatch settled⟩
  | sample left right =>
      obtain ⟨after, empty⟩ := streams.sample sends
      exact ⟨after, fun _ => empty⟩

/-- Along a run that rejects no sample too early. -/
theorem Streams.run (sections : List Section) (sampled : BlocksSampled false sections)
    (meets : (jsfxMachine math).Meets SendsFirst (.init playState) sections) :
    Streams ((jsfxMachine math).run (.init playState) sections).2
        ((jsfxMachine math).run (.init playState) sections).1 ∧
      (awaitsSample false sections = false →
        ((jsfxMachine math).run (.init playState) sections).1.pending = []) := by
  induction sections using List.reverseRecOn with
  | nil => exact ⟨Streams.init, fun _ => rfl⟩
  | append_singleton sections event ih =>
      rw [blocksSampled_append] at sampled
      rw [Transducer.meets_concat] at meets
      obtain ⟨streams, sent⟩ := ih sampled.1 meets.1
      rw [(jsfxMachine math).run_concat, awaitsSample_append]
      exact streams.step sent sampled.2 meets.2

/-- A sample that is rejected while events are queued: either a note that was not started
is ended, or one that was due to end goes on after the panic. -/
theorem Streams.pending_eq_nil {log : List JsfxReport} {state : JsfxState}
    (streams : Streams log state) {left right : Sample}
    (rejected : isFinite (hostSelectInput state.settings.inputMode left right) = false)
    (switches : Switches ∅ (marksOf (log ++ (state.sample left right).2)))
    (panics : ∀ early late, log ++ (state.sample left right).2 = early ++ .panicked :: late →
      soundingAfter early = ∅) : state.pending = [] := by
  rcases streams.ready with empty | ready
  · exact empty
  obtain ⟨marks, -, ⟨messages, reports, -, told⟩, before, ends, -, -⟩ :=
    midiPanic_spec state state.sampleOffset streams.consistent streams.few
  have faulty : state.hostFault ≠ .invalidSamples := by
    rw [ready]
    decide
  have reported : ∃ rest, (state.sample left right).2 = messages ++ .panicked :: rest := by
    unfold JsfxState.sample JsfxState.rejectSample
    dsimp only
    rw [rejected, if_neg Bool.false_ne_true, if_pos faulty]
    dsimp only
    rw [reports, List.append_assoc]
    exact ⟨_, rfl⟩
  obtain ⟨rest, reported⟩ := reported
  rw [reported] at switches panics
  have silent := panics (log ++ messages) rest (List.append_assoc ..).symm
  unfold soundingAfter at silent
  rw [marksOf_append, told, switchAll_append] at silent
  rw [marksOf_append, marksOf_append, told, switches_append, switches_append] at switches
  obtain ⟨-, ended, -⟩ := switches
  have same : switchAll ∅ (marksOf log) = voiceNotes state :=
    switchAll_inj ended before (silent.trans ends.symm)
  have queued := streams.switches
  have reaches := streams.reaches
  rw [switches_append] at queued
  rw [switchAll_append, ← same] at reaches
  have none := eq_nil_of_switchAll_eq (eventMarks_once streams.once) queued.2 reaches
  unfold eventMarks at none
  simpa using none

/-- What agrees over two stretches agrees over the first one. -/
theorem midiAgrees_of_append {early late : List Section}
    (agrees : MidiAgrees math playState (early ++ late)) : MidiAgrees math playState early := by
  have whole := (jsfxMachine math).run_append (.init playState) early late
  refine ⟨alternates_iff.mpr ?_, fun first second split => ?_, fun first second split => ?_⟩
  · have switches := alternates_iff.mp agrees.alternates
    rw [whole, marksOf_append, switches_append] at switches
    exact switches.1
  · refine agrees.panics first
      (second ++ ((jsfxMachine math).run ((jsfxMachine math).run (.init playState) early).1
        late).2) ?_
    rw [whole, split, List.append_assoc, List.cons_append]
  · exact agrees.blocks first (second ++ late) (by rw [split, List.append_assoc])

/-- The MIDI stream of a run agrees with its voice table exactly when no sample is
rejected while events of its block are queued. -/
theorem run_midi_agrees_iff (math : EelMath) (playState : ℤ) (sections : List Section)
    (sampled : BlocksSampled false sections) :
    MidiAgrees math playState sections ↔
      (jsfxMachine math).Meets SendsFirst (.init playState) sections := by
  constructor
  · intro agrees
    induction sections using List.reverseRecOn with
    | nil => trivial
    | append_singleton sections event ih =>
        have earlier := (blocksSampled_append.mp sampled).1
        have meets := ih earlier (midiAgrees_of_append agrees)
        refine ((jsfxMachine math).meets_concat).mpr ⟨meets, ?_⟩
        obtain ⟨streams, -⟩ := Streams.run sections earlier meets
        have switches := alternates_iff.mp agrees.alternates
        have panics := agrees.panics
        rw [(jsfxMachine math).run_concat] at switches panics
        cases event with
        | sample left right =>
            refine or_iff_not_imp_left.mpr fun rejected => ?_
            exact @Streams.pending_eq_nil _ _ streams _ _ (Bool.eq_false_iff.mpr rejected)
              switches panics
        | block input => trivial
        | slider sliders => trivial
        | serialize reading => trivial
  · intro meets
    obtain ⟨streams, -⟩ := Streams.run sections sampled meets
    refine ⟨alternates_iff.mpr ?_, streams.panics, fun early late split settled => ?_⟩
    · exact (switches_append.mp streams.switches).1
    · subst split
      obtain ⟨before, sent⟩ := Streams.run early (blocksSampled_append.mp sampled).1
        (Transducer.Meets.of_append _ meets)
      exact (before.sounding (sent settled)).2

/-- The default settings, with a fixed velocity. -/
def fixedSliders : Sliders where
  inputMode := 0
  profileMode := 0
  a4Reference := 440
  inputTrim := 0
  sensitivity := 50
  response := 25
  lowestNote := 32
  highestNote := 84
  maxPolyphony := 8
  maxFret := 24
  velocityMode := 0
  fixedVelocity := 100
  midiChannel := 1
  panic := 0

/-- A block in which one note is selected that sounds at once. -/
def attackBlock : BlockInput where
  fastEnergy := some 1
  slowEnergy := some 1
  effectiveThreshold := 1 / 5
  selected := [⟨some 46, some (9 / 10), some 1⟩]

/-- The first sample of the block is silent. -/
theorem run_midi_agrees_attack :
    MidiAgrees plainMath 1 [.slider fixedSliders, .block attackBlock, .sample (some 0) (some 0)] :=
  (run_midi_agrees_iff plainMath 1
    [.slider fixedSliders, .block attackBlock, .sample (some 0) (some 0)] ⟨rfl, trivial⟩).mpr
    ⟨trivial, trivial, .inl (by decide +kernel), trivial⟩

/-- The first sample of the block is not finite: the note that the block has started is
ended before it was sent. -/
theorem run_midi_disagrees :
    BlocksSampled false [.slider fixedSliders, .block attackBlock, .sample none none] ∧
      ¬ MidiAgrees plainMath 1
        [.slider fixedSliders, .block attackBlock, .sample none none] := by
  refine ⟨⟨rfl, trivial⟩, fun agrees => ?_⟩
  have first := agrees.alternates 0 46
  have ended : switchesOf (0, 46) (marksOf ((jsfxMachine plainMath).run (.init 1)
      [.slider fixedSliders, .block attackBlock, .sample none none]).2) = [false] := by
    decide +kernel
  rw [ended] at first
  exact Bool.false_ne_true first.1

end M3Midi.Jsfx
