import M3Midi.Telemetry.TunerSnapshot
import M3Midi.Foundation.LockedRegistersRuns

/-! # The tuner telemetry

The audio thread publishes the detector's snapshots and, apart from them, the input
peak; the editor reads both together. All words are under one sequence. The generation
counts what has been published.
-/

namespace M3Midi

open Foundation

/-- The registers of the telemetry: the sequence number that locks them, and the words it protects.
-/
inductive TunerRegister
  | sequence
  | generation
  | header
  | inputPeak
  | voiceA (index : Fin maxVoices)
  | voiceB (index : Fin maxVoices)
  | voiceC (index : Fin maxVoices)
  deriving DecidableEq

/-- The words of all registers, as they are at one moment. -/
abbrev TunerTelemetry := TunerRegister → BitVec 32

/-- What the audio thread publishes; `clear` publishes a snapshot and then a peak. -/
inductive TunerWrite
  | snapshot (snapshot : TunerSnapshot)
  | inputPeak (linearPeak : Option ℚ)
  deriving DecidableEq

/-- The writes that `clear` makes. -/
def TunerWrite.clear (state : TunerFrameState) : List TunerWrite :=
  [.snapshot { state }, .inputPeak (some 0)]

/-- A linear peak in Q15; one that is not finite counts as silence. -/
def encodePeak (linearPeak : Option ℚ) : BitVec 32 :=
  let bounded := max 0 (min (linearPeak.getD 0) 1)
  BitVec.ofNat 32 ⌊bounded * maximumInputPeakQ15 + 1 / 2⌋.toNat

/-- What `publish` stores for each voice; the places after the last one are cleared. -/
def voiceWord (snapshot : TunerSnapshot) : TunerRegister → BitVec 32
  | .voiceA index => (voiceAt index).packVoiceA
  | .voiceB index => (voiceAt index).packVoiceB
  | .voiceC index => (voiceAt index).packVoiceC
  | _ => 0
where
  voiceAt (index : Fin maxVoices) : TunerVoice :=
    if index < min snapshot.voiceCount.toNat maxVoices then snapshot.voices index else {}

/-- The registers of the voices, three to each voice, in the order they are stored in. -/
def voiceRegisters : List TunerRegister :=
  (List.finRange maxVoices).flatMap fun index => [.voiceA index, .voiceB index, .voiceC index]

namespace TunerProgram

open RegisterProgram

/-- Store under an odd sequence and count the generation; the only writer counts with a
load and a store. -/
def underSequence (stores : RegisterProgram TunerRegister (BitVec 32) Unit) :
    RegisterProgram TunerRegister (BitVec 32) Unit :=
  LockedRegisters.locking .sequence do
    stores
    let generation ← load .generation
    store .generation (generation + 1)

/-- `publish`: the sequence is made odd, every word is stored, and the sequence is made even again.
-/
def publish (snapshot : TunerSnapshot) : RegisterProgram TunerRegister (BitVec 32) Unit :=
  underSequence do
    store .header (packHeader snapshot.state snapshot.voiceCount snapshot.maxPolyphony)
    storeAll (voiceWord snapshot) voiceRegisters

/-- A peak that is there already is not published again. -/
def publishInputPeak (linearPeak : Option ℚ) : RegisterProgram TunerRegister (BitVec 32) Unit := do
  let stored ← load .inputPeak
  if stored = encodePeak linearPeak then pure ()
  else underSequence (store .inputPeak (encodePeak linearPeak))

/-- A write of either kind, as a program over the registers. -/
def write : TunerWrite → RegisterProgram TunerRegister (BitVec 32) Unit
  | .snapshot snapshot => publish snapshot
  | .inputPeak linearPeak => publishInputPeak linearPeak

/-- Load the voices of a list of places. -/
def loadVoices : List (Fin maxVoices) → (Fin maxVoices → TunerVoice) →
    RegisterProgram TunerRegister (BitVec 32) (Fin maxVoices → TunerVoice)
  | [], voices => pure voices
  | index :: rest, voices => do
      let wordA ← load (.voiceA index)
      let wordB ← load (.voiceB index)
      let wordC ← load (.voiceC index)
      loadVoices rest (Function.update voices index (unpackVoice wordA wordB wordC))

/-- The places before a count. -/
def placesBefore (count : BitVec 8) : List (Fin maxVoices) :=
  (List.finRange maxVoices).filter fun index => index < count.toNat

/-- What a reader loads between its two looks at the sequence. -/
def copy : RegisterProgram TunerRegister (BitVec 32) TunerSnapshot := do
  let header ← load .header
  let generation ← load .generation
  let peak ← load .inputPeak
  let voices ← loadVoices (placesBefore (unpackVoiceCount header)) fun _ => {}
  pure {
    generation
    state := unpackFrameState header
    voiceCount := unpackVoiceCount header
    maxPolyphony := unpackMaxPolyphony header
    inputPeakQ15 := (atMost maximumInputPeakQ15 peak).setWidth 16
    voices }

end TunerProgram

/-- The telemetry as registers under a sequence (`kReadAttempts` is three). -/
def tunerTelemetry : LockedRegisters TunerRegister TunerWrite TunerSnapshot 32 where
  sequence := .sequence
  write := TunerProgram.write
  copy := TunerProgram.copy
  attempts := 3

/-! ## What is published -/

namespace TunerSnapshot

/-- The snapshot with its values clamped into their ranges, and without the voices after
its last one. -/
def normalized (snapshot : TunerSnapshot) : TunerSnapshot where
  state := snapshot.state
  voiceCount := BitVec.ofNat 8 (min snapshot.voiceCount.toNat maxVoices)
  maxPolyphony := BitVec.ofNat 8 (max 1 (min snapshot.maxPolyphony.toNat maxVoices))
  voices index :=
    if index < min snapshot.voiceCount.toNat maxVoices then (snapshot.voices index).normalized
    else {}

/-- A write is a new publication unless it is the peak that is published already. -/
def isNew (shown : TunerSnapshot) : TunerWrite → Bool
  | .snapshot _ => true
  | .inputPeak linearPeak => (encodePeak linearPeak).setWidth 16 ≠ shown.inputPeakQ15

/-- A new publication: a snapshot leaves the peak, and a peak leaves the rest. -/
def renew (shown : TunerSnapshot) : TunerWrite → TunerSnapshot
  | .snapshot snapshot =>
      { snapshot.normalized with
        generation := shown.generation + 1
        inputPeakQ15 := shown.inputPeakQ15 }
  | .inputPeak linearPeak =>
      { shown with
        generation := shown.generation + 1
        inputPeakQ15 := (encodePeak linearPeak).setWidth 16 }

/-- What readers see after one more write. -/
def receive (shown : TunerSnapshot) (write : TunerWrite) : TunerSnapshot :=
  if shown.isNew write then shown.renew write else shown

/-- What readers see after some writes. -/
def published (writes : List TunerWrite) : TunerSnapshot := writes.foldl receive {}

/-- How many of the writes, one after the other, are new. -/
def newFrom : TunerSnapshot → List TunerWrite → Nat
  | _, [] => 0
  | shown, write :: rest => (shown.isNew write).toNat + newFrom (shown.receive write) rest

/-- How many of all writes were new. -/
def publications (writes : List TunerWrite) : Nat := newFrom {} writes

/-- A write counts one generation if it shows something new, and none otherwise. -/
theorem receive_generation (shown : TunerSnapshot) (write : TunerWrite) :
    (shown.receive write).generation =
      shown.generation + BitVec.ofNat 32 (shown.isNew write).toNat := by
  rw [receive]
  cases new : shown.isNew write with
  | false =>
      rw [if_neg Bool.false_ne_true]
      exact (BitVec.add_zero _).symm
  | true =>
      rw [if_pos rfl]
      cases write with
      | snapshot snapshot => rfl
      | inputPeak linearPeak => rfl

/-- The generation counts the new writes. -/
theorem foldl_receive_generation (shown : TunerSnapshot) (writes : List TunerWrite) :
    (writes.foldl receive shown).generation =
      shown.generation + BitVec.ofNat 32 (newFrom shown writes) := by
  induction writes generalizing shown with
  | nil => exact (BitVec.add_zero _).symm
  | cons write rest ih =>
      rw [List.foldl_cons, ih, receive_generation, newFrom, BitVec.ofNat_add, BitVec.add_assoc]

/-- After any writes, the generation is the number of snapshots among them. -/
theorem published_generation (writes : List TunerWrite) :
    (published writes).generation = BitVec.ofNat 32 (publications writes) := by
  rw [published, foldl_receive_generation]
  exact BitVec.zero_add _

/-- There is no more to be seen as new than has been written. -/
theorem newFrom_le (shown : TunerSnapshot) (writes : List TunerWrite) :
    newFrom shown writes ≤ writes.length := by
  induction writes generalizing shown with
  | nil => exact le_refl 0
  | cons write rest ih =>
      have one := (shown.isNew write).toNat_le
      have tail := ih (shown.receive write)
      rw [newFrom, List.length_cons]
      omega

/-- Without a new write readers see what they saw. -/
theorem foldl_receive_of_newFrom {shown : TunerSnapshot} {writes : List TunerWrite}
    (none : newFrom shown writes = 0) : writes.foldl receive shown = shown := by
  induction writes with
  | nil => rfl
  | cons write rest ih =>
      rw [newFrom, Nat.add_eq_zero_iff, Bool.toNat_eq_zero] at none
      have kept : shown.receive write = shown := by
        rw [receive, none.1, if_neg Bool.false_ne_true]
      rw [List.foldl_cons, kept]
      rw [kept] at none
      exact ih none.2

/-- Before the numbers come around, a generation names what was published with it. -/
theorem published_eq_of_generation {earlier later : List TunerWrite}
    (few : later.length < 2 ^ 32)
    (same : (published earlier).generation = (published (earlier ++ later)).generation) :
    published (earlier ++ later) = published earlier := by
  have appended : published (earlier ++ later) = later.foldl receive (published earlier) :=
    List.foldl_append
  rw [appended] at same ⊢
  rw [foldl_receive_generation] at same
  have none : BitVec.ofNat 32 (newFrom (published earlier) later) = 0 := by
    exact BitVec.self_eq_add_right.mp same
  have le := newFrom_le (published earlier) later
  have value := congrArg BitVec.toNat none
  rw [BitVec.toNat_ofNat, Nat.mod_eq_of_lt (by omega)] at value
  exact foldl_receive_of_newFrom value

end TunerSnapshot

/-! ## What the registers hold -/

section Contents

open RegisterProgram

/-- A peak is stored as a fraction of full scale, rounded half up. A missing one counts as zero. -/
theorem encodePeak_toNat (linearPeak : Option ℚ) :
    (encodePeak linearPeak).toNat =
      ⌊max 0 (min (linearPeak.getD 0) 1) * maximumInputPeakQ15 + 1 / 2⌋.toNat ∧
    (encodePeak linearPeak).toNat ≤ maximumInputPeakQ15 := by
  have bounded : max 0 (min (linearPeak.getD 0) 1) ≤ (1 : ℚ) :=
    max_le zero_le_one (min_le_right _ _)
  have scaled : max 0 (min (linearPeak.getD 0) 1) * (maximumInputPeakQ15 : ℚ) + 1 / 2 < 32768 := by
    have whole : (maximumInputPeakQ15 : ℚ) = 32767 := rfl
    rw [whole]
    linarith
  have below : ⌊max 0 (min (linearPeak.getD 0) 1) * (maximumInputPeakQ15 : ℚ) + 1 / 2⌋ < 32768 :=
    Int.floor_lt.mpr (by exact_mod_cast scaled)
  have small : ⌊max 0 (min (linearPeak.getD 0) 1) * (maximumInputPeakQ15 : ℚ) + 1 / 2⌋.toNat ≤
      32767 := by omega
  have kept : (encodePeak linearPeak).toNat =
      ⌊max 0 (min (linearPeak.getD 0) 1) * (maximumInputPeakQ15 : ℚ) + 1 / 2⌋.toNat := by
    rw [encodePeak, BitVec.toNat_ofNat]
    exact Nat.mod_eq_of_lt (lt_of_le_of_lt small (by norm_num))
  exact ⟨kept, kept ▸ small⟩

/-- An encoded peak fits into sixteen bits, and is not clamped. -/
theorem encodePeak_setWidth (linearPeak : Option ℚ) :
    ((encodePeak linearPeak).setWidth 16).setWidth 32 = encodePeak linearPeak := by
  have small : (encodePeak linearPeak).toNat ≤ 32767 := (encodePeak_toNat linearPeak).2
  refine BitVec.eq_of_toNat_eq ?_
  rw [BitVec.toNat_setWidth, BitVec.toNat_setWidth]
  omega

/-- The stored peak never has to be cut off. -/
theorem atMost_encodePeak (linearPeak : Option ℚ) :
    atMost maximumInputPeakQ15 (encodePeak linearPeak) = encodePeak linearPeak :=
  if_neg (not_lt.mpr (encodePeak_toNat linearPeak).2)

/-- The snapshot in the registers. -/
def TunerTelemetry.decode (telemetry : TunerTelemetry) : TunerSnapshot where
  generation := telemetry .generation
  state := unpackFrameState (telemetry .header)
  voiceCount := unpackVoiceCount (telemetry .header)
  maxPolyphony := unpackMaxPolyphony (telemetry .header)
  inputPeakQ15 := (atMost maximumInputPeakQ15 (telemetry .inputPeak)).setWidth 16
  voices index :=
    if index < (unpackVoiceCount (telemetry .header)).toNat then
      unpackVoice (telemetry (.voiceA index)) (telemetry (.voiceB index)) (telemetry (.voiceC index))
    else {}

/-- The voices that are read are those of the places that are asked for. All others stay as they
were. -/
theorem run_loadVoices (places : List (Fin maxVoices)) (voices : Fin maxVoices → TunerVoice)
    (telemetry : TunerTelemetry) :
    ((TunerProgram.loadVoices places voices).run access telemetry).1 = fun index =>
      if index ∈ places then
        unpackVoice (telemetry (.voiceA index)) (telemetry (.voiceB index))
          (telemetry (.voiceC index))
      else voices index := by
  induction places generalizing voices with
  | nil =>
      funext index
      exact (if_neg List.not_mem_nil).symm
  | cons first rest ih =>
      rw [TunerProgram.loadVoices, run_load_bind, run_load_bind, run_load_bind, ih]
      funext index
      by_cases same : index = first
      · subst same
        simp
      · simp [same]

/-- Reading the voices only loads, and keeps off the sequence. -/
theorem loads_loadVoices (places : List (Fin maxVoices)) (voices : Fin maxVoices → TunerVoice) :
    LockedRegisters.Loads (· ≠ TunerRegister.sequence)
      (TunerProgram.loadVoices places voices) := by
  induction places generalizing voices with
  | nil => trivial
  | cons first rest ih =>
      exact ⟨nofun, fun _ => ⟨nofun, fun _ => ⟨nofun, fun _ => ih _⟩⟩⟩

/-- The places that are read are those below the number of voices. -/
theorem mem_placesBefore (count : BitVec 8) (index : Fin maxVoices) :
    index ∈ TunerProgram.placesBefore count ↔ index < count.toNat := by
  rw [TunerProgram.placesBefore, List.mem_filter]
  simp

/-- What the lock shows of a memory is its decoding. -/
theorem shown_eq (telemetry : TunerTelemetry) :
    tunerTelemetry.shown telemetry = telemetry.decode := by
  change (TunerProgram.copy.run access telemetry).1 = _
  rw [TunerProgram.copy, run_load_bind, run_load_bind, run_load_bind, Program.run_bind,
    Program.run_pure, run_loadVoices]
  simp only [mem_placesBefore]
  rfl

/-- What a write under the sequence leaves. -/
theorem run_underSequence (stores : RegisterProgram TunerRegister (BitVec 32) Unit)
    (telemetry : TunerTelemetry) :
    ((TunerProgram.underSequence stores).run access telemetry).2 =
      let inner := (stores.run access
        (Function.update telemetry .sequence (telemetry .sequence ||| 1))).2
      Function.update (Function.update inner .generation (inner .generation + 1)) .sequence
        ((telemetry .sequence ||| 1) + 1) := by
  rw [TunerProgram.underSequence, LockedRegisters.run_locking, Program.run_bind, run_load_bind]
  rfl

/-- The list has the three registers of every voice and no other ones. -/
theorem mem_voiceRegisters (register : TunerRegister) :
    register ∈ voiceRegisters ↔
      ∃ index, register = .voiceA index ∨ register = .voiceB index ∨ register = .voiceC index := by
  simp [voiceRegisters]

/-- A publication on its own stores every word of the snapshot, raises the generation, and leaves
the peak alone. -/
theorem run_publish (snapshot : TunerSnapshot) (telemetry : TunerTelemetry) :
    ((TunerProgram.publish snapshot).run access telemetry).2 = fun
      | .sequence => (telemetry .sequence ||| 1) + 1
      | .generation => telemetry .generation + 1
      | .header => packHeader snapshot.state snapshot.voiceCount snapshot.maxPolyphony
      | .inputPeak => telemetry .inputPeak
      | .voiceA index => (voiceWord.voiceAt snapshot index).packVoiceA
      | .voiceB index => (voiceWord.voiceAt snapshot index).packVoiceB
      | .voiceC index => (voiceWord.voiceAt snapshot index).packVoiceC := by
  rw [TunerProgram.publish, run_underSequence, run_store_bind, run_storeAll]
  funext register
  cases register <;> simp [mem_voiceRegisters, voiceWord]

/-- The registers hold what has been published; the sequence is twice the generation. In the middle
of a write they need not, and then nothing is shown. -/
structure Holds (telemetry : TunerTelemetry) (shown : TunerSnapshot) : Prop where
  decode : telemetry.decode = shown
  peak : telemetry .inputPeak = shown.inputPeakQ15.setWidth 32
  sequence : telemetry .sequence = shown.generation + shown.generation

/-- A memory that holds a snapshot has its generation. -/
theorem Holds.generation {telemetry : TunerTelemetry} {shown : TunerSnapshot}
    (holds : Holds telemetry shown) : telemetry .generation = shown.generation := by
  rw [← holds.decode]
  rfl

/-- Twice a word is even, also when it wraps. -/
theorem double_and_one (word : BitVec 32) : (word + word) &&& 1 = 0 := by
  refine BitVec.eq_of_toNat_eq ?_
  rw [BitVec.toNat_and, BitVec.toNat_add]
  change (word.toNat + word.toNat) % 2 ^ 32 &&& 1 = 0
  rw [Nat.and_one_is_mod]
  omega

/-- A write raises twice the generation by two. -/
theorem Holds.next_sequence {telemetry : TunerTelemetry} {shown : TunerSnapshot}
    (holds : Holds telemetry shown) :
    (telemetry .sequence ||| 1) + 1 = (shown.generation + 1) + (shown.generation + 1) := by
  rw [holds.sequence, LockedRegisters.or_one_of_even (double_and_one _), BitVec.add_assoc,
    BitVec.add_assoc, BitVec.add_assoc, BitVec.add_comm 1 (shown.generation + 1),
    BitVec.add_assoc]

/-- The voices of a published snapshot arrive with their values clamped. -/
theorem decode_voices (snapshot : TunerSnapshot) (index : Fin maxVoices) :
    (if index < (unpackVoiceCount
        (packHeader snapshot.state snapshot.voiceCount snapshot.maxPolyphony)).toNat then
      unpackVoice (voiceWord.voiceAt snapshot index).packVoiceA
        (voiceWord.voiceAt snapshot index).packVoiceB (voiceWord.voiceAt snapshot index).packVoiceC
    else {}) = snapshot.normalized.voices index := by
  have count : (BitVec.ofNat 8 (min snapshot.voiceCount.toNat maxVoices)).toNat =
      min snapshot.voiceCount.toNat maxVoices := by
    rw [BitVec.toNat_ofNat]
    exact Nat.mod_eq_of_lt (lt_of_le_of_lt (min_le_right _ _) (by norm_num [maxVoices]))
  rw [unpackVoiceCount_packHeader, count, TunerVoice.unpackVoice_pack, TunerSnapshot.normalized]
  dsimp only
  by_cases present : index < min snapshot.voiceCount.toNat maxVoices
  · rw [if_pos present, if_pos present, voiceWord.voiceAt, if_pos present]
  · rw [if_neg present, if_neg present]

/-- A memory that holds what was shown before holds what is shown after a publication. -/
theorem Holds.publish {telemetry : TunerTelemetry} {shown : TunerSnapshot}
    (holds : Holds telemetry shown) (snapshot : TunerSnapshot) :
    Holds ((TunerProgram.publish snapshot).run access telemetry).2
      (shown.receive (.snapshot snapshot)) := by
  rw [run_publish]
  refine ⟨?_, holds.peak, holds.next_sequence⟩
  have peak : (atMost maximumInputPeakQ15 (telemetry .inputPeak)).setWidth 16 =
      shown.inputPeakQ15 := by
    rw [← holds.decode]
    rfl
  rw [TunerTelemetry.decode, TunerSnapshot.receive, TunerSnapshot.isNew, if_pos rfl,
    TunerSnapshot.renew]
  simp only [decode_voices]
  simp only [unpackFrameState_packHeader, unpackMaxPolyphony_packHeader, peak, holds.generation,
    unpackVoiceCount_packHeader]
  rfl

theorem Holds.publishInputPeak {telemetry : TunerTelemetry} {shown : TunerSnapshot}
    (holds : Holds telemetry shown) (linearPeak : Option ℚ) :
    Holds ((TunerProgram.publishInputPeak linearPeak).run access telemetry).2
      (shown.receive (.inputPeak linearPeak)) := by
  rw [TunerProgram.publishInputPeak, run_load_bind, TunerSnapshot.receive, TunerSnapshot.isNew]
  by_cases same : telemetry .inputPeak = encodePeak linearPeak
  · have old : (encodePeak linearPeak).setWidth 16 = shown.inputPeakQ15 := by
      rw [← same, holds.peak]
      simp
    rw [if_pos same, old]
    simpa using holds
  · have new : (encodePeak linearPeak).setWidth 16 ≠ shown.inputPeakQ15 := fun equal =>
      same (by rw [holds.peak, ← equal, encodePeak_setWidth])
    rw [if_neg same, if_pos (decide_eq_true new), run_underSequence]
    refine ⟨?_, ?_, holds.next_sequence⟩
    · have decoded := holds.decode
      rw [TunerSnapshot.renew, ← decoded]
      simp [TunerTelemetry.decode, Program.run, RegisterProgram.store, RegisterProgram.access,
        Program.perform, atMost_encodePeak]
    · simp [TunerSnapshot.renew, RegisterProgram.store, RegisterProgram.access, Program.perform,
        Program.run, encodePeak_setWidth]

/-- Every write leaves in the registers what it publishes. -/
theorem Holds.write {telemetry : TunerTelemetry} {shown : TunerSnapshot}
    (holds : Holds telemetry shown) (write : TunerWrite) :
    Holds ((tunerTelemetry.write write).run access telemetry).2 (shown.receive write) := by
  cases write with
  | snapshot snapshot => exact holds.publish snapshot
  | inputPeak linearPeak => exact holds.publishInputPeak linearPeak

/-- After some writes the registers hold what has been published. -/
theorem holds_after (writes : List TunerWrite) :
    Holds (tunerTelemetry.after (fun _ => 0) writes) (TunerSnapshot.published writes) := by
  induction writes using List.reverseRecOn with
  | nil => exact ⟨rfl, rfl, rfl⟩
  | append_singleton writes write ih =>
      rw [LockedRegisters.after_concat, TunerSnapshot.published, List.foldl_append]
      exact ih.write write

/-- After any writes that run alone, the telemetry shows what they have published. -/
theorem shown_after (writes : List TunerWrite) :
    tunerTelemetry.shown (tunerTelemetry.after (fun _ => 0) writes) =
      TunerSnapshot.published writes :=
  (shown_eq _).trans (holds_after writes).decode

end Contents

/-! ## Runs -/

section Runs

open RegisterProgram LockedRegisters

/-- Storing anything but the sequence, and counting the generation, spares it. -/
theorem orderly_underSequence {stores : RegisterProgram TunerRegister (BitVec 32) Unit}
    (spares : SparesSequence .sequence stores) {telemetry : TunerTelemetry}
    (even : telemetry .sequence &&& 1 = 0) :
    Orderly .sequence false telemetry (TunerProgram.underSequence stores) :=
  orderly_locking even (spares.bind fun _ _ => ⟨nofun, trivial⟩)

/-- The telemetry keeps the discipline of the lock: its writers touch the sequence only through it,
and its readers only load. -/
theorem disciplined_tunerTelemetry : tunerTelemetry.Disciplined where
  positive := by norm_num
  orderly write telemetry even := by
    cases write with
    | snapshot snapshot =>
        have spares : SparesSequence .sequence (storeAll (voiceWord snapshot) voiceRegisters) := by
          refine sparesSequence_storeAll ?_ _
          rintro register member rfl
          obtain ⟨index, impossible⟩ := (mem_voiceRegisters _).mp member
          rcases impossible with impossible | impossible | impossible <;> cases impossible
        refine orderly_underSequence ?_ even
        refine ⟨?_, spares⟩
        intro impossible
        cases impossible
    | inputPeak linearPeak =>
        change Orderly _ false telemetry (if telemetry .inputPeak = encodePeak linearPeak then pure ()
          else TunerProgram.underSequence (store .inputPeak (encodePeak linearPeak)))
        split_ifs
        · exact rfl
        · refine orderly_underSequence ?_ even
          refine ⟨?_, trivial⟩
          intro impossible
          cases impossible
  loads := by
    refine ⟨?_, fun header => ⟨?_, fun generation => ⟨?_, fun peak => ?_⟩⟩⟩
    · intro impossible
      cases impossible
    · intro impossible
      cases impossible
    · intro impossible
      cases impossible
    · exact (loads_loadVoices _ _).bind fun voices => trivial

/-- What readers get of the telemetry in any interleaving: all that has been published
until then, and before the generation comes around never two snapshots of one generation. -/
theorem tuner_reads {Reader : Type} [DecidableEq Reader] {events : List (Event TunerWrite Reader)}
    (window : tunerTelemetry.machine.Meets InWindow (.start fun _ => 0) events) :
    SeesInOrder TunerSnapshot.published
        (tunerTelemetry.machine.run (.start fun _ => 0) events).2 ∧
      ((writesOf (tunerTelemetry.machine.run (.start fun _ => 0) events).2).length < 2 ^ 31 →
        Identifies TunerSnapshot.generation
          (tunerTelemetry.machine.run (.start fun _ => 0) events).2) := by
  have sees := run_seesInOrder disciplined_tunerTelemetry rfl shown_after window
  refine ⟨sees, fun few => sees.identifies fun earlier later present _ same => ?_⟩
  have short := present.length_le
  rw [List.length_append] at short
  exact TunerSnapshot.published_eq_of_generation (by omega) same

end Runs

end M3Midi
