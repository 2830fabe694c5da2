import M3Midi.Telemetry.TunerTelemetry
import M3Midi.Calibration.BankTransportRuns

/-! # What the transports promise their readers

Both transports give a reader what was published last, whatever the interleaving. A
reader that nobody disturbs gets it, except when the number of publications is a
multiple of half the numbers of the sequence: then the sequence is zero, as it is before
the first publication.
-/

namespace M3Midi

open Foundation RegisterProgram LockedRegisters

section Alone

/-- A read that runs alone gives what has been published, unless the sequence has wrapped to zero.
-/
theorem run_readLatest_tuner (writes : List TunerWrite) :
    (tunerTelemetry.readLatest.run access (tunerTelemetry.after (fun _ => 0) writes)).1 =
      if 2 ^ 31 ∣ TunerSnapshot.publications writes then none
      else some (TunerSnapshot.published writes) := by
  have holds := holds_after writes
  have even : tunerTelemetry.after (fun _ => 0) writes tunerTelemetry.sequence &&& 1 = 0 :=
    holds.sequence ▸ double_and_one _
  rw [run_readLatest disciplined_tunerTelemetry (by norm_num [tunerTelemetry]) even, shown_after]
  refine if_congr ?_ rfl rfl
  change tunerTelemetry.after (fun _ => 0) writes .sequence = 0 ↔ _
  rw [holds.sequence, TunerSnapshot.published_generation, ← BitVec.ofNat_add]
  rw [← BitVec.toNat_inj, BitVec.toNat_ofNat]
  change (TunerSnapshot.publications writes + TunerSnapshot.publications writes) % 2 ^ 32 = 0 ↔ _
  omega

theorem run_readLatest_bank (publications : List (StringCalibrationBank × BitVec 32)) :
    (bankTransport.readLatest.run access (bankTransport.after (fun _ => 0) publications)).1 =
      if 2 ^ 31 ∣ publications.length then none
      else some (CalibrationBankSnapshot.published publications) := by
  have sequence := sequence_after_bankTransport publications
  have even : bankTransport.after (fun _ => 0) publications bankTransport.sequence &&& 1 = 0 := by
    change bankTransport.after (fun _ => 0) publications .sequence &&& 1 = 0
    rw [sequence]
    exact ofNat_and_one (by norm_num) (Nat.mul_mod_right 2 _)
  rw [run_readLatest disciplined_bankTransport (by norm_num [bankTransport, transportReadAttempts])
    even, shown_after_bankTransport]
  refine if_congr ?_ rfl rfl
  change bankTransport.after (fun _ => 0) publications .sequence = 0 ↔ _
  rw [sequence, ← BitVec.toNat_inj, BitVec.toNat_ofNat]
  change (2 * publications.length) % 2 ^ 32 = 0 ↔ _
  omega

end Alone

/-- A snapshot of one voice that tracks string two. -/
def oneVoice : TunerSnapshot where
  state := .tracking
  voiceCount := 1
  maxPolyphony := 8
  voices _ := { midiNote := 52, confidenceQ15 := 30000, state := .tracking, stringIndex := 2 }

/-- **What readers get.** In any interleaving of one writer with readers that stay in the
window, a reader of either transport gets what all writes completed until then have
published, and nothing older than before. The telemetry's generation names a snapshot
before it comes around; the bank's generation names what was published under it. -/
theorem transport_reads {TunerReader BankReader : Type} [DecidableEq TunerReader]
    [DecidableEq BankReader] {tunerEvents : List (Event TunerWrite TunerReader)}
    {bankEvents : List (Event (StringCalibrationBank × BitVec 32) BankReader)}
    (tunerWindow : tunerTelemetry.machine.Meets InWindow (.start fun _ => 0) tunerEvents)
    (bankWindow : bankTransport.machine.Meets InWindow (.start fun _ => 0) bankEvents) :
    (SeesInOrder TunerSnapshot.published
        (tunerTelemetry.machine.run (.start fun _ => 0) tunerEvents).2 ∧
      ((writesOf (tunerTelemetry.machine.run (.start fun _ => 0) tunerEvents).2).length < 2 ^ 31 →
        Identifies TunerSnapshot.generation
          (tunerTelemetry.machine.run (.start fun _ => 0) tunerEvents).2)) ∧
    (SeesInOrder CalibrationBankSnapshot.published
        (bankTransport.machine.run (.start fun _ => 0) bankEvents).2 ∧
      ((∀ first ∈ writesOf (bankTransport.machine.run (.start fun _ => 0) bankEvents).2,
          ∀ second ∈ writesOf (bankTransport.machine.run (.start fun _ => 0) bankEvents).2,
          first.2 = second.2 → transported first.1 = transported second.1) →
        Identifies CalibrationBankSnapshot.generation
          (bankTransport.machine.run (.start fun _ => 0) bankEvents).2)) :=
  ⟨tuner_reads tunerWindow, bank_reads bankWindow⟩

/-- A snapshot, and a bank, are each published once and read. -/
theorem transport_reads_once :
    ∃ (tunerEvents : List (Event TunerWrite Unit))
      (bankEvents : List (Event (StringCalibrationBank × BitVec 32) Unit)),
      (tunerTelemetry.machine.run (.start fun _ => 0) tunerEvents).2 =
          [.wrote (.snapshot oneVoice),
            .read () (some (TunerSnapshot.published [.snapshot oneVoice]))] ∧
        SeesInOrder TunerSnapshot.published
          (tunerTelemetry.machine.run (.start fun _ => 0) tunerEvents).2 ∧
        (bankTransport.machine.run (.start fun _ => 0) bankEvents).2 =
          [.wrote ({}, 7), .read () (some (CalibrationBankSnapshot.published [({}, 7)]))] ∧
        SeesInOrder CalibrationBankSnapshot.published
          (bankTransport.machine.run (.start fun _ => 0) bankEvents).2 := by
  obtain ⟨tunerEvents, _, tuner⟩ := exists_sequential disciplined_tunerTelemetry
    [.inl (.snapshot oneVoice), .inr ()] (idle_start fun _ => 0)
  obtain ⟨bankEvents, _, bank⟩ := exists_sequential disciplined_bankTransport
    [.inl ({}, 7), .inr ()] (idle_start fun _ => 0)
  have reads := transport_reads tuner.window bank.window
  refine ⟨tunerEvents, bankEvents, tuner.outputs.trans ?_, reads.1.1, bank.outputs.trans ?_,
    reads.2.1⟩
  · exact congrArg (fun result => [Output.wrote _, .read () result])
      ((run_readLatest_tuner [.snapshot oneVoice]).trans (if_neg (by decide)))
  · exact congrArg (fun result => [Output.wrote _, .read () result])
      ((run_readLatest_bank [({}, 7)]).trans (if_neg (by norm_num)))

/-- Two banks that are published with one generation are read with one generation. -/
theorem bank_generation_repeats :
    ¬ ∀ events : List (Event (StringCalibrationBank × BitVec 32) Unit),
      bankTransport.machine.Meets InWindow (.start fun _ => 0) events →
      (writesOf (bankTransport.machine.run (.start fun _ => 0) events).2).length < 2 ^ 31 →
        Identifies CalibrationBankSnapshot.generation
          (bankTransport.machine.run (.start fun _ => 0) events).2 := by
  intro identifies
  let other : StringCalibrationBank := { calibratedStringMask := 1 }
  obtain ⟨events, _, completes⟩ := exists_sequential disciplined_bankTransport
    [.inl ({}, 7), .inr (), .inl (other, 7), .inr ()] (idle_start fun _ => 0)
  have first := (run_readLatest_bank [({}, 7)]).trans (if_neg (by norm_num))
  have second := (run_readLatest_bank [({}, 7), (other, 7)]).trans (if_neg (by norm_num))
  have log : (bankTransport.machine.run (.start fun _ => 0) events).2 =
      [.wrote ({}, 7), .read () (some (CalibrationBankSnapshot.published [({}, 7)])),
        .wrote (other, 7),
        .read () (some (CalibrationBankSnapshot.published [({}, 7), (other, 7)]))] := by
    rw [completes.outputs, ← first, ← second]
    rfl
  have few : (writesOf (bankTransport.machine.run (.start fun _ => 0) events).2).length < 2 ^ 31 := by
    rw [log]
    change 2 < 2 ^ 31
    norm_num
  have same := identifies events completes.window few () ()
    (CalibrationBankSnapshot.published [({}, 7)])
    (CalibrationBankSnapshot.published [({}, 7), (other, 7)])
    (by rw [log]; simp) (by rw [log]; simp) rfl
  have masks := congrArg (fun snapshot => snapshot.bank.calibratedStringMask) same
  exact absurd masks (by decide)

/-- **When a transport can be read.** While no write is in progress, a reader that runs
alone gets what was published last exactly when the number of publications is no multiple
of half the numbers of the sequence. -/
theorem transport_available {TunerReader BankReader : Type} [DecidableEq TunerReader]
    [DecidableEq BankReader] {tunerEvents : List (Event TunerWrite TunerReader)}
    {bankEvents : List (Event (StringCalibrationBank × BitVec 32) BankReader)}
    (tunerIdle : (tunerTelemetry.machine.run (.start fun _ => 0) tunerEvents).1.writing = none)
    (bankIdle : (bankTransport.machine.run (.start fun _ => 0) bankEvents).1.writing = none) :
    ((tunerTelemetry.readLatest.run access
          (tunerTelemetry.machine.run (.start fun _ => 0) tunerEvents).1.memory).1 =
        some (TunerSnapshot.published
          (writesOf (tunerTelemetry.machine.run (.start fun _ => 0) tunerEvents).2)) ↔
      ¬ 2 ^ 31 ∣ TunerSnapshot.publications
        (writesOf (tunerTelemetry.machine.run (.start fun _ => 0) tunerEvents).2)) ∧
    ((bankTransport.readLatest.run access
          (bankTransport.machine.run (.start fun _ => 0) bankEvents).1.memory).1 =
        some (CalibrationBankSnapshot.published
          (writesOf (bankTransport.machine.run (.start fun _ => 0) bankEvents).2)) ↔
      ¬ 2 ^ 31 ∣ (writesOf (bankTransport.machine.run (.start fun _ => 0) bankEvents).2).length) := by
  have tuner : Consistent tunerTelemetry (fun _ => 0) _ _ :=
    run_consistent disciplined_tunerTelemetry rfl tunerEvents
  have bank : Consistent bankTransport (fun _ => 0) _ _ :=
    run_consistent disciplined_bankTransport rfl bankEvents
  rw [tuner.settled (tuner.idle tunerIdle), bank.settled (bank.idle bankIdle),
    run_readLatest_tuner, run_readLatest_bank]
  have fails : ∀ {Value : Type} {wrapped : Prop} [Decidable wrapped] {value : Value},
      (if wrapped then none else some value) = some value ↔ ¬ wrapped :=
    ite_eq_right_iff.trans
      ⟨fun none wrapped => (Option.some_ne_none _ (none wrapped).symm),
        fun free wrapped => absurd wrapped free⟩
  exact ⟨fails, fails⟩

/-- After one publication each, both transports can be read. -/
theorem transport_available_once :
    ∃ (tunerEvents : List (Event TunerWrite Unit))
      (bankEvents : List (Event (StringCalibrationBank × BitVec 32) Unit)),
      writesOf (tunerTelemetry.machine.run (.start fun _ => 0) tunerEvents).2 =
          [.snapshot oneVoice] ∧
        (tunerTelemetry.readLatest.run access
            (tunerTelemetry.machine.run (.start fun _ => 0) tunerEvents).1.memory).1 =
          some (TunerSnapshot.published [.snapshot oneVoice]) ∧
        writesOf (bankTransport.machine.run (.start fun _ => 0) bankEvents).2 = [({}, 7)] ∧
        (bankTransport.readLatest.run access
            (bankTransport.machine.run (.start fun _ => 0) bankEvents).1.memory).1 =
          some (CalibrationBankSnapshot.published [({}, 7)]) := by
  obtain ⟨tunerEvents, _, tuner⟩ := exists_sequential disciplined_tunerTelemetry
    ([.inl (.snapshot oneVoice)] : List (TunerWrite ⊕ Unit)) (idle_start fun _ => 0)
  obtain ⟨bankEvents, _, bank⟩ := exists_sequential disciplined_bankTransport
    ([.inl ({}, 7)] : List ((StringCalibrationBank × BitVec 32) ⊕ Unit)) (idle_start fun _ => 0)
  have available := transport_available tuner.idle.writing bank.idle.writing
  have tunerLog : writesOf (tunerTelemetry.machine.run (.start fun _ => 0) tunerEvents).2 =
      [.snapshot oneVoice] := by rw [tuner.outputs]; rfl
  have bankLog : writesOf (bankTransport.machine.run (.start fun _ => 0) bankEvents).2 =
      [({}, 7)] := by rw [bank.outputs]; rfl
  rw [tunerLog, bankLog] at available
  exact ⟨tunerEvents, bankEvents, tunerLog, available.1.mpr (by decide), bankLog,
    available.2.mpr (by norm_num)⟩

/-- Snapshots that are all published in turn. -/
theorem publications_replicate (snapshot : TunerSnapshot) (count : Nat) :
    TunerSnapshot.publications (List.replicate count (.snapshot snapshot)) = count := by
  have all : ∀ shown : TunerSnapshot,
      TunerSnapshot.newFrom shown (List.replicate count (.snapshot snapshot)) = count := by
    induction count with
    | zero => exact fun _ => rfl
    | succ count ih =>
        intro shown
        rw [List.replicate_succ, TunerSnapshot.newFrom, ih, TunerSnapshot.isNew]
        exact Nat.add_comm 1 count
  exact all {}

/-- The writes of a sequential run are those that it was given. -/
theorem writesOf_sequentially_replicate (write : TunerWrite) (count : Nat)
    (memory : TunerTelemetry) :
    writesOf (tunerTelemetry.sequentially memory
      (List.replicate count (Sum.inl write : TunerWrite ⊕ Unit))) = List.replicate count write := by
  induction count generalizing memory with
  | zero => rfl
  | succ count ih =>
      rw [List.replicate_succ, List.replicate_succ, sequentially]
      exact congrArg (write :: ·) (ih _)

/-- After half as many snapshots as the sequence has numbers, nothing can be read. -/
theorem tuner_unavailable :
    ¬ ∀ events : List (Event TunerWrite Unit),
      (tunerTelemetry.machine.run (.start fun _ => 0) events).1.writing = none →
      (∃ snapshot, TunerWrite.snapshot snapshot ∈
        writesOf (tunerTelemetry.machine.run (.start fun _ => 0) events).2) →
      (tunerTelemetry.readLatest.run access
          (tunerTelemetry.machine.run (.start fun _ => 0) events).1.memory).1 =
        some (TunerSnapshot.published
          (writesOf (tunerTelemetry.machine.run (.start fun _ => 0) events).2)) := by
  intro reads
  obtain ⟨events, _, completes⟩ := exists_sequential disciplined_tunerTelemetry
    (List.replicate (2 ^ 31) (Sum.inl (.snapshot oneVoice) : TunerWrite ⊕ Unit))
    (idle_start fun _ => 0)
  have log : writesOf (tunerTelemetry.machine.run (.start fun _ => 0) events).2 =
      List.replicate (2 ^ 31) (.snapshot oneVoice) := by
    rw [completes.outputs]
    exact writesOf_sequentially_replicate _ _ _
  have consistent : Consistent tunerTelemetry (fun _ => 0) _ _ :=
    run_consistent disciplined_tunerTelemetry rfl events
  have some := reads events completes.idle.writing ⟨oneVoice, by
    rw [log]
    exact List.mem_replicate.mpr ⟨by norm_num, rfl⟩⟩
  rw [consistent.settled (consistent.idle completes.idle.writing), run_readLatest_tuner, log,
    publications_replicate, if_pos (dvd_refl _)] at some
  cases some

end M3Midi
