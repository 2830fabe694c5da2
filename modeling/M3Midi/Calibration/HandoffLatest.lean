import M3Midi.Calibration.HandoffRuns
import M3Midi.Foundation.RelyGuarantee

/-! # What a saved project holds

A saved bank always is the one restored last or one that the audio thread published
after it had applied that restore; and the bank published last, when no publication
comes between (`HandoffSystem.run_saved_bank`).
-/

namespace M3Midi

open Foundation RegisterProgram HandoffView

namespace HandoffView

variable {Side : Type} {good : BitVec 32 → Prop} {source own after : TransportLock}
  {view next : HandoffView Side}

/-- A thread either leaves its lock as it is or changes its number. -/
theorem Progress.changes (goes : Progress good source view own next after) :
    after = own ∨ own.changes < after.changes := by
  cases goes with
  | reads | fails | finds => exact .inl rfl
  | stores goes =>
      rcases goes with rfl | rfl
      · exact .inl rfl
      · cases held : own.held with
        | true =>
            refine .inl ?_
            unfold SequenceLock.acquire
            rw [← held]
        | false =>
            refine .inr ?_
            unfold SequenceLock.changes SequenceLock.acquire
            rw [held]
            exact Nat.lt_succ_self _
  | publishes =>
      refine .inr ?_
      have held := own.held.toNat_le
      unfold SequenceLock.changes SequenceLock.release
      simp only [Bool.toNat_false]
      omega

end HandoffView

namespace HandoffCoherent

variable {factory : StringCalibrationBank} {log : List HandoffReport} {system : HandoffSystem}
  {main : HandoffView MainSide} {audio : HandoffView AudioSide}
  {restore published lock : TransportLock} {side : MainSide}

/-- The first attempt of `getState` to read, with what has been reported since it was
called: it is still going on, or it has found what the lock held. -/
inductive FirstAttempt (lock : TransportLock) (side : MainSide) :
    HandoffView MainSide → List HandoffReport → Prop
  | waiting : FirstAttempt lock side (.fetching side.getStatePlan (.waiting 2)) []
  | copying {copied copy} : FirstAttempt lock side
      (.fetching side.getStatePlan (.copying 2 (lock.number 32) copied copy)) []
  | found {outcome} : FirstAttempt lock side (.returned outcome)
      [.written (side.adopted (some (snapshotOfWords lock.contents))).bank]

/-- The attempt depends on the view only. -/
theorem FirstAttempt.of_eq {view next : HandoffView MainSide} {fresh : List HandoffReport}
    (same : view = next) (goes : FirstAttempt lock side next (fresh ++ next.reports)) :
    FirstAttempt lock side view (fresh ++ view.reports) := same ▸ goes

/-- An access of the main thread goes on with the attempt. The lock is free and its version does
not change under the reader, so that no second attempt is needed. -/
theorem FirstAttempt.mainStep {fresh : List HandoffReport}
    (coherent : HandoffCoherent factory log system main audio restore lock)
    (attempt : FirstAttempt lock side main fresh) (free : lock.held = false)
    (positive : lock.version ≠ 0) (room : 2 * lock.version + 2 ≤ 2 ^ 32)
    {action : RegisterAction HandoffRegister (BitVec 32)}
    (allowed : main.allows .restore action) :
    FirstAttempt lock side (main.advance action (access system.memory action).1)
      (fresh ++ (main.advance action (access system.memory action).1).reports) := by
  have number : system.memory (.published, .sequence) = lock.number 32 :=
    coherent.audioKeeps.shows.number
  have even : lock.number 32 &&& 1 = 0 := by
    rw [and_one_iff, SequenceLock.odd_number (by decide), free]
  have started : lock.number 32 ≠ 0 := by
    intro none
    have value := congrArg BitVec.toNat none
    rw [SequenceLock.number, free, BitVec.toNat_ofNat, Nat.mod_eq_of_lt] at value
    · change 2 * lock.version = 0 at value
      omega
    · simp only [Bool.toNat_false]
      omega
  cases attempt with
  | found => exact absurd allowed (by cases action <;> exact id)
  | waiting =>
      cases action with
      | store register word => exact absurd allowed id
      | load register =>
          obtain rfl : register = (.published, .sequence) := allowed
          have next : sequenced side.getStatePlan 2 (system.memory (.published, .sequence)) =
              fetching side.getStatePlan (.copying 2 (lock.number 32) [.sequence] fun _ => 0) := by
            rw [number]
            refine if_neg ?_
            rw [not_or, not_not]
            exact ⟨started, even⟩
          exact .of_eq next .copying
  | copying =>
      rename_i copied copy
      cases action with
      | store register word => exact absurd allowed id
      | load register =>
          obtain ⟨transport, register⟩ := register
          obtain ⟨rfl, complete⟩ := allowed
          by_cases last : register = .sequence
          · subst last
            obtain ⟨-, -, version, same, copies⟩ := coherent.mainKeeps.knows
            obtain ⟨-, rfl⟩ := copies.complete (complete rfl) room same
            have next : compared side.getStatePlan 2 lock.contents (lock.number 32)
                (system.memory (.published, .sequence)) =
                  (side.getStatePlan (some (snapshotOfWords lock.contents))).view := by
              rw [number]
              exact if_pos ⟨rfl, even⟩
            exact .of_eq next .found
          · exact .of_eq (if_neg last) .copying

/-- The audio thread reports nothing without publishing. -/
theorem audio_silent {nextAudio : HandoffView AudioSide} {after : TransportLock}
    (audioFits : AudioFits log (handoffSpec factory log) audio)
    (progress : Progress (handoffSpec factory log).Known restore audio published nextAudio after) :
    nextAudio.reports = [] ∨ published.changes < after.changes := by
  cases progress with
  | reads => exact .inl rfl
  | fails =>
      obtain ⟨side, -, rfl⟩ := audioFits
      exact .inl rfl
  | finds =>
      obtain ⟨side, -, rfl⟩ := audioFits
      refine .inl ?_
      unfold AudioSide.restorePlan
      dsimp only
      split_ifs <;> rfl
  | stores => exact .inl rfl
  | publishes =>
      refine .inr ?_
      have held := published.held.toNat_le
      unfold SequenceLock.changes SequenceLock.release
      simp only [Bool.toNat_false]
      omega

/-- The first attempt goes on, unless the audio thread has begun to publish. -/
def Undisturbed (lock : TransportLock) (side : MainSide) (main : HandoffView MainSide)
    (fresh : List HandoffReport) (published : TransportLock) : Prop :=
  published = lock ∧ FirstAttempt lock side main fresh ∨ lock.changes < published.changes

/-- Any event goes on with the attempt, a new call of the main thread apart. -/
theorem Undisturbed.step {fresh : List HandoffReport}
    (coherent : HandoffCoherent factory (log ++ fresh) system main audio restore published)
    (undisturbed : Undisturbed lock side main fresh published) (free : lock.held = false)
    (positive : lock.version ≠ 0) (room : 2 * published.version + 2 ≤ 2 ^ 32)
    {event : HandoffEvent} (other : ∀ call, event ≠ .main call) :
    ∃ nextMain nextAudio nextRestore after,
      HandoffCoherent factory (log ++ (fresh ++ (system.step factory event).2))
        (system.step factory event).1 nextMain nextAudio nextRestore after ∧
      Undisturbed lock side nextMain (fresh ++ (system.step factory event).2) after := by
  have idle : ∃ nextMain nextAudio nextRestore after,
      HandoffCoherent factory (log ++ (fresh ++ [])) system nextMain nextAudio nextRestore after ∧
      Undisturbed lock side nextMain (fresh ++ []) after := by
    rw [List.append_nil]
    exact ⟨main, audio, restore, published, coherent, undisturbed⟩
  by_cases silent : event.silent = true
  · obtain ⟨quiet, nextMain, nextAudio, same, goes⟩ := coherent.quiet room silent
    rw [quiet, List.append_nil]
    refine ⟨nextMain, nextAudio, restore, published, goes, undisturbed.imp_left ?_⟩
    rintro ⟨here, attempt⟩
    refine ⟨here, ?_⟩
    obtain rfl | ⟨first, second, rfl, rfl⟩ := same
    · exact attempt
    · cases attempt with
      | found => exact .found
  cases event with
  | main call => exact absurd rfl (other call)
  | mainStep =>
      cases program : system.main with
      | done outcome =>
          have goes : system.step factory .mainStep = (system, []) := by
            simp only [HandoffSystem.step, program]
          rw [goes]
          exact idle
      | act action rest =>
          have follows := coherent.mainFollows
          rw [program] at follows
          obtain ⟨reported, after, -, goes⟩ := coherent.mainStep room program
          rw [List.append_assoc] at goes
          refine ⟨_, _, _, _, goes, undisturbed.imp_left ?_⟩
          rintro ⟨rfl, attempt⟩
          rw [reported]
          exact ⟨rfl, attempt.mainStep coherent free positive room follows.1⟩
  | audioStep =>
      cases program : system.audio with
      | done outcome =>
          have goes : system.step factory .audioStep = (system, []) := by
            simp only [HandoffSystem.step, program]
          rw [goes]
          exact idle
      | act action rest =>
          obtain ⟨reported, after, progress, goes⟩ := coherent.audioStep program
          rw [List.append_assoc] at goes
          refine ⟨_, _, _, _, goes, ?_⟩
          rcases undisturbed with ⟨rfl, attempt⟩ | disturbed
          · rcases progress.changes with rfl | more
            · rcases audio_silent coherent.meaning.audioFits progress with quiet | more
              · rw [reported, quiet, List.append_nil]
                exact .inl ⟨rfl, attempt⟩
              · exact absurd more (Nat.lt_irrefl _)
            · exact .inr more
          · rcases progress.changes with rfl | more
            · exact .inr disturbed
            · exact .inr (disturbed.trans more)
  | _ => exact absurd rfl silent

/-- Along a run without calls of the main thread. -/
theorem Undisturbed.run {fresh : List HandoffReport}
    (coherent : HandoffCoherent factory (log ++ fresh) system main audio restore published)
    (undisturbed : Undisturbed lock side main fresh published) (free : lock.held = false)
    (positive : lock.version ≠ 0) (during : List HandoffEvent)
    (others : ∀ call, .main call ∉ during)
    (room : (log ++ (fresh ++ ((HandoffSystem.machine factory).run system during).2)).countP
      HandoffReport.publishes + 2 ≤ 2 ^ 31) :
    ∃ nextMain nextAudio nextRestore after,
      HandoffCoherent factory (log ++ (fresh ++ ((HandoffSystem.machine factory).run system during).2))
        ((HandoffSystem.machine factory).run system during).1 nextMain nextAudio nextRestore after ∧
      Undisturbed lock side nextMain
        (fresh ++ ((HandoffSystem.machine factory).run system during).2) after := by
  induction during using List.reverseRecOn with
  | nil =>
      rw [Transducer.run_nil, List.append_nil]
      exact ⟨_, _, _, _, coherent, undisturbed⟩
  | append_singleton during event ih =>
      rw [(HandoffSystem.machine factory).run_concat] at room ⊢
      have earlier := room
      rw [← List.append_assoc fresh, ← List.append_assoc log, List.countP_append] at earlier
      obtain ⟨nextMain, nextAudio, nextRestore, after, goes, still⟩ :=
        ih (fun call member => others call (List.mem_append_left _ member)) (by omega)
      have publications := goes.meaning.publications
      have next := still.step goes free positive (by omega) fun call same =>
        others call (same ▸ List.mem_append_right _ (List.mem_singleton_self event))
      rw [List.append_assoc] at next
      exact next

/-- What the main thread finds once a sweep's bank is the last one published. -/
theorem saved {reports early late : List HandoffReport} {swept : StringCalibrationBank}
    {generation : BitVec 32}
    (coherent : HandoffCoherent factory log system (.returned (side, reports)) audio restore published)
    (split : log = early ++ .swept swept generation :: late)
    (applied : (handoffSpec factory early).applied = true)
    (silent : ∀ report ∈ late, report.publishes = false ∧ report.restores = false) :
    HandoffSpec.Agrees (side.adopted (some (snapshotOfWords published.contents))).bank swept := by
  have spec : handoffSpec factory log = (handoffSpec factory early).publish true swept := by
    rw [split, List.append_cons, handoffSpec_silent silent, handoffSpec_concat, ← applied]
    rfl
  obtain ⟨origin, contents, -, counts, last⟩ := coherent.meaning.lastPublished
  rw [spec] at counts last
  have generation := counts rfl
  have same := last generation
  unfold HandoffSpec.publish at same
  dsimp only at same
  rw [if_pos rfl, List.getLast?_concat] at same
  obtain rfl := Option.some.inj same
  have fits : side.restoreGeneration = BitVec.ofNat 32 (handoffSpec factory log).restores :=
    coherent.meaning.mainFits.generation
  rw [contents, snapshotOfWords_words]
  unfold MainSide.adopted
  dsimp only
  rw [if_pos (generation.trans (by rw [fits, spec]))]
  rfl

/-- While the audio thread rests, the sequence number of its transport is even. -/
theorem even_of_rest {outcome : AudioSide × List HandoffReport}
    (coherent : HandoffCoherent factory log system main audio restore published)
    (rests : system.audio = .done outcome) :
    system.memory (.published, .sequence) &&& 1 = 0 := by
  obtain rfl := returned_of_done coherent.audioFollows rests
  rw [and_one_iff, coherent.audioKeeps.shows.number,
    SequenceLock.odd_number (show 0 < 32 by decide)]
  exact coherent.audioKeeps.held

end HandoffCoherent

namespace HandoffSystem

/-- A saved bank is the one restored last, or one that was published after the audio
thread had applied that restore; a bank is applied as it was restored; and a sweep's bank
that was published last, after that restore was applied, is what is saved next, unless
the audio thread publishes again before that is read. All this holds of banks up to their
partial detunings, while neither the generations nor the audio thread's sequence number
have come around. -/
theorem run_saved_bank (factory : StringCalibrationBank) (events : List HandoffEvent)
    (few : ((machine factory).run (start factory) events).2.countP HandoffReport.restores < 2 ^ 32)
    (room : ((machine factory).run (start factory) events).2.countP HandoffReport.publishes + 2 ≤
      2 ^ 31) :
    (∀ early bank late,
      ((machine factory).run (start factory) events).2 = early ++ .written bank :: late →
      (handoffSpec factory early).Allows bank) ∧
    (∀ early bank generation late,
      ((machine factory).run (start factory) events).2 =
        early ++ .applied bank generation :: late →
      early.countP HandoffReport.restores < 2 ^ 31 →
      ∃ restored, .restored restored generation ∈ early ∧ bank = transported restored) ∧
    ∀ before during early swept generation late,
      events = before ++ .main .getState :: during →
      ((machine factory).run (start factory) before).1.main.IsDone →
      (∀ call, .main call ∉ during) →
      ((machine factory).run (start factory) before).2 =
        early ++ .swept swept generation :: late →
      (handoffSpec factory early).applied = true →
      (∀ report ∈ late, report.publishes = false ∧ report.restores = false) →
      ((machine factory).run (start factory) before).1.memory (.published, .sequence) &&& 1 = 0 →
      ((machine factory).run (start factory) events).1.memory (.published, .sequence) =
        ((machine factory).run (start factory) before).1.memory (.published, .sequence) →
      ∀ bank, .written bank ∈ ((machine factory).run ((machine factory).run (start factory)
        before).1 (.main .getState :: during)).2 → HandoffSpec.Agrees bank swept := by
  obtain ⟨main, audio, restore, published, coherent⟩ := HandoffCoherent.run factory events few room
  refine ⟨fun early bank late => coherent.meaning.sound early _ late,
    fun early bank generation late split fresh => ?_, ?_⟩
  · refine coherent.meaning.sound early _ late split ?_
    rw [handoffSpec_restores]
    exact fresh
  · rintro before during early swept generation late rfl rest others split applied silent even same
      bank written
    have total := (machine factory).run_append (start factory) before (.main .getState :: during)
    rw [total] at few room same
    have fewBefore := few
    have roomBefore := room
    rw [List.countP_append] at fewBefore roomBefore
    obtain ⟨main, audio, restore, lock, coherent⟩ :=
      HandoffCoherent.run factory before (by omega) (by omega)
    obtain ⟨⟨side, reports⟩, program⟩ := Program.eq_done_of_isDone rest
    obtain rfl := HandoffCoherent.returned_of_done coherent.mainFollows program
    have saved := coherent.saved split applied silent
    generalize ((machine factory).run (start factory) before).2 = log at *
    generalize ((machine factory).run (start factory) before).1 = system at *
    have call : (machine factory).step system (.main .getState) =
        system.callMain factory side .getState := by
      change system.step factory (.main .getState) = _
      simp only [HandoffSystem.step, program]
    obtain ⟨quiet, started⟩ := coherent.getState
    rw [Transducer.run_cons, call, quiet, List.nil_append] at room written same
    dsimp only at room written same
    have free : lock.held = false := by
      rw [← SequenceLock.odd_number (show 0 < 32 by decide) lock,
        ← coherent.audioKeeps.shows.number]
      exact and_one_iff.mp even
    have publications := coherent.meaning.publications
    rw [← List.append_nil log] at started
    obtain ⟨nextMain, nextAudio, nextRestore, after, goes, still⟩ := HandoffCoherent.Undisturbed.run
      started (.inl ⟨rfl, .waiting⟩) free (by omega) during others room
    rw [List.nil_append] at goes still
    have publishedAfter := goes.meaning.publications
    have unchanged := SequenceLock.changes_eq (by omega) (by omega)
      (goes.audioKeeps.shows.number.symm.trans (same.trans coherent.audioKeeps.shows.number))
    obtain ⟨rfl, attempt⟩ := still.resolve_right fun more => by omega
    generalize ((machine factory).run (system.callMain factory side .getState).1 during).2 =
      fresh at *
    cases attempt with
    | waiting | copying => exact absurd written List.not_mem_nil
    | found =>
        obtain rfl := HandoffReport.written.inj (List.mem_singleton.mp written)
        exact saved

section Alone

variable {factory : StringCalibrationBank} {system : HandoffSystem}

/-- A main thread that goes on alone comes to its end. -/
theorem run_mainSteps {bound : Nat} (within : system.main.Within bound) :
    ((machine factory).run system (List.replicate bound .mainStep)).1 =
        { system with
          memory := (system.main.run access system.memory).2
          main := .done (system.main.run access system.memory).1 } ∧
      reports system.main ++ ((machine factory).run system (List.replicate bound .mainStep)).2 =
        (system.main.run access system.memory).1.2 := by
  induction bound generalizing system with
  | zero =>
      obtain ⟨memory, command, active, processing, main, audio⟩ := system
      cases main with
      | done outcome => exact ⟨rfl, List.append_nil _⟩
      | act action next => exact absurd within id
  | succ bound ih =>
      rw [List.replicate_succ, Transducer.run_cons]
      obtain ⟨memory, command, active, processing, main, audio⟩ := system
      cases main with
      | done outcome => exact ih (by cases bound <;> trivial)
      | act action next => exact ih (within _)

/-- An audio thread that goes on alone comes to its end. -/
theorem run_audioSteps {bound : Nat} (within : system.audio.Within bound) :
    ((machine factory).run system (List.replicate bound .audioStep)).1 =
        { system with
          memory := (system.audio.run access system.memory).2
          audio := .done (system.audio.run access system.memory).1 } ∧
      reports system.audio ++ ((machine factory).run system (List.replicate bound .audioStep)).2 =
        (system.audio.run access system.memory).1.2 := by
  induction bound generalizing system with
  | zero =>
      obtain ⟨memory, command, active, processing, main, audio⟩ := system
      cases audio with
      | done outcome => exact ⟨rfl, List.append_nil _⟩
      | act action next => exact absurd within id
  | succ bound ih =>
      rw [List.replicate_succ, Transducer.run_cons]
      obtain ⟨memory, command, active, processing, main, audio⟩ := system
      cases audio with
      | done outcome => exact ih (by cases bound <;> trivial)
      | act action next => exact ih (within _)

/-- A program takes as many steps when it is placed among more registers. -/
theorem within_embed {Register Larger Word Result : Type} (place : Register → Larger) {bound : Nat}
    {program : RegisterProgram Register Word Result} (within : program.Within bound) :
    (embed place program).Within bound := by
  induction program generalizing bound with
  | done result => cases bound <;> trivial
  | act action next ih =>
      cases bound with
      | zero => exact absurd within id
      | succ bound =>
          cases action with
          | load register => exact fun word => ih word (within word)
          | store register word => exact fun _ => ih () (within ())

/-- As many stores as registers. -/
theorem within_storeAll {Register Word : Type} (words : Register → Word)
    (registers : List Register) : (storeAll words registers).Within registers.length := by
  induction registers with
  | nil => trivial
  | cons register rest ih => exact fun _ => ih

/-- As many loads as registers. -/
theorem within_loadAll {Register Word : Type} [DecidableEq Register] (registers : List Register)
    (copy : Register → Word) : (loadAll registers copy).Within registers.length := by
  induction registers generalizing copy with
  | nil => trivial
  | cons register rest ih => exact fun _ => ih _

variable {count : Nat}

/-- The steps of a publication. -/
theorem within_publish {Side : Type} (large : bankRegisters.length ≤ count)
    (transport : HandoffTransport) (bank : StringCalibrationBank) (generation : BitVec 32)
    (outcome : Side × List HandoffReport) :
    (HandoffProgram.publish transport bank generation >>= fun _ =>
      (pure outcome : HandoffProgram _)).Within (3 * (count + 5)) := by
  have stores : (TransportProgram.publish bank generation).Within (count + 2 + 1 + 1 + 1) := by
    unfold TransportProgram.publish
    refine Program.within_perform_bind fun (before : BitVec 32) => ?_
    refine Program.within_perform_bind fun _ => ?_
    refine Program.within_perform_bind fun _ => ?_
    refine Program.within_bind ((within_storeAll _ _).mono large) fun _ => ?_
    refine Program.within_perform_bind fun _ => ?_
    exact Program.within_perform_bind fun _ => trivial
  have returns : ∀ _ : Unit, (pure outcome : HandoffProgram _).Within 0 := fun _ => trivial
  exact (Program.within_bind (within_embed _ stores) returns).mono (by omega)

/-- The steps of a read, which may have to be tried again. -/
theorem within_readAttempts (large : bankRegisters.length ≤ count) (attempts : Nat) :
    (TransportProgram.readAttempts attempts).Within (attempts * (count + 4)) := by
  induction attempts with
  | zero =>
      rw [Nat.zero_mul]
      trivial
  | succ attempts ih =>
      have rest : (count + (attempts * (count + 4) + 1)) + 1 + 1 + 1 =
          (attempts + 1) * (count + 4) := by ring
      unfold TransportProgram.readAttempts
      rw [← rest]
      refine Program.within_perform_bind fun (before : BitVec 32) => ?_
      split_ifs
      · exact ih.mono (by omega)
      · refine Program.within_perform_bind fun (generation : BitVec 32) => ?_
        refine Program.within_perform_bind fun (mask : BitVec 32) => ?_
        refine Program.within_bind ((within_loadAll _ _).mono large) fun words => ?_
        refine Program.within_perform_bind fun (after : BitVec 32) => ?_
        split_ifs
        · exact (show (pure _ : RegisterProgram _ _ _).Within 0 from trivial).mono (Nat.zero_le _)
        · exact ih

/-- The steps of a save: it reads, and may then restore what it has read. -/
theorem within_getState (large : bankRegisters.length ≤ count) (side : MainSide) :
    side.getState.Within (3 * (count + 5)) := by
  have returns : ∀ found, ((side.getStatePlan found).program .restore).Within 0 := fun _ => trivial
  rw [MainSide.getState_eq]
  refine (Program.within_bind (within_embed _ (within_readAttempts large _)) returns).mono ?_
  unfold transportReadAttempts
  omega

/-- The main thread restores a bank while nobody else goes on. -/
theorem run_setState (large : bankRegisters.length ≤ count) {side : MainSide}
    {reports : List HandoffReport} (rests : system.main = .done (side, reports))
    (overrides : StringCalibrationBank) :
    ∃ memory, (machine factory).run system
        (.main (.setState overrides) :: List.replicate (3 * (count + 5)) .mainStep) =
      ({ system with
          memory
          main := .done (side.restored (mergeFactoryCalibration factory overrides), []) },
        [.restored (mergeFactoryCalibration factory overrides) (side.restoreCounter + 1)]) := by
  have within : (side.setState (mergeFactoryCalibration factory overrides)).Within
    (3 * (count + 5)) := within_publish large _ _ _ _
  have call : (machine factory).step system (.main (.setState overrides)) =
      system.callMain factory side (.setState overrides) := by
    simp only [machine, HandoffSystem.step, rests]
  have alone := @run_mainSteps factory
    (system.callMain factory side (.setState overrides)).1 _ within
  have outcome : ((side.setState (mergeFactoryCalibration factory overrides)).run access
      system.memory).1 = (side.restored (mergeFactoryCalibration factory overrides), []) := by
    unfold MainSide.setState
    rw [Program.run_bind]
    rfl
  have main : (system.callMain factory side (.setState overrides)).1.main =
      side.setState (mergeFactoryCalibration factory overrides) := rfl
  have memory : (system.callMain factory side (.setState overrides)).1.memory = system.memory := rfl
  rw [main, memory, outcome] at alone
  rw [Transducer.run_cons, call]
  exact ⟨_, Prod.ext alone.1 (congrArg (List.cons _) alone.2)⟩

/-- Reading a transport alone leaves the memory as it is. -/
theorem run_readAttempts_memory (attempts : Nat) (memory : TransportRegister → BitVec 32) :
    ((TransportProgram.readAttempts attempts).run access memory).2 = memory := by
  induction attempts with
  | zero => rfl
  | succ attempts ih =>
      rw [TransportProgram.readAttempts, run_load_bind]
      split_ifs
      · exact ih
      · rw [run_load_bind, run_load_bind, Program.run_bind, run_loadAll, run_load_bind]
        split_ifs
        · rfl
        · exact ih

/-- Saving alone leaves the transport of the audio thread as it is. -/
theorem run_getState_memory (side : MainSide) (memory : HandoffMemory)
    (register : TransportRegister) :
    (side.getState.run access memory).2 (.published, register) = memory (.published, register) := by
  obtain ⟨-, inside, -⟩ := run_embed (fun register => (HandoffTransport.published, register))
    (fun _ _ same => (Prod.ext_iff.mp same).2)
    (TransportProgram.readAttempts transportReadAttempts) memory
  rw [run_readAttempts_memory] at inside
  rw [MainSide.getState_eq, Program.run_bind]
  exact congrFun inside register

/-- The main thread saves while nobody else goes on. -/
theorem run_getState (large : bankRegisters.length ≤ count) {side : MainSide}
    {reports : List HandoffReport} (rests : system.main = .done (side, reports))
    {events : List HandoffEvent}
    (saves : events = .main .getState :: List.replicate (3 * (count + 5)) .mainStep) :
    ((machine factory).run system events).1.memory (.published, .sequence) =
        system.memory (.published, .sequence) ∧
      ∃ bank, ((machine factory).run system events).2 = [.written bank] := by
  subst saves
  have call : (machine factory).step system (.main .getState) =
      system.callMain factory side .getState := by
    simp only [machine, HandoffSystem.step, rests]
  have alone := @run_mainSteps factory (system.callMain factory side .getState).1 _
    (within_getState large side)
  have written : (side.getState.run access system.memory).1.2 =
      [.written (side.getState.run access system.memory).1.1.bank] := by
    unfold MainSide.getState
    rw [Program.run_bind]
    rfl
  rw [Transducer.run_cons, call]
  refine ⟨?_, _, alone.2.trans written⟩
  rw [alone.1]
  exact run_getState_memory side system.memory .sequence

/-- A sweep comes to its end and is published while nobody else goes on. -/
theorem run_sweep (large : bankRegisters.length ≤ count) {side : AudioSide}
    {reports : List HandoffReport} (rests : system.audio = .done (side, reports))
    (processing : system.processing = true) (active : side.calibrator.active = true)
    (previous : side.previousPhase ≠ .complete)
    (points : Fin calibrationFretCount → StringCalibrationPoint) :
    ∃ memory outcome, (machine factory).run system
        (.audio (.processBlock (.completes points)) ::
          List.replicate (3 * (count + 5)) .audioStep) =
      ({ system with memory, audio := .done outcome },
        [.swept (side.calibrator.finalize points).bank side.restoreGeneration]) := by
  have call : (machine factory).step system (.audio (.processBlock (.completes points))) =
      system.callAudio factory side (.processBlock (.completes points)) := by
    simp only [machine, HandoffSystem.step, rests, processing, if_true]
  have completes : side.calibrator.observe (.completes points) = side.calibrator.finalize points :=
    if_pos active
  have program : side.processBlock (.completes points) =
      (HandoffProgram.publish .published (side.calibrator.finalize points).bank
        side.restoreGeneration >>= fun _ => pure
          ({ side with calibrator := side.calibrator.finalize points, previousPhase := .complete },
            [.swept (side.calibrator.finalize points).bank side.restoreGeneration])) := by
    unfold AudioSide.processBlock AudioSide.publishStringCalibrationStatus
    rw [completes]
    exact if_pos ⟨rfl, previous⟩
  have within : (side.processBlock (.completes points)).Within (3 * (count + 5)) := by
    rw [program]
    exact within_publish large _ _ _ _
  have alone := @run_audioSteps factory
    (system.callAudio factory side (.processBlock (.completes points))).1 _ within
  rw [Transducer.run_cons, call]
  have outcome : ((side.processBlock (.completes points)).run access system.memory).1.2 =
      [.swept (side.calibrator.finalize points).bank side.restoreGeneration] := by
    rw [program, Program.run_bind]
    rfl
  exact ⟨((side.processBlock (.completes points)).run access system.memory).2,
    ((side.processBlock (.completes points)).run access system.memory).1,
    Prod.ext alone.1 (alone.2.trans outcome)⟩

end Alone

/-- The first string's sweep begins. -/
def sweepBegins : List HandoffEvent :=
  [.setActive true true, .setProcessing true, .request (.string firstString),
    .audio (.applyStringCalibrationCommand true)]

/-- A point on every fret. -/
def measuredPoints : Fin calibrationFretCount → StringCalibrationPoint :=
  fun _ => { observationCount := 1, quality := .measured }

/-- The sweep comes to its end, and its bank is published. -/
def sweepCompletes : List HandoffEvent :=
  .audio (.processBlock (.completes measuredPoints)) :: List.replicate 3015 .audioStep

/-- A project is saved. -/
def saves : List HandoffEvent := .main .getState :: List.replicate 3015 .mainStep

/-- The example's save has as many steps as a save may take. -/
theorem saves_eq : saves = .main .getState :: List.replicate (3 * (1000 + 5)) .mainStep := rfl

/-- A project is loaded before the block in which a sweep comes to its end. -/
def sweepAcrossRestore : List HandoffEvent :=
  sweepBegins ++ (.main (.setState {}) :: List.replicate 3015 .mainStep) ++ sweepCompletes ++ saves

/-- A bank has no more registers than that. -/
theorem length_bankRegisters : bankRegisters.length ≤ 1000 := by
  simp [bankRegisters, maxVoices, wordsPerPoint, calibrationFretCount]

/-- After the calls at its beginning, the example's sweep waits for the open string. -/
theorem run_sweepBegins :
    (machine {}).run (start {}) sweepBegins =
      ({ start {} with
          active := true
          processing := true
          main := .done ({ bank := transported {} }, [])
          audio := .done ({ calibrator := { phase := .waitingOpen }, previousPhase := .waitingOpen },
            []) }, []) := by
  have found : (CalibrationBankTransport.readLatest fun register =>
      (start {}).memory (.published, register)) = some { bank := transported {} } :=
    CalibrationBankTransport.readLatest_publish_room (by decide)
  have activated : (start {}).activate { bank := {} } {} true =
      ({ start {} with
          active := true
          main := .done ({ bank := transported {} }, []) }, []) := by
    unfold activate
    rw [found]
    rfl
  have step : (machine {}).step (start {}) (.setActive true true) =
      (start {}).activate { bank := {} } {} true := rfl
  rw [sweepBegins, Transducer.run_cons, step, activated]
  rfl

/-- The bank of that sweep. -/
def sweptBank : StringCalibrationBank :=
  ({ phase := .waitingOpen : StringSweepCalibrator }.finalize measuredPoints).bank

/-- A sweep that comes to its end after a restore was made, and before the audio thread has
applied it, is published for nothing. -/
theorem run_sweepAcrossRestore :
    ∃ bank, ((machine {}).run (start {}) sweepAcrossRestore).2 =
      [.restored (mergeFactoryCalibration {} {}) 1, .swept sweptBank 0, .written bank] := by
  unfold sweepAcrossRestore sweepCompletes
  rw [Transducer.run_append, Transducer.run_append, Transducer.run_append, run_sweepBegins]
  have restored := @run_setState {} { start {} with
      active := true
      processing := true
      main := .done ({ bank := transported {} }, [])
      audio := .done ({ calibrator := { phase := .waitingOpen }, previousPhase := .waitingOpen },
        []) } 1000 length_bankRegisters _ _ rfl {}
  obtain ⟨memory, restored⟩ := restored
  rw [restored]
  obtain ⟨later, outcome, swept⟩ := @run_sweep {} { start {} with
      memory
      active := true
      processing := true
      main := .done (MainSide.restored { bank := transported {} } (mergeFactoryCalibration {} {}), [])
      audio := .done ({ calibrator := { phase := .waitingOpen }, previousPhase := .waitingOpen },
        []) } 1000 length_bankRegisters _ _ rfl rfl rfl (by decide) measuredPoints
  rw [swept]
  obtain ⟨-, bank, written⟩ := @run_getState {} { start {} with
      memory := later
      active := true
      processing := true
      main := .done (MainSide.restored { bank := transported {} } (mergeFactoryCalibration {} {}), [])
      audio := .done outcome } 1000 length_bankRegisters _ _ rfl _ saves_eq
  refine ⟨bank, ?_⟩
  rw [written]
  rfl

/-- Before that restore is applied, nothing but its bank may be saved. -/
theorem allows_sweepAcrossRestore {bank : StringCalibrationBank}
    (allowed : (handoffSpec {} [.restored (mergeFactoryCalibration {} {}) 1,
      .swept sweptBank 0]).Allows bank) : bank = mergeFactoryCalibration {} {} := by
  rcases allowed with same | ⟨published, member, -⟩
  · exact same
  · exact absurd member List.not_mem_nil

/-- The system after a sweep has come to its end, with nothing else under way. -/
theorem run_sweepAlone : ∃ memory outcome, (machine {}).run (start {}) (sweepBegins ++ sweepCompletes) =
    ({ start {} with
        memory
        active := true
        processing := true
        main := .done ({ bank := transported {} }, [])
        audio := .done outcome }, [.swept sweptBank 0]) := by
  obtain ⟨memory, outcome, swept⟩ := @run_sweep {} { start {} with
      active := true
      processing := true
      main := .done ({ bank := transported {} }, [])
      audio := .done ({ calibrator := { phase := .waitingOpen }, previousPhase := .waitingOpen },
        []) } 1000 length_bankRegisters _ _ rfl rfl rfl (by decide) measuredPoints
  refine ⟨memory, outcome, ?_⟩
  unfold sweepCompletes
  rw [Transducer.run_append, run_sweepBegins, swept]
  rfl

/-- A bank that is restored before a sweep comes to its end is saved, and without a restore it is
the sweep's bank. -/
theorem run_saved_bank_swept :
    ((machine {}).run (start {}) sweepAcrossRestore).2 =
        [.restored (mergeFactoryCalibration {} {}) 1, .swept sweptBank 0,
          .written (mergeFactoryCalibration {} {})] ∧
      ∃ bank, ((machine {}).run (start {}) (sweepBegins ++ sweepCompletes ++ saves)).2 =
        [.swept sweptBank 0, .written bank] ∧ HandoffSpec.Agrees bank sweptBank := by
  constructor
  · obtain ⟨bank, reported⟩ := run_sweepAcrossRestore
    obtain ⟨saved, -⟩ := run_saved_bank {} sweepAcrossRestore
      (by rw [reported]; exact Nat.lt_of_le_of_lt List.countP_le_length (by simp))
      (by rw [reported]; exact Nat.le_trans (Nat.add_le_add_right List.countP_le_length 2) (by simp))
    have allowed := saved [.restored (mergeFactoryCalibration {} {}) 1, .swept sweptBank 0] bank []
      reported
    rw [reported, allows_sweepAcrossRestore allowed]
  · obtain ⟨memory, outcome, swept⟩ := run_sweepAlone
    obtain ⟨same, bank, written⟩ := @run_getState {} { start {} with
      memory
      active := true
      processing := true
      main := .done ({ bank := transported {} }, [])
      audio := .done outcome } 1000 length_bankRegisters _ _ rfl _ saves_eq
    have reported : ((machine {}).run (start {}) (sweepBegins ++ sweepCompletes ++ saves)).2 =
        [.swept sweptBank 0, .written bank] := by
      rw [Transducer.run_append, swept]
      dsimp only
      rw [written, List.singleton_append]
    have few : [HandoffReport.swept sweptBank 0, .written bank].countP HandoffReport.restores <
      2 ^ 32 := Nat.lt_of_le_of_lt List.countP_le_length (by simp)
    have room : [HandoffReport.swept sweptBank 0, .written bank].countP HandoffReport.publishes + 2 ≤
      2 ^ 31 := Nat.le_trans (Nat.add_le_add_right List.countP_le_length 2) (by simp)
    obtain ⟨main, audio, restore, published, coherent⟩ := HandoffCoherent.run {}
      (sweepBegins ++ sweepCompletes)
      (by rw [swept]; exact Nat.lt_of_le_of_lt List.countP_le_length (by simp))
      (by rw [swept]; exact Nat.le_trans (Nat.add_le_add_right List.countP_le_length 2) (by simp))
    obtain ⟨-, -, latest⟩ := run_saved_bank {} (sweepBegins ++ sweepCompletes ++ saves)
      (by rw [reported]; exact few) (by rw [reported]; exact room)
    refine ⟨bank, reported, latest (sweepBegins ++ sweepCompletes) (List.replicate (3 * (1000 + 5)) .mainStep)
      [] sweptBank 0 [] ?_ ?_ ?_ ?_ rfl ?_ ?_ ?_ bank ?_⟩
    · rw [saves_eq]
    · rw [swept]
      trivial
    · intro call member
      exact nomatch List.eq_of_mem_replicate member
    · rw [swept]
      rfl
    · exact fun report member => absurd member List.not_mem_nil
    · exact coherent.even_of_rest (show _ = Program.done outcome by rw [swept])
    · rw [Transducer.run_append_fst, swept, same]
    · rw [swept, ← saves_eq, written]
      exact List.mem_singleton.mpr rfl

/-- The sweep was published before the project was saved, no restore was made since, and
its bank is not the one that is saved. -/
theorem run_swept_bank_lost :
    ∃ bank, ((machine {}).run (start {}) sweepAcrossRestore).2 =
        [.restored (mergeFactoryCalibration {} {}) 1, .swept sweptBank 0, .written bank] ∧
      ¬ HandoffSpec.Agrees bank sweptBank := by
  obtain ⟨bank, reported⟩ := run_sweepAcrossRestore
  obtain ⟨main, audio, restore, published, coherent⟩ := HandoffCoherent.run {} sweepAcrossRestore
    (by rw [reported]; exact Nat.lt_of_le_of_lt List.countP_le_length (by simp))
    (by rw [reported]; exact Nat.le_trans (Nat.add_le_add_right List.countP_le_length 2) (by simp))
  have allowed := coherent.meaning.sound
    [.restored (mergeFactoryCalibration {} {}) 1, .swept sweptBank 0] (.written bank) [] reported
  obtain rfl := allows_sweepAcrossRestore allowed
  refine ⟨_, reported, fun same => ?_⟩
  have masks := congrArg StringCalibrationBank.calibratedStringMask same
  exact absurd masks (by decide)

end HandoffSystem

end M3Midi
