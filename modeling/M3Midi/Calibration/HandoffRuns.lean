import M3Midi.Calibration.HandoffSpec

/-! # The calibration between the threads, in every order

An invariant of the two threads, their transports and what they have reported. One event
keeps it, and along every run a project is saved with a bank that may count.
-/

namespace M3Midi

open Foundation RegisterProgram HandoffView

/-- The bank of a snapshot was restored under its generation. -/
def ComesFromRestore (log : List HandoffReport) (restores : Nat)
    (snapshot : CalibrationBankSnapshot) : Prop :=
  restores < 2 ^ 31 → ∃ bank, .restored bank snapshot.generation ∈ log ∧
    snapshot.bank = transported bank

/-- What a publication of the audio thread will report. -/
structure Publishes (log : List HandoffReport) (spec : HandoffSpec)
    (snapshot : CalibrationBankSnapshot) (outcome : AudioSide × List HandoffReport) : Prop where
  settled : outcome.1.Settled
  generation : outcome.1.restoreGeneration = snapshot.generation
  known : spec.Known snapshot.generation
  report : (outcome.2 = [.applied snapshot.bank snapshot.generation] ∧
      ComesFromRestore log spec.restores snapshot) ∨
    ((outcome.2 = [.cleared snapshot.bank snapshot.generation] ∨
      outcome.2 = [.swept snapshot.bank snapshot.generation]) ∧
      (spec.applied = true ↔ snapshot.generation = BitVec.ofNat 32 spec.restores))

/-- What the main thread is doing fits what the log says. -/
def MainFits (log : List HandoffReport) (spec : HandoffSpec) : HandoffView MainSide → Prop
  | .returned outcome => outcome.1.Fits spec
  | .fetching plan _ => ∃ side : MainSide, side.Fits spec ∧ plan = side.getStatePlan
  | .publishing snapshot outcome _ =>
      outcome.1.Fits spec ∧ outcome.2 = [] ∧ spec.Known snapshot.generation ∧
        .restored snapshot.bank snapshot.generation ∈ log

/-- What the audio thread is doing fits what the log says. -/
def AudioFits (log : List HandoffReport) (spec : HandoffSpec) : HandoffView AudioSide → Prop
  | .returned outcome => outcome.1.Fits spec
  | .fetching plan _ => ∃ side : AudioSide, side.Fits spec ∧ plan = side.restorePlan
  | .publishing snapshot outcome _ => Publishes log spec snapshot outcome

namespace HandoffView

variable {Side : Type}

/-- The thread is about to publish. -/
def pending : HandoffView Side → Bool
  | publishing _ _ _ => true
  | _ => false

/-- What a thread reports in the view it returns in. -/
def reports : HandoffView Side → List HandoffReport
  | returned outcome => outcome.2
  | _ => []

@[simp] theorem reports_returned {outcome : Side × List HandoffReport} :
    (returned outcome).reports = outcome.2 := rfl

@[simp] theorem reports_fetching {plan : Option CalibrationBankSnapshot → HandoffPlan Side}
    {view : ReaderView} : (fetching plan view).reports = [] := rfl

@[simp] theorem reports_publishing {snapshot : CalibrationBankSnapshot}
    {outcome : Side × List HandoffReport} {view : WriterView} :
    (publishing snapshot outcome view).reports = [] := rfl

/-- A program that follows a view reports what the view does. -/
theorem reports_eq {target : HandoffTransport} {view : HandoffView Side}
    {program : HandoffProgram (Side × List HandoffReport)}
    (follows : (protocol target).Follows fits view program) :
    HandoffSystem.reports program = view.reports := by
  cases program with
  | done outcome =>
      obtain rfl : view = returned outcome := follows
      rfl
  | act action next =>
      cases view with
      | returned outcome => exact absurd follows.1 (by cases action <;> exact id)
      | fetching plan view => rfl
      | publishing snapshot outcome view => rfl

end HandoffView

/-- A report is right after those before it: a saved bank may count, and a bank is
applied that was restored. -/
def HandoffReport.Sound (factory : StringCalibrationBank) (early : List HandoffReport) :
    HandoffReport → Prop
  | .written bank => (handoffSpec factory early).Allows bank
  | .applied bank generation =>
      ComesFromRestore early (handoffSpec factory early).restores { bank, generation }
  | _ => True

/-- All reports are right. -/
def SoundLog (factory : StringCalibrationBank) (log : List HandoffReport) : Prop :=
  ∀ early report late, log = early ++ report :: late → report.Sound factory early

section Log

variable {factory : StringCalibrationBank} {log : List HandoffReport} {report : HandoffReport}

/-- A sound log stays sound with a report that is right after it. -/
theorem SoundLog.concat (sound : SoundLog factory log) (right : report.Sound factory log) :
    SoundLog factory (log ++ [report]) := by
  intro early other late split
  rcases List.eq_nil_or_concat late with rfl | ⟨before, last, rfl⟩
  · obtain ⟨rfl, same⟩ := List.append_inj' split rfl
    obtain rfl := List.head_eq_of_cons_eq same
    exact right
  · rw [List.concat_eq_append, ← List.cons_append, ← List.append_assoc] at split
    obtain ⟨earlier, -⟩ := List.append_inj' split rfl
    exact sound early other before earlier

/-- A snapshot that comes from a restore still does when more has happened. -/
theorem ComesFromRestore.later {restores more : Nat} {snapshot : CalibrationBankSnapshot}
    (comes : ComesFromRestore log restores snapshot) (grown : restores ≤ more)
    (late : List HandoffReport) : ComesFromRestore (log ++ late) more snapshot := by
  intro few
  obtain ⟨bank, member, same⟩ := comes (by omega)
  exact ⟨bank, List.mem_append_left late member, same⟩

end Log

/-- A publication makes one report, of a bank that counts when it is the last restore's. -/
theorem Publishes.reported {factory : StringCalibrationBank} {log : List HandoffReport}
    {snapshot : CalibrationBankSnapshot} {outcome : AudioSide × List HandoffReport}
    (fits : Publishes log (handoffSpec factory log) snapshot outcome) :
    ∃ report, outcome.2 = [report] ∧ report.publishes = true ∧
      (handoffSpec factory log).after report = (handoffSpec factory log).publish
        (snapshot.generation = BitVec.ofNat 32 (handoffSpec factory log).restores)
        snapshot.bank ∧ report.Sound factory log := by
  rcases fits.report with ⟨reported, comes⟩ | ⟨reported | reported, applied⟩
  · exact ⟨_, reported, rfl, rfl, comes⟩
  all_goals
    refine ⟨_, reported, rfl, ?_, trivial⟩
    exact congrArg (HandoffSpec.publish _ · _) (Bool.eq_iff_iff.mpr (by simpa using applied))

/-- What is known of the transports and the threads' parts. -/
structure Meaning (factory : StringCalibrationBank) (log : List HandoffReport)
    (main : HandoffView MainSide) (audio : HandoffView AudioSide)
    (restore published : TransportLock) : Prop where
  mainFits : MainFits log (handoffSpec factory log) main
  audioFits : AudioFits log (handoffSpec factory log) audio
  lastRestored : restore.version = 0 ∨ ∃ snapshot : CalibrationBankSnapshot,
    restore.contents = snapshot.words ∧ .restored snapshot.bank snapshot.generation ∈ log
  lastPublished : ∃ snapshot : CalibrationBankSnapshot, published.contents = snapshot.words ∧
    (handoffSpec factory log).Known snapshot.generation ∧
    ((handoffSpec factory log).applied = true →
      snapshot.generation = BitVec.ofNat 32 (handoffSpec factory log).restores) ∧
    (snapshot.generation = BitVec.ofNat 32 (handoffSpec factory log).restores →
      (handoffSpec factory log).published.getLast? = some snapshot.bank)
  restores : restore.version + main.pending.toNat = (handoffSpec factory log).restores
  publications : published.version = 1 + log.countP HandoffReport.publishes
  sound : SoundLog factory log

namespace Meaning

variable {factory : StringCalibrationBank} {log : List HandoffReport}
  {main nextMain : HandoffView MainSide} {audio nextAudio : HandoffView AudioSide}
  {restore published restoreAfter publishedAfter : TransportLock} {bank : StringCalibrationBank}
  {snapshot : CalibrationBankSnapshot}

/-- Numbers below the size of the word are not confused by it. -/
theorem ofNat_inj {first second : Nat} (small : first < 2 ^ 32) (large : second < 2 ^ 32)
    (same : BitVec.ofNat 32 first = BitVec.ofNat 32 second) : first = second := by
  have values := congrArg BitVec.toNat same
  rwa [BitVec.toNat_ofNat, BitVec.toNat_ofNat, Nat.mod_eq_of_lt small,
    Nat.mod_eq_of_lt large] at values

/-- A known generation is not that of the next restore. -/
theorem known_ne {spec : HandoffSpec} {generation : BitVec 32} (known : spec.Known generation)
    (few : spec.restores + 1 < 2 ^ 32) : generation ≠ BitVec.ofNat 32 (spec.restores + 1) := by
  obtain ⟨restore, le, rfl⟩ := known
  intro same
  have equal := ofNat_inj (by omega) few same
  omega

/-- A saved bank changes nothing. -/
theorem written (meaning : Meaning factory log main audio restore published)
    (allowed : (handoffSpec factory log).Allows bank)
    (fits : MainFits (log ++ [.written bank]) (handoffSpec factory log) nextMain)
    (pending : nextMain.pending = main.pending) :
    Meaning factory (log ++ [.written bank]) nextMain audio restore published := by
  have same : handoffSpec factory (log ++ [.written bank]) = handoffSpec factory log :=
    handoffSpec_concat
  refine ⟨same ▸ fits, ?_, ?_, same ▸ meaning.lastPublished, ?_, ?_, meaning.sound.concat allowed⟩
  · rw [same]
    have audioFits := meaning.audioFits
    cases audio with
    | returned outcome => exact audioFits
    | fetching plan view => exact audioFits
    | publishing snapshot outcome view =>
        refine ⟨audioFits.settled, audioFits.generation, audioFits.known, ?_⟩
        exact audioFits.report.imp_left fun applied => ⟨applied.1, applied.2.later le_rfl _⟩
  · exact meaning.lastRestored.imp_right fun ⟨snapshot, contents, member⟩ =>
      ⟨snapshot, contents, List.mem_append_left _ member⟩
  · rw [same, pending]
    exact meaning.restores
  · rw [List.countP_append]
    exact meaning.publications

/-- A save that has returned fits the log that reports it. -/
theorem fits_written {side : MainSide} (fits : side.Fits (handoffSpec factory log)) :
    MainFits (log ++ [.written side.bank]) (handoffSpec factory log)
      (.returned (side, [.written side.bank])) := fits

/-- A bank that the main thread finds may count when its generation is the last one's. -/
theorem adopted (meaning : Meaning factory log main audio restore published)
    {side : MainSide} (fits : side.Fits (handoffSpec factory log)) (found : Option CalibrationBankSnapshot)
    (read : ∀ snapshot, found = some snapshot → snapshot = snapshotOfWords published.contents) :
    (side.adopted found).Fits (handoffSpec factory log) := by
  cases found with
  | none => exact fits
  | some snapshot =>
      obtain ⟨origin, contents, -, -, counts⟩ := meaning.lastPublished
      obtain rfl := read snapshot rfl
      rw [contents, snapshotOfWords_words]
      unfold MainSide.adopted
      dsimp only
      split_ifs with same
      · refine ⟨fits.counter, fits.generation, .inr ⟨origin.bank, ?_, rfl⟩⟩
        exact List.mem_of_getLast? (counts (same.trans fits.generation))
      · exact fits

/-- The audio thread's bank is published. -/
theorem publishes {outcome : AudioSide × List HandoffReport}
    (meaning : Meaning factory log main audio restore published)
    (fits : Publishes log (handoffSpec factory log) snapshot outcome)
    (contents : publishedAfter.contents = snapshot.words)
    (version : publishedAfter.version = published.version + 1) :
    Meaning factory (log ++ outcome.2) main (.returned outcome) restore publishedAfter := by
  obtain ⟨report, reported, publication, spec, sound⟩ := fits.reported
  have restores : ((handoffSpec factory log).after report).restores =
      (handoffSpec factory log).restores := HandoffSpec.restores_after publication
  have known : ∀ generation, (handoffSpec factory log).Known generation →
      ((handoffSpec factory log).after report).Known generation := by
    rintro generation ⟨origin, le, same⟩
    exact ⟨origin, le.trans restores.ge, same⟩
  have allowed : ∀ side : MainSide, side.Fits (handoffSpec factory log) →
      side.Fits ((handoffSpec factory log).after report) := fun side fits =>
    ⟨restores.symm ▸ fits.counter, restores.symm ▸ fits.generation, fits.bank.after publication⟩
  rw [reported]
  constructor
  · rw [handoffSpec_concat]
    have mainFits := meaning.mainFits
    cases main with
    | returned outcome => exact allowed _ mainFits
    | fetching plan view =>
        obtain ⟨side, fits, same⟩ := mainFits
        exact ⟨side, allowed side fits, same⟩
    | publishing snapshot outcome view =>
        obtain ⟨side, silent, seen, member⟩ := mainFits
        exact ⟨allowed _ side, silent, known _ seen, List.mem_append_left _ member⟩
  · rw [handoffSpec_concat]
    refine ⟨fits.settled, fits.generation ▸ known _ fits.known, ?_⟩
    rw [restores, spec, fits.generation]
    exact decide_eq_true_iff
  · exact meaning.lastRestored.imp_right fun ⟨snapshot, contents, member⟩ =>
      ⟨snapshot, contents, List.mem_append_left _ member⟩
  · rw [handoffSpec_concat]
    rw [restores, spec]
    refine ⟨snapshot, contents, spec ▸ known _ fits.known, decide_eq_true_iff.mp, fun latest => ?_⟩
    rw [HandoffSpec.publish, decide_eq_true latest]
    exact List.getLast?_concat
  · rw [handoffSpec_concat, restores]
    exact meaning.restores
  · rw [List.countP_append, List.countP_singleton, if_pos publication, version,
      meaning.publications]
    omega
  · exact meaning.sound.concat sound

/-- A new restore begins. -/
theorem restores_begin {side : MainSide} {reports : List HandoffReport}
    (meaning : Meaning factory log (.returned (side, reports)) audio restore published)
    (few : (handoffSpec factory log).restores + 1 < 2 ^ 32) (calibration : StringCalibrationBank)
    (view : WriterView) :
    Meaning factory
      (log ++ [.restored calibration (side.restored calibration).restoreGeneration])
      (.publishing (side.restoring calibration) (side.restored calibration, []) view) audio restore
      published := by
  have fits : side.Fits (handoffSpec factory log) := meaning.mainFits
  have generation : side.restoreCounter + 1 =
      BitVec.ofNat 32 ((handoffSpec factory log).restores + 1) := by
    rw [fits.counter, BitVec.ofNat_add]
    rfl
  have known : ∀ generation, (handoffSpec factory log).Known generation →
      ((handoffSpec factory log).after (.restored calibration
        (side.restored calibration).restoreGeneration)).Known generation := by
    rintro generation ⟨origin, le, same⟩
    exact ⟨origin, le.trans (Nat.le_succ _), same⟩
  constructor
  · rw [handoffSpec_concat]
    exact ⟨⟨generation, generation, .inl rfl⟩, rfl, ⟨_, le_rfl, generation⟩,
      List.mem_append_right _ (List.mem_singleton_self _)⟩
  · rw [handoffSpec_concat]
    have audioFits := meaning.audioFits
    have later : ∀ side : AudioSide, side.Fits (handoffSpec factory log) →
        side.Fits ((handoffSpec factory log).after (.restored calibration _)) := fun side fits =>
      ⟨fits.settled, known _ fits.known, fun contrary => absurd contrary Bool.false_ne_true,
        fun same => absurd same (known_ne fits.known few)⟩
    cases audio with
    | returned outcome => exact later _ audioFits
    | fetching plan view =>
        obtain ⟨side, fits, same⟩ := audioFits
        exact ⟨side, later side fits, same⟩
    | publishing snapshot outcome view =>
        refine ⟨audioFits.settled, audioFits.generation, known _ audioFits.known, ?_⟩
        rcases audioFits.report with ⟨reported, comes⟩ | ⟨reported, -⟩
        · exact .inl ⟨reported, comes.later (Nat.le_succ _) _⟩
        · exact .inr ⟨reported, fun contrary => absurd contrary Bool.false_ne_true,
            fun same => absurd same (known_ne audioFits.known few)⟩
  · exact meaning.lastRestored.imp_right fun ⟨snapshot, contents, member⟩ =>
      ⟨snapshot, contents, List.mem_append_left _ member⟩
  · rw [handoffSpec_concat]
    obtain ⟨snapshot, contents, seen, -⟩ := meaning.lastPublished
    exact ⟨snapshot, contents, known _ seen, fun contrary => absurd contrary Bool.false_ne_true,
      fun same => absurd same (known_ne seen few)⟩
  · rw [handoffSpec_concat]
    exact congrArg (· + 1) meaning.restores
  · rw [List.countP_append]
    exact meaning.publications
  · exact meaning.sound.concat trivial

end Meaning

/-- The threads follow their views, their transports are the locks they know, and all that
they have reported and will report is right. -/
structure HandoffCoherent (factory : StringCalibrationBank) (log : List HandoffReport)
    (system : HandoffSystem) (main : HandoffView MainSide) (audio : HandoffView AudioSide)
    (restore published : TransportLock) : Prop where
  mainFollows : (protocol .restore).Follows fits main system.main
  audioFollows : (protocol .published).Follows fits audio system.audio
  mainKeeps : Keeps .restore (fun _ => True) system.memory published restore main
  audioKeeps : Keeps .published (handoffSpec factory log).Known system.memory restore published audio
  generation : (handoffSpec factory log).Known (system.memory (.restore, .generation))
  meaning : Meaning factory log main audio restore published

namespace HandoffCoherent

variable {factory : StringCalibrationBank} {log : List HandoffReport} {system : HandoffSystem}
  {main nextMain : HandoffView MainSide} {audio nextAudio : HandoffView AudioSide}
  {restore published after : TransportLock}

/-- What the main thread's progress comes to. -/
theorem main_progress (meaning : Meaning factory log main audio restore published)
    (room : 2 * published.version + 2 ≤ 2 ^ 32)
    (progress : Progress (fun _ => True) published main restore nextMain after) :
    Meaning factory (log ++ nextMain.reports) nextMain audio after published ∧
      handoffSpec factory (log ++ nextMain.reports) = handoffSpec factory log := by
  have mainFits := meaning.mainFits
  cases progress with
  | reads =>
      rw [reports_fetching, List.append_nil]
      exact ⟨{ meaning with mainFits }, rfl⟩
  | fails =>
      obtain ⟨side, fits, rfl⟩ := mainFits
      exact ⟨meaning.written fits.bank (Meaning.fits_written fits) rfl, handoffSpec_concat⟩
  | finds positive number again copies all =>
      obtain ⟨side, fits, rfl⟩ := mainFits
      obtain ⟨-, rfl⟩ := copies.complete all room again
      have adopted := meaning.adopted fits (some (snapshotOfWords published.contents))
        fun snapshot same => (Option.some.inj same).symm
      exact ⟨meaning.written adopted.bank (Meaning.fits_written adopted) rfl, handoffSpec_concat⟩
  | stores goes =>
      rw [reports_publishing, List.append_nil]
      rcases goes with rfl | rfl
      · exact ⟨{ meaning with mainFits }, rfl⟩
      · exact ⟨{ meaning with mainFits }, rfl⟩
  | publishes =>
      obtain ⟨fits, silent, known, member⟩ := mainFits
      rw [reports_returned, silent, List.append_nil]
      exact ⟨{ meaning with
        mainFits := fits
        lastRestored := .inr ⟨_, rfl, member⟩
        restores := meaning.restores }, rfl⟩

/-- What the audio thread's progress comes to. -/
theorem audio_progress (meaning : Meaning factory log main audio restore published)
    (progress : Progress (handoffSpec factory log).Known restore audio published nextAudio after) :
    Meaning factory (log ++ nextAudio.reports) main nextAudio restore after ∧
      (handoffSpec factory (log ++ nextAudio.reports)).restores =
        (handoffSpec factory log).restores := by
  have audioFits := meaning.audioFits
  cases progress with
  | reads =>
      rw [reports_fetching, List.append_nil]
      exact ⟨{ meaning with audioFits }, rfl⟩
  | fails =>
      obtain ⟨side, fits, rfl⟩ := audioFits
      change Meaning factory (log ++ []) main (.returned (side, [])) restore published ∧
        (handoffSpec factory (log ++ [])).restores = _
      rw [List.append_nil]
      exact ⟨{ meaning with audioFits := fits }, rfl⟩
  | finds positive number again copies all known =>
      rename_i version copied copy
      obtain ⟨side, fits, rfl⟩ := audioFits
      unfold AudioSide.restorePlan
      dsimp only
      split_ifs with same
      · change Meaning factory (log ++ []) main (.returned (side, [])) restore published ∧
          (handoffSpec factory (log ++ [])).restores = _
        rw [List.append_nil]
        exact ⟨{ meaning with audioFits := fits }, rfl⟩
      · change Meaning factory (log ++ []) main (.publishing (snapshotOfWords copy)
          (side.restored (snapshotOfWords copy), [_]) .fresh) restore published ∧
          (handoffSpec factory (log ++ [])).restores = _
        rw [List.append_nil]
        refine ⟨{ meaning with audioFits := ⟨id, rfl, known, .inl ⟨rfl, fun few => ?_⟩⟩ }, rfl⟩
        have restores := meaning.restores
        obtain ⟨-, rfl⟩ := copies.complete all (by omega) again
        have since := copies.since
        have started : restore.version ≠ 0 := by
          intro none
          obtain rfl : version = 0 := by omega
          exact positive number
        obtain ⟨snapshot, contents, member⟩ := meaning.lastRestored.resolve_left started
        rw [contents, snapshotOfWords_words]
        exact ⟨snapshot.bank, member, rfl⟩
  | stores goes =>
      rw [reports_publishing, List.append_nil]
      rcases goes with rfl | rfl
      · exact ⟨{ meaning with audioFits }, rfl⟩
      · exact ⟨{ meaning with audioFits }, rfl⟩
  | publishes =>
      obtain ⟨report, reported, publication, -⟩ := audioFits.reported
      refine ⟨meaning.publishes audioFits rfl rfl, ?_⟩
      rw [reports_returned, reported, handoffSpec_concat]
      exact HandoffSpec.restores_after publication

/-- The main thread performs its next access. -/
theorem mainStep (coherent : HandoffCoherent factory log system main audio restore published)
    (room : 2 * published.version + 2 ≤ 2 ^ 32)
    {action : RegisterAction HandoffRegister (BitVec 32)}
    {rest : action.Answer → HandoffProgram (MainSide × List HandoffReport)}
    (program : system.main = .act action rest) :
    (system.step factory .mainStep).2 =
        (main.advance action (access system.memory action).1).reports ∧
      ∃ after, Progress (fun _ => True) published main restore
        (main.advance action (access system.memory action).1) after ∧
      HandoffCoherent factory (log ++ (system.step factory .mainStep).2) (system.step factory .mainStep).1
        (main.advance action (access system.memory action).1) audio after published := by
  have follows := coherent.mainFollows
  rw [program] at follows
  have step : system.step factory .mainStep = system.proceedMain (access system.memory action).2
      (rest (access system.memory action).1) := by
    simp only [HandoffSystem.step, program]
  have goes : (protocol .restore).Follows fits (main.advance action (access system.memory action).1)
      (rest (access system.memory action).1) := follows.2 _
  obtain ⟨after, keeps, progress, elsewhere⟩ :=
    coherent.mainKeeps.step coherent.audioKeeps.shows trivial follows.1
  obtain ⟨meaning, same⟩ := main_progress coherent.meaning room progress
  rw [step]
  refine ⟨reports_eq goes, after, progress, ?_⟩
  change HandoffCoherent factory (log ++ HandoffSystem.reports (rest (access system.memory action).1)) _
    (main.advance action (access system.memory action).1) _ _ _
  rw [reports_eq goes]
  refine ⟨goes, coherent.audioFollows, keeps, ?_, ?_, meaning⟩
  · rw [same]
    exact coherent.audioKeeps.other (fun _ => id) (fun _ _ _ => progress.copies) elsewhere
  · rw [same]
    have mainFits := coherent.meaning.mainFits
    change (handoffSpec factory log).Known ((access system.memory action).2 (.restore, .generation))
    rcases @generation_of_allows _ _ system.memory _ _ follows.1 with
      kept | ⟨snapshot, outcome, writer, view, stored⟩
    · rw [kept]
      exact coherent.generation
    · rw [view] at mainFits
      rw [stored]
      exact mainFits.2.2.1

/-- The audio thread performs its next access. -/
theorem audioStep (coherent : HandoffCoherent factory log system main audio restore published)
    {action : RegisterAction HandoffRegister (BitVec 32)}
    {rest : action.Answer → HandoffProgram (AudioSide × List HandoffReport)}
    (program : system.audio = .act action rest) :
    (system.step factory .audioStep).2 =
        (audio.advance action (access system.memory action).1).reports ∧
      ∃ after, Progress (handoffSpec factory log).Known restore audio published
        (audio.advance action (access system.memory action).1) after ∧
      HandoffCoherent factory (log ++ (system.step factory .audioStep).2)
        (system.step factory .audioStep).1 main
        (audio.advance action (access system.memory action).1) restore after := by
  have follows := coherent.audioFollows
  rw [program] at follows
  have step : system.step factory .audioStep = system.proceedAudio (access system.memory action).2
      (rest (access system.memory action).1) := by
    simp only [HandoffSystem.step, program]
  have goes : (protocol .published).Follows fits
      (audio.advance action (access system.memory action).1)
      (rest (access system.memory action).1) := follows.2 _
  obtain ⟨after, keeps, progress, elsewhere⟩ :=
    coherent.audioKeeps.step coherent.mainKeeps.shows coherent.generation follows.1
  obtain ⟨meaning, same⟩ := audio_progress coherent.meaning progress
  rw [step]
  refine ⟨reports_eq goes, after, progress, ?_⟩
  change HandoffCoherent factory (log ++ HandoffSystem.reports (rest (access system.memory action).1)) _
    _ (audio.advance action (access system.memory action).1) _ _
  rw [reports_eq goes]
  have known : ∀ generation, (handoffSpec factory log).Known generation →
      (handoffSpec factory (log ++ (audio.advance action (access system.memory action).1).reports)
        ).Known generation := fun generation ⟨origin, le, found⟩ => ⟨origin, le.trans same.ge, found⟩
  refine ⟨coherent.mainFollows, goes, ?_, ?_, ?_, meaning⟩
  · exact coherent.mainKeeps.other (fun _ => id) (fun _ _ _ => progress.copies) elsewhere
  · exact keeps.other known (fun _ _ _ => id) fun _ => rfl
  · refine known _ ?_
    change (handoffSpec factory log).Known ((access system.memory action).2 (.restore, .generation))
    rw [show (access system.memory action).2 (.restore, .generation) =
      system.memory (.restore, .generation) from elsewhere .generation]
    exact coherent.generation

/-- A thread that has returned shows it in its view. -/
theorem returned_of_done {Side : Type} {target : HandoffTransport} {view : HandoffView Side}
    {program : HandoffProgram (Side × List HandoffReport)} {outcome : Side × List HandoffReport}
    (follows : (protocol target).Follows fits view program) (done : program = .done outcome) :
    view = returned outcome := by
  rw [done] at follows
  exact follows

section Calls

variable {mainSide : MainSide} {audioSide : AudioSide} {reports : List HandoffReport}
  {later : HandoffSystem}

/-- The audio thread goes on from rest without an access. -/
theorem audio_goes
    (coherent : HandoffCoherent factory log system main (.returned (audioSide, reports)) restore published)
    (memory : later.memory = system.memory) (same : later.main = system.main)
    (follows : (protocol .published).Follows fits nextAudio later.audio)
    (storing : nextAudio.storing = false)
    (knows : nextAudio.Knows .published (handoffSpec factory log).Known system.memory restore
      published)
    (audioFits : AudioFits log (handoffSpec factory log) nextAudio) :
    HandoffCoherent factory log later main nextAudio restore published := by
  refine ⟨same ▸ coherent.mainFollows, follows, memory ▸ coherent.mainKeeps, ?_,
    memory ▸ coherent.generation, { coherent.meaning with audioFits }⟩
  rw [memory]
  exact ⟨coherent.audioKeeps.shows, coherent.audioKeeps.held.trans storing.symm, knows⟩

/-- The audio thread starts a plan that reports nothing at once. -/
theorem audio_plans
    (coherent : HandoffCoherent factory log system main (.returned (audioSide, reports)) restore published)
    (plan : HandoffPlan AudioSide) (silent : plan.view.reports = [])
    (audioFits : AudioFits log (handoffSpec factory log) plan.view) (command : CalibrationCommand) :
    ({ system with command }.proceedAudio system.memory (plan.program .published)).2 = [] ∧
      HandoffCoherent factory log
        ({ system with command }.proceedAudio system.memory (plan.program .published)).1 main
        plan.view restore published := by
  have follows := HandoffProgram.plan_follows .published plan
  exact ⟨(reports_eq follows).trans silent,
    coherent.audio_goes rfl rfl follows (storing_plan _) (knows_plan _) audioFits⟩

/-- A status that is published, or is not, keeps the audio thread's part in order. -/
theorem statusPlan_fits {spec : HandoffSpec} (known : spec.Known audioSide.restoreGeneration)
    (applied : spec.applied = true ↔
      audioSide.restoreGeneration = BitVec.ofNat 32 spec.restores) :
    AudioFits log spec audioSide.statusPlan.view ∧ audioSide.statusPlan.view.reports = [] := by
  unfold AudioSide.statusPlan
  split_ifs
  · exact ⟨⟨id, rfl, known, .inr ⟨.inr rfl, applied⟩⟩, rfl⟩
  · exact ⟨⟨id, known, applied⟩, rfl⟩

/-- The audio thread starts a call. -/
theorem callAudio
    (coherent : HandoffCoherent factory log system main (.returned (audioSide, reports)) restore published)
    (call : AudioCall) :
    (system.callAudio factory audioSide call).2 = [] ∧
      ∃ nextAudio, HandoffCoherent factory log (system.callAudio factory audioSide call).1 main nextAudio
        restore published := by
  obtain ⟨settled, known, applied⟩ : audioSide.Fits (handoffSpec factory log) :=
    coherent.meaning.audioFits
  have status : ∀ (side : AudioSide) (command : CalibrationCommand),
      side.restoreGeneration = audioSide.restoreGeneration →
      ({ system with command }.proceedAudio system.memory
        side.publishStringCalibrationStatus).2 = [] ∧
      ∃ nextAudio, HandoffCoherent factory log ({ system with command }.proceedAudio system.memory
        side.publishStringCalibrationStatus).1 main nextAudio restore published := by
    intro side command same
    rw [← same] at known applied
    obtain ⟨fits, silent⟩ := statusPlan_fits known applied
    rw [AudioSide.publishStringCalibrationStatus_eq]
    obtain ⟨quiet, goes⟩ := coherent.audio_plans _ silent fits command
    exact ⟨quiet, _, goes⟩
  cases call with
  | applyCalibrationRestore =>
      have follows := audioSide.applyCalibrationRestore_follows
      exact ⟨reports_eq follows, .fetching audioSide.restorePlan (.waiting 2),
        coherent.audio_goes rfl rfl follows rfl trivial ⟨audioSide, ⟨settled, known, applied⟩, rfl⟩⟩
  | processBlock evidence => exact status _ system.command rfl
  | applyStringCalibrationCommand playable =>
      unfold HandoffSystem.callAudio
      dsimp only
      cases system.command with
      | none => exact status _ .none rfl
      | string index => exact status _ .none rfl
      | cancel => exact status _ .none rfl
      | clear =>
          rw [AudioSide.clear_eq]
          obtain ⟨quiet, goes⟩ := coherent.audio_plans (audioSide.clearPlan factory) rfl
            ⟨id, rfl, known, .inr ⟨.inl rfl, applied⟩⟩ .none
          exact ⟨quiet, _, goes⟩

/-- The detector is reset while the audio thread rests. -/
theorem reset
    (coherent : HandoffCoherent factory log system main (.returned (audioSide, reports)) restore published)
    (later : HandoffSystem) (memory : later.memory = system.memory)
    (same : later.main = system.main) {side : AudioSide}
    (fits : side.Fits (handoffSpec factory log)) :
    (later.reset side).2 = [] ∧
      ∃ nextAudio, HandoffCoherent factory log (later.reset side).1 main nextAudio restore published := by
  have settled : ({ side with calibrator := side.calibrator.cancel } : AudioSide).Settled :=
    fun complete => fits.settled (AudioSide.phase_cancel _ complete)
  unfold HandoffSystem.reset AudioSide.resetDetectorTransients
  rw [AudioSide.publishStatus_of_settled settled]
  exact ⟨rfl, .returned (AudioSide.reported { side with calibrator := side.calibrator.cancel }, []),
    coherent.audio_goes memory same rfl rfl trivial ⟨id, fits.known, fits.applied⟩⟩

/-- The main thread goes on from rest without an access or a report. -/
theorem main_goes
    (coherent : HandoffCoherent factory log system (.returned (mainSide, reports)) audio restore published)
    (memory : later.memory = system.memory) (same : later.audio = system.audio)
    (follows : (protocol .restore).Follows fits nextMain later.main)
    (storing : nextMain.storing = false) (pending : nextMain.pending = false)
    (knows : nextMain.Knows .restore (fun _ => True) system.memory published restore)
    (mainFits : MainFits log (handoffSpec factory log) nextMain) :
    HandoffCoherent factory log later nextMain audio restore published := by
  refine ⟨follows, same ▸ coherent.audioFollows, ?_, memory ▸ coherent.audioKeeps,
    memory ▸ coherent.generation, { coherent.meaning with mainFits, restores := ?_ }⟩
  · rw [memory]
    exact ⟨coherent.mainKeeps.shows, coherent.mainKeeps.held.trans storing.symm, knows⟩
  · rw [pending]
    exact coherent.meaning.restores

/-- The main thread starts to save. -/
theorem getState
    (coherent : HandoffCoherent factory log system (.returned (mainSide, reports)) audio restore published) :
    (system.callMain factory mainSide .getState).2 = [] ∧
      HandoffCoherent factory log (system.callMain factory mainSide .getState).1
        (.fetching mainSide.getStatePlan (.waiting 2)) audio restore published :=
  have follows := mainSide.getState_follows
  ⟨reports_eq follows, coherent.main_goes rfl rfl follows rfl rfl trivial
    ⟨mainSide, coherent.meaning.mainFits, rfl⟩⟩

/-- The main thread starts a call. -/
theorem callMain
    (coherent : HandoffCoherent factory log system (.returned (mainSide, reports)) audio restore published)
    (call : MainCall)
    (few : ∀ overrides, call = .setState overrides →
      (handoffSpec factory log).restores + 1 < 2 ^ 32) :
    ∃ nextMain, HandoffCoherent factory (log ++ (system.callMain factory mainSide call).2)
      (system.callMain factory mainSide call).1 nextMain audio restore published := by
  cases call with
  | getState =>
      obtain ⟨quiet, goes⟩ := coherent.getState
      rw [quiet, List.append_nil]
      exact ⟨_, goes⟩
  | setState overrides =>
      have meaning := coherent.meaning.restores_begin (few overrides rfl)
        (mergeFactoryCalibration factory overrides) .fresh
      have grown : ∀ generation, (handoffSpec factory log).Known generation →
          (handoffSpec factory (log ++ [.restored (mergeFactoryCalibration factory overrides)
            (mainSide.restored (mergeFactoryCalibration factory overrides)).restoreGeneration])
            ).Known generation := by
        rintro generation ⟨origin, le, same⟩
        rw [handoffSpec_concat]
        exact ⟨origin, le.trans (Nat.le_succ _), same⟩
      refine ⟨_, HandoffProgram.plan_follows .restore (.publishes
        (mainSide.restoring (mergeFactoryCalibration factory overrides))
        (mainSide.restored (mergeFactoryCalibration factory overrides), [])),
        coherent.audioFollows, ?_, ?_, grown _ coherent.generation, meaning⟩
      · exact ⟨coherent.mainKeeps.shows, coherent.mainKeeps.held, trivial⟩
      · exact coherent.audioKeeps.other grown (fun _ _ _ => id) fun _ => rfl

/-- What the main thread finds while the audio thread rests. -/
theorem readLatest
    (coherent : HandoffCoherent factory log system main (.returned (audioSide, reports)) restore published)
    (room : 2 * published.version + 2 ≤ 2 ^ 32) :
    (CalibrationBankTransport.readLatest fun register => system.memory (.published, register)) =
      some (snapshotOfWords published.contents) := by
  have free : published.held = false := coherent.audioKeeps.held
  obtain ⟨number, body, -⟩ := coherent.audioKeeps.shows
  have even : published.number 32 &&& 1 = 0 := by
    rw [and_one_iff, SequenceLock.odd_number (by decide), free]
  have positive : published.number 32 ≠ 0 := by
    have publications := coherent.meaning.publications
    intro none
    have value := congrArg BitVec.toNat none
    rw [SequenceLock.number, free, BitVec.toNat_ofNat, Nat.mod_eq_of_lt] at value
    · simp only [Bool.toNat_false, Nat.add_zero] at value
      change 2 * published.version = 0 at value
      omega
    · simp only [Bool.toNat_false]
      omega
  have words : ∀ register, register ≠ .sequence →
      system.memory (.published, register) = published.contents register := fun register other => by
    rw [← body free, bodyOf_of_ne other]
  rw [CalibrationBankTransport.readLatest_eq _ (number ▸ even), number, if_neg positive]
  unfold snapshotOfWords unpackBank
  simp only [words .generation (by simp), words .calibratedMask (by simp),
    fun string fret part => words (.word string fret part) (by simp)]

/-- The component is activated while both threads rest. -/
theorem activate {others : List HandoffReport}
    (coherent : HandoffCoherent factory log system (.returned (mainSide, others))
      (.returned (audioSide, reports)) restore published)
    (room : 2 * published.version + 2 ≤ 2 ^ 32) (configured : Bool) :
    (system.activate mainSide audioSide configured).2 = [] ∧
      ∃ nextMain nextAudio, HandoffCoherent factory log
        (system.activate mainSide audioSide configured).1 (.returned nextMain) nextAudio restore
        published := by
  have adopted := coherent.meaning.adopted coherent.meaning.mainFits
    (some (snapshotOfWords published.contents)) fun snapshot same => (Option.some.inj same).symm
  have adopting : ∀ active, HandoffCoherent factory log { system with
      active, main := .done (mainSide.adopted (some (snapshotOfWords published.contents)), []) }
      (.returned (mainSide.adopted (some (snapshotOfWords published.contents)), []))
      (.returned (audioSide, reports)) restore published := fun _ =>
    coherent.main_goes rfl rfl rfl rfl rfl trivial adopted
  obtain ⟨settled, known, applied⟩ : audioSide.Fits (handoffSpec factory log) :=
    coherent.meaning.audioFits
  unfold HandoffSystem.activate
  rw [coherent.readLatest room]
  cases configured with
  | false => exact ⟨rfl, _, _, adopting system.active⟩
  | true =>
      have fits : ({ audioSide with
          calibrator := audioSide.calibrator.setBank
            (mainSide.adopted (some (snapshotOfWords published.contents))).bank
          } : AudioSide).Fits (handoffSpec factory log) :=
        ⟨fun complete => settled ((AudioSide.phase_setBank _ _).symm.trans complete), known, applied⟩
      obtain ⟨quiet, nextAudio, goes⟩ := (adopting true).reset _ rfl rfl fits
      exact ⟨quiet, _, nextAudio, goes⟩

/-- Only the memory and the two programs matter. -/
theorem congr (coherent : HandoffCoherent factory log system main audio restore published)
    (memory : later.memory = system.memory) (sameMain : later.main = system.main)
    (sameAudio : later.audio = system.audio) :
    HandoffCoherent factory log later main audio restore published :=
  ⟨sameMain ▸ coherent.mainFollows, sameAudio ▸ coherent.audioFollows,
    memory ▸ coherent.mainKeeps, memory ▸ coherent.audioKeeps, memory ▸ coherent.generation,
    coherent.meaning⟩

end Calls

/-- The main thread is where it was, or rests as before. -/
def SameMain (before after : HandoffView MainSide) : Prop :=
  after = before ∨ ∃ first second, before = returned first ∧ after = returned second

/-- An event that neither calls the main thread nor makes an access reports nothing and
leaves the transports alone. -/
theorem quiet (coherent : HandoffCoherent factory log system main audio restore published)
    (room : 2 * published.version + 2 ≤ 2 ^ 32) {event : HandoffEvent}
    (silent : event.silent = true) :
    (system.step factory event).2 = [] ∧ ∃ nextMain nextAudio, SameMain main nextMain ∧
      HandoffCoherent factory log (system.step factory event).1 nextMain nextAudio restore published := by
  have idle : ∀ later : HandoffSystem, later.memory = system.memory → later.main = system.main →
      later.audio = system.audio → ∃ nextMain nextAudio, SameMain main nextMain ∧
        HandoffCoherent factory log later nextMain nextAudio restore published :=
    fun later memory sameMain sameAudio =>
      ⟨main, audio, .inl rfl, coherent.congr memory sameMain sameAudio⟩
  cases event with
  | main | mainStep | audioStep => exact absurd silent Bool.false_ne_true
  | request command => exact ⟨rfl, idle _ rfl rfl rfl⟩
  | audio call =>
      cases program : system.audio with
      | act action rest =>
          have goes : system.step factory (.audio call) = (system, []) := by
            simp only [HandoffSystem.step, program]
          rw [goes]
          exact ⟨rfl, idle _ rfl rfl rfl⟩
      | done outcome =>
          obtain rfl := returned_of_done coherent.audioFollows program
          have goes : system.step factory (.audio call) =
              if system.processing then system.callAudio factory outcome.1 call
              else (system, []) := by
            simp only [HandoffSystem.step, program]
          rw [goes]
          split_ifs
          · obtain ⟨quiet, nextAudio, called⟩ := coherent.callAudio call
            exact ⟨quiet, main, nextAudio, .inl rfl, called⟩
          · exact ⟨rfl, idle _ rfl rfl rfl⟩
  | setActive state configured =>
      cases mainProgram : system.main with
      | act action rest =>
          have goes : system.step factory (.setActive state configured) = (system, []) := by
            simp only [HandoffSystem.step, mainProgram]
          rw [goes]
          exact ⟨rfl, idle _ rfl rfl rfl⟩
      | done mainOutcome =>
          cases audioProgram : system.audio with
          | act action rest =>
              have goes : system.step factory (.setActive state configured) = (system, []) := by
                simp only [HandoffSystem.step, mainProgram, audioProgram]
              rw [goes]
              exact ⟨rfl, idle _ rfl rfl rfl⟩
          | done audioOutcome =>
              obtain rfl := returned_of_done coherent.mainFollows mainProgram
              obtain rfl := returned_of_done coherent.audioFollows audioProgram
              have goes : system.step factory (.setActive state configured) =
                  if state ∧ system.active = false then
                    system.activate mainOutcome.1 audioOutcome.1 configured
                  else if ¬state ∧ system.processing = false then
                    ({ system with active := false }, [])
                  else (system, []) := by
                simp only [HandoffSystem.step, mainProgram, audioProgram]
              rw [goes]
              split_ifs
              · obtain ⟨quiet, nextMain, nextAudio, activated⟩ := coherent.activate room configured
                exact ⟨quiet, _, nextAudio, .inr ⟨_, _, rfl, rfl⟩, activated⟩
              · exact ⟨rfl, idle _ rfl rfl rfl⟩
              · exact ⟨rfl, idle _ rfl rfl rfl⟩
  | setProcessing state =>
      cases mainProgram : system.main with
      | act action rest =>
          have goes : system.step factory (.setProcessing state) = (system, []) := by
            simp only [HandoffSystem.step, mainProgram]
          rw [goes]
          exact ⟨rfl, idle _ rfl rfl rfl⟩
      | done mainOutcome =>
          cases audioProgram : system.audio with
          | act action rest =>
              have goes : system.step factory (.setProcessing state) = (system, []) := by
                simp only [HandoffSystem.step, mainProgram, audioProgram]
              rw [goes]
              exact ⟨rfl, idle _ rfl rfl rfl⟩
          | done audioOutcome =>
              obtain rfl := returned_of_done coherent.audioFollows audioProgram
              have goes : system.step factory (.setProcessing state) =
                  if system.active ∧ system.processing ≠ state then
                    { system with processing := state }.reset audioOutcome.1
                  else (system, []) := by
                simp only [HandoffSystem.step, mainProgram, audioProgram]
              rw [goes]
              split_ifs
              · obtain ⟨quiet, nextAudio, again⟩ :=
                  coherent.reset { system with processing := state } rfl rfl
                    coherent.meaning.audioFits
                exact ⟨quiet, main, nextAudio, .inl rfl, again⟩
              · exact ⟨rfl, idle _ rfl rfl rfl⟩

/-- The outcome of an event is coherent, for some views and locks. -/
def Reaches (factory : StringCalibrationBank) (log : List HandoffReport)
    (outcome : HandoffSystem × List HandoffReport) : Prop :=
  ∃ main audio restore published,
    HandoffCoherent factory (log ++ outcome.2) outcome.1 main audio restore published

/-- What changes neither the system nor the log reaches what it has reached. -/
theorem idle (coherent : HandoffCoherent factory log system main audio restore published) :
    Reaches factory log (system, []) := by
  refine ⟨main, audio, restore, published, ?_⟩
  rw [List.append_nil]
  exact coherent

/-- One event, with restores and publications to spare. The cases are those of the events, and of
the party that takes its step. -/
theorem step (coherent : HandoffCoherent factory log system main audio restore published)
    (event : HandoffEvent)
    (few : (log ++ (system.step factory event).2).countP HandoffReport.restores < 2 ^ 32)
    (room : 2 * published.version + 2 ≤ 2 ^ 32) :
    Reaches factory log (system.step factory event) := by
  by_cases silent : event.silent = true
  · obtain ⟨quiet, nextMain, nextAudio, -, goes⟩ := coherent.quiet room silent
    unfold Reaches
    rw [quiet, List.append_nil]
    exact ⟨nextMain, nextAudio, restore, published, goes⟩
  cases event with
  | main call =>
      cases program : system.main with
      | act action rest =>
          have goes : system.step factory (.main call) = (system, []) := by
            simp only [HandoffSystem.step, program]
          rw [goes]
          exact coherent.idle
      | done outcome =>
          obtain ⟨side, reports⟩ := outcome
          obtain rfl := returned_of_done coherent.mainFollows program
          have goes : system.step factory (.main call) = system.callMain factory side call := by
            simp only [HandoffSystem.step, program]
          rw [goes] at few ⊢
          have started : ∀ overrides, call = .setState overrides →
              (handoffSpec factory log).restores + 1 < 2 ^ 32 := by
            rintro overrides rfl
            have first : 0 < (system.callMain factory side (.setState overrides)).2.countP
                HandoffReport.restores :=
              List.countP_pos_iff.mpr ⟨_, List.mem_cons_self .., rfl⟩
            rw [List.countP_append] at few
            rw [handoffSpec_restores]
            omega
          obtain ⟨nextMain, called⟩ := coherent.callMain call started
          exact ⟨_, _, _, _, called⟩
  | mainStep =>
      cases program : system.main with
      | act action rest =>
          obtain ⟨-, after, -, next⟩ := coherent.mainStep room program
          exact ⟨_, _, _, _, next⟩
      | done outcome =>
          have goes : system.step factory .mainStep = (system, []) := by
            simp only [HandoffSystem.step, program]
          rw [goes]
          exact coherent.idle
  | audioStep =>
      cases program : system.audio with
      | act action rest =>
          obtain ⟨-, after, -, next⟩ := coherent.audioStep program
          exact ⟨_, _, _, _, next⟩
      | done outcome =>
          have goes : system.step factory .audioStep = (system, []) := by
            simp only [HandoffSystem.step, program]
          rw [goes]
          exact coherent.idle
  | _ => exact absurd rfl silent

/-- The system as it starts. Nothing has been restored or published, and both threads are idle. -/
theorem start (factory : StringCalibrationBank) :
    HandoffCoherent factory [] (HandoffSystem.start factory) (.returned ({ bank := factory }, []))
      (.returned ({}, [])) { contents := fun _ => 0 }
      { version := 1, contents := CalibrationBankSnapshot.words { bank := factory } } := by
  have published : Shows .published (HandoffSystem.start factory).memory
      { version := 1, contents := CalibrationBankSnapshot.words { bank := factory } } := by
    refine ⟨?_, fun _ => funext fun register => ?_, rfl⟩
    · change CalibrationBankTransport.reset.publish factory 0 .sequence = _
      rw [CalibrationBankTransport.publish_eq]
      rfl
    · by_cases sequence : register = .sequence
      · subst sequence
        exact bodyOf_sequence
      · rw [bodyOf_of_ne sequence]
        change CalibrationBankTransport.reset.publish factory 0 register = _
        rw [CalibrationBankTransport.publish_eq]
        cases register with
        | sequence => exact absurd rfl sequence
        | _ => rfl
  have restore : Shows .restore (HandoffSystem.start factory).memory { contents := fun _ => 0 } := by
    refine ⟨rfl, fun _ => funext fun register => ?_, rfl⟩
    by_cases sequence : register = .sequence
    · subst sequence
      exact bodyOf_sequence
    · exact bodyOf_of_ne sequence
  refine ⟨rfl, rfl, ⟨restore, rfl, trivial⟩, ⟨published, rfl, trivial⟩, ⟨0, le_rfl, rfl⟩, ?_⟩
  refine ⟨⟨rfl, rfl, .inl rfl⟩, ⟨(fun contrary => nomatch contrary), ⟨0, le_rfl, rfl⟩,
    iff_of_true rfl rfl⟩, .inl rfl, ⟨{ bank := factory }, rfl, ⟨0, le_rfl, rfl⟩, fun _ => rfl,
    fun _ => rfl⟩, rfl, rfl, fun early report late split => ?_⟩
  exact absurd split (by simp)

/-- Along every run with restores and publications to spare. -/
theorem run (factory : StringCalibrationBank) (events : List HandoffEvent)
    (few : ((HandoffSystem.machine factory).run (HandoffSystem.start factory) events).2.countP
      HandoffReport.restores < 2 ^ 32)
    (room : ((HandoffSystem.machine factory).run (HandoffSystem.start factory) events).2.countP
      HandoffReport.publishes + 2 ≤ 2 ^ 31) :
    ∃ main audio restore published, HandoffCoherent factory
      ((HandoffSystem.machine factory).run (HandoffSystem.start factory) events).2
      ((HandoffSystem.machine factory).run (HandoffSystem.start factory) events).1 main audio
      restore published := by
  induction events using List.reverseRecOn with
  | nil => exact ⟨_, _, _, _, start factory⟩
  | append_singleton events event ih =>
      rw [(HandoffSystem.machine factory).run_concat] at few room ⊢
      have earlier := few
      have before := room
      rw [List.countP_append] at earlier before
      obtain ⟨main, audio, restore, published, coherent⟩ := ih (by omega) (by omega)
      have publications := coherent.meaning.publications
      exact coherent.step event few (by omega)

end HandoffCoherent

end M3Midi
