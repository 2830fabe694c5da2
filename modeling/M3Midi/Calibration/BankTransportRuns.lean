import M3Midi.Calibration.BankTransport
import M3Midi.Foundation.LockedRegistersRuns

/-! # Runs of the calibration bank transport

The bank transport is under a sequence, so that its readers get what was published last
in every interleaving. The generation that they get with a bank is the one its publisher
has chosen.
-/

namespace M3Midi

open Foundation

/-- The bank transport as registers under a sequence. -/
def bankTransport :
    LockedRegisters TransportRegister (StringCalibrationBank × BitVec 32) CalibrationBankSnapshot
      32 where
  sequence := .sequence
  write publication := TransportProgram.publish publication.1 publication.2
  copy := do
    let generation ← RegisterProgram.load .generation
    let mask ← RegisterProgram.load .calibratedMask
    let words ← RegisterProgram.loadAll bankRegisters fun _ => 0
    pure { bank := unpackBank mask words, generation }
  attempts := transportReadAttempts

/-- What a reader gets after some publications. -/
def CalibrationBankSnapshot.published (publications : List (StringCalibrationBank × BitVec 32)) :
    CalibrationBankSnapshot :=
  match publications.getLast? with
  | none => {}
  | some (bank, generation) => { bank := transported bank, generation }

section Programs

open RegisterProgram LockedRegisters

/-- A reader of the transport makes the attempts of a reader under a sequence. -/
theorem attemptsLeft_bankTransport (attempts : Nat) :
    bankTransport.attemptsLeft attempts = TransportProgram.readAttempts attempts := by
  induction attempts with
  | zero => rfl
  | succ attempts ih =>
      rw [attemptsLeft, TransportProgram.readAttempts, ih]
      refine congrArg (load TransportRegister.sequence >>= ·) (funext fun before => ?_)
      split_ifs
      · rfl
      · simp only [bankTransport, Program.bind_assoc]
        rfl

/-- The stores of `publish` that are made under an odd sequence. -/
def bankStores (bank : StringCalibrationBank) (generation : BitVec 32) :
    RegisterProgram TransportRegister (BitVec 32) Unit := do
  store .calibratedMask (bank.calibratedStringMask.setWidth 32)
  storeAll (bankWord bank) bankRegisters
  store .generation generation

/-- A publication stores the bank under the lock. -/
theorem publish_eq_locking (bank : StringCalibrationBank) (generation : BitVec 32) :
    TransportProgram.publish bank generation = locking .sequence (bankStores bank generation) := by
  rw [TransportProgram.publish, locking]
  simp only [bankStores, Program.bind_assoc]

/-- The stores of a bank spare the sequence. -/
theorem sparesSequence_bankStores (bank : StringCalibrationBank) (generation : BitVec 32) :
    SparesSequence .sequence (bankStores bank generation) := by
  have spares : SparesSequence TransportRegister.sequence
      (storeAll (bankWord bank) bankRegisters) := by
    refine sparesSequence_storeAll ?_ _
    rintro register member rfl
    obtain ⟨string, fret, part, impossible⟩ := (mem_bankRegisters _).mp member
    cases impossible
  exact ⟨nofun, spares.bind fun _ => ⟨nofun, trivial⟩⟩

/-- The transport keeps the discipline of the lock. -/
theorem disciplined_bankTransport : bankTransport.Disciplined where
  positive := by norm_num
  orderly publication transport even := by
    change Orderly .sequence false transport
      (TransportProgram.publish publication.1 publication.2)
    rw [publish_eq_locking]
    exact orderly_locking even (sparesSequence_bankStores _ _)
  loads := by
    refine ⟨nofun, fun generation => ⟨nofun, fun mask => ?_⟩⟩
    refine (loads_loadAll ?_ _).bind fun words => trivial
    rintro register member rfl
    obtain ⟨string, fret, part, impossible⟩ := (mem_bankRegisters _).mp member
    cases impossible

/-- What the lock shows of a memory is the bank of its words, with its generation. -/
theorem shown_bankTransport (transport : CalibrationBankTransport) :
    bankTransport.shown transport =
      { bank := unpackBank (transport .calibratedMask) transport
        generation := transport .generation } := by
  have words : unpackBank (transport .calibratedMask)
      (fun register => if register ∈ bankRegisters then transport register else 0) =
        unpackBank (transport .calibratedMask) transport := by
    simp [unpackBank, mem_bankRegisters]
  rw [shown, bankTransport, run_load_bind, run_load_bind, Program.run_bind, run_loadAll,
    Program.run_pure, words]

/-- A write of the transport is its `publish`. -/
theorem run_write_bankTransport (publication : StringCalibrationBank × BitVec 32)
    (transport : CalibrationBankTransport) :
    ((bankTransport.write publication).run access transport).2 =
      transport.publish publication.1 publication.2 := by
  unfold CalibrationBankTransport.publish
  rfl

/-- After each publication the registers show its bank. -/
theorem shown_after_bankTransport (publications : List (StringCalibrationBank × BitVec 32)) :
    bankTransport.shown (bankTransport.after (fun _ => 0) publications) =
      CalibrationBankSnapshot.published publications := by
  rw [shown_bankTransport]
  induction publications using List.reverseRecOn with
  | nil =>
      have empty : ∀ part, (0 : BitVec 32) = pointWord {} part := by decide
      exact congrArg (fun bank => ({ bank } : CalibrationBankSnapshot))
        (@unpackBank_words {} (fun _ => 0) fun _ _ => empty)
  | append_singleton earlier publication _ =>
      rw [after_concat, run_write_bankTransport, CalibrationBankTransport.publish_eq]
      dsimp only
      rw [unpackBank_words fun _ _ _ => rfl, CalibrationBankSnapshot.published,
        List.getLast?_concat]

end Programs

section Runs

open RegisterProgram LockedRegisters

/-- Every publication raises the sequence by two. -/
theorem sequence_after_bankTransport (publications : List (StringCalibrationBank × BitVec 32)) :
    bankTransport.after (fun _ => 0) publications .sequence =
      BitVec.ofNat 32 (2 * publications.length) := by
  induction publications using List.reverseRecOn with
  | nil => rfl
  | append_singleton earlier publication ih =>
      have even : BitVec.ofNat 32 (2 * earlier.length) &&& 1 = 0 :=
        ofNat_and_one (by norm_num) (Nat.mul_mod_right 2 _)
      rw [after_concat, run_write_bankTransport, CalibrationBankTransport.publish_eq]
      dsimp only
      rw [CalibrationBankTransport.nextSequence, ih, or_one_of_even even, BitVec.add_assoc,
        List.length_append, Nat.mul_add, BitVec.ofNat_add]
      rfl

/-- What readers get of the bank transport in any interleaving: what was published last,
and never two banks with one generation unless they have been published so. -/
theorem bank_reads {Reader : Type} [DecidableEq Reader]
    {events : List (Event (StringCalibrationBank × BitVec 32) Reader)}
    (window : bankTransport.machine.Meets InWindow (.start fun _ => 0) events) :
    SeesInOrder CalibrationBankSnapshot.published
        (bankTransport.machine.run (.start fun _ => 0) events).2 ∧
      ((∀ first ∈ writesOf (bankTransport.machine.run (.start fun _ => 0) events).2,
          ∀ second ∈ writesOf (bankTransport.machine.run (.start fun _ => 0) events).2,
          first.2 = second.2 → transported first.1 = transported second.1) →
        Identifies CalibrationBankSnapshot.generation
          (bankTransport.machine.run (.start fun _ => 0) events).2) := by
  have sees := run_seesInOrder disciplined_bankTransport rfl shown_after_bankTransport window
  refine ⟨sees, fun told => sees.identifies fun earlier later present some same => ?_⟩
  obtain ⟨before, first, rfl⟩ := (List.eq_nil_or_concat' earlier).resolve_left some
  rcases List.eq_nil_or_concat' later with rfl | ⟨between, second, rfl⟩
  · rw [List.append_nil]
  · rw [← List.append_assoc] at present same ⊢
    simp only [CalibrationBankSnapshot.published, List.getLast?_concat] at same ⊢
    have banks := told first (present.subset (by simp)) second (present.subset (by simp)) same
    rw [banks, same]

end Runs

end M3Midi
