import M3Midi.Calibration.Bank
import M3Midi.Foundation.AtomicRegisters
import Mathlib.Tactic.FinCases

/-! # The calibration bank transport

A bank travels between the threads as five words a point, under a sequence word
that is odd while a writer is at work. The words hold a point's offset, confidence,
observation count, quality and harmonic profile. They do not hold its partial
detunings, so that a reader obtains the bank with all detunings cleared.
-/

namespace M3Midi

open Foundation

/-- Words a point is packed into (`kWordsPerPoint`). -/
abbrev wordsPerPoint : Nat := 5

/-- Attempts a reader makes (`kReadAttempts`). -/
def transportReadAttempts : Nat := 3

/-- The registers of the transport: the sequence that locks them, and the words of a bank. -/
inductive TransportRegister
  | sequence
  | generation
  | calibratedMask
  | word (string : Fin maxVoices) (fret : Fin calibrationFretCount) (part : Fin wordsPerPoint)
  deriving DecidableEq

/-- The words of all registers at one moment. -/
abbrev CalibrationBankTransport := TransportRegister → BitVec 32

/-- `CalibrationBankSnapshot`, a bank with the generation it was published under. -/
structure CalibrationBankSnapshot where
  bank : StringCalibrationBank := {}
  generation : BitVec 32 := 0
  deriving DecidableEq

/-- `pair_u16`: two halves in one word. -/
def pairU16 (low high : BitVec 16) : BitVec 32 := low.setWidth 32 ||| (high.setWidth 32 <<< 16)

/-- `low_u16` -/
def lowU16 (word : BitVec 32) : BitVec 16 := word.setWidth 16

/-- `high_u16` -/
def highU16 (word : BitVec 32) : BitVec 16 := (word >>> 16).setWidth 16

/-- The words of a point; its partial detunings are not among them. -/
def pointWord (point : StringCalibrationPoint) : Fin wordsPerPoint → BitVec 32
  | 0 => pairU16 point.centsOffsetQ8 point.confidenceQ15
  | 1 => point.observationCount.setWidth 32 ||| (BitVec.ofNat 32 point.quality.toNat <<< 16)
  | 2 => pairU16 (point.harmonicProfileQ15 0) (point.harmonicProfileQ15 1)
  | 3 => pairU16 (point.harmonicProfileQ15 2) (point.harmonicProfileQ15 3)
  | 4 => pairU16 (point.harmonicProfileQ15 4) (point.harmonicProfileQ15 5)

/-- The point a reader assembles from its words. Detunings are not among the words, so that the
point has none. -/
def unpackPoint (words : Fin wordsPerPoint → BitVec 32) : StringCalibrationPoint where
  centsOffsetQ8 := lowU16 (words 0)
  confidenceQ15 := highU16 (words 0)
  observationCount := lowU16 (words 1)
  quality := (CalibrationPointQuality.ofNat? ((words 1 >>> 16) &&& 0xFF).toNat).getD .missing
  harmonicProfileQ15
    | 0 => lowU16 (words 2)
    | 1 => highU16 (words 2)
    | 2 => lowU16 (words 3)
    | 3 => highU16 (words 3)
    | 4 => lowU16 (words 4)
    | 5 => highU16 (words 4)

/-- The words of all points, by string and fret. -/
def bankRegisters : List TransportRegister :=
  (List.finRange maxVoices).flatMap fun string =>
    (List.finRange calibrationFretCount).flatMap fun fret =>
      (List.finRange wordsPerPoint).map fun part => .word string fret part

/-- What `publish` stores in each register of a bank. -/
def bankWord (bank : StringCalibrationBank) : TransportRegister → BitVec 32
  | .word string fret part => pointWord (bank.points string fret) part
  | _ => 0

/-- The bank that is read from the words. A quality that does not exist is read as missing. -/
def unpackBank (mask : BitVec 32) (words : TransportRegister → BitVec 32) :
    StringCalibrationBank where
  points string fret := unpackPoint fun part => words (.word string fret part)
  calibratedStringMask := (mask &&& 0xFF).setWidth 8

namespace TransportProgram

open RegisterProgram

/-- `publish`: the sequence is odd while the words are stored. -/
def publish (bank : StringCalibrationBank) (generation : BitVec 32) :
    RegisterProgram TransportRegister (BitVec 32) Unit := do
  let before ← load .sequence
  let writing := before ||| 1
  store .sequence writing
  store .calibratedMask (bank.calibratedStringMask.setWidth 32)
  storeAll (bankWord bank) bankRegisters
  store .generation generation
  store .sequence (writing + 1)

/-- The attempts of `read_latest` that remain. A sequence of zero, or an odd one,
fails an attempt, and so does one that has changed meanwhile. -/
def readAttempts :
    Nat → RegisterProgram TransportRegister (BitVec 32) (Option CalibrationBankSnapshot)
  | 0 => pure none
  | attempts + 1 => do
      let before ← load .sequence
      if before = 0 ∨ before &&& 1 ≠ 0 then readAttempts attempts
      else
        let generation ← load .generation
        let mask ← load .calibratedMask
        let words ← loadAll bankRegisters fun _ => 0
        let after ← load .sequence
        if before = after ∧ after &&& 1 = 0 then
          pure (some { bank := unpackBank mask words, generation })
        else readAttempts attempts

end TransportProgram

namespace CalibrationBankTransport

open RegisterProgram

/-- `reset`: all words are zero, and no bank has been published. -/
def reset : CalibrationBankTransport := fun _ => 0

/-- `publish` without a concurrent reader or writer. -/
def publish (transport : CalibrationBankTransport) (bank : StringCalibrationBank)
    (generation : BitVec 32) : CalibrationBankTransport :=
  ((TransportProgram.publish bank generation).run access transport).2

/-- `read_latest` without a concurrent writer. -/
def readLatest (transport : CalibrationBankTransport) : Option CalibrationBankSnapshot :=
  ((TransportProgram.readAttempts transportReadAttempts).run access transport).1

end CalibrationBankTransport

section Words

/-- A pair of halves is taken apart again. -/
@[simp] theorem lowU16_pairU16 (low high : BitVec 16) : lowU16 (pairU16 low high) = low := by
  refine BitVec.eq_of_getLsbD_eq fun bit inside => ?_
  simp [lowU16, pairU16, inside]

/-- The upper half comes out by a shift. -/
theorem pairU16_shift (low high : BitVec 16) : pairU16 low high >>> 16 = high.setWidth 32 := by
  refine BitVec.eq_of_getLsbD_eq fun bit inside => ?_
  by_cases upper : 16 + bit < 32
  · simp [pairU16, upper, inside]
  · have outside : 16 ≤ bit := by omega
    simp [pairU16, upper, BitVec.getLsbD_of_ge high bit outside]

@[simp] theorem highU16_pairU16 (low high : BitVec 16) : highU16 (pairU16 low high) = high := by
  rw [highU16, pairU16_shift]
  simp

/-- The second word of a point is a pair as well. -/
theorem pointWord_quality (point : StringCalibrationPoint) :
    pointWord point 1 =
      pairU16 point.observationCount (BitVec.ofNat 16 point.quality.toNat) := by
  cases quality : point.quality <;> simp [pointWord, pairU16, quality, CalibrationPointQuality.toNat]

/-- The quality of a point is read back from its second word. -/
theorem quality_read (point : StringCalibrationPoint) :
    CalibrationPointQuality.ofNat? ((pointWord point 1 >>> 16) &&& 0xFF).toNat =
      some point.quality := by
  rw [pointWord_quality, pairU16_shift]
  cases point.quality <;> rfl

end Words

/-- The point without its partial detunings. -/
def withoutDetunings (point : StringCalibrationPoint) : StringCalibrationPoint :=
  { point with partialDetuningQ8 := fun _ => 0, partialDetuningValidMask := 0 }

/-- The bank a reader obtains. -/
def transported (bank : StringCalibrationBank) : StringCalibrationBank :=
  { bank with points := fun string fret => withoutDetunings (bank.points string fret) }

/-- A point is read back from its words, except for the detunings, which are not among them. -/
theorem unpackPoint_pointWord (point : StringCalibrationPoint) :
    unpackPoint (pointWord point) = withoutDetunings point := by
  have profile : (unpackPoint (pointWord point)).harmonicProfileQ15 = point.harmonicProfileQ15 := by
    funext harmonic
    fin_cases harmonic
    · exact lowU16_pairU16 _ _
    · exact highU16_pairU16 _ _
    · exact lowU16_pairU16 _ _
    · exact highU16_pairU16 _ _
    · exact lowU16_pairU16 _ _
    · exact highU16_pairU16 _ _
  have count : (unpackPoint (pointWord point)).observationCount = point.observationCount := by
    change lowU16 (pointWord point 1) = _
    rw [pointWord_quality, lowU16_pairU16]
  have quality : (unpackPoint (pointWord point)).quality = point.quality := by
    change (CalibrationPointQuality.ofNat? _).getD _ = _
    rw [quality_read, Option.getD_some]
  have cents : (unpackPoint (pointWord point)).centsOffsetQ8 = point.centsOffsetQ8 :=
    lowU16_pairU16 _ _
  have confidence : (unpackPoint (pointWord point)).confidenceQ15 = point.confidenceQ15 :=
    highU16_pairU16 _ _
  exact StringCalibrationPoint.mk.injEq .. |>.mpr
    ⟨cents, profile, rfl, rfl, confidence, count, quality⟩

/-- A reader that finds a bank's words obtains the bank without its detunings. -/
theorem unpackBank_words {bank : StringCalibrationBank} {words : TransportRegister → BitVec 32}
    (found : ∀ string fret part,
      words (.word string fret part) = pointWord (bank.points string fret) part) :
    unpackBank (bank.calibratedStringMask.setWidth 32) words = transported bank := by
  have mask : ((bank.calibratedStringMask.setWidth 32) &&& 0xFF).setWidth 8 =
      bank.calibratedStringMask := by
    refine BitVec.eq_of_toNat_eq ?_
    have small := bank.calibratedStringMask.isLt
    rw [BitVec.toNat_setWidth, BitVec.toNat_and, BitVec.toNat_setWidth,
      show (0xFF : BitVec 32).toNat = 2 ^ 8 - 1 from rfl, Nat.and_two_pow_sub_one_eq_mod]
    omega
  simp only [unpackBank, found, unpackPoint_pointWord, mask]
  rfl

/-- The registers of a bank are those of the words of its points. -/
theorem mem_bankRegisters (register : TransportRegister) :
    register ∈ bankRegisters ↔ ∃ string fret part, register = .word string fret part := by
  simp [bankRegisters, eq_comm]

namespace CalibrationBankTransport

open RegisterProgram

/-- The sequence after a publish that starts from a given one. -/
def nextSequence (before : BitVec 32) : BitVec 32 := (before ||| 1) + 1

/-- Whatever the sequence was before, it is even after a publication. -/
theorem nextSequence_even (before : BitVec 32) : nextSequence before &&& 1 = 0 := by
  refine BitVec.eq_of_toNat_eq ?_
  have odd : (before.toNat ||| 1) % 2 = 1 := by
    rw [Nat.or_mod_two_eq_one]
    exact .inr rfl
  have wide : (before.toNat ||| 1) < 2 ^ 32 := Nat.or_lt_two_pow before.isLt (by decide)
  have sum : (nextSequence before).toNat = ((before.toNat ||| 1) + 1) % 2 ^ 32 := rfl
  change (nextSequence before).toNat &&& 1 = 0
  rw [Nat.and_one_is_mod, sum]
  omega

/-- What the registers hold after a publish. -/
theorem publish_eq (transport : CalibrationBankTransport) (bank : StringCalibrationBank)
    (generation : BitVec 32) :
    transport.publish bank generation = fun
      | .sequence => nextSequence (transport .sequence)
      | .generation => generation
      | .calibratedMask => bank.calibratedStringMask.setWidth 32
      | .word string fret part => pointWord (bank.points string fret) part := by
  unfold publish TransportProgram.publish
  rw [run_load_bind, run_store_bind, run_store_bind, Program.run_bind, run_storeAll,
    run_store_bind]
  funext register
  change Function.update (Function.update _ _ _) _ _ register = _
  cases register with
  | sequence => simp [nextSequence]
  | generation => simp
  | calibratedMask => simp [mem_bankRegisters]
  | word string fret part => simp [mem_bankRegisters, bankWord]

/-- A transport to which nothing has been published gives no bank. -/
theorem run_readAttempts_unpublished {transport : CalibrationBankTransport}
    (unpublished : transport .sequence = 0) (attempts : Nat) :
    ((TransportProgram.readAttempts attempts).run access transport).1 = none := by
  induction attempts with
  | zero => rfl
  | succ attempts ih =>
      rw [TransportProgram.readAttempts, run_load_bind, if_pos (.inl unpublished)]
      exact ih

/-- Alone, a reader of a published transport succeeds at once; before the first
publish, and after one that brings the sequence back to zero, it fails. -/
theorem readLatest_eq (transport : CalibrationBankTransport)
    (even : transport .sequence &&& 1 = 0) :
    transport.readLatest =
      if transport .sequence = 0 then none
      else some { bank := unpackBank (transport .calibratedMask) transport
                  generation := transport .generation } := by
  unfold readLatest
  by_cases unpublished : transport .sequence = 0
  · rw [if_pos unpublished]
    exact run_readAttempts_unpublished unpublished _
  · have settled : ¬ (transport .sequence = 0 ∨ transport .sequence &&& 1 ≠ 0) := by
      rw [not_or, not_not]
      exact ⟨unpublished, even⟩
    rw [if_neg unpublished, transportReadAttempts, TransportProgram.readAttempts, run_load_bind,
      if_neg settled, run_load_bind, run_load_bind, Program.run_bind, run_loadAll, run_load_bind,
      if_pos ⟨rfl, even⟩, Program.run_pure]
    have words : unpackBank (transport .calibratedMask)
        (fun register => if register ∈ bankRegisters then transport register else 0) =
          unpackBank (transport .calibratedMask) transport := by
      simp [unpackBank, mem_bankRegisters]
    rw [words]

/-- **What a reader obtains.** After a publish a reader obtains the generation and
the bank without its partial detunings, unless the sequence has come back to zero. -/
theorem readLatest_publish (transport : CalibrationBankTransport) (bank : StringCalibrationBank)
    (generation : BitVec 32) :
    (transport.publish bank generation).readLatest =
      if nextSequence (transport .sequence) = 0 then none
      else some { bank := transported bank, generation } := by
  rw [publish_eq, readLatest_eq _ (nextSequence_even _)]
  dsimp only
  rw [unpackBank_words fun _ _ _ => rfl]

-- From here on the transport is known by what a reader obtains.
attribute [irreducible] publish readLatest

end CalibrationBankTransport

end M3Midi
