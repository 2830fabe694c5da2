import M3Midi.Detector.StringAssignment
import Mathlib.Data.Nat.Digits.Defs
import Mathlib.Data.Prod.Lex

/-! # What the assignment assigns

Where the selected candidates can have strings of their own beside the reserved ones, they
get the cheapest such strings, and of the cheapest those with the smallest word. Where they
cannot, every candidate keeps what it had (`M3Midi.StringAssigner.assignM3Strings_exact`).
-/

namespace M3Midi

open Foundation LaneMask ProposalTable

/-- There is at least one lane. -/
theorem maxVoices_pos : 0 < maxVoices := Nat.succ_pos 7

section Word

variable {strings : BitVec 32} {voice : ℕ} {string : Fin maxVoices}

/-- Three bits make an octal digit. -/
theorem two_pow_bits (voice : ℕ) : 2 ^ (voice * 3) = 8 ^ voice := by
  rw [Nat.mul_comm, Nat.pow_mul]

/-- A voice is added above the voices before. -/
theorem toNat_packString (bounded : voice < 8) (fits : strings.toNat < 8 ^ voice) :
    (packString voice string strings).toNat = strings.toNat + 8 ^ voice * (string : ℕ) := by
  obtain ⟨digit, digit_lt⟩ := string
  have string_le : digit ≤ 7 := Nat.lt_succ_iff.mp digit_lt
  have few : 8 ^ voice * digit < 2 ^ 32 := by
    have power : 8 ^ voice ≤ 8 ^ 7 := Nat.pow_le_pow_right (by omega) (by omega)
    have product : 8 ^ voice * digit ≤ 8 ^ 7 * 7 := Nat.mul_le_mul power string_le
    omega
  have shifted : (BitVec.ofNat 32 digit <<< (voice * 3)).toNat = digit <<< (voice * 3) := by
    have small : digit % 2 ^ 32 = digit := Nat.mod_eq_of_lt (by omega)
    rw [BitVec.toNat_shiftLeft, BitVec.toNat_ofNat, small, Nat.shiftLeft_eq, two_pow_bits,
      Nat.mul_comm, Nat.mod_eq_of_lt few]
  have low : strings &&& ~~~(7#32 <<< (voice * 3)) = strings := by
    refine BitVec.eq_of_getLsbD_eq fun bit inside => ?_
    rw [BitVec.getLsbD_and, BitVec.getLsbD_not, BitVec.getLsbD_shiftLeft]
    by_cases above : voice * 3 ≤ bit
    · have nothing : strings.getLsbD bit = false := by
        refine Nat.testBit_lt_two_pow (fits.trans_le ?_)
        rw [← two_pow_bits]
        exact Nat.pow_le_pow_right (by omega) above
      rw [nothing, Bool.false_and]
    · simp [inside, not_le.mp above]
  have room : strings.toNat < 2 ^ (voice * 3) := by rwa [two_pow_bits]
  unfold packString
  rw [low, BitVec.toNat_or, shifted, Nat.or_comm, ← Nat.shiftLeft_add_eq_or_of_lt room,
    Nat.shiftLeft_eq, two_pow_bits, Nat.mul_comm, Nat.add_comm]

/-- The string of a voice is a digit of the packed word. -/
theorem unpackString_val (strings : BitVec 32) (voice : ℕ) :
    (unpackString strings voice : ℕ) = strings.toNat / 8 ^ voice % 8 := by
  have low : (strings >>> (voice * 3) &&& 7#32).toNat = strings.toNat / 8 ^ voice % 8 := by
    rw [BitVec.toNat_and, BitVec.toNat_ushiftRight, Nat.shiftRight_eq_div_pow, two_pow_bits]
    exact Nat.and_two_pow_sub_one_eq_mod _ 3
  change (strings >>> (voice * 3) &&& 7#32).toNat % 8 = _
  rw [low, Nat.mod_mod]

end Word

namespace StringAssigner

variable (assigner : StringAssigner) (selected : Finset (Fin assigner.count))

/-- Candidates on strings of their own, on which they can be played and that are not reserved. -/
structure Assigns (candidates : Finset (Fin assigner.count))
    (string : Fin assigner.count → Fin maxVoices) : Prop where
  playable : ∀ candidate ∈ candidates,
    (assigner.playableStringMask candidate).getLsbD (string candidate) = true
  free : ∀ candidate ∈ candidates,
    (assigner.reservedStrings selected).getLsbD (string candidate) = false
  apart : ∀ first ∈ candidates, ∀ second ∈ candidates, string first = string second →
    first = second

/-- What the strings of the voices cost. -/
def totalCost (string : Fin assigner.count → Fin maxVoices) : ℚ :=
  ((assigner.voices selected).map fun candidate =>
    assigner.stringCost selected candidate (string candidate)).sum

/-- The word of the strings, three bits for a voice and the first voice lowest. -/
def packedStrings (string : Fin assigner.count → Fin maxVoices) : ℕ :=
  Nat.ofDigits 8 ((assigner.voices selected).map fun candidate => (string candidate : ℕ))

/-- The string of a voice. -/
def laneOf (string : Fin assigner.count → Fin maxVoices) (voice : ℕ) : Fin maxVoices :=
  (assigner.voices selected)[voice]?.elim ⟨0, maxVoices_pos⟩ string

section Voices

variable {assigner selected}

/-- No candidate is two of the voices. -/
theorem voices_nodup : (assigner.voices selected).Nodup :=
  ((List.nodup_finRange _).filter _).sublist (List.take_sublist _ _)

/-- There are no more voices than strings. -/
theorem voices_length : (assigner.voices selected).length ≤ maxVoices := by
  rw [voices, List.length_take]
  exact Nat.min_le_left _ _

/-- Candidates that can be assigned are all among the voices. -/
theorem voices_toFinset {string : Fin assigner.count → Fin maxVoices}
    (assigns : assigner.Assigns selected selected string) :
    (assigner.voices selected).toFinset = selected := by
  have few : selected.card ≤ maxVoices := by
    have bounded := Finset.card_le_card_of_injOn string (fun _ _ => Finset.mem_univ _)
      fun first here second there same => assigns.apart first here second there same
    rwa [Finset.card_univ, Fintype.card_fin] at bounded
  have listed : ((List.finRange assigner.count).filter fun candidate =>
      candidate ∈ selected).toFinset = selected := by
    ext candidate
    rw [List.mem_toFinset, List.mem_filter, decide_eq_true_eq]
    exact and_iff_right (List.mem_finRange candidate)
  have length : ((List.finRange assigner.count).filter fun candidate =>
      candidate ∈ selected).length ≤ maxVoices := by
    rw [← List.toFinset_card_of_nodup ((List.nodup_finRange _).filter _), listed]
    exact few
  rw [voices, List.take_of_length_le length, listed]

/-- The lane of a voice is the string of its candidate. -/
theorem laneOf_idxOf {string : Fin assigner.count → Fin maxVoices} {candidate : Fin assigner.count}
    (voice : candidate ∈ assigner.voices selected) :
    assigner.laneOf selected string ((assigner.voices selected).idxOf candidate) =
      string candidate := by
  rw [laneOf, List.getElem?_idxOf voice, Option.elim_some]

/-- Every voice has its candidate. -/
theorem exists_voice {voice : ℕ} (bounded : voice < (assigner.voices selected).length) :
    ∃ candidate ∈ assigner.voices selected,
      (assigner.voices selected)[voice]? = some candidate :=
  ⟨_, List.getElem_mem bounded, List.getElem?_eq_getElem bounded⟩

/-- The strings of the voices, one after the other. -/
theorem map_laneOf (string : Fin assigner.count → Fin maxVoices) :
    (List.range (assigner.voices selected).length).map (fun voice =>
      (assigner.laneOf selected string voice : ℕ)) =
        (assigner.voices selected).map fun candidate => (string candidate : ℕ) := by
  refine List.ext_getElem? fun voice => ?_
  rw [List.getElem?_map, List.getElem?_map]
  by_cases bounded : voice < (assigner.voices selected).length
  · obtain ⟨candidate, -, found⟩ := exists_voice bounded
    rw [List.getElem?_range bounded, found, Option.map_some, Option.map_some, laneOf, found,
      Option.elim_some]
  · rw [List.getElem?_eq_none (by rwa [List.length_range, ← not_lt]),
      List.getElem?_eq_none (not_lt.mp bounded)]
    rfl

end Voices

section Table

variable {assigner selected}

/-- The table of the assignment is lawful: a state that is better by cost and word stays better
when the same string is added to both. -/
theorem lawful : (assigner.table selected).Lawful {}
    (fun state : M3Assignment => toLex (state.cost, state.strings.toNat))
    fun voice state => state.strings.toNat < 8 ^ voice where
  better_iff state kept := by
    unfold table
    simp only [Bool.or_eq_true, Bool.and_eq_true, decide_eq_true_eq, Prod.Lex.toLex_lt_toLex,
      BitVec.lt_def]
  starts := Nat.one_pos
  extends_stage voice bounded string state fits := by
    change (packString voice string state.strings).toNat < 8 ^ (voice + 1)
    rw [toNat_packString bounded fits, Nat.pow_succ]
    have string_le : (string : ℕ) ≤ 7 := Nat.lt_succ_iff.mp string.isLt
    have product : 8 ^ voice * (string : ℕ) ≤ 8 ^ voice * 7 := Nat.mul_le_mul_left _ string_le
    omega
  extend_le voice bounded string state other fits fits' less := by
    rw [Prod.Lex.toLex_le_toLex] at less ⊢
    change _ + _ < _ + _ ∨ _ + _ = _ + _ ∧ (packString voice string state.strings).toNat ≤
      (packString voice string other.strings).toNat
    rw [toNat_packString bounded fits, toNat_packString bounded fits']
    rcases less with cheaper | ⟨same, smaller⟩
    · exact .inl (add_lt_add_left cheaper _)
    · exact .inr ⟨congrArg (· + _) same, Nat.add_le_add_right smaller _⟩

/-- Strings are octal digits. -/
theorem digits_lt {lane : ℕ → Fin maxVoices} {count : ℕ} :
    ∀ digit ∈ (List.range count).map fun voice => (lane voice : ℕ), digit < 8 := by
  intro digit member
  obtain ⟨voice, -, rfl⟩ := List.mem_map.mp member
  exact (lane voice).isLt

/-- The word of a state holds the strings of the voices. -/
theorem strings_stateOf {lane : ℕ → Fin maxVoices} {count : ℕ} (bounded : count ≤ 8) :
    ((assigner.table selected).stateOf {} lane count).strings.toNat =
      Nat.ofDigits 8 ((List.range count).map fun voice => (lane voice : ℕ)) := by
  induction count with
  | zero => rfl
  | succ count ih =>
      have before := ih (Nat.le_of_succ_le bounded)
      have fits : Nat.ofDigits 8 ((List.range count).map fun voice => (lane voice : ℕ)) <
          8 ^ ((List.range count).map fun voice => (lane voice : ℕ)).length :=
        Nat.ofDigits_lt_base_pow_length (by omega) digits_lt
      rw [List.length_map, List.length_range, ← before] at fits
      change (packString count (lane count) _).toNat = _
      rw [toNat_packString bounded fits, before, List.range_succ, List.map_append,
        Nat.ofDigits_append, List.length_map, List.length_range, List.map_singleton,
        Nat.ofDigits_singleton]

/-- The strings are read back from the word. -/
theorem unpackString_stateOf {lane : ℕ → Fin maxVoices} {count voice : ℕ} (bounded : count ≤ 8)
    (inside : voice < count) :
    unpackString ((assigner.table selected).stateOf {} lane count).strings voice = lane voice := by
  have here : voice < ((List.range count).map fun voice => (lane voice : ℕ)).length := by
    rwa [List.length_map, List.length_range]
  refine Fin.ext ?_
  rw [unpackString_val, strings_stateOf bounded,
    Nat.ofDigits_div_pow_eq_ofDigits_drop voice (by omega) _ digits_lt, List.drop_eq_getElem_cons here,
    Nat.ofDigits_cons, Nat.add_mul_mod_self_left, List.getElem_map, List.getElem_range]
  exact Nat.mod_eq_of_lt (lane voice).isLt

/-- The cost of a state is that of its strings. -/
theorem cost_stateOf (string : Fin assigner.count → Fin maxVoices) :
    ((assigner.table selected).stateOf {} (assigner.laneOf selected string)
      (assigner.voices selected).length).cost = assigner.totalCost selected string := by
  have add (count : ℕ) (bounded : count ≤ (assigner.voices selected).length) :
      ((assigner.table selected).stateOf {} (assigner.laneOf selected string) count).cost =
        (((assigner.voices selected).take count).map fun candidate =>
          assigner.stringCost selected candidate (string candidate)).sum := by
    induction count with
    | zero => rfl
    | succ count ih =>
        obtain ⟨candidate, -, found⟩ := exists_voice bounded
        have lane : assigner.laneOf selected string count = string candidate := by
          rw [laneOf, found, Option.elim_some]
        change _ + (assigner.voices selected)[count]?.elim 0 _ = _
        rw [ih (Nat.le_of_succ_le bounded), found, lane, Option.elim_some, List.take_add_one, found,
          List.map_append, List.sum_append, Option.toList_some, List.map_singleton,
          List.sum_singleton]
  rw [add _ le_rfl, List.take_length, totalCost]

end Table

section Exact

variable {assigner selected}

/-- Strings for the voices are lanes for the table. -/
theorem Assigns.lanes {string : Fin assigner.count → Fin maxVoices}
    (assigns : assigner.Assigns selected (assigner.voices selected).toFinset string) :
    (assigner.table selected).Assigns (assigner.reservedStrings selected)
      (assigner.voices selected).length (assigner.laneOf selected string) := by
  have lane_eq {voice : ℕ} {candidate : Fin assigner.count}
      (found : (assigner.voices selected)[voice]? = some candidate) :
      assigner.laneOf selected string voice = string candidate := by
    rw [laneOf, found, Option.elim_some]
  constructor
  · intro voice bounded
    obtain ⟨candidate, member, found⟩ := exists_voice bounded
    change _ ∈ LaneMask.lanes ((assigner.voices selected)[voice]?.elim 0 _)
    rw [lane_eq found, found]
    exact mem_lanes_iff_getLsbD.mpr (assigns.playable candidate (List.mem_toFinset.mpr member))
  · intro voice bounded reserved
    obtain ⟨candidate, member, found⟩ := exists_voice bounded
    rw [lane_eq found] at reserved
    refine Bool.eq_false_iff.mp (assigns.free candidate (List.mem_toFinset.mpr member)) ?_
    exact mem_lanes_iff_getLsbD.mp reserved
  · intro first here second there same
    obtain ⟨candidate, member, found⟩ := exists_voice here
    obtain ⟨other, member', found'⟩ := exists_voice there
    rw [lane_eq found, lane_eq found'] at same
    obtain rfl := assigns.apart candidate (List.mem_toFinset.mpr member) other
      (List.mem_toFinset.mpr member') same
    exact (List.getElem?_inj here voices_nodup).mp (found.trans found'.symm)

/-- Lanes of the table are strings for the voices. -/
theorem assigns_of_lanes {lane : ℕ → Fin maxVoices}
    (assigns : (assigner.table selected).Assigns (assigner.reservedStrings selected)
      (assigner.voices selected).length lane) :
    assigner.Assigns selected (assigner.voices selected).toFinset fun candidate =>
      lane ((assigner.voices selected).idxOf candidate) := by
  have inside {candidate : Fin assigner.count}
      (member : candidate ∈ (assigner.voices selected).toFinset) :
      (assigner.voices selected).idxOf candidate < (assigner.voices selected).length :=
    List.idxOf_lt_length_of_mem (List.mem_toFinset.mp member)
  constructor
  · intro candidate member
    have allowed : _ ∈ LaneMask.lanes ((assigner.voices selected)[
        (assigner.voices selected).idxOf candidate]?.elim 0 _) :=
      assigns.allowed _ (inside member)
    rw [List.getElem?_idxOf (List.mem_toFinset.mp member)] at allowed
    exact mem_lanes_iff_getLsbD.mp allowed
  · intro candidate member
    refine Bool.eq_false_iff.mpr fun reserved => ?_
    exact assigns.free _ (inside member) (mem_lanes_iff_getLsbD.mpr reserved)
  · intro first here second there same
    have equal := assigns.apart _ (inside here) _ (inside there) same
    exact (List.idxOf_inj (List.mem_toFinset.mp here)).mp equal

/-- The state of an assignment depends only on the strings of the voices. -/
theorem stateOf_lanes (lane : ℕ → Fin maxVoices) :
    (assigner.table selected).stateOf {} lane (assigner.voices selected).length =
      (assigner.table selected).stateOf {} (assigner.laneOf selected fun candidate =>
        lane ((assigner.voices selected).idxOf candidate)) (assigner.voices selected).length := by
  refine MaskAssignment.stateOf_congr fun voice bounded => ?_
  rw [laneOf, List.getElem?_eq_getElem bounded]
  exact congrArg lane (List.Nodup.idxOf_getElem voices_nodup _ bounded).symm

/-- What the cost and the word of an assignment are. -/
theorem worth_stateOf (string : Fin assigner.count → Fin maxVoices) :
    toLex (((assigner.table selected).stateOf {} (assigner.laneOf selected string)
        (assigner.voices selected).length).cost,
      ((assigner.table selected).stateOf {} (assigner.laneOf selected string)
        (assigner.voices selected).length).strings.toNat) =
      toLex (assigner.totalCost selected string, assigner.packedStrings selected string) := by
  rw [cost_stateOf, strings_stateOf voices_length, map_laneOf, packedStrings]

/-- The best assignment is a cheapest one with the smallest word, and there is none when the
voices cannot be assigned. -/
theorem bestAssignment_spec :
    (∃ string, assigner.Assigns selected (assigner.voices selected).toFinset string ∧
      assigner.bestAssignment selected = some ((assigner.table selected).stateOf {}
        (assigner.laneOf selected string) (assigner.voices selected).length) ∧
      ∀ other, assigner.Assigns selected (assigner.voices selected).toFinset other →
        toLex (assigner.totalCost selected string, assigner.packedStrings selected string) ≤
          toLex (assigner.totalCost selected other, assigner.packedStrings selected other)) ∨
    (∀ string, ¬assigner.Assigns selected (assigner.voices selected).toFinset string) ∧
      assigner.bestAssignment selected = none := by
  have : Nonempty (Fin maxVoices) := ⟨⟨0, maxVoices_pos⟩⟩
  rcases (@lawful assigner selected).solved_eq with ⟨lane, assigns, best, cheapest⟩ |
    ⟨impossible, none⟩
  · refine .inl ⟨_, assigns_of_lanes assigns, ?_, fun other assigned => ?_⟩
    · rw [← stateOf_lanes]
      exact best
    · have less := cheapest _ assigned.lanes
      rw [stateOf_lanes lane] at less
      rwa [worth_stateOf, worth_stateOf] at less
  · exact .inr ⟨fun string assigns => impossible _ assigns.lanes, none⟩

/-- Where the selected candidates can be assigned at all, each gets its string of a cheapest
assignment with the smallest word. Where the voices cannot, strings and lanes stay. -/
theorem assignM3Strings_exact :
    (∀ string, assigner.Assigns selected selected string →
      ∃ best, assigner.Assigns selected selected best ∧
        (∀ candidate ∈ selected,
          (assigner.assignM3Strings selected candidate).assignedString = some (best candidate)) ∧
        ∀ other, assigner.Assigns selected selected other →
          toLex (assigner.totalCost selected best, assigner.packedStrings selected best) ≤
            toLex (assigner.totalCost selected other, assigner.packedStrings selected other)) ∧
    ((¬∃ string, assigner.Assigns selected (assigner.voices selected).toFinset string) →
      ∀ candidate, (assigner.assignM3Strings selected candidate).assignedString =
          (assigner.candidate candidate).assignedString ∧
        (assigner.assignM3Strings selected candidate).spectralLaneMask =
          (assigner.candidate candidate).spectralLaneMask) := by
  rcases @bestAssignment_spec assigner selected with ⟨best, assigns, found, cheapest⟩ |
    ⟨impossible, none⟩
  · refine ⟨fun string possible => ?_, fun impossible => absurd ⟨best, assigns⟩ impossible⟩
    have whole := voices_toFinset possible
    rw [whole] at assigns cheapest
    refine ⟨best, assigns, fun candidate member => ?_, cheapest⟩
    have voice : candidate ∈ assigner.voices selected := by
      rw [← List.mem_toFinset, whole]
      exact member
    have inside := List.idxOf_lt_length_of_mem voice
    unfold assignM3Strings
    rw [found]
    dsimp only
    rw [if_pos voice, unpackString_stateOf voices_length inside, laneOf_idxOf voice]
  · refine ⟨fun string possible => ?_, fun _ candidate => ?_⟩
    · refine absurd ?_ (impossible string)
      rw [voices_toFinset possible]
      exact possible
    · unfold assignM3Strings
      rw [none]
      exact ⟨rfl, rfl⟩

end Exact

section LowNotes

/-- A note that is struck while nothing else is in the way. -/
def struck : SelectorCandidate where
  score := 1
  fundamental := 1
  selectionScore := 1
  spectralEligible := true
  directFundamentalPeak := true

/-- The two lowest notes, of which only the lowest string has either, and the first is struck. -/
def lowNote : FeasibleSelector where
  lowestNote := 32
  maxFret := 24
  maxPolyphony := 4
  positive := Nat.succ_pos 3
  fastEnergy := 1
  threshold := 1 / 20
  count := 2
  candidate := ![struck, {}]

/-- The second note is struck while the first still sounds. -/
def nextNote : FeasibleSelector where
  lowestNote := 32
  maxFret := 24
  maxPolyphony := 4
  positive := Nat.succ_pos 3
  fastEnergy := 1
  threshold := 1 / 20
  count := 2
  candidate := ![{ active := true }, struck]

/-- An example with candidates at the bottom of the range. -/
def lowAssigner : StringAssigner where
  lowestNote := 32
  maxFret := 24
  stableTunerTicks := 188
  count := 2
  candidate _ := {}

/-- The assigner after the first note has become active. -/
def nextAssigner : StringAssigner where
  lowestNote := 32
  maxFret := 24
  stableTunerTicks := 188
  count := 2
  candidate candidate := {
    lowAssigner.assignM3Strings lowNote.selected candidate with
    active := candidate = (0 : Fin 2) }

/-- The note that is selected next has only a string that is reserved, and stays without one. -/
theorem nextNote_unassigned :
    (∃ candidate, nextNote.selected = {candidate} ∧
      (nextAssigner.assignM3Strings nextNote.selected candidate).assignedString = none) ∧
    ¬∃ string, nextAssigner.Assigns nextNote.selected nextNote.selected string := by
  have alone : nextNote.selected = {((1 : Fin 2) : Fin nextNote.count)} := by decide +kernel
  refine ⟨⟨(1 : Fin 2), alone, by decide +kernel⟩, ?_⟩
  rintro ⟨string, assigns⟩
  have member : ((1 : Fin 2) : Fin nextNote.count) ∈ nextNote.selected := by
    rw [alone]
    exact Finset.mem_singleton_self _
  have reserved : ∀ string : Fin maxVoices,
      (nextAssigner.playableStringMask (1 : Fin 2)).getLsbD string = true →
        (nextAssigner.reservedStrings nextNote.selected).getLsbD string = true := by
    decide +kernel
  have taken := reserved _ (assigns.playable _ member)
  exact Bool.eq_false_iff.mp (assigns.free _ member) taken

end LowNotes

end StringAssigner

end M3Midi
