import M3Midi.Jsfx.VoicingTable
import Mathlib.Data.Rat.Floor
import Mathlib.Tactic.FinCases
import Mathlib.Tactic.Ring

/-! # What the voicing filter keeps

The best entry is the score of a voicing that no other voicing exceeds by more than
the accumulated tolerances (`M3Midi.Jsfx.bestEntry_optimal`). The digits of its codes
are the notes of that voicing (`M3Midi.Jsfx.decodedNote_entryOf`), so its candidates
are read back, each once, and sorted by their notes.
-/

namespace M3Midi.Jsfx

open Foundation Foundation.LaneMask Foundation.ProposalTable Foundation.MaskSweep

/-- Every note can be played on a string of its own. -/
def Feasible (notes : List ℚ) (maxFret : ℚ) : Prop :=
  ∃ played : List (ℚ × Fin 8), played.map Prod.fst = notes ∧
    (∀ note ∈ played, Playable note.1 maxFret note.2) ∧ (played.map Prod.snd).Nodup

variable {candidates : List VoicingCell} {maxFret : ℚ} {limit openCount : ℕ} {played : Played}
  {cell : VoicingCell} {string : Fin 8}

section Feasibility

variable {notes : List ℚ} {used : UsedMask}

/-- A set of strings is marked after a note if the note can be played on one of its strings, beside
a set that was marked before. -/
theorem feasibleRow_value {playable : UsedMask} {current : ValueTable UsedMask Bool} :
    (feasibleRow playable current).value used = true ↔
      ∃ source, current.value source = true ∧
        ∃ string ∈ freeStrings playable source, source ||| single string = used := by
  have marks : feasibleRow playable current =
      ((allMasks 8).flatMap fun source =>
        if current.value source then
          (freeStrings playable source).map fun (string : Fin 8) => source ||| single string
        else []).foldl (fun table cell => table.set cell true) ⟨fun _ => false⟩ := by
    rw [List.foldl_flatMap, feasibleRow]
    congr 1
    funext next source
    split_ifs
    · rw [List.foldl_map]
    · rfl
  rw [marks, mark_value, List.mem_flatMap]
  constructor
  · rintro (nothing | ⟨source, -, marked⟩)
    · exact absurd nothing Bool.false_ne_true
    · split_ifs at marked with reached
      · exact ⟨source, reached, List.mem_map.mp marked⟩
      · exact absurd marked List.not_mem_nil
  · rintro ⟨source, reached, marked⟩
    refine .inr ⟨source, mem_allMasks source, ?_⟩
    rw [if_pos reached]
    exact List.mem_map.mpr marked

/-- The row after some notes: the sets of strings that they can be played on. -/
def reachedRow (notes : List ℚ) (maxFret : ℚ) : ValueTable UsedMask Bool :=
  notes.foldl (fun row note => feasibleRow (noteStringMask note maxFret) row)
    ⟨fun used => decide (used = 0)⟩

/-- The rows are filled one note after the other. -/
theorem reachedRow_concat {note : ℚ} :
    reachedRow (notes ++ [note]) maxFret =
      feasibleRow (noteStringMask note maxFret) (reachedRow notes maxFret) := by
  rw [reachedRow, List.foldl_append, List.foldl_cons, List.foldl_nil, reachedRow]

/-- A set of strings is marked exactly if all notes can be played on it at once, each on a string
of its own. -/
theorem reachedRow_value (low : 0 ≤ maxFret) (high : maxFret ≤ 36) :
    (reachedRow notes maxFret).value used = true ↔
      ∃ played : List (ℚ × Fin 8), played.map Prod.fst = notes ∧
        (∀ note ∈ played, Playable note.1 maxFret note.2) ∧ (played.map Prod.snd).Nodup ∧
        maskOf (played.map Prod.snd) = used := by
  induction notes using List.reverseRecOn generalizing used with
  | nil =>
      constructor
      · intro start
        exact ⟨[], rfl, List.forall_mem_nil _, List.nodup_nil, (of_decide_eq_true start).symm⟩
      · rintro ⟨played, nothing, -, -, mask⟩
        rw [List.map_eq_nil_iff.mp nothing] at mask
        exact decide_eq_true mask.symm
  | append_singleton notes note ih =>
      rw [reachedRow_concat, feasibleRow_value]
      constructor
      · rintro ⟨source, reached, string, free, rfl⟩
        obtain ⟨played, rfl, playable, own, rfl⟩ := ih.mp reached
        obtain ⟨bit, unused⟩ := mem_freeStrings.mp free
        rw [lanes_maskOf, List.mem_toFinset] at unused
        refine ⟨played ++ [(note, string)], List.map_append, ?_, ?_, ?_⟩
        · intro other member
          rcases List.mem_append.mp member with earlier | last
          · exact playable other earlier
          · rw [List.mem_singleton.mp last]
            exact (mem_lanes_noteStringMask low high).mp bit
        · rw [List.map_append]
          refine List.nodup_append.mpr ⟨own, List.nodup_singleton string, ?_⟩
          intro other earlier last here same
          rw [List.map_singleton, List.mem_singleton] at here
          rw [same, here] at earlier
          exact unused earlier
        · rw [List.map_append]
          exact maskOf_concat _ string
      · rintro ⟨played, whole, playable, own, rfl⟩
        obtain ⟨earlier, final, rfl, rfl, one⟩ := List.map_eq_append_iff.mp whole
        obtain ⟨⟨note, string⟩, rfl, rfl⟩ := List.map_eq_singleton_iff.mp one
        rw [List.map_append, List.nodup_append] at own
        refine ⟨maskOf (earlier.map Prod.snd), ih.mpr ⟨earlier, rfl, ?_, own.1, rfl⟩, string, ?_, ?_⟩
        · intro other member
          exact playable other (List.mem_append_left _ member)
        · refine mem_freeStrings.mpr ⟨(mem_lanes_noteStringMask low high).mpr (playable (note, string)
            (List.mem_append_right _ (List.mem_singleton_self _))), ?_⟩
          rw [lanes_maskOf, List.mem_toFinset]
          intro taken
          exact own.2.2 string taken string (List.mem_singleton_self string) rfl
        · rw [List.map_append]
          exact (maskOf_concat _ string).symm

/-- `m3_voicing_feasible` decides whether the notes can be played together. -/
theorem voicingFeasible_iff_feasible (low : 0 ≤ maxFret) (high : maxFret ≤ 36) :
    voicingFeasible notes maxFret = true ↔ Feasible notes maxFret := by
  rw [voicingFeasible, Bool.and_eq_true, decide_eq_true_eq]
  dsimp only
  rw [List.any_eq_true]
  constructor
  · rintro ⟨-, used, -, reached⟩
    obtain ⟨played, notes, playable, own, -⟩ := (reachedRow_value low high).mp reached
    exact ⟨played, notes, playable, own⟩
  · rintro ⟨played, rfl, playable, own⟩
    refine ⟨?_, maskOf (played.map Prod.snd), mem_allMasks _,
      (reachedRow_value low high).mpr ⟨played, rfl, playable, own, rfl⟩⟩
    have bounded := own.length_le_card
    rw [List.length_map, Fintype.card_fin] at bounded
    rw [List.length_map]
    exact bounded

end Feasibility

section Best

variable {table : ValueTable UsedMask FilterState}

/-- The tolerance of a comparison is positive, so that equal scores do not replace each other. -/
theorem tolerance_pos : 0 < FilterState.scoreTolerance := by
  rw [FilterState.scoreTolerance]
  norm_num

/-- The comparison of the final scores keeps the better one. -/
theorem score_keeps :
    Keeps fun newer older : UsedMask × ℚ =>
      decide (older.2 + FilterState.scoreTolerance < newer.2) where
  not_self value := decide_eq_false (by linarith [tolerance_pos])
  kept newer older value better unbeaten := by
    have above := of_decide_eq_true better
    have below := of_decide_eq_false unbeaten
    refine decide_eq_false ?_
    linarith [tolerance_pos]

/-- The best score is not negative. -/
theorem bestEntry_nonneg (table : ValueTable UsedMask FilterState) : 0 ≤ (bestEntry table).2 := by
  have kept := @strongest_kept _ _ score_keeps (0, 0) (0, FilterState.scoreTolerance)
    ((allMasks 8).tail.map fun used => (used, (table.value used).score))
    (decide_eq_false (by rw [zero_add]; exact lt_irrefl _))
  have bound := of_decide_eq_false kept
  change ¬ (bestEntry table).2 + FilterState.scoreTolerance < FilterState.scoreTolerance at bound
  linarith

/-- No entry is better than the best one by more than the tolerance. -/
theorem bestEntry_beats {used : UsedMask} (something : used ≠ 0) :
    (table.value used).score ≤ (bestEntry table).2 + FilterState.scoreTolerance := by
  have member : (used, (table.value used).score) ∈
      (allMasks 8).tail.map fun used => (used, (table.value used).score) :=
    List.mem_map.mpr ⟨used, mem_allMasks_tail something, rfl⟩
  have beaten := @strongest_beats _ _ score_keeps (0, 0) _ _ member
  exact not_lt.mp (of_decide_eq_false beaten)

/-- The best entry is empty, or it is an entry of the table. -/
theorem bestEntry_mem (table : ValueTable UsedMask FilterState) :
    bestEntry table = (0, 0) ∨ (table.value (bestEntry table).1).score = (bestEntry table).2 := by
  refine (strongest_mem _ _).imp_right fun member => ?_
  obtain ⟨used, -, entry⟩ := List.mem_map.mp member
  change (used, (table.value used).score) = bestEntry table at entry
  rw [← entry]

/-- Without the notes that gain less than the tolerance a voicing loses at most that much for
each note. -/
theorem voicingTotal_filter_le :
    voicingTotal openCount played ≤
      voicingTotal openCount (played.filter fun note =>
        decide (FilterState.scoreTolerance ≤ assignmentGain openCount note.1 note.2)) +
      played.length * FilterState.scoreTolerance := by
  induction played with
  | nil =>
      rw [List.length_nil, Nat.cast_zero, zero_mul, add_zero]
      exact le_rfl
  | cons note played ih =>
      have total : voicingTotal openCount (note :: played) =
          assignmentGain openCount note.1 note.2 + voicingTotal openCount played :=
        List.sum_cons
      rw [total, List.length_cons, List.filter_cons]
      push_cast
      split_ifs with gains
      · have kept := List.sum_cons (a := assignmentGain openCount note.1 note.2)
          (l := (played.filter fun note =>
            decide (FilterState.scoreTolerance ≤ assignmentGain openCount note.1 note.2)).map
              fun note => assignmentGain openCount note.1 note.2)
        change voicingTotal openCount (note :: played.filter _) = _ + voicingTotal openCount _
          at kept
        rw [kept]
        linarith [tolerance_pos]
      · rw [decide_eq_true_eq, not_le] at gains
        linarith

/-- A part of a voicing is a voicing. -/
theorem IsVoicing.filter (voicing : IsVoicing candidates maxFret limit played)
    (keep : VoicingCell × Fin 8 → Bool) :
    IsVoicing candidates maxFret limit (played.filter keep) where
  chosen := (List.filter_sublist.map _).trans voicing.chosen
  positive note member := voicing.positive note (List.mem_of_mem_filter member)
  playable note member := voicing.playable note (List.mem_of_mem_filter member)
  own_string := voicing.own_string.sublist (List.filter_sublist.map _)
  within := le_trans List.filter_sublist.length_le voicing.within

/-- No voicing exceeds the best entry by more than a tolerance for each note, twice, and one. Each
comparison along the way may have given up a tolerance. -/
theorem bestEntry_optimal (low : 0 ≤ maxFret) (high : maxFret ≤ 36) (bounded : limit ≤ maxVoices)
    (finite : ∀ cell ∈ candidates, isFinite (some cell.confidence) = true)
    (voicing : IsVoicing candidates maxFret limit played) :
    voicingTotal openCount played ≤
      (bestEntry (enterAll limit openCount maxFret candidates)).2 + 1 / 10 ^ 9 := by
  obtain ⟨gaining, gaining_eq⟩ : ∃ gaining, gaining = played.filter fun note =>
      decide (FilterState.scoreTolerance ≤ assignmentGain openCount note.1 note.2) := ⟨_, rfl⟩
  have reduced := @voicingTotal_filter_le openCount played
  rw [← gaining_eq] at reduced
  have size : (played.length : ℚ) ≤ 8 := by
    exact_mod_cast le_trans voicing.within bounded
  have shorter : (gaining.length : ℚ) ≤ played.length := by
    rw [gaining_eq]
    exact_mod_cast List.length_filter_le _ played
  have covers : Covers openCount (enterAll limit openCount maxFret candidates) gaining := by
    rw [gaining_eq]
    exact enterAll_covers low high finite (voicing.filter _) fun note member =>
      of_decide_eq_true (List.mem_filter.mp member).2
  rw [Covers] at covers
  have best := bestEntry_nonneg (enterAll limit openCount maxFret candidates)
  have tolerance : FilterState.scoreTolerance = 1 / 1000000000000 := rfl
  rw [tolerance] at reduced covers
  by_cases nothing : gaining = []
  · have empty : voicingTotal openCount gaining = 0 := by
      rw [nothing]
      rfl
    linarith
  · have used : usedBy gaining ≠ 0 := by
      intro unused
      have lanes_empty := congrArg lanes unused
      rw [lanes_usedBy, lanes_zero, List.toFinset_eq_empty_iff, List.map_eq_nil_iff] at lanes_empty
      exact nothing lanes_empty
    have beaten := @bestEntry_beats (enterAll limit openCount maxFret candidates) _ used
    rw [tolerance] at beaten
    linarith

end Best

section Decoding

/-- The digit that a string has in the codes of a voicing. -/
def digit (played : Played) (string : Fin 8) : ℤ :=
  (played.map fun note => if note.2 = string then note.1.roundedNote + 1 else 0).sum

/-- The digit of a string is the note that is played on it, plus one. -/
theorem digit_cons {note : VoicingCell × Fin 8} :
    digit (note :: played) string =
      (if note.2 = string then note.1.roundedNote + 1 else 0) + digit played string := by
  rw [digit, List.map_cons, List.sum_cons, digit]

theorem digit_concat {other : Fin 8} :
    digit (played ++ [(cell, string)]) other =
      digit played other + if string = other then cell.roundedNote + 1 else 0 := by
  rw [digit, List.map_append, List.sum_append, List.map_singleton, List.sum_singleton, digit]

/-- A string that is not used has the digit zero. -/
theorem digit_of_notMem (unused : string ∉ played.map Prod.snd) : digit played string = 0 := by
  induction played with
  | nil => rfl
  | cons note played ih =>
      rw [List.map_cons, List.mem_cons, not_or] at unused
      rw [digit_cons, if_neg (Ne.symm unused.1), ih unused.2, add_zero]

/-- A string that is used has the digit of its note, since no other note is on it. -/
theorem digit_of_mem (own : (played.map Prod.snd).Nodup) (member : (cell, string) ∈ played) :
    digit played string = cell.roundedNote + 1 := by
  induction played with
  | nil => cases member
  | cons note played ih =>
      rw [List.map_cons, List.nodup_cons] at own
      rw [digit_cons]
      rcases List.mem_cons.mp member with rfl | later
      · rw [if_pos rfl, digit_of_notMem own.1, add_zero]
      · have other : note.2 ≠ string := by
          intro same
          exact own.1 (List.mem_map.mpr ⟨(cell, string), later, same.symm⟩)
        rw [if_neg other, zero_add, ih own.2 later]

/-- The codes are the numbers with these digits. -/
theorem entryOf_codes :
    (entryOf openCount played).lowCode = digit played 0 + digit played 1 * 128 +
        digit played 2 * 128 ^ 2 + digit played 3 * 128 ^ 3 ∧
      (entryOf openCount played).highCode = digit played 4 + digit played 5 * 128 +
        digit played 6 * 128 ^ 2 + digit played 7 * 128 ^ 3 := by
  induction played using List.reverseRecOn with
  | nil => exact ⟨rfl, rfl⟩
  | append_singleton played note ih =>
      obtain ⟨cell, string⟩ := note
      rw [entryOf_concat, FilterState.assign]
      simp only [digit_concat, ih.1, ih.2]
      fin_cases string <;> constructor <;> simp <;> ring

/-- A digit is read back from four of them. -/
theorem read_digit {first second third fourth : ℤ} (bounded : ∀ value ∈ [first, second, third,
    fourth], 0 ≤ value ∧ value < 128) {power : ℕ} (within : power < 4) :
    floor (((first + second * 128 + third * 128 ^ 2 + fourth * 128 ^ 3 : ℤ) : ℚ) / 128 ^ power) %
      128 = [first, second, third, fourth].getD power 0 := by
  have one := bounded first (by simp)
  have two := bounded second (by simp)
  have three := bounded third (by simp)
  have four := bounded fourth (by simp)
  have whole : floor (((first + second * 128 + third * 128 ^ 2 + fourth * 128 ^ 3 : ℤ) : ℚ) /
      128 ^ power) = (first + second * 128 + third * 128 ^ 2 + fourth * 128 ^ 3) / 128 ^ power := by
    have divided := Rat.floor_intCast_div_natCast
      (first + second * 128 + third * 128 ^ 2 + fourth * 128 ^ 3) (128 ^ power)
    push_cast at divided ⊢
    exact divided
  rw [whole]
  have cases : power = 0 ∨ power = 1 ∨ power = 2 ∨ power = 3 := by omega
  rcases cases with rfl | rfl | rfl | rfl
  all_goals
    simp only [List.getD_cons_zero, List.getD_cons_succ]
    omega

/-- Notes with a digit of their own. -/
def Encodable (candidates : List VoicingCell) : Prop :=
  ∀ cell ∈ candidates, 24 ≤ cell.roundedNote ∧ cell.roundedNote ≤ 108

/-- The digits of a voicing fit into seven bits. -/
theorem digit_bounds (encodable : Encodable candidates)
    (voicing : IsVoicing candidates maxFret limit played) (string : Fin 8) :
    0 ≤ digit played string ∧ digit played string < 128 := by
  by_cases used : string ∈ played.map Prod.snd
  · obtain ⟨⟨cell, string⟩, member, rfl⟩ := List.mem_map.mp used
    have range := encodable cell (voicing.chosen.subset (List.mem_map.mpr ⟨_, member, rfl⟩))
    rw [digit_of_mem voicing.own_string member]
    omega
  · rw [digit_of_notMem used]
    omega

/-- The notes that are read back are the ones that are played. -/
theorem decodedNote_entryOf (encodable : Encodable candidates)
    (voicing : IsVoicing candidates maxFret limit played) (member : (cell, string) ∈ played) :
    (entryOf openCount played).decodedNote string = cell.roundedNote := by
  have bounds := digit_bounds encodable voicing
  obtain ⟨low, high⟩ := @entryOf_codes openCount played
  have lower := fun power => @read_digit (digit played 0) (digit played 1) (digit played 2)
    (digit played 3) (by simp [bounds]) power
  have upper := fun power => @read_digit (digit played 4) (digit played 5) (digit played 6)
    (digit played 7) (by simp [bounds]) power
  have decoded : (entryOf openCount played).decodedNote string = digit played string - 1 := by
    rw [FilterState.decodedNote, low, high]
    fin_cases string
    · exact congrArg (· - 1) (lower 0 (by decide))
    · exact congrArg (· - 1) (lower 1 (by decide))
    · exact congrArg (· - 1) (lower 2 (by decide))
    · exact congrArg (· - 1) (lower 3 (by decide))
    · exact congrArg (· - 1) (upper 0 (by decide))
    · exact congrArg (· - 1) (upper 1 (by decide))
    · exact congrArg (· - 1) (upper 2 (by decide))
    · exact congrArg (· - 1) (upper 3 (by decide))
  rw [decoded, digit_of_mem voicing.own_string member, add_sub_cancel_right]

/-- The cell that is left for a candidate. -/
def keptCell (cell : VoicingCell) : VoicingCell :=
  { note := cell.roundedNote, confidence := cell.confidence, energy := cell.energy, onset := 0 }

/-- A note leads back to the only candidate that has it. -/
theorem sourceCell_of_mem (distinct : (candidates.map VoicingCell.roundedNote).Nodup)
    (member : cell ∈ candidates) :
    sourceCell candidates cell.roundedNote = some (keptCell cell) := by
  have found : (candidates.find? fun other => decide (other.roundedNote = cell.roundedNote)) =
      some cell := by
    induction candidates with
    | nil => cases member
    | cons first candidates ih =>
        rw [List.map_cons, List.nodup_cons] at distinct
        rcases List.mem_cons.mp member with rfl | later
        · rw [List.find?_cons, decide_eq_true rfl]
        · have other : first.roundedNote ≠ cell.roundedNote := by
            intro same
            exact distinct.1 (List.mem_map.mpr ⟨cell, later, same.symm⟩)
          rw [List.find?_cons, decide_eq_false other]
          exact ih distinct.2 later
  rw [sourceCell, found]
  rfl

/-- The cells read back from a voicing are those of its candidates. -/
theorem decodedCells_perm (encodable : Encodable candidates)
    (distinct : (candidates.map VoicingCell.roundedNote).Nodup)
    (voicing : IsVoicing candidates maxFret limit played) :
    (decodedCells candidates (usedBy played) (entryOf openCount played)).Perm
      (played.map fun note => keptCell note.1) := by
  have strings : ((List.finRange 8).filter fun (string : Fin 8) =>
      decide (string ∈ played.map Prod.snd)).Perm (played.map Prod.snd) := by
    refine (List.perm_ext_iff_of_nodup ((List.nodup_finRange 8).filter _)
      voicing.own_string).mpr fun string => ?_
    rw [List.mem_filter, decide_eq_true_eq]
    exact and_iff_right (List.mem_finRange string)
  have chosen : ∀ note ∈ played, sourceCell candidates
      ((entryOf openCount played).decodedNote note.2) = some (keptCell note.1) := by
    rintro ⟨cell, string⟩ member
    rw [decodedNote_entryOf encodable voicing member]
    exact sourceCell_of_mem distinct
      (voicing.chosen.subset (List.mem_map.mpr ⟨_, member, rfl⟩))
  have bits : ∀ string : Fin 8, (usedBy played)[(string : ℕ)] =
      decide (string ∈ played.map Prod.snd) := by
    intro string
    have used := @lanes_usedBy played
    rw [Bool.eq_iff_iff, ← mem_lanes, used, List.mem_toFinset, decide_eq_true_eq]
  have read : decodedCells candidates (usedBy played) (entryOf openCount played) =
      ((List.finRange 8).filter fun (string : Fin 8) =>
        decide (string ∈ played.map Prod.snd)).filterMap fun string =>
          sourceCell candidates ((entryOf openCount played).decodedNote string) := by
    rw [List.filterMap_filter, decodedCells]
    congr 1
    funext string
    rw [bits string]
  have kept : (played.map Prod.snd).filterMap (fun string =>
      sourceCell candidates ((entryOf openCount played).decodedNote string)) =
        played.map fun note => keptCell note.1 := by
    rw [List.filterMap_map]
    have same : ∀ note ∈ played, ((fun string => sourceCell candidates
        ((entryOf openCount played).decodedNote string)) ∘ Prod.snd) note =
          (some ∘ fun note : VoicingCell × Fin 8 => keptCell note.1) note := chosen
    rw [List.filterMap_congr same, List.filterMap_eq_map]
  rw [read, ← kept]
  exact strings.filterMap _

end Decoding

/-- Notes that can be played together can be played in any order. -/
theorem Feasible.perm {notes others : List ℚ} (feasible : Feasible notes maxFret)
    (same : others.Perm notes) : Feasible others maxFret := by
  obtain ⟨played, rfl, playable, own⟩ := feasible
  obtain ⟨reordered, rfl, order⟩ :=
    (congrFun (congrFun (List.eq_map_comp_perm Prod.fst) others) played).mpr same
  refine ⟨reordered, rfl, ?_, (order.map Prod.snd).nodup_iff.mpr own⟩
  intro note member
  exact playable note (order.mem_iff.mp member)

/-- Cells without onsets are sorted by their notes. -/
theorem selectionSort_sorted {cells : List VoicingCell} (few : cells.length ≤ 8)
    (still : ∀ cell ∈ cells, cell.onset = 0) :
    (selectionSort cells).Perm cells ∧
      (selectionSort cells).Pairwise fun earlier later => earlier.note ≤ later.note := by
  have fits : cells.length ≤ selectionInternalCandidates := le_trans few (by decide)
  have byNote : insertAll movePrevious cells =
      insertAll (fun key previous => decide (key.note < previous.note)) cells := by
    refine insertAll_congr fun key here previous there => ?_
    have same : eelEqual 0 0 = true := decide_eq_true (by rw [sub_self, abs_zero]; norm_num)
    rw [movePrevious, still key here, still previous there, same, decide_eq_false (lt_irrefl 0)]
    rfl
  rw [selectionSort, List.take_of_length_le fits, List.drop_of_length_le fits, List.append_nil,
    byNote]
  refine ⟨insertAll_perm cells, ?_⟩
  refine (insertAll_pairwise ?_ ?_ cells).imp fun sorted => not_lt.mp (of_decide_eq_false sorted)
  · intro first second third lower upper
    rw [decide_eq_false_iff_not, not_lt] at lower upper ⊢
    exact le_trans lower upper
  · intro first second below
    exact decide_eq_false (not_lt.mpr (of_decide_eq_true below).le)

/-- The best entry belongs to a voicing that no other one exceeds beyond the tolerances. -/
theorem bestEntry_voicing (low : 0 ≤ maxFret) (high : maxFret ≤ 36) (bounded : limit ≤ maxVoices)
    (finite : ∀ cell ∈ candidates, isFinite (some cell.confidence) = true)
    {table : ValueTable UsedMask FilterState}
    (built : table = enterAll limit openCount maxFret candidates) :
    ∃ played, IsVoicing candidates maxFret limit played ∧ usedBy played = (bestEntry table).1 ∧
      (played ≠ [] → entryOf openCount played = table.value (bestEntry table).1) ∧
      ∀ other, IsVoicing candidates maxFret limit other →
        voicingTotal openCount other ≤ voicingTotal openCount played + 1 / 10 ^ 9 := by
  have optimal : ∀ other, IsVoicing candidates maxFret limit other →
      voicingTotal openCount other ≤ (bestEntry table).2 + 1 / 10 ^ 9 := by
    intro other voicing
    rw [built]
    exact bestEntry_optimal low high bounded finite voicing
  rcases bestEntry_mem table with empty | entry
  · refine ⟨[], isVoicing_nil, by rw [empty]; rfl, fun some => absurd rfl some, ?_⟩
    rw [empty] at optimal
    exact optimal
  · have reached := @enterAll_reached maxFret limit openCount low high candidates
      (bestEntry table).1
    rw [← built] at reached
    rcases reached with start | ⟨played, voicing, used, reached⟩
    · have nonneg := bestEntry_nonneg table
      rw [← entry, start] at nonneg
      exact absurd nonneg (by decide)
    · refine ⟨played, voicing, used, fun _ => reached, ?_⟩
      rw [← entry, ← reached, entryOf_score] at optimal
      exact optimal

/-- The table of the filter enters the candidates one after the other. -/
theorem filterTable_eq :
    filterTable limit maxFret candidates =
      enterAll limit (openCandidateCount candidates) maxFret candidates := rfl

/-- What the sorted cells of the best entry are. -/
theorem keptCells_optimal (low : 0 ≤ maxFret) (high : maxFret ≤ 36) (bounded : limit ≤ maxVoices)
    (encodable : Encodable candidates)
    (distinct : (candidates.map VoicingCell.roundedNote).Nodup)
    (finite : ∀ cell ∈ candidates, isFinite (some cell.confidence) = true)
    {table : ValueTable UsedMask FilterState} {best : UsedMask × ℚ} {kept : List VoicingCell}
    (built : table = enterAll limit openCount maxFret candidates)
    (strongest_eq : best = bestEntry table)
    (kept_eq : kept = selectionSort (decodedCells candidates best.1 (table.value best.1))) :
    (∃ played, IsVoicing candidates maxFret limit played ∧
      (∀ other, IsVoicing candidates maxFret limit other →
        voicingTotal openCount other ≤ voicingTotal openCount played + 1 / 10 ^ 9) ∧
      kept.Perm (played.map fun note => keptCell note.1) ∧
      (∀ string : Fin 8, string ∈ lanes best.1 ↔ string ∈ played.map Prod.snd) ∧
      ∀ note ∈ played, (table.value best.1).decodedNote note.2 = note.1.roundedNote) ∧
    (kept.map VoicingCell.note).Pairwise (· < ·) ∧
    voicingFeasible (kept.map VoicingCell.note) maxFret = true := by
  obtain ⟨played, voicing, used, entry, optimal⟩ :=
    bestEntry_voicing low high bounded finite built
  rw [← strongest_eq] at used entry
  have decoded : (decodedCells candidates best.1 (table.value best.1)).Perm
      (played.map fun note => keptCell note.1) := by
    rw [← used]
    by_cases nothing : played = []
    · subst nothing
      exact List.Perm.of_eq (by rfl)
    · rw [used, ← entry nothing, ← used]
      exact decodedCells_perm encodable distinct voicing
  have few : (decodedCells candidates best.1 (table.value best.1)).length ≤ 8 := by
    rw [decoded.length_eq, List.length_map]
    exact le_trans voicing.within bounded
  have still : ∀ cell ∈ decodedCells candidates best.1 (table.value best.1), cell.onset = 0 := by
    intro cell member
    obtain ⟨note, -, rfl⟩ := List.mem_map.mp (decoded.mem_iff.mp member)
    rfl
  obtain ⟨sorted, ascending⟩ := selectionSort_sorted few still
  rw [← kept_eq] at sorted ascending
  have perm : kept.Perm (played.map fun note => keptCell note.1) := sorted.trans decoded
  have notes : (kept.map VoicingCell.note).Perm
      (played.map fun note => (note.1.roundedNote : ℚ)) := by
    have renamed := perm.map VoicingCell.note
    rw [List.map_map] at renamed
    exact renamed
  have own_note : (played.map fun note => (note.1.roundedNote : ℚ)).Nodup := by
    have rounded := (voicing.chosen.map VoicingCell.roundedNote).nodup distinct
    rw [List.map_map] at rounded
    have cast := rounded.map (f := fun note : ℤ => (note : ℚ)) Int.cast_injective
    rw [List.map_map] at cast
    exact cast
  refine ⟨⟨played, voicing, optimal, perm, ?_, ?_⟩, ?_, ?_⟩
  · intro string
    rw [← used, lanes_usedBy, List.mem_toFinset]
  · rintro ⟨cell, string⟩ member
    rw [← entry (List.ne_nil_of_mem member)]
    exact decodedNote_entryOf encodable voicing member
  · have weakly : (kept.map VoicingCell.note).Pairwise (· ≤ ·) := List.pairwise_map.mpr ascending
    exact (weakly.and (notes.nodup_iff.mpr own_note)).imp fun both => lt_of_le_of_ne both.1 both.2
  · refine (voicingFeasible_iff_feasible low high).mpr (Feasible.perm ?_ notes)
    refine ⟨played.map fun note => ((note.1.roundedNote : ℚ), note.2), ?_, ?_, ?_⟩
    · rw [List.map_map]
      rfl
    · intro note member
      obtain ⟨source, here, rfl⟩ := List.mem_map.mp member
      exact voicing.playable source here
    · rw [List.map_map]
      exact voicing.own_string

/-- In the M3 profile the filter keeps the notes of the best voicing of the considered candidates.
-/
theorem profileFilterSelected_m3 {selection : List VoicingCell}
    {selectedCount maxVoiceCount : ℚ} {table : ValueTable UsedMask FilterState}
    (built : table = filterTable (voicingLimit maxVoiceCount) maxFret
      (consideredCandidates selection selectedCount)) :
    profileFilterSelected .m3 selection selectedCount maxVoiceCount maxFret =
      selectionSort (decodedCells (consideredCandidates selection selectedCount)
        (bestEntry table).1 (table.value (bestEntry table).1)) := by
  rw [built, profileFilterSelected]

/-- The filter keeps the candidates of an optimal voicing, each once and in ascending order; the
codes of its entry are the notes on the strings, and the result can be played. -/
theorem profileFilterSelected_optimal {selection : List VoicingCell}
    {selectedCount maxVoiceCount : ℚ} (low : 0 ≤ maxFret) (high : maxFret ≤ 36)
    (encodable : Encodable (consideredCandidates selection selectedCount))
    (distinct : ((consideredCandidates selection selectedCount).map
      VoicingCell.roundedNote).Nodup)
    (finite : ∀ cell ∈ consideredCandidates selection selectedCount,
      isFinite (some cell.confidence) = true) :
    let candidates := consideredCandidates selection selectedCount
    let limit := voicingLimit maxVoiceCount
    let openCount := openCandidateCount candidates
    let table := filterTable limit maxFret candidates
    let best := bestEntry table
    let kept := profileFilterSelected .m3 selection selectedCount maxVoiceCount maxFret
    (∃ played, IsVoicing candidates maxFret limit played ∧
      (∀ other, IsVoicing candidates maxFret limit other →
        voicingTotal openCount other ≤ voicingTotal openCount played + 1 / 10 ^ 9) ∧
      kept.Perm (played.map fun note => keptCell note.1) ∧
      (∀ string : Fin 8, string ∈ lanes best.1 ↔ string ∈ played.map Prod.snd) ∧
      ∀ note ∈ played, (table.value best.1).decodedNote note.2 = note.1.roundedNote) ∧
    (kept.map VoicingCell.note).Pairwise (· < ·) ∧
    voicingFeasible (kept.map VoicingCell.note) maxFret = true ∧
    ∀ notes, voicingFeasible notes maxFret = true ↔ Feasible notes maxFret := by
  intro candidates limit openCount table best kept
  obtain ⟨voicing, ascending, accepted⟩ := @keptCells_optimal candidates maxFret limit openCount low
    high (Nat.min_le_left _ _) encodable distinct finite table best kept filterTable_eq rfl
    (profileFilterSelected_m3 rfl)
  exact ⟨voicing, ascending, accepted, fun notes => voicingFeasible_iff_feasible low high⟩

/-- An open string and a fretted note. -/
def openAndFretted : List VoicingCell :=
  [{ note := 47, confidence := 9 / 10, energy := 2 }, { note := 40, confidence := 1 / 2, energy := 1 }]

/-- An open and a fretted note, which are both kept. -/
theorem profileFilterSelected_optimal_openAndFretted :
    let kept := profileFilterSelected .m3 openAndFretted 2 8 24
    (kept.map VoicingCell.note).Pairwise (· < ·) ∧
      voicingFeasible (kept.map VoicingCell.note) 24 = true := by
  have encodable : Encodable (consideredCandidates openAndFretted 2) := by
    rw [Encodable]
    decide +kernel
  obtain ⟨-, ascending, accepted, -⟩ := @profileFilterSelected_optimal 24 openAndFretted 2 8
    (by decide) (by decide) encodable (by decide +kernel) (by decide +kernel)
  exact ⟨ascending, accepted⟩

end M3Midi.Jsfx
