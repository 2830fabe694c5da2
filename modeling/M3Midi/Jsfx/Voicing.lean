import M3Midi.Jsfx.Host
import M3Midi.Foundation.MaskSweep
import M3Midi.Foundation.StableInsertion

/-! # The voicing filter of the JSFX program

In the M3 profile the selected notes must be playable together, each on a string of
its own. A table has one entry for each set of used strings; the candidates enter it
one after the other, each on every free string it can be played on, and an entry keeps
the better of the voicings that use its strings. The notes of the best entry are read
back from the digits of its two codes.
-/

namespace M3Midi.Jsfx

open Foundation Foundation.ProposalTable Foundation.MaskSweep

/-- One bit for each string. -/
abbrev UsedMask := BitVec 8

/-- One cell of the selection that is filtered. -/
structure VoicingCell where
  note : ℚ
  confidence : ℚ
  energy : ℚ
  onset : ℚ := 0
  deriving DecidableEq, Repr

/-- `floor(candidate_cell[0] + 0.5)`. -/
def VoicingCell.roundedNote (cell : VoicingCell) : ℤ := floor (cell.note + 1 / 2)

/-- `M3_SELECTION_INTERNAL_CANDIDATES`. -/
def selectionInternalCandidates : ℕ := 16

/-- `m3_note_string_mask`. -/
def noteStringMask (note maxFret : ℚ) : UsedMask :=
  if isFinite (some note) && isFinite (some maxFret) && decide (0 ≤ floor maxFret) then
    (List.finRange 8).foldl (fun mask (string : Fin 8) =>
      if 0 ≤ note - openNote string ∧ note - openNote string ≤ floor maxFret then
        mask ||| LaneMask.single string
      else mask) 0
  else 0

/-- The strings on which a playable note is still free, from the lowest on. -/
def freeStrings (playable used : UsedMask) : List (Fin 8) :=
  (List.finRange 8).filter fun (string : Fin 8) => playable[(string : ℕ)] && !used[(string : ℕ)]

/-- The row `next_row` that `m3_voicing_feasible` fills for one note. -/
def feasibleRow (playable : UsedMask) (current : ValueTable UsedMask Bool) :
    ValueTable UsedMask Bool :=
  (allMasks 8).foldl (fun next used =>
    if current.value used then
      (freeStrings playable used).foldl (fun next (string : Fin 8) =>
        next.set (used ||| LaneMask.single string) true) next
    else next) ⟨fun _ => false⟩

/-- `m3_voicing_feasible`; the list holds the `note_count` notes from `note_base` on. -/
def voicingFeasible (notes : List ℚ) (maxFret : ℚ) : Bool :=
  decide (notes.length ≤ maxVoices) &&
    (let reached := notes.foldl (fun row note => feasibleRow (noteStringMask note maxFret) row)
        ⟨fun used => decide (used = 0)⟩
     (allMasks 8).any reached.value)

/-- `m3_profile_popcount8`. -/
def popcount8 (mask : UsedMask) : ℕ :=
  ((List.finRange 8).map fun (string : Fin 8) => if mask[(string : ℕ)] then 1 else 0).sum

/-- `m3_profile_open_note`. -/
def profileOpenNote (note : ℤ) : Bool :=
  (List.finRange 8).any fun (string : Fin 8) => decide (note = openNote string)

/-- `open_candidate_count`. -/
def openCandidateCount (candidates : List VoicingCell) : ℕ :=
  (candidates.filter fun cell => profileOpenNote cell.roundedNote).length

/-- `assignment_penalty`: fretted notes give way to open strings, in an open chord and
above the highest open string. -/
def assignmentPenalty (openCount : ℕ) (note : ℤ) (string : Fin 8) : ℚ :=
  let fret := note - openNote string
  if (2 ≤ openCount ∨ (openNote 7 : ℤ) < note) ∧ 0 < fret then 60 / 100 + 5 / 1000 * fret else 0

/-- The words at one mask of the score row and of the two code rows. -/
structure FilterState where
  score : ℚ := -1
  lowCode : ℤ := 0
  highCode : ℤ := 0
  deriving DecidableEq, Repr

namespace FilterState

/-- What two scores must differ by for the higher one to replace the lower one. -/
def scoreTolerance : ℚ := 1 / 1000000000000

/-- `next_score > score_base[next_mask] + 0.000000000001`. -/
def improves (newer older : FilterState) : Bool :=
  decide (older.score + scoreTolerance < newer.score)

/-- The state in which one more note is played, on a string of its own. -/
def assign (state : FilterState) (note : ℤ) (string : Fin 8) (gain : ℚ) : FilterState where
  score := state.score + gain
  lowCode := if (string : ℕ) < 4 then state.lowCode + (note + 1) * 128 ^ (string : ℕ)
    else state.lowCode
  highCode := if (string : ℕ) < 4 then state.highCode
    else state.highCode + (note + 1) * 128 ^ ((string : ℕ) - 4)

/-- The note that the digit of a string stands for. -/
def decodedNote (state : FilterState) (string : Fin 8) : ℤ :=
  let encoded := if (string : ℕ) < 4 then state.lowCode else state.highCode
  let power := if (string : ℕ) < 4 then (string : ℕ) else (string : ℕ) - 4
  floor ((encoded : ℚ) / 128 ^ power) % 128 - 1

end FilterState

/-- The rows before the first candidate. -/
def startTable : ValueTable UsedMask FilterState :=
  ⟨fun used => if used = 0 then { score := 0 } else {}⟩

/-- The confidence of a candidate less the penalty of a string. -/
def assignmentGain (openCount : ℕ) (cell : VoicingCell) (string : Fin 8) : ℚ :=
  cell.confidence - assignmentPenalty openCount cell.roundedNote string

/-- The entries that a candidate leads to from one entry. -/
def voicingOffers (limit openCount : ℕ) (maxFret : ℚ) (cell : VoicingCell) (used : UsedMask)
    (state : FilterState) : List (UsedMask × FilterState) :=
  if 0 ≤ state.score ∧ popcount8 used < limit then
    (freeStrings (noteStringMask cell.roundedNote maxFret) used).map fun (string : Fin 8) =>
      (used ||| LaneMask.single string,
        state.assign cell.roundedNote string (assignmentGain openCount cell string))
  else []

/-- A candidate that enters the table at all. -/
def eligible (maxFret : ℚ) (cell : VoicingCell) : Bool :=
  isFinite (some cell.confidence) && decide (0 < cell.confidence) &&
    decide (noteStringMask cell.roundedNote maxFret ≠ 0)

/-- The pass over the table for one candidate, from the highest mask down. -/
def enterCandidate (limit openCount : ℕ) (maxFret : ℚ) (table : ValueTable UsedMask FilterState)
    (cell : VoicingCell) : ValueTable UsedMask FilterState :=
  if eligible maxFret cell then
    sweep FilterState.improves (voicingOffers limit openCount maxFret cell) (allMasks 8).reverse table
  else table

/-- The table after all candidates. -/
def filterTable (limit : ℕ) (maxFret : ℚ) (candidates : List VoicingCell) :
    ValueTable UsedMask FilterState :=
  candidates.foldl (enterCandidate limit (openCandidateCount candidates) maxFret) startTable

/-- `best_mask` and `best_score`. -/
def bestEntry (table : ValueTable UsedMask FilterState) : UsedMask × ℚ :=
  strongest (fun newer older => decide (older.2 + FilterState.scoreTolerance < newer.2)) (0, 0)
    ((allMasks 8).tail.map fun used => (used, (table.value used).score))

/-- The cell written for a decoded note: the first candidate with that note. -/
def sourceCell (candidates : List VoicingCell) (note : ℤ) : Option VoicingCell :=
  (candidates.find? fun cell => decide (cell.roundedNote = note)).map fun cell =>
    { note, confidence := cell.confidence, energy := cell.energy, onset := 0 }

/-- The cells that are read back from an entry, from the lowest string on. -/
def decodedCells (candidates : List VoicingCell) (mask : UsedMask) (state : FilterState) :
    List VoicingCell :=
  (List.finRange 8).filterMap fun (string : Fin 8) =>
    if mask[(string : ℕ)] then sourceCell candidates (state.decodedNote string) else none

/-- `move_previous`. -/
def movePrevious (key previous : VoicingCell) : Bool :=
  decide (key.onset < previous.onset) ||
    (eelEqual previous.onset key.onset && decide (key.note < previous.note))

/-- `m3_selection_sort`. -/
def selectionSort (cells : List VoicingCell) : List VoicingCell :=
  insertAll movePrevious (cells.take selectionInternalCandidates) ++
    cells.drop selectionInternalCandidates

/-- The cells from `selection_base` on that the filter considers. -/
def consideredCandidates (selection : List VoicingCell) (selectedCount : ℚ) : List VoicingCell :=
  selection.take (min selectionInternalCandidates (floor selectedCount).toNat)

/-- `limit`. -/
def voicingLimit (maxVoiceCount : ℚ) : ℕ := min maxVoices (floor maxVoiceCount).toNat

/-- `m3_profile_filter_selected`: the cells that it leaves from `selection_base` on. -/
def profileFilterSelected (profileMode : ProfileMode) (selection : List VoicingCell)
    (selectedCount maxVoiceCount maxFret : ℚ) : List VoicingCell :=
  let candidates := consideredCandidates selection selectedCount
  match profileMode with
  | .general => candidates
  | .m3 =>
      let table := filterTable (voicingLimit maxVoiceCount) maxFret candidates
      let best := bestEntry table
      selectionSort (decodedCells candidates best.1 (table.value best.1))

end M3Midi.Jsfx
