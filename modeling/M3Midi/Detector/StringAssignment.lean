import M3Midi.Detector.FeasibleCandidates
import M3Midi.Foundation.MaskAssignment
import Mathlib.Algebra.Order.AbsoluteValue.Basic
import Mathlib.Algebra.Order.Monoid.Unbundled.WithTop

/-! # The assignment of strings

Every selected candidate gets a string of its own, at the least cost, and the string word
packs three bits for each voice. Strings of candidates that still sound, and those that a
group needs beside its first, are reserved. What the calibration and the evidence say of a
candidate is given. Numbers are exact.
-/

namespace M3Midi

open Foundation

/-- `kM3StringGaugeMils` -/
def m3StringGaugeMils : Fin maxVoices → ℕ := ![80, 60, 44, 32, 24, 16, 12, 9]

/-- The intervals at which a note is a harmonic of another (`kHarmonicIntervals`), in semitones. -/
def harmonicIntervals : List ℕ := [12, 19, 24, 28, 31]

/-- What every fret between two voices of a chord costs. -/
def assignmentFretShapePenalty : ℚ := 1 / 2

/-- What a string gains whose learned profile fits, when all playable strings have one. -/
def calibrationProfileBonus : ℚ := 512

/-- What a string gains whose learned profile fits, when only some have one. -/
def partialCalibrationProfileBonus : ℚ := 30

/-- What every cent away from the measured centre costs. -/
def calibrationCentsPenalty : ℚ := 16

/-- What every cent costs where the learned profiles of the strings differ clearly. -/
def distinctiveCalibrationCentsPenalty : ℚ := 21

/-- The distance from which two learned profiles differ clearly. -/
def distinctiveCalibrationProfileDistance : ℚ := 1 / 100

/-- The cents by which one string must be closer than the others to decide alone. -/
def calibratedCentsMinimumAdvantage : ℚ := 3 / 4

/-- The similarity by which a profile must lead to contradict another one. -/
def calibratedCandidateMinimumAdvantage : ℚ := 15 / 1000

/-- What an open string gains in a chord of open strings. -/
def openStringAssignmentBonus : ℚ := 64

/-- What a string gains that fine evidence counts among the members of a group. -/
def fineMemberBonus : ℚ := 512

/-- What the string gains on which a voice sounds already. -/
def activeStringRetentionBonus : ℚ := 1024

/-- What the string gains on which a candidate has been placed before it sounds. -/
def provisionalStringRetentionBonus : ℚ := 4

/-- The weight of the posterior's cost of a string. -/
def stringPosteriorCost : ℚ := 1 / 4

/-- The weight of that cost where the posterior is decisive. -/
def stringPosteriorDecisiveCost : ℚ := 2

/-- The probability from which the posterior is decisive. -/
def stringPosteriorDecisiveProbability : ℚ := 4 / 5

/-- What is known of a candidate on a string. -/
structure AssignmentPoint where
  /-- The bank has a point that is not missing. -/
  learned : Bool := false
  similarity : ℚ := 0
  cents : ℚ := 0
  probability : ℚ := 0
  negativeLogProbability : ℚ := 0

/-- What `assign_m3_strings` finds about a candidate. -/
structure AssignmentCandidate where
  active : Bool := false
  ageTicks : ℕ := 0
  /-- `none` stands for `kUnassignedTunerString`. -/
  assignedString : Option (Fin maxVoices) := none
  assignedStringMask : StringMask := 0
  spectralLaneMask : StringMask := 0
  polyphonicContext : Bool := false
  calibratedLaneCommitted : Bool := false
  /-- `selector_group_masks_` -/
  groupMask : StringMask := 0
  /-- What `spectral_lane_assignment` proposes. -/
  spectralLane : StringMask := 0
  phaseValid : Bool := false
  assignmentCents : ℚ := 0
  fineValid : Bool := false
  multiSourceObserved : Bool := false
  fineMemberMask : StringMask := 0
  finePendingMemberMask : StringMask := 0
  beatValid : Bool := false
  point : Fin maxVoices → AssignmentPoint := fun _ => {}
  posteriorBest : Option (Fin maxVoices) := none
  bestDetuningString : Option (Fin maxVoices) := none
  /-- How far the profiles of two strings are apart. -/
  profileDistance : Fin maxVoices → Fin maxVoices → ℚ := fun _ _ => 0

/-- The detector in the M3 profile, as the assignment finds it in a tick. The costs are exact
numbers, and states of equal cost are told apart by their words. -/
structure StringAssigner where
  lowestNote : ℕ
  maxFret : ℕ
  stableTunerTicks : ℕ
  count : ℕ
  candidate : Fin count → AssignmentCandidate

/-- `Assignment` -/
structure M3Assignment where
  cost : ℚ := 0
  strings : BitVec 32 := 0

/-- The word with the string of a voice. -/
def packString (voice : ℕ) (string : Fin maxVoices) (strings : BitVec 32) : BitVec 32 :=
  (strings &&& ~~~(7#32 <<< (voice * 3))) ||| (BitVec.ofNat 32 string <<< (voice * 3))

/-- The string of a voice in the word. -/
def unpackString (strings : BitVec 32) (voice : ℕ) : Fin maxVoices :=
  Fin.ofNat 8 ((strings >>> (voice * 3)) &&& 7#32).toNat

namespace StringAssigner

variable (assigner : StringAssigner) (selected : Finset (Fin assigner.count))

/-- The note of a candidate. -/
def note (candidate : Fin assigner.count) : ℕ := assigner.lowestNote + candidate

/-- `playable_string_mask` -/
def playableStringMask (candidate : Fin assigner.count) : StringMask :=
  playableMask assigner.maxFret (assigner.note candidate)

/-- `candidates`: the first that are selected, as many as there are voices. -/
def voices : List (Fin assigner.count) :=
  ((List.finRange assigner.count).filter fun candidate => candidate ∈ selected).take maxVoices

section Context

/-- An active candidate that is accompanied by its upper harmonics only. -/
def onlyUpperHarmonics (candidate : Fin assigner.count) : Bool :=
  (assigner.candidate candidate).active && (assigner.voices selected).all fun other =>
    other = candidate || (candidate < other && ((other : ℕ) - candidate) ∈ harmonicIntervals)

/-- `polyphonic_context` after the tick. -/
def inPolyphonicContext (candidate : Fin assigner.count) : Bool :=
  (assigner.candidate candidate).polyphonicContext ||
    (1 < (assigner.voices selected).length && candidate ∈ assigner.voices selected &&
      !assigner.onlyUpperHarmonics selected candidate)

/-- `calibrated_reassignment_ready`: a settled voice that is alone. -/
def calibratedReassignmentReady : Bool :=
  match assigner.voices selected with
  | [only] =>
      let state := assigner.candidate only
      !state.polyphonicContext && stringCount state.assignedStringMask ≤ 1 &&
        ((List.finRange assigner.count).all fun candidate =>
          candidate = only || !(assigner.candidate candidate).active) &&
        state.active && !state.calibratedLaneCommitted &&
        assigner.stableTunerTicks ≤ state.ageTicks && state.phaseValid
  | _ => false

end Context

section Cost

variable (candidate : Fin assigner.count) (string : Fin maxVoices)

/-- The strings on which a candidate can be played, in ascending order. -/
def playableStrings : List (Fin maxVoices) :=
  (List.finRange maxVoices).filter fun string : Fin maxVoices =>
    (assigner.playableStringMask candidate).getLsbD string

/-- The string has a learned profile at the candidate's fret. -/
def learned : Bool := ((assigner.candidate candidate).point string).learned

/-- The playable strings with a point in the bank. -/
def learnedStrings : List (Fin maxVoices) :=
  (assigner.playableStrings candidate).filter (assigner.learned candidate)

/-- Every string on which the candidate can be played has a learned profile there. -/
def allPlayableProfilesLearned : Bool :=
  (assigner.playableStrings candidate).all (assigner.learned candidate)

/-- How far the candidate's spectrum is like the learned profile of a string. -/
def similarity : ℚ := ((assigner.candidate candidate).point string).similarity

/-- `learned_center` -/
def learnedCenter : ℚ :=
  ((assigner.learnedStrings candidate).map (assigner.similarity candidate)).sum /
    max 1 (assigner.learnedStrings candidate).length

/-- The highest similarity among the strings that have a learned profile. -/
def bestLearnedSimilarity : ℚ :=
  (assigner.learnedStrings candidate).foldl (fun best string =>
    max best (assigner.similarity candidate string)) (-1)

/-- `learned_cents_errors` -/
def learnedCentsError : ℚ :=
  if assigner.allPlayableProfilesLearned candidate && (assigner.candidate candidate).phaseValid then
    |(assigner.candidate candidate).assignmentCents -
      ((assigner.candidate candidate).point string).cents|
  else 0

/-- The two smallest errors, and the string of the first; nothing is without bound. -/
def centsErrors : WithTop ℚ × WithTop ℚ × Option (Fin maxVoices) :=
  if assigner.allPlayableProfilesLearned candidate && (assigner.candidate candidate).phaseValid then
    (assigner.learnedStrings candidate).foldl (fun found string =>
      let error : WithTop ℚ := assigner.learnedCentsError candidate string
      if error < found.1 then (error, found.1, some string)
      else if error < found.2.1 then (found.1, error, found.2.2)
      else found) (⊤, ⊤, none)
  else (⊤, ⊤, none)

/-- One string is closer in cents than all others by the least advantage. -/
def calibratedCentsAreDecisive : Bool :=
  let errors := assigner.centsErrors candidate
  assigner.calibratedReassignmentReady selected && errors.2.1 ≠ ⊤ &&
    errors.1 + (calibratedCentsMinimumAdvantage : ℚ) ≤ errors.2.1

/-- The cents count more, since the learned profiles differ clearly. -/
def distinctiveCentsOverride : Bool :=
  match (assigner.centsErrors candidate).2.2, (assigner.candidate candidate).assignedString with
  | some best, some retained =>
      assigner.calibratedReassignmentReady selected && best ≠ retained &&
        (assigner.playableStringMask candidate).getLsbD retained &&
        assigner.learned candidate retained &&
        distinctiveCalibrationProfileDistance ≤
          (assigner.candidate candidate).profileDistance best retained
  | _, _ => false

/-- The beats show several strings. -/
def physicalUnisonResolved : Bool :=
  let state := assigner.candidate candidate
  state.fineValid && state.multiSourceObserved && 2 ≤ stringCount state.fineMemberMask

/-- The cents point to another string. -/
def contradictedByCalibratedCents : Bool :=
  assigner.calibratedReassignmentReady selected && assigner.allPlayableProfilesLearned candidate &&
    (assigner.candidate candidate).phaseValid &&
    (assigner.centsErrors candidate).1 + (calibratedCentsMinimumAdvantage : ℚ) ≤
      (assigner.learnedCentsError candidate string : WithTop ℚ)

/-- The learned profile of another string fits better by the least advantage. -/
def contradictedByCalibratedProfile : Bool :=
  assigner.calibratedReassignmentReady selected && assigner.allPlayableProfilesLearned candidate &&
    assigner.learned candidate string &&
    calibratedCandidateMinimumAdvantage ≤
      assigner.bestLearnedSimilarity candidate - assigner.similarity candidate string

/-- The active candidate keeps its string. -/
def retains : Bool :=
  (assigner.candidate candidate).active &&
    (assigner.candidate candidate).assignedString = some string

/-- What the fret of a string costs. -/
def fretCost : ℚ :=
  let fret : ℚ := (assigner.note candidate - m3OpenNotes string : ℕ)
  let gaugeRatio : ℚ := m3StringGaugeMils string / m3StringGaugeMils (0 : Fin 8)
  let stiffnessPrior := 3 / 4 + 1 / 4 * gaugeRatio
  let allLearned := assigner.allPlayableProfilesLearned candidate
  let shapePenalty := if allLearned then 0 else assignmentFretShapePenalty
  let positionPrior :=
    if allLearned && assigner.calibratedReassignmentReady selected then fretPenalty * fret else fret
  positionPrior + shapePenalty * stiffnessPrior * fret * fret

/-- What the posterior of a string costs. -/
def posteriorCost : ℚ :=
  let state := assigner.candidate candidate
  if assigner.allPlayableProfilesLearned candidate && assigner.learnedStrings candidate ≠ [] &&
      assigner.calibratedReassignmentReady selected && !state.beatValid &&
      !assigner.calibratedCentsAreDecisive selected candidate &&
      !assigner.physicalUnisonResolved candidate then
    let best := state.posteriorBest.elim 0 fun string => (state.point string).probability
    (if stringPosteriorDecisiveProbability ≤ best && state.posteriorBest = state.bestDetuningString then
        stringPosteriorDecisiveCost
      else stringPosteriorCost) * (state.point string).negativeLogProbability
  else 0

/-- What the calibrated profiles make of a string. A string whose learned profile fits costs less,
and cents away from its centre cost more. -/
def profileCost : ℚ :=
  let state := assigner.candidate candidate
  let ready := assigner.calibratedReassignmentReady selected
  let allLearned := assigner.allPlayableProfilesLearned candidate
  let profile :=
    if assigner.learned candidate string && (allLearned || ready) then
      (if allLearned then calibrationProfileBonus else partialCalibrationProfileBonus) *
        (assigner.similarity candidate string - assigner.learnedCenter candidate)
    else 0
  let openString :=
    if allLearned && assigner.note candidate = m3OpenNotes string &&
        ((!ready && assigner.retains candidate string) ||
          (assigner.bestLearnedSimilarity candidate - assigner.similarity candidate string <
              calibratedCandidateMinimumAdvantage &&
            !assigner.contradictedByCalibratedCents selected candidate string)) then
      openStringAssignmentBonus
    else 0
  let cents :=
    if assigner.learned candidate string && allLearned && state.phaseValid then
      (if assigner.distinctiveCentsOverride selected candidate then distinctiveCalibrationCentsPenalty
        else calibrationCentsPenalty) * |state.assignmentCents - (state.point string).cents|
    else 0
  cents - profile - openString

/-- What the fine evidence and the string kept take off the cost. -/
def evidenceBonus : ℚ :=
  let state := assigner.candidate candidate
  let resolved := assigner.physicalUnisonResolved candidate
  let member := state.fineMemberMask.getLsbD string
  let settled := assigner.stableTunerTicks ≤ state.ageTicks && !(resolved && !member) &&
    !assigner.contradictedByCalibratedProfile selected candidate string &&
    !assigner.contradictedByCalibratedCents selected candidate string
  (if resolved && member then fineMemberBonus else 0) +
    if assigner.retains candidate string then
      if settled then activeStringRetentionBonus else provisionalStringRetentionBonus
    else 0

/-- What a string adds to the cost of an assignment. -/
def stringCost : ℚ :=
  assigner.fretCost selected candidate string + assigner.posteriorCost selected candidate string +
    assigner.profileCost selected candidate string - assigner.evidenceBonus selected candidate string

end Cost

section Table

/-- `reserved_strings`. They are those of voices that sound on without being selected, and the
further strings of the selected ones' groups. -/
def reservedStrings : StringMask :=
  (List.finRange assigner.count).foldl (fun reserved candidate =>
    let state := assigner.candidate candidate
    match state.active, state.assignedString with
    | true, some string =>
        let primary : StringMask := LaneMask.single string
        if candidate ∈ selected then
          reserved ||| ((if state.groupMask = 0 then state.assignedStringMask else state.groupMask) &&&
            ~~~primary)
        else reserved ||| if state.assignedStringMask = 0 then primary else state.assignedStringMask
    | _, _ => reserved) 0

/-- The loops over the voices. -/
def table : MaskAssignment M3Assignment maxVoices where
  allowed voice := (assigner.voices selected)[voice]?.elim 0 assigner.playableStringMask
  extend voice string state := {
    cost := state.cost + (assigner.voices selected)[voice]?.elim 0 fun candidate =>
      assigner.stringCost selected candidate string
    strings := packString voice string state.strings }
  better proposal kept :=
    decide (proposal.cost < kept.cost) ||
      (proposal.cost = kept.cost && decide (proposal.strings < kept.strings))

/-- The best assignment, if there is one. -/
def bestAssignment : Option M3Assignment :=
  (assigner.table selected).best ((assigner.table selected).solve (assigner.voices selected).length
    (MaskAssignment.reserved (assigner.reservedStrings selected) {}))

/-- A group of strings emerges, and the spectrum has no say. -/
def physicalGroupEmerging (candidate : Fin assigner.count) : Bool :=
  let state := assigner.candidate candidate
  state.beatValid || 1 < stringCount state.fineMemberMask ||
    1 < stringCount state.finePendingMemberMask

/-- `assign_m3_strings`. The table over the strings finds a cheapest assignment, and among those
the one with the smallest word. -/
def assignM3Strings (candidate : Fin assigner.count) : AssignmentCandidate :=
  let noted := {
    assigner.candidate candidate with
    polyphonicContext := assigner.inPolyphonicContext selected candidate
    calibratedLaneCommitted := (assigner.candidate candidate).calibratedLaneCommitted ||
      (candidate ∈ assigner.voices selected && assigner.calibratedReassignmentReady selected &&
        assigner.allPlayableProfilesLearned candidate) }
  match assigner.bestAssignment selected with
  | none => noted
  | some best =>
      if candidate ∈ assigner.voices selected then {
        noted with
        assignedString := some (unpackString best.strings ((assigner.voices selected).idxOf candidate))
        spectralLaneMask :=
          if assigner.physicalGroupEmerging candidate then 0
          else (assigner.candidate candidate).spectralLane }
      else noted

end Table

end StringAssigner

end M3Midi
