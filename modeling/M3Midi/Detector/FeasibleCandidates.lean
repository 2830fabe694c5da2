import M3Midi.Detector.LaneProjection
import M3Midi.Foundation.MaskKnapsack
import Mathlib.Algebra.Order.Ring.Rat

/-! # The selection of feasible candidates

Among the pitch candidates of a tick those are selected that the eight strings can sound
together. An established group of strings counts with all of them, and one group may have
priority. What is left of the evidence is given: which candidates the spectrum admits, and
their scores. Numbers are exact.
-/

namespace M3Midi

open Foundation

/-- `kScoreEpsilon`, up to which a score counts as none. -/
def scoreEpsilon : ℚ := 1 / (10 ^ 15 : ℕ)

/-- `kM3FrettedNotePenalty`, what every fretted note costs. -/
def frettedNotePenalty : ℚ := 1 / 5

/-- `kM3FretPenalty`, what every fret costs in addition. -/
def fretPenalty : ℚ := 5 / 1000

/-- `kM3OpenChordMinimum`, the number of open strings that make an open chord. -/
def openChordMinimum : ℕ := 2

/-- `kM3RetainedUnisonDecayFloorRatio`, the part of its score that a decaying unison may lose. -/
def retainedUnisonDecayFloorRatio : ℚ := 1 / 2

/-- The options that the pool can hold. -/
def poolCapacity : ℕ := maxVoices * maxVoices

/-- The strings on which a note can be played (`refresh_m3_playable_string_masks`). -/
def playableMask (maxFret note : ℕ) : StringMask :=
  (List.finRange maxVoices).foldl (fun mask string =>
    if m3OpenNotes string ≤ note ∧ note ≤ m3OpenNotes string + maxFret then
      mask ||| LaneMask.single string
    else mask) 0

/-- What `select_m3_feasible_candidates` finds about a candidate. -/
structure SelectorCandidate where
  active : Bool := false
  assignedStringMask : StringMask := 0
  /-- `FineFrequencyEvidenceState` -/
  fineValid : Bool := false
  multiSourceObserved : Bool := false
  fineMemberMask : StringMask := 0
  /-- One of the gates for the beats of a retained unison is met. -/
  beatSupported : Bool := false
  /-- What `bounded_spectral_tier_completion` makes of the group. -/
  tierCompletion : StringMask := 0
  score : ℚ := 0
  fundamental : ℚ := 0
  selectionScore : ℚ := 0
  spectralEligible : Bool := false
  calibratedBandRescue : Bool := false
  directFundamentalPeak : Bool := false
  deriving DecidableEq, Repr

/-- The detector as the selection finds it in a tick. Its candidates are numbered by their pitch,
from the lowest note on. -/
structure FeasibleSelector where
  lowestNote : ℕ
  maxFret : ℕ
  maxPolyphony : ℕ
  positive : 0 < maxPolyphony
  fastEnergy : ℚ
  threshold : ℚ
  count : ℕ
  candidate : Fin count → SelectorCandidate

/-- `M3PoolCandidate` -/
structure M3PoolCandidate (count : ℕ) where
  detectorIndex : Fin count
  stringMask : StringMask
  score : ℚ
  active : Bool
  deriving DecidableEq, Repr

/-- A valid `M3DpState`, with the options it has chosen as a set. A mask of strings that no state
has reached has none. -/
structure M3DpState where
  scoreSum : ℚ := 0
  chosen : Finset ℕ := ∅
  voiceCount : ℕ := 0
  retainedActive : ℕ := 0
  deriving DecidableEq

/-- Strings for an option, with what the option scores on them. -/
structure M3Placement where
  strings : StringMask
  score : ℚ
  deriving DecidableEq, Repr, Inhabited

namespace FeasibleSelector

variable (selector : FeasibleSelector)

/-- The note of a candidate. -/
def note (candidate : Fin selector.count) : ℕ := selector.lowestNote + candidate

/-- `playable_string_mask` -/
def playableStringMask (candidate : Fin selector.count) : StringMask :=
  playableMask selector.maxFret (selector.note candidate)

/-- The score of a candidate as a part of the fast energy. -/
def normalizedScore (candidate : Fin selector.count) : ℚ :=
  (selector.candidate candidate).score / max selector.fastEnergy scoreEpsilon

section Groups

/-- The committed group of a candidate is retained as it is. -/
def retains (candidate : Fin selector.count) : Bool :=
  let state := selector.candidate candidate
  let committed := state.assignedStringMask
  let members := stringCount committed
  state.active && 2 ≤ members && members ≤ 4 && members ≤ selector.maxPolyphony &&
    state.fineValid && state.multiSourceObserved && state.fineMemberMask = committed &&
    state.beatSupported && committed &&& selector.playableStringMask candidate = committed &&
    selector.threshold * retainedUnisonDecayFloorRatio < state.score

/-- The group of a candidate is completed by a string. -/
def completes (candidate : Fin selector.count) : Bool :=
  let state := selector.candidate candidate
  let fineGroup := state.fineMemberMask &&& selector.playableStringMask candidate
  let members := stringCount state.tierCompletion
  state.active && state.fineValid && state.multiSourceObserved && 2 ≤ stringCount fineGroup &&
    stringCount fineGroup < 4 && selector.threshold * retainedUnisonDecayFloorRatio < state.score &&
    state.directFundamentalPeak && state.tierCompletion ≠ fineGroup && 2 ≤ members &&
    members ≤ 4 && members ≤ selector.maxPolyphony

/-- `selector_group_masks_` -/
def selectorGroupMask (candidate : Fin selector.count) : StringMask :=
  if selector.completes candidate then (selector.candidate candidate).tierCompletion
  else if selector.retains candidate then (selector.candidate candidate).assignedStringMask
  else 0

/-- The retained group that scores highest has priority. -/
def priorityUnison : Option (Fin selector.count) :=
  ProposalTable.pick selector.retains
    (fun candidate other =>
      (selector.candidate other).score < (selector.candidate candidate).score)
    (List.finRange selector.count)

/-- The strings that the priority unison takes before the search. -/
def priorityUnisonMask : StringMask :=
  match selector.priorityUnison with
  | none => 0
  | some candidate => selector.selectorGroupMask candidate

end Groups

section Pool

/-- The candidate is in the pool. -/
def inPool (pool : List (M3PoolCandidate selector.count)) (candidate : Fin selector.count) : Bool :=
  pool.any fun option => option.detectorIndex = candidate

/-- A group without priority goes into the pool. It has two to four strings, and the pool has to
have room. -/
def pushGroup (pool : List (M3PoolCandidate selector.count)) (candidate : Fin selector.count) :
    List (M3PoolCandidate selector.count) :=
  let group := selector.selectorGroupMask candidate
  let members := stringCount group
  if selector.priorityUnison = some candidate ∨ members < 2 ∨ 4 < members ∨
      selector.maxPolyphony < members ∨ poolCapacity ≤ pool.length then pool
  else
    pool ++ [{
      detectorIndex := candidate
      stringMask := group
      score :=
        if 0 < (selector.candidate candidate).selectionScore then
          (selector.candidate candidate).selectionScore
        else selector.normalizedScore candidate
      active := true }]

/-- The groups come first. -/
def groupPool : List (M3PoolCandidate selector.count) :=
  (List.finRange selector.count).foldl selector.pushGroup []

/-- The candidate may go into the pool for a string. -/
def admitsOn (string : Fin maxVoices) (taken : Finset (Fin selector.count))
    (candidate : Fin selector.count) : Bool :=
  selector.priorityUnison ≠ some candidate && (selector.candidate candidate).spectralEligible &&
    candidate ∉ taken && !(selector.candidate candidate).calibratedBandRescue &&
    (selector.playableStringMask candidate).getLsbD string

/-- Active candidates come before others, then those with the higher score. -/
def precedes (candidate other : Fin selector.count) : Bool :=
  let first := selector.candidate candidate
  let second := selector.candidate other
  (first.active && !second.active) ||
    (first.active = second.active &&
      (second.selectionScore < first.selectionScore ||
        (first.selectionScore = second.selectionScore && candidate < other)))

/-- The next candidate for a string. -/
def bestOn (string : Fin maxVoices) (taken : Finset (Fin selector.count)) :
    Option (Fin selector.count) :=
  ProposalTable.pick (selector.admitsOn string taken) selector.precedes
    (List.finRange selector.count)

/-- The ranks of a string that are left. For each of them, the best candidate that the string can
play and that is not in the pool joins it. -/
def stringPool (string : Fin maxVoices) : ℕ → Finset (Fin selector.count) →
    List (M3PoolCandidate selector.count) → List (M3PoolCandidate selector.count)
  | 0, _, pool => pool
  | ranks + 1, taken, pool =>
      match selector.bestOn string taken with
      | none => pool
      | some best =>
          if selector.inPool pool best then stringPool string ranks (insert best taken) pool
          else if poolCapacity ≤ pool.length then pool
          else
            stringPool string ranks (insert best taken) (pool ++ [{
              detectorIndex := best
              stringMask := selector.playableStringMask best
              score := (selector.candidate best).selectionScore
              active := (selector.candidate best).active }])

/-- `m3_pool_` -/
def pool : List (M3PoolCandidate selector.count) :=
  (List.finRange maxVoices).foldl (fun pool string =>
    selector.stringPool string selector.maxPolyphony ∅ pool) selector.groupPool

end Pool

section Options

/-- `is_m3_open_note` -/
def isM3OpenNote (note : ℕ) : Bool :=
  (List.finRange maxVoices).any fun string => note = m3OpenNotes string

/-- Open notes in the pool; on wide fret boards only those with a direct fundamental. -/
def openCandidateCount : ℕ :=
  selector.pool.countP fun option =>
    isM3OpenNote (selector.note option.detectorIndex) &&
      (selector.maxFret ≤ 2 || (selector.candidate option.detectorIndex).score * (1 / 2) ≤
        (selector.candidate option.detectorIndex).fundamental)

/-- The strings a candidate takes as one, of those it may use: its group, or the committed
group when live evidence matches it. -/
def atomicStrings (candidate : Fin selector.count) (stringMask : StringMask) : StringMask :=
  let group := selector.selectorGroupMask candidate
  let state := selector.candidate candidate
  let committed := state.assignedStringMask
  if stringCount group < 2 ∧ state.active = true ∧ 2 ≤ stringCount committed ∧
      stringCount committed ≤ 4 ∧ state.fineValid = true ∧ state.multiSourceObserved = true ∧
      2 ≤ stringCount state.fineMemberMask ∧ stringCount state.fineMemberMask ≤ 4 ∧
      state.fineMemberMask = committed ∧ committed &&& stringMask = committed then
    committed
  else group

/-- The strings that an option of the pool takes as a whole, if it is a group. -/
def atomicGroup (option : M3PoolCandidate selector.count) : StringMask :=
  selector.atomicStrings option.detectorIndex option.stringMask

/-- What a string takes off an option's score. -/
def assignmentPenalty (option : M3PoolCandidate selector.count) (string : Fin maxVoices) : ℚ :=
  let note := selector.note option.detectorIndex
  let fret := note - m3OpenNotes string
  if (openChordMinimum ≤ selector.openCandidateCount ∨ m3OpenNotes (Fin.last 7) < note) ∧ 0 < fret then
    frettedNotePenalty + fretPenalty * fret
  else 0

/-- The strings that an option may take. -/
def placements (option : M3PoolCandidate selector.count) : List M3Placement :=
  if 2 ≤ stringCount (selector.atomicGroup option) then
    [{ strings := selector.atomicGroup option, score := option.score }]
  else
    ((List.finRange maxVoices).filter fun string : Fin maxVoices =>
      option.stringMask.getLsbD string).map
      fun string : Fin maxVoices => {
        strings := LaneMask.single string
        score := option.score - selector.assignmentPenalty option string }

/-- `m3_dp_states_` and the loops over it. Items are the options of the pool, and their places are
the strings they may take. -/
def knapsack : MaskKnapsack M3Placement M3DpState maxVoices where
  places index := selector.pool[index]?.elim [] selector.placements
  mask placement := placement.strings
  admits state placement :=
    decide (state.voiceCount + stringCount placement.strings ≤ selector.maxPolyphony)
  extend index placement state := {
    scoreSum := state.scoreSum + placement.score
    chosen := insert index state.chosen
    voiceCount := state.voiceCount + stringCount placement.strings
    retainedActive := state.retainedActive +
      selector.pool[index]?.elim 0 fun option => if option.active then 1 else 0 }
  better proposal current :=
    decide (current.scoreSum < proposal.scoreSum) ||
      (proposal.scoreSum = current.scoreSum &&
        (decide (current.retainedActive < proposal.retainedActive) ||
          (proposal.retainedActive = current.retainedActive &&
            decide (current.voiceCount < proposal.voiceCount))))

/-- The state that the table starts from. -/
def seed : M3DpState :=
  match selector.priorityUnison with
  | none => {}
  | some candidate => {
      scoreSum := selector.normalizedScore candidate
      voiceCount := stringCount selector.priorityUnisonMask
      retainedActive := 1 }

/-- The table after all options. -/
def dpStates : ProposalTable.ValueTable StringMask (Option M3DpState) :=
  selector.knapsack.solve selector.pool.length
    (MaskKnapsack.seeded selector.priorityUnisonMask selector.seed)

/-- The best state, and the strings it uses. -/
def best : M3DpState := (selector.knapsack.best selector.dpStates).1.getD {}

/-- The strings in use in the best state. -/
def bestUsedMask : StringMask := (selector.knapsack.best selector.dpStates).2

end Options

section Selection

/-- What a choice of options selects: its candidates, and the group that has priority. -/
def chosenBy (items : Finset ℕ) (candidate : Fin selector.count) : Bool :=
  selector.priorityUnison = some candidate ||
    (List.range selector.pool.length).any fun index =>
      index ∈ items && selector.pool[index]?.any fun option => option.detectorIndex = candidate

/-- The strongest direct option is added when nothing has been chosen. Of several that are as
strong, it is the first in the pool. -/
def fallbackBeside (voices : ℕ) : Option (M3PoolCandidate selector.count) :=
  if voices = 0 then
    ProposalTable.pick
      (fun option => (selector.candidate option.detectorIndex).directFundamentalPeak)
      (fun option other => (selector.candidate other.detectorIndex).selectionScore <
        (selector.candidate option.detectorIndex).selectionScore)
      selector.pool
  else none

/-- A candidate below the threshold is added to a chord that leaves a voice, and a string on which
the candidate can be played. -/
def rescuedBeside (items : Finset ℕ) (voices : ℕ) (used : StringMask) :
    Option (Fin selector.count) :=
  if 0 < voices ∧ voices < selector.maxPolyphony then
    ProposalTable.pick
      (fun candidate => (selector.candidate candidate).calibratedBandRescue &&
        (selector.candidate candidate).spectralEligible && !selector.chosenBy items candidate &&
        selector.playableStringMask candidate &&& ~~~used ≠ 0)
      (fun candidate other => (selector.candidate other).selectionScore <
        (selector.candidate candidate).selectionScore)
      (List.finRange selector.count)
  else none

/-- What the best state selects, with the group that has priority. -/
def chosen (candidate : Fin selector.count) : Bool :=
  selector.chosenBy selector.best.chosen candidate

/-- The single option that is taken if the search has chosen nobody. -/
def fallback : Option (M3PoolCandidate selector.count) :=
  selector.fallbackBeside selector.best.voiceCount

/-- The active candidate that is added to what the search has chosen. -/
def rescued : Option (Fin selector.count) :=
  selector.rescuedBeside selector.best.chosen selector.best.voiceCount selector.bestUsedMask

/-- `selected` -/
def selected : Finset (Fin selector.count) :=
  Finset.univ.filter fun candidate =>
    selector.chosen candidate = true ∨
      selector.fallback.map (·.detectorIndex) = some candidate ∨
      selector.rescued = some candidate

end Selection

end FeasibleSelector

end M3Midi
