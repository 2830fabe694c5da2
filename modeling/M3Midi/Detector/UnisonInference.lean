import M3Midi.Detector.FeasibleCandidates
import M3Midi.Foundation.MaskSweep

/-! # Strings of a unison

A selected candidate may own more strings than the one assigned to it. What the evidence
proposes becomes its own when it lasts, when no other candidate owns it, and as long as
there are voices left. Of the fit of the profiles the strings it tries are modelled; which of
them it takes is given, and so are the margins and gates of the spectral tiers.
-/

namespace M3Midi

open Foundation

/-- What `infer_m3_unison_strings` keeps of a candidate. -/
structure UnisonCandidate where
  active : Bool := false
  /-- `none` stands for `kUnassignedTunerString`. -/
  assignedString : Option (Fin maxVoices) := none
  assignedStringMask : StringMask := 0
  midiVoiceMask : StringMask := 0
  ageTicks : ℕ := 0
  pendingUnisonMask : StringMask := 0
  unisonEvidenceTicks : ℕ := 0
  unisonGapTicks : ℕ := 0
  committedUnisonConfirmedTicks : ℕ := 0
  latestUnisonProposalMask : StringMask := 0
  latestUnisonProposalTemporal : Bool := false

/-- The evidence of a tick about a candidate. Where it comes from is left out: the inference is
proved right for whatever it is. -/
structure UnisonEvidence where
  /-- `selector_group_masks_` -/
  groupMask : StringMask := 0
  fineValid : Bool := false
  multiSourceObserved : Bool := false
  fineMemberMask : StringMask := 0
  /-- The strings of the spectral heads whose margin is large enough. -/
  heads : List (Fin maxVoices) := []
  /-- The beats and the energy of an added string pass their gates. -/
  supported : Fin maxVoices → Bool := fun _ => false
  beatValid : Bool := false
  /-- There is energy to fit profiles to. -/
  observed : Bool := false
  /-- The bank has a profile. -/
  templateValid : Fin maxVoices → Bool := fun _ => false
  /-- The string that fits best, of those allowed, after the groups so far. -/
  grows : List StringMask → StringMask → Option (Fin maxVoices) := fun _ _ => none
  /-- The strings that fit best together, of those allowed and within the bounds. -/
  complements : List StringMask → StringMask → ℕ → ℕ → Option StringMask := fun _ _ _ _ => none
  /-- Two strings of a group are too close. -/
  nearDuplicate : StringMask → Bool := fun _ => false
  dropoutDecisions : ℕ := 1

/-- The detector in the M3 profile, as the inference finds it in a tick. -/
structure UnisonInference where
  lowestNote : ℕ
  maxFret : ℕ
  maxPolyphony : ℕ
  profileReadyTicks : ℕ
  unisonEvidenceTicks : ℕ
  count : ℕ
  selected : Finset (Fin count)
  candidate : Fin count → UnisonCandidate
  evidence : Fin count → UnisonEvidence

/-- The voices left, and the strings allocated in the tick. A string that is allocated to one
candidate is taken off for the next ones. -/
structure LaneBudget where
  remaining : ℕ
  allocated : StringMask

/-- `spectral_tier_completion_candidate` -/
def spectralTierCompletionCandidate (fine playable : StringMask) (heads : List (Fin maxVoices)) :
    StringMask :=
  if stringCount fine < 2 ∨ 4 ≤ stringCount fine then fine
  else
    let qualified := heads.foldl (fun qualified string =>
      if playable.getLsbD string then qualified ||| LaneMask.single string else qualified) fine
    if stringCount qualified = stringCount fine + 1 then qualified else fine

/-- `bounded_spectral_tier_completion` -/
def boundedSpectralTierCompletion (active : Bool) (current fine playable : StringMask)
    (evidence : UnisonEvidence) : StringMask :=
  let qualified := spectralTierCompletionCandidate fine playable evidence.heads
  let added := qualified &&& ~~~fine
  if active = false ∨ current = 0 ∨ qualified = fine ∨
      (current &&& ~~~fine ≠ 0 ∧ current ≠ qualified) ∨ stringCount added ≠ 1 then fine
  else if (List.finRange maxVoices).any fun string : Fin maxVoices =>
      added.getLsbD string && evidence.supported string then qualified
  else fine

namespace UnisonInference

variable (inference : UnisonInference)

/-- `playable_string_mask` -/
def playableStringMask (candidate : Fin inference.count) : StringMask :=
  playableMask inference.maxFret (inference.lowestNote + candidate)

/-- `primary_bit`; nothing where no string is assigned. -/
def primary (candidate : Fin inference.count) : StringMask :=
  (inference.candidate candidate).assignedString.elim 0 fun string => LaneMask.single string

section Owners

/-- What a candidate owns that still sounds without being selected. -/
def ownedStrings (candidate : Fin inference.count) : StringMask :=
  let state := inference.candidate candidate
  let owned := state.assignedStringMask ||| state.midiVoiceMask
  if owned = 0 then inference.primary candidate else owned

/-- The candidate sounds without being selected. -/
def coasting (candidate : Fin inference.count) : Bool :=
  candidate ∉ inference.selected && (inference.candidate candidate).active

/-- `coasting_strings` -/
def coastingStrings : StringMask :=
  (List.finRange inference.count).foldl (fun owned candidate =>
    if inference.coasting candidate then owned ||| inference.ownedStrings candidate else owned) 0

/-- `committed`: what a selected candidate owned, or its string. -/
def committed (candidate : Fin inference.count) : StringMask :=
  if (inference.candidate candidate).assignedString = none then 0
  else if (inference.candidate candidate).assignedStringMask = 0 then inference.primary candidate
  else (inference.candidate candidate).assignedStringMask

/-- `committed_selected_strings` -/
def committedSelectedStrings : StringMask :=
  (List.finRange inference.count).foldl (fun owned candidate =>
    if candidate ∈ inference.selected then owned ||| inference.committed candidate else owned) 0

/-- `committed_owner_counts` -/
def committedOwnerCount (string : Fin maxVoices) : ℕ :=
  (inference.selected.filter fun candidate =>
    (inference.committed candidate).getLsbD string = true).card

/-- The lanes that are taken before anything is inferred. -/
def occupiedLanes : ℕ :=
  max (stringCount (inference.committedSelectedStrings ||| inference.coastingStrings))
    inference.selected.card

/-- A candidate whose string is not among those it owned starts again with its string. -/
def restarts (candidate : Fin inference.count) : Bool :=
  (inference.candidate candidate).assignedStringMask &&& inference.primary candidate = 0

/-- `committed_for_candidate` -/
def committedFor (candidate : Fin inference.count) : StringMask :=
  if inference.restarts candidate then inference.primary candidate
  else (inference.candidate candidate).assignedStringMask

/-- What a candidate has committed to besides its own string. -/
def committedExtra (candidate : Fin inference.count) : StringMask :=
  inference.committedFor candidate &&& ~~~inference.primary candidate

/-- `other_owned_strings` -/
def otherOwnedStrings (candidate : Fin inference.count) : StringMask :=
  (List.finRange maxVoices).foldl (fun owned (string : Fin maxVoices) =>
    if (if (inference.committedFor candidate).getLsbD string then 1 else 0) <
        inference.committedOwnerCount string then
      owned ||| LaneMask.single string
    else owned) inference.coastingStrings

end Owners

section Proposal

variable (budget : LaneBudget) (candidate : Fin inference.count)

/-- `candidate_extra_capacity` -/
def extraCapacity : ℕ := min 3 (budget.remaining + stringCount (inference.committedExtra candidate))

/-- A group that the candidate may own. -/
def admits (group : StringMask) : Bool :=
  group &&& inference.primary candidate ≠ 0 && 2 ≤ stringCount group && stringCount group ≤ 4 &&
    group &&& inference.otherOwnedStrings candidate = 0 && group &&& budget.allocated = 0 &&
    stringCount group - 1 ≤ inference.extraCapacity budget candidate

/-- The strings that fine frequencies name, as far as they can be played. -/
def fineGroup : StringMask :=
  (inference.evidence candidate).fineMemberMask &&& inference.playableStringMask candidate

/-- The group that the tiers complete, if fine frequencies are valid but name too few. -/
def tierCompletion : StringMask :=
  let evidence := inference.evidence candidate
  let fine := inference.fineGroup candidate
  let completed := boundedSpectralTierCompletion
    ((inference.candidate candidate).active || evidence.multiSourceObserved)
    (inference.committedFor candidate) fine (inference.playableStringMask candidate) evidence
  if evidence.fineValid && 2 ≤ stringCount fine && stringCount fine < 4 && completed ≠ fine then
    completed
  else inference.committedFor candidate

/-- The completion is taken for the group. -/
def completes : Bool :=
  inference.tierCompletion candidate ≠ inference.committedFor candidate &&
    inference.admits budget candidate (inference.tierCompletion candidate)

/-- The group that the beats show. -/
def temporalGroup : Option StringMask :=
  if inference.completes budget candidate then some (inference.tierCompletion candidate)
  else if (inference.evidence candidate).fineValid &&
      inference.admits budget candidate (inference.fineGroup candidate) then
    some (inference.fineGroup candidate)
  else none

/-- The strings with a profile that may join a group. -/
def joining (group : StringMask) : StringMask :=
  (List.finRange maxVoices).foldl (fun joining (string : Fin maxVoices) =>
    if (inference.evidence candidate).templateValid string &&
        (inference.playableStringMask candidate &&&
          ~~~(group ||| inference.otherOwnedStrings candidate ||| budget.allocated)).getLsbD string
      then joining ||| LaneMask.single string
    else joining) 0

/-- The fit of the profiles adds one string after the other, or several that complement them;
`slots` are the strings that are still free to add, and one step is taken for each at most. -/
def grow : ℕ → ℕ → List StringMask → StringMask → StringMask
  | 0, _, _, group => group
  | steps + 1, slots, groups, group =>
      let evidence := inference.evidence candidate
      let joining := inference.joining budget candidate group
      if slots = 0 then group
      else
        match (evidence.grows groups joining).filter fun (string : Fin maxVoices) =>
            joining.getLsbD string with
        | some string =>
            grow steps (slots - 1) (group :: groups) (group ||| LaneMask.single string)
        | none =>
            let minimum := if groups = [] then 3 else 2
            match (evidence.complements groups joining minimum slots).filter fun subset =>
                evidence.beatValid && minimum ≤ stringCount subset && stringCount subset ≤ slots &&
                  subset &&& ~~~joining = 0 with
            | some subset =>
                grow steps (slots - stringCount subset) (group :: groups) (group ||| subset)
            | none => group

/-- What the profiles make of the string, once they can be compared. -/
def grownGroup : StringMask :=
  let evidence := inference.evidence candidate
  let capacity := inference.extraCapacity budget candidate
  if inference.profileReadyTicks ≤ (inference.candidate candidate).ageTicks && 0 < capacity &&
      evidence.observed && (inference.candidate candidate).assignedString.any (fun string =>
        evidence.templateValid string &&
          (inference.playableStringMask candidate).getLsbD string) then
    inference.grow budget candidate capacity capacity [] (inference.primary candidate)
  else inference.primary candidate

/-- Strings that are too close count as one without beats. -/
def distinctGroup : StringMask :=
  let evidence := inference.evidence candidate
  if !evidence.beatValid && evidence.nearDuplicate (inference.grownGroup budget candidate) then
    inference.primary candidate
  else inference.grownGroup budget candidate

/-- Three strings need beats, and four more than profiles. -/
def profileGroup : StringMask :=
  let members := stringCount (inference.distinctGroup budget candidate)
  if 3 < members ∨ (2 < members ∧ (inference.evidence candidate).beatValid = false) then
    inference.primary candidate
  else inference.distinctGroup budget candidate

/-- `proposed_group` -/
def proposedGroup : StringMask :=
  (inference.temporalGroup budget candidate).getD (inference.profileGroup budget candidate)

end Proposal

section Commit

variable (budget : LaneBudget) (candidate : Fin inference.count)

/-- What the detector keeps before the proposal. -/
def restarted : UnisonCandidate :=
  let state := inference.candidate candidate
  if inference.restarts candidate then {
    state with
    assignedStringMask := inference.primary candidate
    unisonEvidenceTicks := 0
    unisonGapTicks := 0
    pendingUnisonMask := 0 }
  else state

/-- The ticks for which a group has been proposed. -/
def evidenceTicks : ℕ :=
  let state := inference.restarted candidate
  let proposed := inference.proposedGroup budget candidate
  let reserved :=
    if inference.completes budget candidate then inference.tierCompletion candidate
    else (inference.evidence candidate).groupMask
  if reserved = proposed then inference.unisonEvidenceTicks
  else if state.pendingUnisonMask = proposed then
    if state.unisonEvidenceTicks < 0xFF then state.unisonEvidenceTicks + 1
    else state.unisonEvidenceTicks
  else 1

/-- The ticks for which nothing has been proposed. -/
def gapTicks : ℕ :=
  let state := inference.restarted candidate
  if state.assignedStringMask ≠ inference.primary candidate ∧ state.unisonGapTicks < 0xFFFF then
    state.unisonGapTicks + 1
  else state.unisonGapTicks

/-- A proposal that lasts is taken over, and what is owned is given back after a while. -/
def confirmedStrings : StringMask :=
  let owned := (inference.restarted candidate).assignedStringMask
  let proposed := inference.proposedGroup budget candidate
  if proposed ≠ inference.primary candidate then
    if inference.unisonEvidenceTicks ≤ inference.evidenceTicks budget candidate then proposed
    else owned
  else if (inference.evidence candidate).dropoutDecisions ≤ inference.gapTicks candidate then
    inference.primary candidate
  else owned

/-- What is kept of a candidate before the strings are allocated. -/
def confirmed : UnisonCandidate :=
  let proposed := inference.proposedGroup budget candidate
  let proposes := proposed ≠ inference.primary candidate
  { inference.restarted candidate with
    latestUnisonProposalMask := proposed
    latestUnisonProposalTemporal := (inference.temporalGroup budget candidate).isSome
    pendingUnisonMask := if proposes then proposed else 0
    unisonEvidenceTicks := if proposes then inference.evidenceTicks budget candidate else 0
    unisonGapTicks :=
      if proposes ∨ (inference.evidence candidate).dropoutDecisions ≤ inference.gapTicks candidate
        then 0
      else inference.gapTicks candidate
    assignedStringMask := inference.confirmedStrings budget candidate }

/-- `additional_extra` of some strings -/
def additionalExtra (strings : StringMask) : StringMask :=
  (strings &&& ~~~inference.primary candidate) &&& ~~~inference.committedExtra candidate

/-- The strings beside the first are free, and there are voices for those that are new. -/
def allocates (strings : StringMask) : Bool :=
  let extra := strings &&& ~~~inference.primary candidate
  let additional := inference.additionalExtra candidate strings
  stringCount additional ≤ budget.remaining &&
    extra &&& inference.otherOwnedStrings candidate = 0 && additional &&& budget.allocated = 0

/-- The strings that the candidate owns after the tick. -/
def ownedAfter : StringMask :=
  let strings := inference.confirmedStrings budget candidate
  if strings &&& ~~~inference.primary candidate = 0 ∨
      inference.allocates budget candidate strings = true then strings
  else inference.primary candidate

/-- What is kept of a candidate after the tick. It owns what the allocation has left it, and a
group that stays confirmed is counted. -/
def inferred : UnisonCandidate :=
  let state := inference.confirmed budget candidate
  let strings := inference.ownedAfter budget candidate
  let evidence := inference.evidence candidate
  { state with
    assignedStringMask := strings
    committedUnisonConfirmedTicks :=
      if 3 ≤ stringCount strings && inference.proposedGroup budget candidate = strings &&
          evidence.fineValid && evidence.fineMemberMask = strings then
        if state.committedUnisonConfirmedTicks < 0xFFFF then
          state.committedUnisonConfirmedTicks + 1
        else state.committedUnisonConfirmedTicks
      else 0 }

/-- The budget after the candidate. -/
def spent : LaneBudget :=
  let additional := inference.additionalExtra candidate (inference.ownedAfter budget candidate)
  { remaining := budget.remaining - stringCount additional
    allocated := budget.allocated ||| additional }

end Commit

section Pass

/-- The candidates and the budget in the course of a pass. -/
structure Pass (count : ℕ) where
  candidate : Fin count → UnisonCandidate
  budget : LaneBudget

/-- The candidates that have a string are inferred one after the other. -/
def step (pass : Pass inference.count) (candidate : Fin inference.count) : Pass inference.count :=
  if candidate ∈ inference.selected ∧
      (inference.candidate candidate).assignedString.isSome = true then {
    candidate := Function.update pass.candidate candidate (inference.inferred pass.budget candidate)
    budget := inference.spent pass.budget candidate }
  else pass

/-- The inference starts without proposals, and with the lanes that are left. -/
def start : Pass inference.count where
  candidate candidate := {
    inference.candidate candidate with
    latestUnisonProposalMask := 0
    latestUnisonProposalTemporal := false }
  budget := {
    remaining := inference.maxPolyphony - inference.occupiedLanes
    allocated := 0 }

/-- `infer_m3_unison_strings` -/
def inferM3UnisonStrings : Fin inference.count → UnisonCandidate :=
  ((List.finRange inference.count).foldl inference.step inference.start).candidate

end Pass

end UnisonInference

end M3Midi
