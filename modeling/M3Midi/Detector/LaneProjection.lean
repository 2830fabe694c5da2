import M3Midi.Types
import M3Midi.Foundation.LaneMask
import Mathlib.Algebra.Order.Ring.Rat
import Mathlib.Tactic.SplitIfs

/-! # The lanes a voice is played on

A candidate owns the strings it has been assigned. Its notes may go out on other
lanes: on a single lane that the spectrum points to, or on a group of strings that
was established shortly before. Every such projection stays within the playable
strings and off the lanes of other voices.
-/

namespace M3Midi

open Foundation

/-- One bit for each of the eight strings. -/
abbrev StringMask := BitVec 8

/-- `string_count`, the number of strings in a mask. -/
def stringCount (mask : StringMask) : Nat := LaneMask.count mask

/-- The count of the bits is the number of strings. -/
theorem stringCount_eq (mask : StringMask) : stringCount mask = (LaneMask.lanes mask).card :=
  LaneMask.count_eq mask

/-- `UnisonSpectralPhase`: how far a note is past its onset, for a spectrum to be trusted. -/
inductive UnisonSpectralPhase
  | unready
  | onset
  | settled
  deriving DecidableEq, Repr

/-- The classification of a spectrum by the strings that sound in it. -/
structure UnisonSpectralClassification where
  error : Option ℚ := some 0
  posteriorMargin : Option ℚ := some 0
  memberMask : StringMask := 0
  memberCount : Nat := 0
  valid : Bool := false
  deriving DecidableEq, Repr

/-- `kGroupContinuityCacheSeconds`, the age up to which a cached group counts. -/
def groupContinuityCacheSeconds : ℚ := 1 / 2

/-- `kGroupContinuityMinimumMargin`, by which a classification has to lead. -/
def groupContinuityMinimumMargin : ℚ := 15 / 100000

/-- What `bounded_group_continuity_projection` is given. -/
structure GroupContinuity where
  currentAssignmentMask : StringMask
  cachedGroupMask : StringMask
  classification : UnisonSpectralClassification
  phase : UnisonSpectralPhase
  fineFrequencyMask : StringMask
  minimumBeatCoherence : Option ℚ
  profileMask : StringMask
  temporalMask : StringMask
  tierProjectionMask : StringMask
  otherOwnedMask : StringMask
  playableMask : StringMask
  maximumPolyphony : Nat
  activeCandidate : Bool
  selectedOrCoasting : Bool
  directFundamental : Bool
  quiet : Bool
  cacheAgeSeconds : Option ℚ
  deriving DecidableEq, Repr

namespace GroupContinuity

variable (group : GroupContinuity)

/-- Two proposals that differ from the assignment and from each other give way to it. -/
def unionProjection (first second : StringMask) : StringMask :=
  if first = second then first
  else if first = group.currentAssignmentMask then second
  else if second = group.currentAssignmentMask then first
  else group.currentAssignmentMask

/-- A mask that can be played at all: on playable strings, beside the other voices, and within the
polyphony. -/
def physicallyBounded (mask : StringMask) : Bool :=
  mask ≠ 0 && 0 < group.maximumPolyphony && group.maximumPolyphony ≤ maxVoices &&
    mask &&& ~~~group.playableMask = 0 && mask &&& group.otherOwnedMask = 0 &&
    stringCount (mask ||| group.otherOwnedMask) ≤ group.maximumPolyphony

/-- A projection is considered at all. -/
def considered : Bool :=
  !(group.quiet || !group.activeCandidate || !group.selectedOrCoasting ||
    !group.directFundamental || group.phase = .unready ||
    stringCount group.currentAssignmentMask = 0)

/-- The group of the tiers, if it contains the assignment and can be played. -/
def tierProjection : StringMask :=
  if 2 ≤ stringCount group.currentAssignmentMask ∧
      group.tierProjectionMask ≠ group.currentAssignmentMask ∧
      group.currentAssignmentMask &&& ~~~group.tierProjectionMask = 0 ∧
      2 ≤ stringCount group.tierProjectionMask ∧ stringCount group.tierProjectionMask ≤ 4 ∧
      group.physicallyBounded group.tierProjectionMask then
    group.tierProjectionMask
  else group.currentAssignmentMask

/-- The cached group is young, large enough, contains the assignment and can be played. -/
def cacheValid : Bool :=
  3 ≤ stringCount group.cachedGroupMask && stringCount group.cachedGroupMask ≤ 4 &&
    group.currentAssignmentMask &&& ~~~group.cachedGroupMask = 0 &&
    group.physicallyBounded group.cachedGroupMask &&
    group.cacheAgeSeconds.any (fun age => 0 ≤ age && age ≤ groupContinuityCacheSeconds)

/-- At an onset the classification has to lead by twice the margin. -/
def phaseMultiplier : ℚ := if group.phase = .onset then 2 else 1

/-- The classifier names the fine-frequency members, or more of them with a beat to
corroborate it. -/
def corroborated : Bool :=
  group.classification.memberMask = group.fineFrequencyMask ||
    (group.minimumBeatCoherence.any (20 / 100 ≤ ·) &&
      group.classification.memberMask &&& group.fineFrequencyMask = group.fineFrequencyMask &&
      (group.classification.memberMask = group.profileMask ||
        group.classification.memberMask = group.temporalMask))

/-- The group that the classifier names, if fine frequencies corroborate it. -/
def classifiedGroup : StringMask :=
  if 2 ≤ stringCount group.currentAssignmentMask ∧ stringCount group.currentAssignmentMask ≤ 4 ∧
      2 ≤ stringCount group.fineFrequencyMask ∧ stringCount group.fineFrequencyMask ≤ 4 ∧
      group.classification.valid ∧ 2 ≤ stringCount group.classification.memberMask ∧
      stringCount group.classification.memberMask ≤ 4 ∧
      group.classification.memberCount = stringCount group.classification.memberMask ∧
      group.classification.memberMask &&& group.currentAssignmentMask =
        group.currentAssignmentMask ∧
      group.classification.posteriorMargin.any
        (groupContinuityMinimumMargin * group.phaseMultiplier ≤ ·) ∧
      group.corroborated ∧ group.physicallyBounded group.classification.memberMask then
    group.classification.memberMask
  else group.currentAssignmentMask

/-- Only the cached group is completed. -/
def candidateProjection : StringMask :=
  if group.classifiedGroup ≠ group.cachedGroupMask then group.currentAssignmentMask
  else group.classifiedGroup

/-- The cached group, if the classifier names it again. -/
def classifierProjection : StringMask :=
  if stringCount group.currentAssignmentMask < stringCount group.cachedGroupMask ∧
      group.classification.valid ∧ group.classification.memberMask = group.cachedGroupMask ∧
      group.classification.memberCount = stringCount group.cachedGroupMask ∧
      group.classification.posteriorMargin.any (groupContinuityMinimumMargin ≤ ·) then
    group.cachedGroupMask
  else group.currentAssignmentMask

/-- `bounded_group_continuity_projection`. -/
def boundedGroupContinuityProjection : StringMask :=
  if group.considered = false then group.currentAssignmentMask
  else if group.cacheValid = false then group.currentAssignmentMask
  else
    group.unionProjection (group.unionProjection group.candidateProjection group.tierProjection)
      group.classifierProjection

/-- A group of strings that the voice may be widened to. -/
structure Widens (mask : StringMask) : Prop where
  atLeastTwo : 2 ≤ stringCount mask
  atMostFour : stringCount mask ≤ 4
  contains : LaneMask.lanes group.currentAssignmentMask ⊆ LaneMask.lanes mask
  playable : LaneMask.lanes mask ⊆ LaneMask.lanes group.playableMask
  apart : Disjoint (LaneMask.lanes mask) (LaneMask.lanes group.otherOwnedMask)
  withinPolyphony : stringCount (mask ||| group.otherOwnedMask) ≤ group.maximumPolyphony

variable {group}

/-- The check on the masks, as conditions on sets of strings. -/
theorem physicallyBounded_iff {mask : StringMask} : group.physicallyBounded mask = true ↔
    mask ≠ 0 ∧ 0 < group.maximumPolyphony ∧ group.maximumPolyphony ≤ maxVoices ∧
      LaneMask.lanes mask ⊆ LaneMask.lanes group.playableMask ∧
      Disjoint (LaneMask.lanes mask) (LaneMask.lanes group.otherOwnedMask) ∧
      stringCount (mask ||| group.otherOwnedMask) ≤ group.maximumPolyphony := by
  rw [← LaneMask.and_not_eq_zero, ← LaneMask.and_eq_zero]
  simp only [physicallyBounded, Bool.and_eq_true, decide_eq_true_eq, and_assoc]

/-- A bounded superset of two to four strings widens the assignment. -/
theorem Widens.of_bounded {mask : StringMask} (atLeastTwo : 2 ≤ stringCount mask)
    (atMostFour : stringCount mask ≤ 4) (contains : group.currentAssignmentMask &&& ~~~mask = 0)
    (bounded : group.physicallyBounded mask = true) : group.Widens mask := by
  obtain ⟨-, -, -, playable, apart, within⟩ := physicallyBounded_iff.mp bounded
  exact ⟨atLeastTwo, atMostFour, LaneMask.and_not_eq_zero.mp contains, playable, apart, within⟩

/-- Merging proposals never makes a new mask. -/
theorem unionProjection_cases (first second : StringMask) :
    group.unionProjection first second = group.currentAssignmentMask ∨
      group.unionProjection first second = first ∨
      group.unionProjection first second = second := by
  unfold unionProjection
  split_ifs with same firstCurrent secondCurrent
  · exact .inr (.inl rfl)
  · exact .inr (.inr rfl)
  · exact .inr (.inl rfl)
  · exact .inl rfl

/-- The tiers leave the assignment as it is or widen it. -/
theorem tierProjection_cases :
    group.tierProjection = group.currentAssignmentMask ∨ group.Widens group.tierProjection := by
  unfold tierProjection
  split_ifs with taken
  · obtain ⟨-, -, contains, atLeastTwo, atMostFour, bounded⟩ := taken
    exact .inr (.of_bounded atLeastTwo atMostFour contains bounded)
  · exact .inl rfl

/-- The completion of a candidate is the assignment or the cached group. -/
theorem candidateProjection_cases :
    group.candidateProjection = group.currentAssignmentMask ∨
      group.candidateProjection = group.cachedGroupMask := by
  unfold candidateProjection
  split_ifs with other
  · exact .inl rfl
  · exact .inr (not_not.mp other)

/-- The projection of the classifier is one of the two as well. -/
theorem classifierProjection_cases :
    group.classifierProjection = group.currentAssignmentMask ∨
      group.classifierProjection = group.cachedGroupMask := by
  unfold classifierProjection
  split_ifs
  · exact .inr rfl
  · exact .inl rfl

/-- The conditions under which a cached group is used. An age that is missing or negative makes it
invalid. -/
theorem cacheValid_iff : group.cacheValid = true ↔
    3 ≤ stringCount group.cachedGroupMask ∧ stringCount group.cachedGroupMask ≤ 4 ∧
      group.currentAssignmentMask &&& ~~~group.cachedGroupMask = 0 ∧
      group.physicallyBounded group.cachedGroupMask = true ∧
      ∃ age, group.cacheAgeSeconds = some age ∧ 0 ≤ age ∧ age ≤ groupContinuityCacheSeconds := by
  simp only [cacheValid, Bool.and_eq_true, decide_eq_true_eq, and_assoc, Option.any_eq_true]

/-- A cached group that is valid widens the assignment. -/
theorem Widens.of_cacheValid (valid : group.cacheValid = true) :
    group.Widens group.cachedGroupMask := by
  obtain ⟨atLeastThree, atMostFour, contains, bounded, -⟩ := cacheValid_iff.mp valid
  exact .of_bounded (Nat.le_of_succ_le atLeastThree) atMostFour contains bounded

/-- A merge of proposals that each keep the assignment or widen it does so too. -/
theorem unionProjection_keeps {first second : StringMask}
    (firstKeeps : first = group.currentAssignmentMask ∨ group.Widens first)
    (secondKeeps : second = group.currentAssignmentMask ∨ group.Widens second) :
    group.unionProjection first second = group.currentAssignmentMask ∨
      group.Widens (group.unionProjection first second) := by
  rcases @unionProjection_cases group first second with merged | merged | merged
  · exact .inl merged
  · rwa [merged]
  · rwa [merged]

/-- The cached group cannot be used: it is absent, has not three or four strings, lacks an assigned
string, is out of bounds, or its age is not within the continuity window. It is out of bounds when
the polyphony is none of an instrument's, a string is not playable or is owned by another voice,
or there are more strings than voices. -/
def CacheUnusable (group : GroupContinuity) : Prop :=
  group.cachedGroupMask = 0 ∨
    ¬ (3 ≤ stringCount group.cachedGroupMask ∧ stringCount group.cachedGroupMask ≤ 4) ∨
    ¬ LaneMask.lanes group.currentAssignmentMask ⊆ LaneMask.lanes group.cachedGroupMask ∨
    ¬ (0 < group.maximumPolyphony ∧ group.maximumPolyphony ≤ maxVoices ∧
      LaneMask.lanes group.cachedGroupMask ⊆ LaneMask.lanes group.playableMask ∧
      Disjoint (LaneMask.lanes group.cachedGroupMask) (LaneMask.lanes group.otherOwnedMask) ∧
      stringCount (group.cachedGroupMask ||| group.otherOwnedMask) ≤ group.maximumPolyphony) ∨
    ∀ age, group.cacheAgeSeconds = some age → age < 0 ∨ groupContinuityCacheSeconds < age

/-- A cached group that is valid has none of the defects that make it unusable. -/
theorem not_cacheUnusable (valid : group.cacheValid = true) : ¬ group.CacheUnusable := by
  obtain ⟨several, few, contains, bounded, age, aged, begun, recent⟩ := cacheValid_iff.mp valid
  obtain ⟨present, some, eight, playable, apart, within⟩ := physicallyBounded_iff.mp bounded
  rintro (absent | size | outside | unbounded | old)
  · exact present absent
  · exact size ⟨several, few⟩
  · exact outside (LaneMask.and_not_eq_zero.mp contains)
  · exact unbounded ⟨some, eight, playable, apart, within⟩
  · rcases old age aged with early | late
    · exact absurd begun (not_le.mpr early)
    · exact absurd recent (not_le.mpr late)

/-- **Group continuity.** The projection is the assignment or a group of two to four
playable strings that contains it, is off the lanes of other voices and is within the
polyphony together with them; it is the assignment whenever the frame is quiet, the
candidate inactive, the phase unready or the cached group unusable. -/
theorem boundedGroupContinuityProjection_bounded (group : GroupContinuity) :
    (group.boundedGroupContinuityProjection = group.currentAssignmentMask ∨
      group.Widens group.boundedGroupContinuityProjection) ∧
    (group.quiet = true ∨ group.activeCandidate = false ∨ group.phase = .unready ∨
        group.CacheUnusable →
      group.boundedGroupContinuityProjection = group.currentAssignmentMask) := by
  unfold boundedGroupContinuityProjection
  cases considered : group.considered with
  | false => exact ⟨.inl rfl, fun _ => rfl⟩
  | true =>
      cases valid : group.cacheValid with
      | false => exact ⟨.inl rfl, fun _ => rfl⟩
      | true =>
          have cached := Widens.of_cacheValid valid
          have candidateKeeps : group.candidateProjection = group.currentAssignmentMask ∨
              group.Widens group.candidateProjection :=
            Or.imp_right (fun same => by rwa [same]) candidateProjection_cases
          have classifierKeeps : group.classifierProjection = group.currentAssignmentMask ∨
              group.Widens group.classifierProjection :=
            Or.imp_right (fun same => by rwa [same]) classifierProjection_cases
          refine ⟨unionProjection_keeps (unionProjection_keeps candidateKeeps tierProjection_cases)
            classifierKeeps, fun idle => ?_⟩
          simp only [GroupContinuity.considered, Bool.not_eq_true', Bool.or_eq_false_iff,
            Bool.not_eq_false', decide_eq_false_iff_not] at considered
          obtain ⟨⟨⟨⟨⟨loud, active⟩, -⟩, -⟩, ready⟩, -⟩ := considered
          rcases idle with quiet | inactive | unready | unusable
          · rw [loud] at quiet
            cases quiet
          · rw [active] at inactive
            cases inactive
          · exact absurd unready ready
          · exact absurd unusable (not_cacheUnusable valid)

/-- Two strings of a cached group of three, which the classifier still hears. -/
def thirdStringDropped : GroupContinuity where
  currentAssignmentMask := 0b011
  cachedGroupMask := 0b111
  classification :=
    { memberMask := 0b111, memberCount := 3, posteriorMargin := some (1 / 1000), valid := true }
  phase := .settled
  fineFrequencyMask := 0b011
  minimumBeatCoherence := some 0
  profileMask := 0
  temporalMask := 0
  tierProjectionMask := 0b011
  otherOwnedMask := 0b1000
  playableMask := 0b11111111
  maximumPolyphony := 8
  activeCandidate := true
  selectedOrCoasting := true
  directFundamental := true
  quiet := false
  cacheAgeSeconds := some (1 / 4)

example : thirdStringDropped.boundedGroupContinuityProjection = 0b111 := by decide +kernel

end GroupContinuity

end M3Midi
