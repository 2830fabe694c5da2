import M3Midi.Jsfx.EventList

/-! # The voice table of the JSFX program

Every note has a cell with the state of its lifecycle and the evidence gathered
for it. Attacking notes are held back by rules that compare a note with the
cells of other notes: those of its harmonic parents, of its neighbours, and of
the notes of the same string.
-/

namespace M3Midi.Jsfx

/-- `M3_LIFECYCLE_STATE_OFF` to `M3_LIFECYCLE_STATE_RELEASE`. -/
inductive LifecycleState
  | off
  | attack
  | on
  | release
  deriving DecidableEq, Repr

/-- One voice cell (`M3_VOICE_CELL_SIZE`). -/
structure VoiceCell where
  state : LifecycleState := .off
  confidence : ℚ := 0
  energy : ℚ := 0
  firstEvidence : ℤ := 0
  lastEvidence : ℤ := 0
  stateEnter : ℤ := 0
  velocity : ℤ := 0
  active : Bool := false
  deriving DecidableEq, Repr

/-- The cells from `voice_base` on. -/
abbrev VoiceTable := ℕ → VoiceCell

/-- The variables that the host sets before an update. -/
structure LifecycleSettings where
  attackAdmission : Bool := true
  attackHysteresis : Bool := false
  reserveLowerAttacks : Bool := false
  generalOctaveGuard : Bool := false
  m3LowStringGuard : Bool := false
  m3OctaveConfirmation : Bool := false
  m3LowOpenFastAttack : Bool := false
  attackBridgeSamples : ℚ := 0
  attackEvidenceStepSamples : ℚ := 0
  minAttackEnergy : ℚ := 0
  maxActiveVoices : ℚ := 0
  subGsharpAttackSamples : ℤ := 0
  m3FastOpenAttackSamples : ℤ := 0
  m3GuardedOpenAttackSamples : ℤ := 0
  m3HighOpenAttackSamples : ℤ := 0
  m3LowChordAttackSamples : ℤ := 0
  generalCappedAttackSamples : ℤ := 0
  deriving DecidableEq, Repr

/-- The set of active notes that an update takes before it admits attacks: the
four words `m3_lifecycle_active_snapshot_0` to `_3` and the two lowest notes. -/
structure ActiveSnapshot where
  active : ℕ → Bool := fun _ => false
  lowestNote : ℕ := noteCount
  contextAnchorLowestNote : ℕ := noteCount

/-- `m3_lifecycle_snapshot_active`. -/
def ActiveSnapshot.isActive (snapshot : ActiveSnapshot) (note : ℕ) : Bool :=
  decide (note ≤ 127) && snapshot.active note

/-- `M3_M3_OPEN_0` to `M3_M3_OPEN_7`. -/
def openNote (string : ℕ) : ℕ := 32 + 4 * string

/-- `m3_lifecycle_m3_open_note`. -/
def m3OpenNote (note : ℕ) : Bool :=
  (List.range 8).any fun string => decide (note = openNote string)

/-- `m3_lifecycle_attack_admission_allowed`. -/
def attackAdmissionAllowed : Reading → Reading → Bool
  | some fast, some slow =>
      decide (0 < max 0 fast) &&
        (decide (max 0 slow ≤ 0) || decide (1 / 10 * max 0 slow ≤ max 0 fast))
  | _, _ => false

/-- `m3_lifecycle_general_harmonic_parent_interval`, for each index. -/
def generalHarmonicParentIntervals : List ℕ := [19, 24, 31, 32, 36]

/-- The intervals that the rules of the M3 profile probe: an octave, and the
harmonic ones. -/
def m3ParentIntervals : List ℕ := 12 :: generalHarmonicParentIntervals

/-- `m3_lifecycle_general_stacked_context`. -/
def generalStackedContext (snapshot : ActiveSnapshot) (note : ℕ) : Bool :=
  decide (8 ≤ note) &&
    (decide (snapshot.contextAnchorLowestNote < 128) &&
      decide ((note : ℤ) - snapshot.contextAnchorLowestNote ≤ 28)) &&
    (snapshot.isActive (note - 4) && snapshot.isActive (note - 8))

variable (settings : LifecycleSettings) (voices : VoiceTable) (snapshot : ActiveSnapshot)

/-- `m3_lifecycle_octave_alias_blocked`. -/
def octaveAliasBlocked (note : ℕ) (energy : ℚ) : Bool :=
  settings.generalOctaveGuard && decide (12 ≤ note) && decide (note - 12 ≤ 84) &&
    (let parent := voices (note - 12)
     let parentEnergy := max 0 parent.energy
     let octaveChordContext := decide (note + 5 < 128) &&
       ((voices (note - 5)).active && (voices (note + 5)).active)
     !octaveChordContext && !generalStackedContext snapshot note &&
      decide (0 < parentEnergy) &&
      (decide (parent.state = .attack) ||
        (parent.active && decide (max 0 energy ≤ 7 / 10 * parentEnergy))))

/-- `m3_lifecycle_general_harmonic_alias_blocked`. -/
def generalHarmonicAliasBlocked (note : ℕ) (energy : ℚ) : Bool :=
  settings.generalOctaveGuard && !generalStackedContext snapshot note &&
    generalHarmonicParentIntervals.any fun interval =>
      decide (interval ≤ note) &&
        (let parent := voices (note - interval)
         let parentEnergy := max 0 parent.energy
         decide (0 < parentEnergy) &&
          (decide (parent.state = .attack) ||
            (parent.active && decide (max 0 energy ≤ 55 / 100 * parentEnergy))))

/-- `m3_lifecycle_general_shared_octave_blocked`. -/
def generalSharedOctaveBlocked (note : ℕ) : Bool :=
  settings.generalOctaveGuard && decide (12 ≤ note) && decide (note + 5 < 128) &&
    ((voices (note - 12)).active && (voices (note - 5)).active && !(voices (note + 5)).active)

/-- `m3_lifecycle_m3_octave_unconfirmed`. -/
def m3OctaveUnconfirmed (note : ℕ) (cell : VoiceCell) : Bool :=
  settings.m3OctaveConfirmation && decide (12 ≤ note) &&
    ((voices (note - 12)).active && decide (cell.velocity < 3))

/-- The samples for which a parent counts as fresh. -/
def confirmationSamples : ℤ := 6 * max 1 (floor settings.attackEvidenceStepSamples)

/-- `m3_lifecycle_m3_parent_unconfirmed`. -/
def m3ParentUnconfirmed (note : ℕ) (now : ℤ) : Bool :=
  settings.m3OctaveConfirmation && m3ParentIntervals.any fun interval =>
    decide (interval ≤ note) &&
      (let parent := voices (note - interval)
       (decide (parent.state = .attack) &&
          ((decide (note ≠ openNote 6) && decide (note ≠ openNote 7)) ||
            decide (now - parent.firstEvidence < confirmationSamples settings))) ||
        (parent.active && decide (now - parent.stateEnter < confirmationSamples settings)))

/-- `m3_lifecycle_m3_mature_parent_alias_blocked`. -/
def m3MatureParentAliasBlocked (note : ℕ) (energy : ℚ) (now : ℤ) (activeCount : ℕ) : Bool :=
  settings.m3OctaveConfirmation && decide (activeCount < 3) &&
    m3ParentIntervals.any fun interval =>
      decide (interval ≤ note) &&
        (let parent := voices (note - interval)
         let parentEnergy := max 0 parent.energy
         parent.active && decide (0 < parentEnergy) &&
          decide (confirmationSamples settings ≤ now - parent.stateEnter) &&
          decide (max 0 energy < 80 / 100 * parentEnergy))

/-- `m3_lifecycle_m3_open_confidence_allowed`. -/
def m3OpenConfidenceAllowed (note : ℕ) (confidence : ℚ) : Bool :=
  !settings.m3LowOpenFastAttack || !m3OpenNote note || decide (note = openNote 2) ||
    decide ((if note = openNote 0 ∨ note = openNote 1 then 44 / 100
      else if note = openNote 5 then 48 / 100 else 50 / 100 : ℚ) ≤ confidence)

/-- `m3_lifecycle_m3_open_attack_samples`. -/
def m3OpenAttackSamples (note : ℕ) (confidence : ℚ) : ℤ :=
  if note = openNote 6 ∨ note = openNote 7 then settings.m3HighOpenAttackSamples
  else if note = openNote 4 ∧ 52 / 100 ≤ confidence then settings.m3FastOpenAttackSamples
  else settings.m3GuardedOpenAttackSamples

/-- `m3_lifecycle_m3_adjacent_open_chromatic`. -/
def m3AdjacentOpenChromatic (note : ℕ) : Bool :=
  settings.m3OctaveConfirmation &&
    (List.range 8).any fun string => decide (note = openNote string + 1)

/-- The part of `m3_lifecycle_m3_adjacent_shadow_blocked` that looks at one neighbour. -/
def shadowedBy (note neighborNote : ℕ) (now : ℤ) : Bool :=
  let candidateConfidence := max 0 (voices note).confidence
  let neighbor := voices neighborNote
  let opens := m3OpenNote neighborNote && !m3OpenNote note
  (neighbor.active && (opens || decide (candidateConfidence ≤ neighbor.confidence))) ||
    (decide (neighbor.state = .attack) &&
      (opens || decide (candidateConfidence + 2 / 100 < neighbor.confidence)) &&
      !(m3OpenNote note && !m3OpenNote neighborNote &&
        decide (confirmationSamples settings ≤ now - neighbor.firstEvidence)))

/-- `m3_lifecycle_m3_adjacent_shadow_blocked`. -/
def m3AdjacentShadowBlocked (note : ℕ) (now : ℤ) : Bool :=
  settings.m3OctaveConfirmation && [note - 1, note + 1].any fun neighborNote =>
    decide (neighborNote ≠ note) && decide (neighborNote < 128) &&
      shadowedBy settings voices note neighborNote now

/-- The parents that `m3_lifecycle_m3_multi_parent_alias_blocked` counts. -/
def soundingParents (note : ℕ) : List VoiceCell :=
  (m3ParentIntervals.filter fun interval => decide (interval ≤ note)).filterMap fun interval =>
    let parent := voices (note - interval)
    if parent.state = .attack ∨ parent.active then some parent else none

/-- `m3_lifecycle_m3_multi_parent_alias_blocked`. -/
def m3MultiParentAliasBlocked (note : ℕ) (energy : ℚ) : Bool :=
  let parents := soundingParents voices note
  let parentEnergy : ℚ := (parents.map fun parent => max 0 parent.energy).sum
  settings.m3OctaveConfirmation &&
    (!m3OpenNote note && decide (2 ≤ parents.length) && decide (0 < parentEnergy) &&
      decide (max 0 energy ≤ 80 / 100 * parentEnergy))

/-- `m3_lifecycle_m3_low_string_conflict`. -/
def m3LowStringConflict (note : ℕ) : Bool :=
  settings.m3LowStringGuard && decide (24 ≤ note) && decide (note ≤ 35) &&
    (List.range' 24 12).any fun probe =>
      decide (probe ≠ note) && decide ((voices probe).state = .on)

/-- `m3_lifecycle_m3_high_open_context`. -/
def m3HighOpenContext : Bool :=
  (List.range' 2 6).any fun probe =>
    (voices (openNote probe)).active || decide ((voices (openNote probe)).state = .attack)

/-- `m3_lifecycle_m3_low_chord_context`. -/
def m3LowChordContext (note : ℕ) (highOpenContext : Bool) : Bool :=
  settings.m3OctaveConfirmation && decide (24 ≤ note) && decide (note ≤ 35) &&
    !m3OpenNote note && highOpenContext

end M3Midi.Jsfx
