import M3Midi.Jsfx.VoiceTable
import M3Midi.Foundation.CountedLoop

/-! # The note lifecycle of the JSFX program

Once a block the lifecycle takes the notes that the detector selected, follows
every voice through attack, on and release, and queues the note-offs of the
voices that end and the note-ons of the attacks it admits. When all voices are
taken, a general profile lets a lower attack replace the highest voice.
-/

namespace M3Midi.Jsfx

open Foundation

/-- One cell of the detector's selection. -/
structure SelectionCell where
  note : Reading
  confidence : Reading
  energy : Reading
  deriving DecidableEq, Repr

/-- `M3_VELOCITY_MODE_FIXED` and `M3_VELOCITY_MODE_DYNAMIC`. -/
inductive VelocityMode
  | fixed
  | dynamic
  deriving DecidableEq, Repr

/-- The arguments of `m3_lifecycle_update`; the list holds the `selected_count`
cells from `selection_base` on. -/
structure UpdateArguments where
  selection : List SelectionCell := []
  absoluteSample : ℚ := 0
  blockOffset : ℚ := 0
  attackSamples : ℚ := 0
  releaseSamples : ℚ := 0
  dropoutSamples : ℚ := 0
  onThreshold : ℚ := 0
  offThreshold : ℚ := 0
  velocityMode : VelocityMode := .fixed
  fixedVelocity : ℚ := 0
  deriving DecidableEq, Repr

/-- The variables of the lifecycle that outlive a call. Voices are addressed by their note, one
cell for each. -/
structure Lifecycle where
  voices : VoiceTable := fun _ => {}
  list : EventList := {}
  cappedAdmissionNote : ℤ := -1
  snapshot : ActiveSnapshot := {}

/-- `m3_lifecycle_init`. -/
def Lifecycle.init : Lifecycle := {}

/-- The local variables that `m3_lifecycle_update` computes first. -/
structure UpdateFrame where
  settings : LifecycleSettings
  candidates : List SelectionCell
  now : ℤ
  outputOffset : ℤ
  attackLimit : ℤ
  releaseLimit : ℤ
  dropoutLimit : ℤ
  attackDropoutLimit : ℤ
  staleAttackLimit : ℤ
  onLevel : ℚ
  offLevel : ℚ
  attackSustainLevel : ℚ
  attackBridgeLimit : ℤ
  attackEvidenceStepLimit : ℤ
  activeLimit : ℕ
  velocityMode : VelocityMode
  fixedVelocity : ℚ

/-- The voices that may be active at once. -/
def LifecycleSettings.activeLimit (settings : LifecycleSettings) : ℕ :=
  (floor (clamp settings.maxActiveVoices 1 maxVoices)).toNat

/-- The local variables of an update. -/
def UpdateFrame.enter (settings : LifecycleSettings) (arguments : UpdateArguments) :
    UpdateFrame :=
  let attackLimit := max 0 (floor arguments.attackSamples)
  let dropoutLimit := max 0 (floor arguments.dropoutSamples)
  let onLevel := clamp arguments.onThreshold 0 1
  let offLevel := min onLevel (clamp arguments.offThreshold 0 1)
  { settings
    candidates := arguments.selection.take maxVoices
    now := max 0 (floor arguments.absoluteSample)
    outputOffset := max 0 (floor arguments.blockOffset)
    attackLimit
    releaseLimit := max 0 (floor arguments.releaseSamples)
    dropoutLimit
    attackDropoutLimit := if settings.reserveLowerAttacks
      then max dropoutLimit settings.generalCappedAttackSamples else dropoutLimit
    staleAttackLimit := max attackLimit (11 * dropoutLimit)
    onLevel
    offLevel
    attackSustainLevel := if settings.attackHysteresis then offLevel else onLevel
    attackBridgeLimit := max 0 (floor settings.attackBridgeSamples)
    attackEvidenceStepLimit := max 0 (floor settings.attackEvidenceStepSamples)
    activeLimit := settings.activeLimit
    velocityMode := arguments.velocityMode
    fixedVelocity := arguments.fixedVelocity }

/-- What the selection says of one note. -/
structure Evidence where
  present : Bool := false
  confidence : ℚ := 0
  energy : ℚ := 0
  deriving DecidableEq, Repr

/-- One selected cell, read for a note. -/
def Evidence.add (note : ℕ) (evidence : Evidence) (cell : SelectionCell) : Evidence :=
  match cell.note, cell.confidence, cell.energy with
  | some selected, some confidence, some energy =>
      if floor (selected + 1 / 2) = note then
        { present := true
          confidence := if !evidence.present || decide (evidence.confidence < max 0 confidence)
            then max 0 confidence else evidence.confidence
          energy := max evidence.energy (max 0 energy) }
      else evidence
  | _, _, _ => evidence

/-- The evidence for a note. -/
def UpdateFrame.evidence (frame : UpdateFrame) (note : ℕ) : Evidence :=
  frame.candidates.foldl (Evidence.add note) {}

namespace VoiceCell

variable (frame : UpdateFrame) (evidence : Evidence)

/-- A silent voice begins an attack. A voice whose attack went stale waits until
its evidence is gone. -/
def observeOff (lowStringConflict : Bool) (cell : VoiceCell) : VoiceCell :=
  if cell.firstEvidence < 0 then
    if evidence.present then cell else { cell with firstEvidence := 0 }
  else if frame.settings.attackAdmission && !lowStringConflict && evidence.present &&
      decide (frame.onLevel ≤ evidence.confidence) then
    { cell with
      state := .attack
      confidence := evidence.confidence
      energy := evidence.energy
      firstEvidence := frame.now
      lastEvidence := frame.now
      stateEnter := if decide (0 < frame.attackEvidenceStepLimit) &&
          (decide (frame.settings.minAttackEnergy ≤ 0) ||
            decide (2 * frame.settings.minAttackEnergy ≤ evidence.energy))
        then min frame.attackLimit frame.attackEvidenceStepLimit else 0
      velocity := 1 }
  else cell

/-- The evidence of an attack is counted, unless it came too late. -/
def confirmAttack (cell : VoiceCell) : VoiceCell :=
  let elapsed := frame.now - cell.lastEvidence
  let counted := if decide (0 < frame.attackBridgeLimit) && decide (frame.attackBridgeLimit < elapsed)
    then { cell with velocity := 1 }
    else { cell with
      stateEnter := cell.stateEnter + (if 0 < frame.attackEvidenceStepLimit
        then min (max 0 elapsed) frame.attackEvidenceStepLimit else max 0 elapsed)
      velocity := min 3 (max 1 cell.velocity + 1) }
  { counted with
    confidence := if frame.settings.attackHysteresis
      then max cell.confidence evidence.confidence else evidence.confidence
    energy := max cell.energy evidence.energy
    lastEvidence := frame.now }

/-- An attack goes on, goes stale or drops out. -/
def observeAttack (lowStringConflict : Bool) (cell : VoiceCell) : VoiceCell :=
  if !frame.settings.attackAdmission ||
      decide (frame.staleAttackLimit ≤ frame.now - cell.firstEvidence) then
    { firstEvidence := -1 }
  else if lowStringConflict then {}
  else if evidence.present && decide (frame.attackSustainLevel ≤ evidence.confidence) then
    cell.confirmAttack frame evidence
  else if frame.attackDropoutLimit < frame.now - cell.lastEvidence then {}
  else if frame.settings.attackHysteresis then cell else { cell with confidence := 0 }

/-- A sounding voice takes new evidence. -/
def sustain (math : EelMath) (cell : VoiceCell) : VoiceCell :=
  let elapsed := max 0 (frame.now - cell.lastEvidence)
  let energyDecay := math.exp (-(elapsed : ℚ) / (max 1 frame.staleAttackLimit : ℤ))
  { cell with
    confidence := evidence.confidence
    energy := max evidence.energy (energyDecay * cell.energy)
    lastEvidence := frame.now }

end VoiceCell

namespace Lifecycle

/-- A cell is written. -/
def setVoice (lifecycle : Lifecycle) (note : ℕ) (cell : VoiceCell) : Lifecycle :=
  { lifecycle with voices := Function.update lifecycle.voices note cell }

/-- An event is queued. -/
def queueEvent (lifecycle : Lifecycle) (type : EventType) (note : ℕ)
    (velocity blockOffset : ℤ) : Bool × Lifecycle :=
  let queued := lifecycle.list.queueEvent type note velocity blockOffset
  (queued.1, { lifecycle with list := queued.2 })

/-- The note-off of a voice is queued, and the voice cleared when it was. -/
def releaseVoice (lifecycle : Lifecycle) (note : ℕ) (outputOffset : ℤ) : Lifecycle :=
  let queued := lifecycle.queueEvent .off note 0 outputOffset
  if queued.1 then queued.2.setVoice note {} else queued.2

/-- A released voice ends when its release time is over. -/
def finishRelease (frame : UpdateFrame) (note : ℕ) (lifecycle : Lifecycle) : Lifecycle :=
  if frame.releaseLimit ≤ frame.now - (lifecycle.voices note).stateEnter then
    lifecycle.releaseVoice note frame.outputOffset
  else lifecycle

/-- A pass of the first loop: one voice takes its evidence. A voice that has been without evidence
for too long begins its release, and one that is off may begin an attack. -/
def observeNote (math : EelMath) (frame : UpdateFrame) (note : ℕ) (lifecycle : Lifecycle) :
    Lifecycle :=
  let evidence := frame.evidence note
  let lowStringConflict := evidence.present &&
    m3LowStringConflict frame.settings lifecycle.voices note
  let sustained := evidence.present && decide (frame.offLevel ≤ evidence.confidence)
  let cell := lifecycle.voices note
  match cell.state with
  | .off => lifecycle.setVoice note (cell.observeOff frame evidence lowStringConflict)
  | .attack => lifecycle.setVoice note (cell.observeAttack frame evidence lowStringConflict)
  | .on =>
      if sustained then lifecycle.setVoice note (cell.sustain frame evidence math)
      else if frame.dropoutLimit < frame.now - cell.lastEvidence then
        (lifecycle.setVoice note { cell with
          state := .release
          stateEnter := cell.lastEvidence + frame.dropoutLimit }).finishRelease frame note
      else lifecycle
  | .release =>
      if sustained then
        lifecycle.setVoice note { cell.sustain frame evidence math with
          state := .on
          stateEnter := frame.now }
      else lifecycle.finishRelease frame note

/-- A pass of the second loop: what it finds active, and the lowest note that a
stacked chord may stand on. -/
def anchorNote (frame : UpdateFrame) (voices : VoiceTable) (note : ℕ) (snapshot : ActiveSnapshot) :
    ActiveSnapshot :=
  let cell := voices note
  { active := if cell.active then Function.update snapshot.active note true else snapshot.active
    lowestNote := if cell.active then min snapshot.lowestNote note else snapshot.lowestNote
    contextAnchorLowestNote := if cell.active ||
        (decide (cell.state = .attack) && decide (frame.onLevel ≤ cell.confidence) &&
          decide (frame.settings.minAttackEnergy ≤ cell.energy) &&
          decide (cell.lastEvidence ≤ frame.now) &&
          decide (frame.now - cell.lastEvidence ≤
            max frame.attackBridgeLimit frame.attackDropoutLimit))
      then min snapshot.contextAnchorLowestNote note else snapshot.contextAnchorLowestNote }

/-- The local variables of the admission: what is counted while attacks are
admitted from the lowest note to the highest. -/
structure Admission where
  lifecycle : Lifecycle
  activeCount : ℕ := 0
  highestActiveNote : ℤ := -1
  lowerAttackCount : ℕ := 0

/-- The number of active voices. -/
def countActive (voices : VoiceTable) : ℕ :=
  countedLoop (fun note count => if (voices note).active then count + 1 else count) noteCount 0

/-- The highest active note, or `-1`. -/
def highestActive (voices : VoiceTable) : ℤ :=
  countedLoop (fun note highest => if (voices note).active then (note : ℤ) else highest)
    noteCount (-1)

/-- The second loop. -/
def takeSnapshot (frame : UpdateFrame) (lifecycle : Lifecycle) : Admission where
  lifecycle := { lifecycle with
    snapshot := countedLoop (anchorNote frame lifecycle.voices) noteCount {} }
  activeCount := countActive lifecycle.voices
  highestActiveNote := highestActive lifecycle.voices

/-- Whether one of the rules that every attack is held to blocks a note. -/
def aliasBlocked (frame : UpdateFrame) (lifecycle : Lifecycle) (note : ℕ) : Bool :=
  let cell := lifecycle.voices note
  octaveAliasBlocked frame.settings lifecycle.voices lifecycle.snapshot note cell.energy ||
    generalHarmonicAliasBlocked frame.settings lifecycle.voices lifecycle.snapshot note
      cell.energy ||
    generalSharedOctaveBlocked frame.settings lifecycle.voices note ||
    m3LowStringConflict frame.settings lifecycle.voices note

/-- The evidence an attack needs before the rules for chords are applied. -/
def noteAttackLimit (frame : UpdateFrame) (cell : VoiceCell) (note : ℕ) : ℤ :=
  if frame.settings.m3LowOpenFastAttack && m3OpenNote note then
    min frame.attackLimit (m3OpenAttackSamples frame.settings note cell.confidence)
  else if note ≤ 31 then max frame.attackLimit frame.settings.subGsharpAttackSamples
  else frame.attackLimit

/-- The samples for which an attack has had evidence. -/
def attackEvidence (frame : UpdateFrame) (cell : VoiceCell) : ℤ :=
  if 0 < frame.attackBridgeLimit then cell.stateEnter else frame.now - cell.firstEvidence

/-- Whether a note counts against the ceiling of a capped admission. -/
def fillsCeiling (frame : UpdateFrame) (lifecycle : Lifecycle) (note : ℕ) : Bool :=
  let cell := lifecycle.voices note
  decide ((note : ℤ) ≤ lifecycle.cappedAdmissionNote) &&
    (cell.active ||
      (decide (cell.state = .attack) && decide (frame.onLevel ≤ cell.confidence) &&
        decide (frame.settings.minAttackEnergy ≤ cell.energy) &&
        !aliasBlocked frame lifecycle note))

/-- Whether an attack is mature while no voice is active yet. -/
def startupMature (frame : UpdateFrame) (lifecycle : Lifecycle) (note : ℕ) : Bool :=
  let cell := lifecycle.voices note
  decide (cell.state = .attack) && decide (frame.onLevel ≤ cell.confidence) &&
    m3OpenConfidenceAllowed frame.settings note cell.confidence &&
    decide (frame.settings.minAttackEnergy ≤ cell.energy) &&
    decide (frame.now - cell.lastEvidence ≤ frame.attackDropoutLimit) &&
    !aliasBlocked frame lifecycle note &&
    decide (noteAttackLimit frame cell note ≤ attackEvidence frame cell)

/-- The number of mature attacks, and the highest of the first ones that fit. -/
def startupCeiling (frame : UpdateFrame) (lifecycle : Lifecycle) : ℕ × ℤ :=
  countedLoop (fun note (count, ceiling) =>
    if startupMature frame lifecycle note then
      (count + 1, if count + 1 ≤ frame.activeLimit then (note : ℤ) else ceiling)
    else (count, ceiling)) noteCount (0, -1)

/-- The note above which no attack is admitted, or `-1`, before the admission. -/
def capAdmission (frame : UpdateFrame) (activeCount : ℕ) (lifecycle : Lifecycle) : Lifecycle :=
  if frame.settings.reserveLowerAttacks then
    let filled := countedLoop (fun note count =>
      if fillsCeiling frame lifecycle note then count + 1 else count) noteCount 0
    let capped := if 0 ≤ lifecycle.cappedAdmissionNote ∧ filled < frame.activeLimit then -1
      else lifecycle.cappedAdmissionNote
    let (count, ceiling) := startupCeiling frame lifecycle
    { lifecycle with
      cappedAdmissionNote := if activeCount = 0 ∧ frame.activeLimit < count then
          (if capped < 0 then ceiling else min capped ceiling)
        else capped }
  else { lifecycle with cappedAdmissionNote := -1 }

/-- `m3_lifecycle_velocity`. -/
def velocity (math : EelMath) (attackEnergy : ℚ) (mode : VelocityMode) (fixedVelocity : ℚ) : ℤ :=
  match mode with
  | .fixed => floor (clamp fixedVelocity 1 127 + 1 / 2)
  | .dynamic =>
      let velocityFloor := math.pow 10 (-60 / 20)
      let velocityCeiling := math.pow 10 (-6 / 20)
      1 + floor (126 * clamp ((math.sqrt (max 0 attackEnergy) - velocityFloor) /
        max (1 / 1000000000) (velocityCeiling - velocityFloor)) 0 1)

/-- Whether an attack is strong and recent enough to sound now. -/
def attackReady (frame : UpdateFrame) (cell : VoiceCell) : Bool :=
  decide (cell.state = .attack) && decide (frame.onLevel ≤ cell.confidence) &&
    decide (frame.settings.minAttackEnergy ≤ cell.energy) &&
    (decide (cell.lastEvidence = frame.now) ||
      (frame.settings.attackHysteresis &&
        decide (frame.now - cell.lastEvidence ≤ frame.attackBridgeLimit)))

/-- The evidence an attack needs, among the voices that sound. -/
def admissionLimit (frame : UpdateFrame) (highOpenContext : Bool) (highestActiveNote : ℤ)
    (cell : VoiceCell) (note : ℕ) : ℤ :=
  let plain := noteAttackLimit frame cell note
  let chord := if m3LowChordContext frame.settings note highOpenContext then
    max plain frame.settings.m3LowChordAttackSamples else plain
  let chromatic := if m3AdjacentOpenChromatic frame.settings note then
    max chord frame.settings.m3LowChordAttackSamples else chord
  if frame.settings.reserveLowerAttacks then
    if (note : ℤ) < highestActiveNote then max chromatic frame.dropoutLimit
    else max chromatic frame.settings.generalCappedAttackSamples
  else chromatic

/-- Whether the attack of a note may sound, if there is room for it. It has to be ready, strong
enough beside the voices that sound, and no alias or shadow of one of them. -/
def mayAttack (frame : UpdateFrame) (highOpenContext : Bool) (admission : Admission) (note : ℕ) :
    Bool :=
  let settings := frame.settings
  let voices := admission.lifecycle.voices
  let cell := voices note
  attackReady frame cell && m3OpenConfidenceAllowed settings note cell.confidence &&
    !aliasBlocked frame admission.lifecycle note &&
    !m3OctaveUnconfirmed settings voices note cell &&
    !m3ParentUnconfirmed settings voices note frame.now &&
    !m3MatureParentAliasBlocked settings voices note cell.energy frame.now
      admission.activeCount &&
    !m3AdjacentShadowBlocked settings voices note frame.now &&
    !m3MultiParentAliasBlocked settings voices note cell.energy &&
    (decide (admission.lifecycle.cappedAdmissionNote < 0) ||
      decide ((note : ℤ) ≤ admission.lifecycle.cappedAdmissionNote)) &&
    decide (admissionLimit frame highOpenContext admission.highestActiveNote cell note ≤
      attackEvidence frame cell)

namespace Admission

/-- Whether a voice is free for the next attack. -/
def available (frame : UpdateFrame) (admission : Admission) : Bool :=
  decide (admission.activeCount + admission.lowerAttackCount < frame.activeLimit)

/-- Whether the highest voice has to make room for a note. -/
def mustReplace (frame : UpdateFrame) (note : ℕ) (admission : Admission) : Bool :=
  !admission.available frame && frame.settings.reserveLowerAttacks &&
    decide (frame.activeLimit ≤ admission.activeCount) &&
    decide ((note : ℤ) < admission.highestActiveNote) &&
    decide (admission.lifecycle.list.events.length ≤ maxEvents - 2)

/-- The highest voice is released to make room: whether there is room now. Only a voice above the
new note gives way to it. -/
def replaceHighest (frame : UpdateFrame) (note : ℕ) (admission : Admission) :
    Bool × Admission :=
  if admission.mustReplace frame note then
    let replacementNote := admission.highestActiveNote.toNat
    let queued := admission.lifecycle.queueEvent .off replacementNote 0 frame.outputOffset
    if queued.1 then
      let lifecycle := queued.2.setVoice replacementNote {}
      (true, { admission with
        lifecycle
        activeCount := admission.activeCount - 1
        highestActiveNote := highestActive lifecycle.voices })
    else (false, { admission with lifecycle := queued.2 })
  else (admission.available frame, admission)

/-- The note-on of an attack is queued, and its voice sounds when it was. Without room in the list
of events it stays an attack. -/
def activate (math : EelMath) (frame : UpdateFrame) (note : ℕ) (admission : Admission) :
    Admission :=
  let cell := admission.lifecycle.voices note
  let velocity := velocity math cell.energy frame.velocityMode frame.fixedVelocity
  let queued := admission.lifecycle.queueEvent .on note velocity frame.outputOffset
  if queued.1 then
    { admission with
      lifecycle := queued.2.setVoice note { cell with
        state := .on
        stateEnter := frame.now
        velocity
        active := true }
      activeCount := admission.activeCount + 1
      highestActiveNote := max admission.highestActiveNote note }
  else { admission with lifecycle := queued.2 }

/-- A ready attack that could not sound keeps a voice free for itself. -/
def reserve (frame : UpdateFrame) (note : ℕ) (admission : Admission) : Admission :=
  if frame.settings.reserveLowerAttacks && attackReady frame (admission.lifecycle.voices note) then
    { admission with lowerAttackCount := admission.lowerAttackCount + 1 }
  else admission

/-- A pass of the third loop: the attack of one note is admitted or held back. -/
def admitNote (math : EelMath) (frame : UpdateFrame) (highOpenContext : Bool) (note : ℕ)
    (admission : Admission) : Admission :=
  let admitted :=
    if mayAttack frame highOpenContext admission note then
      let room := admission.replaceHighest frame note
      if room.1 then room.2.activate math frame note else room.2
    else admission
  admitted.reserve frame note

/-- The end of the admission: a full table lifts the cap. -/
def finish (frame : UpdateFrame) (admission : Admission) : Lifecycle :=
  { admission.lifecycle with
    list := admission.lifecycle.list.sortEvents
    cappedAdmissionNote := if frame.activeLimit ≤ admission.activeCount then -1
      else admission.lifecycle.cappedAdmissionNote }

end Admission

/-- The first loop of an update. -/
def observeAll (math : EelMath) (frame : UpdateFrame) (lifecycle : Lifecycle) : Lifecycle :=
  countedLoop (observeNote math frame) noteCount { lifecycle with list := lifecycle.list.reset }

/-- The admission of an update, before its end. -/
def admitAll (math : EelMath) (frame : UpdateFrame) (lifecycle : Lifecycle) : Admission :=
  let admission := takeSnapshot frame lifecycle
  let capped := { admission with
    lifecycle := capAdmission frame admission.activeCount admission.lifecycle }
  countedLoop (Admission.admitNote math frame (m3HighOpenContext capped.lifecycle.voices))
    noteCount capped

/-- `m3_lifecycle_update`. -/
def update (math : EelMath) (settings : LifecycleSettings) (arguments : UpdateArguments)
    (lifecycle : Lifecycle) : Lifecycle :=
  let frame := UpdateFrame.enter settings arguments
  (admitAll math frame (observeAll math frame lifecycle)).finish frame

/-- A pass of the loop in `m3_lifecycle_release_all`. -/
def releaseNote (outputOffset : ℤ) (note : ℕ) (lifecycle : Lifecycle) : Lifecycle :=
  if (lifecycle.voices note).active then lifecycle.releaseVoice note outputOffset
  else lifecycle.setVoice note {}

/-- `m3_lifecycle_release_all`. -/
def releaseAll (blockOffset : ℚ) (lifecycle : Lifecycle) : Lifecycle :=
  let released := countedLoop (releaseNote (max 0 (floor blockOffset))) noteCount
    { lifecycle with list := lifecycle.list.reset, cappedAdmissionNote := -1 }
  { released with list := released.list.sortEvents }

end Lifecycle

end M3Midi.Jsfx
