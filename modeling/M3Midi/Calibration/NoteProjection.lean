import M3Midi.Calibration.Bank
import Mathlib.Algebra.Order.Ring.Rat
import Mathlib.Algebra.Order.Group.Unbundled.Abs
import Mathlib.Tactic.Linarith

/-! # The note of a fretted string

A pitch on a known string is projected onto the measured centre of its fret or of a
neighbouring one. The projection moves by a semitone at most, to a centre that is nearest up
to the tolerance of the comparison, and only when that is an improvement worth having
(`M3Midi.projectCalibratedNote_nearest`).
-/

namespace M3Midi

/-- What separates two errors that count as different, in cents. -/
def projectionTolerance : ℚ := 1 / 1000000000

/-- `CalibratedNoteProjection`, what the caller learns about the note. -/
structure CalibratedNoteProjection where
  note : ℕ
  fretDelta : ℤ := 0
  errorImprovementCents : ℚ := 0
  changed : Bool := false
  deriving DecidableEq, Repr

namespace StringCalibrationBank

/-- The point of a fret, when the string has the fret and the fret has a point. -/
def measuredPoint (bank : StringCalibrationBank) (string : Fin maxVoices) (fret : ℤ) :
    Option StringCalibrationPoint :=
  if inRange : 0 ≤ fret ∧ fret.toNat < calibrationFretCount then
    let point := bank.points string ⟨fret.toNat, inRange.2⟩
    if point.quality = .missing then none else some point
  else none

end StringCalibrationBank

/-- The measured pitch of a note, in cents above note zero. -/
def measuredCenter (note : ℤ) (point : StringCalibrationPoint) : ℚ :=
  100 * note + point.centsOffsetQ8.toInt / 256

/-- What `project_calibrated_note` is given. A required improvement that is not finite is absent. -/
structure NoteProjectionQuery where
  note : ℕ
  centsQ8 : ℤ
  centsValid : Bool
  stringIndex : ℕ
  bank : StringCalibrationBank
  maximumFret : ℕ
  minimumErrorImprovementCents : Option ℚ

namespace NoteProjectionQuery

variable (query : NoteProjectionQuery)

/-- The string, when there is one with the index. -/
def string : Option (Fin maxVoices) :=
  if inRange : query.stringIndex < maxVoices then some ⟨query.stringIndex, inRange⟩ else none

/-- The observed pitch in cents. -/
def observed : ℚ := 100 * query.note + query.centsQ8 / 256

/-- How far the pitch is from the centre of a note on a string; absent when the string does not
have the note, or has it not measured. -/
def error (string : Fin maxVoices) (note : ℤ) : Option ℚ :=
  let fret := note - m3OpenNotes string
  if fret > query.maximumFret then none
  else (query.bank.measuredPoint string fret).map fun point =>
    |query.observed - measuredCenter note point|

/-- One direction of the search: the neighbour is taken when it is a note and closer than the
best. -/
def consider (string : Fin maxVoices) (best : ℚ × ℤ) (direction : ℤ) : ℚ × ℤ :=
  let adjacentNote := query.note + direction
  if adjacentNote < 0 ∨ adjacentNote > 127 then best
  else
    match query.error string adjacentNote with
    | none => best
    | some error =>
        if error + projectionTolerance < best.1 then (error, adjacentNote) else best

/-- The note below comes first. -/
def best (string : Fin maxVoices) (currentError : ℚ) : ℚ × ℤ :=
  [-1, 1].foldl (query.consider string) (currentError, query.note)

/-- The projection that leaves the note as it is. -/
def unchanged : CalibratedNoteProjection where
  note := query.note

/-- The projection on a string that there is, with a finite required improvement. -/
def projectOn (string : Fin maxVoices) (minimum : ℚ) : CalibratedNoteProjection :=
  if query.centsValid = false ∨ query.bank.stringCalibrated string = false ∨ minimum < 0 ∨
      query.note < m3OpenNotes string then
    query.unchanged
  else
    match query.error string query.note with
    | none => query.unchanged
    | some currentError =>
        let best := query.best string currentError
        let improvement := currentError - best.1
        if best.2 ≠ query.note ∧ improvement + projectionTolerance ≥ minimum then
          { note := best.2.toNat
            fretDelta := if best.2 > query.note then 1 else -1
            errorImprovementCents := improvement
            changed := true }
        else query.unchanged

end NoteProjectionQuery

/-- The note a pitch belongs to. A string that there is not and a required improvement that is
not finite leave the note as it is, as an invalid pitch does. -/
def projectCalibratedNote (query : NoteProjectionQuery) : CalibratedNoteProjection :=
  match query.string, query.minimumErrorImprovementCents with
  | some string, some minimum => query.projectOn string minimum
  | _, _ => query.unchanged

namespace NoteProjectionQuery

variable {query : NoteProjectionQuery} {string : Fin maxVoices}

/-- The neighbours of a note are the notes a semitone away. -/
structure Neighbour (query : NoteProjectionQuery) (note : ℤ) : Prop where
  beside : note = query.note - 1 ∨ note = query.note + 1
  low : 0 ≤ note
  high : note ≤ 127

/-- A note one semitone away is a neighbour, if it is a MIDI note. -/
theorem neighbour_of_mem {direction : ℤ} (member : direction ∈ [(-1 : ℤ), 1])
    (low : 0 ≤ query.note + direction) (high : query.note + direction ≤ 127) :
    query.Neighbour (query.note + direction) := by
  refine ⟨?_, low, high⟩
  simp only [List.mem_cons, List.not_mem_nil, or_false] at member
  rcases member with rfl | rfl
  · exact .inl (Int.add_neg_one _)
  · exact .inr rfl

/-- A neighbour is one semitone away, on one side or the other. -/
theorem mem_of_neighbour {note : ℤ} (neighbour : query.Neighbour note) :
    ∃ direction ∈ [(-1 : ℤ), 1], note = query.note + direction := by
  rcases neighbour.beside with rfl | rfl
  · exact ⟨-1, List.mem_cons_self, (Int.add_neg_one _).symm⟩
  · exact ⟨1, List.mem_cons_of_mem _ List.mem_cons_self, rfl⟩

/-- The best so far is the note itself or a neighbour that has been considered, and no
neighbour that has been considered is closer by more than the tolerance. -/
structure Nearest (query : NoteProjectionQuery) (string : Fin maxVoices) (currentError : ℚ)
    (considered : List ℤ) (best : ℚ × ℤ) : Prop where
  found : best = (currentError, (query.note : ℤ)) ∨
    ∃ direction ∈ considered, best.2 = query.note + direction ∧ 0 ≤ best.2 ∧ best.2 ≤ 127 ∧
      query.error string best.2 = some best.1 ∧ best.1 + projectionTolerance < currentError
  least : ∀ direction ∈ considered, 0 ≤ query.note + direction → query.note + direction ≤ 127 →
    ∀ error, query.error string (query.note + direction) = some error →
      best.1 ≤ error + projectionTolerance
  below : best.1 ≤ currentError

/-- The tolerance is positive, so that an equal error does not replace the note. -/
theorem tolerance_pos : 0 < projectionTolerance := by
  unfold projectionTolerance
  norm_num

/-- Before any neighbour is considered, the note itself is the nearest. -/
theorem nearest_start (currentError : ℚ) :
    query.Nearest string currentError [] (currentError, (query.note : ℤ)) where
  found := .inl rfl
  least _ member := absurd member List.not_mem_nil
  below := le_rfl

/-- A neighbour that is no closer leaves the best as it is. -/
theorem Nearest.keep {currentError : ℚ} {considered : List ℤ} {best : ℚ × ℤ}
    (nearest : query.Nearest string currentError considered best) {direction : ℤ}
    (least : 0 ≤ query.note + direction → query.note + direction ≤ 127 →
      ∀ error, query.error string (query.note + direction) = some error →
        best.1 ≤ error + projectionTolerance) :
    query.Nearest string currentError (considered ++ [direction]) best := by
  refine ⟨nearest.found.imp_right ?_, ?_, nearest.below⟩
  · intro ⟨earlier, member, rest⟩
    exact ⟨earlier, List.mem_append_left _ member, rest⟩
  · intro other member low high error measured
    rcases List.mem_append.mp member with earlier | last
    · exact nearest.least other earlier low high error measured
    · obtain rfl := List.mem_singleton.mp last
      exact least low high error measured

/-- A neighbour that is closer by more than the tolerance becomes the best. -/
theorem Nearest.take {currentError error : ℚ} {considered : List ℤ} {best : ℚ × ℤ}
    (nearest : query.Nearest string currentError considered best) {direction : ℤ}
    (low : 0 ≤ query.note + direction) (high : query.note + direction ≤ 127)
    (measured : query.error string (query.note + direction) = some error)
    (closer : error + projectionTolerance < best.1) :
    query.Nearest string currentError (considered ++ [direction])
      (error, query.note + direction) := by
  have positive := tolerance_pos
  have below := nearest.below
  refine ⟨.inr ⟨direction, ?_, rfl, low, high, measured, ?_⟩, ?_, ?_⟩
  · exact List.mem_append_right _ (List.mem_singleton_self direction)
  · change error + projectionTolerance < currentError
    linarith
  · intro other member otherLow otherHigh otherError otherMeasured
    change error ≤ otherError + projectionTolerance
    rcases List.mem_append.mp member with earlier | last
    · have bound := nearest.least other earlier otherLow otherHigh otherError otherMeasured
      linarith
    · obtain rfl := List.mem_singleton.mp last
      rw [measured] at otherMeasured
      obtain rfl := Option.some.inj otherMeasured
      linarith
  · change error ≤ currentError
    linarith

/-- One neighbour more is considered, and the best is the nearest of those considered. -/
theorem Nearest.consider {currentError : ℚ} {considered : List ℤ} {best : ℚ × ℤ}
    (nearest : query.Nearest string currentError considered best) (direction : ℤ) :
    query.Nearest string currentError (considered ++ [direction])
      (query.consider string best direction) := by
  unfold NoteProjectionQuery.consider
  dsimp only
  split_ifs with outside
  · refine nearest.keep fun low high => ?_
    omega
  · rw [not_or, not_lt, not_lt] at outside
    cases measured : query.error string (query.note + direction) with
    | none => exact nearest.keep fun _ _ error found => nomatch measured.symm.trans found
    | some error =>
        dsimp only
        split_ifs with closer
        · exact nearest.take outside.1 outside.2 measured closer
        · refine nearest.keep fun _ _ other found => ?_
          obtain rfl := Option.some.inj (measured.symm.trans found)
          exact not_lt.mp closer

/-- After both neighbours, the best is the nearest of all. -/
theorem nearest_best (currentError : ℚ) :
    query.Nearest string currentError [-1, 1] (query.best string currentError) :=
  ((nearest_start currentError).consider (-1)).consider 1

/-- The query asks for a note of a calibrated string, from its open note on, that the string has
measured. -/
structure Movable (query : NoteProjectionQuery) (string : Fin maxVoices)
    (minimum currentError : ℚ) : Prop where
  named : query.string = some string
  finite : query.minimumErrorImprovementCents = some minimum
  centsValid : query.centsValid = true
  calibrated : query.bank.stringCalibrated string = true
  improvement : 0 ≤ minimum
  above : m3OpenNotes string ≤ query.note
  current : query.error string query.note = some currentError

/-- The note gives way to a measured neighbour on its string that is closer by the required
improvement and by more than the tolerance, and no other neighbour is closer by more than the
tolerance. -/
structure Moves (query : NoteProjectionQuery) (projection : CalibratedNoteProjection)
    (string : Fin maxVoices) (minimum currentError error : ℚ) : Prop where
  movable : query.Movable string minimum currentError
  measured : query.error string projection.note = some error
  neighbour : query.Neighbour projection.note
  fretDelta : (projection.note : ℤ) = query.note + projection.fretDelta
  improvement : projection.errorImprovementCents = currentError - error
  closer : error + projectionTolerance < currentError
  enough : minimum ≤ currentError - error + projectionTolerance
  least : ∀ other otherError, query.Neighbour other → query.error string other = some otherError →
    error ≤ otherError + projectionTolerance

/-- No neighbour is closer both by the required improvement and by more than the tolerance. -/
def Stays (query : NoteProjectionQuery) : Prop :=
  ∀ string minimum currentError, query.Movable string minimum currentError →
    ∀ other error, query.Neighbour other → query.error string other = some error →
      currentError ≤ error + projectionTolerance ∨ currentError - error < minimum

/-- What the projection on a string makes of a query: the note moves, or is unchanged and stays. A
neighbour is taken only if it is nearer to a calibrated centre by the required improvement. -/
theorem projectOn_nearest {minimum : ℚ} (named : query.string = some string)
    (finite : query.minimumErrorImprovementCents = some minimum) :
    ((query.projectOn string minimum).changed = true →
      ∃ currentError error,
        query.Moves (query.projectOn string minimum) string minimum currentError error) ∧
    ((query.projectOn string minimum).changed = false →
      query.projectOn string minimum = query.unchanged ∧
        ∀ currentError, query.Movable string minimum currentError →
          ∀ other error, query.Neighbour other → query.error string other = some error →
            currentError ≤ error + projectionTolerance ∨ currentError - error < minimum) := by
  have positive := tolerance_pos
  unfold projectOn
  split_ifs with refused
  · refine ⟨fun changed => absurd changed Bool.false_ne_true, fun _ => ⟨rfl, ?_⟩⟩
    intro currentError movable
    rcases refused with invalid | uncalibrated | negative | beneath
    · exact absurd (movable.centsValid.symm.trans invalid) (by decide)
    · exact absurd (movable.calibrated.symm.trans uncalibrated) (by decide)
    · exact absurd movable.improvement (not_le.mpr negative)
    · exact absurd movable.above (not_le.mpr beneath)
  · cases measured : query.error string query.note with
    | none =>
        refine ⟨fun changed => absurd changed Bool.false_ne_true, fun _ => ⟨rfl, ?_⟩⟩
        exact fun currentError movable => nomatch measured.symm.trans movable.current
    | some currentError =>
        dsimp only
        have nearest := @nearest_best query string currentError
        generalize query.best string currentError = best at nearest ⊢
        have least : ∀ other error, query.Neighbour other → query.error string other = some error →
            best.1 ≤ error + projectionTolerance := by
          intro other error neighbour found
          obtain ⟨direction, member, rfl⟩ := mem_of_neighbour neighbour
          exact nearest.least direction member neighbour.low neighbour.high error found
        by_cases taken : best.2 ≠ query.note ∧
            currentError - best.1 + projectionTolerance ≥ minimum
        · rw [if_pos taken]
          refine ⟨fun _ => ⟨currentError, best.1, ?_⟩, fun kept => Bool.noConfusion kept⟩
          rw [not_or, not_or, not_or, Bool.not_eq_false, Bool.not_eq_false, not_lt, not_lt]
            at refused
          obtain ⟨valid, calibrated, improvement, above⟩ := refused
          rcases nearest.found with same | ⟨direction, member, moved, low, high, found, closer⟩
          · exact absurd (congrArg Prod.snd same) taken.1
          · have note : (best.2.toNat : ℤ) = best.2 := Int.toNat_of_nonneg low
            have neighbour : query.Neighbour best.2 :=
              moved ▸ neighbour_of_mem member (moved ▸ low) (moved ▸ high)
            constructor
            case movable => exact ⟨named, finite, valid, calibrated, improvement, above, measured⟩
            case measured => rwa [note]
            case neighbour => rwa [note]
            case fretDelta =>
              change (best.2.toNat : ℤ) = query.note + if best.2 > query.note then 1 else -1
              rw [note]
              rcases neighbour.beside with down | up
              · rw [if_neg (by omega)]
                omega
              · rw [if_pos (by omega)]
                omega
            case improvement => rfl
            case closer => exact closer
            case enough => exact taken.2
            case least => exact least
        · rw [if_neg taken]
          refine ⟨fun changed => absurd changed Bool.false_ne_true, fun _ => ⟨rfl, ?_⟩⟩
          intro error movable other otherError neighbour found
          obtain rfl := Option.some.inj (measured.symm.trans movable.current)
          have bound := least other otherError neighbour found
          rcases nearest.found with stays | ⟨direction, member, moved, low, high, -, closer⟩
          · left
            rwa [stays] at bound
          · right
            have away : best.2 ≠ query.note := by
              rcases (neighbour_of_mem member (moved ▸ low) (moved ▸ high)).beside with down | up
              · omega
              · omega
            have short := not_le.mp (not_and.mp taken away)
            linarith

end NoteProjectionQuery

open NoteProjectionQuery in
/-- **Projection onto the nearest centre.** A note changes only on a calibrated string, with a
valid pitch and a finite improvement required, and then to a nearest measured neighbour that is
worth the change; a note that stays has no such neighbour. -/
theorem projectCalibratedNote_nearest (query : NoteProjectionQuery) :
    ((projectCalibratedNote query).changed = true →
      ∃ string minimum currentError error,
        query.Moves (projectCalibratedNote query) string minimum currentError error) ∧
    ((projectCalibratedNote query).changed = false →
      projectCalibratedNote query = query.unchanged ∧ query.Stays) := by
  have refuses (missing : ∀ string minimum currentError,
      ¬ query.Movable string minimum currentError) :
      (query.unchanged.changed = true →
        ∃ string minimum currentError error,
          query.Moves query.unchanged string minimum currentError error) ∧
      (query.unchanged.changed = false →
        query.unchanged = query.unchanged ∧ query.Stays) :=
    ⟨fun changed => absurd changed Bool.false_ne_true, fun _ => ⟨rfl, fun string minimum current
      movable => absurd movable (missing string minimum current)⟩⟩
  unfold projectCalibratedNote
  cases named : query.string with
  | none => exact refuses fun _ _ _ movable => nomatch named.symm.trans movable.named
  | some string =>
      cases finite : query.minimumErrorImprovementCents with
      | none => exact refuses fun _ _ _ movable => nomatch finite.symm.trans movable.finite
      | some minimum =>
          obtain ⟨moves, stays⟩ := projectOn_nearest named finite
          refine ⟨fun changed => ⟨string, minimum, moves changed⟩, fun same => ?_⟩
          refine ⟨(stays same).1, fun other least currentError movable => ?_⟩
          obtain rfl := Option.some.inj (named.symm.trans movable.named)
          obtain rfl := Option.some.inj (finite.symm.trans movable.finite)
          exact (stays same).2 currentError movable

end M3Midi
