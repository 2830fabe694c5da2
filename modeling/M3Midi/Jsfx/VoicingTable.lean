import M3Midi.Jsfx.Voicing
import Mathlib.Tactic.Linarith

/-! # The entries of the voicing table

Every entry that the filter can reach is the score and the code of a voicing on the
strings of its mask (`M3Midi.Jsfx.enterAll_reached`). An entry does not stay behind a
voicing by more than the tolerance of each of its notes, as long as every note gains
at least that tolerance (`M3Midi.Jsfx.enterAll_covers`); this is why negative entries
need not be extended.
-/

namespace M3Midi.Jsfx

open Foundation Foundation.LaneMask Foundation.ProposalTable Foundation.MaskSweep

/-- A string on which a note lies within the frets. -/
def Playable (note maxFret : ℚ) (string : Fin 8) : Prop :=
  0 ≤ note - openNote string ∧ note - openNote string ≤ floor maxFret

/-- Notes to be played, each with its string. -/
abbrev Played := List (VoicingCell × Fin 8)

/-- Some of the candidates, each on a playable string of its own. -/
structure IsVoicing (candidates : List VoicingCell) (maxFret : ℚ) (limit : ℕ)
    (played : Played) : Prop where
  chosen : (played.map Prod.fst).Sublist candidates
  positive : ∀ note ∈ played, 0 < note.1.confidence
  playable : ∀ note ∈ played, Playable note.1.roundedNote maxFret note.2
  own_string : (played.map Prod.snd).Nodup
  within : played.length ≤ limit

/-- The confidences less the penalties. -/
def voicingTotal (openCount : ℕ) (played : Played) : ℚ :=
  (played.map fun note => assignmentGain openCount note.1 note.2).sum

/-- The strings that are played on. -/
def usedBy (played : Played) : UsedMask :=
  played.foldl (fun mask note => mask ||| single note.2) 0

/-- The entry that notes lead to. -/
def entryOf (openCount : ℕ) (played : Played) : FilterState :=
  played.foldl (fun state note =>
    state.assign note.1.roundedNote note.2 (assignmentGain openCount note.1 note.2)) { score := 0 }

variable {candidates entered : List VoicingCell} {maxFret : ℚ} {limit openCount : ℕ}
  {played : Played} {cell : VoicingCell} {string : Fin 8}

/-- One assignment more adds its gain to the total. -/
theorem voicingTotal_concat :
    voicingTotal openCount (played ++ [(cell, string)]) =
      voicingTotal openCount played + assignmentGain openCount cell string := by
  rw [voicingTotal, List.map_append, List.sum_append]
  exact congrArg _ List.sum_singleton

/-- One assignment more uses its string. -/
theorem usedBy_concat :
    usedBy (played ++ [(cell, string)]) = usedBy played ||| single string := by
  rw [usedBy, List.foldl_append]
  rfl

/-- The entry of a voicing grows with the voicing, one assignment at a time. -/
theorem entryOf_concat :
    entryOf openCount (played ++ [(cell, string)]) =
      (entryOf openCount played).assign cell.roundedNote string
        (assignmentGain openCount cell string) := by
  rw [entryOf, List.foldl_append]
  rfl

/-- The score of a voicing's entry is the voicing's total. -/
theorem entryOf_score : (entryOf openCount played).score = voicingTotal openCount played := by
  induction played using List.reverseRecOn with
  | nil => rfl
  | append_singleton played note ih =>
      obtain ⟨cell, string⟩ := note
      rw [entryOf_concat, voicingTotal_concat, ← ih]
      rfl

/-- The strings in use are the mask of the assigned ones. -/
theorem usedBy_eq : usedBy played = maskOf (played.map Prod.snd) := by
  rw [usedBy, maskOf, List.foldl_map]

theorem lanes_usedBy : lanes (usedBy played) = (played.map Prod.snd).toFinset := by
  rw [usedBy_eq, lanes_maskOf]

/-- The count of the bits is the number of strings. -/
theorem popcount8_eq (mask : UsedMask) : popcount8 mask = (lanes mask).card := by
  rw [lanes, Finset.card_filter, Fin.sum_univ_def]
  rfl

/-- A voicing uses as many strings as it has notes. -/
theorem popcount8_usedBy (own : (played.map Prod.snd).Nodup) :
    popcount8 (usedBy played) = played.length := by
  rw [popcount8_eq, lanes_usedBy, List.toFinset_card_of_nodup own, List.length_map]

/-- The mask of a note has the strings on which it can be played. -/
theorem mem_lanes_noteStringMask (low : 0 ≤ maxFret) (high : maxFret ≤ 36) {note : ℚ} :
    string ∈ lanes (noteStringMask note maxFret) ↔ Playable note maxFret string := by
  have nonneg : 0 ≤ floor maxFret := Int.floor_nonneg.mpr low
  have bounded : (floor maxFret : ℚ) ≤ 36 := le_trans (Int.floor_le maxFret) high
  have finite : isFinite (some maxFret) = true := by
    refine decide_eq_true ?_
    rw [abs_of_nonneg low]
    exact lt_of_le_of_lt high (by norm_num)
  have open_le : (openNote string : ℚ) ≤ 60 := by
    have below := string.isLt
    have le : openNote string ≤ 60 := by
      rw [openNote]
      omega
    exact_mod_cast le
  rw [noteStringMask]
  split_ifs with guard
  · rw [mem_lanes_gather, lanes_zero]
    constructor
    · rintro (nothing | ⟨-, holds⟩)
      · exact absurd nothing (Finset.notMem_empty string)
      · exact holds
    · intro holds
      exact .inr ⟨List.mem_finRange string, holds⟩
  · rw [lanes_zero]
    refine ⟨fun nothing => absurd nothing (Finset.notMem_empty string), fun holds => absurd ?_ guard⟩
    have open_nonneg : (0 : ℚ) ≤ openNote string := Nat.cast_nonneg _
    have within : |note| < 10 ^ 30 := by
      rw [abs_lt]
      constructor
      · linarith [holds.1]
      · linarith [holds.2]
    rw [finite, Bool.and_true, Bool.and_eq_true]
    exact ⟨decide_eq_true within, decide_eq_true nonneg⟩

/-- A string is free if the note can be played on it and it is not in use. -/
theorem mem_freeStrings {playable used : UsedMask} :
    string ∈ freeStrings playable used ↔ string ∈ lanes playable ∧ string ∉ lanes used := by
  rw [freeStrings, List.mem_filter, Bool.and_eq_true, Bool.not_eq_true', mem_lanes, mem_lanes,
    Bool.not_eq_true]
  exact and_iff_right (List.mem_finRange string)

/-- The comparison of entries keeps the better one: an entry that has not been beaten is not beaten
by what replaces it. -/
theorem improves_keeps : Keeps FilterState.improves where
  not_self value := decide_eq_false (by
    rw [not_lt]
    exact le_add_of_nonneg_right (by rw [FilterState.scoreTolerance]; norm_num))
  kept newer older value better unbeaten := by
    have above := of_decide_eq_true better
    have below := of_decide_eq_false unbeaten
    have tolerance : 0 < FilterState.scoreTolerance := by
      rw [FilterState.scoreTolerance]
      norm_num
    refine decide_eq_false ?_
    rw [not_lt] at below ⊢
    linarith

/-- What the offers of a candidate are. -/
theorem mem_voicingOffers {used : UsedMask} {state : FilterState}
    {proposal : UsedMask × FilterState} :
    proposal ∈ voicingOffers limit openCount maxFret cell used state ↔
      (0 ≤ state.score ∧ popcount8 used < limit) ∧
        ∃ string ∈ freeStrings (noteStringMask cell.roundedNote maxFret) used,
          (used ||| single string,
            state.assign cell.roundedNote string (assignmentGain openCount cell string)) =
              proposal := by
  rw [voicingOffers]
  split_ifs with extends_
  · rw [List.mem_map, and_iff_right extends_]
  · exact ⟨fun nothing => absurd nothing List.not_mem_nil, fun held => absurd held.1 extends_⟩

/-- An offer always uses more strings than the entry it starts from. The table can thus be swept in
place. -/
theorem voicingOffers_forward :
    Forward (voicingOffers limit openCount maxFret cell) (allMasks 8).reverse := by
  refine forward_of_grows ?_
  intro source value proposal offered
  obtain ⟨-, string, -, rfl⟩ := mem_voicingOffers.mp offered
  exact ⟨single string, rfl⟩

/-- A voicing of the first notes is one of more notes. -/
theorem IsVoicing.later (voicing : IsVoicing entered maxFret limit played) :
    IsVoicing (entered ++ [cell]) maxFret limit played :=
  { voicing with chosen := voicing.chosen.trans (List.sublist_append_left entered [cell]) }

/-- One more candidate on a free string. -/
theorem IsVoicing.concat (voicing : IsVoicing entered maxFret limit played)
    (positive : 0 < cell.confidence) (playable : Playable cell.roundedNote maxFret string)
    (free : string ∉ lanes (usedBy played)) (room : played.length < limit) :
    IsVoicing (entered ++ [cell]) maxFret limit (played ++ [(cell, string)]) where
  chosen := by
    rw [List.map_append]
    exact voicing.chosen.append (List.Sublist.refl [cell])
  positive note member := by
    rcases List.mem_append.mp member with earlier | last
    · exact voicing.positive note earlier
    · rw [List.mem_singleton.mp last]
      exact positive
  playable note member := by
    rcases List.mem_append.mp member with earlier | last
    · exact voicing.playable note earlier
    · rw [List.mem_singleton.mp last]
      exact playable
  own_string := by
    rw [lanes_usedBy, List.mem_toFinset] at free
    rw [List.map_append, List.nodup_append]
    refine ⟨voicing.own_string, List.nodup_singleton string, ?_⟩
    intro other earlier last here same
    rw [List.map_singleton, List.mem_singleton] at here
    rw [same, here] at earlier
    exact free earlier
  within := by
    rw [List.length_append]
    exact room

/-- What a table holds at a mask: nothing yet, or a voicing on the strings of the mask. -/
def Reached (entered : List VoicingCell) (maxFret : ℚ) (limit openCount : ℕ) (used : UsedMask)
    (state : FilterState) : Prop :=
  state = {} ∨ ∃ played, IsVoicing entered maxFret limit played ∧ usedBy played = used ∧
    entryOf openCount played = state

/-- An entry that has been reached stays reached. -/
theorem Reached.later {used : UsedMask} {state : FilterState}
    (reached : Reached entered maxFret limit openCount used state) :
    Reached (entered ++ [cell]) maxFret limit openCount used state := by
  refine reached.imp_right ?_
  rintro ⟨played, voicing, mask, entry⟩
  exact ⟨played, voicing.later, mask, entry⟩

/-- What a candidate leads to from a voicing is a voicing. -/
theorem Reached.offer (low : 0 ≤ maxFret) (high : maxFret ≤ 36) {used : UsedMask}
    {state : FilterState} {proposal : UsedMask × FilterState}
    (reached : Reached entered maxFret limit openCount used state) (positive : 0 < cell.confidence)
    (offered : proposal ∈ voicingOffers limit openCount maxFret cell used state) :
    Reached (entered ++ [cell]) maxFret limit openCount proposal.1 proposal.2 := by
  obtain ⟨⟨nonneg, room⟩, string, free, rfl⟩ := mem_voicingOffers.mp offered
  rcases reached with rfl | ⟨played, voicing, rfl, rfl⟩
  · exact absurd nonneg (by decide)
  · obtain ⟨playable, unused⟩ := mem_freeStrings.mp free
    rw [popcount8_usedBy voicing.own_string] at room
    exact .inr ⟨played ++ [(cell, string)],
      voicing.concat positive ((mem_lanes_noteStringMask low high).mp playable) unused room,
      usedBy_concat, entryOf_concat⟩

/-- An entry after a candidate is the entry before, or the candidate leads to it. -/
theorem enterCandidate_sound (table : ValueTable UsedMask FilterState) (used : UsedMask) :
    (enterCandidate limit openCount maxFret table cell).value used = table.value used ∨
      0 < cell.confidence ∧ ∃ source,
        (used, (enterCandidate limit openCount maxFret table cell).value used) ∈
          voicingOffers limit openCount maxFret cell source (table.value source) := by
  rw [enterCandidate]
  split_ifs with enters
  · rw [eligible, Bool.and_eq_true, Bool.and_eq_true] at enters
    refine (@sweep_sound _ _ _ FilterState.improves _ _
      (@voicingOffers_forward maxFret limit openCount cell) table used).imp_right ?_
    rintro ⟨source, -, offered⟩
    exact ⟨of_decide_eq_true enters.1.2, source, offered⟩
  · exact .inl rfl

/-- A candidate keeps every entry a voicing. -/
theorem enterCandidate_reached (low : 0 ≤ maxFret) (high : maxFret ≤ 36)
    {table : ValueTable UsedMask FilterState}
    (reached : ∀ used, Reached entered maxFret limit openCount used (table.value used))
    (used : UsedMask) :
    Reached (entered ++ [cell]) maxFret limit openCount used
      ((enterCandidate limit openCount maxFret table cell).value used) := by
  rcases @enterCandidate_sound maxFret limit openCount cell table used with
    same | ⟨positive, source, offered⟩
  · rw [same]
    exact (reached used).later
  · exact @Reached.offer entered maxFret limit openCount cell low high source (table.value source)
      (used, _) (reached source) positive offered

/-- The table after some of the candidates. -/
def enterAll (limit openCount : ℕ) (maxFret : ℚ) (entered : List VoicingCell) :
    ValueTable UsedMask FilterState :=
  entered.foldl (enterCandidate limit openCount maxFret) startTable

/-- The table is filled one note after the other. -/
theorem enterAll_concat :
    enterAll limit openCount maxFret (entered ++ [cell]) =
      enterCandidate limit openCount maxFret (enterAll limit openCount maxFret entered) cell := by
  rw [enterAll, List.foldl_append]
  rfl

/-- To play nothing is a voicing. -/
theorem isVoicing_nil : IsVoicing entered maxFret limit [] where
  chosen := List.nil_sublist entered
  positive := List.forall_mem_nil _
  playable := List.forall_mem_nil _
  own_string := List.nodup_nil
  within := Nat.zero_le limit

/-- Every entry is a voicing. -/
theorem enterAll_reached (low : 0 ≤ maxFret) (high : maxFret ≤ 36) (entered : List VoicingCell)
    (used : UsedMask) :
    Reached entered maxFret limit openCount used
      ((enterAll limit openCount maxFret entered).value used) := by
  induction entered using List.reverseRecOn generalizing used with
  | nil =>
      rw [enterAll, List.foldl_nil, startTable]
      dsimp only
      split_ifs with nothing
      · exact .inr ⟨[], isVoicing_nil, nothing.symm, rfl⟩
      · exact .inl rfl
  | append_singleton entered cell ih =>
      rw [enterAll_concat]
      exact enterCandidate_reached low high ih used

/-- A voicing of more candidates plays the last of them or not. -/
theorem IsVoicing.split (voicing : IsVoicing (entered ++ [cell]) maxFret limit played) :
    IsVoicing entered maxFret limit played ∨
      ∃ earlier string, played = earlier ++ [(cell, string)] ∧
        IsVoicing entered maxFret limit earlier ∧ 0 < cell.confidence ∧
        Playable cell.roundedNote maxFret string ∧ string ∉ lanes (usedBy earlier) ∧
        earlier.length < limit := by
  obtain ⟨first, second, whole, chosen, last⟩ := List.sublist_append_iff.mp voicing.chosen
  obtain ⟨earlier, final, rfl, rfl, rfl⟩ := List.map_eq_append_iff.mp whole
  have before : IsVoicing entered maxFret limit earlier :=
    { chosen
      positive := fun note member => voicing.positive note (List.mem_append_left _ member)
      playable := fun note member => voicing.playable note (List.mem_append_left _ member)
      own_string := voicing.own_string.sublist ((List.sublist_append_left _ _).map _)
      within := le_trans (List.sublist_append_left _ _).length_le voicing.within }
  rcases List.sublist_singleton.mp last with nothing | one
  · rw [List.map_eq_nil_iff.mp nothing, List.append_nil]
    exact .inl before
  · obtain ⟨⟨played, string⟩, rfl, rfl⟩ := List.map_eq_singleton_iff.mp one
    have member : (played, string) ∈ earlier ++ [(played, string)] :=
      List.mem_append_right _ (List.mem_singleton_self _)
    refine .inr ⟨earlier, string, rfl, before, voicing.positive _ member,
      voicing.playable _ member, ?_, ?_⟩
    · have own := voicing.own_string
      rw [List.map_append, List.nodup_append] at own
      rw [lanes_usedBy, List.mem_toFinset]
      intro taken
      exact own.2.2 string taken string (List.mem_singleton_self string) rfl
    · have within := voicing.within
      rw [List.length_append] at within
      exact within

/-- What does not beat the table before a note enters does not beat it afterwards. -/
theorem enterCandidate_kept {table : ValueTable UsedMask FilterState} {used : UsedMask}
    {value : FilterState} (unbeaten : value.improves (table.value used) = false) :
    value.improves ((enterCandidate limit openCount maxFret table cell).value used) = false := by
  rw [enterCandidate]
  split_ifs
  · exact sweep_kept improves_keeps voicingOffers_forward unbeaten
  · exact unbeaten

/-- What is offered from an entry of the table does not beat the table afterwards. -/
theorem enterCandidate_beats {table : ValueTable UsedMask FilterState} {source : UsedMask}
    {proposal : UsedMask × FilterState} (enters : eligible maxFret cell = true)
    (offered : proposal ∈ voicingOffers limit openCount maxFret cell source (table.value source)) :
    proposal.2.improves ((enterCandidate limit openCount maxFret table cell).value proposal.1) =
      false := by
  rw [enterCandidate, if_pos enters]
  exact sweep_beats improves_keeps voicingOffers_forward
    (List.mem_reverse.mpr (mem_allMasks source)) offered

/-- The entry at the strings of a voicing is behind it by at most a tolerance for each note. -/
def Covers (openCount : ℕ) (table : ValueTable UsedMask FilterState) (played : Played) : Prop :=
  voicingTotal openCount played - played.length * FilterState.scoreTolerance ≤
    (table.value (usedBy played)).score

/-- A table covers a voicing if the voicing's total does not improve on the table's entry, once the
tolerances of the comparisons before it are taken off. -/
theorem covers_iff {table : ValueTable UsedMask FilterState} :
    Covers openCount table played ↔
      FilterState.improves
        { score := voicingTotal openCount played -
            (played.length - 1) * FilterState.scoreTolerance }
        (table.value (usedBy played)) = false := by
  rw [Covers, FilterState.improves, decide_eq_false_iff_not, not_lt]
  constructor <;> intro bound <;> linarith

/-- A candidate on a free string covers what it adds, when the entry before it is not negative. -/
theorem Covers.concat (low : 0 ≤ maxFret) (high : maxFret ≤ 36)
    {table : ValueTable UsedMask FilterState} (covers : Covers openCount table played)
    (nonneg : played.length * FilterState.scoreTolerance ≤ voicingTotal openCount played)
    (own : (played.map Prod.snd).Nodup) (room : played.length < limit)
    (finite : isFinite (some cell.confidence) = true) (positive : 0 < cell.confidence)
    (playable : Playable cell.roundedNote maxFret string)
    (free : string ∉ lanes (usedBy played)) :
    Covers openCount (enterCandidate limit openCount maxFret table cell)
      (played ++ [(cell, string)]) := by
  have bit := (mem_lanes_noteStringMask low high).mpr playable
  have enters : eligible maxFret cell = true := by
    rw [eligible, finite, Bool.true_and, Bool.and_eq_true]
    refine ⟨decide_eq_true positive, decide_eq_true ?_⟩
    intro nothing
    rw [nothing] at bit
    exact absurd bit (by simp)
  rw [Covers] at covers
  have offered := (@mem_voicingOffers maxFret limit openCount cell (usedBy played)
    (table.value (usedBy played)) _).mpr
    ⟨⟨le_trans (sub_nonneg.mpr nonneg) covers, by rw [popcount8_usedBy own]; exact room⟩,
      string, mem_freeStrings.mpr ⟨bit, free⟩, rfl⟩
  have reached := @enterCandidate_beats maxFret limit openCount cell table _ _ enters offered
  rw [FilterState.improves, decide_eq_false_iff_not, not_lt] at reached
  rw [Covers, usedBy_concat, voicingTotal_concat, List.length_append, List.length_singleton]
  push_cast
  have gained : ((table.value (usedBy played)).assign cell.roundedNote string
      (assignmentGain openCount cell string)).score =
        (table.value (usedBy played)).score + assignmentGain openCount cell string := rfl
  dsimp only at reached
  rw [gained] at reached
  linarith

/-- Notes that each gain the tolerance gain it together. -/
theorem tolerance_le_voicingTotal
    (gains : ∀ note ∈ played,
      FilterState.scoreTolerance ≤ assignmentGain openCount note.1 note.2) :
    played.length * FilterState.scoreTolerance ≤ voicingTotal openCount played := by
  induction played using List.reverseRecOn with
  | nil =>
      rw [List.length_nil, Nat.cast_zero, zero_mul]
      exact le_rfl
  | append_singleton played note ih =>
      obtain ⟨cell, string⟩ := note
      have earlier := ih fun note member => gains note (List.mem_append_left _ member)
      have last := gains (cell, string) (List.mem_append_right _ (List.mem_singleton_self _))
      rw [voicingTotal_concat, List.length_append, List.length_singleton]
      push_cast
      linarith

/-- The table covers every voicing whose notes all gain the tolerance. -/
theorem enterAll_covers (low : 0 ≤ maxFret) (high : maxFret ≤ 36)
    (finite : ∀ cell ∈ entered, isFinite (some cell.confidence) = true)
    (voicing : IsVoicing entered maxFret limit played)
    (gains : ∀ note ∈ played,
      FilterState.scoreTolerance ≤ assignmentGain openCount note.1 note.2) :
    Covers openCount (enterAll limit openCount maxFret entered) played := by
  induction entered using List.reverseRecOn generalizing played with
  | nil =>
      have nothing := List.map_eq_nil_iff.mp (List.sublist_nil.mp voicing.chosen)
      rw [nothing, Covers, enterAll, List.foldl_nil]
      exact le_of_eq (by rw [List.length_nil, Nat.cast_zero, zero_mul, sub_zero]; rfl)
  | append_singleton entered cell ih =>
      have earlier_finite : ∀ cell ∈ entered, isFinite (some cell.confidence) = true := by
        intro cell member
        exact finite cell (List.mem_append_left _ member)
      rw [enterAll_concat]
      rcases voicing.split with skipped | ⟨earlier, string, rfl, before, positive, playable, free,
        room⟩
      · exact covers_iff.mpr (enterCandidate_kept (covers_iff.mp (ih earlier_finite skipped gains)))
      · have earlier_gains : ∀ note ∈ earlier,
            FilterState.scoreTolerance ≤ assignmentGain openCount note.1 note.2 := by
          intro note member
          exact gains note (List.mem_append_left _ member)
        exact (ih earlier_finite before earlier_gains).concat low high
          (tolerance_le_voicingTotal earlier_gains) before.own_string room
          (finite cell (List.mem_append_right _ (List.mem_singleton_self cell))) positive playable
          free

end M3Midi.Jsfx
