import M3Midi.Detector.FeasibleSelection
import Mathlib.Combinatorics.Hall.Finite

/-! # What is added to the selection

After the table, a fallback or a candidate below the threshold may be added to what is chosen. The
two rules ask for one voice and one free string, also when the candidate takes a group of strings.
What is selected can sound together exactly when every group that the rules add beside the choice
that leads fits there: it has its voices, it shares no string with another group, and the single
notes of the choice have places on the other strings (`M3Midi.FeasibleSelector.exact_iff`). The
last is Hall's condition, so the single notes may have to make room.
-/

namespace M3Midi

open Foundation LaneMask ProposalTable

namespace FeasibleSelector

variable (selector : FeasibleSelector)

section Voices

/-- The voices of a candidate: one for each string of a group, otherwise one. -/
def voices (candidate : Fin selector.count) : ℕ :=
  if 2 ≤ stringCount (selector.group candidate) then stringCount (selector.group candidate) else 1

variable {selector} {candidate : Fin selector.count} {others : Finset (Fin selector.count)}
  {strings : Fin selector.count → StringMask}

/-- One string, as a set. -/
theorem lanes_alone (string : Fin 8) : lanes (single string : StringMask) = {string} :=
  lanes_single string

/-- One string counts as one. -/
theorem stringCount_single (string : Fin 8) : stringCount (single string) = 1 := by
  rw [stringCount_eq, lanes_alone, Finset.card_singleton]

/-- A candidate takes as many strings as it has voices. -/
theorem Takes.stringCount_eq {here : StringMask} (takes : selector.Takes candidate here) :
    stringCount here = selector.voices candidate := by
  unfold voices
  split_ifs with several
  · rw [(takes_of_several several).mp takes]
  · obtain ⟨string, -, rfl⟩ := (takes_of_single (Nat.not_le.mp several)).mp takes
    exact stringCount_single string

/-- Candidates use as many strings as they have voices, wherever they are placed. -/
theorem LaneSystem.sum_voices (system : selector.LaneSystem others strings) :
    ∑ other ∈ others, selector.voices other = ∑ other ∈ others, stringCount (strings other) :=
  Finset.sum_congr rfl fun other member => (system.takes other member).stringCount_eq.symm

/-- One more candidate sounds beside others on strings that are free, with a voice for each. -/
theorem LaneSystem.insert (system : selector.LaneSystem others strings) (new : candidate ∉ others)
    {here : StringMask} (takes : selector.Takes candidate here)
    (free : ∀ other ∈ others, here &&& strings other = 0)
    (room : ∑ other ∈ others, selector.voices other + stringCount here ≤ selector.maxPolyphony) :
    selector.LaneSystem (Insert.insert candidate others) (Function.update strings candidate here) := by
  have stays : ∀ other ∈ others, Function.update strings candidate here other = strings other :=
    fun other member => Function.update_of_ne (ne_of_mem_of_not_mem member new) _ _
  constructor
  · intro other member
    rcases Finset.mem_insert.mp member with rfl | before
    · rwa [Function.update_self]
    · rw [stays other before]
      exact system.takes other before
  · intro first member second member' different
    rcases Finset.mem_insert.mp member with rfl | before
    · rcases Finset.mem_insert.mp member' with rfl | later
      · exact absurd rfl different
      · rw [Function.update_self, stays second later]
        exact free second later
    · rcases Finset.mem_insert.mp member' with rfl | later
      · rw [Function.update_self, stays first before, BitVec.and_comm]
        exact free first before
      · rw [stays first before, stays second later]
        exact system.apart first before second later different
  · rw [Finset.sum_insert new, Function.update_self,
      Finset.sum_congr rfl fun other member => congrArg stringCount (stays other member),
      ← system.sum_voices, Nat.add_comm]
    exact room

/-- What is chosen has as many voices as the best state uses strings. -/
theorem sum_voices_chosenSet :
    ∑ candidate ∈ selector.chosenSet, selector.voices candidate =
      LaneMask.count selector.bestUsedMask := by
  obtain ⟨strings, system, union⟩ := @exists_laneSystem selector
  rw [system.sum_voices, sum_stringCount system.apart, union, LaneMask.count_eq]

end Voices

section Groups

/-- Those of some candidates that take several strings as one. -/
def groupsOf (others : Finset (Fin selector.count)) : Finset (Fin selector.count) :=
  others.filter fun other => 2 ≤ stringCount (selector.group other)

/-- Those of some candidates that take one string. -/
def singlesOf (others : Finset (Fin selector.count)) : Finset (Fin selector.count) :=
  others.filter fun other => stringCount (selector.group other) < 2

/-- The strings on which a note can be played beside the groups of others and one more. -/
def stringsBeside (others : Finset (Fin selector.count)) (candidate note : Fin selector.count) :
    Finset (Fin 8) :=
  lanes (selector.playableStringMask note) \ (lanes (selector.group candidate) ∪
    (selector.groupsOf others).biUnion fun other => lanes (selector.group other))

/-- The group of a candidate fits beside others that use some voices. There are strings of its own
for the group, and the others can be placed beside it, group by group and note by note. -/
structure GroupFits (others : Finset (Fin selector.count)) (voices : ℕ)
    (candidate : Fin selector.count) : Prop where
  /-- There is a voice for each of its strings. -/
  room : voices + stringCount (selector.group candidate) ≤ selector.maxPolyphony
  /-- No other group has one of its strings. -/
  apart : ∀ other ∈ selector.groupsOf others,
    selector.group candidate &&& selector.group other = 0
  /-- However many of the single notes are taken together, as many strings are left for them. -/
  strings : ∀ notes ⊆ selector.singlesOf others,
    notes.card ≤ (notes.biUnion (selector.stringsBeside others candidate)).card

variable {selector} {candidate : Fin selector.count} {others : Finset (Fin selector.count)}
  {strings : Fin selector.count → StringMask} {voices : ℕ}

/-- The groups among the candidates are those with several strings. -/
theorem mem_groupsOf {other : Fin selector.count} : other ∈ selector.groupsOf others ↔
    other ∈ others ∧ 2 ≤ stringCount (selector.group other) := Finset.mem_filter

/-- The others have one. -/
theorem mem_singlesOf {other : Fin selector.count} : other ∈ selector.singlesOf others ↔
    other ∈ others ∧ stringCount (selector.group other) < 2 := Finset.mem_filter

/-- The strings that are left for a note beside a group and the other groups. -/
theorem mem_stringsBeside {note : Fin selector.count} {string : Fin 8} :
    string ∈ selector.stringsBeside others candidate note ↔
      string ∈ lanes (selector.playableStringMask note) ∧
        string ∉ lanes (selector.group candidate) ∧
          ∀ other ∈ selector.groupsOf others, string ∉ lanes (selector.group other) := by
  simp only [stringsBeside, Finset.mem_sdiff, Finset.mem_union, Finset.mem_biUnion, not_or,
    not_exists, not_and]

/-- A group that sounds with others fits beside them. -/
theorem groupFits_of_laneSystem
    (system : selector.LaneSystem (insert candidate others) strings)
    (new : candidate ∉ others) (several : 2 ≤ stringCount (selector.group candidate))
    (used : voices = ∑ other ∈ others, selector.voices other) :
    selector.GroupFits others voices candidate := by
  have here := Finset.mem_insert_self candidate others
  have there : ∀ other ∈ others, other ∈ insert candidate others :=
    fun other member => Finset.mem_insert_of_mem member
  have takesGroup {other : Fin selector.count} (member : other ∈ insert candidate others)
      (group : 2 ≤ stringCount (selector.group other)) : strings other = selector.group other :=
    (takes_of_several group).mp (system.takes other member)
  have own := takesGroup here several
  constructor
  · have bounded := system.bounded
    rwa [← system.sum_voices, Finset.sum_insert new, ← used,
      ← (system.takes candidate here).stringCount_eq, own, Nat.add_comm] at bounded
  · intro other member
    obtain ⟨inside, group⟩ := mem_groupsOf.mp member
    rw [← own, ← takesGroup (there other inside) group]
    exact system.apart candidate here other (there other inside)
      (ne_of_mem_of_not_mem inside new).symm
  · intro notes within
    -- The strings of the notes are different, and apart from those of every group.
    have single : ∀ note ∈ notes, (lanes (strings note)).card = 1 := by
      intro note member
      obtain ⟨inside, alone⟩ := mem_singlesOf.mp (within member)
      rw [← stringCount_eq, (system.takes note (there note inside)).stringCount_eq,
        FeasibleSelector.voices, if_neg (Nat.not_le.mpr alone)]
    have apart : ∀ first ∈ notes, ∀ second ∈ notes, first ≠ second →
        Disjoint (lanes (strings first)) (lanes (strings second)) :=
      fun first member second member' different => and_eq_zero.mp (system.apart first
        (there first (mem_singlesOf.mp (within member)).1) second
        (there second (mem_singlesOf.mp (within member')).1) different)
    calc notes.card
      _ = ∑ note ∈ notes, (lanes (strings note)).card := by
          rw [Finset.sum_congr rfl single, Finset.sum_const, smul_eq_mul, Nat.mul_one]
      _ = (notes.biUnion fun note => lanes (strings note)).card :=
          (Finset.card_biUnion apart).symm
      _ ≤ (notes.biUnion (selector.stringsBeside others candidate)).card := by
          refine Finset.card_le_card (Finset.biUnion_mono fun note member string used => ?_)
          obtain ⟨inside, alone⟩ := mem_singlesOf.mp (within member)
          have member' := there note inside
          refine mem_stringsBeside.mpr ⟨?_, ?_, fun other grouped => ?_⟩
          · obtain ⟨place, playable, same⟩ :=
              (takes_of_single alone).mp (system.takes note member')
            rw [same, lanes_alone, Finset.mem_singleton] at used
            rwa [used]
          · rw [← own]
            exact Finset.disjoint_left.mp (and_eq_zero.mp (system.apart note member' candidate
              here (ne_of_mem_of_not_mem inside new))) used
          · obtain ⟨beside, group⟩ := mem_groupsOf.mp grouped
            rw [← takesGroup (there other beside) group]
            refine Finset.disjoint_left.mp (and_eq_zero.mp (system.apart note member' other
              (there other beside) ?_)) used
            rintro rfl
            exact absurd group (Nat.not_le.mpr alone)

/-- Every single note can be given a string of its own beside the groups. -/
theorem GroupFits.exists_places (fits : selector.GroupFits others voices candidate) :
    ∃ place : {note // note ∈ selector.singlesOf others} → Fin 8,
      Function.Injective place ∧
        ∀ note : {note // note ∈ selector.singlesOf others}, place note ∈ selector.stringsBeside others candidate note := by
  refine (Finset.all_card_le_biUnion_card_iff_existsInjective' fun note :
    {note // note ∈ selector.singlesOf others} =>
      selector.stringsBeside others candidate note).mp fun notes => ?_
  have named : (notes.map (Function.Embedding.subtype _)).biUnion
      (selector.stringsBeside others candidate) =
        notes.biUnion fun note => selector.stringsBeside others candidate note := by
    rw [Finset.map_eq_image, Finset.image_biUnion]
    rfl
  rw [← Finset.card_map (Function.Embedding.subtype _), ← named]
  refine fits.strings _ fun note member => ?_
  obtain ⟨inside, -, rfl⟩ := Finset.mem_map.mp member
  exact inside.2

/-- Others that can sound together can make room for a group that fits beside them. By Hall's
condition the single notes find strings of their own in what the groups leave. -/
theorem GroupFits.exists_beside (fits : selector.GroupFits others voices candidate)
    (system : selector.LaneSystem others strings) :
    ∃ moved, selector.LaneSystem others moved ∧
      ∀ other ∈ others, selector.group candidate &&& moved other = 0 := by
  obtain ⟨place, different, beside⟩ := fits.exists_places
  let moved (other : Fin selector.count) : StringMask :=
    if member : other ∈ selector.singlesOf others then single (place ⟨other, member⟩)
    else selector.group other
  have alone {other : Fin selector.count} (member : other ∈ selector.singlesOf others) :
      lanes (moved other) = {place ⟨other, member⟩} := by
    rw [show moved other = single (place ⟨other, member⟩) from dif_pos member, lanes_alone]
  have grouped {other : Fin selector.count} (group : 2 ≤ stringCount (selector.group other)) :
      moved other = selector.group other :=
    dif_neg fun member => absurd group (Nat.not_le.mpr (mem_singlesOf.mp member).2)
  have sort {other : Fin selector.count} (member : other ∈ others) :
      other ∈ selector.groupsOf others ∨ other ∈ selector.singlesOf others := by
    rcases Nat.lt_or_ge (stringCount (selector.group other)) 2 with few | several
    · exact .inr (mem_singlesOf.mpr ⟨member, few⟩)
    · exact .inl (mem_groupsOf.mpr ⟨member, several⟩)
  have takes : ∀ other ∈ others, selector.Takes other (moved other) := by
    intro other member
    rcases sort member with group | note
    · exact (takes_of_several (mem_groupsOf.mp group).2).mpr (grouped (mem_groupsOf.mp group).2)
    · have playable := (mem_stringsBeside.mp (beside ⟨other, note⟩)).1
      exact (takes_of_single (mem_singlesOf.mp note).2).mpr
        ⟨place ⟨other, note⟩, playable, dif_pos note⟩
  have apartGroup {note other : Fin selector.count} (member : note ∈ selector.singlesOf others)
      (group : other ∈ selector.groupsOf others) :
      Disjoint (lanes (moved note)) (lanes (moved other)) := by
    rw [alone member, grouped (mem_groupsOf.mp group).2, Finset.disjoint_singleton_left]
    exact (mem_stringsBeside.mp (beside ⟨note, member⟩)).2.2 other group
  refine ⟨moved, ⟨takes, ?_, ?_⟩, ?_⟩
  · intro first here second there other
    refine and_eq_zero.mpr ?_
    rcases sort here with group | note
    · rcases sort there with group' | note'
      · rw [grouped (mem_groupsOf.mp group).2, grouped (mem_groupsOf.mp group').2,
          ← (takes_of_several (mem_groupsOf.mp group).2).mp (system.takes first here),
          ← (takes_of_several (mem_groupsOf.mp group').2).mp (system.takes second there)]
        exact and_eq_zero.mp (system.apart first here second there other)
      · exact (apartGroup note' group).symm
    · rcases sort there with group' | note'
      · exact apartGroup note group'
      · rw [alone note, alone note', Finset.disjoint_singleton]
        exact fun same => other (congrArg Subtype.val (different same))
  · refine le_trans (le_of_eq ?_) system.bounded
    exact Finset.sum_congr rfl fun other member => (takes other member).stringCount_eq.trans
      (system.takes other member).stringCount_eq.symm
  · intro other member
    rcases sort member with group | note
    · rw [grouped (mem_groupsOf.mp group).2]
      exact fits.apart other group
    · refine and_eq_zero.mpr ?_
      rw [alone note, Finset.disjoint_singleton_right]
      exact (mem_stringsBeside.mp (beside ⟨other, note⟩)).2.1

end Groups

section Added

/-- The candidate that the two rules add beside a choice of options. -/
def addedBeside (used : StringMask) (items : Finset ℕ) : Option (Fin selector.count) :=
  match selector.fallbackBeside (LaneMask.count used) with
  | some option => some option.detectorIndex
  | none => selector.rescuedBeside items (LaneMask.count used) used

/-- The candidate that is added to what the best state selects. -/
def added : Option (Fin selector.count) :=
  selector.addedBeside selector.bestUsedMask selector.best.chosen

variable {selector} {candidate : Fin selector.count}

/-- The best state uses as many strings as it has voices. -/
theorem added_eq : selector.added = match selector.fallback with
    | some option => some option.detectorIndex
    | none => selector.rescued := by
  rw [added, addedBeside, ← (@best_spec selector).2.1]
  rfl

/-- Nothing is added as a fallback beside what is chosen. -/
theorem fallback_eq_none (chosen : selector.best.voiceCount ≠ 0) : selector.fallback = none :=
  if_neg chosen

/-- What is selected is what the best state chooses, and what is added. -/
theorem mem_selected : candidate ∈ selector.selected ↔
    candidate ∈ selector.chosenSet ∨ selector.added = some candidate := by
  rw [selected, Finset.mem_filter, mem_chosenSet]
  refine (and_iff_right (Finset.mem_univ candidate)).trans (or_congr_right ?_)
  rw [added_eq]
  cases found : selector.fallback with
  | none => simp
  | some option =>
      have nothing : selector.best.voiceCount = 0 := by
        by_contra chosen
        rw [fallback_eq_none chosen] at found
        exact nomatch found
      have none : selector.rescued = none := by
        unfold rescued rescuedBeside
        exact if_neg fun several => absurd nothing several.1.ne'
      simp [none]

/-- Nothing is chosen when no string is used. -/
theorem chosen_of_voiceCount (nothing : selector.best.voiceCount = 0)
    (candidate : Fin selector.count) : selector.chosen candidate = false := by
  obtain ⟨strings, system, union⟩ := @exists_laneSystem selector
  refine Bool.eq_false_iff.mpr fun chosen => ?_
  have member := mem_chosenSet.mpr chosen
  obtain ⟨string, used⟩ := (system.takes candidate member).nonempty
  have inside : string ∈ lanes selector.bestUsedMask := by
    rw [← union]
    exact Finset.mem_biUnion.mpr ⟨candidate, member, used⟩
  have positive := Finset.card_pos.mpr ⟨string, inside⟩
  rw [← LaneMask.count_eq, ← (@best_spec selector).2.1, nothing] at positive
  exact lt_irrefl 0 positive

/-- A fallback is an option, and nothing else has been chosen. -/
theorem of_fallback {option : M3PoolCandidate selector.count}
    (found : selector.fallback = some option) :
    selector.best.voiceCount = 0 ∧ option ∈ selector.pool := by
  unfold fallback fallbackBeside at found
  split_ifs at found with nothing
  exact ⟨nothing, (of_pick_eq_some found).1⟩

/-- A rescued candidate has found a voice and a string that were free. -/
theorem of_rescued (found : selector.rescued = some candidate) :
    selector.best.voiceCount < selector.maxPolyphony ∧ selector.chosen candidate = false ∧
      selector.playableStringMask candidate &&& ~~~selector.bestUsedMask ≠ 0 := by
  unfold rescued rescuedBeside at found
  split_ifs at found with room
  have admitted := (of_pick_eq_some found).2
  simp only [Bool.and_eq_true, Bool.not_eq_true', decide_eq_true_eq] at admitted
  exact ⟨room.2, admitted.1.2, admitted.2⟩

/-- Without an addition, the selected candidates are those of the search. -/
theorem selected_of_none (nothing : selector.added = none) :
    selector.selected = selector.chosenSet := by
  ext candidate
  rw [mem_selected, nothing]
  exact or_iff_left fun same => nomatch same

/-- An addition joins them. -/
theorem selected_of_added (joins : selector.added = some candidate) :
    selector.selected = insert candidate selector.chosenSet := by
  ext other
  rw [mem_selected, joins, Finset.mem_insert, Option.some.injEq, or_comm, eq_comm]

/-- It has not been among them. -/
theorem notMem_of_added (joins : selector.added = some candidate) :
    candidate ∉ selector.chosenSet := by
  rw [mem_chosenSet, Bool.not_eq_true]
  rw [added_eq] at joins
  cases found : selector.fallback with
  | none =>
      rw [found] at joins
      exact (of_rescued joins).2.1
  | some option => exact chosen_of_voiceCount (of_fallback found).1 candidate

/-- What is added as one string has a string that is free, and a voice. -/
theorem added_string (joins : selector.added = some candidate)
    (alone : stringCount (selector.group candidate) < 2) :
    selector.best.voiceCount + 1 ≤ selector.maxPolyphony ∧
      ∃ string ∈ lanes (selector.playableStringMask candidate),
        string ∉ lanes selector.bestUsedMask := by
  rw [added_eq] at joins
  cases found : selector.fallback with
  | none =>
      rw [found] at joins
      obtain ⟨room, -, free⟩ := of_rescued joins
      exact ⟨room, Finset.not_subset.mp (mt and_not_eq_zero.mpr free)⟩
  | some option =>
      rw [found] at joins
      obtain rfl := Option.some.inj joins
      obtain ⟨nothing, member⟩ := of_fallback found
      obtain ⟨-, group | ⟨whole, playable⟩⟩ := pool_fits.2 option member
      · rw [FeasibleSelector.group, atomicStrings_of_several group] at alone
        exact absurd group (not_le.mpr alone)
      · refine ⟨nothing.trans_lt selector.positive, ?_⟩
        rw [whole] at playable
        obtain ⟨string, there⟩ := Finset.nonempty_iff_ne_empty.mpr (mt lanes_eq_empty.mp playable)
        refine ⟨string, there, fun used => ?_⟩
        have positive := Finset.card_pos.mpr ⟨string, used⟩
        rw [← LaneMask.count_eq, ← (@best_spec selector).2.1, nothing] at positive
        exact lt_irrefl 0 positive

end Added

section Exact

/-- What is chosen is best, and what is selected can sound together. -/
structure Exact : Prop where
  chosen : ∃ placement, selector.knapsack.Packing selector.priorityUnisonMask selector.maxPolyphony
    selector.pool.length selector.best.chosen placement ∧
      worth selector.best = worth selector.seed +
        ∑ index ∈ selector.best.chosen, selector.gain index (placement index)
  maximal : ∀ items placement, selector.knapsack.Packing selector.priorityUnisonMask
    selector.maxPolyphony selector.pool.length items placement →
      worth selector.seed + ∑ index ∈ items, selector.gain index (placement index) ≤
        worth selector.best
  feasible : ∃ strings, selector.LaneSystem selector.selected strings

/-- A group that is added beside the choice that leads fits there. -/
def AdditionsFit : Prop :=
  ∀ used items placement, selector.Leads used items placement →
    ∀ candidate, selector.addedBeside used items = some candidate →
      2 ≤ stringCount (selector.group candidate) →
        selector.GroupFits (selector.chosenSetBy items) (LaneMask.count used) candidate

variable {selector}

/-- The choice that leads is that of the best state. -/
theorem additionsFit_iff : selector.AdditionsFit ↔
    ∀ candidate, selector.added = some candidate → 2 ≤ stringCount (selector.group candidate) →
      selector.GroupFits selector.chosenSet (LaneMask.count selector.bestUsedMask) candidate := by
  obtain ⟨placement, leads, -⟩ := @best_leads selector
  refine ⟨fun fit => fit _ _ placement leads, fun fit used items other also => ?_⟩
  obtain ⟨rfl, rfl⟩ := leads.unique placed also
  exact fit

/-- What is selected can sound together when a group that is added fits beside what is chosen.
Otherwise nothing is added, and what is chosen has been placed by the search. -/
theorem feasible_of_fits (fits : ∀ candidate, selector.added = some candidate →
    2 ≤ stringCount (selector.group candidate) →
      selector.GroupFits selector.chosenSet (LaneMask.count selector.bestUsedMask) candidate) :
    ∃ strings, selector.LaneSystem selector.selected strings := by
  obtain ⟨strings, system, union⟩ := @exists_laneSystem selector
  cases joins : selector.added with
  | none =>
      rw [selected_of_none joins]
      exact ⟨strings, system⟩
  | some candidate =>
      rw [selected_of_added joins]
      have new := notMem_of_added joins
      by_cases several : 2 ≤ stringCount (selector.group candidate)
      · have fit := fits candidate joins several
        obtain ⟨moved, system, free⟩ := fit.exists_beside system
        refine ⟨_, system.insert new ((takes_of_several several).mpr rfl) free ?_⟩
        rw [sum_voices_chosenSet]
        exact fit.room
      · have alone := Nat.not_le.mp several
        obtain ⟨room, string, playable, free⟩ := added_string joins alone
        refine ⟨_, system.insert new ((takes_of_single alone).mpr ⟨string, playable, rfl⟩) ?_ ?_⟩
        · intro other member
          refine and_eq_zero.mpr ?_
          rw [lanes_alone, Finset.disjoint_singleton_left]
          intro used
          refine free ?_
          rw [← union]
          exact Finset.mem_biUnion.mpr ⟨other, member, used⟩
        · rw [sum_voices_chosenSet, stringCount_single]
          rw [← (@best_spec selector).2.1]
          exact room

/-- Whatever the scores and groups, the table chooses best. What is selected can sound together
exactly when a group that is added beside the choice that leads fits there. -/
theorem exact_iff : selector.Exact ↔ selector.AdditionsFit := by
  obtain ⟨⟨placement, packing, -, worth⟩, -, most⟩ := @best_spec selector
  rw [additionsFit_iff]
  constructor
  · rintro ⟨-, -, strings, system⟩ candidate joins several
    rw [selected_of_added joins] at system
    exact groupFits_of_laneSystem system (notMem_of_added joins) several sum_voices_chosenSet.symm
  · intro fits
    exact ⟨⟨placement, packing, worth⟩, most, feasible_of_fits fits⟩

end Exact

section TwoGroups

/-- An active candidate that holds the strings of a group, with live evidence for it. -/
def heldGroup (strings : StringMask) (score : ℚ) (rescue : Bool) : SelectorCandidate where
  active := true
  assignedStringMask := strings
  fineValid := true
  multiSourceObserved := true
  fineMemberMask := strings
  beatSupported := true
  score := score
  fundamental := score
  selectionScore := score
  spectralEligible := true
  calibratedBandRescue := rescue
  directFundamentalPeak := true

/-- Two groups of two strings decay below the threshold, and there are three voices. -/
def twoGroups : FeasibleSelector where
  lowestNote := 56
  maxFret := 24
  maxPolyphony := 3
  positive := Nat.succ_pos 2
  fastEnergy := 1
  threshold := 1
  count := 3
  candidate := ![heldGroup 0x30 (5 / 6) false, {}, heldGroup 0x44 (4 / 5) true]

/-- The second group is rescued for one string, and both do not fit into three voices. -/
theorem twoGroups_infeasible : ¬∃ strings, twoGroups.LaneSystem twoGroups.selected strings := by
  rintro ⟨strings, system⟩
  let priority : Fin twoGroups.count := (0 : Fin 3)
  let rescued : Fin twoGroups.count := (2 : Fin 3)
  have members : {priority, rescued} ⊆ twoGroups.selected := by decide +kernel
  have here : priority ∈ twoGroups.selected := members (Finset.mem_insert_self _ _)
  have there : rescued ∈ twoGroups.selected :=
    members (Finset.mem_insert_of_mem (Finset.mem_singleton_self _))
  have first : stringCount (strings priority) = 2 := by
    rw [(takes_of_several (by decide +kernel)).mp (system.takes priority here)]
    decide +kernel
  have second : stringCount (strings rescued) = 2 := by
    rw [(takes_of_several (by decide +kernel)).mp (system.takes rescued there)]
    decide +kernel
  have different : priority ≠ rescued := Fin.ne_of_val_ne (Nat.zero_ne_add_one 1)
  have total := (Finset.sum_le_sum_of_subset members).trans system.bounded
  rw [Finset.sum_pair different, first, second] at total
  exact absurd total (by decide)

end TwoGroups

end FeasibleSelector

end M3Midi
