import M3Midi.Detector.FeasibleCandidates
import M3Midi.Foundation.LeadingPacking
import Mathlib.Algebra.Order.Monoid.Prod
import Mathlib.Data.Prod.Lex

/-! # What the selection chooses

The options that the table chooses can sound together beside the group with priority, and
no other such options are worth more (`M3Midi.FeasibleSelector.best_spec`). Of the choices that
are worth as much the table takes the one that leads, whatever is in the pool
(`M3Midi.FeasibleSelector.best_leads`).
-/

namespace M3Midi

open Foundation LaneMask ProposalTable

namespace FeasibleSelector

variable (selector : FeasibleSelector)

section Groups

variable {selector} {candidate : Fin selector.count}

/-- A group has two to four strings, and no more than there are voices. -/
theorem selectorGroupMask_bounded :
    selector.selectorGroupMask candidate = 0 ∨
      2 ≤ stringCount (selector.selectorGroupMask candidate) ∧
        stringCount (selector.selectorGroupMask candidate) ≤ selector.maxPolyphony := by
  unfold selectorGroupMask
  split_ifs with completes retains
  · simp only [FeasibleSelector.completes, Bool.and_eq_true, decide_eq_true_eq] at completes
    exact .inr ⟨completes.1.1.2, completes.2⟩
  · simp only [FeasibleSelector.retains, Bool.and_eq_true, decide_eq_true_eq] at retains
    obtain ⟨⟨⟨⟨⟨⟨⟨⟨⟨-, several⟩, -⟩, few⟩, -⟩, -⟩, -⟩, -⟩, -⟩, -⟩ := retains
    exact .inr ⟨several, few⟩
  · exact .inl rfl

/-- A retained group has several strings. -/
theorem selectorGroupMask_of_retains (retains : selector.retains candidate = true) :
    2 ≤ stringCount (selector.selectorGroupMask candidate) := by
  unfold selectorGroupMask
  split_ifs with completes
  · simp only [FeasibleSelector.completes, Bool.and_eq_true, decide_eq_true_eq] at completes
    exact completes.1.1.2
  · simp only [FeasibleSelector.retains, Bool.and_eq_true, decide_eq_true_eq] at retains
    obtain ⟨⟨⟨⟨⟨⟨⟨⟨⟨-, several⟩, -⟩, -⟩, -⟩, -⟩, -⟩, -⟩, -⟩, -⟩ := retains
    exact several

/-- A priority unison has at least two strings, or it would not be preferred. -/
theorem several_of_priority (priority : selector.priorityUnison = some candidate) :
    2 ≤ stringCount (selector.selectorGroupMask candidate) :=
  selectorGroupMask_of_retains (of_pick_eq_some priority).2

/-- The strings of the priority unison are those of its group. -/
theorem priorityUnisonMask_of_some (priority : selector.priorityUnison = some candidate) :
    selector.priorityUnisonMask = selector.selectorGroupMask candidate := by
  rw [priorityUnisonMask, priority]

/-- Without a priority unison no string is taken beforehand. -/
theorem priorityUnisonMask_of_none (none : selector.priorityUnison = none) :
    selector.priorityUnisonMask = 0 := by
  rw [priorityUnisonMask, none]

/-- The priority unison has no more strings than there may be voices. -/
theorem count_priorityUnisonMask :
    LaneMask.count selector.priorityUnisonMask ≤ selector.maxPolyphony := by
  cases priority : selector.priorityUnison with
  | none =>
      rw [priorityUnisonMask_of_none priority]
      exact Nat.zero_le _
  | some candidate =>
      rw [priorityUnisonMask_of_some priority]
      rcases @selectorGroupMask_bounded selector candidate with none | ⟨-, few⟩
      · rw [none]
        exact Nat.zero_le _
      · exact few

/-- A group of several strings is what its candidate takes. -/
theorem atomicStrings_of_several (several : 2 ≤ stringCount (selector.selectorGroupMask candidate))
    (stringMask : StringMask) :
    selector.atomicStrings candidate stringMask = selector.selectorGroupMask candidate := by
  unfold atomicStrings
  exact if_neg fun taken => absurd taken.1 (not_lt.mpr several)

end Groups

section Pool

/-- An option's strings are those of its group, or all on which its candidate can be played. -/
def OptionFits (option : M3PoolCandidate selector.count) : Prop :=
  selector.priorityUnison ≠ some option.detectorIndex ∧
    (2 ≤ stringCount (selector.selectorGroupMask option.detectorIndex) ∨
      option.stringMask = selector.playableStringMask option.detectorIndex ∧
        option.stringMask ≠ 0)

/-- Every candidate is at most once in the pool. -/
def PoolFits (pool : List (M3PoolCandidate selector.count)) : Prop :=
  (pool.map (·.detectorIndex)).Nodup ∧ ∀ option ∈ pool, selector.OptionFits option

variable {selector} {pool : List (M3PoolCandidate selector.count)}

/-- A candidate is in the pool if one of the pool's entries has its index. -/
theorem inPool_eq_true {candidate : Fin selector.count} :
    selector.inPool pool candidate = true ↔ candidate ∈ pool.map (·.detectorIndex) := by
  unfold inPool
  rw [List.any_eq_true, List.mem_map]
  simp only [decide_eq_true_eq]

/-- A pool fits with one entry more, if its candidate is new and its strings are its own. -/
theorem PoolFits.concat (fits : selector.PoolFits pool) {option : M3PoolCandidate selector.count}
    (new : option.detectorIndex ∉ pool.map (·.detectorIndex)) (joins : selector.OptionFits option) :
    selector.PoolFits (pool ++ [option]) := by
  refine ⟨?_, fun other member => ?_⟩
  · rw [List.map_append, List.map_singleton]
    exact List.nodup_append.mpr ⟨fits.1, List.nodup_singleton _, fun first before second last same =>
      new (List.mem_singleton.mp last ▸ same ▸ before)⟩
  · rcases List.mem_append.mp member with before | last
    · exact fits.2 other before
    · rw [List.mem_singleton.mp last]
      exact joins

/-- A group goes into the pool once. -/
theorem pushGroup_fits (fits : selector.PoolFits pool) {candidate : Fin selector.count}
    (new : candidate ∉ pool.map (·.detectorIndex)) :
    selector.PoolFits (selector.pushGroup pool candidate) ∧
      ∀ other ∈ (selector.pushGroup pool candidate).map (·.detectorIndex),
        other = candidate ∨ other ∈ pool.map (·.detectorIndex) := by
  unfold pushGroup
  dsimp only
  by_cases skipped : selector.priorityUnison = some candidate ∨
      stringCount (selector.selectorGroupMask candidate) < 2 ∨
        4 < stringCount (selector.selectorGroupMask candidate) ∨
          selector.maxPolyphony < stringCount (selector.selectorGroupMask candidate) ∨
            poolCapacity ≤ pool.length
  · rw [if_pos skipped]
    exact ⟨fits, fun other member => .inr member⟩
  · rw [if_neg skipped]
    rw [not_or, not_or] at skipped
    obtain ⟨other, several, -⟩ := skipped
    refine ⟨fits.concat new ⟨other, .inl (not_lt.mp several)⟩, fun later member => ?_⟩
    rw [List.map_append, List.map_singleton, List.mem_append, List.mem_singleton] at member
    exact member.symm

/-- The entries for the groups fit. -/
theorem groupPool_fits : selector.PoolFits selector.groupPool := by
  unfold groupPool
  have grows (candidates : List (Fin selector.count))
      (pool : List (M3PoolCandidate selector.count)) (fits : selector.PoolFits pool)
      (distinct : candidates.Nodup)
      (apart : ∀ candidate ∈ candidates, candidate ∉ pool.map (·.detectorIndex)) :
      selector.PoolFits (candidates.foldl selector.pushGroup pool) := by
    induction candidates generalizing pool with
    | nil => exact fits
    | cons candidate candidates ih =>
        obtain ⟨new, distinct⟩ := List.nodup_cons.mp distinct
        obtain ⟨grown, joined⟩ := pushGroup_fits fits (apart candidate List.mem_cons_self)
        refine ih _ grown distinct fun later member inside => ?_
        rcases joined later inside with rfl | before
        · exact new member
        · exact apart later (List.mem_cons_of_mem candidate member) before
  exact grows _ [] ⟨List.nodup_nil, fun _ member => absurd member List.not_mem_nil⟩
    (List.nodup_finRange _) fun _ _ => List.not_mem_nil

/-- A candidate that is admitted on a string can be played on it. -/
theorem admitsOn_fits {string : Fin maxVoices} {taken : Finset (Fin selector.count)}
    {candidate : Fin selector.count} (admitted : selector.admitsOn string taken candidate = true) :
    selector.priorityUnison ≠ some candidate ∧ selector.playableStringMask candidate ≠ 0 := by
  simp only [admitsOn, Bool.and_eq_true, decide_eq_true_eq] at admitted
  obtain ⟨⟨⟨⟨other, -⟩, -⟩, -⟩, playable⟩ := admitted
  refine ⟨other, fun nothing => ?_⟩
  rw [nothing] at playable
  simp at playable

/-- The best candidates of a string fit behind what the pool has already. -/
theorem stringPool_fits (string : Fin maxVoices) (ranks : ℕ) (taken : Finset (Fin selector.count))
    (fits : selector.PoolFits pool) :
    selector.PoolFits (selector.stringPool string ranks taken pool) := by
  induction ranks generalizing taken pool with
  | zero => exact fits
  | succ ranks ih =>
      unfold stringPool
      cases found : selector.bestOn string taken with
      | none => exact fits
      | some best =>
          dsimp only
          split_ifs with inside full
          · exact ih _ fits
          · exact fits
          · obtain ⟨other, playable⟩ := admitsOn_fits (of_pick_eq_some found).2
            refine ih _ (fits.concat ?_ ⟨other, .inr ⟨rfl, playable⟩⟩)
            exact fun member => inside (inPool_eq_true.mpr member)

/-- The whole pool fits: every candidate occurs in it once, with strings it can be placed on. -/
theorem pool_fits : selector.PoolFits selector.pool := by
  unfold FeasibleSelector.pool
  have grows (strings : List (Fin maxVoices)) (pool : List (M3PoolCandidate selector.count))
      (fits : selector.PoolFits pool) :
      selector.PoolFits (strings.foldl (fun pool string =>
        selector.stringPool string selector.maxPolyphony ∅ pool) pool) := by
    induction strings generalizing pool with
    | nil => exact fits
    | cons string strings ih => exact ih _ (stringPool_fits string _ ∅ fits)
  exact grows _ _ groupPool_fits

end Pool

section Worth

/-- States are compared by score, then by active voices, then by the voices they take. -/
abbrev SelectionWorth := ℚ ×ₗ ℕ ×ₗ ℕ

/-- The worth of a state: its number of voices and its score. -/
def worth (state : M3DpState) : SelectionWorth :=
  toLex (state.scoreSum, toLex (state.retainedActive, state.voiceCount))

/-- What an option adds at a placement. -/
def gain (index : ℕ) (placement : M3Placement) : SelectionWorth :=
  toLex (placement.score, toLex
    (selector.pool[index]?.elim 0 fun option => if option.active then 1 else 0,
      stringCount placement.strings))

/-- The knapsack over the strings is lawful: better states stay better when both take one more
entry, and the offers do not depend on more than the strings in use. -/
theorem lawful : selector.knapsack.Lawful selector.maxPolyphony worth M3DpState.chosen
    M3DpState.voiceCount selector.gain where
  better_iff state kept := by
    unfold knapsack worth
    simp only [Bool.or_eq_true, Bool.and_eq_true, decide_eq_true_eq, Prod.Lex.toLex_lt_toLex]
    rw [@eq_comm ℚ, @eq_comm ℕ]
  admits_iff state placement := decide_eq_true_iff
  value_extend index placement state := rfl
  chosen_extend index placement state := rfl
  load_extend index placement state := rfl

variable {selector}

/-- The search starts with nobody chosen. -/
theorem seed_chosen : selector.seed.chosen = ∅ := by
  unfold seed
  split <;> rfl

/-- The search starts with as many voices as the priority unison has strings. -/
theorem seed_voiceCount :
    selector.seed.voiceCount = LaneMask.count selector.priorityUnisonMask := by
  unfold seed
  cases priority : selector.priorityUnison with
  | none =>
      rw [priorityUnisonMask, priority]
      rfl
  | some candidate => rfl

/-- A choice of options that leads: it is worth most, and stands first among those that are worth
as much. -/
def Leads (selector : FeasibleSelector) (used : StringMask) (items : Finset ℕ)
    (placement : ℕ → M3Placement) : Prop :=
  selector.knapsack.Leading selector.priorityUnisonMask selector.maxPolyphony
    selector.pool.length selector.gain used items placement

/-- Every placement has strings, and the placements of an option differ in them. -/
theorem placed : selector.knapsack.Placed where
  something index placement member := by
    change placement ∈ selector.pool[index]?.elim [] selector.placements at member
    change placement.strings ≠ 0
    cases found : selector.pool[index]? with
    | none =>
        rw [found] at member
        exact absurd member List.not_mem_nil
    | some option =>
        rw [found, Option.elim_some, placements] at member
        split_ifs at member with several
        · rw [List.mem_singleton.mp member]
          rintro (nothing : selector.atomicGroup option = 0)
          rw [nothing] at several
          exact absurd several (by decide)
        · obtain ⟨string, -, rfl⟩ := List.mem_map.mp member
          intro nothing
          have alone : lanes (single string : StringMask) = {string} := lanes_single string
          rw [show (single string : StringMask) = 0 from nothing] at alone
          exact Finset.singleton_ne_empty string (alone.symm.trans (lanes_eq_empty.mpr rfl))
  apart index first here second there same := by
    change first ∈ selector.pool[index]?.elim [] selector.placements at here
    change second ∈ selector.pool[index]?.elim [] selector.placements at there
    cases found : selector.pool[index]? with
    | none =>
        rw [found] at here
        exact absurd here List.not_mem_nil
    | some option =>
        rw [found, Option.elim_some, placements] at here there
        split_ifs at here there with several
        · rw [List.mem_singleton.mp here, List.mem_singleton.mp there]
        · obtain ⟨string, -, rfl⟩ := List.mem_map.mp here
          obtain ⟨other, -, rfl⟩ := List.mem_map.mp there
          have equal := congrArg lanes (show (single string : StringMask) = single other from same)
          rw [show lanes (single string : StringMask) = {string} from lanes_single string,
            show lanes (single other : StringMask) = {other} from lanes_single other] at equal
          rw [Finset.singleton_injective equal]

/-- **The best state leads.** It stands for the choice of options that leads, on the strings it
uses. -/
theorem best_leads : ∃ placement,
    selector.Leads selector.bestUsedMask selector.best.chosen placement ∧
      worth selector.best = worth selector.seed +
        ∑ index ∈ selector.best.chosen, selector.gain index (placement index) ∧
      selector.best.voiceCount = LaneMask.count selector.bestUsedMask := by
  obtain ⟨best, placement, named, leads, worth, load⟩ := selector.lawful.best_leading placed
    seed_chosen seed_voiceCount count_priorityUnisonMask
  have same : selector.best = best := by
    rw [FeasibleSelector.best, dpStates, named, Option.getD_some]
  rw [same]
  exact ⟨placement, leads, worth, load⟩

/-- The best state stands for options that sound together, and none are worth more. -/
theorem best_spec :
    (∃ placement, selector.knapsack.Packing selector.priorityUnisonMask selector.maxPolyphony
      selector.pool.length selector.best.chosen placement ∧
      selector.knapsack.usedLanes selector.priorityUnisonMask selector.best.chosen placement =
        lanes selector.bestUsedMask ∧
      worth selector.best = worth selector.seed +
        ∑ index ∈ selector.best.chosen, selector.gain index (placement index)) ∧
    selector.best.voiceCount = LaneMask.count selector.bestUsedMask ∧
    ∀ items placement, selector.knapsack.Packing selector.priorityUnisonMask
      selector.maxPolyphony selector.pool.length items placement →
      worth selector.seed + ∑ index ∈ items, selector.gain index (placement index) ≤
        worth selector.best := by
  obtain ⟨placement, leads, worth, load⟩ := @best_leads selector
  refine ⟨⟨placement, leads.packing, leads.uses, worth⟩, load, fun items other packing => ?_⟩
  rw [worth]
  exact add_le_add_right (leads.most items other packing) _

end Worth

section Lanes

/-- The strings that a candidate takes as one, of all those on which it can be played. -/
def group (candidate : Fin selector.count) : StringMask :=
  selector.atomicStrings candidate (selector.playableStringMask candidate)

/-- The strings a candidate may take: a group all of its own, any other one of those on which
it can be played. -/
def Takes (candidate : Fin selector.count) (strings : StringMask) : Prop :=
  if 2 ≤ stringCount (selector.group candidate) then strings = selector.group candidate
  else ∃ string : Fin maxVoices,
    (selector.playableStringMask candidate).getLsbD string = true ∧ strings = single string

/-- Candidates that can sound together, each on strings of its own. Groups take their strings as a
whole, and the strings in use are within the polyphony. -/
structure LaneSystem (selected : Finset (Fin selector.count))
    (strings : Fin selector.count → StringMask) : Prop where
  takes : ∀ candidate ∈ selected, selector.Takes candidate (strings candidate)
  apart : ∀ first ∈ selected, ∀ second ∈ selected, first ≠ second →
    strings first &&& strings second = 0
  bounded : ∑ candidate ∈ selected, stringCount (strings candidate) ≤ selector.maxPolyphony

/-- The candidates that a choice of options selects. -/
def chosenSetBy (items : Finset ℕ) : Finset (Fin selector.count) :=
  Finset.univ.filter fun candidate => selector.chosenBy items candidate = true

/-- What the best state selects, with the group that has priority. -/
def chosenSet : Finset (Fin selector.count) := selector.chosenSetBy selector.best.chosen

/-- Where a candidate is in the pool. -/
def poolIndex (candidate : Fin selector.count) : ℕ :=
  (selector.pool.map (·.detectorIndex)).idxOf candidate

variable {selector} {candidate : Fin selector.count}

/-- A group of several strings takes exactly these. -/
theorem takes_of_several {strings : StringMask}
    (several : 2 ≤ stringCount (selector.group candidate)) :
    selector.Takes candidate strings ↔ strings = selector.group candidate :=
  iff_of_eq (if_pos several)

/-- A candidate on its own takes one of the strings it can be played on. -/
theorem takes_of_single {strings : StringMask}
    (alone : stringCount (selector.group candidate) < 2) :
    selector.Takes candidate strings ↔ ∃ string ∈ lanes (selector.playableStringMask candidate),
      strings = single string := by
  refine (iff_of_eq (if_neg (Nat.not_le.mpr alone))).trans (exists_congr fun string => ?_)
  exact and_congr_left' mem_lanes_iff_getLsbD.symm

/-- Whatever a candidate takes, it is at least one string. -/
theorem Takes.nonempty {strings : StringMask} (takes : selector.Takes candidate strings) :
    (lanes strings).Nonempty := by
  unfold Takes at takes
  split_ifs at takes with several
  · rw [takes, ← Finset.card_pos, ← stringCount_eq]
    omega
  · obtain ⟨string, -, rfl⟩ := takes
    have alone : lanes (single string : StringMask) = {string} := lanes_single string
    rw [alone]
    exact Finset.singleton_nonempty string

/-- The placements of an option are such strings. -/
theorem takes_of_placements {option : M3PoolCandidate selector.count}
    (fits : selector.OptionFits option) {placement : M3Placement}
    (placed : placement ∈ selector.placements option) :
    selector.Takes option.detectorIndex placement.strings := by
  have same : selector.atomicGroup option = selector.group option.detectorIndex := by
    unfold atomicGroup group
    rcases fits.2 with several | ⟨whole, -⟩
    · rw [atomicStrings_of_several several, atomicStrings_of_several several]
    · rw [whole]
  unfold placements at placed
  unfold Takes
  rw [← same]
  split_ifs at placed ⊢ with several
  · rw [List.mem_singleton.mp placed]
  · obtain ⟨string, member, rfl⟩ := List.mem_map.mp placed
    have playable := (List.mem_filter.mp member).2
    rcases fits.2 with group | ⟨whole, -⟩
    · rw [atomicGroup, atomicStrings_of_several group] at several
      exact absurd group several
    · exact ⟨string, whole ▸ playable, rfl⟩

/-- An index of the pool is that of its candidate. -/
theorem poolIndex_of_getElem? {index : ℕ} {option : M3PoolCandidate selector.count}
    (found : selector.pool[index]? = some option) :
    selector.poolIndex option.detectorIndex = index := by
  have here : (selector.pool.map (·.detectorIndex))[index]? = some option.detectorIndex := by
    rw [List.getElem?_map, found]
    rfl
  obtain ⟨inside, named⟩ := List.getElem?_eq_some_iff.mp here
  rw [poolIndex, ← named]
  exact List.Nodup.idxOf_getElem pool_fits.1 _ _

/-- What is chosen has priority, or is in the best state. -/
theorem chosen_eq_true : selector.chosen candidate = true ↔
    selector.priorityUnison = some candidate ∨
      ∃ option, selector.pool[selector.poolIndex candidate]? = some option ∧
        option.detectorIndex = candidate ∧
          selector.poolIndex candidate ∈ selector.best.chosen := by
  unfold chosen chosenBy
  rw [Bool.or_eq_true, decide_eq_true_eq, List.any_eq_true]
  refine or_congr_right ⟨?_, ?_⟩
  · rintro ⟨index, -, found⟩
    rw [Bool.and_eq_true, decide_eq_true_eq, Option.any_eq_true] at found
    obtain ⟨member, option, named, same⟩ := found
    obtain rfl := of_decide_eq_true same
    have here := poolIndex_of_getElem? named
    rw [here]
    exact ⟨option, named, rfl, member⟩
  · rintro ⟨option, named, same, member⟩
    refine ⟨selector.poolIndex candidate, ?_, ?_⟩
    · exact List.mem_range.mpr (List.getElem?_eq_some_iff.mp named).1
    · rw [Bool.and_eq_true, decide_eq_true_eq, Option.any_eq_true]
      exact ⟨member, option, named, decide_eq_true same⟩

/-- An option of the best state is chosen. -/
theorem chosen_of_option {index : ℕ} {option : M3PoolCandidate selector.count}
    (found : selector.pool[index]? = some option) (member : index ∈ selector.best.chosen) :
    selector.chosen option.detectorIndex = true := by
  rw [chosen_eq_true, poolIndex_of_getElem? found]
  exact .inr ⟨option, found, rfl, member⟩

end Lanes

section Base

/-- The strings that what is chosen takes: the group with priority its own, any other one those
of its placement. -/
def baseStrings (placement : ℕ → M3Placement) (candidate : Fin selector.count) : StringMask :=
  if selector.priorityUnison = some candidate then selector.selectorGroupMask candidate
  else (placement (selector.poolIndex candidate)).strings

variable {selector} {placement : ℕ → M3Placement}
  (packing : selector.knapsack.Packing selector.priorityUnisonMask selector.maxPolyphony
    selector.pool.length selector.best.chosen placement)
  (uses : selector.knapsack.usedLanes selector.priorityUnisonMask selector.best.chosen placement =
    lanes selector.bestUsedMask)

/-- The priority unison is placed on the strings that were taken for it. -/
theorem baseStrings_of_priority {candidate : Fin selector.count}
    (priority : selector.priorityUnison = some candidate) :
    selector.baseStrings placement candidate = selector.priorityUnisonMask := by
  rw [baseStrings, if_pos priority, priorityUnisonMask_of_some priority]

/-- Every other candidate is placed where the search has placed its pool entry. -/
theorem baseStrings_of_other {candidate : Fin selector.count}
    (other : selector.priorityUnison ≠ some candidate) :
    selector.baseStrings placement candidate =
      (placement (selector.poolIndex candidate)).strings := if_neg other

/-- What is chosen without priority is an option of the best state. -/
theorem index_of_chosen {candidate : Fin selector.count}
    (chosen : selector.chosen candidate = true)
    (other : selector.priorityUnison ≠ some candidate) :
    ∃ option, selector.pool[selector.poolIndex candidate]? = some option ∧
      option.detectorIndex = candidate ∧ selector.poolIndex candidate ∈ selector.best.chosen :=
  (chosen_eq_true.mp chosen).resolve_left other

include packing in
/-- A chosen candidate is placed on strings that it can take. -/
theorem baseStrings_takes {candidate : Fin selector.count}
    (chosen : selector.chosen candidate = true) :
    selector.Takes candidate (selector.baseStrings placement candidate) := by
  by_cases priority : selector.priorityUnison = some candidate
  · have several := several_of_priority priority
    have atomic : selector.group candidate = selector.selectorGroupMask candidate :=
      atomicStrings_of_several several (selector.playableStringMask candidate)
    rw [takes_of_several (atomic ▸ several), atomic, baseStrings, if_pos priority]
  · obtain ⟨option, found, rfl, member⟩ := index_of_chosen chosen priority
    rw [baseStrings_of_other priority]
    refine takes_of_placements (pool_fits.2 option (List.mem_of_getElem? found)) ?_
    have placed : placement (selector.poolIndex option.detectorIndex) ∈
        selector.pool[selector.poolIndex option.detectorIndex]?.elim [] selector.placements :=
      packing.placed _ member
    rw [found] at placed
    exact placed

include packing in
/-- Two chosen candidates share no string. -/
theorem baseStrings_apart {first second : Fin selector.count}
    (here : selector.chosen first = true) (there : selector.chosen second = true)
    (different : first ≠ second) :
    Disjoint (lanes (selector.baseStrings placement first))
      (lanes (selector.baseStrings placement second)) := by
  by_cases priority : selector.priorityUnison = some first
  · have other : selector.priorityUnison ≠ some second := by
      rw [priority]
      exact fun same => different (Option.some.inj same)
    obtain ⟨-, -, -, member⟩ := index_of_chosen there other
    rw [baseStrings_of_priority priority, baseStrings_of_other other]
    exact (packing.free _ member).symm
  · obtain ⟨option, found, named, member⟩ := index_of_chosen here priority
    rw [baseStrings_of_other priority]
    by_cases second_priority : selector.priorityUnison = some second
    · rw [baseStrings_of_priority second_priority]
      exact packing.free _ member
    · obtain ⟨later, found', named', member'⟩ := index_of_chosen there second_priority
      rw [baseStrings_of_other second_priority]
      refine packing.apart _ member _ member' fun same => different ?_
      rw [same, found'] at found
      rw [← named, ← named', Option.some.inj found]

include packing uses in
/-- What is chosen uses the strings of the best state. The search has placed every option that it
has chosen, on strings that it has put into its mask. -/
theorem biUnion_baseStrings :
    selector.chosenSet.biUnion (fun candidate =>
      lanes (selector.baseStrings placement candidate)) = lanes selector.bestUsedMask := by
  rw [← uses]
  ext lane
  rw [Finset.mem_biUnion]
  refine Iff.trans ?_ selector.knapsack.mem_usedLanes.symm
  constructor
  · rintro ⟨candidate, chosen, used⟩
    have chosen := (Finset.mem_filter.mp chosen).2
    by_cases priority : selector.priorityUnison = some candidate
    · rw [baseStrings_of_priority priority] at used
      exact .inl used
    · obtain ⟨-, -, -, member⟩ := index_of_chosen chosen priority
      rw [baseStrings_of_other priority] at used
      exact .inr ⟨_, member, used⟩
  · rintro (seeded | ⟨index, member, used⟩)
    · cases priority : selector.priorityUnison with
      | none =>
          have nothing : lanes selector.priorityUnisonMask = ∅ :=
            lanes_eq_empty.mpr (priorityUnisonMask_of_none priority)
          exact absurd (nothing ▸ seeded) (Finset.notMem_empty lane)
      | some candidate =>
          refine ⟨candidate, ?_, ?_⟩
          · exact Finset.mem_filter.mpr ⟨Finset.mem_univ _, chosen_eq_true.mpr (.inl priority)⟩
          · rw [baseStrings_of_priority priority]
            exact seeded
    · obtain ⟨option, found⟩ : ∃ option, selector.pool[index]? = some option :=
        ⟨_, List.getElem?_eq_getElem (packing.within index member)⟩
      have other := (pool_fits.2 _ (List.mem_of_getElem? found)).1
      refine ⟨_, Finset.mem_filter.mpr ⟨Finset.mem_univ _, chosen_of_option found member⟩, ?_⟩
      rw [baseStrings_of_other other, poolIndex_of_getElem? found]
      exact used

/-- Strings that are apart add up to those of their union. -/
theorem sum_stringCount {candidates : Finset (Fin selector.count)}
    {strings : Fin selector.count → StringMask}
    (apart : ∀ first ∈ candidates, ∀ second ∈ candidates, first ≠ second →
      strings first &&& strings second = 0) :
    ∑ candidate ∈ candidates, stringCount (strings candidate) =
      (candidates.biUnion fun candidate => lanes (strings candidate)).card := by
  rw [Finset.card_biUnion]
  · exact Finset.sum_congr rfl fun candidate _ => stringCount_eq _
  · exact fun first here second there different =>
      and_eq_zero.mp (apart first here second there different)

/-- The set of the chosen is read off their flags. -/
theorem mem_chosenSet {candidate : Fin selector.count} :
    candidate ∈ selector.chosenSet ↔ selector.chosen candidate = true := by
  rw [chosenSet, chosenSetBy, Finset.mem_filter]
  exact and_iff_right (Finset.mem_univ candidate)

/-- What is chosen can sound together, on the strings that the best state uses. -/
theorem exists_laneSystem : ∃ strings, selector.LaneSystem selector.chosenSet strings ∧
    (selector.chosenSet.biUnion fun candidate => lanes (strings candidate)) =
      lanes selector.bestUsedMask := by
  obtain ⟨⟨placement, packing, uses, -⟩, -, -⟩ := @best_spec selector
  have union := biUnion_baseStrings packing uses
  have apart : ∀ first ∈ selector.chosenSet, ∀ second ∈ selector.chosenSet, first ≠ second →
      selector.baseStrings placement first &&& selector.baseStrings placement second = 0 :=
    fun first here second there different => and_eq_zero.mpr
      (baseStrings_apart packing (mem_chosenSet.mp here) (mem_chosenSet.mp there) different)
  refine ⟨selector.baseStrings placement, ⟨?_, apart, ?_⟩, union⟩
  · exact fun candidate member => baseStrings_takes packing (mem_chosenSet.mp member)
  · rw [sum_stringCount apart, union, ← uses]
    exact packing.card_le

end Base

end FeasibleSelector

end M3Midi
