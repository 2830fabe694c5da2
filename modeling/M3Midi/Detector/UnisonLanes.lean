import M3Midi.Detector.UnisonInference
import Mathlib.Algebra.Order.BigOperators.Group.Finset

/-! # Who owns the strings of a unison

The strings that selected candidates own after a tick are apart from one another and from
those of candidates that still sound, and no string is added beyond the voices, as long as
no candidate starts again on a string that it did not own
(`M3Midi.UnisonInference.inferM3UnisonStrings_owned`).
-/

namespace M3Midi

open Foundation LaneMask MaskSweep

namespace UnisonInference

variable (inference : UnisonInference)

section Ownership

/-- What a candidate owned after the tick before. -/
def held (candidate : Fin inference.count) : StringMask :=
  if inference.coasting candidate then inference.ownedStrings candidate
  else if candidate ∈ inference.selected then (inference.candidate candidate).assignedStringMask
  else 0

/-- The selected candidates have strings of their own that nobody else keeps, and what was owned
after the tick before was apart. -/
structure Owners : Prop where
  assigned : ∀ candidate ∈ inference.selected,
    (inference.candidate candidate).assignedString.isSome = true
  distinct : ∀ first ∈ inference.selected, ∀ second ∈ inference.selected,
    (inference.candidate first).assignedString = (inference.candidate second).assignedString →
      first = second
  unowned : ∀ candidate ∈ inference.selected,
    inference.primary candidate &&& inference.coastingStrings = 0
  apart : ∀ first second, first ≠ second → inference.held first &&& inference.held second = 0
  few : ∀ candidate ∈ inference.selected,
    stringCount (inference.candidate candidate).assignedStringMask ≤ 4

/-- No selected candidate that owned strings has got another string. -/
def Settled : Prop :=
  ∀ candidate ∈ inference.selected, (inference.candidate candidate).assignedStringMask ≠ 0 →
    (inference.candidate candidate).assignedStringMask &&& inference.primary candidate ≠ 0

/-- The strings that are owned by what still sounds and what is selected. -/
def ownedLanes (after : Fin inference.count → UnisonCandidate) : Finset (Fin 8) :=
  lanes inference.coastingStrings ∪
    inference.selected.biUnion fun candidate => lanes (after candidate).assignedStringMask

/-- What a candidate owns that it did not own before the proposals of the tick. -/
def added (after : Fin inference.count → UnisonCandidate) (candidate : Fin inference.count) :
    Finset (Fin 8) :=
  lanes (after candidate).assignedStringMask \ lanes (inference.committedFor candidate)

/-- What is owned after the tick is apart, contains what is assigned, and stays within the
voices. -/
structure Owned (after : Fin inference.count → UnisonCandidate) : Prop where
  contains : ∀ candidate ∈ inference.selected,
    lanes (inference.primary candidate) ⊆ lanes (after candidate).assignedStringMask
  few : ∀ candidate ∈ inference.selected, stringCount (after candidate).assignedStringMask ≤ 4
  apart : ∀ first ∈ inference.selected, ∀ second ∈ inference.selected, first ≠ second →
    (after first).assignedStringMask &&& (after second).assignedStringMask = 0
  beside : ∀ candidate ∈ inference.selected,
    (after candidate).assignedStringMask &&& inference.coastingStrings = 0
  coasting : ∀ first second, inference.coasting first = true → inference.coasting second = true →
    first ≠ second → inference.ownedStrings first &&& inference.ownedStrings second = 0
  bounded : (∃ candidate ∈ inference.selected, (inference.added after candidate).Nonempty) →
    (inference.ownedLanes after).card ≤ inference.maxPolyphony

end Ownership

section Proposal

variable {inference} {budget : LaneBudget} {candidate : Fin inference.count} {string : Fin maxVoices}

/-- The primary string of a candidate that has one, as a set. -/
theorem lanes_primary (assigned : (inference.candidate candidate).assignedString = some string) :
    lanes (inference.primary candidate) = {string} := by
  rw [primary, assigned]
  exact lanes_single string

/-- It is one string. -/
theorem stringCount_primary
    (assigned : (inference.candidate candidate).assignedString = some string) :
    stringCount (inference.primary candidate) = 1 := by
  rw [stringCount_eq]
  exact (congrArg Finset.card (lanes_primary assigned)).trans (Finset.card_singleton string)

/-- A mask that meets the string contains it. -/
theorem primary_subset (assigned : (inference.candidate candidate).assignedString = some string)
    {group : StringMask} (meets : group &&& inference.primary candidate ≠ 0) :
    lanes (inference.primary candidate) ⊆ lanes group := by
  have together : ¬Disjoint (lanes group) (lanes (inference.primary candidate)) :=
    mt and_eq_zero.mpr meets
  rw [lanes_primary assigned] at together ⊢
  refine Finset.singleton_subset_iff.mpr ?_
  by_contra outside
  exact together (Finset.disjoint_singleton_right.mpr outside)

/-- What a candidate commits to contains its primary string. -/
theorem primary_subset_committedFor
    (assigned : (inference.candidate candidate).assignedString = some string) :
    lanes (inference.primary candidate) ⊆ lanes (inference.committedFor candidate) := by
  unfold committedFor
  split_ifs with restarts
  · exact Finset.Subset.refl _
  · exact primary_subset assigned (of_decide_eq_false (Bool.eq_false_iff.mpr restarts))

/-- A temporal group contains the string and has at most four. -/
theorem temporalGroup_spec (assigned : (inference.candidate candidate).assignedString = some string)
    {group : StringMask} (temporal : inference.temporalGroup budget candidate = some group) :
    lanes (inference.primary candidate) ⊆ lanes group ∧ stringCount group ≤ 4 := by
  have admitted : inference.admits budget candidate group = true := by
    unfold temporalGroup at temporal
    split_ifs at temporal with completes fine
    · rw [← Option.some.inj temporal]
      exact (Bool.and_eq_true_iff.mp completes).2
    · rw [← Option.some.inj temporal]
      exact (Bool.and_eq_true_iff.mp fine).2
  simp only [admits, Bool.and_eq_true, decide_eq_true_eq] at admitted
  exact ⟨primary_subset assigned admitted.1.1.1.1.1, admitted.1.1.1.2⟩

/-- The fit of the profiles keeps the strings it has. -/
theorem subset_grow (steps slots : ℕ) (groups : List StringMask) (group : StringMask) :
    lanes group ⊆ lanes (inference.grow budget candidate steps slots groups group) := by
  induction steps generalizing slots groups group with
  | zero => exact Finset.Subset.refl _
  | succ steps ih =>
      unfold grow
      dsimp only
      by_cases full : slots = 0
      · rw [if_pos full]
      · rw [if_neg full]
        split
        · refine Finset.Subset.trans ?_ (ih ..)
          rw [lanes_or]
          exact Finset.subset_union_left
        · split
          · refine Finset.Subset.trans ?_ (ih ..)
            rw [lanes_or]
            exact Finset.subset_union_left
          · exact Finset.Subset.refl _

theorem primary_subset_distinctGroup :
    lanes (inference.primary candidate) ⊆ lanes (inference.distinctGroup budget candidate) := by
  have grown : lanes (inference.primary candidate) ⊆
      lanes (inference.grownGroup budget candidate) := by
    unfold grownGroup
    dsimp only
    split_ifs
    · exact subset_grow ..
    · exact Finset.Subset.refl _
  unfold distinctGroup
  dsimp only
  split_ifs
  · exact Finset.Subset.refl _
  · exact grown

/-- The group by profiles contains the primary string, and has at most four strings. -/
theorem profileGroup_spec (assigned : (inference.candidate candidate).assignedString = some string) :
    lanes (inference.primary candidate) ⊆ lanes (inference.profileGroup budget candidate) ∧
      stringCount (inference.profileGroup budget candidate) ≤ 4 := by
  unfold profileGroup
  dsimp only
  split_ifs with many
  · refine ⟨Finset.Subset.refl _, ?_⟩
    rw [stringCount_primary assigned]
    exact Nat.le_add_left 1 3
  · rw [not_or, not_lt] at many
    exact ⟨primary_subset_distinctGroup, many.1.trans (Nat.le_succ 3)⟩

theorem proposedGroup_spec
    (assigned : (inference.candidate candidate).assignedString = some string) :
    lanes (inference.primary candidate) ⊆ lanes (inference.proposedGroup budget candidate) ∧
      stringCount (inference.proposedGroup budget candidate) ≤ 4 := by
  unfold proposedGroup
  cases temporal : inference.temporalGroup budget candidate with
  | none => exact profileGroup_spec assigned
  | some group => exact temporalGroup_spec assigned temporal

end Proposal

section Allocation

variable {inference} {budget : LaneBudget} {candidate : Fin inference.count} {string : Fin maxVoices}

/-- A candidate that starts anew keeps what it has committed to, as far as that has at most four
strings. -/
theorem restarted_spec (assigned : (inference.candidate candidate).assignedString = some string)
    (few : stringCount (inference.candidate candidate).assignedStringMask ≤ 4) :
    (inference.restarted candidate).assignedStringMask = inference.committedFor candidate ∧
      stringCount (inference.committedFor candidate) ≤ 4 := by
  unfold restarted committedFor
  dsimp only
  split_ifs
  · refine ⟨rfl, ?_⟩
    rw [stringCount_primary assigned]
    exact Nat.le_add_left 1 3
  · exact ⟨rfl, few⟩

/-- What is confirmed contains the string and has at most four. -/
theorem confirmedStrings_spec (assigned : (inference.candidate candidate).assignedString = some string)
    (few : stringCount (inference.candidate candidate).assignedStringMask ≤ 4) :
    lanes (inference.primary candidate) ⊆
        lanes (inference.confirmedStrings budget candidate) ∧
      stringCount (inference.confirmedStrings budget candidate) ≤ 4 := by
  obtain ⟨same, bounded⟩ := restarted_spec assigned few
  have kept := primary_subset_committedFor assigned
  have proposed := @proposedGroup_spec inference budget candidate string assigned
  have alone : stringCount (inference.primary candidate) ≤ 4 := by
    rw [stringCount_primary assigned]
    exact Nat.le_add_left 1 3
  unfold confirmedStrings
  dsimp only
  rw [same]
  split_ifs
  · exact proposed
  · exact ⟨kept, bounded⟩
  · exact ⟨Finset.Subset.refl _, alone⟩
  · exact ⟨kept, bounded⟩

/-- The strings that are new are those beyond what was kept before the proposals. -/
theorem lanes_additionalExtra
    (assigned : (inference.candidate candidate).assignedString = some string)
    (strings : StringMask) : lanes (inference.additionalExtra candidate strings) =
      lanes strings \ lanes (inference.committedFor candidate) := by
  have kept := primary_subset_committedFor assigned
  ext lane
  simp only [additionalExtra, committedExtra, lanes_and, lanes_not, Finset.mem_inter,
    Finset.mem_compl, Finset.mem_sdiff, not_and, not_not]
  constructor
  · rintro ⟨⟨inside, other⟩, fresh⟩
    exact ⟨inside, fun committed => other (fresh committed)⟩
  · rintro ⟨inside, fresh⟩
    exact ⟨⟨inside, fun primary => fresh (kept primary)⟩, fun committed => absurd committed fresh⟩

/-- What is owned afterwards contains the string, has at most four, takes nothing that somebody
else owns or has got in the tick, and no more than what is left. -/
theorem ownedAfter_spec (assigned : (inference.candidate candidate).assignedString = some string)
    (few : stringCount (inference.candidate candidate).assignedStringMask ≤ 4) :
    lanes (inference.primary candidate) ⊆ lanes (inference.ownedAfter budget candidate) ∧
      stringCount (inference.ownedAfter budget candidate) ≤ 4 ∧
      Disjoint (lanes (inference.ownedAfter budget candidate) \ lanes (inference.primary candidate))
        (lanes (inference.otherOwnedStrings candidate)) ∧
      Disjoint (lanes (inference.ownedAfter budget candidate) \
        lanes (inference.committedFor candidate)) (lanes budget.allocated) ∧
      (lanes (inference.ownedAfter budget candidate) \
        lanes (inference.committedFor candidate)).card ≤ budget.remaining := by
  obtain ⟨contains, bounded⟩ := @confirmedStrings_spec inference budget candidate string assigned few
  have kept := primary_subset_committedFor assigned
  unfold ownedAfter
  dsimp only
  split_ifs with owns
  · refine ⟨contains, bounded, ?_⟩
    rcases owns with alone | allocates
    · have inside := and_not_eq_zero.mp alone
      rw [Finset.sdiff_eq_empty_iff_subset.mpr inside,
        Finset.sdiff_eq_empty_iff_subset.mpr (inside.trans kept)]
      exact ⟨Finset.disjoint_empty_left _, Finset.disjoint_empty_left _, Nat.zero_le _⟩
    · simp only [UnisonInference.allocates, Bool.and_eq_true, decide_eq_true_eq] at allocates
      obtain ⟨⟨room, free⟩, fresh⟩ := allocates
      rw [and_eq_zero, lanes_additionalExtra assigned] at fresh
      rw [stringCount_eq, lanes_additionalExtra assigned] at room
      rw [and_eq_zero, lanes_and, lanes_not, ← Finset.sdiff_eq_inter_compl] at free
      exact ⟨free, fresh, room⟩
  · refine ⟨Finset.Subset.refl _, ?_, ?_⟩
    · rw [stringCount_primary assigned]
      exact Nat.le_add_left 1 3
    · rw [sdiff_self, Finset.sdiff_eq_empty_iff_subset.mpr kept]
      exact ⟨Finset.disjoint_empty_left _, Finset.disjoint_empty_left _, Nat.zero_le _⟩

/-- What the budget is after the candidate. -/
theorem spent_spec (assigned : (inference.candidate candidate).assignedString = some string)
    (few : stringCount (inference.candidate candidate).assignedStringMask ≤ 4) :
    lanes (inference.spent budget candidate).allocated = lanes budget.allocated ∪
        (lanes (inference.ownedAfter budget candidate) \
          lanes (inference.committedFor candidate)) ∧
      (lanes (inference.ownedAfter budget candidate) \
        lanes (inference.committedFor candidate)).card +
          (inference.spent budget candidate).remaining = budget.remaining := by
  obtain ⟨-, -, -, -, room⟩ := @ownedAfter_spec inference budget candidate string assigned few
  have additional := lanes_additionalExtra assigned (inference.ownedAfter budget candidate)
  constructor
  · exact (lanes_or _ _).trans (congrArg _ additional)
  · have paid : (inference.spent budget candidate).remaining = budget.remaining -
        stringCount (inference.additionalExtra candidate (inference.ownedAfter budget candidate)) :=
      rfl
    rw [paid, stringCount_eq, additional]
    exact Nat.add_sub_cancel' room

end Allocation

section Pass

variable {inference}

/-- What a pass has made of the candidates that are done. -/
structure Shared (done : Finset (Fin inference.count)) (pass : Pass inference.count) : Prop where
  contains : ∀ candidate ∈ done,
    lanes (inference.primary candidate) ⊆ lanes (pass.candidate candidate).assignedStringMask
  few : ∀ candidate ∈ done, stringCount (pass.candidate candidate).assignedStringMask ≤ 4
  free : ∀ candidate ∈ done,
    Disjoint (lanes (pass.candidate candidate).assignedStringMask \
      lanes (inference.primary candidate)) (lanes (inference.otherOwnedStrings candidate))
  allocated : ∀ candidate ∈ done,
    inference.added pass.candidate candidate ⊆ lanes pass.budget.allocated
  apart : ∀ first ∈ done, ∀ second ∈ done, first ≠ second →
    Disjoint (inference.added pass.candidate first) (inference.added pass.candidate second)
  paid : ∑ candidate ∈ done, (inference.added pass.candidate candidate).card +
    pass.budget.remaining = inference.maxPolyphony - inference.occupiedLanes

/-- The inference starts with nobody having changed a string. -/
theorem start_shared : Shared ∅ inference.start where
  contains _ member := absurd member (Finset.notMem_empty _)
  few _ member := absurd member (Finset.notMem_empty _)
  free _ member := absurd member (Finset.notMem_empty _)
  allocated _ member := absurd member (Finset.notMem_empty _)
  apart _ member := absurd member (Finset.notMem_empty _)
  paid := by
    rw [Finset.sum_empty, Nat.zero_add]
    rfl

/-- One more selected candidate gets its share. Its share is taken from strings that nobody owns
and from the budget that is left. -/
theorem Shared.step {done : Finset (Fin inference.count)} {pass : Pass inference.count}
    (shared : Shared done pass) (owners : inference.Owners) {candidate : Fin inference.count}
    (selected : candidate ∈ inference.selected) (new : candidate ∉ done) :
    Shared (insert candidate done) (inference.step pass candidate) := by
  have assigned := owners.assigned candidate selected
  obtain ⟨string, named⟩ := Option.isSome_iff_exists.mp assigned
  have few := owners.few candidate selected
  obtain ⟨contains, bounded, free, fresh, -⟩ :=
    @ownedAfter_spec inference pass.budget candidate string named few
  obtain ⟨allocated, paid⟩ := @spent_spec inference pass.budget candidate string named few
  have stepped : inference.step pass candidate = {
      candidate := Function.update pass.candidate candidate
        (inference.inferred pass.budget candidate)
      budget := inference.spent pass.budget candidate } := if_pos ⟨selected, assigned⟩
  have here : (inference.step pass candidate).candidate candidate =
      inference.inferred pass.budget candidate := by
    rw [stepped]
    exact Function.update_self ..
  have stays : ∀ other ∈ done, (inference.step pass candidate).candidate other =
      pass.candidate other := by
    intro other member
    rw [stepped]
    exact Function.update_of_ne (ne_of_mem_of_not_mem member new) _ _
  have addedHere : inference.added (inference.step pass candidate).candidate candidate =
      lanes (inference.ownedAfter pass.budget candidate) \
        lanes (inference.committedFor candidate) := by
    rw [added, here]
    rfl
  have addedThere : ∀ other ∈ done, inference.added (inference.step pass candidate).candidate other =
      inference.added pass.candidate other := by
    intro other member
    rw [added, stays other member, added]
  have budget : (inference.step pass candidate).budget = inference.spent pass.budget candidate := by
    rw [stepped]
  have beside : ∀ other ∈ done, Disjoint
      (inference.added (inference.step pass candidate).candidate candidate)
      (inference.added (inference.step pass candidate).candidate other) := by
    intro other member
    rw [addedHere, addedThere other member]
    exact fresh.mono_right (shared.allocated other member)
  constructor
  · intro other member
    rcases Finset.mem_insert.mp member with rfl | before
    · rw [here]
      exact contains
    · rw [stays other before]
      exact shared.contains other before
  · intro other member
    rcases Finset.mem_insert.mp member with rfl | before
    · rw [here]
      exact bounded
    · rw [stays other before]
      exact shared.few other before
  · intro other member
    rcases Finset.mem_insert.mp member with rfl | before
    · rw [here]
      exact free
    · rw [stays other before]
      exact shared.free other before
  · intro other member
    rw [budget, allocated]
    rcases Finset.mem_insert.mp member with rfl | before
    · rw [addedHere]
      exact Finset.subset_union_right
    · rw [addedThere other before]
      exact (shared.allocated other before).trans Finset.subset_union_left
  · intro first member second member' different
    rcases Finset.mem_insert.mp member with rfl | before
    · rcases Finset.mem_insert.mp member' with rfl | later
      · exact absurd rfl different
      · exact beside second later
    · rcases Finset.mem_insert.mp member' with rfl | later
      · exact (beside first before).symm
      · rw [addedThere first before, addedThere second later]
        exact shared.apart first before second later different
  · have total : ∑ other ∈ done,
        (inference.added (inference.step pass candidate).candidate other).card =
          ∑ other ∈ done, (inference.added pass.candidate other).card :=
      Finset.sum_congr rfl fun other member => congrArg Finset.card (addedThere other member)
    rw [Finset.sum_insert new, addedHere, total, budget]
    have before := shared.paid
    omega

/-- After the pass every selected candidate has got its share. By induction on the candidates, in
the order of the pass. -/
theorem pass_shared (owners : inference.Owners) :
    Shared inference.selected
      ((List.finRange inference.count).foldl inference.step inference.start) := by
  have shares (candidates : List (Fin inference.count)) (distinct : candidates.Nodup) :
      Shared (candidates.toFinset.filter (· ∈ inference.selected))
        (candidates.foldl inference.step inference.start) := by
    induction candidates using List.reverseRecOn with
    | nil => exact start_shared
    | append_singleton candidates candidate ih =>
        obtain ⟨before, -, apart⟩ := List.nodup_append.mp distinct
        have new : candidate ∉ candidates := fun member =>
          apart candidate member candidate (List.mem_singleton_self _) rfl
        have whole : (candidates ++ [candidate]).toFinset = insert candidate candidates.toFinset := by
          ext other
          simp
        rw [List.foldl_append, whole, Finset.filter_insert]
        split_ifs with selected
        · refine (ih before).step owners selected fun member => new ?_
          exact List.mem_toFinset.mp (Finset.mem_filter.mp member).1
        · have skipped : inference.step (candidates.foldl inference.step inference.start) candidate =
              candidates.foldl inference.step inference.start :=
            if_neg fun taken => selected taken.1
          rw [List.foldl_cons, List.foldl_nil, skipped]
          exact ih before
  have all : (List.finRange inference.count).toFinset.filter (· ∈ inference.selected) =
      inference.selected := by
    ext candidate
    simp
  rw [← all]
  exact shares _ (List.nodup_finRange _)

end Pass

section Settled

variable {inference} (owners : inference.Owners) (settled : inference.Settled)

include owners settled in
/-- What a settled candidate owned is what it starts from. -/
theorem committed_eq {candidate : Fin inference.count} (selected : candidate ∈ inference.selected) :
    inference.committed candidate = inference.committedFor candidate := by
  have assigned := owners.assigned candidate selected
  unfold committed committedFor restarts
  rw [if_neg (Option.isSome_iff_ne_none.mp assigned)]
  by_cases nothing : (inference.candidate candidate).assignedStringMask = 0
  · have meets : (inference.candidate candidate).assignedStringMask &&&
        inference.primary candidate = 0 := by
      rw [nothing]
      exact BitVec.zero_and
    rw [if_pos nothing, if_pos (decide_eq_true meets)]
  · have meets := settled candidate selected nothing
    rw [if_neg nothing, if_neg (by rwa [decide_eq_true_eq])]

include owners settled in
/-- What somebody else starts from is owned by others. -/
theorem mem_otherOwnedStrings {candidate other : Fin inference.count}
    (here : candidate ∈ inference.selected) (there : other ∈ inference.selected)
    (different : other ≠ candidate) {lane : Fin maxVoices}
    (owned : lane ∈ lanes (inference.committedFor other)) :
    lane ∈ lanes (inference.otherOwnedStrings candidate) := by
  have counted : other ∈ inference.selected.filter fun candidate =>
      (inference.committed candidate).getLsbD lane = true := by
    rw [Finset.mem_filter, committed_eq owners settled there]
    exact ⟨there, mem_lanes_iff_getLsbD.mp owned⟩
  refine (@mem_lanes_gather 8 _ (fun _ => Nat.decLt _ _) _ _ _).mpr
    (.inr ⟨List.mem_finRange lane, ?_⟩)
  unfold committedOwnerCount
  split_ifs with own
  · refine Finset.one_lt_card.mpr ⟨other, counted, candidate, ?_, different⟩
    rw [Finset.mem_filter, committed_eq owners settled here]
    exact ⟨here, own⟩
  · exact Finset.card_pos.mpr ⟨other, counted⟩

/-- The strings of coasting voices are owned by others. -/
theorem coastingStrings_subset (candidate : Fin inference.count) :
    lanes inference.coastingStrings ⊆ lanes (inference.otherOwnedStrings candidate) :=
  fun _ member => (@mem_lanes_gather 8 _ (fun _ => Nat.decLt _ _) _ _ _).mpr (.inl member)

include owners settled in
/-- What is kept before the proposals fits into the lanes counted as occupied. -/
theorem card_committedFor_le :
    (lanes inference.coastingStrings ∪
      inference.selected.biUnion fun candidate => lanes (inference.committedFor candidate)).card ≤
        inference.occupiedLanes := by
  refine le_trans ?_ (Nat.le_max_left _ _)
  rw [stringCount_eq]
  refine Finset.card_le_card fun lane member => ?_
  rw [lanes_or, Finset.mem_union]
  rcases Finset.mem_union.mp member with coasting | owned
  · exact .inr coasting
  · obtain ⟨candidate, selected, inside⟩ := Finset.mem_biUnion.mp owned
    refine .inl (mem_lanes_gathered.mpr (.inr ⟨candidate, List.mem_finRange _, selected, ?_⟩))
    rw [committed_eq owners settled selected]
    exact inside

end Settled

section Owned

variable {inference}

/-- What is owned after the tick, when nobody starts again on a string that it did not own: it is
apart, contains what is assigned, and stays within the voices. -/
theorem inferM3UnisonStrings_owned (owners : inference.Owners) (settled : inference.Settled) :
    inference.Owned inference.inferM3UnisonStrings := by
  have shared := pass_shared owners
  have primary_mem {candidate : Fin inference.count} (selected : candidate ∈ inference.selected) :
      lanes (inference.primary candidate) ⊆ lanes (inference.committedFor candidate) := by
    obtain ⟨string, named⟩ := Option.isSome_iff_exists.mp (owners.assigned candidate selected)
    exact primary_subset_committedFor named
  have string_notMem {first second : Fin inference.count} (here : first ∈ inference.selected)
      (there : second ∈ inference.selected) (different : second ≠ first) {lane : Fin 8}
      (string : lane ∈ lanes (inference.primary second))
      (owned : lane ∈ lanes (inference.inferM3UnisonStrings first).assignedStringMask) : False := by
    by_cases own : lane ∈ lanes (inference.primary first)
    · obtain ⟨name, named⟩ := Option.isSome_iff_exists.mp (owners.assigned first here)
      obtain ⟨name', named'⟩ := Option.isSome_iff_exists.mp (owners.assigned second there)
      rw [lanes_primary named] at own
      rw [lanes_primary named'] at string
      have same := (Finset.mem_singleton.mp own).symm.trans (Finset.mem_singleton.mp string)
      exact different (owners.distinct first here second there (by rw [named, named', same])).symm
    · have others := mem_otherOwnedStrings owners settled here there different
        (primary_mem there string)
      exact Finset.disjoint_left.mp (shared.free first here)
        (Finset.mem_sdiff.mpr ⟨owned, own⟩) others
  constructor
  · exact shared.contains
  · exact shared.few
  · intro first here second there different
    refine and_eq_zero.mpr (Finset.disjoint_left.mpr fun lane inside inside' => ?_)
    by_cases string : lane ∈ lanes (inference.primary first)
    · exact string_notMem there here different string inside'
    by_cases string' : lane ∈ lanes (inference.primary second)
    · exact string_notMem here there different.symm string' inside
    -- Neither has the lane from before, so both have got it in this tick.
    have fresh : lane ∉ lanes (inference.committedFor first) := fun owned =>
      Finset.disjoint_left.mp (shared.free second there) (Finset.mem_sdiff.mpr ⟨inside', string'⟩)
        (mem_otherOwnedStrings owners settled there here different owned)
    have fresh' : lane ∉ lanes (inference.committedFor second) := fun owned =>
      Finset.disjoint_left.mp (shared.free first here) (Finset.mem_sdiff.mpr ⟨inside, string⟩)
        (mem_otherOwnedStrings owners settled here there different.symm owned)
    exact Finset.disjoint_left.mp (shared.apart first here second there different)
      (Finset.mem_sdiff.mpr ⟨inside, fresh⟩) (Finset.mem_sdiff.mpr ⟨inside', fresh'⟩)
  · intro candidate selected
    refine and_eq_zero.mpr (Finset.disjoint_left.mpr fun lane inside coasting => ?_)
    by_cases string : lane ∈ lanes (inference.primary candidate)
    · exact Finset.disjoint_left.mp (and_eq_zero.mp (owners.unowned candidate selected)) string
        coasting
    · exact Finset.disjoint_left.mp (shared.free candidate selected)
        (Finset.mem_sdiff.mpr ⟨inside, string⟩) (coastingStrings_subset candidate coasting)
  · intro first second coasting coasting' different
    have apart := owners.apart first second different
    rwa [held, held, if_pos coasting, if_pos coasting'] at apart
  · rintro ⟨candidate, selected, grown⟩
    have before := card_committedFor_le owners settled
    have covered : inference.ownedLanes inference.inferM3UnisonStrings ⊆
        (lanes inference.coastingStrings ∪ inference.selected.biUnion fun candidate =>
          lanes (inference.committedFor candidate)) ∪ inference.selected.biUnion fun candidate =>
            inference.added inference.inferM3UnisonStrings candidate := by
      intro lane member
      rcases Finset.mem_union.mp member with coasting | owned
      · exact Finset.mem_union_left _ (Finset.mem_union_left _ coasting)
      · obtain ⟨other, there, inside⟩ := Finset.mem_biUnion.mp owned
        by_cases old : lane ∈ lanes (inference.committedFor other)
        · refine Finset.mem_union_left _ (Finset.mem_union_right _ ?_)
          exact Finset.mem_biUnion.mpr ⟨other, there, old⟩
        · refine Finset.mem_union_right _ (Finset.mem_biUnion.mpr ⟨other, there, ?_⟩)
          exact Finset.mem_sdiff.mpr ⟨inside, old⟩
    have size := (Finset.card_le_card covered).trans (Finset.card_union_le _ _)
    have new : (inference.selected.biUnion fun candidate =>
        inference.added inference.inferM3UnisonStrings candidate).card ≤
          ∑ candidate ∈ inference.selected,
            (inference.added inference.inferM3UnisonStrings candidate).card :=
      Finset.card_biUnion_le
    have positive : 0 < (inference.selected.biUnion fun candidate =>
        inference.added inference.inferM3UnisonStrings candidate).card := by
      obtain ⟨lane, inside⟩ := grown
      exact Finset.card_pos.mpr ⟨lane, Finset.mem_biUnion.mpr ⟨candidate, selected, inside⟩⟩
    have paid : ∑ candidate ∈ inference.selected,
        (inference.added inference.inferM3UnisonStrings candidate).card + _ =
          inference.maxPolyphony - inference.occupiedLanes := shared.paid
    omega

end Owned

section TwoVoices

/-- Two selected notes of which the first has been assigned to the fifth string. The beats of
the second have shown the fifth string beside its own for some time. -/
def twoVoices (held : StringMask) : UnisonInference where
  lowestNote := 55
  maxFret := 24
  maxPolyphony := 4
  profileReadyTicks := 188
  unisonEvidenceTicks := 90
  count := 2
  selected := Finset.univ
  candidate := ![
    { active := true, assignedString := (List.finRange maxVoices)[4]?
      assignedStringMask := held },
    { active := true, assignedString := (List.finRange maxVoices)[6]?
      assignedStringMask := 0x40, pendingUnisonMask := 0x50, unisonEvidenceTicks := 90 }]
  evidence := ![{}, { fineValid := true, multiSourceObserved := true, fineMemberMask := 0x50 }]

/-- In the example the two voices own strings of their own. -/
theorem twoVoices_owners {held : StringMask} (single : held = 0x10 ∨ held = 0x20) :
    (twoVoices held).Owners := by
  rcases single with rfl | rfl
  · constructor
    all_goals decide +kernel
  · constructor
    all_goals decide +kernel

/-- Two voices at the same pitch, which end up on strings of their own. -/
theorem inferM3UnisonStrings_owned_two :
    (twoVoices 0x10).Owned (twoVoices 0x10).inferM3UnisonStrings := by
  refine inferM3UnisonStrings_owned (twoVoices_owners (.inl rfl)) ?_
  unfold Settled
  decide +kernel

/-- The first note has just left the sixth string for the fifth, and the second takes it too. -/
theorem moved_notOwned : (twoVoices 0x20).Owners ∧
    ¬(twoVoices 0x20).Owned (twoVoices 0x20).inferM3UnisonStrings := by
  refine ⟨twoVoices_owners (.inr rfl), fun owned => ?_⟩
  have apart := owned.apart (0 : Fin 2) (Finset.mem_univ _) (1 : Fin 2) (Finset.mem_univ _)
    (Fin.ne_of_val_ne (Nat.zero_ne_add_one 0))
  have shared : ((twoVoices 0x20).inferM3UnisonStrings (0 : Fin 2)).assignedStringMask &&&
      ((twoVoices 0x20).inferM3UnisonStrings (1 : Fin 2)).assignedStringMask ≠ 0 := by
    decide +kernel
  exact shared apart

end TwoVoices

end UnisonInference

end M3Midi
