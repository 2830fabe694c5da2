import M3Midi.Detector.UnisonClassifier
import M3Midi.Foundation.RunnerUp
import Mathlib.Analysis.Real.Sqrt

/-! # The fit that is reported

The norm is the root of the sum of squares, elimination solves the normal equations, and the
loop over the masks ranks the errors of those that can be fitted. So the classification over
the reals reports the mask of the smallest error and how far the next one is behind
(`M3Midi.UnisonClassifier.Query.classify_exact`).
-/

namespace M3Midi

open Foundation Foundation.MaskSweep

namespace UnisonClassifier

section Norm

variable {Number : Type} [Field Number] [LinearOrder Number]

/-- A fingerprint is finite and non-negative when each of its features is. -/
theorem finiteNonnegative_iff {value : UnisonSpectralFingerprint Number} :
    finiteNonnegative value = true ↔
      ∀ feature, (value feature).isSome = true ∧ 0 ≤ features value feature := by
  rw [finiteNonnegative, List.all_eq_true]
  refine ⟨fun holds feature => ?_, fun holds feature _ => ?_⟩
  · have here := holds feature (List.mem_finRange feature)
    rw [features]
    cases amount : value feature with
    | none =>
        rw [amount] at here
        exact absurd here Bool.false_ne_true
    | some number =>
        rw [amount] at here
        exact ⟨rfl, of_decide_eq_true here⟩
  · obtain ⟨finite, above⟩ := holds feature
    rw [features] at above
    cases amount : value feature with
    | none =>
        rw [amount] at finite
        exact absurd finite Bool.false_ne_true
    | some number =>
        rw [amount] at above
        exact decide_eq_true above

variable [IsStrictOrderedRing Number]

/-- The scaled sum is the sum of the squares. -/
theorem scaled_foldl {amounts : List Number} (nonnegative : ∀ amount ∈ amounts, 0 ≤ amount)
    {state : Number × Number} (scale : 0 ≤ state.1) (sum : 0 ≤ state.2) :
    let final := amounts.foldl scaled state
    0 ≤ final.1 ∧ 0 ≤ final.2 ∧
      final.1 * final.1 * final.2 =
        state.1 * state.1 * state.2 + (amounts.map fun amount => amount * amount).sum := by
  induction amounts generalizing state with
  | nil =>
      refine ⟨scale, sum, ?_⟩
      rw [List.map_nil, List.sum_nil, add_zero]
      rfl
  | cons amount amounts ih =>
      have here := nonnegative amount List.mem_cons_self
      have rest := fun other member => nonnegative other (List.mem_cons_of_mem amount member)
      have step : 0 ≤ (scaled state amount).1 ∧ 0 ≤ (scaled state amount).2 ∧
          (scaled state amount).1 * (scaled state amount).1 * (scaled state amount).2 =
            state.1 * state.1 * state.2 + amount * amount := by
        rw [scaled]
        split_ifs with zero larger
        · rw [zero, mul_zero, add_zero]
          exact ⟨scale, sum, rfl⟩
        · have positive : 0 < amount := lt_of_le_of_ne here (Ne.symm zero)
          refine ⟨here, by positivity, ?_⟩
          field_simp
          ring
        · have positive : 0 < state.1 :=
            lt_of_lt_of_le (lt_of_le_of_ne here (Ne.symm zero)) (not_lt.mp larger)
          refine ⟨scale, by positivity, ?_⟩
          field_simp
      obtain ⟨first, second, total⟩ := ih rest step.1 step.2.1
      refine ⟨first, second, total.trans ?_⟩
      rw [step.2.2, List.map_cons, List.sum_cons, add_assoc]

end Norm

/-- The sum of the squares of the features. -/
def energy {Number : Type} [Field Number] (value : UnisonSpectralFingerprint Number) : Number :=
  ∑ feature, features value feature * features value feature

/-- The norm is the root of the energy. -/
theorem stableL2Norm_eq {value : UnisonSpectralFingerprint ℝ}
    (finite : finiteNonnegative value = true) :
    stableL2Norm Real.sqrt value = √(energy value) := by
  have nonnegative : ∀ amount ∈ (List.finRange unisonSpectralFeatureCount).map (features value),
      0 ≤ amount := by
    intro amount member
    obtain ⟨feature, -, rfl⟩ := List.mem_map.mp member
    exact (finiteNonnegative_iff.mp finite feature).2
  obtain ⟨scale, sum, total⟩ :=
    @scaled_foldl ℝ _ _ _ _ nonnegative (0, 1) le_rfl zero_le_one
  rw [stableL2Norm]
  dsimp only at total ⊢
  generalize ((List.finRange unisonSpectralFeatureCount).map (features value)).foldl scaled (0, 1)
    = final at *
  have squares : final.1 * final.1 * final.2 = energy value := by
    rw [total, energy, Fin.sum_univ_def, List.map_map, mul_one, mul_zero, zero_add]
    rfl
  rw [← squares]
  split_ifs with zero
  · rw [zero, zero_mul, zero_mul, Real.sqrt_zero]
  · rw [Real.sqrt_mul (mul_self_nonneg _), Real.sqrt_mul_self scale]

/-- A fingerprint has energy exactly if some feature of it is not zero. -/
theorem energy_pos_iff {value : UnisonSpectralFingerprint ℝ} :
    0 < energy value ↔ ∃ feature, features value feature ≠ 0 := by
  constructor
  · intro positive
    by_contra none
    refine absurd positive (not_lt.mpr (le_of_eq (Finset.sum_eq_zero fun feature _ => ?_)))
    rw [not_not.mp fun differs => none ⟨feature, differs⟩, mul_zero]
  · rintro ⟨feature, differs⟩
    exact Finset.sum_pos' (fun _ _ => mul_self_nonneg _)
      ⟨feature, Finset.mem_univ _, mul_self_pos.mpr differs⟩

/-- The norm that is scaled by the greatest feature is positive in the same cases. -/
theorem stableL2Norm_pos_iff {value : UnisonSpectralFingerprint ℝ}
    (finite : finiteNonnegative value = true) :
    0 < stableL2Norm Real.sqrt value ↔ ∃ feature, features value feature ≠ 0 := by
  rw [stableL2Norm_eq finite, Real.sqrt_pos, energy_pos_iff]

/-! ## The masks -/

/-- The strings of a mask lie side by side. -/
def Consecutive (mask : BitVec 8) : Prop :=
  ∃ lowest < maxVoices, ∀ string : Fin maxVoices,
    mask.getLsbD string = true ↔
      lowest ≤ string.val ∧ string.val < lowest + (members mask).length

/-- Whether strings are consecutive can be checked on their members. -/
instance (mask : BitVec 8) : Decidable (Consecutive mask) :=
  inferInstanceAs (Decidable (∃ lowest < maxVoices, _))

/-- The members of a mask are the strings whose bit is set. -/
theorem mem_members {mask : BitVec 8} {string : Fin maxVoices} :
    string ∈ members mask ↔ mask.getLsbD string = true := by
  rw [members, List.mem_filter]
  exact and_iff_right (List.mem_finRange string)

/-- What holds of all numbers below 256 holds of all masks. -/
theorem forall_masks {property : BitVec 8 → Prop}
    (holds : ∀ number < 256, property (BitVec.ofNat 8 number)) (mask : BitVec 8) :
    property mask := by
  have here := holds mask.toNat mask.isLt
  rwa [BitVec.ofNat_toNat, BitVec.setWidth_eq] at here

/-- A mask has as many members as it has bits. -/
theorem length_members (mask : BitVec 8) : (members mask).length = LaneMask.count mask := by
  revert mask
  exact forall_masks (by decide +kernel)

/-- A mask of several bits passes the test for neighbours exactly if its strings are consecutive.
-/
theorem consecutiveMask_iff (mask : BitVec 8) (something : mask ≠ 0) :
    consecutiveMask mask (LaneMask.count mask) = true ↔ Consecutive mask := by
  revert mask
  exact forall_masks (by decide +kernel)

/-- A mask is available if each of its strings is playable and has a template. -/
theorem available_iff {playable valid mask : BitVec 8} :
    playable &&& valid &&& mask = mask ↔
      ∀ string ∈ members mask, playable.getLsbD string = true ∧ valid.getLsbD string = true := by
  constructor
  · intro same string member
    rw [mem_members, ← same, BitVec.getLsbD_and, BitVec.getLsbD_and, Bool.and_eq_true,
      Bool.and_eq_true] at member
    exact member.1
  · intro available
    refine BitVec.eq_of_getLsbD_eq fun bit inside => ?_
    rw [BitVec.getLsbD_and, BitVec.getLsbD_and]
    cases set : mask.getLsbD bit with
    | false => rw [Bool.and_false]
    | true =>
        obtain ⟨playable, valid⟩ := available ⟨bit, inside⟩ (mem_members.mpr set)
        rw [playable, valid]
        rfl

/-! ## The loop over the masks -/

namespace Query

section Search

variable {Number : Type} [Field Number] [LinearOrder Number] (query : Query Number)
  (sqrt : Number → Number)

/-- The error of a mask that is considered and can be fitted. -/
def score (mask : BitVec 8) : Option Number :=
  if query.considers mask then (query.fit sqrt mask).map Prod.fst else none

/-- The masks that can be fitted, with their errors. -/
def candidates (masks : List (BitVec 8)) : List (ℕ × Number) :=
  masks.filterMap fun mask => (query.score sqrt mask).map fun error => (mask.toNat, error)

/-- A classification in the making is the ranking of the masks so far. -/
structure Ranks (best : Classification Number) (ranking : Ranking ℕ Number) : Prop where
  runnerUp : best.runnerUpError = ranking.runnerUp
  first : match ranking.best with
    | none => best.valid = false ∧ best.error = ⊤
    | some (key, error) => best.valid = true ∧ best.memberMask.toNat = key ∧ best.error = error

variable {query sqrt} {best : Classification Number} {ranking : Ranking ℕ Number}

/-- A mask that is tried is offered to the ranking. A mask that has no fit is not offered, and
takes no place in it. -/
theorem Ranks.consider (ranks : Ranks best ranking) (mask : BitVec 8) :
    Ranks (query.consider sqrt best mask)
      (((query.score sqrt mask).map fun error => (mask.toNat, error)).toList.foldl
        Ranking.offer ranking) := by
  rw [Query.consider, score]
  by_cases considered : query.considers mask = true
  · rw [if_pos considered, if_pos considered]
    cases fitted : query.fit sqrt mask with
    | none => exact ranks
    | some fit =>
        obtain ⟨error, weights⟩ := fit
        change Ranks _ (ranking.offer (mask.toNat, error))
        obtain ⟨runnerUp, first⟩ := ranks
        rw [Ranking.offer]
        cases place : ranking.best with
        | none =>
            rw [place] at first
            dsimp only
            rw [if_pos (.inl first.1)]
            refine ⟨?_, rfl, rfl, rfl⟩
            dsimp only
            rw [first.2, runnerUp]
            exact min_eq_left le_top
        | some old =>
            obtain ⟨key, score⟩ := old
            rw [place] at first
            obtain ⟨valid, same, scored⟩ := first
            have becomes : (best.valid = false ∨ (error : WithTop Number) < best.error ∨
                (error : WithTop Number) = best.error ∧ mask.toNat < best.memberMask.toNat) ↔
                Ranking.Before (mask.toNat, error) (key, score) := by
              rw [valid, scored, same, Ranking.Before, WithTop.coe_lt_coe, WithTop.coe_inj]
              exact or_iff_right Bool.false_ne_true.symm
            dsimp only
            by_cases before : Ranking.Before (mask.toNat, error) (key, score)
            · rw [if_pos (becomes.mpr before), if_pos before]
              refine ⟨?_, rfl, rfl, rfl⟩
              dsimp only
              rw [runnerUp, scored]
            · rw [if_neg fun now => before (becomes.mp now), if_neg before]
              refine ⟨?_, valid, same, scored⟩
              dsimp only
              rw [runnerUp]
  · rw [if_neg considered, if_neg considered]
    exact ranks

/-- The search keeps the ranking of all the masks it has considered, by induction on the masks. -/
theorem Ranks.search (ranks : Ranks best ranking) (masks : List (BitVec 8)) :
    Ranks (masks.foldl (query.consider sqrt) best)
      ((query.candidates sqrt masks).foldl Ranking.offer ranking) := by
  induction masks generalizing best ranking with
  | nil => exact ranks
  | cons mask masks ih =>
      have next := ih (@Ranks.consider _ _ _ query sqrt _ _ ranks mask)
      rw [List.foldl_cons, candidates, List.filterMap_cons]
      cases scored : query.score sqrt mask with
      | none =>
          rw [scored] at next
          exact next
      | some error =>
          rw [scored] at next
          exact next

/-- A mask is a candidate with its error. -/
theorem mem_candidates {masks : List (BitVec 8)} {key : ℕ} {error : Number} :
    (key, error) ∈ query.candidates sqrt masks ↔
      ∃ mask ∈ masks, query.score sqrt mask = some error ∧ mask.toNat = key := by
  rw [candidates, List.mem_filterMap]
  refine exists_congr fun mask => and_congr_right fun _ => ?_
  rw [Option.map_eq_some_iff]
  constructor
  · rintro ⟨score, scored, same⟩
    obtain ⟨rfl, rfl⟩ := Prod.mk.inj same
    exact ⟨scored, rfl⟩
  · rintro ⟨scored, rfl⟩
    exact ⟨error, scored, rfl⟩

/-- Different masks give different candidates. -/
theorem nodup_candidates {masks : List (BitVec 8)} (distinct : masks.Nodup) :
    (query.candidates sqrt masks).Nodup := by
  refine distinct.filterMap fun one two candidate first second => ?_
  obtain ⟨left, -, same⟩ := Option.map_eq_some_iff.mp first
  obtain ⟨right, -, also⟩ := Option.map_eq_some_iff.mp second
  exact BitVec.eq_of_toNat_eq (congrArg Prod.fst (same.trans also.symm))

end Search

section Exact

variable (query : Query ℝ)

/-- A mask can be reported with an error: as many strings as asked for, all playable and with
usable templates, side by side when that is asked for, and fitted by weights above the floor. -/
structure Admissible (mask : BitVec 8) (error : ℝ) : Prop where
  size : query.minimumMemberCount ≤ (members mask).length ∧
    (members mask).length ≤ query.maximumMemberCount
  available : ∀ string ∈ members mask, query.playableMask.getLsbD string = true ∧
    query.templates.validMask.getLsbD string = true
  usable : ∀ string ∈ members mask,
    finiteNonnegative (query.templates.fingerprint string) = true ∧
      ∃ feature, features (query.templates.fingerprint string) feature ≠ 0
  consecutive : query.consecutiveOnly = true → Consecutive mask
  fits : ∃ weights, query.normalizedWeights Real.sqrt mask = some weights ∧
    (∀ member, positiveWeightFloor < weights member) ∧
    error = LeastSquares.squaredError (query.columns Real.sqrt mask) (query.target Real.sqrt)
      weights

variable {query} {mask : BitVec 8} {error : ℝ}

/-- A mask has one error. -/
theorem Admissible.unique {other : ℝ} (one : query.Admissible mask error)
    (two : query.Admissible mask other) : error = other := by
  obtain ⟨weights, found, -, rfl⟩ := one.fits
  obtain ⟨others, same, -, rfl⟩ := two.fits
  rw [Option.some.inj (found.symm.trans same)]

/-- The masks that are considered: those of an allowed size, whose strings are playable with a
template, and neighbours where this is asked for. -/
theorem considers_iff (something : mask ≠ 0) :
    query.considers mask = true ↔
      (query.minimumMemberCount ≤ (members mask).length ∧
        (members mask).length ≤ query.maximumMemberCount) ∧
      (∀ string ∈ members mask, query.playableMask.getLsbD string = true ∧
        query.templates.validMask.getLsbD string = true) ∧
      (query.consecutiveOnly = true → Consecutive mask) := by
  rw [considers, Bool.and_eq_true, Bool.and_eq_true, Bool.and_eq_true, decide_eq_true_eq, decide_eq_true_eq,
    decide_eq_true_eq, available_iff, length_members, Bool.or_eq_true, Bool.not_eq_true',
    consecutiveMask_iff mask something, and_assoc]
  refine and_congr_right fun _ => and_congr_right fun _ => ?_
  cases query.consecutiveOnly with
  | false => exact ⟨fun _ => fun asked => absurd asked Bool.false_ne_true, fun _ => .inl rfl⟩
  | true =>
      exact ⟨fun holds _ => holds.resolve_left Bool.false_ne_true.symm, fun holds => .inr (holds rfl)⟩

/-- A mask fits with an error exactly if its templates are usable, the normalized least squares
have a solution with all weights above the floor, and the error is the solution's. -/
theorem fit_iff : (query.fit Real.sqrt mask).map Prod.fst = some error ↔
    (∀ string ∈ members mask,
      finiteNonnegative (query.templates.fingerprint string) = true ∧
        ∃ feature, features (query.templates.fingerprint string) feature ≠ 0) ∧
    ∃ weights, query.normalizedWeights Real.sqrt mask = some weights ∧
      (∀ member, positiveWeightFloor < weights member) ∧
      error = LeastSquares.squaredError (query.columns Real.sqrt mask) (query.target Real.sqrt)
        weights := by
  have usable : (∀ string ∈ members mask,
      finiteNonnegative (query.templates.fingerprint string) = true ∧
        0 < query.templateNorm Real.sqrt string) ↔
      ∀ string ∈ members mask,
        finiteNonnegative (query.templates.fingerprint string) = true ∧
          ∃ feature, features (query.templates.fingerprint string) feature ≠ 0 :=
    forall_congr' fun string => forall_congr' fun _ =>
      and_congr_right fun finite => stableL2Norm_pos_iff finite
  rw [← usable, fit]
  by_cases holds : ∀ string ∈ members mask,
      finiteNonnegative (query.templates.fingerprint string) = true ∧
        0 < query.templateNorm Real.sqrt string
  · rw [if_pos holds, and_iff_right holds]
    cases query.normalizedWeights Real.sqrt mask with
    | none =>
        constructor
        · exact fun absent => absurd absent (Option.some_ne_none error).symm
        · rintro ⟨weights, absent, -⟩
          exact absurd absent (Option.some_ne_none weights).symm
    | some weights =>
        dsimp only
        by_cases low : ∃ member, weights member ≤ positiveWeightFloor
        · rw [if_pos low]
          constructor
          · exact fun absent => absurd absent (Option.some_ne_none error).symm
          · rintro ⟨same, found, above, -⟩
            obtain rfl := Option.some.inj found
            obtain ⟨member, below⟩ := low
            exact absurd (above member) (not_lt.mpr below)
        · rw [if_neg low]
          constructor
          · intro found
            exact ⟨weights, rfl, fun member => not_le.mp fun below => low ⟨member, below⟩,
              (Option.some.inj found).symm⟩
          · rintro ⟨same, found, -, rfl⟩
            obtain rfl := Option.some.inj found
            rfl
  · rw [if_neg holds]
    constructor
    · exact fun absent => absurd absent (Option.some_ne_none error).symm
    · exact fun both => absurd both.1 holds

/-- The masks of the loop are scored just when they are admissible. -/
theorem score_iff (something : mask ≠ 0) :
    query.score Real.sqrt mask = some error ↔ query.Admissible mask error := by
  rw [score]
  by_cases considered : query.considers mask = true
  · obtain ⟨size, available, consecutive⟩ := (considers_iff something).mp considered
    rw [if_pos considered, fit_iff]
    exact ⟨fun ⟨usable, fits⟩ => ⟨size, available, usable, consecutive, fits⟩,
      fun admissible => ⟨admissible.usable, admissible.fits⟩⟩
  · rw [if_neg considered]
    constructor
    · exact fun absent => absurd absent (Option.some_ne_none error).symm
    · intro admissible
      exact absurd ((considers_iff something).mpr
        ⟨admissible.size, admissible.available, admissible.consecutive⟩) considered

/-- The arguments that are not refused. -/
structure Accepted (query : Query ℝ) : Prop where
  bounds : 1 ≤ query.minimumMemberCount ∧ query.minimumMemberCount ≤ query.maximumMemberCount ∧
    query.maximumMemberCount ≤ maximumUnisonMembers
  finite : finiteNonnegative query.observed = true
  something : ∃ feature, features query.observed feature ≠ 0

/-- The checks of a query are the documented conditions on it. -/
theorem accepted_iff : query.accepted Real.sqrt = true ↔ query.Accepted := by
  rw [accepted, Bool.and_eq_true, Bool.and_eq_true, Bool.and_eq_true, Bool.and_eq_true,
    Bool.and_eq_true, decide_eq_true_eq, decide_eq_true_eq, decide_eq_true_eq, decide_eq_true_eq,
    decide_eq_true_eq]
  have positive (finite : finiteNonnegative query.observed = true) :
      stableL2Norm Real.sqrt query.observed ≠ 0 ↔
        ∃ feature, features query.observed feature ≠ 0 := by
    rw [← stableL2Norm_pos_iff finite, stableL2Norm_eq finite]
    exact (Real.sqrt_nonneg _).lt_iff_ne'.symm
  constructor
  · rintro ⟨⟨⟨⟨⟨least, ordered⟩, most⟩, -⟩, finite⟩, nonzero⟩
    exact ⟨⟨least, ordered, most⟩, finite, (positive finite).mp nonzero⟩
  · rintro ⟨⟨least, ordered, most⟩, finite, something⟩
    exact ⟨⟨⟨⟨⟨least, ordered⟩, most⟩, most.trans (by decide)⟩, finite⟩,
      (positive finite).mpr something⟩

/-- What a valid classification says of the admissible masks. -/
structure Reports (query : Query ℝ) (result : Classification ℝ) (error : ℝ) : Prop where
  admissible : query.Admissible result.memberMask error
  error_eq : result.error = error
  least : ∀ mask other, query.Admissible mask other →
    error ≤ other ∧ (other = error → result.memberMask.toNat ≤ mask.toNat)
  runnerUp_le : ∀ mask other, query.Admissible mask other → mask ≠ result.memberMask →
    result.runnerUpError ≤ other
  runnerUp_eq : result.runnerUpError = ⊤ ∨ ∃ mask other, query.Admissible mask other ∧
    mask ≠ result.memberMask ∧ result.runnerUpError = other
  margin : result.runnerUpError = ⊤ ∧ result.posteriorMargin = ⊤ ∨
    ∃ other : ℝ, result.runnerUpError = other ∧ 0 ≤ other - error ∧
      result.posteriorMargin = (other - error : ℝ)

/-- The masks of the loop are all but the empty one. -/
theorem mem_masks : mask ∈ (allMasks 8).tail ↔ mask ≠ 0 := by
  refine ⟨fun member => ?_, mem_allMasks_tail⟩
  rintro rfl
  have ascending := @allMasks_ascending 8
  rw [allMasks_eq_cons, List.pairwise_cons] at ascending
  exact lt_irrefl _ (ascending.1 0 member)

/-- No mask is searched twice. -/
theorem nodup_masks : (allMasks 8).tail.Nodup := by
  refine List.Pairwise.tail ((@allMasks_ascending 8).imp ?_)
  rintro lower higher below rfl
  exact lt_irrefl _ below

/-- The masks that the loop ranks are those that are admissible. -/
theorem mem_ranked (least : 1 ≤ query.minimumMemberCount) {key : ℕ} :
    (key, error) ∈ query.candidates Real.sqrt (allMasks 8).tail ↔
      ∃ mask, query.Admissible mask error ∧ mask.toNat = key := by
  rw [mem_candidates]
  refine exists_congr fun mask => ⟨?_, ?_⟩
  · rintro ⟨member, scored, same⟩
    exact ⟨(score_iff (mem_masks.mp member)).mp scored, same⟩
  · rintro ⟨admissible, same⟩
    have something : mask ≠ 0 := by
      rintro rfl
      exact absurd (least.trans admissible.size.1) (by decide)
    exact ⟨mem_masks.mpr something, (score_iff something).mpr admissible, same⟩

/-- The search over all masks ranks all of their candidates. -/
theorem ranks_search (query : Query ℝ) :
    Ranks (query.search Real.sqrt)
      ((query.candidates Real.sqrt (allMasks 8).tail).foldl Ranking.offer {}) := by
  have start : Ranks { (Classification.invalid : Classification ℝ) with
      error := ⊤, runnerUpError := ⊤, posteriorMargin := ⊤ } ({} : Ranking ℕ ℝ) :=
    ⟨rfl, rfl, rfl⟩
  exact start.search _

/-- The search is valid when some mask is admissible, and then reports the first of them. All masks
are tried in ascending order, so that the first one is the smallest. -/
theorem search_spec (least : 1 ≤ query.minimumMemberCount) :
    let best := query.search Real.sqrt
    (best.valid = true ↔ ∃ mask error, query.Admissible mask error) ∧
      (best.valid = true → ∃ error : ℝ, query.Admissible best.memberMask error ∧
        best.error = error ∧
        (∀ mask other, query.Admissible mask other →
          error ≤ other ∧ (other = error → best.memberMask.toNat ≤ mask.toNat)) ∧
        (∀ mask other, query.Admissible mask other → mask ≠ best.memberMask →
          best.runnerUpError ≤ other) ∧
        (best.runnerUpError = ⊤ ∨ ∃ mask other, query.Admissible mask other ∧
          mask ≠ best.memberMask ∧ best.runnerUpError = other)) := by
  intro best
  obtain ⟨runnerUp, first⟩ := ranks_search query
  have describes := Ranking.describes_offers
    (@nodup_candidates _ _ _ query Real.sqrt _ nodup_masks)
  generalize (query.candidates Real.sqrt (allMasks 8).tail).foldl Ranking.offer {} = ranking at *
  have ranked {mask : BitVec 8} {error : ℝ} (admissible : query.Admissible mask error) :
      (mask.toNat, error) ∈ query.candidates Real.sqrt (allMasks 8).tail :=
    (mem_ranked least).mpr ⟨mask, admissible, rfl⟩
  cases place : ranking.best with
  | none =>
      rw [place] at first
      have invalid : ¬ best.valid = true := by
        rw [show best.valid = false from first.1]
        exact Bool.false_ne_true
      refine ⟨⟨fun valid => absurd valid invalid, ?_⟩, fun valid => absurd valid invalid⟩
      rintro ⟨mask, error, admissible⟩
      have member := ranked admissible
      rw [describes.none place] at member
      exact absurd member List.not_mem_nil
  | some top =>
      obtain ⟨key, error⟩ := top
      rw [place] at first
      obtain ⟨valid, same, scored⟩ := first
      obtain ⟨member, unbeaten⟩ := describes.best _ place
      obtain ⟨mask, admissible, here⟩ := (mem_ranked least).mp member
      obtain rfl : mask = best.memberMask := BitVec.eq_of_toNat_eq (here.trans same.symm)
      refine ⟨⟨fun _ => ⟨_, error, admissible⟩, fun _ => valid⟩, fun _ => ⟨error, admissible,
        scored, ?_, ?_, ?_⟩⟩
      · intro mask other admissible
        have after := unbeaten _ (ranked admissible)
        rw [Ranking.Before, not_or, not_and] at after
        refine ⟨not_lt.mp after.1, fun equal => ?_⟩
        rw [here]
        exact not_lt.mp (after.2 equal)
      · intro mask other admissible apart
        refine runnerUp.trans_le (describes.least _ place _ (ranked admissible) fun same => ?_)
        exact apart (BitVec.eq_of_toNat_eq ((congrArg Prod.fst same).trans here.symm))
      · rcases describes.attained with top | ⟨first, chosen, ⟨key', other⟩, member, apart, attained⟩
        · exact .inl (runnerUp.trans top)
        · obtain ⟨mask, admissible, rfl⟩ := (mem_ranked least).mp member
          obtain rfl := Option.some.inj (place.symm.trans chosen)
          refine .inr ⟨mask, other, admissible, ?_, runnerUp.trans attained⟩
          rintro rfl
          exact apart (Prod.ext here (Admissible.unique ‹_› ‹_›))

/-- For every query, over the reals: the norms of the observation and the templates are the roots
of their energies; weights that are found solve the normal equations of the normalised templates,
and so leave the least error of all; the classification is valid just when the arguments are
accepted and some mask is admissible; and then it reports the first admissible mask of the least
error, the least error of the others, and the difference. -/
theorem classify_exact (query : Query ℝ) :
    (∀ value : UnisonSpectralFingerprint ℝ, finiteNonnegative value = true →
        stableL2Norm Real.sqrt value = √(energy value)) ∧
      (∀ mask weights, query.normalizedWeights Real.sqrt mask = some weights →
        (∀ member, LeastSquares.product (query.columns Real.sqrt mask member) (fun feature =>
            query.target Real.sqrt feature -
              LeastSquares.fitted (query.columns Real.sqrt mask) weights feature) = 0) ∧
          ∀ others, LeastSquares.squaredError (query.columns Real.sqrt mask)
              (query.target Real.sqrt) weights ≤
            LeastSquares.squaredError (query.columns Real.sqrt mask) (query.target Real.sqrt)
              others) ∧
      ((query.classify Real.sqrt).valid = true ↔
        query.Accepted ∧ ∃ mask error, query.Admissible mask error) ∧
      ((query.classify Real.sqrt).valid = true →
        ∃ error, query.Reports (query.classify Real.sqrt) error) := by
  refine ⟨fun value => stableL2Norm_eq, fun mask weights found => ?_, ?_⟩
  · have floored : (0 : ℝ) ≤ pivotFloor := by
      rw [pivotFloor]
      positivity
    have solves := LinearSystem.solves_of_solve floored found
    exact ⟨LeastSquares.product_residual solves, LeastSquares.squaredError_le solves⟩
  · have absurdly : ¬ (Classification.invalid : Classification ℝ).valid = true :=
      Bool.false_ne_true
    rw [classify]
    by_cases accepted : query.accepted Real.sqrt = true
    · have accepts := accepted_iff.mp accepted
      obtain ⟨valid_iff, reports⟩ := search_spec accepts.bounds.1
      rw [if_pos accepted]
      by_cases valid : (query.search Real.sqrt).valid = true
      · rw [if_pos valid]
        refine ⟨⟨fun _ => ⟨accepts, valid_iff.mp valid⟩, fun _ => valid⟩, fun _ => ?_⟩
        obtain ⟨error, admissible, scored, least, runnerUp_le, runnerUp_eq⟩ := reports valid
        refine ⟨error, admissible, scored, least, runnerUp_le, runnerUp_eq, ?_⟩
        dsimp only
        rw [scored, WithTop.untopD_coe]
        rcases runnerUp_eq with top | ⟨mask, other, fits, -, same⟩
        · exact .inl ⟨top, by rw [top]; rfl⟩
        · refine .inr ⟨other, same, sub_nonneg.mpr (least mask other fits).1, ?_⟩
          rw [same]
          rfl
      · rw [if_neg valid]
        exact ⟨⟨fun holds => absurd holds absurdly, fun both => absurd (valid_iff.mpr both.2) valid⟩,
          fun holds => absurd holds absurdly⟩
    · rw [if_neg accepted]
      exact ⟨⟨fun holds => absurd holds absurdly,
        fun both => absurd (accepted_iff.mpr both.1) accepted⟩, fun holds => absurd holds absurdly⟩

/-- A spectrum of one feature, another one for every string. -/
noncomputable def impulse (string : Fin maxVoices) : UnisonSpectralFingerprint ℝ := fun feature =>
  some (if feature.val = string.val then 1 else 0)

/-- The spectra of the first two strings together. -/
noncomputable def impulses : UnisonSpectralFingerprint ℝ := fun feature =>
  some (if feature.val < 2 then 1 else 0)

/-- Two to five strings, of which the first two fit what is observed. -/
noncomputable def fiveMembers : Query ℝ where
  observed := impulses
  templates := { fingerprint := impulse, validMask := 0xFF }
  playableMask := 0xFF
  minimumMemberCount := 2
  maximumMemberCount := 5
  consecutiveOnly := false

/-- The fingerprint with one feature is finite and non-negative. -/
theorem finiteNonnegative_impulse (string : Fin maxVoices) :
    finiteNonnegative (impulse string) = true := by
  refine finiteNonnegative_iff.mpr fun feature => ⟨rfl, ?_⟩
  change (0 : ℝ) ≤ if feature.val = string.val then 1 else 0
  split_ifs
  · exact zero_le_one
  · exact le_rfl

theorem finiteNonnegative_impulses : finiteNonnegative impulses = true := by
  refine finiteNonnegative_iff.mpr fun feature => ⟨rfl, ?_⟩
  change (0 : ℝ) ≤ if feature.val < 2 then 1 else 0
  split_ifs
  · exact zero_le_one
  · exact le_rfl

/-- The feature of a string. -/
def ownFeature (string : Fin maxVoices) : Fin unisonSpectralFeatureCount :=
  string.castLE (by decide)

/-- Such a fingerprint has one in its own feature and zero in the others. -/
theorem features_impulse (string : Fin maxVoices) (feature : Fin unisonSpectralFeatureCount) :
    features (impulse string) feature = if ownFeature string = feature then 1 else 0 :=
  if_congr (eq_comm.trans (Fin.ext_iff (a := ownFeature string)).symm) rfl rfl

/-- The product with a string's spectrum is what there is of its feature. -/
theorem sum_impulse (string : Fin maxVoices) (other : Fin unisonSpectralFeatureCount → ℝ) :
    ∑ feature, features (impulse string) feature * other feature = other (ownFeature string) := by
  rw [Finset.sum_congr rfl fun feature _ => by rw [features_impulse, ite_mul, one_mul, zero_mul]]
  rw [Finset.sum_ite_eq, if_pos (Finset.mem_univ _)]

/-- Every template of the example has norm one. -/
theorem templateNorm_fiveMembers (string : Fin maxVoices) :
    fiveMembers.templateNorm Real.sqrt string = 1 := by
  change stableL2Norm Real.sqrt (impulse string) = 1
  rw [stableL2Norm_eq (finiteNonnegative_impulse string), energy, sum_impulse, features_impulse,
    if_pos rfl, Real.sqrt_one]

/-- Its columns are the unit vectors of the members' features. -/
theorem columns_fiveMembers (mask : BitVec 8) (member : Fin (members mask).length) :
    fiveMembers.columns Real.sqrt mask member = features (impulse ((members mask).get member)) := by
  funext feature
  rw [columns, templateNorm_fiveMembers, div_one]
  rfl

/-- The norm of the first two spectra together. -/
theorem norm_impulses : 0 < stableL2Norm Real.sqrt impulses ∧
    stableL2Norm Real.sqrt impulses ≤ 102 := by
  have bounded : energy impulses ≤ 102 := by
    refine (Finset.sum_le_card_nsmul Finset.univ _ 1 fun feature _ => ?_).trans_eq ?_
    · change (if feature.val < 2 then (1 : ℝ) else 0) * (if feature.val < 2 then 1 else 0) ≤ 1
      split_ifs <;> norm_num
    · rw [Finset.card_univ, Fintype.card_fin, nsmul_one]
      norm_num [unisonSpectralFeatureCount]
  constructor
  · refine (stableL2Norm_pos_iff finiteNonnegative_impulses).mpr ⟨⟨0, by decide⟩, ?_⟩
    change (if 0 < 2 then (1 : ℝ) else 0) ≠ 0
    rw [if_pos two_pos]
    exact one_ne_zero
  · rw [stableL2Norm_eq finiteNonnegative_impulses, Real.sqrt_le_left (by norm_num)]
    exact bounded.trans (by norm_num)

/-- The templates of the first two strings fit with positive weights. -/
theorem normalizedWeights_fiveMembers :
    ∃ weights, fiveMembers.normalizedWeights Real.sqrt 3 = some weights ∧
      ∀ member, positiveWeightFloor < weights member := by
  have distinct : (members 3).Nodup := (List.nodup_finRange _).filter _
  have unit (row item : Fin (members 3).length) :
      (LeastSquares.normalSystem (fiveMembers.columns Real.sqrt 3)
        (fiveMembers.target Real.sqrt)).matrix row item = if row = item then 1 else 0 := by
    change LeastSquares.product (fiveMembers.columns Real.sqrt 3 row)
      (fiveMembers.columns Real.sqrt 3 item) = _
    rw [columns_fiveMembers, columns_fiveMembers, LeastSquares.product, sum_impulse,
      features_impulse]
    refine if_congr ?_ rfl rfl
    rw [ownFeature, ownFeature, Fin.castLE_inj, eq_comm]
    exact (List.nodup_iff_injective_get.mp distinct).eq_iff
  have small : (pivotFloor : ℝ) < 1 := by norm_num [pivotFloor]
  refine ⟨_, LinearSystem.solve_of_unit unit small, fun member => ?_⟩
  change _ < LeastSquares.product (fiveMembers.columns Real.sqrt 3 member)
    (fiveMembers.target Real.sqrt)
  rw [columns_fiveMembers, LeastSquares.product, sum_impulse]
  have first : ∀ member : Fin (members 3).length, ((members 3).get member).val < 2 := by decide
  obtain ⟨positive, bounded⟩ := norm_impulses
  change _ < (if ((members 3).get member).val < 2 then (1 : ℝ) else 0) / stableL2Norm Real.sqrt impulses
  rw [if_pos (first member), lt_div_iff₀ positive, positiveWeightFloor]
  norm_num
  linarith

/-- The first two strings fit what is observed, but up to five strings are refused. -/
theorem classify_refuses_fiveMembers :
    (∃ mask error, fiveMembers.Admissible mask error) ∧
      (fiveMembers.classify Real.sqrt).valid = false := by
  constructor
  · obtain ⟨weights, found, positive⟩ := normalizedWeights_fiveMembers
    refine ⟨3, _, ⟨by decide, by decide⟩, by decide, fun string _ => ?_,
      fun asked => Bool.noConfusion asked, weights, found, positive, rfl⟩
    refine ⟨finiteNonnegative_impulse string, ownFeature string, ?_⟩
    change features (impulse string) (ownFeature string) ≠ 0
    rw [features_impulse, if_pos rfl]
    exact one_ne_zero
  · have refused : ¬ fiveMembers.accepted Real.sqrt = true := fun accepted =>
      absurd (accepted_iff.mp accepted).bounds.2.2 (by decide)
    rw [classify, if_neg refused]
    rfl

end Exact

end Query

end UnisonClassifier

end M3Midi
