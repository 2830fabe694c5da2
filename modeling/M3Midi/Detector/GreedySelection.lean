import M3Midi.Detector.DecisionEvidence

/-! # The selection of the general profile

Without strings to tell notes apart, the candidates that sound come first, in ascending
order, and then the strongest peaks that are not harmonics of what has been selected, until
the voices are used up (`M3Midi.GreedySelector.select_greedy`).
-/

namespace M3Midi

open Foundation ProposalTable

/-- What the selection of the general profile looks at. Scores are compared and nothing else is
done to them, so that they may come from any numbers. -/
structure GreedySelector (count : ℕ) where
  scores : Fin count → ℚ
  fundamentals : Fin count → ℚ
  active : Fin count → Bool
  threshold : ℚ
  maxPolyphony : ℕ

namespace GreedySelector

variable {count : ℕ} (selector : GreedySelector count)

/-- The loop over the candidates that sound. -/
def retained : List (Fin count) :=
  (List.finRange count).foldl (fun selected candidate =>
    if selector.active candidate && selector.threshold < selector.scores candidate &&
        selected.length < selector.maxPolyphony then
      selected ++ [candidate]
    else selected) []

/-- The candidate is a harmonic of one that has been selected. -/
def shadowed (selected : List (Fin count)) (candidate : Fin count) : Bool :=
  selected.any (isHarmonicShadow selector.fundamentals candidate)

/-- The candidate may be selected next. -/
def admits (selected : List (Fin count)) (candidate : Fin count) : Bool :=
  !selected.contains candidate && selector.threshold < selector.scores candidate &&
    isLocalPeak selector.scores candidate && !selector.shadowed selected candidate

/-- One candidate has the greater score. -/
def stronger (candidate other : Fin count) : Bool :=
  selector.scores other < selector.scores candidate

/-- The strongest candidate that may be selected next. -/
def bestCandidate (selected : List (Fin count)) : Option (Fin count) :=
  pick (selector.admits selected) selector.stronger (List.finRange count)

/-- The loop that selects while there are voices left. -/
def fill : ℕ → List (Fin count) → List (Fin count)
  | 0, selected => selected
  | voices + 1, selected =>
      match selector.bestCandidate selected with
      | none => selected
      | some best => fill voices (selected ++ [best])

/-- The candidates in the order in which they are selected. -/
def select : List (Fin count) :=
  selector.fill (selector.maxPolyphony - selector.retained.length) selector.retained

variable {selector}

/-- The comparison of scores keeps the stronger candidate. -/
theorem keeps_stronger : Keeps selector.stronger where
  not_self candidate := decide_eq_false (lt_irrefl _)
  kept newer older candidate better unbeaten := by
    have rises := of_decide_eq_true better
    have stays := of_decide_eq_false unbeaten
    exact decide_eq_false (not_lt.mpr ((not_lt.mp stays).trans rises.le))

/-- The conditions on a candidate to be selected next. -/
theorem admits_iff {selected : List (Fin count)} {candidate : Fin count} :
    selector.admits selected candidate = true ↔
      candidate ∉ selected ∧ selector.threshold < selector.scores candidate ∧
        isLocalPeak selector.scores candidate = true ∧
        ∀ other ∈ selected, isHarmonicShadow selector.fundamentals candidate other = false := by
  simp only [admits, shadowed, Bool.and_eq_true, Bool.not_eq_true', decide_eq_true_eq, and_assoc,
    ← Bool.not_eq_true, List.contains_iff_mem, List.any_eq_true, not_exists, not_and]

/-- The next candidate is admitted, and the strongest of those that are. -/
theorem bestCandidate_spec {selected : List (Fin count)} {best : Fin count}
    (found : selector.bestCandidate selected = some best) :
    selector.admits selected best = true ∧
      ∀ other, selector.admits selected other = true →
        selector.scores other ≤ selector.scores best := by
  refine ⟨(of_pick_eq_some found).2, ?_⟩
  intro other admitted
  have unbeaten := unbeaten_of_pick_eq_some keeps_stronger found (List.mem_finRange other) admitted
  exact not_lt.mp (of_decide_eq_false unbeaten)

/-- Where there is no best candidate, none may be selected. -/
theorem bestCandidate_eq_none {selected : List (Fin count)}
    (none : selector.bestCandidate selected = none) (candidate : Fin count) :
    selector.admits selected candidate = false := by
  apply Bool.eq_false_iff.mpr
  intro admitted
  exact pick_ne_none (List.mem_finRange candidate) admitted none

/-- A candidate that sounds and is above the threshold. -/
def sustained (selector : GreedySelector count) (candidate : Fin count) : Bool :=
  selector.active candidate && selector.threshold < selector.scores candidate

/-- The first of the candidates that sound are retained, as many as there are voices. -/
theorem retained_eq : selector.retained =
    ((List.finRange count).filter selector.sustained).take selector.maxPolyphony := by
  unfold retained
  induction List.finRange count using List.reverseRecOn with
  | nil => rw [List.filter_nil, List.take_nil, List.foldl_nil]
  | append_singleton candidates last ih =>
      rw [List.foldl_append, List.foldl_cons, List.foldl_nil, ih, List.filter_append,
        List.length_take]
      cases sounds : selector.sustained last with
      | false =>
          have silent : ¬ (selector.active last &&
              decide (selector.threshold < selector.scores last) &&
              decide (min selector.maxPolyphony
                (candidates.filter selector.sustained).length < selector.maxPolyphony)) = true := by
            unfold sustained at sounds
            rw [sounds, Bool.false_and]
            exact Bool.false_ne_true
          rw [if_neg silent, List.filter_cons_of_neg (by rw [sounds]; exact Bool.false_ne_true),
            List.filter_nil, List.append_nil]
      | true =>
          unfold sustained at sounds
          rw [sounds, Bool.true_and, List.filter_cons_of_pos (by unfold sustained; exact sounds),
            List.filter_nil]
          by_cases room : (candidates.filter selector.sustained).length < selector.maxPolyphony
          · rw [if_pos (by rw [decide_eq_true_eq]; omega), List.take_of_length_le room.le,
              List.take_of_length_le]
            rw [List.length_append, List.length_singleton]
            exact room
          · rw [if_neg (by rw [decide_eq_true_eq]; omega),
              List.take_append_of_le_length (not_lt.mp room)]

/-- Selected candidates: those that were retained, and then each in turn the strongest one
that could be selected. -/
inductive Greedy (selector : GreedySelector count) : List (Fin count) → Prop
  | retained : Greedy selector selector.retained
  | next {selected : List (Fin count)} {best : Fin count} (greedy : Greedy selector selected)
      (admitted : selector.admits selected best = true)
      (strongest : ∀ other, selector.admits selected other = true →
        selector.scores other ≤ selector.scores best) :
      Greedy selector (selected ++ [best])

/-- A retained candidate is active and above the threshold. -/
theorem mem_retained {candidate : Fin count} (member : candidate ∈ selector.retained) :
    selector.active candidate = true ∧ selector.threshold < selector.scores candidate := by
  rw [retained_eq] at member
  have kept := (List.mem_filter.mp (List.mem_of_mem_take member)).2
  unfold sustained at kept
  rw [Bool.and_eq_true, decide_eq_true_eq] at kept
  exact kept

/-- Every selected candidate is above the threshold. -/
theorem Greedy.above {selected : List (Fin count)} (greedy : selector.Greedy selected)
    {candidate : Fin count} (member : candidate ∈ selected) :
    selector.threshold < selector.scores candidate := by
  induction greedy with
  | retained => exact (mem_retained member).2
  | next earlier admitted strongest ih =>
      rcases List.mem_append.mp member with before | last
      · exact ih before
      · obtain rfl := List.mem_singleton.mp last
        exact (admits_iff.mp admitted).2.1

/-- No candidate is selected twice. -/
theorem Greedy.nodup {selected : List (Fin count)} (greedy : selector.Greedy selected) :
    selected.Nodup := by
  induction greedy with
  | retained =>
      rw [retained_eq]
      exact ((List.nodup_finRange count).filter _).sublist (List.take_sublist _ _)
  | next earlier admitted strongest ih =>
      apply List.Nodup.append ih (List.nodup_singleton _)
      rw [List.disjoint_singleton]
      exact (admits_iff.mp admitted).1

/-- The loop that fills the voices goes on until they are used up or nothing is admitted. -/
theorem fill_spec {selected : List (Fin count)} (greedy : selector.Greedy selected) (voices : ℕ) :
    selector.Greedy (selector.fill voices selected) ∧
      selected <+: selector.fill voices selected ∧
      (selector.fill voices selected).length ≤ selected.length + voices ∧
      ((selector.fill voices selected).length = selected.length + voices ∨
        ∀ candidate, selector.admits (selector.fill voices selected) candidate = false) := by
  induction voices generalizing selected with
  | zero => exact ⟨greedy, List.prefix_rfl, le_rfl, .inl rfl⟩
  | succ voices ih =>
      rw [fill]
      cases found : selector.bestCandidate selected with
      | none =>
          refine ⟨greedy, List.prefix_rfl, Nat.le_add_right _ _, .inr ?_⟩
          intro candidate
          exact bestCandidate_eq_none found candidate
      | some best =>
          obtain ⟨admitted, strongest⟩ := bestCandidate_spec found
          obtain ⟨later, starts, most, ends⟩ := ih (greedy.next admitted strongest)
          rw [List.length_append, List.length_singleton, Nat.add_assoc, Nat.add_comm 1] at most ends
          exact ⟨later, (List.prefix_append _ _).trans starts, most, ends⟩

/-- No more candidates are retained than there may be voices. -/
theorem retained_length_le : selector.retained.length ≤ selector.maxPolyphony := by
  rw [retained_eq, List.length_take]
  exact Nat.min_le_left _ _

/-- **The greedy selection.** No more candidates are selected than there are voices, each once
and above the threshold. The candidates that sound come first, in ascending order, and none is
left out while there are voices; then each is the strongest local peak that is not a harmonic
of those before it. Where voices are left over, every other candidate above the threshold is
no local peak or a harmonic of a selected one. -/
theorem select_greedy (selector : GreedySelector count) :
    selector.Greedy selector.select ∧ selector.select.length ≤ selector.maxPolyphony ∧
      selector.select.Nodup ∧
      ((List.finRange count).filter selector.sustained).take selector.maxPolyphony <+:
        selector.select ∧
      (∀ candidate ∈ selector.select, selector.threshold < selector.scores candidate) ∧
      (selector.select.length < selector.maxPolyphony → ∀ candidate ∉ selector.select,
        selector.threshold < selector.scores candidate →
          isLocalPeak selector.scores candidate = false ∨
            ∃ other ∈ selector.select,
              isHarmonicShadow selector.fundamentals candidate other = true) := by
  have bound := @retained_length_le count selector
  obtain ⟨greedy, starts, most, ends⟩ := @fill_spec count selector _ .retained
    (selector.maxPolyphony - selector.retained.length)
  rw [Nat.add_sub_cancel' bound] at most ends
  rw [← retained_eq]
  refine ⟨greedy, most, greedy.nodup, starts, fun candidate member => greedy.above member, ?_⟩
  intro room candidate outside above
  rcases ends with full | stopped
  · exact absurd full (Nat.ne_of_lt room)
  · have refused := mt admits_iff.mpr (Bool.eq_false_iff.mp (stopped candidate))
    by_cases peak : isLocalPeak selector.scores candidate = true
    · right
      by_contra clear
      push Not at clear
      refine refused ⟨outside, above, peak, ?_⟩
      intro other member
      exact Bool.eq_false_iff.mpr (clear other member)
    · exact .inl (Bool.eq_false_iff.mpr peak)

/-- A candidate that sounds stays selected while it is above the threshold, as long as no more
candidates sound than there are voices. -/
theorem mem_select_of_active {selector : GreedySelector count}
    (few : ((List.finRange count).filter selector.active).length ≤ selector.maxPolyphony)
    {candidate : Fin count} (sounds : selector.active candidate = true)
    (above : selector.threshold < selector.scores candidate) : candidate ∈ selector.select := by
  have starts := (@fill_spec count selector _ .retained
    (selector.maxPolyphony - selector.retained.length)).2.1
  apply starts.subset
  have fewer : ((List.finRange count).filter selector.sustained).length ≤
      selector.maxPolyphony := by
    refine le_trans (List.Sublist.length_le ?_) few
    apply List.monotone_filter_right
    intro other both
    unfold sustained at both
    exact (Bool.and_eq_true_iff.mp both).1
  rw [retained_eq, List.take_of_length_le fewer]
  apply List.mem_filter.mpr
  refine ⟨List.mem_finRange candidate, ?_⟩
  unfold sustained
  rw [sounds, decide_eq_true above, Bool.and_self]

end GreedySelector

end M3Midi
