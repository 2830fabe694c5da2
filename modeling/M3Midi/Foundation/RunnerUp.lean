import Mathlib.Data.List.Basic
import Mathlib.Data.List.Induction
import Mathlib.Order.WithBot

/-! # The best and the second best in one pass

Candidates are offered one after the other. The best one so far is kept, and the smallest
score among all others; a new best one passes its score on to them
(`M3Midi.Foundation.Ranking.describes_offers`).
-/

namespace M3Midi.Foundation

/-- The best candidate so far, and the smallest score of the others. It is what a search keeps that
reports how far its best result leads. -/
structure Ranking (Key Score : Type*) where
  best : Option (Key × Score) := none
  runnerUp : WithTop Score := ⊤

namespace Ranking

variable {Key Score : Type*} [LinearOrder Key] [LinearOrder Score]

/-- A candidate goes before another one by its score, or by its key among equals. -/
def Before (one two : Key × Score) : Prop := one.2 < two.2 ∨ one.2 = two.2 ∧ one.1 < two.1

/-- The comparison of two candidates can be computed. -/
instance (one two : Key × Score) : Decidable (Before one two) :=
  inferInstanceAs (Decidable (_ ∨ _))

/-- A candidate takes the first place, or is one of the others. -/
def offer (ranking : Ranking Key Score) (candidate : Key × Score) : Ranking Key Score :=
  match ranking.best with
  | none => { ranking with best := some candidate }
  | some best =>
      if Before candidate best then ⟨some candidate, min ranking.runnerUp best.2⟩
      else ⟨some best, min ranking.runnerUp candidate.2⟩

/-- The ranking of some candidates: the first of them, and the smallest score of the others. -/
structure Describes (ranking : Ranking Key Score) (candidates : List (Key × Score)) : Prop where
  none : ranking.best = none → candidates = []
  best : ∀ best, ranking.best = some best →
    best ∈ candidates ∧ ∀ other ∈ candidates, ¬ Before other best
  least : ∀ best, ranking.best = some best → ∀ other ∈ candidates, other ≠ best →
    ranking.runnerUp ≤ other.2
  attained : ranking.runnerUp = ⊤ ∨ ∃ best, ranking.best = some best ∧
    ∃ other ∈ candidates, other ≠ best ∧ ranking.runnerUp = other.2

/-- What is not ahead of one candidate is not ahead of a better one. -/
theorem not_before_trans {one two three : Key × Score} (before : Before two one)
    (after : ¬ Before three one) : ¬ Before three two := by
  rintro (less | ⟨same, less⟩)
  · rcases before with below | ⟨alike, -⟩
    · exact after (.inl (less.trans below))
    · exact after (.inl (alike ▸ less))
  · rcases before with below | ⟨alike, under⟩
    · exact after (.inl (same ▸ below))
    · exact after (.inr ⟨same.trans alike, less.trans under⟩)

/-- No candidate is ahead of itself. -/
theorem not_before_self (candidate : Key × Score) : ¬ Before candidate candidate := by
  rintro (less | ⟨-, less⟩)
  · exact lt_irrefl _ less
  · exact lt_irrefl _ less

variable {ranking : Ranking Key Score} {candidates : List (Key × Score)} {candidate : Key × Score}

/-- One more candidate, which was not there before. It comes first, or becomes the runner-up, or
changes nothing, by its score. -/
theorem Describes.offer (describes : ranking.Describes candidates)
    (new : candidate ∉ candidates) :
    (ranking.offer candidate).Describes (candidates ++ [candidate]) := by
  rw [Ranking.offer]
  cases first : ranking.best with
  | none =>
      have empty := describes.none first
      subst empty
      have only {other : Key × Score} (member : other ∈ [] ++ [candidate]) : other = candidate :=
        List.mem_singleton.mp member
      constructor
      · exact fun absent => absurd absent (Option.some_ne_none _)
      · rintro best same
        obtain rfl := Option.some.inj same
        refine ⟨List.mem_singleton_self _, fun other member => ?_⟩
        rw [only member]
        exact not_before_self _
      · rintro best same other member differs
        obtain rfl := Option.some.inj same
        exact absurd (only member) differs
      · refine .inl ?_
        rcases describes.attained with top | ⟨best, present, -⟩
        · exact top
        · exact absurd (first.symm.trans present) (Option.some_ne_none _).symm
  | some best =>
      obtain ⟨bestMember, bestFirst⟩ := describes.best best first
      have differs : candidate ≠ best := fun same => new (same ▸ bestMember)
      have least := describes.least best first
      have attained : ranking.runnerUp = ⊤ ∨
          ∃ other ∈ candidates, other ≠ best ∧ ranking.runnerUp = other.2 := by
        refine describes.attained.imp_right ?_
        rintro ⟨same, present, other⟩
        obtain rfl := Option.some.inj (present.symm.trans first)
        exact other
      dsimp only
      by_cases before : Before candidate best
      · rw [if_pos before]
        constructor
        · exact fun absent => absurd absent (Option.some_ne_none _)
        · rintro chosen same
          obtain rfl := Option.some.inj same
          refine ⟨List.mem_append_right _ (List.mem_singleton_self _), fun other member => ?_⟩
          rcases List.mem_append.mp member with earlier | last
          · exact not_before_trans before (bestFirst other earlier)
          · rw [List.mem_singleton.mp last]
            exact not_before_self _
        · rintro chosen same other member other_ne
          obtain rfl := Option.some.inj same
          rcases List.mem_append.mp member with earlier | last
          · rcases eq_or_ne other best with rfl | apart
            · exact min_le_right _ _
            · exact (min_le_left _ _).trans (least other earlier apart)
          · exact absurd (List.mem_singleton.mp last) other_ne
        · refine .inr ⟨candidate, rfl, ?_⟩
          rcases attained with top | ⟨other, member, -, score⟩
          · refine ⟨best, List.mem_append_left _ bestMember, differs.symm, ?_⟩
            rw [top]
            exact min_eq_right le_top
          · rcases le_total ranking.runnerUp (best.2 : WithTop Score) with below | above
            · refine ⟨other, List.mem_append_left _ member, fun same => new (same ▸ member), ?_⟩
              rw [min_eq_left below, score]
            · exact ⟨best, List.mem_append_left _ bestMember, differs.symm, min_eq_right above⟩
      · rw [if_neg before]
        constructor
        · exact fun absent => absurd absent (Option.some_ne_none _)
        · rintro chosen same
          obtain rfl := Option.some.inj same
          refine ⟨List.mem_append_left _ bestMember, fun other member => ?_⟩
          rcases List.mem_append.mp member with earlier | last
          · exact bestFirst other earlier
          · rw [List.mem_singleton.mp last]
            exact before
        · rintro chosen same other member other_ne
          obtain rfl := Option.some.inj same
          rcases List.mem_append.mp member with earlier | last
          · exact (min_le_left _ _).trans (least other earlier other_ne)
          · rw [List.mem_singleton.mp last]
            exact min_le_right _ _
        · refine .inr ⟨best, rfl, ?_⟩
          rcases attained with top | ⟨other, member, apart, score⟩
          · refine ⟨candidate, List.mem_append_right _ (List.mem_singleton_self _), differs, ?_⟩
            rw [top]
            exact min_eq_right le_top
          · rcases le_total ranking.runnerUp (candidate.2 : WithTop Score) with below | above
            · refine ⟨other, List.mem_append_left _ member, apart, ?_⟩
              rw [min_eq_left below, score]
            · exact ⟨candidate, List.mem_append_right _ (List.mem_singleton_self _), differs,
                min_eq_right above⟩

/-- After distinct candidates the ranking describes them. -/
theorem describes_offers (distinct : candidates.Nodup) :
    (candidates.foldl Ranking.offer {}).Describes candidates := by
  induction candidates using List.reverseRecOn with
  | nil =>
      exact
        { none := fun _ => rfl
          best := fun best same => absurd same (Option.some_ne_none best).symm
          least := fun best same => absurd same (Option.some_ne_none best).symm
          attained := .inl rfl }
  | append_singleton candidates candidate ih =>
      obtain ⟨before, -, apart⟩ := List.nodup_append.mp distinct
      rw [List.foldl_concat]
      exact (ih before).offer fun member => apart candidate member candidate
        (List.mem_singleton_self _) rfl

end Ranking

end M3Midi.Foundation
