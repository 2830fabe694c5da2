import Mathlib.Data.List.Infix

/-! # The first time in a run

A run grows at its end, and a property of runs holds for the first time at a run when it holds
of no shorter beginning. Two properties that agree as long as one of them has not held yet hold
for the first time at the same runs (`M3Midi.Foundation.firstAt_congr`).
-/

namespace M3Midi.Foundation

variable {Item : Type*}

/-- A property holds of a list and of no shorter part of its beginning. -/
def FirstAt (property : List Item → Prop) (items : List Item) : Prop :=
  property items ∧
    ∀ earlier, earlier ≠ [] → earlier <+: items → earlier ≠ items → ¬ property earlier

/-- A part of a list that ends earlier is a part of the list without its last item. -/
theorem prefix_of_ne_concat {earlier items : List Item} {item : Item}
    (within : earlier <+: items ++ [item]) (proper : earlier ≠ items ++ [item]) :
    earlier <+: items :=
  (List.prefix_concat_iff.mp within).resolve_left proper

/-- Two properties that agree wherever the first has not held before hold first at the same
place. -/
theorem firstAt_congr {first second : List Item → Prop} {all : List Item}
    (agree : ∀ items item, items ++ [item] <+: all →
      (∀ earlier, earlier ≠ [] → earlier <+: items → ¬ first earlier) →
      (first (items ++ [item]) ↔ second (items ++ [item])))
    (some : all ≠ []) : FirstAt first all ↔ FirstAt second all := by
  have none : ∀ items, items <+: all →
      ((∀ earlier, earlier ≠ [] → earlier <+: items → ¬ first earlier) ↔
        ∀ earlier, earlier ≠ [] → earlier <+: items → ¬ second earlier) := by
    intro items
    induction items using List.reverseRecOn with
    | nil =>
        intro _
        exact ⟨fun _ earlier nonempty within => absurd (List.prefix_nil.mp within) nonempty,
          fun _ earlier nonempty within => absurd (List.prefix_nil.mp within) nonempty⟩
    | append_singleton items item ih =>
        intro within
        have before := ih ((List.prefix_append items [item]).trans within)
        constructor
        · intro never earlier nonempty part
          have shorter := fun earlier nonempty part =>
            never earlier nonempty (List.IsPrefix.trans part (List.prefix_append items [item]))
          rcases List.prefix_concat_iff.mp part with rfl | part
          · rw [← agree items item within shorter]
            exact never _ nonempty List.prefix_rfl
          · exact before.mp shorter earlier nonempty part
        · intro never earlier nonempty part
          have shorter := before.mpr fun earlier nonempty part =>
            never earlier nonempty (List.IsPrefix.trans part (List.prefix_append items [item]))
          rcases List.prefix_concat_iff.mp part with rfl | part
          · rw [agree items item within shorter]
            exact never _ nonempty List.prefix_rfl
          · exact shorter earlier nonempty part
  obtain ⟨items, item, rfl⟩ := List.eq_nil_or_concat' all |>.resolve_left some
  have before := none items (List.prefix_append items [item])
  have proper : ∀ property : List Item → Prop,
      FirstAt property (items ++ [item]) ↔ property (items ++ [item]) ∧
        ∀ earlier, earlier ≠ [] → earlier <+: items → ¬ property earlier := by
    refine fun property => and_congr_right fun _ => ⟨fun never earlier nonempty part => ?_,
      fun never earlier nonempty part shorter =>
        never earlier nonempty (prefix_of_ne_concat part shorter)⟩
    refine never earlier nonempty (part.trans (List.prefix_append items [item])) fun same => ?_
    have longer := part.length_le
    rw [same, List.length_append, List.length_singleton] at longer
    omega
  rw [proper first, proper second]
  constructor
  · rintro ⟨holds, never⟩
    exact ⟨(agree items item List.prefix_rfl never).mp holds, before.mp never⟩
  · rintro ⟨holds, never⟩
    have never := before.mpr never
    exact ⟨(agree items item List.prefix_rfl never).mpr holds, never⟩

end M3Midi.Foundation
