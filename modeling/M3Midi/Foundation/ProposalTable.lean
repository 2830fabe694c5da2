import Mathlib.Data.List.Basic
import Mathlib.Data.List.Induction
import Mathlib.Logic.Function.Basic
import Mathlib.Order.Lattice

/-! # Tables that keep the better proposal

A table holds one value for each cell, and a proposal replaces the value of its
cell when it beats it. After a list of proposals every value is an old one or a
proposed one, and no proposal beats the value of its cell. A sweep visits cells
and proposes what their values lead to; when no visited cell has been proposed to
before its visit, it is the list of the proposals that the old values lead to
(`M3Midi.Foundation.ProposalTable.sweep_eq`), although it works in place.
-/

namespace M3Midi.Foundation.ProposalTable

variable {Cell Value : Type*}

/-- One value for each cell. -/
@[ext] structure ValueTable (Cell Value : Type*) where
  value : Cell → Value

/-- What a comparison needs for tables to keep the better value: nothing beats itself,
and what does not beat a value does not beat one that beats it either. -/
structure Keeps (beats : Value → Value → Bool) : Prop where
  not_self : ∀ value, beats value value = false
  kept : ∀ newer older value, beats newer older = true → beats value older = false →
    beats value newer = false

/-- The last of the items that beats the ones kept before it. -/
def strongest {Item : Type*} (beats : Item → Item → Bool) (start : Item) (items : List Item) :
    Item :=
  items.foldl (fun best item => if beats item best then item else best) start

section Strongest

variable {beats : Value → Value → Bool}

/-- The strongest is the start or one of the items. -/
theorem strongest_mem (start : Value) (items : List Value) :
    strongest beats start items = start ∨ strongest beats start items ∈ items := by
  induction items generalizing start with
  | nil => exact .inl rfl
  | cons item items ih =>
      rw [strongest, List.foldl_cons]
      rcases ih (if beats item start then item else start) with same | member
      · rw [strongest] at same
        rw [same]
        split_ifs
        · exact .inr List.mem_cons_self
        · exact .inl rfl
      · exact .inr (List.mem_cons_of_mem item member)

/-- What does not beat the start does not beat the strongest item. -/
theorem strongest_kept (keeps : Keeps beats) {start value : Value} {items : List Value}
    (unbeaten : beats value start = false) :
    beats value (strongest beats start items) = false := by
  induction items generalizing start with
  | nil => exact unbeaten
  | cons item items ih =>
      rw [strongest, List.foldl_cons]
      refine ih ?_
      split_ifs with better
      · exact keeps.kept item start value better unbeaten
      · exact unbeaten

/-- No item beats the strongest one. -/
theorem strongest_beats (keeps : Keeps beats) {start value : Value} {items : List Value}
    (member : value ∈ items) : beats value (strongest beats start items) = false := by
  induction items generalizing start with
  | nil => cases member
  | cons item items ih =>
      rcases List.mem_cons.mp member with rfl | later
      · rw [strongest, List.foldl_cons]
        refine strongest_kept keeps ?_
        split_ifs with better
        · exact keeps.not_self value
        · exact Bool.eq_false_iff.mpr better
      · exact ih later

/-- The strongest item is the start, or it beats the strongest of the items before it. -/
theorem strongest_split (start : Value) (items : List Value) :
    strongest beats start items = start ∨ ∃ before after,
      items = before ++ strongest beats start items :: after ∧
        beats (strongest beats start items) (strongest beats start before) = true := by
  induction items using List.reverseRecOn with
  | nil => exact .inl rfl
  | append_singleton items last ih =>
      have step : strongest beats start (items ++ [last]) =
          if beats last (strongest beats start items) then last
          else strongest beats start items := by
        rw [strongest, List.foldl_append]
        rfl
      rw [step]
      split_ifs with better
      · exact .inr ⟨items, [], rfl, better⟩
      · refine ih.imp_right ?_
        rintro ⟨before, after, split, beaten⟩
        refine ⟨before, after ++ [last], ?_, beaten⟩
        rw [← List.cons_append, ← List.append_assoc, ← split]

end Strongest

section Worth

variable {Worth : Type*} [LinearOrder Worth] {worth : Value → Worth} {better : Value → Value → Bool}

/-- A value replaces a worse one, or none. -/
def beatsOption (better : Value → Value → Bool) : Option Value → Option Value → Bool
  | none, _ => false
  | some _, none => true
  | some value, some kept => better value kept

/-- A comparison by worth keeps the better value, also against no value at all. -/
theorem keeps_beatsOption
    (better_iff : ∀ value kept, better value kept = true ↔ worth kept < worth value) :
    Keeps (beatsOption better) where
  not_self value := by
    cases value with
    | none => rfl
    | some value =>
        refine Bool.eq_false_iff.mpr fun itself => ?_
        exact lt_irrefl _ ((better_iff value value).mp itself)
  kept newer older value replaces unbeaten := by
    cases value with
    | none => rfl
    | some value =>
        cases newer with
        | none => exact nomatch replaces
        | some newer =>
            cases older with
            | none => exact nomatch unbeaten
            | some older =>
                refine Bool.eq_false_iff.mpr fun beaten => ?_
                have first := (better_iff newer older).mp replaces
                have second := (better_iff value newer).mp beaten
                refine absurd ((better_iff value older).mpr (lt_trans first second)) ?_
                exact Bool.eq_false_iff.mp unbeaten

/-- What a value does not beat is a value worth as much. -/
theorem le_of_unbeaten
    (better_iff : ∀ value kept, better value kept = true ↔ worth kept < worth value)
    {value : Value} {kept : Option Value} (unbeaten : beatsOption better (some value) kept = false) :
    ∃ found, kept = some found ∧ worth value ≤ worth found := by
  cases kept with
  | none => exact nomatch unbeaten
  | some found =>
      refine ⟨found, rfl, not_lt.mp fun less => ?_⟩
      exact Bool.eq_false_iff.mp unbeaten ((better_iff value found).mpr less)

end Worth

/-- The last admitted item that beats the ones picked before it. -/
def pick {Item : Type*} (admits : Item → Bool) (beats : Item → Item → Bool) (items : List Item) :
    Option Item :=
  items.foldl (fun picked item =>
    if admits item && picked.all (beats item) then some item else picked) none

/-- What is picked is an admitted item. -/
theorem of_pick_eq_some {Item : Type*} {admits : Item → Bool} {beats : Item → Item → Bool}
    {items : List Item} {item : Item} (picked : pick admits beats items = some item) :
    item ∈ items ∧ admits item = true := by
  induction items using List.reverseRecOn with
  | nil => exact nomatch picked
  | append_singleton items last ih =>
      rw [pick, List.foldl_append, List.foldl_cons, List.foldl_nil] at picked
      split_ifs at picked with found
      · obtain rfl := Option.some.inj picked
        refine ⟨List.mem_append_right _ (List.mem_singleton_self last), ?_⟩
        exact (Bool.and_eq_true_iff.mp found).1
      · obtain ⟨member, admitted⟩ := ih picked
        exact ⟨List.mem_append_left _ member, admitted⟩

/-- Something is picked as soon as an item is admitted. -/
theorem pick_ne_none {Item : Type*} {admits : Item → Bool} {beats : Item → Item → Bool}
    {items : List Item} {item : Item} (member : item ∈ items) (admitted : admits item = true) :
    pick admits beats items ≠ none := by
  induction items using List.reverseRecOn with
  | nil => cases member
  | append_singleton items last ih =>
      rw [pick, List.foldl_append, List.foldl_cons, List.foldl_nil]
      change (if admits last && (pick admits beats items).all (beats last) then some last
        else pick admits beats items) ≠ none
      rcases List.mem_append.mp member with earlier | same
      · split_ifs with found
        · exact Option.some_ne_none last
        · exact ih earlier
      · obtain rfl := List.mem_singleton.mp same
        cases before : pick admits beats items with
        | none =>
            rw [admitted, Option.all_none, Bool.and_self, if_pos rfl]
            exact Option.some_ne_none _
        | some kept =>
            split_ifs
            · exact Option.some_ne_none _
            · exact Option.some_ne_none _

/-- No admitted item beats the one that is picked. -/
theorem unbeaten_of_pick_eq_some {admits : Value → Bool} {beats : Value → Value → Bool}
    (keeps : Keeps beats) {items : List Value} {item : Value}
    (picked : pick admits beats items = some item) {other : Value} (member : other ∈ items)
    (admitted : admits other = true) : beats other item = false := by
  induction items using List.reverseRecOn generalizing item with
  | nil => cases member
  | append_singleton items last ih =>
      rw [pick, List.foldl_append, List.foldl_cons, List.foldl_nil] at picked
      change (if admits last && (pick admits beats items).all (beats last) then some last
        else pick admits beats items) = some item at picked
      rcases List.mem_append.mp member with earlier | same
      · split_ifs at picked with found
        · obtain rfl := Option.some.inj picked
          cases before : pick admits beats items with
          | none =>
              exfalso
              exact pick_ne_none earlier admitted before
          | some kept =>
              rw [before, Bool.and_eq_true_iff] at found
              exact keeps.kept last kept other found.2 (ih before earlier)
        · exact ih picked earlier
      · obtain rfl := List.mem_singleton.mp same
        split_ifs at picked with found
        · obtain rfl := Option.some.inj picked
          exact keeps.not_self _
        · rw [admitted, Bool.true_and, picked, Option.all_some] at found
          exact Bool.eq_false_iff.mpr found

variable [DecidableEq Cell] (beats : Value → Value → Bool)

/-- A table with a new value in one cell. -/
def ValueTable.set (table : ValueTable Cell Value) (cell : Cell) (value : Value) :
    ValueTable Cell Value :=
  ⟨Function.update table.value cell value⟩

/-- A proposal replaces the value of its cell when it beats it. -/
def propose (table : ValueTable Cell Value) (proposal : Cell × Value) : ValueTable Cell Value :=
  if beats proposal.2 (table.value proposal.1) then table.set proposal.1 proposal.2 else table

/-- A list of proposals, one after the other. -/
def proposeAll (table : ValueTable Cell Value) (proposals : List (Cell × Value)) : ValueTable Cell Value :=
  proposals.foldl (propose beats) table

/-- The visit of one cell: the proposals that its value leads to. -/
def visit (offers : Cell → Value → List (Cell × Value)) (table : ValueTable Cell Value) (source : Cell) :
    ValueTable Cell Value :=
  proposeAll beats table (offers source (table.value source))

/-- The visits of a list of cells, in place. -/
def sweep (offers : Cell → Value → List (Cell × Value)) (sources : List Cell)
    (table : ValueTable Cell Value) : ValueTable Cell Value :=
  sources.foldl (visit beats offers) table

variable {beats}

@[simp] theorem ValueTable.set_self (table : ValueTable Cell Value) (cell : Cell) (value : Value) :
    (table.set cell value).value cell = value := by
  change Function.update table.value cell value cell = value
  rw [Function.update_self]

/-- The other cells have theirs. -/
theorem ValueTable.set_of_ne {table : ValueTable Cell Value} {cell other : Cell} {value : Value}
    (different : other ≠ cell) : (table.set cell value).value other = table.value other := by
  change Function.update table.value cell value other = table.value other
  rw [Function.update_of_ne different]

/-- Cells that are marked one after the other. -/
theorem mark_value {cells : List Cell} {table : ValueTable Cell Bool} {cell : Cell} :
    (cells.foldl (fun table cell => table.set cell true) table).value cell = true ↔
      table.value cell = true ∨ cell ∈ cells := by
  induction cells generalizing table with
  | nil =>
      rw [List.foldl_nil]
      exact ⟨.inl, fun found => found.resolve_right List.not_mem_nil⟩
  | cons first cells ih =>
      rw [List.foldl_cons, ih, List.mem_cons]
      by_cases same : cell = first
      · subst same
        rw [ValueTable.set_self]
        exact ⟨fun _ => .inr (.inl rfl), fun _ => .inl rfl⟩
      · rw [ValueTable.set_of_ne same]
        exact or_congr_right (or_iff_right same).symm

/-- A proposal concerns its own cell only. -/
theorem propose_of_ne {table : ValueTable Cell Value} {proposal : Cell × Value} {cell : Cell}
    (other : cell ≠ proposal.1) : (propose beats table proposal).value cell = table.value cell := by
  rw [propose]
  split_ifs
  · exact ValueTable.set_of_ne other
  · rfl

/-- After a proposal, a cell has its old value or the proposed one. -/
theorem propose_eq_or (table : ValueTable Cell Value) (proposal : Cell × Value) (cell : Cell) :
    (propose beats table proposal).value cell = table.value cell ∨
      (cell, (propose beats table proposal).value cell) = proposal := by
  by_cases same : cell = proposal.1
  · subst same
    rw [propose]
    split_ifs
    · rw [ValueTable.set_self]
      exact .inr rfl
    · exact .inl rfl
  · exact .inl (propose_of_ne same)

/-- What a cell's value withstood, it still withstands after a proposal. -/
theorem propose_kept (keeps : Keeps beats) {table : ValueTable Cell Value} {proposal : Cell × Value}
    {cell : Cell} {value : Value} (unbeaten : beats value (table.value cell) = false) :
    beats value ((propose beats table proposal).value cell) = false := by
  by_cases same : cell = proposal.1
  · subst same
    rw [propose]
    split_ifs with better
    · rw [ValueTable.set_self]
      exact keeps.kept _ _ value better unbeaten
    · exact unbeaten
  · rw [propose_of_ne same]
    exact unbeaten

/-- A proposal does not beat what its cell has afterwards. -/
theorem propose_beats (keeps : Keeps beats) (table : ValueTable Cell Value) (proposal : Cell × Value) :
    beats proposal.2 ((propose beats table proposal).value proposal.1) = false := by
  rw [propose]
  split_ifs with better
  · rw [ValueTable.set_self]
    exact keeps.not_self proposal.2
  · exact Bool.eq_false_iff.mpr better

/-- Proposals are made one after the other. -/
theorem proposeAll_cons (table : ValueTable Cell Value) (proposal : Cell × Value)
    (proposals : List (Cell × Value)) :
    proposeAll beats table (proposal :: proposals) =
      proposeAll beats (propose beats table proposal) proposals := rfl

/-- They can be made in two parts. -/
theorem proposeAll_append (table : ValueTable Cell Value) (first second : List (Cell × Value)) :
    proposeAll beats table (first ++ second) =
      proposeAll beats (proposeAll beats table first) second :=
  List.foldl_append

/-- A cell without a proposal keeps its value. -/
theorem proposeAll_of_notMem {table : ValueTable Cell Value} {proposals : List (Cell × Value)}
    {cell : Cell} (absent : ∀ proposal ∈ proposals, cell ≠ proposal.1) :
    (proposeAll beats table proposals).value cell = table.value cell := by
  induction proposals generalizing table with
  | nil => rfl
  | cons proposal proposals ih =>
      rw [proposeAll_cons, ih fun other member => absent other (List.mem_cons_of_mem _ member)]
      exact propose_of_ne (absent proposal List.mem_cons_self)

/-- Every value is an old one or a proposed one. -/
theorem proposeAll_sound (table : ValueTable Cell Value) (proposals : List (Cell × Value)) (cell : Cell) :
    (proposeAll beats table proposals).value cell = table.value cell ∨
      (cell, (proposeAll beats table proposals).value cell) ∈ proposals := by
  induction proposals generalizing table with
  | nil => exact .inl rfl
  | cons proposal proposals ih =>
      rw [proposeAll_cons]
      rcases ih (propose beats table proposal) with same | member
      · rw [same]
        rcases propose_eq_or table proposal cell with old | new
        · exact .inl old
        · rw [new]
          exact .inr List.mem_cons_self
      · exact .inr (List.mem_cons_of_mem proposal member)

/-- A value is an old one, or it beats what the proposals before it have made of its cell. -/
theorem proposeAll_split (table : ValueTable Cell Value) (proposals : List (Cell × Value))
    (cell : Cell) :
    (proposeAll beats table proposals).value cell = table.value cell ∨ ∃ before value after,
      proposals = before ++ (cell, value) :: after ∧
        (proposeAll beats table proposals).value cell = value ∧
          beats value ((proposeAll beats table before).value cell) = true := by
  induction proposals using List.reverseRecOn with
  | nil => exact .inl rfl
  | append_singleton proposals last ih =>
      have step : proposeAll beats table (proposals ++ [last]) =
          propose beats (proposeAll beats table proposals) last := proposeAll_append table _ _
      have earlier (same : (propose beats (proposeAll beats table proposals) last).value cell =
          (proposeAll beats table proposals).value cell) :
          (proposeAll beats table (proposals ++ [last])).value cell = table.value cell ∨
            ∃ before value after, proposals ++ [last] = before ++ (cell, value) :: after ∧
              (proposeAll beats table (proposals ++ [last])).value cell = value ∧
                beats value ((proposeAll beats table before).value cell) = true := by
        rw [step, same]
        refine ih.imp_right ?_
        rintro ⟨before, value, after, rfl, kept, beaten⟩
        exact ⟨before, value, after ++ [last], by rw [List.append_assoc]; rfl, kept, beaten⟩
      by_cases here : cell = last.1
      · subst here
        by_cases better : beats last.2 ((proposeAll beats table proposals).value last.1) = true
        · refine .inr ⟨proposals, last.2, [], rfl, ?_, better⟩
          rw [step, propose, if_pos better, ValueTable.set_self]
        · exact earlier (by rw [propose, if_neg better])
      · exact earlier (propose_of_ne here)

/-- What does not beat an old value does not beat the new one. -/
theorem proposeAll_kept (keeps : Keeps beats) {table : ValueTable Cell Value}
    {proposals : List (Cell × Value)} {cell : Cell} {value : Value}
    (unbeaten : beats value (table.value cell) = false) :
    beats value ((proposeAll beats table proposals).value cell) = false := by
  induction proposals generalizing table with
  | nil => exact unbeaten
  | cons proposal proposals ih => exact ih (propose_kept keeps unbeaten)

/-- No proposal beats the value of its cell. -/
theorem proposeAll_beats (keeps : Keeps beats) {table : ValueTable Cell Value}
    {proposals : List (Cell × Value)} {proposal : Cell × Value} (member : proposal ∈ proposals) :
    beats proposal.2 ((proposeAll beats table proposals).value proposal.1) = false := by
  induction proposals generalizing table with
  | nil => cases member
  | cons first proposals ih =>
      rcases List.mem_cons.mp member with rfl | later
      · rw [proposeAll_cons]
        exact proposeAll_kept keeps (propose_beats keeps table proposal)
      · exact ih later

variable {offers : Cell → Value → List (Cell × Value)}

/-- No visited cell is proposed to before its visit is over. -/
def Forward (offers : Cell → Value → List (Cell × Value)) (sources : List Cell) : Prop :=
  sources.Pairwise fun earlier later =>
    ∀ value, ∀ proposal ∈ offers earlier value, later ≠ proposal.1

/-- A forward sweep makes the proposals of the old values. -/
theorem sweep_eq {sources : List Cell} (forward : Forward offers sources) (table : ValueTable Cell Value) :
    sweep beats offers sources table =
      proposeAll beats table (sources.flatMap fun source => offers source (table.value source)) := by
  induction sources generalizing table with
  | nil => rfl
  | cons source sources ih =>
      obtain ⟨ahead, forward⟩ := List.pairwise_cons.mp forward
      have untouched : ∀ later ∈ sources, (visit beats offers table source).value later = table.value later := by
        intro later member
        exact proposeAll_of_notMem (ahead later member (table.value source))
      have same : (sources.flatMap fun later => offers later ((visit beats offers table source).value later))
          = sources.flatMap fun later => offers later (table.value later) := by
        rw [List.flatMap_def, List.flatMap_def]
        congr 1
        exact List.map_congr_left fun later member => by rw [untouched later member]
      calc sweep beats offers (source :: sources) table
        _ = sweep beats offers sources (visit beats offers table source) := rfl
        _ = proposeAll beats (visit beats offers table source)
              (sources.flatMap fun later => offers later (table.value later)) := by
            rw [ih forward, same]
        _ = _ := by rw [List.flatMap_cons, proposeAll_append, visit]

/-- After a forward sweep every value is an old one or follows from an old one. -/
theorem sweep_sound {sources : List Cell} (forward : Forward offers sources)
    (table : ValueTable Cell Value) (cell : Cell) :
    (sweep beats offers sources table).value cell = table.value cell ∨
      ∃ source ∈ sources,
        (cell, (sweep beats offers sources table).value cell) ∈ offers source (table.value source) := by
  rw [sweep_eq forward]
  refine (proposeAll_sound table _ cell).imp_right fun member => ?_
  exact List.mem_flatMap.mp member

/-- What a cell's value withstood before a sweep, it withstands after it. -/
theorem sweep_kept (keeps : Keeps beats) {sources : List Cell} (forward : Forward offers sources)
    {table : ValueTable Cell Value} {cell : Cell} {value : Value}
    (unbeaten : beats value (table.value cell) = false) :
    beats value ((sweep beats offers sources table).value cell) = false := by
  rw [sweep_eq forward]
  exact proposeAll_kept keeps unbeaten

/-- After a forward sweep nothing that follows from an old value beats the value of its cell. -/
theorem sweep_beats (keeps : Keeps beats) {sources : List Cell} (forward : Forward offers sources)
    {table : ValueTable Cell Value} {source : Cell} {proposal : Cell × Value} (visited : source ∈ sources)
    (offered : proposal ∈ offers source (table.value source)) :
    beats proposal.2 ((sweep beats offers sources table).value proposal.1) = false := by
  rw [sweep_eq forward]
  exact proposeAll_beats keeps (List.mem_flatMap.mpr ⟨source, visited, offered⟩)

/-- A member of a flattened list is in the list of one source, behind the lists of those before. -/
theorem split_flatMap {Source Item : Type*} {items : Source → List Item} {sources : List Source}
    {before after : List Item} {item : Item}
    (split : sources.flatMap items = before ++ item :: after) :
    ∃ earlier source later inner, sources = earlier ++ source :: later ∧ item ∈ items source ∧
      before = earlier.flatMap items ++ inner := by
  induction sources generalizing before with
  | nil => exact absurd split.symm (List.append_ne_nil_of_right_ne_nil _ (List.cons_ne_nil _ _))
  | cons first sources ih =>
      rw [List.flatMap_cons] at split
      rcases List.append_eq_append_iff.mp split with ⟨rest, rfl, inside⟩ | ⟨rest, own, inside⟩
      · obtain ⟨earlier, source, later, inner, rfl, member, rfl⟩ := ih inside
        exact ⟨first :: earlier, source, later, inner, rfl, member, by
          rw [List.flatMap_cons, List.append_assoc]⟩
      · cases rest with
        | nil =>
            rw [List.append_nil] at own
            obtain ⟨earlier, source, later, inner, rfl, member, nothing⟩ :=
              @ih [] inside.symm
            refine ⟨first :: earlier, source, later, inner, rfl, member, ?_⟩
            rw [List.flatMap_cons, own, List.append_assoc, ← nothing, List.append_nil]
        | cons other rest =>
            obtain ⟨rfl, -⟩ := List.cons.inj inside
            refine ⟨[], first, sources, before, rfl, ?_, rfl⟩
            rw [own]
            exact List.mem_append_right _ List.mem_cons_self

/-- After a forward sweep a value is an old one, or it beats a value that neither the old one nor
anything proposed from a cell visited earlier beats. -/
theorem sweep_split (keeps : Keeps beats) {sources : List Cell} (forward : Forward offers sources)
    (table : ValueTable Cell Value) (cell : Cell) :
    (sweep beats offers sources table).value cell = table.value cell ∨
      ∃ earlier source later kept, sources = earlier ++ source :: later ∧
        (cell, (sweep beats offers sources table).value cell) ∈
          offers source (table.value source) ∧
        beats ((sweep beats offers sources table).value cell) kept = true ∧
        beats (table.value cell) kept = false ∧
        ∀ other ∈ earlier, ∀ value, (cell, value) ∈ offers other (table.value other) →
          beats value kept = false := by
  rw [sweep_eq forward]
  refine (proposeAll_split table _ cell).imp_right ?_
  rintro ⟨before, value, after, split, same, beaten⟩
  obtain ⟨earlier, source, later, inner, sourceSplit, member, rfl⟩ := split_flatMap split
  rw [same]
  refine ⟨earlier, source, later, _, sourceSplit, member, beaten,
    proposeAll_kept keeps (keeps.not_self _), fun other visited value offered => ?_⟩
  refine @proposeAll_beats _ _ _ _ keeps table _ (cell, value) (List.mem_append_left _ ?_)
  exact List.mem_flatMap.mpr ⟨other, visited, offered⟩

end M3Midi.Foundation.ProposalTable
