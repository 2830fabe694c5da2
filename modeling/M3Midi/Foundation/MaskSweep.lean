import M3Midi.Foundation.LaneMask
import M3Midi.Foundation.ProposalTable
import Mathlib.Data.BitVec
import Mathlib.Data.Finset.Card

/-! # Sweeps over all masks

A table with one value for each mask can be swept in place from the highest mask
down, when every proposal adds lanes to the mask that it comes from
(`M3Midi.Foundation.MaskSweep.forward_of_grows`).
-/

namespace M3Midi.Foundation.MaskSweep

open LaneMask ProposalTable

variable {w : Nat}

/-- All masks, from the lowest on. -/
def allMasks (w : Nat) : List (BitVec w) := (List.range (2 ^ w)).map (BitVec.ofNat w)

/-- Every mask is listed. -/
theorem mem_allMasks (mask : BitVec w) : mask ∈ allMasks w :=
  List.mem_map.mpr ⟨mask.toNat, List.mem_range.mpr mask.isLt,
    (BitVec.ofNat_toNat w mask).trans (BitVec.setWidth_eq mask)⟩

/-- The empty mask is the first one. -/
theorem allMasks_eq_cons : allMasks w = 0 :: (allMasks w).tail := by
  obtain ⟨count, positive⟩ := Nat.exists_eq_add_one_of_ne_zero (Nat.two_pow_pos w).ne'
  rw [allMasks, positive, List.range_succ_eq_map, List.map_cons]
  rfl

/-- All other masks come behind it. -/
theorem mem_allMasks_tail {mask : BitVec w} (something : mask ≠ 0) :
    mask ∈ (allMasks w).tail := by
  have member := mem_allMasks mask
  rw [allMasks_eq_cons, List.mem_cons] at member
  exact member.resolve_left something

/-- The masks are listed in ascending order. -/
theorem allMasks_ascending :
    (allMasks w).Pairwise fun lower higher => lower.toNat < higher.toNat := by
  refine List.pairwise_map.mpr ?_
  refine List.Pairwise.imp_of_mem ?_ (List.pairwise_lt_range (n := 2 ^ w))
  intro lower higher low high below
  rw [BitVec.toNat_ofNat, BitVec.toNat_ofNat, Nat.mod_eq_of_lt (List.mem_range.mp low),
    Nat.mod_eq_of_lt (List.mem_range.mp high)]
  exact below

/-- A mask with more lanes is not a smaller number. -/
theorem toNat_le_or (mask added : BitVec w) : mask.toNat ≤ (mask ||| added).toNat := by
  rw [BitVec.toNat_or]
  exact Nat.left_le_or

/-- Proposals that only add lanes do not reach a mask below the one they come from. -/
theorem forward_of_grows {Value : Type*}
    {offers : BitVec w → Value → List (BitVec w × Value)}
    (grows : ∀ source value, ∀ proposal ∈ offers source value,
      ∃ added, proposal.1 = source ||| added) :
    Forward offers (allMasks w).reverse := by
  refine List.pairwise_reverse.mpr (allMasks_ascending.imp ?_)
  intro later earlier below value proposal offered same
  obtain ⟨added, target⟩ := grows earlier value proposal offered
  have reached := toNat_le_or earlier added
  rw [← target, ← same] at reached
  omega

/-- The lanes gathered by a loop. -/
theorem mem_lanes_gather {property : Fin w → Prop} [DecidablePred property]
    {sources : List (Fin w)} {start : BitVec w} {lane : Fin w} :
    lane ∈ lanes (sources.foldl (fun mask source =>
        if property source then mask ||| single source else mask) start) ↔
      lane ∈ lanes start ∨ lane ∈ sources ∧ property lane := by
  induction sources generalizing start with
  | nil =>
      rw [List.foldl_nil]
      exact ⟨.inl, fun member => member.resolve_right fun found => List.not_mem_nil found.1⟩
  | cons source sources ih =>
      rw [List.foldl_cons, ih, List.mem_cons]
      split_ifs with holds
      · rw [lanes_or, Finset.mem_union, lanes_single, Finset.mem_singleton]
        constructor
        · rintro ((old | rfl) | found)
          · exact .inl old
          · exact .inr ⟨.inl rfl, holds⟩
          · exact .inr ⟨.inr found.1, found.2⟩
        · rintro (old | ⟨rfl | later, here⟩)
          · exact .inl (.inl old)
          · exact .inl (.inr rfl)
          · exact .inr ⟨later, here⟩
      · constructor
        · rintro (old | found)
          · exact .inl old
          · exact .inr ⟨.inr found.1, found.2⟩
        · rintro (old | ⟨rfl | later, here⟩)
          · exact .inl old
          · exact absurd here holds
          · exact .inr ⟨later, here⟩

/-- The lanes of the masks gathered by a loop. -/
theorem mem_lanes_gathered {Source : Type*} {property : Source → Prop} [DecidablePred property]
    {mask : Source → BitVec w} {sources : List Source} {start : BitVec w} {lane : Fin w} :
    lane ∈ lanes (sources.foldl (fun gathered source =>
        if property source then gathered ||| mask source else gathered) start) ↔
      lane ∈ lanes start ∨ ∃ source ∈ sources, property source ∧ lane ∈ lanes (mask source) := by
  induction sources generalizing start with
  | nil => simp
  | cons source sources ih =>
      rw [List.foldl_cons, ih, List.exists_mem_cons_iff]
      split_ifs with holds
      · rw [lanes_or, Finset.mem_union, or_assoc]
        simp only [holds, true_and]
      · simp only [holds, false_and, false_or]

/-- The mask of some lanes. -/
def maskOf (sources : List (Fin w)) : BitVec w :=
  sources.foldl (fun mask (source : Fin w) => mask ||| single source) 0

/-- The mask of a list grows with the list. -/
theorem maskOf_concat (sources : List (Fin w)) (source : Fin w) :
    maskOf (sources ++ [source]) = maskOf sources ||| single source := by
  rw [maskOf, List.foldl_append]
  rfl

/-- The lanes of a list's mask are the list's entries. -/
@[simp] theorem lanes_maskOf (sources : List (Fin w)) : lanes (maskOf sources) = sources.toFinset := by
  induction sources using List.reverseRecOn with
  | nil => exact lanes_zero
  | append_singleton sources source ih =>
      rw [maskOf_concat, lanes_or, ih, lanes_single, List.toFinset_append]
      rfl

end M3Midi.Foundation.MaskSweep
