import Mathlib.Data.BitVec
import Mathlib.Logic.Function.Basic

/-! # Sequence locks

A writer that holds the lock makes its sequence number odd and gives it back two
higher. A reader that finds the same even number before and after its loads has read
what the registers held all along, as long as the numbers have not come around the word.
-/

namespace M3Midi.Foundation

/-- A lock that has been given back so many times, and what its registers held when it
was last free. -/
structure SequenceLock (Register Word : Type) where
  version : Nat := 0
  held : Bool := false
  contents : Register → Word

namespace SequenceLock

variable {Register Word : Type} {w : Nat} {lock : SequenceLock Register Word}

/-- The sequence number of a lock. -/
def number (w : Nat) (lock : SequenceLock Register Word) : BitVec w :=
  BitVec.ofNat w (2 * lock.version + lock.held.toNat)

/-- The lock in a writer's hands. -/
def acquire (lock : SequenceLock Register Word) : SequenceLock Register Word :=
  { lock with held := true }

/-- The lock given back over new contents. -/
def release (lock : SequenceLock Register Word) (contents : Register → Word) :
    SequenceLock Register Word where
  version := lock.version + 1
  contents := contents

/-- A sequence number that marks a held lock. -/
def odd (sequence : BitVec w) : Bool := sequence.toNat % 2 = 1

/-- The number of a lock is odd while it is held, also after it has wrapped. -/
theorem odd_number (positive : 0 < w) (lock : SequenceLock Register Word) :
    odd (lock.number w) = lock.held := by
  have even : 2 ∣ 2 ^ w := dvd_pow_self 2 (Nat.pos_iff_ne_zero.mp positive)
  unfold odd number
  rw [BitVec.toNat_ofNat, Nat.mod_mod_of_dvd _ even]
  cases lock.held <;> simp [Nat.add_mod]

/-- To acquire the lock adds one to its number. -/
theorem number_acquire (free : lock.held = false) :
    lock.acquire.number w = lock.number w + 1 := by
  unfold number acquire
  rw [free]
  exact BitVec.ofNat_add (2 * lock.version) 1

theorem number_release (held : lock.held = true) (contents : Register → Word) :
    (lock.release contents).number w = lock.number w + 1 := by
  unfold number release
  rw [held]
  exact BitVec.ofNat_add (2 * lock.version + 1) 1

/-- Before the numbers come around, an even number is the number of one version. -/
theorem number_eq {version : Nat} (bounded : 2 * lock.version + 2 ≤ 2 ^ w)
    (le : version ≤ lock.version) (same : lock.number w = BitVec.ofNat w (2 * version)) :
    lock.held = false ∧ lock.version = version := by
  have values := congrArg BitVec.toNat same
  unfold number at values
  rw [BitVec.toNat_ofNat, BitVec.toNat_ofNat] at values
  cases held : lock.held with
  | false =>
      rw [held] at values
      rw [Nat.mod_eq_of_lt (by simp only [Bool.toNat_false]; omega),
        Nat.mod_eq_of_lt (by omega)] at values
      simp only [Bool.toNat_false] at values
      exact ⟨rfl, by omega⟩
  | true =>
      rw [held] at values
      rw [Nat.mod_eq_of_lt (by simp only [Bool.toNat_true]; omega),
        Nat.mod_eq_of_lt (by omega)] at values
      simp only [Bool.toNat_true] at values
      omega

/-- How often the number has changed. -/
def changes (lock : SequenceLock Register Word) : Nat := 2 * lock.version + lock.held.toNat

/-- Before the numbers come around, the same number means the same changes. -/
theorem changes_eq {first second : SequenceLock Register Word}
    (small : 2 * first.version + 2 ≤ 2 ^ w) (large : 2 * second.version + 2 ≤ 2 ^ w)
    (same : first.number w = second.number w) : first.changes = second.changes := by
  have values := congrArg BitVec.toNat same
  have firstHeld := first.held.toNat_le
  have secondHeld := second.held.toNat_le
  unfold number at values
  rw [BitVec.toNat_ofNat, BitVec.toNat_ofNat, Nat.mod_eq_of_lt (by omega),
    Nat.mod_eq_of_lt (by omega)] at values
  exact values

/-- A reader's copy since a version: while that version is free, it is what the
registers hold. -/
structure Copies (lock : SequenceLock Register Word) (version : Nat) (copied : List Register)
    (copy : Register → Word) : Prop where
  since : version ≤ lock.version
  agrees : lock.version = version → lock.held = false →
    ∀ register ∈ copied, copy register = lock.contents register

namespace Copies

variable {version : Nat} {copied : List Register} {copy : Register → Word}

/-- A reader has copied nothing of the present version yet. -/
theorem start (lock : SequenceLock Register Word) (copy : Register → Word) :
    Copies lock lock.version [] copy :=
  ⟨le_refl _, fun _ _ _ member => absurd member List.not_mem_nil⟩

/-- One more register is loaded from the memory under the lock. -/
theorem load [DecidableEq Register] (copies : Copies lock version copied copy)
    {registers : Register → Word} (shows : lock.held = false → registers = lock.contents)
    (register : Register) :
    Copies lock version (copied ++ [register])
      (Function.update copy register (registers register)) := by
  refine ⟨copies.since, fun current free other member => ?_⟩
  by_cases same : other = register
  · subst same
    rw [Function.update_self, shows free]
  · rw [Function.update_of_ne same]
    refine copies.agrees current free other ?_
    exact (List.mem_append.mp member).resolve_right fun last =>
      same (List.mem_singleton.mp last)

/-- What has been copied of a version stays copied when the lock is acquired. -/
theorem acquire (copies : Copies lock version copied copy) :
    Copies lock.acquire version copied copy :=
  ⟨copies.since, fun _ free => nomatch free⟩

/-- It stays so when the lock is released, since the version is then another one. -/
theorem release (copies : Copies lock version copied copy) (contents : Register → Word) :
    Copies (lock.release contents) version copied copy := by
  refine ⟨copies.since.trans (Nat.le_succ _), fun current => ?_⟩
  have since := copies.since
  change lock.version + 1 = version at current
  omega

/-- A copy of all registers is what they hold once the number is found again. -/
theorem complete (copies : Copies lock version copied copy)
    (all : ∀ register, register ∈ copied) (bounded : 2 * lock.version + 2 ≤ 2 ^ w)
    (again : lock.number w = BitVec.ofNat w (2 * version)) :
    lock.held = false ∧ copy = lock.contents := by
  obtain ⟨free, current⟩ := number_eq bounded copies.since again
  exact ⟨free, funext fun register => copies.agrees current free register (all register)⟩

end Copies

end SequenceLock

end M3Midi.Foundation
