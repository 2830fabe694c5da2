import M3Midi.Foundation.AtomicProgram
import Mathlib.Logic.Function.Basic

/-! # Programs over atomic registers

A memory is a family of registers that are loaded and stored one at a time. A
program that stores to, or loads from, a list of registers and runs alone writes,
or sees, all of them at once.
-/

namespace M3Midi.Foundation

/-- One access to a register. -/
inductive RegisterAction (Register Word : Type)
  | load (register : Register)
  | store (register : Register) (word : Word)

/-- A load answers the register's word. -/
def RegisterAction.Answer {Register Word : Type} : RegisterAction Register Word → Type
  | .load _ => Word
  | .store _ _ => Unit

/-- A program that loads and stores registers. -/
abbrev RegisterProgram (Register Word Result : Type) :=
  Program (RegisterAction Register Word) RegisterAction.Answer Result

namespace RegisterProgram

variable {Register Word Result : Type}

/-- The load of a register. -/
def load (register : Register) : RegisterProgram Register Word Word :=
  Program.perform (RegisterAction.load register)

/-- The store of a word to a register. -/
def store (register : Register) (word : Word) : RegisterProgram Register Word Unit :=
  Program.perform (RegisterAction.store register word)

variable [DecidableEq Register]

/-- The effect of one access on a memory. -/
def access (memory : Register → Word) :
    (action : RegisterAction Register Word) → action.Answer × (Register → Word)
  | .load register => (memory register, memory)
  | .store register word => ((), Function.update memory register word)

/-- Store a word to each register of a list, in order. -/
def storeAll (words : Register → Word) : List Register → RegisterProgram Register Word Unit
  | [] => pure ()
  | register :: rest => do
      store register (words register)
      storeAll words rest

/-- Load each register of a list, in order, into a copy of the memory. -/
def loadAll : List Register → (Register → Word) → RegisterProgram Register Word (Register → Word)
  | [], copy => pure copy
  | register :: rest, copy => do
      let word ← load register
      loadAll rest (Function.update copy register word)

@[simp] theorem run_load_bind (register : Register) (memory : Register → Word)
    (rest : Word → RegisterProgram Register Word Result) :
    (load register >>= rest).run access memory = (rest (memory register)).run access memory := rfl

@[simp] theorem run_store_bind (register : Register) (word : Word) (memory : Register → Word)
    (rest : Unit → RegisterProgram Register Word Result) :
    (store register word >>= rest).run access memory =
      (rest ()).run access (Function.update memory register word) := rfl

/-- Alone, a list of stores writes exactly the registers of the list. -/
theorem run_storeAll (words : Register → Word) (registers : List Register)
    (memory : Register → Word) :
    ((storeAll words registers).run access memory).2 =
      fun register => if register ∈ registers then words register else memory register := by
  induction registers generalizing memory with
  | nil => simp [storeAll]
  | cons first rest ih =>
      rw [storeAll, run_store_bind, ih]
      funext register
      by_cases same : register = first
      · subst same
        simp
      · simp [same]

/-- Alone, a list of loads copies exactly the registers of the list. -/
theorem run_loadAll (registers : List Register) (copy memory : Register → Word) :
    (loadAll registers copy).run access memory =
      (fun register => if register ∈ registers then memory register else copy register, memory) := by
  induction registers generalizing copy with
  | nil => simp [loadAll]
  | cons first rest ih =>
      rw [loadAll, run_load_bind, ih]
      refine Prod.ext (funext fun register => ?_) rfl
      by_cases same : register = first
      · subst same
        simp
      · simp [same]

section Embedding

variable {Larger : Type} (place : Register → Larger)

/-- A program on registers that have a place in a larger memory. -/
def embed : RegisterProgram Register Word Result → RegisterProgram Larger Word Result
  | .done result => .done result
  | .act (.load register) next => .act (.load (place register)) fun word => embed (next word)
  | .act (.store register word) next =>
      .act (.store (place register) word) fun _ => embed (next ())

/-- Alone, it does to the registers in their places what it does on its own, and leaves
all others as they are. -/
theorem run_embed [DecidableEq Larger] (apart : Function.Injective place)
    (program : RegisterProgram Register Word Result) (memory : Larger → Word) :
    ((embed place program).run access memory).1 = (program.run access (memory ∘ place)).1 ∧
      ((embed place program).run access memory).2 ∘ place =
        (program.run access (memory ∘ place)).2 ∧
      ∀ other, (∀ register, other ≠ place register) →
        ((embed place program).run access memory).2 other = memory other := by
  induction program generalizing memory with
  | done result => exact ⟨rfl, rfl, fun _ _ => rfl⟩
  | act action next ih =>
      cases action with
      | load register => exact ih (memory (place register)) memory
      | store register word =>
          obtain ⟨result, inside, outside⟩ :=
            ih () (Function.update memory (place register) word)
          rw [Function.update_comp_eq_of_injective memory apart] at result inside
          refine ⟨result, inside, fun other apart => (outside other apart).trans ?_⟩
          exact Function.update_of_ne (apart register) word memory

end Embedding

end RegisterProgram

end M3Midi.Foundation
