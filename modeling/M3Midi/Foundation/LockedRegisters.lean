import M3Midi.Foundation.AtomicRegisters
import M3Midi.Foundation.Transducer
import Mathlib.Data.List.Infix
import Mathlib.Data.BitVec

/-! # Registers under a sequence lock

One writer and any number of readers share registers, one of which holds the
sequence. The writer makes it odd before its first store and even again with its
last one. A reader copies the registers between two loads of the sequence and keeps
its copy when both loads found the same even number. Whatever the interleaving, a
copy that is kept is what the registers held after the last completed write, as
long as the sequence does not come around during the attempt.
-/

namespace M3Midi.Foundation

/-- Registers under a sequence, the programs that write them, and the loads that
make up a reader's copy. -/
structure LockedRegisters (Register Write Value : Type) (w : Nat) where
  sequence : Register
  write : Write → RegisterProgram Register (BitVec w) Unit
  copy : RegisterProgram Register (BitVec w) Value
  attempts : Nat

namespace LockedRegisters

open RegisterProgram

variable {Register Write Value Reader : Type} {w : Nat}

section Programs

variable (locked : LockedRegisters Register Write Value w)

/-- Keep a copy if the sequence has not changed meanwhile. -/
def check (retry : RegisterProgram Register (BitVec w) (Option Value)) (before : BitVec w)
    (value : Value) : RegisterProgram Register (BitVec w) (Option Value) := do
  let after ← load locked.sequence
  if before = after ∧ after &&& 1 = 0 then pure (some value) else retry

/-- The attempts of a reader that remain. A sequence of zero, or an odd one, fails an
attempt. -/
def attemptsLeft : Nat → RegisterProgram Register (BitVec w) (Option Value)
  | 0 => pure none
  | attempts + 1 => do
      let before ← load locked.sequence
      if before = 0 ∨ before &&& 1 ≠ 0 then attemptsLeft attempts
      else locked.copy >>= locked.check (attemptsLeft attempts) before

/-- A read with all of its attempts. -/
def readLatest : RegisterProgram Register (BitVec w) (Option Value) :=
  locked.attemptsLeft locked.attempts

/-- Do something while the sequence is odd. -/
def locking (sequence : Register) (body : RegisterProgram Register (BitVec w) Unit) :
    RegisterProgram Register (BitVec w) Unit := do
  let before ← load sequence
  let writing := before ||| 1
  store sequence writing
  body
  store sequence (writing + 1)

/-- A program that loads only some registers, and stores none. -/
def Loads {Result : Type} (allowed : Register → Prop) :
    RegisterProgram Register (BitVec w) Result → Prop
  | .done _ => True
  | .act (.load register) next => allowed register ∧ ∀ word, Loads allowed (next word)
  | .act (.store _ _) _ => False

/-- A program that does not store the sequence. -/
def SparesSequence {Result : Type} (sequence : Register) :
    RegisterProgram Register (BitVec w) Result → Prop
  | .done _ => True
  | .act (.load _) next => ∀ word, SparesSequence sequence (next word)
  | .act (.store register _) next => register ≠ sequence ∧ SparesSequence sequence (next ())

variable [DecidableEq Register]

/-- The rest of a write, run alone, makes the sequence odd before it stores anything
else and even again with its last store. -/
def Orderly (sequence : Register) :
    Bool → (Register → BitVec w) → RegisterProgram Register (BitVec w) Unit → Prop
  | held, _, .done _ => held = false
  | held, memory, .act (.load register) next => Orderly sequence held memory (next (memory register))
  | false, memory, .act (.store register word) next =>
      register = sequence ∧ word = memory sequence + 1 ∧
        Orderly sequence true (Function.update memory sequence word) (next ())
  | true, memory, .act (.store register word) next =>
      if register = sequence then word = memory sequence + 1 ∧ next () = .done ()
      else Orderly sequence true (Function.update memory register word) (next ())

/-- Every write is orderly where the sequence is even, and the copy only loads. These are the
conditions under which readers get nothing but whole writes. -/
structure Disciplined : Prop where
  positive : 0 < w
  orderly : ∀ write memory, memory locked.sequence &&& 1 = 0 →
    Orderly locked.sequence false memory (locked.write write)
  loads : Loads (· ≠ locked.sequence) locked.copy

/-- The registers after some writes, one after the other. -/
def after (init : Register → BitVec w) (writes : List Write) : Register → BitVec w :=
  writes.foldl (fun memory write => ((locked.write write).run access memory).2) init

/-- What a reader would copy from a memory that nobody writes. -/
def shown (memory : Register → BitVec w) : Value := (locked.copy.run access memory).1

/-- One more write is written over the others. -/
theorem after_concat (init : Register → BitVec w) (writes : List Write) (write : Write) :
    locked.after init (writes ++ [write]) =
      ((locked.write write).run access (locked.after init writes)).2 := by
  rw [after, List.foldl_append]
  rfl

end Programs

/-- What can happen next: the writer is asked for writes, a reader starts to read, or
one of them takes its next step. -/
inductive Event (Write Reader : Type)
  | write (writes : List Write)
  | writer
  | read (reader : Reader)
  | reader (reader : Reader)

/-- What becomes known: a write has completed, or a reader has returned. -/
inductive Output (Write Reader Value : Type)
  | wrote (write : Write)
  | read (reader : Reader) (result : Option Value)

/-- The completed writes of a log. -/
def writesOf (log : List (Output Write Reader Value)) : List Write :=
  log.filterMap fun
    | .wrote write => some write
    | .read _ _ => none

/-- The registers, the writer's and the readers' remaining programs, and two counts
that no program sees: how often the sequence has changed, and how many writes had
changed it at each reader's last load of it. -/
structure System (Register Write Value Reader : Type) (w : Nat) where
  memory : Register → BitVec w
  queue : List Write := []
  writing : Option (Write × RegisterProgram Register (BitVec w) Unit) := none
  reading : Reader → Option (RegisterProgram Register (BitVec w) (Option Value)) := fun _ => none
  changes : Nat := 0
  since : Reader → Nat := fun _ => 0

namespace System

/-- Nobody has done anything yet. -/
def start (memory : Register → BitVec w) : System Register Write Value Reader w := { memory }

/-- Writes that have taken the lock and given it back. -/
def completed (system : System Register Write Value Reader w) : Nat := system.changes / 2

end System

/-- A write whose program has ended is complete. -/
def returned (write : Write) : RegisterProgram Register (BitVec w) Unit →
    Option (Write × RegisterProgram Register (BitVec w) Unit) × List (Output Write Reader Value)
  | .done _ => (none, [.wrote write])
  | .act action next => (some (write, .act action next), [])

/-- A reader whose program has ended has returned. -/
def answered (reader : Reader) : RegisterProgram Register (BitVec w) (Option Value) →
    Option (RegisterProgram Register (BitVec w) (Option Value)) × List (Output Write Reader Value)
  | .done result => (none, [.read reader result])
  | .act action next => (some (.act action next), [])

section Step

variable [DecidableEq Register] [DecidableEq Reader]
  (locked : LockedRegisters Register Write Value w)

/-- The next step of the writer. Between its writes it starts the next one. -/
def writerStep (system : System Register Write Value Reader w) :
    System Register Write Value Reader w × List (Output Write Reader Value) :=
  match system.writing with
  | none =>
      match system.queue with
      | [] => (system, [])
      | write :: queue =>
          let rest := returned write (locked.write write)
          ({ system with queue, writing := rest.1 }, rest.2)
  | some (_, .done _) => (system, [])
  | some (write, .act (.load register) next) =>
      let rest := returned write (next (system.memory register))
      ({ system with writing := rest.1 }, rest.2)
  | some (write, .act (.store register word) next) =>
      let rest := returned write (next ())
      ({ system with
          memory := Function.update system.memory register word
          writing := rest.1
          changes := system.changes + if register = locked.sequence then 1 else 0 }, rest.2)

/-- The next step of a reader. When its program is done, it reports what it has got. -/
def readerStep (system : System Register Write Value Reader w) (reader : Reader) :
    System Register Write Value Reader w × List (Output Write Reader Value) :=
  match system.reading reader with
  | none => (system, [])
  | some (.done _) => (system, [])
  | some (.act (.load register) next) =>
      let rest := answered reader (next (system.memory register))
      ({ system with
          reading := Function.update system.reading reader rest.1
          since := if register = locked.sequence then
            Function.update system.since reader system.completed else system.since }, rest.2)
  | some (.act (.store register word) next) =>
      let rest := answered reader (next ())
      ({ system with
          memory := Function.update system.memory register word
          reading := Function.update system.reading reader rest.1 }, rest.2)

/-- A reader that is not reading starts to. -/
def startReading (system : System Register Write Value Reader w) (reader : Reader) :
    System Register Write Value Reader w × List (Output Write Reader Value) :=
  match system.reading reader with
  | some _ => (system, [])
  | none =>
      let rest := answered reader locked.readLatest
      ({ system with
          reading := Function.update system.reading reader rest.1
          since := Function.update system.since reader system.completed }, rest.2)

/-- The writer and the readers as a machine, which takes one event after the other. -/
def machine : Transducer (Event Write Reader) (System Register Write Value Reader w)
    (Output Write Reader Value) where
  step system
    | .write writes => ({ system with queue := system.queue ++ writes }, [])
    | .writer => locked.writerStep system
    | .read reader => locked.startReading system reader
    | .reader reader => locked.readerStep system reader

/-- A reader takes a step while fewer writes than half the numbers of the sequence have
completed since it last loaded the sequence. -/
def InWindow (system : System Register Write Value Reader w) : Event Write Reader → Prop
  | .reader reader => system.completed < system.since reader + 2 ^ (w - 1)
  | _ => True

end Step

end LockedRegisters

end M3Midi.Foundation
