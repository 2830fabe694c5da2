import M3Midi.Foundation.LockedRegisters
import Mathlib.Data.BitVec
import Mathlib.Data.Nat.ModEq

/-! # Runs of registers under a sequence lock

In every interleaving the registers are what the completed writes have left whenever
the sequence is even, and a copy that a reader keeps is what they held then. The step
lemmas say what a step of the writer, or of a reader, leaves in place; the run lemmas
follow by induction over the events.
-/

namespace M3Midi.Foundation

namespace LockedRegisters

open RegisterProgram

variable {Register Write Value Reader : Type} {w : Nat}

section Loads

variable {First Result : Type} {allowed : Register → Prop}

/-- A program that loads, followed by one that loads, only loads. -/
theorem Loads.bind {program : RegisterProgram Register (BitVec w) First}
    {rest : First → RegisterProgram Register (BitVec w) Result} (loads : Loads allowed program)
    (restLoads : ∀ result, Loads allowed (rest result)) : Loads allowed (program >>= rest) := by
  change Loads allowed (program.bind rest)
  induction program with
  | done result => exact restLoads result
  | act action next ih =>
      cases action with
      | load register => exact ⟨loads.1, fun word => ih word (loads.2 word)⟩
      | store register word => exact loads.elim

/-- What loads from some registers loads from any larger set of them. -/
theorem Loads.mono {weaker : Register → Prop} {program : RegisterProgram Register (BitVec w) Result}
    (loads : Loads allowed program) (implies : ∀ register, allowed register → weaker register) :
    Loads weaker program := by
  induction program with
  | done result => trivial
  | act action next ih =>
      cases action with
      | load register => exact ⟨implies register loads.1, fun word => ih word (loads.2 word)⟩
      | store register word => exact loads.elim

/-- To load a list of registers is to load. -/
theorem loads_loadAll [DecidableEq Register] {registers : List Register}
    (all : ∀ register ∈ registers, allowed register) (copy : Register → BitVec w) :
    Loads allowed (loadAll registers copy) := by
  induction registers generalizing copy with
  | nil => trivial
  | cons first rest ih =>
      exact ⟨all first List.mem_cons_self,
        fun word => ih (fun register member => all register (List.mem_cons_of_mem first member)) _⟩

/-- A program that only loads leaves the memory as it is. -/
theorem Loads.run_snd [DecidableEq Register] {program : RegisterProgram Register (BitVec w) Result}
    (loads : Loads allowed program) (memory : Register → BitVec w) :
    (program.run access memory).2 = memory := by
  induction program with
  | done result => rfl
  | act action next ih =>
      cases action with
      | load register => exact ih (memory register) (loads.2 (memory register))
      | store register word => exact loads.elim

variable {locked : LockedRegisters Register Write Value w} [DecidableEq Register]

/-- A read only loads, whatever number of attempts it has left. -/
theorem Disciplined.loads_attemptsLeft (disciplined : locked.Disciplined) (attempts : Nat) :
    Loads (fun _ => True) (locked.attemptsLeft attempts) := by
  induction attempts with
  | zero => trivial
  | succ attempts ih =>
      refine ⟨trivial, fun (before : BitVec w) => ?_⟩
      change Loads _ (if before = 0 ∨ before &&& 1 ≠ 0 then locked.attemptsLeft attempts
        else locked.copy >>= locked.check (locked.attemptsLeft attempts) before)
      split_ifs
      · exact ih
      · refine (disciplined.loads.mono fun _ _ => trivial).bind fun value =>
          ⟨trivial, fun (after : BitVec w) => ?_⟩
        change Loads _ (if before = after ∧ after &&& 1 = 0 then pure (some value)
          else locked.attemptsLeft attempts)
        split_ifs
        · trivial
        · exact ih

end Loads

section Locking

variable {First Result : Type} {sequence : Register}

/-- Two programs that spare the sequence spare it one after the other. -/
theorem SparesSequence.bind {program : RegisterProgram Register (BitVec w) First}
    {rest : First → RegisterProgram Register (BitVec w) Result}
    (spares : SparesSequence sequence program)
    (restSpares : ∀ result, SparesSequence sequence (rest result)) :
    SparesSequence sequence (program >>= rest) := by
  change SparesSequence sequence (program.bind rest)
  induction program with
  | done result => exact restSpares result
  | act action next ih =>
      cases action with
      | load register => exact fun word => ih word (spares word)
      | store register word => exact ⟨spares.1, ih () spares.2⟩

/-- Stores to other registers spare the sequence. -/
theorem sparesSequence_storeAll {registers : List Register}
    (apart : ∀ register ∈ registers, register ≠ sequence) (words : Register → BitVec w) :
    SparesSequence sequence (storeAll words registers) := by
  induction registers with
  | nil => trivial
  | cons first rest ih =>
      exact ⟨apart first List.mem_cons_self,
        ih fun register member => apart register (List.mem_cons_of_mem first member)⟩

variable [DecidableEq Register]

/-- What is done while the sequence is odd is followed by what is orderly after it. -/
theorem SparesSequence.orderly_bind {body : RegisterProgram Register (BitVec w) Unit}
    (spares : SparesSequence sequence body) {memory : Register → BitVec w}
    {rest : Unit → RegisterProgram Register (BitVec w) Unit}
    (follows : ∀ later : Register → BitVec w, later sequence = memory sequence →
      Orderly sequence true later (rest ())) :
    Orderly sequence true memory (body >>= rest) := by
  change Orderly sequence true memory (body.bind rest)
  induction body generalizing memory with
  | done result => exact follows memory rfl
  | act action next ih =>
      cases action with
      | load register => exact ih _ (spares _) follows
      | store register word =>
          have kept : Function.update memory register word sequence = memory sequence :=
            Function.update_of_ne (Ne.symm spares.1) word memory
          change Orderly sequence true memory (.act (.store register word) fun answer =>
            (next answer).bind rest)
          rw [Orderly, if_neg spares.1]
          exact ih () spares.2 fun later same => follows later (same.trans kept)

/-- Setting the lowest bit of an even word adds one. -/
theorem or_one_of_even {word : BitVec w} (even : word &&& 1 = 0) : word ||| 1 = word + 1 :=
  (BitVec.add_eq_or_of_and_eq_zero word 1 even).symm

/-- A body that spares the sequence is orderly between the two increments that lock it: the
sequence is odd while the body runs and even afterwards. -/
theorem orderly_locking {memory : Register → BitVec w} (even : memory sequence &&& 1 = 0)
    {body : RegisterProgram Register (BitVec w) Unit} (spares : SparesSequence sequence body) :
    Orderly sequence false memory (locking sequence body) := by
  have odd := or_one_of_even even
  refine ⟨rfl, odd, spares.orderly_bind fun later same => ?_⟩
  change if sequence = sequence then
    (memory sequence ||| 1) + 1 = later sequence + 1 ∧ Program.done () = Program.done () else _
  rw [Function.update_self] at same
  rw [if_pos rfl, same, odd]
  exact ⟨rfl, rfl⟩

/-- Alone, it raises an even sequence by two and does the rest in between. -/
theorem run_locking (body : RegisterProgram Register (BitVec w) Unit)
    (memory : Register → BitVec w) :
    ((locking sequence body).run access memory).2 =
      Function.update
        (body.run access (Function.update memory sequence (memory sequence ||| 1))).2 sequence
        ((memory sequence ||| 1) + 1) := by
  rw [locking, run_load_bind, run_store_bind, Program.run_bind]
  rfl

end Locking

section Writer

variable {locked : LockedRegisters Register Write Value w} {init : Register → BitVec w}
  {log : List (Output Write Reader Value)} {system : System Register Write Value Reader w}

/-- The writes of two logs are those of the first and then those of the second. -/
theorem writesOf_append (first second : List (Output Write Reader Value)) :
    writesOf (first ++ second) = writesOf first ++ writesOf second :=
  List.filterMap_append

variable [DecidableEq Register]

/-- The sequence counts its changes. While it is even the registers are what the
completed writes left, and a write in progress will leave what it would leave alone. -/
structure Consistent (locked : LockedRegisters Register Write Value w)
    (init : Register → BitVec w) (log : List (Output Write Reader Value))
    (system : System Register Write Value Reader w) : Prop where
  sequence : system.memory locked.sequence = BitVec.ofNat w system.changes
  settled : system.changes % 2 = 0 → system.memory = locked.after init (writesOf log)
  idle : system.writing = none → system.changes % 2 = 0
  orderly : ∀ write rest, system.writing = some (write, rest) →
    Orderly locked.sequence (decide (system.changes % 2 = 1)) system.memory rest
  leaves : ∀ write rest, system.writing = some (write, rest) →
    (rest.run access system.memory).2 = locked.after init (writesOf log ++ [write])
  silent : ∀ reader program, system.reading reader = some program →
    Loads (fun _ => True) program

/-- A write that goes on, or that is complete. -/
theorem Consistent.of_returned (system : System Register Write Value Reader w) {write : Write}
    {rest : RegisterProgram Register (BitVec w) Unit}
    (sequence : system.memory locked.sequence = BitVec.ofNat w system.changes)
    (settled : ¬ rest.IsDone → system.changes % 2 = 0 →
      system.memory = locked.after init (writesOf log))
    (orderly : Orderly locked.sequence (decide (system.changes % 2 = 1)) system.memory rest)
    (leaves : (rest.run access system.memory).2 = locked.after init (writesOf log ++ [write]))
    (silent : ∀ reader program, system.reading reader = some program →
      Loads (fun _ => True) program) :
    Consistent locked init (log ++ (returned write rest : _ × List (Output Write Reader Value)).2)
      { system with writing := (returned write rest : _ × List (Output Write Reader Value)).1 } := by
  cases rest with
  | done result =>
      have even : system.changes % 2 = 0 := by
        have free := of_decide_eq_false orderly
        omega
      refine ⟨sequence, fun _ => ?_, fun _ => even, nofun, nofun, silent⟩
      rw [writesOf_append]
      exact leaves
  | act action next =>
      have unchanged : writesOf (log ++ []) = writesOf log := by rw [List.append_nil]
      refine ⟨sequence, fun even => ?_, nofun, ?_, ?_, silent⟩
      · rw [returned, unchanged]
        exact settled id even
      · rintro other program ⟨rfl, rfl⟩
        exact orderly
      · rintro other program ⟨rfl, rfl⟩
        rw [returned, unchanged]
        exact leaves

/-- An increment of the sequence counts one change more, modulo the size of the word. -/
theorem update_sequence {sequence : Register} {memory : Register → BitVec w} {changes : Nat}
    (counted : memory sequence = BitVec.ofNat w changes) :
    Function.update memory sequence (memory sequence + 1) sequence =
      BitVec.ofNat w (changes + 1) := by
  rw [Function.update_self, counted]
  exact (BitVec.ofNat_add changes 1).symm

/-- An even number of changes makes an even sequence, also after it has wrapped. -/
theorem ofNat_and_one {changes : Nat} (positive : 0 < w) (even : changes % 2 = 0) :
    BitVec.ofNat w changes &&& 1 = 0 := by
  rcases w with _ | width
  · omega
  · refine BitVec.eq_of_toNat_eq ?_
    have one : (1 : BitVec (width + 1)).toNat = 1 :=
      Nat.mod_eq_of_lt (Nat.one_lt_two_pow_iff.mpr (Nat.succ_ne_zero width))
    have divides : 2 ∣ 2 ^ (width + 1) := dvd_pow_self 2 (Nat.succ_ne_zero width)
    rw [BitVec.toNat_and, one, Nat.and_one_is_mod, BitVec.toNat_ofNat, Nat.mod_mod_of_dvd _ divides,
      even]
    rfl

/-- The writer's step keeps the registers consistent with the log. The cases are those of what the
writer does next: it locks, stores, unlocks, or begins another write. -/
theorem Consistent.writerStep (disciplined : locked.Disciplined)
    (consistent : Consistent locked init log system) :
    Consistent locked init (log ++ (locked.writerStep system).2) (locked.writerStep system).1 := by
  unfold LockedRegisters.writerStep
  split
  next idle =>
    have even := consistent.idle idle
    split
    next => rwa [List.append_nil]
    next write queue _ =>
      refine Consistent.of_returned { system with queue } consistent.sequence
        (fun _ => consistent.settled) ?_ ?_ consistent.silent
      · have free : decide (system.changes % 2 = 1) = false := decide_eq_false (by omega)
        rw [free]
        refine disciplined.orderly write system.memory ?_
        rw [consistent.sequence]
        exact ofNat_and_one disciplined.positive even
      · rw [consistent.settled even, after_concat]
  next => rwa [List.append_nil]
  next write register next writing =>
    have orderly := consistent.orderly write _ writing
    have leaves := consistent.leaves write _ writing
    exact Consistent.of_returned system consistent.sequence (fun _ => consistent.settled) orderly
      leaves consistent.silent
  next write register word next writing =>
    have orderly := consistent.orderly write _ writing
    have leaves := consistent.leaves write _ writing
    by_cases even : system.changes % 2 = 0
    · -- The first store takes the lock.
      have free : decide (system.changes % 2 = 1) = false := decide_eq_false (by omega)
      rw [free] at orderly
      obtain ⟨rfl, rfl, orderly⟩ := orderly
      rw [if_pos rfl]
      refine Consistent.of_returned { system with
          memory := Function.update system.memory locked.sequence
            (system.memory locked.sequence + 1)
          changes := system.changes + 1 } (update_sequence consistent.sequence) ?_ ?_ leaves
        consistent.silent
      · intro _ again
        change (system.changes + 1) % 2 = 0 at again
        omega
      · have held : decide ((system.changes + 1) % 2 = 1) = true := decide_eq_true (by omega)
        change Orderly locked.sequence (decide ((system.changes + 1) % 2 = 1)) _ _
        rw [held]
        exact orderly
    · have held : decide (system.changes % 2 = 1) = true := decide_eq_true (by omega)
      rw [held] at orderly
      by_cases last : register = locked.sequence
      · -- The last store gives it back.
        subst last
        rw [Orderly, if_pos rfl] at orderly
        obtain ⟨rfl, ended⟩ := orderly
        rw [if_pos rfl]
        refine Consistent.of_returned { system with
            memory := Function.update system.memory locked.sequence
              (system.memory locked.sequence + 1)
            changes := system.changes + 1 } (update_sequence consistent.sequence) ?_ ?_ leaves
          consistent.silent
        · rw [ended]
          exact fun running => absurd trivial running
        · rw [ended]
          exact decide_eq_false (by change ¬ (system.changes + 1) % 2 = 1; omega)
      · rw [Orderly, if_neg last] at orderly
        rw [if_neg last]
        refine Consistent.of_returned { system with
            memory := Function.update system.memory register word }
          ((Function.update_of_ne (Ne.symm last) _ _).trans consistent.sequence) ?_ ?_ leaves
          consistent.silent
        · exact fun _ again => absurd again even
        · change Orderly locked.sequence (decide (system.changes % 2 = 1)) _ _
          rw [held]
          exact orderly

/-- What the writer's step does not do: it leaves the readers alone, and it does not
touch an even sequence's registers without changing the sequence. -/
structure WriterMoves (system next : System Register Write Value Reader w) : Prop where
  reading : next.reading = system.reading
  since : next.since = system.since
  grows : system.changes ≤ next.changes
  still : system.changes % 2 = 0 → next.changes = system.changes → next.memory = system.memory

/-- In a consistent system, the step of the writer is one of the moves that a lock knows. -/
theorem Consistent.writerMoves (consistent : Consistent locked init log system) :
    WriterMoves system (locked.writerStep system).1 := by
  have rests : WriterMoves system system := ⟨rfl, rfl, le_refl _, fun _ _ => rfl⟩
  unfold LockedRegisters.writerStep
  split
  next =>
    split
    next => exact rests
    next => exact ⟨rfl, rfl, le_refl _, fun _ _ => rfl⟩
  next => exact rests
  next => exact ⟨rfl, rfl, le_refl _, fun _ _ => rfl⟩
  next write register word next writing =>
    refine ⟨rfl, rfl, Nat.le_add_right _ _, fun even same => ?_⟩
    have orderly := consistent.orderly write _ writing
    have free : decide (system.changes % 2 = 1) = false := decide_eq_false (by omega)
    rw [free] at orderly
    have taken : system.changes + (if register = locked.sequence then 1 else 0) = system.changes :=
      same
    rw [if_pos orderly.1] at taken
    omega

end Writer

section Readers

variable {locked : LockedRegisters Register Write Value w} {init : Register → BitVec w}
  {log : List (Output Write Reader Value)} {system : System Register Write Value Reader w}

/-- The answer of a reader is no write. -/
theorem writesOf_answered (reader : Reader)
    (rest : RegisterProgram Register (BitVec w) (Option Value)) :
    writesOf (log ++ (answered reader rest : _ × List (Output Write Reader Value)).2) =
      writesOf log := by
  rw [writesOf_append]
  cases rest with
  | done result => exact List.append_nil _
  | act action next => exact List.append_nil _

/-- After a reader's step, a program in progress is what is left of that reader's, or
another's. -/
theorem reading_cases [DecidableEq Reader]
    {reading : Reader → Option (RegisterProgram Register (BitVec w) (Option Value))}
    {reader other : Reader} {rest program : RegisterProgram Register (BitVec w) (Option Value)}
    (left : Function.update reading reader
      (answered reader rest : _ × List (Output Write Reader Value)).1 other = some program) :
    other = reader ∧ program = rest ∧ ¬ rest.IsDone ∨
      other ≠ reader ∧ reading other = some program := by
  by_cases same : other = reader
  · subst same
    rw [Function.update_self] at left
    cases rest with
    | done result => cases left
    | act action next =>
        cases left
        exact .inl ⟨rfl, rfl, id⟩
  · rw [Function.update_of_ne same] at left
    exact .inr ⟨same, left⟩

variable [DecidableEq Register]

/-- A reader begins an attempt, or it has found an even sequence and goes on copying:
if the sequence has not changed since, its copy will be what the registers hold. -/
def Attempting (locked : LockedRegisters Register Write Value w)
    (system : System Register Write Value Reader w) (reader : Reader)
    (program : RegisterProgram Register (BitVec w) (Option Value)) : Prop :=
  (∃ attempts, program = locked.attemptsLeft attempts) ∨
  ∃ attempts rest,
    program = rest >>= locked.check (locked.attemptsLeft attempts)
      (BitVec.ofNat w (2 * system.since reader)) ∧
    Loads (· ≠ locked.sequence) rest ∧ BitVec.ofNat w (2 * system.since reader) ≠ 0 ∧
    2 * system.since reader ≤ system.changes ∧
    (system.changes = 2 * system.since reader →
      (rest.run access system.memory).1 = locked.shown system.memory)

/-- A copy of registers whose sequence is not zero. -/
structure Shows (locked : LockedRegisters Register Write Value w) (memory : Register → BitVec w)
    (value : Value) : Prop where
  written : memory locked.sequence ≠ 0
  same : value = locked.shown memory

/-- Every copy that was kept is what the writes completed until then had left. -/
def Faithful (locked : LockedRegisters Register Write Value w) (init : Register → BitVec w)
    (log : List (Output Write Reader Value)) : Prop :=
  ∀ before reader value, before ++ [.read reader (some value)] <+: log →
    locked.Shows (locked.after init (writesOf before)) value

/-- One more entry keeps the log faithful, if a value that it reports is what the lock shows of the
writes before it. -/
theorem Faithful.concat (faithful : Faithful locked init log) {item : Output Write Reader Value}
    (kept : ∀ reader value, item = .read reader (some value) →
      locked.Shows (locked.after init (writesOf log)) value) :
    Faithful locked init (log ++ [item]) := by
  intro before reader value present
  rcases List.prefix_concat_iff.mp present with whole | earlier
  · obtain ⟨rfl, last⟩ := List.append_inj' whole rfl
    exact kept reader value (List.singleton_inj.mp last).symm
  · exact faithful before reader value earlier

/-- The writer keeps no copies. -/
theorem Faithful.writerStep (faithful : Faithful locked init log)
    (system : System Register Write Value Reader w) :
    Faithful locked init (log ++ (locked.writerStep system).2) := by
  have completes : ∀ (write : Write) (rest : RegisterProgram Register (BitVec w) Unit),
      Faithful locked init
        (log ++ (returned write rest : _ × List (Output Write Reader Value)).2) := by
    intro write rest
    cases rest with
    | done result => exact faithful.concat nofun
    | act action next => rwa [returned, List.append_nil]
  unfold LockedRegisters.writerStep
  split
  next =>
    split
    next => rwa [List.append_nil]
    next => exact completes _ _
  next => rwa [List.append_nil]
  next => exact completes _ _
  next => exact completes _ _

/-- A program in progress has not kept a copy yet. -/
theorem Attempting.not_done {reader : Reader}
    {program : RegisterProgram Register (BitVec w) (Option Value)}
    (attempting : Attempting locked system reader program) (value : Value) :
    program ≠ .done (some value) := by
  rintro rfl
  rcases attempting with ⟨attempts, ended⟩ | ⟨attempts, rest, ended, -⟩
  · cases attempts with
    | zero => cases ended
    | succ attempts => cases ended
  · cases rest with
    | done result => cases ended
    | act action next => cases ended

/-- Every reader attempts, and every copy that was kept is faithful. -/
structure Followed (locked : LockedRegisters Register Write Value w) (init : Register → BitVec w)
    (log : List (Output Write Reader Value)) (system : System Register Write Value Reader w) :
    Prop where
  attempting : ∀ reader program, system.reading reader = some program →
    Attempting locked system reader program
  faithful : Faithful locked init log

/-- The writer's step leaves every reader attempting. -/
theorem Followed.writerStep (followed : Followed locked init log system)
    (moves : WriterMoves system (locked.writerStep system).1) (faithful : Faithful locked init
      (log ++ (locked.writerStep system).2)) :
    Followed locked init (log ++ (locked.writerStep system).2) (locked.writerStep system).1 := by
  refine ⟨fun reader program reading => ?_, faithful⟩
  rw [moves.reading] at reading
  rcases followed.attempting reader program reading with start |
    ⟨attempts, rest, copying, loads, nonzero, le, copied⟩
  · exact .inl start
  · refine .inr ⟨attempts, rest, ?_, loads, ?_, ?_, fun unchanged => ?_⟩
    · rw [moves.since]
      exact copying
    · rw [moves.since]
      exact nonzero
    · rw [moves.since]
      exact le.trans moves.grows
    · rw [moves.since] at unchanged
      have same : (locked.writerStep system).1.changes = system.changes := by
        have grows := moves.grows
        omega
      rw [moves.still (by omega) same]
      exact copied (same.symm.trans unchanged)

variable [DecidableEq Reader]

/-- Whether a reader goes on or has returned, the registers are as before. -/
theorem Consistent.answered (consistent : Consistent locked init log system) {reader : Reader}
    {rest : RegisterProgram Register (BitVec w) (Option Value)}
    (loads : Loads (fun _ => True) rest) (since : Reader → Nat) :
    Consistent locked init
      (log ++ (answered reader rest : _ × List (Output Write Reader Value)).2)
      { system with
        reading := Function.update system.reading reader
          (answered reader rest : _ × List (Output Write Reader Value)).1
        since } := by
  refine ⟨consistent.sequence, ?_, consistent.idle, consistent.orderly, ?_, ?_⟩
  · rw [writesOf_answered]
    exact consistent.settled
  · rw [writesOf_answered]
    exact consistent.leaves
  · intro other program reading
    rcases reading_cases reading with ⟨-, rfl, -⟩ | ⟨-, elsewhere⟩
    · exact loads
    · exact consistent.silent other program elsewhere

/-- The step of a reader keeps the system consistent, along with the answer it may give. -/
theorem Consistent.readerStep (consistent : Consistent locked init log system) (reader : Reader) :
    Consistent locked init (log ++ (locked.readerStep system reader).2)
      (locked.readerStep system reader).1 := by
  unfold LockedRegisters.readerStep
  split
  next => rwa [List.append_nil]
  next => rwa [List.append_nil]
  next register next reading =>
    exact consistent.answered ((consistent.silent reader _ reading).2 _) _
  next register word next reading => exact (consistent.silent reader _ reading).elim

/-- A read that begins keeps the system consistent. -/
theorem Consistent.startReading (disciplined : locked.Disciplined)
    (consistent : Consistent locked init log system) (reader : Reader) :
    Consistent locked init (log ++ (locked.startReading system reader).2)
      (locked.startReading system reader).1 := by
  unfold LockedRegisters.startReading
  split
  next => rwa [List.append_nil]
  next => exact consistent.answered (disciplined.loads_attemptsLeft _) _

/-- Every step keeps the registers consistent with the log. -/
theorem Consistent.step (disciplined : locked.Disciplined)
    (consistent : Consistent locked init log system) (event : Event Write Reader) :
    Consistent locked init (log ++ (locked.machine.step system event).2)
      (locked.machine.step system event).1 := by
  cases event with
  | write writes =>
      change Consistent locked init (log ++ []) _
      rw [List.append_nil]
      exact ⟨consistent.sequence, consistent.settled, consistent.idle, consistent.orderly,
        consistent.leaves, consistent.silent⟩
  | writer => exact consistent.writerStep disciplined
  | read reader => exact consistent.startReading disciplined reader
  | reader reader => exact consistent.readerStep reader

/-- A reader's step leaves a program that attempts, or keeps a faithful copy. -/
theorem Followed.answered (followed : Followed locked init log system) {reader : Reader}
    {rest : RegisterProgram Register (BitVec w) (Option Value)} (since : Reader → Nat)
    (others : ∀ other, other ≠ reader → since other = system.since other)
    (goes : Attempting locked { system with since } reader rest ∨
      ∃ value, rest = .done (some value) ∧
        locked.Shows (locked.after init (writesOf log)) value) :
    Followed locked init
      (log ++ (answered reader rest : _ × List (Output Write Reader Value)).2)
      { system with
        reading := Function.update system.reading reader
          (answered reader rest : _ × List (Output Write Reader Value)).1
        since } := by
  refine ⟨fun other program reading => ?_, ?_⟩
  · rcases reading_cases reading with ⟨rfl, rfl, running⟩ | ⟨different, elsewhere⟩
    · rcases goes with attempting | ⟨value, rfl, -⟩
      · exact attempting
      · exact absurd trivial running
    · have attempting := followed.attempting other program elsewhere
      rw [Attempting] at attempting ⊢
      rwa [show ({ system with since } : System Register Write Value Reader w).since other =
        system.since other from others other different]
  · cases rest with
    | act action next =>
        rw [LockedRegisters.answered, List.append_nil]
        exact followed.faithful
    | done result =>
        refine followed.faithful.concat fun other value same => ?_
        cases same
        rcases goes with attempting | ⟨kept, ended, shown⟩
        · exact absurd rfl (attempting.not_done value)
        · cases ended
          exact shown

/-- An even sequence stands for an even number of changes. That the word wraps does not matter,
since its size is even. -/
theorem even_of_and_one {changes : Nat} (positive : 0 < w)
    (even : BitVec.ofNat w changes &&& 1 = 0) : changes % 2 = 0 := by
  have values := congrArg BitVec.toNat even
  rcases w with _ | width
  · omega
  · have one : (1 : BitVec (width + 1)).toNat = 1 :=
      Nat.mod_eq_of_lt (Nat.one_lt_two_pow_iff.mpr (Nat.succ_ne_zero width))
    have divides : 2 ∣ 2 ^ (width + 1) := dvd_pow_self 2 (Nat.succ_ne_zero width)
    rw [BitVec.toNat_and, one, Nat.and_one_is_mod, BitVec.toNat_ofNat,
      Nat.mod_mod_of_dvd _ divides] at values
    exact values

/-- In the window, the same even number means that the sequence has not changed. -/
theorem changes_eq_of_inWindow {changes since : Nat} (positive : 0 < w)
    (le : 2 * since ≤ changes) (window : changes / 2 < since + 2 ^ (w - 1))
    (same : BitVec.ofNat w (2 * since) = BitVec.ofNat w changes)
    (even : BitVec.ofNat w changes &&& 1 = 0) : changes = 2 * since := by
  have half := even_of_and_one positive even
  have whole : 2 ^ w = 2 * 2 ^ (w - 1) := by
    rw [← Nat.pow_succ', Nat.succ_eq_add_one, Nat.sub_add_cancel positive]
  have values := congrArg BitVec.toNat same
  rw [BitVec.toNat_ofNat, BitVec.toNat_ofNat] at values
  have close : changes - 2 * since < 2 ^ w := by omega
  have divides : 2 ^ w ∣ changes - 2 * since := (Nat.modEq_iff_dvd' le).mp values
  have none := Nat.eq_zero_of_dvd_of_lt divides close
  omega

/-- A reader's step keeps it attempting, and what it keeps is faithful. What has been copied is of
one version if the sequence is found as it was. -/
theorem Followed.readerStep (disciplined : locked.Disciplined)
    (consistent : Consistent locked init log system) (followed : Followed locked init log system)
    (reader : Reader) (window : system.completed < system.since reader + 2 ^ (w - 1)) :
    Followed locked init (log ++ (locked.readerStep system reader).2)
      (locked.readerStep system reader).1 := by
  unfold LockedRegisters.readerStep
  split
  next => rwa [List.append_nil]
  next => rwa [List.append_nil]
  next register next reading =>
    have others : ∀ other, other ≠ reader →
        (if register = locked.sequence then
          Function.update system.since reader system.completed else system.since) other =
        system.since other := by
      intro other different
      split_ifs
      · exact Function.update_of_ne different _ _
      · rfl
    refine followed.answered _ others ?_
    rcases followed.attempting reader _ reading with ⟨attempts, start⟩ |
      ⟨attempts, rest, copying, loads, nonzero, le, copied⟩
    · -- The attempt begins with a load of the sequence.
      cases attempts with
      | zero => cases start
      | succ attempts =>
          cases start
          rw [if_pos rfl]
          refine .inl ?_
          change Attempting locked _ reader
            (if system.memory locked.sequence = 0 ∨ system.memory locked.sequence &&& 1 ≠ 0 then
              locked.attemptsLeft attempts
            else locked.copy >>= locked.check (locked.attemptsLeft attempts)
              (system.memory locked.sequence))
          split_ifs with fails
          · exact .inl ⟨attempts, rfl⟩
          · have even : system.changes % 2 = 0 := by
              refine even_of_and_one disciplined.positive ?_
              rw [← consistent.sequence]
              exact not_not.mp fun odd => fails (.inr odd)
            have since : 2 * system.completed = system.changes := by
              unfold System.completed
              omega
            refine .inr ⟨attempts, locked.copy, ?_, disciplined.loads, ?_, ?_, fun _ => rfl⟩
            · dsimp only
              rw [Function.update_self, since, consistent.sequence]
            · dsimp only
              rw [Function.update_self, since, ← consistent.sequence]
              exact fun zero => fails (.inl zero)
            · dsimp only
              rw [Function.update_self]
              exact since.le
    · cases rest with
      | done value =>
          -- The attempt ends with another load of the sequence.
          cases copying
          rw [if_pos rfl]
          change Attempting locked _ reader
              (if BitVec.ofNat w (2 * system.since reader) = system.memory locked.sequence ∧
                  system.memory locked.sequence &&& 1 = 0 then Program.done (some value)
                else locked.attemptsLeft attempts) ∨
            ∃ kept, (if BitVec.ofNat w (2 * system.since reader) = system.memory locked.sequence ∧
                  system.memory locked.sequence &&& 1 = 0 then Program.done (some value)
                else locked.attemptsLeft attempts) = Program.done (some kept) ∧ _
          split_ifs with holds
          · obtain ⟨same, even⟩ := holds
            rw [consistent.sequence] at same even
            have unchanged := changes_eq_of_inWindow disciplined.positive le window same even
            refine .inr ⟨value, rfl, ?_⟩
            rw [← consistent.settled (even_of_and_one disciplined.positive even)]
            refine ⟨?_, copied unchanged⟩
            rw [consistent.sequence, ← same]
            exact nonzero
          · exact .inl (.inl ⟨attempts, rfl⟩)
      | act action goes =>
          cases action with
          | store register word => exact loads.elim
          | load register =>
              cases copying
              rw [if_neg loads.1]
              exact .inl (.inr ⟨attempts, goes (system.memory register), rfl,
                loads.2 _, nonzero, le, copied⟩)
  next register word next reading => exact (consistent.silent reader _ reading).elim

/-- A read that begins keeps what its reader has been followed to. -/
theorem Followed.startReading (followed : Followed locked init log system) (reader : Reader) :
    Followed locked init (log ++ (locked.startReading system reader).2)
      (locked.startReading system reader).1 := by
  unfold LockedRegisters.startReading
  split
  next => rwa [List.append_nil]
  next =>
    exact followed.answered _ (fun other different => Function.update_of_ne different _ _)
      (.inl (.inl ⟨locked.attempts, rfl⟩))

/-- Every step of a reader in the window keeps the readers followed. -/
theorem Followed.step (disciplined : locked.Disciplined)
    (consistent : Consistent locked init log system) (followed : Followed locked init log system)
    (event : Event Write Reader) (window : InWindow system event) :
    Followed locked init (log ++ (locked.machine.step system event).2)
      (locked.machine.step system event).1 := by
  cases event with
  | write writes =>
      change Followed locked init (log ++ []) _
      rw [List.append_nil]
      exact ⟨followed.attempting, followed.faithful⟩
  | writer => exact followed.writerStep consistent.writerMoves (followed.faithful.writerStep system)
  | read reader => exact followed.startReading reader
  | reader reader => exact followed.readerStep disciplined consistent reader window

end Readers

section Order

/-- What readers get: what has been published by all writes completed until then. A reader that
gets a second copy finds in it what was published by the writes before its first copy and by those
completed in between, and so never anything older. -/
structure SeesInOrder (published : List Write → Value) (log : List (Output Write Reader Value)) :
    Prop where
  newest : ∀ before reader value, before ++ [.read reader (some value)] <+: log →
    writesOf before ≠ [] ∧ value = published (writesOf before)
  forward : ∀ before between reader first second,
    before ++ [.read reader (some first)] ++ between ++ [.read reader (some second)] <+: log →
      first = published (writesOf before) ∧
        second = published (writesOf before ++ writesOf between)

/-- Two copies that agree on a key agree. -/
def Identifies {Key : Type} (key : Value → Key) (log : List (Output Write Reader Value)) : Prop :=
  ∀ reader other first second, .read reader (some first) ∈ log →
    .read other (some second) ∈ log → key first = key second → first = second

/-- A key names the copies in a log when it changes with what the log's writes publish. -/
theorem SeesInOrder.identifies {Key : Type} {key : Value → Key} {published : List Write → Value}
    {log : List (Output Write Reader Value)} (sees : SeesInOrder published log)
    (changes : ∀ earlier later, earlier ++ later <+: writesOf log → earlier ≠ [] →
      key (published earlier) = key (published (earlier ++ later)) →
      published (earlier ++ later) = published earlier) : Identifies key log := by
  -- It is enough to compare a copy with one made later.
  have ordered : ∀ before after reader other first second,
      before ++ [.read reader (some first)] <+: log → after ++ [.read other (some second)] <+: log →
      before <+: after → key first = key second → first = second := by
    rintro before _ reader other first second firstRead secondRead ⟨between, rfl⟩ same
    obtain ⟨some, rfl⟩ := sees.newest before reader first firstRead
    obtain ⟨-, rfl⟩ := sees.newest _ other second secondRead
    rw [writesOf_append] at same ⊢
    refine (changes _ _ ?_ some same).symm
    obtain ⟨rest, rfl⟩ := secondRead
    rw [List.append_assoc, writesOf_append, writesOf_append]
    exact List.prefix_append _ _
  intro reader other first second firstMember secondMember same
  obtain ⟨before, firstRest, firstSplit⟩ := List.append_of_mem firstMember
  obtain ⟨after, secondRest, secondSplit⟩ := List.append_of_mem secondMember
  have firstRead : before ++ [.read reader (some first)] <+: log :=
    ⟨firstRest, by rw [firstSplit, List.append_assoc]; rfl⟩
  have secondRead : after ++ [.read other (some second)] <+: log :=
    ⟨secondRest, by rw [secondSplit, List.append_assoc]; rfl⟩
  rcases List.prefix_or_prefix_of_prefix ((List.prefix_append before _).trans firstRead)
      ((List.prefix_append after _).trans secondRead) with earlier | later
  · exact ordered before after reader other first second firstRead secondRead earlier same
  · exact (ordered after before other reader second first secondRead firstRead later same.symm).symm

end Order

section Runs

variable [DecidableEq Register] {locked : LockedRegisters Register Write Value w}
  {init : Register → BitVec w}

/-- The system is consistent at its start, if the sequence is zero. -/
theorem consistent_init (unwritten : init locked.sequence = 0) :
    Consistent locked init ([] : List (Output Write Reader Value)) (.start init) :=
  ⟨unwritten, fun _ => rfl, fun _ => rfl, nofun, nofun, nofun⟩

variable [DecidableEq Reader]

/-- After every run the registers are what the completed writes have left, unless a
write has stored some of its words. -/
theorem run_consistent (disciplined : locked.Disciplined) (unwritten : init locked.sequence = 0)
    (events : List (Event Write Reader)) :
    Consistent locked init (locked.machine.run (.start init) events).2
      (locked.machine.run (.start init) events).1 := by
  have preserved : ∀ log (system : System Register Write Value Reader w) event,
      Consistent locked init log system →
      Consistent locked init (log ++ (locked.machine.step system event).2)
        (locked.machine.step system event).1 :=
    fun log system event consistent => consistent.step disciplined event
  have holds := locked.machine.run_invariant preserved (consistent_init unwritten) events
  rwa [List.nil_append] at holds

/-- After every run whose readers stay in the window, every copy that a reader has kept
is what the writes completed until then had left. -/
theorem run_faithful (disciplined : locked.Disciplined) (unwritten : init locked.sequence = 0)
    {events : List (Event Write Reader)}
    (window : locked.machine.Meets InWindow (.start init) events) :
    Faithful locked init (locked.machine.run (.start init) events).2 := by
  have start : Consistent locked init ([] : List (Output Write Reader Value)) (.start init) ∧
      Followed locked init ([] : List (Output Write Reader Value)) (.start init) :=
    ⟨consistent_init unwritten, nofun, fun before reader value present =>
      absurd (List.prefix_nil.mp present) (List.append_ne_nil_of_right_ne_nil before nofun)⟩
  have preserved : ∀ log (system : System Register Write Value Reader w) event,
      Consistent locked init log system ∧ Followed locked init log system →
      InWindow system event →
      Consistent locked init (log ++ (locked.machine.step system event).2)
          (locked.machine.step system event).1 ∧
        Followed locked init (log ++ (locked.machine.step system event).2)
          (locked.machine.step system event).1 :=
    fun log system event both inWindow =>
      ⟨both.1.step disciplined event, both.2.step disciplined both.1 event inWindow⟩
  have holds := locked.machine.run_invariant_of_meets preserved start window
  rw [List.nil_append] at holds
  exact holds.2.faithful

/-- Readers see in order what the registers show after each write. -/
theorem run_seesInOrder (disciplined : locked.Disciplined) (unwritten : init locked.sequence = 0)
    {published : List Write → Value}
    (shows : ∀ writes, locked.shown (locked.after init writes) = published writes)
    {events : List (Event Write Reader)}
    (window : locked.machine.Meets InWindow (.start init) events) :
    SeesInOrder published (locked.machine.run (.start init) events).2 := by
  have faithful := run_faithful disciplined unwritten window
  refine ⟨fun before reader value present => ?_,
    fun before between reader first second present => ?_⟩
  · obtain ⟨written, rfl⟩ := faithful before reader value present
    refine ⟨fun none => written ?_, shows _⟩
    rw [none]
    exact unwritten
  · have firstPresent : before ++ [.read reader (some first)] <+:
        (locked.machine.run (.start init) events).2 := by
      refine List.IsPrefix.trans ?_ present
      rw [List.append_assoc (before ++ [_])]
      exact List.prefix_append _ _
    refine ⟨(faithful before reader first firstPresent).same.trans (shows _), ?_⟩
    refine ((faithful _ reader second present).same.trans (shows _)).trans ?_
    rw [writesOf_append, writesOf_append]
    exact congrArg (fun writes => published (writes ++ writesOf between)) (List.append_nil _)

end Runs

section Sequential

/-- Nobody writes or reads. -/
structure Idle (system : System Register Write Value Reader w) : Prop where
  writing : system.writing = none
  queue : system.queue = []
  reading : ∀ reader, system.reading reader = none

/-- At its start the system is idle: nobody writes or reads. -/
theorem idle_start (memory : Register → BitVec w) :
    Idle (.start memory : System Register Write Value Reader w) :=
  ⟨rfl, rfl, fun _ => rfl⟩

variable [DecidableEq Register] [DecidableEq Reader]
  {locked : LockedRegisters Register Write Value w}

/-- Some events that nobody else takes part in. -/
structure Completes (locked : LockedRegisters Register Write Value w)
    (system : System Register Write Value Reader w) (events : List (Event Write Reader))
    (outputs : List (Output Write Reader Value)) (memory : Register → BitVec w) : Prop where
  window : locked.machine.Meets InWindow system events
  outputs : (locked.machine.run system events).2 = outputs
  idle : Idle (locked.machine.run system events).1
  memory : (locked.machine.run system events).1.memory = memory

/-- Two runs that complete, one after the other, complete as a whole. -/
theorem Completes.append {system : System Register Write Value Reader w}
    {first second : List (Event Write Reader)} {outputs later : List (Output Write Reader Value)}
    {memory final : Register → BitVec w} (completes : Completes locked system first outputs memory)
    (follows : Completes locked (locked.machine.run system first).1 second later final) :
    Completes locked system (first ++ second) (outputs ++ later) final := by
  have appended := locked.machine.run_append system first second
  refine ⟨locked.machine.meets_append completes.window follows.window, ?_, ?_, ?_⟩
  · rw [appended, completes.outputs, follows.outputs]
  · rw [appended]
    exact follows.idle
  · rw [appended]
    exact follows.memory

/-- One more event before events that complete. -/
theorem Completes.cons {system next : System Register Write Value Reader w}
    {event : Event Write Reader} {events : List (Event Write Reader)}
    {output outputs : List (Output Write Reader Value)} {memory : Register → BitVec w}
    (window : InWindow system event) (step : locked.machine.step system event = (next, output))
    (follows : Completes locked next events outputs memory) :
    Completes locked system (event :: events) (output ++ outputs) memory := by
  have run := locked.machine.run_cons system event events
  rw [step] at run
  refine ⟨⟨window, ?_⟩, ?_, ?_, ?_⟩
  · rw [step]
    exact follows.window
  · rw [run, follows.outputs]
  · rw [run]
    exact follows.idle
  · rw [run]
    exact follows.memory

/-- Left to itself, the writer completes a write that it has begun. -/
theorem exists_completion (write : Write) (rest : RegisterProgram Register (BitVec w) Unit)
    (system : System Register Write Value Reader w)
    (begun : system.writing = (returned write rest : _ × List (Output Write Reader Value)).1)
    (queue : system.queue = []) (reading : ∀ reader, system.reading reader = none) :
    ∃ events outputs, (returned write rest).2 ++ outputs = [.wrote write] ∧
      Completes locked system events outputs (rest.run access system.memory).2 := by
  induction rest generalizing system with
  | done result => exact ⟨[], [], rfl, trivial, rfl, ⟨begun, queue, reading⟩, rfl⟩
  | act action next ih =>
      change system.writing = some (write, .act action next) at begun
      cases action with
      | load register =>
          obtain ⟨events, outputs, output, completes⟩ := ih (system.memory register)
            { system with
              writing := (returned write (next (system.memory register)) :
                _ × List (Output Write Reader Value)).1 } rfl queue reading
          refine ⟨.writer :: events, _, output, completes.cons trivial ?_⟩
          change locked.writerStep system = _
          rw [LockedRegisters.writerStep, begun]
      | store register word =>
          obtain ⟨events, outputs, output, completes⟩ := ih ()
            { system with
              memory := Function.update system.memory register word
              writing := (returned write (next ()) : _ × List (Output Write Reader Value)).1
              changes := system.changes + if register = locked.sequence then 1 else 0 }
            rfl queue reading
          refine ⟨.writer :: events, _, output, completes.cons trivial ?_⟩
          change locked.writerStep system = _
          rw [LockedRegisters.writerStep, begun]

/-- Left to itself, the writer completes a write. -/
theorem exists_write (locked : LockedRegisters Register Write Value w) (write : Write)
    {system : System Register Write Value Reader w} (idle : Idle system) :
    ∃ events, Completes locked system events [.wrote write]
      ((locked.write write).run access system.memory).2 := by
  obtain ⟨events, outputs, output, completes⟩ := exists_completion write (locked.write write)
    { system with
      queue := []
      writing := (returned write (locked.write write) : _ × List (Output Write Reader Value)).1 }
    rfl rfl idle.reading
  refine ⟨.write [write] :: .writer :: events, ?_⟩
  rw [← output, ← List.nil_append ((returned write (locked.write write)).2 ++ outputs)]
  refine Completes.cons trivial rfl (completes.cons trivial ?_)
  change locked.writerStep { system with queue := system.queue ++ [write] } = _
  rw [LockedRegisters.writerStep, idle.queue, idle.writing]
  rfl

/-- Left to itself, a reader finishes what it has begun. It has only so many accesses left, and
nobody disturbs it. -/
theorem exists_finish (reader : Reader)
    (rest : RegisterProgram Register (BitVec w) (Option Value))
    (loads : Loads (fun _ => True) rest) (system : System Register Write Value Reader w)
    (begun : system.reading = Function.update (fun _ => none) reader
      (answered reader rest : _ × List (Output Write Reader Value)).1)
    (writing : system.writing = none) (queue : system.queue = [])
    (since : system.since reader = system.completed) :
    ∃ events outputs,
      (answered reader rest).2 ++ outputs = [.read reader (rest.run access system.memory).1] ∧
      Completes locked system events outputs system.memory := by
  induction rest generalizing system with
  | done result =>
      refine ⟨[], [], rfl, trivial, rfl, ⟨writing, queue, fun other => ?_⟩, rfl⟩
      change system.reading other = none
      rw [begun]
      exact congrFun (Function.update_eq_self reader (fun _ => none)) other
  | act action next ih =>
      cases action with
      | store register word => exact loads.elim
      | load register =>
          have current : system.reading reader = some (.act (.load register) next) := by
            rw [begun]
            exact Function.update_self ..
          obtain ⟨events, outputs, output, completes⟩ := ih (system.memory register) (loads.2 _)
            { system with
              reading := Function.update system.reading reader
                (answered reader (next (system.memory register)) :
                  _ × List (Output Write Reader Value)).1
              since := if register = locked.sequence then
                Function.update system.since reader system.completed else system.since }
            (by rw [begun]; exact Function.update_idem ..) writing queue (by
              dsimp only
              split_ifs
              · exact Function.update_self ..
              · exact since)
          refine ⟨.reader reader :: events, _, output, completes.cons ?_ ?_⟩
          · change system.completed < system.since reader + 2 ^ (w - 1)
            rw [since]
            exact Nat.lt_add_of_pos_right (Nat.two_pow_pos _)
          · change locked.readerStep system reader = _
            rw [LockedRegisters.readerStep, current]

/-- Left to itself, a reader reads what it would read alone. -/
theorem exists_read (disciplined : locked.Disciplined) (reader : Reader)
    {system : System Register Write Value Reader w} (idle : Idle system) :
    ∃ events, Completes locked system events
      [.read reader (locked.readLatest.run access system.memory).1] system.memory := by
  have none : system.reading = fun _ => none := funext idle.reading
  obtain ⟨events, outputs, output, completes⟩ := exists_finish reader locked.readLatest
    (disciplined.loads_attemptsLeft _)
    { system with
      reading := Function.update system.reading reader
        (answered reader locked.readLatest : _ × List (Output Write Reader Value)).1
      since := Function.update system.since reader system.completed }
    (by rw [none]) idle.writing idle.queue (Function.update_self ..)
  refine ⟨.read reader :: events, ?_⟩
  rw [← output]
  refine completes.cons trivial ?_
  change locked.startReading system reader = _
  rw [LockedRegisters.startReading, idle.reading]

/-- What becomes known when writes and reads follow one another. -/
def sequentially (locked : LockedRegisters Register Write Value w) :
    (Register → BitVec w) → List (Write ⊕ Reader) → List (Output Write Reader Value)
  | _, [] => []
  | memory, .inl write :: rest =>
      .wrote write :: locked.sequentially ((locked.write write).run access memory).2 rest
  | memory, .inr reader :: rest =>
      .read reader (locked.readLatest.run access memory).1 :: locked.sequentially memory rest

/-- Writes and reads may follow one another in any order. -/
theorem exists_sequential (disciplined : locked.Disciplined) (script : List (Write ⊕ Reader))
    {system : System Register Write Value Reader w} (idle : Idle system) :
    ∃ events final, Completes locked system events (locked.sequentially system.memory script)
      final := by
  induction script generalizing system with
  | nil => exact ⟨[], system.memory, trivial, rfl, idle, rfl⟩
  | cons item rest ih =>
      cases item with
      | inl write =>
          obtain ⟨events, completes⟩ := exists_write locked write idle
          obtain ⟨later, final, follows⟩ := ih completes.idle
          rw [completes.memory] at follows
          exact ⟨events ++ later, final, completes.append follows⟩
      | inr reader =>
          obtain ⟨events, completes⟩ := exists_read disciplined reader idle
          obtain ⟨later, final, follows⟩ := ih completes.idle
          rw [completes.memory] at follows
          exact ⟨events ++ later, final, completes.append follows⟩

end Sequential

section Alone

variable [DecidableEq Register] {locked : LockedRegisters Register Write Value w}
  {memory : Register → BitVec w}

/-- A read of registers that nobody has written gives nothing. -/
theorem run_attemptsLeft_unwritten (unwritten : memory locked.sequence = 0) (attempts : Nat) :
    ((locked.attemptsLeft attempts).run access memory).1 = none := by
  induction attempts with
  | zero => rfl
  | succ attempts ih =>
      rw [attemptsLeft, run_load_bind, if_pos (.inl unwritten)]
      exact ih

/-- Alone, a reader of registers that nobody writes succeeds at once, unless the sequence
is zero. -/
theorem run_readLatest (disciplined : locked.Disciplined) (positive : 0 < locked.attempts)
    (even : memory locked.sequence &&& 1 = 0) :
    (locked.readLatest.run access memory).1 =
      if memory locked.sequence = 0 then none else some (locked.shown memory) := by
  rw [readLatest]
  by_cases unwritten : memory locked.sequence = 0
  · rw [if_pos unwritten]
    exact run_attemptsLeft_unwritten unwritten _
  · have settled : ¬ (memory locked.sequence = 0 ∨ memory locked.sequence &&& 1 ≠ 0) := by
      rw [not_or, not_not]
      exact ⟨unwritten, even⟩
    rw [if_neg unwritten, ← Nat.sub_add_cancel positive, attemptsLeft, run_load_bind,
      if_neg settled, Program.run_bind, disciplined.loads.run_snd, check, run_load_bind,
      if_pos ⟨rfl, even⟩, Program.run_pure, shown]

end Alone

end LockedRegisters

end M3Midi.Foundation
