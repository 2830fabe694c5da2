import M3Midi.Calibration.HandoffProtocol

/-! # What one access does to the transports

Each transport is a sequence lock in the hands of the thread that publishes on it. An
access of a thread leaves the lock of the other transport alone, and moves its own
thread's view and lock in one of four ways (`HandoffView.Progress`).
-/

namespace M3Midi

open Foundation RegisterProgram

/-- The lock of a transport, as it is seen from outside. -/
abbrev TransportLock := SequenceLock TransportRegister (BitVec 32)

section Words

variable {sequence : BitVec 32}

/-- The lowest bit of the sequence tells whether it is odd. -/
theorem and_one_iff : sequence &&& 1 = 0 ↔ SequenceLock.odd sequence = false := by
  rw [← BitVec.toNat_inj, BitVec.toNat_and]
  change sequence.toNat &&& 1 = 0 ↔ decide (sequence.toNat % 2 = 1) = false
  rw [Nat.and_one_is_mod, decide_eq_false_iff_not]
  omega

/-- Over an even number, setting the last bit adds one. -/
theorem or_one_eq (even : SequenceLock.odd sequence = false) : sequence ||| 1 = sequence + 1 := by
  have parity : ¬ sequence.toNat % 2 = 1 := of_decide_eq_false even
  have odd : (sequence.toNat ||| 1) % 2 = 1 := Nat.or_mod_two_eq_one.mpr (.inr rfl)
  have half : (sequence.toNat ||| 1) / 2 = sequence.toNat / 2 := by
    rw [Nat.or_div_two]
    exact Nat.or_zero _
  refine BitVec.eq_of_toNat_eq ?_
  change (sequence.toNat ||| 1) = (sequence.toNat + 1) % 2 ^ 32
  have small := sequence.isLt
  omega

end Words

/-- The registers under a transport's sequence number. -/
def bodyOf (transport : HandoffTransport) (memory : HandoffMemory) :
    TransportRegister → BitVec 32 :=
  Function.update (fun register => memory (transport, register)) .sequence 0

/-- The memory shows a lock on a transport. -/
structure Shows (transport : HandoffTransport) (memory : HandoffMemory) (lock : TransportLock) :
    Prop where
  number : memory (transport, .sequence) = lock.number 32
  free : lock.held = false → bodyOf transport memory = lock.contents
  blank : lock.contents .sequence = 0

section Memory

variable {transport other : HandoffTransport} {memory later : HandoffMemory}
  {lock : TransportLock} {register : TransportRegister} {word : BitVec 32}

/-- The protected words of a transport do not include its sequence. -/
theorem bodyOf_sequence : bodyOf transport memory .sequence = 0 := Function.update_self ..

/-- Every other register of the transport is one of them. -/
theorem bodyOf_of_ne (body : register ≠ .sequence) :
    bodyOf transport memory register = memory (transport, register) :=
  Function.update_of_ne body ..

/-- A store to the sequence number leaves the body alone. -/
theorem bodyOf_store_sequence :
    bodyOf transport (Function.update memory (transport, .sequence) word) =
      bodyOf transport memory := by
  funext register
  by_cases same : register = .sequence
  · subst same
    rw [bodyOf_sequence, bodyOf_sequence]
  · rw [bodyOf_of_ne same, bodyOf_of_ne same]
    exact Function.update_of_ne (fun contrary => same (congrArg Prod.snd contrary)) ..

/-- A store to a protected word changes that word only. -/
theorem bodyOf_store (body : register ≠ .sequence) :
    bodyOf transport (Function.update memory (transport, register) word) =
      Function.update (bodyOf transport memory) register word := by
  funext other
  by_cases same : other = .sequence
  · subst same
    rw [bodyOf_sequence, Function.update_of_ne (Ne.symm body), bodyOf_sequence]
  · rw [bodyOf_of_ne same]
    by_cases here : other = register
    · subst here
      rw [Function.update_self, Function.update_self]
    · rw [Function.update_of_ne here, bodyOf_of_ne same]
      exact Function.update_of_ne (fun contrary => here (congrArg Prod.snd contrary)) ..

/-- What another transport shows depends on its own registers only. -/
theorem Shows.congr (shows : Shows transport memory lock)
    (same : ∀ register, later (transport, register) = memory (transport, register)) :
    Shows transport later lock := by
  have body : bodyOf transport later = bodyOf transport memory :=
    congrArg (Function.update · TransportRegister.sequence 0) (funext same)
  exact ⟨(same .sequence).trans shows.number, fun free => body.trans (shows.free free),
    shows.blank⟩

/-- A store to one transport leaves the other alone. -/
theorem store_elsewhere (apart : other ≠ transport) (register found : TransportRegister) :
    Function.update memory (transport, register) word (other, found) = memory (other, found) :=
  Function.update_of_ne (fun contrary => apart (congrArg Prod.fst contrary)) ..

end Memory

namespace HandoffView

variable {Side : Type}

/-- What a thread knows of the lock it reads and of its own, when all generations in the
transport it reads are good. -/
def Knows (target : HandoffTransport) (good : BitVec 32 → Prop) (memory : HandoffMemory)
    (source own : TransportLock) : HandoffView Side → Prop
  | fetching _ (.copying _ before copied copy) =>
      (.generation ∈ copied → good (copy .generation)) ∧ before ≠ 0 ∧
        ∃ version, before = BitVec.ofNat 32 (2 * version) ∧ source.Copies version copied copy
  | publishing _ _ (.loaded before) => before = own.number 32
  | publishing snapshot _ (.storing before stored) =>
      before ||| 1 = own.number 32 ∧
        ∀ register ∈ stored, bodyOf target memory register = snapshot.words register
  | _ => True

/-- The ways in which one access moves a thread's view and its own lock. -/
inductive Progress (good : BitVec 32 → Prop) (source : TransportLock) :
    HandoffView Side → TransportLock → HandoffView Side → TransportLock → Prop
  | reads {plan view next own} :
      Progress good source (fetching plan view) own (fetching plan next) own
  | fails {plan view own} :
      Progress good source (fetching plan view) own (plan none).view own
  | finds {plan rest before version copied copy own} (positive : before ≠ 0)
      (number : before = BitVec.ofNat 32 (2 * version))
      (again : source.number 32 = BitVec.ofNat 32 (2 * version))
      (copies : source.Copies version copied copy) (all : ∀ register, register ∈ copied)
      (generation : good (copy .generation)) :
      Progress good source (fetching plan (.copying rest before copied copy)) own
        (plan (some (snapshotOfWords copy))).view own
  | stores {snapshot outcome view next own after} (goes : after = own ∨ after = own.acquire) :
      Progress good source (publishing snapshot outcome view) own
        (publishing snapshot outcome next) after
  | publishes {snapshot outcome before stored own} :
      Progress good source (publishing snapshot outcome (.storing before stored)) own
        (returned outcome) (own.release snapshot.words)

/-- A thread's own lock in the memory, and what the thread knows. -/
structure Keeps (target : HandoffTransport) (good : BitVec 32 → Prop) (memory : HandoffMemory)
    (source own : TransportLock) (view : HandoffView Side) : Prop where
  shows : Shows target memory own
  held : own.held = view.storing
  knows : view.Knows target good memory source own

variable {target : HandoffTransport} {good better : BitVec 32 → Prop}
  {memory later : HandoffMemory} {source own next : TransportLock} {view : HandoffView Side}

/-- A thread that does nothing keeps what it knows while the other one goes on. -/
theorem Keeps.other (keeps : Keeps target good memory source own view)
    (implies : ∀ generation, good generation → better generation)
    (copies : ∀ version copied copy, source.Copies version copied copy →
      next.Copies version copied copy)
    (same : ∀ register, later (target, register) = memory (target, register)) :
    Keeps target better later next own view := by
  have body : bodyOf target later = bodyOf target memory :=
    congrArg (Function.update · TransportRegister.sequence 0) (funext same)
  refine ⟨keeps.shows.congr same, keeps.held, ?_⟩
  have knows := keeps.knows
  cases view with
  | returned outcome => trivial
  | fetching plan view =>
      cases view with
      | copying rest before copied copy =>
          obtain ⟨generation, positive, version, number, fits⟩ := knows
          exact ⟨fun member => implies _ (generation member), positive, version, number,
            copies version copied copy fits⟩
      | _ => trivial
  | publishing snapshot outcome view =>
      cases view with
      | storing before stored =>
          refine ⟨knows.1, fun register member => ?_⟩
          rw [body]
          exact knows.2 register member
      | loaded before => exact knows
      | fresh => trivial

/-- A thread that has just got its plan is not storing yet. -/
theorem storing_plan (plan : HandoffPlan Side) : plan.view.storing = false := by
  cases plan <;> rfl

/-- It knows all it has to know. -/
theorem knows_plan (plan : HandoffPlan Side) : plan.view.Knows target good memory source own := by
  cases plan <;> trivial

section Steps

variable {plan : Option CalibrationBankSnapshot → HandoffPlan Side} {reader : ReaderView}
  {rest : Nat} {before : BitVec 32} {copied : List TransportRegister} {copy : TransportRegister → BitVec 32}

/-- The outcome of an access of a thread that leaves memory and lock as they are. -/
theorem Keeps.quiet (keeps : Keeps target good memory source own (fetching plan reader))
    {after : HandoffView Side} (storing : after.storing = false)
    (knows : after.Knows target good memory source own) :
    Keeps target good memory source own after :=
  ⟨keeps.shows, keeps.held.trans storing.symm, knows⟩

/-- A failed attempt, whether it is the last one or not. -/
theorem Keeps.failed (keeps : Keeps target good memory source own (fetching plan reader))
    (rest : Nat) :
    Keeps target good memory source own (failed plan rest) ∧
      Progress good source (fetching plan reader) own (HandoffView.failed plan rest) own := by
  cases rest with
  | zero => exact ⟨keeps.quiet (storing_plan _) (knows_plan _), .fails⟩
  | succ rest => exact ⟨keeps.quiet rfl trivial, .reads⟩

/-- A reader's load of the sequence number. -/
theorem Keeps.sequenced (keeps : Keeps target good memory source own (fetching plan reader))
    (reads : Shows target.other memory source) (rest : Nat) :
    Keeps target good memory source own (sequenced plan rest (memory (target.other, .sequence))) ∧
      Progress good source (fetching plan reader) own
        (HandoffView.sequenced plan rest (memory (target.other, .sequence))) own := by
  unfold HandoffView.sequenced
  split_ifs with unready
  · exact keeps.failed rest
  · rw [not_or, not_not, and_one_iff, reads.number] at unready
    obtain ⟨positive, even⟩ := unready
    have free : source.held = false := by
      rwa [SequenceLock.odd_number (by decide)] at even
    have number : source.number 32 = BitVec.ofNat 32 (2 * source.version) := by
      rw [SequenceLock.number, free]
      rfl
    rw [reads.number]
    refine ⟨keeps.quiet rfl ⟨fun member => ?_, positive, source.version, number, le_rfl,
      fun _ _ register member => ?_⟩, .reads⟩
    · simp at member
    · obtain rfl := List.mem_singleton.mp member
      exact reads.blank.symm

/-- A reader's load of a register, or of the sequence number once more. -/
theorem Keeps.copying
    (keeps : Keeps target good memory source own (fetching plan (.copying rest before copied copy)))
    (reads : Shows target.other memory source) (well : good (memory (target.other, .generation)))
    {register : HandoffRegister} (transport : register.1 = target.other)
    (complete : register.2 = .sequence → ∀ register, register ∈ copied) :
    Keeps target good memory source own
        ((fetching plan (.copying rest before copied copy)).advance (.load register) (memory register)) ∧
      Progress good source (fetching plan (.copying rest before copied copy)) own
        ((fetching plan (.copying rest before copied copy)).advance (.load register) (memory register))
        own := by
  obtain ⟨transport, register⟩ := register
  obtain rfl := transport
  obtain ⟨generation, positive, version, number, copies⟩ := keeps.knows
  unfold advance
  dsimp only at complete ⊢
  by_cases last : register = .sequence
  · subst last
    rw [if_pos rfl, HandoffView.compared, reads.number]
    have all := complete rfl
    split_ifs with again
    · refine ⟨keeps.quiet (storing_plan _) (knows_plan _), .finds positive number ?_ copies all
        (generation (all _))⟩
      exact again.1.symm.trans number
    · exact keeps.failed rest
  · rw [if_neg last]
    refine ⟨keeps.quiet rfl ⟨fun member => ?_, positive, version, number, ?_⟩, .reads⟩
    · by_cases here : register = .generation
      · subst here
        rw [Function.update_self]
        exact well
      · rw [Function.update_of_ne (Ne.symm here)]
        refine generation ((List.mem_append.mp member).resolve_right fun contrary => ?_)
        exact here (List.mem_singleton.mp contrary).symm
    · have found : bodyOf target.other memory register = memory (target.other, register) :=
        bodyOf_of_ne last
      rw [← found]
      exact copies.load reads.free register

variable {snapshot : CalibrationBankSnapshot} {outcome : Side × List HandoffReport}
  {stored : List TransportRegister} {word : BitVec 32}

/-- A publisher's store of the odd number. -/
theorem Keeps.store_odd
    (keeps : Keeps target good memory source own (publishing snapshot outcome (.loaded before))) :
    Keeps target good (Function.update memory (target, .sequence) (before ||| 1)) source
      own.acquire (publishing snapshot outcome (.storing before [.sequence])) := by
  have number : before = own.number 32 := keeps.knows
  have free : own.held = false := keeps.held
  have even : SequenceLock.odd before = false := by
    rw [number, SequenceLock.odd_number (by decide)]
    exact free
  have odd : before ||| 1 = own.acquire.number 32 := by
    rw [or_one_eq even, number, SequenceLock.number_acquire free]
  refine ⟨⟨(Function.update_self ..).trans odd, (fun contrary => nomatch contrary),
    keeps.shows.blank⟩, rfl, odd, fun register member => ?_⟩
  obtain rfl := List.mem_singleton.mp member
  exact bodyOf_sequence

/-- A store of a publication moves it on by one register. -/
theorem advance_storing {register : HandoffRegister} (body : register.2 ≠ .sequence)
    (answer : (RegisterAction.store register word).Answer) :
    (publishing snapshot outcome (.storing before stored)).advance (.store register word) answer =
      publishing snapshot outcome (.storing before (stored ++ [register.2])) := if_neg body

/-- A publisher's store of one of the words. -/
theorem Keeps.store_word {register : TransportRegister} (body : register ≠ .sequence)
    (keeps : Keeps target good memory source own
      (publishing snapshot outcome (.storing before stored))) :
    Keeps target good (Function.update memory (target, register) (snapshot.words register)) source
      own (publishing snapshot outcome (.storing before (stored ++ [register]))) := by
  have held : own.held = true := keeps.held
  obtain ⟨number, words⟩ := keeps.knows
  refine ⟨⟨?_, fun free => absurd (free.symm.trans held) (by simp), keeps.shows.blank⟩, held,
    number, fun other member => ?_⟩
  · rw [← keeps.shows.number]
    exact Function.update_of_ne (fun contrary => body (congrArg Prod.snd contrary).symm) ..
  · rw [bodyOf_store body]
    by_cases here : other = register
    · subst here
      exact Function.update_self ..
    · rw [Function.update_of_ne here]
      refine words other ((List.mem_append.mp member).resolve_right fun contrary => ?_)
      exact here (List.mem_singleton.mp contrary)

/-- A publisher's store of the even number. -/
theorem Keeps.store_even (all : ∀ register, register ∈ stored)
    (keeps : Keeps target good memory source own
      (publishing snapshot outcome (.storing before stored))) :
    Keeps target good (Function.update memory (target, .sequence) ((before ||| 1) + 1)) source
      (own.release snapshot.words) (returned outcome) := by
  obtain ⟨number, words⟩ := keeps.knows
  refine ⟨⟨?_, fun _ => ?_, rfl⟩, rfl, trivial⟩
  · rw [SequenceLock.number_release keeps.held, ← number]
    exact Function.update_self ..
  · rw [bodyOf_store_sequence]
    exact funext fun register => words register (all register)

end Steps

/-- One access of a thread. The cases are those of its protocol. An access of the other thread does
not concern its lock. -/
theorem Keeps.step (keeps : Keeps target good memory source own view)
    (reads : Shows target.other memory source) (well : good (memory (target.other, .generation)))
    {action : RegisterAction HandoffRegister (BitVec 32)} (allowed : view.allows target action) :
    ∃ after, Keeps target good (access memory action).2 source after
        (view.advance action (access memory action).1) ∧
      Progress good source view own (view.advance action (access memory action).1) after ∧
      ∀ register,
        (access memory action).2 (target.other, register) = memory (target.other, register) := by
  have apart := target.other_ne
  cases view with
  | returned outcome => exact absurd allowed (by cases action <;> exact id)
  | fetching plan reader =>
      cases action with
      | store register word => exact absurd allowed (by cases reader <;> exact id)
      | load register =>
          cases reader with
          | copying rest before copied copy =>
              obtain ⟨kept, goes⟩ := keeps.copying reads well allowed.1 allowed.2
              exact ⟨own, kept, goes, fun _ => rfl⟩
          | waiting rest =>
              obtain rfl : register = (target.other, .sequence) := allowed
              obtain ⟨kept, goes⟩ := keeps.sequenced reads rest
              exact ⟨own, kept, goes, fun _ => rfl⟩
  | publishing snapshot outcome writer =>
      cases writer with
      | fresh =>
          cases action with
          | store register word => exact absurd allowed id
          | load register =>
              obtain rfl : register = (target, .sequence) := allowed
              exact ⟨own, ⟨keeps.shows, keeps.held, keeps.shows.number⟩, .stores (.inl rfl),
                fun _ => rfl⟩
      | loaded before =>
          cases action with
          | load register => exact absurd allowed id
          | store register word =>
              obtain ⟨rfl, rfl⟩ := allowed
              exact ⟨own.acquire, keeps.store_odd, .stores (.inr rfl), store_elsewhere apart _⟩
      | storing before stored =>
          cases action with
          | load register => exact absurd allowed id
          | store register word =>
              obtain ⟨transport, register⟩ := register
              obtain ⟨rfl, ⟨body, rfl⟩ | ⟨rfl, rfl, all⟩⟩ := allowed
              · refine ⟨own, ?_, ?_, store_elsewhere apart register⟩ <;> rw [advance_storing body]
                · exact keeps.store_word body
                · exact .stores (.inl rfl)
              · exact ⟨own.release snapshot.words, keeps.store_even all, .publishes,
                  store_elsewhere apart _⟩

/-- Whatever a reader has copied of the thread's lock, it still has. -/
theorem Progress.copies {after : HandoffView Side} (goes : Progress good source view own after next)
    {version : Nat} {copied : List TransportRegister} {copy : TransportRegister → BitVec 32}
    (copies : own.Copies version copied copy) : next.Copies version copied copy := by
  cases goes with
  | reads | fails | finds => exact copies
  | stores goes =>
      rcases goes with rfl | rfl
      · exact copies
      · exact copies.acquire
  | publishes => exact copies.release _

/-- The generation in a thread's own transport changes only to one that it publishes. -/
theorem generation_of_allows {action : RegisterAction HandoffRegister (BitVec 32)}
    (allowed : view.allows target action) :
    (access memory action).2 (target, .generation) = memory (target, .generation) ∨
      ∃ snapshot outcome writer, view = publishing snapshot outcome writer ∧
        (access memory action).2 (target, .generation) = snapshot.generation := by
  cases action with
  | load register => exact .inl rfl
  | store register word =>
      change Function.update memory register word _ = _ ∨ _
      cases view with
      | returned outcome => exact absurd allowed id
      | fetching plan reader => exact absurd allowed (by cases reader <;> exact id)
      | publishing snapshot outcome writer =>
          by_cases here : (target, TransportRegister.generation) = register
          · refine .inr ⟨snapshot, outcome, writer, rfl, ?_⟩
            subst here
            cases writer with
            | fresh => exact absurd allowed id
            | loaded before => exact absurd allowed.1 (by simp)
            | storing before stored =>
                obtain ⟨-, ⟨-, rfl⟩ | ⟨contrary, -⟩⟩ := allowed
                · exact Function.update_self ..
                · exact absurd contrary (by simp)
          · exact .inl (Function.update_of_ne here word memory)

end HandoffView

end M3Midi
