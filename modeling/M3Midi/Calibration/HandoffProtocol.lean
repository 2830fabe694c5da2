import M3Midi.Calibration.Handoff
import M3Midi.Foundation.SequenceLock

/-! # How a thread uses the transports

A thread fetches a bank from one transport and publishes one on the other. What it may
do next, and what it then knows of the two sequence numbers, is the same for both
threads: a fetched bank is one that was published, and publishing stores the words of
one bank under an odd number.
-/

namespace M3Midi

open Foundation

/-- The words that a snapshot is stored in. -/
def CalibrationBankSnapshot.words (snapshot : CalibrationBankSnapshot) :
    TransportRegister → BitVec 32
  | .sequence => 0
  | .generation => snapshot.generation
  | .calibratedMask => snapshot.bank.calibratedStringMask.setWidth 32
  | .word string fret part => pointWord (snapshot.bank.points string fret) part

/-- The snapshot that words make up. -/
def snapshotOfWords (words : TransportRegister → BitVec 32) : CalibrationBankSnapshot where
  bank := unpackBank (words .calibratedMask) words
  generation := words .generation

/-- A snapshot is read back from its words, except for the detunings. -/
theorem snapshotOfWords_words (snapshot : CalibrationBankSnapshot) :
    snapshotOfWords snapshot.words =
      { bank := transported snapshot.bank, generation := snapshot.generation } := by
  unfold snapshotOfWords
  exact congrArg (CalibrationBankSnapshot.mk · _) (unpackBank_words fun _ _ _ => rfl)

namespace HandoffTransport

/-- The transport in the other direction. -/
def other : HandoffTransport → HandoffTransport
  | restore => published
  | published => restore

/-- The two transports are different. -/
theorem other_ne (transport : HandoffTransport) : transport.other ≠ transport := by
  cases transport <;> exact HandoffTransport.noConfusion

end HandoffTransport

/-- How far a thread is with `read_latest`, and how many attempts are left after this. The words
that have been copied are known to be of one version only once the sequence has been read again. -/
inductive ReaderView
  | waiting (rest : Nat)
  | copying (rest : Nat) (before : BitVec 32) (copied : List TransportRegister)
      (copy : TransportRegister → BitVec 32)

/-- How far a thread is with `publish`. The words that have been stored so far are listed, so that
the last store completes the bank. -/
inductive WriterView
  | fresh
  | loaded (before : BitVec 32)
  | storing (before : BitVec 32) (stored : List TransportRegister)

/-- What a thread does once it has read: return, or publish and return. -/
inductive HandoffPlan (Side : Type)
  | returns (outcome : Side × List HandoffReport)
  | publishes (snapshot : CalibrationBankSnapshot) (outcome : Side × List HandoffReport)

/-- What a thread is doing. It follows from the answers that the thread has got, and not from the
memory at large. -/
inductive HandoffView (Side : Type)
  | returned (outcome : Side × List HandoffReport)
  | fetching (plan : Option CalibrationBankSnapshot → HandoffPlan Side) (view : ReaderView)
  | publishing (snapshot : CalibrationBankSnapshot) (outcome : Side × List HandoffReport)
      (view : WriterView)

variable {Side : Type}

/-- The program of a plan, for the thread that publishes on a transport. -/
def HandoffPlan.program (target : HandoffTransport) :
    HandoffPlan Side → HandoffProgram (Side × List HandoffReport)
  | .returns outcome => pure outcome
  | .publishes snapshot outcome => do
      HandoffProgram.publish target snapshot.bank snapshot.generation
      pure outcome

/-- A thread that has its plan returns or begins to publish. -/
def HandoffPlan.view : HandoffPlan Side → HandoffView Side
  | .returns outcome => .returned outcome
  | .publishes snapshot outcome => .publishing snapshot outcome .fresh

namespace HandoffView

/-- The thread that publishes on `target` fetches from the other transport. -/
def allows (target : HandoffTransport) :
    HandoffView Side → RegisterAction HandoffRegister (BitVec 32) → Prop
  | fetching _ (.waiting _), .load register => register = (target.other, .sequence)
  | fetching _ (.copying _ _ copied _), .load register =>
      register.1 = target.other ∧ (register.2 = .sequence → ∀ register, register ∈ copied)
  | publishing _ _ .fresh, .load register => register = (target, .sequence)
  | publishing _ _ (.loaded before), .store register word =>
      register = (target, .sequence) ∧ word = before ||| 1
  | publishing snapshot _ (.storing before stored), .store register word =>
      register.1 = target ∧ (register.2 ≠ .sequence ∧ word = snapshot.words register.2 ∨
        register.2 = .sequence ∧ word = (before ||| 1) + 1 ∧ ∀ register, register ∈ stored)
  | _, _ => False

/-- The view of a reader whose attempt has failed. -/
def failed (plan : Option CalibrationBankSnapshot → HandoffPlan Side) : Nat → HandoffView Side
  | 0 => (plan none).view
  | rest + 1 => fetching plan (.waiting rest)

/-- The view of a reader that has loaded the sequence number. -/
def sequenced (plan : Option CalibrationBankSnapshot → HandoffPlan Side) (rest : Nat)
    (sequence : BitVec 32) : HandoffView Side :=
  if sequence = 0 ∨ sequence &&& 1 ≠ 0 then failed plan rest
  else fetching plan (.copying rest sequence [.sequence] fun _ => 0)

/-- The view of a reader that has loaded the sequence number once more. -/
def compared (plan : Option CalibrationBankSnapshot → HandoffPlan Side) (rest : Nat)
    (copy : TransportRegister → BitVec 32) (before after : BitVec 32) : HandoffView Side :=
  if before = after ∧ after &&& 1 = 0 then (plan (some (snapshotOfWords copy))).view
  else failed plan rest

/-- What a thread is doing after the answer to an access. -/
def advance : HandoffView Side → (action : RegisterAction HandoffRegister (BitVec 32)) →
    action.Answer → HandoffView Side
  | fetching plan (.waiting rest), .load _, sequence => sequenced plan rest sequence
  | fetching plan (.copying rest before copied copy), .load register, word =>
      if register.2 = .sequence then compared plan rest copy before word
      else fetching plan
        (.copying rest before (copied ++ [register.2]) (Function.update copy register.2 word))
  | publishing snapshot outcome .fresh, .load _, before =>
      publishing snapshot outcome (.loaded before)
  | publishing snapshot outcome (.loaded before), .store _ _, _ =>
      publishing snapshot outcome (.storing before [.sequence])
  | publishing snapshot outcome (.storing before stored), .store register _, _ =>
      if register.2 = .sequence then returned outcome
      else publishing snapshot outcome (.storing before (stored ++ [register.2]))
  | view, _, _ => view

/-- What a call returns in the view it returns in. -/
def fits (view : HandoffView Side) (result : Side × List HandoffReport) : Prop :=
  view = returned result

/-- The protocol of a thread that writes to one transport and reads the other. -/
def protocol (target : HandoffTransport) :
    Protocol (RegisterAction HandoffRegister (BitVec 32)) RegisterAction.Answer
      (HandoffView Side) where
  allows := allows target
  advance := advance

/-- The thread has made the number of its transport odd. -/
def storing : HandoffView Side → Bool
  | publishing _ _ (.storing _ _) => true
  | _ => false

end HandoffView

namespace HandoffProgram

open RegisterProgram HandoffView

variable {target : HandoffTransport} {snapshot : CalibrationBankSnapshot}
  {outcome : Side × List HandoffReport}
  {plan : Option CalibrationBankSnapshot → HandoffPlan Side}

/-- A program over some of the registers can be placed among more of them part by part. -/
theorem embed_bind {Register Larger Word First Result : Type} (place : Register → Larger)
    (program : RegisterProgram Register Word First)
    (rest : First → RegisterProgram Register Word Result) :
    embed place (program >>= rest) = embed place program >>= fun first => embed place (rest first) := by
  change embed place (program.bind rest) = (embed place program).bind _
  induction program with
  | done result => rfl
  | act action next ih =>
      cases action with
      | load register => exact congrArg (Program.act _) (funext fun word => ih word)
      | store register word => exact congrArg (Program.act _) (funext fun answer => ih ())

/-- The stores of a list go on from the registers that have been stored. -/
theorem storeAll_follows (before : BitVec 32) (registers stored : List TransportRegister)
    (words : ∀ register ∈ registers, register ≠ .sequence ∧
      bankWord snapshot.bank register = snapshot.words register) :
    (protocol target).Follows
      (fun view _ => view = publishing snapshot outcome (.storing before (stored ++ registers)))
      (publishing snapshot outcome (.storing before stored))
      (embed (Prod.mk target) (storeAll (bankWord snapshot.bank) registers)) := by
  induction registers generalizing stored with
  | nil =>
      rw [List.append_nil]
      exact rfl
  | cons register rest ih =>
      obtain ⟨⟨body, same⟩, words⟩ := List.forall_mem_cons.mp words
      have goes := ih (stored ++ [register]) words
      rw [List.append_assoc, List.singleton_append] at goes
      refine ⟨⟨rfl, .inl ⟨body, same⟩⟩, fun _ => ?_⟩
      change (protocol target).Follows _ (if register = .sequence then _ else _) _
      rw [if_neg body]
      exact goes

/-- A publication stores all registers. -/
theorem mem_stored (register : TransportRegister) :
    register ∈ [.sequence, .calibratedMask] ++ bankRegisters ++ [.generation] := by
  cases register with
  | word string fret part =>
      refine List.mem_append_left _ (List.mem_append_right _ ?_)
      exact (mem_bankRegisters _).mpr ⟨string, fret, part, rfl⟩
  | _ => simp

/-- A publication follows the protocol of its transport's writer. -/
theorem publish_follows :
    (protocol target).Follows fits (publishing snapshot outcome .fresh)
      (publish target snapshot.bank snapshot.generation >>= fun _ => pure outcome) := by
  have body : ∀ register ∈ bankRegisters, register ≠ .sequence ∧
      bankWord snapshot.bank register = snapshot.words register := by
    intro register member
    obtain ⟨string, fret, part, rfl⟩ := (mem_bankRegisters register).mp member
    exact ⟨TransportRegister.noConfusion, rfl⟩
  refine Protocol.follows_bind _ (?_ : (protocol target).Follows
    (fun view _ => view = returned outcome) _ _) fun _ _ same => same ▸ rfl
  refine ⟨rfl, fun (before : BitVec 32) => ⟨⟨rfl, rfl⟩, fun _ =>
    ⟨⟨rfl, .inl ⟨TransportRegister.noConfusion, rfl⟩⟩, fun _ => ?_⟩⟩⟩
  change (protocol target).Follows _
    (publishing snapshot outcome (.storing before [.sequence, .calibratedMask]))
    (embed (Prod.mk target) (storeAll (bankWord snapshot.bank) bankRegisters >>= fun _ => do
      store .generation snapshot.generation
      store .sequence ((before ||| 1) + 1)))
  rw [embed_bind]
  refine Protocol.follows_bind _ (storeAll_follows before bankRegisters _ body) ?_
  rintro _ _ rfl
  refine ⟨⟨rfl, .inl ⟨TransportRegister.noConfusion, rfl⟩⟩, fun _ => ?_⟩
  exact ⟨⟨rfl, .inr ⟨rfl, rfl, mem_stored⟩⟩, fun _ => rfl⟩

/-- A copy of the words of a bank. -/
def SameBank (copy words : TransportRegister → BitVec 32) : Prop :=
  ∀ string fret part, copy (.word string fret part) = words (.word string fret part)

/-- The loads of a list of words go on from the registers that have been copied. -/
theorem loadAll_follows (rest : Nat) (before : BitVec 32) (registers copied : List TransportRegister)
    (copy words : TransportRegister → BitVec 32)
    (body : ∀ register ∈ registers, ∃ string fret part, register = .word string fret part)
    (same : SameBank copy words) :
    (protocol target).Follows
      (fun view words => ∃ after, view = fetching plan (.copying rest before (copied ++ registers) after) ∧
        SameBank after words ∧ after .generation = copy .generation ∧
        after .calibratedMask = copy .calibratedMask)
      (fetching plan (.copying rest before copied copy))
      (embed (Prod.mk target.other) (loadAll registers words)) := by
  induction registers generalizing copied copy words with
  | nil =>
      rw [List.append_nil]
      exact ⟨copy, rfl, same, rfl, rfl⟩
  | cons register registers ih =>
      obtain ⟨⟨string, fret, part, rfl⟩, bodies⟩ := List.forall_mem_cons.mp body
      refine ⟨⟨rfl, fun contrary => TransportRegister.noConfusion contrary⟩,
        fun (word : BitVec 32) => ?_⟩
      have goes := ih (copied ++ [.word string fret part])
        (Function.update copy (.word string fret part) word)
        (Function.update words (.word string fret part) word) bodies fun other _ _ => by
          simp only [Function.update_apply, same other _ _]
      rw [List.append_assoc, List.singleton_append, Function.update_of_ne (by simp),
        Function.update_of_ne (by simp)] at goes
      exact goes

/-- A reader copies all registers. -/
theorem mem_copied (register : TransportRegister) :
    register ∈ [.sequence, .generation, .calibratedMask] ++ bankRegisters := by
  cases register with
  | word string fret part =>
      exact List.mem_append_right _ ((mem_bankRegisters _).mpr ⟨string, fret, part, rfl⟩)
  | _ => simp

/-- A load follows the protocol if the rest does, whatever word is loaded. -/
theorem follows_load_bind {Result : Type} {goes : HandoffView Side → Result → Prop}
    {First : Type} {view : HandoffView Side} {transport : HandoffTransport}
    {register : TransportRegister}
    {rest : BitVec 32 → RegisterProgram TransportRegister (BitVec 32) First}
    {more : First → HandoffProgram Result}
    (allowed : view.allows target (.load (transport, register)))
    (continues : ∀ word, (protocol target).Follows goes
      (view.advance (.load (transport, register)) word)
      (embed (Prod.mk transport) (rest word) >>= more)) :
    (protocol target).Follows goes view
      (embed (Prod.mk transport) (load register >>= rest) >>= more) := ⟨allowed, continues⟩

/-- The attempts of `read_latest`, and the plan after it. By induction on the attempts: each of
them reads the sequence, copies the words and reads the sequence again. -/
theorem readAttempts_follows (attempts : Nat)
    (continues : ∀ found, (protocol target).Follows fits (plan found).view
      ((plan found).program target)) :
    (protocol target).Follows fits (failed plan attempts)
      (embed (Prod.mk target.other) (TransportProgram.readAttempts attempts) >>= fun found =>
        (plan found).program target) := by
  induction attempts with
  | zero => exact continues none
  | succ attempts ih =>
      rw [TransportProgram.readAttempts]
      refine follows_load_bind rfl fun (before : BitVec 32) => ?_
      change (protocol target).Follows fits (sequenced plan attempts before) _
      unfold sequenced
      split_ifs with unready
      · exact ih
      · refine follows_load_bind ⟨rfl, fun contrary => TransportRegister.noConfusion contrary⟩
          fun (generation : BitVec 32) => ?_
        refine follows_load_bind ⟨rfl, fun contrary => TransportRegister.noConfusion contrary⟩
          fun (mask : BitVec 32) => ?_
        rw [embed_bind, Program.bind_assoc]
        have blank : SameBank (Function.update (Function.update (fun _ => 0) .generation generation)
            .calibratedMask mask) fun _ => 0 := fun string fret part => by simp
        refine Protocol.follows_bind _ (loadAll_follows attempts before bankRegisters
          [.sequence, .generation, .calibratedMask] _ _
          (fun register => (mem_bankRegisters register).mp) blank) ?_
        rintro _ words ⟨copy, rfl, same, generations, masks⟩
        refine follows_load_bind ⟨rfl, fun _ => mem_copied⟩ fun (after : BitVec 32) => ?_
        change (protocol target).Follows fits (compared plan attempts copy before after) _
        unfold compared
        split_ifs with found
        · have snapshot : snapshotOfWords copy = { bank := unpackBank mask words, generation } := by
            unfold snapshotOfWords unpackBank
            simp only [same _ _ _, generations, masks]
            rfl
          rw [snapshot]
          exact continues _
        · exact ih

/-- The program of a plan. -/
theorem plan_follows (target : HandoffTransport) (plan : HandoffPlan Side) :
    (protocol target).Follows fits plan.view (plan.program target) := by
  cases plan with
  | returns outcome => exact rfl
  | publishes snapshot outcome => exact publish_follows

/-- `read_latest`, and the plan after it. -/
theorem fetch_follows (target : HandoffTransport)
    (plan : Option CalibrationBankSnapshot → HandoffPlan Side) :
    (protocol target).Follows fits (fetching plan (.waiting 2))
      (readLatest target.other >>= fun found => (plan found).program target) :=
  readAttempts_follows transportReadAttempts fun _ => plan_follows target _

end HandoffProgram

end M3Midi
