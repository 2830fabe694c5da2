import M3Midi.Ledger.AcceptedEvents

/-! # Delivery of a stream's decisions

A block queues the transitions of its samples, each at its frame, and delivers them together.
With a sink that accepts this comes to delivering sample after sample
(`M3Midi.takeEvents_blockQueue`).
-/

namespace M3Midi

open Foundation GeneratedNoteLedger

/-- A note event as the host gets it, at its sample of the stream. -/
structure TimedNote where
  time : ℕ
  kind : TransitionKind
  note : ℕ
  velocity : ℕ
  channel : ℕ
  deriving DecidableEq, Repr

/-- An event as it is given, at the time of its block. -/
def timedNote (time : ℕ) (event : VoiceTransition) (channel : ℕ) : TimedNote where
  time := time
  kind := event.kind
  note := event.note
  velocity := event.velocity
  channel := channel

/-- A queue after the transitions of a decision have entered it at an offset. -/
def tickQueue (offset : ℕ) (transitions queue : List VoiceTransition) : List VoiceTransition :=
  transitions.foldl (fun queue transition =>
    insertFromBack transitionBefore (transition.atOffset offset) queue) queue

/-- The transitions of a decision are queued one after the other. -/
theorem tickQueue_cons (offset : ℕ) (transition : VoiceTransition)
    (transitions queue : List VoiceTransition) :
    tickQueue offset (transition :: transitions) queue =
      tickQueue offset transitions
        (insertFromBack transitionBefore (transition.atOffset offset) queue) := rfl

/-- Each of them takes a place. -/
theorem length_tickQueue (offset : ℕ) (transitions queue : List VoiceTransition) :
    (tickQueue offset transitions queue).length = queue.length + transitions.length := by
  induction transitions generalizing queue with
  | nil => rfl
  | cons transition transitions ih =>
      rw [tickQueue_cons, ih, length_insertFromBack, List.length_cons]
      omega

/-- What is queued comes from the queue or from the decision. -/
theorem mem_tickQueue {offset : ℕ} {transitions queue : List VoiceTransition}
    {event : VoiceTransition} (member : event ∈ tickQueue offset transitions queue) :
    event ∈ queue ∨ ∃ transition ∈ transitions, event = transition.atOffset offset := by
  induction transitions generalizing queue with
  | nil => exact .inl member
  | cons transition transitions ih =>
      rcases ih member with queued | ⟨other, later, rfl⟩
      · rcases mem_insertFromBack.mp queued with rfl | earlier
        · exact .inr ⟨transition, List.mem_cons_self, rfl⟩
        · exact .inl earlier
      · exact .inr ⟨other, List.mem_cons_of_mem _ later, rfl⟩

/-- Transitions enter behind what is queued for earlier frames. -/
theorem tickQueue_append {offset : ℕ} {front : List VoiceTransition}
    (earlier : ∀ event ∈ front, event.sampleOffset < offset)
    (transitions back : List VoiceTransition) :
    tickQueue offset transitions (front ++ back) = front ++ tickQueue offset transitions back := by
  induction transitions generalizing back with
  | nil => rfl
  | cons transition transitions ih =>
      have stops : ∀ event ∈ front,
          transitionBefore (transition.atOffset offset) event = false := by
        intro event member
        have before := earlier event member
        unfold transitionBefore
        have apart : (transition.atOffset offset).sampleOffset ≠ event.sampleOffset :=
          (Nat.ne_of_lt before).symm
        rw [if_pos apart]
        exact decide_eq_false (Nat.not_lt.mpr before.le)
      rw [tickQueue_cons, insertFromBack_append stops, ih, tickQueue_cons]

/-- The frame of a decision does not matter to the order of its transitions. -/
theorem tickQueue_atOffset (offset : ℕ) (transitions : List VoiceTransition) :
    tickQueue offset transitions [] = (tickQueue 0 transitions []).map (·.atOffset offset) := by
  have general (queue : List VoiceTransition) :
      (∀ event ∈ queue, event.sampleOffset = 0) →
        tickQueue offset transitions (queue.map (·.atOffset offset)) =
          (tickQueue 0 transitions queue).map (·.atOffset offset) := by
    induction transitions generalizing queue with
    | nil => exact fun _ => rfl
    | cons transition transitions ih =>
        intro start
        have same : ∀ event ∈ queue,
            transitionBefore ((transition.atOffset 0).atOffset offset) (event.atOffset offset) =
              transitionBefore (transition.atOffset 0) event := by
          intro event member
          have moved : ((transition.atOffset 0).atOffset offset).sampleOffset =
              (event.atOffset offset).sampleOffset := rfl
          have still : (transition.atOffset 0).sampleOffset = event.sampleOffset :=
            (start event member).symm
          unfold transitionBefore
          rw [if_neg (not_not.mpr moved), if_neg (not_not.mpr still)]
          rfl
        rw [tickQueue_cons, tickQueue_cons, ← ih]
        · exact congrArg (tickQueue offset transitions) (insertFromBack_map same)
        · intro event member
          rcases mem_insertFromBack.mp member with rfl | queued
          · rfl
          · exact start event queued
  exact general [] fun event member => absurd member List.not_mem_nil

/-- What a block has queued in the end. -/
def blockQueue (decisions : ℕ → List VoiceTransition) (frames : List ℕ) : List VoiceTransition :=
  frames.flatMap fun frame => tickQueue frame (decisions frame) []

/-- What the host gets of decisions at successive samples, up to the first event that is
refused, and the ledger after them if none is. -/
def takeTicks (routing : MidiRouting) (startChannel : ℕ) :
    ℕ → List (List VoiceTransition) → GeneratedNoteLedger →
      List TimedNote × Option GeneratedNoteLedger
  | _, [], ledger => ([], some ledger)
  | time, transitions :: ticks, ledger =>
      let taken := takeEvents routing startChannel (tickQueue 0 transitions []) ledger
      let notes := taken.1.map fun event => timedNote time event.1 event.2
      match taken.2 with
      | none => (notes, none)
      | some next =>
          let later := takeTicks routing startChannel (time + 1) ticks next
          (notes ++ later.1, later.2)

variable {routing : MidiRouting} {startChannel : ℕ} {ledger : GeneratedNoteLedger}

/-- Decisions that are all accepted are followed by those that come later. -/
theorem takeTicks_append {first second : List (List VoiceTransition)} {time : ℕ}
    {middle : GeneratedNoteLedger}
    (taken : (takeTicks routing startChannel time first ledger).2 = some middle) :
    takeTicks routing startChannel time (first ++ second) ledger =
      ((takeTicks routing startChannel time first ledger).1 ++
          (takeTicks routing startChannel (time + first.length) second middle).1,
        (takeTicks routing startChannel (time + first.length) second middle).2) := by
  induction first generalizing time ledger with
  | nil =>
      obtain rfl := Option.some.inj taken
      rfl
  | cons transitions ticks ih =>
      rw [List.cons_append, takeTicks, takeTicks]
      rw [takeTicks] at taken
      dsimp only at taken ⊢
      cases outcome : (takeEvents routing startChannel (tickQueue 0 transitions []) ledger).2 with
      | none =>
          rw [outcome] at taken
          cases taken
      | some next =>
          rw [outcome] at taken
          dsimp only at taken ⊢
          rw [ih taken, List.length_cons, Nat.add_assoc, Nat.add_comm 1, List.append_assoc]

/-- The decisions of a part are accepted where those of the whole are. -/
theorem takeTicks_prefix {first second : List (List VoiceTransition)} {time : ℕ}
    (taken : (takeTicks routing startChannel time (first ++ second) ledger).2.isSome = true) :
    (takeTicks routing startChannel time first ledger).2.isSome = true := by
  induction first generalizing time ledger with
  | nil => rfl
  | cons transitions ticks ih =>
      rw [List.cons_append, takeTicks] at taken
      rw [takeTicks]
      dsimp only at taken ⊢
      cases outcome : (takeEvents routing startChannel (tickQueue 0 transitions []) ledger).2 with
      | none =>
          rw [outcome] at taken
          cases taken
      | some next =>
          rw [outcome] at taken
          exact ih taken

/-- A settled ledger stays settled. -/
theorem takeTicks_settled {ticks : List (List VoiceTransition)} {time : ℕ}
    (settled : ledger.settled = ledger) {next : GeneratedNoteLedger}
    (taken : (takeTicks routing startChannel time ticks ledger).2 = some next) :
    next.settled = next := by
  induction ticks generalizing time ledger with
  | nil =>
      obtain rfl := Option.some.inj taken
      exact settled
  | cons transitions ticks ih =>
      rw [takeTicks] at taken
      dsimp only at taken
      have kept := congrArg Prod.snd (@takeEvents_settled routing startChannel ledger
        (tickQueue 0 transitions []))
      rw [settled] at kept
      cases outcome : (takeEvents routing startChannel (tickQueue 0 transitions []) ledger).2 with
      | none =>
          rw [outcome] at taken
          cases taken
      | some middle =>
          rw [outcome] at taken kept
          exact ih (Option.some.inj kept).symm taken

/-- After decisions that have been taken, the next ones can be. -/
theorem takeTicks_receptive {ticks : List (List VoiceTransition)} {time maxFrames : ℕ}
    (receptive : Receptive maxFrames ledger) {next : GeneratedNoteLedger}
    (taken : (takeTicks routing startChannel time ticks ledger).2 = some next) :
    Receptive maxFrames next := by
  induction ticks generalizing time ledger with
  | nil =>
      obtain rfl := Option.some.inj taken
      exact receptive
  | cons transitions ticks ih =>
      rw [takeTicks] at taken
      dsimp only at taken
      cases outcome : (takeEvents routing startChannel (tickQueue 0 transitions []) ledger).2 with
      | none =>
          rw [outcome] at taken
          cases taken
      | some middle =>
          rw [outcome] at taken
          exact ih (receptive.takeEvents outcome) taken

/-- A block's queue is taken as its decisions are, one after the other. By induction on the
decisions, whose offsets ascend. -/
theorem takeEvents_blockQueue (decisions : ℕ → List VoiceTransition) (start first count : ℕ) :
    ((takeEvents routing startChannel (blockQueue decisions (List.range' first count)) ledger).1.map
        fun taken => timedNote (start + taken.1.sampleOffset) taken.1 taken.2) =
        (takeTicks routing startChannel (start + first)
          ((List.range' first count).map decisions) ledger).1 ∧
      (takeEvents routing startChannel (blockQueue decisions (List.range' first count)) ledger).2 =
        (takeTicks routing startChannel (start + first)
          ((List.range' first count).map decisions) ledger).2 := by
  induction count generalizing first ledger with
  | zero => exact ⟨rfl, rfl⟩
  | succ count ih =>
      have here := @takeEvents_atOffset routing startChannel ledger
        (tickQueue 0 (decisions first) []) first
      rw [← tickQueue_atOffset] at here
      rw [List.range'_succ, blockQueue, List.flatMap_cons, List.map_cons, takeTicks]
      dsimp only
      cases outcome : (takeEvents routing startChannel (tickQueue 0 (decisions first) [])
        ledger).2 with
      | none =>
          rw [outcome] at here
          rw [takeEvents_append_refused (congrArg Prod.snd here), here]
          refine ⟨?_, rfl⟩
          rw [List.map_map]
          rfl
      | some next =>
          rw [outcome] at here
          rw [takeEvents_append (congrArg Prod.snd here), here]
          obtain ⟨notes, ledgers⟩ := @ih next (first + 1)
          refine ⟨?_, ledgers⟩
          dsimp only
          rw [List.map_append, List.map_map]
          exact congrArg₂ _ rfl notes

end M3Midi
