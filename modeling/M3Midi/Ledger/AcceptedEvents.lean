import M3Midi.Ledger.Gating

/-! # A delivery whose sink accepts

With a sink that accepts every push, what a delivery does is a matter of the slots alone: each
event is taken on a channel, or refused and the output blocked. So the offsets within the block
do not matter, and a queue is delivered part by part
(`M3Midi.GeneratedNoteLedger.takeEvents_append`, `M3Midi.Delivery.deliverEvents_take`).
-/

namespace M3Midi

open Foundation

/-- A transition at another place of its block. -/
def VoiceTransition.atOffset (offset : ℕ) (transition : VoiceTransition) : VoiceTransition :=
  { transition with sampleOffset := offset }

namespace GeneratedNoteLedger

open Delivery

/-- A valid transition has a MIDI note. -/
theorem validTransition_note {transition : VoiceTransition}
    (valid : validTransition transition = true) : transition.note ≤ 127 := by
  simp only [validTransition, Bool.and_eq_true, decide_eq_true_eq] at valid
  exact valid.1.1

/-- Is there such a MIDI channel? -/
def validChannel (channel : ℕ) : Bool := 1 ≤ channel && channel ≤ 16

/-- The channel an accepted event is sent on, and the ledger then; absent when the event is
refused. -/
def takeEvent (routing : MidiRouting) (startChannel : ℕ) (ledger : GeneratedNoteLedger)
    (event : VoiceTransition) : Option (ℕ × GeneratedNoteLedger) :=
  match event.kind with
  | .noteOff =>
      (ledger.findVoice event).bind fun slot =>
        let channel := (ledger.voices slot).channel
        if validChannel channel then some (channel, ledger.clearVoice slot) else none
  | .noteOn =>
      if identityInUse ledger event ∨ ledger.activeCount ≥ maxVoices then none
      else ledger.findFreeVoice.bind fun slot =>
        let channel := ledger.allocateChannel routing startChannel event
        if validChannel channel then some (channel, occupyVoice slot event channel ledger)
        else none

/-- The events that are accepted, up to the first that is refused, and the ledger after them
if none is. -/
def takeEvents (routing : MidiRouting) (startChannel : ℕ) :
    List VoiceTransition → GeneratedNoteLedger →
      List (VoiceTransition × ℕ) × Option GeneratedNoteLedger
  | [], ledger => ([], some ledger)
  | event :: events, ledger =>
      match takeEvent routing startChannel ledger event with
      | none => ([], none)
      | some (channel, next) =>
          let taken := takeEvents routing startChannel events next
          ((event, channel) :: taken.1, taken.2)

/-- A ledger after a delivery: as the events leave it, or blocked by the one that was refused. -/
def Ends (taken : Option GeneratedNoteLedger) (ledger : GeneratedNoteLedger) : Prop :=
  match taken with
  | some next => ledger = next
  | none => ledger.outputBlocked = true ∧ ledger.panicHold = false

variable {routing : MidiRouting} {startChannel : ℕ} {ledger : GeneratedNoteLedger}

/-- Where all events of a first part are accepted, the second part goes on from there. -/
theorem takeEvents_append {first second : List VoiceTransition} {middle : GeneratedNoteLedger}
    (taken : (takeEvents routing startChannel first ledger).2 = some middle) :
    takeEvents routing startChannel (first ++ second) ledger =
      ((takeEvents routing startChannel first ledger).1 ++
          (takeEvents routing startChannel second middle).1,
        (takeEvents routing startChannel second middle).2) := by
  induction first generalizing ledger with
  | nil =>
      obtain rfl := Option.some.inj taken
      rfl
  | cons event events ih =>
      rw [List.cons_append, takeEvents, takeEvents]
      rw [takeEvents] at taken
      cases outcome : takeEvent routing startChannel ledger event with
      | none =>
          rw [outcome] at taken
          cases taken
      | some accepted =>
          obtain ⟨channel, next⟩ := accepted
          rw [outcome] at taken
          dsimp only at taken ⊢
          rw [ih taken]
          rfl

/-- An event that is refused in a first part is refused in the whole. -/
theorem takeEvents_append_refused {first second : List VoiceTransition}
    (refused : (takeEvents routing startChannel first ledger).2 = none) :
    takeEvents routing startChannel (first ++ second) ledger =
      takeEvents routing startChannel first ledger := by
  induction first generalizing ledger with
  | nil => cases refused
  | cons event events ih =>
      rw [List.cons_append, takeEvents, takeEvents]
      rw [takeEvents] at refused
      cases outcome : takeEvent routing startChannel ledger event with
      | none => rfl
      | some accepted =>
          obtain ⟨channel, next⟩ := accepted
          rw [outcome] at refused
          dsimp only at refused ⊢
          rw [ih refused]

/-- The place in the block does not matter to what becomes of an event. -/
theorem takeEvent_atOffset (event : VoiceTransition) (offset : ℕ) :
    takeEvent routing startChannel ledger (event.atOffset offset) =
      takeEvent routing startChannel ledger event := rfl

/-- What is taken of some events does not depend on their offsets. -/
theorem takeEvents_atOffset (events : List VoiceTransition) (offset : ℕ) :
    takeEvents routing startChannel (events.map (·.atOffset offset)) ledger =
      ((takeEvents routing startChannel events ledger).1.map fun taken =>
          (taken.1.atOffset offset, taken.2),
        (takeEvents routing startChannel events ledger).2) := by
  induction events generalizing ledger with
  | nil => rfl
  | cons event events ih =>
      rw [List.map_cons, takeEvents, takeEvents, takeEvent_atOffset]
      cases takeEvent routing startChannel ledger event with
      | none => rfl
      | some accepted =>
          dsimp only
          rw [ih]
          rfl

/-- The ledger as it stands between two blocks that nothing disturbs. -/
def settled (ledger : GeneratedNoteLedger) : GeneratedNoteLedger :=
  { ledger with queue := [], invalidTransition := false, cleanupComplete := true }

/-- What is queued does not matter to what becomes of an event. -/
theorem takeEvent_settled (event : VoiceTransition) :
    takeEvent routing startChannel ledger.settled event =
      (takeEvent routing startChannel ledger event).map fun taken =>
        (taken.1, taken.2.settled) := by
  unfold takeEvent
  cases event.kind with
  | noteOff =>
      change ((ledger.findVoice event).bind fun slot =>
        if validChannel (ledger.voices slot).channel then
          some ((ledger.voices slot).channel, ledger.settled.clearVoice slot) else none) = _
      cases ledger.findVoice event with
      | none => rfl
      | some slot =>
          dsimp only [Option.bind_some]
          split_ifs <;> rfl
  | noteOn =>
      change (if identityInUse ledger event ∨ ledger.activeCount ≥ maxVoices then none
        else ledger.findFreeVoice.bind fun slot =>
          if validChannel (ledger.allocateChannel routing startChannel event) then
            some (ledger.allocateChannel routing startChannel event, occupyVoice slot event
              (ledger.allocateChannel routing startChannel event) ledger.settled)
          else none) = _
      dsimp only
      by_cases refused : identityInUse ledger event ∨ ledger.activeCount ≥ maxVoices
      · rw [if_pos refused, if_pos refused]
        rfl
      · rw [if_neg refused, if_neg refused]
        cases ledger.findFreeVoice with
        | none => rfl
        | some slot =>
            dsimp only [Option.bind_some]
            split_ifs <;> rfl

/-- It does not depend on what is still in the queue. -/
theorem takeEvents_settled (events : List VoiceTransition) :
    takeEvents routing startChannel events ledger.settled =
      ((takeEvents routing startChannel events ledger).1,
        (takeEvents routing startChannel events ledger).2.map settled) := by
  induction events generalizing ledger with
  | nil => rfl
  | cons event events ih =>
      rw [takeEvents, takeEvents, takeEvent_settled]
      cases takeEvent routing startChannel ledger event with
      | none => rfl
      | some accepted =>
          dsimp only [Option.map_some]
          rw [ih]

/-- An accepted event fills or clears one slot, and leaves nothing pending there. -/
theorem takeEvent_changes {event : VoiceTransition} {channel : ℕ} {next : GeneratedNoteLedger}
    (taken : takeEvent routing startChannel ledger event = some (channel, next)) :
    ∃ slot voice count, voice.pendingRelease = false ∧
      next = { ledger with
        voices := Function.update ledger.voices slot voice, activeCount := count } := by
  unfold takeEvent at taken
  cases kind : event.kind with
  | noteOff =>
      rw [kind] at taken
      obtain ⟨slot, -, sent⟩ := Option.bind_eq_some_iff.mp taken
      dsimp only at sent
      split_ifs at sent
      obtain ⟨-, rfl⟩ := Prod.mk.inj (Option.some.inj sent)
      exact ⟨slot, {}, _, rfl, rfl⟩
  | noteOn =>
      rw [kind] at taken
      dsimp only at taken
      by_cases refused : identityInUse ledger event ∨ ledger.activeCount ≥ maxVoices
      · rw [if_pos refused] at taken
        cases taken
      rw [if_neg refused] at taken
      obtain ⟨slot, -, sent⟩ := Option.bind_eq_some_iff.mp taken
      split_ifs at sent
      obtain ⟨-, rfl⟩ := Prod.mk.inj (Option.some.inj sent)
      exact ⟨slot, _, _, rfl, rfl⟩

/-- Accepted events leave alone whether a cleanup is complete. -/
theorem takeEvents_cleanupComplete {events : List VoiceTransition} {next : GeneratedNoteLedger}
    (taken : (takeEvents routing startChannel events ledger).2 = some next) :
    next.cleanupComplete = ledger.cleanupComplete := by
  induction events generalizing ledger with
  | nil =>
      obtain rfl := Option.some.inj taken
      rfl
  | cons event events ih =>
      rw [takeEvents] at taken
      cases outcome : takeEvent routing startChannel ledger event with
      | none =>
          rw [outcome] at taken
          cases taken
      | some accepted =>
          rw [outcome] at taken
          obtain ⟨slot, voice, count, -, changed⟩ := takeEvent_changes outcome
          have kept : accepted.2.cleanupComplete = ledger.cleanupComplete := by rw [changed]
          exact (ih taken).trans kept

/-- The end of a block settles the ledger. -/
theorem Ends.beginBlock {taken : Option GeneratedNoteLedger} (ends : ledger.Ends taken)
    (cleaned : ∀ next, taken = some next → next.cleanupComplete = true) :
    ledger.beginBlock.Ends (taken.map settled) := by
  cases taken with
  | none => exact ends
  | some next =>
      have clean := cleaned next rfl
      obtain rfl : ledger = next := ends
      change { ledger with queue := [], invalidTransition := false } = ledger.settled
      rw [settled, ← clean]

/-- A ledger with room for a block, and nothing in the way of its delivery. -/
structure Receptive (maxFrames : ℕ) (ledger : GeneratedNoteLedger) : Prop where
  allocated : ledger.allocated = true
  room : (maxFrames + decisionQuantum - 1) / decisionQuantum * maxTickTransitions ≤ ledger.capacity
  frames : ledger.maxFrames = maxFrames
  awake : ledger.panicHold = false
  unblocked : ledger.outputBlocked = false
  released : ∀ slot, (ledger.voices slot).pendingRelease = false

namespace Receptive

variable {maxFrames : ℕ}

/-- Where all events can be taken, no release is pending. -/
theorem releasePending (receptive : Receptive maxFrames ledger) : ledger.releasePending = false :=
  List.any_eq_false.mpr fun slot _ => Bool.eq_false_iff.mp (receptive.released slot)

/-- A slot that is rewritten without a pending release leaves the ledger receptive. -/
theorem update (receptive : Receptive maxFrames ledger) {slot : Fin maxVoices} {voice : ActiveVoice}
    (released : voice.pendingRelease = false) (count : ℕ) :
    Receptive maxFrames
      { ledger with voices := Function.update ledger.voices slot voice, activeCount := count } where
  allocated := receptive.allocated
  room := receptive.room
  frames := receptive.frames
  awake := receptive.awake
  unblocked := receptive.unblocked
  released other := by
    by_cases same : other = slot
    · subst same
      change (Function.update ledger.voices other voice other).pendingRelease = false
      rw [Function.update_self]
      exact released
    · change (Function.update ledger.voices slot voice other).pendingRelease = false
      rw [Function.update_of_ne same]
      exact receptive.released other

/-- The ledger that has dropped its queue is as receptive as before. -/
theorem settled (receptive : Receptive maxFrames ledger) : Receptive maxFrames ledger.settled :=
  ⟨receptive.allocated, receptive.room, receptive.frames, receptive.awake, receptive.unblocked,
    receptive.released⟩

/-- After an event has been taken, the next one can be. -/
theorem takeEvent (receptive : Receptive maxFrames ledger) {event : VoiceTransition}
    {channel : ℕ} {next : GeneratedNoteLedger}
    (taken : takeEvent routing startChannel ledger event = some (channel, next)) :
    Receptive maxFrames next := by
  obtain ⟨slot, voice, count, released, rfl⟩ := takeEvent_changes taken
  exact receptive.update released count

/-- Accepted events leave the ledger receptive. -/
theorem takeEvents (receptive : Receptive maxFrames ledger) {events : List VoiceTransition}
    {next : GeneratedNoteLedger}
    (taken : (takeEvents routing startChannel events ledger).2 = some next) :
    Receptive maxFrames next := by
  induction events generalizing ledger with
  | nil =>
      obtain rfl := Option.some.inj taken
      exact receptive
  | cons event events ih =>
      rw [GeneratedNoteLedger.takeEvents] at taken
      cases outcome : GeneratedNoteLedger.takeEvent routing startChannel ledger event with
      | none =>
          rw [outcome] at taken
          cases taken
      | some accepted =>
          rw [outcome] at taken
          exact ih (receptive.takeEvent outcome) taken

end Receptive

end GeneratedNoteLedger

namespace Delivery

open GeneratedNoteLedger

variable {delivery : Delivery} {request : DeliveryRequest}
  {answer : List Push → VoiceTransition → ℕ → Bool}

/-- The sink accepts the event on every channel there is. -/
def Accepts (answer : List Push → VoiceTransition → ℕ → Bool) (event : VoiceTransition) : Prop :=
  ∀ pushed channel, validChannel channel = true → answer pushed event channel = true

/-- An accepting sink takes a push to one of the sixteen channels. -/
theorem push_take {event : VoiceTransition} (accepts : Accepts answer event) (channel : ℕ) :
    delivery.push (some answer) event channel =
      if validChannel channel then
        (true, ⟨delivery.ledger, delivery.pushed ++ [⟨event, channel, true⟩]⟩)
      else (false, delivery) := by
  unfold push
  dsimp only
  by_cases valid : channel ≥ 1 ∧ channel ≤ 16
  · have there : validChannel channel = true := by simpa [validChannel] using valid
    rw [if_pos valid, if_pos there, accepts delivery.pushed channel there]
  · have missing : validChannel channel ≠ true := by simpa [validChannel] using valid
    rw [if_neg valid, if_neg missing]

/-- An accepted event is pushed, and a refused one blocks the output and is not. -/
theorem deliverEvent_take {event : VoiceTransition} (sink : request.sink = some answer)
    (accepts : Accepts answer event) (within : event.sampleOffset < request.frames)
    (awake : delivery.ledger.panicHold = false) :
    match takeEvent request.routing request.startChannel delivery.ledger event with
    | some (channel, next) => delivery.deliverEvent request event =
        (true, ⟨next, delivery.pushed ++ [⟨event, channel, true⟩]⟩)
    | none => (delivery.deliverEvent request event).1 = false ∧
        (delivery.deliverEvent request event).2.pushed = delivery.pushed := by
  unfold deliverEvent takeEvent
  rw [if_neg (Nat.not_le.mpr within)]
  cases event.kind with
  | noteOff =>
      dsimp only
      unfold deliverNoteOff
      cases delivery.ledger.findVoice event with
      | none => exact ⟨rfl, rfl⟩
      | some slot =>
          dsimp only [Option.bind_some]
          rw [sink, push_take accepts]
          split_ifs
          · rfl
          · exact ⟨rfl, rfl⟩
  | noteOn =>
      dsimp only
      unfold deliverNoteOn
      rw [awake, if_neg Bool.false_ne_true, sink]
      by_cases used : identityInUse delivery.ledger event = true
      · rw [if_pos used, if_pos (.inl used)]
        exact ⟨rfl, rfl⟩
      · by_cases full : delivery.ledger.activeCount ≥ maxVoices
        · rw [if_neg used, if_pos full, if_pos (.inr full)]
          exact ⟨rfl, rfl⟩
        · rw [if_neg used, if_neg full, if_neg (not_or.mpr ⟨used, full⟩)]
          cases delivery.ledger.findFreeVoice with
          | none => exact ⟨rfl, rfl⟩
          | some slot =>
              dsimp only [Option.bind_some]
              rw [push_take accepts]
              by_cases zero : delivery.ledger.allocateChannel request.routing
                  request.startChannel event = 0
              · rw [if_pos zero, zero]
                exact ⟨rfl, rfl⟩
              · rw [if_neg zero]
                split_ifs
                · rfl
                · exact ⟨rfl, rfl⟩

/-- A queue is delivered up to the first event that is refused. By induction on the queue. -/
theorem deliverEvents_take {events : List VoiceTransition} (sink : request.sink = some answer)
    (accepts : ∀ event ∈ events, Accepts answer event)
    (within : ∀ event ∈ events, event.sampleOffset < request.frames)
    (awake : delivery.ledger.panicHold = false)
    (unblocked : delivery.ledger.outputBlocked = false) :
    (deliverEvents request events delivery).pushed = delivery.pushed ++
        (takeEvents request.routing request.startChannel events delivery.ledger).1.map
          (fun taken => ⟨taken.1, taken.2, true⟩) ∧
      match (takeEvents request.routing request.startChannel events delivery.ledger).2 with
      | some next => (deliverEvents request events delivery).ledger = next ∧
          next.outputBlocked = false
      | none => (deliverEvents request events delivery).ledger.outputBlocked = true := by
  induction events generalizing delivery with
  | nil => exact ⟨(List.append_nil _).symm, rfl, unblocked⟩
  | cons event events ih =>
      obtain ⟨accepted, others⟩ := List.forall_mem_cons.mp accepts
      obtain ⟨inside, rest⟩ := List.forall_mem_cons.mp within
      have taken := deliverEvent_take sink accepted inside awake
      have outcome : Outcome delivery event (delivery.deliverEvent request event) :=
        deliverEvent_outcome event
      unfold deliverEvents takeEvents
      cases found : takeEvent request.routing request.startChannel delivery.ledger event with
      | none =>
          rw [found] at taken
          have blocked := outcome.blocked
          generalize delivery.deliverEvent request event = delivered at taken blocked ⊢
          obtain ⟨goes, next⟩ := delivered
          obtain ⟨rfl, pushed⟩ := taken
          refine ⟨pushed.trans (List.append_nil _).symm, ?_⟩
          rw [Bool.not_false, Bool.or_true] at blocked
          exact blocked
      | some accepted =>
          obtain ⟨channel, next⟩ := accepted
          rw [found] at taken
          dsimp only at taken ⊢
          have hold := outcome.hold
          have open_ := outcome.blocked
          rw [taken] at hold open_ ⊢
          have kept : next.outputBlocked = false := open_.trans (by rw [unblocked]; rfl)
          have later := @ih ⟨next, delivery.pushed ++ [⟨event, channel, true⟩]⟩ others rest
            (hold.trans awake) kept
          refine ⟨later.1.trans ?_, later.2⟩
          rw [List.map_cons, List.append_assoc]
          rfl

/-- A delivery with nothing in its way takes its queue. No release is pending and no hold is on, so
that the queue is all there is to do. -/
theorem deliverQueued_take {maxFrames : ℕ} (receptive : Receptive maxFrames delivery.ledger)
    (sink : request.sink = some answer)
    (sized : 1 ≤ request.frames ∧ request.frames ≤ maxFrames)
    (accepts : ∀ event ∈ delivery.ledger.queue, Accepts answer event)
    (within : ∀ event ∈ delivery.ledger.queue, event.sampleOffset < request.frames)
    (notes : ∀ event ∈ delivery.ledger.queue, event.note ≤ 127) :
    ∃ invalid : Bool,
      let taken := takeEvents request.routing request.startChannel delivery.ledger.queue
        { delivery.ledger with invalidTransition := invalid }
      (delivery.deliverQueued request).2.pushed = delivery.pushed ++
          taken.1.map (fun event => ⟨event.1, event.2, true⟩) ∧
        (delivery.deliverQueued request).2.ledger.Ends taken.2 := by
  let checked : Delivery := delivery.mapLedger (checkRequest request)
  have delivered := @deliverEvents_take checked request answer checked.ledger.queue sink accepts
    within receptive.awake receptive.unblocked
  have awake : (deliverEvents request checked.ledger.queue checked).ledger.panicHold = false := by
    have guards := @deliverEvents_guards checked request receptive.unblocked
      checked.ledger.queue notes
    exact guards.hold.trans receptive.awake
  have outcome : (delivery.deliverQueued request).2 =
      deliverEvents request checked.ledger.queue checked := by
    have accepted : ¬ (delivery.ledger.allocated = false ∨ request.frames = 0 ∨
        request.frames > delivery.ledger.maxFrames) := by
      rw [receptive.allocated, receptive.frames]
      simp only [Bool.true_eq_false, false_or, not_or]
      omega
    have opened : checked.ledger.releasePending = false ∧ checked.ledger.outputBlocked = false :=
      ⟨receptive.releasePending, receptive.unblocked⟩
    unfold deliverQueued
    rw [if_neg accepted]
    dsimp only
    rw [if_pos opened]
    have still : (deliverEvents request checked.ledger.queue checked).ledger.finishHold request =
        (deliverEvents request checked.ledger.queue checked).ledger := if_pos awake
    change { deliverEvents request checked.ledger.queue checked with
      ledger := (deliverEvents request checked.ledger.queue checked).ledger.finishHold request } = _
    rw [still]
  refine ⟨checked.ledger.invalidTransition, ?_⟩
  rw [outcome]
  refine ⟨delivered.1, ?_⟩
  have taken := delivered.2
  change GeneratedNoteLedger.Ends (takeEvents request.routing request.startChannel
    checked.ledger.queue checked.ledger).2 _
  cases found : (takeEvents request.routing request.startChannel checked.ledger.queue
    checked.ledger).2 with
  | none =>
      rw [found] at taken
      exact ⟨taken, awake⟩
  | some next =>
      rw [found] at taken
      exact taken.1

end Delivery

end M3Midi
