import M3Midi.Ledger.AcceptedEvents
import M3Midi.Detector.SampleClock
import Mathlib.Algebra.Order.BigOperators.Group.Finset
import Mathlib.Data.Prod.Lex

/-! # The queue of a block

What a block queues stays in the order of its sample offsets, note-offs before
note-ons, and is delivered in that order up to the first event that is refused. The
storage is large enough for the decisions of the block, whatever the phase of the
decision clock, and the releases of all voices beside them.
-/

namespace M3Midi

open Foundation GeneratedNoteLedger

/-- The order of the queue: by offset, then note-offs first, then by sequence. -/
def VoiceTransition.place (transition : VoiceTransition) : ℕ ×ₗ ℕ ×ₗ ℕ :=
  toLex (transition.sampleOffset,
    toLex ((if transition.kind = .noteOn then 1 else 0), transition.sequence))

/-- The comparison of two transitions is the one of their places. -/
theorem transitionBefore_iff {left right : VoiceTransition} :
    transitionBefore left right = true ↔ left.place < right.place := by
  rw [transitionBefore, VoiceTransition.place, VoiceTransition.place, Prod.Lex.toLex_lt_toLex,
    Prod.Lex.toLex_lt_toLex]
  dsimp only
  by_cases apart : left.sampleOffset = right.sampleOffset
  · rw [if_neg (not_not.mpr apart)]
    cases left.kind <;> cases right.kind <;> simp [apart]
  · rw [if_pos apart, decide_eq_true_eq]
    exact (or_iff_left fun same => apart same.1).symm

namespace GeneratedNoteLedger

/-- A list of calls of `queue_transition`, each with its number of frames: the transitions
that are accepted, and the ledger after the calls. -/
def queueAll : GeneratedNoteLedger → List (VoiceTransition × ℕ) →
    List VoiceTransition × GeneratedNoteLedger
  | ledger, [] => ([], ledger)
  | ledger, (transition, frames) :: calls =>
      let queued := ledger.queueTransition transition frames
      let rest := queueAll queued.2 calls
      (if queued.1 then transition :: rest.1 else rest.1, rest.2)

variable {ledger : GeneratedNoteLedger}

/-- A refused transition marks the block invalid and changes nothing else. -/
theorem queueTransition_refused {transition : VoiceTransition} {frames : ℕ}
    (refused : (ledger.queueTransition transition frames).1 = false) :
    (ledger.queueTransition transition frames).2 = { ledger with invalidTransition := true } := by
  unfold queueTransition at refused ⊢
  split_ifs at refused ⊢
  rfl

/-- A transition that is accepted is inserted into the queue, and nothing else changes. -/
theorem queueTransition_accepted {transition : VoiceTransition} {frames : ℕ}
    (accepted : (ledger.queueTransition transition frames).1 = true) :
    (ledger.queueTransition transition frames).2 =
      { ledger with queue := insertFromBack transitionBefore transition ledger.queue } := by
  unfold queueTransition at accepted ⊢
  split_ifs at accepted ⊢
  rfl

/-- The queue is what was queued before and the accepted transitions, inserted in turn. -/
theorem queueAll_queue {calls : List (VoiceTransition × ℕ)} {earlier : List VoiceTransition}
    (queued : ledger.queue = insertAll transitionBefore earlier) :
    (queueAll ledger calls).2.queue =
      insertAll transitionBefore (earlier ++ (queueAll ledger calls).1) := by
  induction calls generalizing ledger earlier with
  | nil =>
      rw [queueAll, List.append_nil]
      exact queued
  | cons call calls ih =>
      obtain ⟨transition, frames⟩ := call
      rw [queueAll]
      dsimp only
      cases answer : (ledger.queueTransition transition frames).1 with
      | false =>
          rw [queueTransition_refused answer, if_neg Bool.false_ne_true]
          exact ih queued
      | true =>
          rw [queueTransition_accepted answer, if_pos rfl]
          have inserted : insertFromBack transitionBefore transition ledger.queue =
              insertAll transitionBefore (earlier ++ [transition]) := by
            rw [insertAll_concat, queued]
          rw [ih inserted, List.append_assoc]
          rfl

/-- The queue of a block is the accepted transitions, stably sorted. -/
theorem queueAll_stablySorted (ledger : GeneratedNoteLedger)
    (calls : List (VoiceTransition × ℕ)) :
    StablySorted VoiceTransition.place (queueAll ledger.beginBlock calls).1
      (queueAll ledger.beginBlock calls).2.queue := by
  rw [@queueAll_queue ledger.beginBlock calls [] rfl]
  exact insertAll_stablySorted (fun left right => @transitionBefore_iff left right) _

end GeneratedNoteLedger

/-- An event that a delivery does not pass over: it lies in the block, and it is not a
note-on during a panic hold. -/
def due (frames : ℕ) (hold : Bool) (event : VoiceTransition) : Bool :=
  decide (event.sampleOffset < frames) && (decide (event.kind = .noteOff) || !hold)

/-- What a delivery pushes for the event at which it stops. The ledger's own admission refuses an
event for which there is no voice to end, or no free identity, slot or channel, and then nothing
is pushed, as when there is no sink. Otherwise the sink has rejected the push. -/
def Refuses (request : DeliveryRequest) (pushed : List Push) (ledger : GeneratedNoteLedger)
    (event : VoiceTransition) (refused : List Push) : Prop :=
  match takeEvent request.routing request.startChannel ledger event, request.sink with
  | none, _ => refused = []
  | some _, none => refused = []
  | some (channel, _), some answer =>
      answer pushed event channel = false ∧ refused = [⟨event, channel, false⟩]

/-- The pushes of a delivery: the events in turn, each on the channel on which the ledger admits it
after those before it, until all are accepted or one is refused, by the ledger or by the sink. The
output is blocked exactly when one is refused. -/
structure PushedInOrder (request : DeliveryRequest) (start : Delivery)
    (events : List VoiceTransition) (pushes : List Push) (blocked : Bool) : Prop where
  split : ∃ accepted refused rest reached, pushes = accepted ++ refused ∧
    (∀ push ∈ accepted, push.accepted = true) ∧ events = accepted.map Push.transition ++ rest ∧
    takeEvents request.routing request.startChannel (accepted.map Push.transition) start.ledger =
      (accepted.map fun push => (push.transition, push.channel), some reached) ∧
    (rest = [] ∧ refused = [] ∧ blocked = false ∨
      ∃ event later, rest = event :: later ∧ blocked = true ∧
        Refuses request (start.pushed ++ accepted) reached event refused)

section Pushed

variable {request : DeliveryRequest} {pushed : List Push} {ledger : GeneratedNoteLedger}
  {event : VoiceTransition}

/-- A delivery may stop at an event that the ledger does not admit, and then nothing is pushed for
it. -/
theorem refuses_unadmitted
    (unadmitted : takeEvent request.routing request.startChannel ledger event = none) :
    Refuses request pushed ledger event [] := by
  unfold Refuses
  rw [unadmitted]

/-- A refused event is not pushed, or it is the last push and rejected. -/
theorem Refuses.last {refused : List Push} (refuses : Refuses request pushed ledger event refused) :
    refused = [] ∨ ∃ push, refused = [push] ∧ push.transition = event := by
  unfold Refuses at refuses
  split at refuses
  · exact .inl refuses
  · exact .inl refuses
  · exact .inr ⟨_, refuses.2, rfl⟩

namespace PushedInOrder

variable {start : Delivery} {events : List VoiceTransition} {pushes : List Push} {blocked : Bool}

/-- With no events left, the delivery has come to its end without a stop. -/
theorem nil : PushedInOrder request start [] [] false :=
  ⟨[], [], [], start.ledger, rfl, List.forall_mem_nil _, rfl, rfl, .inl ⟨rfl, rfl, rfl⟩⟩

/-- An event that is admitted and taken is pushed first, and the others follow. -/
theorem accept {channel : ℕ} {next : GeneratedNoteLedger}
    (taken : takeEvent request.routing request.startChannel start.ledger event =
      some (channel, next))
    (rest : PushedInOrder request ⟨next, start.pushed ++ [⟨event, channel, true⟩]⟩ events pushes
      blocked) :
    PushedInOrder request start (event :: events) (⟨event, channel, true⟩ :: pushes) blocked := by
  obtain ⟨accepted, refused, later, reached, rfl, all, rfl, admitted, ends⟩ := rest
  refine ⟨⟨event, channel, true⟩ :: accepted, refused, later, reached, rfl,
    List.forall_mem_cons.mpr ⟨rfl, all⟩, rfl, ?_, ?_⟩
  · rw [List.map_cons, takeEvents, taken]
    dsimp only at admitted ⊢
    rw [admitted, List.map_cons]
  · rw [List.append_assoc] at ends
    exact ends

/-- An event that is refused, by the sink or by the ledger, is the last one that matters. -/
theorem refuse {refused : List Push}
    (refuses : Refuses request start.pushed start.ledger event refused) :
    PushedInOrder request start (event :: events) refused true := by
  refine ⟨[], refused, event :: events, start.ledger, rfl, List.forall_mem_nil _, rfl, rfl,
    .inr ⟨event, events, rfl, rfl, ?_⟩⟩
  rw [List.append_nil]
  exact refuses

end PushedInOrder

end Pushed

namespace Delivery

variable {delivery : Delivery} {request : DeliveryRequest} {event : VoiceTransition}

/-- What one due event comes to: it is admitted and its push accepted, or it is refused and
delivery stops with the output blocked. -/
def Answered (delivery : Delivery) (request : DeliveryRequest) (event : VoiceTransition)
    (outcome : Bool × Delivery) : Prop :=
  outcome.2.ledger.panicHold = delivery.ledger.panicHold ∧
    (outcome.1 = true ∧ outcome.2.ledger.outputBlocked = delivery.ledger.outputBlocked ∧
        (∃ channel, takeEvent request.routing request.startChannel delivery.ledger event =
            some (channel, outcome.2.ledger) ∧
          outcome.2.pushed = delivery.pushed ++ [⟨event, channel, true⟩]) ∨
      outcome.1 = false ∧ outcome.2.ledger.outputBlocked = true ∧
        outcome.2.ledger.cleanupComplete = false ∧
        ∃ refused, outcome.2.pushed = delivery.pushed ++ refused ∧
          Refuses request delivery.pushed delivery.ledger event refused)

/-- An event that is not admitted is answered by the latch of the output, without a push. -/
theorem answered_stopped
    (unadmitted : takeEvent request.routing request.startChannel delivery.ledger event = none) :
    Answered delivery request event (false, delivery.mapLedger enterBlocked) :=
  ⟨rfl, .inr ⟨rfl, rfl, rfl, [], (List.append_nil _).symm, refuses_unadmitted unadmitted⟩⟩

/-- An event is offered to the sink on its channel. A ledger that admits it on a channel that
exists goes on as the change makes it. -/
theorem answered_offered {channel : ℕ} {change mark : GeneratedNoteLedger → GeneratedNoteLedger}
    (taken : takeEvent request.routing request.startChannel delivery.ledger event =
      if validChannel channel then some (channel, change delivery.ledger) else none)
    (hold : ∀ ledger, (change ledger).panicHold = ledger.panicHold)
    (blocked : ∀ ledger, (change ledger).outputBlocked = ledger.outputBlocked)
    (marked : ∀ ledger, (mark ledger).panicHold = ledger.panicHold) :
    Answered delivery request event
      (match delivery.push request.sink event channel with
        | (false, rejected) =>
            (false, rejected.mapLedger fun ledger => (mark ledger).enterBlocked)
        | (true, accepted) => (true, accepted.mapLedger change)) := by
  by_cases valid : validChannel channel = true
  · rw [if_pos valid] at taken
    have there : channel ≥ 1 ∧ channel ≤ 16 := by simpa [validChannel] using valid
    cases sink : request.sink with
    | none =>
        refine ⟨marked _, .inr ⟨rfl, rfl, rfl, [], (List.append_nil _).symm, ?_⟩⟩
        unfold Refuses
        rw [taken, sink]
    | some answer =>
        rw [push]
        dsimp only
        rw [if_pos there]
        cases accepted : answer delivery.pushed event channel with
        | true => exact ⟨hold _, .inl ⟨rfl, blocked _, channel, taken, rfl⟩⟩
        | false =>
            refine ⟨marked _, .inr ⟨rfl, rfl, rfl, _, rfl, ?_⟩⟩
            unfold Refuses
            rw [taken, sink]
            exact ⟨accepted, rfl⟩
  · rw [if_neg valid] at taken
    have missing : ¬(channel ≥ 1 ∧ channel ≤ 16) := by simpa [validChannel] using valid
    have failed : delivery.push request.sink event channel = (false, delivery) := by
      unfold push
      split
      · rfl
      · exact if_neg missing
    rw [failed]
    exact ⟨marked _, .inr ⟨rfl, rfl, rfl, [], (List.append_nil _).symm, refuses_unadmitted taken⟩⟩

/-- An event that is not due is skipped. -/
theorem deliverEvent_of_not_due
    (skipped : due request.frames delivery.ledger.panicHold event = false) :
    delivery.deliverEvent request event = (true, delivery) := by
  unfold deliverEvent
  split_ifs with outside
  · rfl
  · rw [due, Bool.and_eq_false_iff] at skipped
    rcases skipped with outside' | held
    · exact absurd (Nat.le_of_not_lt (of_decide_eq_false outside')) outside
    · rw [Bool.or_eq_false_iff, Bool.not_eq_false'] at held
      cases kind : event.kind with
      | noteOff => exact absurd kind (of_decide_eq_false held.1)
      | noteOn =>
          dsimp only
          rw [deliverNoteOn, if_pos held.2]

/-- A note-off is answered: its note is not held, it is taken, or it is refused. -/
theorem deliverNoteOff_answered (kind : event.kind = .noteOff) :
    Answered delivery request event (delivery.deliverNoteOff request.sink event) := by
  unfold deliverNoteOff
  cases found : delivery.ledger.findVoice event with
  | none =>
      refine answered_stopped ?_
      unfold takeEvent
      rw [kind, found]
      rfl
  | some slot =>
      refine @answered_offered _ _ _ _ (fun ledger => ledger.clearVoice slot) (markPending slot) ?_
        (fun _ => rfl) (fun _ => rfl) fun _ => rfl
      unfold takeEvent
      rw [kind, found]
      rfl

/-- Outside a panic hold a note-on is admitted where its identity, a slot and a channel are
free. -/
theorem deliverNoteOn_answered (kind : event.kind = .noteOn)
    (awake : delivery.ledger.panicHold = false) :
    Answered delivery request event (delivery.deliverNoteOn request event) := by
  unfold deliverNoteOn
  rw [awake, if_neg Bool.false_ne_true]
  have unadmitted (why : identityInUse delivery.ledger event = true ∨
      delivery.ledger.activeCount ≥ maxVoices) :
      takeEvent request.routing request.startChannel delivery.ledger event = none := by
    unfold takeEvent
    rw [kind]
    exact if_pos why
  split_ifs with used full
  · exact answered_stopped (unadmitted (.inl used))
  · exact answered_stopped (unadmitted (.inr full))
  · have taken (slot : Fin maxVoices) (free : delivery.ledger.findFreeVoice = some slot) :
        takeEvent request.routing request.startChannel delivery.ledger event =
          if validChannel (delivery.ledger.allocateChannel request.routing request.startChannel
              event) then
            some (delivery.ledger.allocateChannel request.routing request.startChannel event,
              occupyVoice slot event (delivery.ledger.allocateChannel request.routing
                request.startChannel event) delivery.ledger)
          else none := by
      unfold takeEvent
      rw [kind]
      dsimp only
      rw [if_neg (not_or.mpr ⟨used, full⟩), free]
      rfl
    dsimp only
    cases free : delivery.ledger.findFreeVoice with
    | none =>
        refine answered_stopped ?_
        unfold takeEvent
        rw [kind]
        dsimp only
        rw [if_neg (not_or.mpr ⟨used, full⟩), free]
        rfl
    | some slot =>
        dsimp only
        split_ifs with zero
        · refine answered_stopped ((taken slot free).trans ?_)
          rw [zero]
          rfl
        · exact @answered_offered _ _ _ _ (occupyVoice slot event _) (fun ledger => ledger)
            (taken slot free) (fun _ => rfl) (fun _ => rfl) fun _ => rfl

/-- An event that is due is answered in one of these ways. -/
theorem deliverEvent_of_due
    (taken : due request.frames delivery.ledger.panicHold event = true) :
    Answered delivery request event (delivery.deliverEvent request event) := by
  rw [due, Bool.and_eq_true, decide_eq_true_eq, Bool.or_eq_true, decide_eq_true_eq] at taken
  unfold deliverEvent
  rw [if_neg (Nat.not_le.mpr taken.1)]
  cases kind : event.kind with
  | noteOff => exact deliverNoteOff_answered kind
  | noteOn =>
      refine deliverNoteOn_answered kind ?_
      rcases taken.2 with off | awake
      · exact absurd (kind.symm.trans off) TransitionKind.noConfusion
      · rwa [Bool.not_eq_true'] at awake

/-- The loop pushes the due events in order, up to the first one that is refused, and a loop that
stops has a cleanup to do. -/
theorem deliverEvents_pushedInOrder (events : List VoiceTransition)
    (unblocked : delivery.ledger.outputBlocked = false) :
    (∃ pushes, (deliverEvents request events delivery).pushed = delivery.pushed ++ pushes ∧
      PushedInOrder request delivery
        (events.filter (due request.frames delivery.ledger.panicHold)) pushes
        (deliverEvents request events delivery).ledger.outputBlocked) ∧
      ((deliverEvents request events delivery).ledger.outputBlocked = true →
        (deliverEvents request events delivery).ledger.cleanupComplete = false) := by
  induction events generalizing delivery with
  | nil =>
      refine ⟨⟨[], (List.append_nil _).symm, ?_⟩, fun blocked => ?_⟩
      · rw [deliverEvents, unblocked]
        exact PushedInOrder.nil
      · exact absurd (unblocked.symm.trans blocked) Bool.false_ne_true
  | cons event events ih =>
      rw [deliverEvents, List.filter_cons]
      cases taken : due request.frames delivery.ledger.panicHold event with
      | false =>
          rw [deliverEvent_of_not_due taken, if_neg Bool.false_ne_true]
          exact ih unblocked
      | true =>
          have answered := deliverEvent_of_due taken
          generalize delivery.deliverEvent request event = outcome at answered
          obtain ⟨goes, next, log⟩ := outcome
          obtain ⟨hold, ⟨rfl, open_, channel, admitted, pushed⟩ |
            ⟨rfl, blocked, uncleaned, refused, pushed, refuses⟩⟩ := answered
          · dsimp only at hold open_ admitted pushed
            subst pushed
            obtain ⟨⟨pushes, appended, rest⟩, later⟩ :=
              @ih ⟨next, delivery.pushed ++ [⟨event, channel, true⟩]⟩ (open_.trans unblocked)
            dsimp only at rest
            rw [hold] at rest
            refine ⟨⟨⟨event, channel, true⟩ :: pushes, ?_, rest.accept admitted⟩, later⟩
            rw [appended, List.append_assoc]
            rfl
          · dsimp only at blocked uncleaned pushed ⊢
            refine ⟨⟨refused, pushed, ?_⟩, fun _ => uncleaned⟩
            rw [blocked]
            exact PushedInOrder.refuse refuses

end Delivery

/-- What a block asks its queue to hold. -/
inductive BlockCall
  | queueTransition (transition : VoiceTransition)
  | queueActiveReleases (sampleOffset : ℕ)
  deriving DecidableEq, Repr

namespace BlockCall

/-- The ledger after one of the calls of a block. -/
def apply (frames : ℕ) (ledger : GeneratedNoteLedger) : BlockCall → GeneratedNoteLedger
  | .queueTransition transition => (ledger.queueTransition transition frames).2
  | .queueActiveReleases sampleOffset => (ledger.queueActiveReleases sampleOffset frames).2

/-- The places that a call may need. -/
def places : BlockCall → ℕ
  | .queueTransition _ => 1
  | .queueActiveReleases _ => maxVoices

/-- The sample of the transition that a call queues. -/
def transitionSample : BlockCall → Option ℕ
  | .queueTransition transition => some transition.sampleOffset
  | .queueActiveReleases _ => none

end BlockCall

/-- The detector decides on a sample of the block when its quantum is full. -/
def DecidesAt (phase frame : ℕ) : Prop := (phase + frame + 1) % decisionQuantum = 0

/-- Whether a decision falls on a frame can be computed. -/
instance (phase frame : ℕ) : Decidable (DecidesAt phase frame) :=
  inferInstanceAs (Decidable ((phase + frame + 1) % decisionQuantum = 0))

/-- A block queues the transitions of its decisions, and the releases of all voices at most
once. -/
structure TickedCalls (phase frames : ℕ) (calls : List BlockCall) : Prop where
  decided : ∀ frame ∈ calls.filterMap BlockCall.transitionSample,
    frame < frames ∧ DecidesAt phase frame
  per_tick : ∀ frame,
    (calls.filterMap BlockCall.transitionSample).count frame ≤ maxTickTransitions
  releases_once : (calls.filter fun call => decide (call.transitionSample = none)).length ≤ 1

/-- As many decisions fall in a block as quanta are filled. -/
theorem card_decidesAt (phase frames : ℕ) (within : phase < decisionQuantum) :
    ((Finset.range frames).filter (DecidesAt phase)).card = (phase + frames) / decisionQuantum := by
  induction frames with
  | zero => exact (Nat.div_eq_of_lt within).symm
  | succ frames ih =>
      rw [Finset.range_add_one, Finset.filter_insert, ← Nat.add_assoc, Nat.succ_div]
      have outside : frames ∉ (Finset.range frames).filter (DecidesAt phase) := fun member =>
        Finset.notMem_range_self (Finset.mem_filter.mp member).1
      by_cases decides : DecidesAt phase frames
      · rw [if_pos decides, Finset.card_insert_of_notMem outside, ih,
          if_pos (Nat.dvd_of_mod_eq_zero decides)]
      · rw [if_neg decides, ih, if_neg fun divides => decides (Nat.mod_eq_zero_of_dvd divides)]
        rfl

namespace TickedCalls

variable {phase frames : ℕ} {calls : List BlockCall}

/-- There are no more transitions among the calls of a block than its decisions can request. -/
theorem length_transitions (ticked : TickedCalls phase frames calls)
    (within : phase < decisionQuantum) :
    (calls.filterMap BlockCall.transitionSample).length ≤
      (frames + decisionQuantum - 1) / decisionQuantum * maxTickTransitions := by
  have counted := Multiset.sum_count_eq_card
    (s := (Finset.range frames).filter (DecidesAt phase))
    (m := (calls.filterMap BlockCall.transitionSample : Multiset ℕ)) (by
      intro frame member
      obtain ⟨inside, decides⟩ := ticked.decided frame (Multiset.mem_coe.mp member)
      exact Finset.mem_filter.mpr ⟨Finset.mem_range.mpr inside, decides⟩)
  rw [Multiset.coe_card] at counted
  rw [← counted]
  have quanta : (phase + frames) / decisionQuantum ≤
      (frames + decisionQuantum - 1) / decisionQuantum := by
    refine Nat.div_le_div_right ?_
    omega
  calc ∑ frame ∈ (Finset.range frames).filter (DecidesAt phase),
        Multiset.count frame (calls.filterMap BlockCall.transitionSample : Multiset ℕ)
    _ ≤ ∑ _frame ∈ (Finset.range frames).filter (DecidesAt phase), maxTickTransitions := by
        refine Finset.sum_le_sum fun frame _ => ?_
        rw [Multiset.coe_count]
        exact ticked.per_tick frame
    _ = (phase + frames) / decisionQuantum * maxTickTransitions := by
        rw [Finset.sum_const_nat fun _ _ => rfl, card_decidesAt phase frames within]
    _ ≤ _ := Nat.mul_le_mul_right _ quanta

/-- The places that all calls of a block need. -/
theorem places_le (ticked : TickedCalls phase frames calls) (within : phase < decisionQuantum) :
    (calls.map BlockCall.places).sum ≤
      (frames + decisionQuantum - 1) / decisionQuantum * maxTickTransitions + maxVoices := by
  have total (calls : List BlockCall) : (calls.map BlockCall.places).sum =
      (calls.filterMap BlockCall.transitionSample).length +
        (calls.filter fun call => decide (call.transitionSample = none)).length * maxVoices := by
    induction calls with
    | nil => rfl
    | cons call calls ih =>
        rw [List.map_cons, List.sum_cons, ih]
        cases call with
        | queueTransition transition =>
            change 1 + _ = (calls.filterMap BlockCall.transitionSample).length + 1 + _
            exact (Nat.add_comm 1 _).trans (Nat.add_right_comm _ _ 1)
        | queueActiveReleases sampleOffset =>
            change maxVoices + _ = (calls.filterMap BlockCall.transitionSample).length +
              ((calls.filter _).length + 1) * maxVoices
            rw [Nat.succ_mul]
            omega
  have once := ticked.releases_once
  have few := ticked.length_transitions within
  rw [total]
  refine Nat.add_le_add few ?_
  exact (Nat.mul_le_mul_right maxVoices once).trans (Nat.one_mul maxVoices).le

end TickedCalls

namespace GeneratedNoteLedger

variable {ledger : GeneratedNoteLedger}

/-- A queued transition takes at most one place. -/
theorem queueTransition_length (transition : VoiceTransition) (frames : ℕ) :
    (ledger.queueTransition transition frames).2.queue.length ≤ ledger.queue.length + 1 := by
  unfold queueTransition
  split_ifs
  · exact Nat.le_succ _
  · exact (length_insertFromBack transition ledger.queue).le

/-- The releases of a panic take at most one place for each slot. -/
theorem queueReleasesOf_length (sampleOffset frames : ℕ) (slots : List (Fin maxVoices)) :
    ∀ (sequence : ℕ) (progress : Bool × GeneratedNoteLedger),
      (queueReleasesOf sampleOffset frames slots sequence progress).2.queue.length ≤
        progress.2.queue.length + slots.length := by
  induction slots with
  | nil =>
      intro sequence progress
      exact le_rfl
  | cons slot slots ih =>
      rintro sequence ⟨complete, ledger⟩
      rw [queueReleasesOf]
      dsimp only
      split_ifs
      · refine (ih (sequence + 1) _).trans ?_
        have one := @queueTransition_length ledger
          (activeRelease (ledger.voices slot) sampleOffset sequence) frames
        rw [List.length_cons]
        dsimp only
        omega
      · refine (ih sequence _).trans ?_
        rw [List.length_cons]
        exact Nat.add_le_add_left (Nat.le_succ _) _

/-- A call queues no more than the places it may need. -/
theorem apply_length (frames : ℕ) (call : BlockCall) :
    (call.apply frames ledger).queue.length ≤ ledger.queue.length + call.places := by
  cases call with
  | queueTransition transition => exact queueTransition_length transition frames
  | queueActiveReleases sampleOffset =>
      have bound := queueReleasesOf_length sampleOffset frames (List.finRange maxVoices) 0
        (true, ledger)
      rw [List.length_finRange] at bound
      exact bound

/-- The calls of a block take no more places than they ask for, by induction on the calls. -/
theorem foldl_apply_length (frames : ℕ) (calls : List BlockCall) :
    (calls.foldl (BlockCall.apply frames) ledger).queue.length ≤
      ledger.queue.length + (calls.map BlockCall.places).sum := by
  induction calls generalizing ledger with
  | nil => exact le_rfl
  | cons call calls ih =>
      rw [List.foldl_cons, List.map_cons, List.sum_cons, ← Nat.add_assoc]
      exact ih.trans (Nat.add_le_add_right (apply_length frames call) _)

/-- The storage has room for every call of a block. -/
theorem room_in_block {before ledger : GeneratedNoteLedger} {maxFrames : ℕ} {granted : Bool}
    (allocated : before.allocateStorage maxFrames granted = (true, ledger)) {phase frames : ℕ}
    (within : phase < decisionQuantum) (fits : frames ≤ maxFrames) {calls : List BlockCall}
    (ticked : TickedCalls phase frames calls) {earlier later : List BlockCall} {call : BlockCall}
    (split : calls = earlier ++ call :: later) :
    (earlier.foldl (BlockCall.apply frames) ledger.beginBlock).queue.length + call.places ≤
      ledger.capacity := by
  have capacity : ledger.capacity =
      (maxFrames + decisionQuantum - 1) / decisionQuantum * maxTickTransitions + maxVoices := by
    unfold allocateStorage at allocated
    dsimp only at allocated
    split_ifs at allocated
    · cases allocated
    · cases allocated
    · rw [← (Prod.mk.inj allocated).2]
    · cases allocated
  have queued := @foldl_apply_length ledger.beginBlock frames earlier
  have needed := ticked.places_le within
  rw [split, List.map_append, List.map_cons, List.sum_append, List.sum_cons] at needed
  have quanta : (frames + decisionQuantum - 1) / decisionQuantum * maxTickTransitions ≤
      (maxFrames + decisionQuantum - 1) / decisionQuantum * maxTickTransitions := by
    refine Nat.mul_le_mul_right _ (Nat.div_le_div_right ?_)
    omega
  change _ ≤ 0 + _ at queued
  rw [capacity]
  omega

end GeneratedNoteLedger

namespace Delivery

/-- A hold that ends on cleaned up output leaves a blocked output as it is. -/
theorem finishHold_outputBlocked {ledger : GeneratedNoteLedger} (request : DeliveryRequest)
    (uncleaned : ledger.outputBlocked = true → ledger.cleanupComplete = false) :
    (ledger.finishHold request).outputBlocked = ledger.outputBlocked := by
  unfold finishHold
  split_ifs with awake waits ends
  · rfl
  · rfl
  · cases blocked : ledger.outputBlocked with
    | false => rfl
    | true => exact absurd ((uncleaned blocked).symm.trans ends.2.1) Bool.false_ne_true
  · rfl

/-- A delivery with its storage, no pending release and an open output pushes the due events in
order, up to the first one that is refused; any other delivery pushes nothing. -/
theorem deliverQueued_pushes (delivery : Delivery) (request : DeliveryRequest) :
    if delivery.ledger.allocated = true ∧ 0 < request.frames ∧
        request.frames ≤ delivery.ledger.maxFrames ∧ delivery.ledger.releasePending = false ∧
        delivery.ledger.outputBlocked = false then
      ∃ pushes, (delivery.deliverQueued request).2.pushed = delivery.pushed ++ pushes ∧
        PushedInOrder request (delivery.mapLedger (checkRequest request))
          (delivery.ledger.queue.filter (due request.frames delivery.ledger.panicHold)) pushes
          (delivery.deliverQueued request).2.ledger.outputBlocked
    else (delivery.deliverQueued request).2.pushed = delivery.pushed := by
  split_ifs with opened
  · obtain ⟨allocated, some_frames, fits, idle, unblocked⟩ := opened
    obtain ⟨⟨pushes, pushed, order⟩, uncleaned⟩ := @deliverEvents_pushedInOrder
      (delivery.mapLedger (checkRequest request)) request delivery.ledger.queue unblocked
    have accepted : ¬(delivery.ledger.allocated = false ∨ request.frames = 0 ∨
        request.frames > delivery.ledger.maxFrames) := by
      rintro (missing | none | beyond)
      · rw [allocated] at missing
        cases missing
      · omega
      · omega
    have outcome : (delivery.deliverQueued request).2 =
        (deliverEvents request delivery.ledger.queue (delivery.mapLedger
          (checkRequest request))).mapLedger fun ledger => ledger.finishHold request := by
      unfold deliverQueued
      rw [if_neg accepted]
      dsimp only
      rw [if_pos ⟨idle, unblocked⟩]
      rfl
    rw [outcome]
    refine ⟨pushes, pushed, ?_⟩
    change PushedInOrder _ _ _ _ (GeneratedNoteLedger.finishHold _ request).outputBlocked
    rw [finishHold_outputBlocked request uncleaned]
    exact order
  · unfold deliverQueued
    split_ifs with refused
    · rfl
    · dsimp only
      rw [if_neg ?_]
      · rfl
      · rintro ⟨idle, unblocked⟩
        rw [not_or, not_or, Nat.not_lt] at refused
        obtain ⟨allocated, some_frames, fits⟩ := refused
        exact opened ⟨Bool.of_not_eq_false allocated, Nat.pos_of_ne_zero some_frames, fits, idle,
          unblocked⟩

end Delivery

open Delivery in
/-- A block's queue is what was accepted, stably sorted; a refused transition changes nothing but
the invalid flag; a delivery pushes the due events in order up to the first one that the ledger or
the sink refuses, unless a release is pending or the output is blocked; and the storage has room
for what the decisions of a block and one release of all voices queue. -/
theorem block_queue_order_and_room :
    (∀ (ledger : GeneratedNoteLedger) (calls : List (VoiceTransition × ℕ)),
      StablySorted VoiceTransition.place (queueAll ledger.beginBlock calls).1
        (queueAll ledger.beginBlock calls).2.queue) ∧
    (∀ (ledger : GeneratedNoteLedger) (transition : VoiceTransition) (frames : ℕ),
      (ledger.queueTransition transition frames).1 = false →
        (ledger.queueTransition transition frames).2 = { ledger with invalidTransition := true }) ∧
    (∀ (delivery : Delivery) (request : DeliveryRequest),
      if delivery.ledger.allocated = true ∧ 0 < request.frames ∧
          request.frames ≤ delivery.ledger.maxFrames ∧ delivery.ledger.releasePending = false ∧
          delivery.ledger.outputBlocked = false then
        ∃ pushes, (delivery.deliverQueued request).2.pushed = delivery.pushed ++ pushes ∧
          PushedInOrder request (delivery.mapLedger (checkRequest request))
            (delivery.ledger.queue.filter (due request.frames delivery.ledger.panicHold)) pushes
            (delivery.deliverQueued request).2.ledger.outputBlocked
      else (delivery.deliverQueued request).2.pushed = delivery.pushed) ∧
    ∀ (before ledger : GeneratedNoteLedger) (maxFrames : ℕ) (granted : Bool),
      before.allocateStorage maxFrames granted = (true, ledger) →
      ∀ (phase frames : ℕ), phase < decisionQuantum → frames ≤ maxFrames →
      ∀ calls, TickedCalls phase frames calls →
      ∀ earlier call later, calls = earlier ++ call :: later →
        (earlier.foldl (BlockCall.apply frames) ledger.beginBlock).queue.length + call.places ≤
          ledger.capacity :=
  ⟨queueAll_stablySorted, fun _ _ _ refused => queueTransition_refused refused,
    deliverQueued_pushes, fun _ _ _ _ allocated _ _ within fits _ ticked _ _ _ split =>
      room_in_block allocated within fits ticked split⟩

/-- A note-on at the first sample of a block. -/
def firstNoteOn : VoiceTransition where
  sampleOffset := 0
  kind := .noteOn
  note := 60
  velocity := 100
  sequence := 0

/-- A host that accepts whatever is pushed. -/
def acceptingRequest : DeliveryRequest where
  frames := 64
  sink := some fun _ _ _ => true
  selectedPeak := some 0
  finiteInput := true
  supportedLayout := true

/-- After an output failure a queued note-on is neither pushed nor refused. -/
theorem blocked_delivery_pushes_nothing :
    let ledger := ((({} : GeneratedNoteLedger).activate 64 true).2.reportOutputFailure.beginBlock
      |>.queueTransition firstNoteOn 64).2
    let pushed := (Delivery.deliverQueued { ledger } acceptingRequest).2.pushed
    ¬ (pushed.map Push.transition = ledger.queue.filter (due 64 ledger.panicHold) ∨
      ∃ push ∈ pushed, push.accepted = false) := by
  decide

end M3Midi
