import M3Midi.Ledger.BlockQueue
import M3Midi.Ledger.VoiceIdentity

/-! # What a delivery leaves

A delivery retries the releases that wait, at the start of the block, and pushes the
events of the queue in their order. A part of it that the sink goes along with leaves
nothing pending and blocks nothing; otherwise the ledger has failed, and the end of a
hold does not take that back.
-/

namespace M3Midi

open Foundation GeneratedNoteLedger

namespace GeneratedNoteLedger

/-- The output is blocked, with its cleanup outstanding. -/
structure Failed (ledger : GeneratedNoteLedger) : Prop where
  blocked : ledger.outputBlocked = true
  outstanding : ledger.cleanupComplete = false

/-- A ledger whose output is latched has failed. -/
theorem enterBlocked_failed (ledger : GeneratedNoteLedger) : ledger.enterBlocked.Failed :=
  ⟨rfl, rfl⟩

/-- The end of a hold waits for the cleanup. -/
theorem Failed.finishHold {ledger : GeneratedNoteLedger} (failed : ledger.Failed)
    (request : DeliveryRequest) : (ledger.finishHold request).Failed := by
  unfold GeneratedNoteLedger.finishHold
  split_ifs with idle counting ends
  · exact failed
  · exact ⟨failed.blocked, failed.outstanding⟩
  · exact absurd (failed.outstanding.symm.trans ends.2.1) Bool.false_ne_true
  · exact failed

/-- The end of a hold leaves pending releases pending. -/
theorem finishHold_releasePending (ledger : GeneratedNoteLedger) (request : DeliveryRequest) :
    (ledger.finishHold request).releasePending = ledger.releasePending := by
  unfold finishHold
  split_ifs <;> rfl

/-- No release is pending exactly if none of the slots waits for one. -/
theorem releasePending_eq_false {ledger : GeneratedNoteLedger} :
    ledger.releasePending = false ↔ ∀ slot, (ledger.voices slot).pendingRelease = false := by
  simp [releasePending]

/-- A slot whose new voice does not wait leaves nothing pending. -/
theorem releasePending_update {ledger : GeneratedNoteLedger}
    (idle : ledger.releasePending = false) {slot : Fin maxVoices} {voice : ActiveVoice}
    (settled : voice.pendingRelease = false) (count : ℕ) :
    ({ ledger with
      voices := Function.update ledger.voices slot voice, activeCount := count }
        : GeneratedNoteLedger).releasePending = false := by
  rw [releasePending_eq_false] at idle ⊢
  intro other
  by_cases same : other = slot
  · subst same
    exact (congrArg ActiveVoice.pendingRelease (Function.update_self _ _ _)).trans settled
  · exact (congrArg ActiveVoice.pendingRelease (Function.update_of_ne same _ _)).trans (idle other)

end GeneratedNoteLedger

namespace Delivery

variable {delivery middle next : Delivery} {sink : NoteEventSink} {request : DeliveryRequest}

/-- A part of a delivery whose pushes the sink has all accepted. -/
structure Smooth (before after : Delivery) : Prop where
  pushed : ∃ accepted, after.pushed = before.pushed ++ accepted ∧
    ∀ push ∈ accepted, push.accepted = true
  pending : before.ledger.releasePending = false → after.ledger.releasePending = false
  blocked : after.ledger.outputBlocked = before.ledger.outputBlocked

namespace Smooth

theorem refl (delivery : Delivery) : Smooth delivery delivery :=
  ⟨⟨[], (List.append_nil _).symm, List.forall_mem_nil _⟩, id, rfl⟩

theorem trans (first : Smooth delivery middle) (second : Smooth middle next) :
    Smooth delivery next := by
  obtain ⟨earlier, pushedFirst, acceptedFirst⟩ := first.pushed
  obtain ⟨later, pushedSecond, acceptedSecond⟩ := second.pushed
  refine ⟨⟨earlier ++ later, ?_, ?_⟩, second.pending ∘ first.pending,
    second.blocked.trans first.blocked⟩
  · rw [pushedSecond, pushedFirst, List.append_assoc]
  · exact List.forall_mem_append.mpr ⟨acceptedFirst, acceptedSecond⟩

/-- An accepted push, with a change that leaves nothing pending. -/
theorem push {transition : VoiceTransition} {channel : ℕ}
    (accepted : delivery.push sink transition channel = (true, next))
    {change : GeneratedNoteLedger → GeneratedNoteLedger}
    (pending : next.ledger.releasePending = false → (change next.ledger).releasePending = false)
    (blocked : (change next.ledger).outputBlocked = next.ledger.outputBlocked) :
    Smooth delivery (next.mapLedger change) := by
  obtain rfl := push_accepted accepted
  exact ⟨⟨_, rfl, by simp⟩, pending, blocked⟩

end Smooth

/-- A retry that does not finish has failed. -/
theorem retryReleases_smooth (pending : List (ℕ × Fin maxVoices)) :
    ((retryReleases sink pending delivery).1 = true ∧
        Smooth delivery (retryReleases sink pending delivery).2) ∨
      ((retryReleases sink pending delivery).1 = false ∧
        (retryReleases sink pending delivery).2.ledger.Failed) := by
  induction pending generalizing delivery with
  | nil => exact .inl ⟨rfl, Smooth.refl _⟩
  | cons head rest ih =>
      obtain ⟨note, slot⟩ := head
      rw [retryReleases]
      split_ifs
      · exact ih
      · split
        · exact .inr ⟨rfl, enterBlocked_failed _⟩
        · next accepted pushed =>
            have cleared := @Smooth.push delivery accepted sink _ _ pushed
              (fun ledger => ledger.clearVoice slot)
              (fun idle => releasePending_update idle rfl _) rfl
            rcases @ih (accepted.mapLedger fun ledger => ledger.clearVoice slot) with
              ⟨finished, smooth⟩ | failed
            · exact .inl ⟨finished, cleared.trans smooth⟩
            · exact .inr failed

/-- A retry goes smoothly, or has failed. -/
theorem retryPendingReleases_smooth :
    Smooth delivery (delivery.retryPendingReleases sink).2 ∨
      (delivery.retryPendingReleases sink).2.ledger.Failed := by
  unfold retryPendingReleases
  split_ifs
  · exact .inl ⟨(Smooth.refl delivery).pushed, id, rfl⟩
  · have retried := @retryReleases_smooth delivery sink retryOrder
    generalize retryReleases sink retryOrder delivery = outcome at retried
    obtain ⟨finished, released⟩ := outcome
    rcases retried with ⟨rfl, smooth⟩ | ⟨rfl, failed⟩
    · exact .inl ⟨smooth.pushed, smooth.pending, smooth.blocked⟩
    · exact .inr failed

/-- A retry leaves nothing pending, or has failed. -/
theorem retryPendingReleases_idle (gated : Gated delivery.ledger) :
    (delivery.retryPendingReleases sink).2.ledger.releasePending = false ∨
      (delivery.retryPendingReleases sink).2.ledger.Failed := by
  have notes (slot : Fin maxVoices) (waits : (delivery.ledger.voices slot).pendingRelease = true) :
      (delivery.ledger.voices slot).note ≤ 127 :=
    gated.notes slot (by rw [ActiveVoice.occupied, waits, Bool.or_true])
  cases finished : (delivery.retryPendingReleases sink).1 with
  | true => exact .inl (retryPendingReleases_left finished notes)
  | false =>
      refine .inr ?_
      unfold retryPendingReleases at finished ⊢
      split_ifs at finished ⊢
      have retried := @retryReleases_smooth delivery sink retryOrder
      generalize retryReleases sink retryOrder delivery = outcome at retried finished
      obtain ⟨answer, released⟩ := outcome
      rcases retried with ⟨rfl, -⟩ | ⟨rfl, failed⟩
      · exact absurd finished (by simp)
      · exact failed

/-- One event goes smoothly, or delivery stops and has failed. -/
theorem deliverEvent_smooth (event : VoiceTransition) :
    ((delivery.deliverEvent request event).1 = true ∧
        Smooth delivery (delivery.deliverEvent request event).2) ∨
      ((delivery.deliverEvent request event).1 = false ∧
        (delivery.deliverEvent request event).2.ledger.Failed) := by
  unfold deliverEvent
  split_ifs
  · exact .inl ⟨rfl, Smooth.refl delivery⟩
  · cases event.kind with
    | noteOff =>
        dsimp only
        unfold deliverNoteOff
        split
        · exact .inr ⟨rfl, enterBlocked_failed _⟩
        · next slot _ =>
            split
            · exact .inr ⟨rfl, enterBlocked_failed _⟩
            · next accepted pushed =>
                have cleared := @Smooth.push delivery accepted _ _ _ pushed
                  (fun ledger => ledger.clearVoice slot)
                  (fun idle => releasePending_update idle rfl _) rfl
                exact .inl ⟨rfl, cleared⟩
    | noteOn =>
        dsimp only
        unfold deliverNoteOn
        split_ifs
        · exact .inl ⟨rfl, Smooth.refl delivery⟩
        · exact .inr ⟨rfl, enterBlocked_failed _⟩
        · exact .inr ⟨rfl, enterBlocked_failed _⟩
        · dsimp only
          split
          · exact .inr ⟨rfl, enterBlocked_failed _⟩
          · next slot _ =>
              split_ifs
              · exact .inr ⟨rfl, enterBlocked_failed _⟩
              · split
                · exact .inr ⟨rfl, enterBlocked_failed _⟩
                · next accepted pushed =>
                    have occupied := @Smooth.push delivery accepted _ _ _ pushed
                      (occupyVoice slot event (delivery.ledger.allocateChannel request.routing
                        request.startChannel event))
                      (fun idle => releasePending_update idle rfl _) rfl
                    exact .inl ⟨rfl, occupied⟩

/-- The loop over the events goes through without a failure, or the ledger has failed. -/
theorem deliverEvents_smooth (events : List VoiceTransition) :
    Smooth delivery (deliverEvents request events delivery) ∨
      (deliverEvents request events delivery).ledger.Failed := by
  induction events generalizing delivery with
  | nil => exact .inl (Smooth.refl delivery)
  | cons event events ih =>
      rw [deliverEvents]
      have outcome := @deliverEvent_smooth delivery request event
      generalize delivery.deliverEvent request event = answer at outcome
      obtain ⟨goes, next⟩ := answer
      rcases outcome with ⟨rfl, smooth⟩ | ⟨rfl, failed⟩
      · rcases @ih next with rest | failed
        · exact .inl (smooth.trans rest)
        · exact .inr failed
      · exact .inr failed

/-- A delivery goes smoothly up to the end of a hold, or has failed. -/
theorem deliverQueued_smooth (delivery : Delivery) (request : DeliveryRequest) :
    (∃ before, Smooth delivery before ∧ (delivery.deliverQueued request).2.pushed = before.pushed ∧
        ((delivery.deliverQueued request).2.ledger.outputBlocked = before.ledger.outputBlocked ∨
          (delivery.deliverQueued request).2.ledger.outputBlocked = false) ∧
        (delivery.deliverQueued request).2.ledger.releasePending =
          before.ledger.releasePending) ∨
      (delivery.deliverQueued request).2.ledger.Failed := by
  rcases deliverQueued_cases delivery request with refused | delivered
  · rw [refused]
    exact .inl ⟨delivery, Smooth.refl delivery, rfl, .inl rfl, rfl⟩
  · have outcome : Smooth delivery (delivery.beforeHold request) ∨
        (delivery.beforeHold request).ledger.Failed := by
      unfold beforeHold
      dsimp only
      split_ifs
      · rcases @deliverEvents_smooth (delivery.mapLedger (checkRequest request)) request _ with
          smooth | failed
        · exact .inl ⟨smooth.pushed, smooth.pending, smooth.blocked⟩
        · exact .inr failed
      · exact .inl ⟨⟨[], (List.append_nil _).symm, List.forall_mem_nil _⟩, id, rfl⟩
    rw [delivered]
    rcases outcome with smooth | failed
    · refine .inl ⟨_, smooth, rfl, ?_, finishHold_releasePending _ _⟩
      change (GeneratedNoteLedger.finishHold _ request).outputBlocked = _ ∨
        (GeneratedNoteLedger.finishHold _ request).outputBlocked = _
      unfold GeneratedNoteLedger.finishHold
      split_ifs
      · exact .inl rfl
      · exact .inl rfl
      · exact .inr rfl
      · exact .inl rfl
    · exact .inr (failed.finishHold request)

/-- A delivery to a failed ledger does nothing. -/
theorem deliverQueued_failed (failed : delivery.ledger.Failed) :
    (delivery.deliverQueued request).2.ledger.Failed := by
  rcases deliverQueued_cases delivery request with refused | delivered
  · rw [refused]
    exact ⟨failed.blocked, failed.outstanding⟩
  · rw [delivered]
    refine Failed.finishHold ?_ request
    unfold beforeHold
    dsimp only
    rw [if_neg fun opened => absurd (failed.blocked.symm.trans opened.2) (by simp)]
    exact ⟨failed.blocked, failed.outstanding⟩

/-- After a delivery all pushes have been accepted and nothing is pending, or it has failed. -/
theorem deliver_smooth {ledger : GeneratedNoteLedger} (gated : Gated ledger)
    (request : DeliveryRequest) :
    ((∀ push ∈ (Delivery.deliver { ledger } request).2.pushed, push.accepted = true) ∧
        (Delivery.deliver { ledger } request).2.ledger.releasePending = false) ∨
      (Delivery.deliver { ledger } request).2.ledger.Failed := by
  have idle := @retryPendingReleases_idle { ledger } request.sink gated
  have retried := @retryPendingReleases_smooth { ledger } request.sink
  unfold Delivery.deliver
  generalize (Delivery.retryPendingReleases { ledger } request.sink).2 = ready at idle retried
  rcases idle with idle | failed
  · rcases retried with retried | failed
    · rcases deliverQueued_smooth ready request with ⟨before, smooth, pushed, -, pending⟩ | failed
      · refine .inl ⟨?_, pending.trans (smooth.pending idle)⟩
        obtain ⟨accepted, appended, all⟩ := (retried.trans smooth).pushed
        rw [pushed, appended]
        exact all
      · exact .inr failed
    · exact .inr (deliverQueued_failed failed)
  · exact .inr (deliverQueued_failed failed)

/-- One event leaves the queue as it is. -/
theorem deliverEvent_queue (event : VoiceTransition) :
    (delivery.deliverEvent request event).2.ledger.queue = delivery.ledger.queue := by
  have same {transition : VoiceTransition} {channel : ℕ} {accepted : Bool} {after : Delivery}
      (pushed : delivery.push request.sink transition channel = (accepted, after)) :
      after.ledger.queue = delivery.ledger.queue := congrArg queue (push_ledger pushed)
  unfold deliverEvent
  split_ifs
  · rfl
  · cases event.kind with
    | noteOff =>
        dsimp only
        unfold deliverNoteOff
        split
        · rfl
        · split
          · next pushed =>
              have kept := same pushed
              exact kept
          · next pushed =>
              have kept := same pushed
              exact kept
    | noteOn =>
        dsimp only
        unfold deliverNoteOn
        split_ifs
        · rfl
        · rfl
        · rfl
        · dsimp only
          split
          · rfl
          · split_ifs
            · rfl
            · split
              · next pushed =>
                  have kept := same pushed
                  exact kept
              · next pushed =>
                  have kept := same pushed
                  exact kept

/-- A delivery leaves the queue as it is. -/
theorem deliver_queue (ledger : GeneratedNoteLedger) (request : DeliveryRequest) :
    (Delivery.deliver { ledger } request).2.ledger.queue = ledger.queue := by
  have retried := @retryPendingReleases_queue { ledger } request.sink
  have looped (events : List VoiceTransition) (start : Delivery) :
      (deliverEvents request events start).ledger.queue = start.ledger.queue := by
    induction events generalizing start with
    | nil => rfl
    | cons event events ih =>
        rw [deliverEvents]
        have kept := @deliverEvent_queue start request event
        split
        · next outcome =>
            rw [outcome] at kept
            exact (ih _).trans kept
        · next outcome =>
            rw [outcome] at kept
            exact kept
  unfold Delivery.deliver
  generalize (Delivery.retryPendingReleases { ledger } request.sink).2 = ready at retried
  rcases deliverQueued_cases ready request with refused | delivered
  · rw [refused]
    exact retried
  · rw [delivered]
    have held : (GeneratedNoteLedger.finishHold (ready.beforeHold request).ledger request).queue =
        (ready.beforeHold request).ledger.queue := by
      unfold GeneratedNoteLedger.finishHold
      split_ifs <;> rfl
    refine held.trans ?_
    unfold beforeHold
    dsimp only
    split_ifs
    · exact (looped _ _).trans retried
    · exact retried

/-! ## The order of the queue -/

end Delivery

namespace GeneratedNoteLedger

/-- The queue stands in its order. -/
def Ordered (ledger : GeneratedNoteLedger) : Prop :=
  ledger.queue.Pairwise fun earlier later => transitionBefore later earlier = false

/-- A transition is queued at its place, so that the queue stays in order. -/
theorem queueTransition_ordered {ledger : GeneratedNoteLedger} (ordered : ledger.Ordered)
    (transition : VoiceTransition) (frames : ℕ) :
    (ledger.queueTransition transition frames).2.Ordered := by
  have before_iff {left right : VoiceTransition} :
      transitionBefore left right = false ↔ right.place ≤ left.place := by
    rw [← Bool.not_eq_true, transitionBefore_iff, not_lt]
  unfold queueTransition
  split_ifs
  · exact ordered
  · refine insertFromBack_pairwise (fun first second third one two => ?_)
      (fun first second before => ?_) ordered
    · exact before_iff.mpr ((before_iff.mp one).trans (before_iff.mp two))
    · exact before_iff.mpr (transitionBefore_iff.mp before).le

theorem queueReleasesOf_ordered (sampleOffset frames : ℕ) (slots : List (Fin maxVoices)) :
    ∀ (sequence : ℕ) (progress : Bool × GeneratedNoteLedger), progress.2.Ordered →
      (queueReleasesOf sampleOffset frames slots sequence progress).2.Ordered := by
  induction slots with
  | nil =>
      intro sequence progress ordered
      exact ordered
  | cons slot slots ih =>
      intro sequence progress ordered
      obtain ⟨complete, current⟩ := progress
      rw [queueReleasesOf]
      dsimp only
      split_ifs
      · exact ih _ _ (queueTransition_ordered ordered _ frames)
      · exact ih _ _ ordered

end GeneratedNoteLedger

namespace Delivery

variable {delivery next : Delivery} {sink : NoteEventSink} {request : DeliveryRequest}

/-! ## The pushes of a delivery -/

/-- A retry pushes releases at the start of the block. -/
theorem retryReleases_noteOffs (pending : List (ℕ × Fin maxVoices)) :
    ∃ released, (retryReleases sink pending delivery).2.pushed = delivery.pushed ++ released ∧
      ∀ push ∈ released, push.transition.sampleOffset = 0 ∧ push.transition.kind = .noteOff := by
  induction pending generalizing delivery with
  | nil => exact ⟨[], (List.append_nil _).symm, List.forall_mem_nil _⟩
  | cons head rest ih =>
      obtain ⟨note, slot⟩ := head
      rw [retryReleases]
      split_ifs
      · exact ih
      · split
        · next rejected pushed =>
            rcases push_cases delivery sink (pendingRelease (delivery.ledger.voices slot) note)
              (delivery.ledger.voices slot).channel with failed | ⟨answer, answered⟩
            · obtain ⟨-, rfl⟩ := Prod.mk.inj (failed.symm.trans pushed)
              exact ⟨[], (List.append_nil _).symm, List.forall_mem_nil _⟩
            · obtain ⟨rfl, rfl⟩ := Prod.mk.inj (answered.symm.trans pushed)
              exact ⟨_, rfl, by simp [pendingRelease]⟩
        · next accepted pushed =>
            obtain ⟨released, appended, releases⟩ :=
              @ih (accepted.mapLedger fun ledger => ledger.clearVoice slot)
            have recorded := congrArg Delivery.pushed (push_accepted pushed)
            refine ⟨⟨pendingRelease (delivery.ledger.voices slot) note,
              (delivery.ledger.voices slot).channel, true⟩ :: released, ?_,
              List.forall_mem_cons.mpr ⟨⟨rfl, rfl⟩, releases⟩⟩
            rw [appended]
            change accepted.pushed ++ released = _
            rw [recorded, List.append_assoc]
            rfl

/-- The retry adds releases to what has been pushed, all of them note-offs at the start of the
block. -/
theorem retryPendingReleases_noteOffs :
    ∃ released, (delivery.retryPendingReleases sink).2.pushed = delivery.pushed ++ released ∧
      ∀ push ∈ released, push.transition.sampleOffset = 0 ∧ push.transition.kind = .noteOff := by
  unfold retryPendingReleases
  split_ifs
  · exact ⟨[], (List.append_nil _).symm, List.forall_mem_nil _⟩
  · obtain ⟨released, appended, releases⟩ := @retryReleases_noteOffs delivery sink retryOrder
    refine ⟨released, ?_, releases⟩
    split
    · next retried =>
        rw [retried] at appended
        exact appended
    · next retried =>
        rw [retried] at appended
        exact appended

/-- The pushed transitions of an ordered delivery are events in their order. -/
theorem pushedInOrder_sublist {request : DeliveryRequest} {start : Delivery}
    {events : List VoiceTransition} {pushes : List Push} {blocked : Bool}
    (order : PushedInOrder request start events pushes blocked) :
    (pushes.map Push.transition).Sublist events := by
  obtain ⟨accepted, refused, rest, reached, rfl, -, rfl, -, ends⟩ := order
  rw [List.map_append]
  refine List.Sublist.append (List.Sublist.refl _) ?_
  rcases ends with ⟨-, rfl, -⟩ | ⟨event, later, rfl, -, refuses⟩
  · exact List.nil_sublist _
  · rcases refuses.last with rfl | ⟨push, rfl, rfl⟩
    · exact List.nil_sublist _
    · exact List.singleton_sublist.mpr List.mem_cons_self

/-- A delivery retries releases at the start of the block, and then pushes events of the
queue within the block, in the order of the queue. An output that is blocked, or waits
for a release, keeps the queue. -/
theorem deliver_pushes (ledger : GeneratedNoteLedger) (request : DeliveryRequest) :
    ∃ retried queued, (Delivery.deliver { ledger } request).2.pushed = retried ++ queued ∧
      (∀ push ∈ retried,
        push.transition.sampleOffset = 0 ∧ push.transition.kind = .noteOff) ∧
      (queued.map Push.transition).Sublist ledger.queue ∧
      (∀ push ∈ queued, push.transition.sampleOffset < request.frames) ∧
      (ledger.outputBlocked = true → queued = []) := by
  obtain ⟨retried, appended, releases⟩ := @retryPendingReleases_noteOffs { ledger } request.sink
  have queue := @retryPendingReleases_queue { ledger } request.sink
  have guards := @retryPendingReleases_guards { ledger } request.sink
  have stays := guards.blocked
  have delivered := deliverQueued_pushes
    (Delivery.retryPendingReleases { ledger } request.sink).2 request
  unfold Delivery.deliver
  generalize (Delivery.retryPendingReleases { ledger } request.sink).2 = ready at *
  split_ifs at delivered with opened
  · obtain ⟨pushes, pushed, order⟩ := delivered
    have inQueue := pushedInOrder_sublist order
    rw [queue] at inQueue
    refine ⟨retried, pushes, ?_, releases, inQueue.trans List.filter_sublist, ?_, ?_⟩
    · rw [pushed, appended]
      rfl
    · intro push member
      have taken := inQueue.subset (List.mem_map_of_mem member)
      have isDue := (List.mem_filter.mp taken).2
      rw [due, Bool.and_eq_true, decide_eq_true_eq] at isDue
      exact isDue.1
    · intro stopped
      exact absurd ((stays stopped).symm.trans opened.2.2.2.2) (by simp)
  · refine ⟨retried, [], ?_, releases, List.nil_sublist _, List.forall_mem_nil _, fun _ => rfl⟩
    rw [delivered, appended]
    exact (List.append_nil retried).symm

/-- The pushes are on MIDI channels, each with the sink's answer to it. -/
inductive Recorded (answer : List Push → VoiceTransition → ℕ → Bool) : List Push → Prop
  | nil : Recorded answer []
  | push {earlier : List Push} (recorded : Recorded answer earlier)
      (transition : VoiceTransition) {channel : ℕ} (inside : 1 ≤ channel ∧ channel ≤ 16) :
      Recorded answer
        (earlier ++ [⟨transition, channel, answer earlier transition channel⟩])

variable {answer : List Push → VoiceTransition → ℕ → Bool}

/-- What is recorded was pushed to one of the sixteen channels, since nothing else reaches the
sink. -/
theorem Recorded.inside {pushes : List Push} (recorded : Recorded answer pushes) :
    ∀ push ∈ pushes, 1 ≤ push.channel ∧ push.channel ≤ 16 := by
  induction recorded with
  | nil => exact List.forall_mem_nil _
  | push recorded transition inside ih =>
      refine List.forall_mem_append.mpr ⟨ih, ?_⟩
      intro push member
      rw [List.mem_singleton.mp member]
      exact inside

/-- One push is recorded with the answer that the sink gave after the pushes before it. -/
theorem push_recorded (recorded : Recorded answer delivery.pushed) (known : sink = some answer)
    {transition : VoiceTransition} {channel : ℕ} {accepted : Bool}
    (pushed : delivery.push sink transition channel = (accepted, next)) :
    Recorded answer next.pushed := by
  subst known
  unfold Delivery.push at pushed
  dsimp only at pushed
  split_ifs at pushed with inside
  · obtain ⟨-, rfl⟩ := Prod.mk.inj pushed
    exact recorded.push transition inside
  · obtain ⟨-, rfl⟩ := Prod.mk.inj pushed
    exact recorded

/-- Releases that are tried again are recorded with their answers. -/
theorem retryReleases_recorded (recorded : Recorded answer delivery.pushed)
    (known : sink = some answer) (pending : List (ℕ × Fin maxVoices)) :
    Recorded answer (retryReleases sink pending delivery).2.pushed := by
  induction pending generalizing delivery with
  | nil => exact recorded
  | cons head rest ih =>
      obtain ⟨note, slot⟩ := head
      rw [retryReleases]
      split_ifs
      · exact ih recorded
      · split
        · next rejected pushed =>
            have kept := push_recorded recorded known pushed
            exact kept
        · next accepted pushed =>
            have kept := push_recorded recorded known pushed
            exact @ih (accepted.mapLedger fun ledger => ledger.clearVoice slot) kept

theorem retryPendingReleases_recorded (recorded : Recorded answer delivery.pushed)
    (known : sink = some answer) :
    Recorded answer (delivery.retryPendingReleases sink).2.pushed := by
  unfold retryPendingReleases
  split_ifs
  · exact recorded
  · have retried := retryReleases_recorded recorded known retryOrder
    split
    · next outcome =>
        rw [outcome] at retried
        exact retried
    · next outcome =>
        rw [outcome] at retried
        exact retried

theorem deliverEvent_recorded (recorded : Recorded answer delivery.pushed)
    (known : request.sink = some answer) (event : VoiceTransition) :
    Recorded answer (delivery.deliverEvent request event).2.pushed := by
  unfold deliverEvent
  split_ifs
  · exact recorded
  · cases event.kind with
    | noteOff =>
        dsimp only
        unfold deliverNoteOff
        split
        · exact recorded
        · split
          · next pushed =>
              have kept := push_recorded recorded known pushed
              exact kept
          · next pushed =>
              have kept := push_recorded recorded known pushed
              exact kept
    | noteOn =>
        dsimp only
        unfold deliverNoteOn
        split_ifs
        · exact recorded
        · exact recorded
        · exact recorded
        · dsimp only
          split
          · exact recorded
          · split_ifs
            · exact recorded
            · split
              · next pushed =>
                  have kept := push_recorded recorded known pushed
                  exact kept
              · next pushed =>
                  have kept := push_recorded recorded known pushed
                  exact kept

theorem deliverEvents_recorded (recorded : Recorded answer delivery.pushed)
    (known : request.sink = some answer)
    (events : List VoiceTransition) :
    Recorded answer (deliverEvents request events delivery).pushed := by
  induction events generalizing delivery with
  | nil => exact recorded
  | cons event events ih =>
      rw [deliverEvents]
      have kept := deliverEvent_recorded recorded known event
      split
      · next outcome =>
          rw [outcome] at kept
          exact ih kept
      · next outcome =>
          rw [outcome] at kept
          exact kept

/-- A delivery records the sink's answers. -/
theorem deliver_recorded (ledger : GeneratedNoteLedger) (known : request.sink = some answer) :
    Recorded answer (Delivery.deliver { ledger } request).2.pushed := by
  have retried := @retryPendingReleases_recorded { ledger } request.sink answer Recorded.nil known
  unfold Delivery.deliver
  generalize (Delivery.retryPendingReleases { ledger } request.sink).2 = ready at retried
  rcases deliverQueued_cases ready request with refused | delivered
  · rw [refused]
    exact retried
  · rw [delivered]
    change Recorded answer (ready.beforeHold request).pushed
    unfold beforeHold
    dsimp only
    split_ifs
    · exact @deliverEvents_recorded (ready.mapLedger _) request answer retried known _
    · exact retried

end Delivery

end M3Midi
