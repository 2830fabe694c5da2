import M3Midi.Ledger.AcceptedEvents
import M3Midi.Ledger.DeliveryOutcome

/-! # The delivery after a panic

A panic queues one release for each active voice, and holds back the notes of the block.
The releases join the queue of the block: a note-off that is queued already, or a release
that is retried before the queue, takes a voice that a queued release then misses, and a
release that finds no voice blocks the output. With a sink that accepts everything, the
delivery after a panic leaves the output open exactly when there is neither, and room for
the releases (`M3Midi.GeneratedNoteLedger.panic_delivery_iff`).
-/

namespace M3Midi

open Foundation

/-- What a release names of a note. -/
def SoundingNote.name (item : SoundingNote) : ℕ × ℕ := (item.note, item.voiceId)

/-- The note that a push starts or ends. -/
def Push.item (push : Push) : SoundingNote :=
  ⟨push.transition.note, push.transition.voiceId, push.channel⟩

/-- What a transition names. -/
def VoiceTransition.name (transition : VoiceTransition) : ℕ × ℕ :=
  (transition.note, transition.voiceId)

namespace GeneratedNoteLedger

/-- The names of the sounding notes. -/
def names (ledger : GeneratedNoteLedger) : Multiset (ℕ × ℕ) :=
  ledger.soundingNotes.map SoundingNote.name

/-- Every sounding note is on a MIDI channel, and has a string or none. -/
def Sendable (ledger : GeneratedNoteLedger) : Prop :=
  ∀ item ∈ ledger.soundingNotes, (1 ≤ item.channel ∧ item.channel ≤ 16) ∧ item.note ≤ 127 ∧
    (item.voiceId = unassignedVoiceId ∨ item.voiceId < maxVoices)

/-- The condition under which a panic leaves the output open. Each part of it can fail on its own.
-/
structure Releasable (ledger : GeneratedNoteLedger) (sampleOffset frames : ℕ) : Prop where
  strays : ledger.allocated = true → frames ≤ ledger.maxFrames →
    ∀ event ∈ ledger.queue, event.kind = .noteOff → frames ≤ event.sampleOffset
  sounding : 0 < ledger.activeCount → ledger.releasePending = false ∧ ledger.allocated = true ∧
    frames ≤ ledger.maxFrames ∧ sampleOffset < frames ∧
    ledger.queue.length + ledger.activeCount ≤ ledger.capacity

variable {ledger : GeneratedNoteLedger} {log : List Push}

/-- The sounding notes are those of the slots. -/
theorem mem_soundingNotes {item : SoundingNote} :
    item ∈ ledger.soundingNotes ↔ ∃ slot, (ledger.voices slot).sounding = some item :=
  mem_heldKeys

/-- A ledger that only loses notes stays sendable. -/
theorem Sendable.shrink {next : GeneratedNoteLedger} (sendable : Sendable ledger)
    (shrinks : Shrinks ledger next) : Sendable next := by
  intro item member
  obtain ⟨slot, sounding⟩ := mem_soundingNotes.mp member
  refine sendable item (mem_soundingNotes.mpr ⟨slot, ?_⟩)
  rcases shrinks slot with gone | kept
  · rw [gone] at sounding
    cases sounding
  · rw [← kept]
    exact sounding

/-- Clearing a voice gives up its name. -/
theorem names_clearVoice {slot : Fin maxVoices} {item : SoundingNote}
    (sounding : (ledger.voices slot).sounding = some item) :
    item.name ::ₘ (ledger.clearVoice slot).names = ledger.names := by
  have notes : item ::ₘ (ledger.clearVoice slot).soundingNotes = ledger.soundingNotes :=
    heldKeys_clear sounding rfl
  rw [names, names, ← notes, Multiset.map_cons]

/-- A transition that names a sounding note finds its voice. -/
theorem findVoice_of_name {transition : VoiceTransition}
    (named : transition.name ∈ ledger.names)
    (valid : transition.voiceId = unassignedVoiceId ∨ transition.voiceId < maxVoices) :
    ∃ slot, ledger.findVoice transition = some slot ∧
      (ledger.voices slot).sounding =
        some ⟨transition.note, transition.voiceId, (ledger.voices slot).channel⟩ := by
  obtain ⟨item, member, same⟩ := Multiset.mem_map.mp named
  obtain ⟨slot, sounding⟩ := mem_soundingNotes.mp member
  obtain ⟨occupied, rfl⟩ := sounding_eq_some.mp sounding
  obtain ⟨note, voice⟩ := Prod.mk.inj same
  cases found : ledger.findVoice transition with
  | none =>
      have unheld := firstSlot_eq_none.mp found slot
      dsimp only at note voice
      rw [holds, occupied, note, voice, decide_eq_true rfl] at unheld
      rcases valid with none | lane
      · rw [none, if_neg (by decide), decide_eq_true rfl] at unheld
        exact absurd unheld (by simp)
      · rw [if_pos lane, decide_eq_true rfl] at unheld
        exact absurd unheld (by simp)
  | some slot => exact ⟨slot, rfl, findVoice_sounding found valid⟩

end GeneratedNoteLedger

namespace Delivery

open GeneratedNoteLedger

variable {delivery : Delivery} {request : DeliveryRequest}
  {answer : List Push → VoiceTransition → ℕ → Bool}

/-- In a hold the events that a delivery takes are releases. -/
theorem noteOff_of_due {frames : ℕ} {event : VoiceTransition}
    (taken : due frames true event = true) :
    event.sampleOffset < frames ∧ event.kind = .noteOff := by
  simpa [due] using taken

/-- As long as the releases of a hold name sounding notes, the output stays open. By induction on
the events. Each release finds its note, and leaves the others theirs. -/
theorem deliverEvents_open (sink : request.sink = some answer)
    {events : List VoiceTransition} (accepts : ∀ event ∈ events, Accepts answer event)
    (valid : ∀ event ∈ events, event.voiceId = unassignedVoiceId ∨ event.voiceId < maxVoices)
    (held : delivery.ledger.panicHold = true) (opened : delivery.ledger.outputBlocked = false)
    (sendable : Sendable delivery.ledger)
    (named : (((events.filter (due request.frames true)).map VoiceTransition.name :
      List (ℕ × ℕ)) : Multiset (ℕ × ℕ)) ≤ delivery.ledger.names) :
    (deliverEvents request events delivery).ledger.outputBlocked = false := by
  induction events generalizing delivery with
  | nil => exact opened
  | cons event events ih =>
      obtain ⟨accepted, otherAccepts⟩ := List.forall_mem_cons.mp accepts
      obtain ⟨voice, otherVoices⟩ := List.forall_mem_cons.mp valid
      rw [deliverEvents]
      cases taken : due request.frames true event with
      | false =>
          rw [List.filter_cons, taken, if_neg Bool.false_ne_true] at named
          rw [deliverEvent_of_not_due (by rw [held]; exact taken)]
          exact ih otherAccepts otherVoices held opened sendable named
      | true =>
          obtain ⟨inBlock, noteOff⟩ := noteOff_of_due taken
          rw [List.filter_cons, taken, if_pos rfl, List.map_cons, ← Multiset.cons_coe] at named
          obtain ⟨slot, found, sounding⟩ := findVoice_of_name
            (Multiset.mem_of_le named (Multiset.mem_cons_self _ _)) voice
          have channel := (sendable _ (mem_soundingNotes.mpr ⟨slot, sounding⟩)).1
          have released : delivery.deliverEvent request event =
              (true, ⟨delivery.ledger.clearVoice slot, delivery.pushed ++
                [⟨event, (delivery.ledger.voices slot).channel, true⟩]⟩) := by
            unfold deliverEvent
            rw [if_neg (Nat.not_le.mpr inBlock), noteOff]
            dsimp only
            have there : validChannel (delivery.ledger.voices slot).channel = true := by
              simpa [validChannel] using channel
            rw [deliverNoteOff, found]
            dsimp only
            rw [sink, push_take accepted, if_pos there]
            rfl
          rw [released]
          rw [← names_clearVoice sounding] at named
          exact ih otherAccepts otherVoices held opened
            (sendable.shrink (Shrinks.clearVoice slot))
            ((Multiset.cons_le_cons_iff _).mp named)

/-- An ordered delivery that blocks nothing pushes all its events. -/
theorem pushedInOrder_all {request : DeliveryRequest} {start : Delivery}
    {events : List VoiceTransition} {pushes : List Push}
    (order : PushedInOrder request start events pushes false) :
    pushes.map Push.transition = events ∧ ∀ push ∈ pushes, push.accepted = true := by
  obtain ⟨accepted, refused, rest, reached, rfl, all, rfl, -, ends⟩ := order.split
  rcases ends with ⟨rfl, rfl, -⟩ | ⟨event, later, -, blocked, -⟩
  · rw [List.append_nil, List.append_nil]
    exact ⟨rfl, all⟩
  · exact absurd blocked Bool.false_ne_true

end Delivery

namespace GeneratedNoteLedger

/-! ## The queued releases -/

/-- The releases that a panic queues for the active voices of a list of slots. -/
def releasesOf (voices : Fin maxVoices → ActiveVoice) (sampleOffset : ℕ) :
    List (Fin maxVoices) → ℕ → List VoiceTransition
  | [], _ => []
  | slot :: slots, sequence =>
      if (voices slot).active then
        activeRelease (voices slot) sampleOffset sequence ::
          releasesOf voices sampleOffset slots (sequence + 1)
      else releasesOf voices sampleOffset slots sequence

/-- There is room in the block for a number of releases. -/
structure Fits (ledger : GeneratedNoteLedger) (sampleOffset frames count : ℕ) : Prop where
  allocated : ledger.allocated = true
  sized : 0 < frames ∧ frames ≤ ledger.maxFrames
  inBlock : sampleOffset < frames
  room : ledger.queue.length + count ≤ ledger.capacity

variable {ledger : GeneratedNoteLedger} {log : List Push} {frames : ℕ}

/-- A valid transition is queued if there is room for it in the block, and refused otherwise. -/
theorem queueTransition_cases {transition : VoiceTransition}
    (valid : validTransition transition = true) (frames : ℕ) :
    (ledger.queueTransition transition frames =
        (true, { ledger with
          queue := insertFromBack transitionBefore transition ledger.queue }) ∧
        Fits ledger transition.sampleOffset frames 1) ∨
      (ledger.queueTransition transition frames = (false, { ledger with invalidTransition := true }) ∧
        ¬ Fits ledger transition.sampleOffset frames 1) := by
  unfold queueTransition
  split_ifs with refused
  · refine .inr ⟨rfl, fun fits => ?_⟩
    obtain ⟨allocated, sized, inBlock, room⟩ := fits
    rw [allocated, valid] at refused
    simp only [Bool.true_eq_false, false_or, or_false] at refused
    omega
  · simp only [not_or, Bool.not_eq_false] at refused
    exact .inl ⟨rfl, refused.1, by omega, by omega, by omega⟩

/-- A panic queues all its releases exactly when there is room for them. By induction on the slots
that remain. -/
theorem queueReleasesOf_fits (sampleOffset frames : ℕ) (slots : List (Fin maxVoices)) (sequence : ℕ) (complete : Bool)
    (ledger : GeneratedNoteLedger)
    (valid : ∀ slot sequence, (ledger.voices slot).active = true →
      validTransition (activeRelease (ledger.voices slot) sampleOffset sequence) = true) :
    ∃ queue invalid, (queueReleasesOf sampleOffset frames slots sequence (complete, ledger)).2 =
        { ledger with queue := queue, invalidTransition := invalid } ∧
      ((queueReleasesOf sampleOffset frames slots sequence (complete, ledger)).1 = true ↔
        complete = true ∧ (releasesOf ledger.voices sampleOffset slots sequence ≠ [] →
          Fits ledger sampleOffset frames
            (releasesOf ledger.voices sampleOffset slots sequence).length)) ∧
      ((queueReleasesOf sampleOffset frames slots sequence (complete, ledger)).1 = true →
        queue.Perm (releasesOf ledger.voices sampleOffset slots sequence ++ ledger.queue)) := by
  induction slots generalizing sequence complete ledger with
  | nil =>
      refine ⟨ledger.queue, ledger.invalidTransition, rfl, ?_, fun _ => List.Perm.refl _⟩
      exact ⟨fun kept => ⟨kept, fun some_ => absurd rfl some_⟩, fun kept => kept.1⟩
  | cons slot slots ih =>
      rw [queueReleasesOf, releasesOf]
      dsimp only
      by_cases active : (ledger.voices slot).active = true
      · rw [if_pos active, if_pos active]
        rcases queueTransition_cases (valid slot sequence active) frames with
          ⟨taken, fits⟩ | ⟨refused, unfit⟩
        · rw [taken]
          have longer := @length_insertFromBack _ transitionBefore
            (activeRelease (ledger.voices slot) sampleOffset sequence) ledger.queue
          have inserted := @insertFromBack_perm _ transitionBefore
            (activeRelease (ledger.voices slot) sampleOffset sequence) ledger.queue
          generalize insertFromBack transitionBefore
            (activeRelease (ledger.voices slot) sampleOffset sequence) ledger.queue = queued
            at longer inserted ⊢
          obtain ⟨queue, invalid, same, whole, all⟩ :=
            ih (sequence + 1) complete { ledger with queue := queued } valid
          dsimp only at whole all
          rw [Bool.true_and]
          refine ⟨queue, invalid, same, whole.trans (and_congr_right fun _ => ?_),
            fun finished => ?_⟩
          · generalize releasesOf ledger.voices sampleOffset slots (sequence + 1) = rest
            constructor
            · intro others _
              rcases rest with _ | ⟨next, later⟩
              · exact fits
              · obtain ⟨allocated, sized, inBlock, room⟩ := others (List.cons_ne_nil _ _)
                refine ⟨allocated, sized, inBlock, ?_⟩
                dsimp only at room
                rw [longer] at room
                rw [List.length_cons]
                omega
            · intro total _
              obtain ⟨allocated, sized, inBlock, room⟩ := total (List.cons_ne_nil _ _)
              refine ⟨allocated, sized, inBlock, ?_⟩
              rw [List.length_cons] at room
              dsimp only
              rw [longer]
              omega
          · exact (all finished).trans ((inserted.append_left _).trans List.perm_middle)
        · rw [refused]
          obtain ⟨queue, invalid, same, whole, all⟩ :=
            ih (sequence + 1) false { ledger with invalidTransition := true } valid
          rw [Bool.false_and]
          refine ⟨queue, invalid, same, ?_, fun finished => ?_⟩
          · rw [whole]
            refine ⟨fun never => absurd never.1 Bool.false_ne_true, fun total => ?_⟩
            obtain ⟨allocated, sized, inBlock, room⟩ := total.2 (List.cons_ne_nil _ _)
            rw [List.length_cons] at room
            exact absurd ⟨allocated, sized, inBlock, by omega⟩ unfit
          · exact absurd (whole.mp finished).1 Bool.false_ne_true
      · rw [if_neg active, if_neg active]
        exact ih sequence complete ledger valid

/-- The queued releases name the sounding notes. -/
theorem releasesOf_names (sampleOffset : ℕ)
    (pending : ∀ slot, (ledger.voices slot).pendingRelease → (ledger.voices slot).active)
    (slots : List (Fin maxVoices)) (sequence : ℕ) :
    (releasesOf ledger.voices sampleOffset slots sequence).map VoiceTransition.name =
      (slots.filterMap fun slot => (ledger.voices slot).sounding).map SoundingNote.name := by
  induction slots generalizing sequence with
  | nil => rfl
  | cons slot slots ih =>
      have occupied : (ledger.voices slot).occupied = (ledger.voices slot).active := by
        unfold ActiveVoice.occupied
        cases waits : (ledger.voices slot).pendingRelease with
        | false => exact Bool.or_false _
        | true => rw [pending slot waits, Bool.true_or]
      rw [releasesOf]
      by_cases active : (ledger.voices slot).active = true
      · have sounding := sounding_eq_some.mpr ⟨occupied.trans active, rfl⟩
        rw [if_pos active, List.filterMap_cons, sounding, List.map_cons, List.map_cons, ih]
        rfl
      · have silent := sounding_eq_none.mpr
          (occupied.trans (Bool.eq_false_iff.mpr active))
        rw [if_neg active, List.filterMap_cons, silent, ih]

/-- The notes of the slots, in their order, are the sounding notes. -/
theorem coe_sounding (ledger : GeneratedNoteLedger) :
    (((List.finRange maxVoices).filterMap fun slot => (ledger.voices slot).sounding :
      List SoundingNote) : Multiset SoundingNote) = ledger.soundingNotes := by
  unfold soundingNotes heldKeys contents
  rw [Multiset.filterMap_map]
  rfl

/-- The releases of all slots name each of the sounding notes once. -/
theorem releasesOf_finRange (accounts : Accounts log ledger) (sampleOffset sequence : ℕ) :
    (((releasesOf ledger.voices sampleOffset (List.finRange maxVoices) sequence).map
        VoiceTransition.name : List (ℕ × ℕ)) : Multiset (ℕ × ℕ)) = ledger.names ∧
      (releasesOf ledger.voices sampleOffset (List.finRange maxVoices) sequence).length =
        ledger.activeCount := by
  have named := releasesOf_names sampleOffset accounts.pending_active (List.finRange maxVoices)
    sequence
  have whole : (((releasesOf ledger.voices sampleOffset (List.finRange maxVoices) sequence).map
      VoiceTransition.name : List (ℕ × ℕ)) : Multiset (ℕ × ℕ)) = ledger.names := by
    rw [named, names, ← coe_sounding]
    rfl
  refine ⟨whole, ?_⟩
  have counted := congrArg Multiset.card whole
  rw [Multiset.coe_card, List.length_map, names, Multiset.card_map] at counted
  rw [counted, accounts.counted]

/-- The queued releases lie at the offset of the panic. -/
theorem mem_releasesOf {voices : Fin maxVoices → ActiveVoice} {sampleOffset : ℕ} {slots : List (Fin maxVoices)}
    {sequence : ℕ} {event : VoiceTransition}
    (member : event ∈ releasesOf voices sampleOffset slots sequence) :
    event.sampleOffset = sampleOffset ∧ event.kind = .noteOff := by
  induction slots generalizing sequence with
  | nil => exact absurd member List.not_mem_nil
  | cons slot slots ih =>
      rw [releasesOf] at member
      split_ifs at member
      · rcases List.mem_cons.mp member with rfl | later
        · exact ⟨rfl, rfl⟩
        · exact ih later
      · exact ih member

end GeneratedNoteLedger

namespace Delivery

open GeneratedNoteLedger

variable {delivery : Delivery} {request : DeliveryRequest} {log : List Push}

/-! ## The delivery in a hold -/

/-- A retry keeps what clearing, blocking and the end of the cleanup keep. -/
theorem retryPendingReleases_field {Value : Type*} (field : GeneratedNoteLedger → Value)
    (cleared : ∀ ledger slot, field (clearVoice ledger slot) = field ledger)
    (blocked : ∀ ledger, field (enterBlocked ledger) = field ledger)
    (completed : ∀ ledger, field (completeCleanup ledger) = field ledger)
    (delivery : Delivery) (sink : NoteEventSink) :
    field (delivery.retryPendingReleases sink).2.ledger = field delivery.ledger := by
  have looped (pending : List (ℕ × Fin maxVoices)) (start : Delivery) :
      field (retryReleases sink pending start).2.ledger = field start.ledger := by
    induction pending generalizing start with
    | nil => rfl
    | cons next pending ih =>
        obtain ⟨note, slot⟩ := next
        rw [retryReleases]
        split_ifs
        · exact ih start
        · split
          · next rejected pushed =>
              have same := congrArg field (push_ledger pushed)
              exact (blocked _).trans same
          · next accepted pushed =>
              have same := congrArg field (push_ledger pushed)
              exact (ih _).trans ((cleared _ slot).trans same)
  have retried := looped retryOrder delivery
  unfold retryPendingReleases
  split_ifs
  · exact completed _
  · split
    · next outcome =>
        rw [outcome] at retried
        exact retried
    · next outcome =>
        rw [outcome] at retried
        exact (completed _).trans retried

/-- A retry that finishes without a push has found nothing pending. -/
theorem retryReleases_unpushed {sink : NoteEventSink} {pending : List (ℕ × Fin maxVoices)}
    (finished : (retryReleases sink pending delivery).1 = true)
    (unpushed : (retryReleases sink pending delivery).2.pushed = delivery.pushed) :
    (retryReleases sink pending delivery).2.ledger = delivery.ledger := by
  induction pending generalizing delivery with
  | nil => rfl
  | cons next pending ih =>
      obtain ⟨note, slot⟩ := next
      rw [retryReleases] at finished unpushed ⊢
      split_ifs at finished unpushed ⊢
      · exact ih finished unpushed
      · split at finished
        · exact absurd finished Bool.false_ne_true
        · next accepted pushed =>
            obtain ⟨released, appended, -⟩ := @retryReleases_noteOffs
              (accepted.mapLedger fun ledger => ledger.clearVoice slot) sink pending
            rw [pushed] at unpushed
            dsimp only at unpushed
            have more := congrArg List.length (appended.symm.trans unpushed)
            have recorded := congrArg (fun current => current.pushed.length) (push_accepted pushed)
            simp [mapLedger] at more recorded
            omega

/-- Accepted releases close their notes, and open none. -/
theorem marks_of_releases {pushes : List Push}
    (releases : ∀ push ∈ pushes, push.accepted = true ∧ push.transition.kind = .noteOff) :
    openedItems (marks pushes) = 0 ∧
      closedItems (marks pushes) = (pushes.map Push.item : List SoundingNote) := by
  induction pushes with
  | nil => exact ⟨rfl, rfl⟩
  | cons push pushes ih =>
      obtain ⟨⟨accepted, noteOff⟩, others⟩ := List.forall_mem_cons.mp releases
      obtain ⟨opened, closed⟩ := ih others
      have mark : push.mark = some (.closed push.item) := by
        rw [Push.mark, accepted, noteOff]
        rfl
      rw [marks, List.filterMap_cons, mark]
      refine ⟨opened, ?_⟩
      rw [List.map_cons, ← Multiset.cons_coe, ← closed]
      rfl

/-- A hold that has calls left goes on, and leaves the output and the slots alone. -/
theorem finishHold_held {ledger : GeneratedNoteLedger} (held : ledger.panicHold = true)
    (calls : 0 < ledger.holdCallsRemaining) (request : DeliveryRequest) :
    (ledger.finishHold request).outputBlocked = ledger.outputBlocked ∧
      (ledger.finishHold request).voices = ledger.voices := by
  unfold finishHold
  rw [if_neg (by rw [held]; simp), if_pos calls]
  exact ⟨rfl, rfl⟩

/-- A hold that has been asked for in the call keeps a blocked output blocked. -/
theorem deliver_blocked {ledger : GeneratedNoteLedger} (gated : Gated ledger)
    (held : ledger.panicHold = true) (calls : 0 < ledger.holdCallsRemaining)
    (blocked : ledger.outputBlocked = true) :
    (Delivery.deliver { ledger } request).2.ledger.outputBlocked = true := by
  have retried := @retryPendingReleases_guards { ledger } request.sink
  unfold Delivery.deliver
  generalize (Delivery.retryPendingReleases { ledger } request.sink).2 = ready at retried
  rcases deliverQueued_cases ready request with refused | delivered
  · rw [refused]
    exact retried.blocked blocked
  · have guards := @beforeHold_guards ready request (retried.gated gated)
    have hold := guards.hold.trans (retried.hold.trans held)
    have counting := lt_of_lt_of_eq calls (guards.calls.trans retried.calls).symm
    rw [delivered]
    exact (finishHold_held hold counting request).1.trans (guards.blocked (retried.blocked blocked))

/-- With its storage, nothing pending and an open output a delivery takes its queue. -/
theorem deliverQueued_loop (allocated : delivery.ledger.allocated = true)
    (sized : 0 < request.frames ∧ request.frames ≤ delivery.ledger.maxFrames)
    (idle : delivery.ledger.releasePending = false)
    (opened : delivery.ledger.outputBlocked = false) :
    (delivery.deliverQueued request).2 =
      (deliverEvents request delivery.ledger.queue
        (delivery.mapLedger (checkRequest request))).mapLedger
          fun ledger => ledger.finishHold request := by
  unfold deliverQueued
  rw [if_neg]
  · dsimp only
    rw [if_pos ⟨idle, opened⟩]
    rfl
  · rintro (missing | none | beyond)
    · rw [allocated] at missing
      cases missing
    · omega
    · omega

/-- With nothing pending a delivery goes to its queue. -/
theorem deliver_idle {ledger : GeneratedNoteLedger} (idle : ledger.releasePending = false)
    (request : DeliveryRequest) :
    Delivery.deliver { ledger } request = deliverQueued ⟨completeCleanup ledger, []⟩ request := by
  unfold Delivery.deliver
  rw [retryPendingReleases, if_pos idle]
  rfl

/-- A retry without a push has found nothing pending, or has failed. -/
theorem retryPendingReleases_unpushed (gated : Gated delivery.ledger) {sink : NoteEventSink}
    (unpushed : (delivery.retryPendingReleases sink).2.pushed = delivery.pushed) :
    delivery.ledger.releasePending = false ∨
      (delivery.retryPendingReleases sink).2.ledger.Failed := by
  have idle := @retryPendingReleases_idle delivery sink gated
  have retried := @retryReleases_smooth delivery sink retryOrder
  have same := @retryReleases_unpushed delivery sink retryOrder
  unfold retryPendingReleases at idle unpushed ⊢
  split_ifs at idle unpushed ⊢ with waits
  · exact .inl waits
  · generalize retryReleases sink retryOrder delivery = outcome at *
    obtain ⟨finished, released⟩ := outcome
    rcases retried with ⟨rfl, -⟩ | ⟨rfl, failed⟩
    · rcases idle with left | failed
      · refine .inl ?_
        rw [← same rfl unpushed]
        exact left
      · exact .inr failed
    · exact .inr failed

/-- A delivery in a hold that leaves the output open has pushed releases only, all of them
accepted: those that waited, and, where the block fits its storage, those of the queue. -/
theorem deliver_held {ledger : GeneratedNoteLedger} (gated : Gated ledger)
    (held : ledger.panicHold = true) (calls : 0 < ledger.holdCallsRemaining)
    (opened : ledger.outputBlocked = false)
    (ends : (Delivery.deliver { ledger } request).2.ledger.outputBlocked = false) :
    (∀ push ∈ (Delivery.deliver { ledger } request).2.pushed,
        push.accepted = true ∧ push.transition.kind = .noteOff) ∧
      (ledger.allocated = true → 0 < request.frames ∧ request.frames ≤ ledger.maxFrames →
        ∃ retried, (Delivery.deliver { ledger } request).2.pushed.length =
            retried + (ledger.queue.filter (due request.frames true)).length ∧
          (retried = 0 → ledger.releasePending = false)) := by
  have idle := @retryPendingReleases_idle { ledger } request.sink gated
  have smooth := @retryPendingReleases_smooth { ledger } request.sink
  have guards := @retryPendingReleases_guards { ledger } request.sink
  have queue := @retryPendingReleases_queue { ledger } request.sink
  have storage := retryPendingReleases_field (fun ledger => (ledger.allocated, ledger.maxFrames))
    (fun _ _ => rfl) (fun _ => rfl) (fun _ => rfl) { ledger } request.sink
  obtain ⟨retried, appended, releases⟩ := @retryPendingReleases_noteOffs { ledger } request.sink
  have unpushed := @retryPendingReleases_unpushed { ledger } gated request.sink
  unfold Delivery.deliver at ends ⊢
  generalize (Delivery.retryPendingReleases { ledger } request.sink).2 = ready at *
  have alive : ¬ ready.ledger.Failed := by
    intro failed
    have blocked := (@deliverQueued_failed ready request failed).blocked
    exact absurd (blocked.symm.trans ends) (by simp)
  have accepted : ∀ push ∈ retried, push.accepted = true ∧ push.transition.kind = .noteOff := by
    obtain ⟨smoothly, pushed, all⟩ := (smooth.resolve_right alive).pushed
    have same : smoothly = retried := List.append_cancel_left (pushed.symm.trans appended)
    intro push member
    exact ⟨all push (same ▸ member), (releases push member).2⟩
  have readyIdle := idle.resolve_right alive
  have readyOpen := (smooth.resolve_right alive).blocked.trans opened
  have readyHeld := guards.hold.trans held
  obtain ⟨sameAllocated, sameFrames⟩ := Prod.mk.inj storage
  have start : ready.pushed = retried := appended
  by_cases fits : ready.ledger.allocated = true ∧ 0 < request.frames ∧
      request.frames ≤ ready.ledger.maxFrames
  · obtain ⟨allocated, sized⟩ := fits
    rw [deliverQueued_loop allocated sized readyIdle readyOpen] at ends ⊢
    obtain ⟨⟨pushes, pushed, order⟩, -⟩ := @deliverEvents_pushedInOrder
      (ready.mapLedger (checkRequest request)) request ready.ledger.queue readyOpen
    have loopGuards := @deliverEvents_guards (ready.mapLedger (checkRequest request)) request
      readyOpen ready.ledger.queue (guards.gated gated).queued
    have loopOpen := (finishHold_held (loopGuards.hold.trans readyHeld)
      (lt_of_lt_of_eq calls (loopGuards.calls.trans guards.calls).symm) request).1.symm.trans ends
    rw [loopOpen] at order
    obtain ⟨taken, all⟩ := pushedInOrder_all order
    have hold : (ready.mapLedger (checkRequest request)).ledger.panicHold = true := readyHeld
    rw [hold] at taken
    have total : ((deliverEvents request ready.ledger.queue
        (ready.mapLedger (checkRequest request))).mapLedger
          fun ledger => ledger.finishHold request).pushed = retried ++ pushes := by
      rw [← start]
      exact pushed
    rw [total]
    refine ⟨List.forall_mem_append.mpr ⟨accepted, fun push member => ⟨all push member, ?_⟩⟩,
      fun _ _ => ⟨retried.length, ?_, fun none => ?_⟩⟩
    · have isDue := List.mem_map_of_mem (f := Push.transition) member
      rw [taken] at isDue
      exact (noteOff_of_due (List.mem_filter.mp isDue).2).2
    · rw [List.length_append, ← @List.length_map _ _ pushes Push.transition, taken, queue]
    · have nothing : ready.pushed = [] := start.trans (List.eq_nil_of_length_eq_zero none)
      exact (unpushed nothing).resolve_right alive
  · have pushed := deliverQueued_pushes ready request
    rw [if_neg fun all => fits ⟨all.1, all.2.1, all.2.2.1⟩] at pushed
    rw [pushed, start]
    refine ⟨accepted, fun allocated sized => absurd ⟨sameAllocated.trans allocated, ?_⟩ fits⟩
    rw [sameFrames]
    exact sized

end Delivery

namespace GeneratedNoteLedger

open Delivery

variable {ledger : GeneratedNoteLedger} {log : List Push} {sampleOffset : ℕ}
  {request : DeliveryRequest}

/-! ## The panic -/

/-- The ledger with the releases of a panic in its queue. -/
def panicked (ledger : GeneratedNoteLedger) (sampleOffset frames : ℕ) :
    Bool × GeneratedNoteLedger :=
  ledger.requestRecovery.queueActiveReleases sampleOffset frames

/-- A recovery that is requested changes no account. -/
theorem requestRecovery_accounts (accounts : Accounts log ledger) :
    Accounts log ledger.requestRecovery :=
  accounts.of_same_notes (fun _ => rfl) accounts.pending_active rfl accounts.queue_voices

/-- What a panic puts into the queue: the releases of all active notes, at its own offset, if there
is room for all of them. -/
theorem panicked_spec (accounts : Accounts log ledger) (sendable : Sendable ledger)
    (sampleOffset frames : ℕ) :
    ∃ queue invalid releases, (ledger.panicked sampleOffset frames).2 =
        { ledger.requestRecovery with queue := queue, invalidTransition := invalid } ∧
      ((ledger.panicked sampleOffset frames).1 = true ↔
        (0 < ledger.activeCount → Fits ledger sampleOffset frames ledger.activeCount)) ∧
      ((ledger.panicked sampleOffset frames).1 = true → queue.Perm (releases ++ ledger.queue)) ∧
      ((releases.map VoiceTransition.name : List (ℕ × ℕ)) : Multiset (ℕ × ℕ)) = ledger.names ∧
      releases.length = ledger.activeCount ∧
      ∀ event ∈ releases, event.sampleOffset = sampleOffset ∧ event.kind = .noteOff := by
  have valid (slot : Fin maxVoices) (sequence : ℕ)
      (active : (ledger.voices slot).active = true) :
      validTransition (activeRelease (ledger.voices slot) sampleOffset sequence) = true := by
    have sounding := sounding_eq_some.mpr
      ⟨by rw [ActiveVoice.occupied, active, Bool.true_or], rfl⟩
    obtain ⟨-, note, voice⟩ := sendable _ (mem_soundingNotes.mpr ⟨slot, sounding⟩)
    simp only [validTransition, activeRelease, Bool.and_eq_true, decide_eq_true_eq]
    exact ⟨⟨decide_eq_true note, trivial⟩, decide_eq_true voice⟩
  obtain ⟨named, counted⟩ := releasesOf_finRange accounts sampleOffset 0
  obtain ⟨queue, invalid, same, whole, all⟩ := queueReleasesOf_fits sampleOffset frames
    (List.finRange maxVoices) 0 true ledger.requestRecovery valid
  have fits (count : ℕ) : Fits ledger.requestRecovery sampleOffset frames count ↔
      Fits ledger sampleOffset frames count :=
    ⟨fun there => ⟨there.allocated, there.sized, there.inBlock, there.room⟩,
      fun there => ⟨there.allocated, there.sized, there.inBlock, there.room⟩⟩
  refine ⟨queue, invalid, releasesOf ledger.voices sampleOffset (List.finRange maxVoices) 0, same,
    whole.trans ?_, all, named, counted, fun event member => mem_releasesOf member⟩
  rw [fits]
  change true = true ∧ (releasesOf ledger.voices sampleOffset (List.finRange maxVoices) 0 ≠ [] →
    Fits ledger sampleOffset frames
      (releasesOf ledger.voices sampleOffset (List.finRange maxVoices) 0).length) ↔ _
  rw [counted, ← List.length_pos_iff_ne_nil, counted]
  exact ⟨fun both => both.2, fun room => ⟨rfl, room⟩⟩

/-- A panic keeps the account, since its releases are only queued. -/
theorem panicked_accounts (accounts : Accounts log ledger) (sampleOffset frames : ℕ) :
    Accounts log (ledger.panicked sampleOffset frames).2 :=
  queueReleasesOf_accounts sampleOffset frames _ 0 (true, ledger.requestRecovery)
    (requestRecovery_accounts accounts)

/-- It keeps the gates, too. -/
theorem panicked_gated (gated : Gated ledger) (sampleOffset frames : ℕ) :
    Gated (ledger.panicked sampleOffset frames).2 :=
  (Guards.queueReleasesOf sampleOffset frames (List.finRange maxVoices) 0
    (true, ledger.requestRecovery)).gated
      ⟨gated.notes, gated.queued, gated.cleaned, gated.blocked⟩

/-- What a call pushes, and what sounds after it. -/
theorem deliver_balance (accounts : Accounts log ledger)
    (releases : ∀ push ∈ (Delivery.deliver { ledger } request).2.pushed,
      push.accepted = true ∧ push.transition.kind = .noteOff) :
    ledger.soundingNotes =
      ((Delivery.deliver { ledger } request).2.pushed.map Push.item : List SoundingNote) +
        (Delivery.deliver { ledger } request).2.ledger.soundingNotes := by
  have entered : Delivery.Accounts log { ledger } := by
    rwa [Delivery.Accounts, List.append_nil]
  have after := (deliver_accounts entered request).replayed
  obtain ⟨opened, closed⟩ := marks_of_releases releases
  rw [marks_append, replay_append, accounts.replayed, Option.bind_some] at after
  have balance := held_add_opened_of_replay after
  rw [opened, closed, add_zero] at balance
  exact balance

/-- A panic whose delivery leaves the output open has met its condition, and has released
each sounding note once. -/
theorem panicked_released (accounts : Accounts log ledger) (gated : Gated ledger)
    (sendable : Sendable ledger) (opened : ledger.outputBlocked = false)
    (some_frames : 0 < request.frames)
    (complete : (ledger.panicked sampleOffset request.frames).1 = true)
    (ends : (Delivery.deliver { ledger := (ledger.panicked sampleOffset request.frames).2 }
      request).2.ledger.outputBlocked = false) :
    Releasable ledger sampleOffset request.frames ∧
      (∀ push ∈ (Delivery.deliver { ledger := (ledger.panicked sampleOffset request.frames).2 }
        request).2.pushed, push.accepted = true ∧ push.transition.kind = .noteOff) ∧
      (((Delivery.deliver { ledger := (ledger.panicked sampleOffset request.frames).2 }
        request).2.pushed.map Push.item : List SoundingNote) : Multiset SoundingNote) =
          ledger.soundingNotes := by
  obtain ⟨queue, invalid, releases, same, whole, all, -, counted, placed⟩ :=
    panicked_spec accounts sendable sampleOffset request.frames
  have fits := whole.mp complete
  have perm := all complete
  have after := panicked_accounts accounts sampleOffset request.frames
  have afterGated := panicked_gated gated sampleOffset request.frames
  generalize (ledger.panicked sampleOffset request.frames).2 = next at *
  subst same
  obtain ⟨pushes, retried⟩ := deliver_held afterGated rfl Nat.one_pos opened ends
  have balance := deliver_balance after pushes
  generalize (Delivery.deliver { ledger := { ledger.requestRecovery with
    queue := queue, invalidTransition := invalid } } request).2 = final at *
  change ledger.soundingNotes = _ at balance
  have sizes := congrArg Multiset.card balance
  rw [← accounts.counted, Multiset.card_add, Multiset.coe_card, List.length_map] at sizes
  -- The releases of the panic account for all that sounds.
  have dueReleases : 0 < ledger.activeCount →
      (releases.filter (due request.frames true)).length = ledger.activeCount := by
    intro some_
    rw [List.filter_eq_self.mpr, counted]
    intro event member
    obtain ⟨offset, noteOff⟩ := placed event member
    simp [due, offset, noteOff, (fits some_).inBlock]
  have taken := (perm.filter (due request.frames true)).length_eq
  rw [List.filter_append, List.length_append] at taken
  have stored (allocated : ledger.allocated = true) (sized : request.frames ≤ ledger.maxFrames) :
      ∃ waited, final.pushed.length = waited + (queue.filter (due request.frames true)).length ∧
        (waited = 0 → ledger.releasePending = false) :=
    retried allocated ⟨some_frames, sized⟩
  refine ⟨⟨fun allocated sized event member noteOff => ?_, fun some_ => ?_⟩, pushes, ?_⟩
  · obtain ⟨waited, total, -⟩ := stored allocated sized
    have none : (ledger.queue.filter (due request.frames true)).length = 0 := by
      rcases Nat.eq_zero_or_pos ledger.activeCount with silent | some_
      · omega
      · have every := dueReleases some_
        omega
    by_contra inBlock
    have isDue : due request.frames true event = true := by
      simp [due, noteOff, Nat.lt_of_not_le inBlock]
    have inFilter := List.mem_filter.mpr ⟨member, isDue⟩
    rw [List.eq_nil_of_length_eq_zero none] at inFilter
    exact absurd inFilter List.not_mem_nil
  · have room := fits some_
    obtain ⟨waited, total, idle⟩ := stored room.allocated room.sized.2
    have every := dueReleases some_
    exact ⟨idle (by omega), room.allocated, room.sized.2, room.inBlock, room.room⟩
  · have silent : final.ledger.soundingNotes.card = 0 := by
      rcases Nat.eq_zero_or_pos ledger.activeCount with silent | some_
      · omega
      · have room := fits some_
        obtain ⟨waited, total, idle⟩ := stored room.allocated room.sized.2
        have every := dueReleases some_
        omega
    rw [balance, Multiset.card_eq_zero.mp silent, add_zero]

/-- Where its condition is met, and the sink accepts everything, the delivery after a panic
leaves the output open. -/
theorem panicked_open (accounts : Accounts log ledger) (gated : Gated ledger)
    (sendable : Sendable ledger) (opened : ledger.outputBlocked = false)
    {answer : List Push → VoiceTransition → ℕ → Bool} (sink : request.sink = some answer)
    (accepts : ∀ event, Accepts answer event) (some_frames : 0 < request.frames)
    (releasable : Releasable ledger sampleOffset request.frames) :
    (ledger.panicked sampleOffset request.frames).1 = true ∧
      (Delivery.deliver { ledger := (ledger.panicked sampleOffset request.frames).2 }
        request).2.ledger.outputBlocked = false := by
  obtain ⟨queue, invalid, releases, same, whole, all, named, -, -⟩ :=
    panicked_spec accounts sendable sampleOffset request.frames
  have complete : (ledger.panicked sampleOffset request.frames).1 = true := by
    refine whole.mpr fun some_ => ?_
    obtain ⟨-, allocated, sized, inBlock, room⟩ := releasable.sounding some_
    exact ⟨allocated, ⟨some_frames, sized⟩, inBlock, room⟩
  refine ⟨complete, ?_⟩
  have perm := all complete
  have after := panicked_accounts accounts sampleOffset request.frames
  have afterGated := panicked_gated gated sampleOffset request.frames
  generalize (ledger.panicked sampleOffset request.frames).2 = next at *
  subst same
  have idle : ledger.releasePending = false := by
    rcases Nat.eq_zero_or_pos ledger.activeCount with silent | some_
    · rw [releasePending_eq_false]
      intro slot
      by_contra waits
      have sounding := sounding_eq_some.mpr
        ⟨by rw [ActiveVoice.occupied, Bool.of_not_eq_false waits, Bool.or_true], rfl⟩
      have member := mem_soundingNotes.mpr ⟨slot, sounding⟩
      rw [accounts.counted, Multiset.card_eq_zero] at silent
      rw [silent] at member
      exact absurd member (Multiset.notMem_zero _)
    · exact (releasable.sounding some_).1
  have names : ∀ next : GeneratedNoteLedger, next.voices = ledger.voices →
      next.names = ledger.names := by
    intro next voices
    rw [GeneratedNoteLedger.names, GeneratedNoteLedger.names, soundingNotes, soundingNotes, voices]
  generalize known : { ledger.requestRecovery with
    queue := queue, invalidTransition := invalid } = next at *
  have voices : next.voices = ledger.voices := by rw [← known]; rfl
  have held : next.panicHold = true := by rw [← known]; rfl
  have calls : next.holdCallsRemaining = 1 := by rw [← known]; rfl
  have nextOpen : next.outputBlocked = false := by rw [← known]; exact opened
  have nextQueue : next.queue = queue := by rw [← known]
  have storage : next.allocated = ledger.allocated ∧ next.maxFrames = ledger.maxFrames := by
    rw [← known]
    exact ⟨rfl, rfl⟩
  have nextIdle : next.releasePending = false := by
    rw [releasePending, voices]
    exact idle
  rw [deliver_idle nextIdle]
  by_cases fits : next.allocated = true ∧ 0 < request.frames ∧ request.frames ≤ next.maxFrames
  · rw [@deliverQueued_loop ⟨completeCleanup next, []⟩ request fits.1 fits.2 nextIdle nextOpen]
    have strays : ledger.queue.filter (due request.frames true) = [] := by
      refine List.filter_eq_nil_iff.mpr fun event member taken => ?_
      obtain ⟨inBlock, noteOff⟩ := noteOff_of_due taken
      have beyond := releasable.strays (storage.1 ▸ fits.1) (storage.2 ▸ fits.2.2) event member
        noteOff
      omega
    have named' : (((next.queue.filter (due request.frames true)).map VoiceTransition.name :
        List (ℕ × ℕ)) : Multiset (ℕ × ℕ)) ≤ next.names := by
      rw [names next voices, ← named, nextQueue]
      have taken := (perm.filter (due request.frames true)).map VoiceTransition.name
      rw [List.filter_append, strays, List.append_nil] at taken
      exact taken.subperm.trans (List.filter_sublist.map VoiceTransition.name).subperm
    have loop := @deliverEvents_open
      (mapLedger ⟨completeCleanup next, []⟩ (checkRequest request)) request answer sink next.queue
      (fun event _ => accepts event) after.queue_voices held nextOpen
      (sendable.shrink (Shrinks.of_voices voices)) named'
    have guards := @deliverEvents_guards
      (mapLedger ⟨completeCleanup next, []⟩ (checkRequest request)) request nextOpen next.queue
      afterGated.queued
    have counting : 0 < (deliverEvents request next.queue
        (mapLedger ⟨completeCleanup next, []⟩ (checkRequest request))).ledger.holdCallsRemaining :=
      lt_of_lt_of_eq Nat.one_pos (guards.calls.trans calls).symm
    exact (finishHold_held (guards.hold.trans held) counting request).1.trans loop
  · unfold deliverQueued
    rw [if_pos]
    · exact nextOpen
    · by_contra accepted
      simp only [not_or, Bool.not_eq_false] at accepted
      exact fits ⟨accepted.1, some_frames, Nat.le_of_not_lt accepted.2.2⟩

end GeneratedNoteLedger

end M3Midi
