import M3Midi.Clap.PipelineStates
import M3Midi.Ledger.AcceptedEvents
import M3Midi.Foundation.KeyedMerge

/-! # The order of a call's output

The merge stops at an input event that is not due, also at one that lies beyond the
block and will be left out. Input events behind it are then passed on late, after
generated events they should precede. The output of every call is in order exactly when
no input event beyond the block stands before one that is passed on
(`M3Midi.merged_in_order_iff`).
-/

namespace M3Midi

open Foundation GeneratedNoteLedger

namespace HostEvent

/-- The sample offset of an event, whichever side it comes from. -/
def time : HostEvent → ℕ
  | midi offset _ _ _ => offset
  | input _ header => header.time

/-- At one time note-offs come first, then input events, then note-ons. -/
def rank : HostEvent → ℕ
  | midi _ status _ _ => if status / 16 = 9 then 2 else 0
  | input _ _ => 1

/-- The place of an event in the output. -/
def place (event : HostEvent) : ℕ ×ₗ ℕ := toLex (event.time, event.rank)

/-- The index of an input event. -/
def inputIndex : HostEvent → Option ℕ
  | midi _ _ _ _ => none
  | input index _ => some index

end HostEvent

/-- What the host accepted. -/
def acceptedEvents (log : List HostPush) : List HostEvent :=
  (log.filter (·.accepted)).map (·.event)

/-- The input events a call passes on: complete MIDI events of the block, none earlier than
the events of the block before it. -/
def passedInputs (framesCount : ℕ) :
    Option ℕ → List (Option InputHeader × ℕ) → List (InputHeader × ℕ)
  | _, [] => []
  | last, (none, _) :: rest => passedInputs framesCount last rest
  | last, (some header, index) :: rest =>
      if untimely framesCount last header then passedInputs framesCount last rest
      else if header.coreMidi ∧ header.complete then
        (header, index) :: passedInputs framesCount (some header.time) rest
      else passedInputs framesCount (some header.time) rest

/-- No input event beyond the block stands before one that is passed on. -/
def Unhindered (framesCount : ℕ) (last : Option ℕ) (rest : List (Option InputHeader × ℕ)) : Prop :=
  ∀ header late, (some header, late) ∈ rest → framesCount ≤ header.time →
    ∀ passed ∈ passedInputs framesCount last rest, passed.2 < late

/-- The output of a call is in order, lies in the block, and passes on each input event at
most once, in their order. -/
structure MergedInOrder (call : MidiCall) (log : List HostPush) : Prop where
  ordered : KeySorted HostEvent.place (acceptedEvents log)
  inside : ∀ event ∈ acceptedEvents log, event.time < call.framesCount
  once : ((acceptedEvents log).filterMap HostEvent.inputIndex).Pairwise (· < ·)
  own : ∀ index header, HostEvent.input index header ∈ acceptedEvents log →
    call.input[index]? = some (some header)

/-! ## The input events that are passed on -/

section Passed

variable {framesCount : ℕ}

/-- Passed events lie in the block, not before the last one read, and are among the inputs. By
induction on the inputs, which the cursor passes one after the other. -/
theorem mem_passedInputs {last : Option ℕ} {rest : List (Option InputHeader × ℕ)}
    {item : InputHeader × ℕ} (passed : item ∈ passedInputs framesCount last rest) :
    item.1.time < framesCount ∧ (∀ time ∈ last, time ≤ item.1.time) ∧
      (some item.1, item.2) ∈ rest := by
  induction rest generalizing last with
  | nil => exact absurd passed List.not_mem_nil
  | cons head rest ih =>
      obtain ⟨_ | header, index⟩ := head
      · obtain ⟨inside, after, member⟩ := ih passed
        exact ⟨inside, after, List.mem_cons_of_mem _ member⟩
      · rw [passedInputs] at passed
        split_ifs at passed with out taken
        · obtain ⟨inside, after, member⟩ := ih passed
          exact ⟨inside, after, List.mem_cons_of_mem _ member⟩
        all_goals
          simp only [untimely, Bool.or_eq_true, decide_eq_true_eq, not_or, not_le,
            Bool.not_eq_true] at out
        · rcases List.mem_cons.mp passed with rfl | later
          · refine ⟨out.1, fun time known => ?_, List.mem_cons_self⟩
            have ordered := out.2
            rw [Option.mem_def.mp known] at ordered
            simpa using ordered
          · obtain ⟨inside, after, member⟩ := ih later
            refine ⟨inside, fun time known => ?_, List.mem_cons_of_mem _ member⟩
            have ordered := out.2
            rw [Option.mem_def.mp known] at ordered
            have reached := after header.time rfl
            have before : time ≤ header.time := by simpa using ordered
            exact before.trans reached
        · obtain ⟨inside, after, member⟩ := ih passed
          refine ⟨inside, fun time known => ?_, List.mem_cons_of_mem _ member⟩
          have ordered := out.2
          rw [Option.mem_def.mp known] at ordered
          have reached := after header.time rfl
          have before : time ≤ header.time := by simpa using ordered
          exact before.trans reached

/-- The positions of a list's items ascend. -/
theorem zipIdx_indexed {Item : Type*} (items : List Item) :
    items.zipIdx.Pairwise fun first second => first.2 < second.2 := by
  have indexes : (items.zipIdx.map Prod.snd).Pairwise (· < ·) := by
    rw [List.zipIdx_map_snd]
    exact List.pairwise_lt_range'
  exact List.pairwise_map.mp indexes

/-- Passed events come in the order of their times. -/
theorem passedInputs_sorted (last : Option ℕ) (rest : List (Option InputHeader × ℕ)) :
    (passedInputs framesCount last rest).Pairwise fun first second =>
      first.1.time ≤ second.1.time := by
  induction rest generalizing last with
  | nil => exact List.Pairwise.nil
  | cons head rest ih =>
      obtain ⟨_ | header, index⟩ := head
      · exact ih last
      · rw [passedInputs]
        split_ifs
        · exact ih last
        · refine List.pairwise_cons.mpr ⟨fun item member => ?_, ih _⟩
          exact (mem_passedInputs member).2.1 header.time rfl
        · exact ih _

/-- Passed events come in the order of the inputs. -/
theorem passedInputs_sublist (last : Option ℕ) (rest : List (Option InputHeader × ℕ)) :
    ((passedInputs framesCount last rest).map fun item => (some item.1, item.2)).Sublist rest := by
  induction rest generalizing last with
  | nil => exact List.Sublist.slnil
  | cons head rest ih =>
      obtain ⟨_ | header, index⟩ := head
      · exact (ih last).cons _
      · rw [passedInputs]
        split_ifs
        · exact (ih last).cons _
        · exact (ih _).cons_cons _
        · exact (ih _).cons _

end Passed

/-! ## Flushing -/

/-- The events of a log, whatever the host answered. -/
def offeredEvents (log : List HostPush) : List HostEvent := log.map (·.event)

/-- The input event that is offered. -/
def inputEvent (item : InputHeader × ℕ) : HostEvent := .input item.2 item.1

section Flush

variable {call : MidiCall} {due : ℕ → Bool}

/-- A flush reads a front part of the events that are passed on, all of them due, and
offers them when there is an output. -/
def Flushed (call : MidiCall) (due : ℕ → Bool) (passing : List (InputHeader × ℕ))
    (before after : DeliveryContext) : Prop :=
  ∃ front offered,
    passing = front ++ passedInputs call.framesCount after.lastInputOffset after.remaining ∧
    offeredEvents after.log = offeredEvents before.log ++ offered.map inputEvent ∧
    offered.Sublist front ∧ (call.output.isSome → offered = front) ∧
    ∀ item ∈ front, due item.1.time = true

/-- The flush ends where it is, with the other inputs still to come. -/
theorem Flushed.here {passing : List (InputHeader × ℕ)} {before after : DeliveryContext}
    (rest : passing = passedInputs call.framesCount after.lastInputOffset after.remaining)
    (log : after.log = before.log) : Flushed call due passing before after := by
  refine ⟨[], [], rest, ?_, List.Sublist.slnil, fun _ => rfl, List.forall_mem_nil _⟩
  rw [log, List.map_nil, List.append_nil]

/-- The flush takes one input and goes on from there. -/
theorem Flushed.onward {passing : List (InputHeader × ℕ)} {item : InputHeader × ℕ}
    {before next after : DeliveryContext} {own : List (InputHeader × ℕ)}
    (flushed : Flushed call due passing next after)
    (logged : offeredEvents next.log = offeredEvents before.log ++ own.map inputEvent)
    (some_of : own.Sublist [item]) (whole : call.output.isSome → own = [item])
    (isDue : due item.1.time = true) : Flushed call due (item :: passing) before after := by
  obtain ⟨front, offered, rfl, log, sub, all, allDue⟩ := flushed
  refine ⟨item :: front, own ++ offered, rfl, ?_, some_of.append sub, fun there => ?_,
    List.forall_mem_cons.mpr ⟨isDue, allDue⟩⟩
  · rw [log, logged, List.map_append, List.append_assoc]
  · rw [whole there, all there]
    rfl

/-- A flush offers the inputs that are due, in their order and up to the first one that is not due
or not taken. -/
theorem flushInputs_flushed (rest : List (Option InputHeader × ℕ)) (context : DeliveryContext) :
    Flushed call due (passedInputs call.framesCount context.lastInputOffset rest) context
      (flushInputs call due rest context).2 := by
  induction rest generalizing context with
  | nil => exact Flushed.here rfl rfl
  | cons head rest ih =>
      obtain ⟨_ | header, index⟩ := head
      · exact ih { context with invalidEvent := true }
      · rw [flushInputs, passedInputs]
        by_cases held : due header.time = false
        · rw [if_pos held]
          refine Flushed.here ?_ rfl
          rw [passedInputs]
        · rw [if_neg held]
          by_cases out : untimely call.framesCount context.lastInputOffset header = true
          · rw [if_pos out, if_pos out]
            exact ih { context with invalidEvent := true }
          rw [if_neg out, if_neg out]
          dsimp only
          by_cases taken : header.coreMidi = true ∧ header.complete = true
          · rw [if_pos taken, if_neg (by simp [taken.1]), if_neg (by simp [taken.2])]
            have isDue := Bool.of_not_eq_false held
            cases there : call.output with
            | none =>
                have flushed := ih (DeliveryContext.markRoute
                  { context with lastInputOffset := some header.time } call)
                refine @Flushed.onward call due _ (header, index) context _ _ [] flushed ?_ ?_ ?_
                  isDue
                · exact (List.append_nil _).symm
                · exact List.nil_sublist _
                · simp [there]
            | some answer =>
                rw [DeliveryContext.offer]
                dsimp only
                cases accepted : answer context.log (.input index header) with
                | true =>
                    have flushed := ih { context with
                      lastInputOffset := some header.time
                      log := context.log ++ [⟨.input index header, true⟩] }
                    refine @Flushed.onward call due _ (header, index) context _ _
                      [(header, index)] flushed ?_ (List.Sublist.refl _) (fun _ => rfl) isDue
                    simp [offeredEvents, inputEvent]
                | false =>
                    have flushed := ih (DeliveryContext.markRoute { context with
                      lastInputOffset := some header.time
                      log := context.log ++ [⟨.input index header, false⟩] } call)
                    refine @Flushed.onward call due _ (header, index) context _ _
                      [(header, index)] flushed ?_ (List.Sublist.refl _) (fun _ => rfl) isDue
                    simp [offeredEvents, inputEvent, DeliveryContext.markRoute]
          · rw [if_neg taken]
            by_cases midi : header.coreMidi = false
            · rw [if_pos midi]
              exact ih { context with lastInputOffset := some header.time }
            · have short : header.complete = false := by
                by_contra whole
                exact taken ⟨Bool.of_not_eq_false midi, Bool.of_not_eq_false whole⟩
              rw [if_neg midi, if_pos short]
              exact ih { context with lastInputOffset := some header.time, invalidEvent := true }

/-- Reading on keeps what stands in nobody's way. -/
theorem Unhindered.tail {framesCount : ℕ} {last next : Option ℕ}
    {head : Option InputHeader × ℕ} {rest : List (Option InputHeader × ℕ)}
    (unhindered : Unhindered framesCount last (head :: rest))
    (passes : ∀ item ∈ passedInputs framesCount next rest,
      item ∈ passedInputs framesCount last (head :: rest)) :
    Unhindered framesCount next rest := by
  intro header late member beyond item passed
  exact unhindered header late (List.mem_cons_of_mem _ member) beyond item (passes item passed)

/-- Where no event beyond the block hinders another, a flush leaves no due event behind. The loop
stops at the first event that is not due, and the condition says that no due one stands behind it.
-/
theorem flushInputs_held (closed : ∀ earlier later, earlier ≤ later → due later = true →
      due earlier = true) {rest : List (Option InputHeader × ℕ)} {context : DeliveryContext}
    (indexed : rest.Pairwise fun first second => first.2 < second.2)
    (unhindered : Unhindered call.framesCount context.lastInputOffset rest) :
    (∀ item ∈ passedInputs call.framesCount
        (flushInputs call due rest context).2.lastInputOffset
        (flushInputs call due rest context).2.remaining, due item.1.time = false) ∧
      Unhindered call.framesCount (flushInputs call due rest context).2.lastInputOffset
        (flushInputs call due rest context).2.remaining ∧
      (flushInputs call due rest context).2.remaining.Sublist rest := by
  induction rest generalizing context with
  | nil =>
      refine ⟨fun item passed => absurd passed List.not_mem_nil, ?_, List.Sublist.slnil⟩
      intro header late member
      exact absurd member List.not_mem_nil
  | cons head rest ih =>
      obtain ⟨below, others⟩ := List.pairwise_cons.mp indexed
      have go {next : DeliveryContext}
          (passes : ∀ item ∈ passedInputs call.framesCount next.lastInputOffset rest,
            item ∈ passedInputs call.framesCount context.lastInputOffset (head :: rest)) :=
        @ih next others (unhindered.tail passes)
      obtain ⟨_ | header, index⟩ := head
      · obtain ⟨held, kept, left⟩ := @go { context with invalidEvent := true }
          fun item passed => passed
        exact ⟨held, kept, left.cons _⟩
      · rw [flushInputs]
        by_cases stop : due header.time = false
        · rw [if_pos stop]
          refine ⟨fun item passed => ?_, unhindered, List.Sublist.refl _⟩
          have behind : header.time ≤ item.1.time := by
            by_cases beyond : call.framesCount ≤ header.time
            · have earlier := unhindered header index List.mem_cons_self beyond item passed
              rcases List.mem_cons.mp (mem_passedInputs passed).2.2 with here | later
              · exact absurd (congrArg Prod.snd here) (by simpa using earlier.ne)
              · exact absurd (below _ later) (by simpa using earlier.le)
            · dsimp only at passed
              rw [passedInputs] at passed
              split_ifs at passed with out taken
              · have after := (mem_passedInputs passed).2.1
                cases known : context.lastInputOffset with
                | none => simp [untimely, known, beyond] at out
                | some last =>
                    have before : header.time < last := by
                      simpa [untimely, known, beyond] using out
                    exact before.le.trans (after last known)
              · rcases List.mem_cons.mp passed with rfl | later
                · exact le_rfl
                · exact (mem_passedInputs later).2.1 header.time rfl
              · exact (mem_passedInputs passed).2.1 header.time rfl
          by_contra due'
          exact absurd (closed _ _ behind (Bool.of_not_eq_false due')) (by simp [stop])
        · rw [if_neg stop]
          by_cases out : untimely call.framesCount context.lastInputOffset header = true
          · obtain ⟨held, kept, left⟩ := @go { context with invalidEvent := true }
              fun item passed => by
                rw [passedInputs, if_pos out]
                exact passed
            rw [if_pos out]
            exact ⟨held, kept, left.cons _⟩
          · rw [if_neg out]
            have onward {next : DeliveryContext}
                (read : next.lastInputOffset = some header.time) :=
              @go next fun item passed => by
                rw [read] at passed
                rw [passedInputs, if_neg out]
                split_ifs
                · exact List.mem_cons_of_mem _ passed
                · exact passed
            dsimp only
            split_ifs
            · obtain ⟨held, kept, left⟩ :=
                @onward { context with lastInputOffset := some header.time } rfl
              exact ⟨held, kept, left.cons _⟩
            · obtain ⟨held, kept, left⟩ := @onward { context with
                lastInputOffset := some header.time, invalidEvent := true } rfl
              exact ⟨held, kept, left.cons _⟩
            · have read (accepted : Bool) (offered : DeliveryContext)
                  (outcome : ({ context with lastInputOffset := some header.time
                    } : DeliveryContext).offer call.output (.input index header) =
                      (accepted, offered)) : offered.lastInputOffset = some header.time := by
                unfold DeliveryContext.offer at outcome
                split at outcome
                all_goals
                  obtain ⟨-, rfl⟩ := Prod.mk.inj outcome
                  rfl
              split
              · next accepted outcome =>
                  obtain ⟨held, kept, left⟩ := @onward accepted (read _ _ outcome)
                  exact ⟨held, kept, left.cons _⟩
              · next rejected outcome =>
                  have known := read _ _ outcome
                  obtain ⟨held, kept, left⟩ := @onward (rejected.markRoute call) known
                  exact ⟨held, kept, left.cons _⟩

end Flush

/-! ## The merge -/

/-- The place of a generated event. -/
def VoiceTransition.merged (transition : VoiceTransition) : ℕ ×ₗ ℕ :=
  toLex (transition.sampleOffset, if transition.kind = .noteOn then 2 else 0)

/-- The order of the generated transitions is the order of their places. -/
theorem VoiceTransition.merged_mono {first second : VoiceTransition}
    (ordered : transitionBefore second first = false) : first.merged ≤ second.merged := by
  have behind : first.place ≤ second.place :=
    not_lt.mp fun before => Bool.eq_false_iff.mp ordered (transitionBefore_iff.mpr before)
  rw [place, place, Prod.Lex.toLex_le_toLex, Prod.Lex.toLex_le_toLex] at behind
  rw [merged, merged, Prod.Lex.toLex_le_toLex]
  rcases behind with before | ⟨same, before | ⟨kinds, -⟩⟩
  · exact .inl before
  · refine .inr ⟨same, ?_⟩
    dsimp only at before ⊢
    split_ifs at before ⊢ <;> omega
  · refine .inr ⟨same, ?_⟩
    dsimp only at kinds ⊢
    split_ifs at kinds ⊢ <;> omega

/-- The place of a generated event is the one of its transition: it does not depend on the channel.
-/
theorem generatedMidi_place (transition : VoiceTransition) {channel : ℕ}
    (inside : 1 ≤ channel ∧ channel ≤ 16) :
    (generatedMidi transition channel).place = transition.merged := by
  unfold generatedMidi VoiceTransition.merged
  cases transition.kind with
  | noteOff =>
      have status : (0x80 + (channel - 1)) / 16 = 8 := by omega
      simp [HostEvent.place, HostEvent.time, HostEvent.rank, status]
  | noteOn =>
      have status : (0x90 + (channel - 1)) / 16 = 9 := by omega
      simp [HostEvent.place, HostEvent.time, HostEvent.rank, status]

/-- An input that is due before a transition makes all earlier ones due, too. -/
theorem dueBefore_earlier {transition : VoiceTransition} {earlier time : ℕ}
    (before : earlier ≤ time) (isDue : dueBefore transition time = true) :
    dueBefore transition earlier = true := by
  unfold dueBefore at isDue ⊢
  cases kind : transition.kind <;> simp [kind] at isDue ⊢ <;> omega

/-- Input events that are due come before the generated event. -/
theorem dueBefore_le {transition : VoiceTransition} {time : ℕ}
    (isDue : dueBefore transition time = true) : toLex (time, 1) ≤ transition.merged := by
  unfold dueBefore at isDue
  rw [VoiceTransition.merged, Prod.Lex.toLex_le_toLex]
  cases kind : transition.kind <;> simp [kind] at isDue ⊢ <;> omega

/-- Those that are not come after it. -/
theorem le_of_not_dueBefore {transition : VoiceTransition} {time : ℕ}
    (notDue : dueBefore transition time = false) : transition.merged ≤ toLex (time, 1) := by
  unfold dueBefore at notDue
  rw [VoiceTransition.merged, Prod.Lex.toLex_le_toLex]
  cases kind : transition.kind <;> simp [kind] at notDue ⊢ <;> omega

/-- The controllers of a silenced channel stand before everything else in the block. -/
theorem channelPanic_place {channel : ℕ} (inside : 1 ≤ channel ∧ channel ≤ 16) (controller : ℕ) :
    (channelPanic channel controller).place = toLex (0, 0) := by
  have status : (0xB0 + (channel - 1)) / 16 = 11 := by omega
  simp [channelPanic, HostEvent.place, HostEvent.time, HostEvent.rank, status]

/-- Among the events of one offset, an input stands behind the note-offs and before the note-ons.
-/
theorem inputEvent_place (item : InputHeader × ℕ) :
    (inputEvent item).place = toLex (item.1.time, 1) := rfl

/-- What is accepted of two logs is accepted of each of them. -/
theorem acceptedEvents_append (first second : List HostPush) :
    acceptedEvents (first ++ second) = acceptedEvents first ++ acceptedEvents second := by
  rw [acceptedEvents, List.filter_append, List.map_append]
  rfl

/-- One entry counts if the host has taken it. -/
theorem acceptedEvents_singleton (event : HostEvent) (accepted : Bool) :
    acceptedEvents [⟨event, accepted⟩] = if accepted then [event] else [] := by
  cases accepted <;> rfl

/-- The accepted events are among the offered ones, in the same order. -/
theorem acceptedEvents_sublist (log : List HostPush) :
    (acceptedEvents log).Sublist (offeredEvents log) := List.filter_sublist.map _

namespace HostEvent

/-- The input event behind an event of the output. -/
def item : HostEvent → Option (InputHeader × ℕ)
  | midi _ _ _ _ => none
  | input index header => some (header, index)

end HostEvent

/-- A call under way: its output so far merges with the input events that remain, none of
which is hindered. -/
structure InOrder (call : MidiCall) (context : DeliveryContext) (bound : ℕ ×ₗ ℕ) : Prop where
  merging : Merging HostEvent.place (acceptedEvents context.log)
    ((passedInputs call.framesCount context.lastInputOffset context.remaining).map inputEvent) bound
  inside : ∀ event ∈ acceptedEvents context.log, event.time < call.framesCount
  items : ((acceptedEvents context.log).filterMap HostEvent.item ++
      passedInputs call.framesCount context.lastInputOffset context.remaining).Sublist
    (passedInputs call.framesCount none call.input.zipIdx)
  unhindered : Unhindered call.framesCount context.lastInputOffset context.remaining
  indexed : context.remaining.Pairwise fun first second => first.2 < second.2

namespace InOrder

variable {call : MidiCall} {context next : DeliveryContext} {bound : ℕ ×ₗ ℕ}

/-- What a flush passes on, of what it reads. -/
theorem taken {due : ℕ → Bool} {passing : List (InputHeader × ℕ)}
    (flushed : Flushed call due passing context next) (logged : context.log <+: next.log) :
    ∃ front own : List (InputHeader × ℕ), passing =
        front ++ passedInputs call.framesCount next.lastInputOffset next.remaining ∧
      own.Sublist front ∧ (∀ item ∈ front, due item.1.time = true) ∧
      acceptedEvents next.log = acceptedEvents context.log ++ own.map inputEvent := by
  obtain ⟨front, offered, split, events, some_of, -, isDue⟩ := flushed
  obtain ⟨extra, appended⟩ := logged
  have new : offeredEvents extra = offered.map inputEvent := by
    rw [← appended, offeredEvents, List.map_append] at events
    exact List.append_cancel_left events
  have accepted := acceptedEvents_sublist extra
  rw [new] at accepted
  obtain ⟨own, ownSublist, ownEvents⟩ := List.sublist_map_iff.mp accepted
  refine ⟨front, own, split, ownSublist.trans some_of, isDue, ?_⟩
  rw [← appended, acceptedEvents_append, ownEvents]

/-- The inputs can be read back from the events they were offered as. -/
theorem filterMap_inputEvent (own : List (InputHeader × ℕ)) :
    (own.map inputEvent).filterMap HostEvent.item = own := by
  rw [List.filterMap_map]
  exact List.filterMap_some

/-- A flush up to a later place keeps the order. What it offers lies between the old bound and the
new one. -/
theorem flush (order : InOrder call context bound) {due : ℕ → Bool} {later : ℕ ×ₗ ℕ}
    (behind : bound ≤ later)
    (closed : ∀ earlier time, earlier ≤ time → due time = true → due earlier = true)
    (before : ∀ time, due time = true → toLex (time, 1) ≤ later)
    (after : ∀ time, due time = false → later ≤ toLex (time, 1)) :
    InOrder call (flushInputs call due context.remaining context).2 later := by
  have flushed := @flushInputs_flushed call due context.remaining context
  have progress := @flushInputs_progress call due context.remaining context
  obtain ⟨held, kept, left⟩ :=
    @flushInputs_held call due closed context.remaining context order.indexed order.unhindered
  generalize (flushInputs call due context.remaining context).2 = next at *
  obtain ⟨front, own, split, some_of, isDue, events⟩ := taken flushed progress.logged
  refine ⟨?_, ?_, ?_, kept, order.indexed.sublist left⟩
  · have merging := order.merging
    rw [split, List.map_append] at merging
    rw [events]
    refine merging.take (some_of.map _) behind ?_ ?_
    · intro event member
      obtain ⟨item, inFront, rfl⟩ := List.mem_map.mp member
      exact before _ (isDue item inFront)
    · intro event member
      obtain ⟨item, inBack, rfl⟩ := List.mem_map.mp member
      exact after _ (held item inBack)
  · rw [events]
    refine List.forall_mem_append.mpr ⟨order.inside, ?_⟩
    intro event member
    obtain ⟨item, inOwn, rfl⟩ := List.mem_map.mp member
    have inFront := some_of.subset inOwn
    exact (mem_passedInputs (split ▸ List.mem_append_left _ inFront)).1
  · have items := order.items
    rw [split] at items
    rw [events, List.filterMap_append, filterMap_inputEvent, List.append_assoc]
    refine List.Sublist.trans ?_ items
    exact (List.Sublist.refl _).append (some_of.append (List.Sublist.refl _))

/-- An own event at the bound keeps the order, whether the host takes it or not. -/
theorem offer (order : InOrder call context bound) {event : HostEvent}
    (placed : event.place = bound) (own : event.item = none)
    (inside : event.time < call.framesCount) (output : OutputEvents) :
    InOrder call (context.offer output event).2 bound := by
  unfold DeliveryContext.offer
  split
  · exact order
  · next answer =>
      dsimp only
      have events := acceptedEvents_append context.log [⟨event, answer context.log event⟩]
      rw [acceptedEvents_singleton] at events
      refine ⟨?_, ?_, ?_, order.unhindered, order.indexed⟩
      all_goals
        dsimp only
        rw [events]
        split_ifs
      · exact order.merging.push placed
      · rw [List.append_nil]
        exact order.merging
      · refine List.forall_mem_append.mpr ⟨order.inside, ?_⟩
        intro other member
        rw [List.mem_singleton.mp member]
        exact inside
      · rw [List.append_nil]
        exact order.inside
      · rw [List.filterMap_append, List.filterMap_cons_none own, List.filterMap_nil,
          List.append_nil]
        exact order.items
      · rw [List.append_nil]
        exact order.items

/-- Marking channels changes neither the output nor what remains. -/
theorem markRoute (order : InOrder call context bound) (route : MidiCall) :
    InOrder call (context.markRoute route) bound :=
  ⟨order.merging, order.inside, order.items, order.unhindered, order.indexed⟩

/-- One generated transition keeps the log in order, when it stands behind everything that has been
generated and lies in the block. -/
theorem push (order : InOrder call context bound) {transition : VoiceTransition} {channel : ℕ}
    (behind : bound ≤ transition.merged) (inBlock : transition.sampleOffset < call.framesCount)
    (inside : 1 ≤ channel ∧ channel ≤ 16) :
    InOrder call (pushGenerated call context transition channel).2 transition.merged := by
  have flushed := order.flush behind (fun _ _ => dueBefore_earlier)
    (fun _ isDue => dueBefore_le isDue) (fun _ notDue => le_of_not_dueBefore notDue)
  unfold pushGenerated
  split
  · next refused outcome =>
      rw [outcome] at flushed
      exact flushed
  · next ready outcome =>
      rw [outcome] at flushed
      have own : (generatedMidi transition channel).item = none ∧
          (generatedMidi transition channel).time = transition.sampleOffset := by
        unfold generatedMidi
        cases transition.kind <;> exact ⟨rfl, rfl⟩
      have offered := flushed.offer (generatedMidi_place transition inside) own.1
        (own.2 ▸ inBlock) call.output
      split
      · next accepted answered =>
          rw [answered] at offered
          exact offered
      · next rejected answered =>
          rw [answered] at offered
          exact offered.markRoute call

/-- Replaying pushes that come in the order of their places keeps the order. -/
theorem replay (order : InOrder call context bound) {pushed : List Push}
    (sorted : pushed.Pairwise fun first second =>
      first.transition.merged ≤ second.transition.merged)
    (behind : ∀ push ∈ pushed, bound ≤ push.transition.merged)
    (inBlock : ∀ push ∈ pushed, push.transition.sampleOffset < call.framesCount)
    (inside : ∀ push ∈ pushed, 1 ≤ push.channel ∧ push.channel ≤ 16)
    {last : ℕ ×ₗ ℕ} (start : bound ≤ last)
    (ends : ∀ push ∈ pushed, push.transition.merged ≤ last) :
    ∃ reached ≤ last, InOrder call (replayPushes call context pushed) reached := by
  induction pushed generalizing context bound with
  | nil => exact ⟨bound, start, order⟩
  | cons push pushed ih =>
      obtain ⟨below, rest⟩ := List.pairwise_cons.mp sorted
      have next := order.push (behind push List.mem_cons_self) (inBlock push List.mem_cons_self)
        (inside push List.mem_cons_self)
      exact ih next rest below (fun other member => inBlock other (List.mem_cons_of_mem _ member))
        (fun other member => inside other (List.mem_cons_of_mem _ member))
        (ends push List.mem_cons_self)
        (fun other member => ends other (List.mem_cons_of_mem _ member))

/-- Controllers go out at the start of the block. -/
theorem retryChannels (order : InOrder call context (toLex (0, 0)))
    (block : 0 < call.framesCount) {output : OutputEvents} {channels : List ℕ}
    (inside : ∀ channel ∈ channels, 1 ≤ channel ∧ channel ≤ 16) :
    InOrder call (Serving.retryChannels output channels context).2 (toLex (0, 0)) := by
  induction channels generalizing context with
  | nil => exact order
  | cons channel rest ih =>
      obtain ⟨here, others⟩ := List.forall_mem_cons.mp inside
      have offer {current : DeliveryContext} (reached : InOrder call current (toLex (0, 0)))
          (controller : ℕ) :
          InOrder call (current.offer output (channelPanic channel controller)).2 (toLex (0, 0)) :=
        reached.offer (channelPanic_place here controller) rfl block output
      rw [Serving.retryChannels]
      split_ifs
      · exact ih order others
      · have first := offer order 123
        split
        · next rejected outcome =>
            rw [outcome] at first
            exact first
        · next notesOff outcome =>
            rw [outcome] at first
            have second := offer first 120
            split
            · next rejected both =>
                rw [both] at second
                exact second
            · next soundOff both =>
                rw [both] at second
                have cleared : InOrder call { soundOff with
                    channelPanicMask :=
                      soundOff.channelPanicMask &&& ~~~BitVec.twoPow 16 (channel - 1) }
                    (toLex (0, 0)) :=
                  ⟨second.merging, second.inside, second.items, second.unhindered,
                    second.indexed⟩
                exact ih cleared others

/-- The last flush ends the merge. -/
theorem finish (order : InOrder call context bound) :
    MergedInOrder call
      (flushInputs call (fun _ => true) context.remaining context).2.log := by
  have flushed := @flushInputs_flushed call (fun _ => true) context.remaining context
  have progress := @flushInputs_progress call (fun _ => true) context.remaining context
  generalize (flushInputs call (fun _ => true) context.remaining context).2 = next at *
  obtain ⟨front, own, split, some_of, -, events⟩ := taken flushed progress.logged
  have passed : own.Sublist
      (passedInputs call.framesCount context.lastInputOffset context.remaining) := by
    rw [split]
    exact some_of.trans (List.sublist_append_left _ _)
  have items : ((acceptedEvents next.log).filterMap HostEvent.item).Sublist
      (passedInputs call.framesCount none call.input.zipIdx) := by
    rw [events, List.filterMap_append, filterMap_inputEvent]
    exact ((List.Sublist.refl _).append passed).trans order.items
  refine ⟨?_, ?_, ?_, ?_⟩
  · rw [events]
    exact order.merging.finish (passed.map _)
  · rw [events]
    refine List.forall_mem_append.mpr ⟨order.inside, ?_⟩
    intro event member
    obtain ⟨item, inOwn, rfl⟩ := List.mem_map.mp member
    exact (mem_passedInputs (passed.subset inOwn)).1
  · have indexes : (acceptedEvents next.log).filterMap HostEvent.inputIndex =
        ((acceptedEvents next.log).filterMap HostEvent.item).map Prod.snd := by
      rw [List.map_filterMap]
      refine List.filterMap_congr fun event _ => ?_
      cases event <;> rfl
    have increasing := List.pairwise_lt_range' (s := 0) (n := call.input.length)
    have whole := (items.map fun item => (some item.1, item.2)).trans
      (passedInputs_sublist none call.input.zipIdx)
    have sub := whole.map Prod.snd
    rw [List.map_map, List.zipIdx_map_snd] at sub
    rw [indexes]
    exact increasing.sublist sub
  · intro index header member
    have inItems : (header, index) ∈ (acceptedEvents next.log).filterMap HostEvent.item :=
      List.mem_filterMap.mpr ⟨_, member, rfl⟩
    exact List.mem_zipIdx_iff_getElem?.mp (mem_passedInputs (items.subset inItems)).2.2

end InOrder

namespace MidiPipeline

open Serving

variable {pipeline : MidiPipeline} {call : MidiCall}

/-- A delivery leaves the queue as it was, so that the next block has to drop it. -/
theorem process_queue (pipeline : MidiPipeline) (call : MidiCall) :
    (pipeline.process call).pipeline.ledger.queue = pipeline.ledger.queue := by
  cases refused : refuses call with
  | true =>
      unfold process
      rw [if_pos refused]
  | false =>
      obtain ⟨blocked, same⟩ := @process_ledger pipeline call refused
      have delivered : (pipeline.deliver call).ledger.queue = pipeline.ledger.queue :=
        Delivery.deliver_queue pipeline.ledger (pipeline.request call)
      rw [same]
      cases blocked with
      | true => exact delivered
      | false => exact delivered

/-- The queue of a reachable pipeline is in order, since every operation leaves it so. -/
theorem Reachable.ordered (reached : Reachable pipeline) : pipeline.ledger.Ordered := by
  induction reached with
  | initial => exact List.Pairwise.nil
  | @operate pipeline reached operation ih =>
      cases operation with
      | activate maxFrames granted =>
          have empty : (allocateStorage {} maxFrames granted).2.queue = [] := by
            unfold allocateStorage
            dsimp only
            split_ifs <;> rfl
          have ordered : (allocateStorage {} maxFrames granted).2.Ordered := by
            rw [Ordered, empty]
            exact List.Pairwise.nil
          exact ordered
      | deactivate | beginBlock => exact List.Pairwise.nil
      | queueTransition transition framesCount =>
          exact queueTransition_ordered ih transition framesCount
      | requestPanic offset framesCount =>
          have queued := queueReleasesOf_ordered offset framesCount (List.finRange maxVoices) 0
            (true, pipeline.ledger.requestRecovery) ih
          rw [MidiPipeline.operate, requestPanic]
          dsimp only
          split_ifs
          · exact queued
          · exact queued
      | requestReset => exact ih
      | process call =>
          rw [MidiPipeline.operate, Ordered, process_queue]
          exact ih

/-- What the merge sees of a delivery is the pipeline's part of its pushes. -/
theorem deliver_context (pipeline : MidiPipeline) (call : MidiCall) :
    let replayed := replayPushes call (pipeline.context call)
      (Delivery.deliver { ledger := pipeline.ledger } (pipeline.request call)).2.pushed
    (pipeline.deliver call).context.remaining = replayed.remaining ∧
      (pipeline.deliver call).context.lastInputOffset = replayed.lastInputOffset ∧
      (pipeline.deliver call).context.log = replayed.log := by
  unfold deliver
  dsimp only
  split_ifs <;> exact ⟨rfl, rfl, rfl⟩

/-- Where no input event is hindered, a delivery keeps the order; with a blocked output it
stays at the start of the block. -/
theorem deliver_inOrder (reached : Reachable pipeline) (block : 0 < call.framesCount)
    (unhindered : Unhindered call.framesCount none call.input.zipIdx) :
    ∃ bound, InOrder call (pipeline.deliver call).context bound ∧
      (pipeline.ledger.outputBlocked = true → bound = toLex (0, 0)) := by
  have zero (place : ℕ ×ₗ ℕ) : toLex (0, 0) ≤ place := by
    rw [← toLex_ofLex place, Prod.Lex.toLex_le_toLex]
    omega
  have start : InOrder call (pipeline.context call) (toLex (0, 0)) := by
    refine ⟨Merging.start ?_ fun event _ => zero _, List.forall_mem_nil _, List.Sublist.refl _,
      unhindered, ?_⟩
    · refine List.Pairwise.map _ ?_ (passedInputs_sorted none call.input.zipIdx)
      intro first second before
      rw [inputEvent_place, inputEvent_place, Prod.Lex.toLex_le_toLex]
      omega
    · exact zipIdx_indexed call.input
  have recorded := @Delivery.deliver_recorded (pipeline.request call) _ pipeline.ledger rfl
  obtain ⟨retried, queued, pushed, releases, inQueue, inBlock, stopped⟩ :=
    Delivery.deliver_pushes pipeline.ledger (pipeline.request call)
  have ordered : queued.Pairwise fun first second =>
      first.transition.merged ≤ second.transition.merged := by
    have places := (reached.ordered.sublist inQueue).imp VoiceTransition.merged_mono
    rw [List.pairwise_map] at places
    exact places
  have early : ∀ push ∈ retried, push.transition.merged = toLex (0, 0) := by
    intro push member
    obtain ⟨offset, kind⟩ := releases push member
    rw [VoiceTransition.merged, offset, kind]
    rfl
  have sorted : (retried ++ queued).Pairwise fun first second =>
      first.transition.merged ≤ second.transition.merged := by
    refine List.pairwise_append.mpr ⟨List.pairwise_iff_forall_sublist.mpr ?_, ordered, ?_⟩
    · intro first second pair
      rw [early first (pair.subset List.mem_cons_self)]
      exact zero _
    · intro first member second _
      rw [early first member]
      exact zero _
  have within : ∀ push ∈ retried ++ queued, push.transition.sampleOffset < call.framesCount := by
    refine List.forall_mem_append.mpr ⟨fun push member => ?_, inBlock⟩
    rw [(releases push member).1]
    exact block
  have inside := recorded.inside
  rw [pushed] at inside
  have merged : ∃ bound, InOrder call
      (replayPushes call (pipeline.context call) (retried ++ queued)) bound ∧
        (pipeline.ledger.outputBlocked = true → bound = toLex (0, 0)) := by
    cases blocked : pipeline.ledger.outputBlocked with
    | true =>
        rw [stopped blocked, List.append_nil] at sorted within inside ⊢
        obtain ⟨bound, ends, order⟩ := start.replay sorted (fun push _ => zero _) within inside
          le_rfl fun push member => (early push member).le
        exact ⟨bound, order, fun _ => le_antisymm ends (zero bound)⟩
    | false =>
        have ends : ∀ push ∈ retried ++ queued,
            push.transition.merged ≤ toLex (call.framesCount, 0) := by
          intro push member
          rw [VoiceTransition.merged, Prod.Lex.toLex_le_toLex]
          exact .inl (within push member)
        obtain ⟨bound, -, order⟩ :=
          start.replay sorted (fun push _ => zero _) within inside (zero _) ends
        exact ⟨bound, order, fun stuck => absurd stuck Bool.false_ne_true⟩
  rw [← pushed] at merged
  obtain ⟨bound, order, held⟩ := merged
  obtain ⟨remaining, last, log⟩ := deliver_context pipeline call
  refine ⟨bound, ⟨?_, ?_, ?_, ?_, ?_⟩, held⟩
  · rw [remaining, last, log]
    exact order.merging
  · rw [log]
    exact order.inside
  · rw [remaining, last, log]
    exact order.items
  · rw [remaining, last]
    exact order.unhindered
  · rw [remaining]
    exact order.indexed

/-- Where no input event is hindered, the output of a call is in order. Releases and controllers
come first, then the merge, and then the inputs that are left. -/
theorem process_mergedInOrder (reached : Reachable pipeline) (served : refuses call = false)
    (unhindered : Unhindered call.framesCount none call.input.zipIdx) :
    MergedInOrder call (pipeline.process call).log := by
  have block : 0 < call.framesCount := by
    by_contra empty
    have none_ : call.framesCount = 0 := by omega
    simp [refuses, none_] at served
  obtain ⟨bound, delivered, start⟩ := deliver_inOrder reached block unhindered
  have silenced : ∃ bound, InOrder call (pipeline.silence call).context bound := by
    unfold silence
    dsimp only
    split_ifs with marked
    · obtain rfl := start (reached.guarded.masked marked)
      refine ⟨toLex (0, 0), ?_⟩
      have channels : ∀ channel ∈ List.range' 1 16, 1 ≤ channel ∧ channel ≤ 16 := by
        intro channel member
        have inside := List.mem_range'_1.mp member
        omega
      have retried := @InOrder.retryChannels call _ delivered block call.output _ channels
      unfold retryChannelPanics
      split_ifs
      · exact delivered
      · split
        · next context outcome =>
            rw [outcome] at retried
            exact retried
        · next context outcome =>
            rw [outcome] at retried
            exact retried
    · exact ⟨bound, delivered⟩
  obtain ⟨last, order⟩ := silenced
  have finished := order.finish
  unfold process
  rw [if_neg (by rw [served]; exact Bool.false_ne_true)]
  change MergedInOrder call ((pipeline.silence call).flushRest call).context.log
  unfold flushRest
  split
  · next context outcome =>
      rw [outcome] at finished
      exact finished
  · next context outcome =>
      rw [outcome] at finished
      exact finished

end MidiPipeline

/-! ## A hindered input event -/

/-- An output that accepts everything. -/
def accepting : OutputEvents := some fun _ _ => true

section Hindered

variable {call : MidiCall} {due : ℕ → Bool}

/-- A host that accepts everything accepts all that a flush offers. -/
theorem flushInputs_accepting (accepts : call.output = accepting)
    (rest : List (Option InputHeader × ℕ)) (context : DeliveryContext) :
    (flushInputs call due rest context).1 = true ∧
      ((∀ push ∈ context.log, push.accepted = true) →
        ∀ push ∈ (flushInputs call due rest context).2.log, push.accepted = true) := by
  induction rest generalizing context with
  | nil => exact ⟨rfl, id⟩
  | cons head rest ih =>
      obtain ⟨_ | header, index⟩ := head
      · exact ih { context with invalidEvent := true }
      · rw [flushInputs]
        by_cases held : due header.time = false
        · rw [if_pos held]
          exact ⟨rfl, id⟩
        rw [if_neg held]
        by_cases out : untimely call.framesCount context.lastInputOffset header = true
        · rw [if_pos out]
          exact ih { context with invalidEvent := true }
        rw [if_neg out, accepts]
        dsimp only
        split_ifs
        · exact ih { context with lastInputOffset := some header.time }
        · exact ih { context with lastInputOffset := some header.time, invalidEvent := true }
        · obtain ⟨whole, kept⟩ := ih { context with
            lastInputOffset := some header.time
            log := context.log ++ [⟨.input index header, true⟩] }
          refine ⟨whole, fun before => kept ?_⟩
          refine List.forall_mem_append.mpr ⟨before, ?_⟩
          intro push member
          rw [List.mem_singleton.mp member]

/-- The last flush leaves nothing. -/
theorem flushInputs_all (rest : List (Option InputHeader × ℕ)) (context : DeliveryContext) :
    (flushInputs call (fun _ => true) rest context).2.remaining = [] := by
  induction rest generalizing context with
  | nil => rfl
  | cons head rest ih =>
      obtain ⟨_ | header, index⟩ := head
      · exact ih { context with invalidEvent := true }
      · rw [flushInputs, if_neg (by simp)]
        dsimp only
        split_ifs
        · exact ih { context with invalidEvent := true }
        · exact ih { context with lastInputOffset := some header.time }
        · exact ih { context with lastInputOffset := some header.time, invalidEvent := true }
        · split
          · exact ih _
          · exact ih _

/-- An event that is not due keeps back what stands behind it. This is how an event beyond the
block holds up the others. -/
theorem flushInputs_stops {header : InputHeader} {late : ℕ} (held : due header.time = false)
    {rest : List (Option InputHeader × ℕ)} (context : DeliveryContext)
    (indexed : rest.Pairwise fun first second => first.2 < second.2)
    (member : (some header, late) ∈ rest) {item : InputHeader × ℕ} (behind : late ≤ item.2)
    (passed : item ∈ passedInputs call.framesCount context.lastInputOffset rest) :
    item ∈ passedInputs call.framesCount (flushInputs call due rest context).2.lastInputOffset
      (flushInputs call due rest context).2.remaining := by
  induction rest generalizing context with
  | nil => exact absurd member List.not_mem_nil
  | cons head rest ih =>
      obtain ⟨below, others⟩ := List.pairwise_cons.mp indexed
      obtain ⟨_ | first, index⟩ := head
      · rcases List.mem_cons.mp member with same | later
        · exact absurd (congrArg Prod.fst same) (by simp)
        · exact ih { context with invalidEvent := true } others later passed
      · rw [flushInputs]
        by_cases stop : due first.time = false
        · rw [if_pos stop]
          exact passed
        have later : (some header, late) ∈ rest := by
          rcases List.mem_cons.mp member with same | later
          · obtain rfl := Option.some.inj (congrArg Prod.fst same)
            exact absurd held stop
          · exact later
        have apart : item ≠ (first, index) := by
          rintro rfl
          exact absurd (below _ later) (by simpa using behind)
        rw [if_neg stop]
        rw [passedInputs] at passed
        by_cases out : untimely call.framesCount context.lastInputOffset first = true
        · rw [if_pos out] at passed ⊢
          exact ih { context with invalidEvent := true } others later passed
        rw [if_neg out] at passed ⊢
        have inRest : item ∈ passedInputs call.framesCount (some first.time) rest := by
          split_ifs at passed
          · rcases List.mem_cons.mp passed with same | further
            · exact absurd same apart
            · exact further
          · exact passed
        dsimp only
        split_ifs
        · exact ih { context with lastInputOffset := some first.time } others later inRest
        · exact ih { context with lastInputOffset := some first.time, invalidEvent := true }
            others later inRest
        · have read (next : DeliveryContext) (reading : next.lastInputOffset = some first.time) :
              item ∈ passedInputs call.framesCount
                (flushInputs call due rest next).2.lastInputOffset
                (flushInputs call due rest next).2.remaining :=
            ih next others later (reading ▸ inRest)
          unfold DeliveryContext.offer
          cases call.output with
          | none => exact read _ rfl
          | some answer =>
              dsimp only
              split
              · next outcome =>
                  obtain ⟨-, rfl⟩ := Prod.mk.inj outcome
                  exact read _ rfl
              · next outcome =>
                  obtain ⟨-, rfl⟩ := Prod.mk.inj outcome
                  exact read _ rfl

end Hindered

/-- A call with a host that accepts everything. -/
def acceptingCall (framesCount : ℕ) (input : List (Option InputHeader)) : MidiCall where
  framesCount := framesCount
  input := input
  output := accepting

/-- A note-on at a chosen offset, without a lane. -/
def noteAt (time : ℕ) : VoiceTransition where
  sampleOffset := time
  kind := .noteOn
  note := 60
  velocity := 1
  sequence := 0

/-- A pipeline with one note in the queue. -/
def withNoteAt (framesCount time : ℕ) : MidiPipeline :=
  MidiPipeline.operateAll {}
    [.activate framesCount true, .queueTransition (noteAt time) framesCount]

/-- The pipeline with one note queued can be reached. -/
theorem withNoteAt_reachable (framesCount time : ℕ) :
    MidiPipeline.Reachable (withNoteAt framesCount time) :=
  MidiPipeline.Reachable.initial.operateAll _

/-- Its ledger has that note in the queue, and nothing else. -/
theorem withNoteAt_ledger {framesCount time : ℕ} (inBlock : time < framesCount)
    (block : framesCount ≤ maxHostFrames) :
    (withNoteAt framesCount time).ledger = {
      allocated := true
      capacity :=
        (framesCount + decisionQuantum - 1) / decisionQuantum * maxTickTransitions + maxVoices
      queue := [noteAt time]
      maxFrames := framesCount } := by
  have storage : allocateStorage {} framesCount true = (true, {
      allocated := true
      capacity :=
        (framesCount + decisionQuantum - 1) / decisionQuantum * maxTickTransitions + maxVoices
      maxFrames := framesCount }) := by
    unfold allocateStorage
    dsimp only
    rw [if_neg (by omega), if_neg, if_pos rfl]
    unfold maxHostFrames at block
    unfold decisionQuantum maxTickTransitions maxVoices
    omega
  change ((allocateStorage {} framesCount true).2.queueTransition (noteAt time) framesCount).2 = _
  rw [storage]
  unfold queueTransition
  rw [if_neg]
  · rfl
  · simp only [not_or]
    refine ⟨by simp, ?_, by omega, by simp, ?_, by simp [validTransition, noteAt]⟩
    · simp [maxVoices]
    · simpa [noteAt] using inBlock

/-- A host that accepts everything accepts a generated event. -/
theorem pushGenerated_accepting {call : MidiCall} (accepts : call.output = accepting)
    (context : DeliveryContext) (transition : VoiceTransition) (channel : ℕ) :
    pushGenerated call context transition channel =
      (true, { (flushInputs call (dueBefore transition) context.remaining context).2 with
        log := (flushInputs call (dueBefore transition) context.remaining context).2.log ++
          [⟨generatedMidi transition channel, true⟩] }) := by
  have whole := (@flushInputs_accepting call (dueBefore transition) accepts context.remaining
    context).1
  unfold pushGenerated
  generalize flushInputs call (dueBefore transition) context.remaining context = outcome at whole ⊢
  obtain ⟨accepted, flushed⟩ := outcome
  obtain rfl : accepted = true := whole
  dsimp only
  rw [accepts]
  rfl

/-- A host list that takes everything makes a sink that takes every event. -/
theorem pipelineSink_accepts {call : MidiCall} (accepts : call.output = accepting)
    (context : DeliveryContext) (event : VoiceTransition) :
    Delivery.Accepts (fun pushed transition channel =>
      (pushGenerated call (replayPushes call context pushed) transition channel).1) event := by
  intro pushed channel _
  exact congrArg Prod.fst (pushGenerated_accepting accepts _ event channel)

/-- The note is pushed on the first channel. -/
theorem withNoteAt_pushes {framesCount time : ℕ} (inBlock : time < framesCount)
    (block : framesCount ≤ maxHostFrames) (input : List (Option InputHeader)) :
    (Delivery.deliver { ledger := (withNoteAt framesCount time).ledger }
      ((withNoteAt framesCount time).request (acceptingCall framesCount input))).2.pushed =
        [⟨noteAt time, 1, true⟩] := by
  have known := withNoteAt_ledger inBlock block
  generalize (withNoteAt framesCount time).ledger = ledger at known
  subst known
  have receptive : Receptive framesCount (Delivery.completeCleanup {
      allocated := true
      capacity :=
        (framesCount + decisionQuantum - 1) / decisionQuantum * maxTickTransitions + maxVoices
      queue := [noteAt time]
      maxFrames := framesCount }) := ⟨rfl, Nat.le_add_right _ _, rfl, rfl, rfl, fun _ => rfl⟩
  have accepts := @pipelineSink_accepts (acceptingCall framesCount input) rfl
    ((withNoteAt framesCount time).context (acceptingCall framesCount input)) (noteAt time)
  have sized : 1 ≤ framesCount ∧ framesCount ≤ framesCount := ⟨by omega, le_rfl⟩
  obtain ⟨invalid, pushed, -⟩ := @Delivery.deliverQueued_take ⟨_, []⟩
    ((withNoteAt framesCount time).request (acceptingCall framesCount input)) _ framesCount
    receptive rfl sized (List.forall_mem_singleton.mpr accepts)
    (List.forall_mem_singleton.mpr inBlock) (List.forall_mem_singleton.mpr (by simp [noteAt]))
  exact pushed

/-- In a log in which everything has been taken, the accepted events are the offered ones. -/
theorem acceptedEvents_eq {log : List HostPush} (all : ∀ push ∈ log, push.accepted = true) :
    acceptedEvents log = offeredEvents log := by
  rw [acceptedEvents, List.filter_eq_self.mpr all]
  rfl

/-- With nothing to silence a call that is not refused ends with the last flush. -/
theorem process_unmasked {pipeline : MidiPipeline} {call : MidiCall}
    (served : MidiPipeline.refuses call = false) (clear : pipeline.channelPanicMask = 0) :
    (pipeline.process call).log = (flushInputs call (fun _ => true)
      (pipeline.deliver call).context.remaining (pipeline.deliver call).context).2.log := by
  unfold MidiPipeline.process
  rw [if_neg (by rw [served]; exact Bool.false_ne_true)]
  change ((pipeline.silence call).flushRest call).context.log = _
  rw [MidiPipeline.silence, if_neg (not_not.mpr clear), Serving.flushRest]
  split
  · next outcome => rw [outcome]
  · next outcome => rw [outcome]

/-- Behind an input event beyond the block an input event of the block is passed on after
a note-on at its time. -/
theorem hindered_out_of_order {framesCount : ℕ} {input : List (Option InputHeader)}
    (block : framesCount ≤ maxHostFrames) {header : InputHeader} {late : ℕ}
    (member : (some header, late) ∈ input.zipIdx) (beyond : framesCount ≤ header.time)
    {item : InputHeader × ℕ} (passed : item ∈ passedInputs framesCount none input.zipIdx)
    (behind : late ≤ item.2) :
    ¬ MergedInOrder (acceptingCall framesCount input)
      ((withNoteAt framesCount item.1.time).process (acceptingCall framesCount input)).log := by
  intro merged
  have inBlock := (mem_passedInputs passed).1
  have held : dueBefore (noteAt item.1.time) header.time = false := by
    have first : ¬ header.time < item.1.time := by omega
    have second : ¬ header.time = item.1.time := by omega
    simp [dueBefore, noteAt, first, second]
  generalize known : acceptingCall framesCount input = call at *
  have accepts : call.output = accepting := by rw [← known]; rfl
  have frames : call.framesCount = framesCount := by rw [← known]; rfl
  have inputs : call.input = input := by rw [← known]; rfl
  -- The note goes out while the late event keeps the input event back.
  have pushed := withNoteAt_pushes inBlock block input
  rw [known] at pushed
  obtain ⟨remaining, last, log⟩ := (withNoteAt framesCount item.1.time).deliver_context call
  rw [pushed] at remaining last log
  generalize startIs : (withNoteAt framesCount item.1.time).context call = start at *
  have startRemaining : start.remaining = input.zipIdx := by rw [← startIs, ← inputs]; rfl
  have startLast : start.lastInputOffset = none := by rw [← startIs]; rfl
  have startLog : start.log = [] := by rw [← startIs]; rfl
  have indexed : start.remaining.Pairwise fun first second => first.2 < second.2 := by
    rw [startRemaining]
    exact zipIdx_indexed input
  rw [← startRemaining, ← startLast, ← frames] at passed
  rw [← startRemaining] at member
  have kept := flushInputs_stops held start indexed member behind passed
  have accepted := (@flushInputs_accepting call (dueBefore (noteAt item.1.time)) accepts
    start.remaining start).2 (by rw [startLog]; exact List.forall_mem_nil _)
  have once : replayPushes call start [⟨noteAt item.1.time, 1, true⟩] =
      (pushGenerated call start (noteAt item.1.time) 1).2 := rfl
  rw [once, pushGenerated_accepting accepts] at remaining last log
  generalize (flushInputs call (dueBefore (noteAt item.1.time)) start.remaining start).2 = flushed
    at *
  dsimp only at remaining last log
  -- The last flush passes it on.
  have served : MidiPipeline.refuses call = false := by
    rw [← known]
    simp only [MidiPipeline.refuses, acceptingCall, Bool.or_eq_false_iff]
    refine ⟨⟨⟨decide_eq_false ?_, decide_eq_false ?_⟩, rfl⟩, rfl⟩
    · omega
    · omega
  have ends := @process_unmasked (withNoteAt framesCount item.1.time) call served rfl
  generalize ((withNoteAt framesCount item.1.time).deliver call).context = delivered at *
  have all := (@flushInputs_accepting call (fun _ => true) accepts delivered.remaining
    delivered).2 (by
      rw [log]
      refine List.forall_mem_append.mpr ⟨accepted, ?_⟩
      exact List.forall_mem_singleton.mpr rfl)
  obtain ⟨front, offered, split, events, -, whole, -⟩ :=
    @flushInputs_flushed call (fun _ => true) delivered.remaining delivered
  rw [flushInputs_all] at split
  have inFront : item ∈ front := by
    rw [← remaining, ← last, split, passedInputs, List.append_nil] at kept
    exact kept
  obtain rfl := whole (by rw [accepts]; rfl)
  have ordered := merged.ordered
  rw [ends, acceptedEvents_eq all, events, log, offeredEvents, List.map_append] at ordered
  have after := (List.pairwise_append.mp ordered).2.2 (generatedMidi (noteAt item.1.time) 1)
    (List.mem_append_right _ List.mem_cons_self) (inputEvent item)
    (List.mem_map_of_mem inFront)
  rw [generatedMidi_place _ ⟨le_rfl, by omega⟩, inputEvent_place, VoiceTransition.merged,
    Prod.Lex.toLex_le_toLex] at after
  simp [noteAt] at after

/-- For a block and its input events, the output of every call is in order, whatever has been
queued and whatever the host accepts, exactly when no input event beyond the block stands
before one that is passed on. -/
theorem merged_in_order_iff (framesCount : ℕ) (input : List (Option InputHeader)) :
    (∀ pipeline, MidiPipeline.Reachable pipeline → ∀ call : MidiCall,
        call.framesCount = framesCount → call.input = input →
        MergedInOrder call (pipeline.process call).log) ↔
      (framesCount ≤ maxHostFrames → Unhindered framesCount none input.zipIdx) := by
  constructor
  · intro merged block header late member beyond item passed
    by_contra behind
    exact hindered_out_of_order block member beyond passed (Nat.not_lt.mp behind)
      (merged _ (withNoteAt_reachable framesCount item.1.time) _ rfl rfl)
  · rintro unhindered pipeline reached call rfl rfl
    cases refused : MidiPipeline.refuses call with
    | true =>
        rw [MidiPipeline.process, if_pos refused]
        exact ⟨List.Pairwise.nil, List.forall_mem_nil _, List.Pairwise.nil,
          fun index header member => absurd member List.not_mem_nil⟩
    | false =>
        refine MidiPipeline.process_mergedInOrder reached refused (unhindered ?_)
        by_contra large
        have refuses : MidiPipeline.refuses call = true := by
          simp only [MidiPipeline.refuses, Bool.or_eq_true, decide_eq_true_eq]
          omega
        exact absurd (refuses.symm.trans refused) (by simp)

/-- An input event beyond the block keeps back one of the block, which then follows a note
that it should precede. -/
theorem late_input_reorders :
    MidiPipeline.Reachable (withNoteAt 32 10) ∧
      acceptedEvents ((withNoteAt 32 10).process
          (acceptingCall 32 [some { time := 1000 }, some { time := 5 }])).log =
        [.midi 10 0x90 60 1, .input 1 { time := 5 }] ∧
      ¬ MergedInOrder (acceptingCall 32 [some { time := 1000 }, some { time := 5 }])
        ((withNoteAt 32 10).process
          (acceptingCall 32 [some { time := 1000 }, some { time := 5 }])).log := by
  have output : acceptedEvents ((withNoteAt 32 10).process
      (acceptingCall 32 [some { time := 1000 }, some { time := 5 }])).log =
        [.midi 10 0x90 60 1, .input 1 { time := 5 }] := by decide +kernel
  refine ⟨withNoteAt_reachable 32 10, output, fun merged => ?_⟩
  have ordered := merged.ordered
  rw [output, KeySorted, List.pairwise_pair] at ordered
  exact absurd ordered (by decide)

end M3Midi
