import M3Midi.Clap.MidiPipeline
import M3Midi.Ledger.DeliveryOutcome

/-! # Blocked outputs and channels to be silenced

A channel enters the mask with a failure of the output and leaves it with two accepted
controllers, one after the other, when no release is pending. Between calls a channel in
the mask means that the output is blocked, and so does a pending release outside a hold.
A run within one activation that ends with an open output has therefore silenced each
channel that was in the mask (`M3Midi.MidiPipeline.channel_panic_exact`).
-/

namespace M3Midi

open Foundation GeneratedNoteLedger

/-- A part of a call keeps the events it has offered and the channels of the mask; without
a refused push the mask stays as it is. -/
structure Advances (accepted : Bool) (before after : DeliveryContext) : Prop where
  logged : before.log <+: after.log
  grows : ∀ bit, before.channelPanicMask.getLsbD bit = true →
    after.channelPanicMask.getLsbD bit = true
  kept : accepted = true → after.channelPanicMask = before.channelPanicMask

section Progressing

variable {call : MidiCall} {due : ℕ → Bool} {accepted : Bool}
variable {before middle after : DeliveryContext}

namespace Advances

/-- With the same channels left to silence, a longer log is an advance. -/
theorem of_mask (logged : before.log <+: after.log)
    (same : after.channelPanicMask = before.channelPanicMask) : Advances accepted before after where
  logged := logged
  grows := by
    intro bit set
    rw [same]
    exact set
  kept := fun _ => same

theorem refl (context : DeliveryContext) : Advances accepted context context :=
  of_mask (List.prefix_refl _) rfl

theorem trans (first : Advances accepted before middle) (second : Advances accepted middle after) :
    Advances accepted before after where
  logged := first.logged.trans second.logged
  grows := fun bit set => second.grows bit (first.grows bit set)
  kept := fun all => (second.kept all).trans (first.kept all)

/-- Where a push was refused nothing is said about the mask but that it grows. -/
theorem refused (progress : Advances accepted before after) : Advances false before after where
  logged := progress.logged
  grows := progress.grows
  kept := fun all => absurd all Bool.false_ne_true

/-- A route that is marked writes nothing to the log. -/
theorem markRoute (context : DeliveryContext) (call : MidiCall) :
    Advances false context (context.markRoute call) where
  logged := List.prefix_refl _
  grows := by
    intro bit set
    rw [DeliveryContext.markRoute, BitVec.getLsbD_or, set, Bool.true_or]
  kept := fun all => absurd all Bool.false_ne_true

/-- An event that is offered is logged with the host's answer, whatever it is. -/
theorem offer (context : DeliveryContext) (output : OutputEvents) (event : HostEvent) :
    Advances accepted context (context.offer output event).2 := by
  unfold DeliveryContext.offer
  split
  · exact refl context
  · exact of_mask (List.prefix_append _ _) rfl

end Advances

/-- The flushed inputs advance the delivery, and all have been taken when the flush has succeeded.
-/
theorem flushInputs_progress (rest : List (Option InputHeader × ℕ)) (context : DeliveryContext) :
    Advances (flushInputs call due rest context).1 context
      (flushInputs call due rest context).2 := by
  induction rest generalizing context with
  | nil => exact Advances.of_mask (List.prefix_refl _) rfl
  | cons head rest ih =>
      -- What is read before the rest is in the log, and leaves the mask.
      have onward {next : DeliveryContext} (logged : context.log <+: next.log)
          (same : next.channelPanicMask = context.channelPanicMask) :
          Advances (flushInputs call due rest next).1 context (flushInputs call due rest next).2 :=
        (Advances.of_mask logged same).trans (ih next)
      obtain ⟨_ | header, index⟩ := head
      · exact onward (List.prefix_refl _) rfl
      · rw [flushInputs]
        by_cases held : due header.time = false
        · rw [if_pos held]
          exact Advances.of_mask (List.prefix_refl _) rfl
        rw [if_neg held]
        by_cases out : untimely call.framesCount context.lastInputOffset header = true
        · rw [if_pos out]
          exact onward (List.prefix_refl _) rfl
        rw [if_neg out]
        dsimp only
        split_ifs
        · exact onward (List.prefix_refl _) rfl
        · exact onward (List.prefix_refl _) rfl
        · have offered {flag : Bool} := @Advances.offer flag
            { context with lastInputOffset := some header.time } call.output (.input index header)
          split
          · next next outcome =>
              rw [outcome] at offered
              exact onward (@offered true).logged ((@offered true).kept rfl)
          · next rejected outcome =>
              rw [outcome] at offered
              have reading : Advances false context rejected :=
                Advances.of_mask (@offered true).logged ((@offered true).kept rfl)
              exact reading.trans ((Advances.markRoute rejected call).trans (ih _).refused)

/-- A generated transition advances the delivery, and has been taken when the push has succeeded.
-/
theorem pushGenerated_progress (context : DeliveryContext) (transition : VoiceTransition)
    (channel : ℕ) :
    Advances (pushGenerated call context transition channel).1 context
      (pushGenerated call context transition channel).2 := by
  have flushed := @flushInputs_progress call (dueBefore transition) context.remaining context
  unfold pushGenerated
  split
  · next refused outcome =>
      rw [outcome] at flushed
      exact flushed
  · next ready outcome =>
      rw [outcome] at flushed
      have offered {flag : Bool} :=
        @Advances.offer flag ready call.output (generatedMidi transition channel)
      split
      · next accepted answered =>
          rw [answered] at offered
          exact flushed.trans offered
      · next rejected answered =>
          rw [answered] at offered
          exact (flushed.refused.trans offered).trans (Advances.markRoute rejected call)

/-- One more push goes on from where the pushes before have led. -/
theorem replayPushes_append (context : DeliveryContext) (earlier : List Push) (push : Push) :
    replayPushes call context (earlier ++ [push]) =
      (pushGenerated call (replayPushes call context earlier) push.transition push.channel).2 := by
  rw [replayPushes, List.foldl_append]
  rfl

/-- The pipeline's part of recorded pushes marks channels only for a refused one. -/
theorem replayPushes_advances (context : DeliveryContext) {pushed : List Push}
    (recorded : Delivery.Recorded
      (fun earlier transition channel =>
        (pushGenerated call (replayPushes call context earlier) transition channel).1) pushed) :
    Advances (pushed.all (·.accepted)) context (replayPushes call context pushed) := by
  induction recorded with
  | nil => exact Advances.refl context
  | @push earlier recorded transition channel inside ih =>
      have pushing :=
        @pushGenerated_progress call (replayPushes call context earlier) transition channel
      rw [replayPushes_append]
      refine ⟨ih.logged.trans pushing.logged, fun bit set => pushing.grows bit (ih.grows bit set),
        fun all => ?_⟩
      rw [List.all_append, Bool.and_eq_true] at all
      have last :
          (pushGenerated call (replayPushes call context earlier) transition channel).1 = true := by
        simpa using all.2
      exact (pushing.kept last).trans (ih.kept all.1)

end Progressing

/-! ## The parts of a call -/

namespace Delivery

/-- The result of a delivery shows whether its ledger is blocked. -/
theorem deliver_result (ledger : GeneratedNoteLedger) (request : DeliveryRequest) :
    (Delivery.deliver { ledger } request).1.outputBlocked =
      (Delivery.deliver { ledger } request).2.ledger.outputBlocked := by
  unfold Delivery.deliver deliverQueued
  split_ifs <;> rfl

end Delivery

namespace MidiPipeline

/-- What holds between calls: the ledger keeps its gates, a channel to be silenced blocks
the output, and a release waits only behind a blocked output or a hold. -/
structure Guarded (pipeline : MidiPipeline) : Prop where
  gated : Gated pipeline.ledger
  masked : pipeline.channelPanicMask ≠ 0 → pipeline.ledger.outputBlocked = true
  waiting : pipeline.ledger.releasePending = true →
    pipeline.ledger.outputBlocked = true ∨ pipeline.ledger.panicHold = true

variable {pipeline : MidiPipeline} {call : MidiCall}

/-- The ledger of a call that is delivered is that of the delivery on its own. -/
theorem deliver_ledger (pipeline : MidiPipeline) (call : MidiCall) :
    (pipeline.deliver call).ledger =
      (Delivery.deliver { ledger := pipeline.ledger } (pipeline.request call)).2.ledger := rfl

/-- A delivery leaves a gated ledger. -/
theorem deliver_gated (gated : Gated pipeline.ledger) (call : MidiCall) :
    Gated (pipeline.deliver call).ledger :=
  operate_gated gated (.deliver (pipeline.request call))

/-- A delivery either blocks the output, or leaves nothing pending and the mask as it was. -/
theorem deliver_outcome (gated : Gated pipeline.ledger) (call : MidiCall) :
    (pipeline.deliver call).ledger.outputBlocked = true ∨
      (pipeline.deliver call).ledger.releasePending = false ∧
        (pipeline.deliver call).context.channelPanicMask = pipeline.channelPanicMask := by
  have recorded := @Delivery.deliver_recorded (pipeline.request call) _ pipeline.ledger rfl
  have result := Delivery.deliver_result pipeline.ledger (pipeline.request call)
  cases blocked : (pipeline.deliver call).ledger.outputBlocked with
  | true => exact .inl rfl
  | false =>
      rcases Delivery.deliver_smooth gated (pipeline.request call) with ⟨all, idle⟩ | failed
      · refine .inr ⟨idle, ?_⟩
        have marks := (replayPushes_advances (pipeline.context call) recorded).kept
          (List.all_eq_true.mpr all)
        unfold deliver
        dsimp only
        rw [if_neg fun stopped => ?_]
        · exact marks
        · have open' := result.symm.trans stopped.1
          exact absurd (blocked.symm.trans open') Bool.false_ne_true
      · exact absurd (failed.blocked.symm.trans blocked) (by simp)

/-- A delivery only advances the log of the call. -/
theorem deliver_progress (pipeline : MidiPipeline) (call : MidiCall) :
    Advances false (pipeline.context call) (pipeline.deliver call).context := by
  have recorded := @Delivery.deliver_recorded (pipeline.request call) _ pipeline.ledger rfl
  have progress := (replayPushes_advances (pipeline.context call) recorded).refused
  unfold deliver
  dsimp only
  split_ifs
  · have marked := progress.trans (Advances.markRoute _ call)
    exact ⟨marked.logged, marked.grows, marked.kept⟩
  · exact ⟨progress.logged, progress.grows, progress.kept⟩

end MidiPipeline

/-! ## Silencing -/

namespace Serving

/-- Both controllers of a channel have been accepted, one after the other. -/
def Silenced (channel : ℕ) (before after : List HostPush) : Prop :=
  ∃ earlier, before ++ earlier ++
    [⟨channelPanic channel 123, true⟩, ⟨channelPanic channel 120, true⟩] <+: after

/-- Silencing the channels of a list keeps the log, sets no channel, and clears those it
has silenced; when it finishes these are all of the list. -/
structure Silencing (channels : List ℕ) (finished : Bool) (before after : DeliveryContext) :
    Prop where
  logged : before.log <+: after.log
  shrinks : ∀ bit, after.channelPanicMask.getLsbD bit = true →
    before.channelPanicMask.getLsbD bit = true
  cleared : finished = true → ∀ channel ∈ channels,
    after.channelPanicMask.getLsbD (channel - 1) = false
  silenced : ∀ channel, 1 ≤ channel → before.channelPanicMask.getLsbD (channel - 1) = true →
    after.channelPanicMask.getLsbD (channel - 1) = true ∨ Silenced channel before.log after.log

/-- An event that the host takes is logged as taken, and nothing else changes. -/
theorem offer_accepted {context next : DeliveryContext} {output : OutputEvents} {event : HostEvent}
    (accepted : context.offer output event = (true, next)) :
    next = { context with log := context.log ++ [⟨event, true⟩] } := by
  unfold DeliveryContext.offer at accepted
  split at accepted
  · exact absurd (congrArg Prod.fst accepted) Bool.false_ne_true
  · obtain ⟨answer, rfl⟩ := Prod.mk.inj accepted
    rw [answer]

/-- A refused controller ends the silencing. -/
theorem Silencing.stopped {before after : DeliveryContext} (progress : Advances true before after)
    (channels : List ℕ) : Silencing channels false before after where
  logged := progress.logged
  shrinks := by
    intro bit set
    rw [← progress.kept rfl]
    exact set
  cleared := fun finished => absurd finished Bool.false_ne_true
  silenced := fun channel _ set => .inl (progress.grows _ set)

/-- A channel that has been silenced is cleared, and only it. -/
theorem getLsbD_cleared (mask : BitVec 16) {bit other : ℕ} :
    (mask &&& ~~~BitVec.twoPow 16 bit).getLsbD other = true ↔
      mask.getLsbD other = true ∧ other ≠ bit := by
  rw [BitVec.getLsbD_and, BitVec.getLsbD_not, BitVec.getLsbD_twoPow, Bool.and_eq_true]
  constructor
  · rintro ⟨set, kept⟩
    refine ⟨set, fun same => ?_⟩
    subst same
    have inside := BitVec.lt_of_getLsbD set
    simp [inside] at kept
  · rintro ⟨set, different⟩
    have inside := BitVec.lt_of_getLsbD set
    refine ⟨set, ?_⟩
    simp [inside, Ne.symm different]

/-- The channels that are tried again have been silenced, one after the other, up to the first
refusal. -/
theorem retryChannels_silencing (output : OutputEvents) (channels : List ℕ)
    (positive : ∀ channel ∈ channels, 1 ≤ channel) (context : DeliveryContext) :
    Silencing channels (retryChannels output channels context).1 context
      (retryChannels output channels context).2 := by
  induction channels generalizing context with
  | nil =>
      exact ⟨List.prefix_refl _, fun _ => id, fun _ channel member => absurd member List.not_mem_nil,
        fun _ _ set => .inl set⟩
  | cons head rest ih =>
      obtain ⟨first, others⟩ := List.forall_mem_cons.mp positive
      rw [retryChannels]
      by_cases clear : context.channelPanicMask.getLsbD (head - 1) = false
      · rw [if_pos clear]
        have onward := ih others context
        refine ⟨onward.logged, onward.shrinks, fun all => List.forall_mem_cons.mpr ⟨?_, ?_⟩,
          onward.silenced⟩
        · by_contra set
          have before := onward.shrinks _ (Bool.of_not_eq_false set)
          exact absurd (clear.symm.trans before) Bool.false_ne_true
        · exact onward.cleared all
      · rw [if_neg clear]
        have firstOffer := @Advances.offer true context output (channelPanic head 123)
        split
        · next rejected refused =>
            rw [refused] at firstOffer
            exact Silencing.stopped firstOffer _
        · next notesOff accepted =>
            rw [accepted] at firstOffer
            have secondOffer := @Advances.offer true notesOff output (channelPanic head 120)
            split
            · next rejected refused =>
                rw [refused] at secondOffer
                exact Silencing.stopped (firstOffer.trans secondOffer) _
            · next soundOff both =>
                have next : soundOff = { context with log := context.log ++
                    [⟨channelPanic head 123, true⟩, ⟨channelPanic head 120, true⟩] } := by
                  rw [offer_accepted both, offer_accepted accepted, List.append_assoc]
                  rfl
                subst next
                have onward := ih others { context with
                  log := context.log ++
                    [⟨channelPanic head 123, true⟩, ⟨channelPanic head 120, true⟩]
                  channelPanicMask :=
                    context.channelPanicMask &&& ~~~BitVec.twoPow 16 (head - 1) }
                have burst := onward.logged
                refine ⟨(List.prefix_append _ _).trans burst, fun bit set => ?_, fun all => ?_,
                  fun channel one set => ?_⟩
                · exact ((getLsbD_cleared _).mp (onward.shrinks bit set)).1
                · refine List.forall_mem_cons.mpr ⟨?_, onward.cleared all⟩
                  by_contra set
                  have kept := onward.shrinks _ (Bool.of_not_eq_false set)
                  exact ((getLsbD_cleared _).mp kept).2 rfl
                · by_cases here : channel = head
                  · subst here
                    refine .inr ⟨[], ?_⟩
                    rw [List.append_nil]
                    exact burst
                  · have kept := (getLsbD_cleared context.channelPanicMask).mpr
                      ⟨set, show channel - 1 ≠ head - 1 by omega⟩
                    rcases onward.silenced channel one kept with still | ⟨earlier, later⟩
                    · exact .inl still
                    · refine .inr ⟨[⟨channelPanic head 123, true⟩, ⟨channelPanic head 120, true⟩] ++
                        earlier, ?_⟩
                      simpa [List.append_assoc] using later

/-- A mask without any of the sixteen channels is empty. -/
theorem mask_eq_zero {mask : BitVec 16}
    (cleared : ∀ channel ∈ List.range' 1 16, mask.getLsbD (channel - 1) = false) : mask = 0 := by
  refine BitVec.eq_of_getLsbD_eq fun bit inside => ?_
  have clear := cleared (bit + 1) (List.mem_range'_1.mpr ⟨by omega, by omega⟩)
  rw [Nat.add_sub_cancel] at clear
  rw [clear, BitVec.ofNat_eq_ofNat, BitVec.getLsbD_zero]

/-- The retry does nothing while there is nothing to silence or a release is pending; else
it silences channels, and blocks the output where it does not finish. -/
theorem retryChannelPanics_cases (serving : Serving) (output : OutputEvents) :
    (serving.context.channelPanicMask = 0 ∨ serving.ledger.releasePending = true) ∧
        (serving.retryChannelPanics output).2 = serving ∨
      serving.ledger.releasePending = false ∧ ∃ finished,
        Silencing (List.range' 1 16) finished serving.context
            (serving.retryChannelPanics output).2.context ∧
          (serving.retryChannelPanics output).2.ledger =
            if finished then serving.ledger else serving.ledger.reportOutputFailure := by
  unfold retryChannelPanics
  by_cases waits : serving.context.channelPanicMask = 0 ∨ serving.ledger.releasePending = true
  · rw [if_pos waits]
    exact .inl ⟨waits, rfl⟩
  · rw [if_neg waits]
    have idle := Bool.eq_false_of_not_eq_true (not_or.mp waits).2
    have silencing := retryChannels_silencing output (List.range' 1 16)
      (fun channel member => (List.mem_range'_1.mp member).1) serving.context
    refine .inr ⟨idle, ?_⟩
    split
    · next context outcome =>
        rw [outcome] at silencing
        exact ⟨true, silencing, rfl⟩
    · next context outcome =>
        rw [outcome] at silencing
        exact ⟨false, silencing, rfl⟩

/-- The last flush blocks the output where the host refuses an input event. -/
theorem flushRest_progress (serving : Serving) (call : MidiCall) :
    ∃ accepted, Advances accepted serving.context (serving.flushRest call).context ∧
      (serving.flushRest call).ledger =
        if accepted then serving.ledger else serving.ledger.reportOutputFailure := by
  have flushed := @flushInputs_progress call (fun _ => true) serving.context.remaining
    serving.context
  unfold flushRest
  split
  · next context outcome =>
      rw [outcome] at flushed
      exact ⟨true, flushed, rfl⟩
  · next context outcome =>
      rw [outcome] at flushed
      exact ⟨false, flushed, rfl⟩

/-- The output is blocked, or there is nothing left to silence or to release. -/
def Settled (serving : Serving) : Prop :=
  serving.ledger.outputBlocked = true ∨
    serving.ledger.releasePending = false ∧ serving.context.channelPanicMask = 0

end Serving

namespace MidiPipeline

open Serving

variable {pipeline : MidiPipeline} {call : MidiCall}

/-- What follows the delivery of a call can only block the output. -/
theorem process_ledger (served : refuses call = false) :
    ∃ blocked : Bool, (pipeline.process call).pipeline.ledger =
      if blocked then (pipeline.deliver call).ledger.enterBlocked
      else (pipeline.deliver call).ledger := by
  have silenced : ∃ blocked : Bool, (pipeline.silence call).ledger =
      if blocked then (pipeline.deliver call).ledger.enterBlocked
      else (pipeline.deliver call).ledger := by
    unfold silence
    dsimp only
    split_ifs
    · rcases (pipeline.deliver call).retryChannelPanics_cases call.output with
        ⟨-, same⟩ | ⟨-, finished, -, ledger⟩
      · exact ⟨false, congrArg Serving.ledger same⟩
      · cases finished with
        | true => exact ⟨false, ledger⟩
        | false => exact ⟨true, ledger⟩
    · exact ⟨false, rfl⟩
  obtain ⟨blocked, before⟩ := silenced
  obtain ⟨accepted, -, after⟩ := (pipeline.silence call).flushRest_progress call
  have ends : (pipeline.process call).pipeline.ledger =
      ((pipeline.silence call).flushRest call).ledger := by
    unfold process
    rw [if_neg (by rw [served]; exact Bool.false_ne_true)]
  rw [ends, after, before]
  cases accepted with
  | true => exact ⟨blocked, rfl⟩
  | false =>
      refine ⟨true, ?_⟩
      cases blocked with
      | true => exact enterBlocked_idem _
      | false => rfl

/-- A block that silences ends gated, and with its panic settled one way or the other. -/
theorem silence_settled (gated : Gated pipeline.ledger) (call : MidiCall) :
    Gated (pipeline.silence call).ledger ∧ (pipeline.silence call).Settled := by
  have delivered := deliver_gated gated call
  unfold silence
  dsimp only
  split_ifs with marked
  · rcases (pipeline.deliver call).retryChannelPanics_cases call.output with
      ⟨waits, same⟩ | ⟨idle, finished, silencing, ledger⟩
    · rw [same]
      refine ⟨delivered, ?_⟩
      rcases deliver_outcome gated call with blocked | ⟨idle, mask⟩
      · exact .inl blocked
      · rcases waits with clear | pending
        · exact .inr ⟨idle, clear⟩
        · exact absurd (pending.symm.trans idle) (by simp)
    · cases finished with
      | true =>
          rw [if_pos rfl] at ledger
          refine ⟨ledger ▸ delivered, .inr ⟨ledger ▸ idle, ?_⟩⟩
          exact mask_eq_zero (silencing.cleared rfl)
      | false =>
          rw [if_neg Bool.false_ne_true] at ledger
          refine ⟨?_, .inl ?_⟩
          · rw [ledger]
            exact Guards.enterBlocked.gated delivered
          · rw [ledger]
            rfl
  · refine ⟨delivered, ?_⟩
    rcases deliver_outcome gated call with blocked | ⟨idle, mask⟩
    · exact .inl blocked
    · exact .inr ⟨idle, mask.trans (not_not.mp marked)⟩

/-- What is left of a block keeps the ledger gated and the panic settled. -/
theorem flushRest_settled {serving : Serving} (gated : Gated serving.ledger)
    (settled : serving.Settled) (call : MidiCall) :
    Gated (serving.flushRest call).ledger ∧ (serving.flushRest call).Settled := by
  obtain ⟨accepted, progress, ledger⟩ := serving.flushRest_progress call
  cases accepted with
  | true =>
      rw [if_pos rfl] at ledger
      refine ⟨ledger ▸ gated, ?_⟩
      rcases settled with blocked | ⟨idle, clear⟩
      · exact .inl (ledger ▸ blocked)
      · exact .inr ⟨ledger ▸ idle, (progress.kept rfl).trans clear⟩
  | false =>
      rw [if_neg Bool.false_ne_true] at ledger
      refine ⟨?_, .inl ?_⟩
      · rw [ledger]
        exact Guards.enterBlocked.gated gated
      · rw [ledger]
        rfl

/-- A call that is not refused ends with the output blocked, or with nothing left. -/
theorem process_settled (gated : Gated pipeline.ledger) (served : refuses call = false) :
    Gated (pipeline.process call).pipeline.ledger ∧
      ((pipeline.process call).pipeline.ledger.outputBlocked = true ∨
        (pipeline.process call).pipeline.ledger.releasePending = false ∧
          (pipeline.process call).pipeline.channelPanicMask = 0) := by
  obtain ⟨silenced, settled⟩ := silence_settled gated call
  unfold process
  rw [if_neg (by rw [served]; exact Bool.false_ne_true)]
  exact flushRest_settled silenced settled call

/-- The pipeline that has been reset is guarded. -/
theorem Guarded.reset : Guarded {} where
  gated := gated_reset
  masked := fun marked => absurd rfl marked
  waiting := fun pending => absurd pending (by decide)

/-- A change of the ledger that blocks nothing less, and makes nothing wait. -/
theorem Guarded.change (guarded : Guarded pipeline) {next : MidiPipeline}
    (gated : Gated next.ledger) (mask : next.channelPanicMask = pipeline.channelPanicMask)
    (blocked : next.ledger.outputBlocked = pipeline.ledger.outputBlocked)
    (voices : next.ledger.voices = pipeline.ledger.voices)
    (held : next.ledger.panicHold = pipeline.ledger.panicHold) : Guarded next where
  gated := gated
  masked := by
    rw [mask, blocked]
    exact guarded.masked
  waiting := by
    rw [releasePending, voices, blocked, held]
    exact guarded.waiting

/-- In a hold releases may wait. -/
theorem Guarded.hold {next : MidiPipeline} (gated : Gated next.ledger)
    (masked : next.channelPanicMask ≠ 0 → next.ledger.outputBlocked = true)
    (held : next.ledger.panicHold = true) : Guarded next :=
  ⟨gated, masked, fun _ => .inr held⟩

/-- A panic that is requested leaves the pipeline guarded. -/
theorem requestPanic_guarded (guarded : Guarded pipeline) (offset framesCount : ℕ) :
    Guarded (pipeline.requestPanic offset framesCount).2 := by
  have recovered : Gated pipeline.ledger.requestRecovery :=
    operate_gated guarded.gated .requestRecovery
  have guards : Guards pipeline.ledger.requestRecovery
      (pipeline.ledger.requestRecovery.queueActiveReleases offset framesCount).2 :=
    Guards.queueReleasesOf offset framesCount (List.finRange maxVoices) 0 (true, _)
  have queued := guards.gated recovered
  unfold requestPanic
  dsimp only
  split_ifs
  · exact Guarded.hold queued (fun marked => guards.blocked (guarded.masked marked)) guards.hold
  · exact Guarded.hold (Guards.enterBlocked.gated queued) (fun _ => rfl) guards.hold

/-- A processed block leaves the pipeline guarded. -/
theorem process_guarded (guarded : Guarded pipeline) (call : MidiCall) :
    Guarded (pipeline.process call).pipeline := by
  cases refused : refuses call with
  | true =>
      unfold process
      rw [if_pos refused]
      exact guarded.change guarded.gated rfl rfl rfl rfl
  | false =>
      obtain ⟨gated, settled⟩ := process_settled guarded.gated refused
      refine ⟨gated, fun marked => ?_, fun pending => ?_⟩
      · rcases settled with blocked | ⟨-, clear⟩
        · exact blocked
        · exact absurd clear marked
      · rcases settled with blocked | ⟨idle, -⟩
        · exact .inl blocked
        · exact absurd (pending.symm.trans idle) (by simp)

/-- Every operation leaves the pipeline guarded. -/
theorem Guarded.operate (guarded : Guarded pipeline) (operation : PipelineOperation) :
    Guarded (pipeline.operate operation) := by
  cases operation with
  | activate maxFrames granted =>
      have started : Guards {} (allocateStorage {} maxFrames granted).2 :=
        Guards.allocateStorage maxFrames granted
      refine ⟨started.gated gated_reset, fun marked => absurd rfl marked, fun pending => ?_⟩
      have idle : (allocateStorage {} maxFrames granted).2.releasePending = false := by
        unfold allocateStorage
        dsimp only
        split_ifs <;> rfl
      exact absurd (pending.symm.trans idle) (by simp)
  | deactivate => exact Guarded.reset
  | beginBlock => exact guarded.change (Guards.beginBlock.gated guarded.gated) rfl rfl rfl rfl
  | queueTransition transition framesCount =>
      have gated := (Guards.queueTransition transition framesCount).gated guarded.gated
      have same : (pipeline.ledger.queueTransition transition framesCount).2.outputBlocked =
            pipeline.ledger.outputBlocked ∧
          (pipeline.ledger.queueTransition transition framesCount).2.voices =
            pipeline.ledger.voices ∧
          (pipeline.ledger.queueTransition transition framesCount).2.panicHold =
            pipeline.ledger.panicHold := by
        unfold GeneratedNoteLedger.queueTransition
        split_ifs <;> exact ⟨rfl, rfl, rfl⟩
      exact guarded.change gated rfl same.1 same.2.1 same.2.2
  | requestPanic offset framesCount => exact requestPanic_guarded guarded offset framesCount
  | requestReset =>
      have gated := operate_gated (operate_gated guarded.gated .requestReleaseAll) .requestRecovery
      exact Guarded.hold gated guarded.masked rfl
  | process call => exact process_guarded guarded call

/-- Every pipeline that can be reached is guarded. -/
theorem Reachable.guarded (reached : Reachable pipeline) : Guarded pipeline := by
  induction reached with
  | initial => exact Guarded.reset
  | operate reached operation ih => exact ih.operate operation

/-! ## Runs -/

/-- A call silences a channel after a delivery that leaves no release pending. -/
def Silences (pipeline : MidiPipeline) (call : MidiCall) (channel : ℕ) : Prop :=
  refuses call = false ∧ (pipeline.deliver call).ledger.releasePending = false ∧
    Silenced channel (pipeline.deliver call).context.log (pipeline.process call).log

/-- Operations, one after the other. -/
def operateAll (pipeline : MidiPipeline) (operations : List PipelineOperation) : MidiPipeline :=
  operations.foldl operate pipeline

/-- A channel that is in the mask after the delivery is silenced, or stays in the mask. -/
theorem process_silences {channel : ℕ} (one : 1 ≤ channel) (served : refuses call = false)
    (marked : (pipeline.deliver call).context.channelPanicMask.getLsbD (channel - 1) = true) :
    Silences pipeline call channel ∨
      (pipeline.process call).pipeline.channelPanicMask.getLsbD (channel - 1) = true := by
  obtain ⟨accepted, flushed, -⟩ := (pipeline.silence call).flushRest_progress call
  have outcome : (pipeline.process call).log =
        ((pipeline.silence call).flushRest call).context.log ∧
      (pipeline.process call).pipeline.channelPanicMask =
        ((pipeline.silence call).flushRest call).context.channelPanicMask := by
    unfold process
    rw [if_neg (by rw [served]; exact Bool.false_ne_true)]
    exact ⟨rfl, rfl⟩
  rw [outcome.2]
  have silenced : (pipeline.silence call).context.channelPanicMask.getLsbD (channel - 1) = true ∨
      (pipeline.deliver call).ledger.releasePending = false ∧
        Silenced channel (pipeline.deliver call).context.log
          (pipeline.silence call).context.log := by
    unfold silence
    dsimp only
    split_ifs
    · rcases (pipeline.deliver call).retryChannelPanics_cases call.output with
        ⟨-, same⟩ | ⟨idle, finished, silencing, -⟩
      · rw [same]
        exact .inl marked
      · rcases silencing.silenced channel one marked with still | done
        · exact .inl still
        · exact .inr ⟨idle, done⟩
    · exact .inl marked
  rcases silenced with still | ⟨idle, earlier, done⟩
  · exact .inr (flushed.grows _ still)
  · refine .inl ⟨served, idle, earlier, ?_⟩
    rw [outcome.1]
    exact done.trans flushed.logged

end MidiPipeline

namespace PipelineOperation

/-- Does the operation begin or end an activation? -/
def restarts : PipelineOperation → Bool
  | activate _ _ | deactivate => true
  | _ => false

end PipelineOperation

namespace MidiPipeline

variable {pipeline : MidiPipeline}

/-- Within an activation only a call that silences a channel takes it out of the mask. -/
theorem operate_silences {channel : ℕ} (one : 1 ≤ channel) {operation : PipelineOperation}
    (within : operation.restarts = false)
    (marked : pipeline.channelPanicMask.getLsbD (channel - 1) = true) :
    (∃ call, operation = .process call ∧ Silences pipeline call channel) ∨
      (pipeline.operate operation).channelPanicMask.getLsbD (channel - 1) = true := by
  cases operation with
  | activate maxFrames granted => exact absurd within (by simp [PipelineOperation.restarts])
  | deactivate => exact absurd within (by simp [PipelineOperation.restarts])
  | beginBlock => exact .inr marked
  | queueTransition transition framesCount => exact .inr marked
  | requestPanic offset framesCount =>
      right
      rw [operate, requestPanic]
      dsimp only
      split_ifs
      · exact marked
      · rw [enterOutputBlocked, BitVec.getLsbD_or, marked, Bool.true_or]
  | requestReset => exact .inr marked
  | process call =>
      cases refused : refuses call with
      | true =>
          right
          rw [operate, process, if_pos refused]
          exact marked
      | false =>
          have delivered := (deliver_progress pipeline call).grows _ marked
          rcases process_silences one refused delivered with silences | still
          · exact .inl ⟨call, rfl, silences⟩
          · exact .inr still

/-- A run within an activation that ends with an open output has silenced each channel of
the mask. -/
theorem run_silences (guarded : Guarded pipeline) {channel : ℕ} (one : 1 ≤ channel)
    {operations : List PipelineOperation}
    (within : ∀ operation ∈ operations, operation.restarts = false)
    (marked : pipeline.channelPanicMask.getLsbD (channel - 1) = true)
    (opened : (pipeline.operateAll operations).ledger.outputBlocked = false) :
    ∃ earlier call later, operations = earlier ++ .process call :: later ∧
      Silences (pipeline.operateAll earlier) call channel := by
  induction operations generalizing pipeline with
  | nil =>
      have blocked := guarded.masked fun clear => by simp [clear] at marked
      exact absurd (blocked.symm.trans opened) (by simp)
  | cons operation operations ih =>
      obtain ⟨here, rest⟩ := List.forall_mem_cons.mp within
      rcases operate_silences one here marked with ⟨call, rfl, silences⟩ | still
      · exact ⟨[], call, operations, rfl, silences⟩
      · obtain ⟨earlier, call, later, rfl, silences⟩ :=
          ih (guarded.operate operation) rest still opened
        exact ⟨operation :: earlier, call, later, rfl, silences⟩

/-- Blocked outputs and channels to be silenced: between calls a channel in the mask means
a blocked output, and a pending release a blocked output or a hold; detection is allowed
only when nothing is left to silence or to release; and a run within one activation that
ends with an open output has silenced, after all pending releases, each channel that was in
the mask before it or was put there by a call of it. -/
theorem channel_panic_exact (reached : Reachable pipeline) :
    (pipeline.channelPanicMask ≠ 0 → pipeline.ledger.outputBlocked = true) ∧
      (pipeline.ledger.releasePending = true →
        pipeline.ledger.outputBlocked = true ∨ pipeline.ledger.panicHold = true) ∧
      (∀ call, (pipeline.process call).result.detectionAllowed = true →
        (pipeline.process call).pipeline.channelPanicMask = 0 ∧
          (pipeline.process call).pipeline.ledger.releasePending = false) ∧
      ∀ channel, 1 ≤ channel →
        (∀ call, refuses call = false →
          (pipeline.deliver call).context.channelPanicMask.getLsbD (channel - 1) = true →
          Silences pipeline call channel ∨
            (pipeline.process call).pipeline.channelPanicMask.getLsbD (channel - 1) = true) ∧
        ∀ operations : List PipelineOperation,
          (∀ operation ∈ operations, operation.restarts = false) →
          pipeline.channelPanicMask.getLsbD (channel - 1) = true →
          (pipeline.operateAll operations).ledger.outputBlocked = false →
          ∃ earlier call later, operations = earlier ++ .process call :: later ∧
            Silences (pipeline.operateAll earlier) call channel := by
  have guarded := reached.guarded
  refine ⟨guarded.masked, guarded.waiting, fun call allowed => ?_, fun channel one =>
    ⟨fun call served marked => process_silences one served marked,
      fun operations within marked opened => run_silences guarded one within marked opened⟩⟩
  cases refused : refuses call with
  | true =>
      rw [process, if_pos refused] at allowed
      exact absurd allowed Bool.false_ne_true
  | false =>
      have opened : (pipeline.process call).pipeline.ledger.outputBlocked = false := by
        unfold process at allowed ⊢
        rw [if_neg (by rw [refused]; exact Bool.false_ne_true)] at allowed ⊢
        rw [Bool.and_eq_true, Bool.and_eq_true, Bool.not_eq_true'] at allowed
        exact Bool.not_eq_true' _ ▸ allowed.1.2
      rcases (process_settled guarded.gated refused).2 with blocked | ⟨idle, clear⟩
      · exact absurd (blocked.symm.trans opened) (by simp)
      · exact ⟨clear, idle⟩

/-- What operations lead to from a reachable pipeline can be reached. -/
theorem Reachable.operateAll (reached : Reachable pipeline) (operations : List PipelineOperation) :
    Reachable (pipeline.operateAll operations) := by
  induction operations generalizing pipeline with
  | nil => exact reached
  | cons operation operations ih => exact ih (reached.operate operation)

/-- A call whose input event finds no output. -/
def unpluggedCall : MidiCall where
  framesCount := 64
  input := [some { time := 0 }]
  output := none

/-- A call with an output that accepts everything. -/
def pluggedCall : MidiCall where
  framesCount := 64
  output := some fun _ _ => true

/-- A pipeline whose output has failed. -/
def unplugged : MidiPipeline :=
  operateAll {} [.activate 64 true, .process unpluggedCall]

/-- A host list that refuses everything, then one that takes everything, and the channels that are
silenced. -/
theorem channel_panic_exact_unplugged :
    unplugged.ledger.outputBlocked = true ∧
      ∃ earlier call later, [.requestReset, .process pluggedCall, .process pluggedCall] =
          earlier ++ PipelineOperation.process call :: later ∧
        Silences (unplugged.operateAll earlier) call 1 := by
  have exact' := channel_panic_exact (Reachable.initial.operateAll
    [.activate 64 true, .process unpluggedCall])
  refine ⟨exact'.1 (by decide), (exact'.2.2.2 1 le_rfl).2 _ ?_ (by decide) (by decide +kernel)⟩
  exact List.forall_mem_cons.mpr ⟨rfl, List.forall_mem_cons.mpr ⟨rfl,
    List.forall_mem_cons.mpr ⟨rfl, List.forall_mem_nil _⟩⟩⟩

/-- An activation forgets the failure: the output is open again, and no controller has been
offered. -/
theorem activation_forgets_failure :
    ¬ ∀ (pipeline : MidiPipeline) (channel : ℕ) (operations : List PipelineOperation),
      Reachable pipeline → 1 ≤ channel →
        pipeline.channelPanicMask.getLsbD (channel - 1) = true →
        (pipeline.operateAll operations).ledger.outputBlocked = false →
        ∃ earlier call later, operations = earlier ++ .process call :: later ∧
          Silences (pipeline.operateAll earlier) call channel := by
  intro silenced
  obtain ⟨earlier, call, later, split, -, -, start, logged⟩ := silenced unplugged 1
    [.activate 64 true, .process pluggedCall]
    (Reachable.initial.operateAll [.activate 64 true, .process unpluggedCall]) le_rfl
    (by decide) (by decide)
  obtain ⟨rfl, rfl⟩ : earlier = [.activate 64 true] ∧ call = pluggedCall := by
    rcases earlier with _ | ⟨first, _ | ⟨second, others⟩⟩
    · exact absurd (List.cons.inj split).1 (by simp)
    · obtain ⟨rfl, rest⟩ := List.cons.inj split
      obtain ⟨same, -⟩ := List.cons.inj rest
      exact ⟨rfl, (PipelineOperation.process.inj same).symm⟩
    · exact absurd (congrArg List.length split) (by simp)
  have nothing : (process (operateAll unplugged [.activate 64 true]) pluggedCall).log = [] := rfl
  rw [nothing] at logged
  exact absurd (List.prefix_nil.mp logged) (by simp)

end MidiPipeline

end M3Midi
