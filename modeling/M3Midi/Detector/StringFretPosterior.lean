import M3Midi.Detector.Configuration
import M3Midi.Foundation.LaneMask
import M3Midi.Foundation.Transducer
import Mathlib.Algebra.BigOperators.Field
import Mathlib.Algebra.Order.BigOperators.Group.Finset
import Mathlib.Tactic.Linarith

/-! # The posterior of the strings

Each pitch candidate keeps a probability for every string that can play it. An update
mixes the old probabilities, weighs them with likelihoods relative to the largest one, and
divides by their sum. Whatever frames come, an accepted update leaves a distribution over
the playable strings, and a rejected one leaves everything as it was
(`M3Midi.StringFretPosteriorBank.update_exact`). Numbers are those of an ordered field;
the exponential is a parameter.
-/

namespace M3Midi

open Foundation

/-- `StringFretLikelihoodFrame`; numbers that are not finite are absent. -/
structure StringFretLikelihoodFrame (Number : Type) where
  logLikelihood : Fin maxVoices → Option Number
  playableMask : BitVec 8
  onsetStrength : Option Number

/-- What the bank keeps of a candidate (`State`). It is blank until it has been updated, and a
distribution from then on until it is reset. -/
structure StringFretPosterior (Number : Type) where
  probability : Fin maxVoices → Number
  playableMask : BitVec 8
  initialized : Bool

/-- The posteriors of all candidates. -/
abbrev StringFretPosteriorBank (Number : Type) := Fin maxCandidates → StringFretPosterior Number

section Model

variable {Number : Type} [Field Number] [LinearOrder Number]

/-- A string that the mask marks. -/
def playable (mask : BitVec 8) (string : Fin maxVoices) : Bool := mask.getLsbD string

/-- The state of a candidate without an observation. -/
def StringFretPosterior.blank : StringFretPosterior Number where
  probability _ := 0
  playableMask := 0
  initialized := false

/-- `kSustainStayProbability`, the probability that a sounding note stays on its string. -/
def sustainStayProbability : Number := 985 / 1000

/-- `kProbabilityFloor`, below which no probability falls. -/
def probabilityFloor : Number := 1 / 10 ^ 12

namespace StringFretLikelihoodFrame

variable (frame : StringFretLikelihoodFrame Number)

/-- The strings that can play the candidate, in their order. -/
def strings : List (Fin maxVoices) :=
  (List.finRange maxVoices).filter (playable frame.playableMask)

/-- The likelihood of a string; it counts only where it is finite. -/
def logOf (string : Fin maxVoices) : Number := (frame.logLikelihood string).getD 0

/-- The largest likelihood, from `-infinity` on. -/
def maximumLog : WithBot Number :=
  frame.strings.foldl (fun highest string => max highest (frame.logOf string : WithBot Number)) ⊥

/-- The probability that a candidate stays on its string. -/
def stay (onset : Number) : Number :=
  (1 - onset) * sustainStayProbability + onset * (1 / LaneMask.count frame.playableMask)

/-- What the old state makes of the strings before the observation. -/
def predicted (state : StringFretPosterior Number) (onset : Number) (string : Fin maxVoices) :
    Number :=
  let count := LaneMask.count frame.playableMask
  let continuing := state.initialized && state.playableMask = frame.playableMask
  if continuing = false ∨ count = 1 then 1 / count
  else
    let stay := frame.stay onset
    let change := (1 - stay) / (count - 1 : ℕ)
    stay * state.probability string + change * (1 - state.probability string)

/-- The weight of a string before it is divided by the sum. -/
def weight (exp : Number → Number) (state : StringFretPosterior Number) (onset : Number)
    (string : Fin maxVoices) : Number :=
  let relative := frame.logOf string - frame.maximumLog.unbotD 0
  max probabilityFloor
    (frame.predicted state onset string * exp (max (-60) (min 0 relative)))

/-- The sum of all weights, by which they are normalized. -/
def total (exp : Number → Number) (state : StringFretPosterior Number) (onset : Number) : Number :=
  (frame.strings.map (frame.weight exp state onset)).sum

end StringFretLikelihoodFrame

namespace StringFretPosteriorBank

/-- `update`, with whether it is accepted. The probabilities are carried over, weighed by the
likelihoods and normalized. A frame that cannot be observed is refused. -/
def update (exp : Number → Number) (bank : StringFretPosteriorBank Number) (candidate : ℕ)
    (frame : StringFretLikelihoodFrame Number) : Bool × StringFretPosteriorBank Number :=
  if inside : candidate < maxCandidates then
    match frame.onsetStrength with
    | none => (false, bank)
    | some onset =>
        if frame.playableMask = 0 ∨ onset < 0 ∨ 1 < onset ∨
            frame.strings.any (fun string => (frame.logLikelihood string).isNone) then
          (false, bank)
        else
          let state := bank ⟨candidate, inside⟩
          let total := frame.total exp state onset
          if total ≤ 0 then (false, bank)
          else
            (true, Function.update bank ⟨candidate, inside⟩
              { probability := fun string =>
                  if playable frame.playableMask string then
                    frame.weight exp state onset string / total
                  else 0
                playableMask := frame.playableMask
                initialized := true })
  else (false, bank)

/-- `reset` of one candidate. -/
def resetCandidate (bank : StringFretPosteriorBank Number) (candidate : ℕ) :
    StringFretPosteriorBank Number :=
  if inside : candidate < maxCandidates then
    Function.update bank ⟨candidate, inside⟩ StringFretPosterior.blank
  else bank

/-- `reset` of all candidates, as at the start. -/
def blank : StringFretPosteriorBank Number := fun _ => StringFretPosterior.blank

end StringFretPosteriorBank

/-- A call to the posteriors. -/
inductive PosteriorCall (Number : Type)
  | update (candidate : ℕ) (frame : StringFretLikelihoodFrame Number)
  | resetCandidate (candidate : ℕ)
  | reset

namespace StringFretPosteriorBank

/-- The bank as a machine that reports whether an update is accepted. -/
def machine (exp : Number → Number) :
    Transducer (PosteriorCall Number) (StringFretPosteriorBank Number) Bool where
  step bank
    | .update candidate frame =>
        let outcome := update exp bank candidate frame
        (outcome.2, [outcome.1])
    | .resetCandidate candidate => (resetCandidate bank candidate, [])
    | .reset => (blank, [])

end StringFretPosteriorBank

end Model

section Distributions

variable {Number : Type} [Field Number] [LinearOrder Number] [IsStrictOrderedRing Number]

/-- The probabilities of the playable strings sum to one, and there are no others. -/
structure StringFretPosterior.Distributed (state : StringFretPosterior Number)
    (mask : BitVec 8) : Prop where
  mask_eq : state.playableMask = mask
  nonneg : ∀ string, 0 ≤ state.probability string
  outside : ∀ string, playable mask string = false → state.probability string = 0
  total : ∑ string with playable mask string, state.probability string = 1

namespace StringFretLikelihoodFrame

variable (frame : StringFretLikelihoodFrame Number) {exp : Number → Number}
  {state : StringFretPosterior Number} {onset : Number}

/-- Every weight is positive, since the floor carries it. -/
theorem weight_pos (string : Fin maxVoices) : 0 < frame.weight exp state onset string :=
  lt_max_of_lt_left (by rw [probabilityFloor]; positivity)

omit [LinearOrder Number] [IsStrictOrderedRing Number] in
/-- A sum over the strings in their order is one over the strings of the mask. -/
theorem sum_strings (value : Fin maxVoices → Number) :
    (frame.strings.map value).sum =
      ∑ string with playable frame.playableMask string, value string := by
  have nodup : frame.strings.Nodup := (List.nodup_finRange maxVoices).filter _
  rw [← List.sum_toFinset value nodup]
  congr 1
  ext string
  rw [List.mem_toFinset, strings, List.mem_filter, Finset.mem_filter]
  exact and_congr_left fun _ => iff_of_true (List.mem_finRange string) (Finset.mem_univ string)

/-- Some string can play, so the weights have a positive sum. -/
theorem total_pos (some_string : frame.playableMask ≠ 0) : 0 < frame.total exp state onset := by
  rw [total, sum_strings]
  refine Finset.sum_pos (fun string _ => frame.weight_pos string) ?_
  have lane : (LaneMask.lanes frame.playableMask).Nonempty :=
    Finset.nonempty_iff_ne_empty.mpr fun none => some_string (LaneMask.lanes_eq_empty.mp none)
  obtain ⟨string, member⟩ := lane
  rw [LaneMask.mem_lanes, ← BitVec.getLsbD_eq_getElem] at member
  exact ⟨string, Finset.mem_filter.mpr ⟨Finset.mem_univ string, member⟩⟩

/-- The frame can be observed: a string can play, and what counts is finite. -/
def Observable : Prop :=
  frame.playableMask ≠ 0 ∧ (∃ onset, frame.onsetStrength = some onset ∧ 0 ≤ onset ∧ onset ≤ 1) ∧
    ∀ string, playable frame.playableMask string = true → (frame.logLikelihood string).isSome

end StringFretLikelihoodFrame

namespace StringFretPosteriorBank

variable {exp : Number → Number} {bank : StringFretPosteriorBank Number} {candidate : ℕ}
  {frame : StringFretLikelihoodFrame Number}

/-- An update distributes the probability of a candidate anew, or does nothing. The cases are those
of its guards: the candidate, the frame, and the sum of the weights. -/
theorem update_cases (exp : Number → Number) (bank : StringFretPosteriorBank Number)
    (candidate : ℕ) (frame : StringFretLikelihoodFrame Number) :
    (∃ inside : candidate < maxCandidates, frame.Observable ∧
        ∃ state, StringFretPosterior.Distributed state frame.playableMask ∧
          update exp bank candidate frame =
            (true, Function.update bank ⟨candidate, inside⟩ state)) ∨
      ¬ (candidate < maxCandidates ∧ frame.Observable) ∧
        update exp bank candidate frame = (false, bank) := by
  rw [update]
  by_cases inside : candidate < maxCandidates
  · rw [dif_pos inside]
    cases strength : frame.onsetStrength with
    | none =>
        refine .inr ⟨?_, rfl⟩
        rintro ⟨-, -, ⟨onset, given, -⟩, -⟩
        exact absurd (strength.symm.trans given) (Option.some_ne_none onset).symm
    | some onset =>
        dsimp only
        by_cases refused : frame.playableMask = 0 ∨ onset < 0 ∨ 1 < onset ∨
            frame.strings.any (fun string => (frame.logLikelihood string).isNone) = true
        · rw [if_pos refused]
          refine .inr ⟨?_, rfl⟩
          rintro ⟨-, some_string, ⟨other, given, nonneg, atMost⟩, finite⟩
          obtain rfl := Option.some.inj (strength.symm.trans given)
          rcases refused with empty | negative | large | absent
          · exact some_string empty
          · exact absurd nonneg (not_le.mpr negative)
          · exact absurd atMost (not_le.mpr large)
          · obtain ⟨string, member, missing⟩ := List.any_eq_true.mp absent
            have present := finite string (List.mem_filter.mp member).2
            rw [Option.isNone_iff_eq_none.mp missing] at present
            exact Bool.false_ne_true present
        · rw [if_neg refused]
          rw [not_or, not_or, not_or, not_lt, not_lt] at refused
          obtain ⟨some_string, nonneg, atMost, finite⟩ := refused
          have positive := @StringFretLikelihoodFrame.total_pos Number _ _ _ frame exp
            (bank ⟨candidate, inside⟩) onset some_string
          rw [if_neg (not_le.mpr positive)]
          refine .inl ⟨inside, ⟨some_string, ⟨onset, strength, nonneg, atMost⟩, ?_⟩, _, ?_, rfl⟩
          · intro string plays
            by_contra missing
            rw [Option.not_isSome_iff_eq_none, ← Option.isNone_iff_eq_none] at missing
            exact finite (List.any_eq_true.mpr
              ⟨string, List.mem_filter.mpr ⟨List.mem_finRange string, plays⟩, missing⟩)
          · exact
              { mask_eq := rfl
                nonneg := fun string => by
                  dsimp only
                  split_ifs
                  · exact div_nonneg (frame.weight_pos string).le positive.le
                  · exact le_rfl
                outside := fun string unplayable => if_neg (Bool.eq_false_iff.mp unplayable)
                total := by
                  rw [Finset.sum_congr rfl fun string member =>
                    if_pos (Finset.mem_filter.mp member).2, ← Finset.sum_div,
                    ← frame.sum_strings]
                  exact div_self positive.ne' }
  · rw [dif_neg inside]
    exact .inr ⟨fun both => inside both.1, rfl⟩

/-- Every candidate is without an observation, or has a distribution over some strings. -/
def Sound (bank : StringFretPosteriorBank Number) : Prop :=
  ∀ candidate, bank candidate = StringFretPosterior.blank ∨
    ∃ mask, (bank candidate).Distributed mask

/-- Every call keeps the posteriors sound. -/
theorem sound_step (exp : Number → Number) (bank : StringFretPosteriorBank Number)
    (call : PosteriorCall Number) (sound : bank.Sound) :
    Sound ((machine exp).step bank call).1 := by
  intro other
  cases call with
  | update candidate frame =>
      change (update exp bank candidate frame).2 other = _ ∨
        ∃ mask, ((update exp bank candidate frame).2 other).Distributed mask
      rcases update_cases exp bank candidate frame with
        ⟨inside, -, state, distributed, accepted⟩ | ⟨-, rejected⟩
      · rw [accepted]
        dsimp only
        by_cases here : other = ⟨candidate, inside⟩
        · rw [here, Function.update_self]
          exact .inr ⟨frame.playableMask, distributed⟩
        · rw [Function.update_of_ne here]
          exact sound other
      · rw [rejected]
        exact sound other
  | resetCandidate candidate =>
      change resetCandidate bank candidate other = _ ∨
        ∃ mask, (resetCandidate bank candidate other).Distributed mask
      rw [resetCandidate]
      split_ifs with inside
      · by_cases here : other = ⟨candidate, inside⟩
        · rw [here, Function.update_self]
          exact .inl rfl
        · rw [Function.update_of_ne here]
          exact sound other
      · exact sound other
  | reset => exact .inl rfl

/-- After any calls, every state is blank or a distribution. The next update is accepted
exactly for a candidate and a frame that can be observed; then it leaves a distribution over
the playable strings and the other candidates as they are, and else it leaves everything. -/
theorem update_exact (exp : Number → Number) (calls : List (PosteriorCall Number))
    (candidate : ℕ) (frame : StringFretLikelihoodFrame Number) :
    let bank := ((machine exp).run blank calls).1
    let outcome := update exp bank candidate frame
    bank.Sound ∧ (outcome.1 = true ↔ candidate < maxCandidates ∧ frame.Observable) ∧
      (outcome.1 = true → ∃ inside : candidate < maxCandidates,
        (∀ string, 0 ≤ (outcome.2 ⟨candidate, inside⟩).probability string) ∧
        (∀ string, playable frame.playableMask string = false →
          (outcome.2 ⟨candidate, inside⟩).probability string = 0) ∧
        ∑ string with playable frame.playableMask string,
          (outcome.2 ⟨candidate, inside⟩).probability string = 1 ∧
        ∀ other, other ≠ ⟨candidate, inside⟩ → outcome.2 other = bank other) ∧
      (outcome.1 = false → outcome.2 = bank) := by
  intro bank outcome
  have sound : bank.Sound := (machine exp).run_preserves (sound_step exp) (fun _ => .inl rfl) calls
  refine ⟨sound, ?_⟩
  rcases update_cases exp bank candidate frame with
    ⟨inside, observable, state, distributed, accepted⟩ | ⟨refused, rejected⟩
  · have goes : outcome = (true, Function.update bank ⟨candidate, inside⟩ state) := accepted
    rw [goes]
    refine ⟨iff_of_true rfl ⟨inside, observable⟩, fun _ => ⟨inside, ?_⟩,
      fun contrary => absurd contrary Bool.false_ne_true.symm⟩
    dsimp only
    rw [Function.update_self]
    exact ⟨distributed.nonneg, distributed.outside, distributed.total,
      fun other different => Function.update_of_ne different _ _⟩
  · have goes : outcome = (false, bank) := rejected
    rw [goes]
    exact ⟨iff_of_false Bool.false_ne_true refused,
      fun contrary => absurd contrary Bool.false_ne_true, fun _ => rfl⟩

/-- Two strings with the same likelihood; that of the others is not finite. -/
def twoStrings : StringFretLikelihoodFrame ℚ where
  logLikelihood string := if string.val < 2 then some 3 else none
  playableMask := 3
  onsetStrength := some 1

/-- Twice observed, two equal strings have one half each; the exponential is taken of zero. -/
theorem update_exact_twoStrings :
    let bank := ((machine fun _ => 1).run blank [.update 5 twoStrings]).1
    let outcome := update (fun _ => 1) bank 5 twoStrings
    outcome.1 = true ∧ ∃ inside : 5 < maxCandidates,
      ∑ string with playable twoStrings.playableMask string,
        (outcome.2 ⟨5, inside⟩).probability string = 1 := by
  obtain ⟨-, accepts, distributes, -⟩ :=
    update_exact (fun _ : ℚ => 1) [.update 5 twoStrings] 5 twoStrings
  have observable : twoStrings.Observable := by
    refine ⟨by decide, ⟨1, rfl, by norm_num, le_rfl⟩, ?_⟩
    decide
  have accepted := accepts.mpr ⟨by decide, observable⟩
  obtain ⟨inside, -, -, total, -⟩ := distributes accepted
  exact ⟨accepted, inside, total⟩

end StringFretPosteriorBank

end Distributions

end M3Midi
