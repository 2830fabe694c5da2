import M3Midi.Component.StateStream

/-! # What the stream adapters accept

An adapter accepts exactly the streams whose calls all succeed with progress in range, until the
image is complete (`readExact_iff`, `readBoundedToEof_iff`, `writeExact_iff`). Its loops leave
whatever the stream does.
-/

namespace M3Midi

open Foundation

variable {State : Type} {stream : IBStream State}

/-- From a state the stream serves reads of what is left of a size, each with progress in
range. -/
inductive Reads (stream : IBStream State) : State → ℕ → List Byte → State → Prop
  | done (state : State) (size : ℕ) : Reads stream state size [] state
  | call {state next last : State} {size : ℕ} {reply : StreamReply} {rest : List Byte}
      (answers : stream.read state size = (reply, next))
      (progressed : reply.progressed size = true)
      (later : Reads stream next (size - reply.count.toNat) rest last) :
      Reads stream state size (reply.bytes ++ rest) last

/-- A read answers that the stream is at its end. -/
def EndsAt (stream : IBStream State) (state : State) (request : ℕ) (last : State) : Prop :=
  ∃ reply, stream.read state request = (reply, last) ∧ resultOk reply.result = true ∧
    reply.count = 0

/-- From a state the stream takes all bytes, in calls with progress in range. -/
inductive Writes (stream : IBStream State) : State → List Byte → State → Prop
  | done (state : State) : Writes stream state [] state
  | call {state next last : State} {bytes : List Byte} {reply : StreamReply}
      (more : bytes ≠ []) (answers : stream.write state bytes = (reply, next))
      (progressed : reply.progressed bytes.length = true)
      (later : Writes stream next (bytes.drop reply.count.toNat) last) :
      Writes stream state bytes last

/-- The reads deliver no more than was asked for. -/
theorem Reads.length_le {state last : State} {size : ℕ} {bytes : List Byte}
    (reads : Reads stream state size bytes last) : bytes.length ≤ size := by
  induction reads with
  | done => exact Nat.zero_le _
  | call answers progressed later ih =>
      have within := StreamReply.count_of_progressed progressed
      rw [List.length_append, StreamReply.length_bytes]
      omega

section Passes

variable {state next : State} {reply : StreamReply} {bytes : List Byte} {position size : ℕ}

/-- When everything has been written, the loop leaves with success. -/
theorem writePass_done (full : bytes.length ≤ position) :
    writePass stream bytes (position, state) = .inr (true, state) := by
  rw [writePass, if_neg (Nat.not_lt.mpr full)]

/-- Otherwise the stream is called. The loop goes on if the call has made progress, and fails
otherwise. -/
theorem writePass_call (more : position < bytes.length)
    (answers : stream.write state (bytes.drop position) = (reply, next)) :
    writePass stream bytes (position, state) =
      if reply.progressed (bytes.length - position) then
        .inl (position + reply.count.toNat, next)
      else .inr (false, next) := by
  rw [writePass, if_pos more, answers]

/-- When everything has been read, the loop leaves with what it has. -/
theorem readPass_done (full : size ≤ bytes.length) :
    readPass stream size (bytes, state) = .inr (some bytes, state) := by
  rw [readPass, if_neg (Nat.not_lt.mpr full)]

/-- Otherwise the stream is called, and the loop goes on if the call has made progress. -/
theorem readPass_call (more : bytes.length < size)
    (answers : stream.read state (size - bytes.length) = (reply, next)) :
    readPass stream size (bytes, state) =
      if reply.progressed (size - bytes.length) then .inl (bytes ++ reply.bytes, next)
      else .inr (none, next) := by
  rw [readPass, if_pos more, answers]

/-- When as much has been read as fits, one more byte decides whether the stream has ended. -/
theorem readToEofPass_full (full : size ≤ bytes.length)
    (answers : stream.read state 1 = (reply, next)) :
    readToEofPass stream size (bytes, state) =
      .inr (if resultOk reply.result && decide (reply.count = 0) then some bytes else none, next) := by
  rw [readToEofPass, if_neg (Nat.not_lt.mpr full), readEof, answers]

/-- A call of the bounded loop makes progress, finds the end, or is refused. -/
theorem readToEofPass_call (more : bytes.length < size)
    (answers : stream.read state (size - bytes.length) = (reply, next)) :
    readToEofPass stream size (bytes, state) =
      if reply.progressed (size - bytes.length) then .inl (bytes ++ reply.bytes, next)
      else .inr (if resultOk reply.result && decide (reply.count = 0) then some bytes else none,
        next) := by
  rw [readToEofPass, if_pos more, answers, StreamReply.progressed]
  dsimp only
  cases resultOk reply.result with
  | false => rfl
  | true =>
      rcases lt_trichotomy reply.count 0 with negative | zero | positive
      · have backward : ¬ 0 < reply.count := by omega
        have different : ¬ reply.count = 0 := by omega
        simp [negative, backward, different]
      · have within : ¬ ((size - bytes.length : ℕ) : Int) < 0 := by omega
        simp [zero, within]
      · have forward : ¬ reply.count < 0 := by omega
        have different : ¬ reply.count = 0 := by omega
        by_cases within : reply.count ≤ ((size - bytes.length : ℕ) : Int)
        · simp [positive, forward, different, within, Int.not_lt.mpr within]
        · simp [positive, forward, different, within, Int.not_le.mp within]

end Passes

section Loops

variable {passes size capacity : ℕ} {state last : State} {bytes : List Byte}

/-- The loop of `write_exact` leaves. -/
theorem writeExact_leaves (enough : bytes.length < passes) (state : State) :
    ∃ outcome, writeExact stream passes bytes state = some outcome := by
  refine whileLoop_leaves (fun current => bytes.length - current.1) ?_ enough
  rintro ⟨position, current⟩ next step
  rcases Nat.lt_or_ge position bytes.length with more | full
  · rw [writePass_call more rfl] at step
    split_ifs at step with progressed
    obtain rfl := Sum.inl.inj step
    have within := StreamReply.count_of_progressed progressed
    dsimp only
    omega
  · rw [writePass_done full] at step
    cases step

/-- The loop of `read_exact` leaves. -/
theorem readExact_leaves (enough : size < passes) (state : State) :
    ∃ outcome, readExact stream passes size state = some outcome := by
  refine whileLoop_leaves (fun current => size - current.1.length) ?_ enough
  rintro ⟨delivered, current⟩ next step
  rcases Nat.lt_or_ge delivered.length size with more | full
  · rw [readPass_call more rfl] at step
    split_ifs at step with progressed
    obtain rfl := Sum.inl.inj step
    have within := StreamReply.count_of_progressed progressed
    dsimp only
    rw [List.length_append, StreamReply.length_bytes]
    omega
  · rw [readPass_done full] at step
    cases step

/-- The loop of `read_bounded_to_eof` leaves. -/
theorem readBoundedToEof_leaves (enough : capacity < passes) (state : State) :
    ∃ outcome, readBoundedToEof stream passes capacity state = some outcome := by
  refine whileLoop_leaves (fun current => capacity - current.1.length) ?_ enough
  rintro ⟨delivered, current⟩ next step
  rcases Nat.lt_or_ge delivered.length capacity with more | full
  · rw [readToEofPass_call more rfl] at step
    split_ifs at step with progressed
    obtain rfl := Sum.inl.inj step
    have within := StreamReply.count_of_progressed progressed
    dsimp only
    rw [List.length_append, StreamReply.length_bytes]
    omega
  · rw [readToEofPass_full full rfl] at step
    cases step

/-- Everything is written when the stream takes it. Each call takes at least one byte and no more
than are left, or the save fails. -/
theorem writeExact_iff (enough : bytes.length < passes) :
    writeExact stream passes bytes state = some (true, last) ↔
      Writes stream state bytes last := by
  constructor
  · intro written
    have rule := @whileLoop_rule _ _ (writePass stream bytes)
      (fun current outcome => outcome.1 = true →
        Writes stream current.2 (bytes.drop current.1) outcome.2) ?_ ?_ _ _ _ written rfl
    · exact rule
    · rintro ⟨position, current⟩ result step accepted
      rcases Nat.lt_or_ge position bytes.length with more | full
      · rw [writePass_call more rfl] at step
        split_ifs at step
        obtain rfl := Sum.inr.inj step
        exact absurd accepted Bool.false_ne_true
      · rw [writePass_done full] at step
        obtain rfl := Sum.inr.inj step
        rw [List.drop_of_length_le full]
        exact .done current
    · rintro ⟨position, current⟩ next result step later accepted
      rcases Nat.lt_or_ge position bytes.length with more | full
      · rw [writePass_call more rfl] at step
        split_ifs at step with progressed
        obtain rfl := Sum.inl.inj step
        have rest := later accepted
        rw [← List.drop_drop] at rest
        refine .call (List.drop_eq_nil_iff.not.mpr (Nat.not_le.mpr more)) rfl ?_ rest
        rwa [List.length_drop]
      · rw [writePass_done full] at step
        cases step
  · intro writes
    have walk : ∀ (remaining : List Byte) (state last : State), Writes stream state remaining last →
        ∀ position passes, bytes.drop position = remaining → remaining.length < passes →
          whileLoop (writePass stream bytes) passes (position, state) = some (true, last) := by
      intro remaining state last writes
      induction writes with
      | done state =>
          intro position passes same enough
          obtain ⟨passes, rfl⟩ := Nat.exists_eq_succ_of_ne_zero (Nat.ne_of_gt enough)
          exact whileLoop_leave (writePass_done (List.drop_eq_nil_iff.mp same)) passes
      | @call state next last remaining reply more answers progressed later ih =>
          intro position passes same enough
          obtain ⟨passes, rfl⟩ := Nat.exists_eq_succ_of_ne_zero (Nat.ne_of_gt (by omega : 0 < passes))
          subst same
          have more := Nat.not_le.mp (List.drop_eq_nil_iff.not.mp more)
          have within := StreamReply.count_of_progressed progressed
          rw [List.length_drop] at progressed within enough
          have step := writePass_call more answers
          rw [if_pos progressed] at step
          rw [whileLoop_next step]
          refine ih _ _ List.drop_drop.symm ?_
          rw [List.length_drop, List.length_drop]
          omega
    exact walk bytes state last writes 0 passes rfl enough

/-- What the bytes of a loop that reads are made of, before a pass and at its end. -/
def Delivers (stream : IBStream State) (size : ℕ) (current : List Byte × State)
    (bytes : List Byte) (last : State) : Prop :=
  ∃ rest, bytes = current.1 ++ rest ∧ Reads stream current.2 (size - current.1.length) rest last

/-- Progress before what a loop delivers is delivered too. -/
theorem Delivers.call {current : List Byte} {next : State} {reply : StreamReply}
    (answers : stream.read state (size - current.length) = (reply, next))
    (progressed : reply.progressed (size - current.length) = true)
    (delivers : Delivers stream size (current ++ reply.bytes, next) bytes last) :
    Delivers stream size (current, state) bytes last := by
  obtain ⟨rest, same, reads⟩ := delivers
  rw [List.length_append, StreamReply.length_bytes, Nat.sub_add_eq] at reads
  exact ⟨reply.bytes ++ rest, same.trans (List.append_assoc ..), .call answers progressed reads⟩

/-- A full read is accepted when the stream serves it. Each call gives at least one byte and no
more than are asked for, or the read fails. -/
theorem readExact_iff (enough : size < passes) :
    readExact stream passes size state = some (some bytes, last) ↔
      Reads stream state size bytes last ∧ bytes.length = size := by
  constructor
  · intro delivered
    have rule := @whileLoop_rule _ _ (readPass stream size)
      (fun current outcome => ∀ bytes, outcome.1 = some bytes →
        size ≤ bytes.length ∧ Delivers stream size current bytes outcome.2)
      ?_ ?_ _ _ _ delivered bytes rfl
    · obtain ⟨long, rest, rfl, reads⟩ := rule
      exact ⟨reads, reads.length_le.antisymm long⟩
    · rintro ⟨current, state⟩ result step bytes accepted
      rcases Nat.lt_or_ge current.length size with more | full
      · rw [readPass_call more rfl] at step
        split_ifs at step
        obtain rfl := Sum.inr.inj step
        cases accepted
      · rw [readPass_done full] at step
        obtain rfl := Sum.inr.inj step
        obtain rfl := Option.some.inj accepted
        exact ⟨full, [], (List.append_nil _).symm, .done _ _⟩
    · rintro ⟨current, state⟩ next result step later bytes accepted
      rcases Nat.lt_or_ge current.length size with more | full
      · rw [readPass_call more rfl] at step
        split_ifs at step with progressed
        obtain rfl := Sum.inl.inj step
        obtain ⟨long, delivers⟩ := later bytes accepted
        exact ⟨long, delivers.call rfl progressed⟩
      · rw [readPass_done full] at step
        cases step
  · rintro ⟨reads, long⟩
    have walk : ∀ (state : State) (remaining : ℕ) (rest : List Byte) (last : State),
        Reads stream state remaining rest last → ∀ current passes, rest.length = remaining →
          current.length + remaining = size → remaining < passes →
            whileLoop (readPass stream size) passes (current, state) =
              some (some (current ++ rest), last) := by
      intro state remaining rest last reads
      induction reads with
      | done state remaining =>
          intro current passes none whole enough
          obtain ⟨passes, rfl⟩ := Nat.exists_eq_succ_of_ne_zero (Nat.ne_of_gt (by omega : 0 < passes))
          rw [List.append_nil]
          rw [List.length_nil] at none
          exact whileLoop_leave (readPass_done (by omega)) passes
      | @call state next last remaining reply rest answers progressed later ih =>
          intro current passes full whole enough
          obtain ⟨passes, rfl⟩ := Nat.exists_eq_succ_of_ne_zero (Nat.ne_of_gt (by omega : 0 < passes))
          have within := StreamReply.count_of_progressed progressed
          obtain rfl : remaining = size - current.length := by omega
          have step := readPass_call (by omega) answers
          rw [if_pos progressed] at step
          rw [List.length_append, StreamReply.length_bytes] at full
          rw [whileLoop_next step, ← List.append_assoc]
          refine ih _ _ (by omega) ?_ (by omega)
          rw [List.length_append, StreamReply.length_bytes]
          omega
    exact walk state size bytes last reads [] passes long (Nat.zero_add _) enough

/-- A bounded read is accepted when the stream serves it and then is at its end. The loop asks for
one byte more than there may be, to see that the stream has ended. -/
theorem readBoundedToEof_iff (enough : capacity < passes) :
    readBoundedToEof stream passes capacity state = some (some bytes, last) ↔
      ∃ middle, Reads stream state capacity bytes middle ∧
        EndsAt stream middle (max 1 (capacity - bytes.length)) last := by
  have ends : ∀ (current : List Byte) (reply : StreamReply) (bytes : List Byte),
      (if resultOk reply.result && decide (reply.count = 0) then some current else none) =
        some bytes → bytes = current ∧ resultOk reply.result = true ∧ reply.count = 0 := by
    intro current reply bytes accepted
    rw [Option.ite_none_right_eq_some, Bool.and_eq_true, decide_eq_true_eq] at accepted
    exact ⟨(Option.some.inj accepted.2).symm, accepted.1⟩
  constructor
  · intro delivered
    have rule := @whileLoop_rule _ _ (readToEofPass stream capacity)
      (fun current outcome => ∀ bytes, outcome.1 = some bytes →
        ∃ middle, Delivers stream capacity current bytes middle ∧
          EndsAt stream middle (max 1 (capacity - bytes.length)) outcome.2)
      ?_ ?_ _ _ _ delivered bytes rfl
    · obtain ⟨middle, ⟨rest, rfl, reads⟩, atEnd⟩ := rule
      exact ⟨middle, reads, atEnd⟩
    · rintro ⟨current, state⟩ result step bytes accepted
      rcases Nat.lt_or_ge current.length capacity with more | full
      · rw [readToEofPass_call more rfl] at step
        split at step
        · cases step
        obtain rfl := Sum.inr.inj step
        obtain ⟨rfl, succeeded, zero⟩ := ends _ _ bytes accepted
        refine ⟨state, ⟨[], (List.append_nil _).symm, .done _ _⟩, _, ?_, succeeded, zero⟩
        rw [max_eq_right (by omega)]
      · rw [readToEofPass_full full rfl] at step
        obtain rfl := Sum.inr.inj step
        obtain ⟨rfl, succeeded, zero⟩ := ends _ _ bytes accepted
        refine ⟨state, ⟨[], (List.append_nil _).symm, .done _ _⟩, _, ?_, succeeded, zero⟩
        rw [max_eq_left (by omega)]
    · rintro ⟨current, state⟩ next result step later bytes accepted
      rcases Nat.lt_or_ge current.length capacity with more | full
      · rw [readToEofPass_call more rfl] at step
        split_ifs at step with progressed
        obtain rfl := Sum.inl.inj step
        obtain ⟨middle, delivers, atEnd⟩ := later bytes accepted
        exact ⟨middle, delivers.call rfl progressed, atEnd⟩
      · rw [readToEofPass_full full rfl] at step
        cases step
  · rintro ⟨middle, reads, atEnd⟩
    have walk : ∀ (state : State) (remaining : ℕ) (rest : List Byte) (middle : State),
        Reads stream state remaining rest middle → ∀ current passes,
          EndsAt stream middle (max 1 (capacity - (current ++ rest).length)) last →
            current.length + remaining = capacity → remaining < passes →
              whileLoop (readToEofPass stream capacity) passes (current, state) =
                some (some (current ++ rest), last) := by
      intro state remaining rest middle reads
      induction reads with
      | done state remaining =>
          rintro current passes ⟨reply, answers, succeeded, zero⟩ whole enough
          obtain ⟨passes, rfl⟩ := Nat.exists_eq_succ_of_ne_zero (Nat.ne_of_gt (by omega : 0 < passes))
          rw [List.append_nil] at answers ⊢
          refine whileLoop_leave ?_ passes
          rcases Nat.lt_or_ge current.length capacity with more | full
          · rw [max_eq_right (by omega)] at answers
            rw [readToEofPass_call more answers]
            simp [StreamReply.progressed, succeeded, zero]
          · rw [max_eq_left (by omega)] at answers
            rw [readToEofPass_full full answers]
            simp [succeeded, zero]
      | @call state next last remaining reply rest answers progressed later ih =>
          intro current passes atEnd whole enough
          obtain ⟨passes, rfl⟩ := Nat.exists_eq_succ_of_ne_zero (Nat.ne_of_gt (by omega : 0 < passes))
          have within := StreamReply.count_of_progressed progressed
          obtain rfl : remaining = capacity - current.length := by omega
          have step := readToEofPass_call (by omega) answers
          rw [if_pos progressed] at step
          rw [← List.append_assoc] at atEnd
          rw [whileLoop_next step, ← List.append_assoc]
          refine ih _ _ atEnd ?_ (by omega)
          rw [List.length_append, StreamReply.length_bytes]
          omega
    exact walk state capacity bytes middle reads [] passes atEnd (Nat.zero_add _) enough

end Loops

end M3Midi
