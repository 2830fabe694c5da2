import M3Midi.Component.RequestRegister
import M3Midi.Foundation.SerialNumber

/-! # What the callers of the configuration request see

Along every run the request behaves as one register (`RequestSystem.run_one_register`):
snapshots return whole published requests and never older ones than before, and a publish
that is refused has stored nothing.
-/

namespace M3Midi

open Foundation Foundation.SerialNumber

/-- The request that a return speaks of is such a one. -/
def RequestReturn.Speaks (condition : StorableRequest → Prop) : RequestReturn → Prop
  | .published request _ => condition request
  | .snapshot _ => True

namespace RequestProgram

variable {condition : StorableRequest → Prop}

/-- A call returns only what speaks of the request it was given. -/
theorem program_returns (call : RequestCall)
    (given : ∀ request, call = .publish request → condition request) :
    call.program.Returns (·.Speaks condition) := by
  cases call with
  | publish request => exact Program.returns_bind _ fun _ => given request rfl
  | snapshot maximumAttempts => exact Program.returns_bind _ fun _ => trivial

end RequestProgram

section Register

variable {Thread : Type} {initial current final : StorableRequest}
  {log early late : List (Thread × RequestReturn)} {thread : Thread}
  {item : Thread × RequestReturn} {base : Generation}

/-- A register that goes through two parts of a log has a request in between. -/
theorem registerAfter_split (replayed : registerAfter initial (early ++ late) = some final) :
    ∃ current, registerAfter initial early = some current ∧
      registerAfter current late = some final := by
  cases before : registerAfter initial early with
  | none =>
      unfold registerAfter at replayed before
      rw [List.foldlM_append, before] at replayed
      exact absurd replayed (by simp)
  | some current =>
      rw [registerAfter_append late before] at replayed
      exact ⟨current, rfl, replayed⟩

/-- What a log leads to begins with what its first return leads to. -/
theorem registerAfter_cons (replayed : registerAfter initial (item :: late) = some final) :
    ∃ current, initial.after item.2 = some current ∧
      registerAfter current late = some final := by
  unfold registerAfter at replayed
  rw [List.foldlM_cons] at replayed
  exact Option.bind_eq_some_iff.mp replayed

/-- The register leaves a return either as it was or, after an accepted publish, newer. -/
theorem StorableRequest.after_cases {outcome : RequestReturn}
    (goes : initial.after outcome = some current) :
    current = initial ∨ outcome = .published current true ∧
      generationNewer current.generation initial.generation = true := by
  cases outcome with
  | published request accepted =>
      cases accepted with
      | false => exact .inl (Option.some.inj goes).symm
      | true =>
          simp only [StorableRequest.after] at goes
          split_ifs at goes with newer
          obtain rfl := Option.some.inj goes
          exact .inr ⟨rfl, newer⟩
  | snapshot outcome =>
      cases outcome with
      | none => exact .inl (Option.some.inj goes).symm
      | some request =>
          simp only [StorableRequest.after] at goes
          split_ifs at goes
          exact .inl (Option.some.inj goes).symm

/-- A successful snapshot returns the register's request. -/
theorem StorableRequest.after_snapshot {request : ConfigRequestSnapshot}
    (goes : initial.after (.snapshot (some request)) = some current) :
    request = initial.toConfigRequestSnapshot ∧ current = initial := by
  simp only [StorableRequest.after] at goes
  split_ifs at goes with same
  exact ⟨same, (Option.some.inj goes).symm⟩

/-- The register holds its first request or one of an accepted publish. -/
theorem registerAfter_source (replayed : registerAfter initial log = some final) :
    final = initial ∨ ∃ writer, (writer, .published final true) ∈ log := by
  induction log generalizing initial with
  | nil => exact .inl (Option.some.inj replayed).symm
  | cons item rest ih =>
      obtain ⟨current, goes, later⟩ := registerAfter_cons replayed
      rcases ih later with rfl | ⟨writer, member⟩
      · rcases StorableRequest.after_cases goes with same | ⟨published, -⟩
        · exact .inl same
        · exact .inr ⟨item.1, List.mem_cons.mpr (.inl (Prod.ext rfl published.symm))⟩
      · exact .inr ⟨writer, List.mem_cons_of_mem item member⟩

/-- Within a window of generations, the register never goes back. -/
theorem registerAfter_distance (window : InWindow base initial.generation)
    (speaks : ∀ item ∈ log, item.2.Speaks fun request => InWindow base request.generation)
    (replayed : registerAfter initial log = some final) :
    InWindow base final.generation ∧
      distance base initial.generation ≤ distance base final.generation := by
  induction log generalizing initial with
  | nil =>
      obtain rfl := Option.some.inj replayed
      exact ⟨window, le_rfl⟩
  | cons item rest ih =>
      obtain ⟨here, speaks⟩ := List.forall_mem_cons.mp speaks
      obtain ⟨current, goes, later⟩ := registerAfter_cons replayed
      rcases StorableRequest.after_cases goes with rfl | ⟨published, newer⟩
      · exact ih window speaks later
      · rw [published] at here
        obtain ⟨inside, farther⟩ := ih here speaks later
        have ahead := (newer_iff (by decide) here window).mp newer
        exact ⟨inside, ahead.le.trans farther⟩

end Register

namespace RequestSystem

variable {Thread : Type} [DecidableEq Thread] {initial : StorableRequest}
  {system : RequestSystem Thread} {thread : Thread}

section Speaks

variable {condition : StorableRequest → Prop}

omit [DecidableEq Thread] in
/-- What a program returns speaks of requests with the condition. -/
theorem returns_speaks {program : RequestProgram RequestReturn}
    (speaks : program.Returns (·.Speaks condition)) :
    ∀ item ∈ returns thread program, item.2.Speaks condition := by
  cases program with
  | done outcome => exact fun item member => List.mem_singleton.mp member ▸ speaks
  | act action rest => exact fun item member => absurd member List.not_mem_nil

/-- A thread goes on with a program that speaks of such requests only. -/
theorem proceed_speaks (speaks : ∀ other, (system.programs other).Returns (·.Speaks condition))
    (memory : RequestMemory) {program : RequestProgram RequestReturn}
    (goes : program.Returns (·.Speaks condition)) :
    (∀ other, ((system.proceed thread memory program).1.programs other).Returns
      (·.Speaks condition)) ∧
      ∀ item ∈ (system.proceed thread memory program).2, item.2.Speaks condition := by
  refine ⟨fun other => ?_, returns_speaks goes⟩
  unfold proceed
  by_cases here : other = thread
  · subst here
    simpa only [Function.update_self] using goes
  · simpa only [Function.update_of_ne here] using speaks other

/-- A step returns only what speaks of such requests, if only such ones are published. -/
theorem step_speaks (speaks : ∀ other, (system.programs other).Returns (·.Speaks condition))
    (event : RequestEvent Thread)
    (given : ∀ thread request, event = .call thread (.publish request) → condition request) :
    (∀ other, ((system.step event).1.programs other).Returns (·.Speaks condition)) ∧
      ∀ item ∈ (system.step event).2, item.2.Speaks condition := by
  have silent : ∀ item ∈ ([] : List (Thread × RequestReturn)), item.2.Speaks condition :=
    fun _ member => absurd member List.not_mem_nil
  cases event with
  | call thread call =>
      cases program : system.programs thread with
      | done outcome =>
          rw [step_call_done program]
          exact proceed_speaks speaks _ (RequestProgram.program_returns call
            fun request publishes => given thread request (publishes ▸ rfl))
      | act action rest =>
          rw [step_call_act program]
          exact ⟨speaks, silent⟩
  | step thread =>
      cases program : system.programs thread with
      | done outcome =>
          rw [step_done program]
          exact ⟨speaks, silent⟩
      | act action rest =>
          rw [step_act program]
          have goes := speaks thread
          rw [program] at goes
          exact proceed_speaks speaks _ (goes _)

/-- All returns of a run speak of requests that were given to its calls. -/
theorem run_speaks (initial : StorableRequest) (events : List (RequestEvent Thread))
    (given : ∀ thread request, .call thread (.publish request) ∈ events → condition request) :
    (∀ other, ((machine.run (start initial) events).1.programs other).Returns
      (·.Speaks condition)) ∧
      ∀ item ∈ (machine.run (start initial) events).2, item.2.Speaks condition := by
  induction events using List.reverseRecOn with
  | nil => exact ⟨fun _ => trivial, fun _ member => absurd member List.not_mem_nil⟩
  | append_singleton events event ih =>
      obtain ⟨programs, log⟩ := ih fun thread request member =>
        given thread request (List.mem_append_left _ member)
      obtain ⟨next, more⟩ := step_speaks programs event fun thread request publishes =>
        given thread request (publishes ▸ List.mem_append_right _ (List.mem_singleton_self event))
      rw [machine.run_concat]
      exact ⟨next, fun item member => (List.mem_append.mp member).elim (log item) (more item)⟩

end Speaks

/-- A view that accepts after an action is one that has stored everything. -/
theorem storing_of_advance {view : RequestView} {action : RequestAction} {answer : action.Answer}
    {request : StorableRequest} (allowed : view.allows action)
    (accepts : view.advance action answer = .accepted request) :
    ∃ sequence stored, view = .storing request sequence stored ∧
      action = .storeSequence (sequence + 2) ∧ ∀ register, register ∈ stored := by
  cases view with
  | storing other sequence stored =>
      cases action with
      | storeSequence word =>
          obtain rfl := RequestView.accepted.inj accepts
          exact ⟨sequence, stored, rfl, congrArg _ allowed.1, allowed.2⟩
      | store register word => exact RequestView.noConfusion accepts
      | _ => exact absurd allowed id
  | calling other =>
      cases action with
      | loadSequence =>
          change (bif _ then _ else _) = _ at accepts
          cases odd : SequenceLock.odd answer <;> rw [odd] at accepts <;>
            exact RequestView.noConfusion accepts
      | _ => exact absurd allowed id
  | sequenced other sequence =>
      cases action with
      | exchangeSequence expected desired =>
          cases answer <;> exact RequestView.noConfusion accepts
      | _ => exact absurd allowed id
  | locked other sequence =>
      cases action with
      | load register =>
          change (bif _ then _ else _) = _ at accepts
          cases newer : generationNewer other.generation answer <;> rw [newer] at accepts <;>
            exact RequestView.noConfusion accepts
      | _ => exact absurd allowed id
  | refused other sequence =>
      cases action with
      | storeSequence word => exact RequestView.noConfusion accepts
      | _ => exact absurd allowed id
  | reading =>
      cases action with
      | loadSequence =>
          change (bif _ then _ else _) = _ at accepts
          cases odd : SequenceLock.odd answer <;> rw [odd] at accepts <;>
            exact RequestView.noConfusion accepts
      | _ => exact absurd allowed id
  | copying sequence copied copy =>
      cases action with
      | load register => exact RequestView.noConfusion accepts
      | loadSequence =>
          change RequestView.afterCopy copy sequence answer = _ at accepts
          unfold RequestView.afterCopy at accepts
          split_ifs at accepts
      | _ => exact absurd allowed id
  | rejected | accepted | matched => exact absurd allowed (by cases action <;> exact id)

/-- The call stores its request, or has stored it. -/
def Storing (request : StorableRequest) (view : RequestView) : Prop :=
  (∃ sequence stored, view = .storing request sequence stored) ∨ view = .accepted request

/-- A call that stores will be accepted, whatever happens. -/
theorem storing_returns {request : StorableRequest} {sequence : RequestWord}
    {stored : List RequestRegister} {program : RequestProgram RequestReturn}
    (follows : RequestView.protocol.Follows RequestView.fits
      (.storing request sequence stored) program) :
    program.Returns (· = .published request true) := by
  have starts : Storing request (.storing request sequence stored) := .inl ⟨sequence, stored, rfl⟩
  refine Program.returns_of_follows ?_ ?_ starts follows
  · rintro view action answer (⟨sequence, stored, rfl⟩ | rfl) allowed
    · cases action with
      | store register word => exact .inl ⟨sequence, stored ++ [register], rfl⟩
      | storeSequence word => exact .inr rfl
      | _ => exact absurd allowed id
    · exact absurd allowed (by cases action <;> exact id)
  · intro view outcome storing fit
    cases outcome with
    | published other accepted =>
        cases accepted with
        | false =>
            obtain rfl : view = .rejected other := fit
            obtain ⟨_, _, contrary⟩ | contrary := storing <;> cases contrary
        | true =>
            obtain rfl : view = .accepted other := fit
            obtain ⟨_, _, contrary⟩ | same := storing
            · cases contrary
            · rw [RequestView.accepted.inj same]
    | snapshot outcome =>
        cases outcome with
        | none =>
            obtain rfl : view = .reading := fit
            obtain ⟨_, _, contrary⟩ | contrary := storing <;> cases contrary
        | some found =>
            obtain ⟨copy, rfl, -⟩ := fit
            obtain ⟨_, _, contrary⟩ | contrary := storing <;> cases contrary

section Steps

variable {log : List (Thread × RequestReturn)} {calls : Nat} {views : Thread → RequestView}
  {lock : SequenceLock RequestRegister RequestWord} {holder : Option Thread}
  {current : StorableRequest}

/-- A step that changes a register belongs to a publish that will be accepted. All other steps
load, or move the sequence only. -/
theorem changes_of_step (coherent : Coherent initial log calls system views lock holder current)
    {event : RequestEvent Thread}
    (changes : (system.step event).1.memory.registers ≠ system.memory.registers) :
    ∃ thread request, event = .step thread ∧
      (system.programs thread).Returns (· = .published request true) := by
  cases event with
  | call thread call =>
      refine absurd ?_ changes
      cases program : system.programs thread with
      | done outcome => rw [step_call_done program]; rfl
      | act action rest => rw [step_call_act program]
  | step thread =>
      cases program : system.programs thread with
      | done outcome =>
          rw [step_done program] at changes
          exact absurd rfl changes
      | act action rest =>
          rw [step_act program] at changes
          have follows := coherent.follows thread
          rw [program] at follows
          cases action with
          | store register word =>
              have allowed := follows.1
              cases view : views thread with
              | storing request sequence stored =>
                  rw [view] at follows
                  exact ⟨thread, request, rfl, program ▸ storing_returns follows⟩
              | _ =>
                  rw [view] at allowed
                  exact absurd allowed id
          | exchangeSequence expected desired =>
              refine absurd ?_ changes
              change (system.memory.apply (.exchangeSequence expected desired)).2.registers = _
              simp only [RequestMemory.apply]
              split_ifs <;> rfl
          | _ => exact absurd rfl changes

/-- When a publish is accepted, its request is what the registers hold. -/
theorem installed_of_step (coherent : Coherent initial log calls system views lock holder current)
    {event : RequestEvent Thread} {request : StorableRequest}
    (accepted : (thread, .published request true) ∈ (system.step event).2) :
    SequenceLock.odd (system.step event).1.memory.sequence = false ∧
      (system.step event).1.memory.registers = request.words := by
  have item : ∀ {view : RequestView} {other : Thread} {program : RequestProgram RequestReturn},
      RequestView.protocol.Follows RequestView.fits view program →
      (thread, RequestReturn.published request true) ∈ returns other program →
      view = .accepted request := by
    intro view other program follows member
    cases program with
    | done outcome =>
        obtain ⟨-, rfl⟩ := Prod.mk.inj (List.mem_singleton.mp member)
        exact follows
    | act action rest => exact absurd member List.not_mem_nil
  cases event with
  | call other call =>
      cases program : system.programs other with
      | done outcome =>
          rw [step_call_done program] at accepted
          have contrary := item (RequestProgram.program_follows call) accepted
          cases call <;> cases contrary
      | act action rest =>
          rw [step_call_act program] at accepted
          exact absurd accepted List.not_mem_nil
  | step other =>
      cases program : system.programs other with
      | done outcome =>
          rw [step_done program] at accepted
          exact absurd accepted List.not_mem_nil
      | act action rest =>
          rw [step_act program] at accepted ⊢
          have follows := coherent.follows other
          have knows := coherent.knows other
          rw [program] at follows
          obtain ⟨sequence, stored, view, rfl, all⟩ :=
            storing_of_advance follows.1 (item (follows.2 _) accepted)
          rw [view] at knows
          obtain ⟨number, -, words⟩ := knows
          have held : lock.held = true := coherent.held_of_holds (by rw [view]; rfl)
          have released : sequence + 2 = (lock.release request.words).number 64 := by
            rw [SequenceLock.number_release held, ← coherent.number, ← number]
            exact (BitVec.add_assoc sequence 1 1).symm
          refine ⟨?_, funext fun register => words register (all register)⟩
          change SequenceLock.odd (sequence + 2) = false
          rw [released, SequenceLock.odd_number (by decide)]
          rfl

end Steps

/-- Along every run, every snapshot is a request whose publish was accepted before, or the
first one; no later snapshot is older; an accepted publish has put its request into the
registers, nothing but the calls that will be accepted changes them, and whenever the
sequence number is even they hold the request that was accepted last. -/
theorem run_one_register (initial : StorableRequest) (events : List (RequestEvent Thread))
    (base : Generation) (few : events.countP RequestEvent.publishes < 2 ^ 63)
    (first : InWindow base initial.generation)
    (window : ∀ thread request, .call thread (.publish request) ∈ events →
      InWindow base request.generation) :
    let system := (machine.run (start initial) events).1
    let log := (machine.run (start initial) events).2
    (∀ early reader request late, log = early ++ (reader, .snapshot (some request)) :: late →
      request = initial.toConfigRequestSnapshot ∨ ∃ writer published,
        (writer, .published published true) ∈ early ∧
          request = published.toConfigRequestSnapshot) ∧
    (∀ early reader older middle other newer late,
      log = early ++ (reader, .snapshot (some older)) :: middle ++
        (other, .snapshot (some newer)) :: late →
      generationNewer older.generation newer.generation = false) ∧
    (∀ event thread request,
      (thread, .published request true) ∈ (system.step event).2 →
      SequenceLock.odd (system.step event).1.memory.sequence = false ∧
        (system.step event).1.memory.registers = request.words) ∧
    (∀ event, (system.step event).1.memory.registers ≠ system.memory.registers →
      ∃ thread request, event = .step thread ∧
        (system.programs thread).Returns (· = .published request true)) ∧
    ∃ current, registerAfter initial log = some current ∧
      (SequenceLock.odd system.memory.sequence = false →
        requestOfWords system.memory.registers = current.toConfigRequestSnapshot) := by
  obtain ⟨views, lock, holder, current, coherent⟩ := Coherent.run initial events few
  obtain ⟨-, speaks⟩ := run_speaks initial events window
  have replayed := coherent.replayed
  dsimp only
  generalize (machine.run (start initial) events).2 = log at *
  refine ⟨?_, ?_, fun event thread request => installed_of_step coherent,
    fun event => changes_of_step coherent, current, replayed, fun even => ?_⟩
  · rintro early reader request late rfl
    obtain ⟨found, before, rest⟩ := registerAfter_split replayed
    obtain ⟨next, goes, -⟩ := registerAfter_cons rest
    obtain ⟨rfl, -⟩ := StorableRequest.after_snapshot goes
    rcases registerAfter_source before with rfl | ⟨writer, member⟩
    · exact .inl rfl
    · exact .inr ⟨writer, found, member, rfl⟩
  · rintro early reader older middle other newer late rfl
    obtain ⟨last, before, rest⟩ := registerAfter_split replayed
    obtain ⟨found, start, rest'⟩ := registerAfter_split before
    obtain ⟨same, goes, middle'⟩ := registerAfter_cons rest'
    obtain ⟨rfl, rfl⟩ := StorableRequest.after_snapshot goes
    obtain ⟨next, goes, -⟩ := registerAfter_cons rest
    obtain ⟨rfl, -⟩ := StorableRequest.after_snapshot goes
    obtain ⟨inside, -⟩ := registerAfter_distance first
      (fun item member => speaks item (by simp [member])) start
    obtain ⟨later, farther⟩ := registerAfter_distance inside
      (fun item member => speaks item (by simp [member])) middle'
    refine Bool.eq_false_iff.mpr fun contrary => ?_
    have ahead := (newer_iff (by decide) inside later).mp contrary
    omega
  · have free : lock.held = false := by
      rw [← SequenceLock.odd_number (show 0 < 64 by decide) lock, ← coherent.number]
      exact even
    rw [coherent.free free, coherent.contents]
    exact requestOfWords_words current

/-- The default configuration under a generation. -/
def defaultRequest (generation : Generation) : StorableRequest where
  config := {}
  generation := generation
  storable := by decide +kernel

/-- One thread reads while another publishes, and reads again when that is over. -/
def readAcrossPublish : List (RequestEvent Bool) :=
  [.call false (.snapshot 2), .step false, .step false, .call true (.publish (defaultRequest 5))] ++
    List.replicate 19 (.step true) ++ List.replicate 40 (.step false)

/-- There the reader's second attempt finds what was published. -/
theorem run_one_register_across :
    let log := (machine.run (start (defaultRequest 0)) readAcrossPublish).2
    (log.map fun item => (item.1, item.2 matches .snapshot (some _))) =
        [(true, false), (false, true)] ∧
      ∃ current, registerAfter (defaultRequest 0) log = some current ∧
        current.generation = 5 := by
  have few : readAcrossPublish.countP RequestEvent.publishes < 2 ^ 63 := by decide
  have window : ∀ thread request, .call thread (.publish request) ∈ readAcrossPublish →
      InWindow 0 request.generation := by
    intro thread request member
    obtain ⟨-, rfl⟩ : true = thread ∧ defaultRequest 5 = request := by
      simpa [readAcrossPublish, List.mem_replicate, eq_comm] using member
    decide
  obtain ⟨-, -, -, -, current, replayed, shown⟩ := run_one_register (defaultRequest 0)
    readAcrossPublish 0 few (by decide) window
  refine ⟨by decide +kernel, current, replayed, ?_⟩
  rw [← shown (by decide +kernel)]
  decide +kernel

end RequestSystem

end M3Midi
