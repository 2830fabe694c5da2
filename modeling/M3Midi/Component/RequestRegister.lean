import M3Midi.Component.ConfigRequest
import M3Midi.Foundation.RelyGuarantee
import Mathlib.Data.Finset.Card

/-! # The configuration request is one register

The returns of all calls, in order, are those of a register that is read and written at
once: a snapshot returns the request that was published last, and a publish that is
accepted replaces it by a newer one. A publisher that holds the sequence number stores
fields only when it will be accepted.
-/

namespace M3Midi

open Foundation Foundation.SerialNumber

/-- What a thread knows of the call it runs. It follows from the accesses that the thread has made
and from their answers. -/
inductive RequestView
  | calling (request : StorableRequest)
  | sequenced (request : StorableRequest) (sequence : RequestWord)
  | locked (request : StorableRequest) (sequence : RequestWord)
  | refused (request : StorableRequest) (sequence : RequestWord)
  | storing (request : StorableRequest) (sequence : RequestWord) (stored : List RequestRegister)
  | rejected (request : StorableRequest)
  | accepted (request : StorableRequest)
  | reading
  | copying (sequence : RequestWord) (copied : List RequestRegister)
      (copy : RequestRegister → RequestWord)
  | matched (copy : RequestRegister → RequestWord)

namespace RequestView

/-- What a thread may do at its point of a call. -/
def allows : RequestView → RequestAction → Prop
  | calling _, .loadSequence => True
  | sequenced _ sequence, .exchangeSequence expected desired =>
      expected = sequence ∧ desired = sequence + 1
  | locked _ _, .load register => register = .generation
  | refused _ sequence, .storeSequence word => word = sequence + 2
  | storing request _ _, .store register word => word = request.words register
  | storing _ sequence stored, .storeSequence word =>
      word = sequence + 2 ∧ ∀ register, register ∈ stored
  | reading, .loadSequence => True
  | copying _ _ _, .load _ => True
  | copying _ copied _, .loadSequence => ∀ register, register ∈ copied
  | _, _ => False

/-- A copy is good when the sequence number is even and the same as before. -/
def afterCopy (copy : RequestRegister → RequestWord) (before after : RequestWord) : RequestView :=
  if before = after ∧ SequenceLock.odd after = false then matched copy else reading

/-- Where the thread is after the answer. -/
def advance : RequestView → (action : RequestAction) → action.Answer → RequestView
  | calling request, .loadSequence, sequence =>
      bif SequenceLock.odd sequence then rejected request else sequenced request sequence
  | sequenced request sequence, .exchangeSequence _ _, exchanged =>
      bif exchanged then locked request sequence else rejected request
  | locked request sequence, .load _, generation =>
      bif generationNewer request.generation generation then storing request sequence []
      else refused request sequence
  | refused request _, .storeSequence _, _ => rejected request
  | storing request sequence stored, .store register _, _ =>
      storing request sequence (stored ++ [register])
  | storing request _ _, .storeSequence _, _ => accepted request
  | reading, .loadSequence, sequence =>
      bif SequenceLock.odd sequence then reading else copying sequence [] fun _ => 0
  | copying sequence copied copy, .load register, word =>
      copying sequence (copied ++ [register]) (Function.update copy register word)
  | copying sequence _ copy, .loadSequence, after => afterCopy copy sequence after
  | view, _, _ => view

/-- What a call returns in the view it returns in. -/
def fits (view : RequestView) : RequestReturn → Prop
  | .published request false => view = rejected request
  | .published request true => view = accepted request
  | .snapshot none => view = reading
  | .snapshot (some request) => ∃ copy, view = matched copy ∧ request = requestOfWords copy

/-- A publisher stores fields only under the sequence number it has made odd. -/
def protocol : Protocol RequestAction RequestAction.Answer RequestView where
  allows := allows
  advance := advance

/-- The thread holds the sequence number. -/
def holds : RequestView → Bool
  | locked _ _ | refused _ _ | storing _ _ _ => true
  | _ => false

/-- The thread may still come to hold the sequence number in this call. -/
def attempts : RequestView → Bool
  | calling _ | sequenced _ _ => true
  | _ => false

end RequestView

namespace RequestProgram

open RequestView

/-- Every field has its register. -/
theorem mem_fieldRegisters (field : PersistentField) : .field field ∈ fieldRegisters := by
  cases field <;> decide

/-- The stores of a list go on from the registers that have been stored. -/
theorem storeFields_follows (request : StorableRequest) (sequence : RequestWord)
    (registers stored : List RequestRegister) :
    protocol.Follows (fun view _ => view = storing request sequence (stored ++ registers))
      (storing request sequence stored) (storeFields request.words registers) := by
  induction registers generalizing stored with
  | nil => exact congrArg _ (List.append_nil stored).symm
  | cons register rest ih =>
      refine Protocol.follows_perform_bind _ rfl fun _ => ?_
      have goes := ih (stored ++ [register])
      rw [List.append_assoc, List.singleton_append] at goes
      exact goes

/-- The fields are copied register by register, under the sequence that was read before. -/
theorem loadFields_follows (sequence : RequestWord) (registers copied : List RequestRegister)
    (copy : RequestRegister → RequestWord) :
    protocol.Follows (fun view words => view = copying sequence (copied ++ registers) words)
      (copying sequence copied copy) (loadFields registers copy) := by
  induction registers generalizing copied copy with
  | nil =>
      rw [List.append_nil]
      exact rfl
  | cons register rest ih =>
      refine Protocol.follows_perform_bind _ trivial fun (word : RequestWord) => ?_
      have goes := ih (copied ++ [register]) (Function.update copy register word)
      rw [List.append_assoc, List.singleton_append] at goes
      exact goes

/-- A publication follows the protocol of the register. It takes the lock, looks at the generation,
stores the fields in their order or not at all, and gives the lock back. -/
theorem publish_follows (request : StorableRequest) :
    protocol.Follows fits (calling request) (RequestCall.publish request).program := by
  have accepts : protocol.Follows
      (fun view outcome => view = bif outcome then accepted request else rejected request)
      (calling request) (publish request.toConfigRequestSnapshot) := by
    refine Protocol.follows_perform_bind _ trivial fun (sequence : RequestWord) => ?_
    change protocol.Follows _ (bif SequenceLock.odd sequence then rejected request
      else sequenced request sequence) (if SequenceLock.odd sequence = true then _ else _)
    cases SequenceLock.odd sequence with
    | true => exact rfl
    | false =>
        refine Protocol.follows_perform_bind _ ⟨rfl, rfl⟩ fun (exchanged : Bool) => ?_
        cases exchanged with
        | false => exact rfl
        | true =>
            refine Protocol.follows_perform_bind _ rfl fun (generation : Generation) => ?_
            change protocol.Follows _ (bif generationNewer request.generation generation then
              storing request sequence [] else refused request sequence)
              (if generationNewer request.generation generation = true then _ else _)
            cases generationNewer request.generation generation with
            | false => exact Protocol.follows_perform_bind _ rfl fun _ => rfl
            | true =>
                refine Protocol.follows_bind _
                  (storeFields_follows request sequence fieldRegisters []) ?_
                rintro _ _ rfl
                refine Protocol.follows_perform_bind _ rfl fun _ => ?_
                refine Protocol.follows_perform_bind _ ⟨rfl, fun register => ?_⟩ fun _ => rfl
                cases register with
                | field field => exact List.mem_append_left _ (mem_fieldRegisters field)
                | generation => exact List.mem_append_right _ (List.mem_singleton_self _)
  refine Protocol.follows_bind _ accepts ?_
  rintro _ (_ | _) rfl <;> exact rfl

theorem snapshot_follows (maximumAttempts : Nat) :
    protocol.Follows fits reading (RequestCall.snapshot maximumAttempts).program := by
  have reads : protocol.Follows (fun view outcome => fits view (.snapshot outcome)) reading
      (snapshot maximumAttempts) := by
    induction maximumAttempts with
    | zero => exact rfl
    | succ attempts ih =>
        refine Protocol.follows_perform_bind _ trivial fun (before : RequestWord) => ?_
        change protocol.Follows _ (bif SequenceLock.odd before then reading
          else copying before [] fun _ => 0) (if SequenceLock.odd before = true then _ else _)
        cases SequenceLock.odd before with
        | true => exact ih
        | false =>
            refine Protocol.follows_bind _
              (loadFields_follows before (.generation :: fieldRegisters) [] fun _ => 0) ?_
            rintro _ words rfl
            refine Protocol.follows_perform_bind _ (fun register => ?_)
              fun (after : RequestWord) => ?_
            · cases register with
              | field field => exact List.mem_cons_of_mem _ (mem_fieldRegisters field)
              | generation => exact List.mem_cons_self ..
            · change protocol.Follows _ (afterCopy words before after)
                (if before = after ∧ SequenceLock.odd after = false then _ else _)
              unfold afterCopy
              split_ifs
              · exact ⟨words, rfl, rfl⟩
              · exact ih
  exact Protocol.follows_bind _ reads fun _ _ fit => fit

/-- A call starts in a view that its program follows. -/
theorem program_follows (call : RequestCall) :
    protocol.Follows fits (match call with
      | .publish request => calling request
      | .snapshot _ => reading) call.program := by
  cases call with
  | publish request => exact publish_follows request
  | snapshot maximumAttempts => exact snapshot_follows maximumAttempts

end RequestProgram

/-- The register after a return; absent when the return is not one of a register that
holds the request. -/
def StorableRequest.after (current : StorableRequest) : RequestReturn → Option StorableRequest
  | .published request true =>
      if generationNewer request.generation current.generation then some request else none
  | .snapshot (some request) =>
      if request = current.toConfigRequestSnapshot then some current else none
  | _ => some current

/-- The register after all returns, in order. -/
def registerAfter {Thread : Type} (initial : StorableRequest)
    (log : List (Thread × RequestReturn)) : Option StorableRequest :=
  log.foldlM (fun current item => current.after item.2) initial

section Register

variable {Thread : Type} {initial current next : StorableRequest}
  {log : List (Thread × RequestReturn)}

/-- What a log does to the register can be followed in two parts. -/
theorem registerAfter_append (later : List (Thread × RequestReturn))
    (before : registerAfter initial log = some current) :
    registerAfter initial (log ++ later) = registerAfter current later := by
  unfold registerAfter at before ⊢
  rw [List.foldlM_append, before]
  rfl

/-- One more return can be followed if the register allows it. -/
theorem registerAfter_concat (before : registerAfter initial log = some current)
    {item : Thread × RequestReturn} (goes : current.after item.2 = some next) :
    registerAfter initial (log ++ [item]) = some next := by
  rw [registerAfter_append [item] before]
  exact (congrArg (· >>= pure) goes).trans rfl

end Register

/-- The event is a call of `publish`. -/
def RequestEvent.publishes {Thread : Type} : RequestEvent Thread → Bool
  | .call _ (.publish _) => true
  | _ => false

/-- What a thread's view has to do with the lock and the memory under it. -/
def RequestView.Knows (lock : SequenceLock RequestRegister RequestWord) (memory : RequestMemory) :
    RequestView → Prop
  | .sequenced _ sequence => SequenceLock.odd sequence = false
  | .locked _ sequence | .refused _ sequence =>
      sequence + 1 = memory.sequence ∧ memory.registers = lock.contents
  | .storing request sequence stored =>
      sequence + 1 = memory.sequence ∧
        generationNewer request.generation (lock.contents .generation) = true ∧
        ∀ register ∈ stored, memory.registers register = request.words register
  | .copying sequence copied copy => ∃ version,
      sequence = BitVec.ofNat 64 (2 * version) ∧ lock.Copies version copied copy
  | _ => True

/-- A view that does not hold the number depends on the lock through its copies only. -/
theorem RequestView.Knows.of_copies {view : RequestView}
    {lock next : SequenceLock RequestRegister RequestWord} {memory later : RequestMemory}
    (knows : view.Knows lock memory) (outside : view.holds = false)
    (copies : ∀ version copied copy, lock.Copies version copied copy →
      next.Copies version copied copy) : view.Knows next later := by
  cases view with
  | locked | refused | storing => exact absurd outside (by simp [holds])
  | copying sequence copied copy =>
      obtain ⟨version, same, fits⟩ := knows
      exact ⟨version, same, copies version copied copy fits⟩
  | _ => exact knows

namespace RequestSystem

section Returns

variable {Thread : Type} {initial current : StorableRequest}
  {log : List (Thread × RequestReturn)} {view : RequestView}
  {program : RequestProgram RequestReturn}

/-- A return that leaves the register alone. -/
theorem registerAfter_returns (replayed : registerAfter initial log = some current)
    (thread : Thread)
    (keeps : ∀ outcome, program = .done outcome → current.after outcome = some current) :
    registerAfter initial (log ++ returns thread program) = some current := by
  cases program with
  | done outcome => exact registerAfter_concat replayed (keeps outcome rfl)
  | act action next =>
      rw [returns, List.append_nil]
      exact replayed

/-- A view in which no action is allowed is one of a call that has returned. -/
theorem done_of_follows
    (follows : RequestView.protocol.Follows RequestView.fits view program)
    (returned : ∀ action, ¬view.allows action) :
    ∃ outcome, program = .done outcome ∧ view.fits outcome := by
  cases program with
  | done outcome => exact ⟨outcome, rfl, follows⟩
  | act action next => exact absurd follows.1 (returned action)

end Returns

variable {Thread : Type}

/-- Every version of the lock, and every thread that may still take it, comes from a
publish call of its own. -/
def Counted (views : Thread → RequestView) (lock : SequenceLock RequestRegister RequestWord)
    (calls : Nat) : Prop :=
  ∃ pending : Finset Thread, (∀ thread, (views thread).attempts = true → thread ∈ pending) ∧
    lock.version + lock.held.toNat + pending.card ≤ calls

/-- A system of threads, with the lock that its memory shows, the thread that holds it,
the request it guards and the number of publish calls so far. -/
structure Coherent (initial : StorableRequest) (log : List (Thread × RequestReturn))
    (calls : Nat) (system : RequestSystem Thread) (views : Thread → RequestView)
    (lock : SequenceLock RequestRegister RequestWord) (holder : Option Thread)
    (current : StorableRequest) : Prop where
  follows : ∀ thread,
    RequestView.protocol.Follows RequestView.fits (views thread) (system.programs thread)
  number : system.memory.sequence = lock.number 64
  free : lock.held = false → system.memory.registers = lock.contents
  contents : lock.contents = current.words
  replayed : registerAfter initial log = some current
  holding : ∀ thread, (views thread).holds = true ↔ holder = some thread
  held : lock.held = holder.isSome
  knows : ∀ thread, (views thread).Knows lock system.memory
  counted : Counted views lock calls

variable {initial current next : StorableRequest} {log : List (Thread × RequestReturn)}
  {calls : Nat} {system : RequestSystem Thread} {views : Thread → RequestView}
  {lock after : SequenceLock RequestRegister RequestWord} {holder : Option Thread}
  {thread : Thread} {view : RequestView} {program : RequestProgram RequestReturn}

namespace Coherent

/-- While one thread holds the lock, no other one does. -/
theorem alone (coherent : Coherent initial log calls system views lock holder current)
    (holds : (views thread).holds = true) {other : Thread} (different : other ≠ thread) :
    (views other).holds = false := by
  have here := (coherent.holding thread).mp holds
  refine Bool.eq_false_iff.mpr fun also => different ?_
  have there := (coherent.holding other).mp also
  exact Option.some.inj (there.symm.trans here)

/-- A thread that holds the lock holds the one of the system. -/
theorem held_of_holds (coherent : Coherent initial log calls system views lock holder current)
    (holds : (views thread).holds = true) : lock.held = true := by
  rw [coherent.held, (coherent.holding thread).mp holds]
  rfl

/-- While nobody holds the lock, no thread does. -/
theorem none_holds (coherent : Coherent initial log calls system views lock holder current)
    (free : lock.held = false) (other : Thread) : (views other).holds = false := by
  refine Bool.eq_false_iff.mpr fun holds => ?_
  exact absurd (free.symm.trans (coherent.held_of_holds holds)) (by simp)

/-- A view that starts no publish and holds nothing returns what leaves the register
alone, unless it has matched a copy. -/
theorem keeps_of_fits {outcome : RequestReturn} (fit : view.fits outcome)
    (kind : ∀ request, view ≠ .accepted request)
    (copy : ∀ copy, view = .matched copy → requestOfWords copy = current.toConfigRequestSnapshot) :
    current.after outcome = some current := by
  cases outcome with
  | published request accepted =>
      cases accepted with
      | false => rfl
      | true => exact absurd fit (kind request)
  | snapshot outcome =>
      cases outcome with
      | none => rfl
      | some request =>
          obtain ⟨words, matched, rfl⟩ := fit
          exact if_pos (copy words matched)

/-- Returns in a view that neither accepts nor has matched another copy leave the register
alone. -/
theorem returns_quiet (coherent : Coherent initial log calls system views lock holder current)
    (follows : RequestView.protocol.Follows RequestView.fits view program)
    (kind : ∀ request, view ≠ .accepted request)
    (copy : ∀ copy, view = .matched copy →
      requestOfWords copy = current.toConfigRequestSnapshot) (thread : Thread) :
    registerAfter initial (log ++ returns thread program) = some current := by
  refine registerAfter_returns coherent.replayed thread fun outcome done => ?_
  rw [done] at follows
  exact keeps_of_fits follows kind copy

end Coherent

variable [DecidableEq Thread]

namespace Counted

variable {views : Thread → RequestView} {lock next : SequenceLock RequestRegister RequestWord}
  {calls later : Nat} {thread : Thread} {view : RequestView}

/-- A thread goes on that may take the lock only if it might before. -/
theorem keep (counted : Counted views lock calls)
    (same : next.version + next.held.toNat = lock.version + lock.held.toNat)
    (more : calls ≤ later) (attempts : view.attempts = true → (views thread).attempts = true) :
    Counted (Function.update views thread view) next later := by
  obtain ⟨pending, members, bound⟩ := counted
  refine ⟨pending, fun other goes => ?_, by omega⟩
  by_cases here : other = thread
  · subst here
    rw [Function.update_self] at goes
    exact members other (attempts goes)
  · rw [Function.update_of_ne here] at goes
    exact members other goes

/-- A thread goes on that does not take the lock any more. -/
theorem settle (counted : Counted views lock calls)
    (same : next.version + next.held.toNat = lock.version + lock.held.toNat)
    (more : calls ≤ later) (spent : view.attempts = false) :
    Counted (Function.update views thread view) next later :=
  counted.keep same more fun goes => absurd (spent.symm.trans goes) Bool.false_ne_true

/-- A thread starts a publish call. -/
theorem start (counted : Counted views lock calls) (thread : Thread) (view : RequestView) :
    Counted (Function.update views thread view) lock (calls + 1) := by
  obtain ⟨pending, members, bound⟩ := counted
  refine ⟨insert thread pending, fun other goes => ?_, ?_⟩
  · by_cases here : other = thread
    · exact here ▸ Finset.mem_insert_self thread pending
    · rw [Function.update_of_ne here] at goes
      exact Finset.mem_insert_of_mem (members other goes)
  · have few := Finset.card_insert_le thread pending
    omega

/-- A thread that might take the lock has taken it. -/
theorem spend (counted : Counted views lock calls)
    (same : next.version + next.held.toNat = lock.version + lock.held.toNat + 1)
    (attempts : (views thread).attempts = true) (spent : view.attempts = false) :
    Counted (Function.update views thread view) next calls := by
  obtain ⟨pending, members, bound⟩ := counted
  have member := members thread attempts
  refine ⟨pending.erase thread, fun other goes => ?_, ?_⟩
  · by_cases here : other = thread
    · subst here
      rw [Function.update_self, spent] at goes
      exact absurd goes (by simp)
    · rw [Function.update_of_ne here] at goes
      exact Finset.mem_erase.mpr ⟨here, members other goes⟩
  · have one := Finset.card_erase_add_one member
    omega

end Counted

namespace Coherent

/-- One thread goes on, while memory and lock stay as they are. -/
theorem proceed (coherent : Coherent initial log calls system views lock holder current)
    (follows : RequestView.protocol.Follows RequestView.fits view program)
    (holds : view.holds = (views thread).holds) (knows : view.Knows lock system.memory)
    {later : Nat} (counted : Counted (Function.update views thread view) lock later)
    (replayed : registerAfter initial (log ++ returns thread program) = some current) :
    Coherent initial (log ++ (system.proceed thread system.memory program).2) later
      (system.proceed thread system.memory program).1 (Function.update views thread view) lock
      holder current := by
  refine ⟨fun other => ?_, coherent.number, coherent.free, coherent.contents, replayed,
    fun other => ?_, coherent.held, fun other => ?_, counted⟩
  all_goals
    by_cases here : other = thread
    · subst here
      simp only [RequestSystem.proceed, Function.update_self]
      first
      | exact follows
      | exact holds ▸ coherent.holding other
      | exact knows
    · simp only [RequestSystem.proceed, Function.update_of_ne here]
      first
      | exact coherent.follows other
      | exact coherent.holding other
      | exact coherent.knows other

/-- One thread goes on with the lock in its hands, takes it or gives it back. -/
theorem hand (coherent : Coherent initial log calls system views lock holder current)
    {memory : RequestMemory}
    (follows : RequestView.protocol.Follows RequestView.fits view program)
    (outside : ∀ other, other ≠ thread → (views other).holds = false)
    (number : memory.sequence = after.number 64)
    (free : after.held = false → memory.registers = after.contents)
    (contents : after.contents = next.words) (held : after.held = view.holds)
    (copies : ∀ version copied copy, lock.Copies version copied copy →
      after.Copies version copied copy)
    (knows : view.Knows after memory)
    (counted : Counted (Function.update views thread view) after calls)
    (replayed : registerAfter initial (log ++ returns thread program) = some next) :
    Coherent initial (log ++ (system.proceed thread memory program).2) calls
      (system.proceed thread memory program).1 (Function.update views thread view) after
      (bif view.holds then some thread else none) next := by
  refine ⟨fun other => ?_, number, free, contents, replayed, fun other => ?_, ?_, fun other => ?_,
    counted⟩
  · by_cases here : other = thread
    · subst here
      simp only [RequestSystem.proceed, Function.update_self]
      exact follows
    · simp only [RequestSystem.proceed, Function.update_of_ne here]
      exact coherent.follows other
  · by_cases here : other = thread
    · subst here
      rw [Function.update_self]
      cases view.holds <;> simp
    · rw [Function.update_of_ne here, outside other here]
      cases view.holds <;> simp [Ne.symm here]
  · rw [held]
    cases view.holds <;> rfl
  · by_cases here : other = thread
    · subst here
      rw [Function.update_self]
      exact knows
    · rw [Function.update_of_ne here]
      exact (coherent.knows other).of_copies (outside other here) copies

/-- One thread goes on while memory and lock stay, and returns nothing that concerns the
register. -/
theorem quiet (coherent : Coherent initial log calls system views lock holder current)
    (follows : RequestView.protocol.Follows RequestView.fits view program)
    (holds : view.holds = (views thread).holds) (knows : view.Knows lock system.memory)
    {later : Nat} (counted : Counted (Function.update views thread view) lock later)
    (kind : ∀ request, view ≠ .accepted request)
    (copy : ∀ copy, view = .matched copy →
      requestOfWords copy = current.toConfigRequestSnapshot) :
    Coherent initial (log ++ (system.proceed thread system.memory program).2) later
      (system.proceed thread system.memory program).1 (Function.update views thread view) lock
      holder current :=
  coherent.proceed follows holds knows counted (coherent.returns_quiet follows kind copy thread)

end Coherent

/-- The outcome of an event is coherent for some lock, holder and request. -/
def Reaches (initial : StorableRequest) (log : List (Thread × RequestReturn)) (calls : Nat)
    (outcome : RequestSystem Thread × List (Thread × RequestReturn)) : Prop :=
  ∃ views lock holder current,
    Coherent initial (log ++ outcome.2) calls outcome.1 views lock holder current

/-- A thread performs its next action and goes on with the answer. -/
def perform (system : RequestSystem Thread) (thread : Thread) (action : RequestAction)
    (rest : action.Answer → RequestProgram RequestReturn) :
    RequestSystem Thread × List (Thread × RequestReturn) :=
  system.proceed thread (system.memory.apply action).2 (rest (system.memory.apply action).1)

section Events

variable {call : RequestCall} {outcome : RequestReturn} {action : RequestAction}
  {rest : action.Answer → RequestProgram RequestReturn}

/-- A thread that is idle starts a call at once. -/
theorem step_call_done (program : system.programs thread = .done outcome) :
    system.step (.call thread call) = system.proceed thread system.memory call.program := by
  simp only [RequestSystem.step, program]

/-- A thread that is in a call does not start another one. -/
theorem step_call_act (program : system.programs thread = .act action rest) :
    system.step (.call thread call) = (system, []) := by
  simp only [RequestSystem.step, program]

/-- An idle thread takes no step. -/
theorem step_done (program : system.programs thread = .done outcome) :
    system.step (.step thread) = (system, []) := by
  simp only [RequestSystem.step, program]

/-- The step of a thread performs the next action of its program. -/
theorem step_act (program : system.programs thread = .act action rest) :
    system.step (.step thread) = system.perform thread action rest := by
  simp only [RequestSystem.step, program]
  rfl

end Events

namespace Coherent

section Steps

variable {request : StorableRequest} {sequence : RequestWord} {action : RequestAction}
  {rest : action.Answer → RequestProgram RequestReturn}

/-- The first load of a publish call. -/
theorem step_calling (coherent : Coherent initial log calls system views lock holder current)
    (here : views thread = .calling request)
    (follows : RequestView.protocol.Follows RequestView.fits (.calling request)
      (.act action rest)) :
    Reaches initial log calls (system.perform thread action rest) := by
  obtain ⟨allowed, follows⟩ := follows
  cases action with
  | loadSequence =>
      have goes := follows system.memory.sequence
      change RequestView.protocol.Follows _ (bif SequenceLock.odd system.memory.sequence then
        .rejected request else .sequenced request system.memory.sequence) _ at goes
      cases odd : SequenceLock.odd system.memory.sequence with
      | true =>
          rw [odd] at goes
          refine ⟨_, _, _, _, coherent.quiet goes (by rw [here]; rfl) trivial
            (coherent.counted.settle rfl le_rfl rfl) ?_ ?_⟩
          all_goals simp
      | false =>
          rw [odd] at goes
          refine ⟨_, _, _, _, coherent.quiet goes (by rw [here]; rfl) odd
            (coherent.counted.keep rfl le_rfl fun _ => by rw [here]; rfl) ?_ ?_⟩
          all_goals simp
  | _ => exact absurd allowed id

/-- The compare-and-swap takes a free lock, or the call is over. -/
theorem step_sequenced (coherent : Coherent initial log calls system views lock holder current)
    (here : views thread = .sequenced request sequence)
    (follows : RequestView.protocol.Follows RequestView.fits (.sequenced request sequence)
      (.act action rest)) :
    Reaches initial log calls (system.perform thread action rest) := by
  obtain ⟨allowed, follows⟩ := follows
  cases action with
  | exchangeSequence expected desired =>
      obtain ⟨rfl, rfl⟩ := allowed
      have attempts : (views thread).attempts = true := by rw [here]; rfl
      unfold perform
      by_cases found : system.memory.sequence = expected
      · have even : SequenceLock.odd expected = false := by
          have knows := coherent.knows thread
          rwa [here] at knows
        have free : lock.held = false := by
          rw [← SequenceLock.odd_number (show 0 < 64 by decide) lock, ← coherent.number, found]
          exact even
        have taken : system.memory.apply (.exchangeSequence expected (expected + 1)) =
            (true, { system.memory with sequence := expected + 1 }) := if_pos found
        rw [taken]
        have goes : RequestView.protocol.Follows RequestView.fits (.locked request expected)
          (rest true) := follows true
        refine ⟨_, lock.acquire, _, _, coherent.hand goes
          (fun other _ => coherent.none_holds free other) ?_ (fun contrary => nomatch contrary)
          coherent.contents rfl (fun _ _ _ => SequenceLock.Copies.acquire)
          ⟨rfl, coherent.free free⟩ (coherent.counted.spend ?_ attempts rfl) ?_⟩
        · rw [SequenceLock.number_acquire free, ← coherent.number, found]
        · rw [free]
          rfl
        · exact coherent.returns_quiet goes (by simp) (by simp) thread
      · have missed : system.memory.apply (.exchangeSequence expected (expected + 1)) =
            (false, system.memory) := if_neg found
        rw [missed]
        have goes : RequestView.protocol.Follows RequestView.fits (.rejected request)
          (rest false) := follows false
        refine ⟨_, _, _, _, coherent.quiet goes (by rw [here]; rfl) trivial
          (coherent.counted.settle rfl le_rfl rfl) ?_ ?_⟩
        all_goals simp
  | _ => exact absurd allowed id

/-- Under the lock, the generation decides whether the call stores. A request that is not newer is
refused, and the lock is given back without a store. -/
theorem step_locked (coherent : Coherent initial log calls system views lock holder current)
    (here : views thread = .locked request sequence)
    (follows : RequestView.protocol.Follows RequestView.fits (.locked request sequence)
      (.act action rest)) :
    Reaches initial log calls (system.perform thread action rest) := by
  obtain ⟨allowed, follows⟩ := follows
  obtain ⟨number, registers⟩ : sequence + 1 = system.memory.sequence ∧
      system.memory.registers = lock.contents := by
    have knows := coherent.knows thread
    rwa [here] at knows
  cases action with
  | load register =>
      obtain rfl := allowed
      have goes := follows (system.memory.registers .generation)
      change RequestView.protocol.Follows _ (bif generationNewer request.generation
        (system.memory.registers .generation) then .storing request sequence []
        else .refused request sequence) _ at goes
      cases newer : generationNewer request.generation (system.memory.registers .generation) with
      | true =>
          rw [newer] at goes
          rw [registers] at newer
          refine ⟨_, _, _, _, coherent.quiet goes (by rw [here]; rfl)
            ⟨number, newer, fun _ member => absurd member List.not_mem_nil⟩
            (coherent.counted.settle rfl le_rfl rfl) ?_ ?_⟩
          all_goals simp
      | false =>
          rw [newer] at goes
          refine ⟨_, _, _, _, coherent.quiet goes (by rw [here]; rfl) ⟨number, registers⟩
            (coherent.counted.settle rfl le_rfl rfl) ?_ ?_⟩
          all_goals simp
  | _ => exact absurd allowed id

/-- A call that will not store gives the lock back as it was. -/
theorem step_refused (coherent : Coherent initial log calls system views lock holder current)
    (here : views thread = .refused request sequence)
    (follows : RequestView.protocol.Follows RequestView.fits (.refused request sequence)
      (.act action rest)) :
    Reaches initial log calls (system.perform thread action rest) := by
  obtain ⟨allowed, follows⟩ := follows
  have holds : (views thread).holds = true := by rw [here]; rfl
  have held := coherent.held_of_holds holds
  obtain ⟨number, registers⟩ : sequence + 1 = system.memory.sequence ∧
      system.memory.registers = lock.contents := by
    have knows := coherent.knows thread
    rwa [here] at knows
  cases action with
  | storeSequence word =>
      obtain rfl := allowed
      have goes : RequestView.protocol.Follows RequestView.fits (.rejected request) (rest ()) :=
        follows ()
      refine ⟨_, lock.release lock.contents, _, _, coherent.hand goes
        (fun other => coherent.alone holds) ?_ (fun _ => registers) coherent.contents rfl
        (fun _ _ _ copies => copies.release lock.contents) trivial
        (coherent.counted.settle ?_ le_rfl rfl) ?_⟩
      · rw [SequenceLock.number_release held, ← coherent.number, ← number]
        exact (BitVec.add_assoc sequence 1 1).symm
      · rw [held]
        rfl
      · exact coherent.returns_quiet goes (by simp) (by simp) thread
  | _ => exact absurd allowed id

/-- A call that stores gives the lock back over its request. With the last store the registers hold
the whole request. -/
theorem step_storing (coherent : Coherent initial log calls system views lock holder current)
    {stored : List RequestRegister} (here : views thread = .storing request sequence stored)
    (follows : RequestView.protocol.Follows RequestView.fits (.storing request sequence stored)
      (.act action rest)) :
    Reaches initial log calls (system.perform thread action rest) := by
  obtain ⟨allowed, follows⟩ := follows
  have holds : (views thread).holds = true := by rw [here]; rfl
  have held := coherent.held_of_holds holds
  obtain ⟨number, newer, words⟩ : sequence + 1 = system.memory.sequence ∧
      generationNewer request.generation (lock.contents .generation) = true ∧
      ∀ register ∈ stored, system.memory.registers register = request.words register := by
    have knows := coherent.knows thread
    rwa [here] at knows
  cases action with
  | store register word =>
      obtain rfl := allowed
      have goes : RequestView.protocol.Follows RequestView.fits
          (.storing request sequence (stored ++ [register])) (rest ()) := follows ()
      refine ⟨_, lock, _, _, coherent.hand goes
        (fun other => coherent.alone holds) coherent.number
        (fun free => absurd (free.symm.trans held) (by simp)) coherent.contents held
        (fun _ _ _ => id) ⟨number, newer, fun other member => ?_⟩
        (coherent.counted.settle rfl le_rfl rfl) ?_⟩
      · change Function.update system.memory.registers register (request.words register) other = _
        by_cases same : other = register
        · subst same
          exact Function.update_self ..
        · rw [Function.update_of_ne same]
          refine words other ((List.mem_append.mp member).resolve_right fun last => ?_)
          exact same (List.mem_singleton.mp last)
      · exact coherent.returns_quiet goes (by simp) (by simp) thread
  | storeSequence word =>
      obtain ⟨rfl, all⟩ := allowed
      have goes : RequestView.protocol.Follows RequestView.fits (.accepted request) (rest ()) :=
        follows ()
      have registers : system.memory.registers = request.words :=
        funext fun register => words register (all register)
      refine ⟨_, lock.release request.words, _, request,
        coherent.hand goes
        (fun other => coherent.alone holds) ?_ (fun _ => registers) rfl rfl
        (fun _ _ _ copies => copies.release request.words) trivial
        (coherent.counted.settle ?_ le_rfl rfl) ?_⟩
      · rw [SequenceLock.number_release held, ← coherent.number, ← number]
        exact (BitVec.add_assoc sequence 1 1).symm
      · rw [held]
        rfl
      · obtain ⟨outcome, done, fit⟩ := done_of_follows goes fun action => by cases action <;> exact id
        change registerAfter initial (log ++ returns thread (rest ())) = _
        rw [done, returns]
        refine registerAfter_concat coherent.replayed ?_
        rw [coherent.contents] at newer
        cases outcome with
        | snapshot outcome =>
            cases outcome with
            | none => exact nomatch fit
            | some request =>
                obtain ⟨_, contrary, _⟩ := fit
                exact nomatch contrary
        | published other accepted =>
            cases accepted with
            | false => exact nomatch fit
            | true =>
                obtain rfl := RequestView.accepted.inj fit
                exact if_pos newer
  | _ => exact absurd allowed id

/-- The first load of an attempt to read. -/
theorem step_reading (coherent : Coherent initial log calls system views lock holder current)
    (here : views thread = .reading)
    (follows : RequestView.protocol.Follows RequestView.fits .reading (.act action rest)) :
    Reaches initial log calls (system.perform thread action rest) := by
  obtain ⟨allowed, follows⟩ := follows
  cases action with
  | loadSequence =>
      have goes := follows system.memory.sequence
      change RequestView.protocol.Follows _ (bif SequenceLock.odd system.memory.sequence then
        .reading else .copying system.memory.sequence [] fun _ => 0) _ at goes
      cases odd : SequenceLock.odd system.memory.sequence with
      | true =>
          rw [odd] at goes
          refine ⟨_, _, _, _, coherent.quiet goes (by rw [here]; rfl) trivial
            (coherent.counted.settle rfl le_rfl rfl) ?_ ?_⟩
          all_goals simp
      | false =>
          rw [odd] at goes
          have free : lock.held = false := by
            rw [← SequenceLock.odd_number (show 0 < 64 by decide) lock, ← coherent.number]
            exact odd
          have number : system.memory.sequence = BitVec.ofNat 64 (2 * lock.version) := by
            rw [coherent.number, SequenceLock.number, free]
            rfl
          refine ⟨_, _, _, _, coherent.quiet goes (by rw [here]; rfl)
            ⟨lock.version, number, SequenceLock.Copies.start lock _⟩
            (coherent.counted.settle rfl le_rfl rfl) ?_ ?_⟩
          all_goals simp
  | _ => exact absurd allowed id

/-- A load of a copy, and the load that decides whether it is good. If the sequence has not changed
in between, the copy is of one request. -/
theorem step_copying (coherent : Coherent initial log calls system views lock holder current)
    (few : calls < 2 ^ 63) {copied : List RequestRegister}
    {copy : RequestRegister → RequestWord} (here : views thread = .copying sequence copied copy)
    (follows : RequestView.protocol.Follows RequestView.fits (.copying sequence copied copy)
      (.act action rest)) :
    Reaches initial log calls (system.perform thread action rest) := by
  obtain ⟨allowed, follows⟩ := follows
  obtain ⟨version, number, copies⟩ : ∃ version,
      sequence = BitVec.ofNat 64 (2 * version) ∧ lock.Copies version copied copy := by
    have knows := coherent.knows thread
    rwa [here] at knows
  cases action with
  | load register =>
      have goes : RequestView.protocol.Follows RequestView.fits
          (.copying sequence (copied ++ [register])
            (Function.update copy register (system.memory.registers register)))
          (rest (system.memory.registers register)) := follows _
      refine ⟨_, _, _, _, coherent.quiet goes
        (by rw [here]; rfl) ⟨version, number, copies.load coherent.free register⟩
        (coherent.counted.settle rfl le_rfl rfl) ?_ ?_⟩
      all_goals simp
  | loadSequence =>
      have goes := follows system.memory.sequence
      change RequestView.protocol.Follows _
        (RequestView.afterCopy copy sequence system.memory.sequence) _ at goes
      unfold RequestView.afterCopy at goes
      split_ifs at goes with again
      · obtain ⟨pending, -, bound⟩ := coherent.counted
        have found : lock.number 64 = BitVec.ofNat 64 (2 * version) := by
          rw [← coherent.number, ← again.1, number]
        obtain ⟨-, same⟩ := copies.complete allowed (by omega) found
        refine ⟨_, _, _, _, coherent.quiet goes (by rw [here]; rfl) trivial
          (coherent.counted.settle rfl le_rfl rfl) (by simp) ?_⟩
        rintro _ ⟨⟩
        rw [same, coherent.contents]
        exact requestOfWords_words current
      · refine ⟨_, _, _, _, coherent.quiet goes (by rw [here]; rfl) trivial
          (coherent.counted.settle rfl le_rfl rfl) ?_ ?_⟩
        all_goals simp
  | _ => exact absurd allowed id

end Steps

end Coherent

namespace Coherent

/-- A thread that has returned holds nothing. -/
theorem holds_of_done {outcome : RequestReturn} (fit : view.fits outcome) : view.holds = false := by
  cases outcome with
  | published request accepted => cases accepted <;> rw [fit] <;> rfl
  | snapshot outcome =>
      cases outcome with
      | none => rw [fit]; rfl
      | some request =>
          obtain ⟨copy, rfl, -⟩ := fit
          rfl

/-- A thread that has returned starts a call. -/
theorem call (coherent : Coherent initial log calls system views lock holder current)
    {outcome : RequestReturn} (returned : system.programs thread = .done outcome)
    (call : RequestCall) :
    Reaches initial log (calls + if (RequestEvent.call thread call).publishes then 1 else 0)
      (system.proceed thread system.memory call.program) := by
  have follows := coherent.follows thread
  rw [returned] at follows
  have idle := holds_of_done follows
  cases call with
  | publish request =>
      refine ⟨_, _, _, _, coherent.quiet (RequestProgram.publish_follows request) idle.symm trivial
        (coherent.counted.start thread _) ?_ ?_⟩
      all_goals simp
  | snapshot maximumAttempts =>
      refine ⟨_, _, _, _, coherent.quiet (RequestProgram.snapshot_follows maximumAttempts)
        idle.symm trivial (coherent.counted.settle rfl le_rfl rfl) ?_ ?_⟩
      all_goals simp

/-- A thread performs its next action. -/
theorem act (coherent : Coherent initial log calls system views lock holder current)
    (few : calls < 2 ^ 63) {action : RequestAction}
    {rest : action.Answer → RequestProgram RequestReturn}
    (pending : system.programs thread = .act action rest) :
    Reaches initial log calls (system.perform thread action rest) := by
  have follows := coherent.follows thread
  rw [pending] at follows
  cases here : views thread with
  | calling request => exact coherent.step_calling here (here ▸ follows)
  | sequenced request sequence => exact coherent.step_sequenced here (here ▸ follows)
  | locked request sequence => exact coherent.step_locked here (here ▸ follows)
  | refused request sequence => exact coherent.step_refused here (here ▸ follows)
  | storing request sequence stored => exact coherent.step_storing here (here ▸ follows)
  | reading => exact coherent.step_reading here (here ▸ follows)
  | copying sequence copied copy => exact coherent.step_copying few here (here ▸ follows)
  | rejected | accepted | matched =>
      rw [here] at follows
      refine absurd follows.1 ?_
      cases action <;> exact id

omit [DecidableEq Thread] in
/-- Nothing happens, while publish calls may have been made. -/
theorem idle (coherent : Coherent initial log calls system views lock holder current)
    {later : Nat} (more : calls ≤ later) : Reaches initial log later (system, []) := by
  obtain ⟨pending, members, bound⟩ := coherent.counted
  refine ⟨views, lock, holder, current, ?_⟩
  rw [List.append_nil]
  exact { coherent with counted := ⟨pending, members, bound.trans more⟩ }

/-- One event keeps the returns those of a register. -/
theorem event (coherent : Coherent initial log calls system views lock holder current)
    (few : calls < 2 ^ 63) (event : RequestEvent Thread) :
    Reaches initial log (calls + if event.publishes then 1 else 0) (system.step event) := by
  cases event with
  | call thread call =>
      cases program : system.programs thread with
      | done outcome =>
          rw [step_call_done program]
          exact coherent.call program call
      | act action rest =>
          rw [step_call_act program]
          exact coherent.idle (Nat.le_add_right calls _)
  | step thread =>
      change Reaches initial log calls _
      cases program : system.programs thread with
      | done outcome =>
          rw [step_done program]
          exact coherent.idle le_rfl
      | act action rest =>
          rw [step_act program]
          exact coherent.act few program

omit [DecidableEq Thread] in
/-- At the start the register has what it was initialized with, and nobody holds the lock. -/
theorem start (initial : StorableRequest) :
    Coherent initial [] 0 (RequestSystem.start initial : RequestSystem Thread)
      (fun _ => .reading) { contents := initial.words } none initial where
  follows _ := rfl
  number := rfl
  free _ := rfl
  contents := rfl
  replayed := rfl
  holding _ := by simp [RequestView.holds]
  held := rfl
  knows _ := trivial
  counted := ⟨∅, fun _ contrary => absurd contrary Bool.false_ne_true, le_rfl⟩

/-- Along every run with few publish calls. -/
theorem run (initial : StorableRequest) (events : List (RequestEvent Thread))
    (few : events.countP RequestEvent.publishes < 2 ^ 63) :
    ∃ views lock holder current, Coherent initial (machine.run (RequestSystem.start initial) events).2
      (events.countP RequestEvent.publishes) (machine.run (RequestSystem.start initial) events).1
      views lock holder current := by
  induction events using List.reverseRecOn with
  | nil => exact ⟨_, _, _, _, start initial⟩
  | append_singleton events event ih =>
      rw [List.countP_append, List.countP_singleton] at few ⊢
      obtain ⟨views, lock, holder, current, coherent⟩ := ih (by omega)
      rw [machine.run_concat]
      exact coherent.event (by omega) event

end Coherent

end RequestSystem

end M3Midi
