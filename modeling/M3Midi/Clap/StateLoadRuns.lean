import M3Midi.Clap.StateLoad
import M3Midi.Parameter.Batch

/-! # The requested configuration while states are loaded

A publish of the audio thread puts parameter events on top of the configuration it has
seen. Along the runs in which that is the latest load, what is requested is what the loads
and the events make of it one after the other
(`M3Midi.RequestAdapter.requested_config_serial`).
-/

namespace M3Midi

open Foundation Foundation.SerialNumber

namespace RequestSystem

variable {Thread : Type} [DecidableEq Thread] {system : RequestSystem Thread} {calls : ℕ}
  {current : StorableRequest} {thread other : Thread} {possible : RequestReturn → Prop}

/-- A run of at most so many publish calls has led here, after which a request is held. -/
def Served (system : RequestSystem Thread) (calls : ℕ) (current : StorableRequest) : Prop :=
  ∃ initial log views lock holder, Coherent initial log calls system views lock holder current

/-- One event is one of a register that holds the request. -/
theorem Served.event (served : system.Served calls current) (few : calls < 2 ^ 63)
    (event : RequestEvent Thread) :
    ∃ next, (system.step event).1.Served (calls + if event.publishes then 1 else 0) next ∧
      registerAfter current (system.step event).2 = some next := by
  obtain ⟨initial, log, views, lock, holder, coherent⟩ := served
  obtain ⟨views', lock', holder', next, later⟩ := coherent.event few event
  refine ⟨next, ⟨initial, _, views', lock', holder', later⟩, ?_⟩
  exact (registerAfter_append _ coherent.replayed).symm.trans later.replayed

/-- The start of a publish leaves the register alone. -/
theorem Served.publish (served : system.Served calls current) (few : calls < 2 ^ 63)
    (thread : Thread) (request : StorableRequest) :
    (system.step (.call thread (.publish request))).1.Served (calls + 1) current := by
  obtain ⟨next, later, goes⟩ := served.event few (.call thread (.publish request))
  have silent : (system.step (.call thread (.publish request))).2 = [] := by
    cases program : system.programs thread with
    | done outcome =>
        rw [step_call_done program]
        rfl
    | act action rest => rw [step_call_act program]
  rw [silent] at goes
  obtain rfl := Option.some.inj goes
  exact later

/-- The start of a snapshot leaves the register alone. -/
theorem Served.snapshot (served : system.Served calls current) (few : calls < 2 ^ 63)
    (thread : Thread) (attempts : ℕ) :
    (system.step (.call thread (.snapshot (attempts + 1)))).1.Served calls current := by
  obtain ⟨next, later, goes⟩ := served.event few (.call thread (.snapshot (attempts + 1)))
  have silent : (system.step (.call thread (.snapshot (attempts + 1)))).2 = [] := by
    cases program : system.programs thread with
    | done outcome =>
        rw [step_call_done program]
        rfl
    | act action rest => rw [step_call_act program]
  rw [silent] at goes
  obtain rfl := Option.some.inj goes
  exact later

/-- An action of a thread is one of a register that holds the request. -/
theorem Served.step (served : system.Served calls current) (few : calls < 2 ^ 63)
    (thread : Thread) :
    ∃ next, (system.step (.step thread)).1.Served calls next ∧
      registerAfter current (system.step (.step thread)).2 = some next :=
  served.event few (.step thread)

/-- A publish is accepted with the store of the sequence number. -/
theorem Served.completes_of_step (served : system.Served calls current) {request : StorableRequest}
    (accepted : (system.step (.step thread)).2 = [(thread, .published request true)]) :
    (system.programs thread).completes = true := by
  obtain ⟨initial, log, views, lock, holder, coherent⟩ := served
  cases program : system.programs thread with
  | done outcome =>
      rw [step_done program] at accepted
      exact absurd accepted (List.cons_ne_nil _ _).symm
  | act action rest =>
      rw [step_act program] at accepted
      have follows := coherent.follows thread
      rw [program] at follows
      obtain ⟨allowed, goes⟩ := follows
      have later := goes (system.memory.apply action).1
      change returns thread (rest (system.memory.apply action).1) = _ at accepted
      cases returned : rest (system.memory.apply action).1 with
      | act next more =>
          rw [returned] at accepted
          exact absurd accepted (List.cons_ne_nil _ _).symm
      | done outcome =>
          rw [returned] at accepted later
          obtain ⟨-, rfl⟩ := Prod.mk.inj (List.cons.inj accepted).1
          obtain ⟨sequence, stored, -, rfl, -⟩ := storing_of_advance allowed later
          have unit : rest () = .done (.published request true) := returned
          unfold RequestProgram.completes
          simp only [unit]

omit [DecidableEq Thread] in
/-- When no call goes on, the registers hold the request. -/
theorem Served.shown (served : system.Served calls current)
    (idle : ∀ thread, (system.programs thread).IsDone) :
    (requestOfWords system.memory.registers).config = current.config := by
  obtain ⟨initial, log, views, lock, holder, coherent⟩ := served
  have outside (thread : Thread) : (views thread).holds = false := by
    obtain ⟨outcome, done⟩ := Program.eq_done_of_isDone (idle thread)
    have follows : (views thread).fits outcome := by
      have follows := coherent.follows thread
      rwa [done] at follows
    cases view : views thread with
    | locked request sequence | refused request sequence | storing request sequence stored =>
        rw [view] at follows
        match outcome with
        | .published _ false | .published _ true | .snapshot none => exact nomatch follows
        | .snapshot (some _) =>
            obtain ⟨copy, contrary, -⟩ := follows
            exact nomatch contrary
    | _ => rfl
  have free : lock.held = false := by
    rw [coherent.held]
    cases held : holder with
    | none => rfl
    | some thread =>
        exact absurd ((coherent.holding thread).mpr held) (by rw [outside thread]; simp)
  rw [coherent.free free, coherent.contents, requestOfWords_words]

omit [DecidableEq Thread] in
/-- At the start everything that was asked has been served. -/
theorem Served.start (initial : StorableRequest) :
    (RequestSystem.start initial : RequestSystem Thread).Served 0 initial :=
  ⟨initial, [], _, _, _, Coherent.start initial⟩

/-- A thread in a call goes on with it, or returns. -/
theorem step_returns (fits : (system.programs thread).Returns possible) :
    (((system.step (.step thread)).1.programs thread).Returns possible ∧
        (system.step (.step thread)).2 = []) ∨
      ∃ outcome, possible outcome ∧ (system.step (.step thread)).2 = [(thread, outcome)] ∧
        ((system.step (.step thread)).1.programs thread).IsDone := by
  cases program : system.programs thread with
  | done outcome =>
      rw [step_done program]
      exact .inl ⟨fits, rfl⟩
  | act action rest =>
      rw [program] at fits
      rw [step_act program]
      have later := fits (system.memory.apply action).1
      unfold perform proceed
      dsimp only
      rw [Function.update_self]
      cases returned : rest (system.memory.apply action).1 with
      | act next more =>
          rw [returned] at later
          exact .inl ⟨later, rfl⟩
      | done outcome =>
          rw [returned] at later
          exact .inr ⟨outcome, later, rfl, trivial⟩

/-- Other threads stay where they are. -/
theorem step_programs_of_ne (different : other ≠ thread) :
    (system.step (.step thread)).1.programs other = system.programs other ∧
      ∀ call, (system.step (.call thread call)).1.programs other = system.programs other := by
  cases program : system.programs thread with
  | done outcome =>
      refine ⟨by rw [step_done program], fun call => ?_⟩
      rw [step_call_done program]
      exact Function.update_of_ne different _ _
  | act action rest =>
      refine ⟨?_, fun call => by rw [step_call_act program]⟩
      rw [step_act program]
      exact Function.update_of_ne different _ _

/-- A thread that has returned starts a call. -/
theorem step_call_programs (idle : (system.programs thread).IsDone) (call : RequestCall) :
    (system.step (.call thread call)).1.programs thread = call.program := by
  obtain ⟨outcome, done⟩ := Program.eq_done_of_isDone idle
  rw [step_call_done done]
  exact Function.update_self ..

end RequestSystem

namespace StorableConfig

/-- Events that change nothing leave the configuration as it was. -/
theorem applyEvents_unchanged {config : StorableConfig} {input : ClapInputEvents}
    (unchanged : (config.applyEvents input).2 = false) : (config.applyEvents input).1 = config := by
  have stays {progress : StorableConfig × Bool} {event : Option ParamValueEvent}
      (same : (applyEvent progress event).2 = false) :
      progress.2 = false ∧ (applyEvent progress event).1 = progress.1 := by
    obtain ⟨before, quiet⟩ := Bool.or_eq_false_iff.mp same
    refine ⟨before, ?_⟩
    by_contra different
    have reported : (applyParameterEvent 0 (progress.1.val, {}) event).2.changed = false := by
      have altered : ofConfig (applyParameterEvent 0 (progress.1.val, {}) event).1 ≠ progress.1 :=
        different
      rw [decide_eq_true altered, Bool.and_true] at quiet
      exact quiet
    have kept : (applyParameterEvent 0 (progress.1.val, {}) event).1 = progress.1.val := by
      unfold applyParameterEvent at reported ⊢
      cases event with
      | none => rfl
      | some event =>
          dsimp only at reported ⊢
          split_ifs at reported ⊢
          · rfl
          · rcases applyParameter_cases progress.1.val event.paramId event.value with
              rejected | ⟨spec, value, -, -, accepted, -, same⟩
            · rw [rejected]
            · cases outcome : (applyParameter progress.1.val event.paramId event.value).1 with
              | changed =>
                  rw [outcome] at reported
                  exact nomatch reported
              | _ =>
                  exact same (by rw [outcome]; simp)
    refine different ?_
    change ofConfig (applyParameterEvent 0 (progress.1.val, {}) event).1 = progress.1
    rw [kept, ofConfig_val]
  have all (events : List (Option ParamValueEvent)) (progress : StorableConfig × Bool)
      (same : (events.foldl applyEvent progress).2 = false) :
      progress.2 = false ∧ (events.foldl applyEvent progress).1 = progress.1 := by
    induction events generalizing progress with
    | nil => exact ⟨same, rfl⟩
    | cons event events ih =>
        obtain ⟨here, later⟩ := ih _ same
        obtain ⟨before, kept⟩ := stays here
        exact ⟨before, later.trans kept⟩
  cases input with
  | none => rfl
  | some events => exact (all events (config, false) unchanged).2

end StorableConfig

/-- The return of a publish of a request. -/
def RequestReturn.Publishes (request : StorableRequest) (outcome : RequestReturn) : Prop :=
  ∃ accepted, outcome = .published request accepted

/-- The return of a snapshot. -/
def RequestReturn.Shows (outcome : RequestReturn) : Prop := ∃ found, outcome = .snapshot found

/-- What the main thread's call is about in a stage, under a generation that has been drawn. -/
def LoadStage.Fits (stage : LoadStage) (base : Generation) (drawn : ℕ)
    (program : RequestProgram RequestReturn) : Prop :=
  match stage with
  | .idle | .numbering _ _ => program.IsDone
  | .publishing candidate generation _ => distance base generation ≤ drawn ∧
      program.Returns (·.Publishes (candidate.request generation))

/-- What the audio thread's call is about in a stage; it takes a snapshot only when nothing
is left to publish. -/
def AudioStage.Fits (stage : AudioStage) (base : Generation) (drawn : ℕ) (config : StorableConfig)
    (pending : Bool) (program : RequestProgram RequestReturn) : Prop :=
  match stage with
  | .idle | .renumbering _ | .applying _ | .numbering => program.IsDone
  | .republishing _ generation | .publishing generation => distance base generation ≤ drawn ∧
      program.Returns (·.Publishes (config.request generation))
  | .synchronizing _ => pending = false ∧ program.Returns (·.Shows)

/-- A stage of a load fits as well when more generations have been drawn. -/
theorem LoadStage.Fits.mono {stage : LoadStage} {base : Generation} {drawn later : ℕ}
    {program : RequestProgram RequestReturn} (fits : stage.Fits base drawn program)
    (more : drawn ≤ later) : stage.Fits base later program := by
  cases stage with
  | publishing candidate generation attempts => exact ⟨fits.1.trans more, fits.2⟩
  | _ => exact fits

theorem AudioStage.Fits.mono {stage : AudioStage} {base : Generation} {drawn later : ℕ}
    {config : StorableConfig} {pending : Bool} {program : RequestProgram RequestReturn}
    (fits : stage.Fits base drawn config pending program) (more : drawn ≤ later) :
    stage.Fits base later config pending program := by
  cases stage with
  | republishing input generation => exact ⟨fits.1.trans more, fits.2⟩
  | publishing generation => exact ⟨fits.1.trans more, fits.2⟩
  | _ => exact fits

/-- The audio thread has applied events that it has not published. -/
def AudioStage.hasApplied : AudioStage → Bool
  | .numbering | .publishing _ => true
  | _ => false

namespace RequestAdapter

/-- The two threads and the request between them, with the loads and events so far. -/
structure Linked (base : Generation) (drawn : ℕ) (adapter : RequestAdapter)
    (current : StorableRequest) (asked : StorableConfig) : Prop where
  served : adapter.configRequest.Served drawn current
  counter : distance base adapter.generationCounter = drawn
  behind : distance base current.generation ≤ drawn
  loaded : distance base adapter.mainGeneration ≤ distance base current.generation
  seen : distance base adapter.audioRequestGeneration ≤ distance base current.generation
  source : current.generation = adapter.audioRequestGeneration ∨
    current.generation = adapter.mainGeneration
  synced : current.generation = adapter.audioRequestGeneration →
    adapter.audioRequestedConfig = asked
  settled : current.config = asked.val ∨ adapter.audioPublicationPending = true ∨
    adapter.audioStage.hasApplied = true
  load : adapter.loadStage.Fits base drawn (adapter.configRequest.programs .main)
  audio : adapter.audioStage.Fits base drawn adapter.audioRequestedConfig
    adapter.audioPublicationPending (adapter.configRequest.programs .audio)

variable {base : Generation} {drawn : ℕ} {adapter : RequestAdapter} {current : StorableRequest}
  {asked : StorableConfig}

/-- What a step leads to, with at most one generation more. -/
def Leads (base : Generation) (drawn : ℕ) (outcome : RequestAdapter × List AdapterReport)
    (asked : StorableConfig) : Prop :=
  ∃ later ≤ drawn + 1, ∃ current,
    Linked base later outcome.1 current (outcome.2.foldl StorableConfig.after asked)

namespace Linked

/-- A thread draws a generation and starts to publish under it. -/
theorem draws (linked : Linked base drawn adapter current asked) (few : drawn + 1 < 2 ^ 63)
    (thread : ClapThread) (request : StorableRequest) :
    (adapter.numbered.calls thread (.publish request)).configRequest.Served (drawn + 1) current ∧
      distance base adapter.nextGeneration = drawn + 1 := by
  refine ⟨linked.served.publish (by omega) thread request, ?_⟩
  have counter := linked.counter
  unfold nextGeneration
  rw [distance_add_one (by omega), counter]

/-- The program of a publication publishes its request, whatever it returns. -/
theorem publishes_program (request : StorableRequest) :
    (RequestCall.publish request).program.Returns (·.Publishes request) :=
  Program.returns_bind _ fun accepted => ⟨accepted, rfl⟩

/-- The program of a snapshot shows what it has read. -/
theorem snapshot_program (attempts : ℕ) :
    (RequestCall.snapshot attempts).program.Returns (·.Shows) :=
  Program.returns_bind _ fun found => ⟨found, rfl⟩

/-- The main thread draws a generation. -/
theorem main_numbering (linked : Linked base drawn adapter current asked)
    (few : drawn + 1 < 2 ^ 63) {candidate : StorableConfig} {attempts : ℕ}
    (stage : adapter.loadStage = .numbering candidate attempts) :
    Leads base drawn adapter.mainStep asked := by
  have idle := linked.load
  rw [stage] at idle
  obtain ⟨served, next⟩ := linked.draws few .main (candidate.request adapter.nextGeneration)
  have program := RequestSystem.step_call_programs idle
    (.publish (candidate.request adapter.nextGeneration))
  have other : (adapter.configRequest.step (.call .main
      (.publish (candidate.request adapter.nextGeneration)))).1.programs .audio =
        adapter.configRequest.programs .audio :=
    (RequestSystem.step_programs_of_ne (by decide)).2 _
  unfold mainStep
  rw [stage]
  refine ⟨drawn + 1, le_rfl, current, ?_⟩
  exact {
    served := served
    counter := next
    behind := linked.behind.trans (Nat.le_succ drawn)
    loaded := linked.loaded
    seen := linked.seen
    source := linked.source
    synced := linked.synced
    settled := linked.settled
    load := ⟨next.le, program ▸ publishes_program _⟩
    audio := (other.symm ▸ linked.audio).mono (Nat.le_succ drawn) }

/-- The audio thread starts a snapshot when nothing is left to publish. -/
theorem synchronize (linked : Linked base drawn adapter current asked) (few : drawn < 2 ^ 63)
    (idle : (adapter.configRequest.programs .audio).IsDone)
    (published : adapter.audioPublicationPending = false) (met : current.config = asked.val)
    (input : ClapInputEvents) : Linked base drawn (adapter.synchronize input) current asked := by
  have program := RequestSystem.step_call_programs idle (.snapshot snapshotAttempts)
  have other : (adapter.configRequest.step (.call .audio (.snapshot snapshotAttempts))).1.programs
      .main = adapter.configRequest.programs .main :=
    (RequestSystem.step_programs_of_ne (by decide)).2 _
  exact {
    linked with
    served := linked.served.snapshot few .audio 2
    settled := .inl met
    load := other.symm ▸ linked.load
    audio := ⟨published, program ▸ snapshot_program _⟩ }

/-- A publish that is accepted is newer than what was requested. -/
theorem after_accepted (linked : Linked base drawn adapter current asked) (few : drawn < 2 ^ 63)
    {config : StorableConfig} {generation : Generation} {found : StorableRequest}
    (past : distance base generation ≤ drawn)
    (goes : current.after (.published (config.request generation) true) = some found) :
    distance base current.generation < distance base generation ∧
      found = config.request generation := by
  simp only [StorableRequest.after] at goes
  split_ifs at goes with newer
  obtain rfl := Option.some.inj goes
  have first : InWindow base generation := past.trans_lt few
  have second : InWindow base current.generation := linked.behind.trans_lt few
  exact ⟨(newer_iff (by decide) first second).mp newer, rfl⟩

/-- The main thread goes on with its publish, or returns from it. -/
theorem main_publishing (linked : Linked base drawn adapter current asked)
    (few : drawn < 2 ^ 63) {candidate : StorableConfig} {generation : Generation} {attempts : ℕ}
    (stage : adapter.loadStage = .publishing candidate generation attempts) :
    Leads base drawn adapter.mainStep asked := by
  have fits := linked.load
  rw [stage] at fits
  obtain ⟨past, returns⟩ := fits
  obtain ⟨next, served, goes⟩ := linked.served.step few .main
  have other : (adapter.configRequest.step (.step .main)).1.programs .audio =
      adapter.configRequest.programs .audio :=
    (RequestSystem.step_programs_of_ne (by decide)).1
  have audio := linked.audio
  rw [← other] at audio
  unfold mainStep
  rw [stage]
  dsimp only
  rcases RequestSystem.step_returns returns with
    ⟨more, silent⟩ | ⟨outcome, ⟨accepted, rfl⟩, returned, idle⟩
  · rw [silent] at goes ⊢
    obtain rfl := Option.some.inj goes
    have load : (LoadStage.publishing candidate generation attempts).Fits base drawn
        ((adapter.configRequest.step (.step .main)).1.programs .main) := ⟨past, more⟩
    exact ⟨drawn, Nat.le_succ drawn, current, { linked with served, load, audio }⟩
  · rw [returned] at goes ⊢
    obtain ⟨found, replaces, ended⟩ := registerAfter_cons goes
    obtain rfl := Option.some.inj ended
    refine ⟨drawn, Nat.le_succ drawn, found, ?_⟩
    cases accepted with
    | false =>
        obtain rfl := Option.some.inj replaces
        cases attempts with
        | zero => exact { linked with served, load := idle, audio }
        | succ attempts => exact { linked with served, load := idle, audio }
    | true =>
        obtain ⟨ahead, rfl⟩ := linked.after_accepted few past replaces
        have unseen : generation ≠ adapter.audioRequestGeneration := by
          intro same
          rw [same] at ahead
          exact absurd ahead (not_lt.mpr linked.seen)
        exact {
          served := served
          counter := linked.counter
          behind := past
          loaded := le_rfl
          seen := linked.seen.trans ahead.le
          source := .inr rfl
          synced := fun same => absurd same unseen
          settled := .inl rfl
          load := idle
          audio := audio }

/-- The main thread's call is not concerned by an action of the audio thread. -/
theorem load_of_audio (linked : Linked base drawn adapter current asked) :
    adapter.loadStage.Fits base drawn
      ((adapter.configRequest.step (.step .audio)).1.programs .main) := by
  rw [(RequestSystem.step_programs_of_ne (show ClapThread.main ≠ .audio by decide)).1]
  exact linked.load

/-- The audio thread has failed to publish, and goes on with a stage. -/
theorem audio_refused (linked : Linked base drawn adapter current asked)
    (served : (adapter.configRequest.step (.step .audio)).1.Served drawn current)
    {stage : AudioStage} (fits : stage.Fits base drawn adapter.audioRequestedConfig true
      ((adapter.configRequest.step (.step .audio)).1.programs .audio)) :
    Linked base drawn { adapter with
      configRequest := (adapter.configRequest.step (.step .audio)).1
      audioPublicationPending := true, audioStage := stage } current asked :=
  { linked with
    served, settled := .inr (.inl rfl), load := linked.load_of_audio, audio := fits }

/-- The audio thread has published what it had seen with its events, and goes on with a
stage. -/
theorem audio_accepted (linked : Linked base drawn adapter current asked) {generation : Generation}
    (past : distance base generation ≤ drawn)
    (served : (adapter.configRequest.step (.step .audio)).1.Served drawn
      (adapter.audioRequestedConfig.request generation))
    (ahead : distance base current.generation < distance base generation)
    (latest : current.generation = adapter.audioRequestGeneration) {stage : AudioStage}
    (fits : stage.Fits base drawn adapter.audioRequestedConfig false
      ((adapter.configRequest.step (.step .audio)).1.programs .audio)) :
    Linked base drawn { adapter with
      configRequest := (adapter.configRequest.step (.step .audio)).1
      audioRequestGeneration := generation, audioPublicationPending := false
      audioStage := stage } (adapter.audioRequestedConfig.request generation)
      asked where
  served := served
  counter := linked.counter
  behind := past
  loaded := linked.loaded.trans ahead.le
  seen := le_rfl
  source := .inl rfl
  synced _ := linked.synced latest
  settled := .inl (congrArg Subtype.val (linked.synced latest))
  load := linked.load_of_audio
  audio := fits

/-- The audio thread goes on with its publish or returns from it; when it is accepted, the
latest request is the one that the thread has seen. -/
theorem audio_publish (linked : Linked base drawn adapter current asked) (few : drawn < 2 ^ 63)
    (sees : adapter.SeesLoads (.step .audio)) {generation : Generation}
    (past : distance base generation ≤ drawn)
    (returns : (adapter.configRequest.programs .audio).Returns
      (·.Publishes (adapter.audioRequestedConfig.request generation))) :
    let request := adapter.audioRequestedConfig.request generation
    let next := adapter.configRequest.step (.step .audio)
    (next.2 = [] ∧ next.1.Served drawn current ∧
        (next.1.programs .audio).Returns (·.Publishes request)) ∨
      ((next.1.programs .audio).IsDone ∧
        ((next.2 = [(.audio, .published request false)] ∧ next.1.Served drawn current) ∨
          (next.2 = [(.audio, .published request true)] ∧ next.1.Served drawn request ∧
            distance base current.generation < distance base generation ∧
              current.generation = adapter.audioRequestGeneration))) := by
  intro request next
  obtain ⟨found, served, goes⟩ := linked.served.step few .audio
  rcases RequestSystem.step_returns returns with
    ⟨more, silent⟩ | ⟨outcome, ⟨accepted, rfl⟩, returned, idle⟩
  · rw [silent] at goes
    obtain rfl := Option.some.inj goes
    exact .inl ⟨silent, served, more⟩
  · rw [returned] at goes
    obtain ⟨found, replaces, ended⟩ := registerAfter_cons goes
    obtain rfl := Option.some.inj ended
    cases accepted with
    | false =>
        obtain rfl := Option.some.inj replaces
        exact .inr ⟨idle, .inl ⟨returned, served⟩⟩
    | true =>
        obtain ⟨ahead, rfl⟩ := linked.after_accepted few past replaces
        have fresh := sees (linked.served.completes_of_step returned)
        have first : InWindow base adapter.mainGeneration :=
          (linked.loaded.trans linked.behind).trans_lt few
        have second : InWindow base adapter.audioRequestGeneration :=
          (linked.seen.trans linked.behind).trans_lt few
        have latest : current.generation = adapter.audioRequestGeneration := by
          rcases linked.source with same | loaded
          · exact same
          · have older := mt (newer_iff (by decide) first second).mpr (Bool.eq_false_iff.mp fresh)
            have seen := linked.seen
            rw [loaded] at seen ⊢
            exact distance_inj (le_antisymm (not_lt.mp older) seen)
        exact .inr ⟨idle, .inr ⟨returned, served, ahead, latest⟩⟩

/-- The main thread's call is not concerned by the start of a call of the audio thread. -/
theorem load_of_call (linked : Linked base drawn adapter current asked) (call : RequestCall) :
    adapter.loadStage.Fits base (drawn + 1)
      ((adapter.configRequest.step (.call .audio call)).1.programs .main) := by
  rw [(RequestSystem.step_programs_of_ne (show ClapThread.main ≠ .audio by decide)).2]
  exact linked.load.mono (Nat.le_succ drawn)

/-- The audio thread draws a generation and goes on with a publish. -/
theorem audio_draws (linked : Linked base drawn adapter current asked) (few : drawn + 1 < 2 ^ 63)
    {stage : AudioStage} (settled : current.config = asked.val ∨
      adapter.audioPublicationPending = true ∨ stage.hasApplied = true)
    (fits : ∀ program : RequestProgram RequestReturn,
      program.Returns (·.Publishes (adapter.audioRequestedConfig.request adapter.nextGeneration)) →
        distance base adapter.nextGeneration ≤ drawn + 1 →
          stage.Fits base (drawn + 1) adapter.audioRequestedConfig adapter.audioPublicationPending
            program)
    (idle : (adapter.configRequest.programs .audio).IsDone) :
    Linked base (drawn + 1) { adapter.numbered.calls .audio
      (.publish (adapter.audioRequestedConfig.request adapter.nextGeneration)) with
        audioStage := stage } current asked := by
  obtain ⟨served, next⟩ :=
    linked.draws few .audio (adapter.audioRequestedConfig.request adapter.nextGeneration)
  have program := RequestSystem.step_call_programs idle
    (.publish (adapter.audioRequestedConfig.request adapter.nextGeneration))
  exact {
    linked with
    served
    counter := next
    behind := linked.behind.trans (Nat.le_succ drawn)
    settled
    load := linked.load_of_call _
    audio := fits _ (program ▸ publishes_program _) next.le }

/-- The audio thread goes on with its publish of what it has left from before. -/
theorem audio_republishing (linked : Linked base drawn adapter current asked)
    (few : drawn < 2 ^ 63) (sees : adapter.SeesLoads (.step .audio)) {input : ClapInputEvents}
    {generation : Generation} (stage : adapter.audioStage = .republishing input generation) :
    Leads base drawn adapter.audioStep asked := by
  have fits := linked.audio
  rw [stage] at fits
  obtain ⟨past, returns⟩ := fits
  unfold audioStep
  rw [stage]
  dsimp only
  rcases linked.audio_publish few sees past returns with
    ⟨silent, served, more⟩ | ⟨idle, ⟨returned, served⟩ | ⟨returned, served, ahead, latest⟩⟩
  · rw [silent]
    have audio : (AudioStage.republishing input generation).Fits base drawn
        adapter.audioRequestedConfig adapter.audioPublicationPending
        ((adapter.configRequest.step (.step .audio)).1.programs .audio) := ⟨past, more⟩
    exact ⟨drawn, Nat.le_succ drawn, current,
      { linked with
        served, settled := stage ▸ linked.settled, load := linked.load_of_audio, audio }⟩
  · rw [returned]
    exact ⟨drawn, Nat.le_succ drawn, current, linked.audio_refused served idle⟩
  · rw [returned]
    have applies : (AudioStage.applying input).Fits base drawn adapter.audioRequestedConfig false
        ((adapter.configRequest.step (.step .audio)).1.programs .audio) := idle
    have accepted := linked.audio_accepted past served ahead latest applies
    have met := congrArg Subtype.val (linked.synced latest)
    exact ⟨drawn, Nat.le_succ drawn, _, accepted.synchronize few idle rfl met input⟩

/-- The audio thread goes on with its publish of what the events have changed. -/
theorem audio_publishing (linked : Linked base drawn adapter current asked)
    (few : drawn < 2 ^ 63) (sees : adapter.SeesLoads (.step .audio)) {generation : Generation}
    (stage : adapter.audioStage = .publishing generation) :
    Leads base drawn adapter.audioStep asked := by
  have fits := linked.audio
  rw [stage] at fits
  obtain ⟨past, returns⟩ := fits
  unfold audioStep
  rw [stage]
  dsimp only
  rcases linked.audio_publish few sees past returns with
    ⟨silent, served, more⟩ | ⟨idle, ⟨returned, served⟩ | ⟨returned, served, ahead, latest⟩⟩
  · rw [silent]
    have audio : (AudioStage.publishing generation).Fits base drawn
        adapter.audioRequestedConfig adapter.audioPublicationPending
        ((adapter.configRequest.step (.step .audio)).1.programs .audio) := ⟨past, more⟩
    exact ⟨drawn, Nat.le_succ drawn, current,
      { linked with
        served, settled := stage ▸ linked.settled, load := linked.load_of_audio, audio }⟩
  · rw [returned]
    exact ⟨drawn, Nat.le_succ drawn, current, linked.audio_refused served idle⟩
  · rw [returned]
    exact ⟨drawn, Nat.le_succ drawn, _, linked.audio_accepted past served ahead latest idle⟩

/-- The audio thread goes on with its snapshot, or adopts what is newer. What it adopts has been
published by the main thread. -/
theorem audio_synchronizing (linked : Linked base drawn adapter current asked)
    (few : drawn < 2 ^ 63) {input : ClapInputEvents}
    (stage : adapter.audioStage = .synchronizing input) :
    Leads base drawn adapter.audioStep asked := by
  have fits := linked.audio
  have settled := linked.settled
  rw [stage] at fits settled
  obtain ⟨published, returns⟩ := fits
  have met : current.config = asked.val := by
    rcases settled with met | pending | applied
    · exact met
    · exact absurd (published.symm.trans pending) Bool.false_ne_true
    · exact absurd applied Bool.false_ne_true
  obtain ⟨next, served, goes⟩ := linked.served.step few .audio
  unfold audioStep
  rw [stage]
  dsimp only
  rcases RequestSystem.step_returns returns with
    ⟨more, silent⟩ | ⟨outcome, ⟨found, rfl⟩, returned, idle⟩
  · rw [silent] at goes ⊢
    obtain rfl := Option.some.inj goes
    have audio : (AudioStage.synchronizing input).Fits base drawn
        adapter.audioRequestedConfig adapter.audioPublicationPending
        ((adapter.configRequest.step (.step .audio)).1.programs .audio) := ⟨published, more⟩
    exact ⟨drawn, Nat.le_succ drawn, current,
      { linked with served, settled := .inl met, load := linked.load_of_audio, audio }⟩
  · rw [returned] at goes ⊢
    obtain ⟨after, stays, ended⟩ := registerAfter_cons goes
    obtain rfl := Option.some.inj ended
    refine ⟨drawn, Nat.le_succ drawn, current, ?_⟩
    cases found with
    | none =>
        obtain rfl := Option.some.inj stays
        exact { linked with
          served, settled := .inl met, load := linked.load_of_audio, audio := idle }
    | some snapshot =>
        obtain ⟨rfl, rfl⟩ := StorableRequest.after_snapshot stays
        dsimp only [adopt]
        split_ifs with newer
        · have adopted : StorableConfig.ofConfig after.config = asked := by
            rw [met, StorableConfig.ofConfig_val]
          exact {
            linked with
            served
            seen := le_rfl
            source := .inl rfl
            synced := fun _ => adopted
            settled := .inl met
            load := linked.load_of_audio
            audio := idle }
        · exact { linked with
            served, settled := .inl met, load := linked.load_of_audio, audio := idle }

/-- The audio thread applies the events to what it has seen. -/
theorem audio_applying (linked : Linked base drawn adapter current asked)
    {input : ClapInputEvents} (stage : adapter.audioStage = .applying input) :
    Leads base drawn adapter.audioStep asked := by
  have idle := linked.audio
  have settled := linked.settled
  rw [stage] at idle settled
  unfold audioStep
  rw [stage]
  dsimp only
  refine ⟨drawn, Nat.le_succ drawn, current, ?_⟩
  split_ifs with changed
  · exact {
      linked with
      synced := fun same =>
        congrArg (fun config => (config.applyEvents input).1) (linked.synced same)
      settled := .inr (.inr rfl)
      audio := idle }
  · have same := StorableConfig.applyEvents_unchanged (Bool.eq_false_iff.mpr changed)
    rw [same]
    exact {
      linked with
      settled := settled.imp_right fun waits => waits.imp_right fun applied => nomatch applied
      audio := idle }

/-- A step of the main thread keeps the adapter linked to what has been asked. -/
theorem main_step (linked : Linked base drawn adapter current asked) (few : drawn + 1 < 2 ^ 63) :
    Leads base drawn adapter.mainStep asked := by
  cases stage : adapter.loadStage with
  | idle =>
      unfold mainStep
      rw [stage]
      exact ⟨drawn, Nat.le_succ drawn, current, linked⟩
  | numbering candidate attempts => exact linked.main_numbering few stage
  | publishing candidate generation attempts => exact linked.main_publishing (by omega) stage

theorem audio_step (linked : Linked base drawn adapter current asked) (few : drawn + 1 < 2 ^ 63)
    (sees : adapter.SeesLoads (.step .audio)) : Leads base drawn adapter.audioStep asked := by
  have audio := linked.audio
  have settled := linked.settled
  cases stage : adapter.audioStage with
  | idle =>
      unfold audioStep
      rw [stage]
      exact ⟨drawn, Nat.le_succ drawn, current, linked⟩
  | renumbering input =>
      rw [stage] at audio settled
      unfold audioStep
      rw [stage]
      exact ⟨drawn + 1, le_rfl, current,
        linked.audio_draws few settled (fun _ returns past => ⟨past, returns⟩) audio⟩
  | republishing input generation => exact linked.audio_republishing (by omega) sees stage
  | synchronizing input => exact linked.audio_synchronizing (by omega) stage
  | applying input => exact linked.audio_applying stage
  | numbering =>
      rw [stage] at audio
      unfold audioStep
      rw [stage]
      exact ⟨drawn + 1, le_rfl, current,
        linked.audio_draws few (.inr (.inr rfl)) (fun _ returns past => ⟨past, returns⟩) audio⟩
  | publishing generation => exact linked.audio_publishing (by omega) sees stage

/-- One event, of either thread or the host. -/
theorem step (linked : Linked base drawn adapter current asked) (few : drawn + 1 < 2 ^ 63)
    {event : AdapterEvent} (sees : adapter.SeesLoads event) :
    Leads base drawn (adapter.step event) asked := by
  have stays : Leads base drawn (adapter, []) asked :=
    ⟨drawn, Nat.le_succ drawn, current, linked⟩
  cases event with
  | stateLoad candidate =>
      have load := linked.load
      unfold RequestAdapter.step
      dsimp only
      cases stage : adapter.loadStage with
      | idle =>
          rw [stage] at load
          exact ⟨drawn, Nat.le_succ drawn, current, { linked with load := load }⟩
      | _ => exact stays
  | handle input =>
      have audio := linked.audio
      have settled := linked.settled
      unfold RequestAdapter.step
      dsimp only
      cases stage : adapter.audioStage with
      | idle =>
          rw [stage] at audio settled
          dsimp only
          split_ifs with pending
          · exact ⟨drawn, Nat.le_succ drawn, current,
              { linked with settled := .inr (.inl pending), audio := audio }⟩
          · have published : adapter.audioPublicationPending = false :=
              Bool.eq_false_iff.mpr pending
            have met : current.config = asked.val := by
              refine settled.resolve_right fun waits => ?_
              rcases waits with waits | applied
              · exact pending waits
              · exact absurd applied Bool.false_ne_true
            exact ⟨drawn, Nat.le_succ drawn, current,
              linked.synchronize (by omega) audio published met input⟩
      | _ => exact stays
  | step thread =>
      cases thread with
      | main => exact linked.main_step few
      | audio => exact linked.audio_step few sees

/-- At the start the adapter has been asked for nothing but its first configuration. -/
theorem start (config : StorableConfig) (generation : Generation) :
    Linked generation 0 (.start config generation) (config.request generation) config where
  served := RequestSystem.Served.start _
  counter := distance_self generation
  behind := (distance_self generation).le
  loaded := le_rfl
  seen := le_rfl
  source := .inl rfl
  synced _ := rfl
  settled := .inl rfl
  load := trivial
  audio := trivial

/-- Along every run in which the audio thread sees the loads it publishes after. -/
theorem run (config : StorableConfig) (generation : Generation) (events : List AdapterEvent)
    (few : events.length < 2 ^ 63)
    (sees : machine.Meets SeesLoads (.start config generation) events) :
    ∃ drawn ≤ events.length, ∃ current,
      Linked generation drawn (machine.run (.start config generation) events).1 current
        (config.replay (machine.run (.start config generation) events).2) := by
  induction events using List.reverseRecOn with
  | nil => exact ⟨0, le_rfl, _, start config generation⟩
  | append_singleton events event ih =>
      obtain ⟨before, here⟩ := machine.meets_concat.mp sees
      rw [List.length_append, List.length_singleton] at few ⊢
      obtain ⟨drawn, bound, current, linked⟩ := ih (by omega) before
      obtain ⟨later, more, next, goes⟩ := linked.step (by omega) here
      rw [machine.run_concat]
      refine ⟨later, by omega, next, ?_⟩
      unfold StorableConfig.replay at linked ⊢
      rw [List.foldl_append]
      exact goes

end Linked

/-- When both threads are done, the configuration that is requested is what the loads and the
events make of it one after the other, in every run in which the audio thread publishes
nothing on top of a configuration older than the latest load. -/
theorem requested_config_serial (config : StorableConfig) (generation : Generation)
    (events : List AdapterEvent) (few : events.length < 2 ^ 63)
    (sees : machine.Meets SeesLoads (start config generation) events) :
    let adapter := (machine.run (start config generation) events).1
    let log := (machine.run (start config generation) events).2
    adapter.finished = true →
      (requestOfWords adapter.configRequest.memory.registers).config = (config.replay log).val := by
  intro adapter log finished
  obtain ⟨drawn, -, current, linked⟩ := Linked.run config generation events few sees
  change Linked generation drawn adapter current (config.replay log) at linked
  unfold RequestAdapter.finished at finished
  rw [Bool.and_eq_true, Bool.and_eq_true, Bool.not_eq_true'] at finished
  obtain ⟨⟨loads, handles⟩, published⟩ := finished
  have load := linked.load
  have audio := linked.audio
  have settled := linked.settled
  cases loadStage : adapter.loadStage with
  | numbering | publishing =>
      rw [loadStage] at loads
      exact absurd loads Bool.false_ne_true
  | idle =>
      cases audioStage : adapter.audioStage with
      | idle =>
          rw [loadStage] at load
          rw [audioStage] at audio settled
          have idle (thread : ClapThread) : (adapter.configRequest.programs thread).IsDone := by
            cases thread with
            | main => exact load
            | audio => exact audio
          rw [linked.served.shown idle]
          rcases settled with met | pending | applied
          · exact met
          · exact absurd (published.symm.trans pending) Bool.false_ne_true
          · exact absurd applied Bool.false_ne_true
      | _ =>
          rw [audioStage] at handles
          exact absurd handles Bool.false_ne_true

/-- The configuration that the example starts with. -/
def defaultConfig : StorableConfig := .ofConfig {}

/-- The configuration that the example loads. -/
def savedConfig : StorableConfig := .ofConfig { midiChannel := 5 }

/-- Sensitivity is set to sixty. -/
def sensitivityEvent : ClapInputEvents := some [some { paramId := 0x4D330005, value := some 60 }]

/-- A state is loaded, then an event is handled. -/
def loadBeforeEvent : List AdapterEvent :=
  [.stateLoad savedConfig] ++ List.replicate 20 (.step .main) ++ [.handle sensitivityEvent] ++
    List.replicate 38 (.step .audio)

/-- A project is loaded before an event, and the request has both. -/
theorem requested_config_serial_loadBeforeEvent :
    let adapter := (machine.run (start defaultConfig 1) loadBeforeEvent).1
    adapter.finished = true ∧
      (requestOfWords adapter.configRequest.memory.registers).config =
        (savedConfig.applyEvents sensitivityEvent).1.val := by
  have few : loadBeforeEvent.length < 2 ^ 63 := by decide
  have sees : machine.Meets SeesLoads (start defaultConfig 1) loadBeforeEvent := by decide +kernel
  have finished : (machine.run (start defaultConfig 1) loadBeforeEvent).1.finished = true := by
    decide +kernel
  refine ⟨finished, ?_⟩
  rw [requested_config_serial defaultConfig 1 loadBeforeEvent few sees finished]
  decide +kernel

/-- A state is loaded between the snapshot and the publish of the audio thread. -/
def loadWithinHandling : List AdapterEvent :=
  [.handle sensitivityEvent] ++ List.replicate 17 (.step .audio) ++ [.stateLoad savedConfig] ++
    List.replicate 20 (.step .main) ++ List.replicate 21 (.step .audio)

/-- What is requested then is neither the loaded state nor that state with the event: the
event is on top of the configuration that was requested before. -/
theorem loadWithinHandling_stale :
    let adapter := (machine.run (start defaultConfig 1) loadWithinHandling).1
    let requested := (requestOfWords adapter.configRequest.memory.registers).config
    adapter.finished = true ∧ adapter.mainConfig = savedConfig ∧
      requested ≠ savedConfig.val ∧ requested ≠ (savedConfig.applyEvents sensitivityEvent).1.val ∧
        requested = (defaultConfig.applyEvents sensitivityEvent).1.val := by
  decide +kernel

end RequestAdapter

end M3Midi
