import M3Midi.Component.M3Component
import M3Midi.Foundation.ByteCodec
import M3Midi.Foundation.SequenceLock
import M3Midi.Foundation.Transducer

/-! # The configuration request between threads

Any thread may publish a configuration or take a snapshot of it. A sequence number
guards fourteen fields and a generation, each an atomic word: a publisher makes it odd
by a compare-and-swap, and gives up when it does not succeed at once; a snapshot is
taken when the number is even and the same before and after. Here both are programs of
atomic actions, and any number of threads run them.
-/

namespace M3Midi

open Foundation

/-- The registers under the sequence number: `fields_` and `generation_`. The fields are separate
atomics in the source, and so they are read and written one by one. -/
inductive RequestRegister
  | field (field : PersistentField)
  | generation
  deriving DecidableEq

/-- A word of the request register. -/
abbrev RequestWord := BitVec 64

/-- The word `store_fields` stores for a field. -/
def fieldWord (config : PersistentConfig) : PersistentField → RequestWord
  | .midiRouting => match config.midiRouting with | .single => 0 | .perVoice => 1
  | .profileMode => match config.profileMode with | .m3 => 0 | .general => 1
  | .a4Hz => BitVec.ofNat 64 (bitsOfDouble config.a4Hz)
  | .inputTrimDb => BitVec.ofNat 64 (bitsOfDouble config.inputTrimDb)
  | .sensitivity => BitVec.ofNat 64 config.sensitivity
  | .response => BitVec.ofNat 64 config.response
  | .lowestNote => BitVec.ofNat 64 config.lowestNote
  | .highestNote => BitVec.ofNat 64 config.highestNote
  | .maxPolyphony => BitVec.ofNat 64 config.maxPolyphony
  | .maxFret => BitVec.ofNat 64 config.maxFret
  | .velocityMode => match config.velocityMode with | .fixed => 0 | .dynamic => 1
  | .fixedVelocity => BitVec.ofNat 64 config.fixedVelocity
  | .midiChannel => BitVec.ofNat 64 config.midiChannel
  | .dryPassthrough => if config.dryPassthrough then 1 else 0

/-- The low byte of a word, as `load_fields` casts it. -/
def wordByte (word : RequestWord) : Nat := word.toNat % 256

/-- The double of a word's bits. -/
def wordDouble (word : RequestWord) : ℚ := (doubleOfBits word.toNat).getD 0

/-- The configuration `load_fields` makes of the words it has loaded. -/
def configOfWords (words : RequestRegister → RequestWord) : PersistentConfig where
  midiRouting := if words (.field .midiRouting) = 0 then .single else .perVoice
  profileMode := if words (.field .profileMode) = 0 then .m3 else .general
  a4Hz := wordDouble (words (.field .a4Hz))
  inputTrimDb := wordDouble (words (.field .inputTrimDb))
  sensitivity := wordByte (words (.field .sensitivity))
  response := wordByte (words (.field .response))
  lowestNote := wordByte (words (.field .lowestNote))
  highestNote := wordByte (words (.field .highestNote))
  maxPolyphony := wordByte (words (.field .maxPolyphony))
  maxFret := wordByte (words (.field .maxFret))
  velocityMode := if words (.field .velocityMode) = 0 then .fixed else .dynamic
  fixedVelocity := wordByte (words (.field .fixedVelocity))
  midiChannel := wordByte (words (.field .midiChannel))
  dryPassthrough := words (.field .dryPassthrough) ≠ 0

/-- The words of a request. -/
def ConfigRequestSnapshot.words (request : ConfigRequestSnapshot) : RequestRegister → RequestWord
  | .field field => fieldWord request.config field
  | .generation => request.generation

/-- The request that words make up. -/
def requestOfWords (words : RequestRegister → RequestWord) : ConfigRequestSnapshot where
  config := configOfWords words
  generation := words .generation

/-- The value is one of a double's. -/
def IsDouble (value : ℚ) : Prop :=
  bitsOfDouble value < 2 ^ 64 ∧ doubleOfBits (bitsOfDouble value) = some value

/-- Whether a double can represent a number can be computed. -/
instance (value : ℚ) : Decidable (IsDouble value) := inferInstanceAs (Decidable (_ ∧ _))

/-- The fields fit their types: bytes and doubles. -/
def PersistentConfig.Storable (config : PersistentConfig) : Prop :=
  IsDouble config.a4Hz ∧ IsDouble config.inputTrimDb ∧
    ∀ byte ∈ [config.sensitivity, config.response, config.lowestNote, config.highestNote,
      config.maxPolyphony, config.maxFret, config.fixedVelocity, config.midiChannel], byte < 256

instance (config : PersistentConfig) : Decidable config.Storable :=
  inferInstanceAs (Decidable (_ ∧ _))

/-- A request whose fields fit their types. -/
structure StorableRequest extends ConfigRequestSnapshot where
  storable : config.Storable

/-- A number below 256 is read back from its word. -/
theorem wordByte_ofNat {byte : Nat} (fits : byte < 256) :
    wordByte (BitVec.ofNat 64 byte) = byte := by
  rw [wordByte, BitVec.toNat_ofNat, Nat.mod_eq_of_lt (show byte < 2 ^ 64 by omega),
    Nat.mod_eq_of_lt fits]

/-- A number that a double can represent is read back from its bits. -/
theorem wordDouble_bits {value : ℚ} (double : IsDouble value) :
    wordDouble (BitVec.ofNat 64 (bitsOfDouble value)) = value := by
  rw [wordDouble, BitVec.toNat_ofNat, Nat.mod_eq_of_lt double.1, double.2, Option.getD_some]

/-- What is stored field by field is loaded again. -/
theorem requestOfWords_words (request : StorableRequest) :
    requestOfWords request.words = request.toConfigRequestSnapshot := by
  obtain ⟨⟨config, generation⟩, a4Hz, inputTrimDb, bytes⟩ := request
  simp only [List.forall_mem_cons] at bytes
  obtain ⟨sensitivity, response, lowest, highest, polyphony, fret, velocity, channel, -⟩ := bytes
  have fields : configOfWords (ConfigRequestSnapshot.words ⟨config, generation⟩) = config := by
    unfold configOfWords
    simp only [ConfigRequestSnapshot.words, fieldWord, wordDouble_bits a4Hz,
      wordDouble_bits inputTrimDb, wordByte_ofNat sensitivity, wordByte_ofNat response,
      wordByte_ofNat lowest, wordByte_ofNat highest, wordByte_ofNat polyphony,
      wordByte_ofNat fret, wordByte_ofNat velocity, wordByte_ofNat channel]
    obtain ⟨routing, profile, _, _, _, _, _, _, _, _, mode, _, _, dry⟩ := config
    cases routing <;> cases profile <;> cases mode <;> cases dry <;> rfl
  rw [requestOfWords, fields]
  rfl

/-- The memory of an `AtomicConfigRequest`. -/
structure RequestMemory where
  sequence : RequestWord := 0
  registers : RequestRegister → RequestWord

/-- One atomic access to the request register. The accesses of all threads fall into one order
here, whatever memory orders the source asks for. -/
inductive RequestAction
  | loadSequence
  | exchangeSequence (expected desired : RequestWord)
  | storeSequence (word : RequestWord)
  | load (register : RequestRegister)
  | store (register : RequestRegister) (word : RequestWord)

/-- What an access answers. -/
def RequestAction.Answer : RequestAction → Type
  | .loadSequence | .load _ => RequestWord
  | .exchangeSequence _ _ => Bool
  | .storeSequence _ | .store _ _ => Unit

/-- The effect of one atomic action, with its answer. -/
def RequestMemory.apply (memory : RequestMemory) :
    (action : RequestAction) → action.Answer × RequestMemory
  | .loadSequence => (memory.sequence, memory)
  | .exchangeSequence expected desired =>
      if memory.sequence = expected then (true, { memory with sequence := desired })
      else (false, memory)
  | .storeSequence word => ((), { memory with sequence := word })
  | .load register => (memory.registers register, memory)
  | .store register word =>
      ((), { memory with registers := Function.update memory.registers register word })

/-- What a thread does with the register, one access at a time. -/
abbrev RequestProgram (Result : Type) := Program RequestAction RequestAction.Answer Result

namespace RequestProgram

/-- The load of the sequence. -/
def loadSequence : RequestProgram RequestWord := Program.perform RequestAction.loadSequence

/-- The compare-exchange of the sequence, which tells whether it has succeeded. -/
def exchangeSequence (expected desired : RequestWord) : RequestProgram Bool :=
  Program.perform (RequestAction.exchangeSequence expected desired)

/-- The store of the sequence. -/
def storeSequence (word : RequestWord) : RequestProgram Unit :=
  Program.perform (RequestAction.storeSequence word)

/-- The load of one of the protected registers. -/
def load (register : RequestRegister) : RequestProgram RequestWord :=
  Program.perform (RequestAction.load register)

/-- The store to one of the protected registers. -/
def store (register : RequestRegister) (word : RequestWord) : RequestProgram Unit :=
  Program.perform (RequestAction.store register word)

/-- The field registers, in the order of `fields_`. -/
def fieldRegisters : List RequestRegister := PersistentField.all.map .field

/-- The stores of `store_fields` that remain. -/
def storeFields (words : RequestRegister → RequestWord) :
    List RequestRegister → RequestProgram Unit
  | [] => pure ()
  | register :: rest => do
      store register (words register)
      storeFields words rest

/-- The loads of a snapshot that remain, into a copy. -/
def loadFields : List RequestRegister → (RequestRegister → RequestWord) →
    RequestProgram (RequestRegister → RequestWord)
  | [], copy => pure copy
  | register :: rest, copy => do
      let word ← load register
      loadFields rest (Function.update copy register word)

/-- `publish`: the register is locked, compared by generation, rewritten if the request is newer,
and unlocked. -/
def publish (request : ConfigRequestSnapshot) : RequestProgram Bool := do
  let sequence ← loadSequence
  if SequenceLock.odd sequence then pure false
  else
    let exchanged ← exchangeSequence sequence (sequence + 1)
    if exchanged then
      let currentGeneration ← load .generation
      if generationNewer request.generation currentGeneration then
        storeFields request.words fieldRegisters
        store .generation request.generation
        storeSequence (sequence + 2)
        pure true
      else
        storeSequence (sequence + 2)
        pure false
    else pure false

/-- The attempts of `snapshot` that remain. -/
def snapshot : Nat → RequestProgram (Option ConfigRequestSnapshot)
  | 0 => pure none
  | attempts + 1 => do
      let before ← loadSequence
      if SequenceLock.odd before then snapshot attempts
      else
        let words ← loadFields (.generation :: fieldRegisters) fun _ => 0
        let after ← loadSequence
        if before = after ∧ SequenceLock.odd after = false then
          pure (some (requestOfWords words))
        else snapshot attempts

end RequestProgram

/-- What a thread asks of the request. -/
inductive RequestCall
  | publish (request : StorableRequest)
  | snapshot (maximumAttempts : Nat)

/-- What a call has returned. -/
inductive RequestReturn
  | published (request : StorableRequest) (accepted : Bool)
  | snapshot (outcome : Option ConfigRequestSnapshot)

/-- The program of a call. -/
def RequestCall.program : RequestCall → RequestProgram RequestReturn
  | .publish request => do
      let accepted ← RequestProgram.publish request.toConfigRequestSnapshot
      pure (.published request accepted)
  | .snapshot maximumAttempts => do
      let outcome ← RequestProgram.snapshot maximumAttempts
      pure (.snapshot outcome)

/-- A request, and the threads with the rest of their calls. There may be any number of threads,
and each may publish and read. -/
structure RequestSystem (Thread : Type) where
  memory : RequestMemory
  programs : Thread → RequestProgram RequestReturn := fun _ => .done (.snapshot none)

/-- What the threads and their scheduler may do next. -/
inductive RequestEvent (Thread : Type)
  | call (thread : Thread) (call : RequestCall)
  | step (thread : Thread)

namespace RequestSystem

variable {Thread : Type} [DecidableEq Thread]

/-- The return of a program that has just come to its end. -/
def returns (thread : Thread) : RequestProgram RequestReturn → List (Thread × RequestReturn)
  | .done outcome => [(thread, outcome)]
  | .act _ _ => []

/-- A thread goes on with a program. -/
def proceed (system : RequestSystem Thread) (thread : Thread) (memory : RequestMemory)
    (program : RequestProgram RequestReturn) :
    RequestSystem Thread × List (Thread × RequestReturn) :=
  ({ memory, programs := Function.update system.programs thread program },
    returns thread program)

/-- One event, with what returns. A thread starts a call only when it has returned from
the last one. -/
def step (system : RequestSystem Thread) :
    RequestEvent Thread → RequestSystem Thread × List (Thread × RequestReturn)
  | .call thread call =>
      match system.programs thread with
      | .done _ => system.proceed thread system.memory call.program
      | .act _ _ => (system, [])
  | .step thread =>
      match system.programs thread with
      | .done _ => (system, [])
      | .act action next =>
          let outcome := system.memory.apply action
          system.proceed thread outcome.2 (next outcome.1)

/-- The threads as a machine that emits what returns. -/
def machine : Transducer (RequestEvent Thread) (RequestSystem Thread) (Thread × RequestReturn) where
  step := step

/-- The request as it is constructed, before any call. -/
def start (initial : StorableRequest) : RequestSystem Thread where
  memory := { registers := initial.words }

end RequestSystem

end M3Midi
