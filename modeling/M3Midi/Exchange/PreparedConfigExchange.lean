import M3Midi.Foundation.AtomicProgram
import M3Midi.Foundation.SerialNumber
import Mathlib.Data.List.FinRange
import Mathlib.Logic.Function.Basic

/-! # The prepared-configuration exchange

A producer on the main thread publishes prepared configurations and a consumer
on the audio thread claims the newest one. Neither waits: three slots carry an
atomic state and an atomic generation, and each side takes a slot by a
compare-and-swap on its state. `publish`, `claimLatest`, `commit` and `cancel`
are programs of these atomic actions, so that they can run alone or interleaved.
-/

namespace M3Midi

open Foundation

/-- Slots of the exchange (`kSlotCount`). -/
abbrev slotCount : Nat := 3

/-- There is a first slot. -/
instance : NeZero slotCount := ⟨by decide⟩

/-- A generation, which may wrap. -/
abbrev Generation := BitVec 64

/-- Generations wrap; see `SerialNumber.newer`. -/
def generationNewer (candidate reference : Generation) : Bool :=
  SerialNumber.newer candidate reference

/-- `PreparedSlotState`: who may use a slot. -/
inductive PreparedSlotState
  | free
  | writing
  | ready
  | audioClaimed
  | active
  deriving DecidableEq, Repr

/-- A slot of the exchange, with what it carries and under which generation. The contents are
written before the slot is ready, and read only while it is claimed or active. -/
structure PreparedSlot (Payload : Type) where
  prepared : Payload
  generation : Generation := 0
  state : PreparedSlotState := .free

/-- A slot the consumer holds (`PreparedConfigExchange::Claim`). -/
structure Claim where
  index : Fin slotCount
  generation : Generation
  deriving DecidableEq, Repr

/-- The exchange. `publisherGeneration` belongs to the producer; `activeIndex`,
`activeGeneration` and the outstanding claim belong to the consumer. -/
structure PreparedConfigExchange (Payload : Type) where
  slots : Fin slotCount → PreparedSlot Payload
  activeIndex : Fin slotCount := 0
  activeGeneration : Generation := 0
  publisherGeneration : Generation := 0
  initialized : Bool := false
  claim : Option Claim := none

/-- The atomic actions. A store that is followed by writes to fields of the
storing party alone carries these writes with it. -/
inductive ExchangeAction (Payload : Type)
  | loadState (index : Fin slotCount)
  | loadGeneration (index : Fin slotCount)
  | claimState (index : Fin slotCount) (expected desired : PreparedSlotState)
  | storeState (index : Fin slotCount) (state : PreparedSlotState)
  | writePrepared (index : Fin slotCount) (prepared : Payload)
  | storeGeneration (index : Fin slotCount) (generation : Generation)
  /-- The ready store of `publish`, then `publisher_generation_`. -/
  | storePublished (index : Fin slotCount) (generation : Generation)
  /-- `claim_latest` fills the claim it returns. -/
  | fillClaim (claim : Claim)
  /-- The active store of `commit`, then the active fields and the spent claim. -/
  | storeActive (claim : Claim)
  /-- The ready store of `cancel`, then the spent claim. -/
  | storeReturned (index : Fin slotCount)

/-- What an action answers. -/
def ExchangeAction.Answer {Payload : Type} : ExchangeAction Payload → Type
  | .loadState _ => PreparedSlotState
  | .loadGeneration _ => Generation
  | .claimState _ _ _ => Bool
  | _ => Unit

namespace PreparedConfigExchange

variable {Payload : Type}

/-- The exchange with one slot rewritten. -/
def modifySlot (exchange : PreparedConfigExchange Payload) (index : Fin slotCount)
    (change : PreparedSlot Payload → PreparedSlot Payload) : PreparedConfigExchange Payload :=
  { exchange with
    slots := Function.update exchange.slots index (change (exchange.slots index)) }

/-- The exchange with the state of one slot changed. -/
def setState (exchange : PreparedConfigExchange Payload) (index : Fin slotCount)
    (state : PreparedSlotState) : PreparedConfigExchange Payload :=
  exchange.modifySlot index fun slot => { slot with state }

/-- The effect of one atomic action, with its answer. Loads change nothing, and a compare-exchange
changes the state only if it is the expected one. -/
def apply (exchange : PreparedConfigExchange Payload) :
    (action : ExchangeAction Payload) → action.Answer × PreparedConfigExchange Payload
  | .loadState index => ((exchange.slots index).state, exchange)
  | .loadGeneration index => ((exchange.slots index).generation, exchange)
  | .claimState index expected desired =>
      if (exchange.slots index).state = expected then (true, exchange.setState index desired)
      else (false, exchange)
  | .storeState index state => ((), exchange.setState index state)
  | .writePrepared index prepared =>
      ((), exchange.modifySlot index fun slot => { slot with prepared })
  | .storeGeneration index generation =>
      ((), exchange.modifySlot index fun slot => { slot with generation })
  | .storePublished index generation =>
      ((), { exchange.setState index .ready with publisherGeneration := generation })
  | .fillClaim claim => ((), { exchange with claim := some claim })
  | .storeActive claim =>
      ((), { exchange.setState claim.index .active with
        activeIndex := claim.index
        activeGeneration := claim.generation
        claim := none })
  | .storeReturned index => ((), { exchange.setState index .ready with claim := none })

/-- The slots are free again; their payloads stay. -/
def reset (exchange : PreparedConfigExchange Payload) : PreparedConfigExchange Payload where
  slots := fun index => { exchange.slots index with state := .free, generation := 0 }

/-- `initialize`: the first slot is active, and the others are free. -/
def initializeExchange (exchange : PreparedConfigExchange Payload) (initial : Payload)
    (generation : Generation) : PreparedConfigExchange Payload :=
  { exchange.reset with
    slots := Function.update exchange.reset.slots 0 ⟨initial, generation, .active⟩
    activeIndex := 0
    activeGeneration := generation
    publisherGeneration := generation
    initialized := true }

/-- The prepared configuration the consumer runs. -/
def active (exchange : PreparedConfigExchange Payload) : Payload :=
  (exchange.slots exchange.activeIndex).prepared

end PreparedConfigExchange

/-- A program of the exchange. -/
abbrev ExchangeProgram (Payload Result : Type) :=
  Program (ExchangeAction Payload) ExchangeAction.Answer Result

namespace ExchangeProgram

open PreparedConfigExchange

variable {Payload : Type}

/-- The load of a slot's state. -/
def loadState (index : Fin slotCount) : ExchangeProgram Payload PreparedSlotState :=
  Program.perform (ExchangeAction.loadState index)

/-- The load of a slot's generation. -/
def loadGeneration (index : Fin slotCount) : ExchangeProgram Payload Generation :=
  Program.perform (ExchangeAction.loadGeneration index)

/-- The compare-exchange of a slot's state, which tells whether it has succeeded. -/
def claimState (index : Fin slotCount) (expected desired : PreparedSlotState) :
    ExchangeProgram Payload Bool :=
  Program.perform (ExchangeAction.claimState index expected desired)

/-- The store of a slot's state. -/
def storeState (index : Fin slotCount) (state : PreparedSlotState) :
    ExchangeProgram Payload Unit :=
  Program.perform (ExchangeAction.storeState index state)

/-- Slots in index order. -/
def slotOrder : List (Fin slotCount) := List.finRange slotCount

/-- The producer's first scan stops at a free slot. -/
def findFree : List (Fin slotCount) → ExchangeProgram Payload (Option (Fin slotCount))
  | [] => pure none
  | index :: rest => do
      let state ← loadState index
      if state = .free then pure (some index) else findFree rest

/-- The producer's second scan finds the ready slot of the oldest generation. -/
def findOldestReady : List (Fin slotCount) → Option (Fin slotCount × Generation) →
    ExchangeProgram Payload (Option (Fin slotCount × Generation))
  | [], oldest => pure oldest
  | index :: rest, oldest => do
      let state ← loadState index
      if state ≠ .ready then findOldestReady rest oldest
      else
        let slotGeneration ← loadGeneration index
        match oldest with
        | none => findOldestReady rest (some (index, slotGeneration))
        | some (selected, oldestGeneration) =>
            if generationNewer oldestGeneration slotGeneration then
              findOldestReady rest (some (index, slotGeneration))
            else findOldestReady rest (some (selected, oldestGeneration))

/-- The slot one publishing attempt takes, and the state it expects there. -/
def selectPublishSlot : ExchangeProgram Payload (Option (Fin slotCount × PreparedSlotState)) := do
  let selected ← findFree slotOrder
  match selected with
  | some index => pure (some (index, .free))
  | none =>
      let oldest ← findOldestReady slotOrder none
      match oldest with
      | some (index, _) => pure (some (index, .ready))
      | none => pure none

/-- The publisher writes the slot it has taken. -/
def writeSlot (prepared : Payload) (generation : Generation) (selected : Fin slotCount) :
    ExchangeProgram Payload Bool := do
  let _ ← Program.perform (ExchangeAction.writePrepared selected prepared)
  let _ ← Program.perform (ExchangeAction.storeGeneration selected generation)
  let _ ← Program.perform (ExchangeAction.storePublished selected generation)
  pure true

/-- The attempts of `publish` that remain. An attempt is lost when the consumer takes the slot
between the look at it and the exchange. -/
def publishAttempts (prepared : Payload) (generation : Generation) :
    Nat → ExchangeProgram Payload Bool
  | 0 => pure false
  | attempts + 1 => do
      let choice ← selectPublishSlot
      match choice with
      | none => pure false
      | some (selected, expected) =>
          let claimed ← claimState selected expected .writing
          if claimed then writeSlot prepared generation selected
          else publishAttempts prepared generation attempts

/-- `publish`: the generation has to be newer than the last one, and a slot has to be found in a
bounded number of attempts. -/
def publish (exchange : PreparedConfigExchange Payload) (prepared : Payload)
    (generation : Generation) : ExchangeProgram Payload Bool :=
  if exchange.initialized = false ∨
      generationNewer generation exchange.publisherGeneration = false then pure false
  else publishAttempts prepared generation slotCount

/-- The consumer's scan finds the ready slot of the newest generation. -/
def findNewestReady : List (Fin slotCount) → Option (Fin slotCount) → Generation →
    ExchangeProgram Payload (Option (Fin slotCount))
  | [], selected, _ => pure selected
  | index :: rest, selected, newestGeneration => do
      let state ← loadState index
      if state ≠ .ready then findNewestReady rest selected newestGeneration
      else
        let slotGeneration ← loadGeneration index
        if generationNewer slotGeneration newestGeneration then
          findNewestReady rest (some index) slotGeneration
        else findNewestReady rest selected newestGeneration

/-- Is some ready slot newer than the claimed one? -/
def newerReady (claimedGeneration : Generation) :
    List (Fin slotCount) → ExchangeProgram Payload Bool
  | [] => pure false
  | index :: rest => do
      let state ← loadState index
      if state = .ready then
        let slotGeneration ← loadGeneration index
        if generationNewer slotGeneration claimedGeneration then pure true
        else newerReady claimedGeneration rest
      else newerReady claimedGeneration rest

/-- Ready slots that are not newer than the active one become free. -/
def reclaimStaleReady (activeGeneration : Generation) :
    List (Fin slotCount) → ExchangeProgram Payload Unit
  | [] => pure ()
  | index :: rest => do
      let state ← loadState index
      if state ≠ .ready then reclaimStaleReady activeGeneration rest
      else
        let claimed ← claimState index .ready .audioClaimed
        if claimed then
          let slotGeneration ← loadGeneration index
          storeState index (if generationNewer slotGeneration activeGeneration then .ready else .free)
          reclaimStaleReady activeGeneration rest
        else reclaimStaleReady activeGeneration rest

/-- The attempts of `claim_latest` that remain. A slot that turns out older than another ready one
is put back, and one no newer than what runs is freed. -/
def claimAttempts (activeGeneration : Generation) : Nat → ExchangeProgram Payload Bool
  | 0 => pure false
  | attempts + 1 => do
      let choice ← findNewestReady slotOrder none activeGeneration
      match choice with
      | none => do
          reclaimStaleReady activeGeneration slotOrder
          pure false
      | some selected =>
          let claimed ← claimState selected .ready .audioClaimed
          if claimed then
            let claimedGeneration ← loadGeneration selected
            if generationNewer claimedGeneration activeGeneration then
              let stale ← newerReady claimedGeneration slotOrder
              if stale then
                storeState selected .ready
                claimAttempts activeGeneration attempts
              else
                let _ ← Program.perform (ExchangeAction.fillClaim ⟨selected, claimedGeneration⟩)
                pure true
            else
              storeState selected .free
              claimAttempts activeGeneration attempts
          else claimAttempts activeGeneration attempts

/-- `claim_latest`: the newest ready slot is taken, unless a claim is outstanding. -/
def claimLatest (exchange : PreparedConfigExchange Payload) : ExchangeProgram Payload Bool :=
  if exchange.initialized = false then pure false
  else claimAttempts exchange.activeGeneration slotCount

/-- Does the slot still carry the claim? -/
def validateClaim (claim : Claim) : ExchangeProgram Payload Bool := do
  let state ← loadState claim.index
  if state ≠ .audioClaimed then pure false
  else
    let slotGeneration ← loadGeneration claim.index
    pure (slotGeneration = claim.generation)

/-- `commit`: the claimed slot becomes active, and the active one free. -/
def commit (exchange : PreparedConfigExchange Payload) : ExchangeProgram Payload Bool :=
  match exchange.claim with
  | none => pure false
  | some claim =>
      if exchange.initialized = false then pure false
      else do
        let valid ← validateClaim claim
        if valid = true ∧ generationNewer claim.generation exchange.activeGeneration = true then
          storeState exchange.activeIndex .free
          let _ ← Program.perform (ExchangeAction.storeActive claim)
          reclaimStaleReady claim.generation slotOrder
          pure true
        else pure false

/-- `cancel`: the claimed slot becomes ready again. -/
def cancel (exchange : PreparedConfigExchange Payload) : ExchangeProgram Payload Bool :=
  match exchange.claim with
  | none => pure false
  | some claim =>
      if exchange.initialized = false then pure false
      else do
        let valid ← validateClaim claim
        if valid then
          let _ ← Program.perform (ExchangeAction.storeReturned claim.index)
          pure true
        else pure false

end ExchangeProgram

end M3Midi
