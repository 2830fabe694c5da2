import Mathlib.Logic.Basic

/-! # Programs of atomic actions

A program performs one atomic action after another on a shared state and reads
each answer before it goes on. Stepping it one action at a time allows other
programs to act in between; running it alone performs all its actions at once.

A protocol says, from what a program has seen so far, which actions it may
perform next. A program that follows a protocol does so under every answer, so
its steps keep every invariant that the allowed actions keep, whatever happens
in between.
-/

namespace M3Midi.Foundation

/-- A program that performs atomic actions and returns a result. What comes next may depend on the
answer, and in between others may take their steps. -/
inductive Program (Action : Type) (Answer : Action → Type) (Result : Type)
  | done (result : Result)
  | act (action : Action) (next : Answer action → Program Action Answer Result)

namespace Program

variable {Action : Type} {Answer : Action → Type} {First Result State View : Type}

/-- Go on with a second program once the first one has returned. -/
def bind : Program Action Answer First → (First → Program Action Answer Result) →
    Program Action Answer Result
  | done result, rest => rest result
  | act action next, rest => act action fun answer => (next answer).bind rest

/-- Programs are put together by what they do one after the other. -/
instance : Monad (Program Action Answer) where
  pure := done
  bind := bind

/-- Programs can be put together in any grouping. -/
theorem bind_assoc {Second : Type} (program : Program Action Answer First)
    (middle : First → Program Action Answer Second) (rest : Second → Program Action Answer Result) :
    (program >>= middle) >>= rest = program >>= fun first => middle first >>= rest := by
  change (program.bind middle).bind rest = program.bind fun first => (middle first).bind rest
  induction program with
  | done result => rfl
  | act action next ih => exact congrArg (act action) (funext ih)

/-- The program of a single action. -/
def perform (action : Action) : Program Action Answer (Answer action) := act action done

/-- The program has returned. -/
def IsDone : Program Action Answer Result → Prop
  | done _ => True
  | act _ _ => False

/-- A program that is done has a result. -/
theorem eq_done_of_isDone {program : Program Action Answer Result} (isDone : program.IsDone) :
    ∃ result, program = done result := by
  cases program with
  | done result => exact ⟨result, rfl⟩
  | act action next => exact absurd isDone id

/-- A program run alone. -/
def run (apply : State → (action : Action) → Answer action × State) :
    Program Action Answer Result → State → Result × State
  | done result, state => (result, state)
  | act action next, state => (next (apply state action).1).run apply (apply state action).2

section Run

variable (apply : State → (action : Action) → Answer action × State)

@[simp] theorem run_pure (result : Result) (state : State) :
    (pure result : Program Action Answer Result).run apply state = (result, state) := rfl

/-- A program after another runs from the state and result of the first. -/
@[simp] theorem run_bind (program : Program Action Answer First)
    (rest : First → Program Action Answer Result) (state : State) :
    (program >>= rest).run apply state =
      (rest (program.run apply state).1).run apply (program.run apply state).2 := by
  change (program.bind rest).run apply state = _
  induction program generalizing state with
  | done result => rfl
  | act action next ih => exact ih (apply state action).1 (apply state action).2

@[simp] theorem run_perform (action : Action) (state : State) :
    (perform action : Program Action Answer (Answer action)).run apply state =
      apply state action := rfl

end Run

end Program

/-- What a program may do, given its view of what it has done and seen. A program follows it if
each of its actions is allowed by its view at that point. -/
structure Protocol (Action : Type) (Answer : Action → Type) (View : Type) where
  /-- The actions allowed in a view. -/
  allows : View → Action → Prop
  /-- The view after an allowed action and its answer. -/
  advance : View → (action : Action) → Answer action → View

namespace Protocol

variable {Action : Type} {Answer : Action → Type} {First Result State View : Type}
  (protocol : Protocol Action Answer View)

/-- Under every answer, the program performs allowed actions only and returns in
a view that fits its result. -/
def Follows (fits : View → Result → Prop) : View → Program Action Answer Result → Prop
  | view, .done result => fits view result
  | view, .act action next =>
      protocol.allows view action ∧
        ∀ answer, Follows fits (protocol.advance view action answer) (next answer)

/-- A program that follows the protocol may be followed by one that takes over in
every view the first can return in. -/
theorem follows_bind {middle : View → First → Prop} {fits : View → Result → Prop} {view : View}
    {program : Program Action Answer First} {rest : First → Program Action Answer Result}
    (follows : protocol.Follows middle view program)
    (continues : ∀ view result, middle view result → protocol.Follows fits view (rest result)) :
    protocol.Follows fits view (program >>= rest) := by
  change protocol.Follows fits view (program.bind rest)
  induction program generalizing view with
  | done result => exact continues view result follows
  | act action next ih => exact ⟨follows.1, fun answer => ih answer (follows.2 answer)⟩

/-- A first action followed by a program that fits every answer. -/
theorem follows_perform_bind {action : Action} {fits : View → Result → Prop} {view : View}
    {rest : Answer action → Program Action Answer Result}
    (allowed : protocol.allows view action)
    (continues : ∀ answer, protocol.Follows fits (protocol.advance view action answer)
      (rest answer)) :
    protocol.Follows fits view (Program.perform action >>= rest) := ⟨allowed, continues⟩

/-- A program that follows a protocol to some end follows it to any weaker end. -/
theorem follows_mono {fits weaker : View → Result → Prop} {view : View}
    {program : Program Action Answer Result} (follows : protocol.Follows fits view program)
    (implies : ∀ view result, fits view result → weaker view result) :
    protocol.Follows weaker view program := by
  induction program generalizing view with
  | done result => exact implies view result follows
  | act action next ih => exact ⟨follows.1, fun answer => ih answer (follows.2 answer)⟩

end Protocol

end M3Midi.Foundation
