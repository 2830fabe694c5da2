import M3Midi.Foundation.AtomicProgram

/-! # Programs among others

Between two actions of a program others may act. What they may do is a rely, a relation
that is reflexive and transitive. A program establishes a condition when it returns in
a state that meets it, whatever the others do within the rely, and its actions are
within a bound when it performs no more of them under any answers.
-/

namespace M3Midi.Foundation.Program

variable {Action : Type} {Answer : Action → Type} {First Result State : Type}

section Establishes

variable (apply : State → (action : Action) → Answer action × State)
  (rely : State → State → Prop)

/-- However the others act, within their rely, the program's result fits the state it
returns in, and all later ones. -/
def Establishes (fits : Result → State → Prop) : Program Action Answer Result → State → Prop
  | done result, state => ∀ later, rely state later → fits result later
  | act action next, state => ∀ later, rely state later →
      (next (apply later action).1).Establishes fits (apply later action).2

variable {apply rely} {fits : Result → State → Prop} {state later : State}

/-- What others do within the rely takes nothing away. -/
theorem Establishes.stable
    (trans : ∀ first second third, rely first second → rely second third → rely first third)
    {program : Program Action Answer Result}
    (establishes : program.Establishes apply rely fits state) (others : rely state later) :
    program.Establishes apply rely fits later := by
  cases program with
  | done result => exact fun last after => establishes last (trans _ _ _ others after)
  | act action next => exact fun last after => establishes last (trans _ _ _ others after)

/-- The state a program starts from may be one that the others change. -/
theorem Establishes.act {action : Action} {next : Answer action → Program Action Answer Result}
    (refl : ∀ state, rely state state) (establishes : (Program.act action next).Establishes apply rely fits
      state) :
    (next (apply state action).1).Establishes apply rely fits (apply state action).2 :=
  establishes state (refl state)

/-- A program after another takes over in any state that fits the first one's result. -/
theorem establishes_bind (refl : ∀ state, rely state state) {middle : First → State → Prop}
    {program : Program Action Answer First} {rest : First → Program Action Answer Result}
    (establishes : program.Establishes apply rely middle state)
    (continues : ∀ result state, middle result state →
      (rest result).Establishes apply rely fits state) :
    (program >>= rest).Establishes apply rely fits state := by
  change (program.bind rest).Establishes apply rely fits state
  induction program generalizing state with
  | done result => exact continues result state (establishes state (refl state))
  | act action next ih => exact fun later others => ih _ (establishes later others)

/-- A first action followed by a program that takes over after it. -/
theorem establishes_perform_bind {action : Action}
    {rest : Answer action → Program Action Answer Result}
    (continues : ∀ later, rely state later →
      (rest (apply later action).1).Establishes apply rely fits (apply later action).2) :
    (perform action >>= rest).Establishes apply rely fits state := continues

end Establishes

/-- What a program that has returned has returned. -/
def returned : Program Action Answer Result → Option Result
  | done result => some result
  | act _ _ => none

/-- A program that has a result has returned it. -/
theorem returned_eq_some {program : Program Action Answer Result} {result : Result}
    (answered : program.returned = some result) : program = done result := by
  cases program with
  | done other => exact congrArg done (Option.some.inj answered)
  | act action next => exact nomatch answered

/-- Under any answers, the program returns only such results. -/
def Returns (fits : Result → Prop) : Program Action Answer Result → Prop
  | done result => fits result
  | act _ next => ∀ answer, (next answer).Returns fits

/-- A program whose last part returns only such results does so as a whole. -/
theorem returns_bind {fits : Result → Prop} (program : Program Action Answer First)
    {rest : First → Program Action Answer Result}
    (continues : ∀ result, (rest result).Returns fits) : (program >>= rest).Returns fits := by
  change (program.bind rest).Returns fits
  induction program with
  | done result => exact continues result
  | act action next ih => exact fun answer => ih answer

/-- Under any answers, the program performs at most so many actions. -/
def Within : Nat → Program Action Answer Result → Prop
  | _, done _ => True
  | 0, act _ _ => False
  | bound + 1, act _ next => ∀ answer, (next answer).Within bound

/-- What takes at most some steps takes at most more of them. -/
theorem Within.mono {small large : Nat} (le : small ≤ large)
    {program : Program Action Answer Result} (within : program.Within small) :
    program.Within large := by
  induction program generalizing small large with
  | done result => cases large <;> trivial
  | act action next ih =>
      cases small with
      | zero => exact absurd within id
      | succ small =>
          obtain ⟨large, rfl⟩ := Nat.exists_eq_add_of_le' (Nat.le_trans (Nat.le_add_left 1 small) le)
          exact fun answer => ih answer (Nat.le_of_add_le_add_right le) (within answer)

/-- The steps of two programs, one after the other, add up. -/
theorem within_bind {first second : Nat} {program : Program Action Answer First}
    {rest : First → Program Action Answer Result} (within : program.Within first)
    (continues : ∀ result, (rest result).Within second) :
    (program >>= rest).Within (first + second) := by
  change (program.bind rest).Within (first + second)
  induction program generalizing first with
  | done result => exact (continues result).mono (Nat.le_add_left second first)
  | act action next ih =>
      cases first with
      | zero => exact absurd within id
      | succ first =>
          rw [Nat.succ_add]
          exact fun answer => ih answer (within answer)

/-- An action is one step. -/
theorem within_perform_bind {bound : Nat} {action : Action}
    {rest : Answer action → Program Action Answer Result}
    (continues : ∀ answer, (rest answer).Within bound) :
    (perform action >>= rest).Within (bound + 1) := continues

/-- A program that follows a protocol within some views returns what fits those. -/
theorem returns_of_follows {View : Type} {protocol : Protocol Action Answer View}
    {fits : View → Result → Prop} {inside : View → Prop} {good : Result → Prop} {view : View}
    {program : Program Action Answer Result}
    (closed : ∀ view action answer, inside view → protocol.allows view action →
      inside (protocol.advance view action answer))
    (fit : ∀ view result, inside view → fits view result → good result)
    (starts : inside view) (follows : protocol.Follows fits view program) :
    program.Returns good := by
  induction program generalizing view with
  | done result => exact fit view result starts follows
  | act action next ih =>
      exact fun answer => ih answer (closed view action answer starts follows.1)
        (follows.2 answer)

end M3Midi.Foundation.Program
