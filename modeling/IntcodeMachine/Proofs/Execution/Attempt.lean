import IntcodeMachine.Machine.Run

/-
  This file cuts the execution of one instruction at the
  moment when its operation has given a signal.

  What comes before is an attempt: fetching and decoding the
  instruction, reading its parameters, executing its
  operation, and checking the answer. An attempt touches
  nothing of the machine but its tape. What comes after is
  counting, tracing and applying the signal.

  Main declarations:
    * `Rig.attempt`
    * `Rig.dispatch_eq_attempt`
    * `Rig.attempt_machine`
    * `Rig.apply_error`
    * `Rig.apply_ok_effect`
    * `Rig.dispatch_ok_effect`
    * `Rig.dispatch_error_effect`
    * `Rig.dispatch_error_cases`
-/

------------------------------------------------------------
-- Attempts
------------------------------------------------------------

namespace IntcodeMachine

namespace Rig

/- An instruction whose operation has given a signal. -/
structure Answered where
  operation : Operation
  parameters : List Parameter
  signal : Signal

/- Execute the instruction at the counter up to its signal. -/
def attempt
    (r : Rig) : Except Failure Answered × Rig :=
  match r.machine.fetch with
  | .error e => (.error e, r)
  | .ok (o, i) =>
      match r.machine.operands i with
      | .error e => (.error e, r)
      | .ok ps =>
          match
            o.execute ⟨i, ps⟩ ⟨r.machine.tape, r.host⟩ with
          | (.error e, b) => (.error e, r.afterAction b)
          | (.ok s, b) => (.ok ⟨o, ps, s⟩, r.afterAction b)

/- Dispatching is an attempt and what its signal asks for. -/
theorem dispatch_eq_attempt
    (r : Rig) :
    r.dispatch =
      match r.attempt with
      | (.error e, r₁) => (.error e, r₁)
      | (.ok x, r₁) =>
          r₁.complete x.operation x.parameters x.signal := by
  unfold dispatch attempt
  rcases r.machine.fetch with e | ⟨o, i⟩
  · rfl
  · dsimp only
    rcases r.machine.operands i with e | ps
    · rfl
    · dsimp only
      rcases o.execute ⟨i, ps⟩ ⟨r.machine.tape, r.host⟩ with
        ⟨e | s, b⟩ <;> rfl

/- An attempt changes nothing of the machine but its tape. -/
theorem attempt_machine
    (r : Rig) :
    ∃ t : Tape,
      r.attempt.2.machine = { r.machine with tape := t } := by
  unfold attempt
  rcases r.machine.fetch with e | ⟨o, i⟩
  · exact ⟨r.machine.tape, rfl⟩
  · dsimp only
    rcases r.machine.operands i with e | ps
    · exact ⟨r.machine.tape, rfl⟩
    · dsimp only
      rcases o.execute ⟨i, ps⟩ ⟨r.machine.tape, r.host⟩ with
        ⟨e | s, b⟩ <;>
        exact ⟨b.tape, rfl⟩

------------------------------------------------------------
-- Applying Signals
------------------------------------------------------------

end Rig

/-
  What the machine raises for a signal that jumps off the
  tape, or that it does not know.
-/
def Signal.refusal?
    (t : Tape) : Signal → Option Failure
| .jump address =>
    if t.Contains address then none
    else some (t.outOfBounds address)
| .unknown => some .unknownSignal
| _ => none

theorem Signal.refusal?_advance
    (t : Tape)
    (length : Int) :
    (Signal.advance length).refusal? t = none := rfl

namespace Rig

/- Applying fails for refused signals, and changes nothing. -/
theorem apply_error
    {r r' : Rig}
    {s : Signal}
    {e : Failure}
    (hApply : r.apply s = (.error e, r')) :
    r' = r ∧ s.refusal? r.machine.tape = some e := by
  cases s with
  | jump address =>
      simp only [apply] at hApply
      split at hApply
      · simp at hApply
      · rename_i hOutside
        simp only [Prod.mk.injEq, Except.error.injEq]
          at hApply
        refine ⟨hApply.2.symm, ?_⟩
        rw [Signal.refusal?, if_neg hOutside, hApply.1]
  | unknown =>
      simp only [apply, Prod.mk.injEq, Except.error.injEq]
        at hApply
      refine ⟨hApply.2.symm, ?_⟩
      rw [Signal.refusal?, hApply.1]
  | advance length => simp [apply] at hApply
  | halt => simp [apply] at hApply
  | suspend => simp [apply] at hApply

theorem apply_of_refusal
    {r : Rig}
    {s : Signal}
    {e : Failure}
    (hRefusal : s.refusal? r.machine.tape = some e) :
    r.apply s = (.error e, r) := by
  cases s with
  | jump address =>
      simp only [Signal.refusal?] at hRefusal
      split at hRefusal
      · simp at hRefusal
      · rename_i hOutside
        rw [apply, if_neg hOutside, Option.some.inj hRefusal]
  | unknown =>
      rw [apply, ← Option.some.inj hRefusal]
  | advance length => simp [Signal.refusal?] at hRefusal
  | halt => simp [Signal.refusal?] at hRefusal
  | suspend => simp [Signal.refusal?] at hRefusal

end Rig

/- Where the counter goes when a signal is applied. -/
def Signal.destination
    (pointer : Int) : Signal → Int
| .advance length => pointer + length
| .jump address => address
| _ => pointer

/- In which state the machine is left by a signal. -/
def Signal.stateAfter
    (state : RunState) : Signal → RunState
| .halt => .halted
| .suspend => .suspended
| _ => state

/- A signal that does not stop the machine keeps its state. -/
theorem Signal.stateAfter_of_not_stopped
    {s : Signal}
    {state : RunState}
    (hGoesOn : (s.stateAfter state).isStopped = false) :
    s.stateAfter state = state := by
  cases s with
  | halt => simp [stateAfter, RunState.isStopped] at hGoesOn
  | suspend =>
      simp [stateAfter, RunState.isStopped] at hGoesOn
  | advance length => rfl
  | jump address => rfl
  | unknown => rfl

namespace Rig

/- A signal that is applied moves the counter and the state. -/
theorem apply_ok_effect
    {r r' : Rig}
    {s : Signal}
    (hApply : r.apply s = (.ok (), r')) :
    s.refusal? r.machine.tape = none ∧
      r'.machine =
        { r.machine with
          pointer := s.destination r.machine.pointer
          state := s.stateAfter r.machine.state } := by
  cases s with
  | jump address =>
      simp only [apply] at hApply
      split at hApply
      · rename_i hInside
        simp only [Prod.mk.injEq, true_and] at hApply
        subst r'
        exact ⟨if_pos hInside, rfl⟩
      · simp at hApply
  | unknown => simp [apply] at hApply
  | advance length =>
      simp only [apply, Prod.mk.injEq, true_and] at hApply
      subst r'
      exact ⟨rfl, rfl⟩
  | halt =>
      simp only [apply, Prod.mk.injEq, true_and] at hApply
      subst r'
      exact ⟨rfl, rfl⟩
  | suspend =>
      simp only [apply, Prod.mk.injEq, true_and] at hApply
      subst r'
      exact ⟨rfl, rfl⟩

------------------------------------------------------------
-- What An Instruction Leaves
------------------------------------------------------------

end Rig

/- The machine with a line noted, if it keeps a trace. -/
def Machine.noted
    (m : Machine)
    (l : Trace.Line) : Machine :=
  { m with
    trace := if m.tracing then m.trace ++ [l] else m.trace }

namespace Rig

/- A line is noted, or it cannot be written. -/
theorem traced_cases
    (r : Rig)
    (l : Trace.Line) :
    r.traced l = (.error .unwritable, r) ∨
      ∃ h, r.traced l = (.ok (), ⟨r.machine.noted l, h⟩) := by
  unfold traced Machine.noted
  by_cases hTracing : r.machine.tracing
  · rw [if_pos hTracing, if_pos hTracing]
    split
    · exact Or.inr ⟨_, rfl⟩
    · exact Or.inl rfl
  · rw [if_neg hTracing, if_neg hTracing]
    exact Or.inr ⟨r.host, rfl⟩

/-
  Completing an instruction fails once it is counted, or it
  applies the signal to a machine that is counted and noted.
-/
theorem complete_cases
    {r r' : Rig}
    {o : Operation}
    {ps : List Parameter}
    {s : Signal}
    {x : Except Failure Signal}
    (hComplete : r.complete o ps s = (x, r')) :
    (∃ e trace,
      x = .error e ∧
        r'.machine =
          { r.machine with
            steps := r.machine.steps + 1
            trace := trace }) ∨
      (x = .ok s ∧ s.refusal? r.machine.tape = none ∧
        r'.machine =
          { r.machine.noted
              ⟨r.machine.pointer, o.name, ps, s⟩ with
            pointer := s.destination r.machine.pointer
            state := s.stateAfter r.machine.state
            steps := r.machine.steps + 1 }) := by
  unfold complete at hComplete
  rcases r.counted.traced_cases
      ⟨r.machine.pointer, o.name, ps, s⟩ with
    hUnwritable | ⟨h, hNoted⟩
  · simp only [hUnwritable, Prod.mk.injEq] at hComplete
    rcases hComplete with ⟨rfl, rfl⟩
    exact Or.inl ⟨_, _, rfl, rfl⟩
  · simp only [hNoted] at hComplete
    rcases hApply :
        Rig.apply
          ⟨r.counted.machine.noted
            ⟨r.machine.pointer, o.name, ps, s⟩, h⟩ s with
      ⟨e | u, r₁⟩
    · simp only [hApply, Prod.mk.injEq] at hComplete
      rcases hComplete with ⟨rfl, rfl⟩
      rw [(apply_error hApply).1]
      exact Or.inl ⟨_, _, rfl, rfl⟩
    · simp only [hApply, Prod.mk.injEq] at hComplete
      rcases hComplete with ⟨rfl, rfl⟩
      rcases apply_ok_effect hApply with
        ⟨hAccepted, hMachine⟩
      exact Or.inr ⟨rfl, hAccepted, hMachine⟩

/-
  An instruction that gives a signal is attempted, counted
  and noted, and its signal is applied.
-/
theorem dispatch_ok_effect
    {r r' : Rig}
    {s : Signal}
    (hDispatch : r.dispatch = (.ok s, r')) :
    ∃ x r₁,
      r.attempt = (.ok x, r₁) ∧ x.signal = s ∧
        s.refusal? r₁.machine.tape = none ∧
        r'.machine =
          { r₁.machine.noted
              ⟨r₁.machine.pointer, x.operation.name,
                x.parameters, s⟩ with
            pointer := s.destination r₁.machine.pointer
            state := s.stateAfter r₁.machine.state
            steps := r₁.machine.steps + 1 } := by
  rw [dispatch_eq_attempt] at hDispatch
  rcases hAttempt : r.attempt with ⟨e | x, r₁⟩
  · rw [hAttempt] at hDispatch
    simp at hDispatch
  · rw [hAttempt] at hDispatch
    rcases complete_cases hDispatch with
      ⟨e, trace, hError, -⟩ | ⟨hOk, hAccepted, hMachine⟩
    · simp at hError
    · rw [Except.ok.injEq] at hOk
      subst hOk
      exact ⟨x, r₁, rfl, rfl, hAccepted, hMachine⟩

/-
  An instruction that fails leaves what its attempt left,
  but for the count of instructions and the trace.
-/
theorem dispatch_error_effect
    {r r' : Rig}
    {e : Failure}
    (hDispatch : r.dispatch = (.error e, r')) :
    ∃ steps trace,
      r'.machine =
        { r.attempt.2.machine with
          steps := steps, trace := trace } := by
  rw [dispatch_eq_attempt] at hDispatch
  rcases hAttempt : r.attempt with ⟨e₁ | x, r₁⟩
  · rw [hAttempt, Prod.mk.injEq] at hDispatch
    exact ⟨_, _, by rw [hDispatch.2]⟩
  · rw [hAttempt] at hDispatch
    rcases complete_cases hDispatch with
      ⟨e₁, trace, -, hMachine⟩ | ⟨hOk, -⟩
    · exact ⟨_, _, hMachine⟩
    · simp at hOk

------------------------------------------------------------
-- Instructions Without A Trace
------------------------------------------------------------

/- Without a trace, a signal is counted and applied. -/
theorem complete_of_not_tracing
    {r : Rig}
    (hTracing : r.machine.tracing = false)
    (o : Operation)
    (ps : List Parameter)
    (s : Signal) :
    r.complete o ps s =
      match r.counted.apply s with
      | (.error e, r') => (.error e, r')
      | (.ok _, r') => (.ok s, r') := by
  have hTraced :
      r.counted.traced ⟨r.machine.pointer, o.name, ps, s⟩ =
        (.ok (), r.counted) := by
    simp [traced, counted, hTracing]
  rcases hApply : r.counted.apply s with ⟨e | u, r'⟩
  · simp only [complete, hTraced, hApply]
  · simp only [complete, hTraced, hApply]

/- An attempt keeps whether a trace is kept. -/
theorem attempt_tracing
    (r : Rig) :
    r.attempt.2.machine.tracing = r.machine.tracing := by
  rcases r.attempt_machine with ⟨t, hMachine⟩
  rw [hMachine]

/-
  Without a trace, an instruction fails in its attempt, or
  it is counted and its signal is refused.
-/
theorem dispatch_error_cases
    {r r' : Rig}
    {e : Failure}
    (hTracing : r.machine.tracing = false)
    (hDispatch : r.dispatch = (.error e, r')) :
    r.attempt = (.error e, r') ∨
      ∃ x r₁,
        r.attempt = (.ok x, r₁) ∧
          x.signal.refusal? r₁.machine.tape = some e ∧
          r' = r₁.counted := by
  have hKept := r.attempt_tracing
  rw [dispatch_eq_attempt] at hDispatch
  rcases hAttempt : r.attempt with ⟨e₁ | x, r₁⟩
  · rw [hAttempt] at hDispatch
    simp only [Prod.mk.injEq, Except.error.injEq] at hDispatch
    rcases hDispatch with ⟨rfl, rfl⟩
    exact Or.inl rfl
  · rw [hAttempt] at hDispatch hKept
    have hOff : r₁.machine.tracing = false :=
      hKept.trans hTracing
    simp only [complete_of_not_tracing hOff] at hDispatch
    rcases hApply : r₁.counted.apply x.signal with
      ⟨e₂ | u, r₂⟩
    · rw [hApply] at hDispatch
      simp only [Prod.mk.injEq, Except.error.injEq]
        at hDispatch
      rcases hDispatch with ⟨rfl, rfl⟩
      rcases apply_error hApply with ⟨hSame, hRefused⟩
      exact Or.inr ⟨x, r₁, rfl, hRefused, hSame⟩
    · rw [hApply] at hDispatch
      simp at hDispatch

end Rig

end IntcodeMachine
