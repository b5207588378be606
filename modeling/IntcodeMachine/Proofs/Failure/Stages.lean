import IntcodeMachine.Proofs.Execution.Runs

/-
  This file says at which stage an instruction fails, and
  what it has done to the machine by then.

  An instruction is decoded, its parameters are read, it is
  executed, and its signal is applied. No stage before the
  last one touches the counter, the state or the number of
  instructions; applying a signal comes after counting.

  Main declarations:
    * `Stage`
    * `Rig.FailsIn`
    * `Rig.exists_failsIn`
    * `Rig.FailsIn.dispatch_eq`
-/

------------------------------------------------------------
-- Stages
------------------------------------------------------------

namespace IntcodeMachine

/- A part of what is done for one instruction. -/
inductive Stage where
/- Reading the word, finding the operation, the modes. -/
| decoding
/- Reading the words of the parameters. -/
| parameters
/- The operation, and the check of what it answers. -/
| execution
/- Doing what the signal asks for. -/
| signal
deriving DecidableEq, Repr

/- How many instructions are counted before a stage fails. -/
def Stage.counted : Stage → Nat
| .signal => 1
| _ => 0

namespace Rig

/- The tape and the host before an action works on them. -/
def bench (r : Rig) : Action.Bench :=
  ⟨r.machine.tape, r.host⟩

/-
  The next instruction fails at a stage, when its operation
  has worked on the bench as given.
-/
inductive FailsIn
    (r : Rig) :
    Stage → Failure → Action.Bench → Prop where
| decoding
    {e : Failure}
    (hFetch : r.machine.fetch = .error e) :
    FailsIn r .decoding e r.bench
| parameters
    {e : Failure}
    {o : Operation}
    {i : Instruction}
    (hFetch : r.machine.fetch = .ok (o, i))
    (hOperands : r.machine.operands i = .error e) :
    FailsIn r .parameters e r.bench
| execution
    {e : Failure}
    {o : Operation}
    {i : Instruction}
    {ps : List Parameter}
    {b : Action.Bench}
    (hFetch : r.machine.fetch = .ok (o, i))
    (hOperands : r.machine.operands i = .ok ps)
    (hExecute : o.execute ⟨i, ps⟩ r.bench = (.error e, b)) :
    FailsIn r .execution e b
| signal
    {e : Failure}
    {o : Operation}
    {i : Instruction}
    {ps : List Parameter}
    {s : Signal}
    {b : Action.Bench}
    (hFetch : r.machine.fetch = .ok (o, i))
    (hOperands : r.machine.operands i = .ok ps)
    (hExecute : o.execute ⟨i, ps⟩ r.bench = (.ok s, b))
    (hRefusal : s.refusal? b.tape = some e) :
    FailsIn r .signal e b

------------------------------------------------------------
-- Every Failure Has A Stage
------------------------------------------------------------

/-
  An attempt fails at one of the stages before the last, and
  leaves what was done by then.
-/
theorem failsIn_of_attempt_error
    {r r' : Rig}
    {e : Failure}
    (hAttempt : r.attempt = (.error e, r')) :
    ∃ stage b, r.FailsIn stage e b ∧ r' = r.afterAction b := by
  unfold attempt at hAttempt
  rcases hFetch : r.machine.fetch with e₁ | ⟨o, i⟩
  · simp only [hFetch, Prod.mk.injEq, Except.error.injEq]
      at hAttempt
    rcases hAttempt with ⟨rfl, rfl⟩
    exact ⟨_, _, FailsIn.decoding hFetch, rfl⟩
  · rcases hOperands : r.machine.operands i with e₁ | ps
    · simp only [hFetch, hOperands, Prod.mk.injEq,
        Except.error.injEq] at hAttempt
      rcases hAttempt with ⟨rfl, rfl⟩
      exact
        ⟨_, _, FailsIn.parameters hFetch hOperands, rfl⟩
    · rcases hExecute :
          o.execute ⟨i, ps⟩ ⟨r.machine.tape, r.host⟩ with
        ⟨e₁ | s, b⟩
      · simp only [hFetch, hOperands, hExecute,
          Prod.mk.injEq, Except.error.injEq] at hAttempt
        rcases hAttempt with ⟨rfl, rfl⟩
        exact
          ⟨_, _,
            FailsIn.execution hFetch hOperands hExecute, rfl⟩
      · simp [hFetch, hOperands, hExecute] at hAttempt

/- An attempt that succeeds has executed an operation. -/
theorem attempt_ok_parts
    {r r₁ : Rig}
    {x : Answered}
    (hAttempt : r.attempt = (.ok x, r₁)) :
    ∃ i b,
      r.machine.fetch = .ok (x.operation, i) ∧
        r.machine.operands i = .ok x.parameters ∧
        x.operation.execute ⟨i, x.parameters⟩ r.bench =
          (.ok x.signal, b) ∧
        r₁ = r.afterAction b := by
  unfold attempt at hAttempt
  rcases hFetch : r.machine.fetch with e₁ | ⟨o, i⟩
  · simp [hFetch] at hAttempt
  · rcases hOperands : r.machine.operands i with e₁ | ps
    · simp [hFetch, hOperands] at hAttempt
    · rcases hExecute :
          o.execute ⟨i, ps⟩ ⟨r.machine.tape, r.host⟩ with
        ⟨e₁ | s, b⟩
      · simp [hFetch, hOperands, hExecute] at hAttempt
      · simp only [hFetch, hOperands, hExecute,
          Prod.mk.injEq, Except.ok.injEq] at hAttempt
        rcases hAttempt with ⟨rfl, rfl⟩
        exact ⟨i, b, rfl, hOperands, hExecute, rfl⟩

/- Without a trace, a failing instruction fails at a stage. -/
theorem exists_failsIn
    {r r' : Rig}
    {e : Failure}
    (hTracing : r.machine.tracing = false)
    (hDispatch : r.dispatch = (.error e, r')) :
    ∃ stage b, r.FailsIn stage e b := by
  rcases dispatch_error_cases hTracing hDispatch with
    hAttempt | ⟨x, r₁, hAttempt, hRefusal, -⟩
  · rcases failsIn_of_attempt_error hAttempt with
      ⟨stage, b, hFails, -⟩
    exact ⟨stage, b, hFails⟩
  · rcases attempt_ok_parts hAttempt with
      ⟨i, b, hFetch, hOperands, hExecute, rfl⟩
    exact
      ⟨_, _,
        FailsIn.signal hFetch hOperands hExecute hRefusal⟩

------------------------------------------------------------
-- What A Stage Has Done
------------------------------------------------------------

/- The rig with so many more instructions counted. -/
def countedBy
    (r : Rig)
    (n : Nat) : Rig :=
  { r with
    machine :=
      { r.machine with steps := r.machine.steps + n } }

/- The stage says what a failing instruction has done. -/
theorem FailsIn.dispatch_eq
    {r : Rig}
    {stage : Stage}
    {e : Failure}
    {b : Action.Bench}
    (hFails : r.FailsIn stage e b)
    (hTracing : r.machine.tracing = false) :
    r.dispatch =
      (.error e,
        (r.afterAction b).countedBy stage.counted) := by
  cases hFails with
  | decoding hFetch =>
      rw [dispatch, hFetch]
      rfl
  | parameters hFetch hOperands =>
      simp only [dispatch, hFetch, hOperands]
      rfl
  | execution hFetch hOperands hExecute =>
      rw [bench] at hExecute
      simp only [dispatch, hFetch, hOperands, hExecute]
      rfl
  | signal hFetch hOperands hExecute hRefusal =>
      rename_i o i ps s
      have hOff :
          (r.afterAction b).machine.tracing = false :=
        hTracing
      have hApply :
          (r.afterAction b).counted.apply s =
            (.error e, (r.afterAction b).counted) :=
        apply_of_refusal hRefusal
      rw [bench] at hExecute
      simp only [dispatch, hFetch, hOperands, hExecute,
        complete_of_not_tracing hOff, hApply]
      rfl

end Rig

end IntcodeMachine
