import IntcodeMachine.Proofs.Execution.Calls
import IntcodeMachine.Proofs.Execution.Fetching
import IntcodeMachine.Proofs.Execution.Requests
import IntcodeMachine.Proofs.Failure.Stages

/-
  This file gives the induction by which a property of a rig
  holds after any session.

  The property has to survive one executed instruction, with
  the machine running, the entry into the running state, and
  whatever the host does outside of the machine. It makes no
  difference which calls are made and which of them raise,
  or whether a trace is kept.

  Main declarations:
    * `Rig.loaded`
    * `Rig.dispatch_ok_parts`
    * `Rig.Leaves`
    * `Rig.Leaves.overwrites`
    * `Rig.step_leaves`
    * `Rig.dispatch_size`
    * `Rig.Kept`
    * `Rig.Kept.session`
-/

------------------------------------------------------------
-- Rigs At The Start Of A Program
------------------------------------------------------------

namespace IntcodeMachine

namespace Rig

/- A machine at the start of a program, traced or not. -/
def loaded
    (tape : Tape)
    (table : Table)
    (tracing : Bool)
    (h : Host) : Rig :=
  ⟨{ Machine.fresh tape table with tracing := tracing }, h⟩

------------------------------------------------------------
-- One Instruction
------------------------------------------------------------

variable {r r' : Rig}

/- The operation that was executed for a signal. -/
theorem dispatch_ok_parts
    {s : Signal}
    (hDispatch : r.dispatch = (.ok s, r')) :
    ∃ o i ps b,
      r.machine.Fetched o i ∧
        r.machine.operands i = .ok ps ∧
        o.execute ⟨i, ps⟩ r.bench = (.ok s, b) ∧
        s.refusal? b.tape = none ∧
        r'.machine.tape = b.tape := by
  rcases dispatch_ok_effect hDispatch with
    ⟨x, r₁, hAttempt, rfl, hAccepted, hMachine⟩
  rcases attempt_ok_parts hAttempt with
    ⟨i, b, hFetch, hOperands, hExecute, rfl⟩
  exact
    ⟨x.operation, i, x.parameters, b,
      Machine.fetch_eq_ok_iff.mp hFetch, hOperands, hExecute,
      hAccepted, by rw [hMachine]; rfl⟩

/-
  What the instruction at the counter makes of the tape:
  nothing, if none is executed, or what its action makes.
-/
inductive Leaves (r : Rig) : Tape → Prop where
| same : Leaves r r.machine.tape
| action
    {o : Operation}
    {i : Instruction}
    {ps : List Parameter}
    (hFetch : r.machine.fetch = .ok (o, i))
    (hOperands : r.machine.operands i = .ok ps) :
    Leaves r (o.action.run ⟨i, ps⟩ r.bench).2.tape

/- All that is done to the tape is to write words. -/
theorem Leaves.overwrites
    {t : Tape}
    (hLeaves : r.Leaves t) :
    ∃ ws,
      t = r.machine.tape.overwrite ws ∧
        ∀ w ∈ ws, r.machine.tape.Contains w.1 := by
  cases hLeaves with
  | same => exact ⟨[], rfl, List.forall_mem_nil _⟩
  | action hFetch hOperands =>
      rename_i o i ps
      exact o.action.run_overwrites ⟨i, ps⟩ r.bench

theorem Leaves.size_eq
    {t : Tape}
    (hLeaves : r.Leaves t) :
    t.size = r.machine.tape.size := by
  rcases hLeaves.overwrites with ⟨ws, rfl, -⟩
  exact Tape.size_overwrite _ ws

/- The state of the machine makes no difference. -/
theorem Leaves.of_enter
    {s : RunState}
    {t : Tape}
    (hLeaves : (r.enter s).Leaves t) :
    r.Leaves t := by
  cases hLeaves with
  | same => exact .same
  | action hFetch hOperands =>
      exact .action hFetch hOperands

/- An operation that is executed makes what its action makes. -/
theorem leaves_of_execute
    {o : Operation}
    {i : Instruction}
    {ps : List Parameter}
    {x : Except Failure Signal}
    {b : Action.Bench}
    (hFetch : r.machine.fetch = .ok (o, i))
    (hOperands : r.machine.operands i = .ok ps)
    (hExecute : o.execute ⟨i, ps⟩ r.bench = (x, b)) :
    r.Leaves b.tape := by
  have hBench := o.execute_bench ⟨i, ps⟩ r.bench
  rw [hExecute] at hBench
  rcases hBench with rfl | rfl
  · exact .same
  · exact .action hFetch hOperands

theorem FailsIn.leaves
    {stage : Stage}
    {e : Failure}
    {b : Action.Bench}
    (hFails : r.FailsIn stage e b) :
    r.Leaves b.tape := by
  cases hFails with
  | decoding hFetch => exact .same
  | parameters hFetch hOperands => exact .same
  | execution hFetch hOperands hExecute =>
      exact leaves_of_execute hFetch hOperands hExecute
  | signal hFetch hOperands hExecute hRefusal =>
      exact leaves_of_execute hFetch hOperands hExecute

theorem attempt_leaves
    (r : Rig) :
    r.Leaves r.attempt.2.machine.tape := by
  rcases hAttempt : r.attempt with ⟨e | x, r'⟩
  · rcases failsIn_of_attempt_error hAttempt with
      ⟨stage, b, hFails, rfl⟩
    exact hFails.leaves
  · rcases attempt_ok_parts hAttempt with
      ⟨i, b, hFetch, hOperands, hExecute, rfl⟩
    exact leaves_of_execute hFetch hOperands hExecute

/- What follows an attempt leaves the tape alone. -/
theorem dispatch_tape
    (r : Rig) :
    r.dispatch.2.machine.tape = r.attempt.2.machine.tape := by
  rcases hDispatch : r.dispatch with ⟨e | s, r'⟩
  · rcases dispatch_error_effect hDispatch with
      ⟨steps, trace, hMachine⟩
    rw [hMachine]
  · rcases dispatch_ok_effect hDispatch with
      ⟨x, r₁, hAttempt, -, -, hMachine⟩
    rw [hAttempt, hMachine]
    rfl

/- A step leaves what the instruction at the counter leaves. -/
theorem step_leaves
    (r : Rig) :
    r.Leaves r.step.2.machine.tape := by
  by_cases hState : r.machine.state = .halted
  · rw [step, if_pos hState]
    exact .same
  · rw [step_eq_dispatch hState, dispatch_tape]
    exact (r.enter .running).attempt_leaves.of_enter

/- No instruction changes the size, whether it fails or not. -/
theorem dispatch_size
    {x : Except Failure Signal}
    (hDispatch : r.dispatch = (x, r')) :
    r'.machine.tape.size = r.machine.tape.size := by
  have hTape := r.dispatch_tape
  rw [hDispatch] at hTape
  rw [hTape]
  exact r.attempt_leaves.size_eq

------------------------------------------------------------
-- Properties That Are Kept
------------------------------------------------------------

/- Whatever happens to a rig in a session keeps the property. -/
structure Kept (P : Rig → Prop) : Prop where
  enter : ∀ r, P r → P (r.enter .running)
  host : ∀ r h, P r → P ⟨r.machine, h⟩
  dispatch :
    ∀ r x r', P r → r.machine.state = .running →
      r.dispatch = (x, r') → P r'

namespace Kept

variable {P : Rig → Prop}
variable (hKept : Kept P)
include hKept

theorem entered
    (hP : P r) :
    P r.entered := by
  unfold Rig.entered resumed
  split
  · exact hKept.enter _ (hKept.host _ _ hP)
  · exact hKept.enter _ hP

theorem reaches
    {n : Nat}
    (hP : P r)
    (hState : r.machine.state = .running)
    (hReaches : Reaches n r r') :
    P r' := by
  induction hReaches with
  | here r => exact hP
  | next hDispatch hGoesOn hRest ih =>
      have hOne := Reaches.next hDispatch hGoesOn (.here _)
      exact
        ih (hKept.dispatch _ _ _ hP hState hDispatch)
          (hOne.state.trans hState)

theorem run
    {budget : Nat}
    {o : Except Failure Unit}
    (hP : P r)
    (hRun : r.run budget = some (o, r')) :
    P r' := by
  by_cases hHalted : r.machine.state = .halted
  · rw [Rig.run, if_pos hHalted, Option.some.injEq,
      Prod.mk.injEq] at hRun
    rw [← hRun.2]
    exact hKept.host _ _ hP
  · rcases (finishes_iff_reaches hHalted).mp ⟨budget, hRun⟩
      with ⟨n, r₀, hReaches, hEnds⟩
    have hRunning : r.entered.machine.state = .running := by
      rw [r.entered_machine]
    have hLast : P r₀ :=
      hKept.reaches (hKept.entered hP) hRunning hReaches
    have hState := hReaches.state.trans hRunning
    cases o with
    | error e => exact hKept.dispatch _ _ _ hLast hState hEnds
    | ok u =>
        rcases hEnds with ⟨s, hDispatch, -⟩
        exact hKept.dispatch _ _ _ hLast hState hDispatch

theorem step
    (hP : P r) :
    P r.step.2 := by
  unfold Rig.step
  split
  · exact hP
  · rcases hDispatch : (r.enter .running).dispatch with
      ⟨e | s, r'⟩
    · exact
        hKept.dispatch _ _ _ (hKept.enter _ hP) rfl hDispatch
    · exact
        hKept.dispatch _ _ _ (hKept.enter _ hP) rfl hDispatch

theorem call
    {budget : Nat}
    {c : Call}
    {x : Except Failure Answer}
    (hP : P r)
    (hCall : r.call budget c = some (x, r')) :
    P r' := by
  rcases call_leaves hCall with
    ⟨-, o, hRun⟩ | ⟨-, rfl⟩ | ⟨-, rfl⟩
  · exact hKept.run hP hRun
  · exact hKept.step hP
  · exact hP

/- The property holds after any session. -/
theorem session
    {log : List Occasion}
    (hP : P r)
    (hSession : Session log r r') :
    P r' := by
  induction hSession with
  | rest r => exact hP
  | host h _ ih => exact ih (hKept.host _ h hP)
  | call hCall _ ih => exact ih (hKept.call hP hCall)

end Kept

/- The table and whether the machine traces are kept. -/
theorem kept_table
    (table : Table)
    (tracing : Bool) :
    Kept fun r =>
      r.machine.table = table ∧
        r.machine.tracing = tracing where
  enter _ hSame := hSame
  host _ _ hSame := hSame
  dispatch _ _ _ hSame _ hDispatch := by
    have hKeeps := dispatch_keeps hDispatch
    exact
      ⟨hKeeps.1.trans hSame.1, hKeeps.2.trans hSame.2⟩

/- No call changes the table or whether the machine traces. -/
theorem call_keeps
    {budget : Nat}
    {c : Call}
    {x : Except Failure Answer}
    (hCall : r.call budget c = some (x, r')) :
    r'.machine.table = r.machine.table ∧
      r'.machine.tracing = r.machine.tracing :=
  (kept_table _ _).call ⟨rfl, rfl⟩ hCall

end Rig

end IntcodeMachine
