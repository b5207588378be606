import IntcodeMachine.Proofs.Execution.Invariants
import IntcodeMachine.Proofs.Execution.Replacement
import IntcodeMachine.Proofs.Execution.Replies

/-
  This file describes the states that a machine goes
  through.

  A machine is not initialized until it is run or stepped.
  An instruction finds it running. A halt and a suspension
  stop it on the instruction that asked for them, and all
  else, a failure included, leaves it running. A machine
  that has halted stays as it is, and executes nothing.

  With the standard operations, a machine that has halted is
  on a word with the opcode 99.

  Main declarations:
    * `Rig.StopsBy`
    * `Rig.run_ok_stops`
    * `Rig.call_uninitialized_iff`
    * `Rig.session_of_halted`
    * `Rig.kept_onHalt`
    * `Rig.calls_states`
-/

------------------------------------------------------------
-- States After Signals
------------------------------------------------------------

namespace IntcodeMachine

namespace Signal

variable {s : Signal}

/- The signal asks the machine to stop. -/
def Stops (s : Signal) : Prop :=
  s = .halt ∨ s = .suspend

instance (s : Signal) : Decidable s.Stops := by
  unfold Stops
  infer_instance

/- A running machine is stopped by two signals only. -/
theorem stateAfter_running_iff
    (s : Signal) :
    (s.stateAfter .running = .halted ↔ s = .halt) ∧
      (s.stateAfter .running = .suspended ↔
        s = .suspend) ∧
      (s.stateAfter .running = .running ↔
        s ≠ .halt ∧ s ≠ .suspend) := by
  cases s with
  | halt => simp [stateAfter]
  | suspend => simp [stateAfter]
  | advance length => simp [stateAfter]
  | jump address => simp [stateAfter]
  | unknown => simp [stateAfter]

theorem isStopped_stateAfter_iff :
    (s.stateAfter .running).isStopped = true ↔
      s.Stops := by
  rcases s.stateAfter_running_iff with
    ⟨hHalts, hSuspends, -⟩
  rw [RunState.isStopped, Bool.or_eq_true,
    decide_eq_true_iff, decide_eq_true_iff, hHalts,
    hSuspends, Stops]

/- No signal takes a running machine back to its start. -/
theorem stateAfter_initialized
    (s : Signal) :
    s.stateAfter .running ≠ .uninitialized := by
  cases s with
  | halt => exact RunState.noConfusion
  | suspend => exact RunState.noConfusion
  | advance length => exact RunState.noConfusion
  | jump address => exact RunState.noConfusion
  | unknown => exact RunState.noConfusion

end Signal

------------------------------------------------------------
-- Instructions That Stop The Machine
------------------------------------------------------------

namespace Rig

variable {r r' : Rig} {s : Signal} {e : Failure}
variable {budget : Nat}

/-
  The next instruction asks to stop, and the machine stops
  on it.
-/
structure StopsBy
    (s : Signal)
    (r r' : Rig) : Prop where
  dispatch : r.dispatch = (.ok s, r')
  stopped :
    s = .halt ∧ r'.machine.state = .halted ∨
      s = .suspend ∧ r'.machine.state = .suspended
  pointer : r'.machine.pointer = r.machine.pointer

theorem stopsBy_of_dispatch
    (hState : r.machine.state = .running)
    (hDispatch : r.dispatch = (.ok s, r'))
    (hStops : s.Stops) :
    StopsBy s r r' := by
  rcases dispatch_ok_moves hDispatch with ⟨hPointer, hAfter⟩
  rw [hState] at hAfter
  rcases hStops with rfl | rfl
  · exact ⟨hDispatch, Or.inl ⟨rfl, hAfter⟩, hPointer⟩
  · exact ⟨hDispatch, Or.inr ⟨rfl, hAfter⟩, hPointer⟩

/- An instruction that ends a run well asks to stop. -/
theorem stopsBy_of_ends
    (hState : r.machine.state = .running)
    (hEnds : r.Ends (.ok ()) r') :
    ∃ s, StopsBy s r r' := by
  rcases hEnds with ⟨s, hDispatch, hStopped⟩
  have hAfter := (dispatch_ok_moves hDispatch).2
  rw [hState] at hAfter
  rw [hAfter, Signal.isStopped_stateAfter_iff] at hStopped
  exact ⟨s, stopsBy_of_dispatch hState hDispatch hStopped⟩

/- A run that returns was stopped by its last instruction. -/
theorem run_ok_stops
    (hState : r.machine.state ≠ .halted)
    (hRun : r.run budget = some (.ok (), r')) :
    ∃ n r₀ s, Reaches n r.entered r₀ ∧ StopsBy s r₀ r' := by
  rcases (finishes_iff_reaches hState).mp ⟨budget, hRun⟩ with
    ⟨n, r₀, hReaches, hEnds⟩
  have hRunning : r₀.machine.state = .running := by
    rw [hReaches.state, r.entered_machine]
  rcases stopsBy_of_ends hRunning hEnds with ⟨s, hStops⟩
  exact ⟨n, r₀, s, hReaches, hStops⟩

------------------------------------------------------------
-- States After Calls
------------------------------------------------------------

/- A run that returns leaves a machine that has stopped. -/
theorem run_ok_state
    (hRun : r.run budget = some (.ok (), r')) :
    r'.machine.state = .halted ∨
      r'.machine.state = .suspended := by
  by_cases hState : r.machine.state = .halted
  · rw [run, if_pos hState, Option.some.injEq,
      Prod.mk.injEq] at hRun
    rw [← hRun.2]
    exact Or.inl hState
  · rcases run_ok_stops hState hRun with
      ⟨n, r₀, s, -, hStops⟩
    rcases hStops.stopped with ⟨-, hHalted⟩ | ⟨-, hSuspended⟩
    · exact Or.inl hHalted
    · exact Or.inr hSuspended

/- A run that raises leaves the machine running. -/
theorem run_error_state
    (hRun : r.run budget = some (.error e, r')) :
    r'.machine.state = .running := by
  by_cases hState : r.machine.state = .halted
  · simp [run, hState] at hRun
  · rcases (finishes_iff_reaches hState).mp ⟨budget, hRun⟩
      with ⟨n, r₀, hReaches, hDispatch⟩
    rw [(dispatch_error_stays hDispatch).2, hReaches.state,
      r.entered_machine]

/- A step finds a halted machine, or executes an instruction. -/
theorem step_parts
    {x : Except Failure (Option Signal)}
    (hStep : r.step = (x, r')) :
    (r.machine.state = .halted ∧ x = .ok none ∧ r' = r) ∨
      ∃ y,
        (r.enter .running).dispatch = (y, r') ∧
          x = y.map some := by
  by_cases hState : r.machine.state = .halted
  · rw [step, if_pos hState, Prod.mk.injEq] at hStep
    exact Or.inl ⟨hState, hStep.1.symm, hStep.2.symm⟩
  · rw [step_eq_dispatch hState, Prod.mk.injEq] at hStep
    exact Or.inr ⟨_, Prod.ext rfl hStep.2, hStep.1.symm⟩

theorem step_ok_none
    (hStep : r.step = (.ok none, r')) :
    r.machine.state = .halted ∧ r' = r := by
  rcases step_parts hStep with
    ⟨hState, -, hSame⟩ | ⟨e | s, -, hMap⟩
  · exact ⟨hState, hSame⟩
  · simp [Except.map] at hMap
  · simp [Except.map] at hMap

theorem step_ok_some
    (hStep : r.step = (.ok (some s), r')) :
    (r.enter .running).dispatch = (.ok s, r') := by
  rcases step_parts hStep with
    ⟨-, hNone, -⟩ | ⟨e | s₁, hDispatch, hMap⟩
  · simp at hNone
  · simp [Except.map] at hMap
  · simp only [Except.map, Except.ok.injEq,
      Option.some.injEq] at hMap
    rw [hMap]
    exact hDispatch

theorem step_error
    (hStep : r.step = (.error e, r')) :
    (r.enter .running).dispatch = (.error e, r') := by
  rcases step_parts hStep with
    ⟨-, hNone, -⟩ | ⟨e₁ | s, hDispatch, hMap⟩
  · simp at hNone
  · simp only [Except.map, Except.error.injEq] at hMap
    rw [hMap]
    exact hDispatch
  · simp [Except.map] at hMap

/- The signal of a step decides about the state. -/
theorem step_ok_state
    (hStep : r.step = (.ok (some s), r')) :
    r'.machine.state = s.stateAfter .running :=
  (dispatch_ok_moves (step_ok_some hStep)).2

/- A step that raises leaves the machine running. -/
theorem step_error_state
    (hStep : r.step = (.error e, r')) :
    r'.machine.state = .running :=
  (dispatch_error_stays (step_error hStep)).2

------------------------------------------------------------
-- Machines That Are Not Initialized
------------------------------------------------------------

theorem run_initializes
    {x : Except Failure Unit}
    (hRun : r.run budget = some (x, r')) :
    r'.machine.state ≠ .uninitialized := by
  cases x with
  | error e =>
      rw [run_error_state hRun]
      exact RunState.noConfusion
  | ok u =>
      rcases run_ok_state hRun with hHalted | hSuspended
      · rw [hHalted]
        exact RunState.noConfusion
      · rw [hSuspended]
        exact RunState.noConfusion

theorem step_initializes
    (r : Rig) :
    r.step.2.machine.state ≠ .uninitialized := by
  rcases hStep : r.step with ⟨e | _ | s, r'⟩
  · rw [step_error_state hStep]
    exact RunState.noConfusion
  · rcases step_ok_none hStep with ⟨hHalted, rfl⟩
    rw [hHalted]
    exact RunState.noConfusion
  · rw [step_ok_state hStep]
    exact s.stateAfter_initialized

/- Decoding alone leaves a machine not initialized. -/
theorem call_uninitialized_iff
    {c : Call}
    {x : Except Failure Answer}
    (hCall : r.call budget c = some (x, r')) :
    r'.machine.state = .uninitialized ↔
      r.machine.state = .uninitialized ∧ c = .decode := by
  rcases call_leaves hCall with
    ⟨rfl, o, hRun⟩ | ⟨rfl, rfl⟩ | ⟨rfl, rfl⟩
  · simp [run_initializes hRun]
  · simp [r.step_initializes]
  · simp

theorem session_uninitialized_iff
    {log : List Occasion}
    (hSession : Session log r r') :
    r'.machine.state = .uninitialized ↔
      r.machine.state = .uninitialized ∧
        ∀ o ∈ log, o.call = .decode := by
  induction hSession with
  | rest r => simp
  | host h _ ih => exact ih
  | call hCall _ ih =>
      rw [ih, call_uninitialized_iff hCall,
        List.forall_mem_cons, and_assoc]

------------------------------------------------------------
-- Machines That Have Halted
------------------------------------------------------------

/- No call changes a machine that has halted. -/
theorem call_of_halted
    (hState : r.machine.state = .halted)
    (budget : Nat)
    (c : Call) :
    ∃ x r',
      r.call budget c = some (x, r') ∧
        r'.machine = r.machine := by
  cases c with
  | run =>
      rw [call, run, if_pos hState]
      exact ⟨_, _, rfl, rfl⟩
  | step =>
      rw [call, step, if_pos hState]
      exact ⟨_, _, rfl, rfl⟩
  | decode => exact ⟨_, _, rfl, rfl⟩

theorem session_of_halted
    {log : List Occasion}
    (hState : r.machine.state = .halted)
    (hSession : Session log r r') :
    r'.machine = r.machine := by
  induction hSession with
  | rest r => rfl
  | host h _ ih => exact ih hState
  | @call log budget c x r r₁ r' hCall _ ih =>
      rcases call_of_halted hState budget c with
        ⟨y, r₂, hOther, hSame⟩
      rw [hCall, Option.some.injEq, Prod.mk.injEq] at hOther
      rw [← hOther.2] at hSame
      exact (ih (hSame ▸ hState)).trans hSame

------------------------------------------------------------
-- Where The Standard Machine Halts
------------------------------------------------------------

/- A halted machine with standard operations is on opcode 99. -/
structure OnHalt
    (source : Source)
    (sink : Sink)
    (r : Rig) : Prop where
  table : r.machine.table = .standard source sink
  word :
    r.machine.state = .halted →
      ∃ word,
        r.machine.tape.read r.machine.pointer = .ok word ∧
          0 ≤ word ∧ word % 100 = 99

theorem OnHalt.dispatch_ok
    {source : Source}
    {sink : Sink}
    (hOnHalt : OnHalt source sink r)
    (hState : r.machine.state = .running)
    (hDispatch : r.dispatch = (.ok s, r')) :
    OnHalt source sink r' := by
  refine
    ⟨(dispatch_keeps hDispatch).1.trans hOnHalt.table, ?_⟩
  intro hHalted
  rcases dispatch_ok_moves hDispatch with ⟨hPointer, hAfter⟩
  rw [hAfter, hState, (s.stateAfter_running_iff).1] at hHalted
  subst hHalted
  rcases dispatch_ok_parts hDispatch with
    ⟨o, i, ps, b, hFetched, -, hExecute, -, hTape⟩
  have hEntry := hFetched.entry
  rw [hOnHalt.table] at hEntry
  rcases Table.standard_halts hEntry hExecute with
    ⟨hOpcode, hBench⟩
  have hWord := opcodeOf_eq_ok_iff.mp hFetched.opcode
  rw [hOpcode] at hWord
  refine ⟨i.word, ?_, hWord⟩
  rw [hTape, hBench, hPointer]
  exact hFetched.word

theorem kept_onHalt
    (source : Source)
    (sink : Sink) :
    Kept (OnHalt source sink) where
  enter _ hOnHalt :=
    { hOnHalt with word := fun hState => by cases hState }
  host _ _ hOnHalt := { hOnHalt with }
  dispatch r x r' hOnHalt hState hDispatch := by
    cases x with
    | ok s => exact hOnHalt.dispatch_ok hState hDispatch
    | error e =>
        have hTable := (dispatch_keeps hDispatch).1
        have hAfter := (dispatch_error_stays hDispatch).2
        refine ⟨hTable.trans hOnHalt.table, ?_⟩
        rw [hAfter, hState]
        exact fun hHalted => by cases hHalted

------------------------------------------------------------
-- Any Session
------------------------------------------------------------

/-
  After any session, the machine is not initialized exactly
  if it was never run or stepped. A run that returns has
  stopped the machine; a step stops it if its signal asks
  for that. The machine stops on the instruction that asked.
  A call that raises leaves it running. Decoding changes
  nothing, so that only a run or a step ends a suspension. A
  machine that has halted is never changed again, and its
  calls execute nothing.
-/
theorem calls_states
    {tape : Tape}
    {table : Table}
    {tracing : Bool}
    {h : Host}
    {log : List Occasion}
    (hSession :
      Session log (loaded tape table tracing h) r) :
    (r.machine.state = .uninitialized ↔
      ∀ o ∈ log, o.call = .decode) ∧
    (∀ budget r',
      r.run budget = some (.ok (), r') →
      (r'.machine.state = .halted ∨
        r'.machine.state = .suspended) ∧
      (r.machine.state ≠ .halted →
        ∃ n r₀ s,
          Reaches n r.entered r₀ ∧ StopsBy s r₀ r')) ∧
    (∀ budget e r',
      r.run budget = some (.error e, r') →
      r'.machine.state = .running) ∧
    (∀ s r',
      r.step = (.ok (some s), r') →
      (r'.machine.state = .halted ↔ s = .halt) ∧
      (r'.machine.state = .suspended ↔ s = .suspend) ∧
      (r'.machine.state = .running ↔
        s ≠ .halt ∧ s ≠ .suspend) ∧
      (s = .halt ∨ s = .suspend →
        StopsBy s (r.enter .running) r')) ∧
    (∀ e r',
      r.step = (.error e, r') →
      r'.machine.state = .running) ∧
    (∀ budget c x r',
      r.call budget c = some (x, r') →
      (c = .decode → r' = r) ∧
      (r.machine.state = .suspended →
        r'.machine.state ≠ .suspended →
        c = .run ∨ c = .step)) ∧
    (r.machine.state = .halted →
      ∀ later r',
        Session later r r' →
        r'.machine = r.machine ∧
          (∀ c, r'.Idle c) ∧
          ∀ budget c,
            ∃ x r'', r'.call budget c = some (x, r'')) ∧
    (∀ source sink,
      table = .standard source sink →
      r.machine.state = .halted →
      ∃ word,
        r.machine.tape.read r.machine.pointer = .ok word ∧
          0 ≤ word ∧ word % 100 = 99) := by
  refine ⟨?_, ?_, ?_, ?_, ?_, ?_, ?_, ?_⟩
  · rw [session_uninitialized_iff hSession]
    exact and_iff_right rfl
  · intro budget r' hRun
    exact
      ⟨run_ok_state hRun,
        fun hState => run_ok_stops hState hRun⟩
  · exact fun budget e r' hRun => run_error_state hRun
  · intro s r' hStep
    rcases s.stateAfter_running_iff with
      ⟨hHalts, hSuspends, hGoesOn⟩
    rw [step_ok_state hStep]
    exact
      ⟨hHalts, hSuspends, hGoesOn,
        stopsBy_of_dispatch rfl (step_ok_some hStep)⟩
  · exact fun e r' hStep => step_error_state hStep
  · intro budget c x r' hCall
    rcases call_leaves hCall with
      ⟨rfl, -⟩ | ⟨rfl, -⟩ | ⟨rfl, rfl⟩
    · exact ⟨Call.noConfusion, fun _ _ => Or.inl rfl⟩
    · exact ⟨Call.noConfusion, fun _ _ => Or.inr rfl⟩
    · exact ⟨fun _ => rfl, fun hState h => absurd hState h⟩
  · intro hState later r' hLater
    have hSame := session_of_halted hState hLater
    have hHalted : r'.machine.state = .halted := hSame ▸ hState
    refine ⟨hSame, idle_of_halted hHalted, fun budget c => ?_⟩
    rcases call_of_halted hHalted budget c with
      ⟨x, r'', hCall, -⟩
    exact ⟨x, r'', hCall⟩
  · rintro source sink rfl hState
    have hStart :
        OnHalt source sink
          (loaded tape (.standard source sink) tracing h) :=
      ⟨rfl, fun hHalted => by cases hHalted⟩
    exact
      ((kept_onHalt source sink).session hStart
        hSession).word hState

/-
  An input that waits for its queue to be fed, and a probe
  that halts where there is no cell. With the standard
  operations, a step of an addition, and a run that halts
  behind it.
-/
theorem probe_states :
    (∃ log r,
      Session log
        (loaded ⟨[3, 3, 4, 9]⟩ .probing false
          ((Host.fresh []).addQueue []).2) r ∧
      log.map Occasion.call = [.run, .run] ∧
      r.machine.state = .halted ∧
      ∀ later r',
        Session later r r' → r'.machine = r.machine) ∧
    ∃ log r,
      Session log
        (loaded ⟨[1101, 1, 1, 0, 99]⟩ .onConsole false
          (.fresh [])) r ∧
      log.map Occasion.call = [.decode, .step, .run] ∧
      ∃ word,
        r.machine.tape.read r.machine.pointer = .ok word ∧
          0 ≤ word ∧ word % 100 = 99 := by
  constructor
  · have hFed :
        ∃ log r,
          Session log
            (loaded ⟨[3, 3, 4, 9]⟩ .probing false
              ((Host.fresh []).addQueue []).2) r ∧
          log.map Occasion.call = [.run, .run] ∧
          r.machine.state = .halted :=
      session_of_fed 1 2 0 [7] (by decide +kernel)
    rcases hFed with ⟨log, r, hSession, hCalls, hState⟩
    rcases calls_states hSession with
      ⟨-, -, -, -, -, -, hStays, -⟩
    exact
      ⟨log, r, hSession, hCalls, hState,
        fun later r' hLater =>
          (hStays hState later r' hLater).1⟩
  · have hSession :
        ∃ log r,
          Session log
            (loaded ⟨[1101, 1, 1, 0, 99]⟩ .onConsole false
              (.fresh [])) r ∧
          log.map Occasion.call = [.decode, .step, .run] ∧
          r.machine.state = .halted :=
      ⟨[⟨0, .decode, _, _⟩, ⟨0, .step, _, _⟩,
          ⟨1, .run, _, _⟩], _,
        .call rfl (.call rfl (.call rfl (.rest _))), rfl, rfl⟩
    rcases hSession with ⟨log, r, hSession, hCalls, hState⟩
    rcases calls_states hSession with
      ⟨-, -, -, -, -, -, -, hWord⟩
    exact
      ⟨log, r, hSession, hCalls,
        hWord .standard .standard rfl hState⟩

end Rig

end IntcodeMachine
