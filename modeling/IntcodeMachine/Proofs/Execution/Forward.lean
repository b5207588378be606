import IntcodeMachine.Proofs.Execution.Bounds
import IntcodeMachine.Proofs.Execution.Outputs
import IntcodeMachine.Proofs.Execution.States

/-
  This file proves that a run whose jumps all go forward
  comes to an end within the tape.

  The tape may change while the machine runs, so there is no
  fixed program to look at. What shrinks is the distance
  from the counter to the end of the tape: an instruction
  that advances takes the counter past itself, and a jump
  takes it forward by assumption. The counter never lies
  further than right behind the tape, where no instruction
  can be read.

  Main declarations:
    * `Rig.Reached`
    * `Rig.Forward`
    * `Rig.pointer_lt_of_goesOn`
    * `Rig.Forward.climbs`
    * `Rig.Forward.exists_ends`
    * `Rig.Sweep`
    * `Rig.forward_ends`
-/

------------------------------------------------------------
-- Rigs That A Host Can Come To
------------------------------------------------------------

namespace IntcodeMachine

namespace Rig

variable {r r' r₀ r₁ r₂ : Rig} {s : Signal}
variable {size n k : Nat}

/-
  What calls make of a loaded machine. Between the calls,
  the host may write to the tape, trace or not, and do
  anything outside of the machine.
-/
inductive Reached
    (tape : Tape)
    (table : Table) : Rig → Prop where
| loaded (tracing : Bool) (h : Host) :
    Reached tape table (loaded tape table tracing h)
| called
    {budget : Nat}
    {c : Call}
    {x : Except Failure Answer}
    {r r' : Rig}
    (hReached : Reached tape table r)
    (hCall : r.call budget c = some (x, r')) :
    Reached tape table r'
| between
    {r : Rig}
    {t : Tape}
    (hReached : Reached tape table r)
    (hSize : t.size = r.machine.tape.size)
    (tracing : Bool)
    (trace : List Trace.Line)
    (h : Host) :
    Reached tape table
      ⟨{ r.machine with
          tape := t, tracing := tracing, trace := trace },
        h⟩

/- The bounds are kept. -/
theorem Reached.inBounds
    {tape : Tape}
    {table : Table}
    (hReached : Reached tape table r)
    (hContextual : table.Contextual) :
    InBounds tape.size r := by
  induction hReached with
  | loaded tracing h =>
      exact inBounds_loaded hContextual tape tracing h
  | called _ hCall ih =>
      exact (kept_inBounds tape.size).call ih hCall
  | between _ hSize tracing trace h ih =>
      exact
        { contextual := ih.contextual
          tape := hSize.trans ih.tape
          low := ih.low
          high := ih.high
          halted := ih.halted }

------------------------------------------------------------
-- Instructions In A Row
------------------------------------------------------------

/- What is reached later is reached from what is reached. -/
theorem Reaches.rest
    (hFirst : Reaches n r r₁)
    (hWhole : Reaches (n + k) r r₂) :
    Reaches k r₁ r₂ := by
  induction hFirst with
  | here r => rwa [Nat.zero_add] at hWhole
  | next hDispatch _ _ ih =>
      rw [Nat.add_right_comm] at hWhole
      cases hWhole with
      | next hOther _ hRest =>
          rw [hDispatch, Prod.mk.injEq] at hOther
          apply ih
          rw [hOther.2]
          exact hRest

/-
  An instruction is counted once or not at all, and not at
  all if there is none at the counter.
-/
theorem dispatch_steps
    {x : Except Failure Signal}
    (hDispatch : r.dispatch = (x, r')) :
    r'.machine.steps = r.machine.steps ∨
      r'.machine.steps = r.machine.steps + 1 ∧
        r.machine.tape.Contains r.machine.pointer := by
  unfold dispatch at hDispatch
  rcases hFetch : r.machine.fetch with e | ⟨o, i⟩
  · simp only [hFetch, Prod.mk.injEq] at hDispatch
    rw [hDispatch.2]
    exact Or.inl rfl
  · have hContains :=
      (Machine.fetch_eq_ok_iff.mp hFetch).contains
    rcases hOperands : r.machine.operands i with e | ps
    · simp only [hFetch, hOperands, Prod.mk.injEq]
        at hDispatch
      rw [hDispatch.2]
      exact Or.inl rfl
    · simp only [hFetch, hOperands] at hDispatch
      rcases hExecute :
          o.execute ⟨i, ps⟩ ⟨r.machine.tape, r.host⟩ with
        ⟨e | s, b⟩
      · simp only [hExecute, Prod.mk.injEq] at hDispatch
        rw [← hDispatch.2]
        exact Or.inl rfl
      · simp only [hExecute] at hDispatch
        refine Or.inr ⟨?_, hContains⟩
        rcases complete_cases hDispatch with
          ⟨e, trace, -, hMachine⟩ | ⟨-, -, hMachine⟩
        · rw [hMachine]
          rfl
        · rw [hMachine]
          rfl

theorem Reaches.steps
    (hReaches : Reaches n r r') :
    r'.machine.steps ≤ r.machine.steps + n := by
  induction hReaches with
  | here r => exact Nat.le_refl _
  | next hDispatch _ _ ih =>
      rcases dispatch_steps hDispatch with hSame | ⟨hOne, -⟩
      · omega
      · omega

------------------------------------------------------------
-- Jumps That Go Forward
------------------------------------------------------------

/- No instruction that is reached jumps back or on the spot. -/
def Forward (r : Rig) : Prop :=
  ∀ n r₀ r₁ a,
    Reaches n r r₀ →
    r₀.dispatch = (.ok (.jump a), r₁) →
    r₀.machine.pointer < a

theorem Forward.later
    (hForward : r.Forward)
    (hReaches : Reaches n r r₀) :
    r₀.Forward :=
  fun m r₁ r₂ a hRest hJump =>
    hForward (n + m) r₁ r₂ a (hReaches.trans hRest) hJump

/- One instruction after the other goes forward. -/
theorem Forward.of_dispatch
    (hDispatch : r.dispatch = (.ok s, r₁))
    (hAhead :
      r.machine.pointer <
        s.destination r.machine.pointer)
    (hRest : r₁.Forward) :
    r.Forward := by
  intro n r₀ r₂ a hReaches hJump
  cases hReaches with
  | here =>
      rw [hDispatch, Prod.mk.injEq, Except.ok.injEq] at hJump
      rw [hJump.1] at hAhead
      exact hAhead
  | next hOther _ hLater =>
      rw [hDispatch, Prod.mk.injEq] at hOther
      rw [← hOther.2] at hLater
      exact hRest _ _ _ _ hLater hJump

/- A machine that stops does not jump at all. -/
theorem Forward.of_stops
    (hDispatch : r.dispatch = (.ok s, r₁))
    (hStopped : r₁.machine.state.isStopped = true)
    (hStops : s.Stops) :
    r.Forward := by
  intro n r₀ r₂ a hReaches hJump
  cases hReaches with
  | here =>
      rw [hDispatch, Prod.mk.injEq, Except.ok.injEq] at hJump
      rw [hJump.1] at hStops
      simp [Signal.Stops] at hStops
  | next hOther hGoesOn _ =>
      rw [hDispatch, Prod.mk.injEq] at hOther
      rw [← hOther.2, hStopped] at hGoesOn
      simp at hGoesOn

/- An instruction that goes on takes the counter forward. -/
theorem pointer_lt_of_goesOn
    (hBounds : InBounds size r)
    (hForward : r.Forward)
    (hDispatch : r.dispatch = (.ok s, r'))
    (hGoesOn : r'.machine.state.isStopped = false) :
    r.machine.pointer < r'.machine.pointer := by
  rcases dispatch_ok_parts hDispatch with
    ⟨o, i, ps, b, hFetched, -, hExecute, -, -⟩
  rcases dispatch_ok_moves hDispatch with ⟨hPointer, hAfter⟩
  have hMade : s.MadeFor i :=
    (hBounds.contextual _ _ hFetched.entry).signal
      hFetched.arity hExecute
  rw [hAfter] at hGoesOn
  rw [hPointer]
  cases hMade with
  | advance =>
      rw [Signal.destination, Instruction.length]
      omega
  | jump address =>
      exact hForward 0 r r' address (.here r) hDispatch
  | halt =>
      simp [Signal.stateAfter, RunState.isStopped] at hGoesOn
  | suspend =>
      simp [Signal.stateAfter, RunState.isStopped] at hGoesOn

/- So many instructions take it forward by as many words. -/
theorem Forward.climbs
    (hForward : r.Forward)
    (hBounds : InBounds size r)
    (hState : r.machine.state = .running)
    (hReaches : Reaches n r r₀) :
    r.machine.pointer + n ≤ r₀.machine.pointer := by
  induction hReaches with
  | here r => simp
  | next hDispatch hGoesOn _ ih =>
      have hOne := Reaches.next hDispatch hGoesOn (.here _)
      have hAhead :=
        pointer_lt_of_goesOn hBounds hForward hDispatch hGoesOn
      have hRest :=
        ih (hForward.later hOne)
          (hBounds.dispatch_ok hState hDispatch)
          (hOne.state.trans hState)
      omega

/- Later instructions lie further ahead. -/
theorem Forward.ordered
    {j k : Nat}
    (hForward : r.Forward)
    (hBounds : InBounds size r)
    (hState : r.machine.state = .running)
    (hLess : j < k)
    (hFirst : Reaches j r r₁)
    (hSecond : Reaches k r r₂) :
    r₁.machine.pointer < r₂.machine.pointer := by
  have hBetween : Reaches (k - j) r₁ r₂ := by
    apply hFirst.rest
    rwa [Nat.add_sub_of_le (Nat.le_of_lt hLess)]
  have hClimbs :=
    (hForward.later hFirst).climbs
      ((kept_inBounds size).reaches hBounds hState hFirst)
      (hFirst.state.trans hState) hBetween
  omega

/- There is a cell for each instruction on the tape. -/
theorem Forward.room
    (hForward : r.Forward)
    (hBounds : InBounds size r)
    (hState : r.machine.state = .running)
    (hReaches : Reaches n r r₀) :
    r.machine.pointer + n ≤ size ∧
      (r₀.machine.tape.Contains r₀.machine.pointer →
        r.machine.pointer + (n + 1) ≤ size) := by
  have hLast : InBounds size r₀ :=
    (kept_inBounds size).reaches hBounds hState hReaches
  have hClimbs := hForward.climbs hBounds hState hReaches
  have hHigh := hLast.high
  refine ⟨by omega, fun hInside => ?_⟩
  rw [Tape.Contains, hLast.tape] at hInside
  omega

/- As many cells are left as instructions are counted. -/
theorem Forward.counted
    {x : Except Failure Signal}
    (hForward : r.Forward)
    (hBounds : InBounds size r)
    (hState : r.machine.state = .running)
    (hReaches : Reaches n r r₀)
    (hDispatch : r₀.dispatch = (x, r')) :
    r.machine.pointer + r'.machine.steps ≤
      size + r.machine.steps := by
  have hSteps := hReaches.steps
  rcases hForward.room hBounds hState hReaches with
    ⟨hBefore, hWith⟩
  rcases dispatch_steps hDispatch with
    hSame | ⟨hOne, hInside⟩
  · omega
  · have hLast := hWith hInside
    omega

/- The distance to the end of the tape runs out. -/
theorem Forward.exists_ends
    (hForward : r.Forward)
    (hBounds : InBounds size r)
    (hState : r.machine.state = .running) :
    ∃ n r₀ o r', Reaches n r r₀ ∧ r₀.Ends o r' := by
  have hHigh := hBounds.high
  -- The program may change on the way, the distance cannot
  -- but shrink.
  generalize hDistance :
    (size - r.machine.pointer).toNat = distance
  induction distance using Nat.strongRecOn generalizing r with
  | ind distance ih =>
      rcases hDispatch : r.dispatch with ⟨e | s, r₁⟩
      · exact ⟨0, r, .error e, r₁, .here r, hDispatch⟩
      · by_cases hStopped :
            r₁.machine.state.isStopped = true
        · exact
            ⟨0, r, .ok (), r₁, .here r, s, hDispatch,
              hStopped⟩
        · have hGoesOn := Bool.eq_false_iff.mpr hStopped
          have hOne := Reaches.next hDispatch hGoesOn (.here _)
          have hAhead :=
            pointer_lt_of_goesOn hBounds hForward hDispatch
              hGoesOn
          have hLater := hBounds.dispatch_ok hState hDispatch
          have hCloser := hLater.high
          rcases
              ih (size - r₁.machine.pointer).toNat (by omega)
                (hForward.later hOne) hLater
                (hOne.state.trans hState) hCloser rfl with
            ⟨n, r₀, o, r', hReaches, hEnds⟩
          exact
            ⟨n + 1, r₀, o, r',
              .next hDispatch hGoesOn hReaches, hEnds⟩

------------------------------------------------------------
-- Sweeps
------------------------------------------------------------

/-
  The run goes over the tape once: it comes to its end by an
  instruction that stops the machine or raises, after so
  many that do neither. No address is executed twice, and
  the instructions are no more than the cells from the first
  counter on.
-/
structure Sweep
    (r : Rig)
    (n : Nat)
    (r₀ : Rig)
    (o : Except Failure Unit)
    (r' : Rig) : Prop where
  reaches : Reaches n r.entered r₀
  run : ∀ budget, n < budget → r.run budget = some (o, r')
  outcome :
    (o = .ok () ∧ ∃ s, StopsBy s r₀ r') ∨
      ∃ e, o = .error e ∧ r₀.dispatch = (.error e, r')
  /- Nothing is executed right behind the tape. -/
  cells :
    r.machine.pointer + n ≤ r.machine.tape.size ∧
      (r₀.machine.tape.Contains r₀.machine.pointer →
        r.machine.pointer + (n + 1) ≤ r.machine.tape.size)
  once :
    ∀ j k r₁ r₂,
      j < k →
      Reaches j r.entered r₁ →
      Reaches k r.entered r₂ →
      r₁.machine.pointer < r₂.machine.pointer
  counted :
    r.machine.pointer + r'.machine.steps ≤
      r.machine.tape.size + r.machine.steps

/- A run that goes forward is a sweep. -/
theorem Forward.exists_sweep
    (hForward : r.entered.Forward)
    (hBounds : InBounds size r)
    (hState : r.machine.state ≠ .halted) :
    ∃ n r₀ o r', Sweep r n r₀ o r' := by
  have hEntered : InBounds size r.entered :=
    (kept_inBounds size).entered hBounds
  have hMachine := r.entered_machine
  have hRunning : r.entered.machine.state = .running := by
    rw [hMachine]
  rcases hForward.exists_ends hEntered hRunning with
    ⟨n, r₀, o, r', hReaches, hEnds⟩
  refine ⟨n, r₀, o, r', hReaches, ?_, ?_, ?_, ?_, ?_⟩
  · intro budget hBudget
    rw [Rig.run, if_neg hState]
    exact
      loop_eq_some_iff.mpr ⟨n, r₀, hBudget, hReaches, hEnds⟩
  · cases o with
    | error e => exact Or.inr ⟨e, rfl, hEnds⟩
    | ok u =>
        have hStops :=
          stopsBy_of_ends (hReaches.state.trans hRunning)
            hEnds
        exact Or.inl ⟨rfl, hStops⟩
  · have hRoom := hForward.room hEntered hRunning hReaches
    rw [hMachine] at hRoom
    rw [hBounds.tape]
    exact hRoom
  · intro j k r₁ r₂ hLess hFirst hSecond
    exact
      hForward.ordered hEntered hRunning hLess hFirst hSecond
  · have hDispatch : r₀.dispatch = (r₀.dispatch.1, r') :=
      Prod.ext rfl (dispatch_of_ends hEnds)
    have hCounted :=
      hForward.counted hEntered hRunning hReaches hDispatch
    rw [hMachine] at hCounted
    rw [hBounds.tape]
    exact hCounted

/-
  In every state that a host can come to, the run of a
  machine that has not halted is a sweep if all its jumps go
  forward, and the operations of the table answer what the
  context makes. In particular, it is a sweep if the
  operations are the standard ones and none of them jumps.
-/
theorem forward_ends
    {tape : Tape}
    {table : Table}
    (hReached : Reached tape table r)
    (hState : r.machine.state ≠ .halted) :
    (table.Contextual →
      r.entered.Forward →
      ∃ n r₀ o r', Sweep r n r₀ o r') ∧
    (∀ source sink,
      table = .standard source sink →
      (∀ n r₀ r₁ a,
        Reaches n r.entered r₀ →
        r₀.dispatch ≠ (.ok (.jump a), r₁)) →
      ∃ n r₀ o r', Sweep r n r₀ o r') := by
  constructor
  · intro hContextual hForward
    exact
      hForward.exists_sweep (hReached.inBounds hContextual)
        hState
  · rintro source sink rfl hNever
    have hContextual :=
      Table.contextual_standard source sink
    have hForward : r.entered.Forward :=
      fun n r₀ r₁ a hReaches hJump =>
        absurd hJump (hNever n r₀ r₁ a hReaches)
    exact
      hForward.exists_sweep (hReached.inBounds hContextual)
        hState

/-
  A jump to an addition that writes the halt behind it, with
  the halt as the last cell of the tape.
-/
theorem forward_jump_ends :
    ∃ r n r₀ o r',
      r =
        loaded ⟨[1105, 1, 4, 0, 1101, 98, 1, 8, 0]⟩
          .onConsole false (.fresh []) ∧
      r.entered.Forward ∧
      Sweep r n r₀ o r' := by
  have hForward :
      (loaded ⟨[1105, 1, 4, 0, 1101, 98, 1, 8, 0]⟩
        .onConsole false (.fresh [])).entered.Forward := by
    refine Forward.of_dispatch rfl (by decide) ?_
    refine Forward.of_dispatch rfl (by decide) ?_
    exact Forward.of_stops rfl rfl (Or.inl rfl)
  have hReached :
      Reached ⟨[1105, 1, 4, 0, 1101, 98, 1, 8, 0]⟩ .onConsole
        (loaded ⟨[1105, 1, 4, 0, 1101, 98, 1, 8, 0]⟩
          .onConsole false (.fresh [])) :=
    .loaded false (.fresh [])
  rcases
      (forward_ends hReached RunState.noConfusion).1
        (Table.contextual_standard .standard .standard)
        hForward with
    ⟨n, r₀, o, r', hSweep⟩
  exact ⟨_, n, r₀, o, r', rfl, hForward, hSweep⟩

end Rig

end IntcodeMachine
