import IntcodeMachine.Proofs.Execution.Attempt

/-
  This file takes runs apart into single instructions.

  A run executes instructions that let the machine go on,
  and then one instruction that fails or stops it. More
  budget changes nothing for a run that has come to an end,
  so a run has at most one outcome.

  Main declarations:
    * `Rig.Reaches`
    * `Rig.Ends`
    * `Rig.loop_eq_some_iff`
    * `Rig.Finishes`
    * `Rig.finishes_iff_reaches`
    * `Rig.run_mono`
    * `Rig.Finishes.unique`
    * `Rig.Finishes.after`
    * `Rig.step_eq_dispatch`
-/

------------------------------------------------------------
-- Instructions In A Row
------------------------------------------------------------

namespace IntcodeMachine

namespace Rig

/-
  The first rig becomes the second by so many instructions,
  none of which fails or stops the machine.
-/
inductive Reaches : Nat → Rig → Rig → Prop where
| here (r : Rig) : Reaches 0 r r
| next
    {n : Nat}
    {r r₁ r' : Rig}
    {s : Signal}
    (hDispatch : r.dispatch = (.ok s, r₁))
    (hGoesOn : r₁.machine.state.isStopped = false)
    (hRest : Reaches n r₁ r') :
    Reaches (n + 1) r r'

/- The next instruction fails or stops the machine. -/
def Ends
    (r : Rig)
    (o : Except Failure Unit)
    (r' : Rig) : Prop :=
  match o with
  | .error e => r.dispatch = (.error e, r')
  | .ok _ =>
      ∃ s, r.dispatch = (.ok s, r') ∧
        r'.machine.state.isStopped = true

theorem Reaches.trans
    {m n : Nat}
    {r r₁ r' : Rig}
    (hFirst : Reaches m r r₁)
    (hSecond : Reaches n r₁ r') :
    Reaches (m + n) r r' := by
  induction hFirst with
  | here r => simpa using hSecond
  | next hDispatch hGoesOn hRest ih =>
      rw [Nat.add_right_comm]
      exact Reaches.next hDispatch hGoesOn (ih hSecond)

------------------------------------------------------------
-- What Instructions Keep
------------------------------------------------------------

/- An instruction keeps the table and whether it traces. -/
theorem dispatch_keeps
    {r r' : Rig}
    {o : Except Failure Signal}
    (hDispatch : r.dispatch = (o, r')) :
    r'.machine.table = r.machine.table ∧
      r'.machine.tracing = r.machine.tracing := by
  rcases r.attempt_machine with ⟨t, hAttempted⟩
  cases o with
  | error e =>
      rcases dispatch_error_effect hDispatch with
        ⟨steps, trace, hMachine⟩
      rw [hMachine, hAttempted]
      exact ⟨rfl, rfl⟩
  | ok s =>
      rcases dispatch_ok_effect hDispatch with
        ⟨x, r₁, hAttempt, -, -, hMachine⟩
      rw [hAttempt] at hAttempted
      rw [hMachine, hAttempted]
      exact ⟨rfl, rfl⟩

theorem Reaches.keeps
    {n : Nat}
    {r r' : Rig}
    (hReaches : Reaches n r r') :
    r'.machine.table = r.machine.table ∧
      r'.machine.tracing = r.machine.tracing := by
  induction hReaches with
  | here r => exact ⟨rfl, rfl⟩
  | next hDispatch _ _ ih =>
      have hKeeps := dispatch_keeps hDispatch
      exact ⟨ih.1.trans hKeeps.1, ih.2.trans hKeeps.2⟩

/- A signal moves the counter and decides about the state. -/
theorem dispatch_ok_moves
    {r r' : Rig}
    {s : Signal}
    (hDispatch : r.dispatch = (.ok s, r')) :
    r'.machine.pointer = s.destination r.machine.pointer ∧
      r'.machine.state = s.stateAfter r.machine.state := by
  rcases r.attempt_machine with ⟨t, hAttempted⟩
  rcases dispatch_ok_effect hDispatch with
    ⟨x, r₁, hAttempt, -, -, hMachine⟩
  rw [hAttempt] at hAttempted
  rw [hMachine, hAttempted]
  exact ⟨rfl, rfl⟩

/- A failure leaves the counter and the state alone. -/
theorem dispatch_error_stays
    {r r' : Rig}
    {e : Failure}
    (hDispatch : r.dispatch = (.error e, r')) :
    r'.machine.pointer = r.machine.pointer ∧
      r'.machine.state = r.machine.state := by
  rcases r.attempt_machine with ⟨t, hAttempted⟩
  rcases dispatch_error_effect hDispatch with
    ⟨steps, trace, hMachine⟩
  rw [hMachine, hAttempted]
  exact ⟨rfl, rfl⟩

theorem Reaches.state
    {n : Nat}
    {r r' : Rig}
    (hReaches : Reaches n r r') :
    r'.machine.state = r.machine.state := by
  induction hReaches with
  | here r => rfl
  | next hDispatch hGoesOn _ ih =>
      rw [ih]
      have hState := (dispatch_ok_moves hDispatch).2
      rw [hState] at hGoesOn ⊢
      exact Signal.stateAfter_of_not_stopped hGoesOn

------------------------------------------------------------
-- Runs As Instructions In A Row
------------------------------------------------------------

/- A loop with enough budget reaches the instruction that ends it. -/
theorem loop_eq_some_iff
    {budget : Nat}
    {r r' : Rig}
    {o : Except Failure Unit} :
    loop budget r = some (o, r') ↔
      ∃ n r₀, n < budget ∧ Reaches n r r₀ ∧
        r₀.Ends o r' := by
  induction budget generalizing r with
  | zero => simp [loop]
  | succ budget ih =>
      constructor
      · intro hLoop
        rw [loop] at hLoop
        rcases hDispatch : r.dispatch with ⟨e | s, r₁⟩
        · rw [hDispatch] at hLoop
          simp only [Option.some.injEq, Prod.mk.injEq]
            at hLoop
          rcases hLoop with ⟨rfl, rfl⟩
          exact
            ⟨0, r, Nat.succ_pos _, Reaches.here r,
              hDispatch⟩
        · rw [hDispatch] at hLoop
          dsimp only at hLoop
          split at hLoop
          · rename_i hStopped
            simp only [Option.some.injEq, Prod.mk.injEq]
              at hLoop
            rcases hLoop with ⟨rfl, rfl⟩
            exact
              ⟨0, r, Nat.succ_pos _, Reaches.here r,
                s, hDispatch, hStopped⟩
          · rename_i hGoesOn
            rcases ih.mp hLoop with
              ⟨n, r₀, hBudget, hReaches, hEnds⟩
            refine
              ⟨n + 1, r₀, Nat.succ_lt_succ hBudget, ?_,
                hEnds⟩
            exact
              Reaches.next hDispatch
                (Bool.eq_false_iff.mpr hGoesOn)
                hReaches
      · intro hParts
        rcases hParts with ⟨n, r₀, hBudget, hReaches, hEnds⟩
        rw [loop]
        cases hReaches with
        | here =>
            cases o with
            | error e =>
                rw [show r.dispatch = (.error e, r') from
                  hEnds]
            | ok u =>
                rcases hEnds with ⟨s, hDispatch, hStopped⟩
                rw [hDispatch]
                dsimp only
                rw [if_pos hStopped]
        | next hDispatch hGoesOn hRest =>
            rw [hDispatch]
            dsimp only
            rw [hGoesOn, if_neg Bool.false_ne_true]
            exact
              ih.mpr
                ⟨_, r₀, Nat.lt_of_succ_lt_succ hBudget,
                  hRest, hEnds⟩

/- More budget does not change a run that comes to an end. -/
theorem run_mono
    {small large : Nat}
    {r r' : Rig}
    {o : Except Failure Unit}
    (hRun : r.run small = some (o, r'))
    (hLe : small ≤ large) :
    r.run large = some (o, r') := by
  unfold run at hRun ⊢
  split at hRun
  · rename_i hHalted
    rw [if_pos hHalted]
    exact hRun
  · rename_i hHalted
    rw [if_neg hHalted]
    rcases loop_eq_some_iff.mp hRun with
      ⟨n, r₀, hBudget, hReaches, hEnds⟩
    exact
      loop_eq_some_iff.mpr
        ⟨n, r₀, Nat.lt_of_lt_of_le hBudget hLe, hReaches,
          hEnds⟩

/- What ends a row of instructions ends each part of it. -/
theorem Reaches.split
    {m n : Nat}
    {r r₀ r₁ r' : Rig}
    {o : Except Failure Unit}
    (hFirst : Reaches m r r₀)
    (hWhole : Reaches n r r₁)
    (hEnds : r₁.Ends o r') :
    ∃ k, Reaches k r₀ r₁ := by
  induction hFirst generalizing n with
  | here r => exact ⟨n, hWhole⟩
  | next hDispatch hGoesOn _ ih =>
      cases hWhole with
      | here =>
          cases o with
          | error e =>
              simp only [Ends] at hEnds
              simp [hDispatch] at hEnds
          | ok u =>
              rcases hEnds with ⟨s, hOther, hStopped⟩
              rw [hDispatch, Prod.mk.injEq] at hOther
              rw [← hOther.2, hGoesOn] at hStopped
              simp at hStopped
      | next hOther _ hRest =>
          rw [hDispatch, Prod.mk.injEq] at hOther
          rw [← hOther.2] at hRest
          exact ih hRest

/- With enough budget, a run comes to this end. -/
def Finishes
    (r : Rig)
    (o : Except Failure Unit)
    (r' : Rig) : Prop :=
  ∃ budget, r.run budget = some (o, r')

/- A run comes to one end only. -/
theorem Finishes.unique
    {r r₁ r₂ : Rig}
    {o₁ o₂ : Except Failure Unit}
    (hFirst : r.Finishes o₁ r₁)
    (hSecond : r.Finishes o₂ r₂) :
    o₁ = o₂ ∧ r₁ = r₂ := by
  rcases hFirst with ⟨m, hFirst⟩
  rcases hSecond with ⟨n, hSecond⟩
  have hFirstMax := run_mono hFirst (Nat.le_max_left m n)
  have hSecondMax := run_mono hSecond (Nat.le_max_right m n)
  rw [hFirstMax] at hSecondMax
  simpa using hSecondMax

/- The rig whose instructions a run executes. -/
def entered (r : Rig) : Rig :=
  r.resumed.enter .running

/- Entering a run changes the state and the log alone. -/
theorem entered_machine
    (r : Rig) :
    r.entered.machine =
      { r.machine with state := .running } := by
  unfold entered resumed
  split
  · rfl
  · rfl

/- Running machines stay in the state that a run enters. -/
theorem enter_running
    {r : Rig}
    (hState : r.machine.state = .running) :
    r.enter .running = r := by
  rw [enter, ← hState]

theorem entered_of_running
    {r : Rig}
    (hState : r.machine.state = .running) :
    r.entered = r := by
  rw [entered, resumed, if_neg (by simp [hState]),
    enter_running hState]

/-
  The run of a machine that has not halted comes to an end
  by some instructions and one that fails or stops it.
-/
theorem finishes_iff_reaches
    {r r' : Rig}
    {o : Except Failure Unit}
    (hState : r.machine.state ≠ .halted) :
    r.Finishes o r' ↔
      ∃ n r₀, Reaches n r.entered r₀ ∧ r₀.Ends o r' := by
  unfold Finishes run
  simp only [if_neg hState]
  constructor
  · intro hParts
    rcases hParts with ⟨budget, hLoop⟩
    rcases loop_eq_some_iff.mp hLoop with
      ⟨n, r₀, -, hReaches, hEnds⟩
    exact ⟨n, r₀, hReaches, hEnds⟩
  · intro hParts
    rcases hParts with ⟨n, r₀, hReaches, hEnds⟩
    exact
      ⟨n + 1,
        loop_eq_some_iff.mpr
          ⟨n, r₀, Nat.lt_succ_self n, hReaches, hEnds⟩⟩

/- A run from what a run reaches comes to the same end. -/
theorem Finishes.after
    {n : Nat}
    {r r₀ r' : Rig}
    {o : Except Failure Unit}
    (hFinishes : r.Finishes o r')
    (hState : r.machine.state ≠ .halted)
    (hReaches : Reaches n r.entered r₀) :
    r₀.Finishes o r' := by
  have hRunning : r₀.machine.state = .running := by
    rw [hReaches.state, r.entered_machine]
  rcases (finishes_iff_reaches hState).mp hFinishes with
    ⟨m, r₁, hWhole, hEnds⟩
  rcases hReaches.split hWhole hEnds with ⟨k, hRest⟩
  refine (finishes_iff_reaches (by simp [hRunning])).mpr ?_
  rw [entered_of_running hRunning]
  exact ⟨k, r₁, hRest, hEnds⟩

/- The step of a machine that has not halted is an instruction. -/
theorem step_eq_dispatch
    {r : Rig}
    (hState : r.machine.state ≠ .halted) :
    r.step =
      ((r.enter .running).dispatch.1.map some,
        (r.enter .running).dispatch.2) := by
  rw [step, if_neg hState]
  rcases (r.enter .running).dispatch with ⟨e | s, r'⟩
  · rfl
  · rfl

end Rig

end IntcodeMachine
