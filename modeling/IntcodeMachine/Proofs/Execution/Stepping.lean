import IntcodeMachine.Proofs.Execution.States
import IntcodeMachine.Proofs.Tracing.Agreement

/-
  This file proves that to run a machine is to step it again
  and again, until a step stops it or raises.

  A run enters the running state once, and a step enters it
  each time; in between the machine is running anyway. A run
  of a suspended machine says so in the log, and steps do
  not. Nothing else differs.

  Main declarations:
    * `Rig.walk`
    * `Rig.Strides`
    * `Rig.Matches`
    * `Rig.walk_eq_loop`
    * `Rig.walk_eq_none_iff`
    * `Rig.run_eq_steps`
-/

------------------------------------------------------------
-- Steps In A Row
------------------------------------------------------------

namespace IntcodeMachine

/- The signal lets the machine go on. -/
inductive Signal.GoesOn : Signal → Prop where
| advance (length : Int) : GoesOn (.advance length)
| jump (address : Int) : GoesOn (.jump address)

theorem Signal.GoesOn.not_stops
    {s : Signal}
    (hGoesOn : s.GoesOn) :
    ¬ s.Stops := by
  cases hGoesOn with
  | advance length => simp [Stops]
  | jump address => simp [Stops]

namespace Rig

variable {r r' r₀ r₁ r₂ : Rig} {s : Signal}
variable {n budget : Nat}

/-
  Step the machine until a step gives a signal to stop or
  raises, within a budget of steps.
-/
def walk :
    Nat → Rig → Option (Except Failure Unit × Rig)
| 0, _ => none
| budget + 1, r =>
    match r.step with
    | (.error e, r') => some (.error e, r')
    | (.ok none, r') => walk budget r'
    | (.ok (some s), r') =>
        if s.Stops then some (.ok (), r') else walk budget r'

/- So many steps give signals to go on. -/
inductive Strides : Nat → Rig → Rig → Prop where
| here (r : Rig) : Strides 0 r r
| next
    {n : Nat}
    {r r₁ r' : Rig}
    {s : Signal}
    (hStep : r.step = (.ok (some s), r₁))
    (hGoesOn : s.GoesOn)
    (hRest : Strides n r₁ r') :
    Strides (n + 1) r r'

theorem strides_succ_iff :
    Strides (n + 1) r r' ↔
      ∃ s r₁,
        r.step = (.ok (some s), r₁) ∧
          s.GoesOn ∧ Strides n r₁ r' := by
  constructor
  · intro hStrides
    cases hStrides with
    | next hStep hGoesOn hRest =>
        exact ⟨_, _, hStep, hGoesOn, hRest⟩
  · rintro ⟨s, r₁, hStep, hGoesOn, hRest⟩
    exact Strides.next hStep hGoesOn hRest

------------------------------------------------------------
-- Steps And Loops
------------------------------------------------------------

/- A signal that was applied stops the machine or not. -/
theorem dispatch_ok_signal
    (hDispatch : r.dispatch = (.ok s, r')) :
    s.Stops ∨ s.GoesOn := by
  rcases dispatch_ok_effect hDispatch with
    ⟨x, r₁, -, -, hAccepted, -⟩
  cases s with
  | advance length => exact Or.inr (.advance length)
  | jump address => exact Or.inr (.jump address)
  | halt => exact Or.inl (Or.inl rfl)
  | suspend => exact Or.inl (Or.inr rfl)
  | unknown => simp [Signal.refusal?] at hAccepted

/- A step that does not stop leaves the machine running. -/
theorem step_goesOn_state
    (hStep : r.step = (.ok (some s), r'))
    (hNot : ¬ s.Stops) :
    r'.machine.state = .running := by
  rw [step_ok_state hStep, s.stateAfter_running_iff.2.2]
  exact not_or.mp hNot

/- Steps go the way of the loop of a machine that is running. -/
theorem walk_eq_loop
    (budget : Nat)
    (hState : r.machine.state ≠ .halted) :
    walk budget r = loop budget (r.enter .running) := by
  induction budget generalizing r with
  | zero => rfl
  | succ budget ih =>
      rw [walk, loop, step_eq_dispatch hState]
      rcases hDispatch : (r.enter .running).dispatch with
        ⟨e | s, r₁⟩
      · rfl
      · have hStep : r.step = (.ok (some s), r₁) := by
          rw [step_eq_dispatch hState, hDispatch]
          rfl
        have hStopped :
            r₁.machine.state.isStopped = true ↔ s.Stops := by
          rw [step_ok_state hStep,
            Signal.isStopped_stateAfter_iff]
        simp only [Except.map, hStopped]
        split
        · rfl
        · rename_i hNot
          have hRunning := step_goesOn_state hStep hNot
          rw [ih (by rw [hRunning]; exact RunState.noConfusion),
            enter_running hRunning]

/- Steps come to no end as long as their signals go on. -/
theorem walk_eq_none_iff
    (hState : r.machine.state ≠ .halted) :
    walk n r = none ↔ ∃ r', Strides n r r' := by
  induction n generalizing r with
  | zero => exact iff_of_true rfl ⟨r, Strides.here r⟩
  | succ n ih =>
      simp only [walk, strides_succ_iff]
      rcases hStep : r.step with ⟨e | _ | s, r₁⟩
      · simp
      · exact absurd (step_ok_none hStep).1 hState
      · simp only [Prod.mk.injEq, Except.ok.injEq,
          Option.some.injEq]
        rcases dispatch_ok_signal (step_ok_some hStep) with
          hStops | hGoesOn
        · rw [if_pos hStops]
          refine iff_of_false (Option.some_ne_none _) ?_
          rintro ⟨r', s₁, r₂, ⟨rfl, -⟩, hGoesOn, -⟩
          exact hGoesOn.not_stops hStops
        · have hRunning :=
            step_goesOn_state hStep hGoesOn.not_stops
          rw [if_neg hGoesOn.not_stops,
            ih (by rw [hRunning]; exact RunState.noConfusion)]
          constructor
          · rintro ⟨r', hRest⟩
            exact ⟨r', s, r₁, ⟨rfl, rfl⟩, hGoesOn, hRest⟩
          · rintro ⟨r', s₁, r₂, ⟨rfl, rfl⟩, -, hRest⟩
            exact ⟨r', hRest⟩

/- Steps that go on are taken off the budget. -/
theorem Strides.walk_add
    (hStrides : Strides n r r₀)
    (budget : Nat) :
    walk (n + budget) r = walk budget r₀ := by
  induction hStrides with
  | here r => rw [Nat.zero_add]
  | next hStep hGoesOn _ ih =>
      rw [Nat.add_right_comm, walk, hStep]
      dsimp only
      rw [if_neg hGoesOn.not_stops, ih]

/- They leave the machine running, if there are any. -/
theorem Strides.state
    (hStrides : Strides n r r₀) :
    (n = 0 ∧ r₀ = r) ∨ r₀.machine.state = .running := by
  induction hStrides with
  | here r => exact Or.inl ⟨rfl, rfl⟩
  | next hStep hGoesOn _ ih =>
      refine Or.inr ?_
      rcases ih with ⟨-, rfl⟩ | hLater
      · exact step_goesOn_state hStep hGoesOn.not_stops
      · exact hLater

------------------------------------------------------------
-- Rigs That Differ In The Log
------------------------------------------------------------

/- The machines are the same, and the hosts but for the log. -/
structure Matches (r₁ r₂ : Rig) : Prop where
  machine : r₁.machine = r₂.machine
  host : r₁.host.Agrees r₂.host

theorem Matches.exists_log
    (hMatches : r₁.Matches r₂) :
    ∃ log,
      r₂ = ⟨r₁.machine, { r₁.host with log := log }⟩ := by
  rcases hMatches.host.exists_log with ⟨log, hHost⟩
  exact ⟨log, by rw [hMatches.machine, ← hHost]⟩

/- An attempt does not look at the log. -/
theorem Matches.attempt
    (hMatches : r₁.Matches r₂) :
    Alike Matches r₁.attempt r₂.attempt := by
  have hAgrees : r₁.Agrees r₂ :=
    agrees_iff.mpr
      ⟨by rw [hMatches.machine], hMatches.host⟩
  have hAlike := hAgrees.attempt
  rcases r₁.attempt_machine with ⟨t₁, hFirst⟩
  rcases r₂.attempt_machine with ⟨t₂, hSecond⟩
  have hTape := hAlike.2.machine.1
  refine ⟨hAlike.1, ?_, (agrees_iff.mp hAlike.2).2⟩
  rw [hFirst, hSecond] at hTape ⊢
  rw [hMatches.machine, show t₁ = t₂ from hTape]

/- Neither does the trace. -/
theorem Matches.traced
    (hMatches : r₁.Matches r₂)
    (l : Trace.Line) :
    Alike Matches (r₁.traced l) (r₂.traced l) := by
  rcases hMatches.exists_log with ⟨log, rfl⟩
  unfold Rig.traced
  dsimp only
  split
  · split
    · exact ⟨rfl, rfl, rfl⟩
    · exact ⟨rfl, rfl, rfl⟩
  · exact ⟨rfl, rfl, rfl⟩

/- Neither does what a signal asks for. -/
theorem Matches.apply
    (hMatches : r₁.Matches r₂)
    (s : Signal) :
    Alike Matches (r₁.apply s) (r₂.apply s) := by
  rcases hMatches.exists_log with ⟨log, rfl⟩
  cases s with
  | advance length => exact ⟨rfl, rfl, rfl⟩
  | jump address =>
      simp only [Rig.apply]
      split
      · exact ⟨rfl, rfl, rfl⟩
      · exact ⟨rfl, rfl, rfl⟩
  | halt => exact ⟨rfl, rfl, rfl⟩
  | suspend => exact ⟨rfl, rfl, rfl⟩
  | unknown => exact ⟨rfl, rfl, rfl⟩

theorem Matches.complete
    (hMatches : r₁.Matches r₂)
    (o : Operation)
    (ps : List Parameter)
    (s : Signal) :
    Alike Matches
      (r₁.complete o ps s) (r₂.complete o ps s) := by
  have hCounted : r₁.counted.Matches r₂.counted :=
    ⟨by rw [counted, counted, hMatches.machine],
      hMatches.host⟩
  rcases
      (hCounted.traced
        ⟨r₁.machine.pointer, o.name, ps, s⟩).parts with
    ⟨x, s₁, s₂, hFirst, hSecond, hTraced⟩
  rw [Rig.complete, Rig.complete, ← hMatches.machine, hFirst,
    hSecond]
  cases x with
  | error e => exact ⟨rfl, hTraced⟩
  | ok u =>
      rcases (hTraced.apply s).parts with
        ⟨y, t₁, t₂, hFirst, hSecond, hApplied⟩
      dsimp only
      rw [hFirst, hSecond]
      cases y with
      | error e => exact ⟨rfl, hApplied⟩
      | ok u => exact ⟨rfl, hApplied⟩

/- An instruction does the same whatever the log holds. -/
theorem Matches.dispatch
    (hMatches : r₁.Matches r₂) :
    Alike Matches r₁.dispatch r₂.dispatch := by
  rcases hMatches.attempt.parts with
    ⟨x, s₁, s₂, hFirst, hSecond, hLeft⟩
  rw [dispatch_eq_attempt, dispatch_eq_attempt, hFirst,
    hSecond]
  cases x with
  | error e => exact ⟨rfl, hLeft⟩
  | ok x =>
      exact
        hLeft.complete x.operation x.parameters x.signal

/- A run that is entered says so in the log alone. -/
theorem matches_entered
    (r : Rig) :
    r.entered.Matches (r.enter .running) := by
  refine ⟨r.entered_machine, ?_⟩
  unfold entered resumed
  split
  · rfl
  · rfl

------------------------------------------------------------
-- Runs
------------------------------------------------------------

/- A run comes to what steps come to, but for the log. -/
theorem run_matches_walk
    (hState : r.machine.state ≠ .halted)
    (budget : Nat) :
    Option.Rel (Alike Matches)
      (r.run budget) (r.walk budget) := by
  rw [run, if_neg hState, walk_eq_loop budget hState]
  exact
    loop_rel (fun s₁ s₂ h => by rw [h.machine]) budget
      r.matches_entered fun _ _ _ _ _ h => h.dispatch

/- The log is the same, too, if there is no suspension. -/
theorem run_eq_walk
    (hState : r.machine.state ≠ .halted)
    (hSuspended : r.machine.state ≠ .suspended)
    (budget : Nat) :
    r.run budget = r.walk budget := by
  rw [run, if_neg hState, walk_eq_loop budget hState,
    resumed, if_neg hSuspended]

/- Steps that go on do not change what a run comes to. -/
theorem Strides.run_matches
    (hState : r.machine.state ≠ .halted)
    (hStrides : Strides n r r₀)
    (budget : Nat) :
    Option.Rel (Alike Matches)
      (r.run (n + budget)) (r₀.run budget) := by
  rcases hStrides.state with ⟨rfl, rfl⟩ | hRunning
  · rw [Nat.zero_add]
    cases r₀.run budget with
    | none => exact Option.Rel.none
    | some x => exact Option.Rel.some ⟨rfl, rfl, rfl⟩
  · have hRun := run_matches_walk hState (n + budget)
    rw [hStrides.walk_add,
      ← run_eq_walk (by simp [hRunning]) (by simp [hRunning])]
      at hRun
    exact hRun

theorem Strides.run_eq
    (hState : r.machine.state ≠ .halted)
    (hSuspended : r.machine.state ≠ .suspended)
    (hStrides : Strides n r r₀)
    (budget : Nat) :
    r.run (n + budget) = r₀.run budget := by
  rw [run_eq_walk hState hSuspended, hStrides.walk_add]
  rcases hStrides.state with ⟨-, rfl⟩ | hRunning
  · rw [run_eq_walk hState hSuspended]
  · rw [run_eq_walk (by simp [hRunning])
      (by simp [hRunning])]

/-
  The run of a machine that has not halted comes to what its
  steps come to, up to the first one that stops it or
  raises. It does not end if there is no such step. Steps
  that go on may be taken before a run. The log alone can
  tell the difference, and only if the machine was
  suspended.
-/
theorem run_eq_steps
    (hState : r.machine.state ≠ .halted) :
    (∀ budget,
      Option.Rel (Alike Matches)
        (r.run budget) (r.walk budget)) ∧
    ((∀ budget, r.run budget = none) ↔
      ∀ n, ∃ r', Strides n r r') ∧
    (∀ n r₀,
      Strides n r r₀ →
      ∀ budget,
        Option.Rel (Alike Matches)
          (r.run (n + budget)) (r₀.run budget)) ∧
    (r.machine.state ≠ .suspended →
      (∀ budget, r.run budget = r.walk budget) ∧
      ∀ n r₀,
        Strides n r r₀ →
        ∀ budget, r.run (n + budget) = r₀.run budget) := by
  refine ⟨run_matches_walk hState, ?_, ?_, ?_⟩
  · have hEnds (budget : Nat) :
        r.run budget = none ↔ ∃ r', Strides budget r r' := by
      rw [← walk_eq_none_iff hState]
      rcases rel_cases (run_matches_walk hState budget) with
        ⟨hRun, hWalk⟩ | ⟨o, r₁, r₂, hRun, hWalk, -⟩
      · exact iff_of_true hRun hWalk
      · simp [hRun, hWalk]
    exact forall_congr' hEnds
  · exact fun n r₀ hStrides => hStrides.run_matches hState
  · intro hSuspended
    exact
      ⟨run_eq_walk hState hSuspended,
        fun n r₀ hStrides =>
          hStrides.run_eq hState hSuspended⟩

/- An addition is stepped after a suspension. -/
theorem addition_run_eq_steps :
    ∃ r r₀,
      r =
        (loaded ⟨[1101, 1, 1, 0, 99]⟩ .onConsole false
          (.fresh [])).enter .suspended ∧
      r.machine.state ≠ .halted ∧
      Strides 1 r r₀ ∧
      (∀ budget,
        Option.Rel (Alike Matches)
          (r.run budget) (r.walk budget)) ∧
      ∀ budget,
        Option.Rel (Alike Matches)
          (r.run (1 + budget)) (r₀.run budget) := by
  have hStrides :
      ∃ r₀,
        Strides 1
          ((loaded ⟨[1101, 1, 1, 0, 99]⟩ .onConsole false
            (.fresh [])).enter .suspended) r₀ :=
    ⟨_, Strides.next rfl (.advance 4) (.here _)⟩
  rcases hStrides with ⟨r₀, hStrides⟩
  have hState :
      ((loaded ⟨[1101, 1, 1, 0, 99]⟩ .onConsole false
        (.fresh [])).enter .suspended).machine.state ≠
          .halted :=
    RunState.noConfusion
  rcases run_eq_steps hState with ⟨hWalk, -, hAfter, -⟩
  exact
    ⟨_, r₀, rfl, hState, hStrides, hWalk,
      hAfter 1 r₀ hStrides⟩

end Rig

end IntcodeMachine
