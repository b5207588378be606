import IntcodeMachine.Proofs.Execution.Runs
import IntcodeMachine.Proofs.Simulation.Dispatch

/-
  This file shows that a run of the machine follows the
  steps of the language to their end.

  By induction on the steps, a rig that shows a
  configuration reaches one that shows where they lead, and
  every rig that is reached is shown by steps in turn. The
  run then ends as the last configuration says.

  Main declarations:
    * `Rig.Shows.reaches`
    * `Rig.Shows.finishes_of_halts`
    * `Rig.Shows.finishes_of_fault`
    * `Rig.Shows.finishes_of_starving`
    * `Rig.Shows.finishes_cases`
-/

------------------------------------------------------------
-- Steps And Instructions
------------------------------------------------------------

namespace IntcodeMachine

open Semantics

namespace Rig

namespace Shows

variable {s : Supplier} {collector : Nat}
variable {r : Rig} {c : Config}

/- Steps are followed by as many instructions. -/
theorem reaches
    {n : Nat}
    {c' : Config}
    (hSteps : Config.Steps n c c')
    (hShows : r.Shows s collector c)
    (hState : r.machine.state = .running) :
    ∃ r', Reaches n r r' ∧ r'.Shows s collector c' ∧
      r'.machine.state = .running ∧
      r'.machine.steps = r.machine.steps + n := by
  induction hSteps generalizing r with
  | here c => exact ⟨r, Reaches.here r, hShows, hState, rfl⟩
  | next hStep hRest ih =>
      rcases hStep.ready with ⟨op, hReady, hGoes, rfl⟩
      rcases hShows.moves hReady hGoes with ⟨r₁, hMoves⟩
      rcases hMoves.dispatch with ⟨x, hDispatch⟩
      have hRunning : r₁.machine.state = .running :=
        hMoves.state.trans hState
      rcases ih hMoves.shows hRunning with
        ⟨r', hReaches, hShows', hState', hCount⟩
      refine ⟨r', ?_, hShows', hState', ?_⟩
      · refine Reaches.next hDispatch ?_ hReaches
        rw [hRunning]
        rfl
      · rw [hCount, hMoves.steps]
        omega

/- Entering a run changes nothing that is shown. -/
theorem entered
    (hShows : r.Shows s collector c) :
    r.entered.Shows s collector c := by
  unfold Rig.entered resumed
  split
  · exact
      ⟨hShows.table, hShows.tracing, hShows.tape,
        hShows.pointer, hShows.inputs, hShows.outputs⟩
  · exact
      ⟨hShows.table, hShows.tracing, hShows.tape,
        hShows.pointer, hShows.inputs, hShows.outputs⟩

/- A run follows steps up to their last configuration. -/
theorem entered_reaches
    {n : Nat}
    {c' : Config}
    (hShows : r.Shows s collector c)
    (hSteps : Config.Steps n c c') :
    ∃ r', Reaches n r.entered r' ∧
      r'.Shows s collector c' ∧
      r'.machine.steps = r.machine.steps + n := by
  have hRunning : r.entered.machine.state = .running := by
    rw [r.entered_machine]
  rcases hShows.entered.reaches hSteps hRunning with
    ⟨r', hReaches, hShows', -, hCount⟩
  rw [r.entered_machine] at hCount
  exact ⟨r', hReaches, hShows', hCount⟩

------------------------------------------------------------
-- Ends Of Runs
------------------------------------------------------------

variable {n : Nat} {c' : Config}

/- A run halts where the steps lead to a halt. -/
theorem finishes_of_halts
    (hShows : r.Shows s collector c)
    (hState : r.machine.state ≠ .halted)
    (hSteps : Config.Steps n c c')
    (hHalts : c'.Halts) :
    ∃ r', r.Finishes (.ok ()) r' ∧
      r'.Shows s collector c' ∧
      r'.machine.state = .halted ∧
      r'.machine.steps = r.machine.steps + n + 1 := by
  rcases hShows.entered_reaches hSteps with
    ⟨r₀, hReaches, hShows₀, hCount⟩
  rcases hShows₀.dispatch_of_halts hHalts with
    ⟨r', hDispatch, hShows', hHalted, hOne⟩
  refine ⟨r', ?_, hShows', hHalted, ?_⟩
  · refine
      (finishes_iff_reaches hState).mpr
        ⟨n, r₀, hReaches, _, hDispatch, ?_⟩
    rw [hHalted]
    rfl
  · rw [hOne, hCount]

/- A run raises the first fault that the steps lead to. -/
theorem finishes_of_fault
    (hShows : r.Shows s collector c)
    (hState : r.machine.state ≠ .halted)
    (hSteps : Config.Steps n c c')
    {f : Fault}
    (hFault : c'.firstFault = some f)
    (hSupplied : f.Starves → ∃ slot, s = .script slot) :
    ∃ r', r.Finishes (.error f.raised) r' ∧
      r'.Displays collector c' := by
  rcases hShows.entered_reaches hSteps with
    ⟨r₀, hReaches, hShows₀, -⟩
  rcases hShows₀.dispatch_of_fault hFault hSupplied with
    ⟨r', hDispatch, hDisplays⟩
  exact
    ⟨r',
      (finishes_iff_reaches hState).mpr
        ⟨n, r₀, hReaches, hDispatch⟩,
      hDisplays⟩

/- With a queue, a run is suspended where it starves. -/
theorem finishes_of_starving
    {slot : Nat}
    (hShows : r.Shows (.queue slot) collector c)
    (hState : r.machine.state ≠ .halted)
    (hSteps : Config.Steps n c c')
    (hDecodes : c'.Decodes .input)
    (hEmpty : c'.inputs = [])
    (hWritable : Numeral.Writable c'.pc) :
    ∃ r', r.Finishes (.ok ()) r' ∧
      r'.Shows (.queue slot) collector c' ∧
      r'.machine.state = .suspended ∧
      r'.machine.steps = r.machine.steps + n + 1 := by
  rcases hShows.entered_reaches hSteps with
    ⟨r₀, hReaches, hShows₀, hCount⟩
  rcases hShows₀.dispatch_of_starving hDecodes hEmpty
      hWritable with
    ⟨r', hDispatch, hShows', hSuspended, hOne⟩
  refine ⟨r', ?_, hShows', hSuspended, ?_⟩
  · refine
      (finishes_iff_reaches hState).mpr
        ⟨n, r₀, hReaches, _, hDispatch, ?_⟩
    rw [hSuspended]
    rfl
  · rw [hOne, hCount]

------------------------------------------------------------
-- Instructions And Steps
------------------------------------------------------------

variable {slot : Nat}

/- With a script, what is reached is reached by steps. -/
theorem steps_of_reaches
    {r' : Rig}
    (hReaches : Reaches n r r')
    (hShows : r.Shows (.script slot) collector c) :
    ∃ c', Config.Steps n c c' ∧
      r'.Shows (.script slot) collector c' := by
  induction hReaches generalizing c with
  | here r => exact ⟨c, Config.Steps.here c, hShows⟩
  | next hDispatch hGoesOn hRest ih =>
      rcases c.fault_or_ready with ⟨f, hFault⟩ | ⟨op, hReady⟩
      · rcases hShows.dispatch_of_fault hFault
          (fun _ => ⟨slot, rfl⟩) with
          ⟨r₂, hFails, -⟩
        rw [hDispatch] at hFails
        simp at hFails
      · by_cases hHalt : op = .halt
        · subst hHalt
          rcases hShows.dispatch_of_halts
              ((Config.halts_iff c).mpr hReady) with
            ⟨r₂, hStops, -, hHalted, -⟩
          rw [hDispatch] at hStops
          rw [(Prod.mk.inj hStops).2, hHalted] at hGoesOn
          simp [RunState.isStopped] at hGoesOn
        · rcases hShows.moves hReady hHalt with
            ⟨r₂, hMoves⟩
          rcases hMoves.dispatch with ⟨x, hGoes⟩
          rw [hDispatch] at hGoes
          have hShows₁ := hMoves.shows
          rw [← (Prod.mk.inj hGoes).2] at hShows₁
          rcases ih hShows₁ with ⟨c', hSteps, hShows'⟩
          exact
            ⟨c',
              Config.Steps.next (hReady.step hHalt) hSteps,
              hShows'⟩

/- With a script, a run ends as the steps do. -/
theorem finishes_cases
    {r' : Rig}
    {o : Except Failure Unit}
    (hShows : r.Shows (.script slot) collector c)
    (hState : r.machine.state ≠ .halted)
    (hFinishes : r.Finishes o r') :
    ∃ n c', Config.Steps n c c' ∧
      r'.Displays collector c' ∧
      ((c'.Halts ∧ o = .ok ()) ∨
        ∃ f, c'.firstFault = some f ∧
          o = .error f.raised) := by
  rcases (finishes_iff_reaches hState).mp hFinishes with
    ⟨n, r₀, hReaches, hEnds⟩
  rcases steps_of_reaches hReaches hShows.entered with
    ⟨c', hSteps, hShows₀⟩
  refine ⟨n, c', hSteps, ?_⟩
  rcases c'.fault_or_ready with ⟨f, hFault⟩ | ⟨op, hReady⟩
  · rcases hShows.finishes_of_fault hState hSteps hFault
        (fun _ => ⟨slot, rfl⟩) with
      ⟨r₁, hRaises, hDisplays⟩
    rcases hFinishes.unique hRaises with ⟨rfl, rfl⟩
    exact ⟨hDisplays, Or.inr ⟨f, hFault, rfl⟩⟩
  · by_cases hHalt : op = .halt
    · subst hHalt
      have hHalts := (Config.halts_iff c').mpr hReady
      rcases hShows.finishes_of_halts hState hSteps hHalts
        with ⟨r₁, hStops, hShows₁, -⟩
      rcases hFinishes.unique hStops with ⟨rfl, rfl⟩
      exact ⟨hShows₁.displays, Or.inl ⟨hHalts, rfl⟩⟩
    · -- The instruction goes on, but the run has ended.
      rcases hShows₀.moves hReady hHalt with ⟨r₁, hMoves⟩
      rcases hMoves.dispatch with ⟨x, hDispatch⟩
      have hRunning : r₁.machine.state = .running := by
        rw [hMoves.state, hReaches.state, r.entered_machine]
      cases o with
      | error e =>
          rw [show r₀.dispatch = (.error e, r') from hEnds]
            at hDispatch
          simp at hDispatch
      | ok u =>
          rcases hEnds with ⟨y, hLast, hStopped⟩
          rw [hDispatch] at hLast
          rw [← (Prod.mk.inj hLast).2, hRunning] at hStopped
          simp [RunState.isStopped] at hStopped

end Shows

end Rig

end IntcodeMachine
