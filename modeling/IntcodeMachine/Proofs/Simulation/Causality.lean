import IntcodeMachine.Proofs.Execution.Outputs
import IntcodeMachine.Proofs.Semantics.Resumption
import IntcodeMachine.Proofs.Simulation.Scripted

/-
  This file proves that a program cannot look ahead in its
  script: what it does depends on the inputs that it has
  taken, and on no others.

  A program is run on a script, and on the same script with
  more inputs behind it. If the first run halts or raises,
  the second one does the same, unless the script has run
  out. From where it has run out, the second run goes on
  with the other inputs, and whatever it puts out comes
  behind what the first run put out.

  Main declarations:
    * `Rig.Mirrors`
    * `Rig.SuppliedBy`
    * `Rig.Shows.suppliedBy`
    * `Rig.longer_halts`
    * `Rig.longer_raises`
    * `Rig.longer_goes_on`
    * `Rig.finishes_of_longer`
    * `Rig.input_causal`
-/

------------------------------------------------------------
-- Rigs On Longer Scripts
------------------------------------------------------------

namespace IntcodeMachine

open Semantics

namespace Rig

/- Tape, counter and what is collected are the same. -/
structure Mirrors
    (collector : Nat)
    (r₁ r₂ : Rig) : Prop where
  tape : r₂.machine.tape = r₁.machine.tape
  pointer : r₂.machine.pointer = r₁.machine.pointer
  outputs :
    r₂.host.collected collector = r₁.host.collected collector

/-
  The second rig is as far as the first one, and has more
  inputs left in its script.
-/
structure SuppliedBy
    (slot collector : Nat)
    (more : List Int)
    (r₁ r₂ : Rig) : Prop where
  mirrors : Mirrors collector r₁ r₂
  steps : r₂.machine.steps = r₁.machine.steps
  consumed :
    (r₂.host.script slot).consumed =
      (r₁.host.script slot).consumed
  remaining :
    (r₂.host.script slot).remaining =
      (r₁.host.script slot).remaining ++ more

variable {slot collector : Nat} {more : List Int}
variable {r₁ r₂ : Rig} {c : Config}

theorem Displays.collected
    {r : Rig}
    (hDisplays : r.Displays collector c) :
    r.host.collected collector = c.outputs := by
  rw [Host.collected, List.getD_eq_getElem?_getD,
    hDisplays.outputs, Option.getD_some]

/- A script holds what the configuration says. -/
theorem Shows.script
    {r : Rig}
    (hShows : r.Shows (.script slot) collector c) :
    r.host.script slot = ⟨c.inputs, c.taken⟩ := by
  rw [Host.script, List.getD_eq_getElem?_getD,
    show r.host.scripts[slot]? = some ⟨c.inputs, c.taken⟩
      from hShows.inputs,
    Option.getD_some]

/- Outputs and memory do not depend on inputs that are left. -/
theorem Displays.mirrors
    (hFirst : r₁.Displays collector c)
    (hSecond : r₂.Displays collector (c.supply more)) :
    Mirrors collector r₁ r₂ where
  tape := hSecond.tape.trans hFirst.tape.symm
  pointer := hSecond.pointer.trans hFirst.pointer.symm
  outputs := hSecond.collected.trans hFirst.collected.symm

theorem Shows.suppliedBy
    (hFirst : r₁.Shows (.script slot) collector c)
    (hSecond :
      r₂.Shows (.script slot) collector (c.supply more))
    (hSteps : r₂.machine.steps = r₁.machine.steps) :
    SuppliedBy slot collector more r₁ r₂ where
  mirrors := hFirst.displays.mirrors hSecond.displays
  steps := hSteps
  consumed := by
    rw [hSecond.script, hFirst.script]
    rfl
  remaining := by
    rw [hSecond.script, hFirst.script]
    rfl

------------------------------------------------------------
-- Runs On Longer Scripts
------------------------------------------------------------

section

variable (h : Host) (program given : List Int)
variable (more : List Int)

/- A run that halts does the same on a longer script. -/
theorem longer_halts
    (hFinishes :
      (scripted h program given).Finishes (.ok ()) r₁) :
    ∃ r₂,
      (scripted h program (given ++ more)).Finishes
        (.ok ()) r₂ ∧
      r₁.machine.state = .halted ∧
      r₂.machine.state = .halted ∧
      SuppliedBy h.scripts.length h.collectors.length more
        r₁ r₂ := by
  have hShows := shows_scripted h program given
  have hLonger := shows_scripted h program (given ++ more)
  have hState := scripted_not_halted h program given
  have hOther := scripted_not_halted h program (given ++ more)
  rcases hShows.finishes_cases hState hFinishes with
    ⟨n, c, hSteps, -, ⟨hHalts, -⟩ | ⟨f, -, hError⟩⟩
  · rcases hShows.finishes_of_halts hState hSteps hHalts with
      ⟨r, hFirst, hShown, hHalted, hCount⟩
    rcases hFinishes.unique hFirst with ⟨-, rfl⟩
    rcases hLonger.finishes_of_halts hOther
        (hSteps.supply more)
        ((Config.halts_supply_iff c more).mpr hHalts) with
      ⟨r₂, hSecond, hShown₂, hHalted₂, hCount₂⟩
    exact
      ⟨r₂, hSecond, hHalted, hHalted₂,
        hShown.suppliedBy hShown₂ (hCount₂.trans hCount.symm)⟩
  · simp at hError

/- A run that raises does, too, unless its script ran out. -/
theorem longer_raises
    {e : Failure}
    (hFinishes :
      (scripted h program given).Finishes (.error e) r₁)
    (hOther : ∀ n, e ≠ .fault (.inputExhausted n)) :
    ∃ r₂,
      (scripted h program (given ++ more)).Finishes
        (.error e) r₂ ∧
      Mirrors h.collectors.length r₁ r₂ := by
  rcases scripted_raises h program given hFinishes with
    ⟨n, c, f, hSteps, hFault, rfl, hDisplays⟩
  have hFed : ¬ f.Starves := by
    intro hStarves
    rcases hStarves.raised with ⟨m, hRaised⟩
    exact hOther m hRaised
  rcases scripted_raises_of_steps h program (given ++ more)
      (hSteps.supply more)
      (Config.firstFault_supply hFault hFed more) with
    ⟨r₂, hSecond, hDisplays₂⟩
  exact ⟨r₂, hSecond, hDisplays.mirrors hDisplays₂⟩

/-
  A run whose script ran out has executed nothing after the
  last instruction that went through.
-/
theorem exhausted_parts
    {consumed : Nat}
    (hFinishes :
      (scripted h program given).Finishes
        (.error (.fault (.inputExhausted consumed))) r₁) :
    ∃ n c,
      Config.Steps n (.initial program given) c ∧
        c.Starving ∧
        r₁.Shows (.script h.scripts.length)
          h.collectors.length c ∧
        r₁.machine.steps = n := by
  have hState := scripted_not_halted h program given
  rcases scripted_raises h program given hFinishes with
    ⟨n, c, f, hSteps, hFault, hRaised, -⟩
  have hStarving : c.Starving :=
    (Config.starving_iff c).mpr
      ⟨f, hFault, Fault.starves_of_raised hRaised.symm⟩
  rcases (shows_scripted h program given).entered_reaches
      hSteps with
    ⟨r, hReaches, hShows, hCount⟩
  have hLast : (scripted h program given).Finishes
      (.error (Fault.inputExhausted c.taken).raised) r :=
    (finishes_iff_reaches hState).mpr
      ⟨n, r, hReaches,
        hShows.dispatch_of_exhausted hStarving.decodes
          hStarving.empty⟩
  rcases hFinishes.unique hLast with ⟨-, rfl⟩
  exact
    ⟨n, c, hSteps, hStarving, hShows,
      hCount.trans (Nat.zero_add n)⟩

/-
  Where a script runs out, a longer one goes on, and nothing
  that was put out is taken back.
-/
theorem longer_goes_on
    {consumed : Nat}
    (hFinishes :
      (scripted h program given).Finishes
        (.error (.fault (.inputExhausted consumed))) r₁) :
    ∃ r₀,
      Reaches r₁.machine.steps
        (scripted h program (given ++ more)).entered r₀ ∧
      SuppliedBy h.scripts.length h.collectors.length more
        r₁ r₀ ∧
      (r₀.host.script h.scripts.length).remaining = more ∧
      (∀ n r',
        Reaches n r₀ r' →
        r₁.host.collected h.collectors.length <+:
          r'.host.collected h.collectors.length) ∧
      ∀ o r',
        (scripted h program (given ++ more)).Finishes o r' →
        r₁.host.collected h.collectors.length <+:
          r'.host.collected h.collectors.length := by
  have hOther := scripted_not_halted h program (given ++ more)
  rcases exhausted_parts h program given hFinishes with
    ⟨n, c, hSteps, hStarving, hShows, hCount⟩
  rcases (shows_scripted h program
      (given ++ more)).entered_reaches (hSteps.supply more)
    with ⟨r₀, hReaches, hLonger, hCount₀⟩
  have hSame : r₀.machine.steps = r₁.machine.steps :=
    (hCount₀.trans (Nat.zero_add n)).trans hCount.symm
  have hSupplied := hShows.suppliedBy hLonger hSame
  have hOutputs := hSupplied.mirrors.outputs
  have hRunning : r₀.machine.state ≠ .halted := by
    rw [hReaches.state, entered_machine]
    exact RunState.noConfusion
  refine ⟨r₀, hCount ▸ hReaches, hSupplied, ?_, ?_, ?_⟩
  · rw [hSupplied.remaining, hShows.script, hStarving.empty,
      List.nil_append]
  · intro n r' hLater
    rw [← hOutputs]
    exact collected_prefix_of_reaches hLater
  · intro o r' hEnd
    rw [← hOutputs]
    exact
      collected_prefix_of_finishes hRunning
        (hEnd.after hOther hReaches)

/- A run ends if it ends on a longer script. -/
theorem finishes_of_longer
    {o : Except Failure Unit}
    (hFinishes :
      (scripted h program (given ++ more)).Finishes o r₂) :
    ∃ o r₁, (scripted h program given).Finishes o r₁ := by
  have hShows := shows_scripted h program given
  have hState := scripted_not_halted h program given
  have hFaulty
      {n : Nat}
      {d : Config}
      (hSteps : Config.Steps n (.initial program given) d)
      (hFault : ∃ f, d.firstFault = some f) :
      ∃ o r₁, (scripted h program given).Finishes o r₁ := by
    rcases hFault with ⟨f, hFault⟩
    rcases scripted_raises_of_steps h program given hSteps
        hFault with
      ⟨r₁, hFirst, -⟩
    exact ⟨_, r₁, hFirst⟩
  rcases (shows_scripted h program
      (given ++ more)).finishes_cases
      (scripted_not_halted h program _) hFinishes with
    ⟨n, c, hSteps, -, hEnds⟩
  have hSupplied :
      Config.Steps n
        ((Config.initial program given).supply more) c :=
    hSteps
  rcases hSupplied.split_supply with
    ⟨d, hShorter, rfl⟩ | ⟨i, j, d, -, hShorter, hStarving, -⟩
  · rcases hEnds with ⟨hHalts, -⟩ | ⟨f, hFault, -⟩
    · rcases hShows.finishes_of_halts hState hShorter
          ((Config.halts_supply_iff d more).mp hHalts) with
        ⟨r₁, hFirst, -⟩
      exact ⟨_, r₁, hFirst⟩
    · refine hFaulty hShorter ?_
      rcases Config.fault_of_supply hFault with
        hStarving | ⟨-, hBefore⟩
      · rcases (Config.starving_iff d).mp hStarving with
          ⟨g, hBefore, -⟩
        exact ⟨g, hBefore⟩
      · exact ⟨f, hBefore⟩
  · rcases (Config.starving_iff d).mp hStarving with
      ⟨g, hBefore, -⟩
    exact hFaulty hShorter ⟨g, hBefore⟩

end

------------------------------------------------------------
-- Causality
------------------------------------------------------------

/-
  What a run does on a script does not depend on inputs that
  it has not taken. It halts on a longer script as it does
  on the script itself, and raises as it does, unless the
  script has run out. A longer script then takes it on from
  there, and all that it puts out comes behind what was put
  out by then. It does not end on a longer script if it does
  not end on the script.
-/
theorem input_causal
    (h : Host)
    (program given more : List Int) :
    (∀ r₁,
      (scripted h program given).Finishes (.ok ()) r₁ →
      ∃ r₂,
        (scripted h program (given ++ more)).Finishes
          (.ok ()) r₂ ∧
        r₁.machine.state = .halted ∧
        r₂.machine.state = .halted ∧
        SuppliedBy h.scripts.length h.collectors.length more
          r₁ r₂) ∧
    (∀ e r₁,
      (scripted h program given).Finishes (.error e) r₁ →
      (∀ n, e ≠ .fault (.inputExhausted n)) →
      ∃ r₂,
        (scripted h program (given ++ more)).Finishes
          (.error e) r₂ ∧
        Mirrors h.collectors.length r₁ r₂) ∧
    (∀ consumed r₁,
      (scripted h program given).Finishes
        (.error (.fault (.inputExhausted consumed))) r₁ →
      ∃ r₀,
        Reaches r₁.machine.steps
          (scripted h program (given ++ more)).entered r₀ ∧
        SuppliedBy h.scripts.length h.collectors.length more
          r₁ r₀ ∧
        (r₀.host.script h.scripts.length).remaining = more ∧
        (∀ n r',
          Reaches n r₀ r' →
          r₁.host.collected h.collectors.length <+:
            r'.host.collected h.collectors.length) ∧
        ∀ o r',
          (scripted h program (given ++ more)).Finishes o r' →
          r₁.host.collected h.collectors.length <+:
            r'.host.collected h.collectors.length) ∧
    ((∀ o r₁, ¬ (scripted h program given).Finishes o r₁) →
      ∀ o r₂,
        ¬ (scripted h program (given ++ more)).Finishes
          o r₂) := by
  refine ⟨?_, ?_, ?_, ?_⟩
  · exact fun r₁ hFirst =>
      longer_halts h program given more hFirst
  · exact fun e r₁ hFirst hOther =>
      longer_raises h program given more hFirst hOther
  · exact fun consumed r₁ hFirst =>
      longer_goes_on h program given more hFirst
  · intro hEndless o r₂ hSecond
    rcases finishes_of_longer h program given more hSecond
      with ⟨o₁, r₁, hFirst⟩
    exact hEndless o₁ r₁ hFirst

/- One of two inputs is echoed before the script runs out. -/
theorem echo_input_causal :
    ∃ r₁ r₀,
      (scripted (.fresh []) [3, 0, 4, 0, 3, 0, 99]
          [7]).Finishes
        (.error (.fault (.inputExhausted 1))) r₁ ∧
      r₁.host.collected 0 = [7] ∧
      Reaches 2
        (scripted (.fresh []) [3, 0, 4, 0, 3, 0, 99]
          [7, 8]).entered r₀ ∧
      (r₀.host.script 0).remaining = [8] ∧
      ∀ o r',
        (scripted (.fresh []) [3, 0, 4, 0, 3, 0, 99]
            [7, 8]).Finishes o r' →
        [7] <+: r'.host.collected 0 := by
  have hFinishes :
      ∃ r₁,
        (scripted (.fresh []) [3, 0, 4, 0, 3, 0, 99]
            [7]).Finishes
          (.error (.fault (.inputExhausted 1))) r₁ ∧
        r₁.host.collected 0 = [7] ∧
        r₁.machine.steps = 2 :=
    ⟨_, ⟨3, rfl⟩, rfl, rfl⟩
  rcases hFinishes with ⟨r₁, hFinishes, hOutputs, hSteps⟩
  rcases (input_causal (.fresh []) [3, 0, 4, 0, 3, 0, 99] [7]
      [8]).2.2.1 1 r₁ hFinishes with
    ⟨r₀, hReaches, -, hRemaining, -, hPrefix⟩
  rw [hSteps] at hReaches
  refine
    ⟨r₁, r₀, hFinishes, hOutputs, hReaches, hRemaining, ?_⟩
  intro o r' hSecond
  rw [← hOutputs]
  exact hPrefix o r' hSecond

end Rig

end IntcodeMachine
