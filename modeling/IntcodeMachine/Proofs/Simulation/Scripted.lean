import IntcodeMachine.Proofs.Simulation.Runs

/-
  This file shows that the machine agrees with the language
  on every program and all inputs.

  The machine has the standard operations on a script and a
  collector, and is at the start of a program. Its run halts
  where the steps of the language lead to a halt, and raises
  where they lead to a configuration that is stuck. What it
  raises is the first fault, if the fault can be put into
  words; if not, it is that an integer has too many digits.

  Main declarations:
    * `Rig.scripted`
    * `Rig.shows_scripted`
    * `Rig.HaltsAs`
    * `Rig.scripted_halts`
    * `Rig.scripted_raises`
    * `Rig.scripted_agrees`
-/

------------------------------------------------------------
-- Scripts That Have Run Out
------------------------------------------------------------

namespace IntcodeMachine

open Semantics

/- The fault is raised as it is if a script has run out. -/
theorem Fault.Starves.raised
    {f : Fault}
    (hStarves : f.Starves) :
    ∃ n, f.raised = .fault (.inputExhausted n) := by
  cases f with
  | inputExhausted n =>
      have hWritable : (Fault.inputExhausted n).Writable := by
        intro m hm
        simp [shown] at hm
      exact ⟨n, if_pos hWritable⟩
  | _ => exact absurd hStarves id

/- Nothing else is raised as a script that has run out. -/
theorem Fault.starves_of_raised
    {f : Fault}
    {n : Nat}
    (hRaised :
      f.raised = .fault (.inputExhausted n)) :
    f.Starves := by
  rcases (f.eq_raised_iff _).mp hRaised.symm with
    ⟨-, hSame⟩ | ⟨-, hOther⟩
  · rw [← Failure.fault.inj hSame]
    trivial
  · simp at hOther

------------------------------------------------------------
-- Machines On A Script
------------------------------------------------------------

namespace Rig

/-
  A machine at the start of a program, on a script of the
  inputs and an empty collector that are new in the host.
-/
def scripted
    (h : Host)
    (program inputs : List Int) : Rig where
  machine :=
    .fresh ⟨program⟩
      (.standard (.script h.scripts.length)
        (.collector h.collectors.length))
  host := (h.addScript (.fresh inputs)).2.addCollector.2

variable (h : Host) (program inputs : List Int)

theorem scripted_not_halted :
    (scripted h program inputs).machine.state ≠ .halted := by
  simp [scripted, Machine.fresh]

theorem shows_scripted :
    (scripted h program inputs).Shows
      (.script h.scripts.length) h.collectors.length
      (Config.initial program inputs) where
  table := Supplier.serves_standard _ _
  tracing := rfl
  tape := rfl
  pointer := rfl
  inputs := by
    simp [Supplier.Holds, scripted, Host.addScript,
      Host.addCollector, Script.fresh, Config.initial]
  outputs := by
    simp [scripted, Host.addScript, Host.addCollector,
      Config.initial]

------------------------------------------------------------
-- Agreement
------------------------------------------------------------

/-
  The machine has halted in the configuration, after so many
  instructions.
-/
structure HaltsAs
    (h : Host)
    (n : Nat)
    (c : Config)
    (r : Rig) : Prop where
  state : r.machine.state = .halted
  tape : r.machine.tape = ⟨c.memory⟩
  pointer : r.machine.pointer = c.pc
  outputs :
    r.host.collectors[h.collectors.length]? = some c.outputs
  inputs :
    r.host.scripts[h.scripts.length]? =
      some ⟨c.inputs, c.taken⟩
  steps : r.machine.steps = n

/- A rig has halted in one way only. -/
theorem HaltsAs.unique
    {h : Host}
    {r : Rig}
    {n₁ n₂ : Nat}
    {c₁ c₂ : Config}
    (hFirst : r.HaltsAs h n₁ c₁)
    (hSecond : r.HaltsAs h n₂ c₂) :
    n₁ = n₂ ∧ c₁ = c₂ := by
  have hTape := hFirst.tape.symm.trans hSecond.tape
  have hPointer := hFirst.pointer.symm.trans hSecond.pointer
  have hOutputs := hFirst.outputs.symm.trans hSecond.outputs
  have hInputs := hFirst.inputs.symm.trans hSecond.inputs
  have hSteps := hFirst.steps.symm.trans hSecond.steps
  simp only [Tape.mk.injEq] at hTape
  simp only [Int.natCast_inj] at hPointer
  simp only [Option.some.injEq] at hOutputs
  simp only [Option.some.injEq, Script.mk.injEq] at hInputs
  refine ⟨hSteps, ?_⟩
  cases c₁
  cases c₂
  simp_all

/- Where the rules halt, a run halts as they do. -/
theorem scripted_halts_of_steps
    {n : Nat}
    {c : Config}
    (hSteps : Config.Steps n (.initial program inputs) c)
    (hHalts : c.Halts) :
    ∃ r',
      (scripted h program inputs).Finishes (.ok ()) r' ∧
        r'.HaltsAs h (n + 1) c := by
  have hShows := shows_scripted h program inputs
  rcases hShows.finishes_of_halts
      (scripted_not_halted h program inputs) hSteps hHalts with
    ⟨r', hFinishes, hShows', hHalted, hCount⟩
  refine
    ⟨r', hFinishes, hHalted, hShows'.tape, hShows'.pointer,
      hShows'.outputs, hShows'.inputs, ?_⟩
  rw [hCount]
  simp [scripted, Machine.fresh]

/- A run that does not raise halts as the rules do. -/
theorem scripted_halts
    {r' : Rig}
    (hFinishes :
      (scripted h program inputs).Finishes (.ok ()) r') :
    ∃ n c, Config.Steps n (.initial program inputs) c ∧
      c.Halts ∧ r'.HaltsAs h (n + 1) c := by
  have hShows := shows_scripted h program inputs
  rcases hShows.finishes_cases
      (scripted_not_halted h program inputs) hFinishes with
    ⟨n, c, hSteps, -, ⟨hHalts, -⟩ | ⟨f, -, hRaised⟩⟩
  · rcases scripted_halts_of_steps h program inputs hSteps
        hHalts with
      ⟨r₁, hFinishes₁, hAs⟩
    rw [← (hFinishes.unique hFinishes₁).2] at hAs
    exact ⟨n, c, hSteps, hHalts, hAs⟩
  · simp at hRaised

/- Where the rules lead to a fault, a run raises it. -/
theorem scripted_raises_of_steps
    {n : Nat}
    {c : Config}
    {f : Fault}
    (hSteps : Config.Steps n (.initial program inputs) c)
    (hFault : c.firstFault = some f) :
    ∃ r',
      (scripted h program inputs).Finishes
          (.error f.raised) r' ∧
        r'.Displays h.collectors.length c :=
  (shows_scripted h program inputs).finishes_of_fault
    (scripted_not_halted h program inputs) hSteps hFault
    (fun _ => ⟨_, rfl⟩)

/- What a run raises is a fault that the rules lead to. -/
theorem scripted_raises
    {r' : Rig}
    {e : Failure}
    (hFinishes :
      (scripted h program inputs).Finishes (.error e) r') :
    ∃ n c f, Config.Steps n (.initial program inputs) c ∧
      c.firstFault = some f ∧ e = f.raised ∧
      r'.Displays h.collectors.length c := by
  have hShows := shows_scripted h program inputs
  rcases hShows.finishes_cases
      (scripted_not_halted h program inputs) hFinishes with
    ⟨n, c, hSteps, hDisplays,
      ⟨-, hOk⟩ | ⟨f, hFault, hRaised⟩⟩
  · simp at hOk
  · exact
      ⟨n, c, f, hSteps, hFault, Except.error.inj hRaised,
        hDisplays⟩

/- A run halts in a configuration if and only if the rules do. -/
theorem scripted_haltsAs_iff
    (n : Nat)
    (c : Config) :
    (∃ r',
      (scripted h program inputs).Finishes (.ok ()) r' ∧
        r'.HaltsAs h (n + 1) c) ↔
      Config.Steps n (.initial program inputs) c ∧
        c.Halts := by
  constructor
  · intro hRun
    rcases hRun with ⟨r', hFinishes, hAs⟩
    rcases scripted_halts h program inputs hFinishes with
      ⟨n', c', hSteps, hHalts, hAs'⟩
    rcases hAs'.unique hAs with ⟨hCount, rfl⟩
    rw [← Nat.succ.inj hCount]
    exact ⟨hSteps, hHalts⟩
  · intro hParts
    exact
      scripted_halts_of_steps h program inputs hParts.1
        hParts.2

/- A run raises what the rules lead to and nothing else. -/
theorem scripted_raises_iff
    (e : Failure) :
    (∃ r',
      (scripted h program inputs).Finishes (.error e) r') ↔
      ∃ n c f,
        Config.Steps n (.initial program inputs) c ∧
          c.firstFault = some f ∧ e = f.raised := by
  constructor
  · intro hRun
    rcases hRun with ⟨r', hFinishes⟩
    rcases scripted_raises h program inputs hFinishes with
      ⟨n, c, f, hSteps, hFault, hRaised, -⟩
    exact ⟨n, c, f, hSteps, hFault, hRaised⟩
  · intro hParts
    rcases hParts with ⟨n, c, f, hSteps, hFault, rfl⟩
    rcases scripted_raises_of_steps h program inputs hSteps
        hFault with
      ⟨r', hFinishes, -⟩
    exact ⟨r', hFinishes⟩

/-
  A run halts exactly where the rules lead to a halt, and as
  they say. It raises exactly where they lead to a stuck
  configuration: the fault of its first check that fails, or
  that the fault cannot be written.
-/
theorem scripted_agrees :
    ((∃ r', (scripted h program inputs).Finishes (.ok ()) r') ↔
      ∃ n c,
        Config.Steps n (.initial program inputs) c ∧
          c.Halts) ∧
    (∀ n c,
      (∃ r',
        (scripted h program inputs).Finishes (.ok ()) r' ∧
          r'.HaltsAs h (n + 1) c) ↔
        Config.Steps n (.initial program inputs) c ∧
          c.Halts) ∧
    ((∃ e r',
        (scripted h program inputs).Finishes (.error e) r') ↔
      ∃ n c,
        Config.Steps n (.initial program inputs) c ∧
          c.Stuck) ∧
    (∀ e,
      (∃ r',
        (scripted h program inputs).Finishes (.error e) r') ↔
        ∃ n c f,
          Config.Steps n (.initial program inputs) c ∧
            c.Stuck ∧ c.firstFault = some f ∧
            ((f.Writable ∧ e = .fault f) ∨
              (¬ f.Writable ∧ e = .unwritable))) := by
  have hHaltsAs := scripted_haltsAs_iff h program inputs
  have hRaises := scripted_raises_iff h program inputs
  refine ⟨⟨?_, ?_⟩, hHaltsAs, ⟨?_, ?_⟩, ?_⟩
  · intro hRun
    rcases hRun with ⟨r', hFinishes⟩
    rcases scripted_halts h program inputs hFinishes with
      ⟨n, c, hSteps, hHalts, -⟩
    exact ⟨n, c, hSteps, hHalts⟩
  · intro hParts
    rcases hParts with ⟨n, c, hSteps, hHalts⟩
    rcases (hHaltsAs n c).mpr ⟨hSteps, hHalts⟩ with
      ⟨r', hFinishes, -⟩
    exact ⟨r', hFinishes⟩
  · intro hRun
    rcases hRun with ⟨e, hRun⟩
    rcases (hRaises e).mp hRun with
      ⟨n, c, f, hSteps, hFault, -⟩
    exact
      ⟨n, c, hSteps, (Config.stuck_iff c).mpr ⟨f, hFault⟩⟩
  · intro hParts
    rcases hParts with ⟨n, c, hSteps, hStuck⟩
    rcases (Config.stuck_iff c).mp hStuck with ⟨f, hFault⟩
    exact
      ⟨f.raised,
        (hRaises f.raised).mpr
          ⟨n, c, f, hSteps, hFault, rfl⟩⟩
  · intro e
    rw [hRaises e]
    constructor
    · intro hParts
      rcases hParts with ⟨n, c, f, hSteps, hFault, hRaised⟩
      exact
        ⟨n, c, f, hSteps,
          (Config.stuck_iff c).mpr ⟨f, hFault⟩, hFault,
          (f.eq_raised_iff e).mp hRaised⟩
    · intro hParts
      rcases hParts with
        ⟨n, c, f, hSteps, -, hFault, hRaised⟩
      exact
        ⟨n, c, f, hSteps, hFault,
          (f.eq_raised_iff e).mpr hRaised⟩

end Rig

end IntcodeMachine
