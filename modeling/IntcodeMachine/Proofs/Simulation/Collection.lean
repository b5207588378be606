import IntcodeMachine.Machine.Collect
import IntcodeMachine.Proofs.Simulation.Runs

/-
  This file shows that a program that is run with its
  outputs collected follows the language.

  A program that can be loaded is prepared as a machine that
  shows the configuration at its start: its inputs are a new
  script, and what it puts out goes to a new collector.
  Where the steps of the language lead from there to a halt,
  the run gives back the outputs of the last configuration.

  Main declarations:
    * `Program.load_integers`
    * `Collect.prepare_of_load`
    * `Collect.shows_prepared`
    * `Collect.run_of_steps`
-/

------------------------------------------------------------
-- Integers As Values
------------------------------------------------------------

namespace IntcodeMachine

open Semantics

theorem Tape.cellsOfValues_integers
    (index : Nat)
    (ns : List Int) :
    cellsOfValues index (ns.map .int) = .ok ns := by
  induction ns generalizing index with
  | nil => rfl
  | cons n rest ih =>
      rw [List.map_cons, cellsOfValues, ih]
      rfl

theorem Script.ofValues_integers
    (ns : List Int) :
    ofValues (ns.map .int) = .ok (.fresh ns) := by
  have hIntegers : integers (ns.map .int) = .ok ns := by
    induction ns with
    | nil => rfl
    | cons n rest ih =>
        rw [List.map_cons, integers, ih]
        rfl
  rw [ofValues, hIntegers]

/- A program of integers is loaded as it is. -/
theorem Program.load_integers
    (ns : List Int)
    (delimiter : String) :
    (Program.values (ns.map .int)).load delimiter =
      .ok ⟨ns⟩ := by
  rw [load, Tape.ofValues, Tape.cellsOfValues_integers]

------------------------------------------------------------
-- Prepared Machines
------------------------------------------------------------

namespace Collect

variable {p : Program} {memory inputs : List Int}

/- The table of a run on a script and a collector. -/
def installed (slot collector : Nat) : Table :=
  (Table.onConsole.set Table.inputOpcode
    (.input (.script slot) Operation.inputName)).set
      Table.outputOpcode
      (.output (.collector collector) Operation.outputName)

theorem serves_installed
    (slot collector : Nat) :
    (Supplier.script slot).Serves collector
      (installed slot collector) := by
  intro k
  fin_cases k <;> rfl

/- A program is prepared with a new script and collector. -/
theorem prepare_of_load
    (hLoad :
      p.load Tape.standardDelimiter = .ok ⟨memory⟩)
    (inputs : List Int)
    (h : Host) :
    ∃ h₀,
      prepare p (some (inputs.map .int)) .onConsole h =
          (.ok
            ⟨.fresh ⟨memory⟩
                (installed h.scripts.length
                  h.collectors.length),
              h.collectors.length⟩,
            h₀) ∧
        h₀.scripts = h.scripts ++ [.fresh inputs] ∧
        h₀.collectors = h.collectors ++ [[]] := by
  simp only [prepare, Host.addCollector, withInputs,
    Script.ofValues_integers, Host.addScript, install,
    Machine.load, hLoad]
  exact ⟨_, rfl, rfl, rfl⟩

/- It is at its start, with all inputs left. -/
theorem shows_prepared
    (memory inputs : List Int)
    {h h₀ : Host}
    (hScripts : h₀.scripts = h.scripts ++ [.fresh inputs])
    (hCollectors : h₀.collectors = h.collectors ++ [[]]) :
    (Rig.mk
        (.fresh ⟨memory⟩
          (installed h.scripts.length h.collectors.length))
        h₀).Shows
      (.script h.scripts.length) h.collectors.length
      (.initial memory inputs) where
  table := serves_installed _ _
  tracing := rfl
  tape := rfl
  pointer := rfl
  inputs := by
    simp [Supplier.Holds, hScripts, Script.fresh,
      Config.initial]
  outputs := by
    simp [hCollectors, Config.initial]

------------------------------------------------------------
-- Collected Outputs
------------------------------------------------------------

/- A run ends as the steps of the language do. -/
theorem run_of_steps
    {n : Nat}
    {c : Config}
    (hLoad :
      p.load Tape.standardDelimiter = .ok ⟨memory⟩)
    (hSteps : Config.Steps n (.initial memory inputs) c)
    (hHalts : c.Halts)
    (h : Host) :
    ∃ budget m h',
      (∀ extra,
        run (budget + extra) p (some (inputs.map .int))
            .onConsole h =
          some (.ok ⟨m, c.outputs⟩, h')) ∧
        m.state = .halted ∧
        m.tape = ⟨c.memory⟩ ∧
        h'.scripts[h.scripts.length]? =
          some ⟨c.inputs, c.taken⟩ := by
  rcases prepare_of_load hLoad inputs h with
    ⟨h₀, hPrepare, hScripts, hCollectors⟩
  have hShows :=
    shows_prepared memory inputs hScripts hCollectors
  rcases hShows.finishes_of_halts RunState.noConfusion hSteps
      hHalts with
    ⟨r', ⟨budget, hRun⟩, hShows', hHalted, -⟩
  refine
    ⟨budget, r'.machine, r'.host, ?_, hHalted, hShows'.tape,
      hShows'.inputs⟩
  intro extra
  have hMore :=
    Rig.run_mono hRun (Nat.le_add_right budget extra)
  have hCollected :
      r'.host.collected h.collectors.length = c.outputs := by
    rw [Host.collected, List.getD_eq_getElem?_getD,
      hShows'.outputs]
    rfl
  simp only [run, hPrepare, hMore, hCollected]

end Collect

end IntcodeMachine
