import IntcodeMachine.CommandLine.Run
import IntcodeMachine.Proofs.CommandLine.Ending
import IntcodeMachine.Proofs.Execution.Bounds
import IntcodeMachine.Proofs.Execution.States
import IntcodeMachine.Proofs.Tape.Grammar
import Mathlib.Tactic.FinCases

/-
  This file follows a use of the command line from its words
  to its exit code.

  The program is loaded into a machine with the standard
  operations, on the keyboard or on a script. None of them
  suspends the machine, so that a run that returns has
  halted. The program has a cell, and keeps it, so that
  there is a result.

  Main declarations:
    * `Rig.halted_iff_of_standard`
    * `CommandLine.table_eq_standard`
    * `CommandLine.run_eq_execute`
    * `CommandLine.run_exits`
-/

------------------------------------------------------------
-- Machines That Do Not Suspend
------------------------------------------------------------

namespace IntcodeMachine

/- The standard table with inputs from another source. -/
theorem Table.standard_set_input
    (first second : Source)
    (sink : Sink) :
    (standard first sink).set inputOpcode
        (.input second Operation.inputName) =
      standard second sink := by
  have hEntry :
      ∀ k,
        ((standard first sink).set inputOpcode
            (.input second Operation.inputName)).entry k =
          (standard second sink).entry k := by
    intro k
    fin_cases k <;> rfl
  rw [mk.injEq]
  exact funext hEntry

namespace Rig

/- On the standard operations, no machine is suspended. -/
theorem kept_unsuspended
    (source : Source)
    (sink : Sink) :
    Kept fun r =>
      r.machine.table = .standard source sink ∧
        r.machine.state ≠ .suspended where
  enter _ hSame := ⟨hSame.1, RunState.noConfusion⟩
  host _ _ hSame := hSame
  dispatch r x r' hSame hState hDispatch := by
    refine ⟨(dispatch_keeps hDispatch).1.trans hSame.1, ?_⟩
    cases x with
    | error e =>
        rw [(dispatch_error_stays hDispatch).2]
        exact hSame.2
    | ok s =>
        rcases dispatch_ok_parts hDispatch with
          ⟨o, i, ps, b, hFetched, -, hExecute, -, -⟩
        have hEntry := hFetched.entry
        rw [hSame.1] at hEntry
        have hGoes := Table.standard_ne_suspend hEntry hExecute
        rw [(dispatch_ok_moves hDispatch).2, hState]
        exact fun hSuspended =>
          hGoes ((s.stateAfter_running_iff).2.1.mp hSuspended)

/- So a run of a new machine returns exactly if it halts. -/
theorem halted_iff_of_standard
    {source : Source}
    {sink : Sink}
    {r r' : Rig}
    {budget : Nat}
    {x : Except Failure Unit}
    (hTable : r.machine.table = .standard source sink)
    (hState : r.machine.state = .uninitialized)
    (hRun : r.run budget = some (x, r')) :
    r'.machine.state = .halted ↔ x = .ok () := by
  have hGoesOn :=
    (kept_unsuspended source sink).run
      ⟨hTable, by simp [hState]⟩ hRun
  cases x with
  | error e =>
      rw [run_error_state hRun]
      simp
  | ok u =>
      rcases run_ok_state hRun with hHalted | hSuspended
      · exact iff_of_true hHalted rfl
      · exact absurd hSuspended hGoesOn.2

end Rig

------------------------------------------------------------
-- The Machine Of The Command Line
------------------------------------------------------------

namespace CommandLine

variable {words : List String} {o : Options} {files : Files}
variable {text : String} {keyboard : List String}
variable {budget : Nat} {x : Except Failure Unit}
variable {r r' : Rig}

/- The table is the standard one on some source. -/
theorem table_eq_standard
    (o : Options) :
    ∃ source, table o = .standard source .standard := by
  unfold table
  cases o.inputs with
  | none => exact ⟨.standard, rfl⟩
  | some values =>
      exact ⟨.script 0, Table.standard_set_input _ _ _⟩

/- The machine starts on the tape of the program text. -/
theorem start_eq_ok
    (hStart : start o text keyboard = .ok r) :
    ∃ t h,
      Tape.parse text o.delimiter = .ok t ∧
        r = Rig.loaded t (table o) o.trace h := by
  rw [start, Machine.load, Program.load] at hStart
  cases hParse : Tape.parse text o.delimiter with
  | error e => simp [hParse] at hStart
  | ok t =>
      simp only [hParse, Except.ok.injEq] at hStart
      exact ⟨t, _, rfl, hStart.symm⟩

/- It keeps its cells, and so has a result. -/
theorem size_pos_of_run
    (hStart : start o text keyboard = .ok r)
    (hRun : r.run budget = some (x, r')) :
    0 < r'.machine.tape.size := by
  rcases start_eq_ok hStart with ⟨t, h, hParse, rfl⟩
  rcases table_eq_standard o with ⟨source, hTable⟩
  have hBounds :=
    Rig.inBounds_loaded
      (Table.contextual_standard source .standard) t o.trace h
  rw [← hTable] at hBounds
  rw [((Rig.kept_inBounds t.size).run hBounds hRun).tape]
  exact Tape.size_pos_of_parse hParse

/- It has halted if and only if the run returns. -/
theorem halted_iff
    (hStart : start o text keyboard = .ok r)
    (hRun : r.run budget = some (x, r')) :
    r'.machine.state = .halted ↔ x = .ok () := by
  rcases start_eq_ok hStart with ⟨t, h, -, rfl⟩
  rcases table_eq_standard o with ⟨source, hTable⟩
  exact Rig.halted_iff_of_standard hTable rfl hRun

/- A tape that can be shown hides nothing from a report. -/
theorem reportable_of_showable
    {m : Machine}
    (hShowable : m.tape.Showable) :
    ¬ Unreportable o x m := by
  rintro (⟨-, hHidden⟩ | ⟨-, n, hResult, hLong⟩)
  · exact hHidden hShowable
  · exact
      hLong (hShowable.cells n (Tape.mem_of_read hResult))

------------------------------------------------------------
-- From Words To Reports
------------------------------------------------------------

/- Without a log file, the program is run on the files. -/
theorem run_eq_execute
    (hOptions : Options.read words = .ok o)
    (hLog : o.logFile = none)
    (hText : programText o files.read = .ok text)
    (budget : Nat)
    (keyboard : List String) :
    run budget words files keyboard =
      (execute budget o text keyboard).map fun report =>
        (.reported report, files) := by
  have hPath : logPath? o = none := by rw [logPath?, hLog]
  have hPrepare : prepareLog o files = .ok files := by
    rw [prepareLog, hPath]
  have hWrite (log : List Log.Record) :
      writeLog o files log = files := by
    rw [writeLog, hPath]
  simp only [run, hOptions, obey, hPrepare, hText, hWrite,
    Option.map_map]
  rfl

/- Nothing is on the screen before a program runs. -/
theorem screen_host
    (o : Options)
    (keyboard : List String) :
    (host o keyboard).screen = "" := by
  unfold host
  cases o.inputs <;> rfl

/- A program that cannot be loaded. -/
theorem execute_of_error
    {e : Failure}
    (budget : Nat)
    (hStart : start o text keyboard = .error e) :
    execute budget o text keyboard =
      some (.ofFailure o (host o keyboard) e) := by
  rw [execute, hStart]

/- A program that is loaded, and runs. -/
theorem execute_of_ok
    (budget : Nat)
    (hStart : start o text keyboard = .ok r) :
    execute budget o text keyboard =
      (r.run budget).map fun (x, r') => .ofRun o x r' := by
  rw [execute, hStart]
  dsimp only
  rcases r.run budget with _ | ⟨x, r'⟩
  · rfl
  · rfl

/-
  Without a log file, a use of the command line comes to an
  end if the run of its program does, and leaves the files
  as they are. The exit code says what was raised when the
  program was loaded or run, and it is 0 exactly if the
  program has halted. The one exception is a report that
  would show an integer with too many digits, from which the
  failure to write it escapes. Trace and dump are printed
  whether the program halts or fails.
-/
theorem run_exits
    (hOptions : Options.read words = .ok o)
    (hLog : o.logFile = none)
    (hText : programText o files.read = .ok text)
    (budget : Nat)
    (keyboard : List String) :
    (∀ e,
      start o text keyboard = .error e →
      ∃ report,
        run budget words files keyboard =
            some (.reported report, files) ∧
          ExitsBy (.error e) report.ending ∧
          report.output = "") ∧
    (∀ r,
      start o text keyboard = .ok r →
      (r.run budget = none →
        run budget words files keyboard = none) ∧
      ∀ x r',
        r.run budget = some (x, r') →
        (r'.machine.state = .halted ↔ x = .ok ()) ∧
        ∃ report,
          run budget words files keyboard =
              some (.reported report, files) ∧
            report.Tells o x r') := by
  rw [run_eq_execute hOptions hLog hText]
  constructor
  · intro e hStart
    rw [execute_of_error budget hStart]
    exact
      ⟨_, rfl, exitsBy_error e, screen_host o keyboard⟩
  · intro r hStart
    rw [execute_of_ok budget hStart]
    refine ⟨fun hRun => by rw [hRun]; rfl, ?_⟩
    intro x r' hRun
    refine ⟨halted_iff hStart hRun, Report.ofRun o x r', ?_, ?_⟩
    · rw [hRun]
      rfl
    · exact
        Report.ofRun_tells o x (size_pos_of_run hStart hRun)

/-
  The options for a program text, perhaps with inputs and a
  dump.
-/
def Options.ofText
    (program : String)
    (inputs : Option (List Int))
    (dump : Bool) : Options where
  program := program
  isText := true
  inputs := inputs
  delimiter := Tape.standardDelimiter
  trace := false
  dump := dump
  verbosity := 0
  quiet := false
  logFile := none

/-
  A sum is dumped after the program has halted, and a text
  that is no program is a fault.
-/
theorem sum_exits :
    (∃ report text,
      run 2 ["-s", "1101,2,3,0,99", "--dump"] ⟨[], []⟩ [] =
          some (.reported report, ⟨[], []⟩) ∧
        report.ending = .exit 0 ∧
        Tape.dump ⟨[5, 2, 3, 0, 99]⟩ 0 none 8 = .ok text ∧
        report.output = text ++ "\n") ∧
    ∃ report,
      run 2 ["-s", "two"] ⟨[], []⟩ [] =
          some (.reported report, ⟨[], []⟩) ∧
        report.ending = .exit 1 := by
  constructor
  · have hWords :
        Word.classifyAll ["-s", "1101,2,3,0,99", "--dump"] =
          .ok
            [.switch .text .nothing, .plain "1101,2,3,0,99",
              .switch .dump .nothing] :=
      rfl
    have hOptions :
        Options.read ["-s", "1101,2,3,0,99", "--dump"] =
          .ok (.ofText "1101,2,3,0,99" none true) := by
      rw [Options.read, hWords]
      simp [Draft.read, Use.expand, Use.expandJoined,
        Switch.takesValue, Draft.isOpen, Draft.obey,
        Draft.raise, Draft.fresh, Draft.place, Draft.finish,
        Options.ofText]
    have hRuns :
        ∃ r r',
          start (.ofText "1101,2,3,0,99" none true)
              "1101,2,3,0,99" [] = .ok r ∧
            r.run 2 = some (.ok (), r') ∧
            r'.machine.tape = ⟨[5, 2, 3, 0, 99]⟩ ∧
            r'.host.screen = "" :=
      ⟨_, _, rfl, rfl, rfl, rfl⟩
    rcases hRuns with ⟨r, r', hStart, hRun, hTape, hScreen⟩
    rcases (((run_exits hOptions rfl rfl 2 []).2 r hStart).2 _
        r' hRun).2 with
      ⟨report, hReport, hTells⟩
    have hShowable : r'.machine.tape.Showable := by
      rw [hTape]
      exact
        ⟨Numeral.allWritable_of_lt (by decide),
          Nat.le_of_lt
            (Numeral.lt_ceiling_of_lt_ten (by decide))⟩
    rcases hTells.dump rfl hShowable with
      ⟨text, hText, hOutput⟩
    rw [hTape] at hText
    rw [hScreen, String.empty_append] at hOutput
    exact
      ⟨report, text, hReport,
        (hTells.ending
          (reportable_of_showable hShowable)).zero.mpr rfl,
        hText, hOutput⟩
  · have hWords :
        Word.classifyAll ["-s", "two"] =
          .ok [.switch .text .nothing, .plain "two"] :=
      rfl
    have hOptions :
        Options.read ["-s", "two"] =
          .ok (.ofText "two" none false) := by
      rw [Options.read, hWords]
      simp [Draft.read, Use.expand, Use.expandJoined,
        Switch.takesValue, Draft.isOpen, Draft.obey,
        Draft.raise, Draft.fresh, Draft.place, Draft.finish,
        Options.ofText]
    have hFails :
        ∃ f,
          start (.ofText "two" none false) "two" [] =
            .error (.fault f) :=
      ⟨_, rfl⟩
    rcases hFails with ⟨f, hStart⟩
    rcases (run_exits hOptions rfl rfl 2 []).1 _ hStart with
      ⟨report, hReport, hExits, -⟩
    exact ⟨report, hReport, hExits.one.mpr ⟨f, rfl⟩⟩

end CommandLine

end IntcodeMachine
