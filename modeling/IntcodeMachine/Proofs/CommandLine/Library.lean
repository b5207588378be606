import IntcodeMachine.Proofs.CommandLine.Exit
import IntcodeMachine.Proofs.Simulation.Echo
import IntcodeMachine.Proofs.Tracing.Neutrality

/-
  This file compares the command line with the library, on
  the text of a program and integers for its inputs.

  The library takes the inputs from a script and collects
  the outputs. The command line takes them from a script
  that is put into its table, and prints the outputs. Its
  machine may trace, which makes no difference to a program
  that has only legible instructions. So both run alike, and
  the report tells of the one what is true of the other.

  Main declarations:
    * `CommandLine.library`
    * `CommandLine.runs_like_library`
    * `CommandLine.Report.Matches`
    * `CommandLine.library_matched`
-/

------------------------------------------------------------
-- Both Machines
------------------------------------------------------------

namespace IntcodeMachine

/- The rig with a trace from now on, or without one. -/
def Rig.traceIf
    (r : Rig)
    (tracing : Bool) : Rig :=
  { r with machine := { r.machine with tracing := tracing } }

namespace CommandLine

/-
  The library on the same program, with its inputs from a
  script and its outputs to a collector.
-/
def library
    (o : Options)
    (inputs : List Int) : Except Failure Rig :=
  match
    Machine.load (.text o.program) o.delimiter
      (.standard (.script 0) (.collector 0)) with
  | .error e => .error e
  | .ok m =>
      .ok
        ⟨m,
          ((Host.fresh []).addScript
            (.fresh inputs)).2.addCollector.2⟩

variable {o : Options} {inputs : List Int}
variable {keyboard : List String} {r r' : Rig}
variable {budget : Nat} {x : Except Failure Unit}

/- What the library cannot load, the command line cannot. -/
theorem start_of_library_error
    {e : Failure}
    (keyboard : List String)
    (hLibrary : library o inputs = .error e) :
    start o o.program keyboard = .error e := by
  rw [library, Machine.load, Program.load] at hLibrary
  rw [start, Machine.load, Program.load]
  cases hParse : Tape.parse o.program o.delimiter with
  | error e₁ =>
      simp only [hParse, Except.error.injEq] at hLibrary ⊢
      exact hLibrary
  | ok t => simp [hParse] at hLibrary

/- To put an entry into a table is no reason for a warning. -/
theorem overrideNotes_level
    {t : Table}
    {k : Opcode}
    {entry : Operation}
    {record : Log.Record}
    (hMember : record ∈ t.overrideNotes k entry) :
    record.level ≠ .warning := by
  unfold Table.overrideNotes at hMember
  cases hEntry : t.entry k with
  | none => simp [hEntry] at hMember
  | some before =>
      simp only [hEntry, List.mem_singleton] at hMember
      rw [hMember]
      exact Log.Level.noConfusion

/- The table of the command line prints the outputs. -/
theorem table_of_inputs
    (hInputs : o.inputs = some inputs) :
    table o = .standard (.script 0) .standard := by
  rw [table, hInputs]
  exact Table.standard_set_input _ _ _

/- Its host has the same script, and has printed nothing. -/
theorem host_echoes
    (hInputs : o.inputs = some inputs)
    (keyboard : List String)
    (m : Machine) :
    Host.Echoes 0
      ((Host.fresh []).addScript
        (.fresh inputs)).2.addCollector.2
      ((host o keyboard).note (loadNote m)) := by
  rw [host, hInputs]
  refine ⟨rfl, Nat.zero_lt_one, rfl, fun record hMember => ?_⟩
  have hCases :
      record ∈
        Table.onConsole.overrideNotes Table.inputOpcode
            scriptedInput ++ [loadNote m] :=
    hMember
  rcases List.mem_append.mp hCases with hOld | hNew
  · exact overrideNotes_level hOld
  · rw [List.mem_singleton.mp hNew]
    exact Log.Level.noConfusion

/- What the library loads, the command line loads alike. -/
theorem start_of_library_ok
    (hInputs : o.inputs = some inputs)
    (keyboard : List String)
    (hLibrary : library o inputs = .ok r) :
    r.machine.table = .standard (.script 0) (.collector 0) ∧
      r.machine.state = .uninitialized ∧
      r.machine.tracing = false ∧
      ∃ r₂,
        start o o.program keyboard = .ok r₂ ∧
          (r.traceIf o.trace).Echoes 0 0 r₂ := by
  rw [library, Machine.load, Program.load] at hLibrary
  rw [start, Machine.load, Program.load]
  cases hParse : Tape.parse o.program o.delimiter with
  | error e => simp [hParse] at hLibrary
  | ok t =>
      simp only [hParse, Except.ok.injEq] at hLibrary ⊢
      subst hLibrary
      refine ⟨rfl, rfl, rfl, _, rfl, rfl, ?_, ?_⟩
      · rw [table_of_inputs hInputs,
          ← Table.withActions_printing 0 0]
        rfl
      · exact host_echoes hInputs keyboard _

------------------------------------------------------------
-- Both Runs
------------------------------------------------------------

/-
  The run of the command line comes to the same end, with
  the same tape and the same inputs left, and prints what
  the library collects. It has logged no warning.
-/
theorem runs_like_library
    (hInputs : o.inputs = some inputs)
    (keyboard : List String)
    (hLibrary : library o inputs = .ok r)
    (hRun : r.run budget = some (x, r'))
    (hOutputs :
      Numeral.AllWritable (r'.host.collected 0))
    (hLegible :
      o.trace = true →
        ∀ s, Rig.Executes .run r s → ¬ s.Illegible) :
    ∃ r₂ r₂',
      start o o.program keyboard = .ok r₂ ∧
        r₂.run budget = some (x, r₂') ∧
        r₂'.machine.tape = r'.machine.tape ∧
        Host.Echoes 0 r'.host r₂'.host := by
  rcases start_of_library_ok hInputs keyboard hLibrary with
    ⟨-, hState, hOff, r₂, hStart, hEchoes⟩
  have hAgrees : r.Agrees (r.traceIf o.trace) := rfl
  have hTracing :
      r.machine.tracing = (r.traceIf o.trace).machine.tracing ∨
        ∀ s, Rig.Executes .run r s → ¬ s.Illegible := by
    cases hOn : o.trace with
    | false => exact Or.inl hOff
    | true => exact Or.inr (hLegible hOn)
  have hAlike := Rig.run_alike budget hAgrees hTracing
  rw [hRun] at hAlike
  rcases rel_cases hAlike with
    ⟨hNone, -⟩ | ⟨y, s, t, hSome, hTraced, hLeft⟩
  · simp at hNone
  rw [Option.some.injEq, Prod.mk.injEq] at hSome
  rcases hSome with ⟨rfl, rfl⟩
  rcases hLeft.exists_parts with ⟨tracing, trace, log, rfl⟩
  rcases hEchoes.run hState hTraced hOutputs with
    ⟨r₂', hSecond, hEnd⟩
  refine ⟨r₂, r₂', hStart, hSecond, hEnd.tape, ?_⟩
  exact
    ⟨hEnd.host.scripts, hEnd.host.collector, hEnd.host.screen,
      hEnd.host.log⟩

------------------------------------------------------------
-- Both Reports
------------------------------------------------------------

namespace Report

/- The line for integers that were not taken. -/
def unreadLine (count : Nat) : String :=
  if count = 0 then ""
  else
    "WARNING: " ++ Numeral.renderNat count ++
      " scripted input value(s) not consumed\n"

/- A message that is important enough is shown as a line. -/
theorem shown_singleton
    {record : Log.Record}
    (hRank : o.threshold.rank ≤ record.level.rank) :
    o.shown [record] = record.line := by
  rw [Options.shown, List.filter_cons_of_pos (by simpa),
    List.filter_nil, List.map_singleton, Text.joinStrings,
    List.map_singleton, Text.join, List.intercalate_singleton,
    String.ofList_toList]

/- A user is shown warnings, unless asking for quiet. -/
theorem shown_leftover
    (hQuiet : o.quiet = false)
    (count : Nat) :
    o.shown (leftover count) = unreadLine count := by
  have hThreshold :
      o.threshold.rank ≤ Log.Level.warning.rank := by
    rw [Options.threshold, if_neg (by simp [hQuiet])]
    split <;> decide
  unfold leftover unreadLine
  by_cases hNone : count = 0
  · rw [if_pos hNone, if_pos hNone]
    rfl
  · rw [if_neg hNone, if_neg hNone, shown_singleton hThreshold,
      Log.Record.line, String.append_assoc,
      String.append_assoc, String.append_assoc]
    rfl

/-
  The report fits a run of the library: it has the same end,
  prints the outputs and perhaps the tape, and warns of the
  integers that were not taken after the program has halted.
-/
structure Matches
    (o : Options)
    (x : Except Failure Unit)
    (rig : Rig)
    (r : Report) : Prop where
  ending : ExitsBy x r.ending
  halted :
    r.ending = .exit 0 ↔ rig.machine.state = .halted
  undumped :
    o.dump = false →
      r.output = Console.printed (rig.host.collected 0)
  dumped :
    o.dump = true →
      ∃ text,
        rig.machine.tape.dump 0 none 8 = .ok text ∧
          r.output =
            Console.printed (rig.host.collected 0) ++
              (text ++ "\n")
  warned :
    x = .ok () →
      r.log.filter (fun record => record.level = .warning) =
        leftover (rig.host.script 0).remaining.length
  shown :
    x = .ok () → o.quiet = false →
      ∃ before after,
        r.errors =
          before ++
            unreadLine (rig.host.script 0).remaining.length ++
            after

/- What fits the same run has the same end and output. -/
theorem Matches.same
    {o₁ o₂ : Options}
    {rig : Rig}
    {r₁ r₂ : Report}
    (hFirst : r₁.Matches o₁ x rig)
    (hSecond : r₂.Matches o₂ x rig)
    (hDump : o₂.dump = o₁.dump) :
    r₂.ending = r₁.ending ∧ r₂.output = r₁.output := by
  refine ⟨hSecond.ending.unique hFirst.ending, ?_⟩
  cases hOn : o₁.dump with
  | false =>
      rw [hSecond.undumped (hDump.trans hOn),
        hFirst.undumped hOn]
  | true =>
      rcases hFirst.dumped hOn with ⟨text, hText, hOutput⟩
      rcases hSecond.dumped (hDump.trans hOn) with
        ⟨other, hOther, hPrinted⟩
      rw [hText, Except.ok.injEq] at hOther
      rw [hPrinted, hOutput, hOther]

/- The messages at the end warn of what was left. -/
theorem warnings_of_log
    {before : List Log.Record}
    {result : Log.Record}
    (hBefore : ∀ record ∈ before, record.level ≠ .warning)
    (hResult : result.level = .info)
    (count : Nat) :
    (before ++ leftover count ++ [result]).filter
        (fun record => record.level = .warning) =
      leftover count := by
  have hNone :
      before.filter (fun record => record.level = .warning) =
        [] := by
    simpa using hBefore
  have hLeft :
      (leftover count).filter
          (fun record => record.level = .warning) =
        leftover count := by
    unfold leftover
    split <;> rfl
  rw [List.filter_append, List.filter_append, hNone, hLeft]
  simp [hResult]

end Report

/- The report fits the run of the library. -/
theorem matches_of_run
    {files : Files}
    {words : List String}
    (hOptions : Options.read words = .ok o)
    (hText : o.isText = true)
    (hInputs : o.inputs = some inputs)
    (hLog : o.logFile = none)
    (hLibrary : library o inputs = .ok r)
    (hRun : r.run budget = some (x, r'))
    (hOutputs :
      Numeral.AllWritable (r'.host.collected 0))
    (hShowable : r'.machine.tape.Showable)
    (hLegible :
      o.trace = true →
        ∀ s, Rig.Executes .run r s → ¬ s.Illegible) :
    ∃ report,
      run budget words files keyboard =
          some (.reported report, files) ∧
        report.Matches o x r' := by
  have hProgram : programText o files.read = .ok o.program := by
    rw [programText, if_pos hText]
  rcases start_of_library_ok hInputs keyboard hLibrary with
    ⟨hTable, hState, -, -⟩
  rcases runs_like_library hInputs keyboard hLibrary hRun
      hOutputs hLegible with
    ⟨r₂, r₂', hStart, hSecond, hTape, hEchoes⟩
  have hCells := size_pos_of_run hStart hSecond
  rw [← hTape] at hShowable
  have hReportable :
      ¬ Unreportable o x r₂'.machine :=
    reportable_of_showable hShowable
  have hTells := Report.ofRun_tells o x hCells
  have hEnding := hTells.ending hReportable
  have hUnread :
      Report.unread o r₂'.host =
        (r'.host.script 0).remaining.length := by
    rw [Report.unread, hInputs]
    dsimp only
    rw [Host.script, hEchoes.scripts]
    rfl
  refine ⟨.ofRun o x r₂', ?_, hEnding, ?_, ?_, ?_, ?_, ?_⟩
  · rw [run_eq_execute hOptions hLog hProgram,
      execute_of_ok budget hStart, hSecond]
    rfl
  · rw [hEnding.zero,
      Rig.halted_iff_of_standard hTable hState hRun]
  · intro hDump
    rw [hTells.undumped (by simp [hDump]), hEchoes.screen]
  · intro hDump
    rcases hTells.dump hDump hShowable with
      ⟨text, hWords, hOutput⟩
    rw [hTape] at hWords
    rw [hEchoes.screen] at hOutput
    exact ⟨text, hWords, hOutput⟩
  · rintro rfl
    rcases Report.ofRun_log hCells hReportable with
      ⟨result, hLevel, hRecords, -⟩
    rw [hRecords, hUnread]
    exact Report.warnings_of_log hEchoes.log hLevel _
  · rintro rfl hQuiet
    rcases Report.ofRun_log hCells hReportable with
      ⟨result, -, -, before, hErrors⟩
    rw [hUnread, Report.shown_leftover hQuiet] at hErrors
    exact ⟨before, _, hErrors⟩

/- Nothing is printed if the program cannot be loaded. -/
theorem fails_like_library
    {files : Files}
    {words : List String}
    {e : Failure}
    (hOptions : Options.read words = .ok o)
    (hText : o.isText = true)
    (hLog : o.logFile = none)
    (hLibrary : library o inputs = .error e)
    (budget : Nat) :
    ∃ report,
      run budget words files keyboard =
          some (.reported report, files) ∧
        ExitsBy (.error e) report.ending ∧
        report.output = "" := by
  have hProgram : programText o files.read = .ok o.program := by
    rw [programText, if_pos hText]
  rw [run_eq_execute hOptions hLog hProgram,
    execute_of_error budget
      (start_of_library_error keyboard hLibrary)]
  exact ⟨_, rfl, exitsBy_error e, screen_host o keyboard⟩

/- The same options, but for how the run is watched. -/
def Options.watched
    (o : Options)
    (trace : Bool)
    (verbosity : Nat)
    (quiet : Bool) : Options :=
  { o with
    trace := trace
    verbosity := verbosity
    quiet := quiet }

/-
  On the text of a program and integers for its inputs, the
  command line does what the library does. If the library
  cannot load the program, the exit code says why, and
  nothing is printed. If its run comes to an end, and no
  integer that was output, is on the tape or is in a line of
  the trace has too many digits, then the report fits the
  run. To trace the run, or to be told more or less about
  it, changes neither the exit code nor what is printed.
-/
theorem library_matched
    {words words' : List String}
    {trace quiet : Bool}
    {verbosity : Nat}
    (hOptions : Options.read words = .ok o)
    (hOther :
      Options.read words' =
        .ok (o.watched trace verbosity quiet))
    (hText : o.isText = true)
    (hInputs : o.inputs = some inputs)
    (hLog : o.logFile = none)
    (files : Files)
    (keyboard : List String)
    (budget : Nat) :
    (∀ e,
      library o inputs = .error e →
      ∃ report report',
        run budget words files keyboard =
            some (.reported report, files) ∧
          run budget words' files keyboard =
            some (.reported report', files) ∧
          ExitsBy (.error e) report.ending ∧
          report.output = "" ∧
          report'.ending = report.ending ∧
          report'.output = report.output) ∧
    (∀ r x r',
      library o inputs = .ok r →
      r.run budget = some (x, r') →
      Numeral.AllWritable (r'.host.collected 0) →
      r'.machine.tape.Showable →
      (o.trace = true ∨ trace = true →
        ∀ s, Rig.Executes .run r s → ¬ s.Illegible) →
      ∃ report report',
        run budget words files keyboard =
            some (.reported report, files) ∧
          run budget words' files keyboard =
            some (.reported report', files) ∧
          report.Matches o x r' ∧
          report'.ending = report.ending ∧
          report'.output = report.output) := by
  constructor
  · intro e hLibrary
    rcases fails_like_library hOptions hText hLog hLibrary
        budget with
      ⟨report, hReport, hExits, hOutput⟩
    rcases fails_like_library hOther hText hLog hLibrary
        budget with
      ⟨report', hReport', hExits', hOutput'⟩
    exact
      ⟨report, report', hReport, hReport', hExits, hOutput,
        hExits'.unique hExits, hOutput'.trans hOutput.symm⟩
  · intro r x r' hLibrary hRun hOutputs hShowable hLegible
    rcases matches_of_run hOptions hText hInputs hLog hLibrary
        hRun hOutputs hShowable
        (fun hTrace => hLegible (Or.inl hTrace)) with
      ⟨report, hReport, hMatches⟩
    rcases matches_of_run hOther hText hInputs hLog hLibrary
        hRun hOutputs hShowable
        (fun hTrace => hLegible (Or.inr hTrace)) with
      ⟨report', hReport', hMatches'⟩
    exact
      ⟨report, report', hReport, hReport', hMatches,
        hMatches.same hMatches' rfl⟩

/-
  A program that outputs a digit, and leaves its input, is
  run with a trace and without.
-/
theorem output_library_matched :
    ∃ report report',
      run 2 ["-s", "104,7,99", "-i", "5"] ⟨[], []⟩ [] =
          some (.reported report, ⟨[], []⟩) ∧
        run 2 ["-s", "104,7,99", "-i", "5", "--trace"]
            ⟨[], []⟩ [] =
          some (.reported report', ⟨[], []⟩) ∧
        report.ending = .exit 0 ∧
        report.output = "Output: 7\n" ∧
        report.log.filter
            (fun record => record.level = .warning) =
          Report.leftover 1 ∧
        report'.ending = .exit 0 ∧
        report'.output = "Output: 7\n" := by
  have hWords :
      Word.classifyAll ["-s", "104,7,99", "-i", "5"] =
        .ok
          [.switch .text .nothing, .plain "104,7,99",
            .switch .input .nothing, .plain "5"] :=
    rfl
  have hOtherWords :
      Word.classifyAll
          ["-s", "104,7,99", "-i", "5", "--trace"] =
        .ok
          [.switch .text .nothing, .plain "104,7,99",
            .switch .input .nothing, .plain "5",
            .switch .trace .nothing] :=
    rfl
  have hDigit : Numeral.readTyped ['5'] = .ok 5 := rfl
  have hOptions :
      Options.read ["-s", "104,7,99", "-i", "5"] =
        .ok (.ofText "104,7,99" (some [5]) false) := by
    rw [Options.read, hWords]
    simp [Draft.read, Use.expand, Use.expandJoined,
      Switch.takesValue, Draft.isOpen, Draft.obey,
      Draft.raise, Draft.fresh, Draft.place, Draft.complete,
      Draft.assign, Draft.finish, Options.ofText, hDigit]
  have hOther :
      Options.read ["-s", "104,7,99", "-i", "5", "--trace"] =
        .ok
          (Options.watched
            (.ofText "104,7,99" (some [5]) false)
            true 0 false) := by
    rw [Options.read, hOtherWords]
    simp [Draft.read, Use.expand, Use.expandJoined,
      Switch.takesValue, Draft.isOpen, Draft.obey,
      Draft.raise, Draft.fresh, Draft.place, Draft.complete,
      Draft.assign, Draft.finish, Options.ofText,
      Options.watched, hDigit]
  have hLibrary :
      library (.ofText "104,7,99" (some [5]) false) [5] =
        .ok (Rig.scripted (.fresh []) [104, 7, 99] [5]) :=
    rfl
  have hRuns :
      ∃ r',
        (Rig.scripted (.fresh []) [104, 7, 99] [5]).run 2 =
            some (.ok (), r') ∧
          r'.machine.tape = ⟨[104, 7, 99]⟩ ∧
          r'.host.collected 0 = [7] ∧
          (r'.host.script 0).remaining.length = 1 :=
    ⟨_, rfl, rfl, rfl, rfl⟩
  rcases hRuns with ⟨r', hRun, hTape, hCollected, hLeft⟩
  have hOutputs :
      Numeral.AllWritable (r'.host.collected 0) := by
    rw [hCollected]
    exact Numeral.allWritable_of_lt (by decide)
  have hShowable : r'.machine.tape.Showable := by
    rw [hTape]
    exact
      ⟨Numeral.allWritable_of_lt (by decide),
        Nat.le_of_lt
          (Numeral.lt_ceiling_of_lt_ten (by decide))⟩
  have hLegible :
      ∀ s,
        Rig.Executes .run
            (Rig.scripted (.fresh []) [104, 7, 99] [5]) s →
          ¬ s.Illegible := by
    rintro s ⟨-, n, hReaches⟩
    cases hReaches with
    | here => exact Rig.not_illegible_of_digits rfl (by decide)
    | next hDispatch hGoesOn hRest =>
        rcases Prod.mk.inj hDispatch with ⟨-, rfl⟩
        cases hRest with
        | here =>
            exact Rig.not_illegible_of_digits rfl (by decide)
        | next hSecond hGoesOn hRest =>
            -- The second instruction halts the machine.
            rcases Prod.mk.inj hSecond with ⟨-, rfl⟩
            exact Bool.noConfusion hGoesOn
  rcases (library_matched hOptions hOther rfl rfl rfl ⟨[], []⟩
      [] 2).2 _ _ r' hLibrary hRun hOutputs hShowable
      (fun _ => hLegible) with
    ⟨report, report', hReport, hReport', hMatches, hEnding,
      hOutput⟩
  have hExit := hMatches.ending.zero.mpr rfl
  have hPrinted := hMatches.undumped rfl
  have hWarned := hMatches.warned rfl
  rw [hCollected] at hPrinted
  rw [hLeft] at hWarned
  exact
    ⟨report, report', hReport, hReport', hExit, hPrinted,
      hWarned, hEnding.trans hExit, hOutput.trans hPrinted⟩

end CommandLine

end IntcodeMachine
