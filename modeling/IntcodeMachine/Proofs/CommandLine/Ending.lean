import IntcodeMachine.CommandLine.Report
import IntcodeMachine.Proofs.Tape.Dumping

/-
  This file says what the report of a run holds: how it
  ends, what was printed, and which messages were logged.

  The report ends with the exit code of what the run has
  raised, unless it would have to show an integer that has
  too many digits: one in the dump, or the result of a
  program that has halted. Then the failure to write that
  integer escapes. The trace is printed in any case.

  Main declarations:
    * `CommandLine.ExitsBy`
    * `CommandLine.Unreportable`
    * `CommandLine.Report.Tells`
    * `CommandLine.Report.ofRun_tells`
    * `CommandLine.Report.ofRun_log`
-/

------------------------------------------------------------
-- Exit Codes
------------------------------------------------------------

namespace IntcodeMachine

namespace CommandLine

/-
  The ending is the exit code for what a run has raised, if
  it has raised anything: 0 for nothing, 1 for a fault, and
  2 for any other failure.
-/
structure ExitsBy
    (x : Except Failure Unit)
    (ending : Ending) : Prop where
  zero : ending = .exit 0 ↔ x = .ok ()
  one : ending = .exit 1 ↔ ∃ f, x = .error (.fault f)
  two :
    ending = .exit 2 ↔ ∃ e, x = .error e ∧ ∀ f, e ≠ .fault f
  exits :
    ending = .exit 0 ∨ ending = .exit 1 ∨ ending = .exit 2

theorem exitsBy_ok :
    ExitsBy (.ok ()) (.exit 0) where
  zero := by simp
  one := by simp
  two := by simp
  exits := Or.inl rfl

/- A failure is a fault, with code 1, or has code 2. -/
theorem exitCode_cases
    (e : Failure) :
    (e.exitCode = 1 ∧ ∃ f, e = .fault f) ∨
      (e.exitCode = 2 ∧ ∀ f, e ≠ .fault f) := by
  cases e with
  | fault f => exact Or.inl ⟨rfl, f, rfl⟩
  | _ => exact Or.inr ⟨rfl, fun f => by simp⟩

theorem exitsBy_error
    (e : Failure) :
    ExitsBy (.error e) (.exit e.exitCode) := by
  rcases exitCode_cases e with
    ⟨hCode, f, rfl⟩ | ⟨hCode, hOther⟩
  · rw [hCode]
    exact ⟨by simp, by simp, by simp, Or.inr (Or.inl rfl)⟩
  · rw [hCode]
    exact
      ⟨by simp, by simp [hOther], by simp [hOther],
        Or.inr (Or.inr rfl)⟩

/- There is one exit code only. -/
theorem ExitsBy.unique
    {x : Except Failure Unit}
    {first second : Ending}
    (hFirst : ExitsBy x first)
    (hSecond : ExitsBy x second) :
    first = second := by
  rcases hFirst.exits with hExit | hExit | hExit
  · rw [hExit, hSecond.zero.mpr (hFirst.zero.mp hExit)]
  · rw [hExit, hSecond.one.mpr (hFirst.one.mp hExit)]
  · rw [hExit, hSecond.two.mpr (hFirst.two.mp hExit)]

------------------------------------------------------------
-- Integers That Cannot Be Shown
------------------------------------------------------------

/-
  The report would have to show an integer with too many
  digits, in the dump or as the result.
-/
def Unreportable
    (o : Options)
    (x : Except Failure Unit)
    (m : Machine) : Prop :=
  (o.dump = true ∧ ¬ m.tape.Showable) ∨
    (x = .ok () ∧
      ∃ n, m.result = .ok n ∧ ¬ Numeral.Writable n)

/- The dump is left out, or printed, or cannot be shown. -/
theorem dumpWords_cases
    (o : Options)
    (t : Tape) :
    (o.dump = false ∧ dumpWords o t = .ok "") ∨
      (o.dump = true ∧ t.Showable ∧
        ∃ text, t.dump 0 none 8 = .ok text ∧
          dumpWords o t = .ok (text ++ "\n")) ∨
      (o.dump = true ∧ ¬ t.Showable ∧
        dumpWords o t = .error .unwritable) := by
  cases hDump : o.dump with
  | false => exact Or.inl ⟨rfl, by simp [dumpWords, hDump]⟩
  | true =>
      rcases t.dump_cases with
        ⟨hShowable, text, hText⟩ | ⟨hHidden, hText⟩
      · refine
          Or.inr (Or.inl ⟨rfl, hShowable, text, hText, ?_⟩)
        simp [dumpWords, hDump, hText]
      · refine Or.inr (Or.inr ⟨rfl, hHidden, ?_⟩)
        simp [dumpWords, hDump, hText]

namespace Report

/- The result is logged, unless it has too many digits. -/
theorem resultNote_cases
    {m : Machine}
    (hCells : 0 < m.tape.size) :
    ∃ n, m.result = .ok n ∧
      ((Numeral.Writable n ∧
          resultNote m =
            .ok
              ⟨.info, .commandLine,
                "Result: " ++ Numeral.render n⟩) ∨
        (¬ Numeral.Writable n ∧
          resultNote m = .error .unwritable)) := by
  have hInside : m.tape.Contains 0 := ⟨by omega, by omega⟩
  have hResult : m.result = .ok (m.tape.cells.getD 0 0) := by
    rw [Machine.result, Tape.read, if_pos hInside]
    rfl
  refine ⟨_, hResult, ?_⟩
  by_cases hWritable :
      Numeral.Writable (m.tape.cells.getD 0 0)
  · refine Or.inl ⟨hWritable, ?_⟩
    simp only [resultNote, hResult, Numeral.written,
      if_pos hWritable]
  · refine Or.inr ⟨hWritable, ?_⟩
    simp only [resultNote, hResult, Numeral.written,
      if_neg hWritable]

------------------------------------------------------------
-- The Parts Of A Report
------------------------------------------------------------

variable {o : Options} {x : Except Failure Unit}
variable {rig : Rig} {text : String} {e : Failure}

/- The report of a run once its dump is printed. -/
def dumped
    (o : Options)
    (x : Except Failure Unit)
    (rig : Rig)
    (text : String) : Report :=
  { ofOutcome o x rig with output := rig.host.screen ++ text }

theorem ofRun_of_hidden
    (hWords : dumpWords o rig.machine.tape = .error e) :
    ofRun o x rig =
      { ofOutcome o x rig with
        ending := .escape (.failure e) } := by
  rw [ofRun, hWords]

theorem ofRun_of_error
    (hWords : dumpWords o rig.machine.tape = .ok text) :
    ofRun o (.error e) rig = dumped o (.error e) rig text := by
  rw [ofRun, hWords]
  rfl

theorem ofRun_of_ok
    (hWords : dumpWords o rig.machine.tape = .ok text) :
    ofRun o (.ok ()) rig =
      close o rig (dumped o (.ok ()) rig text) := by
  rw [ofRun, hWords]
  rfl

/- Closing a report adds to its errors, and prints nothing. -/
theorem close_adds
    (o : Options)
    (rig : Rig)
    (r : Report) :
    (close o rig r).output = r.output ∧
      ∃ after, (close o rig r).errors = r.errors ++ after := by
  unfold close
  cases resultNote rig.machine with
  | error e => exact ⟨rfl, _, rfl⟩
  | ok note =>
      refine ⟨rfl, ?_⟩
      exact ⟨_, String.append_assoc⟩

------------------------------------------------------------
-- What A Report Tells
------------------------------------------------------------

/-
  The report tells how the run has ended, with its trace and
  the dump of its tape as the options ask for them.
-/
structure Tells
    (o : Options)
    (x : Except Failure Unit)
    (rig : Rig)
    (r : Report) : Prop where
  ending :
    ¬ Unreportable o x rig.machine → ExitsBy x r.ending
  escape :
    Unreportable o x rig.machine →
      r.ending = .escape (.failure .unwritable)
  trace :
    o.trace = true →
      ∃ before after,
        r.errors =
          before ++ (rig.machine.traceText ++ "\n") ++ after
  dump :
    o.dump = true → rig.machine.tape.Showable →
      ∃ text,
        rig.machine.tape.dump 0 none 8 = .ok text ∧
          r.output = rig.host.screen ++ (text ++ "\n")
  undumped :
    ¬ (o.dump = true ∧ rig.machine.tape.Showable) →
      r.output = rig.host.screen

/- The trace is among what a run has printed for its user. -/
theorem exists_trace
    {r : Report}
    {after : String}
    (hErrors :
      r.errors = (ofOutcome o x rig).errors ++ after)
    (hTrace : o.trace = true) :
    ∃ before after,
      r.errors =
        before ++ (rig.machine.traceText ++ "\n") ++ after := by
  rw [hErrors]
  simp only [ofOutcome, traceWords, if_pos hTrace]
  exact ⟨_, after, rfl⟩

/- What a report tells once its dump can be shown. -/
theorem ofRun_of_words
    (hCells : 0 < rig.machine.tape.size)
    (hDump : ¬ (o.dump = true ∧ ¬ rig.machine.tape.Showable))
    (hWords : dumpWords o rig.machine.tape = .ok text) :
    (¬ Unreportable o x rig.machine →
        ExitsBy x (ofRun o x rig).ending) ∧
      (Unreportable o x rig.machine →
        (ofRun o x rig).ending =
          .escape (.failure .unwritable)) ∧
      (ofRun o x rig).output = rig.host.screen ++ text ∧
      ∃ after,
        (ofRun o x rig).errors =
          (ofOutcome o x rig).errors ++ after := by
  cases x with
  | error e =>
      have hReportable :
          ¬ Unreportable o (.error e) rig.machine := by
        rintro (hHidden | ⟨hOk, -⟩)
        · exact hDump hHidden
        · simp at hOk
      rw [ofRun_of_error hWords]
      exact
        ⟨fun _ => exitsBy_error e, fun h => (hReportable h).elim,
          rfl, "", String.append_empty.symm⟩
  | ok u =>
      rw [ofRun_of_ok hWords]
      have hAdds :=
        close_adds o rig (dumped o (.ok ()) rig text)
      refine ⟨?_, ?_, hAdds.1, hAdds.2⟩
      · intro hReportable
        rcases resultNote_cases hCells with
          ⟨n, hResult, ⟨-, hNote⟩ | ⟨hHidden, -⟩⟩
        · rw [close, hNote]
          exact exitsBy_ok
        · exact
            absurd (Or.inr ⟨rfl, n, hResult, hHidden⟩)
              hReportable
      · rintro (hHidden | ⟨-, n, hResult, hLong⟩)
        · exact absurd hHidden hDump
        · rcases resultNote_cases hCells with
            ⟨k, hSame, ⟨hWritable, -⟩ | ⟨-, hNote⟩⟩
          · rw [hResult, Except.ok.injEq] at hSame
            rw [← hSame] at hWritable
            exact absurd hWritable hLong
          · rw [close, hNote]

/- The report of a run tells how it has ended. -/
theorem ofRun_tells
    (o : Options)
    (x : Except Failure Unit)
    (hCells : 0 < rig.machine.tape.size) :
    (ofRun o x rig).Tells o x rig := by
  rcases dumpWords_cases o rig.machine.tape with
    ⟨hDump, hWords⟩ |
      ⟨hDump, hShowable, text, hText, hWords⟩ |
      ⟨hDump, hHidden, hWords⟩
  · have hOff : ¬ o.dump = true := by simp [hDump]
    rcases ofRun_of_words hCells (fun h => hOff h.1) hWords with
      ⟨hExits, hEscapes, hOutput, after, hErrors⟩
    refine
      ⟨hExits, hEscapes, exists_trace hErrors,
        fun h => (hOff h).elim, fun _ => ?_⟩
    rw [hOutput, String.append_empty]
  · rcases ofRun_of_words hCells (fun h => h.2 hShowable)
        hWords with
      ⟨hExits, hEscapes, hOutput, after, hErrors⟩
    exact
      ⟨hExits, hEscapes, exists_trace hErrors,
        fun _ _ => ⟨text, hText, hOutput⟩,
        fun h => (h ⟨hDump, hShowable⟩).elim⟩
  · rw [ofRun_of_hidden hWords]
    exact
      ⟨fun h => (h (Or.inl ⟨hDump, hHidden⟩)).elim,
        fun _ => rfl, exists_trace String.append_empty.symm,
        fun _ h => (hHidden h).elim, fun _ => rfl⟩

/-
  After a program has halted, the integers that were not
  taken and the result are logged, in this order.
-/
theorem ofRun_log
    (hCells : 0 < rig.machine.tape.size)
    (hReportable : ¬ Unreportable o (.ok ()) rig.machine) :
    ∃ result : Log.Record,
      result.level = .info ∧
        (ofRun o (.ok ()) rig).log =
          rig.host.log ++ leftover (unread o rig.host) ++
            [result] ∧
        ∃ before,
          (ofRun o (.ok ()) rig).errors =
            before ++ o.shown (leftover (unread o rig.host)) ++
              o.shown [result] := by
  have hDump :
      ∃ text, dumpWords o rig.machine.tape = .ok text := by
    rcases dumpWords_cases o rig.machine.tape with
      ⟨-, hWords⟩ | ⟨-, -, text, -, hWords⟩ |
        ⟨hDump, hHidden, -⟩
    · exact ⟨_, hWords⟩
    · exact ⟨_, hWords⟩
    · exact absurd (Or.inl ⟨hDump, hHidden⟩) hReportable
  rcases hDump with ⟨text, hWords⟩
  rcases resultNote_cases hCells with
    ⟨n, hResult, ⟨-, hNote⟩ | ⟨hHidden, -⟩⟩
  · rw [ofRun_of_ok hWords, close, hNote]
    exact ⟨_, rfl, rfl, _, rfl⟩
  · exact
      absurd (Or.inr ⟨rfl, n, hResult, hHidden⟩) hReportable

end Report

end CommandLine

end IntcodeMachine
