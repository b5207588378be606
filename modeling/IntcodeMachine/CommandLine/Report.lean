import IntcodeMachine.CommandLine.Options
import IntcodeMachine.CommandLine.Path
import IntcodeMachine.Machine.Run
import IntcodeMachine.Tape.Dump
import IntcodeMachine.Text.Utf8

/-
  This file defines what the command line reports about the
  run of a program.

  The exit code is 0 if the program halted, 1 for a fault of
  the machine, and 2 for any other failure. The trace and
  the dump are printed in each case. The dump, and the
  result that is logged after a program has halted, may hold
  an integer with too many digits; that failure is not
  caught, and escapes.

  Key definitions include:
    * `CommandLine.Ending`
    * `CommandLine.Report`
    * `CommandLine.Options.threshold`
    * `Failure.exitCode`
    * `CommandLine.Report.ofFailure`
    * `CommandLine.Report.ofRun`
-/

------------------------------------------------------------
-- Reports
------------------------------------------------------------

namespace IntcodeMachine

namespace CommandLine

/- What the command line does not catch. -/
inductive Escape where
| failure (e : Failure)
/- A file is not encoded as text. -/
| undecodable (d : Utf8.Defect)
| obstacle (o : Obstacle)
/- A path holds a character that no file name may have. -/
| nulInPath
deriving DecidableEq, Repr

namespace Escape

/- The category under which an escape is reported. -/
def category : Escape → String
| .failure e => e.category
| .undecodable _ => "UnicodeDecodeError"
| .obstacle o => o.category
| .nulInPath => "ValueError"

/- The words for an escape. -/
def message : Escape → String
| .failure e => e.message
| .undecodable d => d.message
| .obstacle o => o.reason
| .nulInPath => "embedded null byte"

end Escape

/- How a use of the command line ends. -/
inductive Ending where
| exit (code : Nat)
| escape (e : Escape)
deriving DecidableEq, Repr

/- What a use of the command line leaves behind. -/
structure Report where
  ending : Ending
  /- What was printed on standard output. -/
  output : String
  /- What was printed on standard error. -/
  errors : String
  log : List Log.Record
deriving DecidableEq, Repr

------------------------------------------------------------
-- Words For A User
------------------------------------------------------------

/- The least level of the messages that a user is shown. -/
def Options.threshold (o : Options) : Log.Level :=
  if o.quiet then .error
  else
    match o.verbosity with
    | 0 => .warning
    | 1 => .info
    | _ => .debug

/- The messages that a user is shown, as text. -/
def Options.shown
    (o : Options)
    (log : List Log.Record) : String :=
  let visible :=
    log.filter fun r => o.threshold.rank ≤ r.level.rank
  Text.joinStrings "" (visible.map Log.Record.line)

end CommandLine

/- The word for the kind of a fault. -/
def Fault.label : Fault → String
| .emptyProgram => "Malformed program"
| .badToken _ _ _ => "Malformed program"
| .unknownOpcode _ _ => "Unknown opcode"
| .unknownMode _ _ _ => "Parameter mode"
| .outOfBounds _ _ => "Address"
| .immediateTarget _ _ => "Write target"
| .inputExhausted _ => "Input"

/- The exit code for a failure. -/
def Failure.exitCode : Failure → Nat
| .fault _ => 1
| _ => 2

namespace CommandLine

/- The words for a failure that is no fault. -/
def internalWords
    (o : Options)
    (e : Failure) : String :=
  "Internal error: " ++ e.message ++ "\n" ++
    if o.verbosity = 0 then ""
    else
      "<traceback>\n" ++ e.category ++ ": " ++ e.message ++
        "\n"

/- The words for a failure. -/
def failureWords
    (o : Options) :
    Failure → String
| .fault f => f.label ++ " error: " ++ f.message ++ "\n"
| e => internalWords o e

/- The trace of a machine, if the options ask for it. -/
def traceWords
    (o : Options)
    (m : Machine) : String :=
  if o.trace then m.traceText ++ "\n" else ""

/- The dump of a tape, if the options ask for it. -/
def dumpWords
    (o : Options)
    (t : Tape) : Except Failure String :=
  if o.dump then
    match t.dump 0 none 8 with
    | .error e => .error e
    | .ok text => .ok (text ++ "\n")
  else .ok ""

------------------------------------------------------------
-- Reports Of Runs
------------------------------------------------------------

namespace Report

/- The report that a path of a program cannot be read. -/
def ofObstacle
    (o : Options)
    (obstacle : Obstacle) : Report where
  ending := .exit 1
  output := ""
  errors :=
    "Error reading " ++ o.program ++ ": " ++
      obstacle.message (Path.ofText o.program) ++ "\n"
  log := []

/- The report of what escapes before a program is loaded. -/
def ofEscape (e : Escape) : Report where
  ending := .escape e
  output := ""
  errors := ""
  log := []

/- The report of a program that cannot be loaded. -/
def ofFailure
    (o : Options)
    (h : Host)
    (e : Failure) : Report where
  ending := .exit e.exitCode
  output := h.screen
  errors := o.shown h.log ++ failureWords o e
  log := h.log

/- The report with more messages in its log. -/
def noteAll
    (o : Options)
    (r : Report)
    (log : List Log.Record) : Report :=
  { r with
    errors := r.errors ++ o.shown log
    log := r.log ++ log }

/- The message that scripted integers were not taken. -/
def leftover (count : Nat) : List Log.Record :=
  if count = 0 then []
  else
    [⟨.warning, .commandLine,
      Numeral.renderNat count ++
        " scripted input value(s) not consumed"⟩]

/- How many scripted integers a run has left. -/
def unread
    (o : Options)
    (h : Host) : Nat :=
  match o.inputs with
  | none => 0
  | some _ => (h.script 0).remaining.length

/- The message that gives the result of a machine. -/
def resultNote
    (m : Machine) : Except Failure Log.Record :=
  match m.result with
  | .error e => .error e
  | .ok n =>
      match Numeral.written n with
      | .error e => .error e
      | .ok numeral =>
          .ok ⟨.info, .commandLine, "Result: " ++ numeral⟩

/- Close the report of a program that ran to its end. -/
def close
    (o : Options)
    (rig : Rig)
    (r : Report) : Report :=
  let r' := r.noteAll o (leftover (unread o rig.host))
  match resultNote rig.machine with
  | .error e => { r' with ending := .escape (.failure e) }
  | .ok note => r'.noteAll o [note]

/- The report of a run before the dump is printed. -/
def ofOutcome
    (o : Options)
    (outcome : Except Failure Unit)
    (rig : Rig) : Report where
  ending :=
    match outcome with
    | .error e => .exit e.exitCode
    | .ok _ => .exit 0
  output := rig.host.screen
  errors :=
    let words :=
      match outcome with
      | .error e => failureWords o e
      | .ok _ => ""
    o.shown rig.host.log ++ words ++
      traceWords o rig.machine
  log := rig.host.log

/- The report of a run. -/
def ofRun
    (o : Options)
    (outcome : Except Failure Unit)
    (rig : Rig) : Report :=
  let r := ofOutcome o outcome rig
  match dumpWords o rig.machine.tape with
  | .error e => { r with ending := .escape (.failure e) }
  | .ok text =>
      let r' := { r with output := r.output ++ text }
      match outcome with
      | .error _ => r'
      | .ok _ => close o rig r'

end Report

end CommandLine

end IntcodeMachine
