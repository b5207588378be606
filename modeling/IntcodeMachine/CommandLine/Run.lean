import IntcodeMachine.CommandLine.Files
import IntcodeMachine.CommandLine.Report

/-
  This file defines a use of the command line: what happens
  from its words to the report.

  The words are read first. Then the log file is made, with
  the directories above it; then the program is read and
  run, and last its messages are added to the log file.

  Key definitions include:
    * `CommandLine.programText`
    * `CommandLine.start`
    * `CommandLine.execute`
    * `CommandLine.Outcome`
    * `CommandLine.run`
-/

------------------------------------------------------------
-- The Program
------------------------------------------------------------

namespace IntcodeMachine

namespace CommandLine

/- The text of an encoded program. -/
def decodeText
    (octets : List UInt8) : Except Escape String :=
  match Utf8.decode octets with
  | .error d => .error (.undecodable d)
  | .ok text => .ok (String.ofList (Text.unifyLineEnds text))

/- The text of the program, with a way to read its file. -/
def programText
    (o : Options)
    (read : Path → Except Obstacle (List UInt8)) :
    Except Escape String :=
  if o.isText then .ok o.program
  else if (Path.ofText o.program).hasNul then
    .error .nulInPath
  else
    match read (Path.ofText o.program) with
    | .error obstacle => .error (.obstacle obstacle)
    | .ok octets => decodeText octets

/- The report that there is no text of the program. -/
def reportUnread
    (o : Options) :
    Escape → Report
| .obstacle obstacle => .ofObstacle o obstacle
| e => .ofEscape e

------------------------------------------------------------
-- Running The Program
------------------------------------------------------------

/- The operation that takes the scripted integers. -/
def scriptedInput : Operation :=
  .input (.script 0) Operation.inputName

/- The table that the options ask for. -/
def table (o : Options) : Table :=
  match o.inputs with
  | none => Table.onConsole
  | some _ =>
      Table.onConsole.set Table.inputOpcode scriptedInput

/- The host that the options ask for. -/
def host
    (o : Options)
    (keyboard : List String) : Host :=
  match o.inputs with
  | none => Host.fresh keyboard
  | some values =>
      ((Host.fresh keyboard).addScript
          (Script.fresh values)).2.noteAll
        (Table.onConsole.overrideNotes Table.inputOpcode
          scriptedInput)

/- The message that a program is loaded. -/
def loadNote (m : Machine) : Log.Record :=
  ⟨.info, .commandLine,
    "Loaded " ++ Numeral.renderNat m.tape.size ++ " words"⟩

/- A machine with its program, ready to run. -/
def start
    (o : Options)
    (text : String)
    (keyboard : List String) : Except Failure Rig :=
  match Machine.load (.text text) o.delimiter (table o) with
  | .error e => .error e
  | .ok m =>
      .ok
        ⟨{ m with tracing := o.trace },
          (host o keyboard).note (loadNote m)⟩

/-
  Load and run a program, within a budget of instructions.
-/
def execute
    (budget : Nat)
    (o : Options)
    (text : String)
    (keyboard : List String) : Option Report :=
  match start o text keyboard with
  | .error e => some (.ofFailure o (host o keyboard) e)
  | .ok r =>
      match r.run budget with
      | none => none
      | some (outcome, r') => some (.ofRun o outcome r')

------------------------------------------------------------
-- The Log File
------------------------------------------------------------

/- The path of the log file, if there is one. -/
def logPath? (o : Options) : Option Path :=
  match o.logFile with
  | none => none
  | some name =>
      if name = "" then none else some (Path.ofText name)

/- Make the log file and the directories above it. -/
def openLog
    (t : Files)
    (p : Path) : Except Escape Files :=
  if p.parent.hasNul then .error .nulInPath
  else
    match t.makeDirectories p.parent with
    | .error obstacle => .error (.obstacle obstacle)
    | .ok t' =>
        if p.hasNul then .error .nulInPath
        else
          match t'.append p [] with
          | .error obstacle => .error (.obstacle obstacle)
          | .ok t'' => .ok t''

/- The text of messages in a log file. -/
def logText (log : List Log.Record) : String :=
  Text.joinStrings "" (log.map Log.Record.entry)

/- Add messages to the log file, if there is one. -/
def writeLog
    (o : Options)
    (t : Files)
    (log : List Log.Record) : Files :=
  match logPath? o with
  | none => t
  | some p =>
      match t.append p (logText log).toUTF8.toList with
      | .error _ => t
      | .ok t' => t'

/- The files at the start of the program. -/
def prepareLog
    (o : Options)
    (t : Files) : Except Escape Files :=
  match logPath? o with
  | none => .ok t
  | some p => openLog t p

------------------------------------------------------------
-- Uses Of The Command Line
------------------------------------------------------------

/- What comes of a use of the command line. -/
inductive Outcome where
| refused (r : Refusal)
| reported (r : Report)
deriving DecidableEq, Repr

/- Obey options, and leave the files as they become. -/
def obey
    (budget : Nat)
    (o : Options)
    (t : Files)
    (keyboard : List String) : Option (Report × Files) :=
  match prepareLog o t with
  | .error e => some (.ofEscape e, t)
  | .ok t' =>
      match programText o t'.read with
      | .error e => some (reportUnread o e, t')
      | .ok text =>
          (execute budget o text keyboard).map fun r =>
            (r, writeLog o t' r.log)

/-
  Use the command line with some words, on some files and
  with lines on standard input. There is no answer if the
  budget of instructions does not suffice.
-/
def run
    (budget : Nat)
    (words : List String)
    (t : Files)
    (keyboard : List String) : Option (Outcome × Files) :=
  match Options.read words with
  | .error refusal => some (.refused refusal, t)
  | .ok o =>
      (obey budget o t keyboard).map fun (r, t') =>
        (.reported r, t')

end CommandLine

end IntcodeMachine
