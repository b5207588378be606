import IntcodeMachine.CommandLine.Run

/-
  This file defines the program that is run from a shell. It
  reaches the files and the terminal, and leaves all that is
  decided to the definitions of the command line.

  A program that finds no line on standard input is run from
  its start again, once with each further line. A run only
  depends on its lines, so that it prints what it printed
  before, of which only the rest is shown.

  Key definitions include:
    * `Terminal.converse`
    * `Terminal.useOptions`
    * `main`
-/

------------------------------------------------------------
-- Files
------------------------------------------------------------

namespace IntcodeMachine

namespace Terminal

open CommandLine

/- The obstacle that an error of the system stands for. -/
def obstacle? : IO.Error → Option Obstacle
| .noFileOrDirectory _ _ _ => some .notFound
| .permissionDenied _ _ _ => some .notPermitted
| .alreadyExists _ _ _ => some .exists
| .invalidArgument _ _ _ => some .nameTooLong
| .inappropriateType _ code _ =>
    some (if code = 21 then .isDirectory else .notDirectory)
| _ => none

/- Do something, and catch the obstacle that it meets. -/
def attempt
    {A : Type}
    (act : IO A) : IO (Except Obstacle A) := do
  try
    let a ← act
    pure (.ok a)
  catch e =>
    match obstacle? e with
    | some obstacle => pure (.error obstacle)
    | none => throw e

/- Read the octets of a file. -/
def readFile (p : Path) : IO (List UInt8) := do
  let octets ← IO.FS.readBinFile p.render
  pure octets.toList

/- Add a text to a file, which is made if it is missing. -/
def appendFile
    (p : Path)
    (text : String) : IO Unit := do
  let handle ← IO.FS.Handle.mk p.render .append
  handle.write text.toUTF8
  handle.flush

/- Make the log file and the directories above it. -/
def makeLog (p : Path) : IO (Except Escape Unit) := do
  if p.hasNul then pure (.error .nulInPath)
  else
    let made ←
      attempt do
        IO.FS.createDirAll p.parent.render
        appendFile p ""
    match made with
    | .error obstacle => pure (.error (.obstacle obstacle))
    | .ok _ => pure (.ok ())

------------------------------------------------------------
-- The Terminal
------------------------------------------------------------

/- How much of a report was shown already. -/
structure Shown where
  output : Nat
  errors : Nat

/- Print the rest of two texts, and count them as shown. -/
def showRest
    (s : Shown)
    (output errors : String) : IO Shown := do
  IO.print (String.ofList (output.toList.drop s.output))
  (← IO.getStdout).flush
  IO.eprint (String.ofList (errors.toList.drop s.errors))
  pure ⟨output.length, errors.length⟩

/- Read lines until there are none. -/
partial def readLines
    (input : IO.FS.Stream)
    (text : String) : IO String := do
  let line ← input.getLine
  if line.isEmpty then pure text
  else readLines input (text ++ line)

/-
  Read the next line of a terminal, or all lines of another
  input.
-/
def readMore : IO (List String) := do
  let input ← IO.getStdin
  if ← input.isTty then
    let line ← input.getLine
    pure (Text.lines line)
  else
    let text ← readLines input ""
    pure (Text.lines text)

/- More instructions than a run can execute. -/
def budget : Nat := Nat.pow 2 62

/- Run a machine, and read lines as long as it asks. -/
partial def converse
    (o : Options)
    (start : Rig)
    (lines : List String)
    (s : Shown) : IO (Option (Report × Shown)) := do
  let host := { start.host with keyboard := lines }
  match Rig.run budget { start with host := host } with
  | none => pure none
  | some (.error (.endOfInput .standardInput), r) =>
      let s' ← showRest s r.host.screen (o.shown r.host.log)
      let more ← readMore
      if more.isEmpty then
        let outcome :=
          .error (.endOfInput .standardInput)
        pure (some (.ofRun o outcome r, s'))
      else converse o start (lines ++ more) s'
  | some (outcome, r) =>
      pure (some (.ofRun o outcome r, s))

/- The exit code of a report; an escape is named first. -/
def finish (r : Report) : IO UInt32 := do
  match r.ending with
  | .exit code => pure code.toUInt32
  | .escape e =>
      IO.eprintln (e.category ++ ": " ++ e.message)
      pure 1

/- Show a report, and keep its messages in the log file. -/
def conclude
    (o : Options)
    (r : Report)
    (s : Shown) : IO UInt32 := do
  let _ ← showRest s r.output r.errors
  match logPath? o with
  | none => pure ()
  | some p =>
      unless r.log.isEmpty do
        appendFile p (logText r.log)
  finish r

------------------------------------------------------------
-- The Program
------------------------------------------------------------

/- Run the text of a program. -/
def useText
    (o : Options)
    (text : String) : IO UInt32 := do
  match start o text [] with
  | .error e =>
      conclude o (.ofFailure o (host o []) e) ⟨0, 0⟩
  | .ok r =>
      match ← converse o r [] ⟨0, 0⟩ with
      | none => pure 2
      | some (report, s) => conclude o report s

/- Obey the options of the command line. -/
def useOptions (o : Options) : IO UInt32 := do
  let made ←
    match logPath? o with
    | none => pure (.ok ())
    | some p => makeLog p
  match made with
  | .error e => finish (.ofEscape e)
  | .ok _ =>
      let p := Path.ofText o.program
      let contents ←
        if o.isText || p.hasNul then pure (.ok [])
        else attempt (readFile p)
      match programText o fun _ => contents with
      | .error e => conclude o (reportUnread o e) ⟨0, 0⟩
      | .ok text => useText o text

/- How the command line is used. -/
def usage : String :=
  "usage: intcodevm [-h] [--source] [--input VALUE] " ++
    "[--delimiter DELIMITER] [--trace] [--dump] " ++
    "[--verbose] [--quiet] [--log-file LOG_FILE] " ++
    "[--version] program"

/- Answer words that are not obeyed. -/
def refuse (r : Refusal) : IO UInt32 := do
  match r with
  | .usage => IO.eprintln usage
  | .help => IO.println usage
  | .version => IO.print r.output
  pure r.exitCode.toUInt32

end Terminal

end IntcodeMachine

def main (words : List String) : IO UInt32 := do
  match IntcodeMachine.CommandLine.Options.read words with
  | .error r => IntcodeMachine.Terminal.refuse r
  | .ok o => IntcodeMachine.Terminal.useOptions o
