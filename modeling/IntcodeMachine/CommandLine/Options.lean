import IntcodeMachine.CommandLine.Word
import IntcodeMachine.Numeral.Reader
import IntcodeMachine.Tape.Program

/-
  This file defines the options of the command line, and how
  they are read from its words.

  Short switches may be joined, and the last may have its
  value joined to it. One plain word is the program. Any
  other, and any unknown switch, is a mistake; it is
  reported after all words were read, so that a request for
  the version comes first.

  Key definitions include:
    * `CommandLine.Options`
    * `CommandLine.Use.expand`
    * `CommandLine.Draft.read`
    * `CommandLine.Options.read`
-/

------------------------------------------------------------
-- Options
------------------------------------------------------------

namespace IntcodeMachine

namespace CommandLine

/- What the words of the command line ask for. -/
structure Options where
  /- A path, or the text of a program. -/
  program : String
  /- The program is given as text. -/
  isText : Bool
  inputs : Option (List Int)
  delimiter : String
  trace : Bool
  dump : Bool
  verbosity : Nat
  quiet : Bool
  logFile : Option String
deriving DecidableEq, Repr

------------------------------------------------------------
-- Uses Of Switches
------------------------------------------------------------

/- One switch in use. -/
inductive Use where
| flag (s : Switch)
| valued (s : Switch) (value : List Char)
/- A switch whose value is the next word. -/
| awaiting (s : Switch)
/- A letter that is no switch. -/
| unknown
deriving DecidableEq, Repr

namespace Use

/- The use of a switch whose value is given. -/
def withValue
    (s : Switch)
    (value : List Char) : Except Refusal (List Use) :=
  if s.takesValue then .ok [.valued s value]
  else .error .usage

/- The uses of a switch with letters joined to it. -/
def expandJoined :
    Switch → List Char → Except Refusal (List Use)
| s, [] =>
    if s.takesValue then .ok [.awaiting s]
    else .ok [.flag s]
| s, c :: rest =>
    if s.takesValue then .ok [.valued s (c :: rest)]
    else if c = '-' then .error .usage
    else
      match Switch.ofLetter? c, rest with
      | none, _ => .ok [.flag s, .unknown]
      | some next, '=' :: value =>
          match withValue next value with
          | .error r => .error r
          | .ok us => .ok (.flag s :: us)
      | some next, _ =>
          match expandJoined next rest with
          | .error r => .error r
          | .ok us => .ok (.flag s :: us)

/- The uses of a switch in one word. -/
def expand
    (s : Switch) :
    Attachment → Except Refusal (List Use)
| .nothing => expandJoined s []
| .assigned value => withValue s value
| .joined value => expandJoined s value

end Use

------------------------------------------------------------
-- Reading
------------------------------------------------------------

/- The options read so far. -/
structure Draft where
  program : Option String
  /- A word was met that has no place. -/
  misplaced : Bool
  isText : Bool
  inputs : Option (List Int)
  delimiter : String
  trace : Bool
  dump : Bool
  verbosity : Nat
  quiet : Bool
  logFile : Option String

namespace Draft

/- The options before any word is read. -/
def fresh : Draft where
  program := none
  misplaced := false
  isText := false
  inputs := none
  delimiter := Tape.standardDelimiter
  trace := false
  dump := false
  verbosity := 0
  quiet := false
  logFile := none

/- Obey a switch without a value. -/
def raise
    (d : Draft) :
    Switch → Except Refusal Draft
| .help => .error .help
| .version => .error .version
| .text => .ok { d with isText := true }
| .trace => .ok { d with trace := true }
| .dump => .ok { d with dump := true }
| .verbose =>
    .ok { d with verbosity := d.verbosity + 1 }
| .quiet => .ok { d with quiet := true }
| _ => .error .usage

/- Obey a switch with a value. -/
def assign
    (d : Draft)
    (value : List Char) :
    Switch → Except Refusal Draft
| .input =>
    match Numeral.readTyped value with
    | .error _ => .error .usage
    | .ok n =>
        .ok { d with inputs := some (d.inputs.getD [] ++ [n]) }
| .delimiter =>
    if value.length = 1 then
      .ok { d with delimiter := String.ofList value }
    else .error .usage
| .logFile =>
    .ok { d with logFile := some (String.ofList value) }
| _ => .error .usage

/- Obey the uses of switches in one word. -/
def obey :
    Draft → List Use → Except Refusal Draft
| d, [] => .ok d
| d, .flag s :: rest =>
    match d.raise s with
    | .error r => .error r
    | .ok d' => obey d' rest
| d, .valued s value :: rest =>
    match d.assign value s with
    | .error r => .error r
    | .ok d' => obey d' rest
| d, .unknown :: rest => obey { d with misplaced := true } rest
| _, .awaiting _ :: _ => .error .usage

/- Uses with the next word as the value of the last. -/
def complete
    (us : List Use)
    (value : String) : List Use :=
  us.map fun
  | .awaiting s => .valued s value.toList
  | u => u

/- The last use needs the next word. -/
def isOpen (us : List Use) : Bool :=
  us.any fun
  | .awaiting _ => true
  | _ => false

/- Take a plain word. -/
def place
    (d : Draft)
    (word : String) : Draft :=
  match d.program with
  | none => { d with program := some word }
  | some _ => { d with misplaced := true }

/-
  Read words. A double dash is allowed right before the
  program or right behind it.
-/
def read : Draft → List Word → Except Refusal Draft
| d, [] => .ok d
| d, .unknown :: rest => read { d with misplaced := true } rest
| d, .plain word :: .divider :: rest =>
    let d' := d.place word
    if d.program.isNone then read d' rest
    else read { d' with misplaced := true } rest
| d, .plain word :: rest => read (d.place word) rest
| d, .divider :: .plain word :: rest =>
    if d.program.isNone then read (d.place word) rest
    else read { d with misplaced := true } rest
| d, .divider :: rest => read { d with misplaced := true } rest
| d, .switch s a :: .plain word :: rest =>
    match Use.expand s a with
    | .error r => .error r
    | .ok us =>
        if isOpen us then
          match d.obey (complete us word) with
          | .error r => .error r
          | .ok d' => read d' rest
        else
          match d.obey us with
          | .error r => .error r
          | .ok d' => read d' (.plain word :: rest)
| d, .switch s a :: rest =>
    match Use.expand s a with
    | .error r => .error r
    | .ok us =>
        match d.obey us with
        | .error r => .error r
        | .ok d' => read d' rest
termination_by _ ws => ws.length

/- The options of a draft, if it is complete. -/
def finish (d : Draft) : Except Refusal Options :=
  match d.program with
  | none => .error .usage
  | some program =>
      if d.misplaced then .error .usage
      else
        .ok
          { program := program
            isText := d.isText
            inputs := d.inputs
            delimiter := d.delimiter
            trace := d.trace
            dump := d.dump
            verbosity := d.verbosity
            quiet := d.quiet
            logFile := d.logFile }

end Draft

/- The options that words ask for. -/
def Options.read
    (words : List String) : Except Refusal Options :=
  match Word.classifyAll words with
  | .error r => .error r
  | .ok ws =>
      match Draft.fresh.read ws with
      | .error r => .error r
      | .ok d => d.finish

end CommandLine

end IntcodeMachine
