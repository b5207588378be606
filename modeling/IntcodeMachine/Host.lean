import IntcodeMachine.Channel
import IntcodeMachine.Log

/-
  This file defines the host, which keeps the channels, the
  keyboard and screen, the log, and what its own handlers
  remember between their calls.

  Each kind of content is a list, and a slot is a place in
  it. New contents are put at the end, so that slots once
  given out stay valid.

  Key definitions include:
    * `Host`
    * `Host.receive`
    * `Host.emit`
    * `Host.take`
    * `Host.keep`
-/

------------------------------------------------------------
-- Hosts
------------------------------------------------------------

namespace IntcodeMachine

/- Everything outside the machine that it can reach. -/
structure Host where
  scripts : List Script
  collectors : List (List Int)
  queues : List (List Int)
  feeds : List Feed
  sheets : List (List String)
  /- What handlers remember, as integers. -/
  memories : List (List Int)
  /- The lines that are left on standard input. -/
  keyboard : List String
  /- What was printed on standard output. -/
  screen : String
  log : List Log.Record
deriving Repr

namespace Host

/- A host without channels, with lines on its keyboard. -/
def fresh (keyboard : List String) : Host where
  scripts := []
  collectors := []
  queues := []
  feeds := []
  sheets := []
  memories := []
  keyboard := keyboard
  screen := ""
  log := []

------------------------------------------------------------
-- Contents
------------------------------------------------------------

/- The script in a slot. -/
def script
    (h : Host)
    (slot : Nat) : Script :=
  h.scripts.getD slot (Script.fresh [])

/- The integers collected in a slot, the oldest first. -/
def collected
    (h : Host)
    (slot : Nat) : List Int :=
  h.collectors.getD slot []

/- The integers queued in a slot, the oldest first. -/
def queued
    (h : Host)
    (slot : Nat) : List Int :=
  h.queues.getD slot []

/- The lines and prompts of the console in a slot. -/
def feed
    (h : Host)
    (slot : Nat) : Feed :=
  h.feeds.getD slot ⟨[], []⟩

/- The texts printed on the sheet in a slot. -/
def sheet
    (h : Host)
    (slot : Nat) : List String :=
  h.sheets.getD slot []

/- The integers that are remembered in a slot. -/
def memory
    (h : Host)
    (slot : Nat) : List Int :=
  h.memories.getD slot []

/- Add a script; its slot is given with the host. -/
def addScript
    (h : Host)
    (s : Script) : Nat × Host :=
  (h.scripts.length, { h with scripts := h.scripts ++ [s] })

/- Add a collector that holds nothing. -/
def addCollector (h : Host) : Nat × Host :=
  (h.collectors.length,
    { h with collectors := h.collectors ++ [[]] })

/- Add a queue that holds the given integers. -/
def addQueue
    (h : Host)
    (values : List Int) : Nat × Host :=
  (h.queues.length,
    { h with queues := h.queues ++ [values] })

/- Add the lines of a console. -/
def addFeed
    (h : Host)
    (lines : List String) : Nat × Host :=
  (h.feeds.length,
    { h with feeds := h.feeds ++ [⟨lines, []⟩] })

/- Add an empty sheet. -/
def addSheet (h : Host) : Nat × Host :=
  (h.sheets.length, { h with sheets := h.sheets ++ [[]] })

/- Add a tally, the memory of a count, at zero. -/
def addTally (h : Host) : Nat × Host :=
  (h.memories.length,
    { h with memories := h.memories ++ [[0]] })

------------------------------------------------------------
-- The Log And The Screen
------------------------------------------------------------

/- Add a message to the log. -/
def note
    (h : Host)
    (r : Log.Record) : Host :=
  { h with log := h.log ++ [r] }

/- Add messages to the log, in order. -/
def noteAll
    (h : Host)
    (rs : List Log.Record) : Host :=
  { h with log := h.log ++ rs }

/- The host with an empty log. -/
def quiet (h : Host) : Host :=
  { h with log := [] }

/- Print a text on the screen as it is. -/
def print
    (h : Host)
    (text : String) : Host :=
  { h with screen := h.screen ++ text }

/- Print a text and a line feed on the screen. -/
def printLine
    (h : Host)
    (text : String) : Host :=
  h.print (text ++ "\n")

------------------------------------------------------------
-- Taking Integers
------------------------------------------------------------

/- The records of the lines that a console rejected. -/
def rejections
    (r : Console.Reading) : List Log.Record :=
  r.rejected.map fun text =>
    ⟨.warning, .channels, Console.warning text⟩

/- Take the next integer of a script. -/
def receiveScripted
    (h : Host)
    (slot : Nat) : Except Failure Int × Host :=
  let s := h.script slot
  match s.remaining with
  | [] =>
      (.error (Fault.inputExhausted s.consumed).raised, h)
  | n :: rest =>
      (.ok n,
        { h with
          scripts :=
            h.scripts.set slot ⟨rest, s.consumed + 1⟩ })

/- Read an integer from the given lines of a console. -/
def receiveFed
    (h : Host)
    (prompt : String)
    (slot : Nat) : Except Failure Int × Host :=
  let f := h.feed slot
  let r := Console.read f.lines
  let prompts :=
    f.prompts ++ List.replicate r.prompts prompt
  let h' :=
    { h with feeds := h.feeds.set slot ⟨r.rest, prompts⟩ }
  match r.value with
  | some n => (.ok n, h'.noteAll (rejections r))
  | none =>
      (.error (.endOfInput .givenLines),
        h'.noteAll (rejections r))

/- Read an integer from the keyboard. -/
def receiveTyped
    (h : Host)
    (prompt : String) : Except Failure Int × Host :=
  let r := Console.read h.keyboard
  let prompts :=
    Text.joinStrings "" (List.replicate r.prompts prompt)
  let h' := { h.print prompts with keyboard := r.rest }
  match r.value with
  | some n => (.ok n, h'.noteAll (rejections r))
  | none =>
      (.error (.endOfInput .standardInput),
        h'.noteAll (rejections r))

/- Take an integer from a source. -/
def receive
    (h : Host) :
    Source → Except Failure Int × Host
| .script slot => h.receiveScripted slot
| .console prompt (.feed slot) => h.receiveFed prompt slot
| .console prompt .keyboard => h.receiveTyped prompt
| .constant n => (.ok n, h)

/- Take the oldest integer of a queue, if there is one. -/
def take
    (h : Host)
    (slot : Nat) : Option Int × Host :=
  match h.queued slot with
  | [] => (none, h)
  | n :: rest =>
      (some n, { h with queues := h.queues.set slot rest })

------------------------------------------------------------
-- Giving Integers
------------------------------------------------------------

/- Print a text on a display. -/
def display
    (h : Host)
    (text : String) :
    Display → Host
| .sheet slot =>
    { h with
      sheets := h.sheets.set slot (h.sheet slot ++ [text]) }
| .screen => h.printLine text

/- Give an integer to a sink. -/
def emit
    (h : Host)
    (n : Int) :
    Sink → Except Failure Unit × Host
| .collector slot =>
    (.ok (),
      { h with
        collectors :=
          h.collectors.set slot (h.collected slot ++ [n]) })
| .console preface target =>
    match Numeral.written n with
    | .error e => (.error e, h)
    | .ok numeral =>
        (.ok (), h.display (preface ++ numeral) target)

/- Add integers at the end of a queue. -/
def append
    (h : Host)
    (slot : Nat)
    (values : List Int) : Host :=
  { h with
    queues := h.queues.set slot (h.queued slot ++ values) }

/- Move all that a collector holds to the end of a queue. -/
def move
    (h : Host)
    (collector queue : Nat) : Host :=
  let h' := h.append queue (h.collected collector)
  { h' with collectors := h'.collectors.set collector [] }

/- Remember integers in place of those in a slot. -/
def keep
    (h : Host)
    (slot : Nat)
    (ns : List Int) : Host :=
  { h with memories := h.memories.set slot ns }

end Host

end IntcodeMachine
