import IntcodeMachine.Machine.Trace
import IntcodeMachine.Table
import IntcodeMachine.Tape.Program

/-
  This file defines the machine at rest: what it holds, how
  it is loaded, and how the instruction at its counter is
  decoded.

  Key definitions include:
    * `RunState`
    * `Machine`
    * `Program.load`
    * `Machine.fetch`
    * `Machine.decode`
-/

------------------------------------------------------------
-- Machines
------------------------------------------------------------

namespace IntcodeMachine

/- How far a machine has come. -/
inductive RunState where
| uninitialized
| running
| halted
| suspended
deriving DecidableEq, Repr

/- The name of a run state. -/
def RunState.name : RunState → String
| .uninitialized => "uninitialized"
| .running => "running"
| .halted => "halted"
| .suspended => "suspended"

/- The machine no longer runs by itself. -/
def RunState.isStopped (s : RunState) : Bool :=
  s = .halted || s = .suspended

/- A tape, a table, and the progress of a program. -/
structure Machine where
  tape : Tape
  table : Table
  /- The counter, the address of the next instruction. -/
  pointer : Int
  state : RunState
  /- How many instructions were executed. -/
  steps : Nat
  /- Whether a trace is kept. -/
  tracing : Bool
  trace : List Trace.Line

namespace Machine

/- A machine at the start of a program. -/
def fresh
    (tape : Tape)
    (table : Table) : Machine where
  tape := tape
  table := table
  pointer := 0
  state := .uninitialized
  steps := 0
  tracing := false
  trace := []

end Machine

------------------------------------------------------------
-- Loading
------------------------------------------------------------

/- A program as it is handed to a machine. -/
inductive Program where
| text (s : String)
| values (vs : List Value)

/- The tape of a program. Only text has a delimiter. -/
def Program.load
    (delimiter : String) :
    Program → Except Failure Tape
| .text s => Tape.parse s delimiter
| .values vs => Tape.ofValues vs

namespace Machine

/- A machine loaded with a program. -/
def load
    (p : Program)
    (delimiter : String)
    (table : Table) : Except Failure Machine :=
  match p.load delimiter with
  | .error e => .error e
  | .ok tape => .ok (fresh tape table)

------------------------------------------------------------
-- Decoding
------------------------------------------------------------

/- The operation and the instruction at the counter. -/
def fetch
    (m : Machine) :
    Except Failure (Operation × Instruction) :=
  match m.tape.read m.pointer with
  | .error e => .error e
  | .ok word =>
      match opcodeOf word (some m.pointer) with
      | .error e => .error e
      | .ok opcode =>
          match
            m.table.lookup opcode (some m.pointer) with
          | .error e => .error e
          | .ok o =>
              match
                Instruction.decode word m.pointer
                  o.arity with
              | .error e => .error e
              | .ok i => .ok (o, i)

/- The instruction at the counter. -/
def decode
    (m : Machine) : Except Failure Instruction :=
  match m.fetch with
  | .error e => .error e
  | .ok (_, i) => .ok i

/- The parameters of an instruction, read off the tape. -/
def operands
    (m : Machine)
    (i : Instruction) :
    Except Failure (List Parameter) :=
  match m.tape.readAll i.operandAddresses with
  | .error e => .error e
  | .ok raws => .ok (i.bind raws)

------------------------------------------------------------
-- Results
------------------------------------------------------------

/- The integer at address zero. -/
def result (m : Machine) : Except Failure Int :=
  m.tape.read 0

/- The integer in the last cell. -/
def last (m : Machine) : Except Failure Int :=
  m.tape.read ((m.tape.size : Int) - 1)

/- The trace as text. -/
def traceText (m : Machine) : String :=
  Trace.render m.trace

/- A machine as it is shown to a reader. -/
def written (m : Machine) : Except Failure String :=
  match Numeral.written m.pointer with
  | .error e => .error e
  | .ok pointer =>
      .ok
        ("Interpreter(state=" ++ m.state.name ++
          ", pointer=" ++ pointer ++
          ", size=" ++ Numeral.renderNat m.tape.size ++
          ", steps=" ++ Numeral.renderNat m.steps ++ ")")

end Machine

end IntcodeMachine
