import IntcodeMachine.Operation.Routine
import IntcodeMachine.Operation.Standard

/-
  This file defines operation tables, which give each opcode
  its operation.

  A table starts with the nine standard operations. The host
  may override any opcode from 0 to 99 by an operation or by
  a routine; an override that is refused changes nothing.

  Key definitions include:
    * `Table`
    * `Table.standard`
    * `Table.find?`
    * `Table.lookup`
    * `Table.Entry`
    * `Table.override`
-/

------------------------------------------------------------
-- Tables
------------------------------------------------------------

namespace IntcodeMachine

/- A choice of operations for some of the opcodes. -/
structure Table where
  entry : Opcode → Option Operation

namespace Table

/- The table of the standard operations. -/
def standard
    (source : Source)
    (sink : Sink) : Table where
  entry := fun
  | 1 => some .add
  | 2 => some .multiply
  | 3 => some (.input source Operation.inputName)
  | 4 => some (.output sink Operation.outputName)
  | 5 => some .jumpIfNonzero
  | 6 => some .jumpIfZero
  | 7 => some .lessThan
  | 8 => some .equals
  | 99 => some .halt
  | _ => none

/- The standard table on the keyboard and the screen. -/
def onConsole : Table :=
  standard .standard .standard

/- The opcode of input operations. -/
def inputOpcode : Opcode := 3

/- The opcode of output operations. -/
def outputOpcode : Opcode := 4

------------------------------------------------------------
-- Looking Up
------------------------------------------------------------

/- The opcode that an integer is, if it is one. -/
def opcode? (n : Int) : Option Opcode :=
  if 0 ≤ n ∧ n < 100 then some (Fin.ofNat 100 n.toNat)
  else none

/- The operation of an integer taken for an opcode. -/
def find?
    (t : Table)
    (n : Int) : Option Operation :=
  (opcode? n).bind t.entry

/- The operation of an integer, or the fault it makes. -/
def lookup
    (t : Table)
    (n : Int)
    (address : Option Int) : Except Failure Operation :=
  match t.find? n with
  | some o => .ok o
  | none => .error (Fault.unknownOpcode n address).raised

/- The table has an operation for the integer. -/
def contains
    (t : Table)
    (n : Int) : Bool :=
  (t.find? n).isSome

/- The opcodes that have an operation, in order. -/
def opcodes (t : Table) : List Opcode :=
  (List.finRange 100).filter fun k => (t.entry k).isSome

/- The number of opcodes that have an operation. -/
def size (t : Table) : Nat :=
  t.opcodes.length

/- One entry as it is shown to a reader. -/
def renderEntry
    (t : Table)
    (k : Opcode) : String :=
  Numeral.renderNat k ++ ":" ++
    ((t.entry k).map Operation.name).getD ""

/- A table as it is shown to a reader. -/
def render (t : Table) : String :=
  "OperationTable(" ++
    Text.joinStrings ", " (t.opcodes.map t.renderEntry) ++
    ")"

------------------------------------------------------------
-- Overriding
------------------------------------------------------------

/- The table with an operation put under an opcode. -/
def set
    (t : Table)
    (k : Opcode)
    (o : Operation) : Table where
  entry := fun j => if j = k then some o else t.entry j

/- What a host may offer for an opcode. -/
inductive Entry where
| operation (o : Operation)
| routine (r : Routine)
/- Something that cannot be executed. -/
| other (v : Value)

/- The opcode that a value names. -/
def keyOf : Value → Except Failure Opcode
| .int n =>
    match opcode? n with
    | some k => .ok k
    | none =>
        match Numeral.written n with
        | .error e => .error e
        | .ok numeral => .error (.opcodeRange numeral)
| v =>
    match v.written with
    | .error e => .error e
    | .ok key => .error (.opcodeRange key)

/- The name of a routine that is put under an opcode. -/
def entryName (k : Opcode) : String :=
  "OP" ++ Numeral.renderNat k

/- The operation that an entry makes under an opcode. -/
def operationOf
    (k : Opcode) :
    Entry → Except Failure Operation
| .operation o => .ok o
| .routine r => Operation.ofRoutine r (some (entryName k))
| .other v =>
    match v.written with
    | .error e => .error e
    | .ok shown => .error (.notAnOperation k shown)

/- The message that an operation is replaced. -/
def overrideNote
    (k : Opcode)
    (before after : Operation) : Log.Record :=
  ⟨.debug, .operations,
    "Overriding opcode " ++ Numeral.renderNat k ++ ": " ++
      before.name ++ " -> " ++ after.name⟩

/- The messages about an operation put under an opcode. -/
def overrideNotes
    (t : Table)
    (k : Opcode)
    (o : Operation) : List Log.Record :=
  match t.entry k with
  | none => []
  | some before => [overrideNote k before o]

/-
  The table with an entry put under a key, and the messages
  about it.
-/
def override
    (t : Table)
    (key : Value)
    (entry : Entry) :
    Except Failure (Table × List Log.Record) :=
  match keyOf key with
  | .error e => .error e
  | .ok k =>
      match operationOf k entry with
      | .error e => .error e
      | .ok o => .ok (t.set k o, t.overrideNotes k o)

/- Override by several entries in turn. -/
def overrideAll
    (t : Table)
    (h : Host) :
    List (Value × Entry) → Except Failure Table × Host
| [] => (.ok t, h)
| (key, entry) :: rest =>
    match t.override key entry with
    | .error e => (.error e, h)
    | .ok (t', notes) =>
        overrideAll t' (h.noteAll notes) rest

end Table

end IntcodeMachine
