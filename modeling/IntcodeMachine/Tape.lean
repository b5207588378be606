import IntcodeMachine.Failure

/-
  This file defines the tape, the memory of the machine.

  A tape is a list of integers. An address names a cell when
  it is at least zero and below the size of the tape; the
  tape neither wraps nor grows. Reading or writing anywhere
  else raises a fault and leaves the tape as it is.

  Key definitions include:
    * `Tape`
    * `Tape.Contains`
    * `Tape.read`
    * `Tape.write`
    * `Tape.ofValues`
-/

------------------------------------------------------------
-- Tapes
------------------------------------------------------------

namespace IntcodeMachine

/- The memory of the machine. -/
structure Tape where
  cells : List Int
deriving DecidableEq, Repr

namespace Tape

/- The tape without cells. -/
def empty : Tape := ⟨[]⟩

/- The number of cells. -/
def size (t : Tape) : Nat :=
  t.cells.length

/- The address names a cell of the tape. -/
def Contains
    (t : Tape)
    (address : Int) : Prop :=
  0 ≤ address ∧ address < t.size

instance (t : Tape) (address : Int) :
    Decidable (t.Contains address) := by
  unfold Contains
  infer_instance

------------------------------------------------------------
-- Reading And Writing
------------------------------------------------------------

/- What is raised for an address outside the tape. -/
def outOfBounds
    (t : Tape)
    (address : Int) : Failure :=
  (Fault.outOfBounds address t.size).raised

/- The integer at an address. -/
def read
    (t : Tape)
    (address : Int) : Except Failure Int :=
  if t.Contains address then
    .ok (t.cells.getD address.toNat 0)
  else .error (t.outOfBounds address)

/- The integers at several addresses, read in order. -/
def readAll
    (t : Tape) :
    List Int → Except Failure (List Int)
| [] => .ok []
| address :: rest =>
    match t.read address with
    | .error e => .error e
    | .ok word =>
        match readAll t rest with
        | .error e => .error e
        | .ok words => .ok (word :: words)

/- The tape with another integer at an address. -/
def write
    (t : Tape)
    (address : Int)
    (word : Int) : Except Failure Tape :=
  if t.Contains address then
    .ok ⟨t.cells.set address.toNat word⟩
  else .error (t.outOfBounds address)

------------------------------------------------------------
-- Loading Values
------------------------------------------------------------

/- The integer that a value puts into a cell. -/
def cellOfValue
    (index : Nat) :
    Value → Except Failure Int
| .int n => .ok n
| v =>
    match v.written with
    | .error e => .error e
    | .ok token =>
        .error (.fault (.badToken index token .notAnInteger))

/- The integers of values, counted from an index. -/
def cellsOfValues :
    Nat → List Value → Except Failure (List Int)
| _, [] => .ok []
| index, v :: rest =>
    match cellOfValue index v with
    | .error e => .error e
    | .ok n =>
        match cellsOfValues (index + 1) rest with
        | .error e => .error e
        | .ok ns => .ok (n :: ns)

/- The tape with the given values as its cells. -/
def ofValues
    (values : List Value) : Except Failure Tape :=
  match cellsOfValues 0 values with
  | .error e => .error e
  | .ok ns => .ok ⟨ns⟩

------------------------------------------------------------
-- Written Form
------------------------------------------------------------

/- The written form of a tape, for a reader. -/
def written (t : Tape) : Except Failure String :=
  if Numeral.AllWritable t.cells then
    .ok ("Tape([" ++
      Text.joinStrings ", " (t.cells.map Numeral.render) ++
      "])")
  else .error .unwritable

end Tape

end IntcodeMachine
