import IntcodeMachine.Numeral
import IntcodeMachine.Text.Quoted

/-
  This file defines the faults of the machine: what can be
  wrong with a program, with its use of the tape or with
  its input.

  A fault names its cause and, where there is one, the
  address it belongs to. The words of a fault are fixed by
  its cause.

  Key definitions include:
    * `TokenDefect`
    * `Fault`
    * `Fault.address?`
    * `Fault.message`
    * `Fault.Writable`
-/

------------------------------------------------------------
-- Faults
------------------------------------------------------------

namespace IntcodeMachine

/- What is wrong with one token of a program. -/
inductive TokenDefect where
/- The token is not an optional sign and digits. -/
| notDecimal
/- The token has more digits than can be read. -/
| tooLong (count : Nat)
/- The item of a program list is no integer. -/
| notAnInteger
deriving DecidableEq, Repr

/- What can go wrong in the machine. -/
inductive Fault where
/- No operation is registered for the opcode. -/
| unknownOpcode (opcode : Int) (address : Option Int)
/- A mode digit is neither position nor immediate. -/
| unknownMode
    (digit : Nat) (position : Int) (address : Option Int)
/- An address lies outside a tape of the given size. -/
| outOfBounds (address : Int) (size : Nat)
/- An operation writes through an immediate parameter. -/
| immediateTarget (position : Nat) (address : Int)
/- The program text is blank. -/
| emptyProgram
/- A token of the program holds no integer. -/
| badToken
    (index : Nat) (token : String) (defect : TokenDefect)
/- A scripted input has no value left. -/
| inputExhausted (consumed : Nat)
deriving DecidableEq, Repr

/- The refusal to read a numeral of that many digits. -/
def overlongMessage (count : Nat) : String :=
  "Exceeds the limit (4300 digits) for integer string " ++
    "conversion: value has " ++ Numeral.renderNat count ++
    " digits; use sys.set_int_max_str_digits() to " ++
    "increase the limit"

/- The words for a defect of a token. -/
def TokenDefect.message : TokenDefect → String
| .notDecimal => "not a base-10 integer"
| .tooLong count => overlongMessage count
| .notAnInteger => "expected an integer"

namespace Fault

/- The address a fault belongs to. -/
def address? : Fault → Option Int
| .unknownOpcode _ address => address
| .unknownMode _ _ address => address
| .outOfBounds address _ => some address
| .immediateTarget _ address => some address
| .emptyProgram => none
| .badToken _ _ _ => none
| .inputExhausted _ => none

/- The words for a fault's cause, without its address. -/
def reason : Fault → String
| .unknownOpcode opcode _ =>
    "Unknown opcode: " ++ Numeral.render opcode
| .unknownMode digit position _ =>
    "Unknown parameter mode " ++ Numeral.renderNat digit ++
      " for parameter " ++ Numeral.render position
| .outOfBounds _ size =>
    "Address out of bounds (tape size " ++
      Numeral.renderNat size ++ ")"
| .immediateTarget position _ =>
    "Parameter " ++ Numeral.renderNat position ++
      " is immediate and cannot be written to"
| .emptyProgram => "program is empty"
| .badToken index token defect =>
    "Token " ++ Numeral.renderNat index ++ " (" ++
      Text.quote token ++ "): " ++ defect.message
| .inputExhausted consumed =>
    "Scripted input exhausted after " ++
      Numeral.renderNat consumed ++ " values"

/- The words for a fault, with its address in front. -/
def message (f : Fault) : String :=
  match f.address? with
  | some address =>
      "@" ++ Numeral.render address ++ ": " ++ f.reason
  | none => f.reason

/- The integers from the program that the words show. -/
def shown : Fault → List Int
| .unknownOpcode opcode address =>
    opcode :: address.toList
| .unknownMode _ position address =>
    position :: address.toList
| .outOfBounds address _ => [address]
| .immediateTarget _ address => [address]
| .emptyProgram => []
| .badToken _ _ _ => []
| .inputExhausted _ => []

/- The words of the fault can be written. -/
def Writable (f : Fault) : Prop :=
  Numeral.AllWritable f.shown

instance (f : Fault) : Decidable f.Writable := by
  unfold Writable
  infer_instance

end Fault

end IntcodeMachine
