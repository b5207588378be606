import IntcodeMachine.Fault
import IntcodeMachine.Value

/-
  This file defines the failures of the library: the faults
  of the machine, and misuse of the library by its host.

  A fault whose words would hold an integer of more than
  4300 digits cannot be reported; what is raised in its
  place is the failure to write that integer.

  Key definitions include:
    * `EndOfInput`
    * `Failure`
    * `Failure.category`
    * `Failure.message`
    * `Fault.raised`
    * `Value.written`
    * `Value.toInt`
-/

------------------------------------------------------------
-- Failures
------------------------------------------------------------

namespace IntcodeMachine

/- Which supply of lines ran out. -/
inductive EndOfInput where
| givenLines
| standardInput
deriving DecidableEq, Repr

/- What a call of the library can raise. -/
inductive Failure where
/- A fault of the machine. -/
| fault (f : Fault)
/- An integer has too many digits to be written. -/
| unwritable
/- A text holds no integer. -/
| notANumeral (text : String)
/- A numeral has too many digits to be read. -/
| overlong (count : Nat)
/- A float that is no number has no integer part. -/
| undefinedFloat
/- An infinite float has no integer part. -/
| infiniteFloat
/- Values of this kind stand for no integer. -/
| noInteger (kind : String)
/- A delimiter is not one character. -/
| delimiterLength (delimiter : String)
/- The rows of a dump have width zero. -/
| zeroWidth
/- An operation is declared with too many parameters. -/
| arityRange (name : String) (arity : Int)
/- A handler has a parameter that cannot be an operand. -/
| openParameters (handler : String)
/- A handler does not accept the context. -/
| noContext (handler : String)
/- An operation meets another number of parameters. -/
| parameterCount (name : String) (arity given : Nat)
/- A handler asks for a parameter that it does not have. -/
| noParameter
/- A key of the operation table is no opcode. -/
| opcodeRange (key : String)
/- The entry for an opcode cannot be executed. -/
| notAnOperation (opcode : Nat) (entry : String)
/- An operation answers with something else. -/
| notASignal (name answer : String)
/- The machine does not know the signal. -/
| unknownSignal
/- A handler raises an error of its own. -/
| refused (text : String)
/- A console has no line left to read. -/
| endOfInput (supply : EndOfInput)
deriving DecidableEq, Repr

namespace Failure

/- The category under which a failure is reported. -/
def category : Failure → String
| .fault (.unknownOpcode _ _) => "UnknownOpcodeError"
| .fault (.unknownMode _ _ _) => "UnknownParameterModeError"
| .fault (.outOfBounds _ _) => "OutOfBoundsAddressError"
| .fault (.immediateTarget _ _) => "InvalidWriteTargetError"
| .fault .emptyProgram => "MalformedProgramError"
| .fault (.badToken _ _ _) => "MalformedProgramError"
| .fault (.inputExhausted _) => "InputExhaustedError"
| .noInteger _ => "TypeError"
| .notAnOperation _ _ => "TypeError"
| .notASignal _ _ => "TypeError"
| .unknownSignal => "TypeError"
| .infiniteFloat => "OverflowError"
| .noParameter => "IndexError"
| .refused _ => "RuntimeError"
| .endOfInput _ => "EOFError"
| _ => "ValueError"

/- The words for a failure. -/
def message : Failure → String
| .fault f => f.message
| .unwritable =>
    "Exceeds the limit (4300 digits) for integer string " ++
      "conversion; use sys.set_int_max_str_digits() to " ++
      "increase the limit"
| .notANumeral text =>
    "invalid literal for int() with base 10: " ++
      String.ofList ((Text.quoteChars text.toList).take 200)
| .overlong count => overlongMessage count
| .undefinedFloat => "cannot convert float NaN to integer"
| .infiniteFloat =>
    "cannot convert float infinity to integer"
| .noInteger kind =>
    "int() argument must be a string, a bytes-like object " ++
      "or a real number, not '" ++ kind ++ "'"
| .delimiterLength delimiter =>
    "Delimiter must be a single character, got " ++
      Text.quote delimiter
| .zeroWidth => "range() arg 3 must not be zero"
| .arityRange name arity =>
    name ++ ": arity must be 0-3, got " ++
      Numeral.render arity
| .openParameters handler =>
    "Handler " ++ handler ++
      " must take fixed positional arguments"
| .noContext handler =>
    "Handler " ++ handler ++
      " must accept an execution context"
| .parameterCount name arity given =>
    name ++ " takes " ++ Numeral.renderNat arity ++
      " parameters, got " ++ Numeral.renderNat given
| .noParameter => "tuple index out of range"
| .opcodeRange key =>
    "Opcode must be an integer 0-99, got " ++ key
| .notAnOperation opcode entry =>
    "Opcode " ++ Numeral.renderNat opcode ++
      ": expected an Operation or callable, got " ++ entry
| .notASignal name answer =>
    name ++ " returned " ++ answer ++
      ", expected a ControlSignal"
| .unknownSignal =>
    "Unknown control signal: UnknownSignal()"
| .refused text => text
| .endOfInput .givenLines => "no more lines"
| .endOfInput .standardInput =>
    "EOF when reading a line"

end Failure

------------------------------------------------------------
-- Raising
------------------------------------------------------------

/- What is raised for a fault. -/
def Fault.raised (f : Fault) : Failure :=
  if f.Writable then .fault f else .unwritable

/- The numeral of an integer, if it can be written. -/
def Numeral.written (n : Int) : Except Failure String :=
  if Numeral.Writable n then .ok (Numeral.render n)
  else .error .unwritable

------------------------------------------------------------
-- Values As Text And As Integers
------------------------------------------------------------

namespace Value

/- The written form of a value, if it can be written. -/
def written (v : Value) : Except Failure String :=
  if v.isWritable then .ok v.render
  else .error .unwritable

/- The integer that a text typed by a user stands for. -/
def intOfText (s : String) : Except Failure Int :=
  match Numeral.readTyped s.toList with
  | .ok n => .ok n
  | .error .notANumeral => .error (.notANumeral s)
  | .error (.tooLong count) => .error (.overlong count)

/- The integer that a value stands for. -/
def toInt : Value → Except Failure Int
| .bool true => .ok 1
| .bool false => .ok 0
| .int n => .ok n
| .float x =>
    if x.isNaN then .error .undefinedFloat
    else if x.isInf then .error .infiniteFloat
    else .ok (truncateFloat x)
| .text s => intOfText s
| v => .error (.noInteger v.kind)

end Value

end IntcodeMachine
