import IntcodeMachine.Operation

/-
  This file defines the operations of the machine: its
  arithmetic and comparisons, its jumps and its halt, and
  the operations that exchange integers with channels.

  Operands are read from left to right, and before the
  result is written. A jump that is not taken does not read
  its target.

  Key definitions include:
    * `Operation.add`, `Operation.multiply`
    * `Operation.input`, `Operation.output`
    * `Operation.queuedInput`
    * `Operation.jumpIfNonzero`, `Operation.jumpIfZero`
    * `Operation.lessThan`, `Operation.equals`
    * `Operation.halt`
-/

------------------------------------------------------------
-- Arithmetic And Comparisons
------------------------------------------------------------

namespace IntcodeMachine

namespace Operation

/- Write a function of two operands to a third place. -/
def combine (f : Int → Int → Int) : Action :=
  .valueOf 0 fun a =>
    .valueOf 1 fun b =>
      .writeTo 2 (f a b) .advance

/- The integer that stands for a truth value. -/
def truth (b : Bool) : Int :=
  if b then 1 else 0

/- Add two operands. -/
def add : Operation where
  name := "ADD"
  arity := 3
  action := combine (· + ·)

/- Multiply two operands. -/
def multiply : Operation where
  name := "MUL"
  arity := 3
  action := combine (· * ·)

/- Compare two operands by size. -/
def lessThan : Operation where
  name := "LT"
  arity := 3
  action := combine fun a b => truth (decide (a < b))

/- Compare two operands for equality. -/
def equals : Operation where
  name := "EQ"
  arity := 3
  action := combine fun a b => truth (decide (a = b))

------------------------------------------------------------
-- Jumps And Halt
------------------------------------------------------------

/- Jump to the second operand if the first passes a test. -/
def jumpIf (test : Int → Bool) : Action :=
  .valueOf 0 fun a =>
    if test a then
      .valueOf 1 fun b => .signal (.jump b)
    else .advance

/- Jump if the operand is not zero. -/
def jumpIfNonzero : Operation where
  name := "JNZ"
  arity := 2
  action := jumpIf fun a => decide (a ≠ 0)

/- Jump if the operand is zero. -/
def jumpIfZero : Operation where
  name := "JZ"
  arity := 2
  action := jumpIf fun a => decide (a = 0)

/- Halt the machine. -/
def halt : Operation where
  name := "HALT"
  arity := 0
  action := .signal .halt

------------------------------------------------------------
-- Input And Output
------------------------------------------------------------

/- The name of an input operation, unless another is given. -/
def inputName : String := "IN"

/- The name of an output operation, unless another is given. -/
def outputName : String := "OUT"

/- Take an integer from a source and store it. -/
def input
    (source : Source)
    (name : String) : Operation where
  name := name
  arity := 1
  action :=
    .receiveFrom source fun n => .writeTo 0 n .advance

/- Give the operand to a sink. -/
def output
    (sink : Sink)
    (name : String) : Operation where
  name := name
  arity := 1
  action := .valueOf 0 fun n => .emitTo sink n .advance

/- Store always the same integer. -/
def constantInput (n : Int) : Operation :=
  input (.constant n) inputName

/- The message that a queue is empty. -/
def emptyQueueNote (numeral : String) : Log.Record :=
  ⟨.debug, .operations,
    "@" ++ numeral ++ ": input queue empty, suspending"⟩

/-
  Take an integer from a queue and store it, or suspend the
  machine while the queue is empty.
-/
def queuedInput
    (queue : Nat)
    (name : String) : Operation where
  name := name
  arity := 1
  action :=
    .take queue fun
    | some n => .writeTo 0 n .advance
    | none =>
        .counter fun address =>
          match Numeral.written address with
          | .error e => .refuse e
          | .ok numeral =>
              .note (emptyQueueNote numeral)
                (.signal .suspend)

end Operation

end IntcodeMachine
