import IntcodeMachine.Instruction
import IntcodeMachine.Signal
import IntcodeMachine.Text.Lines

/-
  This file defines the lines of a trace, one for each
  instruction that was executed.

  A line shows the counter in five columns, the name of the
  operation in five, its parameters in twenty-four, and the
  signal that it gave.

  Key definitions include:
    * `Trace.Line`
    * `Trace.Line.Writable`
    * `Trace.Line.render`
    * `Trace.render`
-/

------------------------------------------------------------
-- Lines
------------------------------------------------------------

namespace IntcodeMachine

namespace Trace

/- One executed instruction. -/
structure Line where
  counter : Int
  name : String
  parameters : List Parameter
  signal : Signal
deriving DecidableEq, Repr

namespace Line

/- The integers that a line shows. -/
def shown (l : Line) : List Int :=
  l.counter ::
    (l.parameters.map Parameter.raw ++ l.signal.shown)

/- Every integer of the line can be written. -/
def Writable (l : Line) : Prop :=
  Numeral.AllWritable l.shown

instance (l : Line) : Decidable l.Writable := by
  unfold Writable
  infer_instance

/- The parameters of a line, with blanks between. -/
def renderParameters (l : Line) : List Char :=
  Text.join [' ']
    (l.parameters.map fun p => p.render.toList)

/- A line as text. -/
def render (l : Line) : String :=
  String.ofList
    (Text.padStart 5 (Numeral.chars l.counter) ++
      ':' :: ' ' :: Text.padEnd 5 l.name.toList ++
      ' ' :: Text.padEnd 24 l.renderParameters ++
      ' ' :: '-' :: '>' :: ' ' :: l.signal.render.toList)

end Line

/- A trace as text. -/
def render (ls : List Line) : String :=
  Text.joinStrings "\n" (ls.map Line.render)

end Trace

end IntcodeMachine
