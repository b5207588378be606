import IntcodeMachine.Failure

/-
  This file defines the control signals, by which an
  operation says where the machine goes next, and the
  replies that an operation may give in place of one.

  Key definitions include:
    * `Signal`
    * `Signal.written`
    * `Reply`
-/

------------------------------------------------------------
-- Signals
------------------------------------------------------------

namespace IntcodeMachine

/- What the machine shall do after an operation. -/
inductive Signal where
/- Move the counter on by so many words. -/
| advance (length : Int)
/- Set the counter to an address. -/
| jump (address : Int)
/- Stop for good. -/
| halt
/- Pause, and retry the same instruction later. -/
| suspend
/- A signal that the machine does not know. -/
| unknown
deriving DecidableEq, Repr

namespace Signal

/- A signal as it is shown in a trace. -/
def render : Signal → String
| .advance length =>
    "Advance(length=" ++ Numeral.render length ++ ")"
| .jump address =>
    "Jump(address=" ++ Numeral.render address ++ ")"
| .halt => "Halt()"
| .suspend => "Suspend()"
| .unknown => "UnknownSignal()"

/- The integers that a signal shows. -/
def shown : Signal → List Int
| .advance length => [length]
| .jump address => [address]
| _ => []

end Signal

------------------------------------------------------------
-- Replies
------------------------------------------------------------

/- What an operation answers with. -/
inductive Reply where
/- Nothing, which stands for advancing. -/
| nothing
| signal (s : Signal)
/- A value that is no signal. -/
| other (v : Value)

/- The reply that a value from the host makes. -/
def Reply.ofValue : Value → Reply
| .none => .nothing
| v => .other v

end IntcodeMachine
