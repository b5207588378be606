import IntcodeMachine.Operation

/-
  This file defines routines, actions of the host that tell
  how they want to be called, and how they become
  operations.

  The first parameter of a routine is the context, the rest
  are operands. Parameters with a default are left out of
  account. All others must be passed by position.

  Key definitions include:
    * `Routine`
    * `Operation.ofRoutine`
-/

------------------------------------------------------------
-- Routines
------------------------------------------------------------

namespace IntcodeMachine

namespace Routine

/- How a parameter of a routine is passed. -/
inductive Passing where
/- By position or by name. -/
| free
/- By position only. -/
| positional
/- By name only. -/
| named
/- Any number of them by position. -/
| variadic
/- Any number of them by name. -/
| keywords
/- By position, but it has a default. -/
| optional
/- By name, but it has a default. -/
| namedOptional
deriving DecidableEq, Repr

/- A parameter that the caller must provide for. -/
def Passing.isRequired (p : Passing) : Bool :=
  p ≠ .optional && p ≠ .namedOptional

/- A parameter that can be passed by position, once. -/
def Passing.isFixed (p : Passing) : Bool :=
  p = .free || p = .positional

end Routine

/- An action of the host, with what it says about itself. -/
structure Routine where
  name : Option String
  signature : List Routine.Passing
  action : Action

namespace Routine

/- A routine as it is shown in faults. -/
def render (r : Routine) : String :=
  "<handler " ++ r.name.getD "None" ++ ">"

/- The parameters that a caller must provide for. -/
def required (r : Routine) : List Passing :=
  r.signature.filter Passing.isRequired

end Routine

------------------------------------------------------------
-- Routines As Operations
------------------------------------------------------------

namespace Operation

/- The name of an operation made from a routine. -/
def routineName
    (given : Option String)
    (r : Routine) : String :=
  match given with
  | none => r.name.getD "custom"
  | some name =>
      if name.isEmpty then r.name.getD "custom" else name

/- The operation that calls a routine. -/
def ofRoutine
    (r : Routine)
    (given : Option String) : Except Failure Operation :=
  if r.required.all Routine.Passing.isFixed then
    match r.required with
    | [] => .error (.noContext r.render)
    | _ :: operands =>
        declare (routineName given r) operands.length
          r.action
  else .error (.openParameters r.render)

end Operation

end IntcodeMachine
