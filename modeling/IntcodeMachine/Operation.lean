import IntcodeMachine.Action

/-
  This file defines operations: a name, a number of
  parameters, and the action that is run on them.

  An operation has three parameters at most. Executing it
  turns its reply into a signal: no reply advances past the
  instruction, and a reply that is no signal is refused.

  Key definitions include:
    * `Operation`
    * `Operation.declare`
    * `Operation.execute`
-/

------------------------------------------------------------
-- Operations
------------------------------------------------------------

namespace IntcodeMachine

/- The most parameters that an operation may have. -/
def maxArity : Nat := 3

/- What the machine does for one opcode. -/
structure Operation where
  name : String
  arity : Nat
  action : Action
  arity_le : arity ≤ maxArity := by decide

namespace Operation

/- The operation of a given name and arity, if allowed. -/
def declare
    (name : String)
    (arity : Int)
    (action : Action) : Except Failure Operation :=
  if h : 0 ≤ arity ∧ arity ≤ maxArity then
    .ok ⟨name, arity.toNat, action, by omega⟩
  else if Numeral.Writable arity then
    .error (.arityRange name arity)
  else .error .unwritable

------------------------------------------------------------
-- Executing Operations
------------------------------------------------------------

/- The signal that a reply makes for an instruction. -/
def signalOf
    (name : String)
    (i : Instruction) :
    Reply → Except Failure Signal
| .nothing => .ok (.advance i.length)
| .signal s => .ok s
| .other v =>
    match v.written with
    | .error e => .error e
    | .ok answer => .error (.notASignal name answer)

/- Run the operation's action on its parameters. -/
def execute
    (o : Operation)
    (site : Action.Site)
    (b : Action.Bench) :
    Except Failure Signal × Action.Bench :=
  if site.parameters.length = o.arity then
    match o.action.run site b with
    | (.error e, b') => (.error e, b')
    | (.ok r, b') => (signalOf o.name site.instruction r, b')
  else
    (.error
      (.parameterCount o.name o.arity
        site.parameters.length), b)

end Operation

end IntcodeMachine
