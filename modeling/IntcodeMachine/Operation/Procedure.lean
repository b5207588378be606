import IntcodeMachine.Action

/-
  This file defines procedures, a small language in which
  the actions of a host's own operations can be written
  down as data.

  A procedure is a list of statements and an answer. An
  expression is evaluated from left to right, each part when
  it is reached, so that a failure keeps the effects of the
  statements before it.

  Key definitions include:
    * `Procedure.Expr`
    * `Procedure.Statement`
    * `Procedure.Answer`
    * `Procedure.action`
-/

------------------------------------------------------------
-- Procedures
------------------------------------------------------------

namespace IntcodeMachine

namespace Procedure

/- A function of two integers. -/
inductive Binary where
| add
| subtract
| multiply
| lessThan
deriving DecidableEq, Repr

/- The value of a function; a truth value is one or zero. -/
def Binary.apply : Binary → Int → Int → Int
| .add, a, b => a + b
| .subtract, a, b => a - b
| .multiply, a, b => a * b
| .lessThan, a, b => if a < b then 1 else 0

/- An expression over the parameters. -/
inductive Expr where
| literal (n : Int)
/- The address of the instruction. -/
| counter
/- The operand of a parameter. -/
| value (slot : Nat)
/- The word of a parameter. -/
| raw (slot : Nat)
/- One for an immediate parameter, zero for another. -/
| immediate (slot : Nat)
| binary (f : Binary) (a b : Expr)
deriving DecidableEq, Repr

/- One statement. -/
inductive Statement where
| write (slot : Nat) (e : Expr)
| emit (sink : Sink) (e : Expr)
/- Fail with a text. -/
| fail (text : String)
/- Suspend, up to so many calls of the procedure. -/
| pause (calls : Nat)
deriving DecidableEq, Repr

/- What a procedure answers with. -/
inductive Answer where
| reply (r : Reply)
/- Jump to an address. -/
| jump (e : Expr)
/- Move on by a number of words. -/
| advance (e : Expr)
/- The first answer if the expression is not zero. -/
| choose (e : Expr) (yes no : Answer)

end Procedure

/- Statements and an answer. -/
structure Procedure where
  statements : List Procedure.Statement
  answer : Procedure.Answer

namespace Procedure

------------------------------------------------------------
-- Actions Of Procedures
------------------------------------------------------------

/- Evaluate an expression, and go on with its value. -/
def Expr.evaluate :
    Expr → (Int → Action) → Action
| .literal n, next => next n
| .counter, next => .counter next
| .value slot, next => .valueOf slot next
| .raw slot, next => .parameter slot fun p => next p.raw
| .immediate slot, next =>
    .parameter slot fun p => next p.mode.digit
| .binary f a b, next =>
    a.evaluate fun m => b.evaluate fun n => next (f.apply m n)

/- Give an answer. -/
def Answer.action : Answer → Action
| .reply r => .reply r
| .jump e => e.evaluate fun n => .signal (.jump n)
| .advance e => e.evaluate fun n => .signal (.advance n)
| .choose e yes no =>
    e.evaluate fun n =>
      if n ≠ 0 then yes.action else no.action

/- Run a statement in a given call, and go on. -/
def Statement.action
    (call : Int)
    (next : Action) :
    Statement → Action
| .write slot e =>
    e.evaluate fun n => .writeTo slot n next
| .emit sink e => e.evaluate fun n => .emitTo sink n next
| .fail text => .refuse (.refused text)
| .pause calls =>
    if call ≤ calls then .signal .suspend else next

/-
  The action of a procedure. Its calls are counted by a
  tally of the host.
-/
def action
    (p : Procedure)
    (tally : Nat) : Action :=
  .tick tally fun call =>
    p.statements.foldr
      (fun s next => s.action call next) p.answer.action

end Procedure

end IntcodeMachine
