import IntcodeMachine.Channel.Console
import IntcodeMachine.Failure

/-
  This file defines the channels, from which operations take
  integers and to which they give them.

  The host keeps the contents of its channels; a channel is
  known by its slot among those of its kind.

  Key definitions include:
    * `Script`
    * `Feed`
    * `Source`
    * `Sink`
-/

------------------------------------------------------------
-- Contents
------------------------------------------------------------

namespace IntcodeMachine

/- A fixed sequence of integers, taken one after another. -/
structure Script where
  remaining : List Int
  consumed : Nat
deriving DecidableEq, Repr

/- A script of which nothing is consumed yet. -/
def Script.fresh (values : List Int) : Script :=
  ⟨values, 0⟩

/- The integers that values of a script stand for. -/
def Script.integers :
    List Value → Except Failure (List Int)
| [] => .ok []
| v :: rest =>
    match v.toInt with
    | .error e => .error e
    | .ok n =>
        match integers rest with
        | .error e => .error e
        | .ok ns => .ok (n :: ns)

/- A script of given values. -/
def Script.ofValues
    (values : List Value) : Except Failure Script :=
  match integers values with
  | .error e => .error e
  | .ok ns => .ok (fresh ns)

/- Lines given to a console, and the prompts it made. -/
structure Feed where
  lines : List String
  prompts : List String
deriving DecidableEq, Repr

------------------------------------------------------------
-- Sources And Sinks
------------------------------------------------------------

/- Where a console reads its lines. -/
inductive Supply where
| feed (slot : Nat)
| keyboard
deriving DecidableEq, Repr

/- Where a console prints. -/
inductive Display where
| sheet (slot : Nat)
| screen
deriving DecidableEq, Repr

/- Where an operation takes integers from. -/
inductive Source where
| script (slot : Nat)
| console (prompt : String) (supply : Supply)
| constant (value : Int)
deriving DecidableEq, Repr

/- The console on the keyboard, with its usual prompt. -/
def Source.standard : Source :=
  .console Console.standardPrompt .keyboard

/- Where an operation gives integers to. -/
inductive Sink where
| collector (slot : Nat)
| console (preface : String) (display : Display)
deriving DecidableEq, Repr

/- The console on the screen, with its usual preface. -/
def Sink.standard : Sink :=
  .console Console.standardPreface .screen

end IntcodeMachine
