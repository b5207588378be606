import IntcodeMachine.Host
import IntcodeMachine.Instruction
import IntcodeMachine.Signal
import IntcodeMachine.Tape

/-
  This file defines actions, of which operations are made.

  An action is a tree of requests that ends in a reply or a
  failure. It changes the tape only by writing where a
  parameter points, and the host only by its channels, its
  memories and the log. It may look at all of this, but not
  at the log. No other effect can be expressed.

  Each request is answered, also if it fails, and the action
  goes on as it likes: it may fail in turn, or catch the
  failure. What it did before stays done. Usually an action
  works on its own parameters and fails where a request
  does; there is a short form for such requests.

  Key definitions include:
    * `Action`
    * `Action.Site`
    * `Action.Bench`
    * `Action.run`
    * `Action.valueOf`, `Action.writeTo`
    * `Action.receiveFrom`, `Action.emitTo`
-/

------------------------------------------------------------
-- What Actions Work On
------------------------------------------------------------

namespace IntcodeMachine

namespace Action

/- The instruction an action runs for. -/
structure Site where
  instruction : Instruction
  parameters : List Parameter
deriving DecidableEq, Repr

/- What an action can change. -/
structure Bench where
  tape : Tape
  host : Host

/- What an action can see of it. -/
def Bench.quiet (b : Bench) : Bench :=
  { b with host := b.host.quiet }

/- The bench with another host. -/
def Bench.withHost
    (b : Bench)
    (h : Host) : Bench :=
  { b with host := h }

end Action

------------------------------------------------------------
-- Actions
------------------------------------------------------------

/- What an operation does when it is executed. -/
inductive Action where
/- Answer with a reply. -/
| reply (r : Reply)
/- Fail. -/
| refuse (e : Failure)
/- Ask for the instruction and its parameters. -/
| inspect (next : Action.Site → Action)
/- Look at the tape and the host, but not at the log. -/
| look (next : Action.Bench → Action)
/- Read the operand that a parameter stands for. -/
| value
    (p : Parameter)
    (next : Except Failure Int → Action)
/- Write where a parameter points. -/
| write
    (p : Parameter)
    (word : Int)
    (next : Except Failure Unit → Action)
/- Take an integer from a source. -/
| receive
    (source : Source)
    (next : Except Failure Int → Action)
/- Give an integer to a sink. -/
| emit
    (sink : Sink)
    (word : Int)
    (next : Except Failure Unit → Action)
/- Take an integer from a queue, if it holds one. -/
| take (queue : Nat) (next : Option Int → Action)
/- Remember integers in place of those in a slot. -/
| keep (memory : Nat) (ns : List Int) (next : Action)
/- Add a message to the log. -/
| note (record : Log.Record) (next : Action)

namespace Action

------------------------------------------------------------
-- Parameters On The Tape
------------------------------------------------------------

/- The operand that a parameter stands for. -/
def operand
    (t : Tape)
    (p : Parameter) : Except Failure Int :=
  match p.mode with
  | .immediate => .ok p.raw
  | .position => t.read p.raw

/- The tape with a word where a parameter points. -/
def store
    (site : Site)
    (t : Tape)
    (p : Parameter)
    (word : Int) : Except Failure Tape :=
  match p.mode with
  | .immediate =>
      .error
        (Fault.immediateTarget p.position
          site.instruction.address).raised
  | .position => t.write p.raw word

------------------------------------------------------------
-- Running Actions
------------------------------------------------------------

/- The reply or failure of an action, and its effects. -/
def run
    (site : Site) :
    Action → Bench → Except Failure Reply × Bench
| .reply r, b => (.ok r, b)
| .refuse e, b => (.error e, b)
| .inspect next, b => run site (next site) b
| .look next, b => run site (next b.quiet) b
| .value p next, b => run site (next (operand b.tape p)) b
| .write p word next, b =>
    match store site b.tape p word with
    | .error e => run site (next (.error e)) b
    | .ok t => run site (next (.ok ())) { b with tape := t }
| .receive source next, b =>
    match b.host.receive source with
    | (x, h) => run site (next x) (b.withHost h)
| .emit sink word next, b =>
    match b.host.emit word sink with
    | (x, h) => run site (next x) (b.withHost h)
| .take queue next, b =>
    match b.host.take queue with
    | (n, h) => run site (next n) (b.withHost h)
| .keep memory ns next, b =>
    run site next (b.withHost (b.host.keep memory ns))
| .note record next, b =>
    run site next (b.withHost (b.host.note record))

------------------------------------------------------------
-- Usual Requests
------------------------------------------------------------

/- Advance past the instruction. -/
def advance : Action :=
  .reply .nothing

/- Answer with a signal. -/
def signal (s : Signal) : Action :=
  .reply (.signal s)

/- Go on with the answer to a request, or fail as it did. -/
def orFail
    {α : Type}
    (next : α → Action) : Except Failure α → Action
| .error e => .refuse e
| .ok x => next x

/- Go on with the parameter in a slot. -/
def parameter
    (slot : Nat)
    (next : Parameter → Action) : Action :=
  .inspect fun site =>
    match site.parameters[slot]? with
    | none => .refuse .noParameter
    | some p => next p

/- Go on with the address of the instruction. -/
def counter (next : Int → Action) : Action :=
  .inspect fun site => next site.instruction.address

/- Go on with the operand of the parameter in a slot. -/
def valueOf
    (slot : Nat)
    (next : Int → Action) : Action :=
  parameter slot fun p => .value p (orFail next)

/- Write where the parameter in a slot points, and go on. -/
def writeTo
    (slot : Nat)
    (word : Int)
    (next : Action) : Action :=
  parameter slot fun p => .write p word (orFail fun _ => next)

/- Go on with an integer from a source. -/
def receiveFrom
    (source : Source)
    (next : Int → Action) : Action :=
  .receive source (orFail next)

/- Give an integer to a sink, and go on. -/
def emitTo
    (sink : Sink)
    (word : Int)
    (next : Action) : Action :=
  .emit sink word (orFail fun _ => next)

/- Go on with what is remembered in a slot. -/
def remembered
    (memory : Nat)
    (next : List Int → Action) : Action :=
  .look fun b => next (b.host.memory memory)

/- Count this call in a tally, and go on with the count. -/
def tick
    (tally : Nat)
    (next : Int → Action) : Action :=
  remembered tally fun ns =>
    .keep tally [ns.headD 0 + 1] (next (ns.headD 0 + 1))

end Action

end IntcodeMachine
