import IntcodeMachine.Machine

/-
  This file defines how a machine runs in a host.

  To execute an instruction is to fetch and decode it, to
  read its parameters, to execute its operation, to count
  it, to note it in the trace if one is kept, and to apply
  its signal. A failure at any point leaves the counter on
  the instruction, and keeps what was done before.

  A run executes instructions until the machine stops. It is
  given a budget of instructions; there is no answer if the
  budget does not suffice.

  Key definitions include:
    * `Rig`
    * `Rig.dispatch`
    * `Rig.apply`
    * `Rig.step`
    * `Rig.run`
-/

------------------------------------------------------------
-- Rigs
------------------------------------------------------------

namespace IntcodeMachine

/- A machine at work in a host. -/
structure Rig where
  machine : Machine
  host : Host

namespace Rig

/- The rig with its machine in another state. -/
def enter
    (r : Rig)
    (s : RunState) : Rig :=
  { r with machine := { r.machine with state := s } }

/- The rig with its counter on another address. -/
def moveTo
    (r : Rig)
    (address : Int) : Rig :=
  { r with machine := { r.machine with pointer := address } }

/- Log a message of the machine. -/
def note
    (r : Rig)
    (level : Log.Level)
    (message : String) : Rig :=
  { r with host := r.host.note ⟨level, .machine, message⟩ }

------------------------------------------------------------
-- Signals
------------------------------------------------------------

/- The message that the machine has halted. -/
def haltNote (m : Machine) : String :=
  "Halted at " ++ Numeral.render m.pointer ++ " after " ++
    Numeral.renderNat m.steps ++ " instructions"

/- The message that the machine was suspended. -/
def suspendNote (m : Machine) : String :=
  "Suspended at " ++ Numeral.render m.pointer

/- Do what a signal asks for. -/
def apply
    (r : Rig) :
    Signal → Except Failure Unit × Rig
| .advance length =>
    (.ok (), r.moveTo (r.machine.pointer + length))
| .jump address =>
    if r.machine.tape.Contains address then
      (.ok (), r.moveTo address)
    else (.error (r.machine.tape.outOfBounds address), r)
| .halt =>
    (.ok (),
      (r.enter .halted).note .info (haltNote r.machine))
| .suspend =>
    (.ok (),
      (r.enter .suspended).note .info
        (suspendNote r.machine))
| .unknown => (.error .unknownSignal, r)

------------------------------------------------------------
-- One Instruction
------------------------------------------------------------

/- The rig after an action has worked on it. -/
def afterAction
    (r : Rig)
    (b : Action.Bench) : Rig :=
  ⟨{ r.machine with tape := b.tape }, b.host⟩

/- The rig with one more instruction counted. -/
def counted (r : Rig) : Rig :=
  { r with
    machine :=
      { r.machine with steps := r.machine.steps + 1 } }

/- Note an instruction in the trace, if one is kept. -/
def traced
    (r : Rig)
    (l : Trace.Line) : Except Failure Unit × Rig :=
  if r.machine.tracing then
    if l.Writable then
      (.ok (),
        Rig.note
          { r with
            machine :=
              { r.machine with
                trace := r.machine.trace ++ [l] } }
          .debug l.render)
    else (.error .unwritable, r)
  else (.ok (), r)

/- Count, trace and apply a signal that was given. -/
def complete
    (r : Rig)
    (o : Operation)
    (ps : List Parameter)
    (s : Signal) : Except Failure Signal × Rig :=
  match
    r.counted.traced
      ⟨r.machine.pointer, o.name, ps, s⟩ with
  | (.error e, r') => (.error e, r')
  | (.ok _, r') =>
      match r'.apply s with
      | (.error e, r'') => (.error e, r'')
      | (.ok _, r'') => (.ok s, r'')

/- Execute the instruction at the counter. -/
def dispatch
    (r : Rig) : Except Failure Signal × Rig :=
  match r.machine.fetch with
  | .error e => (.error e, r)
  | .ok (o, i) =>
      match r.machine.operands i with
      | .error e => (.error e, r)
      | .ok ps =>
          match
            o.execute ⟨i, ps⟩ ⟨r.machine.tape, r.host⟩ with
          | (.error e, b) => (.error e, r.afterAction b)
          | (.ok s, b) => (r.afterAction b).complete o ps s

------------------------------------------------------------
-- Steps And Runs
------------------------------------------------------------

/-
  Execute one instruction and give its signal. A machine
  that has halted gives none and stays as it is.
-/
def step
    (r : Rig) : Except Failure (Option Signal) × Rig :=
  if r.machine.state = .halted then (.ok none, r)
  else
    match (r.enter .running).dispatch with
    | (.error e, r') => (.error e, r')
    | (.ok s, r') => (.ok (some s), r')

/- Execute instructions until the machine stops. -/
def loop :
    Nat → Rig → Option (Except Failure Unit × Rig)
| 0, _ => none
| budget + 1, r =>
    match r.dispatch with
    | (.error e, r') => some (.error e, r')
    | (.ok _, r') =>
        if r'.machine.state.isStopped then some (.ok (), r')
        else loop budget r'

/- The message that a suspended machine goes on. -/
def resumeNote (m : Machine) : String :=
  "Resuming at " ++ Numeral.render m.pointer

/- Log that a run starts from a suspended machine. -/
def resumed (r : Rig) : Rig :=
  if r.machine.state = .suspended then
    r.note .info (resumeNote r.machine)
  else r

/-
  Run the machine until it halts, is suspended or fails,
  within a budget of instructions.
-/
def run
    (budget : Nat)
    (r : Rig) : Option (Except Failure Unit × Rig) :=
  if r.machine.state = .halted then
    some
      (.ok (),
        r.note .debug
          "run() on a halted program, nothing to do")
  else loop budget (r.resumed.enter .running)

end Rig

end IntcodeMachine
