import IntcodeMachine.Proofs.Execution.Runs

/-
  This file defines calls, by which a host works with a
  machine: it runs it, executes one instruction, or decodes
  the instruction at the counter.

  Calls are made one after another. A call that raises is
  answered by its failure, and the host may go on with the
  machine that it leaves behind. In a session it also works
  on its channels between the calls.

  Main declarations:
    * `Call`
    * `Rig.call_leaves`
    * `Rig.Session`
    * `Rig.session_of_fed`
    * `Rig.calls`
    * `Rig.Executes`
    * `Rig.ExecutesIn`
-/

------------------------------------------------------------
-- Calls
------------------------------------------------------------

namespace IntcodeMachine

/- What a host asks of a machine. -/
inductive Call where
| run
| step
| decode
deriving DecidableEq, Repr

/- What a call that does not raise gives. -/
inductive Answer where
/- A run has come to its end. -/
| finished
/- The signal of an instruction, if one was executed. -/
| signal (s : Option Signal)
| instruction (i : Instruction)
deriving DecidableEq, Repr

namespace Rig

/- The answer or failure of a call, and the rig after it. -/
def call
    (budget : Nat) :
    Call → Rig → Option (Except Failure Answer × Rig)
| .run, r =>
    (r.run budget).map fun x =>
      (x.1.map fun _ => .finished, x.2)
| .step, r => some (r.step.1.map .signal, r.step.2)
| .decode, r =>
    some (r.machine.decode.map .instruction, r)

variable {budget : Nat} {r r' : Rig}

/- What a call leaves behind. -/
theorem call_leaves
    {c : Call}
    {x : Except Failure Answer}
    (hCall : r.call budget c = some (x, r')) :
    (c = .run ∧ ∃ o, r.run budget = some (o, r')) ∨
      (c = .step ∧ r' = r.step.2) ∨
      (c = .decode ∧ r' = r) := by
  cases c with
  | run =>
      rw [call, Option.map_eq_some_iff] at hCall
      rcases hCall with ⟨⟨o, r₁⟩, hRun, hSame⟩
      rcases Prod.mk.inj hSame with ⟨-, rfl⟩
      exact Or.inl ⟨rfl, o, hRun⟩
  | step =>
      rw [call, Option.some.injEq, Prod.mk.injEq] at hCall
      exact Or.inr (Or.inl ⟨rfl, hCall.2.symm⟩)
  | decode =>
      rw [call, Option.some.injEq, Prod.mk.injEq] at hCall
      exact Or.inr (Or.inr ⟨rfl, hCall.2.symm⟩)

------------------------------------------------------------
-- Sessions
------------------------------------------------------------

/- A call that was made and answered. -/
structure Occasion where
  budget : Nat
  call : Call
  /- The rig that the call found. -/
  before : Rig
  answer : Except Failure Answer

/-
  A host works with a machine. It makes calls, and whenever
  it likes it does something outside of the machine, as to
  feed a queue or to change what its handlers remember. The
  calls that were answered are listed in their order.
-/
inductive Session : List Occasion → Rig → Rig → Prop where
| rest (r : Rig) : Session [] r r
| host
    {log : List Occasion}
    {r r' : Rig}
    (h : Host)
    (hRest : Session log ⟨r.machine, h⟩ r') :
    Session log r r'
| call
    {log : List Occasion}
    {budget : Nat}
    {c : Call}
    {x : Except Failure Answer}
    {r r₁ r' : Rig}
    (hCall : r.call budget c = some (x, r₁))
    (hRest : Session log r₁ r') :
    Session (⟨budget, c, r, x⟩ :: log) r r'

/- To run, to feed a queue, and to run again is a session. -/
theorem session_of_fed
    (first second slot : Nat)
    (values : List Int)
    {P : Rig → Prop}
    [DecidablePred P]
    (hRuns :
      (r.call first .run).any
        (fun y =>
          (call second .run
            ⟨y.2.machine, y.2.host.append slot values⟩).any
          fun z => P z.2) =
        true) :
    ∃ log r',
      Session log r r' ∧
      log.map Occasion.call = [.run, .run] ∧
      P r' := by
  rcases (Option.any_eq_true _ _).mp hRuns with
    ⟨⟨x₁, r₁⟩, hFirst, hRuns⟩
  rcases (Option.any_eq_true _ _).mp hRuns with
    ⟨⟨x₂, r₂⟩, hSecond, hLast⟩
  exact
    ⟨_, r₂,
      .call hFirst (.host _ (.call hSecond (.rest r₂))), rfl,
      of_decide_eq_true hLast⟩

------------------------------------------------------------
-- Calls In A Row
------------------------------------------------------------

/-
  The answers and failures of several calls, and the rig
  after them, with a budget for each run.
-/
def calls
    (budget : Nat) :
    List Call → Rig →
      Option (List (Except Failure Answer) × Rig)
| [], r => some ([], r)
| c :: rest, r =>
    match r.call budget c with
    | none => none
    | some (x, r') =>
        (calls budget rest r').map fun y =>
          (x :: y.1, y.2)

------------------------------------------------------------
-- Executed Instructions
------------------------------------------------------------

/- The call executes an instruction at the second rig. -/
def Executes
    (c : Call)
    (r r₀ : Rig) : Prop :=
  match c with
  | .run =>
      r.machine.state ≠ .halted ∧
        ∃ n, Reaches n r.entered r₀
  | .step =>
      r.machine.state ≠ .halted ∧ r₀ = r.enter .running
  | .decode => False

/- One of the calls executes an instruction at a rig. -/
inductive ExecutesIn : List Call → Rig → Rig → Prop where
| now
    {c : Call}
    {rest : List Call}
    {r r₀ : Rig}
    (hExecutes : Executes c r r₀) :
    ExecutesIn (c :: rest) r r₀
| later
    {budget : Nat}
    {c : Call}
    {rest : List Call}
    {r r' r₀ : Rig}
    {x : Except Failure Answer}
    (hCall : r.call budget c = some (x, r'))
    (hRest : ExecutesIn rest r' r₀) :
    ExecutesIn (c :: rest) r r₀

end Rig

end IntcodeMachine
