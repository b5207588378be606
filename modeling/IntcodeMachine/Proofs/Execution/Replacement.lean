import IntcodeMachine.Proofs.Execution.Calls
import IntcodeMachine.Proofs.Execution.Fetching

/-
  This file says when a call executes no operation.

  Such a call is the same whatever the operations of the
  table do: if each of them gets another action under its
  name and arity, the call is answered alike and leaves the
  rig alike. A step is like this exactly if the machine has
  halted, or if the instruction or its parameters cannot be
  read.

  Main declarations:
    * `Rig.withActions`
    * `Rig.Idle`
    * `Rig.Invokes`
    * `Rig.step_idle_iff`
    * `Rig.idle_of_halted`
-/

------------------------------------------------------------
-- Other Actions Under The Same Names
------------------------------------------------------------

namespace IntcodeMachine

/- The operation that does something else. -/
def Operation.withAction
    (o : Operation)
    (a : Action) : Operation :=
  { o with action := a }

/- The table whose operations do something else. -/
def Table.withActions
    (t : Table)
    (f : Opcode → Action) : Table where
  entry k := (t.entry k).map fun o => o.withAction (f k)

/- The machine whose operations do something else. -/
def Machine.withActions
    (m : Machine)
    (f : Opcode → Action) : Machine :=
  { m with table := m.table.withActions f }

/- The rig whose operations do something else. -/
def Rig.withActions
    (r : Rig)
    (f : Opcode → Action) : Rig :=
  { r with machine := r.machine.withActions f }

@[simp] theorem Rig.enter_withActions
    (r : Rig)
    (f : Opcode → Action)
    (s : RunState) :
    (r.withActions f).enter s = (r.enter s).withActions f :=
  rfl

@[simp] theorem Machine.operands_withActions
    (m : Machine)
    (f : Opcode → Action)
    (i : Instruction) :
    (m.withActions f).operands i = m.operands i := rfl

/- The same instruction is fetched, with another action. -/
theorem Machine.fetch_withActions
    (m : Machine)
    (f : Opcode → Action) :
    (m.withActions f).fetch =
      m.fetch.map fun x =>
        (x.1.withAction (f x.2.opcode), x.2) := by
  unfold fetch withActions
  dsimp only
  rcases m.tape.read m.pointer with e | word
  · rfl
  · dsimp only
    rcases hOpcode : opcodeOf word (some m.pointer) with e | k
    · rfl
    · simp only [Table.lookup, Table.find?_opcode,
        Table.withActions]
      cases m.table.entry k with
      | none => rfl
      | some o =>
          simp only [Option.map_some, Operation.withAction,
            Instruction.decode, hOpcode]
          rcases modesFrom word m.pointer 0 o.arity with
            e | modes
          · rfl
          · rfl

/- The same instruction is decoded. -/
theorem Machine.decode_withActions
    (m : Machine)
    (f : Opcode → Action) :
    (m.withActions f).decode = m.decode := by
  rw [decode, decode, fetch_withActions]
  rcases m.fetch with e | ⟨o, i⟩
  · rfl
  · rfl

------------------------------------------------------------
-- Calls That Execute No Operation
------------------------------------------------------------

namespace Rig

variable {r : Rig}

/-
  The call executes no operation: it is the same whatever
  the operations do.
-/
def Idle
    (r : Rig)
    (c : Call) : Prop :=
  ∀ f budget,
    (r.withActions f).call budget c =
      (r.call budget c).map fun x => (x.1, x.2.withActions f)

/- The next instruction and its parameters can be read. -/
def Invokes (r : Rig) : Prop :=
  ∃ o i ps,
    r.machine.fetch = .ok (o, i) ∧
      r.machine.operands i = .ok ps

theorem idle_decode
    (r : Rig) :
    r.Idle .decode := by
  intro f budget
  rw [call, call,
    show (r.withActions f).machine = r.machine.withActions f
      from rfl,
    Machine.decode_withActions]
  rfl

/- A machine that has halted executes nothing. -/
theorem idle_of_halted
    (hState : r.machine.state = .halted)
    (c : Call) :
    r.Idle c := by
  intro f budget
  have hOther : (r.withActions f).machine.state = .halted :=
    hState
  cases c with
  | run =>
      rw [call, call, run, run, if_pos hState, if_pos hOther]
      rfl
  | step =>
      rw [call, call, step, step, if_pos hState,
        if_pos hOther]
      rfl
  | decode => exact r.idle_decode f budget

/- An instruction that is not invoked fails alike. -/
theorem dispatch_withActions
    (hNot : ¬ r.Invokes)
    (f : Opcode → Action) :
    (r.withActions f).dispatch =
      (r.dispatch.1, r.dispatch.2.withActions f) := by
  unfold dispatch
  rw [show (r.withActions f).machine =
    r.machine.withActions f from rfl,
    Machine.fetch_withActions]
  rcases hFetch : r.machine.fetch with e | ⟨o, i⟩
  · rfl
  · rcases hOperands : r.machine.operands i with e | ps
    · simp only [Except.map, Machine.operands_withActions,
        hOperands]
    · exact
        absurd ⟨o, i, ps, hFetch, hOperands⟩ hNot

/- An instruction that is invoked does what its action does. -/
theorem dispatch_of_refuse
    (hInvokes : r.Invokes)
    (e : Failure) :
    (r.withActions fun _ => .refuse e).dispatch.1 =
      .error e := by
  rcases hInvokes with ⟨o, i, ps, hFetch, hOperands⟩
  have hFetched := Machine.fetch_eq_ok_iff.mp hFetch
  have hArity := (hFetched.operands_ok hOperands).1
  unfold dispatch
  rw [show (r.withActions fun _ => .refuse e).machine =
    r.machine.withActions fun _ => .refuse e from rfl,
    Machine.fetch_withActions, hFetch]
  simp only [Except.map, Machine.operands_withActions,
    hOperands, Operation.execute, Operation.withAction,
    if_pos hArity, Action.run]

/-
  A step executes no operation exactly if the machine has
  halted or its instruction cannot be read with all its
  parameters.
-/
theorem step_idle_iff
    (r : Rig) :
    r.Idle .step ↔
      r.machine.state = .halted ∨ ¬ r.Invokes := by
  have hInvokes :
      (r.enter .running).Invokes ↔ r.Invokes :=
    Iff.rfl
  constructor
  · intro hIdle
    by_cases hState : r.machine.state = .halted
    · exact Or.inl hState
    · refine Or.inr fun hInvoked => ?_
      -- Two refusals would have to be the same answer.
      have hAnswer (e : Failure) :
          r.step.1 = .error e := by
        have hOther :
            (r.withActions fun _ => .refuse e).machine.state ≠
              .halted :=
          hState
        have hStep := hIdle (fun _ => .refuse e) 0
        simp only [call, Option.map_some, Option.some.injEq,
          Prod.mk.injEq, step_eq_dispatch hOther,
          enter_withActions,
          dispatch_of_refuse (hInvokes.mpr hInvoked)] at hStep
        rcases hFirst : r.step.1 with e₁ | s
        · simp only [hFirst, Except.map, Except.error.injEq]
            at hStep
          rw [hStep.1]
        · simp [hFirst, Except.map] at hStep
      have hSame :=
        (hAnswer .noParameter).symm.trans
          (hAnswer .unknownSignal)
      simp at hSame
  · rintro (hState | hNot)
    · exact idle_of_halted hState .step
    · intro f budget
      by_cases hState : r.machine.state = .halted
      · exact idle_of_halted hState .step f budget
      · have hOther :
            (r.withActions f).machine.state ≠ .halted :=
          hState
        have hDispatch :=
          dispatch_withActions
            (fun h => hNot (hInvokes.mp h)) f
        rw [call, call, step_eq_dispatch hState,
          step_eq_dispatch hOther, enter_withActions,
          hDispatch]
        rfl

end Rig

end IntcodeMachine
