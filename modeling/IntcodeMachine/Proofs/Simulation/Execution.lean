import IntcodeMachine.Proofs.Execution.Requests
import IntcodeMachine.Proofs.Simulation.Decoding

/-
  This file shows that the operations do what the checks of
  the language say, and give the signal that leads to the
  effect of the instruction.

  Reading an operand or writing through a parameter fails
  where its check fails. One lemma for each form of
  operation puts these together.

  Main declarations:
    * `Config.run_valueOf`
    * `Config.run_writeTo`
    * `Supplier.execute_calculate`
    * `Supplier.execute_jump`
    * `Supplier.execute_output`
    * `Supplier.execute_input`
-/

------------------------------------------------------------
-- Parameters
------------------------------------------------------------

namespace IntcodeMachine

open Semantics
open Semantics.Config (first)

namespace Semantics.Config

theorem length_parameters
    (c : Config)
    (op : Op) :
    (c.parameters op).length = op.arity := by
  simp [parameters]

theorem getElem?_parameters
    (c : Config)
    {op : Op}
    {p : Nat}
    (hp : p < op.arity) :
    (c.parameters op)[p]? = some (c.parameter p) := by
  simp [parameters, hp]

theorem instruction_length
    (c : Config)
    (op : Op) :
    (c.instruction op).length = op.arity + 1 := by
  simp [Instruction.length, Instruction.arity, instruction]

/- An operand is read when its check passes. -/
theorem operand_eq
    (c : Config)
    (p : Nat) :
    Action.operand ⟨c.memory⟩ (c.parameter p) =
      match c.operandFault p with
      | some f => .error f.raised
      | none => .ok (c.value p) := by
  by_cases hOne : c.modeDigit p = 1
  · simp [Action.operand, parameter, mode, operandFault,
      value, hOne]
  · simp only [Action.operand, parameter, mode, operandFault,
      value, if_neg hOne]
    exact c.read_eq (c.raw p)

/- The checks of writing through a parameter. -/
def targetChecks
    (c : Config)
    (p : Nat) : List (Option Fault) :=
  [c.immediateFault p, c.boundsFault (c.raw p)]

/- A word is stored when the checks of its target pass. -/
theorem store_eq
    (c : Config)
    (op : Op)
    (p : Nat)
    (n : Int) :
    Action.store (c.site op) ⟨c.memory⟩ (c.parameter p) n =
      match first (c.targetChecks p) with
      | some f => .error f.raised
      | none => .ok ⟨c.memory.set (c.raw p).toNat n⟩ := by
  by_cases hOne : c.modeDigit p = 1
  · simp [Action.store, parameter, mode, targetChecks,
      immediateFault, site, instruction, hOne]
  · simp only [Action.store, parameter, mode, targetChecks,
      immediateFault, if_neg hOne, first_cons, first_nil,
      Option.none_or, Option.or_none]
    exact c.write_eq (c.raw p) n

------------------------------------------------------------
-- Actions On The Tape
------------------------------------------------------------

variable {c : Config} {op : Op} {p : Nat}

theorem run_valueOf
    (hp : p < op.arity)
    (next : Int → Action)
    (h : Host) :
    Action.run (c.site op) (.valueOf p next) ⟨⟨c.memory⟩, h⟩ =
      match c.operandFault p with
      | some f => (.error f.raised, ⟨⟨c.memory⟩, h⟩)
      | none =>
          Action.run (c.site op) (next (c.value p))
            ⟨⟨c.memory⟩, h⟩ := by
  have hParameter :
      (c.site op).parameters[p]? = some (c.parameter p) :=
    c.getElem?_parameters hp
  rw [Action.run_valueOf, hParameter]
  dsimp only
  rw [c.operand_eq p]
  cases c.operandFault p with
  | some f => rfl
  | none => rfl

theorem run_writeTo
    (hp : p < op.arity)
    (n : Int)
    (h : Host) :
    Action.run (c.site op) (.writeTo p n .advance)
        ⟨⟨c.memory⟩, h⟩ =
      match first (c.targetChecks p) with
      | some f => (.error f.raised, ⟨⟨c.memory⟩, h⟩)
      | none =>
          (.ok .nothing,
            ⟨⟨c.memory.set (c.raw p).toNat n⟩, h⟩) := by
  have hParameter :
      (c.site op).parameters[p]? = some (c.parameter p) :=
    c.getElem?_parameters hp
  rw [Action.run_writeTo, hParameter]
  dsimp only
  rw [c.store_eq op p n]
  cases first (c.targetChecks p) with
  | some f => rfl
  | none => rfl

end Semantics.Config

------------------------------------------------------------
-- Operations
------------------------------------------------------------

namespace Supplier

variable (s : Supplier) (collector : Nat)
variable (c : Config) (h : Host)

/- An operation runs its action and reads off the signal. -/
theorem execute_eq
    (op : Op) :
    (s.operation collector op).execute (c.site op)
        ⟨⟨c.memory⟩, h⟩ =
      match
        (s.operation collector op).action.run (c.site op)
          ⟨⟨c.memory⟩, h⟩
      with
      | (.error e, b) => (.error e, b)
      | (.ok r, b) =>
          (Operation.signalOf (s.operation collector op).name
            (c.instruction op) r, b) := by
  rw [Operation.execute, if_pos]
  · rcases (s.operation collector op).action.run (c.site op)
      ⟨⟨c.memory⟩, h⟩ with
      ⟨e | r, b⟩
    · rfl
    · rfl
  · rw [s.operation_arity collector op]
    exact c.length_parameters op

theorem calculate_action
    (f : Calculation) :
    (s.operation collector (.calculate f)).action =
      Operation.combine f.apply := by
  cases f with
  | add => rfl
  | multiply => rfl
  | lessThan =>
      simp only [operation, Operation.lessThan,
        Operation.truth, decide_eq_true_eq]
      rfl
  | equals =>
      simp only [operation, Operation.equals,
        Operation.truth, decide_eq_true_eq]
      rfl

theorem jump_action
    (t : Condition) :
    (s.operation collector (.jump t)).action =
      Operation.jumpIf fun a => decide (t.Holds a) := by
  cases t with
  | nonzero =>
      simp only [operation, Operation.jumpIfNonzero,
        Condition.Holds]
  | zero =>
      simp only [operation, Operation.jumpIfZero,
        Condition.Holds]

theorem execute_calculate
    (f : Calculation) :
    (s.operation collector (.calculate f)).execute
        (c.site (.calculate f)) ⟨⟨c.memory⟩, h⟩ =
      match first (c.operationChecks (.calculate f)) with
      | some g => (.error g.raised, ⟨⟨c.memory⟩, h⟩)
      | none =>
          (.ok (.advance 4),
            ⟨⟨(c.effect (.calculate f)).memory⟩, h⟩) := by
  rw [execute_eq, calculate_action, Operation.combine,
    Config.run_valueOf (by simp [Op.arity])]
  simp only [Config.operationChecks, Config.first_cons]
  cases c.operandFault 0 with
  | some g => rfl
  | none =>
      simp only [Option.none_or]
      rw [Config.run_valueOf (by simp [Op.arity])]
      cases c.operandFault 1 with
      | some g => rfl
      | none =>
          simp only [Option.none_or]
          rw [Config.run_writeTo (by simp [Op.arity])]
          simp only [Config.targetChecks, Config.first_cons]
          cases (c.immediateFault 2).or
              ((c.boundsFault (c.raw 2)).or (first [])) with
          | some g => rfl
          | none =>
              simp only [Operation.signalOf,
                Config.instruction_length]
              rfl

theorem execute_jump
    (t : Condition) :
    (s.operation collector (.jump t)).execute
        (c.site (.jump t)) ⟨⟨c.memory⟩, h⟩ =
      match c.operandFault 0 with
      | some g => (.error g.raised, ⟨⟨c.memory⟩, h⟩)
      | none =>
        if t.Holds (c.value 0) then
          match c.operandFault 1 with
          | some g => (.error g.raised, ⟨⟨c.memory⟩, h⟩)
          | none =>
              (.ok (.jump (c.value 1)), ⟨⟨c.memory⟩, h⟩)
        else (.ok (.advance 3), ⟨⟨c.memory⟩, h⟩) := by
  rw [execute_eq, jump_action, Operation.jumpIf,
    Config.run_valueOf (by simp [Op.arity])]
  cases c.operandFault 0 with
  | some g => rfl
  | none =>
      dsimp only
      by_cases hHolds : t.Holds (c.value 0)
      · rw [if_pos hHolds, if_pos (decide_eq_true hHolds),
          Config.run_valueOf (by simp [Op.arity])]
        cases c.operandFault 1 with
        | some g => rfl
        | none => rfl
      · rw [if_neg hHolds, if_neg (by simpa using hHolds)]
        simp only [Operation.signalOf, Action.run,
          Action.advance, Config.instruction_length]
        rfl

theorem execute_halt :
    (s.operation collector .halt).execute (c.site .halt)
        ⟨⟨c.memory⟩, h⟩ =
      (.ok .halt, ⟨⟨c.memory⟩, h⟩) := by
  rw [execute_eq]
  rfl

theorem execute_output
    (hOutputs : h.collectors[collector]? = some c.outputs) :
    (s.operation collector .output).execute
        (c.site .output) ⟨⟨c.memory⟩, h⟩ =
      match first (c.operationChecks .output) with
      | some g => (.error g.raised, ⟨⟨c.memory⟩, h⟩)
      | none =>
          (.ok (.advance 2),
            ⟨⟨c.memory⟩,
              { h with
                collectors :=
                  h.collectors.set collector
                    (c.effect .output).outputs }⟩) := by
  have hCollected : h.collected collector = c.outputs := by
    simp [Host.collected, List.getD_eq_getElem?_getD,
      hOutputs]
  have hAction :
      (s.operation collector .output).action =
        .valueOf 0 fun n =>
          .emitTo (.collector collector) n .advance := rfl
  simp only [execute_eq, hAction,
    Config.run_valueOf (show 0 < Op.output.arity by decide),
    Config.operationChecks, Config.first_cons,
    Config.first_nil, Option.or_none]
  cases c.operandFault 0 with
  | some g => rfl
  | none =>
      have hEmit (n : Int) :
          h.emit n (.collector collector) =
            (.ok (),
              { h with
                collectors :=
                  h.collectors.set collector
                    (c.outputs ++ [n]) }) := by
        rw [← hCollected]
        rfl
      simp only [Action.run_emitTo, hEmit, Action.advance,
        Action.run, Operation.signalOf,
        Config.instruction_length]
      rfl

------------------------------------------------------------
-- Inputs
------------------------------------------------------------

/- The host after the next input was taken from it. -/
def taking : Host :=
  match s with
  | .script slot =>
      { h with
        scripts :=
          h.scripts.set slot ⟨c.inputs.tail, c.taken + 1⟩ }
  | .queue slot =>
      { h with queues := h.queues.set slot c.inputs.tail }

/- Taking an input that is there leads to storing it. -/
theorem run_input
    (hHolds : s.Holds h c)
    (hLeft : c.inputs ≠ [])
    (site : Action.Site)
    (t : Tape) :
    (s.operation collector .input).action.run site ⟨t, h⟩ =
      Action.run site
        (.writeTo 0 (c.inputs.headD 0) .advance)
        ⟨t, s.taking c h⟩ := by
  cases hInputs : c.inputs with
  | nil => exact absurd hInputs hLeft
  | cons n rest =>
      cases s with
      | script slot =>
          have hSlot : h.script slot = ⟨n :: rest, c.taken⟩ := by
            rw [← hInputs, Host.script,
              List.getD_eq_getElem?_getD,
              show h.scripts[slot]? = some ⟨c.inputs, c.taken⟩
                from hHolds]
            rfl
          have hReceive :
              h.receive (.script slot) =
                (.ok n, (script slot).taking c h) := by
            simp only [Host.receive, Host.receiveScripted,
              hSlot, taking, hInputs, List.tail_cons]
          simp only [operation, input, Operation.input,
            Action.run_receiveFrom, hReceive, List.headD_cons]
          rfl
      | queue slot =>
          have hSlot : h.queued slot = n :: rest := by
            rw [← hInputs, Host.queued,
              List.getD_eq_getElem?_getD,
              show h.queues[slot]? = some c.inputs
                from hHolds]
            rfl
          have hTake :
              h.take slot =
                (some n, (queue slot).taking c h) := by
            simp only [Host.take, hSlot, taking, hInputs,
              List.tail_cons]
          simp only [operation, input, Operation.queuedInput,
            Action.run, hTake, List.headD_cons]
          rfl

theorem execute_input
    (hHolds : s.Holds h c)
    (hLeft : c.inputs ≠ []) :
    (s.operation collector .input).execute (c.site .input)
        ⟨⟨c.memory⟩, h⟩ =
      match first (c.operationChecks .input) with
      | some g =>
          (.error g.raised, ⟨⟨c.memory⟩, s.taking c h⟩)
      | none =>
          (.ok (.advance 2),
            ⟨⟨(c.effect .input).memory⟩, s.taking c h⟩) := by
  have hInput : c.inputFault = none := by
    cases hInputs : c.inputs with
    | nil => exact absurd hInputs hLeft
    | cons n rest => simp [Config.inputFault, hInputs]
  have hChecks :
      first (c.operationChecks .input) =
        first (c.targetChecks 0) := by
    simp [Config.operationChecks, Config.targetChecks, hInput]
  rw [execute_eq, s.run_input collector c h hHolds hLeft,
    Config.run_writeTo (by simp [Op.arity]), hChecks]
  cases first (c.targetChecks 0) with
  | some g => rfl
  | none =>
      simp only [Operation.signalOf, Config.instruction_length]
      rfl

/- A script without inputs refuses. -/
theorem execute_input_exhausted
    {slot : Nat}
    (hHolds : (script slot).Holds h c)
    (hEmpty : c.inputs = []) :
    ((script slot).operation collector .input).execute
        (c.site .input) ⟨⟨c.memory⟩, h⟩ =
      (.error (Fault.inputExhausted c.taken).raised,
        ⟨⟨c.memory⟩, h⟩) := by
  have hSlot : h.script slot = ⟨[], c.taken⟩ := by
    rw [← hEmpty, Host.script, List.getD_eq_getElem?_getD,
      show h.scripts[slot]? = some ⟨c.inputs, c.taken⟩
        from hHolds]
    rfl
  have hReceive :
      h.receive (.script slot) =
        (.error (Fault.inputExhausted c.taken).raised, h) := by
    simp only [Host.receive, Host.receiveScripted, hSlot]
  rw [execute_eq]
  simp only [operation, input, Operation.input,
    Action.run_receiveFrom, hReceive]
  rfl

/- A queue without inputs suspends. -/
theorem execute_input_suspended
    {slot : Nat}
    (hHolds : (queue slot).Holds h c)
    (hEmpty : c.inputs = [])
    (hWritable : Numeral.Writable c.pc) :
    ((queue slot).operation collector .input).execute
        (c.site .input) ⟨⟨c.memory⟩, h⟩ =
      (.ok .suspend,
        ⟨⟨c.memory⟩,
          h.note
            (Operation.emptyQueueNote
              (Numeral.render c.pc))⟩) := by
  have hSlot : h.queued slot = [] := by
    rw [← hEmpty, Host.queued, List.getD_eq_getElem?_getD,
      show h.queues[slot]? = some c.inputs from hHolds]
    rfl
  have hTake : h.take slot = (none, h) := by
    simp only [Host.take, hSlot]
  have hWritten :
      Numeral.written (c.site .input).instruction.address =
        .ok (Numeral.render c.pc) :=
    if_pos hWritable
  rw [execute_eq]
  simp only [operation, input, Operation.queuedInput,
    Action.run, hTake, Action.counter, hWritten,
    Action.signal, Operation.signalOf]
  rfl

end Supplier

end IntcodeMachine
