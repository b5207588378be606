import IntcodeMachine.Proofs.Execution.Fetching
import IntcodeMachine.Proofs.Semantics.Checks
import Mathlib.Data.Fintype.Basic
import Mathlib.Tactic.FinCases

/-
  This file shows that the machine fetches and decodes as
  the checks of the language say.

  A rig shows a configuration when its tape, counter, inputs
  and outputs are those of the configuration and its table
  has the standard operations. The inputs are supplied by a
  script or by a queue. The first decoding check that fails
  is what the machine raises; when none fails, the machine
  executes the operation on the parameters it has read.

  Main declarations:
    * `Supplier`
    * `Rig.Shows`
    * `Rig.Shows.fetch_eq`
    * `Rig.Shows.operands_eq`
    * `Rig.Shows.attempt_of_fault`
    * `Rig.Shows.attempt_of_decodes`
-/

------------------------------------------------------------
-- Suppliers
------------------------------------------------------------

namespace IntcodeMachine

open Semantics
open Semantics.Config (first)

/- What supplies a program with inputs. -/
inductive Supplier where
| script (slot : Nat)
| queue (slot : Nat)
deriving DecidableEq, Repr

namespace Supplier

/- The operation that takes an input. -/
def input : Supplier → Operation
| .script slot =>
    .input (.script slot) Operation.inputName
| .queue slot =>
    .queuedInput slot Operation.inputName

/- The host holds the inputs of a configuration. -/
def Holds
    (h : Host)
    (c : Config) : Supplier → Prop
| .script slot => h.scripts[slot]? = some ⟨c.inputs, c.taken⟩
| .queue slot => h.queues[slot]? = some c.inputs

/- The operation that does what an instruction says. -/
def operation
    (s : Supplier)
    (collector : Nat) : Op → Operation
| .calculate .add => .add
| .calculate .multiply => .multiply
| .calculate .lessThan => .lessThan
| .calculate .equals => .equals
| .jump .nonzero => .jumpIfNonzero
| .jump .zero => .jumpIfZero
| .input => s.input
| .output =>
    .output (.collector collector) Operation.outputName
| .halt => .halt

theorem operation_arity
    (s : Supplier)
    (collector : Nat)
    (op : Op) :
    (s.operation collector op).arity = op.arity := by
  cases op with
  | calculate f => cases f <;> rfl
  | jump t => cases t <;> rfl
  | input => cases s <;> rfl
  | output => rfl
  | halt => rfl

/- The table has the standard operations on the supplier. -/
def Serves
    (s : Supplier)
    (collector : Nat)
    (t : Table) : Prop :=
  ∀ k : Opcode,
    t.entry k = (Op.ofNumber? k).map (s.operation collector)

/- The standard table on a script. -/
theorem serves_standard
    (slot collector : Nat) :
    (script slot).Serves collector
      (Table.standard (.script slot)
        (.collector collector)) := by
  intro k
  fin_cases k <;> rfl

/- The standard table with inputs from a queue. -/
theorem serves_queued
    (slot collector : Nat)
    (source : Source) :
    (queue slot).Serves collector
      ((Table.standard source (.collector collector)).set
        Table.inputOpcode
        (.queuedInput slot Operation.inputName)) := by
  intro k
  fin_cases k <;> rfl

end Supplier

------------------------------------------------------------
-- Rigs That Show Configurations
------------------------------------------------------------

/- The rig is at the configuration, without a trace. -/
structure Rig.Shows
    (s : Supplier)
    (collector : Nat)
    (r : Rig)
    (c : Config) : Prop where
  table : s.Serves collector r.machine.table
  tracing : r.machine.tracing = false
  tape : r.machine.tape = ⟨c.memory⟩
  pointer : r.machine.pointer = c.pc
  inputs : s.Holds r.host c
  outputs : r.host.collectors[collector]? = some c.outputs

namespace Semantics.Config

/- The mode of a parameter. -/
def mode
    (c : Config)
    (p : Nat) : Mode :=
  if c.modeDigit p = 1 then .immediate else .position

/- A parameter as the machine reads it. -/
def parameter
    (c : Config)
    (p : Nat) : Parameter :=
  ⟨c.raw p, p, c.mode p⟩

/- The parameters of an instruction. -/
def parameters
    (c : Config)
    (op : Op) : List Parameter :=
  (List.range op.arity).map c.parameter

/- The instruction at the counter. -/
def instruction
    (c : Config)
    (op : Op) : Instruction where
  address := c.pc
  word := c.word
  opcode := Fin.ofNat 100 c.word.toNat
  modes := (List.range op.arity).map c.mode

/- What an action is given to work on. -/
def site
    (c : Config)
    (op : Op) : Action.Site :=
  ⟨c.instruction op, c.parameters op⟩

------------------------------------------------------------
-- Reading The Tape
------------------------------------------------------------

theorem read_eq
    (c : Config)
    (address : Int) :
    (Tape.mk c.memory).read address =
      match c.boundsFault address with
      | some f => .error f.raised
      | none => .ok (c.memory.getD address.toNat 0) := by
  by_cases hCell : 0 ≤ address ∧ address < c.memory.length
  · simp [Tape.read, Tape.Contains, Tape.size, boundsFault,
      hCell]
  · simp [Tape.read, Tape.Contains, Tape.size, boundsFault,
      Tape.outOfBounds, hCell]

theorem readAll_eq
    (c : Config)
    (addresses : List Int) :
    (Tape.mk c.memory).readAll addresses =
      match first (addresses.map c.boundsFault) with
      | some f => .error f.raised
      | none =>
          .ok
            (addresses.map fun address =>
              c.memory.getD address.toNat 0) := by
  induction addresses with
  | nil => rfl
  | cons address rest ih =>
      rw [Tape.readAll, read_eq, ih, List.map_cons,
        first_cons]
      cases c.boundsFault address with
      | some f => rfl
      | none =>
          cases hRest : first (rest.map c.boundsFault) with
          | some f => simp
          | none => simp

theorem write_eq
    (c : Config)
    (address n : Int) :
    (Tape.mk c.memory).write address n =
      match c.boundsFault address with
      | some f => .error f.raised
      | none => .ok ⟨c.memory.set address.toNat n⟩ := by
  by_cases hCell : 0 ≤ address ∧ address < c.memory.length
  · simp [Tape.write, Tape.Contains, Tape.size, boundsFault,
      hCell]
  · simp [Tape.write, Tape.Contains, Tape.size, boundsFault,
      Tape.outOfBounds, hCell]

------------------------------------------------------------
-- Words
------------------------------------------------------------

theorem opcodeOf_eq
    (c : Config) :
    opcodeOf c.word (some c.pc) =
      match c.signFault with
      | some f => .error f.raised
      | none => .ok (Fin.ofNat 100 c.word.toNat) := by
  unfold opcodeOf signFault
  split <;> rfl

theorem modeDigit_eq
    {c : Config}
    (hSign : 0 ≤ c.word)
    (p : Nat) :
    IntcodeMachine.modeDigit c.word p = c.modeDigit p := by
  have hPlace : ((p : Int) + 2).toNat = p + 2 := by omega
  have hSize : c.word.natAbs = c.word.toNat := by omega
  simp only [IntcodeMachine.modeDigit, modeDigit, hPlace,
    hSize]

theorem parameterMode_eq
    {c : Config}
    (hSign : 0 ≤ c.word)
    (p : Nat) :
    parameterMode c.word p (some c.pc) =
      match c.modeFault p with
      | some f => .error f.raised
      | none => .ok (c.mode p) := by
  unfold parameterMode modeFault mode
  simp only [modeDigit_eq hSign]
  -- A digit is 0, 1 or without a mode.
  rcases hDigit : c.modeDigit p with _ | _ | d
  · rfl
  · rfl
  · simp [Mode.ofDigit?]

theorem modesFrom_eq
    {c : Config}
    (hSign : 0 ≤ c.word)
    (start count : Nat) :
    modesFrom c.word c.pc start count =
      match
        first ((List.range' start count).map c.modeFault)
      with
      | some f => .error f.raised
      | none => .ok ((List.range' start count).map c.mode) := by
  induction count generalizing start with
  | zero => rfl
  | succ count ih =>
      rw [modesFrom, parameterMode_eq hSign, ih,
        List.range'_succ, List.map_cons, first_cons]
      cases c.modeFault start with
      | some f => rfl
      | none =>
          cases hRest :
              first
                ((List.range' (start + 1) count).map
                  c.modeFault) with
          | some f => simp
          | none => simp

theorem decode_eq
    {c : Config}
    (hSign : 0 ≤ c.word)
    (op : Op) :
    Instruction.decode c.word c.pc op.arity =
      match first ((List.range op.arity).map c.modeFault) with
      | some f => .error f.raised
      | none => .ok (c.instruction op) := by
  rw [Instruction.decode, opcodeOf_eq,
    (signFault_eq_none_iff c).mpr hSign,
    show (0 : Nat) = 0 from rfl, modesFrom_eq hSign,
    ← List.range_eq_range']
  cases first ((List.range op.arity).map c.modeFault) with
  | some f => rfl
  | none => rfl

/- Parameters are bound to the modes of their places. -/
theorem bindFrom_eq
    (c : Config)
    (start count : Nat) :
    Instruction.bindFrom start
        ((List.range' start count).map c.raw)
        ((List.range' start count).map c.mode) =
      (List.range' start count).map c.parameter := by
  induction count generalizing start with
  | zero => rfl
  | succ count ih =>
      simp only [List.range'_succ, List.map_cons,
        Instruction.bindFrom, ih]
      rfl

end Semantics.Config

------------------------------------------------------------
-- Fetching And Decoding
------------------------------------------------------------

namespace Rig.Shows

variable {s : Supplier} {collector : Nat}
variable {r : Rig} {c : Config}

/- What the machine fetches is decided by the checks. -/
theorem fetch_eq
    (hShows : r.Shows s collector c) :
    r.machine.fetch =
      match c.boundsFault c.pc with
      | some f => .error f.raised
      | none =>
        match c.signFault with
        | some f => .error f.raised
        | none =>
          match c.op? with
          | none =>
              .error
                (Fault.unknownOpcode c.number
                  (some c.pc)).raised
          | some op =>
            match
              first ((List.range op.arity).map c.modeFault)
            with
            | some f => .error f.raised
            | none =>
                .ok
                  (s.operation collector op,
                    c.instruction op) := by
  rw [Machine.fetch, hShows.tape, hShows.pointer,
    Config.read_eq]
  cases c.boundsFault c.pc with
  | some f => rfl
  | none =>
      dsimp only
      rw [Int.toNat_natCast,
        show c.memory.getD c.pc 0 = c.word from rfl,
        Config.opcodeOf_eq]
      cases hSign : c.signFault with
      | some f => rfl
      | none =>
          dsimp only
          rw [Table.lookup, Table.find?_opcode, hShows.table]
          have hNumber :
              (Fin.ofNat 100 c.word.toNat : Nat) =
                c.number := rfl
          rw [hNumber, show Op.ofNumber? c.number = c.op?
            from rfl]
          cases hOp : c.op? with
          | none => rfl
          | some op =>
              simp only [Option.map_some,
                Supplier.operation_arity]
              rw [Config.decode_eq
                ((Config.signFault_eq_none_iff c).mp hSign)]
              cases first
                  ((List.range op.arity).map c.modeFault) with
              | some f => rfl
              | none => rfl

/- What parameters the machine reads is decided as well. -/
theorem operands_eq
    (hShows : r.Shows s collector c)
    (op : Op) :
    r.machine.operands (c.instruction op) =
      match
        first ((List.range op.arity).map c.parameterFault)
      with
      | some f => .error f.raised
      | none => .ok (c.parameters op) := by
  have hAddresses :
      (c.instruction op).operandAddresses =
        (List.range op.arity).map fun (p : Nat) =>
          ((c.pc + 1 + p : Nat) : Int) := by
    simp [Instruction.operandAddresses, Instruction.arity,
      Config.instruction]
  have hRaws :
      (List.range op.arity).map c.raw =
        ((List.range op.arity).map fun (p : Nat) =>
          ((c.pc + 1 + p : Nat) : Int)).map fun address =>
            c.memory.getD address.toNat 0 := by
    simp only [List.map_map]
    rfl
  rw [Machine.operands, hShows.tape, hAddresses,
    Config.readAll_eq, ← hRaws, List.map_map]
  rw [show (c.boundsFault ∘ fun (p : Nat) =>
    ((c.pc + 1 + p : Nat) : Int)) = c.parameterFault from rfl]
  cases first
      ((List.range op.arity).map c.parameterFault) with
  | some f => rfl
  | none =>
      dsimp only
      have hBind := c.bindFrom_eq 0 op.arity
      rw [← List.range_eq_range'] at hBind
      exact congrArg Except.ok hBind

/- A check before the execution that fails is raised. -/
theorem attempt_of_fault
    (hShows : r.Shows s collector c)
    {f : Fault}
    (hFault : first c.decodingChecks = some f) :
    r.attempt = (.error f.raised, r) := by
  simp only [Config.decodingChecks, Config.opcodeFault,
    Config.first_append, Config.first_cons,
    Config.first_nil] at hFault
  rw [Rig.attempt, hShows.fetch_eq]
  cases hCounter : c.boundsFault c.pc with
  | some g =>
      simp only [hCounter, Option.some_or, Option.some.injEq]
        at hFault
      rw [hFault]
  | none =>
    cases hSign : c.signFault with
    | some g =>
        simp only [hCounter, hSign, Option.some_or,
          Option.none_or, Option.some.injEq] at hFault
        rw [hFault]
    | none =>
      cases hOp : c.op? with
      | none =>
          simp only [hCounter, hSign, hOp, Option.some_or,
            Option.none_or, Option.some.injEq] at hFault
          rw [hFault]
      | some op =>
          simp only [hCounter, hSign, hOp, Option.none_or,
            Config.parameterChecks, Config.first_append]
            at hFault
          cases hModes :
              first ((List.range op.arity).map c.modeFault)
            with
          | some g =>
              simp only [hModes, Option.some_or,
                Option.some.injEq] at hFault
              simp only [hModes, hFault]
          | none =>
              simp only [hModes, Option.none_or] at hFault
              simp only [hModes, hShows.operands_eq, hFault]

/- An instruction that decodes is executed. -/
theorem attempt_of_decodes
    (hShows : r.Shows s collector c)
    {op : Op}
    (hDecodes : c.Decodes op) :
    r.attempt =
      match
        (s.operation collector op).execute (c.site op)
          ⟨⟨c.memory⟩, r.host⟩
      with
      | (.error e, b) => (.error e, r.afterAction b)
      | (.ok x, b) =>
          (.ok
            ⟨s.operation collector op, c.parameters op, x⟩,
            r.afterAction b) := by
  rcases (Config.decodes_iff c op).mp hDecodes with
    ⟨hNone, hOp⟩
  simp only [Config.decodingChecks, Config.opcodeFault, hOp,
    Config.parameterChecks, Config.first_append,
    Config.first_cons, Config.first_nil, Option.or_none,
    Option.or_eq_none_iff] at hNone
  rcases hNone with ⟨⟨hCounter, hSign⟩, hModes, hCells⟩
  have hFetch :
      r.machine.fetch =
        .ok (s.operation collector op, c.instruction op) := by
    rw [hShows.fetch_eq]
    simp only [hCounter, hSign, hOp, hModes]
  have hOperands :
      r.machine.operands (c.instruction op) =
        .ok (c.parameters op) := by
    rw [hShows.operands_eq, hCells]
  have hSite :
      (⟨c.instruction op, c.parameters op⟩ : Action.Site) =
        c.site op := rfl
  rcases hExecute :
      (s.operation collector op).execute (c.site op)
        ⟨⟨c.memory⟩, r.host⟩ with
    ⟨e | x, b⟩
  · simp only [attempt, hFetch, hOperands, hSite,
      hShows.tape, hExecute]
  · simp only [attempt, hFetch, hOperands, hSite,
      hShows.tape, hExecute]

end Rig.Shows

end IntcodeMachine
