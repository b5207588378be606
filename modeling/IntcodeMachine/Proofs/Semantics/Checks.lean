import IntcodeMachine.Proofs.Semantics.Rules

/-
  This file defines the checks that an instruction must
  pass, in the order in which they are made, and what the
  instruction does when it passes them all.

  A configuration is stuck exactly when one of its checks
  fails; the first that fails names the fault. Otherwise the
  rules allow one step, to the effect of the instruction.

  Main declarations:
    * `Config.checks`
    * `Config.firstFault`
    * `Config.effect`
    * `Config.Ready`
    * `Config.stuck_iff`
-/

------------------------------------------------------------
-- Checks
------------------------------------------------------------

namespace IntcodeMachine

namespace Semantics

namespace Config

/- The fault of an address outside the memory. -/
def boundsFault
    (c : Config)
    (address : Int) : Option Fault :=
  if 0 ≤ address ∧ address < c.memory.length then none
  else some (.outOfBounds address c.memory.length)

/- The fault of a word below zero. -/
def signFault (c : Config) : Option Fault :=
  if c.word < 0 then
    some (.unknownOpcode c.word (some c.pc))
  else none

/- The fault of a number that stands for nothing. -/
def opcodeFault (c : Config) : Option Fault :=
  match c.op? with
  | some _ => none
  | none => some (.unknownOpcode c.number (some c.pc))

/- The fault of a mode digit that is neither 0 nor 1. -/
def modeFault
    (c : Config)
    (p : Nat) : Option Fault :=
  if c.modeDigit p ≤ 1 then none
  else some (.unknownMode (c.modeDigit p) p (some c.pc))

/- The fault of a parameter that the memory lacks. -/
def parameterFault
    (c : Config)
    (p : Nat) : Option Fault :=
  c.boundsFault (c.pc + 1 + p : Nat)

/- The fault of reading an operand. -/
def operandFault
    (c : Config)
    (p : Nat) : Option Fault :=
  if c.modeDigit p = 1 then none
  else c.boundsFault (c.raw p)

/- The fault of taking an input. -/
def inputFault (c : Config) : Option Fault :=
  match c.inputs with
  | [] => some (.inputExhausted c.taken)
  | _ :: _ => none

/- The fault of writing through an immediate parameter. -/
def immediateFault
    (c : Config)
    (p : Nat) : Option Fault :=
  if c.modeDigit p = 1 then
    some (.immediateTarget p c.pc)
  else none

/- The operand of a parameter, where it has one. -/
def value
    (c : Config)
    (p : Nat) : Int :=
  if c.modeDigit p = 1 then c.raw p
  else c.memory.getD (c.raw p).toNat 0

/- The checks that an instruction makes when executed. -/
def operationChecks
    (c : Config) : Op → List (Option Fault)
| .calculate _ =>
    [c.operandFault 0, c.operandFault 1,
      c.immediateFault 2, c.boundsFault (c.raw 2)]
| .jump t =>
    c.operandFault 0 ::
      if t.Holds (c.value 0) then
        [c.operandFault 1, c.boundsFault (c.value 1)]
      else []
| .input =>
    [c.inputFault, c.immediateFault 0,
      c.boundsFault (c.raw 0)]
| .output => [c.operandFault 0]
| .halt => []

/- The checks of an instruction's parameters. -/
def parameterChecks
    (c : Config)
    (op : Op) : List (Option Fault) :=
  (List.range op.arity).map c.modeFault ++
    (List.range op.arity).map c.parameterFault

/- The checks before an instruction is executed, in order. -/
def decodingChecks (c : Config) : List (Option Fault) :=
  [c.boundsFault c.pc, c.signFault, c.opcodeFault] ++
    match c.op? with
    | none => []
    | some op => c.parameterChecks op

/- The checks while an instruction is executed, in order. -/
def executionChecks (c : Config) : List (Option Fault) :=
  match c.op? with
  | none => []
  | some op => c.operationChecks op

/- All checks of an instruction, in order. -/
def checks (c : Config) : List (Option Fault) :=
  c.decodingChecks ++ c.executionChecks

/- The first fault that a list of checks finds. -/
def first (faults : List (Option Fault)) : Option Fault :=
  faults.findSome? id

@[simp] theorem first_append
    (xs ys : List (Option Fault)) :
    first (xs ++ ys) = (first xs).or (first ys) := by
  simp [first, List.findSome?_append]

@[simp] theorem first_nil : first [] = none := rfl

@[simp] theorem first_cons
    (x : Option Fault)
    (xs : List (Option Fault)) :
    first (x :: xs) = x.or (first xs) := by
  cases x <;> simp [first]

theorem first_eq_none_iff
    (xs : List (Option Fault)) :
    first xs = none ↔ ∀ x ∈ xs, x = none := by
  simp [first, List.findSome?_eq_none_iff]

/- The fault of the first check that fails. -/
def firstFault (c : Config) : Option Fault :=
  first c.checks

------------------------------------------------------------
-- Effects
------------------------------------------------------------

/- Write where a parameter points, and move on. -/
def stored
    (c : Config)
    (p : Nat)
    (n : Int)
    (length : Nat) : Config :=
  { c with
    memory := c.memory.set (c.raw p).toNat n
    pc := c.pc + length }

/- What an instruction does that passes its checks. -/
def effect
    (c : Config) : Op → Config
| .calculate f =>
    c.stored 2 (f.apply (c.value 0) (c.value 1)) 4
| .jump t =>
    if t.Holds (c.value 0) then
      { c with pc := (c.value 1).toNat }
    else { c with pc := c.pc + 3 }
| .input =>
    { c.stored 0 (c.inputs.headD 0) 2 with
      inputs := c.inputs.tail
      taken := c.taken + 1 }
| .output =>
    { c with
      pc := c.pc + 2
      outputs := c.outputs ++ [c.value 0] }
| .halt => c

/- The instruction at the counter passes all its checks. -/
def Ready
    (c : Config)
    (op : Op) : Prop :=
  c.firstFault = none ∧ c.op? = some op

/- A configuration fails a check or is ready. -/
theorem fault_or_ready
    (c : Config) :
    (∃ f, c.firstFault = some f) ∨ ∃ op, c.Ready op := by
  cases hFault : c.firstFault with
  | some f => exact Or.inl ⟨f, rfl⟩
  | none =>
      cases hOp : c.op? with
      | some op => exact Or.inr ⟨op, hFault, hOp⟩
      | none =>
          -- A missing instruction fails the opcode check.
          simp [firstFault, checks, decodingChecks,
            opcodeFault, hOp] at hFault

------------------------------------------------------------
-- Passing The Checks
------------------------------------------------------------

theorem boundsFault_eq_none_iff
    (c : Config)
    (address : Int) :
    c.boundsFault address = none ↔
      0 ≤ address ∧ address < c.memory.length := by
  unfold boundsFault
  split <;> simp_all

theorem first_parameterChecks_eq_none_iff
    (c : Config)
    (op : Op) :
    first (c.parameterChecks op) = none ↔
      (∀ p < op.arity, c.modeDigit p ≤ 1) ∧
        ∀ p < op.arity, c.pc + 1 + p < c.memory.length := by
  simp only [parameterChecks, first_eq_none_iff,
    List.mem_append, List.mem_map, List.mem_range]
  constructor
  · intro hNone
    constructor
    · intro p hp
      have hMode := hNone _ (Or.inl ⟨p, hp, rfl⟩)
      unfold modeFault at hMode
      split at hMode
      · assumption
      · simp at hMode
    · intro p hp
      have hCell := hNone _ (Or.inr ⟨p, hp, rfl⟩)
      rw [parameterFault, boundsFault_eq_none_iff] at hCell
      omega
  · rintro ⟨hModes, hCells⟩ x (⟨p, hp, rfl⟩ | ⟨p, hp, rfl⟩)
    · simp [modeFault, hModes p hp]
    · rw [parameterFault, boundsFault_eq_none_iff]
      have hCell := hCells p hp
      omega

theorem signFault_eq_none_iff
    (c : Config) :
    c.signFault = none ↔ 0 ≤ c.word := by
  unfold signFault
  split
  · simp
    omega
  · simp
    omega

/- An instruction decodes when its first checks pass. -/
theorem decodes_iff
    (c : Config)
    (op : Op) :
    c.Decodes op ↔
      first c.decodingChecks = none ∧ c.op? = some op := by
  constructor
  · intro hDecodes
    refine ⟨?_, hDecodes.opcode⟩
    have hCounter : c.boundsFault c.pc = none := by
      rw [boundsFault_eq_none_iff]
      have hBound := hDecodes.counter
      omega
    have hParameters :
        first (c.parameterChecks op) = none := by
      rw [first_parameterChecks_eq_none_iff]
      refine ⟨hDecodes.modes, ?_⟩
      intro p hp
      have hEnd := hDecodes.parameters
      omega
    simp [decodingChecks, opcodeFault, hDecodes.opcode,
      hCounter, hParameters,
      (signFault_eq_none_iff c).mpr hDecodes.sign]
  · intro hParts
    rcases hParts with ⟨hNone, hOp⟩
    simp only [decodingChecks, opcodeFault, hOp, first_append,
      first_cons, first_nil, Option.or_none,
      Option.or_eq_none_iff, boundsFault_eq_none_iff,
      signFault_eq_none_iff,
      first_parameterChecks_eq_none_iff] at hNone
    rcases hNone with ⟨⟨hCounter, hSign⟩, hModes, hCells⟩
    refine ⟨by omega, hSign, hOp, hModes, ?_⟩
    cases hArity : op.arity with
    | zero =>
        simp only [Nat.add_zero]
        omega
    | succ n =>
        have hLast := hCells n (by omega)
        omega

/- Ready are those that decode and pass their own checks. -/
theorem ready_iff
    (c : Config)
    (op : Op) :
    c.Ready op ↔
      c.Decodes op ∧ first (c.operationChecks op) = none := by
  rw [decodes_iff, Ready, firstFault, checks, first_append,
    Option.or_eq_none_iff]
  constructor
  · intro hParts
    rcases hParts with ⟨⟨hDecodes, hPasses⟩, hOp⟩
    simp only [executionChecks, hOp] at hPasses
    exact ⟨⟨hDecodes, hOp⟩, hPasses⟩
  · intro hParts
    rcases hParts with ⟨⟨hDecodes, hOp⟩, hPasses⟩
    refine ⟨⟨hDecodes, ?_⟩, hOp⟩
    simp only [executionChecks, hOp]
    exact hPasses

------------------------------------------------------------
-- Rules And Checks
------------------------------------------------------------

/- An operand is read when its check passes. -/
theorem operand_iff
    {c : Config}
    {p : Nat}
    (hMode : c.modeDigit p ≤ 1)
    (v : Int) :
    c.Operand p v ↔
      c.operandFault p = none ∧ v = c.value p := by
  constructor
  · intro hOperand
    cases hOperand with
    | immediate hOne => simp [operandFault, value, hOne]
    | position hZero hCell =>
        unfold cell? at hCell
        split at hCell
        · rename_i hSign
          rcases List.getElem?_eq_some_iff.mp hCell with
            ⟨hBound, hGet⟩
          refine ⟨?_, ?_⟩
          · simp only [operandFault, hZero]
            exact
              (boundsFault_eq_none_iff c _).mpr
                ⟨hSign, by omega⟩
          · simp [value, hZero, List.getD_eq_getElem?_getD,
              hCell]
        · simp at hCell
  · intro hParts
    rcases hParts with ⟨hFault, rfl⟩
    by_cases hOne : c.modeDigit p = 1
    · rw [value, if_pos hOne]
      exact Operand.immediate hOne
    · rw [operandFault, if_neg hOne,
        boundsFault_eq_none_iff] at hFault
      rw [value, if_neg hOne]
      refine Operand.position (by omega) ?_
      rw [cell?, if_pos hFault.1,
        List.getD_eq_getElem?_getD,
        List.getElem?_eq_getElem (by omega)]
      rfl

/- A parameter names a cell when its checks pass. -/
theorem target_iff
    {c : Config}
    {p : Nat}
    (hMode : c.modeDigit p ≤ 1)
    (address : Nat) :
    c.Target p address ↔
      first [c.immediateFault p, c.boundsFault (c.raw p)] =
          none ∧
        address = (c.raw p).toNat := by
  have hChecks :
      first [c.immediateFault p, c.boundsFault (c.raw p)] =
          none ↔
        c.modeDigit p = 0 ∧ 0 ≤ c.raw p ∧
          c.raw p < c.memory.length := by
    simp only [first_cons, first_nil, Option.or_none,
      Option.or_eq_none_iff, boundsFault_eq_none_iff,
      immediateFault]
    constructor
    · intro hParts
      rcases hParts with ⟨hImmediate, hCell⟩
      split at hImmediate
      · simp at hImmediate
      · exact ⟨by omega, hCell⟩
    · intro hParts
      rcases hParts with ⟨hZero, hCell⟩
      exact ⟨by simp [hZero], hCell⟩
  rw [hChecks]
  constructor
  · intro hParts
    rcases hParts with ⟨hZero, hRaw, hCell⟩
    exact ⟨⟨hZero, by omega, by omega⟩, by omega⟩
  · intro hParts
    rcases hParts with ⟨⟨hZero, hSign, hCell⟩, rfl⟩
    exact Target.position hZero (by omega) (by omega)

/- A configuration that is ready steps to the effect. -/
theorem Ready.step
    {c : Config}
    {op : Op}
    (hReady : c.Ready op)
    (hGoes : op ≠ .halt) :
    c.Step (c.effect op) := by
  rcases (ready_iff c op).mp hReady with ⟨hDecodes, hPasses⟩
  have hModes := hDecodes.modes
  cases op with
  | halt => exact absurd rfl hGoes
  | calculate f =>
      have hMode (p : Nat) (hp : p < 3) :
          c.modeDigit p ≤ 1 := hModes p hp
      simp only [operationChecks, first_cons, first_nil,
        Option.or_none, Option.or_eq_none_iff] at hPasses
      rcases hPasses with ⟨hFirst, hSecond, hTarget⟩
      exact
        Step.calculate hDecodes
          ((operand_iff (hMode 0 (by decide)) _).mpr
            ⟨hFirst, rfl⟩)
          ((operand_iff (hMode 1 (by decide)) _).mpr
            ⟨hSecond, rfl⟩)
          ((target_iff (hMode 2 (by decide)) _).mpr
            ⟨by simp [hTarget], rfl⟩)
  | input =>
      have hMode (p : Nat) (hp : p < 1) :
          c.modeDigit p ≤ 1 := hModes p hp
      simp only [operationChecks, first_cons, first_nil,
        Option.or_none, Option.or_eq_none_iff, inputFault]
        at hPasses
      rcases hPasses with ⟨hInput, hTarget⟩
      cases hInputs : c.inputs with
      | nil => simp [hInputs] at hInput
      | cons n rest =>
          have hStep :=
            Step.input hDecodes hInputs
              ((target_iff (hMode 0 (by decide)) _).mpr
                ⟨by simp [hTarget], rfl⟩)
          simpa [effect, stored, hInputs] using hStep
  | output =>
      have hMode (p : Nat) (hp : p < 1) :
          c.modeDigit p ≤ 1 := hModes p hp
      simp only [operationChecks, first_cons, first_nil,
        Option.or_none] at hPasses
      exact
        Step.output hDecodes
          ((operand_iff (hMode 0 (by decide)) _).mpr
            ⟨hPasses, rfl⟩)
  | jump t =>
      have hMode (p : Nat) (hp : p < 2) :
          c.modeDigit p ≤ 1 := hModes p hp
      simp only [operationChecks, first_cons,
        Option.or_eq_none_iff] at hPasses
      rcases hPasses with ⟨hFirst, hJump⟩
      have hTest :=
        (operand_iff (hMode 0 (by decide)) _).mpr
          ⟨hFirst, rfl⟩
      simp only [effect]
      by_cases hHolds : t.Holds (c.value 0)
      · rw [if_pos hHolds] at hJump ⊢
        simp only [first_cons, first_nil, Option.or_none,
          Option.or_eq_none_iff, boundsFault_eq_none_iff]
          at hJump
        rcases hJump with ⟨hSecond, hSign, hCell⟩
        have hAddress :
            ((c.value 1).toNat : Int) = c.value 1 :=
          Int.toNat_of_nonneg hSign
        exact
          Step.jump hDecodes hTest hHolds
            ((operand_iff (hMode 1 (by decide)) _).mpr
              ⟨hSecond, hAddress⟩)
            (by omega)
      · rw [if_neg hHolds]
        exact Step.pass hDecodes hTest hHolds

/- Every step is the effect of an instruction that is ready. -/
theorem Step.ready
    {c c' : Config}
    (hStep : c.Step c') :
    ∃ op, c.Ready op ∧ op ≠ .halt ∧ c' = c.effect op := by
  cases hStep with
  | calculate hDecodes hFirst hSecond hTarget =>
      rename_i f a b address
      have hMode (p : Nat) (hp : p < 3) :
          c.modeDigit p ≤ 1 := hDecodes.modes p hp
      rcases (operand_iff (hMode 0 (by decide)) _).mp hFirst
        with ⟨hReadFirst, rfl⟩
      rcases (operand_iff (hMode 1 (by decide)) _).mp hSecond
        with ⟨hReadSecond, rfl⟩
      rcases (target_iff (hMode 2 (by decide)) _).mp hTarget
        with ⟨hWrite, rfl⟩
      refine
        ⟨.calculate f, (ready_iff c _).mpr ⟨hDecodes, ?_⟩,
          by simp, rfl⟩
      simp only [first_cons, first_nil, Option.or_none,
        Option.or_eq_none_iff] at hWrite
      simp [operationChecks, hReadFirst, hReadSecond, hWrite]
  | input hDecodes hInputs hTarget =>
      have hMode (p : Nat) (hp : p < 1) :
          c.modeDigit p ≤ 1 := hDecodes.modes p hp
      rcases (target_iff (hMode 0 (by decide)) _).mp
        hTarget with ⟨hWrite, rfl⟩
      refine
        ⟨.input, (ready_iff c _).mpr ⟨hDecodes, ?_⟩,
          by simp, ?_⟩
      · simp only [first_cons, first_nil, Option.or_none,
          Option.or_eq_none_iff] at hWrite
        simp [operationChecks, inputFault, hInputs, hWrite]
      · simp [effect, stored, hInputs]
  | output hDecodes hFirst =>
      have hMode (p : Nat) (hp : p < 1) :
          c.modeDigit p ≤ 1 := hDecodes.modes p hp
      rcases (operand_iff (hMode 0 (by decide)) _).mp
        hFirst with ⟨hRead, rfl⟩
      refine
        ⟨.output, (ready_iff c _).mpr ⟨hDecodes, ?_⟩,
          by simp, rfl⟩
      simp [operationChecks, hRead]
  | jump hDecodes hFirst hHolds hSecond hCell =>
      rename_i t a address
      have hMode (p : Nat) (hp : p < 2) :
          c.modeDigit p ≤ 1 := hDecodes.modes p hp
      rcases (operand_iff (hMode 0 (by decide)) _).mp hFirst
        with ⟨hReadFirst, rfl⟩
      rcases (operand_iff (hMode 1 (by decide)) _).mp hSecond
        with ⟨hReadSecond, hAddress⟩
      refine
        ⟨.jump t, (ready_iff c _).mpr ⟨hDecodes, ?_⟩,
          by simp, ?_⟩
      · simp only [operationChecks, if_pos hHolds, hReadFirst,
          hReadSecond, first_cons, first_nil, Option.or_none,
          Option.none_or, boundsFault_eq_none_iff]
        omega
      · rw [effect, if_pos hHolds, ← hAddress,
          Int.toNat_natCast]
  | pass hDecodes hFirst hFails =>
      rename_i t a
      have hMode (p : Nat) (hp : p < 2) :
          c.modeDigit p ≤ 1 := hDecodes.modes p hp
      rcases (operand_iff (hMode 0 (by decide)) _).mp
        hFirst with ⟨hRead, rfl⟩
      refine
        ⟨.jump t, (ready_iff c _).mpr ⟨hDecodes, ?_⟩,
          by simp, ?_⟩
      · simp [operationChecks, hRead, if_neg hFails]
      · rw [effect, if_neg hFails]

theorem halts_iff
    (c : Config) :
    c.Halts ↔ c.Ready .halt := by
  simp [ready_iff, Halts, operationChecks]

/- No check fails where the program halts. -/
theorem Halts.no_fault
    {c : Config}
    (hHalts : c.Halts) :
    c.firstFault = none :=
  ((halts_iff c).mp hHalts).1

/- A configuration is stuck when one of its checks fails. -/
theorem stuck_iff
    (c : Config) :
    c.Stuck ↔ ∃ f, c.firstFault = some f := by
  constructor
  · intro hParts
    rcases hParts with ⟨hRuns, hStays⟩
    rcases c.fault_or_ready with hFault | ⟨op, hReady⟩
    · exact hFault
    · by_cases hHalt : op = .halt
      · subst hHalt
        exact absurd ((halts_iff c).mpr hReady) hRuns
      · exact absurd (hReady.step hHalt) (hStays _)
  · intro hParts
    rcases hParts with ⟨f, hFault⟩
    refine ⟨?_, ?_⟩
    · intro hHalts
      rw [hHalts.no_fault] at hFault
      simp at hFault
    · intro c' hStep
      rcases hStep.ready with ⟨op, hReady, -, -⟩
      have hNone := hReady.1
      rw [hFault] at hNone
      simp at hNone

theorem Ready.unique
    {c : Config}
    {op₁ op₂ : Op}
    (hFirst : c.Ready op₁)
    (hSecond : c.Ready op₂) :
    op₁ = op₂ :=
  Option.some.inj (hFirst.2.symm.trans hSecond.2)

end Config

end Semantics

end IntcodeMachine
